import TradingBot.Misc.PyValue
import TradingBot.Offer.Model
import Mathlib.Data.List.Sort
import Mathlib.Algebra.Ring.Int.Defs

/-!
# Lots and trade amounts

`src/core/services/trade_service.py` (lot validation and the amounts an offer can be traded in) and
the mutation of a trade (`src/api/routers/trades.py`, `_apply_offer_trade_mutation`). `_ensure_int`
is the identity on the integers of the request schemas and the columns. The lots are a JSON column,
which may hold any numbers and texts.
-/

namespace TradingBot

open Misc

/-- `Union[int, float, str]`; a float is finite. -/
inductive NumberInput where
  | int (value : Int)
  | float (value : Rat)
  | text (value : String)
  deriving DecidableEq, Repr

/-- Line 35; none is its `TypeError`. -/
def ensureInt : NumberInput → Option Int
  | .int value => some value
  | .float value => if value = value.floor then some value.floor else none
  | .text value => intOfText value

/-- The text of the `TypeError`. -/
def notIntegerMessage (name : String) : NumberInput → String
  | .float _ => name ++ " باید یک عدد صحیح باشد، نه اعشاری"
  | _ => name ++ " باید یک عدد صحیح باشد"

def ensureIntList (values : List NumberInput) : Option (List Int) := values.mapM ensureInt

/-- `sorted(values, reverse=True)`. -/
def sortedDescending (values : List Int) : List Int := values.mergeSort (fun a b => b ≤ a)

/-- `suggest_lot_combination` takes the excess off the largest lots first (line 131). -/
def reduceLots (minLot : Int) : Int → List Int → List Int
  | _, [] => []
  | excess, lot :: rest =>
    let reduction := min (max 0 (lot - minLot)) excess
    if excess - reduction = 0 then (lot - reduction) :: rest
    else (lot - reduction) :: reduceLots minLot (excess - reduction) rest

/-- `suggested[0] += diff`. -/
def addToFirst (diff : Int) : List Int → List Int
  | [] => []
  | lot :: rest => (lot + diff) :: rest

def suggestLotCombination (settings : TradingSettings) (total : Int) (userLots : List Int) :
    Option (List Int) :=
  if userLots = [] then none
  else if userLots.sum = total then some (sortedDescending userLots)
  else
    let diff := total - userLots.sum
    let moved := if 0 < diff then addToFirst diff (sortedDescending userLots)
      else reduceLots settings.lotMinSize (-diff) (sortedDescending userLots)
    let suggested := moved.filter (fun lot => settings.lotMinSize ≤ lot)
    if suggested.sum ≠ total then none else some (sortedDescending suggested)

/-- `validate_lot_sizes` accepts the lots, or returns an error with an optional suggestion. -/
inductive LotCheck where
  | accepted (lots : List Int)
  | rejected (message : String) (suggested : Option (List Int))
  deriving DecidableEq, Repr

def validateLotSizes (settings : TradingSettings) (total : Int) (lotSizes : List Int) : LotCheck :=
  if settings.lotMaxCount < lotSizes.length then
    .rejected ("❌ حداکثر " ++ toString settings.lotMaxCount ++ " بخش مجاز است.") none
  else match lotSizes.find? (fun lot => lot < settings.lotMinSize) with
  | some lot =>
    .rejected ("❌ حداقل تعداد باید " ++ toString settings.lotMinSize ++
      " باشد (بخش نامعتبر: " ++ toString lot ++ ")") none
  | none =>
    if lotSizes.sum ≠ total then
      let mismatch := "❌ جمع ترکیب (" ++ toString lotSizes.sum ++ ") با کل (" ++
        toString total ++ ") برابر نیست."
      match suggestLotCombination settings total lotSizes with
      | some (lot :: rest) =>
        .rejected (mismatch ++ "\n\n💡 پیشنهاد: " ++
          String.intercalate " " ((lot :: rest).map toString)) (some (lot :: rest))
      | _ => .rejected mismatch none
    else .accepted lotSizes

/-- The loop of `get_available_trade_amounts`: a lot is offered once, when positive and within the
remainder; `seen` is the collected amounts. -/
def collectAmounts (remaining : Int) : List Int → List Int → List Int
  | available, [] => available
  | available, lot :: rest =>
    if lot ≤ 0 ∨ remaining < lot ∨ lot ∈ available then collectAmounts remaining available rest
    else collectAmounts remaining (available ++ [lot]) rest

def getAvailableTradeAmounts (quantity : Int) (remainingQuantity : Option Int)
    (isWholesale : Bool) (lotSizes : Option (List NumberInput)) : List Int :=
  let remaining := remainingQuantity.getD quantity
  if remaining ≤ 0 then []
  else if isWholesale ∨ lotSizes.getD [] = [] then [remaining]
  else match ensureIntList (lotSizes.getD []) with
  | none => []
  | some lots => sortedDescending (collectAmounts remaining [remaining] lots)

def invalidAmountMessage : String := "تعداد معامله نامعتبر است."

def lotGoneMessage : String := "این لات دیگر موجود نیست."

def amountAboveRemainderMessage (remaining : Int) : String :=
  "تعداد درخواستی بیشتر از موجودی است. موجودی: " ++ toString remaining

/-- The four values `validate_offer_trade_amount` returns. -/
structure TradeAmountCheck where
  valid : Bool
  message : String
  amount : Int
  availableAmounts : List Int
  deriving DecidableEq, Repr

def validateOfferTradeAmount (quantity : Int) (remainingQuantity : Option Int)
    (isWholesale : Bool) (lotSizes : Option (List NumberInput)) (requested : Int) :
    TradeAmountCheck :=
  let remaining := remainingQuantity.getD quantity
  if requested ≤ 0 then ⟨false, invalidAmountMessage, requested, []⟩
  else if remaining < requested then
    ⟨false, amountAboveRemainderMessage remaining, requested, []⟩
  else
    let available := getAvailableTradeAmounts quantity (some remaining) isWholesale lotSizes
    if requested ∈ available then ⟨true, "", requested, available⟩
    else if isWholesale ∨ lotSizes.getD [] = [] then
      ⟨false, amountAboveRemainderMessage remaining, requested, available⟩
    else ⟨false, lotGoneMessage, requested, available⟩

/-- `validate_offer_trade_amount` on the columns of an offer row with integer lots. -/
def Offer.checkTradeAmount (offer : Offer) (requested : Int) : TradeAmountCheck :=
  validateOfferTradeAmount offer.quantity offer.remainingQuantity offer.isWholesale
    (offer.lotSizes.map (·.map .int)) requested

/-- `None -= n` is a type error, the other two are `TradeAtomicityError`s. -/
inductive TradeMutationError where
  | typeError
  | atomicity (message : String)
  deriving DecidableEq, Repr

/-- `_apply_offer_trade_mutation` (trades.py:479): the offer and whether its lots changed. -/
def applyOfferTradeMutation (offer : Offer) (tradeQuantity : Int) :
    Except TradeMutationError (Offer × Bool) :=
  match offer.remainingQuantity with
  | none => .error .typeError
  | some before =>
    let remaining := before - tradeQuantity
    if remaining < 0 then .error (.atomicity "موجودی این لفظ برای انجام معامله کافی نیست.")
    else
      let reduced := { offer with remainingQuantity := some remaining }
      if remaining ≤ 0 then
        .ok ({ reduced with lotSizes := none, status := .completed }, offer.lotSizes.isSome)
      else match offer.lotSizes with
      | none => .ok (reduced, false)
      | some [] => .ok (reduced, false)
      | some lots =>
        if tradeQuantity ∈ lots then
          let left := lots.erase tradeQuantity
          .ok ({ reduced with lotSizes := if left = [] then none else some left }, true)
        else if offer.isWholesale then .ok (reduced, false)
        else .error (.atomicity lotGoneMessage)

end TradingBot
