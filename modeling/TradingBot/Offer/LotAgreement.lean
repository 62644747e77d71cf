import TradingBot.Offer.LotSuggestions

/-!
# Where the lot functions meet

Functions of `src/core/services/trade_service.py` that must agree: the default lots
(`generate_default_lots`) with the check of a lot list, and the check of a traded amount with the
change the trade then makes (`_apply_offer_trade_mutation`, `src/api/routers/trades.py`). Each reads
the settings and the columns for itself.
-/

namespace TradingBot

open Misc

def generateDefaultLots (settings : TradingSettings) (quantity : NumberInput) :
    Option (List Int) :=
  match ensureInt quantity with
  | none => none
  | some quantity =>
    if settings.offerMinQuantity * 6 ≤ quantity then
      let lot1 := quantity / 3
      let lot2 := quantity / 3
      some (sortedDescending [lot1, lot2, quantity - lot1 - lot2])
    else if 2 * settings.lotMinSize ≤ quantity then
      let lot1 := quantity / 2
      some (sortedDescending [lot1, quantity - lot1])
    else some [quantity]

def validateQuantity (settings : TradingSettings) (quantity : NumberInput) : Except String Unit :=
  match ensureInt quantity with
  | none => .error ("❌ " ++ notIntegerMessage "quantity" quantity)
  | some quantity =>
    if quantity < settings.offerMinQuantity then
      .error ("❌ تعداد باید حداقل " ++ toString settings.offerMinQuantity ++ " باشد.")
    else if settings.offerMaxQuantity < quantity then
      .error ("❌ تعداد نمی‌تواند بیشتر از " ++ toString settings.offerMaxQuantity ++ " باشد.")
    else .ok ()

/-- `validate_lot_sizes` of a total as it is handed in. -/
def validateLotSizesOf (settings : TradingSettings) (total : NumberInput) (lotSizes : List Int) :
    LotCheck :=
  match ensureInt total with
  | none => .rejected ("❌ " ++ notIntegerMessage "total" total) none
  | some total => validateLotSizes settings total lotSizes

variable {settings : TradingSettings} {lots : List NumberInput}

theorem validateQuantity_ok {quantity : NumberInput}
    (h : validateQuantity settings quantity = .ok ()) :
    ∃ total, ensureInt quantity = some total ∧ settings.offerMinQuantity ≤ total ∧
      total ≤ settings.offerMaxQuantity := by
  unfold validateQuantity at h
  cases htotal : ensureInt quantity with
  | none =>
    rw [htotal] at h
    cases h
  | some total =>
    rw [htotal] at h
    dsimp only at h
    by_cases hlow : total < settings.offerMinQuantity
    · rw [if_pos hlow] at h
      cases h
    · rw [if_neg hlow] at h
      by_cases hhigh : settings.offerMaxQuantity < total
      · rw [if_pos hhigh] at h
        cases h
      · exact ⟨total, rfl, Int.not_lt.mp hlow, Int.not_lt.mp hhigh⟩

theorem validateLotSizes_sorted {total : Int} {lots : List Int}
    (hcount : lots.length ≤ settings.lotMaxCount) (hmin : AtLeast settings.lotMinSize lots)
    (hsum : lots.sum = total) :
    (sortedDescending lots).sum = total ∧
      validateLotSizes settings total (sortedDescending lots) =
        .accepted (sortedDescending lots) := by
  have hsame : (sortedDescending lots).sum = total := by
    rw [sum_sortedDescending, hsum]
  refine ⟨hsame, validateLotSizes_of_sum ?_ (atLeast_sortedDescending hmin) hsame⟩
  rw [length_sortedDescending]
  exact hcount

/-- The default lots of an accepted quantity sum to it and pass the check. A negative minimum, which
the settings admit, does no harm: a third of the quantity is still above it. -/
theorem default_lots_accepted (settings : TradingSettings) (quantity : NumberInput)
    (lots : List Int) (hquantity : validateQuantity settings quantity = .ok ())
    (hlots : generateDefaultLots settings quantity = some lots) :
    some lots.sum = ensureInt quantity ∧
      validateLotSizesOf settings quantity lots = .accepted lots := by
  obtain ⟨total, htotal, hlow, _⟩ := validateQuantity_ok hquantity
  have hmin : settings.lotMinSize = settings.offerMinQuantity := rfl
  suffices hgood : lots.sum = total ∧ validateLotSizes settings total lots = .accepted lots by
    unfold validateLotSizesOf
    rw [htotal, hgood.1]
    exact ⟨rfl, hgood.2⟩
  unfold generateDefaultLots at hlots
  rw [htotal] at hlots
  dsimp only at hlots
  by_cases hthree : settings.offerMinQuantity * 6 ≤ total
  · rw [if_pos hthree] at hlots
    injection hlots with hlots
    subst hlots
    apply validateLotSizes_sorted
    · exact le_refl 3
    · intro lot hlot
      simp only [List.mem_cons, List.not_mem_nil, or_false] at hlot
      omega
    · simp only [List.sum_cons, List.sum_nil]
      omega
  · rw [if_neg hthree] at hlots
    by_cases htwo : 2 * settings.lotMinSize ≤ total
    · rw [if_pos htwo] at hlots
      injection hlots with hlots
      subst hlots
      apply validateLotSizes_sorted
      · exact Nat.le_succ 2
      · intro lot hlot
        simp only [List.mem_cons, List.not_mem_nil, or_false] at hlot
        omega
      · simp only [List.sum_cons, List.sum_nil]
        omega
    · rw [if_neg htwo] at hlots
      injection hlots with hlots
      subst hlots
      have hsum : ([total] : List Int).sum = total := List.sum_singleton
      refine ⟨hsum, validateLotSizes_of_sum (Nat.le_of_ble_eq_true rfl) ?_ hsum⟩
      intro lot hlot
      rw [List.mem_singleton.mp hlot]
      omega

theorem thirty_one_default_lots :
    ∃ lots, generateDefaultLots {} (.int 31) = some lots ∧ lots.sum = 31 ∧
      validateLotSizesOf {} (.int 31) lots = .accepted lots := by
  refine ⟨_, rfl, ?_⟩
  obtain ⟨hsum, haccepted⟩ := default_lots_accepted {} (.int 31) _ (by decide) rfl
  exact ⟨Option.some.inj hsum, haccepted⟩

/-- The columns of an offer that a trade reads and writes; the lots are any list. -/
structure TradeColumns where
  quantity : Int
  remainingQuantity : Option Int
  isWholesale : Bool
  lotSizes : Option (List NumberInput)
  status : OfferStatus
  deriving DecidableEq, Repr

namespace TradeColumns

/-- `validate_offer_trade_amount` on the columns. -/
def checkTradeAmount (columns : TradeColumns) (requested : Int) : TradeAmountCheck :=
  validateOfferTradeAmount columns.quantity columns.remainingQuantity columns.isWholesale
    columns.lotSizes requested

/-- `amount == lot`: a text is no number. -/
def isLot (amount : Int) : NumberInput → Bool
  | .int value => value = amount
  | .float value => value = amount
  | .text _ => false

/-- `_apply_offer_trade_mutation` (trades.py:479) on the columns. -/
def applyTradeMutation (columns : TradeColumns) (tradeQuantity : Int) :
    Except TradeMutationError (TradeColumns × Bool) :=
  match columns.remainingQuantity with
  | none => .error .typeError
  | some before =>
    let remaining := before - tradeQuantity
    if remaining < 0 then .error (.atomicity "موجودی این لفظ برای انجام معامله کافی نیست.")
    else
      let reduced := { columns with remainingQuantity := some remaining }
      if remaining ≤ 0 then
        .ok ({ reduced with lotSizes := none, status := .completed }, columns.lotSizes.isSome)
      else match columns.lotSizes with
      | none => .ok (reduced, false)
      | some [] => .ok (reduced, false)
      | some lots =>
        if lots.any (isLot tradeQuantity) then
          let left := lots.eraseP (isLot tradeQuantity)
          .ok ({ reduced with lotSizes := if left = [] then none else some left }, true)
        else if columns.isWholesale then .ok (reduced, false)
        else .error (.atomicity lotGoneMessage)

end TradeColumns

def Offer.columns (offer : Offer) : TradeColumns :=
  ⟨offer.quantity, offer.remainingQuantity, offer.isWholesale,
    offer.lotSizes.map (·.map .int), offer.status⟩

theorem any_isLot_int (amount : Int) (lots : List Int) :
    (lots.map NumberInput.int).any (TradeColumns.isLot amount) = decide (amount ∈ lots) := by
  induction lots with
  | nil => rfl
  | cons lot lots ih =>
    rw [List.map_cons, List.any_cons, ih]
    simp [TradeColumns.isLot, eq_comm]

theorem eraseP_isLot_int (amount : Int) (lots : List Int) :
    (lots.map NumberInput.int).eraseP (TradeColumns.isLot amount) =
      (lots.erase amount).map .int := by
  induction lots with
  | nil => rfl
  | cons lot lots ih =>
    by_cases hlot : lot = amount
    · simp [TradeColumns.isLot, hlot]
    · have hother : (lot == amount) = false := beq_false_of_ne hlot
      simp [TradeColumns.isLot, hlot, hother, ih]

/-- On integer lots the columns change as the row does. -/
theorem columns_applyOfferTradeMutation (offer : Offer) (amount : Int) :
    (applyOfferTradeMutation offer amount).map (fun result => (result.1.columns, result.2)) =
      offer.columns.applyTradeMutation amount := by
  unfold applyOfferTradeMutation TradeColumns.applyTradeMutation
  cases hset : offer.remainingQuantity with
  | none => simp [Offer.columns, hset, Except.map]
  | some before =>
    simp only [Offer.columns, hset]
    by_cases hbelow : before - amount < 0
    · simp [hbelow, Except.map]
    · by_cases hall : before - amount ≤ 0
      · simp [hbelow, hall, Except.map]
      · rcases hlots : offer.lotSizes with _ | (_ | ⟨lot, lots⟩)
        · simp [hbelow, hall, Except.map]
        · simp [hbelow, hall, Except.map]
        · have hany := any_isLot_int amount (lot :: lots)
          have herase := eraseP_isLot_int amount (lot :: lots)
          simp only [hbelow, hall, if_false, Option.map_some, List.map_cons] at hany herase ⊢
          rw [hany, herase]
          by_cases hmem : amount ∈ lot :: lots
          · rw [if_pos hmem, if_pos (decide_eq_true hmem)]
            simp only [Except.map, List.map_eq_nil_iff]
            by_cases hleft : (lot :: lots).erase amount = []
            · simp [hleft]
            · simp [hleft]
          · simp only [hmem, decide_false, Bool.false_eq_true, if_false]
            by_cases hwhole : offer.isWholesale = true
            · simp [hwhole, Except.map]
            · simp [hwhole, Except.map]

/-! ### What the check accepts -/

theorem ensureIntList_eq_none :
    ensureIntList lots = none ↔ ∃ lot ∈ lots, ensureInt lot = none := by
  unfold ensureIntList
  induction lots with
  | nil => simp
  | cons lot lots ih =>
    cases hlot : ensureInt lot with
    | none => simp [hlot]
    | some number =>
      have hrest : (lot :: lots).mapM ensureInt = none ↔ lots.mapM ensureInt = none := by
        cases hread : lots.mapM ensureInt <;> simp [hlot, hread]
      rw [hrest, ih]
      simp [hlot]

theorem mem_ensureIntList {numbers : List Int}
    (h : ensureIntList lots = some numbers) {number : Int} :
    number ∈ numbers ↔ ∃ lot ∈ lots, ensureInt lot = some number := by
  unfold ensureIntList at h
  induction lots generalizing numbers with
  | nil =>
    cases h
    simp
  | cons lot lots ih =>
    rw [List.mapM_cons] at h
    obtain ⟨first, hfirst, h⟩ := Option.bind_eq_some_iff.mp h
    obtain ⟨rest, hrest, h⟩ := Option.bind_eq_some_iff.mp h
    cases h
    simp [ih hrest, hfirst, eq_comm]

theorem mem_collectAmounts_of_lot {remaining x : Int} (hpos : 0 < x) (hle : x ≤ remaining) :
    ∀ {lots available : List Int}, x ∈ lots → x ∈ collectAmounts remaining available lots := by
  intro lots
  induction lots with
  | nil => intro available h; cases h
  | cons lot rest ih =>
    intro available h
    unfold collectAmounts
    rcases List.mem_cons.mp h with rfl | hrest
    · split
      · rename_i hskip
        rcases hskip with hskip | hskip | hskip
        · omega
        · omega
        · exact mem_collectAmounts_of_mem _ hskip
      · exact mem_collectAmounts_of_mem _ (by simp)
    · split
      · exact ih hrest
      · exact ih hrest

section Amounts

variable {columns : TradeColumns} {remaining amount : Int}

/-- The remainder is offered unless a retail lot is no integer. -/
theorem remaining_mem_available (hpos : 0 < remaining) (hlots : columns.isWholesale = true ∨
      ∀ lot ∈ columns.lotSizes.getD [], ensureInt lot ≠ none) :
    remaining ∈ getAvailableTradeAmounts columns.quantity (some remaining) columns.isWholesale
      columns.lotSizes := by
  unfold getAvailableTradeAmounts
  simp only [Option.getD_some]
  rw [if_neg (by omega)]
  split
  · exact List.mem_singleton_self _
  · rename_i hretail
    cases hread : ensureIntList (columns.lotSizes.getD []) with
    | none =>
      obtain ⟨lot, hlot, hnone⟩ := ensureIntList_eq_none.mp hread
      rcases hlots with hwhole | hall
      · exact absurd (.inl hwhole) hretail
      · exact absurd hnone (hall lot hlot)
    | some numbers =>
      exact mem_sortedDescending.mpr (mem_collectAmounts_of_mem _ (List.mem_singleton_self _))

/-- Another amount that is offered is one of the lots of a retail offer, which are all integers. -/
theorem lot_of_mem_available (hne : amount ≠ remaining)
    (h : amount ∈ getAvailableTradeAmounts columns.quantity (some remaining) columns.isWholesale
      columns.lotSizes) :
    columns.isWholesale = false ∧ (∀ lot ∈ columns.lotSizes.getD [], ensureInt lot ≠ none) ∧
      ∃ lot ∈ columns.lotSizes.getD [], ensureInt lot = some amount := by
  unfold getAvailableTradeAmounts at h
  simp only [Option.getD_some] at h
  split at h
  · cases h
  · split at h
    · exact absurd (List.mem_singleton.mp h) hne
    · rename_i hretail
      have hwhole : columns.isWholesale = false := by simpa using fun hw => hretail (.inl hw)
      cases hread : ensureIntList (columns.lotSizes.getD []) with
      | none =>
        rw [hread] at h
        cases h
      | some numbers =>
        rw [hread] at h
        refine ⟨hwhole, fun lot hlot hnone => ?_, (mem_ensureIntList hread).mp ?_⟩
        · rw [ensureIntList_eq_none.mpr ⟨lot, hlot, hnone⟩] at hread
          cases hread
        · rcases mem_collectAmounts (mem_sortedDescending.mp h) with hfirst | hlot
          · exact absurd (List.mem_singleton.mp hfirst) hne
          · exact hlot

theorem lot_mem_available (hpos : 0 < amount) (hle : amount ≤ remaining)
    (hretail : columns.isWholesale = false)
    (hall : ∀ lot ∈ columns.lotSizes.getD [], ensureInt lot ≠ none) {lot : NumberInput}
    (hlot : lot ∈ columns.lotSizes.getD []) (hread : ensureInt lot = some amount) :
    amount ∈ getAvailableTradeAmounts columns.quantity (some remaining) columns.isWholesale
      columns.lotSizes := by
  have hsome : columns.lotSizes.getD [] ≠ [] := List.ne_nil_of_mem hlot
  unfold getAvailableTradeAmounts
  simp only [Option.getD_some]
  rw [if_neg (by omega), if_neg (by simp [hretail, hsome])]
  cases hnumbers : ensureIntList (columns.lotSizes.getD []) with
  | none =>
    obtain ⟨other, hother, hnone⟩ := ensureIntList_eq_none.mp hnumbers
    exact absurd hnone (hall other hother)
  | some numbers =>
    exact mem_sortedDescending.mpr (mem_collectAmounts_of_lot hpos hle
      ((mem_ensureIntList hnumbers).mpr ⟨lot, hlot, hread⟩))

theorem checkTradeAmount_valid_iff :
    (columns.checkTradeAmount amount).valid = true ↔ 0 < amount ∧
      amount ≤ columns.remainingQuantity.getD columns.quantity ∧
      amount ∈ getAvailableTradeAmounts columns.quantity
        (some (columns.remainingQuantity.getD columns.quantity)) columns.isWholesale
        columns.lotSizes := by
  unfold TradeColumns.checkTradeAmount validateOfferTradeAmount
  dsimp only
  by_cases hpos : amount ≤ 0
  · simp [hpos]
  · by_cases habove : columns.remainingQuantity.getD columns.quantity < amount
    · simp [hpos, habove]
    · rw [if_neg hpos, if_neg habove]
      split
      · simp_all
      · split <;> simp_all

end Amounts

/-! ### Where the change follows the check -/

namespace TradeColumns

def OffersNone (columns : TradeColumns) : Prop :=
  columns.isWholesale = false ∧ ∃ lot ∈ columns.lotSizes.getD [], ensureInt lot = none

/-- The remainder is set, and a retail lot below it written as a text stands in the list as a number
too; or nothing is offered. -/
def Applies (columns : TradeColumns) : Prop :=
  columns.OffersNone ∨ match columns.remainingQuantity with
  | none => columns.quantity ≤ 0
  | some remaining => columns.isWholesale = true ∨ ∀ value lot,
      NumberInput.text value ∈ columns.lotSizes.getD [] → intOfText value = some lot → 0 < lot →
        lot < remaining → (columns.lotSizes.getD []).any (isLot lot) = true

variable {lot : NumberInput}

theorem isLot_of_ensureInt {amount : Int} (h : ensureInt lot = some amount)
    (htext : ∀ value, lot ≠ .text value) : isLot amount lot = true := by
  cases lot with
  | int value => simpa [ensureInt, isLot] using h
  | float value =>
    simp only [ensureInt] at h
    split at h
    · rename_i hwhole
      injection h with h
      simp only [isLot, decide_eq_true_eq]
      rw [hwhole, h]
    · cases h
  | text value => exact absurd rfl (htext value)

theorem applyTradeMutation_rest {columns : TradeColumns} {remaining amount : Int}
    (hset : columns.remainingQuantity = some remaining) (hbelow : amount < remaining)
    (hlot : lot ∈ columns.lotSizes.getD []) (hretail : columns.isWholesale = false) :
    (∃ result, columns.applyTradeMutation amount = .ok result) ↔
      (columns.lotSizes.getD []).any (isLot amount) = true := by
  unfold applyTradeMutation
  simp only [hset]
  rw [if_neg (by omega), if_neg (by omega)]
  rcases hlots : columns.lotSizes with _ | (_ | ⟨first, rest⟩)
  · rw [hlots] at hlot
    cases hlot
  · rw [hlots] at hlot
    cases hlot
  · simp only [Option.getD_some, hretail, Bool.false_eq_true, if_false]
    by_cases hany : (first :: rest).any (isLot amount) = true
    · simp only [hany, if_true, iff_true]
      exact ⟨_, rfl⟩
    · simp [hany]

theorem applyTradeMutation_whole {columns : TradeColumns} {remaining : Int}
    (hset : columns.remainingQuantity = some remaining) :
    ∃ result, columns.applyTradeMutation remaining = .ok result := by
  unfold applyTradeMutation
  simp only [hset]
  rw [if_neg (by omega), if_pos (by omega)]
  exact ⟨_, rfl⟩

end TradeColumns

/-- Every amount that passes the check can be taken off the offer exactly when `Applies` holds. -/
theorem accepted_amounts_apply_iff (columns : TradeColumns) :
    (∀ amount, (columns.checkTradeAmount amount).valid = true →
      ∃ result, columns.applyTradeMutation amount = .ok result) ↔ columns.Applies := by
  constructor
  · intro happly
    by_cases hnone : columns.OffersNone
    · exact .inl hnone
    have hlots : columns.isWholesale = true ∨
        ∀ lot ∈ columns.lotSizes.getD [], ensureInt lot ≠ none := by
      by_cases hwhole : columns.isWholesale = true
      · exact .inl hwhole
      · refine .inr fun lot hlot hread => hnone ⟨by simpa using hwhole, lot, hlot, hread⟩
    refine .inr ?_
    cases hset : columns.remainingQuantity with
    | none =>
      by_contra hpos
      have hvalid : (columns.checkTradeAmount columns.quantity).valid = true ↔ _ :=
        checkTradeAmount_valid_iff
      rw [hset, Option.getD_none] at hvalid
      obtain ⟨result, hresult⟩ := happly _ (hvalid.mpr ⟨by omega, le_refl _,
        remaining_mem_available (by omega) hlots⟩)
      unfold TradeColumns.applyTradeMutation at hresult
      rw [hset] at hresult
      cases hresult
    | some remaining =>
      dsimp only
      rcases hlots with hwhole | hall
      · exact .inl hwhole
      by_cases hwhole : columns.isWholesale = true
      · exact .inl hwhole
      have hretail : columns.isWholesale = false := by simpa using hwhole
      refine .inr fun value lot htext hread hpos hbelow => ?_
      have hvalid : (columns.checkTradeAmount lot).valid = true ↔ _ := checkTradeAmount_valid_iff
      rw [hset, Option.getD_some] at hvalid
      exact (TradeColumns.applyTradeMutation_rest hset hbelow htext hretail).mp (happly lot
        (hvalid.mpr ⟨hpos, hbelow.le, lot_mem_available hpos hbelow.le hretail hall htext hread⟩))
  · intro hcondition amount hvalid
    obtain ⟨hpos, hle, hmem⟩ := checkTradeAmount_valid_iff.mp hvalid
    have hkind := fun hne => lot_of_mem_available hne hmem
    have hsome : ¬ columns.OffersNone := by
      rintro ⟨hretail, lot, hlot, hread⟩
      unfold getAvailableTradeAmounts at hmem
      have hcons : columns.lotSizes.getD [] ≠ [] := List.ne_nil_of_mem hlot
      simp only [Option.getD_some, hretail, hcons, Bool.false_eq_true, or_self, if_false,
        ensureIntList_eq_none.mpr ⟨lot, hlot, hread⟩] at hmem
      split at hmem <;> cases hmem
    rcases hcondition with hnone | hcondition
    · exact absurd hnone hsome
    cases hset : columns.remainingQuantity with
    | none =>
      rw [hset] at hcondition hle
      rw [Option.getD_none] at hle
      dsimp only at hcondition
      omega
    | some remaining =>
      rw [hset, Option.getD_some] at hle hkind
      rw [hset] at hcondition
      by_cases hwhole : amount = remaining
      · exact hwhole ▸ TradeColumns.applyTradeMutation_whole hset
      · obtain ⟨hretail, hall, lot, hlot, hread⟩ := hkind hwhole
        refine (TradeColumns.applyTradeMutation_rest hset (by omega) hlot hretail).mpr ?_
        by_cases htext : ∃ value, lot = .text value
        · obtain ⟨value, rfl⟩ := htext
          rcases hcondition with hcondition | hcondition
          · rw [hretail] at hcondition
            cases hcondition
          · exact hcondition value amount hlot hread hpos (by omega)
        · exact List.any_eq_true.mpr ⟨lot, hlot, TradeColumns.isLot_of_ensureInt hread
            fun value hvalue => htext ⟨value, hvalue⟩⟩

/-- A wholesale offer of ten whose remainder was never set. -/
def unsetColumns : TradeColumns := ⟨10, none, true, none, .active⟩

theorem unset_remainder_raises :
    (unsetColumns.checkTradeAmount 10).valid = true ∧
      unsetColumns.applyTradeMutation 10 = .error .typeError := by
  decide

end TradingBot
