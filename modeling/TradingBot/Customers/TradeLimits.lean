import Mathlib.Data.Int.Basic
import Mathlib.Algebra.GroupWithZero.Nat

/-!
# The trade limits of a customer

`core/services/customer_relation_service.py`: the limits an owner sets on the relation to a
customer, what the customer traded on a local day, and the check of a trade.

Instants are microseconds since the epoch, days are numbered from it. A time zone is the date of an
instant and the midnight a date starts with; dates are the intervals between midnights.
-/

namespace TradingBot.Customers

/-- `CustomerRelationStatus`. -/
inductive CustomerRelationStatus where
  | pending
  | active
  | expired
  | revoked
  | deleted
  deriving DecidableEq, Repr

structure CustomerTradeLimits where
  minTradeQuantity : Option Nat := none
  maxTradeQuantity : Option Nat := none
  maxDailyTrades : Option Nat := none
  maxDailyCommodityVolume : Option Nat := none
  tradingRestrictedUntil : Option Int := none
  deriving DecidableEq, Repr

/-- A row of `customer_relations` with the columns that a trade reads. -/
structure CustomerRelation where
  id : Nat
  ownerUserId : Nat
  customerUserId : Option Nat := none
  limits : CustomerTradeLimits
  status : CustomerRelationStatus := .pending
  deletedAt : Option Int := none
  deriving DecidableEq, Repr

def CustomerRelation.isActive (relation : CustomerRelation) : Bool :=
  relation.status = .active && relation.deletedAt = none

/-- `TradeStatus`. -/
inductive TradeStatus where
  | pending
  | confirmed
  | completed
  | cancelled
  deriving DecidableEq, Repr

/-- A row of `trades` with the columns that the daily usage reads. -/
structure StoredTrade where
  offerUserId : Nat
  responderUserId : Nat
  quantity : Nat
  status : TradeStatus
  createdAt : Int
  deriving DecidableEq, Repr

structure LocalZone where
  date : Int → Int
  midnight : Int → Int
  date_eq_iff : ∀ instant day, date instant = day ↔
    midnight day ≤ instant ∧ instant < midnight (day + 1)

/-- `DEFAULT_MARKET_TIMEZONE`, Asia/Tehran, at +03:30. -/
def tehran : LocalZone where
  date instant := (instant + 12600000000) / 86400000000
  midnight day := day * 86400000000 - 12600000000
  date_eq_iff := by
    intro instant day
    omega

inductive TradeLimitFailure where
  | relationRequired
  | relationNotActive
  | quantityNotPositive
  | temporarilyRestricted
  | belowMinimum
  | aboveMaximum
  | dailyTradeLimit
  | dailyVolumeLimit
  deriving DecidableEq, Repr

def TradeLimitFailure.reasonCode : TradeLimitFailure → String
  | relationRequired => "relation_required"
  | relationNotActive => "relation_not_active"
  | quantityNotPositive => "quantity_not_positive"
  | temporarilyRestricted => "temporarily_restricted"
  | belowMinimum => "below_minimum"
  | aboveMaximum => "above_maximum"
  | dailyTradeLimit => "daily_trade_limit"
  | dailyVolumeLimit => "daily_volume_limit"

def customerTradeLimitFailureCode (relation : Option CustomerRelation) (quantity : Nat)
    (tradesToday commodityVolumeToday : Nat) (now : Int) : Option TradeLimitFailure :=
  match relation with
  | none => some .relationRequired
  | some relation =>
    if relation.status ≠ .active then some .relationNotActive
    else if quantity = 0 then some .quantityNotPositive
    else if relation.limits.tradingRestrictedUntil.any fun until_ => decide (now < until_) then
      some .temporarilyRestricted
    else if relation.limits.minTradeQuantity.any fun bound => decide (quantity < bound) then
      some .belowMinimum
    else if relation.limits.maxTradeQuantity.any fun bound => decide (bound < quantity) then
      some .aboveMaximum
    else if relation.limits.maxDailyTrades.any fun bound => decide (bound ≤ tradesToday) then
      some .dailyTradeLimit
    else if relation.limits.maxDailyCommodityVolume.any
        fun bound => decide (bound < commodityVolumeToday + quantity) then
      some .dailyVolumeLimit
    else none

def customerTradeDayBounds (zone : LocalZone) (now : Int) : Int × Int :=
  (zone.midnight (zone.date now), zone.midnight (zone.date now + 1))

def relationHasCustomerTradePolicy (relation : CustomerRelation) : Bool :=
  relation.limits.tradingRestrictedUntil.isSome || relation.limits.minTradeQuantity.isSome ||
    relation.limits.maxTradeQuantity.isSome || relation.limits.maxDailyTrades.isSome ||
    relation.limits.maxDailyCommodityVolume.isSome

/-- `CustomerDailyTradeUsage`. -/
structure CustomerDailyTradeUsage where
  trades : Nat := 0
  commodityVolume : Nat := 0
  deriving DecidableEq, Repr

def countsToDay (customerUserId : Nat) (bounds : Int × Int) (trade : StoredTrade) : Bool :=
  trade.status = .completed && bounds.1 ≤ trade.createdAt && trade.createdAt < bounds.2 &&
    (trade.offerUserId = customerUserId || trade.responderUserId = customerUserId)

def loadCustomerDailyTradeUsage (trades : List StoredTrade) (customerUserId : Nat)
    (bounds : Int × Int) : CustomerDailyTradeUsage where
  trades := (trades.filter (countsToDay customerUserId bounds)).length
  commodityVolume := ((trades.filter (countsToDay customerUserId bounds)).map (·.quantity)).sum

/-- `CustomerTradeLimitViolation`. -/
structure CustomerTradeLimitViolation where
  customerUserId : Nat
  relationId : Nat
  reason : TradeLimitFailure
  deriving DecidableEq, Repr

def enforceRelation (zone : LocalZone) (relations : List CustomerRelation)
    (trades : List StoredTrade) (quantity : Nat) (now : Int) (expected : Nat × Nat) :
    Except CustomerTradeLimitViolation Unit :=
  match relations.find? fun relation => relation.id = expected.2 && relation.isActive with
  | none => .error ⟨expected.1, expected.2, .relationNotActive⟩
  | some relation =>
    if relation.customerUserId ≠ some expected.1 then
      .error ⟨expected.1, expected.2, .relationNotActive⟩
    else if relationHasCustomerTradePolicy relation = false then .ok ()
    else
      let usage := if relation.limits.maxDailyTrades.isSome ||
          relation.limits.maxDailyCommodityVolume.isSome then
        loadCustomerDailyTradeUsage trades expected.1 (customerTradeDayBounds zone now)
      else {}
      match customerTradeLimitFailureCode (some relation) quantity usage.trades
        usage.commodityVolume now with
      | some reason => .error ⟨expected.1, expected.2, reason⟩
      | none => .ok ()

def enforceCustomerTradeLimitsForTrade (zone : LocalZone) (relations : List CustomerRelation)
    (trades : List StoredTrade) (quantity : Nat) (now : Int) (expected : List (Nat × Nat)) :
    Except CustomerTradeLimitViolation Unit :=
  forM expected (enforceRelation zone relations trades quantity now)

/-! ## What the check says -/

theorem countsToDay_customerTradeDayBounds (zone : LocalZone) (customerUserId : Nat) (now : Int)
    (trade : StoredTrade) :
    countsToDay customerUserId (customerTradeDayBounds zone now) trade = true ↔
      trade.status = .completed ∧ zone.date trade.createdAt = zone.date now ∧
        (trade.offerUserId = customerUserId ∨ trade.responderUserId = customerUserId) := by
  rw [zone.date_eq_iff]
  unfold countsToDay customerTradeDayBounds
  dsimp only
  simp only [Bool.and_eq_true, Bool.or_eq_true, decide_eq_true_eq, and_assoc]

structure HasRoom (zone : LocalZone) (trades : List StoredTrade) (customerUserId : Nat)
    (limits : CustomerTradeLimits) (quantity : Nat) (now : Int) : Prop where
  minimum : ∀ bound, limits.minTradeQuantity = some bound → bound ≤ quantity
  maximum : ∀ bound, limits.maxTradeQuantity = some bound → quantity ≤ bound
  dailyTrades : ∀ bound, limits.maxDailyTrades = some bound →
    (loadCustomerDailyTradeUsage trades customerUserId (customerTradeDayBounds zone now)).trades <
      bound
  dailyVolume : ∀ bound, limits.maxDailyCommodityVolume = some bound →
    (loadCustomerDailyTradeUsage trades customerUserId
      (customerTradeDayBounds zone now)).commodityVolume + quantity ≤ bound

theorem not_of_any_eq_false {α : Type} {value : Option α} {p : α → Prop} [DecidablePred p]
    (h : ¬ (value.any fun bound => decide (p bound)) = true) :
    ∀ bound, value = some bound → ¬ p bound := by
  intro bound hbound hp
  rw [hbound] at h
  exact h (decide_eq_true hp)

variable {zone : LocalZone} {trades : List StoredTrade} {relation : CustomerRelation}
  {quantity customerUserId : Nat} {now : Int} {relations : List CustomerRelation}

theorem hasRoom_of_no_failure (h : customerTradeLimitFailureCode (some relation) quantity
      (loadCustomerDailyTradeUsage trades customerUserId (customerTradeDayBounds zone now)).trades
      (loadCustomerDailyTradeUsage trades customerUserId
        (customerTradeDayBounds zone now)).commodityVolume now = none) :
    HasRoom zone trades customerUserId relation.limits quantity now := by
  unfold customerTradeLimitFailureCode at h
  dsimp only at h
  split at h
  · cases h
  · split at h
    · cases h
    · split at h
      · cases h
      · split at h
        · cases h
        · rename_i hmin
          split at h
          · cases h
          · rename_i hmax
            split at h
            · cases h
            · rename_i htrades
              split at h
              · cases h
              · rename_i hvolume
                exact {
                  minimum := fun bound hbound =>
                    Nat.le_of_not_lt (not_of_any_eq_false hmin bound hbound)
                  maximum := fun bound hbound =>
                    Nat.le_of_not_lt (not_of_any_eq_false hmax bound hbound)
                  dailyTrades := fun bound hbound =>
                    Nat.lt_of_not_le (not_of_any_eq_false htrades bound hbound)
                  dailyVolume := fun bound hbound =>
                    Nat.le_of_not_lt (not_of_any_eq_false hvolume bound hbound) }

theorem hasRoom_of_no_policy (h : relationHasCustomerTradePolicy relation = false) :
    HasRoom zone trades customerUserId relation.limits quantity now := by
  simp only [relationHasCustomerTradePolicy, Bool.or_eq_false_iff, Option.isSome_eq_false_iff,
    Option.isNone_iff_eq_none] at h
  obtain ⟨⟨⟨⟨-, hmin⟩, hmax⟩, htrades⟩, hvolume⟩ := h
  constructor
  · intro bound hbound
    rw [hmin] at hbound
    cases hbound
  · intro bound hbound
    rw [hmax] at hbound
    cases hbound
  · intro bound hbound
    rw [htrades] at hbound
    cases hbound
  · intro bound hbound
    rw [hvolume] at hbound
    cases hbound

theorem customerTradeLimitFailureCode_no_daily (htrades : relation.limits.maxDailyTrades = none)
    (hvolume : relation.limits.maxDailyCommodityVolume = none) (usage other : CustomerDailyTradeUsage) :
    customerTradeLimitFailureCode (some relation) quantity usage.trades usage.commodityVolume now =
      customerTradeLimitFailureCode (some relation) quantity other.trades other.commodityVolume
        now := by
  simp only [customerTradeLimitFailureCode, htrades, hvolume, Option.any_none]

theorem enforceRelation_ok {expected : Nat × Nat}
    (h : enforceRelation zone relations trades quantity now expected = .ok ()) :
    ∃ relation ∈ relations, relation.id = expected.2 ∧ relation.isActive = true ∧
      relation.customerUserId = some expected.1 ∧
      HasRoom zone trades expected.1 relation.limits quantity now := by
  unfold enforceRelation at h
  split at h
  · cases h
  · rename_i relation hfind
    have hmem := List.mem_of_find?_eq_some hfind
    have hcond := List.find?_some hfind
    simp only [Bool.and_eq_true, decide_eq_true_eq] at hcond
    split at h
    · cases h
    · rename_i hcustomer
      refine ⟨relation, hmem, hcond.1, hcond.2, not_not.mp hcustomer, ?_⟩
      split at h
      · rename_i hpolicy
        exact hasRoom_of_no_policy hpolicy
      · dsimp only at h
        split at h
        · cases h
        · rename_i hnone
          refine hasRoom_of_no_failure ?_
          by_cases hdaily : (relation.limits.maxDailyTrades.isSome ||
              relation.limits.maxDailyCommodityVolume.isSome) = true
          · rw [if_pos hdaily] at hnone
            exact hnone
          · simp only [Bool.or_eq_true, not_or, Bool.not_eq_true, Option.isSome_eq_false_iff,
              Option.isNone_iff_eq_none] at hdaily
            rw [customerTradeLimitFailureCode_no_daily hdaily.1 hdaily.2]
            exact hnone

theorem enforceCustomerTradeLimitsForTrade_ok {expected : List (Nat × Nat)}
    (h : enforceCustomerTradeLimitsForTrade zone relations trades quantity now expected = .ok ()) :
    ∀ item ∈ expected, enforceRelation zone relations trades quantity now item = .ok () := by
  unfold enforceCustomerTradeLimitsForTrade at h
  induction expected with
  | nil => exact nofun
  | cons item rest ih =>
    rw [List.forM_cons] at h
    cases hitem : enforceRelation zone relations trades quantity now item with
    | error error =>
      rw [hitem] at h
      cases h
    | ok _ =>
      rw [hitem] at h
      exact List.forall_mem_cons.mpr ⟨hitem, ih h⟩

end TradingBot.Customers
