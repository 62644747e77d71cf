import Mathlib.Tactic.FieldSimp
import TradingBot.Customers.TradeLimits
import TradingBot.Misc.Decimal
import TradingBot.Trades.Execute

/-!
# Commissioned prices

A tier-2 customer trades at the offer's price moved by the commission rate of its relation and
rounded to a unit of 100 against the customer (`apply_customer_commission`,
src/core/services/customer_relation_service.py:1079). The arithmetic is decimal with 28 digits:
exact for as few digits as the columns `BigInteger` and `Numeric(5, 2)` have.
-/

namespace TradingBot.Customers

open TradingBot.Misc

def contextDigits : ℕ := 28

def decimal (x : ℚ) : ℚ := roundDigits contextDigits x

/-- `PRICE_ROUNDING_UNIT`. -/
def priceRoundingUnit : ℚ := 100

def roundCustomerPrice (adjustedPrice : ℚ) (offerType : OfferType) : ℤ :=
  let units := decimal (adjustedPrice / priceRoundingUnit)
  let rounded := match offerType with
    | .buy => ⌊units⌋
    | .sell => ⌈units⌉
  truncate (decimal (rounded * priceRoundingUnit))

def rawPriceMessage : String := "raw_price must be positive"

def applyCustomerCommission (rawPrice : ℤ) (rate : Option ℚ) (offerType : OfferType) :
    Except String ℤ :=
  if rawPrice ≤ 0 then .error rawPriceMessage
  else match rate with
  | none => .ok rawPrice
  | some rate =>
    if rate ≤ 0 then .ok rawPrice
    else
      let delta := decimal (decimal (rawPrice * rate) / 100)
      let adjusted := match offerType with
        | .buy => decimal (rawPrice - delta)
        | .sell => decimal (rawPrice + delta)
      .ok (roundCustomerPrice adjusted offerType)

inductive CustomerTier where
  | tier1
  | tier2
  deriving DecidableEq, Repr

structure CommissionTerms where
  status : CustomerRelationStatus
  customerTier : CustomerTier
  commissionRate : Option ℚ
  deriving DecidableEq, Repr

/-- `viewer_effective_price` of `build_customer_offer_read_model` (line 1101). -/
def viewerEffectivePrice (rawPrice : ℤ) (offerType : OfferType)
    (viewerCustomerRelation : Option CommissionTerms) : Except String ℤ :=
  if rawPrice ≤ 0 then .error rawPriceMessage
  else match viewerCustomerRelation with
  | none => .ok rawPrice
  | some relation =>
    if relation.status = .active ∧ relation.customerTier = .tier2 then
      applyCustomerCommission rawPrice relation.commissionRate offerType
    else .ok rawPrice

/-- `executed_trade_price` of a trade of the customer (trades.py:4034); the relation is active. -/
def bookedPrice (rawPrice : ℤ) (offerType : OfferType)
    (responderCustomerRelation : Option CommissionTerms) : Except String ℤ :=
  match responderCustomerRelation with
  | none => .ok rawPrice
  | some relation =>
    if relation.customerTier = .tier2 then
      applyCustomerCommission rawPrice relation.commissionRate offerType
    else .ok rawPrice

/-! ## The exact prices -/

def exactAdjusted (price : ℤ) (rate : ℚ) : OfferType → ℚ
  | .buy => price - price * rate / 100
  | .sell => price + price * rate / 100

def roundToUnit (x : ℚ) : OfferType → ℤ
  | .buy => ⌊x / 100⌋ * 100
  | .sell => ⌈x / 100⌉ * 100

/-- The rate has so few decimals, for this price, that 28 digits hold the adjusted price. -/
def Held (price : ℤ) (rate : ℚ) : Prop :=
  ∃ (decimals : ℕ) (r : ℤ), rate = r / 10 ^ decimals ∧ price * 10 ^ decimals < 5 * 10 ^ 25

theorem hasDigits_div {n : ℤ} (h : |n| < 10 ^ contextDigits) (k : ℕ) :
    HasDigits contextDigits ((n : ℚ) / 10 ^ k) := by
  have hshift := (HasDigits.of_int h).shift (-(k : ℤ))
  rw [zpow_neg, zpow_natCast, ← div_eq_mul_inv] at hshift
  exact hshift

section Exact

variable {price : ℤ} {rate : ℚ}

theorem Held.hasDigits (h : Held price rate) (hprice : 0 < price) (hrate : 0 ≤ rate)
    (hmax : rate ≤ 100) (offerType : OfferType) :
    HasDigits contextDigits (price * rate) ∧
      HasDigits contextDigits (exactAdjusted price rate offerType) := by
  obtain ⟨decimals, r, hr, hbound⟩ := h
  have hpow : (0 : ℚ) < 10 ^ decimals := pow_pos (by norm_num) decimals
  have hlow : 0 ≤ r := by
    rw [hr, le_div_iff₀ hpow, zero_mul] at hrate
    exact_mod_cast hrate
  have hhigh : r ≤ 100 * 10 ^ decimals := by
    rw [hr, div_le_iff₀ hpow] at hmax
    exact_mod_cast hmax
  have hproduct : price * r ≤ 100 * (price * 10 ^ decimals) := by
    calc price * r ≤ price * (100 * 10 ^ decimals) := mul_le_mul_of_nonneg_left hhigh hprice.le
      _ = 100 * (price * 10 ^ decimals) := by ring
  have hnonneg : 0 ≤ price * r := mul_nonneg hprice.le hlow
  have hprice10 : 0 < price * 10 ^ decimals := mul_pos hprice (pow_pos (by norm_num) decimals)
  constructor
  · have hdigits : |price * r| < 10 ^ contextDigits := by
      rw [abs_of_nonneg hnonneg, contextDigits]
      omega
    have hvalue : (price : ℚ) * rate = ((price * r : ℤ) : ℚ) / 10 ^ decimals := by
      rw [hr]
      push_cast
      ring
    rw [hvalue]
    exact hasDigits_div hdigits decimals
  · have hsplit : (10 : ℚ) ^ (decimals + 2) = 10 ^ decimals * 100 := by
      rw [pow_add]
      norm_num
    cases offerType with
    | buy =>
      have hdigits : |price * 10 ^ decimals * 100 - price * r| < 10 ^ contextDigits := by
        rw [contextDigits, abs_lt]
        omega
      have hvalue : exactAdjusted price rate .buy =
          ((price * 10 ^ decimals * 100 - price * r : ℤ) : ℚ) / 10 ^ (decimals + 2) := by
        rw [exactAdjusted, hr, hsplit]
        push_cast
        field_simp
      rw [hvalue]
      exact hasDigits_div hdigits _
    | sell =>
      have hdigits : |price * 10 ^ decimals * 100 + price * r| < 10 ^ contextDigits := by
        rw [contextDigits, abs_lt]
        omega
      have hvalue : exactAdjusted price rate .sell =
          ((price * 10 ^ decimals * 100 + price * r : ℤ) : ℚ) / 10 ^ (decimals + 2) := by
        rw [exactAdjusted, hr, hsplit]
        push_cast
        field_simp
      rw [hvalue]
      exact hasDigits_div hdigits _

theorem exactAdjusted_bounds (hprice : 0 < price) (hrate : 0 ≤ rate) (hmax : rate ≤ 100)
    (offerType : OfferType) :
    0 ≤ exactAdjusted price rate offerType ∧ exactAdjusted price rate offerType ≤ 2 * price := by
  have hpos : (0 : ℚ) < price := by exact_mod_cast hprice
  have hdelta : 0 ≤ (price : ℚ) * rate / 100 := by
    apply div_nonneg (mul_nonneg hpos.le hrate)
    norm_num
  have hdelta' : (price : ℚ) * rate / 100 ≤ price := by
    rw [div_le_iff₀ (by norm_num)]
    exact mul_le_mul_of_nonneg_left hmax hpos.le
  cases offerType with
  | buy => exact ⟨by rw [exactAdjusted]; linarith, by rw [exactAdjusted]; linarith⟩
  | sell => exact ⟨by rw [exactAdjusted]; linarith, by rw [exactAdjusted]; linarith⟩

theorem decimal_of_hasDigits {x : ℚ} (h : HasDigits contextDigits x) : decimal x = x :=
  roundDigits_of_hasDigits h

theorem roundCustomerPrice_eq {x : ℚ} (hdigits : HasDigits contextDigits x) (hlow : 0 ≤ x)
    (hhigh : x < 10 ^ contextDigits) (offerType : OfferType) :
    roundCustomerPrice x offerType = roundToUnit x offerType := by
  have hunits : decimal (x / priceRoundingUnit) = x / 100 := by
    have hshift := hdigits.shift (-2)
    have hvalue : x * (10 : ℚ) ^ (-2 : ℤ) = x / priceRoundingUnit := by
      rw [priceRoundingUnit]
      norm_num [div_eq_mul_inv]
    rw [hvalue] at hshift
    rw [decimal_of_hasDigits hshift, priceRoundingUnit]
  have hback : ∀ units : ℤ, |units| < 10 ^ contextDigits →
      truncate (decimal (units * priceRoundingUnit)) = units * 100 := by
    intro units hsmall
    have hshift := (HasDigits.of_int hsmall).shift 2
    have hvalue : (units : ℚ) * (10 : ℚ) ^ (2 : ℤ) = units * priceRoundingUnit := by
      rw [priceRoundingUnit]
      norm_num
    rw [hvalue] at hshift
    rw [decimal_of_hasDigits hshift, priceRoundingUnit]
    exact_mod_cast truncate_intCast (units * 100)
  have hnonneg : 0 ≤ x / 100 := div_nonneg hlow (by norm_num)
  have hsmall : x / 100 ≤ 10 ^ contextDigits - 1 := by
    rw [contextDigits] at hhigh ⊢
    linarith
  unfold roundCustomerPrice
  rw [hunits]
  cases offerType with
  | buy =>
    refine hback _ (abs_lt.mpr ⟨?_, ?_⟩)
    · have hfloor : 0 ≤ ⌊x / 100⌋ := Int.floor_nonneg.mpr hnonneg
      rw [contextDigits]
      omega
    · apply Int.floor_lt.mpr
      push_cast
      linarith
  | sell =>
    refine hback _ (abs_lt.mpr ⟨?_, ?_⟩)
    · have hceil : 0 ≤ ⌈x / 100⌉ := Int.ceil_nonneg hnonneg
      rw [contextDigits]
      omega
    · have hceil : ⌈x / 100⌉ ≤ 10 ^ contextDigits - 1 := by
        apply Int.ceil_le.mpr
        push_cast
        exact hsmall
      omega

theorem applyCustomerCommission_eq (h : Held price rate) (hprice : 0 < price) (hrate : 0 < rate)
    (hmax : rate ≤ 100) (offerType : OfferType) :
    applyCustomerCommission price (some rate) offerType =
      .ok (roundToUnit (exactAdjusted price rate offerType) offerType) := by
  obtain ⟨hproduct, hadjusted⟩ := h.hasDigits hprice hrate.le hmax offerType
  obtain ⟨hlow, hhigh⟩ := exactAdjusted_bounds hprice hrate.le hmax offerType
  have hdelta : decimal (decimal (price * rate) / 100) = price * rate / 100 := by
    have hshift := hproduct.shift (-2)
    have hvalue : (price : ℚ) * rate * (10 : ℚ) ^ (-2 : ℤ) = price * rate / 100 := by
      norm_num [div_eq_mul_inv]
    rw [hvalue] at hshift
    rw [decimal_of_hasDigits hproduct, decimal_of_hasDigits hshift]
  have hbound : exactAdjusted price rate offerType < 10 ^ contextDigits := by
    obtain ⟨decimals, r, _, hbound⟩ := h
    have hone : (1 : ℤ) ≤ 10 ^ decimals := one_le_pow₀ (by norm_num)
    have hsmall : price < 5 * 10 ^ 25 := by
      calc price = price * 1 := (mul_one price).symm
        _ ≤ price * 10 ^ decimals := mul_le_mul_of_nonneg_left hone hprice.le
        _ < 5 * 10 ^ 25 := hbound
    have hcast : (price : ℚ) < 5 * 10 ^ 25 := by exact_mod_cast hsmall
    rw [contextDigits]
    linarith
  unfold applyCustomerCommission
  rw [if_neg (Int.not_le.mpr hprice)]
  dsimp only
  rw [if_neg (not_le.mpr hrate), hdelta, ← roundCustomerPrice_eq hadjusted hlow hbound]
  cases offerType with
  | buy =>
    have hvalue : decimal (price - price * rate / 100) = exactAdjusted price rate .buy :=
      decimal_of_hasDigits hadjusted
    dsimp only
    rw [hvalue]
  | sell =>
    have hvalue : decimal (price + price * rate / 100) = exactAdjusted price rate .sell :=
      decimal_of_hasDigits hadjusted
    dsimp only
    rw [hvalue]

end Exact

/-! ## What a customer can rely on -/

/-- The first price is no better for the customer, who pays an offer to sell and is paid by one to
buy. -/
def NoBetter (offerType : OfferType) (x y : ℚ) : Prop :=
  match offerType with
  | .buy => x ≤ y
  | .sell => y ≤ x

theorem NoBetter.trans {offerType : OfferType} {x y z : ℚ} (hxy : NoBetter offerType x y)
    (hyz : NoBetter offerType y z) : NoBetter offerType x z := by
  cases offerType with
  | buy => exact le_trans hxy hyz
  | sell => exact le_trans hyz hxy

theorem roundToUnit_noBetter (x : ℚ) (offerType : OfferType) :
    NoBetter offerType (roundToUnit x offerType) x ∧ |roundToUnit x offerType - x| < 100 := by
  cases offerType with
  | buy =>
    have hfloor := Int.floor_le (x / 100)
    have hfloor' := Int.lt_floor_add_one (x / 100)
    simp only [NoBetter, roundToUnit, abs_lt]
    push_cast
    refine ⟨?_, ?_, ?_⟩ <;> linarith
  | sell =>
    have hceil := Int.le_ceil (x / 100)
    have hceil' := Int.ceil_lt_add_one (x / 100)
    simp only [NoBetter, roundToUnit, abs_lt]
    push_cast
    refine ⟨?_, ?_, ?_⟩ <;> linarith

theorem roundToUnit_mono {x y : ℚ} (h : x ≤ y) (offerType : OfferType) :
    roundToUnit x offerType ≤ roundToUnit y offerType := by
  have hunits : x / 100 ≤ y / 100 := div_le_div_of_nonneg_right h (by norm_num)
  cases offerType with
  | buy => exact mul_le_mul_of_nonneg_right (Int.floor_le_floor hunits) (by norm_num)
  | sell => exact mul_le_mul_of_nonneg_right (Int.ceil_le_ceil hunits) (by norm_num)

theorem NoBetter.round {offerType : OfferType} {x y : ℚ} (h : NoBetter offerType x y) :
    NoBetter offerType (roundToUnit x offerType) (roundToUnit y offerType) := by
  cases offerType with
  | buy => exact Int.cast_le.mpr (roundToUnit_mono h .buy)
  | sell => exact Int.cast_le.mpr (roundToUnit_mono h .sell)

theorem roundToUnit_pos {x : ℚ} (h : 100 ≤ x) (offerType : OfferType) :
    0 < roundToUnit x offerType := by
  have hone : roundToUnit 100 offerType ≤ roundToUnit x offerType := roundToUnit_mono h offerType
  have hunit : roundToUnit 100 offerType = 100 := by
    cases offerType <;> norm_num [roundToUnit]
  omega

theorem exactAdjusted_mono_price {price price' : ℤ} {rate : ℚ} (hprice : price ≤ price')
    (hrate : 0 ≤ rate) (hmax : rate ≤ 100) (offerType : OfferType) :
    exactAdjusted price rate offerType ≤ exactAdjusted price' rate offerType := by
  have hcast : (price : ℚ) ≤ price' := by exact_mod_cast hprice
  cases offerType with
  | buy =>
    have hpart := mul_le_mul_of_nonneg_right hcast (sub_nonneg.mpr hmax)
    simp only [exactAdjusted]
    linarith
  | sell =>
    have hpart := mul_le_mul_of_nonneg_right hcast hrate
    simp only [exactAdjusted]
    linarith

theorem exactAdjusted_noBetter {price : ℤ} {rate rate' : ℚ} (hprice : 0 < price)
    (hrate : rate ≤ rate') (offerType : OfferType) :
    NoBetter offerType (exactAdjusted price rate' offerType)
      (exactAdjusted price rate offerType) := by
  have hpos : (0 : ℚ) < price := by exact_mod_cast hprice
  have hpart := mul_le_mul_of_nonneg_left hrate hpos.le
  cases offerType with
  | buy =>
    simp only [NoBetter, exactAdjusted]
    linarith
  | sell =>
    simp only [NoBetter, exactAdjusted]
    linarith

theorem exactAdjusted_zero (price : ℤ) (offerType : OfferType) :
    exactAdjusted price 0 offerType = price := by
  cases offerType <;> simp [exactAdjusted]

theorem exists_commissioned {price : ℤ} {rate : ℚ} (h : Held price rate) (hprice : 0 < price)
    (hrate : 0 ≤ rate) (hmax : rate ≤ 100) (offerType : OfferType) :
    ∃ booked : ℤ, applyCustomerCommission price (some rate) offerType = .ok booked ∧
      (rate = 0 ∧ booked = price ∨
        0 < rate ∧ booked = roundToUnit (exactAdjusted price rate offerType) offerType) := by
  rcases hrate.eq_or_lt with hzero | hpos
  · refine ⟨price, ?_, .inl ⟨hzero.symm, rfl⟩⟩
    unfold applyCustomerCommission
    rw [if_neg (Int.not_le.mpr hprice)]
    dsimp only
    rw [if_pos hzero.symm.le]
  · exact ⟨_, applyCustomerCommission_eq h hprice hpos hmax offerType, .inr ⟨hpos, rfl⟩⟩

def tier2Price (relation : CommissionTerms) (offerType : OfferType) : Option (Int → Int) :=
  if relation.customerTier = .tier2 then
    some fun price => (bookedPrice price offerType (some relation)).toOption.getD price
  else none

theorem applyCustomerCommission_isOk {price : ℤ} (hprice : 0 < price) (rate : Option ℚ)
    (offerType : OfferType) :
    ∃ booked, applyCustomerCommission price rate offerType = .ok booked := by
  unfold applyCustomerCommission
  rw [if_neg (Int.not_le.mpr hprice)]
  cases rate with
  | none => exact ⟨_, rfl⟩
  | some rate =>
    dsimp only
    split
    · exact ⟨_, rfl⟩
    · exact ⟨_, rfl⟩

theorem viewerEffectivePrice_eq_executed {relation : CommissionTerms} {ctx : Trades.TradeContext}
    {offer : Offer} (hprice : 0 < offer.price) (hactive : relation.status = .active)
    (htier : relation.customerTier = .tier2)
    (hctx : ctx.tier2Price = tier2Price relation offer.offerType) :
    viewerEffectivePrice offer.price offer.offerType (some relation) =
      .ok (Trades.executedTradePrice ctx offer) := by
  obtain ⟨booked, hbooked⟩ :=
    applyCustomerCommission_isOk hprice relation.commissionRate offer.offerType
  have hexecuted : Trades.executedTradePrice ctx offer = booked := by
    unfold Trades.executedTradePrice tier2Price at *
    rw [if_pos htier] at hctx
    rw [hctx]
    dsimp only
    rw [bookedPrice, if_pos htier, hbooked]
    rfl
  unfold viewerEffectivePrice
  rw [if_neg (Int.not_le.mpr hprice)]
  dsimp only
  rw [if_pos ⟨hactive, htier⟩, hbooked, hexecuted]

structure FairlyCommissioned (price : ℤ) (rate : ℚ) (offerType : OfferType) (booked : ℤ) :
    Prop where
  noBetter : NoBetter offerType booked price
  close : 0 < rate → NoBetter offerType booked (exactAdjusted price rate offerType) ∧
    |booked - exactAdjusted price rate offerType| < priceRoundingUnit
  risesWithPrice : ∀ price' booked', price ≤ price' → Held price' rate →
    applyCustomerCommission price' (some rate) offerType = .ok booked' → booked ≤ booked'
  worsensWithRate : ∀ rate' booked', rate ≤ rate' → rate' ≤ 100 → Held price rate' →
    applyCustomerCommission price (some rate') offerType = .ok booked' →
    NoBetter offerType booked' booked
  positive : 100 ≤ exactAdjusted price rate offerType → 0 < booked
  shown : ∀ (relation : CommissionTerms) (ctx : Trades.TradeContext) (offer : Offer),
    offer.price = price → offer.offerType = offerType → relation.status = .active →
    relation.customerTier = .tier2 → ctx.tier2Price = tier2Price relation offerType →
    viewerEffectivePrice price offerType (some relation) =
      .ok (Trades.executedTradePrice ctx offer)

/-- The commissioned prices of prices and rates that the precision holds. -/
theorem commission_fair (price : ℤ) (rate : ℚ) (offerType : OfferType) (hprice : 0 < price)
    (hrate : 0 ≤ rate) (hmax : rate ≤ 100) (hheld : Held price rate) :
    ∃ booked, applyCustomerCommission price (some rate) offerType = .ok booked ∧
      FairlyCommissioned price rate offerType booked := by
  obtain ⟨booked, hbooked, hcases⟩ := exists_commissioned hheld hprice hrate hmax offerType
  -- at the rate zero the price itself is both the exact and the booked one
  have hexact : NoBetter offerType booked (exactAdjusted price rate offerType) := by
    rcases hcases with ⟨rfl, rfl⟩ | ⟨_, rfl⟩
    · rw [exactAdjusted_zero]
      cases offerType <;> exact le_refl _
    · exact (roundToUnit_noBetter _ offerType).1
  have hraw : NoBetter offerType (exactAdjusted price rate offerType) price := by
    have hzero := exactAdjusted_noBetter hprice hrate offerType
    rwa [exactAdjusted_zero] at hzero
  refine ⟨booked, hbooked, hexact.trans hraw, ?_, ?_, ?_, ?_, ?_⟩
  · intro hpos
    rcases hcases with ⟨hzero, _⟩ | ⟨_, rfl⟩
    · exact absurd hzero hpos.ne'
    · exact roundToUnit_noBetter _ offerType
  · intro price' booked' hle hheld' hbooked'
    obtain ⟨other, hother, hcases'⟩ :=
      exists_commissioned hheld' (hprice.trans_le hle) hrate hmax offerType
    rw [hbooked'] at hother
    injection hother with hother
    subst hother
    rcases hcases with ⟨rfl, rfl⟩ | ⟨hpos, rfl⟩
    · rcases hcases' with ⟨_, rfl⟩ | ⟨hpos, _⟩
      · exact hle
      · exact absurd hpos (lt_irrefl 0)
    · rcases hcases' with ⟨hzero, _⟩ | ⟨_, rfl⟩
      · exact absurd hzero hpos.ne'
      · exact roundToUnit_mono (exactAdjusted_mono_price hle hrate hmax offerType) offerType
  · intro rate' booked' hle hmax' hheld' hbooked'
    obtain ⟨other, hother, hcases'⟩ :=
      exists_commissioned hheld' hprice (hrate.trans hle) hmax' offerType
    rw [hbooked'] at hother
    injection hother with hother
    subst hother
    have hmoved := exactAdjusted_noBetter hprice hle offerType
    rcases hcases' with ⟨hzero', rfl⟩ | ⟨_, rfl⟩
    · -- both rates are zero
      have hzero : rate = 0 := le_antisymm (hle.trans hzero'.le) hrate
      rcases hcases with ⟨_, rfl⟩ | ⟨hpos, _⟩
      · cases offerType <;> exact le_refl _
      · exact absurd hzero hpos.ne'
    · rcases hcases with ⟨rfl, rfl⟩ | ⟨_, rfl⟩
      · rw [exactAdjusted_zero] at hmoved
        exact (roundToUnit_noBetter _ offerType).1.trans hmoved
      · exact hmoved.round
  · intro hunit
    rcases hcases with ⟨_, rfl⟩ | ⟨_, rfl⟩
    · exact hprice
    · exact roundToUnit_pos hunit offerType
  · intro relation ctx offer hofferPrice htype hactive htier hctx
    subst hofferPrice htype
    exact viewerEffectivePrice_eq_executed hprice hactive htier hctx

/-- An offer to sell at 185,050 with a rate of half a per cent. -/
theorem half_percent_fair :
    applyCustomerCommission 185050 (some (1 / 2)) .sell = .ok 186000 ∧
      ∃ booked, applyCustomerCommission 185050 (some (1 / 2)) .sell = .ok booked ∧
        FairlyCommissioned 185050 (1 / 2) .sell booked :=
  ⟨by decide +kernel, commission_fair 185050 (1 / 2) .sell (by norm_num) (by norm_num)
    (by norm_num) ⟨1, 5, by norm_num, by norm_num⟩⟩

/-- A price of 31 digits and a rate of 30 decimals: the last digits are lost before the rounding,
and the customer pays less than the exact price. -/
theorem lost_digits_favour_customer :
    (∃ booked : ℤ, applyCustomerCommission (10 ^ 30 + 1) (some 100) .sell = .ok booked ∧
      ¬ NoBetter .sell booked (exactAdjusted (10 ^ 30 + 1) 100 .sell)) ∧
    ∃ booked : ℤ, applyCustomerCommission 100 (some (1 / 10 ^ 30)) .sell = .ok booked ∧
      ¬ NoBetter .sell booked (exactAdjusted 100 (1 / 10 ^ 30) .sell) := by
  refine ⟨⟨2 * 10 ^ 30, by decide +kernel, ?_⟩, ⟨100, by decide +kernel, ?_⟩⟩
  · norm_num [NoBetter, exactAdjusted]
  · norm_num [NoBetter, exactAdjusted]

end TradingBot.Customers
