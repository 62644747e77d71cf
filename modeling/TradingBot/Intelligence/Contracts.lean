import TradingBot.Misc.PyValue
import TradingBot.Misc.Table

/-!
# The contract of market observations

`MarketObservation.normalized` (`src/core/market_intelligence/market_contracts.py`) with the price
policy it calls (`price_magnitude_policy.py`). Instants are seconds since an epoch: the source cuts
the microseconds off and compares texts of one fixed format. The Tehran columns, computed from the
event time, are left out.
-/

namespace TradingBot.Intelligence

open TradingBot.Misc

/-- `MarketStoreContractError`, with its text. -/
structure ContractError where
  text : String
  deriving DecidableEq, Repr

def sourceFamilies : List String :=
  ["PROJECT", "GROUP", "TELEGRAM_PUBLIC", "TELEGRAM_PRIVATE", "EXTERNAL_MARKET", "MANUAL_REVIEW"]

def settlementTerms : List String := ["CASH", "TODAY", "TOMORROW", "SPOT", "UNKNOWN"]

def tradeForms : List String :=
  ["PHYSICAL", "PAPER_NORMAL", "PAPER_REVERSE", "PAPER_SWIM", "NOT_APPLICABLE", "UNKNOWN"]

def eventTypes : List String := ["OFFER", "TRADE", "QUOTE", "REFERENCE"]

def sides : List String := ["BUY", "SELL", "MID", "UNKNOWN"]

def qualityStates : List String := ["ELIGIBLE", "PENDING_REVIEW", "AMBIGUOUS", "IGNORED", "REJECTED"]

def priceUnits : List String :=
  ["PROJECT_THOUSAND_TOMAN", "TOMAN_PER_COIN", "TOMAN_PER_MESGHAL_750", "TOMAN_PER_GRAM_750",
    "TOMAN_PER_USD", "TOMAN_PER_USDT", "USD_PER_TROY_OUNCE"]

/-- `_SENSITIVE_ATTRIBUTE_KEY_PARTS`. -/
def sensitiveKeyParts : List String :=
  ["channel", "chat", "link", "message", "phone", "raw", "sender", "source_text", "telegram", "text",
    "user", "username"]

/-- `_CODE_PATTERN`: a capital letter, then one to 63 capital letters, digits and underscores. -/
def isCode (text : String) : Bool :=
  match text.toList with
  | [] => false
  | first :: rest =>
    'A' ≤ first && first ≤ 'Z' && 1 ≤ rest.length && rest.length ≤ 63 &&
      rest.all fun c => ('A' ≤ c && c ≤ 'Z') || ('0' ≤ c && c ≤ '9') || c = '_'

/-- `str(value).strip().upper()`. -/
def codeText (value : String) : String := pyUpper (pyStrip value)

/-- `_normalized_code` without an allowed set (line 148). -/
def normalizedCode (value fieldName : String) : Except ContractError String :=
  if isCode (codeText value) then .ok (codeText value) else .error ⟨fieldName ++ "_invalid"⟩

/-- `_normalized_code` with an allowed set. -/
def normalizedCodeIn (allowed : List String) (value fieldName : String) :
    Except ContractError String := do
  let normalized ← normalizedCode value fieldName
  if normalized ∈ allowed then .ok normalized else .error ⟨fieldName ++ "_unsupported"⟩

def positiveDecimal (value : PyDecimal) (fieldName : String) : Except ContractError Rat :=
  match value with
  | .invalid => .error ⟨fieldName ++ "_invalid"⟩
  | .notFinite => .error ⟨fieldName ++ "_must_be_positive"⟩
  | .finite number =>
    if number ≤ 0 then .error ⟨fieldName ++ "_must_be_positive"⟩ else .ok number

def publicKey (name : String) : Bool :=
  let key := pyLower (pyStrip name)
  key ≠ "" && sensitiveKeyParts.all fun part => !pyContains part key

def jsonAttributes (attributes : List (String × Json)) :
    Except ContractError (List (String × Json)) :=
  if (attributes.map (·.1)).all publicKey then .ok attributes
  else .error ⟨"attributes_contains_private_identity"⟩

def validateInstrumentUnit (instrument priceUnit : String) : Except ContractError Unit :=
  let expected : Option String :=
    match instrument with
    | "USD_HERAT" => some "TOMAN_PER_USD"
    | "USDT_IRT" => some "TOMAN_PER_USDT"
    | "XAUUSD" => some "USD_PER_TROY_OUNCE"
    | "IME_GOLD_BAR" => some "TOMAN_PER_MESGHAL_750"
    | "IME_GOLD_COIN_IMAM" => some "TOMAN_PER_COIN"
    | _ => none
  if expected.any (· ≠ priceUnit) then .error ⟨"instrument_price_unit_mismatch"⟩
  else if pyStartsWith "COIN_" instrument ∧
      priceUnit ≠ "PROJECT_THOUSAND_TOMAN" ∧ priceUnit ≠ "TOMAN_PER_COIN" then
    .error ⟨"instrument_price_unit_mismatch"⟩
  else if pyStartsWith "MELTED_GOLD" instrument ∧ priceUnit ≠ "TOMAN_PER_MESGHAL_750" then
    .error ⟨"instrument_price_unit_mismatch"⟩
  else .ok ()

/-- `forbid_irt_unit` (price_magnitude_policy.py:65). -/
def forbidIrtUnit (priceUnit : String) : Except ContractError String :=
  if codeText priceUnit = "" then .error ⟨"price_unit_required"⟩
  else if pyStartsWith "IRT" (codeText priceUnit) then
    .error ⟨"irt_price_unit_forbidden_use_toman"⟩
  else .ok (codeText priceUnit)

/-- `CANONICAL_PRICE_RANGES_TOMAN`. -/
def canonicalPriceRange (unit : String) : Option (Rat × Rat) :=
  match unit with
  | "TOMAN_PER_MESGHAL_750" => some (30000000, 200000000)
  | "TOMAN_PER_GRAM_750" => some (1000000, 20000000)
  | "TOMAN_PER_COIN" => some (50000000, 500000000)
  | "TOMAN_PER_USD" => some (50000, 500000)
  | "TOMAN_PER_USDT" => some (50000, 500000)
  | "USD_PER_TROY_OUNCE" => some (1500, 8000)
  | "PROJECT_THOUSAND_TOMAN" => some (5000, 500000)
  | _ => none

def inCanonicalRange (unit : String) (price : Rat) : Bool :=
  (canonicalPriceRange unit).all fun range => range.1 ≤ price && price ≤ range.2

/-- `assert_canonical_magnitude` (price_magnitude_policy.py:196). -/
def assertCanonicalMagnitude (priceUnit : String) (price : Rat) : Except ContractError Unit := do
  let unit ← forbidIrtUnit priceUnit
  if inCanonicalRange unit price then .ok () else .error ⟨"price_out_of_canonical_range:" ++ unit⟩

def canonicalCurrency (priceUnit currency : String) : Except ContractError String :=
  if pyStartsWith "TOMAN" priceUnit ∨ priceUnit = "PROJECT_THOUSAND_TOMAN" then
    if currency = "TOMAN" ∨ currency = "IRT" then .ok "TOMAN"
    else .error ⟨"toman_price_requires_toman_currency"⟩
  else if priceUnit = "USD_PER_TROY_OUNCE" ∧ currency ≠ "USD" then
    .error ⟨"xau_requires_usd_currency"⟩
  else if currency = "IRT" then .error ⟨"irt_currency_forbidden_use_toman"⟩
  else .ok currency

/-- `MarketObservation`: prices and quantities as `Decimal(str(value))` reads them, the confidence a
number. -/
structure MarketObservation where
  eventKey : List UInt8
  sourceCode : String
  sourceFamily : String
  eventTimeUtc : Int
  availableAtUtc : Int
  instrument : String
  marketLabel : String
  settlementTerm : String
  tradeForm : String
  eventType : String
  side : String
  price : PyDecimal
  priceUnit : String
  currency : String
  quantity : Option PyDecimal
  quantityUnit : Option String
  parseConfidence : Rat
  parserVersion : String
  qualityState : String
  qualityPolicyVersion : String
  isConditional : Bool
  attributes : List (String × Json)

/-- `NormalizedMarketObservation`. -/
structure NormalizedMarketObservation where
  eventKey : List UInt8
  sourceCode : String
  sourceFamily : String
  eventTimeUtc : Int
  availableAtUtc : Int
  instrument : String
  marketLabel : String
  settlementTerm : String
  tradeForm : String
  eventType : String
  side : String
  price : Rat
  priceUnit : String
  currency : String
  quantity : Option Rat
  quantityUnit : Option String
  parseConfidence : Rat
  parserVersion : String
  qualityState : String
  qualityPolicyVersion : String
  isConditional : Bool
  attributes : List (String × Json)

def normalizedQuantity (quantity : Option PyDecimal) (quantityUnit : Option String) :
    Except ContractError (Option Rat × Option String) := do
  let amount ← quantity.mapM (positiveDecimal · "quantity")
  let unit ← quantityUnit.mapM (normalizedCode · "quantity_unit")
  if amount.isSome ∧ unit.isNone then .error ⟨"quantity_unit_required"⟩
  else if amount.isNone ∧ unit.isSome then .error ⟨"quantity_required"⟩
  else .ok (amount, unit)

/-- `MarketObservation.normalized` (line 252). -/
def MarketObservation.normalized (observation : MarketObservation) :
    Except ContractError NormalizedMarketObservation := do
  if observation.eventKey.length < 16 ∨ 64 < observation.eventKey.length then
    .error ⟨"event_key_opaque_digest_required"⟩
  let sourceCode ← normalizedCode observation.sourceCode "source_code"
  let sourceFamily ← normalizedCodeIn sourceFamilies observation.sourceFamily "source_family"
  if observation.availableAtUtc < observation.eventTimeUtc then
    .error ⟨"available_at_before_event_time"⟩
  let instrument ← normalizedCode observation.instrument "instrument"
  let marketLabel ← normalizedCode observation.marketLabel "market_label"
  let settlementTerm ← normalizedCodeIn settlementTerms observation.settlementTerm "settlement_term"
  let tradeForm ← normalizedCodeIn tradeForms observation.tradeForm "trade_form"
  let eventType ← normalizedCodeIn eventTypes observation.eventType "event_type"
  let side ← normalizedCodeIn sides observation.side "side"
  let _ ← forbidIrtUnit observation.priceUnit
  let priceUnit ← normalizedCodeIn priceUnits observation.priceUnit "price_unit"
  validateInstrumentUnit instrument priceUnit
  let currency ← normalizedCode observation.currency "currency"
  let currency ← canonicalCurrency priceUnit currency
  let price ← positiveDecimal observation.price "price"
  assertCanonicalMagnitude priceUnit price
  if observation.parseConfidence < 0 ∨ 1 < observation.parseConfidence then
    .error ⟨"parse_confidence_out_of_range"⟩
  let parserVersion := pyStrip observation.parserVersion
  let qualityPolicyVersion := pyStrip observation.qualityPolicyVersion
  if parserVersion = "" ∨ qualityPolicyVersion = "" then
    .error ⟨"parser_or_policy_version_required"⟩
  let (quantity, quantityUnit) ← normalizedQuantity observation.quantity observation.quantityUnit
  let qualityState ← normalizedCodeIn qualityStates observation.qualityState "quality_state"
  let attributes ← jsonAttributes observation.attributes
  .ok { eventKey := observation.eventKey
        sourceCode, sourceFamily
        eventTimeUtc := observation.eventTimeUtc
        availableAtUtc := observation.availableAtUtc
        instrument, marketLabel, settlementTerm, tradeForm, eventType, side, price, priceUnit
        currency, quantity, quantityUnit
        parseConfidence := observation.parseConfidence
        parserVersion, qualityState, qualityPolicyVersion
        isConditional := observation.isConditional
        attributes }

/-! ## What is accepted -/

variable {value code unit : String} {allowed : List String} {price : Rat}

theorem normalizedCode_ok (fieldName : String) (h : isCode (codeText value)) :
    normalizedCode value fieldName = .ok (codeText value) := if_pos h

theorem isCode_of_mem (hcodes : allowed.all isCode = true)
    (h : code ∈ allowed) : isCode code = true := List.all_eq_true.1 hcodes code h

theorem normalizedCodeIn_eq_ok (hcodes : allowed.all isCode = true) (fieldName : String) :
    normalizedCodeIn allowed value fieldName = .ok code ↔ codeText value = code ∧ code ∈ allowed := by
  unfold normalizedCodeIn
  rw [except_bind_eq_ok]
  constructor
  · rintro ⟨normalized, hnormalized, hmem⟩
    unfold normalizedCode at hnormalized
    split at hnormalized
    · have heq : codeText value = normalized := Except.ok.inj hnormalized
      split at hmem
      · next hin =>
        have hcode : normalized = code := Except.ok.inj hmem
        exact ⟨heq.trans hcode, hcode ▸ hin⟩
      · exact absurd hmem (by simp)
    · exact absurd hnormalized (by simp)
  · rintro ⟨rfl, hmem⟩
    exact ⟨codeText value, normalizedCode_ok fieldName (isCode_of_mem hcodes hmem), if_pos hmem⟩

theorem positiveDecimal_eq_ok {value : PyDecimal} {fieldName : String} {number : Rat} :
    positiveDecimal value fieldName = .ok number ↔ value = .finite number ∧ 0 < number := by
  cases value with
  | invalid => exact ⟨nofun, nofun⟩
  | notFinite => exact ⟨nofun, nofun⟩
  | finite given =>
    simp only [positiveDecimal, PyDecimal.finite.injEq]
    split
    · next hle =>
      refine ⟨nofun, ?_⟩
      rintro ⟨rfl, hpos⟩
      exact absurd hpos (not_lt.2 hle)
    · next hpos =>
      constructor
      · intro h
        cases h
        exact ⟨rfl, not_le.1 hpos⟩
      · rintro ⟨rfl, -⟩
        rfl

theorem forbidIrtUnit_eq (hvalue : codeText value = unit)
    (hunit : unit ∈ priceUnits) : forbidIrtUnit value = .ok unit := by
  have hall : ∀ unit ∈ priceUnits, unit ≠ "" ∧ pyStartsWith "IRT" unit = false := by decide +kernel
  obtain ⟨hne, hstart⟩ := hall unit hunit
  rw [forbidIrtUnit, hvalue, if_neg hne, hstart]
  rfl

theorem codeText_priceUnit (hunit : unit ∈ priceUnits) : codeText unit = unit := by
  have hall : ∀ unit ∈ priceUnits, codeText unit = unit := by decide +kernel
  exact hall unit hunit

theorem assertCanonicalMagnitude_eq_ok (hunit : unit ∈ priceUnits) :
    assertCanonicalMagnitude unit price = .ok () ↔ inCanonicalRange unit price = true := by
  unfold assertCanonicalMagnitude
  rw [forbidIrtUnit_eq (codeText_priceUnit hunit) hunit]
  change (if inCanonicalRange unit price = true then _ else _) = _ ↔ _
  split
  · next hin => exact ⟨fun _ => hin, fun _ => rfl⟩
  · next hout => exact ⟨nofun, fun h => absurd h hout⟩

theorem inCanonicalRange_of_range {low high : Rat}
    (hrange : canonicalPriceRange unit = some (low, high)) :
    inCanonicalRange unit price = true ↔ low ≤ price ∧ price ≤ high := by
  rw [inCanonicalRange, hrange, Option.all_some, Bool.and_eq_true, decide_eq_true_eq,
    decide_eq_true_eq]

theorem normalizedQuantity_some {quantity : PyDecimal} (hunit : isCode (codeText unit)) :
    (∃ amount, normalizedQuantity (some quantity) (some unit) = .ok amount) ↔
      ∃ number, quantity = .finite number ∧ 0 < number := by
  have hcode := normalizedCode_ok "quantity_unit" hunit
  constructor
  · rintro ⟨amount, hok⟩
    obtain ⟨number, hnumber, -⟩ := except_bind_eq_ok.1 hok
    cases hpositive : positiveDecimal quantity "quantity" with
    | error error =>
      rw [Option.mapM_some, hpositive] at hnumber
      cases hnumber
    | ok number => exact ⟨number, positiveDecimal_eq_ok.1 hpositive⟩
  · rintro ⟨number, hnumber⟩
    refine ⟨(some number, some (codeText unit)), ?_⟩
    unfold normalizedQuantity
    rw [Option.mapM_some, Option.mapM_some, positiveDecimal_eq_ok.2 hnumber, hcode]
    rfl

structure MarketObservation.Framed (observation : MarketObservation)
    (instrument priceUnit : String) : Prop where
  eventKey : 16 ≤ observation.eventKey.length ∧ observation.eventKey.length ≤ 64
  sourceCode : isCode (codeText observation.sourceCode)
  sourceFamily : codeText observation.sourceFamily ∈ sourceFamilies
  times : observation.eventTimeUtc ≤ observation.availableAtUtc
  instrumentCode : codeText observation.instrument = instrument ∧ isCode instrument
  marketLabel : isCode (codeText observation.marketLabel)
  settlementTerm : codeText observation.settlementTerm ∈ settlementTerms
  tradeForm : codeText observation.tradeForm ∈ tradeForms
  eventType : codeText observation.eventType ∈ eventTypes
  side : codeText observation.side ∈ sides
  unit : codeText observation.priceUnit = priceUnit ∧ priceUnit ∈ priceUnits
  instrumentUnit : validateInstrumentUnit instrument priceUnit = .ok ()
  currency : isCode (codeText observation.currency) ∧
    ∃ stored, canonicalCurrency priceUnit (codeText observation.currency) = .ok stored
  confidence : 0 ≤ observation.parseConfidence ∧ observation.parseConfidence ≤ 1
  versions : pyStrip observation.parserVersion ≠ "" ∧ pyStrip observation.qualityPolicyVersion ≠ ""
  qualityState : codeText observation.qualityState ∈ qualityStates
  attributes : jsonAttributes observation.attributes = .ok observation.attributes

/-- It is accepted exactly when its price lies in the range of its unit and its quantity is a
positive number with a unit, or there is none. -/
theorem MarketObservation.Framed.normalized_isOk_iff {observation : MarketObservation}
    {instrument priceUnit : String} (h : observation.Framed instrument priceUnit) :
    (∃ normalized, observation.normalized = .ok normalized) ↔
      (∃ price, observation.price = .finite price ∧ 0 < price ∧ inCanonicalRange priceUnit price) ∧
      ∃ amount, normalizedQuantity observation.quantity observation.quantityUnit = .ok amount := by
  have hkey : ¬ (observation.eventKey.length < 16 ∨ 64 < observation.eventKey.length) := by
    have := h.eventKey
    omega
  have htimes : ¬ observation.availableAtUtc < observation.eventTimeUtc := by
    have := h.times
    omega
  have hsource := normalizedCode_ok "source_code" h.sourceCode
  have hfamily := (normalizedCodeIn_eq_ok (by decide +kernel) "source_family").2
    ⟨rfl, h.sourceFamily⟩
  have hinstrument : normalizedCode observation.instrument "instrument" = .ok instrument := by
    rw [← h.instrumentCode.1]
    exact normalizedCode_ok "instrument" (h.instrumentCode.1 ▸ h.instrumentCode.2)
  have hlabel := normalizedCode_ok "market_label" h.marketLabel
  have hterm := (normalizedCodeIn_eq_ok (by decide +kernel) "settlement_term").2
    ⟨rfl, h.settlementTerm⟩
  have hform := (normalizedCodeIn_eq_ok (by decide +kernel) "trade_form").2 ⟨rfl, h.tradeForm⟩
  have htype := (normalizedCodeIn_eq_ok (by decide +kernel) "event_type").2 ⟨rfl, h.eventType⟩
  have hside := (normalizedCodeIn_eq_ok (by decide +kernel) "side").2 ⟨rfl, h.side⟩
  have hunit := (normalizedCodeIn_eq_ok (by decide +kernel) "price_unit").2 h.unit
  have hforbid := forbidIrtUnit_eq h.unit.1 h.unit.2
  obtain ⟨hcode, currency, hcurrency⟩ := h.currency
  have hcode := normalizedCode_ok "currency" hcode
  have hconfidence : ¬ (observation.parseConfidence < 0 ∨ 1 < observation.parseConfidence) := by
    rintro (hlow | hhigh)
    · exact absurd h.confidence.1 (not_le.2 hlow)
    · exact absurd h.confidence.2 (not_le.2 hhigh)
  have hversions : ¬ (pyStrip observation.parserVersion = "" ∨
      pyStrip observation.qualityPolicyVersion = "") := by
    rintro (hparser | hpolicy)
    · exact h.versions.1 hparser
    · exact h.versions.2 hpolicy
  have hquality := (normalizedCodeIn_eq_ok (by decide +kernel) "quality_state").2
    ⟨rfl, h.qualityState⟩
  simp only [MarketObservation.normalized, hkey, htimes, hsource, hfamily, hinstrument, hlabel, hterm,
    hform, htype, hside, hunit, hforbid, h.instrumentUnit, hcode, hcurrency, hconfidence, hversions,
    hquality, h.attributes, if_false, bind, Except.bind]
  constructor
  · rintro ⟨normalized, hok⟩
    cases hprice : positiveDecimal observation.price "price" with
    | error error => simp only [hprice, reduceCtorEq] at hok
    | ok price =>
      cases hrange : assertCanonicalMagnitude priceUnit price with
      | error error => simp only [hprice, hrange, reduceCtorEq] at hok
      | ok _ =>
        cases hamount : normalizedQuantity observation.quantity observation.quantityUnit with
        | error error => simp only [hprice, hrange, hamount, reduceCtorEq] at hok
        | ok amount =>
          obtain ⟨hfinite, hpositive⟩ := positiveDecimal_eq_ok.1 hprice
          exact ⟨⟨price, hfinite, hpositive, (assertCanonicalMagnitude_eq_ok h.unit.2).1 hrange⟩,
            amount, rfl⟩
  · rintro ⟨⟨price, hfinite, hpositive, hrange⟩, amount, hamount⟩
    simp only [positiveDecimal_eq_ok.2 ⟨hfinite, hpositive⟩,
      (assertCanonicalMagnitude_eq_ok h.unit.2).2 hrange, hamount]
    exact ⟨_, rfl⟩

end TradingBot.Intelligence
