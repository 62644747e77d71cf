import TradingBot.Intelligence.Contracts
import TradingBot.Misc.Rows

/-!
# The consumer of the product-market outbox

`src/core/market_intelligence/project_outbox_consumer.py`: a claim takes one due row under a lease,
its payload, any JSON object, becomes an observation in the local store, and the row is completed or
put back. The digest of event keys is a parameter.

A value that `int` cannot read (`version`, `remaining_quantity`, an infinite `commodity_id`) and an
observation that breaks the store's contract raise errors that `consume_one` does not catch.
-/

namespace TradingBot.Intelligence

open TradingBot.Misc

/-- `MAX_RETRY_ATTEMPTS`. -/
def maxRetryAttempts : Nat := 8

inductive OutboxStatus where
  | pending
  | processing
  | complete
  | failed
  deriving DecidableEq, Repr

/-- `uuid4().hex`: one that was there before, or the nth one that was drawn since. -/
inductive LeaseToken where
  | earlier (text : String)
  | drawn (n : Nat)
  deriving DecidableEq, Repr

/-- A row of `coin_intelligence_market_outbox`. Instants are microseconds. -/
structure OutboxRow where
  id : Nat
  idempotencyKey : String
  eventKind : String
  occurredAtUtc : Int
  payload : List (String × Json)
  status : OutboxStatus
  attempts : Nat
  availableAtUtc : Int
  leaseToken : Option LeaseToken
  leaseExpiresAtUtc : Option Int
  lastErrorCode : Option String
  completedAtUtc : Option Int
  modelEligible : Bool

/-- `ClaimedProjectMarketOutbox`. -/
structure OutboxClaim where
  id : Nat
  idempotencyKey : String
  eventKind : String
  occurredAtUtc : Int
  payload : List (String × Json)
  modelEligible : Bool
  leaseToken : LeaseToken

/-- What the conversion raises: a `ProjectOutboxConsumerError` with its text, or an error of `int`. -/
inductive ConvertError where
  | consumer (code : String)
  | uncaught
  deriving DecidableEq, Repr

def given (payload : List (String × Json)) (field : String) : Option Json :=
  match Json.member? payload field with
  | none => none
  | some .null => none
  | some (.str "") => none
  | some value => some value

def requiredPayload (payload : List (String × Json)) (field : String) : Except ConvertError Json :=
  match given payload field with
  | some value => .ok value
  | none => .error (.consumer ("project_outbox_payload_" ++ field ++ "_missing"))

/-- The checks that raise a `ProjectOutboxConsumerError`. -/
def refuseUnless (condition : Prop) [Decidable condition] (code : String) :
    Except ConvertError Unit :=
  if condition then .ok () else .error (.consumer code)

/-- `payload.get(field) or default`. -/
def orDefault (format : PyFormat) (payload : List (String × Json)) (field : String)
    (default : Json) : Json :=
  match Json.member? payload field with
  | none => default
  | some value => if value.pyTruth format then value else default

/-- `int(value)` with its errors let through. -/
def intOrRaise (format : PyFormat) (value : Json) : Except ConvertError Int :=
  match value.pyInt format with
  | .ok number => .ok number
  | .error _ => .error .uncaught

/-- `int` of the commodity: `TypeError` and `ValueError` are caught. -/
def commodityOf (format : PyFormat) (value : Json) : Except ConvertError Int :=
  match value.pyInt format with
  | .ok number =>
    if number ≤ 0 then .error (.consumer "project_outbox_payload_commodity_invalid") else .ok number
  | .error .overflow => .error .uncaught
  | .error _ => .error (.consumer "project_outbox_payload_commodity_invalid")

/-- `str(value).upper()`. -/
def upperText (format : PyFormat) (value : Json) : String := pyUpper (value.pyStr format)

def secondOf (instant : Int) : Int := instant / 1000000

def projectObservation (format : PyFormat) (deriveEventKey : String → Vector UInt8 32)
    (claim : OutboxClaim) (now : Int) (eventType settlementTerm tradeForm side price quantity : Json)
    (commodityId remaining : Int) : MarketObservation :=
  { eventKey := (deriveEventKey claim.idempotencyKey).toList
    sourceCode := "PROJECT_MARKET"
    sourceFamily := "PROJECT"
    eventTimeUtc := secondOf claim.occurredAtUtc
    availableAtUtc := secondOf (if now < claim.occurredAtUtc then claim.occurredAtUtc else now)
    instrument := "PROJECT_COMMODITY"
    marketLabel := if upperText format eventType = "TRADE" then "PROJECT_TRADE" else "PROJECT_OFFER"
    settlementTerm := upperText format settlementTerm
    tradeForm := upperText format tradeForm
    eventType := upperText format eventType
    side := upperText format side
    price := decimalOfText (price.pyStr format)
    priceUnit := "PROJECT_THOUSAND_TOMAN"
    currency := upperText format (orDefault format claim.payload "currency" (.str "IRT"))
    quantity := some (decimalOfText (quantity.pyStr format))
    quantityUnit := some "COIN_COUNT"
    parseConfidence := 1
    parserVersion := "project-outbox-consumer-v1"
    qualityState := if claim.modelEligible then "ELIGIBLE" else "IGNORED"
    qualityPolicyVersion := "project-direct-v1"
    isConditional := false
    attributes :=
      [("product_commodity_id", .int commodityId), ("lifecycle_event", .str claim.eventKind),
        ("product_status",
          .str (codeText ((orDefault format claim.payload "status" (.str "UNKNOWN")).pyStr format))),
        ("remaining_quantity", .int remaining)] }

def observationFromProjectOutbox (format : PyFormat) (deriveEventKey : String → Vector UInt8 32)
    (claim : OutboxClaim) (now : Int) : Except ConvertError MarketObservation := do
  let payload := claim.payload
  let version ← requiredPayload payload "version"
  let version ← intOrRaise format version
  refuseUnless (version = 1) "project_outbox_payload_version_unsupported"
  let instrument ← requiredPayload payload "instrument"
  refuseUnless (upperText format instrument = "PROJECT_COMMODITY")
    "project_outbox_payload_instrument_invalid"
  let eventType ← requiredPayload payload "event_type"
  refuseUnless (upperText format eventType ∈ ["OFFER", "TRADE"])
    "project_outbox_payload_event_type_invalid"
  let priceUnit ← requiredPayload payload "price_unit"
  refuseUnless (upperText format priceUnit = "PROJECT_THOUSAND_TOMAN")
    "project_outbox_payload_price_unit_invalid"
  let commodity ← requiredPayload payload "commodity_id"
  let commodityId ← commodityOf format commodity
  let settlementTerm ← requiredPayload payload "settlement_term"
  let tradeForm ← requiredPayload payload "trade_form"
  let side ← requiredPayload payload "side"
  let price ← requiredPayload payload "price"
  let quantity ← requiredPayload payload "quantity"
  let remaining ← intOrRaise format (orDefault format payload "remaining_quantity" (.int 0))
  .ok (projectObservation format deriveEventKey claim now eventType settlementTerm tradeForm side price
    quantity commodityId remaining)

/-- `_claimable_condition` (line 82). -/
def OutboxRow.claimable (row : OutboxRow) (now : Int) : Bool :=
  (row.status = .pending && row.availableAtUtc ≤ now) ||
    (row.status = .processing && row.leaseExpiresAtUtc.any (· ≤ now))

/-- The row after `claim_next_project_market_outbox` (line 97). -/
def OutboxRow.claimed (token : LeaseToken) (now : Int) (leaseSeconds : Int) (row : OutboxRow) :
    OutboxRow :=
  { row with
    status := .processing
    attempts := row.attempts + 1
    leaseToken := some token
    leaseExpiresAtUtc := some (now + (if leaseSeconds < 1 then 1 else leaseSeconds) * 1000000)
    lastErrorCode := none }

def OutboxRow.toClaim (row : OutboxRow) (token : LeaseToken) : OutboxClaim :=
  { id := row.id
    idempotencyKey := row.idempotencyKey
    eventKind := row.eventKind
    occurredAtUtc := row.occurredAtUtc
    payload := row.payload
    modelEligible := row.modelEligible
    leaseToken := token }

def OutboxRow.heldBy (row : OutboxRow) (claim : OutboxClaim) : Bool :=
  row.status = .processing && row.leaseToken = some claim.leaseToken

/-- The row after `complete_project_market_outbox` (line 231). -/
def OutboxRow.completed (now : Int) (row : OutboxRow) : OutboxRow :=
  { row with
    status := .complete
    completedAtUtc := some now
    leaseToken := none
    leaseExpiresAtUtc := none
    lastErrorCode := none }

/-- `_safe_error_code`: small letters, digits and underscores, 96 at most. -/
def safeErrorCode (code : String) : String :=
  let normalized := pyLower (pyStrip code)
  if normalized ≠ "" ∧ normalized.length ≤ 96 ∧ normalized.toList.all (fun c =>
      ('a' ≤ c && c ≤ 'z') || ('0' ≤ c && c ≤ '9') || c = '_') then normalized
  else "delivery_failed"

/-- `_retry_delay_seconds`. -/
def retryDelaySeconds (attempts : Nat) : Nat := min 300 (2 ^ min (max 1 attempts) 8)

def finalFailure (code : String) (attempts : Nat) : Bool :=
  pyStartsWith "project_outbox_payload_" (safeErrorCode code) || maxRetryAttempts ≤ attempts

/-- The row after `fail_project_market_outbox` (line 259). -/
def OutboxRow.putBack (code : String) (now : Int) (row : OutboxRow) : OutboxRow :=
  let released := { row with
    lastErrorCode := some (safeErrorCode code)
    leaseToken := none
    leaseExpiresAtUtc := none }
  if finalFailure code row.attempts then { released with status := .failed }
  else { released with
    status := .pending
    availableAtUtc := now + retryDelaySeconds row.attempts * 1000000 }

/-! ## Payloads that are delivered or refused -/

section Payloads

variable (format : PyFormat) (payload : List (String × Json))

structure FieldsAccepted (term form side price quantity : Json) : Prop where
  remaining : ∃ number,
    (orDefault format payload "remaining_quantity" (.int 0)).pyInt format = .ok number
  term : codeText (upperText format term) ∈ settlementTerms
  form : codeText (upperText format form) ∈ tradeForms
  side : codeText (upperText format side) ∈ sides
  currency : codeText (upperText format (orDefault format payload "currency" (.str "IRT"))) ∈
    ["TOMAN", "IRT"]
  price : ∃ amount, decimalOfText (price.pyStr format) = .finite amount ∧
    5000 ≤ amount ∧ amount ≤ 500000
  quantity : ∃ amount, decimalOfText (quantity.pyStr format) = .finite amount ∧ 0 < amount

/-- With its head in order: the commodity is no infinite float, and the store takes the fields
unless one is missing. -/
def BodyAccepted : Prop :=
  ∀ commodity, given payload "commodity_id" = some commodity →
    commodity.pyInt format ≠ .error .overflow ∧
      ∀ number, commodity.pyInt format = .ok number → 0 < number →
        ∀ term form side price quantity, given payload "settlement_term" = some term →
          given payload "trade_form" = some form → given payload "side" = some side →
            given payload "price" = some price → given payload "quantity" = some quantity →
              FieldsAccepted format payload term form side price quantity

/-- `int` reads the version, if there is one, and a payload that passes the head's checks has an
accepted body. -/
def Deliverable : Prop :=
  ∀ version, given payload "version" = some version →
    ∃ number, version.pyInt format = .ok number ∧
      (number = 1 → ∀ instrument eventType unit, given payload "instrument" = some instrument →
        upperText format instrument = "PROJECT_COMMODITY" →
          given payload "event_type" = some eventType →
            upperText format eventType ∈ ["OFFER", "TRADE"] →
              given payload "price_unit" = some unit →
                upperText format unit = "PROJECT_THOUSAND_TOMAN" → BodyAccepted format payload)

variable {format payload}

variable {field code : String} {value : Json} {condition : Prop} {number now : Int}
  {deriveEventKey : String → Vector UInt8 32} {claim : OutboxClaim}

theorem requiredPayload_eq_ok :
    requiredPayload payload field = .ok value ↔ given payload field = some value := by
  unfold requiredPayload
  cases given payload field with
  | none => exact ⟨nofun, nofun⟩
  | some found =>
    exact ⟨fun h => congrArg some (Except.ok.inj h), fun h => congrArg Except.ok (Option.some.inj h)⟩

theorem requiredPayload_ne_uncaught :
    requiredPayload payload field ≠ .error .uncaught := by
  unfold requiredPayload
  cases given payload field with
  | none => exact fun h => by simp at h
  | some found => exact nofun

theorem refuseUnless_eq_ok [Decidable condition] {value : Unit} :
    refuseUnless condition code = .ok value ↔ condition := by
  unfold refuseUnless
  split
  · next h => exact ⟨fun _ => h, fun _ => rfl⟩
  · next h => exact ⟨nofun, fun hcondition => absurd hcondition h⟩

theorem refuseUnless_ne_uncaught [Decidable condition] :
    refuseUnless condition code ≠ .error .uncaught := by
  unfold refuseUnless
  split
  · exact nofun
  · exact fun h => by simp at h

theorem intOrRaise_eq_ok :
    intOrRaise format value = .ok number ↔ value.pyInt format = .ok number := by
  unfold intOrRaise
  cases value.pyInt format with
  | ok found =>
    exact ⟨fun h => congrArg Except.ok (Except.ok.inj h),
      fun h => congrArg Except.ok (Except.ok.inj h)⟩
  | error error => exact ⟨nofun, nofun⟩

theorem commodityOf_eq_ok (h : commodityOf format value = .ok number) :
    value.pyInt format = .ok number ∧ 0 < number := by
  unfold commodityOf at h
  cases hint : value.pyInt format with
  | error error => cases error <;> simp [hint] at h
  | ok found =>
    simp only [hint] at h
    split at h
    · cases h
    · next hpositive =>
      cases h
      exact ⟨rfl, by omega⟩

theorem commodityOf_uncaught (h : commodityOf format value = .error .uncaught) :
    value.pyInt format = .error .overflow := by
  unfold commodityOf at h
  cases hint : value.pyInt format with
  | error error => cases error <;> simp [hint] at h ⊢
  | ok found =>
    simp only [hint] at h
    split at h <;> simp at h

theorem observation_ne_uncaught (h : Deliverable format claim.payload) :
    observationFromProjectOutbox format deriveEventKey claim now ≠ .error .uncaught := by
  intro hraised
  unfold observationFromProjectOutbox at hraised
  rcases except_bind_eq_error.1 hraised with hstop | ⟨version, hversion, hraised⟩
  · exact requiredPayload_ne_uncaught hstop
  obtain ⟨number, hnumber, hbody⟩ := h version (requiredPayload_eq_ok.1 hversion)
  rcases except_bind_eq_error.1 hraised with hstop | ⟨read, hread, hraised⟩
  · rw [intOrRaise_eq_ok.2 hnumber] at hstop
    cases hstop
  cases hnumber.symm.trans (intOrRaise_eq_ok.1 hread)
  rcases except_bind_eq_error.1 hraised with hstop | ⟨_, hone, hraised⟩
  · exact refuseUnless_ne_uncaught hstop
  rcases except_bind_eq_error.1 hraised with hstop | ⟨instrument, hinstrument, hraised⟩
  · exact requiredPayload_ne_uncaught hstop
  rcases except_bind_eq_error.1 hraised with hstop | ⟨_, hinstrumentRight, hraised⟩
  · exact refuseUnless_ne_uncaught hstop
  rcases except_bind_eq_error.1 hraised with hstop | ⟨eventType, heventType, hraised⟩
  · exact requiredPayload_ne_uncaught hstop
  rcases except_bind_eq_error.1 hraised with hstop | ⟨_, heventTypeRight, hraised⟩
  · exact refuseUnless_ne_uncaught hstop
  rcases except_bind_eq_error.1 hraised with hstop | ⟨priceUnit, hunit, hraised⟩
  · exact requiredPayload_ne_uncaught hstop
  rcases except_bind_eq_error.1 hraised with hstop | ⟨_, hunitRight, hraised⟩
  · exact refuseUnless_ne_uncaught hstop
  have hbody := hbody (refuseUnless_eq_ok.1 hone) instrument eventType priceUnit
    (requiredPayload_eq_ok.1 hinstrument) (refuseUnless_eq_ok.1 hinstrumentRight)
    (requiredPayload_eq_ok.1 heventType) (refuseUnless_eq_ok.1 heventTypeRight)
    (requiredPayload_eq_ok.1 hunit) (refuseUnless_eq_ok.1 hunitRight)
  rcases except_bind_eq_error.1 hraised with hstop | ⟨commodity, hcommodity, hraised⟩
  · exact requiredPayload_ne_uncaught hstop
  obtain ⟨hfinite, hfields⟩ := hbody commodity (requiredPayload_eq_ok.1 hcommodity)
  rcases except_bind_eq_error.1 hraised with hstop | ⟨commodityId, hid, hraised⟩
  · exact hfinite (commodityOf_uncaught hstop)
  obtain ⟨hread, hpositive⟩ := commodityOf_eq_ok hid
  rcases except_bind_eq_error.1 hraised with hstop | ⟨term, hterm, hraised⟩
  · exact requiredPayload_ne_uncaught hstop
  rcases except_bind_eq_error.1 hraised with hstop | ⟨form, hform, hraised⟩
  · exact requiredPayload_ne_uncaught hstop
  rcases except_bind_eq_error.1 hraised with hstop | ⟨side, hside, hraised⟩
  · exact requiredPayload_ne_uncaught hstop
  rcases except_bind_eq_error.1 hraised with hstop | ⟨price, hprice, hraised⟩
  · exact requiredPayload_ne_uncaught hstop
  rcases except_bind_eq_error.1 hraised with hstop | ⟨quantity, hquantity, hraised⟩
  · exact requiredPayload_ne_uncaught hstop
  obtain ⟨remaining, hremaining⟩ := (hfields commodityId hread hpositive term form side price quantity
    (requiredPayload_eq_ok.1 hterm) (requiredPayload_eq_ok.1 hform) (requiredPayload_eq_ok.1 hside)
    (requiredPayload_eq_ok.1 hprice) (requiredPayload_eq_ok.1 hquantity)).remaining
  rcases except_bind_eq_error.1 hraised with hstop | ⟨_, -, hraised⟩
  · rw [intOrRaise_eq_ok.2 hremaining] at hstop
    cases hstop
  · cases hraised

theorem project_codes :
    (∀ text ∈ ["OFFER", "TRADE"], codeText text ∈ eventTypes) ∧
    (∀ currency ∈ ["TOMAN", "IRT"], isCode currency = true ∧
      canonicalCurrency "PROJECT_THOUSAND_TOMAN" currency = .ok "TOMAN") ∧
    isCode (codeText "PROJECT_MARKET") = true ∧ codeText "PROJECT" ∈ sourceFamilies ∧
    (codeText "PROJECT_COMMODITY" = "PROJECT_COMMODITY" ∧ isCode "PROJECT_COMMODITY" = true) ∧
    (isCode (codeText "PROJECT_TRADE") = true ∧ isCode (codeText "PROJECT_OFFER") = true) ∧
    (codeText "PROJECT_THOUSAND_TOMAN" = "PROJECT_THOUSAND_TOMAN" ∧
      "PROJECT_THOUSAND_TOMAN" ∈ priceUnits) ∧
    (pyStrip "project-outbox-consumer-v1" ≠ "" ∧ pyStrip "project-direct-v1" ≠ "") ∧
    (codeText "ELIGIBLE" ∈ qualityStates ∧ codeText "IGNORED" ∈ qualityStates) ∧
    ["product_commodity_id", "lifecycle_event", "product_status", "remaining_quantity"].all
      publicKey = true := by
  decide +kernel

theorem mem_eventTypes {text : String} (h : text ∈ ["OFFER", "TRADE"]) :
    codeText text ∈ eventTypes := project_codes.1 text h

theorem canonicalCurrency_toman {currency : String} (h : currency ∈ ["TOMAN", "IRT"]) :
    isCode currency = true ∧
      canonicalCurrency "PROJECT_THOUSAND_TOMAN" currency = .ok "TOMAN" :=
  project_codes.2.1 currency h

theorem canonicalPriceRange_project :
    canonicalPriceRange "PROJECT_THOUSAND_TOMAN" = some (5000, 500000) := by
  simp [canonicalPriceRange]

section Observation

variable {eventType term form side price quantity : Json} {commodityId remaining : Int}

theorem projectObservation_framed (htype : upperText format eventType ∈ ["OFFER", "TRADE"])
    (h : FieldsAccepted format claim.payload term form side price quantity) :
    (projectObservation format deriveEventKey claim now eventType term form side price quantity
      commodityId remaining).Framed "PROJECT_COMMODITY" "PROJECT_THOUSAND_TOMAN" where
  eventKey := by
    simp [projectObservation]
  sourceCode := project_codes.2.2.1
  sourceFamily := project_codes.2.2.2.1
  times := by
    unfold projectObservation secondOf
    dsimp only
    split
    · exact Int.le_refl _
    · omega
  instrumentCode := project_codes.2.2.2.2.1
  marketLabel := by
    obtain ⟨htrade, hoffer⟩ := project_codes.2.2.2.2.2.1
    unfold projectObservation
    dsimp only
    split
    · exact htrade
    · exact hoffer
  settlementTerm := h.term
  tradeForm := h.form
  eventType := mem_eventTypes htype
  side := h.side
  unit := project_codes.2.2.2.2.2.2.1
  instrumentUnit := by decide
  currency := by
    obtain ⟨hcode, hstored⟩ := canonicalCurrency_toman h.currency
    exact ⟨hcode, _, hstored⟩
  confidence := ⟨zero_le_one, le_rfl⟩
  versions := project_codes.2.2.2.2.2.2.2.1
  qualityState := by
    obtain ⟨heligible, hignored⟩ := project_codes.2.2.2.2.2.2.2.2.1
    unfold projectObservation
    dsimp only
    split
    · exact heligible
    · exact hignored
  attributes := if_pos project_codes.2.2.2.2.2.2.2.2.2

theorem inCanonicalRange_project {amount : Rat} (hlow : 5000 ≤ amount) (hhigh : amount ≤ 500000) :
    inCanonicalRange "PROJECT_THOUSAND_TOMAN" amount = true :=
  (inCanonicalRange_of_range canonicalPriceRange_project).2 ⟨hlow, hhigh⟩

theorem projectObservation_price
    (h : FieldsAccepted format claim.payload term form side price quantity) :
    ∃ amount, (projectObservation format deriveEventKey claim now eventType term form side price
      quantity commodityId remaining).price = .finite amount ∧ 0 < amount ∧
        inCanonicalRange "PROJECT_THOUSAND_TOMAN" amount := by
  obtain ⟨amount, hfinite, hlow, hhigh⟩ := h.price
  have hpositive : 0 < amount := lt_of_lt_of_le (by decide) hlow
  have hrange := inCanonicalRange_project hlow hhigh
  simp only [projectObservation]
  exact ⟨amount, hfinite, hpositive, hrange⟩

theorem projectObservation_quantity
    (h : FieldsAccepted format claim.payload term form side price quantity) :
    ∃ amount, normalizedQuantity
      (projectObservation format deriveEventKey claim now eventType term form side price quantity
        commodityId remaining).quantity
      (projectObservation format deriveEventKey claim now eventType term form side price quantity
        commodityId remaining).quantityUnit = .ok amount :=
  (normalizedQuantity_some (by decide)).2 h.quantity

end Observation

theorem normalized_of_deliverable (h : Deliverable format claim.payload)
    {observation : MarketObservation}
    (hok : observationFromProjectOutbox format deriveEventKey claim now = .ok observation) :
    ∃ normalized, observation.normalized = .ok normalized := by
  unfold observationFromProjectOutbox at hok
  obtain ⟨version, hversion, hok⟩ := except_bind_eq_ok.1 hok
  obtain ⟨number, hnumber, hok⟩ := except_bind_eq_ok.1 hok
  obtain ⟨_, hone, hok⟩ := except_bind_eq_ok.1 hok
  obtain ⟨instrument, hinstrument, hok⟩ := except_bind_eq_ok.1 hok
  obtain ⟨_, hinstrumentRight, hok⟩ := except_bind_eq_ok.1 hok
  obtain ⟨eventType, heventType, hok⟩ := except_bind_eq_ok.1 hok
  obtain ⟨_, heventTypeRight, hok⟩ := except_bind_eq_ok.1 hok
  obtain ⟨priceUnit, hunit, hok⟩ := except_bind_eq_ok.1 hok
  obtain ⟨_, hunitRight, hok⟩ := except_bind_eq_ok.1 hok
  obtain ⟨commodity, hcommodity, hok⟩ := except_bind_eq_ok.1 hok
  obtain ⟨commodityId, hid, hok⟩ := except_bind_eq_ok.1 hok
  obtain ⟨term, hterm, hok⟩ := except_bind_eq_ok.1 hok
  obtain ⟨form, hform, hok⟩ := except_bind_eq_ok.1 hok
  obtain ⟨side, hside, hok⟩ := except_bind_eq_ok.1 hok
  obtain ⟨price, hprice, hok⟩ := except_bind_eq_ok.1 hok
  obtain ⟨quantity, hquantity, hok⟩ := except_bind_eq_ok.1 hok
  obtain ⟨remaining, hremaining, hok⟩ := except_bind_eq_ok.1 hok
  obtain ⟨read, hread, hbody⟩ := h version (requiredPayload_eq_ok.1 hversion)
  cases hread.symm.trans (intOrRaise_eq_ok.1 hnumber)
  obtain ⟨hcommodityRead, hpositive⟩ := commodityOf_eq_ok hid
  have htype := refuseUnless_eq_ok.1 heventTypeRight
  have hfields := (hbody (refuseUnless_eq_ok.1 hone) instrument eventType priceUnit
    (requiredPayload_eq_ok.1 hinstrument) (refuseUnless_eq_ok.1 hinstrumentRight)
    (requiredPayload_eq_ok.1 heventType) htype (requiredPayload_eq_ok.1 hunit)
    (refuseUnless_eq_ok.1 hunitRight) commodity (requiredPayload_eq_ok.1 hcommodity)).2
    commodityId hcommodityRead hpositive term form side price quantity
    (requiredPayload_eq_ok.1 hterm) (requiredPayload_eq_ok.1 hform) (requiredPayload_eq_ok.1 hside)
    (requiredPayload_eq_ok.1 hprice) (requiredPayload_eq_ok.1 hquantity)
  rw [← Except.ok.inj hok]
  exact (projectObservation_framed htype hfields).normalized_isOk_iff.2
    ⟨projectObservation_price hfields, projectObservation_quantity hfields⟩

end Payloads

end TradingBot.Intelligence
