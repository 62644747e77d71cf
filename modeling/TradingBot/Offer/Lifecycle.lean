import TradingBot.Offer.Model

/-!
# Offer lifetime projection

`src/core/offer_lifecycle.py`: the deadlines of an offer, the intake phase of a request from its
receipt time, and the projection that every surface displays.
-/

namespace TradingBot

inductive OfferLifecyclePhase where
  | normal
  | overtime
  | finalTail
  | expired
  | unavailable
  deriving DecidableEq, Repr

inductive OfferRequestIntakePhase where
  | automatic
  | approval
  | rejected
  deriving DecidableEq, Repr

/-- `read_overtime_minutes_snapshot`: the snapshot, clamped to `0..10`. -/
def readOvertimeMinutesSnapshot (offer : Offer) : Int :=
  max 0 (min 10 offer.overtimeMinutesSnapshot)

/-- `read_normal_lifetime_minutes` of an integer. -/
def readNormalLifetimeMinutes (minutes : Int) : Int := max 0 minutes

def computeLifecycleDeadlines (createdAt : Option Int) (normalLifetimeMinutes : Int)
    (overtimeMinutesSnapshot : Int) : Option (Int × Int) :=
  match createdAt with
  | none => none
  | some created =>
    if normalLifetimeMinutes ≤ 0 then none
    else
      let normalDeadline := created + normalLifetimeMinutes * minute
      some (normalDeadline, normalDeadline + max 0 overtimeMinutesSnapshot * minute)

def classifyRequestIntakePhase (receiptAt : Option Int) (deadlines : Option (Int × Int))
    (overtimeMinutesSnapshot : Int) : OfferRequestIntakePhase :=
  match receiptAt, deadlines with
  | some receipt, some (normal, final) =>
    if receipt < normal then .automatic
    else if 0 < overtimeMinutesSnapshot ∧ normal < receipt ∧ receipt < final then .approval
    else .rejected
  | _, _ => .automatic

def Offer.deadlines (offer : Offer) (normalLifetimeMinutes : Int) : Option (Int × Int) :=
  computeLifecycleDeadlines offer.createdAt normalLifetimeMinutes
    (readOvertimeMinutesSnapshot offer)

/-- `_classify_intake_for_offer` (offer_overtime_request_service.py:404) at `receiptAt`. -/
def classifyIntakeForOffer (offer : Offer) (receiptAt : Int) (normalLifetimeMinutes : Int) :
    OfferRequestIntakePhase :=
  classifyRequestIntakePhase (some receiptAt) (offer.deadlines normalLifetimeMinutes)
    (readOvertimeMinutesSnapshot offer)

/-- `OfferLifecycleProjection`, with the two deadlines as they are computed: both or neither. -/
structure OfferLifecycleProjection where
  normalLifetimeMinutes : Int
  overtimeMinutesSnapshot : Int
  deadlines : Option (Int × Int)
  timerTotalSeconds : Option Int
  phase : OfferLifecyclePhase
  acceptsAutomaticTrade : Bool
  acceptsOvertimeRequest : Bool
  acceptsNewPublicInteraction : Bool
  terminalExpiryDue : Bool
  deriving DecidableEq, Repr

def projectOfferLifecycle (offer : Offer) (normalLifetimeMinutes : Int) (asOf : Int)
    (hasFinalTailRequest : Bool) : OfferLifecycleProjection :=
  let normalMinutes := readNormalLifetimeMinutes normalLifetimeMinutes
  let overtime := readOvertimeMinutesSnapshot offer
  let isActive := offer.status == .active
  match offer.deadlines normalMinutes with
  | none => ⟨normalMinutes, overtime, none, none, .unavailable, true, false, isActive, false⟩
  | some (normal, final) =>
    let intake := classifyRequestIntakePhase (some asOf) (some (normal, final)) overtime
    let automatic := intake == .automatic
    let approval := intake == .approval
    let deadlines := some (normal, final)
    if !isActive then
      ⟨normalMinutes, overtime, deadlines, none, .expired, false, false, false, false⟩
    else if asOf < normal then
      ⟨normalMinutes, overtime, deadlines, some (normalMinutes * 60), .normal, automatic,
        approval, automatic || approval, false⟩
    else if 0 < overtime ∧ asOf < final then
      ⟨normalMinutes, overtime, deadlines, some (overtime * 60), .overtime, automatic,
        approval, automatic || approval, false⟩
    else if hasFinalTailRequest ∧ final ≤ asOf then
      ⟨normalMinutes, overtime, deadlines, some 0, .finalTail, false, false, false, false⟩
    else
      ⟨normalMinutes, overtime, deadlines, some 0, .expired, false, false, false,
        decide (final ≤ asOf) && !hasFinalTailRequest⟩

theorem projectOfferLifecycle_deadlines (offer : Offer) (normalLifetimeMinutes asOf : Int)
    (tail : Bool) : (projectOfferLifecycle offer normalLifetimeMinutes asOf tail).deadlines =
      offer.deadlines (readNormalLifetimeMinutes normalLifetimeMinutes) := by
  unfold projectOfferLifecycle
  dsimp only
  cases h : offer.deadlines (readNormalLifetimeMinutes normalLifetimeMinutes) with
  | none => rfl
  | some pair =>
    obtain ⟨normal, final⟩ := pair
    dsimp only
    split_ifs <;> rfl

end TradingBot
