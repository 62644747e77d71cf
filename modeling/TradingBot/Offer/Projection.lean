import TradingBot.Offer.Lifecycle

/-!
# The flags of a projected lifecycle

What `project_offer_lifecycle` (src/core/offer_lifecycle.py:132) lets an offer accept at an instant,
against its status and the phase of a request received then, and how the phase moves with time.
Without a usable lifetime the public interaction follows the status, and the automatic trade does
not.
-/

namespace TradingBot

def OfferLifecyclePhase.rank : OfferLifecyclePhase → Nat
  | .normal | .unavailable => 0
  | .overtime => 1
  | .finalTail => 2
  | .expired => 3

def intakeAt (offer : Offer) (normalLifetimeMinutes asOf : Int) : OfferRequestIntakePhase :=
  classifyIntakeForOffer offer asOf (readNormalLifetimeMinutes normalLifetimeMinutes)

/-- The flags agree with the status and the phase of a request, and the phase does not move back. -/
structure ProjectionSound (offer : Offer) (normalLifetimeMinutes asOf : Int) (hasFinalTailRequest : Bool) :
    Prop where
  automatic :
    (projectOfferLifecycle offer normalLifetimeMinutes asOf hasFinalTailRequest).acceptsAutomaticTrade =
        true →
      offer.status = .active ∧ intakeAt offer normalLifetimeMinutes asOf = .automatic
  overtime :
    (projectOfferLifecycle offer normalLifetimeMinutes asOf hasFinalTailRequest).acceptsOvertimeRequest =
        true →
      offer.status = .active ∧ intakeAt offer normalLifetimeMinutes asOf = .approval
  public_ :
    let projection := projectOfferLifecycle offer normalLifetimeMinutes asOf hasFinalTailRequest
    projection.acceptsNewPublicInteraction =
      (projection.acceptsAutomaticTrade || projection.acceptsOvertimeRequest)
  due :
    let projection := projectOfferLifecycle offer normalLifetimeMinutes asOf hasFinalTailRequest
    projection.terminalExpiryDue = true →
      projection.acceptsAutomaticTrade = false ∧ projection.acceptsOvertimeRequest = false ∧
        projection.acceptsNewPublicInteraction = false ∧ ∃ deadlines ∈ projection.deadlines,
          deadlines.2 ≤ asOf
  forward : ∀ later, asOf ≤ later →
    (projectOfferLifecycle offer normalLifetimeMinutes asOf hasFinalTailRequest).phase.rank ≤
      (projectOfferLifecycle offer normalLifetimeMinutes later hasFinalTailRequest).phase.rank

section Projection

variable {offer : Offer} {minutes asOf normal final : Int} {tail : Bool}

theorem deadlines_eq_none_iff : offer.deadlines (readNormalLifetimeMinutes minutes) = none ↔
    offer.createdAt = none ∨ minutes ≤ 0 := by
  unfold Offer.deadlines computeLifecycleDeadlines readNormalLifetimeMinutes
  cases offer.createdAt with
  | none => simp
  | some created =>
    simp only [reduceCtorEq, false_or]
    split
    · rename_i hzero
      exact iff_of_true rfl (by omega)
    · rename_i hpositive
      exact iff_of_false (Option.some_ne_none _) (by omega)

theorem deadlines_ordered (h : offer.deadlines (readNormalLifetimeMinutes minutes) = some (normal, final)) :
    normal ≤ final ∧ (readOvertimeMinutesSnapshot offer ≤ 0 → final = normal) := by
  unfold Offer.deadlines computeLifecycleDeadlines at h
  split at h
  · cases h
  · split at h
    · cases h
    · simp only [Option.some.injEq, Prod.mk.injEq] at h
      obtain ⟨rfl, rfl⟩ := h
      unfold minute second
      constructor
      · omega
      · intro hzero
        omega

theorem projectOfferLifecycle_active (hstatus : offer.status = .active)
    (h : offer.deadlines (readNormalLifetimeMinutes minutes) = some (normal, final)) :
    (projectOfferLifecycle offer minutes asOf tail).phase =
      if asOf < normal then .normal
      else if 0 < readOvertimeMinutesSnapshot offer ∧ asOf < final then .overtime
      else if tail = true ∧ final ≤ asOf then .finalTail
      else .expired := by
  simp only [projectOfferLifecycle, h, hstatus, beq_self_eq_true, Bool.not_true, Bool.false_eq_true,
    if_false]
  split_ifs <;> rfl

theorem projectOfferLifecycle_inactive (hstatus : offer.status ≠ .active)
    (h : offer.deadlines (readNormalLifetimeMinutes minutes) = some (normal, final)) :
    projectOfferLifecycle offer minutes asOf tail =
      ⟨readNormalLifetimeMinutes minutes, readOvertimeMinutesSnapshot offer, some (normal, final), none,
        .expired, false, false, false, false⟩ := by
  have hinactive : (offer.status == .active) = false := beq_eq_false_iff_ne.mpr hstatus
  simp only [projectOfferLifecycle, h, hinactive, Bool.not_false, if_true]

theorem projectOfferLifecycle_unavailable
    (h : offer.deadlines (readNormalLifetimeMinutes minutes) = none) :
    projectOfferLifecycle offer minutes asOf tail =
      ⟨readNormalLifetimeMinutes minutes, readOvertimeMinutesSnapshot offer, none, none, .unavailable, true,
        false, offer.status == .active, false⟩ := by
  simp only [projectOfferLifecycle, h]

theorem intakeAt_unavailable (h : offer.deadlines (readNormalLifetimeMinutes minutes) = none) :
    intakeAt offer minutes asOf = .automatic := by
  rw [intakeAt, classifyIntakeForOffer, h]
  rfl

theorem ProjectionSound.of_inactive (hstatus : offer.status ≠ .active)
    (h : offer.deadlines (readNormalLifetimeMinutes minutes) = some (normal, final)) :
    ProjectionSound offer minutes asOf tail := by
  constructor
  · intro haccepts
    rw [projectOfferLifecycle_inactive hstatus h] at haccepts
    cases haccepts
  · intro haccepts
    rw [projectOfferLifecycle_inactive hstatus h] at haccepts
    cases haccepts
  · rw [projectOfferLifecycle_inactive hstatus h]
    rfl
  · intro projection hdue
    rw [show projection = _ from projectOfferLifecycle_inactive hstatus h] at hdue
    cases hdue
  · intro later _
    rw [projectOfferLifecycle_inactive hstatus h, projectOfferLifecycle_inactive hstatus h]

theorem ProjectionSound.of_unavailable (hstatus : offer.status = .active)
    (h : offer.deadlines (readNormalLifetimeMinutes minutes) = none) :
    ProjectionSound offer minutes asOf tail := by
  constructor
  · exact fun _ => ⟨hstatus, intakeAt_unavailable h⟩
  · intro haccepts
    rw [projectOfferLifecycle_unavailable h] at haccepts
    cases haccepts
  · rw [projectOfferLifecycle_unavailable h, hstatus]
    rfl
  · intro projection hdue
    rw [show projection = _ from projectOfferLifecycle_unavailable h] at hdue
    cases hdue
  · intro later _
    rw [projectOfferLifecycle_unavailable h, projectOfferLifecycle_unavailable h]

theorem projectOfferLifecycle_flags (asOf : Int) (tail : Bool) (hstatus : offer.status = .active)
    (h : offer.deadlines (readNormalLifetimeMinutes minutes) = some (normal, final)) :
    let projection := projectOfferLifecycle offer minutes asOf tail
    (projection.acceptsAutomaticTrade = true → intakeAt offer minutes asOf = .automatic) ∧
      (projection.acceptsOvertimeRequest = true → intakeAt offer minutes asOf = .approval) ∧
      projection.acceptsNewPublicInteraction =
        (projection.acceptsAutomaticTrade || projection.acceptsOvertimeRequest) ∧
      (projection.terminalExpiryDue = true → projection.acceptsAutomaticTrade = false ∧
        projection.acceptsOvertimeRequest = false ∧ projection.acceptsNewPublicInteraction = false ∧
        ∃ deadlines ∈ projection.deadlines, deadlines.2 ≤ asOf) := by
  have hintake : intakeAt offer minutes asOf =
      classifyRequestIntakePhase (some asOf) (some (normal, final))
        (readOvertimeMinutesSnapshot offer) := by
    rw [intakeAt, classifyIntakeForOffer, h]
  simp only [projectOfferLifecycle, h, hstatus, hintake, beq_self_eq_true, Bool.not_true,
    Bool.false_eq_true, if_false]
  split_ifs <;> simp_all

theorem ProjectionSound.of_active (hstatus : offer.status = .active)
    (h : offer.deadlines (readNormalLifetimeMinutes minutes) = some (normal, final)) :
    ProjectionSound offer minutes asOf tail := by
  obtain ⟨hautomatic, hovertime, hpublic, hdue⟩ :=
    projectOfferLifecycle_flags asOf tail hstatus h
  refine ⟨fun haccepts => ⟨hstatus, hautomatic haccepts⟩, fun haccepts => ⟨hstatus, hovertime haccepts⟩,
    hpublic, hdue, fun later hlater => ?_⟩
  obtain ⟨hordered, hequal⟩ := deadlines_ordered h
  rw [projectOfferLifecycle_active hstatus h, projectOfferLifecycle_active hstatus h]
  cases tail with
  | true =>
    simp only [true_and]
    split_ifs <;> simp only [OfferLifecyclePhase.rank] <;> omega
  | false =>
    simp only [Bool.false_eq_true, false_and, if_false]
    split_ifs <;> simp only [OfferLifecyclePhase.rank] <;> omega

end Projection

/-- They do exactly when the offer is active or has a usable lifetime. -/
theorem projection_sound_iff (offer : Offer) (normalLifetimeMinutes asOf : Int)
    (hasFinalTailRequest : Bool) :
    ProjectionSound offer normalLifetimeMinutes asOf hasFinalTailRequest ↔
      offer.status = .active ∨ (offer.createdAt ≠ none ∧ 0 < normalLifetimeMinutes) := by
  cases h : offer.deadlines (readNormalLifetimeMinutes normalLifetimeMinutes) with
  | none =>
    have hunusable : ¬ (offer.createdAt ≠ none ∧ 0 < normalLifetimeMinutes) := by
      rintro ⟨hcreated, hpositive⟩
      rcases deadlines_eq_none_iff.mp h with hnone | hzero
      · exact hcreated hnone
      · omega
    constructor
    · intro hsound
      refine .inl (hsound.automatic ?_).1
      rw [projectOfferLifecycle_unavailable h]
    · rintro (hstatus | husable)
      · exact .of_unavailable hstatus h
      · exact absurd husable hunusable
  | some deadlines =>
    have husable : offer.createdAt ≠ none ∧ 0 < normalLifetimeMinutes := by
      have hnot := mt deadlines_eq_none_iff.mpr (by rw [h]; exact Option.some_ne_none _)
      rw [not_or, Int.not_le] at hnot
      exact hnot
    refine iff_of_true ?_ (.inr husable)
    by_cases hstatus : offer.status = .active
    · exact .of_active hstatus h
    · exact .of_inactive hstatus h

def completedOffer : Offer :=
  { id := 8, offerPublicId := "ofr_8", userId := some 3, homeServer := "foreign", offerType := .sell,
    commodityId := 1, quantity := 10, price := 100000, remainingQuantity := some 0,
    isWholesale := false, lotSizes := none, overtimeMinutesSnapshot := 0,
    overtimeTradeCommitted := false, status := .completed, expireReason := none, expiredAt := none,
    expiredByUserId := none, expiredByActorUserId := none, expireSourceSurface := none,
    expireSourceServer := none, createdAt := some 0 }

/-- With the lifetime switched off a completed offer accepts automatic trades. -/
theorem completed_accepts_automatic : ¬ ProjectionSound completedOffer 0 1000 false := by
  intro hsound
  obtain ⟨hstatus, -⟩ := hsound.automatic (by decide)
  cases hstatus

end TradingBot
