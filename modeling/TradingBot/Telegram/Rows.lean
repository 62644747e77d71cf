import TradingBot.Misc.Table
import TradingBot.Telegram.Classification
import TradingBot.Telegram.Steps

/-!
# What the small steps keep

Facts about single rows that the queue's invariants share: a change keeps what the job is for, only
a claim raises its lease token, nothing leaves a final state, and a row locked by a mark under way
keeps its fence.
-/

namespace TradingBot.Telegram

open Misc

section Settle

variable (q : Queue) (id : Nat) (row : Record) (result : GatewayResult) (policy : RetryPolicy)
  (window now linearized : Int)

theorem persistRateLimitEvidence_eq (decision : Decision) :
    ∃ (limitedAt limitedUntil cooldown retryAt : Option Int),
      q.persistRateLimitEvidence id row decision window now linearized =
        { row with
          lastRateLimitedAt := limitedAt
          lastRateLimitUntil := limitedUntil
          botCooldownUntil := cooldown
          nextRetryAt := retryAt } ∧
      (decision.reason ≠ "telegram_rate_limited" → retryAt = row.nextRetryAt) := by
  unfold Queue.persistRateLimitEvidence
  split
  case h_2 =>
    exact ⟨row.lastRateLimitedAt, row.lastRateLimitUntil, row.botCooldownUntil, row.nextRetryAt,
      rfl, fun _ => rfl⟩
  case h_1 deadline _ =>
    split
    case isFalse =>
      exact ⟨row.lastRateLimitedAt, row.lastRateLimitUntil, row.botCooldownUntil, row.nextRetryAt,
        rfl, fun _ => rfl⟩
    case isTrue hlimited =>
      dsimp only
      split
      · exact ⟨_, _, row.botCooldownUntil, row.nextRetryAt, rfl, fun _ => rfl⟩
      · exact ⟨_, _, _, _, rfl, fun hreason => absurd hlimited hreason⟩

structure Settled (settled : Record) : Prop where
  destinationKey : settled.destinationKey = row.destinationKey
  method : settled.method = row.method
  leaseToken : settled.leaseToken = row.leaseToken
  dispatchStartedAt : settled.dispatchStartedAt = row.dispatchStartedAt
  state : settled.state = (applyGatewayResult policy row.toContract result now).1.state
  outcomeReason : settled.outcomeReason =
    some (applyGatewayResult policy row.toContract result now).2.reason
  nextRetryAt : (applyGatewayResult policy row.toContract result now).2.reason ≠
      "telegram_rate_limited" →
    settled.nextRetryAt = (applyGatewayResult policy row.toContract result now).1.nextRetryAt

theorem settled_settle :
    Settled row result policy now (q.settle id row result policy window now linearized).1 := by
  unfold Queue.settle
  dsimp only
  obtain ⟨_, _, _, retryAt, hrow, hretry⟩ := persistRateLimitEvidence_eq q id
    (row.withJob (applyGatewayResult policy row.toContract result now).1
      (applyGatewayResult policy row.toContract result now).2 result) window now linearized
    (applyGatewayResult policy row.toContract result now).2
  rw [hrow]
  exact ⟨rfl, rfl, rfl, rfl, rfl, rfl, hretry⟩

end Settle

/-! ## Every change of a row -/

section RowChange

variable {late : Bool} {q : Queue} {id : Nat} {row row' : Record} {events : List Event}

theorem freshened_kept (row : Record) (decision : FreshnessDecision) (waitUntil : Int)
    (reason : String) (now : Int) :
    let fresh := row.freshened decision waitUntil reason now
    fresh.destinationKey = row.destinationKey ∧ fresh.method = row.method ∧
      fresh.leaseToken = row.leaseToken ∧ fresh.dispatchStartedAt = row.dispatchStartedAt := by
  unfold Record.freshened
  dsimp only
  split
  · split <;> exact ⟨rfl, rfl, rfl, rfl⟩
  · split <;> exact ⟨rfl, rfl, rfl, rfl⟩

theorem freshened_state (row : Record) {decision : FreshnessDecision} (waitUntil : Int)
    (reason : String) (now : Int) (hsend : decision.outcome ≠ .send) :
    (row.freshened decision waitUntil reason now).state.isFinal = true ∨
      (row.freshened decision waitUntil reason now).state = .pendingRetry ∨
      (row.freshened decision waitUntil reason now).state = .pendingReconcile ∧
        (row.freshened decision waitUntil reason now).nextRetryAt = none := by
  unfold Record.freshened
  dsimp only
  split
  case isTrue =>
    split
    · exact .inl rfl
    · exact .inr (.inr ⟨rfl, rfl⟩)
  case isFalse hreclassify =>
    split
    case isTrue => exact .inr (.inl rfl)
    case isFalse hwait =>
      left
      dsimp only
      unfold applyFreshnessDecision
      cases houtcome : decision.outcome with
      | send => exact absurd houtcome hsend
      | waitDependency => exact absurd houtcome hwait
      | reclassify =>
        have hreplacement : decision.hasReplacement = false := by
          simpa [houtcome] using hreclassify
        simp only [hreplacement]
        rfl
      | _ => rfl

theorem reconcilePending_kept (row : Record) (decision : FreshnessDecision) (now : Int) :
    let settled := row.reconcilePending decision now
    settled.destinationKey = row.destinationKey ∧ settled.method = row.method ∧
      settled.leaseToken = row.leaseToken := by
  unfold Record.reconcilePending
  dsimp only
  split
  · split <;> exact ⟨rfl, rfl, rfl⟩
  · obtain ⟨hdestination, hmethod, htoken, -⟩ := freshened_kept row decision (now + 1000000)
      (pyTake 160 (decision.note "reconciliation_")) now
    exact ⟨hdestination, hmethod, htoken⟩

theorem reconcilePending_state (row : Record) (decision : FreshnessDecision) (now : Int) :
    let settled := row.reconcilePending decision now
    settled.state.isFinal = true ∨ (settled.dispatchStartedAt = none ∧
      (settled.state = .pendingRetry ∨
        settled.state = .pendingReconcile ∧ settled.nextRetryAt = none)) := by
  unfold Record.reconcilePending
  dsimp only
  split
  case isTrue =>
    split
    · exact .inr ⟨rfl, .inl rfl⟩
    · exact .inl rfl
  case isFalse hsend =>
    exact (freshened_state row (now + 1000000) (pyTake 160 (decision.note "reconciliation_")) now
      hsend).imp_right fun hstate => ⟨rfl, hstate⟩

theorem RowChange.kept (h : RowChange late q id row row' events) :
    row'.destinationKey = row.destinationKey ∧ row'.method = row.method := by
  cases h with
  | freshness _ _ decision waitUntil reason now =>
    obtain ⟨hdestination, hmethod, -⟩ := freshened_kept row decision waitUntil reason now
    exact ⟨hdestination, hmethod⟩
  | settle _ _ result policy window now linearized =>
    have hsettled := settled_settle q id row result policy window now linearized
    exact ⟨hsettled.destinationKey, hsettled.method⟩
  | reconcilePending decision now =>
    obtain ⟨hdestination, hmethod, -⟩ := reconcilePending_kept row decision now
    exact ⟨hdestination, hmethod⟩
  | ready decision waitUntil reason now =>
    obtain ⟨hdestination, hmethod, -⟩ := freshened_kept row decision waitUntil reason now
    exact ⟨hdestination, hmethod⟩
  | _ => exact ⟨rfl, rfl⟩

theorem RowChange.leaseToken (h : RowChange late q id row row' events) :
    row'.leaseToken = row.leaseToken ∨
      (row'.leaseToken = row.leaseToken + 1 ∧ row'.state = .leased ∧
        row'.dispatchStartedAt = none) := by
  cases h with
  | claim => exact .inr ⟨rfl, rfl, rfl⟩
  | freshness _ _ decision waitUntil reason now =>
    exact .inl (freshened_kept row decision waitUntil reason now).2.2.1
  | settle _ _ result policy window now linearized =>
    exact .inl (settled_settle q id row result policy window now linearized).leaseToken
  | reconcilePending decision now => exact .inl (reconcilePending_kept row decision now).2.2
  | ready decision waitUntil reason now =>
    exact .inl (freshened_kept row decision waitUntil reason now).2.2.1
  | _ => exact .inl rfl

theorem fence_open {worker : String} {token : Nat}
    (h : row.normalFence worker token = true ∨ row.recordedFence worker token = true) :
    row.leaseToken = token ∧ row.dispatchStartedAt.isSome = true ∧
      (row.state = .leased ∨ row.isUnresolved = true) := by
  obtain h | h := h
  · simp only [Record.normalFence, Record.hasLease, Bool.and_eq_true, decide_eq_true_eq] at h
    exact ⟨h.1.2, h.2, .inl h.1.1.1⟩
  · simp only [Record.recordedFence, Bool.and_eq_true, Bool.or_eq_true, decide_eq_true_eq] at h
    exact ⟨h.1.1.1, h.1.1.2, h.2⟩

theorem fence_not_final {worker : String} {token : Nat}
    (h : row.normalFence worker token = true ∨ row.recordedFence worker token = true) :
    row.state.isFinal = false := by
  obtain ⟨-, -, hstate⟩ := fence_open h
  cases hcase : row.state <;> simp_all [Record.isUnresolved, DeliveryState.isFinal]

theorem RowChange.not_final (h : RowChange late q id row row' events) :
    row.state.isFinal = false := by
  have hclaimable : row.state.isClaimable = true → row.state.isFinal = false := by
    cases row.state <;> simp [DeliveryState.isClaimable, DeliveryState.isFinal]
  cases h with
  | claim _ _ _ _ _ hclaim =>
    simp only [Queue.isClaimable, Bool.and_eq_true] at hclaim
    exact hclaimable hclaim.1.1.1.1.2
  | freshness _ _ _ _ _ _ _ hlease =>
    rw [Record.hasLease_state hlease]
    rfl
  | giveBack _ _ _ _ _ hleased => rw [hleased]; rfl
  | expired _ _ _ hleased => rw [hleased]; rfl
  | settle _ _ _ _ _ _ _ _ _ hfence =>
    exact fence_not_final hfence
  | reconcilePending decision now hstate => rw [hstate]; rfl
  | confirmDelivery messageId now hstate => obtain hstate | hstate := hstate <;> rw [hstate] <;> rfl
  | confirmAbsent reason now hstate => obtain hstate | hstate := hstate <;> rw [hstate] <;> rfl
  | escalate reason now hstate => rw [hstate]; rfl
  | ready _ _ _ _ _ _ hstate => exact hclaimable hstate
  | resume =>
    cases hcase : row.state <;> simp_all [DeliveryState.isFinal]
  | supersede now hstate => exact hclaimable hstate

end RowChange

theorem RowChange.unmarked {late : Bool} {q : Queue} {id : Nat} {row row' : Record}
    {events : List Event} (h : RowChange late q id row row' events) :
    ∀ job token method destination at_,
      Event.marked job token method destination at_ ∉ events := by
  cases h with
  | settle =>
    intro job token' method destination at_
    unfold Queue.settleEvents
    split <;> simp
  | _ => simp

theorem suffix_of_not_mem {event : Event} {earlier history : List Event} :
    ∀ {events : List Event}, event :: earlier <:+ events ++ history → event ∉ events →
      event :: earlier <:+ history := by
  intro events
  induction events with
  | nil => intro h _; exact h
  | cons latest events ih =>
    intro h hnot
    obtain hsame | hrest := List.suffix_cons_iff.mp h
    · exact absurd ((List.cons.inj hsame).1 ▸ List.mem_cons_self) hnot
    · exact ih hrest fun hmem => hnot (List.mem_cons_of_mem _ hmem)

def MarkingFenced (q : Queue) : Prop :=
  ∀ marking, q.marking = some marking → ∃ row, q.jobs.lookup marking.job = some row ∧
    row.hasLease marking.worker marking.token = true ∧ row.dispatchStartedAt = none ∧
    marking.sampledAt ≤ q.clock

def Record.dispatched (row : Record) (at_ : Int) (probe : Bool) : Record :=
  { row with
    dispatchStartedAt := some at_
    providerAttemptCount := row.providerAttemptCount + 1
    rateLimitProbe := probe
    updatedAt := at_ }

theorem finishMark_eq {q : Queue} {marking : Marking} {row : Record} {probe : Bool}
    (hmarking : q.marking = some marking) (hfound : q.jobs.lookup marking.job = some row)
    (hlease : later row.leaseUntil q.clock = true) :
    q.finishMark probe =
      { q with
        jobs := q.jobs.insert marking.job (row.dispatched (max marking.sampledAt q.clock) probe)
        marking := none
        history := .marked marking.job marking.token row.method row.destinationKey
          (max marking.sampledAt q.clock) :: q.history } := by
  unfold Queue.finishMark
  rw [hmarking]
  dsimp only
  rw [hfound]
  dsimp only
  rw [if_pos hlease]
  rfl

theorem markingFenced_micro {late : Bool} {q q' : Queue} (hq : MarkingFenced q)
    (h : Micro late q q') : MarkingFenced q' := by
  have hother : ∀ (id : Nat) (row : Record) (jobs' : AList (fun _ : Nat => Record)),
      jobs' = q.jobs.insert id row →
      (∀ marking, q.marking = some marking → marking.job ≠ id) →
      ∀ marking, q.marking = some marking → ∃ row, jobs'.lookup marking.job = some row ∧
        row.hasLease marking.worker marking.token = true ∧ row.dispatchStartedAt = none ∧
        marking.sampledAt ≤ q.clock := by
    intro id row jobs' hjobs hne marking hmarking
    obtain ⟨locked, hfound, hrest⟩ := hq marking hmarking
    refine ⟨locked, ?_, hrest⟩
    rw [hjobs, lookup_insert, if_neg (hne marking hmarking)]
    exact hfound
  cases h with
  | advance time =>
    intro marking hmarking
    obtain ⟨row, hfound, hlease, hstarted, hsampled⟩ := hq marking hmarking
    exact ⟨row, hfound, hlease, hstarted, by dsimp only; omega⟩
  | enqueue id row hfresh =>
    refine hother id row _ rfl ?_
    rintro marking hmarking rfl
    obtain ⟨locked, hfound, -⟩ := hq marking hmarking
    rw [hfresh] at hfound
    cases hfound
  | row id _ row' _ hfree =>
    refine hother id row' _ rfl ?_
    intro marking hmarking
    simpa [Queue.rowFree, hmarking] using hfree
  | beginMark _ row _ _ _ hnow _ hfound hlease hstarted =>
    intro marking hmarking'
    cases hmarking'
    exact ⟨row, hfound, hlease, hstarted, hnow⟩
  | finishMark _ _ _ hmarking hfound hlease =>
    rw [finishMark_eq hmarking hfound hlease]
    intro marking' hmarking'
    cases hmarking'
  | abandonMark =>
    intro marking hmarking
    cases hmarking
  | record => exact hq
  | quarantine => exact hq
  | applied => exact hq
  | control => exact hq

end TradingBot.Telegram
