import Mathlib.Logic.Relation
import TradingBot.Telegram.Operations

/-!
# Runs of the delivery queue

The commands of the workers, the reconciliation and the operator: each is a sequence of small steps,
which change one row in one of the ways of `RowChange`, or none. The invariants are proved of the
small steps and hold after every run.
-/

namespace TradingBot.Telegram

open Misc

/-- The operations on the queue, with what their callers decide. -/
inductive Command where
  | advance (time : Nat)
  | enqueue (id : Nat) (job : Record)
  | supersede (ids : List Nat) (offer : String) (version now : Int)
  | claim (id : Nat) (lane worker : String) (leaseTime : Nat) (now : Int)
  | beginMark (id : Nat) (worker : String) (token : Nat) (now : Int)
  | finishMark (probe : Bool)
  | abandonMark
  | freshness (id : Nat) (worker : String) (token : Nat) (decision : FreshnessDecision)
      (dependencyRetry now : Int)
  | release (id : Nat) (worker : String) (token : Nat) (reason : String) (retry now : Int)
  | defer (id : Nat) (worker : String) (token : Nat) (reason : String) (retry now : Int)
  | recover (ids : List Nat) (now : Int)
  | record (id : Nat) (worker : String) (token : Nat) (result : GatewayResult)
  | apply (id token : Nat) (policy : RetryPolicy) (window now : Int)
  | resolve (id : Nat) (worker : String) (token : Nat) (result : GatewayResult)
      (policy : RetryPolicy) (window now : Int)
  | reconcile (ids : List Nat) (checks : Nat → Option Checks) (grace now : Int)
  | reconcileReady (ids : List Nat) (decisions : Nat → Option FreshnessDecision) (now : Int)
  | resolveAmbiguous (id : Nat) (delivered : Option Int) (now : Int)
  | prepareResume (request requestedBy destination : String) (bots : List String) (now : Int)
  | failResume (request : String)
  | applyResume (request : String) (prepared : List PauseEvidence) (now : Int)
  | completeResume (request : String) (now : Int)
  | preflightLimited (bot : String) (delay now : Int)
  | preflightActive (bot : String)
  | requestGateResume (key : GateKey) (request : String) (now : Int)
  | failGateResume (key : GateKey) (request : String) (cooldown : Option Int)
  | applyGateResume (key : GateKey) (request : String) (now : Int)
  | completeGateResume (key : GateKey) (request : String)

def Command.sampledAt : Command → Option Int
  | supersede _ _ _ now | claim _ _ _ _ now | beginMark _ _ _ now | freshness _ _ _ _ _ now
  | release _ _ _ _ _ now | defer _ _ _ _ _ now | recover _ now | apply _ _ _ _ now
  | resolve _ _ _ _ _ _ now | reconcile _ _ _ now | reconcileReady _ _ now
  | resolveAmbiguous _ _ now => some now
  | _ => none

namespace Queue

def perform (q : Queue) : Command → Queue
  | .advance time => { q with clock := q.clock + time }
  | .enqueue id job => q.enqueue id job
  | .supersede ids offer version now => q.supersedeObsoleteOfferJobs ids offer version now
  | .claim id lane worker leaseTime now => q.claim id lane worker leaseTime now
  | .beginMark id worker token now => q.beginMark id worker token now
  | .finishMark probe => q.finishMark probe
  | .abandonMark => q.abandonMark
  | .freshness id worker token decision dependencyRetry now =>
    q.applyFreshnessResult id worker token decision dependencyRetry now
  | .release id worker token reason retry now => q.releaseUnstarted id worker token reason retry now
  | .defer id worker token reason retry now => q.deferUnstarted id worker token reason retry now
  | .recover ids now => q.recoverExpiredLeases ids now
  | .record id worker token result => q.recordProviderOutcome id worker token result
  | .apply id token policy window now => q.applyProviderOutcome id token policy window now
  | .resolve id worker token result policy window now =>
    q.resolveDirectly id worker token result policy window now
  | .reconcile ids checks grace now => q.reconcileJobs ids checks grace now
  | .reconcileReady ids decisions now => q.reconcileReadyJobs ids decisions now
  | .resolveAmbiguous id delivered now => q.resolveAmbiguous id delivered now
  | .prepareResume request requestedBy destination bots now =>
    q.prepareResume request requestedBy destination bots now
  | .failResume request => q.failResume request
  | .applyResume request prepared now => q.applyDatabaseResume request prepared now
  | .completeResume request now => q.completeResume request now
  | .preflightLimited bot delay now => q.recordPreflightRateLimit bot delay now
  | .preflightActive bot => q.markPreflightActive bot
  | .requestGateResume key request now => q.requestGateResume key request now
  | .failGateResume key request cooldown => q.failGateResume key request cooldown
  | .applyGateResume key request now => q.applyGateResume key request now
  | .completeGateResume key request => q.completeGateResume key request

/-- One command; a time the clock has not reached cannot have been sampled. -/
def step (q : Queue) (command : Command) : Queue :=
  if command.sampledAt.any (q.clock < ·) then q else q.perform command

end Queue

/-! ## What a row can go through -/

/-- The changes of a row, with what happened; `late` admits a freshness result after the mark. -/
inductive RowChange (late : Bool) (q : Queue) (id : Nat) (row : Record) :
    Record → List Event → Prop where
  | claim (lane worker : String) (leaseTime : Nat) (now : Int) (hnow : now ≤ q.clock)
      (hclaim : q.isClaimable id row lane now = true) :
      RowChange late q id row
        { row with
          state := .leased
          workerId := some worker
          leaseToken := row.leaseToken + 1
          leaseUntil := some (q.clock + leaseTime)
          dispatchStartedAt := none
          attemptCount := row.attemptCount + 1
          updatedAt := q.clock } [.claimed id (row.leaseToken + 1)]
  | freshness (worker : String) (token : Nat) (decision : FreshnessDecision) (waitUntil : Int)
      (reason : String) (now : Int) (hsend : decision.outcome ≠ .send)
      (hlease : row.hasLease worker token = true)
      (hlate : late = true ∨ row.dispatchStartedAt = none) :
      RowChange late q id row (row.freshened decision waitUntil reason now) []
  | giveBack (retryAt : Int) (errorClass errorMessage : Option String) (reason : String)
      (now : Int) (hleased : row.state = .leased) (hstarted : row.dispatchStartedAt = none) :
      RowChange late q id row
        { row with
          state := .pendingRetry
          nextRetryAt := some retryAt
          workerId := none
          leaseUntil := none
          lastErrorClass := errorClass
          lastErrorMessage := errorMessage
          outcomeReason := some reason
          updatedAt := now } []
  | expired (state : DeliveryState) (reason : String) (now : Int) (hleased : row.state = .leased)
      (hstarted : row.dispatchStartedAt.isSome = true)
      (hstate : state = if isSendMethod row.method then .ambiguous else .pendingReconcile) :
      RowChange late q id row
        { row with
          state := state
          nextRetryAt := none
          workerId := none
          leaseUntil := none
          lastErrorClass := some "LeaseExpired"
          outcomeReason := some reason
          updatedAt := now } []
  | settle (worker : String) (token : Nat) (result : GatewayResult) (policy : RetryPolicy)
      (window now linearized : Int) (hnow : now ≤ q.clock) (hmarking : q.marking = none)
      (hfence : row.normalFence worker token = true ∨ row.recordedFence worker token = true) :
      RowChange late q id row (q.settle id row result policy window now linearized).1
        (Queue.settleEvents id token (q.settle id row result policy window now linearized).1 result)
  | reconcilePending (decision : FreshnessDecision) (now : Int)
      (hstate : row.state = .pendingReconcile) :
      RowChange late q id row (row.reconcilePending decision now) []
  | confirmDelivery (messageId now : Int)
      (hstate : row.state = .ambiguous ∨ row.state = .ambiguousUnresolved) :
      RowChange late q id row (row.confirmDelivery messageId now) []
  | confirmAbsent (reason : String) (now : Int)
      (hstate : row.state = .ambiguous ∨ row.state = .ambiguousUnresolved) :
      RowChange late q id row (row.resetForSafeRetry reason now)
        [.confirmedAbsent id row.leaseToken]
  | escalate (reason : String) (now : Int) (hstate : row.state = .ambiguous) :
      RowChange late q id row (row.holdIn .ambiguousUnresolved reason now) []
  | ready (decision : FreshnessDecision) (waitUntil : Int) (reason : String) (now : Int)
      (hnow : now ≤ q.clock) (hsend : decision.outcome ≠ .send)
      (hstate : row.state.isClaimable = true) (hretry : later row.nextRetryAt now = false) :
      RowChange late q id row (row.freshened decision waitUntil reason now).clearDispatch []
  | resume (reason : String) (cooldown : Option Int) (now : Int)
      (hstate : row.state ∈ [.blockedDestination, .blockedBot, .blockedGateway]) :
      RowChange late q id row { row.resumed reason now with botCooldownUntil := cooldown } []
  | supersede (now : Int) (hstate : row.state.isClaimable = true)
      (hstarted : row.dispatchStartedAt = none) :
      RowChange late q id row
        { row with
          state := .superseded
          nextRetryAt := none
          outcomeReason := some "offer_queue_newer_source_version"
          updatedAt := now } []

inductive Micro (late : Bool) (q : Queue) : Queue → Prop where
  | advance (time : Nat) : Micro late q { q with clock := q.clock + time }
  | enqueue (id : Nat) (row : Record) (hfresh : q.jobs.lookup id = none)
      (hstate : row.state = .pending) (hstarted : row.dispatchStartedAt = none) :
      Micro late q { q with jobs := q.jobs.insert id row }
  | row (id : Nat) (row row' : Record) (events : List Event) (hfree : q.rowFree id = true)
      (hfound : q.jobs.lookup id = some row) (hchange : RowChange late q id row row' events) :
      Micro late q { q with jobs := q.jobs.insert id row', history := events ++ q.history }
  | beginMark (id : Nat) (row : Record) (worker : String) (token : Nat) (now : Int)
      (hnow : now ≤ q.clock) (hmarking : q.marking = none) (hfound : q.jobs.lookup id = some row)
      (hlease : row.hasLease worker token = true) (hstarted : row.dispatchStartedAt = none)
      (hgate : q.gateOpen id row now = true) :
      Micro late q { q with marking := some ⟨id, worker, token, now⟩ }
  | finishMark (marking : Marking) (row : Record) (probe : Bool)
      (hmarking : q.marking = some marking) (hfound : q.jobs.lookup marking.job = some row)
      (hlease : later row.leaseUntil q.clock = true) : Micro late q (q.finishMark probe)
  | abandonMark : Micro late q q.abandonMark
  | record (key : Nat × Nat) (outcome : Outcome) (hfresh : q.outcomes.lookup key = none)
      (hstate : outcome.applyState = .pending) :
      Micro late q { q with outcomes := q.outcomes.insert key outcome }
  | quarantine (key : Nat × Nat) (outcome : Outcome)
      (hfound : q.outcomes.lookup key = some outcome) (hstate : outcome.applyState = .pending) :
      Micro late q
        { q with outcomes := q.outcomes.insert key { outcome with applyState := .quarantined } }
  | applied (key : Nat × Nat) (outcome : Outcome)
      (hfound : q.outcomes.lookup key = some outcome) (hstate : outcome.applyState = .pending) :
      Micro late q
        { q with
          outcomes := q.outcomes.insert key { outcome with applyState := .applied }
          history := .applied key.1 key.2 :: q.history }
  | control (gates : AList (fun _ : GateKey => RuntimeGate))
      (operations : AList (fun _ : String => ResumeOperation)) :
      Micro late q { q with runtimeGates := gates, resumeOperations := operations }

abbrev Micros (late : Bool) : Queue → Queue → Prop := Relation.ReflTransGen (Micro late)

section Micros

variable {late recorded : Bool} {q q' : Queue} {id token : Nat} {worker reason request : String}
  {now retry window : Int} {result : GatewayResult} {policy : RetryPolicy}

theorem Micros.onRow {change : Record → Option (Record × List Event)}
    (hchange : ∀ row row' events, q.jobs.lookup id = some row →
      change row = some (row', events) → RowChange late q id row row' events) :
    Micros late q (q.onRow id change) := by
  unfold Queue.onRow
  split
  case isFalse => exact .refl
  case isTrue hfree =>
    cases hfound : q.jobs.lookup id with
    | none => exact .refl
    | some row =>
      dsimp only
      cases hrow : change row with
      | none => exact .refl
      | some changed =>
        obtain ⟨row', events⟩ := changed
        exact .single (.row id row row' events hfree hfound (hchange row row' events hfound hrow))

theorem Micros.foldl {body : Queue → Nat → Queue}
    (hbody : ∀ (q' : Queue) (id : Nat), q'.clock = q.clock →
      Micros late q' (body q' id) ∧ (body q' id).clock = q'.clock) :
    ∀ (ids : List Nat) (q' : Queue), q'.clock = q.clock →
      Micros late q' (ids.foldl body q') ∧ (ids.foldl body q').clock = q'.clock := by
  intro ids
  induction ids with
  | nil => intro q' _; exact ⟨.refl, rfl⟩
  | cons id ids ih =>
    intro q' hclock
    obtain ⟨hfirst, hsame⟩ := hbody q' id hclock
    obtain ⟨hrest, hkept⟩ := ih (body q' id) (hsame.trans hclock)
    exact ⟨hfirst.trans hrest, hkept.trans hsame⟩

theorem Queue.onRow_clock (q : Queue) (id : Nat)
    (change : Record → Option (Record × List Event)) : (q.onRow id change).clock = q.clock := by
  unfold Queue.onRow
  split
  · cases q.jobs.lookup id with
    | none => rfl
    | some row =>
      dsimp only
      cases change row <;> rfl
  · rfl

/-! ## The operations -/

theorem claim_micros {lane : String} {leaseTime : Nat}
    (hnow : now ≤ q.clock) : Micros late q (q.claim id lane worker leaseTime now) := by
  apply Micros.onRow
  intro row row' events _ hrow
  split at hrow
  case isTrue hclaim =>
    cases hrow
    exact .claim lane worker leaseTime now hnow hclaim
  case isFalse => cases hrow

theorem freshness_micros {decision : FreshnessDecision} {dependencyRetry : Int}
    (hlate : late = true ∨ ∀ row ∈ q.jobs.lookup id, row.hasLease worker token = true →
      row.dispatchStartedAt = none) :
    Micros late q (q.applyFreshnessResult id worker token decision dependencyRetry now) := by
  apply Micros.onRow
  intro row row' events hfound hrow
  split at hrow
  case isTrue hlease =>
    cases hrow
    exact .freshness worker token decision _ _ now hlease.1 hlease.2
      (hlate.imp_right fun h => h row hfound hlease.2)
  case isFalse => cases hrow

theorem Record.hasLease_state {row : Record}
    (h : row.hasLease worker token = true) : row.state = .leased := by
  simp only [Record.hasLease, Bool.and_eq_true, decide_eq_true_eq] at h
  exact h.1.1

theorem release_micros : Micros late q (q.releaseUnstarted id worker token reason retry now) := by
  apply Micros.onRow
  intro row row' events _ hrow
  split at hrow
  case isTrue hlease =>
    rw [Bool.and_eq_true, Option.isNone_iff_eq_none] at hlease
    cases hrow
    exact .giveBack _ _ row.lastErrorMessage _ now (Record.hasLease_state hlease.1) hlease.2
  case isFalse => cases hrow

theorem defer_micros : Micros late q (q.deferUnstarted id worker token reason retry now) := by
  apply Micros.onRow
  intro row row' events _ hrow
  split at hrow
  case isTrue hlease =>
    rw [Bool.and_eq_true, Option.isNone_iff_eq_none] at hlease
    cases hrow
    exact .giveBack _ _ _ _ now (Record.hasLease_state hlease.1) hlease.2
  case isFalse => cases hrow

theorem recoverRow_micros (q : Queue) (now : Int) (id : Nat) :
    Micros late q (q.recoverRow now id) := by
  apply Micros.onRow
  intro row row' events _ hrow
  split at hrow
  case isFalse => cases hrow
  case isTrue hexpired =>
    dsimp only at hrow
    split at hrow
    case isTrue hstarted =>
      cases hrow
      exact .giveBack now _ row.lastErrorMessage _ now hexpired.1
        (Option.isNone_iff_eq_none.mp hstarted)
    case isFalse hstarted =>
      have hsome : row.dispatchStartedAt.isSome = true := by
        cases hcase : row.dispatchStartedAt <;> simp [hcase] at hstarted ⊢
      split at hrow
      case isTrue hsend =>
        cases hrow
        exact .expired .ambiguous _ now hexpired.1 hsome (if_pos hsend).symm
      case isFalse hsend =>
        cases hrow
        exact .expired .pendingReconcile _ now hexpired.1 hsome (if_neg hsend).symm

theorem reconcileRow_micros (q : Queue) (checks : Nat → Option Checks) (grace now : Int)
    (id : Nat) : Micros late q (q.reconcileRow checks grace now id) := by
  apply Micros.onRow
  intro row row' events _ hrow
  cases hcheck : checks id with
  | none =>
    rw [hcheck] at hrow
    cases hrow
  | some check =>
    rw [hcheck] at hrow
    dsimp only at hrow
    split at hrow
    case isTrue => cases hrow
    case isFalse =>
      split at hrow
      case isTrue hpending =>
        cases hrow
        exact .reconcilePending check.freshness now hpending
      case isFalse =>
        split at hrow
        case isFalse => cases hrow
        case isTrue hambiguous =>
          have hstate := hambiguous.1
          cases hobserved : check.observation with
          | confirmedApplied messageId =>
            rw [hobserved] at hrow
            cases hrow
            exact .confirmDelivery messageId now (.inl hstate)
          | confirmedAbsent =>
            rw [hobserved] at hrow
            cases hrow
            exact .confirmAbsent _ now (.inl hstate)
          | inconclusive reason =>
            rw [hobserved] at hrow
            cases hrow
            exact .escalate _ now hstate

theorem reconcileReadyRow_micros {q : Queue} {decisions : Nat → Option FreshnessDecision}
      (hnow : now ≤ q.clock) :
    Micros late q (q.reconcileReadyRow decisions now id) := by
  apply Micros.onRow
  intro row row' events _ hrow
  cases hdecision : decisions id with
  | none =>
    rw [hdecision] at hrow
    cases hrow
  | some decision =>
    rw [hdecision] at hrow
    dsimp only at hrow
    split at hrow
    case isFalse => cases hrow
    case isTrue hready =>
      simp only [Bool.and_eq_true, Bool.not_eq_true', decide_eq_true_eq] at hready
      obtain ⟨⟨⟨⟨⟨hstate, -⟩, -⟩, hretry⟩, -⟩, hsend⟩ := hready
      cases hrow
      exact .ready decision _ _ now hnow hsend hstate hretry

theorem supersedeRow_micros (q : Queue) (offer : String) (version now : Int) (id : Nat) :
    Micros late q (q.supersedeRow offer version now id) := by
  apply Micros.onRow
  intro row row' events _ hrow
  split at hrow
  case isFalse => cases hrow
  case isTrue hobsolete =>
    simp only [Bool.and_eq_true, Option.isNone_iff_eq_none] at hobsolete
    cases hrow
    exact .supersede now hobsolete.1.2 hobsolete.2

theorem resolveAmbiguous_micros {delivered : Option Int} :
    Micros late q (q.resolveAmbiguous id delivered now) := by
  apply Micros.onRow
  intro row row' events _ hrow
  split at hrow
  case isFalse => cases hrow
  case isTrue hstate =>
    cases delivered with
    | none =>
      cases hrow
      exact .confirmAbsent _ now hstate
    | some messageId =>
      dsimp only at hrow
      split at hrow
      · cases hrow
        exact .confirmDelivery messageId now hstate
      · cases hrow

theorem resumeWhere_micros {condition : Record → Bool} {reason : String} {now : Int}
    {cooldown : Record → Option Int} (hstate : ∀ row, condition row = true →
      row.state ∈ [.blockedDestination, .blockedBot, .blockedGateway]) (q : Queue) :
    Micros late q (q.resumeWhere condition fun row =>
      { row.resumed reason now with botCooldownUntil := cooldown row }) := by
  refine (Micros.foldl ?_ _ q rfl).1
  intro q' id _
  refine ⟨Micros.onRow ?_, Queue.onRow_clock _ _ _⟩
  intro row row' events _ hrow
  split at hrow
  case isFalse => cases hrow
  case isTrue hcondition =>
    cases hrow
    exact .resume reason (cooldown row) now (hstate row hcondition)

theorem enqueue_micros {job : Record} : Micros late q (q.enqueue id job) := by
  unfold Queue.enqueue
  split
  case isTrue hfresh => exact .single (.enqueue id _ hfresh.1 rfl rfl)
  case isFalse => exact .refl

theorem beginMark_micros
    (hnow : now ≤ q.clock) : Micros late q (q.beginMark id worker token now) := by
  unfold Queue.beginMark
  split
  case h_1 row hmarking hfound =>
    split
    case isTrue hlease =>
      simp only [Bool.and_eq_true, Option.isNone_iff_eq_none] at hlease
      obtain ⟨⟨⟨hlease, -⟩, hstarted⟩, hgate⟩ := hlease
      exact .single (.beginMark id row worker token now hnow hmarking hfound hlease hstarted hgate)
    case isFalse => exact .refl
  case h_2 => exact .refl

theorem finishMark_micros {probe : Bool} : Micros late q (q.finishMark probe) := by
  cases hmarking : q.marking with
  | none =>
    have hsame : q.finishMark probe = q := by simp [Queue.finishMark, hmarking]
    rw [hsame]
  | some marking =>
    cases hfound : q.jobs.lookup marking.job with
    | none =>
      have habandon : q.finishMark probe = q.abandonMark := by
        simp [Queue.finishMark, hmarking, hfound]
      rw [habandon]
      exact .single .abandonMark
    | some row =>
      by_cases hlease : later row.leaseUntil q.clock = true
      · exact .single (.finishMark marking row probe hmarking hfound hlease)
      · have habandon : q.finishMark probe = q.abandonMark := by
          simp [Queue.finishMark, hmarking, hfound, hlease]
        rw [habandon]
        exact .single .abandonMark

theorem record_micros :
    Micros late q (q.recordProviderOutcome id worker token result) := by
  unfold Queue.recordProviderOutcome
  split
  case isFalse => exact .refl
  case isTrue =>
    split
    case h_2 => exact .refl
    case h_1 row facts _ _ hfresh =>
      split
      · exact .single (.record (id, token) ⟨worker, facts, .pending⟩ hfresh rfl)
      · exact .refl

theorem resolve_settled
    (h : q.resolveDeliveryResult id worker token result recorded policy window now = .settled q') :
    ∃ row linearized, q.rowFree id = true ∧ q.jobs.lookup id = some row ∧ q.marking = none ∧
      (row.normalFence worker token = true ∨ row.recordedFence worker token = true) ∧
      q' = { q.persistRuntimeGateEvidence row
          (q.settle id row result policy window now linearized).2 with
        jobs := q.jobs.insert id (q.settle id row result policy window now linearized).1
        history := Queue.settleEvents id token
          (q.settle id row result policy window now linearized).1 result ++ q.history } := by
  unfold Queue.resolveDeliveryResult at h
  split at h
  case isTrue => cases h
  case isFalse hfree =>
    cases hfound : q.jobs.lookup id with
    | none =>
      rw [hfound] at h
      cases h
    | some row =>
      rw [hfound] at h
      dsimp only at h
      split at h
      case isTrue => cases h
      case isFalse hfence =>
        split at h
        case isTrue => cases h
        case isFalse hmarking =>
          refine ⟨row, q.linearizedAt recorded now, not_not.mp hfree, rfl, by simpa using hmarking, ?_, ?_⟩
          · exact (not_not.mp hfence).imp_right And.right
          · cases h
            rfl

theorem persistRuntimeGateEvidence_eq (q : Queue) (row : Record) (decision : Decision) :
    ∃ gates, q.persistRuntimeGateEvidence row decision = { q with runtimeGates := gates } := by
  unfold Queue.persistRuntimeGateEvidence
  dsimp only
  split
  · exact ⟨_, rfl⟩
  · exact ⟨_, rfl⟩
  · exact ⟨q.runtimeGates, rfl⟩

theorem settled_micros (hnow : now ≤ q.clock)
    (h : q.resolveDeliveryResult id worker token result recorded policy window now = .settled q') :
    Micros late q q' ∧ q'.outcomes = q.outcomes := by
  obtain ⟨row, linearized, hfree, hfound, hmarking, hfence, rfl⟩ := resolve_settled h
  obtain ⟨gates, hgates⟩ := persistRuntimeGateEvidence_eq q row
    (q.settle id row result policy window now linearized).2
  rw [hgates]
  refine ⟨?_, rfl⟩
  have hchange : RowChange late q id row (q.settle id row result policy window now linearized).1
      (Queue.settleEvents id token
        (q.settle id row result policy window now linearized).1 result) :=
    .settle worker token result policy window now linearized hnow hmarking hfence
  exact .tail (.single (.row id row _ _ hfree hfound hchange)) (.control gates q.resumeOperations)

theorem resolve_micros (hnow : now ≤ q.clock) :
    Micros late q (q.resolveDirectly id worker token result policy window now) := by
  unfold Queue.resolveDirectly
  split
  case h_1 q' hsettled => exact (settled_micros hnow hsettled).1
  case h_2 => exact .refl

theorem apply_micros
    (hnow : now ≤ q.clock) : Micros late q (q.applyProviderOutcome id token policy window now) := by
  unfold Queue.applyProviderOutcome
  cases hfound : q.outcomes.lookup (id, token) with
  | none => exact .refl
  | some outcome =>
    dsimp only
    split
    case isTrue => exact .refl
    case isFalse hstate =>
      have hpending : outcome.applyState = .pending := not_not.mp hstate
      split
      case h_1 => exact .refl
      case h_2 => exact .single (.quarantine (id, token) outcome hfound hpending)
      case h_3 q' hsettled =>
        obtain ⟨hmicros, houtcomes⟩ : Micros late q q' ∧ q'.outcomes = q.outcomes :=
          settled_micros hnow hsettled
        exact hmicros.tail (.applied (id, token) outcome (houtcomes ▸ hfound) hpending)

theorem setGate_micros (q : Queue) (key : GateKey) (gate : RuntimeGate) :
    Micros late q (q.setGate key gate) := by
  unfold Queue.setGate
  split
  · exact .refl
  · exact .single (.control _ q.resumeOperations)

theorem prepareResume_micros {requestedBy destination : String} {bots : List String} : Micros late q (q.prepareResume request requestedBy destination bots now) := by
  unfold Queue.prepareResume
  dsimp only
  split
  · exact .refl
  · cases q.resumeOperations.lookup request with
    | none =>
      dsimp only
      split
      · exact .refl
      · exact .single (.control q.runtimeGates _)
    | some operation =>
      dsimp only
      split
      · exact .refl
      · split
        · exact .single (.control q.runtimeGates _)
        · exact .refl

theorem failResume_micros : Micros late q (q.failResume request) := by
  unfold Queue.failResume
  split
  · split_ifs
    · exact .single (.control q.runtimeGates _)
    · exact .refl
  · exact .refl

theorem applyResume_micros {prepared : List PauseEvidence} :
    Micros late q (q.applyDatabaseResume request prepared now) := by
  unfold Queue.applyDatabaseResume
  split
  case h_2 => exact .refl
  case h_1 operation _ _ =>
    split_ifs
    · exact .refl
    · have hrows : Micros late q (q.resumeWhere (·.isPaused operation.destinationKey)
          (·.resumed "operator_resume_destination" now)) := by
        refine @resumeWhere_micros late _ _ now (·.botCooldownUntil) ?_ q
        intro row hpaused
        simp only [Record.isPaused, Bool.and_eq_true, decide_eq_true_eq] at hpaused
        simp [hpaused.2]
      exact hrows.tail (.control _ _)

theorem completeResume_micros :
    Micros late q (q.completeResume request now) := by
  unfold Queue.completeResume
  split
  · split
    · exact .refl
    · exact .single (.control q.runtimeGates _)
  · exact .refl

theorem applyGateResume_micros {key : GateKey} :
    Micros late q (q.applyGateResume key request now) := by
  have hrows : ∀ reason, Micros late q (q.resumeWhere (·.closes key) fun row =>
      { row.resumed reason now with botCooldownUntil := none }) := by
    intro reason
    refine @resumeWhere_micros late _ reason now (fun _ => none) ?_ q
    intro row hcloses
    cases key <;> simp_all [Record.closes]
  unfold Queue.applyGateResume
  dsimp only
  split_ifs
  · exact .refl
  · exact setGate_micros q _ _
  · exact (hrows _).trans (setGate_micros _ _ _)

def Command.freshens : Command → Option (Nat × String × Nat)
  | .freshness id worker token _ _ _ => some (id, worker, token)
  | _ => none

/-- The command is no freshness result of a worker for a job whose dispatch it has marked. -/
def Command.InTime (q : Queue) (command : Command) : Prop :=
  ∀ fence ∈ command.freshens, ∀ row ∈ q.jobs.lookup fence.1,
    row.hasLease fence.2.1 fence.2.2 = true → row.dispatchStartedAt = none

instance (q : Queue) (command : Command) : Decidable (command.InTime q) :=
  inferInstanceAs (Decidable (∀ fence ∈ command.freshens, ∀ row ∈ q.jobs.lookup fence.1,
    row.hasLease fence.2.1 fence.2.2 = true → row.dispatchStartedAt = none))

theorem step_micros (q : Queue) (command : Command) (hlate : late = true ∨ command.InTime q) :
    Micros late q (q.step command) := by
  unfold Queue.step
  split
  case isTrue => exact .refl
  case isFalse hsampled =>
    have hnow : ∀ now, command.sampledAt = some now → now ≤ q.clock := by
      intro now hsome
      simpa [hsome] using hsampled
    cases command with
    | advance time => exact .single (.advance time)
    | enqueue id job => exact enqueue_micros
    | supersede ids offer version now =>
      refine (Micros.foldl (fun q' id _ => ?_) ids q rfl).1
      exact ⟨supersedeRow_micros q' offer version now id, Queue.onRow_clock _ _ _⟩
    | claim _ _ _ _ now => exact claim_micros (hnow now rfl)
    | beginMark _ _ _ now => exact beginMark_micros (hnow now rfl)
    | finishMark probe => exact finishMark_micros
    | abandonMark => exact .single .abandonMark
    | freshness id worker token =>
      exact freshness_micros (hlate.imp_right fun h => h (id, worker, token) rfl)
    | release => exact release_micros
    | defer => exact defer_micros
    | recover ids now =>
      refine (Micros.foldl (fun q' id _ => ?_) ids q rfl).1
      exact ⟨recoverRow_micros q' now id, Queue.onRow_clock _ _ _⟩
    | record => exact record_micros
    | apply _ _ _ _ now => exact apply_micros (hnow now rfl)
    | resolve _ _ _ _ _ _ now => exact resolve_micros (hnow now rfl)
    | reconcile ids checks grace now =>
      refine (Micros.foldl (fun q' id _ => ?_) ids q rfl).1
      exact ⟨reconcileRow_micros q' checks grace now id, Queue.onRow_clock _ _ _⟩
    | reconcileReady ids decisions now =>
      refine (Micros.foldl (fun q' id hclock => ?_) ids q rfl).1
      exact ⟨reconcileReadyRow_micros (hclock ▸ hnow now rfl), Queue.onRow_clock _ _ _⟩
    | resolveAmbiguous id delivered now => exact resolveAmbiguous_micros
    | prepareResume => exact prepareResume_micros
    | failResume request => exact failResume_micros
    | applyResume request prepared now => exact applyResume_micros
    | completeResume request now => exact completeResume_micros
    | preflightLimited bot delay now => exact setGate_micros q _ _
    | preflightActive bot =>
      unfold Queue.perform Queue.markPreflightActive
      dsimp only
      split_ifs
      · exact setGate_micros q _ _
      · exact .refl
    | requestGateResume key request now =>
      unfold Queue.perform Queue.requestGateResume
      dsimp only
      split_ifs <;> first | exact setGate_micros q _ _ | exact .refl
    | failGateResume key request cooldown =>
      unfold Queue.perform Queue.failGateResume
      dsimp only
      split_ifs
      · exact setGate_micros q _ _
      · exact .refl
    | applyGateResume key request now => exact applyGateResume_micros
    | completeGateResume key request =>
      unfold Queue.perform Queue.completeGateResume
      dsimp only
      split_ifs
      · exact .refl
      · exact setGate_micros q _ _

end Micros

theorem Micros.invariant {late : Bool} {I : Queue → Prop}
    (hstep : ∀ q q', I q → Micro late q q' → I q') {q q' : Queue} (h : Micros late q q')
    (hq : I q) : I q' := by
  induction h with
  | refl => exact hq
  | tail _ hmicro ih => exact hstep _ _ ih hmicro

end TradingBot.Telegram
