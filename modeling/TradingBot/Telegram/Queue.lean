import Mathlib.Data.List.AList
import TradingBot.Misc.Run
import TradingBot.Telegram.ProviderOutcome

/-!
# The durable delivery queue

The rows of `telegram_delivery_jobs` and their operations
(src/core/services/telegram_delivery_queue_service.py): a worker claims a job, marks its dispatch,
calls the provider outside of any transaction, records the answer and applies it; expired leases are
recovered, and a rate limit, an unresolved dispatch or a pause of a destination keeps other jobs
back.

An operation samples the database clock and may wait for locks before it writes, so its time is one
the clock has reached. A claim takes any of the claimable rows: others may be locked.
-/

namespace TradingBot.Telegram

open Misc

/-- What the operations use of `TelegramDeliveryJobRecord` (src/models/telegram_delivery_job.py:56);
`offerAction` marks the offer actions. -/
structure Record where
  dedupeKey : String
  sourceNaturalId : String
  sourceVersion : Int
  offerAction : Bool
  botIdentity : String
  destinationKey : String
  destinationClass : DestinationClass
  method : String
  eligibleAt : Option Int := none
  state : DeliveryState := .pending
  attemptCount : Nat := 0
  providerAttemptCount : Nat := 0
  nextRetryAt : Option Int := none
  workerId : Option String := none
  leaseToken : Nat := 0
  leaseUntil : Option Int := none
  dispatchStartedAt : Option Int := none
  rateLimitProbe : Bool := false
  providerStatusCode : Option Int := none
  providerErrorCode : Option Int := none
  lastRateLimitedAt : Option Int := none
  lastRateLimitUntil : Option Int := none
  botCooldownUntil : Option Int := none
  lastErrorClass : Option String := none
  lastErrorMessage : Option String := none
  outcomeReason : Option String := none
  telegramMessageId : Option Int := none
  updatedAt : Int := 0
  deriving DecidableEq, Repr

/-- The lifecycle of a stored provider outcome (telegram_delivery_provider_outcome.py:28). -/
inductive ApplyState where
  | pending
  | applied
  | quarantined
  deriving DecidableEq, Repr

/-- A row of `telegram_delivery_provider_outcomes`; its job and lease token are its key. -/
structure Outcome where
  workerId : String
  facts : ProviderFacts
  applyState : ApplyState
  deriving DecidableEq, Repr

inductive GateKey where
  | bot (identity : String)
  | gateway
  deriving DecidableEq, Repr

/-- The states of a runtime gate (telegram_delivery_runtime_gate_service.py:35). -/
inductive GateState where
  | active
  | cooldown
  | blocked
  | resumeRequested
  | databaseApplied
  deriving DecidableEq, Repr

/-- A row of `telegram_delivery_runtime_gates`. -/
structure RuntimeGate where
  state : GateState := .active
  cooldownUntil : Option Int := none
  requestId : Option String := none
  deriving DecidableEq, Repr

/-- The states of a resume operation (telegram_delivery_resume_service.py:48). -/
inductive ResumeState where
  | requested
  | databaseApplied
  | redisApplied
  | completed
  | failed
  deriving DecidableEq, Repr

/-- `ACTIVE_TELEGRAM_DELIVERY_RESUME_STATES` (telegram_delivery_resume_operation.py:27). -/
def ResumeState.isActive (state : ResumeState) : Bool :=
  state ∈ [.requested, .databaseApplied, .redisApplied]

/-- A row of `telegram_delivery_resume_operations`; its request id is its key. -/
structure ResumeOperation where
  destinationKey : String
  botIdentities : List String
  requestedBy : String
  state : ResumeState
  deriving DecidableEq, Repr

/-- A dispatch mark past the gate and not yet written, with the lock of its row and the advisory
locks. -/
structure Marking where
  job : Nat
  worker : String
  token : Nat
  sampledAt : Int
  deriving DecidableEq, Repr

inductive Event where
  | claimed (job token : Nat)
  | marked (job token : Nat) (method destination : String) (at_ : Int)
  | answered (job token : Nat) (result : GatewayResult)
  | applied (job token : Nat)
  | rateLimited (job : Nat) (destination : String) (until_ : Option Int)
  | confirmedAbsent (job token : Nat)
  deriving DecidableEq, Repr

/-- The database clock, its tables, the mark under way and, the latest first, what happened. -/
structure Queue where
  clock : Int
  jobs : AList (fun _ : Nat => Record) := ∅
  outcomes : AList (fun _ : Nat × Nat => Outcome) := ∅
  runtimeGates : AList (fun _ : GateKey => RuntimeGate) := ∅
  resumeOperations : AList (fun _ : String => ResumeOperation) := ∅
  marking : Option Marking := none
  history : List Event := []

/-- `value is not None and value > now`. -/
def later (value : Option Int) (now : Int) : Bool := value.any fun at_ => now < at_

namespace Record

/-- `_DURABLE_UNRESOLVED_DESTINATION_STATES` (line 185). -/
def isUnresolved (row : Record) : Bool :=
  row.state ∈ [.ambiguous, .ambiguousUnresolved, .pendingReconcile]

def holdsDestination (row : Record) (now : Int) : Bool :=
  (row.state = .leased && row.dispatchStartedAt.isSome) ||
    (row.state = .pendingRetry && row.outcomeReason = some "telegram_rate_limited" &&
      later row.nextRetryAt now) ||
    (row.isUnresolved && row.dispatchStartedAt.isSome)

def holdsBot (row : Record) (now : Int) : Bool :=
  row.state = .blockedBot || later row.botCooldownUntil now ||
    (row.rateLimitProbe && row.dispatchStartedAt.isSome &&
      (row.state = .leased || row.isUnresolved))

def blocks (row : Record) (record : Record) (now : Int) : Bool :=
  (row.destinationKey = record.destinationKey &&
    (row.holdsDestination now ||
      (row.botIdentity = record.botIdentity && row.state = .blockedDestination))) ||
    (row.botIdentity = record.botIdentity && row.holdsBot now) || row.state = .blockedGateway

end Record

def RuntimeGate.isClosed (gate : RuntimeGate) (now : Int) : Bool :=
  gate.state ∈ [.blocked, .resumeRequested, .databaseApplied] ||
    (gate.state = .cooldown && later gate.cooldownUntil now)

namespace Queue

def runtimeGateClosed (q : Queue) (record : Record) (now : Int) : Bool :=
  [GateKey.bot record.botIdentity, .gateway].any fun key =>
    (q.runtimeGates.lookup key).any (·.isClosed now)

def resumeIncomplete (q : Queue) (destination : String) : Bool :=
  q.resumeOperations.entries.any fun entry =>
    entry.2.destinationKey = destination && entry.2.state.isActive

def isBlocked (q : Queue) (id : Nat) (record : Record) (now : Int) : Bool :=
  q.jobs.entries.any fun entry => entry.1 ≠ id && entry.2.blocks record now

/-- `_assert_durable_dispatch_gate` (line 323) lets the row pass. -/
def gateOpen (q : Queue) (id : Nat) (record : Record) (now : Int) : Bool :=
  !q.runtimeGateClosed record now && !q.resumeIncomplete record.destinationKey &&
    !q.isBlocked id record now

def rowFree (q : Queue) (id : Nat) : Bool := q.marking.all fun marking => marking.job ≠ id

/-- The row with what happened to it; a locked row, and one the operation does not apply to, stays. -/
def onRow (q : Queue) (id : Nat) (change : Record → Option (Record × List Event)) : Queue :=
  if q.rowFree id then
    match q.jobs.lookup id with
    | some row =>
      match change row with
      | some (row', events) =>
        { q with jobs := q.jobs.insert id row', history := events ++ q.history }
      | none => q
    | none => q
  else q

end Queue

namespace Queue

/-- `claim_next_telegram_delivery_job` (line 1268) may take the row. -/
def isClaimable (q : Queue) (id : Nat) (row : Record) (lane : String) (now : Int) : Bool :=
  row.botIdentity = lane && row.state.isClaimable && !later row.eligibleAt now &&
    !later row.nextRetryAt now && !later row.botCooldownUntil now && q.gateOpen id row now

/-- `claim_next_telegram_delivery_job` (line 1101) takes the row. -/
def claim (q : Queue) (id : Nat) (lane worker : String) (leaseTime : Nat) (now : Int) : Queue :=
  q.onRow id fun row =>
    if q.isClaimable id row lane now then
      some ({ row with
        state := .leased
        workerId := some worker
        leaseToken := row.leaseToken + 1
        leaseUntil := some (q.clock + leaseTime)
        dispatchStartedAt := none
        attemptCount := row.attemptCount + 1
        updatedAt := q.clock }, [.claimed id (row.leaseToken + 1)])
    else none

end Queue

def Record.hasLease (row : Record) (worker : String) (token : Nat) : Bool :=
  row.state = .leased && row.workerId = some worker && row.leaseToken = token

namespace Queue

/-- The first half of `mark_telegram_delivery_dispatch_started` (line 1368): the row is locked, its
fence checked, the advisory locks taken and the gate read. Among them is the gateway's, so one mark
at a time gets this far. -/
def beginMark (q : Queue) (id : Nat) (worker : String) (token : Nat) (now : Int) : Queue :=
  match q.marking, q.jobs.lookup id with
  | none, some row =>
    if row.hasLease worker token && later row.leaseUntil now && row.dispatchStartedAt.isNone &&
        q.gateOpen id row now then
      { q with marking := some ⟨id, worker, token, now⟩ }
    else q
  | _, _ => q

def abandonMark (q : Queue) : Queue := { q with marking := none }

/-- The second half: the clock is read once more, and the mark is written unless the lease has
expired. -/
def finishMark (q : Queue) (probe : Bool) : Queue :=
  match q.marking with
  | some marking =>
    match q.jobs.lookup marking.job with
    | some row =>
      if later row.leaseUntil q.clock then
        { q with
          jobs := q.jobs.insert marking.job { row with
            dispatchStartedAt := some (max marking.sampledAt q.clock)
            providerAttemptCount := row.providerAttemptCount + 1
            rateLimitProbe := probe
            updatedAt := max marking.sampledAt q.clock }
          marking := none
          history := .marked marking.job marking.token row.method row.destinationKey
            (max marking.sampledAt q.clock) :: q.history }
      else q.abandonMark
    | none => q.abandonMark
  | none => q

end Queue

/-- `TelegramFreshnessOutcome` (telegram_delivery_queue_contract.py:155). -/
inductive FreshnessOutcome where
  | send
  | waitDependency
  | reclassify
  | sentNoop
  | superseded
  | expiredInteraction
  | quarantined
  deriving DecidableEq, Repr

def FreshnessOutcome.value : FreshnessOutcome → String
  | send => "send"
  | waitDependency => "wait_dependency"
  | reclassify => "reclassify"
  | sentNoop => "sent_noop"
  | superseded => "superseded"
  | expiredInteraction => "expired_interaction"
  | quarantined => "quarantined"

/-- `TelegramFreshnessDecision` (telegram_delivery_queue_contract.py:469). `replaced` is the reason
noted when the replacement of an offer job is settled already
(telegram_offer_queue_feedback.py:284). -/
structure FreshnessDecision where
  outcome : FreshnessOutcome
  hasReplacement : Bool := false
  reason : Option String := none
  replaced : Option String := none
  deriving DecidableEq, Repr

/-- `apply_freshness_decision` (telegram_delivery_queue_contract.py:668), on the state. -/
def applyFreshnessDecision (state : DeliveryState) (decision : FreshnessDecision) : DeliveryState :=
  match decision.outcome with
  | .superseded => .superseded
  | .expiredInteraction => .expiredInteraction
  | .sentNoop => .sentNoop
  | .quarantined => .quarantined
  | .waitDependency => .pending
  | .reclassify => if decision.hasReplacement then state else .superseded
  | .send => state

def FreshnessDecision.note (decision : FreshnessDecision) (caller : String) : String :=
  match decision.reason with
  | some reason => if reason = "" then caller ++ decision.outcome.value else reason
  | none => caller ++ decision.outcome.value

namespace Record

/-- The row after a decision other than `send`; callers differ in the wait for a dependency and the
reason. -/
def freshened (row : Record) (decision : FreshnessDecision) (waitUntil : Int) (reason : String)
    (now : Int) : Record :=
  let row := { row with
    workerId := none
    leaseUntil := none
    outcomeReason := some reason
    updatedAt := now }
  if decision.outcome = .reclassify ∧ decision.hasReplacement then
    match decision.replaced with
    | some reason =>
      { row with state := .superseded, nextRetryAt := none, outcomeReason := some reason }
    | none => { row with state := .pendingReconcile, nextRetryAt := none }
  else if decision.outcome = .waitDependency then
    { row with state := .pendingRetry, nextRetryAt := some waitUntil }
  else
    { row with state := applyFreshnessDecision row.state decision, nextRetryAt := none }

def clearDispatch (row : Record) : Record :=
  { row with dispatchStartedAt := none, rateLimitProbe := false }

end Record

namespace Queue

/-- `apply_telegram_delivery_freshness_result` (line 1437). -/
def applyFreshnessResult (q : Queue) (id : Nat) (worker : String) (token : Nat)
    (decision : FreshnessDecision) (dependencyRetry : Int) (now : Int) : Queue :=
  q.onRow id fun row =>
    if decision.outcome ≠ .send ∧ row.hasLease worker token then
      some (row.freshened decision (now + max 100000 dependencyRetry) (decision.note "freshness_")
        now, [])
    else none

/-- `release_unstarted_telegram_delivery_lease` (line 1508). -/
def releaseUnstarted (q : Queue) (id : Nat) (worker : String) (token : Nat) (reason : String)
    (retry : Int) (now : Int) : Queue :=
  q.onRow id fun row =>
    if row.hasLease worker token && row.dispatchStartedAt.isNone then
      some ({ row with
        state := .pendingRetry
        nextRetryAt := some (now + max 100000 retry)
        workerId := none
        leaseUntil := none
        lastErrorClass := some "PreDispatchError"
        outcomeReason := some (pyTake 160 (if reason = "" then "pre_dispatch_error" else reason))
        updatedAt := now }, [])
    else none

/-- `defer_unstarted_telegram_delivery_lease` (line 1549). -/
def deferUnstarted (q : Queue) (id : Nat) (worker : String) (token : Nat) (reason : String)
    (retry : Int) (now : Int) : Queue :=
  q.onRow id fun row =>
    if row.hasLease worker token && row.dispatchStartedAt.isNone then
      some ({ row with
        state := .pendingRetry
        nextRetryAt := some (now + max 1000 retry)
        workerId := none
        leaseUntil := none
        lastErrorClass := none
        lastErrorMessage := none
        outcomeReason := some (pyTake 160 (if reason = "" then "telegram_limiter_wait" else reason))
        updatedAt := now }, [])
    else none

def recoverRow (q : Queue) (now : Int) (id : Nat) : Queue :=
  q.onRow id fun row =>
    if row.state = .leased ∧ row.leaseUntil.any (· ≤ now) ∧
        ¬ q.outcomes.entries.any (fun entry => entry.1.1 = id && entry.2.applyState = .pending) then
      let row := { row with
        workerId := none
        leaseUntil := none
        lastErrorClass := some "LeaseExpired"
        updatedAt := now }
      if row.dispatchStartedAt.isNone then
        some ({ row with
          state := .pendingRetry
          nextRetryAt := some now
          outcomeReason := some "lease_expired_before_dispatch" }, [])
      else if isSendMethod row.method then
        some ({ row with
          state := .ambiguous
          nextRetryAt := none
          outcomeReason := some "lease_expired_after_send_started" }, [])
      else
        some ({ row with
          state := .pendingReconcile
          nextRetryAt := none
          outcomeReason := some "lease_expired_after_idempotent_dispatch_started" }, [])
    else none

/-- `recover_expired_telegram_delivery_leases` (line 2003). -/
def recoverExpiredLeases (q : Queue) (ids : List Nat) (now : Int) : Queue :=
  ids.foldl (fun q id => q.recoverRow now id) q

end Queue

end TradingBot.Telegram
