import TradingBot.Telegram.Queue

/-!
# Answers, reconciliation and resumes

What settles a dispatched job: the provider's answer, recorded as a row of its own and applied later
(src/core/services/telegram_delivery_queue_service.py); the reconciliation of unresolved dispatches
(src/core/services/telegram_delivery_reconciliation_service.py); and the operator who resumes a
paused destination, bot or gateway (src/core/services/telegram_delivery_resume_service.py and
telegram_delivery_runtime_gate_service.py).
-/

namespace TradingBot.Telegram

open Misc

/-! ## The answer of the provider -/

/-- `_record_to_contract` (line 855), as far as it is read. -/
def Record.toContract (row : Record) : Job where
  dedupeKey := row.dedupeKey
  destinationClass := row.destinationClass
  method := row.method
  state := row.state
  providerAttemptCount := row.providerAttemptCount
  nextRetryAt := row.nextRetryAt
  leaseUntil := row.leaseUntil
  workerId := row.workerId
  lastErrorClass := row.lastErrorClass
  lastErrorMessage := row.lastErrorMessage
  telegramMessageId := row.telegramMessageId

variable (q : Queue)

namespace Queue

/-- `record_telegram_delivery_provider_outcome` (line 780); a second answer must be the same. -/
def recordProviderOutcome (id : Nat) (worker : String) (token : Nat)
    (result : GatewayResult) : Queue :=
  if q.rowFree id then
    match q.jobs.lookup id, providerOutcomeFacts result, q.outcomes.lookup (id, token) with
    | some row, some facts, none =>
      if row.leaseToken = token ∧ row.dispatchStartedAt.isSome ∧
          (row.workerId = none ∨ row.workerId = some worker) ∧ result.method = row.method then
        { q with outcomes := q.outcomes.insert (id, token) ⟨worker, facts, .pending⟩ }
      else q
    | _, _, _ => q
  else q

def priorRateLimits (id : Nat) (row : Record) (windowStart linearizedAt : Int) :
    List Record :=
  (q.jobs.entries.filter fun entry =>
    entry.1 ≠ id && entry.2.botIdentity = row.botIdentity &&
      entry.2.destinationKey ≠ row.destinationKey &&
      entry.2.lastRateLimitedAt.any (fun at_ => windowStart ≤ at_ && at_ ≤ linearizedAt) &&
      entry.2.lastRateLimitUntil.isSome).map (·.2)

/-- `_persist_durable_rate_limit_evidence` (line 1590): rate limits of several destinations cool the
bot down. -/
def persistRateLimitEvidence (id : Nat) (row : Record) (decision : Decision)
    (window now linearized : Int) : Record :=
  match decision.destinationCooldownUntil with
  | some deadline =>
    if decision.reason = "telegram_rate_limited" then
      let prior := q.priorRateLimits id row (linearized - max 1000 window) linearized
      let own := row.botCooldownUntil.toList.filter (now < ·)
      let deadlines := prior.flatMap (fun other =>
        other.lastRateLimitUntil.toList ++ other.botCooldownUntil.toList) ++ own
      let row := { row with
        lastRateLimitedAt := some linearized, lastRateLimitUntil := some deadline }
      if prior = [] ∧ deadlines = [] then row
      else
        let cooldown := deadlines.foldl max deadline
        { row with
          botCooldownUntil := some cooldown
          nextRetryAt := some ((row.nextRetryAt.map (max cooldown)).getD cooldown) }
    else row
  | none => row

/-- `_persist_durable_runtime_gate_evidence` (line 1664). -/
def persistRuntimeGateEvidence (row : Record) (decision : Decision) : Queue :=
  let close (key : GateKey) : Queue :=
    { q with runtimeGates := q.runtimeGates.insert key { state := .blocked } }
  match decision.outcome with
  | .botPaused => close (.bot row.botIdentity)
  | .gatewayPaused => close .gateway
  | _ => q

end Queue

inductive Resolution where
  | stale
  | waiting
  | settled (q : Queue)

namespace Record

def normalFence (row : Record) (worker : String) (token : Nat) : Bool :=
  row.hasLease worker token && row.dispatchStartedAt.isSome

/-- The fence of a recorded outcome; its lease may be recovered (line 1765). -/
def recordedFence (row : Record) (worker : String) (token : Nat) : Bool :=
  row.leaseToken = token && row.dispatchStartedAt.isSome &&
    (row.workerId = none || row.workerId = some worker) && (row.state = .leased || row.isUnresolved)

def withJob (row : Record) (job : Job) (decision : Decision) (result : GatewayResult) : Record :=
  { row with
    state := job.state
    nextRetryAt := job.nextRetryAt
    workerId := job.workerId
    leaseUntil := job.leaseUntil
    lastErrorClass := job.lastErrorClass
    lastErrorMessage := job.lastErrorMessage
    telegramMessageId := job.telegramMessageId
    providerStatusCode := result.statusCode
    providerErrorCode := (result.field "error_code").toInt
    rateLimitProbe := false
    outcomeReason := some decision.reason }

end Record

namespace Queue

def settle (id : Nat) (row : Record) (result : GatewayResult) (policy : RetryPolicy)
    (window now linearized : Int) : Record × Decision :=
  let (job, decision) := applyGatewayResult policy row.toContract result now
  let settled := q.persistRateLimitEvidence id (row.withJob job decision result) decision window now
    linearized
  ({ settled with updatedAt := max now linearized }, decision)

def settleEvents (id token : Nat) (settled : Record) (result : GatewayResult) : List Event :=
  (if result.statusCodeOf = some 429 then
    [.rateLimited id settled.destinationKey settled.nextRetryAt] else []) ++
    [.answered id token result]

/-- The time under the advisory locks: sampled again, unless a recorded outcome is applied at its
own. -/
def linearizedAt (recorded : Bool) (now : Int) : Int :=
  if recorded then now else q.clock

/-- `resolve_telegram_delivery_result` (line 1728); a `recorded` answer is the recorded outcome of
this worker and token. -/
def resolveDeliveryResult (id : Nat) (worker : String) (token : Nat)
    (result : GatewayResult) (recorded : Bool) (policy : RetryPolicy) (window now : Int) :
    Resolution :=
  if ¬ q.rowFree id then .waiting
  else
    match q.jobs.lookup id with
    | none => .stale
    | some row =>
      if ¬ (row.normalFence worker token ∨ (recorded ∧ row.recordedFence worker token)) then .stale
      -- the advisory locks are with the mark under way
      else if q.marking.isSome then .waiting
      else
        let settled := q.settle id row result policy window now (q.linearizedAt recorded now)
        .settled { q.persistRuntimeGateEvidence row settled.2 with
          jobs := q.jobs.insert id settled.1
          history := settleEvents id token settled.1 result ++ q.history }

def resolveDirectly (id : Nat) (worker : String) (token : Nat) (result : GatewayResult)
    (policy : RetryPolicy) (window now : Int) : Queue :=
  match q.resolveDeliveryResult id worker token result false policy window now with
  | .settled q' => q'
  | _ => q

/-- `apply_telegram_delivery_provider_outcome` (line 1848). -/
def applyProviderOutcome (id token : Nat) (policy : RetryPolicy) (window now : Int) :
    Queue :=
  match q.outcomes.lookup (id, token) with
  | none => q
  | some outcome =>
    if outcome.applyState ≠ .pending then q
    else
      match q.resolveDeliveryResult id outcome.workerId token
          (providerOutcomeToGatewayResult outcome.facts) true policy window now with
      | .waiting => q
      | .stale => { q with
          outcomes := q.outcomes.insert (id, token) { outcome with applyState := .quarantined } }
      | .settled q' => { q' with
          outcomes := q'.outcomes.insert (id, token) { outcome with applyState := .applied }
          history := .applied id token :: q'.history }

end Queue

/-! ## Reconciliation -/

/-- `SAFE_RECONCILIATION_RETRY_METHODS` (telegram_delivery_reconciliation_service.py:50). -/
def isSafeRetryMethod (method : String) : Bool :=
  method ∈ ["editMessageText", "editMessageReplyMarkup", "deleteMessage", "answerCallbackQuery"]

/-- What the observer of an ambiguous send found (telegram_delivery_reconciliation_service.py:71). -/
inductive Observation where
  | confirmedApplied (messageId : Int)
  | confirmedAbsent
  | inconclusive (reason : String)
  deriving DecidableEq, Repr

structure Checks where
  freshness : FreshnessDecision
  observation : Observation
  deriving DecidableEq, Repr

namespace Record

/-- `_reset_for_safe_retry` (telegram_delivery_reconciliation_service.py:212). -/
def resetForSafeRetry (row : Record) (reason : String) (now : Int) : Record :=
  { row with
    state := .pendingRetry
    nextRetryAt := some now
    workerId := none
    leaseUntil := none
    dispatchStartedAt := none
    rateLimitProbe := false
    outcomeReason := some (pyTake 160 reason)
    updatedAt := now }

/-- `_apply_confirmed_delivery` (telegram_delivery_reconciliation_service.py:223). -/
def confirmDelivery (row : Record) (messageId : Int) (now : Int) : Record :=
  { row with
    state := .sent
    telegramMessageId := some messageId
    nextRetryAt := none
    workerId := none
    leaseUntil := none
    rateLimitProbe := false
    outcomeReason := some "reconciliation_confirmed_applied"
    updatedAt := now }

def holdIn (row : Record) (state : DeliveryState) (reason : String) (now : Int) : Record :=
  { row with
    state := state
    workerId := none
    leaseUntil := none
    nextRetryAt := none
    outcomeReason := some reason
    updatedAt := now }

/-- A job that is pending reconciliation (telegram_delivery_reconciliation_service.py:395). -/
def reconcilePending (row : Record) (decision : FreshnessDecision) (now : Int) : Record :=
  if decision.outcome = .send then
    if isSafeRetryMethod row.method then
      row.resetForSafeRetry "reconciliation_idempotent_retry" now
    else
      { row.holdIn .quarantined "pending_reconcile_method_not_idempotent" now with
        rateLimitProbe := false }
  else
    (row.freshened decision (now + 1000000) (pyTake 160 (decision.note "reconciliation_"))
      now).clearDispatch

/-- The branch of an ambiguous send (telegram_delivery_reconciliation_service.py:484). -/
def reconcileAmbiguous (row : Record) (id : Nat) (observation : Observation) (now : Int) :
    Record × List Event :=
  match observation with
  | .confirmedApplied messageId => (row.confirmDelivery messageId now, [])
  | .confirmedAbsent =>
    (row.resetForSafeRetry "reconciliation_observer_confirmed_absent" now,
      [.confirmedAbsent id row.leaseToken])
  | .inconclusive reason => (row.holdIn .ambiguousUnresolved (pyTake 160 reason) now, [])

end Record

namespace Queue

def hasPendingOutcome (id : Nat) : Bool :=
  q.outcomes.entries.any fun entry => entry.1.1 = id && entry.2.applyState = .pending

/-- One row of `reconcile_telegram_delivery_jobs`; no checks without its adapters. -/
def reconcileRow (checks : Nat → Option Checks) (grace now : Int) (id : Nat) : Queue :=
  q.onRow id fun row =>
    match checks id with
    | none => none
    | some check =>
      if q.hasPendingOutcome id then none
      else if row.state = .pendingReconcile then some (row.reconcilePending check.freshness now, [])
      else if row.state = .ambiguous ∧ row.updatedAt ≤ now - max 1000000 grace then
        some (row.reconcileAmbiguous id check.observation now)
      else none

/-- `reconcile_telegram_delivery_jobs` (telegram_delivery_reconciliation_service.py:337). -/
def reconcileJobs (ids : List Nat) (checks : Nat → Option Checks) (grace now : Int) :
    Queue :=
  ids.foldl (fun q id => q.reconcileRow checks grace now id) q

/-- One row of `reconcile_ready_telegram_delivery_jobs_by_freshness`. -/
def reconcileReadyRow (decisions : Nat → Option FreshnessDecision) (now : Int) (id : Nat) : Queue :=
  q.onRow id fun row =>
    match decisions id with
    | none => none
    | some decision =>
      if row.state.isClaimable && !later row.leaseUntil now && !later row.eligibleAt now &&
          !later row.nextRetryAt now && !q.hasPendingOutcome id && decision.outcome ≠ .send then
        some ((row.freshened decision (now + 1000000) (pyTake 160 (decision.note "ready_freshness_"))
          now).clearDispatch, [])
      else none

/-- `reconcile_ready_telegram_delivery_jobs_by_freshness`
(telegram_delivery_reconciliation_service.py:609). -/
def reconcileReadyJobs (ids : List Nat) (decisions : Nat → Option FreshnessDecision)
    (now : Int) : Queue :=
  ids.foldl (fun q id => q.reconcileReadyRow decisions now id) q

/-- `resolve_ambiguous_telegram_delivery_job` (telegram_delivery_reconciliation_service.py:252): the
delivery, with its message, or its absence. -/
def resolveAmbiguous (id : Nat) (delivered : Option Int) (now : Int) : Queue :=
  q.onRow id fun row =>
    if row.state = .ambiguous ∨ row.state = .ambiguousUnresolved then
      match delivered with
      | some messageId =>
        if 0 < messageId then some (row.confirmDelivery messageId now, []) else none
      | none =>
        some (row.resetForSafeRetry "reconciliation_confirmed_absent" now,
          [.confirmedAbsent id row.leaseToken])
    else none

end Queue

/-! ## The operator's resumes -/

/-- What a resume of a destination has seen of a paused row (telegram_delivery_resume_service.py:142). -/
structure PauseEvidence where
  id : Nat
  botIdentity : String
  destinationKey : String
  outcomeReason : Option String
  providerStatusCode : Option Int
  providerErrorCode : Option Int
  updatedAt : Int
  deriving DecidableEq, Repr

def Record.isPaused (row : Record) (destination : String) : Bool :=
  row.destinationKey = destination && row.state = .blockedDestination

def Record.closes (row : Record) : GateKey → Bool
  | .bot identity => row.state = .blockedBot && row.botIdentity = identity
  | .gateway => row.state = .blockedGateway

def Record.resumed (row : Record) (reason : String) (now : Int) : Record :=
  { row with
    state := .pendingRetry
    nextRetryAt := some now
    workerId := none
    leaseUntil := none
    dispatchStartedAt := none
    rateLimitProbe := false
    outcomeReason := some reason
    updatedAt := now }

namespace Queue

def idsWhere (condition : Record → Bool) : List Nat :=
  (q.jobs.entries.filter fun entry => condition entry.2).map (·.1)

/-- `_blocked_destination_rows` (telegram_delivery_resume_service.py:271). -/
def pausedIds (destination : String) : List Nat :=
  q.idsWhere (·.isPaused destination)

/-- `_pause_evidence_payload` (telegram_delivery_resume_service.py:142), ordered by id. -/
def pauseEvidence (destination : String) : List PauseEvidence :=
  ((q.pausedIds destination).mergeSort (· ≤ ·)).filterMap fun id =>
    (q.jobs.lookup id).map fun row =>
      ⟨id, row.botIdentity, row.destinationKey, row.outcomeReason, row.providerStatusCode,
        row.providerErrorCode, row.updatedAt⟩

/-- `_disallowed_blocker_reason` (telegram_delivery_resume_service.py:291) names a blocker. -/
def disallowedBlocker (destination : String) (bots : List String) (now : Int) : Bool :=
  q.jobs.entries.any fun entry =>
    (entry.2.destinationKey = destination && entry.2.holdsDestination now) ||
      (entry.2.botIdentity ∈ bots && entry.2.holdsBot now) || entry.2.state = .blockedGateway

def resumeWhere (condition : Record → Bool) (change : Record → Record) : Queue :=
  (q.idsWhere condition).foldl (fun q id =>
    q.onRow id fun row => if condition row then some (change row, []) else none) q

/-- `_prepare_resume` (telegram_delivery_resume_service.py:399). -/
def prepareResume (request requestedBy destination : String) (bots : List String)
    (now : Int) : Queue :=
  let requested : Queue := { q with
    resumeOperations :=
      q.resumeOperations.insert request ⟨destination, bots, requestedBy, .requested⟩ }
  if q.marking.isSome ∨ q.disallowedBlocker destination bots now then q
  else
    match q.resumeOperations.lookup request with
    | none =>
      if q.resumeIncomplete destination ∨ q.pausedIds destination = [] then q else requested
    | some operation =>
      if operation.destinationKey ≠ destination ∨ operation.botIdentities ≠ bots ∨
          operation.requestedBy ≠ requestedBy ∨ q.pausedIds destination = [] then q
      else if operation.state = .requested ∨ operation.state = .failed then requested
      else q

/-- `_record_failure` (telegram_delivery_resume_service.py:545). -/
def failResume (request : String) : Queue :=
  match q.marking, q.resumeOperations.lookup request with
  | none, some operation =>
    if operation.state = .requested then
      { q with
        resumeOperations :=
          q.resumeOperations.insert request { operation with state := .failed } }
    else q
  | _, _ => q

/-- `_apply_database_resume` (telegram_delivery_resume_service.py:604): the paused rows start over,
if they are those it was prepared for. -/
def applyDatabaseResume (request : String) (prepared : List PauseEvidence) (now : Int) : Queue :=
  match q.marking, q.resumeOperations.lookup request with
  | none, some operation =>
    if operation.state = .completed ∨
        q.disallowedBlocker operation.destinationKey operation.botIdentities now ∨
        q.pauseEvidence operation.destinationKey ≠ prepared then q
    else
      { q.resumeWhere (·.isPaused operation.destinationKey)
          (·.resumed "operator_resume_destination" now) with
        resumeOperations :=
          q.resumeOperations.insert request { operation with state := .databaseApplied } }
  | _, _ => q

/-- `_complete_after_redis` (telegram_delivery_resume_service.py:699). -/
def completeResume (request : String) (now : Int) : Queue :=
  match q.marking, q.resumeOperations.lookup request with
  | none, some operation =>
    if operation.state = .completed then q
    else
      let state := if q.disallowedBlocker operation.destinationKey operation.botIdentities now ∨
          q.pausedIds operation.destinationKey ≠ [] then .databaseApplied else .completed
      { q with resumeOperations := q.resumeOperations.insert request { operation with state } }
  | _, _ => q

/-- `_blocked_jobs` (telegram_delivery_runtime_gate_service.py:354). -/
def blockedIds (key : GateKey) : List Nat := q.idsWhere (·.closes key)

/-- `_load_or_create_gate` (telegram_delivery_runtime_gate_service.py:170). -/
def gateOf (key : GateKey) : RuntimeGate := (q.runtimeGates.lookup key).getD {}

def setGate (key : GateKey) (gate : RuntimeGate) : Queue :=
  if q.marking.isSome then q else { q with runtimeGates := q.runtimeGates.insert key gate }

/-- `record_telegram_preflight_rate_limit` (telegram_delivery_runtime_gate_service.py:203). -/
def recordPreflightRateLimit (bot : String) (delay now : Int) : Queue :=
  let gate := q.gateOf (.bot bot)
  let until_ := (gate.cooldownUntil.map (max (now + delay))).getD (now + delay)
  let state := if gate.state = .active ∨ gate.state = .cooldown then .cooldown else gate.state
  q.setGate (.bot bot) { gate with state, cooldownUntil := some until_ }

/-- `mark_telegram_preflight_gate_active` (telegram_delivery_runtime_gate_service.py:270). -/
def markPreflightActive (bot : String) : Queue :=
  let gate := q.gateOf (.bot bot)
  if gate.state = .cooldown then
    q.setGate (.bot bot) { gate with state := .active, cooldownUntil := none }
  else q

/-- `resume_telegram_runtime_gate`, first transaction
(telegram_delivery_runtime_gate_service.py:425). -/
def requestGateResume (key : GateKey) (request : String) (now : Int) : Queue :=
  let gate := q.gateOf key
  let same := gate.requestId = some request
  if gate.state = .active ∧ (same ∨ q.blockedIds key = []) then q
  else if gate.state ∈ [.resumeRequested, .databaseApplied] ∧ ¬ same then q
  else if later gate.cooldownUntil now ∧ same then q
  else
    let state := if gate.state = .databaseApplied ∧ same then .databaseApplied else .resumeRequested
    q.setGate key { gate with state, requestId := some request }

/-- A failed preflight; a rate limit is kept as cooldown
(telegram_delivery_runtime_gate_service.py:505). -/
def failGateResume (key : GateKey) (request : String) (cooldown : Option Int) : Queue :=
  let gate := q.gateOf key
  if gate.requestId = some request then
    q.setGate key { gate with cooldownUntil := cooldown.orElse fun _ => gate.cooldownUntil }
  else q

/-- `resume_telegram_runtime_gate` (telegram_delivery_runtime_gate_service.py:563): the blocked rows
start over. -/
def applyGateResume (key : GateKey) (request : String) (now : Int) : Queue :=
  let gate := q.gateOf key
  let reason := match key with
    | .bot _ => "operator_resume_bot"
    | .gateway => "operator_resume_gateway"
  if q.marking.isSome ∨ gate.requestId ≠ some request then q
  else
    let resumed := if gate.state = .databaseApplied then q
      else q.resumeWhere (·.closes key) fun row =>
        { row.resumed reason now with botCooldownUntil := none }
    resumed.setGate key { gate with state := .databaseApplied, cooldownUntil := none }

/-- `resume_telegram_runtime_gate`, last transaction
(telegram_delivery_runtime_gate_service.py:639). -/
def completeGateResume (key : GateKey) (request : String) : Queue :=
  let gate := q.gateOf key
  if gate.requestId ≠ some request ∨ q.blockedIds key ≠ [] then q
  else q.setGate key { gate with state := .active }

end Queue

namespace Queue

/-- `enqueue_telegram_delivery_job` (line 941), unless the job is there. -/
def enqueue (id : Nat) (job : Record) : Queue :=
  if q.jobs.lookup id = none ∧ ¬ q.jobs.entries.any (fun entry => entry.2.dedupeKey = job.dedupeKey)
  then
    let row : Record :=
      { dedupeKey := job.dedupeKey
        sourceNaturalId := job.sourceNaturalId
        sourceVersion := job.sourceVersion
        offerAction := job.offerAction
        botIdentity := job.botIdentity
        destinationKey := job.destinationKey
        destinationClass := job.destinationClass
        method := job.method
        eligibleAt := job.eligibleAt
        updatedAt := q.clock }
    { q with jobs := q.jobs.insert id row }
  else q

/-- One row of `_supersede_obsolete_offer_jobs`. -/
def supersedeRow (offer : String) (version now : Int) (id : Nat) : Queue :=
  q.onRow id fun row =>
    if row.sourceNaturalId = offer && row.offerAction && row.sourceVersion < version &&
        row.state.isClaimable && row.dispatchStartedAt.isNone then
      some ({ row with
        state := .superseded
        nextRetryAt := none
        outcomeReason := some "offer_queue_newer_source_version"
        updatedAt := now }, [])
    else none

/-- `_supersede_obsolete_offer_jobs` (telegram_offer_queue_service.py:313). -/
def supersedeObsoleteOfferJobs (ids : List Nat) (offer : String) (version now : Int) :
    Queue :=
  ids.foldl (fun q id => q.supersedeRow offer version now id) q

end Queue

end TradingBot.Telegram
