import TradingBot.Ledger.Model
import TradingBot.Offer.Lifecycle
import TradingBot.Misc.Txn
import TradingBot.Misc.UnitOfWork
import Mathlib.Data.List.Sort

/-!
# The overtime request workflow

`src/core/services/offer_overtime_request_service.py` on the shared request ledger. Sessions have
`autoflush=False` (`src/core/db.py:39`): a query sees the rows as last flushed and returns the
in-memory objects, so a session is a unit of work over the ledger rows, next to the offers it has
loaded. Operations neither commit nor roll back; `flush` raises when a unique index would be broken.

The Telegram delivery services that a promotion on the foreign server calls are the parameter
`Ambient.enqueue`; logs and status messages do not touch the ledger.
-/

namespace TradingBot.Overtime

open TradingBot TradingBot.Misc

def overtimeDecisionSeconds : Int := 30
def overtimeCooldownSeconds : Int := 30
def maxOutstandingRequestsPerRequester : Nat := 3

inductive OvertimeRequestErrorCode where
  | idempotencyRequired
  | intakeRejected
  | sameOfferBusy
  | cooldownActive
  | requesterLimit
  | requesterOwnerLimit
  | notOwner
  | decisionExpired
  | alreadyTerminal
  | illegalTransition
  | notFound
  | notRequester
  | offerInvalid
  deriving DecidableEq, Repr

inductive Raised where
  /-- `OvertimeRequestError`. -/
  | overtime (code : OvertimeRequestErrorCode) (detail : String) (remainingSeconds : Option Int)
  /-- `OfferRequestTerminalStateError`. -/
  | terminalState
  /-- A unique index of `offer_requests` at a flush. -/
  | integrity
  /-- The call stack of a recursion that does not end. -/
  | recursion
  /-- An exception of the Telegram delivery services that the caller does not catch. -/
  | delivery
  /-- `OfferAlreadyInactiveError`. -/
  | offerInactive
  /-- `OfferNotAuthoritativeError`. -/
  | offerNotAuthoritative
  /-- `int(None)`, `ValueError` and their like. -/
  | invalidArgument
  deriving DecidableEq, Repr

def sameOfferBusyMessage (remaining : Int) : String :=
  "درخواست دیگری برای این لفظ در حال بررسی است؛ لطفاً " ++ toString (max 1 remaining) ++
    " ثانیه دیگر دوباره تلاش کنید."
def cooldownMessage (remaining : Int) : String :=
  "برای ارسال مجدد درخواست روی این لفظ، لطفاً " ++ toString (max 1 remaining) ++
    " ثانیه دیگر تلاش کنید."
def requesterLimitMessage : String :=
  "شما هم‌زمان ۳ درخواست باز دارید. لطفاً تا تعیین تکلیف یکی از آن‌ها صبر کنید."
def requesterOwnerLimitMessage : String :=
  "فعلاً نمی‌توانید روی این لفظ درخواست بدهید. لطفاً کمی بعد دوباره تلاش کنید."
def notOwnerMessage : String := "فقط صاحب این لفظ می‌تواند درباره این درخواست تصمیم بگیرد."
def decisionExpiredMessage : String := "مهلت پاسخ به این درخواست تمام شده است."
def alreadyTerminalMessage : String := "این درخواست قبلاً تعیین تکلیف شده است."
def idempotencyRequiredMessage : String := "کلید تکرار درخواست الزامی است."
def intakeRejectedMessage : String := "این لفظ دیگر فعال نیست."
def ownOfferMessage : String := "نمی‌توانید روی لفظ خودتان معامله کنید."

open OfferRequestStatus in
def legalOvertimeTransitions : OfferRequestStatus → List OfferRequestStatus
  | overtimeQueued => [overtimeDelivering, overtimePresented, overtimeCancelledByRequester,
      overtimeInvalidated, overtimeDeliveryExpired]
  | overtimeDelivering => [overtimePresented, overtimeCancelledByRequester, overtimeInvalidated,
      overtimeDeliveryExpired]
  | overtimePresented => [overtimeRejectedByOwner, overtimeDecisionExpired,
      overtimeCancelledByRequester, overtimeInvalidated, completedTrade]
  | _ => []

open OfferRequestStatus in
/-- `_TERMINAL_LIKE`. -/
def terminalLike : List OfferRequestStatus :=
  overtimeTerminalStatuses ++ [completedTrade, duplicateReplay, failedInternal]

/-- The delivery services' outcome for a delivering request; the legacy outbox flushes when it adds
a row. -/
structure EnqueueOutcome where
  jobId : Option Nat := none
  undeliverableReason : Option String := none
  flushes : Bool := false
  deriving DecidableEq, Repr

/-- An outcome of the durable queue or of the legacy outbox, an `OvertimeOwnerApprovalQueueError`,
or an exception nobody catches. -/
inductive Delivery where
  | queueV1 (outcome : EnqueueOutcome)
  | legacy (outcome : EnqueueOutcome)
  | queueError (reason : String)
  | failure
  deriving DecidableEq, Repr

/-- The server, its wall clock, the public id of the next row, the answer of the Telegram delivery
services for each request, and whether the status message of a presentation flushes the session. -/
structure Ambient where
  currentServer : Server
  utcNow : Int
  newRequestPublicId : String
  enqueue : Nat → Delivery
  statusEditFlushes : Nat → Bool

/-- One database session: the ledger rows as a unit of work, and the offers. -/
structure Session where
  rows : List (Tracked OfferRequest)
  offers : List Offer
  deriving DecidableEq, Repr

namespace Session

def live (s : Session) : List OfferRequest := UnitOfWork.live s.rows

def stored (s : Session) : List OfferRequest := UnitOfWork.stored s.rows

/-- A query on the ledger: the objects whose stored row satisfies the condition. -/
def select (s : Session) (p : OfferRequest → Bool) : List OfferRequest :=
  UnitOfWork.select p s.rows

def row? (s : Session) (id : Nat) : Option OfferRequest := s.live.find? (·.id = id)

/-- `db.get(Offer, id)`. -/
def offer? (s : Session) (id : Nat) : Option Offer := s.offers.find? (·.id = id)

end Session

abbrev Work := Txn Session Raised

/-- `decision_deadline_at`. -/
def decisionDeadlineAt (presentedAt : Int) : Int := presentedAt + overtimeDecisionSeconds * second

/-- Line 200: whole seconds, truncated. -/
def remainingSecondsUntil (deadline : Option Int) (now : Int) : Int :=
  match deadline with
  | none => 0
  | some deadline => max 0 ((deadline - now).tdiv second)

/-- `cooldown_remaining_seconds`. -/
def cooldownRemainingSeconds (lastTerminalAt : Option Int) (now : Int) : Int :=
  match lastTerminalAt with
  | none => 0
  | some last => remainingSecondsUntil (some (last + overtimeCooldownSeconds * second)) now

/-- `db.flush()`. -/
def flushSession : Work Unit := fun s =>
  if uniqueIndexes s.live then (.ok (), { s with rows := UnitOfWork.flush s.rows })
  else (.error .integrity, s)

/-- `if flush: await db.flush()`. -/
def flushIf (flush : Bool) : Work Unit := if flush then flushSession else pure ()

def updateRow (id : Nat) (f : OfferRequest → OfferRequest) : Work Unit :=
  Txn.modify (fun s => { s with rows := UnitOfWork.update (fun r => r.id = id) f s.rows })

/-- `_apply_overtime_transition` on one object: the legality check, then the decision. -/
def transitionRow (utcNow : Int) (ledger : OfferRequest) (decision : Decision) :
    Except Raised OfferRequest :=
  if decision.resultStatus ≠ ledger.resultStatus ∧
      decision.resultStatus ∉ legalOvertimeTransitions ledger.resultStatus then
    .error (.overtime .illegalTransition ("illegal overtime transition: " ++
      ledger.resultStatus.value ++ " -> " ++ decision.resultStatus.value) none)
  else match applyOfferRequestDecision utcNow ledger decision with
  | some row => .ok row
  | none => .error .terminalState

variable (ambient : Ambient)

/-- Line 375 on the object `id`. -/
def applyOvertimeTransition (id : Nat) (decision : Decision) : Work Unit :=
  Txn.read (fun s => s.row? id) >>= fun ledger? =>
  match ledger? with
  | none => Txn.raise (.overtime .notFound "" none)
  | some ledger =>
    match transitionRow ambient.utcNow ledger decision with
    | .error e => Txn.raise e
    | .ok _ => updateRow id fun r =>
        match transitionRow ambient.utcNow r decision with
        | .ok row => row
        | .error _ => r

/-- `_owner_has_occupying_request`. -/
def ownerHasOccupyingRequest (s : Session) (home : Server) (owner : Nat) : Bool :=
  (s.select (fun r => r.inScope home owner && r.isOccupying)).isEmpty = false

/-- `ORDER BY queue_sequence ASC, id ASC`: a null sequence sorts last. -/
def queuedBefore (a b : OfferRequest) : Bool :=
  match a.queueSequence, b.queueSequence with
  | some x, some y => x < y ∨ (x = y ∧ a.id < b.id)
  | some _, none => true
  | none, some _ => false
  | none, none => a.id < b.id

def firstInQueue : List OfferRequest → Option OfferRequest
  | [] => none
  | row :: rows =>
    match firstInQueue rows with
    | none => some row
    | some best => if queuedBefore best row then some best else some row

def nextQueuedForOwner (s : Session) (home : Server) (owner : Nat) : Option OfferRequest :=
  firstInQueue (s.select (fun r => r.inScope home owner && r.isQueued))

/-- `_revalidate_offer_for_promotion` (line 612): the reason that invalidates a queued request, if any. -/
def revalidateOfferForPromotion (offer : Option Offer) (home : Server)
    (normalLifetimeMinutes now : Int) : Option String :=
  match offer with
  | none => some "offer_missing"
  | some offer =>
    match knownServer offer.homeServer with
    | none => some "offer_home_invalid"
    | some offerHome =>
      if home ≠ offerHome then some "offer_home_mismatch"
      else if offer.status ≠ .active then some "offer_not_active"
      else match (projectOfferLifecycle offer normalLifetimeMinutes now false).deadlines with
      | none => none
      | some (_, final) => if final ≤ now then some "final_deadline_passed" else none

/-- The decision of `invalidate_request`. -/
def invalidation (reason : String) (now : Int) : Decision where
  resultStatus := .overtimeInvalidated
  decidedAt := some now
  terminalReason := some reason
  internalFailureCode := some "overtime_invalidated"

def promotionInvalidation (reason : String) (now : Int) : Decision where
  resultStatus := .overtimeInvalidated
  decidedAt := some now
  terminalReason := some reason
  internalFailureCode := some "overtime_promote_revalidation_failed"

/-- The decision of `cancel_by_requester`. -/
def requesterCancellation (now : Int) : Decision where
  resultStatus := .overtimeCancelledByRequester
  decidedAt := some now
  terminalReason := some "requester_cancelled"

/-- The decision of `reject_by_owner`. -/
def ownerRejection (decidedByUserId : Nat) (now : Int) : Decision where
  resultStatus := .overtimeRejectedByOwner
  decidedAt := some now
  decidedByUserId := some decidedByUserId
  terminalReason := some "owner_rejected"

/-- The decision of `expire_decision`. -/
def decisionTimeout (now : Int) : Decision where
  resultStatus := .overtimeDecisionExpired
  decidedAt := some now
  terminalReason := some "decision_timeout"

/-- The decision of `record_completed_trade`. -/
def tradeCompletion (resultingTradeId decidedByUserId : Nat) (decidedAt : Int) : Decision where
  resultStatus := .completedTrade
  decidedAt := some decidedAt
  decidedByUserId := some decidedByUserId
  terminalReason := some "completed_trade"
  resultingTradeId := some resultingTradeId

def invalidateRequest (id : Nat) (reason : String) (now : Int) (flush : Bool) : Work Unit :=
  Txn.read (fun s => s.row? id) >>= fun ledger? =>
  match ledger? with
  | none => pure ()
  | some ledger =>
    if ledger.resultStatus ∈ terminalLike then pure ()
    else if ledger.resultStatus ∉ overtimeNonterminalStatuses then pure ()
    else
      applyOvertimeTransition ambient id (invalidation reason now) >>= fun _ => flushIf flush

/-- `candidate.presented_at = stamp; candidate.decision_deadline_at = …`. -/
def startDecisionClock (id : Nat) (stamp : Int) : Work Unit :=
  updateRow id fun r =>
    { r with presentedAt := some stamp, decisionDeadlineAt := some (decisionDeadlineAt stamp) }

/-- `schedule_requester_status_presented_edit`: of the ledger it can only flush the session. -/
def schedulePresentedEdit (id : Nat) : Work Unit :=
  flushIf (ambient.statusEditFlushes id)

/-- The foreign branch of `promote_next_for_owner`: the candidate becomes delivering and goes to the
delivery services; `again` is the recursive call. The branch for a missing offer is not taken. -/
def deliverCandidate (id : Nat) (now : Int) (flush : Bool)
    (again : Work (Option Nat)) : Work (Option Nat) :=
  let delivered (outcome : EnqueueOutcome) : Work (Option Nat) :=
    match outcome.undeliverableReason with
    | some reason => invalidateRequest ambient id reason now flush >>= fun _ => again
    | none =>
      flushIf flush >>= fun _ => schedulePresentedEdit ambient id >>= fun _ => pure (some id)
  applyOvertimeTransition ambient id { resultStatus := .overtimeDelivering } >>= fun _ =>
  flushIf flush >>= fun _ =>
  match ambient.enqueue id with
  | .queueV1 outcome =>
    updateRow id (fun r => { r with telegramDeliveryJobId := outcome.jobId }) >>= fun _ =>
    delivered outcome
  | .legacy outcome => flushIf outcome.flushes >>= fun _ => delivered outcome
  | .queueError reason => invalidateRequest ambient id reason now flush >>= fun _ => again
  | .failure => Txn.raise .delivery

/-- The Iran branch of `promote_next_for_owner`: the candidate is presented at once. -/
def presentCandidate (id : Nat) (now : Int) (flush : Bool) :
    Work (Option Nat) :=
  startDecisionClock id now >>= fun _ =>
  applyOvertimeTransition ambient id { resultStatus := .overtimePresented } >>= fun _ =>
  flushIf flush >>= fun _ => schedulePresentedEdit ambient id >>= fun _ => pure (some id)

/-- `promote_next_for_owner` once it has a candidate. -/
def promoteCandidate (home : Server) (normalLifetimeMinutes now : Int)
    (flush : Bool) (candidate : OfferRequest) (again : Work (Option Nat)) : Work (Option Nat) :=
  Txn.read (fun s => candidate.localOfferId.bind s.offer?) >>= fun offer =>
  match revalidateOfferForPromotion offer home normalLifetimeMinutes now with
  | some reason =>
    applyOvertimeTransition ambient candidate.id (promotionInvalidation reason now) >>= fun _ =>
    flushIf flush >>= fun _ => again
  | none =>
    match home with
    | .foreign => deliverCandidate ambient candidate.id now flush again
    | .iran => presentCandidate ambient candidate.id now flush

/-- `promote_next_for_owner` (line 651). A recursive call follows a request that left the queue in
memory; a recursion that outlives `fuel` is the one that does not end because the unflushed queue
keeps yielding the same request. -/
def promoteLoop (ambient : Ambient) (home : Server) (owner : Nat) (normalLifetimeMinutes : Int)
    (now : Int) (flush : Bool) : Nat → Work (Option Nat)
  | 0 => Txn.raise .recursion
  | fuel + 1 =>
    Txn.read (fun s => (ownerHasOccupyingRequest s home owner, nextQueuedForOwner s home owner))
      >>= fun seat =>
    match seat with
    | (true, _) => pure none
    | (false, none) => pure none
    | (false, some candidate) =>
      promoteCandidate ambient home normalLifetimeMinutes now flush candidate
        (promoteLoop ambient home owner normalLifetimeMinutes now flush fuel)

def queueLength (s : Session) (home : Server) (owner : Nat) : Nat :=
  (s.select (fun r => r.inScope home owner && r.isQueued)).length

/-- `promote_next_for_owner`. -/
def promoteNextForOwner (home : Server) (owner : Nat)
    (normalLifetimeMinutes : Int) (now : Int) (flush : Bool) : Work (Option Nat) :=
  Txn.read (fun s => queueLength s home owner + 1) >>= fun fuel =>
  promoteLoop ambient home owner normalLifetimeMinutes now flush fuel

/-- The last promotion of `cancel_by_requester`, `reject_by_owner` and `expire_decision`, if asked
for. -/
def promoteAfter (ledger : OfferRequest) (promoteNext : Bool)
    (normalLifetimeMinutes : Option Int) (now : Int) (flush : Bool) : Work Unit :=
  match promoteNext, ledger.offerOwnerUserId, normalLifetimeMinutes with
  | true, some owner, some lifetime =>
    promoteNextForOwner ambient ledger.requestHomeServer owner lifetime now flush >>= fun _ =>
      pure ()
  | _, _, _ => pure ()

def markPresented (id : Nat) (presentedAt : Int)
    (telegramMessageId : Option Int) (flush : Bool) : Work Unit :=
  Txn.read (fun s => s.row? id) >>= fun ledger? =>
  match ledger? with
  | none => Txn.raise (.overtime .notFound "" none)
  | some ledger =>
    if ledger.resultStatus = .overtimePresented then pure ()
    else
      startDecisionClock id presentedAt >>= fun _ =>
      updateRow id (fun r =>
        { r with telegramMessageId := telegramMessageId <|> r.telegramMessageId }) >>= fun _ =>
      applyOvertimeTransition ambient id { resultStatus := .overtimePresented } >>= fun _ =>
      flushIf flush >>= fun _ => schedulePresentedEdit ambient id

def cancelByRequester (id : Nat) (requesterUserId : Nat) (now : Int)
    (flush promoteNext : Bool) (normalLifetimeMinutes : Option Int) : Work Unit :=
  Txn.read (fun s => s.row? id) >>= fun ledger? =>
  match ledger? with
  | none => Txn.raise (.overtime .notFound "" none)
  | some ledger =>
    if ledger.requesterUserId.getD 0 ≠ requesterUserId then
      Txn.raise (.overtime .notRequester alreadyTerminalMessage none)
    else if ledger.resultStatus ∈ terminalLike then
      Txn.raise (.overtime .alreadyTerminal alreadyTerminalMessage none)
    else
      applyOvertimeTransition ambient id (requesterCancellation now) >>= fun _ =>
      flushIf flush >>= fun _ =>
      promoteAfter ambient ledger promoteNext normalLifetimeMinutes now flush

def ensureOwnerMayDecide (ledger : OfferRequest) (decidedByUserId : Nat) (now : Int) :
    Except Raised Unit :=
  if ledger.resultStatus ∈ terminalLike then
    .error (.overtime .alreadyTerminal alreadyTerminalMessage none)
  else if ledger.resultStatus ≠ .overtimePresented then
    .error (.overtime .illegalTransition
      ("owner decision requires presented status, got " ++ ledger.resultStatus.value) none)
  else if ledger.offerOwnerUserId ≠ some decidedByUserId then
    .error (.overtime .notOwner notOwnerMessage none)
  else if ledger.decisionDeadlineAt = none ∨
      remainingSecondsUntil ledger.decisionDeadlineAt now ≤ 0 then
    .error (.overtime .decisionExpired decisionExpiredMessage none)
  else .ok ()

def rejectByOwner (id : Nat) (decidedByUserId : Nat) (now : Int)
    (flush promoteNext : Bool) (normalLifetimeMinutes : Option Int) : Work Unit :=
  Txn.read (fun s => s.row? id) >>= fun ledger? =>
  match ledger? with
  | none => Txn.raise (.overtime .notFound "" none)
  | some ledger =>
    match ensureOwnerMayDecide ledger decidedByUserId now with
    | .error e => Txn.raise e
    | .ok _ =>
      applyOvertimeTransition ambient id (ownerRejection decidedByUserId now) >>= fun _ =>
      flushIf flush >>= fun _ =>
      promoteAfter ambient ledger promoteNext normalLifetimeMinutes now flush

def expireDecision (id : Nat) (now : Int) (flush promoteNext : Bool)
    (normalLifetimeMinutes : Option Int) : Work Unit :=
  Txn.read (fun s => s.row? id) >>= fun ledger? =>
  match ledger? with
  | none => Txn.raise (.overtime .notFound "" none)
  | some ledger =>
    if ledger.resultStatus ∈ terminalLike then
      Txn.raise (.overtime .alreadyTerminal alreadyTerminalMessage none)
    else if ledger.resultStatus ≠ .overtimePresented then
      Txn.raise (.overtime .illegalTransition
        ("decision expiry requires presented status, got " ++ ledger.resultStatus.value) none)
    else if ledger.decisionDeadlineAt ≠ none ∧
        0 < remainingSecondsUntil ledger.decisionDeadlineAt now then
      Txn.raise (.overtime .illegalTransition "decision deadline has not been reached" none)
    else
      applyOvertimeTransition ambient id (decisionTimeout now) >>= fun _ =>
      flushIf flush >>= fun _ =>
      promoteAfter ambient ledger promoteNext normalLifetimeMinutes now flush

def recordCompletedTrade (id : Nat) (resultingTradeId : Nat)
    (decidedByUserId : Nat) (decidedAt : Int) : Work Unit :=
  applyOvertimeTransition ambient id
    (tradeCompletion resultingTradeId decidedByUserId decidedAt)

/-- The identity filters of `list_nonterminal_overtime_requests`; absent ones do not filter. -/
structure RequestFilter where
  localOfferId : Option Nat := none
  offerPublicId : Option String := none
  offerOwnerUserId : Option Nat := none
  requesterUserId : Option Nat := none
  requestHomeServer : Option Server := none
  deriving DecidableEq, Repr

/-- `list_nonterminal_overtime_requests` (line 1164). -/
def RequestFilter.admits (f : RequestFilter) (row : OfferRequest) : Bool :=
  row.workflowKind = .overtime ∧ row.isOpen ∧
    (f.localOfferId.isSome → row.localOfferId = f.localOfferId) ∧
    (∀ publicId, f.offerPublicId = some publicId → row.offerPublicId = publicId) ∧
    (f.offerOwnerUserId.isSome → row.offerOwnerUserId = f.offerOwnerUserId) ∧
    (f.requesterUserId.isSome → row.requesterUserId = f.requesterUserId) ∧
    (∀ home, f.requestHomeServer = some home → row.requestHomeServer = home)

def RequestFilter.identifies (f : RequestFilter) : Bool :=
  f.localOfferId.isSome || f.offerPublicId.isSome || f.offerOwnerUserId.isSome ||
    f.requesterUserId.isSome

/-- `list_nonterminal_overtime_requests`: a bare call is a `ValueError`. -/
def listNonterminalOvertimeRequests (f : RequestFilter) : Work (List OfferRequest) :=
  if f.identifies then
    Txn.read (fun s => (s.select f.admits).insertionSort (fun a b => a.id ≤ b.id))
  else Txn.raise .invalidArgument

/-- The loop of `invalidate_overtime_requests`: the rows it ended. -/
def invalidateRows (ambient : Ambient) (reason : String) (now : Int) :
    List OfferRequest → Work (List OfferRequest)
  | [] => pure []
  | row :: rows =>
    Txn.read (fun s => (s.row? row.id).map OfferRequest.resultStatus) >>= fun before =>
    invalidateRequest ambient row.id reason now false >>= fun _ =>
    Txn.read (fun s => (s.row? row.id).map OfferRequest.resultStatus) >>= fun after =>
    invalidateRows ambient reason now rows >>= fun ended =>
    pure (if before ≠ after ∧ after = some .overtimeInvalidated then row :: ended else ended)

/-- Order of the pairs that `sorted(scopes)` compares: the owner, then the server's name. -/
def scopeLe (a b : Nat × Server) : Bool :=
  a.1 < b.1 ∨ (a.1 = b.1 ∧ (a.2 = .foreign ∨ b.2 = .iran))

/-- `sorted(scopes)`: the owner queues that lost one of the rows. -/
def scopesOf (rows : List OfferRequest) : List (Nat × Server) :=
  ((rows.filterMap fun r => r.offerOwnerUserId.map (·, r.requestHomeServer)).dedup).insertionSort
    (fun a b => scopeLe a b)

def promoteScopes (normalLifetimeMinutes now : Int) (flush : Bool)
    (scopes : List (Nat × Server)) : Work Unit :=
  Txn.each (fun scope =>
    promoteNextForOwner ambient scope.2 scope.1 normalLifetimeMinutes now flush >>= fun _ =>
      pure ()) scopes

/-- `if promote_next and scopes and normal_lifetime_minutes is not None`. -/
def promoteScopesIf (promoteNext : Bool) (normalLifetimeMinutes : Option Int)
    (now : Int) (flush : Bool) (rows : List OfferRequest) : Work Unit :=
  match promoteNext, normalLifetimeMinutes with
  | true, some lifetime => promoteScopes ambient lifetime now flush (scopesOf rows)
  | _, _ => pure ()

def invalidateOvertimeRequests (reason : String) (f : RequestFilter)
    (now : Int) (promoteNext : Bool) (normalLifetimeMinutes : Option Int) (flush : Bool) :
    Work (List OfferRequest) :=
  listNonterminalOvertimeRequests f >>= fun rows =>
  invalidateRows ambient reason now rows >>= fun ended =>
  flushIf flush >>= fun _ =>
  promoteScopesIf ambient promoteNext normalLifetimeMinutes now flush ended >>= fun _ =>
  pure ended

/-- The filter of `invalidate_overtime_requests_for_offer`. -/
def offerFilter (offer : Offer) : RequestFilter where
  localOfferId := some offer.id
  offerPublicId := nonemptyText (some offer.offerPublicId)
  requestHomeServer := some (normalizeServer offer.homeServer ambient.currentServer)

def invalidateOvertimeRequestsForOffer (offer : Offer) (reason : String)
    (now : Int) (promoteNext : Bool) (normalLifetimeMinutes : Option Int) (flush : Bool) :
    Work (List OfferRequest) :=
  invalidateOvertimeRequests ambient reason (offerFilter ambient offer) now promoteNext
    normalLifetimeMinutes flush

/-- `invalidate_overtime_requests_for_user` (line 1306): the requests as owner and as requester. -/
def invalidateOvertimeRequestsForUser (userId : Nat) (reason : String)
    (requestHomeServer : String) (now : Int) (promoteNext : Bool)
    (normalLifetimeMinutes : Option Int) (flush : Bool) : Work (List OfferRequest) :=
  let home := some (normalizeServer requestHomeServer ambient.currentServer)
  invalidateOvertimeRequests ambient reason
    { offerOwnerUserId := some userId, requestHomeServer := home } now false none false
    >>= fun asOwner =>
  invalidateOvertimeRequests ambient reason
    { requesterUserId := some userId, requestHomeServer := home } now false none false
    >>= fun asRequester =>
  let merged := asOwner ++ asRequester.filter (fun r => asOwner.all (fun o => o.id ≠ r.id))
  flushIf flush >>= fun _ =>
  promoteScopesIf ambient promoteNext normalLifetimeMinutes now flush merged >>= fun _ =>
  pure merged

/-- `OvertimeRequestCreateCommand`, less the customer snapshot that is only stored. -/
structure OvertimeRequestCreateCommand where
  offer : Offer
  requesterUserId : Nat
  actorUserId : Nat
  requestedQuantity : Int
  idempotencyKey : Option String
  requestSourceSurface : OfferRequestSourceSurface
  requestSourceServer : String
  receiptAt : Int
  normalLifetimeMinutes : Int
  requestHomeServer : Option String := none
  deriving DecidableEq, Repr

/-- `OvertimeRequestResult`, with the ledger row by its primary key. -/
structure OvertimeRequestResult where
  ledger : Nat
  duplicateReplay : Bool
  promoted : Bool
  deriving DecidableEq, Repr

namespace OvertimeRequestCreateCommand

/-- The home server of the request: the command's, else the offer's. -/
def home (command : OvertimeRequestCreateCommand) (current : Server) : Server :=
  match command.requestHomeServer with
  | none | some "" => normalizeServer command.offer.homeServer current
  | some value => normalizeServer value current

end OvertimeRequestCreateCommand

/-- `get_active_request_for_offer`. -/
def getActiveRequestForOffer (s : Session) (home : Server) (offerPublicId : String) :
    Option OfferRequest :=
  (s.select (fun r => r.requestHomeServer = home ∧ r.offerPublicId = offerPublicId ∧
    r.isOpen)).head?

/-- `count_requester_outstanding`: all open requests of a requester, and those on one owner. -/
def countRequesterOutstanding (rows : List OfferRequest) (requester owner : Nat) : Nat × Nat :=
  (rows.countP (fun r => r.requesterUserId = some requester ∧ r.isOpen),
    rows.countP (fun r => r.requesterUserId = some requester ∧ r.offerOwnerUserId = some owner ∧
      r.isOpen))

/-- The latest decision that starts a cooldown (`_cooldown_remaining_for_requester_offer`). -/
def lastCooldownDecision (rows : List OfferRequest) (requester : Nat) (offerPublicId : String) :
    Option Int :=
  ((rows.filter (fun r => r.requesterUserId = some requester ∧ r.offerPublicId = offerPublicId ∧
    r.resultStatus ∈ overtimeCooldownTriggerStatuses)).filterMap
      OfferRequest.decidedAt).foldr (fun at_ latest => some (max at_ (latest.getD at_))) none

def nextQueueSequence (rows : List OfferRequest) (home : Server) (owner : Nat) : Nat :=
  ((rows.filter (fun r => r.inScope home owner ∧ r.workflowKind = .overtime)).filterMap
    OfferRequest.queueSequence).foldr max 0 + 1

/-- The checks of `create_overtime_request` on no replay, in order; the result is the owner. -/
def admitOvertimeRequest (command : OvertimeRequestCreateCommand) (home : Server)
    (offerPublicId : String) (now : Int) (s : Session) : Except Raised Nat :=
  if classifyIntakeForOffer command.offer command.receiptAt command.normalLifetimeMinutes ≠
      .approval then
    .error (.overtime .intakeRejected intakeRejectedMessage none)
  else if command.offer.status ≠ .active then
    .error (.overtime .offerInvalid intakeRejectedMessage none)
  else match command.offer.userId with
  | none => .error .invalidArgument
  | some owner =>
    if command.requesterUserId = owner then
      .error (.overtime .offerInvalid ownOfferMessage none)
    else match getActiveRequestForOffer s home offerPublicId with
    | some active =>
      let left := remainingSecondsUntil active.decisionDeadlineAt now
      let remaining := if left ≤ 0 then overtimeDecisionSeconds else left
      .error (.overtime .sameOfferBusy (sameOfferBusyMessage remaining) (some remaining))
    | none =>
      let cooldownLeft := cooldownRemainingSeconds
        (lastCooldownDecision s.stored command.requesterUserId offerPublicId) now
      let outstanding := countRequesterOutstanding s.stored command.requesterUserId owner
      if 0 < cooldownLeft then
        .error (.overtime .cooldownActive (cooldownMessage cooldownLeft) (some cooldownLeft))
      else if maxOutstandingRequestsPerRequester ≤ outstanding.1 then
        .error (.overtime .requesterLimit requesterLimitMessage none)
      else if 1 ≤ outstanding.2 then
        .error (.overtime .requesterOwnerLimit requesterOwnerLimitMessage none)
      else .ok owner

/-- The row that `create_overtime_request` adds. -/
def newOvertimeRow (command : OvertimeRequestCreateCommand) (home : Server)
    (offerPublicId key : String) (owner : Nat) (s : Session) : OfferRequest where
  id := nextId s.live
  requestPublicId := some ambient.newRequestPublicId
  requestHomeServer := home
  localOfferId := some command.offer.id
  offerPublicId := offerPublicId
  requesterUserId := some command.requesterUserId
  actorUserId := some command.actorUserId
  requestSourceSurface := command.requestSourceSurface
  requestSourceServer := normalizeServer command.requestSourceServer ambient.currentServer
  requestedQuantity := command.requestedQuantity
  idempotencyKey := some key
  workflowKind := .overtime
  offerOwnerUserId := some owner
  queueSequence := some (nextQueueSequence s.stored home owner)
  presentedAt := none
  decisionDeadlineAt := none
  decidedByUserId := none
  terminalReason := none
  telegramDeliveryJobId := none
  telegramMessageId := none
  receivedAt := some command.receiptAt
  decidedAt := none
  resultStatus := .overtimeQueued
  publicFailureCode := none
  publicFailureMessage := none
  internalFailureCode := none
  resultingTradeId := none
  createdAt := some ambient.utcNow

/-- `db.add(ledger)`. -/
def addRow (row : OfferRequest) : Work Unit :=
  Txn.modify (fun s => { s with rows := UnitOfWork.insert row s.rows })

def createOvertimeRequest (command : OvertimeRequestCreateCommand)
    (flush : Bool) (now : Int) : Work OvertimeRequestResult :=
  match nonemptyText command.idempotencyKey with
  | none => Txn.raise (.overtime .idempotencyRequired idempotencyRequiredMessage none)
  | some key =>
    if command.requestedQuantity ≤ 0 then
      Txn.raise (.overtime .offerInvalid "requested_quantity must be positive" none)
    else match nonemptyText (some command.offer.offerPublicId) with
    | none => Txn.raise (.overtime .offerInvalid "offer_public_id is required" none)
    | some offerPublicId =>
      let home := command.home ambient.currentServer
      Txn.read (fun s => (s.select (hasIdempotencyKey home key)).head?) >>= fun existing =>
      match existing with
      -- the stored row is returned as it is: neither its status nor its owner is looked at
      | some ledger => pure ⟨ledger.id, true, false⟩
      | none =>
        Txn.read (admitOvertimeRequest command home offerPublicId now) >>= fun admitted =>
        match admitted with
        | .error e => Txn.raise e
        | .ok owner =>
          Txn.read (newOvertimeRow ambient command home offerPublicId key owner) >>= fun row =>
          addRow row >>= fun _ =>
          flushIf flush >>= fun _ =>
          promoteNextForOwner ambient home owner command.normalLifetimeMinutes now flush
            >>= fun promoted =>
          pure ⟨row.id, false, promoted = some row.id⟩

end TradingBot.Overtime
