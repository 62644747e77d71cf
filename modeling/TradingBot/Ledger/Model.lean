import TradingBot.Offer.Model

/-!
# The offer request ledger

Rows and status sets of `src/models/offer_request.py`, and the helpers of
`src/core/services/offer_request_ledger_service.py`: lookup by idempotency key, the decision that
moves a row to a new status, and the row of a direct request.

A flush that would break one of the unique indexes, the predicate `uniqueIndexes`, fails.
-/

namespace TradingBot

open Misc

inductive OfferRequestStatus where
  | received
  | authorized
  | rejectedBusinessRule
  | rejectedOfferExpired
  | rejectedLotUnavailable
  | rejectedConflict
  | completedTrade
  | duplicateReplay
  | failedInternal
  | overtimeQueued
  | overtimeDelivering
  | overtimePresented
  | overtimeRejectedByOwner
  | overtimeDecisionExpired
  | overtimeCancelledByRequester
  | overtimeInvalidated
  | overtimeDeliveryExpired
  | overtimeRejectedRequesterLimit
  deriving DecidableEq, Repr

def OfferRequestStatus.value : OfferRequestStatus → String
  | received => "received"
  | authorized => "authorized"
  | rejectedBusinessRule => "rejected_business_rule"
  | rejectedOfferExpired => "rejected_offer_expired"
  | rejectedLotUnavailable => "rejected_lot_unavailable"
  | rejectedConflict => "rejected_conflict"
  | completedTrade => "completed_trade"
  | duplicateReplay => "duplicate_replay"
  | failedInternal => "failed_internal"
  | overtimeQueued => "overtime_queued"
  | overtimeDelivering => "overtime_delivering"
  | overtimePresented => "overtime_presented"
  | overtimeRejectedByOwner => "overtime_rejected_by_owner"
  | overtimeDecisionExpired => "overtime_decision_expired"
  | overtimeCancelledByRequester => "overtime_cancelled_by_requester"
  | overtimeInvalidated => "overtime_invalidated"
  | overtimeDeliveryExpired => "overtime_delivery_expired"
  | overtimeRejectedRequesterLimit => "overtime_rejected_requester_limit"

inductive OfferRequestWorkflow where
  | direct
  | overtime
  deriving DecidableEq, Repr

inductive OfferRequestSourceSurface where
  | webapp
  | telegramBot
  | internalForward
  deriving DecidableEq, Repr

open OfferRequestStatus in
/-- `OVERTIME_NONTERMINAL_STATUSES`. -/
def overtimeNonterminalStatuses : List OfferRequestStatus :=
  [overtimeQueued, overtimeDelivering, overtimePresented]

open OfferRequestStatus in
/-- `OVERTIME_OWNER_OCCUPYING_STATUSES`. -/
def overtimeOwnerOccupyingStatuses : List OfferRequestStatus :=
  [overtimeDelivering, overtimePresented]

open OfferRequestStatus in
/-- `OVERTIME_TERMINAL_STATUSES`. -/
def overtimeTerminalStatuses : List OfferRequestStatus :=
  [overtimeRejectedByOwner, overtimeDecisionExpired, overtimeCancelledByRequester,
    overtimeInvalidated, overtimeDeliveryExpired, overtimeRejectedRequesterLimit]

open OfferRequestStatus in
/-- `OVERTIME_COOLDOWN_TRIGGER_STATUSES`. -/
def overtimeCooldownTriggerStatuses : List OfferRequestStatus :=
  [overtimeRejectedByOwner, overtimeDecisionExpired]

open OfferRequestStatus in
/-- `TERMINAL_OFFER_REQUEST_STATUSES` (offer_request_ledger_service.py:16). -/
def terminalOfferRequestStatuses : List OfferRequestStatus :=
  [rejectedBusinessRule, rejectedOfferExpired, rejectedLotUnavailable, rejectedConflict,
    completedTrade, duplicateReplay, failedInternal] ++ overtimeTerminalStatuses

/-- A row of `offer_requests`. -/
structure OfferRequest where
  id : Nat
  requestPublicId : Option String
  requestHomeServer : Server
  localOfferId : Option Nat
  offerPublicId : String
  requesterUserId : Option Nat
  actorUserId : Option Nat
  requestSourceSurface : OfferRequestSourceSurface
  requestSourceServer : Server
  requestedQuantity : Int
  idempotencyKey : Option String
  workflowKind : OfferRequestWorkflow
  offerOwnerUserId : Option Nat
  queueSequence : Option Nat
  presentedAt : Option Int
  decisionDeadlineAt : Option Int
  decidedByUserId : Option Nat
  terminalReason : Option String
  telegramDeliveryJobId : Option Nat
  telegramMessageId : Option Int
  receivedAt : Option Int
  decidedAt : Option Int
  resultStatus : OfferRequestStatus
  publicFailureCode : Option String
  publicFailureMessage : Option String
  internalFailureCode : Option String
  resultingTradeId : Option Nat
  createdAt : Option Int
  deriving DecidableEq, Repr

namespace OfferRequest

def isOpen (row : OfferRequest) : Bool := row.resultStatus ∈ overtimeNonterminalStatuses

def isOccupying (row : OfferRequest) : Bool := row.resultStatus ∈ overtimeOwnerOccupyingStatuses

def isQueued (row : OfferRequest) : Bool := row.resultStatus = .overtimeQueued

def inScope (row : OfferRequest) (home : Server) (owner : Nat) : Bool :=
  row.requestHomeServer = home ∧ row.offerOwnerUserId = some owner

/-- Two rows that a unique index forbids together: the idempotency key of a home server, the open
overtime request of an offer, the occupying request of an owner, the public id. A null never
clashes. -/
def clashes (a b : OfferRequest) : Bool :=
  (a.requestHomeServer = b.requestHomeServer ∧
    ((a.idempotencyKey.isSome ∧ a.idempotencyKey = b.idempotencyKey) ∨
      (a.isOpen ∧ b.isOpen ∧ a.offerPublicId = b.offerPublicId) ∨
      (a.isOccupying ∧ b.isOccupying ∧ a.offerOwnerUserId.isSome ∧
        a.offerOwnerUserId = b.offerOwnerUserId))) ∨
    (a.requestPublicId.isSome ∧ a.requestPublicId = b.requestPublicId)

end OfferRequest

/-- No two rows clash on a unique index of `offer_requests`. -/
def uniqueIndexes : List OfferRequest → Bool
  | [] => true
  | row :: rows => rows.all (fun other => !row.clashes other) && uniqueIndexes rows

theorem uniqueIndexes_iff {rows : List OfferRequest} :
    uniqueIndexes rows = true ↔ rows.Pairwise (fun a b => a.clashes b = false) := by
  induction rows with
  | nil => simp [uniqueIndexes]
  | cons row rows ih => simp [uniqueIndexes, ih, List.all_eq_true]

def nextId (rows : List OfferRequest) : Nat := rows.foldr (fun row bound => max row.id bound) 0 + 1

theorem id_lt_nextId {rows : List OfferRequest} {row : OfferRequest} (h : row ∈ rows) :
    row.id < nextId rows := by
  induction rows with
  | nil => simp at h
  | cons head tail ih =>
    simp only [nextId, List.foldr_cons] at ih ⊢
    rcases List.mem_cons.mp h with rfl | h
    · omega
    · have := ih h
      omega

/-- `_normalized_idempotency_key`. -/
def normalizedIdempotencyKey (value : Option String) : Option String := nonemptyText value

/-- The condition of `load_offer_request_by_idempotency` (offer_request_ledger_service.py:107). -/
def hasIdempotencyKey (home : Server) (key : String) (row : OfferRequest) : Bool :=
  row.requestHomeServer = home ∧ row.idempotencyKey = some key

/-- `load_offer_request_by_idempotency`, on the rows of the ledger. -/
def loadOfferRequestByIdempotency (rows : List OfferRequest) (home : Server)
    (idempotencyKey : Option String) : Option OfferRequest :=
  match normalizedIdempotencyKey idempotencyKey with
  | none => none
  | some key => rows.find? (hasIdempotencyKey home key)

/-- The keyword arguments of `apply_offer_request_decision`. -/
structure Decision where
  resultStatus : OfferRequestStatus
  decidedAt : Option Int := none
  publicFailureCode : Option String := none
  publicFailureMessage : Option String := none
  internalFailureCode : Option String := none
  resultingTradeId : Option Nat := none
  terminalReason : Option String := none
  decidedByUserId : Option Nat := none
  deriving DecidableEq, Repr

/-- `apply_offer_request_decision` (offer_request_ledger_service.py:127); `none` is the
`OfferRequestTerminalStateError` of a terminal row. -/
def applyOfferRequestDecision (utcNow : Int) (ledger : OfferRequest) (decision : Decision) :
    Option OfferRequest :=
  if ledger.resultStatus ∈ terminalOfferRequestStatuses ∧
      decision.resultStatus ≠ ledger.resultStatus then none
  else some { ledger with
    resultStatus := decision.resultStatus
    decidedAt :=
      if decision.resultStatus ∈ terminalOfferRequestStatuses ∧ ledger.decidedAt = none then
        some (decision.decidedAt.getD utcNow)
      else decision.decidedAt <|> ledger.decidedAt
    publicFailureCode := decision.publicFailureCode <|> ledger.publicFailureCode
    publicFailureMessage := decision.publicFailureMessage <|> ledger.publicFailureMessage
    internalFailureCode := decision.internalFailureCode <|> ledger.internalFailureCode
    resultingTradeId := decision.resultingTradeId <|> ledger.resultingTradeId
    terminalReason := decision.terminalReason <|> ledger.terminalReason
    decidedByUserId := decision.decidedByUserId <|> ledger.decidedByUserId }

end TradingBot
