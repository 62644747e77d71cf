import TradingBot.Overtime.Reconciliation
import TradingBot.Overtime.OfferEnd

/-!
# The overtime workflow as a state machine

The operations on the ledger, the transaction that runs one, and the step from ledger to ledger.
Every call brings the offers its session reads, so a run covers any behaviour of the offers between
two transactions.
-/

namespace TradingBot.Overtime

open TradingBot TradingBot.Misc

/-- The operations of the workflow, each with the arguments its callers choose. -/
inductive Op where
  | create (command : OvertimeRequestCreateCommand) (flush : Bool)
  | promoteNext (home : Server) (owner : Nat) (normalLifetimeMinutes : Int) (flush : Bool)
  | markPresented (id : Nat) (presentedAt : Int) (telegramMessageId : Option Int) (flush : Bool)
  | cancel (id requester : Nat) (flush promoteNext : Bool) (normalLifetimeMinutes : Option Int)
  | reject (id decidedBy : Nat) (flush promoteNext : Bool) (normalLifetimeMinutes : Option Int)
  | expireDecision (id : Nat) (flush promoteNext : Bool) (normalLifetimeMinutes : Option Int)
  | recordCompletedTrade (id resultingTradeId decidedBy : Nat)
  | approve (id resultingTradeId decidedBy : Nat) (normalMinutes : Int)
  | invalidate (id : Nat) (reason : String) (flush : Bool)
  | invalidateAndPromote (id : Nat) (reason : String) (onlyDelivering : Bool)
      (normalLifetimeMinutes : Int)
  | invalidateForOffer (offer : Offer) (reason : String) (promoteNext : Bool)
      (normalLifetimeMinutes : Option Int) (flush : Bool)
  | invalidateForUser (userId : Nat) (reason requestHomeServer : String) (promoteNext : Bool)
      (normalLifetimeMinutes : Option Int) (flush : Bool)
  | expireOffer (offerId : Nat) (command : OfferExpiryCommand) (normalMinutes : Int)
      (requireAuthority : Bool)
  | expireOffers (offerIds : List Nat) (command : OfferExpiryCommand) (normalMinutes : Int)
      (requireAuthority : Bool)
  | finalizeOutageRecovery (mode : Server) (candidates : List Nat)
  | sweepPresented (normalLifetimeMinutes : Int) (limit : Nat) (flush : Bool)
  | sweepDelivering (limit : Nat) (flush : Bool)
  | reconcile (jobs : Nat → Option DeliveryJob) (dryRun : Bool) (normalLifetimeMinutes : Int)
      (limit : Nat) (flush : Bool)

/-- One transaction: what surrounds it, its clock, the offers it reads, and the operation. -/
structure Call where
  ambient : Ambient
  now : Int
  offers : List Offer
  op : Op

def approveRequest (ambient : Ambient) (id resultingTradeId decidedBy : Nat)
    (normalMinutes now : Int) : Work Unit :=
  Txn.read (fun s => s.row? id) >>= fun ledger? =>
  match ledger? with
  | none => Txn.raise (.overtime .notFound "" none)
  | some ledger =>
    recordCompletedTrade ambient id resultingTradeId decidedBy ambient.utcNow >>= fun _ =>
    match ledger.localOfferId with
    | none => pure ()
    | some offerId =>
      updateOffer offerId (fun o => { o with overtimeTradeCommitted := true }) >>= fun _ =>
      finalizeOvertimeTradeSideEffects ambient ledger offerId normalMinutes now

/-- The callers that end one request and hand the seat on in one transaction:
`_invalidate_and_promote` of the legacy outbox and the delivery queue's freshness feedback, for a
delivering request, and `_commit_rejected_offer_request_ledger`, for any. -/
def invalidateAndPromote (ambient : Ambient) (id : Nat) (reason : String) (now : Int)
    (onlyDelivering : Bool) (normalLifetimeMinutes : Int) : Work Unit :=
  Txn.read (fun s => s.row? id) >>= fun ledger? =>
  match ledger? with
  | none => pure ()
  | some ledger =>
    if onlyDelivering = true ∧ ledger.resultStatus ≠ .overtimeDelivering then pure ()
    else
      invalidateRequest ambient id reason now true >>= fun _ =>
      promoteAfter ambient ledger true (some normalLifetimeMinutes) now true

def perform (c : Call) : Work Unit :=
  match c.op with
  | .create command flush => createOvertimeRequest c.ambient command flush c.now >>= fun _ => pure ()
  | .promoteNext home owner lifetime flush =>
    promoteNextForOwner c.ambient home owner lifetime c.now flush >>= fun _ => pure ()
  | .markPresented id presentedAt messageId flush =>
    markPresented c.ambient id presentedAt messageId flush
  | .cancel id requester flush promoteNext lifetime =>
    cancelByRequester c.ambient id requester c.now flush promoteNext lifetime
  | .reject id decidedBy flush promoteNext lifetime =>
    rejectByOwner c.ambient id decidedBy c.now flush promoteNext lifetime
  | .expireDecision id flush promoteNext lifetime =>
    expireDecision c.ambient id c.now flush promoteNext lifetime
  | .recordCompletedTrade id tradeId decidedBy =>
    recordCompletedTrade c.ambient id tradeId decidedBy c.now
  | .approve id tradeId decidedBy normalMinutes =>
    approveRequest c.ambient id tradeId decidedBy normalMinutes c.now
  | .invalidate id reason flush => invalidateRequest c.ambient id reason c.now flush
  | .invalidateAndPromote id reason onlyDelivering lifetime =>
    invalidateAndPromote c.ambient id reason c.now onlyDelivering lifetime
  | .invalidateForOffer offer reason promoteNext lifetime flush =>
    invalidateOvertimeRequestsForOffer c.ambient offer reason c.now promoteNext lifetime flush
      >>= fun _ => pure ()
  | .invalidateForUser userId reason home promoteNext lifetime flush =>
    invalidateOvertimeRequestsForUser c.ambient userId reason home c.now promoteNext lifetime
      flush >>= fun _ => pure ()
  | .expireOffer offerId command normalMinutes requireAuthority =>
    expireOfferAuthoritatively c.ambient offerId command c.now normalMinutes requireAuthority
  | .expireOffers offerIds command normalMinutes requireAuthority =>
    expireOffersAuthoritatively c.ambient offerIds command c.now normalMinutes requireAuthority
  | .finalizeOutageRecovery mode candidates =>
    finalizeOutageRecovery c.ambient mode candidates c.now
  | .sweepPresented lifetime limit flush =>
    expireOverduePresentedDecisions c.ambient c.now lifetime limit flush >>= fun _ => pure ()
  | .sweepDelivering limit flush =>
    expireOverdueDeliveringRequests c.ambient c.now limit flush >>= fun _ => pure ()
  | .reconcile jobs dryRun lifetime limit flush =>
    reconcileOvertimeRequests c.ambient jobs dryRun c.now lifetime limit flush >>= fun _ => pure ()

def Call.session (c : Call) (rows : List OfferRequest) : Session :=
  ⟨UnitOfWork.load rows, c.offers⟩

def Call.transaction (c : Call) : Work Unit := perform c >>= fun _ => flushSession

/-- The session after the transaction: committed, or rolled back when anything was raised. -/
def Call.outcome (c : Call) (rows : List OfferRequest) : Session :=
  Txn.atomically c.transaction (c.session rows)

def step (rows : List OfferRequest) (c : Call) : List OfferRequest := (c.outcome rows).live

def sampleOffer (id : Nat) (offerPublicId : String) (owner : Nat) : Offer where
  id := id
  offerPublicId := offerPublicId
  userId := some owner
  homeServer := "foreign"
  offerType := .sell
  commodityId := 1
  quantity := 10
  price := 100
  remainingQuantity := some 10
  isWholesale := true
  lotSizes := none
  overtimeMinutesSnapshot := 10
  overtimeTradeCommitted := false
  status := .active
  expireReason := none
  expiredAt := none
  expiredByUserId := none
  expiredByActorUserId := none
  expireSourceSurface := none
  expireSourceServer := none
  createdAt := some 0

/-- The foreign server at an instant, with a delivery queue that accepts every request. -/
def sampleAmbient (utcNow : Int) (newRequestPublicId : String) : Ambient where
  currentServer := .foreign
  utcNow := utcNow
  newRequestPublicId := newRequestPublicId
  enqueue := fun id => .queueV1 { jobId := some id }
  statusEditFlushes := fun _ => false

def sampleCommand (offer : Offer) (requester : Nat) (idempotencyKey : String) (receiptAt : Int) :
    OvertimeRequestCreateCommand where
  offer := offer
  requesterUserId := requester
  actorUserId := requester
  requestedQuantity := 10
  idempotencyKey := some idempotencyKey
  requestSourceSurface := .webapp
  requestSourceServer := "foreign"
  receiptAt := receiptAt
  normalLifetimeMinutes := 1

end TradingBot.Overtime
