import TradingBot.Trades.Model

/-!
# Executing a trade

`_execute_trade_authoritatively` (`src/api/routers/trades.py:3618`) as a sequence of stages. A stage
reads the committed tables once and goes on to the next or ends the request with a reply; only an
ending stage commits. `advance` is one stage and `execute` runs them in a row. The first takes the
advisory lock of the key, `holding` starts with the lock of the offer; both last to the end of the
transaction.
-/

namespace TradingBot.Trades

open TradingBot TradingBot.Misc TradingBot.Overtime

/-- A trade request: its schema, and the overtime row it approves, if it is an approval. -/
structure TradeRequest where
  data : TradeCreate
  approval : Option Approval := none
  deriving DecidableEq

/-- The ledger row of a request: a stored one, or one added and not yet committed. -/
structure LedgerInHand where
  row : OfferRequest
  isNew : Bool
  deriving DecidableEq, Repr

inductive Stage where
  | start
  /-- The advisory lock of the key is held. -/
  | locked
  /-- No reply was stored under the key. -/
  | cleared
  /-- The offer is locked and loaded. -/
  | holding (offer : Offer)
  /-- The ledger row is loaded or added. -/
  | recorded (offer : Offer) (ledger : LedgerInHand)
  /-- Every check has passed and no trade has the key. -/
  | unmatched (offer : Offer) (ledger : LedgerInHand)
  | done (reply : Reply)
  deriving DecidableEq

def entryRefusal (ctx : TradeContext) : Option Reply :=
  if ctx.isAccountantContext then some (.refused 403 accountantMarketBlockedDetail)
  else if ctx.ownerIsWatch then some (.refused 403 watchRoleDetail)
  else if ctx.ownerTradeBlocked then some (.refused 403 accountInactiveDetail)
  else none

/-- `_load_completed_idempotent_replay_trade`. -/
def loadCompletedIdempotentReplayTrade (db : TradeDb) (ledger : OfferRequest)
    (data : TradeCreate) : Option Trade :=
  match ledger.resultingTradeId with
  | some id => db.trade? id
  | none => (truthyText data.idempotencyKey).bind db.tradeByKey?

/-- `_validate_completed_idempotent_replay_trade` (line 2711): nothing mismatches. -/
def validCompletedIdempotentReplay (ctx : TradeContext) (data : TradeCreate)
    (ledger : OfferRequest) (offer : Option Offer) (trade : Trade) : Bool :=
  ledger.requestHomeServer = ctx.currentServer ∧
    coerceTradeUserId ledger.localOfferId = some data.offerId ∧
    coerceTradeUserId ledger.requesterUserId = coerceTradeUserId (some ctx.ownerUserId) ∧
    coerceTradeUserId ledger.actorUserId = coerceTradeUserId (some ctx.actorUserId) ∧
    ledger.requestedQuantity = data.quantity ∧
    stripOrEmpty ledger.idempotencyKey = stripOrEmpty data.idempotencyKey ∧
    (∀ publicId, truthyText data.offerPublicId = some publicId →
      pyStrip ledger.offerPublicId = pyStrip publicId) ∧
    (∀ id, ledger.resultingTradeId = some id → trade.id = id) ∧
    (trade.offerId.isSome → trade.offerId =
      ((offer.map Offer.id) <|> coerceTradeUserId ledger.localOfferId)) ∧
    (∀ o, offer = some o → trade.commodityId = o.commodityId) ∧
    trade.quantity = data.quantity ∧
    coerceTradeUserId trade.responderUserId = coerceTradeUserId (some ctx.ownerUserId) ∧
    ((coerceTradeUserId trade.actorUserId).isSome →
      coerceTradeUserId trade.actorUserId = coerceTradeUserId (some ctx.actorUserId)) ∧
    trade.idempotencyKey = data.idempotencyKey

def tryReturnCompletedIdempotentReplay (ctx : TradeContext) (data : TradeCreate) (db : TradeDb)
    (ledger : Option OfferRequest) (offer : Option Offer) : Option Reply :=
  match truthyText data.idempotencyKey, ledger with
  | some _, some ledger =>
    if ledger.resultStatus ≠ .completedTrade then none
    else match loadCompletedIdempotentReplayTrade db ledger data with
    | none => some (.refused 503 replayResultMissingDetail)
    | some trade =>
      if validCompletedIdempotentReplay ctx data ledger offer trade then
        some (.completed ledger trade)
      else some (.refused 409 replayMismatchDetail)
  | _, _ => none

/-- Line 3271 does not look at requester, offer or quantity. -/
def tryReturnOvertimeIdempotentStatus (ledger : Option OfferRequest) (data : TradeCreate) :
    Option Reply :=
  match ledger with
  | none => none
  | some ledger =>
    if ledger.workflowKind ≠ .overtime then none
    else if ledger.resultStatus = .completedTrade then none
    else if ledger.resultStatus ∈ overtimeNonterminalStatuses then
      some (.overtime ledger true false)
    else if ledger.resultStatus ∈ overtimeTerminalStatuses then
      some (.overtimeTerminal ledger data.offerId)
    else none

def replayByKey (ctx : TradeContext) (data : TradeCreate) (db : TradeDb) : Option Reply :=
  let ledger := loadOfferRequestByIdempotency db.rows ctx.currentServer data.idempotencyKey
  tryReturnCompletedIdempotentReplay ctx data db ledger none <|>
    tryReturnOvertimeIdempotentStatus ledger data

def admissionRefusal (ctx : TradeContext) : Option Reply :=
  if ¬ ctx.marketOpen then some (.refused 409 marketClosedDetail)
  else if ctx.ownerRestricted then some (.refused 403 accountRestrictedDetail)
  else ctx.userLimitError.map (.refused 403)

variable (offer : Offer)

/-- `_offer_request_public_id`. -/
def offerRequestPublicId (data : TradeCreate) : String :=
  let given := stripOrEmpty data.offerPublicId
  if given ≠ "" then given else pyStrip offer.offerPublicId

/-- The refusals of `_create_offer_request_ledger_for_trade`. -/
def publicIdRefusal (data : TradeCreate) : Option Reply :=
  if offerRequestPublicId offer data = "" then some (.refused 409 publicIdMissingDetail)
  else match truthyText data.offerPublicId with
  | some publicId =>
    if offer.offerPublicId ≠ publicId then some (.refused 409 publicIdMismatchDetail) else none
  | none => none

/-- The row that `create_offer_request_ledger_entry` adds (offer_request_ledger_service.py:200). -/
def newDirectRow (ctx : TradeContext) (offer : Offer) (data : TradeCreate) : OfferRequest where
  id := 0
  requestPublicId := some ctx.ambient.newRequestPublicId
  requestHomeServer := normalizeServer offer.homeServer ctx.currentServer
  localOfferId := some offer.id
  offerPublicId := offerRequestPublicId offer data
  requesterUserId := some ctx.ownerUserId
  actorUserId := some ctx.actorUserId
  requestSourceSurface := ctx.requestSourceSurface
  requestSourceServer := ctx.requestSourceServer
  requestedQuantity := data.quantity
  idempotencyKey := normalizedIdempotencyKey data.idempotencyKey
  workflowKind := .direct
  offerOwnerUserId := none
  queueSequence := none
  presentedAt := none
  decisionDeadlineAt := none
  decidedByUserId := none
  terminalReason := none
  telegramDeliveryJobId := none
  telegramMessageId := none
  receivedAt := some (ctx.edgeReceivedAt.getD ctx.now)
  decidedAt := none
  resultStatus := .received
  publicFailureCode := none
  publicFailureMessage := none
  internalFailureCode := none
  resultingTradeId := none
  createdAt := some ctx.now

/-- `create_offer_request_ledger_entry`: the row under the key, or a new one. -/
def createOfferRequestLedgerEntry (ctx : TradeContext) (offer : Offer) (data : TradeCreate)
    (db : TradeDb) : LedgerInHand :=
  match loadOfferRequestByIdempotency db.rows (normalizeServer offer.homeServer ctx.currentServer)
      data.idempotencyKey with
  | some row => ⟨row, false⟩
  | none => ⟨newDirectRow ctx offer data, true⟩

open OfferRequestStatus in
/-- `_terminal_duplicate_request_http_exception` (line 2662). -/
def terminalDuplicateRequestReply (ledger : OfferRequest) : Option Reply :=
  if ledger.resultStatus ∈ [received, authorized, completedTrade] then none
  else some (.recordedRejection ledger)

def LedgerInHand.store (ledger : LedgerInHand) (rows : List OfferRequest) : List OfferRequest :=
  if ledger.isNew then rows ++ [{ ledger.row with id := nextId rows }]
  else rows.map (fun r => if r.id = ledger.row.id then ledger.row else r)

/-- `db.commit()`: nothing is written when a unique index of the ledger would be broken. -/
def commitRows (db : TradeDb) (rows : List OfferRequest) : TradeDb :=
  if uniqueIndexes rows then { db with rows := rows } else db

def TradeDb.session (db : TradeDb) : Session := ⟨UnitOfWork.load db.rows, db.offers⟩

def commitWork {α : Type} (db : TradeDb) (m : Work α) : Except Raised (α × TradeDb) :=
  match (m >>= fun a => flushSession >>= fun _ => (pure a : Work α)) db.session with
  | (.ok a, s) => .ok (a, { db with rows := s.live, offers := s.offers })
  | (.error e, _) => .error e

structure Rejection where
  reply : Reply
  resultStatus : OfferRequestStatus
  publicFailureCode : String
  publicFailureMessage : String
  internalFailureCode : String

def releaseAfterRejection (ctx : TradeContext) (row : OfferRequest) (reason : String) :
    Work Unit :=
  invalidateRequest ctx.ambient row.id reason ctx.now true >>= fun _ =>
  match row.offerOwnerUserId with
  | none => pure ()
  | some owner =>
    promoteNextForOwner ctx.ambient row.requestHomeServer owner ctx.offerExpiryMinutes ctx.now
      true >>= fun _ => pure ()

/-- `_commit_rejected_offer_request_ledger` (line 2887), then the reply; a failed commit is
logged. -/
def commitRejected (ctx : TradeContext) (db : TradeDb) (ledger : LedgerInHand)
    (rejection : Rejection) : Stage × TradeDb :=
  if ledger.row.workflowKind = .overtime then
    match commitWork db (releaseAfterRejection ctx ledger.row rejection.internalFailureCode) with
    | .ok (_, db') => (.done rejection.reply, db')
    | .error _ => (.done rejection.reply, db)
  else match applyOfferRequestDecision ctx.now ledger.row
      { resultStatus := rejection.resultStatus
        publicFailureCode := some rejection.publicFailureCode
        publicFailureMessage := some rejection.publicFailureMessage
        internalFailureCode := some rejection.internalFailureCode } with
  | none => (.done .failed, db)
  | some row => (.done rejection.reply, commitRows db (LedgerInHand.store ⟨row, ledger.isNew⟩
      db.rows))

def contentionRejection : Rejection where
  reply := .refused 409 tradeConflictDetail
  resultStatus := .rejectedConflict
  publicFailureCode := "offer_contention"
  publicFailureMessage := tradeConflictDetail
  internalFailureCode := "offer_execution_lock_busy"

/-- Line 3058: the row is stored without the key. -/
def rejectTradeOfferContention (ctx : TradeContext) (data : TradeCreate) (db : TradeDb) :
    Stage × TradeDb :=
  match db.offer? data.offerId with
  | none => (.done (.refused 404 offerNotFoundDetail), db)
  | some offer =>
    let keyless := { data with idempotencyKey := none }
    match publicIdRefusal offer keyless with
    | some reply => (.done reply, db)
    | none => commitRejected ctx db (createOfferRequestLedgerEntry ctx offer keyless db)
        contentionRejection

/-! ## Stages -/

/-- From `start`: an approval and a request without a key go on without the lock of the key. -/
def enter (ctx : TradeContext) (request : TradeRequest) : Stage :=
  match entryRefusal ctx with
  | some reply => .done reply
  | none =>
    if (truthyText request.data.idempotencyKey).isSome ∧ request.approval = none then .locked
    else .cleared

/-- From `locked`. -/
def clear (ctx : TradeContext) (request : TradeRequest) (db : TradeDb) : Stage :=
  match replayByKey ctx request.data db with
  | some reply => .done reply
  | none => .cleared

/-- From `cleared`: the locks of the key and of the offer, and the offer row. -/
def hold (ctx : TradeContext) (request : TradeRequest) (db : TradeDb) : Stage × TradeDb :=
  match admissionRefusal ctx with
  | some reply => (.done reply, db)
  | none =>
    if ¬ ctx.offerLockGained then rejectTradeOfferContention ctx request.data db
    else match db.offer? request.data.offerId with
    | none => (.done (.refused 404 offerNotFoundDetail), db)
    | some offer => (.holding offer, db)

def classifyTradeRequestIntake (ctx : TradeContext) (offer : Offer) : OfferRequestIntakePhase :=
  classifyIntakeForOffer offer (ctx.edgeReceivedAt.getD ctx.now) ctx.offerExpiryMinutes

def amountRejection (data : TradeCreate) (check : TradeAmountCheck) : Rejection :=
  if ¬ offer.isWholesale ∧ check.availableAmounts ≠ [] ∧ check.message = lotGoneMessage then
    { reply := .lotUnavailable offer data.quantity check.availableAmounts
      resultStatus := .rejectedLotUnavailable
      publicFailureCode := "lot_unavailable"
      publicFailureMessage := check.message
      internalFailureCode := "lot_unavailable" }
  else
    { reply := .refused 400 check.message
      resultStatus := .rejectedBusinessRule
      publicFailureCode := "invalid_quantity"
      publicFailureMessage := check.message
      internalFailureCode := "invalid_trade_amount" }

def prevalidateOvertimeRequestForTrade (ctx : TradeContext) (offer : Offer) (data : TradeCreate) :
    Option Reply :=
  let check := offer.checkTradeAmount data.quantity
  if ¬ check.valid then some (amountRejection offer data check).reply
  else ctx.customerLimit.map (fun violation => .refused 400 violation.publicMessage)

/-- The command of `_create_overtime_request_for_trade`. -/
def overtimeCommand (ctx : TradeContext) (offer : Offer) (data : TradeCreate) :
    OvertimeRequestCreateCommand where
  offer := offer
  requesterUserId := ctx.ownerUserId
  actorUserId := ctx.actorUserId
  requestedQuantity := data.quantity
  idempotencyKey := some (stripOrEmpty data.idempotencyKey)
  requestSourceSurface := ctx.requestSourceSurface
  requestSourceServer := match ctx.requestSourceServer with
    | .foreign => "foreign" | .iran => "iran"
  receiptAt := ctx.edgeReceivedAt.getD ctx.now
  normalLifetimeMinutes := ctx.offerExpiryMinutes
  requestHomeServer := some (match normalizeServer offer.homeServer ctx.currentServer with
    | .foreign => "foreign" | .iran => "iran")

def createOvertimeRequestForTrade (ctx : TradeContext) (offer : Offer) (data : TradeCreate)
    (db : TradeDb) : Stage × TradeDb :=
  if stripOrEmpty data.idempotencyKey = "" then
    (.done (.overtimeError .idempotencyRequired idempotencyRequiredMessage none), db)
  else match commitWork db
      (createOvertimeRequest ctx.ambient (overtimeCommand ctx offer data) true ctx.now) with
  | .ok (result, db') =>
    match db'.row? result.ledger with
    | some row => (.done (.overtime row result.duplicateReplay result.promoted), db')
    | none => (.done .failed, db')
  | .error (.overtime code message remaining) =>
    (.done (.overtimeError code message remaining), db)
  | .error _ => (.done .failed, db)

/-- From `holding`, for an approval: the row must belong to this offer and this requester. -/
def recordApproval (ctx : TradeContext) (offer : Offer) (approval : Approval) (db : TradeDb) :
    Stage :=
  match db.row? approval.ledger with
  | none => .done .failed
  | some row =>
    if row.localOfferId.getD 0 ≠ offer.id then .done (.refused 409 approvalOfferMismatchDetail)
    else if row.requesterUserId.getD 0 ≠ ctx.ownerUserId then
      .done (.refused 403 approvalRequesterMismatchDetail)
    else .recorded offer ⟨row, false⟩

/-- From `holding`, for a direct request outside its approval window. -/
def recordDirect (ctx : TradeContext) (offer : Offer) (data : TradeCreate) (db : TradeDb) :
    Stage :=
  match publicIdRefusal offer data with
  | some reply => .done reply
  | none =>
    let ledger := createOfferRequestLedgerEntry ctx offer data db
    match (if ledger.isNew then none else terminalDuplicateRequestReply ledger.row) with
    | some reply => .done reply
    | none =>
      match tryReturnCompletedIdempotentReplay ctx data db (some ledger.row) (some offer) with
      | some reply => .done reply
      | none => .recorded offer ledger

/-- From `holding`. -/
def record (ctx : TradeContext) (request : TradeRequest) (offer : Offer) (db : TradeDb) :
    Stage × TradeDb :=
  match request.approval with
  | some approval => (recordApproval ctx offer approval db, db)
  | none =>
    if classifyTradeRequestIntake ctx offer = .approval then
      if stripOrEmpty request.data.idempotencyKey = "" then
        (.done (.overtimeError .idempotencyRequired idempotencyRequiredMessage none), db)
      else match prevalidateOvertimeRequestForTrade ctx offer request.data with
      | some reply => (.done reply, db)
      | none => createOvertimeRequestForTrade ctx offer request.data db
    else (recordDirect ctx offer request.data db, db)

/-- `_is_time_limit_expired_offer`. -/
def isTimeLimitExpiredOffer : Bool :=
  offer.status = .expired ∧ offer.expireReason = some timeLimitReason

def withinInFlightFinalizationGrace (ctx : TradeContext) : Bool :=
  match ctx.edgeReceivedAt with
  | none => false
  | some edge => max 0 (ctx.now - edge) ≤ ctx.tradeForwardGraceSeconds * second

def offerClosedForTrade (ctx : TradeContext) (approving : Bool) (offer : Offer) : Bool :=
  let expiredForTrade := !approving && classifyTradeRequestIntake ctx offer = .rejected
  let inFlight := isTimeLimitExpiredOffer offer && !expiredForTrade && !approving &&
    withinInFlightFinalizationGrace ctx
  (offer.status ≠ .active && !inFlight) || expiredForTrade

def checkRejection (ctx : TradeContext) (data : TradeCreate) (offer : Offer) :
    Option Rejection :=
  if offer.userId = some ctx.ownerUserId then
    some { reply := .refused 400 ownOfferDetail
           resultStatus := .rejectedBusinessRule
           publicFailureCode := "own_offer"
           publicFailureMessage := ownOfferDetail
           internalFailureCode := "requester_owns_offer" }
  else if ctx.offerOwnerInactive then
    some { reply := .refused 400 offerOwnerInactiveDetail
           resultStatus := .rejectedBusinessRule
           publicFailureCode := "offer_owner_inactive"
           publicFailureMessage := offerOwnerInactiveDetail
           internalFailureCode := "offer_owner_inactive_or_missing" }
  else if ctx.principalsBlocked then
    some { reply := .refused 400 tradeUnavailableDetail
           resultStatus := .rejectedBusinessRule
           publicFailureCode := "business_rule"
           publicFailureMessage := tradeUnavailableDetail
           internalFailureCode := "blocked_principal_pair" }
  else
    let check := offer.checkTradeAmount data.quantity
    if ¬ check.valid then some (amountRejection offer data check)
    else ctx.customerLimit.map fun violation =>
      { reply := .refused 400 violation.publicMessage
        resultStatus := .rejectedBusinessRule
        publicFailureCode := "customer_trade_limit"
        publicFailureMessage := violation.publicMessage
        internalFailureCode := "customer_trade_limit_" ++ violation.reasonCode }

def offerNotActiveRejection : Rejection where
  reply := .refused 400 offerNotActiveDetail
  resultStatus := .rejectedOfferExpired
  publicFailureCode := "offer_not_active"
  publicFailureMessage := offerNotActiveDetail
  internalFailureCode := "offer_not_active_or_expired"

/-- `_build_trade_execution_plan`: the users of the chain, none next to itself. -/
def buildTradeExecutionPlan (offerUserId sourcePrincipalUserId responderPrincipalUserId
    ownerUserId : Nat) : List Nat :=
  let append (nodes : List Nat) (userId : Nat) : List Nat :=
    if nodes.getLast? = some userId then nodes else nodes ++ [userId]
  let nodes := if sourcePrincipalUserId ≠ offerUserId then
    append [offerUserId] sourcePrincipalUserId else [offerUserId]
  append (append nodes responderPrincipalUserId) ownerUserId

def executionPlan (ctx : TradeContext) (offer : Offer) : List Nat :=
  buildTradeExecutionPlan (offer.userId.getD 0) ctx.sourcePrincipalUserId
    ctx.responderPrincipalUserId ctx.ownerUserId

/-- `uses_customer_trade_chain`. -/
def usesCustomerTradeChain (ctx : TradeContext) (offer : Offer) : Bool :=
  2 < (executionPlan ctx offer).length

/-- `executed_trade_price`. -/
def executedTradePrice (ctx : TradeContext) (offer : Offer) : Int :=
  match ctx.tier2Price with
  | some price => price offer.price
  | none => offer.price

/-- `_validate_idempotent_trade_replay` (line 438): nothing mismatches. -/
def validIdempotentTradeReplay (ctx : TradeContext) (data : TradeCreate) (offer : Offer)
    (trade : Trade) : Bool :=
  let chain := usesCustomerTradeChain ctx offer
  (if chain then trade.offerId = none ∨ trade.offerId = some offer.id
    else trade.offerId = some offer.id) ∧
    (¬ chain → coerceTradeUserId trade.offerUserId = coerceTradeUserId offer.userId) ∧
    coerceTradeUserId trade.responderUserId = coerceTradeUserId (some ctx.ownerUserId) ∧
    ((coerceTradeUserId trade.actorUserId).isSome →
      coerceTradeUserId trade.actorUserId = coerceTradeUserId (some ctx.actorUserId)) ∧
    trade.commodityId = offer.commodityId ∧ trade.quantity = data.quantity ∧
    trade.price = executedTradePrice ctx offer

/-- `_finalize_successful_trade_ledger` on a direct row. -/
def completeDirectRow (ctx : TradeContext) (row : OfferRequest) (tradeId : Nat) :
    Option OfferRequest :=
  applyOfferRequestDecision ctx.now row
    { resultStatus := .completedTrade, resultingTradeId := some tradeId }

def overtimeDecidedBy (request : TradeRequest) (row : OfferRequest) : Nat :=
  ((request.approval.bind Approval.decidedBy) <|> row.offerOwnerUserId).getD 0

/-- The trade that is already stored under the key: the ledger row is completed with it. -/
def returnExistingTrade (ctx : TradeContext) (request : TradeRequest) (offer : Offer)
    (ledger : LedgerInHand) (trade : Trade) (db : TradeDb) : Stage × TradeDb :=
  if ¬ validIdempotentTradeReplay ctx request.data offer trade then
    (.done (.refused 409 replayMismatchDetail), db)
  else if request.approval.isSome ∨ ledger.row.workflowKind = .overtime then
    match commitWork db (recordCompletedTrade ctx.ambient ledger.row.id trade.id
        (overtimeDecidedBy request ledger.row) ctx.now >>= fun _ =>
        updateOffer offer.id (fun o => { o with overtimeTradeCommitted := true })) with
    | .ok (_, db') => (.done (.existing trade), db')
    | .error .integrity => (.done (.refused 409 tradeAlreadyRecordedDetail), db)
    | .error _ => (.done .failed, db)
  else match completeDirectRow ctx ledger.row trade.id with
  | none => (.done .failed, db)
  | some row =>
    let rows := LedgerInHand.store ⟨row, ledger.isNew⟩ db.rows
    if uniqueIndexes rows then (.done (.existing trade), { db with rows := rows })
    else (.done (.refused 409 tradeAlreadyRecordedDetail), db)

/-- From `recorded`. -/
def validate (ctx : TradeContext) (request : TradeRequest) (offer : Offer) (ledger : LedgerInHand)
    (db : TradeDb) : Stage × TradeDb :=
  if offerClosedForTrade ctx request.approval.isSome offer then
    if request.approval.isSome then (.done (.refused 400 offerNotActiveDetail), db)
    else commitRejected ctx db ledger offerNotActiveRejection
  else match checkRejection ctx request.data offer with
  | some rejection => commitRejected ctx db ledger rejection
  | none =>
    if ctx.principalMissing then (.done (.refused 400 tradeUnavailableDetail), db)
    else match (truthyText request.data.idempotencyKey).bind db.tradeByKey? with
    | some trade => returnExistingTrade ctx request offer ledger trade db
    | none => (.unmatched offer ledger, db)

/-! ## The trade -/

/-- The next primary key of `trades`. -/
def nextTradeId (trades : List Trade) : Nat := trades.foldr (fun t bound => max t.id bound) 0 + 1

def responderTradeType : OfferType :=
  match offer.offerType with
  | .sell => .buy
  | .buy => .sell

/-- One leg of the chain between two users next to each other; the last one carries the key. -/
def tradeLeg (ctx : TradeContext) (data : TradeCreate) (offer : Offer) (firstId index last : Nat)
    (offerUser responder : Nat) : Trade where
  id := firstId + index
  tradeNumber := ctx.tradeNumbers index
  offerId := if index = 0 then some offer.id else none
  offerUserId := some offerUser
  responderUserId := some responder
  actorUserId := some ctx.actorUserId
  commodityId := offer.commodityId
  tradeType := responderTradeType offer
  quantity := data.quantity
  price := if index = last then executedTradePrice ctx offer else offer.price
  idempotencyKey := if index = last then data.idempotencyKey else none

def tradeLegs (ctx : TradeContext) (data : TradeCreate) (offer : Offer) (firstId last : Nat) :
    Nat → List Nat → List Trade
  | index, a :: b :: nodes =>
    tradeLeg ctx data offer firstId index last a b ::
      tradeLegs ctx data offer firstId last (index + 1) (b :: nodes)
  | _, _ => []

/-- The trades of one execution, and the one shown: the last leg of a chain, or the single trade. -/
def buildTrades (ctx : TradeContext) (data : TradeCreate) (offer : Offer) (trades : List Trade) :
    List Trade × Trade :=
  let firstId := nextTradeId trades
  let nodes := executionPlan ctx offer
  let single := tradeLeg ctx data offer firstId 0 0 (offer.userId.getD 0) ctx.ownerUserId
  if usesCustomerTradeChain ctx offer then
    let legs := tradeLegs ctx data offer firstId (nodes.length - 2) 0 nodes
    (legs, legs.getLast?.getD single)
  else ([single], single)

/-- The unique indexes of `trades`. -/
def uniqueTrades (trades : List Trade) : Bool :=
  trades.Pairwise (fun a b => a.id ≠ b.id ∧ a.tradeNumber ≠ b.tradeNumber ∧
    (a.idempotencyKey.isSome → a.idempotencyKey ≠ b.idempotencyKey))

def storeOffer (offers : List Offer) : List Offer :=
  offers.map (fun o => if o.id = offer.id then offer else o)

/-- The trades, the offer and the ledger row, and for an approval
`_finalize_overtime_trade_side_effects`, in one commit. -/
def commitTrade (ctx : TradeContext) (request : TradeRequest) (offer : Offer)
    (ledger : LedgerInHand) (db : TradeDb) : Stage × TradeDb :=
  match applyOfferTradeMutation offer request.data.quantity with
  | .error .typeError => (.done .failed, db)
  | .error (.atomicity message) => (.done (.refused 409 message), db)
  | .ok (traded, _) =>
    let (legs, shown) := buildTrades ctx request.data offer db.trades
    let after : TradeDb :=
      { db with offers := storeOffer traded db.offers, trades := db.trades ++ legs }
    -- the flush before the commit is not guarded: a broken index surfaces as it is
    if ¬ uniqueTrades after.trades then (.done .failed, db)
    else if request.approval.isSome ∨ ledger.row.workflowKind = .overtime then
      match commitWork after (if request.approval.isSome then
          approveRequest ctx.ambient ledger.row.id shown.id
            (overtimeDecidedBy request ledger.row) ctx.offerExpiryMinutes ctx.now
        else recordCompletedTrade ctx.ambient ledger.row.id shown.id
            (overtimeDecidedBy request ledger.row) ctx.now >>= fun _ =>
          updateOffer offer.id (fun o => { o with overtimeTradeCommitted := true })) with
      | .ok (_, db') => (.done (.created shown), db')
      | .error _ => (.done .failed, db)
    else match completeDirectRow ctx ledger.row shown.id with
    | none => (.done .failed, db)
    | some row =>
      let rows := LedgerInHand.store ⟨row, ledger.isNew⟩ db.rows
      if uniqueIndexes rows then (.done (.created shown), { after with rows := rows })
      else (.done .failed, db)

def advance (ctx : TradeContext) (request : TradeRequest) (db : TradeDb) :
    Stage → Stage × TradeDb
  | .start => (enter ctx request, db)
  | .locked => (clear ctx request db, db)
  | .cleared => hold ctx request db
  | .holding offer => record ctx request offer db
  | .recorded offer ledger => validate ctx request offer ledger db
  | .unmatched offer ledger => commitTrade ctx request offer ledger db
  | .done reply => (.done reply, db)

/-- At most `n` stages in a row, on tables that nobody else changes: the reply and the tables. -/
def conclude (ctx : TradeContext) (request : TradeRequest) : Nat → Stage × TradeDb →
    Reply × TradeDb
  | _, (.done reply, db) => (reply, db)
  | 0, (_, db) => (.failed, db)
  | n + 1, (stage, db) => conclude ctx request n (advance ctx request db stage)

/-- `_execute_trade_authoritatively`, undisturbed: the reply and the tables after it. -/
def execute (ctx : TradeContext) (request : TradeRequest) (db : TradeDb) : Reply × TradeDb :=
  conclude ctx request 6 (.start, db)

section Conclude

variable (ctx : TradeContext) (request : TradeRequest)

@[simp] theorem conclude_done (n : Nat) (reply : Reply) (db : TradeDb) :
    conclude ctx request n (.done reply, db) = (reply, db) := by
  cases n <;> rfl

@[simp] theorem conclude_start (n : Nat) (db : TradeDb) :
    conclude ctx request (n + 1) (.start, db) = conclude ctx request n (enter ctx request, db) :=
  rfl

@[simp] theorem conclude_locked (n : Nat) (db : TradeDb) :
    conclude ctx request (n + 1) (.locked, db) =
      conclude ctx request n (clear ctx request db, db) := rfl

@[simp] theorem conclude_cleared (n : Nat) (db : TradeDb) :
    conclude ctx request (n + 1) (.cleared, db) = conclude ctx request n (hold ctx request db) :=
  rfl

@[simp] theorem conclude_holding (n : Nat) (offer : Offer) (db : TradeDb) :
    conclude ctx request (n + 1) (.holding offer, db) =
      conclude ctx request n (record ctx request offer db) := rfl

@[simp] theorem conclude_recorded (n : Nat) (offer : Offer) (ledger : LedgerInHand)
    (db : TradeDb) : conclude ctx request (n + 1) (.recorded offer ledger, db) =
      conclude ctx request n (validate ctx request offer ledger db) := rfl

@[simp] theorem conclude_unmatched (n : Nat) (offer : Offer) (ledger : LedgerInHand)
    (db : TradeDb) : conclude ctx request (n + 1) (.unmatched offer ledger, db) =
      conclude ctx request n (commitTrade ctx request offer ledger db) := rfl

end Conclude

/-- The users and the numbers of the samples. -/
theorem offerOne_pos : 0 < 1 := by decide

theorem offerTwo_pos : 0 < 2 := by decide

theorem userThree_pos : 0 < 3 := by decide

theorem userFour_pos : 0 < 4 := by decide

theorem sevenPieces_pos : (0 : Int) < 7 := by decide

theorem tenPieces_pos : (0 : Int) < 10 := by decide

def sampleContext (utcNow : Int) (newRequestPublicId : String) (user : Nat) (h : 0 < user) :
    TradeContext where
  ambient := sampleAmbient utcNow newRequestPublicId
  ownerUserId := user
  actorUserId := user
  isAccountantContext := false
  edgeReceivedAt := some utcNow
  requestSourceSurface := .webapp
  requestSourceServer := .foreign
  offerExpiryMinutes := 1
  tradeForwardGraceSeconds := 15
  ownerIsWatch := false
  ownerTradeBlocked := false
  marketOpen := true
  ownerRestricted := false
  userLimitError := none
  offerLockGained := true
  offerOwnerInactive := false
  principalsBlocked := false
  customerLimit := none
  sourcePrincipalUserId := 2
  responderPrincipalUserId := user
  principalMissing := false
  tier2Price := none
  tradeNumbers := fun index => 1000 + index
  ownerUserId_pos := h

def sampleRequest (offerId : Nat) (quantity : Int) (idempotencyKey : String) (h : 0 < offerId)
    (h' : 0 < quantity) : TradeRequest where
  data := { offerId := offerId, offerPublicId := none, quantity := quantity,
            idempotencyKey := some idempotencyKey, offerId_pos := h, quantity_pos := h' }

end TradingBot.Trades
