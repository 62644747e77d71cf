import TradingBot.Misc.Rows
import TradingBot.Misc.Run

/-!
# Delivery receipts of completed trades

`src/core/services/trade_delivery_receipt_service.py`: one receipt for each event, trade, recipient
and channel. An upsert states that the channel is required or not, a claim gives the receipt to a
worker under a lease, the worker moves it on, and expired leases are recovered. Each operation holds
the lock of its row and is one step; a claim or a recovery takes any of its rows. Instants are
microseconds; audit payloads compare as in the source language.

The upsert writes the status and leaves worker and lease as they are.
-/

namespace TradingBot.Receipts

open TradingBot.Misc

inductive TradeDeliveryChannel where
  | webapp
  | telegram
  deriving DecidableEq, Repr

def TradeDeliveryChannel.value : TradeDeliveryChannel → String
  | webapp => "webapp"
  | telegram => "telegram"

inductive ReceiptStatus where
  | pending
  | processing
  | retryPending
  | sent
  | skipped
  | notRequired
  | permanentFailed
  deriving DecidableEq, Repr

/-- `TERMINAL_TRADE_DELIVERY_RECEIPT_STATUSES`. -/
def ReceiptStatus.isTerminal : ReceiptStatus → Bool
  | sent | skipped | notRequired | permanentFailed => true
  | pending | processing | retryPending => false

/-- `ALLOWED_RECEIPT_TRANSITIONS`. -/
def allowedReceiptTransitions : ReceiptStatus → List ReceiptStatus
  | .pending | .retryPending => [.processing]
  | .processing => [.sent, .retryPending, .skipped, .permanentFailed]
  | .sent | .skipped | .notRequired | .permanentFailed => []

structure ReceiptIdentity where
  eventType : String
  tradeNumber : Int
  recipientUserId : Int
  channel : TradeDeliveryChannel
  deriving DecidableEq, Repr

/-- `receipt_dedupe_key`. -/
def receiptDedupeKey (identity : ReceiptIdentity) : String :=
  identity.eventType ++ ":" ++ identity.channel.value ++ ":" ++ toString identity.tradeNumber ++ ":" ++
    toString identity.recipientUserId

/-- A row of `trade_delivery_receipts`; `π` is the type of audit payloads. -/
structure TradeDeliveryReceipt (π : Type) where
  identity : ReceiptIdentity
  dedupeKey : String
  tradeId : Option Int
  offerId : Option Int
  recipientRole : String
  destinationServer : String
  status : ReceiptStatus
  reason : Option String
  notificationId : Option Int
  telegramMessageId : Option Int
  workerId : Option String
  leaseUntil : Option Int
  attemptCount : Nat
  nextRetryAt : Option Int
  lastError : Option String
  lastErrorClass : Option String
  auditPayload : Option π
  eventCreatedAt : Int
  sentAt : Option Int
  terminalAt : Option Int
  createdAt : Int
  updatedAt : Option Int

variable {π : Type} [BEq π]

structure UpsertArgs (π : Type) where
  recipientRole : String
  destinationServer : String
  required : Bool
  reason : Option String
  tradeId : Option Int
  offerId : Option Int
  eventCreatedAt : Option Int
  auditPayload : Option π

def UpsertArgs.requestedStatus (args : UpsertArgs π) : ReceiptStatus :=
  if args.required then .pending else .notRequired

def created (identity : ReceiptIdentity) (args : UpsertArgs π) (now : Int) : TradeDeliveryReceipt π :=
  { identity := identity
    dedupeKey := receiptDedupeKey identity
    tradeId := args.tradeId
    offerId := args.offerId
    recipientRole := args.recipientRole
    destinationServer := args.destinationServer
    status := args.requestedStatus
    reason := args.reason
    notificationId := none
    telegramMessageId := none
    workerId := none
    leaseUntil := none
    attemptCount := 0
    nextRetryAt := none
    lastError := none
    lastErrorClass := none
    auditPayload := args.auditPayload
    eventCreatedAt := args.eventCreatedAt.getD now
    sentAt := none
    terminalAt := if args.required then none else some now
    createdAt := now
    updatedAt := some now }

/-- `value is not None and getattr(receipt, field) != value`. -/
def differs {β : Type} [BEq β] (value old : Option β) : Bool := value.isSome && !(old == value)

def UpsertArgs.changes (args : UpsertArgs π) (receipt : TradeDeliveryReceipt π) : Bool :=
  differs args.tradeId receipt.tradeId || differs args.offerId receipt.offerId ||
    !(receipt.recipientRole == args.recipientRole) || differs args.reason receipt.reason ||
      differs args.auditPayload receipt.auditPayload

def UpsertArgs.fill (args : UpsertArgs π) (receipt : TradeDeliveryReceipt π) : TradeDeliveryReceipt π :=
  { receipt with
    tradeId := if differs args.tradeId receipt.tradeId then args.tradeId else receipt.tradeId
    offerId := if differs args.offerId receipt.offerId then args.offerId else receipt.offerId
    recipientRole :=
      if receipt.recipientRole == args.recipientRole then receipt.recipientRole else args.recipientRole
    reason := if differs args.reason receipt.reason then args.reason else receipt.reason
    auditPayload :=
      if differs args.auditPayload receipt.auditPayload then args.auditPayload
      else receipt.auditPayload }

inductive ReceiptError where
  | destinationServerIsImmutable
  | dedupeKeyMismatch
  | destinationServerMismatch
  | terminalCannotReopen
  | invalidTransition (current target : ReceiptStatus)
  deriving DecidableEq, Repr

/-- `upsert_trade_delivery_receipt` of a receipt that is there (line 431). -/
def upsertTradeDeliveryReceipt (args : UpsertArgs π) (now : Int) (receipt : TradeDeliveryReceipt π) :
    Except ReceiptError (TradeDeliveryReceipt π) :=
  if receipt.destinationServer ≠ args.destinationServer then .error .destinationServerIsImmutable
  else if receipt.dedupeKey ≠ receiptDedupeKey receipt.identity then .error .dedupeKeyMismatch
  else if receipt.status.isTerminal && args.required then .ok receipt
  else
    let filled := args.fill receipt
    if !receipt.status.isTerminal && receipt.status ≠ args.requestedStatus then
      .ok { filled with
        status := args.requestedStatus
        terminalAt := if args.required then none else some now
        updatedAt := some now }
    else if args.changes receipt then .ok { filled with updatedAt := some now }
    else .ok filled

structure TransitionArgs where
  currentServer : String
  now : Int
  reason : Option String
  notificationId : Option Int
  telegramMessageId : Option Int
  errorClass : Option String
  errorMessage : Option String
  nextRetryAt : Option Int
  allowLeaseRecovery : Bool

def allowedTargets (allowLeaseRecovery : Bool) (current : ReceiptStatus) : List ReceiptStatus :=
  if allowLeaseRecovery && current = .processing then
    allowedReceiptTransitions current ++ [.pending, .retryPending]
  else allowedReceiptTransitions current

def moved (target : ReceiptStatus) (args : TransitionArgs) (receipt : TradeDeliveryReceipt π) :
    TradeDeliveryReceipt π :=
  { receipt with
    status := target
    updatedAt := some args.now
    reason := args.reason.or receipt.reason
    notificationId := args.notificationId.or receipt.notificationId
    telegramMessageId := args.telegramMessageId.or receipt.telegramMessageId
    lastErrorClass := args.errorClass.or receipt.lastErrorClass
    lastError := args.errorMessage.or receipt.lastError
    nextRetryAt := args.nextRetryAt.or receipt.nextRetryAt
    attemptCount := if target = .processing then receipt.attemptCount + 1 else receipt.attemptCount
    workerId := if target = .processing then receipt.workerId else none
    leaseUntil := if target = .processing then receipt.leaseUntil else none
    sentAt := if target = .sent then some args.now else receipt.sentAt
    terminalAt := if target.isTerminal then some args.now else receipt.terminalAt }

def transitionReceiptStatus (target : ReceiptStatus) (args : TransitionArgs)
    (receipt : TradeDeliveryReceipt π) : Except ReceiptError (TradeDeliveryReceipt π) :=
  if receipt.destinationServer ≠ args.currentServer then .error .destinationServerMismatch
  else if receipt.status = target then .ok receipt
  else if receipt.status.isTerminal then .error .terminalCannotReopen
  else if target ∉ allowedTargets args.allowLeaseRecovery receipt.status then
    .error (.invalidTransition receipt.status target)
  else .ok (moved target args receipt)

def TransitionArgs.plain (currentServer : String) (now : Int) : TransitionArgs :=
  ⟨currentServer, now, none, none, none, none, none, none, false⟩

/-- The filters of `build_claim_receipt_statement` and of the one by identity. -/
def TradeDeliveryReceipt.claimable (destinationServer : String) (channel : Option TradeDeliveryChannel)
    (now : Int) (receipt : TradeDeliveryReceipt π) : Bool :=
  receipt.destinationServer = destinationServer &&
    (receipt.status = .pending || receipt.status = .retryPending) &&
    receipt.workerId.isNone && receipt.leaseUntil.isNone &&
    receipt.nextRetryAt.all (· ≤ now) && channel.all (receipt.identity.channel = ·)

def TradeDeliveryReceipt.leasedTo (workerId : String) (leaseSeconds now : Int)
    (receipt : TradeDeliveryReceipt π) : TradeDeliveryReceipt π :=
  { receipt with
    workerId := some workerId
    leaseUntil := some (now + (if leaseSeconds < 1 then 1 else leaseSeconds) * 1000000) }

/-- The receipt after a claim (trade_delivery_receipt_service.py:696 and 735). -/
def claimed (destinationServer workerId : String) (leaseSeconds now : Int)
    (receipt : TradeDeliveryReceipt π) : Except ReceiptError (TradeDeliveryReceipt π) := do
  let moved ← transitionReceiptStatus .processing (.plain destinationServer now) receipt
  .ok (moved.leasedTo workerId leaseSeconds now)

/-- The filter of `build_recover_expired_leases_statement`. -/
def TradeDeliveryReceipt.recoverable (destinationServer : String) (now : Int)
    (receipt : TradeDeliveryReceipt π) : Bool :=
  receipt.destinationServer = destinationServer && receipt.status = .processing &&
    receipt.leaseUntil.any (· ≤ now)

def TransitionArgs.recovery (destinationServer : String) (now : Int) : TransitionArgs :=
  { TransitionArgs.plain destinationServer now with
    reason := some "lease_expired"
    nextRetryAt := some now
    allowLeaseRecovery := true }

def recovered (destinationServer : String) (now : Int) (receipt : TradeDeliveryReceipt π) :
    Except ReceiptError (TradeDeliveryReceipt π) :=
  transitionReceiptStatus .retryPending (.recovery destinationServer now) receipt

inductive ReceiptOp (π : Type) where
  | upsert (identity : ReceiptIdentity) (args : UpsertArgs π) (now : Int)
  | claimNext (taken : ReceiptIdentity) (destinationServer workerId : String) (leaseSeconds now : Int)
      (channel : Option TradeDeliveryChannel)
  | claimByIdentity (identity : ReceiptIdentity) (destinationServer workerId : String)
      (leaseSeconds now : Int)
  | transition (identity : ReceiptIdentity) (target : ReceiptStatus) (args : TransitionArgs)
  | recover (destinationServer : String) (now : Int) (taken : List ReceiptIdentity)

def orKept (receipt : TradeDeliveryReceipt π) (result : Except ReceiptError (TradeDeliveryReceipt π)) :
    TradeDeliveryReceipt π :=
  match result with
  | .ok changed => changed
  | .error _ => receipt

def ReceiptOp.onRow (op : ReceiptOp π) (receipt : TradeDeliveryReceipt π) : TradeDeliveryReceipt π :=
  match op with
  | .upsert identity args now =>
    if receipt.identity = identity then orKept receipt (upsertTradeDeliveryReceipt args now receipt)
    else receipt
  | .claimNext taken destinationServer workerId leaseSeconds now channel =>
    if receipt.identity = taken ∧ receipt.claimable destinationServer channel now then
      orKept receipt (claimed destinationServer workerId leaseSeconds now receipt)
    else receipt
  | .claimByIdentity identity destinationServer workerId leaseSeconds now =>
    if receipt.identity = identity ∧ receipt.claimable destinationServer none now then
      orKept receipt (claimed destinationServer workerId leaseSeconds now receipt)
    else receipt
  | .transition identity target args =>
    if receipt.identity = identity then orKept receipt (transitionReceiptStatus target args receipt)
    else receipt
  | .recover destinationServer now taken =>
    if receipt.identity ∈ taken ∧ receipt.recoverable destinationServer now then
      orKept receipt (recovered destinationServer now receipt)
    else receipt

/-- An upsert adds the missing receipt, unless the check on its destination refuses it. -/
def receiptStep (receipts : List (TradeDeliveryReceipt π)) (op : ReceiptOp π) :
    List (TradeDeliveryReceipt π) :=
  match op with
  | .upsert identity args now =>
    if identity ∈ receipts.map TradeDeliveryReceipt.identity then receipts.map op.onRow
    else if args.destinationServer = "iran" ∨ args.destinationServer = "foreign" then
      receipts ++ [created identity args now]
    else receipts
  | _ => receipts.map op.onRow

/-! ## What a run keeps -/

structure TradeDeliveryReceipt.Leased (receipt : TradeDeliveryReceipt π) : Prop where
  worker : receipt.workerId.isSome = true ↔ receipt.status = .processing
  lease : receipt.leaseUntil.isSome = true ↔ receipt.status = .processing

def ReceiptOp.Allows (op : ReceiptOp π) (old new : ReceiptStatus) : Prop :=
  new ∈ allowedReceiptTransitions old ∨
    match op with
    | .upsert _ _ _ => new = .notRequired
    | .transition _ _ args => args.allowLeaseRecovery = true ∧ old = .processing ∧ new = .pending
    | _ => False

structure RowKept (op : ReceiptOp π) (old new : TradeDeliveryReceipt π) : Prop where
  identity : new.identity = old.identity
  dedupeKey : new.dedupeKey = old.dedupeKey
  status : new.status = old.status ∨ op.Allows old.status new.status
  terminal : old.status.isTerminal = true → new = old

/-- Once its time has come the receipt is claimed, by its identity or as the next one, or recovered. -/
structure TradeDeliveryReceipt.Served (receipt : TradeDeliveryReceipt π) : Prop where
  claim : receipt.status.isTerminal = false → receipt.status ≠ .processing →
    ∀ workerId leaseSeconds now, receipt.nextRetryAt.all (· ≤ now) = true →
      ((ReceiptOp.claimByIdentity receipt.identity receipt.destinationServer workerId leaseSeconds
        now).onRow receipt).status = .processing ∧
      ((ReceiptOp.claimNext receipt.identity receipt.destinationServer workerId leaseSeconds now
        none).onRow receipt).status = .processing
  recover : receipt.status = .processing → ∃ leaseUntil, receipt.leaseUntil = some leaseUntil ∧
    ∀ now, leaseUntil ≤ now →
      ((ReceiptOp.recover receipt.destinationServer now [receipt.identity]).onRow receipt).status =
        .retryPending

structure ReceiptsKept (receipts : List (TradeDeliveryReceipt π)) (op : ReceiptOp π)
    (receipts' : List (TradeDeliveryReceipt π)) : Prop where
  rows : ∀ receipt ∈ receipts, ∃ receipt' ∈ receipts', RowKept op receipt receipt'
  created : ∀ receipt' ∈ receipts', (∃ receipt ∈ receipts, RowKept op receipt receipt') ∨
    receipt'.status = .pending ∨ receipt'.status = .notRequired
  unique : (receipts'.map TradeDeliveryReceipt.identity).Nodup
  leased : ∀ receipt' ∈ receipts', receipt'.Leased
  served : ∀ receipt' ∈ receipts', receipt'.Served

/-- An upsert finds its receipt pending, or not in processing and asks for none, or terminal and
brings nothing new; transitions into processing are left to the claims. -/
def ReceiptOp.Fits (op : ReceiptOp π) (receipt : TradeDeliveryReceipt π) : Prop :=
  match op with
  | .upsert identity args _ =>
    receipt.identity = identity → receipt.destinationServer = args.destinationServer →
      if receipt.status.isTerminal then args.required = true ∨ args.changes receipt = false
      else if args.required then receipt.status = .pending
      else receipt.status ≠ .processing
  | .transition identity target args =>
    receipt.identity = identity → receipt.destinationServer = args.currentServer →
      target = .processing → receipt.status = .processing ∨ receipt.status.isTerminal = true
  | _ => True

section Rows

variable {op : ReceiptOp π} {receipt changed : TradeDeliveryReceipt π} {now : Int}
  {args : TransitionArgs} {target : ReceiptStatus} {destinationServer : String}
  {identity : ReceiptIdentity} {channel : Option TradeDeliveryChannel}

omit [BEq π] in
theorem RowKept.refl (op : ReceiptOp π) (receipt : TradeDeliveryReceipt π) :
    RowKept op receipt receipt := ⟨rfl, rfl, .inl rfl, fun _ => rfl⟩

theorem fill_eq_self {args : UpsertArgs π} (h : args.changes receipt = false) :
    args.fill receipt = receipt := by
  simp only [UpsertArgs.changes, Bool.or_eq_false_iff, Bool.not_eq_false'] at h
  obtain ⟨⟨⟨⟨htrade, hoffer⟩, hrole⟩, hreason⟩, hpayload⟩ := h
  simp [UpsertArgs.fill, htrade, hoffer, hrole, hreason, hpayload]

theorem upsert_cases {args : UpsertArgs π}
    (h : upsertTradeDeliveryReceipt args now receipt = .ok changed) :
    changed = receipt ∨
      (receipt.destinationServer = args.destinationServer ∧
        (receipt.status.isTerminal = false ∧ receipt.status ≠ args.requestedStatus ∧
            changed = { args.fill receipt with
              status := args.requestedStatus
              terminalAt := if args.required then none else some now
              updatedAt := some now } ∨
          (receipt.status.isTerminal = true → args.required = false) ∧
            (receipt.status.isTerminal = false → receipt.status = args.requestedStatus) ∧
              args.changes receipt = true ∧
                changed = { args.fill receipt with updatedAt := some now })) := by
  unfold upsertTradeDeliveryReceipt at h
  split at h
  · cases h
  · next hserver =>
    have hserver := of_not_not hserver
    split at h
    · cases h
    · split at h
      · exact .inl (Except.ok.inj h).symm
      · next hopen =>
        have hopen : receipt.status.isTerminal = true → args.required = false := by
          intro hterminal
          simpa [hterminal] using hopen
        dsimp only at h
        split at h
        · next hother =>
          simp only [Bool.and_eq_true, Bool.not_eq_true', decide_eq_true_eq] at hother
          exact .inr ⟨hserver, .inl ⟨hother.1, hother.2, (Except.ok.inj h).symm⟩⟩
        · next hsame =>
          have hsame : receipt.status.isTerminal = false → receipt.status = args.requestedStatus := by
            intro hterminal
            simpa [hterminal] using hsame
          split at h
          · next hchanges =>
            exact .inr ⟨hserver, .inr ⟨hopen, hsame, hchanges, (Except.ok.inj h).symm⟩⟩
          · next hchanges =>
            rw [Bool.not_eq_true] at hchanges
            rw [fill_eq_self hchanges] at h
            exact .inl (Except.ok.inj h).symm

omit [BEq π] in
theorem transition_cases (h : transitionReceiptStatus target args receipt = .ok changed) :
    changed = receipt ∨
      receipt.destinationServer = args.currentServer ∧ receipt.status.isTerminal = false ∧
        target ∈ allowedTargets args.allowLeaseRecovery receipt.status ∧
          changed = moved target args receipt := by
  unfold transitionReceiptStatus at h
  split at h
  · cases h
  · next hserver =>
    split at h
    · exact .inl (Except.ok.inj h).symm
    · split at h
      · cases h
      · next hopen =>
        split at h
        · cases h
        · next htarget =>
          exact .inr ⟨of_not_not hserver, Bool.not_eq_true _ ▸ hopen, of_not_not htarget,
            (Except.ok.inj h).symm⟩

omit [BEq π] in
theorem transition_eq_ok
    (hserver : receipt.destinationServer = args.currentServer) (hother : receipt.status ≠ target)
    (hopen : receipt.status.isTerminal = false)
    (htarget : target ∈ allowedTargets args.allowLeaseRecovery receipt.status) :
    transitionReceiptStatus target args receipt = .ok (moved target args receipt) := by
  rw [transitionReceiptStatus, if_neg (not_not.2 hserver), if_neg hother,
    if_neg (Bool.eq_false_iff.1 hopen), if_neg (not_not.2 htarget)]

omit [BEq π] in
theorem orKept_of {P : TradeDeliveryReceipt π → Prop}
    {result : Except ReceiptError (TradeDeliveryReceipt π)} (hkept : P receipt)
    (hok : ∀ changed, result = .ok changed → P changed) : P (orKept receipt result) := by
  cases result with
  | error error => exact hkept
  | ok changed => exact hok changed rfl

def Carries (op : ReceiptOp π) (old new : TradeDeliveryReceipt π) : Prop :=
  RowKept op old new ∧ new.Leased

theorem upsert_carries {args : UpsertArgs π} (hidentity : receipt.identity = identity)
    (hfits : (ReceiptOp.upsert identity args now).Fits receipt) (hleased : receipt.Leased)
    (h : upsertTradeDeliveryReceipt args now receipt = .ok changed) :
    Carries (.upsert identity args now) receipt changed := by
  obtain rfl | ⟨hserver, ⟨hopen, hother, rfl⟩ | ⟨hterminal, hsame, hchanges, rfl⟩⟩ := upsert_cases h
  · exact ⟨.refl _ _, hleased⟩
  · have hfit := hfits hidentity hserver
    simp only [hopen, Bool.false_eq_true, if_false] at hfit
    have hrequired : args.required = false := by
      cases hrequired : args.required with
      | false => rfl
      | true =>
        simp only [hrequired, if_true] at hfit
        simp [UpsertArgs.requestedStatus, hrequired, hfit] at hother
    have hstatus : args.requestedStatus = .notRequired := by
      simp [UpsertArgs.requestedStatus, hrequired]
    simp only [hrequired, Bool.false_eq_true, if_false] at hfit
    have hworker := (not_congr hleased.worker).2 hfit
    have hlease := (not_congr hleased.lease).2 hfit
    refine ⟨⟨rfl, rfl, .inr (.inr hstatus), fun hterminal => ?_⟩, ⟨?_, ?_⟩⟩
    · rw [hopen] at hterminal
      cases hterminal
    · exact ⟨fun hset => absurd hset hworker, fun hprocessing => by simp [hstatus] at hprocessing⟩
    · exact ⟨fun hset => absurd hset hlease, fun hprocessing => by simp [hstatus] at hprocessing⟩
  · refine ⟨⟨rfl, rfl, .inl rfl, fun hdone => ?_⟩, hleased.worker, hleased.lease⟩
    have hfit := hfits hidentity hserver
    simp only [hdone, if_true, hterminal hdone, hchanges, Bool.false_eq_true, Bool.true_eq_false,
      or_self] at hfit

omit [BEq π] in
theorem moved_leased (h : target ≠ .processing) :
    (moved target args receipt).Leased := by
  constructor
  · simp [moved, h]
  · simp [moved, h]

theorem allowedTargets_cases {recovery : Bool} {current : ReceiptStatus}
    (h : target ∈ allowedTargets recovery current) :
    target ∈ allowedReceiptTransitions current ∨
      recovery = true ∧ current = .processing ∧ (target = .pending ∨ target = .retryPending) := by
  unfold allowedTargets at h
  split at h
  · next hrecovery =>
    simp only [Bool.and_eq_true, decide_eq_true_eq] at hrecovery
    rcases List.mem_append.1 h with hallowed | hextra
    · exact .inl hallowed
    · exact .inr ⟨hrecovery.1, hrecovery.2, by simpa using hextra⟩
  · exact .inl h

theorem transition_carries (hidentity : receipt.identity = identity)
    (hfits : (ReceiptOp.transition identity target args).Fits receipt) (hleased : receipt.Leased)
    (h : transitionReceiptStatus target args receipt = .ok changed) :
    Carries (.transition identity target args) receipt changed := by
  obtain rfl | ⟨hserver, hopen, htarget, rfl⟩ := transition_cases h
  · exact ⟨.refl _ _, hleased⟩
  · have hother : target ≠ .processing := by
      intro hprocessing
      rcases hfits hidentity hserver hprocessing with hstatus | hterminal
      · rw [hstatus, hprocessing] at htarget
        rcases allowedTargets_cases htarget with hallowed | ⟨-, -, hextra | hextra⟩
        · simp [allowedReceiptTransitions] at hallowed
        · cases hextra
        · cases hextra
      · rw [hopen] at hterminal
        cases hterminal
    refine ⟨⟨rfl, rfl, .inr ?_, fun hterminal => ?_⟩, moved_leased hother⟩
    · rcases allowedTargets_cases htarget with hallowed | ⟨hrecovery, hcurrent, rfl | rfl⟩
      · exact .inl hallowed
      · exact .inr ⟨hrecovery, hcurrent, rfl⟩
      · rw [hcurrent]
        exact .inl (List.mem_cons_of_mem _ List.mem_cons_self)
    · rw [hopen] at hterminal
      cases hterminal

omit [BEq π] in
theorem claimable_iff :
    receipt.claimable destinationServer channel now = true ↔
      receipt.destinationServer = destinationServer ∧
        (receipt.status = .pending ∨ receipt.status = .retryPending) ∧
          receipt.workerId = none ∧ receipt.leaseUntil = none ∧
            receipt.nextRetryAt.all (· ≤ now) = true ∧
              channel.all (receipt.identity.channel = ·) = true := by
  simp only [TradeDeliveryReceipt.claimable, Bool.and_eq_true, Bool.or_eq_true, decide_eq_true_eq,
    Option.isNone_iff_eq_none, and_assoc]

omit [BEq π] in
theorem claimed_eq_ok (workerId : String) (leaseSeconds now : Int)
    (hserver : receipt.destinationServer = destinationServer)
    (hstatus : receipt.status = .pending ∨ receipt.status = .retryPending) :
    claimed destinationServer workerId leaseSeconds now receipt =
      .ok ((moved .processing (.plain destinationServer now) receipt).leasedTo workerId leaseSeconds
        now) := by
  have hmoved : transitionReceiptStatus .processing (.plain destinationServer now) receipt =
      .ok (moved .processing (.plain destinationServer now) receipt) := by
    rcases hstatus with hstatus | hstatus
    · exact transition_eq_ok hserver (by rw [hstatus]; nofun) (by rw [hstatus]; rfl)
        (by rw [hstatus]; exact List.mem_singleton_self _)
    · exact transition_eq_ok hserver (by rw [hstatus]; nofun) (by rw [hstatus]; rfl)
        (by rw [hstatus]; exact List.mem_singleton_self _)
  rw [claimed, hmoved]
  rfl

omit [BEq π] in
theorem claimed_carries {op : ReceiptOp π} {workerId : String} {leaseSeconds : Int}
    (h : receipt.claimable destinationServer channel now = true) :
    Carries op receipt
      (orKept receipt (claimed destinationServer workerId leaseSeconds now receipt)) := by
  obtain ⟨hserver, hstatus, -⟩ := claimable_iff.1 h
  rw [claimed_eq_ok workerId leaseSeconds now hserver hstatus]
  refine ⟨⟨rfl, rfl, .inr (.inl ?_), fun hterminal => ?_⟩, iff_of_true rfl rfl, iff_of_true rfl rfl⟩
  · rcases hstatus with hstatus | hstatus
    · rw [hstatus]
      exact List.mem_singleton_self _
    · rw [hstatus]
      exact List.mem_singleton_self _
  · rcases hstatus with hstatus | hstatus
    · rw [hstatus] at hterminal
      cases hterminal
    · rw [hstatus] at hterminal
      cases hterminal

omit [BEq π] in
theorem recoverable_iff :
    receipt.recoverable destinationServer now = true ↔
      receipt.destinationServer = destinationServer ∧ receipt.status = .processing ∧
        receipt.leaseUntil.any (· ≤ now) = true := by
  simp only [TradeDeliveryReceipt.recoverable, Bool.and_eq_true, decide_eq_true_eq, and_assoc]

omit [BEq π] in
theorem recovered_eq_ok (now : Int)
    (hserver : receipt.destinationServer = destinationServer) (hstatus : receipt.status = .processing) :
    recovered destinationServer now receipt =
      .ok (moved .retryPending (.recovery destinationServer now) receipt) := by
  refine transition_eq_ok hserver (by rw [hstatus]; nofun) (by rw [hstatus]; rfl) ?_
  rw [hstatus]
  exact List.mem_cons_of_mem _ List.mem_cons_self

omit [BEq π] in
theorem recovered_carries {op : ReceiptOp π}
    (h : receipt.recoverable destinationServer now = true) :
    Carries op receipt (orKept receipt (recovered destinationServer now receipt)) := by
  obtain ⟨hserver, hstatus, -⟩ := recoverable_iff.1 h
  rw [recovered_eq_ok now hserver hstatus]
  refine ⟨⟨rfl, rfl, .inr (.inl ?_), fun hterminal => ?_⟩, moved_leased nofun⟩
  · rw [hstatus]
    exact List.mem_cons_of_mem _ List.mem_cons_self
  · rw [hstatus] at hterminal
    cases hterminal

theorem onRow_carries (hfits : op.Fits receipt) (hleased : receipt.Leased) :
    Carries op receipt (op.onRow receipt) := by
  have hkept : Carries op receipt receipt := ⟨.refl _ _, hleased⟩
  cases op with
  | upsert identity args now =>
    unfold ReceiptOp.onRow
    dsimp only
    split
    · next hidentity =>
      exact orKept_of hkept fun changed hok => upsert_carries hidentity hfits hleased hok
    · exact hkept
  | claimNext =>
    unfold ReceiptOp.onRow
    dsimp only
    split
    · next hclaim => exact claimed_carries hclaim.2
    · exact hkept
  | claimByIdentity =>
    unfold ReceiptOp.onRow
    dsimp only
    split
    · next hclaim => exact claimed_carries hclaim.2
    · exact hkept
  | transition identity target args =>
    unfold ReceiptOp.onRow
    dsimp only
    split
    · next hidentity =>
      exact orKept_of hkept fun changed hok => transition_carries hidentity hfits hleased hok
    · exact hkept
  | recover destinationServer now taken =>
    unfold ReceiptOp.onRow
    dsimp only
    split
    · next hrecover => exact recovered_carries hrecover.2
    · exact hkept

omit [BEq π] in
theorem created_leased (identity : ReceiptIdentity) (args : UpsertArgs π) (now : Int) :
    (created identity args now).Leased := by
  have hstatus : args.requestedStatus ≠ .processing := by
    unfold UpsertArgs.requestedStatus
    split
    · exact nofun
    · exact nofun
  exact ⟨iff_of_false nofun hstatus, iff_of_false nofun hstatus⟩

theorem TradeDeliveryReceipt.Leased.served (h : receipt.Leased) : receipt.Served := by
  constructor
  · intro hopen hother workerId leaseSeconds now hdue
    have hstatus : receipt.status = .pending ∨ receipt.status = .retryPending := by
      cases hcase : receipt.status <;> simp_all [ReceiptStatus.isTerminal]
    have hworker : receipt.workerId = none := by
      simpa using (not_congr h.worker).2 hother
    have hlease : receipt.leaseUntil = none := by
      simpa using (not_congr h.lease).2 hother
    have hclaimable : receipt.claimable receipt.destinationServer none now = true :=
      claimable_iff.2 ⟨rfl, hstatus, hworker, hlease, hdue, rfl⟩
    have hok := claimed_eq_ok workerId leaseSeconds now rfl hstatus
    constructor
    · simp only [ReceiptOp.onRow, hclaimable, and_self, if_true, hok, orKept]
      rfl
    · simp only [ReceiptOp.onRow, hclaimable, and_self, if_true, hok, orKept]
      rfl
  · intro hprocessing
    obtain ⟨leaseUntil, hlease⟩ := Option.isSome_iff_exists.1 (h.lease.2 hprocessing)
    refine ⟨leaseUntil, hlease, fun now hpassed => ?_⟩
    have hrecoverable : receipt.recoverable receipt.destinationServer now = true :=
      recoverable_iff.2 ⟨rfl, hprocessing, by simpa [hlease] using hpassed⟩
    have hok := recovered_eq_ok now rfl hprocessing
    simp only [ReceiptOp.onRow, List.mem_singleton, hrecoverable, and_self, if_true, hok, orKept]
    rfl

end Rows

def OpFits (receipts : List (TradeDeliveryReceipt π)) (op : ReceiptOp π)
    (_ : List (TradeDeliveryReceipt π)) : Prop := ∀ receipt ∈ receipts, op.Fits receipt

structure ReceiptsSound (receipts : List (TradeDeliveryReceipt π)) : Prop where
  unique : (receipts.map TradeDeliveryReceipt.identity).Nodup
  leased : ∀ receipt ∈ receipts, receipt.Leased

section Steps

variable {receipts : List (TradeDeliveryReceipt π)} {op : ReceiptOp π}

theorem receiptStep_cases (receipts : List (TradeDeliveryReceipt π)) (op : ReceiptOp π) :
    receiptStep receipts op = receipts.map op.onRow ∨
    ∃ identity args now, op = .upsert identity args now ∧
      identity ∉ receipts.map TradeDeliveryReceipt.identity ∧
        (receiptStep receipts op = receipts ∨
          receiptStep receipts op = receipts ++ [created identity args now]) := by
  cases op with
  | upsert identity args now =>
    unfold receiptStep
    dsimp only
    split
    · exact .inl rfl
    · next hmissing =>
      refine .inr ⟨identity, args, now, rfl, hmissing, ?_⟩
      split
      · exact .inr rfl
      · exact .inl rfl
  | claimNext => exact .inl rfl
  | claimByIdentity => exact .inl rfl
  | transition identity target args => exact .inl rfl
  | recover destinationServer now taken => exact .inl rfl

theorem ReceiptsKept.of_sound {receipts' : List (TradeDeliveryReceipt π)} (h : ReceiptsSound receipts')
    (hrows : ∀ receipt ∈ receipts, ∃ receipt' ∈ receipts', RowKept op receipt receipt')
    (hcreated : ∀ receipt' ∈ receipts', (∃ receipt ∈ receipts, RowKept op receipt receipt') ∨
      receipt'.status = .pending ∨ receipt'.status = .notRequired) :
    ReceiptsKept receipts op receipts' :=
  ⟨hrows, hcreated, h.unique, h.leased, fun receipt' hreceipt' => (h.leased receipt' hreceipt').served⟩

theorem ReceiptsSound.step (h : ReceiptsSound receipts)
    (hfits : OpFits receipts op (receiptStep receipts op)) :
    ReceiptsSound (receiptStep receipts op) ∧ ReceiptsKept receipts op (receiptStep receipts op) := by
  have hself : ∀ receipt' ∈ receipts, ∃ receipt ∈ receipts, RowKept op receipt receipt' :=
    fun receipt' hreceipt' => ⟨receipt', hreceipt', .refl _ _⟩
  rcases receiptStep_cases receipts op with
    hmap | ⟨identity, args, now, rfl, hmissing, hsame | hadded⟩
  · have hcarries : ∀ receipt ∈ receipts, Carries op receipt (op.onRow receipt) :=
      fun receipt hreceipt => onRow_carries (hfits receipt hreceipt) (h.leased receipt hreceipt)
    have hsound : ReceiptsSound (receipts.map op.onRow) := by
      constructor
      · have hidentities : (receipts.map op.onRow).map TradeDeliveryReceipt.identity =
            receipts.map TradeDeliveryReceipt.identity := by
          rw [List.map_map]
          exact List.map_congr_left fun receipt hreceipt => (hcarries receipt hreceipt).1.identity
        rw [hidentities]
        exact h.unique
      · intro receipt' hreceipt'
        obtain ⟨receipt, hreceipt, rfl⟩ := List.mem_map.1 hreceipt'
        exact (hcarries receipt hreceipt).2
    rw [hmap]
    refine ⟨hsound, .of_sound hsound (fun receipt hreceipt => ?_) fun receipt' hreceipt' => ?_⟩
    · exact ⟨_, List.mem_map_of_mem hreceipt, (hcarries receipt hreceipt).1⟩
    · obtain ⟨receipt, hreceipt, rfl⟩ := List.mem_map.1 hreceipt'
      exact .inl ⟨receipt, hreceipt, (hcarries receipt hreceipt).1⟩
  · rw [hsame]
    exact ⟨h, .of_sound h (fun receipt hreceipt => ⟨receipt, hreceipt, .refl _ _⟩)
      fun receipt' hreceipt' => .inl (hself receipt' hreceipt')⟩
  · have hsound : ReceiptsSound (receipts ++ [created identity args now]) := by
      constructor
      · refine nodup_map_append_singleton h.unique fun old hold heq => hmissing ?_
        exact List.mem_map.2 ⟨old, hold, heq⟩
      · intro receipt' hreceipt'
        rcases List.mem_append.1 hreceipt' with hold | hnew
        · exact h.leased receipt' hold
        · rw [List.mem_singleton.1 hnew]
          exact created_leased identity args now
    rw [hadded]
    refine ⟨hsound, .of_sound hsound (fun receipt hreceipt => ?_) fun receipt' hreceipt' => ?_⟩
    · exact ⟨receipt, List.mem_append_left _ hreceipt, .refl _ _⟩
    · rcases List.mem_append.1 hreceipt' with hold | hnew
      · exact .inl (hself receipt' hold)
      · rw [List.mem_singleton.1 hnew]
        refine .inr ?_
        show args.requestedStatus = .pending ∨ args.requestedStatus = .notRequired
        unfold UpsertArgs.requestedStatus
        split
        · exact .inl rfl
        · exact .inr rfl

end Steps

/-- In every run of operations that fit, a status only changes along the allowed transitions, worker
and lease are set exactly in processing, terminal receipts stay, and each other receipt is claimed
or recovered once its time has come. -/
theorem receipts_kept (ops : List (ReceiptOp π)) (h : EachStep receiptStep OpFits [] ops) :
    EachStep receiptStep ReceiptsKept [] ops :=
  eachStep_of_invariant (I := ReceiptsSound) (C := OpFits) (fun _ _ hs hc => (hs.step hc).1)
    (fun _ _ hs hc => (hs.step hc).2) ops [] ⟨List.nodup_nil, fun _ hreceipt => by cases hreceipt⟩ h

def webappIdentity : ReceiptIdentity := ⟨"trade_completed", 7001, 5, .webapp⟩

def webappUpsert (required : Bool) (reason : String) (now : Int) : ReceiptOp String :=
  .upsert webappIdentity ⟨"buyer", "iran", required, some reason, some 1, some 2, some 0,
    some "sent to the buyer"⟩ now

def webappDelivery : List (ReceiptOp String) :=
  [webappUpsert true "required" 0, webappUpsert true "required" 1,
    .claimByIdentity webappIdentity "iran" "worker-1" 30 2, .recover "iran" 30000002 [webappIdentity],
    .claimNext webappIdentity "iran" "worker-2" 30 40000000 (some .webapp),
    .transition webappIdentity .sent (.plain "iran" 41000000), webappUpsert true "required" 42000000]

instance (op : ReceiptOp π) (receipt : TradeDeliveryReceipt π) : Decidable (op.Fits receipt) :=
  match op with
  | .upsert _ _ _ => inferInstanceAs (Decidable (_ → _ → _))
  | .transition _ _ _ => inferInstanceAs (Decidable (_ → _ → _ → _))
  | .claimNext _ _ _ _ _ _ => isTrue trivial
  | .claimByIdentity _ _ _ _ _ => isTrue trivial
  | .recover _ _ _ => isTrue trivial

instance (receipts receipts' : List (TradeDeliveryReceipt π)) (op : ReceiptOp π) :
    Decidable (OpFits receipts op receipts') := inferInstanceAs (Decidable (∀ _ ∈ receipts, _))

theorem webappDelivery_kept : EachStep receiptStep ReceiptsKept [] webappDelivery :=
  receipts_kept webappDelivery (by decide)

/-- An upsert while a worker holds the receipt makes it pending with worker and lease, which no
claim and no recovery takes; one that asks for nothing changes a terminal receipt. -/
theorem upsert_strands_receipt :
    ¬ EachStep receiptStep ReceiptsKept []
      [webappUpsert true "required" 0, .claimByIdentity webappIdentity "iran" "worker-1" 30 1,
        webappUpsert true "required" 2] ∧
    (∀ receipt ∈ run receiptStep []
      [webappUpsert true "required" 0, .claimByIdentity webappIdentity "iran" "worker-1" 30 1,
        webappUpsert true "required" 2],
      receipt.status = .pending ∧ ∀ server channel now,
        receipt.claimable server channel now = false ∧ receipt.recoverable server now = false) ∧
    ¬ EachStep receiptStep ReceiptsKept []
      [webappUpsert false "no_account" 0, webappUpsert false "account_blocked" 1] := by
  refine ⟨fun h => ?_, fun receipt hreceipt => ?_, fun h => ?_⟩
  · have hleased := h.2.2.1.leased _ List.mem_cons_self
    have hprocessing := hleased.worker.1 rfl
    exact absurd hprocessing (by decide)
  · obtain rfl := List.mem_singleton.1 hreceipt
    refine ⟨rfl, fun server channel now => ⟨?_, ?_⟩⟩
    · refine Bool.eq_false_iff.2 fun hclaim => ?_
      exact absurd (claimable_iff.1 hclaim).2.2.1 nofun
    · refine Bool.eq_false_iff.2 fun hrecover => ?_
      exact absurd (recoverable_iff.1 hrecover).2.1 nofun
  · obtain ⟨receipt', hreceipt', hkept⟩ := h.2.1.rows _ List.mem_cons_self
    obtain rfl := List.mem_singleton.1 hreceipt'
    have hreason := congrArg TradeDeliveryReceipt.reason (hkept.terminal rfl)
    exact absurd hreason (by decide)

end TradingBot.Receipts
