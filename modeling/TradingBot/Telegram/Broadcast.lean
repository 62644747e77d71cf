import Mathlib.Data.PNat.Notation
import TradingBot.Misc.Table
import TradingBot.Telegram.Queue

/-!
# Admin broadcasts

A campaign is a message with one receipt for each recipient. The receipts are handed to the delivery
queue one at a time (src/core/services/telegram_admin_broadcast_queue_service.py) and stay bound to
their jobs until the queue reports (src/core/services/telegram_admin_broadcast_queue_feedback.py).
The status of a campaign is recomputed from its receipts
(src/core/services/telegram_admin_broadcast_delivery_service.py).

Each operation is one transaction, rolled back where it raises. The users, the queue's answers and
the jobs reported are up to the caller.
-/

namespace TradingBot.Telegram

open Misc

/-- `TelegramAdminBroadcastStatus` (src/models/telegram_admin_broadcast.py:37). -/
inductive BroadcastStatus where
  | queued
  | running
  | completed
  | completedWithErrors
  | failed
  deriving DecidableEq, Repr

/-- The statuses that set `completed_at`. -/
def BroadcastStatus.isFinished (status : BroadcastStatus) : Bool :=
  status ∈ [.completed, .completedWithErrors, .failed]

/-- `TelegramAdminBroadcastReceiptStatus` (src/models/telegram_admin_broadcast.py:45). -/
inductive ReceiptStatus where
  | pending
  | sending
  | retryableFailed
  | sent
  | skipped
  | terminalFailed
  deriving DecidableEq, Repr

/-- `TERMINAL_TELEGRAM_ADMIN_BROADCAST_RECEIPT_STATUSES`. -/
def ReceiptStatus.isTerminal (status : ReceiptStatus) : Bool :=
  status ∈ [.sent, .skipped, .terminalFailed]

/-- `_ACTIVE_RECEIPT_STATUSES` (line 50). -/
def ReceiptStatus.isActive (status : ReceiptStatus) : Bool :=
  status ∈ [.pending, .retryableFailed]

/-- A row of `telegram_admin_broadcasts`. -/
structure Broadcast where
  content : String
  status : BroadcastStatus
  queuedAt : Int
  queueLastHandedOffAt : Option Int := none
  completedAt : Option Int := none
  updatedAt : Option Int := none
  deriving DecidableEq, Repr

/-- A row of `telegram_admin_broadcast_receipts`. -/
structure Receipt where
  broadcastId : Nat
  recipientUserId : Nat
  telegramIdAtEnqueue : Int
  dedupeKey : String
  status : ReceiptStatus := .pending
  reason : Option String := none
  telegramIdAtSend : Option Int := none
  telegramMessageId : Option Int := none
  attemptCount : Nat := 0
  nextRetryAt : Option Int := none
  workerId : Option String := none
  leaseUntil : Option Int := none
  lastErrorClass : Option String := none
  lastErrorMessage : Option String := none
  queueJobId : Option ℕ+ := none
  queueHandedOffAt : Option Int := none
  sentAt : Option Int := none
  terminalAt : Option Int := none
  updatedAt : Option Int := none
  deriving DecidableEq, Repr

structure Campaigns where
  broadcasts : AList (fun _ : Nat => Broadcast) := ∅
  receipts : AList (fun _ : Nat => Receipt) := ∅

variable (c : Campaigns)

namespace Campaigns

def statusesOf (broadcast : Nat) : List ReceiptStatus :=
  (c.receipts.entries.filter fun entry => entry.2.broadcastId = broadcast).map (·.2.status)

/-- The status `finalize_telegram_admin_broadcast_status` computes from the counts. -/
def statusFrom (statuses : List ReceiptStatus) : BroadcastStatus :=
  let failedCount := statuses.countP (· = .terminalFailed)
  if statuses.length = 0 then .completed
  else if statuses.countP (·.isTerminal) < statuses.length then .running
  else if statuses.countP (· = .sent) = 0 ∧ 0 < failedCount then .failed
  else if 0 < failedCount ∨ 0 < statuses.countP (· = .skipped) then .completedWithErrors
  else .completed

/-- `finalize_telegram_admin_broadcast_status`
(telegram_admin_broadcast_delivery_service.py:415). -/
def finalizeStatus (id : Nat) (now : Int) : Campaigns :=
  match c.broadcasts.lookup id with
  | none => c
  | some broadcast =>
    let status := statusFrom (c.statusesOf id)
    if broadcast.status = status then c
    else
      { c with broadcasts := c.broadcasts.insert id { broadcast with
          status := status
          updatedAt := some now
          completedAt := if status.isFinished then some now else broadcast.completedAt } }

def setReceipt (id : Nat) (receipt : Receipt) : Campaigns :=
  { c with receipts := c.receipts.insert id receipt }

end Campaigns

/-! ## The hand-off -/

structure BotAccess where
  allowed : Bool
  reason : Option String := none
  deriving DecidableEq, Repr

structure Recipient where
  telegramId : Option Int
  syncVersion : Option Int
  access : BotAccess
  deriving DecidableEq, Repr

structure HandoffRequest where
  sourceNaturalId : String
  sourceVersion : Int
  destinationKey : String
  chatId : Int
  text : String
  campaignId : String
  deriving DecidableEq, Repr

/-- The users, the fingerprint of a key and a content, and the queue's answer: the id of the job,
and whether it is new. -/
structure HandoffWorld where
  users : Nat → Option Recipient
  fingerprint : String → String → String
  enqueue : HandoffRequest → ℕ+ × Bool

/-- `_positive_int` and `_strict_positive_int`, of an integer column. -/
def positiveInt (value : Option Int) : Option Int := value.filter (0 < ·)

/-- `validate_telegram_admin_broadcast_content` (telegram_admin_broadcast_service.py:99), or its
error code. -/
def validateBroadcastContent (content : String) : Except String String :=
  let cleaned := pyStrip content
  if cleaned = "" then .error "content_required"
  else if 4096 < cleaned.length then .error "content_too_long"
  else .ok cleaned

/-- `_ADMIN_BROADCAST_SOURCE_SEPARATOR`. -/
def broadcastSourceSeparator : String := ":content-v1:"

/-- `telegram_admin_broadcast_source_natural_id`
(telegram_delivery_admin_broadcast_freshness.py:118). -/
def broadcastSourceNaturalId (fingerprint : String → String → String) (receipt : Receipt)
    (broadcast : Broadcast) : Except String String := do
  let dedupeKey := pyStrip receipt.dedupeKey
  if dedupeKey = "" then throw "telegram_admin_broadcast_receipt_dedupe_missing"
  let content ← validateBroadcastContent broadcast.content
  let identity := dedupeKey ++ broadcastSourceSeparator ++ fingerprint dedupeKey content
  if 256 < identity.length then throw "telegram_admin_broadcast_source_identity_too_long"
  return identity

def handoffRequest (fingerprint : String → String → String) (receipt : Receipt)
    (broadcast : Broadcast) (user : Recipient) : Except String HandoffRequest := do
  let sourceNaturalId ← broadcastSourceNaturalId fingerprint receipt broadcast
  let some sourceVersion := positiveInt user.syncVersion
    | throw "telegram_admin_broadcast_recipient_version_invalid"
  if receipt.recipientUserId = 0 then throw "telegram_admin_broadcast_recipient_user_id_invalid"
  let text ← validateBroadcastContent broadcast.content
  let some chatId := positiveInt user.telegramId
    | throw "telegram_admin_broadcast_current_chat_id_invalid"
  if receipt.broadcastId = 0 then throw "telegram_admin_broadcast_id_invalid"
  return { sourceNaturalId, sourceVersion, chatId, text
           destinationKey := s!"private:user:{receipt.recipientUserId}"
           campaignId := s!"admin-broadcast:{receipt.broadcastId}" }

/-- The receipt passes the filters of `_select_next_due_receipt`. -/
def Receipt.isDue (receipt : Receipt) (now : Int) : Bool :=
  receipt.status.isActive && receipt.queueJobId.isNone && receipt.queueHandedOffAt.isNone &&
    receipt.workerId.isNone && receipt.leaseUntil.isNone && !later receipt.nextRetryAt now

structure DueReceipt where
  turn : Int
  campaign : Nat
  id : Nat
  receipt : Receipt
  broadcast : Broadcast
  deriving DecidableEq, Repr

/-- The order of the query: by turn, then by campaign, then by id. -/
def DueReceipt.before (first second : DueReceipt) : Bool :=
  first.turn < second.turn ||
    (first.turn = second.turn && (first.campaign < second.campaign ||
      (first.campaign = second.campaign && first.id < second.id)))

structure Unhandoffable where
  status : ReceiptStatus
  reason : String
  errorClass : String
  deriving DecidableEq, Repr

namespace Campaigns

def boundCampaigns : List Nat :=
  (c.receipts.entries.filter fun entry => entry.2.queueJobId.isSome).map (·.2.broadcastId)

/-- Line 93 raises where a campaign has two bound receipts or more than two have one. -/
def activeBoundBroadcastIds : Option (List Nat) :=
  if c.boundCampaigns.Nodup ∧ c.boundCampaigns.length ≤ 2 then some c.boundCampaigns else none

def dueReceipts (now : Int) (excluded : List Nat) : List DueReceipt :=
  c.receipts.entries.filterMap fun entry =>
    match c.broadcasts.lookup entry.2.broadcastId with
    | some broadcast =>
      if entry.2.isDue now ∧ entry.2.broadcastId ∉ excluded then
        some ⟨broadcast.queueLastHandedOffAt.getD broadcast.queuedAt, entry.2.broadcastId, entry.1,
          entry.2, broadcast⟩
      else none
    | none => none

def selectNextDueReceipt (now : Int) (excluded : List Nat) : Option DueReceipt :=
  firstBy DueReceipt.before (c.dueReceipts now excluded)

/-- `_finalize_unhandoffable_receipt` (line 165). -/
def finalizeUnhandoffable (due : DueReceipt) (why : Unhandoffable) (now : Int) :
    Campaigns :=
  (c.setReceipt due.id { due.receipt with
    status := why.status
    reason := some (pyTake 120 why.reason)
    telegramIdAtSend := none
    telegramMessageId := none
    nextRetryAt := none
    lastErrorClass := some (pyTake 120 why.errorClass)
    lastErrorMessage := some (pyTake 500 why.reason)
    workerId := none
    leaseUntil := none
    queueJobId := none
    queueHandedOffAt := none
    sentAt := none
    terminalAt := some now
    updatedAt := some now }).finalizeStatus due.receipt.broadcastId now

end Campaigns

def DueReceipt.prepare (due : DueReceipt) (world : HandoffWorld) :
    Except Unhandoffable HandoffRequest := do
  if let .error _ := validateBroadcastContent due.broadcast.content then
    throw ⟨.terminalFailed, "broadcast_invalid_content", "BroadcastPayloadError"⟩
  let some user := world.users due.receipt.recipientUserId
    | throw ⟨.skipped, "telegram_user_missing_current", "TelegramUserUnavailable"⟩
  if positiveInt user.telegramId = none then
    throw ⟨.skipped, "telegram_unlinked_current", "TelegramUserUnavailable"⟩
  if ¬ user.access.allowed then
    let reason := match user.access.reason with
      | some reason => if reason = "" then "bot_access_denied_current" else reason
      | none => "bot_access_denied_current"
    throw ⟨.skipped, pyTake 120 reason, "BotAccessDenied"⟩
  match handoffRequest world.fingerprint due.receipt due.broadcast user with
  | .ok request => return request
  | .error error => throw ⟨.terminalFailed, pyTake 120 error, "TelegramPayloadError"⟩

namespace Campaigns

/-- The receipt is bound to its job, its campaign goes to the back (line 334). -/
def bind (due : DueReceipt) (job : ℕ+) (now : Int) : Campaigns :=
  let broadcast := if due.broadcast.status = .queued then
    { due.broadcast with status := .running, updatedAt := some now } else due.broadcast
  { c.setReceipt due.id { due.receipt with
      queueJobId := some job
      queueHandedOffAt := some now
      workerId := none
      leaseUntil := none
      reason := some "admin_broadcast_handed_to_main_queue"
      updatedAt := some now } with
    broadcasts := c.broadcasts.insert due.receipt.broadcastId
      { broadcast with queueLastHandedOffAt := some now } }

/-- A job without a binding is left to reconciliation (line 314). -/
def holdOrphan (due : DueReceipt) (job : ℕ+) (now : Int) : Campaigns :=
  c.setReceipt due.id { due.receipt with
    workerId := some (pyTake 128 ("telegram-delivery-reconcile:admin:" ++ toString (job : Nat)))
    leaseUntil := none
    reason := some "admin_broadcast_queue_orphan_requires_reconciliation"
    nextRetryAt := none
    updatedAt := some now }

/-- `handoff_next_due_telegram_admin_broadcast_receipt` (line 205), one step under its lock. -/
def handoffNextDue (world : HandoffWorld) (now : Int) : Campaigns :=
  match c.activeBoundBroadcastIds with
  | none => c
  | some active =>
    if 2 ≤ active.length then c
    else
      match c.selectNextDueReceipt now active with
      | none => c
      | some due =>
        match due.prepare world with
        | .error why => c.finalizeUnhandoffable due why now
        | .ok request =>
          let (job, created) := world.enqueue request
          if created then c.bind due job now else c.holdOrphan due job now

end Campaigns

/-! ## The reports of the queue -/

/-- What the feedback reads of `TelegramDeliveryJobRecord`: whether its action is an admin broadcast
and its feeder the admin system; `chatId` is the `chat_id` of its payload. -/
structure BroadcastJob where
  id : ℕ+
  adminBroadcast : Bool
  adminFeeder : Bool
  destinationClass : DestinationClass
  method : String
  botIdentity : String
  sourceNaturalId : String
  attemptCount : Nat
  chatId : Option Int
  lastErrorClass : Option String
  lastErrorMessage : Option String
  telegramMessageId : Option Int
  deriving DecidableEq, Repr

def DeliveryOutcome.value : DeliveryOutcome → String
  | sent => "sent"
  | sentNoop => "sent_noop"
  | retryPending => "retry_pending"
  | destinationPaused => "destination_paused"
  | botPaused => "bot_paused"
  | gatewayPaused => "gateway_paused"
  | terminalFailed => "terminal_failed"
  | permanentUndeliverable => "permanent_undeliverable"
  | quarantined => "quarantined"
  | ambiguous => "ambiguous"
  | ambiguousUnresolved => "ambiguous_unresolved"
  | superseded => "superseded"
  | expiredInteraction => "expired_interaction"
  | alreadyResolved => "already_resolved"
  | staleLease => "stale_lease"

/-- `_DELIVERY_HOLD_OUTCOMES` (telegram_admin_broadcast_queue_feedback.py:42). -/
def DeliveryOutcome.isHold (outcome : DeliveryOutcome) : Bool :=
  outcome ∈ [.retryPending, .destinationPaused, .botPaused, .gatewayPaused, .ambiguous,
    .ambiguousUnresolved]

/-- `_SUPERSEDED_SKIP_REASONS` (telegram_admin_broadcast_queue_feedback.py:50). -/
def supersededSkipReasons : List String :=
  ["admin_broadcast_freshness_recipient_missing", "admin_broadcast_freshness_recipient_unlinked",
    "admin_broadcast_freshness_recipient_relinked",
    "admin_broadcast_freshness_recipient_access_denied"]

/-- `text.rsplit(separator, 1)`, where the separator occurs in the text. -/
def rsplitOnce (separator : List Char) : List Char → Option (List Char × List Char)
  | [] => none
  | c :: rest =>
    match rsplitOnce separator rest with
    | some (before, after) => some (c :: before, after)
    | none =>
      if separator.isPrefixOf (c :: rest) then some ([], (c :: rest).drop separator.length)
      else none

/-- `telegram_admin_broadcast_receipt_dedupe_from_source`
(telegram_delivery_admin_broadcast_freshness.py:131). -/
def receiptDedupeFromSource (sourceNaturalId : String) : Option String :=
  match rsplitOnce broadcastSourceSeparator.toList (pyStrip sourceNaturalId).toList with
  | some (dedupeKey, fingerprint) =>
    if dedupeKey = [] ∨ fingerprint.length ≠ 24 ∨
        fingerprint.any (· ∉ "0123456789abcdef".toList) then none
    else some (String.ofList dedupeKey)
  | none => none

/-- `_validate_job_route` (telegram_admin_broadcast_queue_feedback.py:76). -/
def BroadcastJob.validateRoute (job : BroadcastJob) : Except String Unit :=
  if job.adminBroadcast ∧ job.adminFeeder ∧ job.destinationClass = .private_ ∧
      job.method = "sendMessage" ∧ job.botIdentity = "primary" then .ok ()
  else .error "admin_broadcast_queue_feedback_route_mismatch"

/-- `_require_active_binding` (telegram_admin_broadcast_queue_feedback.py:116). -/
def Receipt.requireActiveBinding (receipt : Receipt) (job : BroadcastJob) : Except String Unit :=
  if ¬ receipt.status.isActive then .error "admin_broadcast_queue_feedback_receipt_not_active"
  else if receipt.queueJobId ≠ some job.id then
    .error "admin_broadcast_queue_feedback_owner_mismatch"
  else if receipt.queueHandedOffAt = none then
    .error "admin_broadcast_queue_feedback_handoff_evidence_missing"
  else .ok ()

/-- `_clear_binding` (telegram_admin_broadcast_queue_feedback.py:136). -/
def Receipt.clearBinding (receipt : Receipt) (reason : String) (now : Int) : Receipt :=
  { receipt with
    queueJobId := none
    queueHandedOffAt := none
    workerId := none
    leaseUntil := none
    reason := some (pyTake 120 (if reason = "" then "admin_broadcast_queue_released" else reason))
    updatedAt := some now }

/-- The receipt in its final status (telegram_admin_broadcast_queue_feedback.py:207). -/
def Receipt.finalized (receipt : Receipt) (job : BroadcastJob) (target : ReceiptStatus)
    (reason : String) (now : Int) (chatId : Int) (messageId : Option Int) : Receipt :=
  let isSent := target = .sent
  { receipt with
    status := target
    telegramIdAtSend := some chatId
    telegramMessageId := if isSent then messageId else none
    nextRetryAt := none
    attemptCount := receipt.attemptCount + job.attemptCount
    lastErrorClass := if isSent then none
      else some (pyTake 120 ((job.lastErrorClass.filter (· ≠ "")).getD "TelegramDeliveryQueue"))
    lastErrorMessage := if isSent then none
      else nonemptyOrNone (pyTake 500 ((job.lastErrorMessage.filter (· ≠ "")).getD reason))
    sentAt := if isSent then some now else none
    terminalAt := some now }.clearBinding reason now

namespace Campaigns

/-- `_load_bound_receipt` (telegram_admin_broadcast_queue_feedback.py:91). -/
def loadBoundReceipt (job : BroadcastJob) : Except String (Nat × Receipt) :=
  match receiptDedupeFromSource job.sourceNaturalId with
  | none => .error "admin_broadcast_queue_feedback_source_invalid"
  | some dedupeKey =>
    match c.receipts.entries.find? fun entry => entry.2.dedupeKey = dedupeKey with
    | none => .error "admin_broadcast_queue_feedback_receipt_missing"
    | some entry => .ok (entry.1, entry.2)

def release (id : Nat) (receipt : Receipt) (reason : String) (now : Int) :
    Campaigns :=
  (c.setReceipt id (receipt.clearBinding reason now)).finalizeStatus receipt.broadcastId now

/-- `_finalize_active_receipt` (telegram_admin_broadcast_queue_feedback.py:167). -/
def finalizeActiveReceipt (c : Campaigns) (id : Nat) (receipt : Receipt) (job : BroadcastJob)
    (target : ReceiptStatus) (reason : String) (now : Int) (messageId : Option Int) :
    Except String Campaigns := do
  if receipt.status.isTerminal then
    if receipt.status ≠ target then throw "admin_broadcast_queue_feedback_terminal_conflict"
    if target = .sent ∧ positiveInt receipt.telegramMessageId ≠ positiveInt messageId then
      throw "admin_broadcast_queue_feedback_message_id_conflict"
    return c.release id receipt reason now
  receipt.requireActiveBinding job
  if target = .sent ∧ positiveInt messageId = none then
    throw "admin_broadcast_queue_feedback_message_id_required"
  let some chatId := positiveInt job.chatId
    | throw "admin_broadcast_queue_feedback_chat_id_required"
  return (c.setReceipt id (receipt.finalized job target reason now chatId
    (positiveInt messageId))).finalizeStatus receipt.broadcastId now

/-- `assert_dispatchable` (telegram_admin_broadcast_queue_feedback.py:247) with the freshness
decision. -/
def assertDispatchable (job : BroadcastJob) (decision : FreshnessDecision) :
    Except String Unit := do
  job.validateRoute
  let (_, receipt) ← c.loadBoundReceipt job
  receipt.requireActiveBinding job
  if decision.outcome ≠ .send then
    throw ("admin_broadcast_queue_dispatch_guard_rejected:" ++ decision.outcome.value ++ ":" ++
      (decision.reason.filter (· ≠ "")).getD "unspecified")

/-- `apply_freshness` (telegram_admin_broadcast_queue_feedback.py:293). -/
def applyFreshness (job : BroadcastJob) (decision : FreshnessDecision) (now : Int) :
    Except String Campaigns := do
  let reason := decision.note "freshness_"
  if decision.outcome = .waitDependency ∨ decision.outcome = .quarantined then return c
  job.validateRoute
  let (id, receipt) ← c.loadBoundReceipt job
  match decision.outcome with
  | .reclassify =>
    receipt.requireActiveBinding job
    return c.setReceipt id { ({ receipt with
      attemptCount := receipt.attemptCount + job.attemptCount }.clearBinding reason now) with
        status := .pending
        nextRetryAt := some now }
  | .sentNoop =>
    if receipt.status ≠ .sent ∨ positiveInt receipt.telegramMessageId = none then
      throw "admin_broadcast_queue_feedback_sent_noop_without_evidence"
    return c.release id receipt reason now
  | .superseded =>
    if reason = "admin_broadcast_freshness_receipt_terminal" then
      if ¬ receipt.status.isTerminal then
        throw "admin_broadcast_queue_feedback_terminal_evidence_missing"
      return c.release id receipt reason now
    else if reason ∈ supersededSkipReasons then
      c.finalizeActiveReceipt id receipt job .skipped reason now none
    else if reason = "admin_broadcast_freshness_broadcast_missing" then
      c.finalizeActiveReceipt id receipt job .terminalFailed reason now none
    else throw "admin_broadcast_queue_feedback_unknown_supersession"
  | _ => throw "admin_broadcast_queue_feedback_freshness_outcome_invalid"

/-- `apply_delivery_result` (telegram_admin_broadcast_queue_feedback.py:379). -/
def applyDeliveryResult (job : BroadcastJob) (decision : Decision) (now : Int) :
    Except String Campaigns := do
  job.validateRoute
  let (id, receipt) ← c.loadBoundReceipt job
  let reason := if decision.reason = "" then decision.outcome.value else decision.reason
  if decision.outcome = .sent then
    c.finalizeActiveReceipt id receipt job .sent "telegram_sent" now job.telegramMessageId
  else if decision.outcome.isHold then
    receipt.requireActiveBinding job
    return c
  else if decision.outcome = .permanentUndeliverable then
    c.finalizeActiveReceipt id receipt job .skipped reason now none
  else if decision.outcome = .terminalFailed then
    c.finalizeActiveReceipt id receipt job .terminalFailed reason now none
  else if decision.outcome = .quarantined then
    receipt.requireActiveBinding job
    return c
  else if decision.outcome = .staleLease then
    return c
  else throw "admin_broadcast_queue_feedback_delivery_outcome_invalid"

end Campaigns

namespace Campaigns

/-- `telegram_admin_broadcast_dedupe_key` (telegram_admin_broadcast_service.py:108). -/
def dedupeKeyOf (broadcast user : Nat) : String := s!"telegram-admin-broadcast:{broadcast}:{user}"

def addReceipt (broadcast : Nat) (c : Campaigns) (recipient : Nat × Nat × Int) : Campaigns :=
  c.setReceipt recipient.1
    { broadcastId := broadcast
      recipientUserId := recipient.2.1
      telegramIdAtEnqueue := recipient.2.2
      dedupeKey := dedupeKeyOf broadcast recipient.2.1 }

/-- `create_telegram_admin_broadcast` (telegram_admin_broadcast_service.py:276) with new ids. -/
def create (id : Nat) (content : String) (recipients : List (Nat × Nat × Int))
    (now : Int) : Campaigns :=
  match validateBroadcastContent content with
  | .error _ => c
  | .ok cleaned =>
    if c.broadcasts.lookup id = none ∧
        ∀ recipient ∈ recipients, c.receipts.lookup recipient.1 = none then
      let broadcast : Broadcast :=
        { content := cleaned
          status := if recipients = [] then .completed else .queued
          queuedAt := now
          completedAt := if recipients = [] then some now else none }
      recipients.foldl (addReceipt id) { c with broadcasts := c.broadcasts.insert id broadcast }
    else c

end Campaigns

inductive CampaignCommand where
  | create (id : Nat) (content : String) (recipients : List (Nat × Nat × Int)) (now : Int)
  | handoff (world : HandoffWorld) (now : Int)
  | assertDispatchable (job : BroadcastJob) (decision : FreshnessDecision)
  | applyFreshness (job : BroadcastJob) (decision : FreshnessDecision) (now : Int)
  | applyDeliveryResult (job : BroadcastJob) (decision : Decision) (now : Int)

namespace Campaigns

def step (c : Campaigns) : CampaignCommand → Campaigns
  | .create id content recipients now => c.create id content recipients now
  | .handoff world now => c.handoffNextDue world now
  | .assertDispatchable _ _ => c
  | .applyFreshness job decision now => (c.applyFreshness job decision now).toOption.getD c
  | .applyDeliveryResult job decision now =>
    (c.applyDeliveryResult job decision now).toOption.getD c

end Campaigns

end TradingBot.Telegram
