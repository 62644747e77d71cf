import TradingBot.Sync.Item
import TradingBot.Misc.Json
import TradingBot.Misc.Table
import Mathlib.Data.List.Sort

/-!
# The change log and its senders' requests

The rows of `change_log` (src/models/change_log.py), the item a row is sent as (core/sync_worker.py,
core/sync_metadata.py, core/sync_field_policy.py), which row each sender takes next, what it reads
off its peer's answer, and how it marks the rows.

Times are in microseconds. The protocol version, the sequence metadata and the public identity of an
item are left out; that they may not be computed is not.
-/

namespace TradingBot.Sync

open TradingBot.Misc

/-- A row of `change_log`. -/
structure ChangeLogRow where
  id : Nat
  operation : String
  tableName : String
  recordId : Int
  data : Json
  timestamp : Int
  hash : Option String := none
  synced : Bool := false
  verified : Bool := false
  deliveryAttemptCount : Nat := 0
  lastDeliveryError : Option String := none
  lastDeliveryAttemptAt : Option Int := none
  nextDeliveryAttemptAt : Option Int := none
  quarantinedAt : Option Int := none
  /-- The key comes from a sequence that starts with one. -/
  positive : 0 < id := by decide

/-- The settings that the senders read: `reaches` is the peer, default or named, whose URL and key
are known; `digest` is the SHA-256 of a value's text. -/
structure SenderConfig where
  server : Server
  reaches : Option Server → Bool
  offerPrioritySyncEnabled : Bool := true
  maxChangeAge : Int := 45000000
  digest : Json → String

/-- What the field policy does with a field (`SyncFieldAction`, sync_field_policy.py:26). -/
inductive SyncFieldAction where
  | keep
  | drop
  | hash (outputField : String)
  deriving DecidableEq, Repr

/-- The fields of `_FIELD_POLICIES` (sync_field_policy.py:68) that are dropped, by their table. -/
def droppedFields : String → List String
  | "users" => ["normalized_account_name", "normalized_mobile_number", "admin_password_hash",
      "must_change_password", "avatar_file_id"]
  | "invitation_identity_reservations" => ["normalized_mobile", "normalized_account_name"]
  | "telegram_registration_intents" => ["invitation_token", "normalized_mobile", "telegram_id",
      "telegram_username", "telegram_full_name", "address"]
  | "telegram_registration_command_receipts" => ["request_hash", "invitation_token_hash"]
  | "offer_expiry_command_receipts" => ["request_hash"]
  | "telegram_admin_broadcast_receipts" => ["worker_id", "lease_until", "queue_job_id",
      "queue_handed_off_at"]
  | "telegram_admin_broadcasts" => ["queue_last_handed_off_at"]
  | "telegram_notification_outbox" => ["worker_id", "lease_until", "queue_job_id",
      "queue_handed_off_at"]
  | "trade_delivery_receipts" => ["trade_id", "offer_id", "notification_id", "worker_id",
      "lease_until"]
  | "offer_publication_states" => ["offer_id", "surface_resource_id", "telegram_chat_id",
      "telegram_message_id", "last_attempt_at", "last_success_at", "next_retry_at", "error_code",
      "error_message", "state_metadata"]
  | "push_subscriptions" => ["p256dh", "auth", "user_agent", "platform", "last_error"]
  | "upload_sessions" => ["resume_token"]
  | "chats" => ["avatar_file_id"]
  | _ => []

/-- `get_sync_field_policy_entry` (sync_field_policy.py:604), the action of the entry. -/
def syncFieldAction (table field : String) : SyncFieldAction :=
  if table = "push_subscriptions" ∧ field = "endpoint" then .hash "endpoint_hash"
  else if field ∈ droppedFields table then .drop
  else .keep

/-- `_hash_value` (sync_field_policy.py:608). -/
def hashValue (config : SenderConfig) : Json → Json
  | .null => .null
  | value => .str (config.digest value)

/-- `sanitize_sync_payload` (sync_field_policy.py:615). -/
def sanitizeSyncPayload (config : SenderConfig) (table : String) : Json → Json
  | .obj members => .obj (members.filterMap fun (key, value) =>
      match syncFieldAction table key with
      | .keep => some (key, value)
      | .drop => none
      | .hash outputField => some (outputField, hashValue config value))
  | data => data

/-- `data.get(key)` of a payload; one that is no mapping has no fields. -/
def fieldOf (data : Json) (key : String) : Json :=
  match data with
  | .obj members => (Json.member? members key).getD .null
  | _ => .null

/-- `int(value)` raises an `OverflowError`, not caught by `coerce_positive_int`
(sync_metadata.py:9). -/
def overflows : Json → Bool
  | .float text => Json.isInfinite text
  | _ => false

/-- The fields read with `coerce_positive_int` by `build_sync_metadata` and `_aggregate_identity`
(sync_metadata.py:51, :290). -/
def numberFields (table : String) : List String :=
  "version_id" ::
    (if table = "user_notification_preferences" then ["user_id"]
    else if table = "user_blocks" then ["blocker_id", "blocked_id"]
    else [])

/-- An item of a request, as read from a queued payload; a missing value reads as `None`. -/
structure SyncItem where
  operation : Value
  table : Value
  id : Value
  data : Json
  hash : Value
  timestamp : Int
  changeLogId : Value

def textValue : Option String → Value
  | none => .null
  | some text => .text text

def buildSyncItem (config : SenderConfig) (row : ChangeLogRow) (data : Json) : Option SyncItem :=
  let data := sanitizeSyncPayload config row.tableName data
  if (numberFields row.tableName).any fun key => overflows (fieldOf data key) then none
  else some
    { operation := .text row.operation
      table := .text row.tableName
      id := .int row.recordId
      data := data
      hash := textValue row.hash
      timestamp := row.timestamp
      changeLogId := .int row.id }

/-- `deserialize_sync_data` (sync_metadata.py:17): a text that is no JSON stays as it is. -/
def deserializeSyncData : Json → Json
  | .str text => (Json.read text).getD (.str text)
  | data => data

/-- `change_log_entry_to_sync_item` (sync_worker.py:255); `none` when it raises. -/
def changeLogEntryToSyncItem (config : SenderConfig) (row : ChangeLogRow) : Option SyncItem :=
  buildSyncItem config row (deserializeSyncData row.data)

/-- The item of a row in `resync_from_changelog` (sync.py:4660); `none` when building it raises, as
a text that is no JSON does. -/
def resyncItem (config : SenderConfig) (row : ChangeLogRow) : Option SyncItem :=
  match row.data with
  | .str text => (Json.read text).bind (buildSyncItem config row)
  | data => buildSyncItem config row data

/-- `SYNC_OUTBOUND_TABLE_PRIORITY` (sync_worker.py:37). -/
def syncOutboundTablePriority : List String :=
  ["offers", "users", "invitations", "accountant_relations", "customer_relations",
    "telegram_link_tokens", "telegram_notification_outbox", "commodities", "commodity_aliases",
    "trading_settings", "market_schedule_overrides", "market_runtime_state", "trades",
    "offer_requests", "offer_publication_states", "trade_delivery_receipts",
    "telegram_admin_broadcasts", "telegram_admin_broadcast_receipts", "notifications",
    "user_blocks"]

def tablePriority (table : String) : Nat := syncOutboundTablePriority.idxOf table

namespace ChangeLogRow

def ready (now : Int) (row : ChangeLogRow) : Bool :=
  !row.synced && row.quarantinedAt.isNone && row.nextDeliveryAttemptAt.all (· ≤ now)

def hasOlderUnsynced (rows : List ChangeLogRow) (row : ChangeLogRow) : Bool :=
  rows.any fun older => !older.synced && older.tableName == row.tableName &&
    older.recordId == row.recordId && decide (older.id < row.id)

def sentBefore (row other : ChangeLogRow) : Bool :=
  decide (tablePriority row.tableName < tablePriority other.tableName) ||
    tablePriority row.tableName == tablePriority other.tableName && decide (row.id < other.id)

end ChangeLogRow

/-- The row of `fetch_next_unsynced_change_log_item` (sync_worker.py:283). -/
def fetchNextUnsyncedChangeLogRow (rows : List ChangeLogRow) (now : Int) : Option ChangeLogRow :=
  firstBy ChangeLogRow.sentBefore
    (rows.filter fun row => row.ready now && !row.hasOlderUnsynced rows)

/-- `_normalized_text` (offer_priority_sync.py:62); fractions and containers keep their text. -/
def normalizedText : Json → String
  | .null | .bool false | .int 0 | .arr [] | .obj [] => ""
  | .bool true => "True"
  | .int n => toString n
  | .float text => text
  | .str text => pyStrip text
  | value => String.ofList value.write

/-- `_is_iran_owned_offer_change` (offer_priority_sync.py:66). -/
def isIranOwnedOfferChange (row : ChangeLogRow) (offerPublicId : Option String) : Bool :=
  let data := deserializeSyncData row.data
  let publicId := normalizedText (fieldOf data "offer_public_id")
  row.tableName == "offers" && (row.operation == "INSERT" || row.operation == "UPDATE") &&
    pyLower (normalizedText (fieldOf data "home_server")) == "iran" && publicId != "" &&
    offerPublicId.all (publicId == ·)

/-- `_is_recent_committed_change` (offer_priority_sync.py:78). -/
def isRecentCommittedChange (config : SenderConfig) (row : ChangeLogRow) (now : Int) : Bool :=
  decide (0 ≤ now - row.timestamp) && decide (now - row.timestamp ≤ config.maxChangeAge)

/-- The row of `load_latest_pending_offer_priority_sync_item` (offer_priority_sync.py:89). -/
def loadLatestPendingOfferRow (config : SenderConfig) (rows : List ChangeLogRow)
    (offerPublicId : Option String) (now : Int) : Option ChangeLogRow :=
  let pending := rows.filter fun row => row.ready now && row.tableName == "offers" &&
    (row.operation == "INSERT" || row.operation == "UPDATE")
  ((pending.insertionSort fun row other => other.id ≤ row.id).take 128).find? fun row =>
    isIranOwnedOfferChange row offerPublicId && isRecentCommittedChange config row now

/-- The entries that `resync_from_changelog` reads (sync.py:4630). -/
def resyncEntries (rows : List ChangeLogRow) (limit : Nat) (tableFilter : Option String) :
    List ChangeLogRow :=
  let unsynced := rows.filter fun row =>
    !row.synced && tableFilter.all fun table => table == "" || row.tableName == table
  (unsynced.insertionSort fun row other => row.id ≤ other.id).take limit

/-! ## The answer of the peer -/

/-- An entry of `error_items`. -/
structure ErrorItem where
  reason : Value
  table : Value
  recordId : Value
  deriving DecidableEq, Repr

/-- The member `error_items`; an entry of the list that is no mapping is `none`. -/
inductive ErrorItems where
  | list (items : List (Option ErrorItem))
  | other
  deriving DecidableEq, Repr

/-- The members of an answer that the senders read; `inf` and `nan` are kept as the texts of `str`. -/
structure AnswerPayload where
  status : Value
  processed : Value := .null
  errors : Value := .null
  errorItems : ErrorItems := .other
  deriving DecidableEq, Repr

/-- What `response.json()` gives: it raises, or the value is no mapping, or it is one. -/
inductive AnswerBody where
  | unreadable
  | other
  | mapping (payload : AnswerPayload)
  deriving DecidableEq, Repr

structure PeerResponse where
  statusCode : Int
  body : AnswerBody
  deriving DecidableEq, Repr

/-- `int(value)` raises an `OverflowError`. -/
def Value.overflows : Value → Bool
  | .other shown => shown = "inf" || shown = "-inf"
  | _ => false

/-- `value in {...}` raises a `TypeError`. -/
def Value.unhashable : Value → Bool
  | .other shown => shown ∉ ["inf", "-inf", "nan"]
  | _ => false

/-- `int(value or 0)`: the outer `none` is an `OverflowError`, the inner a `TypeError` or
`ValueError`. -/
def countOf (value : Value) : Option (Option Int) :=
  let value := value.orElse (.int 0)
  if value.overflows then none else some value.toInt

/-- `peer_response_is_success` (sync_worker.py:126); `none` when it raises. -/
def peerResponseIsSuccess (response : PeerResponse) : Option Bool :=
  if response.statusCode ≠ 200 then some false
  else match response.body with
    | .mapping payload =>
      match countOf payload.errors with
      | none => none
      | some none => some false
      | some (some errors) =>
        if payload.status.unhashable then none
        else some (decide (payload.status = .text "success" ∨ payload.status = .text "ok") &&
          errors == 0)
    | _ => some false

/-- The test of `resync_from_changelog` (sync.py:4720). Where it raises, the batch has failed. -/
def resyncAcknowledged (response : PeerResponse) : Bool :=
  match response.body with
  | .mapping payload =>
    countOf payload.errors == some (some 0) && response.statusCode == 200 &&
      decide (payload.status = .text "success" ∨ payload.status = .text "ok")
  | _ => false

/-- `_single_item_partial_rejection_detail` (sync_worker.py:143); `none` when it raises. -/
def singleItemPartialRejectionDetail (response : PeerResponse) : Option (Option ErrorItem) :=
  if response.statusCode ≠ 200 then some none
  else match response.body with
    | .mapping payload =>
      if payload.status ≠ .text "partial" then some none
      else match countOf payload.processed with
        | none => none
        | some none => some none
        | some (some processed) =>
          match countOf payload.errors with
          | none => none
          | some none => some none
          | some (some errors) =>
            if processed ≠ 0 ∨ errors ≠ 1 then some none
            else match payload.errorItems with
              | .list [some errorItem] => some (some errorItem)
              | _ => some none
    | _ => some none

/-- `IRAN_AUTHORITATIVE_SYNC_TABLES` (sync_authority.py:6). -/
def iranAuthoritativeSyncTables : List String :=
  ["admin_broadcast_messages", "admin_market_messages", "commodities", "commodity_aliases",
    "accountant_relations", "customer_relations", "invitations", "market_runtime_state",
    "market_schedule_overrides", "trading_settings"]

/-- `_terminal_policy_rejection_reason` (sync_worker.py:200). -/
def terminalPolicyRejectionReason (errorItem : ErrorItem) : Option String :=
  match errorItem.reason with
  | .text reason =>
    if reason = "policy_forbidden:no-sync" then some reason
    else match errorItem.table with
      | .text table =>
        if pyStartsWith "source_authority_forbidden:" reason ∧
            table ∈ iranAuthoritativeSyncTables then some reason
        else none
      | _ => none
  | _ => none

/-- `_sync_identity_value_matches` (sync_worker.py:224). -/
def syncIdentityValueMatches (left right : Value) : Bool :=
  left ≠ .null && right ≠ .null && left.str == right.str

/-- `terminal_policy_rejection_detail_for_item` (sync_worker.py:230); `none` when it raises. -/
def terminalPolicyRejectionDetailForItem (response : PeerResponse) (item : SyncItem) :
    Option (Option ErrorItem) :=
  match singleItemPartialRejectionDetail response with
  | none => none
  | some none => some none
  | some (some errorItem) =>
    if (terminalPolicyRejectionReason errorItem).isSome &&
        syncIdentityValueMatches errorItem.table item.table &&
        syncIdentityValueMatches errorItem.recordId item.id then some (some errorItem)
    else some none

/-- `peer_rejection_reason_for_item` (sync_worker.py:178). -/
def peerRejectionReasonForItem (response : PeerResponse) (item : SyncItem) : Option String :=
  let named := match singleItemPartialRejectionDetail response with
    | some (some errorItem) =>
      match errorItem.reason with
      | .text reason =>
        if syncIdentityValueMatches errorItem.table item.table &&
            syncIdentityValueMatches errorItem.recordId item.id && pyStrip reason != "" then
          some (pyTake 120 (pyStrip reason))
        else none
      | _ => none
    | _ => none
  let unnamed := match response.body with
    | .mapping payload =>
      if response.statusCode = 200 ∧ payload.status = .text "partial" then
        some "peer_partial_rejection"
      else none
    | _ => none
  named.or unnamed

/-- The conditions of `mark_change_log_delivered` (sync_worker.py:325): the item's change-log id,
or, without one, its table, record, operation and hash. -/
def SyncItem.marks (item : SyncItem) (row : ChangeLogRow) : Bool :=
  if item.changeLogId.overflows then false
  else match item.changeLogId.coercePositiveInt with
    | some id => (row.id : Int) == id
    | none =>
      item.table.truthy && item.operation.truthy && item.hash.truthy &&
        item.table == .text row.tableName && item.id.coercePositiveInt == some row.recordId &&
        item.operation == .text row.operation && item.hash == textValue row.hash

/-- `mark_change_log_delivered` (sync_worker.py:325). -/
def markChangeLogDelivered (rows : List ChangeLogRow) (item : SyncItem) : List ChangeLogRow :=
  rows.map fun row =>
    if !row.synced && item.marks row then
      { row with
        synced := true
        verified := true
        nextDeliveryAttemptAt := none
        quarantinedAt := none }
    else row

/-- `SYNC_PEER_REJECTION_MAX_ATTEMPTS` (sync_worker.py:63). -/
def syncPeerRejectionMaxAttempts : Nat := 5

/-- `SYNC_PEER_REJECTION_BACKOFF_SECONDS` (sync_worker.py:64). -/
def syncPeerRejectionBackoffSeconds : Nat → Int
  | 0 => 1
  | 1 => 5
  | 2 => 15
  | _ => 30

/-- A rejection of a row is recorded: it is backed off, or quarantined after too many. -/
def ChangeLogRow.rejected (row : ChangeLogRow) (reason : String) (now : Int) : ChangeLogRow :=
  let attemptCount := row.deliveryAttemptCount + 1
  let quarantined :=
    syncPeerRejectionMaxAttempts ≤ attemptCount ∧ reason ≠ "registry_fingerprint_mismatch"
  { row with
    deliveryAttemptCount := attemptCount
    lastDeliveryError := some (pyTake 120 reason)
    lastDeliveryAttemptAt := some now
    nextDeliveryAttemptAt :=
      if quarantined then none
      else some (now + syncPeerRejectionBackoffSeconds (attemptCount - 1) * 1000000)
    quarantinedAt := if quarantined then some now else none }

/-- `record_change_log_delivery_failure` (sync_worker.py:369). -/
def recordChangeLogDeliveryFailure (rows : List ChangeLogRow) (item : SyncItem) (reason : String)
    (now : Int) : List ChangeLogRow :=
  match item.changeLogId.coercePositiveInt with
  | none => rows
  | some id => rows.map fun row =>
    if !row.synced && (row.id : Int) == id then row.rejected reason now else row

end TradingBot.Sync
