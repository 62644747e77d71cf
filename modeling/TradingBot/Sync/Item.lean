import TradingBot.Offer.Model

/-!
# Sync items

The items one server sends to the other (`receive_sync_data`, src/api/routers/sync.py) and what the
receiver reads off them: the server and sequence number an item comes from and its aggregate
(src/core/sync_metadata.py).
-/

namespace TradingBot.Sync

open Misc

/-- Sequences and mappings are kept as the text of `str`, a float also as the integer of `int`. -/
inductive Value where
  | null
  | bool (value : Bool)
  | int (value : Int)
  | float (shown : String) (truncated : Int)
  | text (value : String)
  | other (shown : String)
  deriving DecidableEq, Repr

namespace Value

/-- `bool(value)`. -/
def truthy : Value → Bool
  | null => false
  | bool b => b
  | int n => n ≠ 0
  | float shown _ => shown ∉ ["0.0", "-0.0"]
  | text s => s ≠ ""
  | other shown => shown ∉ ["[]", "\x7b\x7d"]

/-- `value or default`. -/
def orElse (value default : Value) : Value := if value.truthy then value else default

/-- `str(value)`. -/
def str : Value → String
  | null => "None"
  | bool true => "True"
  | bool false => "False"
  | int n => toString n
  | float shown _ => shown
  | text s => s
  | other shown => shown

/-- `int(value)`, where it does not raise. -/
def toInt : Value → Option Int
  | null => none
  | bool b => some b.toInt
  | int n => some n
  | float _ truncated => some truncated
  | text s => pyInt s
  | other _ => none

/-- `coerce_positive_int` (sync_metadata.py:9). -/
def coercePositiveInt (value : Value) : Option Int :=
  match value.toInt with
  | some n => if 0 < n then some n else none
  | none => none

/-- `_string_or_none` (sync_metadata.py:26). -/
def stringOrNone (value : Value) : Option String :=
  match value with
  | null => none
  | value => nonemptyText (some value.str)

end Value

/-- A mapping from field names to values; the first entry of a name is its value. -/
abbrev Payload := List (String × Value)

namespace Payload

/-- `data.get(key)`. -/
def get (data : Payload) (key : String) : Value := (data.lookup key).getD .null

/-- `key in data`. -/
def has (data : Payload) (key : String) : Bool := (data.lookup key).isSome

/-- `data.pop(key, None)`, the mapping that is left. -/
def pop (data : Payload) (key : String) : Payload := data.filter fun entry => entry.1 ≠ key

/-- `data[key] = value`. -/
def set (data : Payload) (key : String) (value : Value) : Payload := (key, value) :: data.pop key

end Payload

/-- The tables the receiver has a model for (`get_model_class`, sync.py:779). -/
inductive Table where
  | users
  | accountantRelations
  | customerRelations
  | telegramLinkTokens
  | chats
  | chatMembers
  | invitations
  | adminMarketMessages
  | adminBroadcastMessages
  | notifications
  | userNotificationPreferences
  | userBlocks
  | commodities
  | commodityAliases
  | tradingSettings
  | marketScheduleOverrides
  | marketRuntimeState
  | offers
  | offerPublicationStates
  | offerRequests
  | trades
  | tradeDeliveryReceipts
  | telegramAdminBroadcasts
  | telegramAdminBroadcastReceipts
  | telegramNotificationOutbox
  deriving DecidableEq, Repr

namespace Table

/-- `TABLE_ORDER` (line 493). -/
def order : Table → Nat
  | users => 0
  | accountantRelations => 1
  | customerRelations => 2
  | telegramLinkTokens => 3
  | chats => 4
  | chatMembers => 5
  | invitations => 6
  | adminMarketMessages => 7
  | adminBroadcastMessages => 8
  | notifications => 9
  | userNotificationPreferences => 10
  | userBlocks => 11
  | commodities => 12
  | commodityAliases => 13
  | tradingSettings => 14
  | marketScheduleOverrides => 15
  | marketRuntimeState => 16
  | offers => 17
  | offerPublicationStates => 18
  | offerRequests => 19
  | trades => 20
  | tradeDeliveryReceipts => 21
  | telegramAdminBroadcasts => 22
  | telegramAdminBroadcastReceipts => 23
  | telegramNotificationOutbox => 24

def name : Table → String
  | users => "users"
  | accountantRelations => "accountant_relations"
  | customerRelations => "customer_relations"
  | telegramLinkTokens => "telegram_link_tokens"
  | chats => "chats"
  | chatMembers => "chat_members"
  | invitations => "invitations"
  | adminMarketMessages => "admin_market_messages"
  | adminBroadcastMessages => "admin_broadcast_messages"
  | notifications => "notifications"
  | userNotificationPreferences => "user_notification_preferences"
  | userBlocks => "user_blocks"
  | commodities => "commodities"
  | commodityAliases => "commodity_aliases"
  | tradingSettings => "trading_settings"
  | marketScheduleOverrides => "market_schedule_overrides"
  | marketRuntimeState => "market_runtime_state"
  | offers => "offers"
  | offerPublicationStates => "offer_publication_states"
  | offerRequests => "offer_requests"
  | trades => "trades"
  | tradeDeliveryReceipts => "trade_delivery_receipts"
  | telegramAdminBroadcasts => "telegram_admin_broadcasts"
  | telegramAdminBroadcastReceipts => "telegram_admin_broadcast_receipts"
  | telegramNotificationOutbox => "telegram_notification_outbox"

end Table

inductive Operation where
  | insert
  | update
  | delete
  | unknown
  deriving DecidableEq, Repr

/-- An item of a batch. `table` is empty for an unknown name; a missing `sync_meta` or
`sync_protocol` reads as one without any value. -/
structure Item where
  notification : Bool := false
  table : Option Table
  operation : Operation
  id : Value
  data : Payload
  changeLogId : Value := .null
  metaSourceServer : Value := .null
  metaSourceSequence : Value := .null
  metaOutboxId : Value := .null
  metaAggregateTable : Value := .null
  metaAggregateId : Value := .null
  producerServerMode : Value := .null
  deriving DecidableEq, Repr

/-- `_sync_item_source_server` (line 3676). -/
def sourceServer (item : Item) : Option Server :=
  let value := item.metaSourceServer.orElse item.producerServerMode
  if value.truthy then knownServer value.str else none

/-- `_sync_item_source_sequence` (line 3687). -/
def sourceSequence (item : Item) : Option Int :=
  item.metaSourceSequence.coercePositiveInt.or
    (item.metaOutboxId.coercePositiveInt.or item.changeLogId.coercePositiveInt)

/-- The natural identity that `_aggregate_identity` looks for first (sync_metadata.py:51). -/
def naturalIdentity (table : Table) (data : Payload) : Option String :=
  let field := fun key => (data.get key).stringOrNone
  let number := fun key => ((data.get key).coercePositiveInt).map toString
  match table with
  | .users =>
    if data.get "_sync_contract" = .text "user_counter_event_v2" then
      (field "_counter_event_id").map ("counter-event:" ++ ·)
    else none
  | .accountantRelations | .customerRelations => field "invitation_token"
  | .commodities => field "name"
  | .commodityAliases => field "alias"
  | .telegramLinkTokens => field "token_hash"
  | .invitations => field "token"
  | .notifications | .telegramNotificationOutbox => field "dedupe_key"
  | .userNotificationPreferences => number "user_id"
  | .marketScheduleOverrides => field "date"
  | .offerPublicationStates =>
    (field "dedupe_key").or (do
      let publicId ← field "offer_public_id"
      let surface ← field "surface"
      return surface ++ ":" ++ publicId)
  | .tradeDeliveryReceipts =>
    (field "dedupe_key").or (do
      let eventType ← field "event_type"
      let tradeNumber ← field "trade_number"
      let recipient ← field "recipient_user_id"
      let channel ← field "channel"
      return eventType ++ ":" ++ channel ++ ":" ++ tradeNumber ++ ":" ++ recipient)
  | .telegramAdminBroadcastReceipts =>
    (field "dedupe_key").or (do
      let broadcast ← field "broadcast_id"
      let recipient ← field "recipient_user_id"
      return broadcast ++ ":" ++ recipient)
  | .userBlocks => do
    let blocker ← number "blocker_id"
    let blocked ← number "blocked_id"
    return blocker ++ ":" ++ blocked
  | .offerRequests => do
    let home ← field "request_home_server"
    let key ← field "idempotency_key"
    return home ++ ":" ++ key
  | .tradingSettings => field "key"
  | .offers => field "offer_public_id"
  | .trades => field "trade_number"
  | .chats | .chatMembers | .adminMarketMessages | .adminBroadcastMessages
  | .marketRuntimeState | .telegramAdminBroadcasts => none

/-- `_aggregate_identity` (sync_metadata.py:51). -/
def aggregateIdentity (table : Table) (recordId : Value) (data : Payload) : String :=
  (naturalIdentity table data).getD recordId.str

/-- `_sync_item_aggregate_key` (line 3700). -/
def aggregateKey (table : Table) (recordId : Value) (data : Payload) (item : Item) :
    Option (String × String) :=
  let aggregateTable := pyStrip (item.metaAggregateTable.orElse (.text table.name)).str
  let key := pyStrip (item.metaAggregateId.orElse (.text "")).str
  if aggregateTable ≠ "" ∧ key ≠ "" then some (aggregateTable, key)
  else
    let fallback := pyStrip (aggregateIdentity table recordId data)
    if fallback ≠ "" then some (table.name, fallback) else none

end TradingBot.Sync
