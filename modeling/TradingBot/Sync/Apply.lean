import TradingBot.Sync.Localize

/-!
# Applying one sync item

`_apply_item` (src/api/routers/sync.py:2987). An insert or update is localised and handed to the
database as one statement; a delete is resolved to a local row first. What the database does with a
statement is a parameter.
-/

namespace TradingBot.Sync

open Misc

structure Statement where
  table : Table
  operation : Operation
  recordId : Value
  source : Option Server
  fields : String → Option Value

/-- What `_apply_item` returns for a delete. -/
inductive DeleteResult where
  | ok
  | ignored
  | failed
  | raised
  deriving DecidableEq, Repr

def DeleteResult.toApply : DeleteResult → ApplyResult
  | ok => .ok
  | ignored => .ignored
  | failed => .failed
  | raised => .raised

/-- The parts of `_apply_item` left open: the binding of values, the users of a registration row,
the versioned user events, the settings table, and what the database does with a statement or a
delete, with the checks just before it. -/
structure Engine where
  currentServer : Server
  registrationSyncV2 : Bool
  bind : Table → String → Value → Option Value
  resolveUser : Rows → Value → String → Value → Resolved
  versionedUser : Rows → Operation → Value → (String → Option Value) → Option Server →
    Option (Rows × ApplyResult)
  tradingSettings : Rows → (String → Option Value) → Rows × ApplyResult
  execute : Rows → Statement → Rows × ApplyResult
  delete : Rows → Table → Value → Payload → Rows × DeleteResult

/-- `_offer_request_sync_authority_rejection_reason` (line 2231). -/
def offerRequestAuthorityRejection (currentServer : Server) (data : Payload)
    (source : Option Server) : Option String :=
  let home := data.get "request_home_server"
  match if home.truthy then knownServer home.str else none, source with
  | none, _ => some "offer_request_home_missing_or_invalid"
  | some _, none => some "offer_request_source_missing_or_invalid"
  | some home, some source =>
    if currentServer = home ∧ source ≠ home then
      some "offer_request_non_home_write_to_authority"
    else none

/-- `TELEGRAM_PUBLISHER_IDENTITIES` (telegram_multi_publisher_contract.py:21). -/
def telegramPublisherIdentities : List String :=
  ["publisher_1", "publisher_2", "publisher_3", "publisher_4", "publisher_5"]

/-- `str(value or "").strip()`. -/
def Value.strippedText (value : Value) : String := pyStrip (value.orElse (.text "")).str

/-- `_offer_publication_sync_authority_rejection_reason` (line 1180). -/
def offerPublicationAuthorityRejection (currentServer : Server) (data : Payload)
    (source : Option Server) : Option String :=
  if (data.get "publisher_bot_identity").strippedText ∉ telegramPublisherIdentities then none
  else if currentServer ≠ .iran then some "publisher_target_not_iran"
  else if enumValue (data.get "surface") ≠ "telegram_channel" then
    some "publisher_on_non_telegram_surface"
  else
    let owner := data.get "publication_owner_server"
    let offerPublicId := (data.get "offer_public_id").strippedText
    if (if owner.truthy then knownServer owner.str else none) ≠ some .foreign then
      some "publisher_owner_not_foreign"
    else if source ≠ some .foreign then some "publisher_source_not_owner"
    else if data.get "telegram_message_id" ≠ .null then
      some "publisher_local_message_identity_present"
    else if offerPublicId = "" ∨ (data.get "dedupe_key").strippedText ≠
        "offer-publication:telegram_channel:" ++ offerPublicId then
      some "publisher_identity_invalid"
    else
      match (data.get "version_id").toInt with
      | none => some "publisher_version_not_promotable"
      | some version => if version ≤ 1 then some "publisher_version_not_promotable" else none

def naturalKeys : Table → Option String
  | .accountantRelations | .customerRelations => some "invitation_token"
  | .commodities => some "name"
  | .commodityAliases => some "alias"
  | .users => some "telegram_id"
  | .telegramLinkTokens => some "token_hash"
  | .invitations => some "token"
  | .notifications => some "dedupe_key"
  | .userNotificationPreferences => some "user_id"
  | .marketScheduleOverrides => some "date"
  | .trades => some "trade_number"
  | .offerPublicationStates | .tradeDeliveryReceipts | .telegramAdminBroadcastReceipts
  | .telegramNotificationOutbox => some "dedupe_key"
  | _ => none

def syncTableHasPublicIdentity (table : Table) (data : Payload) : Bool :=
  let text := fun key => (data.get key).stringOrNone.isSome
  let number := fun key => (data.get key).coercePositiveInt.isSome
  match table with
  | .offers => text "offer_public_id"
  | .trades => !(data.get "trade_number").absent
  | .offerPublicationStates | .tradeDeliveryReceipts | .telegramAdminBroadcastReceipts
  | .telegramNotificationOutbox => text "dedupe_key"
  | .offerRequests => text "request_home_server" && text "idempotency_key"
  | .userNotificationPreferences => number "user_id"
  | .userBlocks => number "blocker_id" && number "blocked_id"
  | .users => false
  | table =>
    match naturalKeys table with
    | some key => !(data.get key).absent
    | none => false

def naturalIdentityDeleteTables : List Table :=
  [.accountantRelations, .commodities, .commodityAliases, .customerRelations, .invitations,
   .marketScheduleOverrides, .notifications, .offerPublicationStates, .offerRequests, .offers,
   .telegramLinkTokens, .telegramAdminBroadcastReceipts, .telegramNotificationOutbox,
   .tradeDeliveryReceipts, .trades, .userBlocks, .userNotificationPreferences]

def resolveModelIdByNaturalKey (engine : Engine) (rows : Rows) (table : Table) (key : String)
    (value : Value) : Resolved :=
  if value.absent then .missing
  else
    match engine.bind table key value with
    | none => .raised
    | some bound => .ofOption (idWhere (rows table) key bound)

def idWhereBoth (rows : List Row) (first second : String) (values : Value × Value) : Option Int :=
  (rows.find? fun row =>
    row.columns.get first = values.1 ∧ row.columns.get second = values.2).map Row.id

/-- The query of `_resolve_local_record_id_by_public_identity` by the table's identity (line
1848). -/
def resolveByTableIdentity (rows : Rows) (table : Table) (data : Payload) : Resolved :=
  let text := fun key => (data.get key).stringOrNone
  let number := fun key => (data.get key).coercePositiveInt
  match table with
  | .offers => (text "offer_public_id").elim .missing (resolveOfferIdByPublicId rows)
  | .trades =>
    if (data.get "trade_number").absent then .missing
    else resolveTradeIdByTradeNumber rows (data.get "trade_number")
  | .offerPublicationStates | .tradeDeliveryReceipts =>
    (text "dedupe_key").elim .missing (resolveModelIdByText rows table "dedupe_key")
  | .offerRequests =>
    match text "request_home_server", text "idempotency_key" with
    | some home, some key => .ofOption (idWhereBoth (rows .offerRequests) "request_home_server"
        "idempotency_key" (.text home, .text key))
    | _, _ => .missing
  | .userNotificationPreferences =>
    match number "user_id" with
    | some user => .ofOption (idWhere (rows table) "user_id" (.int user))
    | none => .missing
  | .userBlocks =>
    match number "blocker_id", number "blocked_id" with
    | some blocker, some blocked => .ofOption (idWhereBoth (rows .userBlocks) "blocker_id"
        "blocked_id" (.int blocker, .int blocked))
    | _, _ => .missing
  | _ => .missing

def resolveLocalRecordIdByPublicIdentity (engine : Engine) (rows : Rows) (table : Table)
    (data : Payload) : Resolved :=
  let natural : Resolved := match table, naturalKeys table with
    | .users, _ | _, none => .missing
    | table, some key => resolveModelIdByNaturalKey engine rows table key (data.get key)
  match natural with
  | .missing => resolveByTableIdentity rows table data
  | resolved => resolved

def isMandatoryRecord (kind system mandatory : String) (data : Payload) : Bool :=
  (data.get kind).strippedText.toLower = "channel" && (data.get system).truthy &&
    (data.get mandatory).truthy

def isMandatoryChannelRecord (data : Payload) : Bool :=
  isMandatoryRecord "type" "is_system" "is_mandatory" data

def isMandatoryChatMemberRecord (data : Payload) : Bool :=
  isMandatoryRecord "chat_type" "chat_is_system" "chat_is_mandatory" data

def localizeChatId (rows : Rows) (data : Payload) : Payload :=
  if isMandatoryChatMemberRecord data then
    match resolveExistingMandatoryChatId rows with
    | some chat => data.set "chat_id" (.int chat)
    | none => data
  else data

def localizeRecordId (rows : Rows) (table : Table) (recordId : Value) (data : Payload) :
    Option Value :=
  match table with
  | .chats =>
    if isMandatoryChannelRecord data then
      some ((resolveExistingMandatoryChatId rows).elim recordId .int)
    else some recordId
  | .chatMembers =>
    match resolveExistingChatMemberId rows (data.get "chat_id") (data.get "user_id") with
    | .found id => some (.int id)
    | .missing => some recordId
    | .raised => none
  | _ => some recordId

def popChatFields (data : Payload) : Payload :=
  ((data.pop "chat_type").pop "chat_is_system").pop "chat_is_mandatory"

def localize (engine : Engine) (rows : Rows) (table : Table) (data : Payload) :
    Payload × Localized :=
  andThen (localizeOfferReferenceByPublicId rows table data) fun data =>
  andThen (localizeCommodityReferenceByName rows table data) fun data =>
  andThen (if table = .offers then localizeRepublishedOfferReference rows data
    else (data, .found)) fun data =>
  andThen (if table = .tradeDeliveryReceipts then localizeTradeDeliveryReceiptReferences rows data
    else (data, .found)) fun data =>
  andThen (if table = .offerRequests then localizeOfferRequestResultingTradeReference rows data
    else (data, .found)) fun data =>
  andThen (if table = .offerRequests then localizeOfferRequestCustomerRelationReference rows data
    else (data, .found)) fun data =>
  localizeRegistrationUserReference engine.registrationSyncV2 engine.resolveUser rows table data

/-- The payload as written: the record's id, or none where the public identity finds the row; a
channel message is never taken over. -/
def persistData (table : Table) (recordId : Value) (data : Payload) : Payload :=
  let data := if syncTableHasPublicIdentity table data then data.pop "id"
    else data.set "id" recordId
  if table = .offers then data.pop "channel_message_id" else data

def persist (table : Table) (recordId : Value) (localized : Payload × Localized) :
    Payload × Except Localized Value :=
  match localized with
  | (data, .found) => (persistData table recordId data, .ok recordId)
  | (data, outcome) => (data, .error outcome)

def prepare (engine : Engine) (rows : Rows) (table : Table) (recordId : Value) (data : Payload) :
    Payload × Except Localized Value :=
  let data := if table = .chatMembers then localizeChatId rows data else data
  match localizeRecordId rows table recordId data with
  | none => (data, .error .raised)
  | some recordId =>
    persist table recordId (localize engine rows table
      (if table = .chatMembers then popChatFields data else data))

/-- `_apply_item` on an insert or update, after the special tables. -/
def applyUpsert (engine : Engine) (rows : Rows) (table : Table) (operation : Operation)
    (recordId : Value) (data : Payload) (source : Option Server) : Rows × Payload × ApplyResult :=
  match prepare engine rows table recordId data with
  | (data, .ok recordId) =>
    let outcome := engine.execute rows
      { table := table, operation := operation, recordId := recordId, source := source,
        fields := data.fields }
    (outcome.1, data, outcome.2)
  | (data, .error .raised) => (rows, data, .raised)
  | (data, .error _) => (rows, data, .deferred)

inductive DeleteTarget where
  | record (id : Value)
  | unidentified
  | raised
  deriving DecidableEq, Repr

/-- The record of a delete (line 3506); most tables are never deleted from by the other's id. -/
def deleteTarget (engine : Engine) (rows : Rows) (table : Table) (recordId : Value)
    (data : Payload) : DeleteTarget :=
  match localizeRecordId rows table recordId data,
      resolveLocalRecordIdByPublicIdentity engine rows table data with
  | none, _ => .raised
  | some _, .found id => .record (.int id)
  | some recordId, .missing =>
    if table ∈ naturalIdentityDeleteTables then .unidentified else .record recordId
  | some _, .raised => .raised

/-- `_apply_item` on a delete (line 3503). -/
def applyDelete (engine : Engine) (rows : Rows) (table : Table) (recordId : Value)
    (data : Payload) : Rows × Payload × ApplyResult :=
  let data := if table = .chatMembers then localizeChatId rows data else data
  match deleteTarget engine rows table recordId data with
  | .record id =>
    let outcome := engine.delete rows table id data
    (outcome.1, data, outcome.2.toApply)
  | .unidentified => (rows, data, .ignored)
  | .raised => (rows, data, .raised)

/-- A versioned user event, which never reads the payload's own id (line 3078). -/
def applyVersionedUser (engine : Engine) (rows : Rows) (table : Table) (operation : Operation)
    (recordId : Value) (data : Payload) (source : Option Server) : Option (Rows × ApplyResult) :=
  if table = .users ∧ engine.registrationSyncV2 then
    engine.versionedUser rows operation recordId (data.pop "id").fields source
  else none

/-- Line 2987: the rows after it, the payload it leaves and its result. -/
def applyItem (engine : Engine) (rows : Rows) (table : Table) (operation : Operation)
    (recordId : Value) (data : Payload) (source : Option Server) : Rows × Payload × ApplyResult :=
  if table = .offerRequests ∧
      (offerRequestAuthorityRejection engine.currentServer data source).isSome then
    (rows, data, .ignored)
  else if table = .offerPublicationStates ∧
      (offerPublicationAuthorityRejection engine.currentServer data source).isSome then
    (rows, data, .failed)
  else if table = .tradingSettings then
    if (data.get "key").truthy then
      let outcome := engine.tradingSettings rows data.fields
      (outcome.1, data, outcome.2)
    else (rows, data, .failed)
  else
    match operation with
    | .insert | .update =>
      match applyVersionedUser engine rows table operation recordId data source with
      | some outcome => (outcome.1, data, outcome.2)
      | none => applyUpsert engine rows table operation recordId data source
    | .delete => applyDelete engine rows table recordId data
    | .unknown => (rows, data, .failed)

def receiver (engine : Engine) (relay : Item → Bool) (screen : Item → Except String Payload)
    (payloadHash : Table → Operation → Value → Payload → String) : Receiver Rows where
  registrationSyncV2 := engine.registrationSyncV2
  relay := relay
  screen := screen
  payloadHash := payloadHash
  applyItem := applyItem engine

end TradingBot.Sync
