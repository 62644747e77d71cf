import TradingBot.Sync.Receive
import Mathlib.Algebra.Ring.Int.Defs

/-!
# Local references of a sync item

An item names the rows it refers to by keys that both servers know; before it is written these are
translated to local row ids (the `_localize_*` functions, src/api/routers/sync.py:1911). The payload
is changed in place, also where the translation then fails.
-/

namespace TradingBot.Sync

open Misc

/-- A row of a table: its primary key and its other columns. -/
structure Row where
  id : Int
  columns : Payload
  deriving DecidableEq, Repr

abbrev Rows := Table → List Row

variable (rows : Rows) (data : Payload)

namespace Payload

def fields : String → Option Value := fun key => data.lookup key

@[simp] theorem lookup_set (key other : String) (value : Value) :
    (data.set key value).lookup other = if other = key then some value else data.lookup other := by
  unfold set pop
  by_cases hkey : other = key
  · rw [if_pos hkey, hkey, List.lookup_cons_self]
  · have hbeq : (other == key) = false := beq_false_of_ne hkey
    rw [if_neg hkey, List.lookup_cons, hbeq]
    induction data with
    | nil => rfl
    | cons entry data ih =>
      obtain ⟨name, old⟩ := entry
      by_cases hname : name = key
      · have hother : (other == name) = false := by
          rw [hname]
          exact hbeq
        rw [List.filter_cons_of_neg (by simp [hname]), List.lookup_cons, hother]
        exact ih
      · rw [List.filter_cons_of_pos (by simp [hname]), List.lookup_cons, List.lookup_cons]
        cases other == name with
        | true => rfl
        | false => exact ih

@[simp] theorem lookup_pop (key other : String) :
    (data.pop key).lookup other = if other = key then none else data.lookup other := by
  have hset := lookup_set data key other .null
  by_cases hkey : other = key
  · rw [if_pos hkey, hkey]
    unfold pop
    rw [List.lookup_eq_none_iff]
    intro entry hentry
    rw [List.mem_filter, decide_eq_true_eq] at hentry
    exact bne_iff_ne.mpr (Ne.symm hentry.2)
  · rw [if_neg hkey] at hset ⊢
    rw [← hset]
    unfold set
    rw [List.lookup_cons, beq_false_of_ne hkey]

@[simp] theorem get_set (key other : String) (value : Value) :
    (data.set key value).get other = if other = key then value else data.get other := by
  unfold get
  rw [lookup_set]
  by_cases hkey : other = key
  · rw [if_pos hkey, if_pos hkey]
    rfl
  · rw [if_neg hkey, if_neg hkey]

@[simp] theorem get_pop (key other : String) :
    (data.pop key).get other = if other = key then .null else data.get other := by
  unfold get
  rw [lookup_pop]
  by_cases hkey : other = key
  · rw [if_pos hkey, if_pos hkey]
    rfl
  · rw [if_neg hkey, if_neg hkey]

end Payload

inductive Resolved where
  | found (id : Int)
  | missing
  | raised
  deriving DecidableEq, Repr

namespace Resolved

def ofOption : Option Int → Resolved
  | some id => found id
  | none => missing

end Resolved

/-- How the driver binds a value to an integer column of so many bits. -/
def bindInteger (bits : Nat) (value : Value) : Option Value :=
  let fit := fun n : Int => if -2 ^ (bits - 1) ≤ n ∧ n < 2 ^ (bits - 1) then some (.int n) else none
  match value with
  | .null => some .null
  | .bool b => some (.int b.toInt)
  | .int n => fit n
  | .float _ truncated => fit truncated
  | .text _ | .other _ => none

def idWhere (rows : List Row) (column : String) (value : Value) : Option Int :=
  (rows.find? fun row => row.columns.get column = value).map Row.id

def resolveOfferIdByPublicId (publicId : String) : Resolved :=
  .ofOption (idWhere (rows .offers) "offer_public_id" (.text publicId))

/-- `_resolve_model_id_by_natural_key` (line 1821) on a column of texts. -/
def resolveModelIdByText (table : Table) (column text : String) : Resolved :=
  .ofOption (idWhere (rows table) column (.text text))

def resolveTradeIdByTradeNumber (number : Value) : Resolved :=
  match bindInteger 32 number with
  | none => .raised
  | some bound => .ofOption (idWhere (rows .trades) "trade_number" bound)

def resolveExistingMandatoryChatId : Option Int :=
  (((rows .chats).filter fun row =>
    row.columns.get "type" = .text "channel" ∧ row.columns.get "is_system" = .bool true ∧
      row.columns.get "is_mandatory" = .bool true ∧
      row.columns.get "is_deleted" = .bool false).map Row.id).min?

def resolveExistingChatMemberId (chatId userId : Value) : Resolved :=
  if chatId.truthy && userId.truthy then
    match bindInteger 32 chatId, bindInteger 32 userId with
    | some chat, some user =>
      .ofOption (((rows .chatMembers).filter fun row =>
        row.columns.get "chat_id" = chat ∧ row.columns.get "user_id" = user).map Row.id).max?
    | _, _ => .raised
  else .missing

/-! ## Localisation -/

inductive Localized where
  | found
  | missing
  | raised
  deriving DecidableEq, Repr

def andThen (first : Payload × Localized) (next : Payload → Payload × Localized) :
    Payload × Localized :=
  match first with
  | (data, .found) => next data
  | (data, outcome) => (data, outcome)

/-- `value in (None, "")`. -/
def Value.absent (value : Value) : Bool := value = .null || value = .text ""

def assignReference {α : Type} (column : String) (reference : Option α) (resolve : α → Resolved)
    (data : Payload) : Payload × Localized :=
  match reference with
  | none => (data, .found)
  | some named =>
    match resolve named with
    | .found id => (data.set column (.int id), .found)
    | .missing => (data, .missing)
    | .raised => (data, .raised)

/-- Line 1911; a request whose offer is missing has none. -/
def localizeOfferReferenceByPublicId (table : Table) (data : Payload) :
    Payload × Localized :=
  let reference := (data.get "offer_public_id").stringOrNone
  match table with
  | .trades | .offerPublicationStates =>
    assignReference "offer_id" reference (resolveOfferIdByPublicId rows) data
  | .offerRequests =>
    match reference with
    | none => (data, .found)
    | some publicId =>
      match resolveOfferIdByPublicId rows publicId with
      | .found id => (data.set "local_offer_id" (.int id), .found)
      | _ => (data.set "local_offer_id" .null, .found)
  | _ => (data, .found)

def localizeCommodityReferenceByName (table : Table) (data : Payload) :
    Payload × Localized :=
  match table with
  | .commodityAliases | .offers | .trades =>
    assignReference "commodity_id" (data.get "commodity_name").stringOrNone
      (resolveModelIdByText rows .commodities "name") data
  | _ => (data, .found)

/-- A reference taken out of the payload when read; where its row is missing its column stays empty. -/
def consumeReference {α : Type} (key column : String) (reference : Value → Option α)
    (resolve : α → Resolved) (data : Payload) : Payload × Localized :=
  match reference (data.get key) with
  | none => (data.pop key, .found)
  | some named =>
    match resolve named with
    | .found id => ((data.pop key).set column (.int id), .found)
    | .missing => ((data.pop key).set column .null, .missing)
    | .raised => (data.pop key, .raised)

def localizeRepublishedOfferReference : Payload × Localized :=
  consumeReference "republished_offer_public_id" "republished_offer_id" Value.stringOrNone
    (resolveOfferIdByPublicId rows) data

def localizeOfferRequestCustomerRelationReference :
    Payload × Localized :=
  consumeReference "customer_relation_invitation_token" "customer_relation_id" Value.stringOrNone
    (resolveModelIdByText rows .customerRelations "invitation_token") data

def tradeReference (value : Value) : Option Value := if value.absent then none else some value

def localizeOfferRequestResultingTradeReference :
    Payload × Localized :=
  consumeReference "resulting_trade_number" "resulting_trade_id" tradeReference
    (resolveTradeIdByTradeNumber rows) data

def localizeTradeDeliveryReceiptReferences : Payload × Localized :=
  match tradeReference (data.get "trade_number") with
  | none => ((data.set "trade_id" .null).set "offer_id" .null, .found)
  | some number =>
    match bindInteger 32 number with
    | none => (data, .raised)
    | some bound =>
      match (rows .trades).find? fun row => row.columns.get "trade_number" = bound with
      | none => (data, .missing)
      | some trade =>
        ((data.set "trade_id" (.int trade.id)).set "offer_id" (trade.columns.get "offer_id"),
          .found)

/-- `REGISTRATION_USER_REFERENCE_FIELDS` (registration_sync_policy.py:31). -/
def registrationUserReferenceFields : Table → Option (List String)
  | .invitations => some ["created_by_id", "registered_user_id"]
  | .accountantRelations => some ["owner_user_id", "accountant_user_id", "created_by_user_id"]
  | .customerRelations => some ["owner_user_id", "customer_user_id", "created_by_user_id"]
  | .telegramLinkTokens => some ["user_id"]
  | _ => none

def enumValue (value : Value) : String := (value.orElse (.text "")).str.toLower

def terminalRelation (table : Table) (data : Payload) : Option Row :=
  if table ∈ [.accountantRelations, .customerRelations] ∧
      enumValue (data.get "status") ∈ ["revoked", "expired", "deleted"] then
    match (data.get "invitation_token").stringOrNone with
    | none => none
    | some token => (rows table).find? fun row => row.columns.get "invitation_token" = .text token
  else none

/-- `isinstance(value, dict)`. -/
def Value.isMapping : Value → Bool
  | .other shown => shown.toList.head? = some '\x7b'
  | _ => false

def localizeUserFields (resolve : String → Value → Resolved) : List String → Payload →
    Payload × Localized
  | [], data => (data, .found)
  | field :: fields, data =>
    if data.get field = .null then localizeUserFields resolve fields data
    else
      match resolve field (data.get field) with
      | .found id => localizeUserFields resolve fields (data.set field (.int id))
      | .missing => (data, .missing)
      | .raised => (data, .raised)

/-- Line 1973. `resolveUser` finds the local user from the references, the field and the other
server's id. -/
def localizeRegistrationUserReference (registrationSyncV2 : Bool)
    (resolveUser : Rows → Value → String → Value → Resolved) (rows : Rows) (table : Table)
    (data : Payload) : Payload × Localized :=
  if registrationSyncV2 then
    match registrationUserReferenceFields table with
    | none => (data, .found)
    | some fields =>
      let rest := data.pop "_registration_user_references"
      match terminalRelation rows table data with
      | some relation =>
        (fields.foldl (fun data field => data.set field (relation.columns.get field)) rest, .found)
      | none =>
        let references := data.get "_registration_user_references"
        if references.isMapping then localizeUserFields (resolveUser rows references) fields rest
        else (rest, .missing)
  else (data, .found)

end TradingBot.Sync
