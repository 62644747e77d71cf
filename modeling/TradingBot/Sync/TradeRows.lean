import TradingBot.Misc.Run
import TradingBot.Sync.Apply

/-!
# Trades on the receiver

What an item does to the rows of `trades`: the guard that reads the row first, the insert with its
conflict clause, the update by natural key after a unique violation, the delete (`_apply_item`,
src/api/routers/sync.py:2987), and the references the database clears with the row they name
(src/models/trade.py). The other tables are a parameter.
-/

namespace TradingBot.Sync

open Misc

def completedTradeProtectedFields : List String :=
  ["offer_id", "offer_user_id", "responder_user_id", "actor_user_id", "commodity_id", "trade_type",
   "settlement_type", "quantity", "price", "status", "trade_number"]

def completedTradeVisibilityFields : List String := ["archived"]

/-- The columns of `trades` (src/models/trade.py). -/
def tradeColumns : List String :=
  ["id", "version_id", "trade_number", "offer_id", "offer_user_id", "offer_user_mobile",
   "responder_user_id", "responder_user_mobile", "actor_user_id", "commodity_id", "trade_type",
   "settlement_type", "quantity", "price", "status", "note", "created_at", "updated_at",
   "confirmed_at", "completed_at", "idempotency_key", "archived"]

def bindEnum (members : List String) : Value → Option Value
  | .null => some .null
  | .text given => (members.find? fun member => given = member ∨ given = member.toUpper).map .text
  | _ => none

def bindBoolean : Value → Option Value
  | .null => some .null
  | .bool b => some (.bool b)
  | .int n => if n = 0 then some (.bool false) else if n = 1 then some (.bool true) else none
  | .float shown _ =>
    if shown ∈ ["0.0", "-0.0"] then some (.bool false)
    else if shown = "1.0" then some (.bool true) else none
  | _ => none

/-- `TradeStatus`, `TradeType` and `SettlementType`, by the column they stand in. -/
def enumMembers : String → List String
  | "status" => ["pending", "confirmed", "completed", "cancelled"]
  | "trade_type" => ["buy", "sell"]
  | "settlement_type" => ["cash", "tomorrow"]
  | _ => []

/-- How a value is bound to a column of `trades`; the texts and times are left to `other`. -/
def bindTradeColumn (other : String → Value → Option Value) (column : String) (value : Value) :
    Option Value :=
  if column ∈ ["id", "version_id", "trade_number", "offer_id", "offer_user_id",
      "responder_user_id", "actor_user_id", "commodity_id", "quantity"] then bindInteger 32 value
  else if column = "price" then bindInteger 64 value
  else if column ∈ ["status", "trade_type", "settlement_type"] then
    bindEnum (enumMembers column) value
  else if column = "archived" then bindBoolean value
  else other column value

abbrev Fields := String → Option Value

/-- `data.get(key)`. -/
def Fields.get (fields : Fields) (key : String) : Value := (fields key).getD .null

def normalizeCompletedTradeField (field : String) (value : Value) : Value :=
  if field ∈ ["offer_id", "offer_user_id", "responder_user_id", "actor_user_id", "commodity_id",
      "quantity", "price", "trade_number"] then
    if value.absent then .null else (value.toInt.map Value.int).getD value
  else if field ∈ ["status", "trade_type", "settlement_type"] then .text (enumValue value)
  else if field = "archived" then .bool value.truthy
  else value

variable (rows : Rows)

/-- Line 2091; none when a query raises. -/
def loadTradeForSyncGuard (recordId : Value) (fields : Fields) :
    Option (Option Row) :=
  let byId :=
    match (Fields.get fields "id").coercePositiveInt.or recordId.coercePositiveInt with
    | none => some none
    | some id =>
      match bindInteger 32 (.int id) with
      | none => none
      | some _ => some ((rows .trades).find? fun row => row.id = id)
  let number := Fields.get fields "trade_number"
  if number.absent then byId
  else
    match bindInteger 32 number with
    | none => none
    | some bound =>
      match (rows .trades).find? fun row => row.columns.get "trade_number" = bound with
      | some row => some (some row)
      | none => byId

def tradeSyncGuardReasonForExisting (existing : Option Row) (operation : Operation)
    (fields : Fields) : Option String :=
  let same := fun (row : Row) field =>
    normalizeCompletedTradeField field (row.columns.get field) =
      normalizeCompletedTradeField field (Fields.get fields field)
  match existing with
  | none => none
  | some row =>
    if enumValue (row.columns.get "status") ≠ "completed" then none
    else
      match operation with
      | .delete => some "completed_trade_delete"
      | .unknown => none
      | .insert | .update =>
        let incoming := enumValue (Fields.get fields "status")
        if incoming = "" then some "incomplete_destructive_payload"
        else if incoming ≠ "completed" then some "completed_to_non_completed_update"
        else if completedTradeProtectedFields.any fun field => (fields field).isNone then
          some "incomplete_destructive_payload"
        else if completedTradeProtectedFields.any fun field => !decide (same row field) then
          some "protected_business_field_mismatch"
        else if completedTradeVisibilityFields.any fun field =>
            (fields field).isSome && !decide (same row field) then
          some "protected_business_field_mismatch"
        else none

/-- Line 2141; the outer none when a query raises. -/
def tradeSyncGuardReason (operation : Operation) (recordId : Value)
    (fields : Fields) : Option (Option String) :=
  (loadTradeForSyncGuard rows recordId fields).map fun existing =>
    tradeSyncGuardReasonForExisting existing operation fields

/-! ## The statements -/

inductive Refusal where
  | unique
  | foreignKey
  | other
  deriving DecidableEq, Repr

/-- The receiver without its trades: columns of texts and times, the other tables after a statement,
and which statements the constraints refuse. `removed` is the other tables after a row was deleted,
none where that is refused. -/
structure Store where
  currentServer : Server
  registrationSyncV2 : Bool
  bind : Table → String → Value → Option Value
  resolveUser : Rows → Value → String → Value → Resolved
  versionedUser : Rows → Operation → Value → Fields → Option Server →
    Option (List Row × ApplyResult)
  tradingSettings : Rows → Fields → List Row × ApplyResult
  write : Rows → Statement → List Row × ApplyResult
  refusal : Rows → Statement → Option Refusal
  mergeRefused : Rows → Statement → Bool
  nextTradeId : Rows → Int
  tradeDefaults : Payload
  removed : Rows → Table → Value → Option Rows

def Rows.put (table : Table) (new : List Row) : Rows :=
  fun other => if other = table then new else rows other

def bindColumns (bind : String → Value → Option Value) (fields : Fields) :
    List String → Option Payload
  | [] => some []
  | column :: columns =>
    match fields column with
    | none => bindColumns bind fields columns
    | some value => do
      let bound ← bind column value
      let rest ← bindColumns bind fields columns
      return (column, bound) :: rest

/-- `status != COMPLETED`, which is not true of an empty status. -/
def Row.notCompleted (row : Row) : Bool :=
  row.columns.get "status" ≠ .text "completed" && row.columns.get "status" ≠ .null

/-- Both where clauses: not completed, or repeated; `incoming` is the value compared with a column. -/
def completedWhere (fields : Fields) (incoming : String → Value) (row : Row) : Bool :=
  row.notCompleted ||
    (enumValue (Fields.get fields "status") = "completed" &&
      completedTradeProtectedFields.all (fun field => (fields field).isSome) &&
      incoming "status" = .text "completed" &&
      completedTradeProtectedFields.all (fun field => row.columns.get field = incoming field) &&
      completedTradeVisibilityFields.all (fun field =>
        (fields field).isNone || row.columns.get field = incoming field))

def Row.update (row : Row) (values : Payload) : Row :=
  ⟨row.id, values.foldl (fun (columns : Payload) entry => columns.set entry.1 entry.2)
    row.columns⟩

def updateTrades (number : Value) (admitted : Row → Bool) (values : Payload) (trades : List Row) :
    List Row :=
  trades.map fun row =>
    if row.columns.get "trade_number" = number ∧ admitted row then row.update values else row

def updatesAny (number : Value) (admitted : Row → Bool) (trades : List Row) : Bool :=
  trades.any fun row => row.columns.get "trade_number" = number ∧ admitted row

def tradeSqlValueForField (field : String) (value : Value) : Value :=
  if enumValue value ∈ enumMembers field then .text (enumValue value) else value

def settable (bound : Payload) : Payload :=
  bound.filter fun entry => entry.1 ∉ ["id", "trade_number"]

namespace Store

variable (store : Store)

def bindTrade : String → Value → Option Value := bindTradeColumn (store.bind .trades)

/-- The update by natural key after a unique violation (line 3375). -/
def mergeTrade (statement : Statement) (bound : Payload) : Rows × ApplyResult :=
  let fields : Fields := fun key => if key ∈ tradeColumns then statement.fields key else none
  match tradeSyncGuardReason rows .update statement.recordId fields with
  | none => (rows, .failed)
  | some (some _) => (rows, .ignored)
  | some none =>
    let values := settable bound
    if values = [] then (rows, .ok)
    else
      let compared := fun field =>
        if field ∈ completedTradeProtectedFields then
          store.bindTrade field (tradeSqlValueForField field (Fields.get fields field))
        else store.bindTrade field (Fields.get fields field)
      let clause := completedTradeProtectedFields ++ completedTradeVisibilityFields
      if clause.any (fun field => (fields field).isSome && (compared field).isNone) ||
          store.mergeRefused rows statement then (rows, .failed)
      else
        let admitted := completedWhere fields fun field => (compared field).getD .null
        let number := bound.get "trade_number"
        if updatesAny number admitted (rows .trades) then
          (rows.put .trades (updateTrades number admitted values (rows .trades)), .ok)
        else (rows, .ignored)

/-- An insert or update of a trade (line 3237); one without a number is refused. -/
def executeTrade (statement : Statement) : Rows × ApplyResult :=
  match tradeSyncGuardReason rows statement.operation statement.recordId statement.fields with
  | none => (rows, .raised)
  | some (some _) => (rows, .ignored)
  | some none =>
    match bindColumns store.bindTrade statement.fields tradeColumns with
    | none => (rows, .raised)
    | some bound =>
      if (Fields.get statement.fields "trade_number").absent then
        (rows, if store.refusal rows statement = some .foreignKey then .deferred else .failed)
      else
        let number := bound.get "trade_number"
        let admitted := completedWhere statement.fields bound.get
        match store.refusal rows statement with
        | some .foreignKey => (rows, .deferred)
        | some .other => (rows, .failed)
        | some .unique => store.mergeTrade rows statement bound
        | none =>
          if (rows .trades).any fun row => row.columns.get "trade_number" = number then
            if updatesAny number admitted (rows .trades) then
              (rows.put .trades (updateTrades number admitted (settable bound) (rows .trades)), .ok)
            else (rows, .ignored)
          else if (rows .trades).any fun row => row.id = store.nextTradeId rows then
            store.mergeTrade rows statement bound
          else
            let inserted := Row.update ⟨store.nextTradeId rows, store.tradeDefaults⟩ bound
            (rows.put .trades (rows .trades ++ [inserted]), .ok)

/-- `DELETE ... WHERE id = record_id AND status <> 'COMPLETED'` (line 3540). -/
def deleteTrade (recordId : Value) (data : Payload) : Rows × DeleteResult :=
  match loadTradeForSyncGuard rows recordId data.fields with
  | none => (rows, .raised)
  | some existing =>
    if (tradeSyncGuardReasonForExisting existing .delete data.fields).isSome then (rows, .ignored)
    else
      match bindInteger 32 recordId with
      | none => (rows, .raised)
      | some id =>
        let gone := fun row : Row => decide (Value.int row.id = id) && row.notCompleted
        if existing.isSome && !(rows .trades).any gone then (rows, .ignored)
        else
          match store.removed rows .trades id with
          | none => (rows, .failed)
          | some others => (others.put .trades ((rows .trades).filter fun row => !gone row), .ok)

def clearedColumns : Table → List String
  | .offers => ["offer_id"]
  | .users => ["offer_user_id", "responder_user_id", "actor_user_id"]
  | _ => []

/-- `ON DELETE SET NULL` of these columns. -/
def clear (columns : List String) (id : Value) (row : Row) : Row :=
  ⟨row.id, columns.foldl
    (fun (data : Payload) column => if data.get column = id then data.set column .null else data)
    row.columns⟩

def deleteRow (table : Table) (recordId : Value) (data : Payload) :
    Rows × DeleteResult :=
  match table with
  | .trades => store.deleteTrade rows recordId data
  | table =>
    match store.bind table "id" recordId with
    | none => (rows, .raised)
    | some id =>
      match store.removed rows table id with
      | none => (rows, .failed)
      | some others =>
        (others.put .trades ((rows .trades).map (clear (clearedColumns table) id)), .ok)

def engine : Engine where
  currentServer := store.currentServer
  registrationSyncV2 := store.registrationSyncV2
  bind := fun table column value =>
    if table = .trades then store.bindTrade column value else store.bind table column value
  resolveUser := store.resolveUser
  versionedUser := fun rows operation recordId fields source =>
    (store.versionedUser rows operation recordId fields source).map fun outcome =>
      (rows.put .users outcome.1, outcome.2)
  tradingSettings := fun rows fields =>
    let outcome := store.tradingSettings rows fields
    (rows.put .tradingSettings outcome.1, outcome.2)
  execute := fun rows statement =>
    if statement.table = .trades then store.executeTrade rows statement
    else
      let outcome := store.write rows statement
      (rows.put statement.table outcome.1, outcome.2)
  delete := store.deleteRow

end Store

/-- An item as it is handed to `_apply_item`. -/
structure Application where
  table : Table
  operation : Operation
  recordId : Value
  data : Payload
  source : Option Server

def applyOne (store : Store) (rows : Rows) (application : Application) : Rows :=
  (applyItem store.engine rows application.table application.operation application.recordId
    application.data application.source).1

end TradingBot.Sync
