import TradingBot.Sync.Columns

/-!
# Publication states on the receiver

What an item does to the rows of `offer_publication_states`: the insert with its conflict clause
(`_build_upsert_stmt`, src/api/routers/sync.py:1310), the constraints
(src/models/offer_publication_state.py), the trigger that guards the publisher
(src/migrations/versions/fe4f5a6b7c8d_guard_sync_publication_publisher_promotion.py), the update by
natural key after a unique violation, and the delete.
-/

namespace TradingBot.Sync

open Misc

/-- The columns of `offer_publication_states` but for the id. -/
def publicationColumns : List String :=
  ["version_id", "offer_id", "offer_public_id", "offer_home_server", "surface",
   "publication_owner_server", "publisher_bot_identity", "status", "dedupe_key",
   "surface_resource_id", "telegram_chat_id", "telegram_message_id", "offer_version_id",
   "last_known_offer_status", "last_attempt_at", "last_success_at", "next_retry_at", "disabled_at",
   "lagged_at", "error_code", "error_message", "state_metadata", "archived", "created_at",
   "updated_at"]

def requiredPublicationColumns : List String :=
  ["version_id", "offer_public_id", "offer_home_server", "surface", "publication_owner_server",
   "status", "dedupe_key", "archived", "created_at"]

/-- `OfferPublicationSurface` and `OfferPublicationStatus`, by the column they stand in. -/
def publicationMembers : String → List String
  | "surface" => ["telegram_channel", "webapp_market"]
  | "status" => ["pending", "sent", "visible", "failed", "disabled", "lagged"]
  | _ => []

/-- What is left open of the database: which texts fit a column, the columns of times and of JSON,
the moment of an insert, the next id, the references that name no row, the rows others depend on,
and whether the text of another constraint's error holds the words the receiver looks for. -/
structure PublicationDb where
  fits : String → String → Bool
  bindOther : String → Value → Option Value
  now : Value
  nextId : List Row → Int
  dangling : Rows → Value → Bool
  pinned : Rows → Value → Bool
  saysUnique : Rows → Statement → Bool
  saysForeignKey : Rows → Statement → Bool

variable (db : PublicationDb)

/-- How a value is bound to a column of `offer_publication_states`. -/
def PublicationDb.bind (column : String) (value : Value) : Option Value :=
  if column ∈ ["version_id", "offer_id", "offer_version_id"] then bindInteger 32 value
  else if column ∈ ["telegram_chat_id", "telegram_message_id"] then bindInteger 64 value
  else if column ∈ ["surface", "status"] then bindMember (publicationMembers column) value
  else if column = "archived" then bindBoolean value
  else if column ∈ ["offer_public_id", "offer_home_server", "publication_owner_server",
      "publisher_bot_identity", "dedupe_key", "surface_resource_id", "last_known_offer_status",
      "error_code", "error_message"] then bindText (db.fits column) value
  else db.bindOther column value

/-- The payload without what is no column (`_filter_model_columns`, sync.py:1558). -/
def publicationFields (statement : Statement) : Fields :=
  fun key => if key = "id" ∨ key ∈ publicationColumns then statement.fields key else none

def offerPublicationStatusPrecedence : List (String × Nat) :=
  [("pending", 10), ("failed", 20), ("lagged", 30), ("disabled", 40), ("sent", 50), ("visible", 60)]

def offerPublicationStatusRank (status : Value) : Nat :=
  ((offerPublicationStatusPrecedence.find? fun entry => status = .text entry.1).map Prod.snd).getD 0

def publicationToken (offerPublicId : String) : String :=
  "offer-publication:telegram_channel:" ++ offerPublicId

/-- `_offer_publication_publisher_promotion_token` (line 1149). -/
def publisherPromotionToken (currentServer : Server) (fields : Fields) (source : Option Server) :
    Option String :=
  let owner := Fields.get fields "publication_owner_server"
  if source ≠ some .foreign ∨
      (if owner.truthy then knownServer owner.str else none) ≠ some .foreign ∨
      currentServer ≠ .iran ∨
      enumValue (Fields.get fields "surface") ≠ "telegram_channel" ∨
      (Fields.get fields "publisher_bot_identity").strippedText ∉ telegramPublisherIdentities then
    none
  else
    match (Fields.get fields "version_id").toInt with
    | none => none
    | some version =>
      let offerPublicId := (Fields.get fields "offer_public_id").strippedText
      let token := (Fields.get fields "dedupe_key").strippedText
      if 1 < version ∧ offerPublicId ≠ "" ∧ token = publicationToken offerPublicId then some token
      else none

/-- `_offer_publication_publisher_promotion_clause` (line 1107), the earlier checks passed. -/
def publisherPromotionClause (excluded row : Row) : Truth :=
  let current := row.columns.get
  let incoming := excluded.columns.get
  ((current "publisher_bot_identity").sqlEq (.text "primary")).both
    (((current "publication_owner_server").sqlEq (.text "foreign")).both
    (((current "status").sqlEq (.text "pending")).both
    (((current "version_id").sqlEq (.int 1)).both
    ((current "telegram_message_id").isNull.both
    (((current "offer_public_id").sqlEq (incoming "offer_public_id")).both
    (((incoming "publisher_bot_identity").sqlIn telegramPublisherIdentities).both
    ((current "version_id").sqlLt (incoming "version_id"))))))))

def promotes (promotion : Option String) (excluded row : Row) : Truth :=
  if promotion.isSome then publisherPromotionClause excluded row else some false

/-- `_offer_publication_state_upsert_where_clause` (line 1230). -/
def publicationWhere (promotion : Option String) (fields : Fields) (excluded row : Row) : Truth :=
  let current := row.columns.get
  let incoming := excluded.columns.get
  let publisher :=
    if (fields "publisher_bot_identity").isSome then
      ((current "publisher_bot_identity").isNull.either
        ((incoming "publisher_bot_identity").isNull.either
        ((current "publisher_bot_identity").sqlEq (incoming "publisher_bot_identity")))).either
        (promotes promotion excluded row)
    else some true
  let version :=
    if (fields "offer_version_id").isSome then
      (current "offer_version_id").isNull.either ((incoming "offer_version_id").isNull.either
        ((current "offer_version_id").sqlLe (incoming "offer_version_id")))
    else some true
  let precedence : Truth := .known (offerPublicationStatusRank (current "status") ≤
    offerPublicationStatusRank (incoming "status"))
  let status :=
    if (fields "status").isSome then
      if (fields "offer_version_id").isSome then
        (current "offer_version_id").isNull.either
          (((current "offer_version_id").sqlLt (incoming "offer_version_id")).either
          (((incoming "offer_version_id").isNull.either
            ((current "offer_version_id").sqlEq (incoming "offer_version_id"))).both precedence))
      else precedence
    else some true
  publisher.both (version.both status)

def assignedPublisher (promotion : Option String) (excluded row : Row) : Value :=
  let current := row.columns.get "publisher_bot_identity"
  let incoming := excluded.columns.get "publisher_bot_identity"
  if (promotes promotion excluded row).holds then incoming
  else if current ≠ .null then current
  else incoming

def settablePublication (bound : Payload) : Payload :=
  bound.filter fun entry => entry.1 ≠ "dedupe_key"

def setPublication (promotion : Option String) (excluded : Row) (bound : Payload) (row : Row) :
    Row :=
  row.update ((settablePublication bound).map fun entry =>
    if entry.1 = "publisher_bot_identity" then
      (entry.1, assignedPublisher promotion excluded row)
    else entry)

def Row.publicationChecked (row : Row) : Bool :=
  let publisher := row.columns.get "publisher_bot_identity"
  requiredPublicationColumns.all (fun column => row.columns.get column ≠ .null) &&
    !(publisher.isNull.either
      (((row.columns.get "surface").sqlEq (.text "telegram_channel")).both
      (publisher.sqlIn ("primary" :: telegramPublisherIdentities)))).refuted

def PublicationsDistinct (rows : List Row) : Prop :=
  (rows.map Row.id).Nodup ∧ (rows.map fun row => row.columns.get "dedupe_key").Nodup ∧
    (rows.map fun row => (row.columns.get "offer_public_id", row.columns.get "surface")).Nodup

instance (rows : List Row) : Decidable (PublicationsDistinct rows) :=
  inferInstanceAs (Decidable (_ ∧ _ ∧ _))

def markedPublication (setting : String) (row : Row) : Truth :=
  let column := row.columns.get
  ((column "surface").sqlEq (.text "telegram_channel")).both
    (((column "publication_owner_server").sqlEq (.text "foreign")).both
    ((Truth.known (column "offer_public_id" ≠ .null)).both
    ((column "telegram_message_id").isNull.both
    (((column "dedupe_key").sqlEq
      ((column "offer_public_id").sqlPrepend "offer-publication:telegram_channel:")).both
    ((Value.text setting).sqlEq (column "dedupe_key"))))))

def publisherMayChange (setting : String) (old new : Row) : Truth :=
  ((old.columns.get "publisher_bot_identity").sqlEq (.text "primary")).both
    (((old.columns.get "publication_owner_server").sqlEq (.text "foreign")).both
    (((old.columns.get "status").sqlEq (.text "pending")).both
    (((old.columns.get "version_id").sqlEq (.int 1)).both
    ((old.columns.get "telegram_message_id").isNull.both
    ((Truth.known (new.columns.get "dedupe_key" = old.columns.get "dedupe_key")).both
    ((Truth.known (new.columns.get "offer_public_id" =
      old.columns.get "offer_public_id")).both
    (((new.columns.get "publisher_bot_identity").sqlIn telegramPublisherIdentities).both
    (((old.columns.get "version_id").sqlLt (new.columns.get "version_id")).both
    (markedPublication setting new)))))))))

/-- `enforce_offer_publication_telegram_owner_immutable`: whether the trigger raises under the
transaction's promotion setting. -/
def publicationTriggerRaises (setting : String) (old : Option Row) (new : Row) : Bool :=
  let publisher := new.columns.get "publisher_bot_identity"
  let onTelegram := fun row : Row => (row.columns.get "surface").sqlEq (.text "telegram_channel")
  ((onTelegram new).negated.both (.known (publisher ≠ .null))).holds ||
    (match old with
    | none =>
      (publisher.sqlIn telegramPublisherIdentities).holds &&
        !((markedPublication setting new).both
          ((Value.int 1).sqlLt (new.columns.get "version_id"))).holds
    | some old =>
      ((onTelegram old).holds && decide (old.columns.get "publisher_bot_identity" ≠ .null) &&
          decide (publisher ≠ old.columns.get "publisher_bot_identity") &&
          !(publisherMayChange setting old new).holds) ||
        ((onTelegram old).holds && decide (old.columns.get "telegram_message_id" ≠ .null) &&
          decide (new.columns.get "telegram_message_id" ≠
            old.columns.get "telegram_message_id"))) ||
    (decide (new.columns.get "telegram_message_id" ≠ .null) && decide (publisher = .null))

inductive Written where
  | rows (rows : List Row)
  | nothing
  | refused (refusal : Refusal)
  | raised
  deriving DecidableEq, Repr

def PublicationDb.danglingOffer (rows : Rows) (bound : Payload) : Bool :=
  bound.has "offer_id" && db.dangling rows (bound.get "offer_id")

def PublicationDb.updateStates (rows : Rows) (setting : String)
    (bound : Payload) (admits : Row → Bool) (change : Row → Row) : Written :=
  let states := rows .offerPublicationStates
  let touched := states.filter admits
  if touched = [] then .nothing
  else if touched.any fun row => publicationTriggerRaises setting (some row) (change row) then
    .raised
  else if touched.any fun row => !(change row).publicationChecked then .refused .other
  else if ¬ PublicationsDistinct (updateWhere admits change states) then .refused .unique
  else if db.danglingOffer rows bound then .refused .foreignKey
  else .rows (updateWhere admits change states)

def PublicationDb.proposed (id : Int) (bound : Payload) : Row :=
  Row.update ⟨id, [("version_id", .int 1), ("status", .text "pending"), ("archived", .bool false),
    ("created_at", db.now)]⟩ bound

/-- The insert with its conflict clause (line 1371); without a dedupe key on the id,
unconditionally. -/
def PublicationDb.upsert (rows : Rows) (promotion : Option String)
    (fields : Fields) (id : Int) (bound : Payload) : Written :=
  let states := rows .offerPublicationStates
  let setting := promotion.getD ""
  let proposed := db.proposed id bound
  let byKey := (Fields.get fields "dedupe_key").truthy
  let conflicts := fun row : Row =>
    if byKey then decide (row.columns.get "dedupe_key" = proposed.columns.get "dedupe_key")
    else decide (row.id = id)
  if publicationTriggerRaises setting none proposed then .raised
  else if !proposed.publicationChecked then .refused .other
  else if states.any conflicts then
    if byKey then
      db.updateStates rows setting bound
        (fun row => conflicts row && (publicationWhere promotion fields proposed row).holds)
        (setPublication promotion proposed bound)
    else db.updateStates rows setting bound conflicts fun row => row.update bound
  else if ¬ PublicationsDistinct (states ++ [proposed]) then .refused .unique
  else if db.danglingOffer rows bound then .refused .foreignKey
  else .rows (states ++ [proposed])

/-- The update by natural key after a unique violation (line 3366). -/
def PublicationDb.merge (rows : Rows) (fields : Fields) (bound : Payload) :
    Rows × ApplyResult :=
  let key := Fields.get fields "dedupe_key"
  if key = .null then (rows, .failed)
  else if settablePublication bound = [] then (rows, .ok)
  else
    match db.updateStates rows "" bound (fun row => row.columns.get "dedupe_key" = key)
        (fun row => row.update (settablePublication bound)) with
    | .rows states => (rows.put .offerPublicationStates states, .ok)
    | .nothing => (rows, .ok)
    | .refused _ | .raised => (rows, .failed)

/-- How the receiver reads a refusal, by the words of its error (line 3367). -/
def PublicationDb.read (db : PublicationDb) (rows : Rows) (statement : Statement) :
    Refusal → Refusal
  | .unique => .unique
  | .foreignKey => if db.saysUnique rows statement then .unique else .foreignKey
  | .other =>
    if db.saysUnique rows statement then .unique
    else if db.saysForeignKey rows statement then .foreignKey
    else .other

def PublicationDb.givenId (rows : Rows) (fields : Fields) : Option Value :=
  match fields "id" with
  | none => some (.int (db.nextId (rows .offerPublicationStates)))
  | some id => bindInteger 32 id

/-- The statement under the id it gives. A null id is refused after the trigger has run. -/
def PublicationDb.insert (db : PublicationDb) (rows : Rows) (promotion : Option String)
    (fields : Fields) (bound : Payload) : Value → Written
  | .int id => db.upsert rows promotion fields id bound
  | _ =>
    if publicationTriggerRaises (promotion.getD "") none (db.proposed 0 bound) then .raised
    else .refused .other

def PublicationDb.conclude (rows : Rows) (statement : Statement)
    (promotion : Option String) (bound : Payload) : Written → Rows × ApplyResult
  | .rows states => (rows.put .offerPublicationStates states, .ok)
  | .nothing => (rows, if promotion.isSome then .failed else .ok)
  | .raised => (rows, .raised)
  | .refused refusal =>
    match db.read rows statement refusal with
    | .unique => db.merge rows (publicationFields statement) bound
    | .foreignKey => (rows, .deferred)
    | .other => (rows, .failed)

/-- An insert or update (line 3253). One that sets no column by the dedupe key cannot be built. -/
def PublicationDb.execute (currentServer : Server) (rows : Rows)
    (statement : Statement) : Rows × ApplyResult :=
  let fields := publicationFields statement
  let promotion := publisherPromotionToken currentServer fields statement.source
  match bindColumns db.bind fields publicationColumns, db.givenId rows fields with
  | some bound, some id =>
    if (Fields.get fields "dedupe_key").truthy && decide (settablePublication bound = []) then
      (rows, .raised)
    else db.conclude rows statement promotion bound (db.insert rows promotion fields bound id)
  | _, _ => (rows, .raised)

def PublicationDb.delete : Rows → Value → Rows × DeleteResult :=
  deleteById db.pinned .offerPublicationStates

def Engine.withPublications (engine : Engine) (db : PublicationDb) : Engine :=
  { engine with
    execute := fun rows statement =>
      if statement.table = .offerPublicationStates then
        db.execute engine.currentServer rows statement
      else engine.execute rows statement
    delete := fun rows table recordId data =>
      if table = .offerPublicationStates then db.delete rows recordId
      else engine.delete rows table recordId data }

def applyPublication (engine : Engine) (db : PublicationDb) (states : List Row) (item : TableItem) :
    List Row :=
  item.apply (engine.withPublications db) .offerPublicationStates states

end TradingBot.Sync
