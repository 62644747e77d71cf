import TradingBot.Ledger.Model
import TradingBot.Sync.Columns
import TradingBot.Sync.Relocalize

/-!
# Requests of the local server under sync

What an item does to the rows of `offer_requests` (`_build_upsert_stmt`,
src/api/routers/sync.py:1459, and the delete of `_apply_item`). The other server's items are taken
only under their own home server, so they reach no local row by its key. A row without an
idempotency key is written by its number, which differs between the servers.
-/

namespace TradingBot.Sync

open Misc

/-! ## The statements -/

/-- The columns of `offer_requests` but for the id. -/
def requestColumns : List String :=
  ["version_id", "request_public_id", "request_home_server", "local_offer_id", "offer_public_id",
   "requester_user_id", "actor_user_id", "request_source_surface", "request_source_server",
   "requested_quantity", "idempotency_key", "workflow_kind", "offer_owner_user_id",
   "queue_sequence", "presented_at", "decision_deadline_at", "decided_by_user_id",
   "terminal_reason", "telegram_delivery_job_id", "telegram_message_id",
   "requester_status_outbox_id", "received_at", "decided_at", "result_status",
   "public_failure_code", "public_failure_message", "internal_failure_code",
   "internal_failure_context", "resulting_trade_id", "customer_relation_id",
   "customer_owner_user_id", "customer_tier_snapshot", "customer_management_name_snapshot",
   "customer_commission_rate_snapshot", "customer_commission_context", "archived", "created_at",
   "updated_at"]

/-- `OfferRequestStatus`. -/
def offerRequestStatuses : List String :=
  ([.received, .authorized, .rejectedBusinessRule, .rejectedOfferExpired, .rejectedLotUnavailable,
    .rejectedConflict, .completedTrade, .duplicateReplay, .failedInternal, .overtimeQueued,
    .overtimeDelivering, .overtimePresented, .overtimeRejectedByOwner, .overtimeDecisionExpired,
    .overtimeCancelledByRequester, .overtimeInvalidated, .overtimeDeliveryExpired,
    .overtimeRejectedRequesterLimit] : List OfferRequestStatus).map OfferRequestStatus.value

def terminalOfferRequestStatuses : List String :=
  ([.rejectedBusinessRule, .rejectedOfferExpired, .rejectedLotUnavailable, .rejectedConflict,
    .completedTrade, .duplicateReplay, .failedInternal, .overtimeRejectedByOwner,
    .overtimeDecisionExpired, .overtimeCancelledByRequester, .overtimeInvalidated,
    .overtimeDeliveryExpired, .overtimeRejectedRequesterLimit] : List OfferRequestStatus).map
    OfferRequestStatus.value

/-- What is left open of the database: which texts fit a column, the columns nothing here reads, the
next id, the columns an insert fills in, the statements a constraint refuses, by their error, and
the rows others depend on. -/
structure RequestDb where
  fits : String → String → Bool
  bindOther : String → Value → Option Value
  nextId : List Row → Int
  defaults : Payload
  refusal : Rows → Statement → Option Refusal
  pinned : Rows → Value → Bool

/-- How a value is bound to a column of `offer_requests`. -/
def RequestDb.bind (db : RequestDb) (column : String) (value : Value) : Option Value :=
  if column = "version_id" then bindInteger 32 value
  else if column = "result_status" then bindMember offerRequestStatuses value
  else if column ∈ ["request_home_server", "idempotency_key"] then
    bindText (db.fits column) value
  else db.bindOther column value

def requestFields (statement : Statement) : Fields :=
  fun key => if key = "id" ∨ key ∈ requestColumns then statement.fields key else none

/-- `_offer_request_payload_needs_ordering_check` (line 2174). -/
def requestNeedsOrderingCheck (fields : Fields) : Bool :=
  decide (enumValue (Fields.get fields "result_status") ≠ "") &&
    (Fields.get fields "version_id").coercePositiveInt.isSome

/-- `_offer_request_upsert_where_clause` (line 2205). -/
def requestWhere (fields : Fields) (excluded row : Row) : Truth :=
  if requestNeedsOrderingCheck fields then
    let current := row.columns.get
    let incoming := excluded.columns.get
    let currentTerminal := (current "result_status").sqlIn terminalOfferRequestStatuses
    let incomingTerminal := (incoming "result_status").sqlIn terminalOfferRequestStatuses
    let sameVersionTerminalConflict := currentTerminal.both (incomingTerminal.both
      (((current "version_id").sqlEq (incoming "version_id")).both
      ((current "result_status").sqlEq (incoming "result_status")).negated))
    let terminalReactivation := currentTerminal.both incomingTerminal.negated
    ((current "version_id").sqlLe (incoming "version_id")).both
      (terminalReactivation.negated.both sameVersionTerminalConflict.negated)
  else some true

def hasRequestKey (fields : Fields) : Bool :=
  (Fields.get fields "request_home_server").truthy && (Fields.get fields "idempotency_key").truthy

def settableRequest (bound : Payload) : Payload :=
  bound.filter fun entry => entry.1 ∉ ["request_home_server", "idempotency_key"]

def RequestDb.givenId (db : RequestDb) (rows : Rows) (fields : Fields) : Option Value :=
  match fields "id" with
  | none => some (.int (db.nextId (rows .offerRequests)))
  | some id => bindInteger 32 id

/-- An insert with its conflict clause; none where the number is taken. Without a key the conflict
is on the id, with no condition. -/
def RequestDb.upsert (db : RequestDb) (requests : List Row) (fields : Fields) (id : Int)
    (bound : Payload) : Option (List Row) :=
  let proposed := Row.update ⟨id, db.defaults⟩ bound
  let sameKey := fun row : Row =>
    decide (row.columns.get "request_home_server" = bound.get "request_home_server") &&
      decide (row.columns.get "idempotency_key" = bound.get "idempotency_key")
  if hasRequestKey fields then
    if requests.any sameKey then
      some (updateWhere (fun row => sameKey row && (requestWhere fields proposed row).holds)
        (fun row => row.update (settableRequest bound)) requests)
    else if requests.any fun row => row.id = id then none
    else some (requests ++ [proposed])
  else if requests.any fun row => row.id = id then
    some (updateWhere (fun row => row.id = id) (fun row => row.update bound) requests)
  else some (requests ++ [proposed])

/-- An insert or update (line 3253); a refused row has no natural key to be merged by. -/
def RequestDb.execute (db : RequestDb) (rows : Rows) (statement : Statement) :
    Rows × ApplyResult :=
  let fields := requestFields statement
  match bindColumns db.bind fields requestColumns, db.givenId rows fields with
  | some bound, some id =>
    if hasRequestKey fields && decide (settableRequest bound = []) then (rows, .raised)
    else
      match db.refusal rows statement, id with
      | some .foreignKey, _ => (rows, .deferred)
      | some _, _ => (rows, .failed)
      | none, .int id =>
        match db.upsert (rows .offerRequests) fields id bound with
        | some requests => (rows.put .offerRequests requests, .ok)
        | none => (rows, .failed)
      | none, _ => (rows, .failed)
  | _, _ => (rows, .raised)

def RequestDb.delete (db : RequestDb) : Rows → Value → Rows × DeleteResult :=
  deleteById db.pinned .offerRequests

def Engine.withRequests (engine : Engine) (db : RequestDb) : Engine :=
  { engine with
    execute := fun rows statement =>
      if statement.table = .offerRequests then db.execute rows statement
      else engine.execute rows statement
    delete := fun rows table recordId data =>
      if table = .offerRequests then db.delete rows recordId
      else engine.delete rows table recordId data }

def applyRequest (engine : Engine) (db : RequestDb) (requests : List Row) (item : TableItem) :
    List Row :=
  item.apply (engine.withRequests db) .offerRequests requests

def serverOf (value : Value) : Option Server := if value.truthy then knownServer value.str else none

def Row.isHomeOf (server : Server) (row : Row) : Prop :=
  serverOf (row.columns.get "request_home_server") = some server

instance (server : Server) (row : Row) : Decidable (row.isHomeOf server) :=
  inferInstanceAs (Decidable (_ = _))

/-- An item that says it comes from the local server has another home, and one without an
idempotency key has the number of no local row. -/
structure FromPeer (engine : Engine) (requests : List Row) (item : TableItem) : Prop where
  source : item.source = some engine.currentServer →
    serverOf (item.data.get "request_home_server") ≠ some engine.currentServer
  numbered : (item.data.get "idempotency_key").truthy = false →
    item.operation = .insert ∨ item.operation = .update →
    item.rejected engine .offerRequests = false →
    ∀ row ∈ requests, row.isHomeOf engine.currentServer →
      bindInteger 32 item.recordId ≠ some (.int row.id)

section Frame

variable {engine : Engine} {rows : Rows} {data : Payload} {name : String}

theorem andThen_frame {first : Payload × Localized} {next : Payload → Payload × Localized}
    (hfirst : first.1.lookup name = data.lookup name)
    (hnext : ∀ data, (next data).1.lookup name = data.lookup name) :
    (andThen first next).1.lookup name = data.lookup name := by
  obtain ⟨left, outcome⟩ := first
  cases outcome with
  | found => exact (hnext left).trans hfirst
  | missing => exact hfirst
  | raised => exact hfirst

theorem localize_request_frame (hname : name ∈ ["request_home_server", "idempotency_key"]) :
    (localize engine rows .offerRequests data).1.lookup name = data.lookup name := by
  have hother : name ∉ ["local_offer_id", "resulting_trade_number", "resulting_trade_id",
      "customer_relation_invitation_token", "customer_relation_id"] := by
    revert name hname
    decide
  simp only [List.mem_cons, List.not_mem_nil, or_false, not_or] at hother
  rw [localize_offerRequests]
  apply andThen_frame
  · exact requestOffer_left rows data name fun h => hother.1 h.1
  · intro data
    apply andThen_frame
    · exact consumeReference_frame _ _ _ hother.2.1 hother.2.2.1
    · intro data
      exact consumeReference_frame _ _ _ hother.2.2.2.1 hother.2.2.2.2

theorem request_statement {requests : List Row} {item : TableItem} {statement : Statement}
    (h : item.statement engine .offerRequests requests = some statement) :
    item.rejected engine .offerRequests = false ∧
    (item.operation = .insert ∨ item.operation = .update) ∧
    (∀ name ∈ ["request_home_server", "idempotency_key"],
      statement.fields name = item.data.lookup name) ∧
    ((item.data.get "idempotency_key").stringOrNone = none →
      statement.fields "id" = some item.recordId) := by
  unfold TableItem.statement at h
  split_ifs at h with hrejected hoperation
  have hprepared : prepare engine (item.rows .offerRequests requests) .offerRequests item.recordId
      item.data = persist .offerRequests item.recordId (localize engine
        (item.rows .offerRequests requests) .offerRequests item.data) := rfl
  have hframe := fun name hname => @localize_request_frame engine
    (item.rows .offerRequests requests) item.data name hname
  rw [hprepared] at h
  generalize localize engine (item.rows .offerRequests requests) .offerRequests item.data =
    localized at h hframe
  obtain ⟨left, outcome⟩ := localized
  cases outcome with
  | missing => cases h
  | raised => cases h
  | found =>
    cases h
    refine ⟨Bool.eq_false_iff.mpr hrejected, hoperation, fun name hname => ?_, fun hnone => ?_⟩
    · rw [← hframe name hname]
      have hid : name ≠ "id" := by
        revert name hname
        decide
      unfold TableItem.statementFor Payload.fields persistData
      dsimp only
      rw [if_neg (by decide)]
      split_ifs
      · rw [Payload.lookup_pop, if_neg hid]
      · rw [Payload.lookup_set, if_neg hid]
    · have hleft : left.get "idempotency_key" = item.data.get "idempotency_key" :=
        congrArg (fun found : Option Value => found.getD .null) (hframe "idempotency_key" (by simp))
      have hidentity : syncTableHasPublicIdentity .offerRequests left = false := by
        unfold syncTableHasPublicIdentity
        dsimp only
        rw [hleft, hnone, Option.isSome_none, Bool.and_false]
      unfold TableItem.statementFor Payload.fields persistData
      dsimp only
      rw [if_neg (by decide), hidentity, if_neg Bool.false_ne_true, Payload.lookup_set, if_pos rfl]

end Frame

/-! ## Local rows stay -/

section Kept

variable {engine : Engine} {db : RequestDb} {requests next : List Row} {item : TableItem}
  {bound : Payload} {fields : Fields} {id : Int} {value stored recordId : Value}
  {statement : Statement} {row : Row}

theorem FromPeer.home_ne (h : FromPeer engine requests item)
    (hrejected : item.rejected engine .offerRequests = false) :
    serverOf (item.data.get "request_home_server") ≠ some engine.currentServer := by
  intro hhome
  unfold TableItem.rejected at hrejected
  simp only [true_and, Bool.or_eq_false_iff, decide_eq_false_iff_not] at hrejected
  have hsource := h.source
  unfold serverOf at hhome hsource
  unfold offerRequestAuthorityRejection at hrejected
  dsimp only at hrejected
  rw [hhome] at hrejected hsource
  cases hgiven : item.source with
  | none =>
    rw [hgiven] at hrejected
    exact hrejected.1 rfl
  | some source =>
    rw [hgiven] at hrejected hsource
    by_cases hsame : source = engine.currentServer
    · exact hsource (congrArg some hsame) rfl
    · dsimp only at hrejected
      rw [if_pos ⟨rfl, hsame⟩] at hrejected
      exact hrejected.1 rfl

theorem truthy_of_accepted (hrejected : item.rejected engine .offerRequests = false) :
    (item.data.get "request_home_server").truthy = true := by
  unfold TableItem.rejected at hrejected
  simp only [true_and, Bool.or_eq_false_iff, decide_eq_false_iff_not] at hrejected
  by_contra hblank
  unfold offerRequestAuthorityRejection at hrejected
  dsimp only at hrejected
  rw [if_neg hblank] at hrejected
  exact hrejected.1 rfl

theorem bindText_eq {fits : String → Bool}
    (h : bindText fits value = some stored) : stored = value := by
  unfold bindText at h
  cases value with
  | null =>
    cases h
    rfl
  | text given =>
    dsimp only at h
    split_ifs at h
    cases h
    rfl
  | bool given => cases h
  | int n => cases h
  | float shown n => cases h
  | other shown => cases h

theorem bound_request (hbound : bindColumns db.bind fields requestColumns = some bound)
    {name : String} (hname : name ∈ ["request_home_server", "idempotency_key"])
    (hfield : fields name = some value) :
    bound.get name = value ∧ db.bind name value = some (bound.get name) := by
  have hcolumn : name ∈ requestColumns := by
    clear hfield
    revert name hname
    decide
  have hbind := bound_get hbound hcolumn hfield
  have htext : db.bind name value = bindText (db.fits name) value := by
    unfold RequestDb.bind
    have hother : name ≠ "version_id" ∧ name ≠ "result_status" := by
      clear hfield hcolumn hbind
      revert name hname
      decide
    rw [if_neg hother.1, if_neg hother.2, if_pos hname]
  rw [htext] at hbind
  exact ⟨bindText_eq hbind, htext.trans hbind⟩

theorem stringOrNone_of_blank
    (hbind : db.bind "idempotency_key" value = some stored) (hblank : value.truthy = false) :
    value.stringOrNone = none := by
  cases value with
  | null => rfl
  | text given =>
    unfold Value.truthy at hblank
    rw [decide_eq_false_iff_not, not_not] at hblank
    rw [hblank]
    decide
  | bool given => cases hbind
  | int n => cases hbind
  | float shown n => cases hbind
  | other shown => cases hbind

/-- An upsert updates the row of the key, without a key that of the id, or adds a row. -/
theorem requests_upsert (h : db.upsert requests fields id bound = some next) :
    (hasRequestKey fields = true ∧ ∃ clause : Row → Bool, next = updateWhere
      (fun row => decide (row.columns.get "request_home_server" = bound.get "request_home_server") &&
        decide (row.columns.get "idempotency_key" = bound.get "idempotency_key") && clause row)
      (fun row => row.update (settableRequest bound)) requests) ∨
    (hasRequestKey fields = false ∧ next = updateWhere (fun row => row.id = id)
      (fun row => row.update bound) requests) ∨
    (∃ proposed : Row, (∀ row ∈ requests, row.id ≠ proposed.id) ∧ next = requests ++ [proposed]) := by
  unfold RequestDb.upsert at h
  dsimp only at h
  cases hkey : hasRequestKey fields with
  | true =>
    rw [hkey, if_pos rfl] at h
    split_ifs at h with hconflict htaken
    · cases h
      exact Or.inl ⟨rfl, _, rfl⟩
    · cases h
      refine Or.inr (Or.inr ⟨_, fun row hrow hid => htaken ?_, rfl⟩)
      exact List.any_eq_true.mpr ⟨row, hrow, decide_eq_true hid⟩
  | false =>
    rw [hkey, if_neg Bool.false_ne_true] at h
    split_ifs at h with htaken
    · cases h
      exact Or.inr (Or.inl ⟨rfl, rfl⟩)
    · cases h
      refine Or.inr (Or.inr ⟨_, fun row hrow hid => htaken ?_, rfl⟩)
      exact List.any_eq_true.mpr ⟨row, hrow, decide_eq_true hid⟩

theorem nodup_upsert (hdistinct : (requests.map Row.id).Nodup)
    (h : db.upsert requests fields id bound = some next) : (next.map Row.id).Nodup := by
  rcases requests_upsert h with ⟨-, clause, rfl⟩ | ⟨-, rfl⟩ | ⟨proposed, hfresh, rfl⟩
  · rw [map_updateWhere]
    · exact hdistinct
    · exact fun _ _ _ => rfl
  · rw [map_updateWhere]
    · exact hdistinct
    · exact fun _ _ _ => rfl
  · rw [List.map_append, List.nodup_append]
    refine ⟨hdistinct, List.nodup_singleton _, ?_⟩
    intro id hid other hother
    obtain ⟨row, hrow, rfl⟩ := List.mem_map.mp hid
    rw [List.mem_singleton.mp hother]
    exact hfresh row hrow

theorem request_upsert_keeps {rows : Rows} (hpeer : FromPeer engine requests item)
    (hstatement : item.statement engine .offerRequests requests = some statement)
    (hbound : bindColumns db.bind (requestFields statement) requestColumns = some bound)
    (hid : db.givenId rows (requestFields statement) = some (.int id))
    (h : db.upsert requests (requestFields statement) id bound = some next)
    (hrow : row ∈ requests) (hlocal : row.isHomeOf engine.currentServer) : row ∈ next := by
  obtain ⟨hrejected, hoperation, hframe, hnumber⟩ := request_statement hstatement
  have hfield : ∀ name ∈ ["request_home_server", "idempotency_key"],
      requestFields statement name = item.data.lookup name := by
    intro name hname
    rw [← hframe name hname]
    unfold requestFields
    rw [if_pos (Or.inr _)]
    clear hframe
    revert name hname
    decide
  have hget : ∀ name ∈ ["request_home_server", "idempotency_key"],
      Fields.get (requestFields statement) name = item.data.get name := by
    intro name hname
    unfold Fields.get Payload.get
    rw [hfield name hname]
  rcases requests_upsert h with ⟨hkey, clause, rfl⟩ | ⟨hkey, rfl⟩ | ⟨proposed, -, rfl⟩
  · -- The row of the item's key has the item's home.
    apply mem_updateWhere_of_not_admitted hrow
    rw [Bool.and_eq_false_iff, Bool.and_eq_false_iff]
    refine Or.inl (Or.inl (decide_eq_false fun hsame => hpeer.home_ne hrejected ?_))
    unfold hasRequestKey at hkey
    rw [Bool.and_eq_true, hget _ (by simp)] at hkey
    obtain ⟨home, hhome⟩ : ∃ home, item.data.lookup "request_home_server" = some home := by
      cases hlookup : item.data.lookup "request_home_server" with
      | some home => exact ⟨home, rfl⟩
      | none =>
        unfold Payload.get at hkey
        rw [hlookup] at hkey
        cases hkey.1
    obtain ⟨hequal, -⟩ := bound_request hbound (by simp) ((hfield _ (by simp)).trans hhome)
    unfold Row.isHomeOf at hlocal
    rw [hsame, hequal] at hlocal
    unfold Payload.get
    rw [hhome]
    exact hlocal
  · apply mem_updateWhere_of_not_admitted hrow
    refine decide_eq_false fun hsame => ?_
    unfold hasRequestKey at hkey
    rw [hget _ (by simp), hget _ (by simp), truthy_of_accepted hrejected, Bool.true_and] at hkey
    have hnone : (item.data.get "idempotency_key").stringOrNone = none := by
      cases hlookup : item.data.lookup "idempotency_key" with
      | none =>
        unfold Payload.get
        rw [hlookup]
        rfl
      | some given =>
        obtain ⟨-, hbind⟩ := bound_request hbound (by simp) ((hfield _ (by simp)).trans hlookup)
        unfold Payload.get at hkey ⊢
        rw [hlookup, Option.getD_some] at hkey ⊢
        exact stringOrNone_of_blank hbind hkey
    apply hpeer.numbered hkey hoperation hrejected row hrow hlocal
    have hgiven : requestFields statement "id" = some item.recordId := hnumber hnone
    unfold RequestDb.givenId at hid
    rw [hgiven] at hid
    rw [hsame]
    exact hid
  · exact List.mem_append_left _ hrow

theorem request_execute_keeps (hpeer : FromPeer engine requests item)
    (hdistinct : (requests.map Row.id).Nodup)
    (hstatement : item.statement engine .offerRequests requests = some statement) :
    ((((db.execute (item.rows .offerRequests requests) statement).1 .offerRequests).map
      Row.id).Nodup) ∧
    ∀ row ∈ requests, row.isHomeOf engine.currentServer →
      row ∈ (db.execute (item.rows .offerRequests requests) statement).1 .offerRequests := by
  have hself := rows_self item .offerRequests requests
  have hkept : ∀ result : ApplyResult,
      ((((item.rows .offerRequests requests, result) : Rows × ApplyResult).1 .offerRequests).map
        Row.id).Nodup ∧
      ∀ row ∈ requests, row.isHomeOf engine.currentServer →
        row ∈ ((item.rows .offerRequests requests, result) : Rows × ApplyResult).1
          .offerRequests := by
    intro result
    dsimp only
    rw [hself]
    exact ⟨hdistinct, fun _ hrow _ => hrow⟩
  unfold RequestDb.execute
  dsimp only
  cases hbound : bindColumns db.bind (requestFields statement) requestColumns with
  | none => exact hkept _
  | some bound =>
    cases hid : db.givenId (item.rows .offerRequests requests) (requestFields statement) with
    | none => exact hkept _
    | some given =>
      dsimp only
      split_ifs
      · exact hkept _
      · split
        · exact hkept _
        · exact hkept _
        · rename_i id _
          rw [hself]
          cases hwritten : db.upsert requests (requestFields statement) id bound with
          | none => exact hkept _
          | some written =>
            dsimp only
            rw [put_self]
            exact ⟨nodup_upsert hdistinct hwritten, fun row hrow hlocal =>
              request_upsert_keeps hpeer hstatement hbound hid hwritten hrow hlocal⟩
        · exact hkept _

theorem request_target (h : item.target engine .offerRequests requests = .record recordId) :
    ∃ home key found, (item.data.get "request_home_server").stringOrNone = some home ∧
      requests.find? (fun row => row.columns.get "request_home_server" = .text home ∧
        row.columns.get "idempotency_key" = .text key) = some found ∧
      recordId = .int found.id := by
  unfold TableItem.target deleteTarget resolveLocalRecordIdByPublicIdentity
    resolveByTableIdentity at h
  dsimp only [localizeRecordId, naturalKeys] at h
  rw [if_neg (by decide), rows_self] at h
  cases hhome : (item.data.get "request_home_server").stringOrNone with
  | none =>
    rw [hhome] at h
    cases h
  | some home =>
    cases hkey : (item.data.get "idempotency_key").stringOrNone with
    | none =>
      rw [hhome, hkey] at h
      cases h
    | some key =>
      rw [hhome, hkey] at h
      unfold idWhereBoth at h
      dsimp only at h
      cases hfind : requests.find? (fun row => row.columns.get "request_home_server" = .text home ∧
          row.columns.get "idempotency_key" = .text key) with
      | none =>
        rw [hfind] at h
        cases h
      | some found =>
        rw [hfind] at h
        cases h
        exact ⟨home, key, found, rfl, hfind, rfl⟩

theorem serverOf_strippedText {text : String}
    (htext : value.stringOrNone = some text) (hvalue : value.truthy = true) :
    serverOf value = serverOf (.text text) := by
  have hstrip : nonemptyText (some value.str) = some text := by
    cases value with
    | null => cases hvalue
    | bool _ => exact htext
    | int _ => exact htext
    | float _ _ => exact htext
    | text _ => exact htext
    | other _ => exact htext
  unfold nonemptyText stripOrEmpty at hstrip
  dsimp only at hstrip
  split_ifs at hstrip with hempty
  have hthere : (Value.text text).truthy = true := by
    rw [← Option.some.inj hstrip]
    exact decide_eq_true hempty
  unfold serverOf
  rw [if_pos hvalue, if_pos hthere, ← Option.some.inj hstrip]
  have hsame : ∀ given, knownServer (pyStrip given) = knownServer given := by
    intro given
    unfold knownServer
    rw [pyStrip_pyStrip]
  exact (hsame value.str).symm

theorem request_target_not_local (hpeer : FromPeer engine requests item)
    (hrejected : item.rejected engine .offerRequests = false)
    (hdistinct : (requests.map Row.id).Nodup)
    (htarget : item.target engine .offerRequests requests = .record recordId)
    (hrow : row ∈ requests) (hlocal : row.isHomeOf engine.currentServer) :
    bindInteger 32 recordId ≠ some (.int row.id) := by
  obtain ⟨home, key, found, hhome, hfind, rfl⟩ := request_target htarget
  intro hsame
  have hmem := List.mem_of_find?_eq_some hfind
  have hstored := List.find?_some hfind
  rw [decide_eq_true_eq] at hstored
  have hequal : found = row := by
    apply List.inj_on_of_nodup_map hdistinct hmem hrow
    unfold bindInteger at hsame
    dsimp only at hsame
    split_ifs at hsame
    exact Value.int.inj (Option.some.inj hsame)
  unfold Row.isHomeOf at hlocal
  rw [← hequal, hstored.1] at hlocal
  apply hpeer.home_ne hrejected
  rw [serverOf_strippedText hhome (truthy_of_accepted hrejected)]
  exact hlocal

theorem applyRequest_keeps (hpeer : FromPeer engine requests item)
    (hdistinct : (requests.map Row.id).Nodup) :
    ((applyRequest engine db requests item).map Row.id).Nodup ∧
    ∀ row ∈ requests, row.isHomeOf engine.currentServer →
      row ∈ applyRequest engine db requests item := by
  have hself := rows_self item .offerRequests requests
  have hpeer : FromPeer (engine.withRequests db) requests item := ⟨hpeer.source, hpeer.numbered⟩
  unfold applyRequest
  rcases @TableItem.apply_cases (engine.withRequests db) .offerRequests requests item
      (by decide) (by decide) with ⟨statement, hstatement, heq⟩ | heq |
        ⟨hrejected, id, data, htarget, heq⟩
  · have hexecute : (engine.withRequests db).execute (item.rows .offerRequests requests) statement =
        db.execute (item.rows .offerRequests requests) statement :=
      if_pos (statement_table hstatement)
    rw [heq, hexecute]
    exact @request_execute_keeps (engine.withRequests db) db requests item statement hpeer hdistinct
      hstatement
  · rw [heq]
    exact ⟨hdistinct, fun _ hrow _ => hrow⟩
  · have hdelete : (engine.withRequests db).delete (item.rows .offerRequests requests)
        .offerRequests id data = deleteById db.pinned .offerRequests
          (item.rows .offerRequests requests) id := by
      unfold Engine.withRequests RequestDb.delete
      dsimp only
      exact if_pos rfl
    rw [heq, hdelete]
    rcases deleteById_rows db.pinned .offerRequests (item.rows .offerRequests requests) id with
      hkept | ⟨removed, hid, hremoved⟩
    · rw [hkept, hself]
      exact ⟨hdistinct, fun _ hrow _ => hrow⟩
    · rw [hremoved, hself]
      refine ⟨hdistinct.sublist (List.filter_sublist.map _), fun row hrow hlocal => ?_⟩
      refine List.mem_filter.mpr ⟨hrow, decide_eq_true fun hsame => ?_⟩
      apply request_target_not_local hpeer hrejected hdistinct htarget hrow hlocal
      rw [hsame]
      exact hid

end Kept

/-- In every run of items of the peer, a row of the local server stays as it is. -/
theorem local_request_kept (engine : Engine) (db : RequestDb) (requests : List Row)
    (hdistinct : (requests.map Row.id).Nodup) (items : List TableItem)
    (hpeer : EachStep (applyRequest engine db)
      (fun requests item _ => FromPeer engine requests item) requests items)
    (row : Row) (hrow : row ∈ requests) (hlocal : row.isHomeOf engine.currentServer) :
    row ∈ run (applyRequest engine db) requests items := by
  have hkept : ∀ requests item, ((requests.map Row.id).Nodup ∧ row ∈ requests) →
      FromPeer engine requests item →
      ((applyRequest engine db requests item).map Row.id).Nodup ∧
        row ∈ applyRequest engine db requests item := by
    intro requests item hold hitem
    obtain ⟨hnodup, hstay⟩ := @applyRequest_keeps engine db requests item hitem hold.1
    exact ⟨hnodup, hstay row hold.2 hlocal⟩
  exact (run_invariant (I := fun requests => (requests.map Row.id).Nodup ∧ row ∈ requests)
    hkept items requests ⟨hdistinct, hrow⟩ hpeer).2

instance FromPeer.decidable (engine : Engine) (requests : List Row) (item : TableItem) :
    Decidable (FromPeer engine requests item) :=
  decidable_of_iff (_ ∧ _) ⟨fun h => ⟨h.1, h.2⟩, fun h => ⟨h.source, h.numbered⟩⟩

def openRequestDb : RequestDb where
  fits := fun _ _ => true
  bindOther := fun _ value => some value
  nextId := fun requests => requests.length + 6
  defaults := [("workflow_kind", .text "direct"), ("archived", .bool false)]
  refusal := fun _ _ => none
  pinned := fun _ _ => false

def requestOn (home : String) (key : Value) (status : String) : Payload :=
  [("version_id", .int 2), ("request_home_server", .text home), ("offer_public_id", .text "A"),
   ("request_source_surface", .text "webapp"), ("request_source_server", .text home),
   ("requested_quantity", .int 10), ("idempotency_key", key), ("result_status", .text status)]

def tradedRequest : Row :=
  ⟨5, ("resulting_trade_id", .int 31) :: requestOn "iran" (.text "key") "completed_trade"⟩

def foreignRequest (operation : Operation) (key : Value) : TableItem where
  others := fun _ => []
  operation := operation
  recordId := .int 5
  data := requestOn "foreign" key "rejected_conflict"
  source := some .foreign

/-- The same key and number under the foreign server are another request. -/
theorem same_key_of_peer :
    EachStep (applyRequest iranEngine openRequestDb)
      (fun requests item _ => FromPeer iranEngine requests item) [tradedRequest]
      [foreignRequest .insert (.text "key"), foreignRequest .delete (.text "key")] ∧
    tradedRequest ∈ run (applyRequest iranEngine openRequestDb) [tradedRequest]
      [foreignRequest .insert (.text "key"), foreignRequest .delete (.text "key")] := by
  have hpeer : EachStep (applyRequest iranEngine openRequestDb)
      (fun requests item _ => FromPeer iranEngine requests item) [tradedRequest]
      [foreignRequest .insert (.text "key"), foreignRequest .delete (.text "key")] := by
    decide
  exact ⟨hpeer, local_request_kept iranEngine openRequestDb [tradedRequest] (by decide)
    [foreignRequest .insert (.text "key"), foreignRequest .delete (.text "key")] hpeer tradedRequest
    (List.mem_singleton.mpr rfl) (by decide +kernel)⟩

/-- A request of the foreign server without a key takes over the local row of its number. -/
theorem keyless_request_overwrites :
    tradedRequest.isHomeOf iranEngine.currentServer ∧
    (run (applyRequest iranEngine openRequestDb) [tradedRequest]
      [foreignRequest .insert .null]).map (fun row => (row.id,
        row.columns.get "request_home_server", row.columns.get "result_status")) =
        [(5, .text "foreign", .text "rejected_conflict")] ∧
    tradedRequest ∉ run (applyRequest iranEngine openRequestDb) [tradedRequest]
      [foreignRequest .insert .null] := by
  refine ⟨by decide +kernel, by decide +kernel, by decide +kernel⟩

end TradingBot.Sync
