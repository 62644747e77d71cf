import TradingBot.Sync.TradeRows

/-!
# Completed trades under sync

Whatever items arrive, a completed trade stays, with its protected fields and its archived flag. The
database itself clears the reference to a deleted offer or user.
-/

namespace TradingBot.Sync

open Misc

def Row.completed (row : Row) : Prop := row.columns.get "status" = .text "completed"

def keptFields : List String := completedTradeProtectedFields ++ completedTradeVisibilityFields

def referenceTable (field : String) : Option Table :=
  if field = "offer_id" then some .offers
  else if field ∈ ["offer_user_id", "responder_user_id", "actor_user_id"] then some .users
  else none

structure Row.KeptBy (cleared : String → Prop) (row row' : Row) : Prop where
  id : row'.id = row.id
  fields : ∀ field ∈ keptFields, row'.columns.get field = row.columns.get field ∨
    (cleared field ∧ row'.columns.get field = .null)

theorem Row.KeptBy.refl (cleared : String → Prop) (row : Row) : row.KeptBy cleared row :=
  ⟨rfl, fun _ _ => Or.inl rfl⟩

variable {field : String} {fields : Fields} {row : Row} {rows : Rows}
  {bind : String → Value → Option Value} {bound data : Payload} {incoming : String → Value}
  {value stored recordId : Value} {statement : Statement} {table : Table}

theorem foldl_set_get : ∀ (values : Payload) {columns : Payload},
    (∀ entry ∈ values, entry.1 = field → entry.2 = columns.get field) →
    (values.foldl (fun (columns : Payload) entry => columns.set entry.1 entry.2) columns).get
      field = columns.get field := by
  intro values
  induction values with
  | nil => exact fun _ => rfl
  | cons entry values ih =>
    intro columns hvalues
    have hset : (columns.set entry.1 entry.2).get field = columns.get field := by
      rw [Payload.get_set]
      by_cases hentry : field = entry.1
      · rw [if_pos hentry]
        exact hvalues entry (List.mem_cons_self) hentry.symm
      · rw [if_neg hentry]
    rw [List.foldl_cons, ih, hset]
    intro other hother hfield
    rw [hset]
    exact hvalues other (List.mem_cons_of_mem _ hother) hfield

theorem mem_bindColumns :
    ∀ {columns : List String} {bound : Payload}, bindColumns bind fields columns = some bound →
    ∀ entry ∈ bound, ∃ value, fields entry.1 = some value ∧ bind entry.1 value = some entry.2 := by
  intro columns
  induction columns with
  | nil =>
    intro bound hbound entry hentry
    cases hbound
    cases hentry
  | cons column columns ih =>
    intro bound hbound entry hentry
    unfold bindColumns at hbound
    cases hfield : fields column with
    | none =>
      rw [hfield] at hbound
      exact ih hbound entry hentry
    | some value =>
      rw [hfield] at hbound
      obtain ⟨stored, hstored, htail⟩ := Option.bind_eq_some_iff.mp hbound
      obtain ⟨rest, hrest, hcons⟩ := Option.bind_eq_some_iff.mp htail
      cases hcons
      rcases List.mem_cons.mp hentry with rfl | hmem
      · exact ⟨value, hfield, hstored⟩
      · exact ih hrest entry hmem

theorem get_bindColumns {columns : List String}
    (hbound : bindColumns bind fields columns = some bound) {entry : String × Value}
    (hentry : entry ∈ bound) : bound.get entry.1 = entry.2 := by
  obtain ⟨value, hfield, hstored⟩ := mem_bindColumns hbound entry hentry
  have hlookup : ∃ found, bound.lookup entry.1 = some found := by
    cases hnone : bound.lookup entry.1 with
    | some found => exact ⟨found, rfl⟩
    | none =>
      rw [List.lookup_eq_none_iff] at hnone
      have hne := hnone entry hentry
      simp at hne
  obtain ⟨found, hfound⟩ := hlookup
  have hmem : (entry.1, found) ∈ bound := by
    obtain ⟨before, after, hsplit, -⟩ := List.lookup_eq_some_iff.mp hfound
    rw [hsplit]
    simp
  obtain ⟨value', hfield', hstored'⟩ := mem_bindColumns hbound _ hmem
  unfold Payload.get
  rw [hfound]
  rw [hfield] at hfield'
  cases hfield'
  rw [hstored] at hstored'
  cases hstored'
  rfl

theorem eq_incoming_of_completedWhere
    (hcompleted : row.completed) (hwhere : completedWhere fields incoming row = true)
    (hfield : field ∈ keptFields) (hhas : (fields field).isSome) :
    row.columns.get field = incoming field := by
  have hstatus : row.notCompleted = false := by
    unfold Row.notCompleted
    rw [hcompleted]
    rfl
  unfold completedWhere at hwhere
  simp only [hstatus, Bool.false_or, Bool.and_eq_true, decide_eq_true_eq, List.all_eq_true,
    Bool.or_eq_true] at hwhere
  obtain ⟨⟨-, hprotected⟩, hvisible⟩ := hwhere
  rcases List.mem_append.mp hfield with hmem | hmem
  · exact hprotected field hmem
  · rcases hvisible field hmem with hnone | hsame
    · rw [Option.isNone_iff_eq_none] at hnone
      rw [hnone] at hhas
      cases hhas
    · exact hsame

theorem updateTrades_keeps {number : Value}
    {values : Payload} {trades : List Row} (hrow : row ∈ trades) (hcompleted : row.completed)
    (hvalues : ∀ entry ∈ values, entry.1 ∈ keptFields →
      (fields entry.1).isSome ∧ entry.2 = incoming entry.1) (cleared : String → Prop) :
    ∃ row' ∈ updateTrades number (completedWhere fields incoming) values trades,
      row.KeptBy cleared row' := by
  refine ⟨_, List.mem_map_of_mem hrow, ?_⟩
  by_cases hadmitted : row.columns.get "trade_number" = number ∧
      completedWhere fields incoming row
  · rw [if_pos hadmitted]
    refine ⟨rfl, fun field hfield => Or.inl ?_⟩
    apply foldl_set_get
    rintro entry hentry rfl
    obtain ⟨hhas, hequal⟩ := hvalues entry hentry hfield
    rw [hequal]
    exact (eq_incoming_of_completedWhere hcompleted hadmitted.2 hfield hhas).symm
  · rw [if_neg hadmitted]
    exact Row.KeptBy.refl cleared row

/-! ## Statements -/

theorem bindEnum_member : ∀ column ∈ ["status", "trade_type", "settlement_type"],
    ∀ member ∈ enumMembers column, ∀ given ∈ [member, member.toUpper],
      bindEnum (enumMembers column) (tradeSqlValueForField column (.text given)) =
        bindEnum (enumMembers column) (.text given) := by
  decide +kernel

theorem bindEnum_tradeSqlValue {column : String}
    (hcolumn : column ∈ ["status", "trade_type", "settlement_type"])
    (hstored : bindEnum (enumMembers column) value = some stored) :
    bindEnum (enumMembers column) (tradeSqlValueForField column value) = some stored := by
  cases value with
  | null =>
    have hnull : tradeSqlValueForField column .null = .null := by
      simp only [List.mem_cons, List.not_mem_nil, or_false] at hcolumn
      rcases hcolumn with rfl | rfl | rfl <;> decide +kernel
    rw [hnull]
    exact hstored
  | text given =>
    obtain ⟨member, hmember, -⟩ := Option.map_eq_some_iff.mp hstored
    have hgiven := List.find?_some hmember
    have hmem := List.mem_of_find?_eq_some hmember
    rw [decide_eq_true_eq] at hgiven
    rw [bindEnum_member column hcolumn member hmem given (by simpa using hgiven)]
    exact hstored
  | bool b => cases hstored
  | int n => cases hstored
  | float shown truncated => cases hstored
  | other shown => cases hstored

theorem bindTrade_tradeSqlValue (store : Store) (hfield : field ∈ completedTradeProtectedFields)
    (hstored : store.bindTrade field value = some stored) :
    store.bindTrade field (tradeSqlValueForField field value) = some stored := by
  by_cases henum : field ∈ ["status", "trade_type", "settlement_type"]
  · have hbind : ∀ value, store.bindTrade field value = bindEnum (enumMembers field) value := by
      intro value
      simp only [List.mem_cons, List.not_mem_nil, or_false] at henum
      rcases henum with rfl | rfl | rfl <;> rfl
    rw [hbind] at hstored ⊢
    exact bindEnum_tradeSqlValue henum hstored
  · have hplain : tradeSqlValueForField field value = value := by
      have hmembers : enumMembers field = [] := by
        unfold completedTradeProtectedFields at hfield
        simp only [List.mem_cons, List.not_mem_nil, or_false, not_or] at hfield henum
        rcases hfield with rfl | rfl | rfl | rfl | rfl | rfl | rfl | rfl | rfl | rfl | rfl <;>
          simp_all [enumMembers]
      unfold tradeSqlValueForField
      rw [hmembers, if_neg (by simp)]
    rw [hplain]
    exact hstored

theorem mergeTrade_keeps (store : Store)
    (hbound : bindColumns store.bindTrade statement.fields tradeColumns = some bound)
    (hrow : row ∈ rows .trades) (hcompleted : row.completed) (cleared : String → Prop) :
    ∃ row' ∈ (store.mergeTrade rows statement bound).1 .trades, row.KeptBy cleared row' := by
  have hsame : ∃ row' ∈ rows .trades, row.KeptBy cleared row' :=
    ⟨row, hrow, Row.KeptBy.refl cleared row⟩
  unfold Store.mergeTrade
  dsimp only
  split
  · exact hsame
  · exact hsame
  · split
    · exact hsame
    · split
      · exact hsame
      · split
        · apply updateTrades_keeps hrow hcompleted
          intro entry hentry hfield
          obtain ⟨value, hvalue, hstored⟩ :=
            mem_bindColumns hbound entry (List.mem_filter.mp hentry).1
          have hcolumn : entry.1 ∈ tradeColumns := by
            have hsub : ∀ field ∈ keptFields, field ∈ tradeColumns := by decide
            exact hsub entry.1 hfield
          have hget : Fields.get (fun key =>
              if key ∈ tradeColumns then statement.fields key else none) entry.1 = value := by
            unfold Fields.get
            dsimp only
            rw [if_pos hcolumn, hvalue]
            rfl
          rw [if_pos hcolumn, hvalue, hget]
          refine ⟨rfl, ?_⟩
          by_cases hprotected : entry.1 ∈ completedTradeProtectedFields
          · rw [if_pos hprotected, bindTrade_tradeSqlValue store hprotected hstored]
            rfl
          · rw [if_neg hprotected, hstored]
            rfl
        · exact hsame

theorem executeTrade_keeps (store : Store)
    (hrow : row ∈ rows .trades) (hcompleted : row.completed) (cleared : String → Prop) :
    ∃ row' ∈ (store.executeTrade rows statement).1 .trades, row.KeptBy cleared row' := by
  have hsame : ∃ row' ∈ rows .trades, row.KeptBy cleared row' :=
    ⟨row, hrow, Row.KeptBy.refl cleared row⟩
  unfold Store.executeTrade
  split
  · exact hsame
  · exact hsame
  · cases hbound : bindColumns store.bindTrade statement.fields tradeColumns with
    | none => exact hsame
    | some bound =>
      dsimp only
      split
      · exact hsame
      · split
        · exact hsame
        · exact hsame
        · exact mergeTrade_keeps store hbound hrow hcompleted cleared
        · split
          · split
            · apply updateTrades_keeps hrow hcompleted
              intro entry hentry hfield
              have hmem := (List.mem_filter.mp hentry).1
              obtain ⟨value, hvalue, -⟩ := mem_bindColumns hbound entry hmem
              rw [hvalue]
              exact ⟨rfl, (get_bindColumns hbound hmem).symm⟩
            · exact hsame
          · split
            · exact mergeTrade_keeps store hbound hrow hcompleted cleared
            · exact ⟨row, List.mem_append_left _ hrow, Row.KeptBy.refl cleared row⟩

theorem deleteTrade_keeps (store : Store)
    (hrow : row ∈ rows .trades) (hcompleted : row.completed) (cleared : String → Prop) :
    ∃ row' ∈ (store.deleteTrade rows recordId data).1 .trades, row.KeptBy cleared row' := by
  have hsame : ∃ row' ∈ rows .trades, row.KeptBy cleared row' :=
    ⟨row, hrow, Row.KeptBy.refl cleared row⟩
  have hstatus : row.notCompleted = false := by
    unfold Row.notCompleted
    rw [hcompleted]
    rfl
  unfold Store.deleteTrade
  split
  · exact hsame
  · split
    · exact hsame
    · split
      · exact hsame
      · dsimp only
        split
        · exact hsame
        · split
          · exact hsame
          · refine ⟨row, List.mem_filter.mpr ⟨hrow, ?_⟩, Row.KeptBy.refl cleared row⟩
            rw [hstatus, Bool.and_false]
            rfl

theorem clear_get (field : String) (id : Value) : ∀ (columns : List String) (data : Payload),
    (columns.foldl (fun (data : Payload) column =>
        if data.get column = id then data.set column .null else data) data).get field =
      data.get field ∨
    (field ∈ columns ∧ data.get field = id ∧
      (columns.foldl (fun (data : Payload) column =>
        if data.get column = id then data.set column .null else data) data).get field = .null) := by
  intro columns
  induction columns with
  | nil => exact fun _ => Or.inl rfl
  | cons column columns ih =>
    intro data
    rw [List.foldl_cons]
    by_cases hhit : data.get column = id ∧ field = column
    · -- the column itself, which names the deleted row
      obtain ⟨hid, rfl⟩ := hhit
      rw [if_pos hid]
      have hnull : (data.set field .null).get field = .null := by
        rw [Payload.get_set, if_pos rfl]
      refine Or.inr ⟨List.mem_cons_self, hid, ?_⟩
      rcases ih (data.set field .null) with hkept | ⟨-, -, hcleared⟩
      · rw [hkept, hnull]
      · exact hcleared
    · have hget : (if data.get column = id then data.set column .null else data).get field =
          data.get field := by
        by_cases hid : data.get column = id
        · rw [if_pos hid, Payload.get_set, if_neg fun hcolumn => hhit ⟨hid, hcolumn⟩]
        · rw [if_neg hid]
      rcases ih (if data.get column = id then data.set column .null else data) with
        hkept | ⟨hmem, hid, hcleared⟩
      · exact Or.inl (hkept.trans hget)
      · exact Or.inr ⟨List.mem_cons_of_mem _ hmem, hget ▸ hid, hcleared⟩

/-! ## Items -/

/-- The item deletes the row of this id that a reference of a trade names. -/
def Clears (store : Store) (rows : Rows) (application : Application) (field : String)
    (value : Value) : Prop :=
  application.operation = .delete ∧ referenceTable field = some application.table ∧
    ∃ id, deleteTarget store.engine rows application.table application.recordId
        application.data = .record id ∧
      store.bind application.table "id" id = some value

theorem referenceTable_of_cleared
    (hfield : field ∈ Store.clearedColumns table) : referenceTable field = some table := by
  cases table <;> simp only [Store.clearedColumns, List.mem_cons, List.not_mem_nil, or_false]
    at hfield
  · rcases hfield with rfl | rfl | rfl <;> rfl
  · subst hfield
    rfl

theorem deleteRow_keeps (store : Store) (hrow : row ∈ rows .trades) (hcompleted : row.completed) :
    ∃ row' ∈ (store.deleteRow rows table recordId data).1 .trades,
      row.KeptBy (fun field => referenceTable field = some table ∧
        store.bind table "id" recordId = some (row.columns.get field)) row' := by
  by_cases htable : table = .trades
  · subst htable
    exact deleteTrade_keeps store hrow hcompleted _
  · have hsame : ∀ cleared, ∃ row' ∈ rows .trades, row.KeptBy cleared row' :=
      fun cleared => ⟨row, hrow, Row.KeptBy.refl cleared row⟩
    unfold Store.deleteRow
    split
    · exact absurd rfl htable
    · cases hbind : store.bind table "id" recordId with
      | none => exact hsame _
      | some id =>
        dsimp only
        cases store.removed rows table id with
        | none => exact hsame _
        | some others =>
          refine ⟨Store.clear (Store.clearedColumns table) id row, List.mem_map_of_mem hrow, rfl,
            fun field _ => ?_⟩
          rcases clear_get field id (Store.clearedColumns table) row.columns with
            hkept | ⟨hmem, hid, hcleared⟩
          · exact Or.inl hkept
          · exact Or.inr ⟨⟨referenceTable_of_cleared hmem, by rw [hid]⟩, hcleared⟩

theorem applyOne_keeps (store : Store) (application : Application)
    (hrow : row ∈ rows .trades) (hcompleted : row.completed) :
    ∃ row' ∈ applyOne store rows application .trades,
      row.KeptBy (fun field => Clears store rows application field (row.columns.get field))
        row' := by
  obtain ⟨table, operation, recordId, data, source⟩ := application
  have hsame : ∀ cleared, ∃ row' ∈ rows .trades, row.KeptBy cleared row' :=
    fun cleared => ⟨row, hrow, Row.KeptBy.refl cleared row⟩
  -- a write to another table
  have hput : ∀ (other : Table) (new : List Row) cleared, other ≠ .trades →
      ∃ row' ∈ rows.put other new .trades, row.KeptBy cleared row' := by
    intro other new cleared hother
    unfold Rows.put
    rw [if_neg (Ne.symm hother)]
    exact hsame cleared
  have hexecute : ∀ statement cleared,
      ∃ row' ∈ (store.engine.execute rows statement).1 .trades, row.KeptBy cleared row' := by
    intro statement cleared
    change ∃ row' ∈ (if statement.table = .trades then store.executeTrade rows statement
      else (rows.put statement.table (store.write rows statement).1,
        (store.write rows statement).2)).1 .trades, _
    by_cases htable : statement.table = .trades
    · rw [if_pos htable]
      exact executeTrade_keeps store hrow hcompleted cleared
    · rw [if_neg htable]
      exact hput _ _ cleared htable
  have hupsert : ∀ operation cleared,
      ∃ row' ∈ (applyUpsert store.engine rows table operation recordId data source).1 .trades,
        row.KeptBy cleared row' := by
    intro operation cleared
    unfold applyUpsert
    split
    · exact hexecute _ cleared
    · exact hsame cleared
    · exact hsame cleared
  have huser : ∀ {operation outcome}, applyVersionedUser store.engine rows table operation recordId
      data source = some outcome →
        ∀ cleared, ∃ row' ∈ outcome.1 .trades, row.KeptBy cleared row' := by
    intro operation outcome huser cleared
    unfold applyVersionedUser at huser
    by_cases hv2 : table = .users ∧ store.engine.registrationSyncV2
    · rw [if_pos hv2] at huser
      obtain ⟨users, -, rfl⟩ := Option.map_eq_some_iff.mp huser
      exact hput .users users.1 cleared (by decide)
    · rw [if_neg hv2] at huser
      cases huser
  unfold applyOne applyItem
  dsimp only
  split
  · exact hsame _
  · split
    · exact hsame _
    · split
      · split
        · exact hput .tradingSettings (store.tradingSettings rows data.fields).1 _ (by decide)
        · exact hsame _
      · cases operation with
        | insert | update =>
          dsimp only
          split
          · exact huser ‹_› _
          · exact hupsert _ _
        | unknown => exact hsame _
        | delete =>
          unfold applyDelete
          dsimp only
          -- the payload of a chat member may be changed first, which names no trade's reference
          generalize hdata : (if table = .chatMembers then localizeChatId rows data else data) =
            payload
          cases htarget : deleteTarget store.engine rows table recordId payload with
          | unidentified => exact hsame _
          | raised => exact hsame _
          | record id =>
            obtain ⟨row', hrow', hkept⟩ : ∃ row' ∈ (store.deleteRow rows table id payload).1 .trades,
                row.KeptBy (fun field => referenceTable field = some table ∧
                  store.bind table "id" id = some (row.columns.get field)) row' :=
              deleteRow_keeps store hrow hcompleted
            refine ⟨row', hrow', hkept.id, fun field hfield => ?_⟩
            rcases hkept.fields field hfield with hequal | ⟨⟨hreference, hbind⟩, hnull⟩
            · exact Or.inl hequal
            · refine Or.inr ⟨⟨rfl, hreference, id, ?_, hbind⟩, hnull⟩
              have hpayload : payload = data := by
                rw [← hdata, if_neg]
                rintro rfl
                unfold referenceTable at hreference
                split at hreference
                · cases hreference
                · split at hreference <;> cases hreference
              rw [← hpayload]
              exact htarget

theorem Row.KeptBy.completed {store : Store} {application : Application}
    {row' : Row} (h : row.KeptBy (fun field =>
      Clears store rows application field (row.columns.get field)) row')
    (hcompleted : row.completed) : row'.completed := by
  rcases h.fields "status" (by decide) with hequal | ⟨⟨-, hreference, -⟩, -⟩
  · exact hequal.trans hcompleted
  · cases hreference

/-- Whatever items are applied, in whatever order, a completed trade stays under its id and keeps
its protected fields and its archived flag; a reference to an offer or a user is kept or, where an
item deletes the row it names, cleared. -/
theorem completed_trade_kept (store : Store) (rows : Rows) (applications : List Application)
    (row : Row) (hrow : row ∈ rows .trades) (hcompleted : row.completed) :
    ∃ row' ∈ run (applyOne store) rows applications .trades, row'.id = row.id ∧
      ∀ field ∈ keptFields, row'.columns.get field = row.columns.get field ∨
        (row'.columns.get field = .null ∧ ∃ before application after,
          applications = before ++ application :: after ∧
          Clears store (run (applyOne store) rows before) application field
            (row.columns.get field)) := by
  induction applications generalizing rows row with
  | nil => exact ⟨row, hrow, rfl, fun _ _ => Or.inl rfl⟩
  | cons application applications ih =>
    obtain ⟨middle, hmiddle, hkept⟩ := applyOne_keeps store application hrow hcompleted
    obtain ⟨row', hrow', hid, hfields⟩ := ih (applyOne store rows application) middle hmiddle
      (hkept.completed hcompleted)
    refine ⟨row', hrow', hid.trans hkept.id, fun field hfield => ?_⟩
    rcases hkept.fields field hfield with hequal | ⟨hclears, hnull⟩
    · rcases hfields field hfield with hlater | ⟨hlater, before, other, after, hsplit, hclears⟩
      · exact Or.inl (hlater.trans hequal)
      · refine Or.inr ⟨hlater, application :: before, other, after, ?_, ?_⟩
        · rw [hsplit]
          rfl
        · rw [hequal] at hclears
          exact hclears
    · refine Or.inr ⟨?_, [], application, applications, rfl, hclears⟩
      rcases hfields field hfield with hlater | ⟨hlater, -⟩
      · rw [hlater, hnull]
      · exact hlater

/-- A store that takes every value as it is and refuses nothing. -/
def plainStore : Store where
  currentServer := .iran
  registrationSyncV2 := false
  bind := fun _ _ value => some value
  resolveUser := fun _ _ _ _ => .missing
  versionedUser := fun _ _ _ _ _ => none
  tradingSettings := fun rows _ => (rows .tradingSettings, .ok)
  write := fun rows statement => (rows statement.table, .ok)
  refusal := fun _ _ => none
  mergeRefused := fun _ _ => false
  nextTradeId := fun rows => (rows .trades).length + 1
  tradeDefaults := [("status", .text "pending"), ("archived", .bool false)]
  removed := fun rows table id =>
    some (rows.put table ((rows table).filter fun row => Value.int row.id ≠ id))

def completedTrade : Row :=
  ⟨1, [("trade_number", .int 10000), ("offer_id", .int 3), ("offer_user_id", .int 5),
    ("status", .text "completed"), ("price", .int 250), ("archived", .bool false)]⟩

def completedRows : Rows
  | .offers => [⟨3, [("offer_public_id", .text "A")]⟩]
  | .trades => [completedTrade]
  | _ => []

def cancelTrade : Application :=
  ⟨.trades, .update, .int 1, [("trade_number", .int 10000), ("status", .text "cancelled")], none⟩

def deleteTradeItem : Application :=
  ⟨.trades, .delete, .int 1, [("trade_number", .int 10000)], none⟩

def deleteOfferItem : Application :=
  ⟨.offers, .delete, .int 8, [("offer_public_id", .text "A")], none⟩

/-- The trade survives all three. -/
theorem completedTrade_survives :
    completedTrade.completed ∧
    ∃ row' ∈ run (applyOne plainStore) completedRows
        [cancelTrade, deleteTradeItem, deleteOfferItem] .trades,
      row'.id = 1 ∧ row'.columns.get "price" = .int 250 := by
  have hcompleted : completedTrade.completed := by
    unfold Row.completed
    decide
  obtain ⟨row', hrow', hid, hfields⟩ := completed_trade_kept plainStore completedRows
    [cancelTrade, deleteTradeItem, deleteOfferItem] completedTrade (List.mem_singleton.mpr rfl)
    hcompleted
  refine ⟨hcompleted, row', hrow', hid, ?_⟩
  rcases hfields "price" (by decide) with hequal | ⟨-, before, application, after, -, -, hclears, -⟩
  · rw [hequal]
    decide
  · cases hclears

/-- Deleting an offer clears the reference of a completed trade to it, a protected field. -/
theorem offer_delete_clears_reference :
    completedTrade ∈ completedRows .trades ∧ completedTrade.completed ∧
    completedTrade.columns.get "offer_id" = .int 3 ∧
    "offer_id" ∈ completedTradeProtectedFields ∧
    (run (applyOne plainStore) completedRows [deleteOfferItem] .trades).map
      (fun row => (row.id, row.columns.get "status", row.columns.get "offer_id")) =
        [(1, .text "completed", .null)] := by
  refine ⟨List.mem_singleton.mpr rfl, ?_, ?_, ?_, ?_⟩
  · unfold Row.completed
    decide
  · decide
  · decide
  · decide

/-! ## Batches -/

section Batches

variable {store : Store} {relay : Item → Bool} {screen : Item → Except String Payload}
  {payloadHash : Table → Operation → Value → Payload → String} {items : List Item}
  {rows rows' rows'' : Rows} {s : BatchState Rows} {pending : Pending}

/-- One of the items deletes from the table that a reference of a trade names. -/
def Deletes (items : List Item) (field : String) : Prop :=
  ∃ item ∈ items, item.operation = .delete ∧ item.table.isSome ∧ item.table = referenceTable field

/-- Every completed trade stays; of its kept fields only references are cleared. -/
def TradesKept (items : List Item) (rows rows' : Rows) : Prop :=
  ∀ row ∈ rows .trades, row.completed →
    ∃ row' ∈ rows' .trades, row'.completed ∧ row.KeptBy (Deletes items) row'

theorem TradesKept.of_eq (h : rows' .trades = rows .trades) : TradesKept items rows rows' := by
  intro row hrow hcompleted
  refine ⟨row, ?_, hcompleted, Row.KeptBy.refl _ row⟩
  rw [h]
  exact hrow

theorem TradesKept.trans (h : TradesKept items rows rows') (h' : TradesKept items rows' rows'') :
    TradesKept items rows rows'' := by
  intro row hrow hcompleted
  obtain ⟨middle, hmiddle, hstill, hkept⟩ := h row hrow hcompleted
  obtain ⟨last, hlast, hend, hkept'⟩ := h' middle hmiddle hstill
  refine ⟨last, hlast, hend, hkept'.id.trans hkept.id, fun field hfield => ?_⟩
  rcases hkept'.fields field hfield with hequal | hcleared
  · rw [hequal]
    exact hkept.fields field hfield
  · exact Or.inr hcleared

theorem TradesKept.mono {more : List Item} (hmore : items ⊆ more)
    (h : TradesKept items rows rows') : TradesKept more rows rows' := by
  intro row hrow hcompleted
  obtain ⟨row', hrow', hend, hid, hfields⟩ := h row hrow hcompleted
  refine ⟨row', hrow', hend, hid, fun field hfield => ?_⟩
  refine (hfields field hfield).imp_right fun ⟨⟨item, hitem, hdeletes⟩, hnull⟩ => ?_
  exact ⟨⟨item, hmore hitem, hdeletes⟩, hnull⟩

theorem tradesKept_applyOne (store : Store) (application : Application)
    (hitem : ∃ item ∈ items, item.operation = application.operation ∧
      item.table = some application.table) :
    TradesKept items rows (applyOne store rows application) := by
  intro row hrow hcompleted
  obtain ⟨row', hrow', hkept⟩ := applyOne_keeps store application hrow hcompleted
  refine ⟨row', hrow', hkept.completed hcompleted, hkept.id, fun field hfield => ?_⟩
  obtain ⟨item, hmem, hoperation, htable⟩ := hitem
  refine (hkept.fields field hfield).imp_right fun ⟨⟨hdelete, hreference, _⟩, hnull⟩ => ?_
  refine ⟨⟨item, hmem, hoperation.trans hdelete, ?_, htable.trans hreference.symm⟩, hnull⟩
  rw [htable]
  rfl

/-- What a pass keeps: the trades so far, and that what it defers are items of the batch. -/
structure PassKept (items : List Item) (rows : Rows) (s : BatchState Rows) : Prop where
  trades : TradesKept items rows s.db
  deferred : ∀ pending ∈ s.deferredItems,
    pending.item ∈ items ∧ pending.item.table = some pending.table

theorem passKept_settle (context : Option SyncWatermarkContext)
    (h : PassKept items rows s) : PassKept items rows (s.settle context) := by
  cases context <;> exact ⟨h.trades, h.deferred⟩

theorem passKept_attempt {unsettled : BatchState Rows → Pending → ApplyResult → BatchState Rows}
    (hunsettled : ∀ (s : BatchState Rows) pending result, PassKept items rows s →
      pending.item ∈ items → pending.item.table = some pending.table →
        PassKept items rows (unsettled s pending result))
    (hmem : pending.item ∈ items) (htable : pending.item.table = some pending.table)
    (h : PassKept items rows s) :
    PassKept items rows
      (attempt (receiver store.engine relay screen payloadHash) unsettled s pending) := by
  unfold attempt
  cases evaluateSyncWatermark s.watermarks pending.context with
  | stale => exact ⟨h.trades, h.deferred⟩
  | duplicate => exact ⟨h.trades, h.deferred⟩
  | conflict => exact ⟨h.trades, h.deferred⟩
  | apply =>
    have happlied := h.trades.trans (tradesKept_applyOne store
      ⟨pending.table, pending.item.operation, pending.item.id, pending.data,
        applyArgs (receiver store.engine relay screen payloadHash) pending⟩
      ⟨pending.item, hmem, rfl, htable⟩)
    simp only [applyOne, conclude, receiver] at happlied ⊢
    generalize applyItem store.engine s.db pending.table pending.item.operation pending.item.id
      pending.data _ = outcome at happlied ⊢
    obtain ⟨rows', left, result⟩ := outcome
    have hkept : PassKept items rows { s with db := rows' } := ⟨happlied, h.deferred⟩
    cases result with
    | ok => exact passKept_settle _ hkept
    | ignored => exact passKept_settle _ hkept
    | deferred => exact hunsettled _ _ _ hkept hmem htable
    | failed => exact hunsettled _ _ _ hkept hmem htable
    | raised => exact hunsettled _ _ _ hkept hmem htable

theorem passKept_firstPass {item : Item} (hmem : item ∈ items) (h : PassKept items rows s) :
    PassKept items rows (firstPass (receiver store.engine relay screen payloadHash) s item) := by
  unfold firstPass
  split
  · split <;> exact ⟨h.trades, h.deferred⟩
  · split
    · exact ⟨h.trades, h.deferred⟩
    · exact ⟨h.trades, h.deferred⟩
    · rename_i data table _ htable
      refine passKept_attempt ?_ hmem htable h
      intro s pending result h hmem htable
      cases result with
      | deferred =>
        refine ⟨h.trades, fun other hother => ?_⟩
        rcases List.mem_append.mp hother with hold | hnew
        · exact h.deferred other hold
        · rw [List.mem_singleton.mp hnew]
          exact ⟨hmem, htable⟩
      | ok | ignored | failed | raised => exact ⟨h.trades, h.deferred⟩

theorem passKept_secondPass (hmem : pending.item ∈ items)
    (htable : pending.item.table = some pending.table) (h : PassKept items rows s) :
    PassKept items rows
      (secondPass (receiver store.engine relay screen payloadHash) s pending) := by
  refine passKept_attempt ?_ hmem htable h
  intro s pending result h _ _
  cases result <;> exact ⟨h.trades, h.deferred⟩

theorem tradesKept_receive (store : Store) (relay : Item → Bool)
    (screen : Item → Except String Payload)
    (payloadHash : Table → Operation → Value → Payload → String) (state : State Rows) (batch : Batch) :
    TradesKept batch.items state.db
      (receive (receiver store.engine relay screen payloadHash) state batch).db := by
  unfold receive
  split
  · unfold receiveSyncData
    dsimp only
    generalize hfirst : (sortItems batch.items).foldl
      (firstPass (receiver store.engine relay screen payloadHash)) { state with } = first
    have hkept : PassKept batch.items state.db first := by
      rw [← hfirst]
      refine List.foldlRecOn _ _ ⟨TradesKept.of_eq rfl, fun _ h => nomatch h⟩ ?_
      exact fun s h item hitem => passKept_firstPass ((List.mergeSort_perm _ _).subset hitem) h
    have hsecond : PassKept batch.items state.db (first.deferredItems.foldl
        (secondPass (receiver store.engine relay screen payloadHash))
        { first with deferredItems := [] }) := by
      refine List.foldlRecOn _ _ ⟨hkept.trades, fun _ h => nomatch h⟩ ?_
      intro s h pending hpending
      obtain ⟨hmem, htable⟩ := hkept.deferred pending hpending
      exact passKept_secondPass hmem htable h
    exact hsecond.trades
  · exact TradesKept.of_eq rfl

/-- The receiver with what it does after its passes and before its commit: the rollout of the
mandatory channel and the notices of deleted users. -/
def receiveAndRollOut (receiver : Receiver Rows) (rollOut : Batch → Rows → Rows) (state : State Rows)
    (batch : Batch) : State Rows :=
  let received := receive receiver state batch
  if batch.committed then { received with db := rollOut batch received.db } else received

/-- Whatever batches are received, in whatever order and however often, a completed trade stays
under its id with its protected fields and its archived flag; a reference is cleared only where an
item deletes from the table it names. -/
theorem batches_keep_completed_trades (store : Store) (relay : Item → Bool)
    (screen : Item → Except String Payload)
    (payloadHash : Table → Operation → Value → Payload → String) (rollOut : Batch → Rows → Rows)
    (hrollOut : ∀ batch rows table, table ∉ [.chats, .chatMembers, .telegramNotificationOutbox] →
      rollOut batch rows table = rows table) (state : State Rows) (batches : List Batch) :
    TradesKept (batches.flatMap Batch.items) state.db
      (run (receiveAndRollOut (receiver store.engine relay screen payloadHash) rollOut) state
        batches).db := by
  induction batches generalizing state with
  | nil => exact TradesKept.of_eq rfl
  | cons batch batches ih =>
    rw [List.flatMap_cons]
    have hone : TradesKept batch.items state.db (receiveAndRollOut
        (receiver store.engine relay screen payloadHash) rollOut state batch).db := by
      have hreceived := tradesKept_receive store relay screen payloadHash state batch
      simp only [receiveAndRollOut]
      split
      · exact hreceived.trans (TradesKept.of_eq (hrollOut batch _ .trades (by decide)))
      · exact hreceived
    exact (hone.mono (List.subset_append_left _ _)).trans
      ((ih _).mono (List.subset_append_right _ _))

end Batches

def asItem (application : Application) : Item where
  table := some application.table
  operation := application.operation
  id := application.recordId
  data := application.data

/-- The trade survives a batch with all three items, after which a channel is made, and its repetition. -/
theorem completedTrade_survives_batches :
    let batch : Batch := ⟨[cancelTrade, deleteTradeItem, deleteOfferItem].map asItem, true⟩
    completedTrade.completed ∧
    ∃ row' ∈ (run (receiveAndRollOut
        (receiver plainStore.engine (fun _ => true) (fun item => .ok item.data) fun _ _ _ _ => "")
        fun _ rows => rows.put .chats [⟨1, []⟩]) ⟨completedRows, fun _ => none, []⟩
        [batch, batch]).db .trades,
      row'.id = 1 ∧ row'.columns.get "price" = .int 250 := by
  intro batch
  have hcompleted : completedTrade.completed := by
    unfold Row.completed
    decide
  obtain ⟨row', hrow', -, hid, hfields⟩ := batches_keep_completed_trades plainStore (fun _ => true)
    (fun item => .ok item.data) (fun _ _ _ _ => "") (fun _ rows => rows.put .chats [⟨1, []⟩])
    (fun _ rows table htable => if_neg fun hchats => htable (by rw [hchats]; decide))
    ⟨completedRows, fun _ => none, []⟩ [batch, batch] completedTrade (List.mem_singleton.mpr rfl)
    hcompleted
  refine ⟨hcompleted, row', hrow', hid, ?_⟩
  rcases hfields "price" (by decide) with hequal | ⟨⟨item, -, -, htable, hreference⟩, -⟩
  · rw [hequal]
    decide
  · rw [hreference] at htable
    cases htable

end TradingBot.Sync
