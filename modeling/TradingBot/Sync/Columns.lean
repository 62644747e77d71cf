import TradingBot.Misc.Sql
import TradingBot.Sync.CompletedTrades

/-!
# Values in columns

How SQL compares the values of columns, how the driver binds them, and what a row holds after
columns were set. An item is applied beside the other tables as they stand.
-/

namespace TradingBot.Sync

open Misc

namespace Value

/-- `value IS NULL`. -/
def isNull (value : Value) : Truth := .known (value = .null)

/-- `left = right`. -/
def sqlEq (left right : Value) : Truth :=
  if left = .null ∨ right = .null then none else .known (left = right)

/-- `left <= right` of integers. -/
def sqlLe : Value → Value → Truth
  | .int left, .int right => .known (left ≤ right)
  | _, _ => none

/-- `left < right` of integers. -/
def sqlLt : Value → Value → Truth
  | .int left, .int right => .known (left < right)
  | _, _ => none

/-- `value IN (...)`. -/
def sqlIn (value : Value) (texts : List String) : Truth :=
  if value = .null then none else .known (∃ text ∈ texts, value = .text text)

/-- `'text' || value`. -/
def sqlPrepend (start : String) : Value → Value
  | .text rest => .text (start ++ rest)
  | _ => .null

end Value

def bindMember (members : List String) : Value → Option Value
  | .null => some .null
  | .text given => if given ∈ members then some (.text given) else none
  | _ => none

def bindText (fits : String → Bool) : Value → Option Value
  | .null => some .null
  | .text given => if fits given then some (.text given) else none
  | _ => none

theorem bindInteger_cases {bits : Nat} {value stored : Value}
    (h : bindInteger bits value = some stored) :
    value = .null ∧ stored = .null ∨ ∃ n, stored = .int n := by
  unfold bindInteger at h
  cases value with
  | null =>
    cases h
    exact Or.inl ⟨rfl, rfl⟩
  | bool given =>
    cases h
    exact Or.inr ⟨_, rfl⟩
  | int n =>
    dsimp only at h
    split_ifs at h
    cases h
    exact Or.inr ⟨_, rfl⟩
  | float shown n =>
    dsimp only at h
    split_ifs at h
    cases h
    exact Or.inr ⟨_, rfl⟩
  | text given => cases h
  | other shown => cases h

theorem bindMember_eq {members : List String} {value stored : Value}
    (h : bindMember members value = some stored) : stored = value := by
  unfold bindMember at h
  cases value with
  | null =>
    cases h
    rfl
  | text given =>
    dsimp only at h
    split_ifs at h
    cases h
    rfl
  | bool given => cases h
  | int n => cases h
  | float shown n => cases h
  | other shown => cases h

theorem get_update_of_not_mem {row : Row} {values : Payload} {key : String}
    (h : ∀ value, (key, value) ∉ values) :
    (row.update values).columns.get key = row.columns.get key := by
  apply foldl_set_get
  intro entry hentry hkey
  refine absurd hentry ?_
  rw [← hkey] at h
  exact h entry.2

theorem get_update_of_mem {key : String} {value : Value} : ∀ {values : Payload} {row : Row},
    (key, value) ∈ values → (∀ other, (key, other) ∈ values → other = value) →
    (row.update values).columns.get key = value := by
  intro values
  induction values with
  | nil =>
    intro row hmem
    cases hmem
  | cons entry values ih =>
    intro row hmem honly
    by_cases hlater : ∃ other, (key, other) ∈ values
    · obtain ⟨other, hother⟩ := hlater
      have heq := honly other (List.mem_cons_of_mem _ hother)
      rw [heq] at hother
      exact @ih ⟨row.id, row.columns.set entry.1 entry.2⟩ hother
        (fun third hthird => honly third (List.mem_cons_of_mem _ hthird))
    · rcases List.mem_cons.mp hmem with rfl | hrest
      · have hkept : ((Row.update ⟨row.id, row.columns.set key value⟩ values).columns).get key =
            (row.columns.set key value).get key :=
          @get_update_of_not_mem ⟨row.id, row.columns.set key value⟩ values key
            (fun other hother => hlater ⟨other, hother⟩)
        refine hkept.trans ?_
        rw [Payload.get_set, if_pos rfl]
      · exact absurd ⟨value, hrest⟩ hlater

theorem exists_mem_bindColumns {bind : String → Value → Option Value} {fields : Fields}
    {key : String} {value : Value} (hfield : fields key = some value) :
    ∀ {columns : List String} {bound : Payload}, bindColumns bind fields columns = some bound →
    key ∈ columns → ∃ stored, (key, stored) ∈ bound := by
  intro columns
  induction columns with
  | nil =>
    intro bound _ hkey
    cases hkey
  | cons column columns ih =>
    intro bound hbound hkey
    unfold bindColumns at hbound
    rcases List.mem_cons.mp hkey with rfl | hrest
    · rw [hfield] at hbound
      obtain ⟨stored, -, htail⟩ := Option.bind_eq_some_iff.mp hbound
      obtain ⟨rest, -, hcons⟩ := Option.bind_eq_some_iff.mp htail
      cases hcons
      exact ⟨stored, List.mem_cons_self⟩
    · cases hcolumn : fields column with
      | none =>
        rw [hcolumn] at hbound
        exact ih hbound hrest
      | some other =>
        rw [hcolumn] at hbound
        obtain ⟨stored, -, htail⟩ := Option.bind_eq_some_iff.mp hbound
        obtain ⟨rest, hlater, hcons⟩ := Option.bind_eq_some_iff.mp htail
        cases hcons
        obtain ⟨found, hfound⟩ := ih hlater hrest
        exact ⟨found, List.mem_cons_of_mem _ hfound⟩

section Bound

variable {bind : String → Value → Option Value} {fields : Fields} {columns : List String}
  {bound values : Payload} {key : String} {row : Row}

theorem get_update_bound (hbound : bindColumns bind fields columns = some bound)
    (hkey : key ∈ columns) (hvalues : ∀ value, (key, value) ∈ values ↔ (key, value) ∈ bound) :
    (row.update values).columns.get key =
      if (fields key).isSome then bound.get key else row.columns.get key := by
  cases hfield : fields key with
  | none =>
    rw [if_neg (by simp)]
    apply get_update_of_not_mem
    intro value hvalue
    obtain ⟨given, hgiven, -⟩ := mem_bindColumns hbound _ ((hvalues value).mp hvalue)
    rw [hfield] at hgiven
    cases hgiven
  | some given =>
    rw [if_pos Option.isSome_some]
    obtain ⟨stored, hstored⟩ := exists_mem_bindColumns hfield hbound hkey
    rw [get_bindColumns hbound hstored]
    apply get_update_of_mem ((hvalues stored).mpr hstored)
    intro other hother
    exact (get_bindColumns hbound ((hvalues other).mp hother)).symm.trans
      (get_bindColumns hbound hstored)

theorem bound_get (hbound : bindColumns bind fields columns = some bound) (hkey : key ∈ columns)
    {given : Value} (hfield : fields key = some given) : bind key given = some (bound.get key) := by
  obtain ⟨stored, hstored⟩ := exists_mem_bindColumns hfield hbound hkey
  obtain ⟨value, hvalue, hbind⟩ := mem_bindColumns hbound _ hstored
  rw [get_bindColumns hbound hstored]
  rw [hfield] at hvalue
  cases hvalue
  exact hbind

end Bound

/-- `DELETE ... WHERE id = record_id` (sync.py:3538), where no other rows depend on the row. -/
def deleteById (pinned : Rows → Value → Bool) (table : Table) (rows : Rows) (recordId : Value) :
    Rows × DeleteResult :=
  match bindInteger 32 recordId with
  | none => (rows, .raised)
  | some id =>
    if pinned rows id then (rows, .failed)
    else (rows.put table ((rows table).filter fun row => Value.int row.id ≠ id), .ok)

theorem put_self (rows : Rows) (table : Table) (new : List Row) : rows.put table new table = new :=
  if_pos rfl

theorem deleteById_rows (pinned : Rows → Value → Bool) (table : Table) (rows : Rows)
    (recordId : Value) :
    (deleteById pinned table rows recordId).1 table = rows table ∨
    ∃ id, bindInteger 32 recordId = some id ∧ (deleteById pinned table rows recordId).1 table =
      (rows table).filter fun row => Value.int row.id ≠ id := by
  unfold deleteById
  cases bindInteger 32 recordId with
  | none => exact Or.inl rfl
  | some id =>
    dsimp only
    split_ifs
    · exact Or.inl rfl
    · refine Or.inr ⟨id, rfl, ?_⟩
      dsimp only
      rw [put_self]

/-! ## Items of one table -/

structure TableItem where
  others : Rows
  operation : Operation
  recordId : Value
  data : Payload
  source : Option Server

namespace TableItem

/-- The rows of all tables when an item of a table is applied. -/
def rows (item : TableItem) (table : Table) (states : List Row) : Rows := item.others.put table states

def apply (engine : Engine) (table : Table) (states : List Row) (item : TableItem) : List Row :=
  (applyItem engine (item.rows table states) table item.operation item.recordId item.data
    item.source).1 table

def rejected (engine : Engine) (table : Table) (item : TableItem) : Bool :=
  decide (table = .offerRequests ∧
    (offerRequestAuthorityRejection engine.currentServer item.data item.source).isSome) ||
  decide (table = .offerPublicationStates ∧
    (offerPublicationAuthorityRejection engine.currentServer item.data item.source).isSome)

def statementFor (item : TableItem) (table : Table) (recordId : Value) (data : Payload) :
    Statement where
  table := table
  operation := item.operation
  recordId := recordId
  source := item.source
  fields := data.fields

def statement (engine : Engine) (table : Table) (states : List Row) (item : TableItem) :
    Option Statement :=
  if item.rejected engine table then none
  else if item.operation = .insert ∨ item.operation = .update then
    match prepare engine (item.rows table states) table item.recordId item.data with
    | (data, .ok recordId) => some (item.statementFor table recordId data)
    | (_, .error _) => none
  else none

def target (engine : Engine) (table : Table) (states : List Row) (item : TableItem) :
    DeleteTarget :=
  deleteTarget engine (item.rows table states) table item.recordId
    (if table = .chatMembers then localizeChatId (item.rows table states) item.data else item.data)

end TableItem

theorem rows_self (item : TableItem) (table : Table) (states : List Row) :
    item.rows table states table = states := put_self _ _ _

section Items

variable {engine : Engine} {table : Table} {states : List Row} {item : TableItem}

theorem statement_table {statement : Statement}
    (h : item.statement engine table states = some statement) : statement.table = table := by
  unfold TableItem.statement at h
  split_ifs at h
  split at h
  · cases h
    rfl
  · cases h

theorem applyUpsert_item (hrejected : item.rejected engine table = false)
    (hoperation : item.operation = .insert ∨ item.operation = .update) :
    (∃ statement, item.statement engine table states = some statement ∧
      (applyUpsert engine (item.rows table states) table item.operation item.recordId item.data
        item.source).1 = (engine.execute (item.rows table states) statement).1) ∨
    (applyUpsert engine (item.rows table states) table item.operation item.recordId item.data
      item.source).1 = item.rows table states := by
  unfold applyUpsert TableItem.statement
  rw [if_neg (Bool.eq_false_iff.mp hrejected), if_pos hoperation]
  rcases prepare engine (item.rows table states) table item.recordId item.data with
    ⟨data, outcome | recordId⟩
  · cases outcome <;> exact Or.inr rfl
  · exact Or.inl ⟨item.statementFor table recordId data, rfl, rfl⟩

theorem TableItem.apply_cases (husers : table ≠ .users) (hsettings : table ≠ .tradingSettings) :
    (∃ statement, item.statement engine table states = some statement ∧
      item.apply engine table states =
        (engine.execute (item.rows table states) statement).1 table) ∨
    item.apply engine table states = states ∨
    (item.rejected engine table = false ∧ ∃ id data, item.target engine table states = .record id ∧
      item.apply engine table states =
        (engine.delete (item.rows table states) table id data).1 table) := by
  have hself : item.rows table states table = states := rows_self item table states
  cases hrejected : item.rejected engine table with
  | true =>
    refine Or.inr (Or.inl ?_)
    unfold TableItem.rejected at hrejected
    simp only [Bool.or_eq_true, decide_eq_true_eq] at hrejected
    unfold TableItem.apply applyItem
    rcases hrejected with hrequest | hpublication
    · rw [if_pos hrequest]
      exact hself
    · rw [if_neg (fun h => by rw [h.1] at hpublication; cases hpublication.1), if_pos hpublication]
      exact hself
  | false =>
    have hwrite := @applyUpsert_item engine table states item hrejected
    have hversioned : applyVersionedUser engine (item.rows table states) table item.operation
        item.recordId item.data item.source = none := if_neg fun h => husers h.1
    unfold TableItem.rejected at hrejected
    simp only [Bool.or_eq_false_iff, decide_eq_false_iff_not] at hrejected
    unfold TableItem.apply applyItem
    rw [if_neg hrejected.1, if_neg hrejected.2, if_neg hsettings]
    cases hoperation : item.operation with
    | insert =>
      rw [hoperation] at hwrite hversioned
      rw [hversioned]
      rcases hwrite (Or.inl rfl) with ⟨statement, hstatement, hexecuted⟩ | hkept
      · exact Or.inl ⟨statement, hstatement, congrFun hexecuted _⟩
      · exact Or.inr (Or.inl ((congrFun hkept _).trans hself))
    | update =>
      rw [hoperation] at hwrite hversioned
      rw [hversioned]
      rcases hwrite (Or.inr rfl) with ⟨statement, hstatement, hexecuted⟩ | hkept
      · exact Or.inl ⟨statement, hstatement, congrFun hexecuted _⟩
      · exact Or.inr (Or.inl ((congrFun hkept _).trans hself))
    | delete =>
      unfold TableItem.target applyDelete
      dsimp only
      generalize (if table = .chatMembers then localizeChatId (item.rows table states) item.data
        else item.data) = data
      cases deleteTarget engine (item.rows table states) table item.recordId data with
      | record id => exact Or.inr (Or.inr ⟨rfl, id, data, rfl, rfl⟩)
      | unidentified => exact Or.inr (Or.inl hself)
      | raised => exact Or.inr (Or.inl hself)
    | unknown => exact Or.inr (Or.inl hself)

end Items

/-- The Iran server, with one table of which more is said elsewhere. -/
def iranEngine : Engine where
  currentServer := .iran
  registrationSyncV2 := false
  bind := fun _ _ value => some value
  resolveUser := fun _ _ _ _ => .missing
  versionedUser := fun _ _ _ _ _ => none
  tradingSettings := fun rows _ => (rows, .ok)
  execute := fun rows _ => (rows, .ok)
  delete := fun rows _ _ _ => (rows, .ok)

end TradingBot.Sync
