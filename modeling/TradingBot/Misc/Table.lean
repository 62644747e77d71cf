import Mathlib.Data.List.AList
import Mathlib.Data.List.MinMax

/-!
# Tables and queries

Tables of rows under a key, and the query for the first row in an order: what a table holds after a
write, and that the row taken is asked for and comes before every other. An operation that may raise
has returned only if each of its parts has.
-/

namespace TradingBot.Misc

section Table

variable {α β : Type} [DecidableEq α]

theorem lookup_insert (table : AList fun _ : α => β) (key other : α) (row : β) :
    (table.insert key row).lookup other =
      if other = key then some row else table.lookup other := by
  by_cases h : other = key
  · subst h
    rw [if_pos rfl]
    exact AList.lookup_insert table
  · rw [if_neg h]
    exact AList.lookup_insert_ne h

theorem lookup_eq_some_iff {table : AList fun _ : α => β} {key : α} {row : β} :
    table.lookup key = some row ↔ (⟨key, row⟩ : Sigma fun _ : α => β) ∈ table.entries :=
  AList.mem_lookup_iff

theorem filter_insert_sublist (table : AList fun _ : α => β) (key : α) (row : β)
    (p : (Sigma fun _ : α => β) → Bool) (hrow : p ⟨key, row⟩ = false) :
    ((table.insert key row).entries.filter p).Sublist (table.entries.filter p) := by
  rw [AList.entries_insert, List.filter_cons_of_neg (by rw [hrow]; exact Bool.false_ne_true)]
  exact (List.kerase_sublist key table.entries).filter p

theorem update_eq_some {table : α → Option β} {key other : α} {next : Option β} {row : β}
    (h : Function.update table key next other = some row) :
    other = key ∧ next = some row ∨ other ≠ key ∧ table other = some row := by
  by_cases hsame : other = key
  · subst hsame
    rw [Function.update_self] at h
    exact .inl ⟨rfl, h⟩
  · rw [Function.update_of_ne hsame] at h
    exact .inr ⟨hsame, h⟩

end Table

theorem except_bind_eq_ok {ε α β : Type} {first : Except ε α} {next : α → Except ε β} {result : β} :
    (first >>= next) = .ok result ↔ ∃ value, first = .ok value ∧ next value = .ok result := by
  cases first with
  | error error =>
    constructor
    · intro h
      cases h
    · rintro ⟨value, h, -⟩
      cases h
  | ok value =>
    constructor
    · intro h
      exact ⟨value, rfl, h⟩
    · rintro ⟨value', h, hresult⟩
      cases h
      exact hresult

theorem except_bind_eq_error {ε α β : Type} {first : Except ε α} {next : α → Except ε β} {error : ε} :
    (first >>= next) = .error error ↔
      first = .error error ∨ ∃ value, first = .ok value ∧ next value = .error error := by
  cases first with
  | error found =>
    constructor
    · intro h
      cases h
      exact .inl rfl
    · rintro (h | ⟨value, h, -⟩)
      · cases h
        rfl
      · cases h
  | ok found =>
    constructor
    · intro h
      exact .inr ⟨found, rfl, h⟩
    · rintro (h | ⟨value, h, hnext⟩)
      · cases h
      · cases h
        exact hnext

section FirstBy

variable {α : Type} {before : α → α → Bool}

def firstBy (before : α → α → Bool) (rows : List α) : Option α :=
  rows.foldl (List.argAux fun row best => before row best = true) none

theorem firstBy_append_singleton (rows : List α) (row : α) :
    firstBy before (rows ++ [row]) =
      match firstBy before rows with
      | none => some row
      | some best => if before row best = true then some row else some best := by
  unfold firstBy
  rw [List.foldl_append]
  cases List.foldl (List.argAux fun row best => before row best = true) none rows <;> rfl

theorem mem_of_firstBy {rows : List α} {first : α} (h : firstBy before rows = some first) :
    first ∈ rows := by
  induction rows using List.reverseRecOn with
  | nil => cases h
  | append_singleton rows row ih =>
    rw [firstBy_append_singleton] at h
    cases hbest : firstBy before rows with
    | none =>
      rw [hbest] at h
      rw [Option.some.inj h]
      exact List.mem_append_right _ (List.mem_singleton_self _)
    | some best =>
      rw [hbest] at h ih
      dsimp only at h
      split at h
      · rw [Option.some.inj h]
        exact List.mem_append_right _ (List.mem_singleton_self _)
      · exact List.mem_append_left _ (ih h)

theorem not_before_of_firstBy (hirrefl : ∀ row, before row row = false)
    (htrans : ∀ first second third, before first second = true → before second third = true →
      before first third = true) {rows : List α} {first row : α}
    (h : firstBy before rows = some first) (hmem : row ∈ rows) : before row first = false := by
  rw [Bool.eq_false_iff]
  refine List.not_of_mem_foldl_argAux (fun row best => before row best = true) ⟨?_⟩ ⟨?_⟩ hmem h
  · intro row hrow
    rw [hirrefl row] at hrow
    cases hrow
  · exact htrans

end FirstBy

section Position

variable {α β : Type} {rows : List α} {index : Nat} {row new : α} {key : α → β}

theorem map_set_of_key (hrow : rows[index]? = some row) (hkey : key new = key row) :
    (rows.set index new).map key = rows.map key := by
  refine List.ext_getElem? fun position => ?_
  rw [List.getElem?_map, List.getElem?_map, List.getElem?_set]
  by_cases hsame : index = position
  · subst hsame
    rw [if_pos rfl, hrow, if_pos (List.getElem?_eq_some_iff.mp hrow).1]
    exact congrArg some hkey
  · rw [if_neg hsame]

theorem mem_set_of_key (hnodup : (rows.map key).Nodup) (hrow : rows[index]? = some row) {other : α} :
    other ∈ rows.set index new ↔ other = new ∨ (other ∈ rows ∧ key other ≠ key row) := by
  obtain ⟨hindex, hget⟩ := List.getElem?_eq_some_iff.mp hrow
  constructor
  · intro hother
    obtain ⟨position, hposition, hset⟩ := List.mem_iff_getElem.mp hother
    rw [List.getElem_set] at hset
    by_cases hsame : index = position
    · rw [if_pos hsame] at hset
      exact .inl hset.symm
    · rw [if_neg hsame] at hset
      have hin : position < rows.length := by rwa [List.length_set] at hposition
      refine .inr ⟨hset ▸ List.getElem_mem hin, ?_⟩
      intro hkey
      have hkeys : (rows.map key)[position]? = (rows.map key)[index]? := by
        rw [List.getElem?_map, List.getElem?_map, hrow, List.getElem?_eq_getElem hin, hset]
        exact congrArg some hkey
      exact hsame ((List.getElem?_inj (by rwa [List.length_map]) hnodup).mp hkeys).symm
  · rintro (hnew | ⟨hother, hkey⟩)
    · rw [hnew]
      exact List.mem_set hindex new
    · obtain ⟨position, hposition, hposition'⟩ := List.mem_iff_getElem.mp hother
      have hne : index ≠ position := by
        intro hsame
        subst hsame
        rw [hget] at hposition'
        exact hkey (congrArg key hposition'.symm)
      have hset : (rows.set index new)[position]? = some other := by
        rw [List.getElem?_set_ne hne]
        exact List.getElem?_eq_some_iff.mpr ⟨hposition, hposition'⟩
      exact List.mem_of_getElem? hset

end Position

end TradingBot.Misc
