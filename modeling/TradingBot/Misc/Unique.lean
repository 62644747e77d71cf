import Mathlib.Data.List.Pairwise
import Mathlib.Data.List.Nodup

/-!
# Unique columns

A column that may be empty and in which no value stands twice: the row of a value, what an insert
needs, and which writes keep it unique.
-/

namespace TradingBot.Misc

variable {α β : Type} {key : α → Option β} {rows : List α}

/-- No two rows have one value in the column; rows without a value do not count. -/
def UniqueKey (key : α → Option β) (rows : List α) : Prop := (rows.filterMap key).Nodup

instance [DecidableEq β] : Decidable (UniqueKey key rows) :=
  inferInstanceAs (Decidable (rows.filterMap key).Nodup)

theorem UniqueKey.eq (h : UniqueKey key rows) {row other : α} {value : β} (hrow : row ∈ rows)
    (hother : other ∈ rows) (hvalue : key row = some value) (hsame : key other = some value) :
    row = other := by
  by_contra hne
  rw [UniqueKey, List.Nodup, List.pairwise_filterMap] at h
  have hsymm : Std.Symm fun a b : α => ∀ k, key a = some k → ∀ k', key b = some k' → k ≠ k' :=
    ⟨fun a b hab k hb k' ha heq => hab k' ha k hb heq.symm⟩
  exact h.forall hrow hother hne value hvalue value hsame rfl

theorem UniqueKey.append (h : UniqueKey key rows) {row : α}
    (hnew : ∀ value, key row = some value → ∀ other ∈ rows, key other ≠ some value) :
    UniqueKey key (rows ++ [row]) := by
  rw [UniqueKey, List.filterMap_append]
  cases hvalue : key row with
  | none => simpa [hvalue, UniqueKey] using h
  | some value =>
    have hout : value ∉ rows.filterMap key := by
      intro hmem
      obtain ⟨other, hother, hkey⟩ := List.mem_filterMap.mp hmem
      exact hnew value hvalue other hother hkey
    have hlast : [row].filterMap key = [value] := by simp [hvalue]
    rw [hlast]
    exact List.nodup_append.mpr ⟨h, List.nodup_singleton value, fun a ha b hb heq =>
      hout (List.mem_singleton.mp hb ▸ heq ▸ ha)⟩

theorem UniqueKey.map (h : UniqueKey key rows) {write : α → α}
    (hkeep : ∀ row ∈ rows, key (write row) = key row) : UniqueKey key (rows.map write) := by
  have hsame : rows.filterMap (key ∘ write) = rows.filterMap key := List.filterMap_congr hkeep
  rw [UniqueKey, List.filterMap_map, hsame]
  exact h

def rowOfKey [DecidableEq β] (key : α → Option β) (value : β) (rows : List α) : Option α :=
  rows.find? fun row => key row = some value

section RowOfKey

variable [DecidableEq β] {value : β} {row : α}

theorem rowOfKey_eq_some (h : rowOfKey key value rows = some row) :
    row ∈ rows ∧ key row = some value := by
  have hfound := List.find?_some h
  rw [decide_eq_true_eq] at hfound
  exact ⟨List.mem_of_find?_eq_some h, hfound⟩

theorem rowOfKey_eq_none : rowOfKey key value rows = none ↔ ∀ row ∈ rows, key row ≠ some value := by
  rw [rowOfKey, List.find?_eq_none]
  exact forall₂_congr fun row _ => not_congr decide_eq_true_iff

theorem UniqueKey.rowOfKey_eq (h : UniqueKey key rows) (hrow : row ∈ rows)
    (hvalue : key row = some value) : rowOfKey key value rows = some row := by
  cases hfound : rowOfKey key value rows with
  | none => exact absurd hvalue (rowOfKey_eq_none.mp hfound row hrow)
  | some other =>
    obtain ⟨hother, hsame⟩ := rowOfKey_eq_some hfound
    rw [h.eq hother hrow hsame hvalue]

end RowOfKey

end TradingBot.Misc
