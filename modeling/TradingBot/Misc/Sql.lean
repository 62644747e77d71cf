import Mathlib.Data.List.Nodup

/-!
# Conditions and updates of SQL

A condition of SQL is true, false or unknown, and only a true one admits a row. An update changes
the rows that a condition admits, each on its own.
-/

namespace TradingBot.Misc

abbrev Truth := Option Bool

namespace Truth

/-- `AND`. -/
def both : Truth → Truth → Truth
  | some false, _ => some false
  | _, some false => some false
  | some true, some true => some true
  | _, _ => none

/-- `OR`. -/
def either : Truth → Truth → Truth
  | some true, _ => some true
  | _, some true => some true
  | some false, some false => some false
  | _, _ => none

/-- `NOT`. -/
def negated (truth : Truth) : Truth := truth.map fun value => !value

def known (p : Prop) [Decidable p] : Truth := some (decide p)

/-- A `WHERE`, an `IF` or a `CASE` takes what is true. -/
def holds (truth : Truth) : Bool := truth == some true

/-- A `CHECK` refuses what is false. -/
def refuted (truth : Truth) : Bool := truth == some false

@[simp] theorem holds_some (value : Bool) : holds (some value) = value := by cases value <;> rfl

@[simp] theorem holds_known (p : Prop) [Decidable p] : holds (known p) = decide p :=
  holds_some _

@[simp] theorem holds_both (left right : Truth) :
    holds (both left right) = (holds left && holds right) := by
  rcases left with _ | _ | _ <;> rcases right with _ | _ | _ <;> rfl

@[simp] theorem holds_either (left right : Truth) :
    holds (either left right) = (holds left || holds right) := by
  rcases left with _ | _ | _ <;> rcases right with _ | _ | _ <;> rfl

end Truth

section Update

variable {α β : Type} {admits : α → Bool} {change : α → α} {rows : List α}

/-- `UPDATE ... WHERE`. -/
def updateWhere (admits : α → Bool) (change : α → α) (rows : List α) : List α :=
  rows.map fun row => if admits row then change row else row

theorem mem_updateWhere {row' : α} (h : row' ∈ updateWhere admits change rows) :
    ∃ row ∈ rows, (admits row = true ∧ row' = change row) ∨ (admits row = false ∧ row' = row) := by
  obtain ⟨row, hrow, rfl⟩ := List.mem_map.mp h
  refine ⟨row, hrow, ?_⟩
  cases hadmits : admits row with
  | true => exact Or.inl ⟨rfl, if_pos rfl⟩
  | false => exact Or.inr ⟨rfl, if_neg Bool.false_ne_true⟩

theorem mem_updateWhere_of_not_admitted {row : α} (hrow : row ∈ rows) (hadmits : admits row = false) :
    row ∈ updateWhere admits change rows :=
  List.mem_map.mpr ⟨row, hrow, if_neg (Bool.eq_false_iff.mp hadmits)⟩

theorem map_updateWhere {key : α → β} (hkey : ∀ row ∈ rows, admits row = true →
    key (change row) = key row) : (updateWhere admits change rows).map key = rows.map key := by
  rw [updateWhere, List.map_map]
  apply List.map_congr_left
  intro row hrow
  rw [Function.comp_apply]
  cases hadmits : admits row with
  | true => rw [if_pos rfl, hkey row hrow hadmits]
  | false => rw [if_neg Bool.false_ne_true]

end Update

end TradingBot.Misc
