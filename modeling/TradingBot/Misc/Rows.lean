import Mathlib.Data.List.Nodup

/-!
# Tables with a primary key

A table as the list of its rows in the order of insertion: the row of a key, a write to it, and what
a reader finds afterwards.
-/

namespace TradingBot.Misc

variable {α κ : Type} [DecidableEq κ] {id : α → κ} {key other : κ} {rows : List α} {row : α}
  {write : α → α}

def getRow (id : α → κ) (key : κ) (rows : List α) : Option α := rows.find? fun row => id row = key

def setRow (id : α → κ) (key : κ) (write : α → α) (rows : List α) : List α :=
  rows.map fun row => if id row = key then write row else row

theorem getRow_eq_some (h : getRow id key rows = some row) : row ∈ rows ∧ id row = key := by
  have hfound := List.find?_some h
  rw [decide_eq_true_eq] at hfound
  exact ⟨List.mem_of_find?_eq_some h, hfound⟩

theorem getRow_eq_none : getRow id key rows = none ↔ ∀ row ∈ rows, id row ≠ key := by
  rw [getRow, List.find?_eq_none]
  exact forall₂_congr fun row _ => not_congr decide_eq_true_iff

theorem getRow_of_mem (hnodup : (rows.map id).Nodup) (hrow : row ∈ rows) :
    getRow id (id row) rows = some row := by
  cases hfound : getRow id (id row) rows with
  | none => exact absurd rfl (getRow_eq_none.mp hfound row hrow)
  | some found =>
    obtain ⟨hmem, hid⟩ := getRow_eq_some hfound
    rw [List.inj_on_of_nodup_map hnodup hmem hrow hid]

theorem filter_eq_getRow (hnodup : (rows.map id).Nodup) :
    rows.filter (fun row => id row = key) = (getRow id key rows).toList := by
  induction rows with
  | nil => rfl
  | cons head tail ih =>
    rw [List.map_cons, List.nodup_cons] at hnodup
    by_cases hkey : id head = key
    · have hnone : ∀ row ∈ tail, ¬ id row = key := by
        intro row hrow hid
        exact hnodup.1 (List.mem_map.mpr ⟨row, hrow, hid.trans hkey.symm⟩)
      simpa [getRow, hkey] using hnone
    · simpa [getRow, hkey] using ih hnodup.2

omit [DecidableEq κ] in
theorem nodup_map_append_singleton (hnodup : (rows.map id).Nodup)
    (hnew : ∀ old ∈ rows, id old ≠ id row) : ((rows ++ [row]).map id).Nodup := by
  rw [List.map_append]
  refine List.nodup_append.mpr ⟨hnodup, List.nodup_singleton _, ?_⟩
  intro key hkey other hother heq
  obtain ⟨old, hold, hid⟩ := List.mem_map.mp hkey
  exact hnew old hold (hid.trans (heq.trans (List.mem_singleton.mp hother)))

theorem mem_setRow : row ∈ setRow id key write rows ↔
    row ∈ rows ∧ id row ≠ key ∨ ∃ old ∈ rows, id old = key ∧ row = write old := by
  constructor
  · intro h
    obtain ⟨old, hold, heq⟩ := List.mem_map.mp h
    by_cases hkey : id old = key
    · rw [if_pos hkey] at heq
      exact .inr ⟨old, hold, hkey, heq.symm⟩
    · rw [if_neg hkey] at heq
      exact .inl ⟨heq ▸ hold, heq ▸ hkey⟩
  · rintro (⟨hrow, hkey⟩ | ⟨old, hold, hkey, rfl⟩)
    · exact List.mem_map.mpr ⟨row, hrow, if_neg hkey⟩
    · exact List.mem_map.mpr ⟨old, hold, if_pos hkey⟩

theorem mem_setRow_of_getRow (hnodup : (rows.map id).Nodup) {found : α}
    (hfound : getRow id key rows = some found) :
    row ∈ setRow id key write rows ↔ row ∈ rows ∧ id row ≠ key ∨ row = write found := by
  obtain ⟨hmem, hid⟩ := getRow_eq_some hfound
  rw [mem_setRow]
  refine or_congr_right ⟨?_, fun h => ⟨found, hmem, hid, h⟩⟩
  rintro ⟨old, hold, hkey, rfl⟩
  rw [List.inj_on_of_nodup_map hnodup hold hmem (hkey.trans hid.symm)]

theorem setRow_eq_self (hnodup : (rows.map id).Nodup) (hfound : getRow id key rows = some row) :
    setRow id key (fun _ => row) rows = rows := by
  obtain ⟨hmem, hid⟩ := getRow_eq_some hfound
  rw [setRow, List.map_congr_left (g := fun old => old), List.map_id']
  intro old hold
  by_cases hkey : id old = key
  · rw [if_pos hkey, List.inj_on_of_nodup_map hnodup hold hmem (hkey.trans hid.symm)]
  · rw [if_neg hkey]

theorem setRow_setRow {again : α → α} (hwrite : ∀ row, id row = key → id (write row) = key) :
    setRow id key again (setRow id key write rows) =
      setRow id key (fun row => again (write row)) rows := by
  rw [setRow, setRow, setRow, List.map_map]
  refine List.map_congr_left fun row _ => ?_
  by_cases hkey : id row = key
  · rw [Function.comp_apply, if_pos hkey, if_pos (hwrite row hkey), if_pos hkey]
  · rw [Function.comp_apply, if_neg hkey, if_neg hkey, if_neg hkey]

theorem map_id_setRow (hwrite : ∀ row, id row = key → id (write row) = key) :
    (setRow id key write rows).map id = rows.map id := by
  rw [setRow, List.map_map]
  refine List.map_congr_left fun row _ => ?_
  by_cases hkey : id row = key
  · rw [Function.comp_apply, if_pos hkey, hwrite row hkey, hkey]
  · rw [Function.comp_apply, if_neg hkey]

theorem getRow_map (hwrite : ∀ row ∈ rows, id (write row) = id row) :
    getRow id key (rows.map write) = (getRow id key rows).map write := by
  induction rows with
  | nil => rfl
  | cons head tail ih =>
    have htail := ih fun row hrow => hwrite row (List.mem_cons_of_mem _ hrow)
    unfold getRow at htail ⊢
    rw [List.map_cons, List.find?_cons, List.find?_cons, hwrite head List.mem_cons_self]
    cases decide (id head = key) with
    | true => rfl
    | false => exact htail

theorem getRow_setRow (hwrite : ∀ row, id row = key → id (write row) = key) :
    getRow id other (setRow id key write rows) =
      (getRow id other rows).map fun row => if id row = key then write row else row := by
  refine getRow_map fun row _ => ?_
  by_cases hkey : id row = key
  · rw [if_pos hkey, hwrite row hkey, hkey]
  · rw [if_neg hkey]

theorem getRow_setRow_self (hwrite : ∀ row, id row = key → id (write row) = key)
    (h : getRow id key rows = some row) :
    getRow id key (setRow id key write rows) = some (write row) := by
  rw [getRow_setRow hwrite, h, Option.map_some, if_pos (getRow_eq_some h).2]

theorem getRow_setRow_of_ne (hwrite : ∀ row, id row = key → id (write row) = key) (hne : other ≠ key) :
    getRow id other (setRow id key write rows) = getRow id other rows := by
  rw [getRow_setRow hwrite]
  cases h : getRow id other rows with
  | none => rfl
  | some row => rw [Option.map_some, if_neg fun hkey => hne ((getRow_eq_some h).2.symm.trans hkey)]

theorem setRow_of_getRow_none (hnone : getRow id key rows = none) :
    setRow id key write rows = rows := by
  rw [setRow, List.map_congr_left (g := fun old => old), List.map_id']
  intro old hold
  rw [if_neg (getRow_eq_none.mp hnone old hold)]

theorem countP_setRow (p : α → Bool) (write : α → α) (hnodup : (rows.map id).Nodup)
    (hfound : getRow id key rows = some row) :
    (setRow id key write rows).countP p + (p row).toNat =
      rows.countP p + (p (write row)).toNat := by
  induction rows with
  | nil => exact absurd hfound (by simp [getRow])
  | cons head tail ih =>
    rw [List.map_cons, List.nodup_cons] at hnodup
    by_cases hkey : id head = key
    · have hhead : head = row := by simpa [getRow, hkey] using hfound
      have hnone : getRow id key tail = none := by
        refine getRow_eq_none.mpr fun old hold hid => ?_
        exact hnodup.1 (List.mem_map.mpr ⟨old, hold, hid.trans hkey.symm⟩)
      have htail : setRow id key write tail = tail := setRow_of_getRow_none hnone
      rw [setRow] at htail
      subst hhead
      rw [setRow, List.map_cons, htail, if_pos hkey, List.countP_cons, List.countP_cons]
      cases p head <;> cases p (write head) <;> simp
    · have hfound' : getRow id key tail = some row := by simpa [getRow, hkey] using hfound
      have htail := ih hnodup.2 hfound'
      rw [setRow] at htail
      rw [setRow, List.map_cons, if_neg hkey, List.countP_cons, List.countP_cons]
      omega

/-- The rows of a table after each was left as it is or written over by a related one. -/
def Rewritten (R : α → α → Prop) (rows rows' : List α) : Prop :=
  ∃ write : α → α, rows' = rows.map write ∧ ∀ row ∈ rows, R row (write row)

section Rewritten

variable {R : α → α → Prop} {rows' : List α}

theorem Rewritten.refl (hR : ∀ row, R row row) (rows : List α) : Rewritten R rows rows :=
  ⟨fun row => row, by rw [List.map_id'], fun row _ => hR row⟩

theorem Rewritten.setRow (hR : ∀ row, R row row)
    (hwrite : ∀ row ∈ rows, id row = key → R row (write row)) :
    Rewritten R rows (setRow id key write rows) := by
  refine ⟨_, rfl, fun row hrow => ?_⟩
  by_cases hkey : id row = key
  · rw [if_pos hkey]
    exact hwrite row hrow hkey
  · rw [if_neg hkey]
    exact hR row

theorem Rewritten.map_eq {β : Type} {f : α → β} (h : Rewritten R rows rows')
    (hR : ∀ row new, R row new → f new = f row) : rows'.map f = rows.map f := by
  obtain ⟨write, rfl, hwrite⟩ := h
  rw [List.map_map]
  exact List.map_congr_left fun row hrow => hR row _ (hwrite row hrow)

theorem Rewritten.mem {new : α} (h : Rewritten R rows rows') (hnew : new ∈ rows') :
    ∃ row ∈ rows, R row new := by
  obtain ⟨write, rfl, hwrite⟩ := h
  obtain ⟨row, hrow, rfl⟩ := List.mem_map.mp hnew
  exact ⟨row, hrow, hwrite row hrow⟩

theorem Rewritten.getRow_eq_some (h : Rewritten R rows rows')
    (hid : ∀ row new, R row new → id new = id row) (hfound : getRow id key rows = some row) :
    ∃ new, getRow id key rows' = some new ∧ R row new := by
  obtain ⟨write, rfl, hwrite⟩ := h
  refine ⟨write row, ?_, hwrite row (Misc.getRow_eq_some hfound).1⟩
  rw [getRow_map fun row hrow => hid row _ (hwrite row hrow), hfound, Option.map_some]

end Rewritten

end TradingBot.Misc
