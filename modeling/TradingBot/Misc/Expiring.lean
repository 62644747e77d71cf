import Mathlib.Logic.Function.Basic

/-!
# Keys with a lifetime

A key-value store whose keys are there until the clock has passed their expiry: reads at an instant,
writes with and without a new expiry, and what a later read returns.
-/

namespace TradingBot.Misc

variable {κ α : Type}

/-- A value with the last millisecond of its key; a key without one does not expire. -/
structure Stored (α : Type) where
  value : α
  expiresAt : Option Nat
  deriving DecidableEq, Repr

def Stored.live (stored : Stored α) (now : Nat) : Bool := stored.expiresAt.all (now ≤ ·)

abbrev Keys (κ α : Type) := κ → Option (Stored α)

namespace Keys

variable {keys : Keys κ α} {now later : Nat} {key other : κ} {stored : Stored α} {value : α}

def entry (keys : Keys κ α) (now : Nat) (key : κ) : Option (Stored α) :=
  (keys key).filter (·.live now)

def get (keys : Keys κ α) (now : Nat) (key : κ) : Option α := (keys.entry now key).map (·.value)

section Writes

variable [DecidableEq κ]

def set (keys : Keys κ α) (key : κ) (value : α) (expiresAt : Option Nat) : Keys κ α :=
  Function.update keys key (some ⟨value, expiresAt⟩)

def del (keys : Keys κ α) (key : κ) : Keys κ α := Function.update keys key none

def modify (keys : Keys κ α) (key : κ) (write : α → α) : Keys κ α :=
  Function.update keys key
    ((keys key).map fun stored => { stored with value := write stored.value })

end Writes

theorem entry_eq_some :
    keys.entry now key = some stored ↔ keys key = some stored ∧ stored.live now = true := by
  rw [entry, Option.filter_eq_some_iff]

theorem get_eq_some :
    keys.get now key = some value ↔ ∃ stored, keys.entry now key = some stored ∧
      stored.value = value := by
  rw [get, Option.map_eq_some_iff]

theorem Stored.live_of_later (h : stored.live later = true) (hle : now ≤ later) :
    stored.live now = true := by
  unfold Stored.live at h ⊢
  cases hexpires : stored.expiresAt with
  | none => rfl
  | some expiresAt =>
    rw [hexpires, Option.all_some, decide_eq_true_eq] at h
    exact decide_eq_true (Nat.le_trans hle h)

theorem entry_of_later (h : keys.entry later key = some stored) (hle : now ≤ later) :
    keys.entry now key = some stored := by
  obtain ⟨hkey, hlive⟩ := entry_eq_some.mp h
  exact entry_eq_some.mpr ⟨hkey, Stored.live_of_later hlive hle⟩

theorem get_of_later (h : keys.get later key = some value) (hle : now ≤ later) :
    keys.get now key = some value := by
  obtain ⟨stored, hstored, hvalue⟩ := get_eq_some.mp h
  exact get_eq_some.mpr ⟨stored, entry_of_later hstored hle, hvalue⟩

section Writes

variable [DecidableEq κ]

theorem get_set_self {expiresAt : Option Nat} (h : expiresAt.all (now ≤ ·) = true) :
    (keys.set key value expiresAt).get now key = some value := by
  refine get_eq_some.mpr ⟨⟨value, expiresAt⟩, entry_eq_some.mpr ⟨?_, h⟩, rfl⟩
  rw [set, Function.update_self]

theorem get_set_of_ne {expiresAt : Option Nat} (h : other ≠ key) :
    (keys.set key value expiresAt).get now other = keys.get now other := by
  rw [get, entry, set, Function.update_of_ne h]
  rfl

theorem get_modify (keys : Keys κ α) (key other : κ) (now : Nat) (write : α → α) :
    (keys.modify key write).get now other =
      if other = key then (keys.get now key).map write else keys.get now other := by
  by_cases h : other = key
  · subst h
    rw [if_pos rfl, get, get, entry, entry, modify, Function.update_self]
    cases keys other with
    | none => rfl
    | some stored =>
      by_cases hlive : stored.live now = true
      · have hlive' : { stored with value := write stored.value }.live now = true := hlive
        simp [Option.filter, hlive, hlive']
      · have hlive' : ¬ { stored with value := write stored.value }.live now = true := hlive
        simp [Option.filter, hlive, hlive']
  · rw [if_neg h, get, entry, modify, Function.update_of_ne h]
    rfl

end Writes

end Keys

end TradingBot.Misc
