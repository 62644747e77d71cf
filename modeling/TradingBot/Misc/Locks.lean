import Mathlib.Data.List.Basic

/-!
# Advisory locks

Exclusive locks under keys that a transaction holds until it ends. It takes all its keys once no
other transaction has any of them; taking them one by one, in one order for all, gives the same
states when nothing is read before the last.
-/

namespace TradingBot.Misc

variable {κ : Type}

abbrev Locks (κ : Type) := κ → Option Nat

namespace Locks

variable {locks : Locks κ} {holder other : Nat} {keys : List κ}

def canTake (locks : Locks κ) (holder : Nat) (keys : List κ) : Bool :=
  keys.all fun key => locks key = none || locks key = some holder

def take [DecidableEq κ] (locks : Locks κ) (holder : Nat) (keys : List κ) : Locks κ :=
  fun key => if key ∈ keys then some holder else locks key

def release (locks : Locks κ) (holder : Nat) : Locks κ :=
  fun key => if locks key = some holder then none else locks key

def HoldsAll (locks : Locks κ) (holder : Nat) (keys : List κ) : Prop :=
  ∀ key ∈ keys, locks key = some holder

theorem holdsAll_nil (locks : Locks κ) (holder : Nat) : HoldsAll locks holder [] :=
  fun _ hkey => by cases hkey

@[simp] theorem take_nil [DecidableEq κ] (locks : Locks κ) (holder : Nat) :
    locks.take holder [] = locks := by
  funext key
  exact if_neg List.not_mem_nil

theorem holdsAll_take [DecidableEq κ] (locks : Locks κ) (holder : Nat) (keys : List κ) :
    HoldsAll (locks.take holder keys) holder keys :=
  fun _ hkey => if_pos hkey

theorem HoldsAll.take [DecidableEq κ] (h : HoldsAll locks holder keys) (more : List κ) :
    HoldsAll (locks.take holder more) holder keys := by
  intro key hkey
  unfold Locks.take
  split_ifs
  · rfl
  · exact h key hkey

theorem HoldsAll.take_other [DecidableEq κ] (h : HoldsAll locks other keys) {more : List κ}
    (hcan : canTake locks holder more = true) (hne : other ≠ holder) :
    HoldsAll (locks.take holder more) other keys := by
  intro key hkey
  unfold Locks.take
  split_ifs with hmore
  · have hfree := List.all_eq_true.mp hcan key hmore
    rw [h key hkey] at hfree
    simp only [reduceCtorEq, decide_false, Option.some.injEq, Bool.false_or,
      decide_eq_true_eq] at hfree
    exact absurd hfree hne
  · exact h key hkey

theorem HoldsAll.release_other (h : HoldsAll locks other keys) (hne : other ≠ holder) :
    HoldsAll (locks.release holder) other keys := by
  intro key hkey
  unfold Locks.release
  rw [if_neg, h key hkey]
  rw [h key hkey]
  exact fun heq => hne (Option.some.inj heq)

theorem HoldsAll.exclusive (h : HoldsAll locks holder keys) {others : List κ}
    (hother : HoldsAll locks other others) {key : κ} (hkey : key ∈ keys) (hin : key ∈ others) :
    holder = other :=
  Option.some.inj ((h key hkey).symm.trans (hother key hin))

end Locks

end TradingBot.Misc
