import TradingBot.Limiter.Model
import TradingBot.Misc.Table

/-!
# Deadlines in keys with a lifetime

A deadline is guarded while its key has a value not earlier and does not expire before it. Maximum
rules keep a guarded deadline as long as the lifetime of a new value reaches up to it; an earlier
value replaces one only when that has passed.
-/

namespace TradingBot.Limiter

open TradingBot.Misc

variable {keys : Keys String Int} {now expiresAt ttl : Nat} {key other : String}
  {deadline value candidate : Int}

/-- The deadline has passed, or the key keeps a value that is not earlier until then. -/
def Guarded (keys : Keys String Int) (now : Nat) (key : String) (deadline : Int) : Prop :=
  deadline ≤ now ∨ ∃ stored, keys key = some stored ∧ deadline ≤ stored.value ∧
    ∀ expiresAt, stored.expiresAt = some expiresAt → deadline ≤ expiresAt

theorem Guarded.later (h : Guarded keys now key deadline) {later : Nat} (hle : now ≤ later) :
    Guarded keys later key deadline := by
  rcases h with hpast | hkey
  · exact .inl (by omega)
  · exact .inr hkey

theorem Guarded.earlier (h : Guarded keys now key deadline) {earlier : Int}
    (hle : earlier ≤ deadline) : Guarded keys now key earlier := by
  rcases h with hpast | ⟨stored, hstored, hvalue, hexpires⟩
  · exact .inl (hle.trans hpast)
  · exact .inr ⟨stored, hstored, hle.trans hvalue,
      fun expiresAt hsome => hle.trans (hexpires expiresAt hsome)⟩

theorem Guarded.le_get (h : Guarded keys now key deadline) (hnow : (now : Int) < deadline) :
    ∃ value, keys.get now key = some value ∧ deadline ≤ value := by
  rcases h with hpast | ⟨stored, hstored, hvalue, hexpires⟩
  · omega
  · refine ⟨stored.value, Keys.get_eq_some.mpr ⟨stored, ?_, rfl⟩, hvalue⟩
    refine Keys.entry_eq_some.mpr ⟨hstored, ?_⟩
    unfold Stored.live
    cases hlife : stored.expiresAt with
    | none => rfl
    | some expiresAt =>
      have hle := hexpires expiresAt hlife
      exact decide_eq_true (by omega)

theorem Guarded.passed (h : Guarded keys now key deadline)
    (hvalue : (keys.get now key).getD 0 ≤ now) : deadline ≤ now := by
  by_contra hlate
  obtain ⟨value, hget, hle⟩ := h.le_get (by omega)
  rw [hget, Option.getD_some] at hvalue
  omega

theorem Guarded.set_passed (h : Guarded keys now key deadline)
    (hvalue : (keys.get now other).getD 0 ≤ now) (value : Int) (expiresAt : Option Nat) :
    Guarded (keys.set other value expiresAt) now key deadline := by
  by_cases heq : key = other
  · subst heq
    exact .inl (h.passed hvalue)
  · rcases h with hpast | ⟨stored, hstored, hrest⟩
    · exact .inl hpast
    · exact .inr ⟨stored, (Function.update_of_ne heq _ _).trans hstored, hrest⟩

theorem guarded_set (hvalue : deadline ≤ value) (hexpires : deadline ≤ expiresAt) :
    Guarded (keys.set key value (some expiresAt)) now key deadline := by
  refine .inr ⟨⟨value, some expiresAt⟩, Function.update_self .., hvalue, ?_⟩
  intro expires hsome
  cases hsome
  exact hexpires

theorem Guarded.setMax (h : Guarded keys now key deadline) (httl : candidate ≤ now + ttl) :
    Guarded (setMax keys now other candidate ttl).1 now key deadline := by
  unfold Limiter.setMax
  dsimp only
  split_ifs with hless
  · by_cases heq : key = other
    · subst heq
      by_cases hpast : deadline ≤ now
      · exact .inl hpast
      · obtain ⟨value, hget, hle⟩ := h.le_get (by omega)
        rw [hget, Option.getD_some] at hless
        exact guarded_set (by omega) (by push_cast; omega)
    · rcases h with hpast | ⟨stored, hstored, hrest⟩
      · exact .inl hpast
      · exact .inr ⟨stored, (Function.update_of_ne heq _ _).trans hstored, hrest⟩
  · exact h

theorem le_setMax (keys : Keys String Int) (now : Nat) (key : String) (candidate : Int)
    (ttl : Nat) : candidate ≤ (setMax keys now key candidate ttl).2 := by
  unfold Limiter.setMax
  dsimp only
  split_ifs with hless
  · exact le_refl _
  · exact not_lt.mp hless

def Lasting (keys : Keys String Int) : Prop :=
  ∀ key stored, keys key = some stored → ∀ expiresAt, stored.expiresAt = some expiresAt →
    stored.value ≤ expiresAt

theorem Lasting.set (h : Lasting keys) (hle : value ≤ expiresAt) :
    Lasting (keys.set key value (some expiresAt)) := by
  intro other stored hstored expires hexpires
  rcases update_eq_some hstored with ⟨-, hnew⟩ | ⟨-, hold⟩
  · cases hnew
    cases hexpires
    exact hle
  · exact h other stored hold expires hexpires

theorem Lasting.setMax (h : Lasting keys)
    (httl : candidate ≤ now + ttl) : Lasting (setMax keys now key candidate ttl).1 := by
  unfold Limiter.setMax
  dsimp only
  split_ifs
  · exact h.set (by push_cast; omega)
  · exact h

theorem guarded_setMax (h : Lasting keys) (httl : candidate ≤ now + ttl) :
    Guarded (Limiter.setMax keys now key candidate ttl).1 now key
      (Limiter.setMax keys now key candidate ttl).2 := by
  unfold Limiter.setMax
  dsimp only
  split_ifs with hless
  · exact guarded_set (le_refl _) (by push_cast; omega)
  · cases hget : keys.get now key with
    | none => exact .inl (Int.natCast_nonneg now)
    | some value =>
      obtain ⟨stored, hstored, rfl⟩ := Keys.get_eq_some.mp hget
      have hkey := (Keys.entry_eq_some.mp hstored).1
      exact .inr ⟨stored, hkey, le_refl _, h key stored hkey⟩

end TradingBot.Limiter
