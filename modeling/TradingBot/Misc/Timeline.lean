import Mathlib.Data.List.Sort
import Mathlib.Algebra.Order.Ring.Int
import Mathlib.Data.Int.LeastGreatest

/-!
# Values along discrete time

A value that depends on a whole number of time: where it changes, that it is constant in between,
and the first instant of a kind in a sorted list. Of a record that only some days have, the latest
one, and when two series have the same.
-/

namespace TradingBot.Misc

def ChangesAt {α : Type} (value : Int → α) (instant : Int) : Prop :=
  value (instant - 1) ≠ value instant

section Changes

variable {α : Type} {value : Int → α} {first last : Int}

theorem eq_of_no_change (hle : first ≤ last)
    (h : ∀ instant, first < instant → instant ≤ last → ¬ ChangesAt value instant) :
    value last = value first := by
  induction last, hle using Int.leInduction with
  | base => rfl
  | succ last hle ih =>
    have hlast := not_not.mp (h (last + 1) (by omega) (Int.le_refl _))
    rw [Int.add_sub_cancel] at hlast
    rw [← hlast]
    exact ih fun instant hafter hbefore => h instant hafter (by omega)

end Changes

section Search

variable {α : Type} {r : α → α → Prop} {items : List α} {p : α → Bool} {item : α}

theorem find?_eq_some_iff_of_sorted (hrefl : ∀ a, r a a) (hantisymm : ∀ a b, r a b → r b a → a = b)
    (hsorted : items.Pairwise r) :
    items.find? p = some item ↔
      item ∈ items ∧ p item = true ∧ ∀ other ∈ items, p other = true → r item other := by
  induction items with
  | nil => simp
  | cons head tail ih =>
    rw [List.pairwise_cons] at hsorted
    by_cases hhead : p head = true
    · rw [List.find?_cons_of_pos hhead, Option.some.injEq]
      constructor
      · rintro rfl
        refine ⟨List.mem_cons_self, hhead, fun other hother _ => ?_⟩
        rcases List.mem_cons.mp hother with rfl | htail
        · exact hrefl other
        · exact hsorted.1 other htail
      · rintro ⟨hmem, -, hfirst⟩
        rcases List.mem_cons.mp hmem with rfl | htail
        · rfl
        · exact hantisymm _ _ (hsorted.1 item htail) (hfirst head List.mem_cons_self hhead)
    · rw [List.find?_cons_of_neg hhead, ih hsorted.2]
      constructor
      · rintro ⟨hmem, hitem, hfirst⟩
        refine ⟨List.mem_cons_of_mem head hmem, hitem, fun other hother hkind => ?_⟩
        rcases List.mem_cons.mp hother with rfl | htail
        · exact absurd hkind hhead
        · exact hfirst other htail hkind
      · rintro ⟨hmem, hitem, hfirst⟩
        refine ⟨?_, hitem, fun other hother => hfirst other (List.mem_cons_of_mem head hother)⟩
        rcases List.mem_cons.mp hmem with rfl | htail
        · exact absurd hitem hhead
        · exact htail

end Search

section Latest

def IsLatest {α : Type} (record : Int → Option α) (bound : Int) (item : α) : Prop :=
  ∃ day, day < bound ∧ record day = some item ∧
    ∀ later, day < later → later < bound → record later = none

variable {α : Type} {first second : Int → Option α} {bound : Int}

theorem exists_latest (record : Int → Option α) {day : Int} (hbefore : day < bound)
    (hrecord : record day ≠ none) : ∃ last item, day ≤ last ∧ last < bound ∧
      record last = some item ∧ ∀ later, last < later → later < bound → record later = none := by
  obtain ⟨last, ⟨hlast, hsome⟩, hgreatest⟩ := Int.exists_greatest_of_bdd
    (P := fun day => day < bound ∧ record day ≠ none) ⟨bound, fun _ h => Int.le_of_lt h.1⟩
    ⟨day, hbefore, hrecord⟩
  obtain ⟨item, hitem⟩ := Option.ne_none_iff_exists'.mp hsome
  refine ⟨last, item, hgreatest day ⟨hbefore, hrecord⟩, hlast, hitem, fun later hafter hlater => ?_⟩
  by_contra hsome'
  exact Int.not_le.mpr hafter (hgreatest later ⟨hlater, hsome'⟩)

def SharedAfter (first second : Int → Option α) (bound day : Int) : Prop :=
  ∃ later, day < later ∧ later < bound ∧ first later = second later ∧ first later ≠ none

theorem IsLatest.of_shared {item : α} (hlatest : IsLatest first bound item)
    (hshared : ∀ day < bound, first day = second day ∨ SharedAfter first second bound day) :
    IsLatest second bound item := by
  obtain ⟨day, hbefore, hitem, hlast⟩ := hlatest
  have hnone : ∀ at_, day ≤ at_ → at_ < bound → ¬ SharedAfter first second bound at_ := by
    rintro at_ hfrom - ⟨later, hafter, hlater, -, hsome⟩
    exact hsome (hlast later (Int.lt_of_le_of_lt hfrom hafter) hlater)
  have hsame : ∀ at_, day ≤ at_ → at_ < bound → first at_ = second at_ := fun at_ hfrom hat =>
    (hshared at_ hat).resolve_right (hnone at_ hfrom hat)
  refine ⟨day, hbefore, (hsame day (Int.le_refl _) hbefore).symm.trans hitem,
    fun later hafter hlater => ?_⟩
  rw [← hsame later (Int.le_of_lt hafter) hlater]
  exact hlast later hafter hlater

/-- Two series have the same latest record exactly when every difference is before a shared record. -/
theorem isLatest_iff_shared
    (hday : ∀ day day' item, first day = some item → second day' = some item → day = day') :
    (∀ item, IsLatest first bound item ↔ IsLatest second bound item) ↔
      ∀ day < bound, first day = second day ∨ SharedAfter first second bound day := by
  constructor
  · intro hsame day hbefore
    by_cases hdiffer : first day = second day
    · exact .inl hdiffer
    right
    -- the latest day with a record in either series
    have hsome : (first day).or (second day) ≠ none := by
      intro hnone
      rw [Option.or_eq_none_iff] at hnone
      exact hdiffer (hnone.1.trans hnone.2.symm)
    obtain ⟨last, item, hle, hlast, hitem, hafter⟩ :=
      exists_latest (fun d => (first d).or (second d)) hbefore hsome
    have hnone : ∀ later, last < later → later < bound →
        first later = none ∧ second later = none := fun later h h' =>
      Option.or_eq_none_iff.mp (hafter later h h')
    have hboth : first last = some item ∧ second last = some item := by
      cases hfirst : first last with
      | some item' =>
        have hlatest : IsLatest first bound item' :=
          ⟨last, hlast, hfirst, fun later h h' => (hnone later h h').1⟩
        obtain ⟨last', hlast', hsecond, -⟩ := (hsame item').mp hlatest
        rw [hday last last' item' hfirst hsecond]
        simp only [hfirst] at hitem
        exact ⟨hitem, hitem ▸ hsecond⟩
      | none =>
        simp only [hfirst] at hitem
        have hlatest : IsLatest second bound item :=
          ⟨last, hlast, hitem, fun later h h' => (hnone later h h').2⟩
        obtain ⟨last', -, hfirst', -⟩ := (hsame item).mpr hlatest
        rw [hday last' last item hfirst' hitem, hfirst] at hfirst'
        cases hfirst'
    have hne : day ≠ last := by
      rintro rfl
      exact hdiffer (hboth.1.trans hboth.2.symm)
    refine ⟨last, by omega, hlast, hboth.1.trans hboth.2.symm, ?_⟩
    rw [hboth.1]
    exact Option.some_ne_none item
  · intro hshared item
    refine ⟨fun hlatest => hlatest.of_shared hshared, fun hlatest => hlatest.of_shared ?_⟩
    intro day hbefore
    rcases hshared day hbefore with hsame | ⟨later, hafter, hlater, hsame, hsome⟩
    · exact .inl hsame.symm
    · exact .inr ⟨later, hafter, hlater, hsame.symm, hsame ▸ hsome⟩

end Latest

end TradingBot.Misc
