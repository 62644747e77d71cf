import Mathlib.Data.List.Sort
import Mathlib.Order.Lex

/-!
# Listing rows by a key, page by page

Rows listed with the largest key first. A query for the rows behind a row, those with smaller keys,
returns the rest of the list, also after rows with larger keys came in.
-/

namespace TradingBot.Misc.Keyset

variable {α κ : Type} [LinearOrder κ] {key : α → κ} {rows : List α}

def largestFirst (key : α → κ) (rows : List α) : List α :=
  rows.insertionSort fun first second => key second ≤ key first

theorem mem_largestFirst {row : α} : row ∈ largestFirst key rows ↔ row ∈ rows :=
  List.mem_insertionSort _

theorem length_largestFirst : (largestFirst key rows).length = rows.length :=
  List.length_insertionSort _ _

theorem pairwise_largestFirst (h : (rows.map key).Nodup) :
    (largestFirst key rows).Pairwise fun first second => key second < key first := by
  have : Std.Total fun first second : α => key second ≤ key first :=
    ⟨fun first second => le_total (key second) (key first)⟩
  have : IsTrans α fun first second => key second ≤ key first :=
    ⟨fun _ _ _ hfirst hsecond => le_trans hsecond hfirst⟩
  have hsorted : (largestFirst key rows).Pairwise fun first second => key second ≤ key first :=
    List.pairwise_insertionSort _ rows
  have hdistinct : (largestFirst key rows).Pairwise fun first second => key first ≠ key second := by
    have hperm : (largestFirst key rows).Perm rows := List.perm_insertionSort _ rows
    exact List.pairwise_map.mp ((hperm.map key).nodup_iff.mpr h)
  exact hsorted.imp₂ (fun _ _ hle hne => lt_of_le_of_ne hle hne.symm) hdistinct

theorem eq_of_mem_iff {first second : List α} (hfirst : first.Pairwise fun a b => key b < key a)
    (hsecond : second.Pairwise fun a b => key b < key a)
    (h : ∀ row, row ∈ first ↔ row ∈ second) : first = second := by
  have hnodup : ∀ {rows : List α}, (rows.Pairwise fun a b => key b < key a) → rows.Nodup :=
    fun hrows => hrows.imp fun {a b} (hlt : key b < key a) (heq : a = b) =>
      (lt_irrefl _ (heq ▸ hlt)).elim
  have hperm : first.Perm second :=
    (List.perm_ext_iff_of_nodup (hnodup hfirst) (hnodup hsecond)).mpr h
  exact hperm.eq_of_pairwise (fun a b _ _ hab hba => absurd (lt_trans hab hba) (lt_irrefl _))
    hfirst hsecond

theorem filter_eq_drop {list : List α} (h : list.Pairwise fun a b => key b < key a) {n : Nat}
    {row : α} (hrow : list[n]? = some row) :
    (list.filter fun other => decide (key other < key row)) = list.drop (n + 1) := by
  induction list generalizing n with
  | nil => cases hrow
  | cons first list ih =>
    obtain ⟨hfirst, hlist⟩ := List.pairwise_cons.mp h
    cases n with
    | zero =>
      rw [List.getElem?_cons_zero] at hrow
      cases hrow
      rw [List.filter_cons_of_neg (by rw [decide_eq_true_iff]; exact lt_irrefl _), List.drop_succ_cons,
        List.drop_zero]
      exact List.filter_eq_self.mpr fun other hother => decide_eq_true (hfirst other hother)
    | succ n =>
      rw [List.getElem?_cons_succ] at hrow
      have hlarger : key row < key first := hfirst row (List.mem_of_getElem? hrow)
      rw [List.filter_cons_of_neg (by rw [decide_eq_true_iff]; exact lt_asymm hlarger),
        List.drop_succ_cons]
      exact ih hlist hrow

/-- The rows behind a row are the rest of the list, also when keys not smaller came in since. -/
theorem largestFirst_behind (h : (rows.map key).Nodup) {later : List α}
    (hlater : ((rows ++ later).map key).Nodup) {n : Nat} {row : α}
    (hrow : (largestFirst key rows)[n]? = some row) (hnew : ∀ new ∈ later, key row ≤ key new) :
    largestFirst key ((rows ++ later).filter fun other => decide (key other < key row)) =
      (largestFirst key rows).drop (n + 1) := by
  have hsorted := pairwise_largestFirst h
  rw [← filter_eq_drop hsorted hrow]
  refine eq_of_mem_iff (pairwise_largestFirst ?_) (hsorted.filter _) ?_
  · exact hlater.sublist (List.filter_sublist.map key)
  · intro other
    rw [mem_largestFirst, List.mem_filter, List.mem_filter, mem_largestFirst, List.mem_append]
    constructor
    · rintro ⟨hold | hother, hsmaller⟩
      · exact ⟨hold, hsmaller⟩
      · exact absurd (of_decide_eq_true hsmaller) (not_lt.mpr (hnew other hother))
    · rintro ⟨hold, hsmaller⟩
      exact ⟨.inl hold, hsmaller⟩

end TradingBot.Misc.Keyset
