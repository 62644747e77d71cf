import Mathlib.Data.List.Sort
import Mathlib.Data.Nat.Log
import Mathlib.Data.Prod.Lex
import Mathlib.Data.Rat.Floor
import Mathlib.Tactic.Linarith

/-!
# Clipped Herat prices

`normalize_herat_price` (herat_price_normalization.py:73) puts back the leading digits a quote of
the USD/Herat feed has lost, where the earlier prices of the book leave one choice. A quote outside
the canonical range is returned as it came.
-/

namespace TradingBot.Intelligence.Herat

inductive Amount where
  | finite (value : ℚ)
  | special

inductive Method where
  | invalidOrNoncanonicalPriceUnchanged | insufficientPriorRange | rawWithinPriorRange
  | noCandidateInPriorRange | ambiguousPriorRangeCandidates | reconstructedFromStrictlyPriorRange
  deriving DecidableEq

/-- `HeratPriceNormalization` (line 27). -/
structure HeratPriceNormalization where
  price : Amount
  adjusted : Bool
  referenceCount : Nat
  referenceLow : Option ℤ
  referenceHigh : Option ℤ
  method : Method

/-- Between `_CANONICAL_LOW` and `_CANONICAL_HIGH`. -/
def Canonical (price : ℤ) : Prop := 50000 ≤ price ∧ price ≤ 500000

instance (price : ℤ) : Decidable (Canonical price) := inferInstanceAs (Decidable (_ ∧ _))

/-- Line 37; `none` is a text that is no number. -/
def price : Option Amount → Option ℤ
  | some (.finite value) =>
    if value.isInt ∧ Canonical value.num then some value.num else none
  | _ => none

/-- `statistics.median` of sorted numbers. -/
def median (ordered : List ℤ) : ℚ :=
  let n := ordered.length
  if n % 2 = 1 then (ordered.getD (n / 2) 0 : ℤ)
  else ((ordered.getD (n / 2 - 1) 0 + ordered.getD (n / 2) 0 : ℤ) : ℚ) / 2

/-- The values of `_robust_range` (line 49) without their tails. -/
def trimmed (values : List ℤ) : List ℤ :=
  let ordered := values.insertionSort (· ≤ ·)
  let trim := max 1 (ordered.length / 10)
  if 5 ≤ ordered.length then (ordered.drop trim).take (ordered.length - trim - trim) else ordered

/-- `_robust_range`: the lowest, the highest and the median value. -/
def robustRange (values : List ℤ) : ℤ × ℤ × ℚ :=
  ((trimmed values).min?.getD 0, (trimmed values).max?.getD 0, median (trimmed values))

/-- `10 ** len(str(abs(int(raw))))`. -/
def modulus (raw : ℤ) : ℤ := 10 ^ (Nat.log 10 raw.natAbs + 1)

def notationCandidates (raw : ℤ) (center : ℚ) : List ℤ :=
  let bucket := ⌊center / modulus raw⌋
  let first := max 0 (bucket - 2)
  ((List.range (bucket + 3 - first).toNat).map fun i : ℕ =>
    raw + (first + (i : ℤ)) * modulus raw).filter fun candidate => Canonical candidate

def nearer (center : ℚ) (a b : ℤ) : Prop :=
  |a - center| < |b - center| ∨ |a - center| = |b - center| ∧ a ≤ b

instance (center : ℚ) : DecidableRel (nearer center) := fun _ _ =>
  inferInstanceAs (Decidable (_ ∨ _))

structure Envelope where
  low : ℚ
  high : ℚ
  center : ℚ

def envelope (references : List ℤ) : Envelope :=
  let (low, high, center) := robustRange references
  let padding := max ((high - low : ℤ) : ℚ) (|center| * (1 / 100))
  ⟨low - padding, high + padding, center⟩

/-- The last `HERAT_MAXIMUM_REFERENCE_COUNT` canonical prices. -/
def references (prior : List (Option Amount)) : List ℤ :=
  let parsed := prior.filterMap price
  parsed.drop (parsed.length - 32)

def candidates (raw : ℤ) (e : Envelope) : List ℤ :=
  ((notationCandidates raw e.center).filter fun c : ℤ => e.low ≤ c ∧ c ≤ e.high).insertionSort
    (nearer e.center)

/-- `normalize_herat_price` for a canonical quote. -/
def normalizeCanonical (raw : ℤ) (prior : List (Option Amount)) : HeratPriceNormalization :=
  let refs := references prior
  if refs.length < 3 then
    ⟨.finite raw, false, refs.length, none, none, .insufficientPriorRange⟩
  else
    let (low, high, _) := robustRange refs
    let e := envelope refs
    let unchanged := HeratPriceNormalization.mk (.finite raw) false refs.length low high
    if e.low ≤ raw ∧ raw ≤ e.high then unchanged .rawWithinPriorRange
    else match candidates raw e with
    | [] => unchanged .noCandidateInPriorRange
    | winner :: rest =>
      if rest.head?.any fun second : ℤ => |winner - e.center| = |second - e.center| then
        unchanged .ambiguousPriorRangeCandidates
      else ⟨.finite winner, winner ≠ raw, refs.length, low, high,
        if winner ≠ raw then .reconstructedFromStrictlyPriorRange else .rawWithinPriorRange⟩

def normalizeHeratPrice (rawPrice : Option Amount) (prior : List (Option Amount)) :
    Except String HeratPriceNormalization :=
  match rawPrice with
  | none => .error "herat_price_invalid"
  | some original =>
    match price original with
    | none => .ok ⟨original, false, 0, none, none, .invalidOrNoncanonicalPriceUnchanged⟩
    | some raw => .ok (normalizeCanonical raw prior)

theorem median_bounds {l : List ℤ} {low high : ℤ} (hl : l ≠ [])
    (h : ∀ x ∈ l, low ≤ x ∧ x ≤ high) : low ≤ median l ∧ median l ≤ high := by
  have hpos := List.length_pos_iff.mpr hl
  have hget : ∀ i < l.length, (low : ℚ) ≤ (l.getD i 0 : ℤ) ∧ ((l.getD i 0 : ℤ) : ℚ) ≤ high := by
    intro i hi
    rw [List.getD_eq_getElem?_getD, List.getElem?_eq_getElem hi, Option.getD_some]
    exact_mod_cast h l[i] (List.getElem_mem hi)
  unfold median
  dsimp only
  split
  · exact hget _ (Nat.div_lt_self hpos (by decide))
  · obtain ⟨h1, h2⟩ := hget (l.length / 2 - 1) (by omega)
    obtain ⟨h3, h4⟩ := hget (l.length / 2) (by omega)
    push_cast
    constructor <;> linarith

theorem trimmed_subset (values : List ℤ) : ∀ x ∈ trimmed values, x ∈ values := by
  intro x hx
  unfold trimmed at hx
  dsimp only at hx
  split at hx
  · exact (List.mem_insertionSort _).mp (List.mem_of_mem_drop (List.mem_of_mem_take hx))
  · exact (List.mem_insertionSort _).mp hx

theorem trimmed_ne_nil {values : List ℤ} (h : 3 ≤ values.length) : trimmed values ≠ [] := by
  apply List.ne_nil_of_length_pos
  unfold trimmed
  dsimp only
  split <;> simp only [List.length_take, List.length_drop, List.length_insertionSort] at * <;> omega

theorem envelope_center {refs : List ℤ} (hcount : 3 ≤ refs.length)
    (hrefs : ∀ x ∈ refs, Canonical x) : (envelope refs).low ≤ (envelope refs).center ∧
      (envelope refs).center ≤ (envelope refs).high ∧
      50000 ≤ (envelope refs).center ∧ (envelope refs).center ≤ 500000 := by
  have hne := trimmed_ne_nil hcount
  obtain ⟨low, hlow⟩ := Option.ne_none_iff_exists'.mp (mt List.min?_eq_none_iff.mp hne)
  obtain ⟨high, hhigh⟩ := Option.ne_none_iff_exists'.mp (mt List.max?_eq_none_iff.mp hne)
  obtain ⟨_, hmin⟩ := List.min?_eq_some_iff.mp hlow
  obtain ⟨_, hmax⟩ := List.max?_eq_some_iff.mp hhigh
  obtain ⟨h1, h2⟩ := median_bounds hne fun x hx => ⟨hmin x hx, hmax x hx⟩
  obtain ⟨h3, h4⟩ := median_bounds hne fun x hx => hrefs x (trimmed_subset refs x hx)
  have hpadding : (0 : ℚ) ≤ max ((high - low : ℤ) : ℚ) (|median (trimmed refs)| * (1 / 100)) :=
    le_max_of_le_right (by positivity)
  simp only [envelope, robustRange, hlow, hhigh, Option.getD_some]
  refine ⟨by linarith, by linarith, by exact_mod_cast h3, by exact_mod_cast h4⟩

theorem references_canonical (prior : List (Option Amount)) :
    ∀ x ∈ references prior, Canonical x := by
  intro x hx
  obtain ⟨value, _, hvalue⟩ := List.mem_filterMap.mp (List.mem_of_mem_drop hx)
  unfold price at hvalue
  split at hvalue
  · split at hvalue
    · rename_i h
      cases hvalue
      exact h.2
    · cases hvalue
  · cases hvalue

/-! ## The candidates -/

structure Fits (raw : ℤ) (e : Envelope) (truth : ℤ) : Prop where
  canonical : Canonical truth
  low : e.low ≤ truth
  high : truth ≤ e.high
  digits : truth % modulus raw = raw

theorem raw_lt_modulus {raw : ℤ} (h : Canonical raw) : raw < modulus raw := by
  have hlt := Nat.lt_pow_succ_log_self (b := 10) (by decide) raw.natAbs
  have habs : (raw.natAbs : ℤ) = raw := Int.natAbs_of_nonneg (le_trans (by decide) h.1)
  rw [modulus, ← habs]
  exact_mod_cast hlt

section Candidates

variable {raw : ℤ} {e : Envelope}

theorem mem_candidates {c : ℤ} : c ∈ candidates raw e ↔ (∃ k : ℤ, 0 ≤ k ∧
    ⌊e.center / modulus raw⌋ - 2 ≤ k ∧ k ≤ ⌊e.center / modulus raw⌋ + 2 ∧
    c = raw + k * modulus raw) ∧ Canonical c ∧ e.low ≤ c ∧ c ≤ e.high := by
  simp only [candidates, notationCandidates, List.mem_insertionSort, List.mem_filter,
    List.mem_map, List.mem_range, decide_eq_true_eq, and_assoc]
  refine and_congr_left fun _ => ⟨?_, ?_⟩
  · rintro ⟨i, hi, rfl⟩
    exact ⟨max 0 (⌊e.center / modulus raw⌋ - 2) + i, by omega, by omega, by omega, rfl⟩
  · rintro ⟨k, h0, h1, h2, rfl⟩
    refine ⟨(k - max 0 (⌊e.center / modulus raw⌋ - 2)).toNat, by omega, ?_⟩
    congr 2
    omega

theorem fits_of_mem (hraw : Canonical raw) {c : ℤ} (h : c ∈ candidates raw e) : Fits raw e c := by
  obtain ⟨⟨k, _, _, _, rfl⟩, hcanonical, hlow, hhigh⟩ := mem_candidates.mp h
  refine ⟨hcanonical, hlow, hhigh, ?_⟩
  rw [Int.add_mul_emod_self_right]
  exact Int.emod_eq_of_lt (le_trans (by decide) hraw.1) (raw_lt_modulus hraw)

theorem candidate_of_fits (hraw : Canonical raw) (hc : e.low ≤ e.center ∧ e.center ≤ e.high ∧
    50000 ≤ e.center ∧ e.center ≤ 500000) {truth : ℤ} (h : Fits raw e truth) :
    truth ∈ candidates raw e ∨ ∃ c ∈ candidates raw e, |c - e.center| < |truth - e.center| := by
  obtain ⟨hcanonical, hlow, hhigh, hdigits⟩ := h
  have hpos : (0 : ℤ) < modulus raw := by unfold modulus; positivity
  have hlt := raw_lt_modulus hraw
  have hraw0 : 0 ≤ raw := le_trans (by decide) hraw.1
  generalize hm : modulus raw = m at hpos hlt hdigits
  generalize hb : ⌊e.center / m⌋ = b
  have hposq : (0 : ℚ) < m := by exact_mod_cast hpos
  have hbelow : (b : ℚ) * m ≤ e.center := by
    rw [← hb]
    exact (le_div_iff₀ hposq).mp (Int.floor_le _)
  have habove : e.center < (b + 1) * m := by
    rw [← hb]
    exact (div_lt_iff₀ hposq).mp (Int.lt_floor_add_one _)
  -- the price in terms of its bucket
  obtain ⟨k, hk⟩ : ∃ k, truth = raw + k * m :=
    ⟨truth / m, by rw [← hdigits]; linarith [Int.emod_add_mul_ediv truth m]⟩
  have hk0 : 0 ≤ k := by
    by_contra hneg
    have : k * m ≤ -1 * m := by gcongr; omega
    have := hcanonical.1
    omega
  have hmem : ∀ {j : ℤ}, 0 ≤ j → b - 2 ≤ j → j ≤ b + 2 → Canonical (raw + j * m) →
      e.low ≤ (raw + j * m : ℤ) → ((raw + j * m : ℤ) : ℚ) ≤ e.high →
        raw + j * m ∈ candidates raw e := by
    intro j h0 h1 h2 h3 h4 h5
    refine mem_candidates.mpr ⟨⟨j, h0, ?_, ?_, by rw [hm]⟩, h3, h4, h5⟩
    · rw [hm, hb]
      exact h1
    · rw [hm, hb]
      exact h2
  have hrawq : (0 : ℚ) ≤ raw ∧ (raw : ℚ) < m := ⟨by exact_mod_cast hraw0, by exact_mod_cast hlt⟩
  have htruthq : (truth : ℚ) = raw + k * m := by rw [hk]; push_cast; ring
  have hcanonq : (50000 : ℚ) ≤ truth ∧ (truth : ℚ) ≤ 500000 := by
    exact_mod_cast hcanonical
  -- a price between the median and the given one is a candidate that is nearer
  have hbetween : ∀ {j : ℤ}, 0 ≤ j → b - 2 ≤ j → j ≤ b + 2 →
      ((truth : ℚ) < (raw + j * m : ℤ) ∧ ((raw + j * m : ℤ) : ℚ) < e.center ∨
        e.center < (raw + j * m : ℤ) ∧ ((raw + j * m : ℤ) : ℚ) < truth) →
      ∃ c ∈ candidates raw e, |c - e.center| < |truth - e.center| := by
    intro j h0 h1 h2 hside
    refine ⟨raw + j * m, hmem h0 h1 h2 ?_ ?_ ?_, ?_⟩
    · have hq : (50000 : ℚ) ≤ (raw + j * m : ℤ) ∧ ((raw + j * m : ℤ) : ℚ) ≤ 500000 := by
        rcases hside with hside | hside <;> constructor <;> linarith
      exact_mod_cast hq
    · rcases hside with hside | hside <;> linarith
    · rcases hside with hside | hside <;> linarith
    · rcases hside with hside | hside
      · rw [abs_of_neg (by linarith), abs_of_neg (by linarith)]
        linarith
      · rw [abs_of_pos (by linarith), abs_of_pos (by linarith)]
        linarith
  obtain hfar | hnear | hfar : k ≤ b - 3 ∨ (b - 2 ≤ k ∧ k ≤ b + 2) ∨ b + 3 ≤ k := by omega
  · refine .inr (@hbetween (b - 1) (by omega) (by omega) (by omega) (.inl ?_))
    have hkq : (k : ℚ) * m ≤ (b - 3) * m := by
      gcongr
      exact_mod_cast hfar
    push_cast
    constructor <;> nlinarith
  · left
    rw [hk] at hcanonical hlow hhigh ⊢
    exact hmem hk0 hnear.1 hnear.2 hcanonical hlow hhigh
  · have hcenter : (0 : ℚ) < (b + 1) * m := by linarith
    have hb0 : (0 : ℚ) < b + 1 := (pos_iff_pos_of_mul_pos hcenter).mpr hposq
    have hb1 : 0 < b + 1 := by exact_mod_cast hb0
    refine .inr (@hbetween (b + 1) (by omega) (by omega) (by omega) (.inr ?_))
    have hkq : ((b : ℚ) + 3) * m ≤ k * m := by
      gcongr
      exact_mod_cast hfar
    push_cast
    constructor <;> nlinarith

theorem candidates_nodup (raw : ℤ) (e : Envelope) : (candidates raw e).Nodup := by
  refine (List.perm_insertionSort _ _).nodup_iff.mpr (List.Nodup.filter _ (List.Nodup.filter _ ?_))
  apply List.nodup_range.map
  intro i j hij
  have hpos : (0 : ℤ) < modulus raw := by unfold modulus; positivity
  have hmul := mul_right_cancel₀ hpos.ne' (add_left_cancel hij)
  omega

instance (center : ℚ) : Std.Total (nearer center) where
  total a b := by
    unfold nearer
    rcases lt_trichotomy |(a : ℚ) - center| |(b : ℚ) - center| with h | h | h
    · exact .inl (.inl h)
    · exact (le_total a b).imp (fun hab => .inr ⟨h, hab⟩) fun hba => .inr ⟨h.symm, hba⟩
    · exact .inr (.inl h)

instance (center : ℚ) : IsTrans ℤ (nearer center) where
  trans a b c := by
    rintro (h1 | ⟨h1, h1'⟩) (h2 | ⟨h2, h2'⟩)
    · exact .inl (h1.trans h2)
    · exact .inl (h2 ▸ h1)
    · exact .inl (h1 ▸ h2)
    · exact .inr ⟨h1.trans h2, h1'.trans h2'⟩

theorem first_is_nearest {winner : ℤ} {rest : List ℤ} (h : candidates raw e = winner :: rest)
    (hapart : ∀ second ∈ rest.head?, |winner - e.center| ≠ |second - e.center|) :
    ∀ other ∈ candidates raw e, other ≠ winner → |winner - e.center| < |other - e.center| := by
  have hsorted : (candidates raw e).Pairwise (nearer e.center) := List.pairwise_insertionSort _ _
  rw [h] at hsorted ⊢
  obtain ⟨hfirst, hrest⟩ := List.pairwise_cons.mp hsorted
  intro other hother hne
  have hmem : other ∈ rest := (List.mem_cons.mp hother).resolve_left hne
  rcases hfirst other hmem with hlt | ⟨heq, _⟩
  · exact hlt
  · cases rest with
    | nil => cases hmem
    | cons second tail =>
      have hle : ∀ {a b : ℤ}, nearer e.center a b → |a - e.center| ≤ |b - e.center| := fun h =>
        h.elim le_of_lt fun h => h.1.le
      have hsecond : |second - e.center| ≤ |other - e.center| := by
        rcases List.mem_cons.mp hmem with rfl | htail
        · exact le_rfl
        · exact hle ((List.pairwise_cons.mp hrest).1 other htail)
      exact absurd (le_antisymm (hle (hfirst second List.mem_cons_self)) (heq ▸ hsecond))
        (hapart second rfl)

end Candidates

/-! ## The normalization -/

/-- A quote is returned as it came, or as the fitting price that is nearest to the median. -/
def ReturnsNearest (original : Amount) (prior : List (Option Amount)) (returned : Amount) : Prop :=
  returned = original ∨ ∃ raw winner : ℤ, price (some original) = some raw ∧
    returned = .finite winner ∧ Fits raw (envelope (references prior)) winner ∧
    ∀ other, Fits raw (envelope (references prior)) other → other ≠ winner →
      |winner - (envelope (references prior)).center| <
        |other - (envelope (references prior)).center|

/-- A quote that is the end of a price inside a narrow envelope is returned as that price. -/
def Recovers (quote : ℤ) (prior : List (Option Amount)) (returned : Amount) : Prop :=
  3 ≤ (references prior).length →
    (envelope (references prior)).high - (envelope (references prior)).low < modulus quote →
      ∀ truth, Fits quote (envelope (references prior)) truth → returned = .finite truth

theorem fits_unique {raw a b : ℤ} {e : Envelope} (hnarrow : e.high - e.low < modulus raw)
    (ha : Fits raw e a) (hb : Fits raw e b) : a = b := by
  have hmod : modulus raw ∣ a - b := Int.dvd_of_emod_eq_zero
    (Int.emod_eq_emod_iff_emod_sub_eq_zero.mp (ha.digits.trans hb.digits.symm))
  have habs : |a - b| < modulus raw := by
    have h1 := ha.low
    have h2 := ha.high
    have h3 := hb.low
    have h4 := hb.high
    have hq : |(a : ℚ) - b| < modulus raw := abs_lt.mpr ⟨by linarith, by linarith⟩
    exact_mod_cast hq
  exact sub_eq_zero.mp (Int.eq_zero_of_abs_lt_dvd hmod habs)

theorem normalizeCanonical_sound {raw : ℤ} (hraw : Canonical raw) (prior : List (Option Amount)) :
    ReturnsNearest (.finite raw) prior (normalizeCanonical raw prior).price ∧
      Recovers raw prior (normalizeCanonical raw prior).price := by
  have hprice : price (some (.finite raw)) = some raw := by
    simp [price, hraw, Rat.isInt]
  unfold normalizeCanonical ReturnsNearest Recovers
  dsimp only
  by_cases hcount : (references prior).length < 3
  · rw [if_pos hcount]
    exact ⟨.inl rfl, fun h => absurd hcount (Nat.not_lt.mpr h)⟩
  · rw [if_neg hcount]
    have hcenter := envelope_center (Nat.le_of_not_lt hcount) (references_canonical prior)
    generalize envelope (references prior) = e at hcenter
    by_cases hwithin : e.low ≤ raw ∧ raw ≤ e.high
    · rw [if_pos hwithin]
      have hself : Fits raw e raw := ⟨hraw, hwithin.1, hwithin.2, Int.emod_eq_of_lt
        (le_trans (by decide) hraw.1) (raw_lt_modulus hraw)⟩
      exact ⟨.inl rfl, fun _ hnarrow truth htruth => by rw [fits_unique hnarrow htruth hself]⟩
    · rw [if_neg hwithin]
      cases hlist : candidates raw e with
      | nil =>
        refine ⟨.inl rfl, fun _ _ truth htruth => ?_⟩
        have hsome := candidate_of_fits hraw hcenter htruth
        simp [hlist] at hsome
      | cons winner rest =>
        have hwinner : Fits raw e winner := fits_of_mem hraw (hlist ▸ List.mem_cons_self)
        dsimp only
        by_cases htie : rest.head?.any (fun second : ℤ =>
            decide (|winner - e.center| = |second - e.center|)) = true
        · rw [if_pos htie]
          refine ⟨.inl rfl, fun _ hnarrow truth htruth => ?_⟩
          -- the second candidate fits as well, so that it would be the first one again
          obtain ⟨second, hsecond, _⟩ := (Option.any_eq_true _ _).mp htie
          have hmem : second ∈ rest := List.mem_of_head? hsecond
          have hsame := fits_unique hnarrow hwinner
            (fits_of_mem hraw (hlist ▸ List.mem_cons_of_mem _ hmem))
          have hnodup := candidates_nodup raw e
          rw [hlist, hsame] at hnodup
          exact absurd hmem (List.nodup_cons.mp hnodup).1
        · rw [if_neg htie]
          have hnearest := first_is_nearest hlist fun second hsecond heq =>
            htie ((Option.any_eq_true _ _).mpr ⟨second, hsecond, decide_eq_true heq⟩)
          refine ⟨.inr ⟨raw, winner, hprice, rfl, hwinner, fun other hother hne => ?_⟩,
            fun _ hnarrow truth htruth => by rw [fits_unique hnarrow htruth hwinner]⟩
          rcases candidate_of_fits hraw hcenter hother with hmem | ⟨c, hc, hcloser⟩
          · exact hnearest other hmem hne
          · by_cases hsame : c = winner
            · rw [← hsame]
              exact hcloser
            · exact (hnearest c hc hsame).trans hcloser

/-- What is returned is the quote or the one fitting price nearest to the median, and a canonical
quote that ends a price inside a narrow envelope becomes that price. -/
theorem normalized_price_sound (original : Amount) (prior : List (Option Amount)) :
    ∃ result, normalizeHeratPrice (some original) prior = .ok result ∧
      ReturnsNearest original prior result.price ∧
      ∀ quote : ℤ, original = .finite quote → Canonical quote →
        Recovers quote prior result.price := by
  cases hprice : price (some original) with
  | none =>
    refine ⟨_, by rw [normalizeHeratPrice, hprice], .inl rfl, fun quote hquote hcanonical => ?_⟩
    simp [hquote, price, hcanonical, Rat.isInt] at hprice
  | some raw =>
    obtain ⟨hraw, rfl⟩ : Canonical raw ∧ original = .finite raw := by
      unfold price at hprice
      split at hprice
      · rename_i value hvalue
        split at hprice
        · rename_i h
          cases hprice
          cases hvalue
          refine ⟨h.2, congrArg Amount.finite ?_⟩
          exact (Rat.eq_num_of_isInt h.1)
        · cases hprice
      · cases hprice
    obtain ⟨hnearest, hrecovers⟩ := normalizeCanonical_sound hraw prior
    refine ⟨_, by rw [normalizeHeratPrice, hprice], hnearest, fun quote hquote _ => ?_⟩
    have hsame : raw = quote := by
      injection hquote with hquote
      exact_mod_cast hquote
    rw [← hsame]
    exact hrecovers

def priorQuotes : List (Option Amount) :=
  [some (.finite 123400), some (.finite 123450), some (.finite 123500)]

theorem references_priorQuotes : references priorQuotes = [123400, 123450, 123500] := by
  simp [references, priorQuotes, price, Canonical, Rat.isInt]

theorem envelope_priorQuotes :
    envelope [123400, 123450, 123500] = ⟨244331 / 2, 249469 / 2, 123450⟩ := by
  norm_num [envelope, robustRange, trimmed, median, abs_of_pos]

theorem modulus_of_log {raw : ℤ} {digits : ℕ} (h : Nat.log 10 raw.natAbs = digits) :
    modulus raw = 10 ^ (digits + 1) := by
  rw [modulus, h]

/-- The price 123456 is not recovered from its last five digits: 23456 is not canonical. -/
theorem short_quote_not_recovered : ¬ ∃ result,
    normalizeHeratPrice (some (.finite (23456 : ℤ))) priorQuotes = .ok result ∧
      Recovers 23456 priorQuotes result.price := by
  rintro ⟨result, hresult, hrecovers⟩
  have hmodulus : modulus 23456 = 10 ^ 5 :=
    modulus_of_log (Nat.log_eq_of_pow_le_of_lt_pow (by decide) (by decide))
  unfold Recovers at hrecovers
  rw [references_priorQuotes, envelope_priorQuotes, hmodulus] at hrecovers
  have hprice := hrecovers (by decide) (by norm_num) 123456
    ⟨by decide, by norm_num, by norm_num, by rw [hmodulus]; decide⟩
  have hnone : price (some (.finite (23456 : ℤ))) = none := by
    rw [price, if_neg fun h => absurd h.2 (by decide)]
  rw [normalizeHeratPrice, hnone] at hresult
  cases hresult
  injection hprice with hvalue
  norm_num at hvalue

/-- The price 173456 with its first digit dropped, after quotes around 173450. -/
theorem clipped_quote_recovered : ∃ result, normalizeHeratPrice (some (.finite (73456 : ℤ)))
    [some (.finite (173400 : ℤ)), some (.finite (173450 : ℤ)), some (.finite (173500 : ℤ))] =
      .ok result ∧ result.price = .finite (173456 : ℤ) := by
  obtain ⟨result, hresult, _, hrecovers⟩ := normalized_price_sound (.finite (73456 : ℤ))
    [some (.finite (173400 : ℤ)), some (.finite (173450 : ℤ)), some (.finite (173500 : ℤ))]
  refine ⟨result, hresult, ?_⟩
  have hmodulus : modulus 73456 = 10 ^ 5 :=
    modulus_of_log (Nat.log_eq_of_pow_le_of_lt_pow (by decide) (by decide))
  have hrefs : references [some (.finite (173400 : ℤ)), some (.finite (173450 : ℤ)),
      some (.finite (173500 : ℤ))] = [173400, 173450, 173500] := by
    simp [references, price, Canonical, Rat.isInt]
  have henvelope : envelope [173400, 173450, 173500] = ⟨343331 / 2, 350469 / 2, 173450⟩ := by
    norm_num [envelope, robustRange, trimmed, median, abs_of_pos]
  have h := hrecovers 73456 rfl (by decide)
  unfold Recovers at h
  rw [hrefs, henvelope, hmodulus] at h
  exact h (by decide) (by norm_num) 173456
    ⟨by decide, by norm_num, by norm_num, by rw [hmodulus]; decide⟩

end TradingBot.Intelligence.Herat
