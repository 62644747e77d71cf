import TradingBot.Offer.Conservation

/-!
# What a lot suggestion is worth

`validate_lot_sizes` rejects lots whose sum is wrong and adds the combination of
`suggest_lot_combination`. The excess is taken from the largest lots first, each down to the
minimum, so that the loop takes exactly the excess or all that the lots have above the minimum.
-/

namespace TradingBot

variable {minLot total : Int} {lots : List Int} {settings : TradingSettings}

def AtLeast (minLot : Int) (lots : List Int) : Prop := ∀ lot ∈ lots, minLot ≤ lot

def slack (minLot : Int) (lots : List Int) : Int := lots.sum - lots.length * minLot

theorem slack_cons (minLot lot : Int) (rest : List Int) :
    slack minLot (lot :: rest) = (lot - minLot) + slack minLot rest := by
  unfold slack
  rw [List.sum_cons, List.length_cons, Int.natCast_add, Int.natCast_one, Int.add_mul]
  omega

theorem slack_nonneg (h : AtLeast minLot lots) : 0 ≤ slack minLot lots := by
  induction lots with
  | nil => simp [slack]
  | cons lot rest ih =>
    rw [slack_cons]
    have hlot := h lot List.mem_cons_self
    have hrest := ih fun x hx => h x (List.mem_cons_of_mem lot hx)
    omega

theorem length_reduceLots (minLot excess : Int) (lots : List Int) :
    (reduceLots minLot excess lots).length = lots.length := by
  induction lots generalizing excess with
  | nil => rfl
  | cons lot rest ih =>
    unfold reduceLots
    dsimp only
    split
    · rfl
    · rw [List.length_cons, ih, List.length_cons]

theorem atLeast_reduceLots (h : AtLeast minLot lots) (excess : Int) :
    AtLeast minLot (reduceLots minLot excess lots) := by
  induction lots generalizing excess with
  | nil => exact h
  | cons lot rest ih =>
    have hlot := h lot List.mem_cons_self
    have hrest : AtLeast minLot rest := fun x hx => h x (List.mem_cons_of_mem lot hx)
    unfold reduceLots
    dsimp only
    have hreduced : minLot ≤ lot - min (max 0 (lot - minLot)) excess := by omega
    split
    · intro x hx
      rcases List.mem_cons.mp hx with rfl | hx
      · exact hreduced
      · exact hrest x hx
    · intro x hx
      rcases List.mem_cons.mp hx with rfl | hx
      · exact hreduced
      · exact ih hrest _ x hx

theorem sum_reduceLots (h : AtLeast minLot lots) {excess : Int} (hexcess : 0 < excess) :
    (reduceLots minLot excess lots).sum = lots.sum - min excess (slack minLot lots) := by
  induction lots generalizing excess with
  | nil =>
    simp only [reduceLots, slack, List.sum_nil, List.length_nil]
    omega
  | cons lot rest ih =>
    have hlot := h lot List.mem_cons_self
    have hrest : AtLeast minLot rest := fun x hx => h x (List.mem_cons_of_mem lot hx)
    have hslack := slack_nonneg hrest
    rw [slack_cons]
    unfold reduceLots
    dsimp only
    by_cases hdone : excess - min (max 0 (lot - minLot)) excess = 0
    · rw [if_pos hdone, List.sum_cons, List.sum_cons]
      omega
    · rw [if_neg hdone, List.sum_cons, List.sum_cons, ih hrest (by omega)]
      omega

theorem sum_addToFirst (diff : Int) (hne : lots ≠ []) :
    (addToFirst diff lots).sum = lots.sum + diff := by
  cases lots with
  | nil => exact absurd rfl hne
  | cons lot rest =>
    simp only [addToFirst, List.sum_cons]
    omega

theorem atLeast_addToFirst (h : AtLeast minLot lots) {diff : Int} (hdiff : 0 < diff) :
    AtLeast minLot (addToFirst diff lots) := by
  cases lots with
  | nil => exact h
  | cons lot rest =>
    intro x hx
    rcases List.mem_cons.mp hx with rfl | hx
    · have hlot := h lot List.mem_cons_self
      omega
    · exact h x (List.mem_cons_of_mem lot hx)

theorem length_addToFirst (diff : Int) (lots : List Int) :
    (addToFirst diff lots).length = lots.length := by
  cases lots <;> rfl

theorem sortedDescending_perm (values : List Int) : (sortedDescending values).Perm values :=
  List.mergeSort_perm values _

theorem sum_sortedDescending (values : List Int) : (sortedDescending values).sum = values.sum :=
  (sortedDescending_perm values).sum_eq

theorem length_sortedDescending (values : List Int) :
    (sortedDescending values).length = values.length := (sortedDescending_perm values).length_eq

theorem atLeast_sortedDescending (h : AtLeast minLot lots) :
    AtLeast minLot (sortedDescending lots) := fun x hx =>
  h x ((sortedDescending_perm lots).mem_iff.mp hx)

theorem slack_sortedDescending (minLot : Int) (lots : List Int) :
    slack minLot (sortedDescending lots) = slack minLot lots := by
  unfold slack
  rw [sum_sortedDescending, length_sortedDescending]

theorem pairwise_sortedDescending (values : List Int) :
    (sortedDescending values).Pairwise fun a b => b ≤ a := by
  have htrans : ∀ a b c : Int, decide (b ≤ a) = true → decide (c ≤ b) = true →
      decide (c ≤ a) = true := by
    intro a b c hab hbc
    exact decide_eq_true ((of_decide_eq_true hbc).trans (of_decide_eq_true hab))
  have htotal : ∀ a b : Int, (decide (b ≤ a) || decide (a ≤ b)) = true := by
    intro a b
    rw [Bool.or_eq_true, decide_eq_true_iff, decide_eq_true_iff]
    exact Int.le_total b a
  exact (List.pairwise_mergeSort htrans htotal values).imp of_decide_eq_true

/-! ## Suggestions -/

theorem moved_spec (hmin : AtLeast settings.lotMinSize lots) (hne : lots ≠ [])
    (hsum : lots.sum ≠ total) :
    ∃ moved, suggestLotCombination settings total lots =
        (if moved.sum ≠ total then none else some (sortedDescending moved)) ∧
      moved.length = lots.length ∧ AtLeast settings.lotMinSize moved ∧
      (lots.length * settings.lotMinSize ≤ total → moved.sum = total) := by
  have hsorted : sortedDescending lots ≠ [] := by
    intro hnil
    have hlength := length_sortedDescending lots
    rw [hnil] at hlength
    exact hne (List.length_eq_zero_iff.mp hlength.symm)
  -- the filter drops nothing
  have hfilter : ∀ moved : List Int, AtLeast settings.lotMinSize moved →
      moved.filter (fun lot => settings.lotMinSize ≤ lot) = moved := fun moved hmoved =>
    List.filter_eq_self.mpr fun lot hlot => decide_eq_true (hmoved lot hlot)
  by_cases hshort : 0 < total - lots.sum
  · have hmoved := atLeast_addToFirst (atLeast_sortedDescending hmin) hshort
    refine ⟨addToFirst (total - lots.sum) (sortedDescending lots), ?_, ?_, hmoved, fun _ => ?_⟩
    · unfold suggestLotCombination
      rw [if_neg hne, if_neg hsum]
      dsimp only
      rw [if_pos hshort, hfilter _ hmoved]
    · rw [length_addToFirst, length_sortedDescending]
    · rw [sum_addToFirst _ hsorted, sum_sortedDescending]
      omega
  · have hexcess : 0 < -(total - lots.sum) := by omega
    have hmoved := atLeast_reduceLots (atLeast_sortedDescending hmin) (-(total - lots.sum))
    refine ⟨reduceLots settings.lotMinSize (-(total - lots.sum)) (sortedDescending lots), ?_, ?_,
      hmoved, fun henough => ?_⟩
    · unfold suggestLotCombination
      rw [if_neg hne, if_neg hsum]
      dsimp only
      rw [if_neg hshort, hfilter _ hmoved]
    · rw [length_reduceLots, length_sortedDescending]
    · rw [sum_reduceLots (atLeast_sortedDescending hmin) hexcess, sum_sortedDescending,
        slack_sortedDescending]
      have hroom : -(total - lots.sum) ≤ slack settings.lotMinSize lots := by
        unfold slack
        omega
      omega

theorem find_below_min (hmin : AtLeast minLot lots) :
    lots.find? (fun lot => lot < minLot) = none := by
  apply List.find?_eq_none.mpr
  intro lot hlot
  have hlot := hmin lot hlot
  simp only [decide_eq_true_eq]
  omega

theorem validateLotSizes_of_sum (hcount : lots.length ≤ settings.lotMaxCount)
    (hmin : AtLeast settings.lotMinSize lots) (hsum : lots.sum = total) :
    validateLotSizes settings total lots = .accepted lots := by
  unfold validateLotSizes
  rw [if_neg (by omega), find_below_min hmin]
  dsimp only
  rw [if_neg (not_not_intro hsum)]

theorem validateLotSizes_rejected (hcount : lots.length ≤ settings.lotMaxCount)
    (hmin : AtLeast settings.lotMinSize lots) (hsum : lots.sum ≠ total) :
    ∃ message, validateLotSizes settings total lots = .rejected message
      (match suggestLotCombination settings total lots with
        | some (lot :: rest) => some (lot :: rest)
        | _ => none) := by
  unfold validateLotSizes
  rw [if_neg (by omega), find_below_min hmin]
  dsimp only
  rw [if_pos hsum]
  cases suggestLotCombination settings total lots with
  | none => exact ⟨_, rfl⟩
  | some suggested =>
    cases suggested with
    | nil => exact ⟨_, rfl⟩
    | cons lot rest => exact ⟨_, rfl⟩

structure Corrects (settings : TradingSettings) (total : Int) (lots suggested : List Int) :
    Prop where
  noMore : suggested.length ≤ lots.length
  descending : suggested.Pairwise fun a b => b ≤ a
  sum : suggested.sum = total
  atLeast : ∀ lot ∈ suggested, settings.lotMinSize ≤ lot
  accepted : validateLotSizes settings total suggested = .accepted suggested

/-- Every suggestion corrects a list of admissible lots whose sum is wrong, and there is one when
the total is enough for as many minimal lots. -/
theorem lot_suggestion_corrects (settings : TradingSettings) (total : Int) (lots : List Int)
    (hne : 1 ≤ lots.length) (hcount : lots.length ≤ settings.lotMaxCount)
    (hmin : ∀ lot ∈ lots, settings.lotMinSize ≤ lot) (hsum : lots.sum ≠ total) :
    (∀ message suggested, validateLotSizes settings total lots =
      .rejected message (some suggested) → Corrects settings total lots suggested) ∧
    (lots.length * settings.lotMinSize ≤ total → ∃ message suggested,
      validateLotSizes settings total lots = .rejected message (some suggested)) := by
  have hlots : lots ≠ [] := by
    intro hnil
    rw [hnil] at hne
    simp at hne
  obtain ⟨moved, hsuggest, hlength, hmoved, henough⟩ := moved_spec hmin hlots hsum
  obtain ⟨reason, hreject⟩ := validateLotSizes_rejected hcount hmin hsum
  have hnonempty : ∃ lot rest, sortedDescending moved = lot :: rest := by
    apply List.exists_cons_of_ne_nil
    intro hnil
    have hsorted := length_sortedDescending moved
    rw [hnil, hlength] at hsorted
    simp only [List.length_nil] at hsorted
    omega
  obtain ⟨lot, rest, hcons⟩ := hnonempty
  by_cases htotal : moved.sum = total
  · rw [hsuggest, if_neg (not_not_intro htotal), hcons] at hreject
    refine ⟨fun message suggested h => ?_, fun _ => ⟨reason, lot :: rest, hreject⟩⟩
    rw [hreject] at h
    injection h with _ h
    injection h with h
    rw [← h, ← hcons]
    have hsame : (sortedDescending moved).length = lots.length := by
      rw [length_sortedDescending, hlength]
    have hright : (sortedDescending moved).sum = total := by
      rw [sum_sortedDescending, htotal]
    have hgood := atLeast_sortedDescending hmoved
    exact ⟨hsame.le, pairwise_sortedDescending moved, hright, hgood,
      validateLotSizes_of_sum (hsame.le.trans hcount) hgood hright⟩
  · rw [hsuggest, if_pos htotal] at hreject
    refine ⟨fun message suggested h => ?_, fun hroom => absurd (henough hroom) htotal⟩
    rw [hreject] at h
    injection h with _ h
    cases h

theorem three_lots_corrected :
    ∃ message suggested, validateLotSizes {} 20 [12, 10, 8] = .rejected message (some suggested) ∧
      Corrects {} 20 [12, 10, 8] suggested := by
  have hcorrects := lot_suggestion_corrects {} 20 [12, 10, 8] (by decide) (by decide) (by decide)
    (by decide)
  obtain ⟨message, suggested, hrejected⟩ := hcorrects.2 (by decide)
  exact ⟨message, suggested, hrejected, hcorrects.1 message suggested hrejected⟩

end TradingBot
