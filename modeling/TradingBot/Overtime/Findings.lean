import TradingBot.Overtime.Steps
import Mathlib.Data.List.Pairwise

/-!
# What the reconciler finds

The queries of a call at the start of its transaction, and the row behind a finding.
-/

namespace TradingBot.Overtime

open TradingBot TradingBot.Misc

variable {c : Call} {rows : List OfferRequest} {limit : Nat} {row r : OfferRequest}
  {jobs : Nat → Option DeliveryJob} {lifetime clock : Int} {f : Finding} {p : OfferRequest → Bool}
  {target : String × Finding}

theorem mem_session_select : r ∈ (c.session rows).select p ↔ r ∈ rows ∧ p r = true := by
  have hselect : (c.session rows).select p = rows.filter p := UnitOfWork.select_load p rows
  rw [hselect, List.mem_filter]

theorem mem_selectOwnRows (h : r ∈ selectOwnRows c.ambient limit p (c.session rows)) :
    r ∈ rows ∧ r.workflowKind = .overtime ∧ r.requestHomeServer = c.ambient.currentServer ∧
      p r = true := by
  have hsorted := List.mem_of_mem_take h
  have hselected := (List.perm_insertionSort _ _).mem_iff.mp hsorted
  obtain ⟨hr, hp⟩ := mem_session_select.mp hselected
  simp only [decide_eq_true_eq] at hp
  exact ⟨hr, hp.1, hp.2.1, hp.2.2⟩

theorem eq_of_requestPublicId_eq (hunique : uniqueIndexes rows = true)
    {a b : OfferRequest} (ha : a ∈ rows) (hb : b ∈ rows)
    (h : a.requestPublicId = b.requestPublicId) (hsome : a.requestPublicId.isSome = true) :
    a = b := by
  by_contra hne
  have hsymm : Std.Symm fun a b : OfferRequest => a.requestPublicId.isSome = true →
      a.requestPublicId ≠ b.requestPublicId :=
    ⟨fun a b hab hb heq => hab (heq ▸ hb) heq.symm⟩
  have hpair : rows.Pairwise fun a b => a.requestPublicId.isSome = true →
      a.requestPublicId ≠ b.requestPublicId := by
    apply (uniqueIndexes_iff.mp hunique).imp
    intro a b hclash hsome heq
    have hyes : a.clashes b = true := by
      unfold OfferRequest.clashes
      exact decide_eq_true (.inr ⟨hsome, heq⟩)
    rw [hyes] at hclash
    cases hclash
  exact hpair.forall ha hb hne hsome h

theorem mem_lockedRows {targets : List (String × Finding)} {key : String}
    (h : (Rule.lockedRows c.ambient targets (c.session rows)).find?
      (fun r => r.requestPublicId = some key) = some row) :
    row ∈ rows ∧ row.requestPublicId = some key := by
  have hmem := List.mem_of_find?_eq_some h
  have hkey := List.find?_some h
  exact ⟨(mem_session_select.mp hmem).1, by simpa using hkey⟩

theorem mem_repairTargets
    (h : target ∈ Rule.repairTargets c.ambient jobs c.now lifetime limit (c.session rows)) :
    target.2 ∈ collectOvertimeReconciliationFindings c.ambient jobs c.now lifetime limit
      (c.session rows) ∧ target.2.requestPublicId = some target.1 := by
  obtain ⟨key, _, hkey⟩ := List.mem_filterMap.mp h
  obtain ⟨f, hf, rfl⟩ := Option.map_eq_some_iff.mp hkey
  have hmem := List.mem_reverse.mp (List.mem_of_find?_eq_some hf)
  have hpublic := List.find?_some hf
  exact ⟨(List.mem_filter.mp hmem).1, by simpa using hpublic⟩

theorem issue_of_offerFindings {offer : Option Offer}
    (h : f ∈ offerFindings clock lifetime offer row) :
    f.issue = .nonterminalOnMissingOffer ∨ f.issue = .nonterminalOnInactiveOffer ∨
      f.issue = .nonterminalPastFinalDeadline := by
  unfold offerFindings at h
  split at h
  · rw [List.mem_singleton.mp h]
    exact .inl rfl
  · split_ifs at h
    · rw [List.mem_singleton.mp h]
      exact .inr (.inl rfl)
    · split at h
      · cases h
      · split_ifs at h
        · rw [List.mem_singleton.mp h]
          exact .inr (.inr rfl)
        · cases h
    · cases h

theorem issue_of_jobFindings (h : f ∈ jobFindings jobs row) : f.issue = .deliveryJobMissing ∨
      f.issue = .deliveryJobIdentityMismatch ∨ f.issue = .deliveryMessageIdMismatch := by
  unfold jobFindings at h
  split at h
  · cases h
  · split at h
    · rw [List.mem_singleton.mp h]
      exact .inl rfl
    · rcases List.mem_append.mp h with h | h
      · split_ifs at h
        · rw [List.mem_singleton.mp h]
          exact .inr (.inl rfl)
        · cases h
      · split at h
        · split_ifs at h
          · rw [List.mem_singleton.mp h]
            exact .inr (.inr rfl)
          · cases h
        · cases h

theorem issue_of_occupancyFindings
    (h : f ∈ occupancyFindings rows) : f.issue = .multipleOwnerOccupying := by
  obtain ⟨owner, _, hf⟩ := List.mem_flatMap.mp h
  dsimp only at hf
  split_ifs at hf
  · obtain ⟨r, _, rfl⟩ := List.mem_map.mp hf
    rfl
  · cases hf

/-- A finding of the clock is about a request that the reconciler selected. -/
theorem clock_finding
    (h : f ∈ collectOvertimeReconciliationFindings c.ambient jobs c.now lifetime limit
      (c.session rows))
    (hissue : f.issue = .overduePresentedDecision ∨ f.issue = .overdueDelivering) :
    ∃ x ∈ selectOwnRows c.ambient limit OfferRequest.isOpen (c.session rows),
      f ∈ clockFindings c.now x := by
  unfold collectOvertimeReconciliationFindings at h
  dsimp only at h
  rcases List.mem_append.mp h with h | h
  · rcases List.mem_append.mp h with h | h
    · obtain ⟨x, hx, hf⟩ := List.mem_flatMap.mp h
      rcases List.mem_append.mp hf with hf | hf
      · rcases List.mem_append.mp hf with hf | hf
        · exact ⟨x, hx, hf⟩
        · rcases issue_of_offerFindings hf with hother | hother | hother <;>
            rw [hother] at hissue <;> rcases hissue with hissue | hissue <;> cases hissue
      · rcases issue_of_jobFindings hf with hother | hother | hother <;>
          rw [hother] at hissue <;> rcases hissue with hissue | hissue <;> cases hissue
    · rw [issue_of_occupancyFindings h] at hissue
      rcases hissue with hissue | hissue <;> cases hissue
  · obtain ⟨x, _, rfl⟩ := List.mem_map.mp h
    rcases hissue with hissue | hissue <;> cases hissue

theorem clockFindings_cases {x : OfferRequest} (h : f ∈ clockFindings clock x) :
    (∀ key, f.requestPublicId = some key → x.requestPublicId = some key) ∧
      (f.issue = .presentedWithoutDeadline ∨
        (f.issue = .overduePresentedDecision ∧ x.resultStatus = .overtimePresented ∧
          ∃ deadline, x.decisionDeadlineAt = some deadline ∧ deadline ≤ clock) ∨
        (f.issue = .overdueDelivering ∧ x.resultStatus = .overtimeDelivering ∧
          deliveryOverdue clock x = true ∧ x.telegramMessageId = none)) := by
  have hkey : ∀ issue detail key, (finding issue x detail).requestPublicId = some key →
      x.requestPublicId = some key := fun _ _ _ hfound => (Option.filter_eq_some_iff.mp hfound).1
  unfold clockFindings at h
  split at h
  · rename_i hpresented
    split at h
    · rw [List.mem_singleton.mp h]
      exact ⟨hkey _ _, .inl rfl⟩
    · rename_i deadline hdeadline
      split_ifs at h with hdue
      · rw [List.mem_singleton.mp h]
        exact ⟨hkey _ _, .inr (.inl ⟨rfl, hpresented, deadline, hdeadline, hdue⟩)⟩
      · cases h
  · split_ifs at h with hover
    · rw [List.mem_singleton.mp h]
      exact ⟨hkey _ _, .inr (.inr ⟨rfl, ‹_›, hover⟩)⟩
    · cases h
  · cases h

/-- The row that a finding of the clock is repaired on is the one it was found on. -/
theorem clockFindings_of_target (hunique : uniqueIndexes rows = true)
    (htarget : target ∈ Rule.repairTargets c.ambient jobs c.now lifetime limit (c.session rows))
    (hrow : (Rule.lockedRows c.ambient
      (Rule.repairTargets c.ambient jobs c.now lifetime limit (c.session rows))
        (c.session rows)).find? (fun r => r.requestPublicId = some target.1) = some row)
    (hissue : target.2.issue = .overduePresentedDecision ∨ target.2.issue = .overdueDelivering) :
    row ∈ selectOwnRows c.ambient limit OfferRequest.isOpen (c.session rows) ∧
      target.2 ∈ clockFindings c.now row := by
  obtain ⟨hmem, hkey⟩ := mem_lockedRows hrow
  obtain ⟨hfound, hpublic⟩ := mem_repairTargets htarget
  obtain ⟨x, hx, hf⟩ := clock_finding hfound hissue
  have hxkey := (clockFindings_cases hf).1 _ hpublic
  have hsame : row = x := eq_of_requestPublicId_eq hunique hmem (mem_selectOwnRows hx).1
    (hkey.trans hxkey.symm) (by rw [hkey]; rfl)
  rw [hsame]
  exact ⟨hx, hf⟩

end TradingBot.Overtime
