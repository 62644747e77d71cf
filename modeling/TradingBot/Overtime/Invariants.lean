import TradingBot.Overtime.Findings
import TradingBot.Misc.Run

/-!
# Invariants of the overtime ledger

Over every run from an empty ledger: one open request per offer, one occupying request per owner,
the limits of a requester, the legal table, and the decision clock.
-/

namespace TradingBot.Overtime

open TradingBot TradingBot.Misc

def openOnOffer (home : Server) (offerPublicId : String) (r : OfferRequest) : Bool :=
  r.requestHomeServer = home ∧ r.offerPublicId = offerPublicId ∧ r.isOpen

def occupyingOwner (home : Server) (owner : Nat) (r : OfferRequest) : Bool :=
  r.inScope home owner ∧ r.isOccupying

def openByRequester (requester : Nat) (r : OfferRequest) : Bool :=
  r.requesterUserId = some requester ∧ r.isOpen

def openByRequesterOnOwner (requester owner : Nat) (r : OfferRequest) : Bool :=
  r.requesterUserId = some requester ∧ r.offerOwnerUserId = some owner ∧ r.isOpen

structure LedgerInvariant (rows : List OfferRequest) : Prop where
  ids : (rows.map OfferRequest.id).Nodup
  perOffer : ∀ home offerPublicId, rows.countP (openOnOffer home offerPublicId) ≤ 1
  perOwner : ∀ home owner, rows.countP (occupyingOwner home owner) ≤ 1
  perRequester : ∀ requester,
    rows.countP (openByRequester requester) ≤ maxOutstandingRequestsPerRequester
  perRequesterOnOwner : ∀ requester owner,
    rows.countP (openByRequesterOnOwner requester owner) ≤ 1
  clock : ∀ r ∈ rows, r.resultStatus = .overtimePresented → ∃ presentedAt,
    r.presentedAt = some presentedAt ∧ r.decisionDeadlineAt = some (presentedAt + 30 * second)

/-- The status of a row stays or makes one change of the legal table, one that is not open stays,
and a new row is queued or has made one change from there. -/
def FollowsTable (rows rows' : List OfferRequest) : Prop :=
  (∀ r ∈ rows, ∃ r' ∈ rows', r'.id = r.id ∧
    (r'.resultStatus = r.resultStatus ∨ LegalChange r.resultStatus r'.resultStatus) ∧
    (r.resultStatus ∉ overtimeNonterminalStatuses → r'.resultStatus = r.resultStatus)) ∧
  ∀ r' ∈ rows', (∀ r ∈ rows, r.id ≠ r'.id) →
    r'.resultStatus = .overtimeQueued ∨ LegalChange .overtimeQueued r'.resultStatus

variable {rows : List OfferRequest}

theorem countP_le_one_of_pairwise {p : OfferRequest → Bool}
    (h : rows.Pairwise (fun a b => ¬ (p a = true ∧ p b = true))) : rows.countP p ≤ 1 := by
  induction h with
  | nil => simp
  | cons hhead _ ih =>
    rename_i a l _
    by_cases ha : p a = true
    · have hzero : l.countP p = 0 := List.countP_eq_zero.mpr fun b hb hp => hhead b hb ⟨ha, hp⟩
      simp [ha, hzero]
    · simpa [ha] using ih

theorem perOffer_of_uniqueIndexes (h : uniqueIndexes rows = true)
    (home : Server) (offerPublicId : String) :
    rows.countP (openOnOffer home offerPublicId) ≤ 1 := by
  refine countP_le_one_of_pairwise ((uniqueIndexes_iff.mp h).imp fun {a b} hclash hboth => ?_)
  simp only [openOnOffer, decide_eq_true_eq] at hboth
  obtain ⟨⟨ha1, ha2, ha3⟩, hb1, hb2, hb3⟩ := hboth
  have hyes : a.clashes b = true := by
    simp [OfferRequest.clashes, ha1, ha2, ha3, hb1, hb2, hb3]
  rw [hyes] at hclash
  cases hclash

theorem perOwner_of_uniqueIndexes (h : uniqueIndexes rows = true)
    (home : Server) (owner : Nat) : rows.countP (occupyingOwner home owner) ≤ 1 := by
  refine countP_le_one_of_pairwise ((uniqueIndexes_iff.mp h).imp fun {a b} hclash hboth => ?_)
  simp only [occupyingOwner, OfferRequest.inScope, decide_eq_true_eq] at hboth
  obtain ⟨⟨⟨ha1, ha2⟩, ha3⟩, ⟨hb1, hb2⟩, hb3⟩ := hboth
  have hyes : a.clashes b = true := by
    simp [OfferRequest.clashes, ha1, ha2, ha3, hb1, hb2, hb3]
  rw [hyes] at hclash
  cases hclash

structure RequesterInvariant (rows : List OfferRequest) : Prop where
  ids : (rows.map OfferRequest.id).Nodup
  perRequester : ∀ requester,
    rows.countP (openByRequester requester) ≤ maxOutstandingRequestsPerRequester
  perRequesterOnOwner : ∀ requester owner,
    rows.countP (openByRequesterOnOwner requester owner) ≤ 1
  timed : ∀ r ∈ rows, Timed r

theorem requesterInvariant_of_forall₂ {rows' : List OfferRequest}
    (hinv : RequesterInvariant rows) (h : List.Forall₂ Evolves rows rows') :
    RequesterInvariant rows' := by
  refine ⟨(map_id_of_forall₂ h).symm ▸ hinv.ids, fun requester => ?_,
    fun requester owner => ?_, fun r' hr' => ?_⟩
  · refine (UnitOfWork.countP_le_of_forall₂ (fun a b hab hb => ?_) h).trans
      (hinv.perRequester requester)
    simp only [openByRequester, decide_eq_true_eq] at hb ⊢
    exact ⟨hab.requester_eq ▸ hb.1, hab.isOpen_before hb.2⟩
  · refine (UnitOfWork.countP_le_of_forall₂ (fun a b hab hb => ?_) h).trans
      (hinv.perRequesterOnOwner requester owner)
    simp only [openByRequesterOnOwner, decide_eq_true_eq] at hb ⊢
    exact ⟨hab.requester_eq ▸ hb.1, hab.owner_eq ▸ hb.2.1, hab.isOpen_before hb.2.2⟩
  · obtain ⟨r, hr, he⟩ := UnitOfWork.forall₂_exists_before h r' hr'
    exact he.timed (hinv.timed r hr)

theorem requesterInvariant_append {row : OfferRequest}
    (hinv : RequesterInvariant rows) (h : Admitted rows row) :
    RequesterInvariant (rows ++ [row]) := by
  refine ⟨?_, fun requester => ?_, fun requester owner => ?_, fun r hr => ?_⟩
  · rw [List.map_append, List.nodup_append]
    refine ⟨hinv.ids, by simp, ?_⟩
    intro id hid other hother heq
    obtain ⟨r, hr, rfl⟩ := List.mem_map.mp hid
    simp only [List.map_cons, List.map_nil, List.mem_singleton] at hother
    have hlt := id_lt_nextId hr
    rw [heq, hother, h.id_eq] at hlt
    exact Nat.lt_irrefl _ hlt
  · rw [List.countP_append, List.countP_singleton]
    by_cases hrow : openByRequester requester row = true
    · have hreq : row.requesterUserId = some requester := by
        simp only [openByRequester, decide_eq_true_eq] at hrow
        exact hrow.1
      have hlimit := h.total requester 0 hreq
      simp only [countRequesterOutstanding] at hlimit
      simp only [hrow, if_true]
      exact hlimit
    · simp only [hrow, Bool.false_eq_true, if_false]
      exact hinv.perRequester requester
  · rw [List.countP_append, List.countP_singleton]
    by_cases hrow : openByRequesterOnOwner requester owner row = true
    · have hreq : row.requesterUserId = some requester ∧ row.offerOwnerUserId = some owner := by
        simp only [openByRequesterOnOwner, decide_eq_true_eq] at hrow
        exact ⟨hrow.1, hrow.2.1⟩
      have hlimit := h.perOwner requester owner hreq.1 hreq.2
      simp only [countRequesterOutstanding] at hlimit
      simp only [hrow, if_true]
      exact hlimit
    · simp only [hrow, Bool.false_eq_true, if_false]
      exact hinv.perRequesterOnOwner requester owner
  · rcases List.mem_append.mp hr with hr | hr
    · exact hinv.timed r hr
    · rw [List.mem_singleton.mp hr]
      intro hpresented
      rw [h.queued] at hpresented
      cases hpresented

theorem step_requesterInvariant (rows : List OfferRequest) (c : Call)
    (hinv : RequesterInvariant rows) : RequesterInvariant (step rows c) := by
  rcases step_cases rows c with hsame | ⟨_, hmoves | ⟨row, hadmitted, hmoves⟩⟩
  · exact hsame.symm ▸ hinv
  · exact requesterInvariant_of_forall₂ hinv hmoves
  · exact requesterInvariant_of_forall₂ (requesterInvariant_append hinv hadmitted) hmoves

theorem step_uniqueIndexes (rows : List OfferRequest) (c : Call)
    (h : uniqueIndexes rows = true) : uniqueIndexes (step rows c) = true := by
  rcases step_cases rows c with hsame | ⟨hunique, _⟩
  · exact hsame.symm ▸ h
  · exact hunique

/-! ## One change per call

Several writes of one call may change a row, but only a request that was presented before the call is
rejected, timed out or traded: so the call as a whole makes one change of the table. -/

def decidedStatuses : List OfferRequestStatus :=
  [.overtimeRejectedByOwner, .overtimeDecisionExpired, .completedTrade]

/-- A write that brings no decision of the owner. -/
def Early (a b : OfferRequest) : Prop :=
  b.resultStatus = a.resultStatus ∨ b.resultStatus ∉ decidedStatuses

instance : IsPreorder OfferRequest Early where
  refl _ := .inl rfl
  trans _ _ _ h h' := by
    rcases h' with hsame | hearly
    · rw [Early, hsame]
      exact h
    · exact .inr hearly

/-- Before the call, the request of an id waits for its presentation, or it is not there yet. -/
def Undecided (rows : List OfferRequest) (id : Nat) : Prop := ∀ r ∈ rows, r.id = id → Waiting r

theorem Withdraws.early {d : Decision} (h : Withdraws d) : d.resultStatus ∉ decidedStatuses := by
  rcases h with hstatus | hstatus <;> rw [hstatus] <;> decide

theorem early_of_shows {a b : OfferRequest} (h : Shows a b) : Early a b := by
  refine h.2.imp_right fun hpresented => ?_
  rw [hpresented]
  decide

theorem decides_early {P : Nat → Prop} {ambient : Ambient} {id : Nat} {d : Decision}
    (hd : d.resultStatus ≠ .overtimePresented) (h : P id → d.resultStatus ∉ decidedStatuses) :
    Txn.Keeps (RowsMove (Within P Early)) (applyOvertimeTransition ambient id d) := fun _ =>
  applyOvertimeTransition_moves fun _ _ hid _ hr' =>
    ⟨evolves_transition hr' fun hp => absurd hp hd, fun hp => .inr (by
      rw [(transitionRow_ok hr').2.2.1]
      exact h (hid ▸ hp))⟩

theorem early_promoteRule (P : Nat → Prop) (ambient : Ambient) :
    PromoteRule ambient (fun _ => True) (RowsMove (Within P Early)) where
  writes :=
    { flush := flushSession_moves
      decides := fun h => decides_early h.2.ends.ne_presented fun _ => h.2.early }
  select _ := .inl trivial
  deliver _ := decides_early (by decide) (fun _ => by decide) _
  present now _ := present_moves now fun _ _ _ hshow => ⟨hshow.1, fun _ => early_of_shows hshow⟩
  job _ _ := fun _ => updateRow_moves fun _ _ _ => ⟨⟨rfl, .refl, id⟩, fun _ => .inl rfl⟩

theorem early_rule (P : Nat → Prop) (ambient : Ambient) :
    Rule ambient (fun _ => True) (fun id d => Ends d ∧ (P id → Withdraws d))
      (RowsMove (Within P Early)) where
  flush := flushSession_moves
  decides h := decides_early h.1.ne_presented fun hp => (h.2 hp).early
  outside h := absurd trivial h
  promote := (early_promoteRule P ambient).promoteNextForOwner
  offers _ _ := fun s => UnitOfWork.moves_refl s.rows

theorem admits_undecided (hunique : uniqueIndexes rows = true) (c : Call) :
    Admits c (fun id d => Ends d ∧ (Undecided rows id → Withdraws d)) (c.session rows) where
  withdraws h := ⟨h.ends, fun _ => h⟩
  decides hends := by
    intro ledger hrow hnot
    obtain ⟨hmem, hid⟩ := mem_of_row? hrow
    rw [session_live] at hmem
    exact ⟨hends, fun hwaits => absurd (hwaits ledger hmem hid) hnot⟩
  overdue row hrow := by
    have hsorted := List.mem_of_mem_take (List.mem_filter.mp hrow).1
    obtain ⟨hmem, hp⟩ := mem_session_select.mp ((List.perm_insertionSort _ _).mem_iff.mp hsorted)
    simp only [decide_eq_true_eq] at hp
    exact ⟨ends_decisionTimeout _, fun hwaits =>
      absurd (hwaits row hmem rfl) (not_waiting_of_presented hp.2.2.1)⟩
  found target htarget row hrow hissue := by
    obtain ⟨hselected, hfound⟩ := clockFindings_of_target hunique htarget hrow (.inl hissue)
    refine ⟨ends_decisionTimeout _, fun hwaits => ?_⟩
    have hwaiting := hwaits row (mem_selectOwnRows hselected).1 rfl
    rcases (clockFindings_cases hfound).2 with hother | ⟨_, hpresented, _⟩ | ⟨hother, _⟩
    · rw [hother] at hissue
      cases hissue
    · exact absurd hwaiting (not_waiting_of_presented hpresented)
    · rw [hother] at hissue
      cases hissue

/-- Along the table, all that takes more than one change from a waiting request is a decision. -/
theorem change_of_reaches {current new : OfferRequestStatus} (h : Reaches current new) :
    new = current ∨ LegalChange current new ∨
      ((current = .overtimeQueued ∨ current = .overtimeDelivering) ∧ new ∈ decidedStatuses) := by
  induction h with
  | refl => exact .inl rfl
  | tail _ hlast ih =>
    rcases ih with rfl | hchange | ⟨_, hdecided⟩
    · exact .inr (.inl hlast)
    · unfold LegalChange at hchange hlast ⊢
      cases current <;> simp only [legalOvertimeTransitions, List.not_mem_nil] at hchange <;>
        simp only [List.mem_cons, List.not_mem_nil, or_false] at hchange <;>
        rcases hchange with rfl | rfl | rfl | rfl | rfl <;>
        simp only [legalOvertimeTransitions, List.mem_cons, List.not_mem_nil, or_false] at hlast <;>
        rcases hlast with rfl | rfl | rfl | rfl | rfl <;> decide
    · unfold LegalChange decidedStatuses at *
      simp only [List.mem_cons, List.not_mem_nil, or_false] at hdecided
      rcases hdecided with rfl | rfl | rfl <;> cases hlast

theorem single_change {a b : OfferRequest}
    (h : Within (Undecided rows) Early a b) (hwaits : Waiting a → Undecided rows a.id) :
    b.resultStatus = a.resultStatus ∨ LegalChange a.resultStatus b.resultStatus := by
  rcases change_of_reaches h.1.status with hsame | hchange | ⟨hwaiting, hdecided⟩
  · exact .inl hsame
  · exact .inr hchange
  · rcases h.2 (hwaits hwaiting) with hsame | hearly
    · exact .inl hsame
    · exact absurd hdecided hearly

theorem followsTable_of_forall₂ {old rows' : List OfferRequest}
    (hids : (rows.map OfferRequest.id).Nodup) (hsub : ∀ r ∈ rows, r ∈ old)
    (hnew : ∀ r ∈ old, r ∈ rows ∨ r.resultStatus = .overtimeQueued ∧ ∀ x ∈ rows, x.id ≠ r.id)
    (h : List.Forall₂ (Within (Undecided rows) Early) old rows') : FollowsTable rows rows' := by
  constructor
  · intro r hr
    obtain ⟨r', hr', hw⟩ := UnitOfWork.forall₂_exists_after h r (hsub r hr)
    refine ⟨r', hr', hw.1.id_eq, single_change hw fun hwaiting x hx hid => ?_,
      eq_of_reaches_of_not_open hw.1.status⟩
    rw [eq_of_id_eq hids hx hr hid]
    exact hwaiting
  · intro r' hr' hfresh
    obtain ⟨r, hr, hw⟩ := UnitOfWork.forall₂_exists_before h r' hr'
    rcases hnew r hr with hold | ⟨hqueued, habsent⟩
    · exact absurd hw.1.id_eq.symm (hfresh r hold)
    · rw [← hqueued]
      exact single_change hw fun _ x hx hid => absurd hid (habsent x hx)

theorem step_followsTable (hids : (rows.map OfferRequest.id).Nodup)
    (hunique : uniqueIndexes rows = true) (c : Call) : FollowsTable rows (step rows c) := by
  have hrule := early_rule (Undecided rows) c.ambient
  rcases step_moves hrule.promote fun hop => perform_keeps hrule (admits_undecided hunique c)
    (fun _ stamp message flush => hrule.markPresented flush (presentMessage_moves stamp message
      fun _ _ _ hshow => ⟨hshow.1, fun _ => early_of_shows hshow⟩)) hop with
    hsame | ⟨_, hmoves | ⟨row, hadmitted, hmoves⟩⟩
  · rw [hsame]
    exact followsTable_of_forall₂ hids (fun _ h => h) (fun _ h => .inl h) (List.forall₂_refl rows)
  · exact followsTable_of_forall₂ hids (fun _ h => h) (fun _ h => .inl h) hmoves
  · refine followsTable_of_forall₂ hids (fun r h => List.mem_append_left _ h) (fun r h => ?_) hmoves
    rcases List.mem_append.mp h with h | h
    · exact .inl h
    · rw [List.mem_singleton.mp h]
      refine .inr ⟨hadmitted.queued, fun x hx hid => ?_⟩
      have hlt := id_lt_nextId hx
      rw [hid, hadmitted.id_eq] at hlt
      exact Nat.lt_irrefl _ hlt

theorem step_invariant (rows : List OfferRequest) (c : Call)
    (h : RequesterInvariant rows ∧ uniqueIndexes rows = true) :
    RequesterInvariant (step rows c) ∧ uniqueIndexes (step rows c) = true :=
  ⟨step_requesterInvariant rows c h.1, step_uniqueIndexes rows c h.2⟩

theorem run_requesterInvariant (calls : List Call) :
    RequesterInvariant (run step [] calls) ∧ uniqueIndexes (run step [] calls) = true :=
  run_invariant (C := fun _ _ _ => True) (fun rows c hinv _ => step_invariant rows c hinv) calls []
    ⟨⟨by simp, by simp, by simp, by simp⟩, rfl⟩ (eachStep_true step calls [])

/-- Every run from an empty ledger keeps the limits per offer, owner and requester; every call
changes a status by one change of the legal table or not at all, and never a terminal one; and every
presented request has its deadline thirty seconds after its presentation. -/
theorem overtime_ledger_invariant (calls : List Call) :
    LedgerInvariant (run step [] calls) ∧
      EachStep step (fun rows _ rows' => FollowsTable rows rows') [] calls := by
  obtain ⟨hinv, hunique⟩ := run_requesterInvariant calls
  refine ⟨⟨hinv.ids, perOffer_of_uniqueIndexes hunique, perOwner_of_uniqueIndexes hunique,
    hinv.perRequester, hinv.perRequesterOnOwner, hinv.timed⟩, ?_⟩
  exact eachStep_of_invariant (fun rows c hinv _ => step_invariant rows c hinv)
    (fun rows c hinv _ => step_followsTable hinv.1.ids hinv.2 c) calls []
    ⟨⟨by simp, by simp, by simp, by simp⟩, rfl⟩ (eachStep_true step calls [])

end TradingBot.Overtime
