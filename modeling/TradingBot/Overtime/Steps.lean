import TradingBot.Overtime.Operations
import Mathlib.Data.List.Nodup

/-!
# One step of the workflow

A call leaves the ledger as it was, or commits one without clashes in which every earlier row has
evolved and at most one admitted row is new.
-/

namespace TradingBot.Overtime

open TradingBot TradingBot.Misc

def Op.changesOffers : Op → Bool
  | .approve .. | .expireOffer .. | .expireOffers .. | .finalizeOutageRecovery .. => true
  | _ => false

/-- `D` admits what a call decides: a withdrawal always, anything on a request that waits no more,
and timeouts of requests its queries find presented. -/
structure Admits (c : Call) (D : Nat → Decision → Prop) (s : Session) : Prop where
  withdraws : ∀ {id d}, Withdraws d → D id d
  decides : ∀ {id d}, Ends d → MayDecide D s id d
  overdue : ∀ {limit}, ∀ row ∈ overduePresentedRows c.ambient c.now limit s,
    D row.id (decisionTimeout c.now)
  found : ∀ {jobs lifetime limit},
    ∀ target ∈ Rule.repairTargets c.ambient jobs c.now lifetime limit s, ∀ row,
      (Rule.lockedRows c.ambient (Rule.repairTargets c.ambient jobs c.now lifetime limit s) s).find?
        (fun r => r.requestPublicId = some target.1) = some row →
      target.2.issue = .overduePresentedDecision → D row.id (decisionTimeout c.now)

variable {D : Nat → Decision → Prop} {R : Session → Session → Prop} {c : Call} {s s' : Session}
  {rows : List OfferRequest} {r : OfferRequest} {Inv : Session → Prop}
  {command : OvertimeRequestCreateCommand} {now : Int} {ambient : Ambient}
  {E : OfferRequest → OfferRequest → Prop}

theorem admits_of_ends (hend : ∀ id d, Ends d → D id d) (c : Call)
    (s : Session) : Admits c D s where
  withdraws h := hend _ _ h.ends
  decides h := fun _ _ _ => hend _ _ h
  overdue _ _ := hend _ _ (ends_decisionTimeout _)
  found _ _ _ _ _ := hend _ _ (ends_decisionTimeout _)

/-- Every operation on the ledger but a creation keeps a relation that admits its decisions. -/
theorem perform_keeps_ledger [IsPreorder Session R]
    (rule : LedgerRule c.ambient Inv D R) (hadmits : Admits c D s)
    (hpresent : ∀ id stamp message flush,
      Txn.Keeps R (markPresented c.ambient id stamp message flush))
    (hoffers : c.op.changesOffers = false)
    (hop : ∀ command flush, c.op ≠ .create command flush) : R s (perform c s).2 := by
  have hend : ∀ {id reason now}, D id (invalidation reason now) := fun {_ reason now} =>
    hadmits.withdraws (withdraws_invalidation reason now)
  have hinvalidate : ∀ f reason now, LedgerRule.MayInvalidate Inv D f reason now :=
    fun _ _ _ _ _ _ _ => hend
  unfold perform
  cases hc : c.op with
  | create command flush => exact absurd hc (hop command flush)
  | promoteNext =>
    exact Txn.keeps_bind (rule.promote _ _ _ _ _) (fun _ => Txn.keeps_pure ()) s
  | markPresented => exact hpresent _ _ _ _ s
  | cancel =>
    exact rule.cancelByRequester _ _ _ (hadmits.withdraws (withdraws_requesterCancellation _)) s
  | reject =>
    exact rule.rejectByOwner _ _ _ (hadmits.decides (ends_ownerRejection _ _))
  | expireDecision =>
    exact rule.expireDecision _ _ _ (hadmits.decides (ends_decisionTimeout _))
  | recordCompletedTrade id tradeId decidedBy =>
    exact rule.recordCompletedTrade (hadmits.decides (ends_tradeCompletion _ _ _))
  | invalidate id reason flush => exact rule.invalidateRequest _ hend s
  | invalidateAndPromote =>
    exact rule.invalidateAndPromote hend s
  | invalidateForOffer =>
    exact Txn.keeps_bind (rule.invalidateOvertimeRequests _ _ _ (hinvalidate _ _ _))
      (fun _ => Txn.keeps_pure ()) s
  | invalidateForUser =>
    exact Txn.keeps_bind (rule.invalidateOvertimeRequestsForUser _ _ _ (hinvalidate _ _ _)
      (hinvalidate _ _ _)) (fun _ => Txn.keeps_pure ()) s
  | sweepPresented lifetime limit flush =>
    rw [Txn.snd_bind_pure]
    exact rule.expireOverduePresentedDecisions flush hadmits.overdue
  | sweepDelivering limit flush =>
    rw [Txn.snd_bind_pure]
    exact rule.expireOverdueDeliveringRequests flush fun _ _ => hend
  | reconcile _ _ _ _ flush =>
    rw [Txn.snd_bind_pure]
    refine rule.reconcileOvertimeRequests flush fun target htarget row hrow => ?_
    exact ⟨hadmits.found target htarget row hrow, fun _ => hend, fun _ => hend,
      fun _ _ _ => hinvalidate _ _ _⟩
  | _ =>
    rw [hc] at hoffers
    cases hoffers

theorem perform_keeps [IsPreorder Session R]
      (rule : Rule c.ambient Inv D R) (hadmits : Admits c D s) (hpresent : ∀ id stamp message flush,
      Txn.Keeps R (markPresented c.ambient id stamp message flush))
    (hop : ∀ command flush, c.op ≠ .create command flush) : R s (perform c s).2 := by
  have hinvalidate : ∀ f reason now, LedgerRule.MayInvalidate Inv D f reason now :=
    fun _ reason now _ _ _ _ => hadmits.withdraws (withdraws_invalidation reason now)
  by_cases hoffers : c.op.changesOffers = false
  · exact perform_keeps_ledger rule.toLedgerRule hadmits hpresent hoffers hop
  · unfold perform
    cases hc : c.op with
    | approve =>
      exact rule.approveRequest (hadmits.decides (ends_tradeCompletion _ _ _))
        fun offer => hinvalidate _ _ _
    | expireOffer =>
      exact rule.expireOfferAuthoritatively _ _ (fun offer => hinvalidate _ _ _) s
    | expireOffers =>
      exact rule.expireOffersAuthoritatively _ _ (fun offer => hinvalidate _ _ _) s
    | finalizeOutageRecovery mode candidates => exact rule.finalizeOutageRecovery _ _ _ s
    | _ =>
      rw [hc] at hoffers
      exact absurd rfl hoffers

/-- What is known of a row that `create_overtime_request` adds to a ledger. -/
structure Admitted (rows : List OfferRequest) (row : OfferRequest) : Prop where
  id_eq : row.id = nextId rows
  queued : row.resultStatus = .overtimeQueued
  overtime : row.workflowKind = .overtime
  owned : ∃ owner, row.offerOwnerUserId = some owner ∧
    row.queueSequence = some (nextQueueSequence rows row.requestHomeServer owner)
  total : ∀ requester owner, row.requesterUserId = some requester →
    (countRequesterOutstanding rows requester owner).1 < maxOutstandingRequestsPerRequester
  perOwner : ∀ requester owner, row.requesterUserId = some requester →
    row.offerOwnerUserId = some owner → (countRequesterOutstanding rows requester owner).2 < 1

theorem admitted_newOvertimeRow (ambient : Ambient) (key : String)
    {home : Server} {offerPublicId : String} {owner : Nat} {offers : List Offer}
    (h : admitOvertimeRequest command home offerPublicId now ⟨UnitOfWork.load rows, offers⟩ =
      .ok owner) :
    Admitted rows (newOvertimeRow ambient command home offerPublicId key owner
      ⟨UnitOfWork.load rows, offers⟩) := by
  have hlive : Session.live ⟨UnitOfWork.load rows, offers⟩ = rows := UnitOfWork.live_load rows
  have hstored : Session.stored ⟨UnitOfWork.load rows, offers⟩ = rows :=
    UnitOfWork.stored_load rows
  unfold admitOvertimeRequest at h
  rw [hstored] at h
  split_ifs at h
  split at h
  · cases h
  · split_ifs at h
    split at h
    · cases h
    · dsimp only at h
      split_ifs at h with _ htotal howner
      injection h with h
      subst h
      refine ⟨congrArg nextId hlive, rfl, rfl, ⟨_, rfl, ?_⟩, ?_, ?_⟩
      · simp only [newOvertimeRow, hstored]
      · intro requester owner hr
        injection hr with hr
        subst hr
        exact Nat.lt_of_not_le htotal
      · intro requester owner hr ho
        injection hr with hr
        injection ho with ho
        subst hr ho
        exact Nat.lt_of_not_le howner

theorem createOvertimeRequest_cases [IsPreorder Session R]
    (hflush : Txn.Keeps R flushSession) (hpromote : ∀ home owner lifetime now flush,
      Txn.Keeps R (promoteNextForOwner ambient home owner lifetime now flush))
    (command : OvertimeRequestCreateCommand) (flush : Bool) (now : Int)
    (rows : List OfferRequest) (offers : List Offer) :
    (createOvertimeRequest ambient command flush now ⟨UnitOfWork.load rows, offers⟩).2 =
        ⟨UnitOfWork.load rows, offers⟩ ∨
      ∃ row, Admitted rows row ∧ R ⟨UnitOfWork.insert row (UnitOfWork.load rows), offers⟩
        (createOvertimeRequest ambient command flush now ⟨UnitOfWork.load rows, offers⟩).2 := by
  unfold createOvertimeRequest
  cases nonemptyText command.idempotencyKey with
  | none => exact .inl rfl
  | some key =>
    dsimp only
    by_cases hquantity : command.requestedQuantity ≤ 0
    · rw [if_pos hquantity]
      exact .inl rfl
    · rw [if_neg hquantity]
      cases nonemptyText (some command.offer.offerPublicId) with
      | none => exact .inl rfl
      | some offerPublicId =>
        dsimp only
        rw [Txn.bind_read]
        cases ((Session.select ⟨UnitOfWork.load rows, offers⟩ (hasIdempotencyKey
            (command.home ambient.currentServer) key)).head?) with
        | some ledger => exact .inl rfl
        | none =>
          dsimp only
          rw [Txn.bind_read]
          cases hadmitted : admitOvertimeRequest command (command.home ambient.currentServer)
              offerPublicId now ⟨UnitOfWork.load rows, offers⟩ with
          | error e => exact .inl rfl
          | ok owner =>
            refine .inr ⟨_, admitted_newOvertimeRow ambient key hadmitted, ?_⟩
            dsimp only
            rw [Txn.bind_read]
            refine Txn.keeps_bind ?_ (fun _ => Txn.keeps_bind (hpromote _ _ _ _ _)
              fun _ => Txn.keeps_pure _) _
            cases flush
            · exact Txn.keeps_pure ()
            · exact hflush

/-- A creation that returned found the row of its key, or added and promoted an admitted one. -/
theorem createOvertimeRequest_ok {flush : Bool} {result : OvertimeRequestResult}
    (h : createOvertimeRequest ambient command flush now s = (.ok result, s')) :
    ∃ key offerPublicId, nonemptyText command.idempotencyKey = some key ∧
      nonemptyText (some command.offer.offerPublicId) = some offerPublicId ∧
      ((∃ ledger, (s.select (hasIdempotencyKey (command.home ambient.currentServer) key)).head? =
          some ledger ∧ result = ⟨ledger.id, true, false⟩ ∧ s' = s) ∨
        ∃ owner promoted row s1,
          admitOvertimeRequest command (command.home ambient.currentServer) offerPublicId now s =
            .ok owner ∧
          row = newOvertimeRow ambient command (command.home ambient.currentServer) offerPublicId
            key owner s ∧
          flushIf flush ⟨UnitOfWork.insert row s.rows, s.offers⟩ = (.ok (), s1) ∧
          promoteNextForOwner ambient (command.home ambient.currentServer) owner
            command.normalLifetimeMinutes now flush s1 = (.ok promoted, s') ∧
          result = ⟨row.id, false, promoted = some row.id⟩) := by
  unfold createOvertimeRequest at h
  cases hkey : nonemptyText command.idempotencyKey with
  | none =>
    rw [hkey] at h
    cases h
  | some key =>
    rw [hkey] at h
    dsimp only at h
    by_cases hquantity : command.requestedQuantity ≤ 0
    · rw [if_pos hquantity] at h
      cases h
    · rw [if_neg hquantity] at h
      cases hpublic : nonemptyText (some command.offer.offerPublicId) with
      | none =>
        rw [hpublic] at h
        cases h
      | some offerPublicId =>
        rw [hpublic] at h
        dsimp only at h
        refine ⟨key, offerPublicId, rfl, rfl, ?_⟩
        rw [Txn.bind_read] at h
        cases hfound : (s.select (hasIdempotencyKey (command.home ambient.currentServer)
            key)).head? with
        | some ledger =>
          rw [hfound] at h
          cases h
          exact .inl ⟨ledger, rfl, rfl, rfl⟩
        | none =>
          rw [hfound] at h
          dsimp only at h
          rw [Txn.bind_read] at h
          cases hadmitted : admitOvertimeRequest command (command.home ambient.currentServer)
              offerPublicId now s with
          | error e =>
            rw [hadmitted] at h
            cases h
          | ok owner =>
            rw [hadmitted] at h
            dsimp only at h
            rw [Txn.bind_read] at h
            obtain ⟨_, _, hadd, h⟩ := Txn.bind_ok.mp h
            cases hadd
            obtain ⟨_, s1, hflush, h⟩ := Txn.bind_ok.mp h
            obtain ⟨promoted, s2, hpromote, h⟩ := Txn.bind_ok.mp h
            cases h
            exact .inr ⟨owner, promoted, _, s1, rfl, rfl, hflush, hpromote, rfl⟩

theorem outcome_cases (c : Call) (rows : List OfferRequest) :
    c.outcome rows = c.session rows ∨
      ∃ s', perform c (c.session rows) = (.ok (), s') ∧ uniqueIndexes s'.live = true ∧
        c.outcome rows = { s' with rows := UnitOfWork.flush s'.rows } := by
  unfold Call.outcome Call.transaction Txn.atomically
  rw [Txn.bind_apply]
  rcases hs : perform c (c.session rows) with ⟨r, s'⟩
  cases r with
  | error e => exact .inl rfl
  | ok _ =>
    dsimp only [flushSession]
    by_cases hu : uniqueIndexes s'.live = true
    · rw [if_pos hu]
      exact .inr ⟨s', rfl, hu, rfl⟩
    · rw [if_neg hu]
      exact .inl rfl

@[simp] theorem session_live (c : Call) (rows : List OfferRequest) :
    (c.session rows).live = rows := UnitOfWork.live_load rows

/-- A decision that ends a request and, on a protected row, does what `A` allows. -/
def Permits (P : Nat → Prop) (A : OfferRequest → OfferRequest → Prop) (ambient : Ambient)
    (id : Nat) (d : Decision) : Prop :=
  Ends d ∧ (P id → ∀ r r', transitionRow ambient.utcNow r d = .ok r' → A r r')

theorem spares_rule (P : Nat → Prop) (K : OfferRequest → Prop)
    (A : OfferRequest → OfferRequest → Prop) [IsPreorder OfferRequest A] (ambient : Ambient) :
    Rule ambient (Guard P K) (Permits P A ambient) (Spares P K A) where
  flush := flushSession_spares
  decides h := applyOvertimeTransition_spares h.1.ne_presented h.2
  outside h := fun hg => absurd hg h
  promote := promoteNextForOwner_spares
  offers _ _ := fun s _ => UnitOfWork.moves_refl s.rows

theorem evolves_rule (ambient : Ambient) :
    Rule ambient (Guard (fun _ => False) (fun _ => True))
      (Permits (fun _ => False) Eq ambient) (Spares (fun _ => False) (fun _ => True) Eq) :=
  spares_rule _ _ _ ambient

theorem map_id_of_forall₂ {rows' : List OfferRequest} (h : List.Forall₂ Evolves rows rows') :
    rows'.map OfferRequest.id = rows.map OfferRequest.id := by
  induction h with
  | nil => rfl
  | cons hrow _ ih => simp [hrow.id_eq, ih]

theorem forall₂_evolves_of_spares (h : Spares (fun _ => False) (fun _ => True) Eq s s') :
    List.Forall₂ Evolves s.live s'.live := by
  have hmoves := h fun _ _ hf => hf.elim
  exact hmoves.live_forall₂.imp fun _ _ hw => hw.1

theorem forall₂_of_perform [IsPreorder OfferRequest E]
    (h : RowsMove E (c.session rows) (perform c (c.session rows)).2) :
    List.Forall₂ E rows (step rows c) := by
  unfold step
  rcases outcome_cases c rows with hback | ⟨s', hrun, _, hout⟩
  · rw [hback, session_live]
    exact List.forall₂_refl rows
  · rw [hrun] at h
    have hmoved := h.live_forall₂
    change List.Forall₂ E (c.session rows).live s'.live at hmoved
    rw [session_live] at hmoved
    rw [hout]
    change List.Forall₂ E rows (UnitOfWork.live (UnitOfWork.flush s'.rows))
    rw [UnitOfWork.live_flush]
    exact hmoved

/-- A call whose promotions and operation move rows by `E` does nothing, or commits a ledger without
clashes in which the earlier rows have moved and at most one admitted row is new. -/
theorem step_moves [IsPreorder OfferRequest E]
    (hpromote : ∀ home owner lifetime now flush, Txn.Keeps (RowsMove E)
      (promoteNextForOwner c.ambient home owner lifetime now flush))
    (hperform : (∀ command flush, c.op ≠ .create command flush) →
      RowsMove E (c.session rows) (perform c (c.session rows)).2) :
    step rows c = rows ∨ (uniqueIndexes (step rows c) = true ∧
      (List.Forall₂ E rows (step rows c) ∨
        ∃ row, Admitted rows row ∧ List.Forall₂ E (rows ++ [row]) (step rows c))) := by
  rcases outcome_cases c rows with hback | ⟨s', hrun, hunique, hout⟩
  · left
    rw [step, hback, session_live]
  · right
    have hlive : step rows c = s'.live := by
      rw [step, hout]
      exact UnitOfWork.live_flush s'.rows
    refine ⟨by rw [hlive]; exact hunique, ?_⟩
    by_cases hcreate : ∃ command flush, c.op = .create command flush
    · obtain ⟨command, flush, hop⟩ := hcreate
      have hs' : (perform c (c.session rows)).2 = s' := by rw [hrun]
      simp only [perform, hop, Txn.snd_bind_pure] at hs'
      rcases createOvertimeRequest_cases flushSession_moves hpromote command flush c.now rows
        c.offers with hsame | ⟨row, hadmitted, hmoves⟩
      · left
        rw [hlive, ← hs', Call.session, hsame, Session.live, UnitOfWork.live_load]
        exact List.forall₂_refl rows
      · right
        refine ⟨row, hadmitted, ?_⟩
        have hmoved := hmoves.live_forall₂
        rw [hlive, ← hs']
        simpa [Session.live, UnitOfWork.live_insert, Call.session] using hmoved
    · left
      exact forall₂_of_perform (hperform fun command flush hop => hcreate ⟨command, flush, hop⟩)

theorem moves_of_spares (h : Spares (fun _ => False) (fun _ => True) Eq s s') :
    RowsMove (Within (fun _ => False) Eq) s s' := h fun _ _ hf => hf.elim

theorem perform_moves (hop : ∀ command flush, c.op ≠ .create command flush) :
    RowsMove (Within (fun _ => False) Eq) (c.session rows) (perform c (c.session rows)).2 :=
  moves_of_spares (perform_keeps (evolves_rule c.ambient)
    (admits_of_ends (fun _ _ h => ⟨h, fun hf => hf.elim⟩) c (c.session rows))
    (fun _ _ _ _ => markPresented_spares fun hf => hf.elim) hop)

theorem step_forall₂_of_not_create (hop : ∀ command flush, c.op ≠ .create command flush) :
    List.Forall₂ Evolves rows (step rows c) :=
  (forall₂_of_perform (perform_moves hop)).imp fun _ _ hw => hw.1

theorem step_cases (rows : List OfferRequest) (c : Call) :
    step rows c = rows ∨ (uniqueIndexes (step rows c) = true ∧
      (List.Forall₂ Evolves rows (step rows c) ∨
        ∃ row, Admitted rows row ∧ List.Forall₂ Evolves (rows ++ [row]) (step rows c))) := by
  refine (step_moves (fun _ _ _ _ _ s => moves_of_spares ((evolves_rule c.ambient).promote _ _ _ _
    _ s)) perform_moves).imp_right fun hcommitted => hcommitted.imp_right fun hmoved => ?_
  rcases hmoved with hmoved | ⟨row, hadmitted, hmoved⟩
  · exact .inl (hmoved.imp fun _ _ hw => hw.1)
  · exact .inr ⟨row, hadmitted, hmoved.imp fun _ _ hw => hw.1⟩

theorem eq_of_id_eq (hids : (rows.map OfferRequest.id).Nodup)
    {a b : OfferRequest} (ha : a ∈ rows) (hb : b ∈ rows) (h : a.id = b.id) : a = b :=
  List.inj_on_of_nodup_map hids ha hb h

theorem row?_of_mem (hids : (s.live.map OfferRequest.id).Nodup)
    (hr : r ∈ s.live) : s.row? r.id = some r := by
  unfold Session.row?
  cases hfind : s.live.find? (fun x => decide (x.id = r.id)) with
  | none =>
    have hnot := List.find?_eq_none.mp hfind r hr
    simp at hnot
  | some x =>
    have hid := List.find?_some hfind
    rw [eq_of_id_eq hids (List.mem_of_find?_eq_some hfind) hr (by simpa using hid)]

theorem mem_of_row? {id : Nat} (h : s.row? id = some r) :
    r ∈ s.live ∧ r.id = id := by
  have hid := List.find?_some h
  exact ⟨List.mem_of_find?_eq_some h, by simpa using hid⟩

theorem applyOvertimeTransition_cases (ambient : Ambient) (id : Nat) (d : Decision)
    (hids : (s.live.map OfferRequest.id).Nodup) :
    (∃ e, applyOvertimeTransition ambient id d s = (.error e, s)) ∨
      ∃ ledger row s', applyOvertimeTransition ambient id d s = (.ok (), s') ∧
        ledger ∈ s.live ∧ ledger.id = id ∧ transitionRow ambient.utcNow ledger d = .ok row ∧
        s'.live = s.live.map (fun r => if r.id = id then row else r) := by
  simp only [applyOvertimeTransition, Txn.bind_read]
  cases hrow : s.row? id with
  | none => exact .inl ⟨_, rfl⟩
  | some ledger =>
    have hmem : ledger ∈ s.live := List.mem_of_find?_eq_some hrow
    have hid : ledger.id = id := by simpa using List.find?_some hrow
    dsimp only
    cases hok : transitionRow ambient.utcNow ledger d with
    | error e => exact .inl ⟨e, rfl⟩
    | ok row =>
      refine .inr ⟨ledger, row, _, rfl, hmem, hid, hok, ?_⟩
      simp only [Session.live, UnitOfWork.live_update]
      apply List.map_congr_left
      intro r hr
      by_cases hkey : r.id = id
      · have hsame : r = ledger := eq_of_id_eq hids hr hmem (hkey.trans hid.symm)
        subst hsame
        simp [hkey, hok]
      · simp [hkey]

theorem step_spares {P : Nat → Prop} {K : OfferRequest → Prop}
    {A : OfferRequest → OfferRequest → Prop} [IsPreorder OfferRequest A]
      (hids : (rows.map OfferRequest.id).Nodup) (hguard : Guard P K (c.session rows))
    (hperform : Spares P K A (c.session rows) (perform c (c.session rows)).2)
    {r' : OfferRequest} (hr : r ∈ rows) (hr' : r' ∈ step rows c) (hid : r'.id = r.id)
    (hp : P r.id) : Evolves r r' ∧ A r r' := by
  unfold step at hr'
  rcases outcome_cases c rows with hback | ⟨s', hrun, _, hout⟩
  · rw [hback, session_live] at hr'
    have hsame := eq_of_id_eq hids hr' hr hid
    subst hsame
    exact ⟨.refl r', refl_of A r'⟩
  · have hmoves := hperform hguard
    rw [hrun] at hmoves
    have hlive := hmoves.live_forall₂
    change List.Forall₂ _ (c.session rows).live s'.live at hlive
    rw [session_live] at hlive
    have hnodup : (s'.live.map OfferRequest.id).Nodup := by
      have hmap := map_id_of_forall₂ (hlive.imp fun _ _ h => h.1)
      rw [hmap]
      exact hids
    have hmem : r' ∈ s'.live := by
      rw [hout] at hr'
      simpa [Session.live] using hr'
    obtain ⟨r'', hr'', hwithin⟩ := UnitOfWork.forall₂_exists_after hlive r hr
    have hsame : r' = r'' :=
      eq_of_id_eq hnodup hmem hr'' (hid.trans hwithin.1.id_eq.symm)
    subst hsame
    exact ⟨hwithin.1, hwithin.2 hp⟩

end TradingBot.Overtime
