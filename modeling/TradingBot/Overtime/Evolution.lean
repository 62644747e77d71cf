import TradingBot.Overtime.Workflow
import Mathlib.Logic.Relation

/-!
# What an operation can do to a row

Every write moves a row along `Evolves`: its identity stays, its status follows the legal table, and
a presented row has a running decision clock.
-/

namespace TradingBot.Overtime

open TradingBot TradingBot.Misc

def LegalChange (current new : OfferRequestStatus) : Prop :=
  new ∈ legalOvertimeTransitions current

abbrev Reaches : OfferRequestStatus → OfferRequestStatus → Prop :=
  Relation.ReflTransGen LegalChange

theorem not_legalChange_queued (current : OfferRequestStatus) :
    ¬ LegalChange current .overtimeQueued := by
  unfold LegalChange
  cases current <;> decide

variable {current : OfferRequestStatus} {utcNow : Int} {r r' : OfferRequest} {d : Decision}

theorem eq_queued_of_reaches (h : Reaches current .overtimeQueued) : current = .overtimeQueued := by
  cases h.cases_tail with
  | inl h => exact h.symm
  | inr h =>
    obtain ⟨middle, _, hlast⟩ := h
    exact absurd hlast (not_legalChange_queued middle)

theorem legalOvertimeTransitions_of_not_open
    (h : current ∉ overtimeNonterminalStatuses) : legalOvertimeTransitions current = [] := by
  revert h
  cases current <;> decide

theorem eq_of_reaches_of_not_open {new : OfferRequestStatus} (h : Reaches current new)
    (hc : current ∉ overtimeNonterminalStatuses) : new = current := by
  induction h with
  | refl => rfl
  | tail _ hlast ih =>
    subst ih
    unfold LegalChange at hlast
    rw [legalOvertimeTransitions_of_not_open hc] at hlast
    cases hlast

theorem open_of_reaches_open {new : OfferRequestStatus} (h : Reaches current new)
    (hn : new ∈ overtimeNonterminalStatuses) : current ∈ overtimeNonterminalStatuses := by
  by_contra hc
  rw [eq_of_reaches_of_not_open h hc] at hn
  exact hc hn

def identity (row : OfferRequest) : OfferRequest :=
  { row with
    presentedAt := none
    decisionDeadlineAt := none
    decidedByUserId := none
    terminalReason := none
    telegramDeliveryJobId := none
    telegramMessageId := none
    decidedAt := none
    resultStatus := .received
    publicFailureCode := none
    publicFailureMessage := none
    internalFailureCode := none
    resultingTradeId := none }

theorem field_eq_of_identity {α : Type} {a b : OfferRequest} (h : identity b = identity a)
    (f : OfferRequest → α) (hf : ∀ r, f (identity r) = f r) : f b = f a := by
  rw [← hf b, h, hf a]

def ClockSet (row : OfferRequest) : Prop :=
  ∃ stamp, row.presentedAt = some stamp ∧
    row.decisionDeadlineAt = some (decisionDeadlineAt stamp)

def Timed (row : OfferRequest) : Prop := row.resultStatus = .overtimePresented → ClockSet row

structure Evolves (a b : OfferRequest) : Prop where
  identity_eq : identity b = identity a
  status : Reaches a.resultStatus b.resultStatus
  timed : Timed a → Timed b

namespace Evolves

variable {a b c : OfferRequest}

theorem refl (a : OfferRequest) : Evolves a a := ⟨rfl, .refl, id⟩

theorem trans (h : Evolves a b) (h' : Evolves b c) : Evolves a c :=
  ⟨h'.identity_eq.trans h.identity_eq, h.status.trans h'.status, fun ha => h'.timed (h.timed ha)⟩

theorem field_eq {α : Type} (h : Evolves a b) (f : OfferRequest → α)
    (hf : ∀ r, f (identity r) = f r) : f b = f a := field_eq_of_identity h.identity_eq f hf

theorem id_eq (h : Evolves a b) : b.id = a.id := h.field_eq OfferRequest.id fun _ => rfl

theorem requestPublicId_eq (h : Evolves a b) : b.requestPublicId = a.requestPublicId :=
  h.field_eq OfferRequest.requestPublicId fun _ => rfl

theorem home_eq (h : Evolves a b) : b.requestHomeServer = a.requestHomeServer :=
  h.field_eq OfferRequest.requestHomeServer fun _ => rfl

theorem localOfferId_eq (h : Evolves a b) : b.localOfferId = a.localOfferId :=
  h.field_eq OfferRequest.localOfferId fun _ => rfl

theorem offerPublicId_eq (h : Evolves a b) : b.offerPublicId = a.offerPublicId :=
  h.field_eq OfferRequest.offerPublicId fun _ => rfl

theorem owner_eq (h : Evolves a b) : b.offerOwnerUserId = a.offerOwnerUserId :=
  h.field_eq OfferRequest.offerOwnerUserId fun _ => rfl

theorem requester_eq (h : Evolves a b) : b.requesterUserId = a.requesterUserId :=
  h.field_eq OfferRequest.requesterUserId fun _ => rfl

theorem workflow_eq (h : Evolves a b) : b.workflowKind = a.workflowKind :=
  h.field_eq OfferRequest.workflowKind fun _ => rfl

theorem queueSequence_eq (h : Evolves a b) : b.queueSequence = a.queueSequence :=
  h.field_eq OfferRequest.queueSequence fun _ => rfl

theorem deliveryAgeStart_eq (h : Evolves a b) : deliveryAgeStart b = deliveryAgeStart a :=
  h.field_eq deliveryAgeStart fun _ => rfl

theorem inScope_eq (h : Evolves a b) (home : Server) (owner : Nat) :
    b.inScope home owner = a.inScope home owner := by
  simp only [OfferRequest.inScope, h.home_eq, h.owner_eq]

theorem queued_before (h : Evolves a b) (hb : b.resultStatus = .overtimeQueued) :
    a.resultStatus = .overtimeQueued := by
  have hs := h.status
  rw [hb] at hs
  exact eq_queued_of_reaches hs

theorem isOpen_before (h : Evolves a b) (hb : b.isOpen = true) : a.isOpen = true := by
  simp only [OfferRequest.isOpen, decide_eq_true_eq] at hb ⊢
  exact open_of_reaches_open h.status hb

instance : IsPreorder OfferRequest Evolves where
  refl := refl
  trans _ _ _ := trans

end Evolves

theorem transitionRow_ok (h : transitionRow utcNow r d = .ok r') :
    (d.resultStatus = r.resultStatus ∨ LegalChange r.resultStatus d.resultStatus) ∧
      identity r' = identity r ∧ r'.resultStatus = d.resultStatus ∧
      r'.presentedAt = r.presentedAt ∧ r'.decisionDeadlineAt = r.decisionDeadlineAt ∧
      r'.terminalReason = (d.terminalReason <|> r.terminalReason) := by
  unfold transitionRow at h
  split at h
  · cases h
  · rename_i hillegal
    unfold applyOfferRequestDecision at h
    by_cases hterminal : r.resultStatus ∈ terminalOfferRequestStatuses ∧
        d.resultStatus ≠ r.resultStatus
    · rw [if_pos hterminal] at h
      cases h
    · rw [if_neg hterminal] at h
      injection h with h
      subst h
      refine ⟨?_, rfl, rfl, rfl, rfl, rfl⟩
      by_cases heq : d.resultStatus = r.resultStatus
      · exact .inl heq
      · right
        by_contra hlegal
        exact hillegal ⟨heq, hlegal⟩

def Waiting (r : OfferRequest) : Prop :=
  r.resultStatus = .overtimeQueued ∨ r.resultStatus = .overtimeDelivering

/-- A request is completed from its presentation only. -/
theorem transitionRow_completion (utcNow : Int) (hw : Waiting r)
    (trade decidedBy : Nat) (decidedAt : Int) :
    ∃ e, transitionRow utcNow r (tradeCompletion trade decidedBy decidedAt) = .error e := by
  cases hrun : transitionRow utcNow r (tradeCompletion trade decidedBy decidedAt) with
  | error e => exact ⟨e, rfl⟩
  | ok row =>
    have hchange : OfferRequestStatus.completedTrade = r.resultStatus ∨
        OfferRequestStatus.completedTrade ∈ legalOvertimeTransitions r.resultStatus :=
      (transitionRow_ok hrun).1
    exfalso
    rcases hw with hstatus | hstatus <;> rw [hstatus] at hchange <;> revert hchange <;> decide

theorem exists_transitionRow (utcNow : Int)
    (hchange : d.resultStatus = r.resultStatus ∨ LegalChange r.resultStatus d.resultStatus)
    (hrunning : r.resultStatus ∉ terminalOfferRequestStatuses) :
    ∃ r', transitionRow utcNow r d = .ok r' := by
  unfold LegalChange at hchange
  have hallowed : ¬ (d.resultStatus ≠ r.resultStatus ∧
      d.resultStatus ∉ legalOvertimeTransitions r.resultStatus) := by
    rintro ⟨hne, hillegal⟩
    rcases hchange with hsame | hlegal
    · exact hne hsame
    · exact hillegal hlegal
  rw [transitionRow, if_neg hallowed, applyOfferRequestDecision,
    if_neg fun hterminal => hrunning hterminal.1]
  exact ⟨_, rfl⟩

def Ends (d : Decision) : Prop := d.resultStatus ∉ overtimeNonterminalStatuses

/-- A decision that an open request can meet before it is presented. -/
def Withdraws (d : Decision) : Prop :=
  d.resultStatus = .overtimeCancelledByRequester ∨ d.resultStatus = .overtimeInvalidated

theorem withdraws_invalidation (reason : String) (now : Int) :
    Withdraws (invalidation reason now) := .inr rfl

theorem withdraws_promotionInvalidation (reason : String) (now : Int) :
    Withdraws (promotionInvalidation reason now) := .inr rfl

theorem withdraws_requesterCancellation (now : Int) : Withdraws (requesterCancellation now) :=
  .inl rfl

theorem Withdraws.ends (h : Withdraws d) : Ends d := by
  unfold Ends
  rcases h with hstatus | hstatus <;> rw [hstatus] <;> decide

theorem ends_invalidation (reason : String) (now : Int) : Ends (invalidation reason now) :=
  (withdraws_invalidation reason now).ends

theorem ends_requesterCancellation (now : Int) : Ends (requesterCancellation now) :=
  (withdraws_requesterCancellation now).ends

theorem ends_ownerRejection (by_ : Nat) (now : Int) : Ends (ownerRejection by_ now) := by
  simp [Ends, ownerRejection, overtimeNonterminalStatuses]

theorem ends_decisionTimeout (now : Int) : Ends (decisionTimeout now) := by
  simp [Ends, decisionTimeout, overtimeNonterminalStatuses]

theorem ends_tradeCompletion (trade by_ : Nat) (now : Int) :
    Ends (tradeCompletion trade by_ now) := by
  simp [Ends, tradeCompletion, overtimeNonterminalStatuses]

theorem Ends.ne_presented (h : Ends d) : d.resultStatus ≠ .overtimePresented := by
  intro hp
  exact h (by rw [hp]; decide)

theorem evolves_transition (h : transitionRow utcNow r d = .ok r')
    (hp : d.resultStatus = .overtimePresented → ClockSet r) : Evolves r r' := by
  obtain ⟨hchange, hid, hstatus, hpres, hdead, _⟩ := transitionRow_ok h
  refine ⟨hid, ?_, ?_⟩
  · rw [hstatus]
    rcases hchange with heq | hlegal
    · rw [heq]
    · exact .single hlegal
  · intro _ hpresented
    obtain ⟨stamp, h1, h2⟩ := hp (hstatus ▸ hpresented)
    exact ⟨stamp, hpres.trans h1, hdead.trans h2⟩

/-- Every row moves by writes in `E`. -/
def RowsMove (E : OfferRequest → OfferRequest → Prop) (s s' : Session) : Prop :=
  UnitOfWork.Moves E s.rows s'.rows

instance (E : OfferRequest → OfferRequest → Prop) [IsPreorder OfferRequest E] :
    IsPreorder Session (RowsMove E) where
  refl s := UnitOfWork.moves_refl s.rows
  trans _ _ _ := UnitOfWork.moves_trans

section Writes

variable {E : OfferRequest → OfferRequest → Prop} [IsPreorder OfferRequest E] {ambient : Ambient}

theorem flushSession_moves : Txn.Keeps (RowsMove E) flushSession := by
  intro s
  unfold flushSession
  split
  · exact UnitOfWork.moves_flush s.rows
  · exact UnitOfWork.moves_refl s.rows

variable {id : Nat} {s : Session}

theorem updateRow_moves {f : OfferRequest → OfferRequest}
    (h : ∀ r ∈ s.live, r.id = id → E r (f r)) :
    RowsMove E s (updateRow id f s).2 := by
  refine UnitOfWork.moves_update (E := E) (fun r => decide (r.id = id)) f s.rows ?_
  intro r hr hid
  exact h r hr (of_decide_eq_true hid)

omit [IsPreorder OfferRequest E] in
theorem applyOvertimeTransition_eq_updateRow
    {ledger row : OfferRequest} (hrow : s.row? id = some ledger)
    (hok : transitionRow ambient.utcNow ledger d = .ok row) :
    applyOvertimeTransition ambient id d s = updateRow id (fun r =>
      match transitionRow ambient.utcNow r d with
      | .ok row => row
      | .error _ => r) s := by
  unfold applyOvertimeTransition
  rw [Txn.bind_read, hrow]
  dsimp only
  cases hrun : transitionRow ambient.utcNow ledger d with
  | error e =>
    rw [hok] at hrun
    cases hrun
  | ok _ => rfl

theorem applyOvertimeTransition_moves
    (h : ∀ r ∈ s.live, r.id = id → ∀ r', transitionRow ambient.utcNow r d = .ok r' → E r r') :
    RowsMove E s (applyOvertimeTransition ambient id d s).2 := by
  simp only [applyOvertimeTransition, Txn.bind_read]
  cases s.row? id with
  | none => exact UnitOfWork.moves_refl s.rows
  | some ledger =>
    dsimp only
    cases transitionRow ambient.utcNow ledger d with
    | error e => exact UnitOfWork.moves_refl s.rows
    | ok _ =>
      refine updateRow_moves fun r hr hid => ?_
      cases hrow : transitionRow ambient.utcNow r d with
      | ok r' => exact h r hr hid r' hrow
      | error _ => exact refl_of E r

omit [IsPreorder OfferRequest E] in
theorem invalidateRequest_open
    (hrow : s.row? id = some r) (hopen : r.isOpen = true) (reason : String) (now : Int)
    (flush : Bool) : invalidateRequest ambient id reason now flush s =
      (applyOvertimeTransition ambient id (invalidation reason now) >>= fun _ =>
        flushIf flush) s := by
  have hstatus : r.resultStatus ∉ terminalLike ∧ r.resultStatus ∈ overtimeNonterminalStatuses := by
    revert hopen
    unfold OfferRequest.isOpen
    cases r.resultStatus <;> decide
  unfold invalidateRequest
  rw [Txn.bind_read, hrow]
  dsimp only
  rw [if_neg hstatus.1, if_neg (not_not_intro hstatus.2)]

theorem startDecisionClock_clockSet (id : Nat) (stamp : Int) (s : Session) :
    ∀ r ∈ (startDecisionClock id stamp s).2.live, r.id = id → ClockSet r := by
  intro r hr hid
  simp only [startDecisionClock, updateRow, Txn.modify_apply, Session.live,
    UnitOfWork.live_update, List.mem_map] at hr
  obtain ⟨old, _, rfl⟩ := hr
  by_cases hold : old.id = id
  · simp only [hold, decide_true, if_true]
    exact ⟨stamp, rfl, rfl⟩
  · simp only [hold, decide_false, Bool.false_eq_true, if_false] at hid

theorem evolves_startDecisionClock (r : OfferRequest) (stamp : Int) :
    Evolves r { r with presentedAt := some stamp,
                       decisionDeadlineAt := some (decisionDeadlineAt stamp) } :=
  ⟨rfl, .refl, fun _ _ => ⟨stamp, rfl, rfl⟩⟩

def Shows (r r' : OfferRequest) : Prop :=
  Evolves r r' ∧ (r'.resultStatus = r.resultStatus ∨ r'.resultStatus = .overtimePresented)

theorem applyPresented_moves (hset : ∀ r ∈ s.live, r.id = id → ClockSet r)
    (hE : ∀ r r', r.id = id → Shows r r' → E r r') :
    RowsMove E s
      (applyOvertimeTransition ambient id { resultStatus := .overtimePresented } s).2 := by
  refine applyOvertimeTransition_moves fun r hr hid r' hr' => hE r r' hid ?_
  exact ⟨evolves_transition hr' fun _ => hset r hr hid, .inr (transitionRow_ok hr').2.2.1⟩

theorem startDecisionClock_moves (stamp : Int) (s : Session)
    (hE : ∀ r r', r.id = id → Shows r r' → E r r') :
    RowsMove E s (startDecisionClock id stamp s).2 :=
  updateRow_moves fun r _ hr => hE r _ hr ⟨evolves_startDecisionClock r stamp, .inl rfl⟩

theorem present_moves (stamp : Int) (hE : ∀ r r', r.id = id → Shows r r' → E r r') :
    Txn.Keeps (RowsMove E) (startDecisionClock id stamp >>= fun _ =>
      applyOvertimeTransition ambient id { resultStatus := .overtimePresented }) := fun s =>
  UnitOfWork.moves_trans (startDecisionClock_moves stamp s hE)
    (applyPresented_moves (startDecisionClock_clockSet id stamp s) hE)

theorem presentMessage_moves (stamp : Int) (messageId : Option Int)
    (hE : ∀ r r', r.id = id → Shows r r' → E r r') :
    Txn.Keeps (RowsMove E) (startDecisionClock id stamp >>= fun _ =>
      updateRow id (fun r => { r with telegramMessageId := messageId <|> r.telegramMessageId })
        >>= fun _ => applyOvertimeTransition ambient id { resultStatus := .overtimePresented }) := by
  intro s
  have hmessage : RowsMove E (startDecisionClock id stamp s).2 (updateRow id (fun r =>
      { r with telegramMessageId := messageId <|> r.telegramMessageId })
        (startDecisionClock id stamp s).2).2 :=
    updateRow_moves fun r _ hr => hE r _ hr ⟨⟨rfl, .refl, fun h => h⟩, .inl rfl⟩
  refine UnitOfWork.moves_trans (startDecisionClock_moves stamp s hE)
    (UnitOfWork.moves_trans hmessage (applyPresented_moves ?_ hE))
  intro r hr hid
  simp only [updateRow, Txn.modify_apply, Session.live, UnitOfWork.live_update,
    List.mem_map] at hr
  obtain ⟨old, hold, rfl⟩ := hr
  have hset := startDecisionClock_clockSet id stamp s old hold
  by_cases hkey : old.id = id
  · simp only [hkey, decide_true, if_true]
    exact hset hkey
  · simp only [hkey, decide_false, Bool.false_eq_true, if_false] at hid

end Writes

/-- The relation `R` is kept by a flush and by every decision that `D` admits. -/
structure WriteRule (ambient : Ambient) (D : Nat → Decision → Prop)
    (R : Session → Session → Prop) : Prop where
  flush : Txn.Keeps R flushSession
  decides : ∀ {id d}, D id d → Txn.Keeps R (applyOvertimeTransition ambient id d)

namespace WriteRule

variable {ambient : Ambient} {D : Nat → Decision → Prop} {R : Session → Session → Prop}
  [IsPreorder Session R]

theorem flushIf (rule : WriteRule ambient D R) (flush : Bool) :
    Txn.Keeps R (Overtime.flushIf flush) := by
  cases flush
  · exact Txn.keeps_pure ()
  · exact rule.flush

theorem invalidateRequest (rule : WriteRule ambient D R) {id : Nat} {reason : String} {now : Int}
    (flush : Bool) (h : D id (invalidation reason now)) :
    Txn.Keeps R (Overtime.invalidateRequest ambient id reason now flush) := by
  refine Txn.keeps_bind (Txn.keeps_read _) fun ledger? => ?_
  cases ledger? with
  | none => exact Txn.keeps_pure ()
  | some ledger =>
    exact Txn.keeps_ite (Txn.keeps_pure ()) (Txn.keeps_ite (Txn.keeps_pure ())
      (Txn.keeps_bind (rule.decides h) fun _ => rule.flushIf flush))

theorem markPresented (rule : WriteRule ambient D R) {id : Nat} {presentedAt : Int}
    {messageId : Option Int} (flush : Bool)
    (h : Txn.Keeps R (startDecisionClock id presentedAt >>= fun _ =>
      updateRow id (fun r => { r with telegramMessageId := messageId <|> r.telegramMessageId })
        >>= fun _ => applyOvertimeTransition ambient id { resultStatus := .overtimePresented })) :
    Txn.Keeps R (Overtime.markPresented ambient id presentedAt messageId flush) := by
  refine Txn.keeps_bind (Txn.keeps_read _) fun ledger? => ?_
  cases ledger? with
  | none => exact Txn.keeps_raise _
  | some ledger =>
    refine Txn.keeps_ite (Txn.keeps_pure ()) ?_
    simp only [← Txn.bind_assoc] at h ⊢
    rw [Txn.bind_assoc]
    exact Txn.keeps_bind h fun _ => Txn.keeps_bind (rule.flushIf flush) fun _ => rule.flushIf _

end WriteRule

end TradingBot.Overtime
