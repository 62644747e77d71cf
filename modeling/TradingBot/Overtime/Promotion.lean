import TradingBot.Overtime.Evolution

/-!
# Promotion

`PromoteRule` is what a relation on sessions needs so that a promotion keeps it: it allows the
writes to the selected request and making it delivering.

The first instance sets aside rows outside the queue in a protected set `P`, which a promotion
leaves alone; other writes change them as far as `A` allows. With nothing protected, a promotion
moves every row along `Evolves`. `K` is what is known of the protected rows' identity.
-/

namespace TradingBot.Overtime

open TradingBot TradingBot.Misc

theorem firstInQueue_mem {rows : List OfferRequest} {row : OfferRequest}
    (h : firstInQueue rows = some row) : row ∈ rows := by
  induction rows generalizing row with
  | nil => cases h
  | cons head tail ih =>
    unfold firstInQueue at h
    cases htail : firstInQueue tail with
    | none =>
      rw [htail] at h
      injection h with h
      exact h ▸ List.mem_cons_self
    | some best =>
      rw [htail] at h
      dsimp only at h
      split at h
      · injection h with h
        exact h ▸ List.mem_cons_of_mem _ (ih htail)
      · injection h with h
        exact h ▸ List.mem_cons_self

variable {s : Session} {home : Server} {owner : Nat} {candidate : OfferRequest} {P : Nat → Prop}
  {K : OfferRequest → Prop} {A : OfferRequest → OfferRequest → Prop} {ambient : Ambient}

theorem nextQueuedForOwner_stored (h : nextQueuedForOwner s home owner = some candidate) :
    ∃ t ∈ s.rows, t.live = candidate ∧ ∃ old, t.stored = some old ∧
      old.inScope home owner = true ∧ old.resultStatus = .overtimeQueued := by
  obtain ⟨t, ht, hlive, old, hold, hp⟩ := UnitOfWork.mem_select.mp (firstInQueue_mem h)
  simp only [Bool.and_eq_true, OfferRequest.isQueued, decide_eq_true_eq] at hp
  exact ⟨t, ht, hlive, old, hold, hp⟩

/-- The relation `R` is kept by a promotion; `Ok` holds of the requests it has selected. -/
structure PromoteRule (ambient : Ambient) (Ok : Nat → Prop) (R : Session → Session → Prop) :
    Prop where
  writes : WriteRule ambient (fun id d => Ok id ∧ Withdraws d) R
  select : ∀ {s : Session} {home owner candidate},
    nextQueuedForOwner s home owner = some candidate → Ok candidate.id ∨ ∀ s', R s s'
  deliver : ∀ {s : Session} {home owner candidate},
    nextQueuedForOwner s home owner = some candidate →
      R s (applyOvertimeTransition ambient candidate.id { resultStatus := .overtimeDelivering } s).2
  present : ∀ {id} now, Ok id → Txn.Keeps R (startDecisionClock id now >>= fun _ =>
    applyOvertimeTransition ambient id { resultStatus := .overtimePresented })
  job : ∀ {id} jobId, Ok id →
    Txn.Keeps R (updateRow id (fun r => { r with telegramDeliveryJobId := jobId }))

namespace PromoteRule

variable {ambient : Ambient} {Ok : Nat → Prop} {R : Session → Session → Prop}
  [IsPreorder Session R]

variable {id : Nat}

theorem presentCandidate (rule : PromoteRule ambient Ok R) (hid : Ok id) (now : Int)
    (flush : Bool) : Txn.Keeps R (Overtime.presentCandidate ambient id now flush) := by
  unfold Overtime.presentCandidate
  rw [← Txn.bind_assoc]
  exact Txn.keeps_bind (rule.present now hid) fun _ =>
    Txn.keeps_bind (rule.writes.flushIf flush) fun _ =>
      Txn.keeps_bind (rule.writes.flushIf _) fun _ => Txn.keeps_pure _

theorem deliverCandidate (rule : PromoteRule ambient Ok R) (hid : Ok id) (now : Int)
    (flush : Bool) {again : Work (Option Nat)} (hagain : Txn.Keeps R again) (hdeliver : R s
      (applyOvertimeTransition ambient id { resultStatus := .overtimeDelivering } s).2) :
    R s (Overtime.deliverCandidate ambient id now flush again s).2 := by
  have hend : ∀ reason, Txn.Keeps R
      (Overtime.invalidateRequest ambient id reason now flush >>= fun _ => again) := fun reason =>
    Txn.keeps_bind (rule.writes.invalidateRequest flush ⟨hid, withdraws_invalidation reason now⟩)
      fun _ => hagain
  have hdelivered : Txn.Keeps R (flushIf flush >>= fun _ =>
      schedulePresentedEdit ambient id >>= fun _ => pure (some id)) :=
    Txn.keeps_bind (rule.writes.flushIf flush) fun _ =>
      Txn.keeps_bind (rule.writes.flushIf _) fun _ => Txn.keeps_pure _
  refine Txn.rel_bind hdeliver fun _ => Txn.keeps_bind (rule.writes.flushIf flush) fun _ => ?_
  cases ambient.enqueue id with
  | queueV1 outcome =>
    refine Txn.keeps_bind (rule.job _ hid) fun _ => ?_
    dsimp only
    split
    · exact hend _
    · exact hdelivered
  | legacy outcome =>
    refine Txn.keeps_bind (rule.writes.flushIf _) fun _ => ?_
    dsimp only
    split
    · exact hend _
    · exact hdelivered
  | queueError reason => exact hend reason
  | failure => exact Txn.keeps_raise _

theorem promoteLoop (rule : PromoteRule ambient Ok R) (home : Server) (owner : Nat)
    (lifetime now : Int) (flush : Bool) :
    ∀ fuel, Txn.Keeps R (Overtime.promoteLoop ambient home owner lifetime now flush fuel)
  | 0 => Txn.keeps_raise _
  | fuel + 1 => by
    have hagain := promoteLoop rule home owner lifetime now flush fuel
    refine Txn.keeps_bind_read fun s => ?_
    cases ownerHasOccupyingRequest s home owner with
    | true => exact refl_of R s
    | false =>
      cases hnext : nextQueuedForOwner s home owner with
      | none => exact refl_of R s
      | some candidate =>
        rcases rule.select hnext with hid | hany
        · dsimp only [promoteCandidate]
          rw [Txn.bind_read]
          cases revalidateOfferForPromotion (candidate.localOfferId.bind s.offer?) home lifetime
              now with
          | some reason =>
            exact Txn.keeps_bind
              (rule.writes.decides ⟨hid, withdraws_promotionInvalidation reason now⟩)
              (fun _ => Txn.keeps_bind (rule.writes.flushIf flush) fun _ => hagain) s
          | none =>
            cases home with
            | foreign => exact rule.deliverCandidate hid now flush hagain (rule.deliver hnext)
            | iran => exact rule.presentCandidate hid now flush s
        · exact hany _

theorem promoteNextForOwner (rule : PromoteRule ambient Ok R) (home : Server) (owner : Nat)
    (lifetime now : Int) (flush : Bool) :
    Txn.Keeps R (Overtime.promoteNextForOwner ambient home owner lifetime now flush) :=
  Txn.keeps_bind (Txn.keeps_read _) fun fuel => rule.promoteLoop home owner lifetime now flush fuel

end PromoteRule

/-- A write that keeps to the table and changes protected rows only as far as `A` allows. -/
def Within (P : Nat → Prop) (A : OfferRequest → OfferRequest → Prop) (a b : OfferRequest) : Prop :=
  Evolves a b ∧ (P a.id → A a b)

def Guard (P : Nat → Prop) (K : OfferRequest → Prop) (s : Session) : Prop :=
  ∀ t ∈ s.rows, P t.live.id → t.live.resultStatus ≠ .overtimeQueued ∧ K (identity t.live) ∧
    ∃ old, t.stored = some old ∧ old.resultStatus ≠ .overtimeQueued ∧
      identity old = identity t.live

def Spares (P : Nat → Prop) (K : OfferRequest → Prop) (A : OfferRequest → OfferRequest → Prop)
    (s s' : Session) : Prop :=
  Guard P K s → RowsMove (Within P A) s s'

theorem guard_of_moves {s' : Session} (hg : Guard P K s) (h : RowsMove (Within P A) s s') :
    Guard P K s' := by
  intro t' ht' hp
  obtain ⟨t, ht, hlive, hstored⟩ := h.exists_before ht'
  rw [hlive.1.id_eq] at hp
  obtain ⟨hq, hk, old, hold, holdq, hsame⟩ := hg t ht hp
  refine ⟨fun hq' => hq (hlive.1.queued_before hq'), hlive.1.identity_eq ▸ hk, ?_⟩
  rcases hstored with hunchanged | ⟨r, hr, hto, _⟩
  · exact ⟨old, hunchanged.trans hold, holdq, hsame.trans hlive.1.identity_eq.symm⟩
  · exact ⟨r, hr, fun hq' => hq (hto.1.queued_before hq'),
      hto.1.identity_eq.trans hlive.1.identity_eq.symm⟩

section Bounds

variable [IsPreorder OfferRequest A]

instance : IsPreorder OfferRequest (Within P A) where
  refl r := ⟨.refl r, fun _ => refl_of A r⟩
  trans _ _ _ h h' :=
    ⟨h.1.trans h'.1, fun hp => trans_of A (h.2 hp) (h'.2 (h.1.id_eq ▸ hp))⟩

instance : IsPreorder Session (Spares P K A) where
  refl s := fun _ => UnitOfWork.moves_refl s.rows
  trans _ _ _ h h' := fun hg =>
    UnitOfWork.moves_trans (h hg) (h' (guard_of_moves hg (h hg)))

theorem flushSession_spares : Txn.Keeps (Spares P K A) flushSession := fun s _ =>
  flushSession_moves s

variable {id : Nat}

theorem updateRow_spares {f : OfferRequest → OfferRequest} (hid : ¬ P id)
    (h : ∀ r, Evolves r (f r)) : Txn.Keeps (Spares P K A) (updateRow id f) := fun _ _ =>
  updateRow_moves fun r _ hr => ⟨h r, fun hp => absurd (hr ▸ hp) hid⟩

theorem applyOvertimeTransition_spares {d : Decision} (hd : d.resultStatus ≠ .overtimePresented)
    (h : P id → ∀ r r', transitionRow ambient.utcNow r d = .ok r' → A r r') :
    Txn.Keeps (Spares P K A) (applyOvertimeTransition ambient id d) := by
  intro s _
  refine applyOvertimeTransition_moves fun r _ hid r' hr' => ?_
  exact ⟨evolves_transition hr' fun hp => absurd hp hd, fun hp => h (hid ▸ hp) r r' hr'⟩

theorem not_protected
    (hg : Guard P K s) (hnext : nextQueuedForOwner s home owner = some candidate) :
    ¬ P candidate.id := by
  intro hp
  obtain ⟨t, ht, hlive, old, hold, _, hqueued⟩ := nextQueuedForOwner_stored hnext
  obtain ⟨_, _, old', hold', hnot, _⟩ := hg t ht (hlive ▸ hp)
  rw [hold] at hold'
  injection hold' with hold'
  exact absurd (hold' ▸ hqueued) hnot

theorem spares_writeRule : WriteRule ambient (fun id d => d.resultStatus ≠ .overtimePresented ∧
    (P id → ∀ r r', transitionRow ambient.utcNow r d = .ok r' → A r r')) (Spares P K A) where
  flush := flushSession_spares
  decides h := applyOvertimeTransition_spares h.1 h.2

theorem spares_promoteRule : PromoteRule ambient (fun id => ¬ P id) (Spares P K A) where
  writes :=
    { flush := flushSession_spares
      decides := fun h =>
        applyOvertimeTransition_spares h.2.ends.ne_presented fun hp => absurd hp h.1 }
  select {s home owner candidate} hnext := by
    by_cases hp : P candidate.id
    · exact .inr fun s' hg => absurd hp (not_protected hg hnext)
    · exact .inl hp
  deliver {s home owner candidate} hnext := by
    intro hg
    refine applyOvertimeTransition_spares (by decide) (fun hp => ?_) s hg
    exact absurd hp (not_protected hg hnext)
  present {id} now hid := fun s _ =>
    present_moves now (fun _ _ hr hshow => ⟨hshow.1, fun hp => absurd (hr ▸ hp) hid⟩) s
  job {id} jobId hid := updateRow_spares hid fun r => ⟨rfl, .refl, fun h => h⟩

theorem promoteNextForOwner_spares (home : Server) (owner : Nat) (lifetime now : Int)
    (flush : Bool) :
    Txn.Keeps (Spares P K A) (promoteNextForOwner ambient home owner lifetime now flush) :=
  spares_promoteRule.promoteNextForOwner home owner lifetime now flush

theorem markPresented_spares {presentedAt : Int} {messageId : Option Int}
    {flush : Bool} (hA : P id → ∀ r r', Shows r r' → A r r') :
    Txn.Keeps (Spares P K A) (markPresented ambient id presentedAt messageId flush) :=
  spares_writeRule.markPresented flush fun s _ => presentMessage_moves presentedAt messageId
    (fun _ _ hr hshow => ⟨hshow.1, fun hp => hA (hr ▸ hp) _ _ hshow⟩) s

end Bounds

end TradingBot.Overtime
