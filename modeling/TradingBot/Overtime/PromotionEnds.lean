import TradingBot.Overtime.RepairRun
import TradingBot.Overtime.Seat
import Mathlib.Logic.Relation

/-!
# The recursion of a promotion

`promote_next_for_owner` (offer_overtime_request_service.py:651) calls itself after each request it
invalidates. After a flush the next call sees a queue with one request less, without one the same
queue, whose head it invalidates again.
-/

namespace TradingBot.Overtime

open Misc

variable {ambient : Ambient} {home : Server} {owner : Nat} {lifetime now : Int} {flush : Bool}

/-- One call of `promote_next_for_owner`; `again` is the recursive one. -/
def promoteCall (ambient : Ambient) (home : Server) (owner : Nat) (lifetime now : Int)
    (flush : Bool) (again : Work (Option Nat)) : Work (Option Nat) :=
  Txn.read (fun s => (ownerHasOccupyingRequest s home owner, nextQueuedForOwner s home owner))
    >>= fun seat =>
  match seat with
  | (true, _) => pure none
  | (false, none) => pure none
  | (false, some candidate) => promoteCandidate ambient home lifetime now flush candidate again

theorem promoteLoop_succ (fuel : Nat) :
    promoteLoop ambient home owner lifetime now flush (fuel + 1) =
      promoteCall ambient home owner lifetime now flush
        (promoteLoop ambient home owner lifetime now flush fuel) := rfl

/-- The call made in `s` ends with a recursive call, made in `t`. -/
def CallsAgain (ambient : Ambient) (home : Server) (owner : Nat) (lifetime now : Int)
    (flush : Bool) (s t : Session) : Prop :=
  ∀ again, promoteCall ambient home owner lifetime now flush again s = again t

def TookOne (home : Server) (owner : Nat) (s t : Session) : Prop :=
  ∃ r ∈ s.live, r.inScope home owner = true ∧ r.isQueued = true ∧ ∃ r', r'.id = r.id ∧
    r'.resultStatus ∈ overtimeTerminalStatuses ∧
    t.live = s.live.map fun x => if x.id = r.id then r' else x

/-- A promotion ends, each recursive call follows a queued request taken to a terminal status, and
without a promotion the seat was occupied or nothing is queued. -/
structure PromotionEnds (ambient : Ambient) (home : Server) (owner : Nat) (lifetime now : Int)
    (flush : Bool) (s : Session) : Prop where
  terminates : ∃ fuel,
    (promoteLoop ambient home owner lifetime now flush fuel s).1 ≠ .error .recursion
  tookOne : ∀ t u,
    Relation.ReflTransGen (CallsAgain ambient home owner lifetime now flush) s t →
      CallsAgain ambient home owner lifetime now flush t u → TookOne home owner t u
  unpromoted : ∀ fuel s',
    promoteLoop ambient home owner lifetime now flush fuel s = (.ok none, s') →
      ownerHasOccupyingRequest s home owner = true ∨
      ∀ r ∈ s'.live, r.inScope home owner = true → r.isQueued = false

/-- The call flushes, or invalidates nothing: the seat is occupied, or the head of the queue passes. -/
def Advances (home : Server) (owner : Nat) (lifetime now : Int) (flush : Bool) (s : Session) :
    Prop :=
  flush = true ∨ ownerHasOccupyingRequest s home owner = true ∨
    ∀ candidate, nextQueuedForOwner s home owner = some candidate →
      revalidateOfferForPromotion (candidate.localOfferId.bind s.offer?) home lifetime now = none

/-! ## Rows written by one call -/

/-- The session with `r` in place of the object with key `id`. -/
def Session.put (s : Session) (id : Nat) (r : OfferRequest) : Session :=
  { s with rows := UnitOfWork.update (fun x => decide (x.id = id)) (fun _ => r) s.rows }

theorem Session.put_live (s : Session) (id : Nat) (r : OfferRequest) :
    (s.put id r).live = s.live.map fun x => if x.id = id then r else x := by
  simp only [Session.put, Session.live, UnitOfWork.live_update, decide_eq_true_eq]

theorem Session.put_put (s : Session) {id : Nat} {r : OfferRequest} (r' : OfferRequest)
    (hr : r.id = id) : (s.put id r).put id r' = s.put id r' := by
  simp only [Session.put, UnitOfWork.update, List.map_map, decide_eq_true_eq]
  congr 1
  apply List.map_congr_left
  intro t _
  simp only [Function.comp_apply]
  by_cases hid : t.live.id = id
  · simp [hid, hr]
  · simp [hid]

theorem Session.put_select (s : Session) (id : Nat) (r : OfferRequest) (p : OfferRequest → Bool) :
    (s.put id r).select p = (s.select p).map fun x => if x.id = id then r else x := by
  simp only [Session.put, Session.select, UnitOfWork.select, UnitOfWork.update, List.filter_map,
    List.map_map]
  have hstored : ((fun t : Tracked OfferRequest => t.stored.any p) ∘ fun t =>
      if decide (t.live.id = id) = true then { t with live := r } else t) =
      fun t => t.stored.any p := by
    funext t
    simp only [Function.comp_apply]
    split <;> rfl
  rw [hstored]
  apply List.map_congr_left
  intro t _
  simp only [Function.comp_apply, decide_eq_true_eq]
  split <;> rfl

/-- `t` is `s` with `r'` in place of `r`, and what is not flushed is as it was. -/
structure Written (flush : Bool) (s : Session) (r r' : OfferRequest) (t : Session) : Prop where
  key : identity r' = identity r
  live : t.live = s.live.map fun x => if x.id = r.id then r' else x
  pending : flush = false → t = s.put r.id r'

namespace Written

variable {s t : Session} {r r' : OfferRequest}

theorem id_eq (h : Written flush s r r' t) : r'.id = r.id :=
  field_eq_of_identity h.key OfferRequest.id fun _ => rfl

theorem ids (h : Written flush s r r' t) (hids : (s.live.map OfferRequest.id).Nodup) :
    (t.live.map OfferRequest.id).Nodup := by
  have hsame : t.live.map OfferRequest.id = s.live.map OfferRequest.id := by
    rw [h.live, List.map_map]
    apply List.map_congr_left
    intro x _
    simp only [Function.comp_apply]
    split
    · rename_i hx
      rw [h.id_eq, hx]
    · rfl
  rw [hsame]
  exact hids

theorem mem (h : Written flush s r r' t) (hr : r ∈ s.live) : r' ∈ t.live := by
  rw [h.live]
  exact List.mem_map.mpr ⟨r, hr, if_pos rfl⟩

theorem put (h : Written flush s r r' t) {row : OfferRequest} (hrow : identity row = identity r') :
    Written flush s r row (t.put r.id row) where
  key := hrow.trans h.key
  live := by
    rw [Session.put_live, h.live, List.map_map]
    apply List.map_congr_left
    intro x _
    simp only [Function.comp_apply]
    by_cases hx : x.id = r.id
    · rw [if_pos hx, if_pos h.id_eq, if_pos hx]
    · rw [if_neg hx, if_neg hx]
  pending hflush := by
    rw [h.pending hflush, Session.put_put s row h.id_eq]

theorem of_live (h : Written flush s r r' t) {u : Session} (hlive : u.live = t.live)
    (hpending : flush = false → u = t) : Written flush s r r' u where
  key := h.key
  live := hlive.trans h.live
  pending hflush := (hpending hflush).trans (h.pending hflush)

end Written

theorem written_refl {s : Session} {r : OfferRequest} (hids : (s.live.map OfferRequest.id).Nodup)
    (hr : r ∈ s.live) : Written flush s r r s := by
  have hsame : ∀ x ∈ s.live, (if x.id = r.id then r else x) = x := by
    intro x hx
    split
    · rename_i hid
      exact eq_of_id_eq hids hr hx hid.symm
    · rfl
  refine ⟨rfl, ?_, fun _ => ?_⟩
  · rw [List.map_congr_left hsame, List.map_id']
  · unfold Session.put UnitOfWork.update
    have hrows : ∀ t ∈ s.rows,
        (if decide (t.live.id = r.id) = true then { t with live := r } else t) = t := by
      intro t ht
      split
      · rename_i hid
        rw [eq_of_id_eq hids hr (List.mem_map_of_mem ht) (of_decide_eq_true hid).symm]
      · rfl
    rw [List.map_congr_left hrows, List.map_id']

theorem updateRow_put (f : OfferRequest → OfferRequest) {s : Session} {r : OfferRequest} {id : Nat}
    (hids : (s.live.map OfferRequest.id).Nodup) (hr : r ∈ s.live) (hid : r.id = id) :
    updateRow id f s = (.ok (), s.put id (f r)) := by
  subst hid
  unfold updateRow Session.put UnitOfWork.update
  simp only [Txn.modify_apply, Prod.mk.injEq, true_and]
  congr 1
  apply List.map_congr_left
  intro t ht
  split
  · rename_i hid
    rw [eq_of_id_eq hids (List.mem_map_of_mem ht) hr (of_decide_eq_true hid)]
  · rfl

theorem applyOvertimeTransition_put {s : Session} {r row : OfferRequest} {d : Decision} {id : Nat}
    (hids : (s.live.map OfferRequest.id).Nodup) (hr : r ∈ s.live) (hid : r.id = id)
    (hok : transitionRow ambient.utcNow r d = .ok row) :
    applyOvertimeTransition ambient id d s = (.ok (), s.put id row) := by
  have hrow := row?_of_mem hids hr
  rw [hid] at hrow
  rw [applyOvertimeTransition_eq_updateRow hrow hok, updateRow_put _ hids hr hid, hok]

theorem flushIf_cases (flushes : Bool) {s : Session} (hids : (s.live.map OfferRequest.id).Nodup) :
    flushIf flushes s = (.error .integrity, s) ∨ ∃ s', flushIf flushes s = (.ok (), s') ∧
      s'.live = s.live ∧ (flushes = true → InStep s') ∧ (flushes = false → s' = s) := by
  cases flushes with
  | false => exact .inr ⟨s, rfl, rfl, nofun, fun _ => rfl⟩
  | true =>
    by_cases hunique : uniqueIndexes s.live = true
    · have hdone : flushSession s = (.ok (), { s with rows := UnitOfWork.flush s.rows }) := by
        rw [flushSession, if_pos hunique]
      obtain ⟨hstep, hlive⟩ := inStep_of_flush hdone hids
      exact .inr ⟨_, hdone, hlive, fun _ => hstep, nofun⟩
    · exact .inl (by rw [flushIf, if_pos rfl, flushSession, if_neg hunique])

/-! ## How one call ends -/

/-- A body with a recursive call ends on its own, or makes the call in a session with `P`. -/
def Outcome (P : Session → Prop) (body : Work (Option Nat) → Work (Option Nat)) (s : Session) :
    Prop :=
  (∃ result s', (∀ again, body again s = (result, s')) ∧ result ≠ .error .recursion ∧
    result ≠ .ok none) ∨ ∃ t, (∀ again, body again s = again t) ∧ P t

section Outcome

variable {P : Session → Prop} {body : Work (Option Nat) → Work (Option Nat)} {s s1 : Session}

theorem outcome_error {m : Work Unit} {e : Raised} (h : m s = (.error e, s1))
    (he : e ≠ .recursion) : Outcome P (fun again => m >>= fun _ => body again) s := by
  refine .inl ⟨.error e, s1, fun again => ?_, fun heq => he (Except.error.inj heq), nofun⟩
  show (m >>= fun _ => body again) s = _
  rw [Txn.bind_apply, h]

theorem outcome_ok {m : Work Unit} (h : m s = (.ok (), s1)) (hrest : Outcome P body s1) :
    Outcome P (fun again => m >>= fun _ => body again) s := by
  have hbind : ∀ again, (m >>= fun _ => body again) s = body again s1 := by
    intro again
    rw [Txn.bind_apply, h]
  unfold Outcome
  simp only [hbind]
  exact hrest

theorem outcome_flushIf {flushes : Bool} (hids : (s.live.map OfferRequest.id).Nodup)
    (hrest : ∀ s', s'.live = s.live → (flushes = true → InStep s') → (flushes = false → s' = s) →
      Outcome P body s') :
    Outcome P (fun again => flushIf flushes >>= fun _ => body again) s := by
  rcases flushIf_cases flushes hids with herror | ⟨s', hok, hlive, hstep, hsame⟩
  · exact outcome_error herror nofun
  · exact outcome_ok hok (hrest s' hlive hstep hsame)

end Outcome

/-- The request `r` was invalidated, and the queries see it when the caller flushed. -/
def Invalidated (flush : Bool) (s : Session) (r : OfferRequest) (t : Session) : Prop :=
  ∃ r', r'.resultStatus = .overtimeInvalidated ∧ Written flush s r r' t ∧ (flush = true → InStep t)

theorem transitionRow_legal (utcNow : Int) {r : OfferRequest} {d : Decision}
    (hopen : r.resultStatus ∉ terminalOfferRequestStatuses ∨ d.resultStatus = r.resultStatus)
    (hlegal : d.resultStatus = r.resultStatus ∨
      d.resultStatus ∈ legalOvertimeTransitions r.resultStatus) :
    ∃ row, transitionRow utcNow r d = .ok row := by
  have hallowed : ¬ (d.resultStatus ≠ r.resultStatus ∧
      d.resultStatus ∉ legalOvertimeTransitions r.resultStatus) := by
    rintro ⟨hne, hillegal⟩
    exact hlegal.elim hne hillegal
  have hdecided : ¬ (r.resultStatus ∈ terminalOfferRequestStatuses ∧
      d.resultStatus ≠ r.resultStatus) := by
    rintro ⟨hterminal, hne⟩
    exact hopen.elim (fun hopen => hopen hterminal) hne
  simp only [transitionRow, if_neg hallowed, applyOfferRequestDecision, if_neg hdecided]
  exact ⟨_, rfl⟩

section Call

variable {s : Session} {r : OfferRequest}

theorem invalidateRequest_outcome {t : Session} {r1 : OfferRequest} {reason : String}
    (hids : (s.live.map OfferRequest.id).Nodup) (hr : r ∈ s.live)
    (hwritten : Written flush s r r1 t) (hstatus : r1.resultStatus = .overtimeDelivering) :
    Outcome (Invalidated flush s r) (fun again =>
      invalidateRequest ambient r.id reason now flush >>= fun _ => again) t := by
  obtain ⟨row, hok⟩ := transitionRow_legal ambient.utcNow (r := r1)
    (d := invalidation reason now) (.inl (by rw [hstatus]; decide))
    (.inr (by rw [hstatus]; exact List.mem_of_elem_eq_true rfl))
  obtain ⟨_, hident, hend, _⟩ := transitionRow_ok hok
  have hids' := hwritten.ids hids
  have hmem := hwritten.mem hr
  have hput := hwritten.put hident
  have hstep : invalidateRequest ambient r.id reason now flush t =
      flushIf flush (t.put r.id row) := by
    have hrow := row?_of_mem hids' hmem
    rw [hwritten.id_eq] at hrow
    simp only [invalidateRequest, Txn.bind_read, hrow]
    rw [if_neg (by rw [hstatus]; decide), if_neg (by rw [hstatus]; decide), Txn.bind_apply,
      applyOvertimeTransition_put hids' hmem hwritten.id_eq hok]
  rcases flushIf_cases flush (hput.ids hids) with herror | ⟨u, hdone, hlive, hflushed, hsame⟩
  · exact outcome_error (hstep.trans herror) fun h => by cases h
  · refine outcome_ok (hstep.trans hdone) (.inr ⟨u, fun _ => rfl, row, hend, ?_, hflushed⟩)
    exact hput.of_live hlive hsame

theorem delivered_outcome {P : Session → Prop} {t : Session} {id : Nat}
    (hids : (t.live.map OfferRequest.id).Nodup) :
    Outcome P (fun _ => flushIf flush >>= fun _ => schedulePresentedEdit ambient id >>= fun _ =>
      pure (some id)) t := by
  refine outcome_flushIf hids fun s' hlive _ _ => ?_
  refine outcome_flushIf (by rw [hlive]; exact hids) fun s'' _ _ _ => ?_
  exact .inl ⟨.ok (some id), s'', fun _ => rfl, nofun, nofun⟩

/-- The legacy outbox returns its reason not to deliver before it adds a row: nothing is flushed. -/
def UndeliverableUnflushed (ambient : Ambient) : Prop :=
  ∀ id outcome, ambient.enqueue id = .legacy outcome → outcome.undeliverableReason ≠ none →
    outcome.flushes = false

theorem deliverCandidate_outcome (hambient : UndeliverableUnflushed ambient)
    (hids : (s.live.map OfferRequest.id).Nodup) (hr : r ∈ s.live)
    (hqueued : r.resultStatus = .overtimeQueued) :
    Outcome (Invalidated flush s r) (deliverCandidate ambient r.id now flush) s := by
  obtain ⟨r1, hok⟩ := transitionRow_legal ambient.utcNow (r := r)
    (d := { resultStatus := .overtimeDelivering }) (.inl (by rw [hqueued]; decide))
    (.inr (by rw [hqueued]; decide))
  obtain ⟨_, hident, hstatus, _⟩ := transitionRow_ok hok
  refine outcome_ok (applyOvertimeTransition_put hids hr rfl hok) ?_
  have hwritten : Written flush s r r1 (s.put r.id r1) := (written_refl hids hr).put hident
  refine outcome_flushIf (hwritten.ids hids) fun t hlive _ hsame => ?_
  have hwritten := hwritten.of_live hlive hsame
  have hids' := hwritten.ids hids
  cases henqueue : ambient.enqueue r.id with
  | queueV1 outcome =>
    have hput : Written flush s r { r1 with telegramDeliveryJobId := outcome.jobId }
        (t.put r.id { r1 with telegramDeliveryJobId := outcome.jobId }) := hwritten.put rfl
    refine outcome_ok (updateRow_put _ hids' (hwritten.mem hr) hwritten.id_eq) ?_
    cases hreason : outcome.undeliverableReason with
    | some reason =>
      simp only [hreason]
      exact invalidateRequest_outcome hids hr hput hstatus
    | none =>
      simp only [hreason]
      exact delivered_outcome (hput.ids hids)
  | legacy outcome =>
    refine outcome_flushIf hids' fun u hlive' _ hsame' => ?_
    cases hreason : outcome.undeliverableReason with
    | some reason =>
      simp only [hreason]
      have hstill : outcome.flushes = false := hambient r.id outcome henqueue (by simp [hreason])
      obtain rfl := hsame' hstill
      exact invalidateRequest_outcome hids hr hwritten hstatus
    | none =>
      simp only [hreason]
      apply delivered_outcome
      rw [hlive']
      exact hids'
  | queueError reason => exact invalidateRequest_outcome hids hr hwritten hstatus
  | failure => exact .inl ⟨.error .delivery, t, fun _ => rfl, nofun, nofun⟩

theorem presentCandidate_outcome {P : Session → Prop} (hids : (s.live.map OfferRequest.id).Nodup)
    (hr : r ∈ s.live) (hqueued : r.resultStatus = .overtimeQueued) :
    Outcome P (fun _ => presentCandidate ambient r.id now flush) s := by
  let r1 := { r with presentedAt := some now, decisionDeadlineAt := some (decisionDeadlineAt now) }
  have hclock : Written false s r r1 (s.put r.id r1) := (written_refl hids hr).put rfl
  obtain ⟨r2, hok⟩ := transitionRow_legal ambient.utcNow (r := r1)
    (d := { resultStatus := .overtimePresented })
    (.inl (by show r.resultStatus ∉ _; rw [hqueued]; decide))
    (.inr (by show _ ∈ legalOvertimeTransitions r.resultStatus; rw [hqueued]; decide))
  have hput := hclock.put (transitionRow_ok hok).2.1
  refine outcome_ok (updateRow_put _ hids hr rfl) ?_
  refine outcome_ok (applyOvertimeTransition_put (hclock.ids hids) (hclock.mem hr) rfl hok) ?_
  exact delivered_outcome (hput.ids hids)

theorem candidate_queued (hs : InStep s) (hnext : nextQueuedForOwner s home owner = some r) :
    r.resultStatus = .overtimeQueued := by
  obtain ⟨t, ht, rfl, old, hold, _, hqueued⟩ := nextQueuedForOwner_stored hnext
  obtain ⟨old', hold', hstatus, _⟩ := hs.stored t ht
  obtain rfl := Option.some.inj (hold.symm.trans hold')
  rw [← hstatus, hqueued]

theorem promoteCall_none (again : Work (Option Nat))
    (h : ownerHasOccupyingRequest s home owner = true ∨ nextQueuedForOwner s home owner = none) :
    promoteCall ambient home owner lifetime now flush again s = (.ok none, s) := by
  simp only [promoteCall, Txn.bind_read]
  cases hseat : ownerHasOccupyingRequest s home owner with
  | true => rfl
  | false =>
    have hnone := h.resolve_left (by simp [hseat])
    rw [hnone]
    rfl

theorem promoteCall_some (again : Work (Option Nat))
    (hseat : ownerHasOccupyingRequest s home owner = false)
    (hnext : nextQueuedForOwner s home owner = some r) :
    promoteCall ambient home owner lifetime now flush again s =
      promoteCandidate ambient home lifetime now flush r again s := by
  simp only [promoteCall, Txn.bind_read, hseat, hnext]

/-- A call with a candidate ends, or calls again after it invalidated it, which it never does to a
valid head of an Iranian queue. -/
theorem promoteCall_outcome (hambient : UndeliverableUnflushed ambient) (hs : InStep s)
    (hseat : ownerHasOccupyingRequest s home owner = false)
    (hnext : nextQueuedForOwner s home owner = some r) :
    Outcome (fun t => Invalidated flush s r t ∧
        (revalidateOfferForPromotion (r.localOfferId.bind s.offer?) home lifetime now = none →
          home = .foreign)) (promoteCall ambient home owner lifetime now flush) s := by
  have hmem := (candidate_inScope hs hnext).1
  have hqueued := candidate_queued hs hnext
  unfold Outcome
  simp only [promoteCall_some _ hseat hnext, promoteCandidate, Txn.bind_read]
  cases hvalid : revalidateOfferForPromotion (r.localOfferId.bind s.offer?) home lifetime now with
  | some reason =>
    obtain ⟨r1, hok⟩ := transitionRow_legal ambient.utcNow (r := r)
      (d := promotionInvalidation reason now) (.inl (by rw [hqueued]; decide))
      (.inr (by rw [hqueued]; exact List.mem_of_elem_eq_true rfl))
    obtain ⟨_, hident, hstatus, _⟩ := transitionRow_ok hok
    have hwritten : Written flush s r r1 (s.put r.id r1) := (written_refl hs.ids hmem).put hident
    refine outcome_ok (applyOvertimeTransition_put hs.ids hmem rfl hok) ?_
    refine outcome_flushIf (hwritten.ids hs.ids) fun t hlive hstep hsame => ?_
    exact .inr ⟨t, fun _ => rfl, ⟨r1, hstatus, hwritten.of_live hlive hsame, hstep⟩,
      fun h => by cases h⟩
  | none =>
    cases home with
    | iran => exact presentCandidate_outcome hs.ids hmem hqueued
    | foreign =>
      rcases deliverCandidate_outcome hambient hs.ids hmem hqueued with hends | ⟨t, hcall, hold⟩
      · exact .inl hends
      · exact .inr ⟨t, hcall, hold, fun _ => rfl⟩

theorem tookOne_of_invalidated {t : Session} (hs : InStep s)
    (hnext : nextQueuedForOwner s home owner = some r) (h : Invalidated flush s r t) :
    TookOne home owner s t := by
  obtain ⟨hmem, hscope⟩ := candidate_inScope hs hnext
  obtain ⟨r', hstatus, hwritten, _⟩ := h
  refine ⟨r, hmem, hscope, ?_, r', hwritten.id_eq, ?_, hwritten.live⟩
  · simp [OfferRequest.isQueued, candidate_queued hs hnext]
  · rw [hstatus]
    decide

theorem outcome_callsAgain {P : Session → Prop} {u : Session}
    (h : Outcome P (promoteCall ambient home owner lifetime now flush) s)
    (hcall : CallsAgain ambient home owner lifetime now flush s u) : P u := by
  rcases h with ⟨result, s', hends, hresult, _⟩ | ⟨t, hagain, ht⟩
  · have hraise : (result, s') = (.error .recursion, u) :=
      (hends (Txn.raise .recursion)).symm.trans (hcall (Txn.raise .recursion))
    exact absurd (congrArg Prod.fst hraise) hresult
  · have hpure : (.ok none, t) = ((.ok none, u) : Except Raised (Option Nat) × Session) :=
      (hagain (pure none)).symm.trans (hcall (pure none))
    cases hpure
    exact ht

theorem not_callsAgain_of_const {u s' : Session} {result : Except Raised (Option Nat)}
    (h : ∀ again, promoteCall ambient home owner lifetime now flush again s = (result, s')) :
    ¬ CallsAgain ambient home owner lifetime now flush s u := by
  intro hcall
  have hpure := (h (pure none)).symm.trans (hcall (pure none))
  have hraise := (h (Txn.raise .recursion)).symm.trans (hcall (Txn.raise .recursion))
  have hboth := (congrArg Prod.fst hpure).symm.trans (congrArg Prod.fst hraise)
  cases hboth

end Call

/-! ## Calls that flush -/

section Flushed

variable {s : Session}

theorem occupied_iff (hs : InStep s) : ownerHasOccupyingRequest s home owner = true ↔
    ∃ r ∈ s.live, r.inScope home owner = true ∧ r.isOccupying = true := by
  have hsame : ∀ t ∈ s.rows, ∀ old, t.stored = some old →
      (old.inScope home owner && old.isOccupying) =
        (t.live.inScope home owner && t.live.isOccupying) := by
    intro t ht old hold
    obtain ⟨old', hold', hstatus, hident⟩ := hs.stored t ht
    obtain rfl := Option.some.inj (hold.symm.trans hold')
    have hscope : old.inScope home owner = t.live.inScope home owner :=
      field_eq_of_identity hident (fun r => r.inScope home owner) fun _ => rfl
    simp only [hscope, OfferRequest.isOccupying, hstatus]
  simp only [ownerHasOccupyingRequest, decide_eq_true_eq, List.isEmpty_eq_false_iff]
  constructor
  · intro h
    obtain ⟨r, hr⟩ := List.exists_mem_of_ne_nil _ h
    obtain ⟨t, ht, rfl, old, hold, hp⟩ := UnitOfWork.mem_select.mp hr
    rw [hsame t ht old hold, Bool.and_eq_true] at hp
    exact ⟨t.live, List.mem_map_of_mem ht, hp⟩
  · rintro ⟨r, hr, hp⟩
    obtain ⟨t, ht, rfl⟩ := List.mem_map.mp hr
    obtain ⟨old, hold, _⟩ := hs.stored t ht
    refine List.ne_nil_of_mem (UnitOfWork.mem_select.mpr ⟨t, ht, rfl, old, hold, ?_⟩)
    rw [hsame t ht old hold, Bool.and_eq_true]
    exact hp

theorem seat_free_of_tookOne {t : Session} (hs : InStep s) (ht : InStep t)
    (h : TookOne home owner s t) (hseat : ownerHasOccupyingRequest s home owner = false) :
    ownerHasOccupyingRequest t home owner = false := by
  rw [Bool.eq_false_iff] at hseat ⊢
  intro hocc
  obtain ⟨x, hx, hscope, hoccupying⟩ := (occupied_iff ht).mp hocc
  obtain ⟨r, _, _, _, r', _, hterminal, hlive⟩ := h
  rw [hlive] at hx
  obtain ⟨y, hy, rfl⟩ := List.mem_map.mp hx
  by_cases hid : y.id = r.id
  · rw [if_pos hid] at hoccupying
    have hapart : ∀ status ∈ overtimeTerminalStatuses,
        status ∉ overtimeOwnerOccupyingStatuses := by decide
    exact hapart _ hterminal (by simpa [OfferRequest.isOccupying] using hoccupying)
  · rw [if_neg hid] at hscope hoccupying
    exact hseat ((occupied_iff hs).mpr ⟨y, hy, hscope, hoccupying⟩)

def queuedCount (s : Session) (home : Server) (owner : Nat) : Nat :=
  s.live.countP fun r => r.inScope home owner && r.isQueued

theorem countP_map_lt {α : Type} {p : α → Bool} {f : α → α} :
    ∀ {l : List α}, (∀ x ∈ l, p (f x) = true → p x = true) →
      (∃ x ∈ l, p x = true ∧ p (f x) = false) → (l.map f).countP p < l.countP p := by
  intro l
  induction l with
  | nil =>
    rintro _ ⟨x, hx, _⟩
    cases hx
  | cons head tail ih =>
    rintro hkeep ⟨x, hx, hp, hgone⟩
    have htail : (tail.map f).countP p ≤ tail.countP p := by
      rw [List.countP_map]
      exact List.countP_mono_left fun y hy => hkeep y (List.mem_cons_of_mem _ hy)
    rw [List.map_cons, List.countP_cons, List.countP_cons]
    rcases List.mem_cons.mp hx with rfl | hx
    · simp only [hp, hgone, if_true, Bool.false_eq_true, if_false]
      omega
    · have hlt := ih (fun y hy => hkeep y (List.mem_cons_of_mem _ hy)) ⟨x, hx, hp, hgone⟩
      have hhead := hkeep head List.mem_cons_self
      split <;> split <;> first | omega | simp_all

theorem queuedCount_lt {t : Session} (h : TookOne home owner s t) :
    queuedCount t home owner < queuedCount s home owner := by
  obtain ⟨r, hr, hscope, hqueued, r', _, hterminal, hlive⟩ := h
  have hended : r'.isQueued = false := by
    have hapart : ∀ status ∈ overtimeTerminalStatuses, status ≠ .overtimeQueued := by decide
    simpa [OfferRequest.isQueued] using hapart _ hterminal
  unfold queuedCount
  rw [hlive]
  refine countP_map_lt (fun x _ hx => ?_) ⟨r, hr, by simp [hscope, hqueued], by simp [hended]⟩
  by_cases hid : x.id = r.id
  · simp [if_pos hid, hended] at hx
  · rwa [if_neg hid] at hx

theorem callsAgain_flushed {t : Session} (hambient : UndeliverableUnflushed ambient)
    (hs : InStep s) (h : CallsAgain ambient home owner lifetime now true s t) :
    InStep t ∧ TookOne home owner s t ∧ ownerHasOccupyingRequest s home owner = false := by
  have hseat : ownerHasOccupyingRequest s home owner = false := by
    rw [Bool.eq_false_iff]
    exact fun hocc => not_callsAgain_of_const (fun again => promoteCall_none again (.inl hocc)) h
  cases hnext : nextQueuedForOwner s home owner with
  | none =>
    exact absurd h (not_callsAgain_of_const fun again => promoteCall_none again (.inr hnext))
  | some r =>
    obtain ⟨r', hstatus, hwritten, hstep⟩ :=
      (outcome_callsAgain (promoteCall_outcome hambient hs hseat hnext) h).1
    exact ⟨hstep rfl, tookOne_of_invalidated hs hnext ⟨r', hstatus, hwritten, hstep⟩, hseat⟩

theorem promoteCall_cases (hambient : UndeliverableUnflushed ambient) (hs : InStep s) :
    ((ownerHasOccupyingRequest s home owner = true ∨ nextQueuedForOwner s home owner = none) ∧
      ∀ again, promoteCall ambient home owner lifetime now flush again s = (.ok none, s)) ∨
    (∃ result s', result ≠ .error .recursion ∧ result ≠ .ok none ∧
      ∀ again, promoteCall ambient home owner lifetime now flush again s = (result, s')) ∨
    ∃ t, CallsAgain ambient home owner lifetime now flush s t := by
  by_cases hidle : ownerHasOccupyingRequest s home owner = true ∨
      nextQueuedForOwner s home owner = none
  · exact .inl ⟨hidle, fun again => promoteCall_none again hidle⟩
  · rw [not_or, Bool.not_eq_true] at hidle
    obtain ⟨r, hnext⟩ := Option.ne_none_iff_exists'.mp hidle.2
    have houtcome : Outcome _ (promoteCall ambient home owner lifetime now flush) s :=
      promoteCall_outcome hambient hs hidle.1 hnext
    rcases houtcome with ⟨result, s', hends, hresult, hnone⟩ | ⟨t, hcall, _⟩
    · exact .inr (.inl ⟨result, s', hresult, hnone, hends⟩)
    · exact .inr (.inr ⟨t, hcall⟩)

theorem promotion_terminates (hambient : UndeliverableUnflushed ambient) (hs : InStep s) :
    ∃ fuel, (promoteLoop ambient home owner lifetime now true fuel s).1 ≠ .error .recursion := by
  induction hcount : queuedCount s home owner using Nat.strong_induction_on generalizing s with
  | _ count ih =>
    rcases @promoteCall_cases ambient home owner lifetime now true s hambient hs with
      ⟨_, hnone⟩ | ⟨result, s', hresult, _, hends⟩ | ⟨t, hcall⟩
    · refine ⟨1, ?_⟩
      rw [promoteLoop_succ, hnone]
      nofun
    · refine ⟨1, ?_⟩
      rw [promoteLoop_succ, hends]
      exact hresult
    · obtain ⟨hstep, htook, _⟩ := callsAgain_flushed hambient hs hcall
      obtain ⟨fuel, hfuel⟩ := ih _ (hcount ▸ queuedCount_lt htook) hstep rfl
      refine ⟨fuel + 1, ?_⟩
      rw [promoteLoop_succ, hcall]
      exact hfuel

theorem promotion_unpromoted (hambient : UndeliverableUnflushed ambient) (fuel : Nat) :
    ∀ {s s' : Session}, InStep s →
      promoteLoop ambient home owner lifetime now true fuel s = (.ok none, s') →
        ownerHasOccupyingRequest s home owner = true ∨
          ∀ r ∈ s'.live, r.inScope home owner = true → r.isQueued = false := by
  induction fuel with
  | zero =>
    intro s s' _ h
    cases h
  | succ fuel ih =>
    intro s s' hs h
    rw [promoteLoop_succ] at h
    rcases @promoteCall_cases ambient home owner lifetime now true s hambient hs with
      ⟨hidle, hnone⟩ | ⟨result, s1, _, hresult, hends⟩ | ⟨t, hcall⟩
    · rw [hnone] at h
      cases h
      refine hidle.imp_right fun hempty r hr hscope => ?_
      simpa [OfferRequest.isQueued] using none_queued_of_no_candidate hs hempty r hr hscope
    · rw [hends] at h
      exact absurd (congrArg Prod.fst h) hresult
    · rw [hcall] at h
      obtain ⟨hstep, htook, hseat⟩ := callsAgain_flushed hambient hs hcall
      have hfree := seat_free_of_tookOne hs hstep htook hseat
      exact .inr ((ih hstep h).resolve_left (by simp [hfree]))

theorem promotionEnds_flushed (hambient : UndeliverableUnflushed ambient) (hs : InStep s) :
    PromotionEnds ambient home owner lifetime now true s where
  terminates := promotion_terminates hambient hs
  tookOne t u hreach hcall := by
    have hstep : InStep t := by
      clear hcall
      induction hreach with
      | refl => exact hs
      | tail _ hlast ih => exact (callsAgain_flushed hambient ih hlast).1
    exact (callsAgain_flushed hambient hstep hcall).2.1
  unpromoted fuel _ h := promotion_unpromoted hambient fuel hs h

end Flushed

/-! ## Calls that do not flush -/

section Unflushed

variable {s : Session} {r r' : OfferRequest}

theorem put_occupied (id : Nat) : ownerHasOccupyingRequest (s.put id r') home owner =
    ownerHasOccupyingRequest s home owner := by
  simp only [ownerHasOccupyingRequest, Session.put_select, List.isEmpty_map]

theorem put_next (hids : (s.live.map OfferRequest.id).Nodup) (hr : r ∈ s.live)
    (hident : identity r' = identity r) (hnext : nextQueuedForOwner s home owner = some r) :
    nextQueuedForOwner (s.put r.id r') home owner = some r' := by
  let W := fun a b : OfferRequest => identity b = identity a ∧ b = if a.id = r.id then r' else a
  have hpairs : ∀ l : List OfferRequest, (∀ x ∈ l, x ∈ s.live) →
      List.Forall₂ W l (l.map fun x => if x.id = r.id then r' else x) := by
    intro l hl
    rw [List.forall₂_map_right_iff, List.forall₂_same]
    intro x hx
    refine ⟨?_, rfl⟩
    split
    · rename_i hid
      rw [hident, eq_of_id_eq hids (hl x hx) hr hid]
    · rfl
  unfold nextQueuedForOwner at hnext ⊢
  rw [Session.put_select]
  have hall := hpairs (s.select fun r => r.inScope home owner && r.isQueued) fun x hx => by
    obtain ⟨t, ht, rfl, _⟩ := UnitOfWork.mem_select.mp hx
    exact List.mem_map_of_mem ht
  rcases firstInQueue_forall₂ (fun _ _ h => h.1) hall with ⟨hnone, _⟩ | ⟨r0, r1, hr0, hr1, hw⟩
  · rw [hnone] at hnext
    cases hnext
  · rw [hnext] at hr0
    obtain rfl := Option.some.inj hr0
    rw [hr1, hw.2, if_pos rfl]

structure Stale (home : Server) (owner : Nat) (s : Session) (r r' : OfferRequest) : Prop where
  ids : (s.live.map OfferRequest.id).Nodup
  mem : r ∈ s.live
  seat : ownerHasOccupyingRequest s home owner = false
  next : nextQueuedForOwner s home owner = some r
  key : identity r' = identity r
  status : r'.resultStatus = .overtimeInvalidated

namespace Stale

theorem id_eq (h : Stale home owner s r r') : r'.id = r.id :=
  field_eq_of_identity h.key OfferRequest.id fun _ => rfl

theorem promoteCall_eq (h : Stale home owner s r r') (again : Work (Option Nat)) :
    promoteCall ambient home owner lifetime now flush again (s.put r.id r') =
      promoteCandidate ambient home lifetime now flush r' again (s.put r.id r') :=
  promoteCall_some again ((put_occupied r.id).trans h.seat) (put_next h.ids h.mem h.key h.next)

theorem offer_eq (h : Stale home owner s r r') :
    r'.localOfferId.bind (s.put r.id r').offer? = r.localOfferId.bind s.offer? := by
  rw [field_eq_of_identity h.key OfferRequest.localOfferId fun _ => rfl]
  rfl

theorem row_mem (h : Stale home owner s r r') :
    ((s.put r.id r').live.map OfferRequest.id).Nodup ∧ r' ∈ (s.put r.id r').live := by
  have hwritten : Written false s r r' (s.put r.id r') := (written_refl h.ids h.mem).put h.key
  exact ⟨hwritten.ids h.ids, hwritten.mem h.mem⟩

theorem callsAgain (h : Stale home owner s r r') {reason : String}
    (hinvalid : revalidateOfferForPromotion (r.localOfferId.bind s.offer?) home lifetime now =
      some reason) :
    ∃ r'', Stale home owner s r r'' ∧
      CallsAgain ambient home owner lifetime now false (s.put r.id r') (s.put r.id r'') := by
  obtain ⟨r'', hok⟩ := transitionRow_legal ambient.utcNow (r := r')
    (d := promotionInvalidation reason now) (.inr h.status.symm) (.inl h.status.symm)
  obtain ⟨_, hident, hstatus, _⟩ := transitionRow_ok hok
  refine ⟨r'', { h with key := hident.trans h.key, status := hstatus }, fun again => ?_⟩
  obtain ⟨hids, hmem⟩ := h.row_mem
  rw [h.promoteCall_eq]
  simp only [promoteCandidate, Txn.bind_read, h.offer_eq, hinvalid]
  rw [Txn.bind_apply, applyOvertimeTransition_put hids hmem rfl hok, h.id_eq,
    Session.put_put s r'' h.id_eq]
  rfl

theorem promoteLoop_recursion (h : Stale home owner s r r') {reason : String}
    (hinvalid : revalidateOfferForPromotion (r.localOfferId.bind s.offer?) home lifetime now =
      some reason) (fuel : Nat) :
    (promoteLoop ambient home owner lifetime now false fuel (s.put r.id r')).1 =
      .error .recursion := by
  induction fuel generalizing r' with
  | zero => rfl
  | succ fuel ih =>
    obtain ⟨r'', hstale, hcall⟩ :=
      @Stale.callsAgain ambient home owner lifetime now s r r' h reason hinvalid
    rw [promoteLoop_succ, hcall]
    exact ih hstale

theorem promoteCall_illegal (h : Stale .foreign owner s r r')
    (hvalid : revalidateOfferForPromotion (r.localOfferId.bind s.offer?) .foreign lifetime now =
      none) :
    ∃ e, e ≠ .recursion ∧ ∀ again,
      promoteCall ambient .foreign owner lifetime now false again (s.put r.id r') =
        (.error e, s.put r.id r') := by
  obtain ⟨hids, hmem⟩ := h.row_mem
  obtain ⟨e, hrefused, he⟩ : ∃ e, transitionRow ambient.utcNow r'
      { resultStatus := .overtimeDelivering } = .error e ∧ e ≠ .recursion := by
    unfold transitionRow
    rw [if_pos (by rw [h.status]; decide)]
    exact ⟨_, rfl, nofun⟩
  refine ⟨e, he, fun again => ?_⟩
  have happly : applyOvertimeTransition ambient r'.id { resultStatus := .overtimeDelivering }
      (s.put r.id r') = (.error e, s.put r.id r') := by
    simp only [applyOvertimeTransition, Txn.bind_read, row?_of_mem hids hmem, hrefused]
    rfl
  rw [h.promoteCall_eq]
  simp only [promoteCandidate, Txn.bind_read, h.offer_eq, hvalid]
  rw [deliverCandidate, Txn.bind_apply, happly]

end Stale

theorem stale_of_invalidated {t : Session} (hs : InStep s)
    (hseat : ownerHasOccupyingRequest s home owner = false)
    (hnext : nextQueuedForOwner s home owner = some r) (h : Invalidated false s r t) :
    ∃ r', Stale home owner s r r' ∧ t = s.put r.id r' := by
  obtain ⟨r', hstatus, hwritten, _⟩ := h
  exact ⟨r', ⟨hs.ids, (candidate_inScope hs hnext).1, hseat, hnext, hwritten.key, hstatus⟩,
    hwritten.pending rfl⟩

theorem not_promotionEnds (hs : InStep s) (hseat : ownerHasOccupyingRequest s home owner = false)
    (hnext : nextQueuedForOwner s home owner = some r) {reason : String}
    (hinvalid : revalidateOfferForPromotion (r.localOfferId.bind s.offer?) home lifetime now =
      some reason) : ¬ PromotionEnds ambient home owner lifetime now false s := by
  intro h
  obtain ⟨fuel, hfuel⟩ := h.terminates
  cases fuel with
  | zero => exact hfuel rfl
  | succ fuel =>
    obtain ⟨r1, hok⟩ := transitionRow_legal ambient.utcNow (r := r)
      (d := promotionInvalidation reason now)
      (.inl (by rw [candidate_queued hs hnext]; decide))
      (.inr (by rw [candidate_queued hs hnext]; exact List.mem_of_elem_eq_true rfl))
    have hmem := (candidate_inScope hs hnext).1
    obtain ⟨_, hident, hstatus, _⟩ := transitionRow_ok hok
    have hstale : Stale home owner s r r1 := ⟨hs.ids, hmem, hseat, hnext, hident, hstatus⟩
    apply hfuel
    rw [promoteLoop_succ, promoteCall_some _ hseat hnext]
    simp only [promoteCandidate, Txn.bind_read, hinvalid]
    rw [Txn.bind_apply, applyOvertimeTransition_put hs.ids hmem rfl hok]
    exact hstale.promoteLoop_recursion hinvalid fuel

theorem promotionEnds_idle (hs : InStep s) (hidle : ownerHasOccupyingRequest s home owner = true ∨
    nextQueuedForOwner s home owner = none) :
    PromotionEnds ambient home owner lifetime now flush s where
  terminates := by
    refine ⟨1, ?_⟩
    rw [promoteLoop_succ, promoteCall_none _ hidle]
    nofun
  tookOne t u hreach hcall := by
    have hstart : t = s := by
      rcases hreach.cases_head with heq | ⟨t', hfirst, _⟩
      · exact heq.symm
      · exact absurd hfirst (not_callsAgain_of_const fun again => promoteCall_none again hidle)
    subst hstart
    exact absurd hcall (not_callsAgain_of_const fun again => promoteCall_none again hidle)
  unpromoted fuel s' h := by
    cases fuel with
    | zero => cases h
    | succ fuel =>
      rw [promoteLoop_succ, promoteCall_none _ hidle] at h
      cases h
      refine hidle.imp_right fun hempty r hr hscope => ?_
      simpa [OfferRequest.isQueued] using none_queued_of_no_candidate hs hempty r hr hscope

/-- An unflushed call whose candidate passes calls itself at most once: the next cannot deliver it
any more. -/
theorem promotionEnds_valid (hambient : UndeliverableUnflushed ambient) (hs : InStep s)
    (hseat : ownerHasOccupyingRequest s home owner = false)
    (hnext : nextQueuedForOwner s home owner = some r)
    (hvalid : revalidateOfferForPromotion (r.localOfferId.bind s.offer?) home lifetime now = none) :
    PromotionEnds ambient home owner lifetime now false s := by
  have houtcome : Outcome _ (promoteCall ambient home owner lifetime now false) s :=
    promoteCall_outcome hambient hs hseat hnext
  -- what holds of a session in which the call is made again
  have hagain : ∀ t, CallsAgain ambient home owner lifetime now false s t →
      TookOne home owner s t ∧ ∃ e, e ≠ .recursion ∧
        ∀ again, promoteCall ambient home owner lifetime now false again t = (.error e, t) := by
    intro t hcall
    obtain ⟨hinvalidated, hforeign⟩ := outcome_callsAgain houtcome hcall
    obtain rfl := hforeign hvalid
    obtain ⟨r', hstale, ht⟩ := stale_of_invalidated hs hseat hnext hinvalidated
    refine ⟨tookOne_of_invalidated hs hnext hinvalidated, ?_⟩
    rw [ht]
    exact hstale.promoteCall_illegal hvalid
  have hloop : ∀ fuel, (promoteLoop ambient home owner lifetime now false (fuel + 2) s).1 ≠
      .error .recursion ∧
      (promoteLoop ambient home owner lifetime now false (fuel + 2) s).1 ≠ .ok none := by
    intro fuel
    rw [promoteLoop_succ]
    rcases houtcome with ⟨result, s', hends, hresult, hnone⟩ | ⟨t, hcall, _⟩
    · rw [hends]
      exact ⟨hresult, hnone⟩
    · obtain ⟨_, e, he, hraise⟩ := hagain t hcall
      rw [hcall, promoteLoop_succ, hraise]
      exact ⟨fun heq => he (Except.error.inj heq), nofun⟩
  refine ⟨⟨2, (hloop 0).1⟩, fun t u hreach hcall => ?_, fun fuel s' h => ?_⟩
  · rcases hreach.cases_head with rfl | ⟨t', hfirst, hrest⟩
    · exact (hagain u hcall).1
    · obtain ⟨_, e, _, hraise⟩ := hagain t' hfirst
      rcases hrest.cases_head with rfl | ⟨t'', hsecond, _⟩
      · exact absurd hcall (not_callsAgain_of_const hraise)
      · exact absurd hsecond (not_callsAgain_of_const hraise)
  · match fuel with
    | 0 => cases h
    | 1 =>
      rw [promoteLoop_succ] at h
      rcases houtcome with ⟨result, s1, hends, _, hnone⟩ | ⟨t, hcall, _⟩
      · rw [hends] at h
        exact absurd (congrArg Prod.fst h) hnone
      · rw [hcall] at h
        cases h
    | fuel + 2 => exact absurd (congrArg Prod.fst h) (hloop fuel).2

end Unflushed

/-- From a session whose queries see everything, a promotion ends as it should exactly when it
flushes or invalidates nothing at the head of the queue. -/
theorem promotionEnds_iff_advances (hambient : UndeliverableUnflushed ambient) {s : Session}
    (hs : InStep s) : PromotionEnds ambient home owner lifetime now flush s ↔
      Advances home owner lifetime now flush s := by
  cases flush with
  | true => exact ⟨fun _ => .inl rfl, fun _ => promotionEnds_flushed hambient hs⟩
  | false =>
    by_cases hidle : ownerHasOccupyingRequest s home owner = true ∨
        nextQueuedForOwner s home owner = none
    · refine ⟨fun _ => .inr (hidle.imp_right fun hnone candidate hnext => ?_), fun _ =>
        promotionEnds_idle hs hidle⟩
      rw [hnone] at hnext
      cases hnext
    · rw [not_or, Bool.not_eq_true] at hidle
      obtain ⟨r, hnext⟩ := Option.ne_none_iff_exists'.mp hidle.2
      cases hvalid : revalidateOfferForPromotion (r.localOfferId.bind s.offer?) home lifetime
          now with
      | some reason =>
        refine ⟨fun h => absurd h (not_promotionEnds hs hidle.1 hnext hvalid), ?_⟩
        rintro (hflush | hocc | hcandidates)
        · cases hflush
        · rw [hidle.1] at hocc
          cases hocc
        · rw [hcandidates r hnext] at hvalid
          cases hvalid
      | none =>
        refine ⟨fun _ => .inr (.inr fun candidate hcandidate => ?_), fun _ =>
          promotionEnds_valid hambient hs hidle.1 hnext hvalid⟩
        rw [hnext] at hcandidate
        obtain rfl := Option.some.inj hcandidate
        exact hvalid

/-- A request that waits for user 9 on an offer that is gone. -/
def orphanedRequest : OfferRequest :=
  { presentedRequest with
    presentedAt := none
    decisionDeadlineAt := none
    resultStatus := .overtimeQueued }

theorem orphaned_inStep : InStep ⟨UnitOfWork.load [orphanedRequest], []⟩ :=
  inStep_load (List.nodup_singleton _)

theorem sampleAmbient_unflushed (utcNow : Int) (publicId : String) :
    UndeliverableUnflushed (sampleAmbient utcNow publicId) := by
  intro id outcome h
  cases h

theorem promotionEnds_orphaned : PromotionEnds (sampleAmbient 0 "") .foreign 9 1 0 true
    ⟨UnitOfWork.load [orphanedRequest], []⟩ :=
  (promotionEnds_iff_advances (sampleAmbient_unflushed 0 "") orphaned_inStep).mpr (.inl rfl)

theorem not_promotionEnds_orphaned : ¬ PromotionEnds (sampleAmbient 0 "") .foreign 9 1 0 false
    ⟨UnitOfWork.load [orphanedRequest], []⟩ :=
  @not_promotionEnds _ .foreign 9 1 0 _ orphanedRequest orphaned_inStep rfl rfl "offer_missing" rfl

end TradingBot.Overtime
