import TradingBot.Overtime.Invariants

/-!
# The owner's decision seat

A promotion that flushes leaves its owner's seat filled: a request is delivering or presented, or
none is queued. Filling one seat does not empty another.
-/

namespace TradingBot.Overtime

open TradingBot TradingBot.Misc

/-- A request of the owner is delivering or presented, or no request of the owner is queued. -/
def Filled (home : Server) (owner : Nat) (rows : List OfferRequest) : Prop :=
  (∃ r ∈ rows, occupyingOwner home owner r = true) ∨
    ∀ r ∈ rows, r.inScope home owner = true → r.resultStatus ≠ .overtimeQueued

/-- Queries see the statuses that the objects have, and keys are unique. -/
structure InStep (s : Session) : Prop where
  stored : ∀ t ∈ s.rows, ∃ old, t.stored = some old ∧ old.resultStatus = t.live.resultStatus ∧
    identity old = identity t.live
  ids : (s.live.map OfferRequest.id).Nodup

theorem inStep_load {rows : List OfferRequest} {offers : List Offer}
    (hids : (rows.map OfferRequest.id).Nodup) : InStep ⟨UnitOfWork.load rows, offers⟩ := by
  constructor
  · intro t ht
    obtain ⟨r, _, rfl⟩ := List.mem_map.mp ht
    exact ⟨r, rfl, rfl, rfl⟩
  · rw [Session.live, UnitOfWork.live_load]
    exact hids

variable {s s' : Session} {id : Nat} {now : Int} {candidate : OfferRequest}

theorem ids_of_moves (h : RowsMove Evolves s s')
    (hids : (s.live.map OfferRequest.id).Nodup) : (s'.live.map OfferRequest.id).Nodup := by
  have hmap : s'.live.map OfferRequest.id = s.live.map OfferRequest.id :=
    map_id_of_forall₂ h.live_forall₂
  rw [hmap]
  exact hids

theorem inStep_of_flush (h : flushSession s = (.ok (), s'))
    (hids : (s.live.map OfferRequest.id).Nodup) : InStep s' ∧ s'.live = s.live := by
  unfold flushSession at h
  split_ifs at h
  · cases h
    refine ⟨⟨?_, ?_⟩, UnitOfWork.live_flush s.rows⟩
    · intro t ht
      obtain ⟨u, _, rfl⟩ := List.mem_map.mp ht
      exact ⟨u.live, rfl, rfl, rfl⟩
    · rw [Session.live, UnitOfWork.live_flush]
      exact hids
  · cases h

theorem inStep_of_flushIf {flush : Bool} (h : flushIf flush s = (.ok (), s'))
    (hs : InStep s) : InStep s' ∧ s'.live = s.live := by
  cases flush with
  | false =>
    cases h
    exact ⟨hs, rfl⟩
  | true => exact inStep_of_flush h hs.ids

theorem exists_transitioned {ambient : Ambient} {d : Decision}
    {r : OfferRequest} (h : applyOvertimeTransition ambient r.id d s = (.ok (), s'))
    (hids : (s.live.map OfferRequest.id).Nodup) (hr : r ∈ s.live) :
    ∃ r' ∈ s'.live, r'.resultStatus = d.resultStatus ∧ identity r' = identity r := by
  rcases applyOvertimeTransition_cases ambient r.id d hids with
    ⟨e, hrefused⟩ | ⟨ledger, row, s1, hdone, hmem, hid, hok, hlive⟩
  · rw [hrefused] at h
    cases h
  · rw [hdone] at h
    cases h
    have hsame : ledger = r := eq_of_id_eq hids hmem hr hid
    subst hsame
    obtain ⟨_, hident, hstatus, _⟩ := transitionRow_ok hok
    refine ⟨row, ?_, hstatus, hident⟩
    rw [hlive]
    exact List.mem_map.mpr ⟨ledger, hmem, by simp⟩

theorem filled_of_mem {home : Server} {owner : Nat} {rows : List OfferRequest}
    {r c : OfferRequest} (hr : r ∈ rows) (hident : identity r = identity c)
    (hscope : c.inScope home owner = true)
    (hstatus : r.resultStatus ∈ overtimeOwnerOccupyingStatuses) : Filled home owner rows := by
  left
  refine ⟨r, hr, ?_⟩
  have hrscope : r.inScope home owner = true := by
    rw [← hscope]
    exact field_eq_of_identity hident (fun r => r.inScope home owner) fun _ => rfl
  simp [occupyingOwner, hrscope, OfferRequest.isOccupying, hstatus]

theorem ids_of_ok {α : Type} {m : Work α} {a : α}
    (hm : Txn.Keeps (Spares (fun _ => False) (fun _ => True) Eq) m) (h : m s = (.ok a, s'))
    (hids : (s.live.map OfferRequest.id).Nodup) : (s'.live.map OfferRequest.id).Nodup := by
  have hspares := hm s
  rw [h] at hspares
  have hmap := map_id_of_forall₂ (forall₂_evolves_of_spares hspares)
  rw [hmap]
  exact hids

theorem ids_of_transition {ambient : Ambient} {d : Decision}
    (hd : d.resultStatus ≠ .overtimePresented)
    (h : applyOvertimeTransition ambient id d s = (.ok (), s'))
    (hids : (s.live.map OfferRequest.id).Nodup) : (s'.live.map OfferRequest.id).Nodup :=
  ids_of_ok (applyOvertimeTransition_spares hd fun hf => hf.elim) h hids

def Harmless (f : OfferRequest → OfferRequest) : Prop :=
  ∀ r, identity (f r) = identity r ∧ (f r).resultStatus = r.resultStatus

theorem updateRow_inStep {f : OfferRequest → OfferRequest}
    {u : Unit} (hf : Harmless f) (h : updateRow id f s = (.ok u, s')) (hs : InStep s) :
    InStep s' ∧ ∀ r ∈ s.live, ∃ r' ∈ s'.live, identity r' = identity r ∧
      r'.resultStatus = r.resultStatus := by
  have hs' : s' = ⟨UnitOfWork.update (fun r => decide (r.id = id)) f s.rows, s.offers⟩ :=
    (congrArg Prod.snd h).symm
  have hlive : s'.live = s.live.map (fun r => if decide (r.id = id) = true then f r else r) := by
    rw [hs']
    exact UnitOfWork.live_update (fun r => decide (r.id = id)) f s.rows
  refine ⟨⟨?_, ?_⟩, ?_⟩
  · intro t' ht'
    rw [hs'] at ht'
    obtain ⟨t, ht, rfl⟩ := List.mem_map.mp ht'
    obtain ⟨old, hold, hstatus, hident⟩ := hs.stored t ht
    by_cases hkey : t.live.id = id
    · simp only [hkey, decide_true, if_true]
      exact ⟨old, hold, hstatus.trans (hf t.live).2.symm, hident.trans (hf t.live).1.symm⟩
    · simp only [hkey, decide_false, Bool.false_eq_true, if_false]
      exact ⟨old, hold, hstatus, hident⟩
  · have hmap : s'.live.map OfferRequest.id = s.live.map OfferRequest.id := by
      rw [hlive, List.map_map]
      apply List.map_congr_left
      intro r _
      simp only [Function.comp_apply]
      split
      · exact field_eq_of_identity (hf r).1 OfferRequest.id fun _ => rfl
      · rfl
    rw [hmap]
    exact hs.ids
  · intro r hr
    rw [hlive]
    refine ⟨_, List.mem_map_of_mem hr, ?_⟩
    by_cases hkey : r.id = id
    · simp only [hkey, decide_true, if_true]
      exact hf r
    · simp only [hkey, decide_false, Bool.false_eq_true, if_false]
      exact ⟨trivial, trivial⟩

theorem invalidateRequest_inStep {ambient : Ambient} {reason : String}
    (h : invalidateRequest ambient id reason now true s = (.ok (), s'))
    (hs : InStep s) : InStep s' := by
  simp only [invalidateRequest, Txn.bind_read] at h
  cases hrow : s.row? id with
  | none =>
    rw [hrow] at h
    cases h
    exact hs
  | some ledger =>
    rw [hrow] at h
    dsimp only at h
    split_ifs at h
    · cases h
      exact hs
    · obtain ⟨_, s1, happly, hflush⟩ := Txn.bind_ok.mp h
      have hids := ids_of_transition (by simp [invalidation]) happly hs.ids
      exact (inStep_of_flush hflush hids).1
    · cases h
      exact hs

theorem candidate_inScope (hs : InStep s) {home : Server} {owner : Nat}
    (hnext : nextQueuedForOwner s home owner = some candidate) :
    candidate ∈ s.live ∧ candidate.inScope home owner = true := by
  obtain ⟨t, ht, hlive, old, hold, hscope, _⟩ := nextQueuedForOwner_stored hnext
  obtain ⟨old', hold', _, hident⟩ := hs.stored t ht
  rw [hold] at hold'
  injection hold' with hold'
  subst hold'
  refine ⟨List.mem_map.mpr ⟨t, ht, hlive⟩, ?_⟩
  rw [← hlive, ← hscope]
  exact (field_eq_of_identity hident (fun r => r.inScope home owner) fun _ => rfl).symm

theorem filled_of_occupied (hs : InStep s) {home : Server} {owner : Nat}
    (h : ownerHasOccupyingRequest s home owner = true) : Filled home owner s.live := by
  simp only [ownerHasOccupyingRequest, decide_eq_true_eq] at h
  obtain ⟨r, hr⟩ := List.exists_mem_of_ne_nil _ (List.isEmpty_eq_false_iff.mp h)
  obtain ⟨t, ht, hlive, old, hold, hp⟩ := UnitOfWork.mem_select.mp hr
  obtain ⟨old', hold', hstatus, hident⟩ := hs.stored t ht
  rw [hold] at hold'
  injection hold' with hold'
  subst hold'
  simp only [Bool.and_eq_true, OfferRequest.isOccupying, decide_eq_true_eq] at hp
  refine filled_of_mem (List.mem_map_of_mem ht) hident.symm hp.1 ?_
  rw [← hstatus]
  exact hp.2

theorem none_queued_of_no_candidate (hs : InStep s) {home : Server} {owner : Nat}
    (h : nextQueuedForOwner s home owner = none) :
    ∀ r ∈ s.live, r.inScope home owner = true → r.resultStatus ≠ .overtimeQueued := by
  intro r hr hscope hqueued
  obtain ⟨t, ht, rfl⟩ := List.mem_map.mp hr
  obtain ⟨old, hold, hstatus, hident⟩ := hs.stored t ht
  have hmem : t.live ∈ s.select (fun r => r.inScope home owner && r.isQueued) := by
    refine UnitOfWork.mem_select.mpr ⟨t, ht, rfl, old, hold, ?_⟩
    have hold' : old.inScope home owner = true := by
      rw [← hscope]
      exact field_eq_of_identity hident (fun r => r.inScope home owner) fun _ => rfl
    simp [hold', OfferRequest.isQueued, hstatus, hqueued]
  unfold nextQueuedForOwner at h
  cases hlist : s.select (fun r => r.inScope home owner && r.isQueued) with
  | nil =>
    rw [hlist] at hmem
    cases hmem
  | cons head tail =>
    rw [hlist] at h
    unfold firstInQueue at h
    split at h
    · cases h
    · split at h <;> cases h

theorem filled_of_no_candidate (hs : InStep s) {home : Server} {owner : Nat}
    (h : nextQueuedForOwner s home owner = none) : Filled home owner s.live :=
  .inr (none_queued_of_no_candidate hs h)

section Loop

variable {ambient : Ambient} {home : Server} {owner : Nat} {a : Option Nat}

theorem delivered_filled {c : OfferRequest} (hs : InStep s) (hscope : c.inScope home owner = true)
    (hrow : ∃ r ∈ s.live, r.resultStatus = .overtimeDelivering ∧ identity r = identity c)
    (h : (flushIf true >>= fun _ => schedulePresentedEdit ambient id >>= fun _ =>
      (pure (some id) : Work (Option Nat))) s = (.ok a, s')) :
    InStep s' ∧ Filled home owner s'.live := by
  obtain ⟨_, s1, hflush, h1⟩ := Txn.bind_ok.mp h
  obtain ⟨_, s2, hedit, h2⟩ := Txn.bind_ok.mp h1
  cases h2
  obtain ⟨hs1, hlive1⟩ := inStep_of_flush hflush hs.ids
  obtain ⟨hs2, hlive2⟩ := inStep_of_flushIf hedit hs1
  refine ⟨hs2, ?_⟩
  obtain ⟨r, hr, hstatus, hident⟩ := hrow
  rw [hlive2, hlive1]
  apply filled_of_mem hr hident hscope
  rw [hstatus]
  decide

theorem deliverCandidate_filled {again : Work (Option Nat)}
    (hagain : ∀ s s' a, InStep s → again s = (.ok a, s') →
      InStep s' ∧ Filled home owner s'.live)
    (hs : InStep s) (hmem : candidate ∈ s.live) (hscope : candidate.inScope home owner = true)
    (h : deliverCandidate ambient candidate.id now true again s = (.ok a, s')) :
    InStep s' ∧ Filled home owner s'.live := by
  have hend : ∀ {reason : String} {s s' : Session}, InStep s →
      (invalidateRequest ambient candidate.id reason now true >>= fun _ => again) s =
        (.ok a, s') → InStep s' ∧ Filled home owner s'.live := by
    intro reason s s' hs h
    obtain ⟨_, s1, hinvalidate, h1⟩ := Txn.bind_ok.mp h
    exact hagain s1 s' a (invalidateRequest_inStep hinvalidate hs) h1
  unfold deliverCandidate at h
  obtain ⟨_, s1, happly, h⟩ := Txn.bind_ok.mp h
  obtain ⟨_, s2, hflush, h⟩ := Txn.bind_ok.mp h
  have hids1 := ids_of_transition (by decide) happly hs.ids
  obtain ⟨hs2, hlive2⟩ := inStep_of_flush hflush hids1
  have hrow : ∃ r ∈ s2.live, r.resultStatus = .overtimeDelivering ∧
      identity r = identity candidate := by
    rw [hlive2]
    exact exists_transitioned happly hs.ids hmem
  cases henqueue : ambient.enqueue candidate.id with
  | queueV1 outcome =>
    rw [henqueue] at h
    obtain ⟨_, s3, hjob, h⟩ := Txn.bind_ok.mp h
    have hharmless : Harmless fun r => { r with telegramDeliveryJobId := outcome.jobId } :=
      fun r => ⟨rfl, rfl⟩
    obtain ⟨hs3, hkeep⟩ := updateRow_inStep hharmless hjob hs2
    dsimp only at h
    cases hreason : outcome.undeliverableReason with
    | some reason =>
      rw [hreason] at h
      exact hend hs3 h
    | none =>
      rw [hreason] at h
      refine delivered_filled hs3 hscope ?_ h
      obtain ⟨r, hr, hstatus, hident⟩ := hrow
      obtain ⟨r', hr', hident', hstatus'⟩ := hkeep r hr
      exact ⟨r', hr', hstatus'.trans hstatus, hident'.trans hident⟩
  | legacy outcome =>
    rw [henqueue] at h
    obtain ⟨_, s3, hservice, h⟩ := Txn.bind_ok.mp h
    obtain ⟨hs3, hlive3⟩ := inStep_of_flushIf hservice hs2
    dsimp only at h
    cases hreason : outcome.undeliverableReason with
    | some reason =>
      rw [hreason] at h
      exact hend hs3 h
    | none =>
      rw [hreason] at h
      refine delivered_filled hs3 hscope ?_ h
      rw [hlive3]
      exact hrow
  | queueError reason =>
    rw [henqueue] at h
    exact hend hs2 h
  | failure =>
    rw [henqueue] at h
    cases h

theorem presentCandidate_filled
    (hs : InStep s) (hmem : candidate ∈ s.live) (hscope : candidate.inScope home owner = true)
    (h : presentCandidate ambient candidate.id now true s = (.ok a, s')) :
    InStep s' ∧ Filled home owner s'.live := by
  unfold presentCandidate at h
  obtain ⟨_, s1, hclock, h⟩ := Txn.bind_ok.mp h
  obtain ⟨_, s2, happly, h⟩ := Txn.bind_ok.mp h
  obtain ⟨_, s3, hflush, h⟩ := Txn.bind_ok.mp h
  obtain ⟨_, s4, hedit, h⟩ := Txn.bind_ok.mp h
  cases h
  have hharmless : Harmless fun r =>
      { r with presentedAt := some now, decisionDeadlineAt := some (decisionDeadlineAt now) } :=
    fun r => ⟨rfl, rfl⟩
  obtain ⟨hs1, hkeep⟩ := updateRow_inStep hharmless hclock hs
  obtain ⟨r, hr, hident, _⟩ := hkeep candidate hmem
  have hid : r.id = candidate.id := field_eq_of_identity hident OfferRequest.id fun _ => rfl
  rw [← hid] at happly
  obtain ⟨r', hr', hstatus, hident'⟩ := exists_transitioned happly hs1.ids hr
  have hids2 : (s2.live.map OfferRequest.id).Nodup := by
    rcases applyOvertimeTransition_cases ambient r.id { resultStatus := .overtimePresented }
      hs1.ids with ⟨e, hrefused⟩ | ⟨ledger, row, s2', hdone, hledger, hkey, hok, hlive⟩
    · rw [hrefused] at happly
      cases happly
    · rw [hdone] at happly
      cases happly
      have hrow := (transitionRow_ok hok).2.1
      rw [hlive, List.map_map]
      have hsame : s1.live.map (OfferRequest.id ∘ fun x => if x.id = r.id then row else x) =
          s1.live.map OfferRequest.id := by
        apply List.map_congr_left
        intro x hx
        simp only [Function.comp_apply]
        split
        · rename_i hxid
          rw [field_eq_of_identity hrow OfferRequest.id fun _ => rfl, hkey, hxid]
        · rfl
      rw [hsame]
      exact hs1.ids
  obtain ⟨hs3, hlive3⟩ := inStep_of_flush hflush hids2
  obtain ⟨hs4, hlive4⟩ := inStep_of_flushIf hedit hs3
  refine ⟨hs4, ?_⟩
  rw [hlive4, hlive3]
  apply filled_of_mem hr' (hident'.trans hident) hscope
  rw [hstatus]
  decide

theorem promoteLoop_filled (lifetime now : Int) : ∀ (fuel : Nat) (s s' : Session)
    (a : Option Nat), InStep s →
    promoteLoop ambient home owner lifetime now true fuel s = (.ok a, s') →
    InStep s' ∧ Filled home owner s'.live := by
  intro fuel
  induction fuel with
  | zero =>
    intro s s' a _ h
    cases h
  | succ fuel ih =>
    intro s s' a hs h
    simp only [promoteLoop, Txn.bind_read] at h
    cases hseat : ownerHasOccupyingRequest s home owner with
    | true =>
      rw [hseat] at h
      cases h
      exact ⟨hs, filled_of_occupied hs hseat⟩
    | false =>
      rw [hseat] at h
      cases hnext : nextQueuedForOwner s home owner with
      | none =>
        rw [hnext] at h
        cases h
        exact ⟨hs, filled_of_no_candidate hs hnext⟩
      | some candidate =>
        rw [hnext] at h
        obtain ⟨hmem, hscope⟩ := candidate_inScope hs hnext
        simp only [promoteCandidate, Txn.bind_read] at h
        cases hvalid : revalidateOfferForPromotion (candidate.localOfferId.bind s.offer?) home
            lifetime now with
        | some reason =>
          rw [hvalid] at h
          obtain ⟨_, s1, happly, h⟩ := Txn.bind_ok.mp h
          obtain ⟨_, s2, hflush, h⟩ := Txn.bind_ok.mp h
          have hids1 := ids_of_transition (by simp [promotionInvalidation]) happly hs.ids
          exact ih s2 s' a (inStep_of_flush hflush hids1).1 h
        | none =>
          rw [hvalid] at h
          cases home with
          | foreign => exact deliverCandidate_filled ih hs hmem hscope h
          | iran => exact presentCandidate_filled hs hmem hscope h

theorem promoteNextForOwner_filled {lifetime : Int} (hs : InStep s)
    (h : promoteNextForOwner ambient home owner lifetime now true s = (.ok a, s')) :
    InStep s' ∧ Filled home owner s'.live := by
  simp only [promoteNextForOwner, Txn.bind_read] at h
  exact promoteLoop_filled lifetime now _ s s' a hs h

end Loop

end TradingBot.Overtime
