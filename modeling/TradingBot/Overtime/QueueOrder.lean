import TradingBot.Overtime.Invariants
import Mathlib.Data.List.Pairwise

/-!
# The owner's queue is first in, first out

Queue numbers grow with the creation of requests, and no queued request is left behind a delivering
one of its owner: a promotion takes the smallest number queued, in memory as well as in the
database.
-/

namespace TradingBot.Overtime

open TradingBot TradingBot.Misc

/-- The two requests wait for the same owner on the same home server. -/
def SameQueue (a b : OfferRequest) : Prop :=
  a.requestHomeServer = b.requestHomeServer ∧ a.offerOwnerUserId = b.offerOwnerUserId

/-- Both requests are numbered, the first below the second. -/
def SeqLt (a b : OfferRequest) : Prop :=
  ∃ m n, a.queueSequence = some m ∧ b.queueSequence = some n ∧ m < n

/-- Created earlier: a smaller key, and in the same queue a smaller number. -/
def CreatedBefore (a b : OfferRequest) : Prop := a.id < b.id ∧ (SameQueue a b → SeqLt a b)

theorem SeqLt.asymm {a b : OfferRequest} (h : SeqLt a b) : ¬ SeqLt b a := by
  rintro ⟨m', n', hb, ha, hlt⟩
  obtain ⟨m, n, ha', hb', hlt'⟩ := h
  rw [ha] at ha'
  rw [hb] at hb'
  injection ha' with ha'
  injection hb' with hb'
  omega

section Identity

variable {a b a' b' : OfferRequest} (ha : identity a' = identity a) (hb : identity b' = identity b)

include ha hb in
theorem sameQueue_of_identity (h : SameQueue a' b') : SameQueue a b := by
  have hhome := field_eq_of_identity ha OfferRequest.requestHomeServer fun _ => rfl
  have hhome' := field_eq_of_identity hb OfferRequest.requestHomeServer fun _ => rfl
  have howner := field_eq_of_identity ha OfferRequest.offerOwnerUserId fun _ => rfl
  have howner' := field_eq_of_identity hb OfferRequest.offerOwnerUserId fun _ => rfl
  exact ⟨hhome ▸ hhome' ▸ h.1, howner ▸ howner' ▸ h.2⟩

include ha hb in
theorem seqLt_of_identity (h : SeqLt a b) : SeqLt a' b' := by
  obtain ⟨m, n, hm, hn, hlt⟩ := h
  exact ⟨m, n, (field_eq_of_identity ha OfferRequest.queueSequence fun _ => rfl).trans hm,
    (field_eq_of_identity hb OfferRequest.queueSequence fun _ => rfl).trans hn, hlt⟩

include ha hb in
theorem createdBefore_of_identity (h : CreatedBefore a b) : CreatedBefore a' b' := by
  refine ⟨?_, fun hq => seqLt_of_identity ha hb (h.2 (sameQueue_of_identity ha hb hq))⟩
  rw [field_eq_of_identity ha OfferRequest.id fun _ => rfl,
    field_eq_of_identity hb OfferRequest.id fun _ => rfl]
  exact h.1

end Identity

/-- A queued object is stored as queued, or was just added and has the largest number of its queue. -/
structure QueueInv (w : List (Tracked OfferRequest)) : Prop where
  created : (UnitOfWork.live w).Pairwise CreatedBefore
  numbered : ∀ r ∈ UnitOfWork.live w, r.workflowKind = .overtime ∧ ∃ n, r.queueSequence = some n
  fifo : ∀ r ∈ UnitOfWork.live w, r.resultStatus = .overtimeDelivering →
    ∀ q ∈ UnitOfWork.live w, q.resultStatus = .overtimeQueued → SameQueue r q → SeqLt r q
  same : ∀ t ∈ w, ∀ old, t.stored = some old → identity old = identity t.live
  link : ∀ t ∈ w, t.live.resultStatus = .overtimeQueued →
    (∃ old, t.stored = some old ∧ old.resultStatus = .overtimeQueued) ∨
      ∀ u ∈ w, u.live.id ≠ t.live.id → SameQueue u.live t.live → SeqLt u.live t.live

def Quiet (a b : OfferRequest) : Prop :=
  Evolves a b ∧ (b.resultStatus = .overtimeDelivering → a.resultStatus = .overtimeDelivering)

instance : IsPreorder OfferRequest Quiet where
  refl r := ⟨.refl r, fun h => h⟩
  trans _ _ _ h h' := ⟨h.1.trans h'.1, fun hd => h.2 (h'.2 hd)⟩

variable {w : List (Tracked OfferRequest)} {rows : List OfferRequest} {s : Session} {home : Server}
  {owner : Nat}

theorem queueInv_of_evolves {w' : List (Tracked OfferRequest)} (hinv : QueueInv w)
    (h : UnitOfWork.Moves Evolves w w')
    (hfifo : ∀ r ∈ UnitOfWork.live w', r.resultStatus = .overtimeDelivering →
      ∀ q ∈ UnitOfWork.live w', q.resultStatus = .overtimeQueued → SameQueue r q → SeqLt r q) :
    QueueInv w' := by
  have hlive := h.live_forall₂
  refine ⟨?_, ?_, hfifo, ?_, ?_⟩
  · exact UnitOfWork.pairwise_of_forall₂ hlive (fun _ _ _ _ ha hb =>
      createdBefore_of_identity ha.identity_eq hb.identity_eq) hinv.created
  · intro r' hr'
    obtain ⟨r, hr, he⟩ := UnitOfWork.forall₂_exists_before hlive r' hr'
    rw [he.workflow_eq, he.queueSequence_eq]
    exact hinv.numbered r hr
  · intro t' ht' old hold
    obtain ⟨t, ht, hmove, hstored⟩ := h.exists_before ht'
    rcases hstored with hsame | ⟨r, hr, hto, _⟩
    · rw [hmove.identity_eq]
      exact hinv.same t ht old (hsame ▸ hold)
    · rw [hold] at hr
      injection hr with hr
      rw [hr, hto.identity_eq, hmove.identity_eq]
  · intro t' ht' hqueued
    obtain ⟨t, ht, hmove, hstored⟩ := h.exists_before ht'
    rcases hstored with hsame | ⟨r, hr, _, hfrom⟩
    · rcases hinv.link t ht (hmove.queued_before hqueued) with ⟨old, hold, hq⟩ | hnewest
      · exact .inl ⟨old, hsame.trans hold, hq⟩
      · right
        intro u' hu' hne hqueue
        obtain ⟨u, hu, humove, _⟩ := h.exists_before hu'
        rw [humove.id_eq, hmove.id_eq] at hne
        exact seqLt_of_identity humove.identity_eq hmove.identity_eq (hnewest u hu hne
          (sameQueue_of_identity humove.identity_eq hmove.identity_eq hqueue))
    · exact .inl ⟨r, hr, hfrom.queued_before hqueued⟩

theorem queueInv_of_quiet {w' : List (Tracked OfferRequest)} (hinv : QueueInv w)
    (h : UnitOfWork.Moves Quiet w w') : QueueInv w' := by
  have hlive := h.live_forall₂
  refine queueInv_of_evolves hinv (h.mono fun _ _ hq => hq.1) ?_
  intro r' hr' hdelivering q' hq' hqueued hqueue
  obtain ⟨r, hr, her⟩ := UnitOfWork.forall₂_exists_before hlive r' hr'
  obtain ⟨q, hq, heq⟩ := UnitOfWork.forall₂_exists_before hlive q' hq'
  exact seqLt_of_identity her.1.identity_eq heq.1.identity_eq
    (hinv.fifo r hr (her.2 hdelivering) q hq (heq.1.queued_before hqueued)
      (sameQueue_of_identity her.1.identity_eq heq.1.identity_eq hqueue))

theorem not_queuedBefore_trans {a b c : OfferRequest} (hab : queuedBefore a b = false)
    (hbc : queuedBefore b c = false) : queuedBefore a c = false := by
  unfold queuedBefore at *
  cases ha : a.queueSequence <;> cases hb : b.queueSequence <;> cases hc : c.queueSequence <;>
    simp_all <;> omega

theorem not_queuedBefore_of_queuedBefore {a b : OfferRequest} (h : queuedBefore a b = true) :
    queuedBefore b a = false := by
  unfold queuedBefore at *
  cases ha : a.queueSequence <;> cases hb : b.queueSequence <;> simp_all <;> omega

theorem not_queuedBefore_self (a : OfferRequest) : queuedBefore a a = false := by
  unfold queuedBefore
  cases a.queueSequence <;> simp

theorem firstInQueue_min {row : OfferRequest}
    (h : firstInQueue rows = some row) : ∀ q ∈ rows, queuedBefore q row = false := by
  induction rows generalizing row with
  | nil => cases h
  | cons head tail ih =>
    intro q hq
    unfold firstInQueue at h
    cases htail : firstInQueue tail with
    | none =>
      rw [htail] at h
      injection h with h
      subst h
      cases tail with
      | nil =>
        rw [List.mem_singleton.mp hq]
        exact not_queuedBefore_self head
      | cons second rest =>
        unfold firstInQueue at htail
        split at htail
        · cases htail
        · split at htail <;> cases htail
    | some best =>
      rw [htail] at h
      dsimp only at h
      cases hbefore : queuedBefore best head with
      | true =>
        rw [hbefore] at h
        injection h with h
        subst h
        rcases List.mem_cons.mp hq with rfl | hq
        · exact not_queuedBefore_of_queuedBefore hbefore
        · exact ih htail q hq
      | false =>
        rw [hbefore] at h
        injection h with h
        subst h
        rcases List.mem_cons.mp hq with rfl | hq
        · exact not_queuedBefore_self q
        · exact not_queuedBefore_trans (ih htail q hq) hbefore

theorem queuedBefore_of_seqLt {a b : OfferRequest} (h : SeqLt a b) : queuedBefore a b = true := by
  obtain ⟨m, n, hm, hn, hlt⟩ := h
  simp [queuedBefore, hm, hn, hlt]

theorem QueueInv.createdBefore_or (hinv : QueueInv w)
    {a b : OfferRequest} (ha : a ∈ UnitOfWork.live w) (hb : b ∈ UnitOfWork.live w)
    (hne : a ≠ b) : CreatedBefore a b ∨ CreatedBefore b a := by
  have hsymm : Std.Symm fun a b => CreatedBefore a b ∨ CreatedBefore b a :=
    ⟨fun _ _ h => h.symm⟩
  have hpair : (UnitOfWork.live w).Pairwise fun a b => CreatedBefore a b ∨ CreatedBefore b a :=
    hinv.created.imp fun h => Or.inl h
  exact hpair.forall ha hb hne

theorem QueueInv.ids (hinv : QueueInv w) :
    ((UnitOfWork.live w).map OfferRequest.id).Nodup := by
  apply List.Pairwise.map OfferRequest.id _ hinv.created
  intro a b hab
  exact Nat.ne_of_lt hab.1

theorem QueueInv.candidate_first (hinv : QueueInv s.rows) {candidate q : OfferRequest}
    (hnext : nextQueuedForOwner s home owner = some candidate) (hq : q ∈ s.live)
    (hqueued : q.resultStatus = .overtimeQueued) (hne : candidate ≠ q)
    (hqueue : SameQueue candidate q) : SeqLt candidate q := by
  obtain ⟨t, ht, hlive, old, hold, hscope, _⟩ := nextQueuedForOwner_stored hnext
  have hcand : candidate ∈ UnitOfWork.live s.rows := List.mem_map.mpr ⟨t, ht, hlive⟩
  obtain ⟨u, hu, rfl⟩ := List.mem_map.mp hq
  rcases hinv.link u hu hqueued with ⟨oldq, holdq, hstoredq⟩ | hnewest
  · rcases hinv.createdBefore_or hcand hq hne with hbefore | hbefore
    · exact hbefore.2 hqueue
    · exfalso
      have hlt := hbefore.2 ⟨hqueue.1.symm, hqueue.2.symm⟩
      -- the stored row of `q` is in the list that the candidate was chosen from
      have hidc := hlive ▸ hinv.same t ht old hold
      have hidq := hinv.same u hu oldq holdq
      have hscopeq : oldq.inScope home owner = true := by
        have hsame := sameQueue_of_identity hidc.symm hidq.symm hqueue
        simp only [OfferRequest.inScope, decide_eq_true_eq] at hscope ⊢
        exact ⟨hsame.1 ▸ hscope.1, hsame.2 ▸ hscope.2⟩
      have hmem : u.live ∈ s.select (fun r => r.inScope home owner && r.isQueued) := by
        refine UnitOfWork.mem_select.mpr ⟨u, hu, rfl, oldq, holdq, ?_⟩
        simp [hscopeq, OfferRequest.isQueued, hstoredq]
      have hfirst := firstInQueue_min hnext u.live hmem
      rw [queuedBefore_of_seqLt hlt] at hfirst
      cases hfirst
  · refine hlive ▸ hnewest t ht (fun hid => hne ?_) (hlive ▸ hqueue)
    exact eq_of_id_eq hinv.ids hcand hq (hlive ▸ hid)

def KeepsQueue (s s' : Session) : Prop := QueueInv s.rows → QueueInv s'.rows

instance : IsPreorder Session KeepsQueue where
  refl _ := fun h => h
  trans _ _ _ h h' := fun hinv => h' (h hinv)

theorem keepsQueue_of_quiet {s' : Session} (h : RowsMove Quiet s s') : KeepsQueue s s' :=
  fun hinv => queueInv_of_quiet hinv h

theorem deliver_keepsQueue {ambient : Ambient}
    {candidate : OfferRequest} (hnext : nextQueuedForOwner s home owner = some candidate) :
    KeepsQueue s (applyOvertimeTransition ambient candidate.id
      { resultStatus := .overtimeDelivering } s).2 := by
  intro hinv
  have hmoves : RowsMove Evolves s (applyOvertimeTransition ambient candidate.id
      { resultStatus := .overtimeDelivering } s).2 :=
    applyOvertimeTransition_moves fun r _ _ r' hr' => evolves_transition hr' (by simp)
  obtain ⟨t, ht, hlive, _⟩ := nextQueuedForOwner_stored hnext
  have hcand : candidate ∈ s.live := List.mem_map.mpr ⟨t, ht, hlive⟩
  rcases applyOvertimeTransition_cases ambient candidate.id
      { resultStatus := .overtimeDelivering } hinv.ids with
    ⟨e, hrefused⟩ | ⟨ledger, row, s', hdone, hmem, hid, hok, hmap⟩
  · rw [hrefused]
    exact hinv
  · rw [hdone] at hmoves ⊢
    have hledger : ledger = candidate := eq_of_id_eq hinv.ids hmem hcand hid
    subst hledger
    obtain ⟨hchange, hident, hstatus, _⟩ := transitionRow_ok hok
    refine queueInv_of_evolves hinv hmoves ?_
    intro r' hr' hdelivering q' hq' hqueued hqueue
    change r' ∈ s'.live at hr'
    change q' ∈ s'.live at hq'
    rw [hmap] at hr' hq'
    obtain ⟨r, hr, rfl⟩ := List.mem_map.mp hr'
    obtain ⟨q, hq, rfl⟩ := List.mem_map.mp hq'
    by_cases hqid : q.id = ledger.id
    · rw [if_pos hqid, hstatus] at hqueued
      cases hqueued
    · rw [if_neg hqid] at hqueued hqueue ⊢
      by_cases hrid : r.id = ledger.id
      · rw [if_pos hrid] at hqueue ⊢
        have hqueue' := sameQueue_of_identity hident rfl hqueue
        refine seqLt_of_identity hident rfl ?_
        rcases hchange with hsame | hlegal
        · exact hinv.fifo ledger hmem hsame.symm q hq hqueued hqueue'
        · exact hinv.candidate_first hnext hq hqueued (fun h => hqid (h ▸ rfl)) hqueue'
      · rw [if_neg hrid] at hdelivering hqueue ⊢
        exact hinv.fifo r hr hdelivering q hq hqueued hqueue

theorem quiet_of_shows {r r' : OfferRequest} (h : Shows r r') : Quiet r r' := by
  refine ⟨h.1, fun hd => ?_⟩
  rcases h.2 with hsame | hpresented
  · exact hsame ▸ hd
  · rw [hpresented] at hd
    cases hd

theorem queue_writeRule (ambient : Ambient) :
    WriteRule ambient (fun _ d => Ends d) KeepsQueue where
  flush s := keepsQueue_of_quiet (flushSession_moves s)
  decides {id d} h s := keepsQueue_of_quiet (applyOvertimeTransition_moves fun r _ _ r' hr' => by
    refine ⟨evolves_transition hr' fun hp => absurd hp h.ne_presented, fun hd => ?_⟩
    rw [(transitionRow_ok hr').2.2.1] at hd
    exact absurd (by rw [hd]; decide) h)

theorem queue_promoteRule (ambient : Ambient) :
    PromoteRule ambient (fun _ => True) KeepsQueue where
  writes :=
    { flush := (queue_writeRule ambient).flush
      decides := fun h => (queue_writeRule ambient).decides h.2.ends }
  select _ := .inl trivial
  deliver hnext := deliver_keepsQueue hnext
  present now _ s := keepsQueue_of_quiet (present_moves now (fun _ _ _ => quiet_of_shows) s)
  job _ _ _ := keepsQueue_of_quiet (updateRow_moves fun _ _ _ =>
    ⟨⟨rfl, .refl, fun h => h⟩, fun h => h⟩)

theorem queue_rule (ambient : Ambient) :
    Rule ambient (fun _ => True) (fun _ d => Ends d) KeepsQueue where
  toWriteRule := queue_writeRule ambient
  outside h := absurd trivial h
  promote := (queue_promoteRule ambient).promoteNextForOwner
  offers _ _ := fun _ h => h

theorem lt_nextQueueSequence {n : Nat}
    {r : OfferRequest} (hr : r ∈ rows) (hscope : r.inScope home owner = true)
    (hkind : r.workflowKind = .overtime) (hn : r.queueSequence = some n) :
    n < nextQueueSequence rows home owner := by
  have hmem : n ∈ (rows.filter (fun r => r.inScope home owner ∧
      r.workflowKind = .overtime)).filterMap OfferRequest.queueSequence :=
    List.mem_filterMap.mpr ⟨r, List.mem_filter.mpr ⟨hr, by simp [hscope, hkind]⟩, hn⟩
  unfold nextQueueSequence
  generalize (rows.filter _).filterMap OfferRequest.queueSequence = numbers at hmem
  induction numbers with
  | nil => cases hmem
  | cons head tail ih =>
    simp only [List.foldr_cons]
    rcases List.mem_cons.mp hmem with rfl | hmem
    · omega
    · have := ih hmem
      omega

theorem queueInv_insert {row : OfferRequest}
    (hinv : QueueInv (UnitOfWork.load rows)) (h : Admitted rows row) :
    QueueInv (UnitOfWork.insert row (UnitOfWork.load rows)) := by
  have hlast : ∀ r ∈ rows, CreatedBefore r row := by
    intro r hr
    refine ⟨h.id_eq ▸ id_lt_nextId hr, fun hqueue => ?_⟩
    obtain ⟨hkind, n, hn⟩ := hinv.numbered r (by simpa using hr)
    obtain ⟨owner, howner, hseq⟩ := h.owned
    refine ⟨n, _, hn, hseq, lt_nextQueueSequence hr ?_ hkind hn⟩
    simp [OfferRequest.inScope, hqueue.1, hqueue.2, howner]
  have hlive : UnitOfWork.live (UnitOfWork.insert row (UnitOfWork.load rows)) = rows ++ [row] := by
    rw [UnitOfWork.live_insert, UnitOfWork.live_load]
  have hsplit : ∀ r ∈ UnitOfWork.live (UnitOfWork.insert row (UnitOfWork.load rows)),
      r ∈ rows ∨ r = row := by
    intro r hr
    rw [hlive] at hr
    simpa using hr
  have hfresh : ∀ t ∈ UnitOfWork.insert row (UnitOfWork.load rows),
      (∃ r ∈ rows, t = ⟨some r, r⟩) ∨ t = ⟨none, row⟩ := by
    intro t ht
    simp only [UnitOfWork.insert, UnitOfWork.load, List.mem_append, List.mem_map,
      List.mem_singleton] at ht
    rcases ht with ⟨r, hr, rfl⟩ | rfl
    · exact .inl ⟨r, hr, rfl⟩
    · exact .inr rfl
  refine ⟨?_, ?_, ?_, ?_, ?_⟩
  · rw [hlive, List.pairwise_append]
    refine ⟨by simpa using hinv.created, List.pairwise_singleton _ _, fun r hr b hb => ?_⟩
    exact List.mem_singleton.mp hb ▸ hlast r hr
  · intro r hr
    rcases hsplit r hr with hr | rfl
    · exact hinv.numbered r (by simpa using hr)
    · obtain ⟨owner, _, hseq⟩ := h.owned
      exact ⟨h.overtime, _, hseq⟩
  · intro r hr hdelivering q hq hqueued hqueue
    rcases hsplit r hr with hold | rfl
    · rcases hsplit q hq with hold' | rfl
      · exact hinv.fifo r (by simpa using hold) hdelivering q (by simpa using hold') hqueued hqueue
      · exact (hlast r hold).2 hqueue
    · rw [h.queued] at hdelivering
      cases hdelivering
  · intro t ht old hold
    rcases hfresh t ht with ⟨r, _, rfl⟩ | rfl
    · injection hold with hold
      rw [hold]
    · cases hold
  · intro t ht hqueued
    rcases hfresh t ht with ⟨r, _, rfl⟩ | rfl
    · exact .inl ⟨r, rfl, hqueued⟩
    · right
      intro u hu hne hqueue
      rcases hfresh u hu with ⟨r, hr, rfl⟩ | rfl
      · exact (hlast r hr).2 hqueue
      · exact absurd rfl hne

theorem step_queueInv (rows : List OfferRequest) (c : Call)
    (hinv : QueueInv (UnitOfWork.load rows)) : QueueInv (UnitOfWork.load (step rows c)) := by
  have hrule := queue_rule c.ambient
  unfold step
  rcases outcome_cases c rows with hback | ⟨s', hrun, _, hout⟩
  · rw [hback, session_live]
    exact hinv
  · have hs' : (perform c (c.session rows)).2 = s' := by rw [hrun]
    have hperformed : QueueInv s'.rows := by
      by_cases hcreate : ∃ command flush, c.op = .create command flush
      · obtain ⟨command, flush, hop⟩ := hcreate
        simp only [perform, hop, Txn.snd_bind_pure] at hs'
        rw [← hs']
        rcases createOvertimeRequest_cases hrule.flush hrule.promote command flush c.now rows
          c.offers with hsame | ⟨row, hadmitted, hkept⟩
        · rw [Call.session, hsame]
          exact hinv
        · exact hkept (queueInv_insert hinv hadmitted)
      · have h := perform_keeps hrule (admits_of_ends (fun _ _ h => h) c (c.session rows))
          (fun _ _ _ _ => hrule.markPresented _ fun s => keepsQueue_of_quiet
            (presentMessage_moves _ _ (fun _ _ _ => quiet_of_shows) s))
          (fun command flush hop => hcreate ⟨command, flush, hop⟩)
        rw [hs'] at h
        exact h hinv
    have hflushed := queueInv_of_quiet hperformed (UnitOfWork.moves_flush s'.rows)
    rw [hout]
    change QueueInv (UnitOfWork.load (UnitOfWork.live (UnitOfWork.flush s'.rows)))
    rw [UnitOfWork.live_flush, UnitOfWork.load_live_flush]
    exact hflushed

/-- In every run from an empty ledger the rows stand in the order of their creation, queue numbers
grow with it, and when a step makes a request delivering, no request of its queue with a smaller
number is queued after it. -/
theorem overtime_queue_fifo (calls : List Call) :
    (run step [] calls).Pairwise CreatedBefore ∧
      EachStep step (fun rows _ rows' => ∀ r' ∈ rows', r'.resultStatus = .overtimeDelivering →
        (∀ r ∈ rows, r.id = r'.id → r.resultStatus ≠ .overtimeDelivering) →
        ∀ q ∈ rows', SameQueue q r' → SeqLt q r' → q.resultStatus ≠ .overtimeQueued) [] calls := by
  have hempty : QueueInv (UnitOfWork.load []) := by
    constructor <;> simp [UnitOfWork.live, UnitOfWork.load]
  constructor
  · have h := run_invariant (C := fun _ _ _ => True)
      (fun rows c hinv _ => step_queueInv rows c hinv) calls [] hempty (eachStep_true step calls [])
    simpa using h.created
  · refine eachStep_of_invariant (C := fun _ _ _ => True)
      (fun rows c hinv _ => step_queueInv rows c hinv) (fun rows c hinv _ => ?_) calls [] hempty
      (eachStep_true step calls [])
    intro r' hr' hdelivering _ q hq hqueue hlt hqueued
    have hafter := step_queueInv rows c hinv
    have hbehind := hafter.fifo r' (by simpa using hr') hdelivering q (by simpa using hq) hqueued
      ⟨hqueue.1.symm, hqueue.2.symm⟩
    exact hbehind.asymm hlt

end TradingBot.Overtime
