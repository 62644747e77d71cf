import TradingBot.Overtime.SeatFreed

/-!
# Is the seat ever left empty?

In every run in which nobody waits behind a request that a call ends without a promotion that sees
it, `endsWithoutPromotion`, a freed seat is taken at once.
-/

namespace TradingBot.Overtime

open TradingBot TradingBot.Misc

def promotes (flush promoteNext : Bool) (normalLifetimeMinutes : Option Int) : Bool :=
  flush && promoteNext && normalLifetimeMinutes.isSome

def decisionDue (now : Int) (r : OfferRequest) : Bool :=
  r.decisionDeadlineAt = none ∨ remainingSecondsUntil r.decisionDeadlineAt now ≤ 0

/-- A repair of the offer of `row` can reach `r`: they name the same offer. -/
def sameOffer (row r : OfferRequest) : Bool :=
  (nonemptyText (some row.offerPublicId)).all (fun publicId => r.offerPublicId = publicId)

def offerIssues : List Issue := [.nonterminalOnInactiveOffer, .nonterminalPastFinalDeadline]

/-- The approval reaches `r` but not its queue: its offer is gone, so nothing follows the trade, or
`r` is on the same offer in another queue. -/
def approvalEnds (c : Call) (ledger r : OfferRequest) : Bool :=
  match ledger.localOfferId.bind (fun id => c.offers.find? (·.id = id)) with
  | none => r.id = ledger.id
  | some offer => (offerFilter c.ambient offer).admits r ∧
      ¬ (r.requestHomeServer = ledger.requestHomeServer ∧
        r.offerOwnerUserId = ledger.offerOwnerUserId)

/-- The call ends `r`, and no promotion of its queue follows in a session that has flushed the end. -/
def endsWithoutPromotion (c : Call) (rows : List OfferRequest) (r : OfferRequest) : Bool :=
  match c.op with
  | .cancel id requester flush promoteNext lifetime =>
    r.id = id ∧ r.requesterUserId.getD 0 = requester ∧ ¬ promotes flush promoteNext lifetime
  | .reject id decidedBy flush promoteNext lifetime =>
    r.id = id ∧ ensureOwnerMayDecide r decidedBy c.now = .ok () ∧
      ¬ promotes flush promoteNext lifetime
  | .expireDecision id flush promoteNext lifetime =>
    r.id = id ∧ r.resultStatus = .overtimePresented ∧ decisionDue c.now r ∧
      ¬ promotes flush promoteNext lifetime
  | .recordCompletedTrade id _ _ => r.id = id ∧ r.resultStatus = .overtimePresented
  | .approve id _ _ _ => rows.any (fun ledger => ledger.id = id ∧ approvalEnds c ledger r)
  | .invalidate id _ _ => r.id = id
  | .invalidateForOffer offer _ promoteNext lifetime flush =>
    (offerFilter c.ambient offer).admits r ∧ ¬ promotes flush promoteNext lifetime
  | .invalidateForUser userId _ home promoteNext lifetime flush =>
    (r.offerOwnerUserId = some userId ∨ r.requesterUserId = some userId) ∧
      r.requestHomeServer = normalizeServer home c.ambient.currentServer ∧
      ¬ promotes flush promoteNext lifetime
  | .sweepPresented _ limit _ =>
    r ∈ overduePresentedRows c.ambient c.now limit (c.session rows)
  | .sweepDelivering limit _ => r ∈ overdueDeliveringRows c.ambient c.now limit (c.session rows)
  | .reconcile jobs dryRun lifetime limit _ =>
    dryRun = false ∧
      (Rule.repairTargets c.ambient jobs c.now lifetime limit (c.session rows)).any fun target =>
        rows.any fun row => row.requestPublicId = some target.1 ∧
          (row.id = r.id ∨ (target.2.issue ∈ offerIssues ∧ sameOffer row r))
  | _ => false

/-- A queued request's offer is active and in its approval window. Offers only end inside a
transaction: read as at its start they leave out no request. -/
def promotable (c : Call) (normalLifetimeMinutes : Int) (q : OfferRequest) : Bool :=
  (q.localOfferId.bind (fun id => c.offers.find? (·.id = id))).any fun offer =>
    offer.status = .active ∧
      classifyIntakeForOffer offer c.now normalLifetimeMinutes = .approval

/-- When a call ends an owner's delivering or presented request while promotable work waits, the
seat is taken. -/
def SeatTaken (normalLifetimeMinutes : Int) (rows : List OfferRequest) (c : Call)
    (rows' : List OfferRequest) : Prop :=
  ∀ home owner, ∀ r ∈ rows, occupyingOwner home owner r = true →
    ∀ r' ∈ rows', r'.id = r.id → r'.isOpen = false →
      (∃ q ∈ rows', q.inScope home owner = true ∧ q.resultStatus = .overtimeQueued ∧
        promotable c normalLifetimeMinutes q = true) →
      ∃ x ∈ rows', occupyingOwner home owner x = true

/-- Nobody waits behind a request that the call ends without promoting. -/
def NobodyWaits (normalLifetimeMinutes : Int) (rows : List OfferRequest) (c : Call)
    (_ : List OfferRequest) : Prop :=
  ∀ home owner, ∀ r ∈ rows, occupyingOwner home owner r = true →
    endsWithoutPromotion c rows r = true →
      ∀ q ∈ rows, q.inScope home owner = true → q.resultStatus = .overtimeQueued →
        promotable c normalLifetimeMinutes q = false

/-! ## Which requests a call can end -/

section Targets

variable {T : OfferRequest → Prop} {K : OfferRequest → Prop} {rows : List OfferRequest} {c : Call}
  {A : OfferRequest → OfferRequest → Prop} {ambient : Ambient}

def Spared (T : OfferRequest → Prop) (rows : List OfferRequest) (id : Nat) : Prop :=
  ∃ r ∈ rows, r.id = id ∧ r.isOccupying = true ∧ ¬ T r

theorem guard_spared (hids : (rows.map OfferRequest.id).Nodup)
    (hK : ∀ r ∈ rows, r.isOccupying = true → ¬ T r → K (identity r)) :
    Guard (Spared T rows) K (c.session rows) := by
  intro t ht hp
  obtain ⟨r, hr, rfl⟩ := List.mem_map.mp ht
  obtain ⟨other, hother, hid, hocc, hnot⟩ := hp
  have hsame : other = r := eq_of_id_eq hids hother hr hid
  subst hsame
  have hqueued := not_queued_of_isOccupying hocc
  exact ⟨hqueued, hK other hr hocc hnot, other, rfl, hqueued, rfl⟩

theorem permits_target {id : Nat}
    {d : Decision} (hends : Ends d) (h : ∀ r ∈ rows, r.id = id → T r) :
    Permits (Spared T rows) A ambient id d := by
  refine ⟨hends, fun hp => ?_⟩
  obtain ⟨r, hr, hid, _, hnot⟩ := hp
  exact absurd (h r hr hid) hnot

theorem target_of_closed (hids : (rows.map OfferRequest.id).Nodup)
    (hK : ∀ r ∈ rows, r.isOccupying = true → ¬ T r → K (identity r))
    (hperform : Spares (Spared T rows) K StaysOccupying (c.session rows)
      (perform c (c.session rows)).2)
    {r r' : OfferRequest} (hr : r ∈ rows) (hocc : r.isOccupying = true) (hr' : r' ∈ step rows c)
    (hid : r'.id = r.id) (hclosed : r'.isOpen = false) : T r := by
  by_contra hnot
  have hkept := (step_spares hids (guard_spared hids hK) hperform hr hr' hid
    ⟨r, hr, rfl, hocc, hnot⟩).2
  rw [isOpen_of_isOccupying (hkept hocc)] at hclosed
  cases hclosed

theorem mayInvalidate_target {f : RequestFilter} {reason : String} {now : Int}
    (h : ∀ r, f.admits r = true → ¬ K (identity r)) :
    LedgerRule.MayInvalidate (Guard (Spared T rows) K) (Permits (Spared T rows) A ambient) f reason
      now := by
  intro s hg row hrow
  refine ⟨ends_invalidation reason now, fun hp => ?_⟩
  obtain ⟨t, ht, hlive, old, hold, hadmits⟩ := UnitOfWork.mem_select.mp hrow
  rw [← hlive] at hp
  obtain ⟨_, hk, old', hold', _, hident⟩ := hg t ht hp
  rw [hold] at hold'
  injection hold' with hold'
  subst hold'
  rw [← hident] at hk
  exact absurd hk (h old hadmits)

end Targets

/-- The call ends the occupying request `r` of an owner. -/
structure Closes (c : Call) (rows : List OfferRequest) (home : Server) (owner : Nat)
    (r r' : OfferRequest) : Prop where
  ids : (rows.map OfferRequest.id).Nodup
  mem : r ∈ rows
  occupies : occupyingOwner home owner r = true
  mem_step : r' ∈ step rows c
  id_eq : r'.id = r.id
  closed : r'.isOpen = false

namespace Closes

variable {c : Call} {rows : List OfferRequest} {home : Server} {owner offerId : Nat}
  {r r' a : OfferRequest} {id decidedBy tradeId limit : Nat}
  {flush promoting requireAuthority : Bool} {lifetime : Option Int} {normalMinutes : Int}
  {reason : String} {f : RequestFilter} {offer : Offer} {ledger : OfferRequest} {s s' : Session}
  {filters : List RequestFilter} {command : OfferExpiryCommand}

theorem occupying (h : Closes c rows home owner r r') : r.isOccupying = true := by
  have hocc := h.occupies
  simp only [occupyingOwner, decide_eq_true_eq] at hocc
  exact hocc.2

theorem home_eq (h : Closes c rows home owner r r') : r.requestHomeServer = home := by
  have hocc := h.occupies
  simp only [occupyingOwner, OfferRequest.inScope, decide_eq_true_eq] at hocc
  exact hocc.1.1

theorem owner_eq (h : Closes c rows home owner r r') : r.offerOwnerUserId = some owner := by
  have hocc := h.occupies
  simp only [occupyingOwner, OfferRequest.inScope, decide_eq_true_eq] at hocc
  exact hocc.1.2

theorem target (h : Closes c rows home owner r r') {T K : OfferRequest → Prop}
    (hK : ∀ r ∈ rows, r.isOccupying = true → ¬ T r → K (identity r))
    (hperform : Spares (Spared T rows) K StaysOccupying (c.session rows)
      (perform c (c.session rows)).2) : T r :=
  target_of_closed h.ids hK hperform h.mem h.occupying h.mem_step h.id_eq h.closed

theorem step_ne (h : Closes c rows home owner r r') : step rows c ≠ rows := by
  intro hsame
  have hmem := h.mem_step
  rw [hsame] at hmem
  have hopen := isOpen_of_isOccupying h.occupying
  rw [← eq_of_id_eq h.ids hmem h.mem h.id_eq, h.closed] at hopen
  cases hopen

theorem committed (h : Closes c rows home owner r r') :
    ∃ s', perform c (c.session rows) = (.ok (), s') ∧ step rows c = s'.live := by
  rcases outcome_cases c rows with hback | ⟨s', hrun, _, hout⟩
  · refine absurd ?_ h.step_ne
    rw [step, hback, session_live]
  · refine ⟨s', hrun, ?_⟩
    rw [step, hout]
    exact UnitOfWork.live_flush s'.rows

theorem inStep (h : Closes c rows home owner r r') : InStep (c.session rows) := inStep_load h.ids

theorem row? (h : Closes c rows home owner r r') : (c.session rows).row? r.id = some r := by
  apply row?_of_mem
  · rw [session_live]
    exact h.ids
  · rw [session_live]
    exact h.mem

theorem rule (T K : OfferRequest → Prop) (c : Call) (rows : List OfferRequest) :
    Rule c.ambient (Guard (Spared T rows) K) (Permits (Spared T rows) StaysOccupying c.ambient)
      (Spares (Spared T rows) K StaysOccupying) :=
  spares_rule (Spared T rows) K StaysOccupying c.ambient

theorem only (h : Closes c rows home owner r r')
    (hperform : Spares (Spared (fun r => r.id = id) rows) (fun _ => True) StaysOccupying
      (c.session rows) (perform c (c.session rows)).2) : r.id = id :=
  h.target (fun _ _ _ _ => trivial) hperform

theorem promotes_cases (flush promoteNext : Bool) (lifetime : Option Int) :
    promotes flush promoteNext lifetime = false ∨
      ∃ minutes, flush = true ∧ promoteNext = true ∧ lifetime = some minutes := by
  cases flush <;> cases promoteNext <;> cases lifetime <;> simp [promotes]

theorem of_decision (h : Closes c rows home owner r r') {d : Decision} (hends : Ends d)
    (hstep : step rows c = s'.live)
    (hrun : (applyOvertimeTransition c.ambient r.id d >>= fun _ => flushIf flush >>= fun _ =>
      promoteAfter c.ambient r promoting lifetime c.now flush) (c.session rows) =
        (.ok (), s')) :
    Filled home owner (step rows c) ∨ promotes flush promoting lifetime = false := by
  rcases promotes_cases flush promoting lifetime with hnot | ⟨minutes, rfl, rfl, rfl⟩
  · exact .inr hnot
  · left
    rw [hstep, ← h.home_eq]
    exact filled_of_decision h.inStep hends h.owner_eq hrun

theorem cancel (h : Closes c rows home owner r r') {requester : Nat}
    (hop : c.op = .cancel id requester flush promoting lifetime) :
    Filled home owner (step rows c) ∨ endsWithoutPromotion c rows r = true := by
  have hid : r.id = id := by
    apply h.only
    simp only [perform, hop]
    exact (rule _ _ c rows).cancelByRequester _ _ _
      (permits_target (ends_requesterCancellation _) fun _ _ hid => hid) _
  obtain ⟨s', hrun, hstep⟩ := h.committed
  simp only [perform, hop, cancelByRequester, Txn.bind_read, ← hid, h.row?] at hrun
  split_ifs at hrun with hrequester
  · cases hrun
  · cases hrun
  · rcases h.of_decision (ends_requesterCancellation _) hstep hrun with hfilled | hnot
    · exact .inl hfilled
    · right
      simp only [ne_eq, Decidable.not_not] at hrequester
      simp [endsWithoutPromotion, hop, hid, hrequester, hnot]

theorem reject (h : Closes c rows home owner r r')
    (hop : c.op = .reject id decidedBy flush promoting lifetime) :
    Filled home owner (step rows c) ∨ endsWithoutPromotion c rows r = true := by
  have hid : r.id = id := by
    apply h.only
    simp only [perform, hop]
    exact (rule _ _ c rows).rejectByOwner _ _ _ fun _ _ _ =>
      permits_target (ends_ownerRejection _ _) fun _ _ hid => hid
  obtain ⟨s', hrun, hstep⟩ := h.committed
  simp only [perform, hop, rejectByOwner, Txn.bind_read, ← hid, h.row?] at hrun
  cases hmay : ensureOwnerMayDecide r decidedBy c.now with
  | error e =>
    rw [hmay] at hrun
    cases hrun
  | ok _ =>
    rw [hmay] at hrun
    rcases h.of_decision (ends_ownerRejection _ _) hstep hrun with hfilled | hnot
    · exact .inl hfilled
    · right
      simp [endsWithoutPromotion, hop, hid, hmay, hnot]

theorem expireDecision (h : Closes c rows home owner r r')
    (hop : c.op = .expireDecision id flush promoting lifetime) :
    Filled home owner (step rows c) ∨ endsWithoutPromotion c rows r = true := by
  have hid : r.id = id := by
    apply h.only
    simp only [perform, hop]
    exact (rule _ _ c rows).expireDecision _ _ _ fun _ _ _ =>
      permits_target (ends_decisionTimeout _) fun _ _ hid => hid
  obtain ⟨s', hrun, hstep⟩ := h.committed
  simp only [perform, hop, Overtime.expireDecision, Txn.bind_read, ← hid, h.row?] at hrun
  split_ifs at hrun with hterminal hpresented hdue
  · cases hrun
  · cases hrun
  · cases hrun
  · rcases h.of_decision (ends_decisionTimeout _) hstep hrun with hfilled | hnot
    · exact .inl hfilled
    · right
      have hdue' : decisionDue c.now r = true := by
        simp only [decisionDue, decide_eq_true_eq]
        by_cases hnone : r.decisionDeadlineAt = none
        · exact .inl hnone
        · exact .inr (Int.not_lt.mp fun hlt => hdue ⟨hnone, hlt⟩)
      simp only [ne_eq, Decidable.not_not] at hpresented
      simp [endsWithoutPromotion, hop, hid, hpresented, hdue', hnot]

theorem recordCompletedTrade (h : Closes c rows home owner r r')
    (hop : c.op = .recordCompletedTrade id tradeId decidedBy) :
    endsWithoutPromotion c rows r = true := by
  have hid : r.id = id := by
    apply h.only
    simp only [perform, hop]
    exact (rule _ _ c rows).decides
      (permits_target (ends_tradeCompletion _ _ _) fun _ _ hid => hid) _
  obtain ⟨s', hrun, hstep⟩ := h.committed
  simp only [perform, hop, Overtime.recordCompletedTrade, applyOvertimeTransition,
    Txn.bind_read, ← hid, h.row?] at hrun
  cases hrow : transitionRow c.ambient.utcNow r (tradeCompletion tradeId decidedBy c.now) with
  | error e =>
    rw [hrow] at hrun
    cases hrun
  | ok row =>
    -- of the occupying statuses, only presented can become completed
    have hpresented : r.resultStatus = .overtimePresented := by
      have hocc := h.occupying
      rcases (transitionRow_ok hrow).1 with hsame | hlegal
      · rw [OfferRequest.isOccupying, ← hsame] at hocc
        simp [tradeCompletion, overtimeOwnerOccupyingStatuses] at hocc
      · revert hocc hlegal
        simp only [OfferRequest.isOccupying, LegalChange, tradeCompletion]
        cases r.resultStatus <;> decide
    simp [endsWithoutPromotion, hop, hid, hpresented]

theorem invalidate (h : Closes c rows home owner r r') (hop : c.op = .invalidate id reason flush) :
    endsWithoutPromotion c rows r = true := by
  have hid : r.id = id := by
    apply h.only
    simp only [perform, hop]
    exact (rule _ _ c rows).invalidateRequest _
      (permits_target (ends_invalidation _ _) fun _ _ hid => hid) _
  simp [endsWithoutPromotion, hop, hid]

theorem invalidateAndPromote (h : Closes c rows home owner r r')
    {onlyDelivering : Bool} {lifetime : Int}
    (hop : c.op = .invalidateAndPromote id reason onlyDelivering lifetime) :
    Filled home owner (step rows c) := by
  have hid : r.id = id := by
    apply h.only
    simp only [perform, hop]
    exact (rule _ _ c rows).invalidateAndPromote
      (permits_target (ends_invalidation _ _) fun _ _ hid => hid) _
  obtain ⟨s', hrun, hstep⟩ := h.committed
  simp only [perform, hop, Overtime.invalidateAndPromote, Txn.bind_read, ← hid, h.row?] at hrun
  split_ifs at hrun
  · -- nothing was written
    cases hrun
    exact absurd (hstep.trans (session_live c rows)) h.step_ne
  · rw [Txn.bind_apply, invalidateRequest_open h.row? (isOpen_of_isOccupying h.occupying),
      ← Txn.bind_apply, Txn.bind_assoc] at hrun
    rcases h.of_decision (ends_invalidation _ _) hstep hrun with hfilled | hnot
    · exact hfilled
    · cases hnot

theorem admits_of_identity {b : OfferRequest}
    (hident : identity a = identity b) (hb : b.isOpen = true) (h : f.admits a = true) :
    f.admits b = true := by
  have hkind := field_eq_of_identity hident OfferRequest.workflowKind fun _ => rfl
  have hoffer := field_eq_of_identity hident OfferRequest.localOfferId fun _ => rfl
  have hpublic := field_eq_of_identity hident OfferRequest.offerPublicId fun _ => rfl
  have howner := field_eq_of_identity hident OfferRequest.offerOwnerUserId fun _ => rfl
  have hrequester := field_eq_of_identity hident OfferRequest.requesterUserId fun _ => rfl
  have hhome := field_eq_of_identity hident OfferRequest.requestHomeServer fun _ => rfl
  simp only [RequestFilter.admits, decide_eq_true_eq] at h ⊢
  rw [hkind, hoffer, hpublic, howner, hrequester, hhome] at h
  exact ⟨h.1, hb, h.2.2⟩

theorem isOpen_of_admits (h : f.admits a = true) :
    a.isOpen = true := by
  simp only [RequestFilter.admits, decide_eq_true_eq] at h
  exact h.2.1

def Unmatched (filters : List RequestFilter) (x : OfferRequest) : Prop :=
  ∀ y, identity y = x → y.isOpen = true → ∀ f ∈ filters, f.admits y = false

theorem unmatched_of_not_admitted {r : OfferRequest}
    (hocc : r.isOccupying = true) (hnot : ¬ ∃ f ∈ filters, f.admits r = true) :
    Unmatched filters (identity r) := by
  intro y hident _ f hf
  by_contra hadmits
  rw [Bool.not_eq_false] at hadmits
  exact hnot ⟨f, hf, admits_of_identity hident (isOpen_of_isOccupying hocc) hadmits⟩

theorem mayInvalidate_filter (hf : f ∈ filters) {now : Int} {T : OfferRequest → Prop} :
    LedgerRule.MayInvalidate (Guard (Spared T rows) (Unmatched filters))
      (Permits (Spared T rows) StaysOccupying c.ambient) f reason now := by
  apply mayInvalidate_target
  intro old hadmits hk
  have hnot := hk old rfl (isOpen_of_admits hadmits) f hf
  rw [hadmits] at hnot
  cases hnot

theorem invalidateForOffer (h : Closes c rows home owner r r')
    (hop : c.op = .invalidateForOffer offer reason promoting lifetime flush) :
    Filled home owner (step rows c) ∨ endsWithoutPromotion c rows r = true := by
  rcases promotes_cases flush promoting lifetime with hnot | ⟨minutes, rfl, rfl, rfl⟩
  · right
    have hadmitted : ∃ f ∈ [offerFilter c.ambient offer], f.admits r = true := by
      refine h.target (fun r _ hocc hnot => unmatched_of_not_admitted hocc hnot) ?_
      simp only [perform, hop, Txn.snd_bind_pure]
      exact (rule _ _ c rows).invalidateOvertimeRequests _ _ _
        (mayInvalidate_filter List.mem_cons_self) _
    simp only [List.mem_singleton, exists_eq_left] at hadmitted
    simp [endsWithoutPromotion, hop, hadmitted, hnot]
  · left
    obtain ⟨s', hrun, hstep⟩ := h.committed
    simp only [perform, hop] at hrun
    obtain ⟨ended, s1, hinvalidate, hpure⟩ := Txn.bind_ok.mp hrun
    cases hpure
    obtain ⟨s2, s3, hs2, hended, _, hflush, hpromote⟩ :=
      invalidateOvertimeRequests_ok h.inStep.coherent hinvalidate
    obtain ⟨hs3, hlive3⟩ := inStep_of_flush hflush hs2.ids
    have hmem := h.mem_step
    rw [hstep] at hmem ⊢
    refine filled_of_handOver h.inStep.ids (hended.of_live_eq hlive3) hs3 hpromote ?_ h.occupies
      hmem h.id_eq h.closed
    rw [session_live]
    exact h.mem

/-- The two filters of `invalidate_overtime_requests_for_user`. -/
def userFilters (c : Call) (userId : Nat) (requestHomeServer : String) : List RequestFilter :=
  let server := some (normalizeServer requestHomeServer c.ambient.currentServer)
  [{ offerOwnerUserId := some userId, requestHomeServer := server },
    { requesterUserId := some userId, requestHomeServer := server }]

theorem invalidateForUser (h : Closes c rows home owner r r') {userId : Nat} {server : String}
    (hop : c.op = .invalidateForUser userId reason server promoting lifetime flush) :
    Filled home owner (step rows c) ∨ endsWithoutPromotion c rows r = true := by
  rcases promotes_cases flush promoting lifetime with hnot | ⟨minutes, rfl, rfl, rfl⟩
  · right
    have hadmitted : ∃ f ∈ userFilters c userId server, f.admits r = true := by
      refine h.target (fun r _ hocc hnot => unmatched_of_not_admitted hocc hnot) ?_
      simp only [perform, hop, Txn.snd_bind_pure]
      exact (rule _ _ c rows).invalidateOvertimeRequestsForUser _ _ _
        (mayInvalidate_filter List.mem_cons_self)
        (mayInvalidate_filter (List.mem_cons_of_mem _ List.mem_cons_self)) _
    have hmatch : (r.offerOwnerUserId = some userId ∨ r.requesterUserId = some userId) ∧
        r.requestHomeServer = normalizeServer server c.ambient.currentServer := by
      simp only [userFilters, List.mem_cons, List.not_mem_nil, or_false, exists_eq_or_imp,
        exists_eq_left, RequestFilter.admits, decide_eq_true_eq] at hadmitted
      rcases hadmitted with hadmitted | hadmitted
      · exact ⟨.inl (hadmitted.2.2.2.2.1 rfl), hadmitted.2.2.2.2.2.2 _ rfl⟩
      · exact ⟨.inr (hadmitted.2.2.2.2.2.1 rfl), hadmitted.2.2.2.2.2.2 _ rfl⟩
    simp [endsWithoutPromotion, hop, hmatch, hnot]
  · left
    obtain ⟨s', hrun, hstep⟩ := h.committed
    simp only [perform, hop] at hrun
    obtain ⟨merged, s1, hinvalidate, hpure⟩ := Txn.bind_ok.mp hrun
    cases hpure
    obtain ⟨asOwner, s2, hfirst, hinvalidate⟩ := Txn.bind_ok.mp hinvalidate
    obtain ⟨asRequester, s3, hsecond, hinvalidate⟩ := Txn.bind_ok.mp hinvalidate
    obtain ⟨_, s4, hflush, hinvalidate⟩ := Txn.bind_ok.mp hinvalidate
    obtain ⟨_, s5, hpromote, hpure⟩ := Txn.bind_ok.mp hinvalidate
    cases hpure
    obtain ⟨s2', _, hs2, hended1, hfrom1, hskip, hskip'⟩ :=
      invalidateOvertimeRequests_ok h.inStep.coherent hfirst
    cases hskip
    cases hskip'
    obtain ⟨s3', _, hs3, hended2, hfrom2, hskip, hskip'⟩ :=
      invalidateOvertimeRequests_ok hs2 hsecond
    cases hskip
    cases hskip'
    obtain ⟨hs4, hlive4⟩ := inStep_of_flush hflush hs3.ids
    -- a request that was already ended as the owner's is not listed again
    have hmerged : Ended (asOwner ++ asRequester.filter
        (fun r => asOwner.all (fun o => o.id ≠ r.id))) (c.session rows) s3 := by
      refine (hended1.trans hended2).mono fun x hx => ?_
      rcases List.mem_append.mp hx with hx | hx
      · exact ⟨x, List.mem_append_left _ hx, rfl⟩
      · by_cases hlisted : asOwner.all (fun o => o.id ≠ x.id) = true
        · exact ⟨x, List.mem_append_right _ (List.mem_filter.mpr ⟨hx, hlisted⟩), rfl⟩
        · simp only [ne_eq, List.all_eq_true, not_forall, decide_eq_true_eq,
            Decidable.not_not] at hlisted
          obtain ⟨o, ho, hid⟩ := hlisted
          obtain ⟨x0, hx0, hev, _⟩ := hended1 x (hfrom2 x hx).1
          have hsame : o = x0 :=
            eq_of_id_eq h.inStep.ids (hfrom1 o ho).1 hx0 (hid.trans hev.id_eq)
          rw [← hsame] at hev
          exact ⟨o, List.mem_append_left _ ho, hev.identity_eq.symm⟩
    have hmem := h.mem_step
    rw [hstep] at hmem ⊢
    refine filled_of_handOver h.inStep.ids (hmerged.of_live_eq hlive4) hs4 hpromote ?_ h.occupies
      hmem h.id_eq h.closed
    rw [session_live]
    exact h.mem

theorem of_expiry (h : Closes c rows home owner r r') {offers : List Offer}
      (hsame : SameRows (c.session rows) s)
    (hrun : invalidateOvertimeAfterOfferExpiry c.ambient offers reason c.now normalMinutes s =
      (.ok (), s')) (hstep : step rows c = s'.live) : Filled home owner (step rows c) := by
  obtain ⟨hs, hlive⟩ := hsame.inStep h.inStep
  have hmem := h.mem_step
  rw [hstep] at hmem ⊢
  refine filled_of_expiry hs hrun ?_ h.occupies hmem h.id_eq h.closed
  rw [hlive, session_live]
  exact h.mem

theorem expireOffer (h : Closes c rows home owner r r')
    (hop : c.op = .expireOffer offerId command normalMinutes requireAuthority) :
    Filled home owner (step rows c) := by
  obtain ⟨s', hrun, hstep⟩ := h.committed
  simp only [perform, hop] at hrun
  obtain ⟨_, s1, hexpire, hrun⟩ := Txn.bind_ok.mp hrun
  have hkeeps : Txn.Keeps SameRows
      (expireOfferRow c.ambient command c.now requireAuthority offerId) :=
    expireOfferRow_sameRows command c.now requireAuthority offerId
  have hsame := hkeeps (c.session rows)
  rw [hexpire] at hsame
  exact h.of_expiry hsame hrun hstep

theorem expireOffers (h : Closes c rows home owner r r') {offerIds : List Nat}
    (hop : c.op = .expireOffers offerIds command normalMinutes requireAuthority) :
    Filled home owner (step rows c) := by
  obtain ⟨s', hrun, hstep⟩ := h.committed
  simp only [perform, hop] at hrun
  obtain ⟨_, s1, hexpire, hrun⟩ := Txn.bind_ok.mp hrun
  have hkeeps : Txn.Keeps SameRows
      (expireActiveOffers c.ambient command c.now requireAuthority offerIds) :=
    expireActiveOffers_sameRows command c.now requireAuthority offerIds
  have hsame := hkeeps (c.session rows)
  rw [hexpire] at hsame
  exact h.of_expiry hsame hrun hstep

theorem mem_ended (h : Closes c rows home owner r r') {ended : List OfferRequest}
    (hended : Ended ended (c.session rows) s) (hheld : Held s s')
    (hstep : step rows c = s'.live) : ∃ e ∈ ended, identity e = identity r := by
  have hmem := h.mem_step
  rw [hstep] at hmem
  obtain ⟨r1, hr1, hev1, hstays⟩ := hheld.before r' hmem
  obtain ⟨r0, hr0, hev0, hend⟩ := hended r1 hr1
  rw [session_live] at hr0
  have hsame : r0 = r :=
    eq_of_id_eq h.ids hr0 h.mem ((hev0.trans hev1).id_eq.symm.trans h.id_eq)
  subst hsame
  rcases hend with hunchanged | hend
  · rw [hunchanged] at hstays
    have hopen := isOpen_of_isOccupying (hstays h.occupying)
    rw [h.closed] at hopen
    cases hopen
  · exact hend

theorem applyOvertimeTransition_offers (ambient : Ambient) (id : Nat) (d : Decision)
    (s : Session) : (applyOvertimeTransition ambient id d s).2.offers = s.offers := by
  simp only [applyOvertimeTransition, Txn.bind_read]
  cases s.row? id with
  | none => rfl
  | some ledger =>
    dsimp only
    cases transitionRow ambient.utcNow ledger d <;> rfl

theorem find?_marked (id : Nat) (offers : List Offer) :
    (offers.map (fun o => if o.id = id then { o with overtimeTradeCommitted := true } else o)).find?
      (fun o => decide (o.id = id)) =
      (offers.find? (fun o => decide (o.id = id))).map
        (fun o => { o with overtimeTradeCommitted := true }) := by
  induction offers with
  | nil => rfl
  | cons offer offers ih =>
    by_cases hid : offer.id = id
    · simp [hid]
    · simp [hid, ih]

theorem approve_alone (h : Closes c rows home owner r r')
    (hop : c.op = .approve id tradeId decidedBy normalMinutes)
    (hledger : ledger ∈ rows) (hid : ledger.id = id)
    (hended : Ended [ledger] (c.session rows) s') (hstep : step rows c = s'.live)
    (hnone : ledger.localOfferId.bind (fun id => c.offers.find? (·.id = id)) = none) :
    endsWithoutPromotion c rows r = true := by
  obtain ⟨e, he, hident⟩ := h.mem_ended hended (Held.refl s') hstep
  rw [List.mem_singleton.mp he] at hident
  have hkey : ledger.id = r.id := field_eq_of_identity hident OfferRequest.id fun _ => rfl
  simp only [endsWithoutPromotion, hop, List.any_eq_true, decide_eq_true_eq]
  refine ⟨ledger, hledger, hid, ?_⟩
  simp [approvalEnds, hnone, hkey]

theorem approve_offer (h : Closes c rows home owner r r')
    (hop : c.op = .approve id tradeId decidedBy normalMinutes)
    (hledger : ledger ∈ rows) (hid : ledger.id = id)
    (hs : Coherent s) (hended : Ended [ledger] (c.session rows) s) (hstep : step rows c = s'.live)
    (hoffer : ledger.localOfferId.bind (fun id => c.offers.find? (·.id = id)) = some offer)
    (hrun : (invalidateOvertimeRequests c.ambient reason (offerFilter c.ambient offer) c.now false
      (some normalMinutes) true >>= fun _ =>
      match ledger.offerOwnerUserId with
      | none => pure ()
      | some owner => promoteNextForOwner c.ambient ledger.requestHomeServer owner normalMinutes
          c.now true >>= fun _ => pure ()) s = (.ok (), s')) :
    Filled home owner (step rows c) ∨ endsWithoutPromotion c rows r = true := by
  obtain ⟨ended, s1, hinvalidate, hrun⟩ := Txn.bind_ok.mp hrun
  obtain ⟨s2, s3, hs2, hended2, hfrom, hflush, hskip⟩ :=
    invalidateOvertimeRequests_ok hs hinvalidate
  cases hskip
  obtain ⟨hs1, hlive1⟩ := inStep_of_flush hflush hs2.ids
  have hall := (hended.trans hended2).of_live_eq hlive1
  by_cases hscope : r.requestHomeServer = ledger.requestHomeServer ∧
      r.offerOwnerUserId = ledger.offerOwnerUserId
  · left
    rw [← hscope.2, h.owner_eq] at hrun
    obtain ⟨_, s4, hpromote, hpure⟩ := Txn.bind_ok.mp hrun
    cases hpure
    rw [hstep, ← h.home_eq, hscope.1]
    exact (promoteNextForOwner_filled hs1 hpromote).2
  · right
    have hheld : Held s1 s' := by
      cases hown : ledger.offerOwnerUserId with
      | none =>
        rw [hown] at hrun
        cases hrun
        exact Held.refl _
      | some o =>
        rw [hown] at hrun
        obtain ⟨_, s4, hpromote, hpure⟩ := Txn.bind_ok.mp hrun
        cases hpure
        exact promoteNextForOwner_held hs1 hpromote
    obtain ⟨e, he, hident⟩ := h.mem_ended hall hheld hstep
    have hadmits : (offerFilter c.ambient offer).admits r = true := by
      rcases List.mem_append.mp he with he | he
      · rw [List.mem_singleton.mp he] at hident
        have hhome := field_eq_of_identity hident OfferRequest.requestHomeServer fun _ => rfl
        have howner := field_eq_of_identity hident OfferRequest.offerOwnerUserId fun _ => rfl
        exact absurd ⟨hhome.symm, howner.symm⟩ hscope
      · obtain ⟨_, old, hadmits, hold⟩ := hfrom e he
        exact admits_of_identity (hold.trans hident) (isOpen_of_isOccupying h.occupying) hadmits
    simp only [endsWithoutPromotion, hop, List.any_eq_true, decide_eq_true_eq]
    refine ⟨ledger, hledger, hid, ?_⟩
    simp only [approvalEnds, hoffer, decide_eq_true_eq]
    exact ⟨hadmits, hscope⟩

theorem finalize (h : Closes c rows home owner r r')
    (hop : c.op = .approve id tradeId decidedBy normalMinutes)
    (hledger : ledger ∈ rows) (hid : ledger.id = id)
    (hlocal : ledger.localOfferId = some offerId) (hs : Coherent s)
    (hended : Ended [ledger] (c.session rows) s)
    (hfound : s.offer? offerId = (c.offers.find? (fun o => decide (o.id = offerId))).map
      (fun o => { o with overtimeTradeCommitted := true }))
    (hrun : finalizeOvertimeTradeSideEffects c.ambient ledger offerId normalMinutes c.now s =
      (.ok (), s')) (hstep : step rows c = s'.live) :
    Filled home owner (step rows c) ∨ endsWithoutPromotion c rows r = true := by
  simp only [finalizeOvertimeTradeSideEffects, Txn.bind_read] at hrun
  cases hoffer : c.offers.find? (fun o => decide (o.id = offerId)) with
  | none =>
    rw [hoffer, Option.map_none] at hfound
    rw [hfound] at hrun
    cases hrun
    refine .inr (h.approve_alone hop hledger hid hended hstep ?_)
    rw [hlocal, Option.bind_some]
    exact hoffer
  | some offer =>
    rw [hoffer, Option.map_some] at hfound
    rw [hfound] at hrun
    obtain ⟨_, s1, hexpire, hrun⟩ := Txn.bind_ok.mp hrun
    have hrows : SameRows s s1 := by
      have hkeeps : ∀ m : Work Unit, Txn.Keeps SameRows m → m s = (.ok (), s1) →
          SameRows s s1 := by
        intro m hm hok
        have hsame := hm s
        rw [hok] at hsame
        exact hsame
      refine hkeeps _ ?_ hexpire
      exact Txn.keeps_ite (expireOfferRow_sameRows _ _ _ _) (Txn.keeps_pure ())
    have hlive : s1.live = s.live := congrArg UnitOfWork.live hrows
    have hs1 : Coherent s1 := hrows.coherent hs
    have hfound : ledger.localOfferId.bind (fun id => c.offers.find? (·.id = id)) =
        some offer := by
      rw [hlocal, Option.bind_some]
      exact hoffer
    exact h.approve_offer hop hledger hid hs1 (hended.of_live_eq hlive) hstep hfound hrun

theorem approve (h : Closes c rows home owner r r')
    (hop : c.op = .approve id tradeId decidedBy normalMinutes) :
    Filled home owner (step rows c) ∨ endsWithoutPromotion c rows r = true := by
  obtain ⟨s', hrun, hstep⟩ := h.committed
  simp only [perform, hop, approveRequest, Txn.bind_read] at hrun
  cases hrow : (c.session rows).row? id with
  | none =>
    rw [hrow] at hrun
    cases hrun
  | some ledger =>
    rw [hrow] at hrun
    obtain ⟨hledger, hid⟩ := mem_of_row? hrow
    have hmem : ledger ∈ rows := by rwa [session_live] at hledger
    obtain ⟨_, s1, hrecord, hrun⟩ := Txn.bind_ok.mp hrun
    have hends := ends_tradeCompletion tradeId decidedBy c.ambient.utcNow
    have hoffers : s1.offers = c.offers := by
      have hsame := applyOvertimeTransition_offers c.ambient id
        (tradeCompletion tradeId decidedBy c.ambient.utcNow) (c.session rows)
      unfold Overtime.recordCompletedTrade at hrecord
      rw [hrecord] at hsame
      exact hsame
    rw [← hid] at hrecord
    obtain ⟨hended, _⟩ := applyOvertimeTransition_ended hends hrecord h.inStep.ids hledger
    have hkeeps : Txn.Keeps (Spares (fun _ => False) (fun _ => True) Eq)
        (applyOvertimeTransition c.ambient ledger.id
          (tradeCompletion tradeId decidedBy c.ambient.utcNow)) :=
      applyOvertimeTransition_spares hends.ne_presented fun hf => hf.elim
    have hs1 := coherent_of_ok hkeeps hrecord h.inStep.coherent
    cases hlocal : ledger.localOfferId with
    | none =>
      rw [hlocal] at hrun
      cases hrun
      exact .inr (h.approve_alone hop hmem hid hended hstep (by rw [hlocal]; rfl))
    | some offerId =>
      rw [hlocal] at hrun
      obtain ⟨_, s2, hmark, hrun⟩ := Txn.bind_ok.mp hrun
      have hs2 : s2 = ⟨s1.rows, s1.offers.map (fun o =>
          if o.id = offerId then { o with overtimeTradeCommitted := true } else o)⟩ :=
        (congrArg Prod.snd hmark).symm
      have hrows : SameRows s1 s2 := by rw [hs2]; rfl
      have hfound : s2.offer? offerId = (c.offers.find? (fun o => decide (o.id = offerId))).map
          (fun o => { o with overtimeTradeCommitted := true }) := by
        rw [hs2, ← hoffers]
        exact find?_marked offerId s1.offers
      have hlive : s2.live = s1.live := congrArg UnitOfWork.live hrows
      exact h.finalize hop hmem hid hlocal (hrows.coherent hs1) (hended.of_live_eq hlive) hfound
        hrun hstep

theorem sweepPresented (h : Closes c rows home owner r r') {lifetime : Int}
    (hop : c.op = .sweepPresented lifetime limit flush) :
    endsWithoutPromotion c rows r = true := by
  have htarget : r ∈ overduePresentedRows c.ambient c.now limit (c.session rows) := by
    refine h.target (K := fun _ => True) (fun _ _ _ _ => trivial) ?_
    simp only [perform, hop, Txn.snd_bind_pure]
    apply (rule _ _ c rows).expireOverduePresentedDecisions
    intro row hrow
    refine permits_target (ends_decisionTimeout _) fun x hx hid => ?_
    have hmem := List.mem_of_mem_take (List.mem_filter.mp hrow).1
    rw [(List.perm_insertionSort _ _).mem_iff] at hmem
    rwa [eq_of_id_eq h.ids hx (mem_session_select.mp hmem).1 hid]
  simpa [endsWithoutPromotion, hop] using htarget

theorem sweepDelivering (h : Closes c rows home owner r r')
    (hop : c.op = .sweepDelivering limit flush) : endsWithoutPromotion c rows r = true := by
  have htarget : r ∈ overdueDeliveringRows c.ambient c.now limit (c.session rows) := by
    refine h.target (K := fun _ => True) (fun _ _ _ _ => trivial) ?_
    simp only [perform, hop, Txn.snd_bind_pure]
    apply (rule _ _ c rows).expireOverdueDeliveringRequests
    intro row hrow
    refine permits_target (ends_invalidation _ _) fun x hx hid => ?_
    have hmem := mem_selectOwnRows (List.mem_filter.mp hrow).1
    rwa [eq_of_id_eq h.ids hx hmem.1 hid]
  simpa [endsWithoutPromotion, hop] using htarget

theorem sameOffer_of_admits {ambient : Ambient} {row old : OfferRequest}
    (hpublic : offer.offerPublicId = row.offerPublicId)
    (h : (offerFilter ambient offer).admits old = true) : sameOffer row old = true := by
  simp only [RequestFilter.admits, offerFilter, hpublic, decide_eq_true_eq] at h
  unfold sameOffer
  cases htext : nonemptyText (some row.offerPublicId) with
  | none => rfl
  | some publicId => simpa using h.2.2.2.1 publicId htext

theorem reconcile (h : Closes c rows home owner r r') {jobs : Nat → Option DeliveryJob}
    {dryRun : Bool} {lifetime : Int} (hop : c.op = .reconcile jobs dryRun lifetime limit flush) :
    endsWithoutPromotion c rows r = true := by
  cases dryRun with
  | true =>
    have hnone : False := by
      refine h.target (T := fun _ => False) (K := fun _ => True) (fun _ _ _ _ => trivial) ?_
      simp only [perform, hop, Txn.snd_bind_pure]
      exact refl_of (Spares _ _ _) _
    exact hnone.elim
  | false =>
    have hends : ∀ x, endsWithoutPromotion c rows x = true ↔
        ∃ target ∈ Rule.repairTargets c.ambient jobs c.now lifetime limit (c.session rows),
          ∃ row ∈ rows, row.requestPublicId = some target.1 ∧
            (row.id = x.id ∨ (target.2.issue ∈ offerIssues ∧ sameOffer row x = true)) := by
      intro x
      simp only [endsWithoutPromotion, hop, decide_eq_true_eq, true_and, List.any_eq_true]
    -- what the identity of a protected row tells: no repair works on its offer
    refine h.target (T := fun x => endsWithoutPromotion c rows x = true)
      (K := fun x => ∀ target ∈ Rule.repairTargets c.ambient jobs c.now lifetime limit
        (c.session rows), ∀ row ∈ rows, row.requestPublicId = some target.1 →
          target.2.issue ∈ offerIssues → sameOffer row x = false) ?_ ?_
    · intro x hx _ hnot target htarget row hrow hkey hissue
      by_contra hsame
      rw [Bool.not_eq_false] at hsame
      exact hnot ((hends x).mpr ⟨target, htarget, row, hrow, hkey, .inr ⟨hissue, hsame⟩⟩)
    · simp only [perform, hop, Txn.snd_bind_pure]
      apply (rule _ _ c rows).reconcileOvertimeRequests
      intro target htarget row hrow
      obtain ⟨hmem, hkey⟩ := mem_lockedRows hrow
      have hself : ∀ x ∈ rows, x.id = row.id → endsWithoutPromotion c rows x = true :=
        fun x _ hid => (hends x).mpr ⟨target, htarget, row, hmem, hkey, .inl hid.symm⟩
      refine ⟨fun _ => permits_target (ends_decisionTimeout _) hself,
        fun _ => permits_target (ends_invalidation _ _) hself,
        fun _ => permits_target (ends_invalidation _ _) hself, fun hissue offer hpublic => ?_⟩
      apply mayInvalidate_target
      intro old hadmits hk
      have hin : target.2.issue ∈ offerIssues := by
        rcases hissue with hissue | hissue <;> simp [offerIssues, hissue]
      have hnot := hk target htarget row hmem hkey hin
      rw [show sameOffer row (identity old) = sameOffer row old from rfl,
        sameOffer_of_admits hpublic hadmits] at hnot
      cases hnot

theorem elim_of_spares (h : Closes c rows home owner r r')
    (hperform : Spares (Spared (fun _ => False) rows) (fun _ => True) StaysOccupying
      (c.session rows) (perform c (c.session rows)).2) : False :=
  h.target (fun _ _ _ _ => trivial) hperform

theorem promoteNext (h : Closes c rows home owner r r') {server : Server} {user : Nat}
    {lifetime : Int} (hop : c.op = .promoteNext server user lifetime flush) :
    False := by
  apply h.elim_of_spares
  simp only [perform, hop, Txn.snd_bind_pure]
  exact promoteNextForOwner_spares _ _ _ _ _ _

theorem markPresented (h : Closes c rows home owner r r') {presentedAt : Int}
    {messageId : Option Int}
    (hop : c.op = .markPresented id presentedAt messageId flush) : False := by
  apply h.elim_of_spares
  simp only [perform, hop]
  refine markPresented_spares (fun _ a b hshow hocc => ?_) _
  rcases hshow.2 with hsame | hpresented
  · rw [OfferRequest.isOccupying, hsame]
    exact hocc
  · rw [OfferRequest.isOccupying, hpresented]
    decide

theorem finalizeOutageRecovery (h : Closes c rows home owner r r') {mode : Server}
    {candidates : List Nat} (hop : c.op = .finalizeOutageRecovery mode candidates) : False := by
  apply h.elim_of_spares
  simp only [perform, hop]
  exact (rule _ _ c rows).finalizeOutageRecovery _ _ _ _

theorem create (h : Closes c rows home owner r r') {command : OvertimeRequestCreateCommand}
    (hop : c.op = .create command flush) : False := by
  have hrule := rule (fun _ => False) (fun _ => True) c rows
  obtain ⟨s', hrun, hstep⟩ := h.committed
  have hs' : (createOvertimeRequest c.ambient command flush c.now
      ⟨UnitOfWork.load rows, c.offers⟩).2 = s' := by
    simp only [perform, hop] at hrun
    have hsnd := congrArg Prod.snd hrun
    rwa [Txn.snd_bind_pure] at hsnd
  have hmem := h.mem_step
  rw [hstep] at hmem
  rcases createOvertimeRequest_cases hrule.flush hrule.promote command flush c.now rows
    c.offers with hsame | ⟨row, hadmitted, hmoves⟩
  · refine h.step_ne ?_
    rw [hstep, ← hs', hsame, Session.live, UnitOfWork.live_load]
  · rw [hs'] at hmoves
    have hfresh : ∀ x ∈ rows, x.id ≠ row.id := by
      intro x hx hid
      have hlt := id_lt_nextId hx
      rw [hid, hadmitted.id_eq] at hlt
      exact Nat.lt_irrefl _ hlt
    have hguard : Guard (Spared (fun _ => False) rows) (fun _ => True)
        ⟨UnitOfWork.insert row (UnitOfWork.load rows), c.offers⟩ := by
      intro t ht hp
      rcases List.mem_append.mp ht with ht | ht
      · exact guard_spared (c := c) (K := fun _ => True) h.ids (fun _ _ _ _ => trivial) t ht hp
      · rw [List.mem_singleton.mp ht] at hp
        obtain ⟨x, hx, hid, _⟩ := hp
        exact absurd hid (hfresh x hx)
    obtain ⟨x, hx, hwithin⟩ :=
      UnitOfWork.forall₂_exists_before (hmoves hguard).live_forall₂ r' hmem
    rw [UnitOfWork.live_insert, UnitOfWork.live_load] at hx
    have hid : x.id = r.id := hwithin.1.id_eq.symm.trans h.id_eq
    have heq : x = r := by
      rcases List.mem_append.mp hx with hx | hx
      · exact eq_of_id_eq h.ids hx h.mem hid
      · rw [List.mem_singleton.mp hx] at hid
        exact absurd hid.symm (hfresh r h.mem)
    subst heq
    have hocc := hwithin.2 ⟨x, h.mem, rfl, h.occupying, fun hf => hf⟩ h.occupying
    have hopen := isOpen_of_isOccupying hocc
    rw [h.closed] at hopen
    cases hopen

theorem filled_or_endsWithoutPromotion (h : Closes c rows home owner r r') :
    Filled home owner (step rows c) ∨ endsWithoutPromotion c rows r = true := by
  cases hop : c.op with
  | create command flush => exact (h.create hop).elim
  | promoteNext => exact (h.promoteNext hop).elim
  | markPresented => exact (h.markPresented hop).elim
  | cancel => exact h.cancel hop
  | reject => exact h.reject hop
  | expireDecision => exact h.expireDecision hop
  | recordCompletedTrade id tradeId decidedBy => exact .inr (h.recordCompletedTrade hop)
  | approve => exact h.approve hop
  | invalidate id reason flush => exact .inr (h.invalidate hop)
  | invalidateAndPromote =>
    exact .inl (h.invalidateAndPromote hop)
  | invalidateForOffer => exact h.invalidateForOffer hop
  | invalidateForUser =>
    exact h.invalidateForUser hop
  | expireOffer => exact .inl (h.expireOffer hop)
  | expireOffers =>
    exact .inl (h.expireOffers hop)
  | finalizeOutageRecovery mode candidates => exact (h.finalizeOutageRecovery hop).elim
  | sweepPresented lifetime limit flush => exact .inr (h.sweepPresented hop)
  | sweepDelivering limit flush => exact .inr (h.sweepDelivering hop)
  | reconcile => exact .inr (h.reconcile hop)

end Closes

theorem step_seatTaken {normalLifetimeMinutes : Int} {rows : List OfferRequest} {c : Call}
    (hids : (rows.map OfferRequest.id).Nodup)
    (hwaits : NobodyWaits normalLifetimeMinutes rows c (step rows c)) :
    SeatTaken normalLifetimeMinutes rows c (step rows c) := by
  intro home owner r hr hocc r' hr' hid hclosed
  rintro ⟨q, hq, hscope, hqueued, hpromotable⟩
  have hcloses : Closes c rows home owner r r' := ⟨hids, hr, hocc, hr', hid, hclosed⟩
  rcases hcloses.filled_or_endsWithoutPromotion with hfilled | hends
  · rcases hfilled with htaken | hnone
    · exact htaken
    · exact absurd hqueued (hnone q hq hscope)
  · -- the waiting request was in the queue before the call
    have hmoves : List.Forall₂ Evolves rows (step rows c) :=
      step_forall₂_of_not_create fun command flush hop => hcloses.create hop
    obtain ⟨x, hx, hev⟩ := UnitOfWork.forall₂_exists_before hmoves q hq
    have hnot := hwaits home owner r hr hocc hends x hx
      ((hev.inScope_eq home owner).symm.trans hscope) (hev.queued_before hqueued)
    have hsame : promotable c normalLifetimeMinutes q = promotable c normalLifetimeMinutes x :=
      hev.field_eq (promotable c normalLifetimeMinutes) fun _ => rfl
    rw [hsame, hnot] at hpromotable
    cases hpromotable

/-- In every run in which no request is ended without a promotion in front of promotable work, the
owner's decision seat is taken after every step that frees it. -/
theorem decision_seat_taken (normalLifetimeMinutes : Int) (calls : List Call)
    (hcalls : EachStep step (NobodyWaits normalLifetimeMinutes) [] calls) :
    EachStep step (SeatTaken normalLifetimeMinutes) [] calls := by
  have hstart : RequesterInvariant [] := by constructor <;> simp
  exact eachStep_of_invariant (fun rows c hinv _ => step_requesterInvariant rows c hinv)
    (fun _ _ hinv hwaits => step_seatTaken hinv.ids hwaits) calls [] hstart hcalls

/-- Two requests to one owner; the first is delivering, the second waits. -/
def queuedBehind : List Call :=
  let first := sampleOffer 1 "ofr_1" 9
  let other := sampleOffer 2 "ofr_2" 9
  [⟨sampleAmbient (100 * second) "req_1", 100 * second, [first, other],
      .create (sampleCommand first 3 "key-1" (100 * second)) true⟩,
    ⟨sampleAmbient (101 * second) "req_2", 101 * second, [first, other],
      .create (sampleCommand other 4 "key-2" (101 * second)) true⟩]

def cancelFirst : Call :=
  ⟨sampleAmbient (110 * second) "", 110 * second, [sampleOffer 1 "ofr_1" 9,
    sampleOffer 2 "ofr_2" 9], .cancel 1 3 true true (some 1)⟩

theorem cancelFirst_seat_taken : EachStep step (SeatTaken 1) [] (queuedBehind ++ [cancelFirst]) ∧
    (run step [] (queuedBehind ++ [cancelFirst])).map OfferRequest.resultStatus =
      [.overtimeCancelledByRequester, .overtimeDelivering] := by
  refine ⟨decision_seat_taken 1 (queuedBehind ++ [cancelFirst]) ⟨?_, ?_, ?_, trivial⟩,
    by decide +kernel⟩
  · intro home owner r _ _ hends
    cases hends
  · intro home owner r _ _ hends
    cases hends
  · intro home owner r _ _ hends
    simp [endsWithoutPromotion, cancelFirst, promotes] at hends

/-- The deadline sweep, when the first request has been delivering for too long. -/
def sweepFirst : Call :=
  ⟨sampleAmbient (225 * second) "", 225 * second, [sampleOffer 1 "ofr_1" 9,
    sampleOffer 2 "ofr_2" 9], .sweepDelivering 50 true⟩

/-- The sweep ends the first request and leaves the second one waiting for a free seat. -/
theorem sweep_leaves_seat_empty :
    ¬ EachStep step (SeatTaken 1) [] (queuedBehind ++ [sweepFirst]) := by
  rintro ⟨_, _, hsweep, _⟩
  have hended : ∃ r ∈ run step [] queuedBehind, occupyingOwner .foreign 9 r = true ∧
      ∃ r' ∈ run step [] (queuedBehind ++ [sweepFirst]), r'.id = r.id ∧ r'.isOpen = false := by
    decide +kernel
  have hwaiting : ∃ q ∈ run step [] (queuedBehind ++ [sweepFirst]),
      q.inScope .foreign 9 = true ∧ q.resultStatus = .overtimeQueued ∧
        promotable sweepFirst 1 q = true := by decide +kernel
  obtain ⟨r, hr, hocc, r', hr', hid, hclosed⟩ := hended
  have htaken := hsweep .foreign 9 r hr hocc r' hr' hid hclosed hwaiting
  have hempty : ¬ ∃ x ∈ run step [] (queuedBehind ++ [sweepFirst]),
      occupyingOwner .foreign 9 x = true := by decide +kernel
  exact hempty htaken

end TradingBot.Overtime
