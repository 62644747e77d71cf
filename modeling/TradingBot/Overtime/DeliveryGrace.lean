import TradingBot.Overtime.Invariants

/-!
# The grace of a delivering request

A sweep ends a delivering request without a Telegram message id once it is overdue. The age it tests
starts at the receipt, not at the promotion, so a request that waited in the queue can be overdue as
soon as it is delivering. `Watch` runs the workflow next to the instants at which requests entered
delivering.
-/

namespace TradingBot.Overtime

open TradingBot TradingBot.Misc

/-- The ledger, and the instant at which each request last entered delivering. -/
structure Watch where
  rows : List OfferRequest
  entered : Nat → Option Int

def Watch.start : Watch := ⟨[], fun _ => none⟩

def deliveringIn (rows : List OfferRequest) (id : Nat) : Bool :=
  rows.any (fun r => r.id = id ∧ r.resultStatus = .overtimeDelivering)

/-- One step of the workflow, with the record of the requests that entered delivering in it. -/
def Watch.next (w : Watch) (c : Call) : Watch where
  rows := step w.rows c
  entered := fun id =>
    if deliveringIn (step w.rows c) id ∧ ¬ deliveringIn w.rows id then some c.now else w.entered id

def Call.endsOverdue (c : Call) : Bool :=
  match c.op with
  | .sweepDelivering _ _ => true
  | .reconcile _ dryRun _ _ _ => !dryRun
  | _ => false

def EndedOverdue (r : OfferRequest) : Prop :=
  r.resultStatus = .overtimeInvalidated ∧ r.terminalReason = some deliveryTimeoutReason

def sweepable (c : Call) (r : OfferRequest) : Bool :=
  r.resultStatus = .overtimeDelivering ∧ r.workflowKind = .overtime ∧
    r.requestHomeServer = c.ambient.currentServer ∧ r.telegramMessageId = none ∧
    deliveryOverdue c.now r

/-- A request ended as overdue had been delivering for the grace. A queued one is none of these:
what a promotion makes of it has the reasons of the delivery services. -/
def GraceKept (w : Watch) (c : Call) (w' : Watch) : Prop :=
  c.endsOverdue = true → ∀ r ∈ w.rows, r.resultStatus ≠ .overtimeQueued → ¬ EndedOverdue r →
    ∀ r' ∈ w'.rows, r'.id = r.id → EndedOverdue r' → r.resultStatus = .overtimeDelivering ∧
      ∃ since, w.entered r.id = some since ∧ since + overdueDeliveringGrace ≤ c.now

/-- No request is past its grace by receipt while it is still within its grace by promotion. -/
def NoLatecomer (w : Watch) (c : Call) (_ : Watch) : Prop :=
  c.endsOverdue = true → ∀ r ∈ w.rows, sweepable c r = true →
    ∀ since, w.entered r.id = some since → since + overdueDeliveringGrace ≤ c.now

def NotForOverdue (a b : OfferRequest) : Prop := EndedOverdue b → EndedOverdue a

instance : IsPreorder OfferRequest NotForOverdue where
  refl _ := fun h => h
  trans _ _ _ h h' := fun hc => h (h' hc)

def NotSweepable (c : Call) (rows : List OfferRequest) (id : Nat) : Prop :=
  ∃ r ∈ rows, r.id = id ∧ r.resultStatus ≠ .overtimeQueued ∧ sweepable c r = false

variable {P : Nat → Prop} {ambient : Ambient} {id : Nat} {c : Call} {rows : List OfferRequest}
  {r : OfferRequest}

theorem permits_of_reason {d : Decision}
    (hend : Ends d) {reason : String} (hreason : d.terminalReason = some reason)
    (hne : reason ≠ deliveryTimeoutReason) : Permits P NotForOverdue ambient id d := by
  refine ⟨hend, fun _ r r' hr' hover => ?_⟩
  have hstored := (transitionRow_ok hr').2.2.2.2.2
  rw [hreason, hover.2] at hstored
  injection hstored with hstored
  exact absurd hstored.symm hne

theorem permits_invalidation {reason : String} {now : Int} (hne : reason ≠ deliveryTimeoutReason) :
    Permits P NotForOverdue ambient id (invalidation reason now) :=
  permits_of_reason (ends_invalidation reason now) rfl hne

theorem permits_timeout {now : Int} (hid : ¬ P id) :
    Permits P NotForOverdue ambient id (invalidation deliveryTimeoutReason now) :=
  ⟨ends_invalidation _ now, fun hp => absurd hp hid⟩

theorem not_notSweepable (hids : (rows.map OfferRequest.id).Nodup) (hr : r ∈ rows)
    (h : sweepable c r = true) : ¬ NotSweepable c rows r.id := by
  rintro ⟨other, hother, hid, _, hnot⟩
  have hsame := eq_of_id_eq hids hother hr hid
  rw [hsame, h] at hnot
  cases hnot

theorem sweepable_of_overdueDeliveringRows {limit : Nat}
    (h : r ∈ overdueDeliveringRows c.ambient c.now limit (c.session rows)) :
    r ∈ rows ∧ sweepable c r = true := by
  obtain ⟨hown, hover⟩ := List.mem_filter.mp h
  obtain ⟨hr, hkind, hhome, hp⟩ := mem_selectOwnRows hown
  simp only [decide_eq_true_eq] at hp
  refine ⟨hr, ?_⟩
  simp [sweepable, hp.1, hp.2, hkind, hhome, hover]

theorem sweepable_of_target {jobs : Nat → Option DeliveryJob}
    {lifetime : Int} {limit : Nat} (hunique : uniqueIndexes rows = true) {target : String × Finding}
    (htarget : target ∈ Rule.repairTargets c.ambient jobs c.now lifetime limit (c.session rows))
    {row : OfferRequest} (hrow : (Rule.lockedRows c.ambient
      (Rule.repairTargets c.ambient jobs c.now lifetime limit (c.session rows))
      (c.session rows)).find? (fun r => r.requestPublicId = some target.1) = some row)
    (hissue : target.2.issue = .overdueDelivering) : row ∈ rows ∧ sweepable c row = true := by
  obtain ⟨hselected, hfound⟩ := clockFindings_of_target hunique htarget hrow (.inr hissue)
  obtain ⟨hmem, hkind, hhome, _⟩ := mem_selectOwnRows hselected
  refine ⟨hmem, ?_⟩
  rcases (clockFindings_cases hfound).2 with hother | ⟨hother, _⟩ | ⟨_, hdelivering, hover, hmessage⟩
  · rw [hother] at hissue
    cases hissue
  · rw [hother] at hissue
    cases hissue
  · simp [sweepable, hdelivering, hkind, hhome, hmessage, hover]

theorem guard_notSweepable (hids : (rows.map OfferRequest.id).Nodup) :
    Guard (NotSweepable c rows) (fun _ => True) (c.session rows) := by
  intro t ht hp
  obtain ⟨r, hr, rfl⟩ := List.mem_map.mp ht
  obtain ⟨other, hother, hid, hnot, _⟩ := hp
  rw [eq_of_id_eq hids hother hr hid] at hnot
  exact ⟨hnot, trivial, r, rfl, hnot, rfl⟩

theorem perform_notForOverdue
    (hids : (rows.map OfferRequest.id).Nodup) (hunique : uniqueIndexes rows = true)
    (hc : c.endsOverdue = true) :
    Spares (NotSweepable c rows) (fun _ => True) NotForOverdue (c.session rows)
      (perform c (c.session rows)).2 := by
  have hrule := spares_rule (NotSweepable c rows) (fun _ => True) NotForOverdue c.ambient
  unfold perform
  cases hop : c.op with
  | sweepDelivering limit flush =>
    rw [Txn.snd_bind_pure]
    apply hrule.expireOverdueDeliveringRequests
    intro row hrow
    obtain ⟨hmem, hsweep⟩ := sweepable_of_overdueDeliveringRows hrow
    exact permits_timeout (not_notSweepable hids hmem hsweep)
  | reconcile =>
    rw [Txn.snd_bind_pure]
    apply hrule.reconcileOvertimeRequests
    intro target htarget row hrow
    refine ⟨fun _ => ?_, fun hissue => ?_, fun _ => ?_, fun hissue offer _ s _ r _ => ?_⟩
    · exact permits_of_reason (ends_decisionTimeout _) rfl (by decide)
    · obtain ⟨hmem, hsweep⟩ := sweepable_of_target hunique htarget hrow hissue
      exact permits_timeout (not_notSweepable hids hmem hsweep)
    · exact permits_invalidation (by decide)
    · apply permits_invalidation
      rcases hissue with hissue | hissue
      · rw [hissue]
        decide
      · rw [hissue]
        decide
  | _ =>
    rw [Call.endsOverdue, hop] at hc
    cases hc

theorem sweepable_of_endedOverdue
    (hids : (rows.map OfferRequest.id).Nodup) (hunique : uniqueIndexes rows = true)
    (hc : c.endsOverdue = true) {r' : OfferRequest} (hr : r ∈ rows)
    (hqueued : r.resultStatus ≠ .overtimeQueued) (hopen : ¬ EndedOverdue r)
    (hr' : r' ∈ step rows c) (hid : r'.id = r.id) (hover : EndedOverdue r') :
    sweepable c r = true := by
  by_contra hnot
  have hp : NotSweepable c rows r.id := ⟨r, hr, rfl, hqueued, by simpa using hnot⟩
  have hkept := (step_spares hids (guard_notSweepable hids)
    (perform_notForOverdue hids hunique hc) hr hr' hid hp).2
  exact hopen (hkept hover)

structure WatchInv (w : Watch) : Prop where
  ledger : RequesterInvariant w.rows
  unique : uniqueIndexes w.rows = true
  recorded : ∀ r ∈ w.rows, r.resultStatus = .overtimeDelivering → (w.entered r.id).isSome = true

theorem next_watchInv (w : Watch) (c : Call) (h : WatchInv w) : WatchInv (w.next c) := by
  refine ⟨step_requesterInvariant w.rows c h.ledger, step_uniqueIndexes w.rows c h.unique, ?_⟩
  intro r hr hdelivering
  have hin : deliveringIn (step w.rows c) r.id = true := by
    apply List.any_eq_true.mpr
    exact ⟨r, hr, by simp [hdelivering]⟩
  show (if deliveringIn (step w.rows c) r.id ∧ ¬ deliveringIn w.rows r.id then some c.now
    else w.entered r.id).isSome = true
  by_cases hbefore : deliveringIn w.rows r.id = true
  · obtain ⟨old, hold, hmatch⟩ := List.any_eq_true.mp hbefore
    simp only [decide_eq_true_eq] at hmatch
    have hrecorded := h.recorded old hold hmatch.2
    rw [hmatch.1] at hrecorded
    simpa [hbefore] using hrecorded
  · simp [hin, hbefore]

/-- In every run in which no sweep and no repair meets a request overdue by its receipt but not by
its promotion, no delivering request is ended as overdue within its grace. -/
theorem delivery_grace_kept (calls : List Call)
    (hcalls : EachStep Watch.next NoLatecomer Watch.start calls) :
    EachStep Watch.next GraceKept Watch.start calls := by
  have hstart : WatchInv Watch.start := by
    constructor
    · constructor <;> simp [Watch.start]
    · rfl
    · simp [Watch.start]
  refine eachStep_of_invariant (fun w c hinv _ => next_watchInv w c hinv)
    (fun w c hinv hcond => ?_) calls Watch.start hstart hcalls
  intro hc r hr hqueued hopen r' hr' hid hover
  have hsweep := sweepable_of_endedOverdue hinv.ledger.ids hinv.unique hc hr hqueued hopen hr' hid
    hover
  have hdelivering : r.resultStatus = .overtimeDelivering := by
    simp only [sweepable, decide_eq_true_eq] at hsweep
    exact hsweep.1
  obtain ⟨since, hsince⟩ := Option.isSome_iff_exists.mp (hinv.recorded r hr hdelivering)
  exact ⟨hdelivering, since, hsince, hcond hc r hr hsweep since hsince⟩

def promptCalls : List Call :=
  let offer := sampleOffer 1 "ofr_1" 9
  [⟨sampleAmbient (100 * second) "req_1", 100 * second, [offer],
      .create (sampleCommand offer 3 "key-1" (100 * second)) true⟩,
    ⟨sampleAmbient (220 * second) "", 220 * second, [offer], .sweepDelivering 50 true⟩]

theorem promptCalls_grace_kept : EachStep Watch.next GraceKept Watch.start promptCalls ∧
    (run step [] promptCalls).map OfferRequest.resultStatus = [.overtimeInvalidated] := by
  have hentered : ∀ r ∈ (run Watch.next Watch.start (promptCalls.take 1)).rows,
      (run Watch.next Watch.start (promptCalls.take 1)).entered r.id = some (100 * second) := by
    decide +kernel
  refine ⟨delivery_grace_kept promptCalls ⟨fun h => ?_, fun _ r hr _ since hsince => ?_, trivial⟩,
    by decide +kernel⟩
  · cases h
  have hsince := (hentered r hr).symm.trans hsince
  injection hsince with hsince
  rw [← hsince]
  decide

/-- The second of two requests waits until the first is cancelled; a sweep comes a second later. -/
def waitingCalls : List Call :=
  let first := sampleOffer 1 "ofr_1" 9
  let other := sampleOffer 2 "ofr_2" 9
  [⟨sampleAmbient (100 * second) "req_1", 100 * second, [first, other],
      .create (sampleCommand first 3 "key-1" (100 * second)) true⟩,
    ⟨sampleAmbient (101 * second) "req_2", 101 * second, [first, other],
      .create (sampleCommand other 4 "key-2" (101 * second)) true⟩,
    ⟨sampleAmbient (300 * second) "", 300 * second, [first, other],
      .cancel 1 3 true true (some 1)⟩,
    ⟨sampleAmbient (301 * second) "", 301 * second, [first, other], .sweepDelivering 50 true⟩]

/-- The second request is ended as overdue one second after it entered delivering. -/
theorem waiting_request_loses_grace :
    ¬ EachStep Watch.next GraceKept Watch.start waitingCalls := by
  rintro ⟨_, _, _, hsweep, _⟩
  have hended : ∃ r ∈ (run Watch.next Watch.start (waitingCalls.take 3)).rows,
      r.resultStatus = .overtimeDelivering ∧
      (run Watch.next Watch.start (waitingCalls.take 3)).entered r.id = some (300 * second) ∧
      ∃ r' ∈ (run Watch.next Watch.start waitingCalls).rows, r'.id = r.id ∧
        r'.resultStatus = .overtimeInvalidated ∧
        r'.terminalReason = some deliveryTimeoutReason := by decide +kernel
  obtain ⟨r, hr, hdelivering, hentered, r', hr', hid, hstatus, hreason⟩ := hended
  obtain ⟨_, since, hsince, hgrace⟩ := hsweep rfl r hr (by rw [hdelivering]; decide)
    (fun hended => by rw [EndedOverdue, hdelivering] at hended; cases hended.1) r' hr' hid
    ⟨hstatus, hreason⟩
  have hsame := hentered.symm.trans hsince
  injection hsame with hsame
  rw [← hsame] at hgrace
  revert hgrace
  decide

end TradingBot.Overtime
