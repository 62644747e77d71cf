import TradingBot.Overtime.DecisionWindow

/-!
# A presentation that is refused

`mark_presented` (offer_overtime_request_service.py:856) starts the decision clock and notes the
Telegram message before it asks whether the request may become presented; a refusal leaves the
session's object as written.
-/

namespace TradingBot.Overtime

open TradingBot TradingBot.Misc

structure Presentation where
  presentedAt : Option Int
  decisionDeadlineAt : Option Int
  telegramMessageId : Option Int
  resultStatus : OfferRequestStatus
  deriving DecidableEq, Repr

def presentation (r : OfferRequest) : Presentation :=
  ⟨r.presentedAt, r.decisionDeadlineAt, r.telegramMessageId, r.resultStatus⟩

def RaisedIllegal {α : Type} (result : Except Raised α × Session) : Prop :=
  ∃ detail remaining, result.1 = .error (.overtime .illegalTransition detail remaining)

def stamped (presentedAt : Int) (telegramMessageId : Option Int) (r : OfferRequest) :
    OfferRequest :=
  { r with
    presentedAt := some presentedAt
    decisionDeadlineAt := some (decisionDeadlineAt presentedAt)
    telegramMessageId := telegramMessageId <|> r.telegramMessageId }

section Marking

variable (ambient : Ambient) (presentedAt : Int) (telegramMessageId : Option Int) (flush : Bool)
  {id : Nat} {s : Session} {ledger : OfferRequest}

theorem markPresented_stamps (hrow : s.row? id = some ledger)
    (hfresh : ledger.resultStatus ≠ .overtimePresented) :
    ∃ s', s'.row? id = some (stamped presentedAt telegramMessageId ledger) ∧
      markPresented ambient id presentedAt telegramMessageId flush s =
        (applyOvertimeTransition ambient id { resultStatus := .overtimePresented } >>= fun _ =>
          flushIf flush >>= fun _ => schedulePresentedEdit ambient id) s' := by
  have hclock := @row?_updateRow id (fun r =>
    { r with
      presentedAt := some presentedAt
      decisionDeadlineAt := some (decisionDeadlineAt presentedAt) }) (fun _ => rfl) s
  have hmessage := @row?_updateRow id (fun r =>
    { r with telegramMessageId := telegramMessageId <|> r.telegramMessageId }) (fun _ => rfl)
    (startDecisionClock id presentedAt s).2
  rw [hrow, Option.map_some] at hclock
  refine ⟨_, hmessage.trans (congrArg _ hclock), ?_⟩
  unfold markPresented
  rw [Txn.bind_read, hrow]
  dsimp only
  rw [if_neg hfresh]
  rfl

theorem not_raisedIllegal_after (id : Nat) (s : Session) :
    ¬ RaisedIllegal ((flushIf flush >>= fun _ => schedulePresentedEdit ambient id) s) := by
  have hflush : ∀ (b : Bool) (s : Session), (flushIf b s).1 = .ok () ∨
      (flushIf b s).1 = .error .integrity := by
    intro b s
    unfold flushIf
    cases b with
    | false => exact .inl rfl
    | true =>
      simp only [if_true]
      unfold flushSession
      split
      · exact .inl rfl
      · exact .inr rfl
  rintro ⟨detail, remaining, hraised⟩
  rw [Txn.bind_apply] at hraised
  rcases hfirst : flushIf flush s with ⟨r, s'⟩
  rw [hfirst] at hraised
  have hcases := hflush flush s
  rw [hfirst] at hcases
  rcases hcases with hok | herror
  · cases hok
    rcases hflush (ambient.statusEditFlushes id) s' with hok | herror
    · rw [show (schedulePresentedEdit ambient id s').1 = .ok () from hok] at hraised
      cases hraised
    · rw [show (schedulePresentedEdit ambient id s').1 = .error .integrity from herror] at hraised
      cases hraised
  · cases herror
    cases hraised

theorem markPresented_illegal (hrow : s.row? id = some ledger)
    (hfresh : ledger.resultStatus ≠ .overtimePresented)
    (hillegal : .overtimePresented ∉ legalOvertimeTransitions ledger.resultStatus) :
    RaisedIllegal (markPresented ambient id presentedAt telegramMessageId flush s) ∧
      (markPresented ambient id presentedAt telegramMessageId flush s).2.row? id =
        some (stamped presentedAt telegramMessageId ledger) := by
  obtain ⟨s', hrow', hmark⟩ := markPresented_stamps ambient presentedAt telegramMessageId flush
    hrow hfresh
  have hrefused : ∃ detail remaining, transitionRow ambient.utcNow
      (stamped presentedAt telegramMessageId ledger) { resultStatus := .overtimePresented } =
        .error (.overtime .illegalTransition detail remaining) := by
    unfold transitionRow
    rw [if_pos ⟨fun h => hfresh h.symm, hillegal⟩]
    exact ⟨_, _, rfl⟩
  obtain ⟨detail, remaining, hrefused⟩ := hrefused
  have happly : applyOvertimeTransition ambient id { resultStatus := .overtimePresented } s' =
      (.error (.overtime .illegalTransition detail remaining), s') := by
    unfold applyOvertimeTransition
    rw [Txn.bind_read, hrow']
    dsimp only
    cases hrun : transitionRow ambient.utcNow (stamped presentedAt telegramMessageId ledger)
        { resultStatus := .overtimePresented } with
    | ok row =>
      rw [hrun] at hrefused
      cases hrefused
    | error e =>
      rw [hrun] at hrefused
      cases hrefused
      rfl
  rw [hmark, Txn.bind_apply, happly]
  exact ⟨⟨detail, remaining, rfl⟩, hrow'⟩

theorem markPresented_legal (hrow : s.row? id = some ledger)
    (hlegal : .overtimePresented ∈ legalOvertimeTransitions ledger.resultStatus) :
    ¬ RaisedIllegal (markPresented ambient id presentedAt telegramMessageId flush s) := by
  have hstatus : ledger.resultStatus = .overtimeQueued ∨
      ledger.resultStatus = .overtimeDelivering := by
    revert hlegal
    generalize ledger.resultStatus = status
    cases status <;> decide
  have hfresh : ledger.resultStatus ≠ .overtimePresented := by
    rcases hstatus with h | h <;> rw [h] <;> decide
  have hrunning : (stamped presentedAt telegramMessageId ledger).resultStatus ∉
      terminalOfferRequestStatuses := by
    show ledger.resultStatus ∉ terminalOfferRequestStatuses
    rcases hstatus with h | h <;> rw [h] <;> decide
  obtain ⟨s', hrow', hmark⟩ := markPresented_stamps ambient presentedAt telegramMessageId flush
    hrow hfresh
  obtain ⟨row, hok⟩ := exists_transitionRow ambient.utcNow
    (r := stamped presentedAt telegramMessageId ledger)
    (d := { resultStatus := .overtimePresented }) (.inr hlegal) hrunning
  rw [hmark, Txn.bind_apply, applyOvertimeTransition_eq_updateRow hrow' hok]
  exact not_raisedIllegal_after ambient flush id _

end Marking

/-- A presentation leaves the request as it was exactly when it was not refused, or had nothing to
write. -/
theorem refused_presentation_leaves_request_iff (ambient : Ambient) (id : Nat) (presentedAt : Int)
    (telegramMessageId : Option Int) (flush : Bool) (s : Session) (ledger : OfferRequest)
    (hrow : s.row? id = some ledger) :
    (RaisedIllegal (markPresented ambient id presentedAt telegramMessageId flush s) →
      ((markPresented ambient id presentedAt telegramMessageId flush s).2.row? id).map
        presentation = some (presentation ledger)) ↔
    (ledger.resultStatus = .overtimePresented ∨
      .overtimePresented ∈ legalOvertimeTransitions ledger.resultStatus ∨
      (ledger.presentedAt = some presentedAt ∧
        ledger.decisionDeadlineAt = some (decisionDeadlineAt presentedAt) ∧
        (telegramMessageId = none ∨ ledger.telegramMessageId = telegramMessageId))) := by
  by_cases hpresented : ledger.resultStatus = .overtimePresented
  · refine ⟨fun _ => .inl hpresented, fun _ hraised => ?_⟩
    have hnothing : markPresented ambient id presentedAt telegramMessageId flush s =
        (.ok (), s) := by
      unfold markPresented
      rw [Txn.bind_read, hrow]
      dsimp only
      rw [if_pos hpresented]
      rfl
    rw [hnothing] at hraised
    obtain ⟨_, _, hraised⟩ := hraised
    cases hraised
  · by_cases hlegal : .overtimePresented ∈ legalOvertimeTransitions ledger.resultStatus
    · refine ⟨fun _ => .inr (.inl hlegal), fun _ hraised => ?_⟩
      exact absurd hraised
        (markPresented_legal ambient presentedAt telegramMessageId flush hrow hlegal)
    · obtain ⟨hraised, hleft⟩ := markPresented_illegal ambient presentedAt telegramMessageId flush
        hrow hpresented hlegal
      have hwritten : presentation (stamped presentedAt telegramMessageId ledger) =
          presentation ledger ↔ (ledger.presentedAt = some presentedAt ∧
            ledger.decisionDeadlineAt = some (decisionDeadlineAt presentedAt) ∧
            (telegramMessageId = none ∨ ledger.telegramMessageId = telegramMessageId)) := by
        unfold presentation stamped
        rw [Presentation.mk.injEq]
        cases telegramMessageId with
        | none => simp [eq_comm]
        | some message => simp [eq_comm]
      rw [hleft, Option.map_some]
      simp only [hraised, true_implies, Option.some.injEq, hwritten, hpresented, hlegal, false_or]

def deliveringRequest : OfferRequest :=
  { rejectedRequest (101 * second) with
    presentedAt := none
    decisionDeadlineAt := none
    decidedByUserId := none
    terminalReason := none
    decidedAt := none
    resultStatus := .overtimeDelivering }

/-- The same request, cancelled by its requester before the message went out. -/
def cancelledRequest : OfferRequest :=
  { deliveringRequest with
    terminalReason := some "requester_cancelled"
    decidedAt := some (102 * second)
    resultStatus := .overtimeCancelledByRequester }

def sessionOf (r : OfferRequest) : Session := ⟨UnitOfWork.load [r], [offerAt (100 * second)]⟩

/-- The delivering request may be presented, so nothing is refused. -/
theorem delivering_presented : (sessionOf deliveringRequest).row? 1 = some deliveringRequest ∧
    (RaisedIllegal (markPresented (sampleAmbient (103 * second) "") 1 (103 * second) (some 77) true
        (sessionOf deliveringRequest)) →
      ((markPresented (sampleAmbient (103 * second) "") 1 (103 * second) (some 77) true
        (sessionOf deliveringRequest)).2.row? 1).map presentation =
          some (presentation deliveringRequest)) := by
  have hrow : (sessionOf deliveringRequest).row? 1 = some deliveringRequest := by decide
  refine ⟨hrow, ?_⟩
  exact (refused_presentation_leaves_request_iff _ 1 (103 * second) (some 77) true _ _ hrow).mpr
    (.inr (.inl (by decide)))

/-- The cancelled request is refused, and keeps the clock and the message all the same. -/
theorem cancelled_keeps_presentation :
    RaisedIllegal (markPresented (sampleAmbient (103 * second) "") 1 (103 * second) (some 77) true
      (sessionOf cancelledRequest)) ∧
    ((sessionOf cancelledRequest).row? 1).map presentation =
      some ⟨none, none, none, .overtimeCancelledByRequester⟩ ∧
    ((markPresented (sampleAmbient (103 * second) "") 1 (103 * second) (some 77) true
      (sessionOf cancelledRequest)).2.row? 1).map presentation =
        some ⟨some (103 * second), some (133 * second), some 77,
          .overtimeCancelledByRequester⟩ := by
  have hrow : (sessionOf cancelledRequest).row? 1 = some cancelledRequest := by decide
  obtain ⟨hraised, hleft⟩ := markPresented_illegal (sampleAmbient (103 * second) "")
    (103 * second) (some 77) true hrow (by decide) (by decide)
  rw [hrow, hleft]
  exact ⟨hraised, rfl, by decide⟩

end TradingBot.Overtime
