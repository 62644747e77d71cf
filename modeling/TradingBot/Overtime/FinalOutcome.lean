import TradingBot.Overtime.Service
import TradingBot.Misc.Run

/-!
# A terminal row under further decisions

A ledger row is decided by `apply_offer_request_decision`, or by `record_completed_trade`, which
checks the overtime table first. A terminal row refuses another outcome and accepts its own again,
and then takes over the values that the call gives: this is how a completed row gets its trade
(`test_terminal_rows_cannot_change_to_contradictory_outcome`).
-/

namespace TradingBot.Overtime

open TradingBot TradingBot.Misc

/-- `record_completed_trade` (offer_overtime_request_service.py:1104) on one object. -/
def recordCompletedTradeOn (utcNow : Int) (ledger : OfferRequest) (resultingTradeId : Nat)
    (decidedByUserId : Nat) (decidedAt : Option Int) : Except Raised OfferRequest :=
  transitionRow utcNow ledger
    (tradeCompletion resultingTradeId decidedByUserId (decidedAt.getD utcNow))

/-- A call that decides a row, with the wall clock it reads. -/
inductive LedgerCall where
  | applyDecision (utcNow : Int) (decision : Decision)
  | recordCompletedTrade (utcNow : Int) (resultingTradeId decidedByUserId : Nat)
      (decidedAt : Option Int)
  deriving DecidableEq, Repr

namespace LedgerCall

def utcNow : LedgerCall → Int
  | applyDecision utcNow _ => utcNow
  | recordCompletedTrade utcNow _ _ _ => utcNow

def decision : LedgerCall → Decision
  | applyDecision _ decision => decision
  | recordCompletedTrade utcNow resultingTradeId decidedByUserId decidedAt =>
    tradeCompletion resultingTradeId decidedByUserId (decidedAt.getD utcNow)

/-- The row that a call returns; `none` when it raises. -/
def answer (ledger : OfferRequest) : LedgerCall → Option OfferRequest
  | applyDecision utcNow decision => applyOfferRequestDecision utcNow ledger decision
  | recordCompletedTrade utcNow resultingTradeId decidedByUserId decidedAt =>
    (recordCompletedTradeOn utcNow ledger resultingTradeId decidedByUserId decidedAt).toOption

/-- The row after a call: what raises has written nothing before. -/
def apply (ledger : OfferRequest) (c : LedgerCall) : OfferRequest := (c.answer ledger).getD ledger

def Repeats (c : LedgerCall) (ledger : OfferRequest) : Prop :=
  c.decision.resultStatus = ledger.resultStatus

instance (c : LedgerCall) (ledger : OfferRequest) : Decidable (c.Repeats ledger) :=
  inferInstanceAs (Decidable (c.decision.resultStatus = ledger.resultStatus))

end LedgerCall

def Terminal (r : OfferRequest) : Prop := r.resultStatus ∈ terminalOfferRequestStatuses

instance (r : OfferRequest) : Decidable (Terminal r) :=
  inferInstanceAs (Decidable (r.resultStatus ∈ terminalOfferRequestStatuses))

theorem Terminal.no_transition {r : OfferRequest} (h : Terminal r) :
    legalOvertimeTransitions r.resultStatus = [] := by
  unfold Terminal at h
  revert h
  cases r.resultStatus <;> decide

variable {r : OfferRequest}

theorem answer_eq (h : Terminal r) (c : LedgerCall) :
    c.answer r = applyOfferRequestDecision c.utcNow r c.decision := by
  cases c with
  | applyDecision utcNow decision => rfl
  | recordCompletedTrade utcNow trade decidedBy decidedAt =>
    simp only [LedgerCall.answer, recordCompletedTradeOn, transitionRow, h.no_transition,
      LedgerCall.utcNow, LedgerCall.decision]
    generalize hdecision : tradeCompletion trade decidedBy (decidedAt.getD utcNow) = d
    unfold applyOfferRequestDecision
    by_cases hrepeats : d.resultStatus = r.resultStatus
    · simp [hrepeats, Except.toOption]
    · simp [hrepeats, show r.resultStatus ∈ terminalOfferRequestStatuses from h, Except.toOption]

theorem answer_of_not_repeats (h : Terminal r) {c : LedgerCall} (hc : ¬ c.Repeats r) :
    c.answer r = none := by
  rw [answer_eq h, applyOfferRequestDecision, if_pos ⟨h, hc⟩]

theorem apply_of_repeats (h : Terminal r) {c : LedgerCall} (hc : c.Repeats r) :
    ∃ r', LedgerCall.apply r c = r' ∧ r'.resultStatus = r.resultStatus ∧
      (r.decidedAt ≠ none → r'.decidedAt = (c.decision.decidedAt <|> r.decidedAt)) ∧
      r'.decidedByUserId = (c.decision.decidedByUserId <|> r.decidedByUserId) ∧
      r'.publicFailureCode = (c.decision.publicFailureCode <|> r.publicFailureCode) ∧
      r'.internalFailureCode = (c.decision.internalFailureCode <|> r.internalFailureCode) ∧
      r'.resultingTradeId = (c.decision.resultingTradeId <|> r.resultingTradeId) := by
  refine ⟨_, rfl, ?_⟩
  rw [LedgerCall.apply, answer_eq h, applyOfferRequestDecision, if_neg fun hboth => hboth.2 hc]
  refine ⟨hc, fun hdecided => ?_, rfl, rfl, rfl, rfl⟩
  simp [hdecided]

theorem apply_of_not_repeats (h : Terminal r) {c : LedgerCall} (hc : ¬ c.Repeats r) :
    LedgerCall.apply r c = r := by
  rw [LedgerCall.apply, answer_of_not_repeats h hc, Option.getD_none]

theorem apply_resultStatus (h : Terminal r) (c : LedgerCall) :
    (LedgerCall.apply r c).resultStatus = r.resultStatus := by
  by_cases hc : c.Repeats r
  · obtain ⟨r', hr', hstatus, _⟩ := apply_of_repeats h hc
    rw [hr']
    exact hstatus
  · rw [apply_of_not_repeats h hc]

theorem run_resultStatus (after : List LedgerCall) (h : Terminal r) :
    (run LedgerCall.apply r after).resultStatus = r.resultStatus := by
  induction after generalizing r with
  | nil => rfl
  | cons c after ih =>
    have hstep := apply_resultStatus h c
    have hterminal : Terminal (LedgerCall.apply r c) := by
      unfold Terminal
      rw [hstep]
      exact h
    rw [run_cons, ih hterminal, hstep]

/-- A column of a terminal row has its value still, or one a call gave with the row's own outcome. -/
def Traced {α : Type} (get : OfferRequest → Option α) (given : Decision → Option α)
    (r : OfferRequest) (after : List LedgerCall) (r' : OfferRequest) : Prop :=
  get r' = get r ∨
    ∃ c ∈ after, c.Repeats r ∧ given c.decision ≠ none ∧ get r' = given c.decision

theorem run_traced {α : Type} {get : OfferRequest → Option α} {given : Decision → Option α}
    (I : Option α → Prop) (hgiven : ∀ v, I (some v))
    (hwrites : ∀ r c, Terminal r → I (get r) → c.Repeats r →
      get (LedgerCall.apply r c) = (given c.decision <|> get r)) (after : List LedgerCall)
    (h : Terminal r) (hI : I (get r)) :
    Traced get given r after (run LedgerCall.apply r after) := by
  induction after generalizing r with
  | nil => exact .inl rfl
  | cons c after ih =>
    have hstatus := apply_resultStatus h c
    have hterminal : Terminal (LedgerCall.apply r c) := by
      unfold Terminal
      rw [hstatus]
      exact h
    -- one step keeps the column or takes the value that the call gives
    have hstep : get (LedgerCall.apply r c) = get r ∨
        c.Repeats r ∧ ∃ v, given c.decision = some v ∧
          get (LedgerCall.apply r c) = some v := by
      by_cases hc : c.Repeats r
      · rw [hwrites r c h hI hc]
        cases hvalue : given c.decision with
        | none => exact .inl rfl
        | some v => exact .inr ⟨hc, v, rfl, rfl⟩
      · rw [apply_of_not_repeats h hc]
        exact .inl rfl
    have hnext : I (get (LedgerCall.apply r c)) := by
      rcases hstep with hsame | ⟨_, v, _, hv⟩
      · rw [hsame]
        exact hI
      · rw [hv]
        exact hgiven v
    rw [run_cons]
    rcases ih hterminal hnext with hkept | ⟨later, hmem, hrepeats, hsome, hvalue⟩
    · rcases hstep with hsame | ⟨hc, v, hv, hget⟩
      · exact .inl (hkept.trans hsame)
      · refine .inr ⟨c, List.mem_cons_self, hc, ?_, ?_⟩
        · rw [hv]
          exact Option.some_ne_none v
        · rw [hkept, hget, hv]
    · refine .inr ⟨later, List.mem_cons_of_mem c hmem, ?_, hsome, hvalue⟩
      exact hrepeats.trans hstatus

/-- The outcome of a terminal row `r` stands in the row `r'` after further calls. -/
structure OutcomeStands (r : OfferRequest) (after : List LedgerCall) (r' : OfferRequest) :
    Prop where
  status : r'.resultStatus = r.resultStatus
  refuses : ∀ c : LedgerCall, ¬ c.Repeats r → c.answer r = none
  decidedAt : r.decidedAt ≠ none →
    Traced OfferRequest.decidedAt Decision.decidedAt r after r'
  decidedBy : Traced OfferRequest.decidedByUserId Decision.decidedByUserId r after r'
  publicFailureCode : Traced OfferRequest.publicFailureCode Decision.publicFailureCode r after r'
  internalFailureCode :
    Traced OfferRequest.internalFailureCode Decision.internalFailureCode r after r'
  resultingTrade : Traced OfferRequest.resultingTradeId Decision.resultingTradeId r after r'

/-- In every sequence of decisions on a row, a terminal status stays, every other outcome is
refused, and a column of the outcome changes only to a value that a later call gives with the same
outcome. -/
theorem terminal_outcome_stands (row : OfferRequest) (before after : List LedgerCall)
    (h : Terminal (run LedgerCall.apply row before)) :
    OutcomeStands (run LedgerCall.apply row before) after
      (run LedgerCall.apply row (before ++ after)) := by
  rw [run_append]
  generalize run LedgerCall.apply row before = r at h
  constructor
  · exact run_resultStatus after h
  · intro c hc
    exact answer_of_not_repeats h hc
  · intro hdecided
    refine run_traced (fun value => value ≠ none) Option.some_ne_none ?_ after h hdecided
    intro r c hr hset hc
    obtain ⟨r', hr', _, hwrite, _⟩ := apply_of_repeats hr hc
    rw [hr', hwrite hset]
  · refine run_traced (fun _ => True) (fun _ => trivial) ?_ after h trivial
    intro r c hr _ hc
    obtain ⟨r', hr', _, _, hwrite, _⟩ := apply_of_repeats hr hc
    rw [hr', hwrite]
  · refine run_traced (fun _ => True) (fun _ => trivial) ?_ after h trivial
    intro r c hr _ hc
    obtain ⟨r', hr', _, _, _, hwrite, _⟩ := apply_of_repeats hr hc
    rw [hr', hwrite]
  · refine run_traced (fun _ => True) (fun _ => trivial) ?_ after h trivial
    intro r c hr _ hc
    obtain ⟨r', hr', _, _, _, _, hwrite, _⟩ := apply_of_repeats hr hc
    rw [hr', hwrite]
  · refine run_traced (fun _ => True) (fun _ => trivial) ?_ after h trivial
    intro r c hr _ hc
    obtain ⟨r', hr', _, _, _, _, _, hwrite⟩ := apply_of_repeats hr hc
    rw [hr', hwrite]

def presentedRow : OfferRequest where
  id := 1
  requestPublicId := some "req_1"
  requestHomeServer := .foreign
  localOfferId := some 1
  offerPublicId := "ofr_1"
  requesterUserId := some 3
  actorUserId := some 3
  requestSourceSurface := .webapp
  requestSourceServer := .foreign
  requestedQuantity := 10
  idempotencyKey := some "key-1"
  workflowKind := .overtime
  offerOwnerUserId := some 9
  queueSequence := some 1
  presentedAt := some 0
  decisionDeadlineAt := some (30 * second)
  decidedByUserId := none
  terminalReason := none
  telegramDeliveryJobId := none
  telegramMessageId := none
  receivedAt := some 0
  decidedAt := none
  resultStatus := .overtimePresented
  publicFailureCode := none
  publicFailureMessage := none
  internalFailureCode := none
  resultingTradeId := none
  createdAt := some 0

def completion : LedgerCall := .recordCompletedTrade (5 * second) 55 9 none

theorem completed_row_stands :
    Terminal (run LedgerCall.apply presentedRow [completion]) ∧
      OutcomeStands (run LedgerCall.apply presentedRow [completion])
        [.applyDecision (6 * second) { resultStatus := .rejectedConflict }]
        (run LedgerCall.apply presentedRow [completion,
          .applyDecision (6 * second) { resultStatus := .rejectedConflict }]) := by
  have hterminal : Terminal (run LedgerCall.apply presentedRow [completion]) := by decide
  exact ⟨hterminal, terminal_outcome_stands presentedRow [completion] _ hterminal⟩

/-- A second record of the completed trade replaces the trade, the instant and the deciding user. -/
theorem second_completion_overwrites :
    ¬ ∀ (row : OfferRequest) (before after : List LedgerCall),
      Terminal (run LedgerCall.apply row before) →
        let r := run LedgerCall.apply row before
        let r' := run LedgerCall.apply row (before ++ after)
        r'.resultStatus = r.resultStatus ∧ r'.decidedAt = r.decidedAt ∧
          r'.decidedByUserId = r.decidedByUserId ∧
          r'.publicFailureCode = r.publicFailureCode ∧
          r'.internalFailureCode = r.internalFailureCode ∧
          r'.resultingTradeId = r.resultingTradeId := by
  intro h
  have hchanged := h presentedRow [completion]
    [.recordCompletedTrade (6 * second) 56 10 none] (by decide)
  revert hchanged
  decide

end TradingBot.Overtime
