import TradingBot.Overtime.Service

/-!
# Reconciliation and the deadline sweepers

`src/core/services/offer_overtime_reconciliation_service.py`. The reconciler collects findings over
the open requests of this server and repairs one finding per request, outside a dry run; the
sweepers end overdue decisions and deliveries. All change rows with `flush=False` and flush once at
the end.
-/

namespace TradingBot.Overtime

open TradingBot TradingBot.Misc

/-- `OVERDUE_DELIVERING_GRACE`. -/
def overdueDeliveringGrace : Int := 120 * second

def deliveryTimeoutReason : String := "overtime_delivery_reconcile_timeout"

inductive Issue where
  | presentedWithoutDeadline
  | overduePresentedDecision
  | overdueDelivering
  | nonterminalOnMissingOffer
  | nonterminalOnInactiveOffer
  | nonterminalPastFinalDeadline
  | deliveryJobMissing
  | deliveryJobIdentityMismatch
  | deliveryMessageIdMismatch
  | multipleOwnerOccupying
  | completedTradeWithoutTradeId
  deriving DecidableEq, Repr

def Issue.value : Issue → String
  | presentedWithoutDeadline => "presented_without_deadline"
  | overduePresentedDecision => "overdue_presented_decision"
  | overdueDelivering => "overdue_delivering"
  | nonterminalOnMissingOffer => "nonterminal_on_missing_offer"
  | nonterminalOnInactiveOffer => "nonterminal_on_inactive_offer"
  | nonterminalPastFinalDeadline => "nonterminal_past_final_deadline"
  | deliveryJobMissing => "delivery_job_missing"
  | deliveryJobIdentityMismatch => "delivery_job_identity_mismatch"
  | deliveryMessageIdMismatch => "delivery_message_id_mismatch"
  | multipleOwnerOccupying => "multiple_owner_occupying"
  | completedTradeWithoutTradeId => "completed_trade_without_trade_id"

/-- `REPAIRABLE_ISSUES`. -/
def repairableIssues : List Issue :=
  [.overduePresentedDecision, .overdueDelivering, .nonterminalOnInactiveOffer,
    .nonterminalPastFinalDeadline]

/-- `OvertimeReconciliationFinding`. -/
structure Finding where
  issue : Issue
  requestPublicId : Option String
  offerPublicId : Option String
  offerOwnerUserId : Option Nat
  detail : Option String
  deriving DecidableEq, Repr

/-- `_finding`: an empty text counts as a missing one. -/
def finding (issue : Issue) (row : OfferRequest) (detail : Option String) : Finding where
  issue := issue
  requestPublicId := row.requestPublicId.filter (· ≠ "")
  offerPublicId := (some row.offerPublicId).filter (· ≠ "")
  offerOwnerUserId := row.offerOwnerUserId
  detail := detail

structure DeliveryJob where
  sourceNaturalId : Option String
  payloadMessageId : Option Int
  deriving DecidableEq, Repr

def deliveryAgeStart (row : OfferRequest) : Option Int := row.receivedAt <|> row.createdAt

/-- `received is not None and clock >= received + OVERDUE_DELIVERING_GRACE`. -/
def deliveryOverdue (clock : Int) (row : OfferRequest) : Bool :=
  match deliveryAgeStart row with
  | none => false
  | some received => received + overdueDeliveringGrace ≤ clock

def clockFindings (clock : Int) (row : OfferRequest) : List Finding :=
  match row.resultStatus with
  | .overtimePresented =>
    match row.decisionDeadlineAt with
    | none => [finding .presentedWithoutDeadline row none]
    | some deadline =>
      if deadline ≤ clock then [finding .overduePresentedDecision row none] else []
  | .overtimeDelivering =>
    if deliveryOverdue clock row ∧ row.telegramMessageId = none then
      [finding .overdueDelivering row (some "missing_telegram_message_id")]
    else []
  | _ => []

def offerFindings (clock lifetime : Int) (offer : Option Offer) (row : OfferRequest) :
    List Finding :=
  match offer with
  | none => [finding .nonterminalOnMissingOffer row none]
  | some offer =>
    if offer.status ≠ .active then [finding .nonterminalOnInactiveOffer row none]
    else if 0 < lifetime then
      match offer.deadlines lifetime with
      | none => []
      | some (_, final) =>
        if final ≤ clock ∧ row.isQueued then [finding .nonterminalPastFinalDeadline row none]
        else []
    else []

def jobFindings (jobs : Nat → Option DeliveryJob) (row : OfferRequest) : List Finding :=
  match row.telegramDeliveryJobId with
  | none => []
  | some jobId =>
    match jobs jobId with
    | none => [finding .deliveryJobMissing row (some (toString jobId))]
    | some job =>
      let natural := stripOrEmpty job.sourceNaturalId
      let requestId := stripOrEmpty row.requestPublicId
      (if requestId ≠ "" ∧ natural ≠ "" ∧ natural ≠ requestId then
        [finding .deliveryJobIdentityMismatch row (some (String.ofList (natural.toList.take 40)))]
      else []) ++
      match job.payloadMessageId, row.telegramMessageId with
      | some payload, some message =>
        if payload ≠ message then
          [finding .deliveryMessageIdMismatch row (some (toString payload))]
        else []
      | _, _ => []

def occupancyFindings (rows : List OfferRequest) : List Finding :=
  let occupying := rows.filter OfferRequest.isOccupying
  (occupying.filterMap OfferRequest.offerOwnerUserId).eraseDups.flatMap fun owner =>
    let group := occupying.filter (fun r => r.offerOwnerUserId = some owner)
    if 1 < group.length then
      group.map (fun r => finding .multipleOwnerOccupying r (some (toString group.length)))
    else []

variable (ambient : Ambient)

/-- A query of this server's overtime rows, `ORDER BY id ASC LIMIT`. -/
def selectOwnRows (limit : Nat) (p : OfferRequest → Bool) (s : Session) :
    List OfferRequest :=
  ((s.select (fun r => r.workflowKind = .overtime ∧
    r.requestHomeServer = ambient.currentServer ∧ p r)).insertionSort
      (fun a b => a.id ≤ b.id)).take (max 1 limit)

def rowOffer (s : Session) (row : OfferRequest) : Option Offer := row.localOfferId.bind s.offer?

def collectOvertimeReconciliationFindings (jobs : Nat → Option DeliveryJob)
    (clock lifetime : Int) (limit : Nat) (s : Session) : List Finding :=
  let rows := selectOwnRows ambient limit OfferRequest.isOpen s
  rows.flatMap (fun row => clockFindings clock row ++
    offerFindings clock lifetime (rowOffer s row) row ++ jobFindings jobs row) ++
  occupancyFindings rows ++
  (selectOwnRows ambient limit (fun r => r.resultStatus = .completedTrade ∧
    (r.resultingTradeId = none ∨ r.terminalReason = none)) s).map
      (fun row => finding .completedTradeWithoutTradeId row none)

/-- `lifetime if lifetime > 0 else None`. -/
def positiveLifetime (lifetime : Int) : Option Int := if 0 < lifetime then some lifetime else none

/-- Run `m`; an `OvertimeRequestError` counts as the answer `otherwise`. -/
def exceptOvertimeError {α : Type} (m : Work α) (otherwise : α) : Work α :=
  Txn.handle m fun e =>
    match e with
    | .overtime _ _ _ => pure otherwise
    | other => Txn.raise other

/-- The repair of one finding in `reconcile_overtime_requests`; whether it counts as repaired. -/
def repairFinding (clock lifetime : Int) (f : Finding) (row : OfferRequest) :
    Work Bool :=
  match f.issue with
  | .overduePresentedDecision =>
    expireDecision ambient row.id clock false true (positiveLifetime lifetime) >>= fun _ =>
      pure true
  | .overdueDelivering =>
    invalidateRequest ambient row.id deliveryTimeoutReason clock false >>= fun _ => pure true
  | .nonterminalOnInactiveOffer | .nonterminalPastFinalDeadline =>
    Txn.read (fun s => s.offers.find? (fun o => o.offerPublicId = row.offerPublicId))
      >>= fun offer? =>
    match offer? with
    | none =>
      invalidateRequest ambient row.id "overtime_reconcile_offer_missing" clock false >>= fun _ =>
        pure true
    | some offer =>
      invalidateOvertimeRequestsForOffer ambient offer
        ("overtime_reconcile_" ++ f.issue.value) clock true (positiveLifetime lifetime) false
        >>= fun _ => pure true
  | _ => pure false

def repairable (findings : List Finding) : List Finding :=
  findings.filter (fun f => f.issue ∈ repairableIssues ∧ f.requestPublicId.isSome)

/-- `by_request`: the keys in order of first insertion, each with its last finding. -/
def byRequest (findings : List Finding) : List (String × Finding) :=
  (findings.filterMap Finding.requestPublicId).eraseDups.filterMap fun key =>
    (findings.reverse.find? (fun f => f.requestPublicId = some key)).map (key, ·)

/-- `OvertimeReconciliationReport`, less the counters that are derived from it. -/
structure Report where
  findings : List Finding
  repaired : List Finding
  skipped : List Finding
  deriving DecidableEq, Repr

def repairLoop (ambient : Ambient) (clock lifetime : Int) (locked : List OfferRequest) :
    List (String × Finding) → Report → Work Report
  | [], report => pure report
  | (key, f) :: rest, report =>
    match locked.find? (fun r => r.requestPublicId = some key) with
    | none => repairLoop ambient clock lifetime locked rest
        { report with skipped := report.skipped ++ [f] }
    | some row =>
      exceptOvertimeError (repairFinding ambient clock lifetime f row) false >>= fun done =>
      repairLoop ambient clock lifetime locked rest
        (if done then { report with repaired := report.repaired ++ [f] }
        else { report with skipped := report.skipped ++ [f] })

def reconcileOvertimeRequests (jobs : Nat → Option DeliveryJob)
    (dryRun : Bool) (clock lifetime : Int) (limit : Nat) (flush : Bool) : Work Report :=
  Txn.read (collectOvertimeReconciliationFindings ambient jobs clock lifetime limit)
    >>= fun findings =>
  if dryRun then pure ⟨findings, [], findings⟩
  else
    let targets := byRequest (repairable findings)
    let report : Report :=
      ⟨findings, [], findings.filter (fun f => f.issue ∉ repairableIssues)⟩
    if targets.isEmpty then pure report
    else
      Txn.read (fun s => s.select (fun r => r.requestHomeServer = ambient.currentServer ∧
        targets.any (fun t => r.requestPublicId = some t.1))) >>= fun locked =>
      repairLoop ambient clock lifetime locked targets report >>= fun done =>
      flushIf flush >>= fun _ => pure done

/-- `ORDER BY decision_deadline_at ASC`. -/
def deadlineLe (a b : OfferRequest) : Bool :=
  match a.decisionDeadlineAt, b.decisionDeadlineAt with
  | some x, some y => x ≤ y
  | some _, none => true
  | none, some _ => false
  | none, none => true

/-- The rows that `expire_overdue_presented_decisions` works on. -/
def overduePresentedRows (clock : Int) (limit : Nat) (s : Session) :
    List OfferRequest :=
  (((s.select (fun r => r.workflowKind = .overtime ∧
    r.requestHomeServer = ambient.currentServer ∧ r.resultStatus = .overtimePresented ∧
      r.decisionDeadlineAt.isSome)).insertionSort (fun a b => deadlineLe a b)).take
        (max 1 limit)).filter (fun r => r.decisionDeadlineAt.getD clock ≤ clock)

def sweepRows (repair : OfferRequest → Work Unit) : List OfferRequest → Work Nat
  | [] => pure 0
  | row :: rows =>
    exceptOvertimeError (repair row >>= fun _ => pure 1) 0 >>= fun done =>
    sweepRows repair rows >>= fun more => pure (done + more)

def expireOverduePresentedDecisions (clock lifetime : Int) (limit : Nat)
    (flush : Bool) : Work Nat :=
  Txn.read (overduePresentedRows ambient clock limit) >>= fun rows =>
  sweepRows (fun row =>
    expireDecision ambient row.id clock false true (positiveLifetime lifetime)) rows
    >>= fun repaired =>
  flushIf (flush && repaired != 0) >>= fun _ => pure repaired

/-- The rows that `expire_overdue_delivering_requests` works on. -/
def overdueDeliveringRows (clock : Int) (limit : Nat) (s : Session) :
    List OfferRequest :=
  (selectOwnRows ambient limit (fun r => r.resultStatus = .overtimeDelivering ∧
    r.telegramMessageId = none) s).filter (deliveryOverdue clock)

def expireOverdueDeliveringRequests (clock : Int) (limit : Nat) (flush : Bool) : Work Nat :=
  Txn.read (overdueDeliveringRows ambient clock limit) >>= fun rows =>
  sweepRows (fun row => invalidateRequest ambient row.id deliveryTimeoutReason clock false) rows
    >>= fun repaired =>
  flushIf (flush && repaired != 0) >>= fun _ => pure repaired

end TradingBot.Overtime
