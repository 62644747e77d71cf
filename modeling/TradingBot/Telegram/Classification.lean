import TradingBot.Telegram.StoredAnswer

/-!
# What an answer can make of a job

The states `apply_gateway_result` can leave, which answers let a send be tried again, and what a
rate limit leaves of the retry time.
-/

namespace TradingBot.Telegram

open Misc

def GatewayResult.FailedBeforeWrite (result : GatewayResult) : Prop :=
  result.answer.phase = "pre_write" ∨ result.answer.error ∈ safeRetryTransportErrors

/-- The provider did not accept the message: a client error by status or code, a migrated
destination, or nothing written. -/
def GatewayResult.Rejects (result : GatewayResult) : Prop :=
  (∃ code, (result.statusCode = some code ∨ (result.field "error_code").toInt = some code) ∧
    400 ≤ code ∧ code ≤ 499) ∨
    result.hasMigrateToChatId = true ∨ result.FailedBeforeWrite

def DeliveryState.isRetryable (state : DeliveryState) : Bool :=
  state ∈ [.pendingRetry, .blockedDestination, .blockedBot, .blockedGateway]

section Classify

variable {policy : RetryPolicy} {job : Job} {answer : Answer} {now : Int}

theorem codeWithin_of_group (hgroup : codeGroup answer.code ∈
      [.badRequest, .rateLimited, .botBlocked, .forbidden, .notFound]) :
    codeWithin answer.code 400 499 = true := by
  have hspec := codeGroup_spec answer.code
  cases hcase : codeGroup answer.code <;> rw [hcase] at hspec hgroup <;> dsimp only at hspec
  case botBlocked => obtain hspec | hspec := hspec <;> rw [hspec] <;> decide
  all_goals first
    | (rw [hspec]; decide)
    | simp at hgroup

theorem classifyFailure_retryable (hsend : isSendMethod job.method = true)
    (hstate : (classifyFailure policy job answer now).1.state.isRetryable = true) :
    codeWithin answer.code 400 499 = true ∨ answer.migrated = true ∨
      answer.phase = "pre_write" ∨ answer.error ∈ safeRetryTransportErrors := by
  cases hmigrated : answer.migrated with
  | true => exact .inr (.inl rfl)
  | false =>
    have hretryable : (verdict (classifyFailure policy job answer now)).state.isRetryable = true :=
      hstate
    rw [verdict_of_group hmigrated] at hretryable
    cases hgroup : codeGroup answer.code <;> rw [hgroup] at hretryable <;> dsimp only at hretryable
    case success | serverError =>
      rw [serverVerdict, if_pos hsend] at hretryable
      cases hretryable
    case rest =>
      right; right
      unfold transportVerdict at hretryable
      split at hretryable
      case isTrue => cases hretryable
      case isFalse huncertain =>
        split at hretryable
        case isFalse => cases hretryable
        case isTrue hfailed =>
          simp only [sendUncertain, transportFailed, hsend, Bool.true_and, Bool.or_eq_true,
            decide_eq_true_eq, not_or, List.mem_cons, List.mem_nil_iff, or_false]
            at huncertain hfailed
          tauto
    all_goals
      left
      apply codeWithin_of_group
      rw [hgroup]
      decide

inductive Classified (policy : RetryPolicy) (job : Job) (answer : Answer) (now : Int) :
    Job × Decision → Prop where
  | settled (state : DeliveryState) (outcome : DeliveryOutcome) (reason : String)
      (hstate : state.isFinal = true ∨ state.isRetryable = true)
      (hreason : reason ≠ "telegram_rate_limited") :
      Classified policy job answer now (job.settle state outcome reason)
  | done (state : DeliveryState) (outcome : DeliveryOutcome) (reason : String)
      (hstate : state.isFinal = true ∨ state = .ambiguous)
      (hreason : reason ≠ "telegram_rate_limited") :
      Classified policy job answer now (job.settleDone state outcome reason)
  | backoff (reason : String) (hreason : reason ≠ "telegram_rate_limited")
      (hcode : answer.code ≠ some 429) :
      Classified policy job answer now (job.retryAfterBackoff policy now reason)
  | limited (hcode : answer.code = some 429) :
      Classified policy job answer now (job.rateLimited policy answer.retryAfter now)
  | forbidden (hcode : answer.code ≠ some 429) :
      Classified policy job answer now (job.forbidden policy now)

theorem classified_classifyTransport (hcode : answer.code ≠ some 429) :
    Classified policy job answer now (classifyTransport policy job answer now) := by
  unfold classifyTransport
  split_ifs
  · exact .done _ _ _ (.inr rfl) (by decide)
  · exact .backoff _ (by decide) hcode
  · exact .backoff _ (by decide) hcode
  · exact .settled _ _ _ (.inl rfl) (by decide)
  · exact .settled _ _ _ (.inl rfl) (by decide)

theorem classified_classifyFailure (policy : RetryPolicy) (job : Job) (answer : Answer)
    (now : Int) :
    Classified policy job answer now (classifyFailure policy job answer now) := by
  unfold classifyFailure
  split_ifs with happlied hdeleted hmigrated hlimited hblocked hforbidden
  · exact .done _ _ _ (.inl rfl) (by decide)
  · exact .done _ _ _ (.inl rfl) (by decide)
  · exact .settled _ _ _ (.inr rfl) (by decide)
  · exact .limited hlimited
  · exact .settled _ _ _ (.inr rfl) (by decide)
  · exact .forbidden hlimited
  · exact .settled _ _ _ (.inr rfl) (by decide)
  · exact .settled _ _ _ (.inl rfl) (by decide)
  · exact .done _ _ _ (.inl rfl) (by decide)
  · exact .settled _ _ _ (.inl rfl) (by decide)
  · exact .settled _ _ _ (.inl rfl) (by decide)
  · exact classified_classifyTransport hlimited

/-- A classified job that is not final gets a final state, an ambiguous send or a state it is tried
again from; a rate limit is noted with its retry time, or that does not move. -/
structure Classifies (job : Job) (code : Option Int) (settled : Job × Decision) : Prop where
  state : settled.1.state.isFinal = true ∨ settled.1.state = .ambiguous ∨
    settled.1.state.isRetryable = true
  ambiguous : settled.1.state = .ambiguous →
    settled.1.nextRetryAt = none ∨ settled.1.nextRetryAt = job.nextRetryAt
  reason : settled.2.reason = "telegram_rate_limited" →
    settled.1.state = .pendingRetry ∧
      ∃ at_, settled.1.nextRetryAt = some at_ ∧ settled.2.destinationCooldownUntil = some at_
  limited : code = some 429 → settled.2.reason ≠ "telegram_rate_limited" →
    settled.1.nextRetryAt = none ∨ settled.1.nextRetryAt = job.nextRetryAt

theorem classifies_settle {code : Option Int} {state : DeliveryState} {reason : String}
    (outcome : DeliveryOutcome) (hreason : reason ≠ "telegram_rate_limited")
    (hstate : state.isFinal = true ∨ state = .ambiguous ∨ state.isRetryable = true) :
    Classifies job code (job.settle state outcome reason) :=
  ⟨hstate, fun _ => .inr rfl, fun h => absurd h hreason, fun _ _ => .inr rfl⟩

theorem Classified.classifies {settled : Job × Decision}
    (h : Classified policy job answer now settled) : Classifies job answer.code settled := by
  cases h with
  | settled _ outcome _ hstate hreason =>
    exact classifies_settle outcome hreason (hstate.imp_right .inr)
  | done _ _ _ hstate hreason =>
    exact ⟨hstate.imp_right .inl, fun _ => .inl rfl, fun h => absurd h hreason,
      fun _ _ => .inl rfl⟩
  | backoff reason hreason hcode =>
    unfold Job.retryAfterBackoff
    cases policy.backoff job.providerAttemptCount job.dedupeKey with
    | none => exact classifies_settle .quarantined (by decide) (.inl rfl)
    | some delay =>
      exact ⟨.inr (.inr rfl), nofun, fun h => absurd h hreason, fun h => absurd h hcode⟩
  | limited hcode =>
    unfold Job.rateLimited
    cases job.rateLimitDelay policy answer.retryAfter with
    | none => exact classifies_settle .quarantined (by decide) (.inl rfl)
    | some delay =>
      exact ⟨.inr (.inr rfl), nofun, fun _ => ⟨rfl, _, rfl, rfl⟩, fun _ h => absurd rfl h⟩
  | forbidden hcode =>
    unfold Job.forbidden
    split_ifs
    · exact classifies_settle .permanentUndeliverable (by decide) (.inl rfl)
    · have hreason : "telegram_destination_forbidden" ≠ "telegram_rate_limited" := by decide
      exact ⟨.inr (.inr rfl), nofun, fun h => absurd h hreason, fun h => absurd h hcode⟩

end Classify

variable (policy : RetryPolicy) {job : Job} (result : GatewayResult) (now : Int)

def failedJob (job : Job) (result : GatewayResult) : Job :=
  { job.clearLease with
    lastErrorClass := some (errorClass result)
    lastErrorMessage := nonemptyOrNone (pyTake 500 result.errorText) }

theorem applyGatewayResult_open (hopen : job.state.isFinal = false) :
    applyGatewayResult policy job result now =
      if result.method ≠ "" ∧ result.method ≠ job.method then
        job.clearLease.settle .quarantined .quarantined "telegram_method_mismatch"
      else if result.ok ∧ result.envelopeOk then
        if isSendMethod job.method ∧ result.messageId = none then
          job.clearLease.settle .ambiguous .ambiguous "telegram_send_success_without_message_id"
        else
          { job.clearLease with
            nextRetryAt := none
            lastErrorClass := none
            lastErrorMessage := none
            telegramMessageId := result.messageId }.settle .sent .sent "sent"
      else classifyFailure policy (failedJob job result) result.answer now := by
  unfold applyGatewayResult
  rw [if_neg (by rw [hopen]; exact Bool.false_ne_true)]
  rfl

theorem classifies_applyGatewayResult (hopen : job.state.isFinal = false) :
    Classifies job result.statusCodeOf (applyGatewayResult policy job result now) := by
  have hcleared : ∀ {settled}, Classifies job.clearLease result.statusCodeOf settled →
      Classifies job result.statusCodeOf settled :=
    fun h => ⟨h.state, h.ambiguous, h.reason, h.limited⟩
  rw [applyGatewayResult_open policy result now hopen]
  split_ifs
  · exact hcleared (classifies_settle .quarantined (by decide) (.inl rfl))
  · exact hcleared (classifies_settle .ambiguous (by decide) (.inr (.inl rfl)))
  · have hreason : "sent" ≠ "telegram_rate_limited" := by decide
    exact ⟨.inl rfl, nofun, fun h => absurd h hreason, fun _ _ => .inl rfl⟩
  · have hfailed :=
      (classified_classifyFailure policy (failedJob job result) result.answer now).classifies
    exact ⟨hfailed.state, hfailed.ambiguous, hfailed.reason, hfailed.limited⟩

theorem statusCodeOf_eq {code : Int} (h : result.statusCodeOf = some code) :
    result.statusCode = some code ∨ (result.field "error_code").toInt = some code := by
  unfold GatewayResult.statusCodeOf at h
  split at h
  case h_1 own hown =>
    split at hown
    · exact .inr (hown.trans h)
    · cases hown
  case h_2 =>
    split at h
    case h_1 status hstatus => exact .inl (hstatus.trans h)
    case h_2 => exact .inr h

theorem rejects_of_retryable (hopen : job.state.isFinal = false)
    (hsend : isSendMethod job.method = true)
    (hstate : (applyGatewayResult policy job result now).1.state.isRetryable = true) :
    result.Rejects := by
  rw [applyGatewayResult_open policy result now hopen] at hstate
  split_ifs at hstate
  · cases hstate
  · cases hstate
  · cases hstate
  · have hmethod : isSendMethod (failedJob job result).method = true := hsend
    obtain hcode | hmigrated | hfailed := classifyFailure_retryable hmethod hstate
    · left
      cases hcase : result.statusCodeOf with
      | none =>
        have hnone : result.answer.code = none := hcase
        rw [hnone] at hcode
        cases hcode
      | some code =>
        have hsome : result.answer.code = some code := hcase
        rw [hsome, codeWithin, Bool.and_eq_true, decide_eq_true_eq, decide_eq_true_eq] at hcode
        exact ⟨code, statusCodeOf_eq result hcase, hcode⟩
    · exact .inr (.inl hmigrated)
    · exact .inr (.inr hfailed)

end TradingBot.Telegram
