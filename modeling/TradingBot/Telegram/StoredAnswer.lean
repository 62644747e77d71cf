import TradingBot.Telegram.ProviderOutcome

/-!
# When a stored answer is classified as the original one

The row of an answer keeps whether it is a success, the message, the transport phase, the migration
and the delay. It may lose the code (given as text or as a float), the searched text beyond the
description, and the error's name beyond 120 characters. The rebuilt answer is classified as the
original when what the original holds elsewhere does not decide; which of the lost facts decides
depends on the group of the code.
-/

namespace TradingBot.Telegram

open Misc
open Sync (Value Payload)

/-! ## What the row keeps -/

/-- A value the row keeps as it is: a `bool` or an `int`. -/
def numberOrNull : Value → Value
  | .bool value => .bool value
  | .int value => .int value
  | _ => .null

theorem lookup_keptNumber (body : Body) (key other : String) :
    (keptNumber body key).lookup other =
      if other = key then
        (match body.fields.lookup key with
          | some (.bool value) => some (.bool value)
          | some (.int value) => some (.int value)
          | _ => none)
      else none := by
  unfold keptNumber
  by_cases hkey : other = key
  · subst hkey
    rw [if_pos rfl]
    cases body.fields.lookup other with
    | none => rfl
    | some value => cases value <;> simp
  · rw [if_neg hkey]
    split <;> simp [hkey]

variable {key : String}

theorem lookup_keptDescription (body : Body) (hkey : key ≠ "description") :
    (keptDescription body).lookup key = none := by
  unfold keptDescription
  dsimp only
  split <;> simp [hkey]

def keptFields (body : Body) : Payload :=
  keptNumber body "ok" ++ keptNumber body "error_code" ++ keptDescription body

theorem get_keptFields (body : Body) (hkey : key = "ok" ∨ key = "error_code") :
    (keptFields body).get key = numberOrNull (body.fields.get key) := by
  have hdescription : key ≠ "description" := by
    rintro rfl
    simp at hkey
  unfold keptFields Sync.Payload.get
  rw [List.lookup_append, List.lookup_append, lookup_keptDescription body hdescription,
    lookup_keptNumber, lookup_keptNumber]
  obtain rfl | rfl := hkey
  · rw [if_pos rfl, if_neg (by decide)]
    cases body.fields.lookup "ok" with
    | none => rfl
    | some value => cases value <;> rfl
  · rw [if_neg (by decide), if_pos rfl]
    cases body.fields.lookup "error_code" with
    | none => rfl
    | some value => cases value <;> rfl

def storedBody (result : GatewayResult) (body : Body) : Body where
  fields := keptFields body
  parameters := body.parameters.bind fun parameters => nonemptyPayload (safeParameters parameters)
  result := result.messageId.map fun id => [("message_id", .int id)]

theorem sanitizedProviderResponse_eq (result : GatewayResult) :
    sanitizedProviderResponse result =
      match result.responseJson with
      | none => none
      | some body =>
        if storedBody result body = {} then none else some (storedBody result body) := rfl

def Rebuilt (result rebuilt : GatewayResult) : Prop :=
  ∃ facts, providerOutcomeFacts result = some facts ∧
    rebuilt = providerOutcomeToGatewayResult facts

section Rebuilt

variable {result rebuilt : GatewayResult}

theorem Rebuilt.responseJson (h : Rebuilt result rebuilt) :
    rebuilt.responseJson = sanitizedProviderResponse result := by
  obtain ⟨facts, hfacts, rfl⟩ := h
  unfold providerOutcomeFacts at hfacts
  dsimp only at hfacts
  split at hfacts
  · rw [← Option.some.inj hfacts]
    rfl
  · cases hfacts

theorem Rebuilt.plain (h : Rebuilt result rebuilt) :
    rebuilt.ok = result.ok ∧ rebuilt.method = result.method ∧
      rebuilt.statusCode = result.statusCode := by
  obtain ⟨facts, hfacts, rfl⟩ := h
  unfold providerOutcomeFacts at hfacts
  dsimp only at hfacts
  split at hfacts
  · rw [← Option.some.inj hfacts]
    exact ⟨rfl, rfl, rfl⟩
  · cases hfacts

theorem Rebuilt.field_eq (h : Rebuilt result rebuilt) (key : String) :
    rebuilt.field key = ((result.responseJson.map keptFields).getD []).get key := by
  unfold GatewayResult.field
  rw [h.responseJson, sanitizedProviderResponse_eq]
  cases result.responseJson with
  | none => rfl
  | some body =>
    dsimp only
    by_cases hempty : storedBody result body = {}
    · have hfields : keptFields body = [] := congrArg Body.fields hempty
      rw [if_pos hempty, Option.map_some, Option.getD_some, hfields]
      rfl
    · rw [if_neg hempty]
      rfl

theorem Rebuilt.field (h : Rebuilt result rebuilt) (hkey : key = "ok" ∨ key = "error_code") :
    rebuilt.field key = numberOrNull (result.field key) := by
  rw [h.field_eq, GatewayResult.field]
  cases result.responseJson with
  | none => rfl
  | some body => exact get_keptFields body hkey

theorem Rebuilt.envelopeOk (h : Rebuilt result rebuilt) :
    rebuilt.envelopeOk = result.envelopeOk := by
  unfold GatewayResult.envelopeOk
  rw [h.field (.inl rfl)]
  cases result.field "ok" <;> rfl

theorem Rebuilt.messageId (h : Rebuilt result rebuilt) : rebuilt.messageId = result.messageId := by
  have hmessage : ∀ body, result.responseJson = some body →
      (storedBody result body).result = result.messageId.map fun id => [("message_id", .int id)] :=
    fun _ _ => rfl
  rw [GatewayResult.messageId, h.responseJson, sanitizedProviderResponse_eq]
  cases hjson : result.responseJson with
  | none => simp [GatewayResult.messageId, hjson]
  | some body =>
    have hresult := hmessage body hjson
    dsimp only
    by_cases hempty : storedBody result body = {}
    · rw [hempty] at hresult
      rw [if_pos hempty]
      cases hid : result.messageId with
      | none => rfl
      | some id => simp [hid] at hresult
    · rw [if_neg hempty, Option.bind_some, hresult]
      cases result.messageId <;> rfl

theorem get_safeParameters_retryAfter (parameters : Payload) :
    retryAfterInteger ((safeParameters parameters).get "retry_after") =
      retryAfterInteger (parameters.get "retry_after") := by
  unfold safeParameters
  generalize hvalue : parameters.get "retry_after" = value
  cases hinteger : retryAfterInteger value with
  | none => by_cases hnull : parameters.get "migrate_to_chat_id" = .null <;> simp [hnull] <;> rfl
  | some seconds =>
    have hint : value = .int seconds := by
      cases value with
      | int n =>
        by_cases hrange : 0 < n ∧ n ≤ 2147483647
        · rw [retryAfterInteger, if_pos hrange] at hinteger
          rw [Option.some.inj hinteger]
        · rw [retryAfterInteger, if_neg hrange] at hinteger
          cases hinteger
      | _ => cases hinteger
    subst hint
    exact hinteger

theorem get_safeParameters_migrate (parameters : Payload) :
    (safeParameters parameters).get "migrate_to_chat_id" = .null ↔
      parameters.get "migrate_to_chat_id" = .null := by
  have hother : ∀ value : Value, List.lookup "migrate_to_chat_id" [("retry_after", value)] = none :=
    fun _ => rfl
  unfold safeParameters
  rw [Sync.Payload.get, List.lookup_append]
  by_cases hnull : parameters.get "migrate_to_chat_id" = .null
  · rw [if_neg (not_not_intro hnull)]
    split <;> simp [hnull, hother]
  · rw [if_pos hnull]
    split <;> simp [hnull, hother]

theorem Rebuilt.parameters (h : Rebuilt result rebuilt) :
    rebuilt.parameters =
      result.parameters.bind fun parameters => nonemptyPayload (safeParameters parameters) := by
  unfold GatewayResult.parameters
  rw [h.responseJson, sanitizedProviderResponse_eq]
  cases result.responseJson with
  | none => rfl
  | some body =>
    dsimp only
    by_cases hempty : storedBody result body = {}
    · rw [if_pos hempty]
      exact (congrArg Body.parameters hempty).symm
    · rw [if_neg hempty]
      rfl

theorem Rebuilt.retryAfterSeconds (h : Rebuilt result rebuilt) :
    rebuilt.retryAfterSeconds = result.retryAfterSeconds := by
  unfold GatewayResult.retryAfterSeconds
  rw [h.parameters]
  cases result.parameters with
  | none => rfl
  | some parameters =>
    have hget := get_safeParameters_retryAfter parameters
    rw [Option.bind_some]
    unfold nonemptyPayload
    by_cases hempty : safeParameters parameters = []
    · rw [if_pos hempty]
      rw [hempty] at hget
      exact hget
    · rw [if_neg hempty]
      exact hget

theorem Rebuilt.hasMigrateToChatId (h : Rebuilt result rebuilt) :
    rebuilt.hasMigrateToChatId = result.hasMigrateToChatId := by
  unfold GatewayResult.hasMigrateToChatId
  rw [h.parameters]
  cases result.parameters with
  | none => rfl
  | some parameters =>
    have hget := get_safeParameters_migrate parameters
    rw [Option.bind_some]
    unfold nonemptyPayload
    by_cases hempty : safeParameters parameters = []
    · rw [if_pos hempty]
      rw [hempty] at hget
      simpa using hget.mp rfl
    · rw [if_neg hempty]
      simpa using hget

theorem Rebuilt.transportPhase (h : Rebuilt result rebuilt) :
    rebuilt.transportPhase = nonemptyOrNone result.answer.phase ∧
      nonemptyOrNone result.answer.phase ∈
        [none, some "pre_write", some "write_unknown", some "response_received"] := by
  obtain ⟨facts, hfacts, rfl⟩ := h
  have hanswer : result.answer.phase = pyLower (pyStrip (result.transportPhase.getD "")) := rfl
  unfold providerOutcomeFacts at hfacts
  dsimp only at hfacts
  rw [← hanswer] at hfacts
  generalize nonemptyOrNone result.answer.phase = phase at hfacts ⊢
  split at hfacts
  case isTrue hadmissible =>
    rw [← Option.some.inj hfacts]
    exact ⟨rfl, hadmissible⟩
  case isFalse => cases hfacts

theorem Rebuilt.phase (h : Rebuilt result rebuilt) : rebuilt.answer.phase = result.answer.phase := by
  obtain ⟨hphase, hadmissible⟩ := h.transportPhase
  have hanswer : rebuilt.answer.phase = pyLower (pyStrip (rebuilt.transportPhase.getD "")) := rfl
  rw [hanswer, hphase]
  generalize result.answer.phase = phase at hadmissible ⊢
  unfold nonemptyOrNone at hadmissible ⊢
  by_cases hempty : phase = ""
  · subst hempty
    decide +kernel
  · rw [if_neg hempty] at hadmissible ⊢
    simp only [List.mem_cons, List.mem_nil_iff, or_false, reduceCtorEq, false_or,
      Option.some.injEq] at hadmissible
    obtain rfl | rfl | rfl := hadmissible <;> decide +kernel

/-! ## The searched text -/

/-- The description of an answer as a row keeps it: one line of 500 characters. -/
def GatewayResult.keptLine (result : GatewayResult) : String :=
  if (result.field "description").truthy then
    pyTake 500 (joinWords (pySplit (result.field "description").str))
  else ""

def GatewayResult.keptError (result : GatewayResult) : String := pyTake 120 (result.error.getD "")

/-- The part of an answer's searched text that a row keeps. -/
def GatewayResult.keptText (result : GatewayResult) : String :=
  pyLower (pyStrip (joinWords [result.keptLine, result.keptError, result.keptLine]))

theorem pyStrip_append_blanks {text blanks : List Char} (h : blanks.all isPySpace = true) :
    pyStrip (String.ofList (text ++ blanks)) = pyStrip (String.ofList text) := by
  have hdrop : ∀ rest : List Char, (blanks.reverse ++ rest).dropWhile isPySpace =
      rest.dropWhile isPySpace := by
    intro rest
    rw [List.dropWhile_append_of_pos]
    intro c hc
    exact List.all_eq_true.mp h c (List.mem_reverse.mp hc)
  unfold pyStrip
  rw [String.toList_ofList, String.toList_ofList, List.dropWhile_append]
  split
  · rename_i hempty
    rw [List.isEmpty_iff] at hempty
    have hnone := hdrop []
    rw [List.append_nil] at hnone
    have hblank : blanks.dropWhile isPySpace = [] :=
      List.dropWhile_eq_nil_iff.mpr fun c hc => List.all_eq_true.mp h c hc
    rw [hempty, hblank]
  · rw [List.reverse_append, hdrop]

theorem get_description_keptFields (body : Body) :
    (keptFields body).get "description" =
      if (body.fields.get "description").truthy then
        .text (pyTake 500 (joinWords (pySplit (body.fields.get "description").str)))
      else .null := by
  unfold keptFields Sync.Payload.get
  rw [List.lookup_append, List.lookup_append, lookup_keptNumber, lookup_keptNumber,
    if_neg (by decide), if_neg (by decide)]
  unfold keptDescription Sync.Payload.get
  dsimp only
  split <;> rfl

theorem get_other_keptFields (body : Body) (hok : key ≠ "ok")
    (hcode : key ≠ "error_code") (hdescription : key ≠ "description") :
    (keptFields body).get key = .null := by
  unfold keptFields Sync.Payload.get
  rw [List.lookup_append, List.lookup_append, lookup_keptDescription body hdescription,
    lookup_keptNumber, lookup_keptNumber, if_neg hok, if_neg hcode]
  rfl

theorem shown_text (text : String) :
    (if (Value.text text).truthy then (Value.text text).str else "") = text := by
  by_cases hempty : text = ""
  · subst hempty
    rfl
  · rw [if_pos (by simp [Sync.Value.truthy, hempty])]
    rfl

/-- The description of the stored body, as it is shown. -/
theorem Rebuilt.shown_description (h : Rebuilt result rebuilt) :
    rebuilt.shown "description" = result.keptLine ∧ rebuilt.responseText = result.keptLine := by
  have hfield : rebuilt.field "description" =
      if (result.field "description").truthy then .text result.keptLine else .null := by
    rw [h.field_eq, GatewayResult.keptLine, GatewayResult.field]
    cases result.responseJson with
    | none => rfl
    | some body =>
      rw [Option.map_some, Option.getD_some, get_description_keptFields]
      split <;> rfl
  have hshown : rebuilt.shown "description" = result.keptLine := by
    unfold GatewayResult.shown
    rw [hfield]
    by_cases htruthy : (result.field "description").truthy = true
    · rw [if_pos htruthy]
      exact shown_text _
    · rw [if_neg htruthy, GatewayResult.keptLine, if_neg htruthy]
      rfl
  refine ⟨hshown, ?_⟩
  rw [← hshown]
  obtain ⟨facts, -, rfl⟩ := h
  unfold GatewayResult.shown GatewayResult.field providerOutcomeToGatewayResult
  dsimp only
  cases facts.providerResponse <;> rfl

theorem Rebuilt.error (h : Rebuilt result rebuilt) : rebuilt.error.getD "" = result.keptError := by
  obtain ⟨facts, hfacts, rfl⟩ := h
  unfold providerOutcomeFacts at hfacts
  dsimp only at hfacts
  split at hfacts
  · rw [← Option.some.inj hfacts]
    show (nonemptyOrNone result.keptError).getD "" = result.keptError
    unfold nonemptyOrNone
    split
    · rename_i hempty
      exact hempty.symm
    · rfl
  · cases hfacts

theorem Rebuilt.shown_other (h : Rebuilt result rebuilt) (hok : key ≠ "ok")
    (hcode : key ≠ "error_code") (hdescription : key ≠ "description") : rebuilt.shown key = "" := by
  have hnull : rebuilt.field key = .null := by
    rw [h.field_eq]
    cases result.responseJson with
    | none => rfl
    | some body => exact get_other_keptFields body hok hcode hdescription
  unfold GatewayResult.shown
  rw [hnull]
  rfl

theorem Rebuilt.errorText (h : Rebuilt result rebuilt) : rebuilt.errorText = result.keptText := by
  obtain ⟨hdescription, htext⟩ := h.shown_description
  unfold GatewayResult.errorText GatewayResult.keptText
  dsimp only
  rw [htext, h.error]
  refine congrArg pyLower ?_
  cases hbody : rebuilt.responseJson with
  | none =>
    have hline : result.keptLine = "" := by
      rw [← hdescription, GatewayResult.shown, GatewayResult.field, hbody]
      rfl
    have hshort : joinWords ["", result.keptError] =
        String.ofList (' ' :: result.keptError.toList) := by
      simp [joinWords]
    have hjoined : joinWords ["", result.keptError, ""] =
        String.ofList ((' ' :: result.keptError.toList) ++ [' ']) := by
      simp [joinWords]
    dsimp only
    rw [hline, hshort, hjoined]
    exact (pyStrip_append_blanks rfl).symm
  | some body =>
    have hshort : joinWords [result.keptLine, result.keptError, result.keptLine] =
        String.ofList (result.keptLine.toList ++ ' ' :: (result.keptError.toList ++
          ' ' :: result.keptLine.toList)) := by
      simp [joinWords]
    have hjoined : joinWords ([result.keptLine, result.keptError] ++ [result.keptLine, "", ""]) =
        String.ofList ((result.keptLine.toList ++ ' ' :: (result.keptError.toList ++
          ' ' :: result.keptLine.toList)) ++ [' ', ' ']) := by
      simp [joinWords]
    dsimp only
    rw [hdescription, h.shown_other (by decide) (by decide) (by decide),
      h.shown_other (by decide) (by decide) (by decide), hjoined, hshort]
    exact pyStrip_append_blanks rfl

end Rebuilt

/-! ## What decides a classification -/

structure Verdict where
  state : DeliveryState
  outcome : DeliveryOutcome
  jobRetryAt : Option Int
  retryAt : Option Int
  deriving DecidableEq, Repr

def verdict (settled : Job × Decision) : Verdict where
  state := settled.1.state
  outcome := settled.2.outcome
  jobRetryAt := settled.1.nextRetryAt
  retryAt := settled.2.nextRetryAt

inductive CodeGroup where
  | badRequest
  | rateLimited
  | botBlocked
  | forbidden
  | notFound
  | success
  | serverError
  | rest
  deriving DecidableEq, Repr

def codeGroup (code : Option Int) : CodeGroup :=
  if code = some 400 then .badRequest
  else if code = some 429 then .rateLimited
  else if code = some 401 ∨ code = some 409 then .botBlocked
  else if code = some 403 then .forbidden
  else if code = some 404 then .notFound
  else if codeWithin code 200 299 then .success
  else if codeWithin code 500 599 then .serverError
  else .rest

inductive TextSign where
  | alreadyApplied
  | expired
  | uneditable
  | malformed
  deriving DecidableEq, Repr

def saysApplied (method text : String) : Bool :=
  (pyContains "message is not modified" text && pyStartsWith "edit" method) ||
    (method = "deleteMessage" &&
      (pyContains "message to delete not found" text || pyContains "message not found" text))

def textSign (method text : String) : Option TextSign :=
  if saysApplied method text then some .alreadyApplied
  else if method = "answerCallbackQuery" ∧ containsAny callbackExpiredPatterns text then
    some .expired
  else if containsAny messageNotFoundPatterns text then some .uneditable
  else if containsAny malformedPayloadPatterns text then some .malformed
  else none

def saysNoMethod (text : String) : Bool := pyContains "method" text || pyContains "endpoint" text

def sendUncertain (method phase error : String) : Bool :=
  isSendMethod method && (phase = "write_unknown" || error ∈ ambiguousSendErrors)

def transportFailed (phase error : String) : Bool :=
  phase ∈ ["pre_write", "write_unknown"] || error ∈ safeRetryTransportErrors ||
    error ∈ ambiguousSendErrors

section Classify

variable {policy : RetryPolicy} {job : Job} {answer : Answer} {now : Int}

def transportVerdict (policy : RetryPolicy) (job : Job) (answer : Answer) (now : Int) : Verdict :=
  if sendUncertain job.method answer.phase answer.error then ⟨.ambiguous, .ambiguous, none, none⟩
  else if transportFailed answer.phase answer.error then verdict (job.retryAfterBackoff policy now "")
  else ⟨.quarantined, .quarantined, job.nextRetryAt, none⟩

def signVerdict (job : Job) : TextSign → Verdict
  | .alreadyApplied => ⟨.sentNoop, .sentNoop, none, none⟩
  | .expired => ⟨.expiredInteraction, .expiredInteraction, none, none⟩
  | .uneditable => ⟨.permanentUndeliverable, .permanentUndeliverable, job.nextRetryAt, none⟩
  | .malformed => ⟨.terminalFailed, .terminalFailed, job.nextRetryAt, none⟩

theorem verdict_retryAfterBackoff (reason reason' : String) :
    verdict (job.retryAfterBackoff policy now reason) =
      verdict (job.retryAfterBackoff policy now reason') := by
  unfold Job.retryAfterBackoff
  cases policy.backoff job.providerAttemptCount job.dedupeKey <;> rfl

theorem verdict_classifyTransport (hsuccess : codeWithin answer.code 200 299 = false)
    (hserver : codeWithin answer.code 500 599 = false) :
    verdict (classifyTransport policy job answer now) = transportVerdict policy job answer now := by
  unfold classifyTransport transportVerdict
  by_cases huncertain : sendUncertain job.method answer.phase answer.error = true
  · have hbranch := huncertain
    simp only [sendUncertain, Bool.and_eq_true, Bool.or_eq_true, decide_eq_true_eq] at hbranch
    rw [if_pos ⟨hbranch.1, hbranch.2.imp_right .inl⟩, if_pos huncertain]
    rfl
  · have hbranch := huncertain
    simp only [sendUncertain, Bool.and_eq_true, Bool.or_eq_true, decide_eq_true_eq] at hbranch
    rw [if_neg (by simpa [hsuccess, hserver] using hbranch), if_neg huncertain,
      if_neg (by simp [hsuccess])]
    by_cases hfailed : transportFailed answer.phase answer.error = true
    · have hbranch := hfailed
      simp only [transportFailed, Bool.or_eq_true, decide_eq_true_eq] at hbranch
      rw [if_pos (.inr (or_assoc.mp hbranch)), if_pos hfailed]
      exact verdict_retryAfterBackoff _ _
    · have hbranch := hfailed
      simp only [transportFailed, Bool.or_eq_true, decide_eq_true_eq, or_assoc] at hbranch
      rw [if_neg (by simpa [hserver] using hbranch), if_neg hfailed]
      split <;> rfl

theorem saysApplied_iff (method text : String) :
    saysApplied method text = true ↔
      (pyContains "message is not modified" text = true ∧ pyStartsWith "edit" method = true) ∨
        (method = "deleteMessage" ∧ (pyContains "message to delete not found" text = true ∨
          pyContains "message not found" text = true)) := by
  simp only [saysApplied, Bool.or_eq_true, Bool.and_eq_true, decide_eq_true_eq]

theorem verdict_of_saysApplied (hcode : answer.code = some 400)
    (happlied : saysApplied job.method answer.text = true) :
    verdict (classifyFailure policy job answer now) = ⟨.sentNoop, .sentNoop, none, none⟩ := by
  unfold classifyFailure
  by_cases hedit : pyContains "message is not modified" answer.text = true ∧
      pyStartsWith "edit" job.method = true
  · rw [if_pos ⟨hcode, hedit⟩]
    rfl
  · obtain happlied | hdelete := (saysApplied_iff _ _).mp happlied
    · exact absurd happlied hedit
    · rw [if_neg (fun h => hedit h.2), if_pos ⟨hcode, hdelete⟩]
      rfl

theorem classifyFailure_of_code (hcode : answer.code ≠ some 400)
    (hmigrated : answer.migrated = false) :
    classifyFailure policy job answer now =
      if answer.code = some 429 then job.rateLimited policy answer.retryAfter now
      else if answer.code = some 401 ∨ answer.code = some 409 then
        job.settle .blockedBot .botPaused "telegram_bot_blocked_or_conflicted"
      else if answer.code = some 403 then job.forbidden policy now
      else if answer.code = some 404 then
        if pyContains "method" answer.text ∨ pyContains "endpoint" answer.text then
          job.settle .blockedGateway .gatewayPaused "telegram_gateway_not_found"
        else
          job.settle .permanentUndeliverable .permanentUndeliverable "telegram_resource_not_found"
      else classifyTransport policy job answer now := by
  simp only [classifyFailure, hcode, hmigrated, false_and, and_false, if_false,
    Bool.false_eq_true]

theorem classifyFailure_badRequest (hcode : answer.code = some 400)
    (happlied : saysApplied job.method answer.text = false) (hmigrated : answer.migrated = false) :
    classifyFailure policy job answer now =
      if job.method = "answerCallbackQuery" ∧ containsAny callbackExpiredPatterns answer.text then
        job.settleDone .expiredInteraction .expiredInteraction "telegram_callback_query_expired"
      else if containsAny messageNotFoundPatterns answer.text then
        job.settle .permanentUndeliverable .permanentUndeliverable "telegram_message_uneditable"
      else if containsAny malformedPayloadPatterns answer.text then
        job.settle .terminalFailed .terminalFailed "telegram_malformed_payload"
      else classifyTransport policy job answer now := by
  rw [← Bool.not_eq_true, saysApplied_iff, not_or] at happlied
  rw [classifyFailure, if_neg (fun h => happlied.1 h.2), if_neg (fun h => happlied.2 h.2)]
  simp only [hcode, hmigrated, Option.some.injEq, Int.reduceEq, if_false, Bool.false_eq_true,
    or_self, true_and]

theorem verdict_badRequest (hcode : answer.code = some 400) (hmigrated : answer.migrated = false) :
    verdict (classifyFailure policy job answer now) =
      match textSign job.method answer.text with
      | some sign => signVerdict job sign
      | none => transportVerdict policy job answer now := by
  have hserver : codeWithin answer.code 500 599 = false := by rw [hcode]; decide
  have hsuccess : codeWithin answer.code 200 299 = false := by rw [hcode]; decide
  unfold textSign
  by_cases happlied : saysApplied job.method answer.text = true
  · rw [if_pos happlied, verdict_of_saysApplied hcode happlied]
    rfl
  · rw [if_neg happlied, classifyFailure_badRequest hcode (Bool.not_eq_true _ ▸ happlied) hmigrated,
      ← verdict_classifyTransport hsuccess hserver]
    split_ifs <;> rfl

theorem codeGroup_spec (code : Option Int) :
    match codeGroup code with
    | .badRequest => code = some 400
    | .rateLimited => code = some 429
    | .botBlocked => code = some 401 ∨ code = some 409
    | .forbidden => code = some 403
    | .notFound => code = some 404
    | .success => codeWithin code 200 299 = true
    | .serverError => codeWithin code 500 599 = true
    | .rest => code ∉ [some 400, some 429, some 401, some 409, some 403, some 404] ∧
        codeWithin code 200 299 = false ∧ codeWithin code 500 599 = false := by
  unfold codeGroup
  split_ifs with h400 h429 hbot h403 h404 hsuccess hserver
  all_goals first | assumption | skip
  rw [not_or] at hbot
  refine ⟨?_, Bool.eq_false_iff.mpr hsuccess, Bool.eq_false_iff.mpr hserver⟩
  simp only [List.mem_cons, List.mem_nil_iff, or_false, not_or]
  exact ⟨h400, h429, hbot.1, hbot.2, h403, h404⟩

theorem ne_of_codeWithin {code : Option Int} {lower upper n : Int}
    (hcode : codeWithin code lower upper = true) (hn : ¬ (lower ≤ n ∧ n ≤ upper)) :
    code ≠ some n := by
  rintro rfl
  simp only [codeWithin, Bool.and_eq_true, decide_eq_true_eq] at hcode
  exact hn hcode

def serverVerdict (policy : RetryPolicy) (job : Job) (now : Int) : Verdict :=
  if isSendMethod job.method then ⟨.ambiguous, .ambiguous, none, none⟩
  else verdict (job.retryAfterBackoff policy now "")

theorem verdict_of_server (hcode : codeWithin answer.code 200 299 = true ∨
      codeWithin answer.code 500 599 = true) :
    verdict (classifyTransport policy job answer now) = serverVerdict policy job now := by
  unfold classifyTransport serverVerdict
  by_cases hsend : isSendMethod job.method = true
  · rw [if_pos ⟨hsend, .inr (.inr hcode.symm)⟩, if_pos hsend]
    rfl
  · rw [if_neg (fun h => hsend h.1), if_neg hsend]
    by_cases hsuccess : codeWithin answer.code 200 299 = true
    · rw [if_pos hsuccess]
      exact verdict_retryAfterBackoff _ _
    · rw [if_neg hsuccess, if_pos (.inl (hcode.resolve_left hsuccess))]
      exact verdict_retryAfterBackoff _ _

theorem verdict_of_group (hmigrated : answer.migrated = false) :
    verdict (classifyFailure policy job answer now) =
      match codeGroup answer.code with
      | .badRequest =>
        (match textSign job.method answer.text with
          | some sign => signVerdict job sign
          | none => transportVerdict policy job answer now)
      | .rateLimited => verdict (job.rateLimited policy answer.retryAfter now)
      | .botBlocked => ⟨.blockedBot, .botPaused, job.nextRetryAt, none⟩
      | .forbidden => verdict (job.forbidden policy now)
      | .notFound =>
        if saysNoMethod answer.text then ⟨.blockedGateway, .gatewayPaused, job.nextRetryAt, none⟩
        else ⟨.permanentUndeliverable, .permanentUndeliverable, job.nextRetryAt, none⟩
      | .success | .serverError => serverVerdict policy job now
      | .rest => transportVerdict policy job answer now := by
  have hspec := codeGroup_spec answer.code
  cases hgroup : codeGroup answer.code <;> rw [hgroup] at hspec <;> dsimp only at hspec ⊢
  case badRequest => exact verdict_badRequest hspec hmigrated
  case rateLimited =>
    rw [classifyFailure_of_code (by simp [hspec]) hmigrated, if_pos hspec]
  case botBlocked =>
    have hcode : answer.code ≠ some 400 ∧ answer.code ≠ some 429 := by
      obtain hspec | hspec := hspec <;> simp [hspec]
    rw [classifyFailure_of_code hcode.1 hmigrated, if_neg hcode.2, if_pos hspec]
    rfl
  case forbidden =>
    rw [classifyFailure_of_code (by simp [hspec]) hmigrated, if_neg (by simp [hspec]),
      if_neg (by simp [hspec]), if_pos hspec]
  case notFound =>
    rw [classifyFailure_of_code (by simp [hspec]) hmigrated, if_neg (by simp [hspec]),
      if_neg (by simp [hspec]), if_neg (by simp [hspec]), if_pos hspec]
    simp only [saysNoMethod, Bool.or_eq_true]
    split_ifs <;> rfl
  case rest =>
    simp only [List.mem_cons, List.mem_nil_iff, or_false, not_or] at hspec
    obtain ⟨⟨h400, h429, h401, h409, h403, h404⟩, hsuccess, hserver⟩ := hspec
    rw [classifyFailure_of_code h400 hmigrated, if_neg h429, if_neg (not_or.mpr ⟨h401, h409⟩),
      if_neg h403, if_neg h404, verdict_classifyTransport hsuccess hserver]
  all_goals
    have hne : ∀ n ∈ [(400 : Int), 429, 401, 409, 403, 404], answer.code ≠ some n := by
      intro n hn
      apply ne_of_codeWithin hspec
      simp only [List.mem_cons, List.mem_nil_iff, or_false] at hn
      omega
    rw [classifyFailure_of_code (hne _ (by simp)) hmigrated, if_neg (hne _ (by simp)),
      if_neg (not_or.mpr ⟨hne _ (by simp), hne _ (by simp)⟩), if_neg (hne _ (by simp)),
      if_neg (hne _ (by simp))]
    exact verdict_of_server (by simp [hspec])

section Kept

variable {kept : Answer}

end Kept

end Classify

/-! ## The stored answer -/

section Stored

variable {policy : RetryPolicy} {job : Job} {result rebuilt : GatewayResult} {now : Int}

end Stored

/-- The delays of the defaults, without jitter, for a first attempt. -/
def firstAttempts : RetryPolicy where
  backoff := fun _ _ => some 1000000
  retryAfterSafety := some 100000
  destinationPause := 300000000

end TradingBot.Telegram
