import TradingBot.Sync.Item

/-!
# The contract of the delivery queue

The pure part of the Telegram delivery queue (src/core/telegram_delivery_queue_contract.py): the
states and outcomes of a job, and `apply_gateway_result`, which decides from the provider's answer
what becomes of a dispatched job.

Times and delays are whole microseconds. How long a retry waits is the `RetryPolicy`: the backoff is
a function of the attempt and the identity the jitter is drawn from.
-/

namespace TradingBot.Telegram

open Misc
open Sync (Value Payload)

/-- `TelegramDestinationClass` (line 57). -/
inductive DestinationClass where
  | private_
  | channel
  | admin
  deriving DecidableEq, Repr

/-- `TelegramDeliveryState` (line 119). -/
inductive DeliveryState where
  | pending
  | leased
  | pendingRetry
  | pendingReconcile
  | ambiguous
  | ambiguousUnresolved
  | sent
  | sentNoop
  | superseded
  | expiredInteraction
  | permanentUndeliverable
  | terminalFailed
  | quarantined
  | blockedDestination
  | blockedBot
  | blockedGateway
  deriving DecidableEq, Repr

/-- `FINAL_DELIVERY_STATES` (line 192). -/
def DeliveryState.isFinal (state : DeliveryState) : Bool :=
  state ∈ [.sent, .sentNoop, .superseded, .expiredInteraction, .permanentUndeliverable,
    .terminalFailed, .quarantined]

/-- `CLAIMABLE_DELIVERY_STATES` (line 201). -/
def DeliveryState.isClaimable (state : DeliveryState) : Bool :=
  state ∈ [.pending, .pendingRetry]

/-- `TelegramDeliveryOutcome` (line 138). -/
inductive DeliveryOutcome where
  | sent
  | sentNoop
  | retryPending
  | destinationPaused
  | botPaused
  | gatewayPaused
  | terminalFailed
  | permanentUndeliverable
  | quarantined
  | ambiguous
  | ambiguousUnresolved
  | superseded
  | expiredInteraction
  | alreadyResolved
  | staleLease
  deriving DecidableEq, Repr

/-- `TELEGRAM_NON_IDEMPOTENT_SEND_METHODS` (line 19). -/
def isSendMethod (method : String) : Bool := method ∈ ["sendMessage", "sendDocument"]

/-- What `apply_gateway_result` uses of `TelegramDeliveryJob` (line 398). -/
structure Job where
  dedupeKey : String
  destinationClass : DestinationClass
  method : String
  state : DeliveryState
  providerAttemptCount : Nat
  nextRetryAt : Option Int
  leaseUntil : Option Int
  workerId : Option String
  lastErrorClass : Option String
  lastErrorMessage : Option String
  telegramMessageId : Option Int
  deriving DecidableEq, Repr

/-- `TelegramDeliveryDecision` (line 441). -/
structure Decision where
  outcome : DeliveryOutcome
  reason : String
  nextRetryAt : Option Int := none
  destinationCooldownUntil : Option Int := none
  botCooldownUntil : Option Int := none
  deriving DecidableEq, Repr

/-- The provider's JSON mapping; `parameters` and `result` are there when they are mappings. -/
structure Body where
  fields : Payload := []
  parameters : Option Payload := none
  result : Option Payload := none
  deriving DecidableEq, Repr

/-- `TelegramGatewayResult` (telegram_gateway.py:40). -/
structure GatewayResult where
  ok : Bool
  method : String
  statusCode : Option Int := none
  responseText : String := ""
  responseJson : Option Body := none
  error : Option String := none
  transportPhase : Option String := none
  deriving DecidableEq, Repr

variable (policy : RetryPolicy) (result : GatewayResult)

namespace GatewayResult

/-- `response_json.get(key)`, and `None` where the answer is no mapping. -/
def field (key : String) : Value :=
  match result.responseJson with
  | some body => body.fields.get key
  | none => .null

/-- `message_id` (telegram_gateway.py:51). -/
def messageId : Option Int :=
  match result.responseJson.bind Body.result with
  | some message => (message.get "message_id").toInt
  | none => none

/-- The `parameters` of the answer, where they are a mapping. -/
def parameters (result : GatewayResult) : Option Payload := result.responseJson.bind Body.parameters

/-- `_status_code` (line 704). -/
def statusCodeOf : Option Int :=
  match (if result.field "ok" = .bool false then (result.field "error_code").toInt else none) with
  | some code => some code
  | none =>
    match result.statusCode with
    | some code => some code
    | none => (result.field "error_code").toInt

end GatewayResult

/-- `telegram_retry_after_integer` (line 691), as `_positive_int`
(telegram_delivery_queue_service.py:636). -/
def retryAfterInteger : Value → Option Int
  | .int n => if 0 < n ∧ n ≤ 2147483647 then some n else none
  | _ => none

namespace GatewayResult

def retryAfterSeconds : Option Int :=
  match result.parameters with
  | some parameters => retryAfterInteger (parameters.get "retry_after")
  | none => none

def hasMigrateToChatId : Bool :=
  match result.parameters with
  | some parameters => parameters.get "migrate_to_chat_id" ≠ .null
  | none => false

/-- `str(response_json.get(key) or "")`. -/
def shown (key : String) : String :=
  if (result.field key).truthy then (result.field key).str else ""

def errorText : String :=
  let parts := [result.responseText, result.error.getD ""]
  let parts := match result.responseJson with
    | some _ => parts ++ [result.shown "description", result.shown "message", result.shown "error"]
    | none => parts
  pyLower (pyStrip (joinWords parts))

/-- The success envelope: `response_json.get("ok") is True`. -/
def envelopeOk : Bool := result.field "ok" = .bool true

end GatewayResult

def ambiguousSendErrors : List String :=
  ["networkerror", "readerror", "readtimeout", "remoteprotocolerror", "timeouterror", "writeerror",
    "writetimeout"]

def safeRetryTransportErrors : List String := ["connecterror", "connecttimeout", "pooltimeout"]

def malformedPayloadPatterns : List String :=
  ["can't parse entities", "message is too long", "message text is empty", "parse mode",
    "text must be non-empty"]

def messageNotFoundPatterns : List String :=
  ["message to edit not found", "message can't be edited", "message cannot be edited"]

def callbackExpiredPatterns : List String :=
  ["query is too old", "response timeout expired", "query id is invalid"]

/-- `any(pattern in text for pattern in patterns)`. -/
def containsAny (patterns : List String) (text : String) : Bool :=
  patterns.any fun pattern => pyContains pattern text

/-- The backoff of an attempt (`_bounded_backoff_seconds`; `none` where it raises `ValueError`), the
safety margin of a rate limit (`none` where refused) and the pause of a destination. -/
structure RetryPolicy where
  backoff : Nat → String → Option Int
  retryAfterSafety : Option Int
  destinationPause : Int

/-- `datetime.max`. -/
def datetimeMax : Int := 253402300799999999

def safeRetryAt (now delay : Int) : Int := min (now + delay) datetimeMax

def Job.clearLease (job : Job) : Job := { job with workerId := none, leaseUntil := none }

structure Answer where
  code : Option Int
  text : String
  error : String
  phase : String
  migrated : Bool
  retryAfter : Option Int
  deriving DecidableEq, Repr

/-- The facts of an answer, in the form `apply_gateway_result` compares them. -/
def GatewayResult.answer : Answer where
  code := result.statusCodeOf
  text := result.errorText
  error := pyLower (pyStrip (result.error.getD ""))
  phase := pyLower (pyStrip (result.transportPhase.getD ""))
  migrated := result.hasMigrateToChatId
  retryAfter := result.retryAfterSeconds

/-- `lower <= code <= upper` of a code that is there. -/
def codeWithin (code : Option Int) (lower upper : Int) : Bool :=
  match code with
  | some n => lower ≤ n && n ≤ upper
  | none => false

namespace Job

def settle (job : Job) (state : DeliveryState) (outcome : DeliveryOutcome) (reason : String) :
    Job × Decision :=
  ({ job with state := state }, { outcome, reason })

/-- As `settle`, with the retry time cleared. -/
def settleDone (job : Job) (state : DeliveryState) (outcome : DeliveryOutcome) (reason : String) :
    Job × Decision :=
  { job with nextRetryAt := none }.settle state outcome reason

def retryAt (job : Job) (at_ : Int) (reason : String) : Job × Decision :=
  ({ job with state := .pendingRetry, nextRetryAt := some at_ },
    { outcome := .retryPending, reason, nextRetryAt := some at_ })

def retryAfterBackoff (job : Job) (now : Int) (reason : String) :
    Job × Decision :=
  match policy.backoff job.providerAttemptCount job.dedupeKey with
  | some delay => job.retryAt (safeRetryAt now delay) reason
  | none => job.settle .quarantined .quarantined "telegram_retry_config_invalid"

/-- The delay the provider named, else the backoff, plus the safety margin; `none` where refused. -/
def rateLimitDelay (job : Job) (retryAfter : Option Int) : Option Int := do
  let delay ← match retryAfter with
    | some seconds => some (seconds * 1000000)
    | none => policy.backoff job.providerAttemptCount job.dedupeKey
  let safety ← policy.retryAfterSafety
  return delay + safety

def rateLimited (job : Job) (retryAfter : Option Int) (now : Int) :
    Job × Decision :=
  match job.rateLimitDelay policy retryAfter with
  | some delay =>
    let at_ := safeRetryAt now delay
    ({ job with state := .pendingRetry, nextRetryAt := some at_ },
      { outcome := .retryPending, reason := "telegram_rate_limited", nextRetryAt := some at_,
        destinationCooldownUntil := some at_ })
  | none => job.settle .quarantined .quarantined "telegram_retry_config_invalid"

def forbidden (job : Job) (now : Int) : Job × Decision :=
  if job.destinationClass = .private_ then
    job.settle .permanentUndeliverable .permanentUndeliverable
      "telegram_private_destination_forbidden"
  else
    let pauseUntil := now + max 1000000 policy.destinationPause
    ({ job with state := .blockedDestination, nextRetryAt := some pauseUntil },
      { outcome := .destinationPaused, reason := "telegram_destination_forbidden",
        nextRetryAt := some pauseUntil, destinationCooldownUntil := some pauseUntil })

end Job

/-- `apply_gateway_result` (lines 983-1055): how far the call came decides, unless the code says
that the provider failed or succeeded. -/
def classifyTransport (job : Job) (answer : Answer) (now : Int) :
    Job × Decision :=
  if isSendMethod job.method ∧ (answer.phase = "write_unknown" ∨
      answer.error ∈ ambiguousSendErrors ∨ codeWithin answer.code 500 599 ∨
      codeWithin answer.code 200 299) then
    job.settleDone .ambiguous .ambiguous "telegram_send_result_ambiguous"
  else if codeWithin answer.code 200 299 then
    job.retryAfterBackoff policy now "telegram_success_envelope_invalid"
  else if codeWithin answer.code 500 599 ∨ answer.phase ∈ ["pre_write", "write_unknown"] ∨
      answer.error ∈ safeRetryTransportErrors ∨ answer.error ∈ ambiguousSendErrors then
    job.retryAfterBackoff policy now "telegram_temporary_failure"
  else if codeWithin answer.code 400 499 then
    job.settle .quarantined .quarantined "telegram_unknown_client_error"
  else
    job.settle .quarantined .quarantined "telegram_unclassified_response"

/-- `apply_gateway_result` after the success envelope (lines 852-1055). -/
def classifyFailure (job : Job) (answer : Answer) (now : Int) :
    Job × Decision :=
  if answer.code = some 400 ∧ pyContains "message is not modified" answer.text ∧
      pyStartsWith "edit" job.method then
    job.settleDone .sentNoop .sentNoop "telegram_edit_already_applied"
  else if answer.code = some 400 ∧ job.method = "deleteMessage" ∧
      (pyContains "message to delete not found" answer.text ∨
        pyContains "message not found" answer.text) then
    job.settleDone .sentNoop .sentNoop "telegram_delete_already_applied"
  else if answer.migrated then
    job.settle .blockedDestination .destinationPaused "telegram_destination_migrated"
  else if answer.code = some 429 then
    job.rateLimited policy answer.retryAfter now
  else if answer.code = some 401 ∨ answer.code = some 409 then
    job.settle .blockedBot .botPaused "telegram_bot_blocked_or_conflicted"
  else if answer.code = some 403 then
    job.forbidden policy now
  else if answer.code = some 404 then
    if pyContains "method" answer.text ∨ pyContains "endpoint" answer.text then
      job.settle .blockedGateway .gatewayPaused "telegram_gateway_not_found"
    else
      job.settle .permanentUndeliverable .permanentUndeliverable "telegram_resource_not_found"
  else if job.method = "answerCallbackQuery" ∧ answer.code = some 400 ∧
      containsAny callbackExpiredPatterns answer.text then
    job.settleDone .expiredInteraction .expiredInteraction "telegram_callback_query_expired"
  else if answer.code = some 400 ∧ containsAny messageNotFoundPatterns answer.text then
    job.settle .permanentUndeliverable .permanentUndeliverable "telegram_message_uneditable"
  else if answer.code = some 400 ∧ containsAny malformedPayloadPatterns answer.text then
    job.settle .terminalFailed .terminalFailed "telegram_malformed_payload"
  else
    classifyTransport policy job answer now

/-- `str(result.error or (f"HTTP\x7bcode\x7d" if code is not None else "TelegramUnknownError"))`. -/
def errorClass : String :=
  match result.error with
  | some error => if error ≠ "" then error else codeClass
  | none => codeClass
where
  codeClass : String :=
    match result.statusCodeOf with
    | some code => "HTTP" ++ toString code
    | none => "TelegramUnknownError"

/-- `text or None`. -/
def nonemptyOrNone (text : String) : Option String := if text = "" then none else some text

def applyGatewayResult (job : Job) (result : GatewayResult) (now : Int) :
    Job × Decision :=
  if job.state.isFinal then
    (job, { outcome := .alreadyResolved, reason := "already_resolved" })
  else if result.method ≠ "" ∧ result.method ≠ job.method then
    job.clearLease.settle .quarantined .quarantined "telegram_method_mismatch"
  else if result.ok ∧ result.envelopeOk then
    if isSendMethod job.method ∧ result.messageId = none then
      job.clearLease.settle .ambiguous .ambiguous "telegram_send_success_without_message_id"
    else
      { job.clearLease with
        nextRetryAt := none
        lastErrorClass := none
        lastErrorMessage := none
        telegramMessageId := result.messageId }.settle .sent .sent "sent"
  else
    classifyFailure policy
      { job.clearLease with
        lastErrorClass := some (errorClass result)
        lastErrorMessage := nonemptyOrNone (pyTake 500 result.errorText) }
      result.answer now

end TradingBot.Telegram
