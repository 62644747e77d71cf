import TradingBot.Telegram.Contract

/-!
# Stored provider answers

Before the provider's answer is applied to its job, its facts are stored as a row
(`record_telegram_delivery_provider_outcome`, src/core/services/telegram_delivery_queue_service.py),
and what is applied is the answer rebuilt from that row. The row keeps the codes when they are
integers, the description cut to one line of 500 characters and the name of the error cut to 120;
the text of the response and the rest of its body are dropped.
-/

namespace TradingBot.Telegram

open Misc
open Sync (Value Payload)

/-- `TelegramDeliveryProviderOutcomeRecord` (src/models/telegram_delivery_provider_outcome.py:33). -/
structure ProviderFacts where
  gatewayOk : Bool
  method : String
  transportPhase : Option String
  providerStatusCode : Option Int
  providerResponse : Option Body
  providerErrorClass : Option String
  telegramMessageId : Option Int
  retryAfterSeconds : Option Int
  deriving DecidableEq, Repr

/-- An entry of the body whose value is a `bool` or an `int`. -/
def keptNumber (body : Body) (key : String) : Payload :=
  match body.fields.lookup key with
  | some (.bool value) => [(key, .bool value)]
  | some (.int value) => [(key, .int value)]
  | _ => []

def keptDescription (body : Body) : Payload :=
  let description := body.fields.get "description"
  if description.truthy then
    [("description", .text (pyTake 500 (joinWords (pySplit description.str))))]
  else []

def safeParameters (parameters : Payload) : Payload :=
  (match retryAfterInteger (parameters.get "retry_after") with
    | some seconds => [("retry_after", .int seconds)]
    | none => []) ++
  (if parameters.get "migrate_to_chat_id" ≠ .null then
    [("migrate_to_chat_id", .text "redacted")]
  else [])

/-- `mapping or None`. -/
def nonemptyPayload (data : Payload) : Option Payload := if data = [] then none else some data

def sanitizedProviderResponse (result : GatewayResult) : Option Body :=
  match result.responseJson with
  | none => none
  | some body =>
    let sanitized : Body :=
      { fields := keptNumber body "ok" ++ keptNumber body "error_code" ++ keptDescription body
        parameters := body.parameters.bind fun parameters =>
          nonemptyPayload (safeParameters parameters)
        result := result.messageId.map fun id => [("message_id", .int id)] }
    if sanitized = {} then none else some sanitized

def providerOutcomeFacts (result : GatewayResult) : Option ProviderFacts :=
  let phase := nonemptyOrNone (pyLower (pyStrip (result.transportPhase.getD "")))
  if phase ∈ [none, some "pre_write", some "write_unknown", some "response_received"] then
    some
      { gatewayOk := result.ok
        method := result.method
        transportPhase := phase
        providerStatusCode := result.statusCode
        providerResponse := sanitizedProviderResponse result
        providerErrorClass := nonemptyOrNone (pyTake 120 (result.error.getD ""))
        telegramMessageId := result.messageId
        retryAfterSeconds := result.retryAfterSeconds }
  else none

def providerOutcomeToGatewayResult (outcome : ProviderFacts) : GatewayResult where
  ok := outcome.gatewayOk
  method := outcome.method
  statusCode := outcome.providerStatusCode
  responseJson := outcome.providerResponse
  responseText := match outcome.providerResponse with
    | some body =>
      if (body.fields.get "description").truthy then (body.fields.get "description").str else ""
    | none => ""
  error := outcome.providerErrorClass
  transportPhase := outcome.transportPhase

end TradingBot.Telegram
