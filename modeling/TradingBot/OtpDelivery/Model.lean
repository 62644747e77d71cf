import TradingBot.Misc.Expiring
import TradingBot.Misc.Run

/-!
# Delivery of a login code

The Redis state machine of `src/core/services/otp_delivery_state_service.py`. A request is spread
over the code and its limit under the mobile number, the hash of the request, the key that names the
number's current request, and the due set of the SMS fallback. A Lua script is one step,
`cancel_otp_delivery` one for each command; a process that crashes takes no further step.

Instants of workers are microseconds, those of Redis milliseconds. The digest of a mobile number
stands for it. Drawn request and claim ids are new.
-/

namespace TradingBot.OtpDelivery

open TradingBot.Misc

/-- `OTPRequestStatus`. -/
inductive OTPRequestStatus where
  | pending
  | consumed
  | expired
  deriving DecidableEq, Repr

/-- `OTPDeliveryStatus`. -/
inductive OTPDeliveryStatus where
  | notAttempted
  | pending
  | accepted
  | failed
  | ambiguous
  | cancelled
  deriving DecidableEq, Repr

/-- The part of `OTPDeliveryStateContract` that is written with the request and stays. -/
structure Contract where
  otpRequestId : Nat
  mobile : String
  createdAt : Int
  expiresAt : Int
  deriving DecidableEq, Repr

/-- The hash of a request; a field that is missing or empty is `none`. -/
structure RequestHash where
  contract : Option Contract := none
  status : OTPRequestStatus
  telegramDeliveryStatus : Option OTPDeliveryStatus := none
  telegramSentAt : Option Int := none
  smsFallbackAt : Option Int := none
  smsDeliveryStatus : Option OTPDeliveryStatus := none
  smsSentAt : Option Int := none
  smsClaimId : Option Nat := none
  smsClaimedAt : Option Int := none
  smsClaimLeaseUntil : Option Int := none
  smsProviderStartedAt : Option Int := none
  terminalReason : Option String := none
  deriving DecidableEq, Repr

/-- The code under a mobile number; no script sees `request`, the request it was stored for. -/
structure StoredCode where
  code : String
  request : Nat
  deriving DecidableEq, Repr

/-- `OTPDeliveryClaim`. -/
structure OTPDeliveryClaim where
  claimId : Nat
  requestId : Nat
  mobileNumber : String
  otpCode : String
  leaseUntil : Int
  deriving DecidableEq, Repr

structure Issue where
  requestId : Nat
  mobile : String
  code : String
  deriving DecidableEq, Repr

/-- The next command of `cancel_otp_delivery`. -/
inductive CancelStage where
  | readKey
  | readHash (requestId : Nat)
  | deleteKeys (loaded : Option Nat)
  | writeStatus (requestId : Nat)
  | removeDue (requestId : Nat)
  | done
  deriving DecidableEq, Repr

structure Cancel where
  mobile : String
  stage : CancelStage
  deriving DecidableEq, Repr

/-- Redis, what the processes hold, and the history: the issued codes, the claims past the mark, the
consumed and the cancelled requests. -/
structure System where
  now : Nat
  codes : Keys String StoredCode
  limits : Keys String Unit
  requests : Keys Nat RequestHash
  current : Keys String Nat
  due : Nat → Option Int
  contracts : List Contract
  claims : List OTPDeliveryClaim
  cancels : Nat → Option Cancel
  nextRequest : Nat
  nextClaim : Nat
  issued : List Issue
  started : List (Nat × Nat)
  consumed : List Nat
  cancelled : List Nat

def System.empty : System where
  now := 0
  codes := fun _ => none
  limits := fun _ => none
  requests := fun _ => none
  current := fun _ => none
  due := fun _ => none
  contracts := []
  claims := []
  cancels := fun _ => none
  nextRequest := 0
  nextClaim := 0
  issued := []
  started := []
  consumed := []
  cancelled := []

variable (s : System) (requestId : Nat)

namespace System

def hash? : Option RequestHash := s.requests.get s.now requestId

/-- `hset` of a hash that is there. -/
def writeHash (write : RequestHash → RequestHash) : System :=
  { s with requests := s.requests.modify requestId write }

/-- `zadd` of the due set. -/
def addDue (score : Int) : System :=
  { s with due := Function.update s.due requestId (some score) }

/-- `zrem` of the due set. -/
def removeDue : System :=
  { s with due := Function.update s.due requestId none }

def addClaim (claim : OTPDeliveryClaim) : System :=
  { s with
    nextClaim := s.nextClaim + 1
    claims := s.claims ++ [claim] }

def addStarted (requestId claimId : Nat) : System :=
  { s with started := s.started ++ [(requestId, claimId)] }

/-! A read of a hash sees the writes of hashes only. -/

@[simp] theorem hash?_addDue (requestId id : Nat) (score : Int) :
    (s.addDue requestId score).hash? id = s.hash? id := rfl

@[simp] theorem hash?_removeDue (requestId id : Nat) :
    (s.removeDue requestId).hash? id = s.hash? id := rfl

@[simp] theorem hash?_addClaim (claim : OTPDeliveryClaim) (id : Nat) :
    (s.addClaim claim).hash? id = s.hash? id := rfl

@[simp] theorem hash?_addStarted (requestId claimId id : Nat) :
    (s.addStarted requestId claimId).hash? id = s.hash? id := rfl

end System

/-- The contract `build_otp_delivery_state` builds (line 123). -/
def buildContract (mobile : String) (ttlSeconds createdAt : Int) : Contract where
  otpRequestId := s.nextRequest
  mobile := mobile
  createdAt := createdAt
  expiresAt := createdAt + max 1 ttlSeconds * 1000000

/-- `create_otp_delivery_state` with `_CREATE_SCRIPT` (line 145): nothing is stored while the number
has a code or a limit. -/
def createOtpDeliveryState (mobile otpCode : String) (ttlSeconds createdAt : Int) :
    System :=
  let contract := buildContract s mobile ttlSeconds createdAt
  let built := { s with
    nextRequest := s.nextRequest + 1
    contracts := s.contracts ++ [contract] }
  if (s.codes.get s.now mobile).isSome || (s.limits.get s.now mobile).isSome then built
  else
    let expiresAt := some (s.now + (max 1 ttlSeconds).toNat * 1000)
    { built with
      codes := s.codes.set mobile ⟨otpCode, s.nextRequest⟩ expiresAt
      limits := s.limits.set mobile () expiresAt
      requests := s.requests.set s.nextRequest
        { contract := some contract
          status := .pending
          telegramDeliveryStatus := some .notAttempted
          smsDeliveryStatus := some .notAttempted } expiresAt
      current := s.current.set mobile s.nextRequest expiresAt
      issued := s.issued ++ [⟨s.nextRequest, mobile, otpCode⟩] }

/-- `load_otp_delivery_state` (line 206) of a worker; a hash without the contract's fields raises. -/
def loadContract : System :=
  match (s.hash? requestId).bind (·.contract) with
  | none => s
  | some contract => { s with contracts := s.contracts ++ [contract] }

/-! ## The SMS fallback -/

/-- `_ARM_FALLBACK_SCRIPT` (line 249). -/
def armSmsFallback (recoveryAt : Int) : System :=
  match s.hash? requestId with
  | none => s
  | some hash =>
    if hash.status ≠ .pending then s
    else if hash.telegramDeliveryStatus ≠ some .notAttempted then s
    else
      (s.writeHash requestId fun hash =>
        { hash with
          telegramDeliveryStatus := some .pending
          smsFallbackAt := some recoveryAt }).addDue requestId recoveryAt

/-- `_SCHEDULE_SCRIPT` (line 281). -/
def scheduleSmsFallback (sentAt fallbackAt : Int) : System :=
  match s.hash? requestId with
  | none => s
  | some hash =>
    if hash.status ≠ .pending then s
    else if hash.telegramDeliveryStatus ≠ some .notAttempted ∧
        hash.telegramDeliveryStatus ≠ some .pending then s
    else
      (s.writeHash requestId fun hash =>
        { hash with
          telegramDeliveryStatus := some .accepted
          telegramSentAt := some sentAt
          smsFallbackAt := some fallbackAt }).addDue requestId fallbackAt

inductive ClaimGate where
  /-- Another claim has its lease. -/
  | claimed
  /-- The lease ran out in the middle of a provider attempt. -/
  | ambiguous
  | finished
  | free
  deriving DecidableEq, Repr

/-- The second part of `_CLAIM_SCRIPT` (line 327). -/
def claimGate (hash : RequestHash) (score : Option Int) (claimedAt : Int) : ClaimGate :=
  if hash.smsDeliveryStatus = some .pending then
    if hash.smsClaimLeaseUntil.any (claimedAt < ·) then .claimed
    else if score.any (claimedAt < ·) then .claimed
    else if hash.smsProviderStartedAt.isSome then .ambiguous
    else .free
  else if hash.smsDeliveryStatus ≠ some .notAttempted then .finished
  else .free

/-- `OTP_SMS_MINIMUM_SEND_TTL_SECONDS`. -/
def minimumSendTtlSeconds : Int := 15

/-- `TTL` of a key that is there: its seconds, rounded, or -1 without an expiry. -/
def ttlSeconds (stored : Stored StoredCode) (now : Nat) : Int :=
  match stored.expiresAt with
  | none => -1
  | some expiresAt => ((expiresAt - now + 500) / 1000 : Nat)

def grantClaim (contract : Contract) (code : String) (claimedAt leaseUntil : Int) :
    System :=
  ((s.writeHash contract.otpRequestId fun hash =>
    { hash with
      smsDeliveryStatus := some .pending
      smsClaimId := some s.nextClaim
      smsClaimedAt := some claimedAt
      smsClaimLeaseUntil := some leaseUntil
      smsProviderStartedAt := none }).addDue contract.otpRequestId leaseUntil).addClaim
    { claimId := s.nextClaim
      requestId := contract.otpRequestId
      mobileNumber := contract.mobile
      otpCode := code
      leaseUntil := leaseUntil }

/-- `claim_sms_delivery` with `_CLAIM_SCRIPT` (line 323). -/
def claimSmsDelivery (contract : Contract) (requireDue : Bool)
    (claimedAt leaseSeconds : Int) : System :=
  let requestId := contract.otpRequestId
  if contract ∉ s.contracts then s
  else
    match s.hash? requestId with
    | none => s.removeDue requestId
    | some hash =>
      if hash.status ≠ .pending then s.removeDue requestId
      else
        match claimGate hash (s.due requestId) claimedAt with
        | .claimed => s
        | .ambiguous =>
          (s.writeHash requestId fun hash =>
            { hash with
              smsDeliveryStatus := some .ambiguous
              smsSentAt := some claimedAt }).removeDue requestId
        | .finished => s.removeDue requestId
        | .free =>
          match s.codes.entry s.now contract.mobile with
          | none =>
            (s.writeHash requestId fun hash =>
              { hash with status := .expired }).removeDue requestId
          | some stored =>
            if 0 ≤ ttlSeconds stored s.now ∧ ttlSeconds stored s.now < minimumSendTtlSeconds then
              (s.writeHash requestId fun hash =>
                { hash with smsDeliveryStatus := some .cancelled }).removeDue requestId
            else if requireDue ∧ ¬ (s.due requestId).any (· ≤ claimedAt) then s
            else
              grantClaim s contract stored.value.code claimedAt
                (claimedAt + max 1 leaseSeconds * 1000000)

def claimOf (claimId : Nat) : Option OTPDeliveryClaim :=
  s.claims.find? (·.claimId = claimId)

/-- `mark_sms_provider_attempt_started` (line 417). -/
def markProviderStarted (claimId : Nat) (startedAt : Int) : System :=
  match claimOf s claimId with
  | none => s
  | some claim =>
    match s.hash? claim.requestId with
    | none => s
    | some hash =>
      if hash.status ≠ .pending then s
      else if hash.smsDeliveryStatus ≠ some .pending then s
      else if hash.smsClaimId ≠ some claimId then s
      else
        (s.writeHash claim.requestId fun hash =>
          { hash with smsProviderStartedAt := some startedAt }).addStarted claim.requestId claimId

/-- `record_sms_delivery_result` (line 444); other outcomes raise. -/
def recordSmsResult (claimId : Nat) (outcome : OTPDeliveryStatus) (completedAt : Int) : System :=
  match claimOf s claimId with
  | none => s
  | some claim =>
    if outcome ≠ .accepted ∧ outcome ≠ .failed ∧ outcome ≠ .ambiguous then s
    else
      match s.hash? claim.requestId with
      | none => s
      | some hash =>
        if hash.smsDeliveryStatus ≠ some .pending then s
        else if hash.smsClaimId ≠ some claimId then s
        else
          (s.writeHash claim.requestId fun hash =>
            { hash with
              smsDeliveryStatus := some outcome
              smsSentAt := some completedAt }).removeDue claim.requestId

/-- `_ISOLATE_FALLBACK_STATE_SCRIPT` (line 482). -/
def isolateFallbackState (reason : String) : System :=
  match s.hash? requestId with
  | none => s.removeDue requestId
  | some hash =>
    if hash.status = .pending then
      (s.writeHash requestId fun hash =>
        { hash with status := .expired, terminalReason := some reason }).removeDue requestId
    else s.removeDue requestId

/-- `_CONSUME_SCRIPT` after the deletions: the request the number named is no longer pending. -/
def consumeRequest : Option Nat → System
  | none => s
  | some requestId =>
    match s.hash? requestId with
    | none => s.removeDue requestId
    | some hash =>
      if hash.status = .pending then
        (s.writeHash requestId fun hash => { hash with status := .consumed }).removeDue requestId
      else s.removeDue requestId

/-- `del` of the code, the limit and the name of the current request. -/
def deleteKeys (mobile : String) : System :=
  { s with
    codes := s.codes.del mobile
    limits := s.limits.del mobile
    current := s.current.del mobile }

/-- `consume_otp_code` with `_CONSUME_SCRIPT` (line 599). -/
def consumeOtpCode (mobile expectedCode : String) : System :=
  match s.codes.get s.now mobile with
  | none => s
  | some stored =>
    if stored.code ≠ expectedCode then s
    else
      { consumeRequest (deleteKeys s mobile) (s.current.get s.now mobile) with
        consumed := s.consumed ++ [stored.request] }

/-- `hset` of the status alone: a hash that is gone comes back with this field only. -/
def writeExpired : System :=
  match s.hash? requestId with
  | some _ => s.writeHash requestId fun hash => { hash with status := .expired }
  | none => { s with requests := s.requests.set requestId { status := .expired } none }

def beginCancel (number : Nat) (mobile : String) : System :=
  if s.cancels number = none then
    { s with cancels := Function.update s.cancels number (some ⟨mobile, .readKey⟩) }
  else s

def setCancel (number : Nat) (cancel : Cancel) (stage : CancelStage) : System :=
  { s with cancels := Function.update s.cancels number (some { cancel with stage := stage }) }

/-- The next command of `cancel_otp_delivery` (line 634). -/
def cancelStep (number : Nat) : System :=
  match s.cancels number with
  | none => s
  | some cancel =>
    match cancel.stage with
    | .readKey =>
      match s.current.get s.now cancel.mobile with
      | none => setCancel s number cancel (.deleteKeys none)
      | some requestId => setCancel s number cancel (.readHash requestId)
    | .readHash requestId =>
      match s.hash? requestId with
      | none => setCancel s number cancel (.deleteKeys none)
      | some hash =>
        match hash.contract with
        | none => setCancel s number cancel .done
        | some contract => setCancel s number cancel (.deleteKeys (some contract.otpRequestId))
    | .deleteKeys loaded =>
      setCancel (deleteKeys s cancel.mobile) number cancel
        (match loaded with
          | none => .done
          | some requestId => .writeStatus requestId)
    | .writeStatus requestId =>
      { setCancel (writeExpired s requestId) number cancel (.removeDue requestId) with
        cancelled := s.cancelled ++ [requestId] }
    | .removeDue requestId => setCancel (s.removeDue requestId) number cancel .done
    | .done => s

inductive Operation where
  | tick (milliseconds : Nat)
  | create (mobile otpCode : String) (ttlSeconds createdAt : Int)
  | load (requestId : Nat)
  | arm (requestId : Nat) (recoveryAt : Int)
  | schedule (requestId : Nat) (sentAt fallbackAt : Int)
  | claim (contract : Contract) (requireDue : Bool) (claimedAt leaseSeconds : Int)
  | markStarted (claimId : Nat) (startedAt : Int)
  | record (claimId : Nat) (outcome : OTPDeliveryStatus) (completedAt : Int)
  | isolate (requestId : Nat) (reason : String)
  /-- `select_due_otp_requests` drops an entry. -/
  | dropDue (requestId : Nat)
  | consume (mobile expectedCode : String)
  | beginCancel (number : Nat) (mobile : String)
  | cancelStep (number : Nat)
  deriving DecidableEq, Repr

def step (s : System) : Operation → System
  | .tick milliseconds => { s with now := s.now + milliseconds }
  | .create mobile otpCode ttlSeconds createdAt =>
    createOtpDeliveryState s mobile otpCode ttlSeconds createdAt
  | .load requestId => loadContract s requestId
  | .arm requestId recoveryAt => armSmsFallback s requestId recoveryAt
  | .schedule requestId sentAt fallbackAt => scheduleSmsFallback s requestId sentAt fallbackAt
  | .claim contract requireDue claimedAt leaseSeconds =>
    claimSmsDelivery s contract requireDue claimedAt leaseSeconds
  | .markStarted claimId startedAt => markProviderStarted s claimId startedAt
  | .record claimId outcome completedAt => recordSmsResult s claimId outcome completedAt
  | .isolate requestId reason => isolateFallbackState s requestId reason
  | .dropDue requestId => s.removeDue requestId
  | .consume mobile expectedCode => consumeOtpCode s mobile expectedCode
  | .beginCancel number mobile => beginCancel s number mobile
  | .cancelStep number => cancelStep s number

end TradingBot.OtpDelivery
