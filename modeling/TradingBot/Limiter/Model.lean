import TradingBot.Misc.Expiring
import TradingBot.Misc.Run

/-!
# The Redis limiter of the Telegram queue

The scripts of `src/core/telegram_delivery_queue_limiter.py`, each one step on the keys of bots and
destinations. Times are milliseconds of the Redis clock; the digests of destinations and jobs stand
for them. A hash entry of the recent 429 answers is its two numbers, which `tostring` prints exactly
up to 14 digits.

Admissions, recorded 429 answers, bot-wide cooldowns and probes not yet observed are the history the
properties speak about; no script reads them.
-/

namespace TradingBot.Limiter

open TradingBot.Misc

/-- `RedisTelegramDeliveryLimiter`'s settings in milliseconds, `int(float(value) * 1000)`. -/
structure Settings where
  botMinInterval : Nat
  destinationMinInterval : Nat
  rateLimitProbeDelay : Nat
  globalRateLimitWindow : Nat
  rateLimitProbeLease : Nat
  keyTtlSeconds : Nat
  deriving DecidableEq, Repr

variable (settings : Settings) (s : LimiterState)

namespace Settings

def ttlMs : Nat :=
  max 1000 (max (settings.keyTtlSeconds * 1000)
    (max settings.botMinInterval (max settings.destinationMinInterval
      (max settings.rateLimitProbeDelay
        (max settings.globalRateLimitWindow settings.rateLimitProbeLease))) + 60000))

def botInterval : Nat := max 1 settings.botMinInterval
def destinationInterval : Nat := max 1 settings.destinationMinInterval
def probeDelay : Nat := max 1 settings.rateLimitProbeDelay
def window : Nat := max 1 settings.globalRateLimitWindow
def probeLease : Nat := max 1 settings.rateLimitProbeLease

end Settings

structure RecentLimit where
  destination : String
  seenAt : Nat
  retryUntil : Int
  deriving DecidableEq, Repr

structure Admission where
  bot : String
  destination : String
  job : String
  time : Nat
  isProbe : Bool
  deriving DecidableEq, Repr

structure RecordedLimit where
  bot : String
  destination : String
  time : Nat
  retryUntil : Int
  deriving DecidableEq, Repr

structure BotCooldown where
  bot : String
  blockedUntil : Int
  deriving DecidableEq, Repr

structure Probe where
  bot : String
  job : String
  leaseUntil : Nat
  deriving DecidableEq, Repr

/-- The keys of the limiter with the Redis clock, and the history. -/
structure LimiterState where
  now : Nat
  botNext : Keys String Int
  destinationNext : Keys String Int
  botBlock : String → Bool
  destinationBlock : String → String → Bool
  gatewayBlock : Bool
  recent429 : Keys String (List RecentLimit)
  probeRequired : Keys String Unit
  probeInflight : Keys String String
  admissions : List Admission
  limits : List RecordedLimit
  cooldowns : List BotCooldown
  probes : List Probe

def LimiterState.empty (now : Nat) : LimiterState where
  now := now
  botNext := fun _ => none
  destinationNext := fun _ => none
  botBlock := fun _ => false
  destinationBlock := fun _ _ => false
  gatewayBlock := false
  recent429 := fun _ => none
  probeRequired := fun _ => none
  probeInflight := fun _ => none
  admissions := []
  limits := []
  cooldowns := []
  probes := []

inductive WaitReason where
  | botLane
  | destinationGate
  | botProbeInflight
  deriving DecidableEq, Repr

inductive BlockReason where
  | botLane
  | destinationGate
  | circuit
  deriving DecidableEq, Repr

/-- The answer of `_ADMIT_SCRIPT`. -/
inductive Answer where
  | blocked (reason : BlockReason)
  | wait (notBefore : Int) (reason : WaitReason)
  | allowed
  | probe
  deriving DecidableEq, Repr

/-- `PTTL` of a key that is there. -/
def pttl (stored : Stored String) (now : Nat) : Int :=
  match stored.expiresAt with
  | none => -1
  | some expiresAt => (expiresAt : Int) - now

/-- The last part of `_ADMIT_SCRIPT`: the pacing of the bot and of the destination. -/
def admitPaced (bot destination job : String) :
    LimiterState × Answer :=
  let botNext := (s.botNext.get s.now bot).getD 0
  let destinationNext := (s.destinationNext.get s.now destination).getD 0
  let notBefore := max botNext destinationNext
  if (s.now : Int) < notBefore then
    (s, .wait notBefore (if botNext ≤ destinationNext then .destinationGate else .botLane))
  else
    let isProbe := (s.probeRequired.get s.now bot).isSome
    let expiresAt := some (s.now + settings.ttlMs)
    let paced : LimiterState := { s with
      botNext := s.botNext.set bot (s.now + settings.botInterval : Nat) expiresAt
      destinationNext := s.destinationNext.set destination
        (s.now + settings.destinationInterval : Nat) expiresAt
      admissions := s.admissions ++ [⟨bot, destination, job, s.now, isProbe⟩] }
    if isProbe then
      ({ paced with
          probeInflight := s.probeInflight.set bot job (some (s.now + settings.probeLease))
          probes := s.probes ++ [⟨bot, job, s.now + settings.probeLease⟩] }, .probe)
    else (paced, .allowed)

/-- Line 19, as `acquire` calls it. -/
def admitScript (bot destination job : String) :
    LimiterState × Answer :=
  if s.gatewayBlock then (s, .blocked .circuit)
  else if s.botBlock bot then (s, .blocked .botLane)
  else if s.destinationBlock bot destination then (s, .blocked .destinationGate)
  else
    match s.probeInflight.entry s.now bot with
    | none => admitPaced settings s bot destination job
    | some stored =>
      if 0 < pttl stored s.now then (s, .wait (s.now + pttl stored s.now) .botProbeInflight)
      else
        admitPaced settings { s with probeInflight := s.probeInflight.del bot } bot destination job

/-- `set_max` of `_RECORD_429_SCRIPT`: the key and the value it then has. -/
def setMax (keys : Keys String Int) (now : Nat) (key : String) (candidate : Int) (ttl : Nat) :
    Keys String Int × Int :=
  let current := (keys.get now key).getD 0
  if current < candidate then (keys.set key candidate (some (now + ttl)), candidate)
  else (keys, current)

def recordTtl (retryAfter : Int) (durableBot : Option Int) : Nat :=
  max settings.ttlMs ((match durableBot with
    | none => retryAfter
    | some durable => max retryAfter durable) + 60000).toNat

def durableUntil (now : Nat) : Option Int → Int
  | none => 0
  | some durable => now + max 1 durable

def recentWindow (bot : String) : List RecentLimit :=
  ((s.recent429.get s.now bot).getD []).filter fun entry =>
    entry.seenAt ≤ s.now && s.now - entry.seenAt ≤ settings.window

def distinctDestinations (window : List RecentLimit) (destination : String) : Nat :=
  window.length + if window.any (·.destination = destination) then 0 else 1

def maximumRetry (window : List RecentLimit) (retryUntil : Int) : Int :=
  window.foldl (fun maximum entry => max maximum entry.retryUntil) retryUntil

def durableNext (bot : String) (retryAfter : Int) (durableBot : Option Int) : Keys String Int :=
  if 0 < durableUntil s.now durableBot then
    (setMax s.botNext s.now bot (durableUntil s.now durableBot)
      (recordTtl settings retryAfter durableBot)).1
  else s.botNext

def observed (probes : List Probe) (bot job : String) : List Probe :=
  probes.filter fun probe => !(probe.bot = bot && probe.job = job)

/-- `del` of the probe of a bot if it is of the job. -/
def endProbe (bot job : String) : LimiterState :=
  { s with
    probeInflight :=
      if s.probeInflight.get s.now bot = some job then s.probeInflight.del bot
      else s.probeInflight
    probes := observed s.probes bot job }

/-- `_RECORD_429_SCRIPT` (line 58): `retryAfter` and `durableBot` are the times from the answer to
the cooldowns of the decision. -/
def record429 (bot destination job : String)
    (retryAfter : Int) (durableBot : Option Int) : LimiterState :=
  let retryUntil : Int := s.now + max 1 retryAfter
  let ttl := recordTtl settings retryAfter durableBot
  let ended := endProbe s bot job
  let botNext := durableNext settings s bot retryAfter durableBot
  let window := recentWindow settings s bot
  let distinct := distinctDestinations window destination
  let recorded : LimiterState := { ended with
    destinationNext := (setMax s.destinationNext s.now destination retryUntil ttl).1
    recent429 := s.recent429.set bot
      (window.filter (·.destination ≠ destination) ++ [⟨destination, s.now, retryUntil⟩])
      (some (s.now + ttl))
    limits := s.limits ++ [⟨bot, destination, s.now, retryUntil⟩] }
  if 2 ≤ distinct ∨ (s.now : Int) < durableUntil s.now durableBot then
    let blocked := setMax botNext s.now bot (maximumRetry window retryUntil) ttl
    { recorded with
      botNext := blocked.1
      probeRequired := s.probeRequired.del bot
      cooldowns := if 2 ≤ distinct then s.cooldowns ++ [⟨bot, blocked.2⟩] else s.cooldowns }
  else
    { recorded with
      botNext := (setMax botNext s.now bot (s.now + settings.probeDelay : Nat) ttl).1
      probeRequired := s.probeRequired.set bot () (some (s.now + ttl)) }

/-- `_SET_MAX_SCRIPT` (line 160). -/
def setMaxUntil (keys : Keys String Int) (now : Nat) (key : String)
    (candidate : Int) : Keys String Int :=
  (setMax keys now key candidate (max settings.ttlMs (candidate - now + 60000).toNat)).1

/-- `_CLEAR_PROBE_SCRIPT` (line 127). -/
def clearProbe (bot job : String) : LimiterState :=
  if s.probeInflight.get s.now bot = some job then
    { endProbe s bot job with probeRequired := s.probeRequired.del bot }
  else endProbe s bot job

/-- `_RELEASE_PROBE_SCRIPT` (line 136). -/
def releaseProbe (bot job : String) : LimiterState :=
  if s.probeInflight.get s.now bot = some job then
    { endProbe s bot job with
      probeRequired := s.probeRequired.set bot () (some (s.now + settings.ttlMs)) }
  else endProbe s bot job

/-- `_PREPARE_PREFLIGHT_SCRIPT` (line 145). -/
def preparePreflight (bot : String) : LimiterState :=
  if (s.probeInflight.get s.now bot).isSome then s
  else if (s.now : Int) < (s.botNext.get s.now bot).getD 0 then s
  else { s with probeRequired := s.probeRequired.del bot }

inductive Operation where
  | tick (milliseconds : Nat)
  | admitScript (bot destination job : String)
  | record429 (bot destination job : String) (retryAfter : Int) (durableBot : Option Int)
  | extendDestination (destination : String) (cooldownUntil : Int)
  | extendBot (bot : String) (cooldownUntil : Int)
  | clearProbe (bot job : String)
  | releaseProbe (bot job : String)
  | preparePreflight (bot : String)
  | pauseBot (bot : String)
  | pauseDestination (bot destination : String)
  | pauseGateway
  deriving DecidableEq, Repr

def step (settings : Settings) (s : LimiterState) : Operation → LimiterState
  | .tick milliseconds => { s with now := s.now + milliseconds }
  | .admitScript bot destination job => (admitScript settings s bot destination job).1
  | .record429 bot destination job retryAfter durableBot =>
    record429 settings s bot destination job retryAfter durableBot
  | .extendDestination destination cooldownUntil =>
    { s with
      destinationNext := setMaxUntil settings s.destinationNext s.now destination cooldownUntil }
  | .extendBot bot cooldownUntil =>
    { s with botNext := setMaxUntil settings s.botNext s.now bot cooldownUntil }
  | .clearProbe bot job => clearProbe s bot job
  | .releaseProbe bot job => releaseProbe settings s bot job
  | .preparePreflight bot => preparePreflight s bot
  | .pauseBot bot => { s with botBlock := Function.update s.botBlock bot true }
  | .pauseDestination bot destination =>
    { s with
      destinationBlock := Function.update s.destinationBlock bot
        (Function.update (s.destinationBlock bot) destination true) }
  | .pauseGateway => { s with gatewayBlock := true }

end TradingBot.Limiter
