import Mathlib.Logic.Function.Basic
import TradingBot.Creation.Command
import TradingBot.Misc.Unique

/-!
# Creations under a quota policy

`create_authoritative_offer_with_outcome` (core/services/offer_creation_service.py:468) with a quota
policy, one statement at a time: the market gates, the lock of the owner's row, the search for the
key, the limits, the count of the active offers, and the commit. In between other creations run,
trades and expiries change offers, offers of the other server arrive, and others write users.

A session keeps the first copy it loads of a row, and `_lock_offer_owner` does not ask for the copy
to be overwritten: a request whose session has read its owner, as the authentication of the API
does, goes on with that copy.

What the market gates and the customer's limits say, and other refusals of the insert, is part of
the operation.
-/

namespace TradingBot.Creation

open TradingBot TradingBot.Misc

/-- The server the creations run on, and the SHA-256 of a text. -/
structure Config where
  server : Server
  digest : List Char → String

/-- The columns of `users` that a creation reads. -/
structure OwnerRow where
  limitationsExpireAt : Option Int := none
  maxDailyTrades : Option Int := none
  maxActiveCommodities : Option Int := none
  maxDailyRequests : Option Int := none
  tradesCount : Int := 0
  commoditiesTradedCount : Int := 0
  channelMessagesCount : Int := 0
  offerOvertimeMinutes : Int := 0
  syncVersion : Int := 1
  deriving DecidableEq, Repr

/-- The action types of `check_user_limits`. -/
inductive LimitedAction where
  | trade
  | channelMessage
  deriving DecidableEq, Repr

def LimitedAction.value : LimitedAction → String
  | trade => "trade"
  | channelMessage => "channel_message"

/-- `check_user_limits` (core/utils.py:424): the message of the limit that is reached. -/
def checkUserLimits (user : OwnerRow) (now : Int) (action : LimitedAction) (quantity : Int) :
    Option String :=
  match user.limitationsExpireAt with
  | none => none
  | some expireAt =>
    if expireAt ≤ now then none
    else
      match action with
      | .trade =>
        match user.maxDailyTrades.filter fun limit => decide (limit ≤ user.tradesCount) with
        | some limit =>
          some ("شما به حداکثر تعداد معاملات مجاز (" ++ toString limit ++ ") رسیده‌اید.")
        | none =>
          (user.maxActiveCommodities.filter fun limit =>
              decide (limit < user.commoditiesTradedCount + quantity)).map fun limit =>
            "شما به حداکثر تعداد کالای مجاز رسیده‌اید. باقی‌مانده: " ++
              toString (max 0 (limit - user.commoditiesTradedCount))
      | .channelMessage =>
        (user.maxDailyRequests.filter fun limit =>
            decide (limit ≤ user.channelMessagesCount)).map fun limit =>
          "شما به حداکثر تعداد ارسال لفظ مجاز (" ++ toString limit ++ ") رسیده‌اید."

inductive Refusal where
  | market (message : String)
  | ownerRequired
  | maxActiveOffersNotPositive
  | quotaUnavailable
  | ownerNotFound
  | idempotencyConflict
  | userLimit (action : LimitedAction) (message : String)
  | customerLimit (reasonCode : String)
  | activeLimit (maxActiveOffers : Int)
  | counterRange
  | staleOwner
  | integrity
  | aborted
  deriving DecidableEq, Repr

/-- `reason` of the admission errors. -/
def Refusal.reason : Refusal → Option String
  | ownerRequired => some "offer_owner_required"
  | quotaUnavailable => some "offer_quota_lock_unavailable"
  | ownerNotFound => some "offer_owner_not_found"
  | idempotencyConflict => some "offer_idempotency_payload_mismatch"
  | userLimit action _ => some ("offer_user_limit_exceeded:" ++ action.value)
  | customerLimit reasonCode => some ("customer_offer_limit:" ++ reasonCode)
  | activeLimit _ => some "offer_active_limit_exceeded"
  | market _ | maxActiveOffersNotPositive | counterRange | staleOwner | integrity | aborted => none

inductive Stage where
  /-- Before the market gates. -/
  | begun
  /-- Past the market gates, about to lock its owner. -/
  | passed
  /-- With the lock of its owner, about to look its key up. -/
  | locked
  /-- No offer had its key; about to check the limits. -/
  | unused
  /-- The limits let it through; about to count the active offers. -/
  | allowed
  /-- So many offers were active; about to commit. -/
  | admitted (activeOfferCount : Nat)
  /-- The offer of its key was found; about to commit. -/
  | replaying (offerId : Nat)
  /-- The database refused the insert; about to look its key up again. -/
  | rolledBack
  /-- `OfferCreationOutcome`. -/
  | returned (offerId : Nat) (created : Bool) (activeOfferCount : Option Nat)
  | refused (refusal : Refusal)
  deriving DecidableEq, Repr

def Stage.holdsLock : Stage → Bool
  | locked | unused | allowed | admitted _ | replaying _ => true
  | begun | passed | rolledBack | returned .. | refused _ => false

structure Request where
  command : OfferCreationCommand
  policy : OfferCreationQuotaPolicy
  copy : Option OwnerRow := none
  stage : Stage := .begun
  deriving DecidableEq, Repr

/-- The users, the offers, the locks on users by the request that holds them, and the requests. -/
structure Board where
  users : Nat → Option OwnerRow
  offers : List StoredOffer
  nextId : Nat
  holder : Nat → Option Nat
  requests : Nat → Option Request

variable (board : Board) (request : Nat)

namespace Board

def put (next : Request) : Board :=
  { board with requests := Function.update board.requests request (some next) }

def free (board : Board) : Option Nat → Board
  | none => board
  | some owner => { board with holder := Function.update board.holder owner none }

def finish (current : Request) (stage : Stage) : Board :=
  (board.free current.command.ownerUserId).put request { current with stage := stage }

def insertOffer (offer : StoredOffer) : Board :=
  { board with offers := board.offers ++ [offer], nextId := board.nextId + 1 }

/-- The offer of a key (`_load_local_idempotency_replay`, offer_creation_service.py:377). -/
def offerOfKey (command : OfferCreationCommand) : Option StoredOffer :=
  command.key.bind fun key => rowOfKey (·.idempotencyKey) key board.offers

def activeOfferCount (owner : Nat) : Nat :=
  board.offers.countP fun offer => offer.userId = some owner && offer.status = .active

def activeCreatedThere (config : Config) (board : Board) (owner : Nat) : Nat :=
  board.offers.countP fun offer =>
    offer.userId = some owner && offer.status = .active &&
      offer.homeServer = serverName config.server

/-- `increment_user_counters(owner, channel_messages=1)` at the commit: the session's number plus
one. -/
def incrementChannelMessages (owner : Nat) (copy stored : OwnerRow) : Board :=
  { board with
    users := Function.update board.users owner
      (some { stored with channelMessagesCount := copy.channelMessagesCount + 1 }) }

end Board

def begin (command : OfferCreationCommand) (policy : OfferCreationQuotaPolicy) : Board :=
  if board.requests request = none ∧ command.sourceSurface ≠ .internalSync then
    board.put request { command := command, policy := policy }
  else board

/-- The session reads the owner's row before the creation; a copy stays unless asked for again. -/
def loadOwner (again : Bool) : Board :=
  match board.requests request with
  | none => board
  | some current =>
    let row := current.command.ownerUserId.bind board.users
    match current.stage with
    | .begun | .passed =>
      board.put request { current with copy := if again then row else current.copy.or row }
    | _ => board

def marketGates (failure : Option String) : Board :=
  match board.requests request with
  | none => board
  | some current =>
    match current.stage, failure with
    | .begun, none => board.put request { current with stage := .passed }
    | .begun, some message => board.put request { current with stage := .refused (.market message) }
    | _, _ => board

/-- Line 356 and the checks before it; it waits for the lock. -/
def lockOfferOwner (fails : Bool) : Board :=
  match board.requests request with
  | none => board
  | some current =>
    if current.stage ≠ .passed then board
    else
      let refuse (refusal : Refusal) := board.put request { current with stage := .refused refusal }
      match current.command.ownerUserId with
      | none => refuse .ownerRequired
      | some owner =>
        if current.policy.maxActiveOffers < 1 then refuse .maxActiveOffersNotPositive
        else if fails then refuse .quotaUnavailable
        else if board.holder owner ≠ none then board
        else
          match board.users owner with
          | none => refuse .ownerNotFound
          | some row =>
            { board with holder := Function.update board.holder owner (some request) }.put request
              { current with copy := some (current.copy.getD row), stage := .locked }

def lookUpKey (config : Config) (board : Board) (request : Nat) : Board :=
  match board.requests request with
  | none => board
  | some current =>
    if current.stage ≠ .locked then board
    else
      match board.offerOfKey current.command with
      | none => board.put request { current with stage := .unused }
      | some offer =>
        if replayMatches config.digest offer current.command then
          board.put request { current with stage := .replaying offer.id }
        else board.finish request current (.refused .idempotencyConflict)

def userLimitRefusal (current : Request) (now : Int) : Option Refusal :=
  match current.copy with
  | none => none
  | some owner =>
    if current.policy.enforceUserLimits then
      match checkUserLimits owner now .channelMessage 1 with
      | some message => some (.userLimit .channelMessage message)
      | none =>
        (checkUserLimits owner now .trade current.command.quantity).map (.userLimit .trade)
    else none

def checkLimits (now : Int) (customerFailure : Option String) :
    Board :=
  match board.requests request with
  | none => board
  | some current =>
    if current.stage ≠ .unused then board
    else
      match userLimitRefusal current now with
      | some refusal => board.finish request current (.refused refusal)
      | none =>
        match customerFailure with
        | some reasonCode => board.finish request current (.refused (.customerLimit reasonCode))
        | none => board.put request { current with stage := .allowed }

def countActiveOffers : Board :=
  match board.requests request with
  | none => board
  | some current =>
    if current.stage ≠ .allowed then board
    else
      match current.command.ownerUserId with
      | none => board
      | some owner =>
        if current.policy.maxActiveOffers ≤ board.activeOfferCount owner then
          board.finish request current (.refused (.activeLimit current.policy.maxActiveOffers))
        else
          board.put request { current with stage := .admitted (board.activeOfferCount owner) }

/-- `USER_COUNTER_MAX_VALUE` (core/user_counter_sync.py:19). -/
def userCounterMaxValue : Int := 2147483647

/-- `read_persisted_overtime_minutes` (offer_overtime_preference_service.py:113). -/
def readPersistedOvertimeMinutes (owner : OwnerRow) : Int :=
  max 0 (min 10 owner.offerOvertimeMinutes)

/-- The insert and the increment at the commit: the user's row is written under the loaded version,
and the key is unique. -/
def commitOffer (config : Config) (board : Board) (request : Nat) (current : Request)
    (publicId : String) (refusedByDatabase : Bool) (activeOfferCount : Nat) : Board :=
  match current.command.ownerUserId, current.copy with
  | some owner, some copy =>
    match board.users owner,
        buildAuthoritativeOffer config.digest current.command publicId board.nextId
          (readPersistedOvertimeMinutes copy) with
    | some stored, some offer =>
      if userCounterMaxValue < copy.channelMessagesCount + 1 then
        board.finish request current (.refused .counterRange)
      else if copy.syncVersion ≠ stored.syncVersion then
        board.finish request current (.refused .staleOwner)
      else if refusedByDatabase ∨ (board.offerOfKey current.command).isSome then
        board.finish request current .rolledBack
      else
        ((board.incrementChannelMessages owner copy stored).insertOffer offer).finish request
          current (.returned offer.id true (some (activeOfferCount + 1)))
    | _, _ => board.finish request current (.refused .aborted)
  | _, _ => board.finish request current (.refused .aborted)

def commit (config : Config) (board : Board) (request : Nat) (publicId : String)
    (refusedByDatabase : Bool) : Board :=
  match board.requests request with
  | none => board
  | some current =>
    match current.stage with
    | .admitted activeOfferCount =>
      commitOffer config board request current publicId refusedByDatabase activeOfferCount
    | .replaying offerId => board.finish request current (.returned offerId false none)
    | _ => board

def recover (config : Config) (board : Board) (request : Nat) : Board :=
  match board.requests request with
  | none => board
  | some current =>
    if current.stage ≠ .rolledBack then board
    else
      match board.offerOfKey current.command with
      | none => board.put request { current with stage := .refused .integrity }
      | some offer =>
        if replayMatches config.digest offer current.command then
          board.put request { current with stage := .returned offer.id false none }
        else board.put request { current with stage := .refused .idempotencyConflict }

def abort : Board :=
  match board.requests request with
  | none => board
  | some current =>
    if current.stage.holdsLock then board.finish request current (.refused .aborted)
    else
      match current.stage with
      | .begun | .passed | .rolledBack =>
        board.put request { current with stage := .refused .aborted }
      | _ => board

def writeOwner (owner : Nat) (row : OwnerRow) : Board :=
  if board.holder owner = none then
    { board with users := Function.update board.users owner (some row) }
  else board

def changeOffer (config : Config) (board : Board) (id : Nat) (remainingQuantity : Option Int)
    (lotSizes : Option (List Int)) (status : OfferStatus) : Board :=
  { board with
    offers := board.offers.map fun offer =>
      if offer.id = id ∧ (offer.status = .active ∨ offer.homeServer ≠ serverName config.server) then
        { offer with remainingQuantity := remainingQuantity, lotSizes := lotSizes, status := status }
      else offer }

def mirrorOffer (config : Config) (board : Board) (offer : StoredOffer) : Board :=
  if offer.homeServer ≠ serverName config.server ∧
      UniqueKey (·.idempotencyKey) (board.offers ++ [offer]) then
    board.insertOffer { offer with id := board.nextId }
  else board

inductive Operation where
  | begin (request : Nat) (command : OfferCreationCommand) (policy : OfferCreationQuotaPolicy)
  | load (request : Nat) (again : Bool)
  | gates (request : Nat) (failure : Option String)
  | lock (request : Nat) (fails : Bool)
  | lookUp (request : Nat)
  | limits (request : Nat) (now : Int) (customerFailure : Option String)
  | count (request : Nat)
  | commit (request : Nat) (publicId : String) (refusedByDatabase : Bool)
  | recover (request : Nat)
  | abort (request : Nat)
  | writeOwner (owner : Nat) (row : OwnerRow)
  | changeOffer (id : Nat) (remainingQuantity : Option Int) (lotSizes : Option (List Int))
      (status : OfferStatus)
  | mirror (offer : StoredOffer)

def step (config : Config) (board : Board) : Operation → Board
  | .begin request command policy => begin board request command policy
  | .load request again => loadOwner board request again
  | .gates request failure => marketGates board request failure
  | .lock request fails => lockOfferOwner board request fails
  | .lookUp request => lookUpKey config board request
  | .limits request now customerFailure => checkLimits board request now customerFailure
  | .count request => countActiveOffers board request
  | .commit request publicId refusedByDatabase =>
    commit config board request publicId refusedByDatabase
  | .recover request => recover config board request
  | .abort request => abort board request
  | .writeOwner owner row => writeOwner board owner row
  | .changeOffer id remainingQuantity lotSizes status =>
    changeOffer config board id remainingQuantity lotSizes status
  | .mirror offer => mirrorOffer config board offer

end TradingBot.Creation
