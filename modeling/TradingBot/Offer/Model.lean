import TradingBot.Misc.PyText

/-!
# Offers, servers and trading settings

Rows of `src/models/offer.py`, the servers of `src/core/server_routing.py` and what the offer logic
reads of `src/core/trading_settings.py`. Instants are microseconds since an epoch; the source
compares datetimes in UTC.
-/

namespace TradingBot

open Misc

/-- The two servers (`SERVER_FOREIGN`, `SERVER_IRAN`). -/
inductive Server where
  | foreign
  | iran
  deriving DecidableEq, Repr

/-- The server a text names, if it names one (`normalize_server`, server_routing.py:19). -/
def knownServer (value : String) : Option Server :=
  let normalized := (pyStrip value).toLower
  if normalized ∈ ["germany", "de", "foreign", "german"] then some .foreign
  else if normalized ∈ ["iran", "ir"] then some .iran
  else none

/-- The name that `current_server` has for a server. -/
def serverName : Server → String
  | .foreign => "foreign"
  | .iran => "iran"

/-- `normalize_server(value, default)`. -/
def normalizeServer (value : String) (default : Server) : Server :=
  (knownServer value).getD default

inductive OfferStatus where
  | active
  | completed
  | cancelled
  | expired
  deriving DecidableEq, Repr

inductive OfferType where
  | buy
  | sell
  deriving DecidableEq, Repr

def second : Int := 1000000
def minute : Int := 60 * second

/-- `TradingSettings`, with the two values derived from `offer_min_quantity`. -/
structure TradingSettings where
  offerExpiryMinutes : Int := 2
  offerMinQuantity : Int := 5
  offerMaxQuantity : Int := 50
  deriving DecidableEq, Repr

namespace TradingSettings

/-- `lot_min_size`: the smallest lot is the smallest offer quantity. -/
def lotMinSize (settings : TradingSettings) : Int := settings.offerMinQuantity

/-- `lot_max_count`. -/
def lotMaxCount (_ : TradingSettings) : Nat := 3

end TradingSettings

/-- A row of `offers`. -/
structure Offer where
  id : Nat
  offerPublicId : String
  userId : Option Nat
  homeServer : String
  offerType : OfferType
  commodityId : Nat
  quantity : Int
  price : Int
  remainingQuantity : Option Int
  isWholesale : Bool
  lotSizes : Option (List Int)
  overtimeMinutesSnapshot : Int
  overtimeTradeCommitted : Bool
  status : OfferStatus
  expireReason : Option String
  expiredAt : Option Int
  expiredByUserId : Option Nat
  expiredByActorUserId : Option Nat
  expireSourceSurface : Option String
  expireSourceServer : Option Server
  createdAt : Option Int
  deriving DecidableEq, Repr

end TradingBot
