import Mathlib.Data.List.Sort
import TradingBot.Offer.Model
import TradingBot.Trades.History

/-!
# Offer creation commands and their idempotency

`src/core/services/offer_creation_service.py`: the command of a creation, the economic intent its
idempotency key stands for, the row it builds, and the comparison of a stored offer with a command
that repeats its key. The intent of an offer from before fingerprints is read off its columns.

`digest` is the hexadecimal SHA-256 of a text in ASCII.
-/

namespace TradingBot.Creation

open TradingBot TradingBot.Misc TradingBot.Trades

/-- `OfferSourceSurface` (core/offer_source.py:10). -/
inductive OfferSourceSurface where
  | telegramBot
  | webapp
  | internalSync
  deriving DecidableEq, Repr

def OfferSourceSurface.value : OfferSourceSurface → String
  | telegramBot => "telegram_bot"
  | webapp => "webapp"
  | internalSync => "internal_sync"

/-- `OfferCreationCommand` (line 62). -/
structure OfferCreationCommand where
  sourceSurface : OfferSourceSurface
  ownerUserId : Option Nat
  actorUserId : Option Nat
  offerType : OfferType
  commodityId : Nat
  quantity : Int
  price : Int
  settlementType : SettlementType := .cash
  isWholesale : Bool := true
  lotSizes : Option (List Int) := none
  originalLotSizes : Option (List Int) := none
  notes : Option String := none
  idempotencyKey : Option String := none
  status : OfferStatus := .active
  remainingQuantity : Option Int := none
  excludeFromCompetitivePrice : Bool := false
  priceWarningType : Option String := none
  incomingHomeServer : Option String := none
  offerPublicId : Option String := none
  republishedFromOfferPublicId : Option String := none
  idempotencyFingerprintVersion : Option Nat := none
  idempotencyFingerprint : Option String := none
  deriving DecidableEq, Repr

/-- `OfferCreationQuotaPolicy` (line 91). -/
structure OfferCreationQuotaPolicy where
  maxActiveOffers : Int
  enforceUserLimits : Bool := true
  deriving DecidableEq, Repr

/-- A row of `offers` with the columns of its creation. -/
structure StoredOffer extends Offer where
  actorUserId : Option Nat
  settlementType : SettlementType
  excludeFromCompetitivePrice : Bool
  priceWarningType : Option String
  originalLotSizes : Option (List Int)
  notes : Option String
  idempotencyKey : Option String
  idempotencyFingerprintVersion : Option Nat
  idempotencyFingerprint : Option String
  republishedFromOfferPublicId : Option String
  deriving DecidableEq, Repr

/-- `offer_home_server_for_source` (core/offer_source.py:30). -/
def offerHomeServerForSource (surface : OfferSourceSurface) (incomingHomeServer : Option String) :
    Option Server :=
  match surface with
  | .telegramBot => some .foreign
  | .webapp => some .iran
  | .internalSync => knownServer (incomingHomeServer.getD "")

def canonicalLotSizes (value : Option (List Int)) : List Int :=
  (value.getD []).insertionSort fun a b => a ≤ b

/-- `canonical_offer_creation_payload` (line 137), what a fingerprint stands for. -/
structure CreationPayload where
  version : Nat
  sourceSurface : OfferSourceSurface
  homeServer : Server
  ownerUserId : Option Nat
  actorUserId : Option Nat
  offerType : OfferType
  settlementType : SettlementType
  commodityId : Nat
  quantity : Int
  price : Int
  isWholesale : Bool
  lotSizes : List Int
  notes : Option String
  republishedFromOfferPublicId : Option String
  deriving DecidableEq, Repr

/-- `OFFER_CREATION_FINGERPRINT_VERSION`. -/
def offerCreationFingerprintVersion : Nat := 1

/-- `canonical_offer_creation_payload`; there is none when the home server is not known. -/
def canonicalOfferCreationPayload (command : OfferCreationCommand) : Option CreationPayload :=
  (offerHomeServerForSource command.sourceSurface command.incomingHomeServer).map fun home =>
    { version := offerCreationFingerprintVersion
      sourceSurface := command.sourceSurface
      homeServer := home
      ownerUserId := command.ownerUserId
      actorUserId := command.actorUserId
      offerType := command.offerType
      settlementType := command.settlementType
      commodityId := command.commodityId
      quantity := command.quantity
      price := command.price
      isWholesale := command.isWholesale
      lotSizes := canonicalLotSizes command.lotSizes
      notes := nonemptyText command.notes
      republishedFromOfferPublicId := nonemptyText command.republishedFromOfferPublicId }

def optionalId (value : Option Nat) : Json := (value.map fun n => Json.int n).getD .null
def optionalText (value : Option String) : Json := (value.map Json.str).getD .null

def CreationPayload.toJson (payload : CreationPayload) : Json :=
  .obj [("actor_user_id", optionalId payload.actorUserId),
    ("commodity_id", .int payload.commodityId),
    ("home_server", .str (serverName payload.homeServer)),
    ("is_wholesale", .bool payload.isWholesale),
    ("lot_sizes", .arr (payload.lotSizes.map Json.int)),
    ("notes", optionalText payload.notes),
    ("offer_type", .str (tradeTypeValue payload.offerType)),
    ("owner_user_id", optionalId payload.ownerUserId),
    ("price", .int payload.price),
    ("quantity", .int payload.quantity),
    ("republished_from_offer_public_id", optionalText payload.republishedFromOfferPublicId),
    ("settlement_type", .str payload.settlementType.value),
    ("source_surface", .str payload.sourceSurface.value),
    ("version", .int payload.version)]

def offerCreationFingerprint (digest : List Char → String) (command : OfferCreationCommand) :
    Option String :=
  (canonicalOfferCreationPayload command).map fun payload => digest payload.toJson.write

def legacyOfferCreationCommand (offer : StoredOffer) : Option OfferCreationCommand :=
  let surface : Option OfferSourceSurface :=
    if pyLower (pyStrip offer.homeServer) = "iran" then some .webapp
    else if pyLower (pyStrip offer.homeServer) = "foreign" then some .telegramBot
    else none
  surface.map fun surface =>
    { sourceSurface := surface
      ownerUserId := offer.userId
      actorUserId := offer.actorUserId
      offerType := offer.offerType
      settlementType := offer.settlementType
      commodityId := offer.commodityId
      quantity := offer.quantity
      price := offer.price
      isWholesale := offer.isWholesale
      lotSizes := offer.originalLotSizes.or offer.lotSizes
      notes := offer.notes
      republishedFromOfferPublicId := offer.republishedFromOfferPublicId }

def storedFingerprint (digest : List Char → String) (offer : StoredOffer) : Option String :=
  if offer.idempotencyFingerprintVersion = none ∧ offer.idempotencyFingerprint = none then
    (legacyOfferCreationCommand offer).bind (offerCreationFingerprint digest)
  else if offer.idempotencyFingerprintVersion = some offerCreationFingerprintVersion then
    offer.idempotencyFingerprint.filter fun text => decide (text.length = 64)
  else none

/-- `ensure_offer_idempotency_replay_matches` (line 214) lets the offer stand. -/
def replayMatches (digest : List Char → String) (offer : StoredOffer)
    (command : OfferCreationCommand) : Bool :=
  match storedFingerprint digest offer, offerCreationFingerprint digest command with
  | some stored, some expected => stored ≠ "" && stored = expected
  | _, _ => false

def OfferCreationCommand.key (command : OfferCreationCommand) : Option String :=
  nonemptyText command.idempotencyKey

def buildAuthoritativeOffer (digest : List Char → String) (command : OfferCreationCommand)
    (generatedPublicId : String) (id : Nat) (overtimeMinutes : Int) : Option StoredOffer :=
  let fingerprinted := command.key.isSome && command.sourceSurface ≠ .internalSync
  if command.sourceSurface = .internalSync ∧ (command.offerPublicId.getD "") = "" then none
  else
    (offerHomeServerForSource command.sourceSurface command.incomingHomeServer).map fun home =>
      { id := id
        offerPublicId := (nonemptyText command.offerPublicId).getD generatedPublicId
        userId := command.ownerUserId
        homeServer := serverName home
        offerType := command.offerType
        commodityId := command.commodityId
        quantity := command.quantity
        price := command.price
        remainingQuantity := some (command.remainingQuantity.getD command.quantity)
        isWholesale := command.isWholesale
        lotSizes := command.lotSizes
        overtimeMinutesSnapshot := overtimeMinutes
        overtimeTradeCommitted := false
        status := command.status
        expireReason := none
        expiredAt := none
        expiredByUserId := none
        expiredByActorUserId := none
        expireSourceSurface := none
        expireSourceServer := none
        createdAt := none
        actorUserId := command.actorUserId
        settlementType := command.settlementType
        excludeFromCompetitivePrice := command.excludeFromCompetitivePrice
        priceWarningType := command.priceWarningType
        originalLotSizes := command.originalLotSizes.or command.lotSizes
        notes := command.notes
        idempotencyKey := command.key
        idempotencyFingerprintVersion :=
          if fingerprinted then some offerCreationFingerprintVersion
          else command.idempotencyFingerprintVersion
        idempotencyFingerprint :=
          if fingerprinted then offerCreationFingerprint digest command
          else command.idempotencyFingerprint
        republishedFromOfferPublicId :=
          if command.republishedFromOfferPublicId.getD "" = "" then none
          else command.republishedFromOfferPublicId.map pyStrip }

variable {digest : List Char → String} {command : OfferCreationCommand}

/-- What a creation stores of its command: key, owner, home and fingerprint. -/
theorem buildAuthoritativeOffer_eq_some {publicId : String} {id : Nat} {overtime : Int}
    {offer : StoredOffer} (hsurface : command.sourceSurface ≠ .internalSync)
    (h : buildAuthoritativeOffer digest command publicId id overtime = some offer) :
    offer.id = id ∧ offer.userId = command.ownerUserId ∧ offer.idempotencyKey = command.key ∧
      (command.key.isSome → offer.idempotencyFingerprintVersion = some 1 ∧
        offer.idempotencyFingerprint = offerCreationFingerprint digest command) := by
  unfold buildAuthoritativeOffer at h
  rw [if_neg (fun hsync => hsurface hsync.1), Option.map_eq_some_iff] at h
  obtain ⟨home, -, rfl⟩ := h
  refine ⟨rfl, rfl, rfl, fun hkey => ?_⟩
  have hfingerprinted : (command.key.isSome && decide (command.sourceSurface ≠ .internalSync)) =
      true := by
    simp [hkey, hsurface]
  exact ⟨if_pos hfingerprinted, if_pos hfingerprinted⟩

theorem exists_offerCreationFingerprint (digest : List Char → String)
    (hsurface : command.sourceSurface ≠ .internalSync) :
    ∃ payload, canonicalOfferCreationPayload command = some payload ∧
      offerCreationFingerprint digest command = some (digest payload.toJson.write) := by
  unfold offerCreationFingerprint canonicalOfferCreationPayload offerHomeServerForSource
  cases hcase : command.sourceSurface with
  | telegramBot => exact ⟨_, rfl, rfl⟩
  | webapp => exact ⟨_, rfl, rfl⟩
  | internalSync => exact absurd hcase hsurface

theorem replayMatches_iff {offer : StoredOffer} {fingerprint : String}
    (hlength : fingerprint.length = 64) (hversion : offer.idempotencyFingerprintVersion = some 1)
    (hstored : offer.idempotencyFingerprint = some fingerprint) :
    replayMatches digest offer command = true ↔
      offerCreationFingerprint digest command = some fingerprint := by
  have hfound : storedFingerprint digest offer = some fingerprint := by
    unfold storedFingerprint
    rw [if_neg (by rw [hversion]; simp), if_pos (by rw [hversion]; rfl), hstored]
    simp [Option.filter, hlength]
  have hne : fingerprint ≠ "" := by
    rintro rfl
    exact absurd hlength (by decide)
  unfold replayMatches
  rw [hfound]
  cases offerCreationFingerprint digest command with
  | none => simp
  | some expected => simp [hne, eq_comm]

end TradingBot.Creation
