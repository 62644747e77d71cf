import TradingBot.Offer.Lifecycle

/-!
# The offer expiry command

`src/core/services/offer_expiry_service.py`: the command that ends an offer and its effect on the
row.
-/

namespace TradingBot

inductive OfferExpirySourceSurface where
  | webapp
  | telegramBot
  | system
  | admin
  | internalForward
  deriving DecidableEq, Repr

def OfferExpirySourceSurface.value : OfferExpirySourceSurface → String
  | webapp => "webapp"
  | telegramBot => "telegram_bot"
  | system => "system"
  | admin => "admin"
  | internalForward => "internal_forward"

/-- `OfferExpiryReason.TIME_LIMIT`. -/
def timeLimitReason : String := "time_limit"

/-- `OfferExpiryReason.RECOVERY_FINALIZATION`. -/
def recoveryFinalizationReason : String := "recovery_finalization"

/-- `OfferExpiryCommand`. -/
structure OfferExpiryCommand where
  reason : String
  sourceSurface : OfferExpirySourceSurface
  sourceServer : Option String := none
  expiredByUserId : Option Nat := none
  expiredByActorUserId : Option Nat := none
  requireActive : Bool := true
  deriving DecidableEq, Repr

inductive OfferExpiryError where
  /-- `OfferNotAuthoritativeError`, with the home server. -/
  | notAuthoritative (homeServer : Server)
  /-- `OfferAlreadyInactiveError`. -/
  | alreadyInactive
  deriving DecidableEq, Repr

/-- `apply_offer_expiry` (offer_expiry_service.py:100). -/
def applyOfferExpiry (currentServer : Server) (offer : Offer) (command : OfferExpiryCommand)
    (now : Int) (requireAuthority : Bool) : Except OfferExpiryError Offer :=
  let homeServer := normalizeServer offer.homeServer currentServer
  if requireAuthority ∧ homeServer ≠ currentServer then .error (.notAuthoritative homeServer)
  else if command.requireActive ∧ offer.status ≠ .active then .error .alreadyInactive
  else .ok { offer with
    status := .expired
    expiredAt := some now
    expireReason := some command.reason
    expiredByUserId := command.expiredByUserId
    expiredByActorUserId := command.expiredByActorUserId
    expireSourceSurface := some command.sourceSurface.value
    expireSourceServer :=
      some ((command.sourceServer.map (normalizeServer · currentServer)).getD currentServer) }

theorem applyOfferExpiry_ok {currentServer : Server} {offer offer' : Offer}
    {command : OfferExpiryCommand} {now : Int} {requireAuthority : Bool}
    (h : applyOfferExpiry currentServer offer command now requireAuthority = .ok offer') :
    offer'.status = .expired ∧ offer'.id = offer.id ∧
      offer'.offerPublicId = offer.offerPublicId ∧ offer'.homeServer = offer.homeServer ∧
      offer'.remainingQuantity = offer.remainingQuantity := by
  unfold applyOfferExpiry at h
  dsimp only at h
  split_ifs at h
  injection h with h
  subst h
  exact ⟨rfl, rfl, rfl, rfl, rfl⟩

end TradingBot
