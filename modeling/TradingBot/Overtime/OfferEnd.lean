import TradingBot.Overtime.Service
import TradingBot.Offer.Expiry

/-!
# Ending an offer and its overtime requests

The callers that end an offer: the expiry service (`src/core/services/offer_expiry_service.py`), the
outage recovery (`src/core/services/cross_server_recovery_service.py`) and the side effects of an
approved overtime trade (`_finalize_overtime_trade_side_effects`, `src/api/routers/trades.py:2984`).
-/

namespace TradingBot.Overtime

open TradingBot TradingBot.Misc

def updateOffer (id : Nat) (f : Offer → Offer) : Work Unit :=
  Txn.modify (fun s => { s with offers := s.offers.map (fun o => if o.id = id then f o else o) })

variable (ambient : Ambient)

/-- `apply_offer_expiry` on the offer object with a primary key. -/
def expireOfferRow (command : OfferExpiryCommand) (now : Int)
    (requireAuthority : Bool) (id : Nat) : Work Unit :=
  Txn.read (fun s => s.offer? id) >>= fun offer? =>
  match offer? with
  | none => Txn.raise .invalidArgument
  | some offer =>
    match applyOfferExpiry ambient.currentServer offer command now requireAuthority with
    | .error (.notAuthoritative _) => Txn.raise .offerNotAuthoritative
    | .error .alreadyInactive => Txn.raise .offerInactive
    | .ok ended => updateOffer id (fun _ => ended)

/-- The loop of `_invalidate_overtime_after_offer_expiry` over the offers: the rows it ended. -/
def invalidateForOffers (ambient : Ambient) (reason : String) (now normalMinutes : Int) :
    List Offer → Work (List OfferRequest)
  | [] => pure []
  | offer :: offers =>
    invalidateOvertimeRequestsForOffer ambient offer reason now false (some normalMinutes) true
      >>= fun rows =>
    invalidateForOffers ambient reason now normalMinutes offers >>= fun more =>
    pure (rows ++ more)

/-- Line 124: every offer first, then one promotion per freed queue. -/
def invalidateOvertimeAfterOfferExpiry (offers : List Offer)
    (reason : String) (now normalMinutes : Int) : Work Unit :=
  invalidateForOffers ambient reason now normalMinutes offers >>= fun rows =>
  promoteScopes ambient normalMinutes now true (scopesOf rows)

/-- The loop of `expire_offers_authoritatively` over the offers: those it expired. -/
def expireActiveOffers (ambient : Ambient) (command : OfferExpiryCommand) (now : Int)
    (requireAuthority : Bool) : List Nat → Work (List Nat)
  | [] => pure []
  | id :: ids =>
    Txn.read (fun s => s.offer? id) >>= fun offer? =>
    if offer?.any (fun o => o.status = .active) then
      expireOfferRow ambient command now requireAuthority id >>= fun _ =>
      expireActiveOffers ambient command now requireAuthority ids >>= fun more =>
      pure (id :: more)
    else if command.requireActive then Txn.raise .offerInactive
    else expireActiveOffers ambient command now requireAuthority ids

def expireOfferAuthoritatively (id : Nat) (command : OfferExpiryCommand)
    (now normalMinutes : Int) (requireAuthority : Bool) : Work Unit :=
  expireOfferRow ambient command now requireAuthority id >>= fun _ =>
  Txn.read (fun s => (s.offer? id).toList) >>= fun ended =>
  invalidateOvertimeAfterOfferExpiry ambient ended ("offer_expired:" ++ command.reason) now
    normalMinutes

def expireOffersAuthoritatively (offers : List Nat)
    (command : OfferExpiryCommand) (now normalMinutes : Int) (requireAuthority : Bool) :
    Work Unit :=
  expireActiveOffers ambient command now requireAuthority offers >>= fun expired =>
  Txn.read (fun s => expired.filterMap s.offer?) >>= fun ended =>
  invalidateOvertimeAfterOfferExpiry ambient ended ("offer_expired:" ++ command.reason) now
    normalMinutes

/-- `finalize_outage_recovery` (cross_server_recovery_service.py:363): the candidates are expired
without the authority check. -/
def finalizeOutageRecovery (mode : Server) (candidates : List Nat) (now : Int) : Work Unit :=
  Txn.each (expireOfferRow ambient
    { reason := recoveryFinalizationReason, sourceSurface := .system,
      sourceServer := some (match mode with | .foreign => "foreign" | .iran => "iran") }
    now false) candidates

/-- `_finalize_overtime_trade_side_effects` of an approved request: a partial approval past the
final deadline expires the remainder, then the offer's requests end and the owner's seat goes to the
next. -/
def finalizeOvertimeTradeSideEffects (ledger : OfferRequest) (offerId : Nat)
    (normalMinutes stamp : Int) : Work Unit :=
  Txn.read (fun s => s.offer? offerId) >>= fun offer? =>
  match offer? with
  | none => pure ()
  | some offer =>
    let projection := projectOfferLifecycle offer normalMinutes stamp true
    let pastFinal : Bool := match projection.deadlines with
      | none => false
      | some (_, final) => decide (final ≤ stamp)
    (if offer.status = .active ∧ (projection.phase = .finalTail ∨ pastFinal) then
      expireOfferRow ambient
        { reason := timeLimitReason, sourceSurface := .system,
          sourceServer := some (match ambient.currentServer with
            | .foreign => "foreign" | .iran => "iran") } stamp true offerId
    else pure ()) >>= fun _ =>
    invalidateOvertimeRequestsForOffer ambient offer "overtime_trade_completed" stamp false
      (some normalMinutes) true >>= fun _ =>
    match ledger.offerOwnerUserId with
    | none => pure ()
    | some owner =>
      promoteNextForOwner ambient ledger.requestHomeServer owner normalMinutes stamp true
        >>= fun _ => pure ()

end TradingBot.Overtime
