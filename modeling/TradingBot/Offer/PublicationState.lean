import TradingBot.Misc.PyText
import TradingBot.Misc.Run
import TradingBot.Misc.Txn

/-!
# Updates of a publication state

`core/services/offer_publication_state_service.py`: `apply_publication_state_update` writes what a
surface reports about an offer. An update of an older version is dropped, one that would replace the
provider's identity raises, and an offer that has ended is not published again.

Every call has its time (`now or utc_now_naive()`), and the provider's ids are integers.
-/

namespace TradingBot.Publication

open TradingBot.Misc

/-- `OfferPublicationSurface`. -/
inductive OfferPublicationSurface where
  | telegramChannel
  | webappMarket
  deriving DecidableEq, Repr

/-- `OfferPublicationStatus`. -/
inductive OfferPublicationStatus where
  | pending
  | sent
  | visible
  | failed
  | disabled
  | lagged
  deriving DecidableEq, Repr

/-- `TERMINAL_OFFER_STATUSES`. -/
def terminalOfferStatuses : List String := ["completed", "cancelled", "expired"]

/-- `ACTIVE_PUBLICATION_STATUSES`. -/
def activePublicationStatuses : List OfferPublicationStatus := [.pending, .sent, .visible, .lagged]

/-- `TELEGRAM_PRIMARY_PUBLISHER_BOT_IDENTITY`. -/
def primaryPublisher : String := "primary"

/-- `TELEGRAM_PUBLICATION_PUBLISHER_BOT_IDENTITIES`. -/
def publisherIdentities : List String :=
  [primaryPublisher, "publisher_1", "publisher_2", "publisher_3", "publisher_4", "publisher_5"]

/-- The columns of `offer_publication_states` that an update reads or writes. -/
structure OfferPublicationState where
  surface : OfferPublicationSurface
  publisherBotIdentity : Option String := none
  status : OfferPublicationStatus := .pending
  surfaceResourceId : Option String := none
  telegramChatId : Option Int := none
  telegramMessageId : Option Int := none
  offerVersionId : Option Int := none
  lastKnownOfferStatus : Option String := none
  lastAttemptAt : Option Int := none
  lastSuccessAt : Option Int := none
  disabledAt : Option Int := none
  laggedAt : Option Int := none
  errorCode : Option String := none
  errorMessage : Option String := none
  deriving DecidableEq, Repr

/-- The arguments of `apply_publication_state_update`; the statuses are texts. -/
structure PublicationUpdate where
  offerStatus : Option String
  offerVersionId : Option Int
  requestedStatus : String
  now : Int
  errorCode : Option String := none
  errorMessage : Option String := none
  publisherBotIdentity : Option String := none
  surfaceResourceId : Option String := none
  telegramChatId : Option Int := none
  telegramMessageId : Option Int := none
  deriving DecidableEq, Repr

/-- `CanonicalPublicationIdentityError`, or the `ValueError` of an unknown status. -/
inductive PublicationError where
  | canonicalIdentity (detail : String)
  | unknownStatus (value : String)
  deriving DecidableEq, Repr

/-- `PublicationStateApplyResult`. -/
structure PublicationStateApplyResult where
  applied : Bool
  reason : String
  status : OfferPublicationStatus
  deriving DecidableEq, Repr

def normalizePublicationStatus : String → Except PublicationError OfferPublicationStatus
  | "pending" => .ok .pending
  | "sent" => .ok .sent
  | "visible" => .ok .visible
  | "failed" => .ok .failed
  | "disabled" => .ok .disabled
  | "lagged" => .ok .lagged
  | value => .error (.unknownStatus value)

def normalizeOfferStatus (value : Option String) : String := pyLower (value.getD "")

def strictProviderInteger (field : String) (allowNegative : Bool) (value : Int) :
    Except PublicationError Int :=
  if value = 0 ∨ (allowNegative = false ∧ value < 0) then
    .error (.canonicalIdentity ("canonical_telegram_" ++ field ++ "_invalid"))
  else .ok value

/-- `normalize_telegram_publication_publisher_identity` (line 110). -/
def normalizePublisherIdentity (value : String) : Except PublicationError String :=
  if pyStrip value ∈ publisherIdentities then .ok (pyStrip value)
  else .error (.canonicalIdentity "canonical_telegram_publisher_mismatch")

/-- `ensure_telegram_publication_publisher_identity` (line 119). -/
def ensurePublisherIdentity (publisherBotIdentity : Option String) :
    Txn OfferPublicationState PublicationError String :=
  Txn.read id >>= fun state =>
  if state.surface ≠ .telegramChannel then
    Txn.raise (.canonicalIdentity "canonical_telegram_surface_mismatch")
  else
    Txn.lift (publisherBotIdentity.mapM normalizePublisherIdentity) >>= fun incoming =>
    if stripOrEmpty state.publisherBotIdentity ≠ "" then
      Txn.lift (normalizePublisherIdentity (stripOrEmpty state.publisherBotIdentity)) >>=
        fun current =>
      if incoming.any (· ≠ current) then
        Txn.raise (.canonicalIdentity "canonical_telegram_publisher_mismatch")
      else pure current
    else
      Txn.modify (fun state =>
        { state with publisherBotIdentity := some (incoming.getD primaryPublisher) }) >>= fun _ =>
      pure (incoming.getD primaryPublisher)

/-- One round over the provider's ids: an incoming one is checked, and the one it must not replace. -/
def checkProviderInteger (field : String) (allowNegative : Bool) (incoming existing : Option Int) :
    Except PublicationError Unit :=
  match incoming, existing with
  | none, _ => .ok ()
  | some value, none => (strictProviderInteger field allowNegative value).map fun _ => ()
  | some value, some current =>
    strictProviderInteger field allowNegative value >>= fun validated =>
    strictProviderInteger field allowNegative current >>= fun existingValue =>
    if existingValue ≠ validated then
      .error (.canonicalIdentity ("canonical_telegram_" ++ field ++ "_mismatch"))
    else .ok ()

def checkSurfaceResource (state : OfferPublicationState) (update : PublicationUpdate) :
    Except PublicationError Unit :=
  match update.surfaceResourceId with
  | none => .ok ()
  | some resource =>
    if state.surfaceResourceId.any (· ≠ resource) then
      .error (.canonicalIdentity "canonical_telegram_surface_resource_mismatch")
    else if update.telegramMessageId.any fun message => resource ≠ toString message then
      .error (.canonicalIdentity "canonical_telegram_surface_resource_message_mismatch")
    else .ok ()

def validateCanonicalTelegramUpdate (state : OfferPublicationState) (update : PublicationUpdate) :
    Except PublicationError Bool :=
  if state.surface ≠ .telegramChannel then
    if update.publisherBotIdentity.isSome ∨ update.telegramChatId.isSome ∨
        update.telegramMessageId.isSome then
      .error (.canonicalIdentity "canonical_telegram_fields_on_non_telegram_surface")
    else if state.publisherBotIdentity.isSome then
      .error (.canonicalIdentity "canonical_telegram_publisher_on_non_telegram_surface")
    else .ok false
  else
    (if stripOrEmpty state.publisherBotIdentity ≠ "" then
      (normalizePublisherIdentity (stripOrEmpty state.publisherBotIdentity)).map some
      else .ok none) >>= fun currentPublisher =>
    update.publisherBotIdentity.mapM normalizePublisherIdentity >>= fun incomingPublisher =>
    if currentPublisher.any fun current => incomingPublisher.any (current ≠ ·) then
      .error (.canonicalIdentity "canonical_telegram_publisher_mismatch")
    else
      checkProviderInteger "chat_id" true update.telegramChatId state.telegramChatId >>= fun _ =>
      checkProviderInteger "message_id" false update.telegramMessageId state.telegramMessageId >>=
        fun _ =>
      if currentPublisher.or incomingPublisher = none ∧
          (update.telegramMessageId.isSome ∨ state.telegramMessageId.isSome) then
        .error (.canonicalIdentity "canonical_telegram_publisher_missing")
      else (checkSurfaceResource state update).map fun _ => true

def PublicationUpdate.stale (update : PublicationUpdate) (state : OfferPublicationState) : Bool :=
  state.offerVersionId.any fun current => update.offerVersionId.any (· < current)

def PublicationUpdate.converted (update : PublicationUpdate) (requested : OfferPublicationStatus) :
    Bool :=
  normalizeOfferStatus update.offerStatus ∈ terminalOfferStatuses &&
    requested ∈ activePublicationStatuses

/-- `error_code or "offer_terminal"`. -/
def terminalErrorCode (errorCode : Option String) : Option String :=
  if errorCode.getD "" = "" then some "offer_terminal" else errorCode

def writeUpdate (update : PublicationUpdate) (requested : OfferPublicationStatus)
    (state : OfferPublicationState) : OfferPublicationState :=
  let converted := update.converted requested
  let appliedStatus := if converted then .disabled else requested
  { state with
    status := appliedStatus
    offerVersionId := update.offerVersionId.or state.offerVersionId
    lastKnownOfferStatus :=
      if normalizeOfferStatus update.offerStatus = "" then none
      else some (normalizeOfferStatus update.offerStatus)
    errorCode := if converted then terminalErrorCode update.errorCode else update.errorCode
    errorMessage := update.errorMessage
    lastAttemptAt :=
      if appliedStatus ∈ [.pending, .failed] then some update.now else state.lastAttemptAt
    lastSuccessAt :=
      if appliedStatus ∈ [.sent, .visible] then some update.now else state.lastSuccessAt
    disabledAt := if appliedStatus = .disabled then some update.now else state.disabledAt
    laggedAt := if appliedStatus = .lagged then some update.now else state.laggedAt
    surfaceResourceId := update.surfaceResourceId.or state.surfaceResourceId
    telegramChatId := update.telegramChatId.or state.telegramChatId
    telegramMessageId := update.telegramMessageId.or state.telegramMessageId }

def applyPublicationStateUpdate (update : PublicationUpdate) :
    Txn OfferPublicationState PublicationError PublicationStateApplyResult :=
  Txn.read id >>= fun state =>
  if update.stale state then pure ⟨false, "stale_offer_version", state.status⟩
  else
    Txn.lift (validateCanonicalTelegramUpdate state update) >>= fun isTelegramPublication =>
    Txn.lift (normalizePublicationStatus update.requestedStatus) >>= fun requested =>
    (if isTelegramPublication && update.publisherBotIdentity.isSome then
      ensurePublisherIdentity update.publisherBotIdentity >>= fun _ => pure ()
      else pure ()) >>= fun _ =>
    Txn.modify (writeUpdate update requested) >>= fun _ =>
    if update.converted requested then pure ⟨true, "converted_terminal_offer", .disabled⟩
    else pure ⟨true, "applied", requested⟩

/-! ## What a check lets through -/

section Checks

variable {state : OfferPublicationState} {update : PublicationUpdate}
  {field : String} {allowNegative : Bool} {value : Int}

theorem exceptBind_ok {ε α β : Type} {first : Except ε α} {next : α → Except ε β} {b : β} :
    (first >>= next) = .ok b ↔ ∃ a, first = .ok a ∧ next a = .ok b := by
  cases first with
  | error e =>
    constructor
    · intro h
      cases h
    · rintro ⟨a, h, -⟩
      cases h
  | ok a =>
    constructor
    · intro h
      exact ⟨a, rfl, h⟩
    · rintro ⟨a', h, hnext⟩
      cases h
      exact hnext

theorem exceptMap_ok {ε α β : Type} {first : Except ε α} {f : α → β} {b : β} :
    first.map f = .ok b ↔ ∃ a, first = .ok a ∧ b = f a := by
  cases first with
  | error e =>
    constructor
    · intro h
      cases h
    · rintro ⟨a, h, -⟩
      cases h
  | ok a =>
    constructor
    · intro h
      cases h
      exact ⟨a, rfl, rfl⟩
    · rintro ⟨a', h, rfl⟩
      cases h
      rfl

theorem strictProviderInteger_ok {result : Int}
    (h : strictProviderInteger field allowNegative value = .ok result) : result = value := by
  unfold strictProviderInteger at h
  split at h
  · cases h
  · cases h
    rfl

theorem checkProviderInteger_ok {current : Int}
    (h : checkProviderInteger field allowNegative (some value) (some current) = .ok ()) :
    current = value := by
  unfold checkProviderInteger at h
  obtain ⟨validated, hvalue, h⟩ := exceptBind_ok.mp h
  obtain ⟨existing, hcurrent, h⟩ := exceptBind_ok.mp h
  split at h
  · cases h
  · rename_i hsame
    rw [← strictProviderInteger_ok hvalue, ← strictProviderInteger_ok hcurrent]
    exact not_not.mp hsame

structure Validated (state : OfferPublicationState) (update : PublicationUpdate)
    (isTelegram : Bool) : Prop where
  surface : isTelegram = true ↔ state.surface = .telegramChannel
  publisher : ∀ given, isTelegram = true → update.publisherBotIdentity = some given →
    pyStrip given ∈ publisherIdentities ∧
      (stripOrEmpty state.publisherBotIdentity ≠ "" →
        stripOrEmpty state.publisherBotIdentity = pyStrip given)
  chat : ∀ given current, update.telegramChatId = some given →
    state.telegramChatId = some current → current = given
  message : ∀ given current, update.telegramMessageId = some given →
    state.telegramMessageId = some current → current = given
  resource : ∀ resource message, update.surfaceResourceId = some resource →
    update.telegramMessageId = some message → resource = toString message

theorem checkSurfaceResource_ok (h : checkSurfaceResource state update = .ok ()) :
    ∀ resource message, update.surfaceResourceId = some resource →
      update.telegramMessageId = some message → resource = toString message := by
  intro resource message hresource hmessage
  unfold checkSurfaceResource at h
  rw [hresource] at h
  dsimp only at h
  split at h
  · cases h
  · split at h
    · cases h
    · rename_i hsame
      rw [hmessage] at hsame
      simpa using hsame

theorem normalizePublisherIdentity_ok {value result : String}
    (h : normalizePublisherIdentity value = .ok result) :
    result = pyStrip value ∧ pyStrip value ∈ publisherIdentities := by
  unfold normalizePublisherIdentity at h
  split at h
  · rename_i hmem
    cases h
    exact ⟨rfl, hmem⟩
  · cases h

theorem mapM_normalizePublisherIdentity_ok {given : String} {incoming : Option String}
    (h : (some given).mapM normalizePublisherIdentity = .ok incoming) :
    incoming = some (pyStrip given) ∧ pyStrip given ∈ publisherIdentities := by
  obtain ⟨named, hnamed, hincoming⟩ := exceptMap_ok.mp h
  obtain ⟨rfl, hknown⟩ := normalizePublisherIdentity_ok hnamed
  exact ⟨hincoming, hknown⟩

theorem validated_of_ok {isTelegram : Bool}
    (h : validateCanonicalTelegramUpdate state update = .ok isTelegram) :
    Validated state update isTelegram := by
  unfold validateCanonicalTelegramUpdate at h
  by_cases hsurface : state.surface = .telegramChannel
  · rw [if_neg (not_not.mpr hsurface)] at h
    obtain ⟨current, hcurrent, h⟩ := exceptBind_ok.mp h
    obtain ⟨incoming, hincoming, h⟩ := exceptBind_ok.mp h
    split at h
    · cases h
    rename_i hsame
    obtain ⟨_, hchat, h⟩ := exceptBind_ok.mp h
    obtain ⟨_, hmessage, h⟩ := exceptBind_ok.mp h
    split at h
    · cases h
    cases hresource : checkSurfaceResource state update with
    | error e =>
      rw [hresource] at h
      cases h
    | ok _ =>
      rw [hresource] at h
      cases h
      refine ⟨⟨fun _ => hsurface, fun _ => rfl⟩, ?_, ?_, ?_, checkSurfaceResource_ok hresource⟩
      · intro given _ hgiven
        rw [hgiven] at hincoming
        obtain ⟨rfl, hknown⟩ := mapM_normalizePublisherIdentity_ok hincoming
        refine ⟨hknown, fun hset => ?_⟩
        rw [if_pos hset] at hcurrent
        obtain ⟨named, hnamed, rfl⟩ := exceptMap_ok.mp hcurrent
        have hstrip := (normalizePublisherIdentity_ok hnamed).1
        rw [show pyStrip (stripOrEmpty state.publisherBotIdentity) =
          stripOrEmpty state.publisherBotIdentity from pyStrip_pyStrip _] at hstrip
        rw [← hstrip]
        simpa using hsame
      · intro given existing hgiven hexisting
        rw [hgiven, hexisting] at hchat
        exact checkProviderInteger_ok hchat
      · intro given existing hgiven hexisting
        rw [hgiven, hexisting] at hmessage
        exact checkProviderInteger_ok hmessage
  · rw [if_pos hsurface] at h
    split at h
    · cases h
    rename_i hfields
    split at h
    · cases h
    cases h
    simp only [not_or, Bool.not_eq_true, Option.isSome_eq_false_iff, Option.isNone_iff_eq_none]
      at hfields
    obtain ⟨hpublisher, hchat, hmessage⟩ := hfields
    refine ⟨by simp [hsurface], ?_, ?_, ?_, ?_⟩
    · intro given htelegram
      cases htelegram
    · intro given existing hgiven
      rw [hchat] at hgiven
      cases hgiven
    · intro given existing hgiven
      rw [hmessage] at hgiven
      cases hgiven
    · intro resource message _ hgiven
      rw [hmessage] at hgiven
      cases hgiven

end Checks

/-! ## One update -/

def PublicationUpdate.Accepted (update : PublicationUpdate) (state : OfferPublicationState) :
    Prop :=
  update.stale state = false ∧ (validateCanonicalTelegramUpdate state update).isOk ∧
    (normalizePublicationStatus update.requestedStatus).isOk

instance (update : PublicationUpdate) (state : OfferPublicationState) :
    Decidable (update.Accepted state) :=
  inferInstanceAs (Decidable (_ ∧ _ ∧ _))

def assignPublisher (given : String) (state : OfferPublicationState) : OfferPublicationState :=
  if stripOrEmpty state.publisherBotIdentity ≠ "" then state
  else { state with publisherBotIdentity := some (pyStrip given) }

def publishedBy (update : PublicationUpdate) (isTelegram : Bool) (state : OfferPublicationState) :
    OfferPublicationState :=
  match isTelegram, update.publisherBotIdentity with
  | true, some given => assignPublisher given state
  | _, _ => state

section Update

variable {state : OfferPublicationState} {update : PublicationUpdate}

theorem ensurePublisherIdentity_of_validated (hvalid : Validated state update true) {given : String}
    (hgiven : update.publisherBotIdentity = some given) :
    ∃ publisher, ensurePublisherIdentity (some given) state =
      (.ok publisher, assignPublisher given state) := by
  have hsurface := hvalid.surface.mp rfl
  obtain ⟨hknown, hcurrent⟩ := hvalid.publisher given rfl hgiven
  have hincoming : (some given).mapM normalizePublisherIdentity = .ok (some (pyStrip given)) := by
    show (normalizePublisherIdentity given).map some = _
    rw [normalizePublisherIdentity, if_pos hknown]
    rfl
  unfold ensurePublisherIdentity
  rw [Txn.bind_read, id, if_neg (not_not.mpr hsurface), Txn.bind_apply, Txn.lift_apply, hincoming]
  dsimp only
  by_cases hset : stripOrEmpty state.publisherBotIdentity ≠ ""
  · have hsame := hcurrent hset
    have hnamed : normalizePublisherIdentity (stripOrEmpty state.publisherBotIdentity) =
        .ok (pyStrip given) := by
      rw [hsame, normalizePublisherIdentity, pyStrip_pyStrip, if_pos hknown]
    rw [if_pos hset, Txn.bind_apply, Txn.lift_apply, hnamed]
    refine ⟨pyStrip given, ?_⟩
    rw [assignPublisher, if_pos hset]
    simp
  · rw [if_neg hset]
    refine ⟨pyStrip given, ?_⟩
    rw [assignPublisher, if_neg hset]
    rfl

theorem apply_of_not_accepted (h : ¬ update.Accepted state) :
    (applyPublicationStateUpdate update state).2 = state ∧
      ∀ result, (applyPublicationStateUpdate update state).1 = .ok result →
        result.applied = false := by
  unfold applyPublicationStateUpdate
  rw [Txn.bind_read, id]
  by_cases hstale : update.stale state = true
  · rw [if_pos hstale]
    refine ⟨rfl, fun result hresult => ?_⟩
    cases hresult
    rfl
  rw [if_neg hstale, Txn.bind_apply, Txn.lift_apply]
  cases hvalid : validateCanonicalTelegramUpdate state update with
  | error e =>
    refine ⟨rfl, fun result hresult => ?_⟩
    cases hresult
  | ok isTelegram =>
    dsimp only
    rw [Txn.bind_apply, Txn.lift_apply]
    cases hstatus : normalizePublicationStatus update.requestedStatus with
    | error e =>
      refine ⟨rfl, fun result hresult => ?_⟩
      cases hresult
    | ok requested =>
      refine absurd ⟨Bool.not_eq_true _ ▸ hstale, ?_, ?_⟩ h
      · rw [hvalid]
        rfl
      · rw [hstatus]
        rfl

theorem apply_of_accepted (h : update.Accepted state) :
    ∃ isTelegram requested result, Validated state update isTelegram ∧
      normalizePublicationStatus update.requestedStatus = .ok requested ∧
      applyPublicationStateUpdate update state =
        (.ok result, writeUpdate update requested (publishedBy update isTelegram state)) := by
  obtain ⟨hfresh, hvalid, hstatus⟩ := h
  cases hrun : validateCanonicalTelegramUpdate state update with
  | error e =>
    rw [hrun] at hvalid
    cases hvalid
  | ok isTelegram =>
    cases hrequested : normalizePublicationStatus update.requestedStatus with
    | error e =>
      rw [hrequested] at hstatus
      cases hstatus
    | ok requested =>
      have hvalidated := validated_of_ok hrun
      have hpublisher : (if isTelegram && update.publisherBotIdentity.isSome then
          ensurePublisherIdentity update.publisherBotIdentity >>= fun _ => pure ()
          else pure () : Txn OfferPublicationState PublicationError Unit) state =
            (.ok (), publishedBy update isTelegram state) := by
        cases isTelegram with
        | false => rfl
        | true =>
          cases hgiven : update.publisherBotIdentity with
          | none =>
            have hby : publishedBy update true state = state := by
              unfold publishedBy
              rw [hgiven]
            rw [hby]
            rfl
          | some given =>
            obtain ⟨publisher, hensure⟩ := ensurePublisherIdentity_of_validated hvalidated hgiven
            have hby : publishedBy update true state = assignPublisher given state := by
              unfold publishedBy
              rw [hgiven]
            rw [hby]
            show ((ensurePublisherIdentity (some given) >>= fun _ => pure ()) :
              Txn OfferPublicationState PublicationError Unit) state = _
            rw [Txn.bind_apply, hensure]
            rfl
      have happly : applyPublicationStateUpdate update state =
          (if update.converted requested then
            (pure ⟨true, "converted_terminal_offer", .disabled⟩ :
              Txn OfferPublicationState PublicationError PublicationStateApplyResult)
            else pure ⟨true, "applied", requested⟩)
            (writeUpdate update requested (publishedBy update isTelegram state)) := by
        unfold applyPublicationStateUpdate
        rw [Txn.bind_read, id, if_neg (by rw [hfresh]; exact Bool.false_ne_true), Txn.bind_apply,
          Txn.lift_apply, hrun]
        dsimp only
        rw [Txn.bind_apply, Txn.lift_apply, hrequested]
        dsimp only
        rw [Txn.bind_apply, hpublisher]
        rfl
      rw [happly]
      split
      · exact ⟨isTelegram, requested, _, hvalidated, rfl, rfl⟩
      · exact ⟨isTelegram, requested, _, hvalidated, rfl, rfl⟩

theorem publishedBy_keeps (isTelegram : Bool) :
    (∀ publisher, state.publisherBotIdentity = some publisher → pyStrip publisher ≠ "" →
      (publishedBy update isTelegram state).publisherBotIdentity = some publisher) ∧
    (publishedBy update isTelegram state).surfaceResourceId = state.surfaceResourceId ∧
    (publishedBy update isTelegram state).telegramChatId = state.telegramChatId ∧
    (publishedBy update isTelegram state).telegramMessageId = state.telegramMessageId ∧
    (publishedBy update isTelegram state).offerVersionId = state.offerVersionId := by
  unfold publishedBy
  split
  · unfold assignPublisher
    split
    · exact ⟨fun _ h _ => h, rfl, rfl, rfl, rfl⟩
    · rename_i hunset
      refine ⟨fun publisher hset hname => ?_, rfl, rfl, rfl, rfl⟩
      rw [hset] at hunset
      exact absurd hname hunset
  · exact ⟨fun _ h _ => h, rfl, rfl, rfl, rfl⟩

end Update

/-! ## Runs of updates -/

def step (state : OfferPublicationState) (update : PublicationUpdate) : OfferPublicationState :=
  (applyPublicationStateUpdate update state).2

def ResourceMatches (state : OfferPublicationState) : Prop :=
  ∀ resource message, state.surfaceResourceId = some resource →
    state.telegramMessageId = some message → resource = toString message

/-- An accepted call that gives only one of the two ids finds the other one unset or equal. -/
def GivesMatching (state : OfferPublicationState) (update : PublicationUpdate) : Prop :=
  update.Accepted state →
    (∀ message resource, update.telegramMessageId = some message →
      update.surfaceResourceId = none → state.surfaceResourceId = some resource →
      resource = toString message) ∧
    (∀ resource message, update.surfaceResourceId = some resource →
      update.telegramMessageId = none → state.telegramMessageId = some message →
      resource = toString message)

structure SoundUpdate (state : OfferPublicationState) (update : PublicationUpdate)
    (after : OfferPublicationState) : Prop where
  version : ∀ version, state.offerVersionId = some version →
    ∃ later, after.offerVersionId = some later ∧ version ≤ later
  publisher : ∀ publisher, state.publisherBotIdentity = some publisher → pyStrip publisher ≠ "" →
    after.publisherBotIdentity = some publisher
  chat : ∀ chat, state.telegramChatId = some chat → after.telegramChatId = some chat
  message : ∀ message, state.telegramMessageId = some message →
    after.telegramMessageId = some message
  terminal : ∀ result, (applyPublicationStateUpdate update state).1 = .ok result →
    result.applied = true → normalizeOfferStatus update.offerStatus ∈ terminalOfferStatuses →
    after.status ∉ activePublicationStatuses
  known : after ≠ state → ∀ status, after.lastKnownOfferStatus = some status →
    status ∈ terminalOfferStatuses → after.status ∉ activePublicationStatuses
  raised : ∀ e, (applyPublicationStateUpdate update state).1 = .error e → after = state

section Steps

variable (state : OfferPublicationState) (update : PublicationUpdate)

theorem writeUpdate_inactive {requested : OfferPublicationStatus}
    (hterminal : normalizeOfferStatus update.offerStatus ∈ terminalOfferStatuses) :
    (writeUpdate update requested state).status ∉ activePublicationStatuses := by
  unfold writeUpdate PublicationUpdate.converted
  simp only [hterminal, decide_true, Bool.true_and, decide_eq_true_eq]
  split
  · decide
  · assumption

theorem or_eq_of_agrees {given current : Option Int} {value : Int} (hset : current = some value)
    (hsame : ∀ incoming existing, given = some incoming → current = some existing →
      existing = incoming) : given.or current = some value := by
  cases hgiven : given with
  | none => rw [Option.none_or, hset]
  | some incoming => rw [Option.some_or, hsame incoming value hgiven hset]

theorem soundUpdate_step : SoundUpdate state update (step state update) := by
  by_cases haccepted : update.Accepted state
  · obtain ⟨isTelegram, requested, result, hvalid, -, happly⟩ := apply_of_accepted haccepted
    obtain ⟨hpublisher, -, hchat, hmessage, hversion⟩ :=
      @publishedBy_keeps state update isTelegram
    have hstep : step state update =
        writeUpdate update requested (publishedBy update isTelegram state) := by
      rw [step, happly]
    rw [hstep]
    constructor
    case version =>
      intro version hset
      show ∃ later, update.offerVersionId.or
        (publishedBy update isTelegram state).offerVersionId = some later ∧ version ≤ later
      rw [hversion, hset]
      cases hgiven : update.offerVersionId with
      | none => exact ⟨version, rfl, Int.le_refl _⟩
      | some given =>
        refine ⟨given, rfl, ?_⟩
        have hfresh := haccepted.1
        unfold PublicationUpdate.stale at hfresh
        rw [hset, hgiven] at hfresh
        simpa using hfresh
    case publisher => exact hpublisher
    case chat =>
      intro chat hset
      show update.telegramChatId.or (publishedBy update isTelegram state).telegramChatId = some chat
      rw [hchat]
      exact or_eq_of_agrees hset hvalid.chat
    case message =>
      intro message hset
      show update.telegramMessageId.or
        (publishedBy update isTelegram state).telegramMessageId = some message
      rw [hmessage]
      exact or_eq_of_agrees hset hvalid.message
    case terminal =>
      intro _ _ _ hterminal
      exact writeUpdate_inactive _ update hterminal
    case known =>
      intro _ status hknown hterminal
      apply writeUpdate_inactive
      unfold writeUpdate at hknown
      dsimp only at hknown
      split at hknown
      · cases hknown
      · cases hknown
        exact hterminal
    case raised =>
      intro e hraised
      rw [happly] at hraised
      cases hraised
  · obtain ⟨hsame, hnotApplied⟩ := apply_of_not_accepted haccepted
    rw [show step state update = state from hsame]
    constructor
    case version => exact fun version hset => ⟨version, hset, Int.le_refl _⟩
    case publisher => exact fun _ hset _ => hset
    case chat => exact fun _ hset => hset
    case message => exact fun _ hset => hset
    case terminal =>
      intro result hresult happlied
      rw [hnotApplied result hresult] at happlied
      cases happlied
    case known => exact fun hne => absurd rfl hne
    case raised => exact fun _ _ => rfl

theorem resourceMatches_step_iff (h : ResourceMatches state) :
    ResourceMatches (step state update) ↔ GivesMatching state update := by
  by_cases haccepted : update.Accepted state
  · obtain ⟨isTelegram, requested, result, hvalid, -, happly⟩ := apply_of_accepted haccepted
    obtain ⟨-, hresource, -, hmessage, -⟩ := @publishedBy_keeps state update isTelegram
    have hafter : (step state update).surfaceResourceId =
          update.surfaceResourceId.or state.surfaceResourceId ∧
        (step state update).telegramMessageId =
          update.telegramMessageId.or state.telegramMessageId := by
      rw [step, happly, ← hresource, ← hmessage]
      exact ⟨rfl, rfl⟩
    unfold ResourceMatches GivesMatching
    rw [hafter.1, hafter.2]
    constructor
    · intro hmatches _
      refine ⟨fun message resource hgiven hnone hset => ?_,
        fun resource message hgiven hnone hset => ?_⟩
      · refine hmatches resource message ?_ ?_
        · rw [hnone, Option.none_or, hset]
        · rw [hgiven, Option.some_or]
      · refine hmatches resource message ?_ ?_
        · rw [hgiven, Option.some_or]
        · rw [hnone, Option.none_or, hset]
    · intro hgives resource message hres hmsg
      obtain ⟨hfound, hfound'⟩ := hgives haccepted
      cases hgiven : update.surfaceResourceId with
      | none =>
        rw [hgiven, Option.none_or] at hres
        cases hgiven' : update.telegramMessageId with
        | none =>
          rw [hgiven', Option.none_or] at hmsg
          exact h resource message hres hmsg
        | some given' =>
          rw [hgiven', Option.some_or] at hmsg
          exact hfound message resource (hgiven'.trans hmsg) hgiven hres
      | some given =>
        rw [hgiven, Option.some_or] at hres
        cases hgiven' : update.telegramMessageId with
        | none =>
          rw [hgiven', Option.none_or] at hmsg
          exact hfound' resource message (hgiven.trans hres) hgiven' hmsg
        | some given' =>
          rw [hgiven', Option.some_or] at hmsg
          exact hvalid.resource resource message (hgiven.trans hres) (hgiven'.trans hmsg)
  · have hsame : step state update = state := (apply_of_not_accepted haccepted).1
    rw [hsame]
    exact ⟨fun _ hyes => absurd hyes haccepted, fun _ => h⟩

end Steps

/-- In every run of updates from a state whose ids match, the version does not decrease, the
provider's identity stays once set, an ended offer is not published again and a call that raises
changes nothing; the resource id is the message id in every state exactly when every call gives
matching ones. -/
theorem publication_updates_sound_iff (state : OfferPublicationState)
    (updates : List PublicationUpdate) (h : ResourceMatches state) :
    EachStep step (fun before update after =>
        SoundUpdate before update after ∧ ResourceMatches after) state updates ↔
      EachStep step (fun before update _ => GivesMatching before update) state updates := by
  have hexact := eachStep_iff (I := fun _ => True) (P := ResourceMatches)
    (C := fun before update _ => GivesMatching before update) (fun _ _ _ => trivial)
    (fun before update _ hmatches => resourceMatches_step_iff before update hmatches)
    updates state trivial h
  constructor
  · intro hall
    exact hexact.mp (eachStep_of_invariant (I := fun _ => True) (fun _ _ _ _ => trivial)
      (fun _ _ _ hboth => hboth.2) updates state trivial hall)
  · intro hgives
    exact eachStep_of_invariant (I := fun _ => True) (fun _ _ _ _ => trivial)
      (fun before update _ hmatches => ⟨soundUpdate_step before update, hmatches⟩)
      updates state trivial (hexact.mpr hgives)

def channelState : OfferPublicationState :=
  { surface := .telegramChannel, publisherBotIdentity := some "primary", offerVersionId := some 1,
    lastKnownOfferStatus := some "active" }

/-- An update of the first version, which gives some of the ids. -/
def sentUpdate (surfaceResourceId : Option String) (telegramMessageId : Option Int) :
    PublicationUpdate :=
  { offerStatus := some "active", offerVersionId := some 1, requestedStatus := "sent", now := 0,
    surfaceResourceId := surfaceResourceId, telegramMessageId := telegramMessageId }

theorem channelState_matches : ResourceMatches channelState := by
  intro resource message hset
  cases hset

/-- The message id first, and then the resource id that is its text. -/
theorem same_id_twice :
    EachStep step (fun before update after =>
        SoundUpdate before update after ∧ ResourceMatches after) channelState
      [sentUpdate none (some 7), sentUpdate (some "7") none] := by
  refine (publication_updates_sound_iff _ _ channelState_matches).mpr ⟨?_, ?_, trivial⟩
  · refine fun _ => ⟨fun message resource _ _ hset => ?_, fun resource message hgiven => ?_⟩
    · cases hset
    · cases hgiven
  · refine fun _ => ⟨fun message resource hgiven => ?_, fun resource message hgiven _ hset => ?_⟩
    · cases hgiven
    · cases hgiven
      cases hset
      decide

/-- The resource id first, and then the id of another message: both calls are applied. -/
theorem ids_apart :
    ResourceMatches channelState ∧
      (applyPublicationStateUpdate (sentUpdate (some "5") none) channelState).1 =
        .ok ⟨true, "applied", .sent⟩ ∧
      (applyPublicationStateUpdate (sentUpdate none (some 7))
        (step channelState (sentUpdate (some "5") none))).1 = .ok ⟨true, "applied", .sent⟩ ∧
      ¬ EachStep step (fun before update after =>
          SoundUpdate before update after ∧ ResourceMatches after) channelState
        [sentUpdate (some "5") none, sentUpdate none (some 7)] := by
  refine ⟨channelState_matches, by decide, by decide, ?_⟩
  rintro ⟨-, ⟨-, hmatches⟩, -⟩
  have hsame := hmatches "5" 7 (by decide) (by decide)
  revert hsame
  decide

end TradingBot.Publication
