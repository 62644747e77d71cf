import TradingBot.Misc.PyText
import TradingBot.Sessions.Model

/-!
# Invitations, users and registration commands

Rows and pure rules of the registration on the Iran server: `src/core/registration_identity.py`,
`src/core/services/invitation_lifecycle_service.py`, the models of invitations, reservations and
receipts, and the decisions of `src/core/services/authoritative_registration_service.py`. Instants
are microseconds in UTC.

What the decision reads of the accountant and customer relations is the record `RelationChecks`:
whether the rows fit the invitation's kind, are valid for the branch taken, and admit the bot.
`isDigit` is `str.isdigit` of a character, `commandHash` the SHA-256 of a command.
-/

namespace TradingBot.Registration

open TradingBot.Misc TradingBot.Sessions

/-- `normalize_persian_numerals` (line 52). -/
def normalizePersianNumeral (c : Char) : Char :=
  if 0x06F0 ≤ c.toNat ∧ c.toNat ≤ 0x06F9 then Char.ofNat (c.toNat - 0x06F0 + 48)
  else if 0x0660 ≤ c.toNat ∧ c.toNat ≤ 0x0669 then Char.ofNat (c.toNat - 0x0660 + 48)
  else c

def normalizeMobileNumber (value : String) : String :=
  String.ofList ((pyStrip value).toList.map normalizePersianNumeral)

def normalizeAccountName (value : String) : String := pyLower (normalizeMobileNumber value)

/-- `NormalizedInvitationIdentity`. -/
structure NormalizedInvitationIdentity where
  mobileNumber : String
  accountName : String
  deriving DecidableEq, Repr

/-- `normalize_invitation_identity` (invitation_identity_reservation_service.py:28). -/
def normalizeInvitationIdentity (isDigit : Char → Bool) (mobileNumber accountName : String) :
    Option NormalizedInvitationIdentity :=
  let mobile := normalizeMobileNumber mobileNumber
  let account := normalizeAccountName accountName
  if mobile.length = 11 ∧ pyStartsWith "09" mobile ∧ mobile.toList.all isDigit ∧ account ≠ "" then
    some ⟨mobile, account⟩
  else none

/-- `InvitationKind`. -/
inductive InvitationKind where
  | standard
  | accountant
  | customer
  | legacyUnknown
  deriving DecidableEq, Repr

/-- `InvitationCompletionSurface`. -/
inductive InvitationCompletionSurface where
  | web
  | telegram
  deriving DecidableEq, Repr

/-- A row of `invitations`. -/
structure Invitation where
  id : Nat
  accountName : String
  mobileNumber : String
  token : String
  role : UserRole
  kind : InvitationKind
  createdById : Option Nat
  isUsed : Bool
  expiresAt : Int
  registeredUserId : Option Nat
  completedAt : Option Int
  completedVia : Option InvitationCompletionSurface
  revokedAt : Option Int
  deriving DecidableEq, Repr

/-- A row of `users` with the columns of the registration. -/
structure User where
  id : Nat
  accountName : String
  mobileNumber : String
  telegramId : Option Nat
  username : Option String
  address : String
  role : UserRole
  isDeleted : Bool
  isInactive : Bool
  deriving DecidableEq, Repr

/-- The computed columns `normalized_mobile_number` and `normalized_account_name`. -/
def User.normalizedMobileNumber (user : User) : String := normalizeMobileNumber user.mobileNumber
def User.normalizedAccountName (user : User) : String := normalizeAccountName user.accountName

/-- A row of `invitation_identity_reservations`. -/
structure InvitationIdentityReservation where
  invitationId : Nat
  normalizedMobile : String
  normalizedAccountName : String
  deriving DecidableEq, Repr

/-- `TelegramRegistrationOutcome`, with the outcomes of a registration. -/
inductive TelegramRegistrationOutcome where
  | created
  | linkedExisting
  | alreadyLinked
  | invalidCommand
  | changedPayloadReplay
  | invitationNotFound
  | invitationRevoked
  | invitationExpired
  | invitationAlreadyUsed
  | invalidIdentityProof
  | contactMobileMismatch
  | identityConflict
  | invalidRelation
  | telegramAccountConflict
  | telegramIdAlreadyUsed
  | mobileConflict
  | accountNameConflict
  | legacyStateAmbiguous
  | authoritativeUserMissing
  | accountInactive
  | accountDeleted
  deriving DecidableEq, Repr

/-- A row of `telegram_registration_command_receipts` with the outcome it was finalized with. -/
structure CommandReceipt where
  commandId : Nat
  idempotencyKey : String
  requestHash : String
  outcome : TelegramRegistrationOutcome
  authoritativeUserId : Option Nat
  deriving DecidableEq, Repr

/-- `TelegramRegistrationCommand` (core/registration_contracts.py:124), as it is validated. -/
structure TelegramRegistrationCommand where
  commandId : Nat
  idempotencyKey : String
  invitationToken : String
  mobileNumber : String
  telegramId : Nat
  telegramUsername : Option String
  telegramFullName : Option String
  address : String
  contactVerifiedAt : Int
  localCompletedAt : Int
  invitationExpiresAtSnapshot : Int
  deriving DecidableEq, Repr

/-- `AuthoritativeRegistrationRequest`: with a command it comes from the Telegram bot, without one
from the web. -/
structure RegistrationRequest where
  invitationToken : String
  address : String
  receivedAt : Int
  telegramCommand : Option TelegramRegistrationCommand
  deriving DecidableEq, Repr

structure Config where
  isDigit : Char → Bool
  commandHash : TelegramRegistrationCommand → String
  /-- `telegram_registration_post_expiry_grace_seconds`. -/
  graceSeconds : Int

/-- `InvitationDerivedState`. -/
inductive InvitationDerivedState where
  | pending
  | completed
  | revoked
  | expired
  deriving DecidableEq, Repr

/-- `derive_invitation_state` (invitation_lifecycle_service.py:44). -/
def deriveInvitationState (invitation : Invitation) (now : Int) : InvitationDerivedState :=
  if invitation.isUsed ∧ invitation.registeredUserId.getD 0 ≠ 0 ∧ invitation.completedAt.isSome ∧
      invitation.completedVia.isSome then .completed
  else if invitation.revokedAt.isSome then .revoked
  else if invitation.expiresAt < now then .expired
  else .pending

/-- `invitation_kind_from_token` (invitation_lifecycle_service.py:88). -/
def invitationKindFromToken (token : String) : InvitationKind :=
  if pyStartsWith "INV-" token then .standard
  else if pyStartsWith "ACCT-" token then .accountant
  else if pyStartsWith "CUST-" token then .customer
  else .legacyUnknown

/-- `is_post_expiry_reconciliation_allowed` (invitation_lifecycle_service.py:99). -/
def isPostExpiryReconciliationAllowed (invitation : Invitation) (proofCompletedAt receivedAt : Int)
    (graceSeconds : Int) : Bool :=
  invitation.revokedAt.isNone && decide (proofCompletedAt ≤ invitation.expiresAt) &&
    decide (receivedAt ≤ invitation.expiresAt + max graceSeconds 0 * 1000000)

/-- `_validate_invitation_time` (authoritative_registration_service.py:261): what it refuses. -/
def invitationTimeFailure (config : Config) (request : RegistrationRequest)
    (invitation : Invitation) : Option TelegramRegistrationOutcome :=
  match request.telegramCommand with
  | none => if invitation.expiresAt < request.receivedAt then some .invitationExpired else none
  | some command =>
    if command.invitationExpiresAtSnapshot ≠ invitation.expiresAt then some .invalidIdentityProof
    else if invitation.expiresAt < command.localCompletedAt then some .invitationExpired
    else if request.receivedAt ≤ invitation.expiresAt then none
    else if isPostExpiryReconciliationAllowed invitation command.localCompletedAt request.receivedAt
        config.graceSeconds then none
    else some .invitationExpired

/-! ## What a completion decides -/

structure RelationChecks where
  relationLoaded : Bool
  relationValid : Bool
  projectionAllowed : Bool
  currentlyEligible : Bool
  deriving DecidableEq, Repr

inductive Decision where
  /-- An error: a command records it, a request of the web application raises it. -/
  | refuse (outcome : TelegramRegistrationOutcome)
  /-- An answer that writes no user. -/
  | answer (outcome : TelegramRegistrationOutcome) (userId : Option Nat)
  | link (userId : Nat)
  | create
  /-- Another exception: the transaction is rolled back. -/
  | crash
  deriving DecidableEq, Repr

/-- `_load_matching_users_for_update` (authoritative_registration_service.py:223). -/
def matchingUsers (users : List User) (invitation : Invitation)
    (identity : NormalizedInvitationIdentity) (telegramId : Option Nat) : List User :=
  users.filter fun user =>
    user.normalizedMobileNumber = identity.mobileNumber ||
      user.normalizedAccountName = identity.accountName ||
      (telegramId.isSome && user.telegramId = telegramId) ||
      invitation.registeredUserId = some user.id

/-- `_raise_for_existing_user_state` (authoritative_registration_service.py:539). -/
def existingUserFailure (users : List User) : Option TelegramRegistrationOutcome :=
  users.findSome? fun user =>
    if user.isDeleted then some .accountDeleted
    else if user.isInactive then some .accountInactive
    else none

/-- `_validate_pending_natural_keys` (authoritative_registration_service.py:547). -/
def pendingNaturalKeyFailure (users : List User) (identity : NormalizedInvitationIdentity)
    (telegramId : Option Nat) : Option TelegramRegistrationOutcome :=
  if users = [] then none
  else if (existingUserFailure users).isSome then existingUserFailure users
  else if users.any fun user => telegramId.isSome && user.telegramId = telegramId then
    some .telegramIdAlreadyUsed
  else if users.any fun user => user.normalizedMobileNumber = identity.mobileNumber then
    some .mobileConflict
  else if users.any fun user => user.normalizedAccountName = identity.accountName then
    some .accountNameConflict
  else some .identityConflict

/-- `_registered_user_for_completed_invitation` (authoritative_registration_service.py:583). -/
def registeredUser (config : Config) (invitation : Invitation) (users : List User)
    (identity : NormalizedInvitationIdentity) : Except TelegramRegistrationOutcome User :=
  if invitation.registeredUserId = none ∨ invitation.completedAt = none ∨
      invitation.completedVia = none then .error .legacyStateAmbiguous
  else
    match users.find? fun user => invitation.registeredUserId = some user.id with
    | none => .error .authoritativeUserMissing
    | some user =>
      if normalizeInvitationIdentity config.isDigit user.mobileNumber user.accountName =
          some identity then .ok user
      else .error .legacyStateAmbiguous

def decideUsed (config : Config) (request : RegistrationRequest) (invitation : Invitation)
    (users : List User) (identity : NormalizedInvitationIdentity) (checks : RelationChecks) :
    Decision :=
  match registeredUser config invitation users identity with
  | .error outcome => .refuse outcome
  | .ok user =>
    match existingUserFailure [user] with
    | some outcome => .refuse outcome
    | none =>
      if !checks.relationValid then .refuse .invalidRelation
      else
        match request.telegramCommand with
        | none =>
          if invitation.completedVia ≠ some .web ∨ user.address ≠ request.address then
            .refuse .invitationAlreadyUsed
          else .answer .created (some user.id)
        | some command =>
          if !checks.projectionAllowed || !checks.currentlyEligible then .refuse .invalidRelation
          else if users.any fun other =>
              other.telegramId = some command.telegramId && other.id ≠ user.id then
            .refuse .telegramIdAlreadyUsed
          else
            match user.telegramId with
            | none => .link user.id
            | some bound =>
              if bound = command.telegramId then .answer .alreadyLinked (some user.id)
              else .refuse .telegramAccountConflict

def decidePending (request : RegistrationRequest) (users : List User)
    (identity : NormalizedInvitationIdentity) (checks : RelationChecks) : Decision :=
  if !checks.relationValid then .refuse .invalidRelation
  else if request.telegramCommand.isSome && !checks.projectionAllowed then .refuse .invalidRelation
  else
    match pendingNaturalKeyFailure users identity
        (request.telegramCommand.map (·.telegramId)) with
    | some outcome => .refuse outcome
    | none => .create

/-- `complete_invitation_registration` (authoritative_registration_service.py:822) between the lock
and the writes. -/
def decideCompletion (config : Config) (request : RegistrationRequest)
    (invitation : Option Invitation) (users : List User) (checks : RelationChecks) : Decision :=
  match invitation with
  | none => .refuse .invitationNotFound
  | some invitation =>
    if invitation.kind = .legacyUnknown ∨ invitationKindFromToken invitation.token ≠ invitation.kind
    then .refuse .legacyStateAmbiguous
    else if invitation.revokedAt.isSome then .refuse .invitationRevoked
    else
      let replayed := request.telegramCommand.isNone && invitation.isUsed &&
        invitation.completedVia = some .web
      match (if replayed then none else invitationTimeFailure config request invitation) with
      | some outcome => .refuse outcome
      | none =>
        match normalizeInvitationIdentity config.isDigit invitation.mobileNumber
            invitation.accountName with
        | none => .crash
        | some identity =>
          if request.telegramCommand.any fun command =>
              command.mobileNumber ≠ identity.mobileNumber then .refuse .contactMobileMismatch
          else if !checks.relationLoaded then .refuse .invalidRelation
          else
            let users := matchingUsers users invitation identity
              (request.telegramCommand.map (·.telegramId))
            if invitation.isUsed then decideUsed config request invitation users identity checks
            else decidePending request users identity checks

/-- `_persist_integrity_conflict_receipt` (authoritative_registration_service.py:719): the outcome
recorded after a refused write. -/
def decideConflict (config : Config) (command : TelegramRegistrationCommand)
    (conflict : TelegramRegistrationOutcome) (invitation : Option Invitation) (users : List User) :
    Decision :=
  match invitation with
  | none => .answer .invitationNotFound none
  | some invitation =>
    if invitation.revokedAt.isSome then .answer .invitationRevoked none
    else
      match normalizeInvitationIdentity config.isDigit invitation.mobileNumber
          invitation.accountName with
      | none => .answer .legacyStateAmbiguous none
      | some identity =>
        let users := matchingUsers users invitation identity (some command.telegramId)
        if invitation.isUsed then
          match registeredUser config invitation users identity with
          | .error outcome => .answer outcome none
          | .ok user =>
            match existingUserFailure [user], user.telegramId with
            | some outcome, _ => .answer outcome none
            | none, none => .answer conflict none
            | none, some bound =>
              if bound = command.telegramId then .answer .alreadyLinked (some user.id)
              else .answer .telegramAccountConflict none
        else
          .answer ((pendingNaturalKeyFailure users identity (some command.telegramId)).getD
            conflict) none

end TradingBot.Registration
