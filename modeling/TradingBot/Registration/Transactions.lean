import TradingBot.Misc.Locks
import TradingBot.Misc.Unique
import TradingBot.Registration.Model

/-!
# Registration transactions

The transactions that complete, revoke and create invitations, one statement group at a time, so
that any number interleave: the receipt of a Telegram command under its locks, the probe for the
keys of the invitation, the locks of the transition, the decision on the rows, and the commit.

Keys and ids of users and receipts are unique: an insert or a link that breaks one is refused, and a
Telegram command then looks again and records what it finds. Other ways to create users run beside
and take no lock.
-/

namespace TradingBot.Registration

open TradingBot.Misc TradingBot.Sessions

/-- The advisory locks' keys (invitation_identity_reservation_service.py:50,
registration_command_receipt_service.py:28). -/
inductive LockKey where
  | token (token : String)
  | account (accountName : String)
  | mobile (mobileNumber : String)
  | telegram (telegramId : Nat)
  | creator (userId : Nat)
  | command (commandId : Nat)
  | idempotency (key : String)
  deriving DecidableEq, Repr

/-- The input of `create_or_reuse_canonical_invitation`. -/
structure InvitationDraft where
  creatorUserId : Nat
  accountName : String
  mobileNumber : String
  role : UserRole
  kind : InvitationKind
  deriving DecidableEq, Repr

inductive Job where
  | complete (request : RegistrationRequest)
  | revoke (invitationId : Nat)
  | create (draft : InvitationDraft)
  deriving DecidableEq, Repr

inductive Stage where
  | begun
  /-- The command has no receipt yet; about to look at the invitation. -/
  | receipted
  /-- With the keys to lock, and whether the invitation was there. -/
  | probed (found : Bool) (keys : List LockKey)
  /-- With the locks and the row of the invitation. -/
  | locked (row : Option Invitation)
  | decided (row : Option Invitation) (decision : Decision)
  | returned (outcome : TelegramRegistrationOutcome) (userId : Option Nat) (replayed : Bool)
  | finished (invitationId : Nat) (created : Bool)
  | failed (reason : String)
  deriving DecidableEq, Repr

/-- A transaction with its locks; `conflict` is what the database has refused it for. -/
structure Txn where
  job : Job
  conflict : Option TelegramRegistrationOutcome := none
  keys : List LockKey := []
  stage : Stage := .begun
  deriving DecidableEq, Repr

/-- The tables; `created` is the history of users created by completions, with their invitations. -/
structure Tables where
  users : List User
  invitations : List Invitation
  receipts : List CommandReceipt
  reservations : List InvitationIdentityReservation
  created : List (Nat × Nat)
  nextUserId : Nat
  nextInvitationId : Nat
  deriving DecidableEq, Repr

structure Registry where
  tables : Tables
  locks : Locks LockKey
  txns : Nat → Option Txn

variable (config : Config) (registry : Registry)

namespace Registry

def put (number : Nat) (txn : Txn) : Registry :=
  { registry with txns := Function.update registry.txns number (some txn) }

def finish (number : Nat) (txn : Txn) (stage : Stage) : Registry :=
  { registry with
    locks := registry.locks.release number
    txns := Function.update registry.txns number (some { txn with keys := [], stage := stage }) }

def commitWith (tables : Tables) (number : Nat) (txn : Txn) (stage : Stage) :
    Registry :=
  { registry with tables := tables }.finish number txn stage

end Registry

/-- `invitation_identity_lock_keys`. -/
def identityLockKeys (identity : NormalizedInvitationIdentity) : List LockKey :=
  [.account identity.accountName, .mobile identity.mobileNumber]

/-- `invitation_transition_lock_keys` of a row (invitation_identity_reservation_service.py:71). -/
def transitionLockKeys (row : Invitation) (telegramId : Option Nat) :
    List LockKey :=
  .token row.token ::
    (((normalizeInvitationIdentity config.isDigit row.mobileNumber row.accountName).map
        identityLockKeys).getD [] ++
      (telegramId.map fun id => [LockKey.telegram id]).getD [])

def probeKeys (tables : Tables) : Job → Option (Bool × List LockKey)
  | .complete request =>
    let telegramId := request.telegramCommand.map (·.telegramId)
    match tables.invitations.find? (·.token = request.invitationToken) with
    | some row => some (true, transitionLockKeys config row telegramId)
    | none =>
      some (false, .token request.invitationToken ::
        (telegramId.map fun id => [LockKey.telegram id]).getD [])
  | .revoke invitationId =>
    match tables.invitations.find? (·.id = invitationId) with
    | some row => some (true, transitionLockKeys config row none)
    | none => some (false, [])
  | .create draft =>
    (normalizeInvitationIdentity config.isDigit draft.mobileNumber draft.accountName).map
      fun identity => (false, .creator draft.creatorUserId :: identityLockKeys identity)

def rowOf (tables : Tables) : Job → Option Invitation
  | .complete request => tables.invitations.find? (·.token = request.invitationToken)
  | .revoke invitationId => tables.invitations.find? (·.id = invitationId)
  | .create _ => none

def Job.telegramId : Job → Option Nat
  | .complete request => request.telegramCommand.map (·.telegramId)
  | .revoke _ | .create _ => none

def begin (number : Nat) (job : Job) : Registry :=
  if registry.txns number = none then registry.put number { job := job } else registry

/-- The receipts of a command (`load_registration_command_receipt`). -/
def receiptsOf (tables : Tables) (command : TelegramRegistrationCommand) : List CommandReceipt :=
  tables.receipts.filter fun receipt =>
    receipt.commandId = command.commandId || receipt.idempotencyKey = command.idempotencyKey

/-- `prepare_registration_command_receipt` (registration_command_receipt_service.py:83); the web has
none. -/
def prepareReceipt (number : Nat) : Registry :=
  match registry.txns number with
  | none => registry
  | some txn =>
    match txn.stage, txn.job with
    | .begun, .complete request =>
      match request.telegramCommand with
      | none => registry.put number { txn with stage := .receipted }
      | some command =>
        let keys := [LockKey.command command.commandId, .idempotency command.idempotencyKey]
        if !registry.locks.canTake number keys then registry
        else
          let conflicted (outcome : TelegramRegistrationOutcome) : Registry :=
            registry.finish number txn
              (if txn.conflict.isSome then .failed "replay_conflict"
                else .returned outcome none true)
          match receiptsOf registry.tables command with
          | [] =>
            { registry with locks := registry.locks.take number keys }.put number
              { txn with keys := keys, stage := .receipted }
          | [receipt] =>
            if receipt.commandId ≠ command.commandId ∨
                receipt.idempotencyKey ≠ command.idempotencyKey then conflicted .invalidCommand
            else if receipt.requestHash ≠ config.commandHash command then
              conflicted .changedPayloadReplay
            else
              registry.finish number txn
                (.returned receipt.outcome receipt.authoritativeUserId true)
          | _ :: _ :: _ => conflicted .invalidCommand
    | _, _ => registry

def Txn.readyToProbe (txn : Txn) : Bool :=
  match txn.job with
  | .complete _ => txn.stage = .receipted
  | .revoke _ | .create _ => txn.stage = .begun

/-- `lock_invitation_for_transition` (invitation_transition_lock_service.py:65) before the locks. -/
def probe (number : Nat) : Registry :=
  match registry.txns number with
  | none => registry
  | some txn =>
    if txn.readyToProbe then
      match probeKeys config registry.tables txn.job with
      | none => registry.finish number txn (.failed "invalid_identity")
      | some (found, keys) => registry.put number { txn with stage := .probed found keys }
    else registry

/-- The locks are taken and the row read again; a new row or one with other keys is an error. -/
def lockTransition (number : Nat) : Registry :=
  match registry.txns number with
  | none => registry
  | some txn =>
    match txn.stage with
    | .probed found keys =>
      if !registry.locks.canTake number keys then registry
      else
        let row := rowOf registry.tables txn.job
        if row.any fun row =>
            !found || transitionLockKeys config row txn.job.telegramId ≠ keys then
          registry.finish number txn
            (.failed "invitation_identity_changed_during_transition_lock")
        else
          { registry with locks := registry.locks.take number keys }.put number
            { txn with keys := txn.keys ++ keys, stage := .locked row }
    | _ => registry

def decideTxn (number : Nat) (checks : RelationChecks) :
    Registry :=
  match registry.txns number with
  | none => registry
  | some txn =>
    match txn.stage, txn.job with
    | .locked row, .complete request =>
      let decision := match txn.conflict, request.telegramCommand with
        | some conflict, some command =>
          decideConflict config command conflict row registry.tables.users
        | _, _ => decideCompletion config request row registry.tables.users checks
      registry.put number { txn with stage := .decided row decision }
    | _, _ => registry

/-- The unique index of `users` the rows break, as reported by `_integrity_conflict`
(authoritative_registration_service.py:666). -/
def userConflict (users : List User) : Option TelegramRegistrationOutcome :=
  if ¬ UniqueKey (fun user : User => some user.normalizedMobileNumber) users then
    some .mobileConflict
  else if ¬ UniqueKey (fun user : User => some user.normalizedAccountName) users then
    some .accountNameConflict
  else if ¬ UniqueKey User.telegramId users then some .telegramIdAlreadyUsed
  else none

def linkUser (tables : Tables) (userId : Nat) (command : TelegramRegistrationCommand) : Tables :=
  { tables with
    users := tables.users.map fun user =>
      if user.id = userId then
        { user with telegramId := some command.telegramId, username := command.telegramUsername }
      else user }

/-- The user of a completion (authoritative_registration_service.py:987). -/
def newUser (tables : Tables) (row : Invitation) (request : RegistrationRequest) : User where
  id := tables.nextUserId
  accountName := row.accountName
  mobileNumber := ((normalizeInvitationIdentity config.isDigit row.mobileNumber
    row.accountName).map (·.mobileNumber)).getD row.mobileNumber
  telegramId := request.telegramCommand.map (·.telegramId)
  username := request.telegramCommand.bind (·.telegramUsername)
  address := request.address
  role := row.role
  isDeleted := false
  isInactive := false

/-- `complete_invitation` (invitation_lifecycle_service.py:62). -/
def completeInvitation (userId : Nat) (via : InvitationCompletionSurface) (now : Int)
    (row : Invitation) : Invitation :=
  { row with
    isUsed := true
    registeredUserId := some userId
    completedAt := some now
    completedVia := some via }

def createUser (tables : Tables) (row : Invitation)
    (request : RegistrationRequest) (now : Int) : Tables :=
  { tables with
    users := tables.users ++ [newUser config tables row request]
    invitations := tables.invitations.map fun other =>
      if other.id = row.id then
        completeInvitation tables.nextUserId
          (if request.telegramCommand.isSome then .telegram else .web) now other
      else other
    reservations := tables.reservations.filter (·.invitationId ≠ row.id)
    created := tables.created ++ [(row.id, tables.nextUserId)]
    nextUserId := tables.nextUserId + 1 }

def decisionWrites (config : Config) (tables : Tables) (request : RegistrationRequest)
    (row : Option Invitation) (now : Int) :
    Decision → Option (Tables × TelegramRegistrationOutcome × Option Nat)
  | .refuse outcome =>
    if request.telegramCommand.isSome then some (tables, outcome, none) else none
  | .answer outcome userId => some (tables, outcome, userId)
  | .link userId =>
    request.telegramCommand.map fun command =>
      (linkUser tables userId command, .linkedExisting, some userId)
  | .create =>
    row.map fun row => (createUser config tables row request now, .created, some tables.nextUserId)
  | .crash => none

/-- `finalize_registration_command_receipt` at the commit. -/
def addReceipt (tables : Tables) (request : RegistrationRequest)
    (outcome : TelegramRegistrationOutcome) (userId : Option Nat) : Tables :=
  match request.telegramCommand with
  | none => tables
  | some command =>
    { tables with
      receipts := tables.receipts ++
        [{ commandId := command.commandId
           idempotencyKey := command.idempotencyKey
           requestHash := config.commandHash command
           outcome := outcome
           authoritativeUserId := userId }] }

def receiptsUnique (receipts : List CommandReceipt) : Prop :=
  UniqueKey (fun receipt : CommandReceipt => some receipt.commandId) receipts ∧
    UniqueKey (fun receipt : CommandReceipt => some receipt.idempotencyKey) receipts

instance (receipts : List CommandReceipt) : Decidable (receiptsUnique receipts) :=
  inferInstanceAs (Decidable (_ ∧ _))

/-- When a unique column of the users refuses the writes, a command starts over to record what it
finds; a web request raises. -/
def commitCompletion (number : Nat) (txn : Txn)
    (request : RegistrationRequest) (row : Option Invitation) (decision : Decision) (now : Int) :
    Registry :=
  match decisionWrites config registry.tables request row now decision with
  | none => registry.finish number txn (.failed "rolled_back")
  | some (tables, outcome, userId) =>
    match userConflict tables.users with
    | some conflict =>
      if request.telegramCommand.isSome then
        registry.finish number { txn with conflict := some conflict } .begun
      else registry.finish number txn (.failed "conflict")
    | none =>
      let written := addReceipt config tables request outcome userId
      if receiptsUnique written.receipts then
        registry.commitWith written number txn
          (.returned outcome userId (decision ≠ .create && request.telegramCommand.isNone))
      else registry.finish number txn (.failed "integrity")

/-! ## Revocations and creations -/

/-- `soft_revoke_invitation` (invitation_lifecycle_service.py:79) and the release; no row is both
completed and revoked. -/
def commitRevocation (number : Nat) (txn : Txn) (row : Invitation) (now : Int) : Registry :=
  if deriveInvitationState row now = .completed ∨ row.completedAt.isSome then
    registry.finish number txn (.failed "completed")
  else
    registry.commitWith
      { registry.tables with
        invitations := registry.tables.invitations.map fun other =>
          if other.id = row.id then { other with revokedAt := some now } else other
        reservations := registry.tables.reservations.filter (·.invitationId ≠ row.id) }
      number txn (.finished row.id false)

/-- `prune_terminal_identity_reservations` (invitation_identity_reservation_service.py:135). -/
def pruneReservations (tables : Tables) (identity : NormalizedInvitationIdentity) (now : Int) :
    List InvitationIdentityReservation :=
  tables.reservations.filter fun reservation =>
    !((reservation.normalizedMobile = identity.mobileNumber ||
        reservation.normalizedAccountName = identity.accountName) &&
      tables.invitations.any fun invitation =>
        invitation.id = reservation.invitationId && deriveInvitationState invitation now ≠ .pending)

/-- `find_identity_reservation`: the reservations of the mobile number or the account name. -/
def identityReservations (reservations : List InvitationIdentityReservation)
    (identity : NormalizedInvitationIdentity) : List InvitationIdentityReservation :=
  reservations.filter fun reservation =>
    reservation.normalizedMobile = identity.mobileNumber ||
      reservation.normalizedAccountName = identity.accountName

/-- `generate_invitation_token` (canonical_invitation_creation_service.py:40). -/
def invitationToken (kind : InvitationKind) (random : String) : String :=
  match kind with
  | .standard => "INV-" ++ random
  | .accountant => "ACCT-" ++ random
  | .customer => "CUST-" ++ random
  | .legacyUnknown => random

/-- `_is_exact_base_retry` (canonical_invitation_creation_service.py:61). -/
def isExactBaseRetry (invitation : Invitation) (draft : InvitationDraft)
    (identity : NormalizedInvitationIdentity) (now : Int) : Bool :=
  deriveInvitationState invitation now = .pending &&
    invitation.createdById = some draft.creatorUserId &&
    invitation.kind = draft.kind && invitation.role = draft.role &&
    normalizeMobileNumber invitation.mobileNumber = identity.mobileNumber &&
    normalizeAccountName invitation.accountName = identity.accountName

def newInvitation (tables : Tables) (draft : InvitationDraft)
    (identity : NormalizedInvitationIdentity) (random : String) (expiresAt : Int) :
    Invitation where
  id := tables.nextInvitationId
  accountName := identity.accountName
  mobileNumber := identity.mobileNumber
  token := invitationToken draft.kind random
  role := draft.role
  kind := draft.kind
  createdById := some draft.creatorUserId
  isUsed := false
  expiresAt := expiresAt
  registeredUserId := none
  completedAt := none
  completedVia := none
  revokedAt := none

/-- `create_or_reuse_canonical_invitation` (canonical_invitation_creation_service.py:81) and its
commit. -/
def commitCreation (number : Nat) (txn : Txn)
    (draft : InvitationDraft) (random : String) (now expiresAt : Int) : Registry :=
  let tables := registry.tables
  if draft.creatorUserId = 0 then registry.finish number txn (.failed "invalid_creator")
  else if draft.kind = .legacyUnknown then
    registry.finish number txn (.failed "invitation_kind_not_creatable")
  else match normalizeInvitationIdentity config.isDigit draft.mobileNumber draft.accountName with
  | none => registry.finish number txn (.failed "invalid_identity")
  | some identity =>
    if tables.users.any fun user =>
        user.normalizedMobileNumber = identity.mobileNumber ||
          user.normalizedAccountName = identity.accountName then
      registry.finish number txn (.failed "user_identity_exists")
    else
      let reservations := pruneReservations tables identity now
      match identityReservations reservations identity with
      | [] =>
        let row := newInvitation tables draft identity random expiresAt
        if tables.invitations.any (·.token = row.token) then
          registry.finish number txn (.failed "integrity")
        else
          registry.commitWith
            { tables with
              invitations := tables.invitations ++ [row]
              reservations := reservations ++
                [⟨row.id, identity.mobileNumber, identity.accountName⟩]
              nextInvitationId := tables.nextInvitationId + 1 }
            number txn (.finished row.id true)
      | [reservation] =>
        match tables.invitations.find? (·.id = reservation.invitationId) with
        | none => registry.finish number txn (.failed "reservation_integrity_error")
        | some invitation =>
          if isExactBaseRetry invitation draft identity now then
            registry.commitWith { tables with reservations := reservations } number txn
              (.finished invitation.id false)
          else registry.finish number txn (.failed "invitation_identity_conflict")
      | _ :: _ :: _ => registry.finish number txn (.failed "identity_split_reserved")

/-- The commit of a transaction; `random` and `expiresAt` are for a new invitation. -/
def commit (number : Nat) (now : Int) (random : String) (expiresAt : Int) : Registry :=
  match registry.txns number with
  | none => registry
  | some txn =>
    match txn.stage, txn.job with
    | .decided row decision, .complete request =>
      commitCompletion config registry number txn request row decision now
    | .locked (some row), .revoke _ => commitRevocation registry number txn row now
    | .locked none, .revoke _ => registry.finish number txn (.failed "not_found")
    | .locked _, .create draft =>
      commitCreation config registry number txn draft random now expiresAt
    | _, _ => registry

def abort (number : Nat) : Registry :=
  match registry.txns number with
  | none => registry
  | some txn =>
    match txn.stage with
    | .returned .. | .finished .. | .failed _ => registry
    | .begun | .receipted | .probed .. | .locked _ | .decided .. =>
      registry.finish number txn (.failed "aborted")

def insertUser (user : User) : Registry :=
  let users := registry.tables.users ++ [{ user with id := registry.tables.nextUserId }]
  if userConflict users = none then
    { registry with
      tables := { registry.tables with
        users := users, nextUserId := registry.tables.nextUserId + 1 } }
  else registry

inductive Operation where
  | begin (number : Nat) (job : Job)
  | prepareReceipt (number : Nat)
  | probe (number : Nat)
  | lock (number : Nat)
  | decide (number : Nat) (checks : RelationChecks)
  | commit (number : Nat) (now : Int) (random : String) (expiresAt : Int)
  | abort (number : Nat)
  | insertUser (user : User)
  deriving DecidableEq, Repr

def step (config : Config) (registry : Registry) : Operation → Registry
  | .begin number job => begin registry number job
  | .prepareReceipt number => prepareReceipt config registry number
  | .probe number => probe config registry number
  | .lock number => lockTransition config registry number
  | .decide number checks => decideTxn config registry number checks
  | .commit number now random expiresAt => commit config registry number now random expiresAt
  | .abort number => abort registry number
  | .insertUser user => insertUser registry user

end TradingBot.Registration
