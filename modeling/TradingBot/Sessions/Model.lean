import Mathlib.Data.List.Sort
import TradingBot.Misc.PyText

/-!
# Sessions of a user

`src/core/services/session_service.py`: the sessions of one user, the login that creates or revives
one, the approval of a login request, logouts, and the calls that clear sessions. Every query is by
the user's id, so other users do not matter. `hashToken` is the SHA-256 of a refresh token; instants
are microseconds. The blacklist of revoked sessions and the published events are no tables.
-/

namespace TradingBot.Sessions

open TradingBot.Misc

/-- `UserRole` (models/user.py:12). -/
inductive UserRole where
  | watch
  | standard
  | police
  | middleManager
  | superAdmin
  deriving DecidableEq, Repr

/-- `Platform` (models/session.py:16). -/
inductive Platform where
  | telegramMiniApp
  | web
  | android
  deriving DecidableEq, Repr

/-- `LoginRequestStatus` (models/session.py:22). -/
inductive LoginRequestStatus where
  | pending
  | approved
  | rejected
  | expired
  deriving DecidableEq, Repr

structure Device where
  deviceName : String := "Unknown Device"
  deviceIp : Option String := none
  platform : Platform := .web
  homeServer : String := "foreign"
  deriving DecidableEq, Repr

/-- A row of `user_sessions`. -/
structure UserSession where
  id : Nat
  device : Device
  refreshTokenHash : String
  isPrimary : Bool
  isActive : Bool
  createdAt : Int
  lastActiveAt : Int
  expiresAt : Int
  deriving DecidableEq, Repr

/-- A row of `session_login_requests`. -/
structure SessionLoginRequest where
  id : Nat
  requesterDeviceName : String
  requesterIp : Option String
  requesterHomeServer : String
  status : LoginRequestStatus
  expiresAt : Int
  resolvedBySessionId : Option Nat
  deriving DecidableEq, Repr

/-- A user's sessions and login requests; `isAccountant`: an active accountant relation exists. -/
structure Account where
  role : UserRole
  maxSessions : Int
  isInactive : Bool
  isAccountant : Bool
  sessions : List UserSession
  loginRequests : List SessionLoginRequest
  nextSessionId : Nat
  deriving DecidableEq, Repr

def getEffectiveMaxSessions (role : UserRole) (maxSessions : Int) : Nat :=
  match role with
  | .superAdmin | .middleManager => 1
  | .watch | .standard | .police => (min (max maxSessions 1) 3).toNat

variable (hashToken : String → String) (account : Account)

namespace Account

def maxSessionsAllowed : Nat :=
  if account.isAccountant then 1 else getEffectiveMaxSessions account.role account.maxSessions

/-- `get_active_sessions` (line 53): the oldest first. -/
def activeSessions : List UserSession :=
  (account.sessions.filter (·.isActive)).insertionSort fun a b => a.createdAt ≤ b.createdAt

def deactivate (ids : List Nat) : Account :=
  { account with
    sessions := account.sessions.map fun session =>
      if session.id ∈ ids then { session with isActive := false } else session }

end Account

def sessionLifetime : Int := 30 * 24 * 3600 * 1000000

/-- The row of `create_session` (line 85). -/
def newSession (now : Int)
    (refreshToken : String) (device : Device) (isPrimary : Bool) : UserSession where
  id := account.nextSessionId
  device := device
  refreshTokenHash := hashToken refreshToken
  isPrimary := isPrimary
  isActive := true
  createdAt := now
  lastActiveAt := now
  expiresAt := now + sessionLifetime

def createSession (now : Int)
    (refreshToken : String) (device : Device) (isPrimary : Bool) : Nat × Account :=
  (account.nextSessionId,
    { account with
      sessions :=
        account.sessions ++ [newSession hashToken account now refreshToken device isPrimary]
      nextSessionId := account.nextSessionId + 1 })

def promoteNextPrimary : Account :=
  match account.activeSessions with
  | [] => account
  | oldest :: _ =>
    { account with
      sessions := account.sessions.map fun session =>
        if session.id = oldest.id then { session with isPrimary := true } else session }

structure Login where
  now : Int
  refreshToken : String
  device : Device := {}
  suspendedRefreshToken : String := ""
  deriving DecidableEq, Repr

inductive SessionOutcome where
  | sessionCreated (sessionId : Nat) (replacedSessionCount : Nat)
  | blocked (reason : String)
  | multipleResults
  deriving DecidableEq, Repr

def SessionOutcome.isCreated : SessionOutcome → Bool
  | sessionCreated .. => true
  | blocked _ | multipleResults => false

def suspendedSessions (token : String) :
    List UserSession :=
  if token = "" then []
  else
    account.sessions.filter fun session =>
      session.refreshTokenHash = hashToken token && session.isActive

def revive (login : Login) (suspended : UserSession) : Account :=
  { account with
    sessions := account.sessions.map fun session =>
      if session.id = suspended.id then
        { session with
          refreshTokenHash := hashToken login.refreshToken
          device := { login.device with
            deviceIp := if (login.device.deviceIp.getD "") = "" then session.device.deviceIp
              else login.device.deviceIp }
          lastActiveAt := login.now
          expiresAt := login.now + sessionLifetime }
      else session }

/-- The part of `handle_login_session` that creates a session, after the user was locked. -/
def admitSession (login : Login) :
    SessionOutcome × Account :=
  let active := account.activeSessions
  let limit := account.maxSessionsAllowed
  if active.length = 0 then
    let created := createSession hashToken account login.now login.refreshToken login.device true
    (.sessionCreated created.1 0, created.2)
  else if active.length < limit then
    let created := createSession hashToken account login.now login.refreshToken login.device false
    (.sessionCreated created.1 0, created.2)
  else
    -- the limit is full, or was lowered below the number of sessions
    let replaceCount := active.length - limit + 1
    let revoked := active.take replaceCount
    let remaining := active.drop replaceCount
    let created := createSession hashToken (account.deactivate (revoked.map (·.id))) login.now
      login.refreshToken login.device (!remaining.any (·.isPrimary))
    (.sessionCreated created.1 revoked.length, created.2)

def handleLoginSession (login : Login) :
    SessionOutcome × Account :=
  if account.isInactive then (.blocked "ACCOUNT_INACTIVE", account)
  else
    match suspendedSessions hashToken account login.suspendedRefreshToken with
    | [] => admitSession hashToken account login
    | [suspended] =>
      (.sessionCreated suspended.id 0, revive hashToken account login suspended)
    | _ :: _ :: _ => (.multipleResults, account)

def nextEvicted (active : List UserSession) : Option UserSession :=
  ((active.filter fun session => !session.isPrimary).getLast?).or
    (((active.filter (·.isPrimary)).getLast?).or active.getLast?)

def evict : Nat → List UserSession → List UserSession × List UserSession
  | 0, active => ([], active)
  | count + 1, active =>
    match nextEvicted active with
    | none => ([], active)
    | some session =>
      let rest := evict count (active.erase session)
      (session :: rest.1, rest.2)

def provisionSessionForLoginRequest (now : Int)
    (refreshToken : String) (device : Device) : Nat × Account :=
  let active := account.activeSessions
  let evicted := evict (active.length + 1 - account.maxSessionsAllowed) active
  createSession hashToken (account.deactivate (evicted.1.map (·.id))) now refreshToken device
    (!evicted.2.any (·.isPrimary))

structure Approval where
  now : Int
  requestId : Nat
  approverSessionId : Option Nat
  refreshToken : String
  platform : Platform := .web
  homeServer : Option String := none
  deriving DecidableEq, Repr

def setLoginRequest (requestId : Nat) (status : LoginRequestStatus)
    (resolvedBy : Option Nat) : Account :=
  { account with
    loginRequests := account.loginRequests.map fun request =>
      if request.id = requestId then
        { request with status := status, resolvedBySessionId := resolvedBy }
      else request }

def admitRequest (approval : Approval) (request : SessionLoginRequest) : SessionOutcome × Account :=
  let approved := setLoginRequest account request.id .approved approval.approverSessionId
  let created := provisionSessionForLoginRequest hashToken approved approval.now
    approval.refreshToken
    { deviceName := request.requesterDeviceName
      deviceIp := request.requesterIp
      platform := approval.platform
      homeServer := if approval.homeServer.getD "" = "" then request.requesterHomeServer
        else approval.homeServer.getD "" }
  (.sessionCreated created.1 0, created.2)

/-- Line 267; `recovering`: an active recovery request stands for it. -/
def approveLoginRequest (approval : Approval) (recovering : Bool) : SessionOutcome × Account :=
  match account.loginRequests.find? (·.id = approval.requestId) with
  | none => (.blocked "درخواست یافت نشد", account)
  | some request =>
    if request.status ≠ .pending then (.blocked "درخواست قبلاً پردازش شده است", account)
    else if request.expiresAt < approval.now then
      (.blocked "درخواست منقضی شده است",
        setLoginRequest account request.id .expired request.resolvedBySessionId)
    else if recovering then
      (.blocked ("برای این درخواست، مسیر بازیابی نشست فعال شده و " ++
        "تایید از دستگاه قبلی دیگر مجاز نیست"), account)
    else if account.isInactive then (.blocked "حساب کاربری غیرفعال شده است", account)
    else admitRequest hashToken account approval request

/-- The approval of a recovery request by an administrator (api/routers/sessions.py:846). -/
def approveRecovery (approval : Approval) :
    SessionOutcome × Account :=
  match account.loginRequests.find? (·.id = approval.requestId) with
  | none => (.blocked "درخواست ورود اولیه یافت نشد", account)
  | some request => admitRequest hashToken account { approval with approverSessionId := none } request

def logoutSession (sessionId : Nat) : Account :=
  match account.sessions.find? fun session => session.id = sessionId && session.isActive with
  | none => account
  | some session =>
    let left := account.deactivate [session.id]
    if session.isPrimary then promoteNextPrimary left else left

def forceClearSessions (excludeSessionId : Option Nat) : Account :=
  account.deactivate
    ((account.activeSessions.filter fun session => excludeSessionId ≠ some session.id).map (·.id))

/-- The primary session clears the others (api/routers/sessions.py:1144). -/
def logoutAllSessions (callerSessionId : Nat) : Account :=
  match account.sessions.find? fun session => session.id = callerSessionId && session.isActive with
  | none => account
  | some caller =>
    if caller.isPrimary then forceClearSessions account (some caller.id) else account

inductive Operation where
  | login (login : Login)
  | requestLogin (request : SessionLoginRequest)
  | approve (approval : Approval) (recovering : Bool)
  | approveRecovery (approval : Approval)
  | logout (sessionId : Nat)
  | clearOthers (callerSessionId : Nat)
  | clearAll
  | setUser (role : UserRole) (maxSessions : Int) (isInactive isAccountant : Bool)
  deriving DecidableEq, Repr

def operate (hashToken : String → String) (account : Account) :
    Operation → Option SessionOutcome × Account
  | .login login =>
    let result := handleLoginSession hashToken account login
    (some result.1, result.2)
  | .requestLogin request =>
    (none, { account with loginRequests := account.loginRequests ++ [request] })
  | .approve approval recovering =>
    let result := approveLoginRequest hashToken account approval recovering
    (some result.1, result.2)
  | .approveRecovery approval =>
    let result := approveRecovery hashToken account approval
    (some result.1, result.2)
  | .logout sessionId => (none, logoutSession account sessionId)
  | .clearOthers callerSessionId => (none, logoutAllSessions account callerSessionId)
  | .clearAll => (none, forceClearSessions account none)
  | .setUser role maxSessions isInactive isAccountant =>
    (none, { account with role := role, maxSessions := maxSessions, isInactive := isInactive,
                          isAccountant := isAccountant })

def step (op : Operation) : Account :=
  (operate hashToken account op).2

end TradingBot.Sessions
