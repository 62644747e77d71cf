import TradingBot.Misc.Run
import TradingBot.Sessions.Model

/-!
# One primary session, and the limit

Over every sequence of operations on a user's sessions: while there is an active session exactly one
is primary, and a login or an approval leaves at most as many active sessions as the limit admits. A
revival returns before the limit is looked at and leaves as many sessions as there were.
-/

namespace TradingBot.Sessions

open TradingBot.Misc

/-- While there is an active session, exactly one active session is primary. -/
def OnePrimary (account : Account) : Prop :=
  account.activeSessions ≠ [] → account.activeSessions.countP (·.isPrimary) = 1

variable (hashToken : String → String)

/-- After a successful login, revival or approval, active sessions are within the limit of that
moment. -/
def WithinLimit (account : Account) (op : Operation) (account' : Account) : Prop :=
  ((operate hashToken account op).1.any SessionOutcome.isCreated) = true →
    account'.activeSessions.length ≤ account'.maxSessionsAllowed

def revives (hashToken : String → String) (account : Account) : Operation → Bool
  | .login login => !account.isInactive &&
      (suspendedSessions hashToken account login.suspendedRefreshToken).length = 1
  | _ => false

/-- A session is revived only while there are no more sessions than the limit admits. -/
def RevivesWithinLimit (account : Account) (op : Operation) (_ : Account) : Prop :=
  revives hashToken account op = true → account.activeSessions.length ≤ account.maxSessionsAllowed

instance (hashToken : String → String) (account : Account) (op : Operation) (account' : Account) :
    Decidable (WithinLimit hashToken account op account') :=
  inferInstanceAs (Decidable (_ → _))

instance (hashToken : String → String) (account : Account) (op : Operation) (account' : Account) :
    Decidable (RevivesWithinLimit hashToken account op account') :=
  inferInstanceAs (Decidable (_ → _))

structure Sound (account : Account) : Prop where
  ids : (account.sessions.map (·.id)).Nodup
  below : ∀ session ∈ account.sessions, session.id < account.nextSessionId
  primary : OnePrimary account

variable {account : Account} {session : UserSession} {write : UserSession → UserSession}
  {gone stay active : List UserSession}

theorem maxSessionsAllowed_pos (account : Account) : 1 ≤ account.maxSessionsAllowed := by
  unfold Account.maxSessionsAllowed getEffectiveMaxSessions
  split_ifs
  · exact le_rfl
  · cases account.role with
    | superAdmin | middleManager => exact le_rfl
    | watch | standard | police => dsimp only; omega

theorem activeSessions_perm (account : Account) :
    account.activeSessions.Perm (account.sessions.filter (·.isActive)) :=
  List.perm_insertionSort _ _

theorem mem_activeSessions :
    session ∈ account.activeSessions ↔ session ∈ account.sessions ∧ session.isActive = true := by
  rw [(activeSessions_perm account).mem_iff, List.mem_filter]

theorem nodup_activeSessions (hids : (account.sessions.map (·.id)).Nodup) :
    (account.activeSessions.map (·.id)).Nodup := by
  refine ((activeSessions_perm account).map _).nodup_iff.mpr ?_
  exact hids.sublist (List.filter_sublist.map _)

theorem onePrimary_of_perm {sessions : List UserSession} (hperm : account.activeSessions.Perm sessions)
    (h : sessions ≠ [] → sessions.countP (·.isPrimary) = 1) : OnePrimary account := by
  intro hne
  rw [hperm.countP_eq]
  refine h ?_
  rintro rfl
  exact hne hperm.eq_nil

theorem activeSessions_map (hactive : ∀ session, (write session).isActive = session.isActive) :
    ({ account with sessions := account.sessions.map write } : Account).activeSessions.Perm
      (account.activeSessions.map write) := by
  refine (activeSessions_perm _).trans ?_
  rw [List.filter_map]
  refine List.Perm.map write ?_
  have hsame : ((·.isActive) ∘ write : UserSession → Bool) = (·.isActive) := funext hactive
  rw [hsame]
  exact (activeSessions_perm account).symm

theorem filter_deactivated (ids : List Nat) (sessions : List UserSession) :
    (sessions.map fun session =>
        if session.id ∈ ids then { session with isActive := false } else session).filter
          (·.isActive) =
      (sessions.filter (·.isActive)).filter fun session => session.id ∉ ids := by
  induction sessions with
  | nil => rfl
  | cons session rest ih =>
    rw [List.map_cons, List.filter_cons, List.filter_cons, ih]
    by_cases hid : session.id ∈ ids
    · cases hactive : session.isActive <;> simp [hid]
    · cases hactive : session.isActive <;> simp [hid, hactive]

theorem activeSessions_deactivate (hids : (account.sessions.map (·.id)).Nodup)
    (hsplit : account.activeSessions.Perm (gone ++ stay)) :
    (account.deactivate (gone.map (·.id))).activeSessions.Perm stay := by
  have hnodup : ((gone ++ stay).map (·.id)).Nodup :=
    (hsplit.map _).nodup_iff.mp (nodup_activeSessions hids)
  rw [List.map_append, List.nodup_append] at hnodup
  have hgone : gone.filter (fun session => session.id ∉ gone.map (·.id)) = [] := by
    rw [List.filter_eq_nil_iff]
    intro session hsession hout
    exact (of_decide_eq_true hout) (List.mem_map_of_mem hsession)
  have hstay : stay.filter (fun session => session.id ∉ gone.map (·.id)) = stay := by
    rw [List.filter_eq_self]
    intro session hsession
    refine decide_eq_true fun hin => ?_
    exact hnodup.2.2 _ hin _ (List.mem_map_of_mem hsession) rfl
  refine (activeSessions_perm _).trans ?_
  rw [Account.deactivate, filter_deactivated]
  refine (((activeSessions_perm account).symm.trans hsplit).filter _).trans ?_
  rw [List.filter_append, hgone, hstay, List.nil_append]

theorem map_id_deactivate (account : Account) (ids : List Nat) :
    (account.deactivate ids).sessions.map (·.id) = account.sessions.map (·.id) := by
  rw [Account.deactivate, List.map_map]
  refine List.map_congr_left fun session _ => ?_
  rw [Function.comp_apply]
  split_ifs <;> rfl

theorem activeSessions_createSession (account : Account) (now : Int)
    (refreshToken : String) (device : Device) (isPrimary : Bool) :
    (createSession hashToken account now refreshToken device isPrimary).2.activeSessions.Perm
      (account.activeSessions ++
        [newSession hashToken account now refreshToken device isPrimary]) := by
  refine (activeSessions_perm _).trans ?_
  rw [createSession, List.filter_append, List.filter_cons_of_pos rfl, List.filter_nil]
  exact (activeSessions_perm account).symm.append_right _

structure IdsSound (account : Account) : Prop where
  ids : (account.sessions.map (·.id)).Nodup
  below : ∀ session ∈ account.sessions, session.id < account.nextSessionId

theorem Sound.idsSound (h : Sound account) : IdsSound account := ⟨h.ids, h.below⟩

theorem IdsSound.of_map {account' : Account} (h : IdsSound account)
    (hmap : account'.sessions.map (·.id) = account.sessions.map (·.id))
    (hnext : account'.nextSessionId = account.nextSessionId) : IdsSound account' := by
  refine ⟨hmap ▸ h.ids, fun session hsession => ?_⟩
  have hmem : session.id ∈ account.sessions.map (·.id) := hmap ▸ List.mem_map_of_mem hsession
  obtain ⟨old, hold, hid⟩ := List.mem_map.mp hmem
  rw [hnext, ← hid]
  exact h.below old hold

theorem IdsSound.deactivate (h : IdsSound account) (ids : List Nat) :
    IdsSound (account.deactivate ids) :=
  h.of_map (map_id_deactivate account ids) rfl

theorem IdsSound.createSession (h : IdsSound account) (hashToken : String → String) (now : Int)
    (refreshToken : String) (device : Device) (isPrimary : Bool) :
    IdsSound (createSession hashToken account now refreshToken device isPrimary).2 := by
  refine ⟨?_, ?_⟩
  · rw [Sessions.createSession, List.map_append, List.nodup_append]
    refine ⟨h.ids, List.nodup_singleton _, ?_⟩
    rintro id hid _ hnew rfl
    obtain ⟨session, hsession, rfl⟩ := List.mem_map.mp hid
    have hlt := h.below session hsession
    rw [List.map_singleton, List.mem_singleton] at hnew
    exact absurd hnew (Nat.ne_of_lt hlt)
  · intro session hsession
    obtain hold | hnew := List.mem_append.mp hsession
    · exact Nat.lt_succ_of_lt (h.below session hold)
    · rw [List.mem_singleton.mp hnew]
      exact Nat.lt_succ_self _

theorem Sound.replace (h : Sound account)
    (hsplit : account.activeSessions.Perm (gone ++ stay)) (hashToken : String → String) (now : Int)
    (refreshToken : String) (device : Device) :
    Sound (createSession hashToken (account.deactivate (gone.map (·.id))) now refreshToken device
        (!stay.any (·.isPrimary))).2 ∧
      (createSession hashToken (account.deactivate (gone.map (·.id))) now refreshToken device
        (!stay.any (·.isPrimary))).2.activeSessions.length = stay.length + 1 := by
  have hleft := activeSessions_deactivate h.ids hsplit
  have hperm := (activeSessions_createSession hashToken (account.deactivate (gone.map (·.id))) now
    refreshToken device (!stay.any (·.isPrimary))).trans (hleft.append_right _)
  have hids := (h.idsSound.deactivate (gone.map (·.id))).createSession hashToken now refreshToken
    device (!stay.any (·.isPrimary))
  refine ⟨⟨hids.ids, hids.below, onePrimary_of_perm hperm fun _ => ?_⟩, ?_⟩
  · rw [List.countP_append, List.countP_singleton]
    cases hany : stay.any (·.isPrimary) with
    | false =>
      have hzero : stay.countP (·.isPrimary) = 0 :=
        List.countP_eq_zero.mpr fun session hsession => List.any_eq_false.mp hany session hsession
      rw [hzero]
      rfl
    | true =>
      obtain ⟨session, hsession, hprimary⟩ := List.any_eq_true.mp hany
      have hpos : 0 < stay.countP (·.isPrimary) :=
        List.countP_pos_iff.mpr ⟨session, hsession, hprimary⟩
      have hmem : session ∈ account.activeSessions :=
        hsplit.mem_iff.mpr (List.mem_append_right gone hsession)
      have hone := h.primary (List.ne_nil_of_mem hmem)
      rw [hsplit.countP_eq, List.countP_append] at hone
      have hnew : (newSession hashToken (account.deactivate (gone.map (·.id))) now refreshToken
          device (!true)).isPrimary = false := rfl
      rw [hnew, if_neg Bool.false_ne_true]
      omega
  · rw [hperm.length_eq, List.length_append, List.length_singleton]

theorem deactivate_nil (account : Account) : account.deactivate [] = account := by
  simp [Account.deactivate]

theorem admitSession_kept (h : Sound account) (login : Login) :
    Sound (admitSession hashToken account login).2 ∧
      (admitSession hashToken account login).2.activeSessions.length ≤
        account.maxSessionsAllowed := by
  have hpos := maxSessionsAllowed_pos account
  -- the first two cases are those of the third where no session leaves
  have hkeep := @Sound.replace account [] account.activeSessions h (List.Perm.refl _) hashToken
    login.now login.refreshToken login.device
  rw [List.map_nil, deactivate_nil] at hkeep
  unfold admitSession
  dsimp only
  split_ifs with hnone hunder
  · rw [List.length_eq_zero_iff.mp hnone] at hkeep
    exact ⟨hkeep.1, hkeep.2.le.trans hpos⟩
  · have hany : account.activeSessions.any (·.isPrimary) = true := by
      have hone := h.primary (List.ne_nil_of_length_pos (Nat.pos_of_ne_zero hnone))
      have hsome := List.countP_pos_iff.mp (hone ▸ Nat.one_pos)
      exact List.any_eq_true.mpr hsome
    rw [hany] at hkeep
    exact ⟨hkeep.1, hkeep.2.le.trans hunder⟩
  · have hreplace := h.replace (List.Perm.of_eq
      (List.take_append_drop (account.activeSessions.length - account.maxSessionsAllowed + 1)
        account.activeSessions).symm) hashToken login.now login.refreshToken login.device
    refine ⟨hreplace.1, ?_⟩
    rw [hreplace.2, List.length_drop]
    omega

theorem nextEvicted_mem (h : nextEvicted active = some session) : session ∈ active := by
  unfold nextEvicted at h
  rw [Option.or_eq_some_iff] at h
  obtain hlast | ⟨-, h⟩ := h
  · exact (List.mem_filter.mp (List.mem_of_getLast? hlast)).1
  · rw [Option.or_eq_some_iff] at h
    obtain hlast | ⟨-, hlast⟩ := h
    · exact (List.mem_filter.mp (List.mem_of_getLast? hlast)).1
    · exact List.mem_of_getLast? hlast

theorem nextEvicted_eq_none (h : nextEvicted active = none) :
    active = [] := by
  unfold nextEvicted at h
  rw [Option.or_eq_none_iff, Option.or_eq_none_iff] at h
  exact List.getLast?_eq_none_iff.mp h.2.2

theorem evict_perm (count : Nat) (active : List UserSession) :
    active.Perm ((evict count active).1 ++ (evict count active).2) ∧
      (evict count active).2.length = active.length - count := by
  induction count generalizing active with
  | zero => exact ⟨List.Perm.refl _, rfl⟩
  | succ count ih =>
    unfold evict
    split
    case h_1 hnone =>
      rw [nextEvicted_eq_none hnone]
      exact ⟨List.Perm.refl _, (Nat.zero_sub _).symm⟩
    case h_2 session hsome =>
      have hmem := nextEvicted_mem hsome
      obtain ⟨hperm, hlength⟩ := ih (active.erase session)
      refine ⟨(List.perm_cons_erase hmem).trans (hperm.cons session), ?_⟩
      rw [hlength, List.length_erase_of_mem hmem]
      omega

theorem provision_kept (h : Sound account) (now : Int) (refreshToken : String) (device : Device) :
    Sound (provisionSessionForLoginRequest hashToken account now refreshToken device).2 ∧
      (provisionSessionForLoginRequest hashToken account now refreshToken
        device).2.activeSessions.length ≤ account.maxSessionsAllowed := by
  have hpos := maxSessionsAllowed_pos account
  obtain ⟨hperm, hlength⟩ := evict_perm
    (account.activeSessions.length + 1 - account.maxSessionsAllowed) account.activeSessions
  have hreplace := h.replace hperm hashToken now refreshToken device
  unfold provisionSessionForLoginRequest
  dsimp only
  refine ⟨hreplace.1, ?_⟩
  rw [hreplace.2, hlength]
  omega

theorem Sound.setLoginRequest (h : Sound account) (requestId : Nat) (status : LoginRequestStatus)
    (resolvedBy : Option Nat) : Sound (setLoginRequest account requestId status resolvedBy) :=
  ⟨h.ids, h.below, h.primary⟩

theorem admitRequest_kept (h : Sound account) (approval : Approval)
    (request : SessionLoginRequest) :
    Sound (admitRequest hashToken account approval request).2 ∧
      (admitRequest hashToken account approval request).2.activeSessions.length ≤
        account.maxSessionsAllowed :=
  provision_kept hashToken (h.setLoginRequest request.id .approved approval.approverSessionId)
    approval.now approval.refreshToken _

theorem Sound.rewrite (h : Sound account) (hid : ∀ session, (write session).id = session.id)
    (hactive : ∀ session, (write session).isActive = session.isActive)
    (hprimary : ∀ session, (write session).isPrimary = session.isPrimary) :
    Sound { account with sessions := account.sessions.map write } ∧
      ({ account with sessions := account.sessions.map write } : Account).activeSessions.length =
        account.activeSessions.length := by
  have hperm := @activeSessions_map account write hactive
  have hids : IdsSound { account with sessions := account.sessions.map write } := by
    refine h.idsSound.of_map ?_ rfl
    rw [List.map_map]
    exact List.map_congr_left fun session _ => hid session
  refine ⟨⟨hids.ids, hids.below, onePrimary_of_perm hperm fun hne => ?_⟩, ?_⟩
  · have hsame : ((·.isPrimary) ∘ write : UserSession → Bool) = (·.isPrimary) := funext hprimary
    rw [List.countP_map, hsame]
    exact h.primary fun hnil => hne (by rw [hnil]; rfl)
  · rw [hperm.length_eq, List.length_map]

theorem revive_kept (h : Sound account) (login : Login) (suspended : UserSession) :
    Sound (revive hashToken account login suspended) ∧
      (revive hashToken account login suspended).activeSessions.length =
        account.activeSessions.length := by
  refine h.rewrite (fun session => ?_) (fun session => ?_) (fun session => ?_)
  all_goals split_ifs <;> rfl

theorem Sound.leave (h : Sound account) (hsplit : account.activeSessions.Perm (gone ++ stay))
    (hstay : stay ≠ [] → stay.countP (·.isPrimary) = 1) :
    Sound (account.deactivate (gone.map (·.id))) := by
  have hids := h.idsSound.deactivate (gone.map (·.id))
  exact ⟨hids.ids, hids.below, onePrimary_of_perm (activeSessions_deactivate h.ids hsplit) hstay⟩

theorem promoteNextPrimary_onePrimary (hids : (account.sessions.map (·.id)).Nodup)
    (hnone : account.activeSessions.countP (·.isPrimary) = 0) :
    OnePrimary (promoteNextPrimary account) := by
  unfold promoteNextPrimary
  split
  case h_1 hnil => exact fun hne => absurd hnil hne
  case h_2 oldest rest hactive =>
    refine onePrimary_of_perm (activeSessions_map fun session => by split_ifs <;> rfl) fun _ => ?_
    have hmem : oldest.id ∈ account.activeSessions.map (·.id) := by
      rw [hactive]
      exact List.mem_cons_self
    have hone := List.count_eq_one_of_mem (nodup_activeSessions hids) hmem
    rw [List.count_eq_countP, List.countP_map] at hone
    rw [List.countP_map, ← hone]
    refine List.countP_congr fun session hsession => ?_
    have hplain := List.countP_eq_zero.mp hnone session hsession
    rw [Function.comp_apply, Function.comp_apply, beq_iff_eq]
    split_ifs with hid
    · simp [hid]
    · simp [hid, hplain]

theorem Sound.promoteNextPrimary (hids : IdsSound account)
    (hnone : account.activeSessions.countP (·.isPrimary) = 0) :
    Sound (promoteNextPrimary account) := by
  have hkept : IdsSound (Sessions.promoteNextPrimary account) := by
    unfold Sessions.promoteNextPrimary
    split
    case h_1 => exact hids
    case h_2 =>
      refine hids.of_map ?_ rfl
      rw [List.map_map]
      refine List.map_congr_left fun session _ => ?_
      rw [Function.comp_apply]
      split_ifs <;> rfl
  exact ⟨hkept.ids, hkept.below, promoteNextPrimary_onePrimary hids.ids hnone⟩

theorem Sound.logoutSession (h : Sound account) (sessionId : Nat) :
    Sound (logoutSession account sessionId) := by
  unfold Sessions.logoutSession
  split
  case h_1 => exact h
  case h_2 session hfound =>
    have hactive := List.find?_some hfound
    rw [Bool.and_eq_true] at hactive
    have hmem : session ∈ account.activeSessions :=
      mem_activeSessions.mpr ⟨List.mem_of_find?_eq_some hfound, hactive.2⟩
    have hsplit : account.activeSessions.Perm ([session] ++ account.activeSessions.erase session) :=
      List.perm_cons_erase hmem
    have hone := h.primary (List.ne_nil_of_mem hmem)
    rw [hsplit.countP_eq, List.countP_append, List.countP_singleton] at hone
    dsimp only
    split_ifs with hprimary
    · refine Sound.promoteNextPrimary (h.idsSound.deactivate [session.id]) ?_
      refine ((activeSessions_deactivate h.ids hsplit).countP_eq _).trans ?_
      rw [if_pos hprimary] at hone
      omega
    · rw [if_neg hprimary, Nat.zero_add] at hone
      exact h.leave hsplit fun _ => hone

theorem filter_split (p : UserSession → Bool) (sessions : List UserSession) :
    sessions.Perm (sessions.filter p ++ sessions.filter fun session => !p session) :=
  (List.filter_append_perm p sessions).symm

theorem Sound.clearAll (h : Sound account) : Sound (forceClearSessions account none) := by
  refine h.leave (filter_split (fun session => decide (none ≠ some session.id)) _) fun hne => ?_
  exact absurd (List.filter_eq_nil_iff.mpr fun session _ => by simp) hne

theorem Sound.clearOthers (h : Sound account) (callerSessionId : Nat) :
    Sound (logoutAllSessions account callerSessionId) := by
  unfold logoutAllSessions
  split
  case h_1 => exact h
  case h_2 caller hfound =>
    split_ifs with hprimary
    · have hactive := List.find?_some hfound
      rw [Bool.and_eq_true] at hactive
      have hmem : caller ∈ account.activeSessions :=
        mem_activeSessions.mpr ⟨List.mem_of_find?_eq_some hfound, hactive.2⟩
      have hsplit := filter_split (fun session => decide (some caller.id ≠ some session.id))
        account.activeSessions
      refine h.leave hsplit fun _ => ?_
      -- the caller stays, so that one of those who stay is primary, and no second one is
      have hone := h.primary (List.ne_nil_of_mem hmem)
      rw [hsplit.countP_eq, List.countP_append] at hone
      have hpos : 0 < (account.activeSessions.filter fun session =>
          !decide (some caller.id ≠ some session.id)).countP (·.isPrimary) :=
        List.countP_pos_iff.mpr ⟨caller, List.mem_filter.mpr ⟨hmem, by simp⟩, hprimary⟩
      omega
    · exact h

/-! ## Runs -/

theorem handleLoginSession_kept (h : Sound account) (login : Login) :
    Sound (handleLoginSession hashToken account login).2 ∧
      (revives hashToken account (.login login) = false →
        (handleLoginSession hashToken account login).1.isCreated = true →
          (handleLoginSession hashToken account login).2.activeSessions.length ≤
            account.maxSessionsAllowed) := by
  unfold handleLoginSession
  split_ifs with hinactive
  · exact ⟨h, fun _ hcreated => Bool.noConfusion hcreated⟩
  · split
    case h_1 =>
      obtain ⟨hsound, hlimit⟩ := admitSession_kept hashToken h login
      exact ⟨hsound, fun _ _ => hlimit⟩
    case h_2 suspended hfound =>
      refine ⟨(revive_kept hashToken h login suspended).1, fun hrevives => ?_⟩
      simp [revives, hinactive, hfound] at hrevives
    case h_3 => exact ⟨h, fun _ hcreated => Bool.noConfusion hcreated⟩

theorem handleLoginSession_of_revives (h : Sound account)
    {login : Login} (hrevives : revives hashToken account (.login login) = true) :
    (handleLoginSession hashToken account login).1.isCreated = true ∧
      (handleLoginSession hashToken account login).2.activeSessions.length =
        account.activeSessions.length ∧
      (handleLoginSession hashToken account login).2.maxSessionsAllowed =
        account.maxSessionsAllowed := by
  simp only [revives, Bool.and_eq_true, Bool.not_eq_true', decide_eq_true_eq] at hrevives
  obtain ⟨hactive, hlength⟩ := hrevives
  obtain ⟨suspended, hfound⟩ := List.length_eq_one_iff.mp hlength
  have hresult : handleLoginSession hashToken account login =
      (.sessionCreated suspended.id 0, revive hashToken account login suspended) := by
    simp [handleLoginSession, hactive, hfound]
  rw [hresult]
  exact ⟨rfl, (revive_kept hashToken h login suspended).2, rfl⟩

theorem approveLoginRequest_kept (h : Sound account) (approval : Approval) (recovering : Bool) :
    Sound (approveLoginRequest hashToken account approval recovering).2 ∧
      ((approveLoginRequest hashToken account approval recovering).1.isCreated = true →
        (approveLoginRequest hashToken account approval recovering).2.activeSessions.length ≤
          account.maxSessionsAllowed) := by
  unfold approveLoginRequest
  split
  case h_1 => exact ⟨h, fun hcreated => Bool.noConfusion hcreated⟩
  case h_2 request _ =>
    split_ifs
    · exact ⟨h, fun hcreated => Bool.noConfusion hcreated⟩
    · exact ⟨h.setLoginRequest .., fun hcreated => Bool.noConfusion hcreated⟩
    · exact ⟨h, fun hcreated => Bool.noConfusion hcreated⟩
    · exact ⟨h, fun hcreated => Bool.noConfusion hcreated⟩
    · obtain ⟨hsound, hlimit⟩ := admitRequest_kept hashToken h approval request
      exact ⟨hsound, fun _ => hlimit⟩

theorem approveRecovery_kept (h : Sound account) (approval : Approval) :
    Sound (approveRecovery hashToken account approval).2 ∧
      ((approveRecovery hashToken account approval).1.isCreated = true →
        (approveRecovery hashToken account approval).2.activeSessions.length ≤
          account.maxSessionsAllowed) := by
  unfold approveRecovery
  split
  case h_1 => exact ⟨h, fun hcreated => Bool.noConfusion hcreated⟩
  case h_2 request _ =>
    obtain ⟨hsound, hlimit⟩ :=
      admitRequest_kept hashToken h { approval with approverSessionId := none } request
    exact ⟨hsound, fun _ => hlimit⟩

theorem sound_step (h : Sound account) (op : Operation) :
    Sound (step hashToken account op) := by
  cases op with
  | login login => exact (handleLoginSession_kept hashToken h login).1
  | requestLogin request => exact ⟨h.ids, h.below, h.primary⟩
  | approve approval recovering => exact (approveLoginRequest_kept hashToken h approval recovering).1
  | approveRecovery approval => exact (approveRecovery_kept hashToken h approval).1
  | logout sessionId => exact h.logoutSession sessionId
  | clearOthers callerSessionId => exact h.clearOthers callerSessionId
  | clearAll => exact h.clearAll
  | setUser => exact ⟨h.ids, h.below, h.primary⟩

theorem maxSessionsAllowed_login (account : Account) (login : Login) :
    (handleLoginSession hashToken account login).2.maxSessionsAllowed =
      account.maxSessionsAllowed := by
  unfold handleLoginSession admitSession
  dsimp only
  repeat' split
  all_goals rfl

theorem maxSessionsAllowed_approve (account : Account) (approval : Approval) (recovering : Bool) :
    (approveLoginRequest hashToken account approval recovering).2.maxSessionsAllowed =
      account.maxSessionsAllowed := by
  unfold approveLoginRequest
  repeat' split
  all_goals rfl

theorem maxSessionsAllowed_approveRecovery (account : Account) (approval : Approval) :
    (approveRecovery hashToken account approval).2.maxSessionsAllowed =
      account.maxSessionsAllowed := by
  unfold approveRecovery
  split <;> rfl

theorem withinLimit_iff (h : Sound account) (op : Operation) :
    WithinLimit hashToken account op (step hashToken account op) ↔
      RevivesWithinLimit hashToken account op (step hashToken account op) := by
  cases op with
  | login login =>
    cases hrevives : revives hashToken account (.login login) with
    | true =>
      obtain ⟨hcreated, hlength, hlimit⟩ := handleLoginSession_of_revives hashToken h hrevives
      refine ⟨fun hwithin _ => ?_, fun hrevive _ => ?_⟩
      · have hle := hwithin hcreated
        rw [step, operate, hlength, hlimit] at hle
        exact hle
      · rw [step, operate, hlength, hlimit]
        exact hrevive hrevives
    | false =>
      refine ⟨fun _ hrevive => ?_, fun _ hcreated => ?_⟩
      · rw [hrevives] at hrevive
        cases hrevive
      · rw [step, operate, maxSessionsAllowed_login]
        exact (handleLoginSession_kept hashToken h login).2 hrevives hcreated
  | approve approval recovering =>
    refine ⟨fun _ hrevive => Bool.noConfusion hrevive, fun _ hcreated => ?_⟩
    rw [step, operate, maxSessionsAllowed_approve]
    exact (approveLoginRequest_kept hashToken h approval recovering).2 hcreated
  | approveRecovery approval =>
    refine ⟨fun _ hrevive => Bool.noConfusion hrevive, fun _ hcreated => ?_⟩
    rw [step, operate, maxSessionsAllowed_approveRecovery]
    exact (approveRecovery_kept hashToken h approval).2 hcreated
  | requestLogin | logout | clearOthers | clearAll | setUser =>
    exact ⟨fun _ hrevive => Bool.noConfusion hrevive, fun _ hcreated => Bool.noConfusion hcreated⟩

theorem sound_of_nil (hnone : account.sessions = []) : Sound account := by
  refine ⟨by rw [hnone]; exact List.nodup_nil, fun session hsession => ?_, fun hactive => ?_⟩
  · rw [hnone] at hsession
    cases hsession
  · rw [Account.activeSessions, hnone] at hactive
    exact absurd rfl hactive

/-- From an account without sessions on: after every operation exactly one active session is
primary, if there is any; and every login, revival and approval stays within the limit exactly when
no session is revived while there are more than the limit admits. -/
theorem sessions_kept (hashToken : String → String) (account : Account)
    (hnone : account.sessions = []) (ops : List Operation) :
    EachStep (step hashToken) (fun _ _ account' => OnePrimary account') account ops ∧
      (EachStep (step hashToken) (WithinLimit hashToken) account ops ↔
        EachStep (step hashToken) (RevivesWithinLimit hashToken) account ops) := by
  have hsound := sound_of_nil hnone
  refine ⟨?_, ?_, ?_⟩
  · exact eachStep_of_invariant (I := Sound) (fun s op h _ => sound_step hashToken h op)
      (fun s op h _ => (sound_step hashToken h op).primary) ops account hsound
      (eachStep_true (step hashToken) ops account)
  · exact eachStep_of_invariant (I := Sound) (fun s op h _ => sound_step hashToken h op)
      (fun s op h hwithin => (withinLimit_iff hashToken h op).mp hwithin) ops account hsound
  · exact eachStep_of_invariant (I := Sound) (fun s op h _ => sound_step hashToken h op)
      (fun s op h hrevives => (withinLimit_iff hashToken h op).mpr hrevives) ops account hsound

def tokenHash : String → String
  | "a" => "ca978112ca1bbdcafac231b39a23dc4da786eff8147c4e72b9807785afee48bb"
  | "b" => "3e23e8160039594a33894f6564e1b1348bbd7a0088d42c4acb73eeaed59c009d"
  | "c" => "2e7d2c03a9507ae265ecf5b5356885a53393a2029d241394997265a1a25aefc6"
  | _ => "18ac3e7343f016890c510e93f935261169d9e3f565436429830faf0934f4f8e4"

def threeSessions : Account where
  role := .standard
  maxSessions := 3
  isInactive := false
  isAccountant := false
  sessions := []
  loginRequests := []
  nextSessionId := 0

def revivedInTime : List Operation :=
  [.login { now := 1, refreshToken := "a" }, .login { now := 2, refreshToken := "b" },
    .login { now := 3, refreshToken := "c", suspendedRefreshToken := "a" }, .logout 0]

theorem revival_in_time_kept :
    EachStep (step tokenHash) (fun _ _ account' => OnePrimary account') threeSessions revivedInTime ∧
      EachStep (step tokenHash) (WithinLimit tokenHash) threeSessions revivedInTime := by
  obtain ⟨hprimary, hwithin⟩ := sessions_kept tokenHash threeSessions rfl revivedInTime
  exact ⟨hprimary, hwithin.mpr (by decide)⟩

/-- Three logins, a new limit of one, and the revival of a session. -/
def revivedTooLate : List Operation :=
  [.login { now := 1, refreshToken := "a" }, .login { now := 2, refreshToken := "b" },
    .login { now := 3, refreshToken := "c" }, .setUser .standard 1 false false,
    .login { now := 4, refreshToken := "d", suspendedRefreshToken := "a" }]

/-- The revival leaves three active sessions under a limit of one. -/
theorem late_revival_exceeds :
    ¬ EachStep (step tokenHash) (WithinLimit tokenHash) threeSessions revivedTooLate := by
  decide

end TradingBot.Sessions
