import TradingBot.Registration.Transactions

/-!
# What the registration transactions write

The invariant of the tables, what every write leaves in place, and that a transaction writes rows
only under keys it holds. Each write of a commit is `Permitted`.
-/

namespace TradingBot.Registration

open TradingBot.Misc TradingBot.Sessions

/-- The last two say that an invitation has created one user at most and is used from then on. -/
structure TablesSound (tables : Tables) : Prop where
  invitationIds : UniqueKey (fun row : Invitation => some row.id) tables.invitations
  invitationNext : ∀ row ∈ tables.invitations, row.id < tables.nextInvitationId
  userIds : UniqueKey (fun user : User => some user.id) tables.users
  userNext : ∀ user ∈ tables.users, user.id < tables.nextUserId
  users : userConflict tables.users = none
  receipts : receiptsUnique tables.receipts
  exclusive : ∀ row ∈ tables.invitations, row.revokedAt = none ∨ row.completedAt = none
  once : (tables.created.map Prod.fst).Nodup
  used : ∀ entry ∈ tables.created, ∃ row ∈ tables.invitations, row.id = entry.1 ∧ row.isUsed = true

theorem userConflict_eq_none {users : List User} (h : userConflict users = none) :
    UniqueKey (fun user : User => some user.normalizedMobileNumber) users ∧
      UniqueKey (fun user : User => some user.normalizedAccountName) users ∧
      UniqueKey User.telegramId users := by
  unfold userConflict at h
  split_ifs at h with hmobile haccount htelegram
  exact ⟨hmobile, haccount, htelegram⟩

variable {row : Invitation} {first second third : Tables}

theorem TablesSound.invitation_eq {tables : Tables} (h : TablesSound tables)
    {other : Invitation} (hrow : row ∈ tables.invitations)
    (hother : other ∈ tables.invitations) (hid : other.id = row.id) : other = row :=
  h.invitationIds.eq hother hrow rfl (congrArg some hid.symm)

theorem TablesSound.user_eq {tables : Tables} (h : TablesSound tables) {user other : User}
    (huser : user ∈ tables.users) (hother : other ∈ tables.users) (hid : other.id = user.id) :
    other = user :=
  h.userIds.eq hother huser rfl (congrArg some hid.symm)

/-- A revoked invitation stays so and uncompleted, Telegram accounts stay, receipts are only added. -/
structure TablesKept (before after : Tables) : Prop where
  revoked : ∀ row ∈ before.invitations, row.revokedAt.isSome = true →
    ∃ row' ∈ after.invitations, row'.id = row.id ∧ row'.revokedAt.isSome = true ∧
      row'.isUsed = row.isUsed ∧ row'.registeredUserId = row.registeredUserId ∧
      row'.completedAt = row.completedAt
  bound : ∀ user ∈ before.users, user.telegramId.isSome = true → user ∈ after.users
  receipts : before.receipts <+: after.receipts

theorem TablesKept.refl (tables : Tables) : TablesKept tables tables where
  revoked := fun row hrow hrevoked => ⟨row, hrow, rfl, hrevoked, rfl, rfl, rfl⟩
  bound := fun _ huser _ => huser
  receipts := List.prefix_refl _

theorem TablesKept.trans (h : TablesKept first second)
    (h' : TablesKept second third) : TablesKept first third where
  revoked := by
    intro row hrow hrevoked
    obtain ⟨middle, hmiddle, hid, hrevoked', hused, huser, hcompleted⟩ :=
      h.revoked row hrow hrevoked
    obtain ⟨last, hlast, hid', hrevoked'', hused', huser', hcompleted'⟩ :=
      h'.revoked middle hmiddle hrevoked'
    exact ⟨last, hlast, hid'.trans hid, hrevoked'', hused'.trans hused, huser'.trans huser,
      hcompleted'.trans hcompleted⟩
  bound := by
    intro user huser hbound
    exact h'.bound user (h.bound user huser hbound) hbound
  receipts := h.receipts.trans h'.receipts

structure RowsKept (config : Config) (keys : List LockKey) (before after : Tables) : Prop where
  invitations : ∀ row ∈ before.invitations, LockKey.token row.token ∈ keys →
    row ∈ after.invitations
  users : ∀ user ∈ before.users, ∀ identity,
    normalizeInvitationIdentity config.isDigit user.mobileNumber user.accountName = some identity →
    LockKey.mobile identity.mobileNumber ∈ keys → user ∈ after.users
  receipts : ∀ command : TelegramRegistrationCommand, LockKey.command command.commandId ∈ keys →
    LockKey.idempotency command.idempotencyKey ∈ keys → receiptsOf before command = [] →
    receiptsOf after command = []

theorem RowsKept.trans {config : Config} {keys : List LockKey}
    (h : RowsKept config keys first second) (h' : RowsKept config keys second third) :
    RowsKept config keys first third where
  invitations := fun row hrow hkey => h'.invitations row (h.invitations row hrow hkey) hkey
  users := fun user huser identity hidentity hkey =>
    h'.users user (h.users user huser identity hidentity hkey) identity hidentity hkey
  receipts := fun command hcommand hkey hnone =>
    h'.receipts command hcommand hkey (h.receipts command hcommand hkey hnone)

structure Permitted (config : Config) (keys : List LockKey) (before after : Tables) : Prop where
  sound : TablesSound after
  kept : TablesKept before after
  spared : ∀ others : List LockKey, (∀ key ∈ keys, key ∉ others) →
    RowsKept config others before after

section Permitted

variable {config : Config} {keys : List LockKey} {tables : Tables}

theorem Permitted.trans (h : Permitted config keys first second)
    (h' : Permitted config keys second third) : Permitted config keys first third where
  sound := h'.sound
  kept := h.kept.trans h'.kept
  spared := fun others hout => (h.spared others hout).trans (h'.spared others hout)

theorem permitted_reservations (h : TablesSound tables)
    (reservations : List InvitationIdentityReservation) :
    Permitted config keys tables { tables with reservations := reservations } where
  sound := { h with }
  kept := { TablesKept.refl tables with }
  spared := fun _ _ => ⟨fun _ hrow _ => hrow, fun _ huser _ _ _ => huser, fun _ _ _ hnone => hnone⟩

theorem permitted_refl (h : TablesSound tables) : Permitted config keys tables tables :=
  permitted_reservations h tables.reservations

theorem permitted_writeRow (h : TablesSound tables)
    (hrow : row ∈ tables.invitations) (hkey : LockKey.token row.token ∈ keys)
    (write : Invitation → Invitation) (hid : (write row).id = row.id)
    (hexclusive : (write row).revokedAt = none ∨ (write row).completedAt = none)
    (hused : row.isUsed = true → (write row).isUsed = true)
    (hrevoked : row.revokedAt.isSome = true → (write row).revokedAt.isSome = true ∧
      (write row).isUsed = row.isUsed ∧ (write row).registeredUserId = row.registeredUserId ∧
      (write row).completedAt = row.completedAt) :
    Permitted config keys tables
      { tables with
        invitations := tables.invitations.map fun other =>
          if other.id = row.id then write other else other } where
  sound :=
    { h with
      invitationIds := by
        refine h.invitationIds.map fun other hother => ?_
        split_ifs with heq
        · rw [h.invitation_eq hrow hother heq, hid]
        · rfl
      invitationNext := by
        intro other' hother'
        obtain ⟨other, hother, rfl⟩ := List.mem_map.mp hother'
        split_ifs with heq
        · rw [h.invitation_eq hrow hother heq, hid]
          exact h.invitationNext row hrow
        · exact h.invitationNext other hother
      exclusive := by
        intro other' hother'
        obtain ⟨other, hother, rfl⟩ := List.mem_map.mp hother'
        split_ifs with heq
        · rw [h.invitation_eq hrow hother heq]
          exact hexclusive
        · exact h.exclusive other hother
      used := by
        intro entry hentry
        obtain ⟨other, hother, hother_id, hother_used⟩ := h.used entry hentry
        refine ⟨_, List.mem_map_of_mem hother, ?_⟩
        split_ifs with heq
        · rw [h.invitation_eq hrow hother heq] at hother_id hother_used ⊢
          exact ⟨hid.trans hother_id, hused hother_used⟩
        · exact ⟨hother_id, hother_used⟩ }
  kept :=
    { TablesKept.refl tables with
      revoked := by
        intro other hother hother_revoked
        refine ⟨_, List.mem_map_of_mem hother, ?_⟩
        split_ifs with heq
        · rw [h.invitation_eq hrow hother heq] at hother_revoked ⊢
          exact ⟨hid, hrevoked hother_revoked⟩
        · exact ⟨rfl, hother_revoked, rfl, rfl, rfl⟩ }
  spared := by
    intro others hout
    refine ⟨?_, fun _ huser _ _ _ => huser, fun _ _ _ hnone => hnone⟩
    intro other hother hother_key
    refine List.mem_map.mpr ⟨other, hother, if_neg fun heq => ?_⟩
    rw [h.invitation_eq hrow hother heq] at hother_key
    exact hout _ hkey hother_key

theorem permitted_addInvitation (h : TablesSound tables) (row : Invitation)
    (hid : row.id = tables.nextInvitationId) (hrevoked : row.revokedAt = none) :
    Permitted config keys tables
      { tables with
        invitations := tables.invitations ++ [row]
        nextInvitationId := tables.nextInvitationId + 1 } where
  sound :=
    { h with
      invitationIds := by
        refine h.invitationIds.append fun value hvalue other hother heq => ?_
        have hlt := h.invitationNext other hother
        rw [Option.some.inj (heq.trans hvalue.symm), hid] at hlt
        exact lt_irrefl _ hlt
      invitationNext := by
        intro other hother
        rcases List.mem_append.mp hother with hold | hnew
        · exact Nat.lt_succ_of_lt (h.invitationNext other hold)
        · rw [List.mem_singleton.mp hnew, hid]
          exact Nat.lt_succ_self _
      exclusive := by
        intro other hother
        rcases List.mem_append.mp hother with hold | hnew
        · exact h.exclusive other hold
        · rw [List.mem_singleton.mp hnew]
          exact .inl hrevoked
      used := by
        intro entry hentry
        obtain ⟨other, hother, hused⟩ := h.used entry hentry
        exact ⟨other, List.mem_append_left _ hother, hused⟩ }
  kept :=
    { TablesKept.refl tables with
      revoked := fun other hother hrevoked' =>
        ⟨other, List.mem_append_left _ hother, rfl, hrevoked', rfl, rfl, rfl⟩ }
  spared := fun _ _ => ⟨fun _ hother _ => List.mem_append_left _ hother,
    fun _ huser _ _ _ => huser, fun _ _ _ hnone => hnone⟩

theorem permitted_addUser (h : TablesSound tables) (user : User) (hid : user.id = tables.nextUserId)
    (hunique : userConflict (tables.users ++ [user]) = none) :
    Permitted config keys tables
      { tables with
        users := tables.users ++ [user]
        nextUserId := tables.nextUserId + 1 } where
  sound :=
    { h with
      users := hunique
      userIds := by
        refine h.userIds.append fun value hvalue other hother heq => ?_
        have hlt := h.userNext other hother
        rw [Option.some.inj (heq.trans hvalue.symm), hid] at hlt
        exact lt_irrefl _ hlt
      userNext := by
        intro other hother
        rcases List.mem_append.mp hother with hold | hnew
        · exact Nat.lt_succ_of_lt (h.userNext other hold)
        · rw [List.mem_singleton.mp hnew, hid]
          exact Nat.lt_succ_self _ }
  kept :=
    { TablesKept.refl tables with
      bound := fun _ hother _ => List.mem_append_left _ hother }
  spared := fun _ _ => ⟨fun _ hrow _ => hrow,
    fun _ hother _ _ _ => List.mem_append_left _ hother, fun _ _ _ hnone => hnone⟩

theorem permitted_addCreated (h : TablesSound tables) (entry : Nat × Nat)
    (hnew : entry.1 ∉ tables.created.map Prod.fst)
    (hused : ∃ row ∈ tables.invitations, row.id = entry.1 ∧ row.isUsed = true) :
    Permitted config keys tables { tables with created := tables.created ++ [entry] } where
  sound :=
    { h with
      once := by
        rw [List.map_append]
        refine List.nodup_append.mpr ⟨h.once, List.nodup_singleton _, ?_⟩
        intro id hmem id' hlast heq
        rw [List.map_singleton, List.mem_singleton] at hlast
        exact hnew (hlast ▸ heq ▸ hmem)
      used := by
        intro other hother
        rcases List.mem_append.mp hother with hold | hlast
        · exact h.used other hold
        · rw [List.mem_singleton.mp hlast]
          exact hused }
  kept := { TablesKept.refl tables with }
  spared := fun _ _ => ⟨fun _ hrow _ => hrow, fun _ huser _ _ _ => huser, fun _ _ _ hnone => hnone⟩

theorem permitted_linkUser (h : TablesSound tables) {user : User} (huser : user ∈ tables.users)
    (hfree : user.telegramId = none) {identity : NormalizedInvitationIdentity}
    (hidentity : normalizeInvitationIdentity config.isDigit user.mobileNumber user.accountName =
      some identity)
    (hkey : LockKey.mobile identity.mobileNumber ∈ keys) {command : TelegramRegistrationCommand}
    (hunique : userConflict (linkUser tables user.id command).users = none) :
    Permitted config keys tables (linkUser tables user.id command) where
  sound :=
    { h with
      users := hunique
      userIds := by
        refine h.userIds.map fun other _ => ?_
        split_ifs <;> rfl
      userNext := by
        intro other' hother'
        obtain ⟨other, hother, rfl⟩ := List.mem_map.mp hother'
        have hlt := h.userNext other hother
        split_ifs <;> exact hlt }
  kept :=
    { TablesKept.refl tables with
      bound := by
        intro other hother hbound
        refine List.mem_map.mpr ⟨other, hother, if_neg fun heq => ?_⟩
        rw [h.user_eq huser hother heq, hfree] at hbound
        cases hbound }
  spared := by
    intro others hout
    refine ⟨fun _ hrow _ => hrow, ?_, fun _ _ _ hnone => hnone⟩
    intro other hother identity' hidentity' hother_key
    refine List.mem_map.mpr ⟨other, hother, if_neg fun heq => ?_⟩
    rw [h.user_eq huser hother heq, hidentity, Option.some.injEq] at hidentity'
    rw [← hidentity'] at hother_key
    exact hout _ hkey hother_key

theorem permitted_createUser (h : TablesSound tables)
    (hrow : row ∈ tables.invitations) (hkey : LockKey.token row.token ∈ keys)
    (hunused : row.isUsed = false) (hrevoked : row.revokedAt = none)
    {request : RegistrationRequest} {now : Int}
    (hunique : userConflict (createUser config tables row request now).users = none) :
    Permitted config keys tables (createUser config tables row request now) := by
  have hfirst : row.id ∉ tables.created.map Prod.fst := by
    intro hmem
    obtain ⟨entry, hentry, hid⟩ := List.mem_map.mp hmem
    obtain ⟨other, hother, hother_id, hused⟩ := h.used entry hentry
    rw [h.invitation_eq hrow hother (hother_id.trans hid), hunused] at hused
    cases hused
  have hcomplete : Permitted config keys tables _ := permitted_writeRow h hrow hkey
    (completeInvitation tables.nextUserId
      (if request.telegramCommand.isSome then .telegram else .web) now)
    rfl (.inl hrevoked) (fun _ => rfl) (fun hsome => by rw [hrevoked] at hsome; cases hsome)
  have huser := hcomplete.trans
    (permitted_addUser hcomplete.sound (newUser config tables row request) rfl hunique)
  have hcreated := huser.trans (permitted_addCreated huser.sound
    (row.id, tables.nextUserId) hfirst
    ⟨_, List.mem_map_of_mem hrow, by rw [if_pos rfl]; exact ⟨rfl, rfl⟩⟩)
  exact hcreated.trans (permitted_reservations hcreated.sound _)

theorem permitted_addReceipt (h : TablesSound tables) {request : RegistrationRequest}
    (hkeys : ∀ command, request.telegramCommand = some command →
      LockKey.command command.commandId ∈ keys ∧
        LockKey.idempotency command.idempotencyKey ∈ keys)
    {outcome : TelegramRegistrationOutcome} {userId : Option Nat}
    (hunique : receiptsUnique (addReceipt config tables request outcome userId).receipts) :
    Permitted config keys tables (addReceipt config tables request outcome userId) := by
  unfold addReceipt at hunique ⊢
  split at hunique
  case h_1 => exact permitted_refl h
  case h_2 command hcommand =>
    obtain ⟨hid, hkey⟩ := hkeys command hcommand
    refine ⟨{ h with receipts := hunique }, ?_, ?_⟩
    · exact { TablesKept.refl tables with receipts := List.prefix_append _ _ }
    · intro others hout
      refine ⟨fun _ hrow _ => hrow, fun _ huser _ _ _ => huser, ?_⟩
      intro other hother_id hother_key hnone
      have hid_ne : command.commandId ≠ other.commandId :=
        fun heq => hout _ hid (heq ▸ hother_id)
      have hkey_ne : command.idempotencyKey ≠ other.idempotencyKey :=
        fun heq => hout _ hkey (heq ▸ hother_key)
      unfold receiptsOf at hnone ⊢
      rw [List.filter_append, hnone]
      simp [hid_ne, hkey_ne]

end Permitted

end TradingBot.Registration
