import Mathlib.Data.List.Induction
import TradingBot.Misc.Rows
import TradingBot.Misc.Run

/-!
# Members of a group chat

`src/core/services/chat_room_service.py` with its routes in `src/api/routers/chat.py`: admins of one
group add, promote, demote and remove members, and members leave. Each request is one transaction
under read-committed isolation: a statement sees what is committed when it runs, no row is locked,
and the one write is made at the commit, to the columns that differ from the loaded ones. Statements
of any requests run in any order.

The last admin and the limit of members are checked by counts, which nothing keeps until the commit.
-/

namespace TradingBot.Chat

open TradingBot.Misc

/-- `ChatMemberRole`. -/
inductive MemberRole where
  | admin
  | member
  deriving DecidableEq, Repr

/-- `ChatMembershipStatus`. -/
inductive MembershipStatus where
  | active
  | left
  | removed
  | inactive
  deriving DecidableEq, Repr

/-- A row of `chat_members` of the group. -/
structure ChatMember where
  id : Nat
  userId : Int
  role : MemberRole
  membershipStatus : MembershipStatus
  deriving DecidableEq, Repr

namespace ChatMember

def isActive (row : ChatMember) : Bool := row.membershipStatus = .active

def isActiveAdmin (row : ChatMember) : Bool := row.membershipStatus = .active ∧ row.role = .admin

end ChatMember

/-- `GROUP_MAX_MEMBERS`. -/
def groupMaxMembers : Int := 50

/-- `int(chat.max_members or GROUP_MAX_MEMBERS)`. -/
def memberLimit (maxMembers : Option Int) : Int :=
  match maxMembers with
  | none => groupMaxMembers
  | some limit => if limit = 0 then groupMaxMembers else limit

def countActiveChatMembers (rows : List ChatMember) : Nat := rows.countP ChatMember.isActive

def countActiveChatAdmins (rows : List ChatMember) : Nat := rows.countP ChatMember.isActiveAdmin

def newest : List ChatMember → Option ChatMember
  | [] => none
  | row :: rows =>
    match newest rows with
    | none => some row
    | some best => if best.id < row.id then some row else some best

def memberRow (rows : List ChatMember) (userId : Int) : Option ChatMember :=
  newest (rows.filter fun row => row.userId = userId)

def activeMemberRow (rows : List ChatMember) (userId : Int) : Option ChatMember :=
  newest (rows.filter fun row => row.userId = userId ∧ row.membershipStatus = .active)

/-- The requests, with what other tables say: whether the user is there, and the text with which
`_validate_customer_group_membership_context` refuses, if it does. -/
inductive GroupRequest where
  | add (actor user : Int) (userFound : Bool) (contextRefusal : Option String)
  | setAdmin (actor user : Int) (makeAdmin : Bool)
  | remove (actor user : Int)
  | leave (user : Int)
  deriving DecidableEq, Repr

inductive MemberWrite where
  | insert (userId : Int)
  | reactivate (seen : ChatMember)
  | setRole (seen : ChatMember) (role : MemberRole)
  | depart (seen : ChatMember) (status : MembershipStatus)
  deriving DecidableEq, Repr

/-- `GroupMemberMutationSummary`. -/
structure MutationSummary where
  userId : Int
  role : Option MemberRole
  removed : Bool
  left : Bool
  memberCount : Nat
  unchanged : Bool
  deriving DecidableEq, Repr

inductive GroupOutcome where
  | answered (summary : MutationSummary)
  | refused (status : Nat) (detail : String)
  | integrityError
  deriving DecidableEq, Repr

inductive Stage where
  | begun
  | authorized (actorRow : ChatMember)
  | loaded (member : Option ChatMember)
  | unchanged (role : MemberRole)
  | checked (write : MemberWrite)
  | committed (write : MemberWrite)
  | ended (outcome : GroupOutcome)
  deriving DecidableEq, Repr

def notMember : GroupOutcome := .refused 403 "You are not a member of this group"

def notAdmin : GroupOutcome := .refused 403 "Only group admins can manage this group"

def memberNotFound : GroupOutcome := .refused 404 "Group member not found"

def lastAdmin : GroupOutcome := .refused 400 "Group must keep at least one active admin"

def limitExceeded (limit : Int) : GroupOutcome :=
  .refused 400 ("Group member limit exceeded (" ++ toString limit ++ ")")

/-- `admin_count <= 1`. -/
def refusesLastAdmin (rows : List ChatMember) : Bool := countActiveChatAdmins rows ≤ 1

/-- `member_count >= max_members`. -/
def refusesLimit (limit : Int) (rows : List ChatMember) : Bool :=
  limit ≤ (countActiveChatMembers rows : Int)

/-- `get_active_group_admin_or_403`. -/
def getActiveGroupAdmin (rows : List ChatMember) (actor : Int) : Stage :=
  match activeMemberRow rows actor with
  | none => .ended notMember
  | some row => if row.role = .admin then .authorized row else .ended notAdmin

/-- A row that is loaded again in the session keeps the values it was first loaded with. -/
def identityMapped (actorRow row : ChatMember) : ChatMember :=
  if row.id = actorRow.id then actorRow else row

def loadMember (rows : List ChatMember) (actorRow : ChatMember) : GroupRequest → Stage
  | .add _ user userFound _ =>
    if userFound then .loaded ((memberRow rows user).map (identityMapped actorRow))
    else .ended (.refused 404 "User not found")
  | .setAdmin _ user _ => .loaded ((activeMemberRow rows user).map (identityMapped actorRow))
  | .remove actor user =>
    if actor = user then .ended (.refused 400 "Use the leave endpoint to leave a group")
    else .loaded ((activeMemberRow rows user).map (identityMapped actorRow))
  | .leave user => .loaded ((activeMemberRow rows user).map (identityMapped actorRow))

/-- `add_group_member` after the row was loaded (lines 1584-1624). -/
def checkAdd (limit : Int) (rows : List ChatMember) (user : Int) (contextRefusal : Option String)
    (member : Option ChatMember) : Stage :=
  match member.filter ChatMember.isActive with
  | some row => .unchanged row.role
  | none =>
    if refusesLimit limit rows then .ended (limitExceeded limit)
    else
      match contextRefusal, member with
      | some detail, _ => .ended (.refused 400 detail)
      | none, none => .checked (.insert user)
      | none, some row => .checked (.reactivate row)

/-- `update_group_admin_status` after the row was loaded (lines 1657-1680). -/
def checkSetAdmin (rows : List ChatMember) (makeAdmin : Bool) : Option ChatMember → Stage
  | none => .ended memberNotFound
  | some row =>
    let target := if makeAdmin then MemberRole.admin else .member
    if row.role = target then .unchanged row.role
    else if ¬ makeAdmin ∧ refusesLastAdmin rows then .ended lastAdmin
    else .checked (.setRole row target)

/-- The departure of a loaded row (chat_room_service.py:1716-1735, 1755-1771). -/
def checkDeparture (rows : List ChatMember) (status : MembershipStatus) (missing : GroupOutcome) :
    Option ChatMember → Stage
  | none => .ended missing
  | some row =>
    if row.role = .admin ∧ refusesLastAdmin rows then .ended lastAdmin
    else .checked (.depart row status)

def checkMember (limit : Int) (rows : List ChatMember) (member : Option ChatMember) :
    GroupRequest → Stage
  | .add _ user _ contextRefusal => checkAdd limit rows user contextRefusal member
  | .setAdmin _ _ makeAdmin => checkSetAdmin rows makeAdmin member
  | .remove .. => checkDeparture rows .removed memberNotFound member
  | .leave _ => checkDeparture rows .left notMember member

/-- `ux_chat_members_active_membership`: another active row of the user. -/
def activeElsewhere (rows : List ChatMember) (userId : Int) (id : Option Nat) : Bool :=
  rows.any fun row => row.userId = userId ∧ row.membershipStatus = .active ∧ some row.id ≠ id

def reactivated (seen row : ChatMember) : ChatMember :=
  { row with
    membershipStatus := .active
    role := if seen.role = .member then row.role else .member }

/-- The flush and the commit of a write, or the violation of the index. -/
def MemberWrite.apply (rows : List ChatMember) (nextId : Nat) : MemberWrite → Option (List ChatMember)
  | .insert userId =>
    if activeElsewhere rows userId none then none
    else some (rows ++ [⟨nextId, userId, .member, .active⟩])
  | .reactivate seen =>
    if activeElsewhere rows seen.userId (some seen.id) then none
    else some (setRow ChatMember.id seen.id (reactivated seen) rows)
  | .setRole seen role =>
    some (setRow ChatMember.id seen.id (fun row => { row with role := role }) rows)
  | .depart seen status =>
    some (setRow ChatMember.id seen.id (fun row => { row with membershipStatus := status }) rows)

def MemberWrite.summary (rows : List ChatMember) : MemberWrite → MutationSummary
  | .insert userId => ⟨userId, some .member, false, false, countActiveChatMembers rows, false⟩
  | .reactivate seen => ⟨seen.userId, some .member, false, false, countActiveChatMembers rows, false⟩
  | .setRole seen role => ⟨seen.userId, some role, false, false, countActiveChatMembers rows, false⟩
  | .depart seen status =>
    ⟨seen.userId, none, status = .removed, status = .left, countActiveChatMembers rows, false⟩

/-- The committed rows and the transactions that were begun, in their order. -/
structure GroupState where
  rows : List ChatMember
  nextId : Nat
  transactions : List (GroupRequest × Stage)
  deriving DecidableEq, Repr

inductive GroupOp where
  | request (request : GroupRequest)
  | next (number : Nat)
  deriving DecidableEq, Repr

def GroupRequest.user : GroupRequest → Int
  | .add _ user _ _ | .setAdmin _ user _ | .remove _ user | .leave user => user

def readStage (limit : Int) (rows : List ChatMember) (request : GroupRequest) : Stage → Stage
  | .begun =>
    match request with
    | .leave user => .loaded (activeMemberRow rows user)
    | .add actor .. | .setAdmin actor .. | .remove actor _ => getActiveGroupAdmin rows actor
  | .authorized actorRow => loadMember rows actorRow request
  | .loaded member => checkMember limit rows member request
  | .unchanged role =>
    .ended (.answered ⟨request.user, some role, false, false, countActiveChatMembers rows, true⟩)
  | .checked write => .checked write
  | .committed write => .ended (.answered (write.summary rows))
  | .ended outcome => .ended outcome

def GroupState.next (limit : Int) (s : GroupState) (number : Nat) : GroupState :=
  match s.transactions[number]? with
  | none => s
  | some (request, .checked write) =>
    match write.apply s.rows s.nextId with
    | none =>
      { s with
        nextId := s.nextId + 1
        transactions := s.transactions.set number (request, .ended .integrityError) }
    | some rows =>
      { rows := rows
        nextId := s.nextId + 1
        transactions := s.transactions.set number (request, .committed write) }
  | some (request, stage) =>
    { s with transactions := s.transactions.set number (request, readStage limit s.rows request stage) }

def GroupState.step (limit : Int) (s : GroupState) : GroupOp → GroupState
  | .request request => { s with transactions := s.transactions ++ [(request, .begun)] }
  | .next number => s.next limit number

def normalizedMemberIds : List Int → List Int → List Int
  | _, [] => []
  | seen, user :: users =>
    if user ≤ 0 ∨ user ∈ seen then normalizedMemberIds seen users
    else user :: normalizedMemberIds (user :: seen) users

def memberRows (firstId : Nat) : List Int → List ChatMember
  | [] => []
  | user :: users => ⟨firstId, user, .member, .active⟩ :: memberRows (firstId + 1) users

/-- The rows of `create_group_chat` (line 937), unless it refuses their number. -/
def newGroup (firstId : Nat) (creator : Int) (memberIds : List Int) : Option GroupState :=
  let members := normalizedMemberIds [creator] memberIds
  if groupMaxMembers < 1 + (members.length : Int) then none
  else some
    { rows := ⟨firstId, creator, .admin, .active⟩ :: memberRows (firstId + 1) members
      nextId := firstId + 1 + members.length
      transactions := [] }

/-- The group has an active admin and not too many active members. -/
def Bounded (limit : Int) (s : GroupState) : Prop :=
  0 < countActiveChatAdmins s.rows ∧ (countActiveChatMembers s.rows : Int) ≤ limit

instance (limit : Int) (s : GroupState) : Decidable (Bounded limit s) :=
  inferInstanceAs (Decidable (_ ∧ _))

def MemberWrite.write : MemberWrite → ChatMember → ChatMember
  | .insert _, row => row
  | .reactivate seen, row => reactivated seen row
  | .setRole _ role, row => { row with role := role }
  | .depart _ status, row => { row with membershipStatus := status }

def MemberWrite.rowId : MemberWrite → Option Nat
  | .insert _ => none
  | .reactivate seen | .setRole seen _ | .depart seen _ => some seen.id

def MemberWrite.target (rows : List ChatMember) (write : MemberWrite) : Option ChatMember :=
  write.rowId.bind fun id => getRow ChatMember.id id rows

def MemberWrite.takesAdmin (write : MemberWrite) (rows : List ChatMember) : Prop :=
  ∃ row ∈ write.target rows, row.isActiveAdmin ∧ ¬ (write.write row).isActiveAdmin

def MemberWrite.addsMember (write : MemberWrite) (rows : List ChatMember) : Prop :=
  write.rowId = none ∨ ∃ row ∈ write.target rows, ¬ row.isActive ∧ (write.write row).isActive

/-- The commit of a write changes the row another transaction has loaded, or a count that let its
write through. -/
def MemberWrite.disturbs (write : MemberWrite) (rows : List ChatMember) : Stage → Prop
  | .loaded (some row) => write.rowId = some row.id
  | .checked other =>
    (write.rowId.isSome ∧ write.rowId = other.rowId) ∨
      (write.takesAdmin rows ∧ other.takesAdmin rows) ∨ (write.addsMember rows ∧ other.addsMember rows)
  | _ => False

/-- No commit that the index lets through disturbs what another transaction has read for its own. -/
def Undisturbed (s : GroupState) (op : GroupOp) (_ : GroupState) : Prop :=
  match op with
  | .request _ => True
  | .next number => ∀ request write, s.transactions[number]? = some (request, .checked write) →
      (write.apply s.rows s.nextId).isSome →
      ∀ other entry, other ≠ number → s.transactions[other]? = some entry →
        ¬ write.disturbs s.rows entry.2

/-! ## One write -/

section Write

variable {limit : Int} {rows rows' : List ChatMember} {nextId id : Nat} {write : MemberWrite}

theorem MemberWrite.apply_cases (h : write.apply rows nextId = some rows') :
    (∃ userId, write = .insert userId ∧ rows' = rows ++ [⟨nextId, userId, .member, .active⟩]) ∨
    (∃ id, write.rowId = some id ∧ rows' = setRow ChatMember.id id write.write rows) := by
  cases write with
  | insert userId =>
    rw [MemberWrite.apply] at h
    split at h
    · cases h
    · exact .inl ⟨userId, rfl, (Option.some.inj h).symm⟩
  | reactivate seen =>
    rw [MemberWrite.apply] at h
    split at h
    · cases h
    · exact .inr ⟨seen.id, rfl, (Option.some.inj h).symm⟩
  | setRole seen role =>
    exact .inr ⟨seen.id, rfl, (Option.some.inj h).symm⟩
  | depart seen status =>
    exact .inr ⟨seen.id, rfl, (Option.some.inj h).symm⟩

theorem MemberWrite.id_write (write : MemberWrite) (row : ChatMember) :
    (write.write row).id = row.id := by
  cases write <;> rfl

theorem MemberWrite.target_of_rowId (h : write.rowId = some id) :
    write.target rows = getRow ChatMember.id id rows := by
  rw [MemberWrite.target, h, Option.bind_some]

structure IdsSound (rows : List ChatMember) (nextId : Nat) : Prop where
  nodup : (rows.map ChatMember.id).Nodup
  below : ∀ row ∈ rows, row.id < nextId

theorem IdsSound.succ (h : IdsSound rows nextId) : IdsSound rows (nextId + 1) :=
  ⟨h.nodup, fun row hrow => Nat.lt_succ_of_lt (h.below row hrow)⟩

theorem IdsSound.apply (h : IdsSound rows nextId) (happly : write.apply rows nextId = some rows') :
    IdsSound rows' (nextId + 1) := by
  obtain ⟨userId, -, rfl⟩ | ⟨id, -, rfl⟩ := MemberWrite.apply_cases happly
  · constructor
    · exact nodup_map_append_singleton h.nodup fun old hold => Nat.ne_of_lt (h.below old hold)
    · intro row hrow
      rcases List.mem_append.mp hrow with hold | hnew
      · exact Nat.lt_succ_of_lt (h.below row hold)
      · rw [List.mem_singleton.mp hnew]
        exact Nat.lt_succ_self nextId
  · constructor
    · rw [map_id_setRow fun row hkey => (write.id_write row).trans hkey]
      exact h.nodup
    · intro row hrow
      rcases mem_setRow.mp hrow with ⟨hold, -⟩ | ⟨old, hold, -, rfl⟩
      · exact Nat.lt_succ_of_lt (h.below row hold)
      · rw [write.id_write]
        exact Nat.lt_succ_of_lt (h.below old hold)

theorem refusesLastAdmin_eq_false :
    refusesLastAdmin rows = false ↔ 1 < countActiveChatAdmins rows := by
  rw [refusesLastAdmin, decide_eq_false_iff_not, Nat.not_le]

theorem refusesLimit_eq_false :
    refusesLimit limit rows = false ↔ (countActiveChatMembers rows : Int) < limit := by
  rw [refusesLimit, decide_eq_false_iff_not, Int.not_le]

/-- A commit changes the counts only as it takes an admin or adds a member. -/
theorem MemberWrite.counts_apply (hids : IdsSound rows nextId)
    (happly : write.apply rows nextId = some rows') :
    (countActiveChatAdmins rows ≤ countActiveChatAdmins rows' ∨
      write.takesAdmin rows ∧ countActiveChatAdmins rows ≤ countActiveChatAdmins rows' + 1) ∧
    (countActiveChatMembers rows' ≤ countActiveChatMembers rows ∨
      write.addsMember rows ∧ countActiveChatMembers rows' ≤ countActiveChatMembers rows + 1) := by
  obtain ⟨userId, rfl, rfl⟩ | ⟨id, hid, rfl⟩ := MemberWrite.apply_cases happly
  · refine ⟨.inl ?_, .inr ⟨.inl rfl, ?_⟩⟩
    · simp [countActiveChatAdmins]
    · simp [countActiveChatMembers, ChatMember.isActive]
  · cases hrow : getRow ChatMember.id id rows with
    | none =>
      rw [setRow_of_getRow_none hrow]
      exact ⟨.inl (Nat.le_refl _), .inl (Nat.le_refl _)⟩
    | some row =>
      have htarget : row ∈ write.target rows := (write.target_of_rowId hid).trans hrow
      have hadmins := countP_setRow ChatMember.isActiveAdmin write.write hids.nodup hrow
      have hmembers := countP_setRow ChatMember.isActive write.write hids.nodup hrow
      constructor
      · by_cases htakes : row.isActiveAdmin = true ∧ ¬ (write.write row).isActiveAdmin = true
        · refine .inr ⟨⟨row, htarget, htakes⟩, ?_⟩
          rw [htakes.1] at hadmins
          exact Nat.le_trans (Nat.le_add_right _ _) (Nat.le_of_eq hadmins.symm)
        · refine .inl ?_
          unfold countActiveChatAdmins
          cases hbefore : row.isActiveAdmin <;> cases hafter : (write.write row).isActiveAdmin <;>
            simp [hbefore, hafter] at hadmins htakes <;> omega
      · by_cases hadds : ¬ row.isActive = true ∧ (write.write row).isActive = true
        · refine .inr ⟨.inr ⟨row, htarget, hadds⟩, ?_⟩
          rw [hadds.2] at hmembers
          exact Nat.le_trans (Nat.le_add_right _ _) (Nat.le_of_eq hmembers)
        · refine .inl ?_
          unfold countActiveChatMembers
          cases hbefore : row.isActive <;> cases hafter : (write.write row).isActive <;>
            simp [hbefore, hafter] at hmembers hadds <;> omega

theorem MemberWrite.mem_ids_apply (happly : write.apply rows nextId = some rows')
    (hid : id ∈ rows.map ChatMember.id) : id ∈ rows'.map ChatMember.id := by
  obtain ⟨userId, -, rfl⟩ | ⟨other, -, rfl⟩ := MemberWrite.apply_cases happly
  · rw [List.map_append]
    exact List.mem_append_left _ hid
  · rw [map_id_setRow fun row hkey => (write.id_write row).trans hkey]
    exact hid

/-- A row that the write is not about is found as before. -/
theorem MemberWrite.getRow_apply (happly : write.apply rows nextId = some rows')
    (hid : id ∈ rows.map ChatMember.id) (hne : write.rowId ≠ some id) :
    getRow ChatMember.id id rows' = getRow ChatMember.id id rows := by
  obtain ⟨userId, -, rfl⟩ | ⟨other, hother, rfl⟩ := MemberWrite.apply_cases happly
  · cases hrow : getRow ChatMember.id id rows with
    | none =>
      obtain ⟨row, hmem, hkey⟩ := List.mem_map.mp hid
      exact absurd hkey (getRow_eq_none.mp hrow row hmem)
    | some row =>
      rw [getRow] at hrow
      rw [getRow, List.find?_append, hrow, Option.some_or]
  · refine getRow_setRow_of_ne (fun row hkey => (write.id_write row).trans hkey) ?_
    rintro rfl
    exact hne hother

end Write

/-! ## What a transaction knows -/

/-- What holds at a stage of a transaction that no commit has disturbed: a row loaded as no admin is
no active admin, one loaded inactive is inactive, and the counts that let the write through still
do. -/
def StageSound (limit : Int) (rows : List ChatMember) : Stage → Prop
  | .authorized row => row.isActiveAdmin ∧ row.id ∈ rows.map ChatMember.id
  | .loaded (some row) =>
    row.id ∈ rows.map ChatMember.id ∧ ∀ current ∈ getRow ChatMember.id row.id rows,
      (current.isActiveAdmin → row.role = .admin) ∧ (current.isActive → row.isActive)
  | .checked write =>
    (∀ id ∈ write.rowId, id ∈ rows.map ChatMember.id) ∧
      (write.takesAdmin rows → refusesLastAdmin rows = false) ∧
      (write.addsMember rows → refusesLimit limit rows = false)
  | _ => True

section Stages

variable {limit : Int} {rows rows' : List ChatMember} {nextId : Nat} {write : MemberWrite}
  {row actorRow : ChatMember} {user : Int} {stage : Stage} {member : Option ChatMember}

theorem newest_mem (h : newest rows = some row) : row ∈ rows := by
  induction rows generalizing row with
  | nil => cases h
  | cons head tail ih =>
    rw [newest] at h
    split at h
    · cases h
      exact List.mem_cons_self
    · rename_i best hbest
      split at h
      · cases h
        exact List.mem_cons_self
      · cases h
        exact List.mem_cons_of_mem head (ih hbest)

theorem memberRow_mem (h : memberRow rows user = some row) : row ∈ rows :=
  (List.mem_filter.mp (newest_mem h)).1

theorem activeMemberRow_mem (h : activeMemberRow rows user = some row) :
    row ∈ rows ∧ row.membershipStatus = .active := by
  obtain ⟨hmem, hactive⟩ := List.mem_filter.mp (newest_mem h)
  rw [decide_eq_true_eq] at hactive
  exact ⟨hmem, hactive.2⟩

theorem ChatMember.isActive_of_isActiveAdmin (h : row.isActiveAdmin = true) :
    row.isActive = true ∧ row.role = .admin := by
  rw [ChatMember.isActiveAdmin, decide_eq_true_eq] at h
  exact ⟨decide_eq_true h.1, h.2⟩

/-- A row that is loaded is as it was committed, or as the actor's own row was found. -/
theorem stageSound_loaded (hids : IdsSound rows nextId)
    (hactor : StageSound limit rows (.authorized actorRow)) (hrow : row ∈ rows) :
    StageSound limit rows (.loaded (some (identityMapped actorRow row))) := by
  unfold identityMapped
  split
  · obtain ⟨hactive, hrole⟩ := ChatMember.isActive_of_isActiveAdmin hactor.1
    exact ⟨hactor.2, fun current _ => ⟨fun _ => hrole, fun _ => hactive⟩⟩
  · refine ⟨List.mem_map_of_mem hrow, fun current hcurrent => ?_⟩
    rw [getRow_of_mem hids.nodup hrow] at hcurrent
    cases hcurrent
    exact ⟨fun hadmin => (ChatMember.isActive_of_isActiveAdmin hadmin).2, id⟩

theorem stageSound_loadMember (hids : IdsSound rows nextId) (request : GroupRequest)
    (hactor : StageSound limit rows (.authorized actorRow)) :
    StageSound limit rows (loadMember rows actorRow request) := by
  have hloaded : ∀ found : Option ChatMember, (∀ row, found = some row → row ∈ rows) →
      StageSound limit rows (.loaded (found.map (identityMapped actorRow))) := by
    intro found hfound
    cases found with
    | none => trivial
    | some row => exact stageSound_loaded hids hactor (hfound row rfl)
  have hactive : ∀ user row, activeMemberRow rows user = some row → row ∈ rows :=
    fun user row h => (activeMemberRow_mem h).1
  cases request with
  | add =>
    rw [loadMember]
    split
    · exact hloaded _ fun row => memberRow_mem
    · trivial
  | setAdmin actor user makeAdmin => exact hloaded _ (hactive user)
  | remove actor user =>
    rw [loadMember]
    split
    · trivial
    · exact hloaded _ (hactive user)
  | leave user => exact hloaded _ (hactive user)

theorem stageSound_checkAdd {contextRefusal : Option String}
    (h : StageSound limit rows (.loaded member)) :
    StageSound limit rows (checkAdd limit rows user contextRefusal member) := by
  unfold checkAdd
  split
  · trivial
  · rename_i hinactive
    split
    · trivial
    · rename_i hroom
      split
      · trivial
      · refine ⟨fun id hid => (by cases hid), ?_, fun _ => Bool.eq_false_iff.mpr hroom⟩
        rintro ⟨row, hrow, -⟩
        cases hrow
      · rename_i row
        refine ⟨fun id hid => ?_, ?_, fun _ => Bool.eq_false_iff.mpr hroom⟩
        · cases hid
          exact h.1
        · -- the row was loaded inactive, so it is no admin
          rintro ⟨current, hcurrent, hadmin, -⟩
          have hactive := (h.2 current hcurrent).2 (ChatMember.isActive_of_isActiveAdmin hadmin).1
          rw [Option.filter_some, if_pos hactive] at hinactive
          cases hinactive

theorem stageSound_checkSetAdmin {makeAdmin : Bool} (h : StageSound limit rows (.loaded member)) :
    StageSound limit rows (checkSetAdmin rows makeAdmin member) := by
  cases member with
  | none => trivial
  | some row =>
    have hknown : ∀ role, ∀ id ∈ (MemberWrite.setRole row role).rowId, id ∈ rows.map ChatMember.id := by
      intro role id hid
      cases hid
      exact h.1
    have hadds : ∀ role, ¬ (MemberWrite.setRole row role).addsMember rows := by
      rintro role (hnone | ⟨current, -, hinactive, hactive⟩)
      · cases hnone
      · exact absurd hactive hinactive
    cases makeAdmin with
    | false =>
      simp only [checkSetAdmin, Bool.false_eq_true, if_false, not_false_eq_true, true_and]
      split
      · trivial
      · split
        · trivial
        · rename_i hpasses
          exact ⟨hknown _, fun _ => Bool.eq_false_iff.mpr hpasses, fun h => absurd h (hadds _)⟩
    | true =>
      simp only [checkSetAdmin, if_true, not_true_eq_false, false_and, if_false]
      split
      · trivial
      · refine ⟨hknown _, ?_, fun h => absurd h (hadds _)⟩
        rintro ⟨current, -, hadmin, hkept⟩
        obtain ⟨hactive, -⟩ := ChatMember.isActive_of_isActiveAdmin hadmin
        exact absurd (decide_eq_true ⟨of_decide_eq_true hactive, rfl⟩) hkept

theorem stageSound_checkDeparture {status : MembershipStatus} {missing : GroupOutcome}
    (hstatus : status ≠ .active) (h : StageSound limit rows (.loaded member)) :
    StageSound limit rows (checkDeparture rows status missing member) := by
  cases member with
  | none => trivial
  | some row =>
    simp only [checkDeparture]
    split
    · trivial
    · rename_i hpasses
      refine ⟨fun id hid => ?_, ?_, ?_⟩
      · cases hid
        exact h.1
      · rintro ⟨current, hcurrent, hadmin, -⟩
        have hrole := (h.2 current hcurrent).1 hadmin
        exact Bool.eq_false_iff.mpr fun hlast => hpasses ⟨hrole, hlast⟩
      · rintro (hnone | ⟨current, -, -, hactive⟩)
        · cases hnone
        · exact absurd (of_decide_eq_true hactive) hstatus

/-- Each statement that reads leaves its transaction with what it has read. -/
theorem stageSound_readStage (hids : IdsSound rows nextId) (request : GroupRequest)
    (h : StageSound limit rows stage) : StageSound limit rows (readStage limit rows request stage) := by
  have hauthorized : ∀ actor, StageSound limit rows (getActiveGroupAdmin rows actor) := by
    intro actor
    unfold getActiveGroupAdmin
    split
    · trivial
    · rename_i row hrow
      obtain ⟨hmem, hactive⟩ := activeMemberRow_mem hrow
      split
      · rename_i hrole
        exact ⟨decide_eq_true ⟨hactive, hrole⟩, List.mem_map_of_mem hmem⟩
      · trivial
  cases stage with
  | begun =>
    cases request with
    | leave user =>
      rw [readStage]
      cases hrow : activeMemberRow rows user with
      | none => trivial
      | some row =>
        have hmem := (activeMemberRow_mem hrow).1
        refine ⟨List.mem_map_of_mem hmem, fun current hcurrent => ?_⟩
        rw [getRow_of_mem hids.nodup hmem] at hcurrent
        cases hcurrent
        exact ⟨fun hadmin => (ChatMember.isActive_of_isActiveAdmin hadmin).2, id⟩
    | add actor user userFound contextRefusal => exact hauthorized actor
    | setAdmin actor user makeAdmin => exact hauthorized actor
    | remove actor user => exact hauthorized actor
  | authorized actorRow => exact stageSound_loadMember hids request h
  | loaded member =>
    cases request with
    | add actor user userFound contextRefusal => exact stageSound_checkAdd h
    | setAdmin actor user makeAdmin => exact stageSound_checkSetAdmin h
    | remove actor user => exact stageSound_checkDeparture (fun hstatus => by cases hstatus) h
    | leave user => exact stageSound_checkDeparture (fun hstatus => by cases hstatus) h
  | checked write => exact h
  | unchanged _ | committed _ | ended _ => trivial

/-- A commit that does not disturb a transaction leaves it what it knows. -/
theorem stageSound_apply (hids : IdsSound rows nextId) (happly : write.apply rows nextId = some rows')
    (hfree : ¬ write.disturbs rows stage) (h : StageSound limit rows stage) :
    StageSound limit rows' stage := by
  cases stage with
  | authorized actorRow => exact ⟨h.1, MemberWrite.mem_ids_apply happly h.2⟩
  | loaded member =>
    cases member with
    | none => trivial
    | some row =>
      refine ⟨MemberWrite.mem_ids_apply happly h.1, ?_⟩
      rw [MemberWrite.getRow_apply happly h.1 hfree]
      exact h.2
  | checked other =>
    obtain ⟨hknown, hadmin, hroom⟩ := h
    obtain ⟨hrow, htakes, hadds⟩ := not_or.mp hfree |>.imp id not_or.mp
    have htarget : other.target rows' = other.target rows := by
      rw [MemberWrite.target, MemberWrite.target]
      cases hid : other.rowId with
      | none => rfl
      | some id =>
        refine MemberWrite.getRow_apply happly (hknown id hid) fun hsame => hrow ?_
        rw [hsame, hid]
        exact ⟨rfl, rfl⟩
    obtain ⟨hadmins, hmembers⟩ := MemberWrite.counts_apply hids happly
    refine ⟨fun id hid => MemberWrite.mem_ids_apply happly (hknown id hid), ?_, ?_⟩
    · intro hother
      rw [MemberWrite.takesAdmin, htarget] at hother
      have hbefore := refusesLastAdmin_eq_false.mp (hadmin hother)
      rcases hadmins with hle | ⟨hwrite, -⟩
      · exact refusesLastAdmin_eq_false.mpr (Nat.lt_of_lt_of_le hbefore hle)
      · exact absurd ⟨hwrite, hother⟩ htakes
    · intro hother
      rw [MemberWrite.addsMember, htarget] at hother
      have hbefore := refusesLimit_eq_false.mp (hroom hother)
      rcases hmembers with hle | ⟨hwrite, -⟩
      · exact refusesLimit_eq_false.mpr (by omega)
      · exact absurd ⟨hwrite, hother⟩ hadds
  | begun | unchanged _ | committed _ | ended _ => trivial

end Stages

section Runs

variable {limit : Int} {s : GroupState}

structure GroupSound (limit : Int) (s : GroupState) : Prop where
  ids : IdsSound s.rows s.nextId
  bounded : Bounded limit s
  stages : ∀ (number : Nat) (entry : GroupRequest × Stage),
    s.transactions[number]? = some entry → StageSound limit s.rows entry.2

theorem bounded_apply {rows' : List ChatMember} {write : MemberWrite} (h : GroupSound limit s)
    (happly : write.apply s.rows s.nextId = some rows')
    (hpasses : StageSound limit s.rows (.checked write)) :
    0 < countActiveChatAdmins rows' ∧ (countActiveChatMembers rows' : Int) ≤ limit := by
  obtain ⟨-, hadmin, hroom⟩ := hpasses
  obtain ⟨hadmins, hmembers⟩ := MemberWrite.counts_apply h.ids happly
  obtain ⟨hpos, hle⟩ := h.bounded
  constructor
  · rcases hadmins with hkept | ⟨htakes, hone⟩
    · exact Nat.lt_of_lt_of_le hpos hkept
    · have hmore := refusesLastAdmin_eq_false.mp (hadmin htakes)
      omega
  · rcases hmembers with hkept | ⟨hadds, hone⟩
    · omega
    · have hless := refusesLimit_eq_false.mp (hroom hadds)
      omega

theorem groupSound_next (number : Nat) (h : GroupSound limit s)
    (hfree : Undisturbed s (.next number) (s.next limit number)) :
    GroupSound limit (s.next limit number) := by
  unfold GroupState.next
  cases hfound : s.transactions[number]? with
  | none => exact h
  | some entry =>
    obtain ⟨request, stage⟩ := entry
    have hsound := h.stages number (request, stage) hfound
    -- the stages of the other transactions stand as they were
    have hstages : ∀ rows stage', StageSound limit rows stage' →
        (∀ (other : Nat) (entry : GroupRequest × Stage), other ≠ number →
          s.transactions[other]? = some entry → StageSound limit rows entry.2) →
        ∀ (other : Nat) (entry : GroupRequest × Stage),
          (s.transactions.set number (request, stage'))[other]? = some entry →
          StageSound limit rows entry.2 := by
      intro rows stage' hown hothers other entry hentry
      by_cases hsame : other = number
      · subst hsame
        rw [List.getElem?_set_self (List.getElem?_eq_some_iff.mp hfound).1] at hentry
        cases hentry
        exact hown
      · rw [List.getElem?_set_ne (Ne.symm hsame)] at hentry
        exact hothers other entry hsame hentry
    cases stage with
    | checked write =>
      cases happly : write.apply s.rows s.nextId with
      | none =>
        simp only [happly]
        exact ⟨h.ids.succ, h.bounded, hstages s.rows _ trivial fun other entry _ => h.stages other entry⟩
      | some rows =>
        simp only [happly]
        refine ⟨h.ids.apply happly, bounded_apply h happly hsound, hstages rows _ trivial ?_⟩
        intro other entry hother hentry
        have hundisturbed := hfree request write hfound (by rw [happly]; rfl) other entry hother hentry
        exact stageSound_apply h.ids happly hundisturbed (h.stages other entry hentry)
    | begun | authorized _ | loaded _ | unchanged _ | committed _ | ended _ =>
      exact ⟨h.ids, h.bounded, hstages s.rows _ (stageSound_readStage h.ids request hsound)
        fun other entry _ => h.stages other entry⟩

theorem groupSound_step (op : GroupOp) (h : GroupSound limit s)
    (hfree : Undisturbed s op (s.step limit op)) : GroupSound limit (s.step limit op) := by
  cases op with
  | request request =>
    refine ⟨h.ids, h.bounded, fun number entry hentry => ?_⟩
    rcases List.mem_append.mp (List.mem_of_getElem? hentry) with hold | hnew
    · obtain ⟨old, hold⟩ := List.mem_iff_getElem?.mp hold
      exact h.stages old entry hold
    · rw [List.mem_singleton.mp hnew]
      trivial
  | next number => exact groupSound_next number h hfree

end Runs

theorem memberRows_sound (members : List Int) :
    ∀ firstId, countActiveChatMembers (memberRows firstId members) = members.length ∧
      ((memberRows firstId members).map ChatMember.id).Nodup ∧
      ∀ row ∈ memberRows firstId members, firstId ≤ row.id ∧ row.id < firstId + members.length := by
  induction members with
  | nil =>
    intro firstId
    exact ⟨rfl, List.nodup_nil, fun row hrow => nomatch hrow⟩
  | cons user users ih =>
    intro firstId
    obtain ⟨hcount, hnodup, hbetween⟩ := ih (firstId + 1)
    refine ⟨?_, ?_, ?_⟩
    · rw [countActiveChatMembers, memberRows, List.countP_cons_of_pos rfl, ← countActiveChatMembers,
        hcount, List.length_cons]
    · rw [memberRows, List.map_cons, List.nodup_cons]
      refine ⟨fun hmem => ?_, hnodup⟩
      obtain ⟨row, hrow, hid⟩ := List.mem_map.mp hmem
      have hlower := (hbetween row hrow).1
      rw [hid] at hlower
      exact absurd hlower (Nat.not_succ_le_self firstId)
    · intro row hrow
      rw [memberRows, List.mem_cons] at hrow
      rw [List.length_cons]
      rcases hrow with rfl | hrow
      · exact ⟨Nat.le_refl firstId, Nat.lt_add_of_pos_right (Nat.succ_pos _)⟩
      · obtain ⟨hlower, hupper⟩ := hbetween row hrow
        omega

theorem newGroup_sound {firstId : Nat} {creator : Int} {memberIds : List Int} {s : GroupState}
    (h : newGroup firstId creator memberIds = some s) : GroupSound groupMaxMembers s := by
  simp only [newGroup] at h
  split at h
  · cases h
  · rename_i hlimit
    cases h
    obtain ⟨hcount, hnodup, hbetween⟩ :=
      memberRows_sound (normalizedMemberIds [creator] memberIds) (firstId + 1)
    refine ⟨⟨?_, ?_⟩, ⟨?_, ?_⟩, fun number entry hentry => by cases hentry⟩
    · rw [List.map_cons, List.nodup_cons]
      refine ⟨fun hmem => ?_, hnodup⟩
      obtain ⟨row, hrow, hid⟩ := List.mem_map.mp hmem
      have hlower := (hbetween row hrow).1
      rw [hid] at hlower
      exact absurd hlower (Nat.not_succ_le_self firstId)
    · intro row hrow
      rcases List.mem_cons.mp hrow with rfl | hrow
      · show firstId < firstId + 1 + (normalizedMemberIds [creator] memberIds).length
        omega
      · exact (hbetween row hrow).2
    · rw [countActiveChatAdmins, List.countP_cons_of_pos rfl]
      exact Nat.succ_pos _
    · rw [countActiveChatMembers, List.countP_cons_of_pos rfl, ← countActiveChatMembers, hcount]
      omega

/-- In every interleaving of requests to a new group whose commits disturb no other request's reads,
the group has an active admin and at most its maximum of active members in every state. -/
theorem group_bounded (firstId : Nat) (creator : Int) (memberIds : List Int) (s : GroupState)
    (ops : List GroupOp) (hnew : newGroup firstId creator memberIds = some s)
    (hfree : EachStep (GroupState.step (memberLimit (some groupMaxMembers))) Undisturbed s ops) :
    EachStep (GroupState.step (memberLimit (some groupMaxMembers)))
      (fun _ _ s' => Bounded (memberLimit (some groupMaxMembers)) s') s ops :=
  eachStep_of_invariant (I := GroupSound groupMaxMembers)
    (fun _ op h hstep => groupSound_step op h hstep)
    (fun _ op h hstep => (groupSound_step op h hstep).bounded) ops s (newGroup_sound hnew) hfree

/-- A group of two, of which the first promotes the second. -/
def promotion : List GroupOp :=
  [.request (.setAdmin 1 2 true), .next 0, .next 0, .next 0, .next 0, .next 0]

def pair : GroupState :=
  { rows := [⟨10, 1, .admin, .active⟩, ⟨11, 2, .member, .active⟩], nextId := 12, transactions := [] }

/-- The promotion alone keeps the bounds. -/
theorem promotion_bounded :
    newGroup 10 1 [2] = some pair ∧
      EachStep (GroupState.step (memberLimit (some groupMaxMembers)))
        (fun _ _ s' => Bounded (memberLimit (some groupMaxMembers)) s') pair promotion := by
  have hnew : newGroup 10 1 [2] = some pair := by decide
  refine ⟨hnew, group_bounded 10 1 [2] pair promotion hnew ⟨trivial, ?_, ?_, ?_, ?_, ?_, trivial⟩⟩
  · exact fun request write hfound => nomatch hfound
  · exact fun request write hfound => nomatch hfound
  · exact fun request write hfound => nomatch hfound
  · intro request write _ _ other entry hother hentry
    have hlt := (List.getElem?_eq_some_iff.mp hentry).1
    exact absurd (Nat.lt_one_iff.mp hlt) hother
  · exact fun request write hfound => nomatch hfound

/-- Two admins leave at once: each counts two admins before the other commits, and none is left. -/
theorem both_admins_leave :
    newGroup 10 1 [2] = some pair ∧
      ¬ EachStep (GroupState.step (memberLimit (some groupMaxMembers)))
        (fun _ _ s' => Bounded (memberLimit (some groupMaxMembers)) s') pair
        (promotion ++ [.request (.leave 1), .request (.leave 2), .next 1, .next 2, .next 1, .next 2,
          .next 1, .next 2]) := by
  decide

end TradingBot.Chat
