import TradingBot.Misc.Run
import TradingBot.Misc.Table
import TradingBot.Registration.Writes

/-!
# Interleaved registrations

Completions, revocations and creations of invitations in any interleaving. A transaction that has
its locks has the row of its invitation as it is in the table, a decision to create a user stands on
an unused row, one to link on a user without a Telegram account, and a command not over has no
receipt: no other transaction holds these keys. So every committed write is permitted, and what the
tables keep holds at every step.
-/

namespace TradingBot.Registration

open TradingBot.Misc TradingBot.Sessions

structure RowHeld (config : Config) (tables : Tables) (keys : List LockKey) (row : Invitation) :
    Prop where
  mem : row ∈ tables.invitations
  keys : ∀ key ∈ transitionLockKeys config row none, key ∈ keys

def CommandHeld (tables : Tables) (keys : List LockKey) (job : Job) : Prop :=
  ∀ request command, job = .complete request → request.telegramCommand = some command →
    LockKey.command command.commandId ∈ keys ∧
      LockKey.idempotency command.idempotencyKey ∈ keys ∧ receiptsOf tables command = []

def DecisionSound (config : Config) (tables : Tables) (row : Option Invitation) : Decision → Prop
  | .create => ∃ invitation, row = some invitation ∧ invitation.isUsed = false ∧
      invitation.revokedAt = none
  | .link userId => ∃ invitation identity user, row = some invitation ∧
      normalizeInvitationIdentity config.isDigit invitation.mobileNumber invitation.accountName =
        some identity ∧
      user ∈ tables.users ∧ user.id = userId ∧ user.telegramId = none ∧
      normalizeInvitationIdentity config.isDigit user.mobileNumber user.accountName = some identity
  | .refuse _ | .answer .. | .crash => True

def StageSound (config : Config) (tables : Tables) (txn : Txn) : Prop :=
  match txn.stage with
  | .begun => txn.keys = []
  | .receipted | .probed .. => CommandHeld tables txn.keys txn.job
  | .locked row => CommandHeld tables txn.keys txn.job ∧
      ∀ invitation, row = some invitation → RowHeld config tables txn.keys invitation
  | .decided row decision => CommandHeld tables txn.keys txn.job ∧
      (∀ invitation, row = some invitation → RowHeld config tables txn.keys invitation) ∧
      DecisionSound config tables row decision
  | .returned .. | .finished .. | .failed _ => True

structure Sound (config : Config) (registry : Registry) : Prop where
  tables : TablesSound registry.tables
  holds : ∀ number txn, registry.txns number = some txn →
    Locks.HoldsAll registry.locks number txn.keys
  stages : ∀ number txn, registry.txns number = some txn →
    StageSound config registry.tables txn

variable {row : Invitation} {identity : NormalizedInvitationIdentity}

theorem mobile_mem_transitionLockKeys {config : Config}
    (h : normalizeInvitationIdentity config.isDigit row.mobileNumber row.accountName =
      some identity) (telegramId : Option Nat) :
    LockKey.mobile identity.mobileNumber ∈ transitionLockKeys config row telegramId := by
  rw [transitionLockKeys, h]
  simp [identityLockKeys]

theorem token_mem_transitionLockKeys (config : Config) (row : Invitation)
    (telegramId : Option Nat) :
    LockKey.token row.token ∈ transitionLockKeys config row telegramId :=
  List.mem_cons_self

theorem transitionLockKeys_subset (config : Config) (row : Invitation) (telegramId : Option Nat) :
    transitionLockKeys config row none ⊆ transitionLockKeys config row telegramId := by
  intro key hkey
  unfold transitionLockKeys at hkey ⊢
  rcases List.mem_cons.mp hkey with htoken | hidentity
  · exact List.mem_cons.mpr (.inl htoken)
  · rw [Option.map_none, Option.getD_none, List.append_nil] at hidentity
    exact List.mem_cons.mpr (.inr (List.mem_append_left _ hidentity))

section Kept

variable {config : Config} {before after : Tables} {keys : List LockKey}

theorem RowHeld.kept (h : RowHeld config before keys row)
    (hkept : RowsKept config keys before after) : RowHeld config after keys row where
  mem := hkept.invitations row h.mem (h.keys _ (token_mem_transitionLockKeys config row none))
  keys := h.keys

theorem CommandHeld.kept {job : Job} (h : CommandHeld before keys job)
    (hkept : RowsKept config keys before after) : CommandHeld after keys job := by
  intro request command hjob hcommand
  obtain ⟨hid, hkey, hnone⟩ := h request command hjob hcommand
  exact ⟨hid, hkey, hkept.receipts command hid hkey hnone⟩

theorem DecisionSound.kept {row : Option Invitation} {decision : Decision}
    (h : DecisionSound config before row decision)
    (hrow : ∀ invitation, row = some invitation → RowHeld config before keys invitation)
    (hkept : RowsKept config keys before after) : DecisionSound config after row decision := by
  cases decision with
  | create => exact h
  | link userId =>
    obtain ⟨invitation, identity, user, hsome, hidentity, huser, hid, hfree, hsame⟩ := h
    have hkey := (hrow invitation hsome).keys _ (mobile_mem_transitionLockKeys hidentity none)
    exact ⟨invitation, identity, user, hsome, hidentity,
      hkept.users user huser identity hsame hkey, hid, hfree, hsame⟩
  | refuse outcome => trivial
  | answer outcome userId => trivial
  | crash => trivial

theorem StageSound.kept {txn : Txn} (h : StageSound config before txn)
    (hkept : RowsKept config txn.keys before after) : StageSound config after txn := by
  unfold StageSound at h ⊢
  cases hstage : txn.stage with
  | begun => rw [hstage] at h; exact h
  | receipted => rw [hstage] at h; exact CommandHeld.kept h hkept
  | probed found asked => rw [hstage] at h; exact CommandHeld.kept h hkept
  | locked row =>
    rw [hstage] at h
    exact ⟨h.1.kept hkept, fun invitation hrow => (h.2 invitation hrow).kept hkept⟩
  | decided row decision =>
    rw [hstage] at h
    exact ⟨h.1.kept hkept, fun invitation hrow => (h.2.1 invitation hrow).kept hkept,
      h.2.2.kept h.2.1 hkept⟩
  | returned outcome userId replayed => trivial
  | finished invitationId created => trivial
  | failed reason => trivial

end Kept

section Decisions

variable (config : Config) (tables : Tables) (request : RegistrationRequest)

variable {users : List User} {invitation : Invitation}

theorem mem_of_mem_matchingUsers {telegramId : Option Nat} {user : User}
    (h : user ∈ matchingUsers users invitation identity telegramId) : user ∈ users :=
  (List.mem_filter.mp h).1

theorem registeredUser_ok {config : Config}
    {user : User} (h : registeredUser config invitation users identity = .ok user) :
    user ∈ users ∧
      normalizeInvitationIdentity config.isDigit user.mobileNumber user.accountName =
        some identity := by
  unfold registeredUser at h
  split_ifs at h
  split at h
  case h_1 => cases h
  case h_2 found hfound =>
    split_ifs at h with hidentity
    cases h
    exact ⟨List.mem_of_find?_eq_some hfound, hidentity⟩

theorem decideUsed_sound
    (hidentity : normalizeInvitationIdentity config.isDigit invitation.mobileNumber
      invitation.accountName = some identity)
    (husers : ∀ user ∈ users, user ∈ tables.users) (checks : RelationChecks) :
    DecisionSound config tables (some invitation)
      (decideUsed config request invitation users identity checks) := by
  unfold decideUsed
  split
  case h_1 => trivial
  case h_2 user huser =>
    obtain ⟨hmem, hsame⟩ := registeredUser_ok huser
    split
    case h_1 => trivial
    case h_2 =>
      by_cases hvalid : (!checks.relationValid) = true
      · rw [if_pos hvalid]
        trivial
      · rw [if_neg hvalid]
        split
        case h_1 => split_ifs <;> trivial
        case h_2 command hcommand =>
          split_ifs with heligible hother
          · trivial
          · trivial
          · split
            case h_1 hfree =>
              exact ⟨invitation, identity, user, rfl, hidentity, husers user hmem, rfl, hfree,
                hsame⟩
            case h_2 => split_ifs <;> trivial

theorem decidePending_sound (hunused : invitation.isUsed = false)
    (hrevoked : invitation.revokedAt = none) (users : List User)
    (identity : NormalizedInvitationIdentity) (checks : RelationChecks) :
    DecisionSound config tables (some invitation)
      (decidePending request users identity checks) := by
  unfold decidePending
  split_ifs
  · trivial
  · trivial
  · split
    · trivial
    · exact ⟨invitation, rfl, hunused, hrevoked⟩

theorem decideCompletion_sound (row : Option Invitation) (checks : RelationChecks) :
    DecisionSound config tables row
      (decideCompletion config request row tables.users checks) := by
  unfold decideCompletion
  split
  case h_1 => trivial
  case h_2 invitation =>
    split
    case isTrue => trivial
    case isFalse =>
      split
      case isTrue => trivial
      case isFalse hrevoked =>
        dsimp only
        split
        case h_1 => trivial
        case h_2 =>
          split
          case h_1 => trivial
          case h_2 identity hidentity =>
            split_ifs with hcontact hrelation hused
            · trivial
            · trivial
            · exact decideUsed_sound config tables request hidentity
                (fun user hmem => mem_of_mem_matchingUsers hmem) checks
            · exact decidePending_sound config tables request (Bool.eq_false_iff.mpr hused)
                (Option.not_isSome_iff_eq_none.mp hrevoked) _ identity checks

theorem decideConflict_sound (command : TelegramRegistrationCommand)
    (conflict : TelegramRegistrationOutcome) (row : Option Invitation) :
    DecisionSound config tables row
      (decideConflict config command conflict row tables.users) := by
  unfold decideConflict
  split
  case h_1 => trivial
  case h_2 =>
    split
    case isTrue => trivial
    case isFalse =>
      split
      case h_1 => trivial
      case h_2 =>
        dsimp only
        split
        case isFalse => trivial
        case isTrue =>
          split
          case h_1 => trivial
          case h_2 =>
            split
            case h_1 => trivial
            case h_2 => trivial
            case h_3 => split_ifs <;> trivial

end Decisions

/-! ## What a step can do -/

inductive Advance (config : Config) (before : Registry) : Registry → Prop where
  | stayed : Advance config before before
  | opened (number : Nat) (job : Job) (hfree : before.txns number = none) :
    Advance config before (before.put number { job := job })
  | moved (number : Nat) (txn : Txn) (keys : List LockKey) (stage : Stage)
    (htxn : before.txns number = some txn) (hcan : before.locks.canTake number keys = true)
    (hstage : StageSound config before.tables
      { txn with keys := txn.keys ++ keys, stage := stage }) :
    Advance config before
      ({ before with locks := before.locks.take number keys }.put number
        { txn with keys := txn.keys ++ keys, stage := stage })
  | closed (number : Nat) (txn last : Txn) (tables : Tables) (stage : Stage)
    (htxn : before.txns number = some txn)
    (hstage : StageSound config tables { last with keys := [], stage := stage })
    (hwrite : Permitted config txn.keys before.tables tables) :
    Advance config before (before.commitWith tables number last stage)
  | inserted (tables : Tables) (hwrite : Permitted config [] before.tables tables) :
    Advance config before { before with tables := tables }

theorem Advance.kept {config : Config} {before after : Registry}
    (h : Advance config before after) : TablesKept before.tables after.tables := by
  cases h with
  | stayed => exact TablesKept.refl _
  | opened number job hfree => exact TablesKept.refl _
  | moved => exact TablesKept.refl _
  | closed _ _ _ _ _ _ _ hwrite => exact hwrite.kept
  | inserted tables hwrite => exact hwrite.kept

theorem Sound.update {config : Config} {before : Registry} (h : Sound config before)
    {number : Nat} {txn : Txn} {tables : Tables} {locks : Locks LockKey}
    (htables : TablesSound tables) (hholds : Locks.HoldsAll locks number txn.keys)
    (hstage : StageSound config tables txn)
    (hothers : ∀ other held, other ≠ number → before.txns other = some held →
      Locks.HoldsAll locks other held.keys ∧ RowsKept config held.keys before.tables tables) :
    Sound config ⟨tables, locks, Function.update before.txns number (some txn)⟩ := by
  refine ⟨htables, ?_, ?_⟩
  · intro other held hheld
    rcases update_eq_some hheld with ⟨rfl, hsame⟩ | ⟨hne, hheld⟩
    · exact Option.some.inj hsame ▸ hholds
    · exact (hothers other held hne hheld).1
  · intro other held hheld
    rcases update_eq_some hheld with ⟨rfl, hsame⟩ | ⟨hne, hheld⟩
    · exact Option.some.inj hsame ▸ hstage
    · exact (h.stages other held hheld).kept (hothers other held hne hheld).2

theorem rowsKept_refl (config : Config) (keys : List LockKey) (tables : Tables) :
    RowsKept config keys tables tables :=
  ⟨fun _ hrow _ => hrow, fun _ huser _ _ _ => huser, fun _ _ _ hnone => hnone⟩

theorem Advance.sound {config : Config} {before after : Registry} (h : Sound config before)
    (hadvance : Advance config before after) : Sound config after := by
  cases hadvance with
  | stayed => exact h
  | opened number job hfree =>
    refine h.update h.tables (Locks.holdsAll_nil _ _) rfl ?_
    intro other held _ hheld
    exact ⟨h.holds other held hheld, rowsKept_refl _ _ _⟩
  | moved number txn keys _ htxn hcan hstage =>
    refine h.update h.tables ?_ hstage ?_
    · intro key hkey
      rcases List.mem_append.mp hkey with hold | hnew
      · exact (h.holds number txn htxn).take keys key hold
      · exact Locks.holdsAll_take before.locks number keys key hnew
    · intro other held hne hheld
      exact ⟨(h.holds other held hheld).take_other hcan hne, rowsKept_refl _ _ _⟩
  | closed number txn _ _ _ htxn hstage hwrite =>
    refine h.update hwrite.sound (Locks.holdsAll_nil _ _) hstage ?_
    intro other held hne hheld
    refine ⟨(h.holds other held hheld).release_other hne, hwrite.spared held.keys ?_⟩
    intro key hkey hother
    exact hne ((h.holds other held hheld).exclusive (h.holds number txn htxn) hother hkey)
  | inserted tables hwrite =>
    refine ⟨hwrite.sound, h.holds, ?_⟩
    intro other held hheld
    exact (h.stages other held hheld).kept
      (hwrite.spared held.keys fun key hkey => absurd hkey List.not_mem_nil)

section Steps

variable {config : Config} {registry : Registry} {number : Nat} {txn : Txn}

theorem advance_finish (h : Sound config registry) (htxn : registry.txns number = some txn)
    {last : Txn} {stage : Stage}
    (hstage : StageSound config registry.tables { last with keys := [], stage := stage }) :
    Advance config registry (registry.finish number last stage) :=
  Advance.closed number txn last registry.tables stage htxn hstage (permitted_refl h.tables)

theorem advance_put (htxn : registry.txns number = some txn) {stage : Stage}
    (hstage : StageSound config registry.tables { txn with stage := stage }) :
    Advance config registry (registry.put number { txn with stage := stage }) := by
  have hsame : { txn with keys := txn.keys ++ [], stage := stage } =
      { txn with stage := stage } := by
    rw [List.append_nil]
  have hmoved : Advance config registry _ := .moved number txn [] stage htxn rfl
    (hsame ▸ hstage)
  rw [Locks.take_nil, List.append_nil] at hmoved
  exact hmoved

theorem begin_advance (registry : Registry) (number : Nat) (job : Job) :
    Advance config registry (begin registry number job) := by
  unfold begin
  split_ifs with hfree
  · exact .opened number job hfree
  · exact .stayed

theorem prepareReceipt_advance (h : Sound config registry) (number : Nat) :
    Advance config registry (prepareReceipt config registry number) := by
  unfold prepareReceipt
  split
  case h_1 => exact .stayed
  case h_2 txn htxn =>
    split
    case h_2 => exact .stayed
    case h_1 request hstage hjob =>
      have hkeys : txn.keys = [] := by
        have hsound := h.stages number txn htxn
        unfold StageSound at hsound
        rw [hstage] at hsound
        exact hsound
      split
      case h_1 hnone =>
        refine advance_put htxn ?_
        intro request' command hjob' hcommand
        rw [hjob, Job.complete.injEq] at hjob'
        rw [← hjob', hnone] at hcommand
        cases hcommand
      case h_2 command hcommand =>
        dsimp only
        split
        case isTrue => exact .stayed
        case isFalse hcan =>
          split
          case h_1 hnone =>
            have hmoved : Advance config registry _ := .moved number txn
              [LockKey.command command.commandId, .idempotency command.idempotencyKey] .receipted
              htxn (by simpa using hcan) (by
                intro request' command' hjob' hcommand'
                rw [hjob, Job.complete.injEq] at hjob'
                rw [← hjob', hcommand, Option.some.injEq] at hcommand'
                subst hcommand'
                exact ⟨by simp, by simp, hnone⟩)
            rw [hkeys, List.nil_append] at hmoved
            exact hmoved
          case h_2 receipt hone =>
            split_ifs
            all_goals exact advance_finish h htxn trivial
          case h_3 =>
            split_ifs
            all_goals exact advance_finish h htxn trivial

theorem commandHeld_of_readyToProbe (h : StageSound config registry.tables txn)
    (hready : txn.readyToProbe = true) : CommandHeld registry.tables txn.keys txn.job := by
  unfold Txn.readyToProbe at hready
  cases hjob : txn.job with
  | complete request =>
    rw [hjob] at hready
    unfold StageSound at h
    rw [of_decide_eq_true hready] at h
    exact hjob ▸ h
  | revoke invitationId =>
    intro request command hcomplete
    cases hcomplete
  | create draft =>
    intro request command hcomplete
    cases hcomplete

theorem probe_advance (h : Sound config registry) (number : Nat) :
    Advance config registry (probe config registry number) := by
  unfold probe
  split
  case h_1 => exact .stayed
  case h_2 txn htxn =>
    split
    case isFalse => exact .stayed
    case isTrue hready =>
      split
      case h_1 => exact advance_finish h htxn trivial
      case h_2 found keys _ =>
        have hheld := commandHeld_of_readyToProbe (h.stages number txn htxn) hready
        exact advance_put htxn hheld

theorem mem_of_rowOf {tables : Tables} {job : Job}
    (h : rowOf tables job = some row) : row ∈ tables.invitations := by
  cases job with
  | complete request => exact List.mem_of_find?_eq_some h
  | revoke invitationId => exact List.mem_of_find?_eq_some h
  | create draft => cases h

theorem lockTransition_advance (h : Sound config registry) (number : Nat) :
    Advance config registry (lockTransition config registry number) := by
  unfold lockTransition
  split
  case h_1 => exact .stayed
  case h_2 txn htxn =>
    split
    case h_2 => exact .stayed
    case h_1 found keys hstage =>
      split
      case isTrue => exact .stayed
      case isFalse hcan =>
        dsimp only
        split
        case isTrue => exact advance_finish h htxn trivial
        case isFalse hsame =>
          refine .moved number txn keys _ htxn (by simpa using hcan) ?_
          have hheld : CommandHeld registry.tables txn.keys txn.job := by
            have hsound := h.stages number txn htxn
            unfold StageSound at hsound
            rw [hstage] at hsound
            exact hsound
          refine ⟨?_, ?_⟩
          · intro request command hjob hcommand
            obtain ⟨hid, hkey, hnone⟩ := hheld request command hjob hcommand
            exact ⟨List.mem_append_left _ hid, List.mem_append_left _ hkey, hnone⟩
          · intro invitation hrow
            -- the row was not refused, so its keys are those that were asked for
            rw [hrow] at hsame
            have hkeys : transitionLockKeys config invitation txn.job.telegramId = keys := by
              by_contra hne
              exact hsame (by simp [hne])
            refine ⟨mem_of_rowOf hrow, fun key hkey => List.mem_append_right _ ?_⟩
            rw [← hkeys]
            exact transitionLockKeys_subset config invitation _ hkey

theorem decideTxn_advance (h : Sound config registry) (number : Nat) (checks : RelationChecks) :
    Advance config registry (decideTxn config registry number checks) := by
  unfold decideTxn
  split
  case h_1 => exact .stayed
  case h_2 txn htxn =>
    split
    case h_2 => exact .stayed
    case h_1 row request hstage hjob =>
      refine advance_put htxn ?_
      have hsound := h.stages number txn htxn
      unfold StageSound at hsound
      rw [hstage] at hsound
      refine ⟨hsound.1, hsound.2, ?_⟩
      split
      · exact decideConflict_sound config registry.tables _ _ row
      · exact decideCompletion_sound config registry.tables request row checks

/-! ## Commits -/

theorem decisionWrites_permitted {tables written : Tables} {keys : List LockKey}
    {request : RegistrationRequest} {row : Option Invitation} {decision : Decision} {now : Int}
    {outcome : TelegramRegistrationOutcome} {userId : Option Nat} (h : TablesSound tables)
    (hrow : ∀ invitation, row = some invitation → RowHeld config tables keys invitation)
    (hdecision : DecisionSound config tables row decision)
    (hwrites : decisionWrites config tables request row now decision =
      some (written, outcome, userId))
    (hunique : userConflict written.users = none) : Permitted config keys tables written := by
  cases decision with
  | refuse refused =>
    unfold decisionWrites at hwrites
    split_ifs at hwrites
    cases hwrites
    exact permitted_refl h
  | answer answered user =>
    cases hwrites
    exact permitted_refl h
  | crash => cases hwrites
  | create =>
    obtain ⟨invitation, rfl, hunused, hrevoked⟩ := hdecision
    obtain ⟨hmem, hkeys⟩ := hrow invitation rfl
    cases hwrites
    exact permitted_createUser h hmem
      (hkeys _ (token_mem_transitionLockKeys config invitation none)) hunused hrevoked hunique
  | link linked =>
    obtain ⟨invitation, identity, user, rfl, hidentity, huser, rfl, hfree, hsame⟩ := hdecision
    have hkey := (hrow invitation rfl).keys _ (mobile_mem_transitionLockKeys hidentity none)
    obtain ⟨command, hcommand, heq⟩ := Option.map_eq_some_iff.mp hwrites
    cases heq
    exact permitted_linkUser h huser hfree hsame hkey hunique

theorem commitCompletion_advance (h : Sound config registry)
    (htxn : registry.txns number = some txn) {request : RegistrationRequest}
    {row : Option Invitation} {decision : Decision} (hstage : txn.stage = .decided row decision)
    (hjob : txn.job = .complete request) (now : Int) :
    Advance config registry
      (commitCompletion config registry number txn request row decision now) := by
  have hsound := h.stages number txn htxn
  unfold StageSound at hsound
  rw [hstage] at hsound
  obtain ⟨hheld, hrow, hdecision⟩ := hsound
  unfold commitCompletion
  split
  case h_1 => exact advance_finish h htxn trivial
  case h_2 written outcome userId hwrites =>
    split
    case h_1 conflict _ =>
      split_ifs
      · exact advance_finish h htxn rfl
      · exact advance_finish h htxn trivial
    case h_2 hunique =>
      dsimp only
      split_ifs with hreceipts
      · have hwritten := decisionWrites_permitted h.tables hrow hdecision hwrites hunique
        have hreceipt := permitted_addReceipt hwritten.sound
          (fun command hcommand =>
            have hkeys := hheld request command hjob hcommand
            ⟨hkeys.1, hkeys.2.1⟩) hreceipts
        exact .closed number txn txn _ _ htxn trivial (hwritten.trans hreceipt)
      · exact advance_finish h htxn trivial

theorem commitRevocation_advance (h : Sound config registry)
    (htxn : registry.txns number = some txn) (hstage : txn.stage = .locked (some row)) (now : Int) :
    Advance config registry (commitRevocation registry number txn row now) := by
  have hsound := h.stages number txn htxn
  unfold StageSound at hsound
  rw [hstage] at hsound
  obtain ⟨hmem, hkeys⟩ := hsound.2 row rfl
  unfold commitRevocation
  split_ifs with hcompleted
  · exact advance_finish h htxn trivial
  · have hopen : row.completedAt = none :=
      Option.not_isSome_iff_eq_none.mp fun hsome => hcompleted (.inr hsome)
    have hrevoke : Permitted config txn.keys registry.tables _ := permitted_writeRow h.tables hmem
      (hkeys _ (token_mem_transitionLockKeys config row none))
      (fun other => { other with revokedAt := some now }) rfl (.inr hopen) (fun hused => hused)
      (fun _ => ⟨rfl, rfl, rfl, rfl⟩)
    exact .closed number txn txn _ _ htxn trivial
      (hrevoke.trans (permitted_reservations hrevoke.sound _))

theorem commitCreation_advance (h : Sound config registry)
    (htxn : registry.txns number = some txn) (draft : InvitationDraft) (random : String)
    (now expiresAt : Int) :
    Advance config registry
      (commitCreation config registry number txn draft random now expiresAt) := by
  unfold commitCreation
  dsimp only
  split
  case isTrue => exact advance_finish h htxn trivial
  case isFalse =>
    split
    case isTrue => exact advance_finish h htxn trivial
    case isFalse =>
      split
      case h_1 => exact advance_finish h htxn trivial
      case h_2 identity _ =>
        split
        case isTrue => exact advance_finish h htxn trivial
        case isFalse =>
          split
          case h_1 =>
            split
            case isTrue => exact advance_finish h htxn trivial
            case isFalse =>
              have hrow : Permitted config txn.keys registry.tables _ :=
                permitted_addInvitation h.tables
                  (newInvitation registry.tables draft identity random expiresAt) rfl rfl
              exact .closed number txn txn _ _ htxn trivial
                (hrow.trans (permitted_reservations hrow.sound _))
          case h_2 =>
            split
            case h_1 => exact advance_finish h htxn trivial
            case h_2 =>
              split
              case isTrue =>
                exact .closed number txn txn _ _ htxn trivial (permitted_reservations h.tables _)
              case isFalse => exact advance_finish h htxn trivial
          case h_3 => exact advance_finish h htxn trivial

theorem commit_advance (h : Sound config registry) (number : Nat) (now : Int) (random : String)
    (expiresAt : Int) :
    Advance config registry (commit config registry number now random expiresAt) := by
  unfold commit
  split
  case h_1 => exact .stayed
  case h_2 txn htxn =>
    split
    case h_1 row decision request hstage hjob =>
      exact commitCompletion_advance h htxn hstage hjob now
    case h_2 row _ hstage _ => exact commitRevocation_advance h htxn hstage now
    case h_3 => exact advance_finish h htxn trivial
    case h_4 => exact commitCreation_advance h htxn _ random now expiresAt
    case h_5 => exact .stayed

theorem abort_advance (h : Sound config registry) (number : Nat) :
    Advance config registry (abort registry number) := by
  unfold abort
  split
  case h_1 => exact .stayed
  case h_2 txn htxn =>
    split
    all_goals first
      | exact .stayed
      | exact advance_finish h htxn trivial

theorem insertUser_advance (h : Sound config registry) (user : User) :
    Advance config registry (insertUser registry user) := by
  unfold insertUser
  dsimp only
  split_ifs with hunique
  · exact .inserted _ (permitted_addUser h.tables _ rfl hunique)
  · exact .stayed

theorem step_advance (h : Sound config registry) (operation : Operation) :
    Advance config registry (step config registry operation) := by
  cases operation with
  | begin number job => exact begin_advance registry number job
  | prepareReceipt number => exact prepareReceipt_advance h number
  | probe number => exact probe_advance h number
  | lock number => exact lockTransition_advance h number
  | decide number checks => exact decideTxn_advance h number checks
  | commit number now random expiresAt => exact commit_advance h number now random expiresAt
  | abort number => exact abort_advance h number
  | insertUser user => exact insertUser_advance h user

end Steps

/-! ## Repeated commands -/

def Operation.number : Operation → Option Nat
  | .begin number _ | .prepareReceipt number | .probe number | .lock number | .decide number _
  | .commit number _ _ _ | .abort number => some number
  | .insertUser _ => none

def Repeats (config : Config) (txn : Txn) (receipt : CommandReceipt) : Prop :=
  ∃ request command, txn.job = .complete request ∧ request.telegramCommand = some command ∧
    receipt.commandId = command.commandId ∧ receipt.idempotencyKey = command.idempotencyKey ∧
    receipt.requestHash = config.commandHash command

def receiptKeys (receipt : CommandReceipt) : List LockKey :=
  [.command receipt.commandId, .idempotency receipt.idempotencyKey]

section Repeats

variable {config : Config} {registry : Registry} {number : Nat} {txn : Txn}
  {receipt : CommandReceipt}

theorem receiptsOf_eq {tables : Tables} {command : TelegramRegistrationCommand}
    (h : receiptsUnique tables.receipts) (hreceipt : receipt ∈ tables.receipts)
    (hid : receipt.commandId = command.commandId)
    (hkey : receipt.idempotencyKey = command.idempotencyKey) :
    receiptsOf tables command = [receipt] := by
  have hnodup : tables.receipts.Nodup := by
    have hmap : tables.receipts.filterMap (fun other => some other.commandId) =
        tables.receipts.map (·.commandId) :=
      List.filterMap_eq_map_iff_forall_eq_some.mpr fun _ _ => rfl
    exact List.Nodup.of_map (·.commandId) (hmap ▸ h.1)
  have hsame : ∀ other ∈ tables.receipts,
      (decide (other.commandId = command.commandId) ||
        decide (other.idempotencyKey = command.idempotencyKey)) = decide (other = receipt) := by
    intro other hother
    rw [← Bool.decide_or, decide_eq_decide]
    constructor
    · rintro (hother_id | hother_key)
      · exact h.1.eq hother hreceipt (congrArg some hother_id) (congrArg some hid)
      · exact h.2.eq hother hreceipt (congrArg some hother_key) (congrArg some hkey)
    · rintro rfl
      exact .inl hid
  rw [receiptsOf, List.filter_congr hsame, List.filter_eq,
    List.count_eq_one_of_mem hnodup hreceipt, List.replicate_one]

theorem stage_of_repeats (h : Sound config registry) (htxn : registry.txns number = some txn)
    (hreceipt : receipt ∈ registry.tables.receipts) (hrepeats : Repeats config txn receipt) :
    txn.stage = .begun ∨
      (∃ outcome userId replayed, txn.stage = .returned outcome userId replayed) ∨
      (∃ invitationId created, txn.stage = .finished invitationId created) ∨
      ∃ reason, txn.stage = .failed reason := by
  obtain ⟨request, command, hjob, hcommand, hid, hkey, -⟩ := hrepeats
  have hrecorded : ¬ CommandHeld registry.tables txn.keys txn.job := by
    intro hheld
    have hnone := (hheld request command hjob hcommand).2.2
    rw [receiptsOf_eq h.tables.receipts hreceipt hid hkey] at hnone
    cases hnone
  have hsound := h.stages number txn htxn
  unfold StageSound at hsound
  cases hstage : txn.stage with
  | begun => exact .inl rfl
  | receipted => rw [hstage] at hsound; exact absurd hsound hrecorded
  | probed found keys => rw [hstage] at hsound; exact absurd hsound hrecorded
  | locked row => rw [hstage] at hsound; exact absurd hsound.1 hrecorded
  | decided row decision => rw [hstage] at hsound; exact absurd hsound.1 hrecorded
  | returned outcome userId replayed => exact .inr (.inl ⟨outcome, userId, replayed, rfl⟩)
  | finished invitationId created => exact .inr (.inr (.inl ⟨invitationId, created, rfl⟩))
  | failed reason => exact .inr (.inr (.inr ⟨reason, rfl⟩))

def AnswersReceipt (before after : Registry) (number : Nat) (receipt : CommandReceipt) : Prop :=
  after.tables = before.tables ∧
    (after.txns number = before.txns number ∨
      (after.txns number).map (·.stage) =
        some (.returned receipt.outcome receipt.authoritativeUserId true) ∨
      (after.txns number).map (·.stage) = some (.failed "aborted"))

theorem prepareReceipt_repeats (h : Sound config registry) (htxn : registry.txns number = some txn)
    (hreceipt : receipt ∈ registry.tables.receipts) (hrepeats : Repeats config txn receipt)
    (hstage : txn.stage = .begun) :
    prepareReceipt config registry number =
      if registry.locks.canTake number (receiptKeys receipt) then
        registry.finish number txn (.returned receipt.outcome receipt.authoritativeUserId true)
      else registry := by
  obtain ⟨request, command, hjob, hcommand, hid, hkey, hhash⟩ := hrepeats
  have hone := receiptsOf_eq h.tables.receipts hreceipt hid hkey
  unfold prepareReceipt receiptKeys
  simp only [htxn, hstage, hjob, hcommand, hone, hid, hkey, hhash]
  by_cases hcan : registry.locks.canTake number
      [LockKey.command command.commandId, .idempotency command.idempotencyKey] = true
  · simp [hcan]
  · simp [hcan]

theorem step_repeats (h : Sound config registry) (htxn : registry.txns number = some txn)
    (hreceipt : receipt ∈ registry.tables.receipts) (hrepeats : Repeats config txn receipt)
    {operation : Operation} (hnumber : operation.number = some number) :
    AnswersReceipt registry (step config registry operation) number receipt := by
  have hstays : ∀ {after : Registry}, after = registry →
      AnswersReceipt registry after number receipt := by
    rintro after rfl
    exact ⟨rfl, .inl rfl⟩
  have hstages := stage_of_repeats h htxn hreceipt hrepeats
  obtain ⟨request, command, hjob, -⟩ := id hrepeats
  cases operation with
  | insertUser user => cases hnumber
  | begin _ job =>
    cases hnumber
    have hsame : step config registry (.begin number job) = registry := by
      simp [step, begin, htxn]
    exact hstays hsame
  | prepareReceipt _ =>
    cases hnumber
    rcases hstages with hstage | ⟨_, _, _, hstage⟩ | ⟨_, _, hstage⟩ | ⟨_, hstage⟩
    · rw [step, prepareReceipt_repeats h htxn hreceipt hrepeats hstage]
      split_ifs
      · exact ⟨rfl, .inr (.inl (by simp [Registry.finish]))⟩
      · exact hstays rfl
    all_goals
      have hsame : step config registry (.prepareReceipt number) = registry := by
        simp [step, prepareReceipt, htxn, hstage]
      exact hstays hsame
  | probe _ =>
    cases hnumber
    have hsame : step config registry (.probe number) = registry := by
      rcases hstages with hstage | ⟨_, _, _, hstage⟩ | ⟨_, _, hstage⟩ | ⟨_, hstage⟩
      all_goals simp [step, probe, htxn, Txn.readyToProbe, hjob, hstage]
    exact hstays hsame
  | lock _ =>
    cases hnumber
    have hsame : step config registry (.lock number) = registry := by
      rcases hstages with hstage | ⟨_, _, _, hstage⟩ | ⟨_, _, hstage⟩ | ⟨_, hstage⟩
      all_goals simp [step, lockTransition, htxn, hstage]
    exact hstays hsame
  | decide _ checks =>
    cases hnumber
    have hsame : step config registry (.decide number checks) = registry := by
      rcases hstages with hstage | ⟨_, _, _, hstage⟩ | ⟨_, _, hstage⟩ | ⟨_, hstage⟩
      all_goals simp [step, decideTxn, htxn, hstage]
    exact hstays hsame
  | commit _ now random expiresAt =>
    cases hnumber
    have hsame : step config registry (.commit number now random expiresAt) = registry := by
      rcases hstages with hstage | ⟨_, _, _, hstage⟩ | ⟨_, _, hstage⟩ | ⟨_, hstage⟩
      all_goals simp [step, commit, htxn, hstage]
    exact hstays hsame
  | abort _ =>
    cases hnumber
    rcases hstages with hstage | ⟨_, _, _, hstage⟩ | ⟨_, _, hstage⟩ | ⟨_, hstage⟩
    · refine ⟨?_, .inr (.inr ?_)⟩
      all_goals simp [step, abort, htxn, hstage, Registry.finish]
    all_goals
      have hsame : step config registry (.abort number) = registry := by
        simp [step, abort, htxn, hstage]
      exact hstays hsame

end Repeats

structure RegistrationKept (config : Config) (before : Registry) (operation : Operation)
    (after : Registry) : Prop where
  createdOnce : (after.tables.created.map Prod.fst).Nodup
  mobileNumbers : UniqueKey (fun user : User => some user.normalizedMobileNumber) after.tables.users
  accountNames : UniqueKey (fun user : User => some user.normalizedAccountName) after.tables.users
  telegramIds : UniqueKey User.telegramId after.tables.users
  /-- No invitation is revoked and completed. -/
  exclusive : ∀ row ∈ after.tables.invitations, row.revokedAt = none ∨ row.completedAt = none
  /-- A revoked invitation is not completed later, a Telegram account stays, and so does a receipt. -/
  kept : TablesKept before.tables after.tables
  /-- No step of a recorded command changes a table or returns another outcome. -/
  repeated : ∀ number txn receipt, before.txns number = some txn →
    receipt ∈ before.tables.receipts → Repeats config txn receipt →
    operation.number = some number → AnswersReceipt before after number receipt
  /-- A recorded command that gets its locks returns the outcome. -/
  answered : ∀ number txn receipt, before.txns number = some txn →
    receipt ∈ before.tables.receipts → Repeats config txn receipt → txn.stage = .begun →
    operation = .prepareReceipt number → before.locks.canTake number (receiptKeys receipt) = true →
    (after.txns number).map (·.stage) =
      some (.returned receipt.outcome receipt.authoritativeUserId true)

/-- No transaction has begun, and no user was created by a completion yet. -/
structure Fresh (registry : Registry) : Prop where
  tables : TablesSound registry.tables
  created : registry.tables.created = []
  txns : ∀ number, registry.txns number = none
  locks : ∀ key, registry.locks key = none

theorem Fresh.sound {config : Config} {registry : Registry} (h : Fresh registry) :
    Sound config registry where
  tables := h.tables
  holds := fun number txn htxn => by rw [h.txns number] at htxn; cases htxn
  stages := fun number txn htxn => by rw [h.txns number] at htxn; cases htxn

theorem Sound.kept {config : Config} {before : Registry} (h : Sound config before)
    (operation : Operation) :
    RegistrationKept config before operation (step config before operation) := by
  have hadvance := step_advance h operation
  have hafter := Advance.sound h hadvance
  obtain ⟨hmobile, haccount, htelegram⟩ := userConflict_eq_none hafter.tables.users
  refine ⟨hafter.tables.once, hmobile, haccount, htelegram, hafter.tables.exclusive,
    hadvance.kept, ?_, ?_⟩
  · intro number txn receipt htxn hreceipt hrepeats hnumber
    exact step_repeats h htxn hreceipt hrepeats hnumber
  · rintro number txn receipt htxn hreceipt hrepeats hstage rfl hcan
    rw [step, prepareReceipt_repeats h htxn hreceipt hrepeats hstage, if_pos hcan]
    simp [Registry.finish]

/-- In every interleaving each step keeps one user per invitation, unique identities, revocations,
Telegram accounts and recorded outcomes. -/
theorem registrations_kept (config : Config) (start : Registry) (hstart : Fresh start)
    (operations : List Operation) :
    EachStep (step config) (RegistrationKept config) start operations :=
  eachStep_of_invariant (I := Sound config) (C := fun _ _ _ => True)
    (fun _ operation h _ => Advance.sound h (step_advance h operation))
    (fun _ operation h _ => h.kept operation) operations start hstart.sound
    (eachStep_true _ operations start)

section Example

def contactCommand : TelegramRegistrationCommand where
  commandId := 302240678275694148452353
  idempotencyKey := "registration-0001"
  invitationToken := "INV-0123456789ab"
  mobileNumber := "09121234567"
  telegramId := 77
  telegramUsername := none
  telegramFullName := none
  address := "Tehran, Valiasr 1"
  contactVerifiedAt := 1767225600000000
  localCompletedAt := 1767225660000000
  invitationExpiresAtSnapshot := 1767312000000000

/-- The SHA-256 of the command is the value at `contactCommand`, the only command of the run. -/
def contactConfig : Config where
  isDigit := Char.isDigit
  commandHash := fun _ => "e64bb551ad2d730b92587e89bd33f963482f02a1337e6fdf19d3b792e8c776ab"
  graceSeconds := 0

def contactStart : Registry where
  tables :=
    { users := []
      invitations :=
        [{ id := 1
           accountName := "ali"
           mobileNumber := "09121234567"
           token := "INV-0123456789ab"
           role := .standard
           kind := .standard
           createdById := some 9
           isUsed := false
           expiresAt := 1767312000000000
           registeredUserId := none
           completedAt := none
           completedVia := none
           revokedAt := none }]
      receipts := []
      reservations := [⟨1, "09121234567", "ali"⟩]
      created := []
      nextUserId := 20
      nextInvitationId := 2 }
  locks := fun _ => none
  txns := fun _ => none

def contactJob : Job :=
  .complete
    { invitationToken := contactCommand.invitationToken
      address := contactCommand.address
      receivedAt := 1767225670000000
      telegramCommand := some contactCommand }

def contactRun : List Operation :=
  [.begin 1 contactJob, .prepareReceipt 1, .probe 1, .lock 1, .decide 1 ⟨true, true, true, true⟩,
    .commit 1 1767225670000000 "" 0, .begin 2 contactJob, .prepareReceipt 2, .begin 3 (.revoke 1),
    .probe 3, .lock 3, .commit 3 1767225680000000 "" 0]

theorem contactStart_fresh : Fresh contactStart where
  tables :=
    { invitationIds := by decide
      invitationNext := by decide
      userIds := by decide
      userNext := by decide
      users := by decide
      receipts := by decide
      exclusive := by decide
      once := by decide
      used := by decide }
  created := rfl
  txns := fun _ => rfl
  locks := fun _ => rfl

/-- The repeated command has the recorded outcome, and the invitation is not revoked. -/
theorem repeated_command_answered :
    EachStep (step contactConfig) (RegistrationKept contactConfig) contactStart contactRun ∧
      ((run (step contactConfig) contactStart contactRun).txns 2).map (·.stage) =
        some (.returned .created (some 20) true) ∧
      ((run (step contactConfig) contactStart contactRun).txns 3).map (·.stage) =
        some (.failed "completed") ∧
      (run (step contactConfig) contactStart contactRun).tables.created = [(1, 20)] := by
  refine ⟨registrations_kept contactConfig contactStart contactStart_fresh contactRun, ?_, ?_, ?_⟩
  · decide
  · decide
  · decide

end Example

end TradingBot.Registration
