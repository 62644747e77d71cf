import TradingBot.Creation.Runs
import TradingBot.Misc.Table

/-!
# What creations return

The quota in force, one offer for a key and the answer to a repeated creation hold in every
interleaving. The counter of the owner rises once for each created offer when no session takes the
lock with a copy of the owner's row that has another counter than the stored one: the lock does not
refresh a loaded copy.
-/

namespace TradingBot.Creation

open TradingBot TradingBot.Misc

def Creates (board board' : Board) (request : Nat) (current : Request) (id : Nat) : Prop :=
  board.requests request = some current ∧ (∃ count, current.stage = .admitted count) ∧
    ∃ count, board'.requests request = some { current with stage := .returned id true count }

structure CreationsKept (config : Config) (board : Board) (op : Operation) (board' : Board) :
    Prop where
  /-- After a creation the owner has at most as many active offers here as its policy admits. -/
  quota : ∀ request current id owner, Creates board board' request current id →
    current.command.ownerUserId = some owner →
    (board'.activeCreatedThere config owner : Int) ≤ current.policy.maxActiveOffers
  keys : UniqueKey (·.idempotencyKey) board'.offers
  /-- A creation under a key that has an offer finds the offer if the contents are the same, and is
  refused if not. -/
  found : ∀ first created id count request current,
    board.requests first = some created → created.stage = .returned id true count →
    board.requests request = some current → current.command.key = created.command.key →
    created.command.key.isSome → op = .lookUp request → current.stage = .locked →
    board'.requests request = some { current with
      stage :=
        if canonicalOfferCreationPayload current.command =
            canonicalOfferCreationPayload created.command
        then .replaying id else .refused .idempotencyConflict }
  /-- The same after a rollback: the offer of the key is returned or the creation is refused. -/
  recovered : ∀ first created id count request current,
    board.requests first = some created → created.stage = .returned id true count →
    board.requests request = some current → current.command.key = created.command.key →
    created.command.key.isSome → op = .recover request → current.stage = .rolledBack →
    board'.requests request = some { current with
      stage :=
        if canonicalOfferCreationPayload current.command =
            canonicalOfferCreationPayload created.command
        then .returned id false none else .refused .idempotencyConflict }
  /-- A creation that has found its offer returns it. -/
  returned : ∀ request current id publicId refusedByDatabase,
    board.requests request = some current → current.stage = .replaying id →
    op = .commit request publicId refusedByDatabase →
    board'.requests request = some { current with stage := .returned id false none }

/-- Apart from the writes of others, the counter of a user rises by one with each created offer. -/
def CounterKept (board : Board) (op : Operation) (board' : Board) : Prop :=
  ∀ owner row, board.users owner = some row → (∀ written, op ≠ .writeOwner owner written) →
    ∃ row', board'.users owner = some row' ∧
      ((∃ request current id, Creates board board' request current id ∧
          current.command.ownerUserId = some owner) →
        row'.channelMessagesCount = row.channelMessagesCount + 1) ∧
      ((¬ ∃ request current id, Creates board board' request current id ∧
          current.command.ownerUserId = some owner) →
        row'.channelMessagesCount = row.channelMessagesCount)

def hasCurrentCopy (board : Board) (current : Request) : Bool :=
  match current.copy, current.command.ownerUserId.bind board.users with
  | some copy, some row => copy.channelMessagesCount = row.channelMessagesCount
  | _, _ => true

def Operation.lockRequest? : Operation → Option Nat
  | .lock request _ => some request
  | _ => none

/-- A session takes the lock without a copy of its owner's row, or with the stored counter. -/
def LocksWithCurrentCopy (board : Board) (op : Operation) (_ : Board) : Prop :=
  ∀ request ∈ op.lockRequest?, ∀ current ∈ board.requests request, current.stage = .passed →
    (∀ owner ∈ current.command.ownerUserId, board.holder owner = none) →
    hasCurrentCopy board current = true

instance (board : Board) (op : Operation) (board' : Board) :
    Decidable (LocksWithCurrentCopy board op board') :=
  inferInstanceAs (Decidable (∀ request ∈ op.lockRequest?, ∀ current ∈ board.requests request,
    current.stage = .passed →
    (∀ owner ∈ current.command.ownerUserId, board.holder owner = none) →
    hasCurrentCopy board current = true))

def Operation.command? : Operation → Option OfferCreationCommand
  | .begin _ command _ => some command
  | _ => none

/-- Commands with one fingerprint have one content: their texts have different digests. -/
def DigestsDiffer (config : Config) (commands : List OfferCreationCommand) : Prop :=
  ∀ command ∈ commands, ∀ other ∈ commands,
    offerCreationFingerprint config.digest command = offerCreationFingerprint config.digest other →
    canonicalOfferCreationPayload command = canonicalOfferCreationPayload other

structure Idle (board : Board) : Prop where
  requests : ∀ request, board.requests request = none
  keys : UniqueKey (·.idempotencyKey) board.offers

variable {config : Config} {board board' : Board} {op : Operation} {id owner : Nat}
  {current : Request} {commands : List OfferCreationCommand} {offer : StoredOffer}
  {copy stored : OwnerRow}

theorem Idle.sound (h : Idle board) : Sound config board := by
  refine ⟨fun request current hcurrent => ?_, h.keys⟩
  rw [h.requests request] at hcurrent
  cases hcurrent

theorem exists_commit_of_creates {request : Nat} (h : Creates board (step config board op) request current id) :
    ∃ publicId refusedByDatabase count owner copy stored offer,
      op = .commit request publicId refusedByDatabase ∧ current.stage = .admitted count ∧
      current.command.ownerUserId = some owner ∧ current.copy = some copy ∧
      board.users owner = some stored ∧
      buildAuthoritativeOffer config.digest current.command publicId board.nextId
        (readPersistedOvertimeMinutes copy) = some offer ∧
      step config board op =
        ((board.incrementChannelMessages owner copy stored).insertOffer offer).finish request
          current (.returned offer.id true (some (count + 1))) := by
  obtain ⟨hcurrent, ⟨count, hadmitted⟩, returnedCount, hreturned⟩ := h
  obtain ⟨publicId, refusedByDatabase, rfl⟩ :
      ∃ publicId refusedByDatabase, op = .commit request publicId refusedByDatabase := by
    cases requests_step config board op with
    | same hsame =>
      rw [hsame, hcurrent, Option.some.injEq] at hreturned
      rw [hreturned] at hadmitted
      cases hadmitted
    | begun _ _ _ _ hnext =>
      rw [hnext] at hreturned
      obtain ⟨-, hsome⟩ | ⟨-, hold⟩ := update_eq_some hreturned
      · rw [Option.some.injEq, Request.mk.injEq] at hsome
        cases hsome.2.2.2
      · rw [hcurrent, Option.some.injEq] at hold
        rw [hold] at hadmitted
        cases hadmitted
    | moved _ before _ _ hbefore hnext hcreated =>
      rw [hnext] at hreturned
      obtain ⟨rfl, hsome⟩ | ⟨-, hold⟩ := update_eq_some hreturned
      · obtain rfl : current = before := Option.some.inj (hcurrent.symm.trans hbefore)
        rw [Option.some.injEq, Request.mk.injEq] at hsome
        exact hcreated id returnedCount hsome.2.2.2 (by rw [hadmitted]; simp)
      · rw [hcurrent, Option.some.injEq] at hold
        rw [hold] at hadmitted
        cases hadmitted
  have hstep : step config board (.commit request publicId refusedByDatabase) =
      commitOffer config board request current publicId refusedByDatabase count := by
    simp [step, commit, hcurrent, hadmitted]
  obtain ⟨stage, -, hne, -, hput⟩ |
      ⟨owner, copy, stored, offer, howner, hcopy, hstored, hoffer, -, hput⟩ :=
    commitOffer_cases config board request current publicId refusedByDatabase count
  · rw [hstep, hput, requests_finish, requests_put, Option.some.injEq, Request.mk.injEq] at hreturned
    exact absurd hreturned.2.2.2 (hne id returnedCount)
  · exact ⟨publicId, refusedByDatabase, count, owner, copy, stored, offer, rfl, hadmitted, howner,
      hcopy, hstored, hoffer, hstep.trans hput⟩

theorem activeCreatedThere_finish (board : Board) (request : Nat) (current : Request) (stage : Stage)
    (owner : Nat) :
    (board.finish request current stage).activeCreatedThere config owner =
      board.activeCreatedThere config owner := by
  simp [Board.activeCreatedThere, Board.finish, Board.put]

theorem quota_step {request : Nat} (h : Sound config board)
    (hcreates : Creates board (step config board op) request current id)
    (howner : current.command.ownerUserId = some owner) :
    ((step config board op).activeCreatedThere config owner : Int) ≤
      current.policy.maxActiveOffers := by
  have hcurrent := hcreates.1
  obtain ⟨publicId, -, count, owner', copy, stored, offer, -, hadmitted, -, -, -, -, hstep⟩ :=
    exists_commit_of_creates hcreates
  have hstage := (h.requests request current hcurrent).stage
  rw [StageSound, hadmitted] at hstage
  obtain ⟨hcount, hmax⟩ := hstage owner howner
  have hsame : (board.incrementChannelMessages owner' copy stored).activeCreatedThere config owner =
      board.activeCreatedThere config owner := rfl
  rw [hstep, activeCreatedThere_finish, activeCreatedThere_insertOffer, hsame]
  have hone : (if offer.userId = some owner ∧ offer.status = .active ∧
      offer.homeServer = serverName config.server then 1 else 0) ≤ 1 := by
    split_ifs <;> omega
  omega

/-- The offer of a finished creation is found under its key and stands for commands with its
content. -/
theorem replay_of_created (hlength : ∀ text, (config.digest text).length = 64)
    (hdigests : DigestsDiffer config commands)
    (h : Sound config board) {first : Nat} {created : Request} {count : Option Nat}
    (hfirst : board.requests first = some created) (hstage : created.stage = .returned id true count)
    (hcreated : created.command ∈ commands) {command : OfferCreationCommand}
    (hcommand : command ∈ commands) (hkey : command.key = created.command.key)
    (hsome : created.command.key.isSome) :
    ∃ offer, board.offerOfKey command = some offer ∧ offer.id = id ∧
      (replayMatches config.digest offer command = true ↔
        canonicalOfferCreationPayload command = canonicalOfferCreationPayload created.command) := by
  have hsound := h.requests first created hfirst
  have hintent := hsound.stage
  rw [StageSound, hstage] at hintent
  obtain ⟨offer, hoffer, hid, hofferKey, hstored⟩ := hintent
  obtain ⟨hversion, hfingerprint⟩ := hstored hsome
  obtain ⟨payload, -, hpayload⟩ := exists_offerCreationFingerprint config.digest hsound.surface
  refine ⟨offer, offerOfKey_eq h.keys hoffer (hofferKey.trans hkey.symm) (by rwa [hkey]), hid, ?_⟩
  rw [replayMatches_iff (hlength _) hversion (hfingerprint.trans hpayload), ← hpayload]
  constructor
  · exact hdigests command hcommand created.command hcreated
  · intro hsame
    rw [offerCreationFingerprint, offerCreationFingerprint, hsame]

theorem lookUpKey_of_found {request : Nat}
    (hcurrent : board.requests request = some current) (hstage : current.stage = .locked)
    (hfound : board.offerOfKey current.command = some offer) :
    (lookUpKey config board request).requests request = some { current with
      stage := if replayMatches config.digest offer current.command = true
        then .replaying offer.id else .refused .idempotencyConflict } := by
  unfold lookUpKey
  rw [hcurrent]
  dsimp only
  rw [if_neg (not_not.mpr hstage), hfound]
  dsimp only
  split_ifs
  · exact requests_put ..
  · rw [requests_finish]
    exact requests_put ..

theorem recover_of_found {request : Nat}
    (hcurrent : board.requests request = some current) (hstage : current.stage = .rolledBack)
    (hfound : board.offerOfKey current.command = some offer) :
    (recover config board request).requests request = some { current with
      stage := if replayMatches config.digest offer current.command = true
        then .returned offer.id false none else .refused .idempotencyConflict } := by
  unfold recover
  rw [hcurrent]
  dsimp only
  rw [if_neg (not_not.mpr hstage), hfound]
  dsimp only
  split_ifs <;> exact requests_put ..

def CommandsAmong (commands : List OfferCreationCommand) (board : Board) : Prop :=
  ∀ request current, board.requests request = some current → current.command ∈ commands

theorem CommandsAmong.step
    (h : CommandsAmong commands board) (hop : ∀ command, op.command? = some command →
      command ∈ commands) : CommandsAmong commands (step config board op) := by
  intro request current hcurrent
  cases requests_step config board op with
  | same hsame => exact h request current (hsame ▸ hcurrent)
  | begun _ command _ hbegin hnext =>
    rw [hnext] at hcurrent
    obtain ⟨-, hsome⟩ | ⟨-, hold⟩ := update_eq_some hcurrent
    · rw [← Option.some.inj hsome]
      exact hop command (by rw [hbegin]; rfl)
    · exact h request current hold
  | moved mover before _ _ hbefore hnext =>
    rw [hnext] at hcurrent
    obtain ⟨-, hsome⟩ | ⟨-, hold⟩ := update_eq_some hcurrent
    · rw [← Option.some.inj hsome]
      exact h mover before hbefore
    · exact h request current hold

theorem creationsKept_step (hlength : ∀ text, (config.digest text).length = 64)
    (hdigests : DigestsDiffer config commands)
    (h : Sound config board) (hamong : CommandsAmong commands board) (op : Operation) :
    CreationsKept config board op (step config board op) where
  quota request current id owner hcreates howner := quota_step h hcreates howner
  keys := (sound_step config board op h).keys
  found := by
    rintro first created id count request current hfirst hstage hcurrent hkey hsome rfl hlocked
    obtain ⟨offer, hfound, rfl, hmatches⟩ := replay_of_created hlength hdigests h hfirst hstage
      (hamong first created hfirst) (hamong request current hcurrent) hkey hsome
    rw [step, lookUpKey_of_found hcurrent hlocked hfound, if_congr hmatches rfl rfl]
  recovered := by
    rintro first created id count request current hfirst hstage hcurrent hkey hsome rfl hrolled
    obtain ⟨offer, hfound, rfl, hmatches⟩ := replay_of_created hlength hdigests h hfirst hstage
      (hamong first created hfirst) (hamong request current hcurrent) hkey hsome
    rw [step, recover_of_found hcurrent hrolled hfound, if_congr hmatches rfl rfl]
  returned := by
    rintro request current id publicId refusedByDatabase hcurrent hstage rfl
    have hstep : step config board (.commit request publicId refusedByDatabase) =
        board.finish request current (.returned id false none) := by
      simp [step, commit, hcurrent, hstage]
    rw [hstep, requests_finish]
    exact requests_put ..

/-! ## The counter -/

def CopiesCurrent (board : Board) : Prop :=
  ∀ request current, board.requests request = some current → current.stage.holdsLock = true →
    ∃ owner copy row, current.command.ownerUserId = some owner ∧ current.copy = some copy ∧
      board.users owner = some row ∧ copy.channelMessagesCount = row.channelMessagesCount

def CommitsOffer (config : Config) (board : Board) (op : Operation) (request : Nat)
    (current : Request) (owner : Nat) (copy stored : OwnerRow) : Prop :=
  ∃ publicId refusedByDatabase count offer, op = .commit request publicId refusedByDatabase ∧
    board.requests request = some current ∧ current.stage = .admitted count ∧
    current.command.ownerUserId = some owner ∧
    step config board op =
      ((board.incrementChannelMessages owner copy stored).insertOffer offer).finish request
        current (.returned offer.id true (some (count + 1)))

theorem users_finish (board : Board) (request : Nat) (current : Request) (stage : Stage) :
    (board.finish request current stage).users = board.users := by
  simp [Board.finish, Board.put]

theorem users_commit (config : Config) (board : Board) (request : Nat) (publicId : String)
    (refusedByDatabase : Bool) :
    (commit config board request publicId refusedByDatabase).users = board.users ∨
      ∃ current owner copy stored,
        CommitsOffer config board (.commit request publicId refusedByDatabase) request current owner
          copy stored := by
  cases hcurrent : board.requests request with
  | none => simp [commit, hcurrent]
  | some current =>
    cases hstage : current.stage with
    | admitted count =>
      have hcommit : commit config board request publicId refusedByDatabase =
          commitOffer config board request current publicId refusedByDatabase count := by
        simp [commit, hcurrent, hstage]
      obtain ⟨stage, -, -, -, hput⟩ | ⟨owner, copy, stored, offer, howner, -, -, -, -, hput⟩ :=
        commitOffer_cases config board request current publicId refusedByDatabase count
      · rw [hcommit, hput, users_finish]
        exact .inl rfl
      · exact .inr ⟨current, owner, copy, stored, publicId, refusedByDatabase, count, offer, rfl,
          hcurrent, hstage, howner, hcommit.trans hput⟩
    | replaying id => simp [commit, hcurrent, hstage, users_finish]
    | begun | passed | locked | unused | allowed | rolledBack | returned | refused =>
      simp [commit, hcurrent, hstage]

/-- The users after a step: as before, with one written by others, or with the counter of a
creation. -/
theorem users_step (config : Config) (board : Board) (op : Operation) :
    (step config board op).users = board.users ∨
      (∃ owner row, op = .writeOwner owner row ∧ board.holder owner = none ∧
        (step config board op).users = Function.update board.users owner (some row)) ∨
      ∃ request current owner copy stored,
        CommitsOffer config board op request current owner copy stored := by
  cases op with
  | begin request command policy =>
    left
    dsimp only [step, begin]
    split_ifs <;> rfl
  | load request again =>
    left
    dsimp only [step, loadOwner]
    repeat' split
    all_goals rfl
  | gates request failure =>
    left
    dsimp only [step, marketGates]
    repeat' split
    all_goals rfl
  | lock request fails =>
    left
    obtain hsame | ⟨current, -, -, ⟨refusal, hput⟩ | ⟨owner, row, -, -, -, hput⟩⟩ :=
      lockOfferOwner_cases board request fails
    · exact congrArg Board.users hsame
    · rw [step, hput]
      rfl
    · rw [step, hput]
      rfl
  | lookUp request =>
    left
    dsimp only [step, lookUpKey]
    repeat' split
    all_goals first | rfl | exact users_finish ..
  | limits request now customerFailure =>
    left
    dsimp only [step, checkLimits]
    repeat' split
    all_goals first | rfl | exact users_finish ..
  | count request =>
    left
    dsimp only [step, countActiveOffers]
    repeat' split
    all_goals first | rfl | exact users_finish ..
  | commit request publicId refusedByDatabase =>
    obtain hsame | ⟨current, owner, copy, stored, hcommits⟩ :=
      users_commit config board request publicId refusedByDatabase
    · exact .inl hsame
    · exact .inr (.inr ⟨request, current, owner, copy, stored, hcommits⟩)
  | recover request =>
    left
    dsimp only [step, recover]
    repeat' split
    all_goals rfl
  | abort request =>
    left
    dsimp only [step, abort]
    repeat' split
    all_goals first | rfl | exact users_finish ..
  | writeOwner owner row =>
    by_cases hfree : board.holder owner = none
    · exact .inr (.inl ⟨owner, row, rfl, hfree, by simp [step, writeOwner, hfree]⟩)
    · exact .inl (by simp [step, writeOwner, hfree])
  | changeOffer => exact .inl rfl
  | mirror offer =>
    left
    dsimp only [step, mirrorOffer]
    split_ifs <;> rfl

theorem CommitsOffer.users {request : Nat} (h : CommitsOffer config board op request current owner copy stored) :
    (step config board op).users = Function.update board.users owner
      (some { stored with channelMessagesCount := copy.channelMessagesCount + 1 }) := by
  obtain ⟨-, -, count, offer, -, -, -, -, hstep⟩ := h
  rw [hstep, users_finish]
  rfl

theorem CommitsOffer.creates {request : Nat} (h : CommitsOffer config board op request current owner copy stored) :
    ∃ id, Creates board (step config board op) request current id := by
  obtain ⟨-, -, count, offer, -, hcurrent, hstage, -, hstep⟩ := h
  refine ⟨offer.id, hcurrent, ⟨count, hstage⟩, some (count + 1), ?_⟩
  rw [hstep, requests_finish]
  exact requests_put ..

theorem users_of_locked {request : Nat} (h : Sound config board) (hheld : board.holder owner = some request)
    (hlocked : ∀ current, (step config board op).requests request = some current →
      current.stage.holdsLock = true) :
    (step config board op).users owner = board.users owner := by
  obtain hsame | ⟨owner', row, -, hfree, hwritten⟩ | ⟨other, current, owner', copy, stored, hcommits⟩ :=
    users_step config board op
  · rw [hsame]
  · have hne : owner ≠ owner' := by
      rintro rfl
      rw [hheld] at hfree
      cases hfree
    rw [hwritten, Function.update_of_ne hne]
  · have hne : owner ≠ owner' := by
      rintro rfl
      obtain ⟨id, -, -, count', hreturned⟩ := hcommits.creates
      obtain ⟨-, -, count, -, -, hcurrent, hstage, howner, -⟩ := hcommits
      obtain ⟨owner', howner', hother⟩ :=
        (h.requests other current hcurrent).lock (by rw [hstage]; rfl)
      obtain rfl : owner = owner' := Option.some.inj (howner.symm.trans howner')
      obtain rfl : request = other := Option.some.inj (hheld.symm.trans hother)
      have hholds := hlocked _ hreturned
      cases hholds
    rw [hcommits.users, Function.update_of_ne hne]

theorem CopiesCurrent.step (hsound : Sound config board) (h : CopiesCurrent board)
    (hcopy : LocksWithCurrentCopy board op (step config board op)) :
    CopiesCurrent (step config board op) := by
  intro request current hcurrent hholds
  -- a request that had the lock before keeps its copy, and nobody has written the row
  have hkept : ∀ before, board.requests request = some before →
      before.stage.holdsLock = true → current.copy = before.copy → current.command = before.command →
      ∃ owner copy row, current.command.ownerUserId = some owner ∧ current.copy = some copy ∧
        (Creation.step config board op).users owner = some row ∧
        copy.channelMessagesCount = row.channelMessagesCount := by
    intro before hbefore hlocked hsameCopy hsameCommand
    obtain ⟨owner, copy, row, howner, hcopied, hrow, hcounter⟩ := h request before hbefore hlocked
    obtain ⟨owner', howner', hheld⟩ := (hsound.requests request before hbefore).lock hlocked
    obtain rfl : owner = owner' := Option.some.inj (howner.symm.trans howner')
    have husers := @users_of_locked config board op owner request hsound hheld fun next hnext => by
      rw [hcurrent, Option.some.injEq] at hnext
      exact hnext ▸ hholds
    exact ⟨owner, copy, row, by rw [hsameCommand, howner], by rw [hsameCopy, hcopied],
      by rw [husers, hrow], hcounter⟩
  cases requests_step config board op with
  | same hsame =>
    rw [hsame] at hcurrent
    exact hkept current hcurrent hholds rfl rfl
  | begun _ _ _ _ hnext =>
    rw [hnext] at hcurrent
    obtain ⟨-, hsome⟩ | ⟨-, hold⟩ := update_eq_some hcurrent
    · rw [← Option.some.inj hsome] at hholds
      cases hholds
    · exact hkept current hold hholds rfl rfl
  | moved _ before copy _ hbefore hnext _ hlock =>
    rw [hnext] at hcurrent
    obtain ⟨rfl, hsome⟩ | ⟨-, hold⟩ := update_eq_some hcurrent
    · obtain rfl := Option.some.inj hsome
      obtain ⟨hlocked, rfl⟩ | ⟨hpassed, fails, owner, row, rfl, howner, hfree, hrow, rfl⟩ :=
        hlock hholds
      · exact hkept before hbefore hlocked rfl rfl
      · have husers : (Creation.step config board (.lock request fails)).users = board.users := by
          obtain hsame | ⟨owner', row', hop, -⟩ | ⟨_, _, _, _, _, _, _, _, _, hop, -⟩ :=
            users_step config board (.lock request fails)
          · exact hsame
          · cases hop
          · cases hop
        refine ⟨owner, before.copy.getD row, row, howner, rfl, by rw [husers, hrow], ?_⟩
        cases hcopied : before.copy with
        | none => rfl
        | some copy =>
          have hcurrent := hcopy request rfl before hbefore hpassed fun owner' howner' => by
            obtain rfl : owner = owner' := Option.some.inj (howner.symm.trans howner')
            exact hfree
          simpa [hasCurrentCopy, hcopied, howner, hrow] using hcurrent
    · exact hkept current hold hholds rfl rfl

theorem counterKept_step (h : CopiesCurrent board) (op : Operation) :
    CounterKept board op (step config board op) := by
  intro owner row hrow hwrites
  by_cases hcreates : ∃ request current id,
      Creates board (step config board op) request current id ∧
        current.command.ownerUserId = some owner
  · obtain ⟨request, current, id, hstep, howner⟩ := hcreates
    obtain ⟨publicId, refused, count, owner', copy, stored, offer, hop, hadmitted, howner', hcopied,
      hstored, -, hboard⟩ := exists_commit_of_creates hstep
    obtain rfl : owner = owner' := Option.some.inj (howner.symm.trans howner')
    obtain ⟨owner', copy', row', howner'', hcopied', hrow', hcounter⟩ :=
      h request current hstep.1 (by rw [hadmitted]; rfl)
    obtain rfl : owner = owner' := Option.some.inj (howner.symm.trans howner'')
    obtain rfl : copy = copy' := Option.some.inj (hcopied.symm.trans hcopied')
    obtain rfl : row = row' := Option.some.inj (hrow.symm.trans hrow')
    have hcommits : CommitsOffer config board op request current owner copy stored :=
      ⟨publicId, refused, count, offer, hop, hstep.1, hadmitted, howner, hboard⟩
    refine ⟨_, by rw [hcommits.users, Function.update_self], fun _ => ?_, fun hnone => ?_⟩
    · rw [← hcounter]
    · exact absurd ⟨request, current, id, hstep, howner⟩ hnone
  · refine ⟨row, ?_, fun hsome => absurd hsome hcreates, fun _ => rfl⟩
    obtain hsame | ⟨owner', row', hop, -, hwritten⟩ |
        ⟨request, current, owner', copy, stored, hcommits⟩ := users_step config board op
    · rw [hsame, hrow]
    · have hne : owner ≠ owner' := by
        rintro rfl
        exact hwrites row' hop
      rw [hwritten, Function.update_of_ne hne, hrow]
    · have hne : owner ≠ owner' := by
        rintro rfl
        obtain ⟨id, hstep⟩ := hcommits.creates
        obtain ⟨-, -, -, -, -, -, -, howner, -⟩ := hcommits
        exact hcreates ⟨request, current, id, hstep, howner⟩
      rw [hcommits.users, Function.update_of_ne hne, hrow]

/-- In every interleaving of creations on a board where none is under way, the quota, the keys and
the answers to repeated creations are kept, and the counters too if every session takes the lock
with a current copy of its owner or none. -/
theorem creations_under_quota (config : Config)
    (hlength : ∀ text, (config.digest text).length = 64) (board : Board) (hidle : Idle board)
    (ops : List Operation) (hdigests : DigestsDiffer config (ops.filterMap Operation.command?)) :
    EachStep (step config) (CreationsKept config) board ops ∧
      (EachStep (step config) LocksWithCurrentCopy board ops →
        EachStep (step config) CounterKept board ops) := by
  have hstart : Sound config board := hidle.sound
  refine ⟨?_, fun hcopies => ?_⟩
  · have hamong : CommandsAmong (ops.filterMap Operation.command?) board := by
      intro request current hcurrent
      rw [hidle.requests request] at hcurrent
      cases hcurrent
    have hops : EachStep (step config) (fun _ op _ => ∀ command, op.command? = some command →
        command ∈ ops.filterMap Operation.command?) board ops :=
      eachStep_of_mem ops board fun op hop _ _ command hcommand =>
        List.mem_filterMap.mpr ⟨op, hop, hcommand⟩
    exact eachStep_of_invariant
      (I := fun s => Sound config s ∧ CommandsAmong (ops.filterMap Operation.command?) s)
      (fun s op h hop => ⟨sound_step config s op h.1, h.2.step hop⟩)
      (fun s op h _ => creationsKept_step hlength hdigests h.1 h.2 op) ops board
      ⟨hstart, hamong⟩ hops
  · have hcurrent : CopiesCurrent board := by
      intro request current hcurrent
      rw [hidle.requests request] at hcurrent
      cases hcurrent
    exact eachStep_of_invariant (I := fun s => Sound config s ∧ CopiesCurrent s)
      (fun s op h hcopy => ⟨sound_step config s op h.1, h.2.step h.1 hcopy⟩)
      (fun s op h _ => counterKept_step h.2 op) ops board ⟨hstart, hcurrent⟩ hcopies

def sale (key : String) (price : Int) : OfferCreationCommand :=
  { sourceSurface := .webapp, ownerUserId := some 7, actorUserId := some 7, offerType := .sell,
    commodityId := 1, quantity := 10, price := price, idempotencyKey := some key }

def iranConfig : Config where
  server := .iran
  digest := fun text =>
    if text = ((canonicalOfferCreationPayload (sale "" 500000)).map (·.toJson.write)).getD [] then
      "f4ea68e615e7a88ed3a2479b68dd95187ba1a274a3934da11f9c533d2d77f81d"
    else "47808ac589db4f27a8a75f35a53a85755b3725658a46213bfec5d7447f2adabc"

def oneOwner : Board where
  users := fun id => if id = 7 then some {} else none
  offers := []
  nextId := 1
  holder := fun _ => none
  requests := fun _ => none

/-- The request of a sale up to the market gates; its authentication loads the user. -/
def request (number : Nat) (command : OfferCreationCommand) : List Operation :=
  [.begin number command { maxActiveOffers := 2 }, .load number false, .gates number none]

def transaction (number : Nat) : List Operation :=
  [.lock number false, .lookUp number, .limits number 0 none, .count number,
    .commit number "ofr_1" false]

def repeatedSale : List Operation :=
  request 0 (sale "key" 500000) ++ transaction 0 ++ [.changeOffer 1 (some 0) none .completed] ++
    request 1 (sale " key " 500000) ++ transaction 1 ++
    request 2 (sale "key" 510000) ++ transaction 2

theorem idle_oneOwner : Idle oneOwner := ⟨fun _ => rfl, List.nodup_nil⟩

theorem length_digest_iranConfig (text : List Char) : (iranConfig.digest text).length = 64 := by
  unfold iranConfig
  dsimp only
  split_ifs <;> decide

theorem repeated_sale_answered :
    (EachStep (step iranConfig) (CreationsKept iranConfig) oneOwner repeatedSale ∧
      EachStep (step iranConfig) CounterKept oneOwner repeatedSale) ∧
    (run (step iranConfig) oneOwner repeatedSale).requests 1 =
      some { command := sale " key " 500000, policy := { maxActiveOffers := 2 },
             copy := some { channelMessagesCount := 1 }, stage := .returned 1 false none } ∧
    (run (step iranConfig) oneOwner repeatedSale).requests 2 =
      some { command := sale "key" 510000, policy := { maxActiveOffers := 2 },
             copy := some { channelMessagesCount := 1 },
             stage := .refused .idempotencyConflict } := by
  have hdigests : DigestsDiffer iranConfig (repeatedSale.filterMap Operation.command?) := by
    unfold DigestsDiffer
    decide +kernel
  have hcopies : EachStep (step iranConfig) LocksWithCurrentCopy oneOwner repeatedSale := by
    decide +kernel
  obtain ⟨hkept, hcounter⟩ := creations_under_quota iranConfig length_digest_iranConfig oneOwner
    idle_oneOwner repeatedSale hdigests
  exact ⟨⟨hkept, hcounter hcopies⟩, by decide +kernel, by decide +kernel⟩

/-- Two sales under two keys; both requests have read the user before the first takes the lock. -/
def twoSales : List Operation :=
  request 0 (sale "first" 500000) ++ request 1 (sale "second" 510000) ++
    transaction 0 ++ transaction 1

/-- Both offers are created, and the counter has risen once. -/
theorem second_sale_not_counted :
    ¬ EachStep (step iranConfig) CounterKept oneOwner twoSales := by
  intro h
  obtain ⟨-, -, -, -, -, -, -, -, -, -, -, -, -, -, -, hlast, -⟩ := h
  obtain ⟨row, hrow, hrises, -⟩ := hlast 7 { channelMessagesCount := 1 } (by decide)
    (fun _ hwrite => by cases hwrite)
  have hcount := hrises ⟨1,
    { command := sale "second" 510000, policy := { maxActiveOffers := 2 }, copy := some {},
      stage := .admitted 1 }, 2,
    ⟨by decide, ⟨1, rfl⟩, some 2, by decide⟩, rfl⟩
  have hstored : (run (step iranConfig) oneOwner twoSales).users 7 =
      some { channelMessagesCount := 1 } := by
    decide
  have hsame : some row = some { channelMessagesCount := 1 } := hrow.symm.trans hstored
  obtain rfl := Option.some.inj hsame
  exact absurd hcount (by decide)

end TradingBot.Creation
