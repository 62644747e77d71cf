import TradingBot.Creation.Quota
import TradingBot.Misc.Run

/-!
# Every interleaving of creations

What the lock of the owner, the unique key and the fingerprint give over whole runs: the quota in
force at each creation, one offer for a key, the answer to a repeated creation, and the owner's
counter, if the copy with which a session takes the lock is still the stored one.
-/

namespace TradingBot.Creation

open TradingBot TradingBot.Misc

def RowsKept (board board' : Board) : Prop :=
  ∀ offer ∈ board.offers, ∃ offer' ∈ board'.offers, offer'.id = offer.id ∧
    offer'.idempotencyKey = offer.idempotencyKey ∧
    offer'.idempotencyFingerprintVersion = offer.idempotencyFingerprintVersion ∧
    offer'.idempotencyFingerprint = offer.idempotencyFingerprint

theorem RowsKept.of_subset {board board' : Board} (h : board.offers ⊆ board'.offers) :
    RowsKept board board' :=
  fun offer hoffer => ⟨offer, h hoffer, rfl, rfl, rfl, rfl⟩

def HasKeyOf (board : Board) (command : OfferCreationCommand) (id : Nat) : Prop :=
  ∃ offer ∈ board.offers, offer.id = id ∧ offer.idempotencyKey = command.key

def HasIntentOf (config : Config) (board : Board) (command : OfferCreationCommand) (id : Nat) :
    Prop :=
  ∃ offer ∈ board.offers, offer.id = id ∧ offer.idempotencyKey = command.key ∧
    (command.key.isSome → offer.idempotencyFingerprintVersion = some 1 ∧
      offer.idempotencyFingerprint = offerCreationFingerprint config.digest command)

def StageSound (config : Config) (board : Board) (current : Request) : Prop :=
  match current.stage with
  | .admitted count => ∀ owner, current.command.ownerUserId = some owner →
      board.activeCreatedThere config owner ≤ count ∧
        (count : Int) < current.policy.maxActiveOffers
  | .replaying id => HasKeyOf board current.command id
  | .returned id true _ => HasIntentOf config board current.command id
  | _ => True

structure RequestSound (config : Config) (board : Board) (request : Nat) (current : Request) :
    Prop where
  surface : current.command.sourceSurface ≠ .internalSync
  lock : current.stage.holdsLock = true →
    ∃ owner, current.command.ownerUserId = some owner ∧ board.holder owner = some request
  stage : StageSound config board current

structure Sound (config : Config) (board : Board) : Prop where
  requests : ∀ request current, board.requests request = some current →
    RequestSound config board request current
  keys : UniqueKey (·.idempotencyKey) board.offers

variable {config : Config} {board board' : Board} {command : OfferCreationCommand}
  {offer : StoredOffer} {id request : Nat} {current next : Request} {stage : Stage} {op : Operation}

theorem offerOfKey_eq_some (h : board.offerOfKey command = some offer) :
    offer ∈ board.offers ∧ offer.idempotencyKey = command.key := by
  rw [Board.offerOfKey, Option.bind_eq_some_iff] at h
  obtain ⟨key, hkey, hfound⟩ := h
  obtain ⟨hoffer, hsame⟩ := rowOfKey_eq_some hfound
  exact ⟨hoffer, hsame.trans hkey.symm⟩

theorem offerOfKey_eq (hkeys : UniqueKey (·.idempotencyKey) board.offers)
      (hoffer : offer ∈ board.offers)
    (hkey : offer.idempotencyKey = command.key) (hsome : command.key.isSome) :
    board.offerOfKey command = some offer := by
  obtain ⟨key, hcommand⟩ := Option.isSome_iff_exists.mp hsome
  rw [Board.offerOfKey, hcommand, Option.bind_some]
  exact hkeys.rowOfKey_eq hoffer (hkey.trans hcommand)

/-! ## What a step keeps of the other requests -/

theorem HasKeyOf.kept (hrows : RowsKept board board')
    (h : HasKeyOf board command id) : HasKeyOf board' command id := by
  obtain ⟨offer, hoffer, hid, hkey⟩ := h
  obtain ⟨offer', hoffer', hid', hkey', -⟩ := hrows offer hoffer
  exact ⟨offer', hoffer', hid'.trans hid, hkey'.trans hkey⟩

theorem HasIntentOf.kept (hrows : RowsKept board board')
    (h : HasIntentOf config board command id) : HasIntentOf config board' command id := by
  obtain ⟨offer, hoffer, hid, hkey, hintent⟩ := h
  obtain ⟨offer', hoffer', hid', hkey', hversion, hfingerprint⟩ := hrows offer hoffer
  refine ⟨offer', hoffer', hid'.trans hid, hkey'.trans hkey, fun hsome => ?_⟩
  exact ⟨hversion.trans (hintent hsome).1, hfingerprint.trans (hintent hsome).2⟩

/-- A request stays sound while offers keep their keys, it keeps its lock, and its owner gets no
other active offer. -/
theorem RequestSound.kept
    (h : RequestSound config board request current) (hrows : RowsKept board board')
    (hlock : ∀ owner, board.holder owner = some request → board'.holder owner = some request)
    (hactive : ∀ owner, board.holder owner = some request →
      board'.activeCreatedThere config owner ≤ board.activeCreatedThere config owner) :
    RequestSound config board' request current := by
  refine ⟨h.surface, ?_, ?_⟩
  · intro hholds
    obtain ⟨owner, howner, hheld⟩ := h.lock hholds
    exact ⟨owner, howner, hlock owner hheld⟩
  · have hstage := h.stage
    unfold StageSound at hstage ⊢
    cases hcase : current.stage with
    | admitted count =>
      rw [hcase] at hstage
      intro owner howner
      obtain ⟨owner', howner', hheld⟩ := h.lock (by rw [hcase]; rfl)
      obtain rfl : owner = owner' := Option.some.inj (howner.symm.trans howner')
      have hle := hactive owner hheld
      obtain ⟨hcount, hmax⟩ := hstage owner howner
      exact ⟨hle.trans hcount, hmax⟩
    | replaying id =>
      rw [hcase] at hstage
      exact HasKeyOf.kept hrows hstage
    | returned id created count =>
      rw [hcase] at hstage
      cases created with
      | true => exact HasIntentOf.kept hrows hstage
      | false => trivial
    | begun | passed | locked | unused | allowed | rolledBack | refused => trivial

theorem Sound.update (h : Sound config board)
    (hrequests : board'.requests = Function.update board.requests request (some next))
    (hkeys : UniqueKey (·.idempotencyKey) board'.offers) (hrows : RowsKept board board')
    (hlock : ∀ other owner, other ≠ request → board.holder owner = some other →
      board'.holder owner = some other)
    (hactive : ∀ other owner, other ≠ request → board.holder owner = some other →
      board'.activeCreatedThere config owner ≤ board.activeCreatedThere config owner)
    (hnext : RequestSound config board' request next) : Sound config board' := by
  refine ⟨?_, hkeys⟩
  intro other current hcurrent
  rw [hrequests] at hcurrent
  by_cases hother : other = request
  · subst hother
    rw [Function.update_self, Option.some.injEq] at hcurrent
    exact hcurrent ▸ hnext
  · rw [Function.update_of_ne hother] at hcurrent
    exact (h.requests other current hcurrent).kept hrows (hlock other · hother)
      (hactive other · hother)

theorem Sound.put (h : Sound config board) (hnext : RequestSound config board request next) :
    Sound config (board.put request next) := by
  refine h.update rfl h.keys (RowsKept.of_subset (List.Subset.refl _)) (fun _ _ _ hheld => hheld)
    (fun _ _ _ _ => le_rfl) ?_
  exact hnext.kept (RowsKept.of_subset (List.Subset.refl _)) (fun _ hheld => hheld)
    (fun _ _ => le_rfl)

@[simp] theorem offers_free (board : Board) (owner : Option Nat) :
    (board.free owner).offers = board.offers := by
  cases owner <;> rfl

@[simp] theorem users_free (board : Board) (owner : Option Nat) :
    (board.free owner).users = board.users := by
  cases owner <;> rfl

@[simp] theorem requests_free (board : Board) (owner : Option Nat) :
    (board.free owner).requests = board.requests := by
  cases owner <;> rfl

theorem holder_free_of_ne {owner other : Nat} (hne : other ≠ owner) :
    (board.free (some owner)).holder other = board.holder other :=
  Function.update_of_ne hne _ _

theorem Sound.finish_of (h : Sound config board) (hcurrent : board.requests request = some current)
    (hholds : current.stage.holdsLock = true) (hends : stage.holdsLock = false)
    (hrequests : board'.requests = board.requests) (hholder : board'.holder = board.holder)
    (hkeys : UniqueKey (·.idempotencyKey) board'.offers) (hrows : RowsKept board board')
    (hactive : ∀ owner, current.command.ownerUserId ≠ some owner →
      board'.activeCreatedThere config owner ≤ board.activeCreatedThere config owner)
    (hstage : StageSound config board' { current with stage := stage }) :
    Sound config (board'.finish request current stage) := by
  have hsound := h.requests request current hcurrent
  obtain ⟨owner, howner, hheld⟩ := hsound.lock hholds
  -- the lock of the request is on its own owner, so that the other locks are on other users
  have hothers : ∀ other owner', other ≠ request → board.holder owner' = some other →
      owner' ≠ owner := by
    rintro other owner' hne hheld' rfl
    exact hne (Option.some.inj (hheld'.symm.trans hheld))
  refine @Sound.update config board _ request { current with stage := stage } h ?_ ?_ ?_ ?_ ?_ ?_
  · simp [Board.finish, Board.put, hrequests]
  · simpa [Board.finish, Board.put] using hkeys
  · simpa [Board.finish, Board.put, RowsKept] using hrows
  · intro other owner' hne hheld'
    have hdiff := hothers other owner' hne hheld'
    rw [Board.finish, howner]
    exact (holder_free_of_ne hdiff).trans (by rw [hholder]; exact hheld')
  · intro other owner' hne hheld'
    have hdiff := hothers other owner' hne hheld'
    have hle := hactive owner' (by rw [howner]; exact fun heq => hdiff (Option.some.inj heq).symm)
    simpa [Board.finish, Board.put, Board.activeCreatedThere] using hle
  · refine ⟨hsound.surface, fun hnow => ?_, ?_⟩
    · rw [hends] at hnow
      exact Bool.noConfusion hnow
    · simpa [StageSound, Board.finish, Board.put, Board.activeCreatedThere, HasKeyOf, HasIntentOf]
        using hstage

theorem Sound.finish (h : Sound config board) (hcurrent : board.requests request = some current)
    (hholds : current.stage.holdsLock = true) (hends : stage.holdsLock = false)
    (hstage : StageSound config board { current with stage := stage }) :
    Sound config (board.finish request current stage) :=
  h.finish_of hcurrent hholds hends rfl rfl h.keys (RowsKept.of_subset (List.Subset.refl _))
    (fun _ _ => le_rfl) hstage

theorem Sound.putStage (h : Sound config board) (hcurrent : board.requests request = some current)
    (hlock : stage.holdsLock = true → current.stage.holdsLock = true)
    (hstage : StageSound config board { current with stage := stage }) :
    Sound config (board.put request { current with stage := stage }) :=
  h.put ⟨(h.requests request current hcurrent).surface,
    fun hholds => (h.requests request current hcurrent).lock (hlock hholds), hstage⟩

/-! ## One step -/

theorem Sound.begin (h : Sound config board) (request : Nat) (command : OfferCreationCommand)
    (policy : OfferCreationQuotaPolicy) :
    Sound config (begin board request command policy) := by
  unfold Creation.begin
  split
  case isTrue hbegin =>
    exact h.put ⟨hbegin.2, fun hholds => Bool.noConfusion hholds, trivial⟩
  case isFalse => exact h

theorem Sound.loadOwner (h : Sound config board) (request : Nat) (again : Bool) :
    Sound config (loadOwner board request again) := by
  unfold Creation.loadOwner
  split
  case h_1 => exact h
  case h_2 current hcurrent =>
    have hsound := h.requests request current hcurrent
    dsimp only
    split
    case h_1 hstage =>
      exact h.put ⟨hsound.surface, fun hholds => by simp [hstage, Stage.holdsLock] at hholds,
        by simp [StageSound, hstage]⟩
    case h_2 hstage =>
      exact h.put ⟨hsound.surface, fun hholds => by simp [hstage, Stage.holdsLock] at hholds,
        by simp [StageSound, hstage]⟩
    case h_3 => exact h

theorem Sound.marketGates (h : Sound config board) (request : Nat) (failure : Option String) :
    Sound config (marketGates board request failure) := by
  unfold Creation.marketGates
  split
  case h_1 => exact h
  case h_2 current hcurrent =>
    split
    case h_1 => exact h.putStage hcurrent (fun hholds => Bool.noConfusion hholds) trivial
    case h_2 => exact h.putStage hcurrent (fun hholds => Bool.noConfusion hholds) trivial
    case h_3 => exact h

/-- The lock step leaves the tables; the request is refused, waits or gets the lock. -/
theorem lockOfferOwner_cases (board : Board) (request : Nat) (fails : Bool) :
    lockOfferOwner board request fails = board ∨
      ∃ current, board.requests request = some current ∧ current.stage = .passed ∧
        ((∃ refusal, lockOfferOwner board request fails =
            board.put request { current with stage := .refused refusal }) ∨
          ∃ owner row, current.command.ownerUserId = some owner ∧ board.holder owner = none ∧
            board.users owner = some row ∧
            lockOfferOwner board request fails =
              { board with holder := Function.update board.holder owner (some request) }.put request
                { current with copy := some (current.copy.getD row), stage := .locked }) := by
  unfold lockOfferOwner
  cases hcurrent : board.requests request with
  | none => exact .inl rfl
  | some current =>
    by_cases hstage : current.stage = .passed
    · simp only [hstage, ne_eq, not_true_eq_false, if_false]
      cases howner : current.command.ownerUserId with
      | none => exact .inr ⟨current, rfl, hstage, .inl ⟨_, rfl⟩⟩
      | some owner =>
        dsimp only
        split_ifs with hmax hfails hheld
        · exact .inr ⟨current, rfl, hstage, .inl ⟨_, rfl⟩⟩
        · exact .inr ⟨current, rfl, hstage, .inl ⟨_, rfl⟩⟩
        · cases hrow : board.users owner with
          | none => exact .inr ⟨current, rfl, hstage, .inl ⟨_, rfl⟩⟩
          | some row =>
            exact .inr ⟨current, rfl, hstage, .inr ⟨owner, row, howner, hheld, hrow, rfl⟩⟩
        · exact .inl rfl
    · simp [hstage]

theorem Sound.lockOfferOwner (h : Sound config board) (request : Nat) (fails : Bool) :
    Sound config (lockOfferOwner board request fails) := by
  obtain hsame | ⟨current, hcurrent, hstage, ⟨refusal, hput⟩ | ⟨owner, row, howner, hfree, -, hput⟩⟩ :=
    lockOfferOwner_cases board request fails
  · rw [hsame]
    exact h
  · rw [hput]
    exact h.putStage hcurrent (fun hholds => Bool.noConfusion hholds) trivial
  · rw [hput]
    have hsound := h.requests request current hcurrent
    refine h.update rfl h.keys (RowsKept.of_subset (List.Subset.refl _)) ?_ (fun _ _ _ _ => le_rfl)
      ⟨hsound.surface, fun _ => ⟨owner, howner, Function.update_self ..⟩, trivial⟩
    intro other owner' _ hheld
    have hne : owner' ≠ owner := by
      rintro rfl
      rw [hfree] at hheld
      cases hheld
    exact (Function.update_of_ne hne _ _).trans hheld

theorem Sound.lookUpKey (h : Sound config board) (request : Nat) :
    Sound config (lookUpKey config board request) := by
  unfold Creation.lookUpKey
  split
  case h_1 => exact h
  case h_2 current hcurrent =>
    split_ifs with hstage
    · exact h
    · have hholds : current.stage.holdsLock = true := by rw [not_not.mp hstage]; rfl
      split
      case h_1 => exact h.putStage hcurrent (fun _ => hholds) trivial
      case h_2 offer hfound =>
        obtain ⟨hoffer, hkey⟩ := offerOfKey_eq_some hfound
        split_ifs with hmatches
        · exact h.putStage hcurrent (fun _ => hholds) ⟨offer, hoffer, rfl, hkey⟩
        · exact h.finish hcurrent hholds rfl trivial

theorem Sound.checkLimits (h : Sound config board) (request : Nat) (now : Int)
    (customerFailure : Option String) :
    Sound config (checkLimits board request now customerFailure) := by
  unfold Creation.checkLimits
  split
  case h_1 => exact h
  case h_2 current hcurrent =>
    split_ifs with hstage
    · exact h
    · have hholds : current.stage.holdsLock = true := by rw [not_not.mp hstage]; rfl
      split
      case h_1 => exact h.finish hcurrent hholds rfl trivial
      case h_2 =>
        split
        case h_1 => exact h.finish hcurrent hholds rfl trivial
        case h_2 => exact h.putStage hcurrent (fun _ => hholds) trivial

theorem activeCreatedThere_le (config : Config) (board : Board) (owner : Nat) :
    board.activeCreatedThere config owner ≤ board.activeOfferCount owner := by
  refine List.countP_mono_left fun offer _ hoffer => ?_
  exact (Bool.and_eq_true_iff.mp hoffer).1

theorem Sound.countActiveOffers (h : Sound config board) (request : Nat) :
    Sound config (countActiveOffers board request) := by
  unfold Creation.countActiveOffers
  split
  case h_1 => exact h
  case h_2 current hcurrent =>
    split_ifs with hstage
    · exact h
    · have hholds : current.stage.holdsLock = true := by rw [not_not.mp hstage]; rfl
      split
      case h_1 => exact h
      case h_2 owner howner =>
        split_ifs with hmax
        · exact h.finish hcurrent hholds rfl trivial
        · refine h.putStage hcurrent (fun _ => hholds) fun owner' howner' => ?_
          obtain rfl : owner = owner' := Option.some.inj (howner.symm.trans howner')
          exact ⟨activeCreatedThere_le config board owner, not_le.mp hmax⟩

/-- The commit ends the request without an offer, or inserts the offer and writes the counter. -/
theorem commitOffer_cases (config : Config) (board : Board) (request : Nat) (current : Request)
    (publicId : String) (refusedByDatabase : Bool) (count : Nat) :
    (∃ stage, stage.holdsLock = false ∧ (∀ id c, stage ≠ .returned id true c) ∧
        (∀ id, stage ≠ .replaying id) ∧
        commitOffer config board request current publicId refusedByDatabase count =
          board.finish request current stage) ∨
      ∃ owner copy stored offer, current.command.ownerUserId = some owner ∧
        current.copy = some copy ∧ board.users owner = some stored ∧
        buildAuthoritativeOffer config.digest current.command publicId board.nextId
          (readPersistedOvertimeMinutes copy) = some offer ∧
        board.offerOfKey current.command = none ∧
        commitOffer config board request current publicId refusedByDatabase count =
          ((board.incrementChannelMessages owner copy stored).insertOffer offer).finish request
            current (.returned offer.id true (some (count + 1))) := by
  unfold commitOffer
  split
  case h_2 => exact .inl ⟨_, rfl, by simp, by simp, rfl⟩
  case h_1 owner copy howner hcopy =>
    split
    case h_2 => exact .inl ⟨_, rfl, by simp, by simp, rfl⟩
    case h_1 stored offer hstored hoffer =>
      split_ifs with hrange hversion hrefused
      · exact .inl ⟨_, rfl, by simp, by simp, rfl⟩
      · exact .inl ⟨_, rfl, by simp, by simp, rfl⟩
      · exact .inl ⟨_, rfl, by simp, by simp, rfl⟩
      · obtain ⟨-, hnone⟩ := not_or.mp hrefused
        rw [Option.not_isSome_iff_eq_none] at hnone
        exact .inr ⟨owner, copy, stored, offer, howner, hcopy, hstored, hoffer, hnone, rfl⟩

@[simp] theorem activeCreatedThere_insertOffer (board : Board) (offer : StoredOffer) (owner : Nat) :
    (board.insertOffer offer).activeCreatedThere config owner =
      board.activeCreatedThere config owner +
        if offer.userId = some owner ∧ offer.status = .active ∧
            offer.homeServer = serverName config.server then 1 else 0 := by
  simp [Board.activeCreatedThere, Board.insertOffer, List.countP_append, and_assoc]

theorem stageSound_of_ne
    (hreturned : ∀ id c, stage ≠ .returned id true c) (hreplaying : ∀ id, stage ≠ .replaying id)
    (hends : stage.holdsLock = false) : StageSound config board { current with stage := stage } := by
  unfold StageSound
  cases stage with
  | admitted => cases hends
  | replaying id => exact absurd rfl (hreplaying id)
  | returned id created count =>
    cases created with
    | true => exact absurd rfl (hreturned id count)
    | false => trivial
  | begun | passed | locked | unused | allowed | rolledBack | refused => trivial

theorem Sound.commitOffer (h : Sound config board)
    (hcurrent : board.requests request = some current) {count : Nat}
    (hstage : current.stage = .admitted count) (publicId : String) (refusedByDatabase : Bool) :
    Sound config (commitOffer config board request current publicId refusedByDatabase count) := by
  have hholds : current.stage.holdsLock = true := by rw [hstage]; rfl
  have hsurface := (h.requests request current hcurrent).surface
  obtain ⟨stage, hends, hreturned, hreplaying, hput⟩ |
      ⟨owner, copy, stored, offer, howner, -, -, hoffer, hnone, hput⟩ :=
    commitOffer_cases config board request current publicId refusedByDatabase count
  · rw [hput]
    exact h.finish hcurrent hholds hends (stageSound_of_ne hreturned hreplaying hends)
  · rw [hput]
    obtain ⟨-, huser, hkey, hintent⟩ := buildAuthoritativeOffer_eq_some hsurface hoffer
    refine h.finish_of hcurrent hholds rfl rfl rfl ?_ ?_ ?_ ?_
    · refine UniqueKey.append h.keys fun key hnew other hother hsame => ?_
      have hfound := offerOfKey_eq h.keys hother (hsame.trans (hnew.symm.trans hkey))
        (by rw [← hkey, hnew]; rfl)
      rw [hnone] at hfound
      cases hfound
    · exact RowsKept.of_subset (List.subset_append_left _ _)
    · intro owner' hother
      rw [activeCreatedThere_insertOffer, if_neg fun hactive => hother (huser ▸ hactive.1)]
      exact le_rfl
    · exact ⟨offer, List.mem_append_right _ (List.mem_singleton_self offer), rfl, hkey, hintent⟩

theorem Sound.commit (h : Sound config board) (request : Nat) (publicId : String)
    (refusedByDatabase : Bool) :
    Sound config (commit config board request publicId refusedByDatabase) := by
  unfold Creation.commit
  split
  case h_1 => exact h
  case h_2 current hcurrent =>
    split
    case h_1 count hstage => exact h.commitOffer hcurrent hstage publicId refusedByDatabase
    case h_2 id hstage => exact h.finish hcurrent (by rw [hstage]; rfl) rfl trivial
    case h_3 => exact h

theorem Sound.recover (h : Sound config board) (request : Nat) :
    Sound config (recover config board request) := by
  unfold Creation.recover
  split
  case h_1 => exact h
  case h_2 current hcurrent =>
    split_ifs with hstage
    · exact h
    · split
      case h_1 => exact h.putStage hcurrent (fun hholds => Bool.noConfusion hholds) trivial
      case h_2 =>
        split_ifs
        · exact h.putStage hcurrent (fun hholds => Bool.noConfusion hholds) trivial
        · exact h.putStage hcurrent (fun hholds => Bool.noConfusion hholds) trivial

theorem Sound.abort (h : Sound config board) (request : Nat) :
    Sound config (abort board request) := by
  unfold Creation.abort
  split
  case h_1 => exact h
  case h_2 current hcurrent =>
    split_ifs with hholds
    · exact h.finish hcurrent hholds rfl trivial
    · split
      case h_4 => exact h
      all_goals exact h.putStage hcurrent (fun hholds => Bool.noConfusion hholds) trivial

theorem Sound.tables (h : Sound config board) (hrequests : board'.requests = board.requests)
    (hholder : board'.holder = board.holder) (hkeys : UniqueKey (·.idempotencyKey) board'.offers)
    (hrows : RowsKept board board') (hactive : ∀ owner,
      board'.activeCreatedThere config owner ≤ board.activeCreatedThere config owner) :
    Sound config board' := by
  refine ⟨fun request current hcurrent => ?_, hkeys⟩
  rw [hrequests] at hcurrent
  exact (h.requests request current hcurrent).kept hrows (fun owner hheld => hholder ▸ hheld)
    fun owner _ => hactive owner

theorem Sound.writeOwner (h : Sound config board) (owner : Nat) (row : OwnerRow) :
    Sound config (writeOwner board owner row) := by
  unfold Creation.writeOwner
  split_ifs
  · exact h.tables rfl rfl h.keys (RowsKept.of_subset (List.Subset.refl _)) fun _ => le_rfl
  · exact h

theorem Sound.changeOffer (h : Sound config board) (id : Nat) (remainingQuantity : Option Int)
    (lotSizes : Option (List Int)) (status : OfferStatus) :
    Sound config (changeOffer config board id remainingQuantity lotSizes status) := by
  refine h.tables rfl rfl ?_ ?_ ?_
  · refine UniqueKey.map h.keys fun offer _ => ?_
    split_ifs <;> rfl
  · intro offer hoffer
    refine ⟨_, List.mem_map_of_mem hoffer, ?_⟩
    split_ifs <;> exact ⟨rfl, rfl, rfl, rfl⟩
  · intro owner
    rw [Board.activeCreatedThere, Board.activeCreatedThere, Creation.changeOffer, List.countP_map]
    refine List.countP_mono_left fun offer _ hoffer => ?_
    -- only an active offer, or one of the other server, is written
    rw [Function.comp_apply] at hoffer
    split_ifs at hoffer with hchanged
    · simp only [Bool.and_eq_true, decide_eq_true_eq] at hoffer ⊢
      obtain ⟨-, hactive | hhome⟩ := hchanged
      · exact ⟨⟨hoffer.1.1, hactive⟩, hoffer.2⟩
      · exact absurd hoffer.2 hhome
    · exact hoffer

theorem Sound.mirrorOffer (h : Sound config board) (offer : StoredOffer) :
    Sound config (mirrorOffer config board offer) := by
  unfold Creation.mirrorOffer
  split_ifs with hmirror
  · refine h.tables rfl rfl ?_ (RowsKept.of_subset (List.subset_append_left _ _)) fun owner => ?_
    · have hunique := hmirror.2
      rw [UniqueKey, List.filterMap_append] at hunique
      rw [UniqueKey, Board.insertOffer, List.filterMap_append]
      exact hunique
    · rw [activeCreatedThere_insertOffer, if_neg fun hactive => hmirror.1 hactive.2.2]
      exact le_rfl
  · exact h

theorem sound_step (config : Config) (board : Board) (op : Operation) (h : Sound config board) :
    Sound config (step config board op) := by
  cases op with
  | begin request command policy => exact h.begin request command policy
  | load request again => exact h.loadOwner request again
  | gates request failure => exact h.marketGates request failure
  | lock request fails => exact h.lockOfferOwner request fails
  | lookUp request => exact h.lookUpKey request
  | limits request now customerFailure => exact h.checkLimits request now customerFailure
  | count request => exact h.countActiveOffers request
  | commit request publicId refusedByDatabase => exact h.commit request publicId refusedByDatabase
  | recover request => exact h.recover request
  | abort request => exact h.abort request
  | writeOwner owner row => exact h.writeOwner owner row
  | changeOffer id remainingQuantity lotSizes status =>
    exact h.changeOffer id remainingQuantity lotSizes status
  | mirror offer => exact h.mirrorOffer offer

/-! ## What a step does to the requests -/

def TakesLock (board : Board) (op : Operation) (request : Nat) (current : Request)
    (copy : Option OwnerRow) : Prop :=
  current.stage = .passed ∧ ∃ fails owner row, op = .lock request fails ∧
    current.command.ownerUserId = some owner ∧ board.holder owner = none ∧
    board.users owner = some row ∧ copy = some (current.copy.getD row)

/-- The requests after a step: as before, with a new one, or with one that moved on. Only a commit
returns a created offer, and under the lock the copy of the owner's row stays. -/
inductive RequestsMoved (board : Board) (op : Operation) (requests : Nat → Option Request) : Prop
  | same (hsame : requests = board.requests)
  | begun (request : Nat) (command : OfferCreationCommand) (policy : OfferCreationQuotaPolicy)
      (hop : op = .begin request command policy)
      (hnext : requests = Function.update board.requests request
        (some { command := command, policy := policy }))
  | moved (request : Nat) (current : Request) (copy : Option OwnerRow) (stage : Stage)
      (hcurrent : board.requests request = some current)
      (hnext : requests = Function.update board.requests request
        (some { current with copy := copy, stage := stage }))
      (hcreated : ∀ id count, stage = .returned id true count →
        current.stage ≠ .returned id true count →
        ∃ publicId refusedByDatabase, op = .commit request publicId refusedByDatabase)
      (hlock : stage.holdsLock = true →
        current.stage.holdsLock = true ∧ copy = current.copy ∨
          TakesLock board op request current copy)

theorem RequestsMoved.put (hcurrent : board.requests request = some current)
    (hstage : ∀ id count, stage ≠ .returned id true count)
    (hlock : stage.holdsLock = true → current.stage.holdsLock = true) :
    RequestsMoved board op (board.put request { current with stage := stage }).requests :=
  .moved request current current.copy stage hcurrent rfl
    (fun id count heq _ => absurd heq (hstage id count)) fun hholds => .inl ⟨hlock hholds, rfl⟩

theorem requests_put (board : Board) (request : Nat) (next : Request) :
    (board.put request next).requests request = some next :=
  Function.update_self ..

theorem requests_finish (board : Board) (request : Nat) (current : Request) (stage : Stage) :
    (board.finish request current stage).requests =
      (board.put request { current with stage := stage }).requests := by
  simp [Board.finish, Board.put]

theorem RequestsMoved.finish (hcurrent : board.requests request = some current)
    (hstage : ∀ id count, stage ≠ .returned id true count) (hends : stage.holdsLock = false) :
    RequestsMoved board op (board.finish request current stage).requests := by
  rw [requests_finish]
  exact .put hcurrent hstage fun hholds => by rw [hends] at hholds; cases hholds

theorem requests_commit (config : Config) (board : Board) (request : Nat) (publicId : String)
    (refusedByDatabase : Bool) :
    RequestsMoved board (.commit request publicId refusedByDatabase)
      (commit config board request publicId refusedByDatabase).requests := by
  unfold commit
  split
  case h_1 => exact .same rfl
  case h_2 current hcurrent =>
    split
    case h_1 count hstage =>
      obtain ⟨stage, hends, hreturned, -, hput⟩ |
          ⟨owner, copy, stored, offer, -, -, -, -, -, hput⟩ :=
        commitOffer_cases config board request current publicId refusedByDatabase count
      · rw [hput]
        exact .finish hcurrent hreturned hends
      · rw [hput, requests_finish]
        exact .moved request current current.copy _ hcurrent rfl (fun _ _ _ _ => ⟨_, _, rfl⟩)
          fun hholds => Bool.noConfusion hholds
    case h_2 => exact .finish hcurrent (by simp) rfl
    case h_3 => exact .same rfl

theorem requests_loadOwner (board : Board) (request : Nat) (again : Bool) :
    RequestsMoved board (.load request again) (loadOwner board request again).requests := by
  dsimp only [loadOwner]
  split
  case h_1 => exact .same rfl
  case h_2 current hcurrent =>
    split
    case h_3 => exact .same rfl
    all_goals
      next hstage =>
        exact .moved request current _ current.stage hcurrent rfl
          (fun _ _ heq hne => absurd heq hne) fun hholds => by rw [hstage] at hholds; cases hholds

theorem requests_marketGates (board : Board) (request : Nat) (failure : Option String) :
    RequestsMoved board (.gates request failure) (marketGates board request failure).requests := by
  dsimp only [marketGates]
  split
  case h_1 => exact .same rfl
  case h_2 current hcurrent =>
    split
    case h_3 => exact .same rfl
    all_goals exact .put hcurrent (by simp) (fun hholds => Bool.noConfusion hholds)

theorem requests_lockOfferOwner (board : Board) (request : Nat) (fails : Bool) :
    RequestsMoved board (.lock request fails) (lockOfferOwner board request fails).requests := by
  obtain hsame | ⟨current, hcurrent, hstage, ⟨refusal, hput⟩ |
      ⟨owner, row, howner, hfree, hrow, hput⟩⟩ := lockOfferOwner_cases board request fails
  · exact .same (congrArg Board.requests hsame)
  · rw [hput]
    exact .put hcurrent (by simp) (fun hholds => Bool.noConfusion hholds)
  · rw [hput]
    exact .moved request current _ .locked hcurrent rfl (fun _ _ heq _ => by cases heq)
      fun _ => .inr ⟨hstage, fails, owner, row, rfl, howner, hfree, hrow, rfl⟩

theorem requests_lookUpKey (config : Config) (board : Board) (request : Nat) :
    RequestsMoved board (.lookUp request) (lookUpKey config board request).requests := by
  dsimp only [lookUpKey]
  split
  case h_1 => exact .same rfl
  case h_2 current hcurrent =>
    split_ifs with hstage
    · exact .same rfl
    · have hholds : current.stage.holdsLock = true := by rw [not_not.mp hstage]; rfl
      split
      case h_1 => exact .put hcurrent (by simp) (fun _ => hholds)
      case h_2 =>
        split_ifs
        · exact .put hcurrent (by simp) (fun _ => hholds)
        · exact .finish hcurrent (by simp) rfl

theorem requests_checkLimits (board : Board) (request : Nat) (now : Int)
    (customerFailure : Option String) :
    RequestsMoved board (.limits request now customerFailure)
      (checkLimits board request now customerFailure).requests := by
  dsimp only [checkLimits]
  split
  case h_1 => exact .same rfl
  case h_2 current hcurrent =>
    split_ifs with hstage
    · exact .same rfl
    · have hholds : current.stage.holdsLock = true := by rw [not_not.mp hstage]; rfl
      split
      case h_1 => exact .finish hcurrent (by simp) rfl
      case h_2 =>
        split
        case h_1 => exact .finish hcurrent (by simp) rfl
        case h_2 => exact .put hcurrent (by simp) (fun _ => hholds)

theorem requests_countActiveOffers (board : Board) (request : Nat) :
    RequestsMoved board (.count request) (countActiveOffers board request).requests := by
  dsimp only [countActiveOffers]
  split
  case h_1 => exact .same rfl
  case h_2 current hcurrent =>
    split_ifs with hstage
    · exact .same rfl
    · have hholds : current.stage.holdsLock = true := by rw [not_not.mp hstage]; rfl
      split
      case h_1 => exact .same rfl
      case h_2 =>
        split_ifs
        · exact .finish hcurrent (by simp) rfl
        · exact .put hcurrent (by simp) (fun _ => hholds)

theorem requests_recover (config : Config) (board : Board) (request : Nat) :
    RequestsMoved board (.recover request) (recover config board request).requests := by
  dsimp only [recover]
  split
  case h_1 => exact .same rfl
  case h_2 current hcurrent =>
    split_ifs
    · exact .same rfl
    · split
      case h_1 => exact .put hcurrent (by simp) (fun hholds => Bool.noConfusion hholds)
      case h_2 =>
        split_ifs <;> exact .put hcurrent (by simp) (fun hholds => Bool.noConfusion hholds)

theorem requests_abort (board : Board) (request : Nat) :
    RequestsMoved board (.abort request) (abort board request).requests := by
  dsimp only [abort]
  split
  case h_1 => exact .same rfl
  case h_2 current hcurrent =>
    split_ifs
    · exact .finish hcurrent (by simp) rfl
    · split
      case h_4 => exact .same rfl
      all_goals exact .put hcurrent (by simp) (fun hholds => Bool.noConfusion hholds)

theorem requests_step (config : Config) (board : Board) (op : Operation) :
    RequestsMoved board op (step config board op).requests := by
  cases op with
  | begin request command policy =>
    dsimp only [step, begin]
    split_ifs
    · exact .begun request command policy rfl rfl
    · exact .same rfl
  | load request again => exact requests_loadOwner board request again
  | gates request failure => exact requests_marketGates board request failure
  | lock request fails => exact requests_lockOfferOwner board request fails
  | lookUp request => exact requests_lookUpKey config board request
  | limits request now customerFailure =>
    exact requests_checkLimits board request now customerFailure
  | count request => exact requests_countActiveOffers board request
  | commit request publicId refusedByDatabase =>
    exact requests_commit config board request publicId refusedByDatabase
  | recover request => exact requests_recover config board request
  | abort request => exact requests_abort board request
  | writeOwner owner row =>
    dsimp only [step, writeOwner]
    split_ifs <;> exact .same rfl
  | changeOffer => exact .same rfl
  | mirror offer =>
    dsimp only [step, mirrorOffer]
    split_ifs <;> exact .same rfl

end TradingBot.Creation
