import TradingBot.Sync.UserPatches

/-!
# Both servers have the same user

The worker sends no patch of a user before the older ones are delivered. A resync sends batches, and
goes on after one that failed. As long as the peer takes no patch from a batch before the older
ones, its row is that of the Iran server once all patches are delivered.
-/

namespace TradingBot.Sync

open TradingBot.Misc

/-- A batch of which the peer takes a patch of the user holds every older one it has not seen, and
it takes these too. -/
def OlderFirst (config : SenderConfig) (userId : Int) (world : UserWorld) : UserOperation → Prop
  | .deliverBatch index (.received refuses _) =>
    ∀ session ∈ world.outbox.sessions[index]?, ∀ sent ∈ session.batch,
      isUserPatch userId sent = true → acceptsPatch refuses sent = true →
      ∀ older ∈ world.outbox.rows, isUserPatch userId older = true → older.id < sent.id →
        (older.id : Int) ≤ world.peer.reached config userId ∨
          ∃ row ∈ session.batch, row.id = older.id ∧ acceptsPatch refuses row = true
  | _ => True

instance OlderFirst.decidable (config : SenderConfig) (userId : Int) (world : UserWorld) :
    ∀ op, Decidable (OlderFirst config userId world op)
  | .deliverBatch index (.received refuses _) => inferInstanceAs (Decidable
      (∀ session ∈ world.outbox.sessions[index]?, ∀ sent ∈ session.batch,
        isUserPatch userId sent = true → acceptsPatch refuses sent = true →
        ∀ older ∈ world.outbox.rows, isUserPatch userId older = true → older.id < sent.id →
          (older.id : Int) ≤ world.peer.reached config userId ∨
            ∃ row ∈ session.batch, row.id = older.id ∧ acceptsPatch refuses row = true))
  | .deliverBatch _ .unreachable | .deliverBatch _ .rolledBack | .update _ _ _
  | .touchLastSeen _ _ | .logChange _ | .sendNext _ | .dispatchOffer _ _ | .deliver _ _ _ _
  | .startResync _ _ _ | .commitResync _ | .abandonResync _ => inferInstanceAs (Decidable True)

def Known (userId : Int) (rows : List ChangeLogRow) (sent : ChangeLogRow) : Prop :=
  ∃ row ∈ rows, row.id = sent.id ∧ row.data = sent.data ∧
    isUserPatch userId row = isUserPatch userId sent

section Rows

variable {userId : Int} {rows rows' : List ChangeLogRow} {sent row : ChangeLogRow}
  {p : ChangeLogRow → Prop}

theorem SameChange.isUserPatch {row' : ChangeLogRow} (h : SameChange row row') :
    isUserPatch userId row' = isUserPatch userId row := by
  rw [Sync.isUserPatch, Sync.isUserPatch, h.tableName, h.recordId, h.data]

theorem mem_userChanges {change : Nat × Json} :
    change ∈ userChanges userId rows ↔
      ∃ row ∈ rows, isUserPatch userId row = true ∧ (row.id, row.data) = change := by
  rw [userChanges, List.mem_map]
  constructor
  · rintro ⟨row, hmem, hrow⟩
    obtain ⟨hmem, hpatch⟩ := List.mem_filter.mp hmem
    exact ⟨row, hmem, hpatch, hrow⟩
  · rintro ⟨row, hmem, hpatch, hrow⟩
    exact ⟨row, List.mem_filter.mpr ⟨hmem, hpatch⟩, hrow⟩

theorem MarksOnly.userChanges (h : MarksOnly p rows rows') :
    userChanges userId rows' = userChanges userId rows := by
  obtain ⟨update, rfl, hupdate⟩ := h
  rw [Sync.userChanges, Sync.userChanges, List.filter_map, List.map_map]
  have hfilter : rows.filter (isUserPatch userId ∘ update) = rows.filter (isUserPatch userId) := by
    refine List.filter_congr fun row _ => ?_
    exact (hupdate row).1.isUserPatch
  rw [hfilter]
  refine List.map_congr_left fun row _ => ?_
  rw [Function.comp_apply, (hupdate row).1.id, (hupdate row).1.data]

theorem MarksOnly.ids (h : MarksOnly p rows rows') : rows'.map (·.id) = rows.map (·.id) := by
  obtain ⟨update, rfl, hupdate⟩ := h
  rw [List.map_map]
  exact List.map_congr_left fun row _ => (hupdate row).1.id

theorem Known.marksOnly (h : Known userId rows sent) (hmarks : MarksOnly p rows rows') :
    Known userId rows' sent := by
  obtain ⟨row, hmem, hid, hdata, hpatch⟩ := h
  obtain ⟨update, rfl, hupdate⟩ := hmarks
  have hsame := (hupdate row).1
  exact ⟨update row, List.mem_map_of_mem hmem, hsame.id.trans hid, hsame.data.trans hdata,
    hsame.isUserPatch.trans hpatch⟩

theorem Known.append (h : Known userId rows sent) (more : List ChangeLogRow) :
    Known userId (rows ++ more) sent := by
  obtain ⟨row, hmem, hrow⟩ := h
  exact ⟨row, List.mem_append_left _ hmem, hrow⟩

theorem Known.of_mem (hmem : sent ∈ rows) : Known userId rows sent := ⟨sent, hmem, rfl, rfl, rfl⟩

theorem Known.change (h : Known userId rows sent) (hpatch : isUserPatch userId sent = true) :
    (sent.id, sent.data) ∈ userChanges userId rows := by
  obtain ⟨row, hmem, hid, hdata, hsame⟩ := h
  exact mem_userChanges.mpr ⟨row, hmem, hsame.trans hpatch, by rw [hid, hdata]⟩

theorem Known.isUserPatch_eq (h : Known userId rows sent) (hids : (rows.map (·.id)).Nodup)
    (hmem : row ∈ rows) (hid : row.id = sent.id) :
    isUserPatch userId row = isUserPatch userId sent := by
  obtain ⟨found, hfound, hfoundId, -, hsame⟩ := h
  rw [List.inj_on_of_nodup_map hids hmem hfound (hid.trans hfoundId.symm)]
  exact hsame

end Rows

/-! ## The answers of the peer -/

section Answers

variable {config : SenderConfig} {userId : Int} {peer : UserPeer} {item : SyncItem}
  {refuses : Nat → Option String} {count : Nat} {errors : List ErrorItem} {errorItem : ErrorItem}

theorem UserPeer.no_errors_of_success
    (h : peerResponseIsSuccess (UserPeer.answer count errors) = some true) : errors = [] := by
  cases errors with
  | nil => rfl
  | cons error errors =>
    unfold peerResponseIsSuccess UserPeer.answer at h
    simp only [ne_eq, not_true_eq_false, if_false, List.isEmpty_cons, Bool.false_eq_true] at h
    split at h
    · cases h
    · cases h
    · simp [Value.unhashable] at h

theorem UserPeer.errors_of_rejectionDetail
    (h : singleItemPartialRejectionDetail (UserPeer.answer count errors) = some (some errorItem)) :
    errors = [errorItem] := by
  unfold singleItemPartialRejectionDetail UserPeer.answer at h
  cases errors with
  | nil => cases h
  | cons error errors =>
    simp only [ne_eq, not_true_eq_false, if_false, List.isEmpty_cons, Bool.false_eq_true] at h
    split at h
    · cases h
    · cases h
    · split at h
      · cases h
      · cases h
      · split at h
        · cases h
        · split at h
          · next found hlist =>
            cases h
            simp only [ErrorItems.list.injEq, List.map_cons, List.cons.injEq, Option.some.injEq,
              List.map_eq_nil_iff] at hlist
            rw [hlist.1, hlist.2]
          · cases h

theorem UserPeer.not_terminal_of_error (htable : item.table = .text "users")
    (h : (receiveItem config userId refuses peer item).2 = some errorItem) :
    terminalPolicyRejectionReason errorItem = none := by
  obtain ⟨reason, hreason, rfl⟩ : ∃ reason, reason ≠ "policy_forbidden:no-sync" ∧
      errorItem = errorDetail item reason := by
    unfold UserPeer.receiveItem at h
    split at h
    · next reason hrefusal =>
      refine ⟨reason, ?_, (Option.some.inj h).symm⟩
      unfold UserPeer.refusal at hrefusal
      split at hrefusal
      · cases hrefusal
      · have hfilter := (Option.filter_eq_some_iff.mp hrefusal).2
        rw [htable] at hfilter
        simpa only [beq_self_eq_true, Bool.true_and, Bool.not_eq_true', beq_eq_false_iff_ne]
          using hfilter
    · split at h
      · split at h
        · cases h
        · cases h
        · exact ⟨_, by decide, (Option.some.inj h).symm⟩
        · dsimp only at h
          split at h <;> cases h
      · cases h
  rw [terminalPolicyRejectionReason, errorDetail]
  dsimp only
  rw [if_neg hreason, htable]
  dsimp only
  rw [if_neg]
  intro hauthority
  exact absurd hauthority.2 (by decide)

theorem UserPeer.no_errors_of_marksItem (htable : item.table = .text "users")
    (h : marksItem (answer count (receiveItems config userId refuses peer [item]).2) item = true) :
    (receiveItems config userId refuses peer [item]).2 = [] := by
  rw [marksItem, Bool.or_eq_true, beq_iff_eq] at h
  rcases h with hsuccess | hterminal
  · exact no_errors_of_success hsuccess
  · obtain ⟨detail, hdetail, hsome⟩ := (Option.any_eq_true _ _).mp hterminal
    obtain ⟨errorItem, rfl⟩ := Option.isSome_iff_exists.mp hsome
    unfold terminalPolicyRejectionDetailForItem at hdetail
    split at hdetail
    · cases hdetail
    · cases hdetail
    · next found hfound =>
      split at hdetail
      · next hreason =>
        have herrors := errors_of_rejectionDetail hfound
        rw [receiveItems, receiveItems, List.append_nil] at herrors
        have herror : (receiveItem config userId refuses peer item).2 = some found := by
          cases hreceived : (receiveItem config userId refuses peer item).2 with
          | none =>
            rw [hreceived] at herrors
            cases herrors
          | some other =>
            rw [hreceived] at herrors
            exact congrArg some (List.cons.inj herrors).1
        rw [not_terminal_of_error htable herror] at hreason
        cases hreason
      · cases hdetail

end Answers

/-- The patches are in sequence, the Iran server has applied all of them and the peer a first part;
what is synced the peer has seen, the older patches of one on its way too, and a resync will mark
only such. -/
structure UserWorld.Kept (config : SenderConfig) (userId first : Int) (start : String → Json)
    (world : UserWorld) : Prop where
  ids : (world.outbox.rows.map (·.id)).Nodup
  sequence : InSequence userId first (userChanges userId world.outbox.rows)
  bounded : first ≤ world.syncVersion ∧
    ∀ change ∈ userChanges userId world.outbox.rows, versionOf change.2 ≤ world.syncVersion
  fields : ∀ key ∈ userSyncFields,
    world.fields key = patched start (userChanges userId world.outbox.rows) key
  peer : world.peer.InOrder config userId first start (userChanges userId world.outbox.rows)
  synced : ∀ row ∈ world.outbox.rows, isUserPatch userId row = true → row.synced = true →
    (row.id : Int) ≤ world.peer.reached config userId
  requests : ∀ request ∈ world.outbox.inFlight, ∃ sent,
    changeLogEntryToSyncItem config sent = some request.item ∧
    Known userId world.outbox.rows sent ∧
    (isUserPatch userId sent = true → ∀ change ∈ userChanges userId world.outbox.rows,
      change.1 < sent.id → (change.1 : Int) ≤ world.peer.reached config userId)
  entries : ∀ session ∈ world.outbox.sessions,
    session.remaining.Pairwise (fun earlier later => earlier.id < later.id) ∧
    ∀ sent ∈ session.remaining, Known userId world.outbox.rows sent
  marks : ∀ session ∈ world.outbox.sessions, ∀ id ∈ session.synced,
    ∃ sent, sent.id = id ∧ Known userId world.outbox.rows sent ∧
      (isUserPatch userId sent = true → (id : Int) ≤ world.peer.reached config userId)

namespace UserWorld.Kept

variable {config : SenderConfig} {userId first now : Int} {start : String → Json}
  {world : UserWorld} {changed : List (String × Json)} {row : ChangeLogRow} {id index : Nat}
  {delivery : Delivery}

theorem initial (config : SenderConfig) (userId first : Int) (start : String → Json) :
    Kept config userId first start (UserWorld.start start first) where
  ids := List.nodup_nil
  sequence := ⟨List.Pairwise.nil, fun _ h => by cases h⟩
  bounded := ⟨Int.le_refl _, fun _ h => by cases h⟩
  fields := fun _ _ => rfl
  peer := ⟨rfl, .inl ⟨rfl, rfl⟩⟩
  synced := fun _ h => by cases h
  requests := fun _ h => by cases h
  entries := fun _ h => by cases h
  marks := fun _ h => by cases h

theorem withPeer (h : Kept config userId first start world) {peer : UserPeer}
    (hpeer : peer.InOrder config userId first start (userChanges userId world.outbox.rows))
    (hle : world.peer.reached config userId ≤ peer.reached config userId) :
    Kept config userId first start { world with peer } where
  ids := h.ids
  sequence := h.sequence
  bounded := h.bounded
  fields := h.fields
  peer := hpeer
  synced := fun row hmem hpatch hsynced => Int.le_trans (h.synced row hmem hpatch hsynced) hle
  requests := fun request hmem => by
    obtain ⟨sent, hitem, hknown, hbefore⟩ := h.requests request hmem
    exact ⟨sent, hitem, hknown, fun hpatch change hchange hlt =>
      Int.le_trans (hbefore hpatch change hchange hlt) hle⟩
  entries := h.entries
  marks := fun session hmem id hid => by
    obtain ⟨sent, hsent, hknown, hseen⟩ := h.marks session hmem id hid
    exact ⟨sent, hsent, hknown, fun hpatch => Int.le_trans (hseen hpatch) hle⟩

theorem withMarks (h : Kept config userId first start world) {p : ChangeLogRow → Prop}
    {outbox : Outbox} (hrows : MarksOnly p world.outbox.rows outbox.rows)
    (hmarks : ∀ row ∈ world.outbox.rows, isUserPatch userId row = true → p row →
      (row.id : Int) ≤ world.peer.reached config userId)
    (hinFlight : ∀ request ∈ outbox.inFlight, request ∈ world.outbox.inFlight)
    (hsessions : ∀ session ∈ outbox.sessions, session ∈ world.outbox.sessions) :
    Kept config userId first start { world with outbox } := by
  have hchanges := @MarksOnly.userChanges userId _ _ _ hrows
  refine ⟨?_, ?_, ?_, ?_, ?_, ?_, ?_, ?_, ?_⟩
  · rw [hrows.ids]
    exact h.ids
  · rw [hchanges]
    exact h.sequence
  · rw [hchanges]
    exact h.bounded
  · rw [hchanges]
    exact h.fields
  · rw [hchanges]
    exact h.peer
  · intro row hmem hpatch hsynced
    obtain ⟨old, hold, hsame, hbefore⟩ := hrows.of_mem hmem hsynced
    rw [hsame.isUserPatch] at hpatch
    rw [hsame.id]
    rcases hbefore with hbefore | ⟨-, hmarked⟩
    · exact h.synced old hold hpatch hbefore
    · exact hmarks old hold hpatch hmarked
  · intro request hmem
    obtain ⟨sent, hitem, hknown, hbefore⟩ := h.requests request (hinFlight request hmem)
    rw [hchanges]
    exact ⟨sent, hitem, hknown.marksOnly hrows, hbefore⟩
  · intro session hmem
    obtain ⟨hsorted, hknown⟩ := h.entries session (hsessions session hmem)
    exact ⟨hsorted, fun sent hsent => (hknown sent hsent).marksOnly hrows⟩
  · intro session hmem id hid
    obtain ⟨sent, hsent, hknown, hseen⟩ := h.marks session (hsessions session hmem) id hid
    exact ⟨sent, hsent, hknown.marksOnly hrows, hseen⟩

/-! ### Changes are logged -/

theorem userChanges_append (rows : List ChangeLogRow) (row : ChangeLogRow) :
    userChanges userId (rows ++ [row]) =
      userChanges userId rows ++ if isUserPatch userId row then [(row.id, row.data)] else [] := by
  rw [userChanges, List.filter_append, List.map_append]
  cases hpatch : isUserPatch userId row with
  | true => simp [userChanges, hpatch]
  | false => simp [userChanges, hpatch]

theorem nodup_append {rows : List ChangeLogRow} (hids : (rows.map (·.id)).Nodup)
    (hfresh : row.id ∉ rows.map (·.id)) :
    ((rows ++ [row]).map (·.id)).Nodup := by
  rw [List.map_append, List.map_singleton, ← List.concat_eq_append]
  exact hids.concat hfresh

theorem fields_append {changes : List (Nat × Json)} {fields : String → Json}
    (hfields : ∀ key ∈ userSyncFields, fields key = patched start changes key)
    {version : Int} (hlastSeen : nullableGreatest (fields "last_seen_at")
        ((Json.member? changed "last_seen_at").getD .null) =
      (Json.member? changed "last_seen_at").getD (fields "last_seen_at")) :
    ∀ key ∈ userSyncFields, (Json.member? changed key).getD (fields key) =
      patched start (changes ++ [(id, patchData userId changed version now)]) key := by
  intro key hkey
  rw [patched, List.foldl_append, List.foldl_cons, List.foldl_nil]
  change _ = patchFields (patched start changes) (patchData userId changed version now) key
  unfold patchFields patchData fieldOf
  dsimp only
  rw [member?_patch hkey, ← hfields key hkey]
  by_cases hseen : key = "last_seen_at"
  · subst hseen
    rw [if_pos rfl, hlastSeen]
  · obtain ⟨hid, hversion, -, hcreated, hidentity, -⟩ := userSyncFields_ne hkey
    have hnot : key ∉ ["id", "created_at", "sync_version", "_sync_identity"] := by
      simp only [List.mem_cons, List.not_mem_nil, or_false, not_or]
      exact ⟨hid, hcreated, hversion, hidentity⟩
    rw [if_neg hseen, if_neg hnot]

theorem appendPatch (h : Kept config userId first start world)
      (hpatch : isUserPatch userId row = true)
    (hdata : row.data = patchData userId changed (world.syncVersion + 1) now)
    (hunsynced : row.synced = false) (hfresh : row.id ∉ world.outbox.rows.map (·.id))
    (hlater : ∀ other ∈ world.outbox.rows, isUserPatch userId other = true → other.id < row.id)
    (hchanged : ∀ change ∈ changed, change.1 ∈ userSyncFields)
    (hlastSeen : nullableGreatest (world.fields "last_seen_at")
        ((Json.member? changed "last_seen_at").getD .null) =
      (Json.member? changed "last_seen_at").getD (world.fields "last_seen_at")) :
    Kept config userId first start
      { world with
        fields := fun key => (Json.member? changed key).getD (world.fields key)
        syncVersion := world.syncVersion + 1
        outbox := { world.outbox with rows := world.outbox.rows ++ [row] } } := by
  have hpositive := row.positive
  have hversion : versionOf (patchData userId changed (world.syncVersion + 1) now) =
      world.syncVersion + 1 := by
    rw [versionOf, fieldOf_patchData_version]
  have hchanges : ∀ change ∈ userChanges userId world.outbox.rows, change.1 < row.id := by
    intro change hchange
    obtain ⟨other, hmem, hother, rfl⟩ := mem_userChanges.mp hchange
    exact hlater other hmem hother
  have hreached : world.peer.reached config userId < row.id := by
    rcases h.peer.last with ⟨hzero, -⟩ | ⟨change, hchange, hreached, -⟩
    · omega
    · have hlt := hchanges change hchange
      omega
  have happend : userChanges userId (world.outbox.rows ++ [row]) =
      userChanges userId world.outbox.rows ++
        [(row.id, patchData userId changed (world.syncVersion + 1) now)] := by
    rw [userChanges_append, hpatch, if_pos rfl, hdata]
  refine ⟨nodup_append h.ids hfresh, ?_, ?_, ?_, ?_, ?_, ?_, ?_, ?_⟩
  · dsimp only
    rw [happend]
    refine ⟨List.pairwise_append.mpr ⟨h.sequence.increasing, List.pairwise_singleton _ _, ?_⟩, ?_⟩
    · intro change hchange new hnew
      rw [List.mem_singleton.mp hnew]
      have hle := h.bounded.2 change hchange
      exact ⟨hchanges change hchange, by rw [hversion]; omega⟩
    · intro change hchange
      rcases List.mem_append.mp hchange with hold | hnew
      · exact h.sequence.patches change hold
      · rw [List.mem_singleton.mp hnew]
        have hle := h.bounded.1
        exact ⟨hpositive, by rw [hversion]; omega, changed, world.syncVersion + 1, now, rfl,
          hchanged⟩
  · dsimp only
    rw [happend]
    refine ⟨Int.le_trans h.bounded.1 (by omega), fun change hchange => ?_⟩
    rcases List.mem_append.mp hchange with hold | hnew
    · exact Int.le_trans (h.bounded.2 change hold) (by omega)
    · rw [List.mem_singleton.mp hnew, hversion]
  · dsimp only
    rw [happend]
    exact fields_append h.fields hlastSeen
  · dsimp only
    rw [happend]
    refine ⟨?_, h.peer.last.imp_right ?_⟩
    · rw [List.filter_append, List.filter_cons_of_neg, List.filter_nil, List.append_nil]
      · exact h.peer.fields
      · rw [decide_eq_true_eq]
        omega
    · rintro ⟨change, hchange, hlast⟩
      exact ⟨change, List.mem_append_left _ hchange, hlast⟩
  · intro other hmem hother hsynced
    rcases List.mem_append.mp hmem with hold | hnew
    · exact h.synced other hold hother hsynced
    · rw [List.mem_singleton.mp hnew, hunsynced] at hsynced
      cases hsynced
  · intro request hmem
    obtain ⟨sent, hitem, hknown, hbefore⟩ := h.requests request hmem
    refine ⟨sent, hitem, hknown.append [row], fun hsent => ?_⟩
    dsimp only
    rw [happend]
    intro change hchange hlt
    rcases List.mem_append.mp hchange with hold | hnew
    · exact hbefore hsent change hold hlt
    · -- the new patch is not an older one
      rw [List.mem_singleton.mp hnew] at hlt
      have hless := hchanges _ (hknown.change hsent)
      dsimp only at hlt hless
      omega
  · intro session hmem
    obtain ⟨hsorted, hknown⟩ := h.entries session hmem
    exact ⟨hsorted, fun sent hsent => (hknown sent hsent).append [row]⟩
  · intro session hmem id hid
    obtain ⟨sent, hsent, hknown, hseen⟩ := h.marks session hmem id hid
    exact ⟨sent, hsent, hknown.append [row], hseen⟩

theorem logPatch (h : Kept config userId first start world)
    (hchanged : ∀ change ∈ changed, change.1 ∈ userSyncFields)
    (hlastSeen : nullableGreatest (world.fields "last_seen_at")
        ((Json.member? changed "last_seen_at").getD .null) =
      (Json.member? changed "last_seen_at").getD (world.fields "last_seen_at")) :
    Kept config userId first start (world.logPatch config userId id changed now) := by
  unfold UserWorld.logPatch
  split
  · next hguard =>
    obtain ⟨-, hfresh, hlater⟩ := hguard
    have hevent : isUserCounterEvent
        (patchData userId changed (world.syncVersion + 1) now) = false := by
      rw [isUserCounterEvent, fieldOf_patchData_eq_null hchanged (by decide) (by decide)]
    dsimp only
    rw [Outbox.logChange, if_pos ⟨rfl, hfresh⟩]
    refine h.appendPatch ?_ rfl rfl hfresh hlater hchanged hlastSeen
    simp only [isUserPatch, beq_self_eq_true, hevent, Bool.not_false, Bool.and_self]
  · exact h

theorem nullableGreatest_null (value : Json) : nullableGreatest value .null = value := by
  cases value <;> rfl

theorem update (h : Kept config userId first start world) (id : Nat)
    (changed : List (String × Json)) (now : Int) :
    Kept config userId first start (world.update config userId id changed now) := by
  unfold UserWorld.update
  split
  · next hallowed =>
    refine h.logPatch (fun change hchange => List.mem_cons_of_mem _ (hallowed.2 change hchange)) ?_
    have hnone : Json.member? changed "last_seen_at" = none := by
      refine Json.member?_eq_none fun change hchange hname => ?_
      have hmem := hallowed.2 change hchange
      rw [hname] at hmem
      revert hmem
      decide
    rw [hnone]
    exact nullableGreatest_null _
  · exact h

theorem touchLastSeen (h : Kept config userId first start world) (id : Nat) (now : Int) :
    Kept config userId first start (world.touchLastSeen config userId id now) := by
  have hchanged : ∀ change ∈ [("last_seen_at", Json.int now)], change.1 ∈ userSyncFields := by
    intro change hchange
    rw [List.mem_singleton.mp hchange]
    exact List.mem_cons_self
  unfold UserWorld.touchLastSeen
  split
  · next seen hseen =>
    split
    · exact h
    · next hlate =>
      refine h.logPatch hchanged ?_
      rw [hseen]
      change Json.int (max seen now) = Json.int now
      rw [Int.max_eq_right (by omega)]
  · next hseen =>
    refine h.logPatch hchanged ?_
    rw [hseen]
    rfl
  · exact h

theorem logOther (h : Kept config userId first start world) (row : ChangeLogRow) :
    Kept config userId first start (world.logOther userId row) := by
  unfold UserWorld.logOther
  split
  · exact h
  · next hother =>
    unfold Outbox.logChange
    split
    · next hnew =>
      have hsame : userChanges userId (world.outbox.rows ++ [row]) =
          userChanges userId world.outbox.rows := by
        rw [userChanges_append, if_neg hother, List.append_nil]
      refine ⟨nodup_append h.ids hnew.2, ?_, ?_, ?_, ?_, ?_, ?_, ?_, ?_⟩
      · dsimp only
        rw [hsame]
        exact h.sequence
      · dsimp only
        rw [hsame]
        exact h.bounded
      · dsimp only
        rw [hsame]
        exact h.fields
      · dsimp only
        rw [hsame]
        exact h.peer
      · intro other hmem hpatch hsynced
        rcases List.mem_append.mp hmem with hold | hlast
        · exact h.synced other hold hpatch hsynced
        · rw [List.mem_singleton.mp hlast] at hpatch
          exact absurd hpatch hother
      · intro request hmem
        obtain ⟨sent, hitem, hknown, hbefore⟩ := h.requests request hmem
        dsimp only
        rw [hsame]
        exact ⟨sent, hitem, hknown.append [row], hbefore⟩
      · intro session hmem
        obtain ⟨hsorted, hknown⟩ := h.entries session hmem
        exact ⟨hsorted, fun sent hsent => (hknown sent hsent).append [row]⟩
      · intro session hmem id hid
        obtain ⟨sent, hsent, hknown, hseen⟩ := h.marks session hmem id hid
        exact ⟨sent, hsent, hknown.append [row], hseen⟩
    · exact h

theorem sendRow (h : Kept config userId first start world) (sender : Sender)
    {found : Option ChangeLogRow} (hfound : ∀ row ∈ found, row ∈ world.outbox.rows ∧
      (isUserPatch userId row = true → ∀ change ∈ userChanges userId world.outbox.rows,
        change.1 < row.id → (change.1 : Int) ≤ world.peer.reached config userId)) :
    Kept config userId first start
      { world with outbox := world.outbox.sendRow config sender found } := by
  unfold Outbox.sendRow
  split
  · exact h
  · next row =>
    split
    · exact h
    · next item hitem =>
      obtain ⟨hmem, hbefore⟩ := hfound row rfl
      refine ⟨h.ids, h.sequence, h.bounded, h.fields, h.peer, h.synced, ?_, h.entries, h.marks⟩
      intro request hrequest
      rcases List.mem_append.mp hrequest with hold | hnew
      · exact h.requests request hold
      · rw [List.mem_singleton.mp hnew]
        exact ⟨row, hitem, .of_mem hmem, hbefore⟩

theorem sendNext (h : Kept config userId first start world) (now : Int) :
    Kept config userId first start
      { world with outbox := world.outbox.sendNext config now } := by
  unfold Outbox.sendNext
  split
  · refine h.sendRow .changeLog fun row hrow => ?_
    obtain ⟨hmem, hready⟩ := List.mem_filter.mp (mem_of_firstBy hrow)
    refine ⟨hmem, fun hpatch change hchange hlt => ?_⟩
    obtain ⟨older, holder, holderPatch, rfl⟩ := mem_userChanges.mp hchange
    rw [Bool.and_eq_true, Bool.not_eq_true', ChangeLogRow.hasOlderUnsynced,
      List.any_eq_false] at hready
    have hsynced := hready.2 older holder
    simp only [isUserPatch, Bool.and_eq_true, beq_iff_eq] at hpatch holderPatch
    simp only [holderPatch.1.1, hpatch.1.1, holderPatch.1.2, hpatch.1.2, hlt, beq_self_eq_true,
      Bool.and_true, decide_true, Bool.not_eq_true', Bool.not_eq_false] at hsynced
    refine h.synced older holder ?_ hsynced
    simp only [isUserPatch, Bool.and_eq_true, beq_iff_eq]
    exact holderPatch
  · exact h

theorem dispatchOffer (h : Kept config userId first start world) (offerPublicId : Option String)
    (now : Int) :
    Kept config userId first start
      { world with outbox := world.outbox.dispatchOffer config offerPublicId now } := by
  unfold Outbox.dispatchOffer
  split
  · refine h.sendRow .offerPriority fun row hrow => ?_
    have hpending := (List.mem_insertionSort _).mp
      (List.mem_of_mem_take (List.mem_of_find?_eq_some hrow))
    obtain ⟨hmem, hready⟩ := List.mem_filter.mp hpending
    refine ⟨hmem, fun hpatch => ?_⟩
    simp only [Bool.and_eq_true, beq_iff_eq] at hready
    simp only [isUserPatch, Bool.and_eq_true, beq_iff_eq, hready.1.2] at hpatch
    exact absurd hpatch.1.1 (by decide)
  · exact h

theorem pairwise_resyncEntries {rows : List ChangeLogRow} (hids : (rows.map (·.id)).Nodup)
    (limit : Nat) (tableFilter : Option String) :
    (resyncEntries rows limit tableFilter).Pairwise fun earlier later => earlier.id < later.id := by
  refine List.Pairwise.sublist (List.take_sublist _ _) ?_
  generalize hunsynced : (rows.filter fun row =>
    !row.synced && tableFilter.all fun table => table == "" || row.tableName == table) = unsynced
  have htotal : Std.Total fun row other : ChangeLogRow => row.id ≤ other.id :=
    ⟨fun row other => Nat.le_total row.id other.id⟩
  have htrans : IsTrans ChangeLogRow fun row other => row.id ≤ other.id :=
    ⟨fun _ _ _ => Nat.le_trans⟩
  have hsorted := List.pairwise_insertionSort (fun row other : ChangeLogRow => row.id ≤ other.id)
    unsynced
  have hnodup : ((unsynced.insertionSort fun row other => row.id ≤ other.id).map (·.id)).Nodup := by
    refine ((List.perm_insertionSort _ unsynced).map _).nodup_iff.mpr ?_
    rw [← hunsynced]
    exact hids.sublist (List.filter_sublist.map _)
  refine (hsorted.and (List.pairwise_map.mp hnodup)).imp fun hle => ?_
  exact Nat.lt_of_le_of_ne hle.1 hle.2

theorem startResync (h : Kept config userId first start world) (limit : Nat)
    (tableFilter : Option String) (target : Option Server) :
    Kept config userId first start
      { world with outbox := world.outbox.startResync config limit tableFilter target } := by
  unfold Outbox.startResync
  split
  · refine ⟨h.ids, h.sequence, h.bounded, h.fields, h.peer, h.synced, h.requests, ?_, ?_⟩
    · intro session hmem
      rcases List.mem_append.mp hmem with hold | hnew
      · exact h.entries session hold
      · rw [List.mem_singleton.mp hnew]
        refine ⟨pairwise_resyncEntries h.ids limit tableFilter, fun sent hsent => ?_⟩
        have hunsynced := (List.mem_insertionSort _).mp (List.mem_of_mem_take hsent)
        exact .of_mem (List.mem_filter.mp hunsynced).1
    · intro session hmem id hid
      rcases List.mem_append.mp hmem with hold | hnew
      · exact h.marks session hold id hid
      · rw [List.mem_singleton.mp hnew] at hid
        cases hid
  · exact h

/-! ### Requests come to their end -/

theorem exchange (h : Kept config userId first start world) {request : Request}
    (hrequest : request ∈ world.outbox.inFlight) (delivery : Delivery) :
    (world.peer.exchange config userId [request.item] delivery).1.InOrder config userId first start
        (userChanges userId world.outbox.rows) ∧
      world.peer.reached config userId ≤
        (world.peer.exchange config userId [request.item] delivery).1.reached config userId ∧
      ∀ row ∈ world.outbox.rows, isUserPatch userId row = true → ∀ markerFails,
        MarksFor request.item (world.peer.exchange config userId [request.item] delivery).2
          markerFails row →
        (row.id : Int) ≤
          (world.peer.exchange config userId [request.item] delivery).1.reached config userId := by
  obtain ⟨sent, hitem, hknown, hbefore⟩ := h.requests request hrequest
  obtain ⟨-, hid⟩ := isCopyOf_of_buildSyncItem hitem
  cases delivery with
  | unreachable =>
    refine ⟨h.peer, Int.le_refl _, ?_⟩
    rintro row - - markerFails ⟨-, -, response, hreply, -⟩
    cases hreply
  | rolledBack =>
    refine ⟨h.peer, Int.le_refl _, ?_⟩
    rintro row - - markerFails ⟨-, -, response, hreply, hanswer⟩
    cases hreply
    cases hanswer
  | received refuses answered =>
    -- the item is the one of the row that was read
    have hpatch : isUserPatch userId sent = true → request.item.data = sent.data ∧
        request.item.table = .text "users" ∧ request.item.isUserPatch userId = true := by
      intro hsent
      obtain ⟨item, hbuilt, -, hdata, htable, huser⟩ := @items_of_patch config userId sent hsent
        (h.sequence.patches _ (hknown.change hsent)).2.2
      rw [hitem] at hbuilt
      cases hbuilt
      exact ⟨hdata, htable, huser⟩
    have hchange : request.item.isUserPatch userId = true →
        UserPeer.refusal refuses request.item = none →
        (sent.id, request.item.data) ∈ userChanges userId world.outbox.rows ∧
          ∀ other ∈ userChanges userId world.outbox.rows, other.1 < sent.id →
            (other.1 : Int) ≤ world.peer.reached config userId := by
      intro huser _
      have hsent : isUserPatch userId sent = true := by
        by_contra hnot
        rw [isUserPatch_eq_false_of_entry (Bool.eq_false_iff.mpr hnot) hitem] at huser
        cases huser
      rw [(hpatch hsent).1]
      exact ⟨hknown.change hsent, hbefore hsent⟩
    obtain ⟨hpeer, hle, hseen⟩ := h.peer.receiveItem h.sequence hid hchange
    refine ⟨hpeer, hle, ?_⟩
    rintro row hmem hrow markerFails ⟨-, hmarks, response, hreply, hanswer⟩
    have hsame : row.id = sent.id := Int.ofNat.inj (id_eq_of_marks hid hmarks)
    have hsent := (hknown.isUserPatch_eq h.ids hmem hsame).symm.trans hrow
    obtain ⟨-, htable, huser⟩ := hpatch hsent
    rw [hsame]
    refine hseen huser ?_
    unfold UserPeer.exchange at hreply
    dsimp only at hreply
    split at hreply
    · cases hreply
      have hnone := UserPeer.no_errors_of_marksItem htable hanswer
      exact UserPeer.refusal_of_no_errors _ _ hnone _ (List.mem_singleton_self _)
    · cases hreply

theorem deliver (h : Kept config userId first start world) (index : Nat) (delivery : Delivery)
    (now : Int) (markerFails : Bool) :
    Kept config userId first start
      (world.deliver config userId index delivery now markerFails) := by
  unfold UserWorld.deliver
  split
  · exact h
  · next request hrequest =>
    obtain ⟨hpeer, hle, hmarks⟩ := h.exchange (List.mem_of_getElem? hrequest) delivery
    have hreplied := @Outbox.Replied.onReply world.outbox request
      (world.peer.exchange config userId [request.item] delivery).2 now markerFails index hrequest
    refine (h.withPeer hpeer hle).withMarks hreplied.rows ?_ ?_ ?_
    · intro row hmem hpatch hmarked
      exact hmarks row hmem hpatch markerFails hmarked
    · intro other hother
      rw [hreplied.inFlight] at hother
      exact List.mem_of_mem_eraseIdx hother
    · intro session hsession
      rw [hreplied.sessions] at hsession
      exact hsession

theorem exchangeBatch (h : Kept config userId first start world)
    {session : ResyncSession} (hsession : world.outbox.sessions[index]? = some session)
    (holder : OlderFirst config userId world (.deliverBatch index delivery)) :
    (world.peer.exchange config userId (session.batch.filterMap (resyncItem config))
        delivery).1.InOrder config userId first start (userChanges userId world.outbox.rows) ∧
      world.peer.reached config userId ≤ (world.peer.exchange config userId
        (session.batch.filterMap (resyncItem config)) delivery).1.reached config userId ∧
      ((world.peer.exchange config userId (session.batch.filterMap (resyncItem config))
          delivery).2.response?.any resyncAcknowledged = true →
        ∀ sent ∈ session.batch, isUserPatch userId sent = true →
          (sent.id : Int) ≤ (world.peer.exchange config userId
            (session.batch.filterMap (resyncItem config)) delivery).1.reached config userId) := by
  obtain ⟨hsorted, hknown⟩ := h.entries session (List.mem_of_getElem? hsession)
  have hbatch : ∀ sent ∈ session.batch, Known userId world.outbox.rows sent :=
    fun sent hsent => hknown sent (List.mem_of_mem_take hsent)
  cases delivery with
  | unreachable => exact ⟨h.peer, Int.le_refl _, fun hacknowledged => by cases hacknowledged⟩
  | rolledBack => exact ⟨h.peer, Int.le_refl _, fun hacknowledged => by cases hacknowledged⟩
  | received refuses answered =>
    obtain ⟨hpeer, hle, hseen⟩ := @UserPeer.InOrder.receiveBatch config userId first start _
      refuses h.sequence session.batch world.peer h.peer (hsorted.sublist (List.take_sublist _ _))
      (fun sent hsent hpatch => (hbatch sent hsent).change hpatch) (by
        intro sent hsent hpatch haccepts change hchange hlt
        obtain ⟨older, hmem, holderPatch, rfl⟩ := mem_userChanges.mp hchange
        rcases holder session hsession sent hsent hpatch haccepts older hmem holderPatch hlt with
          hreached | ⟨row, hrow, hid, hrowAccepts⟩
        · exact .inl hreached
        · refine .inr ⟨row, hrow, hid, ?_, hrowAccepts⟩
          exact ((hbatch row hrow).isUserPatch_eq h.ids hmem hid.symm).symm.trans holderPatch)
    refine ⟨hpeer, hle, fun hacknowledged sent hsent hpatch => hseen sent hsent hpatch ?_⟩
    -- an acknowledged batch has no refused item
    unfold UserPeer.exchange at hacknowledged
    dsimp only at hacknowledged
    split at hacknowledged
    · have hnone := UserPeer.no_errors_of_success
        (peerResponseIsSuccess_of_resyncAcknowledged hacknowledged)
      obtain ⟨item, -, hitem, -, htable, -⟩ := @items_of_patch config userId sent hpatch
        (h.sequence.patches _ ((hbatch sent hsent).change hpatch)).2.2
      have hrefusal := UserPeer.refusal_of_no_errors _ _ hnone item
        (List.mem_filterMap.mpr ⟨sent, hsent, hitem⟩)
      exact (refusal_eq_none_iff htable (isCopyOf_of_resyncItem hitem).2).mp hrefusal
    · cases hacknowledged

theorem deliverBatch (h : Kept config userId first start world)
    (holder : OlderFirst config userId world (.deliverBatch index delivery)) :
    Kept config userId first start (world.deliverBatch config userId index delivery) := by
  unfold UserWorld.deliverBatch
  split
  · exact h
  · next session hsession =>
    have hin := List.mem_of_getElem? hsession
    obtain ⟨hpeer, hle, hmarks⟩ := h.exchangeBatch hsession holder
    have hnext := h.withPeer hpeer hle
    obtain ⟨hsorted, hknown⟩ := h.entries session hin
    -- the rest of the entries
    have hrest : (session.remaining.drop 50).Pairwise (fun earlier later => earlier.id < later.id) ∧
        ∀ sent ∈ session.remaining.drop 50, Known userId world.outbox.rows sent :=
      ⟨hsorted.sublist (List.drop_sublist _ _),
        fun sent hsent => hknown sent (List.mem_of_mem_drop hsent)⟩
    dsimp only
    unfold Outbox.resyncBatch
    rw [hsession]
    dsimp only
    split
    · refine ⟨hnext.ids, hnext.sequence, hnext.bounded, hnext.fields, hnext.peer, hnext.synced,
        hnext.requests, ?_, ?_⟩
      · intro other hmem
        rcases List.mem_or_eq_of_mem_set hmem with hmem | rfl
        · exact hnext.entries other hmem
        · exact hrest
      · intro other hmem
        rcases List.mem_or_eq_of_mem_set hmem with hmem | rfl
        · exact hnext.marks other hmem
        · exact hnext.marks session hin
    · refine ⟨hnext.ids, hnext.sequence, hnext.bounded, hnext.fields, hnext.peer, hnext.synced,
        hnext.requests, ?_, ?_⟩
      · intro other hmem
        rcases List.mem_or_eq_of_mem_set hmem with hmem | rfl
        · exact hnext.entries other hmem
        · exact hrest
      · intro other hmem id hid
        rcases List.mem_or_eq_of_mem_set hmem with hmem | rfl
        · exact hnext.marks other hmem id hid
        · rcases List.mem_append.mp hid with hid | hid
          · exact hnext.marks session hin id hid
          · split at hid
            · next hacknowledged =>
              obtain ⟨sent, hsent, rfl⟩ := List.mem_map.mp hid
              exact ⟨sent, rfl, hknown sent (List.mem_of_mem_take hsent),
                hmarks hacknowledged sent hsent⟩
            · cases hid

theorem commitResync (h : Kept config userId first start world) (index : Nat) :
    Kept config userId first start
      { world with outbox := world.outbox.commitResync index } := by
  unfold Outbox.commitResync
  split
  · exact h
  · next session hsession =>
    split
    · refine h.withMarks (marksOnly_commitResync world.outbox.rows session.synced) ?_
        (fun _ hrequest => hrequest) (fun _ hmem => List.mem_of_mem_eraseIdx hmem)
      intro row hmem hpatch hid
      obtain ⟨sent, hsent, hknown, hseen⟩ :=
        h.marks session (List.mem_of_getElem? hsession) row.id hid
      exact hseen ((hknown.isUserPatch_eq h.ids hmem hsent.symm).symm.trans hpatch)
    · exact h

theorem abandonResync (h : Kept config userId first start world) (index : Nat) :
    Kept config userId first start
      { world with outbox := world.outbox.abandonResync index } :=
  h.withMarks (.refl (fun _ => False) world.outbox.rows) (fun _ _ _ hmarked => hmarked.elim)
    (fun _ hrequest => hrequest) fun _ hmem => List.mem_of_mem_eraseIdx hmem

theorem step (h : Kept config userId first start world) (op : UserOperation)
    (holder : OlderFirst config userId world op) :
    Kept config userId first start (world.step config userId op) := by
  cases op with
  | update id changed now => exact h.update id changed now
  | touchLastSeen id now => exact h.touchLastSeen id now
  | logChange row => exact h.logOther row
  | sendNext now => exact h.sendNext now
  | dispatchOffer offerPublicId now => exact h.dispatchOffer offerPublicId now
  | deliver index delivery now markerFails => exact h.deliver index delivery now markerFails
  | startResync limit tableFilter target => exact h.startResync limit tableFilter target
  | deliverBatch index delivery => exact h.deliverBatch holder
  | commitResync index => exact h.commitResync index
  | abandonResync index => exact h.abandonResync index

end UserWorld.Kept

/-- In every run in which the peer takes no patch of the user from a batch of a resync before the
older ones: once all patches are synced, the peer's row has the value of each synced field that the
Iran server wrote last. -/
theorem user_fields_agree (config : SenderConfig) (userId : Int) (fields : String → Json)
    (syncVersion : Int) (ops : List UserOperation) (holder : EachStep (UserWorld.step config userId)
      (fun world op _ => OlderFirst config userId world op)
      (UserWorld.start fields syncVersion) ops)
    (hsynced : ∀ row ∈ (run (UserWorld.step config userId) (UserWorld.start fields syncVersion)
      ops).outbox.rows, isUserPatch userId row = true → row.synced = true) :
    ∀ key ∈ userSyncFields,
      (run (UserWorld.step config userId) (UserWorld.start fields syncVersion) ops).peer.fields key =
        (run (UserWorld.step config userId) (UserWorld.start fields syncVersion) ops).fields key := by
  have hkept := run_invariant (I := UserWorld.Kept config userId syncVersion fields)
    (fun world op h hc => h.step op hc) ops _
    (UserWorld.Kept.initial config userId syncVersion fields) holder
  generalize run (UserWorld.step config userId) (UserWorld.start fields syncVersion) ops = world
    at hkept hsynced ⊢
  intro key hkey
  rw [hkept.fields key hkey, hkept.peer.fields, List.filter_eq_self.mpr]
  intro change hchange
  obtain ⟨row, hmem, hpatch, rfl⟩ := mem_userChanges.mp hchange
  rw [decide_eq_true_eq]
  exact hkept.synced row hmem hpatch (hsynced row hmem hpatch)

/-- Name and address are changed. The peer refuses the first patch, a resync brings both but its
acknowledgement is lost, and the worker sends them again. -/
def lostAcknowledgement : List UserOperation :=
  [.update 1 [("full_name", .str "A")] 0, .sendNext 1,
    .deliver 0 (.received (fun _ => some "apply_exception") true) 2 false,
    .update 2 [("address", .str "B")] 3, .startResync 100 none none,
    .deliverBatch 0 (.received (fun _ => none) false), .commitResync 0, .sendNext 2000000,
    .deliver 0 (.received (fun _ => none) true) 2000001 false, .sendNext 2000002,
    .deliver 0 (.received (fun _ => none) true) 2000003 false]

theorem agree_after_lost_acknowledgement :
    (run (UserWorld.step iranSenders 7) (UserWorld.start (fun _ => .null) 1)
        lostAcknowledgement).outbox.rows.map (·.synced) = [true, true] ∧
      ∀ key ∈ userSyncFields,
        (run (UserWorld.step iranSenders 7) (UserWorld.start (fun _ => .null) 1)
            lostAcknowledgement).peer.fields key =
          (run (UserWorld.step iranSenders 7) (UserWorld.start (fun _ => .null) 1)
            lostAcknowledgement).fields key :=
  ⟨by decide, user_fields_agree iranSenders 7 (fun _ => .null) 1 lostAcknowledgement
    (by decide) (by decide)⟩

def otherRow (n : Nat) : ChangeLogRow where
  id := n + 2
  operation := "INSERT"
  tableName := "notifications"
  recordId := n
  data := .obj []
  timestamp := 0
  positive := Nat.succ_pos _

/-- The two patches fall into different batches, and the first batch does not get through. -/
def overtakingRun : List UserOperation :=
  [.update 1 [("full_name", .str "A")] 0] ++ (List.range 49).map (.logChange ∘ otherRow) ++
    [.update 51 [("address", .str "B")] 0, .startResync 100 none none,
      .deliverBatch 0 .unreachable, .deliverBatch 0 (.received (fun _ => none) true),
      .commitResync 0, .sendNext 1, .deliver 0 (.received (fun _ => none) true) 2 false]

/-- The peer takes the first patch, sent after the resync, for outdated: all are synced and the name
has not arrived. -/
theorem overtaken_patch_lost :
    ¬ ∀ (config : SenderConfig) (userId : Int) (fields : String → Json) (syncVersion : Int)
        (ops : List UserOperation),
      (∀ row ∈ (run (UserWorld.step config userId) (UserWorld.start fields syncVersion)
        ops).outbox.rows, isUserPatch userId row = true → row.synced = true) →
      ∀ key ∈ userSyncFields,
        (run (UserWorld.step config userId) (UserWorld.start fields syncVersion)
            ops).peer.fields key =
          (run (UserWorld.step config userId) (UserWorld.start fields syncVersion)
            ops).fields key := by
  intro h
  have hname := h iranSenders 7 (fun _ => .null) 1 overtakingRun (by decide +kernel) "full_name"
    (by decide)
  have hpeer : ((run (UserWorld.step iranSenders 7) (UserWorld.start (fun _ => .null) 1)
      overtakingRun).peer.fields "full_name").isNull = true := by decide +kernel
  have hfields : ((run (UserWorld.step iranSenders 7) (UserWorld.start (fun _ => .null) 1)
      overtakingRun).fields "full_name").isNull = false := by decide +kernel
  rw [hname, hfields] at hpeer
  cases hpeer

end TradingBot.Sync
