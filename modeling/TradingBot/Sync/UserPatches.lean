import TradingBot.Sync.Senders
import TradingBot.Sync.Receive

/-!
# Patches of a user

An update of a user on the Iran server logs a patch: the changed fields and the new `sync_version`
(`setup_user_events`, core/events.py). The peer applies a patch only if its version and its sequence
number are above those it has seen (`_apply_versioned_user_patch` and `_evaluate_sync_watermark`,
src/api/routers/sync.py); one overtaken by a newer one is dropped with its fields.

Of the peer only one user's row and the watermarks are kept. Whether an item finds its row or is
refused is left to the run. Times are in microseconds, also in the patches.
-/

namespace TradingBot.Sync

open TradingBot.Misc

/-- `USER_SYNC_IDENTITY_FIELDS` (registration_sync_policy.py:47), which only the Iran server writes. -/
def userSyncIdentityFields : List String :=
  ["telegram_id", "username", "full_name", "mobile_number", "account_name", "address", "role",
    "account_status", "deactivated_at", "messenger_grace_expires_at", "messenger_blocked_at",
    "has_bot_access", "home_server", "is_deleted", "deleted_at", "can_block_users",
    "max_blocked_users", "max_daily_trades", "max_active_commodities", "max_daily_requests",
    "trading_restricted_until", "limitations_expire_at", "max_sessions", "max_accountants",
    "max_customers", "offer_overtime_minutes"]

/-- Those and `last_seen_at` (`USER_SYNC_SHARED_FIELDS`, registration_sync_policy.py:89). -/
def userSyncFields : List String := "last_seen_at" :: userSyncIdentityFields

/-- `is_user_counter_event_payload`: a counter event is no patch. -/
def isUserCounterEvent (data : Json) : Bool :=
  match fieldOf data "_sync_contract" with
  | .str contract => contract == "user_counter_event_v2"
  | _ => false

/-- A row of the change log that is about the fields of the user. -/
def isUserPatch (userId : Int) (row : ChangeLogRow) : Bool :=
  row.tableName == "users" && row.recordId == userId && !isUserCounterEvent row.data

def SyncItem.isUserPatch (userId : Int) (item : SyncItem) : Bool :=
  item.table == .text "users" && item.id == .int userId && !isUserCounterEvent item.data

/-- `_nullable_greatest` (sync.py:937) of two times. -/
def nullableGreatest : Json → Json → Json
  | .null, incoming => incoming
  | .int current, .int incoming => .int (max current incoming)
  | current, _ => current

/-- The columns that a patch of the Iran server writes (sync.py:2614). -/
def patchFields (fields : String → Json) (data : Json) : String → Json := fun key =>
  if key = "last_seen_at" then nullableGreatest (fields key) (fieldOf data key)
  else if key ∈ ["id", "created_at", "sync_version", "_sync_identity"] then fields key
  else match data with
    | .obj members => (Json.member? members key).getD (fields key)
    | _ => fields key

structure UserPeer where
  fields : String → Json
  syncVersion : Int
  watermarks : Watermarks

/-- The watermark row of the user (`_sync_item_aggregate_key`, sync.py:3700). -/
def userAggregate (config : SenderConfig) (userId : Int) : AggregateId :=
  ⟨config.server, "users", toString userId⟩

namespace UserPeer

/-- `_apply_versioned_user_patch` for the Iran server (sync.py:2565), once the user is found. -/
def applyPatch (peer : UserPeer) (data : Json) : UserPeer :=
  match fieldOf data "sync_version" with
  | .int version =>
    if peer.syncVersion < version then
      { peer with fields := patchFields peer.fields data, syncVersion := version }
    else peer
  | _ => { peer with fields := patchFields peer.fields data }

/-- `_sync_watermark_context_from_item` (sync.py:3726) of an item of the user. -/
def context (config : SenderConfig) (userId : Int) (item : SyncItem) :
    Option SyncWatermarkContext :=
  item.changeLogId.coercePositiveInt.map fun sequence =>
    { aggregate := userAggregate config userId
      sourceSequence := sequence
      payloadHash := config.digest item.data
      operation := .update
      recordId := some item.id.str }

/-- Why an item is refused, if it is; the policy of the tables refuses none of the users. -/
def refusal (refuses : Nat → Option String) (item : SyncItem) : Option String :=
  match item.changeLogId.coercePositiveInt with
  | none => none
  | some id => (refuses id.toNat).filter fun reason =>
      !(item.table == .text "users" && reason == "policy_forbidden:no-sync")

/-- `_sync_error_detail` of an item. -/
def errorDetail (item : SyncItem) (reason : String) : ErrorItem :=
  { reason := .text reason, table := item.table, recordId := item.id }

/-- `receive_sync_data` for an item (sync.py:3922), with its errors. Other records do not touch the
user. -/
def receiveItem (config : SenderConfig) (userId : Int) (refuses : Nat → Option String)
    (peer : UserPeer) (item : SyncItem) : UserPeer × Option ErrorItem :=
  match refusal refuses item with
  | some reason => (peer, some (errorDetail item reason))
  | none =>
    if item.isUserPatch userId then
      match evaluateSyncWatermark peer.watermarks (context config userId item) with
      | .stale | .duplicate => (peer, none)
      | .conflict => (peer, some (errorDetail item "same_source_sequence_different_payload"))
      | .apply =>
        let applied := peer.applyPatch item.data
        match context config userId item with
        | none => (applied, none)
        | some context =>
          ({ applied with
              watermarks := recordSyncWatermarkApplied peer.watermarks context }, none)
    else (peer, none)

/-- The items of a request in turn; the sort by table leaves those of the user in their order. -/
def receiveItems (config : SenderConfig) (userId : Int) (refuses : Nat → Option String) :
    UserPeer → List SyncItem → UserPeer × List ErrorItem
  | peer, [] => (peer, [])
  | peer, item :: items =>
    let first := receiveItem config userId refuses peer item
    let rest := receiveItems config userId refuses first.1 items
    (rest.1, first.2.toList ++ rest.2)

/-- The answer of `receive_sync_data` (sync.py:4584). -/
def answer (count : Nat) (errors : List ErrorItem) : PeerResponse where
  statusCode := 200
  body := .mapping
    (if errors.isEmpty then { status := .text "success", processed := .int count }
    else
      { status := .text "partial"
        processed := .int (count - errors.length)
        errors := .int errors.length
        errorItems := .list (errors.map some) })

end UserPeer

/-- A request does not get through, is rolled back, or is received, some of its items refused, and
its answer arrives or is lost. -/
inductive Delivery where
  | unreachable
  | rolledBack
  | received (refuses : Nat → Option String) (answered : Bool)

def UserPeer.exchange (config : SenderConfig) (userId : Int) (peer : UserPeer)
    (items : List SyncItem) : Delivery → UserPeer × PeerReply
  | .unreachable => (peer, .networkError)
  | .rolledBack => (peer, .answered { statusCode := 500, body := .other })
  | .received refuses answered =>
    let outcome := receiveItems config userId refuses peer items
    (outcome.1, if answered then .answered (answer items.length outcome.2) else .networkError)

/-- One user on both servers, with the senders between them. -/
structure UserWorld where
  outbox : Outbox
  fields : String → Json
  syncVersion : Int
  peer : UserPeer

inductive UserOperation where
  | update (id : Nat) (changed : List (String × Json)) (now : Int)
  | touchLastSeen (id : Nat) (now : Int)
  | logChange (row : ChangeLogRow)
  | sendNext (now : Int)
  | dispatchOffer (offerPublicId : Option String) (now : Int)
  | deliver (index : Nat) (delivery : Delivery) (now : Int) (markerFails : Bool)
  | startResync (limit : Nat) (tableFilter : Option String) (target : Option Server)
  | deliverBatch (index : Nat) (delivery : Delivery)
  | commitResync (index : Nat)
  | abandonResync (index : Nat)

/-- The payload of `on_user_updated` (events.py:1129). -/
def patchData (userId : Int) (changed : List (String × Json)) (version now : Int) : Json :=
  .obj (("id", .int userId) :: changed ++ [("sync_version", .int version), ("updated_at", .int now)])

namespace UserWorld

variable (config : SenderConfig) (userId : Int)

/-- Both servers have the same row of the user, and nothing is logged yet. -/
def start (fields : String → Json) (syncVersion : Int) : UserWorld where
  outbox := { rows := [] }
  fields := fields
  syncVersion := syncVersion
  peer := { fields, syncVersion, watermarks := fun _ => none }

variable (world : UserWorld)

/-- An update of the user and its row of the log, in one transaction under the lock of the user:
sequence numbers increase. -/
def logPatch (id : Nat) (changed : List (String × Json)) (now : Int) :
    UserWorld :=
  if h : 0 < id ∧ id ∉ world.outbox.rows.map (·.id) ∧
      ∀ row ∈ world.outbox.rows, isUserPatch userId row = true → row.id < id then
    let version := world.syncVersion + 1
    let data := patchData userId changed version now
    { world with
      fields := fun key => (Json.member? changed key).getD (world.fields key)
      syncVersion := version
      outbox := world.outbox.logChange
        { id := id
          operation := "UPDATE"
          tableName := "users"
          recordId := userId
          data := data
          timestamp := now
          hash := some (config.digest data)
          positive := h.1 } }
  else world

def update (id : Nat) (changed : List (String × Json)) (now : Int) :
    UserWorld :=
  if changed ≠ [] ∧ ∀ change ∈ changed, change.1 ∈ userSyncIdentityFields then
    world.logPatch config userId id changed now
  else world

/-- `_touch_last_seen` (api/deps.py:58), the only writer of `last_seen_at`, a time or null. -/
def touchLastSeen (id : Nat) (now : Int) : UserWorld :=
  match world.fields "last_seen_at" with
  | .int seen =>
    if now - seen ≤ 60000000 then world
    else world.logPatch config userId id [("last_seen_at", .int now)] now
  | .null => world.logPatch config userId id [("last_seen_at", .int now)] now
  | _ => world

def logOther (row : ChangeLogRow) : UserWorld :=
  if isUserPatch userId row then world
  else { world with outbox := world.outbox.logChange row }

def deliver (index : Nat) (delivery : Delivery) (now : Int) (markerFails : Bool) : UserWorld :=
  match world.outbox.inFlight[index]? with
  | none => world
  | some request =>
    let outcome := world.peer.exchange config userId [request.item] delivery
    { world with
      peer := outcome.1
      outbox := world.outbox.onReply index outcome.2 now markerFails }

def deliverBatch (index : Nat) (delivery : Delivery) : UserWorld :=
  match world.outbox.sessions[index]? with
  | none => world
  | some session =>
    let outcome := world.peer.exchange config userId
      (session.batch.filterMap (resyncItem config)) delivery
    { world with
      peer := outcome.1
      outbox := world.outbox.resyncBatch config index outcome.2 }

def step (world : UserWorld) : UserOperation → UserWorld
  | .update id changed now => world.update config userId id changed now
  | .touchLastSeen id now => world.touchLastSeen config userId id now
  | .logChange row => world.logOther userId row
  | .sendNext now => { world with outbox := world.outbox.sendNext config now }
  | .dispatchOffer offerPublicId now =>
    { world with outbox := world.outbox.dispatchOffer config offerPublicId now }
  | .deliver index delivery now markerFails =>
    world.deliver config userId index delivery now markerFails
  | .startResync limit tableFilter target =>
    { world with outbox := world.outbox.startResync config limit tableFilter target }
  | .deliverBatch index delivery => world.deliverBatch config userId index delivery
  | .commitResync index => { world with outbox := world.outbox.commitResync index }
  | .abandonResync index => { world with outbox := world.outbox.abandonResync index }

end UserWorld

/-! ## Patches on their way -/

def IsPatch (userId : Int) (data : Json) : Prop :=
  ∃ changed version now, data = patchData userId changed version now ∧
    ∀ change ∈ changed, change.1 ∈ userSyncFields

def versionOf (data : Json) : Int :=
  match fieldOf data "sync_version" with
  | .int version => version
  | _ => 0

variable {key : String}

theorem userSyncFields_ne (h : key ∈ userSyncFields) :
    key ≠ "id" ∧ key ≠ "sync_version" ∧ key ≠ "updated_at" ∧ key ≠ "created_at" ∧
      key ≠ "_sync_identity" ∧ key ≠ "version_id" ∧ key ≠ "_sync_contract" := by
  revert key
  decide

theorem syncFieldAction_userSyncFields (h : key ∈ userSyncFields) :
    syncFieldAction "users" key = .keep := by
  revert key
  decide

section Patches

variable {config : SenderConfig} {userId version now : Int} {changed : List (String × Json)}
  {data : Json} {row : ChangeLogRow} {item : SyncItem}

theorem member?_changed_eq_none (hchanged : ∀ change ∈ changed, change.1 ∈ userSyncFields)
    (hkey : key ∉ userSyncFields) : Json.member? changed key = none := by
  refine Json.member?_eq_none fun change hmem hname => hkey ?_
  rw [← hname]
  exact hchanged change hmem

theorem member?_patch (hkey : key ∈ userSyncFields) :
    Json.member? (("id", .int userId) :: changed ++
      [("sync_version", .int version), ("updated_at", .int now)]) key =
      Json.member? changed key := by
  obtain ⟨hid, hversion, hupdated, -⟩ := userSyncFields_ne hkey
  rw [List.cons_append, Json.member?_cons, Json.member?_append, Json.member?_cons,
    Json.member?_cons, if_neg hid.symm, if_neg hversion.symm, if_neg hupdated.symm]
  simp [Json.member?]

theorem fieldOf_patchData_version :
    fieldOf (patchData userId changed version now) "sync_version" = .int version := by
  rw [patchData, fieldOf]
  simp only [List.cons_append, Json.member?_cons, Json.member?_append]
  simp [Json.member?]

theorem IsPatch.fieldOf_version (h : IsPatch userId data) :
    fieldOf data "sync_version" = .int (versionOf data) := by
  obtain ⟨changed, version, now, rfl, -⟩ := h
  rw [versionOf, fieldOf_patchData_version]

theorem fieldOf_patchData_eq_null (hchanged : ∀ change ∈ changed, change.1 ∈ userSyncFields)
    (hkey : key ∉ userSyncFields)
    (hnames : key ≠ "id" ∧ key ≠ "sync_version" ∧ key ≠ "updated_at") :
    fieldOf (patchData userId changed version now) key = .null := by
  rw [patchData, fieldOf, List.cons_append, Json.member?_cons, Json.member?_append,
    Json.member?_cons, Json.member?_cons, if_neg hnames.1.symm, if_neg hnames.2.1.symm,
    if_neg hnames.2.2.symm, member?_changed_eq_none hchanged hkey]
  simp [Json.member?]

theorem sanitizeSyncPayload_users (members : List (String × Json)) :
    sanitizeSyncPayload config "users" (.obj members) =
      .obj (members.filter fun member => syncFieldAction "users" member.1 = .keep) := by
  rw [sanitizeSyncPayload, ← List.filterMap_eq_filter]
  refine congrArg Json.obj (congrArg (List.filterMap · members) ?_)
  funext member
  have hnever : ∀ outputField, syncFieldAction "users" member.1 ≠ .hash outputField := by
    intro outputField
    rw [syncFieldAction, if_neg (fun h => absurd h.1 (by decide))]
    split <;> nofun
  cases haction : syncFieldAction "users" member.1 with
  | keep => simp [haction, Option.guard]
  | drop => simp [haction, Option.guard]
  | hash outputField => exact absurd haction (hnever outputField)

theorem sanitizeSyncPayload_patchData (hchanged : ∀ change ∈ changed, change.1 ∈ userSyncFields) :
    sanitizeSyncPayload config "users" (patchData userId changed version now) =
      patchData userId changed version now := by
  have hmetadata : syncFieldAction "users" "id" = .keep ∧
      syncFieldAction "users" "sync_version" = .keep ∧
      syncFieldAction "users" "updated_at" = .keep := by decide
  rw [patchData, sanitizeSyncPayload_users, List.filter_eq_self.mpr]
  intro member hmember
  rw [decide_eq_true_eq]
  rw [List.cons_append, List.mem_cons, List.mem_append, List.mem_cons,
    List.mem_singleton] at hmember
  rcases hmember with rfl | hfield | rfl | rfl
  · exact hmetadata.1
  · exact syncFieldAction_userSyncFields (hchanged member hfield)
  · exact hmetadata.2.1
  · exact hmetadata.2.2

theorem items_of_patch (hrow : isUserPatch userId row = true) (hpatch : IsPatch userId row.data) :
    ∃ item, changeLogEntryToSyncItem config row = some item ∧
      resyncItem config row = some item ∧ item.data = row.data ∧ item.table = .text "users" ∧
      item.isUserPatch userId = true := by
  obtain ⟨changed, version, now, hdata, hchanged⟩ := hpatch
  simp only [isUserPatch, Bool.and_eq_true, beq_iff_eq, Bool.not_eq_true'] at hrow
  obtain ⟨⟨htable, hrecord⟩, hcounter⟩ := hrow
  have hversion : fieldOf row.data "version_id" = .null := by
    rw [hdata]
    exact fieldOf_patchData_eq_null hchanged (by decide) (by decide)
  have hbuilt : ∃ item, buildSyncItem config row row.data = some item ∧ item.data = row.data ∧
      item.table = .text "users" ∧ item.id = .int userId := by
    rw [buildSyncItem, htable, hrecord]
    have hkept : sanitizeSyncPayload config "users" row.data = row.data := by
      rw [hdata]
      exact sanitizeSyncPayload_patchData hchanged
    have hnumbers : numberFields "users" = ["version_id"] := by decide
    simp only [hkept, hnumbers, List.any_cons, hversion, overflows, List.any_nil, Bool.or_self,
      Bool.false_eq_true, if_false]
    exact ⟨_, rfl, rfl, rfl, rfl⟩
  obtain ⟨item, hitem, hitemData, hitemTable, hitemId⟩ := hbuilt
  refine ⟨item, ?_, ?_, hitemData, hitemTable, ?_⟩
  · rw [← hitem, changeLogEntryToSyncItem, hdata]
    rfl
  · rw [← hitem, resyncItem, hdata]
    rfl
  · simp only [SyncItem.isUserPatch, hitemTable, hitemId, hitemData, hcounter, beq_self_eq_true,
      Bool.not_false, Bool.and_self]

theorem isUserCounterEvent_sanitize (h : isUserCounterEvent data = true) :
    isUserCounterEvent (sanitizeSyncPayload config "users" data) = true := by
  cases data with
  | obj members =>
    have hkept : syncFieldAction "users" "_sync_contract" = .keep := by decide
    rw [sanitizeSyncPayload_users, isUserCounterEvent, fieldOf, Json.member?_filter]
    · exact h
    · intro entry hname
      rw [hname, decide_eq_true_eq]
      exact hkept
  | _ => exact h

theorem isUserPatch_eq_false_of_build
    (hrow : isUserPatch userId row = false) (hbuild : buildSyncItem config row data = some item)
    (hdata : isUserCounterEvent row.data = true → data = row.data) :
    item.isUserPatch userId = false := by
  unfold buildSyncItem at hbuild
  dsimp only at hbuild
  split at hbuild
  · cases hbuild
  · have hitem := Option.some.inj hbuild
    subst hitem
    rw [Bool.eq_false_iff]
    intro htrue
    simp only [SyncItem.isUserPatch, Bool.and_eq_true, beq_iff_eq, Bool.not_eq_true',
      Value.text.injEq, Value.int.injEq] at htrue
    obtain ⟨⟨htable, hrecord⟩, hcounter⟩ := htrue
    have hevent : isUserCounterEvent row.data = true := by
      simpa only [isUserPatch, htable, hrecord, beq_self_eq_true, Bool.and_self, Bool.true_and,
        Bool.not_eq_false'] using hrow
    rw [htable, hdata hevent, isUserCounterEvent_sanitize hevent] at hcounter
    cases hcounter

theorem isUserPatch_eq_false_of_entry (hrow : isUserPatch userId row = false)
    (hitem : changeLogEntryToSyncItem config row = some item) :
    item.isUserPatch userId = false := by
  refine isUserPatch_eq_false_of_build hrow hitem fun hevent => ?_
  cases hdata : row.data with
  | str text =>
    rw [hdata] at hevent
    cases hevent
  | _ => rfl

theorem isUserPatch_eq_false_of_resync
    (hrow : isUserPatch userId row = false) (hitem : resyncItem config row = some item) :
    item.isUserPatch userId = false := by
  unfold resyncItem at hitem
  split at hitem
  · next text hdata =>
    obtain ⟨data, -, hbuild⟩ := Option.bind_eq_some_iff.mp hitem
    refine isUserPatch_eq_false_of_build hrow hbuild fun hevent => ?_
    rw [hdata] at hevent
    cases hevent
  · exact isUserPatch_eq_false_of_build hrow hitem fun _ => rfl

end Patches

/-! ## The order of the patches -/

def userChanges (userId : Int) (rows : List ChangeLogRow) : List (Nat × Json) :=
  (rows.filter (isUserPatch userId)).map fun row => (row.id, row.data)

def patched (fields : String → Json) (changes : List (Nat × Json)) : String → Json :=
  changes.foldl (fun fields change => patchFields fields change.2) fields

def UserPeer.reached (config : SenderConfig) (userId : Int) (peer : UserPeer) : Int :=
  match peer.watermarks (userAggregate config userId) with
  | none => 0
  | some watermark =>
    if 0 < watermark.lastSourceSequence then watermark.lastSourceSequence else 0

/-- From a version on, the sequence numbers and versions of the logged patches increase. -/
structure InSequence (userId first : Int) (changes : List (Nat × Json)) : Prop where
  increasing : changes.Pairwise fun earlier later =>
    earlier.1 < later.1 ∧ versionOf earlier.2 < versionOf later.2
  patches : ∀ change ∈ changes, 0 < change.1 ∧ first < versionOf change.2 ∧
    IsPatch userId change.2

/-- The peer has applied the patches up to a sequence number in order, and has the last version. -/
structure UserPeer.InOrder (config : SenderConfig) (userId first : Int) (start : String → Json)
    (changes : List (Nat × Json)) (peer : UserPeer) : Prop where
  fields : peer.fields =
    patched start (changes.filter fun change => (change.1 : Int) ≤ peer.reached config userId)
  last : peer.reached config userId = 0 ∧ peer.syncVersion = first ∨
    ∃ change ∈ changes, (change.1 : Int) = peer.reached config userId ∧
      peer.syncVersion = versionOf change.2

def acceptsPatch (refuses : Nat → Option String) (row : ChangeLogRow) : Bool :=
  (refuses row.id).all (· == "policy_forbidden:no-sync")

section Order

variable {config : SenderConfig} {userId first : Int} {start : String → Json}
  {changes : List (Nat × Json)} {peer : UserPeer} {item : SyncItem} {refuses : Nat → Option String}
  {change : Nat × Json} {id : Nat}

theorem filter_le_next (hincreasing : changes.Pairwise fun earlier later => earlier.1 < later.1)
    (hmem : change ∈ changes) {bound : Int} (hbound : bound < change.1)
    (hbefore : ∀ other ∈ changes, other.1 < change.1 → (other.1 : Int) ≤ bound) :
    (changes.filter fun other => (other.1 : Int) ≤ change.1) =
      (changes.filter fun other => (other.1 : Int) ≤ bound) ++ [change] := by
  obtain ⟨before, after, rfl⟩ := List.append_of_mem hmem
  obtain ⟨-, hafter, hcross⟩ := List.pairwise_append.mp hincreasing
  have hlater := (List.pairwise_cons.mp hafter).1
  have hfirst : ∀ other ∈ before, other.1 < change.1 ∧ (other.1 : Int) ≤ bound := by
    intro other hother
    have hlt := hcross other hother change List.mem_cons_self
    exact ⟨hlt, hbefore other (List.mem_append_left _ hother) hlt⟩
  have hnone : ∀ limit : Int, limit ≤ change.1 →
      after.filter (fun other => (other.1 : Int) ≤ limit) = [] := by
    intro limit hlimit
    refine List.filter_eq_nil_iff.mpr fun other hother => ?_
    have hlt := hlater other hother
    rw [decide_eq_true_eq]
    omega
  have hall : ∀ limit : Int, bound ≤ limit →
      before.filter (fun other => (other.1 : Int) ≤ limit) = before := by
    intro limit hlimit
    refine List.filter_eq_self.mpr fun other hother => ?_
    have hle := (hfirst other hother).2
    rw [decide_eq_true_eq]
    omega
  rw [List.filter_append, List.filter_append, hall _ (by omega), hall _ (Int.le_refl _),
    List.filter_cons, List.filter_cons, if_pos (decide_eq_true (Int.le_refl _)),
    if_neg (by rw [decide_eq_true_eq]; omega), hnone _ (Int.le_refl _), hnone _ (by omega),
    List.append_nil]

theorem InSequence.version_lt (h : InSequence userId first changes) {other : Nat × Json}
    (hmem : change ∈ changes) (hother : other ∈ changes) (hlt : change.1 < other.1) :
    versionOf change.2 < versionOf other.2 := by
  obtain ⟨before, after, rfl⟩ := List.append_of_mem hmem
  obtain ⟨-, hafter, hcross⟩ := List.pairwise_append.mp h.increasing
  rcases List.mem_append.mp hother with hbefore | hrest
  · have hless := (hcross other hbefore change List.mem_cons_self).1
    omega
  · rcases List.mem_cons.mp hrest with rfl | hlater
    · omega
    · exact ((List.pairwise_cons.mp hafter).1 other hlater).2

theorem UserPeer.evaluate_context (hid : item.changeLogId.coercePositiveInt = some (id : Int))
    (hpositive : 0 < id) :
    (peer.reached config userId < id →
      evaluateSyncWatermark peer.watermarks (context config userId item) = .apply) ∧
    ((id : Int) ≤ peer.reached config userId →
      evaluateSyncWatermark peer.watermarks (context config userId item) ≠ .apply) := by
  simp only [UserPeer.reached, UserPeer.context, hid, Option.map_some, evaluateSyncWatermark]
  cases peer.watermarks (userAggregate config userId) with
  | none =>
    refine ⟨fun _ => rfl, fun hle => ?_⟩
    dsimp only at hle
    omega
  | some watermark =>
    dsimp only
    generalize (if 0 < watermark.lastSourceSequence then watermark.lastSourceSequence
      else 0) = current
    constructor
    · intro hlt
      rw [if_pos hlt]
    · intro hle
      rw [if_neg (by omega)]
      intro happly
      split at happly
      · cases happly
      · split at happly <;> cases happly

theorem UserPeer.reached_record {fields : String → Json} {syncVersion : Int}
    {context : SyncWatermarkContext} (haggregate : context.aggregate = userAggregate config userId)
    (hpositive : 0 < context.sourceSequence)
    (hlt : peer.reached config userId < context.sourceSequence) :
    UserPeer.reached config userId
      { fields, syncVersion,
        watermarks := recordSyncWatermarkApplied peer.watermarks context } =
      context.sourceSequence := by
  unfold UserPeer.reached at hlt ⊢
  simp only [recordSyncWatermarkApplied, haggregate, if_true]
  cases hrow : peer.watermarks (userAggregate config userId) with
  | none =>
    simp only [if_pos hpositive]
  | some watermark =>
    rw [hrow] at hlt
    dsimp only at hlt
    have hle : watermark.lastSourceSequence ≤ context.sourceSequence := by
      split at hlt <;> omega
    simp only [if_pos hle, if_pos hpositive]

theorem UserPeer.receiveItem_other
    (h : (refusal refuses item).isSome = true ∨ item.isUserPatch userId = false) :
    (receiveItem config userId refuses peer item).1 = peer := by
  unfold UserPeer.receiveItem
  split
  · rfl
  · next hnone =>
    rw [hnone] at h
    rcases h with h | h
    · cases h
    · rw [h, if_neg Bool.false_ne_true]

theorem UserPeer.receiveItem_patch (hrefusal : refusal refuses item = none)
    (hitem : item.isUserPatch userId = true)
    (hid : item.changeLogId.coercePositiveInt = some (id : Int)) (hpositive : 0 < id) :
    ((id : Int) ≤ peer.reached config userId →
      (receiveItem config userId refuses peer item).1 = peer) ∧
    (peer.reached config userId < id →
      (receiveItem config userId refuses peer item).1.fields = (peer.applyPatch item.data).fields ∧
      (receiveItem config userId refuses peer item).1.syncVersion =
        (peer.applyPatch item.data).syncVersion ∧
      (receiveItem config userId refuses peer item).1.reached config userId = id) := by
  obtain ⟨hnew, hseen⟩ := @evaluate_context config userId peer item id hid hpositive
  unfold UserPeer.receiveItem
  rw [hrefusal, hitem, if_pos rfl]
  constructor
  · intro hle
    have hnot := hseen hle
    dsimp only
    split
    · rfl
    · rfl
    · rfl
    · next happly => exact absurd happly hnot
  · intro hlt
    rw [hnew hlt]
    dsimp only
    rw [UserPeer.context, hid, Option.map_some]
    refine ⟨rfl, rfl, ?_⟩
    exact reached_record rfl (Int.natCast_pos.mpr hpositive) hlt

theorem UserPeer.InOrder.version_lt (h : InOrder config userId first start changes peer)
    (hsequence : InSequence userId first changes) (hmem : change ∈ changes)
    (hlt : peer.reached config userId < change.1) : peer.syncVersion < versionOf change.2 := by
  rcases h.last with ⟨-, hversion⟩ | ⟨last, hlast, hreached, hversion⟩
  · rw [hversion]
    exact (hsequence.patches change hmem).2.1
  · rw [hversion]
    exact hsequence.version_lt hlast hmem (by omega)

theorem UserPeer.InOrder.receiveItem (h : InOrder config userId first start changes peer)
    (hsequence : InSequence userId first changes)
    (hid : item.changeLogId.coercePositiveInt = some (id : Int))
    (hchange : item.isUserPatch userId = true → UserPeer.refusal refuses item = none →
      (id, item.data) ∈ changes ∧
        ∀ other ∈ changes, other.1 < id → (other.1 : Int) ≤ peer.reached config userId) :
    InOrder config userId first start changes
        (UserPeer.receiveItem config userId refuses peer item).1 ∧
      peer.reached config userId ≤
        (UserPeer.receiveItem config userId refuses peer item).1.reached config userId ∧
      (item.isUserPatch userId = true → UserPeer.refusal refuses item = none →
        (id : Int) ≤
          (UserPeer.receiveItem config userId refuses peer item).1.reached config userId) := by
  by_cases hother : (UserPeer.refusal refuses item).isSome = true ∨ item.isUserPatch userId = false
  · rw [UserPeer.receiveItem_other hother]
    refine ⟨h, Int.le_refl _, fun hitem hrefusal => ?_⟩
    rw [hrefusal, hitem] at hother
    rcases hother with hother | hother <;> cases hother
  · rw [not_or, Bool.not_eq_true, Option.isSome_eq_false_iff, Option.isNone_iff_eq_none,
      Bool.not_eq_false] at hother
    obtain ⟨hrefusal, hitem⟩ := hother
    obtain ⟨hmem, hbefore⟩ := hchange hitem hrefusal
    obtain ⟨hpositive, -, hpatch⟩ := hsequence.patches _ hmem
    obtain ⟨hseen, hnew⟩ := @UserPeer.receiveItem_patch config userId peer item refuses id hrefusal
      hitem hid hpositive
    by_cases hle : (id : Int) ≤ peer.reached config userId
    · rw [hseen hle]
      exact ⟨h, Int.le_refl _, fun _ _ => hle⟩
    · have hlt := Int.not_le.mp hle
      obtain ⟨hfields, hversion, hreached⟩ := hnew hlt
      have hadmitted := h.version_lt hsequence hmem hlt
      have happlied : peer.applyPatch item.data =
          { peer with
            fields := patchFields peer.fields item.data
            syncVersion := versionOf item.data } := by
        rw [UserPeer.applyPatch, hpatch.fieldOf_version]
        dsimp only
        rw [if_pos hadmitted]
      rw [happlied] at hfields hversion
      refine ⟨⟨?_, .inr ⟨_, hmem, hreached.symm, hversion⟩⟩, ?_, fun _ _ =>
        Int.le_of_eq hreached.symm⟩
      · rw [hfields, hreached, h.fields,
          filter_le_next (hsequence.increasing.imp And.left) hmem hlt hbefore, patched, patched,
          List.foldl_append]
        rfl
      · rw [hreached]
        exact Int.le_of_lt hlt

theorem refusal_eq_none_iff {row : ChangeLogRow} (htable : item.table = .text "users")
    (hid : item.changeLogId.coercePositiveInt = some (row.id : Int)) :
    UserPeer.refusal refuses item = none ↔ acceptsPatch refuses row = true := by
  rw [UserPeer.refusal, hid]
  dsimp only
  rw [Int.toNat_natCast, htable, acceptsPatch]
  cases refuses row.id with
  | none => simp
  | some reason => simp

/-- Whatever the peer accepts of an ordered batch keeps the order, if earlier patches are seen, or
in it and accepted. -/
theorem UserPeer.InOrder.receiveBatch (hsequence : InSequence userId first changes)
    (batch : List ChangeLogRow) :
    ∀ peer, InOrder config userId first start changes peer →
      batch.Pairwise (fun earlier later => earlier.id < later.id) →
      (∀ sent ∈ batch, isUserPatch userId sent = true → (sent.id, sent.data) ∈ changes) →
      (∀ sent ∈ batch, isUserPatch userId sent = true → acceptsPatch refuses sent = true →
        ∀ other ∈ changes, other.1 < sent.id → (other.1 : Int) ≤ peer.reached config userId ∨
          ∃ row ∈ batch, row.id = other.1 ∧ isUserPatch userId row = true ∧
            acceptsPatch refuses row = true) →
      InOrder config userId first start changes (UserPeer.receiveItems config userId refuses peer
          (batch.filterMap (resyncItem config))).1 ∧
        peer.reached config userId ≤ (UserPeer.receiveItems config userId refuses peer
          (batch.filterMap (resyncItem config))).1.reached config userId ∧
        ∀ sent ∈ batch, isUserPatch userId sent = true → acceptsPatch refuses sent = true →
          (sent.id : Int) ≤ (UserPeer.receiveItems config userId refuses peer
            (batch.filterMap (resyncItem config))).1.reached config userId := by
  induction batch with
  | nil =>
    intro peer h _ _ _
    exact ⟨h, Int.le_refl _, fun sent hsent => by cases hsent⟩
  | cons row batch ih =>
    intro peer h hsorted hknown hbefore
    obtain ⟨hfirst, hsorted⟩ := List.pairwise_cons.mp hsorted
    have hknown' := fun sent hsent => hknown sent (List.mem_cons_of_mem row hsent)
    -- what is before the first row is not behind it in the batch
    have hseen : isUserPatch userId row = true → acceptsPatch refuses row = true →
        ∀ other ∈ changes, other.1 < row.id → (other.1 : Int) ≤ peer.reached config userId := by
      intro hrow haccepts other hother hlt
      rcases hbefore row List.mem_cons_self hrow haccepts other hother hlt with
        hreached | ⟨found, hfound, hid, -⟩
      · exact hreached
      · rcases List.mem_cons.mp hfound with rfl | hlater
        · omega
        · have hless := hfirst found hlater
          omega
    obtain ⟨next, hnext, hle, hrow, hrest⟩ : ∃ next,
        InOrder config userId first start changes next ∧
        peer.reached config userId ≤ next.reached config userId ∧
        (isUserPatch userId row = true → acceptsPatch refuses row = true →
          (row.id : Int) ≤ next.reached config userId) ∧
        (UserPeer.receiveItems config userId refuses peer
            ((row :: batch).filterMap (resyncItem config))).1 =
          (UserPeer.receiveItems config userId refuses next
            (batch.filterMap (resyncItem config))).1 := by
      cases hitem : resyncItem config row with
      | none =>
        refine ⟨peer, h, Int.le_refl _, fun hrow _ => ?_, by rw [List.filterMap_cons_none hitem]⟩
        obtain ⟨item, -, hbuilt, -⟩ := @items_of_patch config userId row hrow
          (hsequence.patches _ (hknown row List.mem_cons_self hrow)).2.2
        rw [hitem] at hbuilt
        cases hbuilt
      | some item =>
        have hid := (isCopyOf_of_resyncItem hitem).2
        have hpatch : isUserPatch userId row = true → item.data = row.data ∧
            item.isUserPatch userId = true ∧
            (UserPeer.refusal refuses item = none ↔ acceptsPatch refuses row = true) := by
          intro hrow
          obtain ⟨built, -, hbuilt, hdata, htable, huser⟩ := @items_of_patch config userId row hrow
            (hsequence.patches _ (hknown row List.mem_cons_self hrow)).2.2
          rw [hitem] at hbuilt
          cases hbuilt
          exact ⟨hdata, huser, refusal_eq_none_iff htable hid⟩
        have hchange : item.isUserPatch userId = true → UserPeer.refusal refuses item = none →
            (row.id, item.data) ∈ changes ∧
              ∀ other ∈ changes, other.1 < row.id →
                (other.1 : Int) ≤ peer.reached config userId := by
          intro huser hnone
          have hrow : isUserPatch userId row = true := by
            by_contra hnot
            rw [isUserPatch_eq_false_of_resync (Bool.eq_false_iff.mpr hnot) hitem] at huser
            cases huser
          obtain ⟨hdata, -, hrefusal⟩ := hpatch hrow
          rw [hdata]
          exact ⟨hknown row List.mem_cons_self hrow, hseen hrow (hrefusal.mp hnone)⟩
        obtain ⟨hnext, hle, hreached⟩ := h.receiveItem hsequence hid hchange
        refine ⟨_, hnext, hle, fun hrow haccepts => ?_, by rw [List.filterMap_cons_some hitem]; rfl⟩
        obtain ⟨-, huser, hrefusal⟩ := hpatch hrow
        exact hreached huser (hrefusal.mpr haccepts)
    obtain ⟨hlast, hmono, hall⟩ := ih next hnext hsorted hknown' (by
      intro sent hsent hpatch haccepts other hother hlt
      rcases hbefore sent (List.mem_cons_of_mem _ hsent) hpatch haccepts other hother hlt with
        hreached | ⟨found, hfound, hid, hfoundPatch, hfoundAccepts⟩
      · exact .inl (Int.le_trans hreached hle)
      · rcases List.mem_cons.mp hfound with rfl | hlater
        · rw [← hid]
          exact .inl (hrow hfoundPatch hfoundAccepts)
        · exact .inr ⟨found, hlater, hid, hfoundPatch, hfoundAccepts⟩)
    rw [hrest]
    refine ⟨hlast, Int.le_trans hle hmono, fun sent hsent hpatch haccepts => ?_⟩
    rcases List.mem_cons.mp hsent with rfl | hlater
    · exact Int.le_trans (hrow hpatch haccepts) hmono
    · exact hall sent hlater hpatch haccepts

theorem UserPeer.refusal_of_no_errors (items : List SyncItem) :
    ∀ peer, (receiveItems config userId refuses peer items).2 = [] →
      ∀ item ∈ items, refusal refuses item = none := by
  induction items with
  | nil =>
    intro peer _ item hitem
    cases hitem
  | cons head items ih =>
    intro peer herrors item hitem
    rw [receiveItems, List.append_eq_nil_iff] at herrors
    rcases List.mem_cons.mp hitem with rfl | hrest
    · cases hrefusal : refusal refuses item with
      | none => rfl
      | some reason =>
        have herror := herrors.1
        rw [receiveItem, hrefusal] at herror
        exact absurd herror (List.cons_ne_nil _ _)
    · exact ih _ herrors.2 item hrest

end Order

end TradingBot.Sync
