import Mathlib.Algebra.BigOperators.Group.Finset.Basic
import Mathlib.Data.Finset.Sort
import Mathlib.Data.List.Sort
import Mathlib.Data.String.Basic
import TradingBot.Misc.Json

/-!
# Parity snapshots

`src/core/sync_parity.py`: each row of a synced table is reduced to the hash of its identity and the
hashes of its business, local-only and volatile fields, the records of a table make its snapshot,
and snapshots are compared table by table. The hash function, the field policy and `str` are
parameters; what a comparison reports is decided by the rows as soon as no two payloads have one
hash.
-/

namespace TradingBot.Sync.Parity

open TradingBot.Misc

/-- A value of a column: the raw values `_canonical_value` distinguishes. -/
inductive Cell where
  | null
  | bool (value : Bool)
  | int (value : Int)
  | float (text : String)
  | text (value : String)
  /-- A member of an enumeration, by its value. -/
  | member (value : String)
  /-- A datetime, a date or a time, by its `isoformat`. -/
  | moment (isoformat : String)
  | decimal (text : String)
  | mapping (members : List (String × Cell))
  | list (items : List Cell)

def sortMembers (members : List (String × Json)) : List (String × Json) :=
  members.insertionSort fun a b => a.1 ≤ b.1

mutual

def canonicalValue : Cell → Json
  | .null => .null
  | .bool value => .bool value
  | .int value => .int value
  | .float text => .float text
  | .text value => .str value
  | .member value => .str value
  | .moment isoformat => .str isoformat
  | .decimal text => .str text
  | .mapping members => .obj (sortMembers (canonicalMembers members))
  | .list items => .arr (canonicalItems items)

def canonicalItems : List Cell → List Json
  | [] => []
  | item :: items => canonicalValue item :: canonicalItems items

def canonicalMembers : List (String × Cell) → List (String × Json)
  | [] => []
  | (name, value) :: members => (name, canonicalValue value) :: canonicalMembers members

end

/-- The hexadecimal digest of a text, never empty, whether the field policy marks a field no-sync,
and the `str` of a canonical value. -/
structure Env where
  sha256 : String → String
  sha256_ne : ∀ text, sha256 text ≠ ""
  noSync : String → String → Bool
  str : Json → String

def hashPayload (env : Env) (payload : Json) : String :=
  env.sha256 (String.ofList payload.write)

abbrev Row := List (String × Cell)

def Row.get (row : Row) (field : String) : Cell := (row.lookup field).getD .null

/-- `value in (None, "")`. -/
def Cell.isBlank : Cell → Bool
  | .null => true
  | .text value => value = ""
  | _ => false

def identityFieldsByTable : List (String × List String) :=
  [("accountant_relations", ["invitation_token"]),
    ("commodities", ["name"]),
    ("commodity_aliases", ["alias"]),
    ("customer_relations", ["invitation_token"]),
    ("invitations", ["token"]),
    ("market_schedule_overrides", ["date"]),
    ("notifications", ["dedupe_key"]),
    ("offer_publication_states", ["dedupe_key"]),
    ("offer_requests", ["request_home_server", "idempotency_key"]),
    ("offers", ["offer_public_id"]),
    ("telegram_link_tokens", ["token_hash"]),
    ("telegram_admin_broadcast_receipts", ["dedupe_key"]),
    ("telegram_notification_outbox", ["dedupe_key"]),
    ("trade_delivery_receipts", ["dedupe_key"]),
    ("trades", ["trade_number"]),
    ("trading_settings", ["key"]),
    ("user_blocks", ["blocker_id", "blocked_id"]),
    ("user_notification_preferences", ["user_id"])]

def volatileFieldsByTable : List (String × List String) :=
  [("*", ["updated_at"]),
    ("users", ["last_seen_at", "updated_at"]),
    ("offer_publication_states", ["last_attempt_at", "last_success_at", "next_retry_at",
      "updated_at"]),
    ("trade_delivery_receipts", ["next_retry_at", "updated_at"]),
    ("telegram_admin_broadcasts", ["updated_at"]),
    ("telegram_admin_broadcast_receipts", ["next_retry_at", "updated_at"]),
    ("telegram_notification_outbox", ["next_retry_at", "updated_at"])]

def localOnlyFieldsByTable : List (String × List String) :=
  [("commodity_aliases", ["commodity_id"]),
    ("offers", ["channel_message_id", "commodity_id", "republished_offer_id"]),
    ("offer_requests", ["local_offer_id", "resulting_trade_id", "customer_relation_id",
      "telegram_delivery_job_id", "requester_status_outbox_id"]),
    ("trades", ["offer_id", "commodity_id"]),
    ("offer_publication_states", ["id", "offer_id", "surface_resource_id", "telegram_chat_id",
      "telegram_message_id", "error_code", "error_message", "state_metadata"]),
    ("trade_delivery_receipts", ["trade_id", "offer_id", "notification_id", "worker_id",
      "lease_until"]),
    ("telegram_admin_broadcast_receipts", ["worker_id", "lease_until"]),
    ("telegram_notification_outbox", ["worker_id", "lease_until"])]

def sensitiveIdentityFields : List String :=
  ["mobile_number", "phone_number", "token", "token_hash", "short_code", "dedupe_key",
    "used_telegram_id", "telegram_id"]

def volatileFields (table : String) : List String :=
  (volatileFieldsByTable.lookup "*").getD [] ++ (volatileFieldsByTable.lookup table).getD []

/-- Line 169; notifications fall back twice to the same. -/
def identityFieldsForRow (table : String) (row : Row) : List String :=
  match identityFieldsByTable.lookup table with
  | some configured =>
    if configured.all fun field => !(row.get field).isBlank then configured
    else if table = "notifications" && !(row.get "id").isBlank then ["id"]
    else ["id"]
  | none => ["id"]

def localDbIdentityFields (table : String) (row : Row) : List String :=
  if identityFieldsForRow table row = ["id"] then [] else ["id"]

def localOnlyFields (table : String) : List String :=
  (localOnlyFieldsByTable.lookup table).getD []

/-- Line 181, in the order `json.dumps` sorts it. -/
def identityPayload (table : String) (row : Row) : Json :=
  let fields := identityFieldsForRow table row
  .obj [("fields", .arr (fields.map .str)), ("table", .str table),
    ("values", .obj (sortMembers (fields.map fun field =>
      (field, canonicalValue (row.get field)))))]

def identityLabel (env : Env) (table : String) (row : Row) : Option String :=
  let fields := identityFieldsForRow table row
  if fields.any fun field => sensitiveIdentityFields.contains field then none
  else if fields.any fun field => (row.get field).isBlank then none
  else some ("|".intercalate (fields.map fun field => env.str (canonicalValue (row.get field))))

/-- The three groups `_classify_fields` sorts the fields of a row into. -/
inductive FieldGroup where
  | business | localOnly | volatile
  deriving DecidableEq

/-- The group of a field (the loop body of `_classify_fields`, sync_parity.py:206). -/
def fieldGroup (env : Env) (table : String) (row : Row) (key : String) : FieldGroup :=
  if (localOnlyFields table ++ localDbIdentityFields table row).contains key ||
      env.noSync table key then
    .localOnly
  else if (volatileFields table).contains key then .volatile
  else .business

def groupPayload (env : Env) (table : String) (group : FieldGroup) (row : Row) : Json :=
  .obj (((row.map Prod.fst).insertionSort (· ≤ ·) |>.filter fun key =>
    fieldGroup env table row key = group).map fun key => (key, canonicalValue (row.get key)))

/-- What `build_record_parity` returns. -/
structure RecordParity where
  identityHash : String
  identityFields : List String
  businessHash : String
  localOnlyHash : String
  volatileHash : String
  identityLabel : Option String

def buildRecordParity (env : Env) (table : String) (row : Row) : RecordParity where
  identityHash := hashPayload env (identityPayload table row)
  identityFields := identityFieldsForRow table row
  businessHash := hashPayload env (groupPayload env table .business row)
  localOnlyHash := hashPayload env (groupPayload env table .localOnly row)
  volatileHash := hashPayload env (groupPayload env table .volatile row)
  identityLabel := identityLabel env table row

def RecordParity.payload (record : RecordParity) : Json :=
  .obj [("business_hash", .str record.businessHash), ("identity_hash", .str record.identityHash),
    ("local_only_hash", .str record.localOnlyHash), ("volatile_hash", .str record.volatileHash)]

/-- What `build_table_parity_snapshot` returns. -/
structure TableSnapshot where
  table : String
  rowCount : Nat
  truncated : Bool
  duplicateIdentityCount : Nat
  duplicateIdentityHashes : List String
  recordsHash : String
  records : List RecordParity

def duplicates (hashes : List String) : List String :=
  (hashes.toFinset.filter fun hash => 1 < hashes.count hash).sort (· ≤ ·)

/-- `sum(count - 1 for count in counts.values() if count > 1)`. -/
def duplicateCount (hashes : List String) : Nat :=
  (hashes.toFinset.filter fun hash => 1 < hashes.count hash).sum fun hash => hashes.count hash - 1

def buildTableParitySnapshot (env : Env) (table : String) (rows : List Row)
    (maxRows : Option Nat) : TableSnapshot :=
  let kept := match maxRows with
    | some bound => rows.take bound
    | none => rows
  let truncated := match maxRows with
    | some bound => decide (bound < rows.length)
    | none => false
  let records := (kept.map (buildRecordParity env table)).mergeSort fun a b =>
    a.identityHash ≤ b.identityHash
  let hashes := records.map (·.identityHash)
  { table, rowCount := records.length, truncated
    duplicateIdentityCount := duplicateCount hashes
    duplicateIdentityHashes := (duplicates hashes).take 20
    recordsHash := hashPayload env (.arr (records.map RecordParity.payload))
    records }

/-! ## The comparison -/

inductive Severity where
  | ok | incomplete | criticalDrift | businessDrift | localOnlyDifference | volatileDifference
  deriving DecidableEq

inductive Status where
  | ok | incomplete | criticalDrift | businessDrift | nonBusinessDifference
  deriving DecidableEq

def emptyTable : TableSnapshot := ⟨"", 0, false, 0, [], "", []⟩

def keyedRecords (snapshot : TableSnapshot) : List RecordParity :=
  snapshot.records.filter fun record => record.identityHash ≠ ""

/-- `_records_by_identity` (line 390) at a hash: of several records, the last. -/
def recordByIdentity (snapshot : TableSnapshot) (hash : String) : Option RecordParity :=
  (keyedRecords snapshot).reverse.find? fun record => record.identityHash = hash

/-- The keys of `_records_by_identity`. -/
def identityHashes (snapshot : TableSnapshot) : Finset String :=
  ((keyedRecords snapshot).map (·.identityHash)).toFinset

def duplicateIdentityHashes (snapshot : TableSnapshot) : List String :=
  duplicates ((keyedRecords snapshot).map (·.identityHash))

/-- `int(table.get("row_count") or len(records))`. -/
def effectiveRowCount (snapshot : TableSnapshot) : Nat :=
  if snapshot.rowCount = 0 then (identityHashes snapshot).card else snapshot.rowCount

/-- The `samples` of a table's report. -/
structure Samples where
  missingOnLocal : List String
  missingOnPeer : List String
  localDuplicateIdentities : List String
  peerDuplicateIdentities : List String
  businessMismatches : List String
  localOnlyDifferences : List String
  volatileDifferences : List String

structure TableReport where
  severity : Severity
  localRowCount : Nat
  peerRowCount : Nat
  localTruncated : Bool
  peerTruncated : Bool
  rowCountMismatch : Bool
  localDuplicateIdentityCount : Nat
  peerDuplicateIdentityCount : Nat
  missingOnLocalCount : Nat
  missingOnPeerCount : Nat
  businessMismatchCount : Nat
  localOnlyDifferenceCount : Nat
  volatileDifferenceCount : Nat
  samples : Samples

def recordDifference (own other : TableSnapshot) (hash : String) : Option FieldGroup :=
  match recordByIdentity own hash, recordByIdentity other hash with
  | some own, some other =>
    if own.businessHash ≠ other.businessHash then some .business
    else if own.localOnlyHash ≠ other.localOnlyHash then some .localOnly
    else if own.volatileHash ≠ other.volatileHash then some .volatile
    else none
  | _, _ => none

def mismatches (own other : TableSnapshot) (group : FieldGroup) : List String :=
  ((identityHashes own ∩ identityHashes other).sort (· ≤ ·)).filter fun hash =>
    recordDifference own other hash = some group

/-- The identities of `other` that `own` has not, in order. -/
def missing (own other : TableSnapshot) : List String :=
  (identityHashes other \ identityHashes own).sort (· ≤ ·)

def tableSeverity (own peer : TableSnapshot) : Severity :=
  if own.truncated || peer.truncated then .incomplete
  else if own.duplicateIdentityCount ≠ 0 ∨ peer.duplicateIdentityCount ≠ 0 then .criticalDrift
  else if missing own peer ≠ [] ∨ missing peer own ≠ [] ∨
      effectiveRowCount own ≠ effectiveRowCount peer then .criticalDrift
  else if mismatches own peer .business ≠ [] then .businessDrift
  else if mismatches own peer .localOnly ≠ [] then .localOnlyDifference
  else if mismatches own peer .volatile ≠ [] then .volatileDifference
  else .ok

/-- The report of one table (the loop body of `compare_parity_snapshots`, sync_parity.py:457). -/
def compareTable (sampleLimit : Nat) (own peer : TableSnapshot) : TableReport where
  severity := tableSeverity own peer
  localRowCount := effectiveRowCount own
  peerRowCount := effectiveRowCount peer
  localTruncated := own.truncated
  peerTruncated := peer.truncated
  rowCountMismatch := effectiveRowCount own ≠ effectiveRowCount peer
  localDuplicateIdentityCount := own.duplicateIdentityCount
  peerDuplicateIdentityCount := peer.duplicateIdentityCount
  missingOnLocalCount := (missing own peer).length
  missingOnPeerCount := (missing peer own).length
  businessMismatchCount := (mismatches own peer .business).length
  localOnlyDifferenceCount := (mismatches own peer .localOnly).length
  volatileDifferenceCount := (mismatches own peer .volatile).length
  samples :=
    { missingOnLocal := (missing own peer).take sampleLimit
      missingOnPeer := (missing peer own).take sampleLimit
      localDuplicateIdentities := (duplicateIdentityHashes own).take sampleLimit
      peerDuplicateIdentities := (duplicateIdentityHashes peer).take sampleLimit
      businessMismatches := (mismatches own peer .business).take sampleLimit
      localOnlyDifferences := (mismatches own peer .localOnly).take sampleLimit
      volatileDifferences := (mismatches own peer .volatile).take sampleLimit }

structure SeverityCounts where
  incomplete : Nat
  criticalDrift : Nat
  businessDrift : Nat
  localOnlyDifference : Nat
  volatileDifference : Nat

/-- What `compare_parity_snapshots` returns. -/
structure Report where
  status : Status
  schemaVersion : Nat
  tableCount : Nat
  severityCounts : SeverityCounts
  tables : List (String × TableReport)

def countSeverities (reports : List (String × TableReport)) : SeverityCounts :=
  let count := fun severity => reports.countP fun report => report.2.severity = severity
  { incomplete := count .incomplete
    criticalDrift := count .criticalDrift
    businessDrift := count .businessDrift
    localOnlyDifference := count .localOnlyDifference
    volatileDifference := count .volatileDifference }

def overallStatus (counts : SeverityCounts) : Status :=
  if counts.incomplete ≠ 0 then .incomplete
  else if counts.criticalDrift ≠ 0 then .criticalDrift
  else if counts.businessDrift ≠ 0 then .businessDrift
  else if counts.localOnlyDifference ≠ 0 ∨ counts.volatileDifference ≠ 0 then
    .nonBusinessDifference
  else .ok

abbrev Snapshot := List (String × TableSnapshot)

def Snapshot.tableOf (snapshot : Snapshot) (table : String) : TableSnapshot :=
  (snapshot.lookup table).getD emptyTable

/-- `sorted(set(local_tables) | set(peer_tables))`. -/
def tableNames {α : Type} (own peer : List (String × α)) : List String :=
  ((own.map Prod.fst).toFinset ∪ (peer.map Prod.fst).toFinset).sort (· ≤ ·)

def compareParitySnapshots (own peer : Snapshot) (sampleLimit : Nat) : Report :=
  let reports := (tableNames own peer).map fun table =>
    (table, compareTable sampleLimit (own.tableOf table) (peer.tableOf table))
  { status := overallStatus (countSeverities reports)
    schemaVersion := 1
    tableCount := (tableNames own peer).length
    severityCounts := countSeverities reports
    tables := reports }

def TableReport.mirrored (report : TableReport) : TableReport :=
  { report with
    localRowCount := report.peerRowCount
    peerRowCount := report.localRowCount
    localTruncated := report.peerTruncated
    peerTruncated := report.localTruncated
    localDuplicateIdentityCount := report.peerDuplicateIdentityCount
    peerDuplicateIdentityCount := report.localDuplicateIdentityCount
    missingOnLocalCount := report.missingOnPeerCount
    missingOnPeerCount := report.missingOnLocalCount
    samples :=
      { report.samples with
        missingOnLocal := report.samples.missingOnPeer
        missingOnPeer := report.samples.missingOnLocal
        localDuplicateIdentities := report.samples.peerDuplicateIdentities
        peerDuplicateIdentities := report.samples.localDuplicateIdentities } }

def Report.mirrored (report : Report) : Report :=
  { report with tables := report.tables.map fun entry => (entry.1, entry.2.mirrored) }

variable (own peer : TableSnapshot)

theorem recordDifference_comm (hash : String) :
    recordDifference peer own hash = recordDifference own peer hash := by
  unfold recordDifference
  cases recordByIdentity own hash with
  | none => cases recordByIdentity peer hash <;> rfl
  | some first =>
    cases recordByIdentity peer hash with
    | none => rfl
    | some second => simp only [ne_comm]

theorem mismatches_comm (group : FieldGroup) :
    mismatches peer own group = mismatches own peer group := by
  simp only [mismatches, Finset.inter_comm (identityHashes peer), recordDifference_comm own peer]

theorem tableSeverity_comm : tableSeverity peer own = tableSeverity own peer := by
  unfold tableSeverity
  simp only [mismatches_comm own peer, Bool.or_comm peer.truncated,
    or_comm (a := peer.duplicateIdentityCount ≠ 0), ne_comm (a := effectiveRowCount peer),
    or_left_comm (a := missing peer own ≠ [])]

theorem compareTable_mirrored (sampleLimit : Nat) :
    compareTable sampleLimit peer own = (compareTable sampleLimit own peer).mirrored := by
  simp only [compareTable, TableReport.mirrored, tableSeverity_comm own peer,
    mismatches_comm own peer, ne_comm (a := effectiveRowCount peer)]

theorem tableNames_comm {α : Type} (own peer : List (String × α)) :
    tableNames peer own = tableNames own peer := by
  rw [tableNames, Finset.union_comm, tableNames]

theorem countSeverities_mirrored (reports : List (String × TableReport)) :
    countSeverities (reports.map fun entry => (entry.1, entry.2.mirrored)) =
      countSeverities reports := by
  simp only [countSeverities, List.countP_map, Function.comp_def, TableReport.mirrored]

theorem compareParitySnapshots_mirrored (own peer : Snapshot) (sampleLimit : Nat) :
    compareParitySnapshots peer own sampleLimit =
      (compareParitySnapshots own peer sampleLimit).mirrored := by
  have hreports : (tableNames own peer).map (fun table =>
        (table, compareTable sampleLimit (peer.tableOf table) (own.tableOf table))) =
      ((tableNames own peer).map fun table =>
        (table, compareTable sampleLimit (own.tableOf table) (peer.tableOf table))).map
          fun entry => (entry.1, entry.2.mirrored) := by
    rw [List.map_map]
    refine List.map_congr_left fun table _ => ?_
    exact congrArg (Prod.mk table) (compareTable_mirrored _ _ sampleLimit)
  simp only [compareParitySnapshots, Report.mirrored, tableNames_comm own peer, hreports,
    countSeverities_mirrored]

/-! ## What a comparison says of the rows -/

abbrev Tables := List (String × List Row)

def Tables.rowsOf (tables : Tables) (table : String) : List Row := (tables.lookup table).getD []

/-- The table loop of `build_database_parity_snapshot` (line 361). -/
def Tables.snapshot (env : Env) (maxRows : Option Nat) (tables : Tables) : Snapshot :=
  tables.map fun entry => (entry.1, buildTableParitySnapshot env entry.1 entry.2 maxRows)

/-- Both sides hold the same row identities, each once, with equal business fields. -/
structure InStep (env : Env) (table : String) (ownRows peerRows : List Row) : Prop where
  ownOnce : (ownRows.map (identityPayload table)).Nodup
  peerOnce : (peerRows.map (identityPayload table)).Nodup
  same : ∀ identity, identity ∈ ownRows.map (identityPayload table) ↔
    identity ∈ peerRows.map (identityPayload table)
  business : ∀ row ∈ ownRows, ∀ other ∈ peerRows,
    identityPayload table row = identityPayload table other →
      groupPayload env table .business row = groupPayload env table .business other

/-- No two payloads hashed of these rows differ and have one hash. -/
def CollisionFree (env : Env) (payload : Row → Json) (rows : List Row) : Prop :=
  ∀ row ∈ rows, ∀ other ∈ rows,
    hashPayload env (payload row) = hashPayload env (payload other) → payload row = payload other

structure Represents (env : Env) (table : String) (rows : List Row) (snapshot : TableSnapshot) :
    Prop where
  whole : snapshot.truncated = false
  records : snapshot.records.Perm (rows.map (buildRecordParity env table))
  count : snapshot.rowCount = rows.length
  duplicates : snapshot.duplicateIdentityCount =
    duplicateCount (snapshot.records.map (·.identityHash))

variable {env : Env} {table : String} {rows : List Row} {maxRows : Option Nat} {tables : Tables}

theorem represents_build (h : (buildTableParitySnapshot env table rows maxRows).truncated = false) :
    Represents env table rows (buildTableParitySnapshot env table rows maxRows) := by
  refine ⟨h, ?_, ?_, rfl⟩ <;> cases maxRows with
  | none => simp [buildTableParitySnapshot, List.mergeSort_perm]
  | some bound =>
    have hkept : rows.take bound = rows :=
      List.take_of_length_le (by simpa [buildTableParitySnapshot] using h)
    simp [buildTableParitySnapshot, hkept, List.mergeSort_perm]

theorem represents_tableOf
    (h : ∀ table, ((tables.snapshot env maxRows).tableOf table).truncated = false)
    (table : String) :
    Represents env table (tables.rowsOf table) ((tables.snapshot env maxRows).tableOf table) := by
  have hlookup : (tables.snapshot env maxRows).lookup table =
      (tables.lookup table).map fun rows => buildTableParitySnapshot env table rows maxRows := by
    clear h
    induction tables with
    | nil => rfl
    | cons entry tables ih =>
      obtain ⟨name, rows⟩ := entry
      rw [Tables.snapshot, List.map_cons, List.lookup_cons, List.lookup_cons]
      by_cases hname : table = name
      · subst hname
        simp
      · rw [beq_eq_false_iff_ne.mpr hname]
        exact ih
  have hwhole := h table
  rw [Snapshot.tableOf, hlookup] at hwhole ⊢
  rw [Tables.rowsOf]
  cases hrows : tables.lookup table with
  | none => exact ⟨rfl, by simp [emptyTable], rfl, rfl⟩
  | some rows =>
    rw [hrows] at hwhole
    exact represents_build hwhole

def identityHashOf (env : Env) (table : String) (row : Row) : String :=
  hashPayload env (identityPayload table row)

theorem duplicateCount_eq_zero {hashes : List String} :
    duplicateCount hashes = 0 ↔ hashes.Nodup := by
  rw [duplicateCount, Finset.sum_eq_zero_iff, List.nodup_iff_count_le_one]
  constructor
  · intro h hash
    by_contra hmany
    have hmem : hash ∈ hashes := List.count_pos_iff.mp (by omega)
    have := h hash (by simpa [hmem] using hmany)
    omega
  · intro h hash hmem
    have := h hash
    omega

theorem mem_missing {own peer : TableSnapshot} {hash : String} :
    hash ∈ missing own peer ↔ hash ∈ identityHashes peer ∧ hash ∉ identityHashes own := by
  rw [missing, Finset.mem_sort, Finset.mem_sdiff]

theorem missing_eq_nil {own peer : TableSnapshot} :
    missing own peer = [] ↔ identityHashes peer ⊆ identityHashes own := by
  simp only [List.eq_nil_iff_forall_not_mem, mem_missing, not_and, not_not]
  rfl

namespace Represents

variable {snapshot : TableSnapshot}

theorem keyedRecords_eq (h : Represents env table rows snapshot) :
    keyedRecords snapshot = snapshot.records := by
  refine List.filter_eq_self.mpr fun record hrecord => ?_
  obtain ⟨row, -, rfl⟩ := List.mem_map.mp (h.records.mem_iff.mp hrecord)
  exact decide_eq_true (env.sha256_ne _)

theorem identityHashes_eq (h : Represents env table rows snapshot) :
    identityHashes snapshot = (rows.map (identityHashOf env table)).toFinset := by
  rw [identityHashes, h.keyedRecords_eq, List.toFinset_eq_of_perm _ _ (h.records.map _),
    List.map_map]
  rfl

theorem effectiveRowCount_eq (h : Represents env table rows snapshot) :
    effectiveRowCount snapshot = rows.length := by
  rw [effectiveRowCount, h.count, h.identityHashes_eq]
  split
  · rename_i hzero
    rw [List.length_eq_zero_iff.mp hzero]
    rfl
  · rfl

theorem duplicateIdentityCount_eq_zero (h : Represents env table rows snapshot) :
    snapshot.duplicateIdentityCount = 0 ↔ (rows.map (identityHashOf env table)).Nodup := by
  rw [h.duplicates, duplicateCount_eq_zero, (h.records.map _).nodup_iff, List.map_map]
  rfl

theorem recordByIdentity_eq (h : Represents env table rows snapshot)
    (honce : (rows.map (identityHashOf env table)).Nodup) {row : Row} (hrow : row ∈ rows) :
    recordByIdentity snapshot (identityHashOf env table row) =
      some (buildRecordParity env table row) := by
  rw [recordByIdentity, h.keyedRecords_eq]
  have hmem : buildRecordParity env table row ∈ snapshot.records.reverse :=
    List.mem_reverse.mpr (h.records.mem_iff.mpr (List.mem_map_of_mem hrow))
  have hsome : (snapshot.records.reverse.find? fun record =>
      record.identityHash = identityHashOf env table row).isSome := by
    rw [List.find?_isSome]
    exact ⟨_, hmem, decide_eq_true rfl⟩
  obtain ⟨found, hfound⟩ := Option.isSome_iff_exists.mp hsome
  have hin := h.records.mem_iff.mp (List.mem_reverse.mp (List.mem_of_find?_eq_some hfound))
  obtain ⟨other, hother, rfl⟩ := List.mem_map.mp hin
  have hhash := List.find?_some hfound
  rw [decide_eq_true_eq] at hhash
  rw [hfound, List.inj_on_of_nodup_map honce hother hrow hhash]

end Represents

section TableSeverity

variable {ownRows peerRows : List Row} {own peer : TableSnapshot}
  (hown : Represents env table ownRows own) (hpeer : Represents env table peerRows peer)
  (hidentity : CollisionFree env (identityPayload table) (ownRows ++ peerRows))
  (hbusiness : CollisionFree env (groupPayload env table .business) (ownRows ++ peerRows))

structure SameHashes (env : Env) (table : String) (ownRows peerRows : List Row) : Prop where
  ownOnce : (ownRows.map (identityHashOf env table)).Nodup
  peerOnce : (peerRows.map (identityHashOf env table)).Nodup
  same : (ownRows.map (identityHashOf env table)).toFinset =
    (peerRows.map (identityHashOf env table)).toFinset

include hown hpeer in
theorem sameHashes_iff :
    SameHashes env table ownRows peerRows ↔
      (own.duplicateIdentityCount = 0 ∧ peer.duplicateIdentityCount = 0) ∧
        missing own peer = [] ∧ missing peer own = [] ∧
          effectiveRowCount own = effectiveRowCount peer := by
  rw [hown.duplicateIdentityCount_eq_zero, hpeer.duplicateIdentityCount_eq_zero, missing_eq_nil,
    missing_eq_nil, hown.identityHashes_eq, hpeer.identityHashes_eq, hown.effectiveRowCount_eq,
    hpeer.effectiveRowCount_eq]
  constructor
  · intro h
    refine ⟨⟨h.ownOnce, h.peerOnce⟩, h.same.ge, h.same.le, ?_⟩
    have hcard := congrArg Finset.card h.same
    rwa [List.toFinset_card_of_nodup h.ownOnce, List.toFinset_card_of_nodup h.peerOnce,
      List.length_map, List.length_map] at hcard
  · rintro ⟨⟨hownOnce, hpeerOnce⟩, hle, hge, -⟩
    exact ⟨hownOnce, hpeerOnce, Finset.Subset.antisymm hge hle⟩

include hown hpeer in
theorem business_mismatches_eq_nil (hsame : SameHashes env table ownRows peerRows) :
    mismatches own peer .business = [] ↔ ∀ row ∈ ownRows, ∀ other ∈ peerRows,
      identityHashOf env table row = identityHashOf env table other →
        hashPayload env (groupPayload env table .business row) =
          hashPayload env (groupPayload env table .business other) := by
  have hat : ∀ row ∈ ownRows, ∀ other ∈ peerRows,
      identityHashOf env table row = identityHashOf env table other →
        (recordDifference own peer (identityHashOf env table row) = some .business ↔
          hashPayload env (groupPayload env table .business row) ≠
            hashPayload env (groupPayload env table .business other)) := by
    intro row hrow other hother hhash
    have hfirst := hown.recordByIdentity_eq hsame.ownOnce hrow
    have hsecond := hpeer.recordByIdentity_eq hsame.peerOnce hother
    rw [← hhash] at hsecond
    simp only [recordDifference, hfirst, hsecond, buildRecordParity]
    split
    · rename_i hne
      simp [hne]
    · rename_i heq
      simp only [heq, iff_false]
      split
      · simp
      · split <;> simp
  simp only [mismatches, List.filter_eq_nil_iff, Finset.mem_sort, Finset.mem_inter,
    decide_eq_true_eq, hown.identityHashes_eq, hpeer.identityHashes_eq, List.mem_toFinset]
  constructor
  · intro h row hrow other hother hhash
    have hcommon := h (identityHashOf env table row)
      ⟨List.mem_map_of_mem hrow, hhash ▸ List.mem_map_of_mem hother⟩
    rw [hat row hrow other hother hhash, not_not] at hcommon
    exact hcommon
  · rintro h hash ⟨hfirst, hsecond⟩
    obtain ⟨row, hrow, rfl⟩ := List.mem_map.mp hfirst
    obtain ⟨other, hother, hhash⟩ := List.mem_map.mp hsecond
    rw [hat row hrow other hother hhash.symm, not_not]
    exact h row hrow other hother hhash.symm

include hidentity hbusiness in
theorem inStep_iff :
    InStep env table ownRows peerRows ↔ SameHashes env table ownRows peerRows ∧
      ∀ row ∈ ownRows, ∀ other ∈ peerRows,
        identityHashOf env table row = identityHashOf env table other →
          hashPayload env (groupPayload env table .business row) =
            hashPayload env (groupPayload env table .business other) := by
  have honce : ∀ rows : List Row, rows ⊆ ownRows ++ peerRows →
      ((rows.map (identityPayload table)).Nodup ↔
        (rows.map (identityHashOf env table)).Nodup) := by
    intro rows hsub
    have hmap : rows.map (identityHashOf env table) =
        (rows.map (identityPayload table)).map (hashPayload env) := by
      rw [List.map_map]
      rfl
    rw [hmap]
    refine ⟨fun h => h.map_on fun identity hmem other hother hhash => ?_, List.Nodup.of_map _⟩
    obtain ⟨row, hrow, rfl⟩ := List.mem_map.mp hmem
    obtain ⟨second, hsecond, rfl⟩ := List.mem_map.mp hother
    exact hidentity row (hsub hrow) second (hsub hsecond) hhash
  -- an identity whose hash is on the other side is there itself
  have hfrom : ∀ rows others : List Row, rows ⊆ ownRows ++ peerRows →
      others ⊆ ownRows ++ peerRows → (rows.map (identityHashOf env table)).toFinset ⊆
        (others.map (identityHashOf env table)).toFinset →
      ∀ identity ∈ rows.map (identityPayload table),
        identity ∈ others.map (identityPayload table) := by
    intro rows others hrows hothers hsub identity hmem
    obtain ⟨row, hrow, rfl⟩ := List.mem_map.mp hmem
    have hhash : identityHashOf env table row ∈ others.map (identityHashOf env table) :=
      List.mem_toFinset.mp (hsub (List.mem_toFinset.mpr (List.mem_map_of_mem hrow)))
    obtain ⟨other, hother, heq⟩ := List.mem_map.mp hhash
    rw [← hidentity other (hothers hother) row (hrows hrow) heq]
    exact List.mem_map_of_mem hother
  have hto : ∀ rows others : List Row, (∀ identity, identity ∈ rows.map (identityPayload table) →
      identity ∈ others.map (identityPayload table)) →
      (rows.map (identityHashOf env table)).toFinset ⊆
        (others.map (identityHashOf env table)).toFinset := by
    intro rows others hsub hash hmem
    obtain ⟨row, hrow, rfl⟩ := List.mem_map.mp (List.mem_toFinset.mp hmem)
    obtain ⟨other, hother, heq⟩ := List.mem_map.mp (hsub _ (List.mem_map_of_mem hrow))
    rw [List.mem_toFinset, identityHashOf, ← heq]
    exact List.mem_map_of_mem hother
  have hown := List.subset_append_left ownRows peerRows
  have hpeer := List.subset_append_right ownRows peerRows
  constructor
  · rintro ⟨hownOnce, hpeerOnce, hsame, hequal⟩
    refine ⟨⟨(honce _ hown).mp hownOnce, (honce _ hpeer).mp hpeerOnce, ?_⟩, ?_⟩
    · exact Finset.Subset.antisymm (hto _ _ fun identity => (hsame identity).mp)
        (hto _ _ fun identity => (hsame identity).mpr)
    · intro row hrow other hother hhash
      have hid := hidentity row (hown hrow) other (hpeer hother) hhash
      rw [hequal row hrow other hother hid]
  · rintro ⟨⟨hownOnce, hpeerOnce, hsame⟩, hequal⟩
    refine ⟨(honce _ hown).mpr hownOnce, (honce _ hpeer).mpr hpeerOnce, ?_, ?_⟩
    · intro identity
      exact ⟨hfrom _ _ hown hpeer hsame.le identity, hfrom _ _ hpeer hown hsame.ge identity⟩
    · intro row hrow other hother hid
      refine hbusiness row (hown hrow) other (hpeer hother) (hequal row hrow other hother ?_)
      rw [identityHashOf, hid, identityHashOf]

include hown hpeer hidentity hbusiness in
theorem tableSeverity_of_inStep (h : InStep env table ownRows peerRows) :
    tableSeverity own peer = .ok ∨ tableSeverity own peer = .localOnlyDifference ∨
      tableSeverity own peer = .volatileDifference := by
  obtain ⟨hsame, hequal⟩ := (inStep_iff hidentity hbusiness).mp h
  obtain ⟨⟨hownZero, hpeerZero⟩, hlocal, hremote, hcount⟩ := (sameHashes_iff hown hpeer).mp hsame
  have hnone := (business_mismatches_eq_nil hown hpeer hsame).mpr hequal
  simp only [tableSeverity, hown.whole, hpeer.whole, hownZero, hpeerZero, hlocal, hremote, hcount,
    hnone, Bool.or_self, ne_eq, not_true_eq_false, or_self, if_false, Bool.false_eq_true]
  split
  · exact .inr (.inl rfl)
  · split
    · exact .inr (.inr rfl)
    · exact .inl rfl

include hown hpeer hidentity hbusiness in
theorem tableSeverity_of_not_inStep (h : ¬InStep env table ownRows peerRows) :
    tableSeverity own peer = .criticalDrift ∨ tableSeverity own peer = .businessDrift := by
  rw [inStep_iff hidentity hbusiness] at h
  simp only [tableSeverity, hown.whole, hpeer.whole, Bool.or_self, Bool.false_eq_true, if_false]
  by_cases hsame : SameHashes env table ownRows peerRows
  · have hsome : mismatches own peer .business ≠ [] := fun hnil =>
      h ⟨hsame, (business_mismatches_eq_nil hown hpeer hsame).mp hnil⟩
    obtain ⟨⟨hownZero, hpeerZero⟩, hlocal, hremote, hcount⟩ := (sameHashes_iff hown hpeer).mp hsame
    simp [hownZero, hpeerZero, hlocal, hremote, hcount, hsome]
  · rw [sameHashes_iff hown hpeer] at hsame
    left
    split
    · rfl
    · rename_i hzero
      rw [if_pos]
      by_contra hnone
      push Not at hzero hnone
      exact hsame ⟨hzero, hnone⟩

end TableSeverity

theorem overallStatus_cases {reports : List (String × TableReport)}
    (hwhole : ∀ entry ∈ reports, entry.2.severity ≠ .incomplete) :
    ((∀ entry ∈ reports, entry.2.severity ≠ .criticalDrift ∧ entry.2.severity ≠ .businessDrift) ∧
      (overallStatus (countSeverities reports) = .ok ∨
        overallStatus (countSeverities reports) = .nonBusinessDifference)) ∨
    ((∃ entry ∈ reports, entry.2.severity = .criticalDrift ∨ entry.2.severity = .businessDrift) ∧
      (overallStatus (countSeverities reports) = .criticalDrift ∨
        overallStatus (countSeverities reports) = .businessDrift)) := by
  have hzero : ∀ severity, (reports.countP fun entry => entry.2.severity = severity) = 0 ↔
      ∀ entry ∈ reports, entry.2.severity ≠ severity := by
    intro severity
    simp only [List.countP_eq_zero, decide_eq_true_eq]
  have hincomplete : (countSeverities reports).incomplete = 0 := (hzero _).mpr hwhole
  unfold overallStatus
  rw [if_neg (not_not.mpr hincomplete)]
  by_cases hcritical : (countSeverities reports).criticalDrift = 0
  · rw [if_neg (not_not.mpr hcritical)]
    by_cases hbusiness : (countSeverities reports).businessDrift = 0
    · rw [if_neg (not_not.mpr hbusiness)]
      refine .inl ⟨fun entry hmem =>
        ⟨(hzero _).mp hcritical entry hmem, (hzero _).mp hbusiness entry hmem⟩, ?_⟩
      split
      · exact .inr rfl
      · exact .inl rfl
    · rw [if_pos hbusiness]
      obtain ⟨entry, hmem, hdrift⟩ := List.countP_pos_iff.mp (Nat.pos_of_ne_zero hbusiness)
      exact .inr ⟨⟨entry, hmem, .inr (of_decide_eq_true hdrift)⟩, .inr rfl⟩
  · rw [if_pos hcritical]
    obtain ⟨entry, hmem, hdrift⟩ := List.countP_pos_iff.mp (Nat.pos_of_ne_zero hcritical)
    exact .inr ⟨⟨entry, hmem, .inl (of_decide_eq_true hdrift)⟩, .inl rfl⟩

theorem rowsOf_eq_nil {table : String}
    (h : table ∉ (tables.snapshot env maxRows).map Prod.fst) : tables.rowsOf table = [] := by
  rw [Tables.snapshot, List.map_map] at h
  have hnone : tables.lookup table = none := by
    rw [List.lookup_eq_none_iff]
    intro entry hentry
    rw [bne_iff_ne]
    rintro rfl
    exact h (List.mem_map_of_mem hentry)
  rw [Tables.rowsOf, hnone, Option.getD_none]

theorem inStep_nil : InStep env table [] [] :=
  ⟨List.nodup_nil, List.nodup_nil, fun _ => Iff.rfl, fun _ h => absurd h List.not_mem_nil⟩

/-- Two whole snapshots are reported equal up to local and volatile fields iff every table is in
step; otherwise a drift is reported, and the opposite comparison reports the mirror image. -/
theorem compareParitySnapshots_exact (env : Env) (maxRows : Option Nat) (sampleLimit : Nat)
    (own peer : Tables)
    (hown : ∀ table, ((own.snapshot env maxRows).tableOf table).truncated = false)
    (hpeer : ∀ table, ((peer.snapshot env maxRows).tableOf table).truncated = false)
    (hidentity : ∀ table, CollisionFree env (identityPayload table)
      (own.rowsOf table ++ peer.rowsOf table))
    (hbusiness : ∀ table, CollisionFree env (groupPayload env table .business)
      (own.rowsOf table ++ peer.rowsOf table)) :
    let report := compareParitySnapshots (own.snapshot env maxRows) (peer.snapshot env maxRows)
      sampleLimit
    ((report.status = .ok ∨ report.status = .nonBusinessDifference) ↔
      ∀ table, InStep env table (own.rowsOf table) (peer.rowsOf table)) ∧
    ((¬∀ table, InStep env table (own.rowsOf table) (peer.rowsOf table)) →
      report.status = .criticalDrift ∨ report.status = .businessDrift) ∧
    compareParitySnapshots (peer.snapshot env maxRows) (own.snapshot env maxRows) sampleLimit =
      report.mirrored := by
  intro report
  let severityOf := fun table => tableSeverity ((own.snapshot env maxRows).tableOf table)
    ((peer.snapshot env maxRows).tableOf table)
  have hin : ∀ table, InStep env table (own.rowsOf table) (peer.rowsOf table) →
      severityOf table = .ok ∨ severityOf table = .localOnlyDifference ∨
        severityOf table = .volatileDifference := fun table =>
    tableSeverity_of_inStep (represents_tableOf hown table) (represents_tableOf hpeer table)
      (hidentity table) (hbusiness table)
  have hout : ∀ table, ¬InStep env table (own.rowsOf table) (peer.rowsOf table) →
      severityOf table = .criticalDrift ∨ severityOf table = .businessDrift := fun table =>
    tableSeverity_of_not_inStep (represents_tableOf hown table) (represents_tableOf hpeer table)
      (hidentity table) (hbusiness table)
  have hnames : ∀ table, ¬InStep env table (own.rowsOf table) (peer.rowsOf table) →
      table ∈ tableNames (own.snapshot env maxRows) (peer.snapshot env maxRows) := by
    intro table hstep
    by_contra hmem
    rw [tableNames, Finset.mem_sort, Finset.mem_union, List.mem_toFinset, List.mem_toFinset,
      not_or] at hmem
    rw [rowsOf_eq_nil hmem.1, rowsOf_eq_nil hmem.2] at hstep
    exact hstep inStep_nil
  have hwhole : ∀ entry ∈ report.tables, entry.2.severity ≠ .incomplete := by
    intro entry hentry
    obtain ⟨table, -, rfl⟩ := List.mem_map.mp hentry
    change severityOf table ≠ .incomplete
    by_cases hstep : InStep env table (own.rowsOf table) (peer.rowsOf table)
    · rcases hin table hstep with h | h | h <;> rw [h] <;> decide
    · rcases hout table hstep with h | h <;> rw [h] <;> decide
  have hdrift : (∃ entry ∈ report.tables, entry.2.severity = .criticalDrift ∨
      entry.2.severity = .businessDrift) ↔
        ¬∀ table, InStep env table (own.rowsOf table) (peer.rowsOf table) := by
    constructor
    · rintro ⟨entry, hentry, hseverity⟩ hall
      obtain ⟨table, -, rfl⟩ := List.mem_map.mp hentry
      change severityOf table = .criticalDrift ∨ severityOf table = .businessDrift at hseverity
      rcases hin table (hall table) with h | h | h <;> rw [h] at hseverity <;>
        rcases hseverity with hbad | hbad <;> cases hbad
    · intro hnot
      obtain ⟨table, hstep⟩ := not_forall.mp hnot
      exact ⟨_, List.mem_map_of_mem (hnames table hstep), hout table hstep⟩
  refine ⟨?_, ?_, compareParitySnapshots_mirrored _ _ sampleLimit⟩ <;>
    rcases overallStatus_cases hwhole with ⟨hnone, hstatus⟩ | ⟨hsome, hstatus⟩
  · refine iff_of_true hstatus (not_not.mp (mt hdrift.mpr ?_))
    rintro ⟨entry, hentry, h | h⟩
    · exact (hnone entry hentry).1 h
    · exact (hnone entry hentry).2 h
  · refine iff_of_false ?_ (hdrift.mp hsome)
    rintro (h | h) <;> rcases hstatus with hbad | hbad <;> cases h.symm.trans hbad
  · intro hnot
    obtain ⟨entry, hentry, h | h⟩ := hdrift.mpr hnot
    · exact absurd h (hnone entry hentry).1
    · exact absurd h (hnone entry hentry).2
  · exact fun _ => hstatus

def settingRow (id : Int) (value updatedAt : String) : Row :=
  [("id", .int id), ("key", .text "offer_limit"), ("value", .text value),
    ("updated_at", .moment updatedAt)]

def settings (id : Int) (value updatedAt : String) : Tables :=
  [("trading_settings", [settingRow id value updatedAt])]

theorem rowsOf_settings (id : Int) (value updatedAt table : String) :
    (settings id value updatedAt).rowsOf table =
      if table = "trading_settings" then [settingRow id value updatedAt] else [] := by
  by_cases h : table = "trading_settings"
  · subst h
    rfl
  · simp [Tables.rowsOf, settings, List.lookup_cons, beq_eq_false_iff_ne.mpr h, h]

/-- A setting with the same value under another id, updated at another time, is no drift. -/
theorem compareParitySnapshots_setting :
    let env : Env := ⟨fun text => "h" ++ text, fun text => by simp, fun _ _ => false, fun _ => ""⟩
    let report := compareParitySnapshots
      ((settings 1 "7" "2026-01-01T00:00:00").snapshot env (some 5))
      ((settings 2 "7" "2026-01-02T00:00:00").snapshot env (some 5)) 5
    report.status = .ok ∨ report.status = .nonBusinessDifference := by
  intro env report
  have hidentity : identityPayload "trading_settings" (settingRow 1 "7" "2026-01-01T00:00:00") =
      identityPayload "trading_settings" (settingRow 2 "7" "2026-01-02T00:00:00") := rfl
  have hbusiness :
      groupPayload env "trading_settings" .business (settingRow 1 "7" "2026-01-01T00:00:00") =
        groupPayload env "trading_settings" .business (settingRow 2 "7" "2026-01-02T00:00:00") :=
    rfl
  have hwhole : ∀ id value updatedAt table,
      (((settings id value updatedAt).snapshot env (some 5)).tableOf table).truncated = false := by
    intro id value updatedAt table
    by_cases h : table = "trading_settings"
    · subst h
      rfl
    · simp [Snapshot.tableOf, Tables.snapshot, settings, List.lookup_cons,
        beq_eq_false_iff_ne.mpr h, emptyTable]
  refine (compareParitySnapshots_exact env (some 5) 5 _ _ (hwhole 1 _ _) (hwhole 2 _ _)
    ?_ ?_).1.mpr ?_ <;> intro table <;> rw [rowsOf_settings, rowsOf_settings] <;>
    by_cases h : table = "trading_settings"
  · subst h
    simp [CollisionFree, hidentity]
  · simp [CollisionFree, h]
  · subst h
    simp [CollisionFree, hbusiness]
  · simp [CollisionFree, h]
  · subst h
    refine ⟨List.nodup_singleton _, List.nodup_singleton _, ?_, ?_⟩
    · simp [hidentity]
    · simp [hbusiness]
  · rw [if_neg h, if_neg h]
    exact inStep_nil

end TradingBot.Sync.Parity
