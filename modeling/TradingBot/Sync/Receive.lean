import TradingBot.Misc.Run
import TradingBot.Sync.Item

/-!
# Receiving a sync batch

`receive_sync_data` (src/api/routers/sync.py:3890): the items of a batch are sorted by table and
applied one after the other; an item that waits for a row is deferred and tried again after all
others, with the payload its first attempt left. A watermark for each source and aggregate decides
which items are applied. How an item is applied, and its screening, are parameters.
-/

namespace TradingBot.Sync

open Misc

/-- A source and an aggregate, the key of `sync_apply_watermarks`. -/
structure AggregateId where
  sourceServer : Server
  aggregateTable : String
  aggregateKey : String
  deriving DecidableEq, Repr

/-- `SyncWatermarkContext` (line 276). -/
structure SyncWatermarkContext where
  aggregate : AggregateId
  sourceSequence : Int
  payloadHash : String
  operation : Operation
  recordId : Option String
  deriving DecidableEq, Repr

/-- A row of `sync_apply_watermarks`, without its key. -/
structure SyncApplyWatermark where
  lastSourceSequence : Int
  lastPayloadHash : String
  lastOperation : Operation
  lastRecordId : Option String
  deriving DecidableEq, Repr

/-- The table of watermarks: at most one row for each source and aggregate. -/
abbrev Watermarks := AggregateId → Option SyncApplyWatermark

inductive SyncWatermarkDecision where
  | apply
  | stale
  | duplicate
  | conflict
  deriving DecidableEq, Repr

/-- What `_apply_item` returns; `raised` when it raises. -/
inductive ApplyResult where
  | ok
  | ignored
  | deferred
  | failed
  | raised
  deriving DecidableEq, Repr

/-- What the receiver takes from elsewhere: the relay of one-time codes, the checks of an item
before its watermark (protocol, table policy, parsing, source authority, registration policy), the
digest of a payload, and `_apply_item`, which works on the rows `δ` and changes the payload in
place. -/
structure Receiver (δ : Type) where
  registrationSyncV2 : Bool
  relay : Item → Bool
  screen : Item → Except String Payload
  payloadHash : Table → Operation → Value → Payload → String
  applyItem : δ → Table → Operation → Value → Payload → Option Server → δ × Payload × ApplyResult

/-- An entry of `deferred_items`. -/
structure Pending where
  item : Item
  table : Table
  data : Payload
  context : Option SyncWatermarkContext

/-- Rows, watermarks and, for the statements, the contexts of the items applied so far, oldest
first. -/
structure State (δ : Type) where
  db : δ
  watermarks : Watermarks
  applied : List SyncWatermarkContext

/-- The local variables of `receive_sync_data`. -/
structure BatchState (δ : Type) extends State δ where
  processedCount : Nat := 0
  errors : List String := []
  deferredItems : List Pending := []

variable {δ : Type} {watermarks : Watermarks} {watermark : SyncApplyWatermark}

def evaluateSyncWatermark (watermarks : Watermarks) (context : Option SyncWatermarkContext) :
    SyncWatermarkDecision :=
  match context with
  | none => .apply
  | some context =>
    match watermarks context.aggregate with
    | none => .apply
    | some watermark =>
      let current := if 0 < watermark.lastSourceSequence then watermark.lastSourceSequence else 0
      if current < context.sourceSequence then .apply
      else if context.sourceSequence < current then .stale
      else if context.payloadHash = watermark.lastPayloadHash then .duplicate
      else .conflict

/-- Line 3808: an upsert that never lowers a watermark. -/
def recordSyncWatermarkApplied (watermarks : Watermarks) (context : SyncWatermarkContext) :
    Watermarks := fun aggregate =>
  if aggregate = context.aggregate then
    let row := ⟨context.sourceSequence, context.payloadHash, context.operation, context.recordId⟩
    match watermarks aggregate with
    | none => some row
    | some watermark =>
      if watermark.lastSourceSequence ≤ context.sourceSequence then some row else some watermark
  else watermarks aggregate

variable (receiver : Receiver δ)

/-- `_sync_watermark_context_from_item` (line 3726). -/
def watermarkContext (item : Item) (table : Table) (data : Payload) :
    Option SyncWatermarkContext := do
  let source ← sourceServer item
  let sequence ← sourceSequence item
  let aggregate ← aggregateKey table item.id data item
  return { aggregate := ⟨source, aggregate.1, aggregate.2⟩, sourceSequence := sequence,
           payloadHash := receiver.payloadHash table item.operation item.id data,
           operation := item.operation,
           recordId := if item.id = .null then none else some item.id.str }

namespace BatchState

/-- `processed_count += 1`. -/
def count (s : BatchState δ) : BatchState δ := { s with processedCount := s.processedCount + 1 }

/-- `errors.append(...)`. -/
def fail (s : BatchState δ) (reason : String) : BatchState δ :=
  { s with errors := s.errors ++ [reason] }

/-- The bookkeeping after `_apply_item` has returned `ok` or `ignored`. -/
def settle (s : BatchState δ) (context : Option SyncWatermarkContext) : BatchState δ :=
  match context with
  | none => s.count
  | some context =>
    { s with watermarks := recordSyncWatermarkApplied s.watermarks context,
             applied := s.applied ++ [context] }.count

end BatchState

/-- The source server `_apply_item` is told (`apply_args`). -/
def applyArgs (pending : Pending) : Option Server :=
  if pending.table ∈ [.offerRequests, .offerPublicationStates] ∨ receiver.registrationSyncV2 then
    sourceServer pending.item
  else none

/-- What both passes do with an outcome of `_apply_item`; `unsettled` is for one neither applied nor
ignored. -/
def conclude (unsettled : BatchState δ → Pending → ApplyResult → BatchState δ)
    (s : BatchState δ) (pending : Pending) (outcome : δ × Payload × ApplyResult) : BatchState δ :=
  let s := { s with db := outcome.1 }
  match outcome.2.2 with
  | .ok | .ignored => s.settle pending.context
  | result => unsettled s { pending with data := outcome.2.1 } result

/-- An attempt of either pass: an item that the watermark admits is applied. -/
def attempt (unsettled : BatchState δ → Pending → ApplyResult → BatchState δ)
    (s : BatchState δ) (pending : Pending) : BatchState δ :=
  match evaluateSyncWatermark s.watermarks pending.context with
  | .stale | .duplicate => s.count
  | .conflict => s.fail "same_source_sequence_different_payload"
  | .apply =>
    conclude unsettled s pending (receiver.applyItem s.db pending.table pending.item.operation
      pending.item.id pending.data (applyArgs receiver pending))

def deferOrFail (s : BatchState δ) (pending : Pending) : ApplyResult → BatchState δ
  | .deferred => { s with deferredItems := s.deferredItems ++ [pending] }
  | .raised => s.fail "apply_exception"
  | _ => s.fail "apply_failed"

def giveUp (s : BatchState δ) (_pending : Pending) : ApplyResult → BatchState δ
  | .raised => s.fail "deferred_retry_exception"
  | _ => s.fail "deferred_foreign_key_dependency_missing"

/-- The body of pass 1 (line 3922). -/
def firstPass (s : BatchState δ) (item : Item) : BatchState δ :=
  if item.notification then
    if receiver.relay item then s.count else s
  else
    match receiver.screen item, item.table with
    | .error reason, _ => s.fail reason
    | .ok _, none => s.fail "receiver_model_not_registered"
    | .ok data, some table =>
      attempt receiver deferOrFail s
        { item := item, table := table, data := data,
          context := watermarkContext receiver item table data }

/-- The body of pass 2 (line 4141). -/
def secondPass (s : BatchState δ) (pending : Pending) : BatchState δ :=
  attempt receiver giveUp s pending

/-- `sorted(items, key=...)`: by table order, unknown tables last; the sort is stable. -/
def sortItems (items : List Item) : List Item :=
  let key := fun item : Item => (item.table.map Table.order).getD 99
  items.mergeSort fun first second => key first ≤ key second

/-- The two passes of `receive_sync_data` (line 3890), without what follows before the commit:
`ensure_mandatory_channel_rollout`, which writes `chats` and `chat_members`, and the notices of
deleted users. -/
def receiveSyncData (state : State δ) (items : List Item) : BatchState δ :=
  let first := (sortItems items).foldl (firstPass receiver) { state with }
  first.deferredItems.foldl (secondPass receiver) { first with deferredItems := [] }

/-- A received batch; `committed` is false when its transaction is rolled back. -/
structure Batch where
  items : List Item
  committed : Bool := true

def receive (state : State δ) (batch : Batch) : State δ :=
  if batch.committed then (receiveSyncData receiver state batch.items).toState else state

/-! ## Watermarks and the order of application -/

/-- The applied sequences of each aggregate increase, and its watermark has reached them. -/
structure State.Ordered (state : State δ) : Prop where
  increasing : state.applied.Pairwise fun earlier later =>
    earlier.aggregate = later.aggregate → earlier.sourceSequence < later.sourceSequence
  reached : ∀ context ∈ state.applied, ∃ watermark,
    state.watermarks context.aggregate = some watermark ∧
      context.sourceSequence ≤ watermark.lastSourceSequence

theorem lt_of_evaluate_apply {context : SyncWatermarkContext}
    (hdecision : evaluateSyncWatermark watermarks (some context) = .apply)
    (hrow : watermarks context.aggregate = some watermark) :
    watermark.lastSourceSequence < context.sourceSequence := by
  simp only [evaluateSyncWatermark, hrow] at hdecision
  generalize hcurrent : (if 0 < watermark.lastSourceSequence then watermark.lastSourceSequence
    else 0) = current at hdecision
  have hle : watermark.lastSourceSequence ≤ current := by
    rw [← hcurrent]
    split <;> omega
  by_cases hlt : current < context.sourceSequence
  · omega
  · rw [if_neg hlt] at hdecision
    by_cases hgt : context.sourceSequence < current
    · rw [if_pos hgt] at hdecision
      cases hdecision
    · rw [if_neg hgt] at hdecision
      by_cases hhash : context.payloadHash = watermark.lastPayloadHash
      · rw [if_pos hhash] at hdecision
        cases hdecision
      · rw [if_neg hhash] at hdecision
        cases hdecision

theorem recordSyncWatermarkApplied_self (watermarks : Watermarks) (context : SyncWatermarkContext) :
    ∃ watermark, recordSyncWatermarkApplied watermarks context context.aggregate = some watermark ∧
      context.sourceSequence ≤ watermark.lastSourceSequence := by
  simp only [recordSyncWatermarkApplied, if_true]
  cases watermarks context.aggregate with
  | none => exact ⟨_, rfl, Int.le_refl _⟩
  | some watermark =>
    by_cases hle : watermark.lastSourceSequence ≤ context.sourceSequence
    · refine ⟨_, if_pos hle, Int.le_refl _⟩
    · exact ⟨watermark, if_neg hle, by omega⟩

theorem recordSyncWatermarkApplied_mono (context : SyncWatermarkContext) {aggregate : AggregateId}
    (hrow : watermarks aggregate = some watermark) :
    ∃ recorded, recordSyncWatermarkApplied watermarks context aggregate = some recorded ∧
      watermark.lastSourceSequence ≤ recorded.lastSourceSequence := by
  simp only [recordSyncWatermarkApplied, hrow]
  by_cases haggregate : aggregate = context.aggregate
  · rw [if_pos haggregate]
    by_cases hle : watermark.lastSourceSequence ≤ context.sourceSequence
    · exact ⟨_, if_pos hle, hle⟩
    · exact ⟨watermark, if_neg hle, Int.le_refl _⟩
  · exact ⟨watermark, if_neg haggregate, Int.le_refl _⟩

namespace State.Ordered

variable {state : State δ} {s : BatchState δ}

theorem of_same {state' : State δ} (h : state.Ordered)
    (hwatermarks : state'.watermarks = state.watermarks)
    (happlied : state'.applied = state.applied) : state'.Ordered where
  increasing := by
    rw [happlied]
    exact h.increasing
  reached := by
    rw [happlied, hwatermarks]
    exact h.reached

theorem settle (h : s.toState.Ordered) {context : Option SyncWatermarkContext}
    (hdecision : evaluateSyncWatermark s.watermarks context = .apply) :
    (s.settle context).toState.Ordered := by
  cases context with
  | none => exact h
  | some context =>
    constructor
    · refine List.pairwise_append.mpr ⟨h.increasing, List.pairwise_singleton _ _, ?_⟩
      intro earlier hearlier later hlater haggregate
      rw [List.mem_singleton] at hlater
      subst hlater
      obtain ⟨watermark, hrow, hle⟩ := h.reached earlier hearlier
      rw [haggregate] at hrow
      exact Int.lt_of_le_of_lt hle (lt_of_evaluate_apply hdecision hrow)
    · intro earlier hearlier
      rcases List.mem_append.mp hearlier with hold | hnew
      · obtain ⟨watermark, hrow, hle⟩ := h.reached earlier hold
        obtain ⟨recorded, hrecorded, hmono⟩ := recordSyncWatermarkApplied_mono context hrow
        exact ⟨recorded, hrecorded, Int.le_trans hle hmono⟩
      · rw [List.mem_singleton] at hnew
        subst hnew
        exact recordSyncWatermarkApplied_self s.watermarks earlier

theorem attempt {unsettled : BatchState δ → Pending → ApplyResult → BatchState δ}
    (hunsettled : ∀ s pending result, (unsettled s pending result).watermarks = s.watermarks ∧
      (unsettled s pending result).applied = s.applied)
    (h : s.toState.Ordered) (pending : Pending) :
    (attempt receiver unsettled s pending).toState.Ordered := by
  cases hdecision : evaluateSyncWatermark s.watermarks pending.context with
  | stale =>
    simp only [Sync.attempt, hdecision]
    exact h
  | duplicate =>
    simp only [Sync.attempt, hdecision]
    exact h
  | conflict =>
    simp only [Sync.attempt, hdecision]
    exact h
  | apply =>
    simp only [Sync.attempt, hdecision]
    generalize receiver.applyItem s.db pending.table pending.item.operation pending.item.id
      pending.data (applyArgs receiver pending) = outcome
    obtain ⟨db, data, result⟩ := outcome
    have happlied : { s with db := db }.toState.Ordered := h.of_same rfl rfl
    -- an item that is not settled leaves the watermarks and the log as they are
    have hother : ∀ other : ApplyResult,
        (unsettled { s with db := db } { pending with data := data } other).toState.Ordered :=
      fun other => happlied.of_same (hunsettled _ _ other).1 (hunsettled _ _ other).2
    cases result with
    | ok => exact happlied.settle hdecision
    | ignored => exact happlied.settle hdecision
    | deferred => exact hother _
    | failed => exact hother _
    | raised => exact hother _

theorem firstPass (h : s.toState.Ordered)
    (item : Item) : (firstPass receiver s item).toState.Ordered := by
  unfold Sync.firstPass
  by_cases hnotification : item.notification = true
  · rw [if_pos hnotification]
    split <;> exact h
  · rw [if_neg hnotification]
    split
    · exact h
    · exact h
    · apply h.attempt receiver
      intro s pending result
      cases result <;> exact ⟨rfl, rfl⟩

theorem secondPass (h : s.toState.Ordered)
    (pending : Pending) : (secondPass receiver s pending).toState.Ordered := by
  apply h.attempt receiver
  intro s pending result
  cases result <;> exact ⟨rfl, rfl⟩

theorem receive (h : state.Ordered) (batch : Batch) :
    (receive receiver state batch).Ordered := by
  unfold Sync.receive
  by_cases hcommitted : batch.committed = true
  · rw [if_pos hcommitted]
    unfold receiveSyncData
    have hfirst : ∀ (items : List Item) (s : BatchState δ), s.toState.Ordered →
        (items.foldl (Sync.firstPass receiver) s).toState.Ordered := by
      intro items
      induction items with
      | nil => exact fun s hs => hs
      | cons item items ih => exact fun s hs => ih _ (hs.firstPass receiver item)
    have hsecond : ∀ (pendings : List Pending) (s : BatchState δ), s.toState.Ordered →
        (pendings.foldl (Sync.secondPass receiver) s).toState.Ordered := by
      intro pendings
      induction pendings with
      | nil => exact fun s hs => hs
      | cons pending pendings ih => exact fun s hs => ih _ (hs.secondPass receiver pending)
    exact hsecond _ _ ((hfirst _ _ h).of_same rfl rfl)
  · rw [if_neg hcommitted]
    exact h

end State.Ordered

/-- Whatever batches arrive, the sequences of the items applied for one source and aggregate
increase strictly in the order of application, over both passes of every batch. -/
theorem applied_sequences_increase (receiver : Receiver δ) (db : δ) (watermarks : Watermarks)
    (batches : List Batch) (aggregate : AggregateId) :
    (((run (receive receiver) ⟨db, watermarks, []⟩ batches).applied.filter
      fun context => context.aggregate = aggregate).map (·.sourceSequence)).Pairwise (· < ·) := by
  have hordered : (run (receive receiver) ⟨db, watermarks, []⟩ batches).Ordered := by
    apply run_invariant (fun state batch h _ => h.receive receiver batch) batches _ _
      (eachStep_true _ _ _)
    exact ⟨List.Pairwise.nil, fun _ h => by cases h⟩
  rw [List.pairwise_map, List.pairwise_filter]
  refine hordered.increasing.imp ?_
  intro earlier later hlt hearlier hlater
  rw [decide_eq_true_eq] at hearlier hlater
  exact hlt (hearlier.trans hlater.symm)

end TradingBot.Sync
