import TradingBot.Misc.Run
import TradingBot.Offer.Model

/-!
# Id sequences of the synced tables

The two servers insert into the same tables and draw ids from their own sequences, the Iran server
even ids, the foreign server odd ones. After a batch the receiver aligns the sequence of each
touched table (`_partitioned_sequence_alignment_sql`, src/api/routers/sync.py:756): it steps by two
from then on and continues above the largest id the alignment can see. A sequence starts at 1 with
step 1, and only the alignment partitions it.
-/

namespace TradingBot.Sync

open Misc

def sequencePartitionForServer : Server → Nat × Nat
  | .iran => (0, 2)
  | .foreign => (1, 1)

structure Sequence where
  lastValue : Nat := 1
  isCalled : Bool := false
  increment : Nat := 1
  deriving DecidableEq, Repr

namespace Sequence

/-- The value `nextval` hands out. -/
def nextValue (sequence : Sequence) : Nat :=
  if sequence.isCalled then sequence.lastValue + sequence.increment else sequence.lastValue

/-- The sequence after `nextval`. -/
def advance (sequence : Sequence) : Sequence :=
  { sequence with lastValue := sequence.nextValue, isCalled := true }

end Sequence

/-- The `CASE` of the alignment's statement. -/
def alignedValue (partition : Nat × Nat) (maxId : Nat) : Nat :=
  if maxId < partition.2 then partition.2
  else if maxId % 2 = partition.1 then maxId + 2
  else maxId + 1

/-- A table on one server: its sequence, the visible ids, those of transactions still open and, for
the statements, all ids handed out, the newest first. -/
structure IdTable where
  sequence : Sequence := {}
  visible : List Nat := []
  pending : List Nat := []
  issued : List Nat := []
  deriving DecidableEq, Repr

namespace IdTable

/-- `COALESCE(MAX(id), 0)`. -/
def maxId (table : IdTable) : Nat := table.visible.foldr max 0

/-- `_partitioned_sequence_alignment_sql` (line 756): step 2, next value `alignedValue`. -/
def align (server : Server) (table : IdTable) : IdTable :=
  { table with sequence :=
    { lastValue := alignedValue (sequencePartitionForServer server) table.maxId,
      isCalled := false, increment := 2 } }

def issue (table : IdTable) : IdTable :=
  let id := table.sequence.nextValue
  { table with sequence := table.sequence.advance, pending := id :: table.pending,
               issued := id :: table.issued }

end IdTable

/-- An insert takes an id, commits or is rolled back, a row of the other server arrives with its id,
a row is deleted, or the sequence is aligned after a batch. -/
inductive IdOp where
  | issue
  | commit (id : Nat)
  | rollback (id : Nat)
  | receive (id : Nat)
  | delete (id : Nat)
  | align
  deriving DecidableEq, Repr

def IdTable.apply (server : Server) (table : IdTable) : IdOp → IdTable
  | .issue => table.issue
  | .commit id =>
    if id ∈ table.pending then
      { table with pending := table.pending.erase id, visible := id :: table.visible }
    else table
  | .rollback id => { table with pending := table.pending.erase id }
  | .receive id => { table with visible := id :: table.visible }
  | .delete id => { table with visible := table.visible.filter (· ≠ id) }
  | .align => table.align server

def idStep (tables : Server → IdTable) (op : Server × IdOp) : Server → IdTable :=
  Function.update tables op.1 ((tables op.1).apply op.1 op.2)

/-- Ids are drawn from an aligned sequence, and an alignment sees an id at least as large as every
id handed out. -/
def Aligned (tables : Server → IdTable) (op : Server × IdOp) : Prop :=
  match op.2 with
  | .issue => (tables op.1).sequence.increment = 2
  | .align => ∀ id ∈ (tables op.1).issued, id ≤ (tables op.1).maxId
  | _ => True

instance (tables : Server → IdTable) : ∀ op, Decidable (Aligned tables op)
  | (server, .issue) => inferInstanceAs (Decidable ((tables server).sequence.increment = 2))
  | (server, .align) =>
    inferInstanceAs (Decidable (∀ id ∈ (tables server).issued, id ≤ (tables server).maxId))
  | (_, .commit _) | (_, .rollback _) | (_, .receive _) | (_, .delete _) =>
    inferInstanceAs (Decidable True)

/-! ## Parity and freshness of the ids -/

/-- Once aligned, the ids handed out have the server's parity and are below the next one. -/
structure IdTable.Partitioned (server : Server) (table : IdTable) : Prop where
  distinct : table.issued.Nodup
  parity : ∀ id ∈ table.issued, id % 2 = (sequencePartitionForServer server).1
  next : table.sequence.increment = 2 →
    table.sequence.nextValue % 2 = (sequencePartitionForServer server).1 ∧
      ∀ id ∈ table.issued, id < table.sequence.nextValue

theorem alignedValue_spec {partition : Nat × Nat} (hparity : partition.1 < 2)
    (hminimum : partition.2 % 2 = partition.1) (maxId : Nat) :
    alignedValue partition maxId % 2 = partition.1 ∧ maxId < alignedValue partition maxId := by
  unfold alignedValue
  by_cases hsmall : maxId < partition.2
  · rw [if_pos hsmall]
    exact ⟨hminimum, hsmall⟩
  · rw [if_neg hsmall]
    by_cases hequal : maxId % 2 = partition.1
    · rw [if_pos hequal]
      omega
    · rw [if_neg hequal]
      omega

theorem align_nextValue (server : Server) (table : IdTable) :
    (table.align server).sequence.nextValue % 2 = (sequencePartitionForServer server).1 ∧
      table.maxId < (table.align server).sequence.nextValue := by
  have hnext : (table.align server).sequence.nextValue =
      alignedValue (sequencePartitionForServer server) table.maxId := rfl
  rw [hnext]
  cases server with
  | iran => exact alignedValue_spec (by decide) (by decide) table.maxId
  | foreign => exact alignedValue_spec (by decide) (by decide) table.maxId

namespace IdTable.Partitioned

variable {server : Server} {table : IdTable}

theorem of_same {table' : IdTable} (h : table.Partitioned server)
    (hsequence : table'.sequence = table.sequence) (hissued : table'.issued = table.issued) :
    table'.Partitioned server := by
  constructor
  · rw [hissued]
    exact h.distinct
  · rw [hissued]
    exact h.parity
  · rw [hissued, hsequence]
    exact h.next

theorem align (h : table.Partitioned server)
    (hseen : ∀ id ∈ table.issued, id ≤ table.maxId) : (table.align server).Partitioned server := by
  obtain ⟨hparity, hgreater⟩ := align_nextValue server table
  refine ⟨h.distinct, h.parity, fun _ => ⟨hparity, fun id hid => ?_⟩⟩
  exact Nat.lt_of_le_of_lt (hseen id hid) hgreater

theorem issue (h : table.Partitioned server)
    (haligned : table.sequence.increment = 2) : table.issue.Partitioned server := by
  obtain ⟨hparity, hbelow⟩ := h.next haligned
  refine ⟨?_, ?_, ?_⟩
  · refine List.nodup_cons.mpr ⟨fun hmem => ?_, h.distinct⟩
    exact Nat.lt_irrefl _ (hbelow _ hmem)
  · exact List.forall_mem_cons.mpr ⟨hparity, h.parity⟩
  · intro _
    have hnext : table.issue.sequence.nextValue = table.sequence.nextValue + 2 := by
      simp only [IdTable.issue, Sequence.advance, Sequence.nextValue, haligned, if_true]
    rw [hnext]
    refine ⟨by omega, List.forall_mem_cons.mpr ⟨by omega, fun id hid => ?_⟩⟩
    have hlt := hbelow id hid
    omega

end IdTable.Partitioned

theorem idStep_partitioned {tables : Server → IdTable} {op : Server × IdOp}
    (h : ∀ server, (tables server).Partitioned server) (hop : Aligned tables op) :
    ∀ server, (idStep tables op server).Partitioned server := by
  intro server
  obtain ⟨target, action⟩ := op
  by_cases hserver : server = target
  · subst hserver
    rw [idStep, Function.update_self]
    cases action with
    | issue => exact (h server).issue hop
    | commit id =>
      simp only [IdTable.apply]
      split
      · exact (h server).of_same rfl rfl
      · exact h server
    | rollback id => exact (h server).of_same rfl rfl
    | receive id => exact (h server).of_same rfl rfl
    | delete id => exact (h server).of_same rfl rfl
    | align => exact (h server).align hop
  · rw [idStep, Function.update_of_ne hserver]
    exact h server

/-- In a run whose steps all meet the condition, no id is handed out twice on a server, every id has
the server's parity, and no id is handed out on both. -/
theorem ids_never_collide (visible : Server → List Nat) (ops : List (Server × IdOp))
    (haligned : EachStep idStep (fun tables op _ => Aligned tables op)
      (fun server => { visible := visible server }) ops) :
    let tables := run idStep (fun server => { visible := visible server }) ops
    (∀ server, (tables server).issued.Nodup ∧
      ∀ id ∈ (tables server).issued, id % 2 = (sequencePartitionForServer server).1) ∧
    ∀ id ∈ (tables .iran).issued, id ∉ (tables .foreign).issued := by
  intro tables
  have hstart : ∀ server, IdTable.Partitioned server { visible := visible server } :=
    fun server => ⟨List.nodup_nil, (fun _ h => by cases h), (fun h => by cases h)⟩
  have hpartitioned : ∀ server, (tables server).Partitioned server :=
    run_invariant (I := fun t : Server → IdTable => ∀ server, (t server).Partitioned server)
      (fun _ _ h hop => idStep_partitioned h hop) ops _ hstart haligned
  refine ⟨fun server => ⟨(hpartitioned server).distinct, (hpartitioned server).parity⟩, ?_⟩
  intro id hiran hforeign
  have heven := (hpartitioned .iran).parity id hiran
  have hodd := (hpartitioned .foreign).parity id hforeign
  simp only [sequencePartitionForServer] at heven hodd
  omega

def alignedInserts : List (Server × IdOp) :=
  [(.iran, .align), (.foreign, .align), (.iran, .issue), (.foreign, .issue), (.foreign, .commit 1),
   (.iran, .receive 1), (.iran, .commit 2), (.iran, .align), (.iran, .issue), (.foreign, .issue)]

theorem alignedInserts_distinct :
    let tables := run idStep (fun _ => { visible := [] }) alignedInserts
    (tables .iran).issued = [4, 2] ∧ (tables .foreign).issued = [3, 1] ∧
      ∀ id ∈ (tables .iran).issued, id ∉ (tables .foreign).issued := by
  have hcollide := ids_never_collide (fun _ => []) alignedInserts (by decide)
  exact ⟨by decide, by decide, hcollide.2⟩

/-- The id of a transaction still open at the next batch is not seen by the alignment and handed out
again. -/
theorem alignment_repeats_open_id :
    let tables := run idStep (fun _ => { visible := [] })
      [(.iran, .align), (.iran, .issue), (.iran, .align), (.iran, .issue)]
    (tables .iran).issued = [2, 2] := by
  decide

end TradingBot.Sync
