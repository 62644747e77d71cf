import Mathlib.Data.List.Sort
import TradingBot.Intelligence.Contracts
import TradingBot.Misc.Rows
import TradingBot.Misc.Run

/-!
# The market store

The hot table and the archive of `src/core/market_intelligence/market_store.py`. An upsert writes
the row of its event key or adds one under the next free row id; an archive run moves the rows older
than the retention, batch by batch, with `INSERT OR IGNORE`.

A moved row's id is handed out again once no greater one is left in the hot table, and an archived
key may be upserted again. The archive then ignores the row and the hot table deletes it. No fact is
lost exactly when every moved row meets neither its id nor its key in the archive, or meets its own
content there.
-/

namespace TradingBot.Intelligence

open TradingBot.Misc

/-- A row of `market_observations`. -/
structure HotRow where
  id : Nat
  observation : NormalizedMarketObservation
  insertedAtUtc : Int

/-- A row of `market_observations_archive`. -/
structure ArchiveRow extends HotRow where
  archivedAtUtc : Int

def HotRow.eventKey (row : HotRow) : List UInt8 := row.observation.eventKey

/-- The row of a key after its `DO UPDATE`. -/
def HotRow.updated (observation : NormalizedMarketObservation) (now : Int) (row : HotRow) : HotRow :=
  { row with observation, insertedAtUtc := now }

/-- The tables, and every observation that was upserted, newest first. -/
structure MarketStore where
  hot : List HotRow
  archive : List ArchiveRow
  facts : List NormalizedMarketObservation

def MarketStore.empty : MarketStore := ⟨[], [], []⟩

namespace MarketStore

def nextId (hot : List HotRow) : Nat := (hot.map HotRow.id).foldr max 0 + 1

def upsertObservation (store : MarketStore) (observation : NormalizedMarketObservation) (now : Int) :
    MarketStore :=
  { store with
    hot :=
      if store.hot.any (·.eventKey = observation.eventKey) then
        setRow HotRow.eventKey observation.eventKey (HotRow.updated observation now) store.hot
      else store.hot ++ [⟨nextId store.hot, observation, now⟩]
    facts := observation :: store.facts }

/-- `INSERT OR IGNORE` of a row that leaves the hot table. -/
def insertOrIgnore (now : Int) (archive : List ArchiveRow) (row : HotRow) : List ArchiveRow :=
  if archive.any fun old => old.id = row.id || old.eventKey = row.eventKey then archive
  else archive ++ [{ row with archivedAtUtc := now }]

/-- The rows older than the cutoff, by row id, up to a batch (line 289). A negative batch size, no
limit to SQLite, is left out. -/
def coldRows (store : MarketStore) (cutoff : Int) (batchSize : Nat) : List HotRow :=
  ((store.hot.filter (·.observation.eventTimeUtc < cutoff)).insertionSort (·.id ≤ ·.id)).take batchSize

def archiveBatch (store : MarketStore) (now : Int) (batch : List HotRow) : MarketStore :=
  { store with
    hot := store.hot.filter fun row => row.id ∉ batch.map HotRow.id
    archive := batch.foldl (insertOrIgnore now) store.archive }

/-- Batches until none is left (lines 287-337); each takes a row. -/
def archiveBatches (cutoff now : Int) (batchSize : Nat) : Nat → MarketStore → MarketStore
  | 0, store => store
  | rounds + 1, store =>
    let batch := store.coldRows cutoff batchSize
    if batch.isEmpty then store
    else archiveBatches cutoff now batchSize rounds (store.archiveBatch now batch)

def cutoffOf (now : Int) (retentionHours : Nat) : Int := now - retentionHours * 3600

def archiveObservationsOlderThan (store : MarketStore) (now : Int) (retentionHours batchSize : Nat) :
    MarketStore :=
  if retentionHours < 24 then store
  else archiveBatches (cutoffOf now retentionHours) now batchSize store.hot.length store

end MarketStore

inductive StoreCall where
  | upsert (observation : NormalizedMarketObservation) (now : Int)
  | archive (now : Int) (retentionHours batchSize : Nat)

def MarketStore.step (store : MarketStore) : StoreCall → MarketStore
  | .upsert observation now => store.upsertObservation observation now
  | .archive now retentionHours batchSize =>
    store.archiveObservationsOlderThan now retentionHours batchSize

def MarketStore.Latest (store : MarketStore) (observation : NormalizedMarketObservation) : Prop :=
  store.facts.find? (·.eventKey = observation.eventKey) = some observation

def MarketStore.Stored (store : MarketStore) (observation : NormalizedMarketObservation) : Prop :=
  (∃ row ∈ store.hot, row.observation = observation) ∨
    ∃ row ∈ store.archive, row.observation = observation

def MarketStore.NothingLost (store : MarketStore) : Prop :=
  ∀ observation, store.Latest observation → store.Stored observation

def MarketStore.Free (archive : List ArchiveRow) (row : HotRow) : Prop :=
  ∀ old ∈ archive, old.id ≠ row.id ∧ old.eventKey ≠ row.eventKey

def MarketStore.Movable (archive : List ArchiveRow) (row : HotRow) : Prop :=
  Free archive row ∨ ∃ old ∈ archive, old.observation = row.observation

def Unhindered (store : MarketStore) (call : StoreCall) (_ : MarketStore) : Prop :=
  match call with
  | .upsert _ _ => True
  | .archive now retentionHours batchSize =>
    24 ≤ retentionHours → 0 < batchSize →
      ∀ row ∈ store.hot, row.observation.eventTimeUtc < MarketStore.cutoffOf now retentionHours →
        MarketStore.Movable store.archive row

namespace MarketStore

/-- Row ids and keys of the hot table are unique, and its rows hold the latest upserts. -/
structure Sound (store : MarketStore) : Prop where
  ids : (store.hot.map HotRow.id).Nodup
  keys : (store.hot.map HotRow.eventKey).Nodup
  latest : ∀ row ∈ store.hot, store.Latest row.observation

theorem sound_empty : Sound .empty := ⟨List.nodup_nil, List.nodup_nil, fun _ h => by cases h⟩

variable {row : HotRow} {store : MarketStore} {observation : NormalizedMarketObservation}

theorem id_lt_nextId {hot : List HotRow} (h : row ∈ hot) : row.id < nextId hot := by
  unfold nextId
  induction hot with
  | nil => cases h
  | cons head tail ih =>
    rw [List.map_cons, List.foldr_cons]
    rcases List.mem_cons.1 h with rfl | htail
    · omega
    · have := ih htail
      omega

theorem latest_cons (store : MarketStore) (hot : List HotRow)
    (observation other : NormalizedMarketObservation) :
    Latest { store with hot, facts := observation :: store.facts } other ↔
      if observation.eventKey = other.eventKey then observation = other else store.Latest other := by
  unfold Latest
  rw [List.find?_cons]
  by_cases hkey : observation.eventKey = other.eventKey
  · rw [if_pos hkey, decide_eq_true hkey]
    exact Option.some_inj
  · rw [if_neg hkey, decide_eq_false hkey]

theorem mem_hot_upsert {now : Int} :
    row ∈ (store.upsertObservation observation now).hot →
      row.observation = observation ∨ row ∈ store.hot ∧ row.eventKey ≠ observation.eventKey := by
  intro hrow
  simp only [upsertObservation] at hrow
  split at hrow
  · rcases mem_setRow.1 hrow with ⟨hold, hne⟩ | ⟨old, -, -, rfl⟩
    · exact .inr ⟨hold, hne⟩
    · exact .inl rfl
  · next hnone =>
    rcases List.mem_append.1 hrow with hold | hnew
    · refine .inr ⟨hold, fun hkey => hnone (List.any_eq_true.2 ⟨row, hold, ?_⟩)⟩
      exact decide_eq_true hkey
    · rw [List.mem_singleton.1 hnew]
      exact .inl rfl

theorem exists_hot_upsert (store : MarketStore) (observation : NormalizedMarketObservation)
    (now : Int) :
    ∃ row ∈ (store.upsertObservation observation now).hot, row.observation = observation := by
  simp only [upsertObservation]
  split
  · next hany =>
    obtain ⟨row, hrow, hkey⟩ := List.any_eq_true.1 hany
    exact ⟨_, mem_setRow.2 (.inr ⟨row, hrow, of_decide_eq_true hkey, rfl⟩), rfl⟩
  · exact ⟨_, List.mem_append_right _ (List.mem_singleton_self _), rfl⟩

theorem mem_hot_upsert_of_ne
    (now : Int) (hrow : row ∈ store.hot) (hne : row.eventKey ≠ observation.eventKey) :
    row ∈ (store.upsertObservation observation now).hot := by
  simp only [upsertObservation]
  split
  · exact mem_setRow.2 (.inl ⟨hrow, hne⟩)
  · exact List.mem_append_left _ hrow

theorem map_id_setRow_observation (hot : List HotRow) (observation : NormalizedMarketObservation)
    (now : Int) (key : List UInt8) :
    (setRow HotRow.eventKey key (HotRow.updated observation now) hot).map HotRow.id =
      hot.map HotRow.id := by
  rw [setRow, List.map_map]
  refine List.map_congr_left fun row _ => ?_
  rw [Function.comp_apply]
  split <;> rfl

theorem Sound.upsert (h : Sound store) (observation : NormalizedMarketObservation) (now : Int) :
    Sound (store.upsertObservation observation now) where
  ids := by
    simp only [upsertObservation]
    split
    · rw [map_id_setRow_observation]
      exact h.ids
    · exact nodup_map_append_singleton h.ids fun old hold => (id_lt_nextId hold).ne
  keys := by
    simp only [upsertObservation]
    split
    · rw [map_id_setRow fun row _ => (rfl : (row.updated observation now).eventKey = _)]
      exact h.keys
    · next hnone =>
      refine nodup_map_append_singleton h.keys fun old hold hkey => hnone ?_
      exact List.any_eq_true.2 ⟨old, hold, decide_eq_true hkey⟩
  latest := by
    intro row hrow
    refine (latest_cons store _ observation row.observation).2 ?_
    rcases mem_hot_upsert hrow with heq | ⟨hold, hne⟩
    · rw [if_pos (by rw [heq])]
      exact heq.symm
    · rw [if_neg fun hkey => hne hkey.symm]
      exact h.latest row hold

theorem NothingLost.upsert (h : store.NothingLost)
    (observation : NormalizedMarketObservation) (now : Int) :
    (store.upsertObservation observation now).NothingLost := by
  intro other hlatest
  have hcases := (latest_cons store _ observation other).1 hlatest
  by_cases hkey : observation.eventKey = other.eventKey
  · rw [if_pos hkey] at hcases
    obtain ⟨row, hrow, heq⟩ := exists_hot_upsert store observation now
    exact .inl ⟨row, hrow, heq.trans hcases⟩
  · rw [if_neg hkey] at hcases
    rcases h other hcases with ⟨row, hrow, rfl⟩ | harchived
    · exact .inl ⟨row, mem_hot_upsert_of_ne now hrow fun heq => hkey heq.symm, rfl⟩
    · exact .inr harchived

/-! ## Archive runs -/

section Archive

variable {now cutoff : Int} {batchSize : Nat} {archive : List ArchiveRow} {other : HotRow}

theorem mem_coldRows (h : row ∈ store.coldRows cutoff batchSize) :
    row ∈ store.hot ∧ row.observation.eventTimeUtc < cutoff := by
  have hsorted := (List.perm_insertionSort _ _).subset (List.mem_of_mem_take h)
  obtain ⟨hmem, hcold⟩ := List.mem_filter.1 hsorted
  exact ⟨hmem, of_decide_eq_true hcold⟩

theorem coldRows_nodup {α : Type} {f : HotRow → α}
    (hf : (store.hot.map f).Nodup) : ((store.coldRows cutoff batchSize).map f).Nodup := by
  have hfilter : ((store.hot.filter (·.observation.eventTimeUtc < cutoff)).map f).Nodup :=
    hf.sublist (List.filter_sublist.map f)
  have hsorted := ((List.perm_insertionSort (·.id ≤ ·.id : HotRow → HotRow → Prop)
    (store.hot.filter (·.observation.eventTimeUtc < cutoff))).map f).nodup_iff.2 hfilter
  exact hsorted.sublist ((List.take_sublist _ _).map f)

theorem coldRows_eq_nil (hsize : 0 < batchSize) (h : store.coldRows cutoff batchSize = []) :
    ∀ row ∈ store.hot, ¬ row.observation.eventTimeUtc < cutoff := by
  intro row hrow hcold
  rcases List.take_eq_nil_iff.1 h with hzero | hnil
  · omega
  · have hmem : row ∈ store.hot.filter (·.observation.eventTimeUtc < cutoff) :=
      List.mem_filter.2 ⟨hrow, decide_eq_true hcold⟩
    have hsorted := (List.perm_insertionSort (·.id ≤ ·.id : HotRow → HotRow → Prop) _).mem_iff.2 hmem
    rw [hnil] at hsorted
    cases hsorted

theorem insertOrIgnore_of_free (h : Free archive row) :
    insertOrIgnore now archive row = archive ++ [{ row with archivedAtUtc := now }] := by
  refine if_neg fun hany => ?_
  obtain ⟨old, hold, hmeets⟩ := List.any_eq_true.1 hany
  obtain ⟨hid, hkey⟩ := h old hold
  simp [hid, hkey] at hmeets

theorem insertOrIgnore_of_not_free
    (h : ¬ Free archive row) : insertOrIgnore now archive row = archive := by
  refine if_pos (List.any_eq_true.2 ?_)
  by_contra hnone
  refine h fun old hold => ?_
  by_contra hmeets
  refine hnone ⟨old, hold, ?_⟩
  simp only [Bool.or_eq_true, decide_eq_true_eq]
  by_contra hneither
  exact hmeets ⟨fun hid => hneither (.inl hid), fun hkey => hneither (.inr hkey)⟩

theorem subset_insertOrIgnore (archive : List ArchiveRow) (row : HotRow) :
    archive ⊆ insertOrIgnore now archive row := by
  by_cases h : Free archive row
  · rw [insertOrIgnore_of_free h]
    exact List.subset_append_left _ _
  · rw [insertOrIgnore_of_not_free h]
    exact List.Subset.refl _

theorem subset_foldl_insertOrIgnore (batch : List HotRow) :
    ∀ archive : List ArchiveRow, archive ⊆ batch.foldl (insertOrIgnore now) archive := by
  induction batch with
  | nil => exact fun archive => List.Subset.refl archive
  | cons row batch ih =>
    exact fun archive => List.Subset.trans (subset_insertOrIgnore archive row) (ih _)

theorem mem_foldl_insertOrIgnore (batch : List HotRow) :
    ∀ {archive : List ArchiveRow} {old : ArchiveRow},
      old ∈ batch.foldl (insertOrIgnore now) archive →
        old ∈ archive ∨ ∃ row ∈ batch, old.toHotRow = row ∧ Free archive row := by
  induction batch with
  | nil => exact fun h => .inl h
  | cons row batch ih =>
    intro archive old h
    rcases ih h with hthere | ⟨later, hlater, heq, hfree⟩
    · by_cases hrow : Free archive row
      · rw [insertOrIgnore_of_free hrow] at hthere
        rcases List.mem_append.1 hthere with hold | hnew
        · exact .inl hold
        · rw [List.mem_singleton.1 hnew]
          exact .inr ⟨row, List.mem_cons_self, rfl, hrow⟩
      · rw [insertOrIgnore_of_not_free hrow] at hthere
        exact .inl hthere
    · exact .inr ⟨later, List.mem_cons_of_mem _ hlater, heq,
        fun other hother => hfree other (subset_insertOrIgnore archive row hother)⟩

/-- What the batch puts into the archive is no obstacle to a row with another id and another key. -/
theorem Movable.insertOrIgnore
    (h : Movable archive row) (hid : other.id ≠ row.id) (hkey : other.eventKey ≠ row.eventKey) :
    Movable (insertOrIgnore now archive other) row := by
  rcases h with hfree | ⟨old, hold, heq⟩
  · by_cases hother : Free archive other
    · refine .inl fun old hold => ?_
      rw [insertOrIgnore_of_free hother] at hold
      rcases List.mem_append.1 hold with hthere | hnew
      · exact hfree old hthere
      · rw [List.mem_singleton.1 hnew]
        exact ⟨hid, hkey⟩
    · rw [insertOrIgnore_of_not_free hother]
      exact .inl hfree
  · exact .inr ⟨old, subset_insertOrIgnore archive other hold, heq⟩

theorem Movable.foldl (batch : List HotRow) :
    ∀ {archive : List ArchiveRow}, Movable archive row →
      (∀ other ∈ batch, other.id ≠ row.id ∧ other.eventKey ≠ row.eventKey) →
        Movable (batch.foldl (MarketStore.insertOrIgnore now) archive) row := by
  induction batch with
  | nil => exact fun h _ => h
  | cons head batch ih =>
    intro archive h hdistinct
    obtain ⟨hid, hkey⟩ := hdistinct head List.mem_cons_self
    exact ih (h.insertOrIgnore hid hkey) fun other hother =>
      hdistinct other (List.mem_cons_of_mem _ hother)

theorem exists_insertOrIgnore (h : Movable archive row) :
    ∃ old ∈ MarketStore.insertOrIgnore now archive row, old.observation = row.observation := by
  rcases h with hfree | ⟨old, hold, heq⟩
  · rw [insertOrIgnore_of_free hfree]
    exact ⟨_, List.mem_append_right _ (List.mem_singleton_self _), rfl⟩
  · exact ⟨old, subset_insertOrIgnore archive row hold, heq⟩

theorem exists_foldl_insertOrIgnore (batch : List HotRow) :
    ∀ {archive : List ArchiveRow}, (batch.map HotRow.id).Nodup → (batch.map HotRow.eventKey).Nodup →
      Movable archive row → row ∈ batch →
        ∃ old ∈ batch.foldl (MarketStore.insertOrIgnore now) archive,
          old.observation = row.observation := by
  induction batch with
  | nil => exact fun _ _ _ h => by cases h
  | cons head batch ih =>
    intro archive hids hkeys hmovable hrow
    rw [List.map_cons, List.nodup_cons] at hids hkeys
    rcases List.mem_cons.1 hrow with rfl | htail
    · obtain ⟨old, hold, heq⟩ : ∃ old ∈ MarketStore.insertOrIgnore now archive row,
          old.observation = row.observation := exists_insertOrIgnore hmovable
      exact ⟨old, subset_foldl_insertOrIgnore batch _ hold, heq⟩
    · have hid : head.id ≠ row.id := fun heq => hids.1 (heq ▸ List.mem_map_of_mem htail)
      have hkey : head.eventKey ≠ row.eventKey :=
        fun heq => hkeys.1 (heq ▸ List.mem_map_of_mem htail)
      exact ih hids.2 hkeys.2 (hmovable.insertOrIgnore hid hkey) htail

theorem mem_hot_archiveBatch {batch : List HotRow} :
    row ∈ (store.archiveBatch now batch).hot ↔
      row ∈ store.hot ∧ row.id ∉ batch.map HotRow.id := by
  simp only [archiveBatch, List.mem_filter, decide_eq_true_eq]

theorem Sound.archiveBatch (h : Sound store) (batch : List HotRow) :
    Sound (store.archiveBatch now batch) where
  ids := h.ids.sublist (List.filter_sublist.map _)
  keys := h.keys.sublist (List.filter_sublist.map _)
  latest := fun row hrow => h.latest row (mem_hot_archiveBatch.1 hrow).1

theorem Sound.distinct (h : Sound store)
    (hrow : row ∈ store.hot) (hother : other ∈ store.hot) (hid : other.id ≠ row.id) :
    other.eventKey ≠ row.eventKey := fun hkey =>
  hid (congrArg HotRow.id (List.inj_on_of_nodup_map h.keys hother hrow hkey))

def Ready (cutoff : Int) (store : MarketStore) : Prop :=
  Sound store ∧ store.NothingLost ∧
    ∀ row ∈ store.hot, row.observation.eventTimeUtc < cutoff → Movable store.archive row

theorem Ready.archiveBatch (h : Ready cutoff store) :
    Ready cutoff (store.archiveBatch now (store.coldRows cutoff batchSize)) := by
  obtain ⟨hsound, hkept, hmovable⟩ := h
  refine ⟨hsound.archiveBatch _, ?_, ?_⟩
  · intro observation hlatest
    rcases hkept observation hlatest with ⟨row, hrow, rfl⟩ | ⟨old, hold, heq⟩
    · by_cases hbatch : row.id ∈ (store.coldRows cutoff batchSize).map HotRow.id
      · -- a row of the batch is in the archive afterwards
        obtain ⟨moved, hmoved, hid⟩ := List.mem_map.1 hbatch
        obtain ⟨hhot, hcold⟩ := mem_coldRows hmoved
        have hsame : moved = row := List.inj_on_of_nodup_map hsound.ids hhot hrow hid
        rw [hsame] at hmoved hcold
        exact .inr (exists_foldl_insertOrIgnore _ (coldRows_nodup hsound.ids)
          (coldRows_nodup hsound.keys) (hmovable row hrow hcold) hmoved)
      · exact .inl ⟨row, mem_hot_archiveBatch.2 ⟨hrow, hbatch⟩, rfl⟩
    · exact .inr ⟨old, subset_foldl_insertOrIgnore _ _ hold, heq⟩
  · intro row hrow hcold
    obtain ⟨hhot, hleft⟩ := mem_hot_archiveBatch.1 hrow
    refine (hmovable row hhot hcold).foldl _ fun other hother => ?_
    have hid : other.id ≠ row.id := fun heq => hleft (heq ▸ List.mem_map_of_mem hother)
    exact ⟨hid, hsound.distinct hhot (mem_coldRows hother).1 hid⟩

theorem archiveBatches_invariant {I : MarketStore → Prop}
    (hbatch : ∀ store, I store → I (store.archiveBatch now (store.coldRows cutoff batchSize))) :
    ∀ (rounds : Nat) (store : MarketStore), I store →
      I (archiveBatches cutoff now batchSize rounds store) := by
  intro rounds
  induction rounds with
  | zero => exact fun store h => h
  | succ rounds ih =>
    intro store h
    rw [archiveBatches]
    split
    · exact h
    · exact ih _ (hbatch store h)

theorem facts_archiveBatches (rounds : Nat) (store : MarketStore) :
    (archiveBatches cutoff now batchSize rounds store).facts = store.facts :=
  archiveBatches_invariant (I := fun after => after.facts = store.facts)
    (fun _ h => h) rounds store rfl

theorem length_hot_archiveBatch (h : store.coldRows cutoff batchSize ≠ []) :
    (store.archiveBatch now (store.coldRows cutoff batchSize)).hot.length < store.hot.length := by
  obtain ⟨row, hrow⟩ := List.exists_mem_of_ne_nil _ h
  refine List.length_filter_lt_length_iff_exists.2 ⟨row, (mem_coldRows hrow).1, ?_⟩
  simp only [decide_eq_true_eq, not_not]
  exact List.mem_map_of_mem hrow

theorem not_cold_archiveBatches (hsize : 0 < batchSize) :
    ∀ (rounds : Nat) (store : MarketStore), store.hot.length ≤ rounds →
      ∀ row ∈ (archiveBatches cutoff now batchSize rounds store).hot,
        ¬ row.observation.eventTimeUtc < cutoff := by
  intro rounds
  induction rounds with
  | zero =>
    intro store hlength row hrow
    rw [archiveBatches, List.length_eq_zero_iff.1 (Nat.le_zero.1 hlength)] at hrow
    cases hrow
  | succ rounds ih =>
    intro store hlength
    rw [archiveBatches]
    split
    · next hempty => exact coldRows_eq_nil hsize (List.isEmpty_iff.1 hempty)
    · next hsome =>
      have hshorter : (store.archiveBatch now (store.coldRows cutoff batchSize)).hot.length <
          store.hot.length := length_hot_archiveBatch fun hnil => hsome (List.isEmpty_iff.2 hnil)
      exact ih _ (by omega)

structure Blocked (row : HotRow) (store : MarketStore) : Prop where
  sound : Sound store
  met : ¬ Free store.archive row
  absent : ∀ old ∈ store.archive, old.observation ≠ row.observation
  only : ∀ other ∈ store.hot, other.observation = row.observation → other = row

theorem Blocked.archiveBatch (h : Blocked row store) :
    Blocked row (store.archiveBatch now (store.coldRows cutoff batchSize)) where
  sound := h.sound.archiveBatch _
  met := fun hfree => h.met fun old hold => hfree old (subset_foldl_insertOrIgnore _ _ hold)
  absent := by
    intro old hold heq
    rcases mem_foldl_insertOrIgnore _ hold with hthere | ⟨moved, hmoved, hsame, hfree⟩
    · exact h.absent old hthere heq
    · -- the only row with this content is not free
      have hrow : moved = row := h.only moved (mem_coldRows hmoved).1 (hsame ▸ heq)
      exact h.met (hrow ▸ hfree)
  only := fun other hother heq => h.only other (mem_hot_archiveBatch.1 hother).1 heq

end Archive

theorem Sound.step (h : Sound store) (call : StoreCall) :
    Sound (store.step call) := by
  cases call with
  | upsert observation now => exact h.upsert observation now
  | archive now retentionHours batchSize =>
    simp only [MarketStore.step, archiveObservationsOlderThan]
    split
    · exact h
    · exact archiveBatches_invariant (fun _ hbatch => hbatch.archiveBatch _) _ store h

theorem nothingLost_step_iff (call : StoreCall) (hsound : Sound store) (hkept : store.NothingLost) :
    (store.step call).NothingLost ↔ Unhindered store call (store.step call) := by
  cases call with
  | upsert observation now => exact ⟨fun _ => trivial, fun _ => hkept.upsert observation now⟩
  | archive now retentionHours batchSize =>
    simp only [MarketStore.step, archiveObservationsOlderThan, Unhindered]
    split
    · next hshort =>
      exact ⟨fun _ hlong => absurd hlong (Nat.not_le_of_lt hshort), fun _ => hkept⟩
    · next hlong =>
      constructor
      · intro hafter _ hsize row hrow hcold
        by_contra hstuck
        have hblocked : Blocked row store := by
          refine ⟨hsound, fun hfree => hstuck (.inl hfree),
            fun old hold heq => hstuck (.inr ⟨old, hold, heq⟩), fun other hother heq => ?_⟩
          exact List.inj_on_of_nodup_map hsound.keys hother hrow
            (congrArg NormalizedMarketObservation.eventKey heq)
        have hend : Blocked row (archiveBatches (cutoffOf now retentionHours) now batchSize
            store.hot.length store) :=
          archiveBatches_invariant (fun _ h => h.archiveBatch) store.hot.length store hblocked
        have hlatest : (archiveBatches (cutoffOf now retentionHours) now batchSize
            store.hot.length store).Latest row.observation := by
          rw [Latest, facts_archiveBatches]
          exact hsound.latest row hrow
        rcases hafter row.observation hlatest with ⟨other, hother, heq⟩ | ⟨old, hold, heq⟩
        · have hwarm := not_cold_archiveBatches hsize _ store le_rfl other hother
          rw [heq] at hwarm
          exact hwarm hcold
        · exact hend.absent old hold heq
      · intro hmovable
        by_cases hsize : 0 < batchSize
        · have hready : Ready (cutoffOf now retentionHours) store :=
            ⟨hsound, hkept, hmovable (Nat.le_of_not_lt hlong) hsize⟩
          exact (archiveBatches_invariant (fun _ h => h.archiveBatch) store.hot.length store
            hready).2.1
        · -- an empty batch moves nothing
          have hzero : batchSize = 0 := by omega
          subst hzero
          cases store.hot.length with
          | zero => exact hkept
          | succ rounds => exact hkept

end MarketStore

/-- A sequence of upserts and archive runs loses no fact in any of its states exactly when every
archive run moves only rows whose id and key are free in the archive, or whose content is there. -/
theorem facts_kept_iff (calls : List StoreCall) :
    EachStep MarketStore.step (fun _ _ store => store.NothingLost) .empty calls ↔
      EachStep MarketStore.step Unhindered .empty calls :=
  eachStep_iff (I := MarketStore.Sound) (fun _ call h => h.step call)
    (fun _ call hsound hkept => MarketStore.nothingLost_step_iff call hsound hkept) calls .empty
    MarketStore.sound_empty fun _ h => by cases h

def oldQuote (key : UInt8) (price : Rat) : NormalizedMarketObservation :=
  { eventKey := List.replicate 32 key
    sourceCode := "MELTED_AGGREGATE"
    sourceFamily := "TELEGRAM_PUBLIC"
    eventTimeUtc := 0
    availableAtUtc := 0
    instrument := "MELTED_GOLD_UNION"
    marketLabel := "UNION_QUOTE"
    settlementTerm := "UNKNOWN"
    tradeForm := "UNKNOWN"
    eventType := "QUOTE"
    side := "MID"
    price
    priceUnit := "TOMAN_PER_MESGHAL_750"
    currency := "TOMAN"
    quantity := none
    quantityUnit := none
    parseConfidence := 1
    parserVersion := "public-market-rules-v1"
    qualityState := "ELIGIBLE"
    qualityPolicyVersion := "public-market-v1"
    isConditional := false
    attributes := [] }

/-- Two quotes that are archived one after the other: both have row id 1. -/
def archivedTwice : List StoreCall :=
  [.upsert (oldQuote 1 40000000) 0, .archive 1000000 168 20000, .upsert (oldQuote 2 50000000) 1000000,
    .archive 2000000 168 20000]

/-- The second quote is in neither table. -/
theorem second_quote_lost :
    ¬ EachStep MarketStore.step (fun _ _ store => store.NothingLost) .empty archivedTwice ∧
      (run MarketStore.step .empty archivedTwice).hot = [] ∧
      (run MarketStore.step .empty archivedTwice).archive.map (·.eventKey) =
        [List.replicate 32 1] := by
  have hhot : (run MarketStore.step .empty archivedTwice).hot = [] := rfl
  have harchive : (run MarketStore.step .empty archivedTwice).archive.map (·.eventKey) =
      [List.replicate 32 1] := rfl
  refine ⟨?_, hhot, harchive⟩
  rintro ⟨-, -, -, hkept, -⟩
  rcases hkept (oldQuote 2 50000000) rfl with ⟨row, hrow, -⟩ | ⟨row, hrow, heq⟩
  · change row ∈ (run MarketStore.step .empty archivedTwice).hot at hrow
    rw [hhot] at hrow
    cases hrow
  · have hkey : row.eventKey ∈ (run MarketStore.step .empty archivedTwice).archive.map (·.eventKey) :=
      List.mem_map_of_mem hrow
    rw [harchive, HotRow.eventKey, heq] at hkey
    revert hkey
    decide

end TradingBot.Intelligence
