import TradingBot.Sync.Columns
import TradingBot.Sync.CompletedTrades

/-!
# The guard of completed trades and a trade that is new here

`_trade_sync_guard_reason` (src/api/routers/sync.py:2139) looks for an item's row by the trade
number, and failing that by the numeric id, which each server gives out for itself: the second look
can find another trade.
-/

namespace TradingBot.Sync

open Misc

/-- The row the second look finds: the one with the numeric id the item carries. -/
def tradeByCarriedId (rows : Rows) (recordId : Value) (fields : Fields) : Option Row :=
  match (Fields.get fields "id").coercePositiveInt.or recordId.coercePositiveInt with
  | none => none
  | some id =>
    if (bindInteger 32 (.int id)).isSome then (rows .trades).find? fun row => row.id = id else none

theorem toInt_of_bindInteger {bits : Nat} {value : Value} {n : Int}
    (h : bindInteger bits value = some (.int n)) : value.toInt = some n := by
  unfold bindInteger at h
  cases value with
  | null => cases h
  | bool given =>
    cases h
    rfl
  | int m =>
    dsimp only at h
    split_ifs at h
    cases h
    rfl
  | float shown m =>
    dsimp only at h
    split_ifs at h
    cases h
    rfl
  | text given => cases h
  | other shown => cases h

section Guard

variable {rows : Rows} {recordId : Value} {fields : Fields} {number : Int}

theorem loadTradeForSyncGuard_of_new (hpresent : (Fields.get fields "trade_number").absent = false)
    (hbound : bindInteger 32 (Fields.get fields "trade_number") = some (.int number))
    (hnew : ∀ row ∈ rows .trades, row.columns.get "trade_number" ≠ .int number) :
    loadTradeForSyncGuard rows recordId fields = none ∧
        tradeByCarriedId rows recordId fields = none ∨
      loadTradeForSyncGuard rows recordId fields =
        some (tradeByCarriedId rows recordId fields) := by
  have hnone : ((rows .trades).find? fun row =>
      decide (row.columns.get "trade_number" = .int number)) = none := by
    apply List.find?_eq_none.mpr
    intro row hrow
    simpa using hnew row hrow
  unfold loadTradeForSyncGuard tradeByCarriedId
  dsimp only
  rw [hpresent, hbound]
  simp only [Bool.false_eq_true, if_false, hnone]
  cases (Fields.get fields "id").coercePositiveInt.or recordId.coercePositiveInt with
  | none => exact .inr rfl
  | some id =>
    cases hid : bindInteger 32 (.int id) with
    | none => exact .inl ⟨by simp [hid], by simp [hid]⟩
    | some bound => exact .inr (by simp [hid])

theorem guardReason_of_completed {row : Row} {operation : Operation} {stored : Int}
    (hstored : row.columns.get "trade_number" = .int stored) (hother : stored ≠ number)
    (hcompleted : enumValue (row.columns.get "status") = "completed")
    (hoperation : operation ≠ .unknown)
    (hpresent : (Fields.get fields "trade_number").absent = false)
    (hbound : bindInteger 32 (Fields.get fields "trade_number") = some (.int number)) :
    ∃ reason, tradeSyncGuardReasonForExisting (some row) operation fields = some reason := by
  have hmismatch : normalizeCompletedTradeField "trade_number" (row.columns.get "trade_number") ≠
      normalizeCompletedTradeField "trade_number" (Fields.get fields "trade_number") := by
    have hfield : "trade_number" ∈ ["offer_id", "offer_user_id", "responder_user_id",
        "actor_user_id", "commodity_id", "quantity", "price", "trade_number"] := by decide
    unfold normalizeCompletedTradeField
    rw [if_pos hfield, if_pos hfield, hpresent, toInt_of_bindInteger hbound, hstored]
    intro hequal
    exact hother (by simpa [Value.absent, Value.toInt] using hequal)
  have hany : (completedTradeProtectedFields.any fun field =>
      !decide (normalizeCompletedTradeField field (row.columns.get field) =
        normalizeCompletedTradeField field (Fields.get fields field))) = true := by
    apply List.any_eq_true.mpr
    exact ⟨"trade_number", by decide, by simp [hmismatch]⟩
  unfold tradeSyncGuardReasonForExisting
  dsimp only
  rw [if_neg (not_not_intro hcompleted)]
  cases operation with
  | delete => exact ⟨_, rfl⟩
  | unknown => exact absurd rfl hoperation
  | insert =>
    simp only [hany, if_true]
    split_ifs <;> exact ⟨_, rfl⟩
  | update =>
    simp only [hany, if_true]
    split_ifs <;> exact ⟨_, rfl⟩

end Guard

/-- The guard lets an item with a new trade number pass exactly when the row with its numeric id is
missing or not completed. -/
theorem new_trade_passes_guard_iff (rows : Rows) (operation : Operation) (recordId : Value)
    (fields : Fields) (number : Int)
    (hnumbers : ∀ row ∈ rows .trades, ∃ n, row.columns.get "trade_number" = .int n)
    (hoperation : operation ≠ .unknown)
    (hpresent : (Fields.get fields "trade_number").absent = false)
    (hbound : bindInteger 32 (Fields.get fields "trade_number") = some (.int number))
    (hnew : ∀ row ∈ rows .trades, row.columns.get "trade_number" ≠ .int number) :
    (∀ reason, tradeSyncGuardReason rows operation recordId fields ≠ some (some reason)) ↔
      ∀ row, tradeByCarriedId rows recordId fields = some row →
        enumValue (row.columns.get "status") ≠ "completed" := by
  constructor
  · intro hpasses row hfound hcompleted
    have hload : loadTradeForSyncGuard rows recordId fields = some (some row) := by
      rcases loadTradeForSyncGuard_of_new hpresent hbound hnew with ⟨_, hnone⟩ | hload
      · rw [hfound] at hnone
        cases hnone
      · rw [hload, hfound]
    have hmem : row ∈ rows .trades := by
      unfold tradeByCarriedId at hfound
      split at hfound
      · cases hfound
      · split at hfound
        · exact List.mem_of_find?_eq_some hfound
        · cases hfound
    obtain ⟨stored, hstored⟩ := hnumbers row hmem
    have hother : stored ≠ number := by
      rintro rfl
      exact hnew row hmem hstored
    obtain ⟨reason, hreason⟩ :=
      guardReason_of_completed hstored hother hcompleted hoperation hpresent hbound
    refine hpasses reason ?_
    rw [tradeSyncGuardReason, hload, Option.map_some, hreason]
  · intro hfree reason hreason
    rcases loadTradeForSyncGuard_of_new hpresent hbound hnew with ⟨hload, _⟩ | hload
    · rw [tradeSyncGuardReason, hload] at hreason
      cases hreason
    · rw [tradeSyncGuardReason, hload, Option.map_some] at hreason
      cases hfound : tradeByCarriedId rows recordId fields with
      | none =>
        rw [hfound] at hreason
        cases hreason
      | some row =>
        rw [hfound] at hreason
        unfold tradeSyncGuardReasonForExisting at hreason
        dsimp only at hreason
        rw [if_pos (hfree row hfound)] at hreason
        cases hreason

/-- A trade of the peer, new here, under the numeric id of a local completed trade, and under a free
id. -/
def peerTrade (recordId : Int) : Application :=
  ⟨.trades, .insert, .int recordId, [("trade_number", .int 20000), ("status", .text "completed"),
    ("offer_id", .null), ("offer_user_id", .null), ("responder_user_id", .null),
    ("actor_user_id", .null), ("commodity_id", .null), ("trade_type", .text "buy"),
    ("settlement_type", .text "cash"), ("quantity", .int 5), ("price", .int 260)], none⟩

/-- The local trade 10000 has the id 1: trade 20000 under that id is dropped, under the id 2 it is
inserted. -/
theorem same_id_blocks_insertion :
    (∀ row ∈ completedRows .trades, row.columns.get "trade_number" ≠ .int 20000) ∧
      tradeSyncGuardReason completedRows .insert (.int 1) (peerTrade 1).data.fields =
        some (some "protected_business_field_mismatch") ∧
      applyOne plainStore completedRows (peerTrade 1) .trades = completedRows .trades ∧
      (applyOne plainStore completedRows (peerTrade 2) .trades).length = 2 := by
  decide +kernel

theorem free_id_passes_guard :
    tradeByCarriedId completedRows (.int 2) (peerTrade 2).data.fields = none ∧
      tradeSyncGuardReason completedRows .insert (.int 2) (peerTrade 2).data.fields ≠
        some (some "protected_business_field_mismatch") := by
  have hfree : tradeByCarriedId completedRows (.int 2) (peerTrade 2).data.fields = none := by
    decide
  refine ⟨hfree, (new_trade_passes_guard_iff completedRows .insert (.int 2)
    (peerTrade 2).data.fields 20000 ?_ (by decide) (by decide) (by decide)
    (by decide)).mpr ?_ _⟩
  · intro row hrow
    rw [List.mem_singleton.mp hrow]
    exact ⟨10000, by decide⟩
  · intro row hfound
    rw [hfree] at hfound
    cases hfound

end TradingBot.Sync
