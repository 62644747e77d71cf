import TradingBot.Sync.OfferMirror
import TradingBot.Sync.TradeGuard

/-!
# A guard written twice

The receiver protects an offer and a trade twice: the preflight reads the row and compares in the
source language (`_stale_offer_sync_reason`, `_trade_sync_guard_reason_for_existing`), and the
statement has a condition of its own (`_offer_upsert_where_clause`,
`_trade_completed_upsert_where_clause`, `_trade_completed_update_where_clause`;
src/api/routers/sync.py). For an item whose values the driver binds, does the preflight report it
exactly when the condition keeps the row?
-/

namespace TradingBot.Sync

open Misc

/-- A statement with this condition leaves a row as it is; a statement without one never does. -/
def LeavesRow (condition : Option Truth) : Prop :=
  ∃ truth, condition = some truth ∧ truth.holds = false

/-! ## Offers -/

/-- `OfferStatus`. -/
def offerStatusMembers : List String := ["active", "completed", "cancelled", "expired"]

/-- `TERMINAL_OFFER_STATUSES` (line 225). -/
def terminalStatusTexts : List String := ["completed", "expired", "cancelled"]

/-- How a value is bound to the two columns that the guards of an offer read. -/
def bindOfferColumn (column : String) (value : Value) : Option Value :=
  if column = "version_id" then bindInteger 32 value else bindEnum offerStatusMembers value

/-- `_offer_payload_needs_ordering_check` (line 2169) of any payload. -/
def offerNeedsOrderingCheck (fields : Fields) : Bool :=
  enumValue (Fields.get fields "status") ≠ "" &&
    (Fields.get fields "version_id").coercePositiveInt.isSome

/-- `_stale_offer_sync_reason` (line 2495) of any payload for a row. -/
def staleOfferReason (row : Row) (fields : Fields) : Option StaleReason :=
  if !offerNeedsOrderingCheck fields then none
  else
    let incomingStatus := enumValue (Fields.get fields "status")
    let currentStatus := enumValue (row.columns.get "status")
    let incomingVersion := (Fields.get fields "version_id").coercePositiveInt
    let currentVersion := (row.columns.get "version_id").coercePositiveInt
    let older := match currentVersion, incomingVersion with
      | some current, some incoming => decide (incoming < current)
      | _, _ => false
    if older then some .olderAuthoritativeVersion
    else if currentStatus ∈ terminalStatusTexts ∧ incomingStatus ∉ terminalStatusTexts then
      some .terminalStateProtected
    else if currentStatus ∈ terminalStatusTexts ∧ incomingStatus ∈ terminalStatusTexts ∧
        currentVersion.isSome ∧ incomingVersion = currentVersion ∧
        incomingStatus ≠ currentStatus then
      some .sameVersionTerminalConflict
    else none

/-- `_offer_upsert_where_clause` (line 2179); `excluded` are the payload's values as bound. -/
def offerUpsertCondition (fields : Fields) (excluded : String → Value) (row : Row) :
    Option Truth :=
  if !offerNeedsOrderingCheck fields then none
  else
    let currentStatus := row.columns.get "status"
    let currentVersion := row.columns.get "version_id"
    let currentTerminal := currentStatus.sqlIn terminalStatusTexts
    let incomingTerminal := (excluded "status").sqlIn terminalStatusTexts
    let sameVersionTerminalConflict :=
      ((currentTerminal.both incomingTerminal).both
        (currentVersion.sqlEq (excluded "version_id"))).both
        (currentStatus.sqlEq (excluded "status")).negated
    let terminalReactivation := currentTerminal.both incomingTerminal.negated
    some (((currentVersion.sqlLe (excluded "version_id")).both terminalReactivation.negated).both
      sameVersionTerminalConflict.negated)

/-- A row of `offers`: both columns admit no null. -/
structure OfferRow (row : Row) : Prop where
  version : ∃ n, row.columns.get "version_id" = .int n
  status : ∃ member ∈ offerStatusMembers, row.columns.get "status" = .text member

/-- The values of an item, as the driver binds them to the columns. -/
def Binds (bind : String → Value → Option Value) (columns : List String) (fields : Fields)
    (excluded : String → Value) : Prop :=
  ∀ column ∈ columns, ∀ value, fields column = some value →
    bind column value = some (excluded column)

/-- The texts of the enumerations read as themselves, in either case. -/
theorem enumValue_texts : enumValue .null = "" ∧
    (∀ member ∈ offerStatusMembers, member ≠ "" ∧
      ∀ given ∈ [member, member.toUpper], enumValue (.text given) = member) ∧
    ∀ column ∈ ["status", "trade_type", "settlement_type"], ∀ member ∈ enumMembers column,
      member ≠ "" ∧ ∀ given ∈ [member, member.toUpper], enumValue (.text given) = member := by
  decide +kernel

theorem enumValue_null : enumValue .null = "" := enumValue_texts.1

theorem enumValue_completed : enumValue (.text "completed") = "completed" :=
  (enumValue_texts.2.2 "status" (by simp) "completed" (by decide)).2 _ (by simp)

theorem offerStatusMembers_cases {s : String} (h : s ∈ offerStatusMembers) :
    enumValue (.text s) = s ∧ s ≠ "" :=
  ⟨(enumValue_texts.2.1 s h).2 s (by simp), (enumValue_texts.2.1 s h).1⟩

theorem enumValue_of_bindEnum {members : List String} {value stored : Value}
    (hmembers : ∀ member ∈ members, ∀ given ∈ [member, member.toUpper],
      enumValue (.text given) = member) (h : bindEnum members value = some stored) :
    value = .null ∧ stored = .null ∨
      ∃ member ∈ members, stored = .text member ∧ enumValue value = member := by
  cases value with
  | null =>
    cases h
    exact .inl ⟨rfl, rfl⟩
  | text given =>
    obtain ⟨member, hfound, rfl⟩ := Option.map_eq_some_iff.mp h
    have hgiven := List.find?_some hfound
    rw [decide_eq_true_eq] at hgiven
    have hmember := List.mem_of_find?_eq_some hfound
    exact .inr ⟨member, hmember, rfl, hmembers member hmember given (by simpa using hgiven)⟩
  | bool b => cases h
  | int n => cases h
  | float shown truncated => cases h
  | other shown => cases h

theorem coercePositiveInt_int (n : Int) :
    (Value.int n).coercePositiveInt = if 0 < n then some n else none := rfl

theorem offerItem_of_check {fields : Fields} {excluded : String → Value}
    (hbinds : Binds bindOfferColumn ["version_id", "status"] fields excluded)
    (hcheck : offerNeedsOrderingCheck fields = true) :
    ∃ n, 0 < n ∧ (Fields.get fields "version_id").coercePositiveInt = some n ∧
      excluded "version_id" = .int n ∧ ∃ member ∈ offerStatusMembers,
        enumValue (Fields.get fields "status") = member ∧ excluded "status" = .text member := by
  unfold offerNeedsOrderingCheck at hcheck
  rw [Bool.and_eq_true, decide_eq_true_iff] at hcheck
  obtain ⟨hstatus, hversion⟩ := hcheck
  obtain ⟨n, hn⟩ := Option.isSome_iff_exists.mp hversion
  have hread : (Fields.get fields "version_id").toInt = some n ∧ 0 < n := by
    unfold Value.coercePositiveInt at hn
    split at hn
    · rename_i m hm
      split_ifs at hn with hpos
      cases hn
      exact ⟨hm, hpos⟩
    · cases hn
  obtain ⟨hread, hpos⟩ := hread
  -- a value that is read as a number is there
  have hgiven : ∀ column, Fields.get fields column ≠ .null →
      fields column = some (Fields.get fields column) := by
    intro column hnonnull
    unfold Fields.get at hnonnull ⊢
    cases hfield : fields column with
    | none =>
      rw [hfield] at hnonnull
      exact absurd rfl hnonnull
    | some value => rfl
  have hversionGiven := hgiven "version_id" (by
    intro hnull
    rw [hnull] at hread
    cases hread)
  have hstatusGiven := hgiven "status" (by
    intro hnull
    rw [hnull] at hstatus
    exact hstatus enumValue_null)
  have hboundVersion : bindInteger 32 (Fields.get fields "version_id") =
      some (excluded "version_id") := hbinds "version_id" (by simp) _ hversionGiven
  have hboundStatus : bindEnum offerStatusMembers (Fields.get fields "status") =
      some (excluded "status") := hbinds "status" (by simp) _ hstatusGiven
  refine ⟨n, hpos, hn, ?_, ?_⟩
  · rcases bindInteger_cases hboundVersion with ⟨hnull, _⟩ | ⟨m, hm⟩
    · rw [hnull] at hread
      cases hread
    · rw [hm] at hboundVersion
      rw [toInt_of_bindInteger hboundVersion] at hread
      cases hread
      exact hm
  · rcases enumValue_of_bindEnum (fun member hmember => (enumValue_texts.2.1 member hmember).2)
      hboundStatus with
      ⟨hnull, _⟩ | ⟨member, hmember, hstored, hvalue⟩
    · rw [hnull] at hstatus
      exact absurd enumValue_null hstatus
    · exact ⟨member, hmember, hvalue, hstored⟩

/-- The preflight of an offer reports an item exactly when the condition keeps the row: a stored
version that is not positive is none in one and older than every item in the other. -/
theorem staleOfferReason_iff {row : Row} {fields : Fields} {excluded : String → Value}
    (hrow : OfferRow row)
    (hbinds : Binds bindOfferColumn ["version_id", "status"] fields excluded) :
    (staleOfferReason row fields).isSome = true ↔
      LeavesRow (offerUpsertCondition fields excluded row) := by
  unfold staleOfferReason offerUpsertCondition LeavesRow
  cases hcheck : offerNeedsOrderingCheck fields with
  | false => simp
  | true =>
    obtain ⟨n, hpos, hincoming, hversion, member, _, hstatus, hmember⟩ :=
      offerItem_of_check hbinds hcheck
    obtain ⟨stored, hstored⟩ := hrow.version
    obtain ⟨current, hcurrentMember, hcurrent⟩ := hrow.status
    have hcurrentValue := (offerStatusMembers_cases hcurrentMember).1
    rw [hincoming, hversion, hstatus, hmember, hstored, hcurrent, hcurrentValue,
      coercePositiveInt_int]
    have hblocked : (¬ stored ≤ n ∨ (current ∈ terminalStatusTexts ∧ member ∉ terminalStatusTexts) ∨
        (current ∈ terminalStatusTexts ∧ member ∈ terminalStatusTexts ∧ stored = n ∧
          current ≠ member)) ↔
        LeavesRow (some ((((Value.int stored).sqlLe (.int n)).both
          (((Value.text current).sqlIn terminalStatusTexts).both
            ((Value.text member).sqlIn terminalStatusTexts).negated).negated).both
          (((((Value.text current).sqlIn terminalStatusTexts).both
            ((Value.text member).sqlIn terminalStatusTexts)).both
            ((Value.int stored).sqlEq (.int n))).both
            ((Value.text current).sqlEq (.text member)).negated).negated)) := by
      unfold LeavesRow
      by_cases hcurrentEnd : current ∈ terminalStatusTexts <;>
        by_cases hmemberEnd : member ∈ terminalStatusTexts <;>
        by_cases hle : stored ≤ n <;> by_cases hsame : stored = n <;>
        by_cases hequal : current = member <;>
        simp [Value.sqlIn, Value.sqlLe, Value.sqlEq, Truth.known, Truth.both, Truth.negated,
          Truth.holds, hcurrentEnd, hmemberEnd, hle, hsame, hequal]
    refine Iff.trans ?_ hblocked
    by_cases hstoredPos : 0 < stored
    · rw [if_pos hstoredPos]
      by_cases hcurrentEnd : current ∈ terminalStatusTexts <;>
        by_cases hmemberEnd : member ∈ terminalStatusTexts <;>
        by_cases hlt : n < stored
      all_goals simp [hcurrentEnd, hmemberEnd, hlt]
      all_goals grind
    · rw [if_neg hstoredPos]
      have hle : stored ≤ n := by omega
      have hne : stored ≠ n := by omega
      by_cases hcurrentEnd : current ∈ terminalStatusTexts <;>
        by_cases hmemberEnd : member ∈ terminalStatusTexts <;>
        simp [hcurrentEnd, hmemberEnd, hle, hne]

/-! ## Trades -/

/-- `_trade_completed_upsert_where_clause` (line 2412). -/
def tradeUpsertCondition (fields : Fields) (excluded : String → Value) (row : Row) :
    Option Truth :=
  if (Fields.get fields "trade_number").absent then none
  else some (some (completedWhere fields excluded row))

def comparedValue (store : Store) (fields : Fields) (field : String) : Value :=
  (if field ∈ completedTradeProtectedFields then
    store.bindTrade field (tradeSqlValueForField field (Fields.get fields field))
  else store.bindTrade field (Fields.get fields field)).getD .null

/-- `_trade_completed_update_where_clause` (line 2464). -/
def tradeUpdateCondition (store : Store) (fields : Fields) (row : Row) : Option Truth :=
  some (some (completedWhere fields (comparedValue store fields) row))

/-- A row of `trades`: its columns hold bound values, and the number and the status are not null. -/
structure TradeRow (store : Store) (row : Row) : Prop where
  bound : ∀ field ∈ keptFields,
    store.bindTrade field (row.columns.get field) = some (row.columns.get field)
  number : row.columns.get "trade_number" ≠ .null
  status : row.columns.get "status" ≠ .null

def Repeats (fields : Fields) (excluded : String → Value) (row : Row) : Prop :=
  ∀ field ∈ completedTradeProtectedFields,
    (fields field).isSome = true ∧ row.columns.get field = excluded field

/-- Of the two archived flags, one is null and the other false. -/
def ArchivedClash (fields : Fields) (excluded : String → Value) (row : Row) : Prop :=
  (fields "archived").isSome = true ∧
    (row.columns.get "archived" = .null ∧ excluded "archived" = .bool false ∨
      row.columns.get "archived" = .bool false ∧ excluded "archived" = .null)

section Fields

variable {store : Store} {field : String} {value stored : Value}

theorem normalize_integer (hfield : field ∈ ["offer_id", "offer_user_id", "responder_user_id",
      "actor_user_id", "commodity_id", "quantity", "price", "trade_number"])
    (hbound : store.bindTrade field value = some stored) :
    normalizeCompletedTradeField field value = stored := by
  have hinteger : ∃ bits, bindInteger bits value = some stored := by
    simp only [List.mem_cons, List.not_mem_nil, or_false] at hfield
    rcases hfield with rfl | rfl | rfl | rfl | rfl | rfl | rfl | rfl <;> exact ⟨_, hbound⟩
  obtain ⟨bits, hinteger⟩ := hinteger
  unfold normalizeCompletedTradeField
  rw [if_pos hfield]
  rcases bindInteger_cases hinteger with ⟨rfl, rfl⟩ | ⟨n, rfl⟩
  · rfl
  · rw [toInt_of_bindInteger hinteger]
    cases habsent : value.absent with
    | false => rfl
    | true =>
      unfold Value.absent at habsent
      rw [Bool.or_eq_true, decide_eq_true_iff, decide_eq_true_iff] at habsent
      rcases habsent with rfl | rfl <;> cases hinteger

theorem normalize_enum (hfield : field ∈ ["status", "trade_type", "settlement_type"])
    (hbound : store.bindTrade field value = some stored) :
    normalizeCompletedTradeField field value = .text (enumValue stored) ∧
      (stored = .null ∨ ∃ member, member ≠ "" ∧ stored = .text member ∧
        enumValue stored = member) := by
  have hbind : bindEnum (enumMembers field) value = some stored := by
    simp only [List.mem_cons, List.not_mem_nil, or_false] at hfield
    rcases hfield with rfl | rfl | rfl <;> exact hbound
  have hmembers := enumValue_texts.2.2
  have hnormal : normalizeCompletedTradeField field value = .text (enumValue value) := by
    simp only [List.mem_cons, List.not_mem_nil, or_false] at hfield
    rcases hfield with rfl | rfl | rfl <;> rfl
  rw [hnormal]
  rcases enumValue_of_bindEnum (fun member hmember => (hmembers field hfield member hmember).2)
    hbind with ⟨rfl, rfl⟩ | ⟨member, hmember, rfl, hvalue⟩
  · exact ⟨rfl, .inl rfl⟩
  · obtain ⟨hnonempty, hgiven⟩ := hmembers field hfield member hmember
    have hself : enumValue (.text member) = member := hgiven member (by simp)
    rw [hvalue, hself]
    exact ⟨rfl, .inr ⟨member, hnonempty, rfl, rfl⟩⟩

theorem normalize_eq_iff {current : Value} (hfield : field ∈ completedTradeProtectedFields)
    (hcurrent : store.bindTrade field current = some current)
    (hbound : store.bindTrade field value = some stored) :
    normalizeCompletedTradeField field current = normalizeCompletedTradeField field value ↔
      current = stored := by
  by_cases henum : field ∈ ["status", "trade_type", "settlement_type"]
  · obtain ⟨hleft, hleftCases⟩ := normalize_enum henum hcurrent
    obtain ⟨hright, hrightCases⟩ := normalize_enum henum hbound
    rw [hleft, hright]
    have hnull := enumValue_null
    constructor
    · intro hequal
      injection hequal with hequal
      rcases hleftCases with rfl | ⟨member, hne, rfl, hmember⟩
      · rcases hrightCases with rfl | ⟨member', hne', rfl, hmember'⟩
        · rfl
        · rw [hnull, hmember'] at hequal
          exact absurd hequal.symm hne'
      · rcases hrightCases with rfl | ⟨member', hne', rfl, hmember'⟩
        · rw [hnull, hmember] at hequal
          exact absurd hequal hne
        · rw [hmember, hmember'] at hequal
          rw [hequal]
    · intro hequal
      rw [hequal]
  · have hinteger : field ∈ ["offer_id", "offer_user_id", "responder_user_id", "actor_user_id",
        "commodity_id", "quantity", "price", "trade_number"] := by
      unfold completedTradeProtectedFields at hfield
      simp only [List.mem_cons, List.not_mem_nil, or_false, not_or] at hfield henum ⊢
      tauto
    rw [normalize_integer hinteger hcurrent, normalize_integer hinteger hbound]

theorem normalize_archived (hbound : store.bindTrade "archived" value = some stored) :
    normalizeCompletedTradeField "archived" value = .bool (decide (stored = .bool true)) ∧
      (stored = .null ∨ stored = .bool false ∨ stored = .bool true) := by
  have hbind : bindBoolean value = some stored := hbound
  have hnormal : normalizeCompletedTradeField "archived" value = .bool value.truthy := rfl
  rw [hnormal]
  cases value with
  | null =>
    cases hbind
    exact ⟨rfl, .inl rfl⟩
  | bool b =>
    cases hbind
    cases b
    · exact ⟨rfl, .inr (.inl rfl)⟩
    · exact ⟨rfl, .inr (.inr rfl)⟩
  | int n =>
    simp only [bindBoolean] at hbind
    split_ifs at hbind with hzero hone
    · cases hbind
      subst hzero
      exact ⟨rfl, .inr (.inl rfl)⟩
    · cases hbind
      subst hone
      exact ⟨rfl, .inr (.inr rfl)⟩
  | float shown truncated =>
    simp only [bindBoolean] at hbind
    split_ifs at hbind with hzero hone
    · cases hbind
      refine ⟨?_, .inr (.inl rfl)⟩
      simp [Value.truthy, hzero]
    · cases hbind
      subst hone
      refine ⟨?_, .inr (.inr rfl)⟩
      simp [Value.truthy]
  | text given => cases hbind
  | other shown => cases hbind

end Fields

section TradeAgreement

variable {store : Store} {row : Row} {fields : Fields} {excluded : String → Value}

theorem get_of_isSome {field : String} (h : (fields field).isSome = true) :
    fields field = some (Fields.get fields field) := by
  obtain ⟨value, hvalue⟩ := Option.isSome_iff_exists.mp h
  unfold Fields.get
  rw [hvalue]
  rfl

theorem completedWhere_congr {incoming incoming' : String → Value}
    (h : ∀ field ∈ keptFields, (fields field).isSome = true → incoming field = incoming' field)
    (row : Row) : completedWhere fields incoming row = completedWhere fields incoming' row := by
  have harchived : ∀ field ∈ completedTradeVisibilityFields,
      ((fields field).isNone || decide (row.columns.get field = incoming field)) =
        ((fields field).isNone || decide (row.columns.get field = incoming' field)) := by
    intro field hfield
    cases hgiven : (fields field).isSome with
    | false => simp [Option.not_isSome_iff_eq_none.mp (Bool.eq_false_iff.mp hgiven)]
    | true => rw [h field (List.mem_append_right _ hfield) hgiven]
  have hvisible : completedTradeVisibilityFields.all (fun field =>
      (fields field).isNone || decide (row.columns.get field = incoming field)) =
      completedTradeVisibilityFields.all (fun field =>
        (fields field).isNone || decide (row.columns.get field = incoming' field)) := by
    rw [Bool.eq_iff_iff, List.all_eq_true, List.all_eq_true]
    exact forall_congr' fun field => forall_congr' fun hfield => by rw [harchived field hfield]
  unfold completedWhere
  rw [hvisible]
  by_cases hall : completedTradeProtectedFields.all (fun field => (fields field).isSome) = true
  · have hgiven := List.all_eq_true.mp hall
    have hstatus : incoming "status" = incoming' "status" :=
      h "status" (by decide) (hgiven "status" (by decide))
    have hprotected : completedTradeProtectedFields.all (fun field =>
        decide (row.columns.get field = incoming field)) =
        completedTradeProtectedFields.all (fun field =>
          decide (row.columns.get field = incoming' field)) := by
      rw [Bool.eq_iff_iff, List.all_eq_true, List.all_eq_true]
      refine forall_congr' fun field => forall_congr' fun hfield => ?_
      rw [h field (List.mem_append_left _ hfield) (hgiven field hfield)]
    rw [hstatus, hprotected]
  · rw [Bool.eq_false_iff.mpr hall]
    simp

theorem completedWhere_compared (hbinds : Binds store.bindTrade keptFields fields excluded)
    (row : Row) : completedWhere fields (comparedValue store fields) row =
      completedWhere fields excluded row := by
  apply completedWhere_congr
  intro field hfield hgiven
  have hbound := hbinds field hfield _ (get_of_isSome hgiven)
  unfold comparedValue
  split_ifs with hprotected
  · rw [bindTrade_tradeSqlValue store hprotected hbound]
    rfl
  · rw [hbound]
    rfl

/-- An item passes for a completed row when it repeats the protected fields and the truth of its
archived flag. -/
theorem guardReason_none_iff (hrow : TradeRow store row)
    (hcompleted : row.columns.get "status" = .text "completed")
    (hbinds : Binds store.bindTrade keptFields fields excluded) {operation : Operation}
    (hoperation : operation = .insert ∨ operation = .update) :
    tradeSyncGuardReasonForExisting (some row) operation fields = none ↔
      Repeats fields excluded row ∧ ((fields "archived").isSome = true →
        (row.columns.get "archived" = .bool true ↔ excluded "archived" = .bool true)) := by
  have hstatusValue := enumValue_completed
  -- what the branches of the function ask, with the fields named
  have hprotected : ∀ field ∈ completedTradeProtectedFields, (fields field).isSome = true →
      (normalizeCompletedTradeField field (row.columns.get field) =
        normalizeCompletedTradeField field (Fields.get fields field) ↔
        row.columns.get field = excluded field) := by
    intro field hfield hgiven
    have hkept : field ∈ keptFields := List.mem_append_left _ hfield
    exact normalize_eq_iff hfield (hrow.bound field hkept)
      (hbinds field hkept _ (get_of_isSome hgiven))
  have harchived : (fields "archived").isSome = true →
      (normalizeCompletedTradeField "archived" (row.columns.get "archived") =
        normalizeCompletedTradeField "archived" (Fields.get fields "archived") ↔
        (row.columns.get "archived" = .bool true ↔ excluded "archived" = .bool true)) := by
    intro hgiven
    have hkept : "archived" ∈ keptFields := by decide
    rw [(normalize_archived (hrow.bound "archived" hkept)).1,
      (normalize_archived (hbinds "archived" hkept _ (get_of_isSome hgiven))).1]
    simp [decide_eq_decide]
  have hunfold : tradeSyncGuardReasonForExisting (some row) operation fields = none ↔
      enumValue (Fields.get fields "status") = "completed" ∧
      (∀ field ∈ completedTradeProtectedFields, (fields field).isSome = true) ∧
      (∀ field ∈ completedTradeProtectedFields,
        normalizeCompletedTradeField field (row.columns.get field) =
          normalizeCompletedTradeField field (Fields.get fields field)) ∧
      ((fields "archived").isSome = true →
        normalizeCompletedTradeField "archived" (row.columns.get "archived") =
          normalizeCompletedTradeField "archived" (Fields.get fields "archived")) := by
    unfold tradeSyncGuardReasonForExisting
    dsimp only
    rw [hcompleted, hstatusValue, if_neg (not_not_intro rfl)]
    rcases hoperation with rfl | rfl <;> dsimp only
    all_goals
      split_ifs with hempty hother hmissing hdiffers hflag
      · simp [hempty]
      · simp [hother]
      · simp only [List.any_eq_true, Option.isNone_iff_eq_none] at hmissing
        obtain ⟨field, hfield, hnone⟩ := hmissing
        simp only [false_iff]
        intro hall
        have hgiven := hall.2.1 field hfield
        rw [hnone] at hgiven
        cases hgiven
      · simp only [List.any_eq_true, Bool.not_eq_true', decide_eq_false_iff_not] at hdiffers
        obtain ⟨field, hfield, hne⟩ := hdiffers
        simp only [false_iff]
        exact fun hall => hne (hall.2.2.1 field hfield)
      · simp only [completedTradeVisibilityFields, List.any_cons, List.any_nil, Bool.or_false,
          Bool.and_eq_true, Bool.not_eq_true', decide_eq_false_iff_not] at hflag
        simp only [false_iff]
        exact fun hall => hflag.2 (hall.2.2.2 hflag.1)
      · simp only [List.any_eq_true, not_exists, not_and, Bool.not_eq_true,
          Option.isNone_eq_false_iff, Bool.not_eq_false', decide_eq_true_eq] at hmissing hdiffers
        simp only [completedTradeVisibilityFields, List.any_cons, List.any_nil, Bool.or_false,
          Bool.and_eq_true, Bool.not_eq_true', decide_eq_false_iff_not, not_and, not_not] at hflag
        simp only [true_iff]
        exact ⟨of_not_not hother, hmissing, hdiffers, hflag⟩
  rw [hunfold]
  constructor
  · rintro ⟨_, hgiven, hsame, hflag⟩
    refine ⟨fun field hfield => ⟨hgiven field hfield,
      (hprotected field hfield (hgiven field hfield)).mp (hsame field hfield)⟩, fun harch => ?_⟩
    exact (harchived harch).mp (hflag harch)
  · rintro ⟨hrepeats, hflag⟩
    have hsame : ∀ field ∈ completedTradeProtectedFields,
        normalizeCompletedTradeField field (row.columns.get field) =
          normalizeCompletedTradeField field (Fields.get fields field) := fun field hfield =>
      (hprotected field hfield (hrepeats field hfield).1).mpr (hrepeats field hfield).2
    refine ⟨?_, fun field hfield => (hrepeats field hfield).1, hsame, fun harch =>
      (harchived harch).mpr (hflag harch)⟩
    have hstatus := hsame "status" (by decide)
    rw [hcompleted] at hstatus
    have hshown : normalizeCompletedTradeField "status" (.text "completed") =
        .text (enumValue (.text "completed")) := rfl
    have hshown' : normalizeCompletedTradeField "status" (Fields.get fields "status") =
        .text (enumValue (Fields.get fields "status")) := rfl
    rw [hshown, hshown', hstatusValue] at hstatus
    injection hstatus with hstatus
    exact hstatus.symm

theorem completedWhere_iff (hcompleted : row.columns.get "status" = .text "completed")
    (hbinds : Binds store.bindTrade keptFields fields excluded) :
    completedWhere fields excluded row = true ↔
      Repeats fields excluded row ∧ ((fields "archived").isSome = true →
        row.columns.get "archived" = excluded "archived") := by
  have hnot : row.notCompleted = false := by
    unfold Row.notCompleted
    rw [hcompleted]
    rfl
  unfold completedWhere
  rw [hnot, Bool.false_or]
  simp only [Bool.and_eq_true, decide_eq_true_eq, List.all_eq_true, completedTradeVisibilityFields,
    List.all_cons, List.all_nil, Bool.and_true, Bool.or_eq_true, Option.isNone_iff_eq_none]
  constructor
  · rintro ⟨⟨⟨⟨_, hgiven⟩, _⟩, hequal⟩, hflag⟩
    refine ⟨fun field hfield => ⟨hgiven field hfield, hequal field hfield⟩, fun harch => ?_⟩
    rcases hflag with hnone | hflag
    · rw [hnone] at harch
      cases harch
    · exact hflag
  · rintro ⟨hrepeats, hflag⟩
    obtain ⟨hgiven, hstatus⟩ := hrepeats "status" (by decide)
    rw [hcompleted] at hstatus
    have hbound := hbinds "status" (by decide) _ (get_of_isSome hgiven)
    have hvalue : enumValue (Fields.get fields "status") = "completed" := by
      have hnormal := (normalize_enum (by simp) hbound).1
      rw [← hstatus] at hnormal
      have hshown : normalizeCompletedTradeField "status" (Fields.get fields "status") =
          .text (enumValue (Fields.get fields "status")) := rfl
      rw [hshown] at hnormal
      injection hnormal with hnormal
      rw [hnormal]
      exact enumValue_completed
    refine ⟨⟨⟨⟨hvalue, fun field hfield => (hrepeats field hfield).1⟩, hstatus.symm⟩,
      fun field hfield => (hrepeats field hfield).2⟩, ?_⟩
    cases harch : fields "archived" with
    | none => exact .inl rfl
    | some flag => exact .inr (hflag (by rw [harch]; rfl))

theorem guards_free (hrow : TradeRow store row)
    (hopen : row.columns.get "status" ≠ .text "completed") (operation : Operation)
    (fields : Fields) (incoming : String → Value) :
    tradeSyncGuardReasonForExisting (some row) operation fields = none ∧
      completedWhere fields incoming row = true := by
  have hbound := hrow.bound "status" (by decide)
  obtain ⟨_, hcases⟩ := normalize_enum (by simp) hbound
  constructor
  · have hvalue : enumValue (row.columns.get "status") ≠ "completed" := by
      rcases hcases with hnull | ⟨member, _, hmember, hvalue⟩
      · exact absurd hnull hrow.status
      · rw [hvalue]
        rintro rfl
        exact hopen hmember
    unfold tradeSyncGuardReasonForExisting
    dsimp only
    rw [if_pos hvalue]
  · unfold completedWhere Row.notCompleted
    simp [hopen, hrow.status]

theorem not_repeats_of_absent (hrow : TradeRow store row)
    (hbinds : Binds store.bindTrade keptFields fields excluded)
    (habsent : (Fields.get fields "trade_number").absent = true) :
    ¬ Repeats fields excluded row := by
  intro hrepeats
  obtain ⟨hgiven, hequal⟩ := hrepeats "trade_number" (by decide)
  have hbound := hbinds "trade_number" (by decide) _ (get_of_isSome hgiven)
  have hnormal := normalize_integer (by simp) hbound
  have hnull : normalizeCompletedTradeField "trade_number" (Fields.get fields "trade_number") =
      .null := by
    unfold normalizeCompletedTradeField
    rw [if_pos (by simp), habsent]
    rfl
  rw [hnull] at hnormal
  exact hrow.number (hequal.trans hnormal.symm)

theorem archivedClash_iff (hrow : TradeRow store row)
    (hbinds : Binds store.bindTrade keptFields fields excluded) :
    ArchivedClash fields excluded row ↔
      (((fields "archived").isSome = true →
        (row.columns.get "archived" = .bool true ↔ excluded "archived" = .bool true)) ∧
      ¬ ((fields "archived").isSome = true →
        row.columns.get "archived" = excluded "archived")) := by
  unfold ArchivedClash
  cases hgiven : (fields "archived").isSome with
  | false => simp
  | true =>
    have hcurrent := (normalize_archived (hrow.bound "archived" (by decide))).2
    have hincoming :=
      (normalize_archived (hbinds "archived" (by decide) _ (get_of_isSome hgiven))).2
    rcases hcurrent with hcurrent | hcurrent | hcurrent <;>
      rcases hincoming with hincoming | hincoming | hincoming <;>
      simp [hcurrent, hincoming]

end TradeAgreement

theorem agree_iff_of_stronger {repeats weaker stronger : Prop} (h : stronger → weaker) :
    ((¬ (repeats ∧ weaker) ↔ ¬ (repeats ∧ stronger)) ∧
      (¬ (repeats ∧ weaker) ↔ ¬ (repeats ∧ stronger))) ↔
      ¬ (repeats ∧ weaker ∧ ¬ stronger) := by
  tauto

/-- The guards of an offer always agree. Those of a trade agree on a completed row exactly when the
item carries a trade number and is not a repetition of the row in which one archived flag is null
and the other false. -/
theorem guards_agree_iff (store : Store) :
    (∀ row fields excluded, OfferRow row →
      Binds bindOfferColumn ["version_id", "status"] fields excluded →
      ((staleOfferReason row fields).isSome = true ↔
        LeavesRow (offerUpsertCondition fields excluded row))) ∧
    ∀ row fields excluded operation, TradeRow store row →
      Binds store.bindTrade keptFields fields excluded →
      (operation = .insert ∨ operation = .update) →
      ((((tradeSyncGuardReasonForExisting (some row) operation fields).isSome = true ↔
          LeavesRow (tradeUpsertCondition fields excluded row)) ∧
        ((tradeSyncGuardReasonForExisting (some row) operation fields).isSome = true ↔
          LeavesRow (tradeUpdateCondition store fields row))) ↔
      (row.columns.get "status" = .text "completed" →
        (Fields.get fields "trade_number").absent = false ∧
          ¬ (Repeats fields excluded row ∧ ArchivedClash fields excluded row))) := by
  refine ⟨fun row fields excluded hrow hbinds => staleOfferReason_iff hrow hbinds, ?_⟩
  intro row fields excluded operation hrow hbinds hoperation
  have hupdate : LeavesRow (tradeUpdateCondition store fields row) ↔
      completedWhere fields excluded row = false := by
    unfold LeavesRow tradeUpdateCondition
    rw [completedWhere_compared hbinds]
    simp
  by_cases hcompleted : row.columns.get "status" = .text "completed"
  · have hreason := guardReason_none_iff hrow hcompleted hbinds hoperation
    have hwhere := completedWhere_iff hcompleted hbinds
    have hclash := archivedClash_iff hrow hbinds
    rw [hupdate, ← Option.not_isNone, Bool.not_eq_true', ← Bool.not_eq_true,
      Option.isNone_iff_eq_none, hreason, ← Bool.not_eq_true, hwhere]
    cases habsent : (Fields.get fields "trade_number").absent with
    | true =>
      have hnever := not_repeats_of_absent hrow hbinds habsent
      have hupsert : ¬ LeavesRow (tradeUpsertCondition fields excluded row) := by
        unfold LeavesRow tradeUpsertCondition
        rw [habsent]
        simp
      simp only [hnever, hupsert, hcompleted]
      simp
    | false =>
      have hupsert : LeavesRow (tradeUpsertCondition fields excluded row) ↔
          ¬ completedWhere fields excluded row = true := by
        unfold LeavesRow tradeUpsertCondition
        rw [habsent]
        simp
      have hstronger : ((fields "archived").isSome = true →
            row.columns.get "archived" = excluded "archived") →
          (fields "archived").isSome = true →
            (row.columns.get "archived" = .bool true ↔ excluded "archived" = .bool true) := by
        intro hequal hgiven
        rw [hequal hgiven]
      rw [hupsert, hwhere, hclash, agree_iff_of_stronger hstronger]
      exact ⟨fun hno _ => ⟨rfl, hno⟩, fun h => (h hcompleted).2⟩
  · obtain ⟨hreason, hwhere⟩ := guards_free hrow hcompleted operation fields excluded
    have hupsert : ¬ LeavesRow (tradeUpsertCondition fields excluded row) := by
      unfold LeavesRow tradeUpsertCondition
      split_ifs <;> simp [hwhere]
    rw [hupdate, hwhere, hreason]
    simp [hupsert, hcompleted]

/-- A completed trade with an archived flag, as a row and as an item. -/
def repeatedTrade (flag : Value) : Payload :=
  [("trade_number", .int 10000), ("offer_id", .null), ("offer_user_id", .int 5),
    ("responder_user_id", .int 6), ("actor_user_id", .int 6), ("commodity_id", .int 1),
    ("trade_type", .text "buy"), ("settlement_type", .text "cash"), ("quantity", .int 5),
    ("price", .int 260), ("status", .text "completed"), ("archived", flag)]

def archivedFlags : List Value := [.null, .bool false, .bool true]

/-- What the guards make of the repeated trade. -/
theorem repeatedTrade_guards :
    (∀ flag ∈ archivedFlags,
      (∀ field ∈ keptFields, plainStore.bindTrade field ((repeatedTrade flag).get field) =
        some ((repeatedTrade flag).get field)) ∧
      (repeatedTrade flag).get "trade_number" ≠ .null ∧
      (repeatedTrade flag).get "status" ≠ .null) ∧
    tradeSyncGuardReasonForExisting (some ⟨1, repeatedTrade .null⟩) .update
      (repeatedTrade (.bool false)).fields = none ∧
    tradeUpsertCondition (repeatedTrade (.bool false)).fields
      (repeatedTrade (.bool false)).get ⟨1, repeatedTrade .null⟩ = some (some false) ∧
    tradeSyncGuardReasonForExisting (some ⟨1, repeatedTrade (.bool false)⟩) .update
      (repeatedTrade (.bool true)).fields = some "protected_business_field_mismatch" := by
  decide +kernel

theorem repeatedTrade_row {flag : Value} (h : flag ∈ archivedFlags) :
    TradeRow plainStore ⟨1, repeatedTrade flag⟩ := by
  obtain ⟨hbound, hnumber, hstatus⟩ := repeatedTrade_guards.1 flag h
  exact ⟨hbound, hnumber, hstatus⟩

theorem repeatedTrade_binds {flag : Value} (h : flag ∈ archivedFlags) :
    Binds plainStore.bindTrade keptFields (repeatedTrade flag).fields (repeatedTrade flag).get := by
  intro field hfield value hvalue
  have hget : (repeatedTrade flag).get field = value := by
    unfold Payload.get
    have hlookup : (repeatedTrade flag).lookup field = some value := hvalue
    rw [hlookup]
    rfl
  rw [← hget]
  exact (repeatedTrade_row h).bound field hfield

/-- The row's flag was never set, the item says not archived: the preflight lets it pass, the
condition keeps the row. -/
theorem unset_flag_divides_guards :
    TradeRow plainStore ⟨1, repeatedTrade .null⟩ ∧
      Binds plainStore.bindTrade keptFields (repeatedTrade (.bool false)).fields
        (repeatedTrade (.bool false)).get ∧
      tradeSyncGuardReasonForExisting (some ⟨1, repeatedTrade .null⟩) .update
        (repeatedTrade (.bool false)).fields = none ∧
      LeavesRow (tradeUpsertCondition (repeatedTrade (.bool false)).fields
        (repeatedTrade (.bool false)).get ⟨1, repeatedTrade .null⟩) :=
  ⟨repeatedTrade_row (by decide), repeatedTrade_binds (by decide), repeatedTrade_guards.2.1,
    ⟨some false, repeatedTrade_guards.2.2.1, rfl⟩⟩

/-- The item of a trade that is archived elsewhere is kept out by both. -/
theorem archived_elsewhere_kept_out :
    tradeSyncGuardReasonForExisting (some ⟨1, repeatedTrade (.bool false)⟩) .update
        (repeatedTrade (.bool true)).fields = some "protected_business_field_mismatch" ∧
      LeavesRow (tradeUpsertCondition (repeatedTrade (.bool true)).fields
        (repeatedTrade (.bool true)).get ⟨1, repeatedTrade (.bool false)⟩) := by
  have hreason := repeatedTrade_guards.2.2.2
  have hagree := ((guards_agree_iff plainStore).2 ⟨1, repeatedTrade (.bool false)⟩
    (repeatedTrade (.bool true)).fields (repeatedTrade (.bool true)).get .update
    (repeatedTrade_row (by decide)) (repeatedTrade_binds (by decide)) (.inr rfl)).mpr (by
      intro _
      refine ⟨by decide, fun h => ?_⟩
      rcases h.2.2 with ⟨hnull, _⟩ | ⟨_, hnull⟩
      · exact absurd hnull (by decide)
      · exact absurd hnull (by decide))
  exact ⟨hreason, hagree.1.mp (by rw [hreason]; rfl)⟩

end TradingBot.Sync
