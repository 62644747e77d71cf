import Mathlib.Data.List.Induction
import Mathlib.Data.List.Sort
import TradingBot.Intelligence.ProjectOutbox
import TradingBot.Misc.Run

/-!
# The ledger of relationship labels

`src/core/market_intelligence/relationship_ledger.py`: labels are checked, keyed by their economic
dimensions and written to one row for each key. Numbers are of an opaque type `ν`; how instants and
floats are read is a parameter. A digest is the value it is taken of, that is, free of collisions. A
dictionary of features is the list of its items in the order of their names.

The statement that writes over a row names every column of the content but one: the actual price
stays as first stored.
-/

namespace TradingBot.Intelligence

open TradingBot.Misc

/-- `LABEL_SCHEMA`. -/
def labelSchema : String := "COIN_INTRINSIC_RELATIONSHIP_DATASET_V1_SHADOW_20260803"

/-- `RAW_OR_IDENTITY_KEYS`. -/
def rawOrIdentityKeys : List String :=
  ["offer_text", "message_id", "source_message_id", "sender", "sender_name", "counterparty",
    "counterparty_name", "phone", "channel", "channel_name"]

/-- What a reading raises: a `ValueError` with its text, or an error that nobody catches. -/
inductive LabelError where
  | value (code : String)
  | uncaught
  deriving DecidableEq, Repr

/-- How the source language reads instants and floats, and the text of an instant. -/
structure LedgerReading (ν : Type) where
  format : PyFormat
  utc : String → Except LabelError Int
  iso : Int → String
  float : Json → Except LabelError ν
  isFinite : ν → Bool
  isPositive : ν → Bool

structure RelationshipLabel (ν : Type) where
  availableAtUtc : String
  realizedAtUtc : String
  commodity : String
  settlement : String
  tradeForm : String
  meltedAnchorMarket : String
  meltedAnchorAgeSeconds : ν
  intrinsicProjectPrice : ν
  actualProjectPrice : ν
  bubbleRatio : ν
  features : List (String × ν)
  deriving DecidableEq

/-- The fields of `_label_key`. -/
structure LabelKey where
  realizedAtUtc : String
  commodity : String
  settlement : String
  tradeForm : String
  meltedAnchorMarket : String
  deriving DecidableEq, Repr

/-- `_digest` of an identity or of a content. -/
inductive LabelDigest (ν : Type) where
  | ofKey (key : LabelKey)
  | ofContent (content : RelationshipLabel ν)
  deriving DecidableEq

variable {ν : Type}

def RelationshipLabel.key (label : RelationshipLabel ν) : LabelKey :=
  ⟨label.realizedAtUtc, label.commodity, label.settlement, label.tradeForm, label.meltedAnchorMarket⟩

def setFeature (features : List (String × ν)) (name : String) (value : ν) : List (String × ν) :=
  if features.any (·.1 = name) then features.map fun item => if item.1 = name then (name, value) else item
  else features ++ [(name, value)]

section Reading

variable (reading : LedgerReading ν)

/-- `_finite`. -/
def finiteNumber (value : Json) (field : String) : Except LabelError ν := do
  match reading.float value with
  | .error (.value _) => .error (.value ("relationship_ledger_" ++ field ++ "_invalid"))
  | .error .uncaught => .error .uncaught
  | .ok number =>
    if reading.isFinite number then .ok number
    else .error (.value ("relationship_ledger_" ++ field ++ "_invalid"))

/-- `_finite_positive`. -/
def finitePositive (value : Json) (field : String) : Except LabelError ν := do
  let number ← finiteNumber reading value field
  if reading.isPositive number then .ok number
  else .error (.value ("relationship_ledger_" ++ field ++ "_invalid"))

/-- `item.get(field)`. -/
def itemGet (item : List (String × Json)) (field : String) : Json :=
  (Json.member? item field).getD .null

/-- `str(item.get(field) or "").strip()`. -/
def dimension (item : List (String × Json)) (field : String) : String :=
  pyStrip ((orDefault reading.format item field (.str "")).pyStr reading.format)

def readFeatures : List (String × Json) → List (String × ν) → Except LabelError (List (String × ν))
  | [], features => .ok features
  | (name, value) :: rest, features => do
    let number ← finiteNumber reading value "feature"
    readFeatures rest (setFeature features name number)

/-- `item.get("schema_version") != LABEL_SCHEMA`. -/
def hasLabelSchema (item : List (String × Json)) : Bool :=
  match itemGet item "schema_version" with
  | .str text => text = labelSchema
  | _ => false

/-- `isinstance(feature_input, Mapping) and feature_input`. -/
def featureInput (item : List (String × Json)) : Except LabelError (List (String × Json)) :=
  match itemGet item "features" with
  | .obj [] => .error (.value "relationship_ledger_features_invalid")
  | .obj members => .ok members
  | _ => .error (.value "relationship_ledger_features_invalid")

/-- A check that raises a `ValueError`. -/
def ledgerUnless (condition : Prop) [Decidable condition] (code : String) : Except LabelError Unit :=
  if condition then .ok () else .error (.value code)

def normalizeLabel (item : List (String × Json)) : Except LabelError (RelationshipLabel ν) := do
  ledgerUnless (∀ member ∈ item, member.1 ∉ rawOrIdentityKeys)
    "relationship_ledger_raw_or_identity_field_forbidden"
  ledgerUnless (hasLabelSchema item) "relationship_ledger_label_schema_invalid"
  let available ← reading.utc ((itemGet item "available_at_utc").pyStr reading.format)
  let realized ← reading.utc ((itemGet item "realized_at_utc").pyStr reading.format)
  ledgerUnless (available < realized) "relationship_ledger_label_not_strictly_future"
  let commodity := dimension reading item "commodity"
  let settlement := pyUpper (dimension reading item "settlement")
  let tradeForm := pyUpper (dimension reading item "trade_form")
  let anchor := dimension reading item "melted_anchor_market"
  ledgerUnless (commodity ≠ "" ∧ settlement ≠ "" ∧ tradeForm ≠ "" ∧ anchor ≠ "")
    "relationship_ledger_market_dimension_invalid"
  let input ← featureInput item
  let features ← readFeatures reading input []
  let age ← finiteNumber reading (itemGet item "melted_anchor_age_seconds") "anchor_age"
  let intrinsic ← finitePositive reading (itemGet item "intrinsic_project_price") "intrinsic_price"
  let actual ← finitePositive reading (itemGet item "actual_project_price") "actual_price"
  let bubble ← finiteNumber reading (itemGet item "bubble_ratio") "bubble"
  .ok
    { availableAtUtc := reading.iso available
      realizedAtUtc := reading.iso realized
      commodity := commodity
      settlement := settlement
      tradeForm := tradeForm
      meltedAnchorMarket := anchor
      meltedAnchorAgeSeconds := age
      intrinsicProjectPrice := intrinsic
      actualProjectPrice := actual
      bubbleRatio := bubble
      features := features.insertionSort fun a b => a.1 ≤ b.1 }

end Reading

/-- A row of `coin_intrinsic_labels`. -/
structure LabelRow (ν : Type) extends RelationshipLabel ν where
  labelKeySha256 : LabelDigest ν
  contentSha256 : LabelDigest ν
  firstIngestedAtUtc : String
  lastIngestedAtUtc : String

variable [DecidableEq ν]

def LabelRow.ofLabel (label : RelationshipLabel ν) (now : String) : LabelRow ν :=
  { label with
    labelKeySha256 := .ofKey label.key
    contentSha256 := .ofContent label
    firstIngestedAtUtc := now
    lastIngestedAtUtc := now }

/-- `ON CONFLICT(label_key_sha256) DO UPDATE` (lines 244-251). -/
def LabelRow.corrected (label : RelationshipLabel ν) (now : String) (row : LabelRow ν) : LabelRow ν :=
  { row with
    contentSha256 := .ofContent label
    availableAtUtc := label.availableAtUtc
    intrinsicProjectPrice := label.intrinsicProjectPrice
    bubbleRatio := label.bubbleRatio
    meltedAnchorAgeSeconds := label.meltedAnchorAgeSeconds
    features := label.features
    lastIngestedAtUtc := now }

omit [DecidableEq ν] in
theorem LabelRow.corrected_labelKeySha256 {label : RelationshipLabel ν} {now : String}
    {key : LabelDigest ν} (row : LabelRow ν) (hkey : row.labelKeySha256 = key) :
    (LabelRow.corrected label now row).labelKeySha256 = key := hkey

inductive LabelOutcome where
  | inserted
  | updated
  | unchanged
  deriving DecidableEq, Repr

def labelOutcome (rows : List (LabelRow ν)) (label : RelationshipLabel ν) : LabelOutcome :=
  match getRow LabelRow.labelKeySha256 (.ofKey label.key) rows with
  | none => .inserted
  | some previous => if previous.contentSha256 = .ofContent label then .unchanged else .updated

def appendLabel (now : String) (rows : List (LabelRow ν)) (label : RelationshipLabel ν) :
    List (LabelRow ν) :=
  match labelOutcome rows label with
  | .inserted => rows ++ [LabelRow.ofLabel label now]
  | .updated =>
    setRow LabelRow.labelKeySha256 (.ofKey label.key) (LabelRow.corrected label now) rows
  | .unchanged => rows

structure LabelCounts where
  inserted : Nat := 0
  updated : Nat := 0
  unchanged : Nat := 0
  rejected : Nat := 0
  retentionDeleted : Nat := 0
  deriving DecidableEq, Repr

def LabelCounts.add (counts : LabelCounts) : LabelOutcome → LabelCounts
  | .inserted => { counts with inserted := counts.inserted + 1 }
  | .updated => { counts with updated := counts.updated + 1 }
  | .unchanged => { counts with unchanged := counts.unchanged + 1 }

/-- What a call is given: its items and the text of its instant. -/
structure LabelBatch where
  items : List (List (String × Json))
  ingestedAtUtc : String

section Calls

variable (reading : LedgerReading ν)

/-- One turn of the loop: a `ValueError` skips the item, any other error leaves the loop. -/
def appendItem (now : String) (state : List (LabelRow ν) × LabelCounts) (item : List (String × Json)) :
    Except LabelError (List (LabelRow ν) × LabelCounts) :=
  match normalizeLabel reading item with
  | .error (.value _) => .ok (state.1, { state.2 with rejected := state.2.rejected + 1 })
  | .error .uncaught => .error .uncaught
  | .ok label => .ok (appendLabel now state.1 label, state.2.add (labelOutcome state.1 label))

def microsecondsPerDay : Int := 86400000000

def compactLabels (now : Int) (retentionDays : Option Int) (state : List (LabelRow ν) × LabelCounts) :
    List (LabelRow ν) × LabelCounts :=
  match retentionDays with
  | none => state
  | some days =>
    let cutoff := reading.iso (now - days * microsecondsPerDay)
    let kept := state.1.filter fun row => ¬ row.realizedAtUtc < cutoff
    (kept, { state.2 with retentionDeleted := state.1.length - kept.length })

def appendLabels (retentionDays : Option Int) (rows : List (LabelRow ν)) (batch : LabelBatch) :
    Except LabelError (List (LabelRow ν) × LabelCounts) := do
  ledgerUnless (∀ days ∈ retentionDays, 0 < days) "relationship_ledger_retention_days_invalid"
  let now ← reading.utc batch.ingestedAtUtc
  let state ← batch.items.foldlM (appendItem reading (reading.iso now)) (rows, {})
  .ok (compactLabels reading now retentionDays state)

def iterLabels (rows : List (LabelRow ν)) : List (RelationshipLabel ν) :=
  (rows.map LabelRow.toRelationshipLabel).insertionSort fun a b => a.availableAtUtc ≤ b.availableAtUtc

def ledgerStep (rows : List (LabelRow ν)) (batch : LabelBatch) : List (LabelRow ν) :=
  match appendLabels reading none rows batch with
  | .ok result => result.1
  | .error _ => rows

abbrev ledgerAfter (batches : List LabelBatch) : List (LabelRow ν) := run (ledgerStep reading) [] batches

def acceptedItems : List (List (String × Json)) → Except LabelError (List (RelationshipLabel ν))
  | [] => .ok []
  | item :: items =>
    match normalizeLabel reading item with
    | .error (.value _) => acceptedItems items
    | .error .uncaught => .error .uncaught
    | .ok label => (label :: ·) <$> acceptedItems items

def acceptedOf (batch : LabelBatch) : List (RelationshipLabel ν) :=
  match reading.utc batch.ingestedAtUtc, acceptedItems reading batch.items with
  | .ok _, .ok labels => labels
  | _, _ => []

/-- The labels that a sequence of calls accepts, in their order. -/
def accepted (batches : List LabelBatch) : List (RelationshipLabel ν) :=
  batches.flatMap (acceptedOf reading)

end Calls

def withKey (labels : List (RelationshipLabel ν)) (key : LabelKey) : List (RelationshipLabel ν) :=
  labels.filter fun label => label.key = key

/-! ## What the table holds -/

def heldLabel (first last : RelationshipLabel ν) : RelationshipLabel ν :=
  { last with actualProjectPrice := first.actualProjectPrice }

def RowHolds (row : Option (LabelRow ν)) (labels : List (RelationshipLabel ν)) : Prop :=
  match row with
  | none => labels = []
  | some row => ∃ first last, labels.head? = some first ∧ labels.getLast? = some last ∧
      row.toRelationshipLabel = heldLabel first last ∧ row.contentSha256 = .ofContent last

structure LedgerHolds (rows : List (LabelRow ν)) (labels : List (RelationshipLabel ν)) : Prop where
  keyed : ∀ row ∈ rows, row.labelKeySha256 = .ofKey row.key
  nodup : (rows.map LabelRow.labelKeySha256).Nodup
  holds : ∀ key, RowHolds (getRow LabelRow.labelKeySha256 (.ofKey key) rows) (withKey labels key)

theorem LedgerHolds.nil : LedgerHolds ([] : List (LabelRow ν)) [] :=
  ⟨fun _ hrow => absurd hrow List.not_mem_nil, List.nodup_nil, fun _ => rfl⟩

omit [DecidableEq ν] in
theorem withKey_append_self (labels : List (RelationshipLabel ν)) (label : RelationshipLabel ν) :
    withKey (labels ++ [label]) label.key = withKey labels label.key ++ [label] := by
  simp [withKey]

omit [DecidableEq ν] in
theorem withKey_append_of_ne (labels : List (RelationshipLabel ν)) {label : RelationshipLabel ν}
    {key : LabelKey} (hne : key ≠ label.key) :
    withKey (labels ++ [label]) key = withKey labels key := by
  simp [withKey, hne.symm]

section Append

variable {rows : List (LabelRow ν)} {labels : List (RelationshipLabel ν)} {now : String}
  {label : RelationshipLabel ν}

theorem LedgerHolds.insert (h : LedgerHolds rows labels)
    (hnone : getRow LabelRow.labelKeySha256 (.ofKey label.key) rows = none) :
    LedgerHolds (rows ++ [LabelRow.ofLabel label now]) (labels ++ [label]) where
  keyed := by
    intro row hrow
    rcases List.mem_append.mp hrow with hold | hnew
    · exact h.keyed row hold
    · rw [List.mem_singleton.mp hnew]
      rfl
  nodup := nodup_map_append_singleton h.nodup (getRow_eq_none.mp hnone)
  holds := by
    intro key
    by_cases hkey : key = label.key
    · subst hkey
      have hempty : withKey labels label.key = [] := by
        have hholds := h.holds label.key
        rwa [hnone] at hholds
      rw [withKey_append_self, hempty, getRow, List.find?_append]
      rw [getRow] at hnone
      rw [hnone]
      simp only [Option.none_or, List.find?_cons, LabelRow.ofLabel, decide_true, RowHolds]
      exact ⟨label, label, rfl, rfl, rfl, rfl⟩
    · have hskip : getRow LabelRow.labelKeySha256 (.ofKey key) (rows ++ [LabelRow.ofLabel label now]) =
          getRow LabelRow.labelKeySha256 (.ofKey key) rows := by
        have hne : ¬ label.key = key := fun heq => hkey heq.symm
        simp [getRow, List.find?_append, LabelRow.ofLabel, hne]
      rw [hskip, withKey_append_of_ne labels hkey]
      exact h.holds key

theorem LedgerHolds.correct {row : LabelRow ν} (h : LedgerHolds rows labels)
    (hrow : getRow LabelRow.labelKeySha256 (.ofKey label.key) rows = some row) :
    LedgerHolds
      (setRow LabelRow.labelKeySha256 (.ofKey label.key) (LabelRow.corrected label now) rows)
      (labels ++ [label]) where
  keyed := by
    intro new hnew
    rcases mem_setRow.mp hnew with ⟨hold, -⟩ | ⟨old, hold, -, rfl⟩
    · exact h.keyed new hold
    · exact h.keyed old hold
  nodup := by
    rw [map_id_setRow LabelRow.corrected_labelKeySha256]
    exact h.nodup
  holds := by
    intro key
    by_cases hkey : key = label.key
    · subst hkey
      have hholds := h.holds label.key
      have hstored := h.keyed row (getRow_eq_some hrow).1
      rw [(getRow_eq_some hrow).2] at hstored
      have hsame : label.key = row.key := LabelDigest.ofKey.inj hstored
      rw [hrow] at hholds
      obtain ⟨first, last, hfirst, -, hlabel, -⟩ := hholds
      rw [getRow_setRow_self LabelRow.corrected_labelKeySha256 hrow, withKey_append_self]
      refine ⟨first, label, ?_, List.getLast?_concat, ?_, rfl⟩
      · rw [List.head?_append, hfirst, Option.some_or]
      · have hactual : row.actualProjectPrice = first.actualProjectPrice := by
          rw [hlabel, heldLabel]
        simp only [RelationshipLabel.key, LabelKey.mk.injEq] at hsame
        obtain ⟨hrealized, hcommodity, hsettlement, hform, hanchor⟩ := hsame
        simp only [LabelRow.corrected, heldLabel, hactual, hrealized, hcommodity, hsettlement, hform,
          hanchor]
    · have hne : LabelDigest.ofKey key ≠ (LabelDigest.ofKey label.key : LabelDigest ν) :=
        fun heq => hkey (LabelDigest.ofKey.inj heq)
      rw [getRow_setRow_of_ne LabelRow.corrected_labelKeySha256 hne, withKey_append_of_ne labels hkey]
      exact h.holds key

theorem LedgerHolds.keep {row : LabelRow ν} (h : LedgerHolds rows labels)
    (hrow : getRow LabelRow.labelKeySha256 (.ofKey label.key) rows = some row)
    (hsame : row.contentSha256 = .ofContent label) : LedgerHolds rows (labels ++ [label]) where
  keyed := h.keyed
  nodup := h.nodup
  holds := by
    intro key
    by_cases hkey : key = label.key
    · subst hkey
      have hholds := h.holds label.key
      rw [hrow] at hholds ⊢
      obtain ⟨first, last, hfirst, -, hlabel, hcontent⟩ := hholds
      have hlast : last = label := LabelDigest.ofContent.inj (hcontent.symm.trans hsame)
      subst hlast
      rw [withKey_append_self]
      refine ⟨first, last, ?_, List.getLast?_concat, hlabel, hcontent⟩
      rw [List.head?_append, hfirst, Option.some_or]
    · rw [withKey_append_of_ne labels hkey]
      exact h.holds key

theorem LedgerHolds.appendLabel (h : LedgerHolds rows labels) :
    LedgerHolds (appendLabel now rows label) (labels ++ [label]) := by
  unfold Intelligence.appendLabel labelOutcome
  cases hrow : getRow LabelRow.labelKeySha256 (.ofKey label.key) rows with
  | none => exact h.insert hrow
  | some row =>
    by_cases hsame : row.contentSha256 = .ofContent label
    · simp only [if_pos hsame]
      exact h.keep hrow hsame
    · simp only [if_neg hsame]
      exact h.correct hrow

end Append

section Runs

variable {rows : List (LabelRow ν)} {labels : List (RelationshipLabel ν)}

theorem LedgerHolds.items (reading : LedgerReading ν) (now : String)
    (items : List (List (String × Json))) :
    ∀ {rows : List (LabelRow ν)} {labels : List (RelationshipLabel ν)} (counts : LabelCounts),
      LedgerHolds rows labels →
      (∃ result new, items.foldlM (appendItem reading now) (rows, counts) = .ok result ∧
        acceptedItems reading items = .ok new ∧ LedgerHolds result.1 (labels ++ new)) ∨
      (∃ failure, items.foldlM (appendItem reading now) (rows, counts) = .error failure ∧
        acceptedItems reading items = .error failure) := by
  induction items with
  | nil =>
    intro rows labels counts h
    refine .inl ⟨(rows, counts), [], rfl, rfl, ?_⟩
    rw [List.append_nil]
    exact h
  | cons item items ih =>
    intro rows labels counts h
    rw [List.foldlM_cons, appendItem, acceptedItems]
    cases hlabel : normalizeLabel reading item with
    | error failure =>
      cases failure with
      | value code => exact ih { counts with rejected := counts.rejected + 1 } h
      | uncaught => exact .inr ⟨.uncaught, rfl, rfl⟩
    | ok label =>
      have hnext : LedgerHolds (Intelligence.appendLabel now rows label) (labels ++ [label]) :=
        h.appendLabel
      rcases ih (counts.add (labelOutcome rows label)) hnext with
        ⟨result, new, hfold, haccepted, hholds⟩ | ⟨failure, hfold, haccepted⟩
      · refine .inl ⟨result, label :: new, hfold, ?_, ?_⟩
        · rw [haccepted]
          rfl
        · rwa [List.append_assoc, List.singleton_append] at hholds
      · refine .inr ⟨failure, hfold, ?_⟩
        rw [haccepted]
        rfl

theorem LedgerHolds.step (reading : LedgerReading ν) (h : LedgerHolds rows labels) (batch : LabelBatch) :
    LedgerHolds (ledgerStep reading rows batch) (labels ++ acceptedOf reading batch) := by
  unfold ledgerStep appendLabels acceptedOf
  rw [ledgerUnless, if_pos (by simp)]
  cases hnow : reading.utc batch.ingestedAtUtc with
  | error failure =>
    rw [List.append_nil]
    exact h
  | ok now =>
    rcases LedgerHolds.items reading (reading.iso now) batch.items {} h with
      ⟨result, new, hfold, haccepted, hholds⟩ | ⟨failure, hfold, haccepted⟩
    · rw [haccepted]
      simp only [bind, Except.bind, hfold]
      exact hholds
    · rw [haccepted]
      simp only [bind, Except.bind, hfold, List.append_nil]
      exact h

theorem ledgerAfter_holds (reading : LedgerReading ν) (batches : List LabelBatch) :
    LedgerHolds (ledgerAfter reading batches) (accepted reading batches) := by
  induction batches using List.reverseRecOn with
  | nil => exact .nil
  | append_singleton before batch ih =>
    have hnext := ih.step reading batch
    rw [ledgerAfter, run_append, run_cons, run_nil, accepted, List.flatMap_append,
      List.flatMap_singleton]
    exact hnext

end Runs

/-! ## What is read back -/

section Reading

variable {rows : List (LabelRow ν)} {labels : List (RelationshipLabel ν)}

theorem LedgerHolds.iterLabels (h : LedgerHolds rows labels) (key : LabelKey) :
    withKey (iterLabels rows) key =
      ((getRow LabelRow.labelKeySha256 (.ofKey key) rows).map LabelRow.toRelationshipLabel).toList := by
  have hrows : rows.filter (fun row => row.key = key) =
      (getRow LabelRow.labelKeySha256 (.ofKey key) rows).toList := by
    rw [← filter_eq_getRow h.nodup]
    refine List.filter_congr fun row hrow => ?_
    rw [h.keyed row hrow, decide_eq_decide]
    exact ⟨congrArg _, LabelDigest.ofKey.inj⟩
  have hperm : (withKey (Intelligence.iterLabels rows) key).Perm
      (withKey (rows.map LabelRow.toRelationshipLabel) key) :=
    (List.perm_insertionSort _ _).filter _
  have hread : withKey (rows.map LabelRow.toRelationshipLabel) key =
      ((getRow LabelRow.labelKeySha256 (.ofKey key) rows).map
        LabelRow.toRelationshipLabel).toList := by
    rw [withKey, List.filter_map, Option.toList_map, ← hrows]
    rfl
  rw [hread] at hperm
  cases hrow : getRow LabelRow.labelKeySha256 (.ofKey key) rows with
  | none =>
    rw [hrow] at hperm
    exact hperm.eq_nil
  | some row =>
    rw [hrow] at hperm
    exact List.perm_singleton.mp hperm

omit [DecidableEq ν] in
theorem heldLabel_eq {first last : RelationshipLabel ν} :
    heldLabel first last = last ↔ last.actualProjectPrice = first.actualProjectPrice := by
  constructor
  · intro h
    rw [← h]
    rfl
  · intro h
    rw [heldLabel, ← h]

end Reading

/-- After any calls with the retention off, each key is read back as the last label accepted with
it, and each row is stamped with the digest of what it stores, exactly when the last label of each
key has the actual price of the first. -/
theorem ledger_current (reading : LedgerReading ν) (batches : List LabelBatch) :
    ((∀ key, withKey (iterLabels (ledgerAfter reading batches)) key =
        (withKey (accepted reading batches) key).getLast?.toList) ∧
      ∀ row ∈ ledgerAfter reading batches, row.contentSha256 = .ofContent row.toRelationshipLabel) ↔
    ∀ key, ∀ first ∈ (withKey (accepted reading batches) key).head?,
      ∀ last ∈ (withKey (accepted reading batches) key).getLast?,
        last.actualProjectPrice = first.actualProjectPrice := by
  have h := ledgerAfter_holds reading batches
  constructor
  · rintro ⟨hread, -⟩ key first hfirst last hlast
    have hlabel := hread key
    have hholds := h.holds key
    rw [h.iterLabels, hlast] at hlabel
    cases hrow : getRow LabelRow.labelKeySha256 (.ofKey key) (ledgerAfter reading batches) with
    | none =>
      rw [hrow] at hlabel
      exact absurd hlabel (by simp)
    | some row =>
      rw [hrow] at hlabel hholds
      obtain ⟨first', last', hfirst', hlast', hstored, -⟩ := hholds
      cases hfirst.symm.trans hfirst'
      cases hlast.symm.trans hlast'
      have hrowLabel : row.toRelationshipLabel = last := by simpa using hlabel
      exact heldLabel_eq.mp (hstored.symm.trans hrowLabel)
  · intro hprice
    -- each row holds the last label of its key, and is stamped with it
    have hrows : ∀ key row, getRow LabelRow.labelKeySha256 (.ofKey key)
        (ledgerAfter reading batches) = some row →
        (withKey (accepted reading batches) key).getLast? = some row.toRelationshipLabel ∧
          row.contentSha256 = .ofContent row.toRelationshipLabel := by
      intro key row hrow
      have hholds := h.holds key
      rw [hrow] at hholds
      obtain ⟨first, last, hfirst, hlast, hstored, hcontent⟩ := hholds
      rw [heldLabel_eq.mpr (hprice key first hfirst last hlast)] at hstored
      rw [hstored]
      exact ⟨hlast, hcontent⟩
    refine ⟨fun key => ?_, fun row hrow => ?_⟩
    · rw [h.iterLabels]
      cases hrow : getRow LabelRow.labelKeySha256 (.ofKey key) (ledgerAfter reading batches) with
      | none =>
        have hholds := h.holds key
        rw [hrow] at hholds
        rw [hholds]
        rfl
      | some row =>
        rw [(hrows key row hrow).1]
        rfl
    · have hfound := getRow_of_mem h.nodup hrow
      rw [h.keyed row hrow] at hfound
      exact (hrows row.key row hfound).2

/-- The readings of the instants and of the whole numbers that are used below. -/
def wholeReading : LedgerReading Int where
  format := ⟨fun text => text, fun _ => none, fun _ => false, fun _ => ""⟩
  utc text :=
    if text = "2026-08-03T07:59:59+00:00" then .ok 1785743999000000
    else if text = "2026-08-03T08:00:00+00:00" then .ok 1785744000000000
    else .error (.value "Invalid isoformat string")
  iso at_ := if at_ = 1785743999000000 then "2026-08-03T07:59:59Z" else "2026-08-03T08:00:00Z"
  float
    | .int value => .ok value
    | _ => .error (.value "could not convert string to float")
  isFinite _ := true
  isPositive value := 0 < value

def priceBatch (actual : Int) : LabelBatch where
  items := [[("schema_version", .str labelSchema),
    ("available_at_utc", .str "2026-08-03T07:59:59+00:00"),
    ("realized_at_utc", .str "2026-08-03T08:00:00+00:00"), ("commodity", .str "COIN"),
    ("settlement", .str "TOMORROW"), ("trade_form", .str "PHYSICAL"),
    ("melted_anchor_market", .str "PAPER:TOMORROW:NORMAL"), ("melted_anchor_age_seconds", .int 5),
    ("intrinsic_project_price", .int 180000), ("actual_project_price", .int actual),
    ("bubble_ratio", .int 0), ("features", .obj [("PAPER|1m", .int 1)])]]
  ingestedAtUtc := "2026-08-03T08:00:00+00:00"

/-- A corrected actual price is accepted and not read back; the row is stamped with what it does not
store. -/
theorem corrected_price_lost :
    ¬ ((∀ key, withKey (iterLabels (ledgerAfter wholeReading [priceBatch 183600, priceBatch 184000])) key =
        (withKey (accepted wholeReading [priceBatch 183600, priceBatch 184000]) key).getLast?.toList) ∧
      ∀ row ∈ ledgerAfter wholeReading [priceBatch 183600, priceBatch 184000],
        row.contentSha256 = .ofContent row.toRelationshipLabel) := by
  rintro ⟨hread, -⟩
  have hlost := hread
    ⟨"2026-08-03T08:00:00Z", "COIN", "TOMORROW", "PHYSICAL", "PAPER:TOMORROW:NORMAL"⟩
  revert hlost
  decide

end TradingBot.Intelligence
