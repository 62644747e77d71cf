import TradingBot.Misc.Run
import TradingBot.Sync.Item

/-!
# Offers on the mirror server

The other server holds a copy of an offer that follows the payloads of its home
(`build_offer_sync_payload`, src/core/offer_sync_payload.py), which arrive in any order and more
than once. The receiver orders them twice: `_stale_offer_sync_reason` looks at the row first, and
`_offer_upsert_where_clause` guards the statement (src/api/routers/sync.py).
-/

namespace TradingBot.Sync

open Misc

/-- `TERMINAL_OFFER_STATUSES` (sync.py:225). -/
def terminalOfferStatuses : List OfferStatus := [.completed, .expired, .cancelled]

/-- A full payload: versions start at 1, and no guard reads the columns `details`. -/
structure OfferPayload where
  offerPublicId : String
  versionId : Int
  versionId_pos : 0 < versionId
  status : OfferStatus
  quantity : Int
  remainingQuantity : Option Int
  lotSizes : Option (List Int)
  originalLotSizes : Option (List Int)
  details : Payload
  deriving DecidableEq

/-- A row of the mirror's `offers` table. `channelMessageId` is set by the mirror itself. -/
structure MirrorOffer where
  versionId : Int
  status : OfferStatus
  quantity : Int
  remainingQuantity : Option Int
  lotSizes : Option (List Int)
  originalLotSizes : Option (List Int)
  details : Payload
  channelMessageId : Option Int
  deriving DecidableEq

/-- The mirror's `offers` table; `offer_public_id` is unique. -/
abbrev Mirror := String → Option MirrorOffer

/-- The reasons of `_stale_offer_sync_reason`. -/
inductive StaleReason where
  | olderAuthoritativeVersion
  | terminalStateProtected
  | sameVersionTerminalConflict
  deriving DecidableEq, Repr

/-- `coerce_positive_int` of a stored version. -/
def positiveVersion (version : Int) : Option Int := (Value.int version).coercePositiveInt

/-- `_offer_payload_needs_ordering_check` (sync.py:2169): every status is a nonempty text. -/
def offerPayloadNeedsOrderingCheck (payload : OfferPayload) : Bool :=
  (positiveVersion payload.versionId).isSome

/-- `_stale_offer_sync_reason` (sync.py:2495). -/
def staleOfferSyncReason (existing : Option MirrorOffer) (payload : OfferPayload) :
    Option StaleReason :=
  if !offerPayloadNeedsOrderingCheck payload then none
  else
    match existing with
    | none => none
    | some row =>
      let incomingVersion := positiveVersion payload.versionId
      let currentVersion := positiveVersion row.versionId
      let older := match currentVersion, incomingVersion with
        | some current, some incoming => decide (incoming < current)
        | _, _ => false
      if older then some .olderAuthoritativeVersion
      else if row.status ∈ terminalOfferStatuses ∧ payload.status ∉ terminalOfferStatuses then
        some .terminalStateProtected
      else if row.status ∈ terminalOfferStatuses ∧ payload.status ∈ terminalOfferStatuses ∧
          currentVersion.isSome ∧ incomingVersion = currentVersion ∧
          payload.status ≠ row.status then
        some .sameVersionTerminalConflict
      else none

/-- `_offer_upsert_where_clause` (sync.py:2179), the condition of the update in the statement. -/
def offerUpsertWhereClause (row : MirrorOffer) (payload : OfferPayload) : Bool :=
  !offerPayloadNeedsOrderingCheck payload ||
    (row.versionId ≤ payload.versionId &&
      !(row.status ∈ terminalOfferStatuses && payload.status ∉ terminalOfferStatuses) &&
      !(row.status ∈ terminalOfferStatuses && payload.status ∈ terminalOfferStatuses &&
        row.versionId = payload.versionId && row.status ≠ payload.status))

/-- The row a payload describes; the payload's own `channel_message_id` is dropped. -/
def OfferPayload.toRow (payload : OfferPayload) (channelMessageId : Option Int) : MirrorOffer :=
  { versionId := payload.versionId, status := payload.status, quantity := payload.quantity,
    remainingQuantity := payload.remainingQuantity, lotSizes := payload.lotSizes,
    originalLotSizes := payload.originalLotSizes, details := payload.details,
    channelMessageId := channelMessageId }

/-- `_build_upsert_stmt` for an offer (sync.py:1354):
`ON CONFLICT (offer_public_id) DO UPDATE ... WHERE`. -/
def upsertOffer (mirror : Mirror) (payload : OfferPayload) : Mirror := fun publicId =>
  if publicId = payload.offerPublicId then
    match mirror publicId with
    | none => some (payload.toRow none)
    | some row =>
      if offerUpsertWhereClause row payload then some (payload.toRow row.channelMessageId)
      else some row
  else mirror publicId

/-- `_apply_item` on a full offer payload whose references are all there (sync.py:3230). -/
def applyOfferPayload (mirror : Mirror) (payload : OfferPayload) : Mirror :=
  if (staleOfferSyncReason (mirror payload.offerPublicId) payload).isSome then mirror
  else upsertOffer mirror payload

theorem positiveVersion_eq_some {version : Int} (h : 0 < version) :
    positiveVersion version = some version := by
  simp only [positiveVersion, Value.coercePositiveInt, Value.toInt, if_pos h]

@[simp] theorem offerPayloadNeedsOrderingCheck_eq_true (payload : OfferPayload) :
    offerPayloadNeedsOrderingCheck payload = true := by
  rw [offerPayloadNeedsOrderingCheck, positiveVersion_eq_some payload.versionId_pos]
  rfl

/-- A payload moves a row: it is not older, does not reactivate a terminal row, and does not replace
a terminal status by another of the same version. -/
def Supersedes (payload : OfferPayload) (row : MirrorOffer) : Prop :=
  row.versionId ≤ payload.versionId ∧
    ¬(row.status ∈ terminalOfferStatuses ∧ payload.status ∉ terminalOfferStatuses) ∧
    ¬(row.status ∈ terminalOfferStatuses ∧ payload.status ∈ terminalOfferStatuses ∧
      row.versionId = payload.versionId ∧ row.status ≠ payload.status)

theorem offerUpsertWhereClause_iff (row : MirrorOffer) (payload : OfferPayload) :
    offerUpsertWhereClause row payload = true ↔ Supersedes payload row := by
  simp only [offerUpsertWhereClause, offerPayloadNeedsOrderingCheck_eq_true, Supersedes,
    Bool.not_true, Bool.false_or, Bool.and_eq_true, Bool.not_eq_true', decide_eq_true_eq,
    Bool.and_eq_false_iff, decide_eq_false_iff_not]
  tauto

variable {payload : OfferPayload} {mirror : Mirror} {publicId : String}

theorem staleOfferSyncReason_eq_none {row : MirrorOffer}
    (h : Supersedes payload row) : staleOfferSyncReason (some row) payload = none := by
  obtain ⟨hversion, hreactivation, hconflict⟩ := h
  have hincoming := positiveVersion_eq_some payload.versionId_pos
  simp only [staleOfferSyncReason, offerPayloadNeedsOrderingCheck_eq_true, hincoming]
  have hsame : ∀ current, positiveVersion row.versionId = some current →
      current = row.versionId := by
    intro current hcurrent
    by_cases hpos : 0 < row.versionId
    · rw [positiveVersion_eq_some hpos] at hcurrent
      exact (Option.some.inj hcurrent).symm
    · simp only [positiveVersion, Value.coercePositiveInt, Value.toInt, if_neg hpos] at hcurrent
      cases hcurrent
  cases hcurrent : positiveVersion row.versionId with
  | none => simp [hreactivation]
  | some current =>
    have hrow := hsame current hcurrent
    subst hrow
    have hnew : ¬payload.versionId < row.versionId := by omega
    have hdistinct : ¬(row.status ∈ terminalOfferStatuses ∧
        payload.status ∈ terminalOfferStatuses ∧ payload.versionId = row.versionId ∧
        payload.status ≠ row.status) :=
      fun ⟨hrowEnd, hend, hequal, hother⟩ => hconflict ⟨hrowEnd, hend, hequal.symm, hother.symm⟩
    simp [hreactivation, hnew, hdistinct]

theorem applyOfferPayload_self (mirror : Mirror) (payload : OfferPayload) :
    (mirror payload.offerPublicId = none ∧
      applyOfferPayload mirror payload payload.offerPublicId = some (payload.toRow none)) ∨
    ∃ row, mirror payload.offerPublicId = some row ∧
      (Supersedes payload row ∧ applyOfferPayload mirror payload payload.offerPublicId =
          some (payload.toRow row.channelMessageId) ∨
        ¬Supersedes payload row ∧
          applyOfferPayload mirror payload payload.offerPublicId = some row) := by
  cases hrow : mirror payload.offerPublicId with
  | none =>
    refine Or.inl ⟨rfl, ?_⟩
    have hstale : staleOfferSyncReason none payload = none := by
      simp [staleOfferSyncReason]
    simp [applyOfferPayload, hrow, hstale, upsertOffer]
  | some row =>
    refine Or.inr ⟨row, rfl, ?_⟩
    by_cases hsupersedes : Supersedes payload row
    · refine Or.inl ⟨hsupersedes, ?_⟩
      have hclause := (offerUpsertWhereClause_iff row payload).mpr hsupersedes
      simp [applyOfferPayload, hrow, staleOfferSyncReason_eq_none hsupersedes, upsertOffer, hclause]
    · refine Or.inr ⟨hsupersedes, ?_⟩
      have hclause : offerUpsertWhereClause row payload ≠ true :=
        fun h => hsupersedes ((offerUpsertWhereClause_iff row payload).mp h)
      unfold applyOfferPayload
      split
      · exact hrow
      · simp [upsertOffer, hrow, hclause]

theorem applyOfferPayload_other (h : publicId ≠ payload.offerPublicId) :
    applyOfferPayload mirror payload publicId = mirror publicId := by
  unfold applyOfferPayload
  split
  · rfl
  · simp [upsertOffer, h]

/-! ## Convergence -/

/-- A home emits one payload for each version of an offer, and no active one above a terminal one. -/
structure Emitted (payloads : List OfferPayload) : Prop where
  distinct : ∀ first ∈ payloads, ∀ second ∈ payloads,
    first.offerPublicId = second.offerPublicId → first.versionId = second.versionId →
      first = second
  final : ∀ first ∈ payloads, ∀ second ∈ payloads,
    first.offerPublicId = second.offerPublicId → first.status ∈ terminalOfferStatuses →
      first.versionId < second.versionId → second.status ∈ terminalOfferStatuses

def FollowsNewest (delivered : List OfferPayload) (publicId : String) (mirror : Mirror) : Prop :=
  (mirror publicId = none ∧ ∀ payload ∈ delivered, payload.offerPublicId ≠ publicId) ∨
  ∃ newest ∈ delivered, newest.offerPublicId = publicId ∧
    (∃ channelMessageId, mirror publicId = some (newest.toRow channelMessageId)) ∧
    ∀ payload ∈ delivered, payload.offerPublicId = publicId →
      payload.versionId ≤ newest.versionId

theorem FollowsNewest.step {delivered : List OfferPayload}
      (hemitted : Emitted (delivered ++ [payload])) (h : FollowsNewest delivered publicId mirror) :
    FollowsNewest (delivered ++ [payload]) publicId (applyOfferPayload mirror payload) := by
  have hlast : payload ∈ delivered ++ [payload] := by simp
  by_cases hother : publicId = payload.offerPublicId
  · subst hother
    rcases h with ⟨habsent, hnone⟩ | ⟨newest, hmem, hid, ⟨channel, hrow⟩, hmax⟩
    · -- the first payload of the offer is inserted
      rcases applyOfferPayload_self mirror payload with ⟨-, hafter⟩ | ⟨row, hrow, -⟩
      · refine Or.inr ⟨payload, hlast, rfl, ⟨none, hafter⟩, ?_⟩
        rw [List.forall_mem_append]
        refine ⟨?_, List.forall_mem_singleton.mpr fun _ => Int.le_refl _⟩
        exact fun other hold hsame => absurd hsame (hnone other hold)
      · rw [habsent] at hrow
        cases hrow
    · have hold : newest ∈ delivered ++ [payload] := List.mem_append_left _ hmem
      rcases applyOfferPayload_self mirror payload with
        ⟨habsent, -⟩ | ⟨row, hrow', ⟨hsupersedes, hafter⟩ | ⟨hsupersedes, hafter⟩⟩
      · rw [hrow] at habsent
        cases habsent
      · refine Or.inr ⟨payload, hlast, rfl, ⟨_, hafter⟩, ?_⟩
        rw [hrow] at hrow'
        cases hrow'
        rw [List.forall_mem_append]
        refine ⟨?_, List.forall_mem_singleton.mpr fun _ => Int.le_refl _⟩
        exact fun other hold hsame => Int.le_trans (hmax other hold hsame) hsupersedes.1
      · -- a payload that is not applied is an older version of the row's own payload
        rw [hrow] at hrow'
        cases hrow'
        refine Or.inr ⟨newest, hold, hid, ⟨channel, hafter⟩, ?_⟩
        have hle : payload.versionId ≤ newest.versionId := by
          by_contra hlt
          have hnewer : newest.versionId < payload.versionId := by omega
          apply hsupersedes
          refine ⟨Int.le_of_lt hnewer, ?_, ?_⟩
          · rintro ⟨hend, hactive⟩
            exact hactive (hemitted.final newest hold payload hlast hid hend hnewer)
          · rintro ⟨-, -, hequal, -⟩
            exact absurd hequal (Int.ne_of_lt hnewer)
        exact List.forall_mem_append.mpr ⟨hmax, List.forall_mem_singleton.mpr fun _ => hle⟩
  · -- a payload of another offer
    have hafter : applyOfferPayload mirror payload publicId = mirror publicId :=
      applyOfferPayload_other hother
    rcases h with ⟨habsent, hnone⟩ | ⟨newest, hmem, hid, ⟨channel, hrow⟩, hmax⟩
    · refine Or.inl ⟨hafter.trans habsent, ?_⟩
      exact List.forall_mem_append.mpr ⟨hnone, List.forall_mem_singleton.mpr (Ne.symm hother)⟩
    · refine Or.inr ⟨newest, List.mem_append_left _ hmem, hid, ⟨channel, hafter.trans hrow⟩, ?_⟩
      rw [List.forall_mem_append]
      exact ⟨hmax, List.forall_mem_singleton.mpr fun hsame => absurd hsame.symm hother⟩

theorem Emitted.of_append {delivered rest : List OfferPayload}
    (h : Emitted (delivered ++ rest)) : Emitted delivered where
  distinct := fun first hfirst second hsecond =>
    h.distinct first (List.mem_append_left _ hfirst) second (List.mem_append_left _ hsecond)
  final := fun first hfirst second hsecond =>
    h.final first (List.mem_append_left _ hfirst) second (List.mem_append_left _ hsecond)

theorem followsNewest_run (habsent : mirror publicId = none) {deliveries : List OfferPayload}
    (hemitted : Emitted deliveries) :
    FollowsNewest deliveries publicId (run applyOfferPayload mirror deliveries) := by
  induction deliveries using List.reverseRecOn with
  | nil => exact Or.inl ⟨habsent, fun _ h => by cases h⟩
  | append_singleton delivered payload ih =>
    have hstep := (ih hemitted.of_append).step hemitted
    rw [run, List.foldl_append]
    exact hstep

theorem applyOfferPayload_terminal (payload : OfferPayload)
    {row : MirrorOffer} (hrow : mirror publicId = some row)
    (hend : row.status ∈ terminalOfferStatuses) :
    ∃ row', applyOfferPayload mirror payload publicId = some row' ∧
      row'.status ∈ terminalOfferStatuses := by
  by_cases hother : publicId = payload.offerPublicId
  · subst hother
    rcases applyOfferPayload_self mirror payload with
      ⟨habsent, -⟩ | ⟨row', hrow', ⟨hsupersedes, hafter⟩ | ⟨-, hafter⟩⟩
    · rw [hrow] at habsent
      cases habsent
    · rw [hrow] at hrow'
      cases hrow'
      refine ⟨_, hafter, ?_⟩
      by_contra hactive
      exact hsupersedes.2.1 ⟨hend, hactive⟩
    · rw [hrow] at hrow'
      cases hrow'
      exact ⟨row, hafter, hend⟩
  · exact ⟨row, (applyOfferPayload_other hother).trans hrow, hend⟩

/-- Whatever the order and the repetitions in which the payloads of a home server arrive, the mirror
ends with the newest version, and no row that was terminal is active later. -/
theorem mirror_converges (mirror : Mirror) (deliveries : List OfferPayload) (latest : OfferPayload)
    (hemitted : Emitted deliveries) (habsent : mirror latest.offerPublicId = none)
    (hlatest : latest ∈ deliveries)
    (hmax : ∀ payload ∈ deliveries, payload.offerPublicId = latest.offerPublicId →
      payload.versionId ≤ latest.versionId) :
    (∃ row, run applyOfferPayload mirror deliveries latest.offerPublicId = some row ∧
      row.status = latest.status ∧ row.quantity = latest.quantity ∧
      row.remainingQuantity = latest.remainingQuantity ∧ row.lotSizes = latest.lotSizes ∧
      row.originalLotSizes = latest.originalLotSizes ∧ row.versionId = latest.versionId) ∧
    EachStep applyOfferPayload (fun before _ after => ∀ publicId row,
      before publicId = some row → row.status ∈ terminalOfferStatuses →
        ∃ row', after publicId = some row' ∧ row'.status ∈ terminalOfferStatuses)
      mirror deliveries := by
  constructor
  · rcases followsNewest_run habsent hemitted with
      ⟨-, hnone⟩ | ⟨newest, hmem, hid, ⟨channel, hrow⟩, hnewest⟩
    · exact absurd rfl (hnone latest hlatest)
    · have hversion : newest.versionId = latest.versionId :=
        Int.le_antisymm (hmax newest hmem hid) (hnewest latest hlatest rfl)
      have hequal : newest = latest := hemitted.distinct newest hmem latest hlatest hid hversion
      subst hequal
      exact ⟨_, hrow, rfl, rfl, rfl, rfl, rfl, rfl⟩
  · apply eachStep_of_invariant (I := fun _ => True) (C := fun _ _ _ => True)
      (fun _ _ _ _ => trivial) _ deliveries mirror trivial (eachStep_true _ _ _)
    intro before payload _ _ publicId row hrow hend
    exact applyOfferPayload_terminal payload hrow hend

def reorderedVersions : List OfferPayload :=
  let first : OfferPayload :=
    { offerPublicId := "ofr_1", versionId := 1, versionId_pos := by decide, status := .active,
      quantity := 10, remainingQuantity := some 10, lotSizes := none, originalLotSizes := none,
      details := [] }
  let second : OfferPayload :=
    { offerPublicId := "ofr_1", versionId := 2, versionId_pos := by decide, status := .completed,
      quantity := 10, remainingQuantity := some 0, lotSizes := none, originalLotSizes := none,
      details := [] }
  [second, first, second, first]

theorem reorderedVersions_converge :
    ∃ row, run applyOfferPayload (fun _ => none) reorderedVersions "ofr_1" = some row ∧
      row.status = .completed := by
  have hemitted : Emitted reorderedVersions := ⟨by decide, by decide⟩
  obtain ⟨⟨row, hrow, hstatus, -⟩, -⟩ := mirror_converges (fun _ => none) reorderedVersions
    (reorderedVersions.get ⟨0, by decide⟩) hemitted rfl (by decide) (by decide)
  exact ⟨row, hrow, hstatus⟩

end TradingBot.Sync
