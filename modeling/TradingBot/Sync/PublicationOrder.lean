import TradingBot.Sync.PublicationRows

/-!
# Publication states never go back

The conflict clause takes a newer offer version, or the same one under a status of no lower rank,
and the trigger keeps the publisher but for the promotion of a placeholder. An item with a null
version passes the clause and erases the stored one, and an item without a dedupe key passes no
clause.
-/

namespace TradingBot.Sync

open Misc

def Row.offerVersion (row : Row) : Option Int :=
  match row.columns.get "offer_version_id" with
  | .int version => some version
  | _ => none

def Row.statusRank (row : Row) : Nat := offerPublicationStatusRank (row.columns.get "status")

/-- The pair of offer version and rank has not become smaller, a null version being the smallest. -/
def Row.NotAheadOf (row row' : Row) : Prop :=
  match row.offerVersion, row'.offerVersion with
  | none, none => row.statusRank ≤ row'.statusRank
  | none, some _ => True
  | some _, none => False
  | some version, some version' =>
    version < version' ∨ version = version' ∧ row.statusRank ≤ row'.statusRank

theorem Row.NotAheadOf.refl (row : Row) : row.NotAheadOf row := by
  unfold Row.NotAheadOf
  cases row.offerVersion with
  | none => exact Nat.le_refl _
  | some version => exact Or.inr ⟨rfl, Nat.le_refl _⟩

variable {row row' : Row} {version : Int}

theorem Row.NotAheadOf.trans {row'' : Row} (h : row.NotAheadOf row')
    (h' : row'.NotAheadOf row'') : row.NotAheadOf row'' := by
  unfold Row.NotAheadOf at *
  cases hfirst : row.offerVersion with
  | none =>
    cases hlast : row''.offerVersion with
    | some _ => trivial
    | none =>
      cases hmiddle : row'.offerVersion with
      | none =>
        rw [hfirst, hmiddle] at h
        rw [hmiddle, hlast] at h'
        exact Nat.le_trans h h'
      | some _ =>
        rw [hmiddle, hlast] at h'
        exact absurd h' not_false
  | some version =>
    cases hmiddle : row'.offerVersion with
    | none =>
      rw [hfirst, hmiddle] at h
      exact absurd h not_false
    | some version' =>
      rw [hfirst, hmiddle] at h
      cases hlast : row''.offerVersion with
      | none =>
        rw [hmiddle, hlast] at h'
        exact absurd h' not_false
      | some version'' =>
        rw [hmiddle, hlast] at h'
        dsimp only at h h' ⊢
        omega

theorem Row.NotAheadOf.of_version_eq (hversion : row'.offerVersion =
    row.offerVersion) (hrank : row.statusRank ≤ row'.statusRank) : row.NotAheadOf row' := by
  unfold Row.NotAheadOf
  rw [hversion]
  cases row.offerVersion with
  | none => exact hrank
  | some version => exact Or.inr ⟨rfl, hrank⟩

theorem offerVersion_of_column
    (h : row.columns.get "offer_version_id" = .int version) : row.offerVersion = some version := by
  unfold Row.offerVersion
  rw [h]

theorem column_of_offerVersion (h : row.offerVersion = some version) :
    row.columns.get "offer_version_id" = .int version := by
  unfold Row.offerVersion at h
  split at h
  · rename_i found hfound
    cases h
    exact hfound
  · cases h

theorem Row.NotAheadOf.of_version
    (hafter : row'.offerVersion = some version) (h : ∀ old, row.offerVersion = some old →
      old < version ∨ old = version ∧ row.statusRank ≤ row'.statusRank) : row.NotAheadOf row' := by
  unfold Row.NotAheadOf
  rw [hafter]
  cases hbefore : row.offerVersion with
  | none => trivial
  | some old => exact h old hbefore

/-- The publisher is the same, was not set, or the primary bot was replaced by a publisher bot. -/
def Row.PublisherKept (row row' : Row) : Prop :=
  row.columns.get "publisher_bot_identity" = .null ∨
    row'.columns.get "publisher_bot_identity" = row.columns.get "publisher_bot_identity" ∨
    (row.columns.get "publisher_bot_identity" = .text "primary" ∧
      ∃ identity ∈ telegramPublisherIdentities,
        row'.columns.get "publisher_bot_identity" = .text identity)

theorem Row.PublisherKept.refl (row : Row) : row.PublisherKept row := Or.inr (Or.inl rfl)

theorem Row.PublisherKept.trans {row'' : Row} (h : row.PublisherKept row')
    (h' : row'.PublisherKept row'') : row.PublisherKept row'' := by
  rcases h with hnull | hsame | ⟨hprimary, identity, hidentity, hpublisher⟩
  · exact Or.inl hnull
  · unfold Row.PublisherKept at h' ⊢
    rw [hsame] at h'
    exact h'
  · refine Or.inr (Or.inr ⟨hprimary, identity, hidentity, ?_⟩)
    rcases h' with hnull | hsame | ⟨hagain, -⟩
    · rw [hpublisher] at hnull
      cases hnull
    · exact hsame.trans hpublisher
    · rw [hpublisher] at hagain
      cases hagain
      exact absurd hidentity (by decide)

section Settable

variable {bound : Payload} {key : String}

theorem mem_settablePublication (hkey : key ≠ "dedupe_key") (value : Value) :
    (key, value) ∈ settablePublication bound ↔ (key, value) ∈ bound := by
  simp [settablePublication, hkey]

end Settable

/-! ## What a statement does -/

structure Stored (states : List Row) : Prop where
  distinct : PublicationsDistinct states
  checked : ∀ row ∈ states, row.publicationChecked = true

section Statements

variable {db : PublicationDb} {rows : Rows} {setting : String} {bound : Payload}
  {admits : Row → Bool} {change : Row → Row} {states : List Row} {promotion : Option String}
  {fields : Fields} {id : Int} {excluded : Row}

theorem updateStates_rows (h : db.updateStates rows setting bound admits change = .rows states) :
    states = updateWhere admits change (rows .offerPublicationStates) ∧
    PublicationsDistinct states ∧
    ∀ row ∈ rows .offerPublicationStates, admits row = true →
      publicationTriggerRaises setting (some row) (change row) = false ∧
      (change row).publicationChecked = true := by
  unfold PublicationDb.updateStates at h
  dsimp only at h
  split_ifs at h with hnone htrigger hchecked hdistinct hdangling
  cases h
  refine ⟨rfl, hdistinct, fun row hrow hadmits => ?_⟩
  have htouched := List.mem_filter.mpr ⟨hrow, hadmits⟩
  simp only [List.any_eq_true, not_exists, not_and, Bool.not_eq_true] at htrigger hchecked
  have hpassed := hchecked row htouched
  rw [Bool.not_eq_false'] at hpassed
  exact ⟨htrigger row htouched, hpassed⟩

theorem updateStates_refused_unique
    (h : db.updateStates rows setting bound admits change = .refused .unique) :
    (∃ row ∈ rows .offerPublicationStates, admits row = true) ∧
      ¬ PublicationsDistinct (updateWhere admits change (rows .offerPublicationStates)) := by
  unfold PublicationDb.updateStates at h
  dsimp only at h
  by_cases hempty : (rows .offerPublicationStates).filter admits = []
  · rw [if_pos hempty] at h
    cases h
  · obtain ⟨row, hrow⟩ := List.exists_mem_of_ne_nil _ hempty
    refine ⟨⟨row, List.mem_filter.mp hrow⟩, fun hdistinct => ?_⟩
    rw [if_neg hempty, if_neg (not_not.mpr hdistinct)] at h
    split_ifs at h <;> cases h

/-- A new row, the row of the key under the clause, or without a key the row of the id. -/
theorem upsert_rows (h : db.upsert rows promotion fields id bound = .rows states) :
    (states = rows .offerPublicationStates ++ [db.proposed id bound] ∧
      PublicationsDistinct states ∧ (db.proposed id bound).publicationChecked = true) ∨
    ((Fields.get fields "dedupe_key").truthy = true ∧
      db.updateStates rows (promotion.getD "") bound
        (fun row => decide (row.columns.get "dedupe_key" =
            (db.proposed id bound).columns.get "dedupe_key") &&
          (publicationWhere promotion fields (db.proposed id bound) row).holds)
        (setPublication promotion (db.proposed id bound) bound) = .rows states) ∨
    ((Fields.get fields "dedupe_key").truthy = false ∧
      (∃ row ∈ rows .offerPublicationStates, row.id = id) ∧
      (db.proposed id bound).publicationChecked = true ∧
      db.updateStates rows (promotion.getD "") bound (fun row => row.id = id)
        (fun row => row.update bound) = .rows states) := by
  unfold PublicationDb.upsert at h
  dsimp only at h
  cases hkey : (Fields.get fields "dedupe_key").truthy with
  | true =>
    simp only [hkey, if_true] at h
    split_ifs at h with htrigger hchecked hconflict hdistinct hdangling
    · exact Or.inr (Or.inl ⟨rfl, h⟩)
    · cases h
      rw [Bool.not_eq_true, Bool.not_eq_false'] at hchecked
      exact Or.inl ⟨rfl, hdistinct, hchecked⟩
  | false =>
    simp only [hkey, Bool.false_eq_true, if_false] at h
    split_ifs at h with htrigger hchecked hconflict hdistinct hdangling
    · rw [Bool.not_eq_true, Bool.not_eq_false'] at hchecked
      refine Or.inr (Or.inr ⟨rfl, ?_, hchecked, h⟩)
      obtain ⟨row, hrow, hid⟩ := List.any_eq_true.mp hconflict
      exact ⟨row, hrow, of_decide_eq_true hid⟩
    · cases h
      rw [Bool.not_eq_true, Bool.not_eq_false'] at hchecked
      exact Or.inl ⟨rfl, hdistinct, hchecked⟩

theorem publisherKept_of_trigger {old new : Row} (hchecked : old.publicationChecked = true)
    (htrigger : publicationTriggerRaises setting (some old) new = false) :
    old.PublisherKept new := by
  by_cases hnull : old.columns.get "publisher_bot_identity" = .null
  · exact Or.inl hnull
  by_cases hsame : new.columns.get "publisher_bot_identity" =
      old.columns.get "publisher_bot_identity"
  · exact Or.inr (Or.inl hsame)
  have hsurface : ((old.columns.get "surface").sqlEq (.text "telegram_channel")).holds = true := by
    unfold Row.publicationChecked at hchecked
    simp only [Bool.and_eq_true, List.all_eq_true, decide_eq_true_eq] at hchecked
    have hrequired := hchecked.1 "surface" (by decide)
    have hcheck := hchecked.2
    unfold Value.isNull Value.sqlEq Value.sqlIn at hcheck
    unfold Value.sqlEq
    rw [if_neg (by simp [hrequired])] at hcheck ⊢
    by_contra hother
    rw [Truth.holds_known, decide_eq_true_eq] at hother
    simp [Truth.known, Truth.either, Truth.both, Truth.refuted, hnull, hother] at hcheck
  have hmay : (publisherMayChange setting old new).holds = true := by
    unfold publicationTriggerRaises at htrigger
    by_contra hnot
    rw [Bool.not_eq_true] at hnot
    simp [hsurface, hnull, hsame, hnot] at htrigger
  unfold publisherMayChange at hmay
  simp only [Truth.holds_both, Bool.and_eq_true] at hmay
  obtain ⟨hprimary, -, -, -, -, -, -, hnamed, -⟩ := hmay
  refine Or.inr (Or.inr ⟨?_, ?_⟩)
  · unfold Value.sqlEq at hprimary
    rw [if_neg (by simp [hnull]), Truth.holds_known, decide_eq_true_eq] at hprimary
    exact hprimary
  · unfold Value.sqlIn at hnamed
    split at hnamed
    · cases hnamed
    · rw [Truth.holds_known, decide_eq_true_eq] at hnamed
      exact hnamed

theorem eq_of_id (hdistinct : PublicationsDistinct states) (hrow : row ∈ states)
    (hrow' : row' ∈ states) (hid : row'.id = row.id) : row' = row :=
  List.inj_on_of_nodup_map hdistinct.1 hrow' hrow hid

theorem eq_of_dedupeKey (hdistinct : PublicationsDistinct states)
    (hrow : row ∈ states) (hrow' : row' ∈ states)
    (hkey : row'.columns.get "dedupe_key" = row.columns.get "dedupe_key") : row' = row :=
  List.inj_on_of_nodup_map hdistinct.2.1 hrow' hrow hkey

theorem get_setPublication {bind : String → Value → Option Value} {columns : List String}
    {key : String} (hbound : bindColumns bind fields columns = some bound) (hkey : key ∈ columns)
    (hother : key ∉ ["dedupe_key", "publisher_bot_identity"]) :
    (setPublication promotion excluded bound row).columns.get key =
      if (fields key).isSome then bound.get key else row.columns.get key := by
  simp only [List.mem_cons, List.not_mem_nil, or_false, not_or] at hother
  apply get_update_bound hbound hkey
  intro value
  refine Iff.trans ?_ (mem_settablePublication hother.1 value)
  rw [List.mem_map]
  constructor
  · rintro ⟨entry, hentry, heq⟩
    split_ifs at heq with hpublisher
    · exact absurd ((congrArg Prod.fst heq).symm.trans hpublisher) hother.2
    · rw [← heq]
      exact hentry
  · intro hmem
    exact ⟨(key, value), hmem, if_neg hother.2⟩

theorem get_dedupeKey_setPublication :
    (setPublication promotion excluded bound row).columns.get "dedupe_key" =
      row.columns.get "dedupe_key" := by
  apply get_update_of_not_mem
  intro value hvalue
  obtain ⟨entry, hentry, heq⟩ := List.mem_map.mp hvalue
  obtain ⟨-, hother⟩ := List.mem_filter.mp hentry
  have hkey : entry.1 = "dedupe_key" := by
    split_ifs at heq with hpublisher
    · exact congrArg Prod.fst heq
    · exact congrArg Prod.fst heq
  rw [hkey] at hother
  cases hother

/-- A row that is given a version by the conflict clause does not fall behind. -/
theorem notAheadOf_given {set : Row} {status : Value} {given : Bool}
    (hversion : set.columns.get "offer_version_id" = .int version)
    (hstatus : set.columns.get "status" = if given then status else row.columns.get "status")
    (hnewer : ((row.columns.get "offer_version_id").isNull.either ((Value.int version).isNull.either
      ((row.columns.get "offer_version_id").sqlLe (.int version)))).holds = true)
    (hranked : given = true → ((row.columns.get "offer_version_id").isNull.either
      (((row.columns.get "offer_version_id").sqlLt (.int version)).either
        (((Value.int version).isNull.either ((row.columns.get "offer_version_id").sqlEq
          (.int version))).both (.known (offerPublicationStatusRank (row.columns.get "status") ≤
            offerPublicationStatusRank status))))).holds = true) : row.NotAheadOf set := by
  apply Row.NotAheadOf.of_version (offerVersion_of_column hversion)
  intro old hbefore
  rw [column_of_offerVersion hbefore] at hnewer hranked
  simp only [Value.isNull, Value.sqlLe, Truth.holds_either, Truth.holds_known, reduceCtorEq,
    decide_false, Bool.false_or, decide_eq_true_eq] at hnewer
  unfold Row.statusRank
  rw [hstatus]
  cases given with
  | false =>
    rw [if_neg (by simp)]
    omega
  | true =>
    have hbetter := hranked rfl
    simp only [Value.isNull, Value.sqlLt, Value.sqlEq, Truth.holds_either,
      Truth.holds_both, Truth.holds_known, reduceCtorEq, decide_false, Bool.false_or,
      or_self, if_false, Value.int.injEq, Bool.or_eq_true, Bool.and_eq_true,
      decide_eq_true_eq] at hbetter
    exact hbetter

theorem notAheadOf_setPublication
    (hbound : bindColumns db.bind fields publicationColumns = some bound)
    (hwhere : (publicationWhere promotion fields (db.proposed id bound) row).holds = true)
    (hdated : fields "offer_version_id" = some .null → row.offerVersion = none ∧
      ((fields "status").isSome → row.statusRank ≤ offerPublicationStatusRank
        (Fields.get fields "status"))) :
    row.NotAheadOf (setPublication promotion (db.proposed id bound) bound row) := by
  set set := setPublication promotion (db.proposed id bound) bound row with hset
  have hcolumns : ∀ key ∈ ["offer_version_id", "status"], key ∈ publicationColumns := by decide
  have hcolumn : ∀ key ∈ ["offer_version_id", "status"], set.columns.get key =
      if (fields key).isSome then bound.get key else row.columns.get key := by
    intro key hkey
    apply get_setPublication hbound (hcolumns key hkey)
    revert key hkey
    decide
  have hincoming : ∀ key ∈ ["offer_version_id", "status"], (fields key).isSome →
      (db.proposed id bound).columns.get key = bound.get key := by
    intro key hkey hgiven
    have hmember : key ∈ publicationColumns := hcolumns key hkey
    exact (get_update_bound hbound hmember fun _ => Iff.rfl).trans (if_pos hgiven)
  have hversion := hcolumn "offer_version_id" (by simp)
  have hstatus := hcolumn "status" (by simp)
  unfold publicationWhere at hwhere
  simp only [Truth.holds_both, Bool.and_eq_true] at hwhere
  obtain ⟨-, hnewer, hranked⟩ := hwhere
  cases hgiven : fields "offer_version_id" with
  | none =>
    -- The version is kept, and the rank is compared on its own.
    rw [hgiven, if_neg (by simp)] at hversion
    apply Row.NotAheadOf.of_version_eq
    · unfold Row.offerVersion
      rw [hversion]
    · unfold Row.statusRank
      rw [hstatus]
      cases hchange : (fields "status").isSome with
      | false => exact Nat.le_refl _
      | true =>
        rw [if_pos hchange, hgiven, if_neg (by simp), Truth.holds_known, decide_eq_true_eq,
          hincoming "status" (by simp) hchange] at hranked
        exact hranked
  | some given =>
    rw [hgiven, if_pos Option.isSome_some] at hversion
    have hbind : db.bind "offer_version_id" given = some (bound.get "offer_version_id") :=
      bound_get hbound (by decide) hgiven
    rcases bindInteger_cases hbind with ⟨rfl, hnull⟩ | ⟨version, hint⟩
    · -- A null erases the version, so that there must have been none.
      obtain ⟨hnone, hrank⟩ := hdated hgiven
      apply Row.NotAheadOf.of_version_eq
      · rw [hnone]
        unfold Row.offerVersion
        rw [hversion, hnull]
      · unfold Row.statusRank
        rw [hstatus]
        cases hchange : fields "status" with
        | none => exact Nat.le_refl _
        | some status =>
          rw [if_pos Option.isSome_some]
          have hmember : db.bind "status" status = some (bound.get "status") :=
            bound_get hbound (by decide) hchange
          rw [bindMember_eq hmember]
          rw [hchange] at hrank
          have hle := hrank rfl
          unfold Fields.get at hle
          rw [hchange] at hle
          exact hle
    · have hproposed := hincoming "offer_version_id" (by simp) (by rw [hgiven]; rfl)
      rw [hint] at hproposed hversion
      rw [hgiven, if_pos Option.isSome_some, hproposed] at hnewer
      rw [hgiven, hproposed] at hranked
      refine notAheadOf_given hversion hstatus hnewer fun hchange => ?_
      rw [if_pos hchange, if_pos Option.isSome_some, hincoming "status" (by simp) hchange]
        at hranked
      exact hranked

theorem bound_dedupeKey (hbound : bindColumns db.bind fields publicationColumns = some bound)
    (hkey : Fields.get fields "dedupe_key" ≠ .null) :
    (fields "dedupe_key").isSome = true ∧
      bound.get "dedupe_key" = Fields.get fields "dedupe_key" ∧
      ∃ text, Fields.get fields "dedupe_key" = .text text := by
  unfold Fields.get at hkey ⊢
  cases hgiven : fields "dedupe_key" with
  | none =>
    rw [hgiven] at hkey
    exact absurd rfl hkey
  | some given =>
    have hbind : db.bind "dedupe_key" given = some (bound.get "dedupe_key") :=
      bound_get hbound (by decide) hgiven
    rw [hgiven] at hkey
    refine ⟨rfl, ?_⟩
    unfold PublicationDb.bind at hbind
    simp only [List.mem_cons, String.reduceEq, List.not_mem_nil, or_self, or_false, if_false,
      or_true, if_true] at hbind
    unfold bindText at hbind
    cases given with
    | null => exact absurd rfl hkey
    | text text =>
      dsimp only at hbind
      split_ifs at hbind
      exact ⟨(Option.some.inj hbind).symm, text, rfl⟩
    | bool given => cases hbind
    | int n => cases hbind
    | float shown n => cases hbind
    | other shown => cases hbind

theorem blank_dedupeKey (hbound : bindColumns db.bind fields publicationColumns = some bound)
    (hnull : Fields.get fields "dedupe_key" ≠ .null)
    (hkey : (Fields.get fields "dedupe_key").truthy = false) :
    Fields.get fields "dedupe_key" = .text "" := by
  obtain ⟨-, -, text, htext⟩ := bound_dedupeKey hbound hnull
  rw [htext] at hkey ⊢
  unfold Value.truthy at hkey
  rw [decide_eq_false_iff_not, not_not] at hkey
  rw [hkey]

theorem dedupeKey_ne_null (hbound : bindColumns db.bind fields publicationColumns = some bound)
    (hchecked : (db.proposed id bound).publicationChecked = true) :
    Fields.get fields "dedupe_key" ≠ .null := by
  intro hnull
  unfold Row.publicationChecked at hchecked
  simp only [Bool.and_eq_true, List.all_eq_true, decide_eq_true_eq] at hchecked
  apply hchecked.1 "dedupe_key" (by decide)
  refine (get_update_bound hbound (by decide) fun _ => Iff.rfl).trans ?_
  unfold Fields.get at hnull
  cases hgiven : fields "dedupe_key" with
  | none => rfl
  | some given =>
    rw [if_pos Option.isSome_some]
    have hbind : db.bind "dedupe_key" given = some (bound.get "dedupe_key") :=
      bound_get hbound (by decide) hgiven
    rw [hgiven, Option.getD_some] at hnull
    rw [hnull] at hbind
    exact (Option.some.inj hbind).symm

theorem distinct_of_merge {key : Value} {clause : Row → Bool}
    (hstored : PublicationsDistinct states)
    (hbound : bindColumns db.bind fields publicationColumns = some bound)
    (htouched : ∃ row ∈ states, row.columns.get "dedupe_key" = key ∧ clause row = true)
    (h : PublicationsDistinct (updateWhere (fun row => row.columns.get "dedupe_key" = key)
      (fun row => row.update (settablePublication bound)) states)) :
    PublicationsDistinct (updateWhere
      (fun row => decide (row.columns.get "dedupe_key" = key) && clause row)
      (setPublication promotion excluded bound) states) := by
  obtain ⟨touched, hmem, hkey, hclause⟩ := htouched
  have hadmits : ∀ row ∈ states, (decide (row.columns.get "dedupe_key" = key) && clause row) =
      decide (row.columns.get "dedupe_key" = key) := by
    intro row hrow
    by_cases hsame : row.columns.get "dedupe_key" = key
    · have heq : row = touched := eq_of_dedupeKey hstored hmem hrow (hsame.trans hkey.symm)
      rw [heq, hclause, Bool.and_true]
    · rw [decide_eq_false hsame, Bool.false_and]
  have hmap : ∀ {β : Type} (part : Row → β),
      (∀ row, part (setPublication promotion excluded bound row) =
        part (row.update (settablePublication bound))) →
      (updateWhere (fun row => decide (row.columns.get "dedupe_key" = key) && clause row)
        (setPublication promotion excluded bound) states).map part =
      (updateWhere (fun row => row.columns.get "dedupe_key" = key)
        (fun row => row.update (settablePublication bound)) states).map part := by
    intro β part hpart
    unfold updateWhere
    rw [List.map_map, List.map_map]
    apply List.map_congr_left
    intro row hrow
    simp only [Function.comp_apply, hadmits row hrow]
    split_ifs
    · exact hpart row
    · rfl
  have hcolumn : ∀ column ∈ ["offer_public_id", "surface"], ∀ row : Row,
      (setPublication promotion excluded bound row).columns.get column =
        (row.update (settablePublication bound)).columns.get column := by
    intro column hcolumn row
    have hplaces : ∀ column ∈ ["offer_public_id", "surface"], column ∈ publicationColumns ∧
        column ∉ ["dedupe_key", "publisher_bot_identity"] ∧ column ≠ "dedupe_key" := by decide
    obtain ⟨hplace, hother, hne⟩ := hplaces column hcolumn
    rw [get_setPublication hbound hplace hother,
      get_update_bound hbound hplace (mem_settablePublication hne)]
  obtain ⟨hids, hkeys, hoffers⟩ := h
  refine ⟨?_, ?_, ?_⟩
  · rw [hmap Row.id fun _ => rfl]
    exact hids
  · rw [hmap (fun row => row.columns.get "dedupe_key")]
    · exact hkeys
    · intro row
      rw [get_dedupeKey_setPublication, get_update_of_not_mem]
      intro value hvalue
      obtain ⟨-, hother⟩ := List.mem_filter.mp hvalue
      cases hother
  · rw [hmap (fun row => (row.columns.get "offer_public_id", row.columns.get "surface"))]
    · exact hoffers
    · intro row
      rw [hcolumn "offer_public_id" (by simp), hcolumn "surface" (by simp)]

theorem merge_refused (hstored : PublicationsDistinct (rows .offerPublicationStates))
    (hbound : bindColumns db.bind fields publicationColumns = some bound)
    (hkey : (Fields.get fields "dedupe_key").truthy = true)
    (hrefused : db.upsert rows promotion fields id bound = .refused .unique) :
    db.updateStates rows setting bound
      (fun row => row.columns.get "dedupe_key" = Fields.get fields "dedupe_key")
      (fun row => row.update (settablePublication bound)) ≠ .rows states := by
  intro hmerged
  have hnull : Fields.get fields "dedupe_key" ≠ .null := by
    intro hnull
    rw [hnull] at hkey
    cases hkey
  obtain ⟨hgiven, hsame, -⟩ := bound_dedupeKey hbound hnull
  have hproposed : (db.proposed id bound).columns.get "dedupe_key" =
      Fields.get fields "dedupe_key" := by
    refine ((get_update_bound hbound (by decide) fun _ => Iff.rfl).trans ?_).trans hsame
    rw [if_pos hgiven]
  have htouched : ∃ row ∈ rows .offerPublicationStates,
      row.columns.get "dedupe_key" = Fields.get fields "dedupe_key" := by
    by_contra hnone
    unfold PublicationDb.updateStates at hmerged
    rw [if_pos] at hmerged
    · cases hmerged
    · rw [List.filter_eq_nil_iff]
      intro row hrow hadmits
      exact hnone ⟨row, hrow, of_decide_eq_true hadmits⟩
  have hdistinct := updateStates_rows hmerged
  rw [hdistinct.1] at hdistinct
  unfold PublicationDb.upsert at hrefused
  simp only [hkey, if_true, hproposed] at hrefused
  rw [if_pos (c := List.any _ _ = true)] at hrefused
  · split_ifs at hrefused with htrigger hchecked
    · cases hrefused
    · -- The clause has found the row, and its update broke a unique key.
      obtain ⟨⟨row, hrow, hadmits⟩, hbroken⟩ := updateStates_refused_unique hrefused
      apply hbroken
      refine distinct_of_merge hstored hbound ?_ hdistinct.2.1
      rw [Bool.and_eq_true, decide_eq_true_eq] at hadmits
      exact ⟨row, hrow, hadmits⟩
  · obtain ⟨row, hrow, hsame⟩ := htouched
    exact List.any_eq_true.mpr ⟨row, hrow, decide_eq_true hsame⟩

end Statements

/-! ## The condition -/

structure Ordered (db : PublicationDb) (currentServer : Server) (rows : Rows)
    (statement : Statement) : Prop where
  /-- A null version comes only to a row without one, under a status of no lower rank. -/
  dated : publicationFields statement "offer_version_id" = some .null →
    ∀ bound ∈ bindColumns db.bind (publicationFields statement) publicationColumns,
    ∀ row ∈ rows .offerPublicationStates,
      row.columns.get "dedupe_key" = Fields.get (publicationFields statement) "dedupe_key" →
      (publicationWhere (publisherPromotionToken currentServer (publicationFields statement)
        statement.source) (publicationFields statement) (db.proposed row.id bound) row).holds →
      row.offerVersion = none ∧ ((publicationFields statement "status").isSome →
        row.statusRank ≤ offerPublicationStatusRank
          (Fields.get (publicationFields statement) "status"))
  /-- An item with an empty dedupe key names no row, by its id or by this key. -/
  keyed : Fields.get (publicationFields statement) "dedupe_key" = .text "" →
    ∀ row ∈ rows .offerPublicationStates, row.columns.get "dedupe_key" ≠ .text "" ∧
      db.givenId rows (publicationFields statement) ≠ some (.int row.id)
  /-- No other error about the row of the item's dedupe key reads as a unique violation. -/
  read : db.saysUnique rows statement = true → ∀ row ∈ rows .offerPublicationStates,
    row.columns.get "dedupe_key" ≠ Fields.get (publicationFields statement) "dedupe_key"

/-- What a statement has done to the publication states, where `orderly` keeps the pairs. -/
inductive PublicationEffect (orderly : Prop) (states : List Row) : List Row → Prop
  | kept : PublicationEffect orderly states states
  | inserted {proposed : Row} (distinct : PublicationsDistinct (states ++ [proposed]))
      (checked : proposed.publicationChecked = true) :
      PublicationEffect orderly states (states ++ [proposed])
  | updated {setting : String} {admits : Row → Bool} {change : Row → Row}
      (id : ∀ row, (change row).id = row.id)
      (distinct : PublicationsDistinct (updateWhere admits change states))
      (passed : ∀ row ∈ states, admits row = true →
        publicationTriggerRaises setting (some row) (change row) = false ∧
        (change row).publicationChecked = true)
      (ahead : orderly → ∀ row ∈ states, admits row = true → row.NotAheadOf (change row)) :
      PublicationEffect orderly states (updateWhere admits change states)

section Effects

variable {db : PublicationDb} {currentServer : Server} {rows : Rows} {statement : Statement}
  {bound : Payload} {states : List Row} {id : Int}

theorem PublicationEffect.of_updateStates {orderly : Prop} {setting : String}
    {admits : Row → Bool} {change : Row → Row}
    (h : db.updateStates rows setting bound admits change = .rows states)
    (hid : ∀ row, (change row).id = row.id)
    (hahead : orderly → ∀ row ∈ rows .offerPublicationStates, admits row = true →
      row.NotAheadOf (change row)) :
    PublicationEffect orderly (rows .offerPublicationStates) states := by
  obtain ⟨rfl, hdistinct, hpassed⟩ := updateStates_rows h
  exact .updated hid hdistinct hpassed hahead

theorem merge_effect (hstored : PublicationsDistinct (rows .offerPublicationStates))
    (hbound : bindColumns db.bind (publicationFields statement) publicationColumns = some bound)
    (hwhy : (∃ promotion id, db.upsert rows promotion (publicationFields statement) id bound =
      .refused .unique) ∨ db.saysUnique rows statement = true) :
    PublicationEffect (Ordered db currentServer rows statement) (rows .offerPublicationStates)
      ((db.merge rows (publicationFields statement) bound).1 .offerPublicationStates) := by
  unfold PublicationDb.merge
  dsimp only
  split_ifs with hnull hempty
  · exact .kept
  · exact .kept
  · cases hwritten : db.updateStates rows "" bound
        (fun row => decide (row.columns.get "dedupe_key" =
          Fields.get (publicationFields statement) "dedupe_key"))
        (fun row => row.update (settablePublication bound)) with
    | rows written =>
      dsimp only
      rw [put_self]
      refine .of_updateStates hwritten (fun _ => rfl) fun hordered row hrow hadmits => ?_
      rw [decide_eq_true_eq] at hadmits
      exfalso
      rcases hwhy with ⟨promotion, id, hrefused⟩ | hsays
      · cases hkey : (Fields.get (publicationFields statement) "dedupe_key").truthy with
        | true => exact merge_refused hstored hbound hkey hrefused hwritten
        | false =>
          have hblank := blank_dedupeKey hbound hnull hkey
          exact (hordered.keyed hblank row hrow).1 (hadmits.trans hblank)
      · exact hordered.read hsays row hrow hadmits
    | nothing => exact .kept
    | refused refusal => exact .kept
    | raised => exact .kept

theorem refused_effect (hstored : PublicationsDistinct (rows .offerPublicationStates))
    (hbound : bindColumns db.bind (publicationFields statement) publicationColumns = some bound)
    {promotion : Option String} {refusal : Refusal}
    (hunique : refusal = .unique → ∃ id, db.upsert rows promotion (publicationFields statement) id
      bound = .refused .unique) :
    PublicationEffect (Ordered db currentServer rows statement) (rows .offerPublicationStates)
      ((db.conclude rows statement promotion bound (.refused refusal)).1
        .offerPublicationStates) := by
  unfold PublicationDb.conclude
  dsimp only
  cases hread : db.read rows statement refusal with
  | foreignKey => exact .kept
  | other => exact .kept
  | unique =>
    apply merge_effect hstored hbound
    unfold PublicationDb.read at hread
    cases refusal with
    | unique =>
      obtain ⟨id, hid⟩ := hunique rfl
      exact Or.inl ⟨promotion, id, hid⟩
    | foreignKey =>
      dsimp only at hread
      split_ifs at hread with hsays
      exact Or.inr hsays
    | other =>
      dsimp only at hread
      split_ifs at hread with hsays
      exact Or.inr hsays

theorem upsert_effect
    (hbound : bindColumns db.bind (publicationFields statement) publicationColumns = some bound)
    (hid : db.givenId rows (publicationFields statement) = some (.int id))
    (hwritten : db.upsert rows (publisherPromotionToken currentServer
      (publicationFields statement) statement.source) (publicationFields statement) id bound =
        .rows states) :
    PublicationEffect (Ordered db currentServer rows statement) (rows .offerPublicationStates)
      states := by
  rcases upsert_rows hwritten with ⟨rfl, hdistinct, hchecked⟩ | ⟨hkey, hupdate⟩ |
      ⟨hkey, ⟨stored, hstored, hsame⟩, hchecked, hupdate⟩
  · exact .inserted hdistinct hchecked
  · refine .of_updateStates hupdate (fun _ => rfl) fun hordered row hrow hadmits => ?_
    rw [Bool.and_eq_true, decide_eq_true_eq] at hadmits
    refine notAheadOf_setPublication hbound hadmits.2 fun hnull => ?_
    have hpresent : Fields.get (publicationFields statement) "dedupe_key" ≠ .null := by
      intro habsent
      rw [habsent] at hkey
      cases hkey
    obtain ⟨hgiven, htext, -⟩ := bound_dedupeKey hbound hpresent
    have hproposed : (db.proposed id bound).columns.get "dedupe_key" =
        Fields.get (publicationFields statement) "dedupe_key" := by
      refine ((get_update_bound hbound (by decide) fun _ => Iff.rfl).trans ?_).trans htext
      rw [if_pos hgiven]
    exact hordered.dated hnull bound hbound row hrow (hadmits.1.trans hproposed) hadmits.2
  · refine .of_updateStates hupdate (fun _ => rfl) fun hordered => ?_
    have hblank := blank_dedupeKey hbound (dedupeKey_ne_null hbound hchecked) hkey
    refine absurd hid ?_
    rw [← hsame]
    exact (hordered.keyed hblank stored hstored).2

theorem insert_cases {promotion : Option String} {fields : Fields} {given : Value}
    {written : Written} (h : db.insert rows promotion fields bound given = written) :
    (∃ id, given = .int id ∧ db.upsert rows promotion fields id bound = written) ∨
      written = .raised ∨ written = .refused .other := by
  have hnone : (if publicationTriggerRaises (promotion.getD "") none (db.proposed 0 bound) then
      Written.raised else .refused .other) = written →
      written = .raised ∨ written = .refused .other := by
    intro h
    split_ifs at h
    · exact Or.inl h.symm
    · exact Or.inr h.symm
  unfold PublicationDb.insert at h
  cases given with
  | int id => exact Or.inl ⟨id, rfl, h⟩
  | null => exact Or.inr (hnone h)
  | bool value => exact Or.inr (hnone h)
  | float shown n => exact Or.inr (hnone h)
  | text value => exact Or.inr (hnone h)
  | other shown => exact Or.inr (hnone h)

theorem execute_effect (hstored : PublicationsDistinct (rows .offerPublicationStates)) :
    PublicationEffect (Ordered db currentServer rows statement) (rows .offerPublicationStates)
      ((db.execute currentServer rows statement).1 .offerPublicationStates) := by
  unfold PublicationDb.execute
  dsimp only
  cases hbound : bindColumns db.bind (publicationFields statement) publicationColumns with
  | none => exact .kept
  | some bound =>
    cases hgiven : db.givenId rows (publicationFields statement) with
    | none => exact .kept
    | some given =>
      dsimp only
      split_ifs with hblank
      · exact .kept
      · cases hwritten : db.insert rows (publisherPromotionToken currentServer
            (publicationFields statement) statement.source) (publicationFields statement) bound
            given with
        | rows written =>
          unfold PublicationDb.conclude
          dsimp only
          rw [put_self]
          rcases insert_cases hwritten with ⟨id, rfl, hupsert⟩ | hraised | hother
          · exact upsert_effect hbound hgiven hupsert
          · cases hraised
          · cases hother
        | nothing => exact .kept
        | raised => exact .kept
        | refused refusal =>
          apply refused_effect hstored hbound
          rintro rfl
          rcases insert_cases hwritten with ⟨id, -, hupsert⟩ | hraised | hother
          · exact ⟨id, hupsert⟩
          · cases hraised
          · cases hother

/-- After a statement the constraints hold, and rows have kept their publisher and, where the item
was orderly, their pair. -/
theorem PublicationEffect.follows {orderly : Prop} {next : List Row}
    (h : PublicationEffect orderly states next) (hstored : Stored states) :
    Stored next ∧ ∀ row ∈ states, ∀ row' ∈ next, row'.id = row.id →
      row.PublisherKept row' ∧ (orderly → row.NotAheadOf row') := by
  cases h with
  | kept =>
    refine ⟨hstored, fun row hrow row' hrow' hid => ?_⟩
    rw [eq_of_id hstored.distinct hrow hrow' hid]
    exact ⟨.refl row, fun _ => .refl row⟩
  | inserted hdistinct hchecked =>
    refine ⟨⟨hdistinct, ?_⟩, fun row hrow row' hrow' hid => ?_⟩
    · intro row hrow
      rcases List.mem_append.mp hrow with hold | hnew
      · exact hstored.checked row hold
      · rw [List.mem_singleton.mp hnew]
        exact hchecked
    · rw [eq_of_id hdistinct (List.mem_append_left _ hrow) hrow' hid]
      exact ⟨.refl row, fun _ => .refl row⟩
  | updated hkeep hdistinct hpassed hahead =>
    refine ⟨⟨hdistinct, ?_⟩, fun row hrow row' hrow' hid => ?_⟩
    · intro row hrow
      obtain ⟨old, hold, ⟨hadmits, rfl⟩ | ⟨-, rfl⟩⟩ := mem_updateWhere hrow
      · exact (hpassed old hold hadmits).2
      · exact hstored.checked _ hold
    · obtain ⟨old, hold, ⟨hadmits, rfl⟩ | ⟨-, rfl⟩⟩ := mem_updateWhere hrow'
      · rw [hkeep] at hid
        rw [eq_of_id hstored.distinct hrow hold hid] at hadmits ⊢
        exact ⟨publisherKept_of_trigger (hstored.checked row hrow) (hpassed row hrow hadmits).1,
          fun horderly => hahead horderly row hrow hadmits⟩
      · rw [eq_of_id hstored.distinct hrow hold hid]
        exact ⟨.refl row, fun _ => .refl row⟩

end Effects

/-! ## Items -/

def OrderedItem (engine : Engine) (db : PublicationDb) (states : List Row) (item : TableItem) :
    Prop :=
  ∀ statement ∈ item.statement (engine.withPublications db) .offerPublicationStates states,
    Ordered db engine.currentServer (item.rows .offerPublicationStates states) statement

section Items

variable {engine : Engine} {db : PublicationDb} {states : List Row} {item : TableItem}

theorem Stored.sublist {next : List Row} (hstored : Stored states) (hsub : next.Sublist states) :
    Stored next :=
  ⟨⟨hstored.distinct.1.sublist (hsub.map _), hstored.distinct.2.1.sublist (hsub.map _),
    hstored.distinct.2.2.sublist (hsub.map _)⟩, fun row hrow => hstored.checked row (hsub.mem hrow)⟩

theorem applyPublication_follows (hstored : Stored states) :
    Stored (applyPublication engine db states item) ∧
    ∀ row ∈ states, ∀ row' ∈ applyPublication engine db states item, row'.id = row.id →
      row.PublisherKept row' ∧ (OrderedItem engine db states item → row.NotAheadOf row') := by
  -- A row that no statement has written is the row it was.
  have hgone : ∀ next : List Row, next.Sublist states → Stored next ∧
      ∀ row ∈ states, ∀ row' ∈ next, row'.id = row.id →
        row.PublisherKept row' ∧ (OrderedItem engine db states item → row.NotAheadOf row') := by
    intro next hsub
    refine ⟨hstored.sublist hsub, fun row hrow row' hrow' hid => ?_⟩
    rw [eq_of_id hstored.distinct hrow (hsub.mem hrow') hid]
    exact ⟨.refl row, fun _ => .refl row⟩
  have hself := rows_self item .offerPublicationStates states
  rcases @TableItem.apply_cases (engine.withPublications db) .offerPublicationStates states item
      (by decide) (by decide) with ⟨statement, hstatement, heq⟩ | heq | ⟨-, id, data, -, heq⟩
  · unfold applyPublication
    rw [heq]
    have heffect : PublicationEffect
        (Ordered db engine.currentServer (item.rows .offerPublicationStates states) statement)
        (item.rows .offerPublicationStates states .offerPublicationStates)
        (((engine.withPublications db).execute (item.rows .offerPublicationStates states)
          statement).1 .offerPublicationStates) := by
      have htable := statement_table hstatement
      unfold Engine.withPublications
      dsimp only
      rw [if_pos htable]
      apply execute_effect
      rw [hself]
      exact hstored.distinct
    rw [hself] at heffect
    obtain ⟨hnext, hfollows⟩ := heffect.follows hstored
    refine ⟨hnext, fun row hrow row' hrow' hid => ?_⟩
    obtain ⟨hpublisher, hpair⟩ := hfollows row hrow row' hrow' hid
    exact ⟨hpublisher, fun hordered => hpair (hordered statement hstatement)⟩
  · unfold applyPublication
    rw [heq]
    exact hgone states (List.Sublist.refl _)
  · unfold applyPublication
    rw [heq]
    apply hgone
    unfold Engine.withPublications PublicationDb.delete
    dsimp only
    rw [if_pos rfl]
    rcases deleteById_rows db.pinned .offerPublicationStates
      (item.rows .offerPublicationStates states) id with hkept | ⟨removed, -, hremoved⟩
    · rw [hkept, hself]
    · rw [hremoved, hself]
      exact List.filter_sublist

end Items

/-- In every run of items, a stored row keeps a publisher that was set, but for one promotion of the
primary bot to a publisher bot, and if no item sets it back its pair of offer version and rank never
becomes smaller. -/
theorem publication_never_goes_back (engine : Engine) (db : PublicationDb) (states : List Row)
    (hstored : Stored states) (items : List TableItem) (row row' : Row) (hrow : row ∈ states)
    (hrow' : row' ∈ run (applyPublication engine db) states items) (hid : row'.id = row.id)
    (hkept : ∀ n ≤ items.length,
      ∃ kept ∈ run (applyPublication engine db) states (items.take n), kept.id = row.id) :
    row.PublisherKept row' ∧
      (EachStep (applyPublication engine db)
        (fun states item _ => OrderedItem engine db states item) states items →
          row.NotAheadOf row') := by
  induction items generalizing states row with
  | nil =>
    rw [run_nil] at hrow'
    rw [eq_of_id hstored.distinct hrow hrow' hid]
    exact ⟨.refl row, fun _ => .refl row⟩
  | cons item items ih =>
    obtain ⟨hnext, hfollows⟩ := @applyPublication_follows engine db states item hstored
    rw [run_cons] at hrow'
    have hstay : ∀ n ≤ items.length, ∃ kept ∈ run (applyPublication engine db)
        (applyPublication engine db states item) (items.take n), kept.id = row.id := by
      intro n hn
      have hthere := hkept (n + 1) (Nat.succ_le_succ hn)
      rw [List.take_succ_cons, run_cons] at hthere
      exact hthere
    obtain ⟨middle, hmiddle, hsame⟩ := hstay 0 (Nat.zero_le _)
    rw [List.take_zero, run_nil] at hmiddle
    obtain ⟨hpublisher, hpair⟩ := hfollows row hrow middle hmiddle hsame
    rw [← hsame] at hstay
    have hlater := ih _ hnext middle hmiddle hrow' (hid.trans hsame.symm) hstay
    exact ⟨hpublisher.trans hlater.1, fun heach => (hpair heach.1).trans (hlater.2 heach.2)⟩

instance Ordered.decidable (db : PublicationDb) (currentServer : Server) (rows : Rows)
    (statement : Statement) : Decidable (Ordered db currentServer rows statement) :=
  decidable_of_iff (_ ∧ _ ∧ _)
    ⟨fun h => ⟨h.1, h.2.1, h.2.2⟩, fun h => ⟨h.dated, h.keyed, h.read⟩⟩

instance OrderedItem.decidable (engine : Engine) (db : PublicationDb) (states : List Row)
    (item : TableItem) : Decidable (OrderedItem engine db states item) :=
  inferInstanceAs (Decidable (∀ statement ∈
    item.statement (engine.withPublications db) .offerPublicationStates states, _))

/-- A database that takes every text and refuses nothing of its own. -/
def openPublicationDb : PublicationDb where
  fits := fun _ _ => true
  bindOther := fun _ value => some value
  now := .text "2026-09-01T10:00:00"
  nextId := fun states => states.length + 1
  dangling := fun _ _ => false
  pinned := fun _ _ => false
  saysUnique := fun _ _ => false
  saysForeignKey := fun _ _ => false

def publicationOfA (offerVersion : Value) (status : String) : Payload :=
  [("offer_public_id", .text "A"), ("offer_home_server", .text "foreign"),
   ("surface", .text "telegram_channel"), ("publication_owner_server", .text "foreign"),
   ("dedupe_key", .text "offer-publication:telegram_channel:A"),
   ("publisher_bot_identity", .text "primary"), ("offer_version_id", offerVersion),
   ("status", .text status)]

def sentPublication : Row :=
  Row.update ⟨7, [("version_id", .int 2), ("archived", .bool false),
    ("created_at", .text "2026-08-31T09:00:00")]⟩ (publicationOfA (.int 5) "sent")

def updateOfA (offerVersion : Value) (status : String) : TableItem where
  others := fun
    | .offers => [⟨3, [("offer_public_id", .text "A")]⟩]
    | _ => []
  operation := .update
  recordId := .int 7
  data := publicationOfA offerVersion status
  source := some .foreign

/-- A newer version is taken under any status, and an older one is not. -/
theorem newer_version_taken :
    Stored [sentPublication] ∧
    ∃ row' ∈ run (applyPublication iranEngine openPublicationDb) [sentPublication]
        [updateOfA (.int 6) "pending", updateOfA (.int 5) "visible"],
      sentPublication.PublisherKept row' ∧ sentPublication.NotAheadOf row' ∧
      row'.offerVersion = some 6 := by
  have hstored : Stored [sentPublication] := ⟨by decide, by decide⟩
  have hthere : ∃ row' ∈ run (applyPublication iranEngine openPublicationDb) [sentPublication]
      [updateOfA (.int 6) "pending", updateOfA (.int 5) "visible"],
      row'.id = sentPublication.id ∧ row'.offerVersion = some 6 := by
    decide +kernel
  obtain ⟨row', hrow', hid, hversion⟩ := hthere
  obtain ⟨hpublisher, hpair⟩ := publication_never_goes_back iranEngine openPublicationDb
    [sentPublication] hstored [updateOfA (.int 6) "pending", updateOfA (.int 5) "visible"]
    sentPublication row' (List.mem_singleton.mpr rfl) hrow' hid (by decide +kernel)
  exact ⟨hstored, row', hrow', hpublisher, hpair (by decide), hversion⟩

/-- A null version erases version 5; then version 1 takes the row from sent back to pending. -/
theorem null_version_sets_back :
    Stored [sentPublication] ∧ sentPublication.offerVersion = some 5 ∧
    (run (applyPublication iranEngine openPublicationDb) [sentPublication]
      [updateOfA .null "sent"]).map (fun row => (row.id, row.offerVersion, row.statusRank)) =
        [(sentPublication.id, none, 50)] ∧
    (run (applyPublication iranEngine openPublicationDb) [sentPublication]
      [updateOfA .null "sent", updateOfA (.int 1) "pending"]).map
        (fun row => (row.id, row.offerVersion, row.statusRank)) =
          [(sentPublication.id, some 1, 10)] ∧
    ∀ row' ∈ run (applyPublication iranEngine openPublicationDb) [sentPublication]
        [updateOfA .null "sent", updateOfA (.int 1) "pending"],
      ¬ sentPublication.NotAheadOf row' := by
  have hversion : sentPublication.offerVersion = some 5 := by decide
  have hback : ∀ row' ∈ run (applyPublication iranEngine openPublicationDb) [sentPublication]
      [updateOfA .null "sent", updateOfA (.int 1) "pending"], row'.offerVersion = some 1 := by
    decide +kernel
  refine ⟨⟨by decide +kernel, by decide +kernel⟩, hversion, by decide +kernel, by decide +kernel,
    fun row' hrow' hahead => ?_⟩
  unfold Row.NotAheadOf at hahead
  rw [hversion, hback row' hrow'] at hahead
  omega

end TradingBot.Sync
