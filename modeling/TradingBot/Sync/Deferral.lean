import TradingBot.Sync.Relocalize

/-!
# Deferred sync items

An item that pass 1 defers is applied in pass 2 with the payload its first attempt left. Here the
rows it leaves are compared with those of an untouched copy.
-/

namespace TradingBot.Sync

open Misc

section Again

variable {engine : Engine} {before after rows rows' : Rows} {table : Table}
  {left data right : Payload} {recordId found record : Value} {first : Except Localized Value}
  {handed : Value × (String → Option Value)} {operation : Operation} {source : Option Server}
  {fields : String → Option Value}

/-! ## Writing -/

theorem persistData_left (table : Table) (recordId : Value) (data : Payload) :
    AgreeOff (writtenKeys table) (persistData table recordId data) data := by
  intro key hkey
  simp only [writtenKeys, not_or, not_and] at hkey
  unfold persistData
  by_cases htable : table = .offers
  · have hchannel := hkey.2 htable
    rw [if_pos htable]
    split
    · simp [hkey.1, hchannel]
    · simp [hkey.1, hchannel]
  · rw [if_neg htable]
    split
    · simp [hkey.1]
    · simp [hkey.1]

theorem syncTableHasPublicIdentity_agree (h : AgreeOff (writtenKeys table) left right) :
    syncTableHasPublicIdentity table left = syncTableHasPublicIdentity table right := by
  have hget : ∀ key, ¬ writtenKeys table key → left.get key = right.get key :=
    fun key hkey => h.get hkey
  unfold writtenKeys at hget
  cases table <;> simp [syncTableHasPublicIdentity, naturalKeys, hget]

theorem persistData_agree (recordId : Value) (h : AgreeOff (writtenKeys table) left right) :
    (persistData table recordId left).fields = (persistData table recordId right).fields := by
  have hidentity := syncTableHasPublicIdentity_agree h
  funext key
  by_cases hwritten : writtenKeys table key
  · unfold Payload.fields persistData
    rw [hidentity]
    rcases hwritten with hid | ⟨htable, hchannel⟩
    · subst hid
      by_cases hpublic : syncTableHasPublicIdentity table right = true
      · simp [hpublic]
        split <;> simp
      · simp [hpublic]
        split <;> simp
    · subst htable hchannel
      simp
  · exact (persistData_left table recordId left key hwritten).trans
      ((h key hwritten).trans (persistData_left table recordId right key hwritten).symm)

def handedOver (engine : Engine) (rows : Rows) (table : Table) (recordId : Value)
    (data : Payload) : Option (Value × (String → Option Value)) :=
  match prepare engine rows table recordId data with
  | (data, .ok recordId) => some (recordId, data.fields)
  | (_, .error _) => none

theorem localizeRecordId_eq_some (htable : table ≠ .chatMembers) (rows : Rows) (recordId : Value)
    (data : Payload) :
    ∃ found, localizeRecordId rows table recordId data = some found := by
  cases table with
  | chatMembers => exact absurd rfl htable
  | chats =>
    unfold localizeRecordId
    dsimp only
    split <;> exact ⟨_, rfl⟩
  | _ => exact ⟨recordId, rfl⟩

theorem prepare_eq (htable : table ≠ .chatMembers)
    (hrecord : localizeRecordId rows table recordId data = some found) :
    prepare engine rows table recordId data =
      persist table found (localize engine rows table data) := by
  simp only [prepare, if_neg htable, hrecord]

theorem handedOver_eq_some (htable : table ≠ .chatMembers)
    (hrecord : localizeRecordId rows table recordId data = some found) :
    handedOver engine rows table recordId data = some (record, fields) ↔
      (localize engine rows table data).2 = .found ∧ record = found ∧
        fields = (persistData table found (localize engine rows table data).1).fields := by
  unfold handedOver
  rw [prepare_eq htable hrecord]
  obtain ⟨localized, outcome⟩ := localize engine rows table data
  cases outcome with
  | found =>
    simp only [persist, Option.some.injEq, Prod.mk.injEq, true_and]
    exact ⟨fun h => ⟨h.1.symm, h.2.symm⟩, fun h => ⟨h.1.symm, h.2.symm⟩⟩
  | missing => simp [persist]
  | raised => simp [persist]

theorem left_agree (htable : table ≠ .chatMembers)
    (hrecord : localizeRecordId before table recordId data = some found)
    (hfirst : prepare engine before table recordId data = (left, first))
    (hraised : first ≠ .error .raised) :
    AgreeOff (writtenKeys table) left (localize engine before table data).1 ∧
      (localize engine before table data).2 ≠ .raised := by
  rw [prepare_eq htable hrecord] at hfirst
  generalize localize engine before table data = outcome at hfirst ⊢
  obtain ⟨localized, outcome⟩ := outcome
  cases outcome with
  | found =>
    obtain ⟨rfl, -⟩ := Prod.mk.inj hfirst
    exact ⟨persistData_left _ _ _, nofun⟩
  | missing =>
    obtain ⟨rfl, -⟩ := Prod.mk.inj hfirst
    exact ⟨AgreeOff.refl _ _, nofun⟩
  | raised =>
    obtain ⟨-, rfl⟩ := Prod.mk.inj hfirst
    exact absurd rfl hraised

theorem localizeRecordId_again (htable : table ≠ .chatMembers)
    (hleft : AgreeOff (writtenKeys table) left (localize engine before table data).1) :
    localizeRecordId after table recordId left = localizeRecordId after table recordId data := by
  cases table with
  | chatMembers => exact absurd rfl htable
  | chats =>
    rw [localize_of_users_only engine before data (by decide),
      localizeRegistrationUserReference_none .chats rfl] at hleft
    have hmandatory : isMandatoryChannelRecord left = isMandatoryChannelRecord data := by
      unfold isMandatoryChannelRecord isMandatoryRecord
      rw [hleft.get (by simp [writtenKeys]), hleft.get (by simp [writtenKeys]),
        hleft.get (by simp [writtenKeys])]
    unfold localizeRecordId
    dsimp only
    rw [hmandatory]
  | _ => rfl

theorem handedOver_again_of_ne (htable : table ≠ .chatMembers)
    (hfirst : prepare engine before table recordId data = (left, first))
    (hraised : first ≠ .error .raised)
    (hsecond : handedOver engine after table recordId left = some handed) :
    handedOver engine after table recordId data = some handed ↔
      SameReferences before after table data := by
  obtain ⟨found, hrecord⟩ := localizeRecordId_eq_some htable before recordId data
  obtain ⟨hleft, hnotRaised⟩ := left_agree htable hrecord hfirst hraised
  obtain ⟨again, hagain⟩ := localizeRecordId_eq_some htable after recordId data
  have hagain' : localizeRecordId after table recordId left = some again := by
    rw [localizeRecordId_again htable hleft]
    exact hagain
  obtain ⟨record, fields⟩ := handed
  obtain ⟨hfound, rfl, rfl⟩ := (handedOver_eq_some htable hagain').mp hsecond
  rw [← localize_again htable hleft hnotRaised hfound, handedOver_eq_some htable hagain]
  constructor
  · rintro ⟨hfresh, -, hfields⟩
    refine ⟨hfresh, fun key hkey => ?_⟩
    have hlookup := congrFun hfields key
    exact (persistData_left table record _ key hkey).symm.trans
      (hlookup.trans (persistData_left table record _ key hkey))
  · rintro ⟨hfresh, hagree⟩
    exact ⟨hfresh, rfl, persistData_agree record hagree⟩

/-! ## Chat members -/

theorem localizeChatId_left (rows : Rows) (data : Payload) :
    AgreeOff (fun key => key = "chat_id") (localizeChatId rows data) data := by
  unfold localizeChatId
  split
  · split
    · exact AgreeOff.of_set _ _ _ rfl
    · exact AgreeOff.refl _ _
  · exact AgreeOff.refl _ _

theorem localizeChatId_of_popped (rows : Rows) {popped : Payload}
    (h : AgreeOff (writtenKeys .chatMembers) left (popChatFields popped)) :
    localizeChatId rows left = left := by
  have hkind : left.get "chat_type" = .null := by
    rw [h.get (by simp [writtenKeys])]
    simp [popChatFields]
  have hmandatory : isMandatoryChatMemberRecord left = false := by
    have hnull : decide (Value.null.strippedText.toLower = "channel") = false := by
      decide +kernel
    unfold isMandatoryChatMemberRecord isMandatoryRecord
    rw [hkind, hnull, Bool.false_and, Bool.false_and]
  unfold localizeChatId
  rw [hmandatory]
  rfl

theorem handedOver_chatMembers :
    handedOver engine rows .chatMembers recordId data = some (record, fields) ↔
      localizeRecordId rows .chatMembers recordId (localizeChatId rows data) = some record ∧
        fields = (persistData .chatMembers record
          (popChatFields (localizeChatId rows data))).fields := by
  unfold handedOver prepare
  have hplain : ∀ payload, localize engine rows .chatMembers payload = (payload, .found) := by
    intro payload
    rw [localize_of_users_only engine rows payload (by decide),
      localizeRegistrationUserReference_none .chatMembers rfl]
  simp only [if_true, hplain]
  cases hrecord : localizeRecordId rows .chatMembers recordId (localizeChatId rows data) with
  | none => simp
  | some found =>
    simp only [persist, Option.some.injEq, Prod.mk.injEq]
    constructor
    · rintro ⟨rfl, rfl⟩
      exact ⟨rfl, rfl⟩
    · rintro ⟨rfl, rfl⟩
      exact ⟨rfl, rfl⟩

theorem left_agree_chatMembers
    (hfirst : prepare engine before .chatMembers recordId data = (left, first))
    (hraised : first ≠ .error .raised) :
    AgreeOff (writtenKeys .chatMembers) left (popChatFields (localizeChatId before data)) := by
  unfold prepare at hfirst
  simp only [if_true] at hfirst
  cases hrecord : localizeRecordId before .chatMembers recordId (localizeChatId before data) with
  | none =>
    rw [hrecord] at hfirst
    obtain ⟨-, rfl⟩ := Prod.mk.inj hfirst
    exact absurd rfl hraised
  | some found =>
    rw [hrecord, localize_of_users_only engine before _ (by decide),
      localizeRegistrationUserReference_none .chatMembers rfl] at hfirst
    obtain ⟨rfl, -⟩ := Prod.mk.inj hfirst
    exact persistData_left _ _ _

theorem handedOver_again_chatMembers
    (hfirst : prepare engine before .chatMembers recordId data = (left, first))
    (hraised : first ≠ .error .raised)
    (hsecond : handedOver engine after .chatMembers recordId left = some handed) :
    handedOver engine after .chatMembers recordId data = some handed ↔
      SameReferences before after .chatMembers data := by
  have hleft := left_agree_chatMembers hfirst hraised
  have hkept := localizeChatId_of_popped after hleft
  obtain ⟨record, fields⟩ := handed
  obtain ⟨hrecord, rfl⟩ := handedOver_chatMembers.mp hsecond
  rw [hkept] at hrecord
  rw [handedOver_chatMembers, hkept]
  have hpopped : ∀ payload, (popChatFields payload).lookup "chat_id" = payload.lookup "chat_id" := by
    intro payload
    simp [popChatFields]
  have hchat : left.lookup "chat_id" = (localizeChatId before data).lookup "chat_id" := by
    rw [hleft _ (by simp [writtenKeys]), hpopped]
  have huser : ∀ rows, (localizeChatId rows data).get "user_id" = data.get "user_id" :=
    fun rows => (localizeChatId_left rows data).get (by decide)
  have hleftUser : left.get "user_id" = data.get "user_id" := by
    rw [hleft.get (by simp [writtenKeys])]
    simp [popChatFields, huser]
  constructor
  · rintro ⟨-, hfields⟩
    have hlookup := congrFun hfields "chat_id"
    unfold Payload.fields at hlookup
    rw [persistData_left _ _ _ _ (by simp [writtenKeys]),
      persistData_left _ _ _ _ (by simp [writtenKeys]), hpopped, hpopped, hchat] at hlookup
    exact hlookup
  · intro hsame
    have hget : left.get "chat_id" = (localizeChatId after data).get "chat_id" := by
      unfold Payload.get
      rw [hchat, hsame]
    refine ⟨?_, ?_⟩
    · unfold localizeRecordId at hrecord ⊢
      rw [huser, ← hget, ← hleftUser]
      exact hrecord
    · apply persistData_agree
      intro key hkey
      have hlookup : (popChatFields left).lookup key =
          (popChatFields (localizeChatId before data)).lookup key := by
        have hpop := hleft key hkey
        simp only [popChatFields, Payload.lookup_pop] at hpop ⊢
        rw [hpop]
        split_ifs <;> rfl
      rw [hlookup]
      by_cases hkeyChat : key = "chat_id"
      · rw [hkeyChat, hpopped, hpopped]
        exact hsame
      · have hrest : (localizeChatId before data).lookup key =
            (localizeChatId after data).lookup key :=
          (localizeChatId_left before data key hkeyChat).trans
            (localizeChatId_left after data key hkeyChat).symm
        simp only [popChatFields, Payload.lookup_pop, hrest]

/-- The second attempt hands over what an untouched copy would exactly when the references are the
same. -/
theorem handedOver_again (hfirst : prepare engine before table recordId data = (left, first))
    (hraised : first ≠ .error .raised)
    (hsecond : handedOver engine after table recordId left = some handed) :
    handedOver engine after table recordId data = some handed ↔
      SameReferences before after table data := by
  by_cases htable : table = .chatMembers
  · subst htable
    exact handedOver_again_chatMembers hfirst hraised hsecond
  · exact handedOver_again_of_ne htable hfirst hraised hsecond

/-! ## Rows -/

def executed (execute : Rows → Statement → Rows × ApplyResult) (rows : Rows) (table : Table)
    (operation : Operation) (source : Option Server) :
    Option (Value × (String → Option Value)) → Rows
  | some handed => (execute rows
      { table := table, operation := operation, recordId := handed.1, source := source,
        fields := handed.2 }).1
  | none => rows

theorem applyUpsert_rows (rows : Rows) (operation : Operation) (recordId : Value) (data : Payload)
    (source : Option Server) :
    (applyUpsert engine rows table operation recordId data source).1 =
      executed engine.execute rows table operation source
        (handedOver engine rows table recordId data) := by
  unfold applyUpsert handedOver
  obtain ⟨prepared, outcome⟩ := prepare engine rows table recordId data
  cases outcome with
  | ok found => rfl
  | error outcome => cases outcome <;> rfl

def Admitted (engine : Engine) (table : Table) (data : Payload) (source : Option Server) : Prop :=
  ¬ (table = .offerRequests ∧
      (offerRequestAuthorityRejection engine.currentServer data source).isSome) ∧
    ¬ (table = .offerPublicationStates ∧
      (offerPublicationAuthorityRejection engine.currentServer data source).isSome) ∧
    table ≠ .tradingSettings

theorem applyItem_upsert (hadmitted : Admitted engine table data source)
    (hoperation : operation = .insert ∨ operation = .update)
    (huser : applyVersionedUser engine rows table operation recordId data source = none) :
    applyItem engine rows table operation recordId data source =
      applyUpsert engine rows table operation recordId data source := by
  unfold applyItem
  rw [if_neg hadmitted.1, if_neg hadmitted.2.1, if_neg hadmitted.2.2]
  rcases hoperation with rfl | rfl
  · dsimp only
    rw [huser]
  · dsimp only
    rw [huser]

theorem applyItem_versionedUser {outcome : Rows × ApplyResult}
    (huser : applyVersionedUser engine rows table operation recordId data source = some outcome)
    (hoperation : operation = .insert ∨ operation = .update) :
    applyItem engine rows table operation recordId data source =
      (outcome.1, data, outcome.2) := by
  have htable : table = .users := by
    unfold applyVersionedUser at huser
    split at huser
    · rename_i h
      exact h.1
    · cases huser
  subst htable
  unfold applyItem
  rw [if_neg (by simp), if_neg (by simp), if_neg (by simp)]
  rcases hoperation with rfl | rfl
  · dsimp only
    rw [huser]
  · dsimp only
    rw [huser]

theorem applyItem_rejected (hadmitted : ¬ Admitted engine table data source)
    (hsettings : table ≠ .tradingSettings) :
    (applyItem engine rows table operation recordId data source).2.2 = .ignored ∨
      (applyItem engine rows table operation recordId data source).2.2 = .failed := by
  unfold applyItem
  by_cases hrequest : table = .offerRequests ∧
      (offerRequestAuthorityRejection engine.currentServer data source).isSome
  · rw [if_pos hrequest]
    exact Or.inl rfl
  · rw [if_neg hrequest]
    by_cases hpublication : table = .offerPublicationStates ∧
        (offerPublicationAuthorityRejection engine.currentServer data source).isSome
    · rw [if_pos hpublication]
      exact Or.inr rfl
    · exact absurd ⟨hrequest, hpublication, hsettings⟩ hadmitted

theorem applyDelete_not_deferred (rows : Rows) (recordId : Value) (data : Payload) :
    (applyDelete engine rows table recordId data).2.2 ≠ .deferred := by
  have hdelete : ∀ result : DeleteResult, result.toApply ≠ .deferred := by
    intro result
    cases result <;> exact nofun
  unfold applyDelete
  dsimp only
  split
  · exact hdelete _
  · exact nofun
  · exact nofun

/-- An item is deferred by the settings table or a versioned user event, which leave the payload, or
by an upsert. -/
theorem applyItem_deferred
    (h : applyItem engine rows table operation recordId data source = (rows', left, .deferred)) :
    (left = data ∧ (table = .tradingSettings ∨ table = .users)) ∨
      (Admitted engine table data source ∧ (operation = .insert ∨ operation = .update) ∧
        ∃ first, prepare engine rows table recordId data = (left, first) ∧
          first ≠ .error .raised) := by
  by_cases hsettings : table = .tradingSettings
  · refine Or.inl ⟨?_, Or.inl hsettings⟩
    subst hsettings
    unfold applyItem at h
    rw [if_neg (by simp), if_neg (by simp), if_pos rfl] at h
    by_cases hkey : (data.get "key").truthy = true
    · rw [if_pos hkey] at h
      exact (congrArg (·.2.1) h).symm
    · rw [if_neg hkey] at h
      exact (congrArg (·.2.1) h).symm
  by_cases hadmitted : Admitted engine table data source
  · have hplain : operation = .insert ∨ operation = .update := by
      unfold applyItem at h
      rw [if_neg hadmitted.1, if_neg hadmitted.2.1, if_neg hadmitted.2.2] at h
      cases operation with
      | insert => exact Or.inl rfl
      | update => exact Or.inr rfl
      | delete => exact absurd (congrArg (·.2.2) h) (applyDelete_not_deferred _ _ _)
      | unknown => cases h
    cases huser : applyVersionedUser engine rows table operation recordId data source with
    | some outcome =>
      refine Or.inl ⟨?_, Or.inr ?_⟩
      · rw [applyItem_versionedUser huser hplain] at h
        exact (congrArg (·.2.1) h).symm
      · unfold applyVersionedUser at huser
        by_cases hv2 : table = .users ∧ engine.registrationSyncV2
        · exact hv2.1
        · rw [if_neg hv2] at huser
          cases huser
    | none =>
      refine Or.inr ⟨hadmitted, hplain, ?_⟩
      rw [applyItem_upsert hadmitted hplain huser] at h
      unfold applyUpsert at h
      generalize prepare engine rows table recordId data = outcome at h ⊢
      obtain ⟨prepared, first⟩ := outcome
      have hleft : prepared = left := by
        cases first with
        | ok found => exact congrArg (·.2.1) h
        | error outcome => cases outcome <;> exact congrArg (·.2.1) h
      refine ⟨first, by rw [hleft], ?_⟩
      rintro rfl
      cases h
  · have hrejected : (applyItem engine rows table operation recordId data source).2.2 = .ignored ∨
        (applyItem engine rows table operation recordId data source).2.2 = .failed :=
      applyItem_rejected hadmitted hsettings
    rw [h] at hrejected
    rcases hrejected with hignored | hfailed
    · cases hignored
    · cases hfailed

/-- Whatever the database does with statements, both payloads leave the same rows. -/
def SameRows (engine : Engine) (rows : Rows) (table : Table) (operation : Operation)
    (recordId : Value) (source : Option Server) (left data : Payload) : Prop :=
  ∀ execute : Rows → Statement → Rows × ApplyResult,
    (applyItem { engine with execute := execute } rows table operation recordId left source).1 =
      (applyItem { engine with execute := execute } rows table operation recordId data source).1

theorem applyItem_rows (execute : Rows → Statement → Rows × ApplyResult)
    (hadmitted : Admitted engine table data source)
    (hoperation : operation = .insert ∨ operation = .update)
    (huser : applyVersionedUser engine rows table operation recordId data source = none) :
    (applyItem { engine with execute := execute } rows table operation recordId data source).1 =
      executed execute rows table operation source
        (handedOver engine rows table recordId data) := by
  have hupsert : applyItem { engine with execute := execute } rows table operation recordId data
      source = applyUpsert { engine with execute := execute } rows table operation recordId data
      source := applyItem_upsert hadmitted hoperation huser
  rw [hupsert, applyUpsert_rows]
  rfl

/-- Two upserts leave the same rows, whatever the database does, exactly when they hand over the
same. -/
theorem sameRows_upsert_iff (hleftAdmitted : Admitted engine table left source)
    (hadmitted : Admitted engine table data source)
    (hoperation : operation = .insert ∨ operation = .update)
    (hleftUser : applyVersionedUser engine after table operation recordId left source = none)
    (huser : applyVersionedUser engine after table operation recordId data source = none)
    (hhanded : handedOver engine after table recordId left = some handed) :
    SameRows engine after table operation recordId source left data ↔
      handedOver engine after table recordId data = some handed := by
  classical
  unfold SameRows
  simp only [applyItem_rows _ hleftAdmitted hoperation hleftUser,
    applyItem_rows _ hadmitted hoperation huser, hhanded]
  constructor
  · intro hsame
    by_contra hother
    -- a database that adds a row for this statement and for no other
    have hrows := hsame fun rows statement =>
      if (statement.recordId, statement.fields) = handed then
        (fun table => ⟨0, []⟩ :: rows table, .ok)
      else (rows, .ok)
    cases hdata : handedOver engine after table recordId data with
    | none =>
      rw [hdata] at hrows
      simp only [executed, if_true] at hrows
      exact List.cons_ne_self _ _ (congrFun hrows table)
    | some other =>
      have hne : other ≠ handed := by
        intro heq
        exact hother (hdata.trans (congrArg some heq))
      rw [hdata] at hrows
      simp only [executed, if_true, if_neg hne] at hrows
      exact List.cons_ne_self _ _ (congrFun hrows table)
  · intro hdata execute
    rw [hdata]

theorem applyVersionedUser_again
    (hfirst : prepare engine before table recordId data = (left, first))
    (hraised : first ≠ .error .raised) :
    applyVersionedUser engine after table operation recordId left source =
      applyVersionedUser engine after table operation recordId data source := by
  unfold applyVersionedUser
  by_cases hv2 : table = .users ∧ engine.registrationSyncV2
  · rw [if_pos hv2, if_pos hv2]
    obtain ⟨rfl, -⟩ := hv2
    have hleft := (left_agree (by decide) rfl hfirst hraised).1
    rw [localize_of_users_only engine before data (by decide),
      localizeRegistrationUserReference_none .users rfl] at hleft
    have hpop : AgreeOff (fun _ => False) (left.pop "id") (data.pop "id") := by
      apply AgreeOff.pop
      refine hleft.mono ?_
      rintro key (hid | ⟨hoffers, -⟩)
      · exact Or.inr hid
      · cases hoffers
    have hfields : (left.pop "id").fields = (data.pop "id").fields := by
      funext key
      exact hpop key not_false
    rw [hfields]
  · rw [if_neg hv2, if_neg hv2]

/-- A deferred and then applied item leaves the rows of an untouched copy, whatever the database
does, exactly when the references are the same. -/
theorem applyItem_again_iff
    (hdeferred : applyItem engine before table operation recordId data source =
      (rows', left, .deferred))
    (happlied : (applyItem engine after table operation recordId left source).2.2 = .ok) :
    SameRows engine after table operation recordId source left data ↔
      SameReferences before after table data := by
  rcases applyItem_deferred hdeferred with ⟨rfl, htable⟩ | ⟨hadmitted, hoperation, first, hfirst,
    hraised⟩
  · have hsame : SameReferences before after table left = True := by
      rcases htable with rfl | rfl <;> rfl
    rw [hsame]
    exact ⟨fun _ => trivial, fun _ _ => rfl⟩
  have huser : applyVersionedUser engine after table operation recordId left source =
      applyVersionedUser engine after table operation recordId data source :=
    applyVersionedUser_again hfirst hraised
  cases hleftUser : applyVersionedUser engine after table operation recordId left source with
  | some outcome =>
    rw [hleftUser] at huser
    have htable : table = .users := by
      unfold applyVersionedUser at hleftUser
      by_cases hv2 : table = .users ∧ engine.registrationSyncV2
      · exact hv2.1
      · rw [if_neg hv2] at hleftUser
        cases hleftUser
    subst htable
    refine ⟨fun _ => trivial, fun _ execute => ?_⟩
    have hrows : ∀ payload,
        applyVersionedUser engine after .users operation recordId payload source = some outcome →
        (applyItem { engine with execute := execute } after .users operation recordId payload
          source).1 = outcome.1 := by
      intro payload hpayload
      have hversioned : applyItem { engine with execute := execute } after .users operation
          recordId payload source = (outcome.1, payload, outcome.2) :=
        applyItem_versionedUser hpayload hoperation
      rw [hversioned]
    rw [hrows left hleftUser, hrows data huser.symm]
  | none =>
    rw [hleftUser] at huser
    have hleftAdmitted : Admitted engine table left source := by
      by_contra hrejected
      have houtcome : (applyItem engine after table operation recordId left source).2.2 = .ignored ∨
          (applyItem engine after table operation recordId left source).2.2 = .failed :=
        applyItem_rejected hrejected hadmitted.2.2
      rw [happlied] at houtcome
      rcases houtcome with hignored | hfailed
      · cases hignored
      · cases hfailed
    have hhanded : ∃ handed, handedOver engine after table recordId left = some handed := by
      rw [applyItem_upsert hleftAdmitted hoperation hleftUser] at happlied
      unfold applyUpsert at happlied
      unfold handedOver
      generalize prepare engine after table recordId left = outcome at happlied ⊢
      obtain ⟨prepared, outcome⟩ := outcome
      cases outcome with
      | ok found => exact ⟨_, rfl⟩
      | error outcome => cases outcome <;> cases happlied
    obtain ⟨handed, hhanded⟩ := hhanded
    rw [sameRows_upsert_iff hleftAdmitted hadmitted hoperation hleftUser huser.symm hhanded]
    exact handedOver_again hfirst hraised hhanded

end Again

/-! ## Batches -/

section Batches

variable (engine : Engine) (relay : Item → Bool) (screen : Item → Except String Payload)
  (payloadHash : Table → Operation → Value → Payload → String)

/-- The state in which pass 1 comes to the item after these. -/
def firstState (state : State Rows) (earlier : List Item) : BatchState Rows :=
  earlier.foldl (firstPass (receiver engine relay screen payloadHash)) { state with }

/-- The state in which pass 2 comes to the item that was put aside after these. -/
def retryState (state : State Rows) (items : List Item) (earlier : List Pending) :
    BatchState Rows :=
  earlier.foldl (secondPass (receiver engine relay screen payloadHash))
    { firstState engine relay screen payloadHash state (sortItems items) with deferredItems := [] }

variable {engine relay screen payloadHash}

theorem attempt_deferredItems (s : BatchState Rows) (pending : Pending) :
    (attempt (receiver engine relay screen payloadHash) deferOrFail s pending).deferredItems =
        s.deferredItems ∨
      ∃ rows left, applyItem engine s.db pending.table pending.item.operation pending.item.id
          pending.data (applyArgs (receiver engine relay screen payloadHash) pending) =
            (rows, left, .deferred) ∧
        (attempt (receiver engine relay screen payloadHash) deferOrFail s pending).deferredItems =
          s.deferredItems ++ [{ pending with data := left }] := by
  unfold attempt
  cases evaluateSyncWatermark s.watermarks pending.context with
  | stale => exact Or.inl rfl
  | duplicate => exact Or.inl rfl
  | conflict => exact Or.inl rfl
  | apply =>
    have hsettle : ∀ (s : BatchState Rows) context,
        (s.settle context).deferredItems = s.deferredItems := by
      intro s context
      cases context <;> rfl
    dsimp only [receiver]
    generalize applyItem engine s.db pending.table pending.item.operation pending.item.id
      pending.data _ = outcome
    obtain ⟨rows, left, result⟩ := outcome
    cases result with
    | ok => exact Or.inl (hsettle _ _)
    | ignored => exact Or.inl (hsettle _ _)
    | deferred => exact Or.inr ⟨rows, left, rfl, rfl⟩
    | failed => exact Or.inl rfl
    | raised => exact Or.inl rfl

variable {item : Item} {pending : Pending}

theorem firstPass_deferred {s : BatchState Rows}
    (h : (firstPass (receiver engine relay screen payloadHash) s item).deferredItems =
      s.deferredItems ++ [pending]) :
    ∃ fresh rows, screen item = .ok fresh ∧ pending.item = item ∧
      applyItem engine s.db pending.table item.operation item.id fresh
        (applyArgs (receiver engine relay screen payloadHash) pending) =
          (rows, pending.data, .deferred) := by
  have hself : s.deferredItems ≠ s.deferredItems ++ [pending] := by
    intro heq
    simpa using congrArg List.length heq
  unfold firstPass at h
  by_cases hnotification : item.notification = true
  · rw [if_pos hnotification] at h
    split at h
    · exact absurd h hself
    · exact absurd h hself
  · rw [if_neg hnotification] at h
    split at h
    · exact absurd h hself
    · exact absurd h hself
    · rename_i fresh table hscreen htable
      generalize hcontext : watermarkContext _ item table fresh = context at h
      rcases attempt_deferredItems s ⟨item, table, fresh, context⟩ with hnone | ⟨rows, left,
        hdeferred, hitems⟩
      · exact absurd (hnone.symm.trans h) hself
      · obtain rfl : pending = ⟨item, table, left, context⟩ :=
          (List.singleton_inj.mp (List.append_cancel_left (hitems.symm.trans h))).symm
        exact ⟨fresh, rows, hscreen, rfl, hdeferred⟩

theorem firstPass_initialSegment (s : BatchState Rows) (item : Item) :
    s.deferredItems <+:
      (firstPass (receiver engine relay screen payloadHash) s item).deferredItems := by
  unfold firstPass
  by_cases hnotification : item.notification = true
  · rw [if_pos hnotification]
    split <;> exact List.prefix_refl _
  · rw [if_neg hnotification]
    split
    · exact List.prefix_refl _
    · exact List.prefix_refl _
    · rename_i fresh table hscreen htable
      rcases attempt_deferredItems s ⟨item, table, fresh, watermarkContext _ item table fresh⟩ with
        hnone | ⟨rows, left, -, hitems⟩
      · exact ⟨[], (List.append_nil _).trans hnone.symm⟩
      · exact ⟨_, hitems.symm⟩

theorem firstPass_foldl_prefix (items : List Item) (s : BatchState Rows) :
    s.deferredItems <+:
      (items.foldl (firstPass (receiver engine relay screen payloadHash)) s).deferredItems := by
  induction items generalizing s with
  | nil => exact List.prefix_refl _
  | cons item items ih => exact (firstPass_initialSegment s item).trans (ih _)

theorem receiveSyncData_retries {state : State Rows} {items earlier later : List Item}
      (hitems : sortItems items = earlier ++ item :: later)
    (hpending : (firstPass (receiver engine relay screen payloadHash)
        (firstState engine relay screen payloadHash state earlier) item).deferredItems =
      (firstState engine relay screen payloadHash state earlier).deferredItems ++ [pending]) :
    ∃ rest : List Pending, receiveSyncData (receiver engine relay screen payloadHash) state items =
      rest.foldl (secondPass (receiver engine relay screen payloadHash))
        (secondPass (receiver engine relay screen payloadHash)
          (retryState engine relay screen payloadHash state items
            (firstState engine relay screen payloadHash state earlier).deferredItems) pending) := by
  have hprefix : (firstPass (receiver engine relay screen payloadHash)
        (firstState engine relay screen payloadHash state earlier) item).deferredItems <+:
      (later.foldl (firstPass (receiver engine relay screen payloadHash))
        (firstPass (receiver engine relay screen payloadHash)
          (firstState engine relay screen payloadHash state earlier) item)).deferredItems :=
    firstPass_foldl_prefix later _
  obtain ⟨rest, hrest⟩ := hprefix
  refine ⟨rest, ?_⟩
  unfold receiveSyncData retryState
  have hall : firstState engine relay screen payloadHash state (sortItems items) =
      later.foldl (firstPass (receiver engine relay screen payloadHash))
        (firstPass (receiver engine relay screen payloadHash)
          (firstState engine relay screen payloadHash state earlier) item) := by
    rw [hitems]
    exact List.foldl_append
  have hdeferred : (firstState engine relay screen payloadHash state
      (sortItems items)).deferredItems =
      (firstState engine relay screen payloadHash state earlier).deferredItems ++
        pending :: rest := by
    rw [hall, ← hrest, hpending, List.append_assoc]
    rfl
  change (firstState engine relay screen payloadHash state (sortItems items)).deferredItems.foldl _
    { firstState engine relay screen payloadHash state (sortItems items) with
      deferredItems := [] } = _
  generalize hstart : ({ firstState engine relay screen payloadHash state (sortItems items) with
    deferredItems := [] } : BatchState Rows) = start
  rw [hdeferred, List.foldl_append]
  rfl

/-- For every batch pass 2 comes back to each item that pass 1 has deferred, and where it applies
the item, this leaves, whatever the database does with statements, the rows of an untouched copy
exactly when the references that the first attempt took out of the payload name the same rows as
then. -/
theorem deferred_item_applied_as_fresh {state : State Rows} {items earlier later : List Item}
    {item : Item} {pending : Pending} (hitems : sortItems items = earlier ++ item :: later)
    (hpending : (firstPass (receiver engine relay screen payloadHash)
        (firstState engine relay screen payloadHash state earlier) item).deferredItems =
      (firstState engine relay screen payloadHash state earlier).deferredItems ++ [pending])
    (happlied : (applyItem engine
      (retryState engine relay screen payloadHash state items
        (firstState engine relay screen payloadHash state earlier).deferredItems).db
      pending.table item.operation item.id pending.data
      (applyArgs (receiver engine relay screen payloadHash) pending)).2.2 = .ok) :
    (∃ rest : List Pending, receiveSyncData (receiver engine relay screen payloadHash) state items =
      rest.foldl (secondPass (receiver engine relay screen payloadHash))
        (secondPass (receiver engine relay screen payloadHash)
          (retryState engine relay screen payloadHash state items
            (firstState engine relay screen payloadHash state earlier).deferredItems) pending)) ∧
    ∃ fresh, screen item = .ok fresh ∧
      (SameRows engine
          (retryState engine relay screen payloadHash state items
            (firstState engine relay screen payloadHash state earlier).deferredItems).db
          pending.table item.operation item.id
          (applyArgs (receiver engine relay screen payloadHash) pending) pending.data fresh ↔
        SameReferences (firstState engine relay screen payloadHash state earlier).db
          (retryState engine relay screen payloadHash state items
            (firstState engine relay screen payloadHash state earlier).deferredItems).db
          pending.table fresh) := by
  obtain ⟨fresh, rows, hscreen, -, hdeferred⟩ := firstPass_deferred hpending
  exact ⟨receiveSyncData_retries hitems hpending, fresh, hscreen,
    applyItem_again_iff hdeferred happlied⟩

end Batches

/-- A database that adds a row for each statement, with the columns the example needs. -/
def addingEngine : Engine where
  currentServer := .iran
  registrationSyncV2 := false
  bind := fun _ _ value => some value
  resolveUser := fun _ _ _ _ => .missing
  versionedUser := fun _ _ _ _ _ => none
  tradingSettings := fun rows _ => (rows, .ok)
  execute := fun rows statement =>
    (fun table =>
      if table = statement.table then
        rows table ++ [⟨(rows table).length + 1,
          ["offer_public_id", "republished_offer_id", "trade_number", "offer_id"].filterMap
            fun column => (statement.fields column).map (column, ·)⟩]
      else rows table, .ok)
  delete := fun rows _ _ _ => (rows, .ok)

def republishedOffer : Item :=
  { table := some .offers, operation := .insert, id := .int 7,
    data := [("offer_public_id", .text "A"), ("republished_offer_public_id", .text "B")] }

def replacementOffer : Item :=
  { table := some .offers, operation := .insert, id := .int 8,
    data := [("offer_public_id", .text "B")] }

def tradeOnRepublished : Item :=
  { table := some .trades, operation := .insert, id := .int 9,
    data := [("trade_number", .int 10000), ("offer_public_id", .text "A")] }

def takesAll (item : Item) : Except String Payload := .ok item.data

def republishedBatch : List Item := [republishedOffer, replacementOffer, tradeOnRepublished]

theorem sortItems_republishedBatch : sortItems republishedBatch = republishedBatch := by
  apply List.mergeSort_of_pairwise
  decide

def emptyState : State Rows := ⟨fun _ => [], fun _ => none, []⟩

/-- The receiver of the example in pass 1, and in pass 2 after so many deferred items. -/
def exampleFirst (earlier : List Item) : BatchState Rows :=
  firstState addingEngine (fun _ => false) takesAll (fun _ _ _ _ => "") emptyState earlier

def exampleRetry (earlier : List Pending) : BatchState Rows :=
  retryState addingEngine (fun _ => false) takesAll (fun _ _ _ _ => "") emptyState republishedBatch
    earlier

theorem exampleRetry_eq (earlier : List Pending) : exampleRetry earlier = earlier.foldl
    (secondPass (receiver addingEngine (fun _ => false) takesAll fun _ _ _ _ => ""))
    { exampleFirst republishedBatch with deferredItems := [] } := by
  unfold exampleRetry retryState
  rw [sortItems_republishedBatch]
  rfl

/-- The trade waits for its offer and is then applied as if it had only come. -/
theorem tradeOnRepublished_applied_as_fresh :
    ∃ fresh, takesAll tradeOnRepublished = .ok fresh ∧
      SameRows addingEngine
        (exampleRetry (exampleFirst [republishedOffer, replacementOffer]).deferredItems).db
        .trades .insert (.int 9) none tradeOnRepublished.data fresh := by
  have happlied : (applyItem addingEngine
      (exampleRetry (exampleFirst [republishedOffer, replacementOffer]).deferredItems).db
      .trades .insert (.int 9) tradeOnRepublished.data none).2.2 = .ok := by
    rw [exampleRetry_eq]
    decide
  obtain ⟨-, fresh, hfresh, hiff⟩ := @deferred_item_applied_as_fresh addingEngine
    (fun _ => false) takesAll (fun _ _ _ _ => "") emptyState republishedBatch
    [republishedOffer, replacementOffer] [] tradeOnRepublished
    ⟨tradeOnRepublished, .trades, tradeOnRepublished.data, none⟩ sortItems_republishedBatch rfl
    happlied
  exact ⟨fresh, hfresh, hiff.mpr trivial⟩

/-- The republished offer is deferred for the offer it names and then applied without that name: an
untouched copy would have found it. -/
theorem republished_reference_lost :
    (firstPass (receiver addingEngine (fun _ => false) takesAll fun _ _ _ _ => "")
        (exampleFirst []) republishedOffer).deferredItems =
      [⟨republishedOffer, .offers, [("republished_offer_id", .null),
        ("offer_public_id", .text "A")], none⟩] ∧
    (applyItem addingEngine (exampleRetry []).db .offers .insert (.int 7)
        [("republished_offer_id", .null), ("offer_public_id", .text "A")] none).2.2 = .ok ∧
    (applyItem addingEngine (exampleRetry []).db .offers .insert (.int 7)
        [("republished_offer_id", .null), ("offer_public_id", .text "A")] none).1 .offers =
      [⟨1, [("offer_public_id", .text "B")]⟩,
       ⟨2, [("offer_public_id", .text "A"), ("republished_offer_id", .null)]⟩] ∧
    (applyItem addingEngine (exampleRetry []).db .offers .insert (.int 7)
        republishedOffer.data none).1 .offers =
      [⟨1, [("offer_public_id", .text "B")]⟩,
       ⟨2, [("offer_public_id", .text "A"), ("republished_offer_id", .int 1)]⟩] := by
  rw [exampleRetry_eq]
  refine ⟨rfl, ?_, ?_, ?_⟩ <;> decide

end TradingBot.Sync
