import TradingBot.Sync.Apply

/-!
# Localising a sync item twice

An item that pass 1 defers is localised again in pass 2, from the payload its first attempt left.
References still in the payload are translated afresh; those taken out keep what was found. When
does this give what an untouched payload gives?
-/

namespace TradingBot.Sync

open Misc

/-- Two payloads have the same entries but for those of the keys `off`. -/
def AgreeOff (off : String → Prop) (left right : Payload) : Prop :=
  ∀ key, ¬ off key → left.lookup key = right.lookup key

namespace AgreeOff

variable {off off' : String → Prop} {left right third : Payload}

theorem refl (off : String → Prop) (data : Payload) : AgreeOff off data data := fun _ _ => rfl

theorem symm (h : AgreeOff off left right) : AgreeOff off right left :=
  fun key hkey => (h key hkey).symm

theorem trans (h : AgreeOff off left right) (h' : AgreeOff off' right third) :
    AgreeOff (fun key => off key ∨ off' key) left third := by
  intro key hkey
  rw [not_or] at hkey
  exact (h key hkey.1).trans (h' key hkey.2)

theorem mono (h : AgreeOff off left right) (hsub : ∀ key, off key → off' key) :
    AgreeOff off' left right :=
  fun key hkey => h key fun hoff => hkey (hsub key hoff)

theorem get (h : AgreeOff off left right) {key : String} (hkey : ¬ off key) :
    left.get key = right.get key := by
  unfold Payload.get
  rw [h key hkey]

theorem set (h : AgreeOff (fun key => off key ∨ key = column) left right) (value : Value) :
    AgreeOff off (left.set column value) (right.set column value) := by
  intro key hkey
  rw [Payload.lookup_set, Payload.lookup_set]
  by_cases hcolumn : key = column
  · rw [if_pos hcolumn, if_pos hcolumn]
  · rw [if_neg hcolumn, if_neg hcolumn]
    exact h key fun hoff => hoff.elim hkey hcolumn

theorem pop (h : AgreeOff (fun key => off key ∨ key = column) left right) :
    AgreeOff off (left.pop column) (right.pop column) := by
  intro key hkey
  rw [Payload.lookup_pop, Payload.lookup_pop]
  by_cases hcolumn : key = column
  · rw [if_pos hcolumn, if_pos hcolumn]
  · rw [if_neg hcolumn, if_neg hcolumn]
    exact h key fun hoff => hoff.elim hkey hcolumn

theorem of_set (data : Payload) (column : String) (value : Value) (hoff : off column) :
    AgreeOff off (data.set column value) data := by
  intro key hkey
  rw [Payload.lookup_set, if_neg]
  intro hcolumn
  exact hkey (hcolumn ▸ hoff)

theorem of_pop (data : Payload) (column : String) (hoff : off column) :
    AgreeOff off (data.pop column) data := by
  intro key hkey
  rw [Payload.lookup_pop, if_neg]
  intro hcolumn
  exact hkey (hcolumn ▸ hoff)

end AgreeOff

/-! ## Localising twice -/

section References

variable {α : Type} {off : String → Prop} {left right data : Payload} {key column : String}
  {reference : Value → Option α}

theorem assignReference_agree {reference : Option α} (resolve : α → Resolved)
    (h : AgreeOff (fun name => off name ∨ name = column ∧ reference.isSome) left right)
    (hfound : (assignReference column reference resolve left).2 = .found) :
    (assignReference column reference resolve right).2 = .found ∧
      AgreeOff off (assignReference column reference resolve left).1
        (assignReference column reference resolve right).1 := by
  cases reference with
  | none =>
    refine ⟨rfl, h.mono ?_⟩
    rintro name (hoff | ⟨-, hsome⟩)
    · exact hoff
    · cases hsome
  | some named =>
    simp only [assignReference] at hfound ⊢
    cases hresolved : resolve named with
    | found id =>
      refine ⟨rfl, AgreeOff.set (h.mono ?_) _⟩
      rintro name (hoff | ⟨hname, -⟩)
      · exact Or.inl hoff
      · exact Or.inr hname
    | missing =>
      rw [hresolved] at hfound
      cases hfound
    | raised =>
      rw [hresolved] at hfound
      cases hfound

theorem assignReference_left (reference : Option α) (resolve : α → Resolved) (data : Payload) :
    AgreeOff (fun name => name = column ∧ reference.isSome)
      (assignReference column reference resolve data).1 data := by
  cases reference with
  | none => exact AgreeOff.refl _ _
  | some named =>
    simp only [assignReference]
    cases hresolved : resolve named with
    | found id => exact AgreeOff.of_set _ _ _ ⟨rfl, rfl⟩
    | missing => exact AgreeOff.refl _ _
    | raised => exact AgreeOff.refl _ _

theorem consumeReference_left (key column : String) (reference : Value → Option α)
    (resolve : α → Resolved) (data : Payload) :
    AgreeOff (fun name => name = key ∨ name = column ∧ (reference (data.get key)).isSome)
      (consumeReference key column reference resolve data).1 data := by
  intro name hname
  rw [not_or] at hname
  unfold consumeReference
  cases hreference : reference (data.get key) with
  | none =>
    rw [Payload.lookup_pop, if_neg hname.1]
  | some named =>
    have hcolumn : name ≠ column := by
      intro hcolumn
      rw [hreference] at hname
      exact hname.2 ⟨hcolumn, rfl⟩
    dsimp only
    cases resolve named with
    | found id => rw [Payload.lookup_set, if_neg hcolumn, Payload.lookup_pop, if_neg hname.1]
    | missing => rw [Payload.lookup_set, if_neg hcolumn, Payload.lookup_pop, if_neg hname.1]
    | raised => rw [Payload.lookup_pop, if_neg hname.1]

theorem consumeReference_frame (reference : Value → Option α) (resolve : α → Resolved)
    (data : Payload) {name : String} (hkey : name ≠ key) (hcolumn : name ≠ column) :
    (consumeReference key column reference resolve data).1.lookup name = data.lookup name :=
  consumeReference_left key column reference resolve data name
    fun hor => hor.elim hkey fun hand => hcolumn hand.1

theorem consumeReference_agree (resolve : α → Resolved)
    (h : AgreeOff off left right) (hkey : ¬ off key) :
    (consumeReference key column reference resolve left).2 =
        (consumeReference key column reference resolve right).2 ∧
      AgreeOff off (consumeReference key column reference resolve left).1
        (consumeReference key column reference resolve right).1 := by
  have hpop : AgreeOff off (left.pop key) (right.pop key) :=
    AgreeOff.pop (h.mono fun name hoff => Or.inl hoff)
  have hset : ∀ value, AgreeOff off ((left.pop key).set column value)
      ((right.pop key).set column value) := by
    intro value
    exact AgreeOff.set (hpop.mono fun name hoff => Or.inl hoff) value
  unfold consumeReference
  rw [h.get hkey]
  cases reference (right.get key) with
  | none => exact ⟨rfl, hpop⟩
  | some named =>
    dsimp only
    cases resolve named with
    | found id => exact ⟨rfl, hset _⟩
    | missing => exact ⟨rfl, hset _⟩
    | raised => exact ⟨rfl, hpop⟩

theorem consumeReference_get_key (reference : Value → Option α) (resolve : α → Resolved)
    (data : Payload) (hne : key ≠ column) :
    (consumeReference key column reference resolve data).1.get key = .null := by
  unfold consumeReference
  split
  · rw [Payload.get_pop, if_pos rfl]
  · split
    · rw [Payload.get_set, if_neg hne, Payload.get_pop, if_pos rfl]
    · rw [Payload.get_set, if_neg hne, Payload.get_pop, if_pos rfl]
    · rw [Payload.get_pop, if_pos rfl]

theorem consumeReference_gone (column : String) (resolve : α → Resolved)
    (hgone : left.get key = .null) (hnull : reference .null = none) :
    consumeReference key column reference resolve left = (left.pop key, .found) := by
  unfold consumeReference
  rw [hgone, hnull]

def ReferenceKept (named : Option α) (before after : α → Resolved) : Prop :=
  ∀ value, named = some value → ∃ id, before value = .found id ∧ after value = .found id

/-- A reference taken out of `data` is what an untouched copy would find exactly when it was found
then and names the same row now. `left` is the second attempt's payload, `right` the untouched
copy. -/
theorem consumeReference_iff {before : α → Resolved} (after : α → Resolved)
    (hfirst : (consumeReference key column reference before data).2 ≠ .raised)
    (hnamed : right.get key = data.get key) (hcolumn : ¬ off column) (hne : column ≠ key)
    (hleft : left.lookup column =
      (consumeReference key column reference before data).1.lookup column)
    (hsame : reference (data.get key) = none → data.lookup column = right.lookup column)
    (h : AgreeOff (fun name => off name ∨ name = key ∨ name = column) left right) :
    ((consumeReference key column reference after right).2 = .found ∧
      AgreeOff off (left.pop key) (consumeReference key column reference after right).1) ↔
    ReferenceKept (reference (data.get key)) before after := by
  -- off the column both sides agree once the key is gone
  have hpop : AgreeOff (fun name => off name ∨ name = column) (left.pop key) (right.pop key) := by
    apply AgreeOff.pop
    refine h.mono ?_
    rintro name (hoff | hkey | hcol)
    · exact Or.inl (Or.inl hoff)
    · exact Or.inr hkey
    · exact Or.inl (Or.inr hcol)
  unfold consumeReference at hfirst hleft ⊢
  rw [hnamed]
  cases hreference : reference (data.get key) with
  | none =>
    simp only [hreference] at hleft
    refine ⟨fun _ value hvalue => (by cases hvalue), fun _ => ⟨rfl, ?_⟩⟩
    intro name hname
    by_cases hcol : name = column
    · rw [hcol, Payload.lookup_pop, Payload.lookup_pop, if_neg hne, if_neg hne, hleft,
        Payload.lookup_pop, if_neg hne, hsame hreference]
    · exact hpop name fun hoff => hoff.elim hname hcol
  | some named =>
    simp only [hreference] at hfirst hleft
    dsimp only
    cases hafter : after named with
    | found id =>
      have hset : AgreeOff off (left.pop key) ((right.pop key).set column (.int id)) ↔
          left.lookup column = some (.int id) := by
        constructor
        · intro hagree
          have hlookup := hagree column hcolumn
          rw [Payload.lookup_pop, if_neg hne, Payload.lookup_set, if_pos rfl] at hlookup
          exact hlookup
        · intro hlookup name hname
          by_cases hcol : name = column
          · rw [hcol, Payload.lookup_pop, if_neg hne, Payload.lookup_set, if_pos rfl, hlookup]
          · rw [Payload.lookup_set, if_neg hcol]
            exact hpop name fun hoff => hoff.elim hname hcol
      dsimp only
      rw [hset, hleft]
      cases hbefore : before named with
      | found id' =>
        simp only [Payload.lookup_set, if_true, true_and, Option.some.injEq, Value.int.injEq]
        constructor
        · intro hid value hvalue
          cases hvalue
          exact ⟨id, hid ▸ hbefore, hafter⟩
        · intro hkept
          obtain ⟨kept, hfound, hfound'⟩ := hkept named rfl
          rw [hbefore] at hfound
          rw [hafter] at hfound'
          cases hfound
          cases hfound'
          rfl
      | missing =>
        simp only [Payload.lookup_set, if_true, Option.some.injEq, reduceCtorEq, and_false,
          false_iff]
        intro hkept
        obtain ⟨kept, hfound, -⟩ := hkept named rfl
        rw [hbefore] at hfound
        cases hfound
      | raised =>
        rw [hbefore] at hfirst
        exact absurd rfl hfirst
    | missing =>
      simp only [reduceCtorEq, false_and, false_iff]
      intro hkept
      obtain ⟨kept, -, hfound⟩ := hkept named rfl
      rw [hafter] at hfound
      cases hfound
    | raised =>
      simp only [reduceCtorEq, false_and, false_iff]
      intro hkept
      obtain ⟨kept, -, hfound⟩ := hkept named rfl
      rw [hafter] at hfound
      cases hfound

end References

@[simp] theorem andThen_found (first : Payload × Localized) :
    andThen first (fun data => (data, .found)) = first := by
  obtain ⟨data, outcome⟩ := first
  cases outcome <;> rfl

theorem andThen_of_found {first : Payload × Localized} {next : Payload → Payload × Localized}
    (hfound : first.2 = .found) : andThen first next = next first.1 := by
  obtain ⟨data, outcome⟩ := first
  cases hfound
  rfl

theorem andThen_of_not_found {first : Payload × Localized} {next : Payload → Payload × Localized}
    (hfound : first.2 ≠ .found) : andThen first next = first := by
  obtain ⟨data, outcome⟩ := first
  cases outcome with
  | found => exact absurd rfl hfound
  | missing => rfl
  | raised => rfl

theorem andThen_snd_found {first : Payload × Localized} {next : Payload → Payload × Localized}
    (hfound : (andThen first next).2 = .found) :
    first.2 = .found ∧ (next first.1).2 = .found := by
  by_cases hfirst : first.2 = .found
  · rw [andThen_of_found hfirst] at hfound
    exact ⟨hfirst, hfound⟩
  · rw [andThen_of_not_found hfirst] at hfound
    exact absurd hfound hfirst

section Tables

theorem localizeRegistrationUserReference_none (table : Table)
    (hfields : registrationUserReferenceFields table = none) (v2 : Bool)
    (resolveUser : Rows → Value → String → Value → Resolved) (rows : Rows) :
    localizeRegistrationUserReference v2 resolveUser rows table = fun data => (data, .found) := by
  funext data
  unfold localizeRegistrationUserReference
  rw [hfields]
  simp

variable (engine : Engine) (rows : Rows) (data : Payload)

theorem localize_trades : localize engine rows .trades data =
    andThen (localizeOfferReferenceByPublicId rows .trades data)
      (localizeCommodityReferenceByName rows .trades) := by
  have hnone := localizeRegistrationUserReference_none .trades rfl
  simp only [localize, reduceCtorEq, if_false, andThen_found, hnone]

theorem localize_offers : localize engine rows .offers data =
    andThen (localizeCommodityReferenceByName rows .offers data)
      (localizeRepublishedOfferReference rows) := by
  have hnone := localizeRegistrationUserReference_none .offers rfl
  simp only [localize, localizeOfferReferenceByPublicId, reduceCtorEq, if_true, if_false,
    andThen_found, hnone]
  rfl

theorem localize_offerRequests : localize engine rows .offerRequests data =
    andThen (localizeOfferReferenceByPublicId rows .offerRequests data) fun data =>
      andThen (localizeOfferRequestResultingTradeReference rows data)
        (localizeOfferRequestCustomerRelationReference rows) := by
  have hnone := localizeRegistrationUserReference_none .offerRequests rfl
  simp only [localize, localizeCommodityReferenceByName, reduceCtorEq, if_true, if_false,
    andThen_found, hnone]
  rfl

theorem localize_offerPublicationStates : localize engine rows .offerPublicationStates data =
    localizeOfferReferenceByPublicId rows .offerPublicationStates data := by
  have hnone := localizeRegistrationUserReference_none .offerPublicationStates rfl
  simp only [localize, localizeCommodityReferenceByName, reduceCtorEq, if_false, andThen_found,
    hnone]

theorem localize_commodityAliases : localize engine rows .commodityAliases data =
    localizeCommodityReferenceByName rows .commodityAliases data := by
  have hnone := localizeRegistrationUserReference_none .commodityAliases rfl
  simp only [localize, localizeOfferReferenceByPublicId, reduceCtorEq, if_false, andThen_found,
    hnone]
  rfl

theorem localize_tradeDeliveryReceipts : localize engine rows .tradeDeliveryReceipts data =
    localizeTradeDeliveryReceiptReferences rows data := by
  have hnone := localizeRegistrationUserReference_none .tradeDeliveryReceipts rfl
  simp only [localize, localizeOfferReferenceByPublicId, localizeCommodityReferenceByName,
    reduceCtorEq, if_true, if_false, andThen_found, hnone]
  rfl

theorem localize_of_users_only {table : Table} (htable : table ∉ [.trades, .offers, .offerRequests,
    .offerPublicationStates, .commodityAliases, .tradeDeliveryReceipts]) :
    localize engine rows table data =
      localizeRegistrationUserReference engine.registrationSyncV2 engine.resolveUser rows table
        data := by
  have hoffer : localizeOfferReferenceByPublicId rows table data = (data, .found) := by
    cases table <;> first | rfl | simp at htable
  have hcommodity : localizeCommodityReferenceByName rows table data = (data, .found) := by
    cases table <;> first | rfl | simp at htable
  simp only [List.mem_cons, List.not_mem_nil, or_false, not_or] at htable
  simp only [localize, hoffer, hcommodity, andThen, if_neg htable.2.1, if_neg htable.2.2.1,
    if_neg htable.2.2.2.2.2]

end Tables

/-! ## The second attempt -/

def writtenKeys (table : Table) (key : String) : Prop :=
  key = "id" ∨ table = .offers ∧ key = "channel_message_id"

/-- The second attempt at `left` localises as one at `data` would. -/
def LocalizedAlike (engine : Engine) (after : Rows) (table : Table) (left data : Payload) : Prop :=
  (localize engine after table data).2 = .found ∧
    AgreeOff (writtenKeys table) (localize engine after table left).1
      (localize engine after table data).1

section Again

variable {engine : Engine} {before after : Rows} {table : Table} {left data : Payload}

theorem assignReference_get_agree {α : Type} {off : String → Prop} {right : Payload}
    {key column : String} {reference : Value → Option α} {resolve : α → Resolved}
    (hkey : ¬ off key) (hne : key ≠ column)
    (h : AgreeOff (fun name => off name ∨ name = column ∧ (reference (right.get key)).isSome) left
      right)
    (hfound : (assignReference column (reference (left.get key)) resolve left).2 = .found) :
    (assignReference column (reference (right.get key)) resolve right).2 = .found ∧
      AgreeOff off (assignReference column (reference (left.get key)) resolve left).1
        (assignReference column (reference (right.get key)) resolve right).1 := by
  have hget : left.get key = right.get key := by
    apply h.get
    rintro (hoff | ⟨hcolumn, -⟩)
    · exact hkey hoff
    · exact hne hcolumn
  rw [hget] at hfound ⊢
  exact assignReference_agree resolve h hfound

theorem assignReference_again {α : Type} {off : String → Prop} {key column : String}
    {reference : Value → Option α} {first second : α → Resolved}
    (hkey : ¬ off key) (hne : key ≠ column)
    (hleft : AgreeOff off left (assignReference column (reference (data.get key)) first data).1)
    (hfound : (assignReference column (reference (left.get key)) second left).2 = .found) :
    (assignReference column (reference (data.get key)) second data).2 = .found ∧
      AgreeOff off (assignReference column (reference (left.get key)) second left).1
        (assignReference column (reference (data.get key)) second data).1 :=
  assignReference_get_agree hkey hne
    (hleft.trans (assignReference_left (reference (data.get key)) first data)) hfound

theorem offerPublicationStates_again (hleft : AgreeOff (writtenKeys .offerPublicationStates) left
      (localize engine before .offerPublicationStates data).1)
    (hfound : (localize engine after .offerPublicationStates left).2 = .found) :
    LocalizedAlike engine after .offerPublicationStates left data := by
  unfold LocalizedAlike
  simp only [localize_offerPublicationStates, localizeOfferReferenceByPublicId] at hleft hfound ⊢
  exact assignReference_again (by simp [writtenKeys]) (by decide) hleft hfound

theorem commodityAliases_again (hleft : AgreeOff (writtenKeys .commodityAliases) left
      (localize engine before .commodityAliases data).1)
    (hfound : (localize engine after .commodityAliases left).2 = .found) :
    LocalizedAlike engine after .commodityAliases left data := by
  unfold LocalizedAlike
  simp only [localize_commodityAliases, localizeCommodityReferenceByName] at hleft hfound ⊢
  exact assignReference_again (by simp [writtenKeys]) (by decide) hleft hfound

theorem trades_again
    (hleft : AgreeOff (writtenKeys .trades) left (localize engine before .trades data).1)
    (hfound : (localize engine after .trades left).2 = .found) :
    LocalizedAlike engine after .trades left data := by
  have hname : ∀ rows, (localizeOfferReferenceByPublicId rows .trades data).1.get "commodity_name" =
      data.get "commodity_name" := by
    intro rows
    refine (assignReference_left _ (resolveOfferIdByPublicId rows) data).get ?_
    rintro ⟨hcolumn, -⟩
    exact absurd hcolumn (by decide)
  unfold LocalizedAlike
  simp only [localize_trades] at hleft hfound ⊢
  obtain ⟨hoffer, hcommodity⟩ := andThen_snd_found hfound
  -- the commodity step of the first attempt touched at most the commodity
  have hmiddle : AgreeOff (fun key => writtenKeys .trades key ∨
      key = "commodity_id" ∧ (data.get "commodity_name").stringOrNone.isSome) left
      (localizeOfferReferenceByPublicId before .trades data).1 := by
    by_cases hfirst : (localizeOfferReferenceByPublicId before .trades data).2 = .found
    · rw [andThen_of_found hfirst] at hleft
      have hstep : AgreeOff (fun key => key = "commodity_id" ∧
          ((localizeOfferReferenceByPublicId before .trades data).1.get
            "commodity_name").stringOrNone.isSome)
          (localizeCommodityReferenceByName before .trades
            (localizeOfferReferenceByPublicId before .trades data).1).1
          (localizeOfferReferenceByPublicId before .trades data).1 := assignReference_left _ _ _
      rw [hname] at hstep
      exact hleft.trans hstep
    · rw [andThen_of_not_found hfirst] at hleft
      exact hleft.mono fun key hkey => Or.inl hkey
  have hoffers : (localizeOfferReferenceByPublicId after .trades data).2 = .found ∧
      AgreeOff (fun key => writtenKeys .trades key ∨
          key = "commodity_id" ∧ (data.get "commodity_name").stringOrNone.isSome)
        (localizeOfferReferenceByPublicId after .trades left).1
        (localizeOfferReferenceByPublicId after .trades data).1 :=
    assignReference_again (by simp [writtenKeys]) (by decide) hmiddle hoffer
  have hcommodities : (localizeCommodityReferenceByName after .trades
        (localizeOfferReferenceByPublicId after .trades data).1).2 = .found ∧
      AgreeOff (writtenKeys .trades)
        (localizeCommodityReferenceByName after .trades
          (localizeOfferReferenceByPublicId after .trades left).1).1
        (localizeCommodityReferenceByName after .trades
          (localizeOfferReferenceByPublicId after .trades data).1).1 := by
    apply assignReference_get_agree (by simp [writtenKeys]) (by decide) _ hcommodity
    rw [hname]
    exact hoffers.2
  rw [andThen_of_found hoffer, andThen_of_found hoffers.1]
  exact hcommodities

theorem tradeDeliveryReceipts_again (hleft : AgreeOff (writtenKeys .tradeDeliveryReceipts) left
      (localize engine before .tradeDeliveryReceipts data).1)
    (hfound : (localize engine after .tradeDeliveryReceipts left).2 = .found) :
    LocalizedAlike engine after .tradeDeliveryReceipts left data := by
  unfold LocalizedAlike
  simp only [localize_tradeDeliveryReceipts] at hleft hfound ⊢
  -- the first attempt touched at most the two columns
  have hdata : AgreeOff (fun key => (writtenKeys .tradeDeliveryReceipts key ∨ key = "offer_id") ∨
      key = "trade_id") left data := by
    intro key hkey
    simp only [not_or] at hkey
    rw [hleft key hkey.1.1]
    unfold localizeTradeDeliveryReceiptReferences
    split
    · simp [hkey.1.2, hkey.2]
    · split
      · rfl
      · split
        · rfl
        · simp [hkey.1.2, hkey.2]
  have hset : ∀ trade offer, AgreeOff (writtenKeys .tradeDeliveryReceipts)
      ((left.set "trade_id" trade).set "offer_id" offer)
      ((data.set "trade_id" trade).set "offer_id" offer) := by
    intro trade offer
    exact AgreeOff.set (AgreeOff.set hdata trade) offer
  have hget : left.get "trade_number" = data.get "trade_number" :=
    hdata.get (by simp [writtenKeys])
  unfold localizeTradeDeliveryReceiptReferences at hfound ⊢
  rw [hget] at hfound ⊢
  cases htrade : tradeReference (data.get "trade_number") with
  | none => exact ⟨rfl, hset _ _⟩
  | some number =>
    simp only [htrade] at hfound
    dsimp only
    cases hbound : bindInteger 32 number with
    | none =>
      rw [hbound] at hfound
      cases hfound
    | some bound =>
      simp only [hbound] at hfound
      dsimp only
      cases hrow : (after .trades).find? fun row => row.columns.get "trade_number" = bound with
      | none =>
        rw [hrow] at hfound
        cases hfound
      | some trade => exact ⟨rfl, hset _ _⟩

theorem foldl_set_agree {off : String → Prop} (value : String → Value) :
    ∀ (fields : List String) {left right : Payload},
      AgreeOff (fun key => off key ∨ key ∈ fields) left right →
      AgreeOff off (fields.foldl (fun data field => data.set field (value field)) left)
        (fields.foldl (fun data field => data.set field (value field)) right) := by
  intro fields
  induction fields with
  | nil =>
    intro left right h
    exact h.mono fun key hkey => hkey.elim id fun hmem => (by cases hmem)
  | cons field fields ih =>
    intro left right h
    apply ih
    apply AgreeOff.set
    refine h.mono ?_
    rintro key (hoff | hmem)
    · exact Or.inl (Or.inl hoff)
    · rcases List.mem_cons.mp hmem with hfield | hrest
      · exact Or.inr hfield
      · exact Or.inl (Or.inr hrest)

theorem foldl_set_left (value : String → Value) :
    ∀ (fields : List String) (data : Payload),
      AgreeOff (fun key => key ∈ fields)
        (fields.foldl (fun data field => data.set field (value field)) data) data := by
  intro fields
  induction fields with
  | nil => exact fun data => AgreeOff.refl _ _
  | cons field fields ih =>
    intro data
    have hset : AgreeOff (fun key => key = field) (data.set field (value field)) data :=
      AgreeOff.of_set _ _ _ rfl
    refine ((ih (data.set field (value field))).trans hset).mono ?_
    rintro key (hrest | hfield)
    · exact List.mem_cons_of_mem _ hrest
    · exact List.mem_cons.mpr (Or.inl hfield)

theorem localizeUserFields_left (resolve : String → Value → Resolved) :
    ∀ (fields : List String) (data : Payload),
      AgreeOff (fun key => key ∈ fields) (localizeUserFields resolve fields data).1 data := by
  intro fields
  induction fields with
  | nil => exact fun data => AgreeOff.refl _ _
  | cons field fields ih =>
    intro data
    unfold localizeUserFields
    by_cases hnull : data.get field = .null
    · rw [if_pos hnull]
      exact (ih data).mono fun key hkey => List.mem_cons_of_mem _ hkey
    · rw [if_neg hnull]
      cases resolve field (data.get field) with
      | found id =>
        have hset : AgreeOff (fun key => key = field) (data.set field (.int id)) data :=
          AgreeOff.of_set _ _ _ rfl
        refine ((ih (data.set field (.int id))).trans hset).mono ?_
        rintro key (hrest | hfield)
        · exact List.mem_cons_of_mem _ hrest
        · exact List.mem_cons.mpr (Or.inl hfield)
      | missing => exact AgreeOff.refl _ _
      | raised => exact AgreeOff.refl _ _

theorem registrationUserReferenceFields_apart {fields : List String}
    (hfields : registrationUserReferenceFields table = some fields) {key : String}
    (hkey : key ∈ ["status", "invitation_token", "_registration_user_references"]) :
    key ∉ fields ∧ ¬ writtenKeys table key := by
  simp only [List.mem_cons, List.not_mem_nil, or_false] at hkey
  cases table <;> simp only [registrationUserReferenceFields, reduceCtorEq, Option.some.injEq]
    at hfields
  all_goals
    subst hfields
    rcases hkey with rfl | rfl | rfl <;> simp [writtenKeys]

/-- The first attempt took the references to users out: the second succeeds only where it needs
none, on a terminal update of a relation that is here. -/
theorem registration_again {fields : List String}
    (hfields : registrationUserReferenceFields table = some fields)
    {resolveUser : Rows → Value → String → Value → Resolved}
    (hleft : AgreeOff (writtenKeys table) left
      (localizeRegistrationUserReference true resolveUser before table data).1)
    (hfound : (localizeRegistrationUserReference true resolveUser after table left).2 = .found) :
    (localizeRegistrationUserReference true resolveUser after table data).2 = .found ∧
      AgreeOff (writtenKeys table)
        (localizeRegistrationUserReference true resolveUser after table left).1
        (localizeRegistrationUserReference true resolveUser after table data).1 := by
  have happart : ∀ key ∈ ["status", "invitation_token", "_registration_user_references"],
      ¬ (writtenKeys table key ∨ key ∈ fields) := by
    intro key hkey
    obtain ⟨hfield, hwritten⟩ := registrationUserReferenceFields_apart hfields hkey
    exact fun hor => hor.elim hwritten hfield
  -- what the first attempt left, off the columns of users, is the payload without the references
  have hrest : AgreeOff (fun key => writtenKeys table key ∨ key ∈ fields) left
      (data.pop "_registration_user_references") := by
    refine hleft.trans ?_
    unfold localizeRegistrationUserReference
    simp only [if_true, hfields]
    split
    · exact foldl_set_left _ _ _
    · split
      · exact localizeUserFields_left _ _ _
      · exact AgreeOff.refl _ _
  have hgone : left.get "_registration_user_references" = .null := by
    rw [hrest.get (happart _ (by simp)), Payload.get_pop, if_pos rfl]
  have hterminal : terminalRelation after table left = terminalRelation after table data := by
    have hstatus : left.get "status" = data.get "status" := by
      rw [hrest.get (happart _ (by simp)), Payload.get_pop, if_neg (by decide)]
    have htoken : left.get "invitation_token" = data.get "invitation_token" := by
      rw [hrest.get (happart _ (by simp)), Payload.get_pop, if_neg (by decide)]
    unfold terminalRelation
    rw [hstatus, htoken]
  unfold localizeRegistrationUserReference at hfound ⊢
  simp only [if_true, hfields, hterminal, hgone, Value.isMapping, Bool.false_eq_true, if_false]
    at hfound ⊢
  cases hrelation : terminalRelation after table data with
  | none =>
    rw [hrelation] at hfound
    cases hfound
  | some relation =>
    refine ⟨rfl, foldl_set_agree _ fields ?_⟩
    apply AgreeOff.pop
    have hpop : AgreeOff (fun key => key = "_registration_user_references")
        (data.pop "_registration_user_references") data := AgreeOff.of_pop _ _ rfl
    exact hrest.trans hpop

def CommodityKnown (rows : Rows) (data : Payload) : Prop :=
  (localizeCommodityReferenceByName rows .offers data).2 = .found

theorem offers_again
    (hleft : AgreeOff (writtenKeys .offers) left (localize engine before .offers data).1)
    (hfirst : (localize engine before .offers data).2 ≠ .raised)
    (hfound : (localize engine after .offers left).2 = .found) :
    LocalizedAlike engine after .offers left data ↔
      (CommodityKnown before data →
        ReferenceKept (data.get "republished_offer_public_id").stringOrNone
          (resolveOfferIdByPublicId before) (resolveOfferIdByPublicId after)) := by
  unfold LocalizedAlike CommodityKnown
  simp only [localize_offers] at hleft hfirst hfound ⊢
  obtain ⟨hcommodity, hrepublished⟩ := andThen_snd_found hfound
  rw [andThen_of_found hcommodity]
  by_cases hknown : (localizeCommodityReferenceByName before .offers data).2 = .found
  · rw [andThen_of_found hknown] at hleft hfirst
    -- the commodity step touches the commodity only
    have hstep : ∀ rows payload, AgreeOff (fun key => key = "commodity_id")
        (localizeCommodityReferenceByName rows .offers payload).1 payload := by
      intro rows payload
      exact (assignReference_left _ _ payload).mono fun key hkey => hkey.1
    have hcolumn : ∀ rows payload, (localizeCommodityReferenceByName rows .offers payload).1.lookup
        "republished_offer_id" = payload.lookup "republished_offer_id" :=
      fun rows payload => hstep rows payload _ (by decide)
    have hkey : ∀ rows payload, (localizeCommodityReferenceByName rows .offers payload).1.get
        "republished_offer_public_id" = payload.get "republished_offer_public_id" :=
      fun rows payload => (hstep rows payload).get (by decide)
    have hdata : AgreeOff (fun key => (writtenKeys .offers key ∨
        key = "republished_offer_public_id" ∨ key = "republished_offer_id") ∨
        key = "commodity_id" ∧ (data.get "commodity_name").stringOrNone.isSome) left data := by
      have hconsumed := consumeReference_left "republished_offer_public_id" "republished_offer_id"
        Value.stringOrNone (resolveOfferIdByPublicId before)
        (localizeCommodityReferenceByName before .offers data).1
      refine ((hleft.trans hconsumed).trans (assignReference_left _ _ data)).mono ?_
      rintro key ((hwritten | hkey | ⟨hcolumn, -⟩) | hcommodity)
      · exact Or.inl (Or.inl hwritten)
      · exact Or.inl (Or.inr (Or.inl hkey))
      · exact Or.inl (Or.inr (Or.inr hcolumn))
      · exact Or.inr hcommodity
    have hagree : (localizeCommodityReferenceByName after .offers data).2 = .found ∧
        AgreeOff (fun key => writtenKeys .offers key ∨ key = "republished_offer_public_id" ∨
            key = "republished_offer_id")
          (localizeCommodityReferenceByName after .offers left).1
          (localizeCommodityReferenceByName after .offers data).1 :=
      assignReference_get_agree (by simp [writtenKeys]) (by decide) hdata hcommodity
    have hgone : (localizeCommodityReferenceByName after .offers left).1.get
        "republished_offer_public_id" = .null := by
      rw [hkey, hleft.get (by simp [writtenKeys])]
      exact consumeReference_get_key _ _ _ (by decide)
    have hsecond : localizeRepublishedOfferReference after
        (localizeCommodityReferenceByName after .offers left).1 =
        ((localizeCommodityReferenceByName after .offers left).1.pop
          "republished_offer_public_id", .found) := consumeReference_gone _ _ hgone rfl
    rw [andThen_of_found hagree.1, hsecond, ← hkey before data, imp_iff_right hknown]
    refine consumeReference_iff _ hfirst ?_ (by simp [writtenKeys]) (by decide) ?_ ?_ hagree.2
    · rw [hkey, hkey]
    · rw [hcolumn]
      exact hleft _ (by simp [writtenKeys])
    · intro _
      rw [hcolumn, hcolumn]
  · -- nothing was taken out: the first attempt stopped at the commodity
    rw [andThen_of_not_found hknown] at hleft
    have hagree : (localizeCommodityReferenceByName after .offers data).2 = .found ∧
        AgreeOff (writtenKeys .offers) (localizeCommodityReferenceByName after .offers left).1
          (localizeCommodityReferenceByName after .offers data).1 :=
      assignReference_again (by simp [writtenKeys]) (by decide) hleft hcommodity
    refine ⟨fun _ habsurd => absurd habsurd hknown, fun _ => ?_⟩
    rw [andThen_of_found hagree.1]
    have hconsume : (localizeRepublishedOfferReference after
          (localizeCommodityReferenceByName after .offers left).1).2 =
        (localizeRepublishedOfferReference after
          (localizeCommodityReferenceByName after .offers data).1).2 ∧
        AgreeOff (writtenKeys .offers)
          (localizeRepublishedOfferReference after
            (localizeCommodityReferenceByName after .offers left).1).1
          (localizeRepublishedOfferReference after
            (localizeCommodityReferenceByName after .offers data).1).1 :=
      consumeReference_agree _ hagree.2 (by simp [writtenKeys])
    exact ⟨hconsume.1 ▸ hrepublished, hconsume.2⟩

theorem requestOffer_found (rows : Rows) (data : Payload) :
    (localizeOfferReferenceByPublicId rows .offerRequests data).2 = .found := by
  unfold localizeOfferReferenceByPublicId
  dsimp only
  split
  · rfl
  · split <;> rfl

theorem requestOffer_left (rows : Rows) (data : Payload) :
    AgreeOff (fun key => key = "local_offer_id" ∧ (data.get "offer_public_id").stringOrNone.isSome)
      (localizeOfferReferenceByPublicId rows .offerRequests data).1 data := by
  unfold localizeOfferReferenceByPublicId
  dsimp only
  cases (data.get "offer_public_id").stringOrNone with
  | none => exact AgreeOff.refl _ _
  | some publicId =>
    dsimp only
    split <;> exact AgreeOff.of_set _ _ _ ⟨rfl, rfl⟩

theorem requestOffer_agree {off : String → Prop} {right : Payload} (rows : Rows)
    (hkey : ¬ off "offer_public_id") (h : AgreeOff (fun key => off key ∨
      key = "local_offer_id" ∧ (right.get "offer_public_id").stringOrNone.isSome) left right) :
    AgreeOff off (localizeOfferReferenceByPublicId rows .offerRequests left).1
      (localizeOfferReferenceByPublicId rows .offerRequests right).1 := by
  have hget : left.get "offer_public_id" = right.get "offer_public_id" :=
    h.get fun hor => hor.elim hkey fun hlocal => absurd hlocal.1 (by decide)
  unfold localizeOfferReferenceByPublicId
  rw [hget]
  cases hreference : (right.get "offer_public_id").stringOrNone with
  | none =>
    refine h.mono ?_
    rintro key (hoff | ⟨-, hsome⟩)
    · exact hoff
    · rw [hreference] at hsome
      cases hsome
  | some publicId =>
    dsimp only
    have hset : ∀ value, AgreeOff off (left.set "local_offer_id" value)
        (right.set "local_offer_id" value) := by
      intro value
      refine AgreeOff.set (h.mono ?_) value
      rintro key (hoff | ⟨hlocal, -⟩)
      · exact Or.inl hoff
      · exact Or.inr hlocal
    split <;> exact hset _

theorem ReferenceKept.first_found {α : Type} {key : String} {reference : Value → Option α}
    {first second : α → Resolved} {data : Payload} (column : String)
    (h : ReferenceKept (reference (data.get key)) first second) :
    (consumeReference key column reference first data).2 = .found := by
  unfold consumeReference
  cases hreference : reference (data.get key) with
  | none => rfl
  | some named =>
    obtain ⟨id, hfound, -⟩ := h named hreference
    simp only [hfound]

/-- Two references taken out of `data` one after the other; `left` and `right` are the second
attempt's payload and the untouched copy. -/
theorem consumeReference_twice_iff {α β : Type} {off : String → Prop} {right : Payload}
    {key key' column column' : String} {reference : Value → Option α}
    {reference' : Value → Option β} {first second : α → Resolved} {first' second' : β → Resolved}
    (hkeys : [key, column, key', column'].Nodup)
    (hoff : ∀ name ∈ [key, column, key', column'], ¬ off name)
    (hnull : reference .null = none) (hnull' : reference' .null = none)
    (hfirst : (andThen (consumeReference key column reference first data)
      (consumeReference key' column' reference' first')).2 ≠ .raised)
    (hleft : ∀ name ∈ [key, column, key', column'], left.lookup name =
      (andThen (consumeReference key column reference first data)
        (consumeReference key' column' reference' first')).1.lookup name)
    (hright : ∀ name ∈ [key, column, key', column'], data.lookup name = right.lookup name)
    (h : AgreeOff (fun name => (off name ∨ name = key' ∨ name = column') ∨
      name = key ∨ name = column) left right) :
    ((andThen (consumeReference key column reference second right)
        (consumeReference key' column' reference' second')).2 = .found ∧
      AgreeOff off
        (andThen (consumeReference key column reference second left)
          (consumeReference key' column' reference' second')).1
        (andThen (consumeReference key column reference second right)
          (consumeReference key' column' reference' second')).1) ↔
    ReferenceKept (reference (data.get key)) first second ∧
      ReferenceKept (reference' (data.get key')) first' second' := by
  simp only [List.nodup_cons, List.mem_cons, List.not_mem_nil, or_false, not_or,
    List.nodup_nil, not_false_iff, and_true] at hkeys
  obtain ⟨⟨hkc, hkk, hkc'⟩, ⟨hck, hcc⟩, hkc''⟩ := hkeys
  simp only [List.forall_mem_cons, List.not_mem_nil, false_implies, implies_true, and_true]
    at hoff hleft hright
  obtain ⟨hoffKey, hoffColumn, hoffKey', hoffColumn'⟩ := hoff
  obtain ⟨hleftKey, hleftColumn, hleftKey', hleftColumn'⟩ := hleft
  obtain ⟨hrightKey, hrightColumn, hrightKey', hrightColumn'⟩ := hright
  have get_eq : ∀ {name : String} {payload payload' : Payload},
      payload.lookup name = payload'.lookup name → payload.get name = payload'.get name := by
    intro name payload payload' hlookup
    unfold Payload.get
    rw [hlookup]
  have hnotRaised : (consumeReference key column reference first data).2 ≠ .raised := by
    intro hraised
    rw [andThen_of_not_found (by rw [hraised]; decide)] at hfirst
    exact hfirst hraised
  -- the second of the first attempt's steps touches neither the first key nor its column
  have hmiddle : ∀ name, name ≠ key' → name ≠ column' →
      (andThen (consumeReference key column reference first data)
        (consumeReference key' column' reference' first')).1.lookup name =
      (consumeReference key column reference first data).1.lookup name := by
    intro name hname hname'
    by_cases hfound : (consumeReference key column reference first data).2 = .found
    · rw [andThen_of_found hfound, consumeReference_frame _ _ _ hname hname']
    · rw [andThen_of_not_found hfound]
  have hgone : left.get key = .null := by
    rw [get_eq (hleftKey.trans (hmiddle key hkk hkc'))]
    exact consumeReference_get_key _ _ _ hkc
  rw [consumeReference_gone column _ hgone hnull]
  have htrade := consumeReference_iff second hnotRaised (get_eq hrightKey.symm)
    (fun hor => hor.elim hoffColumn fun hor => hor.elim hck hcc) (Ne.symm hkc)
    (hleftColumn.trans (hmiddle column hck hcc)) (fun _ => hrightColumn) h
  have hrelation : ReferenceKept (reference (data.get key)) first second →
      AgreeOff (fun name => off name ∨ name = key' ∨ name = column') (left.pop key)
        (consumeReference key column reference second right).1 →
      (((consumeReference key' column' reference' second'
          (consumeReference key column reference second right).1).2 = .found ∧
        AgreeOff off (consumeReference key' column' reference' second' (left.pop key)).1
          (consumeReference key' column' reference' second'
            (consumeReference key column reference second right).1).1) ↔
        ReferenceKept (reference' (data.get key')) first' second') := by
    intro hkept hagree
    have hfound := hkept.first_found column
    rw [andThen_of_found hfound] at hfirst hleftKey' hleftColumn'
    have hgone' : (left.pop key).get key' = .null := by
      rw [Payload.get_pop, if_neg (Ne.symm hkk), get_eq hleftKey']
      exact consumeReference_get_key _ _ _ hkc''
    rw [consumeReference_gone column' _ hgone' hnull']
    have hkey' : (consumeReference key column reference first data).1.get key' =
        data.get key' := get_eq (consumeReference_frame _ _ _ (Ne.symm hkk) (Ne.symm hck))
    rw [← hkey']
    refine consumeReference_iff _ hfirst ?_ hoffColumn' (Ne.symm hkc'') ?_ (fun _ => ?_) hagree
    · rw [hkey']
      exact (get_eq (consumeReference_frame _ _ _ (Ne.symm hkk) (Ne.symm hck))).trans
        (get_eq hrightKey').symm
    · rw [Payload.lookup_pop, if_neg (Ne.symm hkc')]
      exact hleftColumn'
    · rw [consumeReference_frame _ _ _ (Ne.symm hkc') (Ne.symm hcc),
        consumeReference_frame _ _ _ (Ne.symm hkc') (Ne.symm hcc), hrightColumn']
  constructor
  · rintro ⟨hfound, hagree⟩
    obtain ⟨hfoundKey, hfoundKey'⟩ := andThen_snd_found hfound
    rw [andThen_of_found hfoundKey] at hagree
    have hagreeKey : AgreeOff (fun name => off name ∨ name = key' ∨ name = column')
        (left.pop key) (consumeReference key column reference second right).1 := by
      intro name hname
      simp only [not_or] at hname
      have hlookup := hagree name hname.1
      simp only [andThen] at hlookup
      rw [consumeReference_frame _ _ _ hname.2.1 hname.2.2,
        consumeReference_frame _ _ _ hname.2.1 hname.2.2] at hlookup
      exact hlookup
    have hkept := htrade.mp ⟨hfoundKey, hagreeKey⟩
    exact ⟨hkept, (hrelation hkept hagreeKey).mp ⟨hfoundKey', hagree⟩⟩
  · rintro ⟨hkept, hkept'⟩
    obtain ⟨hfoundKey, hagreeKey⟩ := htrade.mpr hkept
    rw [andThen_of_found hfoundKey]
    exact (hrelation hkept hagreeKey).mpr hkept'

theorem offerRequests_again (hleft : AgreeOff (writtenKeys .offerRequests) left
      (localize engine before .offerRequests data).1)
    (hfirst : (localize engine before .offerRequests data).2 ≠ .raised) :
    LocalizedAlike engine after .offerRequests left data ↔
      ReferenceKept (tradeReference (data.get "resulting_trade_number"))
          (resolveTradeIdByTradeNumber before) (resolveTradeIdByTradeNumber after) ∧
        ReferenceKept (data.get "customer_relation_invitation_token").stringOrNone
          (resolveModelIdByText before .customerRelations "invitation_token")
          (resolveModelIdByText after .customerRelations "invitation_token") := by
  unfold LocalizedAlike
  simp only [localize_offerRequests, andThen_of_found (requestOffer_found _ _)] at hleft hfirst ⊢
  -- the offer step touches none of the consumed keys or their columns
  have hstep : ∀ rows payload, ∀ name ∈ ["resulting_trade_number", "resulting_trade_id",
      "customer_relation_invitation_token", "customer_relation_id"],
      (localizeOfferReferenceByPublicId rows .offerRequests payload).1.lookup name =
        payload.lookup name := by
    intro rows payload name hname
    apply requestOffer_left rows payload
    rintro ⟨hlocal, -⟩
    rw [hlocal] at hname
    exact absurd hname (by decide)
  have hget : ∀ name ∈ ["resulting_trade_number", "resulting_trade_id",
      "customer_relation_invitation_token", "customer_relation_id"],
      data.get name = (localizeOfferReferenceByPublicId before .offerRequests data).1.get name := by
    intro name hname
    unfold Payload.get
    rw [hstep before data name hname]
  have hconsumed : AgreeOff (fun name => (writtenKeys .offerRequests name ∨
      name = "customer_relation_invitation_token" ∨ name = "customer_relation_id") ∨
      name = "resulting_trade_number" ∨ name = "resulting_trade_id") left
      (localizeOfferReferenceByPublicId before .offerRequests data).1 := by
    intro name hname
    simp only [not_or] at hname
    rw [hleft name hname.1.1]
    by_cases htrade : (localizeOfferRequestResultingTradeReference before
        (localizeOfferReferenceByPublicId before .offerRequests data).1).2 = .found
    · rw [andThen_of_found htrade]
      exact (consumeReference_frame _ _ _ hname.1.2.1 hname.1.2.2).trans
        (consumeReference_frame _ _ _ hname.2.1 hname.2.2)
    · rw [andThen_of_not_found htrade]
      exact consumeReference_frame _ _ _ hname.2.1 hname.2.2
  have hagree := requestOffer_agree after (by simp [writtenKeys])
    (hconsumed.trans (requestOffer_left before data))
  rw [hget "resulting_trade_number" (by simp),
    hget "customer_relation_invitation_token" (by simp)]
  have htrade : ∀ rows, localizeOfferRequestResultingTradeReference rows =
      consumeReference "resulting_trade_number" "resulting_trade_id" tradeReference
        (resolveTradeIdByTradeNumber rows) := fun _ => rfl
  have hrelation : ∀ rows, localizeOfferRequestCustomerRelationReference rows =
      consumeReference "customer_relation_invitation_token" "customer_relation_id"
        Value.stringOrNone (resolveModelIdByText rows .customerRelations "invitation_token") :=
    fun _ => rfl
  simp only [htrade, hrelation] at hleft hfirst ⊢
  refine consumeReference_twice_iff (by decide) ?_ rfl rfl hfirst ?_ ?_ hagree
  · intro name hname hwritten
    rcases hwritten with hid | ⟨htable, -⟩
    · rw [hid] at hname
      exact absurd hname (by decide)
    · cases htable
  · intro name hname
    rw [hstep after left name hname]
    apply hleft
    rintro (hid | ⟨htable, -⟩)
    · rw [hid] at hname
      exact absurd hname (by decide)
    · cases htable
  · intro name hname
    rw [hstep before data name hname, hstep after data name hname]

/-- What the first attempt has taken out of the payload names the same rows before and after. -/
def SameReferences (before after : Rows) (table : Table) (data : Payload) : Prop :=
  match table with
  | .offers => CommodityKnown before data →
      ReferenceKept (data.get "republished_offer_public_id").stringOrNone
        (resolveOfferIdByPublicId before) (resolveOfferIdByPublicId after)
  | .offerRequests =>
      ReferenceKept (tradeReference (data.get "resulting_trade_number"))
        (resolveTradeIdByTradeNumber before) (resolveTradeIdByTradeNumber after) ∧
      ReferenceKept (data.get "customer_relation_invitation_token").stringOrNone
        (resolveModelIdByText before .customerRelations "invitation_token")
        (resolveModelIdByText after .customerRelations "invitation_token")
  | .chatMembers =>
      (localizeChatId before data).lookup "chat_id" = (localizeChatId after data).lookup "chat_id"
  | _ => True

theorem localize_again_of_users_only (htable : table ∉ [.trades, .offers, .offerRequests,
      .offerPublicationStates, .commodityAliases, .tradeDeliveryReceipts])
    (hleft : AgreeOff (writtenKeys table) left (localize engine before table data).1)
    (hfound : (localize engine after table left).2 = .found) :
    LocalizedAlike engine after table left data := by
  unfold LocalizedAlike
  simp only [localize_of_users_only engine _ _ htable] at hleft hfound ⊢
  cases hfields : registrationUserReferenceFields table with
  | none =>
    simp only [localizeRegistrationUserReference_none table hfields] at hleft ⊢
    exact ⟨trivial, hleft⟩
  | some fields =>
    cases hv2 : engine.registrationSyncV2 with
    | true =>
      rw [hv2] at hleft hfound
      exact registration_again hfields hleft hfound
    | false =>
      rw [hv2] at hleft
      simp only [localizeRegistrationUserReference, Bool.false_eq_true, if_false] at hleft ⊢
      exact ⟨trivial, hleft⟩

/-- The second attempt localises as an untouched copy exactly when the references are the same. -/
theorem localize_again (htable : table ≠ .chatMembers)
    (hleft : AgreeOff (writtenKeys table) left (localize engine before table data).1)
    (hfirst : (localize engine before table data).2 ≠ .raised)
    (hfound : (localize engine after table left).2 = .found) :
    LocalizedAlike engine after table left data ↔ SameReferences before after table data := by
  have htrue : LocalizedAlike engine after table left data →
      SameReferences before after table data = True →
      (LocalizedAlike engine after table left data ↔ SameReferences before after table data) := by
    intro halike hsame
    rw [hsame]
    exact ⟨fun _ => trivial, fun _ => halike⟩
  cases table with
  | chatMembers => exact absurd rfl htable
  | offers => exact offers_again hleft hfirst hfound
  | offerRequests => exact offerRequests_again hleft hfirst
  | trades => exact htrue (trades_again hleft hfound) rfl
  | offerPublicationStates => exact htrue (offerPublicationStates_again hleft hfound) rfl
  | commodityAliases => exact htrue (commodityAliases_again hleft hfound) rfl
  | tradeDeliveryReceipts => exact htrue (tradeDeliveryReceipts_again hleft hfound) rfl
  | _ => exact htrue (localize_again_of_users_only (by decide) hleft hfound) rfl

end Again

end TradingBot.Sync
