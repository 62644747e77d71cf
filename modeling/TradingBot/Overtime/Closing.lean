import TradingBot.Overtime.SeatFreed

/-!
# Closing the requests of an offer

An invalidation leaves no open request that its filter admits: a row open in memory is open in the
database, so the query finds it. The second half is about the offers: work on the ledger leaves them
alone, and an expiry ends those it names and no other.
-/

namespace TradingBot.Overtime

open TradingBot TradingBot.Misc

structure Seen (s : Session) : Prop where
  stored : ∀ t ∈ s.rows, t.live.isOpen = true → ∃ old, t.stored = some old ∧ old.isOpen = true ∧
    identity old = identity t.live
  ids : (s.live.map OfferRequest.id).Nodup

variable {offers : List Offer} {id : Nat} {f : RequestFilter} {ended ended' : Nat → Prop}
  {a b offer : Offer} {command : OfferExpiryCommand} {requireAuthority : Bool}

theorem seen_load {rows : List OfferRequest}
    (hids : (rows.map OfferRequest.id).Nodup) : Seen ⟨UnitOfWork.load rows, offers⟩ := by
  constructor
  · intro t ht hopen
    obtain ⟨r, _, rfl⟩ := List.mem_map.mp ht
    exact ⟨r, rfl, hopen, rfl⟩
  · rw [Session.live, UnitOfWork.live_load]
    exact hids

theorem seen_of_moves {s s' : Session} (hs : Seen s) (h : RowsMove Evolves s s') : Seen s' := by
  refine ⟨fun t' ht' hopen => ?_, ids_of_moves h hs.ids⟩
  obtain ⟨t, ht, hlive, hstored⟩ := h.exists_before ht'
  rcases hstored with hsame | ⟨r, hr, _, hto⟩
  · obtain ⟨old, hold, holdopen, hident⟩ := hs.stored t ht (hlive.isOpen_before hopen)
    exact ⟨old, hsame.trans hold, holdopen, hident.trans hlive.identity_eq.symm⟩
  · exact ⟨r, hr, hto.isOpen_before hopen, hto.identity_eq.symm⟩

abbrev EvolvesRows {α : Type} (m : Work α) : Prop :=
  Txn.Keeps (Spares (fun _ => False) (fun _ => True) Eq) m

theorem moves_of_ok {α : Type} {m : Work α} {s s' : Session} {a : α} (hm : EvolvesRows m)
    (h : m s = (.ok a, s')) : RowsMove Evolves s s' := by
  have hspares := hm s
  rw [h] at hspares
  exact (hspares fun _ _ hf => hf.elim).mono fun _ _ hw => hw.1

theorem permits_ending {ambient : Ambient} {d : Decision} (h : Ends d) :
    Permits (fun _ => False) Eq ambient id d := ⟨h, fun hf => hf.elim⟩

theorem mayInvalidate_any {ambient : Ambient} (f : RequestFilter) (reason : String) (now : Int) :
    LedgerRule.MayInvalidate (Guard (fun _ => False) (fun _ => True))
      (Permits (fun _ => False) Eq ambient) f reason now :=
  fun _ _ _ _ => permits_ending (ends_invalidation reason now)

theorem admits_of_identity {a b : OfferRequest}
    (hident : identity b = identity a) (hopen : a.isOpen = true) (h : f.admits b = true) :
    f.admits a = true := by
  obtain ⟨hkind, _, hoffer, hpublic, howner, hrequester, hhome⟩ := of_decide_eq_true h
  rw [field_eq_of_identity hident OfferRequest.workflowKind fun _ => rfl] at hkind
  rw [field_eq_of_identity hident OfferRequest.localOfferId fun _ => rfl] at hoffer
  rw [field_eq_of_identity hident OfferRequest.offerPublicId fun _ => rfl] at hpublic
  rw [field_eq_of_identity hident OfferRequest.offerOwnerUserId fun _ => rfl] at howner
  rw [field_eq_of_identity hident OfferRequest.requesterUserId fun _ => rfl] at hrequester
  rw [field_eq_of_identity hident OfferRequest.requestHomeServer fun _ => rfl] at hhome
  exact decide_eq_true ⟨hkind, hopen, hoffer, hpublic, howner, hrequester, hhome⟩

def Closed (f : RequestFilter) (s : Session) : Prop :=
  ∀ r ∈ s.live, r.isOpen = true → f.admits r = false

theorem Closed.of_moves {s s' : Session} (h : Closed f s)
    (hmoves : RowsMove Evolves s s') : Closed f s' := by
  intro r' hr' hopen
  obtain ⟨r, hr, hev⟩ := UnitOfWork.forall₂_exists_before hmoves.live_forall₂ r' hr'
  have hopen' := hev.isOpen_before hopen
  cases hadmits : f.admits r' with
  | false => rfl
  | true =>
    have hbefore := admits_of_identity hev.identity_eq hopen' hadmits
    rw [h r hr hopen'] at hbefore
    cases hbefore

/-! ## Invalidations -/

section Invalidations

variable {ambient : Ambient} {s s' : Session} {reason : String} {now : Int}

theorem invalidateRequest_closes {u : Unit} (hids : (s.live.map OfferRequest.id).Nodup)
    (h : invalidateRequest ambient id reason now false s = (.ok u, s')) :
    ∀ r ∈ s'.live, r.id = id → r.isOpen = false := by
  intro r hr hid
  have hclosed : ∀ ledger : OfferRequest, ledger.resultStatus ∈ terminalLike ∨
      ledger.resultStatus ∉ overtimeNonterminalStatuses → ledger.isOpen = false := by
    intro ledger hstatus
    unfold OfferRequest.isOpen
    revert hstatus
    cases ledger.resultStatus <;> decide
  simp only [invalidateRequest, Txn.bind_read] at h
  cases hrow : s.row? id with
  | none =>
    rw [hrow] at h
    cases h
    have hnot := List.find?_eq_none.mp hrow r hr
    simp [hid] at hnot
  | some ledger =>
    rw [hrow] at h
    dsimp only at h
    obtain ⟨hmem, hkey⟩ := mem_of_row? hrow
    split at h
    · cases h
      rw [eq_of_id_eq hids hr hmem (hid.trans hkey.symm)]
      exact hclosed ledger (.inl ‹_›)
    · split at h
      · cases h
        rw [eq_of_id_eq hids hr hmem (hid.trans hkey.symm)]
        exact hclosed ledger (.inr ‹_›)
      · obtain ⟨_, s1, happly, hflush⟩ := Txn.bind_ok.mp h
        cases hflush
        have hends := ends_invalidation reason now
        rw [← hkey] at happly
        obtain ⟨_, row, hrow', hstatus⟩ := applyOvertimeTransition_ended hends happly hids hmem
        have hids' := ids_of_transition hends.ne_presented happly hids
        obtain ⟨hmem', hkey'⟩ := mem_of_row? hrow'
        rw [eq_of_id_eq hids' hr hmem' ((hid.trans hkey.symm).trans hkey'.symm)]
        unfold OfferRequest.isOpen
        rw [hstatus]
        rfl

theorem invalidateRequest_evolves (id : Nat) (reason : String) (now : Int) (flush : Bool) :
    EvolvesRows (invalidateRequest ambient id reason now flush) :=
  (evolves_rule ambient).invalidateRequest flush (permits_ending (ends_invalidation reason now))

theorem invalidateRows_evolves (rows : List OfferRequest) :
    EvolvesRows (invalidateRows ambient reason now rows) :=
  (evolves_rule ambient).invalidateRows fun _ _ => permits_ending (ends_invalidation reason now)

theorem invalidateRows_closes : ∀ {rows : List OfferRequest} {s s' : Session}
    {ended : List OfferRequest}, (s.live.map OfferRequest.id).Nodup →
      invalidateRows ambient reason now rows s = (.ok ended, s') →
      ∀ row ∈ rows, ∀ r ∈ s'.live, r.id = row.id → r.isOpen = false := by
  intro rows
  induction rows with
  | nil =>
    intro s s' ended _ _ row hrow
    simp at hrow
  | cons head rows ih =>
    intro s s' ended hids h row hrow r hr hid
    unfold invalidateRows at h
    rw [Txn.bind_read] at h
    obtain ⟨_, s1, hhead, h⟩ := Txn.bind_ok.mp h
    rw [Txn.bind_read] at h
    obtain ⟨more, s2, hmore, hpure⟩ := Txn.bind_ok.mp h
    cases hpure
    have hids1 := ids_of_ok (invalidateRequest_evolves head.id reason now false) hhead hids
    rcases List.mem_cons.mp hrow with rfl | hrow
    · -- the rest of the loop only evolves the row that the first step closed
      have hmoves := moves_of_ok (invalidateRows_evolves rows) hmore
      obtain ⟨r1, hr1, hev⟩ := UnitOfWork.forall₂_exists_before hmoves.live_forall₂ r hr
      have hclosed := invalidateRequest_closes hids hhead r1 hr1 (hev.id_eq.symm.trans hid)
      cases hopen : r.isOpen with
      | false => rfl
      | true =>
        rw [hev.isOpen_before hopen] at hclosed
        cases hclosed
    · exact ih hids1 hmore row hrow r hr hid

theorem invalidateOvertimeRequests_closes {promoteNext : Bool}
    {lifetime : Option Int} {flush : Bool} {ended : List OfferRequest} (hs : Seen s)
    (h : invalidateOvertimeRequests ambient reason f now promoteNext lifetime flush s =
      (.ok ended, s')) : Closed f s' ∧ Seen s' := by
  have hmoves := moves_of_ok ((evolves_rule ambient).invalidateOvertimeRequests promoteNext
    lifetime flush (mayInvalidate_any f reason now)) h
  refine ⟨?_, seen_of_moves hs hmoves⟩
  obtain ⟨rows, s0, hlist, hwork⟩ := Txn.bind_ok.mp h
  obtain ⟨ended', s1, hrows, htail⟩ := Txn.bind_ok.mp hwork
  unfold listNonterminalOvertimeRequests at hlist
  split_ifs at hlist
  · cases hlist
    have hmoves1 := moves_of_ok (invalidateRows_evolves _) hrows
    have hclosed1 : Closed f s1 := by
      intro r1 hr1 hopen
      obtain ⟨r, hr, hev⟩ := UnitOfWork.forall₂_exists_before hmoves1.live_forall₂ r1 hr1
      cases hadmits : f.admits r1 with
      | false => rfl
      | true =>
        obtain ⟨t, ht, rfl⟩ := List.mem_map.mp hr
        obtain ⟨old, hold, holdopen, hident⟩ := hs.stored t ht (hev.isOpen_before hopen)
        have hselect : f.admits old = true := by
          refine admits_of_identity ?_ holdopen hadmits
          rw [hident]
          exact hev.identity_eq
        have hmem : t.live ∈ (s.select f.admits).insertionSort (fun a b => a.id ≤ b.id) :=
          (List.perm_insertionSort _ _).mem_iff.mpr
            (UnitOfWork.mem_select.mpr ⟨t, ht, rfl, old, hold, hselect⟩)
        rw [invalidateRows_closes hs.ids hrows t.live hmem r1 hr1 hev.id_eq] at hopen
        cases hopen
    have hrest : EvolvesRows (flushIf flush >>= fun _ =>
        promoteScopesIf ambient promoteNext lifetime now flush ended' >>= fun _ =>
        (pure ended' : Work (List OfferRequest))) :=
      Txn.keeps_bind ((evolves_rule ambient).flushIf flush) fun _ =>
        Txn.keeps_bind ((evolves_rule ambient).promoteScopesIf _ _ _ _ _) fun _ =>
          Txn.keeps_pure _
    exact hclosed1.of_moves (moves_of_ok hrest htail)
  · cases hlist

theorem invalidateForOffers_evolves (offers : List Offer) (normalMinutes : Int) :
    EvolvesRows (invalidateForOffers ambient reason now normalMinutes offers) :=
  (evolves_rule ambient).invalidateForOffers fun _ _ => mayInvalidate_any _ _ _

theorem invalidateForOffers_closes {normalMinutes : Int} : ∀ {offers : List Offer}
    {s s' : Session} {ended : List OfferRequest}, Seen s →
      invalidateForOffers ambient reason now normalMinutes offers s = (.ok ended, s') →
      ∀ offer ∈ offers, Closed (offerFilter ambient offer) s' := by
  intro offers
  induction offers with
  | nil =>
    intro s s' ended _ _ offer hoffer
    simp at hoffer
  | cons head offers ih =>
    intro s s' ended hs h offer hoffer
    obtain ⟨rows, s1, hfirst, h⟩ := Txn.bind_ok.mp h
    obtain ⟨more, s2, hrest, h⟩ := Txn.bind_ok.mp h
    cases h
    obtain ⟨hclosed, hs1⟩ := invalidateOvertimeRequests_closes hs hfirst
    rcases List.mem_cons.mp hoffer with rfl | hoffer
    · exact hclosed.of_moves (moves_of_ok (invalidateForOffers_evolves offers normalMinutes) hrest)
    · exact ih hs1 hrest offer hoffer

theorem invalidateOvertimeAfterOfferExpiry_closes {normalMinutes : Int} {u : Unit} (hs : Seen s)
    (h : invalidateOvertimeAfterOfferExpiry ambient offers reason now normalMinutes s =
      (.ok u, s')) : ∀ offer ∈ offers, Closed (offerFilter ambient offer) s' := by
  intro offer hoffer
  obtain ⟨ended, s1, hinvalidate, hpromote⟩ := Txn.bind_ok.mp h
  have hclosed := invalidateForOffers_closes hs hinvalidate offer hoffer
  exact hclosed.of_moves (moves_of_ok ((evolves_rule ambient).promoteScopes _ _ _ _) hpromote)

end Invalidations

/-! ## Offers -/

def SameOffers (s s' : Session) : Prop := s'.offers = s.offers

instance : IsPreorder Session SameOffers where
  refl _ := rfl
  trans _ _ _ h h' := h'.trans h

section SameOffers

variable {ambient : Ambient}

theorem flushSession_sameOffers : Txn.Keeps SameOffers flushSession := by
  intro s
  unfold flushSession
  split <;> rfl

theorem updateRow_sameOffers (id : Nat) (f : OfferRequest → OfferRequest) :
    Txn.Keeps SameOffers (updateRow id f) := fun _ => rfl

theorem applyOvertimeTransition_sameOffers (id : Nat) (d : Decision) :
    Txn.Keeps SameOffers (applyOvertimeTransition ambient id d) := by
  refine Txn.keeps_bind (Txn.keeps_read _) fun ledger? => ?_
  cases ledger? with
  | none => exact Txn.keeps_raise _
  | some ledger =>
    dsimp only
    cases transitionRow ambient.utcNow ledger d with
    | error e => exact Txn.keeps_raise e
    | ok row => exact updateRow_sameOffers id _

theorem sameOffers_promoteRule : PromoteRule ambient (fun _ => True) SameOffers where
  writes :=
    { flush := flushSession_sameOffers
      decides := fun _ => applyOvertimeTransition_sameOffers _ _ }
  select _ := .inl trivial
  deliver _ := applyOvertimeTransition_sameOffers _ _ _
  present _ _ := Txn.keeps_bind (updateRow_sameOffers _ _) fun _ =>
    applyOvertimeTransition_sameOffers _ _
  job _ _ := updateRow_sameOffers _ _

theorem sameOffers_rule (ambient : Ambient) :
    LedgerRule ambient (fun _ => True) (fun _ _ => True) SameOffers where
  flush := flushSession_sameOffers
  decides _ := applyOvertimeTransition_sameOffers _ _
  outside h := absurd trivial h
  promote := sameOffers_promoteRule.promoteNextForOwner

theorem markPresented_sameOffers (id : Nat) (stamp : Int) (message : Option Int) (flush : Bool) :
    Txn.Keeps SameOffers (markPresented ambient id stamp message flush) :=
  (sameOffers_rule ambient).markPresented flush
    (Txn.keeps_bind (updateRow_sameOffers _ _) fun _ =>
      Txn.keeps_bind (updateRow_sameOffers _ _) fun _ => applyOvertimeTransition_sameOffers _ _)

theorem offers_of_ok {α : Type} {m : Work α} {s s' : Session} {a : α}
    (hm : Txn.Keeps SameOffers m) (h : m s = (.ok a, s')) : s'.offers = s.offers := by
  have hsame := hm s
  rw [h] at hsame
  exact hsame

theorem createOvertimeRequest_offers {command : OvertimeRequestCreateCommand} {flush : Bool}
    {now : Int} {s s' : Session} {result : OvertimeRequestResult}
    (h : createOvertimeRequest ambient command flush now s = (.ok result, s')) :
    s'.offers = s.offers := by
  obtain ⟨_, _, _, _, ⟨_, _, _, rfl⟩ | ⟨_, _, _, _, _, _, hflush, hpromote, _⟩⟩ :=
    createOvertimeRequest_ok h
  · rfl
  · have hflushed := offers_of_ok ((sameOffers_rule ambient).flushIf flush) hflush
    exact (offers_of_ok ((sameOffers_rule ambient).promote _ _ _ _ _) hpromote).trans hflushed

end SameOffers

/-- An offer keeps its keys and its home, and its status unless it is one of `ended`. -/
def OfferMoves (ended : Nat → Prop) (a b : Offer) : Prop :=
  b.id = a.id ∧ b.offerPublicId = a.offerPublicId ∧ b.homeServer = a.homeServer ∧
    (b.status = a.status ∨ ended a.id)

theorem OfferMoves.refl (ended : Nat → Prop) (a : Offer) : OfferMoves ended a a :=
  ⟨rfl, rfl, rfl, .inl rfl⟩

theorem OfferMoves.trans {c : Offer} (h : OfferMoves ended a b)
    (h' : OfferMoves ended b c) : OfferMoves ended a c := by
  obtain ⟨hid, hpublic, hhome, hstatus⟩ := h
  obtain ⟨hid', hpublic', hhome', hstatus'⟩ := h'
  refine ⟨hid'.trans hid, hpublic'.trans hpublic, hhome'.trans hhome, ?_⟩
  rcases hstatus' with hsame' | hended'
  · rcases hstatus with hsame | hended
    · exact .inl (hsame'.trans hsame)
    · exact .inr hended
  · rw [hid] at hended'
    exact .inr hended'

theorem OfferMoves.mono (h : ∀ id, ended id → ended' id)
    (hmoves : OfferMoves ended a b) : OfferMoves ended' a b :=
  ⟨hmoves.1, hmoves.2.1, hmoves.2.2.1, hmoves.2.2.2.imp id (h a.id)⟩

theorem offerIds_of_forall₂ {offers' : List Offer}
    (h : List.Forall₂ (OfferMoves ended) offers offers') :
    offers'.map Offer.id = offers.map Offer.id := by
  induction h with
  | nil => rfl
  | cons hoffer _ ih => simp [hoffer.1, ih]

theorem offersMove_trans {a b c : List Offer}
    (h : List.Forall₂ (OfferMoves ended) a b) (h' : List.Forall₂ (OfferMoves ended) b c) :
    List.Forall₂ (OfferMoves ended) a c :=
  UnitOfWork.forall₂_trans (R := OfferMoves ended) (S := OfferMoves ended) (T := OfferMoves ended)
    (fun _ _ _ => OfferMoves.trans) h h'

/-- From offers with unique keys, only those of `ended` end. -/
def OffersEnd (ended : Nat → Prop) (s s' : Session) : Prop :=
  (s.offers.map Offer.id).Nodup → List.Forall₂ (OfferMoves ended) s.offers s'.offers

instance (ended : Nat → Prop) : IsPreorder Session (OffersEnd ended) where
  refl s := fun _ => List.forall₂_same.mpr fun a _ => .refl ended a
  trans a b c h h' := by
    intro hids
    have hab := h hids
    have hbc := h' (by rw [offerIds_of_forall₂ hab]; exact hids)
    exact offersMove_trans hab hbc

theorem OffersEnd.of_same {s s' : Session} (h : SameOffers s s') :
    OffersEnd ended s s' := by
  intro _
  rw [h]
  exact List.forall₂_same.mpr fun a _ => .refl ended a

theorem OffersEnd.mono (h : ∀ id, ended id → ended' id)
    {s s' : Session} (hends : OffersEnd ended s s') : OffersEnd ended' s s' :=
  fun hids => (hends hids).imp fun _ _ hmoves => hmoves.mono h

theorem offer?_mem {s : Session} (h : s.offer? id = some offer) :
    offer ∈ s.offers ∧ offer.id = id := by
  have hid := List.find?_some h
  exact ⟨List.mem_of_find?_eq_some h, by simpa using hid⟩

theorem offer?_of_mem {s : Session} (hids : (s.offers.map Offer.id).Nodup)
    (h : offer ∈ s.offers) : s.offer? offer.id = some offer := by
  unfold Session.offer?
  cases hfind : s.offers.find? (fun o => decide (o.id = offer.id)) with
  | none =>
    have hnot := List.find?_eq_none.mp hfind offer h
    simp at hnot
  | some found =>
    have hid : found.id = offer.id := by simpa using List.find?_some hfind
    rw [List.inj_on_of_nodup_map hids (List.mem_of_find?_eq_some hfind) h hid]

theorem updateOffer_ends {f : Offer → Offer} {s : Session}
    (h : ∀ o ∈ s.offers, o.id = id → OfferMoves ended o (f o)) :
    OffersEnd ended s (updateOffer id f s).2 := by
  intro _
  simp only [updateOffer, Txn.modify_apply]
  rw [List.forall₂_map_right_iff]
  refine List.forall₂_same.mpr fun o ho => ?_
  split
  · exact h o ho ‹_›
  · exact .refl ended o

theorem expireOfferRow_ends {ambient : Ambient} {now : Int} (hid : ended id) :
    Txn.Keeps (OffersEnd ended) (expireOfferRow ambient command now requireAuthority id) := by
  refine Txn.keeps_bind_read fun s => ?_
  cases hoffer : s.offer? id with
  | none => exact refl_of (OffersEnd ended) s
  | some offer =>
    dsimp only
    cases hexpiry : applyOfferExpiry ambient.currentServer offer command now requireAuthority with
    | error e => cases e <;> exact refl_of (OffersEnd ended) s
    | ok after =>
      obtain ⟨_, hkey, hpublic, hhome, _⟩ := applyOfferExpiry_ok hexpiry
      obtain ⟨hmem, hofferid⟩ := offer?_mem hoffer
      intro hids
      refine updateOffer_ends (fun o ho hoid => ?_) hids
      have hsame : o = offer := List.inj_on_of_nodup_map hids ho hmem (hoid.trans hofferid.symm)
      subst hsame
      exact ⟨hkey, hpublic, hhome, .inr (hoid ▸ hid)⟩

theorem expireActiveOffers_ends {ambient : Ambient} {now : Int} : ∀ {ids expired : List Nat} {s s' : Session},
      expireActiveOffers ambient command now requireAuthority ids s = (.ok expired, s') →
      OffersEnd (· ∈ expired) s s' := by
  intro ids
  induction ids with
  | nil =>
    intro expired s s' h
    cases h
    exact refl_of (OffersEnd _) s
  | cons id ids ih =>
    intro expired s s' h
    unfold expireActiveOffers at h
    rw [Txn.bind_read] at h
    split at h
    · obtain ⟨_, s1, hone, h⟩ := Txn.bind_ok.mp h
      obtain ⟨more, s2, hmore, hpure⟩ := Txn.bind_ok.mp h
      cases hpure
      have hkeeps : Txn.Keeps (OffersEnd (· ∈ id :: more))
          (expireOfferRow ambient command now requireAuthority id) :=
        expireOfferRow_ends List.mem_cons_self
      have hfirst := hkeeps s
      rw [hone] at hfirst
      exact trans_of (OffersEnd _) hfirst
        ((ih hmore).mono fun _ hmem => List.mem_cons_of_mem _ hmem)
    · split at h
      · cases h
      · exact ih h

/-! ## Operations that end offers -/

/-- The offers of `ended` may end, and those that have such a key have no open request left. -/
structure EndsClosed (ambient : Ambient) (ended : Nat → Prop) (s s' : Session) : Prop where
  offers : OffersEnd ended s s'
  closed : (s.offers.map Offer.id).Nodup → ∀ offer ∈ s'.offers, ended offer.id →
    Closed (offerFilter ambient offer) s'

section Ending

variable {ambient : Ambient} {s s' : Session} {u : Unit} {normalMinutes : Int}
  {ledger : OfferRequest} {offerId : Nat}

theorem OffersEnd.nodup (h : OffersEnd ended s s')
    (hids : (s.offers.map Offer.id).Nodup) : (s'.offers.map Offer.id).Nodup := by
  rw [offerIds_of_forall₂ (h hids)]
  exact hids

theorem invalidateOvertimeAfterOfferExpiry_sameOffers (offers : List Offer) (reason : String)
    (now normalMinutes : Int) : Txn.Keeps SameOffers
      (invalidateOvertimeAfterOfferExpiry ambient offers reason now normalMinutes) :=
  (sameOffers_rule ambient).invalidateOvertimeAfterOfferExpiry fun _ _ _ _ _ _ => trivial

theorem endsClosed_of_expired {reason : String} {now : Int} {s1 : Session} (hs1 : Seen s1)
    (hends : OffersEnd ended s s1)
    (hlisted : (s1.offers.map Offer.id).Nodup → ∀ offer ∈ s1.offers, ended offer.id →
      offer ∈ offers)
    (h : invalidateOvertimeAfterOfferExpiry ambient offers reason now normalMinutes s1 =
      (.ok u, s')) : EndsClosed ambient ended s s' := by
  have hsame := offers_of_ok
    (invalidateOvertimeAfterOfferExpiry_sameOffers offers reason now normalMinutes) h
  refine ⟨trans_of (OffersEnd ended) hends (.of_same hsame), fun hids offer hoffer hended => ?_⟩
  rw [hsame] at hoffer
  exact invalidateOvertimeAfterOfferExpiry_closes hs1 h offer
    (hlisted (hends.nodup hids) offer hoffer hended)

theorem seen_of_sameRows (hs : Seen s) (h : SameRows s s') : Seen s' := by
  have hlive : s'.live = s.live := congrArg UnitOfWork.live h
  refine ⟨?_, ?_⟩
  · rw [h]
    exact hs.stored
  · rw [hlive]
    exact hs.ids

theorem expireOfferRow_ok {now : Int}
      (h : expireOfferRow ambient command now requireAuthority id s =
      (.ok u, s')) : OffersEnd (· = id) s s' ∧ SameRows s s' := by
  have hends : Txn.Keeps (OffersEnd (· = id))
      (expireOfferRow ambient command now requireAuthority id) := expireOfferRow_ends rfl
  have hends := hends s
  have hkeeps : Txn.Keeps SameRows (expireOfferRow ambient command now requireAuthority id) :=
    expireOfferRow_sameRows command now requireAuthority id
  have hrows := hkeeps s
  rw [h] at hends hrows
  exact ⟨hends, hrows⟩

theorem expireOfferAuthoritatively_endsClosed {now : Int} (hs : Seen s)
    (h : expireOfferAuthoritatively ambient id command now normalMinutes requireAuthority s =
      (.ok u, s')) : EndsClosed ambient (· = id) s s' := by
  obtain ⟨_, s1, hexpire, h⟩ := Txn.bind_ok.mp h
  rw [Txn.bind_read] at h
  obtain ⟨hends, hrows⟩ := expireOfferRow_ok hexpire
  refine endsClosed_of_expired (seen_of_sameRows hs hrows) hends ?_ h
  rintro hids offer hoffer rfl
  rw [offer?_of_mem hids hoffer]
  exact List.mem_singleton.mpr rfl

theorem expireOffersAuthoritatively_endsClosed {ids : List Nat} {now : Int} (hs : Seen s)
    (h : expireOffersAuthoritatively ambient ids command now normalMinutes requireAuthority s =
      (.ok u, s')) : ∃ expired : List Nat, EndsClosed ambient (· ∈ expired) s s' := by
  obtain ⟨expired, s1, hexpire, h⟩ := Txn.bind_ok.mp h
  rw [Txn.bind_read] at h
  have hkeeps : Txn.Keeps SameRows
      (expireActiveOffers ambient command now requireAuthority ids) :=
    expireActiveOffers_sameRows command now requireAuthority ids
  have hrows := hkeeps s
  rw [hexpire] at hrows
  refine ⟨expired, endsClosed_of_expired (seen_of_sameRows hs hrows)
    (expireActiveOffers_ends hexpire) ?_ h⟩
  intro hids offer hoffer hended
  exact List.mem_filterMap.mpr ⟨offer.id, hended, offer?_of_mem hids hoffer⟩

theorem finalizeOutageRecovery_ends {mode : Server} {candidates : List Nat} {now : Int} :
    Txn.Keeps (OffersEnd (· ∈ candidates)) (finalizeOutageRecovery ambient mode candidates now) :=
  Txn.keeps_each fun _ hid => expireOfferRow_ends hid

theorem offerFilter_congr (hid : b.id = a.id)
    (hpublic : b.offerPublicId = a.offerPublicId) (hhome : b.homeServer = a.homeServer) :
    offerFilter ambient b = offerFilter ambient a := by
  unfold offerFilter
  rw [hid, hpublic, hhome]

theorem finalizeOvertimeTradeSideEffects_endsClosed {stamp : Int} (hs : Seen s)
    (h : finalizeOvertimeTradeSideEffects ambient ledger offerId normalMinutes stamp s =
      (.ok u, s')) : EndsClosed ambient (· = offerId) s s' := by
  unfold finalizeOvertimeTradeSideEffects at h
  rw [Txn.bind_read] at h
  cases hoffer : s.offer? offerId with
  | none =>
    rw [hoffer] at h
    cases h
    refine ⟨refl_of (OffersEnd _) s, fun hids offer hmem hid => ?_⟩
    have hid : offer.id = offerId := hid
    have hfound := offer?_of_mem hids hmem
    rw [hid, hoffer] at hfound
    cases hfound
  | some offer =>
    rw [hoffer] at h
    dsimp only at h
    obtain ⟨_, s1, hexpire, h⟩ := Txn.bind_ok.mp h
    obtain ⟨ended, s2, hinvalidate, h⟩ := Txn.bind_ok.mp h
    have hends1 : OffersEnd (· = offerId) s s1 ∧ SameRows s s1 := by
      split_ifs at hexpire
      · exact expireOfferRow_ok hexpire
      · cases hexpire
        exact ⟨refl_of (OffersEnd _) s, rfl⟩
    obtain ⟨hclosed, _⟩ :=
      invalidateOvertimeRequests_closes (seen_of_sameRows hs hends1.2) hinvalidate
    have hsame2 : s2.offers = s1.offers := offers_of_ok
      ((sameOffers_rule ambient).invalidateOvertimeRequests _ _ _ fun _ _ _ _ => trivial)
      hinvalidate
    -- the promotion that follows neither changes an offer nor opens a request
    have hrest : s'.offers = s2.offers ∧ RowsMove Evolves s2 s' := by
      cases howner : ledger.offerOwnerUserId with
      | none =>
        rw [howner] at h
        cases h
        exact ⟨rfl, UnitOfWork.moves_refl _⟩
      | some owner =>
        rw [howner] at h
        obtain ⟨promoted, s3, hpromote, hpure⟩ := Txn.bind_ok.mp h
        cases hpure
        exact ⟨offers_of_ok ((sameOffers_rule ambient).promote _ _ _ _ _) hpromote,
          moves_of_ok ((evolves_rule ambient).promote _ _ _ _ _) hpromote⟩
    refine ⟨trans_of (OffersEnd _) hends1.1 (.of_same (hrest.1.trans hsame2)),
      fun hids after hmem hid => ?_⟩
    rw [hrest.1, hsame2] at hmem
    obtain ⟨before, hbefore, hkey, hpublic, hhome, _⟩ :=
      UnitOfWork.forall₂_exists_before (hends1.1 hids) after hmem
    have hid : after.id = offerId := hid
    obtain ⟨hmem0, hid0⟩ := offer?_mem hoffer
    have hsame : before = offer :=
      List.inj_on_of_nodup_map hids hbefore hmem0 (by rw [hid0, ← hkey, hid])
    subst hsame
    rw [offerFilter_congr hkey hpublic hhome]
    exact hclosed.of_moves hrest.2

theorem approveRequest_endsClosed {tradeId decidedBy : Nat} {now : Int}
    (hs : Seen s) (hledger : s.row? id = some ledger) (hoffer : ledger.localOfferId = some offerId)
    (h : approveRequest ambient id tradeId decidedBy normalMinutes now s = (.ok u, s')) :
    EndsClosed ambient (· = offerId) s s' := by
  unfold approveRequest at h
  rw [Txn.bind_read, hledger] at h
  dsimp only at h
  obtain ⟨_, s1, hcomplete, h⟩ := Txn.bind_ok.mp h
  rw [hoffer] at h
  dsimp only at h
  obtain ⟨_, s2, hflag, h⟩ := Txn.bind_ok.mp h
  have hmoves1 := moves_of_ok
    ((evolves_rule ambient).decides (permits_ending (ends_tradeCompletion _ _ _))) hcomplete
  have hoffers1 : s1.offers = s.offers :=
    offers_of_ok (applyOvertimeTransition_sameOffers _ _) hcomplete
  have hflags : OffersEnd (· = offerId) s1
      (updateOffer offerId (fun o => { o with overtimeTradeCommitted := true }) s1).2 :=
    updateOffer_ends fun o _ _ => ⟨rfl, rfl, rfl, .inl rfl⟩
  rw [hflag] at hflags
  have hrows2 : SameRows s1 s2 := by
    have hrows := congrArg (fun p => p.2.rows) hflag
    exact hrows.symm
  have hs2 := seen_of_sameRows (seen_of_moves hs hmoves1) hrows2
  obtain ⟨hends, hclosed⟩ := finalizeOvertimeTradeSideEffects_endsClosed hs2 h
  have hfirst : OffersEnd (· = offerId) s s2 := trans_of (OffersEnd _) (.of_same hoffers1) hflags
  exact ⟨trans_of (OffersEnd _) hfirst hends, fun hids => hclosed (hfirst.nodup hids)⟩

end Ending

end TradingBot.Overtime
