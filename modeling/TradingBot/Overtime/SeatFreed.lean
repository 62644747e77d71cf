import TradingBot.Overtime.Seat
import Mathlib.Data.List.Dedup

/-!
# Freeing the owner's decision seat

An operation that ends an owner's delivering or presented request, flushes and then promotes hands
the seat over. The deadline sweeps and the repairs do not: they promote before anything is flushed,
or not at all. `endsWithoutPromotion` names the requests ended in this way.
-/

namespace TradingBot.Overtime

open TradingBot TradingBot.Misc

/-! ## Rows that stay, rows that end -/

structure Coherent (s : Session) : Prop where
  stored : ∀ t ∈ s.rows, ∀ old, t.stored = some old → identity old = identity t.live
  ids : (s.live.map OfferRequest.id).Nodup

theorem InStep.coherent {s : Session} (h : InStep s) : Coherent s := by
  refine ⟨fun t ht old hold => ?_, h.ids⟩
  obtain ⟨old', hold', _, hident⟩ := h.stored t ht
  rw [hold] at hold'
  injection hold' with hold'
  rw [hold']
  exact hident

theorem coherent_of_moves {s s' : Session} (hs : Coherent s) (h : RowsMove Evolves s s') :
    Coherent s' := by
  refine ⟨fun t' ht' old hold => ?_, ids_of_moves h hs.ids⟩
  obtain ⟨t, ht, hlive, hstored⟩ := h.exists_before ht'
  rcases hstored with hsame | ⟨r, hr, _, hto⟩
  · rw [hsame] at hold
    exact (hs.stored t ht old hold).trans hlive.identity_eq.symm
  · rw [hr] at hold
    injection hold with hold
    rw [← hold]
    exact hto.identity_eq.symm

theorem coherent_of_ok {α : Type} {m : Work α} {s s' : Session} {a : α}
    (hm : Txn.Keeps (Spares (fun _ => False) (fun _ => True) Eq) m) (h : m s = (.ok a, s'))
    (hs : Coherent s) : Coherent s' := by
  have hspares := hm s
  rw [h] at hspares
  have hmoves := hspares fun _ _ hf => hf.elim
  exact coherent_of_moves hs (hmoves.mono fun _ _ hw => hw.1)

def StaysOccupying (a b : OfferRequest) : Prop := a.isOccupying = true → b.isOccupying = true

instance : IsPreorder OfferRequest StaysOccupying where
  refl _ := fun h => h
  trans _ _ _ h h' := fun ha => h' (h ha)

variable {r ledger : OfferRequest} {home : Server} {owner id : Nat} {lifetime now : Int}
  {e e' : List OfferRequest} {u : Unit} {reason : String} {a b c s1 : Session} {flush : Bool}
  {d : Decision}

theorem isOpen_of_isOccupying (h : r.isOccupying = true) : r.isOpen = true := by
  simp only [OfferRequest.isOccupying, OfferRequest.isOpen, decide_eq_true_eq,
    overtimeOwnerOccupyingStatuses, overtimeNonterminalStatuses, List.mem_cons,
    List.not_mem_nil, or_false] at h ⊢
  exact .inr h

theorem not_queued_of_isOccupying (h : r.isOccupying = true) :
    r.resultStatus ≠ .overtimeQueued := by
  intro hq
  simp [OfferRequest.isOccupying, hq, overtimeOwnerOccupyingStatuses] at h

/-- Every row comes from a row that evolved, and occupied seats stay occupied. -/
structure Held (s s' : Session) : Prop where
  before : ∀ r' ∈ s'.live, ∃ r ∈ s.live, Evolves r r' ∧ StaysOccupying r r'
  after : ∀ r ∈ s.live, ∃ r' ∈ s'.live, Evolves r r' ∧ StaysOccupying r r'

theorem Held.refl (s : Session) : Held s s :=
  ⟨fun r hr => ⟨r, hr, .refl r, fun h => h⟩, fun r hr => ⟨r, hr, .refl r, fun h => h⟩⟩

theorem Held.trans (h : Held a b) (h' : Held b c) : Held a c := by
  constructor
  · intro r'' hr''
    obtain ⟨r', hr', he', ho'⟩ := h'.before r'' hr''
    obtain ⟨r, hr, he, ho⟩ := h.before r' hr'
    exact ⟨r, hr, he.trans he', fun hocc => ho' (ho hocc)⟩
  · intro r hr
    obtain ⟨r', hr', he, ho⟩ := h.after r hr
    obtain ⟨r'', hr'', he', ho'⟩ := h'.after r' hr'
    exact ⟨r'', hr'', he.trans he', fun hocc => ho' (ho hocc)⟩

def OccupyingKey (s : Session) (id : Nat) : Prop :=
  ∃ t ∈ s.rows, t.live.id = id ∧ t.live.isOccupying = true

theorem guard_occupyingKey {s : Session} (hs : InStep s) :
    Guard (OccupyingKey s) (fun _ => True) s := by
  intro t ht hp
  obtain ⟨t', ht', hid, hocc⟩ := hp
  have hsame : t'.live = t.live :=
    eq_of_id_eq hs.ids (List.mem_map_of_mem ht') (List.mem_map_of_mem ht) hid
  rw [hsame] at hocc
  have hnot := not_queued_of_isOccupying hocc
  obtain ⟨old, hold, hstatus, hident⟩ := hs.stored t ht
  exact ⟨hnot, trivial, old, hold, hstatus ▸ hnot, hident⟩

theorem promoteNextForOwner_held {ambient : Ambient}
    {s s' : Session} {a : Option Nat} (hs : InStep s)
    (h : promoteNextForOwner ambient home owner lifetime now flush s = (.ok a, s')) :
    Held s s' := by
  have hkeeps : Txn.Keeps (Spares (OccupyingKey s) (fun _ => True) StaysOccupying)
      (promoteNextForOwner ambient home owner lifetime now flush) :=
    promoteNextForOwner_spares home owner lifetime now flush
  have hspares := hkeeps s
  rw [h] at hspares
  have hmoves := hspares (guard_occupyingKey hs)
  have hkey : ∀ r ∈ s.live, ∀ r', Within (OccupyingKey s) StaysOccupying r r' →
      Evolves r r' ∧ StaysOccupying r r' := by
    intro r hr r' hw
    obtain ⟨t, ht, rfl⟩ := List.mem_map.mp hr
    exact ⟨hw.1, fun hocc => hw.2 ⟨t, ht, rfl, hocc⟩ hocc⟩
  constructor
  · intro r' hr'
    obtain ⟨r, hr, hw⟩ := UnitOfWork.forall₂_exists_before hmoves.live_forall₂ r' hr'
    exact ⟨r, hr, hkey r hr r' hw⟩
  · intro r hr
    obtain ⟨r', hr', hw⟩ := UnitOfWork.forall₂_exists_after hmoves.live_forall₂ r hr
    exact ⟨r', hr', hkey r hr r' hw⟩

theorem Held.filled {s s' : Session} (h : Held s s')
    (hfilled : Filled home owner s.live) : Filled home owner s'.live := by
  rcases hfilled with ⟨r, hr, hocc⟩ | hnone
  · left
    obtain ⟨r', hr', he, ho⟩ := h.after r hr
    simp only [occupyingOwner, decide_eq_true_eq] at hocc
    refine ⟨r', hr', ?_⟩
    simp only [occupyingOwner, decide_eq_true_eq]
    exact ⟨(he.inScope_eq home owner).trans hocc.1, ho hocc.2⟩
  · right
    intro r' hr' hscope hqueued
    obtain ⟨r, hr, he, _⟩ := h.before r' hr'
    exact hnone r hr ((he.inScope_eq home owner).symm.trans hscope) (he.queued_before hqueued)

theorem promoteScopes_filled {ambient : Ambient} :
    ∀ {scopes : List (Nat × Server)} {s s' : Session} {u : Unit}, InStep s →
      promoteScopes ambient lifetime now true scopes s = (.ok u, s') →
      Held s s' ∧ ∀ scope ∈ scopes, Filled scope.2 scope.1 s'.live := by
  intro scopes
  induction scopes with
  | nil =>
    intro s s' u _ h
    cases h
    exact ⟨Held.refl s, by simp⟩
  | cons scope scopes ih =>
    intro s s' u hs h
    obtain ⟨_, s1, hfirst, hrest⟩ := Txn.bind_ok.mp h
    obtain ⟨_, s2, hpromote, hpure⟩ := Txn.bind_ok.mp hfirst
    cases hpure
    obtain ⟨hs1, hfilled⟩ := promoteNextForOwner_filled hs hpromote
    have hheld := promoteNextForOwner_held hs hpromote
    obtain ⟨hheld', hscopes⟩ := ih hs1 hrest
    refine ⟨hheld.trans hheld', fun other hother => ?_⟩
    rcases List.mem_cons.mp hother with rfl | hother
    · exact hheld'.filled hfilled
    · exact hscopes other hother

/-- Rows outside `ended` are as they were. -/
def Ended (ended : List OfferRequest) (s s' : Session) : Prop :=
  ∀ r' ∈ s'.live, ∃ r ∈ s.live, Evolves r r' ∧ (r' = r ∨ ∃ e ∈ ended, identity e = identity r)

theorem ended_of_live_eq {s s' : Session} (h : s'.live = s.live) : Ended [] s s' := by
  intro r hr
  rw [h] at hr
  exact ⟨r, hr, .refl r, .inl rfl⟩

theorem Ended.trans (h : Ended e a b) (h' : Ended e' b c) : Ended (e ++ e') a c := by
  intro r'' hr''
  obtain ⟨r', hr', hev', hend'⟩ := h' r'' hr''
  obtain ⟨r, hr, hev, hend⟩ := h r' hr'
  refine ⟨r, hr, hev.trans hev', ?_⟩
  rcases hend' with rfl | ⟨x, hx, hident⟩
  · rcases hend with rfl | ⟨x, hx, hident⟩
    · exact .inl rfl
    · exact .inr ⟨x, List.mem_append_left _ hx, hident⟩
  · exact .inr ⟨x, List.mem_append_right _ hx, hident.trans hev.identity_eq⟩

theorem Ended.mono {s s' : Session} (h : Ended e s s')
    (hsub : ∀ x ∈ e, ∃ y ∈ e', identity y = identity x) : Ended e' s s' := by
  intro r' hr'
  obtain ⟨r, hr, hev, hend⟩ := h r' hr'
  refine ⟨r, hr, hev, ?_⟩
  rcases hend with hsame | ⟨x, hx, hident⟩
  · exact .inl hsame
  · obtain ⟨y, hy, hyx⟩ := hsub x hx
    exact .inr ⟨y, hy, hyx.trans hident⟩

theorem Ended.of_live_eq {s s' : Session} (h : Ended e s s1)
    (hlive : s'.live = s1.live) : Ended e s s' := by
  unfold Ended
  rw [hlive]
  exact h

theorem mem_scopesOf {rows : List OfferRequest} (hr : r ∈ rows)
    (howner : r.offerOwnerUserId = some owner) : (owner, r.requestHomeServer) ∈ scopesOf rows := by
  unfold scopesOf
  rw [(List.perm_insertionSort _ _).mem_iff, List.mem_dedup, List.mem_filterMap]
  exact ⟨r, hr, by simp [howner]⟩

theorem applyOvertimeTransition_ended {ambient : Ambient} {s s' : Session}
    (hends : Ends d) (h : applyOvertimeTransition ambient ledger.id d s = (.ok u, s'))
    (hids : (s.live.map OfferRequest.id).Nodup) (hledger : ledger ∈ s.live) :
    Ended [ledger] s s' ∧ ∃ row, s'.row? ledger.id = some row ∧
      row.resultStatus = d.resultStatus := by
  have hids' := ids_of_transition hends.ne_presented h hids
  rcases applyOvertimeTransition_cases ambient ledger.id d hids with
    ⟨e, hrefused⟩ | ⟨found, row, s1, hdone, hmem, hid, hok, hlive⟩
  · rw [hrefused] at h
    cases h
  · rw [hdone] at h
    cases h
    have hsame : found = ledger := eq_of_id_eq hids hmem hledger hid
    subst hsame
    have hevolves := evolves_transition hok fun hp => absurd hp hends.ne_presented
    constructor
    · intro r' hr'
      rw [hlive] at hr'
      obtain ⟨r, hr, rfl⟩ := List.mem_map.mp hr'
      by_cases hkey : r.id = found.id
      · have hr_eq : r = found := eq_of_id_eq hids hr hmem hkey
        subst hr_eq
        rw [if_pos rfl]
        exact ⟨r, hr, hevolves, .inr ⟨r, List.mem_singleton.mpr rfl, rfl⟩⟩
      · rw [if_neg hkey]
        exact ⟨r, hr, .refl r, .inl rfl⟩
    · have hrow : row ∈ s'.live := by
        rw [hlive]
        exact List.mem_map.mpr ⟨found, hmem, by simp⟩
      refine ⟨row, ?_, (transitionRow_ok hok).2.2.1⟩
      rw [← hevolves.id_eq]
      exact row?_of_mem hids' hrow

theorem invalidateRequest_cases {ambient : Ambient} {s s' : Session}
    (h : invalidateRequest ambient id reason now false s = (.ok u, s')) :
    s' = s ∨ ∃ ledger ∈ s.live, ledger.id = id ∧ ledger.isOpen = true ∧
      applyOvertimeTransition ambient id (invalidation reason now) s = (.ok (), s') := by
  simp only [invalidateRequest, Txn.bind_read] at h
  cases hrow : s.row? id with
  | none =>
    rw [hrow] at h
    cases h
    exact .inl rfl
  | some ledger =>
    rw [hrow] at h
    dsimp only at h
    obtain ⟨hmem, hid⟩ := mem_of_row? hrow
    split_ifs at h with hterminal hopen
    · cases h
      exact .inl rfl
    · right
      obtain ⟨_, s1, happly, hflush⟩ := Txn.bind_ok.mp h
      cases hflush
      exact ⟨ledger, hmem, hid, by simpa [OfferRequest.isOpen] using hopen, happly⟩
    · cases h
      exact .inl rfl

theorem invalidateRows_ended {ambient : Ambient} :
    ∀ {rows : List OfferRequest} {s s' : Session} {ended : List OfferRequest},
      (s.live.map OfferRequest.id).Nodup →
      (∀ row ∈ rows, ∃ r ∈ s.live, identity r = identity row) →
      invalidateRows ambient reason now rows s = (.ok ended, s') →
      Ended ended s s' ∧ ∀ e ∈ ended, e ∈ rows := by
  intro rows
  induction rows with
  | nil =>
    intro s s' ended _ _ h
    cases h
    exact ⟨ended_of_live_eq rfl, by simp⟩
  | cons row rows ih =>
    intro s s' ended hids hrows h
    unfold invalidateRows at h
    rw [Txn.bind_read] at h
    obtain ⟨_, s1, hinvalidate, h⟩ := Txn.bind_ok.mp h
    rw [Txn.bind_read] at h
    obtain ⟨more, s2, hmore, hpure⟩ := Txn.bind_ok.mp h
    cases hpure
    obtain ⟨ledger, hledger, hident⟩ := hrows row List.mem_cons_self
    have hkey : ledger.id = row.id := field_eq_of_identity hident OfferRequest.id fun _ => rfl
    rcases invalidateRequest_cases hinvalidate with hsame | ⟨found, hfound, hid, hopen, happly⟩
    · subst hsame
      obtain ⟨hended, hsub⟩ := ih hids (fun r hr => hrows r (List.mem_cons_of_mem _ hr)) hmore
      rw [if_neg (by simp)]
      exact ⟨hended, fun e he => List.mem_cons_of_mem _ (hsub e he)⟩
    · have hfound_eq : found = ledger := eq_of_id_eq hids hfound hledger (hid.trans hkey.symm)
      subst hfound_eq
      rw [← hid] at happly
      obtain ⟨hone, after, hafter, hstatus⟩ :=
        applyOvertimeTransition_ended (ends_invalidation reason now) happly hids hledger
      have hids1 := ids_of_transition (ends_invalidation reason now).ne_presented happly hids
      have hrows1 : ∀ r ∈ rows, ∃ x ∈ s1.live, identity x = identity r := by
        intro r hr
        obtain ⟨x, hx, hxr⟩ := hrows r (List.mem_cons_of_mem _ hr)
        have hkeeps : Txn.Keeps (Spares (fun _ => False) (fun _ => True) Eq)
            (applyOvertimeTransition ambient found.id (invalidation reason now)) :=
          applyOvertimeTransition_spares (ends_invalidation reason now).ne_presented
            fun hf => hf.elim
        have hspares := hkeeps s
        rw [happly] at hspares
        obtain ⟨x', hx', hev⟩ :=
          UnitOfWork.forall₂_exists_after (forall₂_evolves_of_spares hspares) x hx
        exact ⟨x', hx', hev.identity_eq.trans hxr⟩
      obtain ⟨hended, hsub⟩ := ih hids1 hrows1 hmore
      -- the status was open and is invalidated now, so the row counts as ended
      have hbefore : (s.row? row.id).map OfferRequest.resultStatus = some found.resultStatus := by
        rw [← hid, row?_of_mem hids hledger]
        rfl
      have hnow : (s1.row? row.id).map OfferRequest.resultStatus = some .overtimeInvalidated := by
        rw [← hid, hafter, Option.map_some, hstatus]
        rfl
      have hchanged : found.resultStatus ≠ .overtimeInvalidated := by
        intro hstatus
        rw [OfferRequest.isOpen, hstatus] at hopen
        exact absurd hopen (by decide)
      rw [hbefore, hnow, if_pos ⟨by simpa using hchanged, rfl⟩]
      refine ⟨?_, fun e he => ?_⟩
      · refine (hone.trans hended).mono fun x hx => ?_
        rcases List.mem_append.mp hx with hx | hx
        · rw [List.mem_singleton.mp hx]
          exact ⟨row, List.mem_cons_self, hident.symm⟩
        · exact ⟨x, List.mem_cons_of_mem _ hx, rfl⟩
      · rcases List.mem_cons.mp he with rfl | he
        · exact List.mem_cons_self
        · exact List.mem_cons_of_mem _ (hsub e he)

/-! ## Ending rows and handing their seats over -/

section HandOver

variable {ambient : Ambient} {s s' : Session} {ended : List OfferRequest} {r' : OfferRequest}
  {normalMinutes : Int}

/-- `invalidate_overtime_requests` ends the rows it returns, which its filter admitted, flushes and
promotes. -/
theorem invalidateOvertimeRequests_ok {f : RequestFilter}
    {promoteNext : Bool} {lifetime : Option Int}
    (hs : Coherent s) (h : invalidateOvertimeRequests ambient reason f now promoteNext lifetime
      flush s = (.ok ended, s')) :
    ∃ s1 s2, Coherent s1 ∧ Ended ended s s1 ∧
      (∀ e ∈ ended, e ∈ s.live ∧ ∃ old, f.admits old = true ∧ identity old = identity e) ∧
      flushIf flush s1 = (.ok (), s2) ∧
      promoteScopesIf ambient promoteNext lifetime now flush ended s2 = (.ok (), s') := by
  obtain ⟨rows, s0, hlist, h⟩ := Txn.bind_ok.mp h
  obtain ⟨ended', s1, hrows, h⟩ := Txn.bind_ok.mp h
  obtain ⟨_, s2, hflush, h⟩ := Txn.bind_ok.mp h
  obtain ⟨_, s3, hpromote, h⟩ := Txn.bind_ok.mp h
  cases h
  unfold listNonterminalOvertimeRequests at hlist
  split_ifs at hlist
  · cases hlist
    have hselected : ∀ row ∈ (s.select f.admits).insertionSort (fun a b => a.id ≤ b.id),
        row ∈ s.live ∧ ∃ old, f.admits old = true ∧ identity old = identity row := by
      intro row hrow
      rw [(List.perm_insertionSort _ _).mem_iff] at hrow
      obtain ⟨t, ht, hlive, old, hold, hadmits⟩ := UnitOfWork.mem_select.mp hrow
      subst hlive
      exact ⟨List.mem_map_of_mem ht, old, hadmits, hs.stored t ht old hold⟩
    obtain ⟨hended, hsub⟩ := invalidateRows_ended hs.ids
      (fun row hrow => ⟨row, (hselected row hrow).1, rfl⟩) hrows
    have hkeeps : Txn.Keeps (Spares (fun _ => False) (fun _ => True) Eq)
        (invalidateRows ambient reason now
          ((s.select f.admits).insertionSort (fun a b => a.id ≤ b.id))) :=
      (evolves_rule ambient).invalidateRows
        fun _ _ => ⟨ends_invalidation reason now, fun hf => hf.elim⟩
    exact ⟨s1, s2, coherent_of_ok hkeeps hrows hs, hended,
      fun e he => hselected e (hsub e he), hflush, hpromote⟩
  · cases hlist

theorem filled_of_handOver
    (hids : (s.live.map OfferRequest.id).Nodup) (hended : Ended ended s s1) (hs1 : InStep s1)
    (hpromote : promoteScopes ambient lifetime now true (scopesOf ended) s1 = (.ok u, s'))
    (hr : r ∈ s.live) (hocc : occupyingOwner home owner r = true) (hr' : r' ∈ s'.live)
    (hid : r'.id = r.id) (hclosed : r'.isOpen = false) : Filled home owner s'.live := by
  simp only [occupyingOwner, OfferRequest.inScope, decide_eq_true_eq] at hocc
  obtain ⟨hheld, hfilled⟩ := promoteScopes_filled hs1 hpromote
  obtain ⟨r1, hr1, hev1, hstays⟩ := hheld.before r' hr'
  obtain ⟨r0, hr0, hev0, hend⟩ := hended r1 hr1
  have hsame : r0 = r :=
    eq_of_id_eq hids hr0 hr ((hev0.trans hev1).id_eq.symm.trans hid)
  subst hsame
  rcases hend with hunchanged | ⟨e, he, hident⟩
  · rw [← hunchanged] at hocc
    rw [isOpen_of_isOccupying (hstays hocc.2)] at hclosed
    cases hclosed
  · have howner : e.offerOwnerUserId = some owner :=
      (field_eq_of_identity hident OfferRequest.offerOwnerUserId fun _ => rfl).trans hocc.1.2
    have hhome : e.requestHomeServer = home :=
      (field_eq_of_identity hident OfferRequest.requestHomeServer fun _ => rfl).trans hocc.1.1
    have hscope := hfilled _ (mem_scopesOf he howner)
    rw [hhome] at hscope
    exact hscope

theorem filled_of_decision
      (hs : InStep s) (hends : Ends d) (howner : ledger.offerOwnerUserId = some owner)
    (h : (applyOvertimeTransition ambient id d >>= fun _ => flushIf true >>= fun _ =>
      promoteAfter ambient ledger true (some lifetime) now true) s = (.ok u, s')) :
    Filled ledger.requestHomeServer owner s'.live := by
  obtain ⟨_, s1, happly, h⟩ := Txn.bind_ok.mp h
  obtain ⟨_, s2, hflush, h⟩ := Txn.bind_ok.mp h
  have hids1 := ids_of_transition hends.ne_presented happly hs.ids
  obtain ⟨hs2, _⟩ := inStep_of_flush hflush hids1
  unfold promoteAfter at h
  rw [howner] at h
  obtain ⟨_, s3, hpromote, hpure⟩ := Txn.bind_ok.mp h
  cases hpure
  exact (promoteNextForOwner_filled hs2 hpromote).2

theorem invalidateForOffers_ended :
    ∀ {offers : List Offer} {s s' : Session} {ended : List OfferRequest}, InStep s →
      invalidateForOffers ambient reason now normalMinutes offers s = (.ok ended, s') →
      InStep s' ∧ Ended ended s s' := by
  intro offers
  induction offers with
  | nil =>
    intro s s' ended hs h
    cases h
    exact ⟨hs, ended_of_live_eq rfl⟩
  | cons offer offers ih =>
    intro s s' ended hs h
    obtain ⟨rows, s1, hfirst, h⟩ := Txn.bind_ok.mp h
    obtain ⟨more, s2, hrest, h⟩ := Txn.bind_ok.mp h
    cases h
    obtain ⟨s3, s4, hs3, hended, _, hflush, hpromote⟩ :=
      invalidateOvertimeRequests_ok hs.coherent hfirst
    cases hpromote
    obtain ⟨hs4, hlive4⟩ := inStep_of_flush hflush hs3.ids
    obtain ⟨hs', hmore⟩ := ih hs4 hrest
    exact ⟨hs', (hended.of_live_eq hlive4).trans hmore⟩

def SameRows (s s' : Session) : Prop := s'.rows = s.rows

instance : IsPreorder Session SameRows where
  refl _ := rfl
  trans _ _ _ h h' := h'.trans h

theorem expireOfferRow_sameRows (command : OfferExpiryCommand) (now : Int)
    (requireAuthority : Bool) (id : Nat) :
    Txn.Keeps SameRows (expireOfferRow ambient command now requireAuthority id) := by
  refine Txn.keeps_bind (Txn.keeps_read _) fun offer? => ?_
  cases offer? with
  | none => exact Txn.keeps_raise _
  | some offer =>
    dsimp only
    split
    · exact Txn.keeps_raise _
    · exact Txn.keeps_raise _
    · exact fun s => rfl

theorem expireActiveOffers_sameRows (command : OfferExpiryCommand) (now : Int)
    (requireAuthority : Bool) : ∀ ids : List Nat,
    Txn.Keeps SameRows (expireActiveOffers ambient command now requireAuthority ids) := by
  intro ids
  induction ids with
  | nil => exact Txn.keeps_pure []
  | cons id ids ih =>
    refine Txn.keeps_bind (Txn.keeps_read _) fun offer? => ?_
    refine Txn.keeps_ite ?_ (Txn.keeps_ite (Txn.keeps_raise _) ih)
    exact Txn.keeps_bind (expireOfferRow_sameRows _ _ _ _) fun _ =>
      Txn.keeps_bind ih fun _ => Txn.keeps_pure _

theorem SameRows.inStep (h : SameRows s s') (hs : InStep s) : InStep s' ∧ s'.live = s.live := by
  have hlive : s'.live = s.live := congrArg UnitOfWork.live h
  refine ⟨⟨?_, ?_⟩, hlive⟩
  · rw [h]
    exact hs.stored
  · rw [hlive]
    exact hs.ids

theorem SameRows.coherent (h : SameRows s s') (hs : Coherent s) : Coherent s' := by
  refine ⟨?_, ?_⟩
  · rw [h]
    exact hs.stored
  · rw [show s'.live = s.live from congrArg UnitOfWork.live h]
    exact hs.ids

theorem filled_of_expiry {offers : List Offer} (hs : InStep s)
    (h : invalidateOvertimeAfterOfferExpiry ambient offers reason now normalMinutes s =
      (.ok u, s')) (hr : r ∈ s.live)
    (hocc : occupyingOwner home owner r = true) (hr' : r' ∈ s'.live) (hid : r'.id = r.id)
    (hclosed : r'.isOpen = false) : Filled home owner s'.live := by
  obtain ⟨ended, s1, hinvalidate, hpromote⟩ := Txn.bind_ok.mp h
  obtain ⟨hs1, hended⟩ := invalidateForOffers_ended hs hinvalidate
  exact filled_of_handOver hs.ids hended hs1 hpromote hr hocc hr' hid hclosed

end HandOver

end TradingBot.Overtime
