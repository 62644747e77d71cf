import TradingBot.Overtime.Closing
import TradingBot.Overtime.DecisionWindow
import TradingBot.Overtime.QueueOrder

/-!
# A repairing run

`reconcile_overtime_requests` outside a dry run changes rows in memory and flushes at the end, so
its queries keep seeing the ledger of the start: seats taken or free, and the heads of queues, as
they were there. Only a promotion may flush on its way (the status message, the legacy outbox); the
queries then see the ledger of that flush. `Midway` is a session between two flushes, `Repairing`
one anywhere in the run; each repair keeps it, closes its target, and raises nothing that the
reconciler does not catch.
-/

namespace TradingBot.Overtime

open TradingBot TradingBot.Misc

/-- A repairing run of the reconciler: where and when, its arguments, and the offers it reads. -/
structure Repair where
  ambient : Ambient
  clock : Int
  offers : List Offer
  jobs : Nat → Option DeliveryJob
  lifetime : Int
  limit : Nat
  flush : Bool

namespace Repair

variable (c : Repair) (rows : List OfferRequest)

def call : Call :=
  ⟨c.ambient, c.clock, c.offers, .reconcile c.jobs false c.lifetime c.limit c.flush⟩

def ledger : List OfferRequest := step rows c.call

def answer : Except Raised Report :=
  (reconcileOvertimeRequests c.ambient c.jobs false c.clock c.lifetime c.limit c.flush
    (c.call.session rows)).1

/-- A second run changes nothing and finds nothing to repair. -/
def Settles : Prop :=
  c.ledger (c.ledger rows) = c.ledger rows ∧
    ∃ report, c.answer (c.ledger rows) = .ok report ∧ repairable report.findings = []

variable (r : OfferRequest)

def offerOf : Option Offer :=
  r.localOfferId.bind fun id => c.offers.find? (fun o => o.id = id)

/-- The offer that the repair of a row looks up, by its public id. -/
def lookup : Option Offer :=
  c.offers.find? (fun o => o.offerPublicId = r.offerPublicId)

def owns : Bool :=
  r.workflowKind = .overtime ∧ r.requestHomeServer = c.ambient.currentServer ∧ r.isOpen

/-- A request of this server whose offer is not active, or that is queued past the final deadline. -/
def blocked : Bool :=
  c.owns r && !(repairable (offerFindings c.clock c.lifetime (c.offerOf r) r)).isEmpty

/-- A request of this server that is to be repaired. -/
def target : Bool :=
  c.owns r && !(repairable (clockFindings c.clock r ++
    offerFindings c.clock c.lifetime (c.offerOf r) r)).isEmpty

def seatFree (owner : Nat) : Bool :=
  rows.all fun r => !(r.inScope c.ambient.currentServer owner && r.isOccupying)

/-- Whoever sits on the seat of the owner is to be repaired. -/
def seatEnds (owner : Nat) : Bool :=
  rows.all fun r => !(r.inScope c.ambient.currentServer owner && r.isOccupying) || c.target r

def head (owner : Nat) : Option OfferRequest :=
  firstInQueue (rows.filter fun r => r.inScope c.ambient.currentServer owner && r.isQueued)

def accepts : Bool :=
  match c.ambient.enqueue r.id with
  | .queueV1 outcome => outcome.undeliverableReason.isNone
  | .legacy outcome => outcome.undeliverableReason.isNone
  | _ => false

/-- A promotion of the request succeeds and leaves nothing to repair: its offer is fit, and a
foreign delivery is accepted and not overdue. -/
def ready : Bool :=
  (revalidateOfferForPromotion (c.offerOf r) c.ambient.currentServer c.lifetime
    c.clock).isNone &&
  match c.ambient.currentServer with
  | .iran => true
  | .foreign => c.accepts r && !(deliveryOverdue c.clock r && r.telegramMessageId.isNone)

/-- A promotion of the request flushes the session: for the status message or in the legacy outbox. -/
def flushes (r : OfferRequest) : Bool :=
  c.ambient.statusEditFlushes r.id || match c.ambient.currentServer, c.ambient.enqueue r.id with
  | .foreign, .legacy outcome => outcome.flushes
  | _, _ => false

def covered : Bool :=
  match c.lookup r with
  | none => true
  | some offer => (offerFilter c.ambient offer).offerPublicId.isSome &&
      (offerFilter c.ambient offer).admits r

/-- The repair of a queued row asks for a promotion in the queue of its owner. -/
def handsOver (owner : Nat) (r : OfferRequest) : Bool :=
  c.blocked r && r.isQueued && (c.lookup r).isSome && decide (0 < c.lifetime) &&
    decide (r.offerOwnerUserId = some owner)

/-- A free seat is handed to the head of a queue, and that flushes. -/
def Flushing : Prop :=
  ∃ owner, rows.any (c.handsOver owner) = true ∧ c.seatFree rows owner = true ∧
    (c.head rows owner).any c.flushes = true

/-- Every request repaired because of its offer names one; and in every queue where such a repair
hands a seat on, the head is ready, where the seat is free, or may be seen free once its holder is
repaired and a promotion flushes. -/
structure Clean : Prop where
  covered : ∀ r ∈ rows, c.blocked r = true → c.covered r = true
  heads : ∀ owner, rows.any (c.handsOver owner) = true →
    c.seatFree rows owner = true ∨ c.Flushing rows ∧ c.seatEnds rows owner = true →
      ∃ h, c.head rows owner = some h ∧ c.ready h = true

end Repair

/-! ## While a repair works -/

def Opened (c : Repair) (rows : List OfferRequest) (h : OfferRequest) : Prop :=
  ∃ owner, c.seatFree rows owner = true ∧ c.head rows owner = some h ∧ c.ready h = true

def Promoted (c : Repair) (r0 r : OfferRequest) : Prop :=
  match c.ambient.currentServer with
  | .iran => r.resultStatus = .overtimePresented ∧
      r.decisionDeadlineAt = some (decisionDeadlineAt c.clock)
  | .foreign => r.resultStatus = .overtimeDelivering ∧
      r.telegramMessageId = r0.telegramMessageId

/-- A repair leaves a row, ends it if it is a target, or promotes it as the head of a free queue. -/
inductive Worked (c : Repair) (rows : List OfferRequest) (r0 r : OfferRequest) : Prop where
  | untouched (same : r = r0)
  | ended (evolves : Evolves r0 r) (target : c.target r0 = true) (closed : r.isOpen = false)
  | promoted (evolves : Evolves r0 r) (opened : Opened c rows r0) (shown : Promoted c r0 r)

/-- In the middle of a repair that started from `rows` the database has them, and each object is
related to its row by `W`. -/
structure Midway (c : Repair) (rows : List OfferRequest)
    (W : OfferRequest → OfferRequest → Prop) (s : Session) : Prop where
  offers : s.offers = c.offers
  carried : List.Forall₂ (fun r0 t => t.stored = some r0 ∧ W r0 t.live) rows s.rows

section Working

variable {c : Repair} {rows l : List OfferRequest} {W W' : OfferRequest → OfferRequest → Prop}
  {a a' b b' : OfferRequest} {id : Nat}

theorem Worked.evolves {r0 r : OfferRequest} (h : Worked c rows r0 r) : Evolves r0 r := by
  cases h with
  | untouched same => rw [same]; exact .refl r0
  | ended evolves => exact evolves
  | promoted evolves => exact evolves

theorem map_id_of_keys (hkeys : ∀ r0 r, W r0 r → r.id = r0.id) {l' : List OfferRequest}
    (h : List.Forall₂ W l l') : l'.map OfferRequest.id = l.map OfferRequest.id := by
  induction h with
  | nil => rfl
  | @cons r0 r l l' hw _ ih => rw [List.map_cons, List.map_cons, hkeys r0 r hw, ih]

namespace Midway

variable {s : Session}

theorem live (h : Midway c rows W s) : List.Forall₂ W rows s.live := by
  unfold Session.live UnitOfWork.live
  rw [List.forall₂_map_right_iff]
  exact h.carried.imp fun _ _ hcarried => hcarried.2

theorem select (h : Midway c rows W s) (p : OfferRequest → Bool) :
    List.Forall₂ W (rows.filter p) (s.select p) := by
  have hany : ∀ {l : List OfferRequest} {w : List (Tracked OfferRequest)},
      List.Forall₂ (fun r0 t => t.stored = some r0 ∧ W r0 t.live) l w →
        List.Forall₂ W (l.filter p) (UnitOfWork.select p w) := by
    intro l w hlw
    induction hlw with
    | nil => exact .nil
    | @cons r0 t l w hcarried _ ih =>
      simp only [UnitOfWork.select, List.filter_cons, hcarried.1, Option.any_some] at ih ⊢
      by_cases hp : p r0 = true
      · simp only [hp, if_true, List.map_cons]
        exact .cons hcarried.2 ih
      · simp only [hp]
        exact ih
  exact hany h.carried

theorem updateRow (h : Midway c rows W s) {id : Nat} {f : OfferRequest → OfferRequest}
    (hf : ∀ r0 ∈ rows, ∀ r ∈ s.live, W r0 r → W' r0 (if r.id = id then f r else r)) :
    Midway c rows W' (Overtime.updateRow id f s).2 := by
  refine ⟨h.offers, ?_⟩
  have hany : ∀ {l : List OfferRequest} {w : List (Tracked OfferRequest)},
      List.Forall₂ (fun r0 t => t.stored = some r0 ∧ W r0 t.live) l w → (∀ r ∈ l, r ∈ rows) →
        (∀ t ∈ w, t.live ∈ s.live) →
        List.Forall₂ (fun r0 t => t.stored = some r0 ∧ W' r0 t.live) l
          (UnitOfWork.update (fun r => decide (r.id = id)) f w) := by
    intro l w hlw
    induction hlw with
    | nil => intro _ _; exact .nil
    | @cons r0 t l w hcarried _ ih =>
      intro hsub hlive
      refine .cons ?_ (ih (fun r hr => hsub r (List.mem_cons_of_mem r0 hr))
        fun u hu => hlive u (List.mem_cons_of_mem t hu))
      have hnew := hf r0 (hsub r0 List.mem_cons_self) t.live (hlive t List.mem_cons_self)
        hcarried.2
      by_cases hid : t.live.id = id
      · simpa [hid] using And.intro hcarried.1 (by simpa [hid] using hnew)
      · simpa [hid] using And.intro hcarried.1 (by simpa [hid] using hnew)
  exact hany h.carried (fun r hr => hr) fun t ht => List.mem_map_of_mem ht

theorem row? (h : Midway c rows W s) (hkeys : ∀ r0 r, W r0 r → r.id = r0.id)
    (hids : (rows.map OfferRequest.id).Nodup) {r0 : OfferRequest} (hr0 : r0 ∈ rows) :
    ∃ r, s.row? r0.id = some r ∧ W r0 r := by
  have hstart : (c.call.session rows).row? r0.id = some r0 := by
    apply row?_of_mem
    · rw [session_live]
      exact hids
    · rw [session_live]
      exact hr0
  rw [Session.row?, session_live] at hstart
  exact row?_of_forall₂ hkeys h.live hstart

theorem ids (h : Midway c rows W s) (hkeys : ∀ r0 r, W r0 r → r.id = r0.id)
    (hids : (rows.map OfferRequest.id).Nodup) : (s.live.map OfferRequest.id).Nodup := by
  rw [map_id_of_keys hkeys h.live]
  exact hids

theorem transition (h : Midway c rows W s) (hkeys : ∀ r0 r, W r0 r → r.id = r0.id)
    (hids : (rows.map OfferRequest.id).Nodup) {r0 r r' : OfferRequest} (hr0 : r0 ∈ rows)
    {ambient : Ambient} {d : Decision} (hrow : s.row? r0.id = some r)
    (hok : transitionRow ambient.utcNow r d = .ok r') (hnew : W' r0 r')
    (hothers : ∀ x y, W x y → y.id ≠ r0.id → W' x y) :
    ∃ s', applyOvertimeTransition ambient r0.id d s = (.ok (), s') ∧ Midway c rows W' s' ∧
      s'.row? r0.id = some r' := by
  obtain ⟨hmem, hid⟩ := mem_of_row? hrow
  have hwrite := applyOvertimeTransition_eq_updateRow hrow hok
  refine ⟨(Overtime.updateRow r0.id _ s).2, hwrite, h.updateRow fun x hx y hy hw => ?_, ?_⟩
  · by_cases hkey : y.id = r0.id
    · have hsame : x = r0 := eq_of_id_eq hids hx hr0 ((hkeys x y hw).symm.trans hkey)
      have hlive : y = r := eq_of_id_eq (h.ids hkeys hids) hy hmem (hkey.trans hid.symm)
      rw [if_pos hkey, hsame, hlive, hok]
      exact hnew
    · rw [if_neg hkey]
      exact hothers x y hw hkey
  · rw [row?_updateRow, hrow, Option.map_some, hok]
    intro x
    cases hx : transitionRow ambient.utcNow x d with
    | ok x' => exact field_eq_of_identity (transitionRow_ok hx).2.1 OfferRequest.id fun _ => rfl
    | error e => rfl

end Midway

theorem Worked.id_eq (r0 r : OfferRequest) (h : Worked c rows r0 r) : r.id = r0.id :=
  h.evolves.id_eq

theorem queuedBefore_of_identity (ha : identity a' = identity a)
    (hb : identity b' = identity b) : queuedBefore a' b' = queuedBefore a b := by
  have hseq : ∀ {x y : OfferRequest}, identity y = identity x →
      y.queueSequence = x.queueSequence := fun h =>
    field_eq_of_identity h OfferRequest.queueSequence fun _ => rfl
  have hid : ∀ {x y : OfferRequest}, identity y = identity x → y.id = x.id := fun h =>
    field_eq_of_identity h OfferRequest.id fun _ => rfl
  unfold queuedBefore
  rw [hseq ha, hseq hb, hid ha, hid hb]

theorem firstInQueue_forall₂ (hident : ∀ r0 r, W r0 r → identity r = identity r0)
    {l' : List OfferRequest} (h : List.Forall₂ W l l') :
    (firstInQueue l = none ∧ firstInQueue l' = none) ∨
      ∃ r0 r, firstInQueue l = some r0 ∧ firstInQueue l' = some r ∧ W r0 r := by
  induction h with
  | nil => exact .inl ⟨rfl, rfl⟩
  | @cons a b l l' hab _ ih =>
    unfold firstInQueue
    right
    rcases ih with ⟨hnone, hnone'⟩ | ⟨r0, r, hr0, hr, hw⟩
    · rw [hnone, hnone']
      exact ⟨a, b, rfl, rfl, hab⟩
    · rw [hr0, hr]
      dsimp only
      rw [queuedBefore_of_identity (hident r0 r hw) (hident a b hab)]
      by_cases hbefore : queuedBefore r0 a = true
      · simp only [hbefore, if_true]
        exact ⟨r0, r, rfl, rfl, hw⟩
      · simp only [hbefore]
        exact ⟨a, b, rfl, rfl, hab⟩

theorem Midway.occupied_iff {s : Session} (h : Midway c rows W s) (owner : Nat) :
    ownerHasOccupyingRequest s c.ambient.currentServer owner = !c.seatFree rows owner := by
  have hlength := (h.select fun r =>
    r.inScope c.ambient.currentServer owner && r.isOccupying).length_eq
  have hempty : (s.select fun r => r.inScope c.ambient.currentServer owner &&
      r.isOccupying).isEmpty = (rows.filter fun r => r.inScope c.ambient.currentServer owner &&
        r.isOccupying).isEmpty := by
    rw [Bool.eq_iff_iff, List.isEmpty_iff_length_eq_zero, List.isEmpty_iff_length_eq_zero, hlength]
  unfold ownerHasOccupyingRequest Repair.seatFree
  rw [hempty, Bool.eq_iff_iff]
  simp [List.filter_eq_nil_iff]

theorem offerFindings_of_fit {offer : Option Offer} {home : Server} {lifetime now : Int}
    (h : revalidateOfferForPromotion offer home lifetime now = none) (row : OfferRequest) :
    repairable (offerFindings now lifetime offer row) = [] := by
  unfold revalidateOfferForPromotion at h
  cases offer with
  | none => cases h
  | some offer =>
    dsimp only at h
    split at h
    · cases h
    · split_ifs at h with hhome hactive
      rw [projectOfferLifecycle_deadlines] at h
      unfold offerFindings
      dsimp only
      rw [if_neg hactive]
      by_cases hlifetime : 0 < lifetime
      · have hread : readNormalLifetimeMinutes lifetime = lifetime := by
          unfold readNormalLifetimeMinutes
          omega
        rw [hread] at h
        rw [if_pos hlifetime]
        cases hdeadlines : offer.deadlines lifetime with
        | none => rfl
        | some pair =>
          rw [hdeadlines] at h
          dsimp only at h ⊢
          split_ifs at h with hfinal
          rw [if_neg fun hboth => hfinal hboth.1]
          rfl
      · rw [if_neg hlifetime]
        rfl

theorem fit_of_ready {h : OfferRequest} (hready : c.ready h = true) :
    revalidateOfferForPromotion (c.offerOf h) c.ambient.currentServer c.lifetime c.clock =
      none := by
  unfold Repair.ready at hready
  simp only [Bool.and_eq_true, Option.isNone_iff_eq_none] at hready
  exact hready.1

theorem head_queued {owner : Nat} {h : OfferRequest} (hhead : c.head rows owner = some h) :
    h ∈ rows ∧ h.inScope c.ambient.currentServer owner = true ∧
      h.resultStatus = .overtimeQueued := by
  have hmem := List.mem_filter.mp (firstInQueue_mem hhead)
  simp only [Bool.and_eq_true, OfferRequest.isQueued, decide_eq_true_eq] at hmem
  exact hmem

theorem not_target_of_ready {h : OfferRequest} (hqueued : h.resultStatus = .overtimeQueued)
    (hready : c.ready h = true) : c.target h = false := by
  have hclock : clockFindings c.clock h = [] := by
    unfold clockFindings
    rw [hqueued]
  unfold Repair.target
  rw [hclock, List.nil_append, offerFindings_of_fit (fit_of_ready hready) h]
  simp

theorem Opened.queued {h : OfferRequest} (hopened : Opened c rows h) :
    h.resultStatus = .overtimeQueued := by
  obtain ⟨owner, _, hhead, _⟩ := hopened
  exact (head_queued hhead).2.2

theorem Opened.inScope {h : OfferRequest} (hopened : Opened c rows h) :
    ∃ owner, h.requestHomeServer = c.ambient.currentServer ∧ h.offerOwnerUserId = some owner ∧
      c.seatFree rows owner = true ∧ c.head rows owner = some h := by
  obtain ⟨owner, hfree, hhead, _⟩ := hopened
  obtain ⟨hhome, howner⟩ := of_decide_eq_true (head_queued hhead).2.1
  exact ⟨owner, hhome, howner, hfree, hhead⟩

theorem Worked.occupying {r0 r : OfferRequest} (h : Worked c rows r0 r)
    (hoccupying : r.isOccupying = true) : r0.isOccupying = true ∨ Opened c rows r0 := by
  cases h with
  | untouched same =>
    rw [same] at hoccupying
    exact .inl hoccupying
  | ended _ _ closed =>
    rw [isOpen_of_isOccupying hoccupying] at closed
    cases closed
  | promoted _ opened _ => exact .inr opened

theorem not_seatFree {r : OfferRequest} (hr : r ∈ rows) (hoccupying : r.isOccupying = true)
    {owner : Nat} (hhome : r.requestHomeServer = c.ambient.currentServer)
    (howner : r.offerOwnerUserId = some owner) : c.seatFree rows owner = false := by
  unfold Repair.seatFree
  apply List.all_eq_false.mpr
  refine ⟨r, hr, ?_⟩
  rw [hoccupying, show r.inScope c.ambient.currentServer owner = true from
    decide_eq_true ⟨hhome, howner⟩]
  decide

theorem Worked.seats (ha : a ∈ rows) (hb : b ∈ rows)
    (hne : a.id ≠ b.id) (hclash : a.clashes b = false) (hwa : Worked c rows a a')
    (hwb : Worked c rows b b') (hhome : a'.requestHomeServer = b'.requestHomeServer)
    (hoa : a'.isOccupying = true) (hob : b'.isOccupying = true) {owner : Nat}
    (howner : a'.offerOwnerUserId = some owner) (howner' : b'.offerOwnerUserId = some owner) :
    False := by
  rw [hwa.evolves.home_eq, hwb.evolves.home_eq] at hhome
  rw [hwa.evolves.owner_eq] at howner
  rw [hwb.evolves.owner_eq] at howner'
  rcases hwa.occupying hoa with hsat | hopened
  · rcases hwb.occupying hob with hsat' | hopened'
    · have hboth : a.clashes b = true := by
        unfold OfferRequest.clashes
        apply decide_eq_true
        refine .inl ⟨hhome, .inr (.inr ⟨hsat, hsat', ?_, ?_⟩)⟩
        · rw [howner]
          rfl
        · rw [howner, howner']
      rw [hclash] at hboth
      cases hboth
    · obtain ⟨owner', hhome', howned, hfree, _⟩ := hopened'.inScope
      rw [howner'] at howned
      injection howned with howned
      subst howned
      rw [not_seatFree ha hsat (hhome.trans hhome') howner] at hfree
      cases hfree
  · obtain ⟨owner', hhome', howned, hfree, hhead⟩ := hopened.inScope
    rw [howner] at howned
    injection howned with howned
    subst howned
    rcases hwb.occupying hob with hsat' | hopened'
    · rw [not_seatFree hb hsat' (hhome.symm.trans hhome') howner'] at hfree
      cases hfree
    · obtain ⟨owner', _, howned', _, hhead'⟩ := hopened'.inScope
      rw [howner'] at howned'
      injection howned' with howned'
      subst howned'
      rw [hhead] at hhead'
      injection hhead' with hhead'
      exact hne (congrArg OfferRequest.id hhead')

theorem Worked.not_clashes (ha : a ∈ rows) (hb : b ∈ rows)
    (hne : a.id ≠ b.id) (hclash : a.clashes b = false) (hwa : Worked c rows a a')
    (hwb : Worked c rows b b') : a'.clashes b' = false := by
  have hkey : ∀ {x y : OfferRequest}, Evolves x y → y.idempotencyKey = x.idempotencyKey :=
    fun h => h.field_eq OfferRequest.idempotencyKey fun _ => rfl
  cases hclashes : a'.clashes b' with
  | false => rfl
  | true =>
    exfalso
    have hstart : a.clashes b ≠ true := by
      rw [hclash]
      decide
    unfold OfferRequest.clashes at hclashes
    rcases of_decide_eq_true hclashes with ⟨hhome, hsame | hopen | hseat⟩ | hpublic
    · apply hstart
      rw [hkey hwa.evolves, hkey hwb.evolves] at hsame
      rw [hwa.evolves.home_eq, hwb.evolves.home_eq] at hhome
      exact decide_eq_true (.inl ⟨hhome, .inl hsame⟩)
    · apply hstart
      rw [hwa.evolves.offerPublicId_eq, hwb.evolves.offerPublicId_eq] at hopen
      rw [hwa.evolves.home_eq, hwb.evolves.home_eq] at hhome
      exact decide_eq_true (.inl ⟨hhome, .inr (.inl ⟨hwa.evolves.isOpen_before hopen.1,
        hwb.evolves.isOpen_before hopen.2.1, hopen.2.2⟩)⟩)
    · obtain ⟨owner, howner⟩ := Option.isSome_iff_exists.mp hseat.2.2.1
      exact Worked.seats ha hb hne hclash hwa hwb hhome hseat.1 hseat.2.1 howner
        (hseat.2.2.2.symm.trans howner)
    · apply hstart
      rw [hwa.evolves.requestPublicId_eq, hwb.evolves.requestPublicId_eq] at hpublic
      exact decide_eq_true (.inr hpublic)

theorem Midway.unique {s : Session} (hs : Midway c rows (Worked c rows) s)
    (hids : (rows.map OfferRequest.id).Nodup) (hunique : uniqueIndexes rows = true) :
    uniqueIndexes s.live = true := by
  rw [uniqueIndexes_iff]
  have hkeys : rows.Pairwise fun a b => a.id ≠ b.id := List.pairwise_map.mp hids
  have hpairs := List.Pairwise.and_mem.mp ((uniqueIndexes_iff.mp hunique).and hkeys)
  refine UnitOfWork.pairwise_of_forall₂ hs.live (fun a b a' b' hwa hwb hab => ?_) hpairs
  exact Worked.not_clashes hab.1 hab.2.1 hab.2.2.2 hab.2.2.1 hwa hwb

def rowFindings (c : Repair) (r : OfferRequest) : List Finding :=
  repairable (clockFindings c.clock r ++ offerFindings c.clock c.lifetime (c.offerOf r) r)

theorem offerOf_eq {r0 r : OfferRequest} (h : Evolves r0 r) : c.offerOf r = c.offerOf r0 := by
  unfold Repair.offerOf
  rw [h.localOfferId_eq]

theorem rowFindings_promoted {r0 r : OfferRequest} (hev : Evolves r0 r) (hready : c.ready r0 = true)
    (hshown : Promoted c r0 r) : rowFindings c r = [] := by
  have hoffer : repairable (offerFindings c.clock c.lifetime (c.offerOf r) r) = [] := by
    rw [offerOf_eq hev]
    exact offerFindings_of_fit (fit_of_ready hready) r
  have hclock : clockFindings c.clock r = [] := by
    unfold Repair.ready at hready
    unfold Promoted at hshown
    unfold clockFindings
    cases hserver : c.ambient.currentServer with
    | iran =>
      rw [hserver] at hshown
      rw [hshown.1, hshown.2]
      refine if_neg ?_
      unfold decisionDeadlineAt overtimeDecisionSeconds second
      omega
    | foreign =>
      rw [hserver] at hshown hready
      simp only [Bool.and_eq_true, Bool.not_eq_true', Bool.and_eq_false_iff,
        Option.isNone_eq_false_iff] at hready
      rw [hshown.1]
      have hage : deliveryOverdue c.clock r = deliveryOverdue c.clock r0 := by
        unfold deliveryOverdue
        rw [hev.deliveryAgeStart_eq]
      refine if_neg fun hboth => ?_
      rw [hage, hshown.2] at hboth
      rcases hready.2.2 with hyoung | hsent
      · rw [hboth.1] at hyoung
        cases hyoung
      · rw [hboth.2] at hsent
        cases hsent
  unfold rowFindings
  rw [hclock, List.nil_append, hoffer]

def Clocked (c : Repair) (rows : List OfferRequest) (id : Nat) (r0 r : OfferRequest) : Prop :=
  if r.id = id then ∃ old, Worked c rows r0 old ∧ r = { old with
      presentedAt := some c.clock, decisionDeadlineAt := some (decisionDeadlineAt c.clock) }
  else Worked c rows r0 r

theorem Clocked.id_eq (r0 r : OfferRequest) (h : Clocked c rows id r0 r) :
    r.id = r0.id := by
  unfold Clocked at h
  split at h
  · obtain ⟨old, hold, rfl⟩ := h
    exact hold.id_eq
  · exact h.id_eq

section Heads

variable {s : Session} {h : OfferRequest}

end Heads

/-! ## Flushes -/

/-- What a repair makes of a row, however often it has flushed. -/
inductive Summed (c : Repair) (r0 r : OfferRequest) : Prop where
  | untouched (same : r = r0)
  | ended (evolves : Evolves r0 r) (target : c.target r0 = true) (closed : r.isOpen = false)
  | promoted (evolves : Evolves r0 r) (queued : r0.resultStatus = .overtimeQueued)
      (ready : c.ready r0 = true) (shown : Promoted c r0 r)

/-- The queries see the ledger of the repair's start, or a later one that a promotion has flushed. -/
structure Phase (c : Repair) (rows base : List OfferRequest) : Prop where
  summed : List.Forall₂ (Summed c) rows base
  unique : uniqueIndexes base = true
  start : base = rows ∨ c.Flushing rows

/-- A session anywhere in a repair that started from `rows`. -/
def Repairing (c : Repair) (rows : List OfferRequest) (s : Session) : Prop :=
  ∃ base, Phase c rows base ∧ Midway c base (Worked c base) s

section Flushes

variable {base : List OfferRequest} {s : Session} {r0 r h : OfferRequest} {owner : Nat}

theorem Summed.evolves (hr : Summed c r0 r) : Evolves r0 r := by
  cases hr with
  | untouched same => rw [same]; exact .refl r0
  | ended evolves => exact evolves
  | promoted evolves => exact evolves

theorem Worked.summed (hr : Worked c rows r0 r) : Summed c r0 r := by
  cases hr with
  | untouched same => exact .untouched same
  | ended evolves target closed => exact .ended evolves target closed
  | promoted evolves opened shown =>
    obtain ⟨_, _, hhead, hready⟩ := opened
    exact .promoted evolves (head_queued hhead).2.2 hready shown

theorem isOpen_of_target (htarget : c.target r = true) : r.isOpen = true := by
  unfold Repair.target at htarget
  rw [Bool.and_eq_true] at htarget
  exact (of_decide_eq_true htarget.1).2.2

theorem Promoted.occupying (hshown : Promoted c r0 r) : r.isOccupying = true := by
  unfold Promoted at hshown
  unfold OfferRequest.isOccupying
  cases hserver : c.ambient.currentServer <;> rw [hserver] at hshown <;> rw [hshown.1] <;> decide

theorem Promoted.not_queued (hshown : Promoted c r0 r) : r.resultStatus ≠ .overtimeQueued := by
  have hoccupying := hshown.occupying
  unfold OfferRequest.isOccupying at hoccupying
  intro hqueued
  rw [hqueued] at hoccupying
  cases hoccupying

/-- What happens to a row after a flush adds up with what had happened before. -/
theorem Summed.trans (hb : Summed c r0 b) (hr : Worked c base b r) :
    Summed c r0 r := by
  cases hb with
  | untouched same =>
    rw [← same]
    exact hr.summed
  | ended evolves target closed =>
    refine .ended (evolves.trans hr.evolves) target ?_
    cases hopen : r.isOpen with
    | false => rfl
    | true =>
      rw [hr.evolves.isOpen_before hopen] at closed
      cases closed
  | promoted evolves queued ready shown =>
    cases hr with
    | untouched same =>
      rw [same]
      exact .promoted evolves queued ready shown
    | ended _ target _ =>
      have hnone := rowFindings_promoted evolves ready shown
      unfold rowFindings at hnone
      unfold Repair.target at target
      rw [hnone] at target
      simp at target
    | promoted _ opened _ =>
      obtain ⟨_, _, hhead, _⟩ := opened
      exact absurd (head_queued hhead).2.2 shown.not_queued

theorem firstInQueue_eq_none (hnone : firstInQueue l = none) : l = [] := by
  cases l with
  | nil => rfl
  | cons row rest =>
    unfold firstInQueue at hnone
    split at hnone
    · cases hnone
    · split at hnone <;> cases hnone

theorem eq_of_not_queuedBefore (hab : queuedBefore a b = false)
    (hba : queuedBefore b a = false) : a.id = b.id := by
  unfold queuedBefore at hab hba
  cases ha : a.queueSequence <;> cases hb : b.queueSequence <;> rw [ha, hb] at hab hba <;>
    simp at hab hba <;> omega

namespace Phase

theorem refl (hunique : uniqueIndexes rows = true) : Phase c rows rows :=
  ⟨List.forall₂_same.mpr fun _ _ => .untouched rfl, hunique, .inl rfl⟩

theorem ids (hphase : Phase c rows base) (hids : (rows.map OfferRequest.id).Nodup) :
    (base.map OfferRequest.id).Nodup := by
  rw [map_id_of_forall₂ (hphase.summed.imp fun _ _ hr => hr.evolves)]
  exact hids

/-- A row of the seen ledger that is queued is a row of the start. -/
theorem mem_of_queued (hphase : Phase c rows base) (hr : r ∈ base)
    (hqueued : r.resultStatus = .overtimeQueued) : r ∈ rows := by
  obtain ⟨r0, hr0, hsummed⟩ := UnitOfWork.forall₂_exists_before hphase.summed r hr
  cases hsummed with
  | untouched same => exact same ▸ hr0
  | ended _ _ closed =>
    unfold OfferRequest.isOpen at closed
    rw [hqueued] at closed
    cases closed
  | promoted _ _ _ shown => exact absurd hqueued shown.not_queued

/-- A seat that is seen to be free was free at the start, or its holder is repaired. -/
theorem seatEnds (hphase : Phase c rows base) (hfree : c.seatFree base owner = true) :
    c.seatEnds rows owner = true := by
  refine List.all_eq_true.mpr fun r0 hr0 => ?_
  obtain ⟨r, hr, hsummed⟩ := UnitOfWork.forall₂_exists_after hphase.summed r0 hr0
  cases hscope : (r0.inScope c.ambient.currentServer owner && r0.isOccupying) with
  | false => rfl
  | true =>
    rw [Bool.not_true, Bool.false_or]
    cases hsummed with
    | untouched same =>
      have hnot := List.all_eq_true.mp hfree r hr
      rw [same, hscope] at hnot
      cases hnot
    | ended _ target _ => exact target
    | promoted _ queued =>
      rw [Bool.and_eq_true, OfferRequest.isOccupying, queued] at hscope
      cases hscope.2

/-- The head of a queue in which a seat is handed over is the one of the start, and it is ready. -/
theorem head (hphase : Phase c rows base) (hclean : c.Clean rows)
    (hids : (rows.map OfferRequest.id).Nodup) (howner : rows.any (c.handsOver owner) = true)
    (hfree : c.seatFree base owner = true) :
    ∃ h, c.head base owner = some h ∧ c.ready h = true := by
  rcases hphase.start with hsame | hflushing
  · subst hsame
    exact hclean.heads owner howner (.inl hfree)
  obtain ⟨h, hhead, hready⟩ := hclean.heads owner howner (.inr ⟨hflushing, hphase.seatEnds hfree⟩)
  obtain ⟨hmem, hscope, hqueued⟩ := head_queued hhead
  have hbase : h ∈ base := by
    obtain ⟨b, hb, hsummed⟩ := UnitOfWork.forall₂_exists_after hphase.summed h hmem
    cases hsummed with
    | untouched same => exact same ▸ hb
    | ended _ target _ =>
      rw [not_target_of_ready hqueued hready] at target
      cases target
    | promoted evolves _ _ shown =>
      have hnot := List.all_eq_true.mp hfree b hb
      rw [shown.occupying, evolves.inScope_eq, hscope] at hnot
      cases hnot
  refine ⟨h, ?_, hready⟩
  have hin : h ∈ base.filter fun r => r.inScope c.ambient.currentServer owner && r.isQueued := by
    refine List.mem_filter.mpr ⟨hbase, ?_⟩
    rw [hscope, OfferRequest.isQueued, hqueued]
    rfl
  cases hfirst : c.head base owner with
  | none =>
    unfold Repair.head at hfirst
    rw [firstInQueue_eq_none hfirst] at hin
    cases hin
  | some first =>
    obtain ⟨hfirstMem, hfirstScope, hfirstQueued⟩ := head_queued hfirst
    have hfirstRows := hphase.mem_of_queued hfirstMem hfirstQueued
    have hbefore : queuedBefore first h = false := by
      refine firstInQueue_min hhead first (List.mem_filter.mpr ⟨hfirstRows, ?_⟩)
      rw [hfirstScope, OfferRequest.isQueued, hfirstQueued]
      rfl
    have hid := eq_of_not_queuedBefore hbefore (firstInQueue_min hfirst h hin)
    rw [eq_of_id_eq hids hfirstRows hmem hid]

end Phase

theorem Repairing.summed (hs : Repairing c rows s) : List.Forall₂ (Summed c) rows s.live := by
  obtain ⟨base, hphase, hmidway⟩ := hs
  exact UnitOfWork.forall₂_trans (S := Worked c base) (T := Summed c) (fun _ _ _ hb hr => hb.trans hr)
    hphase.summed hmidway.live

theorem Repairing.unique (hs : Repairing c rows s) (hids : (rows.map OfferRequest.id).Nodup) :
    uniqueIndexes s.live = true := by
  obtain ⟨base, hphase, hmidway⟩ := hs
  exact hmidway.unique (hphase.ids hids) hphase.unique

end Flushes

/-! ## Repairs -/

section Repairs

variable {s : Session} {r0 : OfferRequest} {f : Finding}

theorem Midway.seen (hs : Midway c rows (Worked c rows) s)
    (hids : (rows.map OfferRequest.id).Nodup) : Seen s := by
  refine ⟨fun t ht hopen => ?_, hs.ids Worked.id_eq hids⟩
  obtain ⟨old, _, hstored, hw⟩ := UnitOfWork.forall₂_exists_before hs.carried t ht
  exact ⟨old, hstored, hw.evolves.isOpen_before hopen, hw.evolves.identity_eq.symm⟩

theorem Repair.Clean.named (hclean : c.Clean rows) (hr0 : r0 ∈ rows) (hblocked : c.blocked r0 = true)
    {offer : Offer} (hlookup : c.lookup r0 = some offer) :
    (∃ publicId, (offerFilter c.ambient offer).offerPublicId = some publicId) ∧
      (offerFilter c.ambient offer).admits r0 = true := by
  have hcovered := hclean.covered r0 hr0 hblocked
  unfold Repair.covered at hcovered
  rw [hlookup] at hcovered
  simp only [Bool.and_eq_true] at hcovered
  exact ⟨Option.isSome_iff_exists.mp hcovered.1, hcovered.2⟩

end Repairs

end Working

end TradingBot.Overtime
