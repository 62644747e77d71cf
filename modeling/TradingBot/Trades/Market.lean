import TradingBot.Trades.TakenKey
import TradingBot.Trades.Effects
import TradingBot.Misc.Run

/-!
# The market: offers, overtime requests and trades together

One server as a state machine over offers, the request ledger and the trades. Offers are published;
trade requests are executed, which covers direct trades, trades in the in-flight grace, and the
creation and approval of an overtime request; the other overtime operations, the expiries and the
outage recovery run on their own. The invariant: every open overtime request refers to an active
offer.
-/

namespace TradingBot.Trades

open TradingBot TradingBot.Misc TradingBot.Overtime

/-- The overtime operations with a transaction of their own. Creation, approval and completion are
inside the execution of a trade. -/
def standsAlone : Op → Bool
  | .create .. | .approve .. | .recordCompletedTrade .. => false
  | _ => true

inductive MarketOp where
  | publish (offer : Offer)
  | trade (ctx : TradeContext) (request : TradeRequest)
  | overtime (call : Call)

namespace MarketOp

def step (db : TradeDb) : MarketOp → TradeDb
  | publish offer =>
    if offer.status = .active ∧ ∀ o ∈ db.offers, o.id ≠ offer.id then
      { db with offers := db.offers ++ [offer] }
    else db
  | trade ctx request => (execute ctx request db).2
  | overtime call =>
    if standsAlone call.op then
      match commitWork db (perform call) with
      | .ok (_, db') => db'
      | .error _ => db
    else db

def RunsOn (here : Server) : MarketOp → Prop
  | publish _ => True
  | trade ctx _ => ctx.currentServer = here
  | overtime call => call.ambient.currentServer = here

end MarketOp

def LiveRequest (db : TradeDb) (offerId : Nat) : Prop :=
  ∃ row ∈ db.rows, row.isOpen = true ∧ row.localOfferId = some offerId

open OfferRequestStatus in
structure ReachesTrade (ctx : TradeContext) (request : TradeRequest) (db : TradeDb)
    (offer : Offer) : Prop where
  direct : request.approval = none
  entered : entryRefusal ctx = none
  offerFound : offerAtLedger ctx request.data db = some offer
  received : classifyTradeRequestIntake ctx offer ≠ .approval
  fresh : ∀ row, rowOfKey ctx request.data db offer = some row →
    row.resultStatus ∈ [OfferRequestStatus.received, authorized]
  openForTrade : offerClosedForTrade ctx false offer = false
  checked : checkRejection ctx request.data offer = none
  principals : ctx.principalMissing = false
  unmatched : (truthyText request.data.idempotencyKey).bind db.tradeByKey? = none

/-- A direct trade of the whole remainder, or the finalisation of an outage, over a live request. -/
def EndsOfferAlone (db : TradeDb) : MarketOp → Prop
  | .trade ctx request => ∃ offer, ReachesTrade ctx request db offer ∧
      offer.remainingQuantity = some request.data.quantity ∧ LiveRequest db offer.id
  | .overtime call => match call.op with
    | .finalizeOutageRecovery _ candidates => ∃ id ∈ candidates, LiveRequest db id
    | _ => False
  | .publish _ => False

/-! ## The invariant -/

def Refers (here : Server) (offer : Offer) (row : OfferRequest) : Prop :=
  row.workflowKind = .overtime ∧ row.localOfferId = some offer.id ∧
    nonemptyText (some offer.offerPublicId) = some row.offerPublicId ∧
    row.requestHomeServer = normalizeServer offer.homeServer here

structure Served (here : Server) (db : TradeDb) : Prop where
  offerIds : (db.offers.map Offer.id).Nodup
  rowIds : (db.rows.map OfferRequest.id).Nodup
  active : ∀ row ∈ db.rows, row.isOpen = true →
    ∃ offer ∈ db.offers, Refers here offer row ∧ offer.status = .active

section Carry

variable {here : Server} {db db' : TradeDb} {ended : Nat → Prop} {offer : Offer}
  {row : OfferRequest} {ambient : Ambient}

theorem Refers.of_evolves {a b : OfferRequest} (h : Evolves a b) :
    Refers here offer b ↔ Refers here offer a := by
  unfold Refers
  rw [h.workflow_eq, h.localOfferId_eq, h.offerPublicId_eq, h.home_eq]

theorem Refers.of_moves {a b : Offer} (h : OfferMoves ended a b) :
    Refers here b row ↔ Refers here a row := by
  obtain ⟨hid, hpublic, hhome, _⟩ := h
  unfold Refers
  rw [hid, hpublic, hhome]

theorem Refers.admits (hserver : ambient.currentServer = here)
    (h : Refers here offer row) (hopen : row.isOpen = true) :
    (offerFilter ambient offer).admits row = true := by
  obtain ⟨hkind, hoffer, hpublic, hhome⟩ := h
  unfold RequestFilter.admits offerFilter
  simp only [hkind, hopen, hoffer, hpublic, hhome, hserver]
  simp

theorem Served.carry (h : Served here db)
    (hoffers : List.Forall₂ (OfferMoves ended) db.offers db'.offers)
    (hids : (db'.rows.map OfferRequest.id).Nodup)
    (hrows : ∀ row ∈ db'.rows, row.isOpen = true → (∃ old ∈ db.rows, Evolves old row) ∨
      ∃ offer ∈ db'.offers, Refers here offer row ∧ offer.status = .active)
    (hclosed : ∀ offer ∈ db'.offers, ended offer.id → ∀ row ∈ db'.rows, row.isOpen = true →
      ¬ Refers here offer row) : Served here db' := by
  refine ⟨by rw [offerIds_of_forall₂ hoffers]; exact h.offerIds, hids, fun row hrow hopen => ?_⟩
  rcases hrows row hrow hopen with ⟨old, hold, hev⟩ | hnew
  · obtain ⟨offer, hoffer, hrefers, hactive⟩ := h.active old hold (hev.isOpen_before hopen)
    obtain ⟨after, hafter, hmoves⟩ := UnitOfWork.forall₂_exists_after hoffers offer hoffer
    have hrefers' : Refers here after row :=
      (Refers.of_moves hmoves).mpr ((Refers.of_evolves hev).mpr hrefers)
    refine ⟨after, hafter, hrefers', ?_⟩
    rcases hmoves.2.2.2 with hsame | hended
    · exact hsame.trans hactive
    · rw [← hmoves.1] at hended
      exact absurd hrefers' (hclosed after hafter hended row hrow hopen)
  · exact hnew

theorem offers_refl (ended : Nat → Prop) (offers : List Offer) :
    List.Forall₂ (OfferMoves ended) offers offers :=
  List.forall₂_same.mpr fun a _ => .refl ended a

theorem Served.of_tables (h : Served here db) (hmoves : List.Forall₂ Evolves db.rows db'.rows)
    (hoffers : List.Forall₂ (OfferMoves ended) db.offers db'.offers)
    (hclosed : ∀ offer ∈ db'.offers, ended offer.id → ∀ row ∈ db'.rows, row.isOpen = true →
      ¬ Refers here offer row) : Served here db' := by
  refine h.carry hoffers ?_ (fun row hrow _ => .inl ?_) hclosed
  · rw [map_id_of_forall₂ hmoves]
    exact h.rowIds
  · exact UnitOfWork.forall₂_exists_before hmoves row hrow

theorem TradeDb.seen (hids : (db.rows.map OfferRequest.id).Nodup) : Seen db.session :=
  seen_load hids

theorem evolved_of_ok {α : Type} {m : Work α} {a : α} {s' : Session} (hm : EvolvesRows m)
    (h : m db.session = (.ok a, s')) : List.Forall₂ Evolves db.rows s'.live := by
  have hmoves := (moves_of_ok hm h).live_forall₂
  rw [show UnitOfWork.live db.session.rows = db.rows from UnitOfWork.live_load db.rows] at hmoves
  exact hmoves

theorem Served.ledgerWork {α : Type} {m : Work α} {a : α} (h : Served here db)
    (hok : commitWork db m = .ok (a, db')) (hevolves : EvolvesRows m)
    (hsame : Txn.Keeps SameOffers m) : Served here db' := by
  obtain ⟨s', hrun, _, rfl⟩ := commitWork_ok hok
  have hoffers : s'.offers = db.offers := offers_of_ok hsame hrun
  have hkept : List.Forall₂ (OfferMoves fun _ => False) db.offers s'.offers := by
    rw [hoffers]
    exact offers_refl _ _
  exact h.of_tables (evolved_of_ok hevolves hrun) hkept fun _ _ hf => hf.elim

theorem Served.endingWork {α : Type} {m : Work α} {a : α}
    (hserver : ambient.currentServer = here) (h : Served here db)
    (hok : commitWork db m = .ok (a, db')) (hevolves : EvolvesRows m)
    (hends : ∀ s', m db.session = (.ok a, s') → ∃ ended, EndsClosed ambient ended db.session s') :
    Served here db' := by
  obtain ⟨s', hrun, _, rfl⟩ := commitWork_ok hok
  obtain ⟨ended, hoffers, hclosed⟩ := hends s' hrun
  refine h.of_tables (evolved_of_ok hevolves hrun) (hoffers h.offerIds) ?_
  intro offer hoffer hended row hrow hopen hrefers
  have hnot := hclosed h.offerIds offer hoffer hended row hrow hopen
  rw [hrefers.admits hserver hopen] at hnot
  cases hnot

theorem Served.storeRow (h : Served here db) {ledger : LedgerInHand}
    (hclosed : ledger.row.isOpen = false)
    (hoffers : List.Forall₂ (OfferMoves ended) db.offers db'.offers)
    (hrows : db'.rows = ledger.store db.rows)
    (hfree : ∀ offer ∈ db'.offers, ended offer.id → ∀ row ∈ db.rows, row.isOpen = true →
      ¬ Refers here offer row) : Served here db' := by
  have hold : ∀ row ∈ db'.rows, row.isOpen = true → row ∈ db.rows := by
    intro row hrow hopen
    rw [hrows] at hrow
    unfold LedgerInHand.store at hrow
    split at hrow
    · rcases List.mem_append.mp hrow with hrow | hrow
      · exact hrow
      · rw [List.mem_singleton.mp hrow] at hopen
        rw [show ({ ledger.row with id := nextId db.rows } : OfferRequest).isOpen =
          ledger.row.isOpen from rfl, hclosed] at hopen
        cases hopen
    · obtain ⟨old, hmem, rfl⟩ := List.mem_map.mp hrow
      split at hopen
      · rw [hclosed] at hopen
        cases hopen
      · rw [if_neg ‹_›]
        exact hmem
  refine h.carry hoffers ?_ (fun row hrow hopen => .inl ⟨row, hold row hrow hopen, .refl row⟩)
    fun offer hoffer hended row hrow hopen => hfree offer hoffer hended row
      (hold row hrow hopen) hopen
  rw [hrows]
  unfold LedgerInHand.store
  split
  · rw [List.map_append]
    refine List.Nodup.append h.rowIds (List.nodup_singleton _) ?_
    intro id hmem hnew
    obtain ⟨row, hrow, rfl⟩ := List.mem_map.mp hmem
    have hlt := id_lt_nextId hrow
    rw [List.mem_singleton.mp hnew] at hlt
    exact absurd hlt (Nat.lt_irrefl _)
  · rw [List.map_map]
    have hmap : db.rows.map (OfferRequest.id ∘ fun r =>
        if r.id = ledger.row.id then ledger.row else r) = db.rows.map OfferRequest.id := by
      apply List.map_congr_left
      intro row _
      simp only [Function.comp_apply]
      split
      · rename_i hid
        exact hid.symm
      · rfl
    rw [hmap]
    exact h.rowIds

end Carry

section Overtime

variable {here : Server} {db db' : TradeDb} {call : Call}

theorem perform_evolves (hop : ∀ command flush, call.op ≠ .create command flush) :
    EvolvesRows (perform call) :=
  fun s => perform_keeps (evolves_rule call.ambient)
    (admits_of_ends (fun _ _ h => permits_ending h) call s)
    (fun _ _ _ _ => markPresented_spares fun hf => hf.elim) hop

theorem perform_sameOffers (hoffers : call.op.changesOffers = false)
    (hop : ∀ command flush, call.op ≠ .create command flush) :
    Txn.Keeps SameOffers (perform call) :=
  fun s => perform_keeps_ledger (sameOffers_rule call.ambient)
    (admits_of_ends (fun _ _ _ => trivial) call s) markPresented_sameOffers hoffers hop

theorem not_create_of_standsAlone (h : standsAlone call.op = true) :
    ∀ command flush, call.op ≠ .create command flush := by
  intro command flush hop
  rw [hop] at h
  cases h

theorem Served.overtime (h : Served here db) (hserver : call.ambient.currentServer = here)
    (halone : standsAlone call.op = true) (hcond : ¬ EndsOfferAlone db (.overtime call))
    {u : Unit} (hok : commitWork db (perform call) = .ok (u, db')) : Served here db' := by
  have hcreate := not_create_of_standsAlone halone
  have hevolves := perform_evolves hcreate
  by_cases hchanges : call.op.changesOffers = false
  · exact h.ledgerWork hok hevolves (perform_sameOffers hchanges hcreate)
  · have hseen : Seen db.session := TradeDb.seen h.rowIds
    cases hop : call.op with
    | expireOffer =>
      refine h.endingWork hserver hok hevolves fun s' hrun => ?_
      simp only [perform, hop] at hrun
      exact ⟨_, expireOfferAuthoritatively_endsClosed hseen hrun⟩
    | expireOffers =>
      refine h.endingWork hserver hok hevolves fun s' hrun => ?_
      simp only [perform, hop] at hrun
      obtain ⟨expired, hends⟩ := expireOffersAuthoritatively_endsClosed hseen hrun
      exact ⟨_, hends⟩
    | finalizeOutageRecovery mode candidates =>
      obtain ⟨s', hrun, _, rfl⟩ := commitWork_ok hok
      have hmoves := evolved_of_ok hevolves hrun
      simp only [perform, hop] at hrun
      have hkeeps : Txn.Keeps (OffersEnd (· ∈ candidates))
          (finalizeOutageRecovery call.ambient mode candidates call.now) :=
        finalizeOutageRecovery_ends
      have hends := hkeeps db.session
      rw [hrun] at hends
      refine h.of_tables hmoves (hends h.offerIds) fun offer _ hended row hrow hopen hrefers => ?_
      obtain ⟨old, hold, hev⟩ := UnitOfWork.forall₂_exists_before hmoves row hrow
      simp only [EndsOfferAlone, hop] at hcond
      exact hcond ⟨offer.id, hended, old, hold, hev.isOpen_before hopen,
        hev.localOfferId_eq.symm.trans hrefers.2.1⟩
    | approve =>
      rw [hop] at halone
      cases halone
    | _ =>
      rw [hop] at hchanges
      exact absurd rfl hchanges

end Overtime

/-! ## Trades -/

section Trade

variable {here : Server} {ctx : TradeContext} {request : TradeRequest} {db db' : TradeDb}
  {offer traded : Offer} {ledger : LedgerInHand} {row : OfferRequest} {rejection : Rejection}
  {data : TradeCreate}

theorem applyOfferRequestDecision_some {utcNow : Int} {row' : OfferRequest} {d : Decision}
    (h : applyOfferRequestDecision utcNow row d = some row') :
    row'.resultStatus = d.resultStatus ∧ row'.id = row.id := by
  unfold applyOfferRequestDecision at h
  split at h
  · cases h
  · cases h
    exact ⟨rfl, rfl⟩

theorem not_open_of_status {status : OfferRequestStatus}
    (h : row.resultStatus = status) (hstatus : status ∉ overtimeNonterminalStatuses) :
    row.isOpen = false := by
  unfold OfferRequest.isOpen
  rw [h]
  exact decide_eq_false hstatus

theorem releaseAfterRejection_evolves (row : OfferRequest) (reason : String) :
    EvolvesRows (releaseAfterRejection ctx row reason) := by
  refine Txn.keeps_bind (invalidateRequest_evolves _ _ _ _) fun _ => ?_
  cases row.offerOwnerUserId with
  | none => exact Txn.keeps_pure ()
  | some owner =>
    exact Txn.keeps_bind ((evolves_rule ctx.ambient).promote _ _ _ _ _) fun _ => Txn.keeps_pure ()

theorem Served.store (h : Served here db) {isNew : Bool}
    (hclosed : row.isOpen = false) (hrows : db'.rows = LedgerInHand.store ⟨row, isNew⟩ db.rows)
    (hoffers : db'.offers = db.offers) : Served here db' := by
  have hkept : List.Forall₂ (OfferMoves fun _ => False) db.offers db'.offers := by
    rw [hoffers]
    exact offers_refl _ _
  have hinHand : (LedgerInHand.mk row isNew).row.isOpen = false := hclosed
  exact h.storeRow hinHand hkept hrows fun _ _ hf => hf.elim

theorem Served.commitRejected (h : Served here db)
    (hstatus : rejection.resultStatus ∉ overtimeNonterminalStatuses) :
    Served here (commitRejected ctx db ledger rejection).2 := by
  unfold Trades.commitRejected
  split
  · cases hwork : commitWork db
        (releaseAfterRejection ctx ledger.row rejection.internalFailureCode) with
    | error e => exact h
    | ok result =>
      exact h.ledgerWork hwork (releaseAfterRejection_evolves _ _)
        (releaseAfterRejection_sameOffers _ _)
  · split
    · exact h
    · rename_i row hrow
      dsimp only
      unfold commitRows
      split
      · have hclosed := not_open_of_status (applyOfferRequestDecision_some hrow).1 hstatus
        exact h.store hclosed rfl rfl
      · exact h

theorem amountRejection_status (offer : Offer) (data : TradeCreate) (check : TradeAmountCheck) :
    (amountRejection offer data check).resultStatus ∉ overtimeNonterminalStatuses := by
  unfold amountRejection
  split <;> simp [overtimeNonterminalStatuses]

theorem checkRejection_status (h : checkRejection ctx data offer = some rejection) :
    rejection.resultStatus ∉ overtimeNonterminalStatuses := by
  unfold checkRejection at h
  split_ifs at h
  · cases h
    decide
  · cases h
    decide
  · cases h
    decide
  · dsimp only at h
    split at h
    · cases h
      exact amountRejection_status offer data _
    · obtain ⟨violation, _, rfl⟩ := Option.map_eq_some_iff.mp h
      simp [overtimeNonterminalStatuses]

theorem Served.hold (h : Served here db) : Served here (hold ctx request db).2 := by
  unfold Trades.hold
  split
  · exact h
  · split
    · unfold rejectTradeOfferContention
      split
      · exact h
      · dsimp only
        split
        · exact h
        · exact h.commitRejected (by decide)
    · split <;> exact h

theorem admitOvertimeRequest_active {command : OvertimeRequestCreateCommand} {home : Server}
    {offerPublicId : String} {now : Int} {s : Session} {owner : Nat}
    (h : admitOvertimeRequest command home offerPublicId now s = .ok owner) :
    command.offer.status = .active := by
  unfold admitOvertimeRequest at h
  split at h
  · cases h
  · split at h
    · cases h
    · exact not_not.mp ‹_›

theorem Served.createOvertimeRequestForTrade (h : Served here db)
    (hserver : ctx.currentServer = here) (hoffer : db.offer? data.offerId = some offer) :
    Served here (createOvertimeRequestForTrade ctx offer data db).2 := by
  unfold Trades.createOvertimeRequestForTrade
  split
  · exact h
  · cases hwork : commitWork db
        (createOvertimeRequest ctx.ambient (overtimeCommand ctx offer data) true ctx.now) with
    | error e => cases e <;> exact h
    | ok result =>
      obtain ⟨result, db'⟩ := result
      have hserved : Served here db' := by
        obtain ⟨s', hrun, _, rfl⟩ := commitWork_ok hwork
        obtain ⟨key, publicId, _, hpublic, ⟨_, _, _, rfl⟩ | ⟨owner, promoted, row, s1, hadmitted,
          hrow, hflush, hpromote, _⟩⟩ := createOvertimeRequest_ok hrun
        · rw [TradeDb.session_live]
          exact h
        · rw [overtimeCommand_home] at hadmitted hrow
          have hrest : RowsMove Evolves ⟨UnitOfWork.insert row db.session.rows, db.offers⟩ s' :=
            UnitOfWork.moves_trans (moves_of_ok ((evolves_rule ctx.ambient).flushIf true) hflush)
              (moves_of_ok ((evolves_rule ctx.ambient).promote _ _ _ _ _) hpromote)
          have hmoves : List.Forall₂ Evolves (db.rows ++ [row]) s'.live := by
            have hlive := hrest.live_forall₂
            rw [UnitOfWork.live_insert] at hlive
            rw [show UnitOfWork.live db.session.rows = db.rows from
              UnitOfWork.live_load db.rows] at hlive
            exact hlive
          have hoffers : s'.offers = db.offers := createOvertimeRequest_offers hrun
          have hkept : List.Forall₂ (OfferMoves fun _ => False) db.offers s'.offers := by
            rw [hoffers]
            exact offers_refl _ _
          have hrefers : Refers here offer row ∧ offer.status = .active := by
            refine ⟨?_, admitOvertimeRequest_active hadmitted⟩
            subst hrow
            rw [← hserver]
            exact ⟨rfl, rfl, hpublic, rfl⟩
          refine h.carry hkept ?_ (fun r' hr' _ => ?_) fun _ _ hf => hf.elim
          · dsimp only
            rw [map_id_of_forall₂ hmoves, List.map_append]
            refine List.Nodup.append h.rowIds (List.nodup_singleton _) ?_
            intro id hmem hnew
            obtain ⟨old, hold, rfl⟩ := List.mem_map.mp hmem
            have hlt := id_lt_nextId hold
            have hid : row.id = nextId db.rows := by
              subst hrow
              show nextId db.session.live = nextId db.rows
              rw [TradeDb.session_live]
            rw [List.mem_singleton.mp hnew, hid] at hlt
            exact absurd hlt (Nat.lt_irrefl _)
          · obtain ⟨r, hr, hev⟩ := UnitOfWork.forall₂_exists_before hmoves r' hr'
            rcases List.mem_append.mp hr with hr | hr
            · exact .inl ⟨r, hr, hev⟩
            · rw [List.mem_singleton.mp hr] at hev
              refine .inr ⟨offer, ?_, (Refers.of_evolves hev).mpr hrefers.1, hrefers.2⟩
              dsimp only
              rw [hoffers]
              exact List.mem_of_find?_eq_some hoffer
      dsimp only
      split <;> exact hserved

theorem markCommitted_sameStatus (id : Nat) : Txn.Keeps (OffersEnd fun _ => False)
    (updateOffer id fun o => { o with overtimeTradeCommitted := true }) :=
  fun _ => updateOffer_ends fun _ _ _ => ⟨rfl, rfl, rfl, .inl rfl⟩

theorem completion_evolves (ctx : TradeContext) (id tradeId decidedBy offerId : Nat) :
    EvolvesRows (recordCompletedTrade ctx.ambient id tradeId decidedBy ctx.now >>= fun _ =>
      updateOffer offerId fun o => { o with overtimeTradeCommitted := true }) :=
  Txn.keeps_bind ((evolves_rule ctx.ambient).decides (permits_ending (ends_tradeCompletion _ _ _)))
    fun _ => (evolves_rule ctx.ambient).offers _ _

theorem completion_offers (ctx : TradeContext) (id tradeId decidedBy offerId : Nat) :
    Txn.Keeps (OffersEnd fun _ => False)
      (recordCompletedTrade ctx.ambient id tradeId decidedBy ctx.now >>= fun _ =>
        updateOffer offerId fun o => { o with overtimeTradeCommitted := true }) := by
  refine Txn.keeps_bind (fun s => ?_) fun _ => markCommitted_sameStatus offerId
  exact .of_same (applyOvertimeTransition_sameOffers _ _ s)

theorem Served.returnExistingTrade (h : Served here db) (trade : Trade) :
    Served here (returnExistingTrade ctx request offer ledger trade db).2 := by
  unfold Trades.returnExistingTrade
  split
  · exact h
  · split
    · cases hwork : commitWork db (recordCompletedTrade ctx.ambient ledger.row.id trade.id
          (overtimeDecidedBy request ledger.row) ctx.now >>= fun _ =>
          updateOffer offer.id (fun o => { o with overtimeTradeCommitted := true })) with
      | error e => cases e <;> exact h
      | ok result =>
        obtain ⟨u, db'⟩ := result
        obtain ⟨s', hrun, _, rfl⟩ := commitWork_ok hwork
        have hoffers := completion_offers ctx ledger.row.id trade.id
          (overtimeDecidedBy request ledger.row) offer.id db.session
        rw [hrun] at hoffers
        exact h.of_tables (evolved_of_ok (completion_evolves ctx _ _ _ _) hrun)
          (hoffers h.offerIds) fun _ _ hf => hf.elim
    · split
      · exact h
      · rename_i row hrow
        dsimp only
        split
        · have hclosed := not_open_of_status (applyOfferRequestDecision_some hrow).1
            (by simp [overtimeNonterminalStatuses])
          exact h.store hclosed rfl rfl
        · exact h

theorem Served.validate (h : Served here db) :
    Served here (validate ctx request offer ledger db).2 := by
  unfold Trades.validate
  split
  · split
    · exact h
    · exact h.commitRejected (by decide)
  · split
    · exact h.commitRejected (checkRejection_status ‹_›)
    · split
      · exact h
      · split
        · exact h.returnExistingTrade _
        · exact h

theorem applyOfferTradeMutation_ok {quantity : Int} {changed : Bool}
    (h : applyOfferTradeMutation offer quantity = .ok (traded, changed)) :
    traded.id = offer.id ∧ traded.offerPublicId = offer.offerPublicId ∧
      traded.homeServer = offer.homeServer ∧
      (traded.status = offer.status ∨ offer.remainingQuantity = some quantity) := by
  unfold applyOfferTradeMutation at h
  split at h
  · cases h
  · rename_i before hbefore
    dsimp only at h
    split at h
    · cases h
    · split at h
      · cases h
        refine ⟨rfl, rfl, rfl, .inr ?_⟩
        rw [hbefore]
        congr 1
        omega
      · split at h
        · cases h
          exact ⟨rfl, rfl, rfl, .inl rfl⟩
        · cases h
          exact ⟨rfl, rfl, rfl, .inl rfl⟩
        · split at h
          · cases h
            exact ⟨rfl, rfl, rfl, .inl rfl⟩
          · split at h
            · cases h
              exact ⟨rfl, rfl, rfl, .inl rfl⟩
            · cases h

theorem storeOffer_moves {ended : Nat → Prop} {offers : List Offer}
    (hids : (offers.map Offer.id).Nodup) (hmem : offer ∈ offers)
    (hmoves : OfferMoves ended offer traded) :
    List.Forall₂ (OfferMoves ended) offers (storeOffer traded offers) := by
  unfold storeOffer
  rw [List.forall₂_map_right_iff]
  refine List.forall₂_same.mpr fun o ho => ?_
  split
  · rename_i hid
    rw [List.inj_on_of_nodup_map hids ho hmem (hid.trans hmoves.1)]
    exact hmoves
  · exact .refl ended o

def ApprovedRow (request : TradeRequest) (db : TradeDb) (offer : Offer) (ledger : LedgerInHand) :
    Prop :=
  ∀ approval, request.approval = some approval →
    db.row? ledger.row.id = some ledger.row ∧ ledger.row.localOfferId = some offer.id

theorem Served.commitTrade (h : Served here db) (hserver : ctx.currentServer = here)
    (hoffer : offer ∈ db.offers) (happroved : ApprovedRow request db offer ledger)
    (hlive : request.approval = none → offer.remainingQuantity = some request.data.quantity →
      ¬ LiveRequest db offer.id) :
    Served here (commitTrade ctx request offer ledger db).2 := by
  unfold Trades.commitTrade
  split
  · exact h
  · exact h
  · rename_i traded changed hmutation
    obtain ⟨hid, hpublic, hhome, hstatus⟩ := applyOfferTradeMutation_ok hmutation
    -- the offer may end only when the trade takes its whole remainder
    let ended : Nat → Prop := fun id =>
      id = offer.id ∧ offer.remainingQuantity = some request.data.quantity
    have hmoves : OfferMoves ended offer traded :=
      ⟨hid, hpublic, hhome, hstatus.imp_right fun hwhole => ⟨rfl, hwhole⟩⟩
    have hstored := storeOffer_moves h.offerIds hoffer hmoves
    have hfree : request.approval = none → ∀ o : Offer, ended o.id → ∀ row ∈ db.rows,
        row.isOpen = true → ¬ Refers here o row := by
      rintro hdirect o ⟨hoid, hwhole⟩ row hrow hopen hrefers
      exact hlive hdirect hwhole ⟨row, hrow, hopen, hoid ▸ hrefers.2.1⟩
    dsimp only
    split
    · exact h
    · split
      · split
        · rename_i hwork
          obtain ⟨s', hrun, _, rfl⟩ := commitWork_ok hwork
          have hids : ((storeOffer traded db.offers).map Offer.id).Nodup := by
            rw [offerIds_of_forall₂ hstored]
            exact h.offerIds
          cases happroval : request.approval with
          | some approval =>
            rw [happroval] at hrun
            simp only [Option.isSome_some, if_true] at hrun
            obtain ⟨hrow, hrefers⟩ := happroved approval happroval
            have hseen : Seen (TradeDb.session { db with
                offers := storeOffer traded db.offers
                trades := db.trades ++ (buildTrades ctx request.data offer db.trades).1 }) :=
              TradeDb.seen h.rowIds
            have hledger : (TradeDb.session { db with
                offers := storeOffer traded db.offers
                trades := db.trades ++ (buildTrades ctx request.data offer db.trades).1 }).row?
                  ledger.row.id = some ledger.row := by
              rw [Session.row?, TradeDb.session_live]
              exact hrow
            obtain ⟨hends, hclosed⟩ := approveRequest_endsClosed hseen hledger hrefers hrun
            have hevolves := evolved_of_ok (fun _ => (evolves_rule ctx.ambient).approveRequest
              (fun _ _ _ => permits_ending (ends_tradeCompletion _ _ _))
              fun _ => mayInvalidate_any _ _ _) hrun
            have hfirst : List.Forall₂ (OfferMoves (· = offer.id)) db.offers
                (storeOffer traded db.offers) :=
              hstored.imp fun _ _ hm => hm.mono fun _ hended => hended.1
            refine h.of_tables hevolves (offersMove_trans hfirst (hends hids)) fun o ho hended row hrow hopen hrefers' => ?_
            have hnot := hclosed hids o ho hended row hrow hopen
            rw [hrefers'.admits hserver hopen] at hnot
            cases hnot
          | none =>
            rw [happroval] at hrun
            simp only [Option.isSome_none, Bool.false_eq_true, if_false] at hrun
            have hkeeps := completion_offers ctx ledger.row.id
              (buildTrades ctx request.data offer db.trades).2.id
              (overtimeDecidedBy request ledger.row) offer.id (TradeDb.session { db with
                offers := storeOffer traded db.offers
                trades := db.trades ++ (buildTrades ctx request.data offer db.trades).1 })
            rw [hrun] at hkeeps
            have hevolves := evolved_of_ok (completion_evolves ctx _ _ _ _) hrun
            have hsecond : List.Forall₂ (OfferMoves ended) (storeOffer traded db.offers)
                s'.offers := (hkeeps hids).imp fun _ _ hm => hm.mono fun _ hf => hf.elim
            refine h.of_tables hevolves (offersMove_trans hstored hsecond) fun o _ hended row hrow hopen hrefers => ?_
            obtain ⟨old, hold, hev⟩ := UnitOfWork.forall₂_exists_before hevolves row hrow
            exact hfree happroval o hended old hold (hev.isOpen_before hopen)
              ((Refers.of_evolves hev).mp hrefers)
        · exact h
      · rename_i hdirect
        split
        · exact h
        · rename_i row hrow
          split
          · have hnone : request.approval = none := by
              cases happroval : request.approval with
              | none => rfl
              | some approval => exact absurd (.inl (by rw [happroval]; rfl)) hdirect
            have hclosed : (LedgerInHand.mk row ledger.isNew).row.isOpen = false :=
              not_open_of_status (applyOfferRequestDecision_some hrow).1
                (by simp [overtimeNonterminalStatuses])
            exact h.storeRow hclosed hstored rfl fun o _ hended => hfree hnone o hended
          · exact h

/-! ## The stages of one execution -/

def Fits (ctx : TradeContext) (request : TradeRequest) (db : TradeDb) : Stage → Prop
  | .start => True
  | .locked | .cleared => entryRefusal ctx = none
  | .holding offer =>
    entryRefusal ctx = none ∧ offerAtLedger ctx request.data db = some offer
  | .recorded offer ledger =>
    entryRefusal ctx = none ∧ offerAtLedger ctx request.data db = some offer ∧
      ApprovedRow request db offer ledger ∧
      (request.approval = none → classifyTradeRequestIntake ctx offer ≠ .approval ∧
        ∀ row, rowOfKey ctx request.data db offer = some row →
          row.resultStatus ∈ [OfferRequestStatus.received, .authorized])
  | .unmatched offer ledger =>
    offerAtLedger ctx request.data db = some offer ∧ ApprovedRow request db offer ledger ∧
      (request.approval = none → ReachesTrade ctx request db offer)
  | .done _ => True

def Underway (here : Server) (ctx : TradeContext) (request : TradeRequest) (db : TradeDb) :
    Stage × TradeDb → Prop
  | (.done _, after) => Served here after
  | (stage, after) => after = db ∧ Fits ctx request db stage

theorem mem_of_offerAtLedger (h : offerAtLedger ctx data db = some offer) :
    offer ∈ db.offers ∧ offer.id = data.offerId := by
  have hfound := offerAtLedger_some h
  have hid := List.find?_some hfound
  exact ⟨List.mem_of_find?_eq_some hfound, by simpa using hid⟩

theorem undecided_of_passed {found : Option Offer} (hrow : rowOfKey ctx data db offer = some row)
    (hfresh : (if false = true then none else terminalDuplicateRequestReply row) = none)
    (hcompleted : tryReturnCompletedIdempotentReplay ctx data db (some row) found = none) :
    row.resultStatus ∈ [OfferRequestStatus.received, .authorized] := by
  have htruthy : (truthyText data.idempotencyKey).isSome = true := by
    cases hkey : nonemptyText data.idempotencyKey with
    | none =>
      rw [rowOfKey_none hkey] at hrow
      cases hrow
    | some key => exact truthyText_of_key hkey
  obtain ⟨key, htext⟩ := Option.isSome_iff_exists.mp htruthy
  simp only [Bool.false_eq_true, if_false, terminalDuplicateRequestReply] at hfresh
  split at hfresh
  · rename_i hstatus
    by_cases hdone : row.resultStatus = .completedTrade
    · unfold tryReturnCompletedIdempotentReplay at hcompleted
      rw [htext] at hcompleted
      dsimp only at hcompleted
      rw [if_neg (not_not.mpr hdone)] at hcompleted
      split at hcompleted
      · cases hcompleted
      · split at hcompleted <;> cases hcompleted
    · simp only [List.mem_cons, List.not_mem_nil, or_false] at hstatus ⊢
      rcases hstatus with hreceived | hauthorized | hcomplete
      · exact .inl hreceived
      · exact .inr hauthorized
      · exact absurd hcomplete hdone
  · cases hfresh

theorem Served.record (h : Served here db) (hserver : ctx.currentServer = here)
    (hentry : entryRefusal ctx = none) (hoffer : offerAtLedger ctx request.data db = some offer) :
    Underway here ctx request db (record ctx request offer db) := by
  obtain ⟨_, hid⟩ := mem_of_offerAtLedger hoffer
  unfold Trades.record
  cases happroval : request.approval with
  | some approval =>
    dsimp only
    unfold recordApproval
    split
    · exact h
    · rename_i row hrow
      split
      · exact h
      · rename_i hlocal
        split
        · exact h
        · have hkey := List.find?_some hrow
          refine ⟨rfl, hentry, hoffer, fun _ _ => ⟨?_, ?_⟩, fun hnone => ?_⟩
          · rw [show row.id = approval.ledger by simpa using hkey]
            exact hrow
          · have hpos := request.data.offerId_pos
            cases hoffered : row.localOfferId with
            | none =>
              rw [hoffered, Option.getD_none, ne_eq, not_not] at hlocal
              omega
            | some id =>
              rw [hoffered, Option.getD_some, ne_eq, not_not] at hlocal
              rw [hlocal]
          · rw [happroval] at hnone
            cases hnone
  | none =>
    dsimp only
    split
    · split
      · exact h
      · split
        · exact h
        · obtain ⟨reply, db', hdone⟩ :=
            createOvertimeRequestForTrade_stage ctx db offer request.data
          have hserved := h.createOvertimeRequestForTrade hserver (offerAtLedger_some hoffer)
          rw [hdone] at hserved ⊢
          exact hserved
    · rename_i hphase
      unfold recordDirect
      split
      · exact h
      · dsimp only
        split
        · exact h
        · rename_i hfresh
          split
          · exact h
          · rename_i hcompleted
            refine ⟨rfl, hentry, hoffer, fun _ hsome => ?_, fun _ => ⟨hphase, fun row hrow => ?_⟩⟩
            · rw [happroval] at hsome
              cases hsome
            · rw [createOfferRequestLedgerEntry_found hrow] at hfresh hcompleted
              exact undecided_of_passed hrow hfresh hcompleted

theorem Served.pass (h : Served here db) (hfits : Fits ctx request db (.recorded offer ledger)) :
    Underway here ctx request db (Trades.validate ctx request offer ledger db) := by
  obtain ⟨hentry, hoffer, happroved, hdirect⟩ := hfits
  rcases validate_stage ctx request db offer ledger with
    ⟨reply, db', hdone⟩ | ⟨hunmatched, hopen, hchecked, hprincipals, hkey⟩
  · have hserved : Served here (Trades.validate ctx request offer ledger db).2 := h.validate
    rw [hdone] at hserved ⊢
    exact hserved
  · rw [hunmatched]
    refine ⟨rfl, hoffer, happroved, fun hnone => ?_⟩
    obtain ⟨hphase, hfresh⟩ := hdirect hnone
    rw [hnone] at hopen
    exact ⟨hnone, hentry, hoffer, hphase, hfresh, hopen, hchecked, hprincipals, hkey⟩

theorem Served.advance (h : Served here db) (hserver : ctx.currentServer = here)
    (hcond : ¬ EndsOfferAlone db (.trade ctx request)) {stage : Stage}
    (hfits : Fits ctx request db stage) (hrunning : ∀ reply, stage ≠ .done reply) :
    Underway here ctx request db (Trades.advance ctx request db stage) := by
  cases stage with
  | start =>
    show Underway here ctx request db (enter ctx request, db)
    unfold enter
    cases hentry : entryRefusal ctx with
    | some reply => exact h
    | none =>
      dsimp only
      split
      · exact ⟨rfl, hentry⟩
      · exact ⟨rfl, hentry⟩
  | locked =>
    show Underway here ctx request db (clear ctx request db, db)
    unfold clear
    cases replayByKey ctx request.data db with
    | some reply => exact h
    | none => exact ⟨rfl, hfits⟩
  | cleared =>
    show Underway here ctx request db (Trades.hold ctx request db)
    rcases hold_stage ctx request db with ⟨⟨reply, db', hdone⟩, _⟩ | ⟨offer, hoffer, hheld⟩
    · have hserved : Served here (Trades.hold ctx request db).2 := h.hold
      rw [hdone] at hserved ⊢
      exact hserved
    · rw [hheld]
      exact ⟨rfl, hfits, hoffer⟩
  | holding offer => exact h.record hserver hfits.1 hfits.2
  | recorded offer ledger => exact h.pass hfits
  | unmatched offer ledger =>
    obtain ⟨hoffer, happroved, hdirect⟩ := hfits
    show Underway here ctx request db (Trades.commitTrade ctx request offer ledger db)
    obtain ⟨reply, db', hdone⟩ := commitTrade_stage ctx request db offer ledger
    have hserved : Served here (Trades.commitTrade ctx request offer ledger db).2 :=
      h.commitTrade hserver (mem_of_offerAtLedger hoffer).1 happroved
        fun hnone hwhole hlive => hcond ⟨offer, hdirect hnone, hwhole, hlive⟩
    rw [hdone] at hserved ⊢
    exact hserved
  | done reply => exact absurd rfl (hrunning reply)

theorem Served.conclude (h : Served here db) (hserver : ctx.currentServer = here)
    (hcond : ¬ EndsOfferAlone db (.trade ctx request)) :
    ∀ (n : Nat) (state : Stage × TradeDb), Underway here ctx request db state →
      Served here (Trades.conclude ctx request n state).2 := by
  intro n
  induction n with
  | zero =>
    rintro ⟨stage, after⟩ hstate
    cases stage with
    | done reply => exact hstate
    | _ =>
      obtain ⟨rfl, _⟩ := hstate
      exact h
  | succ n ih =>
    rintro ⟨stage, after⟩ hstate
    cases stage with
    | done reply => exact hstate
    | _ =>
      obtain ⟨rfl, hfits⟩ := hstate
      exact ih _ (h.advance hserver hcond hfits fun _ => nofun)

end Trade

section Runs

variable {here : Server} {db : TradeDb}

theorem Served.publish (h : Served here db) (offer : Offer) :
    Served here (MarketOp.step db (.publish offer)) := by
  simp only [MarketOp.step]
  split
  · rename_i hnew
    refine ⟨?_, h.rowIds, fun row hrow hopen => ?_⟩
    · rw [List.map_append]
      refine List.Nodup.append h.offerIds (List.nodup_singleton _) ?_
      intro id hmem hid
      obtain ⟨o, ho, rfl⟩ := List.mem_map.mp hmem
      exact hnew.2 o ho (List.mem_singleton.mp hid)
    · obtain ⟨o, ho, hrefers⟩ := h.active row hrow hopen
      exact ⟨o, List.mem_append_left _ ho, hrefers⟩
  · exact h

theorem Served.step (h : Served here db) {op : MarketOp} (hserver : op.RunsOn here)
    (hcond : ¬ EndsOfferAlone db op) : Served here (op.step db) := by
  cases op with
  | publish offer => exact h.publish offer
  | trade ctx request => exact h.conclude hserver hcond 6 (.start, db) ⟨rfl, trivial⟩
  | overtime call =>
    show Served here (if standsAlone call.op then
      match commitWork db (perform call) with
      | .ok (_, db') => db'
      | .error _ => db
      else db)
    split
    · rename_i halone
      cases hwork : commitWork db (perform call) with
      | error e => exact h
      | ok result => exact h.overtime hserver halone hcond hwork
    · exact h

/-- No open overtime request refers to an offer that has ended. -/
def LiveOffersOnly (db : TradeDb) : Prop :=
  ∀ row ∈ db.rows, row.isOpen = true → ∀ offer ∈ db.offers,
    row.localOfferId = some offer.id → offer.status = .active

instance (db : TradeDb) : Decidable (LiveOffersOnly db) :=
  inferInstanceAs (Decidable (∀ row ∈ db.rows, row.isOpen = true → ∀ offer ∈ db.offers,
    row.localOfferId = some offer.id → offer.status = .active))

theorem Served.liveOffersOnly (h : Served here db) : LiveOffersOnly db := by
  intro row hrow hopen offer hoffer hrefers
  obtain ⟨o, ho, ⟨_, hid, _⟩, hactive⟩ := h.active row hrow hopen
  rw [hrefers] at hid
  rw [List.inj_on_of_nodup_map h.offerIds hoffer ho (Option.some.inj hid)]
  exact hactive

theorem served_empty (here : Server) : Served here ⟨[], [], []⟩ :=
  ⟨List.nodup_nil, List.nodup_nil, fun _ h => absurd h (List.not_mem_nil)⟩

/-- In every run in which no direct trade takes the whole remainder of an offer with a live request,
and no outage is finalised over one, every open request refers to an active offer. -/
theorem open_requests_refer_to_active_offers (here : Server) (ops : List MarketOp)
    (hsteps : EachStep MarketOp.step
      (fun db op _ => op.RunsOn here ∧ ¬ EndsOfferAlone db op) ⟨[], [], []⟩ ops) :
    EachStep MarketOp.step (fun _ _ after => LiveOffersOnly after) ⟨[], [], []⟩ ops := by
  have hpreserve : ∀ (db : TradeDb) (op : MarketOp), Served here db →
      (op.RunsOn here ∧ ¬ EndsOfferAlone db op) → Served here (MarketOp.step db op) :=
    fun db op h hop => h.step hop.1 hop.2
  exact eachStep_of_invariant hpreserve
    (fun db op h hop => (hpreserve db op h hop).liveOffersOnly) ops _ (served_empty here) hsteps

/-- Offer 1 is published, and user 3 asks for all of it in the approval window. -/
def askedForOffer : List MarketOp :=
  [.publish (sampleOffer 1 "offer-1" 2),
    .trade (sampleContext (61 * second) "request-1" 3 userThree_pos) wholeRequest]

def expiredByOwner : MarketOp :=
  .overtime ⟨sampleAmbient (70 * second) "", 70 * second, [],
    .expireOffer 1 { reason := "manual", sourceSurface := .webapp, sourceServer := some "foreign" }
      1 true⟩

theorem open_request_ends_with_expired_offer :
    EachStep MarketOp.step (fun _ _ after => LiveOffersOnly after) ⟨[], [], []⟩
      (askedForOffer ++ [expiredByOwner]) ∧
    (run MarketOp.step ⟨[], [], []⟩ askedForOffer).rows.any OfferRequest.isOpen = true := by
  refine ⟨open_requests_refer_to_active_offers .foreign _ ?_, by decide +kernel⟩
  refine ⟨⟨trivial, id⟩, ⟨rfl, ?_⟩, ⟨rfl, id⟩, trivial⟩
  rintro ⟨offer, hreaches, _⟩
  have hfound : offerAtLedger (sampleContext (61 * second) "request-1" 3 userThree_pos)
      wholeRequest.data (MarketOp.step ⟨[], [], []⟩ (.publish (sampleOffer 1 "offer-1" 2))) =
        some (sampleOffer 1 "offer-1" 2) := by decide +kernel
  have hoffer := hreaches.offerFound
  rw [hfound] at hoffer
  cases hoffer
  exact hreaches.received (by decide +kernel)

/-- User 4's request for all of offer 1 is executed when user 3's is out for delivery. -/
def lateDirectTrade : MarketOp :=
  .trade { sampleContext (62 * second) "request-2" 4 userFour_pos with
      edgeReceivedAt := some (59 * second) }
    (sampleRequest 1 10 "other" offerOne_pos tenPieces_pos)

/-- A direct trade of the whole remainder leaves the live request behind. -/
theorem direct_trade_leaves_open_request :
    ¬ EachStep MarketOp.step (fun _ _ after => LiveOffersOnly after) ⟨[], [], []⟩
      (askedForOffer ++ [lateDirectTrade]) := by
  intro h
  have hlast : LiveOffersOnly
      (run MarketOp.step ⟨[], [], []⟩ (askedForOffer ++ [lateDirectTrade])) := h.2.2.1
  revert hlast
  decide +kernel

end Runs

end TradingBot.Trades
