import TradingBot.Trades.Replay
import TradingBot.Overtime.Closing

/-!
# What a stage writes

Only the stage that commits a trade adds trades or takes from an offer's remaining quantity. A reply
that names a trade names a stored one, with the key of the request.
-/

namespace TradingBot.Trades

open TradingBot TradingBot.Misc TradingBot.Overtime

def quantities (offers : List Offer) : List (Nat × Option Int) :=
  offers.map fun o => (o.id, o.remainingQuantity)

theorem quantities_ids (offers : List Offer) :
    (quantities offers).map Prod.fst = offers.map Offer.id := by
  unfold quantities
  rw [List.map_map]
  rfl

def SameQuantities (s s' : Session) : Prop :=
  (s.offers.map Offer.id).Nodup → quantities s'.offers = quantities s.offers

instance : IsPreorder Session SameQuantities where
  refl _ := fun _ => rfl
  trans a b c h h' := by
    intro hids
    have hab := h hids
    have hbc := h' (by rw [← quantities_ids, hab, quantities_ids]; exact hids)
    exact hbc.trans hab

section Workflow

variable {ambient : Ambient}

theorem SameQuantities.of_keeps {α : Type} {m : Work α} (h : Txn.Keeps SameOffers m) :
    Txn.Keeps SameQuantities m := by
  intro s _
  rw [h s]

theorem updateOffer_quantities {id : Nat} {f : Offer → Offer} {s : Session}
    (h : ∀ o ∈ s.offers, o.id = id → (f o).id = o.id ∧
      (f o).remainingQuantity = o.remainingQuantity) :
    quantities (updateOffer id f s).2.offers = quantities s.offers := by
  simp only [updateOffer, Txn.modify_apply, quantities, List.map_map]
  apply List.map_congr_left
  intro o ho
  simp only [Function.comp_apply]
  split
  · rename_i hid
    obtain ⟨hkey, hremaining⟩ := h o ho hid
    rw [hkey, hremaining]
  · rfl

theorem markCommitted_quantities (id : Nat) : Txn.Keeps SameQuantities
    (updateOffer id fun o => { o with overtimeTradeCommitted := true }) :=
  fun _ _ => updateOffer_quantities fun _ _ _ => ⟨rfl, rfl⟩

theorem expireOfferRow_quantities (command : OfferExpiryCommand) (now : Int)
    (requireAuthority : Bool) (id : Nat) :
    Txn.Keeps SameQuantities (expireOfferRow ambient command now requireAuthority id) := by
  refine Txn.keeps_bind_read fun s => ?_
  cases hoffer : s.offer? id with
  | none => exact refl_of SameQuantities s
  | some offer =>
    dsimp only
    cases hexpiry : applyOfferExpiry ambient.currentServer offer command now requireAuthority with
    | error e => cases e <;> exact refl_of SameQuantities s
    | ok after =>
      obtain ⟨_, hkey, _, _, hremaining⟩ := applyOfferExpiry_ok hexpiry
      obtain ⟨hmem, hofferid⟩ := offer?_mem hoffer
      intro hids
      refine updateOffer_quantities fun o ho hoid => ?_
      have hsame : o = offer := List.inj_on_of_nodup_map hids ho hmem (hoid.trans hofferid.symm)
      subst hsame
      exact ⟨hkey, hremaining⟩

theorem finalizeOvertimeTradeSideEffects_quantities (ledger : OfferRequest) (offerId : Nat)
    (normalMinutes stamp : Int) : Txn.Keeps SameQuantities
      (finalizeOvertimeTradeSideEffects ambient ledger offerId normalMinutes stamp) := by
  have hrule := sameOffers_rule ambient
  refine Txn.keeps_bind (Txn.keeps_read _) fun offer? => ?_
  cases offer? with
  | none => exact Txn.keeps_pure ()
  | some offer =>
    dsimp only
    refine Txn.keeps_bind (Txn.keeps_ite (expireOfferRow_quantities _ _ _ _)
      (Txn.keeps_pure ())) fun _ => ?_
    refine Txn.keeps_bind (SameQuantities.of_keeps (hrule.invalidateOvertimeRequests _ _ _
      fun _ _ _ _ => trivial)) fun _ => ?_
    cases ledger.offerOwnerUserId with
    | none => exact Txn.keeps_pure ()
    | some owner =>
      exact Txn.keeps_bind (SameQuantities.of_keeps (hrule.promote _ _ _ _ _)) fun _ => Txn.keeps_pure ()

theorem approveRequest_quantities (id tradeId decidedBy : Nat) (normalMinutes now : Int) :
    Txn.Keeps SameQuantities (approveRequest ambient id tradeId decidedBy normalMinutes now) := by
  refine Txn.keeps_bind (Txn.keeps_read _) fun ledger? => ?_
  cases ledger? with
  | none => exact Txn.keeps_raise _
  | some ledger =>
    dsimp only
    refine Txn.keeps_bind (SameQuantities.of_keeps (applyOvertimeTransition_sameOffers _ _)) fun _ => ?_
    cases ledger.localOfferId with
    | none => exact Txn.keeps_pure ()
    | some offerId =>
      exact Txn.keeps_bind (markCommitted_quantities offerId) fun _ =>
        finalizeOvertimeTradeSideEffects_quantities _ _ _ _

theorem completion_quantities (id tradeId decidedBy offerId : Nat) (now : Int) :
    Txn.Keeps SameQuantities (recordCompletedTrade ambient id tradeId decidedBy now >>= fun _ =>
      updateOffer offerId fun o => { o with overtimeTradeCommitted := true }) :=
  Txn.keeps_bind (SameQuantities.of_keeps (applyOvertimeTransition_sameOffers _ _)) fun _ =>
    markCommitted_quantities offerId

end Workflow

def Quiet (db db' : TradeDb) : Prop :=
  db'.trades = db.trades ∧ quantities db'.offers = quantities db.offers

section Quiet

variable {ctx : TradeContext} {request : TradeRequest} {db db' : TradeDb} {offer : Offer}
  {ledger : LedgerInHand}

theorem Quiet.refl (db : TradeDb) : Quiet db db := ⟨rfl, rfl⟩

theorem Quiet.of_offers (htrades : db'.trades = db.trades) (hoffers : db'.offers = db.offers) :
    Quiet db db' := ⟨htrades, by rw [hoffers]⟩

theorem commitWork_quiet {α : Type} {m : Work α} {a : α} (hids : (db.offers.map Offer.id).Nodup)
    (hm : Txn.Keeps SameQuantities m) (h : commitWork db m = .ok (a, db')) : Quiet db db' := by
  obtain ⟨s', hrun, _, rfl⟩ := commitWork_ok h
  have hsame := hm db.session
  rw [hrun] at hsame
  exact ⟨rfl, hsame hids⟩

theorem releaseAfterRejection_sameOffers (row : OfferRequest) (reason : String) :
    Txn.Keeps SameOffers (releaseAfterRejection ctx row reason) := by
  have hrule := sameOffers_rule ctx.ambient
  refine Txn.keeps_bind (hrule.invalidateRequest _ trivial) fun _ => ?_
  cases row.offerOwnerUserId with
  | none => exact Txn.keeps_pure ()
  | some owner => exact Txn.keeps_bind (hrule.promote _ _ _ _ _) fun _ => Txn.keeps_pure ()

theorem commitRejected_quiet (hids : (db.offers.map Offer.id).Nodup) (rejection : Rejection) :
    Quiet db (commitRejected ctx db ledger rejection).2 := by
  by_cases hkind : ledger.row.workflowKind = .direct
  · obtain ⟨hoffers, htrades⟩ := commitRejected_tables ctx db hkind rejection
    exact .of_offers htrades hoffers
  · have hovertime : ledger.row.workflowKind = .overtime := by
      cases hcase : ledger.row.workflowKind with
      | direct => exact absurd hcase hkind
      | overtime => rfl
    unfold commitRejected
    rw [if_pos hovertime]
    cases hwork : commitWork db
        (releaseAfterRejection ctx ledger.row rejection.internalFailureCode) with
    | error e => exact .refl db
    | ok result =>
      exact commitWork_quiet hids
        (SameQuantities.of_keeps (releaseAfterRejection_sameOffers ledger.row _)) hwork

theorem hold_quiet : Quiet db (hold ctx request db).2 :=
  .of_offers (hold_tables ctx request db).2 (hold_tables ctx request db).1

theorem createOvertimeRequestForTrade_quiet (data : TradeCreate) :
    Quiet db (createOvertimeRequestForTrade ctx offer data db).2 := by
  unfold createOvertimeRequestForTrade
  split
  · exact .refl db
  · cases hwork : commitWork db
        (createOvertimeRequest ctx.ambient (overtimeCommand ctx offer data) true ctx.now) with
    | error e => cases e <;> exact .refl db
    | ok result =>
      obtain ⟨result, db'⟩ := result
      obtain ⟨s', hrun, _, rfl⟩ := commitWork_ok hwork
      have hquiet : Quiet db { db with rows := s'.live, offers := s'.offers } :=
        .of_offers rfl (createOvertimeRequest_offers hrun)
      dsimp only
      split <;> exact hquiet

theorem record_quiet : Quiet db (record ctx request offer db).2 := by
  unfold record
  split
  · exact .refl db
  · split
    · split
      · exact .refl db
      · split
        · exact .refl db
        · exact createOvertimeRequestForTrade_quiet request.data
    · exact .refl db

theorem returnExistingTrade_quiet (hids : (db.offers.map Offer.id).Nodup) (trade : Trade) :
    Quiet db (returnExistingTrade ctx request offer ledger trade db).2 := by
  unfold returnExistingTrade
  split
  · exact .refl db
  · split
    · cases hwork : commitWork db (recordCompletedTrade ctx.ambient ledger.row.id trade.id
          (overtimeDecidedBy request ledger.row) ctx.now >>= fun _ =>
          updateOffer offer.id (fun o => { o with overtimeTradeCommitted := true })) with
      | error e => cases e <;> exact .refl db
      | ok result => exact commitWork_quiet hids (completion_quantities _ _ _ _ _) hwork
    · split
      · exact .refl db
      · dsimp only
        split
        · exact ⟨rfl, rfl⟩
        · exact .refl db

theorem validate_quiet (hids : (db.offers.map Offer.id).Nodup) :
    Quiet db (validate ctx request offer ledger db).2 := by
  unfold validate
  split
  · split
    · exact .refl db
    · exact commitRejected_quiet hids _
  · split
    · exact commitRejected_quiet hids _
    · split
      · exact .refl db
      · split
        · exact returnExistingTrade_quiet hids _
        · exact .refl db

end Quiet

/-! ## The trades of one execution -/

section Legs

variable (ctx : TradeContext) (data : TradeCreate) (offer : Offer)

theorem tradeLegs_last (firstId last : Nat) :
    ∀ (nodes : List Nat) (index a b : Nat), last = index + nodes.length →
      ∃ legs shown, tradeLegs ctx data offer firstId last index (a :: b :: nodes) =
          legs ++ [shown] ∧ shown.idempotencyKey = data.idempotencyKey ∧
        ∀ t ∈ legs, t.idempotencyKey = none := by
  intro nodes
  induction nodes with
  | nil =>
    intro index a b hlast
    refine ⟨[], _, rfl, ?_, fun t ht => absurd ht List.not_mem_nil⟩
    exact if_pos (by rw [hlast]; rfl)
  | cons c nodes ih =>
    intro index a b hlast
    have hrest : last = index + 1 + nodes.length := by
      rw [hlast, List.length_cons]
      omega
    obtain ⟨legs, shown, hlegs, hkey, hfree⟩ := ih (index + 1) b c hrest
    refine ⟨tradeLeg ctx data offer firstId index last a b :: legs, shown, ?_, hkey, ?_⟩
    · rw [tradeLegs, hlegs]
      rfl
    · intro t ht
      rcases List.mem_cons.mp ht with rfl | ht
      · have hindex : index ≠ last := by
          rw [hlast, List.length_cons]
          omega
        exact if_neg hindex
      · exact hfree t ht

theorem buildTrades_legs (trades : List Trade) : ∃ legs,
    (buildTrades ctx data offer trades).1 = legs ++ [(buildTrades ctx data offer trades).2] ∧
      (buildTrades ctx data offer trades).2.idempotencyKey = data.idempotencyKey ∧
      ∀ t ∈ legs, t.idempotencyKey = none := by
  unfold buildTrades
  dsimp only
  split
  · rename_i hchain
    unfold usesCustomerTradeChain at hchain
    cases hnodes : executionPlan ctx offer with
    | nil => simp [hnodes] at hchain
    | cons a nodes =>
      cases nodes with
      | nil => simp [hnodes] at hchain
      | cons b nodes =>
        have hlast : (a :: b :: nodes).length - 2 = 0 + nodes.length := by
          simp only [List.length_cons]
          omega
        obtain ⟨legs, shown, hlegs, hkey, hfree⟩ := tradeLegs_last ctx data offer
          (nextTradeId trades) ((a :: b :: nodes).length - 2) nodes 0 a b hlast
        rw [hlegs, List.getLast?_concat, Option.getD_some]
        exact ⟨legs, rfl, hkey, hfree⟩
  · exact ⟨[], rfl, rfl, fun t ht => absurd ht List.not_mem_nil⟩

end Legs

def takeFrom (offerId : Nat) (quantity : Int) (q : Nat × Option Int) : Nat × Option Int :=
  if q.1 = offerId then (q.1, q.2.map (· - quantity)) else q

structure Commits (ctx : TradeContext) (request : TradeRequest) (offer : Offer)
    (db db' : TradeDb) : Prop where
  trades : db'.trades = db.trades ++ (buildTrades ctx request.data offer db.trades).1
  taken : quantities db'.offers =
    (quantities db.offers).map (takeFrom offer.id request.data.quantity)

section Committing

variable {ctx : TradeContext} {request : TradeRequest} {db db' : TradeDb} {offer traded : Offer}
  {ledger : LedgerInHand} {reply : Reply} {quantity : Int} {offers : List Offer}

theorem applyOfferTradeMutation_remaining {changed : Bool}
    (h : applyOfferTradeMutation offer quantity = .ok (traded, changed)) :
    traded.id = offer.id ∧ traded.remainingQuantity = offer.remainingQuantity.map (· - quantity) := by
  unfold applyOfferTradeMutation at h
  split at h
  · cases h
  · rename_i before hbefore
    rw [hbefore]
    dsimp only at h
    split at h
    · cases h
    · split at h
      · cases h
        exact ⟨rfl, rfl⟩
      · split at h
        · cases h
          exact ⟨rfl, rfl⟩
        · cases h
          exact ⟨rfl, rfl⟩
        · split at h
          · cases h
            exact ⟨rfl, rfl⟩
          · split at h
            · cases h
              exact ⟨rfl, rfl⟩
            · cases h

theorem storeOffer_quantities
    (hids : (offers.map Offer.id).Nodup) (hmem : offer ∈ offers) (hid : traded.id = offer.id)
    (hremaining : traded.remainingQuantity = offer.remainingQuantity.map (· - quantity)) :
    quantities (storeOffer traded offers) =
      (quantities offers).map (takeFrom offer.id quantity) := by
  unfold quantities storeOffer
  rw [List.map_map, List.map_map]
  apply List.map_congr_left
  intro o ho
  simp only [Function.comp_apply, takeFrom, hid]
  by_cases hoid : o.id = offer.id
  · rw [if_pos hoid, if_pos hoid, hid, hremaining,
      List.inj_on_of_nodup_map hids ho hmem hoid]
  · rw [if_neg hoid, if_neg hoid]

theorem storeOffer_ids :
    (storeOffer traded offers).map Offer.id = offers.map Offer.id := by
  unfold storeOffer
  rw [List.map_map]
  apply List.map_congr_left
  intro o _
  simp only [Function.comp_apply]
  split
  · rename_i hid
    exact hid.symm
  · rfl

theorem commitTrade_effect (hids : (db.offers.map Offer.id).Nodup) (hoffer : offer ∈ db.offers)
    (h : commitTrade ctx request offer ledger db = (.done reply, db')) :
    (db' = db ∧ reply.trade? = none) ∨ (Commits ctx request offer db db' ∧
      reply = .created (buildTrades ctx request.data offer db.trades).2) := by
  unfold commitTrade at h
  split at h
  · cases h
    exact .inl ⟨rfl, rfl⟩
  · cases h
    exact .inl ⟨rfl, rfl⟩
  · rename_i traded changed hmutation
    obtain ⟨hid, hremaining⟩ := applyOfferTradeMutation_remaining hmutation
    have hstored := storeOffer_quantities hids hoffer hid hremaining
    dsimp only at h
    split at h
    · cases h
      exact .inl ⟨rfl, rfl⟩
    · split at h
      · split at h
        · rename_i hwork
          cases h
          have hkept : ((storeOffer traded db.offers).map Offer.id).Nodup := by
            rw [storeOffer_ids]
            exact hids
          obtain ⟨htrades, hquantities⟩ := commitWork_quiet hkept
            (Txn.keeps_ite (approveRequest_quantities _ _ _ _ _) (completion_quantities _ _ _ _ _))
            hwork
          exact .inr ⟨⟨htrades, hquantities.trans hstored⟩, rfl⟩
        · cases h
          exact .inl ⟨rfl, rfl⟩
      · split at h
        · cases h
          exact .inl ⟨rfl, rfl⟩
        · split at h
          · cases h
            exact .inr ⟨⟨rfl, hstored⟩, rfl⟩
          · cases h
            exact .inl ⟨rfl, rfl⟩

theorem Commits.shown_mem (h : Commits ctx request offer db db') :
    (buildTrades ctx request.data offer db.trades).2 ∈ db'.trades := by
  obtain ⟨legs, hlegs, _⟩ := buildTrades_legs ctx request.data offer db.trades
  rw [h.trades, hlegs]
  exact List.mem_append_right _ (List.mem_append_right _ (List.mem_singleton_self _))

end Committing

/-! ## The trade that a reply names -/

def Reply.Names (request : TradeRequest) (db : TradeDb) (reply : Reply) : Prop :=
  ∀ trade, reply.trade? = some trade →
    trade ∈ db.trades ∧ trade.idempotencyKey = request.data.idempotencyKey

section Names

variable {ctx : TradeContext} {request : TradeRequest} {db db' : TradeDb} {offer : Offer}
  {ledger : LedgerInHand} {reply : Reply}

theorem names_of_none (h : reply.trade? = none) : reply.Names request db := by
  intro trade htrade
  rw [h] at htrade
  cases htrade

theorem Reply.Refuses.names (h : reply.Refuses) : reply.Names request db := by
  cases reply with
  | created trade => exact absurd h.2.1 (show ¬ 400 ≤ 201 by decide)
  | existing trade => exact absurd h.2.1 (show ¬ 400 ≤ 201 by decide)
  | completed ledger trade => exact absurd h.2.1 (show ¬ 400 ≤ 201 by decide)
  | _ => exact names_of_none rfl

theorem tryReturnCompletedIdempotentReplay_names {ledger : Option OfferRequest}
    {found : Option Offer}
    (h : tryReturnCompletedIdempotentReplay ctx request.data db ledger found = some reply) :
    reply.Names request db := by
  unfold tryReturnCompletedIdempotentReplay at h
  split at h
  · rename_i key ledger hkey
    split at h
    · cases h
    · split at h
      · cases h
        exact names_of_none rfl
      · rename_i trade htrade
        split at h
        · rename_i hvalid
          cases h
          intro named hnamed
          cases hnamed
          unfold validCompletedIdempotentReplay at hvalid
          simp only [decide_eq_true_eq] at hvalid
          obtain ⟨_, _, _, _, _, _, _, _, _, _, _, _, _, hsame⟩ := hvalid
          refine ⟨?_, hsame⟩
          unfold loadCompletedIdempotentReplayTrade at htrade
          split at htrade
          · exact List.mem_of_find?_eq_some htrade
          · rw [hkey] at htrade
            exact List.mem_of_find?_eq_some htrade
        · cases h
          exact names_of_none rfl
  · cases h

theorem tryReturnOvertimeIdempotentStatus_names {ledger : Option OfferRequest}
    (h : tryReturnOvertimeIdempotentStatus ledger request.data = some reply) :
    reply.Names request db := by
  unfold tryReturnOvertimeIdempotentStatus at h
  split at h
  · cases h
  · split_ifs at h
    · cases h
      exact names_of_none rfl
    · cases h
      exact names_of_none rfl

theorem replayByKey_names (h : replayByKey ctx request.data db = some reply) :
    reply.Names request db := by
  unfold replayByKey at h
  dsimp only at h
  rcases (Option.orElse_eq_some _ _ _).mp h with h | ⟨_, h⟩
  · exact tryReturnCompletedIdempotentReplay_names h
  · exact tryReturnOvertimeIdempotentStatus_names h

theorem record_names (h : record ctx request offer db = (.done reply, db')) :
    reply.Names request db := by
  unfold record at h
  split at h
  · obtain ⟨h, rfl⟩ := Prod.mk.inj h
    unfold recordApproval at h
    split at h
    · cases h
      exact names_of_none rfl
    · split_ifs at h
      · cases h
        exact names_of_none rfl
      · cases h
        exact names_of_none rfl
      · cases h
  · split at h
    · split at h
      · cases h
        exact names_of_none rfl
      · split at h
        · cases h
          exact (prevalidateOvertimeRequestForTrade_refuses ‹_›).names
        · unfold createOvertimeRequestForTrade at h
          split at h
          · cases h
            exact names_of_none rfl
          · split at h
            · split at h
              · cases h
                exact names_of_none rfl
              · cases h
                exact names_of_none rfl
            · cases h
              exact names_of_none rfl
            · cases h
              exact names_of_none rfl
    · obtain ⟨h, rfl⟩ := Prod.mk.inj h
      unfold recordDirect at h
      split at h
      · cases h
        exact (publicIdRefusal_refuses ‹_›).names
      · dsimp only at h
        split at h
        · rename_i hduplicate
          cases h
          split at hduplicate
          · cases hduplicate
          · unfold terminalDuplicateRequestReply at hduplicate
            split_ifs at hduplicate
            cases hduplicate
            exact names_of_none rfl
        · split at h
          · cases h
            exact tryReturnCompletedIdempotentReplay_names ‹_›
          · cases h

theorem returnExistingTrade_names {trade : Trade} (hmem : trade ∈ db.trades)
    (hkey : trade.idempotencyKey = request.data.idempotencyKey)
    (h : returnExistingTrade ctx request offer ledger trade db = (.done reply, db')) :
    reply.Names request db := by
  have hexisting : (Reply.existing trade).Names request db := by
    intro named hnamed
    cases hnamed
    exact ⟨hmem, hkey⟩
  unfold returnExistingTrade at h
  split at h
  · cases h
    exact names_of_none rfl
  · split at h
    · split at h
      · cases h
        exact hexisting
      · cases h
        exact names_of_none rfl
      · cases h
        exact names_of_none rfl
    · split at h
      · cases h
        exact names_of_none rfl
      · dsimp only at h
        split at h
        · cases h
          exact hexisting
        · cases h
          exact names_of_none rfl

theorem validate_names (h : validate ctx request offer ledger db = (.done reply, db')) :
    reply.Names request db := by
  unfold validate at h
  split at h
  · split at h
    · cases h
      exact names_of_none rfl
    · exact (commitRejected_refuses ctx db ledger (refuses_refused _ (by decide)) h).names
  · split at h
    · exact (commitRejected_refuses ctx db ledger (checkRejection_refuses ctx ‹_›) h).names
    · split at h
      · cases h
        exact names_of_none rfl
      · split at h
        · rename_i trade htrade
          obtain ⟨key, hkey, hfound⟩ := Option.bind_eq_some_iff.mp htrade
          obtain ⟨hdata, _⟩ := Option.filter_eq_some_iff.mp hkey
          have hsame := List.find?_some hfound
          refine returnExistingTrade_names (List.mem_of_find?_eq_some hfound) ?_ h
          rw [hdata]
          simpa using hsame
        · cases h

end Names

end TradingBot.Trades
