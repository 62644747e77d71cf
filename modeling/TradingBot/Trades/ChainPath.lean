import TradingBot.Trades.Effects

/-!
# The trades of an accepted request form a path

A trade between customers is booked as a chain: from the owner of the offer to the owner's
principal, to the principal of the responder, to the responder (`_build_trade_execution_plan` and
the legs of `_execute_trade_authoritatively`, src/api/routers/trades.py). Only users next to
themselves are left out: that the path does not cross itself rests on principals not being
customers.
-/

namespace TradingBot.Trades

open TradingBot TradingBot.Overtime

/-- `trade_block_principal_user_id` (block_service.py:281): the owner of the active relation, else
the user. -/
def tradeBlockPrincipalUserId (relationOwner : Nat → Option Nat) (userId : Nat) : Nat :=
  match relationOwner userId with
  | some owner => if owner = 0 then userId else owner
  | none => userId

/-- The trades of one request lead along a path of distinct users. -/
structure TradePath (ctx : TradeContext) (data : TradeCreate) (offer : Offer)
    (offerOwner responder : Nat) (legs : List Trade) : Prop where
  /-- Each leg goes from one user of the path to the next. -/
  users : ∃ path : List Nat, path.head? = some offerOwner ∧ path.getLast? = some responder ∧
    path.Nodup ∧ 2 ≤ path.length ∧
    legs.map (fun leg => (leg.offerUserId, leg.responderUserId)) =
      (path.zip path.tail).map (fun pair => (some pair.1, some pair.2))
  quantity : ∀ leg ∈ legs, leg.quantity = data.quantity
  commodity : ∀ leg ∈ legs, leg.commodityId = offer.commodityId
  offerIds : legs.map Trade.offerId = some offer.id :: List.replicate (legs.length - 1) none
  keys : legs.map Trade.idempotencyKey =
    List.replicate (legs.length - 1) none ++ [data.idempotencyKey]
  prices : legs.map Trade.price =
    List.replicate (legs.length - 1) offer.price ++ [executedTradePrice ctx offer]
  numbers : (legs.map Trade.tradeNumber).Nodup

theorem buildTradeExecutionPlan_path {relationOwner : Nat → Option Nat} {offerOwner responder : Nat}
    (hflat : ∀ user principal, relationOwner user = some principal →
      relationOwner principal = none) (hother : responder ≠ offerOwner) :
    ∃ nodes, buildTradeExecutionPlan offerOwner (tradeBlockPrincipalUserId relationOwner offerOwner)
        (tradeBlockPrincipalUserId relationOwner responder) responder = nodes ∧
      nodes.head? = some offerOwner ∧ nodes.getLast? = some responder ∧ nodes.Nodup ∧
      2 ≤ nodes.length := by
  -- a user that is a principal of another is its own principal
  have hself : ∀ user other, tradeBlockPrincipalUserId relationOwner other = user → other ≠ user →
      tradeBlockPrincipalUserId relationOwner user = user := by
    intro user other hprincipal hne
    unfold tradeBlockPrincipalUserId at hprincipal ⊢
    cases howner : relationOwner other with
    | none =>
      rw [howner] at hprincipal
      exact absurd hprincipal hne
    | some principal =>
      rw [howner] at hprincipal
      dsimp only at hprincipal
      split at hprincipal
      · exact absurd hprincipal hne
      · rw [← hprincipal, hflat other principal howner]
  generalize hsource : tradeBlockPrincipalUserId relationOwner offerOwner = source
  generalize hprincipal : tradeBlockPrincipalUserId relationOwner responder = principal
  refine ⟨_, rfl, ?_⟩
  unfold buildTradeExecutionPlan
  by_cases hcustomer : source = offerOwner
  · subst hcustomer
    simp only [ne_eq, not_true_eq_false, if_false]
    by_cases hsame : principal = source
    · subst hsame
      simp [Ne.symm hother]
    · by_cases hlast : principal = responder
      · subst hlast
        simp [Ne.symm hother]
      · simp [Ne.symm hother, Ne.symm hsame, hlast]
  · have hownerSelf := hself source offerOwner hsource (Ne.symm hcustomer)
    simp only [ne_eq, hcustomer, not_false_eq_true, if_true]
    by_cases hsame : principal = source
    · subst hsame
      by_cases hlast : principal = responder
      · subst hlast
        simp [Ne.symm hcustomer]
      · simp [Ne.symm hcustomer, Ne.symm hother, hlast]
    · -- the responder is nobody's principal, or the chain would have ended at the first one
      have hresponder : responder ≠ source := by
        rintro rfl
        exact hsame (hprincipal.symm.trans hownerSelf)
      have hprincipalOwner : principal ≠ offerOwner := by
        rintro rfl
        exact hcustomer (hsource.symm.trans (hself principal responder hprincipal hother))
      by_cases hlast : principal = responder
      · subst hlast
        simp [Ne.symm hcustomer, Ne.symm hother, Ne.symm hsame]
      · simp [Ne.symm hcustomer, Ne.symm hother, Ne.symm hsame, Ne.symm hprincipalOwner,
          Ne.symm hresponder, hlast]

section Legs

variable (ctx : TradeContext) (data : TradeCreate) (offer : Offer) (firstId last : Nat)

theorem tradeLegs_users (index : Nat) (nodes : List Nat) :
    (tradeLegs ctx data offer firstId last index nodes).map
        (fun leg => (leg.offerUserId, leg.responderUserId)) =
      (nodes.zip nodes.tail).map (fun pair => (some pair.1, some pair.2)) := by
  induction nodes generalizing index with
  | nil => rfl
  | cons a nodes ih =>
    cases nodes with
    | nil => rfl
    | cons b nodes =>
      rw [tradeLegs, List.map_cons, ih (index + 1)]
      rfl

theorem length_tradeLegs (index a b : Nat) (nodes : List Nat) :
    (tradeLegs ctx data offer firstId last index (a :: b :: nodes)).length = nodes.length + 1 := by
  induction nodes generalizing index a b with
  | nil => rfl
  | cons c nodes ih => rw [tradeLegs, List.length_cons, ih, List.length_cons]

theorem tradeLegs_offerIds (index a b : Nat) (nodes : List Nat) :
    (tradeLegs ctx data offer firstId last index (a :: b :: nodes)).map Trade.offerId =
      (if index = 0 then some offer.id else none) :: List.replicate nodes.length none := by
  induction nodes generalizing index a b with
  | nil => rfl
  | cons c nodes ih =>
    rw [tradeLegs, List.map_cons, ih, if_neg (Nat.succ_ne_zero index)]
    rfl

theorem tradeLegs_last_column {β : Type} (column : Trade → β) (filled plain : β)
    (hcolumn : ∀ index a b, column (tradeLeg ctx data offer firstId index last a b) =
      if index = last then filled else plain) (index a b : Nat) (nodes : List Nat)
    (hlast : last = index + nodes.length) :
    (tradeLegs ctx data offer firstId last index (a :: b :: nodes)).map column =
      List.replicate nodes.length plain ++ [filled] := by
  induction nodes generalizing index a b with
  | nil =>
    rw [List.length_nil, Nat.add_zero] at hlast
    rw [tradeLegs, List.map_cons, hcolumn, if_pos hlast.symm]
    rfl
  | cons c nodes ih =>
    rw [List.length_cons] at hlast
    rw [tradeLegs, List.map_cons, ih (index + 1) b c (by omega), hcolumn, if_neg (by omega)]
    rfl

theorem mem_tradeLegs (index : Nat) (nodes : List Nat) {leg : Trade}
    (hleg : leg ∈ tradeLegs ctx data offer firstId last index nodes) :
    ∃ i a b, leg = tradeLeg ctx data offer firstId i last a b := by
  induction nodes generalizing index with
  | nil => cases hleg
  | cons a nodes ih =>
    cases nodes with
    | nil => cases hleg
    | cons b nodes =>
      rw [tradeLegs] at hleg
      rcases List.mem_cons.mp hleg with rfl | hleg
      · exact ⟨index, a, b, rfl⟩
      · exact ih (index + 1) hleg

end Legs

theorem buildTrades_eq_tradeLegs {ctx : TradeContext} {offer : Offer} {nodes : List Nat}
    {offerOwner : Nat} (data : TradeCreate) (trades : List Trade)
    (howner : offer.userId = some offerOwner) (hnodes : executionPlan ctx offer = nodes)
    (hfirst : nodes.head? = some offerOwner) (hlast : nodes.getLast? = some ctx.ownerUserId)
    (htwo : 2 ≤ nodes.length) :
    (buildTrades ctx data offer trades).1 =
      tradeLegs ctx data offer (nextTradeId trades) (nodes.length - 2) 0 nodes := by
  unfold buildTrades usesCustomerTradeChain
  rw [hnodes, howner]
  dsimp only
  by_cases hchain : 2 < nodes.length
  · rw [decide_eq_true hchain]
    rfl
  · rw [decide_eq_false hchain]
    match nodes, hfirst, hlast, htwo, hchain with
    | [a, b], hfirst, hlast, _, _ =>
      injection hfirst with hfirst
      injection hlast with hlast
      subst hfirst hlast
      rfl
    | _ :: _ :: _ :: _, _, _, _, hchain => exact absurd (by simp) hchain

theorem commitTrade_created {ctx : TradeContext} {request : TradeRequest} {offer : Offer}
    {ledger : LedgerInHand} {db db' : TradeDb} {shown : Trade}
    (h : commitTrade ctx request offer ledger db = (.done (.created shown), db')) :
    db'.trades = db.trades ++ (buildTrades ctx request.data offer db.trades).1 ∧
      uniqueTrades (db.trades ++ (buildTrades ctx request.data offer db.trades).1) = true := by
  unfold commitTrade at h
  split at h
  · cases h
  · cases h
  · dsimp only at h
    split at h
    · cases h
    · rename_i hunique
      have hunique := of_not_not hunique
      split at h
      · split at h
        · rename_i hwork
          cases h
          unfold commitWork at hwork
          split at hwork
          · cases hwork
            exact ⟨rfl, hunique⟩
          · cases hwork
        · cases h
      · split at h
        · cases h
        · split at h
          · cases h
            exact ⟨rfl, hunique⟩
          · cases h

/-- The trades of an accepted request form a path from the owner of the offer to the responder. -/
theorem accepted_request_trades_path (ctx : TradeContext) (request : TradeRequest) (offer : Offer)
    (ledger : LedgerInHand) (db db' : TradeDb) (shown : Trade) (offerOwner : Nat)
    (relationOwner : Nat → Option Nat) (howner : offer.userId = some offerOwner)
    (hsource : ctx.sourcePrincipalUserId = tradeBlockPrincipalUserId relationOwner offerOwner)
    (hresponder : ctx.responderPrincipalUserId =
      tradeBlockPrincipalUserId relationOwner ctx.ownerUserId)
    (hflat : ∀ user principal, relationOwner user = some principal →
      relationOwner principal = none) (hother : ctx.ownerUserId ≠ offerOwner)
    (hcreated : commitTrade ctx request offer ledger db = (.done (.created shown), db')) :
    ∃ legs, db'.trades = db.trades ++ legs ∧
      TradePath ctx request.data offer offerOwner ctx.ownerUserId legs := by
  obtain ⟨htrades, hunique⟩ := commitTrade_created hcreated
  obtain ⟨nodes, hplan, hfirst, hlast, hnodup, htwo⟩ :=
    buildTradeExecutionPlan_path hflat hother
  have hnodes : executionPlan ctx offer = nodes := by
    unfold executionPlan
    rw [howner, hsource, hresponder]
    exact hplan
  have hbuilt := buildTrades_eq_tradeLegs request.data db.trades howner hnodes hfirst hlast htwo
  rw [hbuilt] at htrades hunique
  refine ⟨_, htrades, ?_⟩
  have hnumbers : ((tradeLegs ctx request.data offer (nextTradeId db.trades) (nodes.length - 2) 0
      nodes).map Trade.tradeNumber).Nodup := by
    have hpairwise := (List.pairwise_append.mp (of_decide_eq_true hunique)).2.1
    exact List.pairwise_map.mpr (hpairwise.imp fun hdistinct => hdistinct.2.1)
  match nodes, hfirst, hlast, hnodup, htwo, hnumbers with
  | a :: b :: rest, hfirst, hlast, hnodup, htwo, hnumbers =>
    have hindex : (a :: b :: rest).length - 2 = 0 + rest.length := by
      simp only [List.length_cons]
      omega
    have hlength : rest.length = (tradeLegs ctx request.data offer (nextTradeId db.trades)
        ((a :: b :: rest).length - 2) 0 (a :: b :: rest)).length - 1 := by
      rw [length_tradeLegs]
      rfl
    refine ⟨⟨a :: b :: rest, hfirst, hlast, hnodup, htwo, tradeLegs_users ..⟩, ?_, ?_, ?_, ?_, ?_,
      hnumbers⟩
    · intro leg hleg
      obtain ⟨i, x, y, rfl⟩ := mem_tradeLegs _ _ _ _ _ _ _ hleg
      rfl
    · intro leg hleg
      obtain ⟨i, x, y, rfl⟩ := mem_tradeLegs _ _ _ _ _ _ _ hleg
      rfl
    · rw [← hlength]
      exact tradeLegs_offerIds ctx request.data offer _ _ 0 a b rest
    · rw [← hlength]
      exact tradeLegs_last_column ctx request.data offer _ _ Trade.idempotencyKey _ _
        (fun _ _ _ => rfl) 0 a b rest hindex
    · rw [← hlength]
      exact tradeLegs_last_column ctx request.data offer _ _ Trade.price _ _
        (fun _ _ _ => rfl) 0 a b rest hindex

def customerContext : TradeContext :=
  { sampleContext second "request-1" 3 userThree_pos with
    sourcePrincipalUserId := 5
    responderPrincipalUserId := 6
    tier2Price := some (· + 100) }

def customerOwners : Nat → Option Nat
  | 2 => some 5
  | 3 => some 6
  | _ => none

def customerRequest : TradeRequest := sampleRequest 1 10 "key" offerOne_pos tenPieces_pos

def customerCommit : Stage × TradeDb :=
  commitTrade customerContext customerRequest (sampleOffer 1 "offer-1" 2)
    ⟨newDirectRow customerContext (sampleOffer 1 "offer-1" 2) customerRequest.data, true⟩
    ⟨[sampleOffer 1 "offer-1" 2], [], []⟩

/-- The trade of two customers is booked in three legs. -/
theorem customers_trade_path :
    customerCommit.2.trades.length = 3 ∧ ∃ legs, customerCommit.2.trades = [] ++ legs ∧
      TradePath customerContext customerRequest.data (sampleOffer 1 "offer-1" 2) 2 3 legs := by
  have hcreated : customerCommit.1 = .done (.created (buildTrades customerContext
      customerRequest.data (sampleOffer 1 "offer-1" 2) []).2) := by
    decide
  have hflat : ∀ user principal, customerOwners user = some principal →
      customerOwners principal = none := by
    intro user principal howner
    unfold customerOwners at howner
    split at howner
    · cases howner
      rfl
    · cases howner
      rfl
    · cases howner
  exact ⟨by decide, accepted_request_trades_path customerContext customerRequest
    (sampleOffer 1 "offer-1" 2) _ ⟨[sampleOffer 1 "offer-1" 2], [], []⟩ customerCommit.2 _ 2
    customerOwners rfl rfl rfl hflat (by decide) (Prod.ext hcreated rfl)⟩

end TradingBot.Trades
