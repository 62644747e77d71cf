import TradingBot.Overtime.Promotion

/-!
# From writes to operations

`LedgerRule` is what a relation on sessions needs so that operations keep it: it holds of anything
that starts outside `Inv`, and a flush, a promotion and every decision that `D` admits keep it;
`Rule` adds the change of an offer. Each operation has one lemma, from that `D` admits its
decisions.
-/

namespace TradingBot.Overtime

open TradingBot TradingBot.Misc

/-- The relation `R` is kept by the building blocks of the operations on the ledger. -/
structure LedgerRule (ambient : Ambient) (Inv : Session → Prop) (D : Nat → Decision → Prop)
    (R : Session → Session → Prop) : Prop extends WriteRule ambient D R where
  outside : ∀ {s s'}, ¬ Inv s → R s s'
  promote : ∀ home owner lifetime now flush,
    Txn.Keeps R (promoteNextForOwner ambient home owner lifetime now flush)

/-- The relation `R` is kept by the building blocks of the operations that change offers too. -/
structure Rule (ambient : Ambient) (Inv : Session → Prop) (D : Nat → Decision → Prop)
    (R : Session → Session → Prop) : Prop extends LedgerRule ambient Inv D R where
  offers : ∀ id f, Txn.Keeps R (updateOffer id f)

/-- The rows that `reconcile_overtime_requests` locks for its targets. -/
def Rule.lockedRows (ambient : Ambient) (targets : List (String × Finding)) (s : Session) :
    List OfferRequest :=
  s.select (fun r => r.requestHomeServer = ambient.currentServer ∧
    targets.any (fun t => r.requestPublicId = some t.1))

def Rule.repairTargets (ambient : Ambient) (jobs : Nat → Option DeliveryJob) (clock lifetime : Int)
    (limit : Nat) (s : Session) : List (String × Finding) :=
  byRequest (repairable
    (collectOvertimeReconciliationFindings ambient jobs clock lifetime limit s))

/-- `D` admits a decision on the row of an id if, in the session, it waits no more. -/
def MayDecide (D : Nat → Decision → Prop) (s : Session) (id : Nat) (d : Decision) : Prop :=
  ∀ ledger, s.row? id = some ledger → ¬ Waiting ledger → D id d

theorem not_waiting_of_presented {r : OfferRequest} (h : r.resultStatus = .overtimePresented) :
    ¬ Waiting r := by
  unfold Waiting
  rw [h]
  decide

namespace LedgerRule

variable {ambient : Ambient} {Inv : Session → Prop} {D : Nat → Decision → Prop}
  {R : Session → Session → Prop} [IsPreorder Session R]

theorem flushIf (rule : LedgerRule ambient Inv D R) (flush : Bool) :
    Txn.Keeps R (Overtime.flushIf flush) := rule.toWriteRule.flushIf flush

variable {id limit decidedBy : Nat} {reason : String} {now lifetime clock normalMinutes : Int}
  {s : Session}

theorem invalidateRequest (rule : LedgerRule ambient Inv D R)
    (flush : Bool) (h : D id (invalidation reason now)) :
    Txn.Keeps R (Overtime.invalidateRequest ambient id reason now flush) :=
  rule.toWriteRule.invalidateRequest flush h

theorem promoteAfter (rule : LedgerRule ambient Inv D R) (ledger : OfferRequest)
    (promoteNext : Bool) (lifetime : Option Int) (now : Int) (flush : Bool) :
    Txn.Keeps R (Overtime.promoteAfter ambient ledger promoteNext lifetime now flush) := by
  unfold Overtime.promoteAfter
  split
  · exact Txn.keeps_bind (rule.promote _ _ _ _ _) fun _ => Txn.keeps_pure ()
  · exact Txn.keeps_pure ()

theorem decideAndPromote (rule : LedgerRule ambient Inv D R) {d : Decision} (h : D id d)
    (ledger : OfferRequest) (promoteNext : Bool) (lifetime : Option Int) (now : Int)
    (flush : Bool) :
    Txn.Keeps R (applyOvertimeTransition ambient id d >>= fun _ =>
      Overtime.flushIf flush >>= fun _ =>
      Overtime.promoteAfter ambient ledger promoteNext lifetime now flush) :=
  Txn.keeps_bind (rule.decides h) fun _ => Txn.keeps_bind (rule.flushIf flush) fun _ =>
    rule.promoteAfter ledger promoteNext lifetime now flush

theorem cancelByRequester (rule : LedgerRule ambient Inv D R) {requester : Nat}
    (flush promoteNext : Bool) (lifetime : Option Int) (h : D id (requesterCancellation now)) :
    Txn.Keeps R
      (Overtime.cancelByRequester ambient id requester now flush promoteNext lifetime) := by
  refine Txn.keeps_bind (Txn.keeps_read _) fun ledger? => ?_
  cases ledger? with
  | none => exact Txn.keeps_raise _
  | some ledger =>
    dsimp only
    split
    · exact Txn.keeps_raise _
    · split
      · exact Txn.keeps_raise _
      · exact rule.decideAndPromote h ledger promoteNext lifetime now flush

theorem rejectByOwner (rule : LedgerRule ambient Inv D R)
    (flush promoteNext : Bool) (lifetime : Option Int)
    (h : MayDecide D s id (ownerRejection decidedBy now)) :
    R s (Overtime.rejectByOwner ambient id decidedBy now flush promoteNext lifetime s).2 := by
  unfold Overtime.rejectByOwner
  rw [Txn.bind_read]
  cases hrow : s.row? id with
  | none => exact refl_of R s
  | some ledger =>
    dsimp only
    cases hmay : ensureOwnerMayDecide ledger decidedBy now with
    | error e => exact refl_of R s
    | ok _ =>
      unfold ensureOwnerMayDecide at hmay
      split_ifs at hmay with _ hpresented
      have hd := h ledger hrow (not_waiting_of_presented (not_not.mp hpresented))
      exact rule.decideAndPromote hd ledger promoteNext lifetime now flush s

theorem expireDecision (rule : LedgerRule ambient Inv D R)
    (flush promoteNext : Bool) (lifetime : Option Int)
    (h : MayDecide D s id (decisionTimeout now)) :
    R s (Overtime.expireDecision ambient id now flush promoteNext lifetime s).2 := by
  unfold Overtime.expireDecision
  rw [Txn.bind_read]
  cases hrow : s.row? id with
  | none => exact refl_of R s
  | some ledger =>
    dsimp only
    split_ifs with _ hpresented
    · exact refl_of R s
    · exact refl_of R s
    · exact refl_of R s
    · have hd := h ledger hrow (not_waiting_of_presented (not_not.mp hpresented))
      exact rule.decideAndPromote hd ledger promoteNext lifetime now flush s

theorem recordCompletedTrade (rule : LedgerRule ambient Inv D R) {tradeId : Nat}
    {decidedAt : Int} (h : MayDecide D s id (tradeCompletion tradeId decidedBy decidedAt)) :
    R s (Overtime.recordCompletedTrade ambient id tradeId decidedBy decidedAt s).2 := by
  unfold Overtime.recordCompletedTrade
  cases hrow : s.row? id with
  | none =>
    unfold applyOvertimeTransition
    rw [Txn.bind_read, hrow]
    exact refl_of R s
  | some ledger =>
    by_cases hw : Waiting ledger
    · obtain ⟨e, he⟩ := transitionRow_completion ambient.utcNow hw tradeId decidedBy decidedAt
      unfold applyOvertimeTransition
      rw [Txn.bind_read, hrow]
      dsimp only
      rw [he]
      exact refl_of R s
    · exact rule.decides (h ledger hrow hw) s

theorem invalidateAndPromote (rule : LedgerRule ambient Inv D R)
    {onlyDelivering : Bool} (h : D id (invalidation reason now)) :
    Txn.Keeps R
      (Overtime.invalidateAndPromote ambient id reason now onlyDelivering lifetime) := by
  refine Txn.keeps_bind (Txn.keeps_read _) fun ledger? => ?_
  cases ledger? with
  | none => exact Txn.keeps_pure ()
  | some ledger =>
    exact Txn.keeps_ite (Txn.keeps_pure ()) (Txn.keeps_bind (rule.invalidateRequest _ h) fun _ =>
      rule.promoteAfter _ _ _ _ _)

theorem invalidateRows (rule : LedgerRule ambient Inv D R) :
    ∀ {rows : List OfferRequest}, (∀ row ∈ rows, D row.id (invalidation reason now)) →
      Txn.Keeps R (Overtime.invalidateRows ambient reason now rows) := by
  intro rows
  induction rows with
  | nil => intro _; exact Txn.keeps_pure []
  | cons row rows ih =>
    intro h
    refine Txn.keeps_bind (Txn.keeps_read _) fun before => ?_
    refine Txn.keeps_bind (rule.invalidateRequest false (h row List.mem_cons_self)) fun _ => ?_
    refine Txn.keeps_bind (Txn.keeps_read _) fun after => ?_
    exact Txn.keeps_bind (ih fun r hr => h r (List.mem_cons_of_mem row hr)) fun _ =>
      Txn.keeps_pure _

theorem promoteScopes (rule : LedgerRule ambient Inv D R) (lifetime now : Int) (flush : Bool)
    (scopes : List (Nat × Server)) :
    Txn.Keeps R (Overtime.promoteScopes ambient lifetime now flush scopes) :=
  Txn.keeps_each fun _ _ =>
    Txn.keeps_bind (rule.promote _ _ _ _ _) fun _ => Txn.keeps_pure ()

theorem promoteScopesIf (rule : LedgerRule ambient Inv D R) (promoteNext : Bool)
    (lifetime : Option Int) (now : Int) (flush : Bool) (rows : List OfferRequest) :
    Txn.Keeps R
      (Overtime.promoteScopesIf ambient promoteNext lifetime now flush rows) := by
  unfold Overtime.promoteScopesIf
  split
  · exact rule.promoteScopes _ _ _ _
  · exact Txn.keeps_pure ()

/-- The rows that a session's query for `f` returns may be invalidated. -/
def MayInvalidate (Inv : Session → Prop) (D : Nat → Decision → Prop) (f : RequestFilter)
    (reason : String) (now : Int) : Prop :=
  ∀ s, Inv s → ∀ row ∈ s.select f.admits, D row.id (invalidation reason now)

theorem invalidateOvertimeRequests (rule : LedgerRule ambient Inv D R) {f : RequestFilter}
      (promoteNext : Bool) (lifetime : Option Int) (flush : Bool)
    (h : MayInvalidate Inv D f reason now) :
    Txn.Keeps R (Overtime.invalidateOvertimeRequests ambient reason f now promoteNext lifetime
      flush) := by
  have htail : ∀ rows, (∀ row ∈ rows, D row.id (invalidation reason now)) →
      Txn.Keeps R (Overtime.invalidateRows ambient reason now rows >>= fun ended =>
        Overtime.flushIf flush >>= fun _ =>
        Overtime.promoteScopesIf ambient promoteNext lifetime now flush ended >>= fun _ =>
        pure ended) := fun rows hrows =>
    Txn.keeps_bind (rule.invalidateRows hrows) fun ended =>
      Txn.keeps_bind (rule.flushIf flush) fun _ =>
        Txn.keeps_bind (rule.promoteScopesIf _ _ _ _ _) fun _ => Txn.keeps_pure _
  unfold Overtime.invalidateOvertimeRequests listNonterminalOvertimeRequests
  split
  · refine Txn.keeps_bind_read fun s => ?_
    by_cases hinv : Inv s
    · refine htail _ (fun row hrow => ?_) s
      exact h s hinv row ((List.perm_insertionSort _ _).mem_iff.mp hrow)
    · exact rule.outside hinv
  · rw [Txn.bind_raise]
    exact Txn.keeps_raise _

theorem invalidateOvertimeRequestsForUser (rule : LedgerRule ambient Inv D R) {userId : Nat}
    {requestHomeServer : String} (promoteNext : Bool) (lifetime : Option Int) (flush : Bool)
    (howner : MayInvalidate Inv D ⟨none, none, some userId, none,
      some (normalizeServer requestHomeServer ambient.currentServer)⟩ reason now)
    (hrequester : MayInvalidate Inv D ⟨none, none, none, some userId,
      some (normalizeServer requestHomeServer ambient.currentServer)⟩ reason now) :
    Txn.Keeps R (Overtime.invalidateOvertimeRequestsForUser ambient userId reason
      requestHomeServer now promoteNext lifetime flush) :=
  Txn.keeps_bind (rule.invalidateOvertimeRequests _ _ _ howner) fun _ =>
    Txn.keeps_bind (rule.invalidateOvertimeRequests _ _ _ hrequester) fun _ =>
      Txn.keeps_bind (rule.flushIf flush) fun _ =>
        Txn.keeps_bind (rule.promoteScopesIf _ _ _ _ _) fun _ => Txn.keeps_pure _

theorem invalidateForOffers (rule : LedgerRule ambient Inv D R) : ∀ {offers : List Offer},
    (∀ offer ∈ offers, MayInvalidate Inv D (offerFilter ambient offer) reason now) →
      Txn.Keeps R (Overtime.invalidateForOffers ambient reason now normalMinutes offers) := by
  intro offers
  induction offers with
  | nil => intro _; exact Txn.keeps_pure []
  | cons offer offers ih =>
    intro h
    refine Txn.keeps_bind
      (rule.invalidateOvertimeRequests _ _ _ (h offer List.mem_cons_self)) fun _ => ?_
    exact Txn.keeps_bind (ih fun o ho => h o (List.mem_cons_of_mem offer ho)) fun _ =>
      Txn.keeps_pure _

theorem invalidateOvertimeAfterOfferExpiry (rule : LedgerRule ambient Inv D R) {offers : List Offer}
    (h : ∀ offer ∈ offers, MayInvalidate Inv D (offerFilter ambient offer) reason now) :
    Txn.Keeps R (Overtime.invalidateOvertimeAfterOfferExpiry ambient offers reason now
      normalMinutes) :=
  Txn.keeps_bind (rule.invalidateForOffers h) fun _ => rule.promoteScopes _ _ _ _

omit [IsPreorder Session R] in
theorem exceptOvertimeError [IsPreorder Session R] {α : Type} {m : Work α}
    (hm : Txn.Keeps R m) (otherwise : α) :
    Txn.Keeps R (Overtime.exceptOvertimeError m otherwise) := by
  refine Txn.keeps_handle hm fun e => ?_
  cases e with
  | overtime _ _ _ => exact Txn.keeps_pure otherwise
  | _ => exact Txn.keeps_raise _

theorem sweepRows {repair : OfferRequest → Work Unit} : ∀ {rows : List OfferRequest},
    (∀ row ∈ rows, Txn.Keeps R (repair row)) → Txn.Keeps R (Overtime.sweepRows repair rows) := by
  intro rows
  induction rows with
  | nil => intro _; exact Txn.keeps_pure 0
  | cons row rows ih =>
    intro h
    refine Txn.keeps_bind (exceptOvertimeError (Txn.keeps_bind (h row List.mem_cons_self)
      fun _ => Txn.keeps_pure 1) 0) fun _ => ?_
    exact Txn.keeps_bind (ih fun r hr => h r (List.mem_cons_of_mem row hr)) fun _ =>
      Txn.keeps_pure _

theorem expireOverduePresentedDecisions (rule : LedgerRule ambient Inv D R) (flush : Bool)
    (h : ∀ row ∈ overduePresentedRows ambient clock limit s, D row.id (decisionTimeout clock)) :
    R s (Overtime.expireOverduePresentedDecisions ambient clock lifetime limit flush s).2 := by
  have hrows : ∀ row ∈ overduePresentedRows ambient clock limit s, Txn.Keeps R
      (Overtime.expireDecision ambient row.id clock false true (positiveLifetime lifetime)) :=
    fun row hrow _ => rule.expireDecision _ _ _ fun _ _ _ => h row hrow
  exact Txn.keeps_bind (sweepRows hrows)
    (fun _ => Txn.keeps_bind (rule.flushIf _) fun _ => Txn.keeps_pure _) s

theorem expireOverdueDeliveringRequests (rule : LedgerRule ambient Inv D R)
    (flush : Bool) (h : ∀ row ∈ overdueDeliveringRows ambient clock limit s,
      D row.id (invalidation deliveryTimeoutReason clock)) :
    R s (Overtime.expireOverdueDeliveringRequests ambient clock limit flush s).2 :=
  Txn.keeps_bind (sweepRows fun row hrow => rule.invalidateRequest _ (h row hrow))
    (fun _ => Txn.keeps_bind (rule.flushIf _) fun _ => Txn.keeps_pure _) s

/-- `D` admits the decisions that the repair of a finding on a row makes. -/
structure MayRepair (ambient : Ambient) (Inv : Session → Prop) (D : Nat → Decision → Prop)
    (clock : Int) (f : Finding) (row : OfferRequest) : Prop where
  presented : f.issue = .overduePresentedDecision → D row.id (decisionTimeout clock)
  delivering : f.issue = .overdueDelivering → D row.id (invalidation deliveryTimeoutReason clock)
  missing : f.issue = .nonterminalOnInactiveOffer ∨ f.issue = .nonterminalPastFinalDeadline →
    D row.id (invalidation "overtime_reconcile_offer_missing" clock)
  offer : f.issue = .nonterminalOnInactiveOffer ∨ f.issue = .nonterminalPastFinalDeadline →
    ∀ offer : Offer, offer.offerPublicId = row.offerPublicId →
      MayInvalidate Inv D (offerFilter ambient offer) ("overtime_reconcile_" ++ f.issue.value) clock

theorem repairFinding (rule : LedgerRule ambient Inv D R) {f : Finding}
    {row : OfferRequest} (h : MayRepair ambient Inv D clock f row) :
    Txn.Keeps R (Overtime.repairFinding ambient clock lifetime f row) := by
  have hoffer : (f.issue = .nonterminalOnInactiveOffer ∨
      f.issue = .nonterminalPastFinalDeadline) →
      ∀ (s : Session) (offer : Offer),
        s.offers.find? (fun o => o.offerPublicId = row.offerPublicId) = some offer →
          Txn.Keeps R (invalidateOvertimeRequestsForOffer ambient offer
            ("overtime_reconcile_" ++ f.issue.value) clock true (positiveLifetime lifetime) false
            >>= fun _ => pure true) := by
    intro hissue s offer hfound
    have hpublic : offer.offerPublicId = row.offerPublicId := by
      simpa using List.find?_some hfound
    exact Txn.keeps_bind (rule.invalidateOvertimeRequests _ _ _ (h.offer hissue offer hpublic))
      fun _ => Txn.keeps_pure _
  have hmissing : (f.issue = .nonterminalOnInactiveOffer ∨
      f.issue = .nonterminalPastFinalDeadline) →
      Txn.Keeps R (Overtime.invalidateRequest ambient row.id "overtime_reconcile_offer_missing"
        clock false >>= fun _ => pure true) := fun hissue =>
    Txn.keeps_bind (rule.invalidateRequest _ (h.missing hissue)) fun _ => Txn.keeps_pure _
  unfold Overtime.repairFinding
  split
  · have hd := h.presented ‹_›
    exact Txn.keeps_bind (fun _ => rule.expireDecision _ _ _ fun _ _ _ => hd) fun _ =>
      Txn.keeps_pure _
  · exact Txn.keeps_bind (rule.invalidateRequest _ (h.delivering ‹_›)) fun _ => Txn.keeps_pure _
  · refine Txn.keeps_bind_read fun s => ?_
    cases hfound : s.offers.find? (fun o => o.offerPublicId = row.offerPublicId) with
    | none => exact hmissing (.inl ‹_›) s
    | some offer => exact hoffer (.inl ‹_›) s offer hfound s
  · refine Txn.keeps_bind_read fun s => ?_
    cases hfound : s.offers.find? (fun o => o.offerPublicId = row.offerPublicId) with
    | none => exact hmissing (.inr ‹_›) s
    | some offer => exact hoffer (.inr ‹_›) s offer hfound s
  · exact Txn.keeps_pure _

theorem repairLoop (rule : LedgerRule ambient Inv D R)
    {locked : List OfferRequest} : ∀ {targets : List (String × Finding)} (report : Report),
    (∀ target ∈ targets, ∀ row, locked.find? (fun r => r.requestPublicId = some target.1) =
      some row → MayRepair ambient Inv D clock target.2 row) →
    Txn.Keeps R (Overtime.repairLoop ambient clock lifetime locked targets report) := by
  intro targets
  induction targets with
  | nil => intro report _; exact Txn.keeps_pure report
  | cons target targets ih =>
    obtain ⟨key, f⟩ := target
    intro report h
    have hrest : ∀ next, Txn.Keeps R
        (Overtime.repairLoop ambient clock lifetime locked targets next) := fun next =>
      ih next fun t ht => h t (List.mem_cons_of_mem _ ht)
    unfold Overtime.repairLoop
    cases hrow : locked.find? (fun r => r.requestPublicId = some key) with
    | none => exact hrest _
    | some row =>
      exact Txn.keeps_bind (exceptOvertimeError
        (rule.repairFinding (h (key, f) List.mem_cons_self row hrow)) false) fun _ => hrest _

theorem reconcileOvertimeRequests (rule : LedgerRule ambient Inv D R)
    {jobs : Nat → Option DeliveryJob} {dryRun : Bool} (flush : Bool)
    (h : ∀ target ∈ Rule.repairTargets ambient jobs clock lifetime limit s, ∀ row,
      (Rule.lockedRows ambient (Rule.repairTargets ambient jobs clock lifetime limit s) s).find?
        (fun r => r.requestPublicId = some target.1) = some row →
      MayRepair ambient Inv D clock target.2 row) :
    R s (Overtime.reconcileOvertimeRequests ambient jobs dryRun clock lifetime limit flush
      s).2 := by
  unfold Overtime.reconcileOvertimeRequests
  rw [Txn.bind_read]
  split
  · exact refl_of R s
  · dsimp only
    split
    · exact refl_of R s
    · rw [Txn.bind_read]
      exact Txn.keeps_bind (rule.repairLoop _ h) (fun _ => Txn.keeps_bind (rule.flushIf _)
        fun _ => Txn.keeps_pure _) s

end LedgerRule

namespace Rule

variable {ambient : Ambient} {Inv : Session → Prop} {D : Nat → Decision → Prop}
  {R : Session → Session → Prop} [IsPreorder Session R]

theorem expireOfferRow (rule : Rule ambient Inv D R) (command : OfferExpiryCommand) (now : Int)
    (requireAuthority : Bool) (id : Nat) :
    Txn.Keeps R (Overtime.expireOfferRow ambient command now requireAuthority id) := by
  refine Txn.keeps_bind (Txn.keeps_read _) fun offer? => ?_
  cases offer? with
  | none => exact Txn.keeps_raise _
  | some offer =>
    dsimp only
    split
    · exact Txn.keeps_raise _
    · exact Txn.keeps_raise _
    · exact rule.offers _ _

theorem expireActiveOffers (rule : Rule ambient Inv D R) (command : OfferExpiryCommand)
    (now : Int) (requireAuthority : Bool) : ∀ ids : List Nat,
    Txn.Keeps R (Overtime.expireActiveOffers ambient command now requireAuthority ids)
  | [] => Txn.keeps_pure []
  | id :: ids => by
    refine Txn.keeps_bind (Txn.keeps_read _) fun offer? => ?_
    refine Txn.keeps_ite ?_ (Txn.keeps_ite (Txn.keeps_raise _) ?_)
    · exact Txn.keeps_bind (rule.expireOfferRow _ _ _ _) fun _ =>
        Txn.keeps_bind (expireActiveOffers rule command now requireAuthority ids) fun _ =>
          Txn.keeps_pure _
    · exact expireActiveOffers rule command now requireAuthority ids

variable {now normalMinutes : Int} {command : OfferExpiryCommand}

theorem expireOfferAuthoritatively (rule : Rule ambient Inv D R) {id : Nat}
    (normalMinutes : Int) (requireAuthority : Bool)
    (h : ∀ offer : Offer, LedgerRule.MayInvalidate Inv D (offerFilter ambient offer)
      ("offer_expired:" ++ command.reason) now) :
    Txn.Keeps R (Overtime.expireOfferAuthoritatively ambient id command now normalMinutes
      requireAuthority) :=
  Txn.keeps_bind (rule.expireOfferRow _ _ _ _) fun _ => Txn.keeps_bind (Txn.keeps_read _) fun _ =>
    rule.invalidateOvertimeAfterOfferExpiry fun offer _ => h offer

theorem expireOffersAuthoritatively (rule : Rule ambient Inv D R) {ids : List Nat}
    (normalMinutes : Int) (requireAuthority : Bool)
    (h : ∀ offer : Offer, LedgerRule.MayInvalidate Inv D (offerFilter ambient offer)
      ("offer_expired:" ++ command.reason) now) :
    Txn.Keeps R (Overtime.expireOffersAuthoritatively ambient ids command now normalMinutes
      requireAuthority) :=
  Txn.keeps_bind (rule.expireActiveOffers _ _ _ _) fun _ =>
    Txn.keeps_bind (Txn.keeps_read _) fun _ =>
      rule.invalidateOvertimeAfterOfferExpiry fun offer _ => h offer

theorem finalizeOutageRecovery (rule : Rule ambient Inv D R) (mode : Server)
    (candidates : List Nat) (now : Int) :
    Txn.Keeps R (Overtime.finalizeOutageRecovery ambient mode candidates now) :=
  Txn.keeps_each fun _ _ => rule.expireOfferRow _ _ _ _

theorem finalizeOvertimeTradeSideEffects (rule : Rule ambient Inv D R) {ledger : OfferRequest}
    {offerId : Nat} {stamp : Int}
    (h : ∀ offer : Offer, LedgerRule.MayInvalidate Inv D (offerFilter ambient offer)
      "overtime_trade_completed" stamp) :
    Txn.Keeps R (Overtime.finalizeOvertimeTradeSideEffects ambient ledger offerId normalMinutes
      stamp) := by
  refine Txn.keeps_bind (Txn.keeps_read _) fun offer? => ?_
  cases offer? with
  | none => exact Txn.keeps_pure ()
  | some offer =>
    refine Txn.keeps_bind (Txn.keeps_ite (rule.expireOfferRow _ _ _ _) (Txn.keeps_pure ()))
      fun _ => Txn.keeps_bind (rule.invalidateOvertimeRequests _ _ _ (h offer)) fun _ => ?_
    · split
      · exact Txn.keeps_pure ()
      · exact Txn.keeps_bind (rule.promote _ _ _ _ _) fun _ => Txn.keeps_pure ()

theorem approveRequest (rule : Rule ambient Inv D R) {id tradeId decidedBy : Nat}
    {s : Session} (hd : MayDecide D s id (tradeCompletion tradeId decidedBy ambient.utcNow))
    (h : ∀ offer : Offer, LedgerRule.MayInvalidate Inv D (offerFilter ambient offer)
      "overtime_trade_completed" now) :
    R s (Overtime.approveRequest ambient id tradeId decidedBy normalMinutes now s).2 := by
  unfold Overtime.approveRequest
  rw [Txn.bind_read]
  cases s.row? id with
  | none => exact refl_of R s
  | some ledger =>
    refine Txn.rel_bind (rule.recordCompletedTrade hd) fun _ => ?_
    cases ledger.localOfferId with
    | none => exact Txn.keeps_pure ()
    | some offerId =>
      exact Txn.keeps_bind (rule.offers _ _) fun _ => rule.finalizeOvertimeTradeSideEffects h

end Rule

end TradingBot.Overtime
