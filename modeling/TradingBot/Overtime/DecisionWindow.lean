import TradingBot.Overtime.Steps

/-!
# The decision window and the cooldown, to the microsecond

The window of a presented request and the cooldown after it are read off the whole seconds that are
left, rounded down: the last fraction of a second before a deadline counts as none. Here the three
tests are placed on the time line.
-/

namespace TradingBot.Overtime

open TradingBot TradingBot.Misc

theorem remainingSecondsUntil_pos_iff (deadline now : Int) :
    0 < remainingSecondsUntil (some deadline) now ↔ now + second ≤ deadline := by
  unfold remainingSecondsUntil second
  dsimp only
  rcases Int.le_total 0 (deadline - now) with hsign | hsign
  · rw [Int.tdiv_eq_ediv_of_nonneg hsign]
    omega
  · have hflip : (deadline - now).tdiv 1000000 = -((now - deadline).tdiv 1000000) := by
      rw [← Int.neg_tdiv, Int.neg_sub]
    have hnonneg : 0 ≤ (now - deadline).tdiv 1000000 := Int.tdiv_nonneg (by omega) (by decide)
    omega

theorem cooldownRemainingSeconds_pos_iff (decidedAt now : Int) :
    0 < cooldownRemainingSeconds (some decidedAt) now ↔ now ≤ decidedAt + 29 * second := by
  unfold cooldownRemainingSeconds
  rw [remainingSecondsUntil_pos_iff]
  unfold overtimeCooldownSeconds second
  omega

theorem row?_updateRow {id : Nat} {f : OfferRequest → OfferRequest} (hf : ∀ r, (f r).id = r.id)
    (s : Session) : (updateRow id f s).2.row? id = (s.row? id).map f := by
  simp only [Session.row?, updateRow, Txn.modify_apply, Session.live, UnitOfWork.live_update,
    List.find?_map]
  have hkey : ∀ r : OfferRequest, (if decide (r.id = id) = true then f r else r).id = r.id := by
    intro r
    split
    · exact hf r
    · rfl
  have hsame : ((fun r : OfferRequest => decide (r.id = id)) ∘
      fun r => if decide (r.id = id) = true then f r else r) = fun r => decide (r.id = id) := by
    funext r
    simp only [Function.comp_apply, hkey]
  rw [hsame]
  cases hfind : (UnitOfWork.live s.rows).find? (fun r => decide (r.id = id)) with
  | none => rfl
  | some r =>
    have hid := List.find?_some hfind
    simp only [Option.map_some, hid, if_true]

variable {r : OfferRequest} {ambient : Ambient} {offerPublicId : String} {decidedAt now : Int}
  {command : OvertimeRequestCreateCommand}

theorem row?_of_forall₂ {E : OfferRequest → OfferRequest → Prop}
    (hE : ∀ a b, E a b → b.id = a.id) {rows rows' : List OfferRequest}
    (h : List.Forall₂ E rows rows') {id : Nat} (hr : rows.find? (fun x => x.id = id) = some r) :
    ∃ r', rows'.find? (fun x => x.id = id) = some r' ∧ E r r' := by
  induction h with
  | nil => simp at hr
  | @cons a b rows rows' hab _ ih =>
    by_cases hid : a.id = id
    · have hb : b.id = id := (hE a b hab).trans hid
      simp only [List.find?_cons, hid, decide_true, Option.some.injEq] at hr
      refine ⟨b, by simp [hb], ?_⟩
      rw [← hr]
      exact hab
    · have hb : b.id ≠ id := fun hb => hid ((hE a b hab).symm.trans hb)
      simp only [List.find?_cons, hid, decide_false] at hr
      simpa only [List.find?_cons, hb, decide_false] using ih hr

theorem status_of_moves {P : Nat → Prop} {A : OfferRequest → OfferRequest → Prop}
    {s s' : Session} (h : RowsMove (Within P A) s s') {id : Nat} (hr : s.row? id = some r)
    (hended : r.resultStatus ∉ overtimeNonterminalStatuses) :
    (s'.row? id).map OfferRequest.resultStatus = some r.resultStatus := by
  have hlive : List.Forall₂ (Within P A) s.live s'.live := UnitOfWork.Moves.live_forall₂ h
  obtain ⟨r', hr', hwithin⟩ := row?_of_forall₂ (fun a b hab => hab.1.id_eq) hlive hr
  have hstatus := eq_of_reaches_of_not_open hwithin.1.status hended
  rw [Session.row?, hr', Option.map_some, hstatus]

theorem status_after_decision {d : Decision} {ledger : OfferRequest} {id : Nat}
    {s : Session} (hrow : s.row? id = some ledger) (hends : Ends d)
    (hlegal : LegalChange ledger.resultStatus d.resultStatus)
    (hrunning : ledger.resultStatus ∉ terminalOfferRequestStatuses) {rest : Unit → Work Unit}
    (hrest : ∀ u, Txn.Keeps (Spares (fun _ => False) (fun _ => True) Eq) (rest u)) :
    (((applyOvertimeTransition ambient id d >>= rest) s).2.row? id).map
      OfferRequest.resultStatus = some d.resultStatus := by
  obtain ⟨row, hok⟩ := exists_transitionRow ambient.utcNow (.inr hlegal) hrunning
  have hwrite := applyOvertimeTransition_eq_updateRow hrow hok
  have hfound : (applyOvertimeTransition ambient id d s).2.row? id = some row := by
    rw [hwrite, row?_updateRow, hrow, Option.map_some, hok]
    intro r
    cases hr : transitionRow ambient.utcNow r d with
    | ok r' => exact field_eq_of_identity (transitionRow_ok hr).2.1 OfferRequest.id fun _ => rfl
    | error e => rfl
  have hstatus : row.resultStatus = d.resultStatus := (transitionRow_ok hok).2.2.1
  have hended : row.resultStatus ∉ overtimeNonterminalStatuses := by
    rw [hstatus]
    exact hends
  -- nothing is protected, so the continuation moves every row along the table
  have hmoves := hrest () (applyOvertimeTransition ambient id d s).2 fun t _ hp => hp.elim
  rw [hwrite] at hmoves hfound
  rw [Txn.bind_apply, hwrite]
  rw [← hstatus]
  exact status_of_moves hmoves hfound hended

/-! ## The two ends of the window -/

/-- The surroundings and the instant of an attempt to decide or time out, and its arguments. -/
structure Attempt where
  ambient : Ambient
  now : Int
  flush : Bool
  promoteNext : Bool
  normalLifetimeMinutes : Option Int

namespace Attempt

variable (a : Attempt) (s : Session) (id : Nat)

/-- `claim_owner_approval` (offer_overtime_request_service.py:1085) returns the request. -/
def ApprovalAccepted (owner : Nat) : Prop :=
  ∃ ledger, s.row? id = some ledger ∧ ensureOwnerMayDecide ledger owner a.now = .ok ()

/-- `reject_by_owner` rejects the request. -/
def RejectionAccepted (owner : Nat) : Prop :=
  ((rejectByOwner a.ambient id owner a.now a.flush a.promoteNext a.normalLifetimeMinutes
    s).2.row? id).map OfferRequest.resultStatus = some .overtimeRejectedByOwner

/-- `expire_decision` times the request out. -/
def TimeoutFires : Prop :=
  ((expireDecision a.ambient id a.now a.flush a.promoteNext a.normalLifetimeMinutes
    s).2.row? id).map OfferRequest.resultStatus = some .overtimeDecisionExpired

/-- The owner decides before the deadline, the timeout comes from then on, and no instant has both
or neither. -/
structure CutAtDeadline (owner : Nat) (deadline : Int) : Prop where
  approval : a.ApprovalAccepted s id owner ↔ a.now < deadline
  rejection : a.RejectionAccepted s id owner ↔ a.now < deadline
  timeout : a.TimeoutFires s id ↔ deadline ≤ a.now
  exactlyOne : Xor (a.RejectionAccepted s id owner) (a.TimeoutFires s id)

end Attempt

structure Presented (s : Session) (id owner : Nat) (deadline : Int) (ledger : OfferRequest) :
    Prop where
  row : s.row? id = some ledger
  status : ledger.resultStatus = .overtimePresented
  owned : ledger.offerOwnerUserId = some owner
  clock : ledger.decisionDeadlineAt = some deadline

namespace Presented

variable {s : Session} {id owner : Nat} {deadline : Int} {ledger : OfferRequest}

theorem not_terminalLike (h : Presented s id owner deadline ledger) :
    ledger.resultStatus ∉ terminalLike := by
  rw [h.status]
  decide

theorem rest_keeps (a : Attempt) (ledger : OfferRequest) (u : Unit) :
    Txn.Keeps (Spares (fun _ => False) (fun _ => True) Eq) ((fun _ : Unit =>
      flushIf a.flush >>= fun _ => promoteAfter a.ambient ledger a.promoteNext
        a.normalLifetimeMinutes a.now a.flush) u) :=
  Txn.keeps_bind ((evolves_rule a.ambient).flushIf a.flush) fun _ =>
    (evolves_rule a.ambient).promoteAfter ledger _ _ _ _

theorem ensureOwnerMayDecide_iff (h : Presented s id owner deadline ledger) (now : Int) :
    ensureOwnerMayDecide ledger owner now = .ok () ↔ now + second ≤ deadline := by
  rw [← remainingSecondsUntil_pos_iff]
  unfold ensureOwnerMayDecide
  rw [if_neg h.not_terminalLike, if_neg (not_not_intro h.status), if_neg (not_not_intro h.owned),
    h.clock]
  by_cases hleft : 0 < remainingSecondsUntil (some deadline) now
  · simp [hleft]
  · simp [hleft]

theorem approvalAccepted_iff (h : Presented s id owner deadline ledger) (a : Attempt) :
    a.ApprovalAccepted s id owner ↔ a.now + second ≤ deadline := by
  rw [← h.ensureOwnerMayDecide_iff a.now]
  constructor
  · rintro ⟨found, hfound, hmay⟩
    rw [h.row] at hfound
    injection hfound with hfound
    rw [hfound]
    exact hmay
  · intro hmay
    exact ⟨ledger, h.row, hmay⟩

theorem rejectionAccepted_iff (h : Presented s id owner deadline ledger) (a : Attempt) :
    a.RejectionAccepted s id owner ↔ a.now + second ≤ deadline := by
  rw [← h.ensureOwnerMayDecide_iff a.now]
  unfold Attempt.RejectionAccepted rejectByOwner
  rw [Txn.bind_read, h.row]
  dsimp only
  cases hmay : ensureOwnerMayDecide ledger owner a.now with
  | error e => simp [h.row, h.status]
  | ok u =>
    refine iff_of_true ?_ rfl
    refine status_after_decision h.row (ends_ownerRejection _ _) ?_ ?_ (rest_keeps a ledger)
    · rw [h.status]
      exact List.mem_cons_self
    · rw [h.status]
      decide

theorem timeoutFires_iff (h : Presented s id owner deadline ledger) (a : Attempt) :
    a.TimeoutFires s id ↔ ¬ a.now + second ≤ deadline := by
  rw [← remainingSecondsUntil_pos_iff]
  unfold Attempt.TimeoutFires expireDecision
  rw [Txn.bind_read, h.row]
  dsimp only
  rw [if_neg h.not_terminalLike, if_neg (not_not_intro h.status), h.clock]
  by_cases hleft : 0 < remainingSecondsUntil (some deadline) a.now
  · rw [if_pos ⟨by simp, hleft⟩]
    simp [h.row, h.status, hleft]
  · rw [if_neg fun hboth => hleft hboth.2]
    refine iff_of_true ?_ hleft
    refine status_after_decision h.row (ends_decisionTimeout _) ?_ ?_ (rest_keeps a ledger)
    · rw [h.status]
      exact List.mem_cons_of_mem _ List.mem_cons_self
    · rw [h.status]
      decide

theorem cutAtDeadline_iff (h : Presented s id owner deadline ledger) (a : Attempt) :
    a.CutAtDeadline s id owner deadline ↔ deadline ≤ a.now ∨ a.now + second ≤ deadline := by
  have happroval := h.approvalAccepted_iff a
  have hrejection := h.rejectionAccepted_iff a
  have htimeout := h.timeoutFires_iff a
  have hsecond : (0 : Int) < second := by decide
  constructor
  · intro hcut
    by_contra hinside
    have hbefore : a.now < deadline := by omega
    have hwhole := happroval.mp (hcut.approval.mpr hbefore)
    exact hinside (.inr hwhole)
  · intro hcond
    constructor
    · rw [happroval]
      omega
    · rw [hrejection]
      omega
    · rw [htimeout]
      omega
    · rw [hrejection, htimeout]
      exact xor_not_right.mpr Iff.rfl

end Presented

/-! ## The cooldown -/

theorem le_foldr_latest {instants : List Int} {at_ : Int} (h : at_ ∈ instants) :
    ∃ latest, instants.foldr (fun x latest => some (max x (latest.getD x))) none = some latest ∧
      at_ ≤ latest := by
  induction instants with
  | nil => simp at h
  | cons x instants ih =>
    rcases List.mem_cons.mp h with rfl | hmem
    · exact ⟨_, rfl, le_max_left _ _⟩
    · obtain ⟨latest, hlatest, hle⟩ := ih hmem
      refine ⟨max x latest, ?_, hle.trans (le_max_right _ _)⟩
      rw [List.foldr_cons, hlatest]
      rfl

structure StartsCooldown (r : OfferRequest) (requester : Nat) (offerPublicId : String)
    (decidedAt : Int) : Prop where
  status : r.resultStatus ∈ overtimeCooldownTriggerStatuses
  requester : r.requesterUserId = some requester
  offer : r.offerPublicId = offerPublicId
  decided : r.decidedAt = some decidedAt

theorem StartsCooldown.le_lastCooldownDecision {rows : List OfferRequest}
    {requester : Nat} (hmem : r ∈ rows) (h : StartsCooldown r requester offerPublicId decidedAt) :
    ∃ latest, lastCooldownDecision rows requester offerPublicId = some latest ∧
      decidedAt ≤ latest := by
  apply le_foldr_latest
  refine List.mem_filterMap.mpr ⟨r, List.mem_filter.mpr ⟨hmem, ?_⟩, h.decided⟩
  simp [h.status, h.requester, h.offer]

def NewKey (ambient : Ambient) (command : OvertimeRequestCreateCommand) (s : Session) : Prop :=
  ∀ key, nonemptyText command.idempotencyKey = some key →
    s.select (hasIdempotencyKey (command.home ambient.currentServer) key) = []

def Refused (ambient : Ambient) (command : OvertimeRequestCreateCommand) (flush : Bool) (now : Int)
    (s : Session) : Prop :=
  ∃ e, createOvertimeRequest ambient command flush now s = (.error e, s)

/-- At `now`, a new request is refused on an offer on which one of theirs was decided at
`decidedAt`. -/
def CooldownRefuses (decidedAt now : Int) : Prop :=
  ∀ ambient command flush s, NewKey ambient command s → ∀ r ∈ s.stored, ∀ offerPublicId,
    nonemptyText (some command.offer.offerPublicId) = some offerPublicId →
    StartsCooldown r command.requesterUserId offerPublicId decidedAt →
    Refused ambient command flush now s

theorem refused_of_not_admitted (flush : Bool) {s : Session} (hnew : NewKey ambient command s)
    (h : ∀ offerPublicId, nonemptyText (some command.offer.offerPublicId) = some offerPublicId →
      ∃ e, admitOvertimeRequest command (command.home ambient.currentServer) offerPublicId now s =
        .error e) : Refused ambient command flush now s := by
  unfold Refused createOvertimeRequest
  cases hkey : nonemptyText command.idempotencyKey with
  | none => exact ⟨_, rfl⟩
  | some key =>
    dsimp only
    by_cases hquantity : command.requestedQuantity ≤ 0
    · rw [if_pos hquantity]
      exact ⟨_, rfl⟩
    · rw [if_neg hquantity]
      cases hpublic : nonemptyText (some command.offer.offerPublicId) with
      | none => exact ⟨_, rfl⟩
      | some offerPublicId =>
        obtain ⟨e, he⟩ := h offerPublicId hpublic
        refine ⟨e, ?_⟩
        simp only [Txn.bind_read, hnew key hkey, List.head?_nil, he, Txn.raise_apply]

theorem admitOvertimeRequest_cooldown (home : Server) {s : Session} {latest : Int}
    (hlast : lastCooldownDecision s.stored command.requesterUserId offerPublicId = some latest)
    (hleft : 0 < cooldownRemainingSeconds (some latest) now) :
    ∃ e, admitOvertimeRequest command home offerPublicId now s = .error e := by
  unfold admitOvertimeRequest
  rw [hlast]
  split
  · exact ⟨_, rfl⟩
  · split
    · exact ⟨_, rfl⟩
    · split
      · exact ⟨_, rfl⟩
      · split
        · exact ⟨_, rfl⟩
        · split
          · exact ⟨_, rfl⟩
          · simp only [hleft, if_true]
            exact ⟨_, rfl⟩

theorem cooldownRefuses_of_le (h : now ≤ decidedAt + 29 * second) :
    CooldownRefuses decidedAt now := by
  intro ambient command flush s hnew r hr offerPublicId hpublic hstarts
  refine refused_of_not_admitted flush hnew fun publicId hpublicId => ?_
  rw [hpublic] at hpublicId
  injection hpublicId with hpublicId
  subst hpublicId
  obtain ⟨latest, hlatest, hle⟩ := hstarts.le_lastCooldownDecision hr
  refine admitOvertimeRequest_cooldown _ hlatest ?_
  rw [cooldownRemainingSeconds_pos_iff]
  omega

theorem not_refused_of_admitted (flush : Bool) {s : Session} {key : String} {owner : Nat}
    (hkey : nonemptyText command.idempotencyKey = some key)
    (hquantity : 0 < command.requestedQuantity)
    (hpublic : nonemptyText (some command.offer.offerPublicId) = some offerPublicId)
    (hnew : NewKey ambient command s)
    (hadmitted : admitOvertimeRequest command (command.home ambient.currentServer) offerPublicId
      now s = .ok owner) : ¬ Refused ambient command flush now s := by
  rintro ⟨e, he⟩
  have hafter : (createOvertimeRequest ambient command flush now s).2 = s := by rw [he]
  unfold createOvertimeRequest at hafter
  rw [hkey] at hafter
  dsimp only at hafter
  rw [if_neg (by omega), hpublic] at hafter
  simp only [Txn.bind_read, hnew key hkey, List.head?_nil, hadmitted] at hafter
  -- the rest of the creation moves rows and adds none
  generalize hadd : newOvertimeRow ambient command (command.home ambient.currentServer)
    offerPublicId key owner s = row at hafter
  have hmoves := Txn.keeps_bind ((evolves_rule ambient).flushIf flush)
    (fun _ => Txn.keeps_bind ((evolves_rule ambient).promote (command.home ambient.currentServer)
      owner command.normalLifetimeMinutes now flush) fun promoted => Txn.keeps_pure
        (⟨row.id, false, promoted = some row.id⟩ : OvertimeRequestResult))
    (addRow row s).2 fun t _ hp => hp.elim
  have hlength : s.rows.length + 1 = s.rows.length := by
    have hsame := hmoves.length_eq
    rw [show (addRow row s).2.rows.length = s.rows.length + 1 by
      simp [addRow, UnitOfWork.insert]] at hsame
    rw [hsame]
    exact congrArg (fun s => s.rows.length) hafter
  omega

def rejectedRequest (decidedAt : Int) : OfferRequest where
  id := 1
  requestPublicId := some "req_1"
  requestHomeServer := .foreign
  localOfferId := some 1
  offerPublicId := "ofr_1"
  requesterUserId := some 3
  actorUserId := some 3
  requestSourceSurface := .webapp
  requestSourceServer := .foreign
  requestedQuantity := 10
  idempotencyKey := some "key-1"
  workflowKind := .overtime
  offerOwnerUserId := some 9
  queueSequence := some 1
  presentedAt := some (decidedAt - second)
  decisionDeadlineAt := some (decidedAt + 29 * second)
  decidedByUserId := some 9
  terminalReason := some "owner_rejected"
  telegramDeliveryJobId := some 1
  telegramMessageId := none
  receivedAt := some (decidedAt - second)
  decidedAt := some decidedAt
  resultStatus := .overtimeRejectedByOwner
  publicFailureCode := none
  publicFailureMessage := none
  internalFailureCode := none
  resultingTradeId := none
  createdAt := some (decidedAt - second)

def offerAt (now : Int) : Offer :=
  { sampleOffer 1 "ofr_1" 9 with createdAt := some (now - 2 * minute) }

def afterRejection (decidedAt now : Int) : Session :=
  ⟨UnitOfWork.load [rejectedRequest decidedAt], [offerAt now]⟩

def secondRequest (now : Int) : OvertimeRequestCreateCommand :=
  sampleCommand (offerAt now) 3 "key-2" now

theorem offerAt_approval (now : Int) : classifyIntakeForOffer (offerAt now) now 1 = .approval := by
  have hdeadlines : (offerAt now).deadlines 1 = some (now - minute, now + 9 * minute) := by
    simp only [Offer.deadlines, computeLifecycleDeadlines, offerAt, readOvertimeMinutesSnapshot,
      sampleOffer, minute, second]
    rw [if_neg (by decide), Option.some.injEq, Prod.mk.injEq]
    omega
  have hovertime : 0 < readOvertimeMinutesSnapshot (offerAt now) := by
    show 0 < max 0 (min 10 (10 : Int))
    decide
  have hminute : (0 : Int) < minute := by decide
  rw [classifyIntakeForOffer, hdeadlines, classifyRequestIntakePhase]
  rw [if_neg (by omega), if_pos ⟨hovertime, by omega, by omega⟩]

theorem secondRequest_admitted (h : decidedAt + 29 * second < now) :
    admitOvertimeRequest (secondRequest now) .foreign "ofr_1" now (afterRejection decidedAt now) =
      .ok 9 := by
  have hcooldown : ¬ 0 < cooldownRemainingSeconds (lastCooldownDecision
      (afterRejection decidedAt now).stored 3 "ofr_1") now := by
    have hlast : lastCooldownDecision (afterRejection decidedAt now).stored 3 "ofr_1" =
        some decidedAt := by
      simp [afterRejection, Session.stored, lastCooldownDecision, rejectedRequest,
        overtimeCooldownTriggerStatuses]
    rw [hlast, cooldownRemainingSeconds_pos_iff]
    omega
  have hactive : getActiveRequestForOffer (afterRejection decidedAt now) .foreign "ofr_1" =
      none := by
    simp [getActiveRequestForOffer, Session.select, afterRejection, UnitOfWork.select_load,
      rejectedRequest, OfferRequest.isOpen, overtimeNonterminalStatuses]
  have houtstanding : countRequesterOutstanding (afterRejection decidedAt now).stored 3 9 =
      (0, 0) := by
    simp [countRequesterOutstanding, Session.stored, afterRejection, rejectedRequest,
      OfferRequest.isOpen, overtimeNonterminalStatuses]
  unfold admitOvertimeRequest
  rw [show classifyIntakeForOffer (secondRequest now).offer (secondRequest now).receiptAt
    (secondRequest now).normalLifetimeMinutes = .approval from offerAt_approval now]
  simp only [ne_eq, not_true_eq_false, if_false]
  simp only [secondRequest, sampleCommand, offerAt, sampleOffer, hactive, houtstanding]
  rw [if_neg hcooldown]
  rfl

theorem not_cooldownRefuses (h : decidedAt + 29 * second < now) :
    ¬ CooldownRefuses decidedAt now := by
  intro hrefuses
  have hpublic : nonemptyText (some (secondRequest now).offer.offerPublicId) = some "ofr_1" := by
    show nonemptyText (some "ofr_1") = some "ofr_1"
    decide
  have hnew : NewKey (sampleAmbient now "req_2") (secondRequest now)
      (afterRejection decidedAt now) := by
    intro key hkey
    have hname : nonemptyText (some "key-2") = some "key-2" := by decide
    rw [show (secondRequest now).idempotencyKey = some "key-2" from rfl, hname] at hkey
    injection hkey with hkey
    simp [Session.select, afterRejection, UnitOfWork.select_load, hasIdempotencyKey,
      rejectedRequest, ← hkey]
  have hkey : nonemptyText (secondRequest now).idempotencyKey = some "key-2" := by
    show nonemptyText (some "key-2") = some "key-2"
    decide
  have hadmitted : admitOvertimeRequest (secondRequest now)
      ((secondRequest now).home (sampleAmbient now "req_2").currentServer) "ofr_1" now
      (afterRejection decidedAt now) = .ok 9 := by
    have hhome : normalizeServer "foreign" .foreign = .foreign := by decide +kernel
    rw [show (secondRequest now).home (sampleAmbient now "req_2").currentServer = .foreign from
      hhome]
    exact secondRequest_admitted h
  have hquantity : 0 < (secondRequest now).requestedQuantity := by
    show (0 : Int) < 10
    decide
  have hstarts : StartsCooldown (rejectedRequest decidedAt) (secondRequest now).requesterUserId
      "ofr_1" decidedAt := ⟨List.mem_cons_self, rfl, rfl, rfl⟩
  have hmem : rejectedRequest decidedAt ∈ (afterRejection decidedAt now).stored := by
    simp [afterRejection, Session.stored]
  exact not_refused_of_admitted false hkey hquantity hpublic hnew hadmitted
    (hrefuses _ _ false _ hnew _ hmem _ hpublic hstarts)

/-- The deadline of a presented request separates the owner's decisions from the timeout exactly at
the instants outside its last second, and the cooldown refuses new requests for its whole length
exactly outside its last second. -/
theorem decision_window_exact {s : Session} {id owner : Nat} {deadline : Int}
    {ledger : OfferRequest} (h : Presented s id owner deadline ledger) (a : Attempt)
    (decidedAt now : Int) :
    (a.CutAtDeadline s id owner deadline ↔ deadline ≤ a.now ∨ a.now + second ≤ deadline) ∧
      ((now < decidedAt + 30 * second → CooldownRefuses decidedAt now) ↔
        now ≤ decidedAt + 29 * second ∨ decidedAt + 30 * second ≤ now) := by
  refine ⟨h.cutAtDeadline_iff a, ?_, ?_⟩
  · intro hrefuses
    by_contra hinside
    have hlast : decidedAt + 29 * second < now := by omega
    exact not_cooldownRefuses hlast (hrefuses (by omega))
  · rintro (hearly | hlate) hwithin
    · exact cooldownRefuses_of_le hearly
    · omega

def presentedRequest : OfferRequest :=
  { rejectedRequest (101 * second) with
    decidedByUserId := none
    terminalReason := none
    decidedAt := none
    resultStatus := .overtimePresented }

def beforeDecision : Session := ⟨UnitOfWork.load [presentedRequest], [offerAt (100 * second)]⟩

def attemptAt (now : Int) : Attempt := ⟨sampleAmbient now "", now, true, true, some 1⟩

theorem beforeDecision_presented :
    Presented beforeDecision 1 9 (130 * second) presentedRequest := by
  constructor <;> decide

theorem whole_second_left : Presented beforeDecision 1 9 (130 * second) presentedRequest ∧
    (attemptAt (129 * second)).CutAtDeadline beforeDecision 1 9 (130 * second) ∧
    CooldownRefuses (100 * second) (129 * second) := by
  refine ⟨beforeDecision_presented, ?_, ?_⟩
  · refine (decision_window_exact beforeDecision_presented (attemptAt (129 * second)) 0
      0).1.mpr (.inr ?_)
    decide
  · refine (decision_window_exact beforeDecision_presented (attemptAt 0) (100 * second)
      (129 * second)).2.mpr (.inl ?_) ?_
    · decide
    · decide

/-- Half a second before the deadline the owner is refused and the timeout fires; half a second
before the end of the cooldown a new request gets through. -/
theorem half_second_early :
    ¬ (attemptAt (129 * second + 500000)).CutAtDeadline beforeDecision 1 9 (130 * second) ∧
    ¬ (129 * second + 500000 < 100 * second + 30 * second →
      CooldownRefuses (100 * second) (129 * second + 500000)) := by
  constructor
  · rw [beforeDecision_presented.cutAtDeadline_iff]
    decide
  · intro hrefuses
    refine not_cooldownRefuses ?_ (hrefuses ?_)
    · decide
    · decide

end TradingBot.Overtime
