import TradingBot.Trades.Replay

/-!
# A request whose key is taken

The execution of a request that reuses the idempotency key of a stored row of its home server: which
rows are shown to whom, and what becomes of a recorded rejection.
-/

namespace TradingBot.Trades

open TradingBot TradingBot.Misc TradingBot.Overtime

section Taken

variable {ctx : TradeContext} {request : TradeRequest} {data : TradeCreate} {db : TradeDb}
  {offer : Offer} {row : OfferRequest}

def storedRow (ctx : TradeContext) (data : TradeCreate) (db : TradeDb) : Option OfferRequest :=
  loadOfferRequestByIdempotency db.rows ctx.currentServer data.idempotencyKey

/-- The request asks for an offer of this server, which is where its caller sends it. -/
def AtHome (ctx : TradeContext) (data : TradeCreate) (db : TradeDb) : Prop :=
  ∀ offer, db.offer? data.offerId = some offer →
    normalizeServer offer.homeServer ctx.currentServer = ctx.currentServer

def replyAtLedger (ctx : TradeContext) (data : TradeCreate) (offer : Offer) (row : OfferRequest) :
    Reply :=
  if classifyTradeRequestIntake ctx offer = .approval then
    match prevalidateOvertimeRequestForTrade ctx offer data with
    | some reply => reply
    | none =>
      if (nonemptyText (some offer.offerPublicId)).isSome then .overtime row true false
      else .overtimeError .offerInvalid "offer_public_id is required" none
  else match publicIdRefusal offer data with
  | some reply => reply
  | none => .recordedRejection row

theorem mem_of_storedRow (h : storedRow ctx data db = some row) :
    row ∈ db.rows ∧ ∃ key, nonemptyText data.idempotencyKey = some key := by
  unfold storedRow loadOfferRequestByIdempotency normalizedIdempotencyKey at h
  split at h
  · cases h
  · exact ⟨List.mem_of_find?_eq_some h, _, ‹_›⟩

theorem truthyText_of_key {value : Option String} {key : String}
    (h : nonemptyText value = some key) : (truthyText value).isSome = true := by
  cases value with
  | none =>
    rw [show nonemptyText none = none by decide] at h
    cases h
  | some text =>
    by_cases hempty : text = ""
    · rw [hempty, show nonemptyText (some "") = none by decide] at h
      cases h
    · simp [truthyText, Option.filter, hempty]

theorem rowOfKey_of_atHome (hhome : AtHome ctx data db)
    (hoffer : db.offer? data.offerId = some offer) :
    rowOfKey ctx data db offer = storedRow ctx data db := by
  unfold rowOfKey storedRow
  rw [hhome offer hoffer]

theorem offerAtLedger_some (h : offerAtLedger ctx data db = some offer) :
    db.offer? data.offerId = some offer := by
  unfold offerAtLedger at h
  split at h
  · cases h
  · exact h

theorem not_completed_of_replayByKey_none (hstored : storedRow ctx data db = some row)
    (hkey : (truthyText data.idempotencyKey).isSome = true)
    (hreplay : replayByKey ctx data db = none) : row.resultStatus ≠ .completedTrade := by
  intro hcompleted
  have hledger : loadOfferRequestByIdempotency db.rows ctx.currentServer data.idempotencyKey =
      some row := hstored
  obtain ⟨key, htext⟩ := Option.isSome_iff_exists.mp hkey
  unfold replayByKey at hreplay
  dsimp only at hreplay
  rw [hledger, Option.orElse_eq_none] at hreplay
  unfold tryReturnCompletedIdempotentReplay at hreplay
  rw [htext] at hreplay
  dsimp only at hreplay
  rw [if_neg (not_not.mpr hcompleted)] at hreplay
  obtain ⟨hnone, _⟩ := hreplay
  split at hnone
  · cases hnone
  · split at hnone <;> cases hnone

open OfferRequestStatus in
theorem record_of_taken_key (hs : db.Sound) (happroval : request.approval = none)
    (hfound : rowOfKey ctx request.data db offer = some row)
    (hstatus : row.resultStatus ∉ [received, authorized, completedTrade]) :
    record ctx request offer db = (.done (replyAtLedger ctx request.data offer row), db) := by
  cases hkey : nonemptyText request.data.idempotencyKey with
  | none =>
    rw [rowOfKey_none hkey] at hfound
    cases hfound
  | some key =>
    unfold record replyAtLedger
    rw [happroval]
    dsimp only
    by_cases hphase : classifyTradeRequestIntake ctx offer = .approval
    · rw [if_pos hphase, if_pos hphase, if_neg (stripOrEmpty_ne_of_key hkey)]
      cases prevalidateOvertimeRequestForTrade ctx offer request.data with
      | some reply => rfl
      | none =>
        cases hpublic : nonemptyText (some offer.offerPublicId) with
        | none => exact createOvertimeRequestForTrade_unidentified hkey hpublic
        | some publicId => exact createOvertimeRequestForTrade_duplicate hs hpublic hfound
    · rw [if_neg hphase, if_neg hphase]
      unfold recordDirect
      cases publicIdRefusal offer request.data with
      | some reply => rfl
      | none =>
        dsimp only
        rw [createOfferRequestLedgerEntry_found hfound]
        simp only [terminalDuplicateRequestReply, if_neg hstatus, Bool.false_eq_true, if_false]

open OfferRequestStatus in
/-- A key with a decided row that the replay leaves aside: a refusal before the ledger, or the
ledger's answer. -/
theorem execute_of_taken_key (hs : db.Sound) (hhome : AtHome ctx request.data db)
    (happroval : request.approval = none) (hentry : entryRefusal ctx = none)
    (hstored : storedRow ctx request.data db = some row)
    (hreplay : replayByKey ctx request.data db = none)
    (hstatus : row.resultStatus ∉ [received, authorized, completedTrade]) :
    (offerAtLedger ctx request.data db = none ∧ ∃ reply db',
        execute ctx request db = (reply, db') ∧ reply.Refuses ∧ db'.offers = db.offers ∧
        db'.trades = db.trades) ∨
      ∃ offer, offerAtLedger ctx request.data db = some offer ∧
        execute ctx request db = (replyAtLedger ctx request.data offer row, db) := by
  obtain ⟨_, key, hkey⟩ := mem_of_storedRow hstored
  have hrun : execute ctx request db = conclude ctx request 3 (hold ctx request db) := by
    unfold execute
    rw [conclude_start]
    unfold enter
    rw [hentry]
    dsimp only
    rw [if_pos ⟨truthyText_of_key hkey, happroval⟩, conclude_locked]
    unfold clear
    rw [hreplay]
    rfl
  rw [hrun]
  rcases hold_stage ctx request db with ⟨⟨reply, db', hdone⟩, hnone⟩ | ⟨offer, hoffer, hheld⟩
  · have htables := hold_tables ctx request db
    rw [hdone] at htables
    refine .inl ⟨hnone, reply, db', ?_, hold_refuses ctx request db hdone, htables⟩
    rw [hdone]
    exact conclude_done ctx request 3 reply db'
  · refine .inr ⟨offer, hoffer, ?_⟩
    have hfound : rowOfKey ctx request.data db offer = some row := by
      rw [rowOfKey_of_atHome hhome (offerAtLedger_some hoffer)]
      exact hstored
    rw [hheld, conclude_holding, record_of_taken_key hs happroval hfound hstatus]
    exact conclude_done ctx request 2 _ db

theorem replyAtLedger_cases (ctx : TradeContext) (data : TradeCreate) (db : TradeDb)
    (offer : Offer) (hfound : rowOfKey ctx data db offer = some row)
    (hstatus : row.resultStatus ∉ [OfferRequestStatus.received, .authorized, .completedTrade]) :
    (replyAtLedger ctx data offer row).Refuses ∨ uncheckedAtLedger ctx data db offer = some row := by
  unfold replyAtLedger uncheckedAtLedger reachesOvertimeCreation
  rw [hfound]
  by_cases hphase : classifyTradeRequestIntake ctx offer = .approval
  · rw [if_pos hphase, if_pos hphase]
    cases hpre : prevalidateOvertimeRequestForTrade ctx offer data with
    | some reply => exact .inl (prevalidateOvertimeRequestForTrade_refuses hpre)
    | none =>
      cases hpublic : nonemptyText (some offer.offerPublicId) with
      | none => exact .inl (refuses_overtimeError _ _ _)
      | some publicId => exact .inr (by simp [hphase])
  · rw [if_neg hphase, if_neg hphase]
    cases hpublic : publicIdRefusal offer data with
    | some reply => exact .inl (publicIdRefusal_refuses hpublic)
    | none =>
      right
      rw [if_neg (by simp)]
      exact Option.filter_eq_some_iff.mpr ⟨rfl, decide_eq_true hstatus⟩

theorem execute_of_missingResult (hmissing : missingResult ctx request db = some row)
    (happroval : request.approval = none) :
    (execute ctx request db).1 = .refused 503 replayResultMissingDetail := by
  unfold missingResult at hmissing
  cases hentry : entryRefusal ctx with
  | some reply =>
    rw [if_pos (.inr (by rw [hentry]; rfl))] at hmissing
    cases hmissing
  | none =>
    rw [if_neg (by simp [happroval, hentry])] at hmissing
    obtain ⟨hledger, hrow⟩ := Option.filter_eq_some_iff.mp hmissing
    obtain ⟨hcompleted, htrade⟩ := of_decide_eq_true hrow
    obtain ⟨-, key, hkey⟩ := mem_of_storedRow hledger
    have htruthy := truthyText_of_key hkey
    obtain ⟨text, htext⟩ := Option.isSome_iff_exists.mp htruthy
    have hreplay : replayByKey ctx request.data db =
        some (.refused 503 replayResultMissingDetail) := by
      unfold replayByKey tryReturnCompletedIdempotentReplay
      simp [hledger, htext, hcompleted, htrade]
    rw [execute_of_replayByKey happroval hentry htruthy hreplay]

theorem refused_of_unmatched (hs : db.Sound) (hhome : AtHome ctx request.data db)
    (happroval : request.approval = none) (hstored : storedRow ctx request.data db = some row)
    (hmismatch : matchesRow ctx request.data row = false)
    (hunchecked : uncheckedReplay ctx request db ≠ some row)
    (hmissing : missingResult ctx request db ≠ some row) : (execute ctx request db).1.Refuses := by
  obtain ⟨hmem, key, hkey⟩ := mem_of_storedRow hstored
  have htruthy := truthyText_of_key hkey
  unfold uncheckedReplay at hunchecked
  cases hentry : entryRefusal ctx with
  | some reply =>
    unfold execute
    rw [conclude_start]
    unfold enter
    rw [hentry]
    exact entryRefusal_refuses ctx hentry
  | none =>
    rw [if_neg (by simp [happroval, hentry])] at hunchecked
    cases hreplay : replayByKey ctx request.data db with
    | some reply =>
      rw [execute_of_replayByKey happroval hentry htruthy hreplay]
      have hledger : loadOfferRequestByIdempotency db.rows ctx.currentServer
          request.data.idempotencyKey = some row := hstored
      unfold replayByKey at hreplay
      dsimp only at hreplay
      rw [hledger] at hreplay
      rcases (Option.orElse_eq_some _ _ _).mp hreplay with hcompleted | ⟨_, hovertime⟩
      · unfold tryReturnCompletedIdempotentReplay at hcompleted
        split at hcompleted
        · rename_i ledger _ hsame
          cases hsame
          split at hcompleted
          · cases hcompleted
          · split at hcompleted
            · rename_i hstatus _ htrade
              refine absurd ?_ hmissing
              unfold missingResult
              rw [if_neg (by simp [happroval, hentry]), hledger]
              exact Option.filter_eq_some_iff.mpr
                ⟨rfl, decide_eq_true ⟨not_not.mp hstatus, htrade⟩⟩
            · split at hcompleted
              · rename_i hvalid
                rw [validCompletedIdempotentReplay_matches hvalid] at hmismatch
                cases hmismatch
              · cases hcompleted
                exact refuses_refused _ (by decide)
        · cases hcompleted
      · obtain ⟨_, hkind, hstatus⟩ := tryReturnOvertimeIdempotentStatus_shows hovertime
        have hrow : overtimeRowByKey ctx request.data db = some row := by
          rw [overtimeRowByKey, if_pos htruthy, hledger]
          exact Option.filter_eq_some_iff.mpr ⟨rfl, decide_eq_true ⟨hkind, hstatus⟩⟩
        rw [hrow] at hunchecked
        exact absurd rfl hunchecked
    | none =>
      have hstatus : row.resultStatus ∉
          [OfferRequestStatus.received, .authorized, .completedTrade] := by
        have hdecided := hs.decided row hmem
        have hcompleted := not_completed_of_replayByKey_none hstored htruthy hreplay
        simp only [List.mem_cons, List.not_mem_nil, or_false, not_or] at hdecided ⊢
        exact ⟨hdecided.1, hdecided.2, hcompleted⟩
      have hnone : overtimeRowByKey ctx request.data db = none := by
        cases hrow : overtimeRowByKey ctx request.data db with
        | none => rfl
        | some stored =>
          obtain ⟨_, reply, hreply, _⟩ := replayByKey_of_overtimeRowByKey hrow
          rw [hreplay] at hreply
          cases hreply
      rw [hnone, hreplay] at hunchecked
      rcases execute_of_taken_key hs hhome happroval hentry hstored hreplay hstatus with
        ⟨_, reply, db', hrun, hrefuses, _⟩ | ⟨offer, hoffer, hrun⟩
      · rw [hrun]
        exact hrefuses
      · rw [hrun]
        rw [hoffer] at hunchecked
        have hfound : rowOfKey ctx request.data db offer = some row := by
          rw [rowOfKey_of_atHome hhome (offerAtLedger_some hoffer)]
          exact hstored
        rcases replyAtLedger_cases ctx request.data db offer hfound hstatus with hrefuses | hrow
        · exact hrefuses
        · simp [hrow] at hunchecked

end Taken

/-- Every row that is shown matches the caller, and the replay of a row that does not match is
refused and tells nothing of it, exactly when the caller matches the row that a branch without a
check has for it. -/
theorem shown_row_matches_iff (ctx : TradeContext) (request : TradeRequest) (db : TradeDb)
    (hs : db.Sound) (hhome : AtHome ctx request.data db) (happroval : request.approval = none) :
    ((∀ row, (execute ctx request db).1.shows? = some row →
          matchesRow ctx request.data row = true) ∧
        ∀ row, storedRow ctx request.data db = some row →
          matchesRow ctx request.data row = false → (execute ctx request db).1.Refuses) ↔
      ∀ row, uncheckedReplay ctx request db = some row ∨ missingResult ctx request db = some row →
        matchesRow ctx request.data row = true := by
  constructor
  · rintro ⟨hshown, hrefused⟩ row (hrow | hmissing)
    · exact hshown row ((execute_shows hs).2 hrow)
    · refine Bool.of_not_eq_false fun hmismatch => ?_
      refine (hrefused row ?_ hmismatch).2.2 (execute_of_missingResult hmissing happroval)
      unfold missingResult at hmissing
      split at hmissing
      · cases hmissing
      · exact (Option.filter_eq_some_iff.mp hmissing).1
  · intro h
    refine ⟨fun row hshows => ?_, fun row hstored hmismatch => ?_⟩
    · rcases (execute_shows hs).1 hshows with hrow | hmatches
      · exact h row (.inl hrow)
      · exact hmatches
    · have hother : matchesRow ctx request.data row ≠ true := by
        rw [hmismatch]
        exact Bool.false_ne_true
      exact refused_of_unmatched hs hhome happroval hstored hmismatch
        (fun hrow => hother (h row (.inl hrow))) fun hrow => hother (h row (.inr hrow))

def twoOffers : TradeDb := ⟨[sampleOffer 1 "offer-1" 2, sampleOffer 2 "offer-2" 2], [], []⟩

def wholeRequest : TradeRequest := sampleRequest 1 10 "key" offerOne_pos tenPieces_pos

/-- The tables after user 3 asked for all of offer 1 in its approval window. -/
def afterFirst : TradeDb :=
  (execute (sampleContext (2 * minute) "request-1" 3 userThree_pos) wholeRequest twoOffers).2

theorem afterFirst_sound : afterFirst.Sound :=
  ⟨by decide +kernel, by decide +kernel, by decide +kernel⟩

theorem atHome_of_foreign {ctx : TradeContext} {data : TradeCreate} {db : TradeDb}
    (hserver : ctx.currentServer = .foreign)
    (h : ∀ o ∈ db.offers, normalizeServer o.homeServer .foreign = .foreign) :
    AtHome ctx data db := by
  intro offer hoffer
  rw [hserver]
  exact h offer (List.mem_of_find?_eq_some hoffer)

/-- User 4 a second later, who asks for seven of offer 2 under the same key. -/
def stranger : TradeContext := sampleContext (2 * minute + second) "request-2" 4 userFour_pos

def strangeRequest : TradeRequest := sampleRequest 2 7 "key" offerTwo_pos sevenPieces_pos

/-- User 4 is shown the request of user 3 on the other offer, as its own in the queue. -/
theorem request_shown_to_stranger :
    ¬ ((∀ row, (execute stranger strangeRequest afterFirst).1.shows? = some row →
          matchesRow stranger strangeRequest.data row = true) ∧
        ∀ row, storedRow stranger strangeRequest.data afterFirst = some row →
          matchesRow stranger strangeRequest.data row = false →
            (execute stranger strangeRequest afterFirst).1.Refuses) := by
  rintro ⟨hshown, _⟩
  have hbad : ∃ row ∈ afterFirst.rows,
      (execute stranger strangeRequest afterFirst).1.shows? = some row ∧
        matchesRow stranger strangeRequest.data row = false := by decide +kernel
  obtain ⟨row, _, hshows, hmismatch⟩ := hbad
  rw [hshown row hshows] at hmismatch
  cases hmismatch

def requester : TradeContext := sampleContext (3 * minute) "request-2" 3 userThree_pos

/-- User 3 itself may ask again. -/
theorem request_shown_to_requester :
    (∀ row, (execute requester wholeRequest afterFirst).1.shows? = some row →
        matchesRow requester wholeRequest.data row = true) ∧
      ∀ row, storedRow requester wholeRequest.data afterFirst = some row →
        matchesRow requester wholeRequest.data row = false →
          (execute requester wholeRequest afterFirst).1.Refuses := by
  have hhome : AtHome requester wholeRequest.data afterFirst :=
    atHome_of_foreign rfl (by decide +kernel)
  refine (shown_row_matches_iff requester wholeRequest afterFirst afterFirst_sound hhome
    rfl).mpr ?_
  rintro row (hrow | hmissing)
  · have hall : (uncheckedReplay requester wholeRequest afterFirst).all
        (matchesRow requester wholeRequest.data) = true := by decide +kernel
    rw [hrow] at hall
    exact hall
  · have hnone : missingResult requester wholeRequest afterFirst = none := by decide +kernel
    rw [hnone] at hmissing
    cases hmissing

/-! ## A recorded rejection -/

open OfferRequestStatus in
def isDirectRejection (row : OfferRequest) : Bool :=
  row.workflowKind = .direct ∧ row.resultStatus ∈
    [rejectedBusinessRule, rejectedOfferExpired, rejectedLotUnavailable, rejectedConflict]

section Rejection

variable {ctx : TradeContext} {request : TradeRequest} {db : TradeDb} {row : OfferRequest}

theorem isDirectRejection_status (h : isDirectRejection row = true) :
    row.resultStatus ∉ [OfferRequestStatus.received, .authorized, .completedTrade] := by
  obtain ⟨_, hstatus⟩ := of_decide_eq_true h
  intro hother
  revert hstatus hother
  cases row.resultStatus <;> decide

theorem replayByKey_of_directRejection (h : isDirectRejection row = true)
    (hstored : storedRow ctx request.data db = some row) :
    replayByKey ctx request.data db = none := by
  have hledger : loadOfferRequestByIdempotency db.rows ctx.currentServer
      request.data.idempotencyKey = some row := hstored
  have hkind := (of_decide_eq_true h).1
  have hcompleted : row.resultStatus ≠ .completedTrade := by
    intro hcompleted
    have hstatus := isDirectRejection_status h
    simp [hcompleted] at hstatus
  unfold replayByKey
  dsimp only
  rw [hledger, tryReturnCompletedIdempotentReplay_none hcompleted]
  unfold tryReturnOvertimeIdempotentStatus
  dsimp only
  rw [hkind]
  rfl

theorem replyAtLedger_of_creation {offer : Offer}
    (h : reachesOvertimeCreation ctx request.data offer = true) :
    replyAtLedger ctx request.data offer row = .overtime row true false := by
  obtain ⟨hphase, hpre, hpublic⟩ := of_decide_eq_true h
  unfold replyAtLedger
  rw [if_pos hphase, hpre]
  dsimp only
  rw [if_pos hpublic]

theorem replyAtLedger_of_not_creation {offer : Offer}
    (h : reachesOvertimeCreation ctx request.data offer = false) :
    (replyAtLedger ctx request.data offer row).Refuses ∧
        ¬ (classifyTradeRequestIntake ctx offer ≠ .approval ∧
          publicIdRefusal offer request.data = none) ∨
      replyAtLedger ctx request.data offer row = .recordedRejection row ∧
        classifyTradeRequestIntake ctx offer ≠ .approval ∧
        publicIdRefusal offer request.data = none := by
  unfold replyAtLedger
  by_cases hphase : classifyTradeRequestIntake ctx offer = .approval
  · rw [if_pos hphase]
    left
    refine ⟨?_, fun hdirect => hdirect.1 hphase⟩
    cases hpre : prevalidateOvertimeRequestForTrade ctx offer request.data with
    | some reply => exact prevalidateOvertimeRequestForTrade_refuses hpre
    | none =>
      cases hpublic : nonemptyText (some offer.offerPublicId) with
      | none => exact refuses_overtimeError _ _ _
      | some publicId =>
        simp [reachesOvertimeCreation, hphase, hpre, hpublic] at h
  · rw [if_neg hphase]
    cases hpublic : publicIdRefusal offer request.data with
    | some reply => exact .inl ⟨publicIdRefusal_refuses hpublic, by simp⟩
    | none => exact .inr ⟨rfl, hphase, rfl⟩

theorem recordedRejection_statusCode (row : OfferRequest) :
    400 ≤ (Reply.recordedRejection row).statusCode := by
  show 400 ≤ recordedRejectionStatusCode row
  unfold recordedRejectionStatusCode
  split <;> decide

end Rejection

/-- When the key of a recorded rejection comes again, the request is refused and nothing is traded
exactly when it does not get to the overtime creation; and the answer is the recorded rejection
exactly when the request gets to the ledger outside its approval window with a public id that
fits. -/
theorem rejection_stands_iff (ctx : TradeContext) (request : TradeRequest) (db : TradeDb)
    (row : OfferRequest) (hs : db.Sound) (hhome : AtHome ctx request.data db)
    (happroval : request.approval = none) (hstored : storedRow ctx request.data db = some row)
    (hrow : isDirectRejection row = true) :
    (400 ≤ (execute ctx request db).1.statusCode ∧ (execute ctx request db).2.trades = db.trades ∧
        (execute ctx request db).2.offers = db.offers ↔
      ¬ (entryRefusal ctx = none ∧ ∃ offer, offerAtLedger ctx request.data db = some offer ∧
        reachesOvertimeCreation ctx request.data offer = true)) ∧
    ((execute ctx request db).1 = .recordedRejection row ↔
      entryRefusal ctx = none ∧ ∃ offer, offerAtLedger ctx request.data db = some offer ∧
        classifyTradeRequestIntake ctx offer ≠ .approval ∧
        publicIdRefusal offer request.data = none) ∧
    (execute ctx request db).2.trades = db.trades := by
  have hsilent : ∀ {reply : Reply}, reply.Refuses → reply ≠ .recordedRejection row := by
    intro reply hrefuses hreply
    rw [hreply] at hrefuses
    cases hrefuses.1
  cases hentry : entryRefusal ctx with
  | some reply =>
    have hrun : execute ctx request db = (reply, db) := by
      unfold execute
      rw [conclude_start]
      unfold enter
      rw [hentry]
      exact conclude_done ctx request 5 reply db
    have hrefuses := entryRefusal_refuses ctx hentry
    rw [hrun]
    refine ⟨⟨fun _ => by simp, fun _ => ⟨hrefuses.2.1, rfl, rfl⟩⟩, ⟨fun h => ?_, nofun⟩, rfl⟩
    exact absurd h (hsilent hrefuses)
  | none =>
    rcases execute_of_taken_key hs hhome happroval hentry hstored
        (replayByKey_of_directRejection hrow hstored) (isDirectRejection_status hrow) with
      ⟨hnone, reply, db', hrun, hrefuses, hoffers, htrades⟩ | ⟨offer, hoffer, hrun⟩
    · rw [hrun, hnone]
      refine ⟨⟨fun _ => by simp, fun _ => ⟨hrefuses.2.1, htrades, hoffers⟩⟩, ⟨fun h => ?_, ?_⟩,
        htrades⟩
      · exact absurd h (hsilent hrefuses)
      · rintro ⟨_, offer, hoffer, _⟩
        cases hoffer
    · rw [hrun, hoffer]
      cases hcreation : reachesOvertimeCreation ctx request.data offer with
      | true =>
        have hphase := (of_decide_eq_true hcreation).1
        rw [replyAtLedger_of_creation hcreation]
        refine ⟨⟨fun h => absurd h.1 (show ¬ 400 ≤ 202 by decide), fun h => ?_⟩, ⟨nofun, ?_⟩, rfl⟩
        · exact absurd ⟨rfl, offer, rfl, hcreation⟩ h
        · rintro ⟨_, other, hother, hdirect, _⟩
          cases hother
          exact absurd hphase hdirect
      | false =>
        rcases replyAtLedger_of_not_creation hcreation with
          ⟨hrefuses, hdirect⟩ | ⟨hreply, hphase, hpublic⟩
        · refine ⟨⟨?_, fun _ => ⟨hrefuses.2.1, rfl, rfl⟩⟩, ⟨fun h => ?_, ?_⟩, rfl⟩
          · rintro _ ⟨_, other, hother, hreaches⟩
            cases hother
            rw [hcreation] at hreaches
            cases hreaches
          · exact absurd h (hsilent hrefuses)
          · rintro ⟨_, other, hother, hother'⟩
            cases hother
            exact absurd hother' hdirect
        · rw [hreply]
          refine ⟨⟨?_, fun _ => ⟨recordedRejection_statusCode row, rfl, rfl⟩⟩,
            ⟨fun _ => ⟨rfl, offer, rfl, hphase, hpublic⟩, fun _ => rfl⟩, rfl⟩
          rintro _ ⟨_, other, hother, hreaches⟩
          cases hother
          rw [hcreation] at hreaches
          cases hreaches

/-- User 3, whose principal is blocked, has asked for all of offer 1 before its normal deadline. -/
def afterRejection : TradeDb :=
  (execute { sampleContext (30 * second) "request-1" 3 userThree_pos with principalsBlocked := true }
    wholeRequest twoOffers).2

theorem afterRejection_sound : afterRejection.Sound :=
  ⟨by decide, by decide, by decide⟩

/-- The same request in the approval window, still blocked. -/
def blockedRequester : TradeContext :=
  { sampleContext (2 * minute) "request-2" 3 userThree_pos with principalsBlocked := true }

def earlyRequester : TradeContext :=
  { sampleContext (40 * second) "request-2" 3 userThree_pos with principalsBlocked := true }

/-- The rejected request is reported as waiting for the owner. -/
theorem rejection_reported_as_pending :
    ¬ ∀ row, storedRow blockedRequester wholeRequest.data afterRejection = some row →
      isDirectRejection row = true →
        400 ≤ (execute blockedRequester wholeRequest afterRejection).1.statusCode ∧
          (execute blockedRequester wholeRequest afterRejection).2.trades =
            afterRejection.trades ∧
          (execute blockedRequester wholeRequest afterRejection).2.offers =
            afterRejection.offers := by
  intro h
  have hbad : ∃ row ∈ afterRejection.rows,
      storedRow blockedRequester wholeRequest.data afterRejection = some row ∧
        isDirectRejection row = true ∧
        (execute blockedRequester wholeRequest afterRejection).1 = .overtime row true false := by
    decide +kernel
  obtain ⟨row, _, hstored, hrow, hreply⟩ := hbad
  have hrefused := (h row hstored hrow).1
  rw [hreply] at hrefused
  exact absurd hrefused (show ¬ 400 ≤ 202 by decide)

/-- Before the normal deadline the rejection stands. -/
theorem rejection_stands_early : ∃ row ∈ afterRejection.rows,
    (400 ≤ (execute earlyRequester wholeRequest afterRejection).1.statusCode ∧
      (execute earlyRequester wholeRequest afterRejection).2.trades = afterRejection.trades ∧
      (execute earlyRequester wholeRequest afterRejection).2.offers = afterRejection.offers) ∧
    (execute earlyRequester wholeRequest afterRejection).1 = .recordedRejection row := by
  have hhome : AtHome earlyRequester wholeRequest.data afterRejection :=
    atHome_of_foreign rfl (by decide +kernel)
  have hrejected : ∃ row ∈ afterRejection.rows,
      storedRow earlyRequester wholeRequest.data afterRejection = some row ∧
        isDirectRejection row = true := by decide +kernel
  have hoffer : offerAtLedger earlyRequester wholeRequest.data afterRejection =
      some (sampleOffer 1 "offer-1" 2) := by decide
  obtain ⟨row, hmem, hstored, hrow⟩ := hrejected
  obtain ⟨hstands, hreply, _⟩ := rejection_stands_iff earlyRequester wholeRequest afterRejection
    row afterRejection_sound hhome rfl hstored hrow
  refine ⟨row, hmem, hstands.mpr ?_, hreply.mpr ?_⟩
  · rintro ⟨_, offer, hfound, hcreation⟩
    rw [hoffer] at hfound
    cases hfound
    revert hcreation
    decide
  · exact ⟨by decide, _, hoffer, by decide, by decide⟩

end TradingBot.Trades
