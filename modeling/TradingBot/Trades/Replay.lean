import TradingBot.Trades.Stages

/-!
# Who sees a stored request

A later request with the key of a stored ledger row may be shown that row. The replay of a completed
trade compares the row with the caller; the state of an overtime request, the duplicate of an
overtime creation and the recorded rejection are returned by the key alone (`uncheckedReplay`), and
so is the announcement of a completed row whose trade is missing.
-/

namespace TradingBot.Trades

open TradingBot TradingBot.Misc TradingBot.Overtime

/-- The caller is the requester of the row and asks for its offer and its quantity. -/
def matchesRow (ctx : TradeContext) (data : TradeCreate) (row : OfferRequest) : Bool :=
  row.requesterUserId = some ctx.ownerUserId ∧ row.localOfferId = some data.offerId ∧
    row.requestedQuantity = data.quantity

/-- The row that `_try_return_overtime_idempotent_status` shows. -/
def overtimeRowByKey (ctx : TradeContext) (data : TradeCreate) (db : TradeDb) :
    Option OfferRequest :=
  if (truthyText data.idempotencyKey).isSome then
    (loadOfferRequestByIdempotency db.rows ctx.currentServer data.idempotencyKey).filter
      fun row => row.workflowKind = .overtime ∧
        (row.resultStatus ∈ overtimeNonterminalStatuses ∨
          row.resultStatus ∈ overtimeTerminalStatuses)
  else none

def rowOfKey (ctx : TradeContext) (data : TradeCreate) (db : TradeDb) (offer : Offer) :
    Option OfferRequest :=
  loadOfferRequestByIdempotency db.rows (normalizeServer offer.homeServer ctx.currentServer)
    data.idempotencyKey

def reachesOvertimeCreation (ctx : TradeContext) (data : TradeCreate) (offer : Offer) : Bool :=
  classifyTradeRequestIntake ctx offer = .approval ∧
    prevalidateOvertimeRequestForTrade ctx offer data = none ∧
    (nonemptyText (some offer.offerPublicId)).isSome

open OfferRequestStatus in
def uncheckedAtLedger (ctx : TradeContext) (data : TradeCreate) (db : TradeDb) (offer : Offer) :
    Option OfferRequest :=
  if classifyTradeRequestIntake ctx offer = .approval then
    if reachesOvertimeCreation ctx data offer then rowOfKey ctx data db offer else none
  else if (publicIdRefusal offer data).isSome then none
  else (rowOfKey ctx data db offer).filter
    fun row => row.resultStatus ∉ [received, authorized, completedTrade]

/-- An overtime request in flight or ended, or the row of the ledger stage, shown unchecked. -/
def uncheckedReplay (ctx : TradeContext) (request : TradeRequest) (db : TradeDb) :
    Option OfferRequest :=
  if request.approval.isSome ∨ (entryRefusal ctx).isSome then none
  else match overtimeRowByKey ctx request.data db with
  | some row => some row
  | none =>
    if (truthyText request.data.idempotencyKey).isSome ∧
        (replayByKey ctx request.data db).isSome then none
    else (offerAtLedger ctx request.data db).bind (uncheckedAtLedger ctx request.data db)

/-- The completed row whose missing trade the reply announces before it looks at the caller. -/
def missingResult (ctx : TradeContext) (request : TradeRequest) (db : TradeDb) :
    Option OfferRequest :=
  if request.approval.isSome ∨ (entryRefusal ctx).isSome then none
  else (loadOfferRequestByIdempotency db.rows ctx.currentServer request.data.idempotencyKey).filter
    fun row => row.resultStatus = .completedTrade ∧
      loadCompletedIdempotentReplayTrade db row request.data = none

section Shows

variable {ctx : TradeContext} {request : TradeRequest} {data : TradeCreate} {db : TradeDb}
  {offer : Offer} {row : OfferRequest} {found : Option Offer} {reply : Reply} {key : String}

theorem of_coerceTradeUserId {value : Option Nat} {id : Nat}
    (h : coerceTradeUserId value = some id) : value = some id := by
  unfold coerceTradeUserId at h
  exact (Option.filter_eq_some_iff.mp h).1

theorem validCompletedIdempotentReplay_matches {trade : Trade}
    (h : validCompletedIdempotentReplay ctx data row found trade = true) :
    matchesRow ctx data row = true := by
  unfold validCompletedIdempotentReplay at h
  obtain ⟨_, hoffer, hrequester, _, hquantity, _⟩ := of_decide_eq_true h
  have hcaller : coerceTradeUserId (some ctx.ownerUserId) = some ctx.ownerUserId := by
    simp [coerceTradeUserId, Option.filter, ctx.ownerUserId_pos]
  rw [hcaller] at hrequester
  exact decide_eq_true ⟨of_coerceTradeUserId hrequester, of_coerceTradeUserId hoffer, hquantity⟩

theorem tryReturnCompletedIdempotentReplay_shows {ledger : Option OfferRequest}
    (h : tryReturnCompletedIdempotentReplay ctx data db ledger found = some reply)
    (hshows : reply.shows? = some row) : matchesRow ctx data row = true := by
  unfold tryReturnCompletedIdempotentReplay at h
  split at h
  · split at h
    · cases h
    · split at h
      · cases h
        cases hshows
      · split at h
        · cases h
          cases hshows
          exact validCompletedIdempotentReplay_matches ‹_›
        · cases h
          cases hshows
  · cases h

theorem tryReturnCompletedIdempotentReplay_none (h : row.resultStatus ≠ .completedTrade) :
    tryReturnCompletedIdempotentReplay ctx data db (some row) found = none := by
  unfold tryReturnCompletedIdempotentReplay
  split
  · rename_i ledger _ hledger
    cases hledger
    rw [if_pos h]
  · rfl

theorem tryReturnOvertimeIdempotentStatus_shows
    (h : tryReturnOvertimeIdempotentStatus (some row) data = some reply) :
    reply.shows? = some row ∧ row.workflowKind = .overtime ∧
      (row.resultStatus ∈ overtimeNonterminalStatuses ∨
        row.resultStatus ∈ overtimeTerminalStatuses) := by
  unfold tryReturnOvertimeIdempotentStatus at h
  split at h
  · cases ‹some row = none›
  · rename_i ledger hledger
    cases hledger
    split at h
    · cases h
    · rename_i hkind
      have hkind : row.workflowKind = .overtime := not_not.mp hkind
      split at h
      · cases h
      · split at h
        · rename_i hopen
          cases h
          exact ⟨rfl, hkind, .inl hopen⟩
        · split at h
          · rename_i hended
            cases h
            exact ⟨rfl, hkind, .inr hended⟩
          · cases h

theorem not_completed_of_overtime_status (h : row.resultStatus ∈ overtimeNonterminalStatuses ∨
      row.resultStatus ∈ overtimeTerminalStatuses) : row.resultStatus ≠ .completedTrade := by
  intro hcompleted
  rw [hcompleted] at h
  revert h
  decide

theorem replayByKey_shows (hkey : (truthyText data.idempotencyKey).isSome = true)
    (h : replayByKey ctx data db = some reply) (hshows : reply.shows? = some row) :
    overtimeRowByKey ctx data db = some row ∨ matchesRow ctx data row = true := by
  unfold replayByKey at h
  dsimp only at h
  rcases (Option.orElse_eq_some _ _ _).mp h with hcompleted | ⟨_, hovertime⟩
  · exact .inr (tryReturnCompletedIdempotentReplay_shows hcompleted hshows)
  · cases hledger : loadOfferRequestByIdempotency db.rows ctx.currentServer
        data.idempotencyKey with
    | none =>
      rw [hledger] at hovertime
      cases hovertime
    | some ledger =>
      rw [hledger] at hovertime
      obtain ⟨hrow, hkind, hstatus⟩ := tryReturnOvertimeIdempotentStatus_shows hovertime
      rw [hshows] at hrow
      cases hrow
      left
      rw [overtimeRowByKey, if_pos hkey, hledger]
      exact Option.filter_eq_some_iff.mpr ⟨rfl, decide_eq_true ⟨hkind, hstatus⟩⟩

theorem replayByKey_of_overtimeRowByKey (h : overtimeRowByKey ctx data db = some row) :
    (truthyText data.idempotencyKey).isSome = true ∧
      ∃ reply, replayByKey ctx data db = some reply ∧ reply.shows? = some row := by
  unfold overtimeRowByKey at h
  split at h
  · refine ⟨‹_›, ?_⟩
    obtain ⟨hledger, hrow⟩ := Option.filter_eq_some_iff.mp h
    obtain ⟨hkind, hstatus⟩ := of_decide_eq_true hrow
    have hcompleted := not_completed_of_overtime_status hstatus
    unfold replayByKey
    rw [hledger]
    dsimp only
    rw [tryReturnCompletedIdempotentReplay_none hcompleted]
    unfold tryReturnOvertimeIdempotentStatus
    rw [Option.orElse_eq_orElse, Option.orElse_none]
    dsimp only
    rw [if_neg (not_not.mpr hkind), if_neg hcompleted]
    rcases hstatus with hopen | hended
    · exact ⟨_, if_pos hopen, rfl⟩
    · split
      · exact ⟨_, rfl, rfl⟩
      · exact ⟨_, rfl, rfl⟩
  · cases h

/-! ## The duplicate of an overtime creation -/

theorem normalizeServer_name (server current : Server) :
    normalizeServer (match server with | .foreign => "foreign" | .iran => "iran") current =
      server := by
  cases server <;> cases current <;> decide +kernel

theorem overtimeCommand_home (ctx : TradeContext) (offer : Offer) (data : TradeCreate)
    (current : Server) : (overtimeCommand ctx offer data).home current =
      normalizeServer offer.homeServer ctx.currentServer := by
  have hname := normalizeServer_name (normalizeServer offer.homeServer ctx.currentServer) current
  unfold OvertimeRequestCreateCommand.home overtimeCommand
  cases hserver : normalizeServer offer.homeServer ctx.currentServer with
  | foreign =>
    rw [hserver] at hname
    exact hname
  | iran =>
    rw [hserver] at hname
    exact hname

theorem rowOfKey_eq (hkey : nonemptyText data.idempotencyKey = some key) :
    rowOfKey ctx data db offer =
      db.rows.find? (hasIdempotencyKey (normalizeServer offer.homeServer ctx.currentServer)
        key) := by
  unfold rowOfKey loadOfferRequestByIdempotency normalizedIdempotencyKey
  rw [hkey]

theorem rowOfKey_none (hkey : nonemptyText data.idempotencyKey = none) :
    rowOfKey ctx data db offer = none := by
  unfold rowOfKey loadOfferRequestByIdempotency normalizedIdempotencyKey
  rw [hkey]

theorem session_select_key (db : TradeDb) (home : Server) (key : String) :
    (db.session.select (hasIdempotencyKey home key)).head? =
      db.rows.find? (hasIdempotencyKey home key) := by
  unfold TradeDb.session Session.select
  rw [UnitOfWork.select_load, List.head?_filter]

theorem createOvertimeRequest_not_duplicate {ambient : Ambient}
    {command : OvertimeRequestCreateCommand} {flush : Bool} {now : Int} {s s' : Session}
    {result : OvertimeRequestResult}
    (h : createOvertimeRequest ambient command flush now s = (.ok result, s'))
    (hnone : ∀ key, nonemptyText command.idempotencyKey = some key →
      (s.select (hasIdempotencyKey (command.home ambient.currentServer) key)).head? = none) :
    result.duplicateReplay = false := by
  obtain ⟨key, _, hkey, _, ⟨ledger, hfound, _⟩ | ⟨_, _, _, _, _, _, _, _, rfl⟩⟩ :=
    createOvertimeRequest_ok h
  · rw [hnone key hkey] at hfound
    cases hfound
  · rfl

theorem stripOrEmpty_ne_of_key {value : Option String}
    (h : nonemptyText value = some key) : stripOrEmpty value ≠ "" := by
  intro hempty
  rw [nonemptyText, hempty] at h
  cases h

theorem createOvertimeRequestForTrade_duplicate (hs : db.Sound) {publicId : String}
    (hpublic : nonemptyText (some offer.offerPublicId) = some publicId)
    (hfound : rowOfKey ctx data db offer = some row) :
    createOvertimeRequestForTrade ctx offer data db =
      (.done (.overtime row true false), db) := by
  cases hkey : nonemptyText data.idempotencyKey with
  | none =>
    rw [rowOfKey_none hkey] at hfound
    cases hfound
  | some key =>
    rw [rowOfKey_eq hkey] at hfound
    have hcommandKey : nonemptyText (overtimeCommand ctx offer data).idempotencyKey = some key :=
      (nonemptyText_stripOrEmpty data.idempotencyKey).trans hkey
    have hselect := session_select_key db (normalizeServer offer.homeServer ctx.currentServer) key
    have hrun : createOvertimeRequest ctx.ambient (overtimeCommand ctx offer data) true ctx.now
        db.session = (.ok ⟨row.id, true, false⟩, db.session) := by
      unfold createOvertimeRequest
      rw [hcommandKey]
      dsimp only
      have hquantity : ¬ (overtimeCommand ctx offer data).requestedQuantity ≤ 0 :=
        not_le.mpr data.quantity_pos
      have hoffer : (overtimeCommand ctx offer data).offer = offer := rfl
      rw [if_neg hquantity, hoffer, hpublic]
      dsimp only
      rw [overtimeCommand_home, Txn.bind_read, hselect, hfound]
      rfl
    unfold createOvertimeRequestForTrade
    rw [if_neg (stripOrEmpty_ne_of_key hkey), commitWork_pure hs hrun]
    dsimp only
    rw [row?_of_mem_rows hs (List.mem_of_find?_eq_some hfound)]

theorem createOvertimeRequestForTrade_unidentified
    (hkey : nonemptyText data.idempotencyKey = some key)
    (hpublic : nonemptyText (some offer.offerPublicId) = none) :
    createOvertimeRequestForTrade ctx offer data db =
      (.done (.overtimeError .offerInvalid "offer_public_id is required" none), db) := by
  have hcommandKey : nonemptyText (overtimeCommand ctx offer data).idempotencyKey = some key :=
    (nonemptyText_stripOrEmpty data.idempotencyKey).trans hkey
  have hrun : createOvertimeRequest ctx.ambient (overtimeCommand ctx offer data) true ctx.now =
      Txn.raise (.overtime .offerInvalid "offer_public_id is required" none) := by
    unfold createOvertimeRequest
    rw [hcommandKey]
    dsimp only
    have hquantity : ¬ (overtimeCommand ctx offer data).requestedQuantity ≤ 0 :=
      not_le.mpr data.quantity_pos
    have hoffer : (overtimeCommand ctx offer data).offer = offer := rfl
    rw [if_neg hquantity, hoffer, hpublic]
  unfold createOvertimeRequestForTrade
  rw [if_neg (stripOrEmpty_ne_of_key hkey), hrun]
  rfl

theorem createOvertimeRequestForTrade_shows (hs : db.Sound) {publicId : String}
    (hkey : nonemptyText data.idempotencyKey = some key)
    (hpublic : nonemptyText (some offer.offerPublicId) = some publicId) :
    (createOvertimeRequestForTrade ctx offer data db).1.shows? = rowOfKey ctx data db offer := by
  cases hfound : rowOfKey ctx data db offer with
  | some row =>
    rw [createOvertimeRequestForTrade_duplicate hs hpublic hfound]
    rfl
  | none =>
    rw [rowOfKey_eq hkey] at hfound
    unfold createOvertimeRequestForTrade
    rw [if_neg (stripOrEmpty_ne_of_key hkey)]
    cases hwork : commitWork db
        (createOvertimeRequest ctx.ambient (overtimeCommand ctx offer data) true ctx.now) with
    | error e => cases e <;> rfl
    | ok result =>
      obtain ⟨result, db'⟩ := result
      dsimp only
      cases db'.row? result.ledger with
      | none => rfl
      | some row =>
        have hfresh : result.duplicateReplay = false := by
          obtain ⟨s', hrun, _⟩ := commitWork_ok hwork
          refine createOvertimeRequest_not_duplicate hrun fun key' hkey' => ?_
          rw [show (overtimeCommand ctx offer data).idempotencyKey =
            some (stripOrEmpty data.idempotencyKey) from rfl, nonemptyText_stripOrEmpty,
            hkey] at hkey'
          cases hkey'
          rw [overtimeCommand_home, session_select_key]
          exact hfound
        simp only [Stage.shows?, Reply.shows?, hfresh, Bool.false_eq_true, if_false]

theorem prevalidateOvertimeRequestForTrade_refuses
    (h : prevalidateOvertimeRequestForTrade ctx offer data = some reply) : reply.Refuses := by
  unfold prevalidateOvertimeRequestForTrade at h
  dsimp only at h
  split at h
  · cases h
    exact amountRejection_refuses offer data _
  · obtain ⟨violation, _, rfl⟩ := Option.map_eq_some_iff.mp h
    exact refuses_refused _ (by decide)

theorem record_shows_approval (hs : db.Sound) (happroval : request.approval = none)
    (hphase : classifyTradeRequestIntake ctx offer = .approval) :
    (record ctx request offer db).1.shows? = uncheckedAtLedger ctx request.data db offer := by
  unfold record uncheckedAtLedger
  rw [happroval]
  dsimp only
  rw [if_pos hphase, if_pos hphase]
  cases hkey : nonemptyText request.data.idempotencyKey with
  | none =>
    have htext : stripOrEmpty request.data.idempotencyKey = "" := by
      by_contra htext
      rw [nonemptyText, if_neg htext] at hkey
      cases hkey
    rw [if_pos htext, rowOfKey_none hkey]
    split <;> rfl
  | some key =>
    rw [if_neg (stripOrEmpty_ne_of_key hkey)]
    cases hpre : prevalidateOvertimeRequestForTrade ctx offer request.data with
    | some reply =>
      simp only [reachesOvertimeCreation, hpre, reduceCtorEq, false_and, and_false, decide_false,
        Bool.false_eq_true, if_false]
      exact (prevalidateOvertimeRequestForTrade_refuses hpre).1
    | none =>
      cases hpublic : nonemptyText (some offer.offerPublicId) with
      | none =>
        simp only [reachesOvertimeCreation, hpublic, Option.isSome_none, Bool.false_eq_true,
          and_false, decide_false, if_false]
        rw [createOvertimeRequestForTrade_unidentified hkey hpublic]
        rfl
      | some publicId =>
        simp only [reachesOvertimeCreation, hphase, hpre, hpublic, Option.isSome_some, and_self,
          decide_true, if_true]
        exact createOvertimeRequestForTrade_shows hs hkey hpublic

theorem record_shows_direct (happroval : request.approval = none)
    (hphase : classifyTradeRequestIntake ctx offer ≠ .approval) :
    ((record ctx request offer db).1.shows? = some row →
        uncheckedAtLedger ctx request.data db offer = some row ∨
          matchesRow ctx request.data row = true) ∧
      (uncheckedAtLedger ctx request.data db offer = some row →
        (record ctx request offer db).1.shows? = some row) := by
  unfold record uncheckedAtLedger
  rw [happroval]
  dsimp only
  rw [if_neg hphase, if_neg hphase]
  unfold recordDirect
  cases hpublic : publicIdRefusal offer request.data with
  | some reply =>
    dsimp only [Stage.shows?]
    rw [(publicIdRefusal_refuses hpublic).1]
    simp
  | none =>
    have hentry : createOfferRequestLedgerEntry ctx offer request.data db =
        match rowOfKey ctx request.data db offer with
        | some row => ⟨row, false⟩
        | none => ⟨newDirectRow ctx offer request.data, true⟩ := rfl
    rw [hentry]
    cases hfound : rowOfKey ctx request.data db offer with
    | none =>
      have hnew : tryReturnCompletedIdempotentReplay ctx request.data db
          (some (newDirectRow ctx offer request.data)) (some offer) = none :=
        tryReturnCompletedIdempotentReplay_none (by simp [newDirectRow])
      simp [hnew, Stage.shows?]
    | some stored =>
      by_cases hstatus : stored.resultStatus ∈
          [OfferRequestStatus.received, .authorized, .completedTrade]
      · simp only [terminalDuplicateRequestReply, if_pos hstatus, Bool.false_eq_true, if_false,
          Option.isSome_none]
        constructor
        · intro hshows
          split at hshows
          · exact .inr (tryReturnCompletedIdempotentReplay_shows ‹_› hshows)
          · cases hshows
        · intro hunchecked
          have hnot := (Option.filter_eq_some_iff.mp hunchecked).2
          have hrow := (Option.filter_eq_some_iff.mp hunchecked).1
          cases hrow
          exact absurd hstatus (of_decide_eq_true hnot)
      · simp only [terminalDuplicateRequestReply, if_neg hstatus, Bool.false_eq_true, if_false]
        have hfilter : (some stored).filter (fun row => decide (row.resultStatus ∉
            [OfferRequestStatus.received, .authorized, .completedTrade])) = some stored :=
          Option.filter_eq_some_iff.mpr ⟨rfl, decide_eq_true hstatus⟩
        simp only [Option.isSome_none, Bool.false_eq_true, if_false, hfilter]
        exact ⟨.inl, id⟩

/-! ## The whole execution -/

theorem conclude_recorded_shows (n : Nat) (ledger : LedgerInHand) :
    (conclude ctx request (n + 2) (.recorded offer ledger, db)).1.shows? = none := by
  have hvalidate := validate_shows ctx request db offer ledger
  rw [conclude_recorded]
  rcases validate_stage ctx request db offer ledger with ⟨reply, db', hdone⟩ | ⟨hunmatched, _⟩
  · rw [hdone] at hvalidate ⊢
    rw [conclude_done]
    exact hvalidate
  · have hcommit := commitTrade_shows ctx request db offer ledger
    obtain ⟨reply, db', hdone⟩ := commitTrade_stage ctx request db offer ledger
    rw [hunmatched, conclude_unmatched, hdone, conclude_done]
    rw [hdone] at hcommit
    exact hcommit

theorem conclude_cleared_shows (n : Nat) :
    (conclude ctx request (n + 4) (.cleared, db)).1.shows? =
      (offerAtLedger ctx request.data db).bind
        fun offer => (record ctx request offer db).1.shows? := by
  rw [conclude_cleared]
  rcases hold_stage ctx request db with ⟨⟨reply, db', hdone⟩, hnone⟩ | ⟨offer, hoffer, hheld⟩
  · rw [hdone, conclude_done, hnone]
    exact (hold_refuses ctx request db hdone).1
  · rw [hheld, hoffer, conclude_holding]
    dsimp only [Option.bind_some]
    rcases record_stage ctx request db offer with ⟨reply, db', hdone⟩ | ⟨ledger, hrecorded⟩
    · rw [hdone, conclude_done]
      rfl
    · rw [hrecorded]
      exact conclude_recorded_shows n ledger

theorem recordApproval_shows (approval : Approval) :
    (recordApproval ctx offer approval db).shows? = none := by
  unfold recordApproval
  split
  · rfl
  · split_ifs <;> rfl

theorem execute_shows_approval {approval : Approval} (happroval : request.approval = some approval) :
    (execute ctx request db).1.shows? = none := by
  unfold execute
  rw [conclude_start]
  unfold enter
  cases hentry : entryRefusal ctx with
  | some reply =>
    dsimp only
    rw [conclude_done]
    exact (entryRefusal_refuses ctx hentry).1
  | none =>
    dsimp only
    rw [happroval, if_neg (by simp), conclude_cleared_shows 1]
    cases offerAtLedger ctx request.data db with
    | none => rfl
    | some offer =>
      dsimp only [Option.bind_some]
      unfold record
      rw [happroval]
      exact recordApproval_shows approval

theorem execute_shows_cleared (happroval : request.approval = none)
    (hentry : entryRefusal ctx = none)
    (hreplay : (truthyText request.data.idempotencyKey).isSome = true →
      replayByKey ctx request.data db = none) :
    (execute ctx request db).1.shows? = (offerAtLedger ctx request.data db).bind
      fun offer => (record ctx request offer db).1.shows? := by
  unfold execute
  rw [conclude_start]
  unfold enter
  rw [hentry]
  dsimp only
  by_cases hkey : (truthyText request.data.idempotencyKey).isSome = true
  · rw [if_pos ⟨hkey, happroval⟩, conclude_locked]
    unfold clear
    rw [hreplay hkey]
    exact conclude_cleared_shows 0
  · rw [if_neg fun h => hkey h.1]
    exact conclude_cleared_shows 1

theorem execute_of_replayByKey (happroval : request.approval = none)
    (hentry : entryRefusal ctx = none)
    (hkey : (truthyText request.data.idempotencyKey).isSome = true)
    (hreplay : replayByKey ctx request.data db = some reply) :
    execute ctx request db = (reply, db) := by
  unfold execute
  rw [conclude_start]
  unfold enter
  rw [hentry]
  dsimp only
  rw [if_pos ⟨hkey, happroval⟩, conclude_locked]
  unfold clear
  rw [hreplay]
  exact conclude_done ctx request 4 reply db

theorem record_shows (hs : db.Sound) (happroval : request.approval = none) :
    ((record ctx request offer db).1.shows? = some row →
        uncheckedAtLedger ctx request.data db offer = some row ∨
          matchesRow ctx request.data row = true) ∧
      (uncheckedAtLedger ctx request.data db offer = some row →
        (record ctx request offer db).1.shows? = some row) := by
  by_cases hphase : classifyTradeRequestIntake ctx offer = .approval
  · rw [record_shows_approval hs happroval hphase]
    exact ⟨.inl, id⟩
  · exact record_shows_direct happroval hphase

/-- A row is shown by a branch that does not look at the caller, or to a caller it matches. -/
theorem execute_shows (hs : db.Sound) :
    ((execute ctx request db).1.shows? = some row →
        uncheckedReplay ctx request db = some row ∨ matchesRow ctx request.data row = true) ∧
      (uncheckedReplay ctx request db = some row →
        (execute ctx request db).1.shows? = some row) := by
  unfold uncheckedReplay
  cases happroval : request.approval with
  | some approval => simp [execute_shows_approval happroval]
  | none =>
    cases hentry : entryRefusal ctx with
    | some reply =>
      have hrun : execute ctx request db = (reply, db) := by
        unfold execute
        rw [conclude_start]
        unfold enter
        rw [hentry]
        exact conclude_done ctx request 5 reply db
      simp [hrun, (entryRefusal_refuses ctx hentry).1]
    | none =>
      simp only [Option.isSome_none, Bool.false_eq_true, or_self, if_false]
      cases hovertime : overtimeRowByKey ctx request.data db with
      | some stored =>
        obtain ⟨hkey, reply, hreplay, hshows⟩ := replayByKey_of_overtimeRowByKey hovertime
        rw [execute_of_replayByKey happroval hentry hkey hreplay, hshows]
        exact ⟨.inl, id⟩
      | none =>
        dsimp only
        by_cases hreplayed : (truthyText request.data.idempotencyKey).isSome = true ∧
            (replayByKey ctx request.data db).isSome = true
        · rw [if_pos hreplayed]
          obtain ⟨hkey, hsome⟩ := hreplayed
          obtain ⟨reply, hreplay⟩ := Option.isSome_iff_exists.mp hsome
          rw [execute_of_replayByKey happroval hentry hkey hreplay]
          refine ⟨fun hshows => ?_, nofun⟩
          rcases replayByKey_shows hkey hreplay hshows with hrow | hmatches
          · rw [hovertime] at hrow
            cases hrow
          · exact .inr hmatches
        · rw [if_neg hreplayed, execute_shows_cleared happroval hentry fun hkey =>
            Option.not_isSome_iff_eq_none.mp fun hsome => hreplayed ⟨hkey, hsome⟩]
          cases offerAtLedger ctx request.data db with
          | none => simp
          | some offer => exact record_shows hs happroval

end Shows

end TradingBot.Trades
