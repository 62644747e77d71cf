import TradingBot.Trades.Execute
import TradingBot.Overtime.Steps

/-!
# The stages of an execution

Where each stage of `advance` can end, which replies are refusals, and which tables a stage leaves.
-/

namespace TradingBot.Trades

open TradingBot TradingBot.Misc TradingBot.Overtime

open OfferRequestStatus in
/-- The keys and unique indexes of the ledger hold, and every row is decided or in the overtime
queue. -/
structure TradeDb.Sound (db : TradeDb) : Prop where
  ids : (db.rows.map OfferRequest.id).Nodup
  unique : uniqueIndexes db.rows = true
  decided : ∀ row ∈ db.rows, row.resultStatus ∉ [received, authorized]

/-- The offer of a request that gets past the market, the caller's limits and the locks. -/
def offerAtLedger (ctx : TradeContext) (data : TradeCreate) (db : TradeDb) : Option Offer :=
  if (admissionRefusal ctx).isSome ∨ ctx.offerLockGained = false then none
  else db.offer? data.offerId

/-! ## Where a stage can end -/

section Stages

variable (ctx : TradeContext) (request : TradeRequest) (db : TradeDb) (offer : Offer)
  (ledger : LedgerInHand)

theorem commitRejected_stage (rejection : Rejection) :
    ∃ reply db', commitRejected ctx db ledger rejection = (.done reply, db') := by
  unfold commitRejected
  split
  · split <;> exact ⟨_, _, rfl⟩
  · split <;> exact ⟨_, _, rfl⟩

theorem hold_stage : ((∃ reply db', hold ctx request db = (.done reply, db')) ∧
      offerAtLedger ctx request.data db = none) ∨
    ∃ offer, offerAtLedger ctx request.data db = some offer ∧
      hold ctx request db = (.holding offer, db) := by
  unfold hold offerAtLedger
  cases hadmission : admissionRefusal ctx with
  | some reply => exact .inl ⟨⟨_, _, rfl⟩, by simp⟩
  | none =>
    cases hlock : ctx.offerLockGained with
    | false =>
      left
      refine ⟨?_, by simp⟩
      simp only [Bool.false_eq_true, not_false_eq_true, if_true]
      unfold rejectTradeOfferContention
      split
      · exact ⟨_, _, rfl⟩
      · dsimp only
        split
        · exact ⟨_, _, rfl⟩
        · exact commitRejected_stage ctx db _ _
    | true =>
      cases hoffer : db.offer? request.data.offerId with
      | none => exact .inl ⟨⟨.refused 404 offerNotFoundDetail, db, by simp⟩, by simp⟩
      | some offer => exact .inr ⟨offer, by simp, by simp⟩

theorem createOvertimeRequestForTrade_stage (data : TradeCreate) :
    ∃ reply db', createOvertimeRequestForTrade ctx offer data db = (.done reply, db') := by
  unfold createOvertimeRequestForTrade
  split
  · exact ⟨_, _, rfl⟩
  · split
    · split <;> exact ⟨_, _, rfl⟩
    · exact ⟨_, _, rfl⟩
    · exact ⟨_, _, rfl⟩

theorem record_stage :
    (∃ reply db', record ctx request offer db = (.done reply, db')) ∨
      ∃ ledger, record ctx request offer db = (.recorded offer ledger, db) := by
  unfold record
  split
  · unfold recordApproval
    split
    · exact .inl ⟨_, _, rfl⟩
    · split_ifs
      · exact .inl ⟨_, _, rfl⟩
      · exact .inl ⟨_, _, rfl⟩
      · exact .inr ⟨_, rfl⟩
  · split
    · split
      · exact .inl ⟨_, _, rfl⟩
      · split
        · exact .inl ⟨_, _, rfl⟩
        · exact .inl (createOvertimeRequestForTrade_stage ctx db offer request.data)
    · unfold recordDirect
      split
      · exact .inl ⟨_, _, rfl⟩
      · dsimp only
        split
        · exact .inl ⟨_, _, rfl⟩
        · split
          · exact .inl ⟨_, _, rfl⟩
          · exact .inr ⟨_, rfl⟩

theorem returnExistingTrade_stage (trade : Trade) :
    ∃ reply db', returnExistingTrade ctx request offer ledger trade db = (.done reply, db') := by
  unfold returnExistingTrade
  split
  · exact ⟨_, _, rfl⟩
  · split
    · split <;> exact ⟨_, _, rfl⟩
    · split
      · exact ⟨_, _, rfl⟩
      · dsimp only
        split <;> exact ⟨_, _, rfl⟩

theorem validate_stage :
    (∃ reply db', validate ctx request offer ledger db = (.done reply, db')) ∨
      (validate ctx request offer ledger db = (.unmatched offer ledger, db) ∧
        offerClosedForTrade ctx request.approval.isSome offer = false ∧
        checkRejection ctx request.data offer = none ∧ ctx.principalMissing = false ∧
        (truthyText request.data.idempotencyKey).bind db.tradeByKey? = none) := by
  unfold validate
  split
  · split
    · exact .inl ⟨_, _, rfl⟩
    · exact .inl (commitRejected_stage ctx db ledger _)
  · rename_i hopen
    split
    · exact .inl (commitRejected_stage ctx db ledger _)
    · rename_i hchecked
      split
      · exact .inl ⟨_, _, rfl⟩
      · rename_i hprincipals
        split
        · exact .inl (returnExistingTrade_stage ctx request db offer ledger _)
        · rename_i hunmatched
          exact .inr ⟨rfl, Bool.eq_false_iff.mpr hopen, hchecked,
            Bool.eq_false_iff.mpr hprincipals, hunmatched⟩

theorem commitTrade_stage :
    ∃ reply db', commitTrade ctx request offer ledger db = (.done reply, db') := by
  unfold commitTrade
  split
  · exact ⟨_, _, rfl⟩
  · exact ⟨_, _, rfl⟩
  · dsimp only
    split
    · exact ⟨_, _, rfl⟩
    · split
      · split <;> exact ⟨_, _, rfl⟩
      · split
        · exact ⟨_, _, rfl⟩
        · split <;> exact ⟨_, _, rfl⟩

end Stages

/-! ## Refusals -/

def Stage.shows? : Stage → Option OfferRequest
  | .done reply => reply.shows?
  | _ => none

/-- A refusal that shows no stored row and does not announce the result of a completed one. -/
def Reply.Refuses (reply : Reply) : Prop :=
  reply.shows? = none ∧ 400 ≤ reply.statusCode ∧ reply ≠ .refused 503 replayResultMissingDetail

section Silent

variable (ctx : TradeContext) (request : TradeRequest) (db : TradeDb) (offer : Offer)
  (ledger : LedgerInHand)

theorem refuses_refused {statusCode : Nat} (detail : String)
    (h : 400 ≤ statusCode ∧ statusCode ≠ 503) : (Reply.refused statusCode detail).Refuses :=
  ⟨rfl, h.1, fun heq => h.2 (Reply.refused.inj heq).1⟩

theorem refuses_failed : Reply.failed.Refuses := ⟨rfl, by decide, Reply.noConfusion⟩

theorem refuses_overtimeError (code : OvertimeRequestErrorCode) (message : String)
    (remaining : Option Int) : (Reply.overtimeError code message remaining).Refuses := by
  refine ⟨rfl, ?_, Reply.noConfusion⟩
  show 400 ≤ overtimeErrorStatusCode code
  cases code <;> decide

variable {reply : Reply} {rejection : Rejection}

theorem entryRefusal_refuses (h : entryRefusal ctx = some reply) :
    reply.Refuses := by
  unfold entryRefusal at h
  split_ifs at h <;> cases h <;> exact refuses_refused _ (by decide)

theorem admissionRefusal_refuses (h : admissionRefusal ctx = some reply) :
    reply.Refuses := by
  unfold admissionRefusal at h
  split at h
  · cases h
    exact refuses_refused _ (by decide)
  · split at h
    · cases h
      exact refuses_refused _ (by decide)
    · obtain ⟨message, _, rfl⟩ := Option.map_eq_some_iff.mp h
      exact refuses_refused _ (by decide)

theorem publicIdRefusal_refuses {offer : Offer} {data : TradeCreate}
    (h : publicIdRefusal offer data = some reply) : reply.Refuses := by
  unfold publicIdRefusal at h
  split_ifs at h
  · cases h
    exact refuses_refused _ (by decide)
  · split at h
    · split_ifs at h
      cases h
      exact refuses_refused _ (by decide)
    · cases h

theorem commitRejected_refuses (h : rejection.reply.Refuses) {db' : TradeDb}
    (hdone : commitRejected ctx db ledger rejection = (.done reply, db')) : reply.Refuses := by
  unfold commitRejected at hdone
  split at hdone
  · split at hdone
    · cases hdone
      exact h
    · cases hdone
      exact h
  · split at hdone
    · cases hdone
      exact refuses_failed
    · cases hdone
      exact h

theorem hold_refuses {db' : TradeDb}
    (hdone : hold ctx request db = (.done reply, db')) : reply.Refuses := by
  unfold hold at hdone
  split at hdone
  · cases hdone
    exact admissionRefusal_refuses ctx ‹_›
  · split at hdone
    · unfold rejectTradeOfferContention at hdone
      split at hdone
      · cases hdone
        exact refuses_refused _ (by decide)
      · dsimp only at hdone
        split at hdone
        · cases hdone
          exact publicIdRefusal_refuses ‹_›
        · exact commitRejected_refuses ctx db _ (refuses_refused _ (by decide)) hdone
    · split at hdone
      · cases hdone
        exact refuses_refused _ (by decide)
      · cases hdone

theorem amountRejection_refuses (data : TradeCreate) (check : TradeAmountCheck) :
    (amountRejection offer data check).reply.Refuses := by
  unfold amountRejection
  split_ifs
  · refine ⟨rfl, ?_, Reply.noConfusion⟩
    show 400 ≤ 409
    decide
  · exact refuses_refused _ (by decide)

theorem checkRejection_refuses {data : TradeCreate} {offer : Offer}
    (h : checkRejection ctx data offer = some rejection) : rejection.reply.Refuses := by
  unfold checkRejection at h
  split_ifs at h
  · cases h
    exact refuses_refused _ (by decide)
  · cases h
    exact refuses_refused _ (by decide)
  · cases h
    exact refuses_refused _ (by decide)
  · dsimp only at h
    split at h
    · cases h
      exact amountRejection_refuses offer data _
    · obtain ⟨violation, _, rfl⟩ := Option.map_eq_some_iff.mp h
      exact refuses_refused _ (by decide)

theorem commitRejected_shows (h : rejection.reply.Refuses) :
    (commitRejected ctx db ledger rejection).1.shows? = none := by
  obtain ⟨reply, db', hdone⟩ := commitRejected_stage ctx db ledger rejection
  rw [hdone]
  exact (commitRejected_refuses ctx db ledger h hdone).1

theorem returnExistingTrade_shows (trade : Trade) :
    (returnExistingTrade ctx request offer ledger trade db).1.shows? = none := by
  unfold returnExistingTrade
  split
  · rfl
  · split
    · split <;> rfl
    · split
      · rfl
      · dsimp only
        split_ifs <;> rfl

theorem validate_shows :
    (validate ctx request offer ledger db).1.shows? = none := by
  unfold validate
  split
  · split
    · rfl
    · exact commitRejected_shows ctx db ledger (refuses_refused _ (by decide))
  · split
    · exact commitRejected_shows ctx db ledger (checkRejection_refuses ctx ‹_›)
    · split
      · rfl
      · split
        · exact returnExistingTrade_shows ctx request db offer ledger _
        · rfl

theorem commitTrade_shows :
    (commitTrade ctx request offer ledger db).1.shows? = none := by
  unfold commitTrade
  split
  · rfl
  · rfl
  · dsimp only
    split
    · rfl
    · split
      · split <;> rfl
      · split
        · rfl
        · split_ifs <;> rfl

end Silent

section Commits

variable {ctx : TradeContext} {db : TradeDb} {row : OfferRequest}

theorem TradeDb.session_live (db : TradeDb) : db.session.live = db.rows := by
  unfold TradeDb.session Session.live
  exact UnitOfWork.live_load db.rows

theorem commitWork_ok {α : Type} {m : Work α} {a : α} {db' : TradeDb}
    (h : commitWork db m = .ok (a, db')) : ∃ s', m db.session = (.ok a, s') ∧
      uniqueIndexes s'.live = true ∧ db' = { db with rows := s'.live, offers := s'.offers } := by
  unfold commitWork at h
  split at h
  · rename_i a' s' hrun
    cases h
    obtain ⟨a1, s1, hm, hrest⟩ := Txn.bind_ok.mp hrun
    obtain ⟨_, s2, hflush, hpure⟩ := Txn.bind_ok.mp hrest
    cases hpure
    unfold flushSession at hflush
    split_ifs at hflush with hunique
    · cases hflush
      refine ⟨s1, hm, hunique, ?_⟩
      rw [show Session.live ⟨UnitOfWork.flush s1.rows, s1.offers⟩ = s1.live from
        UnitOfWork.live_flush s1.rows]
    · cases hflush
  · cases h

theorem commitWork_pure {α : Type} {m : Work α} {a : α} (hs : db.Sound)
    (h : m db.session = (.ok a, db.session)) : commitWork db m = .ok (a, db) := by
  have hflush : flushSession db.session = (.ok (), db.session) := by
    unfold flushSession
    rw [TradeDb.session_live, if_pos hs.unique]
    unfold TradeDb.session
    rw [UnitOfWork.flush_load]
  unfold commitWork
  rw [Txn.bind_apply, h]
  dsimp only
  rw [Txn.bind_apply, hflush]
  dsimp only [Txn.pure_apply]
  rw [TradeDb.session_live]
  rfl

theorem row?_of_mem_rows (hs : db.Sound) (h : row ∈ db.rows) : db.row? row.id = some row := by
  have hids : (db.session.live.map OfferRequest.id).Nodup := by
    rw [TradeDb.session_live]
    exact hs.ids
  have hfound := row?_of_mem hids (r := row) (by rw [TradeDb.session_live]; exact h)
  rw [Session.row?, TradeDb.session_live] at hfound
  exact hfound

end Commits

theorem createOfferRequestLedgerEntry_found {ctx : TradeContext} {db : TradeDb} {offer : Offer}
    {data : TradeCreate} {row : OfferRequest}
    (h : loadOfferRequestByIdempotency db.rows (normalizeServer offer.homeServer ctx.currentServer)
      data.idempotencyKey = some row) :
    createOfferRequestLedgerEntry ctx offer data db = ⟨row, false⟩ := by
  rw [createOfferRequestLedgerEntry, h]

theorem createOfferRequestLedgerEntry_keyless (ctx : TradeContext) (db : TradeDb) (offer : Offer)
    (data : TradeCreate) (hkey : data.idempotencyKey = none) :
    (createOfferRequestLedgerEntry ctx offer data db).row.workflowKind = .direct := by
  have hnone : normalizedIdempotencyKey none = none := by decide
  unfold createOfferRequestLedgerEntry loadOfferRequestByIdempotency
  rw [hkey, hnone]
  rfl

theorem commitRejected_tables (ctx : TradeContext) (db : TradeDb) {ledger : LedgerInHand}
    (hkind : ledger.row.workflowKind = .direct) (rejection : Rejection) :
    (commitRejected ctx db ledger rejection).2.offers = db.offers ∧
      (commitRejected ctx db ledger rejection).2.trades = db.trades := by
  unfold commitRejected
  rw [if_neg (by rw [hkind]; decide)]
  split
  · exact ⟨rfl, rfl⟩
  · dsimp only
    unfold commitRows
    split <;> exact ⟨rfl, rfl⟩

theorem rejectTradeOfferContention_tables (ctx : TradeContext) (data : TradeCreate)
    (db : TradeDb) : (rejectTradeOfferContention ctx data db).2.offers = db.offers ∧
      (rejectTradeOfferContention ctx data db).2.trades = db.trades := by
  unfold rejectTradeOfferContention
  split
  · exact ⟨rfl, rfl⟩
  · dsimp only
    split
    · exact ⟨rfl, rfl⟩
    · exact commitRejected_tables ctx db
        (createOfferRequestLedgerEntry_keyless ctx db _ _ rfl) contentionRejection

theorem hold_tables (ctx : TradeContext) (request : TradeRequest) (db : TradeDb) :
    (hold ctx request db).2.offers = db.offers ∧ (hold ctx request db).2.trades = db.trades := by
  unfold hold
  split
  · exact ⟨rfl, rfl⟩
  · split
    · exact rejectTradeOfferContention_tables ctx request.data db
    · split <;> exact ⟨rfl, rfl⟩

end TradingBot.Trades
