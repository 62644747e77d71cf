import TradingBot.Trades.Effects
import TradingBot.Trades.TakenKey
import TradingBot.Misc.Run

/-!
# Trade requests side by side

Any number of trade requests on one server, interleaved stage by stage. The advisory lock of the key
and the lock of the offer are exclusive and last to the end of the transaction: a request that needs
a lock of another, or would write an offer row another has locked, does not move. A request may fail
before its commit or lose the answer to it, and
`_execute_trade_authoritatively_with_transient_retry` (`src/api/routers/trades.py:4767`) then runs
it again. Others may change rows and offers nobody holds, but write no trades.
-/

namespace TradingBot.Trades

open TradingBot TradingBot.Misc TradingBot.Overtime

/-- `TRADE_TRANSIENT_RETRY_ATTEMPTS`. -/
def tradeTransientRetryAttempts : Nat := 3

def Stage.offer? : Stage → Option Offer
  | .holding offer | .recorded offer _ | .unmatched offer _ => some offer
  | _ => none

def Stage.running : Stage → Bool
  | .done _ => false
  | _ => true

structure Process where
  request : TradeRequest
  stage : Stage := .start
  attempt : Nat := 1

namespace Process

def key? (p : Process) : Option String := truthyText p.request.data.idempotencyKey

/-- The key whose advisory lock is held. An approval takes it together with the offer's lock. -/
def lockedKey? (p : Process) : Option String :=
  match p.stage with
  | .start | .done _ => none
  | .locked => p.key?
  | .cleared => if p.request.approval = none then p.key? else none
  | .holding _ | .recorded .. | .unmatched .. => p.key?

def lockedOffer? (p : Process) : Option Nat := p.stage.offer?.map fun _ => p.request.data.offerId

/-- The two processes hold no lock in common; `lockId` is `_stable_advisory_lock_id`. -/
def apart (lockId : String → Nat) (p q : Process) : Bool :=
  (∀ id ∈ p.lockedKey?.map lockId, q.lockedKey?.map lockId ≠ some id) ∧
    ∀ id ∈ p.lockedOffer?, q.lockedOffer? ≠ some id

def holdsRow (p : Process) (db : TradeDb) : Bool :=
  ∀ offer ∈ p.stage.offer?, db.offer? p.request.data.offerId = some offer

/-- The transaction is rolled back; a transient error is retried while there are attempts left. -/
def retry (p : Process) (transient : Bool) : Process :=
  if transient ∧ p.attempt < tradeTransientRetryAttempts then
    { p with stage := .start, attempt := p.attempt + 1 }
  else { p with stage := .done .failed }

end Process

structure System where
  db : TradeDb
  processes : List Process

inductive Action where
  /-- A request, or a replay of one, arrives. -/
  | arrive (request : TradeRequest)
  /-- A process goes through its next stage. -/
  | advance (i : Nat) (ctx : TradeContext)
  /-- A process fails before its next stage. -/
  | abort (i : Nat) (transient : Bool)
  /-- A process goes through its next stage, but does not learn what became of it. -/
  | loseReply (i : Nat) (ctx : TradeContext) (transient : Bool)
  /-- Something else commits. -/
  | elsewhere (db : TradeDb)

def Action.process? : Action → Option Nat
  | advance i _ | abort i _ | loseReply i _ _ => some i
  | arrive _ | elsewhere _ => none

namespace System

variable (lockId : String → Nat)

/-- Process `i` becomes `p` and the tables `db`, unless another's lock is in the way. -/
def settle (s : System) (i : Nat) (p : Process) (db : TradeDb) : System :=
  if (s.processes.eraseIdx i).all (fun q => q.apart lockId p && q.holdsRow db) then
    ⟨db, s.processes.set i p⟩
  else s

def running? (s : System) (i : Nat) : Option Process := s.processes[i]?.filter (·.stage.running)

def step (s : System) : Action → System
  | .arrive request => { s with processes := s.processes ++ [{ request := request }] }
  | .advance i ctx =>
    match s.running? i with
    | none => s
    | some p =>
      let (stage, db) := Trades.advance ctx p.request s.db p.stage
      s.settle lockId i { p with stage := stage } db
  | .abort i transient =>
    match s.running? i with
    | none => s
    | some p => s.settle lockId i (p.retry transient) s.db
  | .loseReply i ctx transient =>
    match s.running? i with
    | none => s
    | some p => s.settle lockId i (p.retry transient)
        (Trades.advance ctx p.request s.db p.stage).2
  | .elsewhere db =>
    if db.trades = s.db.trades ∧ (db.offers.map Offer.id).Nodup ∧
        s.processes.all (fun q => q.holdsRow db) then { s with db := db }
    else s

end System

/-- A stage of a request from `db` to `db'`, which then is at `stage'`. -/
structure Effect (ctx : TradeContext) (request : TradeRequest) (stage : Stage) (db db' : TradeDb)
    (stage' : Stage) : Prop where
  held : ∀ offer, stage'.offer? = some offer → db' = db ∧
    db.offer? request.data.offerId = some offer
  free : ∀ offer ledger, stage' = .unmatched offer ledger →
    (truthyText request.data.idempotencyKey).bind db.tradeByKey? = none
  names : ∀ reply, stage' = .done reply → reply.Names request db'
  writes : Quiet db db' ∨ ∃ offer ledger, stage = .unmatched offer ledger ∧
    Commits ctx request offer db db'

section Effect

variable {ctx : TradeContext} {request : TradeRequest} {stage stage' : Stage} {db db' : TradeDb}
  {offer : Offer} {reply : Reply}

theorem Effect.ended (hnames : reply.Names request db') (hquiet : Quiet db db') :
    Effect ctx request stage db db' (.done reply) where
  held _ h := by cases h
  free _ _ h := by cases h
  names := by
    rintro _ ⟨⟩
    exact hnames
  writes := .inl hquiet

theorem Reply.Names.of_quiet (h : reply.Names request db) (hquiet : Quiet db db') :
    reply.Names request db' := by
  intro trade htrade
  rw [hquiet.1]
  exact h trade htrade

theorem Effect.onward
    (hheld : ∀ offer, stage'.offer? = some offer → db.offer? request.data.offerId = some offer)
    (hfree : ∀ offer ledger, stage' = .unmatched offer ledger →
      (truthyText request.data.idempotencyKey).bind db.tradeByKey? = none)
    (hrunning : ∀ reply, stage' ≠ .done reply) : Effect ctx request stage db db stage' where
  held offer h := ⟨rfl, hheld offer h⟩
  free := hfree
  names reply h := absurd h (hrunning reply)
  writes := .inl (.refl db)

theorem advance_effect (hids : (db.offers.map Offer.id).Nodup)
    (hheld : ∀ offer, stage.offer? = some offer →
      db.offer? request.data.offerId = some offer) (hrunning : stage.running = true) :
    Effect ctx request stage db (advance ctx request db stage).2
      (advance ctx request db stage).1 := by
  cases stage with
  | start =>
    show Effect ctx request .start db db (enter ctx request)
    unfold enter
    cases hentry : entryRefusal ctx with
    | some reply => exact .ended (entryRefusal_refuses ctx hentry).names (.refl db)
    | none =>
      dsimp only
      split
      · exact .onward (fun _ h => by cases h) (fun _ _ h => by cases h) fun _ h => by cases h
      · exact .onward (fun _ h => by cases h) (fun _ _ h => by cases h) fun _ h => by cases h
  | locked =>
    show Effect ctx request .locked db db (clear ctx request db)
    unfold clear
    cases hreplay : replayByKey ctx request.data db with
    | some reply => exact .ended (replayByKey_names hreplay) (.refl db)
    | none =>
      exact .onward (fun _ h => by cases h) (fun _ _ h => by cases h) fun _ h => by cases h
  | cleared =>
    show Effect ctx request .cleared db (hold ctx request db).2 (hold ctx request db).1
    have hquiet : Quiet db (hold ctx request db).2 := hold_quiet
    rcases hold_stage ctx request db with ⟨⟨reply, db', hdone⟩, _⟩ | ⟨offer, hoffer, hholding⟩
    · rw [hdone] at hquiet ⊢
      exact .ended (hold_refuses ctx request db hdone).names hquiet
    · rw [hholding]
      refine .onward (fun o h => ?_) (fun _ _ h => by cases h) fun _ h => by cases h
      cases h
      exact offerAtLedger_some hoffer
  | holding offer =>
    show Effect ctx request (.holding offer) db (record ctx request offer db).2
      (record ctx request offer db).1
    have hquiet : Quiet db (record ctx request offer db).2 := record_quiet
    rcases record_stage ctx request db offer with ⟨reply, db', hdone⟩ | ⟨ledger, hrecorded⟩
    · rw [hdone] at hquiet ⊢
      exact .ended ((record_names hdone).of_quiet hquiet) hquiet
    · rw [hrecorded]
      refine .onward (fun o h => ?_) (fun _ _ h => by cases h) fun _ h => by cases h
      cases h
      exact hheld offer rfl
  | recorded offer ledger =>
    show Effect ctx request (.recorded offer ledger) db (validate ctx request offer ledger db).2
      (validate ctx request offer ledger db).1
    have hquiet : Quiet db (validate ctx request offer ledger db).2 := validate_quiet hids
    rcases validate_stage ctx request db offer ledger with
      ⟨reply, db', hdone⟩ | ⟨hunmatched, _, _, _, hfree⟩
    · rw [hdone] at hquiet ⊢
      exact .ended ((validate_names hdone).of_quiet hquiet) hquiet
    · rw [hunmatched]
      refine .onward (fun o h => ?_) (fun _ _ _ => hfree) fun _ h => by cases h
      cases h
      exact hheld offer rfl
  | unmatched offer ledger =>
    show Effect ctx request (.unmatched offer ledger) db
      (commitTrade ctx request offer ledger db).2 (commitTrade ctx request offer ledger db).1
    obtain ⟨reply, db', hdone⟩ := commitTrade_stage ctx request db offer ledger
    have hmem : offer ∈ db.offers := List.mem_of_find?_eq_some (hheld offer rfl)
    rw [hdone]
    rcases commitTrade_effect hids hmem hdone with ⟨rfl, hnone⟩ | ⟨hcommits, rfl⟩
    · exact .ended (names_of_none hnone) (.refl _)
    · refine ⟨(fun _ h => by cases h), (fun _ _ h => by cases h), ?_, .inr ⟨offer, ledger, rfl, hcommits⟩⟩
      rintro _ ⟨⟩ trade htrade
      cases htrade
      obtain ⟨_, _, hkey, _⟩ := buildTrades_legs ctx request.data offer db.trades
      exact ⟨hcommits.shown_mem, hkey⟩
  | done reply => cases hrunning

end Effect

/-! ## The invariant -/

def keyed (key : String) (db : TradeDb) : List Trade :=
  db.trades.filter fun t => t.idempotencyKey = some key

structure Orderly (lockId : String → Nat) (s : System) : Prop where
  offerIds : (s.db.offers.map Offer.id).Nodup
  single : ∀ key, key ≠ "" → (keyed key s.db).length ≤ 1
  /-- No two processes hold the same lock. -/
  exclusive : ∀ (i j : Nat) (p q : Process), i ≠ j → s.processes[i]? = some p → s.processes[j]? = some q →
    p.apart lockId q = true
  /-- A locked offer is as it was read. -/
  held : ∀ p ∈ s.processes, p.holdsRow s.db = true
  /-- A request that is about to trade has found its key free, and the key is still free. -/
  free : ∀ p ∈ s.processes, ∀ offer ledger, p.stage = .unmatched offer ledger →
    p.key?.bind s.db.tradeByKey? = none
  /-- A reply that names a trade names a stored one, with the key of the request. -/
  names : ∀ p ∈ s.processes, ∀ reply, p.stage = .done reply → reply.Names p.request s.db

section Orderly

variable {lockId : String → Nat} {s : System} {i : Nat} {p p' q : Process} {db' : TradeDb}
  {key : String} {offer : Offer}

theorem Process.apart_comm (lockId : String → Nat) (p q : Process) :
    p.apart lockId q = q.apart lockId p := by
  unfold Process.apart
  apply decide_eq_decide.mpr
  constructor
  · rintro ⟨hkey, hoffer⟩
    exact ⟨fun id hq hp => hkey id hp hq, fun id hq hp => hoffer id hp hq⟩
  · rintro ⟨hkey, hoffer⟩
    exact ⟨fun id hq hp => hkey id hp hq, fun id hq hp => hoffer id hp hq⟩

theorem Process.key_ne_of_apart (h : p.apart lockId q = true)
    (hp : p.lockedKey? = some key) : q.lockedKey? ≠ some key := by
  intro hq
  unfold Process.apart at h
  exact (of_decide_eq_true h).1 (lockId key) (by rw [hp]; rfl) (by rw [hq]; rfl)

theorem tradeByKey?_eq_none {db : TradeDb} :
    db.tradeByKey? key = none ↔ keyed key db = [] := by
  unfold TradeDb.tradeByKey? keyed
  rw [List.filter_eq_nil_iff]
  exact List.find?_eq_none

theorem Process.key?_eq_some :
    p.key? = some key ↔ p.request.data.idempotencyKey = some key ∧ key ≠ "" := by
  unfold Process.key? truthyText
  rw [Option.filter_eq_some_iff, decide_eq_true_iff]

theorem Commits.keyed {ctx : TradeContext} {request : TradeRequest}
    {db db' : TradeDb} (h : Commits ctx request offer db db') (key : String) :
    keyed key db' = keyed key db ++
      (if request.data.idempotencyKey = some key then
        [(buildTrades ctx request.data offer db.trades).2] else []) := by
  obtain ⟨legs, hlegs, hshown, hfree⟩ := buildTrades_legs ctx request.data offer db.trades
  have hnone : legs.filter (fun t => t.idempotencyKey = some key) = [] := by
    rw [List.filter_eq_nil_iff]
    intro t ht
    rw [hfree t ht]
    simp
  unfold Trades.keyed
  rw [h.trades, hlegs, List.filter_append, List.filter_append, hnone, List.nil_append]
  congr 1
  rw [List.filter_singleton, hshown]
  simp

/-- A stage leaves one trade for each key, those there were, and the keys others have found free. -/
structure Writes (s : System) (i : Nat) (db' : TradeDb) : Prop where
  offerIds : (db'.offers.map Offer.id).Nodup
  single : ∀ key, key ≠ "" → (keyed key db').length ≤ 1
  free : ∀ j q, j ≠ i → s.processes[j]? = some q → ∀ offer ledger,
    q.stage = .unmatched offer ledger → q.key?.bind db'.tradeByKey? = none
  kept : ∀ t ∈ s.db.trades, t ∈ db'.trades

theorem Orderly.quiet (h : Orderly lockId s) (hquiet : Quiet s.db db') : Writes s i db' := by
  obtain ⟨htrades, hquantities⟩ := hquiet
  have hkeyed : ∀ key, keyed key db' = keyed key s.db := by
    intro key
    unfold keyed
    rw [htrades]
  refine ⟨?_, fun key hkey => ?_, fun j q _ hq offer ledger hstage => ?_, fun t ht => ?_⟩
  · rw [← quantities_ids, hquantities, quantities_ids]
    exact h.offerIds
  · rw [hkeyed]
    exact h.single key hkey
  · have hfree := h.free q (List.mem_of_getElem? hq) offer ledger hstage
    unfold TradeDb.tradeByKey? at hfree ⊢
    rw [htrades]
    exact hfree
  · rw [htrades]
    exact ht

theorem takeFrom_fst (offerId : Nat) (quantity : Int) (q : Nat × Option Int) :
    (takeFrom offerId quantity q).1 = q.1 := by
  unfold takeFrom
  split <;> rfl

theorem Commits.offerIds {ctx : TradeContext} {request : TradeRequest}
    {db db' : TradeDb} (h : Commits ctx request offer db db') :
    db'.offers.map Offer.id = db.offers.map Offer.id := by
  rw [← quantities_ids, h.taken, List.map_map, ← quantities_ids]
  apply List.map_congr_left
  intro q _
  exact takeFrom_fst _ _ q

theorem Orderly.commits (h : Orderly lockId s) (hp : s.processes[i]? = some p)
    {ctx : TradeContext} {ledger : LedgerInHand} (hstage : p.stage = .unmatched offer ledger)
    (hcommits : Commits ctx p.request offer s.db db') : Writes s i db' := by
  refine ⟨?_, fun key hkey => ?_, fun j q hij hq o l hqstage => ?_, fun t ht => ?_⟩
  · rw [hcommits.offerIds]
    exact h.offerIds
  · rw [hcommits.keyed key]
    split
    · rename_i hdata
      have hfree := h.free p (List.mem_of_getElem? hp) offer ledger hstage
      rw [Process.key?_eq_some.mpr ⟨hdata, hkey⟩, Option.bind_some, tradeByKey?_eq_none] at hfree
      rw [hfree]
      exact Nat.le_refl 1
    · rw [List.append_nil]
      exact h.single key hkey
  · have hfree := h.free q (List.mem_of_getElem? hq) o l hqstage
    cases hkey : q.key? with
    | none => rfl
    | some key =>
      rw [hkey, Option.bind_some, tradeByKey?_eq_none] at hfree
      rw [Option.bind_some, tradeByKey?_eq_none, hcommits.keyed key, hfree, List.nil_append]
      have hqlock : q.lockedKey? = some key := by
        unfold Process.lockedKey?
        rw [hqstage]
        exact hkey
      have hplock := Process.key_ne_of_apart (h.exclusive j i q p hij hq hp) hqlock
      rw [if_neg]
      intro hdata
      refine hplock ?_
      unfold Process.lockedKey?
      rw [hstage]
      exact Process.key?_eq_some.mpr ⟨hdata, (Process.key?_eq_some.mp hkey).2⟩
  · rw [hcommits.trades]
    exact List.mem_append_left _ ht

theorem process_of_set {j : Nat} (h : (s.processes.set i p')[j]? = some q) :
    (j = i ∧ q = p') ∨ (j ≠ i ∧ s.processes[j]? = some q) := by
  rw [List.getElem?_set] at h
  split at h
  · rename_i hij
    split at h
    · cases h
      exact .inl ⟨hij.symm, rfl⟩
    · cases h
  · rename_i hij
    exact .inr ⟨fun h => hij h.symm, h⟩

theorem Orderly.settle (h : Orderly lockId s) (hwrites : Writes s i db')
    (hheld : p'.holdsRow db' = true) (hfree : ∀ offer ledger, p'.stage = .unmatched offer ledger →
      p'.key?.bind db'.tradeByKey? = none)
    (hnames : ∀ reply, p'.stage = .done reply → reply.Names p'.request db') :
    Orderly lockId (s.settle lockId i p' db') := by
  unfold System.settle
  split
  · rename_i hguard
    have hothers : ∀ j q, j ≠ i → s.processes[j]? = some q →
        q.apart lockId p' = true ∧ q.holdsRow db' = true := by
      intro j q hij hq
      have hmem : q ∈ s.processes.eraseIdx i := List.mem_eraseIdx_iff_getElem?.mpr ⟨j, hij, hq⟩
      exact Bool.and_eq_true_iff.mp (List.all_eq_true.mp hguard q hmem)
    refine ⟨hwrites.offerIds, hwrites.single, ?_, ?_, ?_, ?_⟩
    · intro j k q r hjk hq hr
      rcases process_of_set hq with ⟨rfl, rfl⟩ | ⟨hj, hold⟩
      · rcases process_of_set hr with ⟨rfl, rfl⟩ | ⟨hk, hother⟩
        · exact absurd rfl hjk
        · rw [Process.apart_comm]
          exact (hothers k r hk hother).1
      · rcases process_of_set hr with ⟨rfl, rfl⟩ | ⟨hk, hother⟩
        · exact (hothers j q hj hold).1
        · exact h.exclusive j k q r hjk hold hother
    · intro q hq
      obtain ⟨j, hj⟩ := List.mem_iff_getElem?.mp hq
      rcases process_of_set hj with ⟨rfl, rfl⟩ | ⟨hij, hj⟩
      · exact hheld
      · exact (hothers j q hij hj).2
    · intro q hq offer ledger hstage
      obtain ⟨j, hj⟩ := List.mem_iff_getElem?.mp hq
      rcases process_of_set hj with ⟨rfl, rfl⟩ | ⟨hij, hj⟩
      · exact hfree offer ledger hstage
      · exact hwrites.free j q hij hj offer ledger hstage
    · intro q hq reply hstage trade htrade
      obtain ⟨j, hj⟩ := List.mem_iff_getElem?.mp hq
      rcases process_of_set hj with ⟨rfl, rfl⟩ | ⟨hij, hj⟩
      · exact hnames reply hstage trade htrade
      · obtain ⟨hmem, hkey⟩ := h.names q (List.mem_of_getElem? hj) reply hstage trade htrade
        exact ⟨hwrites.kept trade hmem, hkey⟩
  · exact h

theorem running?_some (h : s.running? i = some p) :
    s.processes[i]? = some p ∧ p.stage.running = true :=
  Option.filter_eq_some_iff.mp h

theorem Orderly.effect (h : Orderly lockId s) (hrunning : s.running? i = some p)
    (ctx : TradeContext) : Effect ctx p.request p.stage s.db
      (advance ctx p.request s.db p.stage).2 (advance ctx p.request s.db p.stage).1 := by
  obtain ⟨hp, hstage⟩ := running?_some hrunning
  refine advance_effect h.offerIds (fun offer hoffer => ?_) hstage
  exact of_decide_eq_true (h.held p (List.mem_of_getElem? hp)) offer hoffer

theorem Orderly.writes (h : Orderly lockId s) (hrunning : s.running? i = some p)
    (ctx : TradeContext) : Writes s i (advance ctx p.request s.db p.stage).2 := by
  rcases (h.effect hrunning ctx).writes with hquiet | ⟨offer, ledger, hstage, hcommits⟩
  · exact h.quiet hquiet
  · exact h.commits (running?_some hrunning).1 hstage hcommits

theorem Orderly.retry (h : Orderly lockId s) (hwrites : Writes s i db') (transient : Bool) :
    Orderly lockId (s.settle lockId i (p.retry transient) db') := by
  have hstage : (p.retry transient).stage = .start ∨ (p.retry transient).stage = .done .failed := by
    unfold Process.retry
    split
    · exact .inl rfl
    · exact .inr rfl
  refine h.settle hwrites (decide_eq_true fun offer hoffer => ?_) (fun offer ledger hunmatched => ?_)
    fun reply hdone => ?_
  · rcases hstage with hstage | hstage <;> rw [hstage] at hoffer <;> cases hoffer
  · rcases hstage with hstage | hstage <;> rw [hstage] at hunmatched <;> cases hunmatched
  · rcases hstage with hstage | hstage
    · rw [hstage] at hdone
      cases hdone
    · rw [hstage] at hdone
      cases hdone
      exact names_of_none rfl

theorem Process.apart_of_start (h : q.stage = .start) : p.apart lockId q = true := by
  refine decide_eq_true ⟨fun id _ hq => ?_, fun id _ hq => ?_⟩
  · rw [show q.lockedKey? = none by unfold Process.lockedKey?; rw [h]] at hq
    cases hq
  · rw [show q.lockedOffer? = none by unfold Process.lockedOffer?; rw [h]; rfl] at hq
    cases hq

theorem Orderly.arrive (h : Orderly lockId s) (request : TradeRequest) :
    Orderly lockId (s.step lockId (.arrive request)) := by
  have hold : ∀ (j : Nat) (q : Process), (s.processes ++ [{ request := request }])[j]? = some q →
      s.processes[j]? = some q ∨ q.stage = .start := by
    intro j q hq
    rcases Nat.lt_or_ge j s.processes.length with hlt | hge
    · rw [List.getElem?_append_left hlt] at hq
      exact .inl hq
    · rw [List.getElem?_append_right hge] at hq
      rw [List.mem_singleton.mp (List.mem_of_getElem? hq)]
      exact .inr rfl
  have hmem : ∀ q ∈ (s.step lockId (.arrive request)).processes,
      q ∈ s.processes ∨ q.stage = .start := by
    intro q hq
    obtain ⟨j, hj⟩ := List.mem_iff_getElem?.mp hq
    exact (hold j q hj).imp_left List.mem_of_getElem?
  refine ⟨h.offerIds, h.single, ?_, ?_, ?_, ?_⟩
  · intro j k q r hjk hq hr
    rcases hold j q hq with hq | hstart
    · rcases hold k r hr with hr | hstart
      · exact h.exclusive j k q r hjk hq hr
      · exact Process.apart_of_start hstart
    · rw [Process.apart_comm]
      exact Process.apart_of_start hstart
  · intro q hq
    rcases hmem q hq with hq | hstart
    · exact h.held q hq
    · refine decide_eq_true fun offer hoffer => ?_
      rw [hstart] at hoffer
      cases hoffer
  · intro q hq offer ledger hstage
    rcases hmem q hq with hq | hstart
    · exact h.free q hq offer ledger hstage
    · rw [hstart] at hstage
      cases hstage
  · intro q hq reply hstage
    rcases hmem q hq with hq | hstart
    · exact h.names q hq reply hstage
    · rw [hstart] at hstage
      cases hstage

theorem Orderly.elsewhere (h : Orderly lockId s) (htrades : db'.trades = s.db.trades)
    (hids : (db'.offers.map Offer.id).Nodup) (hrows : ∀ q ∈ s.processes, q.holdsRow db' = true) :
    Orderly lockId { s with db := db' } := by
  refine ⟨hids, fun key hkey => ?_, h.exclusive, hrows, fun q hq offer ledger hstage => ?_,
    fun q hq reply hstage trade htrade => ?_⟩
  · unfold keyed
    rw [htrades]
    exact h.single key hkey
  · have hfree := h.free q hq offer ledger hstage
    unfold TradeDb.tradeByKey? at hfree ⊢
    rw [htrades]
    exact hfree
  · rw [htrades]
    exact h.names q hq reply hstage trade htrade

theorem Orderly.step (h : Orderly lockId s) (a : Action) : Orderly lockId (s.step lockId a) := by
  cases a with
  | arrive request => exact h.arrive request
  | advance i ctx =>
    simp only [System.step]
    cases hrunning : s.running? i with
    | none => exact h
    | some p =>
      have heffect := h.effect hrunning ctx
      refine h.settle (h.writes hrunning ctx) (decide_eq_true fun offer hoffer => ?_)
        (fun offer ledger hunmatched => ?_) fun reply hdone => heffect.names reply hdone
      · obtain ⟨hsame, hfound⟩ := heffect.held offer hoffer
        rw [hsame]
        exact hfound
      · have hreached : (advance ctx p.request s.db p.stage).1 = .unmatched offer ledger :=
          hunmatched
        have hoffer : (advance ctx p.request s.db p.stage).1.offer? = some offer := by
          rw [hreached]
          rfl
        rw [(heffect.held offer hoffer).1]
        exact heffect.free offer ledger hreached
  | abort i transient =>
    simp only [System.step]
    cases hrunning : s.running? i with
    | none => exact h
    | some p => exact h.retry (h.quiet (.refl s.db)) transient
  | loseReply i ctx transient =>
    simp only [System.step]
    cases hrunning : s.running? i with
    | none => exact h
    | some p => exact h.retry (h.writes hrunning ctx) transient
  | elsewhere db =>
    simp only [System.step]
    split
    · rename_i hguard
      obtain ⟨htrades, hids, hrows⟩ := hguard
      exact h.elsewhere htrades hids (List.all_eq_true.mp hrows)
    · exact h

end Orderly

/-! ## Runs -/

section Runs

variable {lockId : String → Nat} {s : System}

def System.keyOf (s : System) (a : Action) : Option String :=
  (a.process?.bind s.running?).bind fun p => p.request.data.idempotencyKey

def createsTrade (key : String) (s : System) (a : Action) (s' : System) : Bool :=
  s.keyOf a = some key ∧ s'.db.trades ≠ s.db.trades

def takesQuantity (key : String) (s : System) (a : Action) (s' : System) : Bool :=
  s.keyOf a = some key ∧ quantities s'.db.offers ≠ quantities s.db.offers

def Trading (s : System) (a : Action) (p : Process) (s' : System) : Prop :=
  a.process?.bind s.running? = some p ∧ ∃ ctx offer ledger,
    p.stage = .unmatched offer ledger ∧ offer.id = p.request.data.offerId ∧
      Commits ctx p.request offer s.db s'.db

theorem settle_db (lockId : String → Nat) (s : System) (i : Nat) (p : Process) (db : TradeDb) :
    (s.settle lockId i p db).db = s.db ∨ (s.settle lockId i p db).db = db := by
  unfold System.settle
  split
  · exact .inr rfl
  · exact .inl rfl

theorem Orderly.settle_trades (h : Orderly lockId s) {a : Action} {i : Nat} {p p' : Process}
    (ha : a.process? = some i) (hrunning : s.running? i = some p) (ctx : TradeContext) {s' : System}
    (hs' : s' = s.settle lockId i p' (advance ctx p.request s.db p.stage).2) :
    Quiet s.db s'.db ∨ Trading s a p s' := by
  have hdb := settle_db lockId s i p' (advance ctx p.request s.db p.stage).2
  rw [← hs'] at hdb
  rcases hdb with hdb | hdb
  · rw [hdb]
    exact .inl (.refl s.db)
  · rw [hdb]
    refine (h.effect hrunning ctx).writes.imp_right ?_
    rintro ⟨offer, ledger, hstage, hcommits⟩
    refine ⟨by rw [ha]; exact hrunning, ctx, offer, ledger, hstage, ?_, by rw [hdb]; exact hcommits⟩
    have hheld := h.held p (List.mem_of_getElem? (running?_some hrunning).1)
    have hfound := of_decide_eq_true hheld offer (by rw [hstage]; rfl)
    simpa using List.find?_some hfound

theorem Orderly.step_trades (h : Orderly lockId s) (a : Action) :
    ((s.step lockId a).db.trades = s.db.trades ∧
      (a.process?.isSome = true → Quiet s.db (s.step lockId a).db)) ∨
    ∃ p, Trading s a p (s.step lockId a) := by
  have hquiet : ∀ s' : System, Quiet s.db s'.db → (s'.db.trades = s.db.trades ∧
      (a.process?.isSome = true → Quiet s.db s'.db)) := fun s' hq => ⟨hq.1, fun _ => hq⟩
  cases a with
  | arrive request => exact .inl ⟨rfl, fun h => by cases h⟩
  | advance i ctx =>
    cases hrunning : s.running? i with
    | none =>
      have hstep : (s.step lockId (.advance i ctx)).db = s.db := by
        simp only [System.step, hrunning]
      rw [hstep]
      exact .inl ⟨rfl, fun _ => .refl s.db⟩
    | some p =>
      have hstep : s.step lockId (.advance i ctx) = s.settle lockId i
          { p with stage := (advance ctx p.request s.db p.stage).1 }
          (advance ctx p.request s.db p.stage).2 := by
        simp only [System.step, hrunning]
      exact (h.settle_trades rfl hrunning ctx hstep).imp (hquiet _) fun htrading => ⟨p, htrading⟩
  | abort i transient =>
    simp only [System.step]
    cases hrunning : s.running? i with
    | none => exact .inl ⟨rfl, fun _ => .refl s.db⟩
    | some p =>
      rcases settle_db lockId s i (p.retry transient) s.db with hdb | hdb <;>
        exact .inl (hquiet _ (by rw [hdb]; exact .refl s.db))
  | loseReply i ctx transient =>
    cases hrunning : s.running? i with
    | none =>
      have hstep : (s.step lockId (.loseReply i ctx transient)).db = s.db := by
        simp only [System.step, hrunning]
      rw [hstep]
      exact .inl ⟨rfl, fun _ => .refl s.db⟩
    | some p =>
      have hstep : s.step lockId (.loseReply i ctx transient) = s.settle lockId i
          (p.retry transient) (advance ctx p.request s.db p.stage).2 := by
        simp only [System.step, hrunning]
      exact (h.settle_trades rfl hrunning ctx hstep).imp (hquiet _) fun htrading => ⟨p, htrading⟩
  | elsewhere db =>
    simp only [System.step]
    split
    · rename_i hguard
      exact .inl ⟨hguard.1, fun h => by cases h⟩
    · exact .inl ⟨rfl, fun h => by cases h⟩

theorem Orderly.trading_of_writes (h : Orderly lockId s) {a : Action} {key : String}
    (hkey : s.keyOf a = some key) (hwrites : ¬ Quiet s.db (s.step lockId a).db) :
    ∃ p, Trading s a p (s.step lockId a) ∧ p.request.data.idempotencyKey = some key := by
  have hacts : a.process?.isSome = true := by
    unfold System.keyOf at hkey
    cases hprocess : a.process? with
    | none =>
      rw [hprocess] at hkey
      cases hkey
    | some i => rfl
  rcases h.step_trades a with ⟨_, hquiet⟩ | ⟨p, htrading⟩
  · exact absurd (hquiet hacts) hwrites
  · refine ⟨p, htrading, ?_⟩
    unfold System.keyOf at hkey
    rw [htrading.1] at hkey
    exact hkey

theorem Orderly.keyed_grows (h : Orderly lockId s) {key : String} (hkey : key ≠ "") (a : Action)
    {P : Bool} (hP : P = true → s.keyOf a = some key ∧ ¬ Quiet s.db (s.step lockId a).db) :
    (keyed key s.db).length + P.toNat ≤ (keyed key (s.step lockId a).db).length := by
  cases P with
  | true =>
    obtain ⟨hacts, hwrites⟩ := hP rfl
    obtain ⟨p, ⟨hrunning, ctx, offer, ledger, hstage, _, hcommits⟩, hdata⟩ :=
      h.trading_of_writes hacts hwrites
    obtain ⟨i, _, hi⟩ := Option.bind_eq_some_iff.mp hrunning
    have hfree := h.free p (List.mem_of_getElem? (running?_some hi).1) offer ledger hstage
    rw [Process.key?_eq_some.mpr ⟨hdata, hkey⟩, Option.bind_some, tradeByKey?_eq_none] at hfree
    rw [hcommits.keyed key, hfree, if_pos hdata]
    exact Nat.le_refl 1
  | false =>
    rcases h.step_trades a with ⟨htrades, _⟩ | ⟨p, _, ctx, offer, ledger, _, _, hcommits⟩
    · unfold keyed
      rw [htrades]
      exact Nat.le_refl _
    · rw [hcommits.keyed key, List.length_append]
      exact Nat.le_add_right _ _

theorem orderly_init (lockId : String → Nat) {db : TradeDb}
    (hids : (db.offers.map Offer.id).Nodup) (htrades : uniqueTrades db.trades = true) :
    Orderly lockId ⟨db, []⟩ := by
  refine ⟨hids, fun key _ => ?_, (fun _ _ _ _ _ h => by cases h), (fun _ h => by cases h),
    (fun _ h => by cases h), (fun _ h => by cases h)⟩
  have hunique := (of_decide_eq_true htrades).filter (fun t => t.idempotencyKey = some key)
  show (db.trades.filter fun t => t.idempotencyKey = some key).length ≤ 1
  match hlist : db.trades.filter (fun t => t.idempotencyKey = some key) with
  | [] =>
    rw [hlist]
    exact Nat.zero_le 1
  | [_] =>
    rw [hlist]
    exact Nat.le_refl 1
  | a :: b :: rest =>
    rw [hlist] at hunique
    have ha : a ∈ db.trades.filter (fun t => t.idempotencyKey = some key) := by
      rw [hlist]
      exact List.mem_cons_self
    have hb : b ∈ db.trades.filter (fun t => t.idempotencyKey = some key) := by
      rw [hlist]
      exact List.mem_cons_of_mem a List.mem_cons_self
    have hkeya := of_decide_eq_true (List.mem_filter.mp ha).2
    have hkeyb := of_decide_eq_true (List.mem_filter.mp hb).2
    have hdiffer := (List.rel_of_pairwise_cons hunique List.mem_cons_self).2.2
    rw [hkeya, hkeyb] at hdiffer
    exact absurd rfl (hdiffer rfl)

/-- However the requests, retries and replays under one key interleave: at most one of their actions
writes trades, at most one takes from an offer's remaining quantity, once what was requested; and
every reply that reports a trade names the only one under the key. -/
theorem one_trade_per_key (lockId : String → Nat) (db : TradeDb)
    (hids : (db.offers.map Offer.id).Nodup) (htrades : uniqueTrades db.trades = true)
    (key : String) (hkey : key ≠ "") (actions : List Action) :
    countSteps (System.step lockId) (createsTrade key) ⟨db, []⟩ actions ≤ 1 ∧
    countSteps (System.step lockId) (takesQuantity key) ⟨db, []⟩ actions ≤ 1 ∧
    EachStep (System.step lockId) (fun s a s' => takesQuantity key s a s' = true →
      ∃ p, a.process?.bind s.running? = some p ∧ quantities s'.db.offers =
        (quantities s.db.offers).map
          (takeFrom p.request.data.offerId p.request.data.quantity)) ⟨db, []⟩ actions ∧
    ∀ p ∈ (run (System.step lockId) ⟨db, []⟩ actions).processes,
      p.request.data.idempotencyKey = some key → ∀ reply trade, p.stage = .done reply →
        reply.trade? = some trade →
          keyed key (run (System.step lockId) ⟨db, []⟩ actions).db = [trade] := by
  have hinit := orderly_init lockId hids htrades
  have hpreserve : ∀ s a, Orderly lockId s → Orderly lockId (System.step lockId s a) :=
    fun s a h => h.step a
  have hfinal : Orderly lockId (run (System.step lockId) ⟨db, []⟩ actions) :=
    run_invariant (C := fun _ _ _ => True) (fun s a h _ => hpreserve s a h) actions _ hinit
      (eachStep_true _ _ _)
  have hsingle := hfinal.single key hkey
  have hcount : ∀ P : System → Action → System → Bool,
      (∀ s a, P s a (System.step lockId s a) = true →
        s.keyOf a = some key ∧ ¬ Quiet s.db (System.step lockId s a).db) →
      countSteps (System.step lockId) P ⟨db, []⟩ actions ≤ 1 := by
    intro P hP
    have hbound := countSteps_le (m := fun s => (keyed key s.db).length) hpreserve
      (fun s a h => h.keyed_grows hkey a (hP s a)) actions _ hinit
    omega
  refine ⟨hcount _ fun s a h => ?_, hcount _ fun s a h => ?_, ?_, ?_⟩
  · obtain ⟨hacts, hdiffer⟩ := of_decide_eq_true h
    exact ⟨hacts, fun hquiet => hdiffer hquiet.1⟩
  · obtain ⟨hacts, hdiffer⟩ := of_decide_eq_true h
    exact ⟨hacts, fun hquiet => hdiffer hquiet.2⟩
  · refine eachStep_of_invariant (I := Orderly lockId) (C := fun _ _ _ => True)
      (fun s a h _ => hpreserve s a h) (fun s a h _ htakes => ?_) actions _ hinit
      (eachStep_true _ _ _)
    obtain ⟨hacts, hdiffer⟩ := of_decide_eq_true htakes
    obtain ⟨p, ⟨hrunning, ctx, offer, ledger, _, hid, hcommits⟩, _⟩ :=
      h.trading_of_writes hacts fun hquiet => hdiffer hquiet.2
    refine ⟨p, hrunning, ?_⟩
    rw [← hid]
    exact hcommits.taken
  · intro p hp hdata reply trade hdone htrade
    obtain ⟨hmem, htradekey⟩ := hfinal.names p hp reply hdone trade htrade
    have hin : trade ∈ keyed key (run (System.step lockId) ⟨db, []⟩ actions).db := by
      unfold keyed
      exact List.mem_filter.mpr ⟨hmem, decide_eq_true (htradekey.trans hdata)⟩
    match hlist : keyed key (run (System.step lockId) ⟨db, []⟩ actions).db with
    | [] =>
      rw [hlist] at hin
      cases hin
    | [t] =>
      rw [hlist] at hin
      rw [List.mem_singleton.mp hin]
    | _ :: _ :: _ =>
      rw [hlist] at hsingle
      simp at hsingle

/-- Two copies of a request for all of offer 1: the first commits its trade and loses the answer,
the second waits for the key, and both then find the stored trade. -/
def twoCopies : List Action :=
  let ctx := sampleContext (30 * second) "request-1" 3 userThree_pos
  [.arrive wholeRequest, .arrive wholeRequest, .advance 0 ctx, .advance 1 ctx, .advance 0 ctx,
    .advance 0 ctx, .advance 0 ctx, .advance 0 ctx, .loseReply 0 ctx true, .advance 1 ctx,
    .advance 0 ctx, .advance 1 ctx, .advance 0 ctx, .advance 0 ctx]

theorem two_copies_make_one_trade :
    countSteps (System.step String.length) (createsTrade "key") ⟨twoOffers, []⟩ twoCopies ≤ 1 ∧
    (∀ p ∈ (run (System.step String.length) ⟨twoOffers, []⟩ twoCopies).processes,
      ∀ reply trade, p.stage = .done reply → reply.trade? = some trade →
        keyed "key" (run (System.step String.length) ⟨twoOffers, []⟩ twoCopies).db = [trade]) ∧
    (run (System.step String.length) ⟨twoOffers, []⟩ twoCopies).processes.map
      (fun p => (p.attempt, p.stage.running)) = [(2, false), (1, false)] := by
  obtain ⟨hcreates, _, _, hnames⟩ := one_trade_per_key String.length twoOffers (by decide)
    (by decide) "key" (by decide) twoCopies
  refine ⟨hcreates, fun p hp reply trade => hnames p hp ?_ reply trade, by decide +kernel⟩
  have hkeys : (run (System.step String.length) ⟨twoOffers, []⟩ twoCopies).processes.map
      (fun p => p.request.data.idempotencyKey) = [some "key", some "key"] := by decide +kernel
  have hmem := List.mem_map_of_mem (f := fun p : Process => p.request.data.idempotencyKey) hp
  rw [hkeys] at hmem
  simpa using hmem

end Runs

end TradingBot.Trades
