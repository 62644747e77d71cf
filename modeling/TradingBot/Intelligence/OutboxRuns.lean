import TradingBot.Intelligence.ProjectOutbox
import TradingBot.Intelligence.Store
import TradingBot.Misc.Run

/-!
# Runs of the consumers of the product-market outbox

`consume_one` (`src/core/market_intelligence/project_outbox_consumer.py:313`) commits its claim
before it writes to the local store, and settles the row in a third transaction; the calls of any
number of consumers interleave. A claim takes any of the due rows, since others may be locked. The
store may fail at any time: it cannot be opened, is of another version, or its write fails.

A call that raises leaves its row in processing; when the lease has run out the next claim takes it
over, however many attempts it has.
-/

namespace TradingBot.Intelligence

open TradingBot.Misc

/-- What the store does to a call: `OSError` and `sqlite3.Error` before the observation is checked,
`MarketStoreError`, `sqlite3.Error` after it, or nothing. -/
inductive StoreOutcome where
  | unavailable
  | unusable
  | writeFails
  | works
  deriving DecidableEq, Repr

/-- `ProjectOutboxConsumeResult.status` of a call that had claimed a row. -/
inductive ConsumeStatus where
  | complete
  | failed
  | retryPending
  | claimLost
  deriving DecidableEq, Repr

inductive RaisedBy where
  | payload
  | store
  deriving DecidableEq, Repr

inductive CallStage where
  | claimed
  | stored (observation : NormalizedMarketObservation)
  | refused (code : String)
  | raised (cause : RaisedBy)
  | returned (status : ConsumeStatus)

/-- A call of `consume_one` that has claimed a row. -/
structure ConsumeCall where
  number : Nat
  claim : OutboxClaim
  now : Int
  stage : CallStage

def ConsumeCall.atStage (stage : CallStage) (call : ConsumeCall) : ConsumeCall := { call with stage }

/-- The outbox, the calls, the local store, and the ids that were claimed, newest first. -/
structure OutboxState where
  rows : List OutboxRow
  calls : List ConsumeCall
  store : MarketStore
  claims : List Nat

def OutboxState.start (rows : List OutboxRow) (store : MarketStore) : OutboxState := ⟨rows, [], store, []⟩

inductive OutboxOp where
  | claim (id : Nat) (now leaseSeconds : Int)
  | write (number : Nat) (outcome : StoreOutcome)
  | settle (number : Nat)

section Steps

variable (format : PyFormat) (deriveEventKey : String → Vector UInt8 32)

/-- `write_project_outbox_observation` (project_outbox_consumer.py:205) as `consume_one` sees it. -/
def writeProjectOutboxObservation (call : ConsumeCall) (outcome : StoreOutcome) : CallStage :=
  match observationFromProjectOutbox format deriveEventKey call.claim call.now with
  | .error (.consumer code) => .refused code
  | .error .uncaught => .raised .payload
  | .ok observation =>
    match outcome with
    | .unavailable => .refused "market_store_write_failed"
    | .unusable => .raised .store
    | .writeFails =>
      match observation.normalized with
      | .error _ => .raised .payload
      | .ok _ => .refused "market_store_write_failed"
    | .works =>
      match observation.normalized with
      | .error _ => .raised .payload
      | .ok normalized => .stored normalized

def OutboxState.storeAfter (s : OutboxState) (now : Int) : CallStage → MarketStore
  | .stored observation => s.store.upsertObservation observation (secondOf now)
  | _ => s.store

/-- `claim_next_project_market_outbox` and the commit, when the row is the one that is taken. -/
def OutboxState.claimNext (s : OutboxState) (id : Nat) (now leaseSeconds : Int) : OutboxState :=
  match getRow OutboxRow.id id s.rows with
  | none => s
  | some row =>
    if row.claimable now then
      { s with
        rows := setRow OutboxRow.id id (OutboxRow.claimed (.drawn s.calls.length) now leaseSeconds)
          s.rows
        calls := s.calls ++ [⟨s.calls.length, row.toClaim (.drawn s.calls.length), now, .claimed⟩]
        claims := id :: s.claims }
    else s

/-- After `complete_project_market_outbox` or `fail_project_market_outbox`: a row no longer held
stays. -/
def OutboxState.settled (s : OutboxState) (call : ConsumeCall) (write : OutboxRow → OutboxRow)
    (status : OutboxRow → ConsumeStatus) : OutboxState :=
  match getRow OutboxRow.id call.claim.id s.rows with
  | none =>
    { s with calls := setRow ConsumeCall.number call.number (.atStage (.returned .claimLost)) s.calls }
  | some row =>
    if row.heldBy call.claim then
      { s with
        rows := setRow OutboxRow.id call.claim.id write s.rows
        calls := setRow ConsumeCall.number call.number (.atStage (.returned (status row))) s.calls }
    else
      { s with calls := setRow ConsumeCall.number call.number (.atStage (.returned .claimLost)) s.calls }

def OutboxState.step (s : OutboxState) : OutboxOp → OutboxState
  | .claim id now leaseSeconds => s.claimNext id now leaseSeconds
  | .write number outcome =>
    match getRow ConsumeCall.number number s.calls with
    | none => s
    | some call =>
      match call.stage with
      | .claimed =>
        { s with
          calls := setRow ConsumeCall.number number
            (.atStage (writeProjectOutboxObservation format deriveEventKey call outcome)) s.calls
          store := s.storeAfter call.now
            (writeProjectOutboxObservation format deriveEventKey call outcome) }
      | _ => s
  | .settle number =>
    match getRow ConsumeCall.number number s.calls with
    | none => s
    | some call =>
      match call.stage with
      | .stored _ => s.settled call (OutboxRow.completed call.now) fun _ => .complete
      | .refused code =>
        s.settled call (OutboxRow.putBack code call.now) fun row =>
          if finalFailure code row.attempts then .failed else .retryPending
      | _ => s

end Steps

/-! ## What a step does -/

inductive RowsStep (s : OutboxState) : OutboxOp → List OutboxRow → List Nat → Prop where
  | same {op} : RowsStep s op s.rows s.claims
  | claim {id : Nat} {now leaseSeconds : Int} {row : OutboxRow}
      (hrow : getRow OutboxRow.id id s.rows = some row) (hdue : row.claimable now = true) :
      RowsStep s (.claim id now leaseSeconds)
        (setRow OutboxRow.id id (OutboxRow.claimed (.drawn s.calls.length) now leaseSeconds) s.rows)
        (id :: s.claims)
  | complete {op} {call : ConsumeCall} {row : OutboxRow} {observation : NormalizedMarketObservation}
      (hcall : call ∈ s.calls) (hstage : call.stage = .stored observation)
      (hrow : getRow OutboxRow.id call.claim.id s.rows = some row)
      (hheld : row.heldBy call.claim = true) :
      RowsStep s op (setRow OutboxRow.id call.claim.id (OutboxRow.completed call.now) s.rows) s.claims
  | fail {op} {call : ConsumeCall} {row : OutboxRow} {code : String}
      (hcall : call ∈ s.calls) (hstage : call.stage = .refused code)
      (hrow : getRow OutboxRow.id call.claim.id s.rows = some row)
      (hheld : row.heldBy call.claim = true) :
      RowsStep s op (setRow OutboxRow.id call.claim.id (OutboxRow.putBack code call.now) s.rows) s.claims

inductive CallsStep (format : PyFormat) (deriveEventKey : String → Vector UInt8 32) (s : OutboxState) :
    OutboxOp → List ConsumeCall → MarketStore → Prop where
  | same {op} : CallsStep format deriveEventKey s op s.calls s.store
  | claim {id : Nat} {now leaseSeconds : Int} {row : OutboxRow}
      (hrow : getRow OutboxRow.id id s.rows = some row) (hdue : row.claimable now = true) :
      CallsStep format deriveEventKey s (.claim id now leaseSeconds)
        (s.calls ++ [⟨s.calls.length, row.toClaim (.drawn s.calls.length), now, .claimed⟩]) s.store
  | write {op} {call : ConsumeCall} {outcome : StoreOutcome}
      (hcall : getRow ConsumeCall.number call.number s.calls = some call) :
      CallsStep format deriveEventKey s op
        (setRow ConsumeCall.number call.number
          (.atStage (writeProjectOutboxObservation format deriveEventKey call outcome)) s.calls)
        (s.storeAfter call.now (writeProjectOutboxObservation format deriveEventKey call outcome))
  | settle {op} {call : ConsumeCall} {status : ConsumeStatus}
      (hcall : getRow ConsumeCall.number call.number s.calls = some call) :
      CallsStep format deriveEventKey s op
        (setRow ConsumeCall.number call.number (.atStage (.returned status)) s.calls) s.store

section Inversion

variable {s : OutboxState} {write : OutboxRow → OutboxRow} {status : OutboxRow → ConsumeStatus}

theorem settled_rows (call : ConsumeCall) :
    (s.settled call write status).claims = s.claims ∧
      ((s.settled call write status).rows = s.rows ∨
        ∃ row, getRow OutboxRow.id call.claim.id s.rows = some row ∧ row.heldBy call.claim = true ∧
          (s.settled call write status).rows = setRow OutboxRow.id call.claim.id write s.rows) := by
  unfold OutboxState.settled
  split
  · exact ⟨rfl, .inl rfl⟩
  · next row hrow =>
    split
    · next hheld => exact ⟨rfl, .inr ⟨row, hrow, hheld, rfl⟩⟩
    · exact ⟨rfl, .inl rfl⟩

theorem settled_calls (call : ConsumeCall) :
    (s.settled call write status).store = s.store ∧ ∃ answer, (s.settled call write status).calls =
      setRow ConsumeCall.number call.number (.atStage (.returned answer)) s.calls := by
  unfold OutboxState.settled
  split
  · exact ⟨rfl, _, rfl⟩
  · split
    · exact ⟨rfl, _, rfl⟩
    · exact ⟨rfl, _, rfl⟩

theorem step_rows (format : PyFormat) (deriveEventKey : String → Vector UInt8 32) (s : OutboxState)
    (op : OutboxOp) :
    RowsStep s op (s.step format deriveEventKey op).rows (s.step format deriveEventKey op).claims := by
  cases op with
  | claim id now leaseSeconds =>
    simp only [OutboxState.step, OutboxState.claimNext]
    split
    · exact .same
    · next row hrow =>
      split
      · next hdue => exact .claim hrow hdue
      · exact .same
  | write number outcome =>
    simp only [OutboxState.step]
    split
    · exact .same
    · split
      · exact .same
      · exact .same
  | settle number =>
    simp only [OutboxState.step]
    split
    · exact .same
    · next call hcall =>
      have hmem := (getRow_eq_some hcall).1
      split
      · next observation hstage =>
        obtain ⟨hclaims, hrows | ⟨row, hrow, hheld, hrows⟩⟩ := settled_rows (s := s) call
        · rw [hclaims, hrows]
          exact .same
        · rw [hclaims, hrows]
          exact .complete hmem hstage hrow hheld
      · next code hstage =>
        obtain ⟨hclaims, hrows | ⟨row, hrow, hheld, hrows⟩⟩ := settled_rows (s := s) call
        · rw [hclaims, hrows]
          exact .same
        · rw [hclaims, hrows]
          exact .fail hmem hstage hrow hheld
      · exact .same

theorem step_calls (format : PyFormat) (deriveEventKey : String → Vector UInt8 32) (s : OutboxState)
    (op : OutboxOp) :
    CallsStep format deriveEventKey s op (s.step format deriveEventKey op).calls
      (s.step format deriveEventKey op).store := by
  cases op with
  | claim id now leaseSeconds =>
    simp only [OutboxState.step, OutboxState.claimNext]
    split
    · exact .same
    · next row hrow =>
      split
      · next hdue => exact .claim hrow hdue
      · exact .same
  | write number outcome =>
    simp only [OutboxState.step]
    split
    · exact .same
    · next call hcall =>
      have hnumber := (getRow_eq_some hcall).2
      subst hnumber
      split
      · exact .write hcall
      · exact .same
  | settle number =>
    simp only [OutboxState.step]
    split
    · exact .same
    · next call hcall =>
      have hnumber := (getRow_eq_some hcall).2
      subst hnumber
      split
      · obtain ⟨hstore, answer, hcalls⟩ := settled_calls (s := s) call
        rw [hstore, hcalls]
        exact .settle hcall
      · obtain ⟨hstore, answer, hcalls⟩ := settled_calls (s := s) call
        rw [hstore, hcalls]
        exact .settle hcall
      · exact .same

end Inversion

/-! ## What every run keeps -/

def OutboxRow.isSettled (row : OutboxRow) : Prop := row.status = .complete ∨ row.status = .failed

structure ConsumeCall.Wrote (format : PyFormat) (deriveEventKey : String → Vector UInt8 32)
    (store : MarketStore) (row : OutboxRow) (call : ConsumeCall) : Prop where
  held : row.heldBy call.claim = true
  ofRow : call.claim = row.toClaim call.claim.leaseToken
  written : ∃ observation normalized,
    observationFromProjectOutbox format deriveEventKey call.claim call.now = .ok observation ∧
      observation.normalized = .ok normalized ∧ normalized ∈ store.facts

/-- Settled rows stay, and a row that becomes complete was written by the call that holds its lease. -/
structure Settles (format : PyFormat) (deriveEventKey : String → Vector UInt8 32) (s : OutboxState)
    (_ : OutboxOp) (s' : OutboxState) : Prop where
  kept : ∀ row ∈ s.rows, row.isSettled → row ∈ s'.rows
  written : ∀ row ∈ s'.rows, row.status = .complete →
    row ∈ s.rows ∨ ∃ old ∈ s.rows, old.id = row.id ∧
      ∃ call ∈ s.calls, call.Wrote format deriveEventKey s.store old

/-- No row was claimed more than eight times, and no payload has made a call raise. -/
structure OutboxState.Bounded (s : OutboxState) : Prop where
  claims : ∀ id, s.claims.count id ≤ maxRetryAttempts
  raised : ∀ call ∈ s.calls, call.stage ≠ .raised .payload

/-- A claim takes a deliverable or refusable payload, and takes over a lease only while attempts are
left. -/
def ClaimsDeliverable (format : PyFormat) (s : OutboxState) (op : OutboxOp) (_ : OutboxState) : Prop :=
  match op with
  | .claim id now _ => ∀ row ∈ s.rows, row.id = id → row.claimable now = true →
      Deliverable format row.payload ∧ (row.status = .processing → row.attempts < maxRetryAttempts)
  | _ => True

section Invariant

variable (format : PyFormat) (deriveEventKey : String → Vector UInt8 32)

structure CallSound (rows : List OutboxRow) (store : MarketStore) (call : ConsumeCall) : Prop where
  ofRow : ∀ row ∈ rows, row.id = call.claim.id → call.claim = row.toClaim call.claim.leaseToken
  stored : ∀ normalized, call.stage = .stored normalized → ∃ observation,
    observationFromProjectOutbox format deriveEventKey call.claim call.now = .ok observation ∧
      observation.normalized = .ok normalized ∧ normalized ∈ store.facts

structure OutboxState.Sound (s : OutboxState) : Prop where
  ids : (s.rows.map OutboxRow.id).Nodup
  numbers : s.calls.map ConsumeCall.number = List.range s.calls.length
  calls : ∀ call ∈ s.calls, CallSound format deriveEventKey s.rows s.store call

/-- In a run of deliverable claims: attempts count the claims, a row waiting for a retry has one
left, and each call has a deliverable payload. -/
structure OutboxState.Counted (s : OutboxState) : Prop where
  attempts : ∀ row ∈ s.rows, s.claims.count row.id ≤ row.attempts
  waiting : ∀ row ∈ s.rows, row.status = .pending → s.claims.count row.id < maxRetryAttempts
  bounded : s.Bounded
  deliverable : ∀ call ∈ s.calls, Deliverable format call.claim.payload

end Invariant

section Rows

variable {format : PyFormat} {deriveEventKey : String → Vector UInt8 32} {s : OutboxState}
  {op : OutboxOp} {rows : List OutboxRow} {claims : List Nat} {row : OutboxRow}

def SameClaim (old new : OutboxRow) : Prop := ∀ token, new.toClaim token = old.toClaim token

theorem SameClaim.refl (row : OutboxRow) : SameClaim row row := fun _ => rfl

theorem SameClaim.id_eq {old new : OutboxRow} (h : SameClaim old new) : new.id = old.id :=
  congrArg OutboxClaim.id (h (.drawn 0))

theorem sameClaim_putBack (code : String) (now : Int) (row : OutboxRow) :
    SameClaim row (row.putBack code now) := by
  intro token
  unfold OutboxRow.putBack
  dsimp only
  split
  · rfl
  · rfl

theorem RowsStep.rewritten (h : RowsStep s op rows claims) : Rewritten SameClaim s.rows rows := by
  cases h with
  | same => exact Rewritten.refl SameClaim.refl _
  | claim hrow hdue => exact Rewritten.setRow SameClaim.refl fun row _ _ => fun _ => rfl
  | complete =>
    exact Rewritten.setRow SameClaim.refl fun row _ _ => fun _ => rfl
  | fail =>
    exact Rewritten.setRow SameClaim.refl fun row _ _ => sameClaim_putBack _ _ row

theorem RowsStep.ids (h : RowsStep s op rows claims) :
    rows.map OutboxRow.id = s.rows.map OutboxRow.id :=
  h.rewritten.map_eq fun _ _ hsame => hsame.id_eq

theorem not_isSettled_of_claimable {now : Int} (h : row.claimable now = true) : ¬ row.isSettled := by
  unfold OutboxRow.claimable at h
  rintro (hstatus | hstatus)
  · simp [hstatus] at h
  · simp [hstatus] at h

theorem not_isSettled_of_heldBy {claim : OutboxClaim} (h : row.heldBy claim = true) :
    ¬ row.isSettled := by
  unfold OutboxRow.heldBy at h
  rintro (hstatus | hstatus)
  · simp [hstatus] at h
  · simp [hstatus] at h

theorem mem_setRow_of_isSettled {id : Nat} {found : OutboxRow} {write : OutboxRow → OutboxRow}
    (hids : (s.rows.map OutboxRow.id).Nodup) (hfound : getRow OutboxRow.id id s.rows = some found)
    (hopen : ¬ found.isSettled) (hrow : row ∈ s.rows) (hsettled : row.isSettled) :
    row ∈ setRow OutboxRow.id id write s.rows := by
  refine mem_setRow.2 (.inl ⟨hrow, fun hid => hopen ?_⟩)
  have hsame := getRow_of_mem hids hrow
  rw [hid, hfound] at hsame
  rw [Option.some.inj hsame]
  exact hsettled

theorem RowsStep.kept (h : RowsStep s op rows claims) (hids : (s.rows.map OutboxRow.id).Nodup)
    (hrow : row ∈ s.rows) (hsettled : row.isSettled) : row ∈ rows := by
  cases h with
  | same => exact hrow
  | claim hfound hdue =>
    exact mem_setRow_of_isSettled hids hfound (not_isSettled_of_claimable hdue) hrow hsettled
  | complete _ _ hfound hheld =>
    exact mem_setRow_of_isSettled hids hfound (not_isSettled_of_heldBy hheld) hrow hsettled
  | fail _ _ hfound hheld =>
    exact mem_setRow_of_isSettled hids hfound (not_isSettled_of_heldBy hheld) hrow hsettled

theorem putBack_status (code : String) (now : Int) (row : OutboxRow) :
    (row.putBack code now).status = .failed ∨
      (row.putBack code now).status = .pending ∧ row.attempts < maxRetryAttempts := by
  unfold OutboxRow.putBack
  dsimp only
  split
  · exact .inl rfl
  · next hretry =>
    refine .inr ⟨rfl, ?_⟩
    simp only [finalFailure, Bool.or_eq_true, decide_eq_true_eq, not_or, not_le] at hretry
    exact hretry.2

theorem putBack_attempts (code : String) (now : Int) (row : OutboxRow) :
    (row.putBack code now).attempts = row.attempts := by
  unfold OutboxRow.putBack
  dsimp only
  split
  · rfl
  · rfl

theorem RowsStep.written (h : RowsStep s op rows claims) (hs : s.Sound format deriveEventKey)
    (hrow : row ∈ rows) (hcomplete : row.status = .complete) :
    row ∈ s.rows ∨ ∃ old ∈ s.rows, old.id = row.id ∧
      ∃ call ∈ s.calls, call.Wrote format deriveEventKey s.store old := by
  cases h with
  | same => exact .inl hrow
  | claim hfound hdue =>
    rcases (mem_setRow_of_getRow hs.ids hfound).1 hrow with ⟨hold, -⟩ | rfl
    · exact .inl hold
    · cases hcomplete
  | @complete _ call found observation hcall hstage hfound hheld =>
    rcases (mem_setRow_of_getRow hs.ids hfound).1 hrow with ⟨hold, -⟩ | rfl
    · exact .inl hold
    · obtain ⟨hmem, hid⟩ := getRow_eq_some hfound
      have hsound := hs.calls call hcall
      obtain ⟨raw, hraw, hnormalized, hfact⟩ := hsound.stored observation hstage
      exact .inr ⟨found, hmem, rfl, call, hcall,
        { held := hheld
          ofRow := hsound.ofRow found hmem hid
          written := ⟨raw, observation, hraw, hnormalized, hfact⟩ }⟩
  | @fail _ call found code hcall hstage hfound hheld =>
    rcases (mem_setRow_of_getRow hs.ids hfound).1 hrow with ⟨hold, -⟩ | hnew
    · exact .inl hold
    · rw [hnew] at hcomplete
      rcases putBack_status code call.now found with hfailed | ⟨hpending, -⟩
      · rw [hfailed] at hcomplete
        cases hcomplete
      · rw [hpending] at hcomplete
        cases hcomplete

end Rows

section Calls

variable {format : PyFormat} {deriveEventKey : String → Vector UInt8 32} {s : OutboxState}
  {op : OutboxOp} {calls : List ConsumeCall} {store : MarketStore} {call : ConsumeCall}
  {fact : NormalizedMarketObservation}

theorem OutboxState.Sound.nodupNumbers (h : s.Sound format deriveEventKey) :
    (s.calls.map ConsumeCall.number).Nodup := by
  rw [h.numbers]
  exact List.nodup_range

theorem numbers_setRow {number : Nat} {stage : CallStage}
    (h : s.calls.map ConsumeCall.number = List.range s.calls.length) :
    (setRow ConsumeCall.number number (.atStage stage) s.calls).map ConsumeCall.number =
      List.range (setRow ConsumeCall.number number (.atStage stage) s.calls).length := by
  have hwrite : ∀ call : ConsumeCall, call.number = number → (call.atStage stage).number = number :=
    fun _ hnumber => hnumber
  rw [map_id_setRow hwrite, h, setRow, List.length_map]

theorem CallsStep.numbers (h : CallsStep format deriveEventKey s op calls store)
    (hs : s.Sound format deriveEventKey) :
    calls.map ConsumeCall.number = List.range calls.length := by
  cases h with
  | same => exact hs.numbers
  | claim hrow hdue =>
    rw [List.map_append, hs.numbers, List.length_append, List.map_singleton, List.length_singleton,
      List.range_succ]
  | write hcall => exact numbers_setRow hs.numbers
  | settle hcall => exact numbers_setRow hs.numbers

theorem storeAfter_facts (now : Int) (stage : CallStage)
    (h : fact ∈ s.store.facts) : fact ∈ (s.storeAfter now stage).facts := by
  cases stage with
  | stored observation => exact List.mem_cons_of_mem _ h
  | claimed => exact h
  | refused code => exact h
  | raised cause => exact h
  | returned status => exact h

theorem CallsStep.facts (h : CallsStep format deriveEventKey s op calls store)
    (hfact : fact ∈ s.store.facts) : fact ∈ store.facts := by
  cases h with
  | same => exact hfact
  | claim hrow hdue => exact hfact
  | write hcall => exact storeAfter_facts _ _ hfact
  | settle hcall => exact hfact

theorem CallsStep.mem (h : CallsStep format deriveEventKey s op calls store)
    (hs : s.Sound format deriveEventKey) (hcall : call ∈ calls) :
    call ∈ s.calls ∨
      (∃ id now leaseSeconds row token, op = .claim id now leaseSeconds ∧
        getRow OutboxRow.id id s.rows = some row ∧ row.claimable now = true ∧
          call.claim = row.toClaim token ∧ call.stage = .claimed) ∨
      (∃ old ∈ s.calls, ∃ outcome,
        call = old.atStage (writeProjectOutboxObservation format deriveEventKey old outcome) ∧
          store = s.storeAfter old.now call.stage) ∨
      ∃ old ∈ s.calls, ∃ status, call = old.atStage (.returned status) := by
  cases h with
  | same => exact .inl hcall
  | @claim id now leaseSeconds row hrow hdue =>
    rcases List.mem_append.1 hcall with hold | hnew
    · exact .inl hold
    · rw [List.mem_singleton.1 hnew]
      exact .inr (.inl ⟨id, now, leaseSeconds, row, _, rfl, hrow, hdue, rfl, rfl⟩)
  | @write _ found outcome hfound =>
    rcases (mem_setRow_of_getRow hs.nodupNumbers hfound).1 hcall with ⟨hold, -⟩ | hnew
    · exact .inl hold
    · refine .inr (.inr (.inl ⟨found, (getRow_eq_some hfound).1, outcome, hnew, ?_⟩))
      rw [hnew]
      rfl
  | @settle _ found status hfound =>
    rcases (mem_setRow_of_getRow hs.nodupNumbers hfound).1 hcall with ⟨hold, -⟩ | hnew
    · exact .inl hold
    · exact .inr (.inr (.inr ⟨found, (getRow_eq_some hfound).1, status, hnew⟩))

end Calls

/-! ## The invariants of a run -/

section Invariants

variable {format : PyFormat} {deriveEventKey : String → Vector UInt8 32} {s : OutboxState}
  {op : OutboxOp} {rows : List OutboxRow} {row : OutboxRow} {claims : List Nat} {call : ConsumeCall}
  {outcome : StoreOutcome} {now : Int} {id : Nat}

theorem write_eq_stored {normalized : NormalizedMarketObservation}
    (h : writeProjectOutboxObservation format deriveEventKey call outcome = .stored normalized) :
    ∃ observation, observationFromProjectOutbox format deriveEventKey call.claim call.now =
      .ok observation ∧ observation.normalized = .ok normalized := by
  unfold writeProjectOutboxObservation at h
  cases hobservation : observationFromProjectOutbox format deriveEventKey call.claim call.now with
  | error error => cases error <;> simp [hobservation] at h
  | ok observation =>
    refine ⟨observation, rfl, ?_⟩
    cases outcome with
    | unavailable => simp [hobservation] at h
    | unusable => simp [hobservation] at h
    | writeFails => cases hnormalized : observation.normalized <;> simp [hobservation, hnormalized] at h
    | works =>
      cases hnormalized : observation.normalized with
      | error error => simp [hobservation, hnormalized] at h
      | ok found =>
        simp only [hobservation, hnormalized, CallStage.stored.injEq] at h
        rw [h]

theorem write_ne_raised (h : Deliverable format call.claim.payload) :
    writeProjectOutboxObservation format deriveEventKey call outcome ≠ .raised .payload := by
  unfold writeProjectOutboxObservation
  cases hobservation : observationFromProjectOutbox format deriveEventKey call.claim call.now with
  | error error =>
    cases error with
    | consumer code => exact nofun
    | uncaught => exact absurd hobservation (observation_ne_uncaught h)
  | ok observation =>
    obtain ⟨normalized, hnormalized⟩ := normalized_of_deliverable h hobservation
    cases outcome with
    | unavailable => exact nofun
    | unusable => exact fun h => by simp at h
    | writeFails => simp [hnormalized]
    | works => simp [hnormalized]

theorem ofRow_step {rows' : List OutboxRow} {claim : OutboxClaim}
    (hrewritten : Rewritten SameClaim rows rows')
    (h : ∀ row ∈ rows, row.id = claim.id → claim = row.toClaim claim.leaseToken) :
    ∀ row ∈ rows', row.id = claim.id → claim = row.toClaim claim.leaseToken := by
  intro row hrow hid
  obtain ⟨old, hold, hsame⟩ := hrewritten.mem hrow
  rw [hsame]
  exact h old hold (hsame.id_eq.symm.trans hid)

theorem OutboxState.Sound.step (h : s.Sound format deriveEventKey) :
    (s.step format deriveEventKey op).Sound format deriveEventKey := by
  have hrows := step_rows format deriveEventKey s op
  have hcalls := step_calls format deriveEventKey s op
  refine ⟨by rw [hrows.ids]; exact h.ids, hcalls.numbers h, fun call hcall => ?_⟩
  obtain hold | ⟨id, now, leaseSeconds, row, token, -, hrow, -, hclaim, hstage⟩ |
    ⟨old, hold, outcome, hnew, hstore⟩ | ⟨old, hold, status, hnew⟩ := hcalls.mem h hcall
  · have hsound := h.calls call hold
    refine ⟨ofRow_step hrows.rewritten hsound.ofRow, fun normalized hstage => ?_⟩
    obtain ⟨observation, hread, hnormalized, hfact⟩ := hsound.stored normalized hstage
    exact ⟨observation, hread, hnormalized, hcalls.facts hfact⟩
  · refine ⟨ofRow_step hrows.rewritten fun found hfound hid => ?_, fun normalized hstored => ?_⟩
    · obtain ⟨hmem, -⟩ := getRow_eq_some hrow
      rw [hclaim] at hid ⊢
      rw [List.inj_on_of_nodup_map h.ids hfound hmem hid]
      rfl
    · rw [hstage] at hstored
      cases hstored
  · have hsound := h.calls old hold
    rw [hnew]
    refine ⟨ofRow_step hrows.rewritten hsound.ofRow, fun normalized hstage => ?_⟩
    obtain ⟨observation, hread, hnormalized⟩ := write_eq_stored hstage
    refine ⟨observation, hread, hnormalized, ?_⟩
    rw [hstore, hnew, hstage]
    exact List.mem_cons_self
  · have hsound := h.calls old hold
    rw [hnew]
    exact ⟨ofRow_step hrows.rewritten hsound.ofRow, fun normalized hstage => by cases hstage⟩

theorem OutboxState.Counted.spare (h : s.Counted format)
    (hrow : row ∈ s.rows) (hdue : row.claimable now = true)
    (hleft : row.status = .processing → row.attempts < maxRetryAttempts) :
    s.claims.count row.id < maxRetryAttempts := by
  simp only [OutboxRow.claimable, Bool.or_eq_true, Bool.and_eq_true, decide_eq_true_eq] at hdue
  rcases hdue with ⟨hpending, -⟩ | ⟨hprocessing, -⟩
  · exact h.waiting row hrow hpending
  · exact Nat.lt_of_le_of_lt (h.attempts row hrow) (hleft hprocessing)

structure ClaimsCounted (rows : List OutboxRow) (claims : List Nat) : Prop where
  attempts : ∀ row ∈ rows, claims.count row.id ≤ row.attempts
  waiting : ∀ row ∈ rows, row.status = .pending → claims.count row.id < maxRetryAttempts
  bounded : ∀ id, claims.count id ≤ maxRetryAttempts

theorem ClaimsCounted.claim
    {token : LeaseToken} {leaseSeconds : Int} (h : ClaimsCounted rows claims)
    (hids : (rows.map OutboxRow.id).Nodup) (hrow : getRow OutboxRow.id id rows = some row)
    (hspare : claims.count id < maxRetryAttempts) :
    ClaimsCounted (setRow OutboxRow.id id (OutboxRow.claimed token now leaseSeconds) rows)
      (id :: claims) := by
  obtain ⟨hmem, hid⟩ := getRow_eq_some hrow
  subst hid
  refine ⟨fun new hnew => ?_, fun new hnew hpending => ?_, fun other => ?_⟩
  · rcases (mem_setRow_of_getRow hids hrow).1 hnew with ⟨hold, hne⟩ | rfl
    · rw [List.count_cons_of_ne (Ne.symm hne)]
      exact h.attempts new hold
    · have hcount : (row.id :: claims).count row.id = claims.count row.id + 1 := List.count_cons_self
      have hattempts := h.attempts row hmem
      show (row.id :: claims).count row.id ≤ row.attempts + 1
      omega
  · rcases (mem_setRow_of_getRow hids hrow).1 hnew with ⟨hold, hne⟩ | rfl
    · rw [List.count_cons_of_ne (Ne.symm hne)]
      exact h.waiting new hold hpending
    · cases hpending
  · by_cases hother : row.id = other
    · subst hother
      rw [List.count_cons_self]
      exact hspare
    · rw [List.count_cons_of_ne hother]
      exact h.bounded other

theorem ClaimsCounted.write {write : OutboxRow → OutboxRow} (h : ClaimsCounted rows claims)
    (hids : (rows.map OutboxRow.id).Nodup) (hrow : getRow OutboxRow.id id rows = some row)
    (hid : (write row).id = row.id) (hattempts : (write row).attempts = row.attempts)
    (hleft : (write row).status = .pending → row.attempts < maxRetryAttempts) :
    ClaimsCounted (setRow OutboxRow.id id write rows) claims := by
  obtain ⟨hmem, -⟩ := getRow_eq_some hrow
  refine ⟨fun new hnew => ?_, fun new hnew hpending => ?_, h.bounded⟩
  · rcases (mem_setRow_of_getRow hids hrow).1 hnew with ⟨hold, -⟩ | hwritten
    · exact h.attempts new hold
    · rw [hwritten, hid, hattempts]
      exact h.attempts row hmem
  · rcases (mem_setRow_of_getRow hids hrow).1 hnew with ⟨hold, -⟩ | hwritten
    · exact h.waiting new hold hpending
    · rw [hwritten] at hpending
      rw [hwritten, hid]
      exact Nat.lt_of_le_of_lt (h.attempts row hmem) (hleft hpending)

theorem RowsStep.counted {s' : OutboxState}
    (h : RowsStep s op rows claims) (hids : (s.rows.map OutboxRow.id).Nodup) (hs : s.Counted format)
    (hcondition : ClaimsDeliverable format s op s') : ClaimsCounted rows claims := by
  have hcounted : ClaimsCounted s.rows s.claims := ⟨hs.attempts, hs.waiting, hs.bounded.claims⟩
  cases h with
  | same => exact hcounted
  | claim hrow hdue =>
    obtain ⟨hmem, hid⟩ := getRow_eq_some hrow
    have hspare := hs.spare hmem hdue (hcondition _ hmem hid hdue).2
    rw [hid] at hspare
    exact hcounted.claim hids hrow hspare
  | complete _ _ hrow => exact hcounted.write hids hrow rfl rfl nofun
  | @fail _ call row code hcall hstage hrow hheld =>
    refine hcounted.write hids hrow (sameClaim_putBack code call.now row).id_eq
      (putBack_attempts code call.now row) fun hpending => ?_
    rcases putBack_status code call.now row with hfailed | ⟨-, hleft⟩
    · rw [hfailed] at hpending
      cases hpending
    · exact hleft

theorem OutboxState.Counted.step (h : s.Counted format) (hs : s.Sound format deriveEventKey)
    (hcondition : ClaimsDeliverable format s op (s.step format deriveEventKey op)) :
    (s.step format deriveEventKey op).Counted format := by
  have hcalls := step_calls format deriveEventKey s op
  have hrows := (step_rows format deriveEventKey s op).counted hs.ids h hcondition
  have hdeliverable : ∀ call ∈ (s.step format deriveEventKey op).calls,
      Deliverable format call.claim.payload := by
    intro call hcall
    obtain hold | ⟨id, now, leaseSeconds, row, token, hop, hrow, hdue, hclaim, -⟩ |
      ⟨old, hold, outcome, hnew, -⟩ | ⟨old, hold, status, hnew⟩ := hcalls.mem hs hcall
    · exact h.deliverable call hold
    · obtain ⟨hmem, hid⟩ := getRow_eq_some hrow
      rw [hop] at hcondition
      rw [hclaim]
      exact (hcondition row hmem hid hdue).1
    · rw [hnew]
      exact h.deliverable old hold
    · rw [hnew]
      exact h.deliverable old hold
  refine ⟨hrows.attempts, hrows.waiting, ⟨hrows.bounded, fun call hcall => ?_⟩, hdeliverable⟩
  obtain hold | ⟨id, now, leaseSeconds, row, token, -, -, -, -, hstage⟩ |
    ⟨old, hold, outcome, hnew, -⟩ | ⟨old, hold, status, hnew⟩ := hcalls.mem hs hcall
  · exact h.bounded.raised call hold
  · rw [hstage]
    exact nofun
  · rw [hnew]
    exact write_ne_raised (h.deliverable old hold)
  · rw [hnew]
    exact nofun

end Invariants

variable {rows : List OutboxRow} {store : MarketStore}

end TradingBot.Intelligence
