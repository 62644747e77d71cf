import TradingBot.Telegram.Rows

/-!
# One dispatch for each destination

A dispatch mark passes only if no other row of the destination is in flight, unresolved or rate
limited. Between check and mark the advisory locks keep other marks and answers away, and no change
brings a row past its mark, so what the gate has read stays true.
-/

namespace TradingBot.Telegram

open Misc

def Record.PastMark (row : Record) : Prop :=
  (row.state = .leased ∧ row.dispatchStartedAt.isSome = true) ∨ row.state = .ambiguous ∨
    row.state = .ambiguousUnresolved ∨
    (row.state = .pendingReconcile ∧ row.dispatchStartedAt.isSome = true)

theorem Record.PastMark.held {row : Record} (h : row.PastMark) :
    row.state = .leased ∨ row.isUnresolved = true := by
  unfold Record.isUnresolved
  obtain ⟨hstate, -⟩ | hstate | hstate | ⟨hstate, -⟩ := h <;> simp [hstate]

/-! ## What becomes of a row -/

inductive Fate (clock : Int) (row row' : Record) : Prop where
  | claimed (hstate : row'.state = .leased) (hstarted : row'.dispatchStartedAt = none)
      (hretry : row'.nextRetryAt = row.nextRetryAt)
      (hwaited : later row.nextRetryAt clock = false)
  | settled (hstate : row'.state.isFinal = true ∨ row'.state.isRetryable = true)
  | reconcile (hstate : row'.state = .pendingReconcile) (hstarted : row'.dispatchStartedAt = none)
      (hretry : row'.nextRetryAt = none)
  | unresolved (hstate : row'.isUnresolved = true) (hpast : row.PastMark)
      (hstarted : row'.dispatchStartedAt = row.dispatchStartedAt)
      (hretry : row'.nextRetryAt = none ∨ row'.nextRetryAt = row.nextRetryAt)

variable {now clock : Int} {other : Nat}

theorem later_mono {value : Option Int} (hnow : now ≤ clock)
    (h : later value now = false) : later value clock = false := by
  cases value with
  | none => rfl
  | some at_ =>
    simp only [later, Option.any_some, decide_eq_false_iff_not] at h ⊢
    omega

section RowChange

variable {late : Bool} {q : Queue} {id : Nat} {row row' : Record} {events : List Event}

theorem settle_fate {worker : String} {token : Nat} {result : GatewayResult} {policy : RetryPolicy}
    {window linearized : Int}
    (hfence : row.normalFence worker token = true ∨ row.recordedFence worker token = true) :
    Fate q.clock row (q.settle id row result policy window now linearized).1 := by
  have hsettled := settled_settle q id row result policy window now linearized
  have hclassifies : Classifies row.toContract result.statusCodeOf
      (applyGatewayResult policy row.toContract result now) :=
    classifies_applyGatewayResult policy result now (fence_not_final hfence)
  obtain ⟨-, hstarted, hheld⟩ := fence_open hfence
  have hpast : row.PastMark := by
    unfold Record.isUnresolved at hheld
    simp only [List.mem_cons, List.mem_nil_iff, or_false, decide_eq_true_eq] at hheld
    obtain hstate | hstate | hstate | hstate := hheld
    · exact .inl ⟨hstate, hstarted⟩
    · exact .inr (.inl hstate)
    · exact .inr (.inr (.inl hstate))
    · exact .inr (.inr (.inr ⟨hstate, hstarted⟩))
  obtain hfinal | hambiguous | hretryable := hclassifies.state
  · exact .settled (.inl (hsettled.state ▸ hfinal))
  · have hreason : (applyGatewayResult policy row.toContract result now).2.reason ≠
        "telegram_rate_limited" := by
      intro hlimited
      rw [(hclassifies.reason hlimited).1] at hambiguous
      cases hambiguous
    refine .unresolved ?_ hpast hsettled.dispatchStartedAt ?_
    · rw [Record.isUnresolved, hsettled.state, hambiguous]
      rfl
    · rw [hsettled.nextRetryAt hreason]
      exact hclassifies.ambiguous hambiguous
  · exact .settled (.inr (hsettled.state ▸ hretryable))

theorem RowChange.fate (h : RowChange late q id row row' events) : Fate q.clock row row' := by
  cases h with
  | claim _ _ _ _ hnow hclaim =>
    simp only [Queue.isClaimable, Bool.and_eq_true, Bool.not_eq_true'] at hclaim
    exact .claimed rfl rfl rfl (later_mono hnow hclaim.1.1.2)
  | freshness _ _ decision waitUntil reason now hsend hlease =>
    obtain hstate | hstate | ⟨hstate, hretry⟩ := freshened_state row waitUntil reason now hsend
    · exact .settled (.inl hstate)
    · exact .settled (.inr (by rw [hstate]; rfl))
    · have hkept := (freshened_kept row decision waitUntil reason now).2.2.2
      cases hstarted : row.dispatchStartedAt with
      | none => exact .reconcile hstate (hkept.trans hstarted) hretry
      | some at_ =>
        refine .unresolved (by rw [Record.isUnresolved, hstate]; rfl) ?_ hkept (.inl hretry)
        exact .inl ⟨Record.hasLease_state hlease, by rw [hstarted]; rfl⟩
  | giveBack => exact .settled (.inr rfl)
  | expired _ _ _ hleased hstarted hstate =>
    refine .unresolved ?_ (.inl ⟨hleased, hstarted⟩) rfl (.inl rfl)
    rw [Record.isUnresolved]
    dsimp only
    rw [hstate]
    split <;> rfl
  | settle _ _ _ _ _ _ _ _ _ hfence =>
    exact settle_fate hfence
  | reconcilePending decision now =>
    obtain hstate | ⟨hstarted, hstate | ⟨hstate, hretry⟩⟩ := reconcilePending_state row decision now
    · exact .settled (.inl hstate)
    · exact .settled (.inr (by rw [hstate]; rfl))
    · exact .reconcile hstate hstarted hretry
  | confirmDelivery => exact .settled (.inl rfl)
  | confirmAbsent => exact .settled (.inr rfl)
  | escalate reason now hstate => exact .unresolved rfl (.inr (.inl hstate)) rfl (.inl rfl)
  | ready _ waitUntil reason now _ hsend =>
    obtain hstate | hstate | ⟨hstate, hretry⟩ := freshened_state row waitUntil reason now hsend
    · exact .settled (.inl hstate)
    · exact .settled (.inr (by rw [Record.clearDispatch]; dsimp only; rw [hstate]; rfl))
    · exact .reconcile hstate rfl hretry
  | resume => exact .settled (.inr rfl)
  | supersede => exact .settled (.inl rfl)

theorem Fate.pastMark (h : Fate clock row row') (hpast : row'.PastMark) :
    row.PastMark ∧ row'.dispatchStartedAt = row.dispatchStartedAt := by
  have hnone : row'.dispatchStartedAt = none → row'.dispatchStartedAt.isSome ≠ true := by
    intro hnone
    rw [hnone]
    exact Bool.false_ne_true
  cases h with
  | claimed hstate hstarted =>
    obtain ⟨-, hsome⟩ | hother | hother | ⟨hother, -⟩ := hpast
    · exact absurd hsome (hnone hstarted)
    all_goals rw [hstate] at hother; cases hother
  | settled hstate =>
    obtain ⟨hother, -⟩ | hother | hother | ⟨hother, -⟩ := hpast
    all_goals rw [hother] at hstate; obtain h | h := hstate <;> cases h
  | reconcile hstate hstarted =>
    obtain ⟨hother, -⟩ | hother | hother | ⟨-, hsome⟩ := hpast
    case inr.inr.inr => exact absurd hsome (hnone hstarted)
    all_goals rw [hstate] at hother; cases hother
  | unresolved hstate hpast hstarted => exact ⟨hpast, hstarted⟩

end RowChange

theorem Fate.waited {row row' : Record} (h : Fate clock row row')
    (hwaited : row.state = .leased ∨ row.isUnresolved = true → later row.nextRetryAt clock = false)
    (hheld : row'.state = .leased ∨ row'.isUnresolved = true) :
    later row'.nextRetryAt clock = false := by
  cases h with
  | claimed _ _ hretry hover =>
    rw [hretry]
    exact hover
  | settled hstate =>
    unfold Record.isUnresolved at hheld
    cases hcase : row'.state <;>
      simp_all [DeliveryState.isFinal, DeliveryState.isRetryable]
  | reconcile hstate hstarted hretry =>
    rw [hretry]
    rfl
  | unresolved _ hpast _ hretry =>
    obtain hretry | hretry := hretry
    · rw [hretry]
      rfl
    · rw [hretry]
      exact hwaited hpast.held

/-! ## One row past its mark -/

/-- At most one row of a destination is past its mark, and while a mark is under way only the one
being marked. -/
structure DispatchedAlone (q : Queue) : Prop where
  marking : MarkingFenced q
  started : ∀ id row, q.jobs.lookup id = some row → row.PastMark →
    row.dispatchStartedAt.isSome = true
  locked : ∀ marking row, q.marking = some marking → q.jobs.lookup marking.job = some row →
    ∀ other row', other ≠ marking.job → q.jobs.lookup other = some row' →
      row'.destinationKey = row.destinationKey → ¬ row'.PastMark
  alone : ∀ id id' row row', q.jobs.lookup id = some row → q.jobs.lookup id' = some row' →
    row.PastMark → row'.PastMark → row.destinationKey = row'.destinationKey → id = id'

theorem not_blocks_of_gateOpen {q : Queue} {id : Nat} {row row' : Record}
    (hgate : q.gateOpen id row now = true) (hne : other ≠ id)
    (hfound : q.jobs.lookup other = some row') : row'.blocks row now = false := by
  simp only [Queue.gateOpen, Queue.isBlocked, Bool.and_eq_true, Bool.not_eq_true'] at hgate
  have hentry : (⟨other, row'⟩ : Sigma fun _ : Nat => Record) ∈ q.jobs.entries :=
    List.of_mem_dlookup hfound
  have hrow := List.any_eq_false.mp hgate.2 _ hentry
  simpa [hne] using hrow

theorem holdsDestination_of_gateOpen {q : Queue} {id : Nat} {row row' : Record}
    (hgate : q.gateOpen id row now = true) (hne : other ≠ id)
    (hfound : q.jobs.lookup other = some row')
    (hdestination : row'.destinationKey = row.destinationKey) :
    row'.holdsDestination now = false := by
  have hblocks := not_blocks_of_gateOpen hgate hne hfound
  simp only [Record.blocks, hdestination, Bool.or_eq_false_iff, decide_true, Bool.true_and]
    at hblocks
  exact hblocks.1.1.1

theorem Record.PastMark.holdsDestination {row : Record} (h : row.PastMark)
    (hstarted : row.dispatchStartedAt.isSome = true) (now : Int) :
    row.holdsDestination now = true := by
  unfold Record.holdsDestination
  obtain hstate | hstate := h.held
  · simp [hstate, hstarted]
  · simp [hstate, hstarted]

section Alone

variable {late : Bool} {q q' : Queue}

theorem DispatchedAlone.insert (hq : DispatchedAlone q) {id : Nat} {row' : Record}
    (history : List Event) (hmarking : MarkingFenced
      { q with jobs := q.jobs.insert id row', history := history })
    (hfree : ∀ marking, q.marking = some marking → marking.job ≠ id)
    (hpast : row'.PastMark → row'.dispatchStartedAt.isSome = true ∧ ∃ row,
      q.jobs.lookup id = some row ∧ row.PastMark ∧ row.destinationKey = row'.destinationKey) :
    DispatchedAlone { q with jobs := q.jobs.insert id row', history := history } := by
  -- whatever is past its mark now was so before, under the same destination
  have hbefore : ∀ other new, (q.jobs.insert id row').lookup other = some new → new.PastMark →
      ∃ old, q.jobs.lookup other = some old ∧ old.PastMark ∧
        old.destinationKey = new.destinationKey := by
    intro other new hnew hmarked
    rw [lookup_insert] at hnew
    by_cases hsame : other = id
    · subst hsame
      rw [if_pos rfl] at hnew
      cases hnew
      exact (hpast hmarked).2
    · rw [if_neg hsame] at hnew
      exact ⟨new, hnew, hmarked, rfl⟩
  constructor
  case marking => exact hmarking
  case started =>
    intro other new hnew hmarked
    rw [lookup_insert] at hnew
    by_cases hsame : other = id
    · rw [if_pos hsame] at hnew
      cases hnew
      exact (hpast hmarked).1
    · rw [if_neg hsame] at hnew
      exact hq.started other new hnew hmarked
  case locked =>
    intro marking locked hlocking hlocked other new hne hnew hdestination hmarked
    obtain ⟨old, hold, holdMarked, hkept⟩ := hbefore other new hnew hmarked
    have hjob : q.jobs.lookup marking.job = some locked := by
      rwa [lookup_insert, if_neg (hfree marking hlocking)] at hlocked
    exact hq.locked marking locked hlocking hjob other old hne hold (hkept.trans hdestination)
      holdMarked
  case alone =>
    intro first second row row'' hfirst hsecond hmarked hmarked' hdestination
    obtain ⟨old, hold, holdMarked, hkept⟩ := hbefore first row hfirst hmarked
    obtain ⟨old', hold', holdMarked', hkept'⟩ := hbefore second row'' hsecond hmarked'
    exact hq.alone first second old old' hold hold' holdMarked holdMarked'
      (hkept.trans (hdestination.trans hkept'.symm))

theorem DispatchedAlone.gate (hq : DispatchedAlone q) {id : Nat} {row row' : Record}
    (hgate : q.gateOpen id row now = true) (hne : other ≠ id)
    (hfound : q.jobs.lookup other = some row')
    (hdestination : row'.destinationKey = row.destinationKey) : ¬ row'.PastMark := by
  intro hmarked
  have hheld := hmarked.holdsDestination (hq.started other row' hfound hmarked) now
  rw [holdsDestination_of_gateOpen hgate hne hfound hdestination] at hheld
  cases hheld

theorem dispatchedAlone_micro (hq : DispatchedAlone q) (h : Micro late q q') :
    DispatchedAlone q' := by
  have hmarkingFenced := markingFenced_micro hq.marking h
  cases h with
  | enqueue _ _ hfresh hstate =>
    refine hq.insert q.history hmarkingFenced ?_ ?_
    · rintro marking hmarking rfl
      obtain ⟨locked, hlocked, -⟩ := hq.marking marking hmarking
      rw [hfresh] at hlocked
      cases hlocked
    · rintro (⟨hother, -⟩ | hother | hother | ⟨hother, -⟩) <;> rw [hstate] at hother <;> cases hother
  | row id row _ events hfree hfound hchange =>
    refine hq.insert (events ++ q.history) hmarkingFenced ?_ ?_
    · intro marking hmarking
      simpa [Queue.rowFree, hmarking] using hfree
    · intro hmarked
      obtain ⟨hpast, hstarted⟩ := hchange.fate.pastMark hmarked
      refine ⟨?_, row, hfound, hpast, hchange.kept.1.symm⟩
      rw [hstarted]
      exact hq.started id row hfound hpast
  | beginMark _ row _ _ _ _ _ hfound _ _ hgate =>
    refine ⟨hmarkingFenced, hq.started, ?_, hq.alone⟩
    intro marking locked hlocking hlocked other row' hne hother hdestination
    cases hlocking
    have hsame : row = locked := Option.some.inj (hfound.symm.trans hlocked)
    subst hsame
    exact hq.gate hgate hne hother hdestination
  | finishMark marking row probe hmarking hfound hlease =>
    rw [finishMark_eq hmarking hfound hlease] at hmarkingFenced ⊢
    have hlocked := hq.locked marking row hmarking hfound
    have hother : ∀ {other new}, other ≠ marking.job →
        (q.jobs.insert marking.job (row.dispatched (max marking.sampledAt q.clock) probe)).lookup
          other = some new → q.jobs.lookup other = some new := by
      intro other new hne hnew
      rwa [lookup_insert, if_neg hne] at hnew
    have hself : ∀ {new}, (q.jobs.insert marking.job
        (row.dispatched (max marking.sampledAt q.clock) probe)).lookup marking.job = some new →
        new.destinationKey = row.destinationKey ∧ new.dispatchStartedAt.isSome = true := by
      intro new hnew
      rw [lookup_insert, if_pos rfl] at hnew
      cases hnew
      exact ⟨rfl, rfl⟩
    constructor
    case marking => exact hmarkingFenced
    case started =>
      intro id new hnew hmarked
      by_cases hsame : id = marking.job
      · subst hsame
        exact (hself hnew).2
      · exact hq.started id new (hother hsame hnew) hmarked
    case locked =>
      intro marking' locked hnone
      cases hnone
    case alone =>
      intro id id' new new' hnew hnew' hmarked hmarked' hdestination
      by_cases hsame : id = marking.job
      · by_cases hsame' : id' = marking.job
        · exact hsame.trans hsame'.symm
        · subst hsame
          have hkey := (hself hnew).1
          exact absurd hmarked' (hlocked id' new' hsame' (hother hsame' hnew')
            (hdestination.symm.trans hkey))
      · by_cases hsame' : id' = marking.job
        · subst hsame'
          have hkey := (hself hnew').1
          exact absurd hmarked (hlocked id new hsame (hother hsame hnew)
            (hdestination.trans hkey))
        · exact hq.alone id id' new new' (hother hsame hnew) (hother hsame' hnew') hmarked hmarked'
            hdestination
  | abandonMark =>
    refine ⟨hmarkingFenced, hq.started, ?_, hq.alone⟩
    intro marking locked hnone
    cases hnone
  | _ => exact ⟨hmarkingFenced, hq.started, hq.locked, hq.alone⟩

end Alone

/-! ## Rate limits -/

/-- Whenever a job was marked, every rate limit its destination had got before was over. -/
def LimitsKept (history : List Event) : Prop :=
  ∀ job token method destination at_ earlier,
    .marked job token method destination at_ :: earlier <:+ history →
    ∀ limited until_, .rateLimited limited destination (some until_) ∈ earlier → until_ ≤ at_

structure Record.WaitsOut (row : Record) (destination : String) (until_ : Int) : Prop where
  destinationKey : row.destinationKey = destination
  state : row.state = .pendingRetry
  outcomeReason : row.outcomeReason = some "telegram_rate_limited"
  nextRetryAt : row.nextRetryAt = some until_
  dispatchStartedAt : row.dispatchStartedAt.isSome = true

/-- A rate limit is over or its row waits it out, rows in flight have no retry time ahead, and while
a mark is under way the limits of its destination are over. -/
structure LimitsGuarded (q : Queue) : Prop where
  marking : MarkingFenced q
  waited : ∀ id row, q.jobs.lookup id = some row → row.state = .leased ∨ row.isUnresolved = true →
    later row.nextRetryAt q.clock = false
  limits : ∀ job destination until_, .rateLimited job destination (some until_) ∈ q.history →
    until_ ≤ q.clock ∨
      ∃ row, q.jobs.lookup job = some row ∧ row.WaitsOut destination until_
  locked : ∀ marking row, q.marking = some marking → q.jobs.lookup marking.job = some row →
    ∀ job until_, .rateLimited job row.destinationKey (some until_) ∈ q.history → until_ ≤ q.clock
  kept : LimitsKept q.history

theorem le_of_later_false {value : Int} (h : later (some value) clock = false) :
    value ≤ clock := by
  simpa [later] using h

section RowChange

variable {late : Bool} {q : Queue} {id : Nat} {row row' : Record} {events : List Event}

theorem RowChange.waitsOut (h : RowChange late q id row row' events) {destination : String}
    {until_ : Int} (hwaits : row.WaitsOut destination until_) : until_ ≤ q.clock := by
  have hretry := hwaits.nextRetryAt
  have hstate := hwaits.state
  have hover : ∀ now, now ≤ q.clock → later row.nextRetryAt now = false → until_ ≤ q.clock := by
    intro now hnow hlater
    rw [hretry] at hlater
    exact le_of_later_false (later_mono hnow hlater)
  have hstarted : row.dispatchStartedAt ≠ none := fun hnone => by
    have hsome := hwaits.dispatchStartedAt
    rw [hnone] at hsome
    cases hsome
  cases h with
  | claim _ _ _ now hnow hclaim =>
    simp only [Queue.isClaimable, Bool.and_eq_true, Bool.not_eq_true'] at hclaim
    exact hover now hnow hclaim.1.1.2
  | freshness _ _ _ _ _ _ _ hlease =>
    rw [Record.hasLease_state hlease] at hstate
    cases hstate
  | giveBack _ _ _ _ _ hleased =>
    rw [hleased] at hstate
    cases hstate
  | expired _ _ _ hleased =>
    rw [hleased] at hstate
    cases hstate
  | settle _ _ _ _ _ _ _ _ _ hfence =>
    obtain ⟨-, -, hheld⟩ := fence_open hfence
    rw [Record.isUnresolved, hstate] at hheld
    obtain hheld | hheld := hheld <;> cases hheld
  | reconcilePending decision now hpending =>
    rw [hpending] at hstate
    cases hstate
  | confirmDelivery messageId now hambiguous =>
    rw [hstate] at hambiguous
    obtain h | h := hambiguous <;> cases h
  | confirmAbsent reason now hambiguous =>
    rw [hstate] at hambiguous
    obtain h | h := hambiguous <;> cases h
  | escalate reason now hambiguous =>
    rw [hambiguous] at hstate
    cases hstate
  | ready _ _ _ now hnow _ _ hlater => exact hover now hnow hlater
  | resume _ _ _ hblocked =>
    rw [hstate] at hblocked
    simp at hblocked
  | supersede now hready hunstarted => exact absurd hunstarted hstarted

theorem RowChange.limited (h : RowChange late q id row row' events)
    (hwaited : row.state = .leased ∨ row.isUnresolved = true →
      later row.nextRetryAt q.clock = false) {job : Nat} {destination : String} {until_ : Int}
    (hlimited : Event.rateLimited job destination (some until_) ∈ events) :
    q.marking = none ∧
      (until_ ≤ q.clock ∨ (job = id ∧ row'.WaitsOut destination until_)) := by
  cases h with
  | settle _ _ result policy window now linearized _ hmarking hfence =>
    refine ⟨hmarking, ?_⟩
    have hsettled := settled_settle q id row result policy window now linearized
    have hclassifies : Classifies row.toContract result.statusCodeOf
        (applyGatewayResult policy row.toContract result now) :=
      classifies_applyGatewayResult policy result now (fence_not_final hfence)
    obtain ⟨-, hstarted, hheld⟩ := fence_open hfence
    unfold Queue.settleEvents at hlimited
    split at hlimited
    case isFalse => simp at hlimited
    case isTrue hcode =>
      simp only [List.cons_append, List.nil_append, List.mem_cons, Event.rateLimited.injEq,
        reduceCtorEq, List.mem_nil_iff, or_false] at hlimited
      obtain ⟨rfl, hdestination, hretry⟩ := hlimited
      by_cases hreason : (applyGatewayResult policy row.toContract result now).2.reason =
          "telegram_rate_limited"
      · refine .inr ⟨rfl, hdestination.symm, ?_, ?_, hretry.symm, ?_⟩
        · rw [hsettled.state]
          exact (hclassifies.reason hreason).1
        · rw [hsettled.outcomeReason, hreason]
        · rw [hsettled.dispatchStartedAt]
          exact hstarted
      · -- the code did not decide, so the retry time is the one the row was claimed with
        left
        have hkept := hclassifies.limited hcode hreason
        rw [← hsettled.nextRetryAt hreason, ← hretry] at hkept
        obtain hnone | hsame := hkept
        · cases hnone
        · have hover := hwaited hheld
          have hrow : row.nextRetryAt = some until_ := hsame.symm
          rw [hrow] at hover
          exact le_of_later_false hover
  | _ => simp at hlimited

end RowChange

theorem LimitsKept.append {history : List Event} (h : LimitsKept history) (events : List Event)
    (hunmarked : ∀ job token method destination at_,
      Event.marked job token method destination at_ ∉ events) :
    LimitsKept (events ++ history) := by
  intro job token method destination at_ earlier hsuffix
  exact h job token method destination at_ earlier
    (suffix_of_not_mem hsuffix (hunmarked job token method destination at_))

section Limits

variable {late : Bool} {q q' : Queue}

theorem LimitsGuarded.gate (hq : LimitsGuarded q) {id job : Nat} {row : Record} {until_ : Int}
    (hnow : now ≤ q.clock) (hfound : q.jobs.lookup id = some row) (hleased : row.state = .leased)
    (hgate : q.gateOpen id row now = true)
    (hlimit : .rateLimited job row.destinationKey (some until_) ∈ q.history) :
    until_ ≤ q.clock := by
  obtain hover | ⟨waiting, hwaiting, hwaits⟩ := hq.limits job row.destinationKey until_ hlimit
  · exact hover
  · have hne : job ≠ id := by
      rintro rfl
      rw [hfound] at hwaiting
      cases hwaiting
      rw [hwaits.state] at hleased
      cases hleased
    have hheld := holdsDestination_of_gateOpen hgate hne hwaiting hwaits.destinationKey
    simp only [Record.holdsDestination, hwaits.state, hwaits.outcomeReason, decide_true,
      Bool.true_and, Bool.or_eq_false_iff] at hheld
    have hover := later_mono hnow hheld.1.2
    rw [hwaits.nextRetryAt] at hover
    exact le_of_later_false hover

theorem LimitsGuarded.advance (hq : LimitsGuarded q) (time : Nat)
    (hmarkingFenced : MarkingFenced { q with clock := q.clock + time }) :
    LimitsGuarded { q with clock := q.clock + time } := by
  have hadvance : q.clock ≤ q.clock + time := by omega
  constructor
  case marking => exact hmarkingFenced
  case waited =>
    intro id row hfound hheld
    exact later_mono hadvance (hq.waited id row hfound hheld)
  case limits =>
    intro job destination until_ hlimit
    exact (hq.limits job destination until_ hlimit).imp_left fun hover => Int.le_trans hover hadvance
  case locked =>
    intro marking row hmarking hfound job until_ hlimit
    exact Int.le_trans (hq.locked marking row hmarking hfound job until_ hlimit) hadvance
  case kept => exact hq.kept

theorem LimitsGuarded.enqueue (hq : LimitsGuarded q) {id : Nat} {row : Record}
    (hfresh : q.jobs.lookup id = none) (hstate : row.state = .pending)
    (hmarkingFenced : MarkingFenced { q with jobs := q.jobs.insert id row }) :
    LimitsGuarded { q with jobs := q.jobs.insert id row } := by
  have hother : ∀ other old, q.jobs.lookup other = some old →
      (q.jobs.insert id row).lookup other = some old := by
    intro other old hold
    have hne : other ≠ id := by
      rintro rfl
      rw [hfresh] at hold
      cases hold
    rw [lookup_insert, if_neg hne]
    exact hold
  constructor
  case marking => exact hmarkingFenced
  case waited =>
    intro other new hnew hheld
    rw [lookup_insert] at hnew
    by_cases hsame : other = id
    · rw [if_pos hsame] at hnew
      cases hnew
      rw [Record.isUnresolved, hstate] at hheld
      obtain hheld | hheld := hheld <;> cases hheld
    · rw [if_neg hsame] at hnew
      exact hq.waited other new hnew hheld
  case limits =>
    intro job destination until_ hlimit
    obtain hover | ⟨waiting, hwaiting, hwaits⟩ := hq.limits job destination until_ hlimit
    · exact .inl hover
    · exact .inr ⟨waiting, hother job waiting hwaiting, hwaits⟩
  case locked =>
    intro marking locked hmarking hlocked
    obtain ⟨row', hfound, -⟩ := hq.marking marking hmarking
    have hsame : row' = locked :=
      Option.some.inj ((hother marking.job row' hfound).symm.trans hlocked)
    exact hsame ▸ hq.locked marking row' hmarking hfound
  case kept => exact hq.kept

theorem LimitsGuarded.row (hq : LimitsGuarded q) {id : Nat} {row row' : Record}
    {events : List Event} (hfree : q.rowFree id = true) (hfound : q.jobs.lookup id = some row)
    (hchange : RowChange late q id row row' events) (hmarkingFenced : MarkingFenced
      { q with jobs := q.jobs.insert id row', history := events ++ q.history }) :
    LimitsGuarded { q with jobs := q.jobs.insert id row', history := events ++ q.history } := by
  have hwaited := hq.waited id row hfound
  constructor
  case marking => exact hmarkingFenced
  case waited =>
    intro other new hnew hheld
    rw [lookup_insert] at hnew
    by_cases hsame : other = id
    · rw [if_pos hsame] at hnew
      cases hnew
      exact hchange.fate.waited hwaited hheld
    · rw [if_neg hsame] at hnew
      exact hq.waited other new hnew hheld
  case limits =>
    intro job destination until_ hlimit
    rw [lookup_insert]
    obtain hnew | hold := List.mem_append.mp hlimit
    · obtain ⟨-, hover | ⟨rfl, hwaits⟩⟩ := hchange.limited hwaited hnew
      · exact .inl hover
      · exact .inr ⟨row', if_pos rfl, hwaits⟩
    · obtain hover | ⟨waiting, hwaiting, hwaits⟩ := hq.limits job destination until_ hold
      · exact .inl hover
      · by_cases hsame : job = id
        · subst hsame
          rw [hfound] at hwaiting
          cases hwaiting
          exact .inl (hchange.waitsOut hwaits)
        · exact .inr ⟨waiting, (if_neg hsame).trans hwaiting, hwaits⟩
  case locked =>
    intro marking locked hmarking hlocked job until_ hlimit
    have hlocking : q.marking = some marking := hmarking
    have hne : marking.job ≠ id := by simpa [Queue.rowFree, hlocking] using hfree
    rw [lookup_insert, if_neg hne] at hlocked
    obtain hnew | hold := List.mem_append.mp hlimit
    · -- no answer is applied while a mark is under way
      have hidle := (hchange.limited hwaited hnew).1
      rw [hlocking] at hidle
      cases hidle
    · exact hq.locked marking locked hlocking hlocked job until_ hold
  case kept => exact hq.kept.append events hchange.unmarked

theorem LimitsGuarded.finishMark (hq : LimitsGuarded q) {marking : Marking} {row : Record}
    {probe : Bool} (hmarking : q.marking = some marking)
    (hfound : q.jobs.lookup marking.job = some row) (hlease : later row.leaseUntil q.clock = true)
    (hmarkingFenced : MarkingFenced (q.finishMark probe)) : LimitsGuarded (q.finishMark probe) := by
  have hover := hq.locked marking row hmarking hfound
  obtain ⟨locked, hlocked, hfence, -⟩ := hq.marking marking hmarking
  rw [hfound] at hlocked
  cases hlocked
  rw [finishMark_eq hmarking hfound hlease] at hmarkingFenced ⊢
  constructor
  case marking => exact hmarkingFenced
  case waited =>
    intro other new hnew hheld
    rw [lookup_insert] at hnew
    by_cases hsame : other = marking.job
    · rw [if_pos hsame] at hnew
      cases hnew
      exact hq.waited marking.job row hfound (.inl (Record.hasLease_state hfence))
    · rw [if_neg hsame] at hnew
      exact hq.waited other new hnew hheld
  case limits =>
    intro job destination until_ hlimit
    have hold : Event.rateLimited job destination (some until_) ∈ q.history := by
      simpa using hlimit
    obtain hpassed | ⟨waiting, hwaiting, hwaits⟩ := hq.limits job destination until_ hold
    · exact .inl hpassed
    · have hne : job ≠ marking.job := by
        rintro rfl
        rw [hfound] at hwaiting
        cases hwaiting
        have hleased := Record.hasLease_state hfence
        rw [hwaits.state] at hleased
        cases hleased
      refine .inr ⟨waiting, ?_, hwaits⟩
      rw [lookup_insert, if_neg hne]
      exact hwaiting
  case locked =>
    intro marking' locked hnone
    cases hnone
  case kept =>
    intro job token method destination at_ earlier hsuffix limited until_ hlimit
    obtain hnew | hold := List.suffix_cons_iff.mp hsuffix
    · cases hnew
      exact Int.le_trans (hover limited until_ hlimit) (Int.le_max_right _ _)
    · exact hq.kept _ _ _ _ _ _ hold limited until_ hlimit

theorem LimitsGuarded.applied (hq : LimitsGuarded q) (key : Nat × Nat) (outcome : Outcome)
    (hmarkingFenced : MarkingFenced { q with
      outcomes := q.outcomes.insert key outcome
      history := .applied key.1 key.2 :: q.history }) :
    LimitsGuarded { q with
      outcomes := q.outcomes.insert key outcome
      history := .applied key.1 key.2 :: q.history } := by
  have hold : ∀ {job destination until_}, Event.rateLimited job destination until_ ∈
      Event.applied key.1 key.2 :: q.history → .rateLimited job destination until_ ∈ q.history := by
    intro job destination until_ hlimit
    simpa using hlimit
  constructor
  case marking => exact hmarkingFenced
  case waited => exact hq.waited
  case limits =>
    intro job destination until_ hlimit
    exact hq.limits job destination until_ (hold hlimit)
  case locked =>
    intro marking row hmarking hfound job until_ hlimit
    exact hq.locked marking row hmarking hfound job until_ (hold hlimit)
  case kept => exact hq.kept.append [_] (by simp)

theorem limitsGuarded_micro (hq : LimitsGuarded q) (h : Micro late q q') : LimitsGuarded q' := by
  have hmarkingFenced := markingFenced_micro hq.marking h
  cases h with
  | advance time => exact hq.advance time hmarkingFenced
  | enqueue _ _ hfresh hstate => exact hq.enqueue hfresh hstate hmarkingFenced
  | row _ row _ _ hfree hfound hchange =>
    exact hq.row hfree hfound hchange hmarkingFenced
  | beginMark _ row _ _ _ hnow _ hfound hlease _ hgate =>
    refine ⟨hmarkingFenced, hq.waited, hq.limits, ?_, hq.kept⟩
    intro marking locked hlocking hlocked job until_ hlimit
    cases hlocking
    have hsame : row = locked := Option.some.inj (hfound.symm.trans hlocked)
    subst hsame
    exact hq.gate hnow hfound (Record.hasLease_state hlease) hgate hlimit
  | finishMark _ _ _ hmarking hfound hlease =>
    exact hq.finishMark hmarking hfound hlease hmarkingFenced
  | abandonMark =>
    refine ⟨hmarkingFenced, hq.waited, hq.limits, ?_, hq.kept⟩
    intro marking locked hnone
    cases hnone
  | applied key => exact hq.applied key _ hmarkingFenced
  | _ => exact ⟨hmarkingFenced, hq.waited, hq.limits, hq.locked, hq.kept⟩

end Limits

theorem dispatchedAlone_empty (clock : Int) : DispatchedAlone { clock } where
  marking := nofun
  started := fun _ _ h => by cases h
  locked := fun _ _ h => by cases h
  alone := fun _ _ _ _ h => by cases h

theorem limitsGuarded_empty (clock : Int) : LimitsGuarded { clock } where
  marking := nofun
  waited := fun _ _ h => by cases h
  limits := nofun
  locked := fun _ _ h => by cases h
  kept := by simp [LimitsKept]

/-- In every run of the queue at most one job of a destination is past its dispatch mark and
unresolved, and no job is marked before the retry time of one that was rate limited there. -/
theorem destination_dispatched_alone (clock : Int) (commands : List Command) :
    (∀ id id' row row', (run Queue.step { clock } commands).jobs.lookup id = some row →
      (run Queue.step { clock } commands).jobs.lookup id' = some row' →
      row.PastMark → row'.PastMark → row.destinationKey = row'.destinationKey → id = id') ∧
      LimitsKept (run Queue.step { clock } commands).history := by
  have hsteps : EachStep Queue.step (fun _ _ _ => True) { clock } commands := eachStep_true _ _ _
  constructor
  · refine (run_invariant ?_ commands _ (dispatchedAlone_empty clock) hsteps).alone
    intro q command hq _
    exact Micros.invariant (fun _ _ => dispatchedAlone_micro) (@step_micros true q command (.inl rfl))
      hq
  · refine (run_invariant ?_ commands _ (limitsGuarded_empty clock) hsteps).kept
    intro q command hq _
    exact Micros.invariant (fun _ _ => limitsGuarded_micro) (@step_micros true q command (.inl rfl))
      hq

end TradingBot.Telegram
