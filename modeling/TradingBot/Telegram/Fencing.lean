import TradingBot.Telegram.Rows

/-!
# Fencing

The lease token of a job orders its claims, and everything a worker does with a job carries its
token. So for one token there is one dispatch mark and one applied outcome, whoever sends what when;
what comes under an outdated token or from another worker changes nothing.
-/

namespace TradingBot.Telegram

open Misc

def RowsFenced (q q' : Queue) : Prop :=
  ∀ id row, q.jobs.lookup id = some row → ∃ row', q'.jobs.lookup id = some row' ∧
    row.leaseToken ≤ row'.leaseToken ∧ (row.state.isFinal = true → row'.state = row.state)

theorem RowsFenced.refl (q : Queue) : RowsFenced q q :=
  fun _ row hfound => ⟨row, hfound, Nat.le_refl _, fun _ => rfl⟩

theorem RowsFenced.trans {q q' q'' : Queue} (h : RowsFenced q q') (h' : RowsFenced q' q'') :
    RowsFenced q q'' := by
  intro id row hfound
  obtain ⟨row', hfound', htoken, hfinal⟩ := h id row hfound
  obtain ⟨row'', hfound'', htoken', hfinal'⟩ := h' id row' hfound'
  refine ⟨row'', hfound'', Nat.le_trans htoken htoken', ?_⟩
  intro hstate
  have hsame := hfinal hstate
  rw [hfinal' (hsame ▸ hstate), hsame]

variable {id token : Nat} {row row' : Record} {worker : String}

theorem RowsFenced.insert {q q' : Queue}
    (hfound : q.jobs.lookup id = some row) (hjobs : q'.jobs = q.jobs.insert id row')
    (htoken : row.leaseToken ≤ row'.leaseToken)
    (hfinal : row.state.isFinal = true → row'.state = row.state) : RowsFenced q q' := by
  intro other old hold
  rw [hjobs, lookup_insert]
  by_cases hsame : other = id
  · subst hsame
    rw [hfound] at hold
    cases hold
    exact ⟨row', if_pos rfl, htoken, hfinal⟩
  · exact ⟨old, (if_neg hsame).trans hold, Nat.le_refl _, fun _ => rfl⟩

theorem rowsFenced_micro {late : Bool} {q q' : Queue} (h : Micro late q q') : RowsFenced q q' := by
  cases h with
  | enqueue id row hfresh =>
    intro other old hold
    have hne : other ≠ id := by
      rintro rfl
      rw [hfresh] at hold
      cases hold
    refine ⟨old, ?_, Nat.le_refl _, fun _ => rfl⟩
    rw [lookup_insert, if_neg hne]
    exact hold
  | row _ _ _ _ _ hfound hchange =>
    refine RowsFenced.insert hfound rfl ?_ ?_
    · obtain htoken | ⟨htoken, -⟩ := hchange.leaseToken <;> omega
    · intro hfinal
      rw [hchange.not_final] at hfinal
      cases hfinal
  | finishMark _ _ _ hmarking hfound hlease =>
    rw [finishMark_eq hmarking hfound hlease]
    exact RowsFenced.insert hfound rfl (Nat.le_refl _) fun _ => rfl
  | _ => exact RowsFenced.refl q

theorem rowsFenced_micros {late : Bool} {q q' : Queue} (h : Micros late q q') :
    RowsFenced q q' := by
  induction h with
  | refl => exact RowsFenced.refl q
  | tail _ hmicro ih => exact ih.trans (rowsFenced_micro hmicro)

/-! ## One mark and one outcome for each token -/

def Event.markKey : Event → Option (Nat × Nat)
  | marked job token _ _ _ => some (job, token)
  | _ => none

def Event.applyKey : Event → Option (Nat × Nat)
  | applied job token => some (job, token)
  | _ => none

def Queue.marks (q : Queue) : List (Nat × Nat) := q.history.filterMap Event.markKey

def Queue.applications (q : Queue) : List (Nat × Nat) := q.history.filterMap Event.applyKey

structure Fenced (q : Queue) : Prop where
  marking : MarkingFenced q
  markOf : ∀ id token, (id, token) ∈ q.marks → ∃ row, q.jobs.lookup id = some row ∧
    token ≤ row.leaseToken ∧
    (token = row.leaseToken → row.state = .leased → row.dispatchStartedAt.isSome = true)
  marks : q.marks.Nodup
  applicationOf : ∀ key ∈ q.applications, ∃ outcome, q.outcomes.lookup key = some outcome ∧
    outcome.applyState = .applied
  applications : q.applications.Nodup

theorem RowChange.events {late : Bool} {q : Queue} {events : List Event}
    (h : RowChange late q id row row' events) :
    events.filterMap Event.markKey = [] ∧ events.filterMap Event.applyKey = [] := by
  cases h with
  | settle =>
    unfold Queue.settleEvents
    split <;> exact ⟨rfl, rfl⟩
  | _ => exact ⟨rfl, rfl⟩

theorem RowChange.leased {late : Bool} {q : Queue} {events : List Event}
    (h : RowChange late q id row row' events)
    (htoken : row'.leaseToken = row.leaseToken) : row'.state ≠ .leased := by
  intro hleased
  have hfinal : row'.state.isFinal = false := by rw [hleased]; rfl
  cases h with
  | claim => simp at htoken
  | freshness _ _ _ waitUntil reason now hsend =>
    obtain hstate | hstate | ⟨hstate, -⟩ := freshened_state row waitUntil reason now hsend
    · exact absurd hstate (by rw [hfinal]; exact Bool.false_ne_true)
    · rw [hstate] at hleased; cases hleased
    · rw [hstate] at hleased; cases hleased
  | expired state _ _ _ _ hstate =>
    have hexpired : state = .leased := hleased
    rw [hstate] at hexpired
    split at hexpired <;> cases hexpired
  | settle _ _ result policy window now linearized _ _ hfence =>
    have hsettled := settled_settle q id row result policy window now linearized
    have hclassifies : Classifies row.toContract result.statusCodeOf
        (applyGatewayResult policy row.toContract result now) :=
      classifies_applyGatewayResult policy result now (fence_not_final hfence)
    have hstate := hclassifies.state
    rw [← hsettled.state, hleased] at hstate
    obtain hstate | hstate | hstate := hstate <;> cases hstate
  | reconcilePending decision now =>
    obtain hstate | ⟨-, hstate | ⟨hstate, -⟩⟩ := reconcilePending_state row decision now
    · exact absurd hstate (by rw [hfinal]; exact Bool.false_ne_true)
    · rw [hstate] at hleased; cases hleased
    · rw [hstate] at hleased; cases hleased
  | ready decision waitUntil reason now _ hsend =>
    have hfresh : (row.freshened decision waitUntil reason now).state = .leased := hleased
    obtain hstate | hstate | ⟨hstate, -⟩ := freshened_state row waitUntil reason now hsend
    · exact absurd hstate (by rw [hfresh]; exact Bool.false_ne_true)
    · rw [hstate] at hfresh; cases hfresh
    · rw [hstate] at hfresh; cases hfresh
  | _ => cases hleased

section Fenced

variable {late : Bool} {q q' : Queue}

theorem Fenced.markOf_insert (hq : Fenced q)
    (hrow : ∀ token, (id, token) ∈ q.marks → token ≤ row.leaseToken ∧
      (token = row.leaseToken → row.state = .leased → row.dispatchStartedAt.isSome = true)) :
    ∀ other token, (other, token) ∈ q.marks → ∃ row', (q.jobs.insert id row).lookup other = some row' ∧
      token ≤ row'.leaseToken ∧
      (token = row'.leaseToken → row'.state = .leased → row'.dispatchStartedAt.isSome = true) := by
  intro other token hmark
  rw [lookup_insert]
  by_cases hsame : other = id
  · subst hsame
    exact ⟨row, if_pos rfl, hrow token hmark⟩
  · obtain ⟨old, hfound, hold⟩ := hq.markOf other token hmark
    exact ⟨old, (if_neg hsame).trans hfound, hold⟩

theorem Fenced.rowChange (hq : Fenced q) {events : List Event}
    (hfound : q.jobs.lookup id = some row) (hchange : RowChange late q id row row' events) :
    ∀ token, (id, token) ∈ q.marks → token ≤ row'.leaseToken ∧
      (token = row'.leaseToken → row'.state = .leased →
        row'.dispatchStartedAt.isSome = true) := by
  intro token hmark
  obtain ⟨old, hold, htoken, -⟩ := hq.markOf id token hmark
  rw [hfound] at hold
  cases hold
  obtain hkept | ⟨hraised, -⟩ := hchange.leaseToken
  · refine ⟨hkept ▸ htoken, ?_⟩
    intro _ hleased
    exact absurd hleased (hchange.leased hkept)
  · refine ⟨by omega, ?_⟩
    intro hsame
    omega

theorem Fenced.marking_fresh (hq : Fenced q) {marking : Marking}
    (hmarking : q.marking = some marking) : (marking.job, marking.token) ∉ q.marks := by
  intro hmark
  obtain ⟨row, hfound, hlease, hstarted, -⟩ := hq.marking marking hmarking
  obtain ⟨marked, hmarked, -, hdispatch⟩ := hq.markOf _ _ hmark
  rw [hfound] at hmarked
  cases hmarked
  simp only [Record.hasLease, Bool.and_eq_true, decide_eq_true_eq] at hlease
  have hsome := hdispatch hlease.2.symm hlease.1.1
  rw [hstarted] at hsome
  cases hsome

theorem Fenced.applicationOf_insert (hq : Fenced q) {key : Nat × Nat} {outcome : Outcome}
    (hkey : ∀ old, q.outcomes.lookup key = some old → old.applyState = .pending) :
    ∀ other ∈ q.applications, other ≠ key ∧ ∃ outcome',
      (q.outcomes.insert key outcome).lookup other = some outcome' ∧
        outcome'.applyState = .applied := by
  intro other hother
  obtain ⟨applied, hfound, hstate⟩ := hq.applicationOf other hother
  have hne : other ≠ key := by
    rintro rfl
    rw [hkey applied hfound] at hstate
    cases hstate
  refine ⟨hne, applied, ?_, hstate⟩
  rw [lookup_insert, if_neg hne]
  exact hfound

theorem fenced_micro (hq : Fenced q) (h : Micro late q q') : Fenced q' := by
  have hmarkingFenced := markingFenced_micro hq.marking h
  cases h with
  | enqueue id row hfresh =>
    refine ⟨hmarkingFenced, hq.markOf_insert ?_, hq.marks, hq.applicationOf, hq.applications⟩
    intro token hmark
    obtain ⟨old, hold, -⟩ := hq.markOf id token hmark
    rw [hfresh] at hold
    cases hold
  | row _ _ _ events _ hfound hchange =>
    obtain ⟨hmarks, happlied⟩ := hchange.events
    have hmarks' : (events ++ q.history).filterMap Event.markKey = q.marks := by
      rw [List.filterMap_append, hmarks]
      rfl
    have happlications' : (events ++ q.history).filterMap Event.applyKey = q.applications := by
      rw [List.filterMap_append, happlied]
      rfl
    constructor
    case marking => exact hmarkingFenced
    case markOf =>
      unfold Queue.marks
      rw [hmarks']
      exact hq.markOf_insert (hq.rowChange hfound hchange)
    case marks =>
      unfold Queue.marks
      rw [hmarks']
      exact hq.marks
    case applicationOf =>
      unfold Queue.applications
      rw [happlications']
      exact hq.applicationOf
    case applications =>
      unfold Queue.applications
      rw [happlications']
      exact hq.applications
  | finishMark marking _ _ hmarking hfound hlease =>
    have hfresh := hq.marking_fresh hmarking
    obtain ⟨locked, hlocked, hfence, -⟩ := hq.marking marking hmarking
    rw [hfound] at hlocked
    cases hlocked
    simp only [Record.hasLease, Bool.and_eq_true, decide_eq_true_eq] at hfence
    rw [finishMark_eq hmarking hfound hlease] at hmarkingFenced ⊢
    constructor
    case marking => exact hmarkingFenced
    case markOf =>
      intro other token hmark
      obtain hnew | hold := List.mem_cons.mp hmark
      · cases hnew
        exact ⟨_, AList.lookup_insert q.jobs, hfence.2.ge, fun _ _ => rfl⟩
      · refine hq.markOf_insert ?_ other token hold
        intro token hmark
        obtain ⟨old, hold, htoken, -⟩ := hq.markOf _ token hmark
        rw [hfound] at hold
        cases hold
        exact ⟨htoken, fun _ _ => rfl⟩
    case marks => exact List.nodup_cons.mpr ⟨hfresh, hq.marks⟩
    case applicationOf => exact hq.applicationOf
    case applications => exact hq.applications
  | record key outcome hfresh =>
    refine ⟨hmarkingFenced, hq.markOf, hq.marks, ?_, hq.applications⟩
    intro other hother
    refine (hq.applicationOf_insert ?_ other hother).2
    intro old hold
    rw [hfresh] at hold
    cases hold
  | quarantine _ _ hfound hstate =>
    refine ⟨hmarkingFenced, hq.markOf, hq.marks, ?_, hq.applications⟩
    intro other hother
    refine (hq.applicationOf_insert ?_ other hother).2
    intro old hold
    rw [hfound] at hold
    cases hold
    exact hstate
  | applied key outcome hfound hstate =>
    have hpending : ∀ old, q.outcomes.lookup key = some old → old.applyState = .pending := by
      intro old hold
      rw [hfound] at hold
      cases hold
      exact hstate
    constructor
    case marking => exact hmarkingFenced
    case markOf => exact hq.markOf
    case marks => exact hq.marks
    case applicationOf =>
      intro other hother
      obtain hnew | hold := List.mem_cons.mp hother
      · cases hnew
        exact ⟨_, AList.lookup_insert q.outcomes, rfl⟩
      · exact (hq.applicationOf_insert hpending other hold).2
    case applications =>
      refine List.nodup_cons.mpr ⟨?_, hq.applications⟩
      intro hold
      exact (@Fenced.applicationOf_insert q hq key outcome hpending key hold).1 rfl
  | _ => exact ⟨hmarkingFenced, hq.markOf, hq.marks, hq.applicationOf, hq.applications⟩

end Fenced

/-! ## The fence of a command -/

/-- The job of a command, with its worker and lease token: its arguments, those of the mark under
way, or of the recorded outcome. -/
def Command.fence (q : Queue) : Command → Option (Nat × String × Nat)
  | .beginMark id worker token _ | .freshness id worker token _ _ _ | .release id worker token _ _ _
  | .defer id worker token _ _ _ | .record id worker token _ | .resolve id worker token _ _ _ _ =>
    some (id, worker, token)
  | .finishMark _ => q.marking.map fun marking => (marking.job, marking.worker, marking.token)
  | .apply id token _ _ _ =>
    (q.outcomes.lookup (id, token)).map fun outcome => (id, outcome.workerId, token)
  | _ => none

def Record.Outdated (row : Record) (worker : String) (token : Nat) : Prop :=
  row.leaseToken ≠ token ∨ ∃ holder, row.workerId = some holder ∧ holder ≠ worker

theorem Record.Outdated.hasLease
    (h : row.Outdated worker token) : row.hasLease worker token = false := by
  rw [Bool.eq_false_iff]
  intro hlease
  simp only [Record.hasLease, Bool.and_eq_true, decide_eq_true_eq] at hlease
  obtain htoken | ⟨holder, hholder, hne⟩ := h
  · exact htoken hlease.2
  · rw [hlease.1.2] at hholder
    exact hne (Option.some.inj hholder).symm

theorem Record.Outdated.fences (h : row.Outdated worker token) :
    row.normalFence worker token = false ∧ row.recordedFence worker token = false := by
  refine ⟨by rw [Record.normalFence, h.hasLease, Bool.false_and], ?_⟩
  rw [Bool.eq_false_iff]
  intro hfence
  simp only [Record.recordedFence, Bool.and_eq_true, Bool.or_eq_true, decide_eq_true_eq] at hfence
  obtain htoken | ⟨holder, hholder, hne⟩ := h
  · exact htoken hfence.1.1.1
  · obtain hnone | hsome := hfence.1.2
    · rw [hnone] at hholder
      cases hholder
    · rw [hsome] at hholder
      exact hne (Option.some.inj hholder).symm

theorem onRow_jobs {q : Queue}
    {change : Record → Option (Record × List Event)} (hfound : q.jobs.lookup id = some row)
    (hrefused : change row = none) : (q.onRow id change).jobs = q.jobs := by
  unfold Queue.onRow
  split
  · rw [hfound]
    dsimp only
    rw [hrefused]
  · rfl

theorem resolve_outdated {q : Queue}
    {result : GatewayResult} {recorded : Bool} {policy : RetryPolicy} {window now : Int}
    {q' : Queue} (hfound : q.jobs.lookup id = some row) (houtdated : row.Outdated worker token) :
    q.resolveDeliveryResult id worker token result recorded policy window now ≠ .settled q' := by
  intro hsettled
  obtain ⟨settled, -, -, hsame, -, hfence, -⟩ := resolve_settled hsettled
  rw [hfound] at hsame
  cases hsame
  obtain ⟨hnormal, hrecorded⟩ := houtdated.fences
  rw [hnormal, hrecorded] at hfence
  simp at hfence

theorem perform_outdated {q : Queue} (hq : MarkingFenced q) {command : Command}
    (hfence : command.fence q = some (id, worker, token)) (hfound : q.jobs.lookup id = some row)
    (houtdated : row.Outdated worker token) : (q.perform command).jobs = q.jobs := by
  have hlease := houtdated.hasLease
  cases command with
  | beginMark id' worker' token' now =>
    cases hfence
    unfold Queue.perform Queue.beginMark
    dsimp only
    split
    · split <;> rfl
    · rfl
  | finishMark probe =>
    cases hmarking : q.marking with
    | none => simp [Command.fence, hmarking] at hfence
    | some marking =>
      -- the lock of the mark keeps its fence valid until the mark is written
      obtain ⟨locked, hlocked, hheld, -⟩ := hq marking hmarking
      simp only [Command.fence, hmarking, Option.map_some, Option.some.injEq, Prod.mk.injEq]
        at hfence
      obtain ⟨rfl, rfl, rfl⟩ := hfence
      rw [hfound] at hlocked
      cases hlocked
      rw [hlease] at hheld
      cases hheld
  | freshness id' worker' token' decision dependencyRetry now =>
    cases hfence
    exact onRow_jobs hfound (if_neg (by simp [hlease]))
  | release id' worker' token' reason retry now =>
    cases hfence
    exact onRow_jobs hfound (if_neg (by simp [hlease]))
  | defer id' worker' token' reason retry now =>
    cases hfence
    exact onRow_jobs hfound (if_neg (by simp [hlease]))
  | record id' worker' token' result =>
    unfold Queue.perform Queue.recordProviderOutcome
    dsimp only
    split
    · split
      · split <;> rfl
      · rfl
    · rfl
  | apply id' token' policy window now =>
    unfold Queue.perform Queue.applyProviderOutcome
    cases houtcome : q.outcomes.lookup (id', token') with
    | none => simp [Command.fence, houtcome] at hfence
    | some outcome =>
      simp only [Command.fence, houtcome, Option.map_some, Option.some.injEq, Prod.mk.injEq]
        at hfence
      obtain ⟨rfl, rfl, rfl⟩ := hfence
      dsimp only
      rw [houtcome]
      dsimp only
      split
      · rfl
      · split
        · rfl
        · rfl
        · rename_i hsettled
          exact absurd hsettled (resolve_outdated hfound houtdated)
  | resolve id' worker' token' result policy window now =>
    cases hfence
    unfold Queue.perform Queue.resolveDirectly
    dsimp only
    split
    · rename_i hsettled
      exact absurd hsettled (resolve_outdated hfound houtdated)
    · rfl
  | _ => cases hfence

theorem claim_raises (q : Queue) (id : Nat) (lane worker : String) (leaseTime : Nat) (now : Int) :
    q.claim id lane worker leaseTime now = q ∨
      ∃ row row', q.jobs.lookup id = some row ∧
        (q.claim id lane worker leaseTime now).jobs = q.jobs.insert id row' ∧
        row.leaseToken < row'.leaseToken := by
  unfold Queue.claim Queue.onRow
  split
  case isFalse => exact .inl rfl
  case isTrue =>
    cases hfound : q.jobs.lookup id with
    | none => exact .inl rfl
    | some row =>
      dsimp only
      split
      case h_1 row' events hclaimed =>
        split at hclaimed
        case isTrue =>
          cases hclaimed
          exact .inr ⟨row, _, rfl, rfl, Nat.lt_succ_self _⟩
        case isFalse => cases hclaimed
      case h_2 => exact .inl rfl

structure FencedStep (q : Queue) (command : Command) (q' : Queue) : Prop where
  /-- no job is lost, its token does not decrease, and a final state stays -/
  rows : RowsFenced q q'
  /-- a claim takes no job, or raises the token of the job it takes -/
  claim : ∀ id lane worker leaseTime now, command = .claim id lane worker leaseTime now →
    q' = q ∨ ∃ row row', q.jobs.lookup id = some row ∧ q'.jobs = q.jobs.insert id row' ∧
      row.leaseToken < row'.leaseToken
  /-- an outdated worker or token changes no job -/
  outdated : ∀ id worker token row, command.fence q = some (id, worker, token) →
    q.jobs.lookup id = some row → row.Outdated worker token → q'.jobs = q.jobs

theorem fencedStep (q : Queue) (hq : Fenced q) (command : Command) :
    FencedStep q command (q.step command) := by
  constructor
  case rows => exact rowsFenced_micros (@step_micros true q command (.inl rfl))
  case claim =>
    rintro id lane worker leaseTime now rfl
    unfold Queue.step
    split
    · exact .inl rfl
    · exact claim_raises q id lane worker leaseTime now
  case outdated =>
    intro id worker token row hfence hfound houtdated
    unfold Queue.step
    split
    · rfl
    · exact perform_outdated hq.marking hfence hfound houtdated

theorem fenced_step (q : Queue) (command : Command) (hq : Fenced q) : Fenced (q.step command) :=
  Micros.invariant (fun _ _ => fenced_micro) (@step_micros true q command (.inl rfl)) hq

theorem fenced_empty (clock : Int) : Fenced { clock } where
  marking := nofun
  markOf := nofun
  marks := List.nodup_nil
  applicationOf := nofun
  applications := List.nodup_nil

/-- In every run of the queue the lease token of a job never decreases and a claim raises it, a
command under an outdated worker or token changes no job, a final state is never left, and for each
job and token at most one dispatch mark is written and one provider outcome applied. -/
theorem delivery_queue_fenced (clock : Int) (commands : List Command) :
    EachStep Queue.step FencedStep { clock } commands ∧
      (run Queue.step { clock } commands).marks.Nodup ∧
      (run Queue.step { clock } commands).applications.Nodup := by
  have hsteps : EachStep Queue.step (fun _ _ _ => True) { clock } commands := eachStep_true _ _ _
  have hrun : Fenced (run Queue.step { clock } commands) :=
    run_invariant (fun q command hq _ => fenced_step q command hq) commands _ (fenced_empty clock)
      hsteps
  refine ⟨?_, hrun.marks, hrun.applications⟩
  exact eachStep_of_invariant (fun q command hq _ => fenced_step q command hq)
    (fun q command hq _ => fencedStep q hq command) commands _ (fenced_empty clock) hsteps

end TradingBot.Telegram
