import Mathlib
import TradingBot.Sync.Receive

/-!
# User counters

The counters of a user change by increments and resets (src/core/user_counter_sync.py). A server
keeps a receipt of every event, its own and the other's, and `_apply_user_counter_event`
(src/api/routers/sync.py:2788) replays the other's events against them. Instants are microseconds
since an epoch.

`epochOf` and `periodTotal` say what the counters of a set of events are, in whatever order they are
seen; the code is compared with them.
-/

namespace TradingBot.Sync

open Misc

/-- `USER_COUNTER_FIELDS`. -/
inductive CounterField where
  | tradesCount
  | commoditiesTradedCount
  | channelMessagesCount
  deriving DecidableEq, Repr

instance : Fintype CounterField where
  elems := {.tradesCount, .commoditiesTradedCount, .channelMessagesCount}
  complete := fun field => by cases field <;> decide

def userCounterMaxValue : Int := 2147483647
def userCounterMaxEpoch : Int := 9223372036854775807

inductive CounterEventKind where
  | increment
  | reset
  deriving DecidableEq, Repr

/-- `UserCounterEvent` with the server it comes from. -/
structure UserCounterEvent where
  eventId : String
  sourceServer : Server
  kind : CounterEventKind
  epoch : Int
  deltas : CounterField → Int
  occurredAt : Int
  deriving DecidableEq

inductive ReceiptOutcome where
  | applied
  | excludedPreBoundary
  deriving DecidableEq, Repr

/-- A row of `user_counter_event_receipts` of the user. -/
structure CounterReceipt extends UserCounterEvent where
  eventHash : String
  outcome : ReceiptOutcome
  deriving DecidableEq

structure UserCounters where
  counterEpoch : Int := 1
  counters : CounterField → Int := fun _ => 0
  receipts : List CounterReceipt := []
  deriving DecidableEq

def UserCounters.events (user : UserCounters) : List UserCounterEvent :=
  user.receipts.map (·.toUserCounterEvent)

def lastReset (events : List UserCounterEvent) : Option UserCounterEvent :=
  (events.filter (·.kind = .reset)).foldl
    (List.argAux fun event latest => latest.epoch < event.epoch) none

def epochOf (events : List UserCounterEvent) : Int := ((lastReset events).map (·.epoch)).getD 1

def incrementsFrom (boundary : Option Int) (events : List UserCounterEvent) :
    List UserCounterEvent :=
  events.filter fun event =>
    event.kind = .increment ∧ ∀ instant ∈ boundary, instant ≤ event.occurredAt

def deltaSum (events : List UserCounterEvent) (field : CounterField) : Int :=
  (events.map (·.deltas field)).sum

/-- The sum of the deltas of the increments that are not before the last reset's boundary. -/
def periodTotal (events : List UserCounterEvent) (field : CounterField) : Int :=
  deltaSum (incrementsFrom ((lastReset events).map (·.occurredAt)) events) field

section Receiver

variable (contentHash : UserCounterEvent → String)

/-- `existing_receipt_decision` (sync.py:2847); the receipts are all of the one user. -/
def existingReceiptDecision (user : UserCounters) (event : UserCounterEvent) :
    Option ApplyResult :=
  match user.receipts.find? (·.eventId = event.eventId) with
  | none => none
  | some receipt =>
    if receipt.sourceServer = event.sourceServer ∧ receipt.eventHash = contentHash event then
      some .ignored
    else some .failed

/-- `insert_receipt` (sync.py:2878), after `existing_receipt_decision` has found nothing. -/
def insertReceipt (user : UserCounters) (event : UserCounterEvent) (outcome : ReceiptOutcome) :
    UserCounters :=
  { user with receipts := user.receipts ++ [⟨event, contentHash event, outcome⟩] }

def resetBoundary (user : UserCounters) : Option (Option Int) :=
  match lastReset user.events with
  | none => if user.counterEpoch = 1 then some none else none
  | some reset =>
    if user.counterEpoch ≠ 1 ∧ reset.epoch = user.counterEpoch then some (some reset.occurredAt)
    else none

def incrementFits (user : UserCounters) (event : UserCounterEvent) (field : CounterField) : Bool :=
  event.deltas field = 0 ||
    (0 ≤ event.deltas field && event.deltas field ≤ userCounterMaxValue &&
      0 ≤ user.counters field && user.counters field + event.deltas field ≤ userCounterMaxValue)

/-- The increment branch of `_apply_user_counter_event`. -/
def applyIncrement (user : UserCounters) (boundary : Option Int) (event : UserCounterEvent) :
    UserCounters × ApplyResult :=
  if event.epoch > user.counterEpoch + 1 then (user, .deferred)
  else if ∃ instant ∈ boundary, event.occurredAt < instant then
    (insertReceipt contentHash user event .excludedPreBoundary, .ignored)
  else if ∀ field, incrementFits user event field then
    ({ insertReceipt contentHash user event .applied with
        counters := fun field => user.counters field + event.deltas field }, .ok)
  else (user, .failed)

def addReceipt (rebuilt : CounterField → Int) (event : UserCounterEvent) :
    Option (CounterField → Int) :=
  if ∃ field, rebuilt field + event.deltas field > userCounterMaxValue then none
  else some fun field => rebuilt field + event.deltas field

/-- The reset branch of `_apply_user_counter_event` rebuilds the counters from the new period's
receipts. -/
def applyReset (user : UserCounters) (boundary : Option Int) (event : UserCounterEvent) :
    UserCounters × ApplyResult :=
  if event.epoch ≤ user.counterEpoch then (user, .failed)
  else if event.epoch > user.counterEpoch + 1 then (user, .deferred)
  else if ∃ instant ∈ boundary, event.occurredAt ≤ instant then (user, .failed)
  else
    match (incrementsFrom (some event.occurredAt) user.events).foldlM addReceipt (fun _ => 0) with
    | none => (user, .failed)
    | some rebuilt =>
      ({ insertReceipt contentHash user event .applied with
          counterEpoch := event.epoch, counters := rebuilt }, .ok)

/-- `_apply_user_counter_event` (sync.py:2788) for a user that is there. -/
def applyUserCounterEvent (user : UserCounters) (event : UserCounterEvent) :
    UserCounters × ApplyResult :=
  if event.kind = .reset ∧ event.sourceServer ≠ .iran then (user, .failed)
  else if event.epoch < 1 ∨ userCounterMaxEpoch < event.epoch then (user, .failed)
  else
    match existingReceiptDecision contentHash user event with
    | some decision => (user, decision)
    | none =>
      match resetBoundary user with
      | none => (user, .failed)
      | some boundary =>
        match event.kind with
        | .increment => applyIncrement contentHash user boundary event
        | .reset => applyReset contentHash user boundary event

def deliver (user : UserCounters) (event : UserCounterEvent) : UserCounters :=
  (applyUserCounterEvent contentHash user event).1

end Receiver

/-! ## The last reset and the sums -/

theorem lastReset_eq_argmax (events : List UserCounterEvent) :
    lastReset events = (events.filter (·.kind = .reset)).argmax (·.epoch) := rfl

variable {events events' : List UserCounterEvent} {reset : UserCounterEvent} {field : CounterField}

theorem mem_of_lastReset
    (h : lastReset events = some reset) : reset ∈ events ∧ reset.kind = .reset := by
  have hmem := List.mem_filter.mp (List.argmax_mem h)
  exact ⟨hmem.1, of_decide_eq_true hmem.2⟩

theorem epoch_le_lastReset {event : UserCounterEvent}
    (h : lastReset events = some reset) (hmem : event ∈ events) (hkind : event.kind = .reset) :
    event.epoch ≤ reset.epoch :=
  List.le_of_mem_argmax (List.mem_filter.mpr ⟨hmem, decide_eq_true hkind⟩) h

theorem lastReset_eq_none_iff :
    lastReset events = none ↔ ∀ event ∈ events, event.kind ≠ .reset := by
  rw [lastReset_eq_argmax, List.argmax_eq_none, List.filter_eq_nil_iff]
  simp only [decide_eq_true_eq, ne_eq]

theorem epoch_le_epochOf {event : UserCounterEvent}
    (hmem : event ∈ events) (hkind : event.kind = .reset) : event.epoch ≤ epochOf events := by
  cases hlast : lastReset events with
  | none => exact absurd hkind (lastReset_eq_none_iff.mp hlast event hmem)
  | some reset =>
    simp only [epochOf, hlast, Option.map_some, Option.getD_some]
    exact epoch_le_lastReset hlast hmem hkind

theorem lastReset_append_increment {event : UserCounterEvent}
    (hkind : event.kind = .increment) : lastReset (events ++ [event]) = lastReset events := by
  simp [lastReset, List.filter_append, hkind]

theorem lastReset_append_reset {event : UserCounterEvent}
    (hkind : event.kind = .reset) (hnew : epochOf events < event.epoch) :
    lastReset (events ++ [event]) = some event := by
  have hfilter : (events ++ [event]).filter (·.kind = .reset) =
      events.filter (·.kind = .reset) ++ [event] := by
    simp [List.filter_append, hkind]
  rw [lastReset_eq_argmax, hfilter, List.argmax_concat]
  cases hlast : (events.filter (·.kind = .reset)).argmax (·.epoch) with
  | none => rfl
  | some reset =>
    have hlt : reset.epoch < event.epoch := by
      have hepoch : epochOf events = reset.epoch := by
        simp only [epochOf, lastReset_eq_argmax, hlast, Option.map_some, Option.getD_some]
      omega
    simp [hlt]

theorem lastReset_perm (hperm : events.Perm events')
    (hepochs : ∀ first ∈ events, ∀ second ∈ events, first.kind = .reset → second.kind = .reset →
      first.epoch = second.epoch → first = second) : lastReset events = lastReset events' := by
  cases hlast : lastReset events with
  | none =>
    symm
    rw [lastReset_eq_none_iff] at hlast ⊢
    exact fun event hmem => hlast event (hperm.mem_iff.mpr hmem)
  | some reset =>
    obtain ⟨hmem, hkind⟩ := mem_of_lastReset hlast
    cases hlast' : lastReset events' with
    | none => exact absurd hkind (lastReset_eq_none_iff.mp hlast' reset (hperm.mem_iff.mp hmem))
    | some reset' =>
      obtain ⟨hmem', hkind'⟩ := mem_of_lastReset hlast'
      have hle := epoch_le_lastReset hlast (hperm.mem_iff.mpr hmem') hkind'
      have hge := epoch_le_lastReset hlast' (hperm.mem_iff.mp hmem) hkind
      have hequal := hepochs reset hmem reset' (hperm.mem_iff.mpr hmem') hkind hkind' (by omega)
      rw [hequal]

theorem deltaSum_append (events events' : List UserCounterEvent) (field : CounterField) :
    deltaSum (events ++ events') field = deltaSum events field + deltaSum events' field := by
  simp [deltaSum]

theorem deltaSum_perm (hperm : events.Perm events')
    (field : CounterField) : deltaSum events field = deltaSum events' field :=
  (hperm.map _).sum_eq

theorem deltaSum_nonneg
    (h : ∀ event ∈ events, 0 ≤ event.deltas field) : 0 ≤ deltaSum events field := by
  apply List.sum_nonneg
  intro delta hdelta
  obtain ⟨event, hmem, rfl⟩ := List.mem_map.mp hdelta
  exact h event hmem

theorem deltaSum_le_of_sublist
    (hsub : events.Sublist events') (h : ∀ event ∈ events', 0 ≤ event.deltas field) :
    deltaSum events field ≤ deltaSum events' field := by
  apply List.Sublist.sum_le_sum (hsub.map _)
  intro delta hdelta
  obtain ⟨event, hmem, rfl⟩ := List.mem_map.mp hdelta
  exact h event hmem

theorem incrementsFrom_sublist (boundary : Option Int) (events : List UserCounterEvent) :
    (incrementsFrom boundary events).Sublist (incrementsFrom none events) := by
  apply List.monotone_filter_right
  intro event h
  have h := of_decide_eq_true h
  exact decide_eq_true ⟨h.1, fun _ hmem => by cases hmem⟩

theorem deltaSum_incrementsFrom_le
    (boundary : Option Int) (hnodup : events.Nodup) (hsubset : events ⊆ events')
    (h : ∀ event ∈ events', 0 ≤ event.deltas field) :
    deltaSum (incrementsFrom boundary events) field ≤
      deltaSum (incrementsFrom boundary events') field := by
  obtain ⟨kept, hperm, hsub⟩ := List.subperm_of_subset hnodup hsubset
  calc deltaSum (incrementsFrom boundary events) field
      = deltaSum (incrementsFrom boundary kept) field := (deltaSum_perm (hperm.filter _) field).symm
    _ ≤ deltaSum (incrementsFrom boundary events') field :=
      deltaSum_le_of_sublist (hsub.filter _) fun event hmem => h event (List.mem_filter.mp hmem).1

theorem foldlM_addReceipt {rebuilt : CounterField → Int}
    (hdeltas : ∀ event ∈ events, ∀ field, 0 ≤ event.deltas field)
    (hfits : ∀ field, rebuilt field + deltaSum events field ≤ userCounterMaxValue) :
    events.foldlM addReceipt rebuilt = some fun field => rebuilt field + deltaSum events field := by
  induction events generalizing rebuilt with
  | nil => simp [deltaSum]
  | cons event events ih =>
    have hsum : ∀ field, deltaSum (event :: events) field =
        event.deltas field + deltaSum events field := fun field => by simp [deltaSum]
    have hrest : ∀ other ∈ events, ∀ field, 0 ≤ other.deltas field :=
      fun other hmem => hdeltas other (List.mem_cons_of_mem _ hmem)
    have hadd : addReceipt rebuilt event = some fun field => rebuilt field + event.deltas field := by
      apply if_neg
      rintro ⟨field, hexceeds⟩
      have hnonneg := deltaSum_nonneg fun other hmem => hrest other hmem field
      have hfield := hfits field
      rw [hsum] at hfield
      omega
    rw [List.foldlM_cons, hadd]
    simp only [Option.bind_eq_bind, Option.bind_some]
    rw [ih hrest (fun field => by rw [add_assoc, ← hsum]; exact hfits field)]
    simp only [hsum, add_assoc]

/-! ## One delivery -/

section Delivery

variable {contentHash : UserCounterEvent → String} {user : UserCounters} {event : UserCounterEvent}

/-- Epoch and counters are what the received events amount to. -/
structure UserCounters.Sound (contentHash : UserCounterEvent → String) (user : UserCounters) :
    Prop where
  epoch : user.counterEpoch = epochOf user.events
  counters : ∀ field, user.counters field = periodTotal user.events field
  hashes : ∀ receipt ∈ user.receipts, receipt.eventHash = contentHash receipt.toUserCounterEvent
  deltas : ∀ received ∈ user.events, ∀ field, 0 ≤ received.deltas field
  resets : ∀ received ∈ user.events, received.kind = .reset → 2 ≤ received.epoch

/-- Its identifier is its own, its numbers are in range, and a reset not seen yet is later than
those seen. -/
structure Admissible (user : UserCounters) (event : UserCounterEvent) : Prop where
  identity : ∀ received ∈ user.events, received.eventId = event.eventId → received = event
  source : event.kind = .reset → event.sourceServer = .iran
  epoch : 1 ≤ event.epoch ∧ event.epoch ≤ userCounterMaxEpoch
  deltas : ∀ field, 0 ≤ event.deltas field
  fits : event ∉ user.events → ∀ field,
    deltaSum (incrementsFrom none (user.events ++ [event])) field ≤ userCounterMaxValue
  advances : event.kind = .reset → event ∉ user.events →
    user.counterEpoch < event.epoch ∧
      ∀ reset ∈ lastReset user.events, reset.occurredAt < event.occurredAt

@[simp] theorem insertReceipt_events (outcome : ReceiptOutcome) :
    (insertReceipt contentHash user event outcome).events = user.events ++ [event] := by
  simp [insertReceipt, UserCounters.events]

theorem incrementsFrom_append (boundary : Option Int) (events events' : List UserCounterEvent) :
    incrementsFrom boundary (events ++ events') =
      incrementsFrom boundary events ++ incrementsFrom boundary events' := by
  simp [incrementsFrom]

theorem mem_of_mem_incrementsFrom {boundary : Option Int}
    (h : event ∈ incrementsFrom boundary events) : event ∈ events :=
  (List.mem_filter.mp h).1

theorem existingReceiptDecision_eq (hsound : user.Sound contentHash)
    (hidentity : ∀ received ∈ user.events, received.eventId = event.eventId → received = event) :
    existingReceiptDecision contentHash user event =
      if event ∈ user.events then some .ignored else none := by
  unfold existingReceiptDecision
  cases hfind : user.receipts.find? (·.eventId = event.eventId) with
  | none =>
    have hnone := List.find?_eq_none.mp hfind
    have hnew : event ∉ user.events := by
      intro hmem
      obtain ⟨receipt, hreceipt, hequal⟩ := List.mem_map.mp hmem
      apply hnone receipt hreceipt
      rw [hequal]
      exact decide_eq_true rfl
    rw [if_neg hnew]
  | some receipt =>
    have hreceipt := List.mem_of_find?_eq_some hfind
    have hid : receipt.eventId = event.eventId := by simpa using List.find?_some hfind
    have hmem : receipt.toUserCounterEvent ∈ user.events := List.mem_map.mpr ⟨_, hreceipt, rfl⟩
    have hequal := hidentity _ hmem hid
    have hhash := hsound.hashes receipt hreceipt
    rw [hequal] at hhash hmem
    rw [if_pos hmem]
    exact if_pos ⟨congrArg UserCounterEvent.sourceServer hequal, hhash⟩

theorem resetBoundary_eq (hsound : user.Sound contentHash) :
    resetBoundary user = some ((lastReset user.events).map (·.occurredAt)) := by
  have hepoch := hsound.epoch
  unfold resetBoundary
  cases hlast : lastReset user.events with
  | none =>
    simp only [epochOf, hlast, Option.map_none, Option.getD_none] at hepoch
    exact if_pos hepoch
  | some reset =>
    simp only [epochOf, hlast, Option.map_some, Option.getD_some] at hepoch
    obtain ⟨hmem, hkind⟩ := mem_of_lastReset hlast
    have htwo := hsound.resets reset hmem hkind
    exact if_pos ⟨by omega, hepoch.symm⟩

theorem UserCounters.Sound.one_le_epoch (hsound : user.Sound contentHash) :
    1 ≤ user.counterEpoch := by
  rw [hsound.epoch]
  cases hlast : lastReset user.events with
  | none => simp [epochOf, hlast]
  | some reset =>
    obtain ⟨hmem, hreset⟩ := mem_of_lastReset hlast
    have htwo := hsound.resets reset hmem hreset
    simp only [epochOf, hlast, Option.map_some, Option.getD_some]
    omega

theorem UserCounters.Sound.of_append (hsound : user.Sound contentHash)
    {user' : UserCounters} {outcome : ReceiptOutcome} (hdeltas : ∀ field, 0 ≤ event.deltas field)
    (hreset : event.kind = .reset → user.counterEpoch < event.epoch)
    (hreceipts : user'.receipts = user.receipts ++ [⟨event, contentHash event, outcome⟩])
    (hepoch : user'.counterEpoch = epochOf (user.events ++ [event]))
    (hcounters : ∀ field, user'.counters field = periodTotal (user.events ++ [event]) field) :
    user'.Sound contentHash := by
  have hevents : user'.events = user.events ++ [event] := by
    simp [UserCounters.events, hreceipts]
  refine ⟨hevents ▸ hepoch, hevents ▸ hcounters, ?_, ?_, ?_⟩
  · rw [hreceipts, List.forall_mem_append]
    exact ⟨hsound.hashes, List.forall_mem_singleton.mpr rfl⟩
  · rw [hevents, List.forall_mem_append]
    exact ⟨hsound.deltas, List.forall_mem_singleton.mpr hdeltas⟩
  · rw [hevents, List.forall_mem_append]
    refine ⟨hsound.resets, List.forall_mem_singleton.mpr fun hkind => ?_⟩
    have hgreater := hreset hkind
    have hone := hsound.one_le_epoch
    omega

theorem periodTotal_append_included (hkind : event.kind = .increment)
    (hfrom : ∀ reset ∈ lastReset events, reset.occurredAt ≤ event.occurredAt)
    (field : CounterField) :
    periodTotal (events ++ [event]) field = periodTotal events field + event.deltas field := by
  have hincluded : incrementsFrom ((lastReset events).map (·.occurredAt)) [event] = [event] := by
    apply List.filter_eq_self.mpr
    intro other hother
    rw [List.mem_singleton] at hother
    subst hother
    refine decide_eq_true ⟨hkind, fun instant hinstant => ?_⟩
    obtain ⟨reset, hreset, rfl⟩ := Option.mem_map.mp hinstant
    exact hfrom reset hreset
  rw [periodTotal, lastReset_append_increment hkind, incrementsFrom_append, deltaSum_append,
    hincluded, periodTotal]
  simp [deltaSum]

theorem periodTotal_append_excluded
    (hkind : event.kind = .increment) (hlast : lastReset events = some reset)
    (hbefore : event.occurredAt < reset.occurredAt) (field : CounterField) :
    periodTotal (events ++ [event]) field = periodTotal events field := by
  have hexcluded : incrementsFrom ((lastReset events).map (·.occurredAt)) [event] = [] := by
    apply List.filter_eq_nil_iff.mpr
    intro other hother hincluded
    rw [List.mem_singleton] at hother
    subst hother
    rw [hlast, Option.map_some] at hincluded
    have hle := (of_decide_eq_true hincluded).2 reset.occurredAt rfl
    omega
  rw [periodTotal, lastReset_append_increment hkind, incrementsFrom_append, deltaSum_append,
    hexcluded, periodTotal]
  simp [deltaSum]

theorem periodTotal_append_reset (hkind : event.kind = .reset)
    (hnew : epochOf events < event.epoch) (field : CounterField) :
    periodTotal (events ++ [event]) field =
      deltaSum (incrementsFrom (some event.occurredAt) events) field := by
  have hsingle : incrementsFrom (some event.occurredAt) [event] = [] := by
    simp [incrementsFrom, hkind]
  rw [periodTotal, lastReset_append_reset hkind hnew, Option.map_some, incrementsFrom_append,
    hsingle, List.append_nil]

theorem UserCounters.Sound.counters_bounds (hsound : user.Sound contentHash)
    (field : CounterField) :
    0 ≤ user.counters field ∧
      user.counters field ≤ deltaSum (incrementsFrom none user.events) field := by
  have hdeltas : ∀ received ∈ incrementsFrom none user.events, 0 ≤ received.deltas field :=
    fun received hmem => hsound.deltas received (mem_of_mem_incrementsFrom hmem) field
  have hsub := incrementsFrom_sublist ((lastReset user.events).map (·.occurredAt)) user.events
  rw [hsound.counters field, periodTotal]
  exact ⟨deltaSum_nonneg fun received hmem => hdeltas received (hsub.subset hmem),
    deltaSum_le_of_sublist hsub hdeltas⟩

theorem applyIncrement_spec (hsound : user.Sound contentHash) (hevent : Admissible user event)
    (hnew : event ∉ user.events) (hkind : event.kind = .increment) :
    let outcome := applyIncrement contentHash user ((lastReset user.events).map (·.occurredAt)) event
    (outcome.1 = user ∧ outcome.2 = .deferred) ∨
      (event.epoch ≤ user.counterEpoch + 1 ∧ outcome.1.events = user.events ++ [event] ∧
        outcome.1.Sound contentHash) := by
  have hepoch : user.counterEpoch = epochOf (user.events ++ [event]) := by
    rw [hsound.epoch, epochOf, epochOf, lastReset_append_increment hkind]
  have hreset : event.kind = .reset → user.counterEpoch < event.epoch :=
    fun hwrong => absurd (hkind.symm.trans hwrong) (by decide)
  intro outcome
  have houtcome : outcome = applyIncrement contentHash user
    ((lastReset user.events).map (·.occurredAt)) event := rfl
  unfold applyIncrement at houtcome
  by_cases hahead : event.epoch > user.counterEpoch + 1
  · rw [if_pos hahead] at houtcome
    exact Or.inl (by rw [houtcome]; exact ⟨rfl, rfl⟩)
  · rw [if_neg hahead] at houtcome
    refine Or.inr ⟨by omega, ?_⟩
    by_cases hbefore : ∃ instant ∈ (lastReset user.events).map (·.occurredAt),
        event.occurredAt < instant
    · rw [if_pos hbefore] at houtcome
      obtain ⟨instant, hinstant, hlt⟩ := hbefore
      obtain ⟨reset, hlast, rfl⟩ := Option.mem_map.mp hinstant
      rw [houtcome]
      refine ⟨insertReceipt_events _, hsound.of_append hevent.deltas hreset rfl hepoch ?_⟩
      intro field
      rw [periodTotal_append_excluded hkind hlast hlt]
      exact hsound.counters field
    · rw [if_neg hbefore] at houtcome
      have hfrom : ∀ reset ∈ lastReset user.events, reset.occurredAt ≤ event.occurredAt := by
        intro reset hlast
        by_contra hlt
        exact hbefore ⟨reset.occurredAt, Option.mem_map.mpr ⟨reset, hlast, rfl⟩, by omega⟩
      have hfits : ∀ field, incrementFits user event field = true := by
        intro field
        obtain ⟨hnonneg, hle⟩ := hsound.counters_bounds field
        have hdelta := hevent.deltas field
        have hmax := hevent.fits hnew field
        rw [incrementsFrom_append, deltaSum_append] at hmax
        have hsingle : deltaSum (incrementsFrom none [event]) field = event.deltas field := by
          simp [incrementsFrom, hkind, deltaSum]
        rw [hsingle] at hmax
        simp only [incrementFits, Bool.or_eq_true, decide_eq_true_eq, Bool.and_eq_true]
        refine Or.inr ⟨⟨⟨hdelta, ?_⟩, hnonneg⟩, ?_⟩ <;> omega
      rw [if_pos hfits] at houtcome
      rw [houtcome]
      refine ⟨insertReceipt_events _, hsound.of_append hevent.deltas hreset rfl hepoch ?_⟩
      intro field
      rw [periodTotal_append_included hkind hfrom, ← hsound.counters field]

theorem applyReset_spec (hsound : user.Sound contentHash) (hevent : Admissible user event)
    (hnew : event ∉ user.events) (hkind : event.kind = .reset) :
    let outcome := applyReset contentHash user ((lastReset user.events).map (·.occurredAt)) event
    (outcome.1 = user ∧ outcome.2 = .deferred) ∨
      (event.epoch ≤ user.counterEpoch + 1 ∧ outcome.1.events = user.events ++ [event] ∧
        outcome.1.Sound contentHash) := by
  obtain ⟨hgreater, hadvances⟩ := hevent.advances hkind hnew
  intro outcome
  have houtcome : outcome = applyReset contentHash user
    ((lastReset user.events).map (·.occurredAt)) event := rfl
  unfold applyReset at houtcome
  rw [if_neg (by omega)] at houtcome
  by_cases hahead : event.epoch > user.counterEpoch + 1
  · rw [if_pos hahead] at houtcome
    exact Or.inl (by rw [houtcome]; exact ⟨rfl, rfl⟩)
  · rw [if_neg hahead] at houtcome
    have hboundary : ¬∃ instant ∈ (lastReset user.events).map (·.occurredAt),
        event.occurredAt ≤ instant := by
      rintro ⟨instant, hinstant, hle⟩
      obtain ⟨reset, hreset, rfl⟩ := Option.mem_map.mp hinstant
      have hlt := hadvances reset hreset
      omega
    rw [if_neg hboundary] at houtcome
    -- the rebuilding loop stays within the range of the counters
    have hdeltas : ∀ received ∈ incrementsFrom none user.events, ∀ field,
        0 ≤ received.deltas field :=
      fun received hmem => hsound.deltas received (mem_of_mem_incrementsFrom hmem)
    have hsub := incrementsFrom_sublist (some event.occurredAt) user.events
    have hsingle : ∀ boundary, incrementsFrom boundary [event] = [] := fun boundary => by
      simp [incrementsFrom, hkind]
    have hfits : ∀ field, 0 + deltaSum (incrementsFrom (some event.occurredAt) user.events) field ≤
        userCounterMaxValue := by
      intro field
      have hle := deltaSum_le_of_sublist hsub fun received hmem => hdeltas received hmem field
      have hmax := hevent.fits hnew field
      rw [incrementsFrom_append, hsingle, List.append_nil] at hmax
      rw [zero_add]
      exact Int.le_trans hle hmax
    have hrebuilt := foldlM_addReceipt
      (fun received hmem => hdeltas received (hsub.subset hmem)) hfits
    rw [hrebuilt] at houtcome
    refine Or.inr ⟨by omega, ?_⟩
    rw [houtcome]
    refine ⟨insertReceipt_events _, hsound.of_append hevent.deltas (fun _ => hgreater) rfl ?_ ?_⟩
    · rw [epochOf, lastReset_append_reset hkind (hsound.epoch ▸ hgreater)]
      rfl
    · intro field
      rw [periodTotal_append_reset hkind (hsound.epoch ▸ hgreater)]
      exact zero_add _

/-- A delivery does nothing for an event received or one that has to wait, and else adds it. -/
theorem applyUserCounterEvent_spec (hsound : user.Sound contentHash)
    (hevent : Admissible user event) :
    let outcome := applyUserCounterEvent contentHash user event
    (event ∈ user.events ∧ outcome.1 = user ∧ outcome.2 = .ignored) ∨
    (event ∉ user.events ∧ outcome.1 = user ∧ outcome.2 = .deferred) ∨
    (event ∉ user.events ∧ event.epoch ≤ user.counterEpoch + 1 ∧
      outcome.1.events = user.events ++ [event] ∧ outcome.1.Sound contentHash) := by
  have hsource : ¬(event.kind = .reset ∧ event.sourceServer ≠ .iran) :=
    fun h => h.2 (hevent.source h.1)
  have hrange : ¬(event.epoch < 1 ∨ userCounterMaxEpoch < event.epoch) := by
    have hepoch := hevent.epoch
    omega
  simp only [applyUserCounterEvent, if_neg hsource, if_neg hrange,
    existingReceiptDecision_eq hsound hevent.identity, resetBoundary_eq hsound]
  by_cases hmem : event ∈ user.events
  · rw [if_pos hmem]
    exact Or.inl ⟨hmem, rfl, rfl⟩
  · rw [if_neg hmem]
    refine Or.inr ?_
    cases hkind : event.kind with
    | increment =>
      rcases applyIncrement_spec hsound hevent hmem hkind with ⟨huser, hresult⟩ | hreceived
      · exact Or.inl ⟨hmem, huser, hresult⟩
      · exact Or.inr ⟨hmem, hreceived⟩
    | reset =>
      rcases applyReset_spec hsound hevent hmem hkind with ⟨huser, hresult⟩ | hreceived
      · exact Or.inl ⟨hmem, huser, hresult⟩
      · exact Or.inr ⟨hmem, hreceived⟩

theorem UserCounters.Sound.fresh : UserCounters.Sound contentHash {} where
  epoch := rfl
  counters := fun _ => rfl
  hashes := fun _ h => by cases h
  deltas := fun _ h => by cases h
  resets := fun _ h => by cases h

end Delivery

end TradingBot.Sync
