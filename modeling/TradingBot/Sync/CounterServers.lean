import TradingBot.Sync.CounterDelivery

/-!
# Counters on two servers

Both servers increment the counters of a user, only the Iran server resets them
(src/core/user_counter_sync.py, `_record_local_user_counter_event` in src/core/events.py:156), and
each event is delivered to the other. A local change takes effect at once, whatever its stamp; the
receiver compares stamps with the boundary of the period. The two agree as long as no stamp falls on
the other side of a boundary than its event.
-/

namespace TradingBot.Sync

open Misc

/-- `USER_COUNTER_MAX_FUTURE_SKEW`. -/
def userCounterMaxFutureSkew : Int := 5 * minute

def peer : Server → Server
  | .iran => .foreign
  | .foreign => .iran

section Local

variable (contentHash : UserCounterEvent → String)

/-- Line 98; no result when it raises. -/
def incrementUserCounters (user : UserCounters) (deltas : CounterField → Int) :
    Option (CounterField → Int) :=
  if ∃ field, deltas field < 0 then none
  else if ∃ field, deltas field ≠ 0 ∧ (deltas field > userCounterMaxValue ∨
      user.counters field + deltas field > userCounterMaxValue) then none
  else some fun field => user.counters field + deltas field

/-- A local increment, its `build_user_counter_event` (line 165) and its receipt. -/
def localIncrement (user : UserCounters) (server : Server) (eventId : String) (now : Int)
    (deltas : CounterField → Int) : Option (UserCounters × UserCounterEvent) :=
  match incrementUserCounters user deltas with
  | none => none
  | some counters =>
    if ∀ field, deltas field = 0 then none
    else
      let event : UserCounterEvent :=
        { eventId := eventId, sourceServer := server, kind := .increment,
          epoch := user.counterEpoch, deltas := deltas, occurredAt := now }
      some ({ insertReceipt contentHash user event .applied with counters := counters }, event)

/-- `reset_user_counters_in_memory` (line 125), its event and, unless the history of resets forbids
it, its receipt (events.py:156). -/
def localReset (user : UserCounters) (eventId : String) (now : Int) :
    Option (UserCounters × UserCounterEvent) :=
  if user.counterEpoch ≥ userCounterMaxEpoch then none
  else
    match resetBoundary user with
    | none => none
    | some boundary =>
      if ∃ instant ∈ boundary, now ≤ instant then none
      else
        let event : UserCounterEvent :=
          { eventId := eventId, sourceServer := .iran, kind := .reset,
            epoch := user.counterEpoch + 1, deltas := fun _ => 0, occurredAt := now }
        some ({ insertReceipt contentHash user event .applied with
          counterEpoch := user.counterEpoch + 1, counters := fun _ => 0 }, event)

end Local

/-- The servers, the emitted events, and the events whose delivery to a server did not have to wait. -/
structure CounterServers where
  clock : Server → Int
  user : Server → UserCounters := fun _ => {}
  emitted : List UserCounterEvent := []
  handled : Server → List UserCounterEvent := fun _ => []

inductive CounterOp where
  | tick (server : Server) (amount : Nat)
  | increment (server : Server) (eventId : String) (deltas : CounterField → Int)
  | reset (eventId : String)
  | deliver (event : UserCounterEvent)

section Step

variable (contentHash : UserCounterEvent → String)

def CounterServers.commit (world : CounterServers) (server : Server) :
    Option (UserCounters × UserCounterEvent) → CounterServers
  | none => world
  | some (user, event) =>
    { world with user := Function.update world.user server user,
                 emitted := world.emitted ++ [event] }

/-- An event identifier is a fresh `uuid4`; an event stamped too far in the receiver's future is
rejected (`counter_event_time_is_plausible`). -/
def counterStep (world : CounterServers) : CounterOp → CounterServers
  | .tick server amount =>
    { world with clock := Function.update world.clock server (world.clock server + amount) }
  | .increment server eventId deltas =>
    if eventId ∈ world.emitted.map (·.eventId) then world
    else world.commit server
      (localIncrement contentHash (world.user server) server eventId (world.clock server) deltas)
  | .reset eventId =>
    if eventId ∈ world.emitted.map (·.eventId) then world
    else world.commit .iran
      (localReset contentHash (world.user .iran) eventId (world.clock .iran))
  | .deliver event =>
    let receiver := peer event.sourceServer
    if event ∉ world.emitted then world
    else if event.occurredAt > world.clock receiver + userCounterMaxFutureSkew then world
    else
      let outcome := applyUserCounterEvent contentHash (world.user receiver) event
      { world with
        user := Function.update world.user receiver outcome.1,
        handled := if outcome.2 = .deferred then world.handled
          else Function.update world.handled receiver (event :: world.handled receiver) }

end Step

def ClocksClose (world : CounterServers) : Prop :=
  world.clock .iran ≤ world.clock .foreign + userCounterMaxFutureSkew ∧
    world.clock .foreign ≤ world.clock .iran + userCounterMaxFutureSkew

instance (world : CounterServers) : Decidable (ClocksClose world) :=
  inferInstanceAs (Decidable (_ ∧ _))

/-- An increment is not stamped before the last reset its own server knows of, a reset after every
increment the Iran server has seen, and all increments together stay within the range of a
counter. -/
def Timely (world : CounterServers) : CounterOp → Prop
  | .increment server _ deltas =>
    (∀ reset ∈ lastReset (world.user server).events, reset.occurredAt ≤ world.clock server) ∧
      ∀ field, deltaSum (incrementsFrom none world.emitted) field + deltas field ≤
        userCounterMaxValue
  | .reset _ =>
    ∀ event ∈ (world.user .iran).events, event.kind = .increment →
      event.occurredAt < world.clock .iran
  | _ => True

instance (world : CounterServers) : ∀ op, Decidable (Timely world op)
  | .increment _ _ _ => inferInstanceAs (Decidable (_ ∧ _))
  | .reset _ => inferInstanceAs (Decidable (∀ event ∈ (world.user .iran).events,
      event.kind = .increment → event.occurredAt < world.clock .iran))
  | .tick _ _ => inferInstanceAs (Decidable True)
  | .deliver _ => inferInstanceAs (Decidable True)

/-! ## What local changes do -/

section Proofs

variable {contentHash : UserCounterEvent → String} {world : CounterServers}
  {event : UserCounterEvent} {user user' : UserCounters} {server : Server} {eventId : String}
  {now : Int} {deltas : CounterField → Int}

structure CounterServers.Coherent (contentHash : UserCounterEvent → String)
    (world : CounterServers) : Prop where
  valid : ValidEvents world.emitted
  fits : ∀ field, deltaSum (incrementsFrom none world.emitted) field ≤ userCounterMaxValue
  receiving : ∀ server, Receiving contentHash world.emitted (world.user server)
  own : ∀ event ∈ world.emitted, event ∈ (world.user event.sourceServer).events
  handled : ∀ server, ∀ event ∈ world.handled server, event ∈ (world.user server).events

theorem ValidEvents.append {events : List UserCounterEvent}
    (hvalid : ValidEvents events) (hid : ∀ other ∈ events, other.eventId ≠ event.eventId)
    (hdeltas : ∀ field, 0 ≤ event.deltas field)
    (hepoch : 1 ≤ event.epoch ∧ event.epoch ≤ userCounterMaxEpoch)
    (hsource : event.kind = .reset → event.sourceServer = .iran) (hreset : event.kind = .reset →
      (event.epoch = 2 ∨ ∃ previous ∈ events, previous.kind = .reset ∧
        previous.epoch + 1 = event.epoch) ∧
      ∀ other ∈ events, other.kind = .reset →
        other.epoch < event.epoch ∧ other.occurredAt < event.occurredAt) :
    ValidEvents (events ++ [event]) := by
  have hnew : event ∉ events := fun hmem => hid event hmem rfl
  have hcases : ∀ other ∈ events ++ [event], other ∈ events ∨ other = event := by
    intro other hother
    simpa using hother
  constructor
  · rw [← List.concat_eq_append]
    exact List.Nodup.concat hnew hvalid.nodup
  · intro first hfirst second hsecond hequal
    rcases hcases first hfirst with hold | rfl <;> rcases hcases second hsecond with hold' | rfl
    · exact hvalid.ids first hold second hold' hequal
    · exact absurd hequal (hid first hold)
    · exact absurd hequal.symm (hid second hold')
    · rfl
  · rw [List.forall_mem_append]
    exact ⟨hvalid.deltas, List.forall_mem_singleton.mpr hdeltas⟩
  · rw [List.forall_mem_append]
    exact ⟨hvalid.epochs, List.forall_mem_singleton.mpr hepoch⟩
  · rw [List.forall_mem_append]
    exact ⟨hvalid.source, List.forall_mem_singleton.mpr hsource⟩
  · intro other hother hkind
    rcases hcases other hother with hold | rfl
    · rcases hvalid.consecutive other hold hkind with htwo | ⟨previous, hprevious, hnext⟩
      · exact Or.inl htwo
      · exact Or.inr ⟨previous, List.mem_append_left _ hprevious, hnext⟩
    · rcases (hreset hkind).1 with htwo | ⟨previous, hprevious, hnext⟩
      · exact Or.inl htwo
      · exact Or.inr ⟨previous, List.mem_append_left _ hprevious, hnext⟩
  · intro first hfirst second hsecond hfirstKind hsecondKind hequal
    rcases hcases first hfirst with hold | rfl <;> rcases hcases second hsecond with hold' | rfl
    · exact hvalid.unique first hold second hold' hfirstKind hsecondKind hequal
    · have hlt := ((hreset hsecondKind).2 first hold hfirstKind).1
      omega
    · have hlt := ((hreset hfirstKind).2 second hold' hsecondKind).1
      omega
    · rfl
  · intro first hfirst second hsecond hfirstKind hsecondKind hlt
    rcases hcases first hfirst with hold | rfl <;> rcases hcases second hsecond with hold' | rfl
    · exact hvalid.boundaries first hold second hold' hfirstKind hsecondKind hlt
    · exact ((hreset hsecondKind).2 first hold hfirstKind).2
    · have hgreater := ((hreset hfirstKind).2 second hold' hsecondKind).1
      omega
    · omega

theorem localIncrement_spec (hsound : user.Sound contentHash)
    (hfrom : ∀ reset ∈ lastReset user.events, reset.occurredAt ≤ now)
    (hlocal : localIncrement contentHash user server eventId now deltas = some (user', event)) :
    event = { eventId := eventId, sourceServer := server, kind := .increment,
              epoch := user.counterEpoch, deltas := deltas, occurredAt := now } ∧
      (∀ field, 0 ≤ deltas field) ∧ user'.events = user.events ++ [event] ∧
      user'.Sound contentHash := by
  unfold localIncrement at hlocal
  cases hadded : incrementUserCounters user deltas with
  | none =>
    rw [hadded] at hlocal
    cases hlocal
  | some counters =>
    simp only [hadded] at hlocal
    split at hlocal
    · cases hlocal
    · simp only [Option.some.injEq, Prod.mk.injEq] at hlocal
      obtain ⟨huser, hevent⟩ := hlocal
      unfold incrementUserCounters at hadded
      split at hadded
      · cases hadded
      · rename_i hnegative
        split at hadded
        · cases hadded
        · have hdeltas : ∀ field, 0 ≤ deltas field := fun field => by
            by_contra hlt
            exact hnegative ⟨field, by omega⟩
          subst hevent huser
          cases hadded
          refine ⟨rfl, hdeltas, insertReceipt_events _, ?_⟩
          refine hsound.of_append hdeltas (fun hwrong => by cases hwrong) rfl ?_ ?_
          · rw [epochOf, lastReset_append_increment rfl, ← epochOf]
            exact hsound.epoch
          · intro field
            rw [periodTotal_append_included rfl hfrom, ← hsound.counters field]

theorem localReset_spec (hsound : user.Sound contentHash)
    (hafter : ∀ received ∈ user.events, received.kind = .increment → received.occurredAt < now)
    (hlocal : localReset contentHash user eventId now = some (user', event)) :
    event = { eventId := eventId, sourceServer := .iran, kind := .reset,
              epoch := user.counterEpoch + 1, deltas := fun _ => 0, occurredAt := now } ∧
      user.counterEpoch < userCounterMaxEpoch ∧
      (∀ reset ∈ lastReset user.events, reset.occurredAt < now) ∧
      user'.events = user.events ++ [event] ∧ user'.Sound contentHash := by
  unfold localReset at hlocal
  split at hlocal
  · cases hlocal
  · rename_i hepoch
    simp only [resetBoundary_eq hsound] at hlocal
    split at hlocal
    · cases hlocal
    · rename_i hboundary
      simp only [Option.some.injEq, Prod.mk.injEq] at hlocal
      obtain ⟨huser, hevent⟩ := hlocal
      have hnext : epochOf user.events < event.epoch := by
        rw [← hsound.epoch, ← hevent]
        exact Int.lt_succ _
      have hempty : incrementsFrom (some now) user.events = [] := by
        apply List.filter_eq_nil_iff.mpr
        intro received hreceived hincluded
        obtain ⟨hkind, hfrom⟩ := of_decide_eq_true hincluded
        have hlt := hafter received hreceived hkind
        have hle := hfrom now rfl
        omega
      subst hevent huser
      refine ⟨rfl, by omega, ?_, insertReceipt_events _, ?_⟩
      · intro reset hreset
        by_contra hle
        exact hboundary ⟨reset.occurredAt, Option.mem_map.mpr ⟨reset, hreset, rfl⟩, by omega⟩
      · refine hsound.of_append (fun _ => Int.le_refl _) (fun _ => Int.lt_succ _) rfl ?_ ?_
        · rw [epochOf, lastReset_append_reset rfl hnext]
          rfl
        · intro field
          rw [periodTotal_append_reset rfl hnext, hempty]
          rfl

namespace CounterServers.Coherent

theorem commit (h : world.Coherent contentHash)
    (hsource : event.sourceServer = server) (hvalid : ValidEvents (world.emitted ++ [event]))
    (hfits : ∀ field, deltaSum (incrementsFrom none (world.emitted ++ [event])) field ≤
      userCounterMaxValue) (hevents : user.events = (world.user server).events ++ [event])
    (hsound : user.Sound contentHash)
    (hahead : event.kind = .reset → ∀ other, (world.user other).counterEpoch < event.epoch) :
    (world.commit server (some (user, event))).Coherent contentHash := by
  subst hsource
  have hnew : event ∉ world.emitted := by
    have hnodup := hvalid.nodup
    rw [← List.concat_eq_append, List.nodup_concat] at hnodup
    exact hnodup.1
  have hreceiving : Receiving contentHash (world.emitted ++ [event]) user := by
    have hold := h.receiving event.sourceServer
    refine ⟨hsound, ?_, ?_, ?_⟩
    · rw [hevents]
      exact List.append_subset.mpr ⟨fun other hother =>
        List.mem_append_left _ (hold.received other hother), List.subset_append_right _ _⟩
    · rw [hevents, ← List.concat_eq_append]
      exact List.Nodup.concat (fun hmem => hnew (hold.received event hmem)) hold.nodup
    · intro other hother hkind hle
      rw [hevents]
      rcases List.mem_append.mp hother with hemitted | hlast
      · refine List.mem_append_left _ ?_
        cases hnow : event.kind with
        | increment =>
          rw [hsound.epoch, hevents, epochOf, lastReset_append_increment hnow, ← epochOf,
            ← hold.sound.epoch] at hle
          exact hold.resets other hemitted hkind hle
        | reset =>
          -- the Iran server has emitted every reset itself
          have hown := h.own other hemitted
          rw [h.valid.source other hemitted hkind] at hown
          rw [hvalid.source event (by simp) hnow]
          exact hown
      · exact List.mem_append_right _ hlast
  constructor
  · exact hvalid
  · exact hfits
  · intro server
    by_cases hserver : server = event.sourceServer
    · subst hserver
      simp only [CounterServers.commit, Function.update_self]
      exact hreceiving
    · simp only [CounterServers.commit, Function.update_of_ne hserver]
      have hold := h.receiving server
      refine ⟨hold.sound, fun other hother => List.mem_append_left _ (hold.received other hother),
        hold.nodup, ?_⟩
      intro other hother hkind hle
      rcases List.mem_append.mp hother with hemitted | hlast
      · exact hold.resets other hemitted hkind hle
      · rw [List.mem_singleton] at hlast
        subst hlast
        have hlt := hahead hkind server
        omega
  · intro other hother
    by_cases hserver : other.sourceServer = event.sourceServer
    · simp only [CounterServers.commit, hserver, Function.update_self]
      rw [hevents]
      rcases List.mem_append.mp hother with hemitted | hlast
      · exact List.mem_append_left _ (hserver ▸ h.own other hemitted)
      · exact List.mem_append_right _ hlast
    · simp only [CounterServers.commit, Function.update_of_ne hserver]
      rcases List.mem_append.mp hother with hemitted | hlast
      · exact h.own other hemitted
      · rw [List.mem_singleton] at hlast
        exact absurd (congrArg UserCounterEvent.sourceServer hlast) hserver
  · intro server other hother
    by_cases hserver : server = event.sourceServer
    · subst hserver
      simp only [CounterServers.commit, Function.update_self]
      rw [hevents]
      exact List.mem_append_left _ (h.handled _ other hother)
    · simp only [CounterServers.commit, Function.update_of_ne hserver]
      exact h.handled server other hother

theorem fresh (clock : Server → Int) :
    CounterServers.Coherent contentHash { clock := clock } := by
  have hvalid : ValidEvents [] :=
    ⟨List.nodup_nil, by simp, by simp, by simp, by simp, by simp, by simp, by simp⟩
  refine ⟨hvalid, ?_, fun _ => .fresh hvalid, by simp, by simp⟩
  intro field
  exact (by decide : (0 : Int) ≤ userCounterMaxValue)

theorem epoch_bounds (h : world.Coherent contentHash) (server : Server) :
    (world.user server).counterEpoch ≤ userCounterMaxEpoch ∧
      (world.user server).counterEpoch ≤ (world.user .iran).counterEpoch := by
  have hreceiving := h.receiving server
  have hiran := (h.receiving .iran).sound
  rw [hreceiving.sound.epoch]
  cases hlast : lastReset (world.user server).events with
  | none =>
    simp only [epochOf, hlast, Option.map_none, Option.getD_none]
    exact ⟨by decide, hiran.one_le_epoch⟩
  | some reset =>
    simp only [epochOf, hlast, Option.map_some, Option.getD_some]
    obtain ⟨hmem, hkind⟩ := mem_of_lastReset hlast
    have hemitted := hreceiving.received reset hmem
    have hown := h.own reset hemitted
    rw [h.valid.source reset hemitted hkind] at hown
    refine ⟨(h.valid.epochs reset hemitted).2, ?_⟩
    rw [hiran.epoch]
    exact epoch_le_epochOf hown hkind

theorem increment (h : world.Coherent contentHash)
    (htimely : Timely world (.increment server eventId deltas)) :
    (counterStep contentHash world (.increment server eventId deltas)).Coherent contentHash := by
  simp only [counterStep]
  by_cases hused : eventId ∈ world.emitted.map (·.eventId)
  · rw [if_pos hused]
    exact h
  · rw [if_neg hused]
    cases hlocal : localIncrement contentHash (world.user server) server eventId
        (world.clock server) deltas with
    | none => exact h
    | some outcome =>
      obtain ⟨user, event⟩ := outcome
      have hsound := (h.receiving server).sound
      obtain ⟨rfl, hdeltas, hevents, hafter⟩ := localIncrement_spec hsound htimely.1 hlocal
      have hid : ∀ other ∈ world.emitted, other.eventId ≠ eventId :=
        fun other hother hequal => hused (List.mem_map.mpr ⟨other, hother, hequal⟩)
      refine h.commit rfl ?_ ?_ hevents hafter (fun hwrong => by cases hwrong)
      · exact h.valid.append hid hdeltas ⟨hsound.one_le_epoch, (h.epoch_bounds server).1⟩
          (fun hwrong => by cases hwrong) (fun hwrong => by cases hwrong)
      · intro field
        rw [incrementsFrom_append, deltaSum_append]
        have hmax := htimely.2 field
        simpa [incrementsFrom, deltaSum] using hmax

theorem reset (h : world.Coherent contentHash) (htimely : Timely world (.reset eventId)) :
    (counterStep contentHash world (.reset eventId)).Coherent contentHash := by
  simp only [counterStep]
  by_cases hused : eventId ∈ world.emitted.map (·.eventId)
  · rw [if_pos hused]
    exact h
  · rw [if_neg hused]
    cases hlocal : localReset contentHash (world.user .iran) eventId (world.clock .iran) with
    | none => exact h
    | some outcome =>
      obtain ⟨user, event⟩ := outcome
      have hiran := h.receiving .iran
      obtain ⟨rfl, hrange, hboundary, hevents, hafter⟩ :=
        localReset_spec hiran.sound htimely hlocal
      have hid : ∀ other ∈ world.emitted, other.eventId ≠ eventId :=
        fun other hother hequal => hused (List.mem_map.mpr ⟨other, hother, hequal⟩)
      have hone := hiran.sound.one_le_epoch
      have hahead : ∀ server, (world.user server).counterEpoch <
          (world.user .iran).counterEpoch + 1 :=
        fun server => Int.lt_add_one_of_le (h.epoch_bounds server).2
      refine h.commit rfl ?_ ?_ hevents hafter (fun _ => hahead)
      · refine h.valid.append hid (fun _ => Int.le_refl _) ⟨?_, ?_⟩ (fun _ => rfl) fun _ => ⟨?_, ?_⟩
        · exact Int.le_add_one hone
        · exact Int.add_one_le_of_lt hrange
        · -- the epoch is 2 or follows that of the last reset
          have hepoch := hiran.sound.epoch
          cases hlast : lastReset (world.user .iran).events with
          | none =>
            simp only [epochOf, hlast, Option.map_none, Option.getD_none] at hepoch
            exact Or.inl (by rw [hepoch]; rfl)
          | some last =>
            simp only [epochOf, hlast, Option.map_some, Option.getD_some] at hepoch
            obtain ⟨hmem, hkind⟩ := mem_of_lastReset hlast
            exact Or.inr ⟨last, hiran.received last hmem, hkind, by rw [hepoch]⟩
        · -- every earlier reset is one of the Iran server's own
          intro other hother hkind
          have hown := h.own other hother
          rw [h.valid.source other hother hkind] at hown
          have hle := epoch_le_epochOf hown hkind
          rw [← hiran.sound.epoch] at hle
          refine ⟨Int.lt_add_one_of_le hle, ?_⟩
          cases hlast : lastReset (world.user .iran).events with
          | none => exact absurd hkind (lastReset_eq_none_iff.mp hlast other hown)
          | some last =>
            obtain ⟨hmem, hlastKind⟩ := mem_of_lastReset hlast
            have hemitted := hiran.received last hmem
            have hbefore := hboundary last hlast
            rcases Int.lt_or_eq_of_le (epoch_le_lastReset hlast hown hkind) with hlt | hequal
            · have hearlier := h.valid.boundaries other hother last hemitted hkind hlastKind hlt
              exact Int.lt_trans hearlier hbefore
            · rw [h.valid.unique other hother last hemitted hkind hlastKind hequal]
              exact hbefore
      · intro field
        rw [incrementsFrom_append, deltaSum_append]
        have hmax := h.fits field
        simpa [incrementsFrom, deltaSum] using hmax

theorem deliver (h : world.Coherent contentHash) (event : UserCounterEvent) :
    (counterStep contentHash world (.deliver event)).Coherent contentHash := by
  simp only [counterStep]
  by_cases hemitted : event ∉ world.emitted
  · rw [if_pos hemitted]
    exact h
  · rw [if_neg hemitted]
    split
    · exact h
    · have hmem := not_not.mp hemitted
      obtain ⟨hnext, hgrows, hreceived⟩ :=
        (h.receiving (peer event.sourceServer)).deliver h.valid h.fits hmem
      have hkeeps : ∀ server, (world.user server).events ⊆
          (Function.update world.user (peer event.sourceServer) (applyUserCounterEvent contentHash
            (world.user (peer event.sourceServer)) event).1 server).events := by
        intro server
        by_cases hserver : server = peer event.sourceServer
        · subst hserver
          rw [Function.update_self]
          exact hgrows
        · rw [Function.update_of_ne hserver]
          exact fun _ hother => hother
      refine ⟨h.valid, h.fits, ?_, fun other hother => hkeeps _ (h.own other hother), ?_⟩
      · intro server
        by_cases hserver : server = peer event.sourceServer
        · subst hserver
          simp only [Function.update_self]
          exact hnext
        · simp only [Function.update_of_ne hserver]
          exact h.receiving server
      · intro server other hother
        split at hother
        · exact hkeeps server (h.handled server other hother)
        · rename_i hsettled
          by_cases hserver : server = peer event.sourceServer
          · subst hserver
            simp only [Function.update_self] at hother
            rcases List.mem_cons.mp hother with rfl | hold
            · simp only [Function.update_self]
              exact hreceived hsettled
            · exact hkeeps _ (h.handled _ other hold)
          · simp only [Function.update_of_ne hserver] at hother
            exact hkeeps server (h.handled server other hother)

theorem step (h : world.Coherent contentHash) (op : CounterOp) (htimely : Timely world op) :
    (counterStep contentHash world op).Coherent contentHash := by
  cases op with
  | tick server amount => exact ⟨h.valid, h.fits, h.receiving, h.own, h.handled⟩
  | increment server eventId deltas => exact h.increment htimely
  | reset eventId => exact h.reset htimely
  | deliver event => exact h.deliver event

end CounterServers.Coherent

end Proofs

/-- In a run of timely changes the servers hold the same counters once every event is delivered. -/
theorem counter_servers_agree (contentHash : UserCounterEvent → String) (clock : Server → Int)
    (ops : List CounterOp)
    (htimely : EachStep (counterStep contentHash) (fun world op _ => Timely world op)
      { clock := clock } ops)
    (hdelivered : ∀ event ∈ (run (counterStep contentHash) { clock := clock } ops).emitted,
      event ∈ (run (counterStep contentHash) { clock := clock } ops).handled
        (peer event.sourceServer)) :
    let world := run (counterStep contentHash) { clock := clock } ops
    (world.user .iran).counterEpoch = (world.user .foreign).counterEpoch ∧
      ∀ field, (world.user .iran).counters field = (world.user .foreign).counters field := by
  intro world
  have hcoherent : world.Coherent contentHash :=
    run_invariant (fun world op h htimely => h.step op htimely) ops _ (.fresh clock) htimely
  have hall : ∀ server, ∀ event ∈ world.emitted, event ∈ (world.user server).events := by
    intro server event hmem
    have hown := hcoherent.own event hmem
    have hother := hcoherent.handled _ event (hdelivered event hmem)
    cases server <;> cases hsource : event.sourceServer <;> rw [hsource] at hown hother
    · exact hown
    · exact hother
    · exact hother
    · exact hown
  obtain ⟨hepoch, hcounters⟩ := (hcoherent.receiving .iran).complete hcoherent.valid (hall .iran)
  obtain ⟨hepoch', hcounters'⟩ :=
    (hcoherent.receiving .foreign).complete hcoherent.valid (hall .foreign)
  exact ⟨hepoch.trans hepoch'.symm, fun field => (hcounters field).trans (hcounters' field).symm⟩

def oneTrade (eventId : String) (epoch occurredAt : Int) : UserCounterEvent :=
  { eventId := eventId, sourceServer := .foreign, kind := .increment, epoch := epoch,
    deltas := fun field => if field = .tradesCount then 1 else 0, occurredAt := occurredAt }

def iranReset (eventId : String) (epoch occurredAt : Int) : UserCounterEvent :=
  { eventId := eventId, sourceServer := .iran, kind := .reset, epoch := epoch,
    deltas := fun _ => 0, occurredAt := occurredAt }

def resetBetweenTrades : List CounterOp :=
  [.increment .foreign "a" (oneTrade "a" 1 0).deltas,
   .deliver (oneTrade "a" 1 (150 * second)),
   .tick .iran (100 * second).toNat,
   .reset "r",
   .deliver (iranReset "r" 2 (200 * second)),
   .tick .foreign (60 * second).toNat,
   .increment .foreign "b" (oneTrade "b" 2 0).deltas,
   .deliver (oneTrade "b" 2 (210 * second))]

def foreignAhead : Server → Int
  | .iran => 100 * second
  | .foreign => 150 * second

theorem resetBetweenTrades_agree :
    let world := run (counterStep UserCounterEvent.eventId) { clock := foreignAhead }
      resetBetweenTrades
    (world.user .iran).counterEpoch = (world.user .foreign).counterEpoch ∧
      ∀ field, (world.user .iran).counters field = (world.user .foreign).counters field := by
  apply counter_servers_agree
  · decide
  · decide

/-- The foreign clock is 100 s behind: the foreign server applies a reset stamped in its future and
counts a trade that the Iran server excludes. -/
def tradeAfterEarlyReset : List CounterOp :=
  [.reset "r",
   .deliver (iranReset "r" 2 (200 * second)),
   .increment .foreign "a" (oneTrade "a" 2 0).deltas,
   .deliver (oneTrade "a" 2 (100 * second))]

def foreignBehind : Server → Int
  | .iran => 200 * second
  | .foreign => 100 * second

theorem tradeAfterEarlyReset_splits :
    let world := run (counterStep UserCounterEvent.eventId) { clock := foreignBehind }
      tradeAfterEarlyReset
    EachStep (counterStep UserCounterEvent.eventId) (fun _ _ after => ClocksClose after)
      { clock := foreignBehind } tradeAfterEarlyReset ∧
    (∀ event ∈ world.emitted, event ∈ world.handled (peer event.sourceServer)) ∧
    (world.user .iran).counters .tradesCount = 0 ∧
    (world.user .foreign).counters .tradesCount = 1 := by
  decide

end TradingBot.Sync
