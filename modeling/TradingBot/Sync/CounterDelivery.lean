import TradingBot.Sync.Counters

/-!
# Counter events in any order

A receiver without any event gets the events of a user in any order, some more than once, and those
that have to wait again. Its counters end as the events amount to.
-/

namespace TradingBot.Sync

open Misc

variable {contentHash : UserCounterEvent → String} {events : List UserCounterEvent}

/-- Identifiers and reset epochs are unique, deltas are not negative, the resets of the Iran server
have the epochs 2, 3, ... and increasing boundaries. -/
structure ValidEvents (events : List UserCounterEvent) : Prop where
  nodup : events.Nodup
  ids : ∀ first ∈ events, ∀ second ∈ events, first.eventId = second.eventId → first = second
  deltas : ∀ event ∈ events, ∀ field, 0 ≤ event.deltas field
  epochs : ∀ event ∈ events, 1 ≤ event.epoch ∧ event.epoch ≤ userCounterMaxEpoch
  source : ∀ event ∈ events, event.kind = .reset → event.sourceServer = .iran
  consecutive : ∀ event ∈ events, event.kind = .reset →
    event.epoch = 2 ∨ ∃ previous ∈ events, previous.kind = .reset ∧
      previous.epoch + 1 = event.epoch
  unique : ∀ first ∈ events, ∀ second ∈ events, first.kind = .reset → second.kind = .reset →
    first.epoch = second.epoch → first = second
  boundaries : ∀ first ∈ events, ∀ second ∈ events, first.kind = .reset → second.kind = .reset →
    first.epoch < second.epoch → first.occurredAt < second.occurredAt

theorem ValidEvents.two_le_epoch (hvalid : ValidEvents events) {event : UserCounterEvent}
    (hmem : event ∈ events) (hkind : event.kind = .reset) : 2 ≤ event.epoch := by
  rcases hvalid.consecutive event hmem hkind with htwo | ⟨previous, hprevious, -, hnext⟩
  · omega
  · have hone := (hvalid.epochs previous hprevious).1
    omega

/-- It is sound, has received some of the events, each once, and all resets up to its epoch. -/
structure Receiving (contentHash : UserCounterEvent → String) (events : List UserCounterEvent)
    (user : UserCounters) : Prop where
  sound : user.Sound contentHash
  received : ∀ event ∈ user.events, event ∈ events
  nodup : user.events.Nodup
  resets : ∀ event ∈ events, event.kind = .reset → event.epoch ≤ user.counterEpoch →
    event ∈ user.events

namespace Receiving

variable {user : UserCounters} {event : UserCounterEvent}

theorem fresh (hvalid : ValidEvents events) : Receiving contentHash events {} where
  sound := .fresh
  received := fun _ h => by cases h
  nodup := List.nodup_nil
  resets := fun event hmem hkind hle => by
    have htwo := hvalid.two_le_epoch hmem hkind
    have hone : event.epoch ≤ 1 := hle
    omega

theorem admissible (hvalid : ValidEvents events)
    (hfits : ∀ field, deltaSum (incrementsFrom none events) field ≤ userCounterMaxValue)
    (h : Receiving contentHash events user) (hmem : event ∈ events) : Admissible user event where
  identity := fun received hreceived hid =>
    hvalid.ids received (h.received received hreceived) event hmem hid
  source := hvalid.source event hmem
  epoch := hvalid.epochs event hmem
  deltas := hvalid.deltas event hmem
  fits := fun hnew field => by
    -- the events received and the new one are some of the valid events
    have hnodup : (user.events ++ [event]).Nodup := by
      rw [← List.concat_eq_append]
      exact List.Nodup.concat hnew h.nodup
    have hsubset : user.events ++ [event] ⊆ events :=
      List.append_subset.mpr ⟨h.received, List.cons_subset.mpr ⟨hmem, List.nil_subset _⟩⟩
    exact Int.le_trans (deltaSum_incrementsFrom_le none hnodup hsubset
      fun other hother => hvalid.deltas other hother field) (hfits field)
  advances := fun hkind hnew => by
    have hgreater : user.counterEpoch < event.epoch := by
      by_contra hle
      exact hnew (h.resets event hmem hkind (by omega))
    refine ⟨hgreater, fun reset hreset => ?_⟩
    obtain ⟨hreceived, hresetKind⟩ := mem_of_lastReset hreset
    have hle := epoch_le_epochOf hreceived hresetKind
    rw [← h.sound.epoch] at hle
    exact hvalid.boundaries reset (h.received reset hreceived) event hmem hresetKind hkind
      (by omega)

theorem deliver (hvalid : ValidEvents events)
    (hfits : ∀ field, deltaSum (incrementsFrom none events) field ≤ userCounterMaxValue)
    (h : Receiving contentHash events user) (hmem : event ∈ events) :
    Receiving contentHash events (deliver contentHash user event) ∧
      user.events ⊆ (Sync.deliver contentHash user event).events ∧
      ((applyUserCounterEvent contentHash user event).2 ≠ .deferred →
        event ∈ (Sync.deliver contentHash user event).events) := by
  have hadmissible := h.admissible hvalid hfits hmem
  rcases applyUserCounterEvent_spec h.sound hadmissible with
    ⟨hold, huser, -⟩ | ⟨-, huser, hresult⟩ | ⟨hnew, hepoch, hevents, hsound⟩
  · rw [Sync.deliver, huser]
    exact ⟨h, fun _ hother => hother, fun _ => hold⟩
  · rw [Sync.deliver, huser]
    exact ⟨h, fun _ hother => hother, fun hsettled => absurd hresult hsettled⟩
  · rw [Sync.deliver, hevents]
    refine ⟨⟨hsound, ?_, ?_, ?_⟩, List.subset_append_left _ _, fun _ => by simp⟩
    · rw [hevents, List.forall_mem_append]
      exact ⟨h.received, List.forall_mem_singleton.mpr hmem⟩
    · rw [hevents, ← List.concat_eq_append]
      exact List.Nodup.concat hnew h.nodup
    · intro other hother hkind hle
      rw [hevents]
      rw [hsound.epoch, hevents] at hle
      by_cases hknown : other.epoch ≤ user.counterEpoch
      · exact List.mem_append_left _ (h.resets other hother hkind hknown)
      · -- the epoch has moved on, to that of the reset just received
        cases hnow : event.kind with
        | increment =>
          rw [epochOf, lastReset_append_increment hnow, ← epochOf, ← h.sound.epoch] at hle
          exact absurd hle hknown
        | reset =>
          have hgreater := (hadmissible.advances hnow hnew).1
          rw [epochOf, lastReset_append_reset hnow (h.sound.epoch ▸ hgreater)] at hle
          simp only [Option.map_some, Option.getD_some] at hle
          have hequal := hvalid.unique other hother event hmem hkind hnow (by omega)
          rw [hequal]
          simp

theorem run (hvalid : ValidEvents events)
    (hfits : ∀ field, deltaSum (incrementsFrom none events) field ≤ userCounterMaxValue)
    {deliveries : List UserCounterEvent} (hdelivered : ∀ event ∈ deliveries, event ∈ events)
    (h : Receiving contentHash events user) :
    Receiving contentHash events (run (Sync.deliver contentHash) user deliveries) ∧
      user.events ⊆ (Misc.run (Sync.deliver contentHash) user deliveries).events := by
  induction deliveries generalizing user with
  | nil => exact ⟨h, fun _ hother => hother⟩
  | cons event rest ih =>
    obtain ⟨hnext, hgrows, -⟩ := h.deliver hvalid hfits (hdelivered event List.mem_cons_self)
    obtain ⟨hend, hkeeps⟩ := ih (fun other hother =>
      hdelivered other (List.mem_cons_of_mem _ hother)) hnext
    exact ⟨hend, List.Subset.trans hgrows hkeeps⟩

theorem complete (hvalid : ValidEvents events) (h : Receiving contentHash events user)
    (hall : ∀ event ∈ events, event ∈ user.events) :
    user.counterEpoch = epochOf events ∧
      ∀ field, user.counters field = periodTotal events field := by
  have hperm : user.events.Perm events :=
    (List.perm_ext_iff_of_nodup h.nodup hvalid.nodup).mpr
      fun event => ⟨h.received event, hall event⟩
  have hlast : lastReset user.events = lastReset events :=
    lastReset_perm hperm fun first hfirst second hsecond =>
      hvalid.unique first (h.received first hfirst) second (h.received second hsecond)
  constructor
  · rw [h.sound.epoch, epochOf, hlast, epochOf]
  · intro field
    rw [h.sound.counters field, periodTotal, hlast, periodTotal]
    exact deltaSum_perm (hperm.filter _) field

end Receiving

/-- An event is delivered at a moment at which it does not have to wait. -/
def Settled (contentHash : UserCounterEvent → String) (deliveries : List UserCounterEvent)
    (event : UserCounterEvent) : Prop :=
  ∃ before after, deliveries = before ++ event :: after ∧
    (applyUserCounterEvent contentHash (run (deliver contentHash) {} before) event).2 ≠ .deferred

/-- Whatever the order and the repetitions of the deliveries, a receiver ends with the epoch of the
last reset and the sums of the increments from its boundary on. -/
theorem counters_converge (contentHash : UserCounterEvent → String)
    (events deliveries : List UserCounterEvent) (hvalid : ValidEvents events)
    (hfits : ∀ field, deltaSum (incrementsFrom none events) field ≤ userCounterMaxValue)
    (hdelivered : ∀ event ∈ deliveries, event ∈ events)
    (hsettled : ∀ event ∈ events, Settled contentHash deliveries event) :
    (run (deliver contentHash) {} deliveries).counterEpoch = epochOf events ∧
      ∀ field, (run (deliver contentHash) {} deliveries).counters field =
        periodTotal events field := by
  obtain ⟨hend, -⟩ := (Receiving.fresh hvalid).run hvalid hfits hdelivered
  have hall : ∀ event ∈ events, event ∈ (run (deliver contentHash) {} deliveries).events := by
    intro event hmem
    obtain ⟨before, after, hsplit, hresult⟩ := hsettled event hmem
    have hbefore : ∀ other ∈ before, other ∈ events := fun other hother =>
      hdelivered other (by rw [hsplit]; exact List.mem_append_left _ hother)
    have hafter : ∀ other ∈ after, other ∈ events := fun other hother =>
      hdelivered other (by
        rw [hsplit]
        exact List.mem_append_right _ (List.mem_cons_of_mem _ hother))
    obtain ⟨hmiddle, -⟩ := (Receiving.fresh hvalid).run hvalid hfits hbefore
    obtain ⟨hnext, -, hreceived⟩ := hmiddle.deliver hvalid hfits hmem
    obtain ⟨-, hkeeps⟩ := hnext.run hvalid hfits hafter
    rw [hsplit, run, List.foldl_append]
    exact hkeeps (hreceived hresult)
  exact hend.complete hvalid hall

def twoResets : List UserCounterEvent :=
  [{ eventId := "a", sourceServer := .foreign, kind := .increment, epoch := 1,
     deltas := fun _ => 1, occurredAt := 10 },
   { eventId := "b", sourceServer := .iran, kind := .reset, epoch := 2,
     deltas := fun _ => 0, occurredAt := 20 },
   { eventId := "c", sourceServer := .iran, kind := .reset, epoch := 3,
     deltas := fun _ => 0, occurredAt := 30 },
   { eventId := "d", sourceServer := .foreign, kind := .increment, epoch := 3,
     deltas := fun _ => 2, occurredAt := 35 }]

/-- The last two events wait for the first reset; the first increment arrives late, and twice. -/
theorem twoResets_converge :
    let deliveries := twoResets.drop 2 ++ twoResets.tail ++ twoResets.take 1 ++ twoResets.take 1
    (run (deliver UserCounterEvent.eventId) {} deliveries).counterEpoch = 3 ∧
      (run (deliver UserCounterEvent.eventId) {} deliveries).counters .tradesCount = 2 := by
  intro deliveries
  have hvalid : ValidEvents twoResets :=
    ⟨by decide, by decide, by decide, by decide, by decide, by decide, by decide, by decide⟩
  have hsettled : ∀ event ∈ twoResets, Settled UserCounterEvent.eventId deliveries event := by
    intro event hmem
    simp only [twoResets, List.mem_cons, List.not_mem_nil, or_false] at hmem
    rcases hmem with rfl | rfl | rfl | rfl
    · exact ⟨deliveries.take 5, deliveries.drop 6, by decide, by decide⟩
    · exact ⟨deliveries.take 2, deliveries.drop 3, by decide, by decide⟩
    · exact ⟨deliveries.take 3, deliveries.drop 4, by decide, by decide⟩
    · exact ⟨deliveries.take 4, deliveries.drop 5, by decide, by decide⟩
  obtain ⟨hepoch, hcounters⟩ := counters_converge UserCounterEvent.eventId twoResets deliveries
    hvalid (by decide) (by decide) hsettled
  exact ⟨hepoch, hcounters .tradesCount⟩

end TradingBot.Sync
