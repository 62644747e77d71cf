import TradingBot.Market.Admission
import TradingBot.Misc.Run

/-!
# Market closings on the foreign server

`core/services/market_transition_service.py` and `core/market_schedule_loop.py` on the foreign
server, where the market's state arrives from the Iran server by synchronisation, as late as it may.
A schedule loop reconciles the local offers with the last state that arrived, and with the schedule
itself after a grace period: it reads the state or the schedule without the lock, and expires the
active offers of the server under it.
-/

namespace TradingBot.Market

open TradingBot.Misc

/-- The columns of `market_runtime_state` that the foreign server acts on. -/
structure RuntimeState where
  isOpen : Bool
  lastTransitionAt : Option Int
  deriving DecidableEq, Repr

/-- How far a reconciliation has come: it has evaluated the schedule, or read the state to act on. -/
inductive ReaderStage where
  | evaluated (evaluation : MarketScheduleEvaluation)
  | read (state : RuntimeState)
  deriving DecidableEq, Repr

/-- The foreign server: its offers, the arrived state, and the reconciliations under way. -/
structure ForeignMarket where
  book : OfferBook
  runtimeState : Option RuntimeState
  readers : Nat → Option ReaderStage

def ForeignMarket.initial (now : Int) : ForeignMarket where
  book := OfferBook.empty now
  runtimeState := none
  readers := fun _ => none

inductive ForeignOperation where
  | book (op : BookOperation)
  | arrive (incoming : RuntimeState)
  | readState (reader : Nat)
  | evaluate (reader : Nat)
  | readSchedule (reader : Nat)
  | reconcile (reader : Nat)
  deriving DecidableEq, Repr

/-- The guard of the upsert (`_market_runtime_state_upsert_where_clause`, sync.py:1057). -/
def acceptsIncoming (current : Option RuntimeState) (incoming : RuntimeState) : Bool :=
  match current with
  | none => true
  | some current =>
    match current.lastTransitionAt, incoming.lastTransitionAt with
    | some stored, some arriving => stored ≤ arriving
    | _, _ => true

/-- `MARKET_FOREIGN_INDEPENDENT_GRACE_SECONDS`, the default of the grace period. -/
def foreignIndependentGrace : Int := 30000000

/-- `reconcile_foreign_market_schedule_autonomy` (line 789): the schedule's state, unless the
arrived one is as new. -/
def foreignScheduleAutonomy (zone : MarketZone) (grace : Int)
    (evaluation : MarketScheduleEvaluation) (synced : Option RuntimeState) (now : Int) :
    Option RuntimeState :=
  match evaluation.currentTransitionAt with
  | none => none
  | some reading =>
    let transitionAt := zone.instant reading
    if now < transitionAt + grace then none
    else
      let known := synced.any fun state => state.lastTransitionAt.any fun syncedAt =>
        (transitionAt ≤ syncedAt && state.isOpen == evaluation.isOpen) ||
          (transitionAt < syncedAt && state.isOpen != evaluation.isOpen)
      if known then none
      else some { isOpen := evaluation.isOpen, lastTransitionAt := some transitionAt }

namespace ForeignMarket

/-- The synchronisation writes the state unless it is older than the stored one. -/
def arrive (market : ForeignMarket) (incoming : RuntimeState) : ForeignMarket :=
  if acceptsIncoming market.runtimeState incoming then
    { market with runtimeState := some incoming }
  else market

/-- `reconcile_market_runtime_side_effects_for_current_state` (line 779) reads the state. -/
def readState (market : ForeignMarket) (reader : Nat) : ForeignMarket :=
  { market with
    readers := Function.update market.readers reader (market.runtimeState.map .read) }

def evaluate (schedule : MarketSchedule) (market : ForeignMarket) (reader : Nat) : ForeignMarket :=
  { market with
    readers := Function.update market.readers reader
      (some (.evaluated (evaluateCurrentMarketSchedule schedule market.book.now))) }

def readSchedule (schedule : MarketSchedule) (grace : Int) (market : ForeignMarket)
    (reader : Nat) : ForeignMarket :=
  match market.readers reader with
  | some (.evaluated evaluation) =>
    { market with
      readers := Function.update market.readers reader
        ((foreignScheduleAutonomy schedule.zone grace evaluation market.runtimeState
          market.book.now).map .read) }
  | _ => market

/-- `reconcile_market_runtime_side_effects_for_state` (line 739) waits for the lock. -/
def reconcile (market : ForeignMarket) (reader : Nat) : ForeignMarket :=
  match market.readers reader with
  | some (.read state) =>
    if state.isOpen then { market with readers := Function.update market.readers reader none }
    else if market.book.lock.isSome then market
    else
      { market with
        readers := Function.update market.readers reader none
        book := market.book.expireActiveLocalOffersForMarketClose
          (state.lastTransitionAt.getD market.book.now) }
  | _ => market

end ForeignMarket

def foreignStep (schedule : MarketSchedule) (grace : Int) (market : ForeignMarket) :
    ForeignOperation → ForeignMarket
  | .book op => { market with book := market.book.step schedule op }
  | .arrive incoming => market.arrive incoming
  | .readState reader => market.readState reader
  | .evaluate reader => market.evaluate schedule reader
  | .readSchedule reader => market.readSchedule schedule grace reader
  | .reconcile reader => market.reconcile reader

/-! ## What a closing may do -/

/-- No offer was expired for the closed market before the first scheduled closing after its
admission. -/
def NotClosedEarly (schedule : MarketSchedule) (market : ForeignMarket) : Prop :=
  ∀ offer ∈ market.book.offers, ∀ expiredAt endedAt,
    offer.ended = some (.expired marketClosedReason expiredAt, endedAt) →
    schedule.isOpen offer.admittedAt = true ∧
      ∃ closing, IsNextClosing schedule offer.admittedAt closing ∧ closing ≤ endedAt

def ExpiredAfterCreation (market : ForeignMarket) : Prop :=
  ∀ offer ∈ market.book.offers, ∀ reason expiredAt endedAt,
    offer.ended = some (.expired reason expiredAt, endedAt) → offer.createdAt ≤ expiredAt

/-- The closed state reconciled with active offers is in force: the schedule is closed since the
transition it names. -/
def ReconcilesInForce (schedule : MarketSchedule) (market : ForeignMarket) (op : ForeignOperation)
    (_ : ForeignMarket) : Prop :=
  ∀ reader state, op = .reconcile reader → market.readers reader = some (.read state) →
    state.isOpen = false → (∃ offer ∈ market.book.offers, offer.isActive = true) →
    schedule.isOpen market.book.now = false ∧
      ∀ transitionAt, state.lastTransitionAt = some transitionAt →
        ∀ instant, transitionAt < instant → instant ≤ market.book.now →
          schedule.isOpen instant = false

structure EndSound (schedule : MarketSchedule) (offer : HomeOffer) : Prop where
  notEarly : ∀ expiredAt endedAt,
    offer.ended = some (.expired marketClosedReason expiredAt, endedAt) →
    ∃ closing, IsNextClosing schedule offer.admittedAt closing ∧ closing ≤ endedAt
  afterCreation : ∀ reason expiredAt endedAt,
    offer.ended = some (.expired reason expiredAt, endedAt) → offer.createdAt ≤ expiredAt

structure ForeignSound (schedule : MarketSchedule) (market : ForeignMarket) : Prop where
  book : BookSound schedule market.book
  ends : ∀ offer ∈ market.book.offers, EndSound schedule offer

section Sound

variable {schedule : MarketSchedule} {market : ForeignMarket}

theorem endSound_of_active {offer : HomeOffer} (h : offer.ended = none) :
    EndSound schedule offer := by
  constructor
  · intro expiredAt endedAt hended
    rw [h] at hended
    cases hended
  · intro reason expiredAt endedAt hended
    rw [h] at hended
    cases hended

theorem foreignSound_initial (schedule : MarketSchedule) (now : Int) :
    ForeignSound schedule (ForeignMarket.initial now) where
  book := bookSound_empty schedule now
  ends := by
    intro offer hoffer
    cases hoffer

theorem ForeignSound.bookStep (h : ForeignSound schedule market) (op : BookOperation) :
    ForeignSound schedule { market with book := market.book.step schedule op } := by
  refine ⟨h.book.step op, fun offer' hoffer' => ?_⟩
  rcases mem_offers_step hoffer' with hold | hactive | ⟨offer, hoffer, ended, rfl, hended⟩
  · exact h.ends offer' hold
  · exact endSound_of_active hactive
  · have hsound := h.book.offers offer hoffer
    constructor
    · intro expiredAt endedAt hsome
      cases hsome
      exact absurd rfl (hended marketClosedReason expiredAt rfl).1
    · intro reason expiredAt endedAt hsome
      cases hsome
      rw [(hended reason expiredAt rfl).2]
      exact hsound.created.trans hsound.admitted

theorem ForeignSound.arrive (h : ForeignSound schedule market) (incoming : RuntimeState) :
    ForeignSound schedule (market.arrive incoming) := by
  unfold ForeignMarket.arrive
  split
  · exact ⟨h.book, h.ends⟩
  · exact h

theorem ForeignSound.readSchedule (h : ForeignSound schedule market) (grace : Int) (reader : Nat) :
    ForeignSound schedule (market.readSchedule schedule grace reader) := by
  unfold ForeignMarket.readSchedule
  split
  · exact ⟨h.book, h.ends⟩
  · exact h

theorem ForeignSound.reconcile (h : ForeignSound schedule market) (reader : Nat)
    (hforce : ReconcilesInForce schedule market (.reconcile reader) (market.reconcile reader)) :
    ForeignSound schedule (market.reconcile reader) := by
  unfold ForeignMarket.reconcile
  split
  · rename_i state hread
    split
    · exact ⟨h.book, h.ends⟩
    · rename_i hclosed
      split
      · exact h
      · refine ⟨h.book.expireActive _, fun offer' hoffer' => ?_⟩
        obtain ⟨offer, hoffer, rfl⟩ := List.mem_map.mp hoffer'
        split
        · rename_i hactive
          have hsound := h.book.offers offer hoffer
          obtain ⟨hnow, hsince⟩ := hforce reader state rfl hread (Bool.not_eq_true _ ▸ hclosed)
            ⟨offer, hoffer, hactive⟩
          -- the admission lies before the transition, since the schedule was open then
          have hbefore : offer.admittedAt ≤ state.lastTransitionAt.getD market.book.now := by
            cases htransition : state.lastTransitionAt with
            | none => exact hsound.admitted
            | some transitionAt =>
              by_contra hafter
              have hshut := hsince transitionAt htransition offer.admittedAt (not_le.mp hafter)
                hsound.admitted
              rw [hsound.wasOpen] at hshut
              cases hshut
          constructor
          · intro expiredAt endedAt hended
            cases hended
            exact exists_nextClosing hsound.wasOpen hsound.admitted hnow
          · intro reason expiredAt endedAt hended
            cases hended
            exact hsound.created.trans hbefore
        · exact h.ends offer hoffer
  · exact h

theorem foreignSound_step (grace : Int) (op : ForeignOperation) (h : ForeignSound schedule market)
    (hforce : ReconcilesInForce schedule market op (foreignStep schedule grace market op)) :
    ForeignSound schedule (foreignStep schedule grace market op) := by
  cases op with
  | book op => exact h.bookStep op
  | arrive incoming => exact h.arrive incoming
  | readState reader => exact ⟨h.book, h.ends⟩
  | evaluate reader => exact ⟨h.book, h.ends⟩
  | readSchedule reader => exact h.readSchedule grace reader
  | reconcile reader => exact h.reconcile reader hforce

end Sound

/-- In every run that reconciles only states in force with active offers, no offer is expired for
the closed market before the first scheduled closing after its admission, nor given an expiry before
its creation. -/
theorem foreign_closing_on_schedule (schedule : MarketSchedule) (grace now : Int)
    (ops : List ForeignOperation)
    (hforce : EachStep (foreignStep schedule grace) (ReconcilesInForce schedule)
      (ForeignMarket.initial now) ops) :
    NotClosedEarly schedule (run (foreignStep schedule grace) (ForeignMarket.initial now) ops) ∧
      ExpiredAfterCreation (run (foreignStep schedule grace) (ForeignMarket.initial now) ops) := by
  have hsound := run_invariant (fun market op h hop => foreignSound_step grace op h hop) ops _
    (foreignSound_initial schedule now) hforce
  constructor
  · intro offer hoffer expiredAt endedAt hended
    exact ⟨(hsound.book.offers offer hoffer).wasOpen,
      (hsound.ends offer hoffer).notEarly expiredAt endedAt hended⟩
  · intro offer hoffer reason expiredAt endedAt hended
    exact (hsound.ends offer hoffer).afterCreation reason expiredAt endedAt hended

def admitOffer : List ForeignOperation :=
  [.book (.begin 1), .book (.fence 1), .book (.commit 1)]

def reconcileState : List ForeignOperation := [.readState 1, .reconcile 1]

/-- An offer of ten o'clock, and the closed state of six o'clock. -/
theorem evening_closing_on_schedule :
    NotClosedEarly defaultHours (run (foreignStep defaultHours foreignIndependentGrace)
      (ForeignMarket.initial 23400000000) (admitOffer ++ .book (.tick 28800000000) ::
        .arrive ⟨false, some 52200000000⟩ :: reconcileState)) ∧
    ExpiredAfterCreation (run (foreignStep defaultHours foreignIndependentGrace)
      (ForeignMarket.initial 23400000000) (admitOffer ++ .book (.tick 28800000000) ::
        .arrive ⟨false, some 52200000000⟩ :: reconcileState)) := by
  refine foreign_closing_on_schedule defaultHours foreignIndependentGrace 23400000000 _ ?_
  refine ⟨nofun, nofun, nofun, nofun, nofun, nofun, ?_, trivial⟩
  intro reader state hop hread _ _
  cases hop
  cases hread
  refine ⟨by decide, fun transitionAt htransition instant hafter hbefore => ?_⟩
  cases htransition
  exact absurd (Int.lt_of_lt_of_le hafter hbefore) (by decide)

/-- An offer of a second past nine meets the closed state of the evening before: it is expired at
once, with the time of that evening. -/
theorem late_opening_expires_offer :
    ¬ NotClosedEarly defaultHours (run (foreignStep defaultHours foreignIndependentGrace)
      (ForeignMarket.initial 106201000000) (.arrive ⟨false, some 52200000000⟩ ::
        (admitOffer ++ reconcileState))) ∧
    ¬ ExpiredAfterCreation (run (foreignStep defaultHours foreignIndependentGrace)
      (ForeignMarket.initial 106201000000) (.arrive ⟨false, some 52200000000⟩ ::
        (admitOffer ++ reconcileState))) := by
  have hmem : (⟨106201000000, 106201000000,
      some (.expired marketClosedReason 52200000000, 106201000000)⟩ : HomeOffer) ∈
      (run (foreignStep defaultHours foreignIndependentGrace) (ForeignMarket.initial 106201000000)
        (.arrive ⟨false, some 52200000000⟩ :: (admitOffer ++ reconcileState))).book.offers := by
    decide
  constructor
  · intro h
    obtain ⟨-, closing, hclosing, hended⟩ := h _ hmem _ _ rfl
    exact absurd hended (Int.not_le.mpr hclosing.later)
  · intro h
    exact absurd (h _ hmem _ _ _ rfl) (by decide)

end TradingBot.Market
