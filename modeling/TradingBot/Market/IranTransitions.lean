import TradingBot.Market.Admission
import TradingBot.Misc.Run

/-!
# Market transitions on the Iran server

`apply_market_schedule_transition` and what belongs to it
(core/services/market_transition_service.py) on the Iran server, which owns the market's state. Any
number of loop workers evaluate the schedule; a worker takes the lock that admissions of offers hold
until they commit, compares its evaluation with the stored state, and applies the transition if they
differ. The side effects of a transition come after its commit.

The evaluation and the side effects are steps of their own.
-/

namespace TradingBot.Market

open TradingBot.Misc

/-- A row of `market_runtime_state`. -/
structure MarketRuntimeState where
  isOpen : Bool
  activeWebNoticeVisible : Bool := false
  offersSinceLastOpen : Nat := 0
  lastTransitionAt : Int
  deriving DecidableEq, Repr

/-- A worker has evaluated the schedule, or applied a transition whose side effects are to follow. -/
inductive WorkerStage where
  | evaluated (evaluation : MarketScheduleEvaluation)
  | applied (change : Nat)
  deriving DecidableEq, Repr

/-- A change of the state: its worker, the new state and the offers it expired, by their position. -/
structure StateChange where
  worker : Nat
  state : MarketRuntimeState
  expiredOffers : List Nat
  deriving DecidableEq, Repr

structure ChangeEffects where
  change : Nat
  worker : Nat
  expiredOffers : List Nat
  noticeText : String
  event : String
  deriving DecidableEq, Repr

/-- The Iran server: its offers, stored state and workers, the changes so far and their side
effects. -/
structure IranMarket where
  book : OfferBook
  runtimeState : Option MarketRuntimeState
  workers : Nat → Option WorkerStage
  changes : List StateChange
  effects : List ChangeEffects

def IranMarket.initial (now : Int) : IranMarket where
  book := OfferBook.empty now
  runtimeState := none
  workers := fun _ => none
  changes := []
  effects := []

inductive IranOperation where
  | book (op : BookOperation)
  | registerOfferCreated
  | evaluate (worker : Nat)
  | apply (worker : Nat)
  | announce (worker : Nat)
  deriving DecidableEq, Repr

def marketOpenedChannelNotice : String := "🟢 شروع فعالیت بازار"
def marketClosedChannelNotice : String := "🔴 پایان فعالیت بازار"

def activePositions (offers : List HomeOffer) : List Nat :=
  (List.range offers.length).filter fun index => (offers[index]?).any (·.isActive)

/-- After the commits of `_apply_market_open_transition` (line 985) and
`_apply_market_closed_transition` (line 1014). -/
def changeEffects (index : Nat) (change : StateChange) : ChangeEffects where
  change := index
  worker := change.worker
  expiredOffers := change.expiredOffers
  noticeText := if change.state.isOpen then marketOpenedChannelNotice else marketClosedChannelNotice
  event := if change.state.isOpen then "market:opened" else "market:closed"

namespace IranMarket

/-- `register_market_offer_created` (line 943). It waits for the lock. -/
def registerOfferCreated (schedule : MarketSchedule) (market : IranMarket) : IranMarket :=
  if market.book.lock.isSome ∨ schedule.isOpen market.book.now = false then market
  else
    let stored := market.runtimeState.getD { isOpen := true, lastTransitionAt := market.book.now }
    if stored.isOpen = false then market
    else
      let offersSinceLastOpen := stored.offersSinceLastOpen + 1
      { market with
        runtimeState := some { stored with
          offersSinceLastOpen := offersSinceLastOpen
          activeWebNoticeVisible := stored.activeWebNoticeVisible && offersSinceLastOpen < 2 } }

def evaluate (schedule : MarketSchedule) (market : IranMarket) (worker : Nat) : IranMarket :=
  match market.workers worker with
  | some (.applied _) => market
  | _ =>
    { market with
      workers := Function.update market.workers worker
        (some (.evaluated (evaluateCurrentMarketSchedule schedule market.book.now))) }

def transition (market : IranMarket) (worker : Nat) (isOpen : Bool) (book : OfferBook)
    (expiredOffers : List Nat) : IranMarket :=
  let state : MarketRuntimeState :=
    { isOpen := isOpen, activeWebNoticeVisible := true, lastTransitionAt := market.book.now }
  { market with
    book := book
    runtimeState := some state
    workers := Function.update market.workers worker (some (.applied market.changes.length))
    changes := market.changes ++ [⟨worker, state, expiredOffers⟩] }

/-- `apply_market_schedule_transition` (line 1058) waits for the lock. -/
def apply (market : IranMarket) (worker : Nat) : IranMarket :=
  match market.workers worker with
  | some (.evaluated evaluation) =>
    if market.book.lock.isSome then market
    else
      match market.runtimeState with
      | none =>
        { market with
          runtimeState := some { isOpen := evaluation.isOpen, lastTransitionAt := market.book.now }
          workers := Function.update market.workers worker none }
      | some stored =>
        if stored.isOpen = evaluation.isOpen then
          { market with workers := Function.update market.workers worker none }
        else if evaluation.isOpen then market.transition worker true market.book []
        else
          market.transition worker false
            (market.book.expireActiveLocalOffersForMarketClose market.book.now)
            (activePositions market.book.offers)
  | _ => market

def announce (market : IranMarket) (worker : Nat) : IranMarket :=
  match market.workers worker with
  | some (.applied index) =>
    { market with
      workers := Function.update market.workers worker none
      effects := market.effects ++ (market.changes[index]?.map (changeEffects index)).toList }
  | _ => market

end IranMarket

def iranStep (schedule : MarketSchedule) (market : IranMarket) : IranOperation → IranMarket
  | .book op => { market with book := market.book.step schedule op }
  | .registerOfferCreated => market.registerOfferCreated schedule
  | .evaluate worker => market.evaluate schedule worker
  | .apply worker => market.apply worker
  | .announce worker => market.announce worker

def IranMarket.stored (market : IranMarket) : Option Bool := market.runtimeState.map (·.isOpen)

def Closes (market : IranMarket) (op : IranOperation) (market' : IranMarket) : Prop :=
  (∃ worker, op = .apply worker) ∧ market.stored = some true ∧ market'.stored = some false

/-- When the market is closed no admission is past the fence, and no offer that was there is active
ever after. -/
def ClosedForGood (schedule : MarketSchedule) (market : IranMarket) (op : IranOperation)
    (market' : IranMarket) : Prop :=
  Closes market op market' →
    (∀ admission transaction, market.book.admissions admission = some transaction →
      transaction.fencedAt = none) ∧
    ∀ (ops : List IranOperation) (index : Nat), index < market.book.offers.length →
      ∃ offer, (run (iranStep schedule) market' ops).book.offers[index]? = some offer ∧
        offer.isActive = false

def NoOfferWhileClosed (schedule : MarketSchedule) (market : IranMarket) : Prop :=
  market.stored = some false → schedule.isOpen market.book.now = false →
    ∀ offer ∈ market.book.offers, offer.isActive = false

def Changes (market market' : IranMarket) : Prop :=
  ∃ isOpen, market.stored = some isOpen ∧ market'.stored = some (!isOpen)

/-- A change of the stored state is applied and recorded with one worker; nothing else is. -/
def AppliedByOne (market : IranMarket) (op : IranOperation) (market' : IranMarket) : Prop :=
  (Changes market market' ∧ ∃ worker state expiredOffers, op = .apply worker ∧
    market'.runtimeState = some state ∧
    market'.changes = market.changes ++ [⟨worker, state, expiredOffers⟩]) ∨
  (¬ Changes market market' ∧ market'.changes = market.changes)

/-- The worker that applied a change has told its side effects, once, or has still to tell them. -/
def EffectsOnce (market : IranMarket) : Prop :=
  (market.effects.map (·.change)).Nodup ∧
  (∀ effects ∈ market.effects, ∃ change, market.changes[effects.change]? = some change ∧
    effects = changeEffects effects.change change) ∧
  ∀ index change, market.changes[index]? = some change →
    (index ∈ market.effects.map (·.change) ∧
      ∀ worker, market.workers worker ≠ some (.applied index)) ∨
    (index ∉ market.effects.map (·.change) ∧
      ∀ worker, market.workers worker = some (.applied index) ↔ worker = change.worker)

/-- When the schedule closes, the stored state is open: a worker has applied the opening. -/
def OpeningApplied (schedule : MarketSchedule) (market : IranMarket) (_ : IranOperation)
    (market' : IranMarket) : Prop :=
  schedule.isOpen market.book.now = true → schedule.isOpen market'.book.now = false →
    market.stored = some true

instance (schedule : MarketSchedule) (market : IranMarket) (op : IranOperation)
    (market' : IranMarket) : Decidable (OpeningApplied schedule market op market') :=
  inferInstanceAs (Decidable (_ → _ → _))

section Steps

variable {schedule : MarketSchedule} {market : IranMarket} {book : OfferBook} {offer : HomeOffer}
  {index : Nat}

/-- A worker's transition does nothing, creates the state, finds it as evaluated, opens or closes. -/
theorem apply_cases (market : IranMarket) (worker : Nat) :
    market.apply worker = market ∨
    ∃ evaluation, market.workers worker = some (.evaluated evaluation) ∧ market.book.lock = none ∧
      ((market.runtimeState = none ∧ market.apply worker = { market with
          runtimeState := some { isOpen := evaluation.isOpen, lastTransitionAt := market.book.now }
          workers := Function.update market.workers worker none }) ∨
       (market.runtimeState.isSome ∧ market.apply worker = { market with
          workers := Function.update market.workers worker none }) ∨
       (market.stored = some false ∧
          market.apply worker = market.transition worker true market.book []) ∨
       (market.stored = some true ∧ market.apply worker = market.transition worker false
          (market.book.expireActiveLocalOffersForMarketClose market.book.now)
          (activePositions market.book.offers))) := by
  unfold IranMarket.apply
  split
  · rename_i evaluation hworker
    split
    · exact .inl rfl
    · rename_i hlock
      rw [Bool.not_eq_true, Option.isSome_eq_false_iff, Option.isNone_iff_eq_none] at hlock
      refine .inr ⟨evaluation, hworker, hlock, ?_⟩
      split
      · rename_i hnone
        exact .inl ⟨hnone, rfl⟩
      · rename_i stored hstored
        split
        · exact .inr (.inl ⟨by rw [hstored]; rfl, rfl⟩)
        · rename_i hdiffer
          split
          · rename_i hopen
            refine .inr (.inr (.inl ⟨?_, rfl⟩))
            rw [IranMarket.stored, hstored]
            rw [hopen, Bool.not_eq_true] at hdiffer
            exact congrArg some hdiffer
          · rename_i hclosed
            refine .inr (.inr (.inr ⟨?_, rfl⟩))
            rw [IranMarket.stored, hstored]
            rw [Bool.not_eq_true] at hclosed
            rw [hclosed, Bool.not_eq_false] at hdiffer
            exact congrArg some hdiffer
  · exact .inl rfl

theorem registerOfferCreated_cases (schedule : MarketSchedule) (market : IranMarket) :
    market.registerOfferCreated schedule = market ∨
    ∃ state, market.registerOfferCreated schedule = { market with runtimeState := some state } ∧
      state.isOpen = true ∧ schedule.isOpen market.book.now = true ∧ market.stored ≠ some false := by
  unfold IranMarket.registerOfferCreated
  split
  · exact .inl rfl
  · rename_i hopen
    rw [not_or, Bool.not_eq_false] at hopen
    dsimp only
    split
    · exact .inl rfl
    · rename_i hstored
      rw [Bool.not_eq_false] at hstored
      refine .inr ⟨_, rfl, hstored, hopen.2, ?_⟩
      intro hclosed
      cases hstate : market.runtimeState with
      | none =>
        rw [IranMarket.stored, hstate] at hclosed
        cases hclosed
      | some state =>
        rw [IranMarket.stored, hstate, Option.map_some, Option.some.injEq] at hclosed
        rw [hstate, Option.getD_some, hclosed] at hstored
        cases hstored

theorem evaluate_cases (schedule : MarketSchedule) (market : IranMarket) (worker : Nat) :
    market.evaluate schedule worker = market ∨
    (∀ index, market.workers worker ≠ some (.applied index)) ∧
      market.evaluate schedule worker = { market with
        workers := Function.update market.workers worker
          (some (.evaluated (evaluateCurrentMarketSchedule schedule market.book.now))) } := by
  unfold IranMarket.evaluate
  split
  · exact .inl rfl
  · rename_i hnot
    exact .inr ⟨fun index happlied => hnot index happlied, rfl⟩

theorem isActive_expireActive {closeTime : Int}
    (hoffer : offer ∈ (book.expireActiveLocalOffersForMarketClose closeTime).offers) :
    offer.isActive = false := by
  obtain ⟨old, -, rfl⟩ := List.mem_map.mp hoffer
  split
  · rfl
  · rename_i hactive
    exact Bool.not_eq_true _ ▸ hactive

theorem getElem_expireActive (closeTime : Int) (hoffer : book.offers[index]? = some offer) :
    ∃ offer', (book.expireActiveLocalOffersForMarketClose closeTime).offers[index]? = some offer' ∧
      (offer.isActive = false → offer' = offer) := by
  refine ⟨if offer.isActive then
    { offer with ended := some (.expired marketClosedReason closeTime, book.now) } else offer, ?_, ?_⟩
  · show (book.offers.map _)[index]? = _
    rw [List.getElem?_map, hoffer]
    rfl
  · intro hended
    rw [if_neg (by rw [hended]; exact Bool.false_ne_true)]

theorem getElem_offers_iranStep (op : IranOperation)
    (hoffer : market.book.offers[index]? = some offer) (hended : offer.isActive = false) :
    (iranStep schedule market op).book.offers[index]? = some offer := by
  cases op with
  | book op =>
    obtain ⟨offer', hoffer', hsame⟩ := getElem_offers_step schedule op hoffer
    rw [hsame hended] at hoffer'
    exact hoffer'
  | registerOfferCreated =>
    obtain hstep | ⟨state, hstep, -⟩ := registerOfferCreated_cases schedule market
    · rw [iranStep, hstep]
      exact hoffer
    · rw [iranStep, hstep]
      exact hoffer
  | evaluate worker =>
    obtain hstep | ⟨-, hstep⟩ := evaluate_cases schedule market worker
    · rw [iranStep, hstep]
      exact hoffer
    · rw [iranStep, hstep]
      exact hoffer
  | apply worker =>
    rw [iranStep]
    obtain hstep | ⟨evaluation, -, -, ⟨-, hstep⟩ | ⟨-, hstep⟩ | ⟨-, hstep⟩ | ⟨-, hstep⟩⟩ :=
      apply_cases market worker
    · rw [hstep]
      exact hoffer
    · rw [hstep]
      exact hoffer
    · rw [hstep]
      exact hoffer
    · rw [hstep]
      exact hoffer
    · rw [hstep]
      obtain ⟨offer', hoffer', hsame⟩ := getElem_expireActive market.book.now hoffer
      rw [hsame hended] at hoffer'
      exact hoffer'
  | announce worker =>
    unfold iranStep IranMarket.announce
    dsimp only
    split <;> exact hoffer

theorem getElem_offers_run (ops : List IranOperation)
    (hended : offer.isActive = false) : ∀ {market : IranMarket},
    market.book.offers[index]? = some offer →
      (run (iranStep schedule) market ops).book.offers[index]? = some offer := by
  induction ops with
  | nil =>
    intro market hoffer
    exact hoffer
  | cons op ops ih =>
    intro market hoffer
    exact ih (getElem_offers_iranStep op hoffer hended)

theorem closedForGood (op : IranOperation) (h : BookSound schedule market.book) :
    ClosedForGood schedule market op (iranStep schedule market op) := by
  rintro ⟨⟨worker, rfl⟩, hopen, hclosed⟩
  obtain ⟨hlock, hbook⟩ : market.book.lock = none ∧ (iranStep schedule market (.apply worker)).book =
      market.book.expireActiveLocalOffersForMarketClose market.book.now := by
    rw [iranStep] at hclosed ⊢
    obtain hstep | ⟨evaluation, -, hlock, ⟨hnone, -⟩ | ⟨-, hstep⟩ | ⟨hfalse, -⟩ | ⟨-, hstep⟩⟩ :=
      apply_cases market worker
    · rw [hstep, hopen] at hclosed
      cases hclosed
    · rw [IranMarket.stored, hnone] at hopen
      cases hopen
    · have hsame : (market.apply worker).stored = market.stored := by rw [hstep]; rfl
      rw [hsame, hopen] at hclosed
      cases hclosed
    · rw [hopen] at hfalse
      cases hfalse
    · rw [hstep]
      exact ⟨hlock, rfl⟩
  refine ⟨fun admission transaction htransaction => ?_, fun ops index hindex => ?_⟩
  · -- an admission that is past the fence holds the lock
    cases hfenced : transaction.fencedAt with
    | none => rfl
    | some fencedAt =>
      have hheld := ((h.admissions admission transaction htransaction).fenced fencedAt hfenced).2.2.2
      rw [hlock] at hheld
      cases hheld
  obtain ⟨offer, hoffer, -⟩ := getElem_expireActive market.book.now
    (List.getElem?_eq_getElem hindex)
  have hended := isActive_expireActive (List.mem_of_getElem? hoffer)
  rw [← hbook] at hoffer
  exact ⟨offer, getElem_offers_run ops hended hoffer, hended⟩

/-! ## Changes and their side effects -/

theorem appliedByOne_apply (market : IranMarket) (worker : Nat) :
    AppliedByOne market (.apply worker) (market.apply worker) := by
  obtain hstep | ⟨evaluation, -, -, ⟨hnone, hstep⟩ | ⟨-, hstep⟩ | ⟨hstored, hstep⟩ |
    ⟨hstored, hstep⟩⟩ := apply_cases market worker
  · rw [hstep]
    refine .inr ⟨?_, rfl⟩
    rintro ⟨isOpen, hbefore, hafter⟩
    rw [hbefore, Option.some.injEq] at hafter
    cases isOpen <;> cases hafter
  · rw [hstep]
    refine .inr ⟨?_, rfl⟩
    rintro ⟨isOpen, hbefore, -⟩
    rw [IranMarket.stored, hnone] at hbefore
    cases hbefore
  · rw [hstep]
    refine .inr ⟨?_, rfl⟩
    rintro ⟨isOpen, hbefore, hafter⟩
    have hsame : market.stored = some (!isOpen) := hafter
    rw [hbefore, Option.some.injEq] at hsame
    cases isOpen <;> cases hsame
  · rw [hstep]
    exact .inl ⟨⟨false, hstored, rfl⟩, worker, _, _, rfl, rfl, rfl⟩
  · rw [hstep]
    exact .inl ⟨⟨true, hstored, rfl⟩, worker, _, _, rfl, rfl, rfl⟩

theorem appliedByOne_of_kept {op : IranOperation} {market' : IranMarket}
    (hchanges : market'.changes = market.changes) (hstored : market'.stored = market.stored ∨
      market'.stored = some true ∧ market.stored ≠ some false) :
    AppliedByOne market op market' := by
  refine .inr ⟨?_, hchanges⟩
  rintro ⟨isOpen, hbefore, hafter⟩
  rcases hstored with hsame | ⟨hopen, hnot⟩
  · rw [hsame, hbefore, Option.some.injEq] at hafter
    cases isOpen <;> cases hafter
  · rw [hopen, Option.some.injEq] at hafter
    cases isOpen with
    | false => exact hnot hbefore
    | true => cases hafter

theorem appliedByOne_step (schedule : MarketSchedule) (market : IranMarket) (op : IranOperation) :
    AppliedByOne market op (iranStep schedule market op) := by
  cases op with
  | book op => exact appliedByOne_of_kept rfl (.inl rfl)
  | registerOfferCreated =>
    obtain hstep | ⟨state, hstep, hopen, -, hstored⟩ := registerOfferCreated_cases schedule market
    · rw [iranStep, hstep]
      exact appliedByOne_of_kept rfl (.inl rfl)
    · rw [iranStep, hstep]
      exact appliedByOne_of_kept rfl (.inr ⟨congrArg some hopen, hstored⟩)
  | evaluate worker =>
    obtain hstep | ⟨-, hstep⟩ := evaluate_cases schedule market worker
    · rw [iranStep, hstep]
      exact appliedByOne_of_kept rfl (.inl rfl)
    · rw [iranStep, hstep]
      exact appliedByOne_of_kept rfl (.inl rfl)
  | apply worker => exact appliedByOne_apply market worker
  | announce worker =>
    unfold iranStep IranMarket.announce
    dsimp only
    split <;> exact appliedByOne_of_kept rfl (.inl rfl)

structure EffectsSound (market : IranMarket) : Prop where
  once : EffectsOnce market
  pending : ∀ worker index, market.workers worker = some (.applied index) →
    index < market.changes.length

theorem EffectsSound.told_lt (h : EffectsSound market)
    (htold : index ∈ market.effects.map (·.change)) : index < market.changes.length := by
  obtain ⟨effects, heffects, rfl⟩ := List.mem_map.mp htold
  obtain ⟨change, hchange, -⟩ := h.once.2.1 effects heffects
  exact (List.getElem?_eq_some_iff.mp hchange).1

theorem EffectsSound.setWorker (h : EffectsSound market) {market' : IranMarket} {worker : Nat}
    {next : Option WorkerStage} (hidle : ∀ index, market.workers worker ≠ some (.applied index))
    (hnext : ∀ index, next ≠ some (.applied index))
    (hworkers : market'.workers = Function.update market.workers worker next)
    (hchanges : market'.changes = market.changes) (heffects : market'.effects = market.effects) :
    EffectsSound market' := by
  have hsame : ∀ other index, market'.workers other = some (.applied index) ↔
      market.workers other = some (.applied index) := by
    intro other index
    rw [hworkers]
    by_cases hother : other = worker
    · subst hother
      rw [Function.update_self]
      exact ⟨fun happlied => absurd happlied (hnext index),
        fun happlied => absurd happlied (hidle index)⟩
    · rw [Function.update_of_ne hother]
  refine ⟨⟨?_, ?_, ?_⟩, ?_⟩
  · rw [heffects]
    exact h.once.1
  · rw [heffects, hchanges]
    exact h.once.2.1
  · rw [heffects, hchanges]
    intro index change hchange
    rcases h.once.2.2 index change hchange with ⟨htold, hnone⟩ | ⟨hnot, hone⟩
    · exact .inl ⟨htold, fun other happlied => hnone other ((hsame other index).mp happlied)⟩
    · exact .inr ⟨hnot, fun other => (hsame other index).trans (hone other)⟩
  · rw [hchanges]
    intro other index happlied
    exact h.pending other index ((hsame other index).mp happlied)

theorem EffectsSound.transition (h : EffectsSound market) {worker : Nat}
    (hidle : ∀ index, market.workers worker ≠ some (.applied index)) (isOpen : Bool)
    (book : OfferBook) (expiredOffers : List Nat) :
    EffectsSound (market.transition worker isOpen book expiredOffers) := by
  have hworkers : ∀ other index,
      (market.transition worker isOpen book expiredOffers).workers other = some (.applied index) ↔
        other = worker ∧ index = market.changes.length ∨
          market.workers other = some (.applied index) := by
    intro other index
    show Function.update market.workers worker _ other = _ ↔ _
    by_cases hother : other = worker
    · subst hother
      rw [Function.update_self]
      constructor
      · intro happlied
        cases happlied
        exact .inl ⟨rfl, rfl⟩
      · rintro (⟨-, rfl⟩ | happlied)
        · rfl
        · exact absurd happlied (hidle index)
    · rw [Function.update_of_ne hother]
      exact ⟨.inr, fun hcases => hcases.resolve_left fun hworker => hother hworker.1⟩
  have hlength : (market.transition worker isOpen book expiredOffers).changes.length =
      market.changes.length + 1 := List.length_append
  refine ⟨⟨h.once.1, ?_, ?_⟩, ?_⟩
  · intro effects heffects
    obtain ⟨change, hchange, htold⟩ := h.once.2.1 effects heffects
    refine ⟨change, ?_, htold⟩
    show (market.changes ++ _)[effects.change]? = _
    rw [List.getElem?_append_left (List.getElem?_eq_some_iff.mp hchange).1]
    exact hchange
  · intro index change hchange
    have hchange' : (market.changes ++ [⟨worker, _, expiredOffers⟩])[index]? = some change := hchange
    by_cases hold : index < market.changes.length
    · rw [List.getElem?_append_left hold] at hchange'
      rcases h.once.2.2 index change hchange' with ⟨htold, hnone⟩ | ⟨hnot, hone⟩
      · refine .inl ⟨htold, fun other happlied => ?_⟩
        rcases (hworkers other index).mp happlied with ⟨-, rfl⟩ | happlied
        · exact absurd hold (Nat.lt_irrefl _)
        · exact hnone other happlied
      · refine .inr ⟨hnot, fun other => ?_⟩
        rw [hworkers, ← hone]
        exact or_iff_right fun hnew => Nat.ne_of_lt hold hnew.2
    · have hlt := (List.getElem?_eq_some_iff.mp hchange').1
      rw [List.length_append, List.length_singleton] at hlt
      obtain rfl : index = market.changes.length := by omega
      rw [List.getElem?_append_right (Nat.le_refl _), Nat.sub_self, List.getElem?_cons_zero,
        Option.some.injEq] at hchange'
      refine .inr ⟨fun htold => absurd (h.told_lt htold) (Nat.lt_irrefl _), fun other => ?_⟩
      rw [hworkers, ← hchange']
      constructor
      · rintro (⟨rfl, -⟩ | happlied)
        · rfl
        · exact absurd (h.pending other _ happlied) (Nat.lt_irrefl _)
      · rintro rfl
        exact .inl ⟨rfl, rfl⟩
  · intro other index happlied
    rw [hlength]
    rcases (hworkers other index).mp happlied with ⟨-, rfl⟩ | happlied
    · exact Nat.lt_succ_self _
    · exact Nat.lt_succ_of_lt (h.pending other index happlied)

theorem EffectsSound.announce (h : EffectsSound market) (worker : Nat) :
    EffectsSound (market.announce worker) := by
  unfold IranMarket.announce
  split
  · rename_i index happlied
    have hlt := h.pending worker index happlied
    obtain ⟨change, hchange⟩ : ∃ change, market.changes[index]? = some change :=
      ⟨_, List.getElem?_eq_getElem hlt⟩
    obtain ⟨htold, hnone⟩ | ⟨hnot, hone⟩ := h.once.2.2 index change hchange
    · exact absurd happlied (hnone worker)
    · have hworkers : ∀ other position, Function.update market.workers worker none other =
          some (.applied position) ↔
            market.workers other = some (.applied position) ∧ position ≠ index := by
        intro other position
        by_cases hother : other = worker
        · subst hother
          rw [Function.update_self, happlied, Option.some.injEq, WorkerStage.applied.injEq]
          exact ⟨nofun, fun hboth => absurd hboth.1.symm hboth.2⟩
        · rw [Function.update_of_ne hother]
          refine ⟨fun hpending => ⟨hpending, ?_⟩, fun hboth => hboth.1⟩
          rintro rfl
          exact hother (((hone other).mp hpending).trans ((hone worker).mp happlied).symm)
      have hmem : ∀ position, position ∈ (market.effects ++ [changeEffects index change]).map
          (·.change) ↔ position ∈ market.effects.map (·.change) ∨ position = index := by
        intro position
        rw [List.map_append, List.mem_append, List.map_singleton, List.mem_singleton]
        rfl
      rw [hchange, Option.map_some, Option.toList_some]
      refine ⟨⟨?_, ?_, ?_⟩, ?_⟩
      · show ((market.effects ++ [changeEffects index change]).map (·.change)).Nodup
        rw [List.map_append, List.map_singleton]
        refine List.nodup_append.mpr ⟨h.once.1, List.nodup_singleton _, ?_⟩
        rintro told htold _ hnew rfl
        rw [List.mem_singleton.mp hnew] at htold
        exact hnot htold
      · intro effects heffects
        rcases List.mem_append.mp heffects with hold | hnew
        · exact h.once.2.1 effects hold
        · rw [List.mem_singleton.mp hnew]
          exact ⟨change, hchange, rfl⟩
      · intro position change' hchange'
        by_cases hposition : position = index
        · subst hposition
          refine .inl ⟨(hmem position).mpr (.inr rfl), fun other hpending => ?_⟩
          exact ((hworkers other position).mp hpending).2 rfl
        · rcases h.once.2.2 position change' hchange' with ⟨htold, hnone⟩ | ⟨hnot', hone'⟩
          · refine .inl ⟨(hmem position).mpr (.inl htold), fun other hpending => ?_⟩
            exact hnone other ((hworkers other position).mp hpending).1
          · refine .inr ⟨fun htold => ?_, fun other => ?_⟩
            · exact ((hmem position).mp htold).elim hnot' hposition
            · exact (hworkers other position).trans
                ((and_iff_left hposition).trans (hone' other))
      · intro other position hpending
        exact h.pending other position ((hworkers other position).mp hpending).1
  · exact h

/-! ## The invariant -/

structure IranSound (schedule : MarketSchedule) (market : IranMarket) : Prop where
  book : BookSound schedule market.book
  effects : EffectsSound market
  quiet : market.stored ≠ some true → schedule.isOpen market.book.now = false →
    (∀ offer ∈ market.book.offers, offer.isActive = false) ∧
      ∀ admission transaction, market.book.admissions admission = some transaction →
        transaction.fencedAt = none

theorem iranSound_initial (schedule : MarketSchedule) (now : Int) :
    IranSound schedule (IranMarket.initial now) where
  book := bookSound_empty schedule now
  effects := by
    refine ⟨⟨List.nodup_nil, ?_, ?_⟩, ?_⟩
    · intro effects heffects
      cases heffects
    · intro index change hchange
      cases hchange
    · intro worker index happlied
      cases happlied
  quiet := by
    intro _ _
    constructor
    · intro offer hoffer
      cases hoffer
    · intro admission transaction htransaction
      cases htransaction

theorem quiet_bookStep (op : BookOperation) (hclosed : schedule.isOpen book.now = false)
    (hended : ∀ offer ∈ book.offers, offer.isActive = false)
    (hnone : ∀ admission transaction, book.admissions admission = some transaction →
      transaction.fencedAt = none) :
    (∀ offer ∈ (book.step schedule op).offers, offer.isActive = false) ∧
      ∀ admission transaction, (book.step schedule op).admissions admission = some transaction →
        transaction.fencedAt = none := by
  have hfinish : ∀ admission other transaction,
      (book.finish admission).admissions other = some transaction → transaction.fencedAt = none := by
    intro admission other transaction htransaction
    rcases update_eq_some htransaction with ⟨-, hdone⟩ | ⟨-, hold⟩
    · cases hdone
    · exact hnone other transaction hold
  cases op with
  | tick elapsed => exact ⟨hended, hnone⟩
  | begin admission =>
    unfold OfferBook.step OfferBook.begin
    dsimp only
    split
    · exact ⟨hended, hnone⟩
    · refine ⟨hended, fun other transaction htransaction => ?_⟩
      rcases update_eq_some htransaction with ⟨-, hnew⟩ | ⟨-, hold⟩
      · cases hnew
        rfl
      · exact hnone other transaction hold
  | fence admission =>
    unfold OfferBook.step OfferBook.fence
    dsimp only
    split
    · split
      · exact ⟨hended, hnone⟩
      · exact ⟨hended, hfinish admission⟩
    · exact ⟨hended, hnone⟩
  | commit admission =>
    unfold OfferBook.step OfferBook.commit
    dsimp only
    split
    · rename_i transaction htransaction
      split
      · rename_i fencedAt hfenced
        rw [hnone admission transaction htransaction] at hfenced
        cases hfenced
      · exact ⟨hended, hnone⟩
    · exact ⟨hended, hnone⟩
  | rollback admission => exact ⟨hended, hfinish admission⟩
  | endOffer index reason =>
    unfold OfferBook.step OfferBook.endOffer
    dsimp only
    split
    · rename_i offer hget
      rw [if_pos (.inl (hended offer (List.mem_of_getElem? hget)))]
      exact ⟨hended, hnone⟩
    · exact ⟨hended, hnone⟩

theorem IranSound.bookStep (h : IranSound schedule market) (op : BookOperation)
    (hopening : OpeningApplied schedule market (.book op) (iranStep schedule market (.book op))) :
    IranSound schedule (iranStep schedule market (.book op)) := by
  refine ⟨h.book.step op, ⟨h.effects.once, h.effects.pending⟩, fun hstored hclosed => ?_⟩
  cases hbefore : schedule.isOpen market.book.now with
  | true => exact absurd (hopening hbefore hclosed) hstored
  | false =>
    obtain ⟨hended, hnone⟩ := h.quiet hstored hbefore
    exact quiet_bookStep op hbefore hended hnone

theorem IranSound.apply (h : IranSound schedule market) (worker : Nat) :
    IranSound schedule (market.apply worker) := by
  obtain hstep | ⟨evaluation, hworker, hlock, hcases⟩ := apply_cases market worker
  · rw [hstep]
    exact h
  · have hidle : ∀ index, market.workers worker ≠ some (.applied index) := by
      intro index happlied
      rw [hworker] at happlied
      cases happlied
    obtain ⟨hnone, hstep⟩ | ⟨-, hstep⟩ | ⟨-, hstep⟩ | ⟨-, hstep⟩ := hcases
    · rw [hstep]
      refine ⟨h.book, h.effects.setWorker hidle (by intro _ hnext; cases hnext) rfl rfl rfl, fun _ hclosed => ?_⟩
      exact h.quiet (by rw [IranMarket.stored, hnone]; exact nofun) hclosed
    · rw [hstep]
      exact ⟨h.book, h.effects.setWorker hidle (by intro _ hnext; cases hnext) rfl rfl rfl, h.quiet⟩
    · rw [hstep]
      exact ⟨h.book, h.effects.transition hidle true market.book [],
        fun hstored => absurd rfl hstored⟩
    · rw [hstep]
      refine ⟨h.book.expireActive _, h.effects.transition hidle false _ _, fun _ _ => ⟨?_, ?_⟩⟩
      · exact fun offer hoffer => isActive_expireActive hoffer
      · -- whoever has passed the fence would hold the lock
        intro admission transaction htransaction
        cases hfenced : transaction.fencedAt with
        | none => rfl
        | some fencedAt =>
          obtain ⟨-, -, -, hheld⟩ :=
            (h.book.admissions admission transaction htransaction).fenced fencedAt hfenced
          rw [hlock] at hheld
          cases hheld

theorem iranSound_step (op : IranOperation) (h : IranSound schedule market)
    (hopening : OpeningApplied schedule market op (iranStep schedule market op)) :
    IranSound schedule (iranStep schedule market op) := by
  cases op with
  | book op => exact h.bookStep op hopening
  | registerOfferCreated =>
    obtain hstep | ⟨state, hstep, hopen, -, -⟩ := registerOfferCreated_cases schedule market
    · rw [iranStep, hstep]
      exact h
    · rw [iranStep, hstep]
      exact ⟨h.book, ⟨h.effects.once, h.effects.pending⟩,
        fun hstored => absurd (congrArg some hopen) hstored⟩
  | evaluate worker =>
    obtain hstep | ⟨hidle, hstep⟩ := evaluate_cases schedule market worker
    · rw [iranStep, hstep]
      exact h
    · rw [iranStep, hstep]
      exact ⟨h.book, h.effects.setWorker hidle (by intro _ hnext; cases hnext) rfl rfl rfl, h.quiet⟩
  | apply worker => exact h.apply worker
  | announce worker =>
    refine ⟨?_, h.effects.announce worker, ?_⟩
    · unfold iranStep IranMarket.announce
      dsimp only
      split <;> exact h.book
    · unfold iranStep IranMarket.announce
      dsimp only
      split <;> exact h.quiet

end Steps

/-- In every run in which the opening of a session is applied before its scheduled closing: after a
closing no offer that was there is active, none is active while the stored state and the schedule
are closed, and every change of the state is applied by one worker, which tells its side effects
once. -/
theorem iran_transitions_close_offers (schedule : MarketSchedule) (now : Int)
    (ops : List IranOperation)
    (hopening : EachStep (iranStep schedule) (OpeningApplied schedule) (IranMarket.initial now) ops) :
    EachStep (iranStep schedule) (ClosedForGood schedule) (IranMarket.initial now) ops ∧
    NoOfferWhileClosed schedule (run (iranStep schedule) (IranMarket.initial now) ops) ∧
    EachStep (iranStep schedule) AppliedByOne (IranMarket.initial now) ops ∧
    EffectsOnce (run (iranStep schedule) (IranMarket.initial now) ops) := by
  have hsound := run_invariant (fun market op h hop => iranSound_step op h hop) ops _
    (iranSound_initial schedule now) hopening
  refine ⟨?_, ?_, ?_, hsound.effects.once⟩
  · exact eachStep_of_invariant (fun market op h hop => iranSound_step op h hop)
      (fun market op h _ => closedForGood op h.book) ops _ (iranSound_initial schedule now) hopening
  · intro hstored hclosed
    exact (hsound.quiet (by rw [hstored]; exact nofun) hclosed).1
  · exact eachStep_of_invariant (I := fun _ => True) (fun _ _ _ _ => trivial)
      (fun market op _ _ => appliedByOne_step schedule market op) ops _ trivial hopening

def loopTurn : List IranOperation := [.evaluate 1, .apply 1, .announce 1]

def admitIranOffer : List IranOperation :=
  [.book (.begin 1), .book (.fence 1), .book (.commit 1)]

/-- The loop has a turn at ten o'clock and at six. -/
theorem session_with_turns_closes :
    NoOfferWhileClosed defaultHours (run (iranStep defaultHours) (IranMarket.initial 23400000000)
      (loopTurn ++ admitIranOffer ++ .book (.tick 28800000000) :: loopTurn)) ∧
    EffectsOnce (run (iranStep defaultHours) (IranMarket.initial 23400000000)
      (loopTurn ++ admitIranOffer ++ .book (.tick 28800000000) :: loopTurn)) := by
  obtain ⟨-, hclosed, -, heffects⟩ := iran_transitions_close_offers defaultHours 23400000000
    (loopTurn ++ admitIranOffer ++ .book (.tick 28800000000) :: loopTurn) (by decide)
  exact ⟨hclosed, heffects⟩

/-- The loop has turns at six in the morning and six in the evening: an offer of ten o'clock stays
active. -/
theorem session_without_turn_keeps_offer :
    ¬ NoOfferWhileClosed defaultHours (run (iranStep defaultHours) (IranMarket.initial 9000000000)
      (loopTurn ++ .book (.tick 14400000000) :: admitIranOffer ++
        .book (.tick 28800000000) :: loopTurn)) := by
  intro h
  have hended := h (by decide) (by decide) ⟨23400000000, 23400000000, none⟩ (by decide)
  cases hended

end TradingBot.Market
