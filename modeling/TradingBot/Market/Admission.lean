import Mathlib.Logic.Function.Basic
import TradingBot.Market.Schedule
import TradingBot.Misc.Table

/-!
# The admission of offers

The offers of a server and the transactions that create them
(core/services/offer_creation_service.py and `acquire_market_offer_admission_fence`,
core/services/market_transition_service.py): an offer passes a fence, an advisory lock held until
the commit, behind which the schedule is asked. `created_at` is the start of the transaction.

Market transitions read and write under the same lock: one step of the models built on this one,
possible while no admission holds the lock.
-/

namespace TradingBot.Market

open TradingBot.Misc

inductive OfferEnd where
  | completed
  | expired (reason : String) (expiredAt : Int)
  deriving DecidableEq, Repr

/-- `OfferExpiryReason.MARKET_CLOSED`. -/
def marketClosedReason : String := "market_closed"

structure HomeOffer where
  createdAt : Int
  admittedAt : Int
  ended : Option (OfferEnd × Int) := none
  deriving DecidableEq, Repr

/-- The offer is `ACTIVE`. -/
def HomeOffer.isActive (offer : HomeOffer) : Bool := offer.ended.isNone

structure Admission where
  startedAt : Int
  fencedAt : Option Int := none
  deriving DecidableEq, Repr

/-- The offers of a server and the transactions under way; `lock` holds the advisory lock. -/
structure OfferBook where
  now : Int
  offers : List HomeOffer
  admissions : Nat → Option Admission
  lock : Option Nat

def OfferBook.empty (now : Int) : OfferBook where
  now := now
  offers := []
  admissions := fun _ => none
  lock := none

inductive BookOperation where
  | tick (elapsed : Nat)
  | begin (admission : Nat)
  | fence (admission : Nat)
  | commit (admission : Nat)
  | rollback (admission : Nat)
  | endOffer (index : Nat) (reason : Option String)
  deriving DecidableEq, Repr

namespace OfferBook

def begin (book : OfferBook) (admission : Nat) : OfferBook :=
  if (book.admissions admission).isSome then book
  else
    { book with
      admissions := Function.update book.admissions admission (some { startedAt := book.now }) }

def finish (book : OfferBook) (admission : Nat) : OfferBook :=
  { book with
    admissions := Function.update book.admissions admission none
    lock := if book.lock = some admission then none else book.lock }

/-- `acquire_market_offer_admission_fence` (market_transition_service.py:228) waits for the lock and
rejects offers of a closed market. -/
def fence (schedule : MarketSchedule) (book : OfferBook) (admission : Nat) : OfferBook :=
  match book.admissions admission with
  | some transaction =>
    if book.lock.isSome ∨ transaction.fencedAt.isSome then book
    else if schedule.isOpen book.now = false then book.finish admission
    else
      { book with
        admissions := Function.update book.admissions admission
          (some { transaction with fencedAt := some book.now })
        lock := some admission }
  | none => book

def commit (book : OfferBook) (admission : Nat) : OfferBook :=
  match book.admissions admission with
  | some transaction =>
    match transaction.fencedAt with
    | some fencedAt =>
      { book.finish admission with
        offers := book.offers ++ [{ createdAt := transaction.startedAt, admittedAt := fencedAt }] }
    | none => book
  | none => book

def endOffer (book : OfferBook) (index : Nat) (reason : Option String) : OfferBook :=
  match book.offers[index]? with
  | some offer =>
    if offer.isActive = false ∨ reason = some marketClosedReason then book
    else
      let ended := match reason with
        | none => OfferEnd.completed
        | some reason => .expired reason book.now
      { book with
        offers := book.offers.set index { offer with ended := some (ended, book.now) } }
  | none => book

/-- `_expire_active_local_offers_for_market_close` (market_transition_service.py:690). -/
def expireActiveLocalOffersForMarketClose (book : OfferBook) (closeTime : Int) : OfferBook :=
  { book with
    offers := book.offers.map fun offer =>
      if offer.isActive then
        { offer with ended := some (.expired marketClosedReason closeTime, book.now) }
      else offer }

def step (schedule : MarketSchedule) (book : OfferBook) : BookOperation → OfferBook
  | .tick elapsed => { book with now := book.now + elapsed }
  | .begin admission => book.begin admission
  | .fence admission => book.fence schedule admission
  | .commit admission => book.commit admission
  | .rollback admission => book.finish admission
  | .endOffer index reason => book.endOffer index reason

end OfferBook

/-! ## What holds of a book -/

structure AdmissionSound (schedule : MarketSchedule) (book : OfferBook) (admission : Nat)
    (transaction : Admission) : Prop where
  started : transaction.startedAt ≤ book.now
  fenced : ∀ fencedAt, transaction.fencedAt = some fencedAt →
    transaction.startedAt ≤ fencedAt ∧ fencedAt ≤ book.now ∧ schedule.isOpen fencedAt = true ∧
      book.lock = some admission

structure OfferSound (schedule : MarketSchedule) (now : Int) (offer : HomeOffer) : Prop where
  created : offer.createdAt ≤ offer.admittedAt
  admitted : offer.admittedAt ≤ now
  wasOpen : schedule.isOpen offer.admittedAt = true

structure BookSound (schedule : MarketSchedule) (book : OfferBook) : Prop where
  offers : ∀ offer ∈ book.offers, OfferSound schedule book.now offer
  admissions : ∀ admission transaction, book.admissions admission = some transaction →
    AdmissionSound schedule book admission transaction

section Sound

variable {schedule : MarketSchedule} {book : OfferBook}

theorem bookSound_empty (schedule : MarketSchedule) (now : Int) :
    BookSound schedule (OfferBook.empty now) where
  offers := by
    intro offer hoffer
    cases hoffer
  admissions := by
    intro admission transaction htransaction
    cases htransaction

theorem BookSound.tick (h : BookSound schedule book) (elapsed : Nat) :
    BookSound schedule { book with now := book.now + elapsed } := by
  have hlater : book.now ≤ book.now + elapsed := by omega
  constructor
  · intro offer hoffer
    have hsound := h.offers offer hoffer
    exact ⟨hsound.created, hsound.admitted.trans hlater, hsound.wasOpen⟩
  · intro admission transaction htransaction
    have hsound := h.admissions admission transaction htransaction
    refine ⟨hsound.started.trans hlater, fun fencedAt hfenced => ?_⟩
    obtain ⟨hstarted, hnow, hopen, hlock⟩ := hsound.fenced fencedAt hfenced
    exact ⟨hstarted, hnow.trans hlater, hopen, hlock⟩

theorem BookSound.finish (h : BookSound schedule book) (admission : Nat) :
    BookSound schedule (book.finish admission) := by
  refine ⟨h.offers, fun other transaction htransaction => ?_⟩
  rcases update_eq_some htransaction with ⟨-, hnone⟩ | ⟨hother, htransaction⟩
  · cases hnone
  · have hsound := h.admissions other transaction htransaction
    refine ⟨hsound.started, fun fencedAt hfenced => ?_⟩
    obtain ⟨hstarted, hnow, hopen, hlock⟩ := hsound.fenced fencedAt hfenced
    refine ⟨hstarted, hnow, hopen, ?_⟩
    show (if book.lock = some admission then none else book.lock) = some other
    rw [if_neg (by rw [hlock]; exact fun hsame => hother (Option.some.inj hsame)), hlock]

theorem BookSound.begin (h : BookSound schedule book) (admission : Nat) :
    BookSound schedule (book.begin admission) := by
  unfold OfferBook.begin
  split
  · exact h
  · refine ⟨h.offers, fun other transaction htransaction => ?_⟩
    rcases update_eq_some htransaction with ⟨-, hnew⟩ | ⟨-, htransaction⟩
    · cases hnew
      exact ⟨le_refl _, nofun⟩
    · have hsound := h.admissions other transaction htransaction
      exact ⟨hsound.started, hsound.fenced⟩

theorem BookSound.fence (h : BookSound schedule book) (admission : Nat) :
    BookSound schedule (book.fence schedule admission) := by
  unfold OfferBook.fence
  split
  · rename_i transaction htransaction
    split
    · exact h
    · rename_i hfree
      rw [not_or, Bool.not_eq_true, Option.isSome_eq_false_iff, Option.isNone_iff_eq_none] at hfree
      split
      · exact h.finish admission
      · rename_i hopen
        refine ⟨h.offers, fun other transaction' htransaction' => ?_⟩
        rcases update_eq_some htransaction' with ⟨rfl, hnew⟩ | ⟨-, hold⟩
        · cases hnew
          have hstarted := (h.admissions other transaction htransaction).started
          refine ⟨hstarted, fun fencedAt hfenced => ?_⟩
          cases hfenced
          exact ⟨hstarted, le_refl _, Bool.not_eq_false _ ▸ hopen, rfl⟩
        · -- nobody else has passed the fence, since the lock was free
          have hsound := h.admissions other transaction' hold
          refine ⟨hsound.started, fun fencedAt hfenced => ?_⟩
          obtain ⟨-, -, -, hlock⟩ := hsound.fenced fencedAt hfenced
          rw [hfree.1] at hlock
          cases hlock
  · exact h

theorem BookSound.commit (h : BookSound schedule book) (admission : Nat) :
    BookSound schedule (book.commit admission) := by
  unfold OfferBook.commit
  split
  · rename_i transaction htransaction
    split
    · rename_i fencedAt hfenced
      obtain ⟨hstarted, hnow, hopen, -⟩ :=
        (h.admissions admission transaction htransaction).fenced fencedAt hfenced
      have hfinish := h.finish admission
      refine ⟨fun offer hoffer => ?_, fun other transaction' htransaction' => ?_⟩
      · rcases List.mem_append.mp hoffer with hold | hnew
        · exact h.offers offer hold
        · cases List.mem_singleton.mp hnew
          exact ⟨hstarted, hnow, hopen⟩
      · have hsound := hfinish.admissions other transaction' htransaction'
        exact ⟨hsound.started, hsound.fenced⟩
    · exact h
  · exact h

theorem BookSound.setOffers (h : BookSound schedule book) {offers : List HomeOffer}
    (hoffers : ∀ offer' ∈ offers, ∃ offer ∈ book.offers,
      offer'.createdAt = offer.createdAt ∧ offer'.admittedAt = offer.admittedAt) :
    BookSound schedule { book with offers := offers } := by
  constructor
  · intro offer' hoffer'
    obtain ⟨offer, hoffer, hcreated, hadmitted⟩ := hoffers offer' hoffer'
    have hsound := h.offers offer hoffer
    refine ⟨?_, ?_, ?_⟩
    · rw [hcreated, hadmitted]
      exact hsound.created
    · rw [hadmitted]
      exact hsound.admitted
    · rw [hadmitted]
      exact hsound.wasOpen
  · intro admission transaction htransaction
    have hsound := h.admissions admission transaction htransaction
    exact ⟨hsound.started, hsound.fenced⟩

theorem BookSound.endOffer (h : BookSound schedule book) (index : Nat) (reason : Option String) :
    BookSound schedule (book.endOffer index reason) := by
  unfold OfferBook.endOffer
  split
  · rename_i offer hget
    split
    · exact h
    · refine h.setOffers fun offer' hoffer' => ?_
      rcases List.mem_or_eq_of_mem_set hoffer' with hold | rfl
      · exact ⟨offer', hold, rfl, rfl⟩
      · exact ⟨offer, List.mem_of_getElem? hget, rfl, rfl⟩
  · exact h

theorem BookSound.expireActive (h : BookSound schedule book) (closeTime : Int) :
    BookSound schedule (book.expireActiveLocalOffersForMarketClose closeTime) := by
  refine h.setOffers fun offer' hoffer' => ?_
  obtain ⟨offer, hoffer, rfl⟩ := List.mem_map.mp hoffer'
  refine ⟨offer, hoffer, ?_⟩
  split
  · exact ⟨rfl, rfl⟩
  · exact ⟨rfl, rfl⟩

theorem BookSound.step (h : BookSound schedule book) (op : BookOperation) :
    BookSound schedule (book.step schedule op) := by
  cases op with
  | tick elapsed => exact h.tick elapsed
  | begin admission => exact h.begin admission
  | fence admission => exact h.fence admission
  | commit admission => exact h.commit admission
  | rollback admission => exact h.finish admission
  | endOffer index reason => exact h.endOffer index reason

/-- An offer after a step: an old one, a new one, or one that ended now, not for the closed market. -/
theorem mem_offers_step {op : BookOperation} {offer' : HomeOffer}
    (hoffer' : offer' ∈ (book.step schedule op).offers) :
    offer' ∈ book.offers ∨ offer'.ended = none ∨
      ∃ offer ∈ book.offers, ∃ ended, offer' = { offer with ended := some (ended, book.now) } ∧
        ∀ reason expiredAt, ended = .expired reason expiredAt →
          reason ≠ marketClosedReason ∧ expiredAt = book.now := by
  cases op with
  | tick elapsed => exact .inl hoffer'
  | begin admission =>
    unfold OfferBook.step OfferBook.begin at hoffer'
    dsimp only at hoffer'
    split at hoffer' <;> exact .inl hoffer'
  | fence admission =>
    unfold OfferBook.step OfferBook.fence at hoffer'
    dsimp only at hoffer'
    split at hoffer'
    · split at hoffer'
      · exact .inl hoffer'
      · split at hoffer' <;> exact .inl hoffer'
    · exact .inl hoffer'
  | commit admission =>
    unfold OfferBook.step OfferBook.commit at hoffer'
    dsimp only at hoffer'
    split at hoffer'
    · split at hoffer'
      · rcases List.mem_append.mp hoffer' with hold | hnew
        · exact .inl hold
        · rw [List.mem_singleton.mp hnew]
          exact .inr (.inl rfl)
      · exact .inl hoffer'
    · exact .inl hoffer'
  | rollback admission => exact .inl hoffer'
  | endOffer index reason =>
    unfold OfferBook.step OfferBook.endOffer at hoffer'
    dsimp only at hoffer'
    split at hoffer'
    · rename_i offer hget
      split at hoffer'
      · exact .inl hoffer'
      · rename_i hends
        rw [not_or] at hends
        rcases List.mem_or_eq_of_mem_set hoffer' with hold | hnew
        · exact .inl hold
        · refine .inr (.inr ⟨offer, List.mem_of_getElem? hget, _, hnew, ?_⟩)
          intro reason' expiredAt hended
          cases reason with
          | none => cases hended
          | some reason =>
            cases hended
            exact ⟨fun hsame => hends.2 (congrArg some hsame), rfl⟩
    · exact .inl hoffer'

theorem getElem_offers_step (schedule : MarketSchedule) (op : BookOperation) {index : Nat}
    {offer : HomeOffer} (hoffer : book.offers[index]? = some offer) :
    ∃ offer', (book.step schedule op).offers[index]? = some offer' ∧
      (offer.isActive = false → offer' = offer) := by
  cases op with
  | tick elapsed => exact ⟨offer, hoffer, fun _ => rfl⟩
  | begin admission =>
    unfold OfferBook.step OfferBook.begin
    dsimp only
    split <;> exact ⟨offer, hoffer, fun _ => rfl⟩
  | fence admission =>
    unfold OfferBook.step OfferBook.fence
    dsimp only
    split
    · split
      · exact ⟨offer, hoffer, fun _ => rfl⟩
      · split <;> exact ⟨offer, hoffer, fun _ => rfl⟩
    · exact ⟨offer, hoffer, fun _ => rfl⟩
  | commit admission =>
    unfold OfferBook.step OfferBook.commit
    dsimp only
    split
    · split
      · refine ⟨offer, ?_, fun _ => rfl⟩
        dsimp only
        rw [List.getElem?_append_left (List.getElem?_eq_some_iff.mp hoffer).1]
        exact hoffer
      · exact ⟨offer, hoffer, fun _ => rfl⟩
    · exact ⟨offer, hoffer, fun _ => rfl⟩
  | rollback admission => exact ⟨offer, hoffer, fun _ => rfl⟩
  | endOffer position reason =>
    unfold OfferBook.step OfferBook.endOffer
    dsimp only
    split
    · rename_i ending hget
      split
      · exact ⟨offer, hoffer, fun _ => rfl⟩
      · rename_i hends
        rw [not_or, Bool.not_eq_false] at hends
        dsimp only
        rw [List.getElem?_set]
        by_cases hsame : position = index
        · subst hsame
          rw [hget] at hoffer
          cases hoffer
          rw [if_pos rfl, if_pos (List.getElem?_eq_some_iff.mp hget).1]
          refine ⟨_, rfl, fun hended => ?_⟩
          rw [hends.1] at hended
          cases hended
        · rw [if_neg hsame]
          exact ⟨offer, hoffer, fun _ => rfl⟩
    · exact ⟨offer, hoffer, fun _ => rfl⟩

end Sound

end TradingBot.Market
