import TradingBot.Misc.Rows
import TradingBot.Misc.Run
import TradingBot.Offer.Expiry

/-!
# Limits of manual expiries

One calendar day of one owner: offers are created, and the owner expires some by hand
(`expire_offer`, `src/api/routers/offers.py`). The limits of
`src/core/services/offer_expiry_limits.py` are counted in Redis, or in the process where Redis fails
(`src/bot/utils/redis_helpers.py`).

The daily count goes up before the decision and counts attempts. It is ahead of the expiries by at
least the attempt itself, so an attempt it refuses is one that the number of expiries would still
have allowed.
-/

namespace TradingBot

open Misc

/-- What no attempt changes: the server, the start of the day and `offer_expire_rate_per_minute`,
`offer_expire_daily_limit_after_threshold`. -/
structure ExpiryLimits where
  server : Server
  startOfDay : Int
  ratePerMinute : Int := 2
  dailyThreshold : Int := 10

inductive Tracking where
  | answered
  | lost
  | unreachable
  deriving DecidableEq, Repr

/-- One call of `expire_offer` by the owner. `commits` is false where the transaction fails. -/
structure ExpiryAttempt where
  offerId : Nat
  owner : Nat
  actor : Nat
  now : Int
  process : Nat
  rateTracking : Tracking
  dailyTracking : Tracking
  commits : Bool
  deriving DecidableEq, Repr

inductive ExpiryOutcome where
  | notFound
  | forwarded
  | inactive
  | refusedRate
  | refusedDaily
  | failed
  | expired
  deriving DecidableEq, Repr

def ExpiryOutcome.turnedAway (outcome : ExpiryOutcome) : Prop :=
  outcome = .refusedRate ∨ outcome = .refusedDaily ∨ outcome = .failed

instance : DecidablePred ExpiryOutcome.turnedAway :=
  fun outcome => inferInstanceAs
    (Decidable (outcome = .refusedRate ∨ outcome = .refusedDaily ∨ outcome = .failed))

/-- The owner's offers, the keys `expire_rate` and `daily_expire`, their stand-ins in each process,
and the outcomes so far, newest first. -/
structure ExpiryDay where
  offers : List Offer
  expireRate : List Int
  rateTracker : Nat → List Int
  dailyExpire : Nat
  dailyTracker : Nat → Nat
  outcomes : List ExpiryOutcome

def ExpiryDay.start (offers : List Offer) : ExpiryDay :=
  { offers, expireRate := [], rateTracker := fun _ => [], dailyExpire := 0,
    dailyTracker := fun _ => 0, outcomes := [] }

namespace ExpiryDay

def expiredCount (day : ExpiryDay) : Nat := day.outcomes.count .expired

/-- `total_offers_today` (offer_expiry_limits.py:55). -/
def totalOffersToday (limits : ExpiryLimits) (day : ExpiryDay) : Nat :=
  day.offers.countP fun offer => offer.createdAt.any (limits.startOfDay ≤ ·)

/-- `track_expire_rate` on the sorted set: the attempt goes in, those of more than a minute ago go
out. -/
def slideWindow (now : Int) (times : List Int) : List Int :=
  (if now ∈ times then times else now :: times).filter (now - minute < ·)

/-- `track_expire_rate` (redis_helpers.py:41). -/
def trackExpireRate (day : ExpiryDay) (attempt : ExpiryAttempt) : Nat × ExpiryDay :=
  let stored := slideWindow attempt.now day.expireRate
  let held := (day.rateTracker attempt.process ++ [attempt.now]).filter (attempt.now - minute < ·)
  let fallback := Function.update day.rateTracker attempt.process held
  match attempt.rateTracking with
  | .answered => (stored.length, { day with expireRate := stored })
  | .lost => (held.length, { day with expireRate := stored, rateTracker := fallback })
  | .unreachable => (held.length, { day with rateTracker := fallback })

/-- `track_daily_expire` (redis_helpers.py:90). -/
def trackDailyExpire (day : ExpiryDay) (attempt : ExpiryAttempt) : Nat × ExpiryDay :=
  let stored := day.dailyExpire + 1
  let held := day.dailyTracker attempt.process + 1
  let fallback := Function.update day.dailyTracker attempt.process held
  match attempt.dailyTracking with
  | .answered => (stored, { day with dailyExpire := stored })
  | .lost => (held, { day with dailyExpire := stored, dailyTracker := fallback })
  | .unreachable => (held, { day with dailyTracker := fallback })

def dailyCount (day : ExpiryDay) (attempt : ExpiryAttempt) : Nat :=
  (day.trackDailyExpire attempt).1

/-- The daily limit is reached (offer_expiry_limits.py:63-66). -/
def dailyReached (limits : ExpiryLimits) (day : ExpiryDay) (attempt : ExpiryAttempt) : Bool :=
  limits.dailyThreshold ≤ day.dailyCount attempt ∧
    day.totalOffersToday limits / 3 ≤ day.dailyCount attempt

/-- `enforce_manual_offer_expire_limits` (offer_expiry_limits.py:32): the refusal, if any, and the
counts. -/
def enforceManualOfferExpireLimits (limits : ExpiryLimits) (day : ExpiryDay)
    (attempt : ExpiryAttempt) : Option ExpiryOutcome × ExpiryDay :=
  let (rateCount, rated) := day.trackExpireRate attempt
  if limits.ratePerMinute < rateCount then (some .refusedRate, rated)
  else
    let (_, counted) := rated.trackDailyExpire attempt
    if rated.dailyReached limits attempt then (some .refusedDaily, counted)
    else (none, counted)

def manualExpiry (attempt : ExpiryAttempt) : OfferExpiryCommand :=
  { reason := "manual"
    sourceSurface := .webapp
    expiredByUserId := some attempt.owner
    expiredByActorUserId := some attempt.actor }

/-- The row after `expire_offer_authoritatively`. -/
def expireRow (limits : ExpiryLimits) (attempt : ExpiryAttempt) (offer : Offer) : Offer :=
  match applyOfferExpiry limits.server offer (manualExpiry attempt) attempt.now true with
  | .ok expired => expired
  | .error _ => offer

/-- `expire_offer` (offers.py:3026) once the gate and the row lock are held. -/
def expireOffer (limits : ExpiryLimits) (day : ExpiryDay) (attempt : ExpiryAttempt) :
    ExpiryOutcome × ExpiryDay :=
  match getRow Offer.id attempt.offerId day.offers with
  | none => (.notFound, day)
  | some offer =>
    if normalizeServer offer.homeServer limits.server ≠ limits.server then (.forwarded, day)
    else if offer.status ≠ .active then (.inactive, day)
    else
      match day.enforceManualOfferExpireLimits limits attempt with
      | (some refusal, counted) => (refusal, counted)
      | (none, counted) =>
        if attempt.commits then
          (.expired, { counted with
            offers := setRow Offer.id attempt.offerId (expireRow limits attempt) counted.offers })
        else (.failed, counted)

end ExpiryDay

/-- An offer is created, one ends in another way, or the owner tries to expire one. -/
inductive DayEvent where
  | create (offer : Offer)
  | settle (offerId : Nat) (status : OfferStatus)
  | attempt (attempt : ExpiryAttempt)
  deriving DecidableEq, Repr

namespace ExpiryDay

def settleRow (status : OfferStatus) (offer : Offer) : Offer := { offer with status }

def step (limits : ExpiryLimits) (day : ExpiryDay) : DayEvent → ExpiryDay
  | .create offer => { day with offers := day.offers ++ [offer] }
  | .settle offerId status =>
    { day with offers := setRow Offer.id offerId (settleRow status) day.offers }
  | .attempt attempt =>
    let (outcome, next) := day.expireOffer limits attempt
    { next with outcomes := outcome :: next.outcomes }

def outcome (limits : ExpiryLimits) (day : ExpiryDay) (attempt : ExpiryAttempt) : ExpiryOutcome :=
  (day.expireOffer limits attempt).1

section Attempt

variable {limits : ExpiryLimits} {day : ExpiryDay} {attempt : ExpiryAttempt}

def activeAt (limits : ExpiryLimits) (day : ExpiryDay) (attempt : ExpiryAttempt) : Bool :=
  (getRow Offer.id attempt.offerId day.offers).any fun offer =>
    normalizeServer offer.homeServer limits.server = limits.server ∧ offer.status = .active

/-- The per-minute limit is exceeded (offer_expiry_limits.py:50). -/
def rateExceeded (limits : ExpiryLimits) (day : ExpiryDay) (attempt : ExpiryAttempt) : Bool :=
  limits.ratePerMinute < (day.trackExpireRate attempt).1

def rated (day : ExpiryDay) (attempt : ExpiryAttempt) : ExpiryDay := (day.trackExpireRate attempt).2

def counted (day : ExpiryDay) (attempt : ExpiryAttempt) : ExpiryDay :=
  ((day.rated attempt).trackDailyExpire attempt).2

theorem rated_frame (day : ExpiryDay) (attempt : ExpiryAttempt) :
    (day.rated attempt).offers = day.offers ∧
      (day.rated attempt).dailyExpire = day.dailyExpire ∧
      (day.rated attempt).dailyTracker = day.dailyTracker ∧
      (day.rated attempt).outcomes = day.outcomes := by
  unfold rated trackExpireRate
  cases attempt.rateTracking <;> exact ⟨rfl, rfl, rfl, rfl⟩

theorem counted_frame (day : ExpiryDay) (attempt : ExpiryAttempt) :
    (day.counted attempt).offers = day.offers ∧ (day.counted attempt).outcomes = day.outcomes := by
  obtain ⟨hoffers, -, -, houtcomes⟩ := rated_frame day attempt
  rw [← hoffers, ← houtcomes]
  unfold counted trackDailyExpire
  cases attempt.dailyTracking <;> exact ⟨rfl, rfl⟩

theorem counted_dailyExpire (day : ExpiryDay) (h : attempt.dailyTracking = .answered) :
    (day.counted attempt).dailyExpire = day.dailyExpire + 1 ∧
      day.dailyCount attempt = day.dailyExpire + 1 := by
  unfold counted dailyCount trackDailyExpire
  rw [h]
  exact ⟨congrArg (· + 1) (rated_frame day attempt).2.1, rfl⟩

theorem dailyReached_rated :
    (day.rated attempt).dailyReached limits attempt = day.dailyReached limits attempt := by
  obtain ⟨hoffers, hexpire, htracker, -⟩ := rated_frame day attempt
  unfold dailyReached dailyCount totalOffersToday trackDailyExpire
  rw [hoffers, hexpire, htracker]
  cases attempt.dailyTracking <;> rfl

theorem expireOffer_cases (limits : ExpiryLimits) (day : ExpiryDay) (attempt : ExpiryAttempt) :
    (∃ outcome, outcome ∈ [ExpiryOutcome.notFound, .forwarded, .inactive] ∧
      day.expireOffer limits attempt = (outcome, day)) ∨
    day.activeAt limits attempt ∧
      (day.rateExceeded limits attempt ∧
        day.expireOffer limits attempt = (.refusedRate, day.rated attempt) ∨
      ¬ day.rateExceeded limits attempt ∧ day.dailyReached limits attempt ∧
        day.expireOffer limits attempt = (.refusedDaily, day.counted attempt) ∨
      ¬ day.rateExceeded limits attempt ∧ ¬ day.dailyReached limits attempt ∧
        (day.expireOffer limits attempt = (.failed, day.counted attempt) ∨
          day.expireOffer limits attempt = (.expired, { day.counted attempt with
            offers := setRow Offer.id attempt.offerId (expireRow limits attempt)
              (day.counted attempt).offers }))) := by
  unfold expireOffer
  cases hrow : getRow Offer.id attempt.offerId day.offers with
  | none => exact .inl ⟨_, by simp, rfl⟩
  | some offer =>
    dsimp only
    by_cases hhome : normalizeServer offer.homeServer limits.server = limits.server
    case neg => exact .inl ⟨_, by simp, if_pos hhome⟩
    rw [if_neg (not_not_intro hhome)]
    by_cases hactive : offer.status = .active
    case neg => exact .inl ⟨_, by simp, if_pos hactive⟩
    rw [if_neg (not_not_intro hactive)]
    have hreached : day.activeAt limits attempt = true := by
      rw [activeAt, hrow]
      exact decide_eq_true ⟨hhome, hactive⟩
    refine .inr ⟨hreached, ?_⟩
    by_cases hrate : day.rateExceeded limits attempt = true
    · refine .inl ⟨hrate, ?_⟩
      have hlimits : day.enforceManualOfferExpireLimits limits attempt =
          (some .refusedRate, day.rated attempt) := if_pos (of_decide_eq_true hrate)
      rw [hlimits]
    · have hwithin := fun hexceeded => hrate (decide_eq_true hexceeded)
      refine .inr ?_
      by_cases hdaily : (day.rated attempt).dailyReached limits attempt = true
      · refine .inl ⟨hrate, dailyReached_rated ▸ hdaily, ?_⟩
        have hlimits : day.enforceManualOfferExpireLimits limits attempt =
            (some .refusedDaily, day.counted attempt) := (if_neg hwithin).trans (if_pos hdaily)
        rw [hlimits]
      · refine .inr ⟨hrate, dailyReached_rated ▸ hdaily, ?_⟩
        have hlimits : day.enforceManualOfferExpireLimits limits attempt =
            (none, day.counted attempt) := (if_neg hwithin).trans (if_neg hdaily)
        rw [hlimits]
        cases attempt.commits with
        | true => exact .inr rfl
        | false => exact .inl rfl

theorem outcome_eq_refusedRate (h : day.outcome limits attempt = .refusedRate) :
    day.activeAt limits attempt ∧ day.rateExceeded limits attempt := by
  unfold outcome at h
  obtain ⟨other, hother, heq⟩ | ⟨hactive, ⟨hrate, -⟩ | ⟨-, -, heq⟩ | ⟨-, -, heq | heq⟩⟩ :=
    expireOffer_cases limits day attempt
  · rw [heq] at h
    cases h
    simp at hother
  · exact ⟨hactive, hrate⟩
  all_goals rw [heq] at h; cases h

theorem outcome_eq_refusedDaily (h : day.outcome limits attempt = .refusedDaily) :
    day.activeAt limits attempt ∧ ¬ day.rateExceeded limits attempt ∧
      day.dailyReached limits attempt := by
  unfold outcome at h
  obtain ⟨other, hother, heq⟩ | ⟨hactive, ⟨-, heq⟩ | ⟨hrate, hdaily, -⟩ | ⟨-, -, heq | heq⟩⟩ :=
    expireOffer_cases limits day attempt
  · rw [heq] at h
    cases h
    simp at hother
  · rw [heq] at h
    cases h
  · exact ⟨hactive, hrate, hdaily⟩
  all_goals rw [heq] at h; cases h

end Attempt

/-! ## Whole days -/

def Refused (limits : ExpiryLimits) (day : ExpiryDay) (attempt : ExpiryAttempt) : Prop :=
  day.outcome limits attempt = .refusedRate ∨ day.outcome limits attempt = .refusedDaily

def after (limits : ExpiryLimits) (offers : List Offer) (events : List DayEvent) : ExpiryDay :=
  run (step limits) (start offers) events

/-- An attempt is refused for the daily limit only if the expiries by hand have come to the
threshold and to a third of the offers created; and one refused after one that was turned away would
be refused without it. -/
structure Fair (limits : ExpiryLimits) (offers : List Offer) (events : List DayEvent) : Prop where
  justified : ∀ before attempt rest, events = before ++ .attempt attempt :: rest →
    (after limits offers before).outcome limits attempt = .refusedDaily →
      limits.dailyThreshold ≤ (after limits offers before).expiredCount ∧
        (after limits offers before).totalOffersToday limits / 3 ≤
          (after limits offers before).expiredCount
  harmless : ∀ before first more later rest,
    events = before ++ .attempt first :: (more ++ .attempt later :: rest) →
      ((after limits offers before).outcome limits first).turnedAway →
        (after limits offers (before ++ .attempt first :: more)).Refused limits later →
          (after limits offers (before ++ more)).Refused limits later

/-- The day's count with an attempt on an active offer stays below the threshold or a third of the
offers created; and the attempt exceeds the minute's limit only where none was turned away
before. -/
def BelowLimits (limits : ExpiryLimits) (day : ExpiryDay) (event : DayEvent) (_ : ExpiryDay) : Prop :=
  match event with
  | .attempt attempt =>
    day.activeAt limits attempt = true →
      if day.rateExceeded limits attempt then ∀ outcome ∈ day.outcomes, ¬ outcome.turnedAway
      else day.dailyCount attempt < limits.dailyThreshold ∨
        day.dailyCount attempt < day.totalOffersToday limits / 3
  | _ => True

instance (limits : ExpiryLimits) (day next : ExpiryDay) :
    (event : DayEvent) → Decidable (BelowLimits limits day event next)
  | .attempt attempt => inferInstanceAs (Decidable (day.activeAt limits attempt = true →
      if day.rateExceeded limits attempt then ∀ outcome ∈ day.outcomes, ¬ outcome.turnedAway
      else day.dailyCount attempt < limits.dailyThreshold ∨
        day.dailyCount attempt < day.totalOffersToday limits / 3))
  | .create _ => inferInstanceAs (Decidable True)
  | .settle _ _ => inferInstanceAs (Decidable True)

section Days

variable {limits : ExpiryLimits} {offers : List Offer}

theorem outcomes_attempt (day : ExpiryDay) (attempt : ExpiryAttempt) :
    (day.step limits (.attempt attempt)).outcomes = day.outcome limits attempt :: day.outcomes := by
  have hkept : (day.expireOffer limits attempt).2.outcomes = day.outcomes := by
    obtain ⟨other, -, h⟩ | ⟨-, ⟨-, h⟩ | ⟨-, -, h⟩ | ⟨-, -, h | h⟩⟩ :=
      expireOffer_cases limits day attempt <;> rw [h]
    · exact (rated_frame day attempt).2.2.2
    · exact (counted_frame day attempt).2
    · exact (counted_frame day attempt).2
    · exact (counted_frame day attempt).2
  exact congrArg (day.outcome limits attempt :: ·) hkept

theorem mem_outcomes_run {outcome : ExpiryOutcome} (events : List DayEvent) :
    ∀ day : ExpiryDay, outcome ∈ day.outcomes →
      outcome ∈ (run (step limits) day events).outcomes := by
  induction events with
  | nil => exact fun _ h => h
  | cons event events ih =>
    intro day h
    refine ih _ ?_
    cases event with
    | create offer => exact h
    | settle offerId status => exact h
    | attempt attempt =>
      rw [outcomes_attempt]
      exact List.mem_cons_of_mem _ h

theorem not_refusedDaily_of_belowLimits {day next : ExpiryDay} {attempt : ExpiryAttempt}
    (h : BelowLimits limits day (.attempt attempt) next) :
    day.outcome limits attempt ≠ .refusedDaily := by
  intro hrefused
  obtain ⟨hactive, hrate, hdaily⟩ := outcome_eq_refusedDaily hrefused
  have hbelow := h hactive
  rw [if_neg hrate] at hbelow
  have hreached : limits.dailyThreshold ≤ day.dailyCount attempt ∧
      day.totalOffersToday limits / 3 ≤ day.dailyCount attempt := of_decide_eq_true hdaily
  omega

theorem not_turnedAway_of_refusedRate {day next : ExpiryDay} {attempt : ExpiryAttempt}
    (h : BelowLimits limits day (.attempt attempt) next)
    (hrefused : day.outcome limits attempt = .refusedRate) :
    ∀ outcome ∈ day.outcomes, ¬ outcome.turnedAway := by
  obtain ⟨hactive, hrate⟩ := outcome_eq_refusedRate hrefused
  have hbelow := h hactive
  rw [if_pos hrate] at hbelow
  exact hbelow

/-- A day below the limits is fair: none is refused for the daily limit, and none after one turned
away. -/
theorem fair_of_belowLimits {events : List DayEvent}
    (h : EachStep (step limits) (BelowLimits limits) (start offers) events) :
    Fair limits offers events where
  justified := by
    rintro before attempt rest rfl hrefused
    obtain ⟨-, hstep, -⟩ := eachStep_append.1 h
    exact absurd hrefused (not_refusedDaily_of_belowLimits hstep)
  harmless := by
    rintro before first more later rest rfl hfirst hlater
    rw [← List.cons_append, ← List.append_assoc] at h
    obtain ⟨-, hstep, -⟩ := eachStep_append.1 h
    rcases hlater with hrate | hdaily
    · -- the first attempt is noted when the later one comes
      refine absurd hfirst (not_turnedAway_of_refusedRate hstep hrate _ ?_)
      rw [run_append, run_cons]
      refine mem_outcomes_run more _ ?_
      rw [outcomes_attempt]
      exact List.mem_cons_self
    · exact absurd hdaily (not_refusedDaily_of_belowLimits hstep)

theorem expireRow_createdAt (attempt : ExpiryAttempt) (offer : Offer) :
    (expireRow limits attempt offer).createdAt = offer.createdAt := by
  unfold expireRow applyOfferExpiry
  dsimp only
  split
  · next heq =>
    split_ifs at heq
    cases heq
    rfl
  · rfl

theorem countP_createdAt_setRow (rows : List Offer) (offerId : Nat) {write : Offer → Offer}
    (hwrite : ∀ offer, (write offer).createdAt = offer.createdAt) (P : Option Int → Bool) :
    (setRow Offer.id offerId write rows).countP (fun offer => P offer.createdAt) =
      rows.countP fun offer => P offer.createdAt := by
  rw [setRow, List.countP_map]
  refine List.countP_congr fun offer _ => ?_
  simp only [Function.comp_apply]
  split
  · rw [hwrite]
  · rfl

/-- The expiries by hand are among the attempts Redis counted, and below the limit. -/
def Ahead (limits : ExpiryLimits) (day : ExpiryDay) : Prop :=
  day.expiredCount ≤ day.dailyExpire ∧
    (day.expiredCount < limits.dailyThreshold ∨
      day.expiredCount < day.totalOffersToday limits / 3)

theorem Ahead.attempt {day : ExpiryDay} (h : Ahead limits day) {attempt : ExpiryAttempt}
    (hanswered : attempt.dailyTracking = .answered) :
    Ahead limits (day.step limits (.attempt attempt)) := by
  obtain ⟨hcounted, hbelow⟩ := h
  obtain ⟨hexpire, hcount⟩ := counted_dailyExpire day hanswered
  obtain ⟨hoffers, houtcomes⟩ := counted_frame day attempt
  unfold Ahead expiredCount
  rw [outcomes_attempt, outcome, List.count_cons]
  change day.outcomes.count .expired ≤ day.dailyExpire at hcounted
  unfold expiredCount at hbelow
  -- attempts that are not counted leave the day as it is; the others are counted in Redis
  have hsame : ∀ next : ExpiryDay, next.offers = day.offers → day.dailyExpire ≤ next.dailyExpire →
      day.outcomes.count .expired + 0 ≤ next.dailyExpire ∧
        (((day.outcomes.count .expired + 0 : Nat) : Int) < limits.dailyThreshold ∨
          day.outcomes.count .expired + 0 < next.totalOffersToday limits / 3) := by
    intro next hnext hle
    refine ⟨Nat.le_trans hcounted hle, ?_⟩
    rw [totalOffersToday, hnext]
    exact hbelow
  simp only [step]
  obtain ⟨other, hother, heq⟩ | ⟨-, ⟨-, heq⟩ | ⟨-, -, heq⟩ | ⟨-, hdaily, heq | heq⟩⟩ :=
    expireOffer_cases limits day attempt
  · rw [heq, if_neg (by rintro h; simp at h; rw [h] at hother; simp at hother)]
    exact hsame _ rfl le_rfl
  · rw [heq]
    exact hsame _ (rated_frame day attempt).1 (rated_frame day attempt).2.1.ge
  · rw [heq]
    exact hsame _ hoffers (by simp only; omega)
  · rw [heq]
    exact hsame _ hoffers (by simp only; omega)
  · rw [heq]
    -- the expiry is below the limit, since its number was
    have hnot : ¬ (limits.dailyThreshold ≤ day.dailyCount attempt ∧
        day.totalOffersToday limits / 3 ≤ day.dailyCount attempt) :=
      fun h => hdaily (decide_eq_true h)
    have htotal : totalOffersToday limits { day.counted attempt with
        offers := setRow Offer.id attempt.offerId (expireRow limits attempt)
          (day.counted attempt).offers } = day.totalOffersToday limits := by
      rw [totalOffersToday, countP_createdAt_setRow _ _ (expireRow_createdAt attempt), hoffers]
      rfl
    refine ⟨?_, ?_⟩
    · change day.outcomes.count .expired + 1 ≤ (day.counted attempt).dailyExpire
      omega
    · change ((day.outcomes.count .expired + 1 : Nat) : Int) < limits.dailyThreshold ∨
        day.outcomes.count .expired + 1 < totalOffersToday limits { day.counted attempt with
          offers := setRow Offer.id attempt.offerId (expireRow limits attempt)
            (day.counted attempt).offers } / 3
      rw [htotal]
      omega

theorem Ahead.step {day : ExpiryDay} (h : Ahead limits day) {event : DayEvent}
    (hanswered : ∀ attempt, event = .attempt attempt → attempt.dailyTracking = .answered) :
    Ahead limits (day.step limits event) := by
  cases event with
  | create offer =>
    have htotal : day.totalOffersToday limits ≤
        (day.step limits (.create offer)).totalOffersToday limits := by
      rw [totalOffersToday, totalOffersToday, ExpiryDay.step, List.countP_append]
      exact Nat.le_add_right _ _
    have hthird := Nat.div_le_div_right (c := 3) htotal
    exact ⟨h.1, h.2.imp_right fun hbelow => Nat.lt_of_lt_of_le hbelow hthird⟩
  | settle offerId status =>
    have htotal : (day.step limits (.settle offerId status)).totalOffersToday limits =
        day.totalOffersToday limits :=
      countP_createdAt_setRow day.offers offerId (fun offer => rfl : ∀ offer, (settleRow status offer).createdAt = offer.createdAt)
        fun createdAt => createdAt.any (limits.startOfDay ≤ ·)
    refine ⟨h.1, ?_⟩
    rw [htotal]
    exact h.2
  | attempt attempt => exact h.attempt (hanswered attempt rfl)

end Days

/-- A day is fair where its attempts stay below the limits. While Redis answers and the threshold is
positive it is fair only if no attempt is refused for the daily limit: such a refusal comes before
the expiries by hand have reached it. -/
theorem expiries_fair (limits : ExpiryLimits) (offers : List Offer) (events : List DayEvent) :
    (EachStep (step limits) (BelowLimits limits) (start offers) events →
      Fair limits offers events) ∧
    (0 < limits.dailyThreshold →
      (∀ attempt, .attempt attempt ∈ events → attempt.dailyTracking = .answered) →
        Fair limits offers events → ∀ before attempt rest, events = before ++ .attempt attempt :: rest →
          (after limits offers before).outcome limits attempt ≠ .refusedDaily) := by
  refine ⟨fair_of_belowLimits, ?_⟩
  rintro hpositive hanswered hfair before attempt rest rfl hrefused
  have hstart : Ahead limits (start offers) := ⟨Nat.le_refl _, .inl hpositive⟩
  have hahead : Ahead limits (after limits offers before) :=
    run_invariant (I := Ahead limits)
      (C := fun _ event _ => ∀ attempt, event = .attempt attempt → attempt.dailyTracking = .answered)
      (fun _ _ h hevent => h.step hevent) before (start offers) hstart
      (eachStep_of_mem before _ fun event hevent _ _ attempt heq =>
        hanswered attempt (List.mem_append_left _ (heq ▸ hevent)))
  obtain ⟨hthreshold, hthird⟩ := hfair.justified before attempt rest rfl hrefused
  obtain ⟨-, hbelow⟩ := hahead
  omega

/-- Offers of this server, numbered, and attempts on them more than a minute apart. -/
def plainOffer (id : Nat) : Offer :=
  { id, offerPublicId := "", userId := some 1, homeServer := "iran", offerType := .sell,
    commodityId := 1, quantity := 5, price := 1, remainingQuantity := some 5, isWholesale := true,
    lotSizes := none, overtimeMinutesSnapshot := 0, overtimeTradeCommitted := false,
    status := .active, expireReason := none, expiredAt := none, expiredByUserId := none,
    expiredByActorUserId := none, expireSourceSurface := none, expireSourceServer := none,
    createdAt := some 0 }

def plainAttempt (id : Nat) : ExpiryAttempt :=
  { offerId := id, owner := 1, actor := 1, now := 2 * minute * id, process := 0,
    rateTracking := .answered, dailyTracking := .answered, commits := true }

def plainLimits : ExpiryLimits := { server := .iran, startOfDay := 0 }

/-- Offers are created, and the first nine are expired by hand. -/
def nineExpired : List DayEvent :=
  (List.range 12).map (fun id => .create (plainOffer id)) ++
    (List.range 9).map fun id => .attempt (plainAttempt id)

theorem nineExpired_fair : Fair plainLimits [] nineExpired :=
  (expiries_fair plainLimits [] nineExpired).1 (by decide +kernel)

/-- The tenth attempt is refused after nine expiries; and with more offers created a later one is
refused that would not be refused without it. -/
theorem tenth_expiry_refused :
    ¬ Fair plainLimits [] (nineExpired ++ [.attempt (plainAttempt 9)]) ∧
    ((after plainLimits [] nineExpired).outcome plainLimits (plainAttempt 9)).turnedAway ∧
    (after plainLimits [] (nineExpired ++ .attempt (plainAttempt 9) ::
      (List.range 21).map fun id => .create (plainOffer (id + 12)))).Refused plainLimits
        (plainAttempt 10) ∧
    ¬ (after plainLimits [] (nineExpired ++
      (List.range 21).map fun id => .create (plainOffer (id + 12)))).Refused plainLimits
        (plainAttempt 10) := by
  refine ⟨fun hfair => ?_, by decide +kernel, .inr (by decide +kernel), ?_⟩
  · have hjustified := hfair.justified nineExpired (plainAttempt 9) [] rfl (by decide +kernel)
    revert hjustified
    decide +kernel
  · rintro (hrate | hdaily)
    · revert hrate
      decide +kernel
    · revert hdaily
      decide +kernel

end ExpiryDay

end TradingBot
