import Mathlib.Data.List.Dedup
import Mathlib.Data.List.Sort

/-!
# The market schedule

`core/services/market_schedule_service.py`: weekly hours, closed weekdays and overrides of single
dates decide whether the market is open, when it came to the present state and when it changes next.

Instants and readings of the wall clock are microseconds since the epoch, days are numbered from it,
a Thursday. A time zone is the reading at an instant and the instant of a reading. The settings hold
the two local times as parsed; a text that is no time is none.
-/

namespace TradingBot.Market

def dayLength : Int := 86400000000

structure MarketZone where
  wall : Int → Int
  instant : Int → Int

def tehran : MarketZone where
  wall instant := instant + 12600000000
  instant wall := wall - 12600000000

def dateOf (wall : Int) : Int := wall / dayLength

def timeOf (wall : Int) : Int := wall % dayLength

/-- `date.weekday()`, with Monday as 0. -/
def weekday (date : Int) : Int := (date + 3) % 7

/-- `datetime.combine`. -/
def combine (date time : Int) : Int := date * dayLength + time

/-- `MarketScheduleOverrideType`. -/
inductive MarketScheduleOverrideType where
  | closedAllDay
  | openAllDay
  | customHours
  deriving DecidableEq, Repr

/-- A row of `market_schedule_overrides`, one for a date. -/
structure MarketScheduleOverride where
  date : Int
  overrideType : MarketScheduleOverrideType
  openTimeLocal : Option Int := none
  closeTimeLocal : Option Int := none
  deriving DecidableEq, Repr

structure ScheduleSettings where
  marketScheduleEnabled : Bool := false
  marketOpenTimeLocal : Option Int := some 32400000000
  marketCloseTimeLocal : Option Int := some 64800000000
  marketClosedWeekdays : List Int := []
  deriving DecidableEq, Repr

inductive DayRuleSource where
  | overrideClosedAllDay
  | overrideOpenAllDay
  | overrideCustomHours
  | invalidSchedule
  | weeklyClosedDay
  | dailyWindow
  deriving DecidableEq, Repr

def DayRuleSource.text : DayRuleSource → String
  | overrideClosedAllDay => "override_closed_all_day"
  | overrideOpenAllDay => "override_open_all_day"
  | overrideCustomHours => "override_custom_hours"
  | invalidSchedule => "invalid_schedule"
  | weeklyClosedDay => "weekly_closed_day"
  | dailyWindow => "daily_window"

/-- `_DayRule`. -/
structure DayRule where
  source : DayRuleSource
  allDayOpen : Bool := false
  allDayClosed : Bool := false
  openTimeLocal : Option Int := none
  closeTimeLocal : Option Int := none
  deriving DecidableEq, Repr

def hoursRule (source : DayRuleSource) (openTimeLocal closeTimeLocal : Option Int) : DayRule :=
  match openTimeLocal, closeTimeLocal with
  | some opens, some closes =>
    if closes ≤ opens then { source := .invalidSchedule, allDayClosed := true }
    else { source := source, openTimeLocal := some opens, closeTimeLocal := some closes }
  | _, _ => { source := .invalidSchedule, allDayClosed := true }

def resolveDayRule (targetDate : Int) (settings : ScheduleSettings)
    (overrides : List MarketScheduleOverride) : DayRule :=
  match overrides.find? fun override => override.date = targetDate with
  | some override =>
    match override.overrideType with
    | .closedAllDay => { source := .overrideClosedAllDay, allDayClosed := true }
    | .openAllDay => { source := .overrideOpenAllDay, allDayOpen := true }
    | .customHours =>
      hoursRule .overrideCustomHours override.openTimeLocal override.closeTimeLocal
  | none =>
    if settings.marketClosedWeekdays.contains (weekday targetDate) then
      { source := .weeklyClosedDay, allDayClosed := true }
    else hoursRule .dailyWindow settings.marketOpenTimeLocal settings.marketCloseTimeLocal

def isOpenForRule (local_ : Int) (rule : DayRule) : Bool :=
  if rule.source = .invalidSchedule then false
  else if rule.allDayOpen then true
  else if rule.allDayClosed then false
  else
    match rule.openTimeLocal, rule.closeTimeLocal with
    | some opens, some closes => opens ≤ timeOf local_ && timeOf local_ < closes
    | _, _ => false

def isMarketOpenAt (local_ : Int) (settings : ScheduleSettings)
    (overrides : List MarketScheduleOverride) : Bool :=
  if settings.marketScheduleEnabled = false then true
  else isOpenForRule local_ (resolveDayRule (dateOf local_) settings overrides)

def reasonForLocalTime (local_ : Int) (rule : DayRule) : String :=
  if rule.source = .invalidSchedule then rule.source.text
  else if rule.allDayOpen then rule.source.text
  else if rule.allDayClosed then rule.source.text
  else if rule.openTimeLocal.any fun opens => decide (timeOf local_ < opens) then
    "before_" ++ rule.source.text ++ "_open"
  else if rule.closeTimeLocal.any fun closes => decide (closes ≤ timeOf local_) then
    "after_" ++ rule.source.text ++ "_close"
  else rule.source.text ++ "_open"

/-- `NEXT_TRANSITION_SEARCH_DAYS`. -/
def nextTransitionSearchDays : Nat := 14

def dayCandidates (targetDate : Int) (settings : ScheduleSettings)
    (overrides : List MarketScheduleOverride) : List Int :=
  let rule := resolveDayRule targetDate settings overrides
  combine targetDate 0 ::
    if rule.source = .invalidSchedule then []
    else (rule.openTimeLocal.map (combine targetDate)).toList ++
      (rule.closeTimeLocal.map (combine targetDate)).toList

def candidateTransitionDatetimes (nowLocal : Int) (settings : ScheduleSettings)
    (overrides : List MarketScheduleOverride) : List Int :=
  let days := (List.range (nextTransitionSearchDays + 1)).map fun offset =>
    dateOf nowLocal + (offset : Int)
  let candidates := days.flatMap fun date => dayCandidates date settings overrides
  (candidates.filter fun candidate => nowLocal < candidate).dedup.insertionSort (· ≤ ·)

def changesAt (candidate : Int) (settings : ScheduleSettings)
    (overrides : List MarketScheduleOverride) : Bool :=
  isMarketOpenAt (candidate - 1) settings overrides ≠ isMarketOpenAt candidate settings overrides

def nextTransitionAt (nowLocal : Int) (settings : ScheduleSettings)
    (overrides : List MarketScheduleOverride) : Option Int :=
  if settings.marketScheduleEnabled = false then none
  else (candidateTransitionDatetimes nowLocal settings overrides).find? fun candidate =>
    changesAt candidate settings overrides

def currentTransitionAt (nowLocal : Int) (settings : ScheduleSettings)
    (overrides : List MarketScheduleOverride) : Option Int :=
  if settings.marketScheduleEnabled = false then none
  else
    let currentState := isMarketOpenAt nowLocal settings overrides
    let days := (List.range (nextTransitionSearchDays + 1)).map fun offset =>
      dateOf nowLocal - nextTransitionSearchDays + (offset : Int)
    let candidates := days.flatMap fun date => dayCandidates date settings overrides
    ((candidates.filter fun candidate => candidate ≤ nowLocal).dedup.insertionSort
      (· ≥ ·)).find? fun candidate => changesAt candidate settings overrides &&
        (isMarketOpenAt candidate settings overrides == currentState)

/-- `MarketScheduleEvaluation`, with the transitions as readings of the wall clock. -/
structure MarketScheduleEvaluation where
  isOpen : Bool
  reason : String
  nextTransitionAt : Option Int
  currentTransitionAt : Option Int := none
  deriving DecidableEq, Repr

def evaluateMarketSchedule (settings : ScheduleSettings) (nowLocal : Int)
    (overrides : List MarketScheduleOverride) : MarketScheduleEvaluation :=
  if settings.marketScheduleEnabled = false then
    { isOpen := true, reason := "schedule_disabled", nextTransitionAt := none }
  else
    let rule := resolveDayRule (dateOf nowLocal) settings overrides
    { isOpen := isOpenForRule nowLocal rule
      reason := reasonForLocalTime nowLocal rule
      nextTransitionAt := nextTransitionAt nowLocal settings overrides
      currentTransitionAt := currentTransitionAt nowLocal settings overrides }

/-- `load_market_schedule_overrides_window` (market_transition_service.py:874). -/
def loadMarketScheduleOverridesWindow (overrides : List MarketScheduleOverride) (nowLocal : Int) :
    List MarketScheduleOverride :=
  overrides.filter fun override => dateOf nowLocal ≤ override.date &&
    override.date ≤ dateOf nowLocal + nextTransitionSearchDays

/-- What a server is configured with: its time zone, settings and overrides. -/
structure MarketSchedule where
  zone : MarketZone
  settings : ScheduleSettings
  overrides : List MarketScheduleOverride

/-- `evaluate_current_market_schedule` (market_transition_service.py:897). -/
def evaluateCurrentMarketSchedule (schedule : MarketSchedule) (now : Int) :
    MarketScheduleEvaluation :=
  let nowLocal := schedule.zone.wall now
  evaluateMarketSchedule schedule.settings nowLocal
    (loadMarketScheduleOverridesWindow schedule.overrides nowLocal)

def MarketSchedule.isOpen (schedule : MarketSchedule) (now : Int) : Bool :=
  (evaluateCurrentMarketSchedule schedule now).isOpen

def defaultHours : MarketSchedule where
  zone := tehran
  settings := { marketScheduleEnabled := true }
  overrides := []

structure IsNextClosing (schedule : MarketSchedule) (since closing : Int) : Prop where
  later : since < closing
  closed : schedule.isOpen closing = false
  openBefore : ∀ instant, since ≤ instant → instant < closing → schedule.isOpen instant = true

theorem exists_nextClosing {schedule : MarketSchedule} {since now : Int}
    (hopen : schedule.isOpen since = true) (hlater : since ≤ now)
    (hclosed : schedule.isOpen now = false) :
    ∃ closing, IsNextClosing schedule since closing ∧ closing ≤ now := by
  have hexists : ∃ steps : Nat, schedule.isOpen (since + steps) = false := by
    refine ⟨(now - since).toNat, ?_⟩
    rw [Int.toNat_of_nonneg (by omega)]
    rwa [show since + (now - since) = now by omega]
  refine ⟨since + Nat.find hexists, ⟨?_, Nat.find_spec hexists, ?_⟩, ?_⟩
  · have hpos : Nat.find hexists ≠ 0 := by
      intro hzero
      have hspec := Nat.find_spec hexists
      simp [hzero, hopen] at hspec
    omega
  · intro instant hsince hbefore
    have hmin := Nat.find_min hexists (m := (instant - since).toNat) (by omega)
    rw [Int.toNat_of_nonneg (by omega), show since + (instant - since) = instant by omega] at hmin
    exact Bool.not_eq_false _ ▸ hmin
  · have hmin : Nat.find hexists ≤ (now - since).toNat := by
      refine Nat.find_min' hexists ?_
      rw [Int.toNat_of_nonneg (by omega)]
      rwa [show since + (now - since) = now by omega]
    omega

end TradingBot.Market
