import TradingBot.Market.Schedule
import TradingBot.Misc.Timeline

/-!
# The transitions of the schedule

The instants `evaluate_market_schedule` (src/core/services/market_schedule_service.py:243) reports:
the next change of the state and the one that brought the present state. The candidates are the
midnights and the hours of the days around today. A state changes only at a candidate of its own
day, so the first change among the sorted candidates is the first of all.
-/

namespace TradingBot.Market

open TradingBot.Misc

def IsLocalTime (time : Option Int) : Prop := ∀ value ∈ time, 0 ≤ value ∧ value < dayLength

theorem isLocalTime_none : IsLocalTime none := fun _ h => nomatch h

structure LocalTimes (settings : ScheduleSettings) (overrides : List MarketScheduleOverride) : Prop where
  opens : IsLocalTime settings.marketOpenTimeLocal
  closes : IsLocalTime settings.marketCloseTimeLocal
  overrideOpens : ∀ override ∈ overrides, IsLocalTime override.openTimeLocal
  overrideCloses : ∀ override ∈ overrides, IsLocalTime override.closeTimeLocal

section Days

variable {settings : ScheduleSettings} {overrides : List MarketScheduleOverride} {date reading : Int}

theorem combine_dateOf_timeOf (reading : Int) : combine (dateOf reading) (timeOf reading) = reading := by
  unfold combine dateOf timeOf
  rw [Int.mul_comm]
  exact Int.mul_ediv_add_emod reading dayLength

theorem dateOf_combine {time : Int} (hlower : 0 ≤ time) (hupper : time < dayLength) :
    dateOf (combine date time) = date := by
  unfold dateOf combine
  unfold dayLength at *
  omega

theorem dateOf_pred (h : reading ≠ combine (dateOf reading) 0) :
    dateOf (reading - 1) = dateOf reading ∧ timeOf (reading - 1) = timeOf reading - 1 := by
  unfold combine dateOf timeOf dayLength at *
  omega

theorem hoursRule_times {source : DayRuleSource} {opens closes : Option Int} (hopens : IsLocalTime opens)
    (hcloses : IsLocalTime closes) :
    IsLocalTime (hoursRule source opens closes).openTimeLocal ∧
      IsLocalTime (hoursRule source opens closes).closeTimeLocal := by
  unfold hoursRule
  split
  · split
    · exact ⟨isLocalTime_none, isLocalTime_none⟩
    · exact ⟨hopens, hcloses⟩
  · exact ⟨isLocalTime_none, isLocalTime_none⟩

theorem resolveDayRule_times (h : LocalTimes settings overrides) (date : Int) :
    IsLocalTime (resolveDayRule date settings overrides).openTimeLocal ∧
      IsLocalTime (resolveDayRule date settings overrides).closeTimeLocal := by
  unfold resolveDayRule
  split
  · rename_i override hfound
    have hmem := List.mem_of_find?_eq_some hfound
    split
    · exact ⟨isLocalTime_none, isLocalTime_none⟩
    · exact ⟨isLocalTime_none, isLocalTime_none⟩
    · exact hoursRule_times (h.overrideOpens override hmem) (h.overrideCloses override hmem)
  · split
    · exact ⟨isLocalTime_none, isLocalTime_none⟩
    · exact hoursRule_times h.opens h.closes

theorem dateOf_of_mem_dayCandidates (h : LocalTimes settings overrides)
    (hmem : reading ∈ dayCandidates date settings overrides) : dateOf reading = date := by
  obtain ⟨hopens, hcloses⟩ := resolveDayRule_times h date
  simp only [dayCandidates, List.mem_cons] at hmem
  rcases hmem with rfl | hmem
  · exact dateOf_combine (Int.le_refl 0) (by decide)
  · split at hmem
    · cases hmem
    · rw [List.mem_append, Option.mem_toList, Option.mem_toList, Option.map_eq_some_iff,
        Option.map_eq_some_iff] at hmem
      rcases hmem with ⟨time, htime, rfl⟩ | ⟨time, htime, rfl⟩
      · exact dateOf_combine (hopens time htime).1 (hopens time htime).2
      · exact dateOf_combine (hcloses time htime).1 (hcloses time htime).2

theorem mem_dayCandidates_of_changesAt (h : changesAt reading settings overrides = true) :
    reading ∈ dayCandidates (dateOf reading) settings overrides := by
  by_cases hmidnight : reading = combine (dateOf reading) 0
  · simp only [dayCandidates, List.mem_cons]
    exact .inl hmidnight
  · obtain ⟨hdate, htime⟩ := dateOf_pred hmidnight
    simp only [changesAt, isMarketOpenAt, hdate, decide_eq_true_eq, ne_eq] at h
    simp only [dayCandidates, List.mem_cons]
    right
    split at h
    · exact absurd rfl h
    · revert h
      generalize resolveDayRule (dateOf reading) settings overrides = rule
      intro h
      simp only [isOpenForRule, htime] at h
      by_cases hinvalid : rule.source = .invalidSchedule
      · simp [hinvalid] at h
      · by_cases hopen : rule.allDayOpen = true
        · simp [hinvalid, hopen] at h
        · by_cases hclosed : rule.allDayClosed = true
          · simp [hinvalid, hopen, hclosed] at h
          · cases hopens : rule.openTimeLocal with
            | none => simp [hinvalid, hopen, hclosed, hopens] at h
            | some opens =>
              cases hcloses : rule.closeTimeLocal with
              | none => simp [hinvalid, hopen, hclosed, hopens, hcloses] at h
              | some closes =>
                -- the two comparisons differ only at the opening and at the closing
                have hat : opens = timeOf reading ∨ closes = timeOf reading := by
                  by_contra hneither
                  apply h
                  simp only [hinvalid, hopen, hclosed, hopens, hcloses, if_false, Bool.false_eq_true]
                  rw [← Bool.decide_and, ← Bool.decide_and, decide_eq_decide]
                  omega
                rw [if_neg hinvalid, List.mem_append]
                rcases hat with rfl | rfl
                · left
                  simp [combine_dateOf_timeOf]
                · right
                  simp [combine_dateOf_timeOf]

end Days

/-! ## The reported readings -/

section Readings

variable {settings : ScheduleSettings} {overrides : List MarketScheduleOverride} {now reading : Int}

theorem dateOf_le {first last : Int} (hle : first ≤ last) : dateOf first ≤ dateOf last :=
  Int.ediv_le_ediv (by decide) hle

theorem changesAt_of_disabled (h : settings.marketScheduleEnabled = false) :
    changesAt reading settings overrides = false := by
  simp [changesAt, isMarketOpenAt, h]

theorem mem_candidates_of_changesAt (hlater : now < reading)
    (hdays : dateOf reading ≤ dateOf now + nextTransitionSearchDays)
    (hchange : changesAt reading settings overrides = true) :
    reading ∈ candidateTransitionDatetimes now settings overrides := by
  have hdate := dateOf_le (Int.le_of_lt hlater)
  simp only [candidateTransitionDatetimes, List.mem_insertionSort, List.mem_dedup, List.mem_filter,
    List.mem_flatMap, List.mem_map, List.bind_eq_flatMap, List.pure_def, List.mem_range,
    List.mem_singleton, decide_eq_true_eq]
  refine ⟨⟨dateOf reading, ⟨dateOf reading - dateOf now,
    ⟨(dateOf reading - dateOf now).toNat, ?_, ?_⟩, ?_⟩, mem_dayCandidates_of_changesAt hchange⟩, hlater⟩
  · unfold nextTransitionSearchDays at *
    omega
  · exact (Int.toNat_of_nonneg (by omega)).symm
  · omega

theorem bounds_of_mem_candidates (h : LocalTimes settings overrides)
    (hmem : reading ∈ candidateTransitionDatetimes now settings overrides) :
    now < reading ∧ dateOf reading ≤ dateOf now + nextTransitionSearchDays := by
  simp only [candidateTransitionDatetimes, List.mem_insertionSort, List.mem_dedup, List.mem_filter,
    List.mem_flatMap, List.mem_map, List.bind_eq_flatMap, List.pure_def, List.mem_range,
    List.mem_singleton, decide_eq_true_eq] at hmem
  obtain ⟨⟨date, ⟨shift, ⟨offset, hoffset, rfl⟩, rfl⟩, hcandidate⟩, hlater⟩ := hmem
  refine ⟨hlater, ?_⟩
  rw [dateOf_of_mem_dayCandidates h hcandidate]
  omega

/-- `_next_transition_at` is the first change after the present reading in the days that are searched. -/
theorem nextTransitionAt_eq_some_iff (h : LocalTimes settings overrides) :
    nextTransitionAt now settings overrides = some reading ↔
      (now < reading ∧ dateOf reading ≤ dateOf now + nextTransitionSearchDays) ∧
        changesAt reading settings overrides = true ∧
        ∀ other, now < other → changesAt other settings overrides = true → reading ≤ other := by
  unfold nextTransitionAt
  split
  · rename_i hdisabled
    simp [changesAt_of_disabled hdisabled]
  · have hsorted : (candidateTransitionDatetimes now settings overrides).Pairwise (· ≤ ·) :=
      List.pairwise_insertionSort _ _
    rw [find?_eq_some_iff_of_sorted Int.le_refl (fun _ _ => Int.le_antisymm) hsorted]
    constructor
    · rintro ⟨hmem, hchange, hfirst⟩
      obtain ⟨hlater, hdays⟩ := bounds_of_mem_candidates h hmem
      refine ⟨⟨hlater, hdays⟩, hchange, fun other hother hchanges => ?_⟩
      by_contra hbefore
      have hle : other ≤ reading := Int.le_of_lt (Int.not_le.mp hbefore)
      exact hbefore (hfirst other
        (mem_candidates_of_changesAt hother (Int.le_trans (dateOf_le hle) hdays) hchanges) hchanges)
    · rintro ⟨⟨hlater, hdays⟩, hchange, hfirst⟩
      refine ⟨mem_candidates_of_changesAt hlater hdays hchange, hchange, fun other hother hchanges => ?_⟩
      exact hfirst other (bounds_of_mem_candidates h hother).1 hchanges

theorem nextTransitionAt_eq_none_iff (h : LocalTimes settings overrides) :
    nextTransitionAt now settings overrides = none ↔
      ∀ reading, now < reading → dateOf reading ≤ dateOf now + nextTransitionSearchDays →
        changesAt reading settings overrides = false := by
  unfold nextTransitionAt
  split
  · rename_i hdisabled
    simp [changesAt_of_disabled hdisabled]
  · rw [List.find?_eq_none]
    constructor
    · intro hnone reading hlater hdays
      by_contra hchange
      have htrue := Bool.eq_true_of_not_eq_false hchange
      exact hnone reading (mem_candidates_of_changesAt hlater hdays htrue) htrue
    · intro hnone reading hmem hchange
      obtain ⟨hlater, hdays⟩ := bounds_of_mem_candidates h hmem
      rw [hnone reading hlater hdays] at hchange
      cases hchange

def lookBackCandidates (now : Int) (settings : ScheduleSettings)
    (overrides : List MarketScheduleOverride) : List Int :=
  let days := (List.range (nextTransitionSearchDays + 1)).map fun offset =>
    dateOf now - nextTransitionSearchDays + (offset : Int)
  let candidates := days.flatMap fun date => dayCandidates date settings overrides
  (candidates.filter fun candidate => candidate ≤ now).dedup.insertionSort (· ≥ ·)

theorem currentTransitionAt_eq (h : settings.marketScheduleEnabled ≠ false) :
    currentTransitionAt now settings overrides =
      (lookBackCandidates now settings overrides).find? fun candidate =>
        changesAt candidate settings overrides &&
          (isMarketOpenAt candidate settings overrides == isMarketOpenAt now settings overrides) := by
  rw [currentTransitionAt, if_neg h]
  rfl

theorem mem_lookBackCandidates_of_changesAt (hbefore : reading ≤ now)
    (hdays : dateOf now - nextTransitionSearchDays ≤ dateOf reading)
    (hchange : changesAt reading settings overrides = true) :
    reading ∈ lookBackCandidates now settings overrides := by
  have hdate := dateOf_le hbefore
  simp only [lookBackCandidates, List.mem_insertionSort, List.mem_dedup, List.mem_filter,
    List.mem_flatMap, List.mem_map, List.bind_eq_flatMap, List.pure_def, List.mem_range,
    List.mem_singleton, decide_eq_true_eq]
  refine ⟨⟨dateOf reading, ⟨dateOf reading - (dateOf now - nextTransitionSearchDays),
    ⟨(dateOf reading - (dateOf now - nextTransitionSearchDays)).toNat, ?_, ?_⟩, ?_⟩,
    mem_dayCandidates_of_changesAt hchange⟩, hbefore⟩
  · unfold nextTransitionSearchDays at *
    omega
  · exact (Int.toNat_of_nonneg (by omega)).symm
  · omega

theorem bounds_of_mem_lookBackCandidates (h : LocalTimes settings overrides)
    (hmem : reading ∈ lookBackCandidates now settings overrides) :
    reading ≤ now ∧ dateOf now - nextTransitionSearchDays ≤ dateOf reading := by
  simp only [lookBackCandidates, List.mem_insertionSort, List.mem_dedup, List.mem_filter,
    List.mem_flatMap, List.mem_map, List.bind_eq_flatMap, List.pure_def, List.mem_range,
    List.mem_singleton, decide_eq_true_eq] at hmem
  obtain ⟨⟨date, ⟨shift, ⟨offset, hoffset, rfl⟩, rfl⟩, hcandidate⟩, hbefore⟩ := hmem
  refine ⟨hbefore, ?_⟩
  rw [dateOf_of_mem_dayCandidates h hcandidate]
  omega

def changedInto (now : Int) (settings : ScheduleSettings) (overrides : List MarketScheduleOverride)
    (reading : Int) : Prop :=
  changesAt reading settings overrides = true ∧
    isMarketOpenAt reading settings overrides = isMarketOpenAt now settings overrides

/-- `_current_transition_at` is the last change into the present state in the days that are searched. -/
theorem currentTransitionAt_eq_some_iff (h : LocalTimes settings overrides) :
    currentTransitionAt now settings overrides = some reading ↔
      (reading ≤ now ∧ dateOf now - nextTransitionSearchDays ≤ dateOf reading) ∧
        changedInto now settings overrides reading ∧
        ∀ other, other ≤ now → changedInto now settings overrides other → other ≤ reading := by
  by_cases hdisabled : settings.marketScheduleEnabled = false
  · simp [currentTransitionAt, hdisabled, changedInto, changesAt_of_disabled hdisabled]
  · have hsorted : (lookBackCandidates now settings overrides).Pairwise (· ≥ ·) :=
      List.pairwise_insertionSort _ _
    rw [currentTransitionAt_eq hdisabled, find?_eq_some_iff_of_sorted (r := (· ≥ ·)) Int.le_refl
      (fun _ _ hge hle => Int.le_antisymm hle hge) hsorted]
    simp only [Bool.and_eq_true, beq_iff_eq]
    constructor
    · rintro ⟨hmem, hinto, hlast⟩
      obtain ⟨hbefore, hdays⟩ := bounds_of_mem_lookBackCandidates h hmem
      refine ⟨⟨hbefore, hdays⟩, hinto, fun other hother hchanged => ?_⟩
      by_contra hafter
      have hle : reading ≤ other := Int.le_of_lt (Int.not_le.mp hafter)
      exact hafter (hlast other (mem_lookBackCandidates_of_changesAt hother
        (Int.le_trans hdays (dateOf_le hle)) hchanged.1) hchanged)
    · rintro ⟨⟨hbefore, hdays⟩, hinto, hlast⟩
      refine ⟨mem_lookBackCandidates_of_changesAt hbefore hdays hinto.1, hinto,
        fun other hother hchanged => ?_⟩
      exact hlast other (bounds_of_mem_lookBackCandidates h hother).1 hchanged

theorem currentTransitionAt_eq_none_iff (h : LocalTimes settings overrides) :
    currentTransitionAt now settings overrides = none ↔
      ∀ reading, reading ≤ now → dateOf now - nextTransitionSearchDays ≤ dateOf reading →
        ¬ changedInto now settings overrides reading := by
  by_cases hdisabled : settings.marketScheduleEnabled = false
  · simp [currentTransitionAt, hdisabled, changedInto, changesAt_of_disabled hdisabled]
  · rw [currentTransitionAt_eq hdisabled, List.find?_eq_none]
    simp only [Bool.and_eq_true, beq_iff_eq]
    constructor
    · intro hnone reading hbefore hdays hchanged
      exact hnone reading (mem_lookBackCandidates_of_changesAt hbefore hdays hchanged.1) hchanged
    · intro hnone reading hmem hchanged
      obtain ⟨hbefore, hdays⟩ := bounds_of_mem_lookBackCandidates h hmem
      exact hnone reading hbefore hdays hchanged

end Readings

/-! ## Instants -/

def fixedZone (offset : Int) : MarketZone where
  wall instant := instant + offset
  instant wall := wall - offset

def openAt (settings : ScheduleSettings) (overrides : List MarketScheduleOverride) (zone : MarketZone)
    (instant : Int) : Bool :=
  (evaluateMarketSchedule settings (zone.wall instant) overrides).isOpen

def reportedNext (settings : ScheduleSettings) (overrides : List MarketScheduleOverride)
    (zone : MarketZone) (now : Int) : Option Int :=
  (evaluateMarketSchedule settings (zone.wall now) overrides).nextTransitionAt.map zone.instant

def reportedCurrent (settings : ScheduleSettings) (overrides : List MarketScheduleOverride)
    (zone : MarketZone) (now : Int) : Option Int :=
  (evaluateMarketSchedule settings (zone.wall now) overrides).currentTransitionAt.map zone.instant

def daysAfter (zone : MarketZone) (now instant : Int) : Int :=
  dateOf (zone.wall instant) - dateOf (zone.wall now)

section Instants

variable {settings : ScheduleSettings} {overrides : List MarketScheduleOverride} {offset now instant : Int}

theorem openAt_eq (instant : Int) : openAt settings overrides (fixedZone offset) instant =
    isMarketOpenAt (instant + offset) settings overrides := by
  rw [openAt, evaluateMarketSchedule, isMarketOpenAt]
  by_cases hdisabled : settings.marketScheduleEnabled = false
  · rw [if_pos hdisabled, if_pos hdisabled]
  · rw [if_neg hdisabled, if_neg hdisabled]
    rfl

theorem changesAt_openAt : ChangesAt (openAt settings overrides (fixedZone offset)) instant ↔
    changesAt (instant + offset) settings overrides = true := by
  rw [ChangesAt, openAt_eq, openAt_eq, changesAt, decide_eq_true_eq,
    show instant - 1 + offset = instant + offset - 1 by omega]

theorem changedInto_openAt : changedInto (now + offset) settings overrides (instant + offset) ↔
    ChangesAt (openAt settings overrides (fixedZone offset)) instant ∧
      openAt settings overrides (fixedZone offset) instant =
        openAt settings overrides (fixedZone offset) now := by
  rw [changedInto, changesAt_openAt, openAt_eq, openAt_eq]

theorem evaluate_transitions (now : Int) :
    (evaluateMarketSchedule settings now overrides).nextTransitionAt =
        nextTransitionAt now settings overrides ∧
      (evaluateMarketSchedule settings now overrides).currentTransitionAt =
        currentTransitionAt now settings overrides := by
  rw [evaluateMarketSchedule]
  by_cases hdisabled : settings.marketScheduleEnabled = false
  · rw [if_pos hdisabled, nextTransitionAt, currentTransitionAt, if_pos hdisabled, if_pos hdisabled]
    exact ⟨rfl, rfl⟩
  · rw [if_neg hdisabled]
    exact ⟨rfl, rfl⟩

theorem reportedNext_eq_some : reportedNext settings overrides (fixedZone offset) now = some instant ↔
    nextTransitionAt (now + offset) settings overrides = some (instant + offset) := by
  rw [reportedNext, (evaluate_transitions _).1, Option.map_eq_some_iff]
  constructor
  · rintro ⟨reading, hreading, rfl⟩
    rw [show (fixedZone offset).instant reading + offset = reading from Int.sub_add_cancel _ _]
    exact hreading
  · exact fun hreading => ⟨instant + offset, hreading, Int.add_sub_cancel _ _⟩

theorem reportedCurrent_eq_some :
    reportedCurrent settings overrides (fixedZone offset) now = some instant ↔
      currentTransitionAt (now + offset) settings overrides = some (instant + offset) := by
  rw [reportedCurrent, (evaluate_transitions _).2, Option.map_eq_some_iff]
  constructor
  · rintro ⟨reading, hreading, rfl⟩
    rw [show (fixedZone offset).instant reading + offset = reading from Int.sub_add_cancel _ _]
    exact hreading
  · exact fun hreading => ⟨instant + offset, hreading, Int.add_sub_cancel _ _⟩

end Instants

/-- The next change of the state, before which it is constant, and the last change into it, in the
searched days, are reported; none exactly when there is none. -/
structure ReportsTransitions (settings : ScheduleSettings) (overrides : List MarketScheduleOverride)
    (zone : MarketZone) (now : Int) : Prop where
  next : ∀ instant, reportedNext settings overrides zone now = some instant ↔
    (now < instant ∧ daysAfter zone now instant ≤ 14) ∧
      ChangesAt (openAt settings overrides zone) instant ∧
      ∀ other, now < other → ChangesAt (openAt settings overrides zone) other → instant ≤ other
  constant : ∀ instant ∈ reportedNext settings overrides zone now, ∀ between, now ≤ between →
    between < instant → openAt settings overrides zone between = openAt settings overrides zone now
  nextAbsent : reportedNext settings overrides zone now = none ↔
    ∀ instant, now < instant → daysAfter zone now instant ≤ 14 →
      ¬ ChangesAt (openAt settings overrides zone) instant
  current : ∀ instant, reportedCurrent settings overrides zone now = some instant ↔
    (instant ≤ now ∧ -14 ≤ daysAfter zone now instant) ∧
      (ChangesAt (openAt settings overrides zone) instant ∧
        openAt settings overrides zone instant = openAt settings overrides zone now) ∧
      ∀ other, other ≤ now → ChangesAt (openAt settings overrides zone) other →
        openAt settings overrides zone other = openAt settings overrides zone now → other ≤ instant
  currentAbsent : reportedCurrent settings overrides zone now = none ↔
    ∀ instant, instant ≤ now → -14 ≤ daysAfter zone now instant →
      ChangesAt (openAt settings overrides zone) instant →
      openAt settings overrides zone instant ≠ openAt settings overrides zone now

theorem forall_reading_iff (offset : Int) {P : Int → Prop} :
    (∀ reading, P reading) ↔ ∀ instant, P (instant + offset) :=
  ⟨fun h instant => h (instant + offset), fun h reading => by simpa using h (reading - offset)⟩

/-- Every schedule in a time zone with a fixed offset reports its transitions at every instant. -/
theorem schedule_transitions (settings : ScheduleSettings) (overrides : List MarketScheduleOverride)
    (htimes : LocalTimes settings overrides) (offset now : Int) :
    ReportsTransitions settings overrides (fixedZone offset) now := by
  have hnext : ∀ instant, reportedNext settings overrides (fixedZone offset) now = some instant ↔
      (now < instant ∧ daysAfter (fixedZone offset) now instant ≤ 14) ∧
        ChangesAt (openAt settings overrides (fixedZone offset)) instant ∧
        ∀ other, now < other → ChangesAt (openAt settings overrides (fixedZone offset)) other →
          instant ≤ other := by
    intro instant
    rw [reportedNext_eq_some, nextTransitionAt_eq_some_iff htimes, forall_reading_iff offset]
    simp only [← changesAt_openAt, Int.add_lt_add_iff_right, Int.add_le_add_iff_right]
    refine and_congr_left fun _ => and_congr_right fun _ => ?_
    show dateOf (instant + offset) ≤ dateOf (now + offset) + 14 ↔
      dateOf (instant + offset) - dateOf (now + offset) ≤ 14
    omega
  refine ⟨hnext, ?_, ?_, ?_, ?_⟩
  · intro instant hinstant between hsince hbefore
    obtain ⟨-, -, hfirst⟩ := (hnext instant).mp hinstant
    refine eq_of_no_change hsince fun other hafter hle hchange => ?_
    have hlate := hfirst other hafter hchange
    omega
  · rw [reportedNext, Option.map_eq_none_iff, (evaluate_transitions _).1,
      nextTransitionAt_eq_none_iff htimes]
    show (∀ reading, now + offset < reading → dateOf reading ≤ dateOf (now + offset) + 14 →
      changesAt reading settings overrides = false) ↔ _
    rw [forall_reading_iff offset]
    refine forall_congr' fun instant => ?_
    rw [changesAt_openAt, Bool.not_eq_true, Int.add_lt_add_iff_right]
    refine imp_congr_right fun _ => imp_congr_left ?_
    show dateOf (instant + offset) ≤ dateOf (now + offset) + 14 ↔
      dateOf (instant + offset) - dateOf (now + offset) ≤ 14
    omega
  · intro instant
    rw [reportedCurrent_eq_some, currentTransitionAt_eq_some_iff htimes,
      forall_reading_iff offset]
    simp only [changedInto_openAt, Int.add_le_add_iff_right, and_imp]
    refine and_congr_left fun _ => and_congr_right fun _ => ?_
    show dateOf (now + offset) - 14 ≤ dateOf (instant + offset) ↔
      -14 ≤ dateOf (instant + offset) - dateOf (now + offset)
    omega
  · rw [reportedCurrent, Option.map_eq_none_iff, (evaluate_transitions _).2,
      currentTransitionAt_eq_none_iff htimes]
    show (∀ reading, reading ≤ now + offset → dateOf (now + offset) - 14 ≤ dateOf reading →
      ¬ changedInto (now + offset) settings overrides reading) ↔ _
    rw [forall_reading_iff offset]
    refine forall_congr' fun instant => ?_
    rw [changedInto_openAt, Int.add_le_add_iff_right, not_and]
    refine imp_congr_right fun _ => imp_congr_left ?_
    show dateOf (now + offset) - 14 ≤ dateOf (instant + offset) ↔
      -14 ≤ dateOf (instant + offset) - dateOf (now + offset)
    omega

/-- At the epoch, with the default hours in Tehran, the market is closed and opens at nine. -/
theorem defaultHours_transitions :
    ReportsTransitions defaultHours.settings [] (fixedZone 12600000000) 0 ∧
      reportedNext defaultHours.settings [] (fixedZone 12600000000) 0 = some 19800000000 ∧
      reportedCurrent defaultHours.settings [] (fixedZone 12600000000) 0 = some (-34200000000) := by
  have htimes : LocalTimes defaultHours.settings [] := by
    refine ⟨?_, ?_, fun _ h => absurd h List.not_mem_nil, fun _ h => absurd h List.not_mem_nil⟩
    · intro value hvalue
      cases hvalue
      decide
    · intro value hvalue
      cases hvalue
      decide
  exact ⟨schedule_transitions defaultHours.settings [] htimes 12600000000 0, by decide +kernel,
    by decide +kernel⟩

end TradingBot.Market
