import TradingBot.Market.Transitions

/-!
# The overrides of the past

`evaluate_current_market_schedule` (market_transition_service.py:897) loads the overrides from today
on, and `_current_transition_at` looks back two weeks: an override of the past can have moved the
last transition.
-/

namespace TradingBot.Market

open TradingBot.Misc

def openSpan (rule : DayRule) : Option (Int × Int) :=
  if rule.source = .invalidSchedule then none
  else if rule.allDayOpen then some (0, dayLength)
  else if rule.allDayClosed then none
  else
    match rule.openTimeLocal, rule.closeTimeLocal with
    | some opens, some closes => some (opens, closes)
    | _, _ => none

def spanOn (settings : ScheduleSettings) (overrides : List MarketScheduleOverride) (date : Int) :
    Option (Int × Int) :=
  openSpan (resolveDayRule date settings overrides)

/-- The reading at which the market closes for one of the searched dates; a market open all day
closes at the midnight after it. -/
def closingOn (settings : ScheduleSettings) (overrides : List MarketScheduleOverride)
    (today date : Int) : Option Int :=
  ((spanOn settings overrides date).map fun span => combine date span.2).filter fun closing =>
    today - nextTransitionSearchDays ≤ dateOf closing

section Spans

variable {settings : ScheduleSettings} {overrides : List MarketScheduleOverride}
  {date reading : Int} {span : Int × Int}

theorem isOpenForRule_iff (rule : DayRule) (reading : Int) : isOpenForRule reading rule = true ↔
    ∃ span, openSpan rule = some span ∧ span.1 ≤ timeOf reading ∧ timeOf reading < span.2 := by
  have hday : 0 ≤ timeOf reading ∧ timeOf reading < dayLength := by
    unfold timeOf dayLength
    omega
  unfold isOpenForRule openSpan
  split
  · simp
  split
  · simp [hday]
  split
  · simp
  cases rule.openTimeLocal with
  | none => simp
  | some opens =>
    cases rule.closeTimeLocal with
    | none => simp
    | some closes => simp

theorem isMarketOpenAt_iff (henabled : settings.marketScheduleEnabled ≠ false) :
    isMarketOpenAt reading settings overrides = true ↔
      ∃ span, spanOn settings overrides (dateOf reading) = some span ∧
        span.1 ≤ timeOf reading ∧ timeOf reading < span.2 := by
  rw [isMarketOpenAt, if_neg henabled, isOpenForRule_iff, spanOn]

theorem openSpan_hoursRule {source : DayRuleSource} {opens closes : Option Int}
    (hopens : IsLocalTime opens) (hcloses : IsLocalTime closes)
    (hspan : openSpan (hoursRule source opens closes) = some span) :
    0 ≤ span.1 ∧ span.1 < span.2 ∧ span.2 < dayLength := by
  unfold hoursRule at hspan
  split at hspan
  case h_2 => simp [openSpan] at hspan
  rename_i start stop
  split at hspan
  · simp [openSpan] at hspan
  · rename_i hlonger
    unfold openSpan at hspan
    split at hspan
    · cases hspan
    · simp only [Bool.false_eq_true, if_false, Option.some.injEq] at hspan
      subst hspan
      exact ⟨(hopens start rfl).1, Int.not_le.mp hlonger, (hcloses stop rfl).2⟩

theorem spanOn_bounds (htimes : LocalTimes settings overrides)
    (hspan : spanOn settings overrides date = some span) :
    0 ≤ span.1 ∧ span.1 < span.2 ∧
      (span.2 < dayLength ∨ span.2 = dayLength ∧
        (resolveDayRule date settings overrides).allDayOpen = true) := by
  have hhours : ∀ {source opens closes}, IsLocalTime opens → IsLocalTime closes →
      openSpan (hoursRule source opens closes) = some span →
      0 ≤ span.1 ∧ span.1 < span.2 ∧ (span.2 < dayLength ∨ span.2 = dayLength ∧
        (resolveDayRule date settings overrides).allDayOpen = true) := by
    intro source opens closes hopens hcloses h
    obtain ⟨hfirst, hlonger, hlast⟩ := openSpan_hoursRule hopens hcloses h
    exact ⟨hfirst, hlonger, .inl hlast⟩
  unfold spanOn resolveDayRule at hspan
  split at hspan
  · rename_i override hfound
    have hmem := List.mem_of_find?_eq_some hfound
    split at hspan
    · simp [openSpan] at hspan
    · rename_i hkind
      simp only [openSpan, reduceCtorEq, if_false, if_true, Option.some.injEq] at hspan
      subst hspan
      refine ⟨Int.le_refl 0, by decide, .inr ⟨rfl, ?_⟩⟩
      unfold resolveDayRule
      rw [hfound]
      dsimp only
      rw [hkind]
    · exact hhours (htimes.overrideOpens override hmem) (htimes.overrideCloses override hmem) hspan
  · split at hspan
    · simp [openSpan] at hspan
    · exact hhours htimes.opens htimes.closes hspan

theorem closed_of_spanOn_none (henabled : settings.marketScheduleEnabled ≠ false)
    (hnone : spanOn settings overrides (dateOf reading) = none) :
    isMarketOpenAt reading settings overrides = false := by
  rw [Bool.eq_false_iff, ne_eq, isMarketOpenAt_iff henabled, hnone]
  rintro ⟨span, hspan, -⟩
  cases hspan

theorem span_closing (henabled : settings.marketScheduleEnabled ≠ false)
    (htimes : LocalTimes settings overrides) (hspan : spanOn settings overrides date = some span) :
    (combine date 0 < combine date span.2 ∧ combine date span.2 ≤ combine (date + 1) 0) ∧
      isMarketOpenAt (combine date span.2 - 1) settings overrides = true ∧
      ∀ reading, combine date span.2 ≤ reading → reading < combine (date + 1) 0 →
        isMarketOpenAt reading settings overrides = false := by
  obtain ⟨hfirst, hlonger, hlast⟩ := spanOn_bounds htimes hspan
  have hlast : span.2 ≤ dayLength := by omega
  have hbefore : dateOf (combine date span.2 - 1) = date ∧
      timeOf (combine date span.2 - 1) = span.2 - 1 := by
    unfold dateOf timeOf combine
    unfold dayLength at *
    omega
  refine ⟨?_, ?_, ?_⟩
  · unfold combine
    unfold dayLength at *
    omega
  · rw [isMarketOpenAt_iff henabled, hbefore.1, hbefore.2]
    exact ⟨span, hspan, by omega, by omega⟩
  · intro reading hfrom hto
    have hdate : dateOf reading = date ∧ span.2 ≤ timeOf reading := by
      unfold dateOf timeOf
      unfold combine at hfrom hto
      unfold dayLength at *
      omega
    rw [Bool.eq_false_iff, ne_eq, isMarketOpenAt_iff henabled, hdate.1, hspan]
    rintro ⟨span', hsame, -, hlt⟩
    cases hsame
    exact Int.not_le.mpr hlt hdate.2

theorem allDayOpen_hoursRule (source : DayRuleSource) (opens closes : Option Int) :
    (hoursRule source opens closes).allDayOpen = false := by
  unfold hoursRule
  split
  · split
    · rfl
    · rfl
  · rfl

theorem allDayOpen_weekly (date : Int) : (resolveDayRule date settings []).allDayOpen = false := by
  unfold resolveDayRule
  rw [List.find?_nil]
  dsimp only
  split
  · rfl
  · exact allDayOpen_hoursRule _ _ _

theorem spanOn_of_allDayOpen (h : (resolveDayRule date settings overrides).allDayOpen = true) :
    spanOn settings overrides date = some (0, dayLength) := by
  unfold spanOn
  unfold resolveDayRule at h ⊢
  split at h
  · split at h
    · cases h
    · simp [openSpan]
    · rw [allDayOpen_hoursRule] at h
      cases h
  · split at h
    · cases h
    · rw [allDayOpen_hoursRule] at h
      cases h

theorem open_before_midnight_iff (henabled : settings.marketScheduleEnabled ≠ false)
    (htimes : LocalTimes settings overrides) :
    isMarketOpenAt (combine (date + 1) 0 - 1) settings overrides = true ↔
      (resolveDayRule date settings overrides).allDayOpen = true := by
  have hbefore : dateOf (combine (date + 1) 0 - 1) = date ∧
      timeOf (combine (date + 1) 0 - 1) = dayLength - 1 := by
    unfold dateOf timeOf combine dayLength
    omega
  rw [isMarketOpenAt_iff henabled, hbefore.1, hbefore.2]
  constructor
  · rintro ⟨span, hspan, -, hend⟩
    rcases (spanOn_bounds htimes hspan).2.2 with hless | ⟨-, hall⟩
    · omega
    · exact hall
  · intro hall
    exact ⟨_, spanOn_of_allDayOpen hall, by decide, by decide⟩

end Spans

section Loaded

variable {settings : ScheduleSettings} {overrides : List MarketScheduleOverride}
  {now date reading : Int}

theorem resolveDayRule_loaded (hfrom : dateOf now ≤ date)
    (hto : date ≤ dateOf now + nextTransitionSearchDays) :
    resolveDayRule date settings (loadMarketScheduleOverridesWindow overrides now) =
      resolveDayRule date settings overrides := by
  have hfind : (loadMarketScheduleOverridesWindow overrides now).find?
      (fun override => override.date = date) =
        overrides.find? fun override => override.date = date := by
    unfold loadMarketScheduleOverridesWindow
    rw [List.find?_filter]
    congr 1
    funext override
    rw [decide_eq_decide]
    simp only [Bool.and_eq_true, decide_eq_true_eq]
    omega
  unfold resolveDayRule
  rw [hfind]

theorem resolveDayRule_past (hbefore : date < dateOf now) :
    resolveDayRule date settings (loadMarketScheduleOverridesWindow overrides now) =
      resolveDayRule date settings [] := by
  have hnone : (loadMarketScheduleOverridesWindow overrides now).find?
      (fun override => override.date = date) = none := by
    rw [List.find?_eq_none]
    intro override hmem hdate
    unfold loadMarketScheduleOverridesWindow at hmem
    simp only [List.mem_filter, Bool.and_eq_true, decide_eq_true_eq] at hmem hdate
    omega
  unfold resolveDayRule
  rw [hnone, List.find?_nil]

theorem localTimes_loaded (htimes : LocalTimes settings overrides) :
    LocalTimes settings (loadMarketScheduleOverridesWindow overrides now) where
  opens := htimes.opens
  closes := htimes.closes
  overrideOpens override hmem := htimes.overrideOpens override (List.mem_of_mem_filter hmem)
  overrideCloses override hmem := htimes.overrideCloses override (List.mem_of_mem_filter hmem)

theorem isMarketOpenAt_loaded (hfrom : dateOf now ≤ dateOf reading)
    (hto : dateOf reading ≤ dateOf now + nextTransitionSearchDays) :
    isMarketOpenAt reading settings (loadMarketScheduleOverridesWindow overrides now) =
      isMarketOpenAt reading settings overrides := by
  rw [isMarketOpenAt, isMarketOpenAt, resolveDayRule_loaded hfrom hto]

theorem nextTransitionAt_of_agree {other : List MarketScheduleOverride}
    (htimes : LocalTimes settings overrides) (htimes' : LocalTimes settings other)
    (hagree : ∀ reading, now < reading → dateOf reading ≤ dateOf now + nextTransitionSearchDays →
      changesAt reading settings overrides = changesAt reading settings other)
    (h : nextTransitionAt now settings overrides = some reading) :
    nextTransitionAt now settings other = some reading := by
  rw [nextTransitionAt_eq_some_iff htimes] at h
  obtain ⟨⟨hlater, hdays⟩, hchange, hfirst⟩ := h
  refine (nextTransitionAt_eq_some_iff htimes').mpr
    ⟨⟨hlater, hdays⟩, hagree reading hlater hdays ▸ hchange, fun at_ hat hchange' => ?_⟩
  by_cases hwithin : dateOf at_ ≤ dateOf now + nextTransitionSearchDays
  · exact hfirst at_ hat (hagree at_ hat hwithin ▸ hchange')
  · by_contra hbefore
    have hdate := dateOf_le (Int.le_of_lt (Int.not_le.mp hbefore))
    omega

theorem nextTransitionAt_loaded (htimes : LocalTimes settings overrides) :
    nextTransitionAt now settings (loadMarketScheduleOverridesWindow overrides now) =
      nextTransitionAt now settings overrides := by
  have hagree : ∀ reading, now < reading →
      dateOf reading ≤ dateOf now + nextTransitionSearchDays →
      changesAt reading settings (loadMarketScheduleOverridesWindow overrides now) =
        changesAt reading settings overrides := by
    intro reading hlater hdays
    have hbefore : dateOf (reading - 1) ≤ dateOf reading := dateOf_le (by omega)
    rw [changesAt, changesAt, isMarketOpenAt_loaded (dateOf_le (Int.le_of_lt hlater)) hdays,
      isMarketOpenAt_loaded (dateOf_le (by omega)) (Int.le_trans hbefore hdays)]
  refine Option.ext fun reading => ?_
  refine ⟨nextTransitionAt_of_agree (localTimes_loaded htimes) htimes hagree, ?_⟩
  exact nextTransitionAt_of_agree htimes (localTimes_loaded htimes)
    fun reading hlater hdays => (hagree reading hlater hdays).symm

end Loaded

def ChangedToday (settings : ScheduleSettings) (overrides : List MarketScheduleOverride)
    (now : Int) : Prop :=
  ∃ span, spanOn settings overrides (dateOf now) = some span ∧
    (span.2 ≤ timeOf now ∨ 0 < span.1 ∧ span.1 ≤ timeOf now)

section Today

variable {settings : ScheduleSettings} {overrides : List MarketScheduleOverride}
  {now reading : Int}

theorem midnight_le (now : Int) : combine (dateOf now) 0 ≤ now := by
  unfold combine dateOf dayLength
  omega

theorem combine_le_iff (now time : Int) : combine (dateOf now) time ≤ now ↔ time ≤ timeOf now := by
  unfold combine dateOf timeOf dayLength
  omega

theorem dateOf_today (hfrom : combine (dateOf now) 0 ≤ reading) (hto : reading ≤ now) :
    dateOf reading = dateOf now ∧ timeOf reading ≤ timeOf now := by
  unfold combine dateOf timeOf dayLength at *
  omega

theorem exists_changedInto (henabled : settings.marketScheduleEnabled ≠ false)
    (htimes : LocalTimes settings overrides) (h : ChangedToday settings overrides now) :
    ∃ reading, combine (dateOf now) 0 < reading ∧ reading ≤ now ∧
      changedInto now settings overrides reading := by
  obtain ⟨span, hspan, hchanged⟩ := h
  obtain ⟨hfirst, hlonger, hlast⟩ := spanOn_bounds htimes hspan
  have hday : now < combine (dateOf now + 1) 0 := by
    unfold combine dateOf dayLength
    omega
  by_cases hclosed : span.2 ≤ timeOf now
  · -- closed for today
    obtain ⟨⟨hafter, -⟩, hopen, hshut⟩ := span_closing henabled htimes hspan
    have hle := (combine_le_iff now span.2).mpr hclosed
    refine ⟨_, hafter, hle, ?_, ?_⟩
    · rw [changesAt, hopen, hshut _ (Int.le_refl _) (Int.lt_of_le_of_lt hle hday)]
      rfl
    · rw [hshut _ (Int.le_refl _) (Int.lt_of_le_of_lt hle hday), hshut _ hle hday]
  · -- opened today
    obtain ⟨hpos, hopened⟩ := hchanged.resolve_left hclosed
    have hle := (combine_le_iff now span.1).mpr hopened
    have hafter : combine (dateOf now) 0 < combine (dateOf now) span.1 := by
      unfold combine
      omega
    have hat : dateOf (combine (dateOf now) span.1) = dateOf now ∧
        timeOf (combine (dateOf now) span.1) = span.1 := by
      unfold dateOf timeOf combine
      unfold dayLength at *
      omega
    have hbefore : dateOf (combine (dateOf now) span.1 - 1) = dateOf now ∧
        timeOf (combine (dateOf now) span.1 - 1) = span.1 - 1 := by
      unfold dateOf timeOf combine
      unfold dayLength at *
      omega
    have hshut : isMarketOpenAt (combine (dateOf now) span.1 - 1) settings overrides = false := by
      rw [Bool.eq_false_iff, ne_eq, isMarketOpenAt_iff henabled, hbefore.1, hbefore.2, hspan]
      rintro ⟨span', hsame, hfrom, -⟩
      cases hsame
      omega
    have hopen : isMarketOpenAt (combine (dateOf now) span.1) settings overrides = true := by
      rw [isMarketOpenAt_iff henabled, hat.1, hat.2]
      exact ⟨span, hspan, Int.le_refl _, hlonger⟩
    have hnow : isMarketOpenAt now settings overrides = true := by
      rw [isMarketOpenAt_iff henabled]
      exact ⟨span, hspan, hopened, Int.not_le.mp hclosed⟩
    refine ⟨_, hafter, hle, ?_, hopen.trans hnow.symm⟩
    rw [changesAt, hshut, hopen]
    rfl

theorem steady_of_not_changedToday (henabled : settings.marketScheduleEnabled ≠ false)
    (htimes : LocalTimes settings overrides) (h : ¬ ChangedToday settings overrides now)
    (hfrom : combine (dateOf now) 0 ≤ reading) (hto : reading ≤ now) :
    isMarketOpenAt reading settings overrides = isMarketOpenAt now settings overrides := by
  obtain ⟨hdate, htime⟩ := dateOf_today hfrom hto
  have hnonneg : 0 ≤ timeOf reading := by
    unfold timeOf dayLength
    omega
  rw [Bool.eq_iff_iff, isMarketOpenAt_iff henabled, isMarketOpenAt_iff henabled, hdate]
  refine exists_congr fun span => and_congr_right fun hspan => ?_
  obtain ⟨hfirst, hlonger, -⟩ := spanOn_bounds htimes hspan
  have hneither : ¬ (span.2 ≤ timeOf now ∨ 0 < span.1 ∧ span.1 ≤ timeOf now) := fun hchanged =>
    h ⟨span, hspan, hchanged⟩
  omega

end Today

/-! ## The last transition -/

section Current

variable {settings : ScheduleSettings} {overrides other : List MarketScheduleOverride}
  {now reading today date closing : Int}

theorem currentTransitionAt_of_agree (htimes : LocalTimes settings overrides)
    (htimes' : LocalTimes settings other)
    (hagree : ∀ reading, combine (dateOf now) 0 ≤ reading → reading ≤ now →
      isMarketOpenAt reading settings overrides = isMarketOpenAt reading settings other)
    (hchanged : ∃ reading, combine (dateOf now) 0 < reading ∧ reading ≤ now ∧
      changedInto now settings overrides reading)
    (h : currentTransitionAt now settings overrides = some reading) :
    currentTransitionAt now settings other = some reading := by
  rw [currentTransitionAt_eq_some_iff htimes] at h
  obtain ⟨⟨hbefore, hdays⟩, hinto, hlast⟩ := h
  obtain ⟨today, hafter, htoday, hinto'⟩ := hchanged
  have hmidnight := midnight_le now
  have hsame : ∀ at_, combine (dateOf now) 0 < at_ → at_ ≤ now →
      (changedInto now settings overrides at_ ↔ changedInto now settings other at_) := by
    intro at_ hfrom hto
    rw [changedInto, changedInto, changesAt, changesAt, hagree at_ (Int.le_of_lt hfrom) hto,
      hagree (at_ - 1) (by omega) (by omega), hagree now hmidnight (Int.le_refl _)]
  have hreading := Int.lt_of_lt_of_le hafter (hlast today htoday hinto')
  refine (currentTransitionAt_eq_some_iff htimes').mpr
    ⟨⟨hbefore, hdays⟩, (hsame reading hreading hbefore).mp hinto, fun at_ hat hchange => ?_⟩
  by_cases hfrom : combine (dateOf now) 0 < at_
  · exact hlast at_ hat ((hsame at_ hfrom hat).mpr hchange)
  · omega

/-- A market open since midnight opened then exactly when it was not open all day yesterday. -/
theorem currentTransitionAt_midnight_iff (henabled : settings.marketScheduleEnabled ≠ false)
    (htimes : LocalTimes settings overrides)
    (hopen : ∀ reading, combine (dateOf now) 0 ≤ reading → reading ≤ now →
      isMarketOpenAt reading settings overrides = true) :
    currentTransitionAt now settings overrides = some (combine (dateOf now) 0) ↔
      (resolveDayRule (dateOf now - 1) settings overrides).allDayOpen = false := by
  have hmidnight := midnight_le now
  have hend := @open_before_midnight_iff settings overrides (dateOf now - 1) henabled htimes
  rw [Int.sub_add_cancel] at hend
  rw [← Bool.not_eq_true, ← hend, currentTransitionAt_eq_some_iff htimes]
  have hfirst := hopen _ (Int.le_refl _) hmidnight
  constructor
  · rintro ⟨-, ⟨hchange, -⟩, -⟩ hbefore
    rw [changesAt, hbefore, hfirst] at hchange
    simp at hchange
  · intro hshut
    rw [Bool.not_eq_true] at hshut
    refine ⟨⟨hmidnight, ?_⟩, ⟨?_, ?_⟩, fun at_ hat hchange => ?_⟩
    · rw [dateOf_combine (Int.le_refl 0) (by decide)]
      unfold nextTransitionSearchDays
      omega
    · rw [changesAt, hshut, hfirst]
      rfl
    · rw [hfirst, hopen now hmidnight (Int.le_refl _)]
    · by_contra hlater
      have hchange := hchange.1
      rw [changesAt, hopen at_ (by omega) hat, hopen (at_ - 1) (by omega) (by omega)] at hchange
      simp at hchange

theorem closingOn_eq_some_iff :
    closingOn settings overrides today date = some closing ↔
      (∃ span, spanOn settings overrides date = some span ∧ combine date span.2 = closing) ∧
        today - nextTransitionSearchDays ≤ dateOf closing := by
  simp only [closingOn, Option.filter_eq_some_iff, Option.map_eq_some_iff, decide_eq_true_eq]

theorem closingOn_bounds (henabled : settings.marketScheduleEnabled ≠ false)
    (htimes : LocalTimes settings overrides)
    (h : closingOn settings overrides today date = some closing) :
    combine date 0 < closing ∧ closing ≤ combine (date + 1) 0 := by
  obtain ⟨⟨span, hspan, rfl⟩, -⟩ := closingOn_eq_some_iff.mp h
  exact (span_closing henabled htimes hspan).1

theorem closed_after_latest (henabled : settings.marketScheduleEnabled ≠ false)
    (htimes : LocalTimes settings overrides)
    (hshut : ∀ reading, combine (dateOf now) 0 ≤ reading → reading ≤ now →
      isMarketOpenAt reading settings overrides = false)
    (hclosing : closingOn settings overrides (dateOf now) date = some closing)
    (hnone : ∀ later, date < later → later < dateOf now →
      closingOn settings overrides (dateOf now) later = none)
    (hfrom : closing ≤ reading) (hto : reading ≤ now) :
    isMarketOpenAt reading settings overrides = false := by
  obtain ⟨⟨span, hspan, rfl⟩, hsearched⟩ := closingOn_eq_some_iff.mp hclosing
  obtain ⟨-, -, hrest⟩ := span_closing henabled htimes hspan
  by_cases hday : reading < combine (date + 1) 0
  · exact hrest reading hfrom hday
  by_cases htoday : dateOf reading < dateOf now
  · -- a day between, without a closing
    apply closed_of_spanOn_none henabled
    have hlater : date < dateOf reading := by
      unfold combine at hday
      unfold dateOf dayLength at *
      omega
    have hwithout := hnone (dateOf reading) hlater htoday
    by_contra hsome
    obtain ⟨span', hspan'⟩ := Option.ne_none_iff_exists'.mp hsome
    obtain ⟨⟨hafter, -⟩, -⟩ := span_closing henabled htimes hspan'
    have hdate : dateOf (combine date span.2) ≤ dateOf (combine (dateOf reading) span'.2) := by
      have hend := (closingOn_bounds henabled htimes hclosing).2
      apply dateOf_le
      unfold combine dateOf dayLength at *
      omega
    rw [closingOn_eq_some_iff.mpr ⟨⟨span', hspan', rfl⟩, Int.le_trans hsearched hdate⟩] at hwithout
    cases hwithout
  · apply hshut reading _ hto
    unfold combine dateOf dayLength at *
    omega

theorem currentTransitionAt_of_latest (henabled : settings.marketScheduleEnabled ≠ false)
    (htimes : LocalTimes settings overrides)
    (hshut : ∀ reading, combine (dateOf now) 0 ≤ reading → reading ≤ now →
      isMarketOpenAt reading settings overrides = false)
    (h : IsLatest (closingOn settings overrides (dateOf now)) (dateOf now) reading) :
    currentTransitionAt now settings overrides = some reading := by
  obtain ⟨date, hbefore, hclosing, hnone⟩ := h
  have hclosed : ∀ at_, reading ≤ at_ → at_ ≤ now → isMarketOpenAt at_ settings overrides = false :=
    fun at_ hfrom hto => closed_after_latest henabled htimes hshut hclosing hnone hfrom hto
  have hle : reading ≤ now := by
    have hend := (closingOn_bounds henabled htimes hclosing).2
    unfold combine dateOf dayLength at *
    omega
  obtain ⟨⟨span, hspan, rfl⟩, hsearched⟩ := closingOn_eq_some_iff.mp hclosing
  obtain ⟨-, hopen, -⟩ := span_closing henabled htimes hspan
  refine (currentTransitionAt_eq_some_iff htimes).mpr
    ⟨⟨hle, hsearched⟩, ⟨?_, ?_⟩, fun at_ hat hchange => ?_⟩
  · rw [changesAt, hopen, hclosed _ (Int.le_refl _) hle]
    rfl
  · rw [hclosed _ (Int.le_refl _) hle, hclosed now hle (Int.le_refl _)]
  · by_contra hlater
    have hchange := hchange.1
    rw [changesAt, hclosed at_ (by omega) hat, hclosed (at_ - 1) (by omega) (by omega)] at hchange
    simp at hchange

theorem currentTransitionAt_iff_latest (henabled : settings.marketScheduleEnabled ≠ false)
    (htimes : LocalTimes settings overrides)
    (hshut : ∀ reading, combine (dateOf now) 0 ≤ reading → reading ≤ now →
      isMarketOpenAt reading settings overrides = false) :
    currentTransitionAt now settings overrides = some reading ↔
      IsLatest (closingOn settings overrides (dateOf now)) (dateOf now) reading := by
  refine ⟨fun h => ?_, currentTransitionAt_of_latest henabled htimes hshut⟩
  obtain ⟨⟨hbefore, hdays⟩, ⟨hchange, hsame⟩, -⟩ := (currentTransitionAt_eq_some_iff htimes).mp h
  have hmidnight := midnight_le now
  rw [hshut now hmidnight (Int.le_refl _)] at hsame
  have hopen : isMarketOpenAt (reading - 1) settings overrides = true := by
    rw [changesAt, hsame] at hchange
    simpa using hchange
  have hpast : dateOf (reading - 1) < dateOf now := by
    by_contra htoday
    have hfrom : combine (dateOf now) 0 ≤ reading - 1 := by
      unfold combine dateOf dayLength at *
      omega
    rw [hshut (reading - 1) hfrom (by omega)] at hopen
    cases hopen
  -- the day that was open a moment before has a closing
  obtain ⟨span, hspan, -, hbeforeEnd⟩ := (isMarketOpenAt_iff henabled).mp hopen
  have hclosing : closingOn settings overrides (dateOf now) (dateOf (reading - 1)) ≠ none := by
    have hend : reading ≤ combine (dateOf (reading - 1)) span.2 := by
      unfold combine dateOf
      unfold timeOf at hbeforeEnd
      unfold dayLength at *
      omega
    rw [closingOn_eq_some_iff.mpr ⟨⟨span, hspan, rfl⟩, Int.le_trans hdays (dateOf_le hend)⟩]
    exact Option.some_ne_none _
  obtain ⟨last, item, -, hlast, hitem, hnone⟩ := exists_latest _ hpast hclosing
  have hlatest : IsLatest (closingOn settings overrides (dateOf now)) (dateOf now) item :=
    ⟨last, hlast, hitem, hnone⟩
  have hcurrent := currentTransitionAt_of_latest henabled htimes hshut hlatest
  rw [h, Option.some.injEq] at hcurrent
  rwa [hcurrent]

end Current

/-! ## What is reported -/

/-- The loaded overrides give the state and the transitions that all overrides give. -/
structure ReportsAsLoadedInFull (schedule : MarketSchedule) (now : Int) : Prop where
  isOpen : (evaluateCurrentMarketSchedule schedule now).isOpen =
    (evaluateMarketSchedule schedule.settings (schedule.zone.wall now) schedule.overrides).isOpen
  next : (evaluateCurrentMarketSchedule schedule now).nextTransitionAt =
    (evaluateMarketSchedule schedule.settings (schedule.zone.wall now)
      schedule.overrides).nextTransitionAt
  current : (evaluateCurrentMarketSchedule schedule now).currentTransitionAt =
    (evaluateMarketSchedule schedule.settings (schedule.zone.wall now)
      schedule.overrides).currentTransitionAt

/-- No override of the past has a say in the present state's transition: there is no schedule, or
the market changed today, or is open since midnight and was not open all day yesterday, or is closed
since midnight and every override that moved the closing of its date came before a date with the
weekly closing. -/
def PastIsSettled (settings : ScheduleSettings) (overrides : List MarketScheduleOverride)
    (now : Int) : Prop :=
  settings.marketScheduleEnabled = false ∨
  ChangedToday settings overrides now ∨
  (isMarketOpenAt now settings overrides = true ∧
    (resolveDayRule (dateOf now - 1) settings overrides).allDayOpen = false) ∨
  (isMarketOpenAt now settings overrides = false ∧
    ∀ date < dateOf now,
      closingOn settings overrides (dateOf now) date = closingOn settings [] (dateOf now) date ∨
        SharedAfter (closingOn settings overrides (dateOf now))
          (closingOn settings [] (dateOf now)) (dateOf now) date)

section Reports

variable {settings : ScheduleSettings} {overrides : List MarketScheduleOverride} {now date : Int}

theorem allDayOpen_loaded_yesterday (overrides : List MarketScheduleOverride) (now : Int) :
    (resolveDayRule (dateOf now - 1) settings
      (loadMarketScheduleOverridesWindow overrides now)).allDayOpen = false := by
  rw [resolveDayRule_past (by omega)]
  exact allDayOpen_weekly _

theorem closingOn_loaded (hbefore : date < dateOf now) :
    closingOn settings (loadMarketScheduleOverridesWindow overrides now) (dateOf now) date =
      closingOn settings [] (dateOf now) date := by
  rw [closingOn, closingOn, spanOn, spanOn, resolveDayRule_past hbefore]

theorem closingOn_injective (henabled : settings.marketScheduleEnabled ≠ false)
    (htimes : LocalTimes settings overrides) {today date' closing : Int}
    (h : closingOn settings overrides today date = some closing)
    (h' : closingOn settings [] today date' = some closing) : date = date' := by
  have hweekly : LocalTimes settings [] :=
    ⟨htimes.opens, htimes.closes, by simp, by simp⟩
  have hbounds := closingOn_bounds henabled htimes h
  have hbounds' := closingOn_bounds henabled hweekly h'
  unfold combine dayLength at *
  omega

theorem currentTransitionAt_loaded_iff (htimes : LocalTimes settings overrides) :
    currentTransitionAt now settings (loadMarketScheduleOverridesWindow overrides now) =
      currentTransitionAt now settings overrides ↔ PastIsSettled settings overrides now := by
  by_cases hdisabled : settings.marketScheduleEnabled = false
  · refine ⟨fun _ => .inl hdisabled, fun _ => ?_⟩
    rw [currentTransitionAt, currentTransitionAt, if_pos hdisabled, if_pos hdisabled]
  have htimes' := @localTimes_loaded settings overrides now htimes
  have hmidnight := midnight_le now
  have hagree : ∀ reading, combine (dateOf now) 0 ≤ reading → reading ≤ now →
      isMarketOpenAt reading settings (loadMarketScheduleOverridesWindow overrides now) =
        isMarketOpenAt reading settings overrides := by
    intro reading hfrom hto
    have hdate := (dateOf_today hfrom hto).1
    exact isMarketOpenAt_loaded (by omega) (by unfold nextTransitionSearchDays; omega)
  by_cases hchanged : ChangedToday settings overrides now
  · -- the market changed today
    refine ⟨fun _ => .inr (.inl hchanged), fun _ => Option.ext fun reading => ?_⟩
    have hspan : spanOn settings (loadMarketScheduleOverridesWindow overrides now) (dateOf now) =
        spanOn settings overrides (dateOf now) := by
      rw [spanOn, spanOn, resolveDayRule_loaded (Int.le_refl _)
        (by unfold nextTransitionSearchDays; omega)]
    have hchanged' :
        ChangedToday settings (loadMarketScheduleOverridesWindow overrides now) now := by
      unfold ChangedToday
      rwa [hspan]
    refine ⟨currentTransitionAt_of_agree htimes' htimes hagree
      (exists_changedInto hdisabled htimes' hchanged'), ?_⟩
    exact currentTransitionAt_of_agree htimes htimes'
      (fun reading hfrom hto => (hagree reading hfrom hto).symm)
      (exists_changedInto hdisabled htimes hchanged)
  have hsteady := fun reading (hfrom : combine (dateOf now) 0 ≤ reading) hto =>
    steady_of_not_changedToday hdisabled htimes hchanged hfrom hto
  cases hstate : isMarketOpenAt now settings overrides with
  | true =>
    have hopen : ∀ reading, combine (dateOf now) 0 ≤ reading → reading ≤ now →
        isMarketOpenAt reading settings overrides = true :=
      fun reading hfrom hto => (hsteady reading hfrom hto).trans hstate
    have hloaded := (currentTransitionAt_midnight_iff hdisabled htimes' fun reading hfrom hto =>
      (hagree reading hfrom hto).trans (hopen reading hfrom hto)).mpr
        (allDayOpen_loaded_yesterday overrides now)
    rw [hloaded, eq_comm, currentTransitionAt_midnight_iff hdisabled htimes hopen, PastIsSettled]
    simp only [hdisabled, hchanged, hstate, true_and, false_or, Bool.true_eq_false, false_and,
      or_false]
  | false =>
    have hshut : ∀ reading, combine (dateOf now) 0 ≤ reading → reading ≤ now →
        isMarketOpenAt reading settings overrides = false :=
      fun reading hfrom hto => (hsteady reading hfrom hto).trans hstate
    have hsettled : PastIsSettled settings overrides now ↔ ∀ date < dateOf now,
        closingOn settings overrides (dateOf now) date = closingOn settings [] (dateOf now) date ∨
          SharedAfter (closingOn settings overrides (dateOf now))
            (closingOn settings [] (dateOf now)) (dateOf now) date := by
      unfold PastIsSettled
      simp only [hdisabled, hchanged, hstate, true_and, false_or, Bool.false_eq_true, false_and,
        reduceCtorEq]
    rw [hsettled, ← isLatest_iff_shared (fun _ _ _ => closingOn_injective hdisabled htimes),
      Option.ext_iff]
    refine forall_congr' fun reading => ?_
    rw [currentTransitionAt_iff_latest hdisabled htimes hshut,
      currentTransitionAt_iff_latest hdisabled htimes' fun reading hfrom hto =>
        (hagree reading hfrom hto).trans (hshut reading hfrom hto)]
    have hweekly : IsLatest (closingOn settings (loadMarketScheduleOverridesWindow overrides now)
        (dateOf now)) (dateOf now) reading ↔
          IsLatest (closingOn settings [] (dateOf now)) (dateOf now) reading :=
      ⟨fun h => h.of_shared fun _ hbefore => .inl (closingOn_loaded hbefore),
        fun h => h.of_shared fun _ hbefore => .inl (closingOn_loaded hbefore).symm⟩
    rw [hweekly]
    exact Iff.comm

end Reports

/-- For every schedule and instant, the loaded overrides report what all overrides give exactly when
the past is settled. -/
theorem loaded_overrides_suffice_iff (schedule : MarketSchedule) (now : Int)
    (htimes : LocalTimes schedule.settings schedule.overrides) :
    ReportsAsLoadedInFull schedule now ↔
      PastIsSettled schedule.settings schedule.overrides (schedule.zone.wall now) := by
  have hcurrent := @currentTransitionAt_loaded_iff schedule.settings schedule.overrides
    (schedule.zone.wall now) htimes
  rw [← (evaluate_transitions _).2, ← (evaluate_transitions _).2] at hcurrent
  refine ⟨fun h => hcurrent.mp h.current, fun h => ⟨?_, ?_, hcurrent.mpr h⟩⟩
  · unfold evaluateCurrentMarketSchedule evaluateMarketSchedule
    dsimp only
    rw [resolveDayRule_loaded (Int.le_refl _) (by unfold nextTransitionSearchDays; omega)]
    split
    · rfl
    · rfl
  · rw [evaluateCurrentMarketSchedule, (evaluate_transitions _).1, (evaluate_transitions _).1]
    exact nextTransitionAt_loaded htimes

def defaultHoursWith (override : MarketScheduleOverride) : MarketSchedule :=
  { defaultHours with overrides := [override] }

theorem localTimes_closedAllDay (date : Int) :
    LocalTimes defaultHours.settings [{ date := date, overrideType := .closedAllDay }] := by
  refine ⟨?_, ?_, ?_, ?_⟩
  · rintro value ⟨⟩
    decide
  · rintro value ⟨⟩
    decide
  · intro override hmem
    rw [List.mem_singleton.mp hmem]
    exact isLocalTime_none
  · intro override hmem
    rw [List.mem_singleton.mp hmem]
    exact isLocalTime_none

/-- The market was closed the day before yesterday, and closed at six yesterday. -/
theorem settled_by_yesterday :
    ReportsAsLoadedInFull (defaultHoursWith { date := -2, overrideType := .closedAllDay }) 0 := by
  refine (loaded_overrides_suffice_iff _ 0 (localTimes_closedAllDay (-2))).mpr
    (.inr (.inr (.inr ⟨by decide, fun date hbefore => ?_⟩)))
  by_cases hdate : date = -2
  · right
    rw [hdate]
    exact ⟨-1, by decide, by decide, by decide, by decide⟩
  · left
    have hfind : (defaultHoursWith { date := -2, overrideType := .closedAllDay }).overrides.find?
        (fun override => override.date = date) = none := by
      simpa [defaultHoursWith] using fun h => hdate h.symm
    rw [closingOn, closingOn, spanOn, spanOn, resolveDayRule, resolveDayRule, hfind,
      List.find?_nil]

/-- The market was closed yesterday, and is reported to have closed at six. -/
theorem closed_yesterday_unnoticed :
    ¬ ReportsAsLoadedInFull (defaultHoursWith { date := -1, overrideType := .closedAllDay }) 0 ∧
      (evaluateCurrentMarketSchedule
        (defaultHoursWith { date := -1, overrideType := .closedAllDay }) 0).currentTransitionAt =
          some (combine (-1) 64800000000) ∧
      (evaluateMarketSchedule defaultHours.settings (tehran.wall 0)
        [{ date := -1, overrideType := .closedAllDay }]).currentTransitionAt =
          some (combine (-2) 64800000000) := by
  have hloaded : (evaluateCurrentMarketSchedule
      (defaultHoursWith { date := -1, overrideType := .closedAllDay }) 0).currentTransitionAt =
        some (combine (-1) 64800000000) := by
    decide
  have hfull : (evaluateMarketSchedule defaultHours.settings (tehran.wall 0)
      [{ date := -1, overrideType := .closedAllDay }]).currentTransitionAt =
        some (combine (-2) 64800000000) := by
    decide
  refine ⟨fun h => ?_, hloaded, hfull⟩
  have hsame := h.current
  rw [hloaded] at hsame
  have hsame := hsame.trans hfull
  revert hsame
  decide

end TradingBot.Market
