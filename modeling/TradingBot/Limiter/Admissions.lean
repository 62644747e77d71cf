import TradingBot.Limiter.Deadlines

/-!
# Admissions of the limiter

In every interleaving of the scripts, admissions of a bot and to a destination keep their intervals,
none comes before a recorded 429 deadline of its destination, and while a probe is required the only
admission is a probe with no other one in flight.

The cooldown of a bot after 429 answers of two destinations has the lifetime of the later answer,
but perhaps the deadline of the earlier one: when that lies beyond the lifetime, the key is gone
before the cooldown is over. Where the deadlines in the window lie within the lifetime, no admission
of the bot comes before its cooldown.
-/

namespace TradingBot.Limiter

open TradingBot.Misc

section Lifetimes

variable (settings : Settings)

theorem botInterval_le_ttlMs : settings.botInterval ≤ settings.ttlMs := by
  unfold Settings.botInterval Settings.ttlMs
  omega

theorem destinationInterval_le_ttlMs : settings.destinationInterval ≤ settings.ttlMs := by
  unfold Settings.destinationInterval Settings.ttlMs
  omega

theorem probeDelay_le_ttlMs : settings.probeDelay ≤ settings.ttlMs := by
  unfold Settings.probeDelay Settings.ttlMs
  omega

theorem window_le_ttlMs : settings.window ≤ settings.ttlMs := by
  unfold Settings.window Settings.ttlMs
  omega

theorem ttlMs_le_recordTtl (retryAfter : Int) (durableBot : Option Int) :
    settings.ttlMs ≤ recordTtl settings retryAfter durableBot :=
  Nat.le_max_left _ _

theorem one_le_ttlMs : 1 ≤ settings.ttlMs := by
  unfold Settings.ttlMs
  omega

theorem retry_le_recordTtl (retryAfter : Int) (durableBot : Option Int) :
    max 1 retryAfter ≤ recordTtl settings retryAfter durableBot := by
  have httl := one_le_ttlMs settings
  cases durableBot with
  | none =>
    unfold recordTtl
    dsimp only
    omega
  | some durable =>
    unfold recordTtl
    dsimp only
    omega

theorem durable_le_recordTtl (retryAfter durable : Int) :
    max 1 durable ≤ recordTtl settings retryAfter (some durable) := by
  have httl := one_le_ttlMs settings
  unfold recordTtl
  dsimp only
  omega

end Lifetimes

variable {window : List RecentLimit}

theorem maximumRetry_le {first bound : Int} (hfirst : first ≤ bound)
    (hwindow : ∀ entry ∈ window, entry.retryUntil ≤ bound) :
    maximumRetry window first ≤ bound := by
  unfold maximumRetry
  induction window generalizing first with
  | nil => exact hfirst
  | cons entry window ih =>
    refine ih (max_le hfirst (hwindow entry List.mem_cons_self)) fun other hother => ?_
    exact hwindow other (List.mem_cons_of_mem entry hother)

theorem le_maximumRetry (window : List RecentLimit) (first : Int) :
    first ≤ maximumRetry window first := by
  unfold maximumRetry
  induction window generalizing first with
  | nil => exact le_refl _
  | cons entry window ih => exact (le_max_left _ _).trans (ih _)

/-- When a 429 answer makes a bot-wide cooldown, the deadlines in the window lie within the keys'
lifetime. -/
def RetriesWithinLifetime (settings : Settings) (before : LimiterState) (operation : Operation)
    (_after : LimiterState) : Prop :=
  match operation with
  | .record429 bot destination _ retryAfter durableBot =>
    2 ≤ distinctDestinations (recentWindow settings before bot) destination ∨
        durableBot.isSome = true →
      ∀ entry ∈ recentWindow settings before bot,
        entry.retryUntil ≤ before.now + recordTtl settings retryAfter durableBot
  | _ => True

/-! ## Deadlines -/

structure DeadlinesSound (settings : Settings) (s : LimiterState) : Prop where
  botLasting : Lasting s.botNext
  destinationLasting : Lasting s.destinationNext
  botSpaced : ∀ admission ∈ s.admissions,
    Guarded s.botNext s.now admission.bot (admission.time + settings.botInterval : Nat)
  destinationSpaced : ∀ admission ∈ s.admissions, Guarded s.destinationNext s.now
    admission.destination (admission.time + settings.destinationInterval : Nat)
  limited : ∀ limit ∈ s.limits,
    Guarded s.destinationNext s.now limit.destination limit.retryUntil
  cooled : ∀ cooldown ∈ s.cooldowns,
    Guarded s.botNext s.now cooldown.bot cooldown.blockedUntil

section Deadlines

variable {settings : Settings} {s s' : LimiterState}

theorem DeadlinesSound.of_guarded (h : DeadlinesSound settings s)
    (hbotLasting : Lasting s'.botNext) (hdestinationLasting : Lasting s'.destinationNext)
    (hbot : ∀ key deadline, Guarded s.botNext s.now key deadline →
      Guarded s'.botNext s'.now key deadline)
    (hdestination : ∀ key deadline, Guarded s.destinationNext s.now key deadline →
      Guarded s'.destinationNext s'.now key deadline)
    (hadmissions : s'.admissions = s.admissions) (hlimits : s'.limits = s.limits)
    (hcooldowns : s'.cooldowns = s.cooldowns) : DeadlinesSound settings s' where
  botLasting := hbotLasting
  destinationLasting := hdestinationLasting
  botSpaced := by
    rw [hadmissions]
    exact fun admission hmem => hbot _ _ (h.botSpaced admission hmem)
  destinationSpaced := by
    rw [hadmissions]
    exact fun admission hmem => hdestination _ _ (h.destinationSpaced admission hmem)
  limited := by
    rw [hlimits]
    exact fun limit hmem => hdestination _ _ (h.limited limit hmem)
  cooled := by
    rw [hcooldowns]
    exact fun cooldown hmem => hbot _ _ (h.cooled cooldown hmem)

theorem DeadlinesSound.of_eq (h : DeadlinesSound settings s)
    (hnow : s'.now = s.now) (hbot : s'.botNext = s.botNext)
    (hdestination : s'.destinationNext = s.destinationNext)
    (hadmissions : s'.admissions = s.admissions) (hlimits : s'.limits = s.limits)
    (hcooldowns : s'.cooldowns = s.cooldowns) : DeadlinesSound settings s' := by
  refine h.of_guarded (hbot ▸ h.botLasting) (hdestination ▸ h.destinationLasting) ?_ ?_
    hadmissions hlimits hcooldowns
  · rw [hbot, hnow]
    exact fun _ _ hguarded => hguarded
  · rw [hdestination, hnow]
    exact fun _ _ hguarded => hguarded

theorem DeadlinesSound.tick (h : DeadlinesSound settings s) (milliseconds : Nat) :
    DeadlinesSound settings { s with now := s.now + milliseconds } :=
  h.of_guarded h.botLasting h.destinationLasting
    (fun _ _ hguarded => hguarded.later (Nat.le_add_right _ _))
    (fun _ _ hguarded => hguarded.later (Nat.le_add_right _ _)) rfl rfl rfl

theorem DeadlinesSound.admitPaced (h : DeadlinesSound settings s) (bot destination job : String) :
    DeadlinesSound settings (admitPaced settings s bot destination job).1 := by
  unfold Limiter.admitPaced
  dsimp only
  split
  case isTrue => exact h
  case isFalse hopen =>
    have hbot : (s.botNext.get s.now bot).getD 0 ≤ s.now := by omega
    have hdestination : (s.destinationNext.get s.now destination).getD 0 ≤ s.now := by omega
    have hbotTtl := botInterval_le_ttlMs settings
    have hdestinationTtl := destinationInterval_le_ttlMs settings
    have hbotLife : ((s.now + settings.botInterval : Nat) : Int) ≤
        (s.now + settings.ttlMs : Nat) := by omega
    have hdestinationLife : ((s.now + settings.destinationInterval : Nat) : Int) ≤
        (s.now + settings.ttlMs : Nat) := by omega
    have hpaced : DeadlinesSound settings { s with
        botNext := s.botNext.set bot (s.now + settings.botInterval : Nat)
          (some (s.now + settings.ttlMs))
        destinationNext := s.destinationNext.set destination
          (s.now + settings.destinationInterval : Nat) (some (s.now + settings.ttlMs))
        admissions := s.admissions ++
          [⟨bot, destination, job, s.now, (s.probeRequired.get s.now bot).isSome⟩] } :=
      { botLasting := h.botLasting.set hbotLife
        destinationLasting := h.destinationLasting.set hdestinationLife
        botSpaced := by
          intro admission hadmission
          rcases List.mem_append.mp hadmission with hold | hnew
          · exact (h.botSpaced admission hold).set_passed hbot _ _
          · rw [List.mem_singleton.mp hnew]
            exact guarded_set (le_refl _) hbotLife
        destinationSpaced := by
          intro admission hadmission
          rcases List.mem_append.mp hadmission with hold | hnew
          · exact (h.destinationSpaced admission hold).set_passed hdestination _ _
          · rw [List.mem_singleton.mp hnew]
            exact guarded_set (le_refl _) hdestinationLife
        limited := fun limit hlimit => (h.limited limit hlimit).set_passed hdestination _ _
        cooled := fun cooldown hcooldown => (h.cooled cooldown hcooldown).set_passed hbot _ _ }
    split
    · exact hpaced.of_eq rfl rfl rfl rfl rfl rfl
    · exact hpaced

theorem DeadlinesSound.admitScript (h : DeadlinesSound settings s) (bot destination job : String) :
    DeadlinesSound settings (admitScript settings s bot destination job).1 := by
  unfold Limiter.admitScript
  split
  case isTrue => exact h
  case isFalse =>
    split
    case isTrue => exact h
    case isFalse =>
      split
      case isTrue => exact h
      case isFalse =>
        split
        case h_1 => exact h.admitPaced bot destination job
        case h_2 =>
          split
          case isTrue => exact h
          case isFalse =>
            have hdeleted : DeadlinesSound settings
                { s with probeInflight := s.probeInflight.del bot } :=
              h.of_eq rfl rfl rfl rfl rfl rfl
            exact hdeleted.admitPaced bot destination job

theorem setMaxUntil_covers (settings : Settings) (now : Nat) (candidate : Int) :
    candidate ≤ now + (max settings.ttlMs (candidate - now + 60000).toNat : Nat) := by
  omega

theorem durableNext_sound (h : DeadlinesSound settings s) (bot : String) (retryAfter : Int)
    (durableBot : Option Int) :
    Lasting (durableNext settings s bot retryAfter durableBot) ∧
      ∀ key deadline, Guarded s.botNext s.now key deadline →
        Guarded (durableNext settings s bot retryAfter durableBot) s.now key deadline := by
  unfold durableNext
  cases durableBot with
  | none =>
    have hzero : ¬ 0 < durableUntil s.now none := lt_irrefl 0
    rw [if_neg hzero]
    exact ⟨h.botLasting, fun _ _ hguarded => hguarded⟩
  | some durable =>
    have hcovers : durableUntil s.now (some durable) ≤
        s.now + recordTtl settings retryAfter (some durable) :=
      Int.add_le_add_left (durable_le_recordTtl settings retryAfter durable) _
    split_ifs
    · exact ⟨h.botLasting.setMax hcovers, fun _ _ hguarded => hguarded.setMax hcovers⟩
    · exact ⟨h.botLasting, fun _ _ hguarded => hguarded⟩

theorem isSome_of_durableUntil {now : Nat} {durableBot : Option Int}
    (h : (now : Int) < durableUntil now durableBot) : durableBot.isSome = true := by
  cases durableBot with
  | none =>
    simp only [durableUntil] at h
    omega
  | some durable => rfl

theorem DeadlinesSound.record429 (h : DeadlinesSound settings s) (bot destination job : String)
    (retryAfter : Int) (durableBot : Option Int) {after : LimiterState}
    (hwithin : RetriesWithinLifetime settings s
      (.record429 bot destination job retryAfter durableBot) after) :
    DeadlinesSound settings (record429 settings s bot destination job retryAfter durableBot) := by
  have hretry : (s.now : Int) + max 1 retryAfter ≤
      s.now + recordTtl settings retryAfter durableBot :=
    Int.add_le_add_left (retry_le_recordTtl settings retryAfter durableBot) _
  have hprobe : ((s.now + settings.probeDelay : Nat) : Int) ≤
      s.now + recordTtl settings retryAfter durableBot := by
    have hdelay := probeDelay_le_ttlMs settings
    have httl := ttlMs_le_recordTtl settings retryAfter durableBot
    omega
  obtain ⟨hlasting, hkept⟩ := durableNext_sound h bot retryAfter durableBot
  have hlimited : ∀ limit ∈ s.limits ++
      [(⟨bot, destination, s.now, s.now + max 1 retryAfter⟩ : RecordedLimit)],
      Guarded (setMax s.destinationNext s.now destination (s.now + max 1 retryAfter)
        (recordTtl settings retryAfter durableBot)).1 s.now limit.destination
        limit.retryUntil := by
    intro limit hlimit
    rcases List.mem_append.mp hlimit with hold | hnew
    · exact (h.limited limit hold).setMax hretry
    · rw [List.mem_singleton.mp hnew]
      exact (guarded_setMax h.destinationLasting hretry).earlier (le_setMax _ _ _ _ _)
  unfold Limiter.record429
  dsimp only
  split
  case isTrue hblocked =>
    have hmaximum := maximumRetry_le hretry (hwithin (hblocked.imp_right (isSome_of_durableUntil)))
    exact
      { botLasting := hlasting.setMax hmaximum
        destinationLasting := h.destinationLasting.setMax hretry
        botSpaced := fun admission hmem =>
          (hkept _ _ (h.botSpaced admission hmem)).setMax hmaximum
        destinationSpaced := fun admission hmem =>
          (h.destinationSpaced admission hmem).setMax hretry
        limited := hlimited
        cooled := by
          intro cooldown hcooldown
          dsimp only at hcooldown
          split_ifs at hcooldown
          · rcases List.mem_append.mp hcooldown with hold | hnew
            · exact (hkept _ _ (h.cooled cooldown hold)).setMax hmaximum
            · rw [List.mem_singleton.mp hnew]
              exact guarded_setMax hlasting hmaximum
          · exact (hkept _ _ (h.cooled cooldown hcooldown)).setMax hmaximum }
  case isFalse =>
    exact
      { botLasting := hlasting.setMax hprobe
        destinationLasting := h.destinationLasting.setMax hretry
        botSpaced := fun admission hmem =>
          (hkept _ _ (h.botSpaced admission hmem)).setMax hprobe
        destinationSpaced := fun admission hmem =>
          (h.destinationSpaced admission hmem).setMax hretry
        limited := hlimited
        cooled := fun cooldown hmem => (hkept _ _ (h.cooled cooldown hmem)).setMax hprobe }

theorem DeadlinesSound.step (h : DeadlinesSound settings s) (operation : Operation)
    (hwithin : RetriesWithinLifetime settings s operation (step settings s operation)) :
    DeadlinesSound settings (step settings s operation) := by
  cases operation with
  | tick milliseconds => exact h.tick milliseconds
  | admitScript bot destination job => exact h.admitScript bot destination job
  | record429 bot destination job retryAfter durableBot =>
    exact h.record429 bot destination job retryAfter durableBot hwithin
  | extendDestination destination cooldownUntil =>
    have hcovers := setMaxUntil_covers settings s.now cooldownUntil
    exact h.of_guarded h.botLasting (h.destinationLasting.setMax hcovers)
      (fun _ _ hguarded => hguarded) (fun _ _ hguarded => hguarded.setMax hcovers) rfl rfl rfl
  | extendBot bot cooldownUntil =>
    have hcovers := setMaxUntil_covers settings s.now cooldownUntil
    exact h.of_guarded (h.botLasting.setMax hcovers) h.destinationLasting
      (fun _ _ hguarded => hguarded.setMax hcovers) (fun _ _ hguarded => hguarded) rfl rfl rfl
  | clearProbe bot job =>
    simp only [Limiter.step, clearProbe]
    split_ifs <;> exact h.of_eq rfl rfl rfl rfl rfl rfl
  | releaseProbe bot job =>
    simp only [Limiter.step, releaseProbe]
    split_ifs <;> exact h.of_eq rfl rfl rfl rfl rfl rfl
  | preparePreflight bot =>
    simp only [Limiter.step, preparePreflight]
    split_ifs <;> exact h.of_eq rfl rfl rfl rfl rfl rfl
  | pauseBot bot => exact h.of_eq rfl rfl rfl rfl rfl rfl
  | pauseDestination bot destination => exact h.of_eq rfl rfl rfl rfl rfl rfl
  | pauseGateway => exact h.of_eq rfl rfl rfl rfl rfl rfl

end Deadlines

/-! ## Probes -/

structure ProbesSound (s : LimiterState) : Prop where
  inflight : ∀ probe ∈ s.probes, probe.leaseUntil ≤ s.now ∨
    s.probeInflight probe.bot = some ⟨probe.job, some probe.leaseUntil⟩
  only : s.probes.Pairwise fun probe other => probe.bot = other.bot →
    probe.leaseUntil ≤ s.now ∨ other.leaseUntil ≤ s.now

section Probes

variable {settings : Settings} {s : LimiterState} {bot : String}

theorem ProbesSound.entry (h : ProbesSound s) {probe : Probe} (hprobe : probe ∈ s.probes)
    (hlease : s.now < probe.leaseUntil) :
    s.probeInflight.entry s.now probe.bot = some ⟨probe.job, some probe.leaseUntil⟩ := by
  rcases h.inflight probe hprobe with hover | hkey
  · omega
  · exact Keys.entry_eq_some.mpr ⟨hkey, decide_eq_true hlease.le⟩

theorem ProbesSound.of_eq {s' : LimiterState} (h : ProbesSound s) (hnow : s'.now = s.now)
    (hinflight : s'.probeInflight = s.probeInflight) (hprobes : s'.probes = s.probes) :
    ProbesSound s' := by
  refine ⟨?_, ?_⟩
  · rw [hnow, hinflight, hprobes]
    exact h.inflight
  · rw [hnow, hprobes]
    exact h.only

theorem ProbesSound.tick (h : ProbesSound s) (milliseconds : Nat) :
    ProbesSound { s with now := s.now + milliseconds } where
  inflight := fun probe hprobe => (h.inflight probe hprobe).imp_left
    fun hover => hover.trans (Nat.le_add_right _ _)
  only := h.only.imp fun hpair hbot => (hpair hbot).imp
    (fun hover => hover.trans (Nat.le_add_right _ _))
    (fun hover => hover.trans (Nat.le_add_right _ _))

theorem ProbesSound.endProbe (h : ProbesSound s) (bot job : String) :
    ProbesSound (endProbe s bot job) where
  inflight := by
    intro probe hprobe
    obtain ⟨hmem, hother⟩ := List.mem_filter.mp hprobe
    by_cases hover : probe.leaseUntil ≤ s.now
    · exact .inl hover
    · have hentry := h.entry hmem (not_le.mp hover)
      refine .inr ?_
      unfold Limiter.endProbe
      dsimp only
      split_ifs with hjob
      · -- the key is of the job, so a probe that is left is of another bot
        have hbot : probe.bot ≠ bot := by
          rintro rfl
          rw [Keys.get, hentry, Option.map_some, Option.some.injEq] at hjob
          change probe.job = job at hjob
          simp [hjob] at hother
        exact (Function.update_of_ne hbot _ _).trans (Keys.entry_eq_some.mp hentry).1
      · exact (Keys.entry_eq_some.mp hentry).1
  only := h.only.filter _

theorem ProbesSound.admitPaced (h : ProbesSound s)
    (hnone : ∀ probe ∈ s.probes, probe.bot = bot → probe.leaseUntil ≤ s.now)
    (destination job : String) :
    ProbesSound (admitPaced settings s bot destination job).1 := by
  unfold Limiter.admitPaced
  dsimp only
  split
  case isTrue => exact h
  case isFalse =>
    split
    case isFalse => exact h.of_eq rfl rfl rfl
    case isTrue =>
      refine ⟨?_, ?_⟩
      · intro probe hprobe
        rcases List.mem_append.mp hprobe with hold | hnew
        · by_cases hbot : probe.bot = bot
          · exact .inl (hnone probe hold hbot)
          · exact (h.inflight probe hold).imp_right
              fun hkey => (Function.update_of_ne hbot _ _).trans hkey
        · rw [List.mem_singleton.mp hnew]
          exact .inr (Function.update_self ..)
      · refine List.pairwise_append.mpr ⟨h.only, List.pairwise_singleton _ _, ?_⟩
        intro probe hprobe other hother hbot
        rw [List.mem_singleton.mp hother] at hbot ⊢
        exact .inl (hnone probe hprobe hbot)

theorem ProbesSound.none_inflight (h : ProbesSound s)
    (hopen : ∀ stored, s.probeInflight.entry s.now bot = some stored → ¬ 0 < pttl stored s.now) :
    ∀ probe ∈ s.probes, probe.bot = bot → probe.leaseUntil ≤ s.now := by
  rintro probe hprobe rfl
  by_contra hlease
  refine hopen _ (h.entry hprobe (not_le.mp hlease)) ?_
  unfold pttl
  dsimp only
  omega

theorem ProbesSound.del (h : ProbesSound s)
    (hnone : ∀ probe ∈ s.probes, probe.bot = bot → probe.leaseUntil ≤ s.now) :
    ProbesSound { s with probeInflight := s.probeInflight.del bot } where
  inflight := by
    intro probe hprobe
    by_cases hbot : probe.bot = bot
    · exact .inl (hnone probe hprobe hbot)
    · exact (h.inflight probe hprobe).imp_right
        fun hkey => (Function.update_of_ne hbot _ _).trans hkey
  only := h.only

/-- An admission is refused, or goes on to the pacing with no probe of the bot in flight. -/
theorem admit_cases (settings : Settings) (s : LimiterState) (bot destination job : String) :
    (admitScript settings s bot destination job).1 = s ∨
      (∀ stored, s.probeInflight.entry s.now bot = some stored → ¬ 0 < pttl stored s.now) ∧
      ∃ keys, (keys = s.probeInflight ∨ keys = s.probeInflight.del bot) ∧
        (admitScript settings s bot destination job).1 =
          (admitPaced settings { s with probeInflight := keys } bot destination job).1 := by
  unfold admitScript
  split
  case isTrue => exact .inl rfl
  case isFalse =>
    split
    case isTrue => exact .inl rfl
    case isFalse =>
      split
      case isTrue => exact .inl rfl
      case isFalse =>
        split
        case h_1 hnone =>
          refine .inr ⟨fun stored hstored => ?_, _, .inl rfl, rfl⟩
          rw [hnone] at hstored
          cases hstored
        case h_2 stored hstored =>
          split
          case isTrue => exact .inl rfl
          case isFalse hpttl =>
            refine .inr ⟨fun other hother => ?_, _, .inr rfl, rfl⟩
            rw [hstored, Option.some.injEq] at hother
            exact hother ▸ hpttl

theorem ProbesSound.admitScript (h : ProbesSound s) (bot destination job : String) :
    ProbesSound (admitScript settings s bot destination job).1 := by
  rcases admit_cases settings s bot destination job with hsame | ⟨hopen, keys, hkeys, hpaced⟩
  · rw [hsame]
    exact h
  · rw [hpaced]
    have hnone := h.none_inflight hopen
    rcases hkeys with rfl | rfl
    · exact h.admitPaced hnone destination job
    · exact (h.del hnone).admitPaced hnone destination job

theorem ProbesSound.step (h : ProbesSound s) (operation : Operation) :
    ProbesSound (step settings s operation) := by
  cases operation with
  | tick milliseconds => exact h.tick milliseconds
  | admitScript bot destination job => exact h.admitScript bot destination job
  | record429 bot _ job =>
    simp only [Limiter.step, record429]
    split <;> exact (h.endProbe bot job).of_eq rfl rfl rfl
  | clearProbe bot job =>
    simp only [Limiter.step, clearProbe]
    split_ifs
    · exact (h.endProbe bot job).of_eq rfl rfl rfl
    · exact h.endProbe bot job
  | releaseProbe bot job =>
    simp only [Limiter.step, releaseProbe]
    split_ifs
    · exact (h.endProbe bot job).of_eq rfl rfl rfl
    · exact h.endProbe bot job
  | preparePreflight bot =>
    simp only [Limiter.step, preparePreflight]
    split_ifs <;> exact h.of_eq rfl rfl rfl
  | extendDestination destination cooldownUntil => exact h.of_eq rfl rfl rfl
  | extendBot bot cooldownUntil => exact h.of_eq rfl rfl rfl
  | pauseBot bot => exact h.of_eq rfl rfl rfl
  | pauseDestination bot destination => exact h.of_eq rfl rfl rfl
  | pauseGateway => exact h.of_eq rfl rfl rfl

end Probes

/-! ## The hash of recent 429 answers -/

/-- A recorded 429 answer is out of the window, or the hash has an entry of its destination not
older. -/
def RecentKept (settings : Settings) (s : LimiterState) (limit : RecordedLimit) : Prop :=
  limit.time + settings.window < s.now ∨
    ∃ stored, s.recent429 limit.bot = some stored ∧ ∃ entry ∈ stored.value,
      entry.destination = limit.destination ∧ limit.time ≤ entry.seenAt ∧
      entry.seenAt ≤ s.now ∧
      ∀ expiresAt, stored.expiresAt = some expiresAt →
        entry.seenAt + settings.window ≤ expiresAt

def RecentSound (settings : Settings) (s : LimiterState) : Prop :=
  ∀ limit ∈ s.limits, RecentKept settings s limit

section Recent

variable {settings : Settings} {s : LimiterState} {limit : RecordedLimit} {destination : String}

theorem RecentKept.mem_window (h : RecentKept settings s limit)
    (hwindow : s.now ≤ limit.time + settings.window) :
    ∃ entry ∈ recentWindow settings s limit.bot, entry.destination = limit.destination ∧
      limit.time ≤ entry.seenAt ∧ entry.seenAt ≤ s.now := by
  rcases h with hpast | ⟨stored, hstored, entry, hentry, hdestination, htime, hseen, hlife⟩
  · omega
  · refine ⟨entry, List.mem_filter.mpr ⟨?_, ?_⟩, hdestination, htime, hseen⟩
    · have hget : s.recent429.get s.now limit.bot = some stored.value := by
        refine Keys.get_eq_some.mpr ⟨stored, Keys.entry_eq_some.mpr ⟨hstored, ?_⟩, rfl⟩
        unfold Stored.live
        cases hexpires : stored.expiresAt with
        | none => rfl
        | some expiresAt =>
          have hle := hlife expiresAt hexpires
          exact decide_eq_true (by omega)
      rw [hget]
      exact hentry
    · simp only [Bool.and_eq_true, decide_eq_true_eq]
      omega

theorem RecentSound.of_eq {s' : LimiterState} (h : RecentSound settings s)
    (hnow : s.now ≤ s'.now) (hrecent : s'.recent429 = s.recent429)
    (hlimits : s'.limits = s.limits) : RecentSound settings s' := by
  unfold RecentSound
  rw [hlimits]
  intro limit hlimit
  rcases h limit hlimit with hpast | ⟨stored, hstored, entry, hentry, hdestination, htime, hseen,
    hlife⟩
  · exact .inl (by omega)
  · refine .inr ⟨stored, ?_, entry, hentry, hdestination, htime, by omega, hlife⟩
    rw [hrecent]
    exact hstored

theorem RecentSound.record429 (h : RecentSound settings s) (bot destination job : String)
    (retryAfter : Int) (durableBot : Option Int) :
    RecentSound settings (record429 settings s bot destination job retryAfter durableBot) := by
  have hlife : s.now + settings.window ≤
      s.now + recordTtl settings retryAfter durableBot := by
    have hwindow := window_le_ttlMs settings
    have httl := ttlMs_le_recordTtl settings retryAfter durableBot
    omega
  have hrecorded : ∀ s' : LimiterState, s'.now = s.now →
      s'.recent429 = s.recent429.set bot
        ((recentWindow settings s bot).filter (·.destination ≠ destination) ++
          [⟨destination, s.now, s.now + max 1 retryAfter⟩])
        (some (s.now + recordTtl settings retryAfter durableBot)) →
      s'.limits = s.limits ++ [⟨bot, destination, s.now, s.now + max 1 retryAfter⟩] →
      RecentSound settings s' := by
    intro s' hnow hrecent hlimits limit hlimit
    rw [hlimits] at hlimit
    unfold RecentKept
    rw [hnow, hrecent]
    -- an answer of this bot finds the new entry or the one that stays in the window
    rcases List.mem_append.mp hlimit with hold | hnew
    · by_cases hwindow : limit.time + settings.window < s.now
      · exact .inl hwindow
      · refine .inr ?_
        by_cases hbot : limit.bot = bot
        · subst hbot
          obtain ⟨entry, hentry, hsame, htime, hseen⟩ := (h limit hold).mem_window (by omega)
          by_cases hdestination : limit.destination = destination
          · refine ⟨_, Function.update_self .., ⟨destination, s.now, s.now + max 1 retryAfter⟩,
              List.mem_append_right _ List.mem_cons_self, hdestination.symm, htime.trans hseen,
              le_refl _, ?_⟩
            intro expiresAt hexpires
            cases hexpires
            exact hlife
          · refine ⟨_, Function.update_self .., entry, List.mem_append_left _
              (List.mem_filter.mpr ⟨hentry, ?_⟩), hsame, htime, hseen, ?_⟩
            · rw [hsame]
              exact decide_eq_true hdestination
            · intro expiresAt hexpires
              cases hexpires
              omega
        · rcases h limit hold with hpast | ⟨stored, hstored, hrest⟩
          · omega
          · exact ⟨stored, (Function.update_of_ne hbot _ _).trans hstored, hrest⟩
    · rw [List.mem_singleton.mp hnew]
      refine .inr ⟨_, Function.update_self .., ⟨destination, s.now, s.now + max 1 retryAfter⟩,
        List.mem_append_right _ List.mem_cons_self, rfl, le_refl _, le_refl _, ?_⟩
      intro expiresAt hexpires
      cases hexpires
      exact hlife
  unfold Limiter.record429
  dsimp only
  split
  · exact hrecorded _ rfl rfl rfl
  · exact hrecorded _ rfl rfl rfl

theorem two_le_distinctDestinations {entry : RecentLimit}
    (hentry : entry ∈ window) (hother : entry.destination ≠ destination) :
    2 ≤ distinctDestinations window destination := by
  unfold distinctDestinations
  split_ifs with hany
  · obtain ⟨same, hsame, hdestination⟩ := List.any_eq_true.mp hany
    have hne : same ≠ entry := by
      rintro rfl
      exact hother (of_decide_eq_true hdestination)
    have hnodup : [same, entry].Nodup := by simp [hne]
    have hsubset : [same, entry] ⊆ window := by simp [hsame, hentry]
    exact (List.subperm_of_subset hnodup hsubset).length_le
  · exact Nat.succ_le_succ (List.length_pos_of_mem hentry)

/-- When two destinations answered 429 within the window, the bot's cooldown reaches to the answer's
deadline. -/
theorem cooldown_of_two_destinations (h : RecentSound settings s) {bot job : String}
    {retryAfter : Int} {durableBot : Option Int}
    (hlimit : limit ∈ s.limits) (hbot : limit.bot = bot) (hother : limit.destination ≠ destination)
    (hwindow : s.now ≤ limit.time + settings.window) :
    ∃ cooldown, (record429 settings s bot destination job retryAfter durableBot).cooldowns =
        s.cooldowns ++ [cooldown] ∧ cooldown.bot = bot ∧
      s.now + max 1 retryAfter ≤ cooldown.blockedUntil := by
  obtain ⟨entry, hentry, hsame, -⟩ := (h limit hlimit).mem_window hwindow
  rw [hbot] at hentry
  have htwo := two_le_distinctDestinations hentry (hsame ▸ hother)
  unfold record429
  dsimp only
  rw [if_pos (.inl htwo)]
  dsimp only
  rw [if_pos htwo]
  exact ⟨_, rfl, rfl, (le_maximumRetry _ _).trans (le_setMax _ _ _ _ _)⟩

end Recent

/-! ## Every interleaving -/

structure Sound (settings : Settings) (s : LimiterState) : Prop where
  deadlines : DeadlinesSound settings s
  probes : ProbesSound s
  recent : RecentSound settings s

theorem sound_empty (settings : Settings) (now : Nat) :
    Sound settings (LimiterState.empty now) where
  deadlines :=
    { botLasting := fun _ _ hstored => by cases hstored
      destinationLasting := fun _ _ hstored => by cases hstored
      botSpaced := fun _ hmem => by cases hmem
      destinationSpaced := fun _ hmem => by cases hmem
      limited := fun _ hmem => by cases hmem
      cooled := fun _ hmem => by cases hmem }
  probes := ⟨fun probe hmem => absurd hmem List.not_mem_nil, List.Pairwise.nil⟩
  recent := fun _ hmem => by cases hmem

section Steps

variable {settings : Settings} {s : LimiterState}

theorem admitPaced_cases (settings : Settings) (s : LimiterState) (bot destination job : String) :
    (admitPaced settings s bot destination job).1 = s ∨
      (s.botNext.get s.now bot).getD 0 ≤ s.now ∧
      (s.destinationNext.get s.now destination).getD 0 ≤ s.now ∧
      (admitPaced settings s bot destination job).1.admissions = s.admissions ++
        [⟨bot, destination, job, s.now, (s.probeRequired.get s.now bot).isSome⟩] ∧
      (admitPaced settings s bot destination job).1.now = s.now ∧
      (admitPaced settings s bot destination job).1.recent429 = s.recent429 ∧
      (admitPaced settings s bot destination job).1.limits = s.limits := by
  unfold admitPaced
  dsimp only
  split
  case isTrue => exact .inl rfl
  case isFalse hopen =>
    refine .inr ⟨by omega, by omega, ?_⟩
    split <;> exact ⟨rfl, rfl, rfl, rfl⟩

/-- An admission: nothing, or both values have passed, no probe is in flight and it is recorded. -/
theorem admit_admissions (settings : Settings) (h : ProbesSound s) (bot destination job : String) :
    (admitScript settings s bot destination job).1.admissions = s.admissions ∨
      (s.botNext.get s.now bot).getD 0 ≤ s.now ∧
      (s.destinationNext.get s.now destination).getD 0 ≤ s.now ∧
      (∀ probe ∈ s.probes, probe.bot = bot → probe.leaseUntil ≤ s.now) ∧
      (admitScript settings s bot destination job).1.admissions = s.admissions ++
        [⟨bot, destination, job, s.now, (s.probeRequired.get s.now bot).isSome⟩] := by
  rcases admit_cases settings s bot destination job with hsame | ⟨hopen, keys, -, hpaced⟩
  · exact .inl (congrArg LimiterState.admissions hsame)
  · have hnone := h.none_inflight hopen
    rw [hpaced]
    rcases admitPaced_cases settings { s with probeInflight := keys } bot destination job with
      hsame | ⟨hbot, hdestination, hadmissions, -⟩
    · rw [hsame]
      exact .inl rfl
    · exact .inr ⟨hbot, hdestination, hnone, hadmissions⟩

theorem RecentSound.admitScript (h : RecentSound settings s) (bot destination job : String) :
    RecentSound settings (admitScript settings s bot destination job).1 := by
  rcases admit_cases settings s bot destination job with hsame | ⟨-, keys, -, hpaced⟩
  · rw [hsame]
    exact h
  · rw [hpaced]
    rcases admitPaced_cases settings { s with probeInflight := keys } bot destination job with
      hsame | ⟨-, -, -, hnow, hrecent, hlimits⟩
    · rw [hsame]
      exact h.of_eq (le_refl _) rfl rfl
    · exact h.of_eq (Nat.le_of_eq hnow.symm) hrecent hlimits

theorem RecentSound.step (h : RecentSound settings s) (operation : Operation) :
    RecentSound settings (step settings s operation) := by
  cases operation with
  | tick milliseconds => exact h.of_eq (Nat.le_add_right _ _) rfl rfl
  | admitScript bot destination job => exact h.admitScript bot destination job
  | record429 bot destination job retryAfter durableBot =>
    exact h.record429 bot destination job retryAfter durableBot
  | clearProbe bot job =>
    simp only [Limiter.step, clearProbe]
    split_ifs <;> exact h.of_eq (le_refl _) rfl rfl
  | releaseProbe bot job =>
    simp only [Limiter.step, releaseProbe]
    split_ifs <;> exact h.of_eq (le_refl _) rfl rfl
  | preparePreflight bot =>
    simp only [Limiter.step, preparePreflight]
    split_ifs <;> exact h.of_eq (le_refl _) rfl rfl
  | extendDestination destination cooldownUntil => exact h.of_eq (le_refl _) rfl rfl
  | extendBot bot cooldownUntil => exact h.of_eq (le_refl _) rfl rfl
  | pauseBot bot => exact h.of_eq (le_refl _) rfl rfl
  | pauseDestination bot destination => exact h.of_eq (le_refl _) rfl rfl
  | pauseGateway => exact h.of_eq (le_refl _) rfl rfl

theorem Sound.step (h : Sound settings s) (operation : Operation)
    (hwithin : RetriesWithinLifetime settings s operation (step settings s operation)) :
    Sound settings (step settings s operation) where
  deadlines := h.deadlines.step operation hwithin
  probes := h.probes.step operation
  recent := h.recent.step operation

end Steps

structure AdmissionKept (settings : Settings) (before : LimiterState) (admission : Admission) :
    Prop where
  botInterval : ∀ earlier ∈ before.admissions, earlier.bot = admission.bot →
    earlier.time + settings.botInterval ≤ admission.time
  destinationInterval : ∀ earlier ∈ before.admissions,
    earlier.destination = admission.destination →
      earlier.time + settings.destinationInterval ≤ admission.time
  limited : ∀ limit ∈ before.limits, limit.destination = admission.destination →
    limit.retryUntil ≤ admission.time
  cooled : ∀ cooldown ∈ before.cooldowns, cooldown.bot = admission.bot →
    cooldown.blockedUntil ≤ admission.time
  /-- While a probe is required, the admission is one, and the bot has no other in flight. -/
  probe : (before.probeRequired.get before.now admission.bot).isSome = true →
    admission.isProbe = true ∧
      ∀ probe ∈ before.probes, probe.bot = admission.bot → probe.leaseUntil ≤ admission.time

structure LimiterKept (settings : Settings) (before : LimiterState) (operation : Operation)
    (after : LimiterState) : Prop where
  admitted : ∀ admission, after.admissions = before.admissions ++ [admission] →
    admission.time = before.now ∧ AdmissionKept settings before admission
  /-- A bot has one probe in flight whose lease is not over, at most. -/
  oneProbe : ∀ bot, (after.probes.filter fun probe =>
    probe.bot = bot && after.now < probe.leaseUntil).length ≤ 1
  /-- Two destinations of a bot with a 429 answer within the window give the bot a cooldown. -/
  cooldown : ∀ bot destination job retryAfter durableBot,
    operation = .record429 bot destination job retryAfter durableBot →
    ∀ limit ∈ before.limits, limit.bot = bot → limit.destination ≠ destination →
      before.now ≤ limit.time + settings.window →
      ∃ cooldown, after.cooldowns = before.cooldowns ++ [cooldown] ∧ cooldown.bot = bot ∧
        before.now + max 1 retryAfter ≤ cooldown.blockedUntil

section Kept

variable {settings : Settings} {s : LimiterState}

theorem Sound.admissionKept (h : Sound settings s) {bot destination job : String}
    {isProbe : Bool} (hbot : (s.botNext.get s.now bot).getD 0 ≤ s.now)
    (hdestination : (s.destinationNext.get s.now destination).getD 0 ≤ s.now)
    (hnone : ∀ probe ∈ s.probes, probe.bot = bot → probe.leaseUntil ≤ s.now)
    (hprobe : isProbe = (s.probeRequired.get s.now bot).isSome) :
    AdmissionKept settings s ⟨bot, destination, job, s.now, isProbe⟩ where
  botInterval := by
    rintro earlier hearlier rfl
    exact Int.ofNat_le.mp ((h.deadlines.botSpaced earlier hearlier).passed hbot)
  destinationInterval := by
    rintro earlier hearlier rfl
    exact Int.ofNat_le.mp ((h.deadlines.destinationSpaced earlier hearlier).passed hdestination)
  limited := by
    rintro limit hlimit rfl
    exact (h.deadlines.limited limit hlimit).passed hdestination
  cooled := by
    rintro cooldown hcooldown rfl
    exact (h.deadlines.cooled cooldown hcooldown).passed hbot
  probe := fun hrequired => ⟨hprobe.trans hrequired, hnone⟩

theorem admissions_step (settings : Settings) (s : LimiterState) (operation : Operation)
    (hadmission : ∀ bot destination job, operation ≠ .admitScript bot destination job) :
    (step settings s operation).admissions = s.admissions := by
  cases operation with
  | admitScript bot destination job => exact absurd rfl (hadmission _ _ _)
  | record429 =>
    simp only [step, record429]
    split <;> rfl
  | clearProbe bot job =>
    simp only [step, clearProbe]
    split_ifs <;> rfl
  | releaseProbe bot job =>
    simp only [step, releaseProbe]
    split_ifs <;> rfl
  | preparePreflight bot =>
    simp only [step, preparePreflight]
    split_ifs <;> rfl
  | _ => rfl

theorem ProbesSound.one_inflight (h : ProbesSound s) (bot : String) :
    (s.probes.filter fun probe => probe.bot = bot && s.now < probe.leaseUntil).length ≤ 1 := by
  have hpair : (s.probes.filter fun probe =>
      probe.bot = bot && s.now < probe.leaseUntil).Pairwise fun _ _ => False := by
    refine (h.only.filter _).imp_of_mem ?_
    intro probe other hprobe hother hor
    simp only [List.mem_filter, Bool.and_eq_true, decide_eq_true_eq] at hprobe hother
    have hsome := hor (hprobe.2.1.trans hother.2.1.symm)
    omega
  cases hlist : s.probes.filter fun probe => probe.bot = bot && s.now < probe.leaseUntil with
  | nil => exact Nat.zero_le _
  | cons probe rest =>
    rw [hlist] at hpair
    cases rest with
    | nil => exact le_refl _
    | cons other rest => exact (List.rel_of_pairwise_cons hpair List.mem_cons_self).elim

theorem Sound.kept (h : Sound settings s) (operation : Operation)
    (hwithin : RetriesWithinLifetime settings s operation (Limiter.step settings s operation)) :
    LimiterKept settings s operation (Limiter.step settings s operation) where
  admitted := by
    intro admission hadmission
    have hgrown : (Limiter.step settings s operation).admissions ≠ s.admissions := by
      rw [hadmission]
      exact fun heq => List.cons_ne_nil _ _ (List.append_right_eq_self.mp heq)
    by_cases hadmission : ∃ bot destination job, operation = .admitScript bot destination job
    · obtain ⟨bot, destination, job, rfl⟩ := hadmission
      rcases admit_admissions settings h.probes bot destination job with
        hsame | ⟨hbot, hdestination, hnone, hnew⟩
      · exact absurd hsame hgrown
      · have hlast := List.append_cancel_left (hnew.symm.trans hadmission)
        cases hlast
        exact ⟨rfl, h.admissionKept hbot hdestination hnone rfl⟩
    · exact absurd (admissions_step settings s operation fun bot destination job heq =>
        hadmission ⟨bot, destination, job, heq⟩) hgrown
  oneProbe := (h.step operation hwithin).probes.one_inflight
  cooldown := by
    rintro bot destination job retryAfter durableBot rfl limit hlimit hbot hother hwindow
    exact cooldown_of_two_destinations h.recent hlimit hbot hother hwindow

end Kept

/-- In every interleaving in which the deadlines of a bot-wide cooldown lie within the lifetime of
its keys, admissions keep the intervals, the 429 deadlines, the cooldowns and the probes. -/
theorem admissions_kept (settings : Settings) (now : Nat) (operations : List Operation)
    (hwithin : EachStep (step settings) (RetriesWithinLifetime settings) (LimiterState.empty now)
      operations) :
    EachStep (step settings) (LimiterKept settings) (LimiterState.empty now) operations :=
  eachStep_of_invariant (I := Sound settings) (C := RetriesWithinLifetime settings)
    (fun _ operation h hstep => h.step operation hstep)
    (fun _ operation h hstep => h.kept operation hstep) operations _ (sound_empty settings now)
    hwithin

section Examples

def defaultSettings : Settings where
  botMinInterval := 35
  destinationMinInterval := 1050
  rateLimitProbeDelay := 100
  globalRateLimitWindow := 2000
  rateLimitProbeLease := 30000
  keyTtlSeconds := 86400

/-- Two destinations answer 429 within the window, and then `wait` milliseconds pass. -/
def twoLimitsRun (firstRetry secondRetry : Int) (wait : Nat) : List Operation :=
  [.admitScript "primary" "a" "job1", .tick 100, .admitScript "primary" "b" "job2",
    .record429 "primary" "a" "job1" firstRetry none,
    .record429 "primary" "b" "job2" secondRetry none, .tick wait, .admitScript "primary" "c" "job3"]

/-- With deadlines of seconds the third admission waits for the cooldown. -/
theorem short_limits_kept :
    EachStep (step defaultSettings) (LimiterKept defaultSettings) (LimiterState.empty 1767225600000)
        (twoLimitsRun 6000 5000 6000) ∧
      (run (step defaultSettings) (LimiterState.empty 1767225600000)
        (twoLimitsRun 6000 5000 6000)).cooldowns = [⟨"primary", 1767225606100⟩] ∧
      ((run (step defaultSettings) (LimiterState.empty 1767225600000)
        (twoLimitsRun 6000 5000 6000)).admissions.map (·.time)) =
          [1767225600000, 1767225600100, 1767225606100] := by
  refine ⟨admissions_kept defaultSettings 1767225600000 (twoLimitsRun 6000 5000 6000) ?_, ?_, ?_⟩
  · refine ⟨trivial, trivial, trivial, ?_, ?_, trivial, trivial, trivial⟩
    · intro _
      decide
    · intro _
      decide
  · decide
  · decide

/-- The first answer asks for 1000000 seconds, and the key of the bot lives for one day. -/
theorem long_limit_forgotten :
    ¬ EachStep (step defaultSettings) (LimiterKept defaultSettings)
      (LimiterState.empty 1767225600000) (twoLimitsRun 1000000000 5000 86400001) := by
  intro h
  have hkept := (h.2.2.2.2.2.2.1.admitted
    ⟨"primary", "c", "job3", 1767312000101, false⟩ (by decide)).2.cooled
    ⟨"primary", 1768225600100⟩ (by decide) rfl
  revert hkept
  decide

end Examples

end TradingBot.Limiter
