import TradingBot.Intelligence.RelationshipLedger
import TradingBot.Misc.Calendar

/-!
# The times of the relationship ledger as texts

The readers of the ledger sort by the text of an instant and the retention compares such texts
(relationship_ledger.py:263-311, 418-460). `_iso` writes a fraction of a second only where there is
one, and `.` comes before `Z`: an instant on a whole second comes after the others of its second.
-/

namespace TradingBot.Intelligence

open TradingBot TradingBot.Misc

structure OrderedAs (p q : List Char) (m n : Nat) : Prop where
  length : p.length = q.length
  lt_iff : p < q ↔ m < n
  eq_iff : p = q ↔ m = n

theorem append_lt_append_iff {p q x y : List Char} (h : p.length = q.length) :
    p ++ x < q ++ y ↔ p < q ∨ p = q ∧ x < y := by
  induction p generalizing q with
  | nil =>
    obtain rfl := List.length_eq_zero_iff.mp h.symm
    simp
  | cons c p ih =>
    cases q with
    | nil => cases h
    | cons d q =>
      simp only [List.cons_append, List.cons_lt_cons_iff, ih (Nat.succ.inj h), List.cons.injEq]
      tauto

theorem append_eq_append_iff {p q x y : List Char} (h : p.length = q.length) :
    p ++ x = q ++ y ↔ p = q ∧ x = y :=
  ⟨fun heq => List.append_inj heq h, fun heq => by rw [heq.1, heq.2]⟩

theorem digitChar_order : ∀ m < 10, ∀ n < 10, (m.digitChar < n.digitChar ↔ m < n) ∧
    (m.digitChar = n.digitChar ↔ m = n) := by decide

theorem orderedAs_padDigits (width : Nat) : ∀ {m n : Nat}, m < 10 ^ width → n < 10 ^ width →
    OrderedAs (padDigits width m) (padDigits width n) m n := by
  induction width with
  | zero =>
    intro m n hm hn
    obtain ⟨rfl, rfl⟩ : m = 0 ∧ n = 0 := by omega
    exact ⟨rfl, by simp, by simp⟩
  | succ width ih =>
    intro m n hm hn
    rw [Nat.pow_succ] at hm hn
    obtain ⟨hlength, hlt, heq⟩ := ih (m := m / 10) (n := n / 10) (by omega) (by omega)
    obtain ⟨hdigit, hsame⟩ := digitChar_order (m % 10) (by omega) (n % 10) (by omega)
    refine ⟨by simp [padDigits, hlength], ?_, ?_⟩
    · rw [padDigits, padDigits, append_lt_append_iff hlength, hlt, heq, List.cons_lt_cons_iff,
        hdigit]
      simp only [List.not_lt_nil, and_false, or_false]
      omega
    · rw [padDigits, padDigits, append_eq_append_iff hlength, heq, List.cons.injEq, hsame]
      simp only [and_true]
      omega

theorem OrderedAs.field {p q : List Char} {m n : Nat} (h : OrderedAs p q m n) (separator : Char)
    (radix x y : Nat) (hspan : x < 100 ∧ y < 100 ∧ x < y + radix ∧ y < x + radix) :
    OrderedAs (p ++ separator :: padDigits 2 x) (q ++ separator :: padDigits 2 y)
      (m * radix + x) (n * radix + y) := by
  obtain ⟨hlength, hlt, heq⟩ := orderedAs_padDigits 2 (m := x) (n := y) (by omega) (by omega)
  have hcarry : ∀ {a b : Nat}, a < b → a * radix + radix ≤ b * radix := by
    intro a b hab
    rw [← Nat.succ_mul]
    exact Nat.mul_le_mul_right radix hab
  refine ⟨by simp [h.length, hlength], ?_, ?_⟩
  · rw [append_lt_append_iff h.length, List.cons_lt_cons_self, h.lt_iff, h.eq_iff, hlt]
    rcases Nat.lt_trichotomy m n with hmn | rfl | hmn
    · have := hcarry hmn
      omega
    · omega
    · have := hcarry hmn
      omega
  · rw [append_eq_append_iff h.length, List.cons.injEq, h.eq_iff, heq]
    simp only [true_and]
    rcases Nat.lt_trichotomy m n with hmn | rfl | hmn
    · have := hcarry hmn
      omega
    · omega
    · have := hcarry hmn
      omega

variable (t : DateTime)

def wholeSeconds : List Char :=
  t.date.isoformat ++ 'T' :: padDigits 2 t.hour ++ ':' :: padDigits 2 t.minute ++
    ':' :: padDigits 2 t.second

/-- The fraction of the second, where there is one, and the offset of `_iso`. -/
def tail : List Char :=
  (if t.microsecond = 0 then [] else '.' :: padDigits 6 t.microsecond) ++ ['Z']

/-- Line 86: the ISO text with `Z` for its offset `+00:00`. -/
def iso : String :=
  String.ofList (t.isoformat.take (t.isoformat.length - 6) ++ ['Z'])

theorem toList_iso : (iso t).toList = wholeSeconds t ++ tail t := by
  have hsplit : t.isoformat = wholeSeconds t ++
      (if t.microsecond = 0 then [] else '.' :: padDigits 6 t.microsecond) ++ "+00:00".toList := rfl
  have hoffset : "+00:00".toList.length = 6 := rfl
  rw [iso, String.toList_ofList, hsplit, List.length_append, hoffset,
    Nat.add_sub_cancel, List.take_left, tail, List.append_assoc]

def secondRank : Nat := t.rank / 1000000

theorem rank_eq : t.rank = secondRank t * 1000000 + t.microsecond := by
  have h := t.microsecondRange
  unfold secondRank DateTime.rank
  omega

theorem orderedAs_wholeSeconds (t u : DateTime) :
    OrderedAs (wholeSeconds t) (wholeSeconds u) (secondRank t) (secondRank u) := by
  have hmonth := fun d : Date => d.monthRange
  have hday : ∀ d : Date, 1 ≤ d.day ∧ d.day ≤ 31 := by
    intro d
    refine ⟨d.dayRange.1, d.dayRange.2.trans ?_⟩
    unfold daysInMonth
    split_ifs <;> decide
  have hyear := fun d : Date => d.yearRange.2
  have h := orderedAs_padDigits 4 (m := t.date.year) (n := u.date.year)
    (Nat.lt_of_le_of_lt (hyear _) (by decide)) (Nat.lt_of_le_of_lt (hyear _) (by decide))
  have hm := hmonth t.date
  have hm' := hmonth u.date
  have hd := hday t.date
  have hd' := hday u.date
  have ht := And.intro t.hourRange (And.intro t.minuteRange t.secondRange)
  have hu := And.intro u.hourRange (And.intro u.minuteRange u.secondRange)
  have hall := ((((h.field '-' 12 t.date.month u.date.month (by omega)).field '-' 31 t.date.day
    u.date.day (by omega)).field 'T' 24 t.hour u.hour (by omega)).field ':' 60 t.minute u.minute
    (by omega)).field ':' 60 t.second u.second (by omega)
  have hrank : ∀ t : DateTime, secondRank t = ((((t.date.year * 12 + t.date.month) * 31 +
      t.date.day) * 24 + t.hour) * 60 + t.minute) * 60 + t.second := by
    intro t
    have h := t.microsecondRange
    unfold secondRank DateTime.rank
    omega
  rw [hrank, hrank]
  exact hall

theorem iso_lt_iff (t u : DateTime) : iso t < iso u ↔ secondRank t < secondRank u ∨
    secondRank t = secondRank u ∧ u.microsecond ≠ t.microsecond ∧
      (u.microsecond = 0 ∨ t.microsecond ≠ 0 ∧ t.microsecond < u.microsecond) := by
  obtain ⟨hlength, hlt, heq⟩ := orderedAs_wholeSeconds t u
  rw [String.lt_iff, toList_iso, toList_iso, append_lt_append_iff hlength, hlt, heq]
  refine or_congr_right (and_congr_right fun _ => ?_)
  unfold tail
  by_cases ht : t.microsecond = 0 <;> by_cases hu : u.microsecond = 0
  · simp [ht, hu]
  · simp only [ht, hu, if_true, if_false, List.nil_append, List.cons_append, List.cons_lt_cons_iff]
    simp
  · simp only [ht, hu, if_true, if_false, List.nil_append, List.cons_append, List.cons_lt_cons_iff]
    simp [ht, eq_comm]
  · obtain ⟨hwidth, hfraction, _⟩ := orderedAs_padDigits 6 t.microsecondRange u.microsecondRange
    simp only [ht, hu, if_false, List.cons_append, List.cons_lt_cons_self,
      append_lt_append_iff hwidth, hfraction]
    simp only [List.lt_irrefl, and_false, or_false, false_or, ne_eq]
    omega

def Mixed (t u : DateTime) : Prop :=
  secondRank t = secondRank u ∧ ¬ (t.microsecond = 0 ↔ u.microsecond = 0)

theorem iso_lt_iff_rank (t u : DateTime) : (iso t < iso u ↔ t.rank < u.rank) ↔ ¬ Mixed t u := by
  have ht := t.microsecondRange
  have hu := u.microsecondRange
  rw [iso_lt_iff, rank_eq t, rank_eq u, Mixed]
  by_cases hsecond : secondRank t = secondRank u
  · simp only [hsecond, lt_self_iff_false, false_or, true_and]
    omega
  · simp only [hsecond, false_and, not_false_eq_true, iff_true, or_false]
    omega

theorem Mixed.against {t u : DateTime} (h : Mixed t u) :
    iso u < iso t ∧ t.rank < u.rank ∨ iso t < iso u ∧ u.rank < t.rank := by
  obtain ⟨hsecond, hwhole⟩ := h
  rw [iso_lt_iff, iso_lt_iff, rank_eq t, rank_eq u, hsecond]
  omega

theorem fields_of_iso_eq {t u : DateTime} (heq : iso t = iso u) :
    secondRank t = secondRank u ∧ t.microsecond = u.microsecond := by
  have hlt : ¬ iso t < iso u := by
    rw [heq]
    exact String.lt_irrefl _
  have hgt : ¬ iso u < iso t := by
    rw [heq]
    exact String.lt_irrefl _
  rw [iso_lt_iff] at hlt hgt
  omega

theorem not_mixed_of_iso_eq {t u : DateTime} (heq : iso t = iso u) : ¬ Mixed t u := by
  rintro ⟨_, hwhole⟩
  rw [(fields_of_iso_eq heq).2] at hwhole
  exact hwhole Iff.rfl

/-! ## Readers and retention -/

section Rows

variable {ρ : Type} (text : ρ → String)

def InOrder (rows : List ρ) : Prop :=
  rows.Pairwise fun a b => ∀ t u, text a = iso t → text b = iso u → t.rank ≤ u.rank

def NoneMixed (rows : List ρ) : Prop :=
  ∀ a ∈ rows, ∀ b ∈ rows, ∀ t u, text a = iso t → text b = iso u → ¬ Mixed t u

/-- Of `rows` exactly those before the cutoff are gone. -/
def RetainsFrom (cutoff : DateTime) (rows kept : List ρ) : Prop :=
  ∀ row ∈ rows, ∀ t, text row = iso t → (row ∈ kept ↔ ¬ t.rank < cutoff.rank)

def NoneMixedWith (cutoff : DateTime) (rows : List ρ) : Prop :=
  ∀ row ∈ rows, ∀ t, text row = iso t → ¬ Mixed t cutoff

def OnWholeSecond (row : ρ) : Prop := ∃ t, t.microsecond = 0 ∧ text row = iso t

theorem OnWholeSecond.microsecond {row : ρ} (h : OnWholeSecond text row) {t : DateTime}
    (ht : text row = iso t) : t.microsecond = 0 := by
  obtain ⟨u, hu, htext⟩ := h
  rw [← hu, (fields_of_iso_eq (htext.symm.trans ht)).2]

theorem noneMixed_of_whole {rows : List ρ} (h : ∀ row ∈ rows, OnWholeSecond text row) :
    NoneMixed text rows := by
  intro a ha b hb t u hat hbu hmixed
  have hta := (h a ha).microsecond text hat
  have hub := (h b hb).microsecond text hbu
  exact hmixed.2 (by rw [hta, hub])

theorem noneMixedWith_of_whole {cutoff : DateTime} (hcutoff : cutoff.microsecond = 0)
    {rows : List ρ} (h : ∀ row ∈ rows, OnWholeSecond text row) :
    NoneMixedWith text cutoff rows := by
  intro row hrow t ht hmixed
  have htime := (h row hrow).microsecond text ht
  exact hmixed.2 (by rw [htime, hcutoff])

theorem inOrder_sorted_iff (rows : List ρ) :
    InOrder text (rows.insertionSort fun a b => text a ≤ text b) ↔ NoneMixed text rows := by
  have : Std.Total fun a b : ρ => text a ≤ text b := ⟨fun a b => String.le_total (text a) (text b)⟩
  have : IsTrans ρ fun a b => text a ≤ text b := ⟨fun _ _ _ => String.le_trans⟩
  have hsorted := List.pairwise_insertionSort (fun a b => text a ≤ text b) rows
  constructor
  · intro horder a ha b hb t u hat hbu hmixed
    rw [← List.mem_insertionSort fun a b => text a ≤ text b] at ha hb
    -- whichever of the two rows comes first, its text or its instant is the later one
    let Before := fun x y : ρ => text x ≤ text y ∧
      ∀ t u, text x = iso t → text y = iso u → t.rank ≤ u.rank
    have hclash : ∀ {x y : ρ} {t u : DateTime}, text x = iso t → text y = iso u →
        iso u < iso t → t.rank < u.rank → ¬ (Before x y ∨ Before y x) := by
      rintro x y t u hx hy hlt hrank (⟨hle, _⟩ | ⟨_, hle⟩)
      · rw [hx, hy] at hle
        exact String.not_lt.mpr hle hlt
      · exact absurd (hle u t hy hx) (Nat.not_le.mpr hrank)
    have hpair : a ≠ b → Before a b ∨ Before b a := by
      have hall : (rows.insertionSort fun a b => text a ≤ text b).Pairwise fun x y =>
          Before x y ∨ Before y x := (hsorted.and horder).imp Or.inl
      have : Std.Symm fun x y => Before x y ∨ Before y x := ⟨fun _ _ h => h.symm⟩
      exact hall.forall ha hb
    have hne : a ≠ b := by
      rintro rfl
      exact not_mixed_of_iso_eq (hat.symm.trans hbu) hmixed
    rcases hmixed.against with ⟨hlt, hrank⟩ | ⟨hlt, hrank⟩
    · exact hclash hat hbu hlt hrank (hpair hne)
    · exact hclash hbu hat hlt hrank (hpair hne).symm
  · intro hmixed
    refine hsorted.imp_of_mem fun {a b} ha hb hle t u hat hbu => Nat.le_of_not_lt fun hlt => ?_
    rw [List.mem_insertionSort] at ha hb
    have hiff := (iso_lt_iff_rank u t).mpr (hmixed b hb a ha u t hbu hat)
    rw [hat, hbu] at hle
    exact String.not_lt.mpr hle (hiff.mpr hlt)

theorem retainsFrom_iff (cutoff : DateTime) (rows : List ρ) :
    RetainsFrom text cutoff rows (rows.filter fun row => ¬ text row < iso cutoff) ↔
      NoneMixedWith text cutoff rows := by
  refine forall₂_congr fun row hrow => forall₂_congr fun t ht => ?_
  rw [← iso_lt_iff_rank, List.mem_filter, decide_eq_true_eq, and_iff_right hrow, not_iff_not, ht]

end Rows

/-- A row of `melted_relationship_features`, as its reader yields it. -/
structure MeltedFeatureRow (ν : Type) where
  availableAtUtc : String
  realizedAtUtc : String
  targetMarket : String
  targetAnchorPrice : ν
  targetReturnBps : ν
  features : List (String × ν)

variable {ν : Type}

/-- The retention of `append_melted_features` (line 418): rows before the cutoff go. -/
def compactMeltedFeatures (reading : LedgerReading ν) (now days : Int)
    (rows : List (MeltedFeatureRow ν)) : List (MeltedFeatureRow ν) :=
  let cutoff := reading.iso (now - days * microsecondsPerDay)
  rows.filter fun row => ¬ row.availableAtUtc < cutoff

def iterMeltedFeatures (rows : List (MeltedFeatureRow ν)) : List (MeltedFeatureRow ν) :=
  rows.insertionSort fun a b => a.availableAtUtc ≤ b.availableAtUtc

/-- Both readers yield rows by available instant; both retentions delete exactly what is before the
cutoff. -/
structure TimesKept (reading : LedgerReading ν) (now days : Int) (cutoff : DateTime)
    (labels : List (LabelRow ν)) (counts : LabelCounts) (features : List (MeltedFeatureRow ν)) :
    Prop where
  labelsRead : InOrder RelationshipLabel.availableAtUtc (iterLabels labels)
  featuresRead : InOrder MeltedFeatureRow.availableAtUtc (iterMeltedFeatures features)
  labelsRetained : RetainsFrom (fun row : LabelRow ν => row.realizedAtUtc) cutoff labels
    (compactLabels reading now (some days) (labels, counts)).1
  featuresRetained : RetainsFrom MeltedFeatureRow.availableAtUtc cutoff features
    (compactMeltedFeatures reading now days features)

/-- In no second do a row on the whole second and one with a fraction meet: among the available
times of a table, or between a retention time and the cutoff. -/
structure Unmixed (cutoff : DateTime) (labels : List (LabelRow ν))
    (features : List (MeltedFeatureRow ν)) : Prop where
  labelsRead : NoneMixed RelationshipLabel.availableAtUtc (labels.map LabelRow.toRelationshipLabel)
  featuresRead : NoneMixed MeltedFeatureRow.availableAtUtc features
  labelsRetained : NoneMixedWith (fun row : LabelRow ν => row.realizedAtUtc) cutoff labels
  featuresRetained : NoneMixedWith MeltedFeatureRow.availableAtUtc cutoff features

theorem times_kept_iff {reading : LedgerReading ν} {now days : Int} {cutoff : DateTime}
    (hcutoff : reading.iso (now - days * microsecondsPerDay) = iso cutoff)
    (labels : List (LabelRow ν)) (counts : LabelCounts) (features : List (MeltedFeatureRow ν)) :
    TimesKept reading now days cutoff labels counts features ↔ Unmixed cutoff labels features := by
  have hlabels : (compactLabels reading now (some days) (labels, counts)).1 =
      labels.filter fun row => ¬ row.realizedAtUtc < iso cutoff := by rw [← hcutoff]; rfl
  have hfeatures : compactMeltedFeatures reading now days features =
      features.filter fun row => ¬ row.availableAtUtc < iso cutoff := by rw [← hcutoff]; rfl
  constructor
  · rintro ⟨h1, h2, h3, h4⟩
    rw [hlabels] at h3
    rw [hfeatures] at h4
    exact ⟨(inOrder_sorted_iff _ _).mp h1, (inOrder_sorted_iff _ _).mp h2,
      (retainsFrom_iff _ _ _).mp h3, (retainsFrom_iff _ _ _).mp h4⟩
  · rintro ⟨h1, h2, h3, h4⟩
    refine ⟨(inOrder_sorted_iff _ _).mpr h1, (inOrder_sorted_iff _ _).mpr h2, ?_, ?_⟩
    · rw [hlabels]
      exact (retainsFrom_iff _ _ _).mpr h3
    · rw [hfeatures]
      exact (retainsFrom_iff _ _ _).mpr h4

def afterEight (minute microsecond : Nat) (hminute : minute < 60 := by decide)
    (h : microsecond < 1000000 := by decide) : DateTime where
  date := ⟨2026, 8, 3, by decide, by decide, by decide⟩
  hour := 8
  minute := minute
  second := 0
  microsecond := microsecond
  hourRange := by decide
  minuteRange := hminute
  secondRange := by decide
  microsecondRange := h

/-- What was available at an instant and realized at a later one, with one feature. -/
def featureAt (available realized : DateTime) : MeltedFeatureRow Int :=
  ⟨iso available, iso realized, "PAPER:TOMORROW:NORMAL", 1, 0, [("PAPER|1m", 1)]⟩

def labelAt (available realized : DateTime) : LabelRow Int :=
  .ofLabel ⟨iso available, iso realized, "COIN", "TOMORROW", "PHYSICAL", "PAPER:TOMORROW:NORMAL", 5,
    180000, 183600, 0, [("PAPER|1m", 1)]⟩ (iso realized)

/-- A label and two features on whole seconds, the later feature stored first. -/
theorem whole_second_kept : TimesKept wholeReading (1785744000000000 + microsecondsPerDay) 1
    (afterEight 0 0) [labelAt (afterEight 0 0) (afterEight 1 0)] {}
    [featureAt (afterEight 1 0) (afterEight 2 0), featureAt (afterEight 0 0) (afterEight 2 0)] := by
  have hcutoff : wholeReading.iso (1785744000000000 + microsecondsPerDay - 1 * microsecondsPerDay) =
      iso (afterEight 0 0) := by decide
  have hfeatures : ∀ row ∈ [featureAt (afterEight 1 0) (afterEight 2 0),
      featureAt (afterEight 0 0) (afterEight 2 0)],
      OnWholeSecond MeltedFeatureRow.availableAtUtc row := by
    intro row hrow
    simp only [List.mem_cons, List.not_mem_nil, or_false] at hrow
    rcases hrow with rfl | rfl
    · exact ⟨afterEight 1 0, rfl, rfl⟩
    · exact ⟨afterEight 0 0, rfl, rfl⟩
  refine (times_kept_iff hcutoff _ {} _).mpr ⟨noneMixed_of_whole _ ?_,
    noneMixed_of_whole _ hfeatures, noneMixedWith_of_whole _ rfl ?_,
    noneMixedWith_of_whole _ rfl hfeatures⟩
  · intro row hrow
    rw [List.map_singleton, List.mem_singleton] at hrow
    rw [hrow]
    exact ⟨afterEight 0 0, rfl, rfl⟩
  · intro row hrow
    rw [List.mem_singleton.mp hrow]
    exact ⟨afterEight 1 0, rfl, rfl⟩

/-- Half a second after eight is read before eight. -/
theorem half_second_read_first : ¬ TimesKept wholeReading (1785744000000000 + microsecondsPerDay) 1
    (afterEight 0 0) [] {} [featureAt (afterEight 0 0) (afterEight 1 0),
      featureAt (afterEight 0 500000) (afterEight 1 0)] := by
  intro h
  have hmixed : Mixed (afterEight 0 0) (afterEight 0 500000) := by
    refine ⟨?_, by simp [afterEight]⟩
    simp [secondRank, DateTime.rank, afterEight]
  exact (inOrder_sorted_iff _ _).mp h.featuresRead (featureAt (afterEight 0 0) (afterEight 1 0))
    List.mem_cons_self (featureAt (afterEight 0 500000) (afterEight 1 0))
    (List.mem_cons_of_mem _ List.mem_cons_self) _ _ rfl rfl hmixed

end TradingBot.Intelligence
