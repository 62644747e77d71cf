import Mathlib.Data.List.Basic
import Mathlib.Algebra.GroupWithZero.Nat

/-!
# Dates and times of day

Dates of the years 1 to 9999 and times in UTC, to the microsecond, with the text of `isoformat` and
the reader `fromisoformat` of such texts, which reads back what was written.
-/

namespace TradingBot.Misc

/-- `calendar.isleap`. -/
def isLeapYear (year : Nat) : Bool := year % 4 = 0 && (year % 100 ≠ 0 || year % 400 = 0)

def daysInMonth (year month : Nat) : Nat :=
  if month = 2 then if isLeapYear year then 29 else 28
  else if month = 4 ∨ month = 6 ∨ month = 9 ∨ month = 11 then 30
  else 31

/-- `datetime.date`. -/
@[ext]
structure Date where
  year : Nat
  month : Nat
  day : Nat
  yearRange : 1 ≤ year ∧ year ≤ 9999
  monthRange : 1 ≤ month ∧ month ≤ 12
  dayRange : 1 ≤ day ∧ day ≤ daysInMonth year month
  deriving DecidableEq, Repr

/-- `datetime.datetime` in UTC. -/
@[ext]
structure DateTime where
  date : Date
  hour : Nat
  minute : Nat
  second : Nat
  microsecond : Nat
  hourRange : hour < 24
  minuteRange : minute < 60
  secondRange : second < 60
  microsecondRange : microsecond < 1000000
  deriving DecidableEq, Repr

def padDigits : Nat → Nat → List Char
  | 0, _ => []
  | width + 1, n => padDigits width (n / 10) ++ [(n % 10).digitChar]

def readDigits (width : Nat) (input : List Char) : Option (Nat × List Char) :=
  if (input.take width).length = width ∧ (input.take width).all Char.isDigit = true then
    some (Nat.ofDigitChars 10 (input.take width) 0, input.drop width)
  else none

def readChar (c : Char) : List Char → Option (List Char)
  | [] => none
  | d :: rest => if d = c then some rest else none

namespace Date

/-- `date.isoformat()`. -/
def isoformat (date : Date) : List Char :=
  padDigits 4 date.year ++ '-' :: padDigits 2 date.month ++ '-' :: padDigits 2 date.day

def before (first second : Date) : Bool :=
  first.year < second.year ||
    (first.year = second.year && (first.month < second.month ||
      (first.month = second.month && first.day < second.day)))

/-- `date + timedelta(days=1)`, which raises for the last date. -/
def next (date : Date) : Option Date :=
  if hday : date.day + 1 ≤ daysInMonth date.year date.month then
    some { date with day := date.day + 1, dayRange := ⟨Nat.le_add_left _ _, hday⟩ }
  else if hmonth : date.month + 1 ≤ 12 then
    some {
      year := date.year
      month := date.month + 1
      day := 1
      yearRange := date.yearRange
      monthRange := ⟨Nat.le_add_left _ _, hmonth⟩
      dayRange := ⟨Nat.le_refl _, by unfold daysInMonth; split_ifs <;> omega⟩ }
  else if hyear : date.year + 1 ≤ 9999 then
    some {
      year := date.year + 1
      month := 1
      day := 1
      yearRange := ⟨Nat.le_add_left _ _, hyear⟩
      monthRange := by omega
      dayRange := ⟨Nat.le_refl _, by unfold daysInMonth; split_ifs <;> omega⟩ }
  else none

def read (input : List Char) : Option (Date × List Char) := do
  let (year, rest) ← readDigits 4 input
  let rest ← readChar '-' rest
  let (month, rest) ← readDigits 2 rest
  let rest ← readChar '-' rest
  let (day, rest) ← readDigits 2 rest
  if h : (1 ≤ year ∧ year ≤ 9999) ∧ (1 ≤ month ∧ month ≤ 12) ∧
      (1 ≤ day ∧ day ≤ daysInMonth year month) then
    some (⟨year, month, day, h.1, h.2.1, h.2.2⟩, rest)
  else none

end Date

namespace DateTime

/-- `datetime.isoformat()` of a time in UTC. -/
def isoformat (time : DateTime) : List Char :=
  time.date.isoformat ++ 'T' :: padDigits 2 time.hour ++ ':' :: padDigits 2 time.minute ++
    ':' :: padDigits 2 time.second ++
    (if time.microsecond = 0 then [] else '.' :: padDigits 6 time.microsecond) ++ "+00:00".toList

def rank (time : DateTime) : Nat :=
  (((((time.date.year * 12 + time.date.month) * 31 + time.date.day) * 24 + time.hour) * 60 +
    time.minute) * 60 + time.second) * 1000000 + time.microsecond

def readFraction : List Char → Option (Nat × List Char)
  | [] => some (0, [])
  | c :: rest => if c = '.' then readDigits 6 rest else some (0, c :: rest)

/-- `datetime.fromisoformat` of the texts that `isoformat` writes. -/
def fromisoformat (input : List Char) : Option DateTime := do
  let (date, rest) ← Date.read input
  let rest ← readChar 'T' rest
  let (hour, rest) ← readDigits 2 rest
  let rest ← readChar ':' rest
  let (minute, rest) ← readDigits 2 rest
  let rest ← readChar ':' rest
  let (second, rest) ← readDigits 2 rest
  let (microsecond, rest) ← readFraction rest
  if h : (hour < 24 ∧ minute < 60 ∧ second < 60 ∧ microsecond < 1000000) ∧
      rest = "+00:00".toList then
    some ⟨date, hour, minute, second, microsecond, h.1.1, h.1.2.1, h.1.2.2.1, h.1.2.2.2⟩
  else none

end DateTime

theorem length_padDigits (width n : Nat) : (padDigits width n).length = width := by
  induction width generalizing n with
  | zero => rfl
  | succ width ih => rw [padDigits, List.length_append, ih, List.length_singleton]

theorem isDigit_of_mem_padDigits {width n : Nat} {c : Char} (h : c ∈ padDigits width n) :
    c.isDigit = true := by
  induction width generalizing n with
  | zero => cases h
  | succ width ih =>
    rw [padDigits, List.mem_append, List.mem_singleton] at h
    obtain h | rfl := h
    · exact ih h
    · have hdigit : ∀ d : Fin 10, (d : Nat).digitChar.isDigit = true := by decide
      exact hdigit ⟨n % 10, Nat.mod_lt n (by omega)⟩

theorem ofDigitChars_padDigits {width n : Nat} (h : n < 10 ^ width) :
    Nat.ofDigitChars 10 (padDigits width n) 0 = n := by
  induction width generalizing n with
  | zero =>
    have hzero : n = 0 := Nat.lt_one_iff.mp h
    rw [padDigits, Nat.ofDigitChars_nil, hzero]
  | succ width ih =>
    have hlt : n / 10 < 10 ^ width := by
      rw [Nat.pow_succ] at h
      omega
    rw [padDigits, Nat.ofDigitChars_append, ih hlt,
      Nat.ofDigitChars_cons_digitChar_of_lt_ten (Nat.mod_lt n (by omega)), Nat.ofDigitChars_nil]
    omega

theorem readDigits_padDigits {width n : Nat} (h : n < 10 ^ width) (rest : List Char) :
    readDigits width (padDigits width n ++ rest) = some (n, rest) := by
  have htake : (padDigits width n ++ rest).take width = padDigits width n :=
    List.take_left' (length_padDigits width n)
  have hdrop : (padDigits width n ++ rest).drop width = rest :=
    List.drop_left' (length_padDigits width n)
  rw [readDigits, htake, hdrop, if_pos, ofDigitChars_padDigits h]
  exact ⟨length_padDigits width n, List.all_eq_true.mpr fun _ => isDigit_of_mem_padDigits⟩

theorem readChar_cons (c : Char) (rest : List Char) : readChar c (c :: rest) = some rest :=
  if_pos rfl

namespace Date

theorem length_isoformat (date : Date) : date.isoformat.length = 10 := by
  simp only [isoformat, List.length_append, List.length_cons, length_padDigits]

theorem day_lt (date : Date) : date.day < 100 := by
  have hday := date.dayRange.2
  have hmonth : daysInMonth date.year date.month ≤ 31 := by
    unfold daysInMonth
    split_ifs <;> omega
  omega

theorem next_eq_none_iff {date : Date} :
    date.next = none ↔ date.year = 9999 ∧ date.month = 12 ∧ date.day = 31 := by
  have hyear := date.yearRange
  have hmonth := date.monthRange
  have hday := date.dayRange
  have hdecember : date.month = 12 → daysInMonth date.year date.month = 31 := by
    intro h
    rw [h]
    rfl
  unfold next
  split_ifs with hinMonth hinYear hinRange
  · exact ⟨nofun, fun ⟨_, h12, h31⟩ => by have := hdecember h12; omega⟩
  · exact ⟨nofun, fun ⟨_, h12, _⟩ => by omega⟩
  · exact ⟨nofun, fun ⟨h9999, _, _⟩ => by omega⟩
  · refine ⟨fun _ => ?_, fun _ => rfl⟩
    have hlast := hdecember (by omega)
    omega

theorem read_isoformat (date : Date) (rest : List Char) :
    read (date.isoformat ++ rest) = some (date, rest) := by
  have hyear := date.yearRange.2
  have hmonth := date.monthRange.2
  have hday := date.day_lt
  simp only [read, isoformat, List.append_assoc, List.cons_append,
    readDigits_padDigits (show date.year < 10 ^ 4 by omega),
    readDigits_padDigits (show date.month < 10 ^ 2 by omega),
    readDigits_padDigits (show date.day < 10 ^ 2 by omega), readChar_cons, Option.bind_eq_bind,
    Option.bind_some]
  exact dif_pos ⟨date.yearRange, date.monthRange, date.dayRange⟩

theorem isoformat_injective {first second : Date} (h : first.isoformat = second.isoformat) :
    first = second := by
  have hfirst := read_isoformat first []
  rw [h, read_isoformat second []] at hfirst
  exact (congrArg Prod.fst (Option.some.inj hfirst)).symm

end Date

namespace DateTime

theorem readFraction_write {n : Nat} (h : n < 1000000) :
    readFraction ((if n = 0 then [] else '.' :: padDigits 6 n) ++ "+00:00".toList) =
      some (n, "+00:00".toList) := by
  by_cases hzero : n = 0
  · rw [if_pos hzero, hzero]
    rfl
  · rw [if_neg hzero, List.cons_append, readFraction, if_pos rfl]
    exact readDigits_padDigits h _

theorem fromisoformat_isoformat (time : DateTime) : fromisoformat time.isoformat = some time := by
  have hhour := time.hourRange
  have hminute := time.minuteRange
  have hsecond := time.secondRange
  simp only [fromisoformat, isoformat, List.append_assoc, List.cons_append, Date.read_isoformat,
    readDigits_padDigits (show time.hour < 10 ^ 2 by omega),
    readDigits_padDigits (show time.minute < 10 ^ 2 by omega),
    readDigits_padDigits (show time.second < 10 ^ 2 by omega), readChar_cons, Option.bind_eq_bind,
    Option.bind_some, readFraction_write time.microsecondRange]
  exact dif_pos ⟨⟨hhour, hminute, hsecond, time.microsecondRange⟩, trivial⟩

end DateTime

end TradingBot.Misc
