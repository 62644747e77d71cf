import Mathlib.Data.List.Basic
import Mathlib.Data.List.TakeWhile

/-!
# Regular expressions

Patterns as a backtracking matcher reads them: their meaning at a place of a text is the list of the
lengths they can match there, in the order tried; the match is the first one. `finditer` reads the
matches from the left, each behind the one before.

In front of a character it never consumes, a barrier, a pattern matches as at the end of the text.
-/

namespace TradingBot.Misc

inductive Regex where
  | eps
  | char (p : Char → Bool)
  | star (p : Char → Bool)
  | seq (first second : Regex)
  | alt (first second : Regex)
  | notBehind (p : Char → Bool)
  | notAhead (p : Char → Bool)
  | aheadOrEnd (p : Char → Bool)

namespace Regex

def lit (text : List Char) : Regex := text.foldr (fun c rest => seq (char (· = c)) rest) eps

def plus (p : Char → Bool) : Regex := seq (char p) (star p)

/-- The lengths a pattern can match behind a character and in front of a text, in the order tried. -/
def lengths : Regex → Option Char → List Char → List Nat
  | eps, _, _ => [0]
  | char p, _, text => if text.head?.any p then [1] else []
  | star p, _, text => (List.range ((text.takeWhile p).length + 1)).reverse
  | seq first second, before, text =>
    (first.lengths before text).flatMap fun n =>
      (second.lengths ((text.take n).getLast?.or before) (text.drop n)).map (n + ·)
  | alt first second, before, text => first.lengths before text ++ second.lengths before text
  | notBehind p, before, _ => if before.any p then [] else [0]
  | notAhead p, _, text => if text.head?.any p then [] else [0]
  | aheadOrEnd p, _, text => if text.head?.all p then [0] else []

end Regex

structure GroupPattern where
  group : Regex
  rest : Regex := .eps

structure Match where
  start : Nat
  text : List Char
  deriving DecidableEq, Repr

/-- `match.end()`. -/
def Match.stop (m : Match) : Nat := m.start + m.text.length

/-- `match.span()`. -/
def Match.span (m : Match) : Nat × Nat := (m.start, m.stop)

def GroupPattern.matchAt (pattern : GroupPattern) (before : Option Char) (text : List Char) :
    Option (Nat × Nat) :=
  ((pattern.group.lengths before text).flatMap fun n =>
    (pattern.rest.lengths ((text.take n).getLast?.or before) (text.drop n)).map fun m =>
      (n, n + m)).head?

/-- The matches from a place on, behind a character, some characters still to be passed over. -/
def GroupPattern.scan (pattern : GroupPattern) :
    Option Char → Nat → Nat → List Char → List Match
  | _, _, _, [] => []
  | _, position, skip + 1, c :: text => pattern.scan (some c) (position + 1) skip text
  | before, position, 0, c :: text =>
    match pattern.matchAt before (c :: text) with
    | none => pattern.scan (some c) (position + 1) 0 text
    | some (n, whole) =>
      ⟨position, (c :: text).take n⟩ :: pattern.scan (some c) (position + 1) (whole - 1) text

/-- `re.finditer(pattern, text)`, with the group of each match. -/
def GroupPattern.finditer (pattern : GroupPattern) (text : List Char) : List Match :=
  pattern.scan none 0 0 text

section Scan

variable {pattern : GroupPattern} {q : Char → Bool} {text : List Char}

theorem scan_nil (before : Option Char) (position skip : Nat) :
    pattern.scan before position skip [] = [] := by
  cases skip <;> rfl

theorem scan_skip (passed text : List Char) (before : Option Char) (position : Nat) :
    pattern.scan before position passed.length (passed ++ text) =
      pattern.scan (passed.getLast?.or before) (position + passed.length) 0 text := by
  induction passed generalizing before position with
  | nil => rfl
  | cons c passed ih =>
    rw [List.length_cons, List.cons_append, GroupPattern.scan, ih, List.getLast?_cons]
    congr 1
    · cases passed.getLast? <;> rfl
    · omega

theorem scan_of_none (passed text : List Char)
    (hnone : ∀ before first c rest, passed = first ++ c :: rest →
      pattern.matchAt before (c :: rest ++ text) = none) (before : Option Char) (position : Nat) :
    pattern.scan before position 0 (passed ++ text) =
      pattern.scan (passed.getLast?.or before) (position + passed.length) 0 text := by
  induction passed generalizing before position with
  | nil => rfl
  | cons c passed ih =>
    have htail : ∀ before first c' rest, passed = first ++ c' :: rest →
        pattern.matchAt before (c' :: rest ++ text) = none := by
      intro before first c' rest heq
      refine hnone before (c :: first) c' rest ?_
      rw [heq, List.cons_append]
    have hhere := hnone before [] c passed rfl
    rw [List.cons_append] at hhere ⊢
    rw [GroupPattern.scan, hhere]
    dsimp only
    rw [ih htail, List.getLast?_cons, List.length_cons]
    congr 1
    · cases passed.getLast? <;> rfl
    · omega

theorem scan_of_no_start
    (hstart : ∀ before c text, q c = false → pattern.matchAt before (c :: text) = none)
    (passed text : List Char) (hpassed : ∀ c ∈ passed, q c = false) (before : Option Char)
    (position : Nat) :
    pattern.scan before position 0 (passed ++ text) =
      pattern.scan (passed.getLast?.or before) (position + passed.length) 0 text := by
  refine scan_of_none passed text (fun before first c rest heq => ?_) before position
  refine hstart before c _ (hpassed c ?_)
  rw [heq]
  exact List.mem_append_right first List.mem_cons_self

theorem scan_eq_nil
    (hstart : ∀ before c text, q c = false → pattern.matchAt before (c :: text) = none)
    (htext : ∀ c ∈ text, q c = false) (before : Option Char) (position : Nat) :
    pattern.scan before position 0 text = [] := by
  have hscan := scan_of_no_start hstart text [] htext before position
  rw [List.append_nil] at hscan
  rw [hscan, scan_nil]

theorem scan_match {before : Option Char} {matched : List Char} {n position : Nat}
    (hmatched : matched ≠ [])
    (hmatch : pattern.matchAt before (matched ++ text) = some (n, matched.length)) :
    pattern.scan before position 0 (matched ++ text) =
      ⟨position, (matched ++ text).take n⟩ ::
        pattern.scan matched.getLast? (position + matched.length) 0 text := by
  cases matched with
  | nil => exact absurd rfl hmatched
  | cons c matched =>
    rw [List.cons_append] at hmatch ⊢
    rw [GroupPattern.scan, hmatch]
    dsimp only
    rw [List.length_cons, Nat.add_sub_cancel, scan_skip, List.getLast?_cons]
    congr 2
    · cases matched.getLast? <;> rfl
    · omega

theorem scan_shift (before : Option Char) (position skip : Nat) (text : List Char) :
    pattern.scan before position skip text =
      (pattern.scan before 0 skip text).map fun m => ⟨position + m.start, m.text⟩ := by
  induction text generalizing before position skip with
  | nil => rw [scan_nil, scan_nil, List.map_nil]
  | cons c text ih =>
    have hshift : ∀ skip, pattern.scan (some c) (position + 1) skip text =
        (pattern.scan (some c) (0 + 1) skip text).map fun m => ⟨position + m.start, m.text⟩ := by
      intro skip
      rw [ih (some c) (position + 1), ih (some c) (0 + 1), List.map_map]
      refine List.map_congr_left fun m _ => ?_
      simp only [Function.comp_apply, Match.mk.injEq, and_true]
      omega
    cases skip with
    | succ skip =>
      rw [GroupPattern.scan, GroupPattern.scan, hshift]
    | zero =>
      rw [GroupPattern.scan, GroupPattern.scan]
      cases pattern.matchAt before (c :: text) with
      | none => exact hshift 0
      | some found =>
        obtain ⟨n, whole⟩ := found
        dsimp only
        rw [List.map_cons, hshift]
        rfl

end Scan

/-! ## Barriers -/

/-- The pattern never consumes the character, and sees it as the end of the text. -/
def Regex.stops (d : Char) : Regex → Bool
  | .eps => true
  | .char p => !p d
  | .star p => !p d
  | .seq first second => first.stops d && second.stops d
  | .alt first second => first.stops d && second.stops d
  | .notBehind _ => true
  | .notAhead p => !p d
  | .aheadOrEnd p => p d

section Barrier

variable {text : List Char} {before : Option Char} {n : Nat} {r : Regex} {pattern : GroupPattern}
  {d : Char}

theorem Regex.le_length_of_mem (h : n ∈ r.lengths before text) : n ≤ text.length := by
  induction r generalizing before text n with
  | eps =>
    rw [List.mem_singleton.mp h]
    exact Nat.zero_le _
  | char p =>
    rw [lengths] at h
    split at h
    · rename_i hany
      rw [List.mem_singleton.mp h]
      cases text with
      | nil => cases hany
      | cons c text => exact Nat.le_add_left 1 _
    · cases h
  | star p =>
    rw [lengths, List.mem_reverse, List.mem_range] at h
    have hle : (text.takeWhile p).length ≤ text.length := (List.takeWhile_prefix p).length_le
    omega
  | seq first second ihFirst ihSecond =>
    rw [lengths, List.mem_flatMap] at h
    obtain ⟨m, hm, h⟩ := h
    obtain ⟨k, hk, rfl⟩ := List.mem_map.mp h
    have hfirst := ihFirst hm
    have hsecond := ihSecond hk
    rw [List.length_drop] at hsecond
    omega
  | alt first second ihFirst ihSecond =>
    rw [lengths, List.mem_append] at h
    rcases h with h | h
    · exact ihFirst h
    · exact ihSecond h
  | notBehind p | notAhead p | aheadOrEnd p =>
    rw [lengths] at h
    split at h
    all_goals simp_all

theorem Regex.lengths_barrier {d : Char} (hstops : r.stops d = true)
    (before : Option Char) (text rest : List Char) :
    r.lengths before (text ++ d :: rest) = r.lengths before text := by
  induction r generalizing before text with
  | eps | notBehind p => rfl
  | char p | notAhead p | aheadOrEnd p =>
    cases text with
    | nil => simp_all [lengths, stops]
    | cons c text => rfl
  | star p =>
    have hrun : (text ++ d :: rest).takeWhile p = text.takeWhile p := by
      induction text with
      | nil => rw [List.nil_append, List.takeWhile_cons_of_neg (by simp_all [stops]),
          List.takeWhile_nil]
      | cons c text ih =>
        rw [List.cons_append, List.takeWhile_cons, List.takeWhile_cons, ih]
    rw [lengths, lengths, hrun]
  | seq _ _ ihFirst ihSecond =>
    rw [stops, Bool.and_eq_true] at hstops
    rw [lengths, lengths, ihFirst hstops.1]
    refine List.flatMap_congr fun n hn => ?_
    have hle := le_length_of_mem hn
    rw [List.take_append_of_le_length hle, List.drop_append_of_le_length hle,
      ihSecond hstops.2]
  | alt _ _ ihFirst ihSecond =>
    rw [stops, Bool.and_eq_true] at hstops
    rw [lengths, lengths, ihFirst hstops.1, ihSecond hstops.2]

theorem matchAt_barrier (hgroup : pattern.group.stops d = true)
    (hrest : pattern.rest.stops d = true) (before : Option Char) (text rest : List Char) :
    pattern.matchAt before (text ++ d :: rest) = pattern.matchAt before text := by
  unfold GroupPattern.matchAt
  rw [Regex.lengths_barrier hgroup]
  congr 1
  refine List.flatMap_congr fun n hn => ?_
  have hle := Regex.le_length_of_mem hn
  rw [List.take_append_of_le_length hle, List.drop_append_of_le_length hle,
    Regex.lengths_barrier hrest]

theorem matchAt_le {whole : Nat}
    (h : pattern.matchAt before text = some (n, whole)) : n ≤ whole ∧ whole ≤ text.length := by
  have hmem := List.mem_of_mem_head? h
  rw [List.mem_flatMap] at hmem
  obtain ⟨k, hk, hmem⟩ := hmem
  obtain ⟨m, hm, heq⟩ := List.mem_map.mp hmem
  cases heq
  have hfirst := Regex.le_length_of_mem hk
  have hsecond := Regex.le_length_of_mem hm
  rw [List.length_drop] at hsecond
  omega

theorem scan_barrier (hgroup : pattern.group.stops d = true) (hrest : pattern.rest.stops d = true)
    (text rest : List Char) (before : Option Char) (position : Nat) {skip : Nat}
    (hskip : skip ≤ text.length) :
    pattern.scan before position skip (text ++ d :: rest) =
      pattern.scan before position skip text ++
        pattern.scan (text.getLast?.or before) (position + text.length) 0 (d :: rest) := by
  induction text generalizing before position skip with
  | nil =>
    have hzero : skip = 0 := by simpa using hskip
    subst hzero
    rfl
  | cons c text ih =>
    have hlast : (c :: text).getLast?.or before = text.getLast?.or (some c) := by
      rw [List.getLast?_cons]
      cases text.getLast? <;> rfl
    have hplace : position + (c :: text).length = position + 1 + text.length := by
      rw [List.length_cons]
      omega
    rw [hlast, hplace, List.cons_append]
    cases skip with
    | succ skip =>
      rw [GroupPattern.scan, GroupPattern.scan]
      exact ih (some c) (position + 1) (Nat.le_of_succ_le_succ hskip)
    | zero =>
      rw [GroupPattern.scan, GroupPattern.scan, ← List.cons_append,
        matchAt_barrier hgroup hrest]
      cases hmatch : pattern.matchAt before (c :: text) with
      | none => exact ih (some c) (position + 1) (Nat.zero_le _)
      | some found =>
        obtain ⟨n, whole⟩ := found
        obtain ⟨hn, hwhole⟩ := matchAt_le hmatch
        have htake : (c :: (text ++ d :: rest)).take n = (c :: text).take n := by
          rw [← List.cons_append, List.take_append_of_le_length (Nat.le_trans hn hwhole)]
        dsimp only
        rw [List.cons_append, htake, ih (some c) (position + 1)
          (by rw [List.length_cons] at hwhole; omega)]
        rfl

end Barrier

end TradingBot.Misc
