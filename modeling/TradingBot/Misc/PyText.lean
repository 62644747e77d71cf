import Mathlib.Data.List.DropRight
import Mathlib.Data.List.Infix

/-!
# Text operations of the source language

`str.strip` removes the characters at both ends for which `str.isspace` holds, by the language's
Unicode tables. `int` of a text reads its decimal digits. `str.lower` is that of the ASCII letters.
-/

namespace TradingBot.Misc

/-- `str.isspace` of one character. -/
def isPySpace (c : Char) : Bool :=
  let n := c.toNat
  (9 ≤ n && n ≤ 13) || (28 ≤ n && n ≤ 32) || n == 133 || n == 160 || n == 5760 ||
    (8192 ≤ n && n ≤ 8202) || n == 8232 || n == 8233 || n == 8239 || n == 8287 || n == 12288

/-- `str.strip()`. -/
def pyStrip (text : String) : String :=
  String.ofList (((text.toList.dropWhile isPySpace).reverse.dropWhile isPySpace).reverse)

/-- `(value or "").strip()`: a missing text counts as the empty one. -/
def stripOrEmpty (value : Option String) : String := pyStrip (value.getD "")

/-- `(value or "").strip() or None`. -/
def nonemptyText (value : Option String) : Option String :=
  let text := stripOrEmpty value
  if text = "" then none else some text

/-- The number a run of digits names; `int` admits single underscores between digits. -/
def digitsValue (digits : List Char) : Option Nat :=
  if (digits.splitOn '_').all (fun part => part ≠ [] && part.all Char.isDigit) then
    some ((digits.filter Char.isDigit).foldl (fun n c => 10 * n + (c.toNat - 48)) 0)
  else none

/-- `int(text)` of a text in ASCII digits: blanks around it and one sign are admitted. -/
def pyInt (text : String) : Option Int :=
  match (pyStrip text).toList with
  | '-' :: digits => (digitsValue digits).map fun n => -(n : Int)
  | '+' :: digits => (digitsValue digits).map Int.ofNat
  | digits => (digitsValue digits).map Int.ofNat

/-- `text.lower()`. -/
def pyLower (text : String) : String := String.ofList (text.toList.map Char.toLower)

/-- `pattern in text`. -/
def pyContains (pattern text : String) : Bool := decide (pattern.toList <:+: text.toList)

/-- `text.startswith(start)`. -/
def pyStartsWith (start text : String) : Bool := decide (start.toList <+: text.toList)

/-- `text[:n]`. -/
def pyTake (n : Nat) (text : String) : String := String.ofList (text.toList.take n)

/-- `" ".join(parts)`. -/
def joinWords (parts : List String) : String :=
  String.ofList (List.intercalate [' '] (parts.map String.toList))

/-- `text.split()`: the words between runs of blanks. -/
def pySplit (text : String) : List String :=
  ((text.toList.splitOnP isPySpace).filter (· ≠ [])).map String.ofList

theorem pyStrip_pyStrip (text : String) : pyStrip (pyStrip text) = pyStrip text := by
  unfold pyStrip
  rw [String.toList_ofList]
  generalize hcut : text.toList.dropWhile isPySpace = cut
  have hleft : cut.dropWhile isPySpace = cut := by
    rw [← hcut]
    exact List.dropWhile_idempotent isPySpace text.toList
  -- what is left after the right end is cut starts like `cut`
  have hstart : ((cut.reverse.dropWhile isPySpace).reverse).dropWhile isPySpace =
      (cut.reverse.dropWhile isPySpace).reverse := by
    obtain ⟨tail, htail⟩ := List.rdropWhile_prefix isPySpace cut
    rw [List.rdropWhile] at htail
    cases hkept : (cut.reverse.dropWhile isPySpace).reverse with
    | nil => rfl
    | cons c rest =>
      rw [hkept] at htail
      rw [← htail, List.cons_append] at hleft
      by_cases hc : isPySpace c = true
      · rw [List.dropWhile_cons_of_pos hc] at hleft
        have hlength := congrArg List.length hleft
        have hle := (List.dropWhile_sublist (l := rest ++ tail) isPySpace).length_le
        simp only [List.length_cons] at hlength
        omega
      · exact List.dropWhile_cons_of_neg hc
  rw [hstart, List.reverse_reverse, List.dropWhile_idempotent]

theorem nonemptyText_stripOrEmpty (value : Option String) :
    nonemptyText (some (stripOrEmpty value)) = nonemptyText value := by
  have hstrip : stripOrEmpty (some (stripOrEmpty value)) = stripOrEmpty value :=
    pyStrip_pyStrip (value.getD "")
  unfold nonemptyText
  rw [hstrip]

end TradingBot.Misc
