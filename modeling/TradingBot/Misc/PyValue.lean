import Mathlib.Algebra.Order.Ring.Rat
import TradingBot.Misc.Json
import TradingBot.Misc.PyText

/-!
# Values of the source language

How the language reads numbers in texts and JSON values: `int`, `Decimal`, `str`, the truth of a
value and `str.upper`. Digits are those of all scripts (Unicode 14). What it makes of floats, lists
and dictionaries is a parameter (`PyFormat`).
-/

namespace TradingBot.Misc

def digitZeros : List Nat :=
  [0x30, 0x660, 0x6f0, 0x7c0, 0x966, 0x9e6, 0xa66, 0xae6, 0xb66, 0xbe6, 0xc66, 0xce6, 0xd66,
    0xde6, 0xe50, 0xed0, 0xf20, 0x1040, 0x1090, 0x17e0, 0x1810, 0x1946, 0x19d0, 0x1a80, 0x1a90,
    0x1b50, 0x1bb0, 0x1c40, 0x1c50, 0xa620, 0xa8d0, 0xa900, 0xa9d0, 0xa9f0, 0xaa50, 0xabf0,
    0xff10, 0x104a0, 0x10d30, 0x11066, 0x110f0, 0x11136, 0x111d0, 0x112f0, 0x11450, 0x114d0,
    0x11650, 0x116c0, 0x11730, 0x118e0, 0x11950, 0x11c50, 0x11d50, 0x11da0, 0x16a60, 0x16ac0,
    0x16b50, 0x1d7ce, 0x1d7d8, 0x1d7e2, 0x1d7ec, 0x1d7f6, 0x1e140, 0x1e2f0, 0x1e950, 0x1fbf0]

/-- `unicodedata.decimal` of one character; the class `\d`. -/
def digitValue (c : Char) : Option Nat :=
  (digitZeros.find? fun first => first ≤ c.toNat && c.toNat < first + 10).map (c.toNat - ·)

def isDecimalDigit (c : Char) : Bool := (digitValue c).isSome

def digitsNumber (digits : List Char) : Nat :=
  digits.foldl (fun n c => 10 * n + (digitValue c).getD 0) 0

/-- The characters outside ASCII whose `str.upper` has ASCII letters only. -/
def specialUpper : List (Nat × List Char) :=
  [(0xdf, ['S', 'S']), (0x131, ['I']), (0x17f, ['S']), (0xfb00, ['F', 'F']), (0xfb01, ['F', 'I']),
    (0xfb02, ['F', 'L']), (0xfb03, ['F', 'F', 'I']), (0xfb04, ['F', 'F', 'L']),
    (0xfb05, ['S', 'T']), (0xfb06, ['S', 'T'])]

/-- `str.upper` of one character; another character that is not ASCII stays one that is not. -/
def upperChar (c : Char) : List Char :=
  match specialUpper.find? fun entry => entry.1 = c.toNat with
  | some entry => entry.2
  | none => [c.toUpper]

/-- `text.upper()`, as far as it is compared with texts in ASCII. -/
def pyUpper (text : String) : String := String.ofList (text.toList.flatMap upperChar)

def groupedDigits (digits : List Char) : Option Nat :=
  if (digits.splitOn '_').all (fun part => part ≠ [] && part.all isDecimalDigit) then
    some (digitsNumber (digits.filter isDecimalDigit))
  else none

/-- `int(text)` with blanks around it and one sign; `none` is a `ValueError`. The refusal of more
than 4300 digits is left out. -/
def intOfText (text : String) : Option Int :=
  match (pyStrip text).toList with
  | '-' :: digits => (groupedDigits digits).map fun n => -(n : Int)
  | '+' :: digits => (groupedDigits digits).map Int.ofNat
  | digits => (groupedDigits digits).map Int.ofNat

/-- What `Decimal(text)` gives: an `InvalidOperation`, an infinity or a NaN, or a number. -/
inductive PyDecimal where
  | invalid
  | notFinite
  | finite (value : Rat)
  deriving DecidableEq, Repr

/-- `MAX_EMAX` of the decimal arithmetic. -/
def decimalEmax : Int := 999999999999999999

def decimalExponent : List Char → Option Int
  | [] => some 0
  | letter :: rest =>
    if letter ≠ 'e' ∧ letter ≠ 'E' then none
    else
      match rest with
      | '-' :: digits =>
        if digits ≠ [] ∧ digits.all isDecimalDigit then some (-(digitsNumber digits : Int)) else none
      | '+' :: digits =>
        if digits ≠ [] ∧ digits.all isDecimalDigit then some (digitsNumber digits) else none
      | digits =>
        if digits ≠ [] ∧ digits.all isDecimalDigit then some (digitsNumber digits) else none

/-- A number without its sign: digits, perhaps a point and digits, perhaps an exponent. -/
def unsignedDecimal (chars : List Char) : PyDecimal :=
  let whole := chars.takeWhile isDecimalDigit
  let rest := chars.dropWhile isDecimalDigit
  let (fraction, rest) :=
    match rest with
    | '.' :: tail => (tail.takeWhile isDecimalDigit, tail.dropWhile isDecimalDigit)
    | _ => ([], rest)
  if whole = [] ∧ fraction = [] then .invalid
  else
    match decimalExponent rest with
    | none => .invalid
    | some exponent =>
      if decimalEmax < exponent.natAbs then .invalid
      else .finite ((digitsNumber (whole ++ fraction) : Rat) *
        (10 : Rat) ^ (exponent - fraction.length))

def isSpecialDecimal (chars : List Char) : Bool :=
  let name := String.ofList (chars.map Char.toLower)
  name = "inf" || name = "infinity" ||
    (let tail := if pyStartsWith "s" name then chars.drop 1 else chars
     pyStartsWith "nan" (String.ofList (tail.map Char.toLower)) &&
       (tail.drop 3).all isDecimalDigit)

/-- `Decimal(text)`: blanks around it go, and underscores anywhere. -/
def decimalOfText (text : String) : PyDecimal :=
  let chars := (pyStrip text).toList.filter (· ≠ '_')
  let (negative, chars) :=
    match chars with
    | '-' :: rest => (true, rest)
    | '+' :: rest => (false, rest)
    | _ => (false, chars)
  if isSpecialDecimal chars then .notFinite
  else
    match unsignedDecimal chars with
    | .finite value => .finite (if negative then -value else value)
    | other => other

/-- `repr` of the float that a text names, its whole part (`none` where infinite), whether it is
zero, and the text of a list or a dictionary after its bracket. -/
structure PyFormat where
  float : String → String
  whole : String → Option Int
  isZero : String → Bool
  inside : Json → String

/-- The errors of `int`. -/
inductive IntError where
  | value
  | type
  | overflow
  deriving DecidableEq, Repr

namespace Json

variable (format : PyFormat)

/-- `str(value)`. -/
def pyStr : Json → String
  | null => "None"
  | bool true => "True"
  | bool false => "False"
  | int value => toString value
  | float text => format.float text
  | str value => value
  | arr items => "[" ++ format.inside (.arr items)
  | obj members => "\x7b" ++ format.inside (.obj members)

/-- `bool(value)`. -/
def pyTruth : Json → Bool
  | null => false
  | bool value => value
  | int value => value ≠ 0
  | float text => !format.isZero text
  | str value => value ≠ ""
  | arr items => !items.isEmpty
  | obj members => !members.isEmpty

/-- `int(value)`. -/
def pyInt : Json → Except IntError Int
  | null => .error .type
  | bool value => .ok value.toNat
  | int value => .ok value
  | float text =>
    match format.whole text with
    | some value => .ok value
    | none => .error .overflow
  | str value =>
    match intOfText value with
    | some number => .ok number
    | none => .error .value
  | arr _ => .error .type
  | obj _ => .error .type

end Json

end TradingBot.Misc
