import Mathlib.Data.List.Basic
import Mathlib.Data.List.TakeWhile
import Mathlib.Algebra.GroupWithZero.Nat

/-!
# JSON texts

The values of JSON, their compact text in ASCII, and its reader, which reads a text in full: blanks
between the tokens, escapes, and members named twice are admitted. A number with a fraction or an
exponent is kept as its text, and half a surrogate pair is no character. Written objects, strings
and whole numbers are read back.
-/

namespace TradingBot.Misc

inductive Json where
  | null
  | bool (value : Bool)
  | int (value : Int)
  | float (text : String)
  | str (value : String)
  | arr (items : List Json)
  | obj (members : List (String × Json))
  deriving Repr

namespace Json

def isNull : Json → Bool
  | null => true
  | _ => false

def member? (members : List (String × Json)) (name : String) : Option Json :=
  (members.reverse.find? fun member => member.1 = name).map (·.2)

theorem member?_append (first second : List (String × Json)) (name : String) :
    member? (first ++ second) name = (member? second name).or (member? first name) := by
  rw [member?, List.reverse_append, List.find?_append, Option.map_or]
  rfl

theorem member?_cons (entry : String × Json) (members : List (String × Json)) (name : String) :
    member? (entry :: members) name =
      (member? members name).or (if entry.1 = name then some entry.2 else none) := by
  rw [← List.singleton_append, member?_append]
  by_cases h : entry.1 = name
  · rw [if_pos h]
    simp [member?, h]
  · rw [if_neg h]
    simp [member?, h]

theorem member?_eq_none {members : List (String × Json)} {name : String}
    (h : ∀ entry ∈ members, entry.1 ≠ name) : member? members name = none := by
  rw [member?, Option.map_eq_none_iff, List.find?_eq_none]
  intro entry hentry
  rw [decide_eq_true_eq]
  exact h entry (List.mem_reverse.mp hentry)

theorem member?_filter {members : List (String × Json)} {name : String} {p : String × Json → Bool}
    (h : ∀ entry, entry.1 = name → p entry = true) :
    member? (members.filter p) name = member? members name := by
  rw [member?, member?, ← List.filter_reverse, List.find?_filter]
  congr 2
  funext entry
  by_cases hname : entry.1 = name
  · simp [hname, h entry hname]
  · simp [hname]

def hexUnit (unit : Nat) : List Char :=
  [(unit / 4096 % 16).digitChar, (unit / 256 % 16).digitChar, (unit / 16 % 16).digitChar,
    (unit % 16).digitChar]

variable (c : Char)

def escapeChar : List Char :=
  if c = '\x22' then ['\\', '\x22']
  else if c = '\\' then ['\\', '\\']
  else if c = '\n' then ['\\', 'n']
  else if c = '\r' then ['\\', 'r']
  else if c = '\t' then ['\\', 't']
  else if c = '\x08' then ['\\', 'b']
  else if c = '\x0c' then ['\\', 'f']
  else if 32 ≤ c.toNat ∧ c.toNat ≤ 126 then [c]
  else if c.toNat < 65536 then '\\' :: 'u' :: hexUnit c.toNat
  else '\\' :: 'u' :: hexUnit (55296 + (c.toNat - 65536) / 1024) ++
    '\\' :: 'u' :: hexUnit (56320 + (c.toNat - 65536) % 1024)

def escape (text : List Char) : List Char := text.flatMap escapeChar

def writeString (text : String) : List Char := '\x22' :: escape text.toList ++ ['\x22']

def writeInt (n : Int) : List Char :=
  if n < 0 then '-' :: Nat.toDigits 10 n.natAbs else Nat.toDigits 10 n.natAbs

mutual

def write : Json → List Char
  | null => "null".toList
  | bool true => "true".toList
  | bool false => "false".toList
  | int n => writeInt n
  | float text => text.toList
  | str text => writeString text
  | arr items => '[' :: writeItems items ++ [']']
  | obj members => '\x7b' :: writeMembers members ++ ['\x7d']

def writeItems : List Json → List Char
  | [] => []
  | [item] => write item
  | item :: items => write item ++ ',' :: writeItems items

def writeMembers : List (String × Json) → List Char
  | [] => []
  | [(name, value)] => writeString name ++ ':' :: write value
  | (name, value) :: members => writeString name ++ ':' :: write value ++ ',' :: writeMembers members

end

/-! ## Reading -/

def isBlank : Bool := c = ' ' || c = '\t' || c = '\n' || c = '\r'

def skipBlanks (input : List Char) : List Char := input.dropWhile isBlank

def hexValue : Option Nat :=
  if '0' ≤ c ∧ c ≤ '9' then some (c.toNat - 48)
  else if 'a' ≤ c ∧ c ≤ 'f' then some (c.toNat - 87)
  else if 'A' ≤ c ∧ c ≤ 'F' then some (c.toNat - 55)
  else none

def readUnit : List Char → Option (Nat × List Char)
  | a :: b :: c :: d :: rest =>
    match hexValue a, hexValue b, hexValue c, hexValue d with
    | some a, some b, some c, some d => some (4096 * a + 256 * b + 16 * c + d, rest)
    | _, _, _, _ => none
  | _ => none

def simpleEscape : Option Char :=
  if c = '\x22' then some '\x22'
  else if c = '\\' then some '\\'
  else if c = '/' then some '/'
  else if c = 'b' then some '\x08'
  else if c = 'f' then some '\x0c'
  else if c = 'n' then some '\n'
  else if c = 'r' then some '\r'
  else if c = 't' then some '\t'
  else none

def readLow : List Char → Option (Nat × List Char)
  | a :: b :: rest =>
    if a = '\\' ∧ b = 'u' then
      match readUnit rest with
      | some (low, rest) => if 56320 ≤ low ∧ low < 57344 then some (low, rest) else none
      | none => none
    else none
  | _ => none

def readEscape : List Char → Option (Char × List Char)
  | [] => none
  | c :: rest =>
    if c = 'u' then
      match readUnit rest with
      | none => none
      | some (unit, rest) =>
        if 55296 ≤ unit ∧ unit < 56320 then
          match readLow rest with
          | some (low, rest) =>
            some (Char.ofNat (65536 + 1024 * (unit - 55296) + (low - 56320)), rest)
          | none => none
        else if 56320 ≤ unit ∧ unit < 57344 then none
        else some (Char.ofNat unit, rest)
    else (simpleEscape c).map fun character => (character, rest)

def readString : Nat → List Char → Option (List Char × List Char)
  | 0, _ => none
  | _, [] => none
  | fuel + 1, c :: rest =>
    if c = '\x22' then some ([], rest)
    else if c = '\\' then
      match readEscape rest with
      | some (character, rest) =>
        (readString fuel rest).map fun read => (character :: read.1, read.2)
      | none => none
    else if c.toNat < 32 then none
    else (readString fuel rest).map fun read => (c :: read.1, read.2)

def fractionOf : List Char → List Char
  | c :: rest => if c = '.' ∧ rest.takeWhile Char.isDigit ≠ [] then
      c :: rest.takeWhile Char.isDigit else []
  | [] => []

def exponentOf : List Char → List Char
  | c :: rest =>
    if c = 'e' ∨ c = 'E' then
      let sign := rest.take 1 |>.filter fun c => c = '+' || c = '-'
      let digits := (rest.drop sign.length).takeWhile Char.isDigit
      if digits = [] then [] else c :: sign ++ digits
    else []
  | [] => []

def readNumber (input : List Char) : Option (Json × List Char) :=
  let sign := input.takeWhile (· = '-') |>.take 1
  let body := input.drop sign.length
  let digits := body.takeWhile Char.isDigit
  let whole := if digits.head? = some '0' then ['0'] else digits
  let rest := body.drop whole.length
  let fraction := fractionOf rest
  let exponent := exponentOf (rest.drop fraction.length)
  if whole = [] then none
  else if fraction = [] ∧ exponent = [] then
    let value : Int := Nat.ofDigitChars 10 whole 0
    some (.int (if sign = [] then value else -value), rest)
  else
    some (.float (String.ofList (sign ++ whole ++ fraction ++ exponent)),
      rest.drop (fraction.length + exponent.length))

def after (start : String) (input : List Char) : Option (List Char) :=
  if start.toList.isPrefixOf input then some (input.drop start.length) else none

def readAtom (input : List Char) : Option (Json × List Char) :=
  match after "null" input with
  | some rest => some (.null, rest)
  | none => match after "true" input with
    | some rest => some (.bool true, rest)
    | none => match after "false" input with
      | some rest => some (.bool false, rest)
      | none => match ["NaN", "Infinity", "-Infinity"].findSome? fun name =>
          (after name input).map (Json.float name, ·) with
        | some read => some read
        | none => readNumber input

mutual

def readValue : Nat → List Char → Option (Json × List Char)
  | 0, _ => none
  | fuel + 1, input =>
    match skipBlanks input with
    | [] => none
    | c :: rest =>
      if c = '\x22' then
        (readString fuel rest).map fun read => (.str (String.ofList read.1), read.2)
      else if c = '\x7b' then
        match skipBlanks rest with
        | [] => none
        | d :: behind =>
          if d = '\x7d' then some (.obj [], behind)
          else (readMembers fuel (d :: behind)).map fun read => (.obj read.1, read.2)
      else if c = '[' then
        match skipBlanks rest with
        | [] => none
        | d :: behind =>
          if d = ']' then some (.arr [], behind)
          else (readItems fuel (d :: behind)).map fun read => (.arr read.1, read.2)
      else readAtom (c :: rest)

def readItems : Nat → List Char → Option (List Json × List Char)
  | 0, _ => none
  | fuel + 1, input =>
    match readValue fuel input with
    | none => none
    | some (item, rest) =>
      match skipBlanks rest with
      | [] => none
      | d :: behind =>
        if d = ']' then some ([item], behind)
        else if d = ',' then
          (readItems fuel (skipBlanks behind)).map fun read => (item :: read.1, read.2)
        else none

def readMembers : Nat → List Char → Option (List (String × Json) × List Char)
  | 0, _ => none
  | _, [] => none
  | fuel + 1, c :: input =>
    if c = '\x22' then
      match readString fuel input with
      | none => none
      | some (name, rest) =>
        match skipBlanks rest with
        | [] => none
        | colon :: behind =>
          if colon = ':' then
            match readValue fuel behind with
            | none => none
            | some (value, rest) =>
              match skipBlanks rest with
              | [] => none
              | d :: behind =>
                if d = '\x7d' then some ([(String.ofList name, value)], behind)
                else if d = ',' then
                  (readMembers fuel (skipBlanks behind)).map fun read =>
                    ((String.ofList name, value) :: read.1, read.2)
                else none
          else none
    else none

end

def read (text : String) : Option Json :=
  match readValue (text.length + 1) text.toList with
  | some (value, rest) => if skipBlanks rest = [] then some value else none
  | none => none

def exponentValue (exponent : List Char) : Int :=
  let value : Int := Nat.ofDigitChars 10 (exponent.filter Char.isDigit) 0
  if '-' ∈ exponent then -value else value

/-- A number with a fraction or an exponent rounds to 2 ^ 1024 or more in double precision. -/
def isInfinite (text : String) : Bool :=
  let body := text.toList.dropWhile (· = '-')
  let rest := body.dropWhile Char.isDigit
  let fraction := fractionOf rest
  let digits := body.takeWhile Char.isDigit ++ fraction.drop 1
  let power := exponentValue (exponentOf (rest.drop fraction.length)) - (fraction.drop 1).length
  let number := Nat.ofDigitChars 10 digits 0
  let bound := 2 ^ 1024 - 2 ^ 970
  if text = "Infinity" ∨ text = "-Infinity" then true
  -- the cases with a large power are decided before it is computed
  else if 400 < power then number ≠ 0
  else if (digits.length : Int) ≤ -power then false
  else if 0 ≤ power then decide (bound ≤ number * 10 ^ power.toNat)
  else decide (bound * 10 ^ (-power).toNat ≤ number)

theorem hexValue_digitChar {d : Nat} (h : d < 16) : hexValue d.digitChar = some d := by
  have hall : ∀ d : Fin 16, hexValue (d : Nat).digitChar = some (d : Nat) := by decide
  exact hall ⟨d, h⟩

theorem readUnit_hexUnit {unit : Nat} (h : unit < 65536) (rest : List Char) :
    readUnit (hexUnit unit ++ rest) = some (unit, rest) := by
  have hdigit : ∀ n : Nat, hexValue (n % 16).digitChar = some (n % 16) :=
    fun n => hexValue_digitChar (Nat.mod_lt n (by omega))
  have hsum : 4096 * (unit / 4096 % 16) + 256 * (unit / 256 % 16) + 16 * (unit / 16 % 16) +
      unit % 16 = unit := by omega
  simp only [hexUnit, List.cons_append, List.nil_append, readUnit, hdigit, hsum]

theorem toNat_valid :
    c.toNat < 55296 ∨ 57343 < c.toNat ∧ c.toNat < 1114112 := c.valid

theorem readEscape_unit {c : Char} (h : c.toNat < 65536) (rest : List Char) :
    readEscape ('u' :: hexUnit c.toNat ++ rest) = some (c, rest) := by
  have hplane := toNat_valid c
  rw [List.cons_append, readEscape, if_pos rfl, readUnit_hexUnit h]
  dsimp only
  rw [if_neg (by omega), if_neg (by omega), Char.ofNat_toNat]

theorem readEscape_pair {c : Char} (h : 65536 ≤ c.toNat) (rest : List Char) :
    readEscape ('u' :: hexUnit (55296 + (c.toNat - 65536) / 1024) ++
      '\\' :: 'u' :: hexUnit (56320 + (c.toNat - 65536) % 1024) ++ rest) = some (c, rest) := by
  have hlt := toNat_valid c
  have hlow : (c.toNat - 65536) % 1024 < 1024 := Nat.mod_lt _ (by omega)
  have hhigh : (c.toNat - 65536) / 1024 < 1024 := by omega
  have hread : readLow ('\\' :: 'u' :: (hexUnit (56320 + (c.toNat - 65536) % 1024) ++ rest)) =
      some (56320 + (c.toNat - 65536) % 1024, rest) := by
    rw [readLow, if_pos ⟨rfl, rfl⟩, readUnit_hexUnit (by omega)]
    dsimp only
    rw [if_pos (by omega)]
  have hcode : 65536 + 1024 * (55296 + (c.toNat - 65536) / 1024 - 55296) +
      (56320 + (c.toNat - 65536) % 1024 - 56320) = c.toNat := by omega
  simp only [List.cons_append, List.append_assoc]
  rw [readEscape, if_pos rfl, readUnit_hexUnit (by omega)]
  dsimp only
  rw [if_pos (by omega), hread]
  dsimp only
  rw [hcode, Char.ofNat_toNat]

theorem readString_escapeChar (fuel : Nat) (c : Char) (rest : List Char) :
    readString (fuel + 1) (escapeChar c ++ rest) =
      (readString fuel rest).map fun read => (c :: read.1, read.2) := by
  unfold escapeChar
  split_ifs with hquote hslash hn hr ht hb hf hprintable hplane
  · subst hquote
    rfl
  · subst hslash
    rfl
  · subst hn
    rfl
  · subst hr
    rfl
  · subst ht
    rfl
  · subst hb
    rfl
  · subst hf
    rfl
  · rw [List.singleton_append, readString, if_neg hquote, if_neg hslash, if_neg (by omega)]
  · rw [List.cons_append, readString, if_neg (by decide), if_pos rfl, readEscape_unit hplane]
  · rw [List.cons_append, List.cons_append, readString, if_neg (by decide), if_pos rfl,
      readEscape_pair (Nat.le_of_not_lt hplane)]

theorem readString_escape {fuel : Nat} {text : List Char} (h : text.length < fuel)
    (rest : List Char) :
    readString fuel (escape text ++ '\x22' :: rest) = some (text, rest) := by
  induction text generalizing fuel with
  | nil =>
    obtain ⟨fuel, rfl⟩ := Nat.exists_eq_add_of_lt h
    rw [escape, List.flatMap_nil, List.nil_append, readString, if_pos rfl]
  | cons c text ih =>
    obtain ⟨fuel, rfl⟩ : ∃ n, fuel = n + 1 := ⟨fuel - 1, by omega⟩
    rw [List.length_cons] at h
    rw [escape, List.flatMap_cons, List.append_assoc, readString_escapeChar]
    have hrest := @ih fuel (by omega)
    rw [escape] at hrest
    rw [hrest]
    rfl

def EndsNumber (rest : List Char) : Prop :=
  ∀ c ∈ rest.head?, c.isDigit = false ∧ c ≠ '.' ∧ c ≠ 'e' ∧ c ≠ 'E'

theorem takeWhile_digits {digits rest : List Char} (hdigits : ∀ c ∈ digits, c.isDigit = true)
    (hrest : EndsNumber rest) : (digits ++ rest).takeWhile Char.isDigit = digits := by
  rw [List.takeWhile_append_of_pos hdigits]
  cases rest with
  | nil => exact List.append_nil digits
  | cons c rest =>
    have hc := (hrest c rfl).1
    rw [List.takeWhile_cons_of_neg (by rw [hc]; exact Bool.false_ne_true), List.append_nil]

theorem eq_zero_of_head_toDigits {n : Nat} (h : (Nat.toDigits 10 n).head? = some '0') : n = 0 := by
  induction n using Nat.strongRecOn with
  | ind n ih =>
    by_cases hsmall : n < 10
    · rw [Nat.toDigits_of_lt_base hsmall] at h
      have hall : ∀ d : Fin 10, [(d : Nat).digitChar].head? = some '0' → (d : Nat) = 0 := by decide
      exact hall ⟨n, hsmall⟩ h
    · rw [Nat.toDigits_of_base_le (by omega) (by omega),
        List.head?_append_of_ne_nil _ Nat.toDigits_ne_nil] at h
      have hzero := ih (n / 10) (by omega) h
      omega

theorem fractionOf_of_ends {rest : List Char} (h : EndsNumber rest) : fractionOf rest = [] := by
  cases rest with
  | nil => rfl
  | cons c rest => exact if_neg fun hpoint => (h c rfl).2.1 hpoint.1

theorem exponentOf_of_ends {rest : List Char} (h : EndsNumber rest) : exponentOf rest = [] := by
  cases rest with
  | nil => rfl
  | cons c rest => exact if_neg (not_or.mpr (h c rfl).2.2)

theorem readNumber_of_sign {input rest sign : List Char} {n : Nat}
    (hsign : (input.takeWhile (· = '-')).take 1 = sign)
    (hbody : input.drop sign.length = Nat.toDigits 10 n ++ rest) (hrest : EndsNumber rest) :
    readNumber input = some (.int (if sign = [] then (n : Int) else -(n : Int)), rest) := by
  have hdigits : ∀ c ∈ Nat.toDigits 10 n, c.isDigit = true :=
    fun c hc => Nat.isDigit_of_mem_toDigits (by omega) (by omega) hc
  have hwhole : (if (Nat.toDigits 10 n).head? = some '0' then ['0'] else Nat.toDigits 10 n) =
      Nat.toDigits 10 n := by
    split
    · rename_i hzero
      rw [eq_zero_of_head_toDigits hzero, Nat.toDigits_zero]
    · rfl
  unfold readNumber
  dsimp only
  rw [hsign, hbody, takeWhile_digits hdigits hrest, hwhole, List.drop_left,
    fractionOf_of_ends hrest, List.length_nil, List.drop_zero, exponentOf_of_ends hrest,
    if_neg Nat.toDigits_ne_nil, if_pos ⟨rfl, rfl⟩, Nat.ofDigitChars_ten_toDigits]

theorem readNumber_writeInt (n : Int) {rest : List Char} (hrest : EndsNumber rest) :
    readNumber (writeInt n ++ rest) = some (.int n, rest) := by
  unfold writeInt
  by_cases hneg : n < 0
  · have hsign : (('-' :: Nat.toDigits 10 n.natAbs ++ rest).takeWhile (· = '-')).take 1 = ['-'] := by
      rw [List.cons_append, List.takeWhile_cons_of_pos (by decide)]
      rfl
    rw [if_pos hneg, readNumber_of_sign hsign rfl hrest, if_neg (List.cons_ne_nil _ _)]
    congr 3
    omega
  · have hsign : ((Nat.toDigits 10 n.natAbs ++ rest).takeWhile (· = '-')).take 1 = [] := by
      cases hdigits : Nat.toDigits 10 n.natAbs with
      | nil => exact absurd hdigits Nat.toDigits_ne_nil
      | cons c digits =>
        have hdigit : c.isDigit = true := Nat.isDigit_of_mem_toDigits (b := 10) (n := n.natAbs)
          (by omega) (by omega) (hdigits ▸ List.mem_cons_self)
        rw [List.cons_append, List.takeWhile_cons_of_neg]
        · rfl
        · intro hminus
          rw [of_decide_eq_true hminus] at hdigit
          cases hdigit
    rw [if_neg hneg, readNumber_of_sign hsign rfl hrest, if_pos rfl]
    congr 3
    omega

/-! ## Values are read back -/

inductive Plain : Json → Prop
  | int (n : Int) : Plain (.int n)
  | str (text : String) : Plain (.str text)
  | obj (members : List (String × Json)) :
      (∀ member ∈ members, Plain member.2) → Plain (.obj members)

theorem skipBlanks_cons {c : Char} (h : isBlank c = false) (rest : List Char) :
    skipBlanks (c :: rest) = c :: rest :=
  List.dropWhile_cons_of_neg (by rw [h]; exact Bool.false_ne_true)

theorem length_le_escape (text : List Char) : text.length ≤ (escape text).length := by
  induction text with
  | nil => exact Nat.le_refl _
  | cons c text ih =>
    have hpos : 0 < (escapeChar c).length := by
      unfold escapeChar
      split_ifs <;> exact Nat.succ_pos _
    rw [escape] at ih ⊢
    rw [List.flatMap_cons, List.length_append, List.length_cons]
    omega

theorem after_eq_none {start : String} {a c : Char} {chars rest : List Char}
    (hstart : start.toList = a :: chars) (h : a ≠ c) : after start (c :: rest) = none := by
  rw [after, if_neg]
  rw [hstart]
  intro hprefix
  rw [List.isPrefixOf, Bool.and_eq_true] at hprefix
  exact h (eq_of_beq hprefix.1)

theorem ne_of_isDigit {c d : Char} (hc : c.isDigit = true) (hd : d.isDigit = false) : d ≠ c := by
  intro hsame
  rw [hsame, hc] at hd
  cases hd

theorem readAtom_eq_readNumber {input : List Char}
    (h : ∀ start ∈ ["null", "true", "false", "NaN", "Infinity", "-Infinity"],
      after start input = none) : readAtom input = readNumber input := by
  unfold readAtom
  rw [h "null" (by decide), h "true" (by decide), h "false" (by decide)]
  dsimp only [List.findSome?]
  rw [h "NaN" (by decide), h "Infinity" (by decide), h "-Infinity" (by decide)]
  rfl

theorem readAtom_digit {c : Char} (hc : c.isDigit = true) (rest : List Char) :
    readAtom (c :: rest) = readNumber (c :: rest) := by
  refine readAtom_eq_readNumber ?_
  intro start hstart
  have hfirst : ∀ start ∈ ["null", "true", "false", "NaN", "Infinity", "-Infinity"],
      ∃ a chars, start.toList = a :: chars ∧ a.isDigit = false := by
    simp [Char.isDigit]
  obtain ⟨a, chars, htext, ha⟩ := hfirst start hstart
  exact after_eq_none htext (ne_of_isDigit hc ha)

theorem readAtom_minus {c : Char} (hc : c.isDigit = true) (rest : List Char) :
    readAtom ('-' :: c :: rest) = readNumber ('-' :: c :: rest) := by
  refine readAtom_eq_readNumber ?_
  have hinfinity : 'I' ≠ c := ne_of_isDigit hc rfl
  simp [after, hinfinity]

theorem readValue_writeInt {fuel : Nat} (n : Int) {rest : List Char} (hrest : EndsNumber rest) :
    readValue (fuel + 1) (writeInt n ++ rest) = some (.int n, rest) := by
  have hnumber := readNumber_writeInt n hrest
  cases hdigits : Nat.toDigits 10 n.natAbs with
  | nil => exact absurd hdigits Nat.toDigits_ne_nil
  | cons c digits =>
    have hc : c.isDigit = true := Nat.isDigit_of_mem_toDigits (b := 10) (n := n.natAbs)
      (by omega) (by omega) (hdigits ▸ List.mem_cons_self)
    unfold writeInt at hnumber ⊢
    rw [hdigits] at hnumber ⊢
    by_cases hneg : n < 0
    · rw [if_pos hneg] at hnumber ⊢
      rw [List.cons_append, List.cons_append] at hnumber ⊢
      rw [readValue, skipBlanks_cons rfl]
      dsimp only
      rw [if_neg (by decide), if_neg (by decide), if_neg (by decide), readAtom_minus hc]
      exact hnumber
    · rw [if_neg hneg] at hnumber ⊢
      rw [List.cons_append] at hnumber ⊢
      have hblank : isBlank c = false := by
        simp only [isBlank, Bool.or_eq_false_iff, decide_eq_false_iff_not]
        exact ⟨⟨⟨(ne_of_isDigit hc rfl).symm, (ne_of_isDigit hc rfl).symm⟩,
          (ne_of_isDigit hc rfl).symm⟩, (ne_of_isDigit hc rfl).symm⟩
      rw [readValue, skipBlanks_cons hblank]
      dsimp only
      rw [if_neg (ne_of_isDigit hc rfl).symm, if_neg (ne_of_isDigit hc rfl).symm,
        if_neg (ne_of_isDigit hc rfl).symm, readAtom_digit hc]
      exact hnumber

theorem readValue_writeString {fuel : Nat} {text : String} (h : (writeString text).length ≤ fuel)
    (rest : List Char) :
    readValue (fuel + 1) (writeString text ++ rest) = some (.str text, rest) := by
  have hlength : text.toList.length < fuel := by
    have hescape := length_le_escape text.toList
    rw [writeString, List.length_append, List.length_cons, List.length_singleton] at h
    omega
  rw [writeString, List.append_assoc, List.cons_append, List.singleton_append, readValue,
    skipBlanks_cons rfl]
  dsimp only
  rw [if_pos rfl, readString_escape hlength]
  dsimp only [Option.map]
  rw [String.ofList_toList]

theorem endsNumber_cons {c : Char} (h : c.isDigit = false ∧ c ≠ '.' ∧ c ≠ 'e' ∧ c ≠ 'E')
    (rest : List Char) : EndsNumber (c :: rest) := by
  intro c' hc'
  cases hc'
  exact h

def ReadsBack (value : Json) : Prop :=
  ∀ (fuel : Nat) (rest : List Char), (write value).length < fuel → EndsNumber rest →
    readValue fuel (write value ++ rest) = some (value, rest)

theorem readMembers_first {fuel : Nat} {name : String} {value : Json} {rest : List Char}
    (hvalue : ReadsBack value) (hrest : EndsNumber rest)
    (hfuel : (writeString name).length + (write value).length < fuel) :
    readMembers (fuel + 1) (writeString name ++ ':' :: write value ++ rest) =
      match skipBlanks rest with
      | [] => none
      | d :: behind =>
        if d = '\x7d' then some ([(name, value)], behind)
        else if d = ',' then
          (readMembers fuel (skipBlanks behind)).map fun read => ((name, value) :: read.1, read.2)
        else none := by
  have hlength : name.toList.length < fuel := by
    have hescape := length_le_escape name.toList
    rw [writeString, List.length_append, List.length_cons, List.length_singleton] at hfuel
    omega
  rw [writeString, List.cons_append, List.cons_append, List.cons_append, List.append_assoc,
    List.append_assoc, List.singleton_append, List.cons_append, readMembers, if_pos rfl,
    readString_escape hlength]
  dsimp only
  rw [skipBlanks_cons rfl]
  dsimp only
  rw [if_pos rfl, hvalue fuel rest (by omega) hrest, String.ofList_toList]

theorem exists_writeMembers_eq (member : String × Json) (members : List (String × Json)) :
    ∃ body, writeMembers (member :: members) = '\x22' :: body := by
  obtain ⟨name, value⟩ := member
  cases members with
  | nil =>
    rw [writeMembers, writeString]
    exact ⟨_, rfl⟩
  | cons next members =>
    rw [writeMembers, writeString]
    · exact ⟨_, rfl⟩
    · exact List.cons_ne_nil _ _

theorem readMembers_write {members : List (String × Json)} (hne : members ≠ [])
    (hread : ∀ member ∈ members, ReadsBack member.2) {fuel : Nat} {rest : List Char}
    (hfuel : (writeMembers members).length < fuel) :
    readMembers (fuel + 1) (writeMembers members ++ '\x7d' :: rest) = some (members, rest) := by
  induction members generalizing fuel with
  | nil => exact absurd rfl hne
  | cons member members ih =>
    obtain ⟨name, value⟩ := member
    have hvalue : ReadsBack value := hread (name, value) List.mem_cons_self
    cases members with
    | nil =>
      rw [writeMembers] at hfuel ⊢
      rw [List.length_append, List.length_cons] at hfuel
      rw [readMembers_first hvalue (endsNumber_cons (by decide) rest) (by omega),
        skipBlanks_cons rfl]
      exact if_pos rfl
    | cons next members =>
      have hwrite : writeMembers ((name, value) :: next :: members) =
          writeString name ++ ':' :: write value ++ ',' :: writeMembers (next :: members) := by
        rw [writeMembers]
        exact List.cons_ne_nil _ _
      rw [hwrite] at hfuel ⊢
      rw [List.length_append, List.length_append, List.length_cons, List.length_cons] at hfuel
      obtain ⟨fuel, rfl⟩ : ∃ n, fuel = n + 1 := ⟨fuel - 1, by omega⟩
      rw [List.append_assoc, List.cons_append,
        readMembers_first hvalue (endsNumber_cons (by decide) _) (by omega), skipBlanks_cons rfl]
      dsimp only
      rw [if_neg (by decide), if_pos rfl]
      have hnext : skipBlanks (writeMembers (next :: members) ++ '\x7d' :: rest) =
          writeMembers (next :: members) ++ '\x7d' :: rest := by
        obtain ⟨body, hbody⟩ := exists_writeMembers_eq next members
        rw [hbody, List.cons_append]
        exact skipBlanks_cons rfl _
      rw [hnext, ih (List.cons_ne_nil _ _) (fun member hmember =>
        hread member (List.mem_cons_of_mem _ hmember)) (by omega)]
      rfl

theorem readsBack_of_plain {value : Json} (h : Plain value) : ReadsBack value := by
  induction h with
  | int n =>
    intro fuel rest hfuel hrest
    obtain ⟨fuel, rfl⟩ : ∃ n, fuel = n + 1 := ⟨fuel - 1, by omega⟩
    rw [write]
    exact readValue_writeInt n hrest
  | str text =>
    intro fuel rest hfuel hrest
    obtain ⟨fuel, rfl⟩ : ∃ n, fuel = n + 1 := ⟨fuel - 1, by omega⟩
    rw [write] at hfuel ⊢
    exact readValue_writeString (by omega) rest
  | obj members _ ih =>
    intro fuel rest hfuel hrest
    rw [write, List.length_append, List.length_cons, List.length_singleton] at hfuel
    obtain ⟨fuel, rfl⟩ : ∃ n, fuel = n + 2 := ⟨fuel - 2, by omega⟩
    rw [write, List.append_assoc, List.cons_append, List.singleton_append, readValue,
      skipBlanks_cons rfl]
    dsimp only
    rw [if_neg (by decide), if_pos rfl]
    cases members with
    | nil =>
      rw [writeMembers, List.nil_append, skipBlanks_cons rfl]
      exact if_pos rfl
    | cons member members =>
      obtain ⟨body, hbody⟩ : ∃ body, writeMembers (member :: members) = '\x22' :: body :=
        exists_writeMembers_eq member members
      have hread := @readMembers_write _ (List.cons_ne_nil member members) ih fuel rest (by omega)
      rw [hbody, List.cons_append] at hread ⊢
      rw [skipBlanks_cons rfl]
      dsimp only
      rw [if_neg (by decide), hread]
      rfl

theorem read_write {value : Json} (h : Plain value) :
    read (String.ofList (write value)) = some value := by
  have hlength : (write value).length < (String.ofList (write value)).length + 1 := by
    rw [String.length_ofList]
    omega
  have hread := readsBack_of_plain h _ [] hlength nofun
  rw [List.append_nil] at hread
  rw [read, String.toList_ofList, hread]
  rfl

def charWidth : Nat :=
  if c ∈ ['\x22', '\\', '\n', '\r', '\t', '\x08', '\x0c'] then 2
  else if 32 ≤ c.toNat ∧ c.toNat ≤ 126 then 1
  else if c.toNat < 65536 then 6
  else 12

theorem length_escapeChar : (escapeChar c).length = charWidth c := by
  by_cases hshort : c ∈ ['\x22', '\\', '\n', '\r', '\t', '\x08', '\x0c']
  · rw [charWidth, if_pos hshort]
    simp only [List.mem_cons, List.not_mem_nil, or_false] at hshort
    rcases hshort with rfl | rfl | rfl | rfl | rfl | rfl | rfl <;> rfl
  · rw [charWidth, if_neg hshort]
    simp only [List.mem_cons, List.not_mem_nil, or_false, not_or] at hshort
    obtain ⟨h1, h2, h3, h4, h5, h6, h7⟩ := hshort
    rw [escapeChar, if_neg h1, if_neg h2, if_neg h3, if_neg h4, if_neg h5, if_neg h6, if_neg h7]
    split_ifs <;> rfl

theorem length_escape (text : List Char) :
    (escape text).length = (text.map charWidth).sum := by
  rw [escape, List.length_flatMap]
  congr 1
  exact List.map_congr_left fun c _ => length_escapeChar c

theorem length_writeString (text : String) :
    (writeString text).length = (text.toList.map charWidth).sum + 2 := by
  rw [writeString, List.length_append, List.length_cons, length_escape, List.length_singleton]

theorem digitChar_lt (n : Nat) : (n % 16).digitChar.toNat < 128 := by
  have hall : ∀ d : Fin 16, (d : Nat).digitChar.toNat < 128 := by decide
  exact hall ⟨n % 16, Nat.mod_lt n (by omega)⟩

theorem hexUnit_ascii (unit : Nat) : ∀ c ∈ hexUnit unit, c.toNat < 128 := by
  simp only [hexUnit, List.forall_mem_cons, digitChar_lt, true_and]
  exact List.forall_mem_nil _

theorem escapeChar_ascii : ∀ d ∈ escapeChar c, d.toNat < 128 := by
  have hunit : ∀ unit, ∀ d ∈ '\\' :: 'u' :: hexUnit unit, d.toNat < 128 := by
    intro unit
    simp only [List.forall_mem_cons]
    exact ⟨by decide, by decide, hexUnit_ascii unit⟩
  unfold escapeChar
  split_ifs with h1 h2 h3 h4 h5 h6 h7 hprintable hplane
  iterate 7
    exact List.forall_mem_cons.mpr ⟨by decide, List.forall_mem_singleton.mpr (by decide)⟩
  · intro d hd
    rw [List.mem_singleton.mp hd]
    omega
  · exact hunit _
  · exact List.forall_mem_append.mpr ⟨hunit _, hunit _⟩

theorem writeString_ascii (text : String) : ∀ c ∈ writeString text, c.toNat < 128 := by
  intro c hc
  rw [writeString, List.mem_append, List.mem_cons, escape, List.mem_flatMap] at hc
  obtain (rfl | ⟨d, -, hd⟩) | hc := hc
  · decide
  · exact escapeChar_ascii d c hd
  · rw [List.mem_singleton.mp hc]
    decide

theorem writeInt_ascii (n : Int) : ∀ c ∈ writeInt n, c.toNat < 128 := by
  have hdigits : ∀ c ∈ Nat.toDigits 10 n.natAbs, c.toNat < 128 := by
    intro c hc
    have hdigit := Nat.isDigit_of_mem_toDigits (b := 10) (n := n.natAbs) (by omega) (by omega) hc
    rw [Char.isDigit, Bool.and_eq_true, decide_eq_true_iff, decide_eq_true_iff] at hdigit
    have hnine : c.toNat ≤ 57 := hdigit.2
    omega
  unfold writeInt
  split_ifs
  · exact List.forall_mem_cons.mpr ⟨by decide, hdigits⟩
  · exact hdigits

theorem write_ascii {value : Json} (h : Plain value) : ∀ c ∈ write value, c.toNat < 128 := by
  induction h with
  | int n =>
    rw [write]
    exact writeInt_ascii n
  | str text =>
    rw [write]
    exact writeString_ascii text
  | obj members hplain ih =>
    have hmembers : ∀ c ∈ writeMembers members, c.toNat < 128 := by
      induction members with
      | nil =>
        rw [writeMembers]
        exact List.forall_mem_nil _
      | cons member members ihmembers =>
        obtain ⟨name, value⟩ := member
        have hvalue : ∀ c ∈ write value, c.toNat < 128 := ih (name, value) List.mem_cons_self
        have hfirst : ∀ c ∈ writeString name ++ ':' :: write value, c.toNat < 128 := by
          refine List.forall_mem_append.mpr ⟨writeString_ascii name, ?_⟩
          exact List.forall_mem_cons.mpr ⟨by decide, hvalue⟩
        cases members with
        | nil =>
          rw [writeMembers]
          exact hfirst
        | cons next members =>
          rw [writeMembers]
          · refine List.forall_mem_append.mpr ⟨hfirst, List.forall_mem_cons.mpr ⟨by decide, ?_⟩⟩
            exact ihmembers (fun member hmember => hplain member (List.mem_cons_of_mem _ hmember))
              fun member hmember => ih member (List.mem_cons_of_mem _ hmember)
          · exact List.cons_ne_nil _ _
    rw [write]
    refine List.forall_mem_append.mpr ⟨List.forall_mem_cons.mpr ⟨by decide, hmembers⟩, ?_⟩
    exact List.forall_mem_singleton.mpr (by decide)

theorem size_toByteArray_of_ascii {text : List Char} (h : ∀ c ∈ text, c.toNat < 128) :
    (String.ofList text).toByteArray.size = text.length := by
  rw [String.toByteArray_ofList]
  induction text with
  | nil => rfl
  | cons c text ih =>
    obtain ⟨hc, htext⟩ := List.forall_mem_cons.mp h
    have hsize : c.utf8Size = 1 := Char.utf8Size_eq_one_iff.mpr (Nat.lt_succ_iff.mp hc)
    rw [List.utf8Encode_cons, ByteArray.size_append, ih htext, List.utf8Encode_singleton,
      List.size_toByteArray, String.length_utf8EncodeChar, hsize, List.length_cons]
    omega

end Json

end TradingBot.Misc
