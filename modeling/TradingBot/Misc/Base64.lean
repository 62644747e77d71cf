import Mathlib.Data.List.DropRight

/-!
# Base64 with the alphabet for URLs

Three bytes are written as four characters, a last group of one or two bytes with padding. The
strict reader takes whole groups only, with padding at the end; a text whose padding was cut off is
filled up before it is read.
-/

namespace TradingBot.Misc.Base64

def charOf (n : Nat) : Char :=
  if n < 26 then Char.ofNat (65 + n)
  else if n < 52 then Char.ofNat (71 + n)
  else if n < 62 then Char.ofNat (n - 4)
  else if n = 62 then '-'
  else '_'

/-- The six bits of a character; the characters of the plain alphabet are admitted too. -/
def valueOf (c : Char) : Option Nat :=
  if 'A' ≤ c ∧ c ≤ 'Z' then some (c.toNat - 65)
  else if 'a' ≤ c ∧ c ≤ 'z' then some (c.toNat - 71)
  else if '0' ≤ c ∧ c ≤ '9' then some (c.toNat + 4)
  else if c = '-' ∨ c = '+' then some 62
  else if c = '_' ∨ c = '/' then some 63
  else none

def encodeBare : List UInt8 → List Char
  | [] => []
  | [a] => [charOf (a.toNat / 4), charOf (a.toNat % 4 * 16)]
  | [a, b] =>
    [charOf (a.toNat / 4), charOf (a.toNat % 4 * 16 + b.toNat / 16), charOf (b.toNat % 16 * 4)]
  | a :: b :: c :: rest =>
    charOf (a.toNat / 4) :: charOf (a.toNat % 4 * 16 + b.toNat / 16) ::
      charOf (b.toNat % 16 * 4 + c.toNat / 64) :: charOf (c.toNat % 64) :: encodeBare rest

def padding (length : Nat) : List Char := List.replicate ((4 - length % 4) % 4) '='

def encode (bytes : List UInt8) : List Char :=
  encodeBare bytes ++ padding (encodeBare bytes).length

def decode : List Char → Option (List UInt8)
  | [] => some []
  | a :: b :: c :: d :: rest =>
    match valueOf a, valueOf b with
    | some a, some b =>
      match valueOf c, valueOf d with
      | some c, some d =>
        (decode rest).map fun bytes => UInt8.ofNat (a * 4 + b / 16) ::
          UInt8.ofNat (b % 16 * 16 + c / 4) :: UInt8.ofNat (c % 4 * 64 + d) :: bytes
      | some c, none =>
        if d = '=' ∧ rest = [] then
          some [UInt8.ofNat (a * 4 + b / 16), UInt8.ofNat (b % 16 * 16 + c / 4)]
        else none
      | none, _ =>
        if c = '=' ∧ d = '=' ∧ rest = [] then some [UInt8.ofNat (a * 4 + b / 16)] else none
    | _, _ => none
  | _ => none

theorem valueOf_charOf {n : Nat} (h : n < 64) : valueOf (charOf n) = some n := by
  have hall : ∀ n : Fin 64, valueOf (charOf n) = some (n : Nat) := by decide
  exact hall ⟨n, h⟩

theorem charOf_ne_padding {n : Nat} (h : n < 64) : charOf n ≠ '=' := by
  intro hpad
  have hvalue := valueOf_charOf h
  rw [hpad] at hvalue
  cases hvalue

theorem length_encodeBare (bytes : List UInt8) :
    (encodeBare bytes).length = (4 * bytes.length + 2) / 3 := by
  fun_induction encodeBare bytes with
  | case1 => rfl
  | case2 a => simp only [List.length_cons, List.length_nil]
  | case3 a b => simp only [List.length_cons, List.length_nil]
  | case4 _ _ _ _ ih => simp only [List.length_cons, ih]; omega

theorem decode_encode (bytes : List UInt8) : decode (encode bytes) = some bytes := by
  unfold encode
  fun_induction encodeBare bytes with
  | case1 => rfl
  | case2 a =>
    have ha := a.toNat_lt
    have hpad : padding 2 = ['=', '='] := rfl
    have hnone : valueOf '=' = none := by decide
    simp only [List.length_cons, List.length_nil, Nat.zero_add, Nat.reduceAdd, hpad,
      List.cons_append, List.nil_append, decode,
      valueOf_charOf (show a.toNat / 4 < 64 by omega),
      valueOf_charOf (show a.toNat % 4 * 16 < 64 by omega), hnone, and_self, ↓reduceIte]
    rw [show a.toNat / 4 * 4 + a.toNat % 4 * 16 / 16 = a.toNat by omega,
      UInt8.ofNat_toNat]
  | case3 a b =>
    have ha := a.toNat_lt
    have hb := b.toNat_lt
    have hpad : padding 3 = ['='] := rfl
    have hnone : valueOf '=' = none := by decide
    simp only [List.length_cons, List.length_nil, Nat.zero_add, Nat.reduceAdd, hpad,
      List.cons_append, List.nil_append, decode,
      valueOf_charOf (show a.toNat / 4 < 64 by omega),
      valueOf_charOf (show a.toNat % 4 * 16 + b.toNat / 16 < 64 by omega),
      valueOf_charOf (show b.toNat % 16 * 4 < 64 by omega), hnone, and_self, ↓reduceIte]
    rw [show a.toNat / 4 * 4 + (a.toNat % 4 * 16 + b.toNat / 16) / 16 = a.toNat by omega,
      show (a.toNat % 4 * 16 + b.toNat / 16) % 16 * 16 + b.toNat % 16 * 4 / 4 = b.toNat by omega,
      UInt8.ofNat_toNat, UInt8.ofNat_toNat]
  | case4 a b c _ ih =>
    have ha := a.toNat_lt
    have hb := b.toNat_lt
    have hc := c.toNat_lt
    have hpad : ∀ n, padding (n + 1 + 1 + 1 + 1) = padding n := by
      intro n
      unfold padding
      rw [show (n + 1 + 1 + 1 + 1) % 4 = n % 4 by omega]
    simp only [List.length_cons, hpad, List.cons_append, decode,
      valueOf_charOf (show a.toNat / 4 < 64 by omega),
      valueOf_charOf (show a.toNat % 4 * 16 + b.toNat / 16 < 64 by omega),
      valueOf_charOf (show b.toNat % 16 * 4 + c.toNat / 64 < 64 by omega),
      valueOf_charOf (show c.toNat % 64 < 64 by omega), ih, Option.map_some]
    rw [show a.toNat / 4 * 4 + (a.toNat % 4 * 16 + b.toNat / 16) / 16 = a.toNat by omega,
      show (a.toNat % 4 * 16 + b.toNat / 16) % 16 * 16 + (b.toNat % 16 * 4 + c.toNat / 64) / 4 =
        b.toNat by omega,
      show (b.toNat % 16 * 4 + c.toNat / 64) % 4 * 64 + c.toNat % 64 = c.toNat by omega,
      UInt8.ofNat_toNat, UInt8.ofNat_toNat, UInt8.ofNat_toNat]

theorem ne_padding_of_mem {bytes : List UInt8} {c : Char} (h : c ∈ encodeBare bytes) : c ≠ '=' := by
  fun_induction encodeBare bytes with
  | case1 => cases h
  | case2 a =>
    have ha := a.toNat_lt
    simp only [List.mem_cons, List.not_mem_nil, or_false] at h
    rcases h with rfl | rfl <;> exact charOf_ne_padding (by omega)
  | case3 a b =>
    have ha := a.toNat_lt
    have hb := b.toNat_lt
    simp only [List.mem_cons, List.not_mem_nil, or_false] at h
    rcases h with rfl | rfl | rfl <;> exact charOf_ne_padding (by omega)
  | case4 a b c _ ih =>
    have ha := a.toNat_lt
    have hb := b.toNat_lt
    have hc := c.toNat_lt
    simp only [List.mem_cons] at h
    rcases h with rfl | rfl | rfl | rfl | h
    · exact charOf_ne_padding (by omega)
    · exact charOf_ne_padding (by omega)
    · exact charOf_ne_padding (by omega)
    · exact charOf_ne_padding (by omega)
    · exact ih h

theorem rdropWhile_encode (bytes : List UInt8) :
    (encode bytes).rdropWhile (· = '=') = encodeBare bytes := by
  unfold encode padding
  rw [List.rdropWhile, List.reverse_append, List.reverse_replicate,
    List.dropWhile_append_of_pos (by
      intro c hc
      rw [List.eq_of_mem_replicate hc]
      rfl)]
  cases hbare : (encodeBare bytes).reverse with
  | nil =>
    rw [List.dropWhile_nil, List.reverse_nil]
    exact (List.reverse_eq_nil_iff.mp hbare).symm
  | cons c rest =>
    have hc : c ∈ encodeBare bytes := List.mem_reverse.mp (hbare ▸ List.mem_cons_self)
    rw [List.dropWhile_cons_of_neg (by rw [decide_eq_true_iff]; exact ne_padding_of_mem hc), ← hbare,
      List.reverse_reverse]

def encodeText (text : String) : String :=
  String.ofList ((encode text.toByteArray.data.toList).rdropWhile (· = '='))

def decodeText (encoded : String) : Option String :=
  match decode (encoded.toList ++ padding encoded.length) with
  | some bytes => String.fromUTF8? ⟨⟨bytes⟩⟩
  | none => none

theorem toList_encodeText (text : String) :
    (encodeText text).toList = encodeBare text.toByteArray.data.toList := by
  rw [encodeText, String.toList_ofList, rdropWhile_encode]

theorem length_encodeText (text : String) :
    (encodeText text).length = (4 * text.toByteArray.size + 2) / 3 := by
  rw [← String.length_toList, toList_encodeText, length_encodeBare]
  rfl

theorem fromUTF8?_toByteArray (text : String) :
    String.fromUTF8? ⟨⟨text.toByteArray.data.toList⟩⟩ = some text :=
  dif_pos text.isValidUTF8

theorem decodeText_encodeText (text : String) : decodeText (encodeText text) = some text := by
  have hdecode : decode ((encodeText text).toList ++ padding (encodeText text).length) =
      some text.toByteArray.data.toList := by
    rw [← String.length_toList, toList_encodeText]
    exact decode_encode _
  rw [decodeText, hdecode]
  exact fromUTF8?_toByteArray text

end TradingBot.Misc.Base64
