import TradingBot.Offer.Parser

/-!
# The numbers of an offer text

Besides the side and the settlement an offer is a line of numbers, one with a unit behind it. What
the two patterns of `bot/utils/offer_parser.py` find in it: each number, and the one with the unit.
-/

namespace TradingBot.OfferParser

open TradingBot.Misc

section Runs

variable {p : Char → Bool} {run rest : List Char}

def EndsRun (p : Char → Bool) (rest : List Char) : Prop := rest.head?.any p = false

theorem takeWhile_run (hrun : ∀ c ∈ run, p c = true) (hrest : EndsRun p rest) :
    (run ++ rest).takeWhile p = run := by
  rw [List.takeWhile_append_of_pos hrun]
  cases rest with
  | nil => rw [List.takeWhile_nil, List.append_nil]
  | cons c rest =>
    have hc : p c = false := by simpa [EndsRun] using hrest
    rw [List.takeWhile_cons_of_neg (by rw [hc]; exact Bool.false_ne_true), List.append_nil]

theorem plus_lengths {c : Char} {run : List Char} (hfirst : p c = true)
    (hrun : ∀ c ∈ run, p c = true) (hrest : EndsRun p rest) (before : Option Char) :
    (Regex.plus p).lengths before (c :: run ++ rest) =
      ((List.range (run.length + 1)).reverse).map (1 + ·) := by
  rw [Regex.plus, Regex.lengths, Regex.lengths, List.cons_append, List.head?_cons,
    Option.any_some, if_pos hfirst]
  show (((Regex.star p).lengths _ (run ++ rest)).map (1 + ·)) ++ [] = _
  rw [Regex.lengths, takeWhile_run hrun hrest, List.append_nil]

theorem plus_lengths_cons {c : Char} {run : List Char} (hfirst : p c = true)
    (hrun : ∀ c ∈ run, p c = true) (hrest : EndsRun p rest) (before : Option Char) :
    ∃ shorter, (Regex.plus p).lengths before (c :: run ++ rest) =
      (c :: run).length :: shorter := by
  rw [plus_lengths hfirst hrun hrest, List.range_succ, List.reverse_append, List.reverse_singleton,
    List.singleton_append, List.map_cons, List.length_cons, Nat.add_comm]
  exact ⟨_, rfl⟩

theorem plus_lengths_of_not {c : Char} {text : List Char} (hc : p c = false)
    (before : Option Char) : (Regex.plus p).lengths before (c :: text) = [] := by
  simp [Regex.plus, Regex.lengths, hc]

end Runs

def quantitySuffixes : List (List Char) :=
  ["تا".toList, "عدد".toList, " تا".toList, " عدد".toList]

def asciiDigits : List Char := "0123456789".toList

structure Piece where
  digits : List Char
  suffix : List Char
  digits_ne_nil : digits ≠ []
  digits_ascii : ∀ c ∈ digits, c ∈ asciiDigits
  suffix_mem : suffix = [] ∨ suffix ∈ quantitySuffixes

theorem forall_mem_of_all {α : Type} {l : List α} {p : α → Prop} [DecidablePred p]
    (h : l.all (fun a => decide (p a)) = true) : ∀ a ∈ l, p a :=
  fun a ha => of_decide_eq_true (List.all_eq_true.mp h a ha)

theorem asciiDigits_class : ∀ c ∈ asciiDigits,
    isDecimalDigit c = true ∧ isPySpace c = false ∧ c ≠ 'ت' ∧ c ≠ 'ع' := by
  apply forall_mem_of_all
  decide

variable (piece : Piece)

namespace Piece

theorem digits_decimal : ∀ c ∈ piece.digits, isDecimalDigit c = true :=
  fun c hc => (asciiDigits_class c (piece.digits_ascii c hc)).1

def text : List Char := piece.digits ++ piece.suffix

def isQuantity : Bool := piece.suffix ≠ []

end Piece

def piecesText : List Piece → List Char
  | [] => []
  | [piece] => piece.text
  | piece :: next :: rest => piece.text ++ ' ' :: piecesText (next :: rest)

def behind : List Piece → List Char
  | [] => []
  | next :: rest => ' ' :: piecesText (next :: rest)

def numbersFrom : Nat → List Piece → List (Match × Bool)
  | _, [] => []
  | position, piece :: rest =>
    (⟨position, piece.digits⟩, piece.isQuantity) ::
      numbersFrom (position + piece.text.length + 1) rest

theorem piecesText_cons (rest : List Piece) :
    piecesText (piece :: rest) = piece.digits ++ (piece.suffix ++ behind rest) := by
  cases rest with
  | nil => rw [piecesText, behind, List.append_nil, Piece.text]
  | cons next rest => rw [piecesText, behind, Piece.text, List.append_assoc]

theorem piecesText_head (rest : List Piece) :
    ∃ d text, piecesText (piece :: rest) = d :: text ∧ d ∈ piece.digits := by
  rw [piecesText_cons]
  obtain ⟨d, digits, hdigits⟩ := List.exists_cons_of_ne_nil piece.digits_ne_nil
  rw [hdigits]
  exact ⟨d, _, rfl, List.mem_cons_self⟩

theorem suffix_not_digit : ∀ c ∈ piece.suffix, isDecimalDigit c = false := by
  have hall : ∀ c ∈ quantitySuffixes.flatten, isDecimalDigit c = false := by
    apply forall_mem_of_all
    decide
  rcases piece.suffix_mem with hnil | hmem
  · rw [hnil]
    intro c hc
    cases hc
  · intro c hc
    exact hall c (List.mem_flatten_of_mem hmem hc)

theorem blank_not_digit : isDecimalDigit ' ' = false := by decide

theorem endsRun_suffix (rest : List Piece) :
    EndsRun isDecimalDigit (piece.suffix ++ behind rest) := by
  unfold EndsRun
  cases hsuffix : piece.suffix with
  | nil =>
    cases rest with
    | nil => rfl
    | cons next rest => exact blank_not_digit
  | cons c suffix =>
    exact suffix_not_digit piece c (hsuffix ▸ List.mem_cons_self)

theorem numberPattern_matchAt (rest : List Piece) (before : Option Char) :
    numberPattern.matchAt before (piece.digits ++ (piece.suffix ++ behind rest)) =
      some (piece.digits.length, piece.digits.length) := by
  obtain ⟨d, digits, hdigits⟩ := List.exists_cons_of_ne_nil piece.digits_ne_nil
  have hdecimal := piece.digits_decimal
  rw [hdigits] at hdecimal
  obtain ⟨shorter, hlengths⟩ := plus_lengths_cons (hdecimal d List.mem_cons_self)
    (fun c hc => hdecimal c (List.mem_cons_of_mem d hc)) (endsRun_suffix piece rest) before
  unfold GroupPattern.matchAt
  rw [hdigits]
  show (((Regex.plus isDecimalDigit).lengths before _).flatMap _).head? = _
  rw [hlengths]
  rfl

theorem numberPattern_start (before : Option Char) (c : Char) (text : List Char)
    (hc : isDecimalDigit c = false) : numberPattern.matchAt before (c :: text) = none := by
  unfold GroupPattern.matchAt
  show (((Regex.plus isDecimalDigit).lengths before _).flatMap _).head? = _
  rw [plus_lengths_of_not hc]
  rfl

theorem numberPattern_scan (pieces : List Piece) (before : Option Char) (position : Nat) :
    numberPattern.scan before position 0 (piecesText pieces) =
      (numbersFrom position pieces).map Prod.fst := by
  induction pieces generalizing before position with
  | nil => exact scan_nil before position 0
  | cons piece rest ih =>
    rw [piecesText_cons, scan_match piece.digits_ne_nil (numberPattern_matchAt piece rest before),
      scan_of_no_start numberPattern_start _ _ (suffix_not_digit piece), numbersFrom, List.map_cons,
      List.take_left]
    congr 1
    cases rest with
    | nil => exact scan_nil _ _ _
    | cons next rest =>
      show numberPattern.scan _ _ 0 ([' '] ++ piecesText (next :: rest)) = _
      rw [scan_of_no_start numberPattern_start [' '] _ (by simpa using blank_not_digit), ih]
      congr 2
      rw [Piece.text, List.length_append, List.length_singleton]
      omega

/-! ## The quantity -/

def NoUnit (text : List Char) : Prop :=
  ∀ n ≤ (text.takeWhile isPySpace).length, ∀ c ∈ (text.drop n).head?, c ≠ 'ت' ∧ c ≠ 'ع'

theorem literal_lengths_of_ne {c : Char} {cs text : List Char}
    (hhead : ∀ first ∈ text.head?, first ≠ c) (before : Option Char) :
    (Regex.lit (c :: cs)).lengths before text = [] := by
  have hfails : text.head?.any (· = c) = false := by
    cases hcase : text.head? with
    | none => rfl
    | some first => simpa using hhead first hcase
  show ((Regex.char (· = c)).lengths before text).flatMap _ = []
  rw [Regex.lengths, hfails]
  rfl

theorem unit_lengths_of_noUnit {text : List Char} (h : NoUnit text) (before : Option Char) :
    quantityPattern.rest.lengths before text = [] := by
  show ((Regex.star isPySpace).lengths before text).flatMap _ = []
  rw [Regex.lengths, List.flatMap_eq_nil_iff]
  intro n hn
  rw [List.mem_reverse, List.mem_range] at hn
  have hhead := h n (Nat.le_of_lt_succ hn)
  rw [List.map_eq_nil_iff, Regex.lengths, List.append_eq_nil_iff]
  constructor
  · exact literal_lengths_of_ne (fun c hc => (hhead c hc).1) _
  · exact literal_lengths_of_ne (fun c hc => (hhead c hc).2) _

theorem noUnit_of_digit {d : Char} {text : List Char} (hd : d ∈ asciiDigits) :
    NoUnit (d :: text) := by
  obtain ⟨-, hblank, hunit⟩ := asciiDigits_class d hd
  intro n hn c hc
  rw [List.takeWhile_cons_of_neg (by rw [hblank]; exact Bool.false_ne_true), List.length_nil,
    Nat.le_zero] at hn
  subst hn
  rw [List.drop_zero, List.head?_cons, Option.mem_some_iff] at hc
  rw [← hc]
  exact hunit

theorem noUnit_behind (rest : List Piece) : NoUnit (behind rest) := by
  cases rest with
  | nil =>
    intro n _ c hc
    rw [behind, List.drop_nil] at hc
    cases hc
  | cons next rest =>
    obtain ⟨d, text, htext, hd⟩ := piecesText_head next rest
    have hdigit := next.digits_ascii d hd
    intro n hn c hc
    rw [behind, htext] at hn hc
    have hblank := (asciiDigits_class d hdigit).2.1
    rw [List.takeWhile_cons_of_pos (by decide), List.takeWhile_cons_of_neg
      (by rw [hblank]; exact Bool.false_ne_true), List.length_singleton] at hn
    cases n with
    | zero =>
      rw [List.drop_zero, List.head?_cons, Option.mem_some_iff] at hc
      rw [← hc]
      decide
    | succ n =>
      have hzero : n = 0 := by omega
      subst hzero
      exact noUnit_of_digit hdigit 0 (Nat.zero_le _) c hc

theorem quantityPattern_start (before : Option Char) (c : Char) (text : List Char)
    (hc : isDecimalDigit c = false) : quantityPattern.matchAt before (c :: text) = none := by
  unfold GroupPattern.matchAt
  show (((Regex.plus isDecimalDigit).lengths before _).flatMap _).head? = _
  rw [plus_lengths_of_not hc]
  rfl

theorem quantityPattern_number {digits : List Char} (hdigits : ∀ c ∈ digits, c ∈ asciiDigits)
    (rest : List Piece) (before : Option Char) (first : List Char) (c : Char) (run : List Char)
    (heq : digits = first ++ c :: run) :
    quantityPattern.matchAt before (c :: run ++ behind rest) = none := by
  have hc : c ∈ asciiDigits := hdigits c (heq ▸ List.mem_append_right first List.mem_cons_self)
  have hrun : ∀ d ∈ run, d ∈ asciiDigits := fun d hd =>
    hdigits d (heq ▸ List.mem_append_right first (List.mem_cons_of_mem c hd))
  have hends : EndsRun isDecimalDigit (behind rest) := by
    cases rest with
    | nil => rfl
    | cons next rest => exact blank_not_digit
  unfold GroupPattern.matchAt
  show (((Regex.plus isDecimalDigit).lengths before _).flatMap _).head? = none
  rw [plus_lengths (asciiDigits_class c hc).1 (fun d hd => (asciiDigits_class d (hrun d hd)).1)
    hends, List.head?_eq_none_iff, List.flatMap_eq_nil_iff]
  intro n hn
  obtain ⟨k, hk, rfl⟩ := List.mem_map.mp hn
  rw [List.mem_reverse, List.mem_range] at hk
  rw [List.map_eq_nil_iff]
  apply unit_lengths_of_noUnit
  rw [Nat.add_comm, List.cons_append, List.drop_succ_cons,
    List.drop_append_of_le_length (Nat.le_of_lt_succ hk)]
  cases hdrop : run.drop k with
  | nil => exact noUnit_behind rest
  | cons d left =>
    have hleft : d ∈ run.drop k := hdrop ▸ List.mem_cons_self
    exact noUnit_of_digit (hrun d (List.mem_of_mem_drop hleft))

theorem unit_lengths_of_mem {suffix : List Char} (hsuffix : suffix ∈ quantitySuffixes)
    (text : List Char) (before : Option Char) :
    quantityPattern.rest.lengths before (suffix ++ text) = [suffix.length] := by
  simp only [quantitySuffixes, List.mem_cons, List.not_mem_nil, or_false] at hsuffix
  rcases hsuffix with rfl | rfl | rfl | rfl
  · rfl
  · rfl
  · rfl
  · rfl

theorem quantityPattern_quantity (hquantity : piece.suffix ∈ quantitySuffixes)
    (rest : List Piece) (before : Option Char) :
    quantityPattern.matchAt before (piece.digits ++ (piece.suffix ++ behind rest)) =
      some (piece.digits.length, (piece.digits ++ piece.suffix).length) := by
  obtain ⟨d, digits, hdigits⟩ := List.exists_cons_of_ne_nil piece.digits_ne_nil
  have hdecimal := piece.digits_decimal
  rw [hdigits] at hdecimal
  obtain ⟨shorter, hlengths⟩ := plus_lengths_cons (hdecimal d List.mem_cons_self)
    (fun c hc => hdecimal c (List.mem_cons_of_mem d hc)) (endsRun_suffix piece rest) before
  unfold GroupPattern.matchAt
  show (((Regex.plus isDecimalDigit).lengths before _).flatMap _).head? = _
  rw [hdigits, hlengths, List.flatMap_cons, List.drop_left, unit_lengths_of_mem hquantity,
    List.length_append]
  rfl

theorem quantityPattern_scan (pieces : List Piece) (before : Option Char) (position : Nat) :
    quantityPattern.scan before position 0 (piecesText pieces) =
      ((numbersFrom position pieces).filter Prod.snd).map Prod.fst := by
  induction pieces generalizing before position with
  | nil => exact scan_nil before position 0
  | cons piece rest ih =>
    have hrest : ∀ before place,
        quantityPattern.scan before place 0 (behind rest) =
          ((numbersFrom (place + 1) rest).filter Prod.snd).map Prod.fst := by
      intro before place
      cases rest with
      | nil => exact scan_nil _ _ _
      | cons next rest =>
        show quantityPattern.scan before place 0 ([' '] ++ piecesText (next :: rest)) = _
        rw [scan_of_no_start quantityPattern_start [' '] _ (by simpa using blank_not_digit), ih]
        rfl
    rw [piecesText_cons, numbersFrom]
    rcases piece.suffix_mem with hnil | hmem
    · -- a number without a unit
      have hnot : piece.isQuantity = false := by simp [Piece.isQuantity, hnil]
      rw [hnil, List.nil_append, scan_of_none piece.digits (behind rest)
        (quantityPattern_number piece.digits_ascii rest), hrest, List.filter_cons_of_neg
        (by rw [hnot]; exact Bool.false_ne_true), Piece.text, hnil, List.append_nil]
    · have hquantity : piece.isQuantity = true := by
        have hne : piece.suffix ≠ [] := fun hnil => by
          rw [hnil] at hmem
          revert hmem
          decide
        simp [Piece.isQuantity, hne]
      have hmatch := quantityPattern_quantity piece hmem rest before
      rw [← List.append_assoc] at hmatch ⊢
      rw [scan_match (by simp [piece.digits_ne_nil]) hmatch, hrest, hquantity,
        List.filter_cons_of_pos rfl, List.map_cons, List.append_assoc, List.take_left]
      rfl

end TradingBot.OfferParser
