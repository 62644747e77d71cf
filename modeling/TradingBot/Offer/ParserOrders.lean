import TradingBot.Offer.ParserParts

/-!
# An offer in any order

`parse_offer_text` (bot/utils/offer_parser.py:547) on a text with the side and settlement, the
quantity with its unit, the price and the lots as separate words, in any order: it returns what was
written, except that a lot in front of the price may be taken for the price.
-/

namespace TradingBot.OfferParser

open TradingBot.Misc TradingBot.Trades

section Words

theorem splitWords_blank (first second : List Char) :
    splitWords (first ++ ' ' :: second) = splitWords first ++ splitWords second := by
  rw [splitWords, List.splitOnP_append_cons first second (by decide), List.filter_append]
  rfl

theorem splitWords_nil : splitWords [] = [] := rfl

variable {word : List Char}

theorem splitWords_word (hne : word ≠ [])
    (hword : ∀ c ∈ word, isPySpace c = false) : splitWords word = [word] := by
  rw [splitWords, List.splitOnP_eq_singleton hword, List.filter_cons_of_pos (by simpa using hne),
    List.filter_nil]

theorem joinBlank_singleton (word : List Char) : joinBlank [word] = word :=
  List.intercalate_singleton

theorem joinBlank_cons {rest : List (List Char)} (hrest : rest ≠ []) :
    joinBlank (word :: rest) = word ++ ' ' :: joinBlank rest := by
  rw [joinBlank, List.intercalate_cons_of_ne_nil hrest, List.append_assoc]
  rfl

theorem joinBlank_append {first second : List (List Char)} (hfirst : first ≠ [])
    (hsecond : second ≠ []) :
    joinBlank (first ++ second) = joinBlank first ++ ' ' :: joinBlank second := by
  induction first with
  | nil => exact absurd rfl hfirst
  | cons word rest ih =>
    rw [List.cons_append, joinBlank_cons (List.append_ne_nil_of_right_ne_nil rest hsecond)]
    by_cases hrest : rest = []
    · rw [hrest, List.nil_append, joinBlank_singleton]
    · rw [ih hrest, joinBlank_cons hrest, List.append_assoc]
      rfl

structure Normal (text : List Char) : Prop where
  joined : joinBlank (splitWords text) = text
  nonempty : splitWords text ≠ []

theorem joinBlank_flatMap {texts : List (List Char)} (hnormal : ∀ text ∈ texts, Normal text) :
    joinBlank (texts.flatMap splitWords) = joinBlank texts := by
  induction texts with
  | nil => rfl
  | cons text rest ih =>
    have htext := hnormal text List.mem_cons_self
    have hrest : ∀ text ∈ rest, Normal text := fun t ht => hnormal t (List.mem_cons_of_mem text ht)
    rw [List.flatMap_cons]
    cases rest with
    | nil => rw [List.flatMap_nil, List.append_nil, htext.joined, joinBlank_singleton]
    | cons next rest =>
      have hne : (next :: rest).flatMap splitWords ≠ [] := by
        rw [List.flatMap_cons]
        exact List.append_ne_nil_of_left_ne_nil (hrest next List.mem_cons_self).nonempty _
      rw [joinBlank_append htext.nonempty hne, htext.joined, ih hrest,
        joinBlank_cons (List.cons_ne_nil next rest)]

def blankAfter (texts : List (List Char)) : List Char := texts.flatMap (· ++ [' '])

def blankBefore (texts : List (List Char)) : List Char := texts.flatMap (' ' :: ·)

theorem joinBlank_middle (first rest : List (List Char)) (text : List Char) :
    joinBlank (first ++ text :: rest) = blankAfter first ++ (text ++ blankBefore rest) := by
  induction first with
  | nil =>
    show joinBlank (text :: rest) = text ++ blankBefore rest
    induction rest generalizing text with
    | nil => rw [joinBlank_singleton, blankBefore, List.flatMap_nil, List.append_nil]
    | cons next rest ih =>
      rw [joinBlank_cons (List.cons_ne_nil next rest), ih]
      rfl
  | cons word first ih =>
    rw [List.cons_append, joinBlank_cons (by simp), ih, blankAfter, blankAfter,
      List.flatMap_cons, List.append_assoc, List.append_assoc]
    rfl

theorem splitWords_blankAfter (texts : List (List Char)) :
    splitWords (blankAfter texts) = texts.flatMap splitWords := by
  induction texts with
  | nil => rfl
  | cons text rest ih =>
    rw [blankAfter, List.flatMap_cons, List.flatMap_cons, List.append_assoc]
    show splitWords (text ++ ' ' :: blankAfter rest) = _
    rw [splitWords_blank, ih]

theorem splitWords_blankBefore (texts : List (List Char)) (text : List Char) :
    splitWords (text ++ blankBefore texts) = splitWords text ++ texts.flatMap splitWords := by
  induction texts generalizing text with
  | nil => rw [blankBefore, List.flatMap_nil, List.flatMap_nil, List.append_nil, List.append_nil]
  | cons next rest ih =>
    rw [blankBefore, List.flatMap_cons, List.flatMap_cons]
    show splitWords (text ++ ' ' :: (next ++ blankBefore rest)) = _
    rw [splitWords_blank, ih]

end Words

def joiners : List (List Char) := [[], [' '], [zeroWidthNonJoiner]]

def tomorrowForms (short full : String) : List (List Char) :=
  joiners.flatMap fun joiner =>
    [short.toList ++ joiner ++ "ف".toList, full.toList ++ joiner ++ "فردا".toList,
      full.toList ++ joiner ++ "فردایی".toList]

def sideForms : OfferType → SettlementType → List (List Char)
  | .buy, .cash => ["خ".toList, "خرید".toList]
  | .sell, .cash => ["ف".toList, "فروش".toList]
  | .buy, .tomorrow => tomorrowForms "خ" "خرید"
  | .sell, .tomorrow => tomorrowForms "ف" "فروش"

def isMarkerStart (c : Char) : Bool := c ∈ ['خ', 'ف', 'ن', 'پ']

section Markers

theorem literal_no_start {first c : Char} {rest text : List Char} (hc : isMarkerStart c = false)
    (hfirst : isMarkerStart first = true) (before : Option Char) :
    (Regex.lit (first :: rest)).lengths before (c :: text) = [] := by
  apply literal_lengths_of_ne
  rintro c' hc' rfl
  rw [List.head?_cons, Option.mem_some_iff] at hc'
  rw [hc', hfirst] at hc
  cases hc

variable {p : Char → Bool} {core : Regex}

theorem notBehind_no_start {text : List Char}
    (hcore : ∀ before, core.lengths before text = []) (before : Option Char) :
    (Regex.seq (.notBehind p) core).lengths before text = [] := by
  rw [Regex.lengths, List.flatMap_eq_nil_iff]
  intro n hn
  have hzero : n = 0 := by
    rw [Regex.lengths] at hn
    split at hn
    · cases hn
    · exact List.mem_singleton.mp hn
  subst hzero
  rw [List.map_eq_nil_iff, List.drop_zero, hcore]

theorem seq_no_start {first second : Regex} {text : List Char}
    (hfirst : ∀ before, first.lengths before text = []) (before : Option Char) :
    (Regex.seq first second).lengths before text = [] := by
  rw [Regex.lengths, hfirst]
  rfl

theorem standalone_no_start {text : List Char}
    (hcore : ∀ before, core.lengths before text = []) (before : Option Char) :
    (standalone p core).matchAt before text = none := by
  have hnone : (standalone p core).group.lengths before text = [] :=
    notBehind_no_start (seq_no_start hcore) before
  unfold GroupPattern.matchAt
  rw [hnone]
  rfl

theorem contextPatterns_start {entry : GroupPattern × OfferType × SettlementType}
    (hentry : entry ∈ offerContextPatterns) (before : Option Char) (c : Char) (text : List Char)
    (hc : isMarkerStart c = false) : entry.1.matchAt before (c :: text) = none := by
  have hliteral : ∀ {first : Char} {rest : List Char}, isMarkerStart first = true →
      ∀ before, (Regex.lit (first :: rest)).lengths before (c :: text) = [] :=
    fun hfirst before => literal_no_start hc hfirst before
  simp only [offerContextPatterns, List.mem_cons, List.not_mem_nil, or_false] at hentry
  rcases hentry with rfl | rfl | rfl | rfl | rfl | rfl | rfl | rfl
  · exact standalone_no_start (seq_no_start (hliteral (by decide))) before
  · exact standalone_no_start (seq_no_start (hliteral (by decide))) before
  · exact standalone_no_start (seq_no_start (hliteral (by decide))) before
  · exact standalone_no_start (seq_no_start (hliteral (by decide))) before
  · exact standalone_no_start (hliteral (by decide)) before
  · exact standalone_no_start (hliteral (by decide)) before
  · exact standalone_no_start (hliteral (by decide)) before
  · exact standalone_no_start (hliteral (by decide)) before

theorem contextPatterns_stops : ∀ d ∈ asciiDigits, ∀ entry ∈ offerContextPatterns,
    entry.1.group.stops d = true ∧ entry.1.rest.stops d = true := by
  intro d hd
  have hall : ∀ d ∈ asciiDigits, (offerContextPatterns.all fun entry =>
      entry.1.group.stops d && entry.1.rest.stops d) = true := by
    apply forall_mem_of_all
    decide
  intro entry hentry
  have hentry := List.all_eq_true.mp (hall d hd) entry hentry
  rwa [Bool.and_eq_true] at hentry

end Markers

def shiftMatch (k : Nat) (m : Match) : Match := ⟨k + m.start, m.text⟩

def shiftContext (k : Nat) (m : ContextMatch) : ContextMatch :=
  { m with start := k + m.start, stop := k + m.stop }

section Context

theorem addMatches_shift (k : Nat) (found new : List ContextMatch) :
    addMatches (found.map (shiftContext k)) (new.map (shiftContext k)) =
      (addMatches found new).map (shiftContext k) := by
  induction new generalizing found with
  | nil => rfl
  | cons m rest ih =>
    have hoverlap : (found.map (shiftContext k)).any (shiftContext k m).overlaps =
        found.any m.overlaps := by
      rw [List.any_map]
      congr 1
      funext other
      simp [ContextMatch.overlaps, shiftContext]
    have hstep : ∀ found : List ContextMatch, addMatches found (m :: rest) =
        addMatches (if found.any m.overlaps then found else found ++ [m]) rest := fun _ => rfl
    have hstep' : addMatches (found.map (shiftContext k)) ((m :: rest).map (shiftContext k)) =
        addMatches (if (found.map (shiftContext k)).any (shiftContext k m).overlaps then
          found.map (shiftContext k) else found.map (shiftContext k) ++ [shiftContext k m])
          (rest.map (shiftContext k)) := rfl
    rw [hstep, hstep', hoverlap, ← ih]
    split
    · rfl
    · rw [List.map_append, List.map_singleton]

theorem mergeMatches_shift (k : Nat) (entries : List (List Match × OfferType × SettlementType)) :
    mergeMatches (entries.map fun entry => (entry.1.map (shiftMatch k), entry.2)) =
      (mergeMatches entries).map (shiftContext k) := by
  have hfold : ∀ found : List ContextMatch,
      (entries.map fun entry => (entry.1.map (shiftMatch k), entry.2)).foldl (fun found entry =>
        addMatches found (entry.1.map fun m => ⟨m.start, m.stop, entry.2.1, entry.2.2⟩))
        (found.map (shiftContext k)) =
      (entries.foldl (fun found entry =>
        addMatches found (entry.1.map fun m => ⟨m.start, m.stop, entry.2.1, entry.2.2⟩))
        found).map (shiftContext k) := by
    induction entries with
    | nil => exact fun _ => rfl
    | cons entry rest ih =>
      intro found
      rw [List.map_cons, List.foldl_cons, List.foldl_cons, ← ih, ← addMatches_shift,
        List.map_map, List.map_map]
      congr 2
      refine List.map_congr_left fun m _ => ?_
      simp only [Function.comp_apply, shiftMatch, shiftContext, Match.stop, Nat.add_assoc]
  exact hfold []

theorem mergeMatches_side (tradeType : OfferType) (settlementType : SettlementType) :
    ∀ side ∈ sideForms tradeType settlementType, ∀ last ∈ [none, some ' '],
      ∀ behind ∈ [[], [' ']],
        mergeMatches (offerContextPatterns.map fun entry =>
          (entry.1.scan last 0 0 (side ++ behind), entry.2)) =
            [⟨0, side.length, tradeType, settlementType⟩] := by
  cases tradeType with
  | buy =>
    cases settlementType with
    | cash => decide +kernel
    | tomorrow => decide +kernel
  | sell =>
    cases settlementType with
    | cash => decide +kernel
    | tomorrow => decide +kernel

def BehindSide (tail : List Char) : Prop :=
  tail = [] ∨ ∃ d rest, tail = ' ' :: d :: rest ∧ d ∈ asciiDigits

variable {front side tail : List Char}

theorem finditer_side {entry : GroupPattern × OfferType × SettlementType}
    (hentry : entry ∈ offerContextPatterns)
    (hfront : ∀ c ∈ front, isMarkerStart c = false) (htail : ∀ c ∈ tail, isMarkerStart c = false)
    (hbehind : BehindSide tail) :
    entry.1.finditer (front ++ (side ++ tail)) =
      (entry.1.scan front.getLast? 0 0 (side ++ tail.take 1)).map (shiftMatch front.length) := by
  have hstart := contextPatterns_start hentry
  have hside : entry.1.scan front.getLast? 0 0 (side ++ tail) =
      entry.1.scan front.getLast? 0 0 (side ++ tail.take 1) := by
    rcases hbehind with rfl | ⟨d, rest, rfl, hd⟩
    · rfl
    · obtain ⟨hgroup, hrest⟩ := contextPatterns_stops d hd entry hentry
      have hnothing : ∀ before position, entry.1.scan before position 0 (d :: rest) = [] :=
        scan_eq_nil hstart fun c hc => htail c (List.mem_cons_of_mem ' ' hc)
      rw [show side ++ ' ' :: d :: rest = (side ++ [' ']) ++ d :: rest by simp,
        scan_barrier hgroup hrest _ _ _ _ (Nat.zero_le _), hnothing, List.append_nil]
      rfl
  rw [GroupPattern.finditer, scan_of_no_start hstart front _ hfront, Option.or_none, scan_shift,
    hside, Nat.zero_add]
  rfl

theorem findOfferContextMatches_side {tradeType : OfferType} {settlementType : SettlementType}
    (hside : side ∈ sideForms tradeType settlementType)
    (hfront : ∀ c ∈ front, isMarkerStart c = false) (hlast : front.getLast? ∈ [none, some ' '])
    (htail : ∀ c ∈ tail, isMarkerStart c = false) (hbehind : BehindSide tail) :
    findOfferContextMatches (front ++ (side ++ tail)) =
      [⟨front.length, front.length + side.length, tradeType, settlementType⟩] := by
  have hmatches : (offerContextPatterns.map fun entry =>
      (entry.1.finditer (front ++ (side ++ tail)), entry.2)) =
        (offerContextPatterns.map fun entry =>
          (entry.1.scan front.getLast? 0 0 (side ++ tail.take 1), entry.2)).map fun entry =>
            (entry.1.map (shiftMatch front.length), entry.2) := by
    rw [List.map_map]
    refine List.map_congr_left fun entry hentry => ?_
    rw [finditer_side hentry hfront htail hbehind]
    rfl
  have htake : tail.take 1 ∈ [[], [' ']] := by
    rcases hbehind with rfl | ⟨d, rest, rfl, -⟩
    · exact List.mem_cons_self
    · exact List.mem_cons_of_mem _ List.mem_cons_self
  unfold findOfferContextMatches
  dsimp only
  rw [hmatches, mergeMatches_shift,
    mergeMatches_side tradeType settlementType side hside _ hlast _ htake]
  rfl

end Context

section Rest

variable {text rest : List Char} {first : Char}

theorem finditer_unmarked {pattern : GroupPattern} (htext : ∀ c ∈ text, isMarkerStart c = false)
    (hstart : ∀ before c rest, isMarkerStart c = false →
      pattern.matchAt before (c :: rest) = none) :
    pattern.finditer text = [] :=
  scan_eq_nil hstart htext none 0

theorem finditer_standalone (p : Char → Bool)
    (hfirst : isMarkerStart first = true) (htext : ∀ c ∈ text, isMarkerStart c = false) :
    (standalone p (.lit (first :: rest))).finditer text = [] :=
  finditer_unmarked htext fun before _ _ hc =>
    standalone_no_start (fun before => literal_no_start hc hfirst before) before

theorem finditer_literal (hfirst : isMarkerStart first = true)
    (htext : ∀ c ∈ text, isMarkerStart c = false) :
    GroupPattern.finditer { group := .lit (first :: rest) } text = [] := by
  refine finditer_unmarked htext fun before c rest hc => ?_
  unfold GroupPattern.matchAt
  rw [literal_no_start hc hfirst before]
  rfl

theorem extractTradeType_unmarked (htext : ∀ c ∈ text, isMarkerStart c = false) :
    extractTradeType text = .ok none := by
  have hshort : (standalone isLetter (literal "خ")).finditer text = [] :=
    finditer_standalone isLetter (by decide) htext
  have hshort' : (standalone isLetter (literal "ف")).finditer text = [] :=
    finditer_standalone isLetter (by decide) htext
  have hfull : GroupPattern.finditer { group := literal "خرید" } text = [] :=
    finditer_literal (by decide) htext
  have hfull' : GroupPattern.finditer { group := literal "فروش" } text = [] :=
    finditer_literal (by decide) htext
  unfold extractTradeType
  rw [hshort, hshort', hfull, hfull']
  rfl

theorem residualSettlement_unmarked (htext : ∀ c ∈ text, isMarkerStart c = false) :
    residualSettlementPattern.finditer text = [] := by
  refine finditer_unmarked htext fun before c rest hc => ?_
  have hliteral : ∀ {first : Char} {word : List Char}, isMarkerStart first = true →
      ∀ before, (Regex.lit (first :: word)).lengths before (c :: rest) = [] :=
    fun hfirst before => literal_no_start hc hfirst before
  have halt : ∀ {first second : Regex}, (∀ before, first.lengths before (c :: rest) = []) →
      (∀ before, second.lengths before (c :: rest) = []) →
      ∀ before, (Regex.alt first second).lengths before (c :: rest) = [] := by
    intro first second hfirst hsecond before
    rw [Regex.lengths, hfirst, hsecond, List.append_nil]
  have hcore : ∀ before, (Regex.seq (.alt (literal "نقد") (.alt (literal "فردا")
      (.alt (literal "فردایی") (literal "ن")))) (.aheadOrEnd isPySpace)).lengths before
        (c :: rest) = [] :=
    seq_no_start (halt (hliteral (by decide)) (halt (hliteral (by decide))
      (halt (hliteral (by decide)) (hliteral (by decide)))))
  have hgroup : residualSettlementPattern.group.lengths before (c :: rest) = [] :=
    notBehind_no_start hcore before
  unfold GroupPattern.matchAt
  rw [hgroup]
  rfl

end Rest

/-! ## The text of an offer -/

/-- An offer as it is written: the side somewhere among the numbers. -/
structure WrittenOffer where
  tradeType : OfferType
  settlementType : SettlementType
  side : List Char
  side_mem : side ∈ sideForms tradeType settlementType
  numbers : Writing
  before : List NumberPart
  after : List NumberPart
  written : WrittenParts numbers (before ++ after)

namespace WrittenOffer

variable (offer : WrittenOffer)

def parts : List NumberPart := offer.before ++ offer.after

def lots : List Int := writtenLots offer.parts

def numberText (part : NumberPart) : List Char := (offer.numbers.piece part).text

def texts : List (List Char) :=
  offer.before.map offer.numberText ++ offer.side :: offer.after.map offer.numberText

/-- The words of a message are those of the offer; its digits may be Persian or Arabic ones. -/
def Writes (text : String) : Prop :=
  splitWords (normalizeDigits text.toList) = offer.texts.flatMap splitWords

end WrittenOffer

section Texts

variable {offer : WrittenOffer} {digits word : List Char} {texts : List (List Char)}
  {q : Char → Bool} {c : Char}

theorem normal_side (tradeType : OfferType) (settlementType : SettlementType) :
    ∀ side ∈ sideForms tradeType settlementType, Normal side := by
  have hall : ∀ side ∈ sideForms tradeType settlementType,
      joinBlank (splitWords side) = side ∧ splitWords side ≠ [] := by
    cases tradeType with
    | buy =>
      cases settlementType with
      | cash => decide
      | tomorrow => decide
    | sell =>
      cases settlementType with
      | cash => decide
      | tomorrow => decide
  exact fun side hside => ⟨(hall side hside).1, (hall side hside).2⟩

theorem allowed_side (tradeType : OfferType) (settlementType : SettlementType) :
    ∀ side ∈ sideForms tradeType settlementType, ∀ c ∈ side, isAllowed c = true := by
  have hall : ∀ c ∈ (sideForms tradeType settlementType).flatten, isAllowed c = true := by
    apply forall_mem_of_all
    cases tradeType with
    | buy =>
      cases settlementType with
      | cash => decide
      | tomorrow => decide
    | sell =>
      cases settlementType with
      | cash => decide
      | tomorrow => decide
  intro side hside c hc
  exact hall c (List.mem_flatten_of_mem hside hc)

theorem piece_chars (piece : Piece) :
    ∀ c ∈ piece.text, isMarkerStart c = false ∧ isAllowed c = true := by
  have hdigits : ∀ c ∈ asciiDigits, isMarkerStart c = false ∧ isAllowed c = true := by
    apply forall_mem_of_all
    decide
  have hsuffixes : ∀ c ∈ quantitySuffixes.flatten,
      isMarkerStart c = false ∧ isAllowed c = true := by
    apply forall_mem_of_all
    decide
  intro c hc
  rcases List.mem_append.mp hc with hdigit | hsuffix
  · exact hdigits c (piece.digits_ascii c hdigit)
  · rcases piece.suffix_mem with hnil | hmem
    · rw [hnil] at hsuffix
      cases hsuffix
    · exact hsuffixes c (List.mem_flatten_of_mem hmem hsuffix)

theorem normal_glued {glued : List Char} (hne : digits ≠ [])
    (hdigits : ∀ c ∈ digits, c ∈ asciiDigits) (hglued : ∀ c ∈ glued, isPySpace c = false) :
    Normal (digits ++ glued) := by
  have hword : splitWords (digits ++ glued) = [digits ++ glued] := by
    apply splitWords_word
    · simp [hne]
    · intro c hc
      rcases List.mem_append.mp hc with hdigit | hrest
      · exact (asciiDigits_class c (hdigits c hdigit)).2.1
      · exact hglued c hrest
  constructor
  · rw [hword, joinBlank_singleton]
  · rw [hword]
    exact List.cons_ne_nil _ _

theorem normal_apart (hne : digits ≠ [])
    (hdigits : ∀ c ∈ digits, c ∈ asciiDigits) (hne' : word ≠ [])
    (hword : ∀ c ∈ word, isPySpace c = false) : Normal (digits ++ ' ' :: word) := by
  have hwords : splitWords (digits ++ ' ' :: word) = [digits, word] := by
    rw [splitWords_blank, splitWords_word hne fun c hc =>
      (asciiDigits_class c (hdigits c hc)).2.1, splitWords_word hne' hword]
    rfl
  constructor
  · rw [hwords, joinBlank_cons (List.cons_ne_nil _ _), joinBlank_singleton]
  · rw [hwords]
    exact List.cons_ne_nil _ _

theorem normal_piece (piece : Piece) : Normal piece.text := by
  have hnil : piece.suffix = [] → Normal piece.text := by
    intro hnil
    rw [Piece.text, hnil]
    exact normal_glued piece.digits_ne_nil piece.digits_ascii (by simp)
  rcases piece.suffix_mem with hempty | hmem
  · exact hnil hempty
  · simp only [quantitySuffixes, List.mem_cons, List.not_mem_nil, or_false] at hmem
    rw [Piece.text]
    rcases hmem with hunit | hunit | hunit | hunit
    · rw [hunit]
      exact normal_glued piece.digits_ne_nil piece.digits_ascii
        (forall_mem_of_all (by decide))
    · rw [hunit]
      exact normal_glued piece.digits_ne_nil piece.digits_ascii
        (forall_mem_of_all (by decide))
    · rw [hunit]
      exact normal_apart piece.digits_ne_nil piece.digits_ascii (by decide)
        (forall_mem_of_all (by decide))
    · rw [hunit]
      exact normal_apart piece.digits_ne_nil piece.digits_ascii (by decide)
        (forall_mem_of_all (by decide))

theorem normal_texts : ∀ text ∈ offer.texts, Normal text := by
  intro text htext
  rcases List.mem_append.mp htext with hbefore | hrest
  · obtain ⟨part, -, rfl⟩ := List.mem_map.mp hbefore
    exact normal_piece _
  · rcases List.mem_cons.mp hrest with rfl | hafter
    · exact normal_side _ _ offer.side offer.side_mem
    · obtain ⟨part, -, rfl⟩ := List.mem_map.mp hafter
      exact normal_piece _

theorem line_eq_joinBlank (w : Writing) (parts : List NumberPart) :
    w.line parts = joinBlank (parts.map fun part => (w.piece part).text) := by
  unfold Writing.line
  induction parts with
  | nil => rfl
  | cons part rest ih =>
    cases rest with
    | nil => exact (joinBlank_singleton _).symm
    | cons next rest =>
      have hjoin := @joinBlank_cons (w.piece part).text
        ((next :: rest).map fun part => (w.piece part).text) (by simp)
      refine Eq.trans ?_ hjoin.symm
      rw [← ih]
      rfl

theorem blankAfter_chars (hblank : q ' ' = false)
    (htexts : ∀ text ∈ texts, ∀ c ∈ text, q c = false) : ∀ c ∈ blankAfter texts, q c = false := by
  intro c hc
  obtain ⟨text, htext, hc⟩ := List.mem_flatMap.mp hc
  rcases List.mem_append.mp hc with hin | hin
  · exact htexts text htext c hin
  · rw [List.mem_singleton.mp hin]
    exact hblank

theorem blankBefore_chars (hblank : q ' ' = false)
    (htexts : ∀ text ∈ texts, ∀ c ∈ text, q c = false) : ∀ c ∈ blankBefore texts, q c = false := by
  intro c hc
  obtain ⟨text, htext, hc⟩ := List.mem_flatMap.mp hc
  rcases List.mem_cons.mp hc with rfl | hin
  · exact hblank
  · exact htexts text htext c hin

theorem blankAfter_last (texts : List (List Char)) :
    (blankAfter texts).getLast? ∈ [none, some ' '] := by
  induction texts with
  | nil => exact List.mem_cons_self
  | cons text rest ih =>
    show (text ++ [' '] ++ blankAfter rest).getLast? ∈ _
    rw [List.getLast?_append]
    cases hlast : (blankAfter rest).getLast? with
    | none => simp
    | some c =>
      rw [hlast] at ih
      simpa using ih

theorem behindSide_blankBefore (w : Writing) (parts : List NumberPart) :
    BehindSide (blankBefore (parts.map fun part => (w.piece part).text)) := by
  cases parts with
  | nil => exact .inl rfl
  | cons part rest =>
    obtain ⟨d, digits, hdigits⟩ := List.exists_cons_of_ne_nil (w.piece part).digits_ne_nil
    refine .inr ⟨d, digits ++ (w.piece part).suffix ++
      blankBefore (rest.map fun part => (w.piece part).text), ?_, ?_⟩
    · show ' ' :: (w.piece part).digits ++ (w.piece part).suffix ++ blankBefore _ = _
      rw [hdigits]
      rfl
    · exact (w.piece part).digits_ascii d (hdigits ▸ List.mem_cons_self)

theorem numberTexts_unmarked (w : Writing) (parts : List NumberPart) :
    ∀ text ∈ parts.map fun part => (w.piece part).text, ∀ c ∈ text, isMarkerStart c = false := by
  intro text htext c hc
  obtain ⟨part, -, rfl⟩ := List.mem_map.mp htext
  exact (piece_chars (w.piece part) c hc).1

theorem line_unmarked (w : Writing) (parts : List NumberPart) :
    ∀ c ∈ w.line parts, isMarkerStart c = false := by
  rw [line_eq_joinBlank]
  cases parts with
  | nil =>
    intro c hc
    cases hc
  | cons part rest =>
    have hmiddle := joinBlank_middle [] (rest.map fun part => (w.piece part).text)
      (w.piece part).text
    rw [List.map_cons, show joinBlank ((w.piece part).text ::
      rest.map fun part => (w.piece part).text) = (w.piece part).text ++
        blankBefore (rest.map fun part => (w.piece part).text) from hmiddle]
    intro c hc
    rcases List.mem_append.mp hc with hin | hin
    · exact (piece_chars _ c hin).1
    · exact blankBefore_chars (by decide) (numberTexts_unmarked w rest) c hin

theorem extractOfferContext_texts (offer : WrittenOffer) {text : List Char}
    (htext : splitWords text = offer.texts.flatMap splitWords) :
    extractOfferContext text =
      .found offer.tradeType offer.settlementType (offer.numbers.line offer.parts) := by
  have hjoined : joinBlank (splitWords text) =
      blankAfter (offer.before.map offer.numberText) ++
        (offer.side ++ blankBefore (offer.after.map offer.numberText)) := by
    rw [htext, joinBlank_flatMap normal_texts, WrittenOffer.texts, joinBlank_middle]
  have hmatches : findOfferContextMatches (blankAfter (offer.before.map offer.numberText) ++
      (offer.side ++ blankBefore (offer.after.map offer.numberText))) =
        [⟨_, _, offer.tradeType, offer.settlementType⟩] :=
    findOfferContextMatches_side offer.side_mem
      (blankAfter_chars (by decide) (numberTexts_unmarked offer.numbers offer.before))
      (blankAfter_last _)
      (blankBefore_chars (by decide) (numberTexts_unmarked offer.numbers offer.after))
      (behindSide_blankBefore offer.numbers offer.after)
  have hnormal : ∀ text ∈ offer.parts.map offer.numberText, Normal text := by
    intro text htext
    obtain ⟨part, -, rfl⟩ := List.mem_map.mp htext
    exact normal_piece _
  -- without the side its neighbours move together
  have hremaining : joinBlank (splitWords (blankAfter (offer.before.map offer.numberText) ++
      ' ' :: blankBefore (offer.after.map offer.numberText))) =
        offer.numbers.line offer.parts := by
    have hafter := splitWords_blankBefore (offer.after.map offer.numberText) []
    rw [List.nil_append, splitWords_nil, List.nil_append] at hafter
    rw [splitWords_blank, splitWords_blankAfter, hafter, ← List.flatMap_append, ← List.map_append]
    exact (joinBlank_flatMap hnormal).trans (line_eq_joinBlank _ _).symm
  have hunmarked := line_unmarked offer.numbers offer.parts
  have hdrop : (blankAfter (offer.before.map offer.numberText) ++ (offer.side ++
      blankBefore (offer.after.map offer.numberText))).drop
        ((blankAfter (offer.before.map offer.numberText)).length + offer.side.length) =
          blankBefore (offer.after.map offer.numberText) := by
    rw [← List.append_assoc, ← List.length_append, List.drop_left]
  unfold extractOfferContext
  dsimp only
  rw [hjoined, hmatches]
  dsimp only
  rw [List.take_left, hdrop, hremaining, extractTradeType_unmarked hunmarked,
    residualSettlement_unmarked hunmarked]
  rfl

theorem exists_mem_splitWords {text : List Char} (hc : c ∈ text)
    (hblank : isPySpace c = false) : ∃ word ∈ splitWords text, c ∈ word := by
  have hsplit : ∃ word ∈ text.splitOnP isPySpace, c ∈ word := by
    induction text with
    | nil => cases hc
    | cons first rest ih =>
      rw [List.splitOnP_cons_eq_if_modifyHead]
      by_cases hfirst : isPySpace first = true
      · rw [if_pos hfirst]
        rcases List.mem_cons.mp hc with rfl | hrest
        · rw [hfirst] at hblank
          cases hblank
        · obtain ⟨word, hword, hin⟩ := ih hrest
          exact ⟨word, List.mem_cons_of_mem _ hword, hin⟩
      · rw [if_neg hfirst]
        obtain ⟨head, tail, hheads⟩ :=
          List.exists_cons_of_ne_nil (List.splitOnP_ne_nil isPySpace rest)
        rw [hheads, List.modifyHead_cons]
        rcases List.mem_cons.mp hc with rfl | hrest
        · exact ⟨_, List.mem_cons_self, List.mem_cons_self⟩
        · obtain ⟨word, hword, hin⟩ := ih hrest
          rw [hheads] at hword
          rcases List.mem_cons.mp hword with rfl | htail
          · exact ⟨_, List.mem_cons_self, List.mem_cons_of_mem _ hin⟩
          · exact ⟨word, List.mem_cons_of_mem _ htail, hin⟩
  obtain ⟨word, hword, hin⟩ := hsplit
  refine ⟨word, List.mem_filter.mpr ⟨hword, ?_⟩, hin⟩
  simpa using List.ne_nil_of_mem hin

theorem mem_joinBlank {words : List (List Char)}
    (hword : word ∈ words) (hc : c ∈ word) : c ∈ joinBlank words := by
  obtain ⟨first, rest, rfl⟩ := List.append_of_mem hword
  rw [joinBlank_middle]
  exact List.mem_append_right _ (List.mem_append_left _ hc)

theorem texts_allowed : ∀ text ∈ offer.texts, ∀ c ∈ text, isAllowed c = true := by
  intro text htext c hc
  rcases List.mem_append.mp htext with hbefore | hrest
  · obtain ⟨part, -, rfl⟩ := List.mem_map.mp hbefore
    exact (piece_chars _ c hc).2
  · rcases List.mem_cons.mp hrest with rfl | hafter
    · exact allowed_side _ _ offer.side offer.side_mem c hc
    · obtain ⟨part, -, rfl⟩ := List.mem_map.mp hafter
      exact (piece_chars _ c hc).2

theorem allowed_of_words {text : List Char}
    (htext : splitWords text = offer.texts.flatMap splitWords) :
    ∀ c ∈ text, isAllowed c = true := by
  intro c hc
  by_cases hblank : isPySpace c = true
  · simp [isAllowed, hblank]
  · obtain ⟨word, hword, hin⟩ := exists_mem_splitWords hc (Bool.eq_false_iff.mpr hblank)
    rw [htext] at hword
    obtain ⟨written, hwritten, hword⟩ := List.mem_flatMap.mp hword
    refine texts_allowed written hwritten c ?_
    rw [← (normal_texts written hwritten).joined]
    exact mem_joinBlank hword hin

theorem validateCharacters_texts {text : List Char}
    (htext : splitWords text = offer.texts.flatMap splitWords) :
    validateCharacters text = none := by
  have hne : text ≠ [] := by
    rintro rfl
    have hside := (normal_side _ _ offer.side offer.side_mem).nonempty
    obtain ⟨word, rest, hwords⟩ := List.exists_cons_of_ne_nil hside
    have hmem : word ∈ offer.texts.flatMap splitWords :=
      List.mem_flatMap.mpr ⟨offer.side, List.mem_append_right _ List.mem_cons_self,
        hwords ▸ List.mem_cons_self⟩
    rw [← htext, splitWords_nil] at hmem
    cases hmem
  unfold validateCharacters
  rw [if_pos ⟨hne, List.all_eq_true.mpr (allowed_of_words htext)⟩]

theorem splitNotes_texts {text : String} (htext : offer.Writes text) :
    splitNotes text.toList = .ok (text.toList, none) := by
  have hcolon : ':' ∉ text.toList := by
    intro hmem
    have hallowed := allowed_of_words htext ':' (List.mem_map.mpr ⟨':', hmem, by decide⟩)
    revert hallowed
    decide
  unfold splitNotes
  rw [if_neg hcolon]

end Texts

/-! ## The parsed offer -/

def ReturnsOffer (result : ParseResult) (offer : WrittenOffer) : Prop :=
  ∃ parsed, result = .offer parsed ∧ parsed.tradeType = offer.tradeType ∧
    parsed.settlementType = offer.settlementType ∧ parsed.quantity = offer.numbers.quantity ∧
    parsed.price = offer.numbers.price ∧
    parsed.lotSizes = (if offer.lots = [] then none else some offer.lots) ∧
    parsed.isWholesale = decide (offer.lots = [])

section Parsed

variable {offer : WrittenOffer}

theorem written_parts (offer : WrittenOffer) : WrittenParts offer.numbers offer.parts :=
  offer.written

theorem offerQuantity_line (settings : TradingSettings)
    (hlow : settings.offerMinQuantity ≤ offer.numbers.quantity)
    (hhigh : offer.numbers.quantity ≤ settings.offerMaxQuantity) :
    offerQuantity settings (offer.numbers.line offer.parts) false =
      .ok (offer.numbers.quantity : Int) := by
  unfold offerQuantity
  rw [extractQuantity_line (written_parts offer)]
  show (if (offer.numbers.quantity : Int) < settings.offerMinQuantity then _ else _) = _
  rw [if_neg (Int.not_lt.mpr hlow), if_neg (Int.not_lt.mpr hhigh)]

theorem parseRemaining_line (settings : TradingSettings)
    (findCommodity : List Char → CommodityMatch)
    (hlow : settings.offerMinQuantity ≤ offer.numbers.quantity)
    (hhigh : offer.numbers.quantity ≤ settings.offerMaxQuantity) :
    ∃ entry ∈ offer.numbers.located 0 offer.parts, entry.2 = .price ∧
      parseRemaining settings findCommodity none offer.tradeType offer.settlementType
          (offer.numbers.line offer.parts) =
        (extractLotSizes settings (offer.numbers.line offer.parts) offer.numbers.quantity
          offer.numbers.price (some (priceTokenOf entry.1 offer.numbers.price))).map fun lotSizes =>
            { tradeType := offer.tradeType
              commodityId := (findCommodity (offer.numbers.line offer.parts)).commodityId
              commodityName := (findCommodity (offer.numbers.line offer.parts)).commodityName
              quantity := offer.numbers.quantity
              price := offer.numbers.price
              isWholesale := lotSizes.isNone
              lotSizes := lotSizes
              notes := none
              settlementType := offer.settlementType
              commodityResolution := (findCommodity (offer.numbers.line offer.parts)).resolution
              lowDateHint := false
              packHint := false } := by
  obtain ⟨entry, hentry, hpart, htoken⟩ := extractPriceToken_line (written_parts offer) settings
    (some (offer.numbers.quantity : Int)) false
  refine ⟨entry, hentry, hpart, ?_⟩
  have hunmarked := line_unmarked offer.numbers offer.parts
  have hpack : extractPackHint (offer.numbers.line offer.parts) = .ok false := by
    have hnone : packMarkerPattern.finditer (offer.numbers.line offer.parts) = [] :=
      finditer_standalone isArabic (by decide) hunmarked
    unfold extractPackHint
    rw [hnone]
  have hlowDate : extractLowDateHint (offer.numbers.line offer.parts) =
      .ok (offer.numbers.line offer.parts, false) := by
    have hnone : lowDateMarkerPattern.finditer (offer.numbers.line offer.parts) = [] :=
      finditer_standalone isArabic (by decide) hunmarked
    unfold extractLowDateHint
    rw [hnone]
  have hlots : offerLots settings (offer.numbers.line offer.parts) offer.numbers.quantity
      (priceTokenOf entry.1 offer.numbers.price) false =
        extractLotSizes settings (offer.numbers.line offer.parts) offer.numbers.quantity
          offer.numbers.price (some (priceTokenOf entry.1 offer.numbers.price)) := rfl
  unfold parseRemaining
  rw [hpack]
  show (offerQuantity settings (offer.numbers.line offer.parts) false >>= _) = _
  rw [offerQuantity_line settings hlow hhigh]
  show (extractPriceToken settings (offer.numbers.line offer.parts)
    (some (offer.numbers.quantity : Int)) false >>= _) = _
  rw [htoken]
  show (offerLots settings (offer.numbers.line offer.parts) offer.numbers.quantity
    (priceTokenOf entry.1 offer.numbers.price) false >>= _) = _
  rw [hlots]
  cases extractLotSizes settings (offer.numbers.line offer.parts) offer.numbers.quantity
      offer.numbers.price (some (priceTokenOf entry.1 offer.numbers.price)) with
  | error message => rfl
  | ok lotSizes =>
    show (extractLowDateHint (offer.numbers.line offer.parts) >>= _) = _
    rw [hlowDate]
    rfl

end Parsed

/-- An offer written in any order, with a quantity within the limits and lots that
`validate_lot_sizes` accepts, is returned as written exactly when no lot in front of the price is
the price without its zeros. -/
theorem written_offer_returned_iff (settings : TradingSettings)
    (findCommodity : List Char → CommodityMatch) (offer : WrittenOffer) (text : String)
    (htext : offer.Writes text) (hlow : settings.offerMinQuantity ≤ offer.numbers.quantity)
    (hhigh : offer.numbers.quantity ≤ settings.offerMaxQuantity) (hlots : offer.lots = [] ∨
      validateLotSizes settings offer.numbers.quantity offer.lots = .accepted offer.lots) :
    ReturnsOffer (parseOfferText settings findCommodity text) offer ↔
      ¬ PriceTwin offer.numbers.price offer.parts := by
  obtain ⟨entry, hentry, hpart, hparsed⟩ :=
    @parseRemaining_line offer settings findCommodity hlow hhigh
  rw [← extractLotSizes_line_iff (written_parts offer) settings hlots hentry hpart]
  have hresult : parseOfferText settings findCommodity text =
      .ofExcept (parseRemaining settings findCommodity none offer.tradeType offer.settlementType
        (offer.numbers.line offer.parts)) := by
    simp only [parseOfferText, splitNotes_texts htext, extractOfferContext_texts offer htext,
      validateCharacters_texts htext]
  rw [hresult, hparsed]
  cases hread : extractLotSizes settings (offer.numbers.line offer.parts) offer.numbers.quantity
      offer.numbers.price (some (priceTokenOf entry.1 offer.numbers.price)) with
  | error message =>
    constructor
    · rintro ⟨parsed, hoffer, -⟩
      cases hoffer
    · intro hok
      cases hok
  | ok lotSizes =>
    rw [Except.ok.injEq]
    constructor
    · rintro ⟨parsed, hoffer, -, -, -, -, hsizes, -⟩
      cases hoffer
      exact hsizes
    · intro hsizes
      refine ⟨_, rfl, rfl, rfl, rfl, rfl, hsizes, ?_⟩
      show lotSizes.isNone = decide (offer.lots = [])
      rw [show lotSizes = if offer.lots = [] then none else some offer.lots from hsizes]
      split
      · rename_i hnil
        simp [hnil]
      · rename_i hsome
        simp [hsome]

def thirtyCoins : Writing where
  quantity := 30
  price := 10000
  suffix := "تا".toList
  suffix_mem := by decide

theorem thirtyCoins_written {parts : List NumberPart}
    (hlots : ∀ part ∈ parts, part ∈ [.quantity, .price, .lot 10, .lot 20])
    (hquantity : parts.count .quantity = 1) (hprice : parts.count .price = 1) :
    WrittenParts thirtyCoins parts where
  price_digits := by decide
  lot_digits size hsize := by
    have hmem := hlots (.lot size) hsize
    simp only [List.mem_cons, reduceCtorEq, NumberPart.lot.injEq, List.not_mem_nil, or_false,
      false_or] at hmem
    omega
  one_quantity := hquantity
  one_price := hprice

def priceFirst : WrittenOffer where
  tradeType := .buy
  settlementType := .cash
  side := "خ".toList
  side_mem := by decide
  numbers := thirtyCoins
  before := []
  after := [.quantity, .price, .lot 10, .lot 20]
  written := thirtyCoins_written (by decide) (by decide) (by decide)

def lotsFirst : WrittenOffer where
  tradeType := .buy
  settlementType := .cash
  side := "خ".toList
  side_mem := by decide
  numbers := thirtyCoins
  before := []
  after := [.quantity, .lot 10, .lot 20, .price]
  written := thirtyCoins_written (by decide) (by decide) (by decide)

def noCommodities : List Char → CommodityMatch := fun _ => ⟨none, none, "OMITTED"⟩

/-- With the price first the offer is returned as it was written. -/
theorem priceFirst_returned : priceFirst.Writes "خ 30تا 10000 10 20" ∧
    ReturnsOffer (parseOfferText {} noCommodities "خ 30تا 10000 10 20") priceFirst := by
  have hwrites : priceFirst.Writes "خ 30تا 10000 10 20" := by
    unfold WrittenOffer.Writes
    decide
  refine ⟨hwrites, ?_⟩
  refine (written_offer_returned_iff {} noCommodities priceFirst _ hwrites (by decide) (by decide)
    (.inr (by decide))).mpr ?_
  unfold PriceTwin
  decide

/-- With the lots first the lot of ten is taken for the price, and the others do not make thirty. -/
theorem lotsFirst_refused : lotsFirst.Writes "خ 30تا 10 20 10000" ∧
    validateLotSizes {} lotsFirst.numbers.quantity lotsFirst.lots = .accepted lotsFirst.lots ∧
    parseOfferText {} noCommodities "خ 30تا 10 20 10000" =
      .error "❌ جمع بخش‌ها (20) با تعداد کل (30) برابر نیست" ∧
    ¬ ReturnsOffer (parseOfferText {} noCommodities "خ 30تا 10 20 10000") lotsFirst := by
  have hrefused : parseOfferText {} noCommodities "خ 30تا 10 20 10000" =
      .error "❌ جمع بخش‌ها (20) با تعداد کل (30) برابر نیست" := by
    decide
  refine ⟨?_, by decide, hrefused, ?_⟩
  · unfold WrittenOffer.Writes
    decide
  · rintro ⟨parsed, hoffer, -⟩
    rw [hrefused] at hoffer
    cases hoffer

end TradingBot.OfferParser
