import TradingBot.Offer.ParserNumbers

/-!
# The parts of a written offer

What `extract_quantity`, `_extract_price_token` and `extract_lot_sizes` of
`bot/utils/offer_parser.py` make of the numbers of an offer, its quantity, price and lots, in
whatever order they stand.
-/

namespace TradingBot.OfferParser

open TradingBot.Misc

def numeral (n : Nat) : List Char := Nat.toDigits 10 n

section Numerals

variable {n : Nat}

theorem mem_asciiDigits_of_isDigit {c : Char} (h : c.isDigit = true) : c ∈ asciiDigits := by
  have hrange : 48 ≤ c.toNat ∧ c.toNat ≤ 57 := Char.isDigit_iff_toNat.mp h
  have hall : ∀ k : Fin 10, Char.ofNat (48 + k.val) ∈ asciiDigits := by decide
  have hmem := hall ⟨c.toNat - 48, by omega⟩
  rwa [show 48 + (c.toNat - 48) = c.toNat by omega, Char.ofNat_toNat] at hmem

theorem numeral_ascii : ∀ c ∈ numeral n, c ∈ asciiDigits := fun _ hc =>
  mem_asciiDigits_of_isDigit (Nat.isDigit_of_mem_toDigits (by decide) (by decide) hc)

theorem numeral_ne_nil : numeral n ≠ [] := Nat.toDigits_ne_nil

theorem digitValue_ascii : ∀ c ∈ asciiDigits, (digitValue c).getD 0 = c.toNat - '0'.toNat := by
  apply forall_mem_of_all
  decide

theorem numberOf_numeral (n : Nat) : numberOf (numeral n) = n := by
  have hfold : ∀ (digits : List Char) (start : Nat), (∀ c ∈ digits, c ∈ asciiDigits) →
      digits.foldl (fun n c => 10 * n + (digitValue c).getD 0) start =
        Nat.ofDigitChars 10 digits start := by
    intro digits
    induction digits with
    | nil =>
      intro start _
      exact Nat.ofDigitChars_nil.symm
    | cons c digits ih =>
      intro start hdigits
      rw [List.foldl_cons, Nat.ofDigitChars_cons, digitValue_ascii c (hdigits c List.mem_cons_self)]
      exact ih _ fun c' hc' => hdigits c' (List.mem_cons_of_mem c hc')
  show (digitsNumber (numeral n) : Int) = n
  rw [digitsNumber, hfold (numeral n) 0 numeral_ascii, numeral, Nat.ofDigitChars_ten_toDigits]

theorem numeral_injective {m : Nat} (h : numeral m = numeral n) : m = n := by
  have hvalue := congrArg numberOf h
  rw [numberOf_numeral, numberOf_numeral] at hvalue
  exact Int.natCast_inj.mp hvalue

theorem toString_natCast (n : Nat) : toString (n : Int) = String.ofList (numeral n) := rfl

theorem length_numeral_le_iff {k : Nat} (hk : 0 < k) : (numeral n).length ≤ k ↔ n < 10 ^ k :=
  Nat.length_toDigits_le_iff (by decide) hk

theorem dropWhile_of_none {p : Char → Bool} {text : List Char} (h : ∀ c ∈ text, p c = false) :
    text.dropWhile p = text := by
  cases text with
  | nil => rfl
  | cons c text =>
    rw [List.dropWhile_cons_of_neg]
    rw [h c List.mem_cons_self]
    exact Bool.false_ne_true

theorem ensureInt_numeral (n : Nat) : ensureInt (textInput (numeral n)) = some (n : Int) := by
  have hclass := fun c (hc : c ∈ numeral n) => asciiDigits_class c (numeral_ascii c hc)
  have hstrip : (pyStrip (String.ofList (numeral n))).toList = numeral n := by
    rw [pyStrip, String.toList_ofList, String.toList_ofList,
      dropWhile_of_none fun c hc => (hclass c hc).2.1,
      dropWhile_of_none fun c hc => (hclass c (List.mem_reverse.mp hc)).2.1, List.reverse_reverse]
  have hgrouped : groupedDigits (numeral n) = some n := by
    have hwhole : (numeral n).splitOn '_' = [numeral n] :=
      List.splitOn_eq_singleton Nat.underscore_not_in_toDigits
    have hdecimal : (numeral n).all isDecimalDigit = true :=
      List.all_eq_true.mpr fun c hc => (hclass c hc).1
    unfold groupedDigits
    rw [hwhole, if_pos (by simp [numeral_ne_nil, hdecimal]),
      List.filter_eq_self.mpr fun c hc => (hclass c hc).1]
    exact congrArg some (Int.natCast_inj.mp (numberOf_numeral n))
  have hsign : ∀ digits, numeral n ≠ '-' :: digits ∧ numeral n ≠ '+' :: digits := by
    intro digits
    constructor
    · intro heq
      have hmem := numeral_ascii (n := n) '-' (heq ▸ List.mem_cons_self)
      revert hmem
      decide
    · intro heq
      have hmem := numeral_ascii (n := n) '+' (heq ▸ List.mem_cons_self)
      revert hmem
      decide
  show intOfText (String.ofList (numeral n)) = _
  unfold intOfText
  rw [hstrip]
  split
  · rename_i digits heq
    exact absurd heq (hsign digits).1
  · rename_i digits heq
    exact absurd heq (hsign digits).2
  · rw [hgrouped]
    rfl

theorem validatePrice_numeral (n : Nat) :
    (validatePrice (textInput (numeral n))).isOk = true ↔ 10000 ≤ n ∧ n < 1000000 := by
  have hlength : (toString (n : Int)).length = (numeral n).length := by
    rw [toString_natCast, String.length_ofList]
  have hfour := length_numeral_le_iff (n := n) (k := 4) (by decide)
  have hsix := length_numeral_le_iff (n := n) (k := 6) (by decide)
  unfold validatePrice
  rw [ensureInt_numeral]
  dsimp only
  rw [hlength]
  split
  · constructor
    · intro h
      cases h
    · omega
  · split
    · rename_i hdigits
      constructor
      · intro h
        cases h
      · simp only [List.mem_cons, List.not_mem_nil, or_false] at hdigits
        omega
    · rename_i hdigits
      simp only [List.mem_cons, List.not_mem_nil, or_false, not_not] at hdigits
      constructor
      · intro _
        omega
      · intro _
        rfl

end Numerals

/-! ## A line of numbers -/

inductive NumberPart where
  | quantity
  | price
  | lot (size : Nat)
  deriving DecidableEq, Repr

structure Writing where
  quantity : Nat
  price : Nat
  suffix : List Char
  suffix_mem : suffix ∈ quantitySuffixes

namespace Writing

variable (w : Writing)

def value : NumberPart → Nat
  | .quantity => w.quantity
  | .price => w.price
  | .lot size => size

def piece (part : NumberPart) : Piece where
  digits := numeral (w.value part)
  suffix := if part = .quantity then w.suffix else []
  digits_ne_nil := numeral_ne_nil
  digits_ascii := numeral_ascii
  suffix_mem := by
    split
    · exact .inr w.suffix_mem
    · exact .inl rfl

def line (parts : List NumberPart) : List Char := piecesText (parts.map w.piece)

def located : Nat → List NumberPart → List (Match × NumberPart)
  | _, [] => []
  | position, part :: rest =>
    (⟨position, numeral (w.value part)⟩, part) ::
      located (position + (w.piece part).text.length + 1) rest

end Writing

section Line

variable {w : Writing} {position : Nat} {entry : Match × NumberPart}

theorem isQuantity_piece (part : NumberPart) :
    (w.piece part).isQuantity = decide (part = .quantity) := by
  have hne : w.suffix ≠ [] := by
    intro hnil
    have hmem := w.suffix_mem
    rw [hnil] at hmem
    revert hmem
    decide
  show decide ((if part = .quantity then w.suffix else []) ≠ []) = _
  by_cases hpart : part = .quantity
  · simp [hpart, hne]
  · simp [hpart]

theorem numbersFrom_located (parts : List NumberPart) (position : Nat) :
    numbersFrom position (parts.map w.piece) =
      (w.located position parts).map fun entry => (entry.1, decide (entry.2 = .quantity)) := by
  induction parts generalizing position with
  | nil => rfl
  | cons part rest ih =>
    rw [List.map_cons, numbersFrom, Writing.located, List.map_cons, ih, isQuantity_piece]
    rfl

theorem located_parts (parts : List NumberPart) (position : Nat) :
    (w.located position parts).map Prod.snd = parts := by
  induction parts generalizing position with
  | nil => rfl
  | cons part rest ih => rw [Writing.located, List.map_cons, ih]

theorem located_text {parts : List NumberPart}
    (h : entry ∈ w.located position parts) : entry.1.text = numeral (w.value entry.2) := by
  induction parts generalizing position with
  | nil => cases h
  | cons part rest ih =>
    rcases List.mem_cons.mp h with rfl | hrest
    · rfl
    · exact ih hrest

theorem located_start_le {parts : List NumberPart}
    (h : entry ∈ w.located position parts) : position ≤ entry.1.start := by
  induction parts generalizing position with
  | nil => cases h
  | cons part rest ih =>
    rcases List.mem_cons.mp h with rfl | hrest
    · exact Nat.le_refl _
    · have hle := ih hrest
      omega

theorem located_injective {parts : List NumberPart}
    {other : Match × NumberPart} (hentry : entry ∈ w.located position parts)
    (hother : other ∈ w.located position parts) (hspan : entry.1.span = other.1.span) :
    entry = other := by
  have hstart : entry.1.start = other.1.start := congrArg Prod.fst hspan
  induction parts generalizing position with
  | nil => cases hentry
  | cons part rest ih =>
    rcases List.mem_cons.mp hentry with rfl | hentry'
    · rcases List.mem_cons.mp hother with rfl | hother'
      · rfl
      · have hle := located_start_le hother'
        dsimp only at hstart
        omega
    · rcases List.mem_cons.mp hother with rfl | hother'
      · have hle := located_start_le hentry'
        dsimp only at hstart
        omega
      · exact ih hentry' hother'

theorem finditer_number (parts : List NumberPart) :
    numberPattern.finditer (w.line parts) = (w.located 0 parts).map Prod.fst := by
  rw [GroupPattern.finditer, Writing.line, numberPattern_scan, numbersFrom_located, List.map_map]
  rfl

theorem finditer_quantity (parts : List NumberPart) :
    quantityPattern.finditer (w.line parts) =
      ((w.located 0 parts).filter fun entry => entry.2 = .quantity).map Prod.fst := by
  rw [GroupPattern.finditer, Writing.line, quantityPattern_scan, numbersFrom_located,
    List.filter_map, List.map_map]
  rfl

theorem span_mem_quantityNumberSpans {parts : List NumberPart}
    (hentry : entry ∈ w.located 0 parts) :
    entry.1.span ∈ quantityNumberSpans (w.line parts) ↔ entry.2 = .quantity := by
  rw [quantityNumberSpans, finditer_quantity, List.map_map, List.mem_map]
  constructor
  · rintro ⟨other, hother, hspan⟩
    rw [List.mem_filter, decide_eq_true_eq] at hother
    rw [← located_injective hother.1 hentry hspan]
    exact hother.2
  · intro hquantity
    exact ⟨entry, List.mem_filter.mpr ⟨hentry, decide_eq_true hquantity⟩, rfl⟩

end Line

/-- The parts of an offer: a full price, lots of at most two digits, one quantity and one price. -/
structure WrittenParts (w : Writing) (parts : List NumberPart) : Prop where
  price_digits : 10000 ≤ w.price ∧ w.price < 1000000
  lot_digits : ∀ size, .lot size ∈ parts → size < 100
  one_quantity : parts.count .quantity = 1
  one_price : parts.count .price = 1

section Parts

variable {w : Writing} {parts : List NumberPart}

theorem located_filter {part : NumberPart} (hcount : parts.count part = 1) :
    ∃ entry, (w.located 0 parts).filter (fun entry => entry.2 = part) = [entry] ∧
      entry ∈ w.located 0 parts ∧ entry.2 = part := by
  have hlength : ((w.located 0 parts).filter fun entry => entry.2 = part).length = 1 := by
    rw [← List.countP_eq_length_filter, ← hcount]
    conv => rhs; rw [← @located_parts w parts 0]
    rw [List.count, List.countP_map]
    refine List.countP_congr fun entry _ => ?_
    simp
  obtain ⟨entry, hentry⟩ := List.length_eq_one_iff.mp hlength
  have hmem : entry ∈ (w.located 0 parts).filter fun entry => entry.2 = part :=
    hentry ▸ List.mem_singleton_self entry
  rw [List.mem_filter, decide_eq_true_eq] at hmem
  exact ⟨entry, hentry, hmem⟩

theorem eq_of_located {part : NumberPart} (hcount : parts.count part = 1)
    {entry other : Match × NumberPart} (hentry : entry ∈ w.located 0 parts)
    (hother : other ∈ w.located 0 parts) (hpart : entry.2 = part) (hpart' : other.2 = part) :
    entry = other := by
  obtain ⟨single, hfilter, -⟩ := located_filter (w := w) hcount
  have hmem : ∀ entry ∈ w.located 0 parts, entry.2 = part → entry = single := by
    intro entry hentry hpart
    have hin : entry ∈ (w.located 0 parts).filter fun entry => entry.2 = part :=
      List.mem_filter.mpr ⟨hentry, decide_eq_true hpart⟩
    rw [hfilter] at hin
    exact List.mem_singleton.mp hin
  rw [hmem entry hentry hpart, hmem other hother hpart']

theorem extractQuantity_line (h : WrittenParts w parts) :
    extractQuantity (w.line parts) = .ok (w.quantity : Int) := by
  obtain ⟨entry, hfilter, hmem, hpart⟩ := located_filter (w := w) h.one_quantity
  unfold extractQuantity
  rw [finditer_quantity, hfilter]
  show Except.ok (numberOf entry.1.text) = _
  rw [located_text hmem, hpart, numberOf_numeral]
  rfl

theorem priceTokens_line (parts : List NumberPart) :
    priceTokens (w.line parts) =
      ((w.located 0 parts).filter fun entry => entry.2 ≠ .quantity).map Prod.fst := by
  unfold priceTokens
  rw [finditer_number, List.filter_map]
  congr 1
  refine List.filter_congr fun entry hentry => ?_
  have hspan := span_mem_quantityNumberSpans hentry
  simp only [Function.comp_apply, hspan, decide_not]

theorem validatePrice_iff (h : WrittenParts w parts) {entry : Match × NumberPart}
    (hentry : entry ∈ w.located 0 parts) (hpart : entry.2 ≠ .quantity) :
    (validatePrice (textInput entry.1.text)).isOk = true ↔ entry.2 = .price := by
  rw [located_text hentry, validatePrice_numeral]
  have hmem : entry.2 ∈ parts := by
    rw [← @located_parts w parts 0]
    exact List.mem_map_of_mem hentry
  cases hcase : entry.2 with
  | quantity => exact absurd hcase hpart
  | price => exact ⟨fun _ => rfl, fun _ => h.price_digits⟩
  | lot size =>
    have hsmall := h.lot_digits size (hcase ▸ hmem)
    constructor
    · rintro ⟨hlarge, -⟩
      have hvalue : w.value (.lot size) = size := rfl
      omega
    · intro hprice
      cases hprice

theorem extractPriceToken_line (h : WrittenParts w parts) (settings : TradingSettings)
    (quantity : Option Int) (packHint : Bool) :
    ∃ entry ∈ w.located 0 parts, entry.2 = .price ∧
      extractPriceToken settings (w.line parts) quantity packHint =
        .ok (priceTokenOf entry.1 w.price) := by
  obtain ⟨entry, hfilter, hmem, hpart⟩ := located_filter (w := w) h.one_price
  refine ⟨entry, hmem, hpart, ?_⟩
  have hfull : ((priceTokens (w.line parts)).filter fun m =>
      (validatePrice (textInput m.text)).isOk).map (fun m => priceTokenOf m (numberOf m.text)) =
        [priceTokenOf entry.1 w.price] := by
    rw [priceTokens_line, List.filter_map, List.filter_filter, List.filter_congr (q := fun entry =>
      decide (entry.2 = .price)), hfilter]
    · show [priceTokenOf entry.1 (numberOf entry.1.text)] = _
      rw [located_text hmem, hpart, numberOf_numeral]
      rfl
    · intro other hother
      by_cases hquantity : other.2 = .quantity
      · simp [hquantity]
      · have hiff := validatePrice_iff h hother hquantity
        simp only [Function.comp_apply, hquantity, ne_eq, not_false_eq_true, decide_true,
          Bool.and_true]
        rw [Bool.eq_iff_iff, hiff, decide_eq_true_eq]
  unfold extractPriceToken
  dsimp only
  rw [hfull]

end Parts

/-! ## Lots -/

def writtenLots : List NumberPart → List Int
  | [] => []
  | .lot size :: rest => (size : Int) :: writtenLots rest
  | .quantity :: rest => writtenLots rest
  | .price :: rest => writtenLots rest

/-- The loop of `extract_lot_sizes`: until the price is found, a lot that is it without its zeros is
taken for it. -/
def lotsRead (price : Nat) : Bool → List NumberPart → List Int
  | _, [] => []
  | found, .quantity :: rest => lotsRead price found rest
  | _, .price :: rest => lotsRead price true rest
  | found, .lot size :: rest =>
    if found = false ∧ price % 1000 = 0 ∧ size = price / 1000 then lotsRead price true rest
    else (size : Int) :: lotsRead price found rest

/-- A lot in front of the price is the price without its zeros. -/
def PriceTwin (price : Nat) (parts : List NumberPart) : Prop :=
  price % 1000 = 0 ∧ .lot (price / 1000) ∈ parts.takeWhile (· ≠ .price)

section Lots

variable {w : Writing} {parts : List NumberPart} {price : Nat}

theorem lotsRead_true (parts : List NumberPart) :
    lotsRead price true parts = writtenLots parts := by
  induction parts with
  | nil => rfl
  | cons part rest ih =>
    cases part with
    | quantity | price => exact ih
    | lot size =>
      rw [lotsRead, if_neg (fun h => Bool.noConfusion h.1), ih]
      rfl

theorem mem_writtenLots {size : Nat} (h : .lot size ∈ parts) :
    (size : Int) ∈ writtenLots parts := by
  induction parts with
  | nil => cases h
  | cons part rest ih =>
    rcases List.mem_cons.mp h with rfl | hrest
    · exact List.mem_cons_self
    · cases part with
      | quantity | price => exact ih hrest
      | lot other => exact List.mem_cons_of_mem _ (ih hrest)

theorem lotsRead_of_not_twin (h : ¬ PriceTwin price parts) :
    lotsRead price false parts = writtenLots parts := by
  induction parts with
  | nil => rfl
  | cons part rest ih =>
    unfold PriceTwin at h ih
    cases part with
    | quantity =>
      rw [List.takeWhile_cons_of_pos (by decide)] at h
      exact ih fun htwin => h ⟨htwin.1, List.mem_cons_of_mem _ htwin.2⟩
    | price => exact lotsRead_true rest
    | lot size =>
      rw [List.takeWhile_cons_of_pos (by simp)] at h
      rw [lotsRead, if_neg, ih fun htwin => h ⟨htwin.1, List.mem_cons_of_mem _ htwin.2⟩]
      · rfl
      · rintro ⟨-, hzeros, rfl⟩
        exact h ⟨hzeros, List.mem_cons_self⟩

theorem sum_lotsRead_of_twin (h : PriceTwin price parts) :
    (lotsRead price false parts).sum + (price / 1000 : Nat) = (writtenLots parts).sum := by
  obtain ⟨hzeros, hmem⟩ := h
  induction parts with
  | nil => cases hmem
  | cons part rest ih =>
    cases part with
    | quantity =>
      rw [List.takeWhile_cons_of_pos (by decide)] at hmem
      rcases List.mem_cons.mp hmem with heq | hrest
      · cases heq
      · exact ih hrest
    | price =>
      rw [List.takeWhile_cons_of_neg (by decide)] at hmem
      cases hmem
    | lot size =>
      rw [List.takeWhile_cons_of_pos (by simp)] at hmem
      rw [lotsRead]
      by_cases htwin : size = price / 1000
      · rw [if_pos ⟨rfl, hzeros, htwin⟩, lotsRead_true, writtenLots, List.sum_cons, htwin]
        omega
      · rw [if_neg fun h => htwin h.2.2]
        rcases List.mem_cons.mp hmem with heq | hrest
        · cases heq
          exact absurd rfl htwin
        · rw [List.sum_cons, writtenLots, List.sum_cons, ← ih hrest]
          omega

theorem inferredShortToken_iff (hprice : price < 1000000) (size : Nat) :
    inferredShortToken (price : Int) = some (numeral size) ↔
      price % 1000 = 0 ∧ size = price / 1000 := by
  have hquotient : (price : Int) / 1000 = (price / 1000 : Nat) := by omega
  have hshort : (numeral (price / 1000)).length ≤ 3 := by
    rw [length_numeral_le_iff (by decide)]
    omega
  unfold inferredShortToken
  rw [hquotient, toString_natCast, String.length_ofList, String.toList_ofList]
  by_cases hzeros : price % 1000 = 0
  · rw [if_pos ⟨by omega, hshort⟩, Option.some.injEq]
    constructor
    · intro h
      exact ⟨hzeros, (numeral_injective h).symm⟩
    · rintro ⟨-, rfl⟩
      rfl
  · rw [if_neg fun h => hzeros (by omega)]
    constructor
    · intro h
      cases h
    · intro h
      exact absurd h.1 hzeros

theorem lotCandidates_located (h : WrittenParts w parts) {entry : Match × NumberPart}
    (hentry : entry ∈ w.located 0 parts) (hpart : entry.2 = .price)
    (entries : List (Match × NumberPart)) (hentries : ∀ e ∈ entries, e ∈ w.located 0 parts)
    (found : Bool) :
    lotCandidates (quantityNumberSpans (w.line parts)) w.price
      (some (priceTokenOf entry.1 w.price)) found (entries.map Prod.fst) =
        lotsRead w.price found (entries.map Prod.snd) := by
  induction entries generalizing found with
  | nil => rfl
  | cons e rest ih =>
    have he := hentries e List.mem_cons_self
    have hrest : ∀ e ∈ rest, e ∈ w.located 0 parts := fun e' he' =>
      hentries e' (List.mem_cons_of_mem e he')
    have hspan := span_mem_quantityNumberSpans he
    have htoken : (some (priceTokenOf entry.1 w.price)).map PriceToken.span = some e.1.span ↔
        e.2 = .price := by
      rw [Option.map_some, Option.some.injEq]
      constructor
      · intro hsame
        rw [← located_injective hentry he hsame]
        exact hpart
      · intro hprice
        rw [eq_of_located h.one_price he hentry hprice hpart]
        rfl
    rw [List.map_cons, List.map_cons, lotCandidates]
    cases hcase : e.2 with
    | quantity => rw [if_pos (hspan.mpr hcase), lotsRead, ih hrest]
    | price =>
      rw [if_neg (fun hmem => by rw [hspan, hcase] at hmem; cases hmem),
        if_pos (htoken.mpr hcase), lotsRead, ih hrest]
    | lot size =>
      have hsize : size < 100 := by
        apply h.lot_digits size
        rw [← hcase, ← @located_parts w parts 0]
        exact List.mem_map_of_mem he
      have htext : e.1.text = numeral size := by
        rw [located_text he, hcase]
        rfl
      have htwo : (numeral size).length ≤ 2 := (length_numeral_le_iff (by decide)).mpr hsize
      have hone : 0 < (numeral size).length := List.length_pos_of_ne_nil numeral_ne_nil
      have hlong : (numeral size).length ∉ [5, 6] := by
        simp only [List.mem_cons, List.not_mem_nil, or_false]
        omega
      have hshort : (numeral size).length ∈ [1, 2] := by
        simp only [List.mem_cons, List.not_mem_nil, or_false]
        omega
      rw [if_neg (fun hmem => by rw [hspan, hcase] at hmem; cases hmem),
        if_neg (fun hmem => by rw [htoken, hcase] at hmem; cases hmem), htext, lotsRead]
      have htoken' := inferredShortToken_iff h.price_digits.2 size
      by_cases htwin : found = false ∧ w.price % 1000 = 0 ∧ size = w.price / 1000
      · rw [if_pos ⟨htwin.1, .inr (htoken'.mpr htwin.2)⟩, if_pos htwin, ih hrest]
      · have hneither : ¬ (found = false ∧ ((numeral size).length ∈ [5, 6] ∧
            numberOf (numeral size) = w.price ∨
              inferredShortToken (w.price : Int) = some (numeral size))) := by
          rintro ⟨hfound, hfull | hinferred⟩
          · exact hlong hfull.1
          · exact htwin ⟨hfound, htoken'.mp hinferred⟩
        rw [if_neg hneither, if_neg htwin, if_pos hshort, numberOf_numeral, ih hrest]

theorem length_of_accepted {settings : TradingSettings} {total : Int} {lots kept : List Int}
    (h : validateLotSizes settings total lots = .accepted kept) :
    lots.length ≤ settings.lotMaxCount := by
  unfold validateLotSizes at h
  split at h
  · cases h
  · omega

/-- `extract_lot_sizes` reads the lots as written exactly when none in front of the price is its
twin. -/
theorem extractLotSizes_line_iff (h : WrittenParts w parts) (settings : TradingSettings)
    (hlots : writtenLots parts = [] ∨
      validateLotSizes settings w.quantity (writtenLots parts) = .accepted (writtenLots parts))
    {entry : Match × NumberPart} (hentry : entry ∈ w.located 0 parts) (hpart : entry.2 = .price) :
    extractLotSizes settings (w.line parts) w.quantity w.price
        (some (priceTokenOf entry.1 w.price)) =
      .ok (if writtenLots parts = [] then none else some (writtenLots parts)) ↔
        ¬ PriceTwin w.price parts := by
  have hcandidates := lotCandidates_located h hentry hpart (w.located 0 parts) (fun _ he => he)
    false
  rw [located_parts] at hcandidates
  unfold extractLotSizes
  rw [finditer_number, hcandidates]
  dsimp only
  constructor
  · intro hread htwin
    have hsum := sum_lotsRead_of_twin htwin
    have hpositive : 10 ≤ w.price / 1000 := by
      have hdigits := h.price_digits
      omega
    have hne : writtenLots parts ≠ [] :=
      List.ne_nil_of_mem (mem_writtenLots ((List.takeWhile_prefix _).subset htwin.2))
    rw [if_neg hne] at hread
    split at hread
    · cases hread
    split at hread
    · cases hread
    split at hread
    · cases hread
    split at hread
    · cases hread
    rw [Except.ok.injEq, Option.some.injEq] at hread
    rw [hread] at hsum
    omega
  · intro htwin
    rw [lotsRead_of_not_twin htwin]
    by_cases hnil : writtenLots parts = []
    · rw [if_pos hnil, if_pos hnil]
    · have haccepted := hlots.resolve_left hnil
      obtain ⟨-, hmin, hsum⟩ := validateLotSizes_accepted haccepted
      have hcount := length_of_accepted haccepted
      have hfind : (writtenLots parts).find? (fun lot => lot < settings.lotMinSize) = none := by
        rw [List.find?_eq_none]
        intro lot hlot
        have hle := hmin lot hlot
        simpa using hle
      rw [if_neg hnil, if_neg hnil, if_neg (Nat.not_lt.mpr hcount), hfind]
      dsimp only
      rw [if_neg (not_not.mpr hsum)]

end Lots

end TradingBot.OfferParser
