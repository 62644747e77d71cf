import TradingBot.Misc.Regex
import TradingBot.Offer.LotAgreement
import TradingBot.Trades.History

/-!
# The parser of offer texts

`bot/utils/offer_parser.py`: an offer is one line, its parts in any order: the side with the
settlement, the quantity with its unit, the price, the lots, and the name of the commodity. The
numbers are told apart by their digits and by each other.

Texts are lists of characters. The search for the commodity, which reads the catalogue, is a
parameter.
-/

namespace TradingBot.OfferParser

open TradingBot.Misc TradingBot.Trades

variable (text : List Char)

/-- `text.split()`. -/
def splitWords : List (List Char) :=
  (text.splitOnP isPySpace).filter (· ≠ [])

/-- `' '.join(words)`. -/
def joinBlank (words : List (List Char)) : List Char := List.intercalate [' '] words

/-- `text.strip()`. -/
def stripBlank : List Char :=
  ((text.dropWhile isPySpace).reverse.dropWhile isPySpace).reverse

def normalizeDigit (c : Char) : Char :=
  if 0x6f0 ≤ c.toNat ∧ c.toNat ≤ 0x6f9 then Char.ofNat (c.toNat - 0x6f0 + 48)
  else if 0x660 ≤ c.toNat ∧ c.toNat ≤ 0x669 then Char.ofNat (c.toNat - 0x660 + 48)
  else c

def normalizeDigits : List Char := text.map normalizeDigit

/-- The class `[\u0600-\u06FF]`. -/
def isArabic (c : Char) : Bool := 0x600 ≤ c.toNat && c.toNat ≤ 0x6ff

def zeroWidthNonJoiner : Char := Char.ofNat 0x200c

/-- The class `[\u0600-\u06FF\u200c]`. -/
def isWordChar (c : Char) : Bool := isArabic c || c = zeroWidthNonJoiner

/-- The class `[\s\u200c]`. -/
def isSeparator (c : Char) : Bool := isPySpace c || c = zeroWidthNonJoiner

def isLetter (c : Char) : Bool := 0x622 ≤ c.toNat && c.toNat ≤ 0x6cc

def isAllowed (c : Char) : Bool :=
  isWordChar c || isPySpace c || (48 ≤ c.toNat && c.toNat ≤ 57) || c ∈ ['-', '/', ',', '.']

def validateCharacters : Option String :=
  if text ≠ [] ∧ text.all isAllowed then none
  else
    match text.find? fun c => !isAllowed c with
    | some c => some ("کاراکتر غیرمجاز: «" ++ String.ofList [c] ++ "»")
    | none => some "کاراکتر غیرمجاز در متن"

def normalizeCommodityPhrase : List Char :=
  joinBlank (splitWords (text.map fun c => if c = zeroWidthNonJoiner then ' ' else c))

def standalone (p : Char → Bool) (core : Regex) : GroupPattern :=
  { group := .seq (.notBehind p) (.seq core (.notAhead p)) }

def literal (text : String) : Regex := .lit text.toList

/-- `LOW_DATE_MARKER_PATTERN`. -/
def lowDateMarkerPattern : GroupPattern := standalone isArabic (literal "پ")

/-- `PACK_MARKER_PATTERN`. -/
def packMarkerPattern : GroupPattern := standalone isArabic (literal "پک")

def extractLowDateHint : Except String (List Char × Bool) :=
  match lowDateMarkerPattern.finditer text with
  | [] => .ok (text, false)
  | [marker] =>
    .ok (normalizeCommodityPhrase (text.take marker.start ++ ' ' :: text.drop marker.stop), true)
  | _ => .error "❌ نشانگر «پ» فقط یک بار در لفظ مجاز است"

def extractPackHint : Except String Bool :=
  match packMarkerPattern.finditer text with
  | [] => .ok false
  | [_] => .ok true
  | _ => .error "❌ عبارت «پک» فقط یک بار در لفظ مجاز است"

def extractTradeType : Except String (Option OfferType) :=
  let buyCount := ((standalone isLetter (literal "خ")).finditer text).length +
    (GroupPattern.finditer { group := literal "خرید" } text).length
  let sellCount := ((standalone isLetter (literal "ف")).finditer text).length +
    (GroupPattern.finditer { group := literal "فروش" } text).length
  if buyCount + sellCount = 0 then .ok none
  else if 1 < buyCount + sellCount then
    if 1 < buyCount then .error "❌ چندین نشانگر خرید در لفظ وجود دارد"
    else if 1 < sellCount then .error "❌ چندین نشانگر فروش در لفظ وجود دارد"
    else .error "❌ هم نشانگر خرید و هم فروش در لفظ وجود دارد"
  else if buyCount = 1 then .ok (some .buy)
  else .ok (some .sell)

structure ContextMatch where
  start : Nat
  stop : Nat
  tradeType : OfferType
  settlementType : SettlementType
  deriving DecidableEq, Repr

/-- `(?:فردا|فردایی)`. -/
def tomorrowWord : Regex := .alt (literal "فردا") (literal "فردایی")

def sideThen (side : String) (settlement : Regex) : GroupPattern :=
  standalone isWordChar (.seq (literal side) (.seq (.star isSeparator) settlement))

/-- `OFFER_CONTEXT_PATTERNS`. -/
def offerContextPatterns : List (GroupPattern × OfferType × SettlementType) :=
  [(sideThen "خرید" tomorrowWord, .buy, .tomorrow),
    (sideThen "فروش" tomorrowWord, .sell, .tomorrow),
    (sideThen "خ" (literal "ف"), .buy, .tomorrow),
    (sideThen "ف" (literal "ف"), .sell, .tomorrow),
    (standalone isWordChar (literal "خرید"), .buy, .cash),
    (standalone isWordChar (literal "فروش"), .sell, .cash),
    (standalone isWordChar (literal "خ"), .buy, .cash),
    (standalone isWordChar (literal "ف"), .sell, .cash)]

/-- `RESIDUAL_SETTLEMENT_PATTERN`. -/
def residualSettlementPattern : GroupPattern :=
  { group := .seq (.notBehind fun c => !isPySpace c) (.seq
      (.alt (literal "نقد") (.alt (literal "فردا") (.alt (literal "فردایی") (literal "ن"))))
      (.aheadOrEnd isPySpace)) }

def ContextMatch.overlaps (first second : ContextMatch) : Bool :=
  first.start < second.stop && second.start < first.stop

def addMatches (found new : List ContextMatch) : List ContextMatch :=
  new.foldl (fun found m => if found.any m.overlaps then found else found ++ [m]) found

def mergeMatches (matches_ : List (List Match × OfferType × SettlementType)) :
    List ContextMatch :=
  matches_.foldl (fun found entry =>
    addMatches found (entry.1.map fun m => ⟨m.start, m.stop, entry.2.1, entry.2.2⟩)) []

def findOfferContextMatches : List ContextMatch :=
  let found := mergeMatches (offerContextPatterns.map fun entry =>
    (entry.1.finditer text, entry.2))
  found.insertionSort fun first second => first.start ≤ second.start

inductive OfferContext where
  | notAnOffer
  | invalid (message : String)
  | found (tradeType : OfferType) (settlementType : SettlementType) (remainingText : List Char)
  deriving DecidableEq, Repr

def extractOfferContext : OfferContext :=
  let normalizedText := joinBlank (splitWords text)
  match findOfferContextMatches normalizedText with
  | [] =>
    match extractTradeType normalizedText with
    | .ok none => .notAnOffer
    | _ => .invalid ("❌ نوع معامله و تسویه نامعتبر است. از «خ»، «ف»، «خ ف»، «ف ف» " ++
        "یا معادل کامل آن‌ها به‌صورت یک بلوک استفاده کنید")
  | [block] =>
    let remainingText := joinBlank (splitWords
      (normalizedText.take block.start ++ ' ' :: normalizedText.drop block.stop))
    match extractTradeType remainingText with
    | .ok none =>
      if residualSettlementPattern.finditer remainingText ≠ [] then
        .invalid "❌ نشانگر تسویه فقط داخل بلوک نوع معامله و تسویه مجاز است"
      else .found block.tradeType block.settlementType remainingText
    | _ => .invalid "❌ نشانگر خرید یا فروش فقط داخل بلوک نوع معامله و تسویه مجاز است"
  | _ => .invalid "❌ نوع معامله و تسویه فقط یک بار در لفظ مجاز است"

/-! ## The numbers -/

/-- `int(text)` of a run of digits. -/
def numberOf (digits : List Char) : Int := digitsNumber digits

/-- `\d+`. -/
def numberPattern : GroupPattern := { group := .plus isDecimalDigit }

/-- `(\d+)\s*(?:تا|عدد)`. -/
def quantityPattern : GroupPattern :=
  { group := .plus isDecimalDigit
    rest := .seq (.star isPySpace) (.alt (literal "تا") (literal "عدد")) }

def extractQuantity : Except String Int :=
  match quantityPattern.finditer text with
  | [] => .error "❌ تعداد کالا یافت نشد. فرمت صحیح: 30تا یا 30 عدد"
  | [quantity] => .ok (numberOf quantity.text)
  | _ => .error "❌ چندین تعداد در لفظ وجود دارد"

def quantityNumberSpans : List (Nat × Nat) :=
  (quantityPattern.finditer text).map Match.span

/-- `validate_price` (trade_service.py:441): accepted, or the message. -/
def validatePrice (price : NumberInput) : Except String Unit :=
  match ensureInt price with
  | none => .error "❌ price باید یک عدد صحیح باشد"
  | some price =>
    if price ≤ 0 then .error "❌ قیمت باید بزرگ‌تر از صفر باشد."
    else if (toString price).length ∉ [5, 6] then
      .error "❌ قیمت باید 5 یا 6 رقم باشد (مثال: 75800 یا 758000)"
    else .ok ()

def fourDigitPriceMessage : String :=
  "❌ قیمت چهاررقمی کوتاه‌شده معتبر نیست؛ قیمت کامل را وارد کنید " ++ "(مثال: 187600)."

/-- `normalize_offer_price_input` (trade_service.py:466). -/
def normalizeOfferPriceInput (price : NumberInput) : Except String Int :=
  match ensureInt price with
  | none => .error "❌ price باید یک عدد صحیح باشد"
  | some price =>
    if price ≤ 0 then .error "❌ قیمت باید بزرگ‌تر از صفر باشد."
    else if (toString price).length = 4 then .error fourDigitPriceMessage
    else
      let normalized := if (toString price).length ≤ 3 then price * 1000 else price
      (validatePrice (.int normalized)).map fun _ => normalized

/-- `_PriceToken`. -/
structure PriceToken where
  raw : List Char
  normalized : Int
  start : Nat
  stop : Nat
  deriving DecidableEq, Repr

def PriceToken.span (token : PriceToken) : Nat × Nat := (token.start, token.stop)

def priceTokenOf (m : Match) (normalized : Int) : PriceToken :=
  ⟨m.text, normalized, m.start, m.stop⟩

def textInput (digits : List Char) : NumberInput := .text (String.ofList digits)

def remainingTokensFormValidLotShape (settings : TradingSettings) (tokens : List Match)
    (candidateIndex : Nat) (quantity : Option Int) (packHint : Bool) : Bool :=
  let remaining := (tokens.eraseIdx candidateIndex).map Match.text
  match quantity with
  | none => remaining.isEmpty
  | some quantity =>
    if packHint then remaining.isEmpty
    else if remaining.isEmpty then true
    else if remaining.any fun value => value.length ∉ [1, 2] then false
    else
      let lots := remaining.map numberOf
      lots.length ≤ settings.lotMaxCount && lots.all (fun lot => settings.lotMinSize ≤ lot) &&
        lots.sum = quantity

def priceTokens : List Match :=
  (numberPattern.finditer text).filter fun m => m.span ∉ quantityNumberSpans text

def extractPriceToken (settings : TradingSettings) (text : List Char) (quantity : Option Int)
    (packHint : Bool) : Except String PriceToken :=
  let tokens := priceTokens text
  let fullPriceTokens := (tokens.filter fun m => (validatePrice (textInput m.text)).isOk).map
    fun m => priceTokenOf m (numberOf m.text)
  match fullPriceTokens with
  | [token] => .ok token
  | _ :: _ :: _ => .error "❌ چندین قیمت در لفظ وجود دارد (فقط یک قیمت مجاز است)"
  | [] =>
    let shortCandidates := tokens.zipIdx.filterMap fun (m, index) =>
      if 3 < m.text.length then none
      else
        match normalizeOfferPriceInput (textInput m.text) with
        | .error _ => none
        | .ok normalized =>
          if remainingTokensFormValidLotShape settings tokens index quantity packHint then
            some (priceTokenOf m normalized)
          else none
    match shortCandidates with
    | token :: rest =>
      if rest.any fun other => other.normalized ≠ token.normalized then
        .error "❌ چندین قیمت کوتاه معتبر در لفظ وجود دارد؛ قیمت را کامل بنویسید"
      else .ok token
    | [] =>
      if tokens.any fun m => m.text.length = 4 then .error fourDigitPriceMessage
      else .error ("❌ قیمت یافت نشد؛ قیمت را کامل (۵ یا ۶ رقم) یا با حذف سه صفر " ++
        "(حداکثر ۳ رقم) بنویسید")

/-- `inferred_short_token`: the price without its three zeros, if that is short. -/
def inferredShortToken (price : Int) : Option (List Char) :=
  if price % 1000 = 0 ∧ (toString (price / 1000)).length ≤ 3 then
    some (toString (price / 1000)).toList
  else none

/-- The loop of `extract_lot_sizes`: the price is left out once, where it is first recognised. -/
def lotCandidates (quantitySpans : List (Nat × Nat)) (price : Int)
    (priceToken : Option PriceToken) : Bool → List Match → List Int
  | _, [] => []
  | priceFound, m :: rest =>
    if m.span ∈ quantitySpans then lotCandidates quantitySpans price priceToken priceFound rest
    else if priceToken.map PriceToken.span = some m.span then
      lotCandidates quantitySpans price priceToken true rest
    else if priceFound = false ∧ ((m.text.length ∈ [5, 6] ∧ numberOf m.text = price) ∨
        inferredShortToken price = some m.text) then
      lotCandidates quantitySpans price priceToken true rest
    else if m.text.length ∈ [1, 2] then
      numberOf m.text :: lotCandidates quantitySpans price priceToken priceFound rest
    else lotCandidates quantitySpans price priceToken priceFound rest

def extractLotSizes (settings : TradingSettings) (text : List Char) (quantity price : Int)
    (priceToken : Option PriceToken) : Except String (Option (List Int)) :=
  let candidates := lotCandidates (quantityNumberSpans text) price priceToken false
    (numberPattern.finditer text)
  if candidates = [] then .ok none
  else if settings.lotMaxCount < candidates.length then
    .error ("❌ حداکثر " ++ toString settings.lotMaxCount ++ " بخش مجاز است (تعداد فعلی: " ++
      toString candidates.length ++ ")")
  else
    match candidates.find? fun lot => lot < settings.lotMinSize with
    | some lot =>
      .error ("❌ حداقل تعداد باید " ++ toString settings.lotMinSize ++ " باشد (بخش نامعتبر: " ++
        toString lot ++ ")")
    | none =>
      if candidates.sum ≠ quantity then
        .error ("❌ جمع بخش‌ها (" ++ toString candidates.sum ++ ") با تعداد کل (" ++
          toString quantity ++ ") برابر نیست")
      else .ok (some candidates)

def packHasExtraNumericParts (priceToken : PriceToken) : Bool :=
  (numberPattern.finditer text).any fun m =>
    m.span ∉ quantityNumberSpans text ∧ m.span ≠ priceToken.span

/-! ## The offer -/

/-- What the catalogue knows of a text: `find_commodity` with its resolution. -/
structure CommodityMatch where
  commodityId : Option Nat
  commodityName : Option String
  resolution : String
  deriving DecidableEq, Repr

/-- `ParsedOffer`. -/
structure ParsedOffer where
  tradeType : OfferType
  commodityId : Option Nat
  commodityName : Option String
  quantity : Int
  price : Int
  isWholesale : Bool
  lotSizes : Option (List Int)
  notes : Option (List Char)
  settlementType : SettlementType
  commodityResolution : String
  lowDateHint : Bool
  packHint : Bool
  deriving DecidableEq, Repr

/-- What `parse_offer_text` returns: nothing, an error or an offer. -/
inductive ParseResult where
  | notAnOffer
  | error (message : String)
  | offer (parsed : ParsedOffer)
  deriving DecidableEq, Repr

def ParseResult.ofExcept : Except String ParsedOffer → ParseResult
  | .error message => .error message
  | .ok parsed => .offer parsed

/-- `PACK_QUANTITY`. -/
def packQuantity : Int := 100

/-- `PACK_OFFER_SHAPE_ERROR`. -/
def packOfferShapeError : String := "آفر پک فقط یکجا و با تعداد ۱۰۰ ثبت می‌شود."

def splitNotes : Except String (List Char × Option (List Char)) :=
  if ':' ∈ text then
    let notes := stripBlank ((text.dropWhile (· ≠ ':')).drop 1)
    if 200 < notes.length then .error "❌ توضیحات نباید بیش از 200 کاراکتر باشد"
    else .ok (stripBlank (text.takeWhile (· ≠ ':')), if notes = [] then none else some notes)
  else .ok (text, none)

def offerQuantity (settings : TradingSettings) (text : List Char) (packHint : Bool) :
    Except String Int :=
  let read := extractQuantity text
  let read := if packHint then
      match read with
      | .error message =>
        if pyContains "تعداد کالا یافت نشد" message then .ok packQuantity else .error message
      | .ok quantity => .ok quantity
    else read
  read >>= fun quantity =>
  if packHint then
    if quantity ≠ packQuantity then .error packOfferShapeError else .ok quantity
  else if quantity < settings.offerMinQuantity then
    .error ("❌ حداقل تعداد باید " ++ toString settings.offerMinQuantity ++ " باشد")
  else if settings.offerMaxQuantity < quantity then
    .error ("❌ حداکثر تعداد می‌تواند " ++ toString settings.offerMaxQuantity ++ " باشد")
  else .ok quantity

def offerLots (settings : TradingSettings) (text : List Char) (quantity : Int)
    (priceToken : PriceToken) (packHint : Bool) : Except String (Option (List Int)) :=
  if packHint then
    if packHasExtraNumericParts text priceToken then .error packOfferShapeError else .ok none
  else extractLotSizes settings text quantity priceToken.normalized (some priceToken)

def offerCommodity (findCommodity : List Char → CommodityMatch) (text commodityText : List Char)
    (lowDateHint packHint : Bool) : CommodityMatch :=
  if packHint then ⟨none, none, "PACK_HINT"⟩
  else
    let found := findCommodity commodityText
    if lowDateHint then
      let raw := findCommodity text
      if raw.resolution = "EXPLICIT" ∧ raw.commodityId ≠ none ∧
          raw.commodityId ≠ found.commodityId then
        ⟨raw.commodityId, raw.commodityName, "EXPLICIT"⟩
      else ⟨none, none, "LOW_DATE_HINT"⟩
    else found

def parseRemaining (settings : TradingSettings) (findCommodity : List Char → CommodityMatch)
    (notes : Option (List Char)) (tradeType : OfferType) (settlementType : SettlementType)
    (text : List Char) : Except String ParsedOffer :=
  extractPackHint text >>= fun packHint =>
  offerQuantity settings text packHint >>= fun quantity =>
  extractPriceToken settings text (some quantity) packHint >>= fun priceToken =>
  offerLots settings text quantity priceToken packHint >>= fun lotSizes =>
  extractLowDateHint text >>= fun (commodityText, lowDateHint) =>
  if packHint && lowDateHint then
    .error "❌ نشانگر تاریخ پایین برای آفر پک مجاز نیست"
  else
    let commodity := offerCommodity findCommodity text commodityText lowDateHint packHint
    .ok
      { tradeType := tradeType
        commodityId := commodity.commodityId
        commodityName := commodity.commodityName
        quantity := quantity
        price := priceToken.normalized
        isWholesale := lotSizes.isNone
        lotSizes := lotSizes
        notes := notes
        settlementType := settlementType
        commodityResolution := commodity.resolution
        lowDateHint := lowDateHint
        packHint := packHint }

def parseOfferText (settings : TradingSettings) (findCommodity : List Char → CommodityMatch)
    (text : String) : ParseResult :=
  match splitNotes text.toList with
  | .error message => .error message
  | .ok (offerText, notes) =>
    let offerText := normalizeDigits offerText
    match extractOfferContext offerText with
    | .notAnOffer => .notAnOffer
    | context =>
      match validateCharacters offerText with
      | some message => .error message
      | none =>
        match context with
        | .notAnOffer => .notAnOffer
        | .invalid message => .error message
        | .found tradeType settlementType remainingText =>
          .ofExcept (parseRemaining settings findCommodity notes tradeType settlementType
            remainingText)

end TradingBot.OfferParser
