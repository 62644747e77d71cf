import TradingBot.Trades.History
import Mathlib.Algebra.Ring.Int.Defs

/-!
# Following the cursors of the trade history

A client that starts without a cursor and follows every cursor is told each matching trade exactly
once, from the newest on, whatever newer trades are stored meanwhile, as long as the cursors are no
longer than the endpoint admits. That depends on the filters and on the trade a cursor names: a
search takes up to twelve characters for one of its own, before base64.
-/

namespace TradingBot.Trades

open TradingBot TradingBot.Misc

section Cursor

variable (ownerUserId : Nat) (filters : HistoryFilters) (trade : HistoryTrade)

def mySignature (ownerUserId : Nat) (filters : HistoryFilters) : List (String × Json) :=
  tradeHistoryFilterSignature "my" ownerUserId none filters

theorem plain_mySignature : Json.Plain (.obj (mySignature ownerUserId filters)) := by
  refine .obj _ ?_
  simp only [mySignature, tradeHistoryFilterSignature, List.forall_mem_cons]
  exact ⟨.int _, .str _, .str _, .str _, .str _, .int _, .str _, .str _, .int _, nofun⟩

theorem plain_cursorPayload :
    Json.Plain (cursorPayload trade (mySignature ownerUserId filters)) := by
  refine .obj _ ?_
  simp only [List.forall_mem_cons]
  exact ⟨.str _, plain_mySignature ownerUserId filters, .int _, .int _, nofun⟩

theorem cursorPosition_payload (expected : List (String × Json)) (signature : List (String × Json)) :
    cursorPosition
      [("created_at", .str (String.ofList trade.createdAt.isoformat)), ("filters", .obj signature),
        ("id", .int trade.id), ("v", .int 1)] expected =
      if jsonDictEq signature expected = true then some (trade.createdAt, trade.id) else none := by
  have hpositive : (0 : Int) < (trade.id : Int) := Int.natCast_pos.mpr trade.idPos
  have htime : DateTime.fromisoformat (String.ofList trade.createdAt.isoformat).toList =
      some trade.createdAt := by
    rw [String.toList_ofList, DateTime.fromisoformat_isoformat]
  generalize String.ofList trade.createdAt.isoformat = text at htime ⊢
  by_cases hsame : jsonDictEq signature expected = true
  · rw [if_pos hsame]
    simp [cursorPosition, Json.member?, jsonEq, trade.idPos, hsame, htime]
  · rw [if_neg hsame]
    simp [cursorPosition, Json.member?, hsame]

theorem decode_encodeTradeHistoryCursor (expected : List (String × Json)) :
    decodeTradeHistoryCursor (encodeTradeHistoryCursor trade (mySignature ownerUserId filters))
        expected =
      if jsonDictEq (mySignature ownerUserId filters) expected = true then
        .ok (trade.createdAt, trade.id)
      else .error (.badRequest historyCursorDetail) := by
  have hread : (Base64.decodeText (encodeTradeHistoryCursor trade
      (mySignature ownerUserId filters))).bind Json.read =
      some (cursorPayload trade (mySignature ownerUserId filters)) := by
    rw [encodeTradeHistoryCursor, Base64.decodeText_encodeText, Option.bind_some,
      Json.read_write (plain_cursorPayload ownerUserId filters trade)]
  generalize mySignature ownerUserId filters = signature at hread ⊢
  unfold decodeTradeHistoryCursor
  rw [hread, cursorPayload]
  dsimp only
  rw [cursorPosition_payload]
  split_ifs <;> rfl

end Cursor

def SameFilters (filters filters' : HistoryFilters) : Prop :=
  filters.fromDate = filters'.fromDate ∧ filters.toDate = filters'.toDate ∧
    filters.commodityId = filters'.commodityId ∧
    normalizeHistoryCommodityQuery filters.commodityQuery =
      normalizeHistoryCommodityQuery filters'.commodityQuery ∧
    filters.settlementType = filters'.settlementType ∧ filters.tradeType = filters'.tradeType

theorem dateText_injective {first second : Option Date} (h : dateText first = dateText second) :
    first = second := by
  have hne : ∀ date : Date, String.ofList date.isoformat ≠ "" := by
    intro date hempty
    have hlength := congrArg String.length hempty
    rw [String.length_ofList, Date.length_isoformat] at hlength
    cases hlength
  cases first with
  | none =>
    cases second with
    | none => rfl
    | some second => exact absurd h.symm (hne second)
  | some first =>
    cases second with
    | none => exact absurd h (hne first)
    | some second =>
      have hlist := congrArg String.toList h
      rw [dateText, dateText, String.toList_ofList, String.toList_ofList] at hlist
      rw [Date.isoformat_injective hlist]

theorem eq_of_getD_eq {α : Type} {first second : Option α} {default : α}
    (hfirst : first ≠ some default) (hsecond : second ≠ some default)
    (h : first.getD default = second.getD default) : first = second := by
  cases first with
  | none =>
    cases second with
    | none => rfl
    | some second => exact absurd (congrArg some h.symm) hsecond
  | some first =>
    cases second with
    | none => exact absurd (congrArg some h) hfirst
    | some second => exact congrArg some h

theorem normalizeHistoryCommodityQuery_ne (query : Option String) :
    normalizeHistoryCommodityQuery query ≠ some "" := by
  unfold normalizeHistoryCommodityQuery
  split
  · exact nofun
  · split
    · exact nofun
    · rename_i hne
      exact fun hsome => hne (Option.some.inj hsome)

theorem commodityId_ne (filters : HistoryFilters) : filters.commodityId ≠ some 0 := by
  intro hzero
  exact absurd (filters.commodityPos 0 hzero) (by decide)

theorem settlementValue_injective {first second : Option SettlementType}
    (h : (first.map (·.value)).getD "" = (second.map (·.value)).getD "") : first = second := by
  rcases first with _ | (_ | _) <;> rcases second with _ | (_ | _) <;>
    first | rfl | exact absurd h (by decide)

theorem tradeTypeValue_injective {first second : Option OfferType}
    (h : (first.map tradeTypeValue).getD "" = (second.map tradeTypeValue).getD "") :
    first = second := by
  rcases first with _ | (_ | _) <;> rcases second with _ | (_ | _) <;>
    first | rfl | exact absurd h (by decide)

/-- A cursor fits the requests of its owner with its filters, and no other. -/
theorem jsonDictEq_mySignature {ownerUserId ownerUserId' : Nat} {filters filters' : HistoryFilters} :
    jsonDictEq (mySignature ownerUserId filters) (mySignature ownerUserId' filters') = true ↔
      ownerUserId = ownerUserId' ∧ SameFilters filters filters' := by
  have hvalues : jsonDictEq (mySignature ownerUserId filters)
      (mySignature ownerUserId' filters') = true ↔
      (filters.commodityId.getD 0 = filters'.commodityId.getD 0 ∧
        (normalizeHistoryCommodityQuery filters.commodityQuery).getD "" =
          (normalizeHistoryCommodityQuery filters'.commodityQuery).getD "" ∧
        dateText filters.fromDate = dateText filters'.fromDate ∧
        (filters.settlementType.map (·.value)).getD "" =
          (filters'.settlementType.map (·.value)).getD "" ∧
        dateText filters.toDate = dateText filters'.toDate ∧
        (filters.tradeType.map tradeTypeValue).getD "" =
          (filters'.tradeType.map tradeTypeValue).getD "" ∧
        ownerUserId = ownerUserId') := by
    simp [jsonDictEq, mySignature, tradeHistoryFilterSignature, Json.member?, jsonEq]
  rw [hvalues]
  constructor
  · rintro ⟨hcommodity, hquery, hfrom, hsettlement, hto, htype, howner⟩
    refine ⟨howner, dateText_injective hfrom, dateText_injective hto, ?_, ?_,
      settlementValue_injective hsettlement, tradeTypeValue_injective htype⟩
    · exact eq_of_getD_eq (commodityId_ne filters) (commodityId_ne filters') hcommodity
    · exact eq_of_getD_eq (normalizeHistoryCommodityQuery_ne _)
        (normalizeHistoryCommodityQuery_ne _) hquery
  · rintro ⟨howner, hfrom, hto, hcommodity, hquery, hsettlement, htype⟩
    rw [hfrom, hto, hcommodity, hquery, hsettlement, htype]
    exact ⟨rfl, rfl, rfl, rfl, rfl, rfl, howner⟩

def textWidth (text : String) : Nat := (text.toList.map Json.charWidth).sum

def digitCount (n : Nat) : Nat := (Nat.toDigits 10 n).length

def dateWidth (date : Option Date) : Nat := if date.isSome then 10 else 0

def payloadSize (ownerUserId : Nat) (filters : HistoryFilters) (trade : HistoryTrade) : Nat :=
  199 + (if trade.createdAt.microsecond = 0 then 25 else 32) + digitCount trade.id +
    digitCount ownerUserId + digitCount (filters.commodityId.getD 0) +
    textWidth ((normalizeHistoryCommodityQuery filters.commodityQuery).getD "") +
    dateWidth filters.fromDate + dateWidth filters.toDate +
    ((filters.settlementType.map (·.value)).getD "").length +
    ((filters.tradeType.map tradeTypeValue).getD "").length

theorem charWidth_digit {c : Char} (h : c.isDigit = true) : Json.charWidth c = 1 := by
  rw [Char.isDigit, Bool.and_eq_true, decide_eq_true_iff, decide_eq_true_iff] at h
  have hfrom : 48 ≤ c.toNat := h.1
  have huntil : c.toNat ≤ 57 := h.2
  have hplain : c ∉ ['\x22', '\\', '\n', '\r', '\t', '\x08', '\x0c'] := by
    intro hmem
    simp only [List.mem_cons, List.not_mem_nil, or_false] at hmem
    rcases hmem with rfl | rfl | rfl | rfl | rfl | rfl | rfl <;> revert hfrom huntil <;> decide
  rw [Json.charWidth, if_neg hplain, if_pos ⟨by omega, by omega⟩]

theorem sum_charWidth_of_one {text : List Char} (h : ∀ c ∈ text, Json.charWidth c = 1) :
    (text.map Json.charWidth).sum = text.length := by
  rw [List.map_congr_left h]
  simp

theorem charWidth_padDigits {width n : Nat} : ∀ c ∈ padDigits width n, Json.charWidth c = 1 :=
  fun _ hc => charWidth_digit (isDigit_of_mem_padDigits hc)

theorem charWidth_date (date : Date) : ∀ c ∈ date.isoformat, Json.charWidth c = 1 := by
  simp only [Date.isoformat, List.forall_mem_append, List.forall_mem_cons]
  exact ⟨⟨charWidth_padDigits, by decide, charWidth_padDigits⟩, by decide, charWidth_padDigits⟩

theorem textWidth_dateText (date : Option Date) : textWidth (dateText date) = dateWidth date := by
  cases date with
  | none => rfl
  | some date =>
    rw [textWidth, dateText, String.toList_ofList, sum_charWidth_of_one (charWidth_date date),
      Date.length_isoformat]
    rfl

theorem textWidth_isoformat (time : DateTime) :
    textWidth (String.ofList time.isoformat) = if time.microsecond = 0 then 25 else 32 := by
  have hwidth : ∀ c ∈ time.isoformat, Json.charWidth c = 1 := by
    simp only [DateTime.isoformat, List.forall_mem_append, List.forall_mem_cons]
    refine ⟨⟨⟨⟨⟨charWidth_date _, by decide, charWidth_padDigits⟩, by decide,
      charWidth_padDigits⟩, by decide, charWidth_padDigits⟩, ?_⟩, by simp [Json.charWidth]⟩
    split
    · exact List.forall_mem_nil _
    · exact List.forall_mem_cons.mpr ⟨by decide, charWidth_padDigits⟩
  rw [textWidth, String.toList_ofList, sum_charWidth_of_one hwidth]
  simp only [DateTime.isoformat, List.length_append, List.length_cons, length_padDigits,
    Date.length_isoformat]
  split <;> simp [length_padDigits]

theorem length_writeInt_natCast (n : Nat) : (Json.writeInt (n : Int)).length = digitCount n := by
  rw [Json.writeInt, if_neg (by omega), Int.natAbs_natCast]
  rfl

theorem length_settlementValue (settlement : Option SettlementType) :
    textWidth ((settlement.map (·.value)).getD "") =
      ((settlement.map (·.value)).getD "").length := by
  rcases settlement with _ | (_ | _) <;> decide

theorem length_tradeTypeValue (type : Option OfferType) :
    textWidth ((type.map tradeTypeValue).getD "") = ((type.map tradeTypeValue).getD "").length := by
  rcases type with _ | (_ | _) <;> decide

theorem length_writeString (text : String) : (Json.writeString text).length = textWidth text + 2 :=
  Json.length_writeString text

theorem length_cursorPayload (ownerUserId : Nat) (filters : HistoryFilters) (trade : HistoryTrade) :
    (cursorPayload trade (mySignature ownerUserId filters)).write.length =
      payloadSize ownerUserId filters trade := by
  have hnames : textWidth "created_at" = 10 ∧ textWidth "filters" = 7 ∧ textWidth "id" = 2 ∧
      textWidth "v" = 1 ∧ textWidth "commodity_id" = 12 ∧ textWidth "commodity_query" = 15 ∧
      textWidth "from_date" = 9 ∧ textWidth "scope" = 5 ∧ textWidth "settlement_type" = 15 ∧
      textWidth "target_user_id" = 14 ∧ textWidth "to_date" = 7 ∧ textWidth "trade_type" = 10 ∧
      textWidth "viewer_owner_user_id" = 20 ∧ textWidth "my" = 2 := by decide
  have hzero : digitCount 0 = 1 := by decide
  have hone : (Json.writeInt 1).length = 1 := by decide
  simp only [cursorPayload, mySignature, tradeHistoryFilterSignature, Json.write, Json.writeMembers,
    List.length_append, List.length_cons, List.length_nil, length_writeString,
    length_writeInt_natCast, textWidth_isoformat, textWidth_dateText, length_settlementValue,
    length_tradeTypeValue, payloadSize, Option.getD_none, hzero, hone, hnames]
  generalize (if trade.createdAt.microsecond = 0 then 25 else 32) = timeWidth
  omega

theorem length_encodeTradeHistoryCursor_le {ownerUserId : Nat} {filters : HistoryFilters}
    {trade : HistoryTrade} :
    (encodeTradeHistoryCursor trade (mySignature ownerUserId filters)).length ≤ maxCursorLength ↔
      payloadSize ownerUserId filters trade ≤ 576 := by
  rw [encodeTradeHistoryCursor, Base64.length_encodeText, Json.size_toByteArray_of_ascii
    (Json.write_ascii (plain_cursorPayload ownerUserId filters trade)), length_cursorPayload,
    maxCursorLength]
  omega

theorem length_encodeTradeHistoryCursor_pos {ownerUserId : Nat} {filters : HistoryFilters}
    {trade : HistoryTrade} :
    1 ≤ (encodeTradeHistoryCursor trade (mySignature ownerUserId filters)).length := by
  rw [encodeTradeHistoryCursor, Base64.length_encodeText, Json.size_toByteArray_of_ascii
    (Json.write_ascii (plain_cursorPayload ownerUserId filters trade)), length_cursorPayload,
    payloadSize]
  omega

/-! ## One request -/

/-- The range of dates is not reversed, and it does not end on the last date there is. -/
def AdmittedRange (filters : HistoryFilters) : Prop :=
  (∀ first last, filters.fromDate = some first → filters.toDate = some last →
    last.before first = false) ∧
  ∀ last, filters.toDate = some last → ¬ (last.year = 9999 ∧ last.month = 12 ∧ last.day = 31)

/-- The trades that the filters ask for, the newest one first. -/
def myHistory (data : HistoryData) (trades : List HistoryTrade) (ownerUserId : Nat)
    (filters : HistoryFilters) : List HistoryTrade :=
  match buildMyTradesQuery data ownerUserId filters with
  | .ok query => Keyset.largestFirst HistoryTrade.key (trades.filter query)
  | .error _ => []

def pageOf (signature : List (String × Json)) (limit : Nat) (list : List HistoryTrade) :
    HistoryPage where
  items := list.take limit
  nextCursor := if limit < list.length then
      (list.take limit).getLast?.map fun trade => encodeTradeHistoryCursor trade signature
    else none
  hasMore := limit < list.length

section Request

variable {data : HistoryData} {trades : List HistoryTrade} {ownerUserId limit : Nat}
  {filters : HistoryFilters} {query : HistoryTrade → Bool}

theorem reversedRange_eq_false_iff :
    reversedRange filters = false ↔ ∀ first last, filters.fromDate = some first →
      filters.toDate = some last → last.before first = false := by
  unfold reversedRange
  cases filters.fromDate with
  | none => exact ⟨fun _ => nofun, fun _ => rfl⟩
  | some first =>
    cases filters.toDate with
    | none => exact ⟨fun _ _ _ _ => nofun, fun _ => rfl⟩
    | some last =>
      constructor
      · rintro h first' last' hfirst hlast
        cases hfirst
        cases hlast
        exact h
      · exact fun h => h first last rfl rfl

theorem exists_query_iff :
    (∃ query, buildMyTradesQuery data ownerUserId filters = .ok query) ↔ AdmittedRange filters := by
  unfold buildMyTradesQuery AdmittedRange
  rw [← reversedRange_eq_false_iff]
  cases reversedRange filters with
  | true =>
    rw [if_pos rfl]
    exact ⟨nofun, nofun⟩
  | false =>
    rw [if_neg Bool.false_ne_true]
    unfold endOfRange
    cases filters.toDate with
    | none => exact ⟨fun _ => ⟨rfl, nofun⟩, fun _ => ⟨_, rfl⟩⟩
    | some last =>
      dsimp only
      cases hnext : last.next with
      | none =>
        refine ⟨nofun, ?_⟩
        rintro ⟨-, hend⟩
        exact absurd (Date.next_eq_none_iff.mp hnext) (hend last rfl)
      | some next =>
        refine ⟨fun _ => ⟨rfl, ?_⟩, fun _ => ⟨_, rfl⟩⟩
        intro last' hlast hend
        cases hlast
        rw [Date.next_eq_none_iff.mpr hend] at hnext
        cases hnext

theorem pageOf_take (signature : List (String × Json)) (list : List HistoryTrade) :
    HistoryPage.mk ((list.take (limit + 1)).take limit)
      (if limit < (list.take (limit + 1)).length then
        ((list.take (limit + 1)).take limit).getLast?.map fun trade =>
          encodeTradeHistoryCursor trade signature
      else none) (decide (limit < (list.take (limit + 1)).length)) =
      pageOf signature limit list := by
  have htake : (list.take (limit + 1)).take limit = list.take limit := by
    rw [List.take_take, Nat.min_eq_left (Nat.le_succ limit)]
  have hlength : limit < (list.take (limit + 1)).length ↔ limit < list.length := by
    rw [List.length_take]
    omega
  rw [htake, pageOf]
  simp only [hlength]

theorem getMyTradesPage_first (hlimit : 1 ≤ limit ∧ limit ≤ 100)
    (hquery : buildMyTradesQuery data ownerUserId filters = .ok query) :
    getMyTradesPage data trades ownerUserId filters none limit =
      .ok (pageOf (mySignature ownerUserId filters) limit
        (Keyset.largestFirst HistoryTrade.key (trades.filter query))) := by
  unfold getMyTradesPage
  have hcursor : admittedCursor none = true := rfl
  rw [if_neg (by omega), if_neg (not_not.mpr hcursor)]
  dsimp only [startPosition]
  rw [hquery]
  exact congrArg Except.ok (pageOf_take _ _)

theorem decide_key_lt (trade other : HistoryTrade) :
    (decide (other.createdAt.rank < trade.createdAt.rank) ||
      (decide (other.createdAt.rank = trade.createdAt.rank) && decide (other.id < trade.id))) =
      decide (other.key < trade.key) := by
  simp only [HistoryTrade.key, Prod.Lex.toLex_lt_toLex, Bool.decide_or, Bool.decide_and]

theorem getMyTradesPage_next (hlimit : 1 ≤ limit ∧ limit ≤ 100)
    (hquery : buildMyTradesQuery data ownerUserId filters = .ok query) {trade : HistoryTrade}
    (hfits : payloadSize ownerUserId filters trade ≤ 576) :
    getMyTradesPage data trades ownerUserId filters
        (some (encodeTradeHistoryCursor trade (mySignature ownerUserId filters))) limit =
      .ok (pageOf (mySignature ownerUserId filters) limit
        (Keyset.largestFirst HistoryTrade.key
          ((trades.filter query).filter fun other => decide (other.key < trade.key)))) := by
  have hposition := decode_encodeTradeHistoryCursor ownerUserId filters trade
    (mySignature ownerUserId filters)
  rw [if_pos (jsonDictEq_mySignature.mpr ⟨rfl, rfl, rfl, rfl, rfl, rfl, rfl⟩)] at hposition
  have hlength := length_encodeTradeHistoryCursor_le.mpr hfits
  have hpos := @length_encodeTradeHistoryCursor_pos ownerUserId filters trade
  generalize encodeTradeHistoryCursor trade (mySignature ownerUserId filters) = cursor
    at hposition hlength hpos ⊢
  have hcursor : admittedCursor (some cursor) = true := by
    rw [admittedCursor, Option.all_some, Bool.and_eq_true, decide_eq_true_iff, decide_eq_true_iff]
    exact ⟨hpos, hlength⟩
  unfold getMyTradesPage
  rw [if_neg (by omega), if_neg (not_not.mpr hcursor)]
  dsimp only [startPosition]
  rw [← mySignature, hposition]
  dsimp only [Except.map]
  rw [hquery]
  refine (congrArg Except.ok (pageOf_take _ _)).trans ?_
  simp only [decide_key_lt]

theorem getMyTradesPage_tooLong (hlimit : 1 ≤ limit ∧ limit ≤ 100) {trade : HistoryTrade}
    (hlong : ¬ payloadSize ownerUserId filters trade ≤ 576) :
    getMyTradesPage data trades ownerUserId filters
        (some (encodeTradeHistoryCursor trade (mySignature ownerUserId filters))) limit =
      .error .unprocessable := by
  have hlength := mt length_encodeTradeHistoryCursor_le.mp hlong
  generalize encodeTradeHistoryCursor trade (mySignature ownerUserId filters) = cursor
    at hlength ⊢
  have hcursor : ¬ admittedCursor (some cursor) = true := by
    rw [admittedCursor, Option.all_some, Bool.and_eq_true, decide_eq_true_iff, decide_eq_true_iff]
    exact fun h => hlength h.2
  unfold getMyTradesPage
  rw [if_neg (by omega), if_pos hcursor]

end Request

/-! ## Following the cursors -/

inductive SessionEnd where
  | finished
  | refused (error : HistoryError)
  | unfinished
  deriving DecidableEq, Repr

@[ext]
structure HistorySession where
  pages : List (List HistoryTrade)
  outcome : SessionEnd
  deriving DecidableEq, Repr

/-- A client follows the cursors, for as many requests as the fuel admits; after each the trades
that `arrivals` names are stored. -/
def followPages (data : HistoryData) (ownerUserId : Nat) (filters : HistoryFilters) (limit : Nat)
    (arrivals : Nat → List HistoryTrade) :
    Nat → List HistoryTrade → Option String → Nat → HistorySession
  | 0, _, _, _ => ⟨[], .unfinished⟩
  | fuel + 1, trades, cursor, number =>
    match getMyTradesPage data trades ownerUserId filters cursor limit with
    | .error error => ⟨[], .refused error⟩
    | .ok page =>
      match page.nextCursor with
      | none => ⟨[page.items], .finished⟩
      | some cursor =>
        let rest := followPages data ownerUserId filters limit arrivals fuel
          (trades ++ arrivals number) (some cursor) (number + 1)
        ⟨page.items :: rest.pages, rest.outcome⟩

def arrived (arrivals : Nat → List HistoryTrade) (number : Nat) : List HistoryTrade :=
  (List.range number).flatMap arrivals

/-- What is stored after a request is newer than the last trade that the request has told. -/
def NewerThanListed (limit : Nat) (history : List HistoryTrade)
    (arrivals : Nat → List HistoryTrade) : Prop :=
  ∀ number, ∀ new ∈ arrivals number, ∀ trade,
    history[limit * (number + 1) - 1]? = some trade → trade.key < new.key

/-- Every trade at the end of a page that is not the last one has a cursor that is admitted. -/
def CursorsFit (ownerUserId : Nat) (filters : HistoryFilters) (limit : Nat)
    (history : List HistoryTrade) (number : Nat) : Prop :=
  ∀ page, number ≤ page → limit * (page + 1) < history.length → ∀ trade,
    history[limit * (page + 1) - 1]? = some trade → payloadSize ownerUserId filters trade ≤ 576

section Session

variable {data : HistoryData} {trades : List HistoryTrade} {ownerUserId limit : Nat}
  {filters : HistoryFilters} {query : HistoryTrade → Bool} {arrivals : Nat → List HistoryTrade}

theorem arrived_succ (arrivals : Nat → List HistoryTrade) (number : Nat) :
    arrived arrivals (number + 1) = arrived arrivals number ++ arrivals number := by
  rw [arrived, List.range_succ, List.flatMap_append, List.flatMap_singleton]
  rfl

theorem nodup_keys {trades : List HistoryTrade} (h : (trades.map (·.id)).Nodup) :
    (trades.map HistoryTrade.key).Nodup := by
  refine List.Nodup.of_map (fun key : Nat ×ₗ Nat => (ofLex key).2) ?_
  rw [List.map_map]
  exact h

theorem largestFirst_behind_listed (hlimit : 1 ≤ limit)
    (hids : ∀ number, ((trades ++ arrived arrivals number).map (·.id)).Nodup)
    (hnewer : NewerThanListed limit (Keyset.largestFirst HistoryTrade.key (trades.filter query))
      arrivals) {number : Nat} {trade : HistoryTrade}
    (htrade : (Keyset.largestFirst HistoryTrade.key (trades.filter query))[limit * (number + 1) -
      1]? = some trade) :
    Keyset.largestFirst HistoryTrade.key (((trades ++ arrived arrivals (number + 1)).filter
        query).filter fun other => decide (other.key < trade.key)) =
      (Keyset.largestFirst HistoryTrade.key (trades.filter query)).drop (limit * (number + 1)) := by
  have hkeys := nodup_keys (hids (number + 1))
  have hnow : ((trades.filter query ++ (arrived arrivals (number + 1)).filter query).map
      HistoryTrade.key).Nodup := by
    rw [← List.filter_append]
    exact hkeys.sublist (List.filter_sublist.map _)
  have hfirst : ((trades.filter query).map HistoryTrade.key).Nodup :=
    hnow.sublist ((List.sublist_append_left _ _).map _)
  have hsorted := Keyset.pairwise_largestFirst hfirst
  have hnew : ∀ new ∈ (arrived arrivals (number + 1)).filter query, trade.key ≤ new.key := by
    intro new hnew
    obtain ⟨earlier, hearlier, hmem⟩ := List.mem_flatMap.mp (List.mem_of_mem_filter hnew)
    have hle : earlier ≤ number := Nat.lt_succ_iff.mp (List.mem_range.mp hearlier)
    -- the trade that the earlier page ended with comes first in the list, or is the same one
    have hindex : limit * (earlier + 1) - 1 ≤ limit * (number + 1) - 1 :=
      Nat.sub_le_sub_right (Nat.mul_le_mul_left limit (Nat.add_le_add_right hle 1)) 1
    obtain ⟨hbound, hget⟩ := List.getElem?_eq_some_iff.mp htrade
    have hlast := List.getElem?_eq_getElem (Nat.lt_of_le_of_lt hindex hbound)
    have hlt := hnewer earlier new hmem _ hlast
    refine le_of_lt (lt_of_le_of_lt ?_ hlt)
    obtain heq | hstrict := Nat.eq_or_lt_of_le hindex
    · rw [← hget]
      simp only [heq, le_refl]
    · rw [← hget]
      exact le_of_lt (List.pairwise_iff_getElem.mp hsorted _ _ _ hbound hstrict)
  rw [List.filter_append, Keyset.largestFirst_behind hfirst hnow htrade hnew]
  congr 1
  have hpos : 0 < limit * (number + 1) := Nat.mul_pos hlimit (Nat.succ_pos number)
  omega

def cursorAt (ownerUserId : Nat) (filters : HistoryFilters) (limit : Nat)
    (history : List HistoryTrade) : Nat → Option String
  | 0 => none
  | number + 1 => history[limit * (number + 1) - 1]?.map fun trade =>
      encodeTradeHistoryCursor trade (mySignature ownerUserId filters)

theorem nextCursor_pageOf (hlimit : 1 ≤ limit) (history : List HistoryTrade) (number : Nat) :
    (pageOf (mySignature ownerUserId filters) limit (history.drop (limit * number))).nextCursor =
      if limit * (number + 1) < history.length then
        cursorAt ownerUserId filters limit history (number + 1)
      else none := by
  have hmore : limit < (history.drop (limit * number)).length ↔
      limit * (number + 1) < history.length := by
    rw [List.length_drop, Nat.mul_succ]
    omega
  have hlast : limit * (number + 1) < history.length →
      ((history.drop (limit * number)).take limit).getLast? =
        history[limit * (number + 1) - 1]? := by
    intro hlt
    have hindex : limit * number + (limit - 1) = limit * (number + 1) - 1 := by
      rw [Nat.mul_succ]
      omega
    have hsome : history[limit * (number + 1) - 1]? =
        some (history.get ⟨limit * (number + 1) - 1, by omega⟩) :=
      List.getElem?_eq_getElem _
    rw [List.getLast?_take, if_neg (by omega), List.getElem?_drop, hindex, hsome]
    rfl
  simp only [pageOf, hmore]
  split
  · rename_i hlt
    rw [hlast hlt]
    rfl
  · rfl

theorem followPages_answered (hlimit : 1 ≤ limit ∧ limit ≤ 100)
    (hquery : buildMyTradesQuery data ownerUserId filters = .ok query)
    (hids : ∀ number, ((trades ++ arrived arrivals number).map (·.id)).Nodup)
    (hnewer : NewerThanListed limit (myHistory data trades ownerUserId filters) arrivals)
    {number : Nat} (hfits : ∀ earlier, number = earlier + 1 → ∃ trade,
      (myHistory data trades ownerUserId filters)[limit * (earlier + 1) - 1]? = some trade ∧
        payloadSize ownerUserId filters trade ≤ 576) (fuel : Nat) :
    followPages data ownerUserId filters limit arrivals (fuel + 1)
        (trades ++ arrived arrivals number)
        (cursorAt ownerUserId filters limit (myHistory data trades ownerUserId filters) number)
        number =
      if limit * (number + 1) < (myHistory data trades ownerUserId filters).length then
        let rest := followPages data ownerUserId filters limit arrivals fuel
          (trades ++ arrived arrivals (number + 1))
          (cursorAt ownerUserId filters limit (myHistory data trades ownerUserId filters)
            (number + 1)) (number + 1)
        ⟨((myHistory data trades ownerUserId filters).drop (limit * number)).take limit ::
          rest.pages, rest.outcome⟩
      else
        ⟨[((myHistory data trades ownerUserId filters).drop (limit * number)).take limit],
          .finished⟩ := by
  have hhistory : myHistory data trades ownerUserId filters =
      Keyset.largestFirst HistoryTrade.key (trades.filter query) := by
    rw [myHistory, hquery]
  have hpage : getMyTradesPage data (trades ++ arrived arrivals number) ownerUserId filters
      (cursorAt ownerUserId filters limit (myHistory data trades ownerUserId filters) number)
      limit = .ok (pageOf (mySignature ownerUserId filters) limit
        ((myHistory data trades ownerUserId filters).drop (limit * number))) := by
    cases number with
    | zero =>
      rw [cursorAt, getMyTradesPage_first hlimit hquery, hhistory, Nat.mul_zero, List.drop_zero,
        arrived, List.range_zero, List.flatMap_nil, List.append_nil]
    | succ earlier =>
      obtain ⟨trade, htrade, hsize⟩ := hfits earlier rfl
      rw [cursorAt, htrade, Option.map_some, getMyTradesPage_next hlimit hquery hsize]
      rw [hhistory] at htrade hnewer ⊢
      rw [largestFirst_behind_listed hlimit.1 hids hnewer htrade]
  rw [followPages, hpage]
  dsimp only
  rw [nextCursor_pageOf hlimit.1]
  by_cases hlt : limit * (number + 1) < (myHistory data trades ownerUserId filters).length
  · have hsome : ∃ cursor, cursorAt ownerUserId filters limit
        (myHistory data trades ownerUserId filters) (number + 1) = some cursor := by
      rw [cursorAt, List.getElem?_eq_getElem (by omega)]
      exact ⟨_, rfl⟩
    obtain ⟨cursor, hcursor⟩ := hsome
    rw [if_pos hlt, if_pos hlt, hcursor, arrived_succ, List.append_assoc]
    rfl
  · rw [if_neg hlt, if_neg hlt]
    rfl

theorem followPages_tooLong (hlimit : 1 ≤ limit ∧ limit ≤ 100) {number : Nat} {trade : HistoryTrade}
    {history stored : List HistoryTrade} (htrade : history[limit * (number + 1) - 1]? = some trade)
    (hlong : ¬ payloadSize ownerUserId filters trade ≤ 576) (fuel : Nat) :
    followPages data ownerUserId filters limit arrivals (fuel + 1) stored
        (cursorAt ownerUserId filters limit history (number + 1)) (number + 1) =
      ⟨[], .refused .unprocessable⟩ := by
  rw [cursorAt, htrade, Option.map_some, followPages, getMyTradesPage_tooLong hlimit hlong]

theorem listed_of_finished (hlimit : 1 ≤ limit ∧ limit ≤ 100)
    (hquery : buildMyTradesQuery data ownerUserId filters = .ok query)
    (hids : ∀ number, ((trades ++ arrived arrivals number).map (·.id)).Nodup)
    (hnewer : NewerThanListed limit (myHistory data trades ownerUserId filters) arrivals)
    (fuel : Nat) : ∀ number,
    (∀ earlier, number = earlier + 1 →
      limit * (earlier + 1) < (myHistory data trades ownerUserId filters).length) →
    (followPages data ownerUserId filters limit arrivals fuel (trades ++ arrived arrivals number)
      (cursorAt ownerUserId filters limit (myHistory data trades ownerUserId filters) number)
      number).outcome = .finished →
    (followPages data ownerUserId filters limit arrivals fuel (trades ++ arrived arrivals number)
      (cursorAt ownerUserId filters limit (myHistory data trades ownerUserId filters) number)
      number).pages.flatten =
        (myHistory data trades ownerUserId filters).drop (limit * number) ∧
      CursorsFit ownerUserId filters limit (myHistory data trades ownerUserId filters)
        (number - 1) := by
  induction fuel with
  | zero =>
    intro number _ hfinished
    cases hfinished
  | succ fuel ih =>
    intro number hissued hfinished
    -- the cursor of this request was admitted, else the request would have been refused
    have hfits : ∀ earlier, number = earlier + 1 → ∃ trade,
        (myHistory data trades ownerUserId filters)[limit * (earlier + 1) - 1]? = some trade ∧
          payloadSize ownerUserId filters trade ≤ 576 := by
      intro earlier hearlier
      have hlt := hissued earlier hearlier
      have htrade := List.getElem?_eq_getElem (l := myHistory data trades ownerUserId filters)
        (i := limit * (earlier + 1) - 1) (by omega)
      refine ⟨_, htrade, ?_⟩
      by_contra hlong
      rw [hearlier, followPages_tooLong hlimit htrade hlong] at hfinished
      cases hfinished
    have hown : ∀ earlier, number = earlier + 1 → ∀ trade,
        (myHistory data trades ownerUserId filters)[limit * (earlier + 1) - 1]? = some trade →
          payloadSize ownerUserId filters trade ≤ 576 := by
      intro earlier hearlier trade htrade
      obtain ⟨trade', htrade', hsize⟩ := hfits earlier hearlier
      rw [htrade] at htrade'
      cases htrade'
      exact hsize
    have hsplit : CursorsFit ownerUserId filters limit (myHistory data trades ownerUserId filters)
        number → CursorsFit ownerUserId filters limit (myHistory data trades ownerUserId filters)
        (number - 1) := by
      intro hlater page hpage hlt trade htrade
      by_cases hsame : number ≤ page
      · exact hlater page hsame hlt trade htrade
      · exact hown page (by omega) trade htrade
    rw [followPages_answered hlimit hquery hids hnewer hfits] at hfinished ⊢
    by_cases hmore : limit * (number + 1) < (myHistory data trades ownerUserId filters).length
    · rw [if_pos hmore] at hfinished ⊢
      obtain ⟨hrest, hlater⟩ := ih (number + 1) (fun earlier hearlier => by
        cases hearlier
        exact hmore) hfinished
      refine ⟨?_, hsplit hlater⟩
      rw [List.flatten_cons, hrest, Nat.mul_succ, ← List.drop_drop, List.take_append_drop]
    · rw [if_neg hmore]
      refine ⟨?_, hsplit ?_⟩
      · rw [List.flatten_singleton]
        refine List.take_of_length_le ?_
        rw [List.length_drop]
        rw [Nat.mul_succ] at hmore
        omega
      · intro page hpage hlt
        have hle : limit * (number + 1) ≤ limit * (page + 1) :=
          Nat.mul_le_mul_left limit (Nat.add_le_add_right hpage 1)
        omega

theorem finished_of_fit (hlimit : 1 ≤ limit ∧ limit ≤ 100)
    (hquery : buildMyTradesQuery data ownerUserId filters = .ok query)
    (hids : ∀ number, ((trades ++ arrived arrivals number).map (·.id)).Nodup)
    (hnewer : NewerThanListed limit (myHistory data trades ownerUserId filters) arrivals)
    (hfit : CursorsFit ownerUserId filters limit (myHistory data trades ownerUserId filters) 0)
    (fuel : Nat) : ∀ number,
    (∀ earlier, number = earlier + 1 →
      limit * (earlier + 1) < (myHistory data trades ownerUserId filters).length) →
    (myHistory data trades ownerUserId filters).length < limit * number + fuel →
    (followPages data ownerUserId filters limit arrivals fuel (trades ++ arrived arrivals number)
      (cursorAt ownerUserId filters limit (myHistory data trades ownerUserId filters) number)
      number).outcome = .finished := by
  induction fuel with
  | zero =>
    intro number hissued hfuel
    cases number with
    | zero => omega
    | succ earlier =>
      have hlt := hissued earlier rfl
      omega
  | succ fuel ih =>
    intro number hissued hfuel
    have hfits : ∀ earlier, number = earlier + 1 → ∃ trade,
        (myHistory data trades ownerUserId filters)[limit * (earlier + 1) - 1]? = some trade ∧
          payloadSize ownerUserId filters trade ≤ 576 := by
      intro earlier hearlier
      have hlt := hissued earlier hearlier
      have htrade := List.getElem?_eq_getElem (l := myHistory data trades ownerUserId filters)
        (i := limit * (earlier + 1) - 1) (by omega)
      exact ⟨_, htrade, hfit earlier (Nat.zero_le _) hlt _ htrade⟩
    rw [followPages_answered hlimit hquery hids hnewer hfits]
    by_cases hmore : limit * (number + 1) < (myHistory data trades ownerUserId filters).length
    · rw [if_pos hmore]
      refine ih (number + 1) (fun earlier hearlier => by
        cases hearlier
        exact hmore) ?_
      rw [Nat.mul_succ]
      omega
    · rw [if_neg hmore]

end Session

/-- A client that follows the cursors comes to the end, and is told each matching trade stored at
its first request exactly once, the newest first. -/
def ListsAll (data : HistoryData) (trades : List HistoryTrade) (ownerUserId : Nat)
    (filters : HistoryFilters) (limit : Nat) (arrivals : Nat → List HistoryTrade) : Prop :=
  ∃ fuel pages, followPages data ownerUserId filters limit arrivals fuel trades none 0 =
      ⟨pages, .finished⟩ ∧
    (pages.flatten.Pairwise fun first second => second.key < first.key) ∧
    ∀ trade, trade ∈ pages.flatten ↔ trade ∈ trades ∧
      ∃ query, buildMyTradesQuery data ownerUserId filters = .ok query ∧ query trade = true

/-- The cursors that the server issues are refused with other filters and to other owners. -/
def RejectsOthers (data : HistoryData) (ownerUserId : Nat) (filters : HistoryFilters) : Prop :=
  ∀ (trade : HistoryTrade) (trades : List HistoryTrade) (ownerUserId' : Nat)
    (filters' : HistoryFilters) (limit : Nat),
    ¬ (ownerUserId = ownerUserId' ∧ SameFilters filters filters') →
    ∃ error, getMyTradesPage data trades ownerUserId' filters'
      (some (encodeTradeHistoryCursor trade (mySignature ownerUserId filters))) limit =
        .error error

section Whole

variable {data : HistoryData} {trades : List HistoryTrade} {ownerUserId limit : Nat}
  {filters : HistoryFilters} {arrivals : Nat → List HistoryTrade}

theorem rejectsOthers : RejectsOthers data ownerUserId filters := by
  intro trade trades ownerUserId' filters' limit hother
  have hdecode := decode_encodeTradeHistoryCursor ownerUserId filters trade
    (mySignature ownerUserId' filters')
  rw [if_neg (mt jsonDictEq_mySignature.mp hother)] at hdecode
  generalize encodeTradeHistoryCursor trade (mySignature ownerUserId filters) = cursor
    at hdecode ⊢
  unfold getMyTradesPage
  split
  · exact ⟨_, rfl⟩
  · split
    · exact ⟨_, rfl⟩
    · dsimp only [startPosition]
      rw [← mySignature, hdecode]
      exact ⟨_, rfl⟩

theorem cursorsFit_of_listsAll (hlimit : 1 ≤ limit ∧ limit ≤ 100)
    (hids : ∀ number, ((trades ++ arrived arrivals number).map (·.id)).Nodup)
    (hnewer : NewerThanListed limit (myHistory data trades ownerUserId filters) arrivals)
    (hlists : ListsAll data trades ownerUserId filters limit arrivals) :
    AdmittedRange filters ∧
      CursorsFit ownerUserId filters limit (myHistory data trades ownerUserId filters) 0 := by
  obtain ⟨fuel, pages, hpages, -, -⟩ := hlists
  have hquery : ∃ query, buildMyTradesQuery data ownerUserId filters = .ok query := by
    cases hbuild : buildMyTradesQuery data ownerUserId filters with
    | ok query => exact ⟨query, rfl⟩
    | error error =>
      have hcursor : admittedCursor none = true := rfl
      cases fuel with
      | zero => cases hpages
      | succ fuel =>
        rw [followPages, getMyTradesPage, if_neg (by omega), if_neg (not_not.mpr hcursor)] at hpages
        dsimp only [startPosition] at hpages
        rw [hbuild] at hpages
        cases hpages
  obtain ⟨query, hbuild⟩ := hquery
  refine ⟨exists_query_iff.mp ⟨query, hbuild⟩, ?_⟩
  have hfinished : (followPages data ownerUserId filters limit arrivals fuel
      (trades ++ arrived arrivals 0) (cursorAt ownerUserId filters limit
        (myHistory data trades ownerUserId filters) 0) 0).outcome = .finished := by
    rw [arrived, List.range_zero, List.flatMap_nil, List.append_nil, cursorAt, hpages]
  exact (listed_of_finished hlimit hbuild hids hnewer fuel 0 nofun hfinished).2

theorem listsAll_of_cursorsFit (hlimit : 1 ≤ limit ∧ limit ≤ 100)
    (hids : ∀ number, ((trades ++ arrived arrivals number).map (·.id)).Nodup)
    (hnewer : NewerThanListed limit (myHistory data trades ownerUserId filters) arrivals)
    (hrange : AdmittedRange filters)
    (hfit : CursorsFit ownerUserId filters limit (myHistory data trades ownerUserId filters) 0) :
    ListsAll data trades ownerUserId filters limit arrivals := by
  obtain ⟨query, hbuild⟩ := (@exists_query_iff data ownerUserId filters).mpr hrange
  have hfinished := finished_of_fit hlimit hbuild hids hnewer hfit
    ((myHistory data trades ownerUserId filters).length + 1) 0 nofun (by omega)
  have hlisted := (listed_of_finished hlimit hbuild hids hnewer _ 0 nofun hfinished).1
  rw [arrived, List.range_zero, List.flatMap_nil, List.append_nil, cursorAt] at hfinished hlisted
  rw [Nat.mul_zero, List.drop_zero] at hlisted
  have hkeys : ((trades.filter query).map HistoryTrade.key).Nodup := by
    have hall := nodup_keys (hids 0)
    rw [arrived, List.range_zero, List.flatMap_nil, List.append_nil] at hall
    exact hall.sublist (List.filter_sublist.map _)
  have hhistory : myHistory data trades ownerUserId filters =
      Keyset.largestFirst HistoryTrade.key (trades.filter query) := by
    rw [myHistory, hbuild]
  refine ⟨_, _, HistorySession.ext rfl hfinished, ?_, ?_⟩
  · rw [hlisted, hhistory]
    exact Keyset.pairwise_largestFirst hkeys
  · intro trade
    rw [hlisted, hhistory, Keyset.mem_largestFirst, List.mem_filter]
    refine and_congr_right fun _ => ⟨fun hmatch => ⟨query, hbuild, hmatch⟩, ?_⟩
    rintro ⟨query', hbuild', hmatch⟩
    rw [hbuild] at hbuild'
    cases hbuild'
    exact hmatch

end Whole

/-- A client that follows the cursors is told the whole history, whatever newer trades are stored
meanwhile, exactly if the range of dates is admitted and no cursor is too long; and cursors are
bound to their owner and filters. -/
theorem history_pages_complete_iff (data : HistoryData) (trades : List HistoryTrade)
    (ownerUserId : Nat) (filters : HistoryFilters) (limit : Nat)
    (arrivals : Nat → List HistoryTrade) (hlimit : 1 ≤ limit ∧ limit ≤ 100)
    (hids : ∀ number, ((trades ++ arrived arrivals number).map (·.id)).Nodup)
    (hnewer : NewerThanListed limit (myHistory data trades ownerUserId filters) arrivals) :
    ListsAll data trades ownerUserId filters limit arrivals ∧
        RejectsOthers data ownerUserId filters ↔
      AdmittedRange filters ∧
        CursorsFit ownerUserId filters limit (myHistory data trades ownerUserId filters) 0 := by
  constructor
  · rintro ⟨hlists, -⟩
    exact cursorsFit_of_listsAll hlimit hids hnewer hlists
  · rintro ⟨hrange, hfit⟩
    exact ⟨listsAll_of_cursorsFit hlimit hids hnewer hrange hfit, rejectsOthers⟩

/-! ## Two histories -/

def sampleInstant (date : Date) (minute : Nat) : DateTime :=
  ⟨date, 10, minute % 60, 7, 123, by decide, Nat.mod_lt _ (by decide), by decide, by decide⟩

def sampleTrade (number minute : Nat) : HistoryTrade where
  id := number + 1
  createdAt := sampleInstant ⟨2027, 7, 15, by decide, by decide, by decide⟩ minute
  offerUserId := some 1
  responderUserId := some 2
  commodityId := 1
  tradeType := .buy
  settlementType := .cash
  idPos := Nat.succ_pos number

/-- One commodity; a pattern of wildcards matches every name. -/
def sampleData : HistoryData where
  commodityTexts := fun _ => ["Coin"]
  ilike := fun _ pattern => pattern.toList.all (· = '%')
  startOfDay := fun date => sampleInstant date 30

def sampleTrades : List HistoryTrade := [sampleTrade 0 1, sampleTrade 1 1]

def sampleArrivals (number : Nat) : List HistoryTrade := if number = 0 then [sampleTrade 2 2] else []

theorem arrived_sampleArrivals (number : Nat) :
    arrived sampleArrivals (number + 1) = [sampleTrade 2 2] := by
  induction number with
  | zero => rfl
  | succ number ih =>
    rw [arrived_succ, ih]
    rfl

theorem mem_myHistory {data : HistoryData} {trades : List HistoryTrade} {ownerUserId : Nat}
    {filters : HistoryFilters} {trade : HistoryTrade}
    (h : trade ∈ myHistory data trades ownerUserId filters) : trade ∈ trades := by
  unfold myHistory at h
  split at h
  · exact List.mem_of_mem_filter (Keyset.mem_largestFirst.mp h)
  · cases h

/-- Two trades of one minute, a page each. -/
theorem two_pages_complete :
    ListsAll sampleData sampleTrades 1 {} 1 sampleArrivals ∧ RejectsOthers sampleData 1 {} := by
  refine (history_pages_complete_iff sampleData sampleTrades 1 {} 1 sampleArrivals (by decide) ?_
    ?_).mpr ⟨⟨nofun, nofun⟩, ?_⟩
  · intro number
    cases number with
    | zero => decide
    | succ number =>
      rw [arrived_sampleArrivals]
      decide
  · intro number new hnew trade htrade
    have hmem := mem_myHistory (List.mem_of_getElem? htrade)
    unfold sampleArrivals at hnew
    split at hnew
    · cases List.mem_singleton.mp hnew
      simp only [sampleTrades, List.mem_cons, List.not_mem_nil, or_false] at hmem
      rcases hmem with rfl | rfl <;> decide
    · cases hnew
  · intro page _ _ trade htrade
    have hmem := mem_myHistory (List.mem_of_getElem? htrade)
    simp only [sampleTrades, List.mem_cons, List.not_mem_nil, or_false] at hmem
    rcases hmem with rfl | rfl <;> decide

def wildcardSearch (n : Nat) : HistoryFilters :=
  { commodityQuery := some (String.ofList (List.replicate n '%')) }

theorem pyStrip_replicate {c : Char} (h : isPySpace c = false) (n : Nat) :
    pyStrip (String.ofList (List.replicate n c)) = String.ofList (List.replicate n c) := by
  have hdrop : (List.replicate n c).dropWhile isPySpace = List.replicate n c := by
    cases n with
    | zero => rfl
    | succ n =>
      rw [List.replicate_succ]
      exact List.dropWhile_cons_of_neg (by rw [h]; exact Bool.false_ne_true)
  rw [pyStrip, String.toList_ofList, hdrop, List.reverse_replicate, hdrop, List.reverse_replicate]

theorem normalize_wildcardSearch {n : Nat} (hpos : 0 < n) :
    normalizeHistoryCommodityQuery (wildcardSearch n).commodityQuery =
      some (String.ofList (List.replicate n '%')) := by
  have hne : String.ofList (List.replicate n '%') ≠ "" := by
    intro hempty
    have hlength := congrArg String.length hempty
    rw [String.length_ofList, List.length_replicate] at hlength
    exact Nat.ne_of_gt hpos hlength
  rw [wildcardSearch, normalizeHistoryCommodityQuery, pyStrip_replicate rfl, if_neg hne]

theorem textWidth_wildcards (n : Nat) : textWidth (String.ofList (List.replicate n '%')) = n := by
  rw [textWidth, String.toList_ofList, sum_charWidth_of_one, List.length_replicate]
  intro c hc
  rw [List.eq_of_mem_replicate hc]
  decide

theorem ilike_wildcards (name : String) (n : Nat) :
    sampleData.ilike name ("%" ++ String.ofList (List.replicate n '%') ++ "%") = true := by
  have hall : (List.replicate n '%').all (· = '%') = true :=
    List.all_eq_true.mpr fun c hc => decide_eq_true (List.eq_of_mem_replicate hc)
  show ("%" ++ String.ofList (List.replicate n '%') ++ "%").toList.all (· = '%') = true
  rw [String.toList_append, String.toList_append, String.toList_ofList (l := List.replicate n '%'),
    List.all_append, List.all_append, hall]
  decide

theorem matches_wildcardSearch {n : Nat} (hpos : 0 < n) :
    ∀ trade ∈ sampleTrades, matchesFilters sampleData 1 (wildcardSearch n) none trade = true := by
  intro trade htrade
  have hnames : (sampleData.commodityTexts trade.commodityId).any (fun name =>
      sampleData.ilike name ("%" ++ String.ofList (List.replicate n '%') ++ "%")) = true :=
    List.any_eq_true.mpr ⟨"Coin", List.mem_singleton.mpr rfl, ilike_wildcards _ _⟩
  have howner : trade.offerUserId = some 1 := by
    simp only [sampleTrades, List.mem_cons, List.not_mem_nil, or_false] at htrade
    rcases htrade with rfl | rfl <;> rfl
  rw [matchesFilters, normalize_wildcardSearch hpos, Option.all_some, hnames, howner]
  simp [wildcardSearch]

theorem length_wildcardSearch {n : Nat} (hpos : 0 < n) :
    (myHistory sampleData sampleTrades 1 (wildcardSearch n)).length = 2 := by
  rw [myHistory, show buildMyTradesQuery sampleData 1 (wildcardSearch n) =
    .ok (matchesFilters sampleData 1 (wildcardSearch n) none) from rfl]
  dsimp only
  rw [Keyset.length_largestFirst, List.filter_eq_self.mpr (matches_wildcardSearch hpos)]
  rfl

/-- The cursor of the first page of a long search is refused: the second of two trades is never
told. -/
theorem long_search_not_listed :
    ¬ ListsAll sampleData sampleTrades 1 (wildcardSearch 400) 1 fun _ => [] := by
  intro hlists
  have hnone : ∀ number, arrived (fun _ => []) number = [] := by
    intro number
    rw [arrived, List.flatMap_eq_nil_iff]
    exact fun _ _ => rfl
  have hids : ∀ number, ((sampleTrades ++ arrived (fun _ => []) number).map (·.id)).Nodup := by
    intro number
    rw [hnone]
    decide
  obtain ⟨-, hfit⟩ := cursorsFit_of_listsAll (by decide) hids (fun _ _ hnew => by cases hnew) hlists
  have hlength := length_wildcardSearch (n := 400) (by decide)
  have htrade := List.getElem?_eq_getElem
    (l := myHistory sampleData sampleTrades 1 (wildcardSearch 400)) (i := 0) (by omega)
  have hsize := hfit 0 (Nat.le_refl _) (by omega) _ htrade
  rw [payloadSize, normalize_wildcardSearch (by decide), Option.getD_some, textWidth_wildcards]
    at hsize
  omega

end TradingBot.Trades
