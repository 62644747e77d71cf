import Mathlib.Data.Prod.Lex
import TradingBot.Misc.Base64
import TradingBot.Misc.Calendar
import TradingBot.Misc.Json
import TradingBot.Misc.Keyset
import TradingBot.Misc.PyText
import TradingBot.Offer.Model

/-!
# The pages of a user's trade history

`get_my_trades_page` (api/routers/trades.py:5501): the trades of a user in pages, from the newest
on. The cursor of the next page, JSON in base64, names the last trade of the page before and its
filters.

What the query asks of the database besides the trades is the record `HistoryData`: the names of a
commodity, how texts are matched, and when a day starts. Cursor times are in UTC, as the driver
returns them; a cursor with a time in another format or a number that is not whole is not admitted.
-/

namespace TradingBot.Trades

open TradingBot TradingBot.Misc

/-- `SettlementType`. -/
inductive SettlementType where
  | cash
  | tomorrow
  deriving DecidableEq, Repr

/-- A row of `trades` with the columns the history reads. Its id is one of a sequence. -/
structure HistoryTrade where
  id : Nat
  createdAt : DateTime
  offerUserId : Option Nat
  responderUserId : Option Nat
  commodityId : Nat
  tradeType : OfferType
  settlementType : SettlementType
  idPos : 0 < id
  deriving DecidableEq, Repr

/-- The filters of a request. What the driver refuses is left out: ids beyond a 32-bit column and a
NUL in the search text. -/
structure HistoryFilters where
  fromDate : Option Date := none
  toDate : Option Date := none
  commodityId : Option Nat := none
  commodityQuery : Option String := none
  settlementType : Option SettlementType := none
  tradeType : Option OfferType := none
  commodityPos : ∀ id, commodityId = some id → 1 ≤ id := by intro id h; cases h

structure HistoryData where
  commodityTexts : Nat → List String
  ilike : String → String → Bool
  startOfDay : Date → DateTime

inductive HistoryError where
  | unprocessable
  | badRequest (detail : String)
  | internalError
  deriving DecidableEq, Repr

def historyRangeDetail : String := "بازه زمانی انتخاب‌شده معتبر نیست."
def historyCursorDetail : String := "نشانگر صفحه تاریخچه معاملات نامعتبر است."

def normalizeHistoryCommodityQuery (value : Option String) : Option String :=
  match value with
  | none => none
  | some text => if pyStrip text = "" then none else some (pyStrip text)

def SettlementType.value : SettlementType → String
  | cash => "cash"
  | tomorrow => "tomorrow"

def tradeTypeValue : OfferType → String
  | .buy => "buy"
  | .sell => "sell"

def dateText (date : Option Date) : String :=
  match date with
  | none => ""
  | some date => String.ofList date.isoformat

def tradeHistoryFilterSignature (scope : String) (viewerOwnerUserId : Nat)
    (targetUserId : Option Nat) (filters : HistoryFilters) : List (String × Json) :=
  [("commodity_id", .int (filters.commodityId.getD 0)),
    ("commodity_query", .str ((normalizeHistoryCommodityQuery filters.commodityQuery).getD "")),
    ("from_date", .str (dateText filters.fromDate)),
    ("scope", .str scope),
    ("settlement_type", .str ((filters.settlementType.map (·.value)).getD "")),
    ("target_user_id", .int (targetUserId.getD 0)),
    ("to_date", .str (dateText filters.toDate)),
    ("trade_type", .str ((filters.tradeType.map tradeTypeValue).getD "")),
    ("viewer_owner_user_id", .int viewerOwnerUserId)]

def cursorPayload (trade : HistoryTrade) (signature : List (String × Json)) : Json :=
  .obj [("created_at", .str (String.ofList trade.createdAt.isoformat)),
    ("filters", .obj signature),
    ("id", .int trade.id),
    ("v", .int 1)]

def encodeTradeHistoryCursor (trade : HistoryTrade) (signature : List (String × Json)) : String :=
  Base64.encodeText (String.ofList (cursorPayload trade signature).write)

/-- `==` of two values of which one is a whole number or a string. -/
def jsonEq : Json → Json → Bool
  | .int a, .int b => a = b
  | .bool a, .int b => (if a then 1 else 0) = b
  | .str a, .str b => a = b
  | _, _ => false

/-- `==` of an object and the signature. -/
def jsonDictEq (members expected : List (String × Json)) : Bool :=
  (expected.all fun item =>
    match Json.member? members item.1 with
    | some value => jsonEq value item.2
    | none => false) &&
  members.all fun item => expected.any fun other => other.1 = item.1

def cursorPosition (members expected : List (String × Json)) : Option (DateTime × Nat) :=
  match Json.member? members "v", Json.member? members "id", Json.member? members "created_at",
    Json.member? members "filters" with
  | some version, some (.int id), some (.str createdAt), some (.obj filters) =>
    if jsonEq version (.int 1) ∧ 0 < id ∧ jsonDictEq filters expected then
      (DateTime.fromisoformat createdAt.toList).map fun time => (time, id.toNat)
    else none
  | _, _, _, _ => none

def decodeTradeHistoryCursor (cursor : String) (expected : List (String × Json)) :
    Except HistoryError (DateTime × Nat) :=
  match (Base64.decodeText cursor).bind Json.read with
  | some (.obj members) =>
    match cursorPosition members expected with
    | some position => .ok position
    | none => .error (.badRequest historyCursorDetail)
  | _ => .error (.badRequest historyCursorDetail)

/-- The range that `_validate_trade_history_date_range` (line 807) refuses. -/
def reversedRange (filters : HistoryFilters) : Bool :=
  match filters.fromDate, filters.toDate with
  | some first, some last => last.before first
  | _, _ => false

/-- `to_date + timedelta(days=1)`, which raises on the last date. -/
def endOfRange (filters : HistoryFilters) : Except HistoryError (Option Date) :=
  match filters.toDate with
  | none => .ok none
  | some last =>
    match last.next with
    | some next => .ok (some next)
    | none => .error .internalError

/-- `_build_my_trades_query` (line 896) and, with the day behind the range,
`_apply_trade_history_filters` (line 822). -/
def matchesFilters (data : HistoryData) (ownerUserId : Nat) (filters : HistoryFilters)
    (behind : Option Date) (trade : HistoryTrade) : Bool :=
  (trade.offerUserId = some ownerUserId || trade.responderUserId = some ownerUserId) &&
  (filters.fromDate.all fun date =>
    decide ((data.startOfDay date).rank ≤ trade.createdAt.rank)) &&
  (behind.all fun date => decide (trade.createdAt.rank < (data.startOfDay date).rank)) &&
  (filters.commodityId.all fun id => decide (trade.commodityId = id)) &&
  (filters.settlementType.all fun settlement => decide (trade.settlementType = settlement)) &&
  (filters.tradeType.all fun type =>
    (trade.responderUserId = some ownerUserId && trade.tradeType = type) ||
    (trade.offerUserId = some ownerUserId && trade.tradeType ≠ type)) &&
  ((normalizeHistoryCommodityQuery filters.commodityQuery).all fun text =>
    (data.commodityTexts trade.commodityId).any fun name => data.ilike name ("%" ++ text ++ "%"))

def buildMyTradesQuery (data : HistoryData) (ownerUserId : Nat) (filters : HistoryFilters) :
    Except HistoryError (HistoryTrade → Bool) :=
  if reversedRange filters then .error (.badRequest historyRangeDetail)
  else (endOfRange filters).map (matchesFilters data ownerUserId filters)

def HistoryTrade.key (trade : HistoryTrade) : Nat ×ₗ Nat := toLex (trade.createdAt.rank, trade.id)

def buildTradeHistoryPageQuery (trades : List HistoryTrade) (position : Option (DateTime × Nat))
    (limit : Nat) : List HistoryTrade :=
  let behind := match position with
    | none => trades
    | some (createdAt, id) => trades.filter fun trade =>
        trade.createdAt.rank < createdAt.rank ||
          (trade.createdAt.rank = createdAt.rank && trade.id < id)
  (Keyset.largestFirst HistoryTrade.key behind).take (limit + 1)

/-- `TradeHistoryPageResponse`. -/
structure HistoryPage where
  items : List HistoryTrade
  nextCursor : Option String
  hasMore : Bool
  deriving DecidableEq, Repr

def maxCursorLength : Nat := 768

def admittedCursor (cursor : Option String) : Bool :=
  cursor.all fun cursor => 1 ≤ cursor.length && cursor.length ≤ maxCursorLength

def startPosition (cursor : Option String) (signature : List (String × Json)) :
    Except HistoryError (Option (DateTime × Nat)) :=
  match cursor with
  | none => .ok none
  | some cursor => (decodeTradeHistoryCursor cursor signature).map some

def getMyTradesPage (data : HistoryData) (trades : List HistoryTrade) (ownerUserId : Nat)
    (filters : HistoryFilters) (cursor : Option String) (limit : Nat) :
    Except HistoryError HistoryPage :=
  if limit < 1 ∨ 100 < limit then .error .unprocessable
  else if ¬ admittedCursor cursor then .error .unprocessable
  else
    let signature := tradeHistoryFilterSignature "my" ownerUserId none filters
    match startPosition cursor signature with
    | .error error => .error error
    | .ok position =>
      match buildMyTradesQuery data ownerUserId filters with
      | .error error => .error error
      | .ok query =>
        let rows := buildTradeHistoryPageQuery (trades.filter query) position limit
        let pageRows := rows.take limit
        .ok {
          items := pageRows
          nextCursor := if limit < rows.length then
              pageRows.getLast?.map fun trade => encodeTradeHistoryCursor trade signature
            else none
          hasMore := limit < rows.length }

end TradingBot.Trades
