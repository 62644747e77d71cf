import TradingBot.Overtime.Workflow
import TradingBot.Offer.TradeService

/-!
# Trades, trade requests and their replies

Rows of `src/models/trade.py`, the request schema and the replies of `src/api/routers/trades.py`.
What an execution reads elsewhere (the caller's account, the market schedule, the principals of the
parties, the locks) is the record `TradeContext`.
-/

namespace TradingBot.Trades

open TradingBot TradingBot.Misc TradingBot.Overtime

def marketClosedDetail : String :=
  "بازار در حال حاضر بسته است. لطفاً در زمان فعال بودن بازار اقدام کنید."
def accountantMarketBlockedDetail : String := "حسابدار دسترسی به بازار ندارد."
def tradeUnavailableDetail : String := "امکان انجام این معامله وجود ندارد."
def tradeConflictDetail : String :=
  "این لفظ توسط کاربر دیگری در حال معامله است. لطفاً دوباره تلاش کنید."
def watchRoleDetail : String := "شما دسترسی به بخش معاملات را ندارید."
def accountInactiveDetail : String := "حساب شما غیرفعال است و امکان انجام معامله ندارید."
def accountRestrictedDetail : String := "حساب شما مسدود است."
def offerNotFoundDetail : String := "لفظ یافت نشد."
def offerNotActiveDetail : String := "این لفظ دیگر فعال نیست."
def ownOfferDetail : String := "نمی‌توانید روی لفظ خودتان معامله کنید."
def offerOwnerInactiveDetail : String := "این لفظ در حال حاضر قابل معامله نیست."
def replayMismatchDetail : String := "کلید تکرار این معامله با درخواست فعلی همخوانی ندارد."
def replayResultMissingDetail : String :=
  "نتیجه قطعی معامله موقتاً در دسترس نیست. لطفاً همین درخواست را دوباره تلاش کنید."
def publicIdMissingDetail : String := "شناسه عمومی لفظ برای ثبت درخواست موجود نیست."
def publicIdMismatchDetail : String := "شناسه عمومی لفظ با رکورد مرجع همخوانی ندارد."
def approvalOfferMismatchDetail : String := "درخواست وقت اضافه با این لفظ همخوانی ندارد."
def approvalRequesterMismatchDetail : String :=
  "فقط درخواست‌دهنده می‌تواند نتیجه این معامله را دریافت کند."
def tradeAlreadyRecordedDetail : String :=
  "این معامله قبلاً ثبت شده یا شماره معامله تکراری است. لطفاً وضعیت معاملات را بروزرسانی کنید."

/-- A row of `trades`, less the columns that the execution only stores. -/
structure Trade where
  id : Nat
  tradeNumber : Nat
  offerId : Option Nat
  offerUserId : Option Nat
  responderUserId : Option Nat
  actorUserId : Option Nat
  commodityId : Nat
  tradeType : OfferType
  quantity : Int
  price : Int
  idempotencyKey : Option String
  deriving DecidableEq, Repr

/-- `TradeCreate`: the schema admits positive ids and quantities only. -/
structure TradeCreate where
  offerId : Nat
  offerPublicId : Option String
  quantity : Int
  idempotencyKey : Option String
  offerId_pos : 0 < offerId
  quantity_pos : 0 < quantity

instance : DecidableEq TradeCreate := fun first second =>
  decidable_of_iff (first.offerId = second.offerId ∧ first.offerPublicId = second.offerPublicId ∧
    first.quantity = second.quantity ∧ first.idempotencyKey = second.idempotencyKey) (by
      cases first
      cases second
      simp)

/-- `if value`: a present, non-empty text. -/
def truthyText (value : Option String) : Option String := value.filter (· ≠ "")

/-- `_coerce_trade_user_id`. -/
def coerceTradeUserId (value : Option Nat) : Option Nat := value.filter (0 < ·)

structure CustomerTradeLimitViolation where
  publicMessage : String
  reasonCode : String
  deriving DecidableEq, Repr

/-- What the execution of a trade reads outside offers, ledger and trades. -/
structure TradeContext where
  /-- The services that the overtime workflow calls, with the server and its clock. -/
  ambient : Ambient
  ownerUserId : Nat
  actorUserId : Nat
  isAccountantContext : Bool
  edgeReceivedAt : Option Int
  requestSourceSurface : OfferRequestSourceSurface
  requestSourceServer : Server
  offerExpiryMinutes : Int
  tradeForwardGraceSeconds : Int
  ownerIsWatch : Bool
  ownerTradeBlocked : Bool
  marketOpen : Bool
  ownerRestricted : Bool
  userLimitError : Option String
  offerLockGained : Bool
  /-- The owner of the offer is missing or blocked. -/
  offerOwnerInactive : Bool
  principalsBlocked : Bool
  customerLimit : Option CustomerTradeLimitViolation
  sourcePrincipalUserId : Nat
  responderPrincipalUserId : Nat
  /-- A principal that is neither party has no user row. -/
  principalMissing : Bool
  /-- The price of a tier-2 customer, from the offer's price. -/
  tier2Price : Option (Int → Int)
  tradeNumbers : Nat → Nat
  ownerUserId_pos : 0 < ownerUserId

namespace TradeContext

def currentServer (ctx : TradeContext) : Server := ctx.ambient.currentServer

/-- `datetime.utcnow()`. -/
def now (ctx : TradeContext) : Int := ctx.ambient.utcNow

end TradeContext

/-- `overtime_approval_ledger` and `overtime_decided_by_user_id`. -/
structure Approval where
  ledger : Nat
  decidedBy : Option Nat
  deriving DecidableEq, Repr

/-- The tables that the execution of a trade reads and writes. -/
structure TradeDb where
  offers : List Offer
  rows : List OfferRequest
  trades : List Trade

namespace TradeDb

def offer? (db : TradeDb) (id : Nat) : Option Offer := db.offers.find? (·.id = id)

def row? (db : TradeDb) (id : Nat) : Option OfferRequest := db.rows.find? (·.id = id)

def trade? (db : TradeDb) (id : Nat) : Option Trade := db.trades.find? (·.id = id)

/-- `select(Trade).where(Trade.idempotency_key == key)`. -/
def tradeByKey? (db : TradeDb) (key : String) : Option Trade :=
  db.trades.find? (fun t => t.idempotencyKey = some key)

end TradeDb

inductive Reply where
  /-- `TradeResponse` of a trade this request has made. -/
  | created (trade : Trade)
  /-- `TradeResponse` of the trade that was found under the key. -/
  | existing (trade : Trade)
  /-- `TradeResponse` of the trade of a completed ledger row. -/
  | completed (ledger : OfferRequest) (trade : Trade)
  /-- `_overtime_request_http_response`. -/
  | overtime (ledger : OfferRequest) (duplicateReplay promoted : Bool)
  /-- The conflict of `_try_return_overtime_idempotent_status` on a terminal row. -/
  | overtimeTerminal (ledger : OfferRequest) (offerId : Nat)
  /-- `_terminal_duplicate_request_http_exception`. -/
  | recordedRejection (ledger : OfferRequest)
  /-- `_raise_overtime_request_http_error`. -/
  | overtimeError (code : OvertimeRequestErrorCode) (message : String)
      (remainingSeconds : Option Int)
  /-- `build_lot_unavailable_suggestion_payload`. -/
  | lotUnavailable (offer : Offer) (requested : Int) (available : List Int)
  /-- Any other `HTTPException`. -/
  | refused (statusCode : Nat) (detail : String)
  /-- An exception that nobody turns into a reply. -/
  | failed
  deriving DecidableEq, Repr

/-- The status code of `_raise_overtime_request_http_error`. -/
def overtimeErrorStatusCode : OvertimeRequestErrorCode → Nat
  | .sameOfferBusy | .cooldownActive | .requesterLimit | .requesterOwnerLimit
  | .alreadyTerminal => 409
  | .notOwner | .notRequester => 403
  | .notFound => 404
  | _ => 400

/-- The status code of `_terminal_duplicate_request_http_exception`. -/
def recordedRejectionStatusCode (ledger : OfferRequest) : Nat :=
  if ledger.resultStatus = .rejectedBusinessRule then 400 else 409

def Reply.statusCode : Reply → Nat
  | created _ | existing _ | completed _ _ => 201
  | overtime _ _ _ => 202
  | overtimeTerminal _ _ | lotUnavailable _ _ _ => 409
  | recordedRejection ledger => recordedRejectionStatusCode ledger
  | overtimeError code _ _ => overtimeErrorStatusCode code
  | refused statusCode _ => statusCode
  | failed => 500

def Reply.trade? : Reply → Option Trade
  | created trade | existing trade | completed _ trade => some trade
  | _ => none

def Reply.shows? : Reply → Option OfferRequest
  | completed ledger _ => some ledger
  | overtime ledger duplicateReplay _ => if duplicateReplay then some ledger else none
  | overtimeTerminal ledger _ => some ledger
  | recordedRejection ledger => some ledger
  | _ => none

end TradingBot.Trades
