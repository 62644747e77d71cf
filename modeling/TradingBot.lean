import TradingBot.Misc.Run
import TradingBot.Misc.Txn
import TradingBot.Misc.UnitOfWork
import TradingBot.Offer.TradeService
import TradingBot.Offer.Conservation
import TradingBot.Offer.Lifecycle
import TradingBot.Offer.Expiry
import TradingBot.Ledger.Model
import TradingBot.Overtime.Service
import TradingBot.Overtime.Reconciliation
import TradingBot.Overtime.OfferEnd
import TradingBot.Overtime.Workflow
import TradingBot.Overtime.Evolution
import TradingBot.Overtime.Invariants
import TradingBot.Overtime.QueueOrder
import TradingBot.Overtime.Closing
import TradingBot.Overtime.DeliveryGrace
import TradingBot.Overtime.SeatKept
import TradingBot.Trades.Effects
import TradingBot.Trades.Interleaving
import TradingBot.Trades.Market
import TradingBot.Sync.Apply
import TradingBot.Sync.Commodities
import TradingBot.Sync.CompletedTrades
import TradingBot.Sync.CounterDelivery
import TradingBot.Sync.CounterServers
import TradingBot.Sync.Deferral
import TradingBot.Sync.OfferMirror
import TradingBot.Sync.Sequences
import TradingBot.Telegram.AtMostOnce
import TradingBot.Telegram.Destinations
import TradingBot.Customers.DailyLimits
import TradingBot.Market.Admission
import TradingBot.Market.ForeignClosing
import TradingBot.Market.IranTransitions
import TradingBot.Misc.Base64
import TradingBot.Misc.Calendar
import TradingBot.Misc.Json
import TradingBot.Misc.Keyset
import TradingBot.Sync.ChangeLog
import TradingBot.Sync.Senders
import TradingBot.Telegram.Broadcast
import TradingBot.Telegram.EditFeeder
import TradingBot.Telegram.Handoffs
import TradingBot.Trades.ContentionGate
import TradingBot.Trades.History
import TradingBot.Trades.HistoryPages
import TradingBot.Creation.Command
import TradingBot.Creation.Outcomes
import TradingBot.Intelligence.Contracts
import TradingBot.Intelligence.OutboxRuns
import TradingBot.Limiter.Admissions
import TradingBot.Misc.Locks
import TradingBot.Misc.Sql
import TradingBot.Offer.ExpiryLimits
import TradingBot.OtpDelivery.Evolution
import TradingBot.OtpDelivery.ProviderStarts
import TradingBot.Registration.Interleaving
import TradingBot.Sessions.Limits
import TradingBot.Sync.Columns
import TradingBot.Sync.LocalRequests
import TradingBot.Sync.PublicationOrder
import TradingBot.Sync.UserConvergence
import TradingBot.Trades.DeliveryReceipts
import TradingBot.Trades.ForwardPending
import TradingBot.Uploads.Commits
import TradingBot.Uploads.Committable
import TradingBot.Uploads.Completion
import TradingBot.Chat.GroupMembers
import TradingBot.Intelligence.RelationshipLedger
import TradingBot.Market.Transitions
import TradingBot.Offer.LotSuggestions
import TradingBot.Offer.OutageRecovery
import TradingBot.Offer.Projection
import TradingBot.Overtime.DecisionWindow
import TradingBot.Overtime.FinalOutcome
import TradingBot.Overtime.RepairRun
import TradingBot.Overtime.RepairTwice
import TradingBot.Telegram.LifecycleScan
import TradingBot.Customers.Commission
import TradingBot.Market.OverrideWindow
import TradingBot.Misc.Regex
import TradingBot.Offer.LotAgreement
import TradingBot.Offer.Parser
import TradingBot.Offer.ParserNumbers
import TradingBot.Offer.ParserOrders
import TradingBot.Offer.PublicationState
import TradingBot.Overtime.Presentation
import TradingBot.Sync.GuardAgreement
import TradingBot.Trades.ChainPath
import TradingBot.Telegram.DedupeKey
import TradingBot.Telegram.PublisherDispatch
import TradingBot.Intelligence.CoinGroupTrades
import TradingBot.Intelligence.HeratPrice
import TradingBot.Intelligence.LedgerTimes
import TradingBot.OtpDelivery.DueSelection
import TradingBot.Overtime.PromotionEnds
import TradingBot.Sync.Parity
