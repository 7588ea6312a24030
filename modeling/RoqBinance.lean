import RoqBinance.Api
import RoqBinance.Gateway.Accounting
import RoqBinance.Gateway.CancelAll
import RoqBinance.Gateway.CanceledOrders
import RoqBinance.Gateway.Channels
import RoqBinance.Gateway.Clerk
import RoqBinance.Gateway.Completion
import RoqBinance.Gateway.Config
import RoqBinance.Gateway.Controller
import RoqBinance.Gateway.Correlation
import RoqBinance.Gateway.Coverage
import RoqBinance.Gateway.Credentials
import RoqBinance.Gateway.DepthRequests
import RoqBinance.Gateway.DropCopyMargin
import RoqBinance.Gateway.DropCopyPortfolio
import RoqBinance.Gateway.ExchangeInfoRetry
import RoqBinance.Gateway.ExchangeLimits
import RoqBinance.Gateway.Fills
import RoqBinance.Gateway.Frame
import RoqBinance.Gateway.Instruments
import RoqBinance.Gateway.Keeps
import RoqBinance.Gateway.KeyLease
import RoqBinance.Gateway.Ledger
import RoqBinance.Gateway.Link
import RoqBinance.Gateway.ListenKey
import RoqBinance.Gateway.Margin
import RoqBinance.Gateway.MarginModes
import RoqBinance.Gateway.MarketData
import RoqBinance.Gateway.MarketFeed
import RoqBinance.Gateway.Messages
import RoqBinance.Gateway.OrderAck
import RoqBinance.Gateway.OrderEntryMargin
import RoqBinance.Gateway.OrderEntryPortfolio
import RoqBinance.Gateway.OrderRouting
import RoqBinance.Gateway.OrderTags
import RoqBinance.Gateway.Outcomes
import RoqBinance.Gateway.Policy
import RoqBinance.Gateway.Portfolio
import RoqBinance.Gateway.Publications
import RoqBinance.Gateway.RateLimits
import RoqBinance.Gateway.Readiness
import RoqBinance.Gateway.Recovery
import RoqBinance.Gateway.Redundancy
import RoqBinance.Gateway.Refusals
import RoqBinance.Gateway.Renewal
import RoqBinance.Gateway.Response
import RoqBinance.Gateway.Rest
import RoqBinance.Gateway.RestStream
import RoqBinance.Gateway.Routing
import RoqBinance.Gateway.Serving
import RoqBinance.Gateway.Shared
import RoqBinance.Gateway.SignedRequests
import RoqBinance.Gateway.SingleDownload
import RoqBinance.Gateway.SpotProgress
import RoqBinance.Gateway.SpotRecovery
import RoqBinance.Gateway.SteadyLinks
import RoqBinance.Gateway.SteadySocket
import RoqBinance.Gateway.Streams
import RoqBinance.Gateway.SubscribeMessages
import RoqBinance.Gateway.Subscriptions
import RoqBinance.Gateway.SymbolTable
import RoqBinance.Gateway.Templates
import RoqBinance.Gateway.TradeRecovery
import RoqBinance.Gateway.UnknownEvents
import RoqBinance.Gateway.Venue
import RoqBinance.Gateway.Wallets
import RoqBinance.Gateway.WebSocket
import RoqBinance.Library.Base64
import RoqBinance.Library.Codecs
import RoqBinance.Library.Conservation
import RoqBinance.Library.Delivery
import RoqBinance.Library.Desk
import RoqBinance.Library.Dictionary
import RoqBinance.Library.Download
import RoqBinance.Library.Fields
import RoqBinance.Library.Handshake
import RoqBinance.Library.JsonText
import RoqBinance.Library.Lease
import RoqBinance.Library.Machine
import RoqBinance.Library.Numbering
import RoqBinance.Library.Progress
import RoqBinance.Library.Purge
import RoqBinance.Library.Scratch
import RoqBinance.Library.Slices
import RoqBinance.Library.Tables
import RoqBinance.Library.Watermark
import RoqBinance.Library.WeightedMean
import RoqBinance.Protocol.Json.CancelEncoder
import RoqBinance.Protocol.Json.Encoder
import RoqBinance.Protocol.Json.ExchangeInfoAck
import RoqBinance.Protocol.Json.KeyOrder
import RoqBinance.Protocol.Json.MarketStreamParser
import RoqBinance.Protocol.Json.OrderEncoder
import RoqBinance.Protocol.Json.Types
import RoqBinance.Protocol.Json.UserStreamParser
import RoqBinance.Protocol.Json.WSAPIParser
import RoqBinance.Protocol.Json.WSAPIRequest
import RoqBinance.Tools.Crypto
import RoqBinance.Tools.Throttle
