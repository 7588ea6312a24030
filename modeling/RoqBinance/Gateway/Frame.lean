import RoqBinance.Gateway.Shared
import RoqBinance.Protocol.Json.WSAPIParser

/-! Requests on the WebSocket API, and what its streams do alike with an event or a reply. -/
namespace RoqBinance.Gateway
open Protocol.Json

/-- The parameters of a request; those of an order are the text of the encoder. -/
inductive Params
  | none
  | sessionLogon (timestamp : ℕ)
  | listenToken (listenToken : String)
  | timestamp (timestamp : ℕ)
  | myTrades (timestamp limit : ℕ) (startTime : ℤ) (symbol : String)
  | cancelAll (symbol : String) (timestamp : ℕ)
  | order (text : String)
  deriving DecidableEq, Repr

/-- A text message; its `id` is the encoded request. -/
structure Frame where
  request : WSAPIRequest
  method : String
  params : Params
  deriving DecidableEq, Repr

namespace Frame

def id (frame : Frame) : List Char := frame.request.encode

end Frame

def milliseconds (time : ℕ) : ℕ := time/10^6

def rateLimitType (item : RateLimitsItem) : RoqBinance.RateLimitType :=
  match item.rateLimitType with
  | .undefinedInternal => .undefined
  | .unknownInternal => .undefined
  | .orders => .createOrder
  | .requestWeight => .requestWeight
  | .rawRequests => .request

/-- In seconds. -/
def rateLimitPeriod (item : RateLimitsItem) : ℕ :=
  match item.interval with
  | .undefinedInternal => 0
  | .unknownInternal => 0
  | .second => item.intervalNum
  | .minute => item.intervalNum*60
  | .day => item.intervalNum*86400

def rateLimits (items : List RateLimitsItem) : List RateLimit :=
  (items.filter fun item => rateLimitType item ≠ .undefined).map fun item =>
    ⟨rateLimitType item,rateLimitPeriod item,item.limit,item.count⟩

def updateRateLimits (streamId : ℕ) (account : String) (items : List RateLimitsItem) :
    List Dispatch :=
  if rateLimits items = [] then [] else [.rateLimitsUpdate streamId account (rateLimits items)]

def onOutboundAccountPosition (streamId : ℕ) (account : String) (marginMode : MarginMode)
    (event : OutboundAccountPositionData) : List Dispatch :=
  event.balances.map fun item => .fundsUpdate
    { streamId := streamId, account := account, currency := item.asset,
      marginMode := marginMode, balance := item.freeAmount, hold := item.lockedAmount,
      borrowed := NaN, updateType := .incremental,
      exchangeTimeUtc := event.timeOfLastAccountUpdate, sendingTimeUtc := event.eventTime }

/-- The order that an order update was matched with, when there is one. -/
structure MatchedOrder where
  userId : UInt8
  orderId : UInt64
  strategyId : ℕ
  deriving DecidableEq, Repr

def executionReportUpdate (shared : Shared) (account : String) (marginMode : MarginMode)
    (report : ExecutionReportData) : OrderUpdate :=
  { account := account, exchange := shared.settings.exchange, symbol := report.symbol,
    side := report.side.map, marginMode := marginMode, orderType := report.orderType.map,
    timeInForce := report.timeInForce.map, createTimeUtc := 0,
    updateTimeUtc := report.transactionTime, externalOrderId := toString report.orderId,
    clientOrderId := report.clientOrderId, orderStatus := report.currentOrderStatus.map,
    quantity := NaN, price := report.price, stopPrice := report.stopPrice,
    remainingQuantity := NaN, tradedQuantity := report.cumulativeFilledQuantity,
    averageTradedPrice :=
      if shared.isZero report.cumulativeFilledQuantity then NaN
      else report.cumulativeQuoteAssetTransactedQuantity.div report.cumulativeFilledQuantity,
    lastTradedQuantity := report.lastExecutedQuantity,
    lastTradedPrice := report.lastExecutedPrice,
    lastLiquidity := if report.isTradeMaker then .maker else .taker,
    updateType := .incremental, sendingTimeUtc := report.eventTime }

def executionReportTrade (shared : Shared) (streamId : ℕ) (account : String)
    (marginMode : MarginMode) (order : MatchedOrder) (report : ExecutionReportData) : TradeUpdate :=
  { streamId := streamId, account := account, orderId := order.orderId,
    exchange := shared.settings.exchange, symbol := report.symbol, side := report.side.map,
    marginMode := marginMode, createTimeUtc := report.transactionTime,
    updateTimeUtc := report.transactionTime, externalOrderId := toString report.orderId,
    clientOrderId := report.clientOrderId,
    fills := [
      { exchangeTimeUtc := 0, externalTradeId := toString report.tradeId,
        quantity := report.lastExecutedQuantity, price := report.lastExecutedPrice,
        liquidity := if report.isTradeMaker then .maker else .taker,
        commissionAmount := report.commissionAmount,
        commissionCurrency := report.commissionAsset,
        quoteAmount := report.lastQuoteAssetTransactedQuantity,
        profitLossAmount := shared.computeProfitLossAmount report.side.map
          report.lastExecutedQuantity report.lastExecutedPrice
          (shared.multiplier report.symbol) }],
    updateType := .incremental, sendingTimeUtc := report.eventTime,
    strategyId := order.strategyId }

/-- An execution report updates the order and, when it reports a trade, the trades. -/
def onExecutionReport (shared : Shared) (streamId : ℕ) (account : String)
    (marginMode : MarginMode) (order : MatchedOrder) (report : ExecutionReportData) :
    List Dispatch :=
  .orderUpdate streamId (executionReportUpdate shared account marginMode report) ::
    if report.currentExecutionType ≠ .trade then []
    else [.tradeUpdate (executionReportTrade shared streamId account marginMode order report)
      (some order.userId)]

end RoqBinance.Gateway
