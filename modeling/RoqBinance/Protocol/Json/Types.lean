import RoqBinance.Api

/-! The exchange's enumerations and the messages of the private streams, as far as a handler
reads them, with the maps to the gateway's own values. -/
namespace RoqBinance.Protocol.Json

inductive OrderStatus
  | undefinedInternal | unknownInternal | new | partiallyFilled | filled | canceled
  | pendingCancel | rejected | expired
  deriving DecidableEq, Repr

inductive OrderType
  | undefinedInternal | unknownInternal | limit | market | stopLoss | stopLossLimit
  | takeProfit | takeProfitLimit | limitMaker
  deriving DecidableEq, Repr

inductive Side | undefinedInternal | unknownInternal | buy | sell
  deriving DecidableEq, Repr

inductive TimeInForce | undefinedInternal | unknownInternal | gtc | ioc | fok
  deriving DecidableEq, Repr

inductive ExecutionType
  | undefinedInternal | unknownInternal | new | canceled | replaced | rejected | trade | expired
  deriving DecidableEq, Repr

inductive RateLimitType | undefinedInternal | unknownInternal | requestWeight | orders | rawRequests
  deriving DecidableEq, Repr

inductive Interval | undefinedInternal | unknownInternal | second | minute | day
  deriving DecidableEq, Repr

inductive EventType
  | undefinedInternal | unknownInternal | serverShutdown | aggTrade | trade | miniTicker24hr
  | bookTicker | depthUpdate | outboundAccountPosition | balanceUpdate | executionReport
  | listStatus | openOrderLoss | orderTradeUpdate | eventStreamTerminated | accountUpdate
  | positionHistoryUpdate | liabilityChange
  deriving DecidableEq, Repr

def OrderStatus.map : OrderStatus → RoqBinance.OrderStatus
  | undefinedInternal => .undefined
  | unknownInternal => .undefined
  | new => .working
  | partiallyFilled => .working
  | filled => .completed
  | canceled => .canceled
  | pendingCancel => .undefined
  | rejected => .rejected
  | expired => .expired

def OrderType.map : OrderType → RoqBinance.OrderType
  | undefinedInternal => .undefined
  | unknownInternal => .undefined
  | limit => .limit
  | market => .market
  | stopLoss => .market
  | stopLossLimit => .limit
  | takeProfit => .undefined
  | takeProfitLimit => .undefined
  | limitMaker => .limit

def Side.map : Side → RoqBinance.Side
  | undefinedInternal => .undefined
  | unknownInternal => .undefined
  | buy => .buy
  | sell => .sell

def TimeInForce.map : TimeInForce → RoqBinance.TimeInForce
  | undefinedInternal => .undefined
  | unknownInternal => .undefined
  | gtc => .gtc
  | ioc => .ioc
  | fok => .fok

def guessError (code : ℤ) : Error :=
  match code with
  | -1002 => .notAuthorized
  | -1003 => .requestRateLimitReached
  | -1015 => .requestRateLimitReached
  | -1021 => .invalidRequestArgs
  | -1022 => .notAuthorized
  | -1099 => .notAuthorized
  | -1100 => .invalidRequestArgs
  | -1101 => .invalidRequestArgs
  | -1102 => .invalidRequestArgs
  | -1103 => .invalidRequestArgs
  | -1104 => .invalidRequestArgs
  | -1105 => .invalidRequestArgs
  | -1106 => .invalidRequestArgs
  | -1111 => .invalidRequestArgs
  | -1114 => .invalidTimeInForce
  | -1115 => .invalidTimeInForce
  | -1116 => .invalidOrderType
  | -1117 => .invalidSide
  | -1118 => .invalidRequestId
  | -1119 => .invalidRequestId
  | -1121 => .invalidSymbol
  | -1125 => .notAuthorized
  | -1128 => .invalidRequestArgs
  | -1130 => .invalidRequestArgs
  | -1131 => .invalidRequestArgs
  | -2008 => .notAuthorized
  | -2011 => .tooLateToModifyOrCancel
  | -2013 => .unknownOrderId
  | _ => .unknown

structure ErrorError where
  code : ℤ
  msg : String
  deriving DecidableEq, Repr

structure RateLimitsItem where
  rateLimitType : RateLimitType
  interval : Interval
  intervalNum : ℕ
  limit : ℕ
  count : ℕ
  deriving DecidableEq, Repr

structure ListenKeyAckMargin where
  token : String
  deriving DecidableEq, Repr

structure ListenKeyAck where
  listenKey : String
  deriving DecidableEq, Repr

structure Balance where
  asset : String
  free : Double
  locked : Double
  deriving DecidableEq, Repr

structure AccountAck where
  updateTime : ℕ
  balances : List Balance
  deriving DecidableEq, Repr

structure UserAsset where
  asset : String
  borrowed : Double
  free : Double
  locked : Double
  deriving DecidableEq, Repr

structure CrossMarginAccount where
  userAssets : List UserAsset
  deriving DecidableEq, Repr

structure Balance2 where
  asset : String
  totalWalletBalance : Double
  updateTime : ℕ
  deriving DecidableEq, Repr

structure BalancesAck where
  data : List Balance2
  deriving DecidableEq, Repr

structure Order where
  symbol : String
  orderId : ℤ
  clientOrderId : String
  price : Double
  origQty : Double
  executedQty : Double
  status : OrderStatus
  timeInForce : TimeInForce
  type : OrderType
  side : Side
  stopPrice : Double
  time : ℕ
  updateTime : ℕ
  origClientOrderId : String
  deriving DecidableEq, Repr

structure OpenOrdersAck where
  data : List Order
  deriving DecidableEq, Repr

structure Trade2 where
  symbol : String
  id : ℤ
  orderId : ℤ
  price : Double
  qty : Double
  quoteQty : Double
  commission : Double
  commissionAsset : String
  time : ℕ
  isBuyer : Bool
  isMaker : Bool
  deriving DecidableEq, Repr

structure TradesAck where
  data : List Trade2
  deriving DecidableEq, Repr

structure Fill where
  price : Double
  qty : Double
  deriving DecidableEq, Repr

structure NewOrderAck where
  symbol : String
  orderId : ℤ
  transactTime : ℕ
  price : Double
  origQty : Double
  executedQty : Double
  cummulativeQuoteQty : Double
  status : OrderStatus
  timeInForce : TimeInForce
  type : OrderType
  side : Side
  fills : List Fill
  isIsolated : Bool
  deriving DecidableEq, Repr

structure CancelOrderAck where
  symbol : String
  orderId : ℤ
  price : Double
  origQty : Double
  executedQty : Double
  status : OrderStatus
  timeInForce : TimeInForce
  type : OrderType
  side : Side
  transactTime : ℕ
  isIsolated : Bool
  deriving DecidableEq, Repr

structure AmendedOrder where
  symbol : String
  orderId : ℕ
  price : Double
  qty : Double
  executedQty : Double
  status : OrderStatus
  timeInForce : TimeInForce
  type : OrderType
  side : Side
  deriving DecidableEq, Repr

structure OrderAmendKeepPriority where
  transactTime : ℕ
  amendedOrder : AmendedOrder
  deriving DecidableEq, Repr

structure BalancesItem where
  asset : String
  freeAmount : Double
  lockedAmount : Double
  deriving DecidableEq, Repr

structure OutboundAccountPositionData where
  eventTime : ℕ
  timeOfLastAccountUpdate : ℕ
  balances : List BalancesItem
  deriving DecidableEq, Repr

structure ExecutionReportData where
  eventTime : ℕ
  symbol : String
  clientOrderId : String
  side : Side
  orderType : OrderType
  timeInForce : TimeInForce
  price : Double
  stopPrice : Double
  currentExecutionType : ExecutionType
  currentOrderStatus : OrderStatus
  orderId : ℤ
  lastExecutedQuantity : Double
  cumulativeFilledQuantity : Double
  lastExecutedPrice : Double
  commissionAmount : Double
  commissionAsset : String
  transactionTime : ℕ
  tradeId : ℤ
  isTradeMaker : Bool
  cumulativeQuoteAssetTransactedQuantity : Double
  lastQuoteAssetTransactedQuantity : Double
  deriving DecidableEq, Repr

/-- A reply on the WebSocket API; `result` and `error` keep their defaults when absent. -/
structure WSAPIReply (α : Type) where
  status : ℤ
  result : α
  error : ErrorError
  rateLimits : List RateLimitsItem
  deriving DecidableEq, Repr

end RoqBinance.Protocol.Json
