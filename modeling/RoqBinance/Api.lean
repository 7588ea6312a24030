import Mathlib.Data.Rat.Defs

/-! The records a gateway exchanges with the dispatcher. -/
namespace RoqBinance

/-- A double of the source, exact; `none` is NaN. -/
abbrev Double := Option ℚ

def NaN : Double := none

namespace Double

def add (x y : Double) : Double := x.bind fun a => y.map fun b => a+b
def sub (x y : Double) : Double := x.bind fun a => y.map fun b => a-b
def mul (x y : Double) : Double := x.bind fun a => y.map fun b => a*b
def div (x y : Double) : Double := x.bind fun a => y.map fun b => a/b

def isZero (x : Double) : Bool := x = some 0
def isGreater (x y : Double) : Bool :=
  match x,y with
  | some a,some b => decide (b < a)
  | _,_ => false

end Double

inductive MarginMode | undefined | isolated | cross | portfolio
  deriving DecidableEq, Repr

inductive ConnectionStatus | undefined | disconnected | loginSent | downloading | ready
  deriving DecidableEq, Repr

inductive UpdateType | undefined | snapshot | incremental
  deriving DecidableEq, Repr

inductive Side | undefined | buy | sell
  deriving DecidableEq, Repr

inductive OrderType | undefined | market | limit
  deriving DecidableEq, Repr

inductive TimeInForce
  | undefined | gfd | gtc | opg | ioc | fok | gtx | gtd | atTheClose | goodThroughCrossing
  | atCrossing | goodForTime | gfa | gfm
  deriving DecidableEq, Repr

/-- The only instruction that is asked about. -/
inductive ExecutionInstruction | participateDoNotInitiate | other (code : ℕ)
  deriving DecidableEq, Repr

inductive OrderStatus | undefined | working | completed | canceled | rejected | expired
  deriving DecidableEq, Repr

inductive Liquidity | undefined | maker | taker
  deriving DecidableEq, Repr

inductive Origin | undefined | gateway | exchange
  deriving DecidableEq, Repr

inductive RequestType | undefined | createOrder | modifyOrder | cancelOrder
  deriving DecidableEq, Repr

/-- `network` is whichever status a network error carries. -/
inductive RequestStatus | undefined | forwarded | accepted | rejected | error | network (code : ℕ)
  deriving DecidableEq, Repr

/-- `network` is whichever error a network error carries. -/
inductive Error
  | undefined | unknown | notAuthorized | requestRateLimitReached | invalidRequestArgs
  | invalidTimeInForce | invalidOrderType | invalidSide | invalidRequestId | invalidSymbol
  | invalidMarginMode | invalidRequestTemplate | tooLateToModifyOrCancel | unknownOrderId | network (code : ℕ)
  deriving DecidableEq, Repr

inductive RateLimitType | undefined | createOrder | requestWeight | request
  deriving DecidableEq, Repr

inductive TradingStatus | undefined | opened | halt | close | endOfDay | preOpen
  deriving DecidableEq, Repr

structure FundsUpdate where
  streamId : ℕ
  account : String
  currency : String
  marginMode : MarginMode
  balance : Double
  hold : Double
  borrowed : Double
  updateType : UpdateType
  exchangeTimeUtc : ℕ
  sendingTimeUtc : ℕ
  deriving DecidableEq, Repr

structure OrderUpdate where
  account : String
  exchange : String
  symbol : String
  side : Side
  marginMode : MarginMode
  orderType : OrderType
  timeInForce : TimeInForce
  createTimeUtc : ℕ
  updateTimeUtc : ℕ
  externalOrderId : String
  clientOrderId : String
  orderStatus : OrderStatus
  quantity : Double
  price : Double
  stopPrice : Double
  remainingQuantity : Double
  tradedQuantity : Double
  averageTradedPrice : Double
  lastTradedQuantity : Double
  lastTradedPrice : Double
  lastLiquidity : Liquidity
  updateType : UpdateType
  sendingTimeUtc : ℕ
  deriving DecidableEq, Repr

structure Fill where
  exchangeTimeUtc : ℕ
  externalTradeId : String
  quantity : Double
  price : Double
  liquidity : Liquidity
  commissionAmount : Double
  commissionCurrency : String
  quoteAmount : Double
  profitLossAmount : Double
  deriving DecidableEq, Repr

structure TradeUpdate where
  streamId : ℕ
  account : String
  orderId : UInt64
  exchange : String
  symbol : String
  side : Side
  marginMode : MarginMode
  createTimeUtc : ℕ
  updateTimeUtc : ℕ
  externalOrderId : String
  clientOrderId : String
  fills : List Fill
  updateType : UpdateType
  sendingTimeUtc : ℕ
  strategyId : ℕ
  deriving DecidableEq, Repr

structure Response where
  requestType : RequestType
  origin : Origin
  requestStatus : RequestStatus
  error : Error
  text : String
  version : UInt32
  externalOrderId : String
  deriving DecidableEq, Repr

structure CancelAllOrdersAck where
  streamId : ℕ
  account : String
  orderId : UInt64
  exchange : String
  symbol : String
  side : Side
  origin : Origin
  requestStatus : RequestStatus
  error : Error
  text : String
  requestId : String
  strategyId : ℕ
  deriving DecidableEq, Repr

structure RateLimit where
  type : RateLimitType
  period : ℕ
  limit : ℕ
  value : ℕ
  deriving DecidableEq, Repr

structure ReferenceData where
  streamId : ℕ
  exchange : String
  symbol : String
  baseCurrency : String
  quoteCurrency : String
  tickSize : Double
  minNotional : Double
  minTradeVol : Double
  maxTradeVol : Double
  tradeVolStepSize : Double
  sendingTimeUtc : ℕ
  discard : Bool
  deriving DecidableEq, Repr

structure MarketStatus where
  streamId : ℕ
  exchange : String
  symbol : String
  tradingStatus : TradingStatus
  sendingTimeUtc : ℕ
  deriving DecidableEq, Repr

/-- What a stream hands to the dispatcher. A response names the user and order it is for,
and may come with an order update; a trade update may be for no user. -/
inductive Dispatch
  | streamStatus (streamId : ℕ) (account : String) (status : ConnectionStatus) (reason : String)
  | fundsUpdate (update : FundsUpdate)
  | orderUpdate (streamId : ℕ) (update : OrderUpdate)
  | tradeUpdate (update : TradeUpdate) (userId : Option UInt8)
  | response (response : Response) (update : Option OrderUpdate) (streamId : ℕ)
    (userId : UInt8) (orderId : UInt64)
  | cancelAllOrdersAck (ack : CancelAllOrdersAck)
  | rateLimitsUpdate (streamId : ℕ) (account : String) (limits : List RateLimit)
  deriving DecidableEq, Repr

/-- Who has sent a request, and when it arrived. -/
structure MessageInfo where
  source : UInt8
  receiveTimeUtc : ℕ
  deriving DecidableEq, Repr

structure CreateOrder where
  account : String
  orderId : UInt64
  symbol : String
  marginMode : MarginMode
  requestTemplate : String
  deriving DecidableEq, Repr

structure ModifyOrder where
  account : String
  orderId : UInt64
  version : UInt32
  price : Double
  deriving DecidableEq, Repr

structure CancelOrder where
  account : String
  orderId : UInt64
  version : UInt32
  requestTemplate : String
  deriving DecidableEq, Repr

structure CancelAllOrders where
  account : String
  orderId : UInt64
  exchange : String
  symbol : String
  side : Side
  strategyId : ℕ
  deriving DecidableEq, Repr

/-- The exceptions by which a stream refuses a request. -/
inductive Exception
  | notReady (text : String)
  | notSupported (text : String)
  | rejected (origin : Origin) (error : Error) (text : String)
  | runtimeError (text : String)
  deriving DecidableEq, Repr

end RoqBinance
