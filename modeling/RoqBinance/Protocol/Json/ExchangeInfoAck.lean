import RoqBinance.Protocol.Json.Types

/-! The reference data of the exchange. -/
namespace RoqBinance.Protocol.Json

inductive SymbolStatus
  | undefinedInternal | unknownInternal | preTrading | trading | postTrading | endOfDay | halt
  | auctionMatch | breaking
  deriving DecidableEq, Repr

def SymbolStatus.map : SymbolStatus → TradingStatus
  | undefinedInternal => .undefined
  | unknownInternal => .undefined
  | trading => .opened
  | halt => .halt
  | breaking => .close
  | endOfDay => .endOfDay
  | preTrading => .preOpen
  | auctionMatch => .preOpen
  | postTrading => .close

inductive FilterType
  | undefinedInternal | unknownInternal | priceFilter | percentPrice | lotSize | minNotional
  | icebergParts | marketLotSize | maxNumOrders | maxNumAlgoOrders | maxNumIcebergOrders
  | maxPosition | exchangeMaxNumOrders | exchangeMaxNumAlgoOrders | trailingDelta
  | percentPriceBySide | notional | maxNumOrderLists | maxNumOrderAmends
  deriving DecidableEq, Repr

structure Filter where
  filterType : FilterType
  minNotional : Double
  tickSize : Double
  minQty : Double
  maxQty : Double
  stepSize : Double
  deriving DecidableEq, Repr

structure Symbol where
  symbol : String
  status : SymbolStatus
  baseAsset : String
  baseAssetPrecision : ℕ
  quoteAsset : String
  quotePrecision : ℕ
  filters : List Filter
  deriving DecidableEq, Repr

/-- The items of the rate limits come without a count. -/
structure ExchangeInfoAck where
  serverTime : ℕ
  rateLimits : List RateLimitsItem
  symbols : List Symbol
  deriving DecidableEq, Repr

end RoqBinance.Protocol.Json
