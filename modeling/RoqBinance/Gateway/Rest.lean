import Mathlib.Algebra.Order.Ring.Rat
import RoqBinance.Gateway.Shared
import RoqBinance.Protocol.Json.ExchangeInfoAck

/-! The REST stream: what it makes of the reference data of the exchange. -/
namespace RoqBinance.Gateway
open Protocol.Json

def normalizedSymbol (value : String) : String := String.ofList (value.toList.map Char.toLower)

/-- The limits that the exchange has announced. -/
structure Limits where
  requestWeight1m : ℕ
  createOrder10s : ℕ
  createOrder1d : ℕ
  deriving DecidableEq, Repr

namespace Rest

inductive Output
  | referenceData (update : ReferenceData) (isLast : Bool)
  | marketStatus (update : MarketStatus) (isLast : Bool)
  | symbolsUpdate (symbols : List String)
  deriving DecidableEq, Repr

/-- What the stream relies on. A dispatch may throw, `throws` is whether the one at a position
does; `maxLengthSymbol` is what a symbol of the gateway has room for. -/
structure Dispatcher where
  discardSymbol : String → Bool
  throws : ℕ → Bool
  maxLengthSymbol : ℕ

/-- The state shared with the other streams, the symbols that are new, the number of those that
are included, and the effects. -/
structure Ctx where
  limits : Limits
  allSymbols : List String
  symbols : List String
  counter : ℕ
  outputs : List Output
  deriving DecidableEq, Repr

/-- An exception leaves everything as it is when it is thrown. -/
abbrev Result := Except Ctx Ctx

/-- The interval of a request weight is not looked at. -/
def onRateLimitsItem (limits : Limits) (item : RateLimitsItem) : Limits :=
  match item.rateLimitType with
  | .undefinedInternal => limits
  | .unknownInternal => limits
  | .orders =>
    match item.interval with
    | .undefinedInternal => limits
    | .unknownInternal => limits
    | .second =>
      if item.intervalNum = 10 then {limits with createOrder10s := item.limit} else limits
    | .minute => limits
    | .day => if item.intervalNum = 1 then {limits with createOrder1d := item.limit} else limits
  | .requestWeight => {limits with requestWeight1m := item.limit}
  | .rawRequests => limits

/-- The steps of a price or a quantity, from the precisions unless a filter says so. -/
structure Increments where
  tickSize : Double
  minTradeVol : Double
  maxTradeVol : Double
  tradeVolStepSize : Double
  minNotional : Double
  deriving DecidableEq, Repr

def fallBack (item : Symbol) : Increments where
  tickSize := some (1/10^item.quotePrecision)
  minTradeVol := some (1/10^item.baseAssetPrecision)
  maxTradeVol := NaN
  tradeVolStepSize := some (1/10^item.baseAssetPrecision)
  minNotional := NaN

def onFilter (increments : Increments) (filter : Filter) : Increments :=
  match filter.filterType with
  | .priceFilter => {increments with tickSize := filter.tickSize}
  | .lotSize =>
    {increments with
      minTradeVol := filter.minQty, maxTradeVol := filter.maxQty,
      tradeVolStepSize := filter.stepSize}
  | .minNotional => {increments with minNotional := filter.minNotional}
  | _ => increments

section
variable (shared : Shared) (streamId : ℕ) (dispatcher : Dispatcher)

def referenceData (serverTime : ℕ) (item : Symbol) (discard : Bool) : ReferenceData :=
  let increments := item.filters.foldl onFilter (fallBack item)
  { streamId := streamId, exchange := shared.settings.exchange, symbol := item.symbol,
    baseCurrency := item.baseAsset, quoteCurrency := item.quoteAsset,
    tickSize := increments.tickSize, minNotional := increments.minNotional,
    minTradeVol := increments.minTradeVol, maxTradeVol := increments.maxTradeVol,
    tradeVolStepSize := increments.tradeVolStepSize, sendingTimeUtc := serverTime,
    discard := discard }

def marketStatus (serverTime : ℕ) (item : Symbol) : MarketStatus :=
  { streamId := streamId, exchange := shared.settings.exchange, symbol := item.symbol,
    tradingStatus := item.status.map, sendingTimeUtc := serverTime }

def dispatch (output : Output) (ctx : Ctx) : Result :=
  if dispatcher.throws ctx.outputs.length then .error ctx
  else .ok {ctx with outputs := ctx.outputs ++ [output]}

/-- A symbol is entered before it is converted, and only those that are new are collected. -/
def enter (symbol : String) (ctx : Ctx) : Result :=
  if symbol ∈ ctx.allSymbols then .ok ctx
  else
    let ctx := {ctx with allSymbols := ctx.allSymbols ++ [symbol]}
    if dispatcher.maxLengthSymbol < symbol.utf8ByteSize then .error ctx
    else .ok {ctx with symbols := ctx.symbols ++ [symbol]}

def onSymbol (serverTime : ℕ) (ctx : Ctx) (item : Symbol) : Result :=
  let discard := dispatcher.discardSymbol item.symbol
  (dispatch dispatcher (.referenceData (referenceData shared streamId serverTime item discard)
    false) ctx).bind fun ctx =>
      if discard then .ok ctx
      else
        (enter dispatcher (normalizedSymbol item.symbol) ctx).bind fun ctx =>
          dispatch dispatcher (.marketStatus (marketStatus shared streamId serverTime item) true)
            {ctx with counter := ctx.counter+1}

/-- The symbols that are new are passed on when all have been processed. -/
def onExchangeInfoAck (ack : ExchangeInfoAck) (limits : Limits) (allSymbols : List String) :
    Result :=
  (ack.symbols.foldlM (onSymbol shared streamId dispatcher ack.serverTime)
    ⟨ack.rateLimits.foldl onRateLimitsItem limits,allSymbols,[],0,[]⟩).bind fun ctx =>
      if ctx.symbols = [] then .ok ctx
      else .ok {ctx with outputs := ctx.outputs ++ [.symbolsUpdate ctx.symbols]}

end
end Rest
end RoqBinance.Gateway
