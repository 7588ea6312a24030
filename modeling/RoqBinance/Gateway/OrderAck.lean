import RoqBinance.Gateway.Shared

/-! How the order-entry streams turn the reply to an order request into a response for the
client and an update of the order. -/
namespace RoqBinance.Gateway
open Protocol.Json

def accepted (requestType : RequestType) (version : UInt32) (externalOrderId : String) : Response :=
  { requestType := requestType, origin := .exchange, requestStatus := .accepted,
    error := .undefined, text := "", version := version, externalOrderId := externalOrderId }

def refused (requestType : RequestType) (origin : Origin) (status : RequestStatus) (error : Error)
    (text : String) (version : UInt32) : Response :=
  { requestType := requestType, origin := origin, requestStatus := status, error := error,
    text := text, version := version, externalOrderId := "" }

namespace NewOrder

/-- A `LIMIT_MAKER` order comes back without its state. -/
def orderStatus (ack : NewOrderAck) : RoqBinance.OrderStatus :=
  if ack.status.map = .undefined then .working else ack.status.map

def lastTradedQuantity (ack : NewOrderAck) : Double :=
  ack.fills.foldl (fun (sum : Double) item => sum.add item.qty) (some 0)

def tmp (ack : NewOrderAck) : Double :=
  ack.fills.foldl (fun (sum : Double) item => sum.add (item.price.mul item.qty)) (some 0)

section
variable (shared : Shared) (divide : Double → Double → Double) (ack : NewOrderAck)

def averageTradedPrice : Double :=
  if shared.isZero ack.executedQty then NaN else divide ack.cummulativeQuoteQty ack.executedQty

def lastTradedPrice : Double :=
  if shared.isGreater (lastTradedQuantity ack) (some 0) then
    divide (tmp ack) (lastTradedQuantity ack)
  else NaN

end

def orderUpdate (shared : Shared) (account : String) (marginMode : MarginMode)
    (ack : NewOrderAck) : OrderUpdate :=
  { account := account, exchange := shared.settings.exchange, symbol := ack.symbol,
    side := ack.side.map, marginMode := marginMode, orderType := ack.type.map,
    timeInForce := ack.timeInForce.map, createTimeUtc := 0, updateTimeUtc := ack.transactTime,
    externalOrderId := toString ack.orderId, clientOrderId := "", orderStatus := orderStatus ack,
    quantity := ack.origQty, price := ack.price, stopPrice := NaN,
    remainingQuantity := ack.origQty.sub ack.executedQty, tradedQuantity := ack.executedQty,
    averageTradedPrice := averageTradedPrice shared Double.div ack,
    lastTradedQuantity := lastTradedQuantity ack,
    lastTradedPrice := lastTradedPrice shared Double.div ack,
    lastLiquidity := .undefined, updateType := .incremental, sendingTimeUtc := 0 }

end NewOrder

/-- The REST streams leave the time of a cancel out. -/
def cancelOrderUpdate (shared : Shared) (account : String) (marginMode : MarginMode)
    (updateTimeUtc : ℕ) (ack : CancelOrderAck) : OrderUpdate :=
  { account := account, exchange := shared.settings.exchange, symbol := ack.symbol,
    side := ack.side.map, marginMode := marginMode, orderType := ack.type.map,
    timeInForce := ack.timeInForce.map, createTimeUtc := 0, updateTimeUtc := updateTimeUtc,
    externalOrderId := toString ack.orderId, clientOrderId := "", orderStatus := ack.status.map,
    quantity := ack.origQty, price := ack.price, stopPrice := NaN, remainingQuantity := NaN,
    tradedQuantity := ack.executedQty, averageTradedPrice := NaN, lastTradedQuantity := NaN,
    lastTradedPrice := NaN, lastLiquidity := .undefined, updateType := .incremental,
    sendingTimeUtc := 0 }

def amendOrderUpdate (shared : Shared) (account : String) (ack : OrderAmendKeepPriority) :
    OrderUpdate :=
  { account := account, exchange := shared.settings.exchange, symbol := ack.amendedOrder.symbol,
    side := ack.amendedOrder.side.map, marginMode := .undefined,
    orderType := ack.amendedOrder.type.map, timeInForce := ack.amendedOrder.timeInForce.map,
    createTimeUtc := 0, updateTimeUtc := ack.transactTime,
    externalOrderId := toString ack.amendedOrder.orderId, clientOrderId := "",
    orderStatus := ack.amendedOrder.status.map, quantity := ack.amendedOrder.qty,
    price := ack.amendedOrder.price, stopPrice := NaN, remainingQuantity := NaN,
    tradedQuantity := ack.amendedOrder.executedQty, averageTradedPrice := NaN,
    lastTradedQuantity := NaN, lastTradedPrice := NaN, lastLiquidity := .undefined,
    updateType := .incremental, sendingTimeUtc := 0 }

end RoqBinance.Gateway
