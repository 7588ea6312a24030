import Mathlib.Algebra.Group.Int.Defs
import RoqBinance.Gateway.Frame
import RoqBinance.Gateway.OrderAck

/-! The order entry of the spot wallet: one socket on which orders are sent, replies are told
apart by the id they echo, and the events of the user stream arrive. -/
namespace RoqBinance.Gateway
open Library Protocol.Json

namespace WebSocket

inductive State
  | sessionLogon | userDataStreamSubscribe | accountStatus | openOrdersStatus | myTrades | done
  deriving DecidableEq, Repr

end WebSocket

structure WebSocket where
  streamId : ℕ
  account : String
  requestId : UInt32
  openOrdersSymbols : List String
  ready : Bool
  connectionStatus : ConnectionStatus
  download : Download WebSocket.State
  downloadTradesIsFirst : Bool
  deriving DecidableEq, Repr

namespace WebSocket

def REQUEST_ID : ℕ := 1000000

def DOWNLOAD_TRADES_LIMIT : ℕ := 1000

def create (streamId : ℕ) (account : String) : WebSocket where
  streamId := streamId
  account := account
  requestId := UInt32.ofNat (REQUEST_ID*streamId)
  openOrdersSymbols := []
  ready := false
  connectionStatus := .undefined
  download := .idle
  downloadTradesIsFirst := true

def isReady (self : WebSocket) : Bool := self.connectionStatus = .ready

/-- The stream takes no part in the shared request. -/
abbrev Ctx := Context WebSocket Frame

def onConnectionStatus (status : ConnectionStatus) (reason : String) (ctx : Ctx) : Ctx :=
  (ctx.modify fun self => {self with connectionStatus := status}).dispatch
    (.streamStatus ctx.self.streamId ctx.self.account status reason)

/-- Number a request and send it. -/
def sendText (type : WSAPIType) (userId : UInt8) (orderId : UInt64) (version : UInt32)
    (method : String) (params : Params) (ctx : Ctx) : Ctx :=
  (ctx.modify fun self => {self with requestId := self.requestId+1}).send
    ⟨⟨ctx.self.requestId+1,type,userId,orderId,version,0⟩,method,params⟩

def sessionLogon (t : TraceInfo) (ctx : Ctx) : Ctx :=
  onConnectionStatus .loginSent "session.logon"
    (sendText .SESSION_LOGON 0 0 0 "session.logon"
      (.sessionLogon (milliseconds t.originCreateTimeUtc)) ctx)

def userDataStreamSubscribe (ctx : Ctx) : Ctx :=
  onConnectionStatus .downloading "userDataStream.subscribe"
    (sendText .USER_DATA_STREAM_SUBSCRIBE 0 0 0 "userDataStream.subscribe" .none ctx)

def accountStatus (t : TraceInfo) (ctx : Ctx) : Ctx :=
  onConnectionStatus .downloading "account.status"
    (sendText .ACCOUNT_STATUS 0 0 0 "account.status"
      (.timestamp (milliseconds t.originCreateTimeUtc)) ctx)

def openOrdersStatus (t : TraceInfo) (ctx : Ctx) : Ctx :=
  onConnectionStatus .downloading "openOrders.status"
    (sendText .OPEN_ORDERS_STATUS 0 0 0 "openOrders.status"
      (.timestamp (milliseconds t.originCreateTimeUtc)) ctx)

section
variable (shared : Shared)

def tradesLimit : ℕ :=
  if shared.settings.tradesLimit ≠ 0 then shared.settings.tradesLimit else DOWNLOAD_TRADES_LIMIT

/-- One request for each symbol. Without anything to ask for the handler itself makes the
check that its state waits for. -/
def myTrades (t : TraceInfo) (ctx : Ctx) : Ctx × ℕ :=
  let lookback := getDownloadTradesLookback shared.settings ctx.self.downloadTradesIsFirst
  if lookback ≠ 0 && shared.settings.downloadSymbols ≠ [] then
    let timestamp := milliseconds t.originCreateTimeUtc
    let startTime : ℤ := ((timestamp*10^6 : ℤ)-lookback).tdiv (10^6)
    (shared.settings.downloadSymbols.foldl (fun ctx symbol =>
      onConnectionStatus .downloading "myTrades"
        (sendText .MY_TRADES 0 0 0 "myTrades"
          (.myTrades timestamp (tradesLimit shared) startTime symbol) ctx)) ctx,1)
  else (ctx,0)

def downloadState (t : TraceInfo) (state : State) (ctx : Ctx) : Ctx × ℕ :=
  match state with
  | .sessionLogon => (sessionLogon t (onConnectionStatus .downloading "SESSION_LOGON" ctx),1)
  | .userDataStreamSubscribe =>
    (userDataStreamSubscribe (onConnectionStatus .downloading "USER_DATA_STREAM_SUBSCRIBE" ctx),1)
  | .accountStatus => (accountStatus t (onConnectionStatus .downloading "ACCOUNT_STATUS" ctx),1)
  | .openOrdersStatus =>
    (openOrdersStatus t (onConnectionStatus .downloading "OPEN_ORDERS_STATUS" ctx),1)
  | .myTrades => myTrades shared t (onConnectionStatus .downloading "MY_TRADES" ctx)
  | .done => ((onConnectionStatus .ready "" ctx).modify fun self => {self with ready := true},0)

/-- Run the sequencer of the stream. -/
def sequencer (f : Download State → Ctx → Download State × Ctx) (ctx : Ctx) : Ctx :=
  match f ctx.self.download ctx with
  | (download,ctx) => ctx.modify fun self => {self with download := download}

def states : List State :=
  [.sessionLogon,.userDataStreamSubscribe,.accountStatus,.openOrdersStatus,.myTrades,.done]

def onDisconnected (ctx : Ctx) : Ctx :=
  (onConnectionStatus .disconnected "" (ctx.modify fun self => {self with ready := false})).modify
    fun self => {self with download := .idle}

def onReady (t : TraceInfo) (ctx : Ctx) : Ctx :=
  sequencer (fun _ => Download.begin (downloadState shared t) states) ctx

/-- Every handler of a reply ends with the rate limits. -/
def rateLimited {α : Type} (reply : WSAPIReply α) (ctx : Ctx) : Ctx :=
  ctx.dispatchAll (updateRateLimits ctx.self.streamId ctx.self.account reply.rateLimits)

/-- A reply moves the sequencer on, once its result is handled, or has the state repeated. -/
def onReply {α : Type} (t : TraceInfo) (state : State) (successHandler : α → Ctx → Ctx)
    (reply : WSAPIReply α) (retryNow : Bool) (ctx : Ctx) : Ctx :=
  rateLimited reply
    (if reply.status = 200 then
      sequencer (Download.check (downloadState shared t) state) (successHandler reply.result ctx)
    else sequencer (Download.retry (downloadState shared t) states retryNow state) ctx)

def onAccount (account : AccountAck) (ctx : Ctx) : Ctx :=
  ctx.dispatchAll (account.balances.map fun item => .fundsUpdate
    { streamId := ctx.self.streamId, account := ctx.self.account, currency := item.asset,
      marginMode := .undefined, balance := item.free, hold := item.locked, borrowed := NaN,
      updateType := .snapshot, exchangeTimeUtc := account.updateTime,
      sendingTimeUtc := account.updateTime })

def orderUpdate (self : WebSocket) (order : Order) (updateType : UpdateType) : Dispatch :=
  .orderUpdate self.streamId
    { account := self.account, exchange := shared.settings.exchange, symbol := order.symbol,
      side := order.side.map, marginMode := .undefined, orderType := order.type.map,
      timeInForce := order.timeInForce.map, createTimeUtc := order.time,
      updateTimeUtc := order.updateTime, externalOrderId := toString order.orderId,
      clientOrderId := order.clientOrderId, orderStatus := order.status.map,
      quantity := order.origQty, price := order.price, stopPrice := order.stopPrice,
      remainingQuantity := NaN, tradedQuantity := order.executedQty,
      averageTradedPrice := some 0, lastTradedQuantity := some 0, lastTradedPrice := some 0,
      lastLiquidity := .undefined, updateType := updateType, sendingTimeUtc := 0 }

/-- An order without a client order id is skipped. -/
def onOpenOrder (ctx : Ctx) (order : Order) : Ctx :=
  if order.clientOrderId = "" then ctx
  else
    (ctx.modify fun self =>
      {self with openOrdersSymbols := emplace self.openOrdersSymbols order.symbol}).dispatch
        (orderUpdate shared ctx.self order .snapshot)

def onOpenOrders (orders : List Order) (ctx : Ctx) : Ctx := orders.foldl (onOpenOrder shared) ctx

def tradeUpdate (self : WebSocket) (item : Trade2) : TradeUpdate :=
  { streamId := self.streamId, account := self.account, orderId := 0,
    exchange := shared.settings.exchange, symbol := item.symbol,
    side := if item.isBuyer then .buy else .sell, marginMode := .undefined,
    createTimeUtc := item.time, updateTimeUtc := item.time,
    externalOrderId := toString item.orderId, clientOrderId := "",
    fills := [
      { exchangeTimeUtc := 0, externalTradeId := toString item.id, quantity := item.qty,
        price := item.price, liquidity := if item.isMaker then .maker else .taker,
        commissionAmount := item.commission, commissionCurrency := item.commissionAsset,
        quoteAmount := item.quoteQty,
        profitLossAmount := shared.computeProfitLossAmount (if item.isBuyer then .buy else .sell)
          item.qty item.price (shared.multiplier item.symbol) }],
    updateType := .incremental, sendingTimeUtc := item.time, strategyId := 0 }

def onTrades (trades : List Trade2) (ctx : Ctx) : Ctx :=
  (ctx.modify fun self => {self with downloadTradesIsFirst := false}).dispatchAll
    (trades.map fun item => .tradeUpdate (tradeUpdate shared ctx.self item) none)

/-- A response goes to the user and the order that the request names. -/
def respond (request : WSAPIRequest) (response : Response) (update : Option OrderUpdate)
    (ctx : Ctx) : Ctx :=
  ctx.dispatch (.response response update ctx.self.streamId request.userId request.orderId)

def reject (requestType : RequestType) (request : WSAPIRequest) (error : ErrorError) (ctx : Ctx) :
    Ctx :=
  respond request
    (refused requestType .exchange .rejected (guessError error.code) error.msg request.version)
    none ctx

def onOrderPlace (reply : WSAPIReply NewOrderAck) (request : WSAPIRequest) (ctx : Ctx) : Ctx :=
  rateLimited reply
    (if reply.status = 200 then
      respond request (accepted .createOrder request.version (toString reply.result.orderId))
        (some (NewOrder.orderUpdate shared ctx.self.account .undefined reply.result)) ctx
    else reject .createOrder request reply.error ctx)

/-- The refusal is that of a cancel request. -/
def onOrderAmendKeepPriority (reply : WSAPIReply OrderAmendKeepPriority) (request : WSAPIRequest)
    (ctx : Ctx) : Ctx :=
  rateLimited reply
    (if reply.status = 200 then
      respond request
        (accepted .modifyOrder request.version (toString reply.result.amendedOrder.orderId))
        (some (amendOrderUpdate shared ctx.self.account reply.result)) ctx
    else reject .cancelOrder request reply.error ctx)

def onCancelOrder (reply : WSAPIReply CancelOrderAck) (request : WSAPIRequest) (ctx : Ctx) : Ctx :=
  rateLimited reply
    (if reply.status = 200 then
      respond request (accepted .cancelOrder request.version (toString reply.result.orderId))
        (some (cancelOrderUpdate shared ctx.self.account .undefined reply.result.transactTime
          reply.result)) ctx
    else reject .cancelOrder request reply.error ctx)

/-- The request is not acknowledged, an order without a client order id is skipped. -/
def onCancelOpenOrders (reply : WSAPIReply (List Order)) (ctx : Ctx) : Ctx :=
  rateLimited reply
    (if reply.status = 200 then
      ctx.dispatchAll ((reply.result.filter fun order => order.clientOrderId ≠ "").map fun order =>
        orderUpdate shared ctx.self order .incremental)
    else ctx)

/-- Balance updates hold changes and are not used. -/
def onMessage (t : TraceInfo) (message : WSAPIMessage) (order : MatchedOrder) (retryNow : Bool)
    (ctx : Ctx) : Ctx :=
  match message with
  | .sessionLogon reply => onReply shared t .sessionLogon (fun _ ctx => ctx) reply retryNow ctx
  | .userDataStreamSubscribe reply =>
    onReply shared t .userDataStreamSubscribe (fun _ ctx => ctx) reply retryNow ctx
  | .eventStreamTerminated => ctx.fatal "Unexpected"
  | .account reply => onReply shared t .accountStatus onAccount reply retryNow ctx
  | .openOrders reply =>
    onReply shared t .openOrdersStatus (onOpenOrders shared) reply retryNow ctx
  | .trades reply => onReply shared t .myTrades (onTrades shared) reply retryNow ctx
  | .orderPlace reply request => onOrderPlace shared reply request ctx
  | .orderAmendKeepPriority reply request => onOrderAmendKeepPriority shared reply request ctx
  | .cancelOrder reply request => onCancelOrder shared reply request ctx
  | .cancelOpenOrders reply _ => onCancelOpenOrders shared reply ctx
  | .outboundAccountPosition event =>
    ctx.dispatchAll
      (onOutboundAccountPosition ctx.self.streamId ctx.self.account .undefined event)
  | .balanceUpdate => ctx
  | .executionReport report =>
    ctx.dispatchAll
      (onExecutionReport shared ctx.self.streamId ctx.self.account .undefined order report)

/-- A message that cannot be parsed ends the process. -/
def parse (p : WSAPIParsers) (t : TraceInfo) (message : Library.Json.Object) (order : MatchedOrder)
    (retryNow : Bool) (ctx : Ctx) : Ctx :=
  match WSAPIParser.dispatch p message false with
  | .called message => onMessage shared t message order retryNow ctx
  | .skipped => ctx
  | .fatal => ctx.fatal "Unexpected"
  | .thrown => ctx.fatal "terminate"

/-- The events of the socket. -/
inductive SocketEvent
  | ready
  | disconnected
  | text (message : Library.Json.Object) (order : MatchedOrder) (retryNow : Bool)

def onSocket (p : WSAPIParsers) (t : TraceInfo) (event : SocketEvent) (ctx : Ctx) : Ctx :=
  match event with
  | .ready => onReady shared t ctx
  | .disconnected => onDisconnected ctx
  | .text message order retryNow => parse shared p t message order retryNow ctx

/-- The symbol is remembered before the template is looked up. -/
def orderPlace (info : MessageInfo) (createOrder : CreateOrder) (params : String) (ctx : Ctx) :
    Ctx × Option Exception :=
  if !ctx.self.isReady then (ctx,some (.notReady "not ready"))
  else
    let ctx := ctx.modify fun self =>
      {self with openOrdersSymbols := emplace self.openOrdersSymbols createOrder.symbol}
    match shared.getCreateOrderTemplate createOrder.requestTemplate with
    | .error e => (ctx,some e)
    | .ok () =>
      (sendText .ORDER_PLACE info.source createOrder.orderId 1 "order.place" (.order params) ctx,none)

end

/-- The encoder refuses a price. -/
def orderAmendKeepPriority (info : MessageInfo) (modifyOrder : ModifyOrder) (params : String)
    (ctx : Ctx) : Ctx × Option Exception :=
  if !ctx.self.isReady then (ctx,some (.notReady "not ready"))
  else if modifyOrder.price ≠ NaN then
    (ctx,some (.rejected .gateway .invalidRequestArgs "Price not allowed"))
  else
    (sendText .ORDER_AMEND_KEEP_PRIORITY info.source modifyOrder.orderId modifyOrder.version
      "order.amend.keepPriority" (.order params) ctx,none)

def orderCancel (shared : Shared) (info : MessageInfo) (cancelOrder : CancelOrder)
    (params : String) (ctx : Ctx) : Ctx × Option Exception :=
  if !ctx.self.isReady then (ctx,some (.notReady "not ready"))
  else
    match shared.getCancelOrderTemplate cancelOrder.requestTemplate with
    | .error e => (ctx,some e)
    | .ok () =>
      (sendText .ORDER_CANCEL info.source cancelOrder.orderId cancelOrder.version "order.cancel"
        (.order params) ctx,none)

def cancelAllOrdersAck (self : WebSocket) (request : CancelAllOrders) (requestId symbol : String) :
    Dispatch :=
  .cancelAllOrdersAck
    { streamId := self.streamId, account := self.account, orderId := request.orderId,
      exchange := request.exchange, symbol := symbol, side := request.side, origin := .gateway,
      requestStatus := .forwarded, error := .undefined, text := "", requestId := requestId,
      strategyId := request.strategyId }

/-- Each symbol is canceled and then acknowledged. -/
def openOrdersCancelAll (info : MessageInfo) (request : CancelAllOrders) (requestId : String)
    (ctx : Ctx) : Ctx × Option Exception :=
  if !ctx.self.isReady then (ctx,some (.notReady "not ready"))
  else
    (ctx.self.openOrdersSymbols.foldl (fun ctx symbol =>
      if request.symbol ≠ "" && symbol ≠ request.symbol then ctx
      else
        (sendText .OPEN_ORDERS_CANCEL_ALL info.source 0 0 "openOrders.cancelAll"
          (.cancelAll symbol (milliseconds info.receiveTimeUtc)) ctx).dispatch
            (cancelAllOrdersAck ctx.self request requestId symbol)) ctx,none)

/-- The requests of a client; the parameters of an order request are the encoder's. -/
inductive ClientRequest
  | createOrder (info : MessageInfo) (request : CreateOrder) (params : String)
  | modifyOrder (info : MessageInfo) (request : ModifyOrder) (params : String)
  | cancelOrder (info : MessageInfo) (request : CancelOrder) (params : String)
  | cancelAllOrders (info : MessageInfo) (request : CancelAllOrders) (requestId : String)
  deriving DecidableEq, Repr

def onRequest (shared : Shared) (request : ClientRequest) (ctx : Ctx) : Ctx × Option Exception :=
  match request with
  | .createOrder info request params => orderPlace shared info request params ctx
  | .modifyOrder info request params => orderAmendKeepPriority info request params ctx
  | .cancelOrder info request params => orderCancel shared info request params ctx
  | .cancelAllOrders info request requestId => openOrdersCancelAll info request requestId ctx

inductive Event
  | timer (refresh : Bool)
  | socket (event : SocketEvent)
  | client (request : ClientRequest)

/-- There is nothing that the stream does on a timer. -/
def handle (shared : Shared) (p : WSAPIParsers) (t : TraceInfo) (event : Event) (ctx : Ctx) : Ctx :=
  match event with
  | .timer _ => ctx
  | .socket event => onSocket shared p t event ctx
  | .client request => (onRequest shared request ctx).1

end WebSocket
end RoqBinance.Gateway
