import RoqBinance.Gateway.OrderAck
import RoqBinance.Gateway.Response

/-! The order entry of a portfolio account: a REST stream that keeps the listen key and
downloads what the user stream asks for, one download at a time. -/
namespace RoqBinance.Gateway
open Library Protocol.Json

namespace OrderEntryPortfolio

inductive State | listenKey | done
  deriving DecidableEq, Repr

/-- The REST requests, each with the values its callback binds. -/
inductive Call
  | listenKey
  | account
  | openOrders
  | trades (symbol : String) (lookback limit : ℕ)
  | newOrder (body : String) (userId : UInt8) (orderId : UInt64)
  | cancelOrder (body : String) (userId : UInt8) (orderId : UInt64) (version : UInt32)
  | cancelAllOpenOrders (symbol requestId : String)
  deriving DecidableEq, Repr

end OrderEntryPortfolio

structure OrderEntryPortfolio where
  streamId : ℕ
  account : String
  master : Bool
  listenKey : String
  ready : Bool
  listenKeyRefresh : ℕ
  connectionStatus : ConnectionStatus
  download : Download OrderEntryPortfolio.State
  openOrdersSymbols : List String
  downloadAccount : Bool
  downloadOrders : Bool
  downloadTrades : Bool
  downloadTradesIsFirst : Bool
  deriving DecidableEq, Repr

namespace OrderEntryPortfolio

def DOWNLOAD_TRADES_LIMIT : ℕ := 1000

def create (streamId : ℕ) (account : String) : OrderEntryPortfolio where
  streamId := streamId
  account := account
  master := true
  listenKey := ""
  ready := false
  listenKeyRefresh := 0
  connectionStatus := .undefined
  download := .idle
  openOrdersSymbols := []
  downloadAccount := false
  downloadOrders := false
  downloadTrades := false
  downloadTradesIsFirst := true

def isReady (self : OrderEntryPortfolio) : Bool := self.connectionStatus = .ready

def downloading (self : OrderEntryPortfolio) : Bool :=
  self.downloadAccount || self.downloadOrders || self.downloadTrades

/-- Only the three downloads of the portfolio wallet have a flag. -/
def setDownload (k : Kind) (value : Bool) (self : OrderEntryPortfolio) : OrderEntryPortfolio :=
  match k with
  | .account => {self with downloadAccount := value}
  | .orders => {self with downloadOrders := value}
  | .trades => {self with downloadTrades := value}
  | _ => self

abbrev Ctx := Context OrderEntryPortfolio Call

def onConnectionStatus (status : ConnectionStatus) (reason : String) (ctx : Ctx) : Ctx :=
  (ctx.modify fun self => {self with connectionStatus := status}).dispatch
    (.streamStatus ctx.self.streamId ctx.self.account status reason)

def getListenKey (ctx : Ctx) : Ctx := ctx.send .listenKey

def downloadState (state : State) (ctx : Ctx) : Ctx × ℕ :=
  match state with
  | .listenKey =>
    if ctx.self.master then (getListenKey (onConnectionStatus .downloading "LISTEN_KEY" ctx),1)
    else (ctx,0)
  | .done =>
    ((onConnectionStatus .ready "" ctx).modify fun self => {self with ready := true},0)

/-- Run the sequencer of the stream. -/
def sequencer (f : Download State → Ctx → Download State × Ctx) (ctx : Ctx) : Ctx :=
  match f ctx.self.download ctx with
  | (download,ctx) => ctx.modify fun self => {self with download := download}

def states : List State := [.listenKey,.done]

variable (shared : Shared)

/-- Only the first listen key goes to the controller. -/
def onListenKeyAck (t : TraceInfo) (ack : ListenKeyAck) (ctx : Ctx) : Ctx :=
  let initial := ctx.self.listenKey = ""
  let updated := ack.listenKey ≠ ctx.self.listenKey
  let ctx := ctx.modify fun self => {self with listenKey := ack.listenKey}
  let ctx :=
    if updated ∧ initial then
      ctx.emit (.listenKeyUpdate ⟨ctx.self.account,.portfolio,ack.listenKey⟩)
    else ctx
  ctx.modify fun self =>
    {self with listenKeyRefresh := t.originCreateTime+shared.settings.listenKeyRefresh}

def suspendFor (retryAfter : ℕ) (ctx : Ctx) : Ctx :=
  if retryAfter ≠ 0 then ctx.emit (.suspendFor retryAfter) else ctx

def limit (forbidden : Bool) (retryAfter : ℕ) (ctx : Ctx) : Ctx :=
  suspendFor retryAfter (if forbidden then wafLimitViolation shared ctx else ctx)

theorem limit_self (forbidden : Bool) (retryAfter : ℕ) (ctx : Ctx) :
    (limit shared forbidden retryAfter ctx).self = ctx.self := by
  unfold limit suspendFor wafLimitViolation
  split_ifs <;> rfl

def processResponse {α : Type} (decode : Body → Except String α) (response : RestResponse)
    (errorHandler : Origin → RequestStatus → Error → String → Ctx → Ctx)
    (successHandler : α → Ctx → Ctx) (ctx : Ctx) : Ctx :=
  processResponseWith (limit shared) decode response errorHandler successHandler ctx

/-- `retryNow` is whether the sequencer repeats the state at once. -/
def getListenKeyAck (t : TraceInfo) (response : RestResponse) (retryNow : Bool) (ctx : Ctx) : Ctx :=
  processResponse shared Body.listenKeyAck response
    (fun _ _ _ _ => sequencer (Download.retry downloadState states retryNow .listenKey))
    (fun ack ctx =>
      sequencer (Download.check downloadState .listenKey) (onListenKeyAck shared t ack ctx)) ctx

def refreshListenKey (t : TraceInfo) (ctx : Ctx) : Ctx :=
  if !ctx.self.ready then ctx
  else if ctx.self.listenKeyRefresh = 0 || t.originCreateTime < ctx.self.listenKeyRefresh then ctx
  else
    getListenKey (ctx.modify fun self =>
      {self with listenKeyRefresh := t.originCreateTime+shared.settings.listenKeyRefresh})

/-- The end of a download, the same after an error as after a success. -/
def completion (k : Kind) (t : TraceInfo) (ctx : Ctx) : Ctx :=
  (ctx.reply k t.originCreateTime).modify (setDownload k false)

def getAccount (ctx : Ctx) : Ctx := ctx.send .account

def onBalancesAck (self : OrderEntryPortfolio) (ack : BalancesAck) : List Dispatch :=
  ack.data.map fun item => .fundsUpdate
    { streamId := self.streamId, account := self.account, currency := item.asset,
      marginMode := .portfolio, balance := item.totalWalletBalance, hold := NaN, borrowed := NaN,
      updateType := .snapshot, exchangeTimeUtc := item.updateTime, sendingTimeUtc := 0 }

def getAccountAck (t : TraceInfo) (response : RestResponse) (ctx : Ctx) : Ctx :=
  processResponse shared Body.balancesAck response (fun _ _ _ _ => completion .account t)
    (fun ack ctx => completion .account t (ctx.dispatchAll (onBalancesAck ctx.self ack))) ctx

def getOpenOrders (ctx : Ctx) : Ctx := ctx.send .openOrders

def orderUpdate (self : OrderEntryPortfolio) (order : Order) : Dispatch :=
  .orderUpdate self.streamId
    { account := self.account, exchange := shared.settings.exchange, symbol := order.symbol,
      side := order.side.map, marginMode := .portfolio, orderType := order.type.map,
      timeInForce := order.timeInForce.map, createTimeUtc := order.time,
      updateTimeUtc := order.updateTime, externalOrderId := toString order.orderId,
      clientOrderId := order.clientOrderId, orderStatus := order.status.map,
      quantity := order.origQty, price := order.price,
      stopPrice := if order.stopPrice.isZero then NaN else order.stopPrice,
      remainingQuantity := order.origQty.sub order.executedQty,
      tradedQuantity := order.executedQty, averageTradedPrice := some 0,
      lastTradedQuantity := some 0, lastTradedPrice := some 0, lastLiquidity := .undefined,
      updateType := .snapshot, sendingTimeUtc := 0 }

/-- An order without a client order id is skipped. -/
def onOpenOrder (ctx : Ctx) (order : Order) : Ctx :=
  if order.clientOrderId = "" then ctx
  else
    (ctx.modify fun self =>
      {self with openOrdersSymbols := emplace self.openOrdersSymbols order.symbol}).dispatch
        (orderUpdate shared ctx.self order)

def onOpenOrdersAck (ack : OpenOrdersAck) (ctx : Ctx) : Ctx :=
  ack.data.foldl (onOpenOrder shared) ctx

def getOpenOrdersAck (t : TraceInfo) (response : RestResponse) (ctx : Ctx) : Ctx :=
  processResponse shared Body.openOrdersAck response (fun _ _ _ _ => completion .orders t)
    (fun ack ctx => completion .orders t (onOpenOrdersAck shared ack ctx)) ctx

/-- One request for each symbol. -/
def getTrades (ctx : Ctx) : Ctx :=
  let lookback := getDownloadTradesLookback shared.settings ctx.self.downloadTradesIsFirst
  let limit :=
    if shared.settings.tradesLimit ≠ 0 then shared.settings.tradesLimit else DOWNLOAD_TRADES_LIMIT
  shared.settings.downloadSymbols.foldl
    (fun ctx symbol => ctx.send (.trades symbol lookback limit)) ctx

def tradeUpdate (self : OrderEntryPortfolio) (item : Trade2) : Dispatch :=
  let side := if item.isBuyer then RoqBinance.Side.buy else RoqBinance.Side.sell
  .tradeUpdate
    { streamId := self.streamId, account := self.account, orderId := 0,
      exchange := shared.settings.exchange, symbol := item.symbol, side := side,
      marginMode := .portfolio, createTimeUtc := item.time, updateTimeUtc := item.time,
      externalOrderId := toString item.orderId, clientOrderId := "",
      fills := [
        { exchangeTimeUtc := item.time, externalTradeId := toString item.id,
          quantity := item.qty, price := item.price,
          liquidity := if item.isMaker then .maker else .taker,
          commissionAmount := item.commission, commissionCurrency := item.commissionAsset,
          quoteAmount := item.quoteQty,
          profitLossAmount := shared.computeProfitLossAmount side item.qty item.price
            (shared.multiplier item.symbol) }],
      updateType := .snapshot, sendingTimeUtc := 0, strategyId := 0 } none

def onTradesAck (self : OrderEntryPortfolio) (ack : TradesAck) : List Dispatch :=
  ack.data.map (tradeUpdate shared self)

def getTradesAck (t : TraceInfo) (response : RestResponse) (ctx : Ctx) : Ctx :=
  processResponse shared Body.tradesAck response (fun _ _ _ _ => completion .trades t)
    (fun ack ctx =>
      (completion .trades t (ctx.dispatchAll (onTradesAck shared ctx.self ack))).modify fun self =>
        {self with downloadTradesIsFirst := false}) ctx

def get (k : Kind) : Ctx → Ctx :=
  match k with
  | .account => getAccount
  | .orders => getOpenOrders
  | .trades => getTrades shared
  | _ => fun ctx => ctx

/-- Start the download of `k` if it is asked for and no other one is in progress. -/
def start (ctx : Ctx) (k : Kind) : Ctx :=
  if !ctx.self.downloading && decide (ctx.request.stamps k).pending then
    (get shared k ctx).modify (setDownload k true)
  else ctx

/-- The downloads in the order in which they are started. -/
def kinds : List Kind := [.account,.orders,.trades]

/-- `refresh` is whether the connection is up. -/
def onTimer (t : TraceInfo) (refresh : Bool) (ctx : Ctx) : Ctx :=
  if refresh then
    let ctx := refreshListenKey shared t ctx
    if ctx.self.isReady && (ctx.self.master && !ctx.self.downloading) then
      kinds.foldl (start shared) ctx
    else ctx
  else ctx

def onConnected (ctx : Ctx) : Ctx :=
  if ctx.self.download.downloading then sequencer (Download.bump downloadState) ctx
  else sequencer (fun _ => Download.begin downloadState states) ctx

def onDisconnected (ctx : Ctx) : Ctx :=
  let ctx := onConnectionStatus .disconnected "" (ctx.modify fun self => {self with ready := false})
  ctx.modify fun self =>
    {self with
      download := if self.download.downloading then self.download else .idle,
      downloadAccount := false, downloadOrders := false, downloadTrades := false}

/-- The symbol is remembered before the template is looked up. The body is one that can be signed. -/
def newOrder (info : MessageInfo) (createOrder : CreateOrder) (body : String) (ctx : Ctx) :
    Ctx × Option Exception :=
  if !ctx.self.isReady then (ctx,some (.notReady "not ready"))
  else
    let ctx := ctx.modify fun self =>
      {self with openOrdersSymbols := emplace self.openOrdersSymbols createOrder.symbol}
    match shared.getCreateOrderTemplate createOrder.requestTemplate with
    | .error e => (ctx,some e)
    | .ok () => (ctx.send (.newOrder body info.source createOrder.orderId),none)

def newOrderAck (userId : UInt8) (orderId : UInt64) (version : UInt32) (response : RestResponse)
    (ctx : Ctx) : Ctx :=
  processResponse shared Body.newOrderAck response
    (fun origin status error text ctx => ctx.dispatch (.response
      (refused .createOrder origin status error text version) none ctx.self.streamId userId orderId))
    (fun ack ctx => ctx.dispatch (.response
      (accepted .createOrder version (toString ack.orderId))
      (some (NewOrder.orderUpdate shared ctx.self.account .portfolio ack))
      ctx.self.streamId userId orderId)) ctx

/-- The body is one that can be signed. -/
def cancelOrder (info : MessageInfo) (request : CancelOrder) (body : String) (ctx : Ctx) :
    Ctx × Option Exception :=
  if !ctx.self.isReady then (ctx,some (.notReady "not ready"))
  else
    match shared.getCancelOrderTemplate request.requestTemplate with
    | .error e => (ctx,some e)
    | .ok () => (ctx.send (.cancelOrder body info.source request.orderId request.version),none)

def cancelOrderAck (userId : UInt8) (orderId : UInt64) (version : UInt32) (response : RestResponse)
    (ctx : Ctx) : Ctx :=
  processResponse shared Body.cancelOrderAck response
    (fun origin status error text ctx => ctx.dispatch (.response
      (refused .cancelOrder origin status error text version) none ctx.self.streamId userId orderId))
    (fun ack ctx => ctx.dispatch (.response
      (accepted .cancelOrder version (toString ack.orderId))
      (some (cancelOrderUpdate shared ctx.self.account .portfolio 0 ack))
      ctx.self.streamId userId orderId)) ctx

def cancelAllOrdersAck (self : OrderEntryPortfolio) (request : CancelAllOrders)
    (requestId symbol : String) : Dispatch :=
  .cancelAllOrdersAck
    { streamId := self.streamId, account := self.account, orderId := request.orderId,
      exchange := request.exchange, symbol := symbol, side := request.side, origin := .gateway,
      requestStatus := .forwarded, error := .undefined, text := "", requestId := requestId,
      strategyId := request.strategyId }

/-- Each symbol is canceled and then acknowledged. -/
def cancelAllOpenOrders (request : CancelAllOrders) (requestId : String) (ctx : Ctx) :
    Ctx × Option Exception :=
  if !ctx.self.isReady then (ctx,some (.notReady "not ready"))
  else
    (ctx.self.openOrdersSymbols.foldl (fun ctx symbol =>
      if request.symbol ≠ "" && symbol ≠ request.symbol then ctx
      else
        (ctx.send (.cancelAllOpenOrders symbol requestId)).dispatch
          (cancelAllOrdersAck ctx.self request requestId symbol)) ctx,none)

def exchangeAck (self : OrderEntryPortfolio) (requestId : String) (status : RequestStatus)
    (error : Error) (text : String) : Dispatch :=
  .cancelAllOrdersAck
    { streamId := self.streamId, account := self.account, orderId := 0, exchange := "",
      symbol := "", side := .undefined, origin := .exchange, requestStatus := status,
      error := error, text := text, requestId := requestId, strategyId := 0 }

/-- The client order id of a canceled order is that of the cancel, so its original one is taken. -/
def canceledUpdate (self : OrderEntryPortfolio) (order : Order) : Dispatch :=
  .orderUpdate self.streamId
    { account := self.account, exchange := shared.settings.exchange, symbol := order.symbol,
      side := order.side.map, marginMode := .portfolio, orderType := order.type.map,
      timeInForce := order.timeInForce.map, createTimeUtc := order.time,
      updateTimeUtc := order.updateTime, externalOrderId := toString order.orderId,
      clientOrderId := order.origClientOrderId, orderStatus := order.status.map,
      quantity := order.origQty, price := order.price, stopPrice := order.stopPrice,
      remainingQuantity := NaN, tradedQuantity := order.executedQty, averageTradedPrice := some 0,
      lastTradedQuantity := some 0, lastTradedPrice := some 0, lastLiquidity := .undefined,
      updateType := .incremental, sendingTimeUtc := 0 }

def onCancelAllOpenOrdersAck (ack : OpenOrdersAck) (ctx : Ctx) : Ctx :=
  ctx.dispatchAll ((ack.data.filter fun order => order.clientOrderId ≠ "").map
    (canceledUpdate shared ctx.self))

def cancelAllOpenOrdersAck (requestId : String) (response : RestResponse) (ctx : Ctx) : Ctx :=
  processResponse shared Body.cancelAllOpenOrdersAck response
    (fun _ _ error text ctx => ctx.dispatch (exchangeAck ctx.self requestId .rejected error text))
    (fun ack ctx => (onCancelAllOpenOrdersAck shared ack ctx).dispatch
      (exchangeAck ctx.self requestId .accepted .undefined "")) ctx

/-- The callback that a REST request was sent with. -/
def onResponse (t : TraceInfo) (call : Call) (response : RestResponse) (retryNow : Bool)
    (ctx : Ctx) : Ctx :=
  match call with
  | .listenKey => getListenKeyAck shared t response retryNow ctx
  | .account => getAccountAck shared t response ctx
  | .openOrders => getOpenOrdersAck shared t response ctx
  | .trades _ _ _ => getTradesAck shared t response ctx
  | .newOrder _ userId orderId => newOrderAck shared userId orderId 1 response ctx
  | .cancelOrder _ userId orderId version =>
    cancelOrderAck shared userId orderId version response ctx
  | .cancelAllOpenOrders _ requestId => cancelAllOpenOrdersAck shared requestId response ctx

/-- The requests of a client; the body of an order request is the encoder's. -/
inductive ClientRequest
  | createOrder (info : MessageInfo) (request : CreateOrder) (body : String)
  | modifyOrder (info : MessageInfo) (request : ModifyOrder)
  | cancelOrder (info : MessageInfo) (request : CancelOrder) (body : String)
  | cancelAllOrders (request : CancelAllOrders) (requestId : String)
  deriving DecidableEq, Repr

def onRequest (request : ClientRequest) (ctx : Ctx) : Ctx × Option Exception :=
  match request with
  | .createOrder info request body => newOrder shared info request body ctx
  | .modifyOrder _ _ => (ctx,some (.notSupported "not supported"))
  | .cancelOrder info request body => cancelOrder shared info request body ctx
  | .cancelAllOrders request requestId => cancelAllOpenOrders request requestId ctx

end OrderEntryPortfolio
end RoqBinance.Gateway
