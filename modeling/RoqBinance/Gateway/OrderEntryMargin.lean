import RoqBinance.Gateway.OrderAck
import RoqBinance.Gateway.Response

/-! The order entry of the margin wallet: a REST stream that downloads what the user stream
asks for through the shared request, one download at a time. -/
namespace RoqBinance.Gateway
open Library Protocol.Json

namespace OrderEntryMargin

inductive State | listenKey | done
  deriving DecidableEq, Repr

/-- The REST requests, each with the values its callback binds. -/
inductive Call
  | listenKey (marginMode : MarginMode)
  | account (marginMode : MarginMode)
  | openOrders (marginMode : MarginMode)
  | trades (marginMode : MarginMode) (symbol : String) (lookback limit : ℕ)
  | accountCrossOnTimer
  | newOrder (body : String) (userId : UInt8) (orderId : UInt64)
  | cancelOrder (body : String) (userId : UInt8) (orderId : UInt64) (version : UInt32)
  | cancelAllOpenOrders (symbol : String) (marginMode : MarginMode) (requestId : String)
  deriving DecidableEq, Repr

end OrderEntryMargin

structure OrderEntryMargin where
  streamId : ℕ
  account : String
  ready : Bool
  connectionStatus : ConnectionStatus
  download : Download OrderEntryMargin.State
  openOrdersSymbols : List String
  downloadAccount : Bool
  downloadOrders : Bool
  downloadTrades : Bool
  downloadListenKeyCross : Bool
  downloadAccountCross : Bool
  downloadOrdersCross : Bool
  downloadTradesCross : Bool
  downloadAccountCrossOnTimer : Bool
  downloadTradesIsFirst : Bool
  downloadTradesCrossIsFirst : Bool
  nextPollBorrowed : ℕ
  hasListenKeyCross : Bool
  deriving DecidableEq, Repr

namespace OrderEntryMargin

def DOWNLOAD_TRADES_LIMIT : ℕ := 1000

def create (streamId : ℕ) (account : String) : OrderEntryMargin where
  streamId := streamId
  account := account
  ready := false
  connectionStatus := .undefined
  download := .idle
  openOrdersSymbols := []
  downloadAccount := false
  downloadOrders := false
  downloadTrades := false
  downloadListenKeyCross := false
  downloadAccountCross := false
  downloadOrdersCross := false
  downloadTradesCross := false
  downloadAccountCrossOnTimer := false
  downloadTradesIsFirst := true
  downloadTradesCrossIsFirst := true
  nextPollBorrowed := 0
  hasListenKeyCross := false

def isReady (self : OrderEntryMargin) : Bool := self.connectionStatus = .ready

def setDownload (k : Kind) (value : Bool) (self : OrderEntryMargin) : OrderEntryMargin :=
  match k with
  | .account => {self with downloadAccount := value}
  | .orders => {self with downloadOrders := value}
  | .trades => {self with downloadTrades := value}
  | .listenKeyCross => {self with downloadListenKeyCross := value}
  | .accountCross => {self with downloadAccountCross := value}
  | .ordersCross => {self with downloadOrdersCross := value}
  | .tradesCross => {self with downloadTradesCross := value}

def downloading (self : OrderEntryMargin) : Bool :=
  self.downloadAccount || self.downloadOrders || self.downloadTrades ||
    self.downloadListenKeyCross || self.downloadAccountCross || self.downloadOrdersCross ||
    self.downloadTradesCross || self.downloadAccountCrossOnTimer

abbrev Ctx := Context OrderEntryMargin Call

def onConnectionStatus (status : ConnectionStatus) (reason : String) (ctx : Ctx) : Ctx :=
  (ctx.modify fun self => {self with connectionStatus := status}).dispatch
    (.streamStatus ctx.self.streamId ctx.self.account status reason)

def getListenKey (marginMode : MarginMode) (ctx : Ctx) : Ctx :=
  match marginMode with
  | .undefined => ctx.fatal "Unexpected"
  | .isolated => ctx.send (.listenKey .isolated)
  | .cross => ctx.send (.listenKey .cross)
  | .portfolio => ctx.fatal "Unexpected"

def downloadState (state : State) (ctx : Ctx) : Ctx × ℕ :=
  match state with
  | .listenKey =>
    if ctx.self.hasListenKeyCross then (ctx,0)
    else (getListenKey .cross (onConnectionStatus .downloading "LISTEN_KEY" ctx),1)
  | .done =>
    ((onConnectionStatus .ready "" ctx).modify fun self => {self with ready := true},0)

/-- Run the sequencer of the stream. -/
def sequencer (f : Download State → Ctx → Download State × Ctx) (ctx : Ctx) : Ctx :=
  match f ctx.self.download ctx with
  | (download,ctx) => ctx.modify fun self => {self with download := download}

def states : List State := [.listenKey,.done]

def onListenKeyAckMargin (ack : ListenKeyAckMargin) (marginMode : MarginMode) (ctx : Ctx) : Ctx :=
  match marginMode with
  | .undefined => ctx.fatal "Unexpected"
  | .isolated => ctx.fatal "Unexpected"
  | .cross =>
    (ctx.emit (.listenKeyUpdate ⟨ctx.self.account,marginMode,ack.token⟩)).modify fun self =>
      {self with hasListenKeyCross := true}
  | .portfolio => ctx.fatal "Unexpected"

variable (shared : Shared)

def limit (forbidden : Bool) (_retryAfter : ℕ) (ctx : Ctx) : Ctx :=
  if forbidden then wafLimitViolation shared ctx else ctx

def processResponse {α : Type} (decode : Body → Except String α) (response : RestResponse)
    (errorHandler : Origin → RequestStatus → Error → String → Ctx → Ctx)
    (successHandler : α → Ctx → Ctx) (ctx : Ctx) : Ctx :=
  processResponseWith (limit shared) decode response errorHandler successHandler ctx

/-- The end of a download, the same after an error as after a success. -/
def completion (k : Kind) (t : TraceInfo) (ctx : Ctx) : Ctx :=
  (ctx.reply k t.originCreateTime).modify (setDownload k false)

/-- `retryNow` is whether the sequencer repeats the state at once. -/
def getListenKeyAck (t : TraceInfo) (marginMode : MarginMode) (response : RestResponse)
    (retryNow : Bool) (ctx : Ctx) : Ctx :=
  let handleError (_ : Origin) (_ : RequestStatus) (_ : Error) (_ : String) (ctx : Ctx) : Ctx :=
    completion .listenKeyCross t
      (sequencer (Download.retry downloadState states retryNow .listenKey) ctx)
  let handleSuccess (ack : ListenKeyAckMargin) (ctx : Ctx) : Ctx :=
    let ctx := onListenKeyAckMargin ack marginMode ctx
    match marginMode with
    | .undefined => getListenKey .cross ctx
    | .isolated => getListenKey .cross ctx
    | .cross =>
      completion .listenKeyCross t (sequencer (Download.check downloadState .listenKey) ctx)
    | .portfolio => ctx.fatal "Unexpected"
  processResponse shared Body.listenKeyAckMargin response handleError handleSuccess ctx

def getAccount (marginMode : MarginMode) (ctx : Ctx) : Ctx :=
  match marginMode with
  | .undefined => ctx.fatal "Unexpected"
  | .isolated => ctx.fatal "Unexpected"
  | .cross => ctx.send (.account .cross)
  | .portfolio => ctx.fatal "Unexpected"

def onAccountAck (self : OrderEntryMargin) (ack : AccountAck) (marginMode : MarginMode) :
    List Dispatch :=
  ack.balances.map fun item => .fundsUpdate
    { streamId := self.streamId, account := self.account, currency := item.asset,
      marginMode := marginMode, balance := item.free, hold := item.locked, borrowed := NaN,
      updateType := .snapshot, exchangeTimeUtc := ack.updateTime,
      sendingTimeUtc := ack.updateTime }

def onCrossMarginAccount (self : OrderEntryMargin) (account : CrossMarginAccount)
    (marginMode : MarginMode) : List Dispatch :=
  account.userAssets.map fun item => .fundsUpdate
    { streamId := self.streamId, account := self.account, currency := item.asset,
      marginMode := marginMode, balance := item.free, hold := item.locked,
      borrowed := item.borrowed, updateType := .snapshot, exchangeTimeUtc := 0,
      sendingTimeUtc := 0 }

def getAccountAck (t : TraceInfo) (marginMode : MarginMode) (response : RestResponse)
    (ctx : Ctx) : Ctx :=
  match marginMode with
  | .undefined =>
    processResponse shared Body.accountAck response
      (fun _ _ _ _ => completion .account t)
      (fun ack ctx => completion .account t
        (ctx.dispatchAll (onAccountAck ctx.self ack .undefined))) ctx
  | .isolated =>
    processResponse shared Except.ok response (fun _ _ _ _ ctx => ctx.fatal "Unexpected")
      (fun _ ctx => ctx.fatal "Unexpected") ctx
  | .cross =>
    processResponse shared Body.crossMarginAccount response
      (fun _ _ _ _ => completion .accountCross t)
      (fun account ctx => completion .accountCross t
        (ctx.dispatchAll (onCrossMarginAccount ctx.self account .cross))) ctx
  | .portfolio =>
    processResponse shared Except.ok response (fun _ _ _ _ ctx => ctx.fatal "Unexpected")
      (fun _ ctx => ctx.fatal "Unexpected") ctx

def getOpenOrders (marginMode : MarginMode) (ctx : Ctx) : Ctx :=
  match marginMode with
  | .undefined => ctx.fatal "Unexpected"
  | .isolated => ctx.fatal "Unexpected"
  | .cross => ctx.send (.openOrders .cross)
  | .portfolio => ctx.fatal "Unexpected"

def orderUpdate (self : OrderEntryMargin) (order : Order) (marginMode : MarginMode)
    (updateType : UpdateType) : Dispatch :=
  .orderUpdate self.streamId
    { account := self.account, exchange := shared.settings.exchange, symbol := order.symbol,
      side := order.side.map, marginMode := marginMode, orderType := order.type.map,
      timeInForce := order.timeInForce.map, createTimeUtc := order.time,
      updateTimeUtc := order.updateTime, externalOrderId := toString order.orderId,
      clientOrderId := order.clientOrderId, orderStatus := order.status.map,
      quantity := order.origQty, price := order.price, stopPrice := order.stopPrice,
      remainingQuantity := NaN, tradedQuantity := order.executedQty,
      averageTradedPrice := some 0, lastTradedQuantity := some 0, lastTradedPrice := some 0,
      lastLiquidity := .undefined, updateType := updateType, sendingTimeUtc := 0 }

/-- An order without a client order id is skipped. -/
def onOpenOrder (marginMode : MarginMode) (ctx : Ctx) (order : Order) : Ctx :=
  if order.clientOrderId = "" then ctx
  else
    (ctx.modify fun self =>
      {self with openOrdersSymbols := emplace self.openOrdersSymbols order.symbol}).dispatch
        (orderUpdate shared ctx.self order marginMode .snapshot)

def onOpenOrdersAck (ack : OpenOrdersAck) (marginMode : MarginMode) (ctx : Ctx) : Ctx :=
  ack.data.foldl (onOpenOrder shared marginMode) ctx

def completeOrders (t : TraceInfo) (marginMode : MarginMode) (ctx : Ctx) : Ctx :=
  match marginMode with
  | .undefined => completion .orders t ctx
  | .isolated => ctx.fatal "Unexpected"
  | .cross => completion .ordersCross t ctx
  | .portfolio => ctx.fatal "Unexpected"

def getOpenOrdersAck (t : TraceInfo) (marginMode : MarginMode) (response : RestResponse)
    (ctx : Ctx) : Ctx :=
  processResponse shared Body.openOrdersAck response
    (fun _ _ _ _ => completeOrders t marginMode)
    (fun ack ctx => completeOrders t marginMode (onOpenOrdersAck shared ack marginMode ctx)) ctx

/-- One request for each symbol. Both wallets take the lookback of the spot wallet. -/
def getTrades (marginMode : MarginMode) (ctx : Ctx) : Ctx :=
  let lookback := getDownloadTradesLookback shared.settings ctx.self.downloadTradesIsFirst
  let limit :=
    if shared.settings.tradesLimit ≠ 0 then shared.settings.tradesLimit else DOWNLOAD_TRADES_LIMIT
  shared.settings.downloadSymbols.foldl
    (fun ctx symbol => ctx.send (.trades marginMode symbol lookback limit)) ctx

def completeTrades (t : TraceInfo) (marginMode : MarginMode) (ctx : Ctx) : Ctx :=
  match marginMode with
  | .undefined => completion .trades t ctx
  | .isolated => ctx.fatal "Unexpected"
  | .cross => completion .tradesCross t ctx
  | .portfolio => ctx.fatal "Unexpected"

def notFirst (marginMode : MarginMode) (self : OrderEntryMargin) : OrderEntryMargin :=
  match marginMode with
  | .undefined => {self with downloadTradesIsFirst := false}
  | .cross => {self with downloadTradesCrossIsFirst := false}
  | _ => self

/-- The trades of a reply are logged, none is dispatched. -/
def getTradesAck (t : TraceInfo) (marginMode : MarginMode) (response : RestResponse)
    (ctx : Ctx) : Ctx :=
  processResponse shared Body.tradesAck response
    (fun _ _ _ _ => completeTrades t marginMode)
    (fun _ ctx => (completeTrades t marginMode ctx).modify (notFirst marginMode)) ctx

def getAccountCrossOnTimer (ctx : Ctx) : Ctx := ctx.send .accountCrossOnTimer

def onCrossMarginAccountOnTimer (self : OrderEntryMargin) (account : CrossMarginAccount) :
    List Dispatch :=
  account.userAssets.map fun item => .fundsUpdate
    { streamId := self.streamId, account := self.account, currency := item.asset,
      marginMode := .cross, balance := NaN, hold := NaN, borrowed := item.borrowed,
      updateType := .incremental, exchangeTimeUtc := 0, sendingTimeUtc := 0 }

/-- The poll ends as an account download does. -/
def completionOnTimer (t : TraceInfo) (ctx : Ctx) : Ctx :=
  (ctx.reply .accountCross t.originCreateTime).modify fun self =>
    {self with downloadAccountCrossOnTimer := false}

def getAccountCrossOnTimerAck (t : TraceInfo) (response : RestResponse) (ctx : Ctx) : Ctx :=
  processResponse shared Body.crossMarginAccount response
    (fun _ _ _ _ => completionOnTimer t)
    (fun account ctx => completionOnTimer t
      (ctx.dispatchAll (onCrossMarginAccountOnTimer ctx.self account))) ctx

def get (k : Kind) : Ctx → Ctx :=
  match k with
  | .account => getAccount .undefined
  | .orders => getOpenOrders .undefined
  | .trades => getTrades shared .undefined
  | .listenKeyCross => getListenKey .cross
  | .accountCross => getAccount .cross
  | .ordersCross => getOpenOrders .cross
  | .tradesCross => getTrades shared .cross

/-- Start the download of `k` if it is asked for and no other one is in progress. -/
def start (ctx : Ctx) (k : Kind) : Ctx :=
  if !ctx.self.downloading && decide (ctx.request.stamps k).pending then
    (get shared k ctx).modify (setDownload k true)
  else ctx

/-- The downloads in the order in which they are started. -/
def kinds : List Kind :=
  [.account,.orders,.trades,.listenKeyCross,.accountCross,.ordersCross,.tradesCross]

def pollBorrowed (timerNow : ℕ) (ctx : Ctx) : Ctx :=
  if !ctx.self.downloading && shared.settings.downloadBorrowedFreq ≠ 0 &&
      (ctx.self.nextPollBorrowed < timerNow || ctx.self.nextPollBorrowed = 0) then
    (getAccountCrossOnTimer ctx).modify fun self =>
      {self with downloadAccountCrossOnTimer := true,
                 nextPollBorrowed := timerNow+shared.settings.downloadBorrowedFreq}
  else ctx

def startAll (timerNow : ℕ) (ctx : Ctx) : Ctx :=
  pollBorrowed shared timerNow (kinds.foldl (start shared) ctx)

/-- `refresh` is whether the connection is up; `timerNow` is the time of the timer itself. -/
def onTimer (timerNow : ℕ) (refresh : Bool) (ctx : Ctx) : Ctx :=
  if refresh && ctx.self.isReady && !ctx.self.downloading then startAll shared timerNow ctx else ctx

def onConnected (ctx : Ctx) : Ctx :=
  if ctx.self.download.downloading then sequencer (Download.bump downloadState) ctx
  else sequencer (fun _ => Download.begin downloadState states) ctx

def onDisconnected (ctx : Ctx) : Ctx :=
  let ctx := onConnectionStatus .disconnected "" (ctx.modify fun self => {self with ready := false})
  ctx.modify fun self =>
    {self with
      download := if self.download.downloading then self.download else .idle,
      downloadAccount := false, downloadOrders := false, downloadTrades := false,
      downloadListenKeyCross := false, downloadAccountCross := false,
      downloadOrdersCross := false, downloadTradesCross := false,
      downloadAccountCrossOnTimer := false}

/-- The symbol is remembered before the template is looked up. The body is one that can be signed. -/
def newOrder (info : MessageInfo) (createOrder : CreateOrder) (body : String) (ctx : Ctx) :
    Ctx × Option Exception :=
  if !ctx.self.isReady then (ctx,some (.notReady "not ready"))
  else
    let ctx := ctx.modify fun self =>
      {self with openOrdersSymbols := emplace self.openOrdersSymbols createOrder.symbol}
    match shared.getCreateOrderTemplate createOrder.requestTemplate with
    | .error e => (ctx,some e)
    | .ok () => (ctx.send (.newOrder body info.source createOrder.orderId),none)

def newOrderAck (userId : UInt8) (orderId : UInt64) (version : UInt32) (response : RestResponse)
    (ctx : Ctx) : Ctx :=
  processResponse shared Body.newOrderAck response
    (fun origin status error text ctx => ctx.dispatch (.response
      (refused .createOrder origin status error text version) none ctx.self.streamId userId orderId))
    (fun ack ctx => ctx.dispatch (.response
      (accepted .createOrder version (toString ack.orderId))
      (some (NewOrder.orderUpdate shared ctx.self.account
        (if ack.isIsolated then .isolated else .cross) ack))
      ctx.self.streamId userId orderId)) ctx

/-- `marginMode` is that of the order, and the body is one that can be signed. -/
def cancelOrder (info : MessageInfo) (request : CancelOrder) (marginMode : MarginMode)
    (body : String) (ctx : Ctx) : Ctx × Option Exception :=
  if !ctx.self.isReady then (ctx,some (.notReady "not ready"))
  else
    match shared.getCancelOrderTemplate request.requestTemplate with
    | .error e => (ctx,some e)
    | .ok () =>
      if marginMode = .portfolio then
        (ctx,some (.rejected .gateway .invalidMarginMode "internal error"))
      else (ctx.send (.cancelOrder body info.source request.orderId request.version),none)

def cancelOrderAck (userId : UInt8) (orderId : UInt64) (version : UInt32) (response : RestResponse)
    (ctx : Ctx) : Ctx :=
  processResponse shared Body.cancelOrderAck response
    (fun origin status error text ctx => ctx.dispatch (.response
      (refused .cancelOrder origin status error text version) none ctx.self.streamId userId orderId))
    (fun ack ctx => ctx.dispatch (.response
      (accepted .cancelOrder version (toString ack.orderId))
      (some (cancelOrderUpdate shared ctx.self.account
        (if ack.isIsolated then .isolated else .cross) 0 ack))
      ctx.self.streamId userId orderId)) ctx

def cancelAllOrdersAck (self : OrderEntryMargin) (request : CancelAllOrders)
    (requestId symbol : String) : Dispatch :=
  .cancelAllOrdersAck
    { streamId := self.streamId, account := self.account, orderId := request.orderId,
      exchange := request.exchange, symbol := symbol, side := request.side, origin := .gateway,
      requestStatus := .forwarded, error := .undefined, text := "", requestId := requestId,
      strategyId := request.strategyId }

/-- Each symbol is canceled in both margin modes and then acknowledged. -/
def cancelAllOpenOrders (request : CancelAllOrders) (requestId : String) (ctx : Ctx) :
    Ctx × Option Exception :=
  if !ctx.self.isReady then (ctx,some (.notReady "not ready"))
  else
    (ctx.self.openOrdersSymbols.foldl (fun ctx symbol =>
      if request.symbol ≠ "" && symbol ≠ request.symbol then ctx
      else
        ((ctx.send (.cancelAllOpenOrders symbol .isolated requestId)).send
          (.cancelAllOpenOrders symbol .cross requestId)).dispatch
            (cancelAllOrdersAck ctx.self request requestId symbol)) ctx,none)

def exchangeAck (self : OrderEntryMargin) (requestId : String) (status : RequestStatus)
    (error : Error) (text : String) : Dispatch :=
  .cancelAllOrdersAck
    { streamId := self.streamId, account := self.account, orderId := 0, exchange := "",
      symbol := "", side := .undefined, origin := .exchange, requestStatus := status,
      error := error, text := text, requestId := requestId, strategyId := 0 }

def onCancelAllOpenOrdersAck (ack : OpenOrdersAck) (ctx : Ctx) : Ctx :=
  ctx.dispatchAll ((ack.data.filter fun order => order.clientOrderId ≠ "").map fun order =>
    orderUpdate shared ctx.self order .undefined .incremental)

def cancelAllOpenOrdersAck (requestId : String) (response : RestResponse) (ctx : Ctx) : Ctx :=
  processResponse shared Body.cancelAllOpenOrdersAck response
    (fun _ _ error text ctx => ctx.dispatch (exchangeAck ctx.self requestId .rejected error text))
    (fun ack ctx => (onCancelAllOpenOrdersAck shared ack ctx).dispatch
      (exchangeAck ctx.self requestId .accepted .undefined "")) ctx

/-- The callback that a REST request was sent with. -/
def onResponse (t : TraceInfo) (call : Call) (response : RestResponse) (retryNow : Bool)
    (ctx : Ctx) : Ctx :=
  match call with
  | .listenKey marginMode => getListenKeyAck shared t marginMode response retryNow ctx
  | .account marginMode => getAccountAck shared t marginMode response ctx
  | .openOrders marginMode => getOpenOrdersAck shared t marginMode response ctx
  | .trades marginMode _ _ _ => getTradesAck shared t marginMode response ctx
  | .accountCrossOnTimer => getAccountCrossOnTimerAck shared t response ctx
  | .newOrder _ userId orderId => newOrderAck shared userId orderId 1 response ctx
  | .cancelOrder _ userId orderId version =>
    cancelOrderAck shared userId orderId version response ctx
  | .cancelAllOpenOrders _ _ requestId => cancelAllOpenOrdersAck shared requestId response ctx

/-- The requests of a client; the body of an order request is the encoder's. -/
inductive ClientRequest
  | createOrder (info : MessageInfo) (request : CreateOrder) (body : String)
  | modifyOrder (info : MessageInfo) (request : ModifyOrder)
  | cancelOrder (info : MessageInfo) (request : CancelOrder) (marginMode : MarginMode)
    (body : String)
  | cancelAllOrders (request : CancelAllOrders) (requestId : String)
  deriving DecidableEq, Repr

def onRequest (request : ClientRequest) (ctx : Ctx) : Ctx × Option Exception :=
  match request with
  | .createOrder info request body => newOrder shared info request body ctx
  | .modifyOrder _ _ => (ctx,some (.notSupported "not supported"))
  | .cancelOrder info request marginMode body =>
    cancelOrder shared info request marginMode body ctx
  | .cancelAllOrders request requestId => cancelAllOpenOrders request requestId ctx

end OrderEntryMargin
end RoqBinance.Gateway
