import RoqBinance.Gateway.Frame

/-! The user stream of the margin wallet. It recovers by asking the order entry, through the
shared request, for an account and an orders download. -/
namespace RoqBinance.Gateway
open Library Protocol.Json

namespace DropCopyMargin

inductive State | sessionLogon | userDataStreamSubscribe | account | orders | done
  deriving DecidableEq, Repr

end DropCopyMargin

structure DropCopyMargin where
  streamId : ℕ
  account : String
  listenToken : String
  requestId : UInt32
  ready : Bool
  connectionStatus : ConnectionStatus
  download : Download DropCopyMargin.State
  downloadListenToken : Bool
  deriving DecidableEq, Repr

namespace DropCopyMargin

def REQUEST_ID : ℕ := 1000000

def create (streamId : ℕ) (account : String) (update : ListenKeyUpdate) : DropCopyMargin where
  streamId := streamId
  account := account
  listenToken := update.listenKey
  requestId := UInt32.ofNat (REQUEST_ID*streamId)
  ready := false
  connectionStatus := .undefined
  download := .idle
  downloadListenToken := false

def isReady (self : DropCopyMargin) : Bool := self.connectionStatus = .ready

abbrev Ctx := Context DropCopyMargin Frame

def onConnectionStatus (status : ConnectionStatus) (reason : String) (ctx : Ctx) : Ctx :=
  (ctx.modify fun self => {self with connectionStatus := status}).dispatch
    (.streamStatus ctx.self.streamId ctx.self.account status reason)

/-- Number a request and send it. -/
def sendText (type : WSAPIType) (method : String) (params : Params) (ctx : Ctx) : Ctx :=
  (ctx.modify fun self => {self with requestId := self.requestId+1}).send
    ⟨⟨ctx.self.requestId+1,type,0,0,0,0⟩,method,params⟩

def sessionLogon (t : TraceInfo) (ctx : Ctx) : Ctx :=
  onConnectionStatus .loginSent "session.logon"
    (sendText .SESSION_LOGON "session.logon"
      (.sessionLogon (milliseconds t.originCreateTimeUtc)) ctx)

def subscribeUserDataStream (ctx : Ctx) : Ctx :=
  onConnectionStatus .downloading "userDataStream.subscribe.listenToken"
    (sendText .USER_DATA_STREAM_SUBSCRIBE "userDataStream.subscribe.listenToken"
      (.listenToken ctx.self.listenToken) ctx)

def getAccount (t : TraceInfo) (ctx : Ctx) : Ctx :=
  onConnectionStatus .downloading "account" (ctx.post .accountCross t.originCreateTime)

def getOrders (t : TraceInfo) (ctx : Ctx) : Ctx :=
  onConnectionStatus .downloading "orders" (ctx.post .ordersCross t.originCreateTime)

def downloadState (t : TraceInfo) (state : State) (ctx : Ctx) : Ctx × ℕ :=
  match state with
  | .sessionLogon => (sessionLogon t (onConnectionStatus .downloading "SESSION_LOGON" ctx),1)
  | .userDataStreamSubscribe =>
    (subscribeUserDataStream (onConnectionStatus .downloading "USER_DATA_STREAM_SUBSCRIBE" ctx),1)
  | .account => (getAccount t (onConnectionStatus .downloading "ACCOUNT" ctx),1)
  | .orders => (getOrders t (onConnectionStatus .downloading "ORDERS" ctx),1)
  | .done => ((onConnectionStatus .ready "" ctx).modify fun self => {self with ready := true},0)

/-- Run the sequencer of the stream. -/
def sequencer (f : Download State → Ctx → Download State × Ctx) (ctx : Ctx) : Ctx :=
  match f ctx.self.download ctx with
  | (download,ctx) => ctx.modify fun self => {self with download := download}

def states : List State := [.sessionLogon,.userDataStreamSubscribe,.account,.orders,.done]

def checkResponseListenKey (ctx : Ctx) : Ctx :=
  if ctx.self.downloadListenToken && decide (ctx.request.stamps .listenKeyCross).completed then
    ctx.modify fun self => {self with downloadListenToken := false}
  else ctx

/-- Leave `state` when the download it waits for has been responded to. -/
def checkResponse (t : TraceInfo) (state : State) (k : Kind) (ctx : Ctx) : Ctx :=
  if ctx.self.download.state ≠ some state then ctx
  else if (ctx.request.stamps k).completed then
    sequencer (Download.check (downloadState t) state) ctx
  else ctx

def checkResponseAccount (t : TraceInfo) : Ctx → Ctx := checkResponse t .account .accountCross
def checkResponseOrders (t : TraceInfo) : Ctx → Ctx := checkResponse t .orders .ordersCross

def onTimer (t : TraceInfo) (refresh : Bool) (ctx : Ctx) : Ctx :=
  if refresh && ctx.self.isReady then
    checkResponseOrders t (checkResponseAccount t (checkResponseListenKey ctx))
  else ctx

def onDisconnected (ctx : Ctx) : Ctx :=
  (onConnectionStatus .disconnected "" (ctx.modify fun self => {self with ready := false})).modify
    fun self => {self with download := .idle}

def onReady (t : TraceInfo) (ctx : Ctx) : Ctx :=
  sequencer (fun _ => Download.begin (downloadState t) states) ctx

/-- A reply moves the sequencer on or has the state repeated. -/
def onReply {α : Type} (t : TraceInfo) (state : State) (reply : WSAPIReply α) (retryNow : Bool)
    (ctx : Ctx) : Ctx :=
  let ctx :=
    if reply.status = 200 then sequencer (Download.check (downloadState t) state) ctx
    else sequencer (Download.retry (downloadState t) states retryNow state) ctx
  ctx.dispatchAll (updateRateLimits ctx.self.streamId ctx.self.account reply.rateLimits)

def onEventStreamTerminated (t : TraceInfo) (ctx : Ctx) : Ctx :=
  if ctx.self.listenToken = "" then ctx
  else
    (((ctx.modify fun self => {self with listenToken := ""}).emit (.suspendFor (60*10^9))).post
      .listenKeyCross t.originCreateTime).modify fun self => {self with downloadListenToken := true}

/-- The margin mode is left undefined, see the source's FIXME. -/
def onOutboundAccountPositionData (event : OutboundAccountPositionData) (ctx : Ctx) : Ctx :=
  ctx.dispatchAll
    (onOutboundAccountPosition ctx.self.streamId ctx.self.account .undefined event)

/-- Balance updates hold changes and are not used; the replies of the spot requests are not
expected here. -/
def onMessage (shared : Shared) (t : TraceInfo) (message : WSAPIMessage) (order : MatchedOrder)
    (retryNow : Bool) (ctx : Ctx) : Ctx :=
  match message with
  | .sessionLogon reply => onReply t .sessionLogon reply retryNow ctx
  | .userDataStreamSubscribe reply => onReply t .userDataStreamSubscribe reply retryNow ctx
  | .eventStreamTerminated => onEventStreamTerminated t ctx
  | .account _ => ctx.fatal "Unexpected"
  | .openOrders _ => ctx.fatal "Unexpected"
  | .trades _ => ctx.fatal "Unexpected"
  | .orderPlace _ _ => ctx.fatal "Unexpected"
  | .orderAmendKeepPriority _ _ => ctx.fatal "Unexpected"
  | .cancelOrder _ _ => ctx.fatal "Unexpected"
  | .cancelOpenOrders _ _ => ctx.fatal "Unexpected"
  | .outboundAccountPosition event => onOutboundAccountPositionData event ctx
  | .balanceUpdate => ctx
  | .executionReport report =>
    ctx.dispatchAll
      (onExecutionReport shared ctx.self.streamId ctx.self.account .undefined order report)

/-- The stream has been waiting for this token since its own was terminated. -/
def onListenKeyUpdate (update : ListenKeyUpdate) (ctx : Ctx) : Ctx :=
  (ctx.modify fun self => {self with listenToken := update.listenKey}).emit .resume

/-- The events of the socket. -/
inductive SocketEvent
  | ready
  | disconnected
  | message (message : WSAPIMessage) (order : MatchedOrder) (retryNow : Bool)

def onSocket (shared : Shared) (t : TraceInfo) (event : SocketEvent) (ctx : Ctx) : Ctx :=
  match event with
  | .ready => onReady t ctx
  | .disconnected => onDisconnected ctx
  | .message message order retryNow => onMessage shared t message order retryNow ctx

inductive Event
  | timer (refresh : Bool)
  | listenKeyUpdate (update : ListenKeyUpdate)
  | socket (event : SocketEvent)

def handle (shared : Shared) (t : TraceInfo) (event : Event) (ctx : Ctx) : Ctx :=
  match event with
  | .timer refresh => onTimer t refresh ctx
  | .listenKeyUpdate update => onListenKeyUpdate update ctx
  | .socket event => onSocket shared t event ctx

end DropCopyMargin
end RoqBinance.Gateway
