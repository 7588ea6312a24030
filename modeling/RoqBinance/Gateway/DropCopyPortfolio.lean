import RoqBinance.Gateway.Frame

/-! The user stream of a portfolio account. It recovers by asking the order entry, through the
shared request, for the account, the orders and, if configured, the trades. -/
namespace RoqBinance.Gateway
open Library Protocol.Json

namespace DropCopyPortfolio

inductive State | account | orders | trades | done
  deriving DecidableEq, Repr

/-- The stream only listens. -/
inductive Call
  deriving DecidableEq, Repr

/-- The callbacks of `UserStreamParser::Handler`. -/
inductive Message
  | outboundAccountPosition (event : OutboundAccountPositionData)
  | balanceUpdate
  | executionReport (event : ExecutionReportData)
  | listStatus

end DropCopyPortfolio

structure DropCopyPortfolio where
  streamId : ℕ
  account : String
  query : String
  ready : Bool
  connectionStatus : ConnectionStatus
  download : Download DropCopyPortfolio.State
  deriving DecidableEq, Repr

namespace DropCopyPortfolio

def createQuery (listenKey : String) : String := "/" ++ listenKey

def create (streamId : ℕ) (account : String) (listenKey : String) : DropCopyPortfolio where
  streamId := streamId
  account := account
  query := createQuery listenKey
  ready := false
  connectionStatus := .undefined
  download := .idle

def isReady (self : DropCopyPortfolio) : Bool := self.connectionStatus = .ready

abbrev Ctx := Context DropCopyPortfolio Call

def onConnectionStatus (status : ConnectionStatus) (reason : String) (ctx : Ctx) : Ctx :=
  (ctx.modify fun self => {self with connectionStatus := status}).dispatch
    (.streamStatus ctx.self.streamId ctx.self.account status reason)

def requestAccount (t : TraceInfo) (ctx : Ctx) : Ctx := ctx.post .account t.originCreateTime
def requestOrders (t : TraceInfo) (ctx : Ctx) : Ctx := ctx.post .orders t.originCreateTime
def requestTrades (t : TraceInfo) (ctx : Ctx) : Ctx := ctx.post .trades t.originCreateTime

variable (shared : Shared)

def downloadState (t : TraceInfo) (state : State) (ctx : Ctx) : Ctx × ℕ :=
  match state with
  | .account => (requestAccount t (onConnectionStatus .downloading "ACCOUNT" ctx),1)
  | .orders => (requestOrders t (onConnectionStatus .downloading "ORDERS" ctx),1)
  | .trades =>
    if shared.settings.tradesLookback ≠ 0 ∧ shared.settings.downloadSymbols ≠ [] then
      (requestTrades t (onConnectionStatus .downloading "TRADES" ctx),1)
    else (ctx,0)
  | .done => ((onConnectionStatus .ready "" ctx).modify fun self => {self with ready := true},0)

/-- Run the sequencer of the stream. -/
def sequencer (f : Download State → Ctx → Download State × Ctx) (ctx : Ctx) : Ctx :=
  match f ctx.self.download ctx with
  | (download,ctx) => ctx.modify fun self => {self with download := download}

def states : List State := [.account,.orders,.trades,.done]

/-- Leave `state` when the download it waits for has been responded to. -/
def checkResponse (t : TraceInfo) (state : State) (k : Kind) (ctx : Ctx) : Ctx :=
  if ctx.self.download.state ≠ some state then ctx
  else if (ctx.request.stamps k).completed then
    sequencer (Download.check (downloadState shared t) state) ctx
  else ctx

def checkResponseAccount (t : TraceInfo) : Ctx → Ctx := checkResponse shared t .account .account
def checkResponseOrders (t : TraceInfo) : Ctx → Ctx := checkResponse shared t .orders .orders
def checkResponseTrades (t : TraceInfo) : Ctx → Ctx := checkResponse shared t .trades .trades

def onTimer (t : TraceInfo) (refresh : Bool) (ctx : Ctx) : Ctx :=
  if refresh && ctx.self.isReady then
    checkResponseTrades shared t (checkResponseOrders shared t (checkResponseAccount shared t ctx))
  else ctx

def onDisconnected (ctx : Ctx) : Ctx :=
  (onConnectionStatus .disconnected "" (ctx.modify fun self => {self with ready := false})).modify
    fun self => {self with download := .idle}

def onReady (t : TraceInfo) (ctx : Ctx) : Ctx :=
  sequencer (fun _ => Download.begin (downloadState shared t) states) ctx

def onMessage (message : Message) (order : MatchedOrder) (ctx : Ctx) : Ctx :=
  match message with
  | .outboundAccountPosition event =>
    ctx.dispatchAll
      (onOutboundAccountPosition ctx.self.streamId ctx.self.account .portfolio event)
  | .balanceUpdate => ctx
  | .executionReport report =>
    ctx.dispatchAll
      (onExecutionReport shared ctx.self.streamId ctx.self.account .portfolio order report)
  | .listStatus => ctx

/-- The events of the socket. -/
inductive SocketEvent
  | ready
  | disconnected
  | message (message : Message) (order : MatchedOrder)

def onSocket (t : TraceInfo) (event : SocketEvent) (ctx : Ctx) : Ctx :=
  match event with
  | .ready => onReady shared t ctx
  | .disconnected => onDisconnected ctx
  | .message message order => onMessage shared message order ctx

inductive Event
  | timer (refresh : Bool)
  | socket (event : SocketEvent)

def handle (t : TraceInfo) (event : Event) (ctx : Ctx) : Ctx :=
  match event with
  | .timer refresh => onTimer shared t refresh ctx
  | .socket event => onSocket shared t event ctx

end DropCopyPortfolio
end RoqBinance.Gateway
