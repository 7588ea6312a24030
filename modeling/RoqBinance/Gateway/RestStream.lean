import RoqBinance.Gateway.Response
import RoqBinance.Gateway.Rest

/-! The REST stream as a whole: it downloads the reference data when its connection comes up,
and asks for the depths that the other streams have queued. -/
namespace RoqBinance.Gateway
open Library Protocol.Json

namespace RestStream

inductive State | exchangeInfo | done
  deriving DecidableEq, Repr

inductive Call
  | exchangeInfo
  | depth (symbol : String)
  deriving DecidableEq, Repr

end RestStream

/-- The limits, the symbols and the queue are shared with the other streams; `published` is what
has been made of the reference data. -/
structure RestStream where
  streamId : ℕ
  ready : Bool
  connectionStatus : ConnectionStatus
  download : Download RestStream.State
  limits : Limits
  allSymbols : List String
  depthRequestQueue : List String
  published : List Rest.Output
  deriving DecidableEq, Repr

namespace RestStream

def create (streamId : ℕ) : RestStream where
  streamId := streamId
  ready := false
  connectionStatus := .undefined
  download := .idle
  limits := ⟨0,0,0⟩
  allSymbols := []
  depthRequestQueue := []
  published := []

def isReady (self : RestStream) : Bool := self.connectionStatus = .ready

/-- The stream takes no part in the shared request. -/
abbrev Ctx := Context RestStream Call

/-- The stream belongs to no account. -/
def onConnectionStatus (status : ConnectionStatus) (reason : String) (ctx : Ctx) : Ctx :=
  (ctx.modify fun self => {self with connectionStatus := status}).dispatch
    (.streamStatus ctx.self.streamId "" status reason)

def getExchangeInfo (ctx : Ctx) : Ctx := ctx.send .exchangeInfo

def downloadState (state : State) (ctx : Ctx) : Ctx × ℕ :=
  match state with
  | .exchangeInfo => (getExchangeInfo (onConnectionStatus .downloading "EXCHANGE_INFO" ctx),1)
  | .done => ((onConnectionStatus .ready "" ctx).modify fun self => {self with ready := true},0)

/-- Run the sequencer of the stream. -/
def sequencer (f : Download State → Ctx → Download State × Ctx) (ctx : Ctx) : Ctx :=
  match f ctx.self.download ctx with
  | (download,ctx) => ctx.modify fun self => {self with download := download}

def states : List State := [.exchangeInfo,.done]

/-- What a depth has the sequencer of its instrument do: publish a snapshot or ask for another
one, for which there may have been too many already. -/
inductive Depth | publish | request | exhausted
  deriving DecidableEq, Repr

/-- A reply to either request, its body as the two parsers read it. The dispatcher is the one
that the reference data goes to; `skip` is whether the sequencer has no use for the reply and
`retryNow` whether it repeats a state at once. -/
structure Reply where
  response : RestResponse
  exchangeInfoAck : Except String ExchangeInfoAck
  depthAck : Except String Depth
  dispatcher : Rest.Dispatcher
  skip : Bool
  retryNow : Bool

variable (shared : Shared)

def limit (forbidden : Bool) (retryAfter : ℕ) (ctx : Ctx) : Ctx :=
  let ctx := if forbidden then wafLimitViolation shared ctx else ctx
  if retryAfter ≠ 0 then ctx.emit (.suspendFor retryAfter) else ctx

def retryExchangeInfo (reply : Reply) (ctx : Ctx) : Ctx :=
  sequencer (Download.retry downloadState states reply.retryNow .exchangeInfo) ctx

/-- An exception leaves what has been done until then. -/
def onExchangeInfoAck (dispatcher : Rest.Dispatcher) (ack : ExchangeInfoAck) (ctx : Ctx) :
    Except Ctx Ctx :=
  let store (result : Rest.Ctx) : Ctx := ctx.modify fun self =>
    {self with
      limits := result.limits, allSymbols := result.allSymbols,
      published := self.published ++ result.outputs}
  match Rest.onExchangeInfoAck shared ctx.self.streamId dispatcher ack ctx.self.limits
      ctx.self.allSymbols with
  | .ok result => .ok (store result)
  | .error result => .error (store result)

/-- A reply that has no use is not even parsed. -/
def getExchangeInfoAck (reply : Reply) (ctx : Ctx) : Ctx :=
  processResponseWith (limit shared)
    (fun _ => if reply.skip then .ok none else reply.exchangeInfoAck.map some) reply.response
    (fun _ _ _ _ => retryExchangeInfo reply)
    (fun ack ctx =>
      match ack with
      | none => ctx
      | some ack =>
        match onExchangeInfoAck shared reply.dispatcher ack ctx with
        | .ok ctx => sequencer (Download.check downloadState .exchangeInfo) ctx
        | .error ctx => retryExchangeInfo reply ctx) ctx

def requestDepth (symbol : String) (ctx : Ctx) : Ctx :=
  ctx.modify fun self => {self with depthRequestQueue := self.depthRequestQueue ++ [symbol]}

def getDepth (ctx : Ctx) (symbol : String) : Ctx := ctx.send (.depth symbol)

def onDepthAck (symbol : String) (depth : Depth) (ctx : Ctx) : Ctx :=
  match depth with
  | .publish => ctx
  | .request => requestDepth symbol ctx
  | .exhausted => ctx.fatal "Unexpected"

/-- Nothing is done about a failure. -/
def getDepthAck (symbol : String) (reply : Reply) (ctx : Ctx) : Ctx :=
  processResponseWith (limit shared) (fun _ => reply.depthAck) reply.response
    (fun _ _ _ _ ctx => ctx) (onDepthAck symbol) ctx

/-- The queue lets some of its first requests pass. -/
def checkRequestQueue (passed : ℕ) (ctx : Ctx) : Ctx :=
  let symbols := ctx.self.depthRequestQueue.take passed
  symbols.foldl getDepth (ctx.modify fun self =>
    {self with depthRequestQueue := self.depthRequestQueue.drop passed})

/-- `refresh` is whether the connection is up. -/
def onTimer (refresh : Bool) (passed : ℕ) (ctx : Ctx) : Ctx :=
  if refresh && ctx.self.isReady then checkRequestQueue passed ctx else ctx

def onConnected (ctx : Ctx) : Ctx :=
  if ctx.self.download.downloading then sequencer (Download.bump downloadState) ctx
  else sequencer (fun _ => Download.begin downloadState states) ctx

def onDisconnected (ctx : Ctx) : Ctx :=
  let ctx := onConnectionStatus .disconnected "" (ctx.modify fun self => {self with ready := false})
  ctx.modify fun self =>
    {self with download := if self.download.downloading then self.download else .idle}

/-- The callback that a REST request was sent with. -/
def onResponse (call : Call) (reply : Reply) (ctx : Ctx) : Ctx :=
  match call with
  | .exchangeInfo => getExchangeInfoAck shared reply ctx
  | .depth symbol => getDepthAck shared symbol reply ctx

/-- The inputs of the stream: its timer, and another stream that needs a depth. -/
inductive Input
  | timer (refresh : Bool) (passed : ℕ)
  | requestDepth (symbol : String)
  deriving DecidableEq, Repr

def onInput (input : Input) (ctx : Ctx) : Ctx :=
  match input with
  | .timer refresh passed => onTimer refresh passed ctx
  | .requestDepth symbol => requestDepth symbol ctx

end RestStream
end RoqBinance.Gateway
