import Mathlib.Logic.Function.Basic
import RoqBinance.Library.Machine
import RoqBinance.Gateway.OrderEntryMargin
import RoqBinance.Gateway.OrderEntryPortfolio
import RoqBinance.Gateway.WebSocket

/-! The controller: it owns the order-entry streams of all accounts and routes the requests of
the clients to them. -/
namespace RoqBinance.Gateway
open Library Protocol.Json

namespace Controller

/-- An account has one such stream, whichever its margin mode. -/
inductive OrderEntry
  | webSocket (self : WebSocket)
  | portfolio (self : OrderEntryPortfolio)
  deriving DecidableEq, Repr

/-- What any of the streams sends to the exchange. -/
inductive Call
  | frame (frame : Frame)
  | portfolio (call : OrderEntryPortfolio.Call)
  | margin (call : OrderEntryMargin.Call)
  deriving DecidableEq, Repr

end Controller

structure Controller where
  request : String → Request
  orderEntry : String → Option Controller.OrderEntry
  orderEntryMargin : String → Option OrderEntryMargin

namespace Controller

/-- An account of the configuration. -/
structure Account where
  name : String
  marginMode : MarginMode
  deriving DecidableEq, Repr

/-- A name has the first account that was given it. -/
def createAccounts (accounts : List Account) : List Account :=
  accounts.foldl (fun result account =>
    if account.name ∈ result.map Account.name then result else result ++ [account]) []

def createOrderEntry (streamId : ℕ) (account : Account) : OrderEntry :=
  match account.marginMode with
  | .undefined => .webSocket (.create streamId account.name)
  | .isolated => .webSocket (.create streamId account.name)
  | .cross => .webSocket (.create streamId account.name)
  | .portfolio => .portfolio (.create streamId account.name)

/-- Create a stream for each account, with the stream ids from `streamId` on. -/
def createStreams {α : Type} (create : ℕ → Account → α) (streamId : ℕ) (accounts : List Account)
    (name : String) : Option α :=
  (accounts.zipIdx streamId).findSome? fun x =>
    if x.1.name = name then some (create x.2 x.1) else none

def marginAccounts (experimentalDropMargin : Bool) (accounts : List Account) : List Account :=
  if experimentalDropMargin then [] else accounts.filter fun account => account.marginMode ≠ .portfolio

/-- The first stream id is that of the market's REST stream. -/
def create (experimentalDropMargin : Bool) (accounts : List Account) : Controller where
  request _ := Request.empty
  orderEntry := createStreams createOrderEntry 2 accounts
  orderEntryMargin :=
    createStreams (fun streamId account => OrderEntryMargin.create streamId account.name)
      (2+accounts.length) (marginAccounts experimentalDropMargin accounts)

/-- The controller after a handler, what the streams have put out, and the exception by which
the handler ended, if any. -/
structure Result where
  controller : Controller
  outputs : List (Output Call)
  exception : Option Exception

namespace Result

/-- Nothing is done after an exception. -/
def andThen (r : Result) (f : Controller → Result) : Result :=
  match r.exception with
  | some _ => r
  | none => {f r.controller with outputs := r.outputs ++ (f r.controller).outputs}

end Result

/-- Call a handler of a stream of the account. -/
def call {Self C : Type} (put : Self → Controller → Controller) (wrap : C → Call)
    (account : String) (f : Context Self C → Context Self C × Option Exception) (self : Self)
    (s : Controller) : Result :=
  match f ⟨self,s.request account,[]⟩ with
  | (ctx,exception) =>
    ⟨put ctx.self {s with request := Function.update s.request account ctx.request},
      ctx.outputs.map (Output.map wrap),exception⟩

def putOrderEntry (account : String) (entry : OrderEntry) (s : Controller) : Controller :=
  {s with orderEntry := Function.update s.orderEntry account (some entry)}

def putOrderEntryMargin (account : String) (self : OrderEntryMargin) (s : Controller) : Controller :=
  {s with orderEntryMargin := Function.update s.orderEntryMargin account (some self)}

def callWebSocket (account : String)
    (f : WebSocket.Ctx → WebSocket.Ctx × Option Exception) : WebSocket → Controller → Result :=
  call (fun self => putOrderEntry account (.webSocket self)) .frame account f

def callPortfolio (account : String)
    (f : OrderEntryPortfolio.Ctx → OrderEntryPortfolio.Ctx × Option Exception) :
    OrderEntryPortfolio → Controller → Result :=
  call (fun self => putOrderEntry account (.portfolio self)) .portfolio account f

def callMargin (account : String)
    (f : OrderEntryMargin.Ctx → OrderEntryMargin.Ctx × Option Exception) :
    OrderEntryMargin → Controller → Result :=
  call (putOrderEntryMargin account) .margin account f

/-- `marginMode` is that of the order; the text is what the encoder of the stream makes of it. -/
inductive ClientRequest
  | createOrder (info : MessageInfo) (request : CreateOrder) (text : String)
  | modifyOrder (info : MessageInfo) (request : ModifyOrder) (marginMode : MarginMode)
    (text : String)
  | cancelOrder (info : MessageInfo) (request : CancelOrder) (marginMode : MarginMode)
    (text : String)
  | cancelAllOrders (info : MessageInfo) (request : CancelAllOrders) (requestId : String)
  | massQuote
  | cancelQuotes
  deriving DecidableEq, Repr

inductive Target
  | orderEntry (entry : OrderEntry)
  | margin (self : OrderEntryMargin)

def unknownAccount (account : String) : Exception :=
  .runtimeError ("Unknown account=\"" ++ account ++ "\"")

def find {α : Type} (lookup : String → Option α) (account : String) : Except Exception α :=
  match lookup account with
  | some x => .ok x
  | none => .error (unknownAccount account)

def getOrderEntry (account : String) (marginMode : MarginMode) (s : Controller) :
    Except Exception Target :=
  match marginMode with
  | .undefined => (find s.orderEntry account).map .orderEntry
  | .isolated => (find s.orderEntryMargin account).map .margin
  | .cross => (find s.orderEntryMargin account).map .margin
  | .portfolio => (find s.orderEntry account).map .orderEntry

section
variable (shared : Shared)

def requestOrderEntry (account : String) (webSocket : WebSocket.ClientRequest)
    (portfolio : OrderEntryPortfolio.ClientRequest) (entry : OrderEntry) : Controller → Result :=
  match entry with
  | .webSocket self => callWebSocket account (WebSocket.onRequest shared webSocket) self
  | .portfolio self => callPortfolio account (OrderEntryPortfolio.onRequest shared portfolio) self

def requestMargin (account : String) (margin : OrderEntryMargin.ClientRequest) :
    OrderEntryMargin → Controller → Result :=
  callMargin account (OrderEntryMargin.onRequest shared margin)

/-- Pass an order request to the stream for the margin mode. -/
def route (account : String) (marginMode : MarginMode) (webSocket : WebSocket.ClientRequest)
    (portfolio : OrderEntryPortfolio.ClientRequest) (margin : OrderEntryMargin.ClientRequest)
    (s : Controller) : Result :=
  match getOrderEntry account marginMode s with
  | .ok (.orderEntry entry) => requestOrderEntry shared account webSocket portfolio entry s
  | .ok (.margin self) => requestMargin shared account margin self s
  | .error e => ⟨s,[],some e⟩

/-- An account without such a stream is passed over. -/
def helper {α : Type} (x : Option α) (f : α → Controller → Result) (s : Controller) : Result :=
  match x with
  | some x => f x s
  | none => ⟨s,[],none⟩

/-- Both streams of the account are asked, the spot or portfolio stream first. -/
def cancelAllOrders (info : MessageInfo) (request : CancelAllOrders) (requestId : String)
    (s : Controller) : Result :=
  (helper (s.orderEntry request.account) (requestOrderEntry shared request.account
    (.cancelAllOrders info request requestId) (.cancelAllOrders request requestId)) s).andThen
      fun s => helper (s.orderEntryMargin request.account)
        (requestMargin shared request.account (.cancelAllOrders request requestId)) s

def onRequest (request : ClientRequest) (s : Controller) : Result :=
  match request with
  | .createOrder info request text =>
    route shared request.account request.marginMode (.createOrder info request text)
      (.createOrder info request text) (.createOrder info request text) s
  | .modifyOrder info request marginMode text =>
    route shared request.account marginMode (.modifyOrder info request text)
      (.modifyOrder info request) (.modifyOrder info request) s
  | .cancelOrder info request marginMode text =>
    route shared request.account marginMode (.cancelOrder info request text)
      (.cancelOrder info request text) (.cancelOrder info request marginMode text) s
  | .cancelAllOrders info request requestId => cancelAllOrders shared info request requestId s
  | .massQuote => ⟨s,[],some (.notSupported "not supported")⟩
  | .cancelQuotes => ⟨s,[],some (.notSupported "not supported")⟩

end

/-- The events of a REST stream's connection, and the callbacks of its requests. -/
inductive RestEvent (C : Type)
  | timer (timerNow : ℕ) (refresh : Bool)
  | connected
  | disconnected
  | response (call : C) (response : RestResponse) (retryNow : Bool)

/-- `post` is a user stream asking for a download. -/
inductive Event
  | client (request : ClientRequest)
  | webSocket (account : String) (event : WebSocket.SocketEvent)
  | portfolio (account : String) (event : RestEvent OrderEntryPortfolio.Call)
  | margin (account : String) (event : RestEvent OrderEntryMargin.Call)
  | post (account : String) (k : Kind)

def onPortfolio (shared : Shared) (t : TraceInfo) (event : RestEvent OrderEntryPortfolio.Call)
    (ctx : OrderEntryPortfolio.Ctx) : OrderEntryPortfolio.Ctx :=
  match event with
  | .timer _ refresh => OrderEntryPortfolio.onTimer shared t refresh ctx
  | .connected => OrderEntryPortfolio.onConnected ctx
  | .disconnected => OrderEntryPortfolio.onDisconnected ctx
  | .response call response retryNow =>
    OrderEntryPortfolio.onResponse shared t call response retryNow ctx

def onMargin (shared : Shared) (t : TraceInfo) (event : RestEvent OrderEntryMargin.Call)
    (ctx : OrderEntryMargin.Ctx) : OrderEntryMargin.Ctx :=
  match event with
  | .timer timerNow refresh => OrderEntryMargin.onTimer shared timerNow refresh ctx
  | .connected => OrderEntryMargin.onConnected ctx
  | .disconnected => OrderEntryMargin.onDisconnected ctx
  | .response call response retryNow =>
    OrderEntryMargin.onResponse shared t call response retryNow ctx

/-- A stream that the account does not have has no events. -/
def step (shared : Shared) (p : WSAPIParsers) (t : TraceInfo) (event : Event) (s : Controller) :
    Option Result :=
  match event with
  | .client request => some (onRequest shared request s)
  | .webSocket account event =>
    match s.orderEntry account with
    | some (.webSocket self) =>
      some (callWebSocket account (fun ctx => (WebSocket.onSocket shared p t event ctx,none)) self s)
    | _ => none
  | .portfolio account event =>
    match s.orderEntry account with
    | some (.portfolio self) =>
      some (callPortfolio account (fun ctx => (onPortfolio shared t event ctx,none)) self s)
    | _ => none
  | .margin account event =>
    (s.orderEntryMargin account).map fun self =>
      callMargin account (fun ctx => (onMargin shared t event ctx,none)) self s
  | .post account k =>
    some ⟨{s with request :=
      Function.update s.request account ((s.request account).post k t.originCreateTime)},[],none⟩

/-- A fatal error ends the process, an exception goes to the caller. -/
def next (shared : Shared) (p : WSAPIParsers) (s : Controller) (e : TraceInfo × Event) :
    Option Controller :=
  match step shared p e.1 e.2 s with
  | some r => if r.outputs.any Output.isFatal then none else some r.controller
  | none => none

def machine (shared : Shared) (p : WSAPIParsers) (experimentalDropMargin : Bool)
    (accounts : List Account) : Machine Controller (TraceInfo × Event) :=
  ⟨create experimentalDropMargin accounts,next shared p⟩

end Controller
end RoqBinance.Gateway
