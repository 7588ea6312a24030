import RoqBinance.Gateway.SteadyLinks
import RoqBinance.Gateway.WebSocket

/-! The spot stream on its socket, which is connected before it is ready: the stream is ready
exactly when it says so, and sends nothing but the requests of its initial download before. -/
namespace RoqBinance.Gateway
open Library Protocol.Json

namespace WebSocket

def downloadTypes : List WSAPIType :=
  [.SESSION_LOGON,.USER_DATA_STREAM_SUBSCRIBE,.ACCOUNT_STATUS,.OPEN_ORDERS_STATUS,.MY_TRADES]

def facet : Facet WebSocket Frame State where
  master _ := true
  ready := WebSocket.ready
  status := WebSocket.connectionStatus
  download := WebSocket.download
  symbols := WebSocket.openOrdersSymbols
  last := .done
  initial frame := frame.request.type ∈ downloadTypes

theorem closes_states : Download.Closes State.done states :=
  ⟨[.sessionLogon,.userDataStreamSubscribe,.accountStatus,.openOrdersStatus,.myTrades],by decide,rfl⟩

section
variable {ctx₀ ctx : Ctx}

theorem status_of_isReady (h : ctx.self.isReady = true) : facet.status ctx.self = .ready :=
  of_decide_eq_true h

theorem quiet_sendText (h : facet.Quiet ctx₀ ctx) (hs : facet.status ctx.self = .ready)
    (type : WSAPIType) (userId : UInt8) (orderId : UInt64) (version : UInt32) (method : String)
    (params : Params) :
    facet.Quiet ctx₀ (sendText type userId orderId version method params ctx) := by
  have hnumber : facet.Quiet ctx₀ (ctx.modify fun self => {self with requestId := self.requestId+1}) :=
    h.modify rfl (Facet.Grows.of_eq rfl)
  exact hnumber.send hs _

theorem quiet_remember (h : facet.Quiet ctx₀ ctx) (symbol : String) :
    facet.Quiet ctx₀ (ctx.modify fun self =>
      {self with openOrdersSymbols := emplace self.openOrdersSymbols symbol}) :=
  h.modify rfl (Facet.Grows.emplace rfl)

variable (shared : Shared)

theorem quiet_onRequest (request : ClientRequest) (ctx : Ctx) :
    facet.Quiet ctx (onRequest shared request ctx).1 := by
  have hctx : facet.Quiet ctx ctx := Facet.Quiet.refl ctx
  cases request with
  | createOrder info request params =>
    simp only [onRequest, orderPlace]
    split_ifs with hready
    · exact hctx
    · have hs : facet.status ctx.self = .ready := status_of_isReady (by simpa using hready)
      have hsymbol := quiet_remember hctx request.symbol
      split
      · exact hsymbol
      · exact quiet_sendText hsymbol (hsymbol.status.trans hs) _ _ _ _ _ _
  | modifyOrder info request params =>
    simp only [onRequest, orderAmendKeepPriority]
    split_ifs with hready hprice
    · exact hctx
    · exact hctx
    · exact quiet_sendText hctx (status_of_isReady (by simpa using hready)) _ _ _ _ _ _
  | cancelOrder info request params =>
    simp only [onRequest, orderCancel]
    split_ifs with hready
    · exact hctx
    · have hs : facet.status ctx.self = .ready := status_of_isReady (by simpa using hready)
      split
      · exact hctx
      · exact quiet_sendText hctx hs _ _ _ _ _ _
  | cancelAllOrders info request requestId =>
    simp only [onRequest, openOrdersCancelAll]
    split_ifs with hready
    · exact hctx
    · have hs : facet.status ctx.self = .ready := status_of_isReady (by simpa using hready)
      refine hctx.foldl ?_
      intro c hc symbol
      split_ifs
      · exact hc
      · exact (quiet_sendText hc (hc.status.trans hs) _ _ _ _ _ _).dispatch rfl

theorem silent_updateRateLimits (streamId : ℕ) (account : String) (items : List RateLimitsItem) :
    ∀ update ∈ updateRateLimits streamId account items,
      (Output.dispatch update : Output Frame).announcesReady = false := by
  intro update hu
  unfold updateRateLimits at hu
  split_ifs at hu
  · cases hu
  · rw [List.mem_singleton.mp hu]
    rfl

theorem quiet_rateLimited {α : Type} (h : facet.Quiet ctx₀ ctx) (reply : WSAPIReply α) :
    facet.Quiet ctx₀ (rateLimited reply ctx) := h.dispatchAll (silent_updateRateLimits _ _ _)

theorem quiet_respond (h : facet.Quiet ctx₀ ctx) (request : WSAPIRequest) (response : Response)
    (update : Option OrderUpdate) : facet.Quiet ctx₀ (respond request response update ctx) :=
  h.dispatch rfl

theorem quiet_onAccount (account : AccountAck) (ctx : Ctx) :
    facet.Quiet ctx (onAccount account ctx) :=
  (Facet.Quiet.refl ctx).dispatchMap _ _ fun _ => rfl

theorem quiet_onOpenOrders (orders : List Order) (ctx : Ctx) :
    facet.Quiet ctx (onOpenOrders shared orders ctx) := by
  refine (Facet.Quiet.refl ctx).foldl ?_
  intro c hc order
  unfold onOpenOrder
  split_ifs
  · exact hc
  · exact (quiet_remember hc order.symbol).dispatch rfl

theorem quiet_onTrades (trades : List Trade2) (ctx : Ctx) :
    facet.Quiet ctx (onTrades shared trades ctx) := by
  have hfirst : facet.Quiet ctx (ctx.modify fun self => {self with downloadTradesIsFirst := false}) :=
    (Facet.Quiet.refl ctx).modify rfl (Facet.Grows.of_eq rfl)
  exact hfirst.dispatchMap _ _ fun _ => rfl

theorem waits_onConnectionStatus (h : facet.Waits ctx₀ ctx) {status : ConnectionStatus}
    (hs : status ≠ .ready) (reason : String) :
    facet.Waits ctx₀ (onConnectionStatus status reason ctx) := by
  refine h.trans ⟨⟨h.unready.1,hs⟩,Facet.Grows.of_eq rfl,
    [.dispatch (.streamStatus ctx.self.streamId ctx.self.account status reason)],rfl,?_⟩
  simp [Output.announcesReady, hs]

theorem waits_sendText (h : facet.Waits ctx₀ ctx) {type : WSAPIType} (ht : type ∈ downloadTypes)
    (userId : UInt8) (orderId : UInt64) (version : UInt32) (method : String) (params : Params) :
    facet.Waits ctx₀ (sendText type userId orderId version method params ctx) := by
  refine h.trans ⟨h.unready,Facet.Grows.of_eq rfl,
    [.send ⟨⟨ctx.self.requestId+1,type,userId,orderId,version,0⟩,method,params⟩],rfl,?_⟩
  simp [Output.announcesReady, facet, ht]

theorem waits_myTrades (h : facet.Waits ctx₀ ctx) (t : TraceInfo) :
    facet.Waits ctx₀ (myTrades shared t ctx).1 := by
  simp only [myTrades]
  split_ifs
  · refine List.foldlRecOn _ _ h fun c hc symbol _ => ?_
    exact waits_onConnectionStatus (waits_sendText hc (by decide) _ _ _ _ _) (by decide) _
  · exact h

theorem finale (t : TraceInfo) (ctx₀ : Ctx) :
    Download.Finale (downloadState shared t) .done (facet.Waits ctx₀) (facet.Enters ctx₀) where
  before x ctx hx h := by
    have hstatus (reason : String) : facet.Waits ctx₀ (onConnectionStatus .downloading reason ctx) :=
      waits_onConnectionStatus h (by decide) reason
    cases x with
    | sessionLogon =>
      exact waits_onConnectionStatus (waits_sendText (hstatus _) (by decide) _ _ _ _ _) (by decide) _
    | userDataStreamSubscribe =>
      exact waits_onConnectionStatus (waits_sendText (hstatus _) (by decide) _ _ _ _ _) (by decide) _
    | accountStatus =>
      exact waits_onConnectionStatus (waits_sendText (hstatus _) (by decide) _ _ _ _ _) (by decide) _
    | openOrdersStatus =>
      exact waits_onConnectionStatus (waits_sendText (hstatus _) (by decide) _ _ _ _ _) (by decide) _
    | myTrades => exact waits_myTrades shared (hstatus _) t
    | done => exact absurd rfl hx
  last ctx h := by
    refine ⟨rfl,h.enters ⟨rfl,rfl,Facet.Grows.of_eq rfl,
      [.dispatch (.streamStatus ctx.self.streamId ctx.self.account .ready "")],rfl,rfl,?_⟩⟩
    simp

theorem sequences : facet.Sequences sequencer :=
  ⟨fun _ _ => rfl,fun _ _ => rfl,fun _ _ => rfl⟩

end

section
variable {self : WebSocket} {up : Bool} (shared : Shared) (t : TraceInfo)

theorem orderly_of_quiet (hs : facet.Settled self up) (input : Bool) {ctx : Ctx}
    (hq : facet.Quiet ⟨self,Request.empty,[]⟩ ctx) :
    Link.Orderly facet (fun _ => True) self up input ctx := .of_quiet hs trivial input hq

/-- A reply to the initial download ends the wait for it, asks again, or changes nothing. -/
theorem orderly_onReply {α : Type} (hs : facet.Settled self true) {state : State}
    (hstate : state ∈ states) {successHandler : α → Ctx → Ctx}
    (hsuccess : ∀ result ctx, facet.Quiet ctx (successHandler result ctx)) (reply : WSAPIReply α)
    (retryNow : Bool) :
    Link.Orderly facet (fun _ => True) self true false
      (onReply shared t state successHandler reply retryNow ⟨self,Request.empty,[]⟩) := by
  have hlimits : ∀ ctx : Ctx, ∀ update ∈ updateRateLimits ctx.self.streamId ctx.self.account
      reply.rateLimits, (Output.dispatch update : Output Frame).announcesReady = false :=
    fun ctx => silent_updateRateLimits _ _ _
  unfold onReply rateLimited
  split_ifs
  · have hq := hsuccess reply.result ⟨self,Request.empty,[]⟩
    rcases sequences.check (finale shared t) hs hq state with ⟨hu,hmoves⟩ | hidle
    · exact .of_moves hu trivial (hmoves.dispatchAll (hlimits _)) fun _ => rfl
    · exact orderly_of_quiet hs false (quiet_rateLimited hidle reply)
  · have hq : facet.Quiet ⟨self,Request.empty,[]⟩ (⟨self,Request.empty,[]⟩ : Ctx) :=
      Facet.Quiet.refl _
    rcases sequences.retry (finale shared t) closes_states hs hq retryNow hstate
      with ⟨hu,-,hmoves⟩ | hidle
    · exact .of_moves hu trivial (hmoves.dispatchAll (hlimits _)) fun _ => rfl
    · exact orderly_of_quiet hs false (quiet_rateLimited hidle reply)

theorem orderly_onMessage (hs : facet.Settled self true) (message : WSAPIMessage)
    (order : MatchedOrder) (retryNow : Bool) :
    Link.Orderly facet (fun _ => True) self true false
      (onMessage shared t message order retryNow ⟨self,Request.empty,[]⟩) := by
  have hctx : facet.Quiet ⟨self,Request.empty,[]⟩ (⟨self,Request.empty,[]⟩ : Ctx) :=
    Facet.Quiet.refl _
  cases message with
  | sessionLogon reply =>
    exact orderly_onReply shared t hs (by decide) (fun _ ctx => Facet.Quiet.refl ctx) reply retryNow
  | userDataStreamSubscribe reply =>
    exact orderly_onReply shared t hs (by decide) (fun _ ctx => Facet.Quiet.refl ctx) reply retryNow
  | account reply => exact orderly_onReply shared t hs (by decide) quiet_onAccount reply retryNow
  | openOrders reply =>
    exact orderly_onReply shared t hs (by decide) (quiet_onOpenOrders shared) reply retryNow
  | trades reply =>
    exact orderly_onReply shared t hs (by decide) (quiet_onTrades shared) reply retryNow
  | eventStreamTerminated => exact orderly_of_quiet hs false (hctx.fatal _)
  | orderPlace reply request =>
    refine orderly_of_quiet hs false (quiet_rateLimited ?_ reply)
    split_ifs
    · exact quiet_respond hctx request _ _
    · exact quiet_respond hctx request _ _
  | orderAmendKeepPriority reply request =>
    refine orderly_of_quiet hs false (quiet_rateLimited ?_ reply)
    split_ifs
    · exact quiet_respond hctx request _ _
    · exact quiet_respond hctx request _ _
  | cancelOrder reply request =>
    refine orderly_of_quiet hs false (quiet_rateLimited ?_ reply)
    split_ifs
    · exact quiet_respond hctx request _ _
    · exact quiet_respond hctx request _ _
  | cancelOpenOrders reply request =>
    refine orderly_of_quiet hs false (quiet_rateLimited ?_ reply)
    split_ifs
    · exact hctx.dispatchMap _ _ fun _ => rfl
    · exact hctx
  | outboundAccountPosition event =>
    exact orderly_of_quiet hs false (hctx.dispatchMap _ _ fun _ => rfl)
  | balanceUpdate => exact orderly_of_quiet hs false hctx
  | executionReport report =>
    refine orderly_of_quiet hs false (hctx.dispatchAll ?_)
    intro update hu
    unfold onExecutionReport at hu
    split_ifs at hu <;> simp at hu
    · rw [hu]
      rfl
    · rcases hu with rfl | rfl <;> rfl

theorem orderly_onReady (hs : facet.Settled self false) :
    Link.Orderly facet (fun _ => True) self true false
      (onReady shared t ⟨self,Request.empty,[]⟩) := by
  have hw : facet.Waits ⟨self,Request.empty,[]⟩ (⟨self,Request.empty,[]⟩ : Ctx) :=
    .of_quiet (Facet.Quiet.refl _) hs.unready.1
  exact .of_moves hs.unready.1 trivial
    (sequences.moves ((finale shared t _).begin closes_states hw)) fun _ => rfl

/-- The sequencer is reset even in the middle of a download. -/
theorem orderly_onDisconnected (self : WebSocket) :
    Link.Orderly facet (fun _ => True) self false false (onDisconnected ⟨self,Request.empty,[]⟩) := by
  have houtputs : (onDisconnected ⟨self,Request.empty,[]⟩).outputs =
      [.dispatch (.streamStatus self.streamId self.account .disconnected "")] := rfl
  refine ⟨.of_silent ?_ ?_,fun _ =>
    ⟨.inl ⟨⟨rfl,?_⟩,.inl rfl⟩,Facet.Grows.of_eq rfl,trivial⟩⟩
  · simp [houtputs, Output.announcesReady]
  · simp [houtputs]
  · simp [facet, onDisconnected, onConnectionStatus]

end

inductive Phase | down | connected | ready
  deriving DecidableEq, Repr

structure Socket where
  self : WebSocket
  phase : Phase
  deriving DecidableEq, Repr

namespace Socket

/-- The stream has nothing to do when the socket is connected. -/
inductive Event
  | connected
  | handle (event : WebSocket.Event)

def Event.isInput : Event → Bool
  | handle (.timer _) => true
  | handle (.client _) => true
  | _ => false

/-- The phase that an event takes the socket to. -/
def Event.phase (before : Phase) : Event → Phase
  | connected => .connected
  | handle (.socket .ready) => .ready
  | handle (.socket .disconnected) => .down
  | _ => before

/-- A text arrives when the socket is ready. -/
def Enabled (s : Socket) : Event → Prop
  | .connected => s.phase = .down
  | .handle (.socket .ready) => s.phase = .connected
  | .handle (.socket .disconnected) => s.phase ≠ .down
  | .handle (.socket (.text _ _ _)) => s.phase = .ready
  | .handle (.timer _) => True
  | .handle (.client _) => True

instance (s : Socket) (event : Event) : Decidable (Enabled s event) := by
  unfold Enabled
  split <;> infer_instance

variable (shared : Shared) (p : WSAPIParsers)

def handle (t : TraceInfo) (event : Event) (s : Socket) : Ctx :=
  match event with
  | .connected => ⟨s.self,Request.empty,[]⟩
  | .handle event => WebSocket.handle shared p t event ⟨s.self,Request.empty,[]⟩

/-- A fatal error ends the process. -/
def next (s : Socket) (e : TraceInfo × Event) : Option Socket :=
  if Enabled s e.2 then
    if (handle shared p e.1 e.2 s).outputs.any Output.isFatal then none
    else some ⟨(handle shared p e.1 e.2 s).self,e.2.phase s.phase⟩
  else none

def create (self : WebSocket) : Socket := ⟨self,.down⟩

def machine (self : WebSocket) : Machine Socket (TraceInfo × Event) :=
  ⟨create self,next shared p⟩

/-- The flag and the status say the same, and whatever happens next is in order. -/
structure InStep (s : Socket) : Prop where
  ready_iff : s.self.ready = true ↔ s.self.connectionStatus = .ready
  checked : ∀ t event, Enabled s event →
    facet.Checked s.self (event.phase s.phase = .ready) event.isInput (handle shared p t event s).outputs

variable {shared : Shared} {p : WSAPIParsers}

theorem orderly_handle {s : Socket} (hs : facet.Settled s.self (s.phase = .ready)) {t : TraceInfo}
    {event : Event} (he : Enabled s event) :
    Link.Orderly facet (fun _ => True) s.self (event.phase s.phase = .ready) event.isInput
      (handle shared p t event s) := by
  have hctx : facet.Quiet ⟨s.self,Request.empty,[]⟩ (⟨s.self,Request.empty,[]⟩ : Ctx) :=
    Facet.Quiet.refl _
  cases event with
  | connected =>
    have hdown : s.phase = .down := he
    rw [hdown] at hs
    exact orderly_of_quiet hs false hctx
  | handle event =>
    cases event with
    | timer refresh => exact orderly_of_quiet hs true hctx
    | client request => exact orderly_of_quiet hs true (quiet_onRequest shared request _)
    | socket event =>
      cases event with
      | ready =>
        have hconnected : s.phase = .connected := he
        rw [hconnected] at hs
        exact orderly_onReady shared t hs
      | disconnected => exact orderly_onDisconnected s.self
      | text message order retryNow =>
        have hready : s.phase = .ready := he
        simp only [hready] at hs ⊢
        change Link.Orderly facet (fun _ => True) s.self true false
          (parse shared p t message order retryNow ⟨s.self,Request.empty,[]⟩)
        unfold parse
        split
        · exact orderly_onMessage shared t hs _ order retryNow
        · exact orderly_of_quiet hs false hctx
        · exact orderly_of_quiet hs false (hctx.fatal _)
        · exact orderly_of_quiet hs false (hctx.fatal _)

theorem next_eq_some {s s' : Socket} {e : TraceInfo × Event} (hn : next shared p s e = some s') :
    Enabled s e.2 ∧ (handle shared p e.1 e.2 s).outputs.any Output.isFatal = false ∧
      s' = ⟨(handle shared p e.1 e.2 s).self,e.2.phase s.phase⟩ := by
  unfold next at hn
  split_ifs at hn with he hf
  exact ⟨he,by simpa using hf,(Option.some.inj hn).symm⟩

theorem preserves_settled (self : WebSocket) :
    (machine shared p self).Preserves fun s => facet.Settled s.self (s.phase = .ready) := by
  intro s e s' hs hn
  obtain ⟨he,hf,rfl⟩ := next_eq_some hn
  exact ((orderly_handle hs he).2 hf).1

theorem settled_create (streamId : ℕ) (account : String) :
    facet.Settled (WebSocket.create streamId account) false :=
  .inl ⟨⟨rfl,by simp [facet, WebSocket.create]⟩,.inl rfl⟩

theorem inStep {streamId : ℕ} {account : String} {s : Socket}
    (hr : (machine shared p (WebSocket.create streamId account)).Reachable s) :
    InStep shared p s := by
  have hs := (preserves_settled _).reachable (settled_create streamId account) hr
  exact ⟨hs.ready_iff,fun t event he => (orderly_handle hs he).1⟩

end Socket
end WebSocket

/-- Wherever a run takes one of the four streams, its flag and its status say the same, and
whatever happens next is in order. -/
theorem readiness_gates_traffic (shared : Shared) (p : WSAPIParsers) (streamId : ℕ)
    (account : String) (asks : Kind → Prop) :
    (∀ s, (Link.machine (RestStream.handlers shared false) (RestStream.create streamId)).Reachable s →
      Link.InStep RestStream.facet (RestStream.handlers shared false) s) ∧
    (∀ s, (Link.machine (OrderEntryMargin.handlers shared asks false)
        (OrderEntryMargin.create streamId account)).Reachable s →
      Link.InStep OrderEntryMargin.facet (OrderEntryMargin.handlers shared asks false) s) ∧
    (∀ s, (Link.machine (OrderEntryPortfolio.handlers shared asks false)
        (OrderEntryPortfolio.create streamId account)).Reachable s →
      Link.InStep OrderEntryPortfolio.facet (OrderEntryPortfolio.handlers shared asks false) s) ∧
    (∀ s, (WebSocket.Socket.machine shared p (WebSocket.create streamId account)).Reachable s →
      WebSocket.Socket.InStep shared p s) := by
  refine ⟨?_,?_,?_,?_⟩
  · intro s hr
    exact (RestStream.steady shared false).inStep (RestStream.settled_create streamId) trivial hr
  · intro s hr
    exact (OrderEntryMargin.steady shared asks false).inStep
      (OrderEntryMargin.settled_create streamId account)
      (OrderEntryMargin.loading_create streamId account) hr
  · intro s hr
    exact (OrderEntryPortfolio.steady shared asks false).inStep
      (OrderEntryPortfolio.settled_create streamId account) rfl hr
  · intro s hr
    exact WebSocket.Socket.inStep hr

/-- The margin stream of an account has received its first listen key. -/
def readyRun : List (Timed (Link.Event OrderEntryMargin.Call RestReply
    (Link.Input OrderEntryMargin.ClientRequest fun _ => True))) :=
  [⟨⟨1,1⟩,.connected⟩,
    ⟨⟨2,2⟩,.reply ⟨.listenKey .cross,false,false⟩
      ⟨.result 200 .success 0 {Body.unreadable with listenKeyAckMargin := .ok ⟨"key"⟩},false⟩⟩]

theorem readiness_gates_traffic_ready :
    ∃ s, (Link.machine (OrderEntryMargin.handlers Shared.sample (fun _ => True) false)
        (OrderEntryMargin.create 3 "A1")).Reachable s ∧ s.self.ready = true ∧
      Link.InStep OrderEntryMargin.facet
        (OrderEntryMargin.handlers Shared.sample (fun _ => True) false) s := by
  let M := Link.machine (OrderEntryMargin.handlers Shared.sample (fun _ => True) false)
    (OrderEntryMargin.create 3 "A1")
  have hrun : (M.run M.init readyRun).any (fun s => s.self.ready) = true := by decide
  obtain ⟨s,hr,hready⟩ := M.exists_reachable hrun
  exact ⟨s,hr,hready,(readiness_gates_traffic Shared.sample WSAPIParsers.sample 3 "A1"
    fun _ => True).2.1 s hr⟩

end RoqBinance.Gateway
