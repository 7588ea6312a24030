import RoqBinance.Gateway.OrderEntryPortfolio
import RoqBinance.Gateway.Readiness
import RoqBinance.Gateway.Renewal
import RoqBinance.Gateway.RestStream

/-! The REST streams on their connections: each is ready exactly when it says so, and sends
nothing but the requests of its initial download before. -/
namespace RoqBinance.Gateway
open Library Protocol.Json

/-- The result of a request, which could be read. -/
def RestResponse.succeeded : RestResponse → Bool
  | .result _ .success _ _ => true
  | _ => false

theorem succeeded_of_classify {α : Type} {decode : Body → Except String α} {response : RestResponse}
    {value : α} (h : classify decode response = .success value) : response.succeeded = true := by
  have hd := decoded_eq decode response
  rw [h] at hd
  cases response with
  | result status category retryAfter body => cases category <;> first | rfl | cases hd
  | omsException origin status error what => cases hd
  | networkError status error what => cases hd
  | exception what => cases hd

/-- A reply to a REST request; `retryNow` is whether the sequencer repeats a state at once. -/
structure RestReply where
  response : RestResponse
  retryNow : Bool

namespace RestStream

/-- The stream remembers no symbols that orders depend on. -/
def facet : Facet RestStream Call State where
  master _ := true
  ready := RestStream.ready
  status := RestStream.connectionStatus
  download := RestStream.download
  symbols _ := []
  last := .done
  initial call := call = .exchangeInfo

theorem closes_states : Download.Closes State.done states := ⟨[.exchangeInfo],by decide,rfl⟩

section
variable {ctx₀ ctx : Ctx}

theorem quiet_requestDepth (h : facet.Quiet ctx₀ ctx) (symbol : String) :
    facet.Quiet ctx₀ (requestDepth symbol ctx) := h.modify rfl (Facet.Grows.of_eq rfl)

theorem quiet_onTimer (refresh : Bool) (passed : ℕ) (ctx : Ctx) :
    facet.Quiet ctx (onTimer refresh passed ctx) := by
  unfold onTimer
  split_ifs with hready
  · have hs : facet.status ctx.self = .ready := of_decide_eq_true (Bool.and_eq_true_iff.mp hready).2
    have hqueue : facet.Quiet ctx (ctx.modify fun self =>
        {self with depthRequestQueue := self.depthRequestQueue.drop passed}) :=
      (Facet.Quiet.refl ctx).modify rfl (Facet.Grows.of_eq rfl)
    exact hqueue.foldl fun c hc symbol => hc.send (hc.status.trans hs) _
  · exact Facet.Quiet.refl ctx

theorem quiet_onInput (input : Input) (ctx : Ctx) : facet.Quiet ctx (onInput input ctx) := by
  cases input with
  | timer refresh passed => exact quiet_onTimer refresh passed ctx
  | requestDepth symbol => exact quiet_requestDepth (Facet.Quiet.refl ctx) symbol

variable (shared : Shared)

theorem limit_self (forbidden : Bool) (retryAfter : ℕ) (ctx : Ctx) :
    (limit shared forbidden retryAfter ctx).self = ctx.self := by
  unfold limit wafLimitViolation
  split_ifs <;> rfl

theorem quiet_limit (h : facet.Quiet ctx₀ ctx) (forbidden : Bool) (retryAfter : ℕ) :
    facet.Quiet ctx₀ (limit shared forbidden retryAfter ctx) := by
  have hwaf : facet.Quiet ctx₀ (if forbidden then wafLimitViolation shared ctx else ctx) := by
    split_ifs
    · exact h.wafLimitViolation shared
    · exact h
  by_cases hr : retryAfter ≠ 0
  · rw [limit,if_pos hr]
    exact hwaf.emit rfl rfl
  · rw [limit,if_neg hr]
    exact hwaf

theorem quiet_getDepthAck (symbol : String) (reply : Reply) (ctx : Ctx) :
    facet.Quiet ctx (getDepthAck shared symbol reply ctx) := by
  have hctx : facet.Quiet ctx ctx := Facet.Quiet.refl ctx
  refine processResponseWith_cases hctx (quiet_limit shared hctx) (fun _ _ _ _ ctx' h => h) ?_
    fun _ => hctx.fatal _
  intro depth _
  cases depth with
  | publish => exact hctx
  | request => exact quiet_requestDepth hctx symbol
  | exhausted => exact hctx.fatal _

/-- Whether the reference data is processed to its end or not. -/
theorem onExchangeInfoAck_cases (dispatcher : Rest.Dispatcher) (ack : ExchangeInfoAck) (ctx : Ctx) :
    ∃ ctx', facet.Quiet ctx ctx' ∧ (onExchangeInfoAck shared dispatcher ack ctx = .ok ctx' ∨
      onExchangeInfoAck shared dispatcher ack ctx = .error ctx') := by
  have hstore (result : Rest.Ctx) : facet.Quiet ctx (ctx.modify fun self =>
      {self with
        limits := result.limits, allSymbols := result.allSymbols,
        published := self.published ++ result.outputs}) :=
    (Facet.Quiet.refl ctx).modify rfl (Facet.Grows.of_eq rfl)
  unfold onExchangeInfoAck
  split
  · exact ⟨_,hstore _,.inl rfl⟩
  · exact ⟨_,hstore _,.inr rfl⟩

theorem finale (ctx₀ : Ctx) :
    Download.Finale downloadState .done (facet.Waits ctx₀) (facet.Enters ctx₀) where
  before x ctx hx h := by
    cases x with
    | exchangeInfo =>
      refine h.trans ⟨⟨h.unready.1,by simp [facet, downloadState, getExchangeInfo, onConnectionStatus]⟩,
        Facet.Grows.of_eq rfl,
        [.dispatch (.streamStatus ctx.self.streamId "" .downloading "EXCHANGE_INFO"),
          .send .exchangeInfo],?_,?_⟩
      · simp [downloadState, getExchangeInfo, onConnectionStatus]
      · simp [Output.announcesReady, facet]
    | done => exact absurd rfl hx
  last ctx h := by
    refine ⟨rfl,h.enters ⟨rfl,rfl,Facet.Grows.of_eq rfl,
      [.dispatch (.streamStatus ctx.self.streamId "" .ready "")],rfl,rfl,?_⟩⟩
    simp

theorem sequences : facet.Sequences sequencer :=
  ⟨fun _ _ => rfl,fun _ _ => rfl,fun _ _ => rfl⟩

/-- A failure has the stream ask for the reference data again. -/
theorem pending_retry {ctx : Ctx} (hd : Download.Pending .done ctx.self.download) (reply : Reply) :
    Download.Pending .done (retryExchangeInfo reply ctx).self.download := by
  unfold retryExchangeInfo
  cases hretry : reply.retryNow with
  | false => simpa [sequencer, Download.retry] using hd
  | true =>
    simp [sequencer, Download.retry, hd.downloading, states, Download.enter, downloadState,
      Download.Pending]
    exact ⟨[],by simp,rfl⟩

end

section
variable {self : RestStream} {request : Request} {up : Bool}

theorem orderly_onConnected (hs : facet.Settled self false) :
    Link.Orderly facet (fun _ => True) self true false (onConnected ⟨self,request,[]⟩) := by
  have hmoves : facet.Moves ⟨self,request,[]⟩ (onConnected ⟨self,request,[]⟩) :=
    sequences.connected finale closes_states hs
  exact .of_moves hs.unready.1 trivial hmoves fun _ => rfl

theorem orderly_onDisconnected (hs : facet.Settled self up) :
    Link.Orderly facet (fun _ => True) self false false (onDisconnected ⟨self,request,[]⟩) := by
  refine .of_drops hs trivial ⟨⟨rfl,?_⟩,Facet.Grows.of_eq rfl,rfl,
    [.dispatch (.streamStatus self.streamId "" .disconnected "")],rfl,?_⟩
  · simp [facet, onDisconnected, onConnectionStatus]
  · simp [Output.announcesReady, Output.sent]

variable (shared : Shared)

theorem orderly_retryExchangeInfo (hs : facet.Settled self up) {ctx : Ctx}
    (hq : facet.Quiet ⟨self,request,[]⟩ ctx) (reply : Reply) :
    Link.Orderly facet (fun _ => True) self up false (retryExchangeInfo reply ctx) := by
  rcases sequences.retry finale closes_states hs hq reply.retryNow (x := .exchangeInfo) (by decide)
    with ⟨hu,hd,hmoves⟩ | hidle
  · refine .of_moves hu trivial hmoves ?_
    intro hdone
    have hdone' : (retryExchangeInfo reply ctx).self.download = .done .done := hdone
    have hpending := pending_retry hd reply
    rw [hdone'] at hpending
    exact hpending.elim
  · exact .of_quiet hs trivial false hidle

/-- A reply with the reference data ends the wait unless it has no use or breaks off. -/
theorem orderly_getExchangeInfoAck (hs : facet.Settled self up) (reply : Reply)
    (hup : reply.response.succeeded = true → up = true) :
    Link.Orderly facet (fun _ => True) self up false
      (getExchangeInfoAck shared reply ⟨self,request,[]⟩) := by
  have hrefl : facet.Quiet ⟨self,request,[]⟩ (⟨self,request,[]⟩ : Ctx) := Facet.Quiet.refl _
  refine processResponseWith_cases hrefl (quiet_limit shared hrefl) ?_ ?_ ?_
  · intro _ _ _ _ ctx hq
    exact orderly_retryExchangeInfo hs hq reply
  · intro ack hack
    cases ack with
    | none => exact .of_quiet hs trivial false hrefl
    | some ack =>
      obtain ⟨ctx,hq,hok | herror⟩ :=
        onExchangeInfoAck_cases shared reply.dispatcher ack ⟨self,request,[]⟩
      · simp only [hok]
        rcases sequences.check finale hs hq .exchangeInfo with ⟨hu,hmoves⟩ | hidle
        · exact .of_moves hu trivial hmoves fun _ => hup (succeeded_of_classify hack)
        · exact .of_quiet hs trivial false hidle
      · simp only [herror]
        exact orderly_retryExchangeInfo hs hq reply
  · intro text
    exact .of_quiet hs trivial false (hrefl.fatal text)

end

/-- The handlers of the stream on its connection. -/
def handlers (shared : Shared) (drained : Bool) : Link.Handlers RestStream Call Reply Input where
  connected := onConnected
  disconnected := onDisconnected
  reply _ := onResponse shared
  input _ := onInput
  timed _ := false
  succeeds reply := reply.response.succeeded
  drained := drained

theorem steady (shared : Shared) (drained : Bool) :
    (handlers shared drained).Steady facet fun _ => True where
  connected _ _ hs _ := orderly_onConnected hs
  disconnected _ _ _ hs _ := orderly_onDisconnected hs
  reply _ call reply self request up hs _ hup := by
    cases call with
    | exchangeInfo => exact orderly_getExchangeInfoAck shared hs reply hup
    | depth symbol =>
      exact .of_quiet hs trivial false (quiet_getDepthAck shared symbol reply ⟨self,request,[]⟩)
  input _ input self request up hs _ :=
    .of_quiet hs trivial true (quiet_onInput input ⟨self,request,[]⟩)

theorem settled_create (streamId : ℕ) : facet.Settled (create streamId) false :=
  .inl ⟨⟨rfl,by simp [facet, create]⟩,.inl rfl⟩

end RestStream

namespace OrderEntryMargin

def facet : Facet OrderEntryMargin Call State where
  master _ := true
  ready := OrderEntryMargin.ready
  status := OrderEntryMargin.connectionStatus
  download := OrderEntryMargin.download
  symbols := OrderEntryMargin.openOrdersSymbols
  last := .done
  initial call := call = .listenKey .cross

theorem closes_states : Download.Closes State.done states := ⟨[.listenKey],by decide,rfl⟩

section
variable {ctx₀ ctx : Ctx}

theorem quiet_setDownload (h : facet.Quiet ctx₀ ctx) (k : Kind) (value : Bool) :
    facet.Quiet ctx₀ (ctx.modify (setDownload k value)) := by
  cases k <;> exact h.modify rfl (Facet.Grows.of_eq rfl)

theorem quiet_remember (h : facet.Quiet ctx₀ ctx) (symbol : String) :
    facet.Quiet ctx₀ (ctx.modify fun self =>
      {self with openOrdersSymbols := emplace self.openOrdersSymbols symbol}) :=
  h.modify rfl (Facet.Grows.emplace rfl)

theorem status_of_isReady (h : ctx.self.isReady = true) : facet.status ctx.self = .ready :=
  of_decide_eq_true h

variable (shared : Shared)

theorem quiet_get (h : facet.Quiet ctx₀ ctx) (hs : facet.status ctx.self = .ready) (k : Kind) :
    facet.Quiet ctx₀ (get shared k ctx) := by
  have htrades : ∀ marginMode, facet.Quiet ctx₀ (getTrades shared marginMode ctx) := by
    intro marginMode
    refine h.trans ((Facet.Quiet.refl ctx).foldl ?_)
    intro c hc symbol
    exact hc.send (hc.status.trans hs) _
  cases k with
  | account => exact h.fatal _
  | orders => exact h.fatal _
  | trades => exact htrades .undefined
  | listenKeyCross => exact h.send hs _
  | accountCross => exact h.send hs _
  | ordersCross => exact h.send hs _
  | tradesCross => exact htrades .cross

theorem quiet_onTimer (timerNow : ℕ) (refresh : Bool) (ctx : Ctx) :
    facet.Quiet ctx (onTimer shared timerNow refresh ctx) := by
  unfold onTimer
  split_ifs with hready
  · have hs : facet.status ctx.self = .ready := status_of_isReady (by simp_all)
    have hall : facet.Quiet ctx (kinds.foldl (start shared) ctx) := by
      refine (Facet.Quiet.refl ctx).foldl ?_
      intro c hc k
      unfold start
      split_ifs
      · exact quiet_setDownload (quiet_get shared hc (hc.status.trans hs) k) k true
      · exact hc
    unfold startAll pollBorrowed
    split_ifs
    · exact (hall.send (hall.status.trans hs) _).modify rfl (Facet.Grows.of_eq rfl)
    · exact hall
  · exact Facet.Quiet.refl ctx

theorem quiet_onRequest (request : ClientRequest) (ctx : Ctx) :
    facet.Quiet ctx (onRequest shared request ctx).1 := by
  have hctx : facet.Quiet ctx ctx := Facet.Quiet.refl ctx
  cases request with
  | createOrder info request body =>
    simp only [onRequest, newOrder]
    split_ifs with hready
    · exact hctx
    · have hs : facet.status ctx.self = .ready := status_of_isReady (by simpa using hready)
      have hsymbol := quiet_remember hctx request.symbol
      split
      · exact hsymbol
      · exact hsymbol.send (hsymbol.status.trans hs) _
  | modifyOrder info request => exact hctx
  | cancelOrder info request marginMode body =>
    simp only [onRequest, cancelOrder]
    split
    · exact hctx
    · next hready =>
      have hs : facet.status ctx.self = .ready := status_of_isReady (by simpa using hready)
      split
      · exact hctx
      · split
        · exact hctx
        · exact hctx.send hs _
  | cancelAllOrders request requestId =>
    simp only [onRequest, cancelAllOpenOrders]
    split_ifs with hready
    · exact hctx
    · have hs : facet.status ctx.self = .ready := status_of_isReady (by simpa using hready)
      refine hctx.foldl ?_
      intro c hc symbol
      split_ifs
      · exact hc
      · have hisolated := hc.send (hc.status.trans hs) (.cancelAllOpenOrders symbol .isolated requestId)
        have hcross := hisolated.send (hisolated.status.trans hs)
          (.cancelAllOpenOrders symbol .cross requestId)
        exact hcross.dispatch rfl

theorem quiet_processResponse {α : Type} {decode : Body → Except String α} {response : RestResponse}
    {errorHandler : Origin → RequestStatus → Error → String → Ctx → Ctx}
    {successHandler : α → Ctx → Ctx} (h : facet.Quiet ctx₀ ctx)
    (herror : ∀ origin status error text ctx', facet.Quiet ctx₀ ctx' →
      facet.Quiet ctx₀ (errorHandler origin status error text ctx'))
    (hsuccess : ∀ value, facet.Quiet ctx₀ (successHandler value ctx)) :
    facet.Quiet ctx₀ (processResponse shared decode response errorHandler successHandler ctx) := by
  refine processResponseWith_cases h ?_ herror (fun value _ => hsuccess value) fun _ => h.fatal _
  intro forbidden retryAfter
  unfold limit
  split_ifs
  · exact h.wafLimitViolation shared
  · exact h

variable (t : TraceInfo)

theorem quiet_completion (h : facet.Quiet ctx₀ ctx) (k : Kind) :
    facet.Quiet ctx₀ (completion k t ctx) := quiet_setDownload (h.reply k _) k false

theorem quiet_completeOrders (h : facet.Quiet ctx₀ ctx) (marginMode : MarginMode) :
    facet.Quiet ctx₀ (completeOrders t marginMode ctx) := by
  cases marginMode with
  | undefined => exact quiet_completion t h .orders
  | isolated => exact h.fatal _
  | cross => exact quiet_completion t h .ordersCross
  | portfolio => exact h.fatal _

theorem quiet_completeTrades (h : facet.Quiet ctx₀ ctx) (marginMode : MarginMode) :
    facet.Quiet ctx₀ (completeTrades t marginMode ctx) := by
  cases marginMode with
  | undefined => exact quiet_completion t h .trades
  | isolated => exact h.fatal _
  | cross => exact quiet_completion t h .tradesCross
  | portfolio => exact h.fatal _

theorem quiet_completionOnTimer (h : facet.Quiet ctx₀ ctx) :
    facet.Quiet ctx₀ (completionOnTimer t ctx) :=
  (h.reply .accountCross t.originCreateTime).modify rfl (Facet.Grows.of_eq rfl)

theorem quiet_onOpenOrdersAck (ack : OpenOrdersAck) (marginMode : MarginMode) (ctx : Ctx) :
    facet.Quiet ctx (onOpenOrdersAck shared ack marginMode ctx) := by
  refine (Facet.Quiet.refl ctx).foldl ?_
  intro c hc order
  unfold onOpenOrder
  split_ifs
  · exact hc
  · exact (quiet_remember hc order.symbol).dispatch rfl

/-- The callbacks other than that of a listen key. -/
theorem quiet_onResponse {call : Call} (hcall : ∀ marginMode, call ≠ .listenKey marginMode)
    (response : RestResponse) (retryNow : Bool) (ctx : Ctx) :
    facet.Quiet ctx (onResponse shared t call response retryNow ctx) := by
  have hctx : facet.Quiet ctx ctx := Facet.Quiet.refl ctx
  cases call with
  | listenKey marginMode => exact absurd rfl (hcall marginMode)
  | account marginMode =>
    rw [onResponse]
    cases marginMode with
    | undefined =>
      refine quiet_processResponse shared hctx ?_ ?_
      · intro _ _ _ _ ctx' h; exact quiet_completion t h .account
      · intro ack
        exact quiet_completion t (hctx.dispatchMap _ _ fun _ => rfl) .account
    | isolated =>
      exact quiet_processResponse shared hctx (fun _ _ _ _ ctx' h => h.fatal _) fun _ => hctx.fatal _
    | cross =>
      refine quiet_processResponse shared hctx ?_ ?_
      · intro _ _ _ _ ctx' h; exact quiet_completion t h .accountCross
      · intro account
        exact quiet_completion t (hctx.dispatchMap _ _ fun _ => rfl) .accountCross
    | portfolio =>
      exact quiet_processResponse shared hctx (fun _ _ _ _ ctx' h => h.fatal _) fun _ => hctx.fatal _
  | openOrders marginMode =>
    rw [onResponse,getOpenOrdersAck]
    refine quiet_processResponse shared hctx ?_ ?_
    · intro _ _ _ _ ctx' h; exact quiet_completeOrders t h marginMode
    · intro ack
      exact quiet_completeOrders t (quiet_onOpenOrdersAck shared ack marginMode ctx) marginMode
  | trades marginMode symbol lookback limit =>
    rw [onResponse,getTradesAck]
    refine quiet_processResponse shared hctx ?_ ?_
    · intro _ _ _ _ ctx' h; exact quiet_completeTrades t h marginMode
    · intro ack
      have h := quiet_completeTrades t hctx marginMode
      cases marginMode <;> exact h.modify rfl (Facet.Grows.of_eq rfl)
  | accountCrossOnTimer =>
    rw [onResponse,getAccountCrossOnTimerAck]
    refine quiet_processResponse shared hctx ?_ ?_
    · intro _ _ _ _ ctx' h; exact quiet_completionOnTimer t h
    · intro account
      exact quiet_completionOnTimer t (hctx.dispatchMap _ _ fun _ => rfl)
  | newOrder body userId orderId =>
    rw [onResponse,newOrderAck]
    refine quiet_processResponse shared hctx ?_ ?_
    · intro _ _ _ _ ctx' h; exact h.dispatch rfl
    · intro ack; exact hctx.dispatch rfl
  | cancelOrder body userId orderId version =>
    rw [onResponse,cancelOrderAck]
    refine quiet_processResponse shared hctx ?_ ?_
    · intro _ _ _ _ ctx' h; exact h.dispatch rfl
    · intro ack; exact hctx.dispatch rfl
  | cancelAllOpenOrders symbol marginMode requestId =>
    rw [onResponse,cancelAllOpenOrdersAck]
    refine quiet_processResponse shared hctx ?_ ?_
    · intro _ _ _ _ ctx' h; exact h.dispatch rfl
    · intro ack
      exact (hctx.dispatchMap _ _ fun _ => rfl).dispatch rfl

theorem finale (ctx₀ : Ctx) :
    Download.Finale downloadState .done (facet.Waits ctx₀) (facet.Enters ctx₀) where
  before x ctx hx h := by
    cases x with
    | listenKey =>
      rw [downloadState]
      split_ifs
      · exact h
      · refine h.trans ⟨⟨h.unready.1,by simp [facet, getListenKey, onConnectionStatus]⟩,
          Facet.Grows.of_eq rfl,
          [.dispatch (.streamStatus ctx.self.streamId ctx.self.account .downloading "LISTEN_KEY"),
            .send (.listenKey .cross)],?_,?_⟩
        · simp [getListenKey, onConnectionStatus]
        · simp [Output.announcesReady, facet]
    | done => exact absurd rfl hx
  last ctx h := by
    refine ⟨rfl,h.enters ⟨rfl,rfl,Facet.Grows.of_eq rfl,
      [.dispatch (.streamStatus ctx.self.streamId ctx.self.account .ready "")],rfl,rfl,?_⟩⟩
    simp

theorem sequences : facet.Sequences sequencer :=
  ⟨fun _ _ => rfl,fun _ _ => rfl,fun _ _ => rfl⟩

theorem moves_completion {ctx₀ ctx : Ctx} (h : facet.Moves ctx₀ ctx) (k : Kind) :
    facet.Moves ctx₀ (completion k t ctx) := by
  rcases h with ⟨hw,hd⟩ | ⟨he,hd⟩
  · refine .inl ⟨⟨?_,?_,hw.outputs⟩,?_⟩
    · cases k <;> exact hw.unready
    · cases k <;> exact ⟨hw.grows.subset,hw.grows.nodup⟩
    · cases k <;> exact hd
  · refine .inr ⟨⟨?_,?_,?_,he.outputs⟩,?_⟩
    · cases k <;> exact he.ready
    · cases k <;> exact he.status
    · cases k <;> exact ⟨he.grows.subset,he.grows.nodup⟩
    · cases k <;> exact hd

/-- A failure has the stream ask for a listen key again, while there has been none. -/
theorem pending_retry {ctx : Ctx} (hd : Download.Pending .done ctx.self.download)
    (hkey : ctx.self.hasListenKeyCross = false) (retryNow : Bool) :
    Download.Pending .done
      (sequencer (Download.retry downloadState states retryNow .listenKey) ctx).self.download := by
  cases retryNow with
  | false => simpa [sequencer, Download.retry] using hd
  | true =>
    simp [sequencer, Download.retry, hd.downloading, states, Download.enter,
      downloadState, hkey, Download.Pending]
    exact ⟨[],by simp,rfl⟩

end

section
variable {self : OrderEntryMargin} {request : Request} {up : Bool}

theorem orderly_onConnected (hs : facet.Settled self false) (hl : Loading self) :
    Link.Orderly facet Loading self true false (onConnected ⟨self,request,[]⟩) := by
  have hmoves : facet.Moves ⟨self,request,[]⟩ (onConnected ⟨self,request,[]⟩) :=
    sequences.connected finale closes_states hs
  exact .of_moves hs.unready.1 (loading_onConnected hl) hmoves fun _ => rfl

theorem orderly_onDisconnected (hs : facet.Settled self up) (hl : Loading self) :
    Link.Orderly facet Loading self false false (onDisconnected ⟨self,request,[]⟩) := by
  refine .of_drops hs (loading_onDisconnected hl) ⟨⟨rfl,?_⟩,Facet.Grows.of_eq rfl,rfl,
    [.dispatch (.streamStatus self.streamId self.account .disconnected "")],rfl,?_⟩
  · simp [facet, onDisconnected, onConnectionStatus]
  · simp [Output.announcesReady, Output.sent]

variable (shared : Shared) (t : TraceInfo)

/-- A reply to a listen key ends the wait, asks again, or changes nothing. -/
theorem orderly_getListenKeyAck (hs : facet.Settled self up) (hl : Loading self)
    (marginMode : MarginMode) (reply : RestReply)
    (hup : reply.response.succeeded = true → up = true) :
    Link.Orderly facet Loading self up false
      (getListenKeyAck shared t marginMode reply.response reply.retryNow ⟨self,request,[]⟩) := by
  have hrefl : facet.Quiet ⟨self,request,[]⟩ (⟨self,request,[]⟩ : Ctx) := Facet.Quiet.refl _
  simp only [getListenKeyAck, processResponse]
  refine processResponseWith_cases (P := Link.Orderly facet Loading self up false)
    (I := fun ctx : Ctx => facet.Quiet ⟨self,request,[]⟩ ctx ∧ ctx.self = self) ⟨hrefl,rfl⟩ ?_ ?_ ?_ ?_
  · intro forbidden retryAfter
    unfold limit
    split_ifs
    · refine ⟨hrefl.wafLimitViolation shared,?_⟩
      unfold wafLimitViolation
      split_ifs <;> rfl
    · exact ⟨hrefl,rfl⟩
  · rintro _ _ _ _ ctx ⟨hq,rfl⟩
    have hload : Loading (completion .listenKeyCross t
        (sequencer (Download.retry downloadState states reply.retryNow .listenKey) ctx)).self :=
      (listenKey_failure reply.retryNow ctx hl).1
    rcases sequences.retry finale closes_states hs hq reply.retryNow (x := .listenKey) (by decide)
      with ⟨hu,hd,hmoves⟩ | hidle
    · have hkey := (hl hd.downloading).2
      refine .of_moves hu hload (moves_completion t hmoves .listenKeyCross) ?_
      intro hdone
      have hdone' : (sequencer (Download.retry downloadState states reply.retryNow .listenKey)
          ctx).self.download = .done .done := hdone
      have hpending := pending_retry hd hkey reply.retryNow
      rw [hdone'] at hpending
      exact hpending.elim
    · exact .of_quiet hs hload false (quiet_completion t hidle .listenKeyCross)
  · intro ack hack
    cases marginMode with
    | undefined =>
      exact .of_fatal (by simp [onListenKeyAckMargin, getListenKey, Output.isFatal])
        (by simp [onListenKeyAckMargin, getListenKey, Output.announcesReady, facet])
    | isolated =>
      exact .of_fatal (by simp [onListenKeyAckMargin, getListenKey, Output.isFatal])
        (by simp [onListenKeyAckMargin, getListenKey, Output.announcesReady, facet])
    | portfolio =>
      exact .of_fatal (by simp [onListenKeyAckMargin, Output.isFatal])
        (by simp [onListenKeyAckMargin, Output.announcesReady])
    | cross =>
      have hload : Loading (completion .listenKeyCross t (sequencer
          (Download.check downloadState .listenKey)
            (onListenKeyAckMargin ack .cross ⟨self,request,[]⟩))).self :=
        (listenKey_success ack ⟨self,request,[]⟩ hl rfl).1
      have hkey : facet.Quiet ⟨self,request,[]⟩
          ((⟨self,request,[]⟩ : Ctx).emit (.listenKeyUpdate ⟨self.account,.cross,ack.token⟩)) :=
        hrefl.emit rfl rfl
      have hq : facet.Quiet ⟨self,request,[]⟩ (onListenKeyAckMargin ack .cross ⟨self,request,[]⟩) :=
        ⟨rfl,Facet.Grows.of_eq rfl,hkey.outputs⟩
      rcases sequences.check finale hs hq .listenKey with ⟨hu,hmoves⟩ | hidle
      · exact .of_moves hu hload (moves_completion t hmoves .listenKeyCross) fun _ =>
          hup (succeeded_of_classify hack)
      · exact .of_quiet hs hload false (quiet_completion t hidle .listenKeyCross)
  · intro text
    exact .of_quiet hs hl false (hrefl.fatal text)

theorem orderly_onResponse (hs : facet.Settled self up) (hl : Loading self) (call : Call)
    (reply : RestReply) (hup : reply.response.succeeded = true → up = true) :
    Link.Orderly facet Loading self up false
      (onResponse shared t call reply.response reply.retryNow ⟨self,request,[]⟩) := by
  by_cases hcall : ∃ marginMode, call = .listenKey marginMode
  · obtain ⟨marginMode,rfl⟩ := hcall
    exact orderly_getListenKeyAck shared t hs hl marginMode reply hup
  · have hcall' : ∀ marginMode, call ≠ .listenKey marginMode := fun m hm => hcall ⟨m,hm⟩
    have hview := (answers_onResponse_view (t := t) shared hcall' reply.response reply.retryNow
      ⟨self,request,[]⟩).view
    exact .of_quiet hs (loading_of_view hview hl) false
      (quiet_onResponse shared t hcall' reply.response reply.retryNow ⟨self,request,[]⟩)

end

/-- The handlers of the stream on its connection; `asks` are the downloads that it is asked for. -/
def handlers (shared : Shared) (asks : Kind → Prop) (drained : Bool) :
    Link.Handlers OrderEntryMargin Call RestReply (Link.Input ClientRequest asks) where
  connected := onConnected
  disconnected := onDisconnected
  reply t call reply := onResponse shared t call reply.response reply.retryNow
  input t input ctx :=
    match input with
    | .timer timerNow refresh => onTimer shared timerNow refresh ctx
    | .client request => (onRequest shared request ctx).1
    | .post k _ => ctx.post k t.originCreateTime
  timed := Link.Input.isTimer
  succeeds reply := reply.response.succeeded
  drained := drained

theorem steady (shared : Shared) (asks : Kind → Prop) (drained : Bool) :
    (handlers shared asks drained).Steady facet Loading where
  connected _ _ hs hl := orderly_onConnected hs hl
  disconnected _ _ _ hs hl := orderly_onDisconnected hs hl
  reply t call reply _ _ _ hs hl hup := orderly_onResponse shared t hs hl call reply hup
  input t input self request up hs hl := by
    cases input with
    | timer timerNow refresh =>
      have hview := (keeps_onTimer shared timerNow refresh ⟨self,request,[]⟩).view
      exact .of_quiet hs (loading_of_view hview hl) true (quiet_onTimer shared timerNow refresh _)
    | client clientRequest =>
      have hview := (keeps_onRequest shared clientRequest ⟨self,request,[]⟩).view
      exact .of_quiet hs (loading_of_view hview hl) true (quiet_onRequest shared clientRequest _)
    | post k hk =>
      have hq : facet.Quiet ⟨self,request,[]⟩ ((⟨self,request,[]⟩ : Ctx).post k t.originCreateTime) :=
        ⟨rfl,Facet.Grows.of_eq rfl,[],rfl,fun _ ho => by cases ho⟩
      exact .of_quiet hs hl true hq

theorem settled_create (streamId : ℕ) (account : String) :
    facet.Settled (create streamId account) false :=
  .inl ⟨⟨rfl,by simp [facet, create]⟩,.inl rfl⟩

theorem loading_create (streamId : ℕ) (account : String) : Loading (create streamId account) := by
  intro hd
  cases hd

end OrderEntryMargin

namespace OrderEntryPortfolio

def facet : Facet OrderEntryPortfolio Call State where
  master := OrderEntryPortfolio.master
  ready := OrderEntryPortfolio.ready
  status := OrderEntryPortfolio.connectionStatus
  download := OrderEntryPortfolio.download
  symbols := OrderEntryPortfolio.openOrdersSymbols
  last := .done
  initial call := call = .listenKey

theorem closes_states : Download.Closes State.done states := ⟨[.listenKey],by decide,rfl⟩

/-- The stream has an initial download. -/
def Master (self : OrderEntryPortfolio) : Prop := self.master = true

section
variable {ctx₀ ctx : Ctx}

theorem quiet_setDownload (h : facet.Quiet ctx₀ ctx) (k : Kind) (value : Bool) :
    facet.Quiet ctx₀ (ctx.modify (setDownload k value)) := by
  cases k <;> exact h.modify rfl (Facet.Grows.of_eq rfl)

theorem quiet_remember (h : facet.Quiet ctx₀ ctx) (symbol : String) :
    facet.Quiet ctx₀ (ctx.modify fun self =>
      {self with openOrdersSymbols := emplace self.openOrdersSymbols symbol}) :=
  h.modify rfl (Facet.Grows.emplace rfl)

theorem status_of_isReady (h : ctx.self.isReady = true) : facet.status ctx.self = .ready :=
  of_decide_eq_true h

variable (shared : Shared) (t : TraceInfo)

theorem quiet_get (h : facet.Quiet ctx₀ ctx) (hs : facet.status ctx.self = .ready) (k : Kind) :
    facet.Quiet ctx₀ (get shared k ctx) := by
  cases k with
  | account => exact h.send hs _
  | orders => exact h.send hs _
  | trades =>
    refine h.trans ((Facet.Quiet.refl ctx).foldl ?_)
    intro c hc symbol
    exact hc.send (hc.status.trans hs) _
  | _ => exact h

theorem quiet_refreshListenKey (ctx : Ctx)
    (hready : ctx.self.ready = true → facet.status ctx.self = .ready) :
    facet.Quiet ctx (refreshListenKey shared t ctx) := by
  unfold refreshListenKey
  split_ifs with hr
  · exact Facet.Quiet.refl ctx
  · exact Facet.Quiet.refl ctx
  · have hmodify : facet.Quiet ctx (ctx.modify fun self =>
        {self with listenKeyRefresh := t.originCreateTime+shared.settings.listenKeyRefresh}) :=
      (Facet.Quiet.refl ctx).modify rfl (Facet.Grows.of_eq rfl)
    exact hmodify.send (hready (by simpa using hr)) _

theorem quiet_onTimer (refresh : Bool) (ctx : Ctx)
    (hready : ctx.self.ready = true → facet.status ctx.self = .ready) :
    facet.Quiet ctx (onTimer shared t refresh ctx) := by
  have hkey := quiet_refreshListenKey shared t ctx hready
  simp only [onTimer]
  split_ifs with hrefresh hr
  · have hs : facet.status (refreshListenKey shared t ctx).self = .ready :=
      status_of_isReady (by simp_all)
    refine hkey.trans ((Facet.Quiet.refl _).foldl ?_)
    intro c hc k
    unfold start
    split_ifs
    · exact quiet_setDownload (quiet_get shared hc (hc.status.trans hs) k) k true
    · exact hc
  · exact hkey
  · exact Facet.Quiet.refl ctx

theorem quiet_onRequest (request : ClientRequest) (ctx : Ctx) :
    facet.Quiet ctx (onRequest shared request ctx).1 := by
  have hctx : facet.Quiet ctx ctx := Facet.Quiet.refl ctx
  cases request with
  | createOrder info request body =>
    simp only [onRequest, newOrder]
    split_ifs with hready
    · exact hctx
    · have hs : facet.status ctx.self = .ready := status_of_isReady (by simpa using hready)
      have hsymbol := quiet_remember hctx request.symbol
      split
      · exact hsymbol
      · exact hsymbol.send (hsymbol.status.trans hs) _
  | modifyOrder info request => exact hctx
  | cancelOrder info request body =>
    simp only [onRequest, cancelOrder]
    split_ifs with hready
    · exact hctx
    · have hs : facet.status ctx.self = .ready := status_of_isReady (by simpa using hready)
      split
      · exact hctx
      · exact hctx.send hs _
  | cancelAllOrders request requestId =>
    simp only [onRequest, cancelAllOpenOrders]
    split_ifs with hready
    · exact hctx
    · have hs : facet.status ctx.self = .ready := status_of_isReady (by simpa using hready)
      refine hctx.foldl ?_
      intro c hc symbol
      split_ifs
      · exact hc
      · exact (hc.send (hc.status.trans hs) (.cancelAllOpenOrders symbol requestId)).dispatch rfl

theorem quiet_limit (h : facet.Quiet ctx₀ ctx) (forbidden : Bool) (retryAfter : ℕ) :
    facet.Quiet ctx₀ (limit shared forbidden retryAfter ctx) := by
  have hwaf : facet.Quiet ctx₀ (if forbidden then wafLimitViolation shared ctx else ctx) := by
    split_ifs
    · exact h.wafLimitViolation shared
    · exact h
  unfold limit suspendFor
  split_ifs at hwaf ⊢
  · exact hwaf.emit rfl rfl
  · exact hwaf.emit rfl rfl
  · exact hwaf
  · exact hwaf

theorem quiet_processResponse {α : Type} {decode : Body → Except String α} {response : RestResponse}
    {errorHandler : Origin → RequestStatus → Error → String → Ctx → Ctx}
    {successHandler : α → Ctx → Ctx} (h : facet.Quiet ctx₀ ctx)
    (herror : ∀ origin status error text ctx', facet.Quiet ctx₀ ctx' →
      facet.Quiet ctx₀ (errorHandler origin status error text ctx'))
    (hsuccess : ∀ value, facet.Quiet ctx₀ (successHandler value ctx)) :
    facet.Quiet ctx₀ (processResponse shared decode response errorHandler successHandler ctx) :=
  processResponseWith_cases h (quiet_limit shared h) herror (fun value _ => hsuccess value)
    fun _ => h.fatal _

theorem quiet_completion (h : facet.Quiet ctx₀ ctx) (k : Kind) :
    facet.Quiet ctx₀ (completion k t ctx) := quiet_setDownload (h.reply k _) k false

theorem quiet_onOpenOrdersAck (ack : OpenOrdersAck) (ctx : Ctx) :
    facet.Quiet ctx (onOpenOrdersAck shared ack ctx) := by
  refine (Facet.Quiet.refl ctx).foldl ?_
  intro c hc order
  unfold onOpenOrder
  split_ifs
  · exact hc
  · exact (quiet_remember hc order.symbol).dispatch rfl

/-- The callbacks other than that of a listen key. -/
theorem quiet_onResponse {call : Call} (hcall : call ≠ .listenKey) (response : RestResponse)
    (retryNow : Bool) (ctx : Ctx) :
    facet.Quiet ctx (onResponse shared t call response retryNow ctx) := by
  have hctx : facet.Quiet ctx ctx := Facet.Quiet.refl ctx
  cases call with
  | listenKey => exact absurd rfl hcall
  | account =>
    rw [onResponse,getAccountAck]
    refine quiet_processResponse shared hctx ?_ ?_
    · intro _ _ _ _ ctx' h; exact quiet_completion t h .account
    · intro ack; exact quiet_completion t (hctx.dispatchMap _ _ fun _ => rfl) .account
  | openOrders =>
    rw [onResponse,getOpenOrdersAck]
    refine quiet_processResponse shared hctx ?_ ?_
    · intro _ _ _ _ ctx' h; exact quiet_completion t h .orders
    · intro ack; exact quiet_completion t (quiet_onOpenOrdersAck shared ack ctx) .orders
  | trades symbol lookback limit =>
    rw [onResponse,getTradesAck]
    refine quiet_processResponse shared hctx ?_ ?_
    · intro _ _ _ _ ctx' h; exact quiet_completion t h .trades
    · intro ack
      have h := quiet_completion t (hctx.dispatchMap (tradeUpdate shared ctx.self) ack.data
        fun _ => rfl) .trades
      exact h.modify rfl (Facet.Grows.of_eq rfl)
  | newOrder body userId orderId =>
    rw [onResponse,newOrderAck]
    refine quiet_processResponse shared hctx ?_ ?_
    · intro _ _ _ _ ctx' h; exact h.dispatch rfl
    · intro ack; exact hctx.dispatch rfl
  | cancelOrder body userId orderId version =>
    rw [onResponse,cancelOrderAck]
    refine quiet_processResponse shared hctx ?_ ?_
    · intro _ _ _ _ ctx' h; exact h.dispatch rfl
    · intro ack; exact hctx.dispatch rfl
  | cancelAllOpenOrders symbol requestId =>
    rw [onResponse,cancelAllOpenOrdersAck]
    refine quiet_processResponse shared hctx ?_ ?_
    · intro _ _ _ _ ctx' h; exact h.dispatch rfl
    · intro ack; exact (hctx.dispatchMap _ _ fun _ => rfl).dispatch rfl

theorem finale (ctx₀ : Ctx) :
    Download.Finale downloadState .done (facet.Waits ctx₀) (facet.Enters ctx₀) where
  before x ctx hx h := by
    cases x with
    | listenKey =>
      rw [downloadState]
      split_ifs
      · refine h.trans ⟨⟨h.unready.1,by simp [facet, getListenKey, onConnectionStatus]⟩,
          Facet.Grows.of_eq rfl,
          [.dispatch (.streamStatus ctx.self.streamId ctx.self.account .downloading "LISTEN_KEY"),
            .send .listenKey],?_,?_⟩
        · simp [getListenKey, onConnectionStatus]
        · simp [Output.announcesReady, facet]
      · exact h
    | done => exact absurd rfl hx
  last ctx h := by
    refine ⟨rfl,h.enters ⟨rfl,rfl,Facet.Grows.of_eq rfl,
      [.dispatch (.streamStatus ctx.self.streamId ctx.self.account .ready "")],rfl,rfl,?_⟩⟩
    simp

theorem master_downloadState :
    Download.Kept downloadState fun ctx => Master ctx.self := by
  intro state ctx h
  cases state with
  | listenKey =>
    rw [downloadState]
    split_ifs
    · exact h
    · exact h
  | done => exact h

theorem sequences : facet.Sequences sequencer :=
  ⟨fun _ _ => rfl,fun _ _ => rfl,fun _ _ => rfl⟩

/-- A failure has a master ask for the listen key again. -/
theorem pending_retry {ctx : Ctx} (hd : Download.Pending .done ctx.self.download)
    (hm : Master ctx.self) (retryNow : Bool) :
    Download.Pending .done
      (sequencer (Download.retry downloadState states retryNow .listenKey) ctx).self.download := by
  have hm' : ctx.self.master = true := hm
  cases retryNow with
  | false => simpa [sequencer, Download.retry] using hd
  | true =>
    simp [sequencer, Download.retry, hd.downloading, states, Download.enter, downloadState, hm',
      Download.Pending]
    exact ⟨[],by simp,rfl⟩

theorem quiet_onListenKeyAck (ack : ListenKeyAck) (ctx : Ctx) :
    facet.Quiet ctx (onListenKeyAck shared t ack ctx) := by
  simp only [onListenKeyAck]
  have hkey : facet.Quiet ctx (ctx.modify fun self => {self with listenKey := ack.listenKey}) :=
    (Facet.Quiet.refl ctx).modify rfl (Facet.Grows.of_eq rfl)
  split_ifs
  · have hupdate := hkey.emit (o := .listenKeyUpdate ⟨ctx.self.account,.portfolio,ack.listenKey⟩)
      rfl rfl
    exact hupdate.modify rfl (Facet.Grows.of_eq rfl)
  · exact hkey.modify rfl (Facet.Grows.of_eq rfl)

end

section
variable {self : OrderEntryPortfolio} {request : Request} {up : Bool}

theorem orderly_onConnected (hs : facet.Settled self false) (hm : Master self) :
    Link.Orderly facet Master self true false (onConnected ⟨self,request,[]⟩) := by
  have hmoves : facet.Moves ⟨self,request,[]⟩ (onConnected ⟨self,request,[]⟩) :=
    sequences.connected finale closes_states hs
  have hmaster : Master (onConnected ⟨self,request,[]⟩).self := by
    unfold onConnected
    split_ifs
    · exact master_downloadState.bump (s := (⟨self,request,[]⟩ : Ctx)) hm
    · exact master_downloadState.begin states (s := (⟨self,request,[]⟩ : Ctx)) hm
  exact .of_moves hs.unready.1 hmaster hmoves fun _ => rfl

theorem orderly_onDisconnected (hs : facet.Settled self up) (hm : Master self) :
    Link.Orderly facet Master self false false (onDisconnected ⟨self,request,[]⟩) := by
  have hmaster : Master (onDisconnected ⟨self,request,[]⟩).self := hm
  refine .of_drops hs hmaster ⟨⟨rfl,?_⟩,Facet.Grows.of_eq rfl,rfl,
    [.dispatch (.streamStatus self.streamId self.account .disconnected "")],rfl,?_⟩
  · simp [facet, onDisconnected, onConnectionStatus]
  · simp [Output.announcesReady, Output.sent]

variable (shared : Shared) (t : TraceInfo)

/-- A reply to a listen key ends the wait, asks again, or changes nothing. -/
theorem orderly_getListenKeyAck (hs : facet.Settled self up) (hm : Master self) (reply : RestReply)
    (hup : reply.response.succeeded = true → up = true) :
    Link.Orderly facet Master self up false
      (getListenKeyAck shared t reply.response reply.retryNow ⟨self,request,[]⟩) := by
  have hrefl : facet.Quiet ⟨self,request,[]⟩ (⟨self,request,[]⟩ : Ctx) := Facet.Quiet.refl _
  simp only [getListenKeyAck, processResponse]
  refine processResponseWith_cases (P := Link.Orderly facet Master self up false)
    (I := fun ctx : Ctx => facet.Quiet ⟨self,request,[]⟩ ctx ∧ ctx.self = self) ⟨hrefl,rfl⟩ ?_ ?_ ?_ ?_
  · intro forbidden retryAfter
    exact ⟨quiet_limit shared hrefl forbidden retryAfter,limit_self shared forbidden retryAfter _⟩
  · rintro _ _ _ _ ctx ⟨hq,rfl⟩
    have hmaster : Master (sequencer (Download.retry downloadState states reply.retryNow .listenKey)
        ctx).self := master_downloadState.retry states reply.retryNow .listenKey hm
    rcases sequences.retry finale closes_states hs hq reply.retryNow (x := .listenKey) (by decide)
      with ⟨hu,hd,hmoves⟩ | hidle
    · refine .of_moves hu hmaster hmoves ?_
      intro hdone
      have hdone' : (sequencer (Download.retry downloadState states reply.retryNow .listenKey)
          ctx).self.download = .done .done := hdone
      have hpending := pending_retry hd hm reply.retryNow
      rw [hdone'] at hpending
      exact hpending.elim
    · exact .of_quiet hs hmaster false hidle
  · intro ack hack
    have hq := quiet_onListenKeyAck shared t ack ⟨self,request,[]⟩
    have hm' : Master (onListenKeyAck shared t ack ⟨self,request,[]⟩).self := hq.master.trans hm
    have hmaster : Master (sequencer (Download.check downloadState .listenKey)
        (onListenKeyAck shared t ack ⟨self,request,[]⟩)).self :=
      master_downloadState.check .listenKey hm'
    rcases sequences.check finale hs hq .listenKey with ⟨hu,hmoves⟩ | hidle
    · exact .of_moves hu hmaster hmoves fun _ => hup (succeeded_of_classify hack)
    · exact .of_quiet hs hmaster false hidle
  · intro text
    exact .of_quiet hs hm false (hrefl.fatal text)

theorem orderly_onResponse (hs : facet.Settled self up) (hm : Master self) (call : Call)
    (reply : RestReply) (hup : reply.response.succeeded = true → up = true) :
    Link.Orderly facet Master self up false
      (onResponse shared t call reply.response reply.retryNow ⟨self,request,[]⟩) := by
  by_cases hcall : call = .listenKey
  · subst hcall
    exact orderly_getListenKeyAck shared t hs hm reply hup
  · have hq := quiet_onResponse shared t hcall reply.response reply.retryNow ⟨self,request,[]⟩
    exact .of_quiet hs (hq.master.trans hm) false hq

end

/-- The handlers of the stream on its connection; `asks` are the downloads that it is asked for. -/
def handlers (shared : Shared) (asks : Kind → Prop) (drained : Bool) :
    Link.Handlers OrderEntryPortfolio Call RestReply (Link.Input ClientRequest asks) where
  connected := onConnected
  disconnected := onDisconnected
  reply t call reply := onResponse shared t call reply.response reply.retryNow
  input t input ctx :=
    match input with
    | .timer _ refresh => onTimer shared t refresh ctx
    | .client request => (onRequest shared request ctx).1
    | .post k _ => ctx.post k t.originCreateTime
  timed := Link.Input.isTimer
  succeeds reply := reply.response.succeeded
  drained := drained

theorem steady (shared : Shared) (asks : Kind → Prop) (drained : Bool) :
    (handlers shared asks drained).Steady facet Master where
  connected _ _ hs hm := orderly_onConnected hs hm
  disconnected _ _ _ hs hm := orderly_onDisconnected hs hm
  reply t call reply _ _ _ hs hm hup := orderly_onResponse shared t hs hm call reply hup
  input t input self request up hs hm := by
    cases input with
    | timer timerNow refresh =>
      have hq := quiet_onTimer shared t refresh ⟨self,request,[]⟩ hs.ready_iff.mp
      exact .of_quiet hs (hq.master.trans hm) true hq
    | client clientRequest =>
      have hq := quiet_onRequest shared clientRequest ⟨self,request,[]⟩
      exact .of_quiet hs (hq.master.trans hm) true hq
    | post k hk =>
      have hq : facet.Quiet ⟨self,request,[]⟩ ((⟨self,request,[]⟩ : Ctx).post k t.originCreateTime) :=
        ⟨rfl,Facet.Grows.of_eq rfl,[],rfl,fun _ ho => by cases ho⟩
      exact .of_quiet hs hm true hq

theorem settled_create (streamId : ℕ) (account : String) :
    facet.Settled (create streamId account) false :=
  .inl ⟨⟨rfl,by simp [facet, create]⟩,.inl rfl⟩

end OrderEntryPortfolio
end RoqBinance.Gateway
