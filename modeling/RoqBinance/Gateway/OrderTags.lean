import RoqBinance.Gateway.DropCopyMargin
import RoqBinance.Gateway.DropCopyPortfolio
import RoqBinance.Gateway.OrderEntryMargin
import RoqBinance.Gateway.OrderEntryPortfolio
import RoqBinance.Gateway.Policy
import RoqBinance.Gateway.WebSocket

/-! Which account and which margin mode the streams put on the orders that they report. -/
namespace RoqBinance.Gateway
open Library Protocol.Json

namespace WebSocket

/-- The orders of the spot wallet have no margin mode. -/
def policy (mode : MarginMode → Prop) : Policy WebSocket Frame where
  account self := self.account
  call _ := True
  key _ := False
  mode := mode

variable {mode : MarginMode → Prop} {account : String} {ctx : Ctx}

theorem obeyed_onConnectionStatus (h : (policy mode).Obeyed account ctx)
    (status : ConnectionStatus) (reason : String) :
    (policy mode).Obeyed account (onConnectionStatus status reason ctx) :=
  (h.modify rfl).dispatch trivial

theorem obeyed_sendText (h : (policy mode).Obeyed account ctx) (type : WSAPIType) (userId : UInt8)
    (orderId : UInt64) (version : UInt32) (method : String) (params : Params) :
    (policy mode).Obeyed account (sendText type userId orderId version method params ctx) :=
  (h.modify rfl).send trivial

variable (shared : Shared) (t : TraceInfo)

theorem obeyed_downloadState (mode : MarginMode → Prop) (account : String) :
    Download.Kept (downloadState shared t) ((policy mode).Obeyed account) := by
  intro state ctx h
  have hs := obeyed_onConnectionStatus h
  cases state with
  | sessionLogon =>
    exact obeyed_onConnectionStatus (obeyed_sendText (hs _ _) _ _ _ _ _ _) _ _
  | userDataStreamSubscribe =>
    exact obeyed_onConnectionStatus (obeyed_sendText (hs _ _) _ _ _ _ _ _) _ _
  | accountStatus =>
    exact obeyed_onConnectionStatus (obeyed_sendText (hs _ _) _ _ _ _ _ _) _ _
  | openOrdersStatus =>
    exact obeyed_onConnectionStatus (obeyed_sendText (hs _ _) _ _ _ _ _ _) _ _
  | myTrades =>
    simp only [downloadState, myTrades]
    split_ifs
    · refine (hs _ _).foldl ?_
      intro ctx hc symbol
      exact obeyed_onConnectionStatus (obeyed_sendText hc _ _ _ _ _ _) _ _
    · exact hs _ _
  | done => exact ⟨(hs .ready "").own,(hs .ready "").outputs⟩

theorem obeyed_sequencer {f : Download State → Ctx → Download State × Ctx}
    (h : (policy mode).Obeyed account (f ctx.self.download ctx).2) :
    (policy mode).Obeyed account (sequencer f ctx) := ⟨h.own,h.outputs⟩

theorem obeyed_rateLimited {α : Type} (reply : WSAPIReply α)
    (h : (policy mode).Obeyed account ctx) :
    (policy mode).Obeyed account (rateLimited reply ctx) :=
  h.dispatchAll (reports_updateRateLimits _ _ _)

theorem obeyed_onReply {α : Type} (state : State) (successHandler : α → Ctx → Ctx)
    (reply : WSAPIReply α) (retryNow : Bool) (h : (policy mode).Obeyed account ctx)
    (hs : (policy mode).Obeyed account (successHandler reply.result ctx)) :
    (policy mode).Obeyed account (onReply shared t state successHandler reply retryNow ctx) := by
  have hkept := obeyed_downloadState shared t mode account
  unfold onReply
  refine obeyed_rateLimited reply ?_
  split_ifs
  · exact obeyed_sequencer (hkept.check state hs)
  · exact obeyed_sequencer (hkept.retry states retryNow state h)

theorem obeyed_respond {request : WSAPIRequest} {response : Response} {update : Option OrderUpdate}
    (h : (policy mode).Obeyed account ctx)
    (hu : ∀ u, update = some u → u.account = account ∧ mode u.marginMode) :
    (policy mode).Obeyed account (respond request response update ctx) := by
  refine h.dispatch ?_
  cases update with
  | none => trivial
  | some u => exact hu u rfl

theorem obeyed_onMessage (hm : mode .undefined) (message : WSAPIMessage) (order : MatchedOrder)
    (retryNow : Bool) (h : (policy mode).Obeyed account ctx) :
    (policy mode).Obeyed account (onMessage shared t message order retryNow ctx) := by
  have haccount := h.own
  cases message with
  | sessionLogon reply =>
    exact obeyed_onReply shared t .sessionLogon (fun _ ctx => ctx) reply retryNow h h
  | userDataStreamSubscribe reply =>
    exact obeyed_onReply shared t .userDataStreamSubscribe (fun _ ctx => ctx) reply retryNow h h
  | eventStreamTerminated => exact h.fatal _
  | account reply =>
    refine obeyed_onReply shared t _ _ reply retryNow h (h.dispatchAll ?_)
    intro update hu
    obtain ⟨item,-,rfl⟩ := List.mem_map.mp hu
    trivial
  | openOrders reply =>
    refine obeyed_onReply shared t _ _ reply retryNow h (h.foldl ?_)
    intro ctx hc order
    unfold onOpenOrder
    split_ifs
    · exact hc
    · exact (hc.modify rfl).dispatch ⟨hc.own,hm⟩
  | trades reply =>
    refine obeyed_onReply shared t _ _ reply retryNow h ((h.modify rfl).dispatchAll ?_)
    intro update hu
    obtain ⟨item,-,rfl⟩ := List.mem_map.mp hu
    trivial
  | orderPlace reply request =>
    refine obeyed_rateLimited reply ?_
    split_ifs
    · refine obeyed_respond h ?_
      rintro u ⟨⟩
      exact ⟨haccount,hm⟩
    · exact obeyed_respond h (by rintro u ⟨⟩)
  | orderAmendKeepPriority reply request =>
    refine obeyed_rateLimited reply ?_
    split_ifs
    · refine obeyed_respond h ?_
      rintro u ⟨⟩
      exact ⟨haccount,hm⟩
    · exact obeyed_respond h (by rintro u ⟨⟩)
  | cancelOrder reply request =>
    refine obeyed_rateLimited reply ?_
    split_ifs
    · refine obeyed_respond h ?_
      rintro u ⟨⟩
      exact ⟨haccount,hm⟩
    · exact obeyed_respond h (by rintro u ⟨⟩)
  | cancelOpenOrders reply request =>
    refine obeyed_rateLimited reply ?_
    split_ifs
    · refine h.dispatchAll ?_
      intro update hu
      obtain ⟨order,-,rfl⟩ := List.mem_map.mp hu
      exact ⟨haccount,hm⟩
    · exact h
  | outboundAccountPosition event =>
    exact h.dispatchAll (reports_onOutboundAccountPosition _ _ _ event)
  | balanceUpdate => exact h
  | executionReport report =>
    rw [← haccount]
    exact (haccount ▸ h).dispatchAll (reports_onExecutionReport hm shared _ _ order report)

theorem obeyed_onSocket (hm : mode .undefined) (p : WSAPIParsers) (event : SocketEvent)
    (h : (policy mode).Obeyed account ctx) :
    (policy mode).Obeyed account (onSocket shared p t event ctx) := by
  cases event with
  | ready =>
    have hbegin := (obeyed_downloadState shared t mode account).begin states h
    exact ⟨hbegin.own,hbegin.outputs⟩
  | disconnected =>
    have hready : (policy mode).Obeyed account
        (ctx.modify fun self => {self with ready := false}) := ⟨h.own,h.outputs⟩
    have hstatus := obeyed_onConnectionStatus hready .disconnected ""
    exact ⟨hstatus.own,hstatus.outputs⟩
  | text message order retryNow =>
    simp only [onSocket, parse]
    split
    · exact obeyed_onMessage shared t hm _ order retryNow h
    · exact h
    · exact h.fatal _
    · exact h.fatal _

/-- A request of a client reports no order. -/
theorem obeyed_onRequest (request : ClientRequest) (h : (policy mode).Obeyed account ctx) :
    (policy mode).Obeyed account (onRequest shared request ctx).1 := by
  cases request with
  | createOrder info request params =>
    simp only [onRequest, orderPlace]
    split_ifs
    · exact h
    · split
      · exact ⟨h.own,h.outputs⟩
      · refine obeyed_sendText ?_ _ _ _ _ _ _
        exact ⟨h.own,h.outputs⟩
  | modifyOrder info request params =>
    simp only [onRequest, orderAmendKeepPriority]
    split_ifs
    · exact h
    · exact h
    · exact obeyed_sendText h _ _ _ _ _ _
  | cancelOrder info request params =>
    simp only [onRequest, orderCancel]
    split_ifs
    · exact h
    · split
      · exact h
      · exact obeyed_sendText h _ _ _ _ _ _
  | cancelAllOrders info request requestId =>
    simp only [onRequest, openOrdersCancelAll]
    split_ifs
    · exact h
    · refine h.foldl ?_
      intro ctx hc symbol
      split_ifs
      · exact hc
      · exact (obeyed_sendText hc _ _ _ _ _ _).dispatch trivial

end WebSocket

namespace OrderEntryMargin

/-- Open orders are asked for, and listen keys come, for the cross margin only. -/
def policy (mode : MarginMode → Prop) : Policy OrderEntryMargin Call where
  account self := self.account
  call call := ∀ marginMode, call = .openOrders marginMode → marginMode = .cross
  key marginMode := marginMode = .cross
  mode := mode

variable {mode : MarginMode → Prop} {account : String} {ctx : Ctx}

theorem obeyed_onConnectionStatus (h : (policy mode).Obeyed account ctx)
    (status : ConnectionStatus) (reason : String) :
    (policy mode).Obeyed account (onConnectionStatus status reason ctx) :=
  (h.modify rfl).dispatch trivial

/-- No other request asks for open orders. -/
theorem obeyed_send (h : (policy mode).Obeyed account ctx) (call : Call)
    (hc : ∀ marginMode, call ≠ .openOrders marginMode) :
    (policy mode).Obeyed account (ctx.send call) :=
  h.send fun marginMode he => absurd he (hc marginMode)

theorem obeyed_getListenKey (marginMode : MarginMode) (h : (policy mode).Obeyed account ctx) :
    (policy mode).Obeyed account (getListenKey marginMode ctx) := by
  cases marginMode with
  | undefined => exact h.fatal _
  | isolated => exact obeyed_send h _ (by simp)
  | cross => exact obeyed_send h _ (by simp)
  | portfolio => exact h.fatal _

theorem obeyed_sequencer {f : Download State → Ctx → Download State × Ctx}
    (h : (policy mode).Obeyed account (f ctx.self.download ctx).2) :
    (policy mode).Obeyed account (sequencer f ctx) := ⟨h.own,h.outputs⟩

theorem obeyed_downloadState (mode : MarginMode → Prop) (account : String) :
    Download.Kept downloadState ((policy mode).Obeyed account) := by
  intro state ctx h
  have hs := obeyed_onConnectionStatus h
  cases state with
  | listenKey =>
    rw [downloadState]
    split_ifs
    · exact h
    · exact obeyed_getListenKey .cross (hs _ _)
  | done => exact ⟨(hs .ready "").own,(hs .ready "").outputs⟩

theorem obeyed_onConnected (h : (policy mode).Obeyed account ctx) :
    (policy mode).Obeyed account (onConnected ctx) := by
  have hkept := obeyed_downloadState mode account
  unfold onConnected
  split_ifs
  · exact obeyed_sequencer (hkept.bump h)
  · exact obeyed_sequencer (hkept.begin states h)

theorem obeyed_onDisconnected (h : (policy mode).Obeyed account ctx) :
    (policy mode).Obeyed account (onDisconnected ctx) := by
  have hready : (policy mode).Obeyed account
      (ctx.modify fun self => {self with ready := false}) := ⟨h.own,h.outputs⟩
  have hstatus := obeyed_onConnectionStatus hready .disconnected ""
  exact ⟨hstatus.own,hstatus.outputs⟩

variable (shared : Shared) (t : TraceInfo)

theorem obeyed_get (k : Kind) (h : (policy mode).Obeyed account ctx) :
    (policy mode).Obeyed account (get shared k ctx) := by
  have htrades : ∀ marginMode, (policy mode).Obeyed account (getTrades shared marginMode ctx) := by
    intro marginMode
    exact h.foldl fun ctx hc symbol => obeyed_send hc _ (by simp)
  cases k with
  | account => exact h.fatal _
  | orders => exact h.fatal _
  | trades => exact htrades .undefined
  | listenKeyCross => exact obeyed_getListenKey .cross h
  | accountCross => exact obeyed_send h _ (by simp)
  | ordersCross =>
    refine h.send ?_
    rintro marginMode ⟨⟩
    rfl
  | tradesCross => exact htrades .cross

theorem account_setDownload (k : Kind) (value : Bool) (self : OrderEntryMargin) :
    (setDownload k value self).account = self.account := by
  cases k <;> rfl

theorem obeyed_onTimer (timerNow : ℕ) (refresh : Bool) (h : (policy mode).Obeyed account ctx) :
    (policy mode).Obeyed account (onTimer shared timerNow refresh ctx) := by
  have hall : (policy mode).Obeyed account (kinds.foldl (start shared) ctx) := by
    refine h.foldl ?_
    intro ctx hc k
    unfold start
    split_ifs
    · exact (obeyed_get shared k hc).modify (account_setDownload k true _)
    · exact hc
  unfold onTimer startAll pollBorrowed
  split_ifs
  · have hpoll := obeyed_send hall .accountCrossOnTimer (by simp)
    exact ⟨hpoll.own,hpoll.outputs⟩
  · exact hall
  · exact h

/-- A request of a client reports no order. -/
theorem obeyed_onRequest (request : ClientRequest) (h : (policy mode).Obeyed account ctx) :
    (policy mode).Obeyed account (onRequest shared request ctx).1 := by
  cases request with
  | createOrder info request body =>
    simp only [onRequest, newOrder]
    split_ifs
    · exact h
    · split
      · exact ⟨h.own,h.outputs⟩
      · refine obeyed_send ?_ _ (by simp)
        exact ⟨h.own,h.outputs⟩
  | modifyOrder info request => exact h
  | cancelOrder info request marginMode body =>
    simp only [onRequest, cancelOrder]
    split
    · exact h
    · split
      · exact h
      · split
        · exact h
        · exact obeyed_send h _ (by simp)
  | cancelAllOrders request requestId =>
    simp only [onRequest, cancelAllOpenOrders]
    split_ifs
    · exact h
    · refine h.foldl ?_
      intro ctx hc symbol
      split_ifs
      · exact hc
      · exact (obeyed_send (obeyed_send hc _ (by simp)) _ (by simp)).dispatch trivial

theorem obeyed_processResponse {α : Type} {decode : Body → Except String α}
    {response : RestResponse}
    {errorHandler : Origin → RequestStatus → Error → String → Ctx → Ctx}
    {successHandler : α → Ctx → Ctx} (h : (policy mode).Obeyed account ctx)
    (herror : ∀ origin status error text ctx', (policy mode).Obeyed account ctx' →
      (policy mode).Obeyed account (errorHandler origin status error text ctx'))
    (hsuccess : ∀ value, classify decode response = .success value →
      (policy mode).Obeyed account (successHandler value ctx)) :
    (policy mode).Obeyed account
      (processResponse shared decode response errorHandler successHandler ctx) := by
  refine h.processResponseWith ?_ herror hsuccess
  intro forbidden retryAfter
  unfold limit
  split_ifs
  · exact h.wafLimitViolation shared
  · exact h

theorem obeyed_completion (k : Kind) (h : (policy mode).Obeyed account ctx) :
    (policy mode).Obeyed account (completion k t ctx) :=
  ⟨(account_setDownload k false _).trans h.own,h.outputs⟩

theorem obeyed_completeOrders (marginMode : MarginMode) (h : (policy mode).Obeyed account ctx) :
    (policy mode).Obeyed account (completeOrders t marginMode ctx) := by
  cases marginMode with
  | undefined => exact obeyed_completion t .orders h
  | isolated => exact h.fatal _
  | cross => exact obeyed_completion t .ordersCross h
  | portfolio => exact h.fatal _

theorem obeyed_completeTrades (marginMode : MarginMode) (h : (policy mode).Obeyed account ctx) :
    (policy mode).Obeyed account (completeTrades t marginMode ctx) := by
  cases marginMode with
  | undefined => exact obeyed_completion t .trades h
  | isolated => exact h.fatal _
  | cross => exact obeyed_completion t .tradesCross h
  | portfolio => exact h.fatal _

theorem obeyed_getListenKeyAck (marginMode : MarginMode) (response : RestResponse)
    (retryNow : Bool) (h : (policy mode).Obeyed account ctx) :
    (policy mode).Obeyed account (getListenKeyAck shared t marginMode response retryNow ctx) := by
  have hkept := obeyed_downloadState mode account
  refine obeyed_processResponse shared h ?_ ?_
  · intro _ _ _ _ ctx' h'
    refine obeyed_completion t .listenKeyCross ?_
    exact obeyed_sequencer (hkept.retry states retryNow .listenKey h')
  · intro ack _
    cases marginMode with
    | undefined => exact obeyed_getListenKey .cross (h.fatal _)
    | isolated => exact obeyed_getListenKey .cross (h.fatal _)
    | cross =>
      refine obeyed_completion t .listenKeyCross ?_
      have hkey : (policy mode).Obeyed account
          (ctx.emit (.listenKeyUpdate ⟨ctx.self.account,.cross,ack.token⟩)) := h.emit _ ⟨h.own,rfl⟩
      have hack : (policy mode).Obeyed account (onListenKeyAckMargin ack .cross ctx) :=
        ⟨hkey.own,hkey.outputs⟩
      exact obeyed_sequencer (hkept.check .listenKey hack)
    | portfolio => exact (h.fatal _).fatal _

theorem obeyed_getAccountAck (marginMode : MarginMode) (response : RestResponse)
    (h : (policy mode).Obeyed account ctx) :
    (policy mode).Obeyed account (getAccountAck shared t marginMode response ctx) := by
  cases marginMode with
  | undefined =>
    refine obeyed_processResponse shared h ?_ ?_
    · intro _ _ _ _ ctx' h'
      exact obeyed_completion t .account h'
    · intro ack _
      refine obeyed_completion t .account (h.dispatchAll ?_)
      intro update hu
      obtain ⟨item,-,rfl⟩ := List.mem_map.mp hu
      trivial
  | isolated =>
    exact obeyed_processResponse shared h (fun _ _ _ _ ctx' h' => h'.fatal _)
      fun _ _ => h.fatal _
  | cross =>
    refine obeyed_processResponse shared h ?_ ?_
    · intro _ _ _ _ ctx' h'
      exact obeyed_completion t .accountCross h'
    · intro ack _
      refine obeyed_completion t .accountCross (h.dispatchAll ?_)
      intro update hu
      obtain ⟨item,-,rfl⟩ := List.mem_map.mp hu
      trivial
  | portfolio =>
    exact obeyed_processResponse shared h (fun _ _ _ _ ctx' h' => h'.fatal _)
      fun _ _ => h.fatal _

theorem obeyed_onOpenOrdersAck {marginMode : MarginMode} (hm : mode marginMode)
    (ack : OpenOrdersAck) (h : (policy mode).Obeyed account ctx) :
    (policy mode).Obeyed account (onOpenOrdersAck shared ack marginMode ctx) := by
  refine h.foldl ?_
  intro ctx hc order
  unfold onOpenOrder
  split_ifs
  · exact hc
  · exact (hc.modify rfl).dispatch ⟨hc.own,hm⟩

/-- The margin mode is left out of the orders of a cancel-all only. -/
theorem obeyed_onResponse (hcross : mode .cross) (hisolated : mode .isolated) {call : Call}
    (hcall : (policy mode).call call) (response : RestResponse) (retryNow : Bool)
    (hcancel : ∀ symbol marginMode requestId ack,
      call = .cancelAllOpenOrders symbol marginMode requestId →
      classify Body.cancelAllOpenOrdersAck response = .success ack → mode .undefined)
    (h : (policy mode).Obeyed account ctx) :
    (policy mode).Obeyed account (onResponse shared t call response retryNow ctx) := by
  have hisIsolated : ∀ b : Bool, mode (if b then .isolated else .cross) := by
    intro b
    cases b with
    | false => exact hcross
    | true => exact hisolated
  cases call with
  | listenKey marginMode => exact obeyed_getListenKeyAck shared t marginMode response retryNow h
  | account marginMode => exact obeyed_getAccountAck shared t marginMode response h
  | openOrders marginMode =>
    obtain rfl := hcall marginMode rfl
    rw [onResponse,getOpenOrdersAck]
    refine obeyed_processResponse shared h ?_ ?_
    · intro _ _ _ _ ctx' h'
      exact obeyed_completeOrders t .cross h'
    · intro ack _
      exact obeyed_completeOrders t .cross (obeyed_onOpenOrdersAck shared hcross ack h)
  | trades marginMode symbol lookback limit =>
    rw [onResponse,getTradesAck]
    refine obeyed_processResponse shared h ?_ ?_
    · intro _ _ _ _ ctx' h'
      exact obeyed_completeTrades t marginMode h'
    · intro ack _
      refine (obeyed_completeTrades t marginMode h).modify ?_
      cases marginMode <;> rfl
  | accountCrossOnTimer =>
    rw [onResponse,getAccountCrossOnTimerAck]
    refine obeyed_processResponse shared h ?_ ?_
    · intro _ _ _ _ ctx' h'
      exact ⟨h'.own,h'.outputs⟩
    · intro ack _
      have hall : (policy mode).Obeyed account
          (ctx.dispatchAll (onCrossMarginAccountOnTimer ctx.self ack)) := by
        refine h.dispatchAll ?_
        intro update hu
        obtain ⟨item,-,rfl⟩ := List.mem_map.mp hu
        trivial
      exact ⟨hall.own,hall.outputs⟩
  | newOrder body userId orderId =>
    rw [onResponse,newOrderAck]
    refine obeyed_processResponse shared h ?_ ?_
    · intro _ _ _ _ ctx' h'
      exact h'.dispatch trivial
    · intro ack _
      exact h.dispatch ⟨h.own,hisIsolated ack.isIsolated⟩
  | cancelOrder body userId orderId version =>
    rw [onResponse,cancelOrderAck]
    refine obeyed_processResponse shared h ?_ ?_
    · intro _ _ _ _ ctx' h'
      exact h'.dispatch trivial
    · intro ack _
      exact h.dispatch ⟨h.own,hisIsolated ack.isIsolated⟩
  | cancelAllOpenOrders symbol marginMode requestId =>
    rw [onResponse,cancelAllOpenOrdersAck]
    refine obeyed_processResponse shared h ?_ ?_
    · intro _ _ _ _ ctx' h'
      exact h'.dispatch trivial
    · intro ack hack
      refine Policy.Obeyed.dispatch ?_ trivial
      refine h.dispatchAll ?_
      intro update hu
      obtain ⟨order,-,rfl⟩ := List.mem_map.mp hu
      exact ⟨h.own,hcancel symbol marginMode requestId ack rfl hack⟩

end OrderEntryMargin

namespace DropCopyMargin

/-- The reports of the user stream have no margin mode. -/
def policy (mode : MarginMode → Prop) : Policy DropCopyMargin Frame where
  account self := self.account
  call _ := True
  key _ := False
  mode := mode

variable {mode : MarginMode → Prop} {account : String} {ctx : Ctx}

theorem obeyed_onConnectionStatus (h : (policy mode).Obeyed account ctx)
    (status : ConnectionStatus) (reason : String) :
    (policy mode).Obeyed account (onConnectionStatus status reason ctx) :=
  (h.modify rfl).dispatch trivial

theorem obeyed_sendText (h : (policy mode).Obeyed account ctx) (type : WSAPIType)
    (method : String) (params : Params) :
    (policy mode).Obeyed account (sendText type method params ctx) :=
  (h.modify rfl).send trivial

variable (t : TraceInfo)

theorem obeyed_sequencer {f : Download State → Ctx → Download State × Ctx}
    (h : (policy mode).Obeyed account (f ctx.self.download ctx).2) :
    (policy mode).Obeyed account (sequencer f ctx) := ⟨h.own,h.outputs⟩

theorem obeyed_downloadState (mode : MarginMode → Prop) (account : String) :
    Download.Kept (downloadState t) ((policy mode).Obeyed account) := by
  intro state ctx h
  have hs := obeyed_onConnectionStatus h
  cases state with
  | sessionLogon => exact obeyed_onConnectionStatus (obeyed_sendText (hs _ _) _ _ _) _ _
  | userDataStreamSubscribe => exact obeyed_onConnectionStatus (obeyed_sendText (hs _ _) _ _ _) _ _
  | account => exact obeyed_onConnectionStatus ((hs _ _).post _ _) _ _
  | orders => exact obeyed_onConnectionStatus ((hs _ _).post _ _) _ _
  | done => exact ⟨(hs .ready "").own,(hs .ready "").outputs⟩

theorem obeyed_onTimer (refresh : Bool) (h : (policy mode).Obeyed account ctx) :
    (policy mode).Obeyed account (onTimer t refresh ctx) := by
  have hkept := obeyed_downloadState t mode account
  have hcheck : ∀ state k {ctx : Ctx}, (policy mode).Obeyed account ctx →
      (policy mode).Obeyed account (checkResponse t state k ctx) := by
    intro state k ctx hc
    unfold checkResponse
    split_ifs
    · exact hc
    · exact obeyed_sequencer (hkept.check state hc)
    · exact hc
  have hkey : (policy mode).Obeyed account (checkResponseListenKey ctx) := by
    unfold checkResponseListenKey
    split_ifs
    · exact ⟨h.own,h.outputs⟩
    · exact h
  unfold onTimer
  split_ifs
  · exact hcheck _ _ (hcheck _ _ hkey)
  · exact h

theorem obeyed_onReply {α : Type} (state : State) (reply : WSAPIReply α) (retryNow : Bool)
    (h : (policy mode).Obeyed account ctx) :
    (policy mode).Obeyed account (onReply t state reply retryNow ctx) := by
  have hkept := obeyed_downloadState t mode account
  refine Policy.Obeyed.dispatchAll ?_ (reports_updateRateLimits _ _ _)
  split_ifs
  · exact obeyed_sequencer (hkept.check state h)
  · exact obeyed_sequencer (hkept.retry states retryNow state h)

theorem obeyed_onSocket (shared : Shared) (event : SocketEvent)
    (hreport : ∀ report order retryNow, event = .message (.executionReport report) order retryNow →
      mode .undefined)
    (h : (policy mode).Obeyed account ctx) :
    (policy mode).Obeyed account (onSocket shared t event ctx) := by
  have haccount := h.own
  cases event with
  | ready =>
    have hbegin := (obeyed_downloadState t mode account).begin states h
    exact ⟨hbegin.own,hbegin.outputs⟩
  | disconnected =>
    have hready : (policy mode).Obeyed account
        (ctx.modify fun self => {self with ready := false}) := ⟨h.own,h.outputs⟩
    have hstatus := obeyed_onConnectionStatus hready .disconnected ""
    exact ⟨hstatus.own,hstatus.outputs⟩
  | message message order retryNow =>
    cases message with
    | sessionLogon reply => exact obeyed_onReply t _ reply retryNow h
    | userDataStreamSubscribe reply => exact obeyed_onReply t _ reply retryNow h
    | eventStreamTerminated =>
      simp only [onSocket, onMessage, onEventStreamTerminated]
      split_ifs
      · exact h
      · have hempty : (policy mode).Obeyed account
            (ctx.modify fun self => {self with listenToken := ""}) := ⟨h.own,h.outputs⟩
        have hsuspend := hempty.emit (.suspendFor (60*10^9)) trivial
        exact ⟨hsuspend.own,hsuspend.outputs⟩
    | outboundAccountPosition position =>
      exact h.dispatchAll (reports_onOutboundAccountPosition _ _ _ position)
    | balanceUpdate => exact h
    | executionReport report =>
      have hm := hreport report order retryNow rfl
      rw [← haccount]
      exact (haccount ▸ h).dispatchAll (reports_onExecutionReport hm shared _ _ order report)
    | account reply => exact h.fatal _
    | openOrders reply => exact h.fatal _
    | trades reply => exact h.fatal _
    | orderPlace reply request => exact h.fatal _
    | orderAmendKeepPriority reply request => exact h.fatal _
    | cancelOrder reply request => exact h.fatal _
    | cancelOpenOrders reply request => exact h.fatal _

end DropCopyMargin

namespace OrderEntryPortfolio

def policy (mode : MarginMode → Prop) : Policy OrderEntryPortfolio Call where
  account self := self.account
  call _ := True
  key marginMode := marginMode = .portfolio
  mode := mode

variable {mode : MarginMode → Prop} {account : String} {ctx : Ctx}

theorem obeyed_onConnectionStatus (h : (policy mode).Obeyed account ctx)
    (status : ConnectionStatus) (reason : String) :
    (policy mode).Obeyed account (onConnectionStatus status reason ctx) :=
  (h.modify rfl).dispatch trivial

theorem obeyed_send (h : (policy mode).Obeyed account ctx) (call : Call) :
    (policy mode).Obeyed account (ctx.send call) := h.send trivial

theorem obeyed_sequencer {f : Download State → Ctx → Download State × Ctx}
    (h : (policy mode).Obeyed account (f ctx.self.download ctx).2) :
    (policy mode).Obeyed account (sequencer f ctx) := ⟨h.own,h.outputs⟩

theorem obeyed_downloadState (mode : MarginMode → Prop) (account : String) :
    Download.Kept downloadState ((policy mode).Obeyed account) := by
  intro state ctx h
  have hs := obeyed_onConnectionStatus h
  cases state with
  | listenKey =>
    rw [downloadState]
    split_ifs
    · exact obeyed_send (hs _ _) .listenKey
    · exact h
  | done => exact ⟨(hs .ready "").own,(hs .ready "").outputs⟩

theorem obeyed_onConnected (h : (policy mode).Obeyed account ctx) :
    (policy mode).Obeyed account (onConnected ctx) := by
  have hkept := obeyed_downloadState mode account
  unfold onConnected
  split_ifs
  · exact obeyed_sequencer (hkept.bump h)
  · exact obeyed_sequencer (hkept.begin states h)

theorem obeyed_onDisconnected (h : (policy mode).Obeyed account ctx) :
    (policy mode).Obeyed account (onDisconnected ctx) := by
  have hready : (policy mode).Obeyed account
      (ctx.modify fun self => {self with ready := false}) := ⟨h.own,h.outputs⟩
  have hstatus := obeyed_onConnectionStatus hready .disconnected ""
  exact ⟨hstatus.own,hstatus.outputs⟩

variable (shared : Shared) (t : TraceInfo)

theorem obeyed_get (k : Kind) (h : (policy mode).Obeyed account ctx) :
    (policy mode).Obeyed account (get shared k ctx) := by
  cases k with
  | account => exact obeyed_send h _
  | orders => exact obeyed_send h _
  | trades => exact h.foldl fun ctx hc symbol => obeyed_send hc _
  | listenKeyCross => exact h
  | accountCross => exact h
  | ordersCross => exact h
  | tradesCross => exact h

theorem account_setDownload (k : Kind) (value : Bool) (self : OrderEntryPortfolio) :
    (setDownload k value self).account = self.account := by
  cases k <;> rfl

theorem obeyed_onTimer (refresh : Bool) (h : (policy mode).Obeyed account ctx) :
    (policy mode).Obeyed account (onTimer shared t refresh ctx) := by
  have hrefresh : (policy mode).Obeyed account (refreshListenKey shared t ctx) := by
    unfold refreshListenKey
    split_ifs
    · exact h
    · exact h
    · refine obeyed_send ?_ .listenKey
      exact ⟨h.own,h.outputs⟩
  have hstart : ∀ ctx, (policy mode).Obeyed account ctx → ∀ k,
      (policy mode).Obeyed account (start shared ctx k) := by
    intro ctx hc k
    unfold start
    split_ifs
    · exact (obeyed_get shared k hc).modify (account_setDownload k true _)
    · exact hc
  unfold onTimer
  split_ifs
  · dsimp only
    split_ifs
    · exact hrefresh.foldl hstart
    · exact hrefresh
  · exact h

/-- A request of a client reports no order. -/
theorem obeyed_onRequest (request : ClientRequest) (h : (policy mode).Obeyed account ctx) :
    (policy mode).Obeyed account (onRequest shared request ctx).1 := by
  cases request with
  | createOrder info request body =>
    simp only [onRequest, newOrder]
    split_ifs
    · exact h
    · split
      · exact ⟨h.own,h.outputs⟩
      · refine obeyed_send ?_ _
        exact ⟨h.own,h.outputs⟩
  | modifyOrder info request => exact h
  | cancelOrder info request body =>
    simp only [onRequest, cancelOrder]
    split_ifs
    · exact h
    · split
      · exact h
      · exact obeyed_send h _
  | cancelAllOrders request requestId =>
    simp only [onRequest, cancelAllOpenOrders]
    split_ifs
    · exact h
    · refine h.foldl ?_
      intro ctx hc symbol
      split_ifs
      · exact hc
      · exact (obeyed_send hc _).dispatch trivial

theorem obeyed_processResponse {α : Type} {decode : Body → Except String α}
    {response : RestResponse}
    {errorHandler : Origin → RequestStatus → Error → String → Ctx → Ctx}
    {successHandler : α → Ctx → Ctx} (h : (policy mode).Obeyed account ctx)
    (herror : ∀ origin status error text ctx', (policy mode).Obeyed account ctx' →
      (policy mode).Obeyed account (errorHandler origin status error text ctx'))
    (hsuccess : ∀ value, (policy mode).Obeyed account (successHandler value ctx)) :
    (policy mode).Obeyed account
      (processResponse shared decode response errorHandler successHandler ctx) := by
  refine h.processResponseWith ?_ herror fun value _ => hsuccess value
  intro forbidden retryAfter
  have hforbidden : (policy mode).Obeyed account
      (if forbidden then wafLimitViolation shared ctx else ctx) := by
    split_ifs
    · exact h.wafLimitViolation shared
    · exact h
  simp only [limit, suspendFor]
  generalize (if forbidden then wafLimitViolation shared ctx else ctx) = ctx' at hforbidden ⊢
  split_ifs
  · exact hforbidden.emit _ trivial
  · exact hforbidden

theorem obeyed_completion (k : Kind) (h : (policy mode).Obeyed account ctx) :
    (policy mode).Obeyed account (completion k t ctx) :=
  ⟨(account_setDownload k false _).trans h.own,h.outputs⟩

theorem obeyed_onListenKeyAck (ack : ListenKeyAck) (h : (policy mode).Obeyed account ctx) :
    (policy mode).Obeyed account (onListenKeyAck shared t ack ctx) := by
  have hkey : (policy mode).Obeyed account
      (ctx.modify fun self => {self with listenKey := ack.listenKey}) := ⟨h.own,h.outputs⟩
  simp only [onListenKeyAck]
  split_ifs
  · have hemit := hkey.emit
      (.listenKeyUpdate ⟨ctx.self.account,.portfolio,ack.listenKey⟩) ⟨h.own,rfl⟩
    exact ⟨hemit.own,hemit.outputs⟩
  · exact ⟨hkey.own,hkey.outputs⟩

theorem obeyed_onResponse (hm : mode .portfolio) (call : Call) (response : RestResponse)
    (retryNow : Bool) (h : (policy mode).Obeyed account ctx) :
    (policy mode).Obeyed account (onResponse shared t call response retryNow ctx) := by
  have hkept := obeyed_downloadState mode account
  cases call with
  | listenKey =>
    rw [onResponse,getListenKeyAck]
    refine obeyed_processResponse shared h ?_ ?_
    · intro _ _ _ _ ctx' h'
      exact obeyed_sequencer (hkept.retry states retryNow .listenKey h')
    · intro ack
      have hack := obeyed_onListenKeyAck shared t ack h
      exact obeyed_sequencer (hkept.check .listenKey hack)
  | account =>
    rw [onResponse,getAccountAck]
    refine obeyed_processResponse shared h ?_ ?_
    · intro _ _ _ _ ctx' h'
      exact obeyed_completion t .account h'
    · intro ack
      refine obeyed_completion t .account (h.dispatchAll ?_)
      intro update hu
      obtain ⟨item,-,rfl⟩ := List.mem_map.mp hu
      trivial
  | openOrders =>
    rw [onResponse,getOpenOrdersAck]
    refine obeyed_processResponse shared h ?_ ?_
    · intro _ _ _ _ ctx' h'
      exact obeyed_completion t .orders h'
    · intro ack
      refine obeyed_completion t .orders (h.foldl ?_)
      intro ctx hc order
      unfold onOpenOrder
      split_ifs
      · exact hc
      · exact (hc.modify rfl).dispatch ⟨hc.own,hm⟩
  | trades symbol lookback limit =>
    rw [onResponse,getTradesAck]
    refine obeyed_processResponse shared h ?_ ?_
    · intro _ _ _ _ ctx' h'
      exact obeyed_completion t .trades h'
    · intro ack
      have hall : (policy mode).Obeyed account (completion .trades t
          (ctx.dispatchAll (onTradesAck shared ctx.self ack))) := by
        refine obeyed_completion t .trades (h.dispatchAll ?_)
        intro update hu
        obtain ⟨item,-,rfl⟩ := List.mem_map.mp hu
        trivial
      exact ⟨hall.own,hall.outputs⟩
  | newOrder body userId orderId =>
    rw [onResponse,newOrderAck]
    refine obeyed_processResponse shared h ?_ ?_
    · intro _ _ _ _ ctx' h'
      exact h'.dispatch trivial
    · intro ack
      exact h.dispatch ⟨h.own,hm⟩
  | cancelOrder body userId orderId version =>
    rw [onResponse,cancelOrderAck]
    refine obeyed_processResponse shared h ?_ ?_
    · intro _ _ _ _ ctx' h'
      exact h'.dispatch trivial
    · intro ack
      exact h.dispatch ⟨h.own,hm⟩
  | cancelAllOpenOrders symbol requestId =>
    rw [onResponse,cancelAllOpenOrdersAck]
    refine obeyed_processResponse shared h ?_ ?_
    · intro _ _ _ _ ctx' h'
      exact h'.dispatch trivial
    · intro ack
      refine Policy.Obeyed.dispatch ?_ trivial
      refine h.dispatchAll ?_
      intro update hu
      obtain ⟨order,-,rfl⟩ := List.mem_map.mp hu
      exact ⟨h.own,hm⟩

end OrderEntryPortfolio

namespace DropCopyPortfolio

def policy (mode : MarginMode → Prop) : Policy DropCopyPortfolio Call where
  account self := self.account
  call _ := True
  key _ := False
  mode := mode

variable {mode : MarginMode → Prop} {account : String} {ctx : Ctx}

theorem obeyed_onConnectionStatus (h : (policy mode).Obeyed account ctx)
    (status : ConnectionStatus) (reason : String) :
    (policy mode).Obeyed account (onConnectionStatus status reason ctx) :=
  (h.modify rfl).dispatch trivial

variable (shared : Shared) (t : TraceInfo)

theorem obeyed_sequencer {f : Download State → Ctx → Download State × Ctx}
    (h : (policy mode).Obeyed account (f ctx.self.download ctx).2) :
    (policy mode).Obeyed account (sequencer f ctx) := ⟨h.own,h.outputs⟩

theorem obeyed_downloadState (mode : MarginMode → Prop) (account : String) :
    Download.Kept (downloadState shared t) ((policy mode).Obeyed account) := by
  intro state ctx h
  have hs := obeyed_onConnectionStatus h
  cases state with
  | account => exact (hs _ _).post _ _
  | orders => exact (hs _ _).post _ _
  | trades =>
    rw [downloadState]
    split_ifs
    · exact (hs _ _).post _ _
    · exact h
  | done => exact ⟨(hs .ready "").own,(hs .ready "").outputs⟩

theorem obeyed_handle (hm : mode .portfolio) (event : Event)
    (h : (policy mode).Obeyed account ctx) :
    (policy mode).Obeyed account (handle shared t event ctx) := by
  have hkept := obeyed_downloadState shared t mode account
  have haccount := h.own
  have hcheck : ∀ state k {ctx : Ctx}, (policy mode).Obeyed account ctx →
      (policy mode).Obeyed account (checkResponse shared t state k ctx) := by
    intro state k ctx hc
    unfold checkResponse
    split_ifs
    · exact hc
    · exact obeyed_sequencer (hkept.check state hc)
    · exact hc
  cases event with
  | timer refresh =>
    simp only [handle, onTimer]
    split_ifs
    · exact hcheck _ _ (hcheck _ _ (hcheck _ _ h))
    · exact h
  | socket event =>
    cases event with
    | ready =>
      have hbegin := hkept.begin states h
      exact ⟨hbegin.own,hbegin.outputs⟩
    | disconnected =>
      have hready : (policy mode).Obeyed account
          (ctx.modify fun self => {self with ready := false}) := ⟨h.own,h.outputs⟩
      have hstatus := obeyed_onConnectionStatus hready .disconnected ""
      exact ⟨hstatus.own,hstatus.outputs⟩
    | message message order =>
      cases message with
      | outboundAccountPosition event =>
        exact h.dispatchAll (reports_onOutboundAccountPosition _ _ _ event)
      | balanceUpdate => exact h
      | executionReport report =>
        rw [← haccount]
        exact (haccount ▸ h).dispatchAll (reports_onExecutionReport hm shared _ _ order report)
      | listStatus => exact h

end DropCopyPortfolio
end RoqBinance.Gateway
