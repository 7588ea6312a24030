import Mathlib.Data.List.Nodup
import RoqBinance.Gateway.Margin
import RoqBinance.Gateway.OrderRouting

/-! The margin stream only ever works with the cross margin mode: nothing asks it for the
downloads of the spot wallet, so it never ends the process over a margin mode. -/
namespace RoqBinance.Gateway
open Library Protocol.Json

/-- The downloads of the spot wallet. -/
def Kind.Spot : Kind → Prop
  | .account => True
  | .orders => True
  | .trades => True
  | _ => False

namespace Request

/-- The downloads of the spot wallet have never been asked for. -/
def Unasked (r : Request) : Prop := ∀ k : Kind, k.Spot → (r.stamps k).request = 0

variable {r : Request}

theorem unasked_empty : empty.Unasked := by
  intro k _
  rw [stamps_empty]

theorem Unasked.post (h : r.Unasked) {k : Kind} (hk : ¬ k.Spot) (time : ℕ) :
    (r.post k time).Unasked := by
  intro j hj
  rw [stamps_post,if_neg]
  · exact h j hj
  · rintro rfl
    exact hk hj

theorem Unasked.reply (h : r.Unasked) (k : Kind) (time : ℕ) : (r.reply k time).Unasked := by
  intro j hj
  rw [stamps_reply]
  split_ifs
  · exact h j hj
  · exact h j hj

theorem Unasked.not_pending (h : r.Unasked) {k : Kind} (hk : k.Spot) :
    ¬ (r.stamps k).pending := by
  simp [h k hk]

end Request

namespace OrderEntryMargin

/-- The callback knows what to do for the margin mode that it is bound to. -/
def Call.Supported : Call → Prop
  | .listenKey marginMode => marginMode = .cross
  | .account marginMode => marginMode = .cross
  | .openOrders marginMode => marginMode = .cross
  | .trades marginMode _ _ _ => marginMode = .cross
  | _ => True

def Supported : Output Call → Prop
  | .send call => call.Supported
  | .fatal text => text ≠ "Unexpected"
  | _ => True

structure Supports (ctx : Ctx) : Prop where
  request : ctx.request.Unasked
  outputs : ∀ output ∈ ctx.outputs, Supported output

namespace Supports
variable {ctx : Ctx} (h : Supports ctx)
include h

theorem emit (output : Output Call) (ho : Supported output) : Supports (ctx.emit output) := by
  refine ⟨h.request,?_⟩
  intro o hm
  rcases List.mem_append.mp hm with hm | hm
  · exact h.outputs o hm
  · rwa [List.mem_singleton.mp hm]

theorem send {call : Call} (hc : call.Supported) : Supports (ctx.send call) := h.emit _ hc

theorem dispatch (update : Dispatch) : Supports (ctx.dispatch update) := h.emit _ trivial

theorem dispatchAll (updates : List Dispatch) : Supports (ctx.dispatchAll updates) := by
  refine ⟨h.request,?_⟩
  intro o hm
  rcases List.mem_append.mp hm with hm | hm
  · exact h.outputs o hm
  · obtain ⟨update,-,rfl⟩ := List.mem_map.mp hm
    trivial

theorem modify (f : OrderEntryMargin → OrderEntryMargin) : Supports (ctx.modify f) :=
  ⟨h.request,h.outputs⟩

theorem reply (k : Kind) (time : ℕ) : Supports (ctx.reply k time) :=
  ⟨h.request.reply k time,h.outputs⟩

theorem foldl {α : Type} {f : Ctx → α → Ctx} {xs : List α}
    (hf : ∀ ctx, Supports ctx → ∀ x, Supports (f ctx x)) : Supports (xs.foldl f ctx) :=
  List.foldlRecOn xs f h fun ctx hc x _ => hf ctx hc x

end Supports

variable {ctx : Ctx}

theorem supports_onConnectionStatus (h : Supports ctx) (status : ConnectionStatus)
    (reason : String) : Supports (onConnectionStatus status reason ctx) :=
  (h.modify _).dispatch _

theorem supports_sequencer {f : Download State → Ctx → Download State × Ctx}
    (h : Supports (f ctx.self.download ctx).2) : Supports (sequencer f ctx) :=
  ⟨h.request,h.outputs⟩

theorem supports_downloadState : Download.Kept downloadState Supports := by
  intro state ctx h
  cases state with
  | listenKey =>
    rw [downloadState]
    split_ifs
    · exact h
    · exact (supports_onConnectionStatus h _ _).send rfl
  | done =>
    have hs := supports_onConnectionStatus h .ready ""
    exact ⟨hs.request,hs.outputs⟩

theorem supports_onConnected (h : Supports ctx) : Supports (onConnected ctx) := by
  unfold onConnected
  split_ifs
  · exact supports_sequencer (supports_downloadState.bump h)
  · exact supports_sequencer (supports_downloadState.begin states h)

theorem supports_onDisconnected (h : Supports ctx) : Supports (onDisconnected ctx) := by
  have hready := h.modify fun self => {self with ready := false}
  have hs := supports_onConnectionStatus hready .disconnected ""
  exact ⟨hs.request,hs.outputs⟩

variable (shared : Shared) (t : TraceInfo)

/-- Only the downloads of the cross margin are asked for. -/
theorem supports_get (h : Supports ctx) {k : Kind} (hk : ¬ k.Spot) :
    Supports (get shared k ctx) := by
  cases k with
  | account => exact absurd trivial hk
  | orders => exact absurd trivial hk
  | trades => exact absurd trivial hk
  | listenKeyCross => exact h.send rfl
  | accountCross => exact h.send rfl
  | ordersCross => exact h.send rfl
  | tradesCross => exact h.foldl fun ctx hc symbol => hc.send rfl

theorem supports_start (h : Supports ctx) (k : Kind) : Supports (start shared ctx k) := by
  unfold start
  split_ifs with hp
  · have hpending : (ctx.request.stamps k).pending := by simp_all
    have hk : ¬ k.Spot := fun hk => h.request.not_pending hk hpending
    exact (supports_get shared h hk).modify _
  · exact h

theorem supports_onTimer (timerNow : ℕ) (refresh : Bool) (h : Supports ctx) :
    Supports (onTimer shared timerNow refresh ctx) := by
  have hall : Supports (kinds.foldl (start shared) ctx) := h.foldl fun ctx hc k =>
    supports_start shared hc k
  unfold onTimer
  split_ifs
  · unfold startAll pollBorrowed
    split_ifs
    · have hpoll := Supports.send hall (show Call.Supported .accountCrossOnTimer from trivial)
      exact ⟨hpoll.request,hpoll.outputs⟩
    · exact hall
  · exact h

theorem supports_onRequest (request : ClientRequest) (h : Supports ctx) :
    Supports (onRequest shared request ctx).1 := by
  cases request with
  | createOrder info request body =>
    simp only [onRequest, newOrder]
    split_ifs
    · exact h
    · split
      · exact ⟨h.request,h.outputs⟩
      · have hsymbol := h.modify fun self =>
          {self with openOrdersSymbols := emplace self.openOrdersSymbols request.symbol}
        exact hsymbol.send (show (Call.newOrder body info.source request.orderId).Supported from trivial)
  | modifyOrder info request => exact h
  | cancelOrder info request marginMode body =>
    simp only [onRequest, cancelOrder]
    split_ifs
    · exact h
    · split
      · exact h
      · exact h
    · split
      · exact h
      · exact h.send trivial
  | cancelAllOrders request requestId =>
    simp only [onRequest, cancelAllOpenOrders]
    split_ifs
    · exact h
    · refine h.foldl fun ctx hc symbol => ?_
      split_ifs
      · exact hc
      · refine Supports.dispatch (Supports.send (Supports.send hc ?_) ?_) _
        · trivial
        · trivial

theorem supports_processResponse {α : Type} {decode : Body → Except String α}
    {response : RestResponse}
    {errorHandler : Origin → RequestStatus → Error → String → Ctx → Ctx}
    {successHandler : α → Ctx → Ctx} (h : Supports ctx)
    (herror : ∀ origin status error text ctx', Supports ctx' →
      Supports (errorHandler origin status error text ctx'))
    (hsuccess : ∀ value, Supports (successHandler value ctx)) :
    Supports (processResponse shared decode response errorHandler successHandler ctx) := by
  have hlimit : ∀ forbidden retryAfter, Supports (limit shared forbidden retryAfter ctx) := by
    intro forbidden retryAfter
    unfold limit wafLimitViolation
    split_ifs
    · exact h.emit _ (by simp [Supported])
    · exact h.emit _ trivial
    · exact h
  unfold processResponse processResponseWith
  cases hclass : classify decode response with
  | success value => exact hsuccess value
  | error origin status error text => exact herror _ _ _ _ _ h
  | rateLimited forbidden retryAfter text => exact herror _ _ _ _ _ (hlimit _ _)
  | fatal text =>
    refine h.emit _ ?_
    rw [(fatal_of_classify hclass).2]
    simp [Supported]

theorem supports_completion (k : Kind) (h : Supports ctx) : Supports (completion k t ctx) :=
  (h.reply k _).modify _

theorem supports_completionOnTimer (h : Supports ctx) : Supports (completionOnTimer t ctx) :=
  (h.reply _ _).modify _

theorem supports_getListenKeyAck (response : RestResponse) (retryNow : Bool) (h : Supports ctx) :
    Supports (getListenKeyAck shared t .cross response retryNow ctx) := by
  refine supports_processResponse shared h ?_ ?_
  · intro _ _ _ _ ctx' h'
    exact supports_completion t .listenKeyCross
      (supports_sequencer (supports_downloadState.retry states retryNow .listenKey h'))
  · intro ack
    have hkey := h.emit (.listenKeyUpdate ⟨ctx.self.account,.cross,ack.token⟩) trivial
    have hack : Supports (onListenKeyAckMargin ack .cross ctx) := ⟨hkey.request,hkey.outputs⟩
    exact supports_completion t .listenKeyCross
      (supports_sequencer (supports_downloadState.check .listenKey hack))

theorem supports_onOpenOrdersAck (ack : OpenOrdersAck) (marginMode : MarginMode)
    (h : Supports ctx) : Supports (onOpenOrdersAck shared ack marginMode ctx) := by
  refine h.foldl fun ctx hc order => ?_
  unfold onOpenOrder
  split_ifs
  · exact hc
  · exact (hc.modify _).dispatch _

/-- A callback for a margin mode that it supports ends the process for no margin mode. -/
theorem supports_onResponse {call : Call} (hcall : call.Supported) (response : RestResponse)
    (retryNow : Bool) (h : Supports ctx) :
    Supports (onResponse shared t call response retryNow ctx) := by
  cases call with
  | listenKey marginMode =>
    obtain rfl : marginMode = .cross := hcall
    exact supports_getListenKeyAck shared t response retryNow h
  | account marginMode =>
    obtain rfl : marginMode = .cross := hcall
    rw [onResponse,getAccountAck]
    refine supports_processResponse shared h ?_ ?_
    · intro _ _ _ _ ctx' h'
      exact supports_completion t .accountCross h'
    · intro account
      exact supports_completion t .accountCross (h.dispatchAll _)
  | openOrders marginMode =>
    obtain rfl : marginMode = .cross := hcall
    rw [onResponse,getOpenOrdersAck]
    refine supports_processResponse shared h ?_ ?_
    · intro _ _ _ _ ctx' h'
      exact supports_completion t .ordersCross h'
    · intro ack
      exact supports_completion t .ordersCross (supports_onOpenOrdersAck shared ack .cross h)
  | trades marginMode symbol lookback limit =>
    obtain rfl : marginMode = .cross := hcall
    rw [onResponse,getTradesAck]
    refine supports_processResponse shared h ?_ ?_
    · intro _ _ _ _ ctx' h'
      exact supports_completion t .tradesCross h'
    · intro ack
      exact (supports_completion t .tradesCross h).modify _
  | accountCrossOnTimer =>
    rw [onResponse,getAccountCrossOnTimerAck]
    refine supports_processResponse shared h ?_ ?_
    · intro _ _ _ _ ctx' h'
      exact supports_completionOnTimer t h'
    · intro account
      exact supports_completionOnTimer t (h.dispatchAll _)
  | newOrder body userId orderId =>
    rw [onResponse,newOrderAck]
    refine supports_processResponse shared h ?_ ?_
    · intro _ _ _ _ ctx' h'
      exact h'.dispatch _
    · intro ack
      exact h.dispatch _
  | cancelOrder body userId orderId version =>
    rw [onResponse,cancelOrderAck]
    refine supports_processResponse shared h ?_ ?_
    · intro _ _ _ _ ctx' h'
      exact h'.dispatch _
    · intro ack
      exact h.dispatch _
  | cancelAllOpenOrders symbol marginMode requestId =>
    rw [onResponse,cancelAllOpenOrdersAck]
    refine supports_processResponse shared h ?_ ?_
    · intro _ _ _ _ ctx' h'
      exact h'.dispatch _
    · intro ack
      exact (h.dispatchAll _).dispatch _

end OrderEntryMargin

namespace DropCopyMargin
variable {ctx : Ctx} (t : TraceInfo)

/-- The user stream asks for downloads of the cross margin only. -/
theorem unasked_post (r : Request) (k : Kind) (hk : Asks k) (h : r.Unasked) :
    (r.post k t.originCreateTime).Unasked := by
  refine h.post ?_ _
  cases k <;> first | exact hk.elim | exact id

theorem unasked_onTimer (refresh : Bool) (h : ctx.request.Unasked) :
    (onTimer t refresh ctx).request.Unasked := request_onTimer (unasked_post t) refresh h

theorem unasked_onSocket (shared : Shared) (event : SocketEvent) (h : ctx.request.Unasked) :
    (onSocket shared t event ctx).request.Unasked :=
  request_onSocket (unasked_post t) shared event h

end DropCopyMargin

namespace WebSocket
variable (shared : Shared) (t : TraceInfo) {r : Request} {ctx : Ctx}

theorem request_downloadState :
    Download.Kept (downloadState shared t) fun ctx => ctx.request = r := by
  intro state ctx h
  cases state with
  | myTrades =>
    simp only [downloadState, myTrades]
    split_ifs
    · exact List.foldlRecOn (motive := fun ctx : Ctx => ctx.request = r) _ _ h fun _ hc _ _ => hc
    · exact h
  | _ => exact h

theorem request_onReply {α : Type} (state : State) {successHandler : α → Ctx → Ctx}
    (reply : WSAPIReply α) (retryNow : Bool)
    (hs : (successHandler reply.result ctx).request = ctx.request) :
    (onReply shared t state successHandler reply retryNow ctx).request = ctx.request := by
  unfold onReply
  split_ifs
  · exact (request_downloadState shared t).check state hs
  · exact (request_downloadState shared t).retry states retryNow state rfl

theorem request_onOpenOrders (orders : List Order) (ctx : Ctx) :
    (onOpenOrders shared orders ctx).request = ctx.request := by
  refine List.foldlRecOn (motive := fun ctx' : Ctx => ctx'.request = ctx.request) _ _ rfl ?_
  intro ctx' h order _
  unfold onOpenOrder
  split_ifs
  · exact h
  · exact h

/-- The stream does not have the request of its account. -/
theorem request_onMessage (message : WSAPIMessage) (order : MatchedOrder) (retryNow : Bool)
    (ctx : Ctx) : (onMessage shared t message order retryNow ctx).request = ctx.request := by
  cases message with
  | sessionLogon reply => exact request_onReply shared t _ reply retryNow rfl
  | userDataStreamSubscribe reply => exact request_onReply shared t _ reply retryNow rfl
  | account reply => exact request_onReply shared t _ reply retryNow rfl
  | openOrders reply =>
    exact request_onReply shared t _ reply retryNow (request_onOpenOrders shared _ ctx)
  | trades reply => exact request_onReply shared t _ reply retryNow rfl
  | orderPlace reply request =>
    simp only [onMessage, onOrderPlace]
    split_ifs <;> rfl
  | orderAmendKeepPriority reply request =>
    simp only [onMessage, onOrderAmendKeepPriority]
    split_ifs <;> rfl
  | cancelOrder reply request =>
    simp only [onMessage, onCancelOrder]
    split_ifs <;> rfl
  | cancelOpenOrders reply request =>
    simp only [onMessage, onCancelOpenOrders]
    split_ifs <;> rfl
  | _ => rfl

theorem request_onSocket (p : WSAPIParsers) (event : SocketEvent) (ctx : Ctx) :
    (onSocket shared p t event ctx).request = ctx.request := by
  cases event with
  | ready => exact (request_downloadState shared t).begin states rfl
  | disconnected => rfl
  | text message order retryNow =>
    simp only [onSocket, parse]
    split
    · exact request_onMessage shared t _ order retryNow ctx
    · rfl
    · rfl
    · rfl

theorem request_onRequest (request : ClientRequest) (ctx : Ctx) :
    (onRequest shared request ctx).1.request = ctx.request := by
  cases request with
  | createOrder info request params =>
    simp only [onRequest, orderPlace]
    split_ifs
    · rfl
    · split <;> rfl
  | modifyOrder info request params =>
    simp only [onRequest, orderAmendKeepPriority]
    split_ifs <;> rfl
  | cancelOrder info request params =>
    simp only [onRequest, orderCancel]
    split_ifs
    · rfl
    · split <;> rfl
  | cancelAllOrders info request requestId =>
    simp only [onRequest, openOrdersCancelAll]
    split_ifs
    · rfl
    · refine List.foldlRecOn (motive := fun ctx' : Ctx => ctx'.request = ctx.request) _ _ rfl ?_
      intro ctx' h symbol _
      split_ifs
      · exact h
      · exact h

end WebSocket

namespace Controller

def Call.Supported : Call → Prop
  | .margin call => OrderEntryMargin.Call.Supported call
  | _ => True

/-- The other stream of an account with a margin stream is a spot stream, and the downloads of
the spot wallet have never been asked for. -/
def Separate (s : Controller) : Prop :=
  ∀ account, (s.orderEntryMargin account).isSome →
    (s.request account).Unasked ∧ (s.orderEntry account).map OrderEntry.wallet = some .spot

structure Separates (r : Result) : Prop where
  separate : Separate r.controller
  sent : ∀ call, Output.send call ∈ r.outputs → call.Supported

theorem Separates.same {s : Controller} (h : Separate s) (e : Option Exception) :
    Separates ⟨s,[],e⟩ :=
  ⟨h,fun _ hm => by cases hm⟩

/-- A call that has been put out is one that the stream has sent. -/
theorem exists_sent {C : Type} {wrap : C → Call} {outputs : List (Output C)} {call : Call}
    (h : Output.send call ∈ outputs.map (Output.map wrap)) :
    ∃ c, Output.send c ∈ outputs ∧ call = wrap c := by
  obtain ⟨output,hm,he⟩ := List.mem_map.mp h
  cases output <;> cases he
  exact ⟨_,hm,rfl⟩

section
variable {s : Controller} (h : Separate s) {account : String}
include h

theorem separates_callWebSocket (self : WebSocket)
    {f : WebSocket.Ctx → WebSocket.Ctx × Option Exception}
    (hf : ∀ ctx, (f ctx).1.request = ctx.request) :
    Separates (callWebSocket account f self s) := by
  refine ⟨?_,?_⟩
  · intro name hm
    obtain ⟨hrequest,hwallet⟩ := h name hm
    simp only [callWebSocket, call, putOrderEntry, Function.update_apply]
    split_ifs with hn
    · rw [hf]
      exact ⟨hn ▸ hrequest,rfl⟩
    · exact ⟨hrequest,hwallet⟩
  · intro call hm
    obtain ⟨frame,-,rfl⟩ := exists_sent hm
    trivial

/-- An account with a portfolio stream has no margin stream. -/
theorem separates_callPortfolio {self : OrderEntryPortfolio}
    (hs : s.orderEntry account = some (.portfolio self))
    (f : OrderEntryPortfolio.Ctx → OrderEntryPortfolio.Ctx × Option Exception) :
    Separates (callPortfolio account f self s) := by
  refine ⟨?_,?_⟩
  · intro name hm
    obtain ⟨hrequest,hwallet⟩ := h name hm
    simp only [callPortfolio, call, putOrderEntry, Function.update_apply]
    split_ifs with hn
    · rw [hn,hs] at hwallet
      cases hwallet
    · exact ⟨hrequest,hwallet⟩
  · intro call hm
    obtain ⟨call,-,rfl⟩ := exists_sent hm
    trivial

theorem separates_callMargin {self : OrderEntryMargin}
    (hs : s.orderEntryMargin account = some self)
    {f : OrderEntryMargin.Ctx → OrderEntryMargin.Ctx × Option Exception}
    (hf : ∀ ctx, OrderEntryMargin.Supports ctx → OrderEntryMargin.Supports (f ctx).1) :
    Separates (callMargin account f self s) ∧
      Output.fatal "Unexpected" ∉ (callMargin account f self s).outputs := by
  have hstart : OrderEntryMargin.Supports ⟨self,s.request account,[]⟩ :=
    ⟨(h account (by rw [hs]; rfl)).1,fun _ hm => by cases hm⟩
  have hend := hf _ hstart
  refine ⟨⟨?_,?_⟩,?_⟩
  · intro name hm
    simp only [callMargin, call, putOrderEntryMargin, Function.update_apply] at hm ⊢
    split_ifs with hn
    · subst hn
      exact ⟨hend.request,(h name (by rw [hs]; rfl)).2⟩
    · rw [if_neg hn] at hm
      exact h name hm
  · intro call hm
    obtain ⟨call,hsent,rfl⟩ := exists_sent hm
    exact hend.outputs _ hsent
  · intro hm
    obtain ⟨output,ho,he⟩ := List.mem_map.mp hm
    cases output <;> cases he
    exact hend.outputs _ ho rfl

variable (shared : Shared)

theorem separates_requestOrderEntry {entry : OrderEntry} (hs : s.orderEntry account = some entry)
    (webSocket : WebSocket.ClientRequest) (portfolio : OrderEntryPortfolio.ClientRequest) :
    Separates (requestOrderEntry shared account webSocket portfolio entry s) := by
  cases entry with
  | webSocket self =>
    exact separates_callWebSocket h self (WebSocket.request_onRequest shared webSocket)
  | portfolio self => exact separates_callPortfolio h hs _

theorem separates_requestMargin {self : OrderEntryMargin}
    (hs : s.orderEntryMargin account = some self) (margin : OrderEntryMargin.ClientRequest) :
    Separates (requestMargin shared account margin self s) :=
  (separates_callMargin h hs fun _ hc => OrderEntryMargin.supports_onRequest shared margin hc).1

theorem separates_route (marginMode : MarginMode) (webSocket : WebSocket.ClientRequest)
    (portfolio : OrderEntryPortfolio.ClientRequest) (margin : OrderEntryMargin.ClientRequest) :
    Separates (route shared account marginMode webSocket portfolio margin s) := by
  unfold route
  split
  · next entry hs =>
    exact separates_requestOrderEntry h shared (orderEntry_of_getOrderEntry hs) _ _
  · next self hs => exact separates_requestMargin h shared (margin_of_getOrderEntry hs) _
  · exact Separates.same h _

theorem separates_cancelAllOrders (info : MessageInfo) (request : CancelAllOrders)
    (requestId : String) : Separates (cancelAllOrders shared info request requestId s) := by
  have hfirst : Separates (helper (s.orderEntry request.account)
      (requestOrderEntry shared request.account (.cancelAllOrders info request requestId)
        (.cancelAllOrders request requestId)) s) := by
    unfold helper
    split
    · next entry hs => exact separates_requestOrderEntry h shared hs _ _
    · exact Separates.same h _
  unfold cancelAllOrders Result.andThen
  split
  · exact hfirst
  · have hsecond : ∀ s', Separate s' → Separates (helper (s'.orderEntryMargin request.account)
        (requestMargin shared request.account (.cancelAllOrders request requestId)) s') := by
      intro s' h'
      unfold helper
      split
      · next self hs => exact separates_requestMargin h' shared hs _
      · exact Separates.same h' _
    have hboth := hsecond _ hfirst.separate
    refine ⟨hboth.separate,?_⟩
    intro call hm
    rcases List.mem_append.mp hm with hm | hm
    · exact hfirst.sent call hm
    · exact hboth.sent call hm

end

theorem nodup_createAccounts (accounts : List Account) :
    ((createAccounts accounts).map Account.name).Nodup := by
  refine List.foldlRecOn (motive := fun result : List Account => (result.map Account.name).Nodup) accounts _
    List.nodup_nil ?_
  intro result h account _
  split_ifs with hm
  · exact h
  · rw [List.map_append,List.map_singleton,← List.concat_eq_append]
    exact List.Nodup.concat hm h

theorem mem_of_createStreams {α : Type} {create : ℕ → Account → α} {streamId : ℕ}
    {accounts : List Account} {name : String} {x : α}
    (h : createStreams create streamId accounts name = some x) :
    ∃ streamId, ∃ account ∈ accounts, account.name = name ∧ x = create streamId account := by
  obtain ⟨y,hm,hy⟩ := List.exists_of_findSome?_eq_some h
  split_ifs at hy with hn
  exact ⟨y.2,y.1,List.fst_mem_of_mem_zipIdx hm,hn,(Option.some.inj hy).symm⟩

theorem createStreams_isSome {α : Type} (create : ℕ → Account → α) (streamId : ℕ)
    {accounts : List Account} {account : Account} (h : account ∈ accounts) :
    (createStreams create streamId accounts account.name).isSome := by
  rw [← List.zipIdx_map_fst streamId accounts] at h
  obtain ⟨x,hx,rfl⟩ := List.mem_map.mp h
  rw [createStreams,List.findSome?_isSome_iff]
  exact ⟨x,hx,by simp⟩

/-- Only an account without a margin stream gets a portfolio stream. -/
theorem separate_create (experimentalDropMargin : Bool) {accounts : List Account}
    (h : (accounts.map Account.name).Nodup) :
    Separate (create experimentalDropMargin accounts) := by
  intro name hm
  refine ⟨Request.unasked_empty,?_⟩
  obtain ⟨self,hself⟩ := Option.isSome_iff_exists.mp hm
  have hstream : createStreams (fun streamId account => OrderEntryMargin.create streamId account.name)
      (2+accounts.length) (marginAccounts experimentalDropMargin accounts) name = some self := hself
  obtain ⟨-,account,hmargin,rfl,-⟩ := mem_of_createStreams hstream
  obtain ⟨hmem,hmode⟩ : account ∈ accounts ∧ account.marginMode ≠ .portfolio := by
    unfold marginAccounts at hmargin
    split_ifs at hmargin
    · cases hmargin
    · simpa using hmargin
  obtain ⟨entry,hentry⟩ := Option.isSome_iff_exists.mp (createStreams_isSome createOrderEntry 2 hmem)
  obtain ⟨streamId,account',hmem',hname,rfl⟩ := mem_of_createStreams hentry
  obtain rfl := List.inj_on_of_nodup_map h hmem' hmem hname
  change (createStreams createOrderEntry 2 accounts account'.name).map OrderEntry.wallet = _
  rw [hentry]
  unfold createOrderEntry
  split
  · rfl
  · rfl
  · rfl
  · contradiction

end Controller

namespace Routing

/-- The margin streams are kept apart from the downloads of the spot wallet. -/
structure Apart (s : Routing) : Prop where
  consistent : Consistent s
  separate : s.controller.Separate
  inFlight : ∀ job ∈ s.inFlight, job.2.Supported

section
variable {shared : Shared} {p : WSAPIParsers} {t : TraceInfo} {s s' : Routing}
  {r : Controller.Result}

theorem separates_step (h : Apart s) {event : Event} {e : Controller.Event}
    (hjob : ∀ job, event.job = some job → job ∈ s.inFlight)
    (he : s.controllerEvent event = some e)
    (hr : Controller.step shared p t e s.controller = some r) :
    Controller.Separates r ∧
      ∀ account event', event = .margin account event' → Output.fatal "Unexpected" ∉ r.outputs := by
  have hsep := h.separate
  cases event with
  | createOrder info request text =>
    cases he
    cases hr
    exact ⟨Controller.separates_route hsep shared _ _ _ _,fun _ _ hm => by cases hm⟩
  | modifyOrder info request key text =>
    simp only [controllerEvent] at he
    split_ifs at he
    obtain ⟨marginMode,-,rfl⟩ := Option.map_eq_some_iff.mp he
    cases hr
    exact ⟨Controller.separates_route hsep shared _ _ _ _,fun _ _ hm => by cases hm⟩
  | cancelOrder info request key text =>
    simp only [controllerEvent] at he
    split_ifs at he
    obtain ⟨marginMode,-,rfl⟩ := Option.map_eq_some_iff.mp he
    cases hr
    exact ⟨Controller.separates_route hsep shared _ _ _ _,fun _ _ hm => by cases hm⟩
  | cancelAllOrders info request requestId =>
    cases he
    cases hr
    exact ⟨Controller.separates_cancelAllOrders hsep shared info request requestId,
      fun _ _ hm => by cases hm⟩
  | webSocket account event =>
    cases he
    simp only [Controller.step] at hr
    split at hr
    · next self hs =>
      cases hr
      exact ⟨Controller.separates_callWebSocket hsep self (WebSocket.request_onSocket shared t p event),
        fun _ _ hm => by cases hm⟩
    · cases hr
  | portfolio account event =>
    cases he
    simp only [Controller.step] at hr
    split at hr
    · next self hs =>
      cases hr
      exact ⟨Controller.separates_callPortfolio hsep hs _,fun _ _ hm => by cases hm⟩
    · cases hr
  | margin account event =>
    cases he
    obtain ⟨self,hs,rfl⟩ := Option.map_eq_some_iff.mp hr
    refine And.imp_right (fun hfatal _ _ _ => hfatal) (Controller.separates_callMargin hsep hs ?_)
    intro ctx hc
    cases event with
    | timer timerNow refresh => exact OrderEntryMargin.supports_onTimer shared timerNow refresh hc
    | connected => exact OrderEntryMargin.supports_onConnected hc
    | disconnected => exact OrderEntryMargin.supports_onDisconnected hc
    | response call response retryNow =>
      have hcall := h.inFlight _ (hjob (account,.margin call) rfl)
      exact OrderEntryMargin.supports_onResponse shared t hcall response retryNow hc
  | dropCopy account event => cases he
  | dropCopyMarginTimer account refresh => cases he
  | dropCopyMarginSocket account event => cases he

@[simp] theorem listenKeyUpdate_inFlight (s : Routing) (update : ListenKeyUpdate) :
    (s.listenKeyUpdate update).inFlight = s.inFlight := by
  unfold listenKeyUpdate listenKeyUpdate.margin
  split
  · rfl
  · split <;> rfl
  · split <;> rfl
  · split <;> rfl

theorem foldl_listenKeyUpdate_frame (updates : List ListenKeyUpdate) (s : Routing) :
    (updates.foldl listenKeyUpdate s).controller = s.controller ∧
      (updates.foldl listenKeyUpdate s).inFlight = s.inFlight := by
  induction updates generalizing s with
  | nil => exact ⟨rfl,rfl⟩
  | cons update updates ih => simpa using ih (s.listenKeyUpdate update)

theorem apart_controllerPhase {oms : Oms} (h : Apart s) (hc : Consistent s') {event : Event}
    (hs : controllerPhase oms shared p t event s = some s') : Apart s' := by
  unfold controllerPhase at hs
  split_ifs at hs with hjob
  obtain ⟨e,he,hs⟩ := Option.bind_eq_some_iff.mp hs
  obtain ⟨r,hr,hs⟩ := Option.bind_eq_some_iff.mp hs
  have hinFlight : ∀ job, event.job = some job → job ∈ s.inFlight := by
    intro job hj
    simpa [hj] using hjob
  have hsep := (separates_step h hinFlight he hr).1
  unfold settle at hs
  split_ifs at hs
  obtain rfl := Option.some.inj hs
  refine ⟨hc,?_,?_⟩
  · rw [(foldl_listenKeyUpdate_frame _ _).1]
    exact hsep.separate
  · rw [(foldl_listenKeyUpdate_frame _ _).2]
    intro job hm
    rcases List.mem_append.mp hm with hm | hm
    · refine h.inFlight job ?_
      cases hj : event.job with
      | none => rwa [hj] at hm
      | some j =>
        rw [hj] at hm
        exact List.mem_of_mem_erase hm
    · obtain ⟨call,hcall,rfl⟩ := List.mem_map.mp hm
      obtain ⟨output,ho,hsent⟩ := List.mem_filterMap.mp hcall
      cases output <;> cases hsent
      exact hsep.sent _ ho

/-- A portfolio user stream asks for the downloads of an account without a margin stream. -/
theorem separate_dropCopy (h : Apart s) {account : String} {d : DropCopyPortfolio}
    (hd : s.dropCopy account = some d) (request : Request) :
    Controller.Separate
      {s.controller with request := Function.update s.controller.request account request} := by
  have hv := (h.consistent.dropCopy account d hd).2
  intro name hm
  obtain ⟨hrequest,hwallet⟩ := h.separate name hm
  refine ⟨?_,hwallet⟩
  simp only [Function.update_apply]
  split_ifs with hn
  · rw [Controller.venue_portfolio,← hn,hwallet] at hv
    cases hv
  · exact hrequest

theorem separate_dropCopyMargin (h : Apart s) {account : String} {request : Request}
    (hr : (s.controller.request account).Unasked → request.Unasked) :
    Controller.Separate
      {s.controller with request := Function.update s.controller.request account request} := by
  intro name hm
  obtain ⟨hrequest,hwallet⟩ := h.separate name hm
  refine ⟨?_,hwallet⟩
  simp only [Function.update_apply]
  split_ifs with hn
  · subst hn
    exact hr hrequest
  · exact hrequest

theorem apart_next {oms : Oms} {e : Timed Event} (h : Apart s)
    (hn : next oms shared p s e = some s') : Apart s' := by
  have hc := consistent_next h.consistent hn
  obtain ⟨t,event⟩ := e
  cases event with
  | dropCopy account event =>
    obtain ⟨d,hd,rfl⟩ := dropCopyPhase_eq_some hn
    exact ⟨hc,separate_dropCopy h hd _,h.inFlight⟩
  | dropCopyMarginTimer account refresh =>
    obtain ⟨d,-,rfl⟩ := dropCopyPhase_eq_some hn
    exact ⟨hc,separate_dropCopyMargin h fun hr => DropCopyMargin.unasked_onTimer t refresh hr,
      h.inFlight⟩
  | dropCopyMarginSocket account event =>
    obtain ⟨d,-,rfl⟩ := dropCopyPhase_eq_some hn
    exact ⟨hc,separate_dropCopyMargin h fun hr => DropCopyMargin.unasked_onSocket t shared event hr,
      h.inFlight⟩
  | createOrder info request text => exact apart_controllerPhase h hc hn
  | modifyOrder info request key text => exact apart_controllerPhase h hc hn
  | cancelOrder info request key text => exact apart_controllerPhase h hc hn
  | cancelAllOrders info request requestId => exact apart_controllerPhase h hc hn
  | webSocket account event => exact apart_controllerPhase h hc hn
  | portfolio account event => exact apart_controllerPhase h hc hn
  | margin account event => exact apart_controllerPhase h hc hn

end

/-- Whatever happens next, no branch for an undefined or unsupported margin mode is reached. -/
structure Supported (shared : Shared) (p : WSAPIParsers) (s : Routing) : Prop where
  unasked : ∀ account, (s.controller.orderEntryMargin account).isSome →
    (s.controller.request account).Unasked
  margin : ∀ t account event r, (Event.margin account event).job.all (· ∈ s.inFlight) →
    Controller.step shared p t (.margin account event) s.controller = some r →
    Output.fatal "Unexpected" ∉ r.outputs
  listenKeyUpdate : ∀ t event e r, event.job.all (· ∈ s.inFlight) →
    s.controllerEvent event = some e → Controller.step shared p t e s.controller = some r →
    ∀ update ∈ listenKeyUpdates r.outputs, update.marginMode ≠ .undefined

/-- No run ends the process over a margin mode, whichever margin modes the accounts have. -/
theorem margin_modes_supported (oms : Oms) (shared : Shared) (p : WSAPIParsers)
    (experimentalDropMargin : Bool) (accounts : List Controller.Account) {s : Routing}
    (hs : (machine oms shared p experimentalDropMargin
      (Controller.createAccounts accounts)).Reachable s) : Supported shared p s := by
  have hpreserves : (machine oms shared p experimentalDropMargin
      (Controller.createAccounts accounts)).Preserves Apart := fun s e s' h hn => apart_next h hn
  have h := hpreserves.reachable
    ⟨consistent_create _ _,
      Controller.separate_create _ (Controller.nodup_createAccounts accounts),
      fun _ hm => by cases hm⟩ hs
  have hinFlight : ∀ event : Event, event.job.all (· ∈ s.inFlight) →
      ∀ job, event.job = some job → job ∈ s.inFlight := by
    intro event hjob job hj
    simpa [hj] using hjob
  refine ⟨fun account hm => (h.separate account hm).1,?_,?_⟩
  · intro t account event r hjob hr
    exact (separates_step h (hinFlight _ hjob) rfl hr).2 account event rfl
  · intro t event e r hjob he hr update hm hmode
    obtain ⟨output,ho,hkey⟩ := List.mem_filterMap.mp hm
    cases output <;> cases hkey
    rcases ((sound_step h.consistent (hinFlight _ hjob) he hr).outputs _ ho).2 with ⟨hk,-⟩ | ⟨hk,-⟩
    · rw [hmode] at hk
      cases hk
    · rw [hmode] at hk
      cases hk

/-- With a listen key of the margin wallet asked for. -/
theorem margin_modes_supported_connected :
    ∃ s, s.inFlight = [("A1",.margin (.listenKey .cross))] ∧ Supported Shared.sample .sample s := by
  have hrun : ((machine .sample Shared.sample .sample false
      (Controller.createAccounts [⟨"A1",.cross⟩,⟨"A2",.portfolio⟩])).run
      (create false (Controller.createAccounts [⟨"A1",.cross⟩,⟨"A2",.portfolio⟩]))
      [⟨⟨1,0⟩,.margin "A1" .connected⟩]).any
        fun s => (s.inFlight = [("A1",.margin (.listenKey .cross))] : Bool) := by
    decide +kernel
  obtain ⟨s,hs,hp⟩ := Machine.exists_reachable _ hrun
  exact ⟨s,of_decide_eq_true hp,margin_modes_supported _ _ _ _ _ hs⟩

end Routing
end RoqBinance.Gateway
