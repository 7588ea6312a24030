import RoqBinance.Gateway.Keeps
import RoqBinance.Gateway.Ledger
import RoqBinance.Gateway.OrderEntryMargin
import RoqBinance.Gateway.DropCopyMargin

/-! The margin wallet of an account: its order entry and its user stream, which the
controller creates when the first listen key arrives. -/
namespace RoqBinance.Gateway
open Library Protocol.Json

namespace OrderEntryMargin

def identity (self : OrderEntryMargin) : ℕ × String := (self.streamId,self.account)

/-- The identity, and what only a successful listen-key response changes. -/
def keyView (ctx : Ctx) : (ℕ × String) × Bool × List ListenKeyUpdate :=
  (ctx.self.identity,ctx.self.hasListenKeyCross,listenKeyUpdates ctx.outputs)

/-- The same, and what only the sequencer changes. -/
def view (ctx : Ctx) : ((ℕ × String) × Bool × List ListenKeyUpdate) × Download State :=
  (keyView ctx,ctx.self.download)

theorem indifferent : Indifferent view where
  emit ctx output ho := by simp [view, keyView, listenKeyUpdates, List.filterMap_append, ho]
  reply _ _ _ := rfl

theorem view_setDownload (k : Kind) (value : Bool) (ctx : Ctx) :
    view (ctx.modify (setDownload k value)) = view ctx := by cases k <;> rfl

theorem keeps_onConnectionStatus {ctx ctx' : Ctx} (h : Keeps view ctx ctx')
    (status : ConnectionStatus) (reason : String) :
    Keeps view ctx (onConnectionStatus status reason ctx') := by
  refine Keeps.dispatch indifferent ?_ _
  exact ⟨h.view,h.request⟩

theorem keeps_getListenKey (marginMode : MarginMode) {ctx ctx' : Ctx} (h : Keeps view ctx ctx') :
    Keeps view ctx (getListenKey marginMode ctx') := by
  cases marginMode <;> exact h.emit indifferent rfl

theorem keeps_downloadState (state : State) (ctx : Ctx) :
    Keeps view ctx (downloadState state ctx).1 := by
  have h := keeps_onConnectionStatus (Keeps.refl ctx)
  cases state with
  | listenKey =>
    rw [downloadState]
    split_ifs
    · exact Keeps.refl ctx
    · exact keeps_getListenKey .cross (h .downloading "LISTEN_KEY")
  | done => exact ⟨(h .ready "").view,(h .ready "").request⟩

theorem kept_keeps (ctx₀ : Ctx) :
    Download.Kept downloadState (Keeps keyView ctx₀) :=
  fun state ctx h => h.trans ((keeps_downloadState state ctx).comp Prod.fst)

theorem keeps_sequencer {f : Download State → Ctx → Download State × Ctx} {ctx₀ ctx : Ctx}
    (h : Keeps keyView ctx₀ (f ctx.self.download ctx).2) : Keeps keyView ctx₀ (sequencer f ctx) :=
  ⟨h.view,h.request⟩

theorem keeps_onConnected (ctx : Ctx) : Keeps keyView ctx (onConnected ctx) := by
  unfold onConnected
  split_ifs
  · exact keeps_sequencer ((kept_keeps ctx).bump (Keeps.refl ctx))
  · exact keeps_sequencer ((kept_keeps ctx).begin states (Keeps.refl ctx))

theorem keeps_onDisconnected (ctx : Ctx) : Keeps keyView ctx (onDisconnected ctx) := by
  have hready : Keeps view ctx (ctx.modify fun self => {self with ready := false}) := ⟨rfl,rfl⟩
  have h := (keeps_onConnectionStatus hready .disconnected "").comp Prod.fst
  exact ⟨h.view,h.request⟩

theorem keeps_getAccount (marginMode : MarginMode) (ctx : Ctx) :
    Keeps view ctx (getAccount marginMode ctx) := by
  cases marginMode <;> exact (Keeps.refl ctx).emit indifferent rfl

theorem keeps_getOpenOrders (marginMode : MarginMode) (ctx : Ctx) :
    Keeps view ctx (getOpenOrders marginMode ctx) := by
  cases marginMode <;> exact (Keeps.refl ctx).emit indifferent rfl

variable (shared : Shared)

theorem keeps_getTrades (marginMode : MarginMode) (ctx : Ctx) :
    Keeps view ctx (getTrades shared marginMode ctx) := by
  refine Keeps.foldl (fun ctx symbol => ?_) shared.settings.downloadSymbols ctx
  exact (Keeps.refl ctx).send indifferent _

theorem keeps_get (k : Kind) (ctx : Ctx) : Keeps view ctx (get shared k ctx) := by
  cases k with
  | account => exact keeps_getAccount .undefined ctx
  | orders => exact keeps_getOpenOrders .undefined ctx
  | trades => exact keeps_getTrades shared .undefined ctx
  | listenKeyCross => exact keeps_getListenKey .cross (Keeps.refl ctx)
  | accountCross => exact keeps_getAccount .cross ctx
  | ordersCross => exact keeps_getOpenOrders .cross ctx
  | tradesCross => exact keeps_getTrades shared .cross ctx

theorem keeps_start (ctx : Ctx) (k : Kind) : Keeps view ctx (start shared ctx k) := by
  unfold start
  split_ifs
  · exact (keeps_get shared k ctx).modify (view_setDownload k true _)
  · exact Keeps.refl ctx

theorem keeps_pollBorrowed (timerNow : ℕ) (ctx : Ctx) :
    Keeps view ctx (pollBorrowed shared timerNow ctx) := by
  unfold pollBorrowed
  split_ifs
  · exact ((Keeps.refl ctx).send indifferent _).modify rfl
  · exact Keeps.refl ctx

theorem keeps_startAll (timerNow : ℕ) (ctx : Ctx) : Keeps view ctx (startAll shared timerNow ctx) :=
  (Keeps.foldl (keeps_start shared) kinds ctx).trans (keeps_pollBorrowed shared timerNow _)

theorem keeps_onTimer (timerNow : ℕ) (refresh : Bool) (ctx : Ctx) :
    Keeps view ctx (onTimer shared timerNow refresh ctx) := by
  unfold onTimer
  split_ifs
  · exact keeps_startAll shared timerNow ctx
  · exact Keeps.refl ctx

theorem keeps_onRequest (request : ClientRequest) (ctx : Ctx) :
    Keeps view ctx (onRequest shared request ctx).1 := by
  have h : Keeps view ctx ctx := Keeps.refl ctx
  cases request with
  | createOrder info request body =>
    simp only [onRequest, newOrder]
    split_ifs
    · exact h
    · split
      · exact ⟨rfl,rfl⟩
      · refine Keeps.send indifferent ?_ _
        exact ⟨rfl,rfl⟩
  | modifyOrder info request => exact h
  | cancelOrder info request marginMode body =>
    simp only [onRequest, cancelOrder]
    split
    · exact h
    · split
      · exact h
      · split
        · exact h
        · exact h.send indifferent _
  | cancelAllOrders request requestId =>
    simp only [onRequest, cancelAllOpenOrders]
    split_ifs
    · exact h
    · refine Keeps.foldl (fun ctx symbol => ?_) _ ctx
      split_ifs
      · exact Keeps.refl ctx
      · exact (((Keeps.refl ctx).send indifferent _).send indifferent _).dispatch indifferent _

theorem keeps_onOpenOrdersAck (ack : OpenOrdersAck) (marginMode : MarginMode) (ctx : Ctx) :
    Keeps view ctx (onOpenOrdersAck shared ack marginMode ctx) := by
  refine Keeps.foldl (fun ctx order => ?_) ack.data ctx
  unfold onOpenOrder
  split_ifs
  · exact Keeps.refl ctx
  · exact ((Keeps.refl ctx).modify rfl).dispatch indifferent _

def Call.kind : Call → Option Kind
  | .listenKey _ => some .listenKeyCross
  | .account .undefined => some .account
  | .account .cross => some .accountCross
  | .account _ => none
  | .openOrders .undefined => some .orders
  | .openOrders .cross => some .ordersCross
  | .openOrders _ => none
  | .trades .undefined _ _ _ => some .trades
  | .trades .cross _ _ _ => some .tradesCross
  | .trades _ _ _ _ => none
  | .accountCrossOnTimer => some .accountCross
  | .newOrder _ _ _ => none
  | .cancelOrder _ _ _ _ => none
  | .cancelAllOpenOrders _ _ _ => none

variable {t : TraceInfo} {ctx ctx' : Ctx}

theorem answers_completion (h : Keeps view ctx ctx') (k : Kind) :
    Answers view t (some k) ctx (completion k t ctx') :=
  h.reply indifferent k (view_setDownload k false)

theorem answers_completionOnTimer (h : Keeps view ctx ctx') :
    Answers view t (some .accountCross) ctx (completionOnTimer t ctx') :=
  h.reply indifferent .accountCross fun _ => rfl

theorem keeps_limit (forbidden : Bool) (retryAfter : ℕ) (ctx : Ctx) :
    Keeps view ctx (limit shared forbidden retryAfter ctx) := by
  unfold limit
  split_ifs
  · exact (Keeps.refl ctx).wafLimitViolation indifferent shared
  · exact Keeps.refl ctx

theorem answers_processResponse {α : Type} {decode : Body → Except String α}
    {response : RestResponse}
    {errorHandler : Origin → RequestStatus → Error → String → Ctx → Ctx}
    {successHandler : α → Ctx → Ctx} {o : Option Kind} {ctx : Ctx}
    (herror : ∀ origin status error text ctx', Keeps view ctx ctx' →
      Answers view t o ctx (errorHandler origin status error text ctx'))
    (hsuccess : ∀ value, Answers view t o ctx (successHandler value ctx)) :
    Answers view t o ctx
      (processResponse shared decode response errorHandler successHandler ctx) :=
  answers_processResponseWith indifferent
    (fun forbidden retryAfter => keeps_limit shared forbidden retryAfter ctx) herror hsuccess

theorem answers_completeOrders (h : Keeps view ctx ctx') (marginMode : MarginMode) :
    Answers view t (Call.openOrders marginMode).kind ctx (completeOrders t marginMode ctx') := by
  cases marginMode with
  | undefined => exact answers_completion h .orders
  | isolated => exact h.fatal indifferent _ _
  | cross => exact answers_completion h .ordersCross
  | portfolio => exact h.fatal indifferent _ _

theorem answers_completeTrades (h : Keeps view ctx ctx') (marginMode : MarginMode)
    (symbol : String) (lookback limit : ℕ) :
    Answers view t (Call.trades marginMode symbol lookback limit).kind ctx
      (completeTrades t marginMode ctx') := by
  cases marginMode with
  | undefined => exact answers_completion h .trades
  | isolated => exact h.fatal indifferent _ _
  | cross => exact answers_completion h .tradesCross
  | portfolio => exact h.fatal indifferent _ _

theorem answers_getAccountAck (marginMode : MarginMode) (response : RestResponse) (ctx : Ctx) :
    Answers view t (Call.account marginMode).kind ctx
      (getAccountAck shared t marginMode response ctx) := by
  have hall := (Keeps.refl (f := view) ctx).dispatchAll indifferent
  cases marginMode with
  | undefined =>
    refine answers_processResponse shared ?_ ?_
    · intro _ _ _ _ ctx' h; exact answers_completion h .account
    · intro ack; exact answers_completion (hall _) .account
  | isolated =>
    refine answers_processResponse shared ?_ ?_
    · intro _ _ _ _ ctx' h; exact h.fatal indifferent _ _
    · intro body; exact (Keeps.refl ctx).fatal indifferent _ _
  | cross =>
    refine answers_processResponse shared ?_ ?_
    · intro _ _ _ _ ctx' h; exact answers_completion h .accountCross
    · intro account; exact answers_completion (hall _) .accountCross
  | portfolio =>
    refine answers_processResponse shared ?_ ?_
    · intro _ _ _ _ ctx' h; exact h.fatal indifferent _ _
    · intro body; exact (Keeps.refl ctx).fatal indifferent _ _

theorem answers_getTradesAck (marginMode : MarginMode) (symbol : String) (lookback limit : ℕ)
    (response : RestResponse) (ctx : Ctx) :
    Answers view t (Call.trades marginMode symbol lookback limit).kind ctx
      (getTradesAck shared t marginMode response ctx) := by
  have hfirst : ∀ ctx : Ctx, view (ctx.modify (notFirst marginMode)) = view ctx := by
    intro ctx
    cases marginMode <;> rfl
  refine answers_processResponse shared ?_ ?_
  · intro _ _ _ _ ctx' h; exact answers_completeTrades h marginMode symbol lookback limit
  · intro ack
    have h := answers_completeTrades (t := t) (Keeps.refl ctx) marginMode symbol lookback limit
    exact ⟨(hfirst _).trans h.view,h.request⟩

/-- The callbacks other than that of a listen key. -/
theorem answers_onResponse_view {call : Call} (hcall : ∀ marginMode, call ≠ .listenKey marginMode)
    (response : RestResponse) (retryNow : Bool) (ctx : Ctx) :
    Answers view t call.kind ctx (onResponse shared t call response retryNow ctx) := by
  have hctx : Keeps view ctx ctx := Keeps.refl ctx
  cases call with
  | listenKey marginMode => exact absurd rfl (hcall marginMode)
  | account marginMode => exact answers_getAccountAck shared marginMode response ctx
  | openOrders marginMode =>
    rw [onResponse,getOpenOrdersAck]
    refine answers_processResponse shared ?_ ?_
    · intro _ _ _ _ ctx' h; exact answers_completeOrders h marginMode
    · intro ack
      exact answers_completeOrders (keeps_onOpenOrdersAck shared ack marginMode ctx) marginMode
  | trades marginMode symbol lookback limit =>
    exact answers_getTradesAck shared marginMode symbol lookback limit response ctx
  | accountCrossOnTimer =>
    rw [onResponse,getAccountCrossOnTimerAck]
    refine answers_processResponse shared ?_ ?_
    · intro _ _ _ _ ctx' h; exact answers_completionOnTimer h
    · intro account; exact answers_completionOnTimer (hctx.dispatchAll indifferent _)
  | newOrder body userId orderId =>
    rw [onResponse,newOrderAck]
    refine answers_processResponse shared ?_ ?_
    · intro _ _ _ _ ctx' h; exact (h.dispatch indifferent _).answers
    · intro ack; exact (hctx.dispatch indifferent _).answers
  | cancelOrder body userId orderId version =>
    rw [onResponse,cancelOrderAck]
    refine answers_processResponse shared ?_ ?_
    · intro _ _ _ _ ctx' h; exact (h.dispatch indifferent _).answers
    · intro ack; exact (hctx.dispatch indifferent _).answers
  | cancelAllOpenOrders symbol marginMode requestId =>
    rw [onResponse,cancelAllOpenOrdersAck]
    refine answers_processResponse shared ?_ ?_
    · intro _ _ error text ctx' h; exact (h.dispatch indifferent _).answers
    · intro ack; exact ((hctx.dispatchAll indifferent _).dispatch indifferent _).answers

/-- What a listen-key response does, by its class: a successful one passes the token on, an
error may have the sequencer ask again, and both complete the download. -/
theorem getListenKeyAck_cases (marginMode : MarginMode) (response : RestResponse)
    (retryNow : Bool) (ctx : Ctx) :
    ((getListenKeyAck shared t marginMode response retryNow ctx).outputs.any Output.isFatal = true ∧
      (getListenKeyAck shared t marginMode response retryNow ctx).self.identity =
        ctx.self.identity) ∨
    (∃ ack, (classify Body.listenKeyAckMargin response).value = some ack ∧ marginMode = .cross ∧
      getListenKeyAck shared t marginMode response retryNow ctx =
        completion .listenKeyCross t (sequencer (Download.check downloadState .listenKey)
          (onListenKeyAckMargin ack .cross ctx))) ∨
    ((classify Body.listenKeyAckMargin response).value = none ∧ ∃ ctx', Keeps view ctx ctx' ∧
      ctx'.self = ctx.self ∧ ctx'.outputs.filterMap Output.sent = ctx.outputs.filterMap Output.sent ∧
      getListenKeyAck shared t marginMode response retryNow ctx =
        completion .listenKeyCross t
          (sequencer (Download.retry downloadState states retryNow .listenKey) ctx')) := by
  simp only [getListenKeyAck, processResponse, processResponseWith]
  cases hc : classify Body.listenKeyAckMargin response with
  | success ack =>
    cases marginMode with
    | undefined => exact .inl ⟨by simp [onListenKeyAckMargin, getListenKey, Output.isFatal],rfl⟩
    | isolated => exact .inl ⟨by simp [onListenKeyAckMargin, getListenKey, Output.isFatal],rfl⟩
    | cross => exact .inr (.inl ⟨ack,rfl,rfl,rfl⟩)
    | portfolio => exact .inl ⟨by simp [onListenKeyAckMargin, Output.isFatal],rfl⟩
  | error origin status error text =>
    exact .inr (.inr ⟨rfl,ctx,Keeps.refl ctx,rfl,rfl,rfl⟩)
  | rateLimited forbidden retryAfter text =>
    refine .inr (.inr ⟨rfl,_,keeps_limit shared forbidden retryAfter ctx,?_,?_,rfl⟩)
    · unfold limit wafLimitViolation
      split_ifs <;> rfl
    · unfold limit wafLimitViolation
      split_ifs <;> simp [Output.sent]
  | fatal text => exact .inl ⟨by simp [Output.isFatal],rfl⟩

/-- What a listen-key download keeps of the context, after its sequencer has moved. -/
theorem answers_completion_key (h : Keeps keyView ctx ctx') (k : Kind) :
    Answers keyView t (some k) ctx (completion k t ctx') where
  view := (congrArg Prod.fst (view_setDownload k false _)).trans h.view
  request := .inr (congrArg (·.reply k t.originCreateTime) h.request)

theorem answers_onResponse (call : Call) (response : RestResponse) (retryNow : Bool) (ctx : Ctx) :
    Answers (fun ctx => ctx.self.identity) t call.kind ctx
      (onResponse shared t call response retryNow ctx) := by
  by_cases hcall : ∃ marginMode, call = .listenKey marginMode
  · obtain ⟨marginMode,rfl⟩ := hcall
    rw [onResponse]
    rcases getListenKeyAck_cases (t := t) shared marginMode response retryNow ctx with
      ⟨hfatal,hid⟩ | ⟨ack,-,-,h⟩ | ⟨-,ctx',hctx,-,-,h⟩
    · exact ⟨hid,.inl hfatal⟩
    · rw [h]
      have hc := keeps_sequencer ((kept_keeps _).check .listenKey
        (Keeps.refl (onListenKeyAckMargin ack .cross ctx)))
      have ha := (answers_completion_key (t := t) hc .listenKeyCross).comp Prod.fst
      exact ⟨ha.view,ha.request⟩
    · rw [h]
      exact (answers_completion_key (keeps_sequencer ((kept_keeps ctx).retry states retryNow
        .listenKey (hctx.comp Prod.fst))) .listenKeyCross).comp Prod.fst
  · have hcall' : ∀ marginMode, call ≠ .listenKey marginMode := fun m hm => hcall ⟨m,hm⟩
    exact (answers_onResponse_view shared hcall' response retryNow ctx).comp fun x => x.1.1

/-- The trades are only logged. -/
def snapshot (self : OrderEntryMargin) (call : Call) (response : RestResponse) :
    Option (List Dispatch) :=
  match call with
  | .listenKey _ => none
  | .account .undefined =>
    (classify Body.accountAck response).value.map fun ack => onAccountAck self ack .undefined
  | .account .cross =>
    (classify Body.crossMarginAccount response).value.map fun account =>
      onCrossMarginAccount self account .cross
  | .account _ => none
  | .openOrders marginMode =>
    (classify Body.openOrdersAck response).value.map fun ack =>
      (ordersOf ack).map fun order => orderUpdate shared self order marginMode .snapshot
  | .trades _ _ _ _ => (classify Body.tradesAck response).value.map fun _ => []
  | .accountCrossOnTimer => none
  | .newOrder _ _ _ => none
  | .cancelOrder _ _ _ _ => none
  | .cancelAllOpenOrders _ _ _ => none

variable {shared} {self : OrderEntryMargin}

/-- The updates depend on the stream by its identity only. -/
theorem orderUpdate_congr {self' : OrderEntryMargin} (h : self'.identity = self.identity)
    (order : Order) (marginMode : MarginMode) (updateType : UpdateType) :
    orderUpdate shared self' order marginMode updateType =
      orderUpdate shared self order marginMode updateType := by
  obtain ⟨hs,ha⟩ := Prod.mk.inj h
  simp only [orderUpdate, hs, ha]

theorem onAccountAck_congr {self' : OrderEntryMargin} (h : self'.identity = self.identity)
    (ack : AccountAck) (marginMode : MarginMode) :
    onAccountAck self' ack marginMode = onAccountAck self ack marginMode := by
  obtain ⟨hs,ha⟩ := Prod.mk.inj h
  simp only [onAccountAck, hs, ha]

theorem onCrossMarginAccount_congr {self' : OrderEntryMargin} (h : self'.identity = self.identity)
    (account : CrossMarginAccount) (marginMode : MarginMode) :
    onCrossMarginAccount self' account marginMode = onCrossMarginAccount self account marginMode := by
  obtain ⟨hs,ha⟩ := Prod.mk.inj h
  simp only [onCrossMarginAccount, hs, ha]

theorem onOpenOrdersAck_dispatched (ack : OpenOrdersAck) (marginMode : MarginMode) {ctx : Ctx}
    (hs : ctx.self.identity = self.identity) :
    (onOpenOrdersAck shared ack marginMode ctx).outputs.filterMap Output.dispatched =
      ctx.outputs.filterMap Output.dispatched ++
        (ordersOf ack).map fun order => orderUpdate shared self order marginMode .snapshot := by
  refine foldl_dispatched (I := fun ctx => ctx.self.identity = self.identity) ?_ ?_ ?_ ack.data hs
  · intro ctx order h
    unfold onOpenOrder
    split_ifs
    · exact h
    · exact h
  · intro ctx order hid
    exact if_pos (by simpa using hid)
  · intro ctx order h hid
    rw [onOpenOrder,if_neg (by simpa using hid),orderUpdate_congr h]
    rfl

theorem completeOrders_dispatched (marginMode : MarginMode) (ctx : Ctx) :
    (completeOrders t marginMode ctx).outputs.filterMap Output.dispatched =
      ctx.outputs.filterMap Output.dispatched := by
  cases marginMode <;> simp [completeOrders, completion, Output.dispatched]

theorem completeTrades_dispatched (marginMode : MarginMode) (ctx : Ctx) :
    (completeTrades t marginMode ctx).outputs.filterMap Output.dispatched =
      ctx.outputs.filterMap Output.dispatched := by
  cases marginMode <;> simp [completeTrades, completion, Output.dispatched]

/-- A response that has a snapshot dispatches it and nothing else. -/
theorem onResponse_dispatched (self : OrderEntryMargin) {call : Call} {response : RestResponse}
    {ctx : Ctx} {dispatched : List Dispatch} (hs : ctx.self.identity = self.identity) (ho : ctx.outputs = [])
    (h : snapshot shared self call response = some dispatched) (retryNow : Bool) :
    (onResponse shared t call response retryNow ctx).outputs.filterMap Output.dispatched =
      dispatched := by
  cases call with
  | listenKey marginMode => cases h
  | accountCrossOnTimer => cases h
  | newOrder body userId orderId => cases h
  | cancelOrder body userId orderId version => cases h
  | cancelAllOpenOrders symbol marginMode requestId => cases h
  | account marginMode =>
    cases marginMode with
    | isolated => cases h
    | portfolio => cases h
    | undefined =>
      obtain ⟨ack,hack,rfl⟩ := Option.map_eq_some_iff.mp h
      rw [onResponse,getAccountAck,processResponse,
        processResponseWith_success (Processed.value_eq_some.mp hack),onAccountAck_congr hs]
      exact dispatchAll_dispatched ho
    | cross =>
      obtain ⟨account,hack,rfl⟩ := Option.map_eq_some_iff.mp h
      rw [onResponse,getAccountAck,processResponse,
        processResponseWith_success (Processed.value_eq_some.mp hack),onCrossMarginAccount_congr hs]
      exact dispatchAll_dispatched ho
  | openOrders marginMode =>
    obtain ⟨ack,hack,rfl⟩ := Option.map_eq_some_iff.mp h
    rw [onResponse,getOpenOrdersAck,processResponse,
      processResponseWith_success (Processed.value_eq_some.mp hack),completeOrders_dispatched,
      onOpenOrdersAck_dispatched ack marginMode hs,ho]
    rfl
  | trades marginMode symbol lookback limit =>
    obtain ⟨ack,hack,rfl⟩ := Option.map_eq_some_iff.mp h
    rw [onResponse,getTradesAck,processResponse,
      processResponseWith_success (Processed.value_eq_some.mp hack),Context.modify_outputs,
      completeTrades_dispatched,ho]
    rfl

end OrderEntryMargin

namespace DropCopyMargin

/-- The downloads that the user stream asks for. -/
def Asks : Kind → Prop
  | .listenKeyCross => True
  | .accountCross => True
  | .ordersCross => True
  | _ => False

section
variable {t : TraceInfo} {P : Request → Prop} {ctx : Ctx}
  (hP : ∀ r k, Asks k → P r → P (r.post k t.originCreateTime))
include hP

theorem kept_request : Download.Kept (downloadState t) fun ctx => P ctx.request := by
  intro state ctx h
  cases state with
  | account => exact hP _ .accountCross trivial h
  | orders => exact hP _ .ordersCross trivial h
  | _ => exact h

theorem request_checkResponse (state : State) (k : Kind) (h : P ctx.request) :
    P (checkResponse t state k ctx).request := by
  unfold checkResponse
  split_ifs
  · exact h
  · exact (kept_request hP).check state h
  · exact h

theorem request_onTimer (refresh : Bool) (h : P ctx.request) :
    P (onTimer t refresh ctx).request := by
  have hkey : P (checkResponseListenKey ctx).request := by
    unfold checkResponseListenKey
    split_ifs
    · exact h
    · exact h
  unfold onTimer
  split_ifs
  · exact request_checkResponse hP _ _ (request_checkResponse hP _ _ hkey)
  · exact h

theorem request_onReply {α : Type} (state : State) (reply : WSAPIReply α) (retryNow : Bool)
    (h : P ctx.request) : P (onReply t state reply retryNow ctx).request := by
  unfold onReply
  split_ifs
  · exact (kept_request hP).check state h
  · exact (kept_request hP).retry states retryNow state h

/-- Whatever the user stream does to the request it does by asking for downloads. -/
theorem request_onSocket (shared : Shared) (event : SocketEvent) (h : P ctx.request) :
    P (onSocket shared t event ctx).request := by
  cases event with
  | ready => exact (kept_request hP).begin states h
  | disconnected => exact h
  | message message order retryNow =>
    cases message with
    | sessionLogon reply => exact request_onReply hP _ reply retryNow h
    | userDataStreamSubscribe reply => exact request_onReply hP _ reply retryNow h
    | eventStreamTerminated =>
      simp only [onSocket, onMessage, onEventStreamTerminated]
      split_ifs
      · exact h
      · exact hP _ .listenKeyCross trivial h
    | _ => exact h

end

variable {t : TraceInfo} {r : Request}

/-- The handler only asks for downloads. -/
abbrev Posts (t : TraceInfo) (r : Request) (ctx : Ctx) : Prop :=
  Request.Posted t.originCreateTime r ctx.request

theorem posts_onTimer (refresh : Bool) {ctx : Ctx} (h : Posts t r ctx) :
    Posts t r (onTimer t refresh ctx) := request_onTimer (fun _ k _ hr => hr.post k) refresh h

theorem posts_onSocket (shared : Shared) (event : SocketEvent) {ctx : Ctx} (h : Posts t r ctx) :
    Posts t r (onSocket shared t event ctx) :=
  request_onSocket (fun _ k _ hr => hr.post k) shared event h

end DropCopyMargin

namespace Margin

/-- The controller creates the user stream once; the order entry only sends updates for the
cross margin mode. -/
def onListenKeyUpdate (dropCopyStreamId : ℕ) (update : ListenKeyUpdate) :
    Option DropCopyMargin → Option DropCopyMargin
  | none => some (DropCopyMargin.create dropCopyStreamId update.account update)
  | some dropCopy =>
    some (DropCopyMargin.onListenKeyUpdate update ⟨dropCopy,Request.empty,[]⟩).self

def wiring (shared : Shared) (dropCopyStreamId : ℕ) :
    Wiring OrderEntryMargin DropCopyMargin OrderEntryMargin.Call Frame DropCopyMargin.SocketEvent
      OrderEntryMargin.ClientRequest where
  timer _ timerNow refresh := OrderEntryMargin.onTimer shared timerNow refresh
  connected _ := OrderEntryMargin.onConnected
  disconnected := OrderEntryMargin.onDisconnected
  response := OrderEntryMargin.onResponse shared
  client := OrderEntryMargin.onRequest shared
  dropCopyTimer := DropCopyMargin.onTimer
  dropCopySocket := DropCopyMargin.onSocket shared
  listenKeyUpdate := onListenKeyUpdate dropCopyStreamId

/-- The state of the system, its events, and the machine that starts with the order entry. -/
abbrev State := Streams OrderEntryMargin DropCopyMargin OrderEntryMargin.Call
abbrev Event :=
  Streams.Event OrderEntryMargin.Call DropCopyMargin.SocketEvent OrderEntryMargin.ClientRequest

abbrev machine (shared : Shared) (streamId dropCopyStreamId : ℕ) (account : String) :
    Machine State (Timed Event) :=
  Streams.machine (wiring shared dropCopyStreamId) (OrderEntryMargin.create streamId account)

abbrev init (streamId : ℕ) (account : String) : State :=
  Streams.create (OrderEntryMargin.create streamId account)

/-- The downloads of the order entry with this stream id and account. -/
def downloads (shared : Shared) (streamId : ℕ) (account : String) :
    Downloads OrderEntryMargin.Call where
  kind := OrderEntryMargin.Call.kind
  snapshot := OrderEntryMargin.snapshot shared (OrderEntryMargin.create streamId account)

variable (shared : Shared) (streamId dropCopyStreamId : ℕ) (account : String)

theorem lawful : (wiring shared dropCopyStreamId).Lawful (downloads shared streamId account) where
  timer _ timerNow refresh ctx := (OrderEntryMargin.keeps_onTimer shared timerNow refresh ctx).request
  connected _ ctx := (OrderEntryMargin.keeps_onConnected ctx).request
  disconnected _ := rfl
  client request ctx := (OrderEntryMargin.keeps_onRequest shared request ctx).request
  response _ call response retryNow ctx :=
    (OrderEntryMargin.answers_onResponse shared call response retryNow ctx).request
  dropCopyTimer _ refresh _ := DropCopyMargin.posts_onTimer refresh (Request.Posted.refl _ _)
  dropCopySocket _ event _ := DropCopyMargin.posts_onSocket shared event (Request.Posted.refl _ _)

theorem delivers : (wiring shared dropCopyStreamId).Delivers (downloads shared streamId account)
    (fun self => self.identity = (streamId,account)) where
  timer _ timerNow refresh ctx h :=
    ((OrderEntryMargin.keeps_onTimer shared timerNow refresh ctx).comp fun x => x.1.1).view.trans h
  connected _ ctx h := ((OrderEntryMargin.keeps_onConnected ctx).comp Prod.fst).view.trans h
  disconnected _ h := h
  client request ctx h :=
    ((OrderEntryMargin.keeps_onRequest shared request ctx).comp fun x => x.1.1).view.trans h
  response t call response retryNow ctx h :=
    (OrderEntryMargin.answers_onResponse (t := t) shared call response retryNow ctx).view.trans h
  snapshot _ _ _ retryNow _ h ho _ hd :=
    OrderEntryMargin.onResponse_dispatched (.create streamId account) h ho hd retryNow

end Margin
end RoqBinance.Gateway
