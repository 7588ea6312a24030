import Mathlib.Algebra.Order.Group.Multiset
import RoqBinance.Gateway.Outcomes
import RoqBinance.Gateway.Refusals
import RoqBinance.Library.Conservation

/-! What becomes of the order requests of the clients. Each that a REST stream takes on is sent
once, and it is answered once or is still in flight, whichever way the events are ordered. -/
namespace RoqBinance.Gateway
open Library Protocol.Json

/-- The request that an update is the final answer to. A cancel of all orders that has only been
forwarded is not answered. -/
def answers? : Dispatch → Option OrderRequest
  | .response response _ _ userId orderId =>
    match response.requestType with
    | .createOrder => some (.newOrder userId orderId response.version)
    | .cancelOrder => some (.cancelOrder userId orderId response.version)
    | _ => none
  | .cancelAllOrdersAck ack =>
    if ack.requestStatus = .forwarded then none else some (.cancelAllOpenOrders ack.requestId)
  | _ => none

section
variable {Self Call : Type} (order? : Call → Option OrderRequest)

/-- The order requests that have been sent. -/
def sentOrders (outputs : List (Output Call)) : Multiset OrderRequest :=
  ↑(outputs.filterMap fun output => output.sent.bind order?)

/-- The order requests that have been answered. -/
def answeredOrders (outputs : List (Output Call)) : Multiset OrderRequest :=
  ↑(outputs.filterMap fun output => output.dispatched.bind answers?)

/-- What the effects of a handler so far amount to. -/
structure Booked (sent answered : Multiset OrderRequest) (ctx : Context Self Call) : Prop where
  sent : sentOrders order? ctx.outputs = sent
  answered : answeredOrders ctx.outputs = answered

theorem booked_nil (self : Self) (request : Request) :
    Booked order? 0 0 (⟨self,request,[]⟩ : Context Self Call) := ⟨rfl,rfl⟩

namespace Booked
variable {order?} {sent answered : Multiset OrderRequest} {ctx ctx' : Context Self Call}

theorem of_outputs (h : Booked order? sent answered ctx) (ho : ctx'.outputs = ctx.outputs) :
    Booked order? sent answered ctx' := by
  refine ⟨?_,?_⟩
  · rw [ho]; exact h.sent
  · rw [ho]; exact h.answered

theorem emit (h : Booked order? sent answered ctx) (output : Output Call) :
    Booked order? (sent + sentOrders order? [output]) (answered + answeredOrders [output])
      (ctx.emit output) := by
  refine ⟨?_,?_⟩
  · rw [← h.sent,Context.emit_outputs,sentOrders,List.filterMap_append,← Multiset.coe_add]; rfl
  · rw [← h.answered,Context.emit_outputs,answeredOrders,List.filterMap_append,
      ← Multiset.coe_add]; rfl

/-- An effect that has nothing to do with an order request. -/
theorem aside (h : Booked order? sent answered ctx) (output : Output Call)
    (hs : output.sent.bind order? = none) (ha : output.dispatched.bind answers? = none) :
    Booked order? sent answered (ctx.emit output) := by
  simpa [sentOrders, answeredOrders, hs, ha] using h.emit output

theorem modify (h : Booked order? sent answered ctx) (f : Self → Self) :
    Booked order? sent answered (ctx.modify f) := h.of_outputs rfl

theorem reply (h : Booked order? sent answered ctx) (k : Kind) (time : ℕ) :
    Booked order? sent answered (ctx.reply k time) := h.of_outputs rfl

theorem send (h : Booked order? sent answered ctx) {call : Call} (hc : order? call = none) :
    Booked order? sent answered (ctx.send call) := h.aside _ hc rfl

theorem sendOrder (h : Booked order? sent answered ctx) (call : Call) {request : OrderRequest}
    (hc : order? call = some request) :
    Booked order? (sent + {request}) answered (ctx.send call) := by
  have hs : sentOrders order? [.send call] = {request} := by simp [sentOrders, Output.sent, hc]
  have ha : answeredOrders [Output.send call] = 0 := rfl
  have he := h.emit (.send call)
  rwa [hs,ha,add_zero] at he

theorem dispatch (h : Booked order? sent answered ctx) {update : Dispatch}
    (hu : answers? update = none) : Booked order? sent answered (ctx.dispatch update) :=
  h.aside _ rfl hu

theorem answer (h : Booked order? sent answered ctx) {update : Dispatch} {request : OrderRequest}
    (hu : answers? update = some request) :
    Booked order? sent (answered + {request}) (ctx.dispatch update) := by
  have hs : sentOrders order? [.dispatch update] = 0 := rfl
  have ha : answeredOrders [(.dispatch update : Output Call)] = {request} := by
    simp [answeredOrders, Output.dispatched, hu]
  have he := h.emit (.dispatch update)
  rwa [hs,ha,add_zero] at he

theorem dispatchAll (h : Booked order? sent answered ctx) (updates : List Dispatch)
    (hu : ∀ update ∈ updates, answers? update = none) :
    Booked order? sent answered (ctx.dispatchAll updates) := by
  refine ⟨?_,?_⟩
  · rw [← h.sent,sentOrders,sentOrders,Context.dispatchAll_outputs,List.filterMap_append,
      List.filterMap_map]
    simp [Function.comp_def, Output.sent]
  · have hnone : updates.filterMap answers? = [] := List.filterMap_eq_nil_iff.mpr hu
    rw [← h.answered,answeredOrders,answeredOrders,Context.dispatchAll_outputs,
      List.filterMap_append,List.filterMap_map]
    simp [Function.comp_def, Output.dispatched, hnone]

theorem fatal (h : Booked order? sent answered ctx) (text : String) :
    Booked order? sent answered (ctx.fatal text) := h.aside _ rfl rfl

/-- Both streams report that the exchange has banned the gateway. -/
theorem banned (h : Booked order? sent answered ctx) (shared : Shared) (forbidden : Bool) :
    Booked order? sent answered (if forbidden then wafLimitViolation shared ctx else ctx) := by
  unfold Gateway.wafLimitViolation
  split_ifs
  · exact h.fatal _
  · exact h.aside _ rfl rfl
  · exact h

theorem foldl {α : Type} {f : Context Self Call → α → Context Self Call} {xs : List α}
    (h : Booked order? sent answered ctx)
    (hf : ∀ ctx, Booked order? sent answered ctx → ∀ x, Booked order? sent answered (f ctx x)) :
    Booked order? sent answered (xs.foldl f ctx) :=
  List.foldlRecOn xs f h fun ctx hc x _ => hf ctx hc x

/-- A loop that sends the same requests for each element. -/
theorem foldl_sends {α : Type} {f : Context Self Call → α → Context Self Call}
    {requests : Multiset OrderRequest}
    (hf : ∀ ctx sent, Booked order? sent answered ctx → ∀ x,
      Booked order? (sent + requests) answered (f ctx x))
    (xs : List α) (h : Booked order? sent answered ctx) :
    Booked order? (sent + xs.length • requests) answered (xs.foldl f ctx) := by
  induction xs generalizing ctx sent with
  | nil => simpa using h
  | cons x xs ih =>
    rw [List.foldl_cons,List.length_cons,succ_nsmul',← add_assoc]
    exact ih (hf ctx sent h x)

section
variable {State : Type} {v : Facet Self Call State}
  {sequencer : (Download State → Context Self Call → Download State × Context Self Call) →
    Context Self Call → Context Self Call} (hv : v.Sequences sequencer)
include hv

/-- The sequencer itself has no effects. -/
theorem sequenced {f : Download State → Context Self Call → Download State × Context Self Call}
    (h : Booked order? sent answered (f (v.download ctx.self) ctx).2) :
    Booked order? sent answered (sequencer f ctx) := h.of_outputs (hv.outputs f ctx)

/-- On a new connection the download goes on, or it begins. -/
theorem connected {downloadState : State → Context Self Call → Context Self Call × ℕ}
    (hd : Download.Kept downloadState (Booked order? sent answered)) (states : List State)
    (h : Booked order? sent answered ctx) :
    Booked order? sent answered
      (if (v.download ctx.self).downloading then sequencer (Download.bump downloadState) ctx
      else sequencer (fun _ => Download.begin downloadState states) ctx) := by
  split_ifs
  · exact sequenced hv (hd.bump h)
  · exact sequenced hv (hd.begin states h)

end

end Booked

/-- The process has ended, or what was to be answered has been. -/
def Settled (answered : Multiset OrderRequest) (ctx : Context Self Call) : Prop :=
  ctx.outputs.any Output.isFatal = true ∨ Booked order? 0 answered ctx

/-- A cancel of all orders sends the same requests for each of the symbols that it is for. -/
theorem booked_takeCancelAll {order? : Call → Option OrderRequest} {requests : Multiset OrderRequest}
    {cancel : Context Self Call → String → Context Self Call}
    (hc : ∀ ctx sent, Booked order? sent 0 ctx → ∀ symbol,
      Booked order? (sent + requests) 0 (cancel ctx symbol))
    (ready : Bool) (request : CancelAllOrders) (symbols : List String) (self : Self)
    (posted : Request) :
    Booked order?
      (if (takeCancelAll ready request symbols cancel ⟨self,Request.empty,[]⟩).2.isSome then 0
        else (affected request symbols).length • requests) 0
      (takeCancelAll ready request symbols cancel ⟨self,posted,[]⟩).1 := by
  have h := booked_nil order? self posted
  cases ready with
  | false => exact h
  | true =>
    have hall := h.foldl_sends hc (affected request symbols)
    rw [zero_add,← foldl_affected] at hall
    exact hall

/-- An order request that is refused sends nothing, any other one is sent. -/
theorem booked_takeOrder {order? : Call → Option OrderRequest} {call : Call} {request : OrderRequest}
    (hcall : order? call = some request) (ready : Bool) (remember : Self → Self)
    (template : Except Exception Unit) (self : Self) (posted : Request) :
    Booked order?
      (if (takeOrder ready remember template (·.send call) ⟨self,Request.empty,[]⟩).2.isSome then 0
        else {request}) 0
      (takeOrder ready remember template (·.send call) ⟨self,posted,[]⟩).1 := by
  have h := booked_nil order? self posted
  cases ready with
  | false => exact h
  | true =>
    cases template with
    | error e => exact h.modify remember
    | ok =>
      have hsent := (h.modify remember).sendOrder call hcall
      rwa [zero_add] at hsent

end

namespace OrderStream
variable {Self Call : Type} (o : OrderStream Self Call) (order? : Call → Option OrderRequest)

/-- A limit of the exchange has nothing to do with an order request. -/
def LimitsAside : Prop := ∀ forbidden retryAfter ctx, Booked order? 0 0 ctx →
  Booked order? 0 0 (o.limit forbidden retryAfter ctx)

variable {o order?} (ho : o.LimitsAside order?) {ctx : Context Self Call}
include ho

/-- The response to a request that is not one for an order. -/
theorem LimitsAside.processResponse {α : Type} {decode : Body → Except String α}
    {response : RestResponse}
    {errorHandler : Origin → RequestStatus → Error → String → Context Self Call → Context Self Call}
    {successHandler : α → Context Self Call → Context Self Call} (h : Booked order? 0 0 ctx)
    (herror : ∀ origin status error text ctx', Booked order? 0 0 ctx' →
      Booked order? 0 0 (errorHandler origin status error text ctx'))
    (hsuccess : ∀ value, Booked order? 0 0 (successHandler value ctx)) :
    Booked order? 0 0
      (processResponseWith o.limit decode response errorHandler successHandler ctx) :=
  processResponseWith_cases h (fun forbidden retryAfter => ho forbidden retryAfter ctx h) herror
    (fun value _ => hsuccess value) fun _ => h.fatal _

/-- The response to an order request, when both of its handlers answer it. -/
theorem LimitsAside.settled {α : Type} {decode : Body → Except String α} {response : RestResponse}
    {errorHandler : Origin → RequestStatus → Error → String → Context Self Call → Context Self Call}
    {successHandler : α → Context Self Call → Context Self Call} {request : OrderRequest}
    (h : Booked order? 0 0 ctx)
    (herror : ∀ origin status error text ctx', Booked order? 0 0 ctx' →
      Booked order? 0 {request} (errorHandler origin status error text ctx'))
    (hsuccess : ∀ value, Booked order? 0 {request} (successHandler value ctx)) :
    Settled order? {request}
      (processResponseWith o.limit decode response errorHandler successHandler ctx) := by
  refine processResponseWith_cases h (fun forbidden retryAfter => ho forbidden retryAfter ctx h)
    ?_ ?_ ?_
  · intro origin status error text ctx' h'
    exact .inr (herror origin status error text ctx' h')
  · intro value _
    exact .inr (hsuccess value)
  · intro text
    exact .inl (by simp [Output.isFatal])

/-- The callback of an order request answers it. -/
theorem LimitsAside.ack (h : Booked order? 0 0 ctx) (request : OrderRequest)
    (response : RestResponse) : Settled order? {request} (o.ack request response ctx).1 := by
  cases request with
  | newOrder userId orderId version =>
    rw [OrderStream.ack,processResponseThrowing_eq]
    refine ho.settled h ?_ fun ack => h.answer rfl
    intro origin status error text ctx' h'
    exact h'.answer rfl
  | cancelOrder userId orderId version =>
    rw [OrderStream.ack,processResponseThrowing_eq]
    refine ho.settled h ?_ fun ack => h.answer rfl
    intro origin status error text ctx' h'
    exact h'.answer rfl
  | cancelAllOpenOrders requestId =>
    rw [OrderStream.ack,processResponseThrowing_eq]
    refine ho.settled h ?_ fun ack => ?_
    · intro origin status error text ctx' h'
      exact h'.answer rfl
    · refine Booked.answer (h.dispatchAll _ ?_) rfl
      intro update hu
      obtain ⟨order,rfl⟩ := o.canceled_updates ctx.self ack update hu
      rfl

/-- The callback of another request has nothing to answer. -/
theorem LimitsAside.reply {ctx' : Context Self Call} {call : Call} {response : RestResponse}
    (h : Booked order? 0 0 ctx)
    (hack : ∀ request, order? call = some request → o.ack request response ctx = (ctx',none))
    (haside : order? call = none → Booked order? 0 0 ctx') :
    Settled order? ↑(order? call).toList ctx' := by
  cases hcall : order? call with
  | none => exact .inr (haside hcall)
  | some request =>
    have hsettled := ho.ack h request response
    rwa [hack request hcall] at hsettled

end OrderStream

namespace Link
variable {Self Call Reply Input : Type}

/-- The order requests in flight. -/
def pendingOrders (order? : Call → Option OrderRequest) (s : Link Self Call) :
    Multiset OrderRequest :=
  ↑(s.inFlight.filterMap fun job => order? job.call)

/-- The order requests of an event, when `asked` are those of an input. -/
def askedOrders (asked : Input → Self → Multiset OrderRequest) (s : Link Self Call)
    (e : Timed (Event Call Reply Input)) : Multiset OrderRequest :=
  match e.event with
  | .input input => asked input s.self
  | _ => 0

variable [DecidableEq Call]

/-- The order requests that are answered at an event. -/
def answeredAt (h : Handlers Self Call Reply Input) (s : Link Self Call)
    (e : Timed (Event Call Reply Input)) : Multiset OrderRequest :=
  answeredOrders (handle h e.time e.event s).outputs

/-- An input sends what it asks for, a reply answers its own request, and nothing else concerns
an order request. -/
structure Handlers.Accountable (h : Handlers Self Call Reply Input)
    (order? : Call → Option OrderRequest) (asked : Input → Self → Multiset OrderRequest) :
    Prop where
  connected : ∀ self request, Booked order? 0 0 (h.connected ⟨self,request,[]⟩)
  disconnected : ∀ self request, Booked order? 0 0 (h.disconnected ⟨self,request,[]⟩)
  reply : ∀ t call reply self request,
    Settled order? ↑(order? call).toList (h.reply t call reply ⟨self,request,[]⟩)
  input : ∀ t input self request,
    Booked order? (asked input self) 0 (h.input t input ⟨self,request,[]⟩)

variable {h : Handlers Self Call Reply Input} {order? : Call → Option OrderRequest}
  {asked : Input → Self → Multiset OrderRequest}

/-- What is in flight after an event is what still was, and what the event has sent. -/
theorem pendingOrders_after (event : Event Call Reply Input) (ctx : Context Self Call)
    (s : Link Self Call) :
    pendingOrders order? (after h event ctx s) =
      ↑((event.outstanding s.inFlight).filterMap fun job => order? job.call) +
        sentOrders order? ctx.outputs := by
  rw [pendingOrders,after,List.filterMap_append,← Multiset.coe_add,List.filterMap_map,
    List.filterMap_filterMap]
  rfl

/-- Taking a job out of those in flight takes its request out. -/
theorem pendingOrders_erase {job : Job Call} {inFlight : List (Job Call)} (hj : job ∈ inFlight) :
    (↑(inFlight.filterMap fun job => order? job.call) : Multiset OrderRequest) =
      ↑(order? job.call).toList +
        ↑((inFlight.erase job).filterMap fun job => order? job.call) := by
  rw [Multiset.coe_add,Multiset.coe_eq_coe]
  refine ((List.perm_cons_erase hj).filterMap _).trans ?_
  rw [List.filterMap_cons]
  cases order? job.call with
  | none => exact .refl _
  | some request => exact .refl _

theorem Handlers.Accountable.conserves (ha : h.Accountable order? asked) (self : Self) :
    (machine h self).Conserves (fun _ => True) (pendingOrders order?) (askedOrders asked)
      (answeredAt h) := by
  intro s e s' _ hn
  obtain ⟨he,hf,rfl⟩ := next_eq_some hn
  obtain ⟨t,event⟩ := e
  rw [pendingOrders_after,answeredAt]
  cases event with
  | connected =>
    have hb := ha.connected s.self s.request
    simp [handle, hb.sent, hb.answered, askedOrders, Event.outstanding, pendingOrders]
  | disconnected =>
    have hb := ha.disconnected s.self s.request
    have hstale : (s.inFlight.map fun job => {job with stale := true}).filterMap
        (fun job : Job Call => order? job.call) = s.inFlight.filterMap fun job => order? job.call := by
      rw [List.filterMap_map]; rfl
    simp [handle, hb.sent, hb.answered, askedOrders, Event.outstanding, pendingOrders, hstale]
  | reply job reply =>
    rcases ha.reply t job.call reply s.self s.request with hfatal | hb
    · rw [handle,hfatal] at hf; cases hf
    · rw [handle,hb.sent,hb.answered,askedOrders,add_zero,add_zero]
      exact pendingOrders_erase he.1
  | input input =>
    have hb := ha.input t input s.self s.request
    simp [handle, hb.sent, hb.answered, askedOrders, Event.outstanding, pendingOrders]

/-- In every run, the order requests that have been taken on are those that have been answered
and those in flight, each as often as it was made. -/
def Accounted (h : Handlers Self Call Reply Input) (order? : Call → Option OrderRequest)
    (asked : Input → Self → Multiset OrderRequest) (self : Self) : Prop :=
  ∀ es s, (machine h self).run (create self) es = some s →
    (machine h self).total (askedOrders asked) (create self) es =
      (machine h self).total (answeredAt h) (create self) es + pendingOrders order? s

theorem Handlers.Accountable.accounted (ha : h.Accountable order? asked) (self : Self) :
    Accounted h order? asked self := by
  intro es s hr
  have hrun := (ha.conserves self).run (fun _ _ _ _ _ => trivial) trivial hr
  have h0 : pendingOrders order? (create self : Link Self Call) = 0 := rfl
  rwa [h0,zero_add] at hrun

end Link
namespace OrderEntryMargin

/-- Nothing has been sent or answered. -/
abbrev Neutral (ctx : Ctx) : Prop := Booked Call.order? 0 0 ctx

section
variable {ctx : Ctx}

theorem neutral_onConnectionStatus (h : Neutral ctx) (status : ConnectionStatus) (reason : String) :
    Neutral (onConnectionStatus status reason ctx) :=
  (h.modify _).dispatch rfl

theorem neutral_downloadState : Download.Kept downloadState Neutral := by
  intro state ctx h
  cases state with
  | listenKey =>
    rw [downloadState]
    split_ifs
    · exact h
    · exact Booked.send (neutral_onConnectionStatus h _ _) rfl
  | done => exact (neutral_onConnectionStatus h .ready "").of_outputs rfl

variable (shared : Shared) (t : TraceInfo)

theorem neutral_getTrades (h : Neutral ctx) (marginMode : MarginMode) :
    Neutral (getTrades shared marginMode ctx) := h.foldl fun _ hc _ => hc.send rfl

theorem neutral_start (h : Neutral ctx) (k : Kind) : Neutral (start shared ctx k) := by
  unfold start
  split_ifs
  · refine Booked.modify ?_ _
    cases k with
    | account => exact h.fatal _
    | orders => exact h.fatal _
    | trades => exact neutral_getTrades shared h .undefined
    | listenKeyCross => exact h.send rfl
    | accountCross => exact h.send rfl
    | ordersCross => exact h.send rfl
    | tradesCross => exact neutral_getTrades shared h .cross
  · exact h

theorem neutral_onTimer (timerNow : ℕ) (refresh : Bool) (h : Neutral ctx) :
    Neutral (onTimer shared timerNow refresh ctx) := by
  have hall : Neutral (kinds.foldl (start shared) ctx) :=
    h.foldl fun _ hc k => neutral_start shared hc k
  unfold onTimer
  split_ifs
  · unfold startAll pollBorrowed
    split_ifs
    · exact (Booked.send hall rfl).modify _
    · exact hall
  · exact h

theorem limitsAside : (orderStream shared).LimitsAside Call.order? :=
  fun forbidden _ _ h => h.banned shared forbidden

theorem neutral_completion (k : Kind) (h : Neutral ctx) : Neutral (completion k t ctx) :=
  (h.reply k _).modify _

theorem neutral_onListenKeyAckMargin (ack : ListenKeyAckMargin) (marginMode : MarginMode)
    (h : Neutral ctx) : Neutral (onListenKeyAckMargin ack marginMode ctx) := by
  cases marginMode with
  | cross =>
    have hkey := h.aside (.listenKeyUpdate ⟨ctx.self.account,.cross,ack.token⟩) rfl rfl
    exact hkey.of_outputs rfl
  | undefined => exact h.fatal _
  | isolated => exact h.fatal _
  | portfolio => exact h.fatal _

theorem neutral_getListenKeyAck (marginMode : MarginMode) (response : RestResponse) (retryNow : Bool)
    (h : Neutral ctx) : Neutral (getListenKeyAck shared t marginMode response retryNow ctx) := by
  apply (limitsAside shared).processResponse h
  · intro _ _ _ _ ctx' h'
    exact neutral_completion t .listenKeyCross
      (.sequenced sequences (neutral_downloadState.retry states retryNow .listenKey h'))
  · intro ack
    have hack := neutral_onListenKeyAckMargin ack marginMode h
    cases marginMode with
    | undefined => exact hack.send rfl
    | isolated => exact hack.send rfl
    | cross =>
      exact neutral_completion t .listenKeyCross
        (.sequenced sequences (neutral_downloadState.check .listenKey hack))
    | portfolio => exact hack.fatal _

theorem neutral_getAccountAck (marginMode : MarginMode) (response : RestResponse) (h : Neutral ctx) :
    Neutral (getAccountAck shared t marginMode response ctx) := by
  cases marginMode with
  | undefined =>
    apply (limitsAside shared).processResponse h
    · intro _ _ _ _ ctx' h'
      exact neutral_completion t .account h'
    · intro ack
      exact neutral_completion t .account (h.dispatchAll _ (by simp [onAccountAck, answers?]))
  | cross =>
    apply (limitsAside shared).processResponse h
    · intro _ _ _ _ ctx' h'
      exact neutral_completion t .accountCross h'
    · intro account
      exact neutral_completion t .accountCross
        (h.dispatchAll _ (by simp [onCrossMarginAccount, answers?]))
  | isolated | portfolio =>
    apply (limitsAside shared).processResponse h
    · intro _ _ _ _ ctx' h'
      exact h'.fatal _
    · intro _
      exact h.fatal _

theorem neutral_completeOrders (marginMode : MarginMode) (h : Neutral ctx) :
    Neutral (completeOrders t marginMode ctx) := by
  cases marginMode with
  | undefined => exact neutral_completion t .orders h
  | isolated => exact h.fatal _
  | cross => exact neutral_completion t .ordersCross h
  | portfolio => exact h.fatal _

theorem neutral_getOpenOrdersAck (marginMode : MarginMode) (response : RestResponse) (h : Neutral ctx) :
    Neutral (getOpenOrdersAck shared t marginMode response ctx) := by
  apply (limitsAside shared).processResponse h
  · intro _ _ _ _ ctx' h'
    exact neutral_completeOrders t marginMode h'
  · intro ack
    refine neutral_completeOrders t marginMode (h.foldl fun ctx hc order => ?_)
    unfold onOpenOrder
    split_ifs
    · exact hc
    · exact (hc.modify _).dispatch rfl

theorem neutral_completeTrades (marginMode : MarginMode) (h : Neutral ctx) :
    Neutral (completeTrades t marginMode ctx) := by
  cases marginMode with
  | undefined => exact neutral_completion t .trades h
  | isolated => exact h.fatal _
  | cross => exact neutral_completion t .tradesCross h
  | portfolio => exact h.fatal _

theorem neutral_getAccountCrossOnTimerAck (response : RestResponse) (h : Neutral ctx) :
    Neutral (getAccountCrossOnTimerAck shared t response ctx) := by
  apply (limitsAside shared).processResponse h
  · intro _ _ _ _ ctx' h'
    exact (h'.reply .accountCross _).modify _
  · intro account
    have hfunds := h.dispatchAll (onCrossMarginAccountOnTimer ctx.self account)
      (by simp [onCrossMarginAccountOnTimer, answers?])
    exact (hfunds.reply .accountCross _).modify _

/-- The callbacks of the downloads. -/
theorem neutral_onResponse {call : Call} (hcall : call.order? = none) (response : RestResponse)
    (retryNow : Bool) (h : Neutral ctx) :
    Neutral (onResponse shared t call response retryNow ctx) := by
  cases call with
  | listenKey marginMode => exact neutral_getListenKeyAck shared t marginMode response retryNow h
  | account marginMode => exact neutral_getAccountAck shared t marginMode response h
  | openOrders marginMode => exact neutral_getOpenOrdersAck shared t marginMode response h
  | trades marginMode symbol lookback limit =>
    apply (limitsAside shared).processResponse h
    · intro _ _ _ _ ctx' h'
      exact neutral_completeTrades t marginMode h'
    · intro ack
      exact (neutral_completeTrades t marginMode h).modify _
  | accountCrossOnTimer => exact neutral_getAccountCrossOnTimerAck shared t response h
  | newOrder body userId orderId => cases hcall
  | cancelOrder body userId orderId version => cases hcall
  | cancelAllOpenOrders symbol marginMode requestId => cases hcall

end

section
variable (shared : Shared)

/-- The request is refused by an exception. -/
def refuses (self : OrderEntryMargin) (request : ClientRequest) : Bool :=
  (onRequest shared request ⟨self,Request.empty,[]⟩).2.isSome

/-- What a client's request asks of the exchange, one request for each margin mode of a symbol. -/
def takenOn (request : ClientRequest) (self : OrderEntryMargin) : Multiset OrderRequest :=
  if refuses shared self request then 0
  else
    match request with
    | .createOrder info request _ => {.newOrder info.source request.orderId 1}
    | .modifyOrder _ _ => 0
    | .cancelOrder info request _ _ => {.cancelOrder info.source request.orderId request.version}
    | .cancelAllOrders request requestId =>
      (affected request self.openOrdersSymbols).length • {.cancelAllOpenOrders requestId,
        .cancelAllOpenOrders requestId}

/-- The margin mode of the order is looked at after the template. -/
theorem cancelOrder_eq (info : MessageInfo) (cancel : CancelOrder) (marginMode : MarginMode)
    (body : String) (ctx : Ctx) : cancelOrder shared info cancel marginMode body ctx =
      takeOrder ctx.self.isReady id
        (do
          shared.getCancelOrderTemplate cancel.requestTemplate
          if marginMode = .portfolio then
            throw (.rejected .gateway .invalidMarginMode "internal error"))
        (·.send (.cancelOrder body info.source cancel.orderId cancel.version)) ctx := by
  unfold cancelOrder takeOrder
  cases shared.getCancelOrderTemplate cancel.requestTemplate with
  | error e => rfl
  | ok => by_cases hm : marginMode = .portfolio <;> simp [hm] <;> rfl

theorem booked_onRequest (request : ClientRequest) (self : OrderEntryMargin) (posted : Request) :
    Booked Call.order? (takenOn shared request self) 0 (onRequest shared request ⟨self,posted,[]⟩).1 := by
  cases request with
  | createOrder info createOrder body =>
    have hcall : Call.order? (.newOrder body info.source createOrder.orderId) =
        some (.newOrder info.source createOrder.orderId 1) := rfl
    exact booked_takeOrder hcall self.isReady _ _ self posted
  | modifyOrder info modifyOrder => exact booked_nil _ self posted
  | cancelOrder info cancel marginMode body =>
    have hcall : Call.order? (.cancelOrder body info.source cancel.orderId cancel.version) =
        some (.cancelOrder info.source cancel.orderId cancel.version) := rfl
    rw [takenOn,refuses,onRequest,onRequest,cancelOrder_eq,cancelOrder_eq]
    exact booked_takeOrder hcall self.isReady id _ self posted
  | cancelAllOrders cancel requestId =>
    refine booked_takeCancelAll ?_ self.isReady cancel self.openOrdersSymbols self posted
    intro ctx sent hc symbol
    have hisolated := hc.sendOrder (.cancelAllOpenOrders symbol .isolated requestId) rfl
    have hcross := hisolated.sendOrder (.cancelAllOpenOrders symbol .cross requestId) rfl
    rw [add_assoc] at hcross
    exact hcross.dispatch rfl

/-- Only the requests of the clients ask for orders. -/
def inputOrders {asks : Kind → Prop} (input : Link.Input ClientRequest asks)
    (self : OrderEntryMargin) : Multiset OrderRequest :=
  match input with
  | .client request => takenOn shared request self
  | _ => 0

theorem accountable (asks : Kind → Prop) (drained : Bool) :
    (handlers shared asks drained).Accountable Call.order? (inputOrders shared) where
  connected self request := (booked_nil _ self request).connected sequences neutral_downloadState states
  disconnected self request := by
    have hready := (booked_nil Call.order? self request).modify fun self => {self with ready := false}
    exact (neutral_onConnectionStatus hready .disconnected "").of_outputs rfl
  reply t call reply self request := by
    have h := booked_nil Call.order? self request
    exact (limitsAside shared).reply h
      (fun _ hcall => ack_eq shared t hcall reply.response reply.retryNow _)
      fun hcall => neutral_onResponse shared t hcall reply.response reply.retryNow h
  input t input self request := by
    cases input with
    | timer timerNow refresh => exact neutral_onTimer shared timerNow refresh (booked_nil _ self request)
    | client clientRequest => exact booked_onRequest shared clientRequest self request
    | post k hk => exact booked_nil _ self _

end
end OrderEntryMargin

namespace OrderEntryPortfolio

/-- Nothing has been sent or answered. -/
abbrev Neutral (ctx : Ctx) : Prop := Booked Call.order? 0 0 ctx

section
variable {ctx : Ctx}

theorem neutral_onConnectionStatus (h : Neutral ctx) (status : ConnectionStatus) (reason : String) :
    Neutral (onConnectionStatus status reason ctx) :=
  (h.modify _).dispatch rfl

theorem neutral_downloadState : Download.Kept downloadState Neutral := by
  intro state ctx h
  cases state with
  | listenKey =>
    rw [downloadState]
    split_ifs
    · exact Booked.send (neutral_onConnectionStatus h _ _) rfl
    · exact h
  | done => exact (neutral_onConnectionStatus h .ready "").of_outputs rfl

variable (shared : Shared) (t : TraceInfo)

theorem neutral_refreshListenKey (h : Neutral ctx) : Neutral (refreshListenKey shared t ctx) := by
  unfold refreshListenKey
  split_ifs
  · exact h
  · exact h
  · exact (h.modify _).send rfl

theorem neutral_start (h : Neutral ctx) (k : Kind) : Neutral (start shared ctx k) := by
  unfold start
  split_ifs
  · refine Booked.modify ?_ _
    cases k with
    | account => exact h.send rfl
    | orders => exact h.send rfl
    | trades => exact h.foldl fun _ hc _ => hc.send rfl
    | _ => exact h
  · exact h

theorem neutral_onTimer (refresh : Bool) (h : Neutral ctx) : Neutral (onTimer shared t refresh ctx) := by
  have hkey := neutral_refreshListenKey shared t h
  cases refresh with
  | false => exact h
  | true =>
    simp only [onTimer, if_true]
    split_ifs
    · exact hkey.foldl fun _ hc k => neutral_start shared hc k
    · exact hkey

theorem limitsAside : (orderStream shared).LimitsAside Call.order? := by
  intro forbidden retryAfter ctx h
  have hbanned := h.banned shared forbidden
  change Booked _ 0 0 (suspendFor retryAfter _)
  by_cases hr : retryAfter ≠ 0
  · rw [suspendFor,if_pos hr]
    exact hbanned.aside _ rfl rfl
  · rwa [suspendFor,if_neg hr]

theorem neutral_completion (k : Kind) (h : Neutral ctx) : Neutral (completion k t ctx) :=
  (h.reply k _).modify _

theorem neutral_onListenKeyAck (ack : ListenKeyAck) (h : Neutral ctx) :
    Neutral (onListenKeyAck shared t ack ctx) := by
  have hkey := h.modify fun self => {self with listenKey := ack.listenKey}
  unfold onListenKeyAck
  refine Booked.modify ?_ _
  split_ifs
  · exact hkey.aside _ rfl rfl
  · exact hkey

/-- The callbacks of the downloads. -/
theorem neutral_onResponse {call : Call} (hcall : call.order? = none) (response : RestResponse)
    (retryNow : Bool) (h : Neutral ctx) :
    Neutral (onResponse shared t call response retryNow ctx) := by
  cases call with
  | listenKey =>
    apply (limitsAside shared).processResponse h
    · intro _ _ _ _ ctx' h'
      exact .sequenced sequences (neutral_downloadState.retry states retryNow .listenKey h')
    · intro ack
      exact .sequenced sequences
        (neutral_downloadState.check .listenKey (neutral_onListenKeyAck shared t ack h))
  | account =>
    apply (limitsAside shared).processResponse h
    · intro _ _ _ _ ctx' h'
      exact neutral_completion t .account h'
    · intro ack
      exact neutral_completion t .account (h.dispatchAll _ (by simp [onBalancesAck, answers?]))
  | openOrders =>
    apply (limitsAside shared).processResponse h
    · intro _ _ _ _ ctx' h'
      exact neutral_completion t .orders h'
    · intro ack
      refine neutral_completion t .orders (h.foldl fun ctx hc order => ?_)
      unfold onOpenOrder
      split_ifs
      · exact hc
      · exact (hc.modify _).dispatch rfl
  | trades symbol lookback limit =>
    apply (limitsAside shared).processResponse h
    · intro _ _ _ _ ctx' h'
      exact neutral_completion t .trades h'
    · intro ack
      have htrades := h.dispatchAll (onTradesAck shared ctx.self ack)
        (by simp [onTradesAck, tradeUpdate, answers?])
      exact (neutral_completion t .trades htrades).modify _
  | newOrder body userId orderId => cases hcall
  | cancelOrder body userId orderId version => cases hcall
  | cancelAllOpenOrders symbol requestId => cases hcall

end

section
variable (shared : Shared)

/-- The request is refused by an exception. -/
def refuses (self : OrderEntryPortfolio) (request : ClientRequest) : Bool :=
  (onRequest shared request ⟨self,Request.empty,[]⟩).2.isSome

/-- What a client's request asks of the exchange. -/
def takenOn (request : ClientRequest) (self : OrderEntryPortfolio) : Multiset OrderRequest :=
  if refuses shared self request then 0
  else
    match request with
    | .createOrder info request _ => {.newOrder info.source request.orderId 1}
    | .modifyOrder _ _ => 0
    | .cancelOrder info request _ => {.cancelOrder info.source request.orderId request.version}
    | .cancelAllOrders request requestId =>
      (affected request self.openOrdersSymbols).length • {.cancelAllOpenOrders requestId}

theorem booked_onRequest (request : ClientRequest) (self : OrderEntryPortfolio) (posted : Request) :
    Booked Call.order? (takenOn shared request self) 0 (onRequest shared request ⟨self,posted,[]⟩).1 := by
  cases request with
  | createOrder info createOrder body =>
    have hcall : Call.order? (.newOrder body info.source createOrder.orderId) =
        some (.newOrder info.source createOrder.orderId 1) := rfl
    exact booked_takeOrder hcall self.isReady _ _ self posted
  | modifyOrder info modifyOrder => exact booked_nil _ self posted
  | cancelOrder info cancel body =>
    have hcall : Call.order? (.cancelOrder body info.source cancel.orderId cancel.version) =
        some (.cancelOrder info.source cancel.orderId cancel.version) := rfl
    exact booked_takeOrder hcall self.isReady id _ self posted
  | cancelAllOrders cancel requestId =>
    refine booked_takeCancelAll ?_ self.isReady cancel self.openOrdersSymbols self posted
    intro ctx sent hc symbol
    exact (hc.sendOrder (.cancelAllOpenOrders symbol requestId) rfl).dispatch rfl

/-- Only the requests of the clients ask for orders. -/
def inputOrders {asks : Kind → Prop} (input : Link.Input ClientRequest asks)
    (self : OrderEntryPortfolio) : Multiset OrderRequest :=
  match input with
  | .client request => takenOn shared request self
  | _ => 0

theorem accountable (asks : Kind → Prop) (drained : Bool) :
    (handlers shared asks drained).Accountable Call.order? (inputOrders shared) where
  connected self request := (booked_nil _ self request).connected sequences neutral_downloadState states
  disconnected self request := by
    have hready := (booked_nil Call.order? self request).modify fun self => {self with ready := false}
    exact (neutral_onConnectionStatus hready .disconnected "").of_outputs rfl
  reply t call reply self request := by
    have h := booked_nil Call.order? self request
    exact (limitsAside shared).reply h
      (fun _ hcall => ack_eq shared t hcall reply.response reply.retryNow _)
      fun hcall => neutral_onResponse shared t hcall reply.response reply.retryNow h
  input t input self request := by
    cases input with
    | timer timerNow refresh => exact neutral_onTimer shared t refresh (booked_nil _ self request)
    | client clientRequest => exact booked_onRequest shared clientRequest self request
    | post k hk => exact booked_nil _ self _

end
end OrderEntryPortfolio

/-- Each order request that a REST stream takes on is sent once, and is answered once or is
still in flight, in whichever order its events occur. -/
theorem order_requests_accounted (shared : Shared) (asks : Kind → Prop) (drained : Bool)
    (streamId : ℕ) (account : String) :
    Link.Accounted (OrderEntryMargin.handlers shared asks drained) OrderEntryMargin.Call.order?
        (OrderEntryMargin.inputOrders shared) (.create streamId account) ∧
      Link.Accounted (OrderEntryPortfolio.handlers shared asks drained)
        OrderEntryPortfolio.Call.order? (OrderEntryPortfolio.inputOrders shared)
        (.create streamId account) :=
  ⟨(OrderEntryMargin.accountable shared asks drained).accounted _,
    (OrderEntryPortfolio.accountable shared asks drained).accounted _⟩

end RoqBinance.Gateway
