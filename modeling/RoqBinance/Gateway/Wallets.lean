import RoqBinance.Library.Purge
import RoqBinance.Gateway.Margin
import RoqBinance.Gateway.WebSocket

/-! The two wallets of an account: the spot socket beside the streams of the margin wallet.
A client keeps the funds of a currency by their margin mode, which is undefined for spot. -/
namespace RoqBinance.Gateway
open Library Protocol.Json

structure Wallets where
  spot : WebSocket
  margin : Margin.State

namespace Wallets

/-- The events of the streams of either wallet. -/
inductive Event
  | spot (event : WebSocket.Event)
  | margin (event : Margin.Event)

def init (spotStreamId streamId : ℕ) (account : String) : Wallets :=
  ⟨.create spotStreamId account,Margin.init streamId account⟩

def step (shared : Shared) (p : WSAPIParsers) (dropCopyStreamId : ℕ) (s : Wallets)
    (e : Timed Event) : Wallets × List Dispatch :=
  match e.event with
  | .spot event =>
    let ctx := WebSocket.handle shared p e.time event ⟨s.spot,Request.empty,[]⟩
    ({s with spot := ctx.self},(Effects.of ctx.outputs).dispatched)
  | .margin event =>
    match Streams.step (Margin.wiring shared dropCopyStreamId) e.time event s.margin with
    | (margin,x) => ({s with margin := margin},x.dispatched)

/-- The streams take the events as they come, whether or not they can occur. -/
def transducer (shared : Shared) (p : WSAPIParsers) (dropCopyStreamId : ℕ) :
    Transducer Wallets (Timed Event) Dispatch :=
  ⟨step shared p dropCopyStreamId⟩

def spotUpdate : Dispatch → Option FundsUpdate
  | .fundsUpdate update => if update.marginMode = .undefined then some update else none
  | _ => none

/-- The replies and events that report the margin wallet. -/
def ofMarginWallet (e : Timed Event) : Bool :=
  match e.event with
  | .margin (.reply job _ _) => job.call = .account .cross || job.call = .accountCrossOnTimer
  | .margin (.socket (.message (.outboundAccountPosition _) _ _)) => true
  | _ => false

/-- The positions that the margin wallet's user stream is told of, once it exists. -/
def received (s : Wallets) (e : Timed Event) : List BalancesItem :=
  match e.event with
  | .margin (.socket (.message (.outboundAccountPosition event) _ _)) =>
    if s.margin.dropCopy.isSome then event.balances else []
  | _ => []

section
variable {Self Call : Type}

/-- No update of the spot wallet has been put out. -/
def Apart (ctx : Context Self Call) : Prop :=
  ∀ output ∈ ctx.outputs, output.dispatched.bind spotUpdate = none

namespace Apart
variable {ctx : Context Self Call}

theorem of_nil (h : ctx.outputs = []) : Apart ctx := by
  intro output ho
  rw [h] at ho
  cases ho

theorem dispatched (h : Apart ctx) :
    (Effects.of ctx.outputs).dispatched.filterMap spotUpdate = [] := by
  rw [Effects.of,List.filterMap_filterMap,List.filterMap_eq_nil_iff]
  exact h

theorem emit (h : Apart ctx) {output : Output Call} (ho : output.dispatched.bind spotUpdate = none) :
    Apart (ctx.emit output) := by
  intro o hm
  rcases List.mem_append.mp hm with hm | hm
  · exact h o hm
  · rwa [List.mem_singleton.mp hm]

theorem send (h : Apart ctx) (call : Call) : Apart (ctx.send call) := h.emit rfl

theorem dispatch (h : Apart ctx) {update : Dispatch} (hu : spotUpdate update = none) :
    Apart (ctx.dispatch update) := h.emit hu

theorem dispatchAll (h : Apart ctx) {updates : List Dispatch}
    (hu : ∀ update ∈ updates, spotUpdate update = none) : Apart (ctx.dispatchAll updates) := by
  intro o hm
  rcases List.mem_append.mp hm with hm | hm
  · exact h o hm
  · obtain ⟨update,hmem,rfl⟩ := List.mem_map.mp hm
    exact hu update hmem

theorem fatal (h : Apart ctx) (text : String) : Apart (ctx.fatal text) := h.emit rfl

theorem wafLimitViolation (h : Apart ctx) (shared : Shared) :
    Apart (wafLimitViolation shared ctx) := by
  unfold Gateway.wafLimitViolation
  split_ifs
  · exact h.fatal _
  · exact h.emit rfl

end Apart
end

end Wallets

namespace OrderEntryMargin
open Wallets

theorem apart_getListenKey (marginMode : MarginMode) {ctx : Ctx} (h : Apart ctx) :
    Apart (getListenKey marginMode ctx) := by
  cases marginMode <;> exact h.emit rfl

theorem kept_apart : Download.Kept downloadState Apart := by
  intro state ctx h
  cases state with
  | listenKey =>
    rw [downloadState]
    split_ifs
    · exact h
    · exact apart_getListenKey .cross (h.dispatch rfl)
  | done => exact h.dispatch rfl

variable (shared : Shared) (t : TraceInfo) {ctx : Ctx}

theorem apart_get (k : Kind) (h : Apart ctx) : Apart (get shared k ctx) := by
  have htrades : ∀ marginMode, Apart (getTrades shared marginMode ctx) := by
    intro marginMode
    exact List.foldlRecOn _ _ h fun ctx hc symbol _ => hc.send _
  cases k with
  | account => exact h.fatal _
  | orders => exact h.fatal _
  | trades => exact htrades .undefined
  | listenKeyCross => exact h.send _
  | accountCross => exact h.send _
  | ordersCross => exact h.send _
  | tradesCross => exact htrades .cross

theorem apart_onTimer (timerNow : ℕ) (refresh : Bool) (h : Apart ctx) :
    Apart (onTimer shared timerNow refresh ctx) := by
  have hstart : ∀ ctx k, Apart ctx → Apart (start shared ctx k) := by
    intro ctx k hc
    unfold start
    split_ifs
    · exact apart_get shared k hc
    · exact hc
  have hall : Apart (kinds.foldl (start shared) ctx) :=
    List.foldlRecOn kinds _ h fun ctx hc k _ => hstart ctx k hc
  unfold onTimer startAll pollBorrowed
  split_ifs
  · exact hall.send _
  · exact hall
  · exact h

theorem apart_completion (k : Kind) (h : Apart ctx) : Apart (completion k t ctx) := h

theorem apart_sequencer {f : Download State → Ctx → Download State × Ctx}
    (h : Apart (f ctx.self.download ctx).2) : Apart (sequencer f ctx) := h

theorem apart_onConnected (h : Apart ctx) : Apart (onConnected ctx) := by
  unfold onConnected
  split_ifs
  · exact apart_sequencer (kept_apart.bump h)
  · exact apart_sequencer (kept_apart.begin states h)

theorem apart_onRequest (request : ClientRequest) (h : Apart ctx) :
    Apart (onRequest shared request ctx).1 := by
  cases request with
  | createOrder info request body =>
    simp only [onRequest, newOrder]
    split_ifs
    · exact h
    · split
      · exact h
      · exact h.send _
  | modifyOrder info request => exact h
  | cancelOrder info request marginMode body =>
    simp only [onRequest, cancelOrder]
    split
    · exact h
    · split
      · exact h
      · split
        · exact h
        · exact h.send _
  | cancelAllOrders request requestId =>
    simp only [onRequest, cancelAllOpenOrders]
    split_ifs
    · exact h
    · refine List.foldlRecOn _ _ h ?_
      intro ctx hc symbol _
      split_ifs
      · exact hc
      · exact ((hc.send _).send _).dispatch rfl

theorem apart_processResponse {α : Type} {decode : Body → Except String α}
    {response : RestResponse}
    {errorHandler : Origin → RequestStatus → Error → String → Ctx → Ctx}
    {successHandler : α → Ctx → Ctx} (h : Apart ctx)
    (herror : ∀ origin status error text ctx', Apart ctx' →
      Apart (errorHandler origin status error text ctx'))
    (hsuccess : ∀ value, Apart (successHandler value ctx)) :
    Apart (processResponse shared decode response errorHandler successHandler ctx) := by
  have hlimit : ∀ forbidden retryAfter, Apart (limit shared forbidden retryAfter ctx) := by
    intro forbidden retryAfter
    unfold limit
    split_ifs
    · exact h.wafLimitViolation shared
    · exact h
  exact processResponseWith_cases h hlimit herror (fun value _ => hsuccess value) fun _ => h.fatal _

theorem apart_getListenKeyAck (marginMode : MarginMode) (response : RestResponse)
    (retryNow : Bool) (h : Apart ctx) :
    Apart (getListenKeyAck shared t marginMode response retryNow ctx) := by
  refine apart_processResponse shared h ?_ ?_
  · intro _ _ _ _ ctx' h'
    exact apart_completion t .listenKeyCross
      (apart_sequencer (kept_apart.retry states retryNow .listenKey h'))
  · intro ack
    cases marginMode with
    | undefined => exact (h.fatal _).send _
    | isolated => exact (h.fatal _).send _
    | cross =>
      have hack : Apart (onListenKeyAckMargin ack .cross ctx) := h.emit rfl
      exact apart_completion t .listenKeyCross (apart_sequencer (kept_apart.check .listenKey hack))
    | portfolio => exact (h.fatal _).fatal _

theorem apart_completeOrders (marginMode : MarginMode) (h : Apart ctx) :
    Apart (completeOrders t marginMode ctx) := by
  cases marginMode with
  | undefined => exact apart_completion t .orders h
  | isolated => exact h.fatal _
  | cross => exact apart_completion t .ordersCross h
  | portfolio => exact h.fatal _

theorem apart_completeTrades (marginMode : MarginMode) (h : Apart ctx) :
    Apart (completeTrades t marginMode ctx) := by
  cases marginMode with
  | undefined => exact apart_completion t .trades h
  | isolated => exact h.fatal _
  | cross => exact apart_completion t .tradesCross h
  | portfolio => exact h.fatal _

/-- The funds of a cross-margin account are those of the margin wallet. -/
theorem apart_getAccountAck {marginMode : MarginMode} (hm : marginMode ≠ .undefined)
    (response : RestResponse) (h : Apart ctx) :
    Apart (getAccountAck shared t marginMode response ctx) := by
  cases marginMode with
  | undefined => exact absurd rfl hm
  | isolated =>
    refine apart_processResponse shared h ?_ ?_
    · intro _ _ _ _ ctx' h'; exact h'.fatal _
    · intro body; exact h.fatal _
  | cross =>
    refine apart_processResponse shared h ?_ ?_
    · intro _ _ _ _ ctx' h'; exact h'
    · intro account
      refine Apart.dispatchAll h ?_
      intro update hu
      obtain ⟨item,-,rfl⟩ := List.mem_map.mp hu
      rfl
  | portfolio =>
    refine apart_processResponse shared h ?_ ?_
    · intro _ _ _ _ ctx' h'; exact h'.fatal _
    · intro body; exact h.fatal _

/-- Every callback but that of a spot account. -/
theorem apart_onResponse {call : Call} (hc : call ≠ .account .undefined)
    (response : RestResponse) (retryNow : Bool) (h : Apart ctx) :
    Apart (onResponse shared t call response retryNow ctx) := by
  cases call with
  | listenKey marginMode => exact apart_getListenKeyAck shared t marginMode response retryNow h
  | account marginMode =>
    exact apart_getAccountAck shared t (fun hm => hc (congrArg Call.account hm)) response h
  | openOrders marginMode =>
    refine apart_processResponse shared h ?_ ?_
    · intro _ _ _ _ ctx' h'; exact apart_completeOrders t marginMode h'
    · intro ack
      refine apart_completeOrders t marginMode (List.foldlRecOn ack.data _ h ?_)
      intro ctx hctx order _
      unfold onOpenOrder
      split_ifs
      · exact hctx
      · exact Apart.dispatch hctx rfl
  | trades marginMode symbol lookback limit =>
    refine apart_processResponse shared h ?_ ?_
    · intro _ _ _ _ ctx' h'; exact apart_completeTrades t marginMode h'
    · intro ack; exact apart_completeTrades t marginMode h
  | accountCrossOnTimer =>
    refine apart_processResponse shared h ?_ ?_
    · intro _ _ _ _ ctx' h'; exact h'
    · intro account
      refine Apart.dispatchAll h ?_
      intro update hu
      obtain ⟨item,-,rfl⟩ := List.mem_map.mp hu
      rfl
  | newOrder body userId orderId =>
    refine apart_processResponse shared h ?_ ?_
    · intro _ _ _ _ ctx' h'; exact h'.dispatch rfl
    · intro ack; exact h.dispatch rfl
  | cancelOrder body userId orderId version =>
    refine apart_processResponse shared h ?_ ?_
    · intro _ _ _ _ ctx' h'; exact h'.dispatch rfl
    · intro ack; exact h.dispatch rfl
  | cancelAllOpenOrders symbol marginMode requestId =>
    refine apart_processResponse shared h ?_ ?_
    · intro _ _ _ _ ctx' h'; exact h'.dispatch rfl
    · intro ack
      refine (Apart.dispatchAll h ?_).dispatch rfl
      intro update hu
      obtain ⟨order,-,rfl⟩ := List.mem_map.mp hu
      rfl

/-- The callback of a spot account depends on the stream by its identity only. -/
theorem getAccountAck_undefined_outputs (response : RestResponse) {ctx' : Ctx}
    (hid : ctx'.self.identity = ctx.self.identity) (hout : ctx'.outputs = ctx.outputs) :
    (getAccountAck shared t .undefined response ctx').outputs =
      (getAccountAck shared t .undefined response ctx).outputs := by
  simp only [getAccountAck, processResponse, processResponseWith]
  cases classify Body.accountAck response with
  | success ack => simp [completion, hout, onAccountAck_congr hid]
  | error origin status error text => exact hout
  | rateLimited forbidden retryAfter text =>
    simp only [completion, Context.modify_outputs, Context.reply_outputs, limit, wafLimitViolation]
    split_ifs <;> simp [hout]
  | fatal text => simp [hout]

end OrderEntryMargin

namespace DropCopyMargin
open Wallets

theorem kept_apart (t : TraceInfo) : Download.Kept (downloadState t) Apart := by
  intro state ctx h
  cases state with
  | sessionLogon => exact ((h.dispatch rfl).send _).dispatch rfl
  | userDataStreamSubscribe => exact ((h.dispatch rfl).send _).dispatch rfl
  | account => exact (h.dispatch rfl).dispatch rfl
  | orders => exact (h.dispatch rfl).dispatch rfl
  | done => exact h.dispatch rfl

variable (t : TraceInfo) {ctx : Ctx}

theorem apart_onTimer (refresh : Bool) (h : Apart ctx) : Apart (onTimer t refresh ctx) := by
  have hcheck : ∀ state k {ctx : Ctx}, Apart ctx → Apart (checkResponse t state k ctx) := by
    intro state k ctx hc
    unfold checkResponse
    split_ifs
    · exact hc
    · exact (kept_apart t).check state hc
    · exact hc
  have hkey : Apart (checkResponseListenKey ctx) := by
    unfold checkResponseListenKey
    split_ifs
    · exact h
    · exact h
  unfold onTimer
  split_ifs
  · exact hcheck _ _ (hcheck _ _ hkey)
  · exact h

theorem apart_updateRateLimits (streamId : ℕ) (account : String) (items : List RateLimitsItem) :
    ∀ update ∈ updateRateLimits streamId account items, spotUpdate update = none := by
  unfold updateRateLimits
  split_ifs <;> simp [spotUpdate]

theorem apart_onReply {α : Type} (state : State) (reply : WSAPIReply α) (retryNow : Bool)
    (h : Apart ctx) : Apart (onReply t state reply retryNow ctx) := by
  refine Apart.dispatchAll ?_ (apart_updateRateLimits _ _ _)
  split_ifs
  · exact (kept_apart t).check state h
  · exact (kept_apart t).retry states retryNow state h

/-- Every event of the socket but a position. -/
theorem apart_onSocket (shared : Shared) {event : SocketEvent}
    (he : ∀ position order retryNow,
      event ≠ .message (.outboundAccountPosition position) order retryNow)
    (h : Apart ctx) : Apart (onSocket shared t event ctx) := by
  cases event with
  | ready => exact (kept_apart t).begin states h
  | disconnected => exact h.dispatch rfl
  | message message order retryNow =>
    cases message with
    | sessionLogon reply => exact apart_onReply t _ reply retryNow h
    | userDataStreamSubscribe reply => exact apart_onReply t _ reply retryNow h
    | eventStreamTerminated =>
      simp only [onSocket, onMessage, onEventStreamTerminated]
      split_ifs
      · exact h
      · exact h.emit rfl
    | outboundAccountPosition position => exact absurd rfl (he position order retryNow)
    | balanceUpdate => exact h
    | executionReport report =>
      refine Apart.dispatchAll h ?_
      unfold onExecutionReport
      split_ifs <;> simp [spotUpdate]
    | _ => exact h.fatal _

/-- The funds that a position is reported as: those of the spot wallet. -/
def positionFunds (self : DropCopyMargin) (position : OutboundAccountPositionData) :
    List FundsUpdate :=
  position.balances.map fun item =>
    { streamId := self.streamId, account := self.account, currency := item.asset,
      marginMode := .undefined, balance := item.freeAmount, hold := item.lockedAmount,
      borrowed := NaN, updateType := .incremental,
      exchangeTimeUtc := position.timeOfLastAccountUpdate,
      sendingTimeUtc := position.eventTime }

theorem onSocket_position_updates (shared : Shared) (position : OutboundAccountPositionData)
    (order : MatchedOrder) (retryNow : Bool) (hout : ctx.outputs = []) :
    (Effects.of (onSocket shared t (.message (.outboundAccountPosition position) order retryNow)
      ctx).outputs).dispatched.filterMap spotUpdate = positionFunds ctx.self position := by
  simp only [onSocket, onMessage, onOutboundAccountPositionData, Effects.of,
    dispatchAll_dispatched hout, onOutboundAccountPosition, List.filterMap_map]
  exact congrFun List.filterMap_eq_map _

end DropCopyMargin

namespace Wallets

/-- What an event of the margin wallet adds to the spot funds. -/
def adds (s : Wallets) (e : Timed Event) : List FundsUpdate :=
  match e.event with
  | .margin (.socket (.message (.outboundAccountPosition position) _ _)) =>
    s.margin.dropCopy.elim [] fun dropCopy => dropCopy.positionFunds position
  | _ => []

theorem adds_eq_nil_iff (s : Wallets) (e : Timed Event) : adds s e = [] ↔ received s e = [] := by
  unfold adds received
  split
  · cases s.margin.dropCopy <;> simp [DropCopyMargin.positionFunds]
  · exact iff_of_true rfl rfl

/-- The spot streams are the same, and the order entries have the same identity. -/
structure Related (streamId : ℕ) (account : String) (s s' : Wallets) : Prop where
  spot : s.spot = s'.spot
  left : s.margin.orderEntry.identity = (streamId,account)
  right : s'.margin.orderEntry.identity = (streamId,account)

variable {shared : Shared} {p : WSAPIParsers} {dropCopyStreamId streamId : ℕ} {account : String}

theorem identity_step (t : TraceInfo) (event : Margin.Event) {s : Margin.State}
    (h : s.orderEntry.identity = (streamId,account)) :
    (Streams.step (Margin.wiring shared dropCopyStreamId) t event s).1.orderEntry.identity =
      (streamId,account) :=
  Streams.orderEntry_step (Margin.delivers shared streamId dropCopyStreamId account) t event s h

/-- An event of the margin wallet's streams that is neither a position nor the reply to a spot
account publishes no spot funds. -/
theorem margin_step_updates (t : TraceInfo) {event : Margin.Event}
    (hposition : ∀ position order retryNow,
      event ≠ .socket (.message (.outboundAccountPosition position) order retryNow))
    (haccount : ∀ job response retryNow, event = .reply job response retryNow →
      job.call ≠ .account .undefined) (s : Margin.State) :
    (Streams.step (Margin.wiring shared dropCopyStreamId) t event s).2.dispatched.filterMap
      spotUpdate = [] := by
  have hctx : Apart (⟨s.orderEntry,s.request,[]⟩ : OrderEntryMargin.Ctx) := Apart.of_nil rfl
  cases event with
  | timer timerNow orderEntryRefresh dropCopyRefresh =>
    have ho := (OrderEntryMargin.apart_onTimer shared timerNow orderEntryRefresh hctx).dispatched
    have hd : ∀ s : Margin.State, (Streams.dropCopyPhase
        (DropCopyMargin.onTimer t dropCopyRefresh) s).2.dispatched.filterMap spotUpdate = [] := by
      intro s
      unfold Streams.dropCopyPhase
      split
      · rfl
      · exact (DropCopyMargin.apart_onTimer t dropCopyRefresh (Apart.of_nil rfl)).dispatched
    simp only [Streams.step, Effects.append, List.filterMap_append]
    exact List.append_eq_nil_iff.mpr ⟨ho,hd _⟩
  | connected => exact (OrderEntryMargin.apart_onConnected hctx).dispatched
  | disconnected => exact Apart.dispatched (Apart.dispatch hctx rfl)
  | reply job response retryNow =>
    exact (OrderEntryMargin.apart_onResponse shared t (haccount job response retryNow rfl)
      response retryNow hctx).dispatched
  | client request => exact (OrderEntryMargin.apart_onRequest shared request hctx).dispatched
  | socket event =>
    simp only [Streams.step, Streams.dropCopyPhase]
    split
    · rfl
    · refine (DropCopyMargin.apart_onSocket t shared ?_ (Apart.of_nil rfl)).dispatched
      rintro position order retryNow rfl
      exact hposition position order retryNow rfl

/-- The reply to a spot account publishes the same from either state. -/
theorem account_reply_updates (t : TraceInfo) {job : Job OrderEntryMargin.Call}
    (hjob : job.call = .account .undefined) (response : RestResponse) (retryNow : Bool)
    {s s' : Margin.State} (hid : s.orderEntry.identity = s'.orderEntry.identity) :
    (Streams.step (Margin.wiring shared dropCopyStreamId) t (.reply job response retryNow) s
        ).2.dispatched =
      (Streams.step (Margin.wiring shared dropCopyStreamId) t (.reply job response retryNow) s'
        ).2.dispatched := by
  have h := OrderEntryMargin.getAccountAck_undefined_outputs shared t response
    (show (⟨s.orderEntry,s.request,[]⟩ : OrderEntryMargin.Ctx).self.identity =
      (⟨s'.orderEntry,s'.request,[]⟩ : OrderEntryMargin.Ctx).self.identity from hid) rfl
  simp only [Streams.step, Streams.orderEntryPhase, Margin.wiring, hjob,
    OrderEntryMargin.onResponse, h]

theorem position_updates (t : TraceInfo) (position : OutboundAccountPositionData)
    (order : MatchedOrder) (retryNow : Bool) (s : Margin.State) :
    (Streams.step (Margin.wiring shared dropCopyStreamId) t
      (.socket (.message (.outboundAccountPosition position) order retryNow)) s
        ).2.dispatched.filterMap spotUpdate =
      s.dropCopy.elim [] fun dropCopy => dropCopy.positionFunds position := by
  simp only [Streams.step, Streams.dropCopyPhase]
  cases s.dropCopy with
  | none => rfl
  | some dropCopy =>
    exact DropCopyMargin.onSocket_position_updates t shared position order retryNow rfl

theorem unwinding :
    (transducer shared p dropCopyStreamId).Unwinding (fun e => !ofMarginWallet e) spotUpdate adds
      (Related streamId account) where
  kept := by
    intro s s' e hk hR
    obtain ⟨t,event⟩ := e
    cases event with
    | spot event =>
      refine ⟨⟨?_,hR.left,hR.right⟩,rfl,?_⟩
      · simp only [transducer, step, hR.spot]
      · simp only [transducer, step, hR.spot]
    | margin event =>
      have hposition : ∀ position order retryNow,
          event ≠ .socket (.message (.outboundAccountPosition position) order retryNow) := by
        rintro position order retryNow rfl
        simp [ofMarginWallet] at hk
      refine ⟨⟨hR.spot,identity_step t event hR.left,identity_step t event hR.right⟩,?_,?_⟩
      · unfold adds
        split
        · rename_i position order retryNow he
          exact absurd (Event.margin.inj he) (hposition position order retryNow)
        · rfl
      · simp only [transducer, step]
        by_cases haccount : ∃ job response retryNow,
            event = .reply job response retryNow ∧ job.call = .account .undefined
        · obtain ⟨job,response,retryNow,rfl,hjob⟩ := haccount
          rw [account_reply_updates t hjob response retryNow (hR.left.trans hR.right.symm)]
        · have hn : ∀ job response retryNow, event = .reply job response retryNow →
              job.call ≠ .account .undefined :=
            fun job response retryNow he hj => haccount ⟨job,response,retryNow,he,hj⟩
          rw [margin_step_updates t hposition hn,margin_step_updates t hposition hn]
  deleted := by
    intro s s' e hk hR
    obtain ⟨t,event⟩ := e
    cases event with
    | spot event => simp [ofMarginWallet] at hk
    | margin event =>
      refine ⟨⟨hR.spot,identity_step t event hR.left,hR.right⟩,?_⟩
      simp only [transducer, step]
      unfold adds
      split
      · rename_i position order retryNow he
        obtain rfl := Event.margin.inj he
        exact position_updates t position order retryNow s.margin
      · rename_i he
        refine margin_step_updates t ?_ ?_ s.margin
        · rintro position order retryNow rfl
          exact he position order retryNow rfl
        · rintro job response retryNow rfl hj
          simp [ofMarginWallet, hj] at hk

/-- Deleting the events of the margin wallet leaves the spot funds as they are published exactly
if the margin wallet's user stream is told of no position. -/
theorem spot_funds_unaffected_iff (shared : Shared) (p : WSAPIParsers)
    (spotStreamId streamId dropCopyStreamId : ℕ) (account : String) (es : List (Timed Event)) :
    ((transducer shared p dropCopyStreamId).outputs (init spotStreamId streamId account)
        es).filterMap spotUpdate =
      ((transducer shared p dropCopyStreamId).outputs (init spotStreamId streamId account)
        (es.filter fun e => !ofMarginWallet e)).filterMap spotUpdate ↔
    (transducer shared p dropCopyStreamId).Throughout (fun s e => received s e = [])
      (init spotStreamId streamId account) es := by
  have hR : Related streamId account (init spotStreamId streamId account)
      (init spotStreamId streamId account) := ⟨rfl,rfl,rfl⟩
  rw [unwinding.outputs_eq_iff es hR]
  simp only [adds_eq_nil_iff]

def Event.margin? : Event → Option Margin.Event
  | .spot _ => none
  | .margin event => some event

def marginEvents (es : List (Timed Event)) : List (Timed Margin.Event) :=
  es.filterMap fun e => e.event.margin?.map (⟨e.time,·⟩)

/-- The user stream logs on, subscribes and is told of a position. -/
def position : List (Timed Event) :=
  [⟨⟨1,0⟩,.margin .connected⟩,
   ⟨⟨2,0⟩,.margin (.reply ⟨.listenKey .cross,1⟩ (.result 200 .success 0
     {Body.unreadable with listenKeyAckMargin := .ok ⟨"token"⟩}) false)⟩,
   ⟨⟨3,0⟩,.margin (.socket .ready)⟩,
   ⟨⟨4,0⟩,.margin (.socket (.message (.sessionLogon ⟨200,(),⟨0,""⟩,[]⟩) ⟨0,0,0⟩ false))⟩,
   ⟨⟨5,0⟩,.margin (.socket (.message (.userDataStreamSubscribe ⟨200,(),⟨0,""⟩,[]⟩) ⟨0,0,0⟩ false))⟩,
   ⟨⟨6,0⟩,.margin (.socket (.message
     (.outboundAccountPosition ⟨6,6,[⟨"BTC",some 1,some 0⟩]⟩) ⟨0,0,0⟩ false))⟩]

/-- A position of the margin wallet is published as one of the spot wallet. -/
theorem margin_position_published_as_spot :
    ¬ ∀ es, ((Margin.machine Shared.sample 2 3 "A1").run (Margin.init 2 "A1")
        (marginEvents es)).isSome →
      ((transducer Shared.sample .sample 3).outputs (init 1 2 "A1") es).filterMap spotUpdate =
        ((transducer Shared.sample .sample 3).outputs (init 1 2 "A1")
          (es.filter fun e => !ofMarginWallet e)).filterMap spotUpdate := by
  intro h
  have hp := congrArg List.length (h position (by decide))
  exact absurd hp (by decide)

end Wallets
end RoqBinance.Gateway
