import RoqBinance.Gateway.Keeps
import RoqBinance.Gateway.Ledger
import RoqBinance.Gateway.OrderEntryPortfolio
import RoqBinance.Gateway.DropCopyPortfolio

/-! A portfolio account: its order entry and its user stream, which the controller creates
when the first listen key arrives. -/
namespace RoqBinance.Gateway
open Library Protocol.Json

namespace OrderEntryPortfolio

def identity (self : OrderEntryPortfolio) : ℕ × String := (self.streamId,self.account)

def view (ctx : Ctx) : ℕ × String := ctx.self.identity

/-- The identity, and what only a successful listen-key response changes. -/
def keyView (ctx : Ctx) : (ℕ × String) × String × List ListenKeyUpdate :=
  (ctx.self.identity,ctx.self.listenKey,listenKeyUpdates ctx.outputs)

theorem indifferent : Indifferent view := Indifferent.self identity

theorem indifferent_key : Indifferent keyView where
  emit ctx output ho := by simp [keyView, listenKeyUpdates, List.filterMap_append, ho]
  reply _ _ _ := rfl

theorem keyView_setDownload (k : Kind) (value : Bool) (ctx : Ctx) :
    keyView (ctx.modify (setDownload k value)) = keyView ctx := by cases k <;> rfl

theorem keeps_onConnectionStatus {ctx ctx' : Ctx} (h : Keeps keyView ctx ctx')
    (status : ConnectionStatus) (reason : String) :
    Keeps keyView ctx (onConnectionStatus status reason ctx') := by
  refine Keeps.dispatch indifferent_key ?_ _
  exact ⟨h.view,h.request⟩

theorem keeps_downloadState (state : State) (ctx : Ctx) :
    Keeps keyView ctx (downloadState state ctx).1 := by
  have h := keeps_onConnectionStatus (Keeps.refl ctx)
  cases state with
  | listenKey =>
    rw [downloadState]
    split_ifs
    · exact (h .downloading "LISTEN_KEY").send indifferent_key .listenKey
    · exact Keeps.refl ctx
  | done => exact ⟨(h .ready "").view,(h .ready "").request⟩

theorem kept_keeps (ctx₀ : Ctx) :
    Download.Kept downloadState (Keeps keyView ctx₀) :=
  fun state ctx h => h.trans (keeps_downloadState state ctx)

theorem keeps_sequencer {f : Download State → Ctx → Download State × Ctx} {ctx₀ ctx : Ctx}
    (h : Keeps keyView ctx₀ (f ctx.self.download ctx).2) : Keeps keyView ctx₀ (sequencer f ctx) :=
  ⟨h.view,h.request⟩

theorem keeps_onConnected (ctx : Ctx) : Keeps keyView ctx (onConnected ctx) := by
  unfold onConnected
  split_ifs
  · exact keeps_sequencer ((kept_keeps ctx).bump (Keeps.refl ctx))
  · exact keeps_sequencer ((kept_keeps ctx).begin states (Keeps.refl ctx))

theorem keeps_onDisconnected (ctx : Ctx) : Keeps keyView ctx (onDisconnected ctx) := by
  have hready : Keeps keyView ctx (ctx.modify fun self => {self with ready := false}) :=
    (Keeps.refl ctx).modify rfl
  have h := keeps_onConnectionStatus hready .disconnected ""
  exact ⟨h.view,h.request⟩

variable (shared : Shared)

theorem keeps_get (k : Kind) (ctx : Ctx) : Keeps keyView ctx (get shared k ctx) := by
  have hctx : Keeps keyView ctx ctx := Keeps.refl ctx
  cases k with
  | account => exact hctx.send indifferent_key .account
  | orders => exact hctx.send indifferent_key .openOrders
  | trades =>
    refine Keeps.foldl (fun ctx symbol => ?_) shared.settings.downloadSymbols ctx
    exact (Keeps.refl ctx).send indifferent_key _
  | _ => exact hctx

theorem keeps_start (ctx : Ctx) (k : Kind) : Keeps keyView ctx (start shared ctx k) := by
  unfold start
  split_ifs
  · have h := keeps_get shared k ctx
    exact ⟨(keyView_setDownload k true _).trans h.view,h.request⟩
  · exact Keeps.refl ctx

theorem keeps_refreshListenKey (t : TraceInfo) (ctx : Ctx) :
    Keeps keyView ctx (refreshListenKey shared t ctx) := by
  unfold refreshListenKey
  split_ifs
  · exact Keeps.refl ctx
  · exact Keeps.refl ctx
  · have hctx : Keeps keyView ctx (ctx.modify fun self =>
        {self with listenKeyRefresh := t.originCreateTime+shared.settings.listenKeyRefresh}) :=
      (Keeps.refl ctx).modify rfl
    exact hctx.send indifferent_key .listenKey

theorem keeps_onTimer (t : TraceInfo) (refresh : Bool) (ctx : Ctx) :
    Keeps keyView ctx (onTimer shared t refresh ctx) := by
  have h := keeps_refreshListenKey shared t ctx
  simp only [onTimer]
  split_ifs
  · exact h.trans (Keeps.foldl (keeps_start shared) kinds _)
  · exact h
  · exact Keeps.refl ctx

theorem keeps_onRequest (request : ClientRequest) (ctx : Ctx) :
    Keeps keyView ctx (onRequest shared request ctx).1 := by
  cases request with
  | createOrder info request body =>
    have hsymbol : Keeps keyView ctx (ctx.modify fun self =>
        {self with openOrdersSymbols := emplace self.openOrdersSymbols request.symbol}) :=
      (Keeps.refl ctx).modify rfl
    simp only [onRequest, newOrder]
    split_ifs
    · exact Keeps.refl ctx
    · split
      · exact hsymbol
      · exact hsymbol.send indifferent_key _
  | modifyOrder info request => exact Keeps.refl ctx
  | cancelOrder info request body =>
    simp only [onRequest, cancelOrder]
    split_ifs
    · exact Keeps.refl ctx
    · split
      · exact Keeps.refl ctx
      · exact (Keeps.refl ctx).send indifferent_key _
  | cancelAllOrders request requestId =>
    simp only [onRequest, cancelAllOpenOrders]
    split_ifs
    · exact Keeps.refl ctx
    · refine Keeps.foldl (fun ctx symbol => ?_) _ ctx
      split_ifs
      · exact Keeps.refl ctx
      · exact ((Keeps.refl ctx).send indifferent_key _).dispatch indifferent_key _

theorem keeps_onOpenOrdersAck (ack : OpenOrdersAck) (ctx : Ctx) :
    Keeps keyView ctx (onOpenOrdersAck shared ack ctx) := by
  refine Keeps.foldl (fun ctx order => ?_) ack.data ctx
  unfold onOpenOrder
  split_ifs
  · exact Keeps.refl ctx
  · have hsymbol : Keeps keyView ctx (ctx.modify fun self =>
        {self with openOrdersSymbols := emplace self.openOrdersSymbols order.symbol}) :=
      (Keeps.refl ctx).modify rfl
    exact hsymbol.dispatch indifferent_key _

/-- The first listen key, and only that one, is passed on. -/
theorem onListenKeyAck_spec (t : TraceInfo) (ack : ListenKeyAck) (ctx : Ctx) :
    (onListenKeyAck shared t ack ctx).self.identity = ctx.self.identity ∧
      (onListenKeyAck shared t ack ctx).self.listenKey = ack.listenKey ∧
      listenKeyUpdates (onListenKeyAck shared t ack ctx).outputs = listenKeyUpdates ctx.outputs ++
        if ack.listenKey ≠ ctx.self.listenKey ∧ ctx.self.listenKey = "" then
          [⟨ctx.self.account,.portfolio,ack.listenKey⟩]
        else [] := by
  simp only [onListenKeyAck]
  split_ifs
  · exact ⟨rfl,rfl,by simp [listenKeyUpdates, Output.listenKey]⟩
  · exact ⟨rfl,rfl,by simp [listenKeyUpdates]⟩

theorem keeps_onListenKeyAck (t : TraceInfo) (ack : ListenKeyAck) (ctx : Ctx) :
    Keeps view ctx (onListenKeyAck shared t ack ctx) := by
  refine ⟨(onListenKeyAck_spec shared t ack ctx).1,?_⟩
  simp only [onListenKeyAck]
  split_ifs <;> rfl

def Call.kind : Call → Option Kind
  | .listenKey => none
  | .account => some .account
  | .openOrders => some .orders
  | .trades _ _ _ => some .trades
  | .newOrder _ _ _ => none
  | .cancelOrder _ _ _ _ => none
  | .cancelAllOpenOrders _ _ => none

variable {t : TraceInfo} {ctx ctx' : Ctx}

theorem answers_completion (h : Keeps keyView ctx ctx') (k : Kind) :
    Answers keyView t (some k) ctx (completion k t ctx') :=
  h.reply indifferent_key k (keyView_setDownload k false)

theorem keeps_limit (forbidden : Bool) (retryAfter : ℕ) (ctx : Ctx) :
    Keeps keyView ctx (limit shared forbidden retryAfter ctx) := by
  have hwaf : Keeps keyView ctx (if forbidden then wafLimitViolation shared ctx else ctx) := by
    split_ifs
    · exact (Keeps.refl ctx).wafLimitViolation indifferent_key shared
    · exact Keeps.refl ctx
  unfold limit suspendFor
  split_ifs at hwaf ⊢
  · exact hwaf.emit indifferent_key rfl
  · exact hwaf.emit indifferent_key rfl
  · exact hwaf
  · exact hwaf

theorem answers_processResponse {α : Type} {decode : Body → Except String α}
    {response : RestResponse}
    {errorHandler : Origin → RequestStatus → Error → String → Ctx → Ctx}
    {successHandler : α → Ctx → Ctx} {o : Option Kind} {ctx : Ctx}
    (herror : ∀ origin status error text ctx', Keeps keyView ctx ctx' →
      Answers keyView t o ctx (errorHandler origin status error text ctx'))
    (hsuccess : ∀ value, Answers keyView t o ctx (successHandler value ctx)) :
    Answers keyView t o ctx
      (processResponse shared decode response errorHandler successHandler ctx) :=
  answers_processResponseWith indifferent_key
    (fun forbidden retryAfter => keeps_limit shared forbidden retryAfter ctx) herror hsuccess

/-- The callbacks other than that of a listen key. -/
theorem answers_onResponse_key {call : Call} (hcall : call ≠ .listenKey) (response : RestResponse)
    (retryNow : Bool) (ctx : Ctx) :
    Answers keyView t call.kind ctx (onResponse shared t call response retryNow ctx) := by
  have hctx : Keeps keyView ctx ctx := Keeps.refl ctx
  cases call with
  | listenKey => exact absurd rfl hcall
  | account =>
    rw [onResponse,getAccountAck]
    refine answers_processResponse shared ?_ ?_
    · intro _ _ _ _ ctx' h; exact answers_completion h .account
    · intro ack; exact answers_completion (hctx.dispatchAll indifferent_key _) .account
  | openOrders =>
    rw [onResponse,getOpenOrdersAck]
    refine answers_processResponse shared ?_ ?_
    · intro _ _ _ _ ctx' h; exact answers_completion h .orders
    · intro ack; exact answers_completion (keeps_onOpenOrdersAck shared ack ctx) .orders
  | trades symbol lookback limit =>
    rw [onResponse,getTradesAck]
    refine answers_processResponse shared ?_ ?_
    · intro _ _ _ _ ctx' h; exact answers_completion h .trades
    · intro ack
      have h := answers_completion (t := t) (hctx.dispatchAll indifferent_key
        (onTradesAck shared ctx.self ack)) .trades
      exact ⟨h.view,h.request⟩
  | newOrder body userId orderId =>
    rw [onResponse,newOrderAck]
    refine answers_processResponse shared ?_ ?_
    · intro _ _ _ _ ctx' h; exact (h.dispatch indifferent_key _).answers
    · intro ack; exact (hctx.dispatch indifferent_key _).answers
  | cancelOrder body userId orderId version =>
    rw [onResponse,cancelOrderAck]
    refine answers_processResponse shared ?_ ?_
    · intro _ _ _ _ ctx' h; exact (h.dispatch indifferent_key _).answers
    · intro ack; exact (hctx.dispatch indifferent_key _).answers
  | cancelAllOpenOrders symbol requestId =>
    rw [onResponse,cancelAllOpenOrdersAck]
    refine answers_processResponse shared ?_ ?_
    · intro _ _ error text ctx' h; exact (h.dispatch indifferent_key _).answers
    · intro ack
      exact ((hctx.dispatchAll indifferent_key _).dispatch indifferent_key _).answers

/-- A listen-key response stores its key and moves the sequencer on, or it leaves the key. -/
theorem getListenKeyAck_cases (response : RestResponse) (retryNow : Bool) (ctx : Ctx) :
    (∃ ack, (classify Body.listenKeyAck response).value = some ack ∧
      getListenKeyAck shared t response retryNow ctx =
        sequencer (Download.check downloadState .listenKey) (onListenKeyAck shared t ack ctx)) ∨
    ((classify Body.listenKeyAck response).value = none ∧
      Answers keyView t none ctx (getListenKeyAck shared t response retryNow ctx)) := by
  have hretry : ∀ {ctx'}, Keeps keyView ctx ctx' → Answers keyView t none ctx
      (sequencer (Download.retry downloadState states retryNow .listenKey) ctx') := by
    intro ctx' h
    exact (keeps_sequencer ((kept_keeps ctx).retry states retryNow .listenKey h)).answers
  simp only [getListenKeyAck, processResponse, processResponseWith]
  cases hc : classify Body.listenKeyAck response with
  | success ack => exact .inl ⟨ack,rfl,rfl⟩
  | error origin status error text => exact .inr ⟨rfl,hretry (Keeps.refl ctx)⟩
  | rateLimited forbidden retryAfter text =>
    exact .inr ⟨rfl,hretry (keeps_limit shared forbidden retryAfter ctx)⟩
  | fatal text => exact .inr ⟨rfl,(Keeps.refl ctx).fatal indifferent_key none text⟩

theorem answers_onResponse (call : Call) (response : RestResponse) (retryNow : Bool) (ctx : Ctx) :
    Answers view t call.kind ctx (onResponse shared t call response retryNow ctx) := by
  by_cases hcall : call = .listenKey
  · obtain rfl := hcall
    rw [onResponse]
    rcases getListenKeyAck_cases (t := t) shared response retryNow ctx with ⟨ack,-,h⟩ | ⟨-,h⟩
    · rw [h]
      have hack := keeps_onListenKeyAck shared t ack ctx
      have hcheck := (keeps_sequencer ((kept_keeps _).check .listenKey
        (Keeps.refl (onListenKeyAck shared t ack ctx)))).comp Prod.fst
      exact (hack.trans hcheck).answers
    · exact h.comp Prod.fst
  · exact (answers_onResponse_key shared hcall response retryNow ctx).comp Prod.fst

def snapshot (self : OrderEntryPortfolio) (call : Call) (response : RestResponse) :
    Option (List Dispatch) :=
  match call with
  | .account => (classify Body.balancesAck response).value.map (onBalancesAck self)
  | .openOrders =>
    (classify Body.openOrdersAck response).value.map fun ack =>
      (ordersOf ack).map (orderUpdate shared self)
  | .trades _ _ _ => (classify Body.tradesAck response).value.map (onTradesAck shared self)
  | _ => none

variable {shared} {self : OrderEntryPortfolio}

/-- The updates depend on the stream by its identity only. -/
theorem onBalancesAck_congr {self' : OrderEntryPortfolio} (h : self'.identity = self.identity)
    (ack : BalancesAck) : onBalancesAck self' ack = onBalancesAck self ack := by
  obtain ⟨hs,ha⟩ := Prod.mk.inj h
  simp only [onBalancesAck, hs, ha]

theorem orderUpdate_congr {self' : OrderEntryPortfolio} (h : self'.identity = self.identity)
    (order : Order) : orderUpdate shared self' order = orderUpdate shared self order := by
  obtain ⟨hs,ha⟩ := Prod.mk.inj h
  simp only [orderUpdate, hs, ha]

theorem onTradesAck_congr {self' : OrderEntryPortfolio} (h : self'.identity = self.identity)
    (ack : TradesAck) : onTradesAck shared self' ack = onTradesAck shared self ack := by
  obtain ⟨hs,ha⟩ := Prod.mk.inj h
  have hitem : tradeUpdate shared self' = tradeUpdate shared self := by
    funext item
    simp only [tradeUpdate, hs, ha]
  rw [onTradesAck,hitem,onTradesAck]

theorem onOpenOrdersAck_dispatched (shared : Shared) (ack : OpenOrdersAck) {ctx : Ctx}
    (hs : ctx.self.identity = self.identity) :
    (onOpenOrdersAck shared ack ctx).outputs.filterMap Output.dispatched =
      ctx.outputs.filterMap Output.dispatched ++ (ordersOf ack).map (orderUpdate shared self) := by
  refine foldl_dispatched (I := fun ctx => ctx.self.identity = self.identity) ?_ ?_ ?_ ack.data hs
  · intro ctx order h
    unfold onOpenOrder
    split_ifs
    · exact h
    · exact h
  · intro ctx order hid
    exact if_pos (by simpa using hid)
  · intro ctx order h hid
    rw [onOpenOrder,if_neg (by simpa using hid),orderUpdate_congr h]
    rfl

/-- A response that has a snapshot dispatches it and nothing else. -/
theorem onResponse_dispatched (self : OrderEntryPortfolio) {call : Call} {response : RestResponse}
    {ctx : Ctx} {dispatched : List Dispatch} (hs : ctx.self.identity = self.identity) (ho : ctx.outputs = [])
    (h : snapshot shared self call response = some dispatched) (retryNow : Bool) :
    (onResponse shared t call response retryNow ctx).outputs.filterMap Output.dispatched =
      dispatched := by
  cases call with
  | account =>
    obtain ⟨ack,hack,rfl⟩ := Option.map_eq_some_iff.mp h
    rw [onResponse,getAccountAck,processResponse,
      processResponseWith_success (Processed.value_eq_some.mp hack),onBalancesAck_congr hs]
    exact dispatchAll_dispatched ho
  | openOrders =>
    obtain ⟨ack,hack,rfl⟩ := Option.map_eq_some_iff.mp h
    rw [onResponse,getOpenOrdersAck,processResponse,
      processResponseWith_success (Processed.value_eq_some.mp hack)]
    have hack := onOpenOrdersAck_dispatched shared ack hs
    rw [ho] at hack
    exact hack
  | trades symbol lookback limit =>
    obtain ⟨ack,hack,rfl⟩ := Option.map_eq_some_iff.mp h
    rw [onResponse,getTradesAck,processResponse,
      processResponseWith_success (Processed.value_eq_some.mp hack),onTradesAck_congr hs]
    exact dispatchAll_dispatched ho
  | _ => cases h

end OrderEntryPortfolio

namespace DropCopyPortfolio
variable {shared : Shared} {t : TraceInfo} {r : Request}

/-- The handler only asks for downloads. -/
abbrev Posts (t : TraceInfo) (r : Request) (ctx : Ctx) : Prop :=
  Request.Posted t.originCreateTime r ctx.request

theorem kept_posts (shared : Shared) (t : TraceInfo) (r : Request) :
    Download.Kept (downloadState shared t) (Posts t r) := by
  intro state ctx h
  cases state with
  | account => exact h.post .account
  | orders => exact h.post .orders
  | trades =>
    simp only [downloadState]
    split_ifs
    · exact h.post .trades
    · exact h
  | done => exact h

theorem posts_checkResponse (state : State) (k : Kind) {ctx : Ctx} (h : Posts t r ctx) :
    Posts t r (checkResponse shared t state k ctx) := by
  unfold checkResponse
  split_ifs
  · exact h
  · exact (kept_posts shared t r).check state h
  · exact h

theorem posts_onTimer (refresh : Bool) {ctx : Ctx} (h : Posts t r ctx) :
    Posts t r (onTimer shared t refresh ctx) := by
  unfold onTimer
  split_ifs
  · exact posts_checkResponse _ _ (posts_checkResponse _ _ (posts_checkResponse _ _ h))
  · exact h

theorem posts_onSocket (event : SocketEvent) {ctx : Ctx} (h : Posts t r ctx) :
    Posts t r (onSocket shared t event ctx) := by
  cases event with
  | ready => exact (kept_posts shared t r).begin states h
  | disconnected => exact h
  | message message order => cases message <;> exact h

end DropCopyPortfolio

namespace Portfolio

/-- The controller creates the user stream once and passes no further listen key on. -/
def onListenKeyUpdate (dropCopyStreamId : ℕ) (update : ListenKeyUpdate) :
    Option DropCopyPortfolio → Option DropCopyPortfolio
  | none => some (DropCopyPortfolio.create dropCopyStreamId update.account update.listenKey)
  | some dropCopy => some dropCopy

def wiring (shared : Shared) (dropCopyStreamId : ℕ) :
    Wiring OrderEntryPortfolio DropCopyPortfolio OrderEntryPortfolio.Call DropCopyPortfolio.Call
      DropCopyPortfolio.SocketEvent OrderEntryPortfolio.ClientRequest where
  timer t _ refresh := OrderEntryPortfolio.onTimer shared t refresh
  connected _ := OrderEntryPortfolio.onConnected
  disconnected := OrderEntryPortfolio.onDisconnected
  response := OrderEntryPortfolio.onResponse shared
  client := OrderEntryPortfolio.onRequest shared
  dropCopyTimer := DropCopyPortfolio.onTimer shared
  dropCopySocket := DropCopyPortfolio.onSocket shared
  listenKeyUpdate := onListenKeyUpdate dropCopyStreamId

abbrev State := Streams OrderEntryPortfolio DropCopyPortfolio OrderEntryPortfolio.Call
abbrev Event :=
  Streams.Event OrderEntryPortfolio.Call DropCopyPortfolio.SocketEvent
    OrderEntryPortfolio.ClientRequest

abbrev machine (shared : Shared) (streamId dropCopyStreamId : ℕ) (account : String) :
    Machine State (Timed Event) :=
  Streams.machine (wiring shared dropCopyStreamId) (OrderEntryPortfolio.create streamId account)

abbrev init (streamId : ℕ) (account : String) : State :=
  Streams.create (OrderEntryPortfolio.create streamId account)

/-- The downloads of the order entry with this stream id and account. -/
def downloads (shared : Shared) (streamId : ℕ) (account : String) :
    Downloads OrderEntryPortfolio.Call where
  kind := OrderEntryPortfolio.Call.kind
  snapshot := OrderEntryPortfolio.snapshot shared (OrderEntryPortfolio.create streamId account)

variable (shared : Shared) (streamId dropCopyStreamId : ℕ) (account : String)

theorem lawful : (wiring shared dropCopyStreamId).Lawful (downloads shared streamId account) where
  timer t _ refresh ctx := (OrderEntryPortfolio.keeps_onTimer shared t refresh ctx).request
  connected _ ctx := (OrderEntryPortfolio.keeps_onConnected ctx).request
  disconnected _ := rfl
  client request ctx := (OrderEntryPortfolio.keeps_onRequest shared request ctx).request
  response _ call response retryNow ctx :=
    (OrderEntryPortfolio.answers_onResponse shared call response retryNow ctx).request
  dropCopyTimer _ refresh _ := DropCopyPortfolio.posts_onTimer refresh (Request.Posted.refl _ _)
  dropCopySocket _ event _ := DropCopyPortfolio.posts_onSocket event (Request.Posted.refl _ _)

theorem delivers : (wiring shared dropCopyStreamId).Delivers (downloads shared streamId account)
    (fun self => self.identity = (streamId,account)) where
  timer t _ refresh ctx h :=
    (congrArg Prod.fst (OrderEntryPortfolio.keeps_onTimer shared t refresh ctx).view).trans h
  connected _ ctx h := (congrArg Prod.fst (OrderEntryPortfolio.keeps_onConnected ctx).view).trans h
  disconnected _ h := h
  client request ctx h :=
    (congrArg Prod.fst (OrderEntryPortfolio.keeps_onRequest shared request ctx).view).trans h
  response t call response retryNow ctx h :=
    (OrderEntryPortfolio.answers_onResponse (t := t) shared call response retryNow
      ctx).view.trans h
  snapshot _ _ _ retryNow _ h ho _ hd :=
    OrderEntryPortfolio.onResponse_dispatched (.create streamId account) h ho hd retryNow

end Portfolio
end RoqBinance.Gateway
