import RoqBinance.Gateway.CancelAll
import RoqBinance.Gateway.SteadySocket

/-! Canceling all orders reaches every symbol in which a stream has sent an order or has seen
one in a snapshot, over whatever the stream has been through since. -/
namespace RoqBinance.Gateway
open Library Protocol.Json

theorem mem_emplace {symbols : List String} {symbol a : String} :
    a ∈ emplace symbols symbol ↔ a ∈ symbols ∨ a = symbol := by
  unfold emplace
  split_ifs with h
  · constructor
    · intro ha; exact .inl ha
    · rintro (ha | rfl)
      · exact ha
      · exact h
  · simp

theorem mem_foldl_emplace {xs symbols : List String} {a : String} :
    a ∈ xs.foldl emplace symbols ↔ a ∈ symbols ∨ a ∈ xs := by
  induction xs generalizing symbols with
  | nil => simp
  | cons x xs ih => rw [List.foldl_cons,ih,mem_emplace,List.mem_cons,or_assoc]

theorem mem_affected {request : CancelAllOrders} {symbols : List String} {a : String} :
    a ∈ affected request symbols ↔ a ∈ symbols ∧ (request.symbol = "" ∨ a = request.symbol) := by
  simp [affected, or_iff_not_imp_left]

/-- The symbols of the orders in a snapshot that are dispatched. -/
def symbolsOf (orders : List Order) : List String :=
  (ordersOf ⟨orders⟩).map fun order => order.symbol

/-- The symbols of a snapshot that a callback processes. -/
def snapshotSymbols (response : RestResponse) : List String :=
  match classify Body.openOrdersAck response with
  | .success ack => symbolsOf ack.data
  | _ => []

namespace Facet
variable {Self Call State : Type} {v : Facet Self Call State}

/-- A loop over the orders that remembers the symbols of those that are dispatched. -/
theorem symbols_foldl {f : Context Self Call → Order → Context Self Call}
    (hf : ∀ ctx order, v.symbols (f ctx order).self =
      if order.clientOrderId = "" then v.symbols ctx.self
      else emplace (v.symbols ctx.self) order.symbol)
    (orders : List Order) (ctx : Context Self Call) :
    v.symbols (orders.foldl f ctx).self = (symbolsOf orders).foldl emplace (v.symbols ctx.self) := by
  induction orders generalizing ctx with
  | nil => rfl
  | cons order orders ih =>
    rw [List.foldl_cons,ih,hf]
    by_cases h : order.clientOrderId = ""
    · simp [symbolsOf, ordersOf, h]
    · simp [symbolsOf, ordersOf, h]

theorem symbolsOf_subset_foldl {f : Context Self Call → Order → Context Self Call}
    (hf : ∀ ctx order, v.symbols (f ctx order).self =
      if order.clientOrderId = "" then v.symbols ctx.self
      else emplace (v.symbols ctx.self) order.symbol)
    (orders : List Order) (ctx : Context Self Call) :
    symbolsOf orders ⊆ v.symbols (orders.foldl f ctx).self := by
  intro symbol hm
  rw [symbols_foldl hf]
  exact mem_foldl_emplace.mpr (.inr hm)

/-- Every symbol that the events of a run have taught the stream is remembered, and once. -/
theorem remembers {σ ε : Type} {M : Machine σ ε} {self : σ → Self} {I : σ → Prop}
    {learns : σ → ε → List String} (hp : M.Preserves I)
    (hstep : ∀ s e s', I s → M.next s e = some s' →
      v.Grows (self s) (self s') ∧ learns s e ⊆ v.symbols (self s'))
    (hi : I M.init) (hnone : v.symbols (self M.init) = []) {s : σ} {known : List String}
    (hr : (M.recorded learns).Reachable (s,known)) :
    (v.symbols (self s)).Nodup ∧ known ⊆ v.symbols (self s) := by
  have hnodup : M.Preserves fun s => I s ∧ (v.symbols (self s)).Nodup := by
    rintro s e s' ⟨hi,hn⟩ hnext
    exact ⟨hp s e s' hi hnext,(hstep s e s' hi hnext).1.nodup hn⟩
  have hrecorded := hnodup.recorded (f := learns) (g := fun s => v.symbols (self s)) (by
    rintro s e s' ⟨hi,-⟩ hnext
    obtain ⟨hgrows,hlearns⟩ := hstep s e s' hi hnext
    exact ⟨hgrows.subset,hlearns⟩)
  have hinit : (v.symbols (self M.init)).Nodup := by rw [hnone]; exact List.nodup_nil
  obtain ⟨⟨-,hn⟩,hknown⟩ := hrecorded.reachable ⟨⟨hi,hinit⟩,List.nil_subset _⟩ hr
  exact ⟨hn,hknown⟩

end Facet

namespace Link
variable {Self Call Reply Input State : Type} [DecidableEq Call]
  {h : Handlers Self Call Reply Input} {v : Facet Self Call State} {I : Self → Prop}

theorem Handlers.Steady.remembers (hh : h.Steady v I) {self : Self} (hs : v.Settled self false)
    (hi : I self) (hnone : v.symbols self = [])
    {learns : Link Self Call → Timed (Event Call Reply Input) → List String}
    (hlearns : ∀ s e, learns s e ⊆ v.symbols (handle h e.time e.event s).self)
    {s : Link Self Call} {known : List String}
    (hr : ((machine h self).recorded learns).Reachable (s,known)) :
    (v.symbols s.self).Nodup ∧ known ⊆ v.symbols s.self := by
  refine Facet.remembers (v := v) (hh.preserves self) ?_ ⟨hs,hi⟩ hnone hr
  rintro s e s' ⟨hs,hi⟩ hnext
  obtain ⟨he,hf,rfl⟩ := next_eq_some hnext
  exact ⟨((hh.event hs hi he).2 hf).2.1,hlearns s e⟩

end Link

section
variable {Self Call : Type}

/-- What is put out for one symbol: requests that cancel it, then one acknowledgement that they
are forwarded. -/
def CanceledOnce (cancels : String → List Call → Prop) (requestId symbol : String)
    (block : List (Output Call)) : Prop :=
  ∃ calls ack, block = calls.map .send ++ [.dispatch (.cancelAllOrdersAck ack)] ∧
    cancels symbol calls ∧ ack.symbol = symbol ∧ ack.requestStatus = .forwarded ∧
      ack.requestId = requestId

/-- The request has been accepted, and what it puts out is for each of some symbols once: for
all the known ones that it is for, and for none that it is not for. -/
structure Covers (cancels : String → List Call → Prop) (known : List String)
    (request : CancelAllOrders) (requestId : String) (r : Context Self Call × Option Exception) :
    Prop where
  exception : r.2 = none
  outputs : ∃ symbols blocks, symbols.Nodup ∧
    (∀ symbol ∈ symbols, request.symbol = "" ∨ symbol = request.symbol) ∧
    (∀ symbol ∈ known, (request.symbol = "" ∨ symbol = request.symbol) → symbol ∈ symbols) ∧
    List.Forall₂ (CanceledOnce cancels requestId) symbols blocks ∧ r.1.outputs = blocks.flatten

theorem foldl_blocks {B : String → List (Output Call) → Prop}
    {g : Context Self Call → String → Context Self Call}
    (hg : ∀ ctx symbol, ∃ block, B symbol block ∧ (g ctx symbol).outputs = ctx.outputs ++ block)
    (symbols : List String) (ctx : Context Self Call) :
    ∃ blocks, List.Forall₂ B symbols blocks ∧
      (symbols.foldl g ctx).outputs = ctx.outputs ++ blocks.flatten := by
  induction symbols generalizing ctx with
  | nil => exact ⟨[],.nil,by simp⟩
  | cons symbol symbols ih =>
    obtain ⟨block,hb,hblock⟩ := hg ctx symbol
    obtain ⟨blocks,hbs,hblocks⟩ := ih (g ctx symbol)
    exact ⟨block::blocks,.cons hb hbs,by
      rw [List.foldl_cons,hblocks,hblock,List.flatten_cons,List.append_assoc]⟩

/-- A stream that is ready goes once over the symbols that it remembers. -/
theorem covers_ite {cancels : String → List Call → Prop} {request : CancelAllOrders}
    {requestId : String} {g : Context Self Call → String → Context Self Call}
    (hg : ∀ ctx symbol, ∃ block, CanceledOnce cancels requestId symbol block ∧
      (g ctx symbol).outputs = ctx.outputs ++ block)
    {ready : Bool} (hready : ready = true) {symbols known : List String} (hn : symbols.Nodup)
    (hknown : known ⊆ symbols) {ctx : Context Self Call} (hout : ctx.outputs = []) :
    Covers cancels known request requestId
      (if !ready then (ctx,some (.notReady "not ready"))
      else (symbols.foldl (fun ctx symbol =>
        if request.symbol ≠ "" && symbol ≠ request.symbol then ctx else g ctx symbol) ctx,none)) := by
  subst hready
  obtain ⟨blocks,hblocks,houtputs⟩ := foldl_blocks hg (affected request symbols) ctx
  refine ⟨rfl,affected request symbols,blocks,hn.filter _,?_,?_,hblocks,?_⟩
  · intro symbol hm
    exact (mem_affected.mp hm).2
  · intro symbol hm hfor
    exact mem_affected.mpr ⟨hknown hm,hfor⟩
  · rw [hout,List.nil_append] at houtputs
    rw [← houtputs,← foldl_affected]
    rfl

end

namespace OrderEntryMargin
variable (shared : Shared) (asks : Kind → Prop)

/-- The symbols of the orders that an event sends, or that it finds in a snapshot. -/
def learns (s : Link OrderEntryMargin Call)
    (e : Timed (Link.Event Call RestReply (Link.Input ClientRequest asks))) : List String :=
  match e.event with
  | .input (.client (.createOrder info request body)) =>
    if (onRequest shared (.createOrder info request body) ⟨s.self,s.request,[]⟩).1.outputs.any
      fun output => output.sent.isSome then [request.symbol] else []
  | .reply ⟨.openOrders _,_,_⟩ reply => snapshotSymbols reply.response
  | _ => []

theorem symbols_completeOrders (t : TraceInfo) (marginMode : MarginMode) (ctx : Ctx) :
    (completeOrders t marginMode ctx).self.openOrdersSymbols = ctx.self.openOrdersSymbols := by
  cases marginMode <;> rfl

theorem learns_subset (s : Link OrderEntryMargin Call)
    (e : Timed (Link.Event Call RestReply (Link.Input ClientRequest asks))) :
    learns shared asks s e ⊆
      facet.symbols (Link.handle (handlers shared asks false) e.time e.event s).self := by
  unfold learns
  split
  · next info request body he =>
    rw [he]
    split_ifs with hsent
    · change [request.symbol] ⊆
        (newOrder shared info request body ⟨s.self,s.request,[]⟩).1.self.openOrdersSymbols
      change (newOrder shared info request body ⟨s.self,s.request,[]⟩).1.outputs.any _ = true at hsent
      unfold newOrder at hsent ⊢
      split_ifs at hsent ⊢ with hready
      · simp at hsent
      · split
        · simp [mem_emplace]
        · simp [mem_emplace]
    · exact List.nil_subset _
  · next marginMode timed stale reply he =>
    rw [he]
    unfold snapshotSymbols
    split
    · next ack hack =>
      change symbolsOf ack.data ⊆ (getOpenOrdersAck shared e.time marginMode reply.response
        ⟨s.self,s.request,[]⟩).self.openOrdersSymbols
      rw [getOpenOrdersAck,processResponse,processResponseWith_success hack,symbols_completeOrders]
      refine Facet.symbolsOf_subset_foldl (v := facet) ?_ ack.data ⟨s.self,s.request,[]⟩
      intro ctx order
      unfold onOpenOrder
      split_ifs <;> rfl
    · exact List.nil_subset _
  · exact List.nil_subset _

theorem remembers {streamId : ℕ} {account : String} {s : Link OrderEntryMargin Call}
    {known : List String}
    (hr : ((Link.machine (handlers shared asks false) (create streamId account)).recorded
      (learns shared asks)).Reachable (s,known)) :
    s.self.openOrdersSymbols.Nodup ∧ known ⊆ s.self.openOrdersSymbols :=
  (steady shared asks false).remembers (settled_create streamId account)
    (loading_create streamId account) rfl (learns_subset shared asks) hr

/-- The requests that cancel a symbol, one for each margin mode. -/
def cancelCalls (requestId symbol : String) (calls : List Call) : Prop :=
  calls = [.cancelAllOpenOrders symbol .isolated requestId,
    .cancelAllOpenOrders symbol .cross requestId]

theorem covers {ctx : Ctx} (hready : ctx.self.isReady = true) (hout : ctx.outputs = [])
    {known : List String} (hn : ctx.self.openOrdersSymbols.Nodup)
    (hknown : known ⊆ ctx.self.openOrdersSymbols) (request : CancelAllOrders) (requestId : String) :
    Covers (cancelCalls requestId) known request requestId
      (cancelAllOpenOrders request requestId ctx) := by
  refine covers_ite (g := fun ctx symbol =>
    ((ctx.send (.cancelAllOpenOrders symbol .isolated requestId)).send
      (.cancelAllOpenOrders symbol .cross requestId)).dispatch
        (cancelAllOrdersAck ctx.self request requestId symbol)) ?_ hready hn hknown hout
  intro ctx symbol
  refine ⟨[.send (.cancelAllOpenOrders symbol .isolated requestId),
    .send (.cancelAllOpenOrders symbol .cross requestId),
    .dispatch (cancelAllOrdersAck ctx.self request requestId symbol)],?_,by simp⟩
  exact ⟨_,_,rfl,rfl,rfl,rfl,rfl⟩

end OrderEntryMargin

namespace OrderEntryPortfolio
variable (shared : Shared) (asks : Kind → Prop)

/-- The symbols of the orders that an event sends, or that it finds in a snapshot. -/
def learns (s : Link OrderEntryPortfolio Call)
    (e : Timed (Link.Event Call RestReply (Link.Input ClientRequest asks))) : List String :=
  match e.event with
  | .input (.client (.createOrder info request body)) =>
    if (onRequest shared (.createOrder info request body) ⟨s.self,s.request,[]⟩).1.outputs.any
      fun output => output.sent.isSome then [request.symbol] else []
  | .reply ⟨.openOrders,_,_⟩ reply => snapshotSymbols reply.response
  | _ => []

theorem learns_subset (s : Link OrderEntryPortfolio Call)
    (e : Timed (Link.Event Call RestReply (Link.Input ClientRequest asks))) :
    learns shared asks s e ⊆
      facet.symbols (Link.handle (handlers shared asks false) e.time e.event s).self := by
  unfold learns
  split
  · next info request body he =>
    rw [he]
    split_ifs with hsent
    · change [request.symbol] ⊆
        (newOrder shared info request body ⟨s.self,s.request,[]⟩).1.self.openOrdersSymbols
      change (newOrder shared info request body ⟨s.self,s.request,[]⟩).1.outputs.any _ = true at hsent
      unfold newOrder at hsent ⊢
      split_ifs at hsent ⊢ with hready
      · simp at hsent
      · split
        · simp [mem_emplace]
        · simp [mem_emplace]
    · exact List.nil_subset _
  · next timed stale reply he =>
    rw [he]
    unfold snapshotSymbols
    split
    · next ack hack =>
      change symbolsOf ack.data ⊆ (getOpenOrdersAck shared e.time reply.response
        ⟨s.self,s.request,[]⟩).self.openOrdersSymbols
      rw [getOpenOrdersAck,processResponse,processResponseWith_success hack]
      refine Facet.symbolsOf_subset_foldl (v := facet) ?_ ack.data ⟨s.self,s.request,[]⟩
      intro ctx order
      unfold onOpenOrder
      split_ifs <;> rfl
    · exact List.nil_subset _
  · exact List.nil_subset _

theorem remembers {streamId : ℕ} {account : String} {s : Link OrderEntryPortfolio Call}
    {known : List String}
    (hr : ((Link.machine (handlers shared asks false) (create streamId account)).recorded
      (learns shared asks)).Reachable (s,known)) :
    s.self.openOrdersSymbols.Nodup ∧ known ⊆ s.self.openOrdersSymbols :=
  (steady shared asks false).remembers (settled_create streamId account) rfl rfl
    (learns_subset shared asks) hr

def cancelCalls (requestId symbol : String) (calls : List Call) : Prop :=
  calls = [.cancelAllOpenOrders symbol requestId]

theorem covers {ctx : Ctx} (hready : ctx.self.isReady = true) (hout : ctx.outputs = [])
    {known : List String} (hn : ctx.self.openOrdersSymbols.Nodup)
    (hknown : known ⊆ ctx.self.openOrdersSymbols) (request : CancelAllOrders) (requestId : String) :
    Covers (cancelCalls requestId) known request requestId
      (cancelAllOpenOrders request requestId ctx) := by
  refine covers_ite (g := fun ctx symbol =>
    (ctx.send (.cancelAllOpenOrders symbol requestId)).dispatch
      (cancelAllOrdersAck ctx.self request requestId symbol)) ?_ hready hn hknown hout
  intro ctx symbol
  refine ⟨[.send (.cancelAllOpenOrders symbol requestId),
    .dispatch (cancelAllOrdersAck ctx.self request requestId symbol)],?_,by simp⟩
  exact ⟨_,_,rfl,rfl,rfl,rfl,rfl⟩

end OrderEntryPortfolio

namespace WebSocket
variable (shared : Shared) (p : WSAPIParsers)

/-- The symbols of the orders that an event sends, or that it finds in a snapshot. -/
def learns (s : Socket) (e : TraceInfo × Socket.Event) : List String :=
  match e.2 with
  | .handle (.client (.createOrder info request params)) =>
    if (onRequest shared (.createOrder info request params) ⟨s.self,Request.empty,[]⟩).1.outputs.any
      fun output => output.sent.isSome then [request.symbol] else []
  | .handle (.socket (.text message _ _)) =>
    match WSAPIParser.dispatch p message false with
    | .called (.openOrders reply) => if reply.status = 200 then symbolsOf reply.result else []
    | _ => []
  | _ => []

/-- The initial download leaves the symbols alone. -/
theorem kept_symbol (t : TraceInfo) (symbol : String) :
    Download.Kept (downloadState shared t) fun ctx => symbol ∈ ctx.self.openOrdersSymbols := by
  intro state ctx h
  cases state with
  | myTrades =>
    simp only [downloadState, myTrades]
    split_ifs
    · exact List.foldlRecOn (motive := fun ctx : Ctx => symbol ∈ ctx.self.openOrdersSymbols)
        _ _ h fun _ hc _ _ => hc
    · exact h
  | _ => exact h

theorem subset_onReply (t : TraceInfo) {reply : WSAPIReply (List Order)} (hok : reply.status = 200)
    (retryNow : Bool) (ctx : Ctx) :
    symbolsOf reply.result ⊆ (onReply shared t .openOrdersStatus (onOpenOrders shared) reply
      retryNow ctx).self.openOrdersSymbols := by
  intro symbol hm
  have hfold : symbol ∈ facet.symbols (onOpenOrders shared reply.result ctx).self := by
    refine Facet.symbolsOf_subset_foldl ?_ reply.result ctx hm
    intro ctx order
    unfold onOpenOrder
    split_ifs <;> rfl
  unfold onReply
  rw [if_pos hok]
  exact (kept_symbol shared t symbol).check .openOrdersStatus hfold

theorem learns_subset {s s' : Socket} {e : TraceInfo × Socket.Event}
    (hn : Socket.next shared p s e = some s') : learns shared p s e ⊆ s'.self.openOrdersSymbols := by
  obtain ⟨-,-,rfl⟩ := Socket.next_eq_some hn
  unfold learns
  split
  · next info request params he =>
    rw [he]
    split_ifs with hsent
    · change [request.symbol] ⊆ (orderPlace shared info request params
        ⟨s.self,Request.empty,[]⟩).1.self.openOrdersSymbols
      change (orderPlace shared info request params
        ⟨s.self,Request.empty,[]⟩).1.outputs.any _ = true at hsent
      unfold orderPlace at hsent ⊢
      split_ifs at hsent ⊢ with hready
      · simp at hsent
      · split
        · simp [mem_emplace]
        · simp [sendText, mem_emplace]
    · exact List.nil_subset _
  · next message order retryNow he =>
    rw [he]
    change _ ⊆ (parse shared p e.1 message order retryNow
      ⟨s.self,Request.empty,[]⟩).self.openOrdersSymbols
    unfold parse
    cases WSAPIParser.dispatch p message false with
    | called message =>
      cases message with
      | openOrders reply =>
        change (if reply.status = 200 then symbolsOf reply.result else []) ⊆ _
        split_ifs with hok
        · exact subset_onReply shared e.1 hok retryNow ⟨s.self,Request.empty,[]⟩
        · exact List.nil_subset _
      | _ => exact List.nil_subset _
    | _ => exact List.nil_subset _
  · exact List.nil_subset _

theorem remembers {streamId : ℕ} {account : String} {s : Socket} {known : List String}
    (hr : ((Socket.machine shared p (create streamId account)).recorded
      (learns shared p)).Reachable (s,known)) :
    s.self.openOrdersSymbols.Nodup ∧ known ⊆ s.self.openOrdersSymbols := by
  refine Facet.remembers (v := facet) (Socket.preserves_settled (create streamId account)) ?_
    (Socket.settled_create streamId account) rfl hr
  intro s e s' hs hnext
  refine ⟨?_,learns_subset shared p hnext⟩
  obtain ⟨he,hf,rfl⟩ := Socket.next_eq_some hnext
  exact ((Socket.orderly_handle hs he).2 hf).2.1

def cancelCalls (info : MessageInfo) (symbol : String) (frames : List Frame) : Prop :=
  ∃ frame, frames = [frame] ∧ frame.request.type = .OPEN_ORDERS_CANCEL_ALL ∧
    frame.method = "openOrders.cancelAll" ∧
      frame.params = .cancelAll symbol (milliseconds info.receiveTimeUtc)

theorem covers {ctx : Ctx} (hready : ctx.self.isReady = true) (hout : ctx.outputs = [])
    {known : List String} (hn : ctx.self.openOrdersSymbols.Nodup)
    (hknown : known ⊆ ctx.self.openOrdersSymbols) (info : MessageInfo) (request : CancelAllOrders)
    (requestId : String) :
    Covers (cancelCalls info) known request requestId
      (openOrdersCancelAll info request requestId ctx) := by
  refine covers_ite (g := fun ctx symbol =>
    (sendText .OPEN_ORDERS_CANCEL_ALL info.source 0 0 "openOrders.cancelAll"
      (.cancelAll symbol (milliseconds info.receiveTimeUtc)) ctx).dispatch
        (cancelAllOrdersAck ctx.self request requestId symbol)) ?_ hready hn hknown hout
  intro ctx symbol
  refine ⟨[.send ⟨⟨ctx.self.requestId+1,.OPEN_ORDERS_CANCEL_ALL,info.source,0,0,0⟩,
      "openOrders.cancelAll",.cancelAll symbol (milliseconds info.receiveTimeUtc)⟩,
    .dispatch (cancelAllOrdersAck ctx.self request requestId symbol)],?_,by simp [sendText]⟩
  exact ⟨_,_,rfl,⟨_,rfl,rfl,rfl,rfl⟩,rfl,rfl,rfl⟩

end WebSocket

/-- Wherever a run has taken a stream that is ready, canceling all orders goes once over every
symbol that the run has taught it. -/
theorem cancelAll_covers (shared : Shared) (p : WSAPIParsers) (streamId : ℕ) (account : String)
    (asks : Kind → Prop) (request : CancelAllOrders) (requestId : String) :
    (∀ s known, ((Link.machine (OrderEntryMargin.handlers shared asks false)
        (OrderEntryMargin.create streamId account)).recorded
          (OrderEntryMargin.learns shared asks)).Reachable (s,known) → s.self.isReady = true →
      Covers (OrderEntryMargin.cancelCalls requestId) known request requestId
        (OrderEntryMargin.onRequest shared (.cancelAllOrders request requestId)
          ⟨s.self,s.request,[]⟩)) ∧
    (∀ s known, ((Link.machine (OrderEntryPortfolio.handlers shared asks false)
        (OrderEntryPortfolio.create streamId account)).recorded
          (OrderEntryPortfolio.learns shared asks)).Reachable (s,known) → s.self.isReady = true →
      Covers (OrderEntryPortfolio.cancelCalls requestId) known request requestId
        (OrderEntryPortfolio.onRequest shared (.cancelAllOrders request requestId)
          ⟨s.self,s.request,[]⟩)) ∧
    (∀ s known, ((WebSocket.Socket.machine shared p (WebSocket.create streamId account)).recorded
          (WebSocket.learns shared p)).Reachable (s,known) → s.self.isReady = true →
      ∀ info, Covers (WebSocket.cancelCalls info) known request requestId
        (WebSocket.onRequest shared (.cancelAllOrders info request requestId)
          ⟨s.self,Request.empty,[]⟩)) := by
  refine ⟨?_,?_,?_⟩
  · intro s known hr hready
    obtain ⟨hn,hknown⟩ := OrderEntryMargin.remembers shared asks hr
    exact OrderEntryMargin.covers hready rfl hn hknown request requestId
  · intro s known hr hready
    obtain ⟨hn,hknown⟩ := OrderEntryPortfolio.remembers shared asks hr
    exact OrderEntryPortfolio.covers hready rfl hn hknown request requestId
  · intro s known hr hready info
    obtain ⟨hn,hknown⟩ := WebSocket.remembers shared p hr
    exact WebSocket.covers hready rfl hn hknown info request requestId

/-- The margin stream of an account sends an order, and is then connected anew. -/
def reconnectedRun : List (Timed (Link.Event OrderEntryMargin.Call RestReply
    (Link.Input OrderEntryMargin.ClientRequest fun _ => True))) :=
  readyRun ++
    [⟨⟨3,3⟩,.input (.client (.createOrder ⟨7,3⟩ ⟨"A1",42,"BTCUSDT",.undefined,""⟩ ""))⟩,
      ⟨⟨4,4⟩,.disconnected⟩,⟨⟨5,5⟩,.connected⟩]

theorem cancelAll_covers_reconnected :
    ∃ s, ((Link.machine (OrderEntryMargin.handlers Shared.sample (fun _ => True) false)
        (OrderEntryMargin.create 3 "A1")).recorded
          (OrderEntryMargin.learns Shared.sample fun _ => True)).Reachable (s,["BTCUSDT"]) ∧
      Covers (OrderEntryMargin.cancelCalls "R1") ["BTCUSDT"] ⟨"A1",0,"","",.undefined,0⟩ "R1"
        (OrderEntryMargin.onRequest Shared.sample
          (.cancelAllOrders ⟨"A1",0,"","",.undefined,0⟩ "R1") ⟨s.self,s.request,[]⟩) := by
  let M := (Link.machine (OrderEntryMargin.handlers Shared.sample (fun _ => True) false)
    (OrderEntryMargin.create 3 "A1")).recorded (OrderEntryMargin.learns Shared.sample fun _ => True)
  have hrun : (M.run M.init reconnectedRun).any
      (fun p => p.1.self.isReady && decide (p.2 = ["BTCUSDT"])) = true := by decide
  obtain ⟨⟨s,known⟩,hr,htest⟩ := M.exists_reachable hrun
  obtain ⟨hready,hknown⟩ : s.self.isReady = true ∧ known = ["BTCUSDT"] := by simpa using htest
  subst hknown
  exact ⟨s,hr,(cancelAll_covers Shared.sample WSAPIParsers.sample 3 "A1" (fun _ => True)
    ⟨"A1",0,"","",.undefined,0⟩ "R1").1 s _ hr hready⟩

end RoqBinance.Gateway
