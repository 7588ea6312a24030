import RoqBinance.Gateway.SteadySocket

/-! Requests of a client that a stream refuses. Nothing has been sent then, and the stream is as
it was, unless it had remembered the symbol of a new order. -/
namespace RoqBinance.Gateway
open Library Protocol.Json

theorem emplace_eq_self_iff (symbols : List String) (symbol : String) :
    emplace symbols symbol = symbols ↔ symbol ∈ symbols := by
  unfold emplace
  split_ifs with h
  · exact iff_of_true rfl h
  · exact iff_of_false (by simp) h

theorem Shared.getCreateOrderTemplate_eq_ok_iff (shared : Shared) (name : String) :
    shared.getCreateOrderTemplate name = .ok () ↔
      name = "" ∨ name ∈ shared.createOrderTemplates := by
  unfold getCreateOrderTemplate
  split_ifs with hempty hmem
  · simp [hempty]
  · simp [hmem]
  · simp [hempty, hmem]

section
variable {Self Call β : Type}

/-- A handler that has thrown has sent nothing and has left `f` alone. -/
def Restores (f : Self → β) (ctx : Context Self Call)
    (r : Context Self Call × Option Exception) : Prop :=
  r.2 ≠ none → r.1.outputs.filterMap Output.sent = ctx.outputs.filterMap Output.sent ∧
    f r.1.self = f ctx.self

variable {f : Self → β} {ctx : Context Self Call}

theorem restores_unchanged (e : Option Exception) : Restores f ctx (ctx,e) := fun _ => ⟨rfl,rfl⟩

theorem restores_done (ctx' : Context Self Call) : Restores f ctx (ctx',none) :=
  fun h => absurd rfl h

/-- How a stream takes a new order: it remembers the symbol, then it looks the template up. -/
def takeOrder (ready : Bool) (remember : Self → Self) (template : Except Exception Unit)
    (send : Context Self Call → Context Self Call) (ctx : Context Self Call) :
    Context Self Call × Option Exception :=
  if !ready then (ctx,some (.notReady "not ready"))
  else
    match template with
    | .error e => (ctx.modify remember,some e)
    | .ok () => (send (ctx.modify remember),none)

theorem restores_takeOrder_iff (ready : Bool) (remember : Self → Self)
    (template : Except Exception Unit) (send : Context Self Call → Context Self Call) :
    Restores f ctx (takeOrder ready remember template send ctx) ↔
      (ready = true → template ≠ .ok () → f (remember ctx.self) = f ctx.self) := by
  unfold takeOrder
  cases ready with
  | false => exact iff_of_true (restores_unchanged _) (by simp)
  | true =>
    cases template with
    | ok => exact iff_of_true (restores_done _) (by simp)
    | error e => simp [Restores]

end

/-- A new order of which the stream remembers the symbol, although it refuses the order. -/
structure Leaks (shared : Shared) (ready : Bool) (symbols : List String)
    (createOrder : CreateOrder) : Prop where
  ready : ready = true
  named : createOrder.requestTemplate ≠ ""
  unknown : createOrder.requestTemplate ∉ shared.createOrderTemplates
  fresh : createOrder.symbol ∉ symbols

theorem not_leaks_iff {shared : Shared} {ready : Bool} {symbols : List String}
    {createOrder : CreateOrder} : ¬ Leaks shared ready symbols createOrder ↔
      (ready = true → shared.getCreateOrderTemplate createOrder.requestTemplate ≠ .ok () →
        emplace symbols createOrder.symbol = symbols) := by
  rw [emplace_eq_self_iff,Ne,Shared.getCreateOrderTemplate_eq_ok_iff,not_or]
  constructor
  · rintro h hready ⟨hnamed,hunknown⟩
    by_contra hfresh
    exact h ⟨hready,hnamed,hunknown,hfresh⟩
  · rintro h ⟨hready,hnamed,hunknown,hfresh⟩
    exact hfresh (h hready ⟨hnamed,hunknown⟩)

namespace OrderEntryMargin

def ClientRequest.isOrder : ClientRequest → Bool
  | cancelAllOrders _ _ => false
  | _ => true

def ClientRequest.Leaks (shared : Shared) (self : OrderEntryMargin) : ClientRequest → Prop
  | createOrder _ request _ =>
    Gateway.Leaks shared self.isReady self.openOrdersSymbols request
  | _ => False

theorem restores_iff (shared : Shared) (request : ClientRequest) (ctx : Ctx) :
    (request.isOrder = true →
      Restores OrderEntryMargin.openOrdersSymbols ctx (onRequest shared request ctx)) ↔
        ¬ request.Leaks shared ctx.self := by
  cases request with
  | createOrder info request body =>
    have htake : onRequest shared (.createOrder info request body) ctx =
        takeOrder ctx.self.isReady
          (fun self => {self with openOrdersSymbols := emplace self.openOrdersSymbols request.symbol})
          (shared.getCreateOrderTemplate request.requestTemplate)
          (·.send (.newOrder body info.source request.orderId)) ctx := rfl
    rw [htake,restores_takeOrder_iff]
    exact (forall_prop_of_true rfl).trans not_leaks_iff.symm
  | modifyOrder info request => exact iff_of_true (fun _ => restores_unchanged _) id
  | cancelOrder info request marginMode body =>
    refine iff_of_true (fun _ => ?_) id
    simp only [onRequest, cancelOrder]
    split_ifs
    · exact restores_unchanged _
    · split
      · exact restores_unchanged _
      · exact restores_unchanged _
    · split
      · exact restores_unchanged _
      · exact restores_done _
  | cancelAllOrders request requestId => exact iff_of_true (fun h => by cases h) id

end OrderEntryMargin

namespace OrderEntryPortfolio

def ClientRequest.isOrder : ClientRequest → Bool
  | cancelAllOrders _ _ => false
  | _ => true

def ClientRequest.Leaks (shared : Shared) (self : OrderEntryPortfolio) : ClientRequest → Prop
  | createOrder _ request _ =>
    Gateway.Leaks shared self.isReady self.openOrdersSymbols request
  | _ => False

theorem restores_iff (shared : Shared) (request : ClientRequest) (ctx : Ctx) :
    (request.isOrder = true →
      Restores OrderEntryPortfolio.openOrdersSymbols ctx (onRequest shared request ctx)) ↔
        ¬ request.Leaks shared ctx.self := by
  cases request with
  | createOrder info request body =>
    have htake : onRequest shared (.createOrder info request body) ctx =
        takeOrder ctx.self.isReady
          (fun self => {self with openOrdersSymbols := emplace self.openOrdersSymbols request.symbol})
          (shared.getCreateOrderTemplate request.requestTemplate)
          (·.send (.newOrder body info.source request.orderId)) ctx := rfl
    rw [htake,restores_takeOrder_iff]
    exact (forall_prop_of_true rfl).trans not_leaks_iff.symm
  | modifyOrder info request => exact iff_of_true (fun _ => restores_unchanged _) id
  | cancelOrder info request body =>
    refine iff_of_true (fun _ => ?_) id
    simp only [onRequest, cancelOrder]
    split_ifs
    · exact restores_unchanged _
    · split
      · exact restores_unchanged _
      · exact restores_done _
  | cancelAllOrders request requestId => exact iff_of_true (fun h => by cases h) id

end OrderEntryPortfolio

namespace WebSocket

def ClientRequest.isOrder : ClientRequest → Bool
  | cancelAllOrders _ _ _ => false
  | _ => true

def ClientRequest.Leaks (shared : Shared) (self : WebSocket) : ClientRequest → Prop
  | createOrder _ request _ =>
    Gateway.Leaks shared self.isReady self.openOrdersSymbols request
  | _ => False

/-- What later requests depend on. -/
def requestState (self : WebSocket) : List String × UInt32 := (self.openOrdersSymbols,self.requestId)

theorem restores_iff (shared : Shared) (request : ClientRequest) (ctx : Ctx) :
    (request.isOrder = true → Restores requestState ctx (onRequest shared request ctx)) ↔
      ¬ request.Leaks shared ctx.self := by
  cases request with
  | createOrder info request params =>
    have htake : onRequest shared (.createOrder info request params) ctx =
        takeOrder ctx.self.isReady
          (fun self => {self with openOrdersSymbols := emplace self.openOrdersSymbols request.symbol})
          (shared.getCreateOrderTemplate request.requestTemplate)
          (sendText .ORDER_PLACE info.source request.orderId 1 "order.place" (.order params))
          ctx := rfl
    rw [htake,restores_takeOrder_iff]
    refine (forall_prop_of_true rfl).trans (Iff.trans ?_ not_leaks_iff.symm)
    simp [requestState]
  | modifyOrder info request params =>
    refine iff_of_true (fun _ => ?_) id
    simp only [onRequest, orderAmendKeepPriority]
    split_ifs
    · exact restores_unchanged _
    · exact restores_unchanged _
    · exact restores_done _
  | cancelOrder info request params =>
    refine iff_of_true (fun _ => ?_) id
    simp only [onRequest, orderCancel]
    split_ifs
    · exact restores_unchanged _
    · split
      · exact restores_unchanged _
      · exact restores_done _
  | cancelAllOrders info request requestId => exact iff_of_true (fun h => by cases h) id

end WebSocket

namespace Link

section
variable {Self Call Reply Client β : Type} [DecidableEq Call] {asks : Kind → Prop}
  (h : Handlers Self Call Reply (Input Client asks))
  (onRequest : Client → Context Self Call → Context Self Call × Option Exception)
  (isOrder : Client → Bool) (f : Self → β)

/-- When the handler of an order request throws, nothing is sent and `f` is what it was. -/
def LeavesNoTrace (s : Link Self Call) (e : Timed (Event Call Reply (Input Client asks)))
    (s' : Link Self Call) : Prop :=
  ∀ request, e.event = .input (.client request) → isOrder request = true →
    (onRequest request ⟨s.self,s.request,[]⟩).2 ≠ none →
      (handle h e.time e.event s).outputs.filterMap Output.sent = [] ∧ f s'.self = f s.self

variable {h onRequest isOrder f}

theorem leavesNoTrace_iff {leaks : Self → Client → Prop}
    (hinput : ∀ t request ctx, h.input t (.client request) ctx = (onRequest request ctx).1)
    (hrestores : ∀ request ctx, (isOrder request = true → Restores f ctx (onRequest request ctx)) ↔
      ¬ leaks ctx.self request)
    {s s' : Link Self Call} {e : Timed (Event Call Reply (Input Client asks))}
    (hn : next h s e = some s') :
    LeavesNoTrace h onRequest isOrder f s e s' ↔
      ∀ request, e.event = .input (.client request) → ¬ leaks s.self request := by
  obtain ⟨-,-,rfl⟩ := next_eq_some hn
  refine forall_congr' fun request => forall_congr' fun he => ?_
  have hhandle : handle h e.time e.event s = (onRequest request ⟨s.self,s.request,[]⟩).1 := by
    rw [he]
    exact hinput e.time request ⟨s.self,s.request,[]⟩
  rw [← hrestores request ⟨s.self,s.request,[]⟩,hhandle]
  exact Iff.rfl

/-- Along a run the handlers leave no trace if and only if no request leaks. -/
theorem steps_leavesNoTrace_iff {leaks : Self → Client → Prop}
    (hinput : ∀ t request ctx, h.input t (.client request) ctx = (onRequest request ctx).1)
    (hrestores : ∀ request ctx, (isOrder request = true → Restores f ctx (onRequest request ctx)) ↔
      ¬ leaks ctx.self request)
    (self : Self) (es : List (Timed (Event Call Reply (Input Client asks)))) :
    (machine h self).Steps (LeavesNoTrace h onRequest isOrder f) (machine h self).init es ↔
      (machine h self).Steps
        (fun s e _ => ∀ request, e.event = .input (.client request) → ¬ leaks s.self request)
        (machine h self).init es :=
  Machine.steps_congr (I := fun _ => True) (fun _ _ _ _ _ => trivial)
    (fun _ _ _ _ _ hn => leavesNoTrace_iff hinput hrestores hn) trivial

end
end Link

namespace WebSocket.Socket
variable (shared : Shared) (p : WSAPIParsers)

/-- When the handler of an order request throws, nothing is sent and what later requests depend
on is as it was. -/
def LeavesNoTrace (s : Socket) (e : TraceInfo × Event) (s' : Socket) : Prop :=
  ∀ request, e.2 = .handle (.client request) → request.isOrder = true →
    (onRequest shared request ⟨s.self,Request.empty,[]⟩).2 ≠ none →
      (handle shared p e.1 e.2 s).outputs.filterMap Output.sent = [] ∧
        requestState s'.self = requestState s.self

theorem leavesNoTrace_iff {s s' : Socket} {e : TraceInfo × Event}
    (hn : next shared p s e = some s') : LeavesNoTrace shared p s e s' ↔
      ∀ request, e.2 = .handle (.client request) → ¬ request.Leaks shared s.self := by
  obtain ⟨-,-,rfl⟩ := next_eq_some hn
  refine forall_congr' fun request => forall_congr' fun he => ?_
  have hhandle : handle shared p e.1 e.2 s =
      (onRequest shared request ⟨s.self,Request.empty,[]⟩).1 := by
    rw [he]
    rfl
  rw [← restores_iff shared request ⟨s.self,Request.empty,[]⟩,hhandle]
  exact Iff.rfl

end WebSocket.Socket

/-- Along every run of a stream a refused order request sends nothing and leaves the stream as it
was, if and only if no new order with an unknown template and a new symbol arrives while the
stream is ready. -/
theorem refusals_leave_no_trace_iff (shared : Shared) (p : WSAPIParsers) (streamId : ℕ)
    (account : String) (asks : Kind → Prop) (drained : Bool) :
    (∀ es, (Link.machine (OrderEntryMargin.handlers shared asks drained)
        (OrderEntryMargin.create streamId account)).Steps
      (Link.LeavesNoTrace (OrderEntryMargin.handlers shared asks drained)
        (OrderEntryMargin.onRequest shared) OrderEntryMargin.ClientRequest.isOrder
        OrderEntryMargin.openOrdersSymbols)
      (Link.create (OrderEntryMargin.create streamId account)) es ↔
      (Link.machine (OrderEntryMargin.handlers shared asks drained)
        (OrderEntryMargin.create streamId account)).Steps
        (fun s e _ => ∀ request, e.event = .input (.client request) →
          ¬ OrderEntryMargin.ClientRequest.Leaks shared s.self request)
        (Link.create (OrderEntryMargin.create streamId account)) es) ∧
    (∀ es, (Link.machine (OrderEntryPortfolio.handlers shared asks drained)
        (OrderEntryPortfolio.create streamId account)).Steps
      (Link.LeavesNoTrace (OrderEntryPortfolio.handlers shared asks drained)
        (OrderEntryPortfolio.onRequest shared) OrderEntryPortfolio.ClientRequest.isOrder
        OrderEntryPortfolio.openOrdersSymbols)
      (Link.create (OrderEntryPortfolio.create streamId account)) es ↔
      (Link.machine (OrderEntryPortfolio.handlers shared asks drained)
        (OrderEntryPortfolio.create streamId account)).Steps
        (fun s e _ => ∀ request, e.event = .input (.client request) →
          ¬ OrderEntryPortfolio.ClientRequest.Leaks shared s.self request)
        (Link.create (OrderEntryPortfolio.create streamId account)) es) ∧
    (∀ es, (WebSocket.Socket.machine shared p (WebSocket.create streamId account)).Steps
      (WebSocket.Socket.LeavesNoTrace shared p)
      (WebSocket.Socket.create (WebSocket.create streamId account)) es ↔
      (WebSocket.Socket.machine shared p (WebSocket.create streamId account)).Steps
        (fun s e _ => ∀ request, e.2 = .handle (.client request) →
          ¬ WebSocket.ClientRequest.Leaks shared s.self request)
        (WebSocket.Socket.create (WebSocket.create streamId account)) es) := by
  refine ⟨?_,?_,?_⟩
  · exact Link.steps_leavesNoTrace_iff (fun _ _ _ => rfl)
      (OrderEntryMargin.restores_iff shared) _
  · exact Link.steps_leavesNoTrace_iff (fun _ _ _ => rfl)
      (OrderEntryPortfolio.restores_iff shared) _
  · intro es
    exact Machine.steps_congr (I := fun _ => True) (fun _ _ _ _ _ => trivial)
      (fun _ _ _ _ _ hn => WebSocket.Socket.leavesNoTrace_iff shared p hn) trivial

namespace OrderEntryMargin

/-- A new order with a template that nobody has configured, once the stream is ready. -/
def unknownTemplateRun : List (Timed (Link.Event Call RestReply
    (Link.Input ClientRequest fun _ => True))) :=
  readyRun ++
    [⟨⟨3,3⟩,.input (.client
      (.createOrder ⟨1,3⟩ ⟨"A1",1001,"BTCUSDT",.cross,"unknown"⟩ ""))⟩]

def leavesNoTraceTest (s : Link OrderEntryMargin Call)
    (e : Timed (Link.Event Call RestReply (Link.Input ClientRequest fun _ => True)))
    (s' : Link OrderEntryMargin Call) : Bool :=
  match e.event with
  | .input (.client request) =>
    !request.isOrder || (onRequest Shared.sample request ⟨s.self,s.request,[]⟩).2.isNone ||
      decide (s'.self.openOrdersSymbols = s.self.openOrdersSymbols)
  | _ => true

theorem leavesNoTraceTest_of (s : Link OrderEntryMargin Call)
    (e : Timed (Link.Event Call RestReply (Link.Input ClientRequest fun _ => True)))
    (s' : Link OrderEntryMargin Call)
    (h : Link.LeavesNoTrace (handlers Shared.sample (fun _ => True) false)
      (onRequest Shared.sample) ClientRequest.isOrder openOrdersSymbols s e s') :
    leavesNoTraceTest s e s' = true := by
  unfold leavesNoTraceTest
  split
  · rename_i request he
    cases hOrder : request.isOrder with
    | false => rfl
    | true =>
      cases hthrown : (onRequest Shared.sample request ⟨s.self,s.request,[]⟩).2 with
      | none => rfl
      | some exception =>
        have hsymbols := (h request he hOrder (by simp [hthrown])).2
        simp [hsymbols]
  · rfl

/-- The symbol of the order that was refused stays behind. -/
theorem unknownTemplate_leaves_trace :
    ¬ ∀ es, (Link.machine (handlers Shared.sample (fun _ => True) false) (create 3 "A1")).Steps
      (Link.LeavesNoTrace (handlers Shared.sample (fun _ => True) false)
        (onRequest Shared.sample) ClientRequest.isOrder openOrdersSymbols)
      (Link.create (create 3 "A1")) es := by
  intro h
  have htest := (h unknownTemplateRun).test leavesNoTraceTest_of
  exact absurd htest (by decide)

end OrderEntryMargin

end RoqBinance.Gateway
