import RoqBinance.Gateway.Controller

/-! Canceling all orders of an account goes to both of its streams in turn. What a stream puts
out is all or nothing; what the controller does is not. -/
namespace RoqBinance.Gateway
open Library Protocol.Json

/-- The symbols that the request is for. -/
def affected (request : CancelAllOrders) (symbols : List String) : List String :=
  symbols.filter fun symbol => !(request.symbol ≠ "" && symbol ≠ request.symbol)

section
variable {Self Call : Type}

def ack? : Dispatch → Option CancelAllOrdersAck
  | .cancelAllOrdersAck ack => some ack
  | _ => none

/-- No request has been sent and none acknowledged. -/
structure Silent (outputs : List (Output Call)) : Prop where
  sent : outputs.filterMap Output.sent = []
  acknowledged : outputs.filterMap (fun output => output.dispatched.bind ack?) = []

theorem silent_nil : Silent ([] : List (Output Call)) := ⟨rfl,rfl⟩

theorem silent_append {outputs outputs' : List (Output Call)} :
    Silent (outputs ++ outputs') ↔ Silent outputs ∧ Silent outputs' := by
  constructor
  · rintro ⟨hs,ha⟩
    simp only [List.filterMap_append, List.append_eq_nil_iff] at hs ha
    exact ⟨⟨hs.1,ha.1⟩,⟨hs.2,ha.2⟩⟩
  · rintro ⟨h,h'⟩
    exact ⟨by rw [List.filterMap_append,h.sent,h'.sent]; rfl,
      by rw [List.filterMap_append,h.acknowledged,h'.acknowledged]; rfl⟩

theorem silent_map {C : Type} (f : Call → C) {outputs : List (Output Call)} :
    Silent (outputs.map (Output.map f)) ↔ Silent outputs := by
  have hs : Output.sent ∘ Output.map f = fun output : Output Call => output.sent.map f := by
    funext output
    cases output <;> rfl
  have ha : (fun output => output.dispatched.bind ack?) ∘ Output.map f =
      fun output : Output Call => output.dispatched.bind ack? := by
    funext output
    cases output <;> rfl
  constructor
  · rintro ⟨h1,h2⟩
    rw [List.filterMap_map,hs,← List.map_filterMap] at h1
    rw [List.filterMap_map,ha] at h2
    exact ⟨List.map_eq_nil_iff.mp h1,h2⟩
  · rintro ⟨h1,h2⟩
    refine ⟨?_,?_⟩
    · rw [List.filterMap_map,hs,← List.map_filterMap,h1]; rfl
    · rw [List.filterMap_map,ha]; exact h2

/-- A loop over the symbols that passes over those that the request is not for. -/
theorem foldl_affected (request : CancelAllOrders)
    (g : Context Self Call → String → Context Self Call) (symbols : List String)
    (ctx : Context Self Call) :
    symbols.foldl (fun ctx symbol =>
      if request.symbol ≠ "" && symbol ≠ request.symbol then ctx else g ctx symbol) ctx =
        (affected request symbols).foldl g ctx := by
  rw [affected,List.foldl_filter]
  congr 1
  funext ctx symbol
  cases (request.symbol ≠ "" && symbol ≠ request.symbol : Bool) <;> rfl

/-- A loop over the symbols that sends something for each that the request is for. -/
theorem foldl_silent_iff (request : CancelAllOrders)
    (g : Context Self Call → String → Context Self Call)
    (hg : ∀ ctx symbol, ¬ Silent (g ctx symbol).outputs) (symbols : List String)
    {ctx : Context Self Call} (hout : ctx.outputs = []) :
    Silent (symbols.foldl (fun ctx symbol =>
      if request.symbol ≠ "" && symbol ≠ request.symbol then ctx else g ctx symbol) ctx).outputs ↔
        affected request symbols = [] := by
  rw [foldl_affected]
  rcases List.eq_nil_or_concat (affected request symbols) with h | ⟨symbols',symbol,h⟩
  · rw [h,List.foldl_nil,hout]
    exact iff_of_true silent_nil rfl
  · rw [h,List.concat_eq_append,List.foldl_append]
    exact iff_of_false (hg _ symbol) (by simp)

end

/-- How a stream takes a cancel of all orders: it goes through its symbols, and passes over those
that the request is not for. -/
def takeCancelAll {Self Call : Type} (ready : Bool) (request : CancelAllOrders)
    (symbols : List String) (cancel : Context Self Call → String → Context Self Call)
    (ctx : Context Self Call) : Context Self Call × Option Exception :=
  if !ready then (ctx,some (.notReady "not ready"))
  else
    (symbols.foldl (fun ctx symbol =>
      if request.symbol ≠ "" && symbol ≠ request.symbol then ctx else cancel ctx symbol) ctx,none)

/-- What canceling all orders does to a stream with these symbols. -/
structure Cancels {Self Call : Type} (ready : Bool) (symbols : List String)
    (request : CancelAllOrders) (r : Context Self Call × Option Exception) : Prop where
  exception : r.2 = if ready then none else some (.notReady "not ready")
  silent : Silent r.1.outputs ↔ ready = false ∨ affected request symbols = []

/-- A stream that is not ready refuses the request, a ready one sends something for each of its
symbols that the request is for. -/
theorem cancels_takeCancelAll {Self Call : Type} (request : CancelAllOrders)
    (cancel : Context Self Call → String → Context Self Call)
    (hc : ∀ ctx symbol, ¬ Silent (cancel ctx symbol).outputs) (ready : Bool) (symbols : List String)
    {ctx : Context Self Call} (hout : ctx.outputs = []) :
    Cancels ready symbols request (takeCancelAll ready request symbols cancel ctx) := by
  cases ready with
  | false => exact ⟨rfl,by simp [takeCancelAll, hout, silent_nil]⟩
  | true => exact ⟨rfl,by simpa [takeCancelAll] using foldl_silent_iff request cancel hc symbols hout⟩

theorem WebSocket.cancels (info : MessageInfo) (request : CancelAllOrders) (requestId : String)
    (ctx : Ctx) (hout : ctx.outputs = []) :
    Cancels ctx.self.isReady ctx.self.openOrdersSymbols request
      (openOrdersCancelAll info request requestId ctx) := by
  refine cancels_takeCancelAll request (fun ctx symbol =>
    (sendText .OPEN_ORDERS_CANCEL_ALL _ _ _ _ _ ctx).dispatch
      (cancelAllOrdersAck _ request requestId symbol)) ?_ _ _ hout
  intro ctx symbol hs
  simpa [sendText, Output.sent] using hs.sent

theorem OrderEntryPortfolio.cancels (request : CancelAllOrders) (requestId : String) (ctx : Ctx)
    (hout : ctx.outputs = []) :
    Cancels ctx.self.isReady ctx.self.openOrdersSymbols request
      (cancelAllOpenOrders request requestId ctx) := by
  refine cancels_takeCancelAll request (fun ctx symbol =>
    (ctx.send (.cancelAllOpenOrders symbol requestId)).dispatch
      (cancelAllOrdersAck ctx.self request requestId symbol)) ?_ _ _ hout
  intro ctx symbol hs
  simpa [Output.sent] using hs.sent

theorem OrderEntryMargin.cancels (request : CancelAllOrders) (requestId : String) (ctx : Ctx)
    (hout : ctx.outputs = []) :
    Cancels ctx.self.isReady ctx.self.openOrdersSymbols request
      (cancelAllOpenOrders request requestId ctx) := by
  refine cancels_takeCancelAll request (fun ctx symbol =>
    ((ctx.send (.cancelAllOpenOrders symbol .isolated requestId)).send
      (.cancelAllOpenOrders symbol .cross requestId)).dispatch
        (cancelAllOrdersAck ctx.self request requestId symbol)) ?_ _ _ hout
  intro ctx symbol hs
  simpa [Output.sent] using hs.sent

namespace Controller

def OrderEntry.isReady : OrderEntry → Bool
  | webSocket self => self.isReady
  | portfolio self => self.isReady

def OrderEntry.openOrdersSymbols : OrderEntry → List String
  | webSocket self => self.openOrdersSymbols
  | portfolio self => self.openOrdersSymbols

/-- The same for a stream that the controller calls; it leaves the margin streams alone. -/
structure Result.Cancels (ready : Bool) (symbols : List String) (request : CancelAllOrders)
    (r : Result) : Prop where
  exception : r.exception = if ready then none else some (.notReady "not ready")
  silent : Silent r.outputs ↔ ready = false ∨ affected request symbols = []

theorem cancels_call {Self C : Type} (put : Self → Controller → Controller) (wrap : C → Call)
    {account : String} {f : Context Self C → Context Self C × Option Exception} {self : Self}
    {s : Controller} {ready : Bool} {symbols : List String} {request : CancelAllOrders}
    (h : Gateway.Cancels ready symbols request (f ⟨self,s.request account,[]⟩)) :
    (call put wrap account f self s).Cancels ready symbols request :=
  ⟨h.exception,(silent_map wrap).trans h.silent⟩

/-- A stream that is not there has nothing to cancel. -/
theorem cancels_helper {α : Type} {f : α → Controller → Result} {ready : α → Bool}
    {symbols : α → List String} {request : CancelAllOrders} {s : Controller}
    (h : ∀ x, (f x s).Cancels (ready x) (symbols x) request) (x : Option α) :
    (helper x f s).Cancels (x.all ready) (x.elim [] symbols) request := by
  cases x with
  | none => exact ⟨rfl,iff_of_true silent_nil (.inr rfl)⟩
  | some x => exact h x

/-- A request that ends with an exception has done nothing. -/
def AllOrNothing (r : Result) : Prop := r.exception.isSome → Silent r.outputs

theorem allOrNothing_andThen_iff {request : CancelAllOrders} {r : Result}
    {f : Controller → Result} {ready ready' : Bool} {symbols symbols' : List String}
    (h : r.Cancels ready symbols request)
    (h' : (f r.controller).Cancels ready' symbols' request) :
    AllOrNothing (r.andThen f) ↔
      ¬ (ready = true ∧ affected request symbols ≠ [] ∧ ready' = false) := by
  unfold AllOrNothing Result.andThen
  cases ready with
  | false => simp [h.exception, h.silent]
  | true =>
    cases ready' with
    | false => simp [h.exception, h'.exception, silent_append, h.silent, h'.silent]
    | true => simp [h.exception, h'.exception]

variable (shared : Shared) (info : MessageInfo) (request : CancelAllOrders) (requestId : String)
  (s : Controller)

theorem cancels_requestOrderEntry (entry : OrderEntry) :
    (requestOrderEntry shared request.account (.cancelAllOrders info request requestId)
      (.cancelAllOrders request requestId) entry s).Cancels
        entry.isReady entry.openOrdersSymbols request := by
  cases entry with
  | webSocket self =>
    have h : Gateway.Cancels self.isReady self.openOrdersSymbols request
        (WebSocket.onRequest shared (.cancelAllOrders info request requestId)
          ⟨self,s.request request.account,[]⟩) :=
      WebSocket.cancels info request requestId ⟨self,s.request request.account,[]⟩ rfl
    exact cancels_call (fun self => putOrderEntry request.account (.webSocket self)) .frame h
  | portfolio self =>
    have h : Gateway.Cancels self.isReady self.openOrdersSymbols request
        (OrderEntryPortfolio.onRequest shared (.cancelAllOrders request requestId)
          ⟨self,s.request request.account,[]⟩) :=
      OrderEntryPortfolio.cancels request requestId ⟨self,s.request request.account,[]⟩ rfl
    exact cancels_call (fun self => putOrderEntry request.account (.portfolio self)) .portfolio h

theorem cancels_requestMargin (self : OrderEntryMargin) :
    (requestMargin shared request.account (.cancelAllOrders request requestId) self s).Cancels
      self.isReady self.openOrdersSymbols request := by
  have h : Gateway.Cancels self.isReady self.openOrdersSymbols request
      (OrderEntryMargin.onRequest shared (.cancelAllOrders request requestId)
        ⟨self,s.request request.account,[]⟩) :=
    OrderEntryMargin.cancels request requestId ⟨self,s.request request.account,[]⟩ rfl
  exact cancels_call (putOrderEntryMargin request.account) .margin h

theorem helper_requestOrderEntry_margin (x : Option OrderEntry) :
    (helper x (requestOrderEntry shared request.account (.cancelAllOrders info request requestId)
      (.cancelAllOrders request requestId)) s).controller.orderEntryMargin = s.orderEntryMargin := by
  cases x with
  | none => rfl
  | some entry => cases entry <;> rfl

/-- The first stream is ready and has something to cancel, and the margin stream is there and
not ready. -/
def HalfReady : Prop :=
  (∃ entry, s.orderEntry request.account = some entry ∧ entry.isReady = true ∧
    affected request entry.openOrdersSymbols ≠ []) ∧
  ∃ self, s.orderEntryMargin request.account = some self ∧ self.isReady = false

/-- A request to cancel all orders is all or nothing, unless the first stream has acted on it
when the margin stream refuses it. -/
theorem cancelAllOrders_allOrNothing_iff :
    AllOrNothing (cancelAllOrders shared info request requestId s) ↔ ¬ HalfReady request s := by
  have h := cancels_helper (cancels_requestOrderEntry shared info request requestId s)
    (s.orderEntry request.account)
  have h' := fun s : Controller =>
    cancels_helper (cancels_requestMargin shared request requestId s)
      (s.orderEntryMargin request.account)
  have hiff := allOrNothing_andThen_iff (f := fun s => helper (s.orderEntryMargin request.account)
    (requestMargin shared request.account (.cancelAllOrders request requestId)) s) h (h' _)
  rw [cancelAllOrders,hiff,helper_requestOrderEntry_margin]
  cases he : s.orderEntry request.account <;> cases hm : s.orderEntryMargin request.account <;>
    simp [HalfReady, he, hm, affected, and_assoc]

def unmatched : MatchedOrder := ⟨0,0,0⟩

def reply (request : WSAPIRequest) : Event :=
  .webSocket "A1" (.text (WSAPIParser.echo request "200") unmatched true)

/-- The spot stream becomes ready and an order is placed, the margin stream is not connected. -/
def halfReady : List (TraceInfo × Event) :=
  [(⟨1,1⟩,.webSocket "A1" .ready),
   (⟨2,2⟩,reply ⟨2000001,.SESSION_LOGON,0,0,0,0⟩),
   (⟨3,3⟩,reply ⟨2000002,.USER_DATA_STREAM_SUBSCRIBE,0,0,0,0⟩),
   (⟨4,4⟩,reply ⟨2000003,.ACCOUNT_STATUS,0,0,0,0⟩),
   (⟨5,5⟩,reply ⟨2000004,.OPEN_ORDERS_STATUS,0,0,0,0⟩),
   (⟨6,6⟩,.client (.createOrder ⟨7,6⟩ ⟨"A1",42,"BTCUSDT",.undefined,""⟩ ""))]

def cancelAll : CancelAllOrders := ⟨"A1",0,"","",.undefined,0⟩

/-- A test for a request that has failed and yet been sent. -/
def sentTest (s : Controller) : Bool :=
  let r := cancelAllOrders Shared.sample ⟨7,7⟩ cancelAll "" s
  r.exception.isSome && decide (r.outputs.filterMap Output.sent ≠ [])

/-- The spot orders are canceled, and then the request fails. -/
theorem failed_cancelAll_sent :
    ¬ ∀ s, (machine Shared.sample .sample false [⟨"A1",.undefined⟩]).Reachable s →
      ∀ shared info request requestId,
        AllOrNothing (cancelAllOrders shared info request requestId s) := by
  intro h
  obtain ⟨s,hs,ht⟩ := (machine Shared.sample .sample false [⟨"A1",.undefined⟩]).exists_reachable
    (show ((machine Shared.sample .sample false [⟨"A1",.undefined⟩]).run
      (create false [⟨"A1",.undefined⟩]) halfReady).any sentTest = true by decide)
  simp only [sentTest, Bool.and_eq_true, decide_eq_true_eq] at ht
  exact ht.2 (h s hs Shared.sample ⟨7,7⟩ cancelAll "" ht.1).sent

end Controller
end RoqBinance.Gateway
