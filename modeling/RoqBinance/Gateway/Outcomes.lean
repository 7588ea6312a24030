import RoqBinance.Gateway.CancelAll

/-! What comes of the response to a new order, a cancel and a cancel of all orders. The two
REST streams handle them alike, up to how they read an update from a reply. -/
namespace RoqBinance.Gateway
open Library Protocol.Json

section
variable {Self Call : Type}

/-- A handler has dispatched `updates`, and left the stream itself as it was. -/
def Dispatches (ctx ctx' : Context Self Call) (updates : List Dispatch) : Prop :=
  ctx'.self = ctx.self ∧ ctx'.request = ctx.request ∧
    ∃ effects, ctx'.outputs = ctx.outputs ++ effects ∧
      effects.filterMap Output.dispatched = updates

/-- The updates that a handler has added. -/
def dispatchedBy (ctx ctx' : Context Self Call) : List Dispatch :=
  (ctx'.outputs.drop ctx.outputs.length).filterMap Output.dispatched

theorem Dispatches.dispatchedBy_eq {ctx ctx' : Context Self Call} {updates : List Dispatch}
    (h : Dispatches ctx ctx' updates) : dispatchedBy ctx ctx' = updates := by
  obtain ⟨-,-,effects,hout,hdisp⟩ := h
  rw [dispatchedBy,hout,List.drop_left,hdisp]

namespace Dispatches
variable {ctx ctx' : Context Self Call} {updates : List Dispatch}

theorem refl (ctx : Context Self Call) : Dispatches ctx ctx [] := ⟨rfl,rfl,[],by simp,rfl⟩

theorem emit (h : Dispatches ctx ctx' updates) {output : Output Call}
    (ho : output.dispatched = none) : Dispatches ctx (ctx'.emit output) updates := by
  obtain ⟨hself,hrequest,effects,hout,hdisp⟩ := h
  refine ⟨hself,hrequest,effects ++ [output],?_,?_⟩
  · rw [Context.emit_outputs,hout,List.append_assoc]
  · rw [List.filterMap_append,hdisp]; simp [ho]

theorem dispatch (h : Dispatches ctx ctx' updates) (update : Dispatch) :
    Dispatches ctx (ctx'.dispatch update) (updates ++ [update]) := by
  obtain ⟨hself,hrequest,effects,hout,hdisp⟩ := h
  refine ⟨hself,hrequest,effects ++ [.dispatch update],?_,?_⟩
  · rw [Context.dispatch_outputs,hout,List.append_assoc]
  · rw [List.filterMap_append,hdisp]; simp [Output.dispatched]

theorem dispatchAll (h : Dispatches ctx ctx' updates) (more : List Dispatch) :
    Dispatches ctx (ctx'.dispatchAll more) (updates ++ more) := by
  obtain ⟨hself,hrequest,effects,hout,hdisp⟩ := h
  refine ⟨hself,hrequest,effects ++ more.map .dispatch,?_,?_⟩
  · rw [Context.dispatchAll_outputs,hout,List.append_assoc]
  · rw [List.filterMap_append,hdisp,List.filterMap_map]
    simp [Function.comp_def, Output.dispatched]

theorem wafLimitViolation (h : Dispatches ctx ctx' updates) (shared : Shared) :
    Dispatches ctx (wafLimitViolation shared ctx') updates := by
  unfold Gateway.wafLimitViolation
  split_ifs <;> exact h.emit rfl

end Dispatches

/-- The effects of a response as its class decides them. -/
def settle {α : Type} (decode : Body → Except String α) (response : RestResponse)
    (refusal : Origin → RequestStatus → Error → String → List Dispatch)
    (acceptance : α → List Dispatch) : List Dispatch :=
  match classify decode response with
  | .success value => acceptance value
  | .error origin status error text => refusal origin status error text
  | .rateLimited _ _ text => refusal .exchange .rejected .requestRateLimitReached text
  | .fatal _ => []

theorem dispatches_processResponseWith {α : Type}
    {limit : Bool → ℕ → Context Self Call → Context Self Call} {decode : Body → Except String α}
    {response : RestResponse}
    {errorHandler : Origin → RequestStatus → Error → String → Context Self Call →
      Context Self Call}
    {successHandler : α → Context Self Call → Context Self Call} {ctx : Context Self Call}
    {refusal : Origin → RequestStatus → Error → String → List Dispatch}
    {acceptance : α → List Dispatch}
    (hlimit : ∀ forbidden retryAfter, Dispatches ctx (limit forbidden retryAfter ctx) [])
    (herror : ∀ origin status error text ctx', Dispatches ctx ctx' [] →
      Dispatches ctx (errorHandler origin status error text ctx')
        (refusal origin status error text))
    (hsuccess : ∀ value, Dispatches ctx (successHandler value ctx) (acceptance value)) :
    Dispatches ctx (processResponseWith limit decode response errorHandler successHandler ctx)
      (settle decode response refusal acceptance) := by
  unfold processResponseWith settle
  cases classify decode response with
  | success value => exact hsuccess value
  | error origin status error text => exact herror _ _ _ _ _ (Dispatches.refl ctx)
  | rateLimited forbidden retryAfter text => exact herror _ _ _ _ _ (hlimit _ _)
  | fatal text => exact (Dispatches.refl ctx).emit rfl

/-- A response that does not redirect is either read or refused. -/
theorem settle_cases {α : Type} {decode : Body → Except String α} {response : RestResponse}
    {refusal : Origin → RequestStatus → Error → String → List Dispatch}
    {acceptance : α → List Dispatch} {P : List Dispatch → Prop}
    (hurl : ¬ response.Redirected) (hrefuses : response.Refuses)
    (hrefusal : decoded decode response = none → ∀ origin status error text,
      status ≠ .accepted → P (refusal origin status error text))
    (hacceptance : ∀ value, decoded decode response = some value → P (acceptance value)) :
    P (settle decode response refusal acceptance) := by
  have hvalue := decoded_eq decode response
  unfold settle
  cases hc : classify decode response with
  | success value => exact hacceptance value (by rw [hvalue,hc]; rfl)
  | error origin status error text =>
    exact hrefusal (by rw [hvalue,hc]; rfl) _ _ _ _ (hrefuses.classify hc)
  | rateLimited forbidden retryAfter text =>
    exact hrefusal (by rw [hvalue,hc]; rfl) _ _ _ _ (by simp)
  | fatal text => exact absurd (fatal_of_classify hc).1 hurl

end

/-- A request of a client whose response has to be reported to that client. -/
inductive OrderRequest
  | newOrder (userId : UInt8) (orderId : UInt64) (version : UInt32)
  | cancelOrder (userId : UInt8) (orderId : UInt64) (version : UInt32)
  | cancelAllOpenOrders (requestId : String)
  deriving DecidableEq, Repr

/-- What a client learns of a request: the origin, the status and the error. -/
abbrev Report := Origin × RequestStatus × Error

def report? : Dispatch → Option Report
  | .response response _ _ _ _ => some (response.origin,response.requestStatus,response.error)
  | .cancelAllOrdersAck ack => some (ack.origin,ack.requestStatus,ack.error)
  | _ => none

def Processed.outcome {α : Type} : Processed α → Option Report
  | .success _ => some (.exchange,.accepted,.undefined)
  | .error origin status what _ => some (origin,status,what)
  | .rateLimited _ _ _ => some (.exchange,.rejected,.requestRateLimitReached)
  | .fatal _ => none

/-- The exchange has answered a cancel of all orders, and the answer can be read. A redirection
is not reported at all. -/
def RestResponse.answered : RestResponse → Bool
  | .result status category _ body =>
    match category with
    | .unknown => false
    | .informationalResponse => false
    | .success => body.cancelAllOpenOrdersAck.isOk
    | .redirection => true
    | .clientError =>
      decide (status = FORBIDDEN ∨ status = I_AM_A_TEAPOT ∨ status = TOO_MANY_REQUESTS) ||
        body.errorError.isOk
    | .serverError => true
  | .omsException origin status _ _ => decide (origin = .exchange ∧ status = .rejected)
  | .networkError _ _ _ => false
  | .exception _ => false

/-- What a request has done at the exchange is not known: it cannot be told whether it has got there,
or the reply cannot be read. -/
def RestResponse.Doubtful {α : Type} (decode : Body → Except String α) : RestResponse → Prop
  | .result status category _ body =>
    match category with
    | .unknown => True
    | .informationalResponse => True
    | .success => (decode body).isOk = false
    | .redirection => False
    | .clientError => ¬ (status = FORBIDDEN ∨ status = I_AM_A_TEAPOT ∨ status = TOO_MANY_REQUESTS) ∧
      body.errorError.isOk = false
    | .serverError => False
  | .omsException _ _ _ _ => False
  | .networkError _ _ _ => True
  | .exception _ => True

/-- Such a response is not classified as a rejection by the exchange. -/
theorem RestResponse.Doubtful.classify {α : Type} {decode : Body → Except String α}
    {response : RestResponse} (h : response.Doubtful decode) :
    ∃ origin status error text, classify decode response = .error origin status error text ∧
      ¬ (origin = .exchange ∧ status = .rejected) := by
  cases response with
  | result status category retryAfter body =>
    cases category with
    | unknown => exact ⟨_,_,_,_,rfl,by simp⟩
    | informationalResponse => exact ⟨_,_,_,_,rfl,by simp⟩
    | success =>
      cases hb : decode body with
      | ok value => simp [Doubtful, hb, Except.isOk, Except.toBool] at h
      | error what => exact ⟨_,_,_,_,by rw [Gateway.classify,hb],by simp⟩
    | redirection => cases h
    | clientError =>
      obtain ⟨hlimit,hbody⟩ := h
      obtain ⟨hforbidden,hlimit⟩ := not_or.mp hlimit
      cases hb : body.errorError with
      | ok error => simp [hb, Except.isOk, Except.toBool] at hbody
      | error what =>
        refine ⟨.exchange,.error,.unknown,what,?_,by simp⟩
        simp only [Gateway.classify, if_neg hforbidden, if_neg hlimit, hb]
    | serverError => cases h
  | omsException origin status error what => cases h
  | networkError status error what => exact ⟨_,_,_,_,rfl,by simp⟩
  | exception what => exact ⟨_,_,_,_,rfl,by simp⟩

namespace OrderRequest

def Doubtful (request : OrderRequest) (response : RestResponse) : Prop :=
  match request with
  | newOrder _ _ _ => response.Doubtful Body.newOrderAck
  | cancelOrder _ _ _ => response.Doubtful Body.cancelOrderAck
  | cancelAllOpenOrders _ => response.Doubtful Body.cancelAllOpenOrdersAck

def classified (request : OrderRequest) (response : RestResponse) : Option Report :=
  match request with
  | newOrder _ _ _ => (classify Body.newOrderAck response).outcome
  | cancelOrder _ _ _ => (classify Body.cancelOrderAck response).outcome
  | cancelAllOpenOrders _ => (classify Body.cancelAllOpenOrdersAck response).outcome

def Faithful (request : OrderRequest) (response : RestResponse) : Bool :=
  match request with
  | newOrder _ _ _ => true
  | cancelOrder _ _ _ => true
  | cancelAllOpenOrders _ => response.answered

end OrderRequest

/-- The client is told what the response was classified as. -/
def Conveys (request : OrderRequest) (response : RestResponse) (dispatched : List Dispatch) : Prop :=
  ∀ report, request.classified response = some report → dispatched.filterMap report? = [report]

/-- The client is told that the exchange has rejected the request. -/
def Rejects (dispatched : List Dispatch) : Prop :=
  ∃ error, (.exchange,.rejected,error) ∈ dispatched.filterMap report?

/-- What tells the two streams apart. -/
structure OrderStream (Self Call : Type) where
  streamId : Self → ℕ
  account : Self → String
  limit : Bool → ℕ → Context Self Call → Context Self Call
  newOrderUpdate : Self → NewOrderAck → OrderUpdate
  cancelOrderUpdate : Self → CancelOrderAck → OrderUpdate
  canceledUpdate : Self → Order → Dispatch
  isUpdate : ∀ self order, ∃ update, canceledUpdate self order = .orderUpdate (streamId self) update
  quiet : ∀ forbidden retryAfter ctx, Dispatches ctx (limit forbidden retryAfter ctx) []

namespace OrderStream
variable {Self Call : Type} (o : OrderStream Self Call)

def refuse (requestType : RequestType) (userId : UInt8) (orderId : UInt64) (version : UInt32)
    (origin : Origin) (status : RequestStatus) (error : Error) (text : String)
    (ctx : Context Self Call) : Context Self Call :=
  ctx.dispatch (.response (refused requestType origin status error text version) none
    (o.streamId ctx.self) userId orderId)

def accept (requestType : RequestType) (userId : UInt8) (orderId : UInt64) (version : UInt32)
    (update : OrderUpdate) (ctx : Context Self Call) : Context Self Call :=
  ctx.dispatch (.response (accepted requestType version update.externalOrderId) (some update)
    (o.streamId ctx.self) userId orderId)

def exchangeAck (self : Self) (requestId : String) (status : RequestStatus) (error : Error)
    (text : String) : CancelAllOrdersAck :=
  { streamId := o.streamId self, account := o.account self, orderId := 0, exchange := "",
    symbol := "", side := .undefined, origin := .exchange, requestStatus := status,
    error := error, text := text, requestId := requestId, strategyId := 0 }

def sendAck (requestId : String) (status : RequestStatus) (error : Error) (text : String)
    (ctx : Context Self Call) : Context Self Call :=
  ctx.dispatch (.cancelAllOrdersAck (o.exchangeAck ctx.self requestId status error text))

def canceled (self : Self) (ack : OpenOrdersAck) : List Dispatch :=
  (ordersOf ack).map (o.canceledUpdate self)

/-- The handler of the response, with the exceptions of its block. -/
def ack (request : OrderRequest) (response : RestResponse) (ctx : Context Self Call) :
    Ended Self Call :=
  match request with
  | .newOrder userId orderId version =>
    processResponseThrowing o.limit response
      (fun origin status error text ctx =>
        (o.refuse .createOrder userId orderId version origin status error text ctx,none))
      (decoding Body.newOrderAck fun ack ctx =>
        o.accept .createOrder userId orderId version (o.newOrderUpdate ctx.self ack) ctx) ctx
  | .cancelOrder userId orderId version =>
    processResponseThrowing o.limit response
      (fun origin status error text ctx =>
        (o.refuse .cancelOrder userId orderId version origin status error text ctx,none))
      (decoding Body.cancelOrderAck fun ack ctx =>
        o.accept .cancelOrder userId orderId version (o.cancelOrderUpdate ctx.self ack) ctx) ctx
  | .cancelAllOpenOrders requestId =>
    processResponseThrowing o.limit response
      (fun _ _ error text ctx => (o.sendAck requestId .rejected error text ctx,none))
      (decoding Body.cancelAllOpenOrdersAck fun ack ctx =>
        o.sendAck requestId .accepted .undefined ""
          (ctx.dispatchAll (o.canceled ctx.self ack))) ctx

/-- What is dispatched for the client, by the class of the response. -/
def outcome (request : OrderRequest) (response : RestResponse) (self : Self) : List Dispatch :=
  match request with
  | .newOrder userId orderId version =>
    settle Body.newOrderAck response
      (fun origin status error text => [.response
        (refused .createOrder origin status error text version) none (o.streamId self) userId
        orderId])
      (fun ack => [.response
        (accepted .createOrder version (o.newOrderUpdate self ack).externalOrderId)
        (some (o.newOrderUpdate self ack)) (o.streamId self) userId orderId])
  | .cancelOrder userId orderId version =>
    settle Body.cancelOrderAck response
      (fun origin status error text => [.response
        (refused .cancelOrder origin status error text version) none (o.streamId self) userId
        orderId])
      (fun ack => [.response
        (accepted .cancelOrder version (o.cancelOrderUpdate self ack).externalOrderId)
        (some (o.cancelOrderUpdate self ack)) (o.streamId self) userId orderId])
  | .cancelAllOpenOrders requestId =>
    settle Body.cancelAllOpenOrdersAck response
      (fun _ _ error text => [.cancelAllOrdersAck (o.exchangeAck self requestId .rejected error text)])
      (fun ack => o.canceled self ack ++
        [.cancelAllOrdersAck (o.exchangeAck self requestId .accepted .undefined "")])

/-- No exception leaves the handler, and it dispatches the outcome. -/
theorem dispatches_ack (request : OrderRequest) (response : RestResponse)
    (ctx : Context Self Call) :
    ∃ ctx', o.ack request response ctx = (ctx',none) ∧
      Dispatches ctx ctx' (o.outcome request response ctx.self) := by
  cases request with
  | newOrder userId orderId version =>
    refine ⟨_,processResponseThrowing_eq _ _ _ _ _ _,?_⟩
    refine dispatches_processResponseWith (o.quiet · · ctx) ?_ ?_
    · intro origin status error text ctx' h
      simpa [refuse, h.1] using h.dispatch _
    · intro ack; exact (Dispatches.refl ctx).dispatch _
  | cancelOrder userId orderId version =>
    refine ⟨_,processResponseThrowing_eq _ _ _ _ _ _,?_⟩
    refine dispatches_processResponseWith (o.quiet · · ctx) ?_ ?_
    · intro origin status error text ctx' h
      simpa [refuse, h.1] using h.dispatch _
    · intro ack; exact (Dispatches.refl ctx).dispatch _
  | cancelAllOpenOrders requestId =>
    refine ⟨_,processResponseThrowing_eq _ _ _ _ _ _,?_⟩
    refine dispatches_processResponseWith (o.quiet · · ctx) ?_ ?_
    · intro origin status error text ctx' h
      simpa [sendAck, h.1] using h.dispatch _
    · intro ack; exact ((Dispatches.refl ctx).dispatchAll _).dispatch _

/-- One response for the request, which is accepted if there is an update and else refused. -/
def OneResponse (requestType : RequestType) (streamId : ℕ) (userId : UInt8) (orderId : UInt64)
    (version : UInt32) (update : Option OrderUpdate) (dispatched : List Dispatch) : Prop :=
  ∃ response, dispatched = [.response response update streamId userId orderId] ∧
    response.requestType = requestType ∧ response.version = version ∧
    (response.requestStatus = .accepted ↔ update.isSome = true)

/-- One acknowledgement from the exchange, all else being updates of orders. -/
def OneAck (requestId : String) (accepted : Bool) (dispatched : List Dispatch) : Prop :=
  ∃ ack, dispatched.filterMap ack? = [ack] ∧ ack.origin = .exchange ∧ ack.requestId = requestId ∧
    (ack.requestStatus = .accepted ↔ accepted = true) ∧
    ∀ update ∈ dispatched, update = .cancelAllOrdersAck ack ∨
      ∃ streamId order, update = .orderUpdate streamId order

/-- The outcome of a request is terminal, and it is a success only if the reply can be read. -/
def Terminal (request : OrderRequest) (response : RestResponse) (self : Self)
    (dispatched : List Dispatch) : Prop :=
  match request with
  | .newOrder userId orderId version =>
    OneResponse .createOrder (o.streamId self) userId orderId version
      ((decoded Body.newOrderAck response).map (o.newOrderUpdate self)) dispatched
  | .cancelOrder userId orderId version =>
    OneResponse .cancelOrder (o.streamId self) userId orderId version
      ((decoded Body.cancelOrderAck response).map (o.cancelOrderUpdate self)) dispatched
  | .cancelAllOpenOrders requestId =>
    OneAck requestId (decoded Body.cancelAllOpenOrdersAck response).isSome dispatched

theorem canceled_updates (self : Self) (ack : OpenOrdersAck) :
    ∀ update ∈ o.canceled self ack, ∃ order, update = .orderUpdate (o.streamId self) order := by
  intro update h
  obtain ⟨order,-,rfl⟩ := List.mem_map.mp h
  exact o.isUpdate self order

theorem oneAck_append {requestId : String} {accepted : Bool} {ack : CancelAllOrdersAck}
    {updates : List Dispatch} (horigin : ack.origin = .exchange) (hid : ack.requestId = requestId)
    (hstatus : ack.requestStatus = .accepted ↔ accepted = true)
    (h : ∀ update ∈ updates, ∃ streamId order, update = .orderUpdate streamId order) :
    OneAck requestId accepted (updates ++ [.cancelAllOrdersAck ack]) := by
  have hnone : updates.filterMap ack? = [] := by
    rw [List.filterMap_eq_nil_iff]
    intro update hu
    obtain ⟨streamId,order,rfl⟩ := h update hu
    rfl
  refine ⟨ack,?_,horigin,hid,hstatus,?_⟩
  · rw [List.filterMap_append,hnone]; rfl
  · intro update hu
    rcases List.mem_append.mp hu with hu | hu
    · exact .inr (h update hu)
    · exact .inl (List.mem_singleton.mp hu)

theorem terminal_outcome (request : OrderRequest) {response : RestResponse}
    (hurl : ¬ response.Redirected) (hrefuses : response.Refuses) (self : Self) :
    o.Terminal request response self (o.outcome request response self) := by
  cases request with
  | newOrder userId orderId version =>
    refine settle_cases hurl hrefuses ?_ ?_
    · intro hd origin status error text hstatus
      exact ⟨_,by rw [hd]; rfl,rfl,rfl,by simp [hd, refused, hstatus]⟩
    · intro ack hd
      exact ⟨_,by rw [hd]; rfl,rfl,rfl,by simp [hd, accepted]⟩
  | cancelOrder userId orderId version =>
    refine settle_cases hurl hrefuses ?_ ?_
    · intro hd origin status error text hstatus
      exact ⟨_,by rw [hd]; rfl,rfl,rfl,by simp [hd, refused, hstatus]⟩
    · intro ack hd
      exact ⟨_,by rw [hd]; rfl,rfl,rfl,by simp [hd, accepted]⟩
  | cancelAllOpenOrders requestId =>
    refine settle_cases hurl hrefuses ?_ ?_
    · intro hd origin status error text hstatus
      refine oneAck_append rfl rfl ?_ (List.forall_mem_nil _)
      simp [hd, exchangeAck]
    · intro ack hd
      refine oneAck_append rfl rfl ?_ fun update hu => ?_
      · simp [hd, exchangeAck]
      · obtain ⟨order,h⟩ := o.canceled_updates self ack update hu
        exact ⟨_,order,h⟩

/-- The acknowledgement says what the class of the response says. -/
theorem conveys_outcome_iff (request : OrderRequest) (response : RestResponse) (self : Self) :
    Conveys request response (o.outcome request response self) ↔
      request.Faithful response = true := by
  cases request with
  | newOrder userId orderId version =>
    simp only [Conveys, OrderRequest.classified, outcome, settle, OrderRequest.Faithful, iff_true]
    intro x
    cases classify Body.newOrderAck response <;> rintro ⟨⟩ <;> rfl
  | cancelOrder userId orderId version =>
    simp only [Conveys, OrderRequest.classified, outcome, settle, OrderRequest.Faithful, iff_true]
    intro x
    cases classify Body.cancelOrderAck response <;> rintro ⟨⟩ <;> rfl
  | cancelAllOpenOrders requestId =>
    have hnone : ∀ ack, (o.canceled self ack).filterMap report? = [] := by
      intro ack
      rw [List.filterMap_eq_nil_iff]
      intro update hu
      obtain ⟨order,rfl⟩ := o.canceled_updates self ack update hu
      rfl
    simp only [Conveys, OrderRequest.classified, outcome, settle, OrderRequest.Faithful]
    cases response with
    | result status category retryAfter body =>
      cases category with
      | success =>
        cases hb : body.cancelAllOpenOrdersAck <;>
          simp [classify, hb, Processed.outcome, RestResponse.answered, Except.isOk, Except.toBool,
            report?, exchangeAck, hnone]
      | clientError =>
        simp only [classify, RestResponse.answered]
        split_ifs with h1 h2
        · simp [Processed.outcome, report?, exchangeAck, h1]
        · simp [Processed.outcome, report?, exchangeAck, h2]
        · cases hb : body.errorError <;>
            simp [h1, h2, Processed.outcome, Except.isOk, Except.toBool, report?, exchangeAck]
      | unknown => simp [classify, Processed.outcome, RestResponse.answered, report?, exchangeAck]
      | informationalResponse =>
        simp [classify, Processed.outcome, RestResponse.answered, report?, exchangeAck]
      | redirection => simp [classify, Processed.outcome, RestResponse.answered]
      | serverError => simp [classify, Processed.outcome, RestResponse.answered, report?, exchangeAck]
    | omsException origin status error what =>
      simp only [classify, Processed.outcome, RestResponse.answered, decide_eq_true_eq]
      constructor
      · intro h
        have h := h _ rfl
        simp only [List.filterMap_cons, report?, exchangeAck, List.filterMap_nil, List.cons.injEq,
          Prod.mk.injEq] at h
        exact ⟨h.1.1.symm,h.1.2.1.symm⟩
      · rintro ⟨rfl,rfl⟩ x hx
        cases hx
        rfl
    | networkError status error what =>
      simp [classify, Processed.outcome, RestResponse.answered, report?, exchangeAck]
    | exception what =>
      simp [classify, Processed.outcome, RestResponse.answered, report?, exchangeAck]

/-- A cancel of all orders that may have had its effect is reported as rejected, others are not. -/
theorem rejects_outcome_iff {request : OrderRequest} {response : RestResponse}
    (h : request.Doubtful response) (self : Self) :
    Rejects (o.outcome request response self) ↔
      ∃ requestId, request = .cancelAllOpenOrders requestId := by
  cases request with
  | newOrder userId orderId version =>
    obtain ⟨origin,status,error,text,hclass,hnot⟩ := RestResponse.Doubtful.classify h
    simp only [outcome, settle, hclass, reduceCtorEq, exists_false, iff_false]
    rintro ⟨error',hmem⟩
    obtain ⟨rfl,rfl,-⟩ := by simpa [report?, refused] using hmem
    exact hnot ⟨rfl,rfl⟩
  | cancelOrder userId orderId version =>
    obtain ⟨origin,status,error,text,hclass,hnot⟩ := RestResponse.Doubtful.classify h
    simp only [outcome, settle, hclass, reduceCtorEq, exists_false, iff_false]
    rintro ⟨error',hmem⟩
    obtain ⟨rfl,rfl,-⟩ := by simpa [report?, refused] using hmem
    exact hnot ⟨rfl,rfl⟩
  | cancelAllOpenOrders requestId =>
    obtain ⟨origin,status,error,text,hclass,-⟩ := RestResponse.Doubtful.classify h
    simp only [outcome, settle, hclass]
    exact iff_of_true ⟨error,List.mem_singleton_self _⟩ ⟨requestId,rfl⟩

end OrderStream

namespace OrderEntryMargin

def orderStream (shared : Shared) : OrderStream OrderEntryMargin Call where
  streamId self := self.streamId
  account self := self.account
  limit := limit shared
  newOrderUpdate self ack := NewOrder.orderUpdate shared self.account
    (if ack.isIsolated then .isolated else .cross) ack
  cancelOrderUpdate self ack := Gateway.cancelOrderUpdate shared self.account
    (if ack.isIsolated then .isolated else .cross) 0 ack
  canceledUpdate self order := orderUpdate shared self order .undefined .incremental
  isUpdate _ _ := ⟨_,rfl⟩
  quiet forbidden retryAfter ctx := by
    unfold limit
    split_ifs
    · exact (Dispatches.refl ctx).wafLimitViolation shared
    · exact Dispatches.refl ctx

def Call.order? : Call → Option OrderRequest
  | .newOrder _ userId orderId => some (.newOrder userId orderId 1)
  | .cancelOrder _ userId orderId version => some (.cancelOrder userId orderId version)
  | .cancelAllOpenOrders _ _ requestId => some (.cancelAllOpenOrders requestId)
  | _ => none

theorem ack_eq (shared : Shared) (t : TraceInfo) {call : Call} {request : OrderRequest}
    (h : call.order? = some request) (response : RestResponse) (retryNow : Bool) (ctx : Ctx) :
    (orderStream shared).ack request response ctx =
      (onResponse shared t call response retryNow ctx,none) := by
  cases call <;> cases h <;> exact processResponseThrowing_eq _ _ _ _ _ _

end OrderEntryMargin

namespace OrderEntryPortfolio

def orderStream (shared : Shared) : OrderStream OrderEntryPortfolio Call where
  streamId self := self.streamId
  account self := self.account
  limit := limit shared
  newOrderUpdate self ack := NewOrder.orderUpdate shared self.account .portfolio ack
  cancelOrderUpdate self ack := Gateway.cancelOrderUpdate shared self.account .portfolio 0 ack
  canceledUpdate := canceledUpdate shared
  isUpdate _ _ := ⟨_,rfl⟩
  quiet forbidden retryAfter ctx := by
    have h : Dispatches ctx (if forbidden then wafLimitViolation shared ctx else ctx) [] := by
      split_ifs
      · exact (Dispatches.refl ctx).wafLimitViolation shared
      · exact Dispatches.refl ctx
    change Dispatches ctx (suspendFor retryAfter _) []
    by_cases hr : retryAfter = 0
    · simpa [suspendFor, hr] using h
    · simpa [suspendFor, hr] using h.emit (show Output.dispatched (.suspendFor retryAfter) = none from rfl)

def Call.order? : Call → Option OrderRequest
  | .newOrder _ userId orderId => some (.newOrder userId orderId 1)
  | .cancelOrder _ userId orderId version => some (.cancelOrder userId orderId version)
  | .cancelAllOpenOrders _ requestId => some (.cancelAllOpenOrders requestId)
  | _ => none

theorem ack_eq (shared : Shared) (t : TraceInfo) {call : Call} {request : OrderRequest}
    (h : call.order? = some request) (response : RestResponse) (retryNow : Bool) (ctx : Ctx) :
    (orderStream shared).ack request response ctx =
      (onResponse shared t call response retryNow ctx,none) := by
  cases call <;> cases h <;> exact processResponseThrowing_eq _ _ _ _ _ _

end OrderEntryPortfolio

/-- The responses that do not end the process. -/
def RestResponse.Survived (shared : Shared) : RestResponse → Prop
  | .result status category _ _ => category ≠ .redirection ∧
    ¬ (status = FORBIDDEN ∧ shared.settings.terminateOn403 = true)
  | _ => True

theorem RestResponse.Survived.not_redirected {shared : Shared} {response : RestResponse}
    (h : response.Survived shared) : ¬ response.Redirected := by
  cases response with
  | result status category retryAfter body => exact h.1
  | omsException origin status error what => exact id
  | networkError status error what => exact id
  | exception what => exact id

namespace OrderStream
variable {Self Call : Type} (o : OrderStream Self Call)

theorem dispatchedBy_ack {request : OrderRequest} {response : RestResponse}
    {ctx ctx' : Context Self Call} (h : o.ack request response ctx = (ctx',none)) :
    dispatchedBy ctx ctx' = o.outcome request response ctx.self := by
  obtain ⟨ctx'',heq,hd⟩ := o.dispatches_ack request response ctx
  cases h.symm.trans heq
  exact hd.dispatchedBy_eq

end OrderStream

variable (shared : Shared) (t : TraceInfo) (retryNow : Bool)

/-- Whatever comes back for an order request, no exception leaves the handler, and the client
gets one outcome. A conflict is refused like the other client errors. -/
theorem order_requests_terminal {response : RestResponse} (hs : response.Survived shared)
    (hr : response.Refuses) :
    (∀ (call : OrderEntryMargin.Call) (request : OrderRequest) (ctx : OrderEntryMargin.Ctx),
      call.order? = some request →
        (OrderEntryMargin.orderStream shared).ack request response ctx =
          (OrderEntryMargin.onResponse shared t call response retryNow ctx,none) ∧
        (OrderEntryMargin.orderStream shared).Terminal request response ctx.self
          (dispatchedBy ctx (OrderEntryMargin.onResponse shared t call response retryNow ctx))) ∧
    (∀ (call : OrderEntryPortfolio.Call) (request : OrderRequest) (ctx : OrderEntryPortfolio.Ctx),
      call.order? = some request →
        (OrderEntryPortfolio.orderStream shared).ack request response ctx =
          (OrderEntryPortfolio.onResponse shared t call response retryNow ctx,none) ∧
        (OrderEntryPortfolio.orderStream shared).Terminal request response ctx.self
          (dispatchedBy ctx (OrderEntryPortfolio.onResponse shared t call response retryNow ctx))) := by
  refine ⟨?_,?_⟩
  · intro call request ctx hcall
    have hack := OrderEntryMargin.ack_eq shared t hcall response retryNow ctx
    refine ⟨hack,?_⟩
    rw [OrderStream.dispatchedBy_ack _ hack]
    exact OrderStream.terminal_outcome _ request hs.not_redirected hr ctx.self
  · intro call request ctx hcall
    have hack := OrderEntryPortfolio.ack_eq shared t hcall response retryNow ctx
    refine ⟨hack,?_⟩
    rw [OrderStream.dispatchedBy_ack _ hack]
    exact OrderStream.terminal_outcome _ request hs.not_redirected hr ctx.self

theorem order_requests_terminal_networkError :
    (OrderEntryMargin.orderStream Shared.sample).Terminal (.cancelOrder 1 7 2)
      (.networkError (.network 1) (.network 2) "timeout") (OrderEntryMargin.create 3 "A1")
      (dispatchedBy ⟨OrderEntryMargin.create 3 "A1",Request.empty,[]⟩
        (OrderEntryMargin.onResponse Shared.sample ⟨0,0⟩ (.cancelOrder "" 1 7 2)
          (.networkError (.network 1) (.network 2) "timeout") false
          ⟨OrderEntryMargin.create 3 "A1",Request.empty,[]⟩)) :=
  ((order_requests_terminal Shared.sample ⟨0,0⟩ false
    (show RestResponse.Survived Shared.sample
      (.networkError (.network 1) (.network 2) "timeout") from trivial)
    (by simp [RestResponse.Refuses])).1 (.cancelOrder "" 1 7 2) (.cancelOrder 1 7 2) _ rfl).2

/-- The client is told what the response was classified as, except that a cancel of all orders
is always reported as answered by the exchange. -/
theorem conveys_iff (response : RestResponse) :
    (∀ (call : OrderEntryMargin.Call) (request : OrderRequest) (ctx : OrderEntryMargin.Ctx),
      call.order? = some request →
        (Conveys request response
          (dispatchedBy ctx (OrderEntryMargin.onResponse shared t call response retryNow ctx)) ↔
          request.Faithful response = true)) ∧
    (∀ (call : OrderEntryPortfolio.Call) (request : OrderRequest) (ctx : OrderEntryPortfolio.Ctx),
      call.order? = some request →
        (Conveys request response
          (dispatchedBy ctx (OrderEntryPortfolio.onResponse shared t call response retryNow ctx)) ↔
          request.Faithful response = true)) := by
  refine ⟨?_,?_⟩
  · intro call request ctx hcall
    rw [OrderStream.dispatchedBy_ack _
      (OrderEntryMargin.ack_eq shared t hcall response retryNow ctx)]
    exact OrderStream.conveys_outcome_iff _ request response ctx.self
  · intro call request ctx hcall
    rw [OrderStream.dispatchedBy_ack _
      (OrderEntryPortfolio.ack_eq shared t hcall response retryNow ctx)]
    exact OrderStream.conveys_outcome_iff _ request response ctx.self

theorem conveys_iff_omsException :
    Conveys (.cancelAllOpenOrders "R1") (.omsException .exchange .rejected .unknown "what")
      (dispatchedBy ⟨OrderEntryMargin.create 3 "A1",Request.empty,[]⟩
        (OrderEntryMargin.onResponse Shared.sample ⟨0,0⟩ (.cancelAllOpenOrders "BTCUSDT" .cross "R1")
          (.omsException .exchange .rejected .unknown "what") false
          ⟨OrderEntryMargin.create 3 "A1",Request.empty,[]⟩)) :=
  ((conveys_iff Shared.sample ⟨0,0⟩ false
    (.omsException .exchange .rejected .unknown "what")).1
      (.cancelAllOpenOrders "BTCUSDT" .cross "R1") (.cancelAllOpenOrders "R1") _ rfl).mpr rfl

/-- A timeout of a cancel of all orders becomes a rejection by the exchange. -/
theorem cancelAll_networkError_rejected :
    ¬ Conveys (.cancelAllOpenOrders "R1") (.networkError (.network 1) (.network 2) "timeout")
      (dispatchedBy ⟨OrderEntryMargin.create 3 "A1",Request.empty,[]⟩
        (OrderEntryMargin.onResponse Shared.sample ⟨0,0⟩ (.cancelAllOpenOrders "BTCUSDT" .cross "R1")
          (.networkError (.network 1) (.network 2) "timeout") false
          ⟨OrderEntryMargin.create 3 "A1",Request.empty,[]⟩)) := by
  intro h
  exact absurd (h (.gateway,.network 1,.network 2) rfl) (by decide)

/-- Where the effect of a request at the exchange is not known, the client is told that the exchange
has rejected it exactly if it is a cancel of all orders. -/
theorem doubtful_rejects_iff {request : OrderRequest} {response : RestResponse}
    (h : request.Doubtful response) :
    (∀ (call : OrderEntryMargin.Call) (ctx : OrderEntryMargin.Ctx), call.order? = some request →
      (Rejects (dispatchedBy ctx (OrderEntryMargin.onResponse shared t call response retryNow ctx)) ↔
        ∃ requestId, request = .cancelAllOpenOrders requestId)) ∧
    (∀ (call : OrderEntryPortfolio.Call) (ctx : OrderEntryPortfolio.Ctx),
      call.order? = some request →
      (Rejects (dispatchedBy ctx (OrderEntryPortfolio.onResponse shared t call response retryNow ctx)) ↔
        ∃ requestId, request = .cancelAllOpenOrders requestId)) := by
  refine ⟨?_,?_⟩
  · intro call ctx hcall
    rw [OrderStream.dispatchedBy_ack _
      (OrderEntryMargin.ack_eq shared t hcall response retryNow ctx)]
    exact OrderStream.rejects_outcome_iff _ h ctx.self
  · intro call ctx hcall
    rw [OrderStream.dispatchedBy_ack _
      (OrderEntryPortfolio.ack_eq shared t hcall response retryNow ctx)]
    exact OrderStream.rejects_outcome_iff _ h ctx.self

end RoqBinance.Gateway
