import RoqBinance.Library.Machine
import RoqBinance.Library.Numbering
import RoqBinance.Gateway.WebSocket

/-! Each order request on the spot socket and the reply to it: the ids of the requests differ,
and the reply that echoes an id is turned into one response for the order of that request. -/
namespace RoqBinance.Gateway
open Library Protocol.Json

namespace WebSocket

/-- The stream, all that it has sent, and the client's request that each frame is due to. -/
structure Session where
  stream : WebSocket
  frames : List Frame
  requests : List (ClientRequest × Frame)

namespace Session

def context (s : Session) : Ctx := ⟨s.stream,Request.empty,[]⟩

end Session

def sent (outputs : List (Output Frame)) : List Frame := outputs.filterMap Output.sent

def Event.request? : Event → Option ClientRequest
  | .client request => some request
  | _ => none

/-- A fatal error ends the process. -/
def next (shared : Shared) (p : WSAPIParsers) (s : Session) (e : TraceInfo × Event) :
    Option Session :=
  let ctx := handle shared p e.1 e.2 s.context
  if ctx.outputs.any Output.isFatal then none
  else some
    { stream := ctx.self, frames := s.frames ++ sent ctx.outputs,
      requests := s.requests ++
        e.2.request?.elim [] fun request => (sent ctx.outputs).map (request,·) }

def machine (shared : Shared) (p : WSAPIParsers) (streamId : ℕ) (account : String) :
    Machine Session (TraceInfo × Event) :=
  ⟨⟨create streamId account,[],[]⟩,next shared p⟩

/-- The frames of the past and those of the context bear the numbers that the stream has
given out. -/
def Counted (first : UInt32) (past : List Frame) (ctx : Ctx) : Prop :=
  Numbered (·+1) first ctx.self.requestId ((past ++ sent ctx.outputs).map (·.request.sequence))

namespace Counted
variable {first : UInt32} {past : List Frame} {ctx : Ctx}

theorem modify (h : Counted first past ctx) {f : WebSocket → WebSocket}
    (hf : (f ctx.self).requestId = ctx.self.requestId) : Counted first past (ctx.modify f) := by
  rw [Counted,Context.modify_self,hf]
  exact h

theorem emit (h : Counted first past ctx) {output : Output Frame} (ho : output.sent = none) :
    Counted first past (ctx.emit output) := by
  have hs : sent (ctx.emit output).outputs = sent ctx.outputs := by
    simp [sent, ho]
  rw [Counted,hs]
  exact h

theorem dispatch (h : Counted first past ctx) (update : Dispatch) :
    Counted first past (ctx.dispatch update) := h.emit rfl

theorem fatal (h : Counted first past ctx) (text : String) : Counted first past (ctx.fatal text) :=
  h.emit rfl

theorem dispatchAll (h : Counted first past ctx) (updates : List Dispatch) :
    Counted first past (ctx.dispatchAll updates) := by
  have hs : sent (ctx.dispatchAll updates).outputs = sent ctx.outputs := by
    simp [sent, Function.comp_def, Output.sent]
  rw [Counted,hs]
  exact h

theorem onConnectionStatus (h : Counted first past ctx) (status : ConnectionStatus)
    (reason : String) : Counted first past (onConnectionStatus status reason ctx) :=
  (h.modify rfl).dispatch _

/-- A frame takes the next number. -/
theorem sendText (h : Counted first past ctx) (type : WSAPIType) (userId : UInt8)
    (orderId : UInt64) (version : UInt32) (method : String) (params : Params) :
    Counted first past (sendText type userId orderId version method params ctx) := by
  have hs := Numbered.snoc h
  rw [Counted,WebSocket.sendText,Context.send_outputs,Context.modify_outputs,sent,
    List.filterMap_append,← List.append_assoc,List.map_append]
  exact hs

end Counted

section
variable {first : UInt32} {past : List Frame} (shared : Shared) (t : TraceInfo)

theorem counted_downloadState (state : State) {ctx : Ctx} (h : Counted first past ctx) :
    Counted first past (downloadState shared t state ctx).1 := by
  cases state with
  | sessionLogon => exact ((h.onConnectionStatus _ _).sendText _ _ _ _ _ _).onConnectionStatus _ _
  | userDataStreamSubscribe =>
    exact ((h.onConnectionStatus _ _).sendText _ _ _ _ _ _).onConnectionStatus _ _
  | accountStatus => exact ((h.onConnectionStatus _ _).sendText _ _ _ _ _ _).onConnectionStatus _ _
  | openOrdersStatus =>
    exact ((h.onConnectionStatus _ _).sendText _ _ _ _ _ _).onConnectionStatus _ _
  | myTrades =>
    simp only [downloadState, myTrades]
    split_ifs
    · refine List.foldlRecOn _ _ (h.onConnectionStatus _ _) ?_
      intro ctx hc symbol _
      exact (hc.sendText _ _ _ _ _ _).onConnectionStatus _ _
    · exact h.onConnectionStatus _ _
  | done => exact (h.onConnectionStatus _ _).modify rfl

theorem kept_counted :
    Download.Kept (downloadState shared t) (Counted first past) :=
  fun state _ h => counted_downloadState shared t state h

theorem counted_sequencer {f : Download State → Ctx → Download State × Ctx} {ctx : Ctx}
    (hf : Counted first past (f ctx.self.download ctx).2) :
    Counted first past (sequencer f ctx) := hf.modify rfl

theorem counted_onReply {α : Type} (state : State) {successHandler : α → Ctx → Ctx}
    (reply : WSAPIReply α) (retryNow : Bool) {ctx : Ctx} (h : Counted first past ctx)
    (hs : Counted first past (successHandler reply.result ctx)) :
    Counted first past (onReply shared t state successHandler reply retryNow ctx) := by
  refine Counted.dispatchAll ?_ _
  split_ifs
  · exact counted_sequencer ((kept_counted shared t).check state hs)
  · exact counted_sequencer ((kept_counted shared t).retry states retryNow state h)

theorem counted_onOpenOrders (orders : List Order) {ctx : Ctx} (h : Counted first past ctx) :
    Counted first past (onOpenOrders shared orders ctx) := by
  refine List.foldlRecOn _ _ h ?_
  intro ctx hc order _
  unfold onOpenOrder
  split_ifs
  · exact hc
  · exact (hc.modify rfl).dispatch _

theorem counted_onMessage (message : WSAPIMessage) (order : MatchedOrder) (retryNow : Bool)
    {ctx : Ctx} (h : Counted first past ctx) :
    Counted first past (onMessage shared t message order retryNow ctx) := by
  cases message with
  | sessionLogon reply => exact counted_onReply shared t _ _ _ h h
  | userDataStreamSubscribe reply => exact counted_onReply shared t _ _ _ h h
  | eventStreamTerminated => exact h.fatal _
  | account reply => exact counted_onReply shared t _ _ _ h (h.dispatchAll _)
  | openOrders reply => exact counted_onReply shared t _ _ _ h (counted_onOpenOrders shared _ h)
  | trades reply => exact counted_onReply shared t _ _ _ h ((h.modify rfl).dispatchAll _)
  | orderPlace reply request =>
    refine Counted.dispatchAll ?_ _
    split_ifs <;> exact h.dispatch _
  | orderAmendKeepPriority reply request =>
    refine Counted.dispatchAll ?_ _
    split_ifs <;> exact h.dispatch _
  | cancelOrder reply request =>
    refine Counted.dispatchAll ?_ _
    split_ifs <;> exact h.dispatch _
  | cancelOpenOrders reply request =>
    refine Counted.dispatchAll ?_ _
    split_ifs
    · exact h.dispatchAll _
    · exact h
  | outboundAccountPosition event => exact h.dispatchAll _
  | balanceUpdate => exact h
  | executionReport report => exact h.dispatchAll _

theorem counted_onSocket (p : WSAPIParsers) (event : SocketEvent) {ctx : Ctx}
    (h : Counted first past ctx) : Counted first past (onSocket shared p t event ctx) := by
  cases event with
  | ready => exact counted_sequencer ((kept_counted shared t).begin states h)
  | disconnected => exact ((h.modify rfl).onConnectionStatus _ _).modify rfl
  | text message order retryNow =>
    simp only [onSocket, parse]
    split
    · exact counted_onMessage shared t _ _ _ h
    · exact h
    · exact h.fatal _
    · exact h.fatal _

theorem counted_onRequest (request : ClientRequest) {ctx : Ctx} (h : Counted first past ctx) :
    Counted first past (onRequest shared request ctx).1 := by
  cases request with
  | createOrder info request params =>
    simp only [onRequest, orderPlace]
    split_ifs
    · exact h
    · split
      · exact h.modify rfl
      · exact (h.modify rfl).sendText _ _ _ _ _ _
  | modifyOrder info request params =>
    simp only [onRequest, orderAmendKeepPriority]
    split_ifs
    · exact h
    · exact h
    · exact h.sendText _ _ _ _ _ _
  | cancelOrder info request params =>
    simp only [onRequest, orderCancel]
    split_ifs
    · exact h
    · split
      · exact h
      · exact h.sendText _ _ _ _ _ _
  | cancelAllOrders info request requestId =>
    simp only [onRequest, openOrdersCancelAll]
    split_ifs
    · exact h
    · refine List.foldlRecOn _ _ h ?_
      intro ctx hc symbol _
      split_ifs
      · exact hc
      · exact (hc.sendText _ _ _ _ _ _).dispatch _

theorem counted_handle (p : WSAPIParsers) (event : Event) {ctx : Ctx} (h : Counted first past ctx) :
    Counted first past (handle shared p t event ctx) := by
  cases event with
  | timer refresh => exact h
  | socket event => exact counted_onSocket shared t p event h
  | client request => exact counted_onRequest shared request h

end

/-- What a client has to be told about: which request on which order of which user. -/
structure OrderRequest where
  requestType : RequestType
  userId : UInt8
  orderId : UInt64
  version : UInt32
  deriving DecidableEq, Repr

/-- The first version of an order is the one that creates it. -/
def ClientRequest.order : ClientRequest → Option OrderRequest
  | createOrder info request _ => some ⟨.createOrder,info.source,request.orderId,1⟩
  | modifyOrder info request _ => some ⟨.modifyOrder,info.source,request.orderId,request.version⟩
  | cancelOrder info request _ => some ⟨.cancelOrder,info.source,request.orderId,request.version⟩
  | cancelAllOrders _ _ _ => none

def OrderRequest.wsapiType (order : OrderRequest) : WSAPIType :=
  match order.requestType with
  | .undefined => .UNDEFINED_INTERNAL
  | .createOrder => .ORDER_PLACE
  | .modifyOrder => .ORDER_AMEND_KEEP_PRIORITY
  | .cancelOrder => .ORDER_CANCEL

/-- The frame names the request, whatever its number. -/
def Names (order : OrderRequest) (frame : Frame) : Prop :=
  ∃ sequence, frame.request =
    ⟨sequence,order.wsapiType,order.userId,order.orderId,order.version,0⟩

theorem sent_sendText (type : WSAPIType) (userId : UInt8) (orderId : UInt64) (version : UInt32)
    (method : String) (params : Params) {ctx : Ctx} (hout : ctx.outputs = []) :
    sent (sendText type userId orderId version method params ctx).outputs =
      [⟨⟨ctx.self.requestId+1,type,userId,orderId,version,0⟩,method,params⟩] := by
  simp [sent, sendText, hout, Output.sent]

theorem names_onRequest (shared : Shared) (request : ClientRequest) {ctx : Ctx}
    (hout : ctx.outputs = []) {order : OrderRequest} (ho : request.order = some order) :
    ∀ frame ∈ sent (onRequest shared request ctx).1.outputs, Names order frame := by
  intro frame hf
  cases request with
  | createOrder info request params =>
    obtain rfl := Option.some.inj ho
    simp only [onRequest, orderPlace] at hf
    split_ifs at hf
    · simp [sent, hout] at hf
    · split at hf
      · simp [sent, hout] at hf
      · rw [sent_sendText _ _ _ _ _ _ (by simpa using hout),List.mem_singleton] at hf
        exact hf ▸ ⟨_,rfl⟩
  | modifyOrder info request params =>
    obtain rfl := Option.some.inj ho
    simp only [onRequest, orderAmendKeepPriority] at hf
    split_ifs at hf
    · simp [sent, hout] at hf
    · simp [sent, hout] at hf
    · rw [sent_sendText _ _ _ _ _ _ hout,List.mem_singleton] at hf
      exact hf ▸ ⟨_,rfl⟩
  | cancelOrder info request params =>
    obtain rfl := Option.some.inj ho
    simp only [onRequest, orderCancel] at hf
    split_ifs at hf
    · simp [sent, hout] at hf
    · split at hf
      · simp [sent, hout] at hf
      · rw [sent_sendText _ _ _ _ _ _ hout,List.mem_singleton] at hf
        exact hf ▸ ⟨_,rfl⟩
  | cancelAllOrders info request requestId => cases ho

/-- The frames are numbered from the stream's first id on, and name the requests they are
due to. -/
structure Session.Valid (streamId : ℕ) (account : String) (s : Session) : Prop where
  numbered : Numbered (·+1) (create streamId account).requestId s.stream.requestId
    (s.frames.map (·.request.sequence))
  sent : ∀ x ∈ s.requests, x.2 ∈ s.frames
  named : ∀ x ∈ s.requests, ∀ order, x.1.order = some order → Names order x.2

section
variable {shared : Shared} {p : WSAPIParsers} {streamId : ℕ} {account : String}

theorem preserves_valid :
    (machine shared p streamId account).Preserves (Session.Valid streamId account) := by
  intro s e s' h hn
  simp only [machine, next] at hn
  split_ifs at hn
  obtain rfl := (Option.some.inj hn).symm
  obtain ⟨t,event⟩ := e
  have hc : Counted (create streamId account).requestId s.frames s.context := by
    simpa [Counted, sent, Session.context] using h.numbered
  refine ⟨by simpa [Counted] using counted_handle shared t p event hc,?_,?_⟩
  · intro x hx
    rcases List.mem_append.mp hx with hx | hx
    · exact List.mem_append_left _ (h.sent x hx)
    · cases event with
      | timer refresh => cases hx
      | socket event => cases hx
      | client request =>
        obtain ⟨frame,hf,rfl⟩ := List.mem_map.mp hx
        exact List.mem_append_right _ hf
  · intro x hx order ho
    rcases List.mem_append.mp hx with hx | hx
    · exact h.named x hx order ho
    · cases event with
      | timer refresh => cases hx
      | socket event => cases hx
      | client request =>
        obtain ⟨frame,hf,rfl⟩ := List.mem_map.mp hx
        exact names_onRequest shared request rfl ho frame hf

theorem valid_reachable {s : Session} (h : (machine shared p streamId account).Reachable s) :
    s.Valid streamId account := by
  refine preserves_valid.reachable ⟨Numbered.nil _ _,?_,?_⟩ h
  · intro x hx; cases hx
  · intro x hx; cases hx

end

def response? : Dispatch → Option (Response × UInt8 × UInt64)
  | .response response _ _ userId orderId => some (response,userId,orderId)
  | _ => none

def responses (ctx : Ctx) : List (Response × UInt8 × UInt64) :=
  (ctx.outputs.filterMap Output.dispatched).filterMap response?

/-- Exactly one response, for the request, that tells whether the exchange accepted it. -/
def Answered (order : OrderRequest) (accepts : Prop) (ctx : Ctx) : Prop :=
  ∃ response, responses ctx = [(response,order.userId,order.orderId)] ∧
    response.requestType = order.requestType ∧ response.version = order.version ∧
    (response.requestStatus = .accepted ↔ accepts)

/-- The status of a reply, if it can be read as one to such a request. -/
def replyStatus (p : WSAPIParsers) (order : OrderRequest) (message : Library.Json.Object) :
    Option ℤ :=
  match order.requestType with
  | .undefined => none
  | .createOrder => (p.orderPlace message).map (·.status)
  | .modifyOrder => (p.orderAmendKeepPriority message).map (·.status)
  | .cancelOrder => (p.cancelOrder message).map (·.status)

theorem responses_rateLimited {α : Type} (reply : WSAPIReply α) (ctx : Ctx) :
    responses (rateLimited reply ctx) = responses ctx := by
  rw [responses,rateLimited,Context.dispatchAll_outputs,List.filterMap_append,
    List.filterMap_append]
  unfold updateRateLimits
  split_ifs <;> simp [responses, Output.dispatched, response?]

theorem responses_respond (request : WSAPIRequest) (response : Response)
    (update : Option OrderUpdate) {ctx : Ctx} (hout : ctx.outputs = []) :
    responses (respond request response update ctx) =
      [(response,request.userId,request.orderId)] := by
  simp [responses, respond, hout, Output.dispatched, response?]

/-- A reply is answered by one response, whose type is that of the branch taken. -/
theorem answered_reply {α : Type} (order : OrderRequest) (sequence : UInt32) (reply : WSAPIReply α)
    (onAccept onReject : RequestType) (externalOrderId : String)
    (update : Option OrderUpdate) {ctx : Ctx} (hout : ctx.outputs = []) :
    let request : WSAPIRequest :=
      ⟨sequence,order.wsapiType,order.userId,order.orderId,order.version,0⟩
    Answered order (reply.status = 200) (rateLimited reply
      (if reply.status = 200 then
        respond request (accepted onAccept request.version externalOrderId) update ctx
      else reject onReject request reply.error ctx)) ↔
    (if reply.status = 200 then onAccept else onReject) = order.requestType := by
  simp only [Answered, responses_rateLimited]
  by_cases h : reply.status = 200
  · simp [h, responses_respond _ _ _ hout, accepted]
  · simp [h, reject, responses_respond _ _ _ hout, refused]

/-- Nothing answers a message that ends the process. -/
theorem not_answered_fatal (order : OrderRequest) (accepts : Prop) (text : String) {ctx : Ctx}
    (hout : ctx.outputs = []) : ¬ Answered order accepts (ctx.fatal text) := by
  rintro ⟨response,h,-⟩
  simp [responses, hout, Output.dispatched, List.filterMap_cons] at h

/-- A reply that can be read is answered by the branch of its status, any other one ends the
process. -/
theorem answered_dispatchHelper_iff {α : Type} (shared : Shared) (t : TraceInfo)
    (order : OrderRequest) (parsed : Option (WSAPIReply α)) (callback : WSAPIReply α → WSAPIMessage)
    (matched : MatchedOrder) (retryNow : Bool) {ctx : Ctx} (hout : ctx.outputs = [])
    (onAccept onReject : RequestType)
    (hcallback : ∀ reply, ∃ sequence externalOrderId update,
      onMessage shared t (callback reply) matched retryNow ctx = rateLimited reply
        (let request : WSAPIRequest :=
          ⟨sequence,order.wsapiType,order.userId,order.orderId,order.version,0⟩
        if reply.status = 200 then
          respond request (accepted onAccept request.version externalOrderId) update ctx
        else reject onReject request reply.error ctx)) :
    Answered order (parsed.map (·.status) = some 200)
        (match WSAPIParser.dispatchHelper parsed callback with
          | .called message => onMessage shared t message matched retryNow ctx
          | .skipped => ctx
          | .fatal => ctx.fatal "Unexpected"
          | .thrown => ctx.fatal "terminate") ↔
      ∃ status, parsed.map (·.status) = some status ∧
        (if status = 200 then onAccept else onReject) = order.requestType := by
  cases parsed with
  | none => simp [WSAPIParser.dispatchHelper, not_answered_fatal, hout]
  | some reply =>
    obtain ⟨sequence,externalOrderId,update,hm⟩ := hcallback reply
    have h := answered_reply order sequence reply onAccept onReject externalOrderId update hout
    simp only [WSAPIParser.dispatchHelper, hm]
    simpa using h

/-- A reply that echoes the id of an order request is read by the parser for its kind. -/
theorem answered_parse_iff (shared : Shared) (p : WSAPIParsers) (t : TraceInfo)
    {request : ClientRequest} {order : OrderRequest} (ho : request.order = some order)
    {frame : Frame} (hn : Names order frame)
    {message : Library.Json.Object} (he : WSAPIParser.Echoes frame.id message)
    (matched : MatchedOrder) (retryNow : Bool) {ctx : Ctx} (hout : ctx.outputs = []) :
    Answered order (replyStatus p order message = some 200)
        (parse shared p t message matched retryNow ctx) ↔
      ∃ status, replyStatus p order message = some status ∧
        (order.requestType = .modifyOrder → status = 200) := by
  obtain ⟨sequence,hr⟩ := hn
  rw [Frame.id,hr] at he
  unfold parse
  rw [WSAPIParser.dispatch_echo p _ false he]
  cases request with
  | createOrder info request params =>
    obtain rfl := Option.some.inj ho
    refine (answered_dispatchHelper_iff shared t _ (p.orderPlace message) _ matched retryNow hout
      .createOrder .createOrder fun reply => ⟨sequence,_,_,rfl⟩).trans ?_
    simp [replyStatus]
  | modifyOrder info request params =>
    obtain rfl := Option.some.inj ho
    refine (answered_dispatchHelper_iff shared t _ (p.orderAmendKeepPriority message) _ matched
      retryNow hout .modifyOrder .cancelOrder fun reply => ⟨sequence,_,_,rfl⟩).trans ?_
    simp [replyStatus]
  | cancelOrder info request params =>
    obtain rfl := Option.some.inj ho
    refine (answered_dispatchHelper_iff shared t _ (p.cancelOrder message) _ matched retryNow hout
      .cancelOrder .cancelOrder fun reply => ⟨sequence,_,_,rfl⟩).trans ?_
    simp [replyStatus]
  | cancelAllOrders info request requestId => cases ho

/-- While fewer than `2^32` requests have been sent their ids differ, and the reply to an order
request is answered unless it cannot be read, which ends the process, or refuses to modify an
order, which is reported as the refusal of a cancel. -/
theorem requests_correlated_iff (shared : Shared) (p : WSAPIParsers) (streamId : ℕ)
    (account : String) {s : Session} (hs : (machine shared p streamId account).Reachable s)
    (hlen : s.frames.length < 2^32) :
    (s.frames.map Frame.id).Nodup ∧
      ∀ x ∈ s.requests, x.2 ∈ s.frames ∧ ∀ order, x.1.order = some order →
        ∀ message, WSAPIParser.Echoes x.2.id message → ∀ t matched retryNow,
          (Answered order (replyStatus p order message = some 200)
              (parse shared p t message matched retryNow s.context) ↔
            ∃ status, replyStatus p order message = some status ∧
              (order.requestType = .modifyOrder → status = 200)) := by
  have hv := valid_reachable hs
  refine ⟨?_,fun x hx => ⟨hv.sent x hx,?_⟩⟩
  · have hn := hv.numbered.nodup_word (by simpa using hlen)
    have hreq : (s.frames.map Frame.request).Nodup :=
      List.Nodup.of_map WSAPIRequest.sequence (by rwa [List.map_map])
    have hid := hreq.map fun _ _ h => WSAPIRequest.encode_injective h
    rwa [List.map_map] at hid
  · intro order ho message he t matched retryNow
    exact answered_parse_iff shared p t ho (hv.named x hx order ho) he matched retryNow rfl

def unmatched : MatchedOrder := ⟨0,0,0⟩

def timed (time : ℕ) (event : Event) : TraceInfo × Event := (⟨time,time⟩,event)

def modifyFrame : Frame :=
  ⟨⟨1000005,.ORDER_AMEND_KEEP_PRIORITY,7,42,2,0⟩,"order.amend.keepPriority",.order ""⟩

/-- The download, and a modify request to the stream that is then ready. -/
def modifyRun : List (TraceInfo × Event) :=
  [timed 1 (.socket .ready),
   timed 2 (.socket (.text (WSAPIParser.echo ⟨1000001,.SESSION_LOGON,0,0,0,0⟩ "200") unmatched true)),
   timed 3 (.socket (.text (WSAPIParser.echo ⟨1000002,.USER_DATA_STREAM_SUBSCRIBE,0,0,0,0⟩ "200") unmatched true)),
   timed 4 (.socket (.text (WSAPIParser.echo ⟨1000003,.ACCOUNT_STATUS,0,0,0,0⟩ "200") unmatched true)),
   timed 5 (.socket (.text (WSAPIParser.echo ⟨1000004,.OPEN_ORDERS_STATUS,0,0,0,0⟩ "200") unmatched true)),
   timed 6 (.client (.modifyOrder ⟨7,6⟩ ⟨"account",42,2,NaN⟩ ""))]

def modifyRequest : ClientRequest := .modifyOrder ⟨7,6⟩ ⟨"account",42,2,NaN⟩ ""

def modifySent (s : Session) : Bool :=
  s.frames.length = 5 && s.requests = [(modifyRequest,modifyFrame)]

theorem modifyRun_reachable : ∃ s, (machine Shared.sample .sample 1 "account").Reachable s ∧
    s.frames.length = 5 ∧ s.requests = [(modifyRequest,modifyFrame)] := by
  obtain ⟨s,hs,hp⟩ := (machine Shared.sample .sample 1 "account").exists_reachable
    (show ((machine Shared.sample .sample 1 "account").run
      (machine Shared.sample .sample 1 "account").init modifyRun).any modifySent = true by
        decide)
  simp only [modifySent, Bool.and_eq_true, decide_eq_true_eq] at hp
  exact ⟨s,hs,hp⟩

theorem requests_correlated_modify : ∃ s : Session, s.requests ≠ [] ∧
    (s.frames.map Frame.id).Nodup ∧
      ∀ x ∈ s.requests, x.2 ∈ s.frames ∧ ∀ order, x.1.order = some order →
        ∀ message, WSAPIParser.Echoes x.2.id message → ∀ t matched retryNow,
          (Answered order (replyStatus .sample order message = some 200)
              (parse Shared.sample .sample t message matched retryNow s.context) ↔
            ∃ status, replyStatus .sample order message = some status ∧
              (order.requestType = .modifyOrder → status = 200)) := by
  obtain ⟨s,hs,hlen,hreq⟩ := modifyRun_reachable
  exact ⟨s,by simp [hreq],
    requests_correlated_iff Shared.sample .sample 1 "account" hs (by omega)⟩

/-- A modify request that the exchange refuses is answered as a cancel. -/
theorem refused_modify_answered_as_cancel :
    ¬ ∀ (shared : Shared) (p : WSAPIParsers) (streamId : ℕ) (account : String) (s : Session),
      (machine shared p streamId account).Reachable s → s.frames.length < 2^32 →
      (s.frames.map Frame.id).Nodup ∧
        ∀ x ∈ s.requests, ∀ order, x.1.order = some order →
          ∀ message, WSAPIParser.Echoes x.2.id message → ∀ t matched retryNow,
            Answered order (replyStatus p order message = some 200)
              (parse shared p t message matched retryNow s.context) := by
  intro h
  obtain ⟨s,hs,hlen,hreq⟩ := modifyRun_reachable
  have hx : (modifyRequest,modifyFrame) ∈ s.requests := by
    simp [hreq]
  have he : WSAPIParser.Echoes modifyFrame.id (WSAPIParser.echo modifyFrame.request "400") :=
    WSAPIParser.echoes_echo modifyFrame.request "400"
  have hn : Names ⟨.modifyOrder,7,42,2⟩ modifyFrame := ⟨1000005,rfl⟩
  have ha := (h _ _ _ _ s hs (by omega)).2 _ hx ⟨.modifyOrder,7,42,2⟩ rfl _ he ⟨7,7⟩ unmatched true
  obtain ⟨status,hstatus,h200⟩ := (answered_parse_iff Shared.sample .sample ⟨7,7⟩
    (show modifyRequest.order = some ⟨.modifyOrder,7,42,2⟩ from rfl) hn he unmatched true rfl).mp ha
  have h400 : replyStatus .sample ⟨.modifyOrder,7,42,2⟩ (WSAPIParser.echo modifyFrame.request "400") =
      some 400 := by decide
  rw [h400,h200 rfl] at hstatus
  exact absurd hstatus (by decide)

end WebSocket
end RoqBinance.Gateway
