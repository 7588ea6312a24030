import RoqBinance.Gateway.SteadyLinks
import RoqBinance.Library.Conservation

/-! The requests for depths. The market data streams and the replies themselves put them into
one queue, from which the REST stream sends them while it is ready. -/
namespace RoqBinance.Gateway
open Library Protocol.Json

namespace RestStream

def Call.depth? : Call → Option String
  | .depth symbol => some symbol
  | .exchangeInfo => none

/-- The symbols whose depths have been asked of the exchange. -/
def depths (outputs : List (Output Call)) : List String :=
  outputs.filterMap fun output => output.sent.bind Call.depth?

/-- The requests that come with an event; a reply may be one that has to be repeated. -/
def requested (_ : Link RestStream Call) (e : Timed (Link.Event Call Reply Input)) :
    List String :=
  match e.event with
  | .input (.requestDepth symbol) => [symbol]
  | .reply ⟨.depth symbol,_,_⟩ reply =>
    if decoded (fun _ => reply.depthAck) reply.response = some .request then [symbol] else []
  | _ => []

/-- The requests that are sent at an event. -/
def sentAt (shared : Shared) (drained : Bool) (s : Link RestStream Call)
    (e : Timed (Link.Event Call Reply Input)) : List String :=
  depths (Link.handle (handlers shared drained) e.time e.event s).outputs

/-- A handler has put `added` in at the end of the queue, and has sent what it took out. -/
def Pumps (queue added : List String) (ctx : Ctx) : Prop :=
  queue ++ added = depths ctx.outputs ++ ctx.self.depthRequestQueue

section
variable {queue added : List String} {ctx : Ctx}

theorem pumps_nil (self : RestStream) (request : Request) :
    Pumps self.depthRequestQueue [] ⟨self,request,[]⟩ := by
  rw [Pumps,List.append_nil]; rfl

theorem Pumps.emit (h : Pumps queue added ctx) {output : Output Call}
    (ho : output.sent.bind Call.depth? = none) : Pumps queue added (ctx.emit output) := by
  have hd : depths (ctx.emit output).outputs = depths ctx.outputs := by
    rw [Context.emit_outputs,depths,List.filterMap_append,depths]; simp [ho]
  rw [Pumps,hd]; exact h

theorem Pumps.modify (h : Pumps queue added ctx) {f : RestStream → RestStream}
    (hf : (f ctx.self).depthRequestQueue = ctx.self.depthRequestQueue) :
    Pumps queue added (ctx.modify f) := by
  rw [Pumps,Context.modify_self,hf]; exact h

theorem pumps_onConnectionStatus (h : Pumps queue added ctx) (status : ConnectionStatus)
    (reason : String) : Pumps queue added (onConnectionStatus status reason ctx) :=
  (h.modify rfl).emit rfl

theorem pumps_sequencer {f : Download State → Ctx → Download State × Ctx}
    (h : Pumps queue added (f ctx.self.download ctx).2) : Pumps queue added (sequencer f ctx) := h

theorem pumps_downloadState : Download.Kept downloadState (Pumps queue added) := by
  intro state ctx h
  cases state with
  | exchangeInfo => exact (pumps_onConnectionStatus h _ _).emit rfl
  | done => exact (pumps_onConnectionStatus h _ _).modify rfl

theorem pumps_onConnected (h : Pumps queue added ctx) : Pumps queue added (onConnected ctx) := by
  unfold onConnected
  split_ifs
  · exact pumps_sequencer (pumps_downloadState.bump h)
  · exact pumps_sequencer (pumps_downloadState.begin states h)

theorem pumps_onDisconnected (h : Pumps queue added ctx) :
    Pumps queue added (onDisconnected ctx) := by
  have hready : Pumps queue added (ctx.modify fun self => {self with ready := false}) :=
    h.modify rfl
  exact (pumps_onConnectionStatus hready .disconnected "").modify rfl

/-- A request joins the end of the queue. -/
theorem pumps_requestDepth (h : Pumps queue [] ctx) (symbol : String) :
    Pumps queue [symbol] (requestDepth symbol ctx) := by
  rw [Pumps,List.append_nil] at h
  rw [Pumps,h,requestDepth,List.append_assoc]; rfl

theorem depths_foldl_getDepth (symbols : List String) (ctx : Ctx) :
    (symbols.foldl getDepth ctx).self = ctx.self ∧
      depths (symbols.foldl getDepth ctx).outputs = depths ctx.outputs ++ symbols := by
  induction symbols generalizing ctx with
  | nil => simp
  | cons symbol symbols ih =>
    obtain ⟨hself,hdepths⟩ := ih (getDepth ctx symbol)
    have hone : depths (getDepth ctx symbol).outputs = depths ctx.outputs ++ [symbol] := by
      rw [getDepth,Context.send_outputs,depths,List.filterMap_append]; rfl
    exact ⟨hself,by rw [List.foldl_cons,hdepths,hone,List.append_assoc]; rfl⟩

/-- What passes is taken out at the front of the queue. -/
theorem pumps_checkRequestQueue (h : Pumps queue added ctx) (passed : ℕ) :
    Pumps queue added (checkRequestQueue passed ctx) := by
  obtain ⟨hself,hdepths⟩ := depths_foldl_getDepth (ctx.self.depthRequestQueue.take passed)
    (ctx.modify fun self => {self with depthRequestQueue := self.depthRequestQueue.drop passed})
  rw [Pumps,checkRequestQueue,hself,hdepths,Context.modify_outputs,Context.modify_self,
    List.append_assoc,List.take_append_drop]
  exact h

theorem pumps_onTimer (h : Pumps queue added ctx) (refresh : Bool) (passed : ℕ) :
    Pumps queue added (onTimer refresh passed ctx) := by
  unfold onTimer
  split_ifs
  · exact pumps_checkRequestQueue h passed
  · exact h

variable (shared : Shared)

theorem pumps_limit (h : Pumps queue added ctx) (forbidden : Bool) (retryAfter : ℕ) :
    Pumps queue added (limit shared forbidden retryAfter ctx) := by
  have hwaf : Pumps queue added (if forbidden then wafLimitViolation shared ctx else ctx) := by
    unfold wafLimitViolation
    split_ifs
    · exact h.emit rfl
    · exact h.emit rfl
    · exact h
  by_cases hr : retryAfter ≠ 0
  · rw [limit,if_pos hr]
    exact hwaf.emit rfl
  · rwa [limit,if_neg hr]

theorem pumps_retryExchangeInfo (h : Pumps queue added ctx) (reply : Reply) :
    Pumps queue added (retryExchangeInfo reply ctx) :=
  pumps_sequencer (pumps_downloadState.retry states reply.retryNow .exchangeInfo h)

theorem pumps_getExchangeInfoAck (h : Pumps queue added ctx) (reply : Reply) :
    Pumps queue added (getExchangeInfoAck shared reply ctx) := by
  refine processResponseWith_cases h (pumps_limit shared h) ?_ ?_ fun _ => h.emit rfl
  · intro _ _ _ _ ctx' h'
    exact pumps_retryExchangeInfo h' reply
  · intro ack _
    cases ack with
    | none => exact h
    | some ack =>
      have hstore (result : Rest.Ctx) : Pumps queue added (ctx.modify fun self =>
          {self with
            limits := result.limits, allSymbols := result.allSymbols,
            published := self.published ++ result.outputs}) := h.modify rfl
      simp only [onExchangeInfoAck]
      cases Rest.onExchangeInfoAck shared ctx.self.streamId reply.dispatcher ack ctx.self.limits
          ctx.self.allSymbols with
      | ok result => exact pumps_sequencer (pumps_downloadState.check .exchangeInfo (hstore result))
      | error result => exact pumps_retryExchangeInfo (hstore result) reply

theorem pumps_getDepthAck (h : Pumps queue [] ctx) (symbol : String) (reply : Reply) :
    Pumps queue
      (if decoded (fun _ => reply.depthAck) reply.response = some .request then [symbol] else [])
      (getDepthAck shared symbol reply ctx) := by
  unfold getDepthAck processResponseWith
  rw [decoded_eq]
  cases hc : classify (fun _ => reply.depthAck) reply.response with
  | success depth =>
    cases depth with
    | publish => simpa [Processed.value, onDepthAck] using h
    | request => simpa [Processed.value, onDepthAck] using pumps_requestDepth h symbol
    | exhausted =>
      have hf : Pumps queue [] (ctx.fatal "Unexpected") := h.emit rfl
      simpa [Processed.value, onDepthAck] using hf
  | error origin status error text => simpa [Processed.value] using h
  | rateLimited forbidden retryAfter text =>
    simpa [Processed.value] using pumps_limit shared h forbidden retryAfter
  | fatal text =>
    have hf : Pumps queue [] (ctx.fatal text) := h.emit rfl
    simpa [Processed.value] using hf

/-- A step takes from the front of the queue what it sends and appends to it what it is asked for. -/
theorem queue_step (drained : Bool) {initial : RestStream}
    (s : Link RestStream Call) (e : Timed (Link.Event Call Reply Input)) (s' : Link RestStream Call)
    (hn : (Link.machine (handlers shared drained) initial).next s e = some s') :
    s.self.depthRequestQueue ++ requested s e =
      sentAt shared drained s e ++ s'.self.depthRequestQueue := by
  obtain ⟨-,-,rfl⟩ := Link.next_eq_some hn
  obtain ⟨t,event⟩ := e
  have h := pumps_nil s.self s.request
  cases event with
  | connected => exact pumps_onConnected h
  | disconnected => exact pumps_onDisconnected h
  | reply job reply =>
    obtain ⟨call,timed,stale⟩ := job
    cases call with
    | exchangeInfo => exact pumps_getExchangeInfoAck shared h reply
    | depth symbol => exact pumps_getDepthAck shared h symbol reply
  | input input =>
    cases input with
    | timer refresh passed => exact pumps_onTimer h refresh passed
    | requestDepth symbol => exact pumps_requestDepth h symbol

/-- In every run, the depths that have been asked for are those that have been sent to the
exchange and those still in the queue, in the order in which they were asked for. -/
theorem depth_requests_in_order (drained : Bool) (streamId : ℕ) (es : List _)
    (s : Link RestStream Call)
    (hr : (Link.machine (handlers shared drained) (create streamId)).run
      (Link.create (create streamId)) es = some s) :
    (Link.machine (handlers shared drained) (create streamId)).trace requested
        (Link.create (create streamId)) es =
      (Link.machine (handlers shared drained) (create streamId)).trace (sentAt shared drained)
        (Link.create (create streamId)) es ++ s.self.depthRequestQueue :=
  have step : ∀ s e s', True →
      (Link.machine (handlers shared drained) (create streamId)).next s e = some s' →
      s.self.depthRequestQueue ++ requested s e =
        sentAt shared drained s e ++ s'.self.depthRequestQueue :=
    fun s e s' _ hn => queue_step shared drained s e s' hn
  Machine.queue_run (fun _ _ _ _ _ => trivial) step trivial hr

/-- A success with no reference data in it. -/
def success (depth : Except String Depth) : Reply where
  response := .result 200 .success 0 .unreadable
  exchangeInfoAck := .ok ⟨0,[],[]⟩
  depthAck := depth
  dispatcher := ⟨fun _ => false,fun _ => false,8⟩
  skip := false
  retryNow := false

/-- Three depths are asked for, two are sent, and the reply to the first has it asked for again. -/
def repeated : List (Timed (Link.Event Call Reply Input)) :=
  [⟨⟨1,1⟩,.connected⟩,
   ⟨⟨2,2⟩,.input (.requestDepth "BTCUSDT")⟩,
   ⟨⟨3,3⟩,.reply ⟨.exchangeInfo,false,false⟩ (success (.ok .publish))⟩,
   ⟨⟨4,4⟩,.input (.requestDepth "ETHUSDT")⟩,
   ⟨⟨5,5⟩,.input (.requestDepth "BNBUSDT")⟩,
   ⟨⟨6,6⟩,.input (.timer true 2)⟩,
   ⟨⟨7,7⟩,.reply ⟨.depth "BTCUSDT",false,false⟩ (success (.ok .request))⟩]

theorem depth_requests_in_order_repeated :
    (Link.machine (handlers Shared.sample true) (create 1)).trace requested
        (Link.create (create 1)) repeated =
      (Link.machine (handlers Shared.sample true) (create 1)).trace (sentAt Shared.sample true)
        (Link.create (create 1)) repeated ++ ["BNBUSDT","BTCUSDT"] :=
  depth_requests_in_order Shared.sample true 1 repeated _ rfl

end
end RestStream
end RoqBinance.Gateway
