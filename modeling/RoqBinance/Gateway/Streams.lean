import RoqBinance.Library.Machine
import RoqBinance.Gateway.Response

/-! An order entry together with the user stream that it serves. The two share one request;
the order entry has REST requests in flight, whose callbacks are each called once; and what
either of them dispatches is logged. -/
namespace RoqBinance.Gateway
open Library

structure Job (Call : Type) where
  call : Call
  sent : ℕ
  deriving DecidableEq, Repr

/-- What was dispatched at an event, and for a callback the request and its response. -/
structure Entry (Call : Type) where
  time : ℕ
  reply : Option (Job Call × RestResponse)
  dispatched : List Dispatch

/-- The log has the last event first. -/
structure Streams (O D Call : Type) where
  clock : ℕ
  orderEntry : O
  dropCopy : Option D
  request : Request
  inFlight : List (Job Call)
  log : List (Entry Call)

/-- `socket` is an event of the user stream's socket, `client` a request of a client. -/
inductive Streams.Event (Call Socket Client : Type)
  | timer (timerNow : ℕ) (orderEntryRefresh dropCopyRefresh : Bool)
  | connected
  | disconnected
  | reply (job : Job Call) (response : RestResponse) (retryNow : Bool)
  | client (request : Client)
  | socket (event : Socket)

structure Timed (Event : Type) where
  time : TraceInfo
  event : Event

/-- The handlers of the two streams, and the controller's for a new listen key. -/
structure Wiring (O D Call Frame Socket Client : Type) where
  timer : TraceInfo → ℕ → Bool → Context O Call → Context O Call
  connected : TraceInfo → Context O Call → Context O Call
  disconnected : Context O Call → Context O Call
  response : TraceInfo → Call → RestResponse → Bool → Context O Call → Context O Call
  client : Client → Context O Call → Context O Call × Option Exception
  dropCopyTimer : TraceInfo → Bool → Context D Frame → Context D Frame
  dropCopySocket : TraceInfo → Socket → Context D Frame → Context D Frame
  listenKeyUpdate : ListenKeyUpdate → Option D → Option D

/-- What a phase of a step hands to the dispatcher, and whether it ended the process. -/
structure Effects where
  dispatched : List Dispatch
  fatal : Bool

namespace Effects

def none : Effects := ⟨[],false⟩

def of {Call : Type} (outputs : List (Output Call)) : Effects :=
  ⟨outputs.filterMap Output.dispatched,outputs.any Output.isFatal⟩

def append (x y : Effects) : Effects := ⟨x.dispatched ++ y.dispatched,x.fatal || y.fatal⟩

end Effects

namespace Streams
variable {O D Call Frame Socket Client : Type}

/-- Run a handler of the order entry: what it sends is in flight, and a new listen key goes
to the user stream. -/
def orderEntryPhase (w : Wiring O D Call Frame Socket Client) (t : TraceInfo)
    (f : Context O Call → Context O Call) (s : Streams O D Call) : Streams O D Call × Effects :=
  let ctx := f ⟨s.orderEntry,s.request,[]⟩
  ({s with
      orderEntry := ctx.self, request := ctx.request,
      inFlight := s.inFlight ++
        (ctx.outputs.filterMap Output.sent).map fun call => ⟨call,t.originCreateTime⟩,
      dropCopy := (listenKeyUpdates ctx.outputs).foldl
        (fun dropCopy update => w.listenKeyUpdate update dropCopy) s.dropCopy},
    Effects.of ctx.outputs)

/-- Run a handler of the user stream, once it exists. -/
def dropCopyPhase (f : Context D Frame → Context D Frame) (s : Streams O D Call) :
    Streams O D Call × Effects :=
  match s.dropCopy with
  | none => (s,Effects.none)
  | some dropCopy =>
    let ctx := f ⟨dropCopy,s.request,[]⟩
    ({s with dropCopy := some ctx.self, request := ctx.request},Effects.of ctx.outputs)

variable [DecidableEq Call] (w : Wiring O D Call Frame Socket Client)

/-- The timer is dispatched to the order entry before the user stream. -/
def step (t : TraceInfo) (event : Event Call Socket Client) (s : Streams O D Call) :
    Streams O D Call × Effects :=
  match event with
  | .timer timerNow orderEntryRefresh dropCopyRefresh =>
    match orderEntryPhase w t (w.timer t timerNow orderEntryRefresh) s with
    | (s,x) =>
      match dropCopyPhase (w.dropCopyTimer t dropCopyRefresh) s with
      | (s,y) => (s,x.append y)
  | .connected => orderEntryPhase w t (w.connected t) s
  | .disconnected => orderEntryPhase w t w.disconnected s
  | .reply job response retryNow =>
    orderEntryPhase w t (w.response t job.call response retryNow)
      {s with inFlight := s.inFlight.erase job}
  | .client request => orderEntryPhase w t (fun ctx => (w.client request ctx).1) s
  | .socket event => dropCopyPhase (w.dropCopySocket t event) s

def Event.reply? : Event Call Socket Client → Option (Job Call × RestResponse)
  | .reply job response _ => some (job,response)
  | _ => none

/-- A callback is called once, and the socket is that of an existing user stream. -/
def Enabled (s : Streams O D Call) : Event Call Socket Client → Prop
  | .reply job _ _ => job ∈ s.inFlight
  | .socket _ => s.dropCopy.isSome
  | _ => True

instance (s : Streams O D Call) (e : Event Call Socket Client) : Decidable (Enabled s e) := by
  cases e <;> unfold Enabled <;> infer_instance

/-- Later events have later timestamps; a fatal error ends the process. -/
def next (s : Streams O D Call) (e : Timed (Event Call Socket Client)) : Option (Streams O D Call) :=
  if s.clock < e.time.originCreateTime ∧ Enabled s e.event then
    match step w e.time e.event s with
    | (s',x) =>
      if x.fatal then none
      else some
        {s' with
          clock := e.time.originCreateTime,
          log := ⟨e.time.originCreateTime,e.event.reply?,x.dispatched⟩::s.log}
  else none

def create (orderEntry : O) : Streams O D Call := ⟨0,orderEntry,none,Request.empty,[],[]⟩

def machine (orderEntry : O) : Machine (Streams O D Call) (Timed (Event Call Socket Client)) :=
  ⟨create orderEntry,next w⟩

variable {w} {orderEntry : O} {s s' : Streams O D Call} {e : Timed (Event Call Socket Client)}

theorem next_eq_some (h : (machine w orderEntry).next s e = some s') :
    s.clock < e.time.originCreateTime ∧ Enabled s e.event ∧
      (step w e.time e.event s).2.fatal = false ∧
      s' = {(step w e.time e.event s).1 with
        clock := e.time.originCreateTime,
        log := ⟨e.time.originCreateTime,e.event.reply?,(step w e.time e.event s).2.dispatched⟩
          ::s.log} := by
  simp only [machine, next] at h
  split_ifs at h with h1 h2
  exact ⟨h1.1,h1.2,by simpa using h2,(Option.some.inj h).symm⟩

end Streams
end RoqBinance.Gateway
