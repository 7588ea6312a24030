import RoqBinance.Gateway.Streams

/-! A REST stream on its connection, which goes up and down. Each request is answered by one
callback, and after a disconnect only by one for a failure. -/
namespace RoqBinance.Gateway
open Library

/-- A request without an answer: `timed` is whether a timer has sent it, `stale` is whether the
connection has gone down since. -/
structure Link.Job (Call : Type) where
  call : Call
  timed : Bool
  stale : Bool
  deriving DecidableEq, Repr

structure Link (Self Call : Type) where
  self : Self
  request : Request
  up : Bool
  inFlight : List (Link.Job Call)

namespace Link

/-- An input comes from a timer, a client or another stream. -/
inductive Event (Call Reply Input : Type)
  | connected
  | disconnected
  | reply (job : Job Call) (reply : Reply)
  | input (input : Input)

/-- `drained` is whether everything has been answered when a disconnect is handled. -/
structure Handlers (Self Call Reply Input : Type) where
  connected : Context Self Call → Context Self Call
  disconnected : Context Self Call → Context Self Call
  reply : TraceInfo → Call → Reply → Context Self Call → Context Self Call
  input : TraceInfo → Input → Context Self Call → Context Self Call
  timed : Input → Bool
  succeeds : Reply → Bool
  drained : Bool

/-- The inputs of an order entry: `post` is its user stream asking for one of the downloads that
it asks for. -/
inductive Input (Client : Type) (asks : Kind → Prop)
  | timer (timerNow : ℕ) (refresh : Bool)
  | client (request : Client)
  | post (k : Kind) (h : asks k)

def Input.isTimer {Client : Type} {asks : Kind → Prop} : Input Client asks → Bool
  | timer _ _ => true
  | _ => false

namespace Event
variable {Call Reply Input : Type} [DecidableEq Call]

def isInput : Event Call Reply Input → Bool
  | input _ => true
  | _ => false

/-- Whether the connection is up after the event. -/
def up (before : Bool) : Event Call Reply Input → Bool
  | connected => true
  | disconnected => false
  | _ => before

/-- The earlier requests that are still without an answer. -/
def outstanding (inFlight : List (Job Call)) : Event Call Reply Input → List (Job Call)
  | disconnected => inFlight.map fun job => {job with stale := true}
  | reply job _ => inFlight.erase job
  | _ => inFlight

end Event

section
variable {Self Call Reply Input : Type} [DecidableEq Call] (h : Handlers Self Call Reply Input)

def Enabled (s : Link Self Call) : Event Call Reply Input → Prop
  | .connected => s.up = false
  | .disconnected => s.up = true ∧ (h.drained = true → s.inFlight = [])
  | .reply job reply =>
    job ∈ s.inFlight ∧ (h.succeeds reply = true → s.up = true ∧ job.stale = false)
  | .input _ => True

instance (s : Link Self Call) (event : Event Call Reply Input) : Decidable (Enabled h s event) := by
  cases event <;> unfold Enabled <;> infer_instance

def handle (t : TraceInfo) (event : Event Call Reply Input) (s : Link Self Call) :
    Context Self Call :=
  match event with
  | .connected => h.connected ⟨s.self,s.request,[]⟩
  | .disconnected => h.disconnected ⟨s.self,s.request,[]⟩
  | .reply job reply => h.reply t job.call reply ⟨s.self,s.request,[]⟩
  | .input input => h.input t input ⟨s.self,s.request,[]⟩

def timed : Event Call Reply Input → Bool
  | .input input => h.timed input
  | _ => false

/-- The stream after an event that has led to the context. -/
def after (event : Event Call Reply Input) (ctx : Context Self Call) (s : Link Self Call) :
    Link Self Call where
  self := ctx.self
  request := ctx.request
  up := event.up s.up
  inFlight := event.outstanding s.inFlight ++
    (ctx.outputs.filterMap Output.sent).map fun call => ⟨call,timed h event,false⟩

/-- A fatal error ends the process. -/
def next (s : Link Self Call) (e : Timed (Event Call Reply Input)) : Option (Link Self Call) :=
  if Enabled h s e.event then
    if (handle h e.time e.event s).outputs.any Output.isFatal then none
    else some (after h e.event (handle h e.time e.event s) s)
  else none

def create (self : Self) : Link Self Call := ⟨self,Request.empty,false,[]⟩

def machine (self : Self) : Machine (Link Self Call) (Timed (Event Call Reply Input)) :=
  ⟨create self,next h⟩

variable {h}

theorem next_eq_some {s s' : Link Self Call} {e : Timed (Event Call Reply Input)}
    (hn : next h s e = some s') :
    Enabled h s e.event ∧ (handle h e.time e.event s).outputs.any Output.isFatal = false ∧
      s' = after h e.event (handle h e.time e.event s) s := by
  unfold next at hn
  split_ifs at hn with he hf
  exact ⟨he,by simpa using hf,(Option.some.inj hn).symm⟩

theorem next_of_enabled {s : Link Self Call} {e : Timed (Event Call Reply Input)}
    (he : Enabled h s e.event) (hf : (handle h e.time e.event s).outputs.any Output.isFatal = false) :
    next h s e = some (after h e.event (handle h e.time e.event s) s) := by
  rw [next,if_pos he,if_neg (by simpa using hf)]

end
end Link
end RoqBinance.Gateway
