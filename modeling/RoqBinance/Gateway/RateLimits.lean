import RoqBinance.Gateway.Frame
import RoqBinance.Library.Scratch

/-! The vector of rate limits that the streams share: each reply on the WebSocket API clears and
fills it at once, a response to the REST stream fills it while it is received. -/
namespace RoqBinance.Gateway
open Library Protocol.Json

/-- The vector, and what has been dispatched. -/
structure SharedLimits where
  rateLimits : List RateLimit
  dispatched : List Dispatch
  deriving DecidableEq, Repr

/-- An update is dispatched when there is something in it. -/
def limitsUpdate (streamId : ℕ) (account : String) (limits : List RateLimit) : List Dispatch :=
  if limits = [] then [] else [.rateLimitsUpdate streamId account limits]

namespace SharedLimits

def clear (s : SharedLimits) : SharedLimits := {s with rateLimits := []}

def emplaceBack (limit : RateLimit) (s : SharedLimits) : SharedLimits :=
  {s with rateLimits := s.rateLimits ++ [limit]}

def dispatch (streamId : ℕ) (account : String) (s : SharedLimits) : SharedLimits :=
  {s with dispatched := s.dispatched ++ limitsUpdate streamId account s.rateLimits}

/-- A rate limit of a type that is not recognised is left out. -/
def onItem (s : SharedLimits) (item : RateLimitsItem) : SharedLimits :=
  if rateLimitType item = .undefined then s
  else s.emplaceBack ⟨rateLimitType item,rateLimitPeriod item,item.limit,item.count⟩

def updateRateLimits (streamId : ℕ) (account : String) (items : List RateLimitsItem)
    (s : SharedLimits) : SharedLimits :=
  ((items.foldl onItem s.clear).dispatch streamId account).clear

theorem foldl_onItem (items : List RateLimitsItem) (s : SharedLimits) :
    items.foldl onItem s = {s with rateLimits := s.rateLimits ++ Gateway.rateLimits items} := by
  induction items generalizing s with
  | nil => simp [Gateway.rateLimits]
  | cons item items ih =>
    rw [List.foldl_cons,ih,onItem]
    split_ifs with h
    · simp [Gateway.rateLimits, h]
    · simp [Gateway.rateLimits, h, emplaceBack]

/-- Whatever the vector holds, the update is that of the reply and nothing is left. -/
theorem updateRateLimits_eq (streamId : ℕ) (account : String) (items : List RateLimitsItem)
    (s : SharedLimits) :
    s.updateRateLimits streamId account items =
      ⟨[],s.dispatched ++ Gateway.updateRateLimits streamId account items⟩ := by
  rw [updateRateLimits,foldl_onItem]
  rfl

end SharedLimits

namespace Rest

def X_MBX_USED_WEIGHT_1M : String := "x-mbx-used-weight-1m"

/-- Two texts that differ in letter case only. -/
def caseInsensitiveEqual (x y : String) : Bool :=
  x.toList.map Char.toLower = y.toList.map Char.toLower

variable (fromString : String → Option UInt32) (requestWeight1m : ℕ)

def usedWeight (name value : String) : Option RateLimit :=
  if caseInsensitiveEqual name X_MBX_USED_WEIGHT_1M then
    (fromString value).map fun value => ⟨.requestWeight,60,requestWeight1m,value.toNat⟩
  else none

def onMessageBegin (s : SharedLimits) : SharedLimits := s.clear

/-- A value that cannot be read is skipped. -/
def onMessageHeader (name value : String) (s : SharedLimits) : SharedLimits :=
  match usedWeight fromString requestWeight1m name value with
  | some limit => s.emplaceBack limit
  | none => s

def onMessageEnd (streamId : ℕ) (s : SharedLimits) : SharedLimits :=
  if s.rateLimits = [] then s else (s.dispatch streamId "").clear

theorem onMessageEnd_dispatched (streamId : ℕ) (s : SharedLimits) :
    (onMessageEnd streamId s).dispatched =
      s.dispatched ++ limitsUpdate streamId "" s.rateLimits := by
  unfold onMessageEnd limitsUpdate
  split_ifs with h
  · rw [List.append_nil]
  · simp [SharedLimits.dispatch, SharedLimits.clear, limitsUpdate, h]

/-- What happens while a response is received: its headers, and the replies to other streams. -/
inductive Event
  | messageHeader (name value : String)
  | reply (streamId : ℕ) (account : String) (items : List RateLimitsItem)
  deriving DecidableEq, Repr

namespace Event

def handle (s : SharedLimits) : Event → SharedLimits
  | messageHeader name value => onMessageHeader fromString requestWeight1m name value s
  | reply streamId account items => s.updateRateLimits streamId account items

/-- The rate limits that the header of a response is about. -/
def limits : Event → List RateLimit
  | messageHeader name value => (usedWeight fromString requestWeight1m name value).toList
  | reply _ _ _ => []

/-- The update that a reply is to dispatch. -/
def update : Event → List Dispatch
  | messageHeader _ _ => []
  | reply streamId account items => limitsUpdate streamId account (rateLimits items)

def isReply : Event → Bool
  | messageHeader _ _ => false
  | reply _ _ _ => true

/-- What an event does to the vector. -/
def use : Event → Scratch.Event RateLimit
  | messageHeader name value => .collect (usedWeight fromString requestWeight1m name value).toList
  | reply _ _ _ => .wipe

theorem entries_use (e : Event) :
    (e.use fromString requestWeight1m).entries = e.limits fromString requestWeight1m := by
  cases e <;> rfl

theorem use_eq_wipe (e : Event) :
    e.use fromString requestWeight1m = .wipe ↔ e.isReply = true := by
  cases e <;> simp [use, isReply]

end Event

def run (s : SharedLimits) (events : List Event) : SharedLimits :=
  events.foldl (Event.handle fromString requestWeight1m) s

theorem run_eq (s : SharedLimits) (events : List Event) :
    run fromString requestWeight1m s events =
      ⟨Scratch.after s.rateLimits (events.map (Event.use fromString requestWeight1m)),
        s.dispatched ++ events.flatMap Event.update⟩ := by
  induction events generalizing s with
  | nil => simp [run, Scratch.after]
  | cons e events ih =>
    have hrun : run fromString requestWeight1m s (e::events) =
        run fromString requestWeight1m (e.handle fromString requestWeight1m s) events := rfl
    rw [hrun,ih]
    cases e with
    | messageHeader name value =>
      cases h : usedWeight fromString requestWeight1m name value with
      | none =>
        simp [Event.handle, onMessageHeader, h, Event.use, Event.update, Scratch.after]
      | some limit =>
        simp [Event.handle, onMessageHeader, h, Event.use, Event.update, Scratch.after,
          SharedLimits.emplaceBack]
    | reply streamId account items =>
      rw [Event.handle,SharedLimits.updateRateLimits_eq]
      simp [Event.use, Event.update, Scratch.after, Gateway.updateRateLimits, limitsUpdate]

/-- A response is received while other streams handle their replies. Each reply dispatches its
own rate limits, and then the response those of its headers. -/
structure Unmixed (streamId : ℕ) (s : SharedLimits) (events : List Event) : Prop where
  replies : (run fromString requestWeight1m (onMessageBegin s) events).dispatched =
    s.dispatched ++ events.flatMap Event.update
  response : (onMessageEnd streamId
    (run fromString requestWeight1m (onMessageBegin s) events)).dispatched =
      s.dispatched ++ events.flatMap Event.update ++
        limitsUpdate streamId "" (events.flatMap (Event.limits fromString requestWeight1m))

theorem limitsUpdate_inj {streamId : ℕ} {account : String} {limits limits' : List RateLimit} :
    limitsUpdate streamId account limits = limitsUpdate streamId account limits' ↔
      limits = limits' := by
  unfold limitsUpdate
  split_ifs with h h' h'
  · simp [h, h']
  · simp [h, Ne.symm h']
  · simp [h, h']
  · simp

/-- The rate limits of a response are lost if and only if a reply is handled after one of them
has been read. -/
theorem unmixed_iff (streamId : ℕ) (s : SharedLimits) (events : List Event) :
    Unmixed fromString requestWeight1m streamId s events ↔
      events.Pairwise fun e e' =>
        e.limits fromString requestWeight1m ≠ [] → e'.isReply = false := by
  have hcollected : Scratch.collected (events.map (Event.use fromString requestWeight1m)) =
      events.flatMap (Event.limits fromString requestWeight1m) := by
    rw [Scratch.collected,List.flatMap_map]
    congr 1
    funext e
    exact Event.entries_use fromString requestWeight1m e
  have hafter := Scratch.after_eq_iff [] (events.map (Event.use fromString requestWeight1m))
  rw [List.nil_append,hcollected,List.pairwise_map] at hafter
  simp only [ne_eq, not_true_eq_false, false_implies, true_and, Event.entries_use,
    Event.use_eq_wipe, Bool.not_eq_true] at hafter
  have hrun := run_eq fromString requestWeight1m (onMessageBegin s) events
  constructor
  · rintro ⟨-,h⟩
    rw [onMessageEnd_dispatched,hrun] at h
    exact hafter.mp (limitsUpdate_inj.mp (List.append_cancel_left h))
  · intro h
    refine ⟨by rw [hrun]; rfl,?_⟩
    rw [onMessageEnd_dispatched,hrun]
    have hlimits := hafter.mpr h
    simp only [onMessageBegin, SharedLimits.clear, hlimits]

/-- A header, and a reply without rate limits before the message ends. -/
theorem used_weight_lost :
    ¬ ∀ fromString requestWeight1m streamId s events,
      Unmixed fromString requestWeight1m streamId s events := by
  intro h
  have hu := h (fun value => if value = "10" then some 10 else none) 6000 1 ⟨[],[]⟩
    [.messageHeader "X-MBX-USED-WEIGHT-1M" "10",.reply 2 "A1" []]
  have hr := hu.response
  revert hr
  decide

end Rest
end RoqBinance.Gateway
