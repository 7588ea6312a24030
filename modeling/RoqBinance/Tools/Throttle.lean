import Mathlib.Algebra.Group.Nat.Defs
import Mathlib.Tactic.SplitIfs
import RoqBinance.Library.Machine

/-! The back-off of the REST interceptor. Times are nanoseconds of the system clock. -/
namespace RoqBinance.Tools
open Library

def DEFAULT_BACKOFF : ℕ := 5*10^9
def BLOCKED_BACKOFF : ℕ := 600*10^9

def FORBIDDEN : ℕ := 403
def TOO_MANY_REQUESTS : ℕ := 429

structure Throttle where
  enabled : Bool
  suspendUntil : ℕ
  deriving DecidableEq, Repr

namespace Throttle

def create (enabled : Bool) : Throttle := ⟨enabled,0⟩

def messageEnd (now status : ℕ) (self : Throttle) : Throttle :=
  if !self.enabled then self
  else if status = FORBIDDEN then
    {self with suspendUntil := max self.suspendUntil (now+BLOCKED_BACKOFF)}
  else if status = TOO_MANY_REQUESTS then
    if self.suspendUntil = 0 then {self with suspendUntil := now+DEFAULT_BACKOFF} else self
  else self

@[simp] theorem messageEnd_enabled (now status : ℕ) (self : Throttle) :
    (self.messageEnd now status).enabled = self.enabled := by
  simp only [messageEnd]; split_ifs <;> rfl

theorem messageEnd_forbidden {self : Throttle} (h : self.enabled = true) (now : ℕ) :
    (self.messageEnd now FORBIDDEN).suspendUntil = max self.suspendUntil (now+BLOCKED_BACKOFF) := by
  simp [messageEnd, h]

theorem messageEnd_tooManyRequests {self : Throttle} (h : self.enabled = true) (now : ℕ) :
    (self.messageEnd now TOO_MANY_REQUESTS).suspendUntil =
      if self.suspendUntil = 0 then now+DEFAULT_BACKOFF else self.suspendUntil := by
  simp only [messageEnd, h, FORBIDDEN, TOO_MANY_REQUESTS]
  split_ifs <;> simp_all

/-- Whatever the status, a back-off is never taken back. -/
theorem suspendUntil_le_messageEnd (now status : ℕ) (self : Throttle) :
    self.suspendUntil ≤ (self.messageEnd now status).suspendUntil := by
  simp only [messageEnd]
  split_ifs with h1 h2 h3 h4
  · exact Nat.le_refl _
  · exact Nat.le_max_left _ _
  · simp [h4]
  · exact Nat.le_refl _
  · exact Nat.le_refl _

/-- The end of a message of the process, under the system clock. -/
structure MessageEnd where
  now : ℕ
  status : ℕ
  deriving DecidableEq, Repr

structure State where
  throttle : Throttle
  clock : ℕ
  deriving DecidableEq, Repr

/-- The clock does not go back between two message ends. -/
def next (s : State) (e : MessageEnd) : Option State :=
  if s.clock ≤ e.now then some ⟨s.throttle.messageEnd e.now e.status,e.now⟩ else none

def machine (enabled : Bool) : Machine State MessageEnd := ⟨⟨create enabled,0⟩,next⟩

theorem next_eq_some {enabled : Bool} {s s' : State} {e : MessageEnd} :
    (machine enabled).next s e = some s' ↔
      s.clock ≤ e.now ∧ s' = ⟨s.throttle.messageEnd e.now e.status,e.now⟩ := by
  simp only [machine, next]
  split_ifs with h <;> simp [h, eq_comm]

theorem preserves_enabled (enabled : Bool) :
    (machine enabled).Preserves fun s => s.throttle.enabled = enabled := by
  intro s e s' hs hn
  obtain ⟨-,rfl⟩ := next_eq_some.mp hn
  simpa using hs

/-- What a rate-limit response must do to the back-off. -/
structure BacksOff (s : State) (e : MessageEnd) (s' : State) : Prop where
  mono : s.throttle.suspendUntil ≤ s'.throttle.suspendUntil
  tooManyRequests : e.status = TOO_MANY_REQUESTS → e.now < s'.throttle.suspendUntil
  forbidden : e.status = FORBIDDEN → e.now+BLOCKED_BACKOFF ≤ s'.throttle.suspendUntil

/-- A 429 finds no earlier back-off, or one that still runs. -/
def NotExpired (s : State) (e : MessageEnd) (_ : State) : Prop :=
  e.status = TOO_MANY_REQUESTS → s.throttle.suspendUntil = 0 ∨ e.now < s.throttle.suspendUntil

theorem backsOff_iff_notExpired {s s' : State} {e : MessageEnd} (h : s.throttle.enabled = true)
    (hn : (machine true).next s e = some s') : BacksOff s e s' ↔ NotExpired s e s' := by
  obtain ⟨-,rfl⟩ := next_eq_some.mp hn
  constructor
  · intro hb h429
    have hlt := hb.tooManyRequests h429
    rw [h429, messageEnd_tooManyRequests h] at hlt
    split_ifs at hlt with h0
    · exact .inl h0
    · exact .inr hlt
  · intro hc
    refine ⟨suspendUntil_le_messageEnd _ _ _,fun h429 => ?_,fun h403 => ?_⟩
    · show e.now < (s.throttle.messageEnd e.now e.status).suspendUntil
      rw [h429, messageEnd_tooManyRequests h]
      split_ifs with h0
      · simp [DEFAULT_BACKOFF]
      · exact (hc h429).resolve_left h0
    · show _ ≤ (s.throttle.messageEnd e.now e.status).suspendUntil
      rw [h403, messageEnd_forbidden h]
      exact Nat.le_max_right _ _

/-- An enabled throttle backs off after every rate-limit response of a run exactly when
no 429 of the run arrives after an earlier back-off has expired. -/
theorem steps_backsOff_iff (es : List MessageEnd) :
    (machine true).Steps BacksOff (machine true).init es ↔
      (machine true).Steps NotExpired (machine true).init es :=
  Machine.steps_congr (preserves_enabled true)
    (fun _ _ _ _ h hn => backsOff_iff_notExpired h hn) rfl

/-- The second 429 comes 10 s after the first and leaves the expired back-off in place. -/
theorem second_tooManyRequests_ignored :
    ¬ ∀ es, (machine true).Steps BacksOff (machine true).init es := by
  intro h
  have hs := h [⟨1,TOO_MANY_REQUESTS⟩,⟨10*10^9,TOO_MANY_REQUESTS⟩]
  have h1 : (machine true).next (machine true).init ⟨1,TOO_MANY_REQUESTS⟩ =
      some ⟨⟨true,5*10^9+1⟩,1⟩ := by decide
  have h2 : (machine true).next ⟨⟨true,5*10^9+1⟩,1⟩ ⟨10*10^9,TOO_MANY_REQUESTS⟩ =
      some ⟨⟨true,5*10^9+1⟩,10*10^9⟩ := by decide
  rw [Machine.steps_cons _ h1, Machine.steps_cons _ h2] at hs
  exact absurd (hs.2.1.tooManyRequests rfl) (by decide)

end Throttle
end RoqBinance.Tools
