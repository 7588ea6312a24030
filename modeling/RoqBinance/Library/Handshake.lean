import Mathlib.Tactic.ByContra
import Mathlib.Data.Nat.Notation

/-! Two parties that ask for and report a download by two timestamps: one posts the time of
its request, the other the time of its response. The ledger adds the snapshots that the
responses delivered, each with the time at which it had been asked for. -/
namespace RoqBinance.Library

structure Stamps where
  request : ℕ
  respond : ℕ
  deriving DecidableEq, Repr

namespace Stamps

abbrev pending (s : Stamps) : Prop := s.respond < s.request
abbrev completed (s : Stamps) : Prop := s.request < s.respond

end Stamps

/-- `sent` is when the snapshot was asked for, `time` is when it arrived. -/
structure Snapshot where
  sent : ℕ
  time : ℕ
  deriving DecidableEq, Repr

structure Ledger where
  stamps : Stamps
  snapshots : List Snapshot
  deriving DecidableEq, Repr

/-- What an event does to a ledger; `reply none` reports a response without a snapshot. -/
inductive Op
  | idle
  | post
  | reply (sent : Option ℕ)
  deriving DecidableEq, Repr

namespace Op

/-- The snapshot of a reply was asked for before `t`. -/
def Before (t : ℕ) : Op → Prop
  | reply (some sent) => sent < t
  | _ => True

end Op

namespace Ledger

def apply (t : ℕ) (L : Ledger) : Op → Ledger
  | .idle => L
  | .post => {L with stamps.request := t}
  | .reply none => {L with stamps.respond := t}
  | .reply (some sent) => ⟨{L.stamps with respond := t},⟨sent,t⟩::L.snapshots⟩

/-- Nothing in the ledger is later than the clock, equal stamps are both unset, and every
snapshot was asked for before it arrived and arrived no later than the last response. -/
structure Timely (clock : ℕ) (L : Ledger) : Prop where
  request : L.stamps.request ≤ clock
  respond : L.stamps.respond ≤ clock
  unset : L.stamps.request = L.stamps.respond → L.stamps.request = 0
  snapshots : ∀ x ∈ L.snapshots, x.sent < x.time ∧ x.time ≤ L.stamps.respond

namespace Timely
variable {clock t : ℕ} {L : Ledger}

theorem zero : Timely 0 ⟨⟨0,0⟩,[]⟩ := ⟨Nat.le_refl _,Nat.le_refl _,fun _ => rfl,by simp⟩

theorem apply (h : L.Timely clock) (ht : clock < t) {op : Op} (hop : op.Before t) :
    (L.apply t op).Timely t := by
  obtain ⟨hq,hr,hu,hs⟩ := h
  cases op with
  | idle => exact ⟨by simp [Ledger.apply]; omega,by simp [Ledger.apply]; omega,hu,hs⟩
  | post =>
    exact ⟨Nat.le_refl _,by simp [Ledger.apply]; omega,by simp [Ledger.apply]; omega,hs⟩
  | reply o =>
    have hold : ∀ x ∈ L.snapshots, x.sent < x.time ∧ x.time ≤ t := by
      intro x hx; have := hs x hx; omega
    cases o with
    | none =>
      exact ⟨by simp [Ledger.apply]; omega,Nat.le_refl _,by simp [Ledger.apply]; omega,hold⟩
    | some sent =>
      refine ⟨by simp [Ledger.apply]; omega,Nat.le_refl _,by simp [Ledger.apply]; omega,?_⟩
      intro x hx
      rcases List.mem_cons.mp hx with rfl | hx
      · exact ⟨hop,Nat.le_refl _⟩
      · exact hold x hx

/-- A snapshot asked for at or after the request completes the request. -/
theorem completed_of_fresh (h : L.Timely clock) {x : Snapshot} (hx : x ∈ L.snapshots)
    (hsent : L.stamps.request ≤ x.sent) : L.stamps.completed := by
  have := h.snapshots x hx
  simp only [Stamps.completed]
  omega

end Timely

/-- A request is completed only by a snapshot asked for at or after it. -/
def Fresh (L L' : Ledger) : Prop :=
  ¬ L.stamps.completed → L'.stamps.completed →
    ∃ x ∈ L'.snapshots, L'.stamps.request ≤ x.sent

/-- The reply does not complete the request, or brings a snapshot asked for after it. -/
def FreshReply (L : Ledger) : Option ℕ → Prop
  | none => L.stamps.completed
  | some sent => L.stamps.completed ∨ L.stamps.request ≤ sent

theorem fresh_reply_iff {clock t : ℕ} {L : Ledger} (h : L.Timely clock) (ht : clock < t)
    (o : Option ℕ) : L.Fresh (L.apply t (.reply o)) ↔ L.FreshReply o := by
  have hq := h.request
  cases o with
  | none =>
    simp only [Fresh, FreshReply, apply, Stamps.completed]
    constructor
    · intro hf
      by_contra hc
      obtain ⟨x,hx,hsent⟩ := hf hc (by omega)
      exact hc (h.completed_of_fresh hx hsent)
    · intro hc hn; exact absurd hc hn
  | some sent =>
    simp only [Fresh, FreshReply, apply, Stamps.completed]
    constructor
    · intro hf
      by_cases hc : L.stamps.request < L.stamps.respond
      · exact .inl hc
      · obtain ⟨x,hx,hsent⟩ := hf hc (by omega)
        rcases List.mem_cons.mp hx with rfl | hx
        · exact .inr hsent
        · exact .inl (h.completed_of_fresh hx hsent)
    · rintro (hc | hc) hn _
      · exact absurd hc hn
      · exact ⟨_,List.mem_cons_self,hc⟩

theorem fresh_idle (L : Ledger) (t : ℕ) : L.Fresh (L.apply t .idle) :=
  fun hn hc => absurd hc hn

theorem fresh_post {clock t : ℕ} {L : Ledger} (h : L.Timely clock) (ht : clock < t) :
    L.Fresh (L.apply t .post) := by
  intro _ hc
  have hr := h.respond
  simp only [apply, Stamps.completed] at hc
  omega

/-- The same, where the snapshot is the one that arrives now. -/
def FreshAt (t : ℕ) (L L' : Ledger) : Prop :=
  ¬ L.stamps.completed → L'.stamps.completed →
    ∃ x ∈ L'.snapshots, x.time = t ∧ L'.stamps.request ≤ x.sent

theorem freshAt_apply_iff {clock t : ℕ} {L : Ledger} (h : L.Timely clock) (ht : clock < t)
    (op : Op) : L.FreshAt t (L.apply t op) ↔ L.Fresh (L.apply t op) := by
  constructor
  · intro hf hn hc
    obtain ⟨x,hx,-,hsent⟩ := hf hn hc
    exact ⟨x,hx,hsent⟩
  · intro hf hn hc
    obtain ⟨x,hx,hsent⟩ := hf hn hc
    cases op with
    | idle => exact absurd hc hn
    | post =>
      have hr := h.respond
      simp only [apply, Stamps.completed] at hc
      omega
    | reply o =>
      cases o with
      | none => exact absurd (h.completed_of_fresh hx hsent) hn
      | some sent =>
        rcases List.mem_cons.mp hx with rfl | hx
        · exact ⟨_,List.mem_cons_self,rfl,hsent⟩
        · exact absurd (h.completed_of_fresh hx hsent) hn

/-- A completed request has a snapshot that arrived at or after it. -/
def Honest (L : Ledger) : Prop :=
  0 < L.stamps.request → L.stamps.completed → ∃ x ∈ L.snapshots, L.stamps.request ≤ x.time

def HonestReply (L : Ledger) : Option ℕ → Prop
  | none => L.stamps.request = 0 ∨ L.stamps.completed
  | some _ => True

theorem honest_reply_iff {clock t : ℕ} {L : Ledger} (h : L.Timely clock) (ht : clock < t)
    (hL : L.Honest) (o : Option ℕ) : (L.apply t (.reply o)).Honest ↔ L.HonestReply o := by
  have hq := h.request
  cases o with
  | none =>
    simp only [Honest, HonestReply, apply, Stamps.completed]
    constructor
    · intro hh
      by_cases h0 : L.stamps.request = 0
      · exact .inl h0
      · obtain ⟨x,hx,hle⟩ := hh (by omega) (by omega)
        have hx' := h.snapshots x hx
        have hu := h.unset
        exact .inr (by omega)
    · rintro (h0 | hc) hpos _
      · omega
      · exact hL hpos hc
  | some sent =>
    simp only [Honest, HonestReply, apply, iff_true]
    intro _ _
    exact ⟨_,List.mem_cons_self,by simp only; omega⟩

theorem honest_idle {L : Ledger} (hL : L.Honest) (t : ℕ) : (L.apply t .idle).Honest := hL

theorem honest_post {clock t : ℕ} {L : Ledger} (h : L.Timely clock) (ht : clock < t) :
    (L.apply t .post).Honest := by
  intro _ hc
  have hr := h.respond
  simp only [apply, Stamps.completed] at hc
  omega

end Ledger
end RoqBinance.Library
