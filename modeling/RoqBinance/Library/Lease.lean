import Mathlib.Data.List.Basic
import Mathlib.Data.Nat.Notation
import Mathlib.Tactic.Ring

/-! A lease that its holder asks to renew whenever it is due. A tick finds out whether it is, and
a renewal sets when it is due again. -/
namespace RoqBinance.Library

/-- `due` is when the holder asks next, `outstanding` when the requests were sent that are without
an answer, `renewed` when the last one was that has been granted, and `ticked` when it was last
found out whether the lease is due. The ticks have asked at the times `asked`, the last one last. -/
structure Lease where
  clock : ℕ
  active : Bool
  due : ℕ
  ticked : ℕ
  renewed : ℕ
  asked : List ℕ
  outstanding : List ℕ

namespace Lease

/-- What a step leaves alone that does not renew the lease. -/
structure Same (s s' : Lease) : Prop where
  clock : s.clock < s'.clock
  active : s'.active = true → s.active = true
  renewed : s'.renewed = s.renewed

/-- The holder rests, it finds out that the lease is not due, it finds out that it is and asks,
or a request is granted. Unless the step is `lossless` a request may be refused. -/
inductive Step (period : ℕ) (lossless : Prop) (s s' : Lease) : Prop
  | rest (same : Same s s') (due : s'.due = s.due) (ticked : s'.ticked = s.ticked)
    (asked : s'.asked = s.asked) (outstanding : lossless → s.outstanding ⊆ s'.outstanding)
  | tick (same : Same s s') (due : s'.due = s.due) (ticked : s'.ticked = s'.clock)
    (asked : s'.asked = s.asked) (outstanding : s.outstanding ⊆ s'.outstanding)
    (early : s.active = true → s'.clock < s.due)
  | ask (same : Same s s') (due : s'.due = s'.clock+period) (ticked : s'.ticked = s'.clock)
    (asked : s'.asked = s.asked ++ [s'.clock]) (outstanding : s.outstanding ⊆ s'.outstanding)
    (late : s.due ≤ s'.clock) (sent : s'.clock ∈ s'.outstanding)
  | grant (clock : s.clock < s'.clock) (due : s'.due = s'.clock+period)
    (ticked : s'.ticked = s'.clock) (asked : s'.asked = s.asked) (sent : ℕ)
    (outstanding : sent ∈ s.outstanding) (renewed : s'.renewed = max s.renewed sent)

variable {period answer tick : ℕ} {lossless : Prop} {s s' : Lease}

/-- The times that have been asked at are at least a period apart, and the next one will be. -/
structure Paced (period : ℕ) (s : Lease) : Prop where
  spaced : s.asked.Pairwise fun earlier later => earlier+period ≤ later
  due : ∀ time ∈ s.asked, time+period ≤ s.due
  near : s.due ≤ s.clock+period

theorem Step.paced (h : Step period lossless s s') (hs : Paced period s) : Paced period s' := by
  obtain ⟨hspaced,hdue,hnear⟩ := hs
  cases h with
  | rest same due ticked asked outstanding =>
    have hclock := same.clock
    refine ⟨asked ▸ hspaced,?_,by omega⟩
    rw [asked,due]
    exact hdue
  | tick same due ticked asked outstanding early =>
    have hclock := same.clock
    refine ⟨asked ▸ hspaced,?_,by omega⟩
    rw [asked,due]
    exact hdue
  | ask same due ticked asked outstanding late sent =>
    -- what has been asked before was no later than a period before the lease was due
    have hbefore : ∀ time ∈ s.asked, time+period ≤ s'.clock :=
      fun time hmem => (hdue time hmem).trans late
    refine ⟨?_,?_,due.le⟩
    · rw [asked,List.pairwise_append]
      refine ⟨hspaced,List.pairwise_singleton _ _,?_⟩
      intro earlier hearlier later hlater
      rw [List.mem_singleton.mp hlater]
      exact hbefore earlier hearlier
    · intro time hmem
      rw [asked] at hmem
      rcases List.mem_append.mp hmem with hmem | hmem
      · have hle := hbefore time hmem
        omega
      · rw [List.mem_singleton.mp hmem,due]
  | grant clock due ticked asked sent outstanding renewed =>
    refine ⟨asked ▸ hspaced,?_,due.le⟩
    intro time hmem
    have hle := hdue time (asked ▸ hmem)
    omega

/-- Every request is answered within `answer`, and as long as the holder is active it ticks within
`tick`. -/
structure Timely (answer tick : ℕ) (s : Lease) (now : ℕ) : Prop where
  answered : ∀ sent ∈ s.outstanding, now ≤ sent+answer
  ticking : s.active = true → now ≤ s.ticked+tick

/-- It is not due for a while, or has been asked for in time. -/
def Awaited (period answer tick : ℕ) (s : Lease) : Prop :=
  (s.ticked ≤ s.due ∧ s.due ≤ s.renewed+(answer+period)) ∨
    ∃ sent ∈ s.outstanding, sent ≤ s.renewed+(answer+period+tick)

def Kept (period answer tick : ℕ) (s : Lease) : Prop :=
  s.active = true → s.clock ≤ s.renewed+(2*answer+period+tick) ∧ Awaited period answer tick s

/-- How late it can be, by the time of an event. -/
theorem Awaited.bound (h : Awaited period answer tick s) {now : ℕ} (ht : Timely answer tick s now)
    (ha : s.active = true) : now ≤ s.renewed+(2*answer+period+tick) := by
  have hticking := ht.ticking ha
  rcases h with ⟨hticked,hdue⟩ | ⟨sent,hmem,hsent⟩
  · omega
  · have hanswered := ht.answered sent hmem
    omega

/-- The requests that were outstanding still are. -/
theorem Awaited.of_subset (h : ∃ sent ∈ s.outstanding, sent ≤ s.renewed+(answer+period+tick))
    (hr : s'.renewed = s.renewed) (ho : s.outstanding ⊆ s'.outstanding) :
    Awaited period answer tick s' := by
  obtain ⟨sent,hmem,hsent⟩ := h
  exact .inr ⟨sent,ho hmem,hr ▸ hsent⟩

theorem Step.kept (h : Step period lossless s s') (hl : s.active = true → lossless)
    (ht : Timely answer tick s s'.clock) (hs : Kept period answer tick s) :
    Kept period answer tick s' := by
  intro ha'
  cases h with
  | rest same due ticked asked outstanding =>
    have ha := same.active ha'
    obtain ⟨-,hawaited⟩ := hs ha
    refine ⟨same.renewed ▸ hawaited.bound ht ha,?_⟩
    rcases hawaited with hdue | hsent
    · left
      rwa [ticked,due,same.renewed]
    · exact .of_subset hsent same.renewed (outstanding (hl ha))
  | tick same due ticked asked outstanding early =>
    have ha := same.active ha'
    obtain ⟨-,hawaited⟩ := hs ha
    refine ⟨same.renewed ▸ hawaited.bound ht ha,?_⟩
    rcases hawaited with hdue | hsent
    · left
      rw [ticked,due,same.renewed]
      exact ⟨(early ha).le,hdue.2⟩
    · exact .of_subset hsent same.renewed outstanding
  | ask same due ticked asked outstanding late sent =>
    have ha := same.active ha'
    obtain ⟨-,hawaited⟩ := hs ha
    refine ⟨same.renewed ▸ hawaited.bound ht ha,?_⟩
    rcases hawaited with hdue | hsent
    · have hticking := ht.ticking ha
      refine .inr ⟨_,sent,?_⟩
      rw [same.renewed]
      omega
    · exact .of_subset hsent same.renewed outstanding
  | grant clock due ticked asked sent outstanding renewed =>
    have hanswered := ht.answered sent outstanding
    have hle : sent ≤ s'.renewed := renewed ▸ le_max_right _ _
    refine ⟨by omega,.inl ⟨?_,?_⟩⟩
    · rw [ticked,due]
      exact Nat.le_add_right _ _
    · rw [due]
      omega

end Lease
end RoqBinance.Library
