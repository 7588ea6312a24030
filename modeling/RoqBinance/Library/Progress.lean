import Mathlib.Data.List.Basic
import RoqBinance.Library.Download

/-! How far a download is from its end. -/
namespace RoqBinance.Library.Download
variable {α S : Type*} {f : α → S → S × ℕ}

/-- Where the states that are entered leave off: the sequencer waits at one of them, or has been
through the last one. The handlers that ask for nothing keep `P` of the owner. -/
theorem enter_cases {P : S → Prop} (hskip : ∀ x s s', P s → f x s = (s',0) → P s')
    {xs : List α} (hne : xs ≠ []) (d : Download α) {s : S} (hs : P s) :
    (∃ y n rest u, (y::rest) <:+ xs ∧ P u ∧ f y u = ((enter f xs d s).2,n+1) ∧
      (enter f xs d s).1 = .waiting y n rest) ∨
    ∃ u, P u ∧ f (xs.getLast hne) u = ((enter f xs d s).2,0) ∧
      (enter f xs d s).1 = .done (xs.getLast hne) := by
  induction xs generalizing d s with
  | nil => exact absurd rfl hne
  | cons x xs ih =>
    rcases hf : f x s with ⟨s',_ | n⟩
    · have henter : enter f (x::xs) d s = enter f xs (.done x) s' := by simp only [enter, hf]
      rw [henter]
      by_cases hxs : xs = []
      · subst hxs
        exact .inr ⟨s,hs,hf,rfl⟩
      · rw [List.getLast_cons hxs]
        rcases ih hxs (.done x) (hskip x s s' hs hf) with ⟨y,n,rest,u,hsuffix,hrest⟩ | hlast
        · exact .inl ⟨y,n,rest,u,hsuffix.trans (List.suffix_cons x xs),hrest⟩
        · exact .inr hlast
    · have henter : enter f (x::xs) d s = (.waiting x n xs,s') := by simp only [enter, hf]
      rw [henter]
      exact .inl ⟨x,n,xs,s,List.suffix_refl _,hs,hf,rfl⟩

/-- The replies that are still needed, if no state asks for more than one. -/
def remaining (asks : α → Bool) : Download α → ℕ
  | .waiting _ n rest => n + 1 + rest.countP asks
  | _ => 0

/-- A handler asks for a reply in some of the states only, and for one. -/
def AsksOnce (f : α → S → S × ℕ) (asks : α → Bool) : Prop :=
  ∀ x s, (f x s).2 ≤ if asks x then 1 else 0

variable {asks : α → Bool}

theorem remaining_enter (h : AsksOnce f asks) {xs : List α} (hne : xs ≠ []) (d : Download α)
    (s : S) : remaining asks (enter f xs d s).1 ≤ xs.countP asks := by
  rcases enter_cases (f := f) (P := fun _ => True) (fun _ _ _ _ _ => trivial) hne d (s := s) trivial with
    ⟨y,n,rest,u,hsuffix,-,hf,he⟩ | ⟨u,-,-,he⟩
  · have hone := h y u
    rw [hf] at hone
    have hcount := hsuffix.sublist.countP_le (p := asks)
    rw [List.countP_cons] at hcount
    rw [he,remaining]
    split_ifs at hone hcount with hasks
    · omega
    · omega
  · rw [he]
    exact Nat.zero_le _

end RoqBinance.Library.Download
