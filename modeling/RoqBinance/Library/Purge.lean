import Mathlib.Data.List.Basic
import Mathlib.Data.Nat.Notation
import Mathlib.Tactic.TypeStar

/-! Whether some events interfere with what an observer sees of the others: the outputs of a
run are compared with those of the run from which the events have been deleted. -/
namespace RoqBinance.Library

structure Transducer (σ ε ο : Type*) where
  step : σ → ε → σ × List ο

namespace Transducer
variable {σ ε ο β : Type*} (T : Transducer σ ε ο)

def outputs : σ → List ε → List ο
  | _, [] => []
  | s, e::es => (T.step s e).2 ++ outputs (T.step s e).1 es

/-- Every event of the run meets the condition in the state in which it occurs. -/
def Throughout (P : σ → ε → Prop) : σ → List ε → Prop
  | _, [] => True
  | s, e::es => P s e ∧ Throughout P (T.step s e).1 es

variable (keep : ε → Bool) (observe : ο → Option β)

/-- The runs stay related when the events that are not kept are deleted from the second one,
and an observer only misses what such an event adds. -/
structure Unwinding (adds : σ → ε → List β) (R : σ → σ → Prop) : Prop where
  kept : ∀ s s' e, keep e = true → R s s' →
    R (T.step s e).1 (T.step s' e).1 ∧ adds s e = [] ∧
      (T.step s e).2.filterMap observe = (T.step s' e).2.filterMap observe
  deleted : ∀ s s' e, keep e = false → R s s' →
    R (T.step s e).1 s' ∧ (T.step s e).2.filterMap observe = adds s e

namespace Unwinding
variable {T keep observe} {adds : σ → ε → List β} {R : σ → σ → Prop}

/-- Nothing that the observer sees is lost or reordered by deleting the events. -/
theorem sublist (h : T.Unwinding keep observe adds R) (es : List ε) {s s' : σ} (hR : R s s') :
    ((T.outputs s' (es.filter keep)).filterMap observe).Sublist
      ((T.outputs s es).filterMap observe) := by
  induction es generalizing s s' with
  | nil => exact List.Sublist.refl _
  | cons e es ih =>
    cases hk : keep e with
    | true =>
      obtain ⟨hnext,-,hobs⟩ := h.kept s s' e hk hR
      rw [List.filter_cons_of_pos hk,outputs,outputs,List.filterMap_append,
        List.filterMap_append,hobs]
      exact List.Sublist.append_left (ih hnext) _
    | false =>
      obtain ⟨hnext,-⟩ := h.deleted s s' e hk hR
      rw [List.filter_cons_of_neg (by simp [hk]),outputs,List.filterMap_append]
      exact List.Sublist.trans (ih hnext) (List.sublist_append_right _ _)

/-- The deleted events are not missed exactly if none of them adds anything. -/
theorem length_eq_iff (h : T.Unwinding keep observe adds R) (es : List ε) {s s' : σ}
    (hR : R s s') :
    ((T.outputs s' (es.filter keep)).filterMap observe).length =
        ((T.outputs s es).filterMap observe).length ↔
      T.Throughout (fun s e => adds s e = []) s es := by
  induction es generalizing s s' with
  | nil => simp [outputs, Throughout]
  | cons e es ih =>
    cases hk : keep e with
    | true =>
      obtain ⟨hnext,hadds,hobs⟩ := h.kept s s' e hk hR
      rw [List.filter_cons_of_pos hk,outputs,outputs,List.filterMap_append,
        List.filterMap_append,hobs,List.length_append,List.length_append,Nat.add_left_cancel_iff,
        ih hnext]
      simp only [Throughout, hadds, true_and]
    | false =>
      obtain ⟨hnext,hobs⟩ := h.deleted s s' e hk hR
      have hle := (h.sublist es hnext).length_le
      rw [List.filter_cons_of_neg (by simp [hk]),outputs,List.filterMap_append,hobs,
        List.length_append,Throughout,← ih hnext,← List.length_eq_zero_iff]
      omega

theorem outputs_eq_iff (h : T.Unwinding keep observe adds R) (es : List ε) {s s' : σ}
    (hR : R s s') :
    (T.outputs s es).filterMap observe = (T.outputs s' (es.filter keep)).filterMap observe ↔
      T.Throughout (fun s e => adds s e = []) s es := by
  rw [← h.length_eq_iff es hR]
  constructor
  · intro heq; rw [heq]
  · intro hlen; exact ((h.sublist es hR).eq_of_length hlen).symm

end Unwinding
end Transducer
end RoqBinance.Library
