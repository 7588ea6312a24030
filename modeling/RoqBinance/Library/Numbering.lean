import Mathlib.Algebra.Group.Nat.Defs
import Mathlib.Data.List.Nodup
import Mathlib.Logic.Function.Iterate

/-! Names taken from a counter: the counter moves on, and its new value is the name. -/
namespace RoqBinance.Library
variable {α : Type*}

/-- The first `n` names of a counter that starts at `first`. -/
def issued (next : α → α) (first : α) (n : ℕ) : List α :=
  (List.range n).map fun i => next^[i+1] first

/-- A counter that started at `first`, and the names it has given out since. -/
structure Numbered (next : α → α) (first counter : α) (names : List α) : Prop where
  counter : counter = next^[names.length] first
  names : names = issued next first names.length

theorem issued_succ (next : α → α) (first : α) (n : ℕ) :
    issued next first (n+1) = issued next first n ++ [next (next^[n] first)] := by
  rw [issued,List.range_succ,List.map_append,List.map_singleton,Function.iterate_succ_apply']
  rfl

theorem nodup_issued {next : α → α} {first : α} {n : ℕ}
    (h : ∀ i < n, ∀ j < n, next^[i+1] first = next^[j+1] first → i = j) :
    (issued next first n).Nodup := by
  refine List.Nodup.map_on ?_ List.nodup_range
  intro i hi j hj
  exact h i (List.mem_range.mp hi) j (List.mem_range.mp hj)

namespace Numbered
variable {next : α → α} {first counter : α} {names : List α}

theorem nil (next : α → α) (first : α) : Numbered next first first [] := ⟨rfl,rfl⟩

theorem snoc (h : Numbered next first counter names) :
    Numbered next first (next counter) (names ++ [next counter]) := by
  constructor
  · rw [List.length_append,List.length_singleton,Function.iterate_succ_apply',← h.counter]
  · rw [List.length_append,List.length_singleton,issued_succ,← h.names,← h.counter]

end Numbered

/-- A 32-bit counter wraps around after `2^32` names. -/
theorem iterate_word (first : UInt32) (n : ℕ) : (·+1)^[n] first = first+UInt32.ofNat n := by
  induction n with
  | zero => simp
  | succ n ih =>
    rw [Function.iterate_succ_apply',ih,UInt32.ofNat_add,← UInt32.add_assoc]
    rfl

theorem Numbered.nodup_word {first counter : UInt32} {names : List UInt32}
    (h : Numbered (·+1) first counter names) (hlen : names.length < 2^32) : names.Nodup := by
  rw [h.names]
  refine nodup_issued ?_
  intro i hi j hj hij
  rw [iterate_word,iterate_word,UInt32.add_right_inj] at hij
  have hn := congrArg UInt32.toNat hij
  simp only [UInt32.toNat_ofNat'] at hn
  omega

end RoqBinance.Library
