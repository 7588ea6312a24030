import Mathlib.Algebra.BigOperators.Ring.List
import Mathlib.Algebra.Order.BigOperators.Group.List
import Mathlib.Algebra.Order.Field.Basic
import Mathlib.Data.Finset.Max

/-! The mean of values with non-negative weights, over a list. -/
namespace RoqBinance.Library

variable {α K : Type}

section
variable [Semiring K] (value weight : α → K)

def totalWeight (xs : List α) : K := (xs.map weight).sum

def weightedSum (xs : List α) : K := (xs.map fun x => value x*weight x).sum

@[simp] theorem totalWeight_nil : totalWeight weight [] = 0 := rfl

@[simp] theorem totalWeight_cons (x : α) (xs : List α) :
    totalWeight weight (x::xs) = weight x + totalWeight weight xs := List.sum_cons

@[simp] theorem weightedSum_nil : weightedSum value weight [] = 0 := rfl

@[simp] theorem weightedSum_cons (x : α) (xs : List α) :
    weightedSum value weight (x::xs) = value x*weight x + weightedSum value weight xs :=
  List.sum_cons

theorem weightedSum_const (b : K) (xs : List α) :
    weightedSum (fun _ => b) weight xs = b*totalWeight weight xs :=
  List.sum_map_mul_left ..

end

section
variable [Field K] [LinearOrder K] [IsStrictOrderedRing K] {value weight : α → K} {xs : List α}

/-- Values without a weight do not count. -/
theorem weightedSum_mono {f g : α → K} (hw : ∀ x ∈ xs, 0 ≤ weight x)
    (h : ∀ x ∈ xs, 0 < weight x → f x ≤ g x) :
    weightedSum f weight xs ≤ weightedSum g weight xs := by
  induction xs with
  | nil => exact le_rfl
  | cons x xs ih =>
    obtain ⟨hx,hxs⟩ := List.forall_mem_cons.mp hw
    obtain ⟨hfg,hrest⟩ := List.forall_mem_cons.mp h
    have hterm : f x*weight x ≤ g x*weight x := by
      rcases hx.lt_or_eq with hpos | hzero
      · exact mul_le_mul_of_nonneg_right (hfg hpos) hx
      · simp [← hzero]
    rw [weightedSum_cons,weightedSum_cons]
    exact add_le_add hterm (ih hxs hrest)

theorem exists_weight_pos (ht : 0 < totalWeight weight xs) : ∃ x ∈ xs, 0 < weight x :=
  List.exists_lt_of_sum_lt (fun _ => 0) weight (by simpa [totalWeight] using ht)

/-- The mean lies between the least and the greatest of the values that have a weight. -/
theorem weightedMean_between (hw : ∀ x ∈ xs, 0 ≤ weight x) (ht : 0 < totalWeight weight xs) :
    ∃ lo ∈ xs, ∃ hi ∈ xs, 0 < weight lo ∧ 0 < weight hi ∧
      (∀ x ∈ xs, 0 < weight x → value lo ≤ value x ∧ value x ≤ value hi) ∧
      value lo ≤ weightedSum value weight xs/totalWeight weight xs ∧
      weightedSum value weight xs/totalWeight weight xs ≤ value hi := by
  classical
  let s := (xs.filter fun x => 0 < weight x).toFinset
  have hmem : ∀ x, x ∈ s ↔ x ∈ xs ∧ 0 < weight x := by
    intro x
    simp [s]
  have hne : s.Nonempty := by
    obtain ⟨x,hx,hpos⟩ := exists_weight_pos ht
    exact ⟨x,(hmem x).mpr ⟨hx,hpos⟩⟩
  obtain ⟨lo,hlo,hmin⟩ := s.exists_min_image value hne
  obtain ⟨hi,hhi,hmax⟩ := s.exists_max_image value hne
  have hlow : ∀ x ∈ xs, 0 < weight x → value lo ≤ value x :=
    fun x hx hpos => hmin x ((hmem x).mpr ⟨hx,hpos⟩)
  have hhigh : ∀ x ∈ xs, 0 < weight x → value x ≤ value hi :=
    fun x hx hpos => hmax x ((hmem x).mpr ⟨hx,hpos⟩)
  refine ⟨lo,((hmem lo).mp hlo).1,hi,((hmem hi).mp hhi).1,((hmem lo).mp hlo).2,
    ((hmem hi).mp hhi).2,fun x hx hpos => ⟨hlow x hx hpos,hhigh x hx hpos⟩,?_,?_⟩
  · rw [le_div_iff₀ ht,← weightedSum_const]
    exact weightedSum_mono hw hlow
  · rw [div_le_iff₀ ht,← weightedSum_const]
    exact weightedSum_mono hw hhigh

end
end RoqBinance.Library
