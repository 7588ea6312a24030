import Mathlib.Order.Monotone.Defs
import Mathlib.Algebra.Order.Group.Nat
import Mathlib.Data.List.Nodup
import Mathlib.Data.List.Perm.Basic

/-! A list that grows at its end and whose positions are divided into slices, lists whose
elements satisfy a property of their positions, and lists sorted by keys. -/
namespace RoqBinance.Library

/-- The slice of a position is fixed, and so many slices hold the first `n` positions. -/
structure Slicing where
  slot : ℕ → ℕ
  slices : ℕ → ℕ
  slices_zero : slices 0 = 0
  slices_mono : Monotone slices
  slot_lt : ∀ {k n : ℕ}, k < n → slot k < slices n

namespace Slicing

/-- Slices of `size+1` consecutive positions. -/
def blocks (size : ℕ) : Slicing where
  slot k := k/(size+1)
  slices n := (n+size)/(size+1)
  slices_zero := Nat.div_eq_of_lt (by omega)
  slices_mono _ _ h := Nat.div_le_div_right (Nat.add_le_add_right h size)
  slot_lt {k n} h := by
    have hdiv : (k+(size+1))/(size+1) = k/(size+1)+1 := Nat.add_div_right k (by omega)
    have hle : (k+(size+1))/(size+1) ≤ (n+size)/(size+1) := Nat.div_le_div_right (by omega)
    omega

variable {α : Type*} (g : Slicing) (xs ys : List α) (i start : ℕ)

/-- What is in a slice at the positions from `start` on. -/
def getSlice : List α :=
  (xs.zipIdx.filter fun x => decide (start ≤ x.2 ∧ g.slot x.2 = i)).map Prod.fst

/-- A slice grows by its new elements. -/
theorem getSlice_append :
    g.getSlice (xs ++ ys) i 0 = g.getSlice xs i 0 ++ g.getSlice (xs ++ ys) i xs.length := by
  have hold : xs.zipIdx.filter (fun x => decide (xs.length ≤ x.2 ∧ g.slot x.2 = i)) = [] := by
    apply List.filter_eq_nil_iff.mpr
    intro x hx
    have hlt := List.snd_lt_of_mem_zipIdx hx
    simp only [decide_eq_true_eq]
    omega
  have hnew : (ys.zipIdx xs.length).filter (fun x => decide (0 ≤ x.2 ∧ g.slot x.2 = i)) =
      (ys.zipIdx xs.length).filter (fun x => decide (xs.length ≤ x.2 ∧ g.slot x.2 = i)) := by
    apply List.filter_congr
    intro x hx
    have hle := List.le_snd_of_mem_zipIdx hx
    simp [hle]
  simp only [getSlice, List.zipIdx_append, List.filter_append, Nat.zero_add, hold, hnew,
    List.nil_append, List.map_append]

theorem mem_getSlice {k : ℕ} {x : α} (h : xs[k]? = some x) : x ∈ g.getSlice xs (g.slot k) 0 := by
  apply List.mem_map.mpr
  refine ⟨(x,k),List.mem_filter.mpr ⟨?_,by simp⟩,rfl⟩
  exact List.mk_mem_zipIdx_iff_getElem?.mpr h

theorem exists_slot {x : α} (h : x ∈ g.getSlice xs i 0) : ∃ k, xs[k]? = some x ∧ g.slot k = i := by
  obtain ⟨y,hy,rfl⟩ := List.mem_map.mp h
  obtain ⟨hmem,hslot⟩ := List.mem_filter.mp hy
  exact ⟨y.2,List.mk_mem_zipIdx_iff_getElem?.mp hmem,(of_decide_eq_true hslot).2⟩

/-- Slices have nothing in common. -/
theorem slot_unique (hn : xs.Nodup) {x : α} {j : ℕ} (hi : x ∈ g.getSlice xs i 0)
    (hj : x ∈ g.getSlice xs j 0) : i = j := by
  obtain ⟨k,hk,rfl⟩ := g.exists_slot xs i hi
  obtain ⟨k',hk',rfl⟩ := g.exists_slot xs j hj
  have hlt : k < xs.length := (List.getElem?_eq_some_iff.mp hk).1
  rw [(List.getElem?_inj hlt hn).mp (hk.trans hk'.symm)]

end Slicing

/-- Every element satisfies the property of its position. -/
def Indexed {α : Type*} (P : ℕ → α → Prop) (xs : List α) : Prop := ∀ i x, xs[i]? = some x → P i x

namespace Indexed
variable {α β : Type*} {P : ℕ → α → Prop} {Q : ℕ → β → Prop} {xs : List α}

theorem nil : Indexed P [] := by
  intro i x h; simp at h

theorem concat (h : Indexed P xs) {x : α} (hx : P xs.length x) : Indexed P (xs ++ [x]) := by
  intro i y hy
  rcases Nat.lt_trichotomy i xs.length with hi | rfl | hi
  · rw [List.getElem?_append_left hi] at hy
    exact h i y hy
  · rw [List.getElem?_concat_length] at hy
    exact Option.some.inj hy ▸ hx
  · rw [List.getElem?_eq_none (by simp; omega)] at hy
    cases hy

theorem map (h : Indexed P xs) {f : α → β} (hf : ∀ i x, P i x → Q i (f x)) :
    Indexed Q (xs.map f) := by
  intro i y hy
  rw [List.getElem?_map] at hy
  obtain ⟨x,hx,rfl⟩ := Option.map_eq_some_iff.mp hy
  exact hf i x (h i x hx)

theorem mapIdx (h : Indexed P xs) {f : ℕ → α → β} (hf : ∀ i x, P i x → Q i (f i x)) :
    Indexed Q (xs.mapIdx f) := by
  intro i y hy
  rw [List.getElem?_mapIdx] at hy
  obtain ⟨x,hx,rfl⟩ := Option.map_eq_some_iff.mp hy
  exact hf i x (h i x hx)

theorem modifyAt (h : Indexed P xs) (j : ℕ) {f : α → α} (hf : ∀ x, xs[j]? = some x → P j (f x)) :
    Indexed P (xs.modify j f) := by
  intro i y hy
  rw [List.getElem?_modify] at hy
  obtain ⟨x,hx,rfl⟩ := Option.map_eq_some_iff.mp hy
  by_cases hji : j = i
  · subst hji
    rw [if_pos rfl]
    exact hf x hx
  · rw [if_neg hji]
    exact h i x hx

theorem modify (h : Indexed P xs) (j : ℕ) {f : α → α} (hf : ∀ i x, P i x → P i (f x)) :
    Indexed P (xs.modify j f) := h.modifyAt j fun x hx => hf j x (h j x hx)

end Indexed

section
variable {α κ : Type*} [DecidableEq κ] {key : α → κ}

/-- What is left of a list, key by key. -/
theorem perm_flatMap_filter {keys : List κ} (hn : keys.Nodup) {xs : List α}
    (h : ∀ x ∈ xs, key x ∈ keys) :
    xs.Perm (keys.flatMap fun k => xs.filter fun x => decide (key x = k)) := by
  induction keys generalizing xs with
  | nil =>
    have hnil : xs = [] := List.eq_nil_iff_forall_not_mem.mpr fun x hx => by simpa using h x hx
    rw [hnil]
    rfl
  | cons k keys ih =>
    obtain ⟨hk,hn⟩ := List.nodup_cons.mp hn
    have hrest : ∀ x ∈ xs.filter (fun x => !decide (key x = k)), key x ∈ keys := by
      intro x hx
      obtain ⟨hx,hne⟩ := List.mem_filter.mp hx
      exact (List.mem_cons.mp (h x hx)).resolve_left (by simpa using hne)
    have hsame : (keys.flatMap fun j =>
        (xs.filter fun x => !decide (key x = k)).filter fun x => decide (key x = j)) =
          keys.flatMap fun j => xs.filter fun x => decide (key x = j) := by
      refine List.flatMap_congr fun j hj => ?_
      rw [List.filter_filter]
      refine List.filter_congr fun x _ => ?_
      by_cases hx : key x = j
      · have hne : key x ≠ k := fun hxk => hk (hxk ▸ hx ▸ hj)
        simp [hx, hx ▸ hne]
      · simp [hx]
    rw [List.flatMap_cons,← hsame]
    exact (List.filter_append_perm _ xs).symm.trans ((ih hn hrest).append_left _)

end
end RoqBinance.Library
