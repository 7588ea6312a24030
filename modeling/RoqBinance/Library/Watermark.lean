import Mathlib.Data.List.Induction
import Mathlib.Order.Lattice
import RoqBinance.Library.Machine

/-! A watermark lets through what is not older than the newest so far. Of a list it passes on a
non-decreasing part that ends with a maximum. -/
namespace RoqBinance.Library

/-- The watermark after `id`, if it lets `id` through. -/
def advance {α : Type} [LT α] [DecidableLT α] (last id : α) : Option α :=
  if id < last then none else some id

section
variable {α β : Type} [LinearOrder α] (key : β → α)

/-- What a watermark lets through. -/
def passed (last : α) : List β → List β
  | [] => []
  | x::xs => if key x < last then passed last xs else x::passed (key x) xs

def watermark (last : α) (xs : List β) : α := xs.foldl (fun last x => max last (key x)) last

/-- Nothing has the largest key of what comes before it. -/
def NoTie (xs : List β) : Prop :=
  ∀ earlier x later, xs = earlier ++ x::later →
    (∃ y ∈ earlier, key y = key x) → ∃ y ∈ earlier, key x < key y

variable {key} {last : α}

theorem passed_append (xs ys : List β) :
    passed key last (xs ++ ys) = passed key last xs ++ passed key (watermark key last xs) ys := by
  induction xs generalizing last with
  | nil => rfl
  | cons x xs ih =>
    rw [List.cons_append,passed,passed,watermark,List.foldl_cons]
    split_ifs with h
    · rw [max_eq_left h.le]
      exact ih
    · rw [max_eq_right (not_lt.mp h)]
      exact congrArg (x::·) ih

theorem watermark_concat (xs : List β) (x : β) :
    watermark key last (xs ++ [x]) = max (watermark key last xs) (key x) := by
  simp [watermark]

theorem le_watermark (last : α) (xs : List β) :
    last ≤ watermark key last xs ∧ ∀ x ∈ xs, key x ≤ watermark key last xs := by
  induction xs using List.reverseRecOn with
  | nil => exact ⟨le_rfl,by simp⟩
  | append_singleton xs x ih =>
    rw [watermark_concat]
    refine ⟨ih.1.trans (le_max_left _ _),?_⟩
    intro y hy
    rcases List.mem_append.mp hy with hy | hy
    · exact (ih.2 y hy).trans (le_max_left _ _)
    · rw [List.mem_singleton.mp hy]
      exact le_max_right _ _

theorem passed_subset (last : α) (xs : List β) : passed key last xs ⊆ xs := by
  induction xs generalizing last with
  | nil => exact List.Subset.refl _
  | cons x xs ih =>
    rw [passed]
    split_ifs
    · exact List.subset_cons_of_subset x (ih last)
    · exact List.cons_subset_cons x (ih (key x))

/-- The last element let through has brought the watermark to where it is. -/
theorem getLast?_passed {xs : List β} (hne : xs ≠ []) (hle : ∀ x ∈ xs, last ≤ key x) :
    ∃ x ∈ xs, (passed key last xs).getLast? = some x ∧ key x = watermark key last xs := by
  induction xs using List.reverseRecOn with
  | nil => exact absurd rfl hne
  | append_singleton xs x ih =>
    rw [passed_append,watermark_concat,passed]
    split_ifs with hx
    · have hxs : xs ≠ [] := by
        rintro rfl
        exact absurd hx (not_lt.mpr (hle x (by simp)))
      obtain ⟨y,hy,hlast,hkey⟩ := ih hxs fun y hy => hle y (List.mem_append_left _ hy)
      refine ⟨y,List.mem_append_left _ hy,?_,?_⟩
      · simpa [passed] using hlast
      · rw [hkey,max_eq_left hx.le]
    · refine ⟨x,by simp,?_,?_⟩
      · simp [passed]
      · rw [max_eq_right (not_lt.mp hx)]

theorem pairwise_passed (last : α) (xs : List β) :
    (passed key last xs).Pairwise fun x y => key x ≤ key y := by
  induction xs using List.reverseRecOn with
  | nil => exact List.Pairwise.nil
  | append_singleton xs x ih =>
    rw [passed_append,passed]
    split_ifs with hx
    · simpa [passed] using ih
    · refine List.pairwise_append.mpr ⟨ih,by simp [passed],?_⟩
      intro y hy z hz
      rw [passed,List.mem_singleton] at hz
      rw [hz]
      exact ((le_watermark last xs).2 y (passed_subset last xs hy)).trans (not_lt.mp hx)

theorem noTie_concat_iff (xs : List β) (x : β) : NoTie key (xs ++ [x]) ↔
    NoTie key xs ∧ ((∃ y ∈ xs, key y = key x) → ∃ y ∈ xs, key x < key y) := by
  constructor
  · intro h
    refine ⟨?_,h xs x [] rfl⟩
    rintro earlier y later rfl
    exact h earlier y (later ++ [x]) (by simp)
  · rintro ⟨hxs,hx⟩ earlier y later heq
    rcases List.eq_nil_or_concat later with rfl | ⟨later,z,rfl⟩
    · obtain ⟨rfl,hyx⟩ := List.append_inj' heq rfl
      rw [← List.head_eq_of_cons_eq hyx]
      exact hx
    · refine hxs earlier y later ?_
      have hcut : xs ++ [x] = (earlier ++ y::later) ++ [z] := by simpa using heq
      exact (List.append_inj' hcut rfl).1

/-- What is let through is strictly increasing if and only if there are no ties. -/
theorem pairwise_lt_passed_iff (xs : List β) (hle : ∀ x ∈ xs, last ≤ key x) :
    (passed key last xs).Pairwise (fun x y => key x < key y) ↔ NoTie key xs := by
  induction xs using List.reverseRecOn with
  | nil => exact iff_of_true List.Pairwise.nil (by simp [NoTie])
  | append_singleton xs x ih =>
    have hle' : ∀ y ∈ xs, last ≤ key y := fun y hy => hle y (List.mem_append_left _ hy)
    have hmax : ∀ y ∈ xs, key y ≤ watermark key last xs := (le_watermark last xs).2
    rw [passed_append,noTie_concat_iff,← ih hle',passed]
    split_ifs with hx
    · have hxs : xs ≠ [] := by
        rintro rfl
        exact absurd hx (not_lt.mpr (hle x (by simp)))
      obtain ⟨y,hy,-,hkey⟩ := getLast?_passed hxs hle'
      simp only [passed, List.append_nil]
      exact (and_iff_left fun _ => ⟨y,hy,hkey ▸ hx⟩).symm
    · rw [List.pairwise_append]
      refine and_congr_right fun _ => ?_
      constructor
      · rintro ⟨-,hbefore⟩ ⟨y,hy,hyx⟩
        obtain ⟨z,hz,hlast,hkey⟩ := getLast?_passed (List.ne_nil_of_mem hy) hle'
        have hzx := hbefore z (List.mem_of_getLast? hlast) x (by simp [passed])
        have hyz : key y ≤ key z := hkey ▸ hmax y hy
        exact absurd hyx (hyz.trans_lt hzx).ne
      · intro htie
        refine ⟨by simp [passed],?_⟩
        intro y hy z hz
        rw [passed,List.mem_singleton] at hz
        rw [hz]
        have hmem := passed_subset last xs hy
        refine lt_of_le_of_ne ((hmax y hmem).trans (not_lt.mp hx)) fun heq => ?_
        obtain ⟨w,hw,hlt⟩ := htie ⟨y,hmem,heq⟩
        exact hx (hlt.trans_le (hmax w hw))

end

section
variable {σ ε ω α β γ : Type} [LinearOrder α]

/-- The machine `M` keeps the watermark `mark` of the inputs, and of its outputs `f` those that
are selected are what `publish` makes of an input that has been let through. -/
structure Marks (M : Machine σ ε) (f : σ → ε → List ω) (mark : σ → α) (key : β → α)
    (input : ε → Option β) (output : ω → Option γ) (publish : β → γ) : Prop where
  quiet : ∀ s e s', M.next s e = some s' → input e = none →
    mark s' = mark s ∧ (f s e).filterMap output = []
  loud : ∀ s e s' x, M.next s e = some s' → input e = some x →
    mark s' = max (mark s) (key x) ∧
      (f s e).filterMap output = if key x < mark s then [] else [publish x]

theorem Marks.run {M : Machine σ ε} {f : σ → ε → List ω} {mark : σ → α} {key : β → α}
    {input : ε → Option β} {output : ω → Option γ} {publish : β → γ}
    (h : Marks M f mark key input output publish) {es : List ε} {p p' : σ × List ω}
    (hr : (M.recorded f).run p es = some p') :
    p'.2.filterMap output =
      p.2.filterMap output ++ (passed key (mark p.1) (es.filterMap input)).map publish := by
  induction es generalizing p with
  | nil =>
    cases hr
    simp [passed]
  | cons e es ih =>
    obtain ⟨q,hn,hr⟩ := (M.recorded f).run_cons_eq_some.mp hr
    obtain ⟨s,hs,rfl⟩ := Option.map_eq_some_iff.mp hn
    rw [ih hr,List.filterMap_append,List.append_assoc]
    congr 1
    cases hi : input e with
    | none =>
      obtain ⟨hmark,hout⟩ := h.quiet p.1 e s hs hi
      rw [hmark,hout,List.filterMap_cons_none hi]
      rfl
    | some x =>
      obtain ⟨hmark,hout⟩ := h.loud p.1 e s x hs hi
      rw [hmark,hout,List.filterMap_cons_some hi,passed]
      split_ifs with hx
      · rw [max_eq_left hx.le]
        rfl
      · rw [max_eq_right (not_lt.mp hx)]
        rfl

end
end RoqBinance.Library
