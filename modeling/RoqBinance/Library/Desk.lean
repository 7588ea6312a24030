import Mathlib.Data.List.Count
import Mathlib.Data.List.Nodup
import Mathlib.Tactic.SplitIfs
import Mathlib.Tactic.TypeStar

/-! A clerk who is asked for things and has at most one of them in hand. With an empty hand the
first one is taken that is asked for, in a fixed order of the kinds of things. -/
namespace RoqBinance.Library

structure Desk (κ : Type*) where
  asked : κ → Bool
  inHand : Option κ

namespace Desk
variable {κ : Type*} [DecidableEq κ]

/-- `settle k` is that `k` is no longer asked for, and `finish k` that it is done with as well;
`drop` puts aside what is in hand. -/
inductive Op (κ : Type*)
  | idle
  | ask (k : κ)
  | settle (k : κ)
  | finish (k : κ)
  | drop
  | take

def set (k : κ) (value : Bool) (d : Desk κ) : Desk κ :=
  {d with asked := fun j => if j = k then value else d.asked j}

def apply (kinds : List κ) (d : Desk κ) : Op κ → Desk κ
  | .idle => d
  | .ask k => d.set k true
  | .settle k => d.set k false
  | .finish k => ⟨(d.set k false).asked,if d.inHand = some k then none else d.inHand⟩
  | .drop => ⟨d.asked,none⟩
  | .take => ⟨d.asked,d.inHand.or (kinds.find? d.asked)⟩

/-- Asked for, and not in hand. -/
def waits (d : Desk κ) (k : κ) : Bool := d.asked k && decide (d.inHand ≠ some k)

theorem waits_iff {d : Desk κ} {k : κ} :
    d.waits k = true ↔ d.asked k = true ∧ d.inHand ≠ some k := by
  rw [waits,Bool.and_eq_true,decide_eq_true_eq]

/-- How many of the kinds wait. -/
def waiting (ahead : List κ) (d : Desk κ) : ℕ := ahead.countP d.waits

/-- An empty hand takes while one of the kinds is asked for. -/
def takes (ahead : List κ) (d : Desk κ) : Op κ → ℕ
  | .take => if d.inHand = none ∧ ahead.any d.asked = true then 1 else 0
  | _ => 0

/-- What may make one more of the kinds wait. -/
def adds (ahead : List κ) : Op κ → ℕ
  | .ask k => if k ∈ ahead then 1 else 0
  | .drop => 1
  | _ => 0

omit [DecidableEq κ] in
theorem countP_le_of_imp {p q : κ → Bool} (h : ∀ k, p k = true → q k = true) (ks : List κ) :
    ks.countP p ≤ ks.countP q := List.countP_mono_left fun k _ => h k

/-- One more kind than before satisfies the test. -/
theorem countP_le_add_count {p q : κ → Bool} {k : κ} (h : ∀ j, p j = true → q j = true ∨ j = k)
    (ks : List κ) : ks.countP p ≤ ks.countP q + ks.count k := by
  induction ks with
  | nil => simp
  | cons j ks ih =>
    rw [List.countP_cons,List.countP_cons,List.count_cons]
    by_cases hp : p j = true
    · rcases h j hp with hq | rfl
      · simp only [hp, hq, if_true]
        omega
      · simp only [hp, BEq.rfl, if_true]
        omega
    · rw [if_neg hp]
      omega

omit [DecidableEq κ] in
/-- One of the kinds that satisfied the test no longer does. -/
theorem countP_add_one_le {p q : κ → Bool} {k : κ} (h : ∀ j, p j = true → q j = true)
    (hp : p k = false) (hq : q k = true) {ks : List κ} (hk : k ∈ ks) :
    ks.countP p + 1 ≤ ks.countP q := by
  induction ks with
  | nil => cases hk
  | cons j ks ih =>
    rw [List.countP_cons,List.countP_cons]
    rcases List.mem_cons.mp hk with rfl | hk
    · have hrest := countP_le_of_imp h ks
      rw [if_pos hq,if_neg (by simp [hp])]
      omega
    · have hrest := ih hk
      by_cases hj : p j = true
      · simp only [hj, h j hj, if_true]
        omega
      · rw [if_neg hj]
        omega

section
variable {kinds ahead : List κ}

theorem waiting_ask (hn : ahead.Nodup) (k : κ) (d : Desk κ) :
    (d.set k true).waiting ahead ≤ d.waiting ahead + adds ahead (.ask k) := by
  have hcount : ahead.count k = adds ahead (.ask k) := by
    rw [adds]
    split_ifs with hk
    · exact List.count_eq_one_of_mem hn hk
    · exact List.count_eq_zero_of_not_mem hk
  rw [← hcount]
  refine countP_le_add_count ?_ ahead
  intro j hj
  obtain ⟨hasked,hhand⟩ := waits_iff.mp hj
  by_cases hjk : j = k
  · exact .inr hjk
  · exact .inl (waits_iff.mpr ⟨by simpa [set, hjk] using hasked,hhand⟩)

/-- What is not asked for does not wait, and the others wait if they did. -/
theorem waits_of_unset {d d' : Desk κ} {k : κ} (hd : d'.asked = (d.set k false).asked)
    (hhand : ∀ j, j ≠ k → d.inHand = some j → d'.inHand = some j) {j : κ} (hj : d'.waits j = true) :
    d.waits j = true := by
  obtain ⟨hasked,hnot⟩ := waits_iff.mp hj
  rw [hd] at hasked
  by_cases hjk : j = k
  · simp [set, hjk] at hasked
  · exact waits_iff.mpr ⟨by simpa [set, hjk] using hasked,fun h => hnot (hhand j hjk h)⟩

theorem waiting_settle (k : κ) (d : Desk κ) : (d.set k false).waiting ahead ≤ d.waiting ahead :=
  countP_le_of_imp (fun _ hj => waits_of_unset rfl (fun _ _ h => h) hj) ahead

theorem waiting_finish (k : κ) (d : Desk κ) :
    (d.apply kinds (.finish k)).waiting ahead ≤ d.waiting ahead := by
  have hhand : ∀ j, j ≠ k → d.inHand = some j →
      (d.apply kinds (.finish k)).inHand = some j := by
    intro j hjk h
    have hne : d.inHand ≠ some k := by simpa [h] using hjk
    rw [apply,if_neg hne,h]
  have hasked : (d.apply kinds (.finish k)).asked = (d.set k false).asked := rfl
  exact countP_le_of_imp (fun _ hj => waits_of_unset hasked hhand hj) ahead

theorem waiting_drop (hn : ahead.Nodup) (d : Desk κ) :
    (⟨d.asked,none⟩ : Desk κ).waiting ahead ≤ d.waiting ahead + 1 := by
  cases hd : d.inHand with
  | none =>
    obtain ⟨asked,inHand⟩ := d
    obtain rfl := hd
    exact Nat.le_succ _
  | some k =>
    have hcount : ahead.count k ≤ 1 := List.nodup_iff_count_le_one.mp hn k
    have hle : (⟨d.asked,none⟩ : Desk κ).waiting ahead ≤ d.waiting ahead + ahead.count k := by
      refine countP_le_add_count ?_ ahead
      intro j hj
      by_cases hjk : j = k
      · exact .inr hjk
      · exact .inl (waits_iff.mpr ⟨(waits_iff.mp hj).1,by simpa [hd] using Ne.symm hjk⟩)
    omega

omit [DecidableEq κ] in
/-- The first that is asked for is among those ahead, if any of them is. -/
theorem find?_of_ahead {rest : List κ} (h : kinds = ahead ++ rest) {p : κ → Bool}
    (ha : ahead.any p = true) : ∃ k ∈ ahead, p k = true ∧ kinds.find? p = some k := by
  obtain ⟨k,hk⟩ := Option.isSome_iff_exists.mp (List.find?_isSome.mpr (List.any_eq_true.mp ha))
  refine ⟨k,List.mem_of_find?_eq_some hk,List.find?_some hk,?_⟩
  rw [h,List.find?_append,hk]
  rfl

theorem waiting_take {rest : List κ} (h : kinds = ahead ++ rest) (d : Desk κ) :
    d.takes ahead .take + (d.apply kinds .take).waiting ahead ≤ d.waiting ahead := by
  have hle : (d.apply kinds .take).waiting ahead ≤ d.waiting ahead := by
    refine countP_le_of_imp ?_ ahead
    intro j hj
    obtain ⟨hasked,hnot⟩ := waits_iff.mp hj
    refine waits_iff.mpr ⟨hasked,fun hd => hnot ?_⟩
    rw [apply,hd]
    rfl
  rw [takes]
  split_ifs with ht
  · obtain ⟨hd,ha⟩ := ht
    obtain ⟨k,hk,hp,hfind⟩ := find?_of_ahead h ha
    have hone : (d.apply kinds .take).waiting ahead + 1 ≤ d.waiting ahead := by
      refine countP_add_one_le (k := k) ?_ ?_ ?_ hk
      · intro j hj
        exact waits_iff.mpr ⟨(waits_iff.mp hj).1,by simp [hd]⟩
      · simp [waits, apply, hd, hfind]
      · simp [waits, hd, hp]
    omega
  · omega

/-- Each taking is paid by one that waited, was asked for later or was put aside. -/
theorem takes_add_waiting_le (hn : kinds.Nodup) {rest : List κ} (h : kinds = ahead ++ rest)
    (d : Desk κ) (op : Op κ) :
    d.takes ahead op + (d.apply kinds op).waiting ahead ≤ d.waiting ahead + adds ahead op := by
  have hahead : ahead.Nodup := by
    rw [h] at hn
    exact hn.of_append_left
  cases op with
  | idle => exact Nat.le_of_eq (Nat.zero_add _)
  | ask k => exact Nat.le_trans (Nat.le_of_eq (Nat.zero_add _)) (waiting_ask hahead k d)
  | settle k => exact Nat.le_trans (Nat.le_of_eq (Nat.zero_add _)) (waiting_settle k d)
  | finish k => exact Nat.le_trans (Nat.le_of_eq (Nat.zero_add _)) (waiting_finish k d)
  | drop => exact Nat.le_trans (Nat.le_of_eq (Nat.zero_add _)) (waiting_drop hahead d)
  | take => exact waiting_take h d

end

omit [DecidableEq κ] in
/-- A fold that does something only for the first element that passes a test. -/
theorem foldl_find? {σ : Type*} {step : σ → κ → σ} {I : σ → Prop} {p : κ → Bool} {kinds : List κ}
    (hskip : ∀ k ∈ kinds, ∀ s, I s → p k = false → step s k = s)
    (hstop : ∀ k ∈ kinds, ∀ s j, I s → p k = true → step (step s k) j = step s k) {s : σ}
    (hs : I s) : kinds.foldl step s = (kinds.find? p).elim s (step s) := by
  induction kinds with
  | nil => rfl
  | cons k kinds ih =>
    obtain ⟨hskip₁,hskip⟩ := List.forall_mem_cons.mp hskip
    obtain ⟨hstop₁,hstop⟩ := List.forall_mem_cons.mp hstop
    rw [List.foldl_cons]
    cases hk : p k with
    | false => rw [hskip₁ s hs hk,ih hskip hstop,List.find?_cons_of_neg (by simp [hk])]
    | true =>
      rw [List.find?_cons_of_pos hk]
      exact List.foldlRecOn (motive := fun s' => s' = step s k) kinds step rfl fun s' hs' j _ => by
        rw [hs',hstop₁ s j hs hk]

end Desk
end RoqBinance.Library
