import Mathlib.Data.Nat.Notation
import Mathlib.Tactic.SplitIfs
import Mathlib.Tactic.TypeStar

/-! A sequencer that takes its owner through a list of download states. Entering a state
calls the owner's handler, which returns how many replies the state must wait for. -/
namespace RoqBinance.Library

/-- `waiting x n rest` leaves `x` for the states `rest` after `n+1` further checks. -/
inductive Download (α : Type*)
  | idle
  | waiting (state : α) (more : ℕ) (rest : List α)
  | done (state : α)
  deriving DecidableEq, Repr

namespace Download
variable {α S : Type*}

def state : Download α → Option α
  | .idle => none
  | .waiting x _ _ => some x
  | .done x => some x

def downloading : Download α → Bool
  | .waiting _ _ _ => true
  | _ => false

/-- The state whose replies are outstanding. -/
def awaited : Download α → Option α
  | .waiting x _ _ => some x
  | _ => none

@[simp] theorem downloading_idle : (idle : Download α).downloading = false := rfl
@[simp] theorem downloading_waiting (x : α) (n : ℕ) (xs : List α) :
    (waiting x n xs).downloading = true := rfl
@[simp] theorem downloading_done (x : α) : (done x).downloading = false := rfl

theorem downloading_of_awaited {d : Download α} {x : α} (h : d.awaited = some x) :
    d.downloading = true := by
  cases d with
  | waiting => rfl
  | idle => cases h
  | done => cases h

/-- Enter the states in order and stop at the first one whose handler asks for replies. -/
def enter (f : α → S → S × ℕ) : List α → Download α → S → Download α × S
  | [], d, s => (d,s)
  | x::xs, _, s =>
    match f x s with
    | (s',0) => enter f xs (.done x) s'
    | (s',n+1) => (.waiting x n xs,s')

def begin (f : α → S → S × ℕ) (order : List α) (s : S) : Download α × S :=
  enter f order .idle s

/-- Re-enter the current state, as after a reconnect in the middle of a download. -/
def bump (f : α → S → S × ℕ) (d : Download α) (s : S) : Download α × S :=
  match d with
  | .waiting x _ xs => enter f (x::xs) d s
  | _ => (d,s)

variable [DecidableEq α]

/-- One reply for the state `x`; a reply for another state is ignored. -/
def check (f : α → S → S × ℕ) (x : α) (d : Download α) (s : S) : Download α × S :=
  match d with
  | .waiting y 0 xs => if x = y then enter f xs (.done y) s else (d,s)
  | .waiting y (n+1) xs => if x = y then (.waiting y n xs,s) else (d,s)
  | _ => (d,s)

/-- Ask for the state `x` again. Whether the sequencer acts at once is left to `now`. -/
def retry (f : α → S → S × ℕ) (order : List α) (now : Bool) (x : α) (d : Download α) (s : S) :
    Download α × S :=
  if now && d.downloading then enter f (order.dropWhile (· ≠ x)) d s else (d,s)

/-- A relation `R` between sequencer and owner that the handler sets up at each state it
enters, under a property `P` of the owner that it keeps. -/
structure Rule (f : α → S → S × ℕ) (P : S → Prop) (R : Download α → S → Prop) : Prop where
  owner : ∀ x s, P s → P (f x s).1
  done : ∀ x s, P s → (f x s).2 = 0 → R (.done x) (f x s).1
  waiting : ∀ x s n xs, P s → (f x s).2 = n+1 → R (.waiting x n xs) (f x s).1
  left : ∀ x n xs s, R (.waiting x n xs) s → R (.done x) s
  fewer : ∀ x n xs s, R (.waiting x (n+1) xs) s → R (.waiting x n xs) s

namespace Rule
variable {f : α → S → S × ℕ} {P : S → Prop} {R : Download α → S → Prop}

omit [DecidableEq α] in
theorem enter (h : Rule f P R) (xs : List α) {d : Download α} {s : S} (hs : P s) (hd : R d s) :
    P (enter f xs d s).2 ∧ R (enter f xs d s).1 (enter f xs d s).2 := by
  induction xs generalizing d s with
  | nil => exact ⟨hs,hd⟩
  | cons x xs ih =>
    have h1 := h.owner x s hs
    have h2 := h.done x s hs
    have h3 := h.waiting x s
    rcases hf : f x s with ⟨s',_ | n⟩
    · simp only [hf, forall_const] at h1 h2
      simpa only [Download.enter, hf] using ih h1 h2
    · simp only [hf] at h1 h3
      simpa only [Download.enter, hf] using And.intro h1 (h3 n xs hs rfl)

omit [DecidableEq α] in
theorem bump (h : Rule f P R) {d : Download α} {s : S} (hs : P s) (hd : R d s) :
    P (bump f d s).2 ∧ R (bump f d s).1 (bump f d s).2 := by
  cases d with
  | waiting y n ys => exact h.enter _ hs hd
  | idle => exact ⟨hs,hd⟩
  | done y => exact ⟨hs,hd⟩

theorem check (h : Rule f P R) (x : α) {d : Download α} {s : S} (hs : P s) (hd : R d s) :
    P (check f x d s).2 ∧ R (check f x d s).1 (check f x d s).2 := by
  cases d with
  | idle => exact ⟨hs,hd⟩
  | done y => exact ⟨hs,hd⟩
  | waiting y n ys =>
    by_cases hxy : x = y
    · cases n with
      | zero => simpa [Download.check, hxy] using h.enter ys hs (h.left _ _ _ _ hd)
      | succ n => simpa [Download.check, hxy] using And.intro hs (h.fewer _ _ _ _ hd)
    · cases n <;> simpa [Download.check, hxy] using And.intro hs hd

theorem retry (h : Rule f P R) (order : List α) (now : Bool) (x : α) {d : Download α} {s : S}
    (hs : P s) (hd : R d s) :
    P (retry f order now x d s).2 ∧ R (retry f order now x d s).1 (retry f order now x d s).2 := by
  by_cases hr : (now && d.downloading) = true
  · rw [Download.retry, if_pos hr]; exact h.enter _ hs hd
  · rw [Download.retry, if_neg hr]; exact ⟨hs,hd⟩

end Rule

/-- A property of the owner that the handler keeps, whichever state it enters. -/
def Kept (f : α → S → S × ℕ) (P : S → Prop) : Prop := ∀ x s, P s → P (f x s).1

namespace Kept
variable {f : α → S → S × ℕ} {P : S → Prop}

omit [DecidableEq α] in
theorem rule (h : Kept f P) : Rule f P fun _ _ => True where
  owner := h
  done _ _ _ _ := trivial
  waiting _ _ _ _ _ _ := trivial
  left _ _ _ _ _ := trivial
  fewer _ _ _ _ _ := trivial

omit [DecidableEq α] in
theorem begin (h : Kept f P) (order : List α) {s : S} (hs : P s) : P (begin f order s).2 :=
  (h.rule.enter order hs trivial).1

omit [DecidableEq α] in
theorem bump (h : Kept f P) {d : Download α} {s : S} (hs : P s) : P (bump f d s).2 :=
  (h.rule.bump hs trivial).1

theorem check (h : Kept f P) (x : α) {d : Download α} {s : S} (hs : P s) : P (check f x d s).2 :=
  (h.rule.check x hs trivial).1

theorem retry (h : Kept f P) (order : List α) (now : Bool) (x : α) {d : Download α} {s : S}
    (hs : P s) : P (retry f order now x d s).2 :=
  (h.rule.retry order now x hs trivial).1

end Kept

/-- A download that ends with a state `last`: before it the handler keeps `P` of the owner, and
`last` itself asks for nothing and turns `P` into `Q`. -/
structure Finale (f : α → S → S × ℕ) (last : α) (P Q : S → Prop) : Prop where
  before : ∀ x s, x ≠ last → P s → P (f x s).1
  last : ∀ s, P s → (f last s).2 = 0 ∧ Q (f last s).1

/-- The states end with `last`, which occurs only there. -/
def Closes (last : α) (xs : List α) : Prop := ∃ ys, last ∉ ys ∧ xs = ys ++ [last]

/-- The sequencer waits for a state before the last one. -/
def Pending (last : α) : Download α → Prop
  | .waiting x _ rest => x ≠ last ∧ Closes last rest
  | _ => False

omit [DecidableEq α] in
theorem Pending.downloading {last : α} {d : Download α} (h : Pending last d) :
    d.downloading = true := by
  cases d with
  | waiting x n rest => rfl
  | idle => exact h.elim
  | done x => exact h.elim

/-- It waits, or it has been through the last state. -/
def Passed (last : α) (P Q : S → Prop) (r : Download α × S) : Prop :=
  (Pending last r.1 ∧ P r.2) ∨ (r.1 = .done last ∧ Q r.2)

theorem Closes.dropWhile {last x : α} {xs : List α} (h : Closes last xs) (hx : x ∈ xs) :
    Closes last (xs.dropWhile (· ≠ x)) := by
  obtain ⟨ys,hlast,rfl⟩ := h
  induction ys with
  | nil =>
    obtain rfl : x = last := by simpa using hx
    exact ⟨[],List.not_mem_nil,by simp⟩
  | cons y ys ih =>
    by_cases hy : y = x
    · subst hy
      exact ⟨y::ys,hlast,by simp⟩
    · have hx' : x ∈ ys ++ [last] := by
        rcases List.mem_cons.mp hx with rfl | hx
        · exact absurd rfl hy
        · exact hx
      simpa [List.dropWhile, hy] using ih (fun hm => hlast (List.mem_cons_of_mem _ hm)) hx'

namespace Finale
variable {f : α → S → S × ℕ} {last : α} {P Q : S → Prop}

omit [DecidableEq α] in
theorem enter (h : Finale f last P Q) {xs : List α} (hxs : Closes last xs) {d : Download α} {s : S}
    (hs : P s) : Passed last P Q (enter f xs d s) := by
  obtain ⟨ys,hlast,rfl⟩ := hxs
  induction ys generalizing d s with
  | nil =>
    obtain ⟨h0,hq⟩ := h.last s hs
    rcases hf : f last s with ⟨s',n⟩
    rw [hf] at h0 hq
    obtain rfl : n = 0 := h0
    exact .inr ⟨by simp [Download.enter, hf],by simpa [Download.enter, hf] using hq⟩
  | cons y ys ih =>
    have hy : y ≠ last := fun hy => hlast (hy ▸ List.mem_cons_self)
    have hys : last ∉ ys := fun hm => hlast (List.mem_cons_of_mem _ hm)
    have hp := h.before y s hy hs
    rcases hf : f y s with ⟨s',_ | n⟩
    · rw [hf] at hp
      simpa [Download.enter, hf] using ih hp hys
    · rw [hf] at hp
      exact .inl ⟨by simpa [Download.enter, hf, Pending, hy] using ⟨ys,hys,rfl⟩,
        by simpa [Download.enter, hf] using hp⟩

omit [DecidableEq α] in
theorem begin (h : Finale f last P Q) {order : List α} (ho : Closes last order) {s : S} (hs : P s) :
    Passed last P Q (begin f order s) := h.enter ho hs

omit [DecidableEq α] in
theorem bump (h : Finale f last P Q) {d : Download α} (hd : Pending last d) {s : S} (hs : P s) :
    Passed last P Q (bump f d s) := by
  cases d with
  | waiting x n rest =>
    obtain ⟨hx,ys,hys,rfl⟩ := hd
    have hclose : Closes last (x::(ys ++ [last])) :=
      ⟨x::ys,by simp [hys, Ne.symm hx],rfl⟩
    exact h.enter hclose (d := .waiting x n (ys ++ [last])) hs
  | idle => exact hd.elim
  | done x => exact hd.elim

theorem check (h : Finale f last P Q) (x : α) {d : Download α} (hd : Pending last d) {s : S}
    (hs : P s) : Passed last P Q (check f x d s) := by
  cases d with
  | waiting y n rest =>
    by_cases hxy : x = y
    · cases n with
      | zero => simpa [Download.check, hxy] using h.enter hd.2 (d := .done y) hs
      | succ n =>
        have hd' : Pending last (.waiting y n rest) := hd
        exact .inl ⟨by simpa [Download.check, hxy] using hd',by simpa [Download.check, hxy] using hs⟩
    · cases n with
      | zero => exact .inl ⟨by simpa [Download.check, hxy] using hd,by simpa [Download.check, hxy] using hs⟩
      | succ n => exact .inl ⟨by simpa [Download.check, hxy] using hd,by simpa [Download.check, hxy] using hs⟩
  | idle => exact hd.elim
  | done y => exact hd.elim

theorem retry (h : Finale f last P Q) {order : List α} (ho : Closes last order) (now : Bool) {x : α}
    (hx : x ∈ order) {d : Download α} (hd : Pending last d) {s : S} (hs : P s) :
    Passed last P Q (retry f order now x d s) := by
  unfold Download.retry
  split_ifs
  · exact h.enter (ho.dropWhile hx) hs
  · exact .inl ⟨hd,hs⟩

end Finale

/-- Nothing is done while the sequencer does not wait. -/
theorem check_of_not_downloading (f : α → S → S × ℕ) (x : α) {d : Download α}
    (hd : d.downloading = false) (s : S) : check f x d s = (d,s) := by
  cases d with
  | waiting y n rest => cases hd
  | idle => rfl
  | done y => rfl

theorem retry_of_not_downloading (f : α → S → S × ℕ) (order : List α) (now : Bool) (x : α)
    {d : Download α} (hd : d.downloading = false) (s : S) : retry f order now x d s = (d,s) := by
  simp [retry, hd]

end Download
end RoqBinance.Library
