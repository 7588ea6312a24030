import Mathlib.Algebra.FreeMonoid.Basic
import RoqBinance.Library.Machine

/-! What a machine takes in, gives back and holds, each measured in a monoid. The monoid need
not be commutative: with lists under concatenation, what is held is a queue. -/
namespace RoqBinance.Library.Machine
variable {σ ε A : Type*} [AddMonoid A] (M : Machine σ ε)

/-- The sum of `f` over the steps that are taken along the events. -/
def total (f : σ → ε → A) (s : σ) : List ε → A
  | [] => 0
  | e::es =>
    match M.next s e with
    | none => 0
    | some s' => f s e + total f s' es

@[simp] theorem total_nil (f : σ → ε → A) (s : σ) : M.total f s [] = 0 := rfl

theorem total_cons {s s' : σ} {e : ε} (h : M.next s e = some s') (f : σ → ε → A) (es : List ε) :
    M.total f s (e::es) = f s e + M.total f s' es := by
  rw [total,h]

/-- Where each event of a kind counts for `k`. -/
theorem total_countP {M : Machine σ ε} (p : ε → Bool) (k : ℕ) {s t : σ} {es : List ε}
    (hr : M.run s es = some t) :
    M.total (fun _ e => if p e then k else 0) s es = k * es.countP p := by
  induction es generalizing s with
  | nil => rfl
  | cons e es ih =>
    obtain ⟨s',hn,hr⟩ := M.run_cons_eq_some.mp hr
    rw [M.total_cons hn,ih hr,List.countP_cons]
    split_ifs
    · rw [Nat.mul_add_one,Nat.add_comm]
    · rw [Nat.zero_add,Nat.add_zero]

/-- Under the invariant, what is held before a step and taken in by it is given back by it or
held after it. -/
def Conserves (I : σ → Prop) (held : σ → A) (taken given : σ → ε → A) : Prop :=
  ∀ s e s', I s → M.next s e = some s' → held s + taken s e = given s e + held s'

variable {M} {I : σ → Prop} {held : σ → A} {taken given : σ → ε → A}

/-- So over a whole run nothing is lost and nothing is given back twice. -/
theorem Conserves.run (h : M.Conserves I held taken given) (hp : M.Preserves I) {s t : σ}
    {es : List ε} (hs : I s) (hr : M.run s es = some t) :
    held s + M.total taken s es = M.total given s es + held t := by
  induction es generalizing s with
  | nil => cases hr; simp
  | cons e es ih =>
    obtain ⟨s',hn,hr⟩ := M.run_cons_eq_some.mp hr
    rw [M.total_cons hn,M.total_cons hn]
    calc held s + (taken s e + M.total taken s' es)
        = (held s + taken s e) + M.total taken s' es := (add_assoc _ _ _).symm
      _ = (given s e + held s') + M.total taken s' es := by rw [h s e s' hs hn]
      _ = given s e + (held s' + M.total taken s' es) := add_assoc _ _ _
      _ = given s e + (M.total given s' es + held t) := by rw [ih (hp s e s' hs hn) hr]
      _ = given s e + M.total given s' es + held t := (add_assoc _ _ _).symm

/-- Under the invariant, the work of a step is paid from the potential or from its credit. -/
def Amortizes (M : Machine σ ε) (I : σ → Prop) (potential : σ → ℕ) (work credit : σ → ε → ℕ) :
    Prop :=
  ∀ s e s', I s → M.next s e = some s' → work s e + potential s' ≤ potential s + credit s e

/-- So the work of a whole run is at most the potential at its start and all the credit. -/
theorem Amortizes.run {potential : σ → ℕ} {work credit : σ → ε → ℕ}
    (h : M.Amortizes I potential work credit) (hp : M.Preserves I) {s t : σ} {es : List ε}
    (hs : I s) (hr : M.run s es = some t) :
    M.total work s es + potential t ≤ potential s + M.total credit s es := by
  induction es generalizing s with
  | nil => cases hr; simp
  | cons e es ih =>
    obtain ⟨s',hn,hr⟩ := M.run_cons_eq_some.mp hr
    have hstep := h s e s' hs hn
    have hrest := ih (hp s e s' hs hn) hr
    rw [M.total_cons hn,M.total_cons hn]
    omega

variable {α : Type*} (M)

/-- What `f` reads off the steps, in their order. -/
def trace (f : σ → ε → List α) (s : σ) (es : List ε) : List α :=
  (M.total (fun s e => FreeAddMonoid.ofList (f s e)) s es).toList

variable {M}

/-- What is put in at the end of a queue and taken out at its front comes out in its order,
and what has not come out is in the queue. -/
theorem queue_run {queue : σ → List α} {put taken : σ → ε → List α} (hp : M.Preserves I)
    (h : ∀ s e s', I s → M.next s e = some s' → queue s ++ put s e = taken s e ++ queue s')
    {s t : σ} {es : List ε} (hs : I s) (hr : M.run s es = some t) :
    queue s ++ M.trace put s es = M.trace taken s es ++ queue t := by
  have hc : M.Conserves I (fun s => FreeAddMonoid.ofList (queue s))
      (fun s e => FreeAddMonoid.ofList (put s e)) fun s e => FreeAddMonoid.ofList (taken s e) := h
  exact congrArg FreeAddMonoid.toList (hc.run hp hs hr)

end RoqBinance.Library.Machine
