import Mathlib.Data.Nat.Notation
import Mathlib.Tactic.Tauto
import Mathlib.Tactic.TypeStar

/-! Deterministic event machines, their runs and the invariants of those runs.
An event that cannot occur in a state, or that ends the process, has no successor. -/
namespace RoqBinance.Library

structure Machine (σ ε : Type*) where
  init : σ
  next : σ → ε → Option σ

namespace Machine
variable {σ ε : Type*} (M : Machine σ ε)

/-- The state reached by the events in their order. -/
def run (s : σ) : List ε → Option σ
  | [] => some s
  | e::es => (M.next s e).bind fun s' => run s' es

@[simp] theorem run_nil (s : σ) : M.run s [] = some s := rfl

theorem run_cons_eq_some {s t : σ} {e : ε} {es : List ε} :
    M.run s (e::es) = some t ↔ ∃ s', M.next s e = some s' ∧ M.run s' es = some t := by
  simp [run, Option.bind_eq_some_iff]

def Reachable (s : σ) : Prop := ∃ es, M.run M.init es = some s

/-- A test that passes at the end of a run passes in a reachable state. -/
theorem exists_reachable {p : σ → Bool} {es : List ε} (h : (M.run M.init es).any p = true) :
    ∃ s, M.Reachable s ∧ p s = true := by
  cases hr : M.run M.init es with
  | none => rw [hr] at h; cases h
  | some s => rw [hr] at h; exact ⟨s,⟨es,hr⟩,h⟩

/-- `I` is preserved by every step. -/
def Preserves (I : σ → Prop) : Prop := ∀ s e s', I s → M.next s e = some s' → I s'

variable {M}

theorem Preserves.run {I : σ → Prop} (hp : M.Preserves I) {s t : σ} {es : List ε}
    (hs : I s) (hr : M.run s es = some t) : I t := by
  induction es generalizing s with
  | nil => cases hr; exact hs
  | cons e es ih =>
    obtain ⟨s',hn,ht⟩ := M.run_cons_eq_some.mp hr
    exact ih (hp s e s' hs hn) ht

/-- Where only the events of a kind preserve `I`, a run of such events does. -/
theorem run_of_events {I : σ → Prop} {p : ε → Prop} {es : List ε}
    (hp : ∀ s e s', p e → I s → M.next s e = some s' → I s') (hes : ∀ e ∈ es, p e) {s t : σ}
    (hs : I s) (hr : M.run s es = some t) : I t := by
  induction es generalizing s with
  | nil => cases hr; exact hs
  | cons e es ih =>
    obtain ⟨he,hes⟩ := List.forall_mem_cons.mp hes
    obtain ⟨s',hn,ht⟩ := M.run_cons_eq_some.mp hr
    exact ih hes (hp s e s' he hs hn) ht

theorem Preserves.reachable {I : σ → Prop} (hp : M.Preserves I) (h0 : I M.init) {s : σ}
    (h : M.Reachable s) : I s := by
  obtain ⟨es,hr⟩ := h
  exact hp.run h0 hr

variable (M)

/-- The machine that also keeps what `f` reads off its steps, in their order. -/
def recorded {α : Type*} (f : σ → ε → List α) : Machine (σ × List α) ε where
  init := (M.init,[])
  next p e := (M.next p.1 e).map fun s => (s,p.2 ++ f p.1 e)

/-- The machine with a clock, by which each event is later than the one before. -/
def clocked (time : ε → ℕ) : Machine (σ × ℕ) ε where
  init := (M.init,0)
  next p e := if p.2 < time e then (M.next p.1 e).map fun s => (s,time e) else none

theorem clocked_next_eq_some {time : ε → ℕ} {p p' : σ × ℕ} {e : ε} :
    (M.clocked time).next p e = some p' ↔
      p.2 < time e ∧ M.next p.1 e = some p'.1 ∧ time e = p'.2 := by
  obtain ⟨s',clock'⟩ := p'
  by_cases h : p.2 < time e
  · cases hn : M.next p.1 e with
    | none => simp [clocked, h, hn]
    | some s => simp [clocked, h, hn]
  · simp [clocked, h]

variable {M} in
/-- What has been read is found in the state, when a step brings it there and none takes it away. -/
theorem Preserves.recorded {α : Type*} {f : σ → ε → List α} {g : σ → List α} {I : σ → Prop}
    (hp : M.Preserves I)
    (hstep : ∀ s e s', I s → M.next s e = some s' → g s ⊆ g s' ∧ f s e ⊆ g s') :
    (M.recorded f).Preserves fun p => I p.1 ∧ p.2 ⊆ g p.1 := by
  rintro ⟨s,xs⟩ e p ⟨hI,hxs⟩ hn
  obtain ⟨s',hs',rfl⟩ := Option.map_eq_some_iff.mp hn
  obtain ⟨hkept,hread⟩ := hstep s e s' hI hs'
  exact ⟨hp s e s' hI hs',List.append_subset.mpr ⟨List.Subset.trans hxs hkept,hread⟩⟩

/-- Every step taken along the events satisfies `P`; the steps after an event without
successor are not taken. -/
def Steps (P : σ → ε → σ → Prop) (s : σ) : List ε → Prop
  | [] => True
  | e::es => ∀ s', M.next s e = some s' → P s e s' ∧ Steps P s' es

@[simp] theorem steps_nil (P : σ → ε → σ → Prop) (s : σ) : M.Steps P s [] := trivial

theorem steps_cons {P : σ → ε → σ → Prop} {s s' : σ} {e : ε} {es : List ε}
    (h : M.next s e = some s') : M.Steps P s (e::es) ↔ P s e s' ∧ M.Steps P s' es := by
  constructor
  · intro hs; exact hs s' h
  · intro hs t ht
    obtain rfl : s' = t := Option.some.inj (h.symm.trans ht)
    exact hs

/-- What holds of every step from an invariant holds along every run. -/
theorem steps_of_invariant {I : σ → Prop} {P : σ → ε → σ → Prop}
    (h : ∀ s e s', I s → M.next s e = some s' → I s' ∧ P s e s') {s : σ} (hI : I s) (es : List ε) :
    M.Steps P s es := by
  induction es generalizing s with
  | nil => trivial
  | cons e es ih =>
    intro s' hn
    obtain ⟨hI',hP⟩ := h s e s' hI hn
    exact ⟨hP,ih hI'⟩

/-- The steps after a run are steps along the longer one. -/
theorem Steps.after {M : Machine σ ε} {P : σ → ε → σ → Prop} {s t : σ} {es es' : List ε}
    (hr : M.run s es = some t) (h : M.Steps P s (es ++ es')) : M.Steps P t es' := by
  induction es generalizing s with
  | nil => cases hr; exact h
  | cons e es ih =>
    obtain ⟨s',hn,hr⟩ := M.run_cons_eq_some.mp hr
    exact ih hr ((M.steps_cons hn).mp h).2

theorem steps_and (P Q : σ → ε → σ → Prop) (s : σ) (es : List ε) :
    M.Steps (fun s e s' => P s e s' ∧ Q s e s') s es ↔ M.Steps P s es ∧ M.Steps Q s es := by
  induction es generalizing s with
  | nil => simp
  | cons e es ih =>
    cases hn : M.next s e with
    | none => simp [Steps, hn]
    | some s' => rw [M.steps_cons hn,M.steps_cons hn,M.steps_cons hn,ih s']; tauto

/-- A property of the events only, when every event can occur. -/
theorem steps_iff_forall {C : ε → Prop} (htotal : ∀ s e, (M.next s e).isSome) (s : σ)
    (es : List ε) : M.Steps (fun _ e _ => C e) s es ↔ ∀ e ∈ es, C e := by
  induction es generalizing s with
  | nil => simp
  | cons e es ih =>
    obtain ⟨s',hn⟩ := Option.isSome_iff_exists.mp (htotal s e)
    rw [M.steps_cons hn,ih s',List.forall_mem_cons]

/-- Run the events and test each step that is taken. -/
def test (p : σ → ε → σ → Bool) (s : σ) : List ε → Bool
  | [] => true
  | e::es =>
    match M.next s e with
    | none => true
    | some s' => p s e s' && test p s' es

theorem Steps.test {M : Machine σ ε} {P : σ → ε → σ → Prop} {p : σ → ε → σ → Bool}
    (hp : ∀ s e s', P s e s' → p s e s' = true) {s : σ} {es : List ε} (h : M.Steps P s es) :
    M.test p s es = true := by
  induction es generalizing s with
  | nil => rfl
  | cons e es ih =>
    cases hn : M.next s e with
    | none => simp [Machine.test, hn]
    | some s' =>
      have hs := (M.steps_cons hn).mp h
      simp [Machine.test, hn, hp s e s' hs.1, ih hs.2]

theorem Steps.of_test {M : Machine σ ε} {P : σ → ε → σ → Prop} {p : σ → ε → σ → Bool}
    (hp : ∀ s e s', p s e s' = true → P s e s') {s : σ} {es : List ε} (h : M.test p s es = true) :
    M.Steps P s es := by
  induction es generalizing s with
  | nil => trivial
  | cons e es ih =>
    intro s' hn
    simp only [Machine.test, hn, Bool.and_eq_true] at h
    exact ⟨hp s e s' h.1,ih h.2⟩

variable {M}

/-- Under an invariant, two properties of the steps that agree on each step agree on runs. -/
theorem steps_congr {I : σ → Prop} {P C : σ → ε → σ → Prop} (hp : M.Preserves I)
    {es : List ε} (hstep : ∀ e ∈ es, ∀ s s', I s → M.next s e = some s' → (P s e s' ↔ C s e s'))
    {s : σ} (hI : I s) : M.Steps P s es ↔ M.Steps C s es := by
  induction es generalizing s with
  | nil => simp
  | cons e es ih =>
    cases hn : M.next s e with
    | none => simp [Steps, hn]
    | some s' =>
      rw [M.steps_cons hn, M.steps_cons hn, hstep e List.mem_cons_self s s' hI hn]
      rw [ih (fun f hf => hstep f (List.mem_cons_of_mem _ hf)) (hp s e s' hI hn)]

/-- The same where one of the two is about the state after the step, and the equivalence may
use that this state property held so far. -/
theorem steps_iff_steps {I Q : σ → Prop} {C : σ → ε → σ → Prop} (hp : M.Preserves I)
    {es : List ε} (hstep : ∀ e ∈ es, ∀ s s', I s → Q s → M.next s e = some s' → (Q s' ↔ C s e s'))
    {s : σ} (hI : I s) (hQ : Q s) :
    M.Steps (fun _ _ s' => Q s') s es ↔ M.Steps C s es := by
  induction es generalizing s with
  | nil => simp
  | cons e es ih =>
    cases hn : M.next s e with
    | none => simp [Steps, hn]
    | some s' =>
      rw [M.steps_cons hn, M.steps_cons hn]
      have he := hstep e List.mem_cons_self s s' hI hQ hn
      have hrest : Q s' → (M.Steps (fun _ _ s' => Q s') s' es ↔ M.Steps C s' es) :=
        ih (fun f hf => hstep f (List.mem_cons_of_mem _ hf)) (hp s e s' hI hn)
      constructor
      · rintro ⟨hq,hs⟩; exact ⟨he.mp hq,(hrest hq).mp hs⟩
      · rintro ⟨hc,hs⟩
        have hq := he.mpr hc
        exact ⟨hq,(hrest hq).mpr hs⟩

/-- A state property that holds after every step holds at the end of the run. -/
theorem Steps.last {Q : σ → Prop} {s t : σ} {es : List ε} (hQ : Q s)
    (hs : M.Steps (fun _ _ s' => Q s') s es) (hr : M.run s es = some t) : Q t := by
  induction es generalizing s with
  | nil => cases hr; exact hQ
  | cons e es ih =>
    obtain ⟨s',hn,ht⟩ := M.run_cons_eq_some.mp hr
    have h := (M.steps_cons hn).mp hs
    exact ih h.1 h.2 ht

/-- What the steps preserve that satisfy `P` holds at the end of a run of such steps. -/
theorem Steps.preserves {I : σ → Prop} {P : σ → ε → σ → Prop} {s t : σ} {es : List ε}
    (hp : ∀ s e s', P s e s' → I s → M.next s e = some s' → I s') (hs : M.Steps P s es) (hI : I s)
    (hr : M.run s es = some t) : I t := by
  induction es generalizing s with
  | nil => cases hr; exact hI
  | cons e es ih =>
    obtain ⟨s',hn,ht⟩ := M.run_cons_eq_some.mp hr
    have h := (M.steps_cons hn).mp hs
    exact ih h.2 (hp s e s' h.1 hI hn) ht

end Machine
end RoqBinance.Library
