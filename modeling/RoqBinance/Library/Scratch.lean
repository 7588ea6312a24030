import Mathlib.Logic.Basic
import Mathlib.Tactic.TypeStar

/-! A buffer in which entries are collected, until they are read, while others wipe it. -/
namespace RoqBinance.Library.Scratch

inductive Event (α : Type*)
  | collect (entries : List α)
  | wipe

variable {α : Type*}

namespace Event

def entries : Event α → List α
  | collect entries => entries
  | wipe => []

@[simp] theorem entries_collect (entries : List α) : (collect entries).entries = entries := rfl
@[simp] theorem entries_wipe : (wipe : Event α).entries = [] := rfl

end Event

/-- What the buffer holds after the events. -/
def after (buffer : List α) : List (Event α) → List α
  | [] => buffer
  | .collect entries::es => after (buffer ++ entries) es
  | .wipe::es => after [] es

/-- What it would hold if nobody else used it. -/
def collected (es : List (Event α)) : List α := es.flatMap Event.entries

@[simp] theorem collected_cons (e : Event α) (es : List (Event α)) :
    collected (e::es) = e.entries ++ collected es := rfl

theorem length_after_le (buffer : List α) (es : List (Event α)) :
    (after buffer es).length ≤ buffer.length+(collected es).length := by
  induction es generalizing buffer with
  | nil => simp [after]
  | cons e es ih =>
    cases e with
    | collect entries =>
      have h := ih (buffer ++ entries)
      simp only [after, collected_cons, Event.entries_collect, List.length_append] at h ⊢
      omega
    | wipe =>
      have h := ih []
      simp only [after, collected_cons, Event.entries_wipe, List.nil_append, List.length_nil] at h ⊢
      omega

/-- Nothing is lost if and only if the buffer is never wiped with entries in it. -/
theorem after_eq_iff (buffer : List α) (es : List (Event α)) :
    after buffer es = buffer ++ collected es ↔
      (buffer ≠ [] → .wipe ∉ es) ∧ es.Pairwise fun e e' => e.entries ≠ [] → e' ≠ .wipe := by
  induction es generalizing buffer with
  | nil => simp [after, collected]
  | cons e es ih =>
    rw [List.pairwise_cons]
    cases e with
    | collect entries =>
      have h := ih (buffer ++ entries)
      rw [List.append_assoc] at h
      have hne : (∀ e ∈ es, entries ≠ [] → e ≠ .wipe) ↔ (entries ≠ [] → .wipe ∉ es) := by
        constructor
        · intro h hentries hmem; exact h .wipe hmem hentries rfl
        · rintro h e he hentries rfl; exact h hentries he
      have hmem : Event.wipe ∉ Event.collect entries::es ↔ Event.wipe ∉ es := by simp
      have happ : buffer ++ entries ≠ [] ↔ buffer ≠ [] ∨ entries ≠ [] := by
        rw [ne_eq,List.append_eq_nil_iff,not_and_or]
      rw [after,collected_cons,Event.entries_collect,hne,hmem,h,happ,or_imp,and_assoc]
    | wipe =>
      have h := ih []
      rw [after,collected_cons,Event.entries_wipe,List.nil_append]
      cases buffer with
      | nil => simpa using h
      | cons a buffer =>
        have hlen := length_after_le [] es
        constructor
        · intro heq
          rw [heq,List.length_append,List.length_cons,List.length_nil] at hlen
          omega
        · rintro ⟨hw,-⟩; exact absurd List.mem_cons_self (hw (by simp))

end RoqBinance.Library.Scratch
