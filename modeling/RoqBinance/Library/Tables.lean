import Mathlib.Data.List.Nodup

/-! Tables that are filled step by step, where a step may fail and so end all of it. -/
namespace RoqBinance.Library

section
variable {κ ν σ : Type*} [BEq κ] [LawfulBEq κ]

def tryEmplace (key : κ) (value : ν) (table : List (κ × ν)) : List (κ × ν) :=
  if (table.lookup key).isSome then table else table ++ [(key,value)]

theorem lookup_tryEmplace (key : κ) (value : ν) (table : List (κ × ν)) (k : κ) :
    (tryEmplace key value table).lookup k =
      (table.lookup k).or (if k == key then some value else none) := by
  unfold tryEmplace
  by_cases hk : k = key
  · subst hk
    cases ht : table.lookup k with
    | none => simp [List.lookup_append, ht]
    | some w => simp [ht]
  · have hbeq : (k == key) = false := beq_eq_false_iff_ne.mpr hk
    split
    · simp [hbeq]
    · simp [List.lookup_append, List.lookup_cons, hbeq]

omit [LawfulBEq κ] in
theorem mem_tryEmplace {key : κ} {value : ν} {table : List (κ × ν)} {entry : κ × ν}
    (h : entry ∈ tryEmplace key value table) : entry ∈ table ∨ entry = (key,value) := by
  unfold tryEmplace at h
  split at h
  · exact .inl h
  · rcases List.mem_append.mp h with h | h
    · exact .inl h
    · exact .inr (List.mem_singleton.mp h)

theorem mem_keys_iff {key : κ} {table : List (κ × ν)} :
    key ∈ table.map Prod.fst ↔ (table.lookup key).isSome = true := by
  constructor
  · intro h
    obtain ⟨entry,hmem,rfl⟩ := List.mem_map.mp h
    by_contra hnone
    have hlookup := List.lookup_eq_none_iff.mp (Option.not_isSome_iff_eq_none.mp hnone) entry hmem
    simp at hlookup
  · intro h
    obtain ⟨value,hlookup⟩ := Option.isSome_iff_exists.mp h
    obtain ⟨l1,l2,rfl,-⟩ := List.lookup_eq_some_iff.mp hlookup
    simp

theorem keys_tryEmplace {key : κ} {value : ν} {table : List (κ × ν)}
    (h : (table.map Prod.fst).Nodup) : ((tryEmplace key value table).map Prod.fst).Nodup := by
  unfold tryEmplace
  split
  · exact h
  · next hnone =>
    rw [List.map_append,List.map_singleton]
    refine h.append (List.nodup_singleton key) ?_
    intro k hk hkey
    obtain rfl := List.mem_singleton.mp hkey
    exact hnone (mem_keys_iff.mp hk)

theorem lookup_of_mem {table : List (κ × ν)} (h : (table.map Prod.fst).Nodup) {entry : κ × ν}
    (hmem : entry ∈ table) : table.lookup entry.1 = some entry.2 := by
  induction table with
  | nil => cases hmem
  | cons head table ih =>
    obtain ⟨hnot,hnodup⟩ := List.nodup_cons.mp h
    rcases List.mem_cons.mp hmem with rfl | hmem
    · exact List.lookup_cons_self
    · have hne : entry.1 ≠ head.1 := fun he => hnot (List.mem_map.mpr ⟨entry,hmem,he⟩)
      rw [List.lookup_cons,beq_eq_false_iff_ne.mpr hne]
      exact ih hnodup hmem

/-- Of the steps that may give a key its value, the first one does. -/
theorem foldl_or {γ : Type*} (f : σ → Option γ) (found : Option γ) (xs : List σ) :
    xs.foldl (fun found x => found.or (f x)) found = found.or (xs.findSome? f) := by
  induction xs generalizing found with
  | nil => simp
  | cons x xs ih =>
    rw [List.foldl_cons,ih,Option.or_assoc,List.findSome?_cons]
    cases f x <;> rfl

omit [LawfulBEq κ] in
theorem findSome?_key {γ : Type*} (f : ν → γ) (key : κ) (table : List (κ × ν)) :
    (table.findSome? fun entry => if key == entry.1 then some (f entry.2) else none) =
      (table.lookup key).map f := by
  induction table with
  | nil => rfl
  | cons entry table ih =>
    obtain ⟨k,v⟩ := entry
    rw [List.findSome?_cons,List.lookup_cons]
    cases key == k with
    | false => exact ih
    | true => rfl

/-- Of entries with different keys, the one under `key` sets the value. -/
theorem foldl_set {γ : Type*} {key : κ} (parse : ν → γ) (value : γ) {entries : List (κ × ν)}
    (h : (entries.map Prod.fst).Nodup) :
    entries.foldl (fun value entry => if entry.1 == key then parse entry.2 else value) value =
      ((entries.lookup key).map parse).getD value := by
  induction entries generalizing value with
  | nil => rfl
  | cons entry entries ih =>
    obtain ⟨k,v⟩ := entry
    obtain ⟨hnot,hnodup⟩ := List.nodup_cons.mp h
    rw [List.foldl_cons,ih _ hnodup]
    by_cases hk : k = key
    · subst hk
      have hnone : entries.lookup k = none := by
        rw [List.lookup_eq_none_iff]
        intro entry hentry
        apply bne_iff_ne.mpr
        rintro rfl
        exact hnot (List.mem_map.mpr ⟨entry,hentry,rfl⟩)
      simp [hnone]
    · have hbeq : (k == key) = false := beq_eq_false_iff_ne.mpr hk
      have hbeq' : (key == k) = false := beq_eq_false_iff_ne.mpr (Ne.symm hk)
      simp [List.lookup_cons, hbeq, hbeq']

end

section
variable {ε σ τ γ : Type*} {step : τ → σ → Except ε τ}

/-- A part of the state that every step changes in its own way. -/
theorem foldlM_view (get : τ → γ) (update : γ → σ → γ) {xs : List σ}
    (h : ∀ x ∈ xs, ∀ {t t'}, step t x = .ok t' → get t' = update (get t) x) {t t' : τ}
    (he : xs.foldlM step t = .ok t') : get t' = xs.foldl update (get t) := by
  induction xs generalizing t with
  | nil => cases he; rfl
  | cons x xs ih =>
    rw [List.foldlM_cons] at he
    cases hx : step t x with
    | error e => rw [hx] at he; cases he
    | ok u =>
      rw [hx] at he
      rw [List.foldl_cons,← h x List.mem_cons_self hx]
      exact ih (fun y hy => h y (List.mem_cons_of_mem _ hy)) he

theorem foldlM_keeps {I : τ → Prop} {xs : List σ}
    (h : ∀ x ∈ xs, ∀ {t t'}, step t x = .ok t' → I t → I t') {t t' : τ}
    (he : xs.foldlM step t = .ok t') (hI : I t) : I t' := by
  induction xs generalizing t with
  | nil => cases he; exact hI
  | cons x xs ih =>
    rw [List.foldlM_cons] at he
    cases hx : step t x with
    | error e => rw [hx] at he; cases he
    | ok u =>
      rw [hx] at he
      exact ih (fun y hy => h y (List.mem_cons_of_mem _ hy)) he (h x List.mem_cons_self hx hI)

/-- Where the step decides by itself whether it fails, all of it succeeds if every step does. -/
theorem foldlM_isOk_iff {ok : σ → Prop} {xs : List σ}
    (h : ∀ x ∈ xs, ∀ t, (∃ t', step t x = .ok t') ↔ ok x) (t : τ) :
    (∃ t', xs.foldlM step t = .ok t') ↔ ∀ x ∈ xs, ok x := by
  induction xs generalizing t with
  | nil => exact ⟨fun _ => by simp,fun _ => ⟨t,rfl⟩⟩
  | cons x xs ih =>
    have ih := ih fun y hy => h y (List.mem_cons_of_mem _ hy)
    rw [List.forall_mem_cons,← h x List.mem_cons_self t,List.foldlM_cons]
    cases hx : step t x with
    | error e =>
      constructor
      · rintro ⟨t',he⟩; cases he
      · rintro ⟨⟨t',he⟩,-⟩; cases he
    | ok u =>
      constructor
      · intro he; exact ⟨⟨u,rfl⟩,(ih u).mp he⟩
      · rintro ⟨-,hrest⟩; exact (ih u).mpr hrest

end

end RoqBinance.Library
