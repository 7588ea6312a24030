import Mathlib.Data.Nat.Notation
import Mathlib.Tactic.SplitIfs
import Mathlib.Tactic.TypeStar

/-! JSON values, records that are filled from the top-level keys of an object, and enumerations
that are read from their names. -/
namespace RoqBinance.Library

inductive Json
  | null
  | bool (value : Bool)
  | number (text : String)
  | string (text : String)
  | array (items : List Json)
  | object (fields : List (String × Json))

namespace Json

abbrev Object := List (String × Json)

/-- The first value under a key. -/
def first (key : String) : Object → Option Json
  | [] => none
  | (k,v)::fields => if k = key then some v else first key fields

/-- Keys of other names may be left out. -/
theorem first_filter {key : String} {q : String → Bool} (hq : q key = true) (fields : Object) :
    first key (fields.filter fun x => q x.1) = first key fields := by
  induction fields with
  | nil => rfl
  | cons x fields ih =>
    obtain ⟨k,v⟩ := x
    by_cases hk : k = key
    · subst hk
      simp [hq, first]
    · cases hpos : q k with
      | true => simp [hpos, first, hk, ih]
      | false => simp [hpos, first, hk, ih]

end Json

/-- A parser of an enumeration reads each of `names` as its value, and any other text as one of
`others`. -/
structure Enumeration {E : Type*} (names : List (String × E)) (others : List E) where
  ofText : String → E
  named : ∀ x ∈ names, ofText x.1 = x.2
  other : ∀ text, (∀ x ∈ names, x.1 ≠ text) → ofText text ∈ others

/-- The parser that tells the empty text from one that is not known. -/
def Enumeration.ofNames {E : Type*} (names : List (String × E)) (undefined unknown : E)
    (h : ∀ x ∈ names, x.1 ≠ "" ∧ names.lookup x.1 = some x.2) :
    Enumeration names [undefined,unknown] where
  ofText text := if text = "" then undefined else (names.lookup text).getD unknown
  named x hx := by
    obtain ⟨hne,hlookup⟩ := h x hx
    rw [if_neg hne,hlookup,Option.getD_some]
  other text htext := by
    have hnone : names.lookup text = none := by
      rw [List.lookup_eq_none_iff]
      intro x hx
      simpa using (htext x hx).symm
    split_ifs
    · exact List.mem_cons_self
    · rw [hnone]
      exact List.mem_cons_of_mem _ List.mem_cons_self

/-- A member is filled from the key of its name, by a value of its type. -/
structure Member (τ : Type*) where
  key : String
  name : String
  type : τ

/-- How the values of each type are read, and what a member holds without a key. A value
that cannot be read throws. -/
structure Codec (τ V : Type*) where
  default : τ → V
  get : τ → Json → Option V

namespace Codec
variable {τ V : Type*} (c : Codec τ V)

/-- Later keys of the same name overwrite earlier ones. -/
def fillFrom (m : Member τ) : V → Json.Object → Option V
  | v, [] => some v
  | v, (k,j)::fields =>
    if k = m.key then (c.get m.type j).bind fun w => fillFrom m w fields else fillFrom m v fields

def fill (m : Member τ) (fields : Json.Object) : Option V := c.fillFrom m (c.default m.type) fields

/-- A dictionary: every member in turn; unknown keys are ignored. -/
def parse (fields : Json.Object) : List (Member τ) → Option (List V)
  | [] => some []
  | m::ms => (c.fill m fields).bind fun v => (parse fields ms).map (v::·)

def defaults (ms : List (Member τ)) : List V := ms.map fun m => c.default m.type

/-- A dictionary as the value of a member. -/
def nested (ms : List (Member τ)) : Codec Unit (List V) where
  default _ := c.defaults ms
  get
    | _, .object fields => c.parse fields ms
    | _, _ => none

theorem fillFrom_absent (m : Member τ) (v : V) {fields : Json.Object}
    (h : ∀ x ∈ fields, x.1 ≠ m.key) : c.fillFrom m v fields = some v := by
  induction fields with
  | nil => rfl
  | cons x fields ih =>
    obtain ⟨k,j⟩ := x
    have hk : k ≠ m.key := h (k,j) List.mem_cons_self
    rw [fillFrom, if_neg hk]
    exact ih fun x hx => h x (List.mem_cons_of_mem _ hx)

theorem fill_absent (m : Member τ) {fields : Json.Object} (h : ∀ x ∈ fields, x.1 ≠ m.key) :
    c.fill m fields = some (c.default m.type) := c.fillFrom_absent m _ h

/-- A member keeps its value or takes one that is under its key. -/
theorem fillFrom_cases (m : Member τ) {v w : V} {fields : Json.Object}
    (h : c.fillFrom m v fields = some w) :
    w = v ∨ ∃ j, (m.key,j) ∈ fields ∧ c.get m.type j = some w := by
  induction fields generalizing v with
  | nil => exact .inl (Option.some.inj h).symm
  | cons x fields ih =>
    obtain ⟨k,j⟩ := x
    rw [fillFrom] at h
    split at h
    · next hk =>
      obtain ⟨u,hu,hw⟩ := Option.bind_eq_some_iff.mp h
      rcases ih hw with rfl | ⟨i,hi,hget⟩
      · exact .inr ⟨j,by rw [← hk]; exact List.mem_cons_self,hu⟩
      · exact .inr ⟨i,List.mem_cons_of_mem _ hi,hget⟩
    · rcases ih h with rfl | ⟨i,hi,hget⟩
      · exact .inl rfl
      · exact .inr ⟨i,List.mem_cons_of_mem _ hi,hget⟩

theorem fillFrom_present (m : Member τ) {v w : V} {fields : Json.Object}
    (hkey : ∃ x ∈ fields, x.1 = m.key) (h : c.fillFrom m v fields = some w) :
    ∃ j, (m.key,j) ∈ fields ∧ c.get m.type j = some w := by
  induction fields with
  | nil => simp at hkey
  | cons x fields ih =>
    obtain ⟨k,j⟩ := x
    rw [fillFrom] at h
    split at h
    · next hk =>
      obtain ⟨u,hu,hw⟩ := Option.bind_eq_some_iff.mp h
      rcases c.fillFrom_cases m hw with rfl | ⟨i,hi,hget⟩
      · exact ⟨j,by rw [← hk]; exact List.mem_cons_self,hu⟩
      · exact ⟨i,List.mem_cons_of_mem _ hi,hget⟩
    · next hk =>
      obtain ⟨y,hy,hykey⟩ := hkey
      have hy' : y ∈ fields := by
        rcases List.mem_cons.mp hy with rfl | hy
        · exact absurd hykey hk
        · exact hy
      obtain ⟨i,hi,hget⟩ := ih ⟨y,hy',hykey⟩ h
      exact ⟨i,List.mem_cons_of_mem _ hi,hget⟩

/-- A dictionary decodes to its defaults only if each of its members does. -/
theorem fill_head_of_parse {m : Member τ} {ms : List (Member τ)} {fields : Json.Object}
    (h : c.parse fields (m::ms) = some (c.defaults (m::ms))) :
    c.fill m fields = some (c.default m.type) := by
  obtain ⟨v,hv,hrest⟩ := Option.bind_eq_some_iff.mp h
  obtain ⟨vs,-,hvs⟩ := Option.map_eq_some_iff.mp hrest
  have hv' : v = c.default m.type := (List.cons.inj hvs).1
  rw [hv, hv']

/-- Other keys play no part in a member. -/
theorem fillFrom_filter (m : Member τ) (v : V) (fields : Json.Object) :
    c.fillFrom m v (fields.filter fun x => x.1 = m.key) = c.fillFrom m v fields := by
  induction fields generalizing v with
  | nil => rfl
  | cons x fields ih =>
    obtain ⟨k,j⟩ := x
    by_cases hk : k = m.key
    · rw [List.filter_cons_of_pos (by simpa using hk),fillFrom,fillFrom,if_pos hk,if_pos hk]
      exact congrArg _ (funext fun w => ih w)
    · rw [List.filter_cons_of_neg (by simpa using hk),fillFrom,if_neg hk,ih v]

/-- A key that is there once at most is the same in any order of the keys. -/
theorem fill_perm (m : Member τ) {fields fields' : Json.Object} (hp : fields.Perm fields')
    (h : (fields'.filter fun x => x.1 = m.key).length ≤ 1) : c.fill m fields = c.fill m fields' := by
  have hfilter := hp.filter fun x => x.1 = m.key
  have heq : (fields.filter fun x => x.1 = m.key) = fields'.filter fun x => x.1 = m.key := by
    cases hf : fields'.filter fun x => x.1 = m.key with
    | nil => exact List.perm_nil.mp (hf ▸ hfilter)
    | cons x xs =>
      rw [hf,List.length_cons] at h
      obtain rfl : xs = [] := List.eq_nil_of_length_eq_zero (by omega)
      exact List.perm_singleton.mp (hf ▸ hfilter)
  rw [fill,fill,← c.fillFrom_filter m _ fields,heq,c.fillFrom_filter]

theorem parse_perm {ms : List (Member τ)} {fields fields' : Json.Object} (hp : fields.Perm fields')
    (h : ∀ m ∈ ms, (fields'.filter fun x => x.1 = m.key).length ≤ 1) :
    c.parse fields ms = c.parse fields' ms := by
  induction ms with
  | nil => rfl
  | cons m ms ih =>
    have hrest := ih fun m' hm' => h m' (List.mem_cons_of_mem m hm')
    rw [parse,parse,c.fill_perm m hp (h m List.mem_cons_self),hrest]

end Codec
end RoqBinance.Library
