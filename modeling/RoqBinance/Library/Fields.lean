import Mathlib.Data.List.Basic
import Mathlib.Data.List.Nodup
import Mathlib.Data.Int.Notation
import Mathlib.Tactic.SplitIfs

/-! Texts that list fields: flat JSON objects, and queries of `key=value` pairs that are
separated by `&`. Each has a writer and a reader that takes back what was written. -/
namespace RoqBinance.Library

abbrev Text := List Char

section
variable {κ ν μ : Type*}

/-- The fields that have a value. -/
def present (fields : List (κ × Option ν)) : List (κ × ν) :=
  fields.filterMap fun field => field.2.map fun value => (field.1,value)

@[simp] theorem present_nil : present ([] : List (κ × Option ν)) = [] := rfl
@[simp] theorem present_none (key : κ) (fields : List (κ × Option ν)) :
    present ((key,none)::fields) = present fields := rfl
@[simp] theorem present_some (key : κ) (value : ν) (fields : List (κ × Option ν)) :
    present ((key,some value)::fields) = (key,value)::present fields := rfl

theorem present_append (fields fields' : List (κ × Option ν)) :
    present (fields ++ fields') = present fields ++ present fields' := List.filterMap_append

theorem keys_present (fields : List (κ × Option ν)) :
    ((present fields).map Prod.fst).Sublist (fields.map Prod.fst) := by
  induction fields with
  | nil => simp
  | cons field fields ih =>
    obtain ⟨key,_ | value⟩ := field
    · exact ih.cons key
    · exact ih.cons_cons key

theorem nodup_present {fields : List (κ × Option ν)} (h : (fields.map Prod.fst).Nodup) :
    ((present fields).map Prod.fst).Nodup := h.sublist (keys_present fields)

theorem mem_present {fields : List (κ × Option ν)} {field : κ × ν} :
    field ∈ present fields ↔ (field.1,some field.2) ∈ fields := by
  simp only [present, List.mem_filterMap, Option.map_eq_some_iff]
  constructor
  · rintro ⟨⟨key,o⟩,hmem,value,rfl,rfl⟩; exact hmem
  · intro h; exact ⟨_,h,field.2,rfl,rfl⟩

/-- What is written for each field, where an absent one writes nothing. -/
theorem flatMap_present (fields : List (κ × Option ν)) (write : κ × ν → List μ) :
    (present fields).flatMap write =
      fields.flatMap fun field => (field.2.map fun value => write (field.1,value)).getD [] := by
  induction fields with
  | nil => rfl
  | cons field fields ih =>
    obtain ⟨key,_ | value⟩ := field
    · simpa using ih
    · simpa using ih

variable [BEq κ] [LawfulBEq κ]

theorem lookup_present {fields : List (κ × Option ν)} (h : (fields.map Prod.fst).Nodup) (key : κ) :
    (present fields).lookup key = (fields.lookup key).join := by
  induction fields with
  | nil => rfl
  | cons field fields ih =>
    obtain ⟨hnot,hnodup⟩ := List.nodup_cons.mp h
    have ih := ih hnodup
    obtain ⟨key',o⟩ := field
    by_cases hkey : key = key'
    · subst hkey
      cases o with
      | some value => simp
      | none =>
        have hnone : (fields.lookup key) = none := by
          rw [List.lookup_eq_none_iff]
          intro field hf
          apply bne_iff_ne.mpr
          rintro rfl
          exact hnot (List.mem_map.mpr ⟨field,hf,rfl⟩)
        simpa [hnone] using ih
    · have hbeq : (key == key') = false := beq_eq_false_iff_ne.mpr hkey
      cases o with
      | none => simpa [List.lookup_cons, hbeq] using ih
      | some value => simpa [List.lookup_cons, hbeq] using ih

/-- A field of another name does not matter. -/
theorem lookup_insert {key key' : κ} (h : key ≠ key') (value : ν) (fields fields' : List (κ × ν)) :
    (fields ++ (key',value)::fields').lookup key = (fields ++ fields').lookup key := by
  induction fields with
  | nil =>
    have hbeq : (key == key') = false := beq_eq_false_iff_ne.mpr h
    simp [List.lookup_cons, hbeq]
  | cons field fields ih =>
    rw [List.cons_append,List.cons_append,List.lookup_cons,List.lookup_cons,ih]

theorem lookup_map {f : κ → ν → μ} (key : κ) (fields : List (κ × ν)) :
    (fields.map fun field => (field.1,f field.1 field.2)).lookup key =
      (fields.lookup key).map (f key) := by
  induction fields with
  | nil => rfl
  | cons field fields ih =>
    obtain ⟨key',value⟩ := field
    by_cases hkey : key = key'
    · subst hkey
      simp
    · have hbeq : (key == key') = false := beq_eq_false_iff_ne.mpr hkey
      simp [List.lookup_cons, hbeq, ih]

end

namespace Numeral

/-- Digits without a leading zero. -/
def natural (digits : Text) : Bool :=
  !digits.isEmpty && digits.all Char.isDigit && (digits == ['0'] || digits.head? != some '0')

def integer : Text → Bool
  | '-'::digits => natural digits
  | digits => natural digits

/-- The characters of an integer. -/
def symbol (c : Char) : Bool := c.isDigit || c == '-'

theorem natural_toDigits (n : ℕ) : natural (Nat.toDigits 10 n) = true := by
  have hdigits : (Nat.toDigits 10 n).all Char.isDigit = true := by
    rw [List.all_eq_true]
    intro c hc
    exact Nat.isDigit_of_mem_toDigits (by omega) (by omega) hc
  have hhead : n = 0 ∨ (Nat.toDigits 10 n).head? ≠ some '0' := by
    induction n using Nat.strongRecOn with
    | ind n ih =>
      by_cases hlt : n < 10
      · have hall : ∀ m : Fin 10, m.val = 0 ∨ [m.val.digitChar].head? ≠ some '0' := by decide
        rw [Nat.toDigits_of_lt_base hlt]
        exact hall ⟨n,hlt⟩
      · right
        have hrec := (ih (n/10) (by omega) (by
          rw [List.all_eq_true]
          intro c hc
          exact Nat.isDigit_of_mem_toDigits (by omega) (by omega) hc)).resolve_left (by omega)
        rw [Nat.toDigits_of_base_le (by omega) (by omega)]
        cases hd : Nat.toDigits 10 (n/10) with
        | nil => exact absurd hd Nat.toDigits_ne_nil
        | cons c cs => rw [hd] at hrec; simpa using hrec
  rcases hhead with rfl | hhead
  · rfl
  · simp [natural, hdigits, hhead, Nat.toDigits_ne_nil]

theorem toList_toString (n : ℤ) :
    (toString n).toList =
      if 0 ≤ n then Nat.toDigits 10 n.toNat else '-'::Nat.toDigits 10 (-n).toNat := by
  rw [Int.toString_eq_repr,Int.repr_eq_if]
  split_ifs <;> simp [Nat.toList_repr]

theorem natural_ne_minus {digits : Text} (h : natural digits = true) :
    digits.head? ≠ some '-' := by
  cases digits with
  | nil => simp
  | cons c cs =>
    simp only [natural, List.all_cons, Bool.and_eq_true] at h
    rintro ⟨⟩
    exact absurd h.1.2.1 (by decide)

theorem integer_natural {digits : Text} (h : natural digits = true) : integer digits = true := by
  unfold integer
  split
  · exact absurd rfl (natural_ne_minus h)
  · exact h

theorem integer_toString (n : ℤ) : integer (toString n).toList = true := by
  rw [toList_toString]
  split_ifs
  · exact integer_natural (natural_toDigits _)
  · exact natural_toDigits _

theorem symbol_of_natural {digits : Text} (h : natural digits = true) :
    ∀ c ∈ digits, symbol c = true := by
  simp only [natural, Bool.and_eq_true, List.all_eq_true] at h
  intro c hc
  simp [symbol, h.1.2 c hc]

theorem symbol_of_integer {text : Text} (h : integer text = true) :
    ∀ c ∈ text, symbol c = true := by
  unfold integer at h
  split at h
  · intro c hc
    rcases List.mem_cons.mp hc with rfl | hc
    · rfl
    · exact symbol_of_natural h c hc
  · exact symbol_of_natural h

end Numeral

namespace Object

inductive Scalar
  | text (value : Text)
  | number (value : Text)
  deriving DecidableEq, Repr

namespace Scalar

def value : Scalar → Text
  | text value => value
  | number value => value

end Scalar

/-- The characters that stand for themselves in a string. -/
def plain (c : Char) : Bool := c != '"' && c != '\\' && decide (32 ≤ c.toNat)

def writeText (value : Text) : Text := '"'::value ++ ['"']

def writeScalar : Scalar → Text
  | .text value => writeText value
  | .number value => value

def writeMember (member : Text × Scalar) : Text :=
  writeText member.1 ++ ':'::writeScalar member.2

def write (members : List (Text × Scalar)) : Text :=
  '{'::[','].intercalate (members.map writeMember) ++ ['}']

/-- A string behind its opening quote, and what follows it. An escape is not read. -/
def readText : Text → Option (Text × Text)
  | [] => none
  | c::rest =>
    if c = '"' then some ([],rest)
    else if plain c then (readText rest).map fun x => (c::x.1,x.2)
    else none

def readNumber (text : Text) : Option (Text × Text) :=
  let number := text.takeWhile Numeral.symbol
  if Numeral.integer number then some (number,text.dropWhile Numeral.symbol) else none

def readScalar : Text → Option (Scalar × Text)
  | '"'::rest => (readText rest).map fun x => (.text x.1,x.2)
  | text => (readNumber text).map fun x => (.number x.1,x.2)

def readMember : Text → Option ((Text × Scalar) × Text)
  | '"'::rest =>
    match readText rest with
    | some (key,':'::rest) => (readScalar rest).map fun x => ((key,x.1),x.2)
    | _ => none
  | _ => none

/-- At most `n` members and the closing brace. -/
def readMembers : ℕ → Text → Option (List (Text × Scalar) × Text)
  | 0, _ => none
  | n+1, text =>
    match readMember text with
    | some (member,','::rest) => (readMembers n rest).map fun x => (member::x.1,x.2)
    | some (member,'}'::rest) => some ([member],rest)
    | _ => none

/-- A text that is an object as a whole. No white space is read, and no nested value. -/
def read : Text → Option (List (Text × Scalar))
  | ['{','}'] => some []
  | '{'::rest =>
    match readMembers rest.length rest with
    | some (members,[]) => some members
    | _ => none
  | _ => none

structure WellFormed (member : Text × Scalar) : Prop where
  key : ∀ c ∈ member.1, plain c = true
  text : ∀ value, member.2 = .text value → ∀ c ∈ value, plain c = true
  number : ∀ value, member.2 = .number value → Numeral.integer value = true

theorem readText_writeText {value : Text} (h : ∀ c ∈ value, plain c = true) (rest : Text) :
    readText (value ++ '"'::rest) = some (value,rest) := by
  induction value with
  | nil => rfl
  | cons c value ih =>
    have hc := h c List.mem_cons_self
    have hne : c ≠ '"' := by
      rintro rfl
      revert hc
      decide
    rw [List.cons_append,readText,if_neg hne,if_pos hc,
      ih fun c' hc' => h c' (List.mem_cons_of_mem c hc')]
    rfl

theorem readNumber_append {value : Text} (h : Numeral.integer value = true) {d : Char}
    (hd : Numeral.symbol d = false) (rest : Text) :
    readNumber (value ++ d::rest) = some (value,d::rest) := by
  have hs := Numeral.symbol_of_integer h
  have htake : (value ++ d::rest).takeWhile Numeral.symbol = value := by
    rw [List.takeWhile_append_of_pos hs,List.takeWhile_cons_of_neg (by simp [hd]),List.append_nil]
  have hdrop : (value ++ d::rest).dropWhile Numeral.symbol = d::rest := by
    rw [List.dropWhile_append_of_pos hs,List.dropWhile_cons_of_neg (by simp [hd])]
  rw [readNumber,htake,hdrop,if_pos h]

/-- A number does not begin with a quote. -/
theorem readScalar_number {value : Text} (h : Numeral.integer value = true) (rest : Text) :
    readScalar (value ++ rest) = (readNumber (value ++ rest)).map fun x => (.number x.1,x.2) := by
  cases value with
  | nil => exact absurd h (by decide)
  | cons c cs =>
    have hc := Numeral.symbol_of_integer h c List.mem_cons_self
    rw [List.cons_append,readScalar.eq_def]
    split
    · next he =>
      obtain ⟨rfl,-⟩ := List.cons.inj he
      exact absurd hc (by decide)
    · rfl

theorem readMember_writeMember {member : Text × Scalar} (h : WellFormed member) {d : Char}
    (hd : Numeral.symbol d = false) (rest : Text) :
    readMember (writeMember member ++ d::rest) = some (member,d::rest) := by
  obtain ⟨key,value⟩ := member
  have hkey : writeMember (key,value) ++ d::rest =
      '"' :: (key ++ '"' :: ':' :: (writeScalar value ++ d::rest)) := by
    simp [writeMember, writeText]
  rw [hkey,readMember,readText_writeText h.key]
  cases value with
  | text value =>
    have hread := readText_writeText (h.text value rfl) (d::rest)
    simp [writeScalar, writeText, readScalar, hread]
  | number value =>
    have hnumber := h.number value rfl
    simp only [writeScalar]
    rw [readScalar_number hnumber,readNumber_append hnumber hd]
    rfl

theorem readMembers_write {member : Text × Scalar} {members : List (Text × Scalar)}
    (h : ∀ m ∈ member::members, WellFormed m) {n : ℕ} (hn : members.length < n) (rest : Text) :
    readMembers n ([','].intercalate ((member::members).map writeMember) ++ '}'::rest) =
      some (member::members,rest) := by
  induction members generalizing member n with
  | nil =>
    obtain ⟨n,rfl⟩ := Nat.exists_eq_succ_of_ne_zero (by omega : n ≠ 0)
    simp only [List.map_cons, List.map_nil, List.intercalate_singleton, readMembers]
    rw [readMember_writeMember (h member List.mem_cons_self) rfl]
    rfl
  | cons next members ih =>
    obtain ⟨n,rfl⟩ := Nat.exists_eq_succ_of_ne_zero (by omega : n ≠ 0)
    have hnext := ih (fun m hm => h m (List.mem_cons_of_mem member hm))
      (by simpa using hn : members.length < n)
    have hsplit : [','].intercalate ((member::next::members).map writeMember) ++ '}'::rest =
        writeMember member ++
          ','::([','].intercalate ((next::members).map writeMember) ++ '}'::rest) := by
      simp [List.intercalate_cons_cons]
    rw [hsplit,readMembers,readMember_writeMember (h member List.mem_cons_self) rfl]
    simp only [hnext, Option.map_some]

theorem length_lt_write (member : Text × Scalar) (members : List (Text × Scalar)) :
    members.length < ([','].intercalate ((member::members).map writeMember) ++ ['}']).length := by
  induction members generalizing member with
  | nil => simp
  | cons next members ih =>
    have h := ih next
    simp only [List.map_cons, List.intercalate_cons_cons, List.length_append, List.length_cons,
      List.length_nil] at h ⊢
    omega

/-- The reader takes back the members that were written. -/
theorem read_write {members : List (Text × Scalar)} (hne : members ≠ [])
    (h : ∀ m ∈ members, WellFormed m) : read (write members) = some members := by
  obtain ⟨member,members,rfl⟩ := List.exists_cons_of_ne_nil hne
  have hread := readMembers_write h (length_lt_write member members) []
  obtain ⟨rest,hrest⟩ : ∃ rest, [','].intercalate ((member::members).map writeMember) ++ ['}'] =
      '"'::rest := by
    cases members <;> exact ⟨_,by simp [writeMember, writeText]; rfl⟩
  rw [hrest] at hread
  rw [write,List.cons_append,hrest]
  change (match readMembers ('"'::rest).length ('"'::rest) with
    | some (members,[]) => some members
    | _ => none) = _
  rw [hread]

/-- Every member but the last is followed by a comma. -/
theorem write_concat (members : List (Text × Scalar)) (last : Text × Scalar) :
    write (members ++ [last]) =
      '{'::(members.flatMap fun m => writeMember m ++ [',']) ++ writeMember last ++ ['}'] := by
  have h : [','].intercalate ((members ++ [last]).map writeMember) =
      (members.flatMap fun m => writeMember m ++ [',']) ++ writeMember last := by
    induction members with
    | nil => simp
    | cons m members ih =>
      cases members with
      | nil => simp [List.intercalate_cons_cons]
      | cons m' members =>
        rw [List.cons_append,List.map_cons,List.cons_append,List.map_cons] at *
        rw [List.intercalate_cons_cons,ih]
        simp
  rw [write,h,List.cons_append,List.cons_append,List.cons_append,List.append_assoc]

end Object

namespace Query

/-- The characters of keys and values. -/
def plain (c : Char) : Bool := c != '&' && c != '='

def writePair (pair : Text × Text) : Text := pair.1 ++ '='::pair.2

def write (pairs : List (Text × Text)) : Text := ['&'].intercalate (pairs.map writePair)

def readPair (text : Text) : Option (Text × Text) :=
  match text.splitOn '=' with
  | [key,value] => some (key,value)
  | _ => none

def readPairs : List Text → Option (List (Text × Text))
  | [] => some []
  | text::texts => (readPair text).bind fun pair => (readPairs texts).map (pair::·)

def read (text : Text) : Option (List (Text × Text)) := readPairs (text.splitOn '&')

structure WellFormed (pair : Text × Text) : Prop where
  key : ∀ c ∈ pair.1, plain c = true
  value : ∀ c ∈ pair.2, plain c = true

theorem not_mem_of_plain {text : Text} (h : ∀ c ∈ text, plain c = true) :
    '&' ∉ text ∧ '=' ∉ text :=
  ⟨fun hmem => absurd (h _ hmem) (by decide),fun hmem => absurd (h _ hmem) (by decide)⟩

theorem readPair_writePair {pair : Text × Text} (h : WellFormed pair) :
    readPair (writePair pair) = some pair := by
  rw [readPair,writePair,List.splitOn_append_cons_self_of_not_mem (not_mem_of_plain h.key).2,
    List.splitOn_eq_singleton (not_mem_of_plain h.value).2]

theorem readPairs_map {pairs : List (Text × Text)} (h : ∀ pair ∈ pairs, WellFormed pair) :
    readPairs (pairs.map writePair) = some pairs := by
  induction pairs with
  | nil => rfl
  | cons pair pairs ih =>
    rw [List.map_cons,readPairs,readPair_writePair (h pair List.mem_cons_self),
      ih fun p hp => h p (List.mem_cons_of_mem pair hp)]
    rfl

theorem read_write {pairs : List (Text × Text)} (hne : pairs ≠ [])
    (h : ∀ pair ∈ pairs, WellFormed pair) : read (write pairs) = some pairs := by
  have hsplit : (write pairs).splitOn '&' = pairs.map writePair := by
    refine List.splitOn_intercalate '&' ?_ (by simpa using hne)
    intro text htext hmem
    obtain ⟨pair,hpair,rfl⟩ := List.mem_map.mp htext
    rcases List.mem_append.mp hmem with hmem | hmem
    · exact (not_mem_of_plain (h pair hpair).key).1 hmem
    · rcases List.mem_cons.mp hmem with hmem | hmem
      · exact absurd hmem (by decide)
      · exact (not_mem_of_plain (h pair hpair).value).1 hmem
  rw [read,hsplit,readPairs_map h]

/-- Every pair but the first follows an ampersand. -/
theorem write_cons (pair : Text × Text) (pairs : List (Text × Text)) :
    write (pair::pairs) = writePair pair ++ pairs.flatMap fun p => '&'::writePair p := by
  induction pairs generalizing pair with
  | nil => simp [write]
  | cons next pairs ih =>
    have h := ih next
    rw [write] at h ⊢
    rw [List.map_cons,List.map_cons,List.intercalate_cons_cons,← List.map_cons,h]
    simp

end Query
end RoqBinance.Library
