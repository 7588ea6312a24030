import Mathlib.Data.List.TakeWhile
import RoqBinance.Library.Dictionary
import RoqBinance.Library.Fields

/-! JSON values as texts, without white space and escapes: a writer, and a reader that takes
back what was written. -/
namespace RoqBinance.Library.Json

mutual

def write : Json → Text
  | .null => "null".toList
  | .bool true => "true".toList
  | .bool false => "false".toList
  | .number text => text.toList
  | .string text => Object.writeText text.toList
  | .array items => '['::writeItems items ++ [']']
  | .object fields => '{'::writeFields fields ++ ['}']

def writeItems : List Json → Text
  | [] => []
  | j::js => write j ++ writeMoreItems js

def writeMoreItems : List Json → Text
  | [] => []
  | j::js => ','::(write j ++ writeMoreItems js)

def writeFields : List (String × Json) → Text
  | [] => []
  | (key,j)::fields => Object.writeText key.toList ++ ':'::(write j ++ writeMoreFields fields)

def writeMoreFields : List (String × Json) → Text
  | [] => []
  | (key,j)::fields =>
    ','::(Object.writeText key.toList ++ ':'::(write j ++ writeMoreFields fields))

end

/-- A key and its colon, and what follows them. -/
def readKey (text : Text) : Option (String × Text) :=
  match text with
  | [] => none
  | c::rest =>
    if c = '"' then
      match Object.readText rest with
      | none => none
      | some (_,[]) => none
      | some (key,d::rest) => if d = ':' then some (String.ofList key,rest) else none
    else none

/-- A value that is a word, or else a number. -/
def readLiteral (text : Text) : Option (Json × Text) :=
  if "null".toList.isPrefixOf text then some (.null,text.drop 4)
  else if "true".toList.isPrefixOf text then some (.bool true,text.drop 4)
  else if "false".toList.isPrefixOf text then some (.bool false,text.drop 5)
  else (Object.readNumber text).map fun x => (.number (String.ofList x.1),x.2)

mutual

/-- A value at the front of a text, and what follows it. -/
def readValue : ℕ → Text → Option (Json × Text)
  | 0, _ => none
  | _+1, [] => none
  | n+1, c::rest =>
    if c = '"' then (Object.readText rest).map fun x => (.string (String.ofList x.1),x.2)
    else if c = '[' then
      if rest.head? = some ']' then some (.array [],rest.tail)
      else (readItems n rest).map fun x => (.array x.1,x.2)
    else if c = '{' then
      if rest.head? = some '}' then some (.object [],rest.tail)
      else (readFields n rest).map fun x => (.object x.1,x.2)
    else readLiteral (c::rest)

/-- The items of an array and its closing bracket. -/
def readItems : ℕ → Text → Option (List Json × Text)
  | 0, _ => none
  | n+1, text =>
    match readValue n text with
    | none => none
    | some (_,[]) => none
    | some (j,c::rest) =>
      if c = ',' then (readItems n rest).map fun x => (j::x.1,x.2)
      else if c = ']' then some ([j],rest)
      else none

/-- The fields of an object and its closing brace. -/
def readFields : ℕ → Text → Option (List (String × Json) × Text)
  | 0, _ => none
  | n+1, text =>
    match readKey text with
    | none => none
    | some (key,text) =>
      match readValue n text with
      | none => none
      | some (_,[]) => none
      | some (j,c::rest) =>
        if c = ',' then (readFields n rest).map fun x => ((key,j)::x.1,x.2)
        else if c = '}' then some ([(key,j)],rest)
        else none

end

/-- A text that is a value as a whole. -/
def read (text : Text) : Option Json :=
  match readValue text.length text with
  | some (j,[]) => some j
  | _ => none

/-- Every text stands for itself and every number is an integer. -/
inductive Plain : Json → Prop
  | null : Plain .null
  | bool (value : Bool) : Plain (.bool value)
  | number {text : String} (h : Numeral.integer text.toList = true) : Plain (.number text)
  | string {text : String} (h : ∀ c ∈ text.toList, Object.plain c = true) : Plain (.string text)
  | array {items : List Json} (h : ∀ j ∈ items, Plain j) : Plain (.array items)
  | object {fields : List (String × Json)} (hkey : ∀ field ∈ fields, ∀ c ∈ field.1.toList,
      Object.plain c = true) (h : ∀ field ∈ fields, Plain field.2) : Plain (.object fields)

/-- The text does not go on with a number. -/
def Ends (rest : Text) : Prop := ∀ c ∈ rest.head?, Numeral.symbol c = false

theorem ends_nil : Ends [] := by simp [Ends]

theorem ends_cons {c : Char} (h : Numeral.symbol c = false) (rest : Text) : Ends (c::rest) := by
  simpa [Ends] using h

theorem readNumber_append {text : Text} (h : Numeral.integer text = true) {rest : Text}
    (hr : Ends rest) : Object.readNumber (text ++ rest) = some (text,rest) := by
  cases rest with
  | nil =>
    have hs := Numeral.symbol_of_integer h
    rw [List.append_nil,Object.readNumber,List.takeWhile_eq_self_iff.mpr hs,
      List.dropWhile_eq_nil_iff.mpr hs,if_pos h]
  | cons d rest => exact Object.readNumber_append h (hr d rfl) rest

/-- No word begins like a number. -/
theorem readLiteral_number {text : Text} (h : Numeral.integer text = true) {rest : Text}
    (hr : Ends rest) : readLiteral (text ++ rest) = some (.number (String.ofList text),rest) := by
  obtain ⟨c,cs,rfl⟩ : ∃ c cs, text = c::cs := by
    cases text with
    | nil => exact absurd h (by decide)
    | cons c cs => exact ⟨c,cs,rfl⟩
  have hc := Numeral.symbol_of_integer h c List.mem_cons_self
  have hword : ∀ d : Char, Numeral.symbol d = false → ∀ word : Text,
      (d::word).isPrefixOf (c::cs ++ rest) = false := by
    intro d hd word
    have hne : (d == c) = false := by
      rw [beq_eq_false_iff_ne]
      rintro rfl
      rw [hc] at hd
      cases hd
    rw [List.cons_append,List.isPrefixOf,hne,Bool.false_and]
  rw [readLiteral,show "null".toList = 'n'::"ull".toList from rfl,
    show "true".toList = 't'::"rue".toList from rfl,
    show "false".toList = 'f'::"alse".toList from rfl,
    hword 'n' rfl,hword 't' rfl,hword 'f' rfl,readNumber_append h hr]
  rfl

theorem write_number_head {text : String} (h : Numeral.integer text.toList = true) :
    ∃ c cs, text.toList = c::cs ∧ Numeral.symbol c = true := by
  cases ht : text.toList with
  | nil => rw [ht] at h; exact absurd h (by decide)
  | cons c cs =>
    rw [ht] at h
    exact ⟨c,cs,rfl,Numeral.symbol_of_integer h c List.mem_cons_self⟩

/-- A value does not begin like the end of an array. -/
theorem write_head {j : Json} (h : Plain j) : ∃ c cs, write j = c::cs ∧ c ≠ ']' := by
  cases h with
  | null => exact ⟨'n',_,rfl,by decide⟩
  | bool value =>
    cases value with
    | true => exact ⟨'t',_,by rw [write]; rfl,by decide⟩
    | false => exact ⟨'f',_,by rw [write]; rfl,by decide⟩
  | number h =>
    obtain ⟨c,cs,ht,hc⟩ := write_number_head h
    refine ⟨c,cs,by rw [write,ht],?_⟩
    rintro rfl
    exact absurd hc (by decide)
  | string _ => exact ⟨'"',_,by rw [write]; rfl,by decide⟩
  | array _ => exact ⟨'[',_,by rw [write]; rfl,by decide⟩
  | object _ _ => exact ⟨'{',_,by rw [write]; rfl,by decide⟩

theorem writeItems_head {j : Json} (js : List Json) (h : Plain j) :
    ∃ c cs, writeItems (j::js) = c::cs ∧ c ≠ ']' := by
  obtain ⟨c,cs,hw,hc⟩ := write_head h
  exact ⟨c,_,by rw [writeItems,hw]; rfl,hc⟩

theorem writeMoreItems_cons (j : Json) (js : List Json) :
    writeMoreItems (j::js) = ','::writeItems (j::js) := by rw [writeMoreItems,writeItems]

theorem writeFields_cons (key : String) (j : Json) (fields : List (String × Json)) :
    writeFields ((key,j)::fields) =
      '"' :: (key.toList ++ '"' :: ':' :: (write j ++ writeMoreFields fields)) := by
  rw [writeFields]; simp [Object.writeText]

theorem writeMoreFields_cons (field : String × Json) (fields : List (String × Json)) :
    writeMoreFields (field::fields) = ','::writeFields (field::fields) := by
  rw [writeMoreFields,writeFields]

theorem readKey_append {key : String} (h : ∀ c ∈ key.toList, Object.plain c = true) (rest : Text) :
    readKey ('"' :: (key.toList ++ '"' :: ':' :: rest)) = some (key,rest) := by
  rw [readKey,if_pos rfl,Object.readText_writeText h]
  simp

/-- What a reader with `n` steps makes of a text that was written, and of what follows it. -/
structure Reads (n : ℕ) : Prop where
  value : ∀ j, Plain j → (write j).length ≤ n → ∀ rest, Ends rest →
    readValue n (write j ++ rest) = some (j,rest)
  items : ∀ j js, (∀ x ∈ j::js, Plain x) → (writeItems (j::js)).length < n → ∀ rest,
    readItems n (writeItems (j::js) ++ ']'::rest) = some (j::js,rest)
  fields : ∀ field fields, (∀ x ∈ field::fields, ∀ c ∈ x.1.toList, Object.plain c = true) →
    (∀ x ∈ field::fields, Plain x.2) → (writeFields (field::fields)).length < n → ∀ rest,
    readFields n (writeFields (field::fields) ++ '}'::rest) = some (field::fields,rest)

section
variable {n : ℕ}

theorem readValue_literal {c : Char} (h : c ≠ '"' ∧ c ≠ '[' ∧ c ≠ '{') (rest : Text) :
    readValue (n+1) (c::rest) = readLiteral (c::rest) := by
  rw [readValue,if_neg h.1,if_neg h.2.1,if_neg h.2.2]

theorem readValue_string {text : String} (h : ∀ c ∈ text.toList, Object.plain c = true)
    (rest : Text) : readValue (n+1) (write (.string text) ++ rest) = some (.string text,rest) := by
  have hw : write (.string text) ++ rest = '"'::(text.toList ++ '"'::rest) := by
    rw [write]; simp [Object.writeText]
  rw [hw,readValue,if_pos rfl,Object.readText_writeText h]
  simp

theorem readValue_number {text : String} (h : Numeral.integer text.toList = true) {rest : Text}
    (hr : Ends rest) : readValue (n+1) (write (.number text) ++ rest) = some (.number text,rest) := by
  obtain ⟨c,cs,ht,hc⟩ := write_number_head h
  have hl := readLiteral_number h hr
  rw [ht,List.cons_append] at hl
  rw [write,ht,List.cons_append,readValue_literal,hl,← ht,String.ofList_toList]
  refine ⟨?_,?_,?_⟩
  · rintro rfl; exact absurd hc (by decide)
  · rintro rfl; exact absurd hc (by decide)
  · rintro rfl; exact absurd hc (by decide)

theorem Reads.array (ih : Reads n) {items : List Json} (h : ∀ j ∈ items, Plain j)
    (hn : (write (.array items)).length ≤ n+1) (rest : Text) :
    readValue (n+1) (write (.array items) ++ rest) = some (.array items,rest) := by
  have hw : write (.array items) ++ rest = '['::(writeItems items ++ ']'::rest) := by
    rw [write]; simp
  rw [hw,readValue,if_neg (by decide),if_pos rfl]
  cases items with
  | nil => simp [writeItems]
  | cons j js =>
    obtain ⟨c,cs,hc,hne⟩ := writeItems_head js (h j List.mem_cons_self)
    have hlen : (writeItems (j::js)).length < n := by
      rw [write] at hn
      simp only [List.length_append, List.length_cons, List.length_nil] at hn
      omega
    rw [if_neg (by simp [hc, hne]),ih.items j js h hlen rest]
    rfl

theorem Reads.object (ih : Reads n) {fields : List (String × Json)}
    (hkey : ∀ field ∈ fields, ∀ c ∈ field.1.toList, Object.plain c = true)
    (h : ∀ field ∈ fields, Plain field.2) (hn : (write (.object fields)).length ≤ n+1)
    (rest : Text) : readValue (n+1) (write (.object fields) ++ rest) = some (.object fields,rest) := by
  have hw : write (.object fields) ++ rest = '{'::(writeFields fields ++ '}'::rest) := by
    rw [write]; simp
  rw [hw,readValue,if_neg (by decide),if_neg (by decide),if_pos rfl]
  cases fields with
  | nil => simp [writeFields]
  | cons field fields =>
    have hlen : (writeFields (field::fields)).length < n := by
      rw [write] at hn
      simp only [List.length_append, List.length_cons, List.length_nil] at hn
      omega
    have hhead : (writeFields (field::fields) ++ '}'::rest).head? = some '"' := by
      rw [writeFields_cons]; rfl
    rw [if_neg (by rw [hhead]; decide),ih.fields field fields hkey h hlen rest]
    rfl

/-- Each value takes one step more than the items or fields in it. -/
theorem Reads.succ_value (ih : Reads n) {j : Json} (h : Plain j) (hn : (write j).length ≤ n+1)
    {rest : Text} (hr : Ends rest) : readValue (n+1) (write j ++ rest) = some (j,rest) := by
  cases h with
  | null => rfl
  | bool value => cases value <;> rfl
  | number h => exact readValue_number h hr
  | string h => exact readValue_string h rest
  | array h => exact ih.array h hn rest
  | object hkey h => exact ih.object hkey h hn rest

theorem Reads.succ_items (ih : Reads n) {j : Json} {js : List Json} (h : ∀ x ∈ j::js, Plain x)
    (hn : (writeItems (j::js)).length < n+1) (rest : Text) :
    readItems (n+1) (writeItems (j::js) ++ ']'::rest) = some (j::js,rest) := by
  have hj := h j List.mem_cons_self
  rw [writeItems,List.length_append] at hn
  rw [writeItems,List.append_assoc,readItems]
  cases js with
  | nil =>
    rw [writeMoreItems,List.nil_append,ih.value j hj (by omega) _ (ends_cons rfl rest)]
    rfl
  | cons j' js =>
    rw [writeMoreItems_cons,List.length_cons] at hn
    rw [writeMoreItems_cons,List.cons_append,ih.value j hj (by omega) _ (ends_cons rfl _)]
    simp [ih.items j' js (fun x hx => h x (List.mem_cons_of_mem j hx)) (by omega) rest]

theorem Reads.succ_fields (ih : Reads n) {field : String × Json} {fields : List (String × Json)}
    (hkey : ∀ x ∈ field::fields, ∀ c ∈ x.1.toList, Object.plain c = true)
    (h : ∀ x ∈ field::fields, Plain x.2) (hn : (writeFields (field::fields)).length < n+1)
    (rest : Text) :
    readFields (n+1) (writeFields (field::fields) ++ '}'::rest) = some (field::fields,rest) := by
  obtain ⟨key,j⟩ := field
  have hj := h (key,j) List.mem_cons_self
  have hsplit : writeFields ((key,j)::fields) ++ '}'::rest =
      '"' :: (key.toList ++ '"' :: ':' :: (write j ++ (writeMoreFields fields ++ '}'::rest))) := by
    rw [writeFields_cons]; simp
  rw [writeFields_cons] at hn
  simp only [List.length_cons, List.length_append] at hn
  rw [hsplit,readFields,readKey_append (hkey (key,j) List.mem_cons_self)]
  cases fields with
  | nil =>
    simp only [writeMoreFields, List.nil_append]
    rw [ih.value j hj (by omega) _ (ends_cons rfl rest)]
    rfl
  | cons field fields =>
    rw [writeMoreFields_cons,List.length_cons] at hn
    simp only [writeMoreFields_cons, List.cons_append]
    rw [ih.value j hj (by omega) _ (ends_cons rfl _)]
    simp [ih.fields field fields (fun x hx => hkey x (List.mem_cons_of_mem _ hx))
      (fun x hx => h x (List.mem_cons_of_mem _ hx)) (by omega) rest]

end

theorem reads (n : ℕ) : Reads n := by
  induction n with
  | zero =>
    refine ⟨?_,fun _ _ _ hn => absurd hn (by omega),fun _ _ _ _ hn => absurd hn (by omega)⟩
    intro j h hn
    obtain ⟨c,cs,hw,-⟩ := write_head h
    simp [hw] at hn
  | succ n ih =>
    exact ⟨fun _ h hn _ hr => ih.succ_value h hn hr,fun _ _ h hn rest => ih.succ_items h hn rest,
      fun _ _ hkey h hn rest => ih.succ_fields hkey h hn rest⟩

/-- The reader takes back the value that was written. -/
theorem read_write {j : Json} (h : Plain j) : read (write j) = some j := by
  have hv := (reads (write j).length).value j h le_rfl [] ends_nil
  rw [List.append_nil] at hv
  rw [read,hv]

def ofScalar : Object.Scalar → Json
  | .text value => .string (String.ofList value)
  | .number value => .number (String.ofList value)

def ofMember (member : Text × Object.Scalar) : String × Json :=
  (String.ofList member.1,ofScalar member.2)

theorem write_ofScalar (value : Object.Scalar) : write (ofScalar value) = Object.writeScalar value := by
  cases value with
  | text value => rw [ofScalar,write,Object.writeScalar,String.toList_ofList]
  | number value => rw [ofScalar,write,Object.writeScalar,String.toList_ofList]

theorem writeFields_map (member : Text × Object.Scalar) (members : List (Text × Object.Scalar)) :
    writeFields ((member::members).map ofMember) =
      [','].intercalate ((member::members).map Object.writeMember) := by
  have hone : ∀ (m : Text × Object.Scalar) (fields : List (String × Json)),
      writeFields (ofMember m::fields) = Object.writeMember m ++ writeMoreFields fields := by
    intro m fields
    rw [ofMember,writeFields,write_ofScalar,String.toList_ofList,Object.writeMember]
    simp
  induction members generalizing member with
  | nil => simp [hone, writeMoreFields]
  | cons next members ih =>
    have h := ih next
    rw [List.map_cons,List.map_cons] at h
    rw [List.map_cons,List.map_cons,List.map_cons,List.map_cons,hone,writeMoreFields_cons,h,
      List.intercalate_cons_cons]
    simp

/-- A flat object is written alike. -/
theorem write_object (members : List (Text × Object.Scalar)) :
    write (.object (members.map ofMember)) = Object.write members := by
  rw [write,Object.write]
  cases members with
  | nil => simp [writeFields]
  | cons member members => rw [writeFields_map]

theorem plain_object {members : List (Text × Object.Scalar)}
    (h : ∀ m ∈ members, Object.WellFormed m) : Plain (.object (members.map ofMember)) := by
  refine .object ?_ ?_
  · intro field hf
    obtain ⟨m,hm,rfl⟩ := List.mem_map.mp hf
    simpa [ofMember] using (h m hm).key
  · intro field hf
    obtain ⟨⟨key,value⟩,hm,rfl⟩ := List.mem_map.mp hf
    cases value with
    | text value => exact .string (by simpa using (h _ hm).text value rfl)
    | number value => exact .number (by simpa using (h _ hm).number value rfl)

end RoqBinance.Library.Json
