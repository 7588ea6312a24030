import RoqBinance.Library.Base64

/-! Padded base64 with the standard alphabet, hexadecimal and percent codes, and a writer over
a buffer whose old content it overwrites. -/
namespace RoqBinance.Library

namespace Base64

/-- `+` and `/` stand for `-` and `_`. -/
def standard (c : Char) : Char := if c = '-' then '+' else if c = '_' then '/' else c

def urlSafe (c : Char) : Char := if c = '+' then '-' else if c = '/' then '_' else c

def encodePadded (bytes : Bytes) : List Char :=
  (encode bytes).map standard ++ List.replicate ((3-bytes.length%3)%3) '='

def decodePadded (text : List Char) : Option Bytes :=
  decode ((text.filter fun c => decide (c ≠ '=')).map urlSafe)

theorem standard_ne_padding {c : Char} (h : Alphabet c) : standard c ≠ '=' := by
  unfold standard
  split_ifs with h1 h2
  · decide
  · decide
  · rintro rfl
    revert h
    unfold Alphabet
    decide

theorem urlSafe_standard {c : Char} (h : Alphabet c) : urlSafe (standard c) = c := by
  unfold standard
  split_ifs with h1 h2
  · subst h1; rfl
  · subst h2; rfl
  · unfold urlSafe
    split_ifs with h3 h4
    · subst h3; revert h; unfold Alphabet; decide
    · subst h4; revert h; unfold Alphabet; decide
    · rfl

theorem decodePadded_encodePadded (bytes : Bytes) :
    decodePadded (encodePadded bytes) = some bytes := by
  have halphabet := alphabet_encode bytes
  have hsymbols : ((encode bytes).map standard).filter (fun c => decide (c ≠ '=')) =
      (encode bytes).map standard := by
    apply List.filter_eq_self.mpr
    intro c hc
    obtain ⟨c',hc',rfl⟩ := List.mem_map.mp hc
    exact decide_eq_true (standard_ne_padding (halphabet c' hc'))
  have hpadding : ∀ n, (List.replicate n '=').filter (fun c => decide (c ≠ '=')) = [] := by
    intro n
    simp
  have hmap : ((encode bytes).map standard).map urlSafe = encode bytes := by
    rw [List.map_map]
    conv => rhs; rw [← List.map_id (encode bytes)]
    apply List.map_congr_left
    intro c hc
    exact urlSafe_standard (halphabet c hc)
  rw [decodePadded,encodePadded,List.filter_append,hsymbols,hpadding,List.append_nil,hmap]
  exact decode_encode bytes

theorem toNat_standard_lt {c : Char} (h : Alphabet c) : (standard c).toNat < 128 := by
  obtain ⟨n,hn⟩ := exists_value h
  obtain ⟨rfl,hlt⟩ := symbol_value hn
  have hall : ∀ m : Fin 64, (standard (symbol m.val)).toNat < 128 := by decide
  exact hall ⟨n,hlt⟩

theorem toNat_encodePadded_lt (bytes : Bytes) : ∀ c ∈ encodePadded bytes, c.toNat < 128 := by
  intro c hc
  rcases List.mem_append.mp hc with hc | hc
  · obtain ⟨c',hc',rfl⟩ := List.mem_map.mp hc
    exact toNat_standard_lt (alphabet_encode bytes c' hc')
  · rw [(List.mem_replicate.mp hc).2]
    decide

end Base64

namespace Hex

/-- The digits from ten on start at the letter. -/
def digit (letter n : ℕ) : Char := if n < 10 then Char.ofNat (48+n) else Char.ofNat (letter+(n-10))

def value (c : Char) : Option ℕ :=
  let code := c.toNat
  if 48 ≤ code ∧ code ≤ 57 then some (code-48)
  else if 97 ≤ code ∧ code ≤ 102 then some (code-97+10)
  else if 65 ≤ code ∧ code ≤ 70 then some (code-65+10)
  else none

theorem value_digit_lower {n : ℕ} (h : n < 16) : value (digit 97 n) = some n := by
  have hall : ∀ m : Fin 16, value (digit 97 m.val) = some m.val := by decide
  exact hall ⟨n,h⟩

theorem value_digit_upper {n : ℕ} (h : n < 16) : value (digit 65 n) = some n := by
  have hall : ∀ m : Fin 16, value (digit 65 m.val) = some m.val := by decide
  exact hall ⟨n,h⟩

def encode : Bytes → List Char
  | [] => []
  | b::bytes => digit 97 (b.toNat/16) :: digit 97 (b.toNat%16) :: encode bytes

def decode : List Char → Option Bytes
  | [] => some []
  | a::b::rest => do
    let x ← value a
    let y ← value b
    let bytes ← decode rest
    some (UInt8.ofNat (16*x+y) :: bytes)
  | [_] => none

theorem decode_encode (bytes : Bytes) : decode (encode bytes) = some bytes := by
  induction bytes with
  | nil => rfl
  | cons b bytes ih =>
    have hb := b.toNat_lt
    have hbyte : UInt8.ofNat (16*(b.toNat/16)+b.toNat%16) = b :=
      Base64.ofNat_eq_of_mod (by omega)
    simp only [encode, decode]
    rw [value_digit_lower (by omega),value_digit_lower (by omega),ih]
    simp only [Option.bind_eq_bind, Option.bind_some, hbyte]

theorem digit_ne_ampersand {letter n : ℕ} (hl : letter = 97 ∨ letter = 65) (h : n < 16) :
    digit letter n ≠ '&' := by
  have hall : ∀ m : Fin 16, digit 97 m.val ≠ '&' ∧ digit 65 m.val ≠ '&' := by decide
  rcases hl with rfl | rfl
  · exact (hall ⟨n,h⟩).1
  · exact (hall ⟨n,h⟩).2

theorem ampersand_not_mem_encode (bytes : Bytes) : '&' ∉ encode bytes := by
  induction bytes with
  | nil => simp [encode]
  | cons b bytes ih =>
    have hb := b.toNat_lt
    simp only [encode, List.mem_cons, not_or]
    exact ⟨(digit_ne_ampersand (.inl rfl) (by omega)).symm,
      (digit_ne_ampersand (.inl rfl) (by omega)).symm,ih⟩

end Hex

namespace Url

def unreserved (c : Char) : Bool :=
  c.isAlphanum || c = '-' || c = '.' || c = '_' || c = '~'

def encodeChar (c : Char) : List Char :=
  if unreserved c then [c] else ['%',Hex.digit 65 (c.toNat/16),Hex.digit 65 (c.toNat%16)]

def encode (text : List Char) : List Char := text.flatMap encodeChar

def decode : List Char → Option (List Char)
  | [] => some []
  | '%'::a::b::rest => do
    let x ← Hex.value a
    let y ← Hex.value b
    let text ← decode rest
    some (Char.ofNat (16*x+y) :: text)
  | c::rest => if c = '%' then none else (decode rest).map (c::·)

theorem decode_cons_unreserved {c : Char} (h : unreserved c = true) (rest : List Char) :
    decode (c::rest) = (decode rest).map (c::·) := by
  have hne : c ≠ '%' := by
    rintro rfl
    revert h
    decide
  rw [decode.eq_def]
  split
  · next he => cases he
  · next he => exact absurd (List.cons.inj he).1 hne
  · next he =>
    obtain ⟨rfl,rfl⟩ := List.cons.inj he
    rw [if_neg hne]

theorem decode_encode {text : List Char} (h : ∀ c ∈ text, c.toNat < 256) :
    decode (encode text) = some text := by
  induction text with
  | nil => rfl
  | cons c text ih =>
    have ht := ih fun c' hc' => h c' (List.mem_cons_of_mem c hc')
    have hc := h c List.mem_cons_self
    rw [encode,List.flatMap_cons,← encode,encodeChar]
    split_ifs with hu
    · rw [List.singleton_append,decode_cons_unreserved hu,ht,Option.map_some]
    · have hchar : Char.ofNat (16*(c.toNat/16)+c.toNat%16) = c := by
        rw [show 16*(c.toNat/16)+c.toNat%16 = c.toNat by omega,Char.ofNat_toNat]
      simp only [List.cons_append, List.nil_append, decode]
      rw [Hex.value_digit_upper (by omega),Hex.value_digit_upper (by omega),ht]
      simp only [Option.bind_eq_bind, Option.bind_some, hchar]

theorem ampersand_not_mem_encode {text : List Char} (h : ∀ c ∈ text, c.toNat < 256) :
    '&' ∉ encode text := by
  intro hmem
  obtain ⟨c,hc,hmem⟩ := List.mem_flatMap.mp hmem
  have hlt := h c hc
  unfold encodeChar at hmem
  split_ifs at hmem with hu
  · rw [← List.mem_singleton.mp hmem] at hu
    revert hu
    decide
  · simp only [List.mem_cons, List.not_mem_nil, or_false] at hmem
    rcases hmem with hmem | hmem | hmem
    · revert hmem; decide
    · exact Hex.digit_ne_ampersand (.inr rfl) (by omega) hmem.symm
    · exact Hex.digit_ne_ampersand (.inr rfl) (by omega) hmem.symm

end Url

/-- A writer over a buffer, which keeps its length. -/
structure Writer where
  buffer : List Char
  position : ℕ
  within : position ≤ buffer.length

namespace Writer

def create (buffer : List Char) : Writer := ⟨buffer,0,Nat.zero_le _⟩

/-- What has been written. -/
def view (w : Writer) : List Char := w.buffer.take w.position

/-- A text that does not fit throws. -/
def write (text : List Char) (w : Writer) : Option Writer :=
  if h : w.position+text.length ≤ w.buffer.length then
    some
      { buffer := w.view ++ text ++ w.buffer.drop (w.position+text.length),
        position := w.position+text.length,
        within := by simp [view]; omega }
  else none

@[simp] theorem view_create (buffer : List Char) : (create buffer).view = [] := rfl

theorem length_view (w : Writer) : w.view.length = w.position := by
  simp [view, w.within]

theorem write_eq_some {text : List Char} {w w' : Writer} (h : w.write text = some w') :
    w'.view = w.view ++ text ∧ w'.buffer.length = w.buffer.length := by
  unfold write at h
  split_ifs at h with hfits
  obtain rfl := Option.some.inj h
  have hlength := w.length_view
  constructor
  · change (w.view ++ text ++ w.buffer.drop (w.position+text.length)).take
      (w.position+text.length) = w.view ++ text
    rw [List.take_append_of_le_length (by simp [hlength])]
    rw [List.take_of_length_le (by simp [hlength])]
  · simp [hlength]
    omega

end Writer
end RoqBinance.Library
