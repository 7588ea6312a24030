import Mathlib.Algebra.Group.Nat.Defs
import Mathlib.Data.Nat.Notation
import Mathlib.Tactic.SplitIfs

/-! Little-endian words and unpadded base64 with the URL-safe alphabet. -/
namespace RoqBinance.Library

abbrev Bytes := List UInt8

namespace Bytes

/-- The `w` low bytes of `n`, the least significant first. -/
def ofNat : ℕ → ℕ → Bytes
  | 0, _ => []
  | w+1, n => UInt8.ofNat n :: ofNat w (n/256)

def toNat : Bytes → ℕ
  | [] => 0
  | b::bs => b.toNat + 256*toNat bs

@[simp] theorem length_ofNat (w n : ℕ) : (ofNat w n).length = w := by
  induction w generalizing n with
  | zero => rfl
  | succ w ih => simp [ofNat, ih]

theorem toNat_ofNat (w n : ℕ) : toNat (ofNat w n) = n % 256^w := by
  induction w generalizing n with
  | zero => simp [ofNat, toNat, Nat.mod_one]
  | succ w ih =>
    have hb : (UInt8.ofNat n).toNat = n % 256 := by simp
    rw [ofNat, toNat, hb, ih, Nat.pow_succ, Nat.mul_comm (256^w) 256, Nat.mod_mul]

theorem toNat_lt (bytes : Bytes) : toNat bytes < 256^bytes.length := by
  induction bytes with
  | nil => simp [toNat]
  | cons b bs ih =>
    have hb := b.toNat_lt
    rw [toNat, List.length_cons, Nat.pow_succ]
    omega

theorem ofNat_toNat (bytes : Bytes) : ofNat bytes.length (toNat bytes) = bytes := by
  induction bytes with
  | nil => rfl
  | cons b bs ih =>
    have hb := b.toNat_lt
    have hlow : UInt8.ofNat (b.toNat + 256*toNat bs) = b := by
      apply UInt8.toNat_inj.mp
      simp
    have hhigh : (b.toNat + 256*toNat bs)/256 = toNat bs := by omega
    rw [List.length_cons, toNat, ofNat, hlow, hhigh, ih]

end Bytes

namespace Base64

/-- `A-Z`, `a-z`, `0-9`, `-`, `_`. -/
def symbol (n : ℕ) : Char :=
  if n < 26 then Char.ofNat (65+n)
  else if n < 52 then Char.ofNat (97+(n-26))
  else if n < 62 then Char.ofNat (48+(n-52))
  else if n = 62 then '-'
  else '_'

def value (c : Char) : Option ℕ :=
  let code := c.toNat
  if 65 ≤ code ∧ code ≤ 90 then some (code-65)
  else if 97 ≤ code ∧ code ≤ 122 then some (code-97+26)
  else if 48 ≤ code ∧ code ≤ 57 then some (code-48+52)
  else if c = '-' then some 62
  else if c = '_' then some 63
  else none

theorem value_symbol {n : ℕ} (h : n < 64) : value (symbol n) = some n := by
  have hall : ∀ m : Fin 64, value (symbol m.val) = some m.val := by decide
  exact hall ⟨n,h⟩

def Alphabet (c : Char) : Prop := c.isAlphanum ∨ c = '-' ∨ c = '_'

theorem alphabet_symbol {n : ℕ} (h : n < 64) : Alphabet (symbol n) := by
  have hall : ∀ m : Fin 64, (symbol m.val).isAlphanum ∨ symbol m.val = '-' ∨ symbol m.val = '_' := by
    decide
  exact hall ⟨n,h⟩

theorem symbol_value {c : Char} {n : ℕ} (h : value c = some n) : symbol n = c ∧ n < 64 := by
  have hc : Char.ofNat c.toNat = c := Char.ofNat_toNat c
  simp only [value] at h
  split_ifs at h with h1 h2 h3 h4 h5
  · obtain rfl := Option.some.inj h
    refine ⟨?_,by omega⟩
    rw [symbol, if_pos (by omega), show 65+(c.toNat-65) = c.toNat by omega, hc]
  · obtain rfl := Option.some.inj h
    refine ⟨?_,by omega⟩
    rw [symbol, if_neg (by omega), if_pos (by omega),
      show 97+(c.toNat-97+26-26) = c.toNat by omega, hc]
  · obtain rfl := Option.some.inj h
    refine ⟨?_,by omega⟩
    rw [symbol, if_neg (by omega), if_neg (by omega), if_pos (by omega),
      show 48+(c.toNat-48+52-52) = c.toNat by omega, hc]
  · obtain rfl := Option.some.inj h
    exact ⟨h4.symm,by omega⟩
  · obtain rfl := Option.some.inj h
    exact ⟨h5.symm,by omega⟩

theorem exists_value {c : Char} (h : Alphabet c) : ∃ n, value c = some n := by
  simp only [value]
  rcases h with h | rfl | rfl
  · have hc : (65 ≤ c.toNat ∧ c.toNat ≤ 90 ∨ 97 ≤ c.toNat ∧ c.toNat ≤ 122) ∨
        48 ≤ c.toNat ∧ c.toNat ≤ 57 := by
      have hv : ((decide ('A'.val ≤ c.val ∧ c.val ≤ 'Z'.val) ||
          (decide ('a'.val ≤ c.val) && decide (c.val ≤ 'z'.val))) ||
            (decide ('0'.val ≤ c.val) && decide (c.val ≤ '9'.val))) = true := h
      simp only [Bool.or_eq_true, Bool.and_eq_true, decide_eq_true_eq,
        UInt32.le_iff_toNat_le] at hv
      exact hv
    rcases hc with (hc | hc) | hc
    · exact ⟨_,if_pos hc⟩
    · exact ⟨_,by rw [if_neg (by omega), if_pos hc]⟩
    · exact ⟨_,by rw [if_neg (by omega), if_neg (by omega), if_pos hc]⟩
  · exact ⟨62,rfl⟩
  · exact ⟨63,rfl⟩

/-- Three bytes make four symbols; one or two bytes left over make two or three. -/
def encode : Bytes → List Char
  | a::b::c::rest =>
    let n := a.toNat*65536 + b.toNat*256 + c.toNat
    symbol (n/262144) :: symbol (n/4096%64) :: symbol (n/64%64) :: symbol (n%64) :: encode rest
  | [a,b] =>
    let n := a.toNat*1024 + b.toNat*4
    [symbol (n/4096),symbol (n/64%64),symbol (n%64)]
  | [a] =>
    let n := a.toNat*16
    [symbol (n/64),symbol (n%64)]
  | [] => []

/-- The bits that do not fill a byte at the end are dropped. -/
def decode : List Char → Option Bytes
  | w::x::y::z::rest => do
    let n := (← value w)*262144 + (← value x)*4096 + (← value y)*64 + (← value z)
    let bytes ← decode rest
    some (UInt8.ofNat (n/65536) :: UInt8.ofNat (n/256) :: UInt8.ofNat n :: bytes)
  | [w,x,y] => do
    let n := (← value w)*4096 + (← value x)*64 + (← value y)
    some [UInt8.ofNat (n/1024),UInt8.ofNat (n/4)]
  | [w,x] => do
    let n := (← value w)*64 + (← value x)
    some [UInt8.ofNat (n/16)]
  | [_] => none
  | [] => some []

theorem ofNat_eq_of_mod {n : ℕ} {b : UInt8} (h : n % 256 = b.toNat) : UInt8.ofNat n = b := by
  apply UInt8.toNat_inj.mp
  simpa using h

theorem decode_encode (bytes : Bytes) : decode (encode bytes) = some bytes := by
  induction bytes using encode.induct with
  | case1 a b c rest ih =>
    have ha := a.toNat_lt; have hb := b.toNat_lt; have hc := c.toNat_lt
    simp only [encode, decode]
    rw [value_symbol (by omega), value_symbol (by omega), value_symbol (by omega),
      value_symbol (by omega), ih]
    simp only [Option.bind_eq_bind, Option.bind_some]
    rw [ofNat_eq_of_mod (b := a) (by omega), ofNat_eq_of_mod (b := b) (by omega),
      ofNat_eq_of_mod (b := c) (by omega)]
  | case2 a b =>
    have ha := a.toNat_lt; have hb := b.toNat_lt
    simp only [encode, decode]
    rw [value_symbol (by omega), value_symbol (by omega), value_symbol (by omega)]
    simp only [Option.bind_eq_bind, Option.bind_some]
    rw [ofNat_eq_of_mod (b := a) (by omega), ofNat_eq_of_mod (b := b) (by omega)]
  | case3 a =>
    have ha := a.toNat_lt
    simp only [encode, decode]
    rw [value_symbol (by omega), value_symbol (by omega)]
    simp only [Option.bind_eq_bind, Option.bind_some]
    rw [ofNat_eq_of_mod (b := a) (by omega)]
  | case4 => rfl

theorem alphabet_encode (bytes : Bytes) : ∀ c ∈ encode bytes, Alphabet c := by
  induction bytes using encode.induct with
  | case1 a b c rest ih =>
    have ha := a.toNat_lt; have hb := b.toNat_lt; have hc := c.toNat_lt
    simp only [encode, List.forall_mem_cons]
    exact ⟨alphabet_symbol (by omega),alphabet_symbol (by omega),alphabet_symbol (by omega),
      alphabet_symbol (by omega),ih⟩
  | case2 a b =>
    have ha := a.toNat_lt; have hb := b.toNat_lt
    simp only [encode, List.forall_mem_cons]
    exact ⟨alphabet_symbol (by omega),alphabet_symbol (by omega),alphabet_symbol (by omega),by simp⟩
  | case3 a =>
    have ha := a.toNat_lt
    simp only [encode, List.forall_mem_cons]
    exact ⟨alphabet_symbol (by omega),alphabet_symbol (by omega),by simp⟩
  | case4 => simp [encode]

/-- A text of whole groups of four symbols decodes, to the one sequence of bytes that has it
as its encoding. -/
theorem exists_decode (text : List Char) (halphabet : ∀ c ∈ text, Alphabet c)
    (hlen : 4 ∣ text.length) :
    ∃ bytes, decode text = some bytes ∧ encode bytes = text ∧ 4*bytes.length = 3*text.length := by
  induction text using decode.induct with
  | case1 w x y z rest ih =>
    simp only [List.forall_mem_cons] at halphabet
    obtain ⟨hw,hx,hy,hz,hrest⟩ := halphabet
    obtain ⟨bytes,hd,he,hlen'⟩ := ih hrest (by simp only [List.length_cons] at hlen; omega)
    obtain ⟨a,ha⟩ := exists_value hw
    obtain ⟨b,hb⟩ := exists_value hx
    obtain ⟨c,hc⟩ := exists_value hy
    obtain ⟨d,hd'⟩ := exists_value hz
    obtain ⟨rfl,ha'⟩ := symbol_value ha
    obtain ⟨rfl,hb'⟩ := symbol_value hb
    obtain ⟨rfl,hc'⟩ := symbol_value hc
    obtain ⟨rfl,hd''⟩ := symbol_value hd'
    simp only [decode, ha, hb, hc, hd', hd, Option.bind_eq_bind, Option.bind_some]
    refine ⟨_,rfl,?_,by simp only [List.length_cons]; omega⟩
    -- the three bytes make up the number that the four symbols stand for
    have hn : (UInt8.ofNat ((a*262144+b*4096+c*64+d)/65536)).toNat*65536 +
        (UInt8.ofNat ((a*262144+b*4096+c*64+d)/256)).toNat*256 +
          (UInt8.ofNat (a*262144+b*4096+c*64+d)).toNat = a*262144+b*4096+c*64+d := by
      simp only [UInt8.toNat_ofNat']
      omega
    simp only [encode, he, hn]
    rw [show (a*262144+b*4096+c*64+d)/262144 = a by omega,
      show (a*262144+b*4096+c*64+d)/4096%64 = b by omega,
      show (a*262144+b*4096+c*64+d)/64%64 = c by omega,
      show (a*262144+b*4096+c*64+d)%64 = d by omega]
  | case2 w x y => simp only [List.length_cons, List.length_nil] at hlen; omega
  | case3 w x => simp only [List.length_cons, List.length_nil] at hlen; omega
  | case4 w => simp only [List.length_cons, List.length_nil] at hlen; omega
  | case5 => exact ⟨[],rfl,rfl,rfl⟩

theorem length_encode (bytes : Bytes) : (encode bytes).length = (4*bytes.length+2)/3 := by
  induction bytes using encode.induct with
  | case1 a b c rest ih => simp only [encode, List.length_cons, ih]; omega
  | case2 a b => simp [encode]
  | case3 a => simp [encode]
  | case4 => simp [encode]

end Base64
end RoqBinance.Library
