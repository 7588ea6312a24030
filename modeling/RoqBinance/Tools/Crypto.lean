import RoqBinance.Library.Codecs

/-! Signatures of requests: an ed25519 signature of a body, and the classic ones, which feed a
MAC step by step. -/
namespace RoqBinance.Tools
open Library

/-- The functions of other libraries. An encoder gets the old content of its buffer; `sign` and
`hmac` get a secret and what was fed since the last reset; `W` is the type of writers. -/
structure Utils (W : Type) where
  sign : String → List Char → Bytes
  hmac : String → List Char → Bytes
  encodeBase64 : List Char → Bytes → List Char
  decodeBase64 : List Char → Option Bytes
  encodeUrl : List Char → List Char → List Char
  decodeUrl : List Char → Option (List Char)
  encodeHex : List Char → Bytes → List Char
  decodeHex : List Char → Option Bytes
  writer : List Char → W
  write : List Char → W → Option W
  finish : W → List Char
  buffer : W → List Char

namespace Utils
variable {W : Type}

/-- A code overwrites its buffer and is read back; a writer starts with nothing and appends. -/
structure Lawful (utils : Utils W) : Prop where
  decode_base64 : ∀ buffer digest,
    utils.decodeBase64 (utils.encodeBase64 buffer digest) = some digest
  ascii_base64 : ∀ buffer digest, ∀ c ∈ utils.encodeBase64 buffer digest, c.toNat < 128
  decode_url : ∀ buffer text, (∀ c ∈ text, c.toNat < 128) →
    utils.decodeUrl (utils.encodeUrl buffer text) = some text
  ampersand_url : ∀ buffer text, (∀ c ∈ text, c.toNat < 128) → '&' ∉ utils.encodeUrl buffer text
  decode_hex : ∀ buffer digest, utils.decodeHex (utils.encodeHex buffer digest) = some digest
  ampersand_hex : ∀ buffer digest, '&' ∉ utils.encodeHex buffer digest
  finish_writer : ∀ buffer, utils.finish (utils.writer buffer) = []
  finish_write : ∀ {text w w'}, utils.write text w = some w' →
    utils.finish w' = utils.finish w ++ text

/-- The standard codes, with any signature and MAC. -/
def standard (sign hmac : String → List Char → Bytes) : Utils Writer where
  sign := sign
  hmac := hmac
  encodeBase64 _ := Base64.encodePadded
  decodeBase64 := Base64.decodePadded
  encodeUrl _ := Url.encode
  decodeUrl := Url.decode
  encodeHex _ := Hex.encode
  decodeHex := Hex.decode
  writer := Writer.create
  write := Writer.write
  finish := Writer.view
  buffer := Writer.buffer

theorem lawful_standard (sign hmac : String → List Char → Bytes) :
    (standard sign hmac).Lawful where
  decode_base64 _ := Base64.decodePadded_encodePadded
  ascii_base64 _ := Base64.toNat_encodePadded_lt
  decode_url _ _ h := Url.decode_encode fun c hc => by have := h c hc; omega
  ampersand_url _ _ h := Url.ampersand_not_mem_encode fun c hc => by have := h c hc; omega
  decode_hex _ := Hex.decode_encode
  ampersand_hex _ := Hex.ampersand_not_mem_encode
  finish_writer := Writer.view_create
  finish_write h := (Writer.write_eq_some h).1

end Utils

/-- `context` and `mac` are what was fed since the last reset; `digest` and `digest2` are the
last results. -/
structure Crypto where
  key : String
  headersNew : String
  headersOld : String
  pkey : String
  context : List Char
  digest : Bytes
  secret : String
  mac : List Char
  digest2 : Bytes
  deriving DecidableEq, Repr

namespace Crypto
variable {W : Type} (utils : Utils W)

def sign (payload : List Char) (crypto : Crypto) : Crypto :=
  let crypto := {crypto with digest := [],context := []}
  let crypto := {crypto with context := crypto.context ++ payload}
  {crypto with digest := crypto.digest ++ utils.sign crypto.pkey crypto.context}

def clear (crypto : Crypto) : Crypto := {crypto with mac := []}

def update (text : List Char) (crypto : Crypto) : Crypto :=
  {crypto with mac := crypto.mac ++ text}

def final (crypto : Crypto) : Crypto := {crypto with digest2 := utils.hmac crypto.secret crypto.mac}

def createSessionLogonSignature (buffer : List Char) (now : ℕ) (crypto : Crypto) :
    List Char × Crypto :=
  let payload := ("apiKey=" ++ crypto.key ++ "&timestamp=" ++ toString now).toList
  let crypto := crypto.sign utils payload
  (utils.encodeBase64 buffer crypto.digest,crypto)

def createRestSignatureBodyNew (buffer body : List Char) (crypto : Crypto) :
    Option (W × Crypto) := do
  let crypto := crypto.sign utils body
  let buffer2 := utils.encodeBase64 [] crypto.digest
  let buffer3 := utils.encodeUrl [] buffer2
  let writer ← utils.write ['?'] (utils.writer buffer)
  let writer ← utils.write body writer
  let writer ← utils.write "&signature=".toList writer
  let writer ← utils.write buffer3 writer
  some (writer,crypto)

def createRestSignatureOld (buffer : List Char) (now : ℕ) (crypto : Crypto) :
    Option (W × Crypto) := do
  let writer ← utils.write "?timestamp=".toList (utils.writer buffer)
  let writer ← utils.write (toString now).toList writer
  let crypto := (crypto.clear.update ((utils.finish writer).drop 1)).final utils
  let writer ← utils.write "&signature=".toList writer
  let writer ← utils.write (utils.encodeHex [] crypto.digest2) writer
  some (writer,crypto)

def createRestSignatureOldBody (buffer : List Char) (now : ℕ) (body : List Char)
    (crypto : Crypto) : Option (W × Crypto) := do
  let writer ← utils.write "?timestamp=".toList (utils.writer buffer)
  let writer ← utils.write (toString now).toList writer
  let crypto := ((crypto.clear.update ((utils.finish writer).drop 1)).update body).final utils
  let writer ← utils.write "&signature=".toList writer
  let writer ← utils.write (utils.encodeHex [] crypto.digest2) writer
  some (writer,crypto)

def createRestSignatureOldQuery (now : ℕ) (query : List Char) (crypto : Crypto) :
    List Char × Crypto :=
  let tmp := query ++ ("&timestamp=" ++ toString now).toList
  let crypto := (crypto.clear.update tmp).final utils
  ('?' :: tmp ++ "&signature=".toList ++ utils.encodeHex [] crypto.digest2,crypto)

inductive Scheme | ed25519 | classic
  deriving DecidableEq, Repr

def fed (scheme : Scheme) (crypto : Crypto) : List Char :=
  match scheme with
  | .ed25519 => crypto.context
  | .classic => crypto.mac

def produced (scheme : Scheme) (crypto : Crypto) : Bytes :=
  match scheme with
  | .ed25519 => crypto.digest
  | .classic => crypto.digest2

def apply (scheme : Scheme) (crypto : Crypto) : Bytes :=
  match scheme with
  | .ed25519 => utils.sign crypto.pkey (crypto.fed scheme)
  | .classic => utils.hmac crypto.secret (crypto.fed scheme)

def decodeSignature (scheme : Scheme) (signature : List Char) : Option Bytes :=
  match scheme with
  | .ed25519 => (utils.decodeUrl signature).bind utils.decodeBase64
  | .classic => utils.decodeHex signature

/-- The signature stands last in the query; what was fed is the query before it, then the body,
and the signature is the digest of that. -/
def Covers (scheme : Scheme) (query body : List Char) (crypto : Crypto) : Prop :=
  ∃ text signature, query = '?' :: text ++ "&signature=".toList ++ signature ∧
    '&' ∉ signature ∧ crypto.fed scheme = text ++ body ∧
    crypto.produced scheme = crypto.apply utils scheme ∧
    decodeSignature utils scheme signature = some (crypto.produced scheme)

variable {utils}

theorem covers_createRestSignatureBodyNew (h : utils.Lawful) {buffer body : List Char}
    {crypto crypto' : Crypto} {writer : W}
    (he : crypto.createRestSignatureBodyNew utils buffer body = some (writer,crypto')) :
    crypto'.Covers utils .ed25519 (utils.finish writer) [] := by
  simp only [createRestSignatureBodyNew, Option.bind_eq_bind, Option.bind_eq_some_iff,
    Option.some.injEq, Prod.mk.injEq] at he
  obtain ⟨w1,h1,w2,h2,w3,h3,w4,h4,rfl,rfl⟩ := he
  have hascii := h.ascii_base64 [] (crypto.sign utils body).digest
  refine ⟨body,_,?_,h.ampersand_url [] _ hascii,?_,?_,?_⟩
  · rw [h.finish_write h4,h.finish_write h3,h.finish_write h2,h.finish_write h1,h.finish_writer]
    simp
  · simp [fed, sign]
  · simp [produced, apply, fed, sign]
  · simp only [decodeSignature, produced]
    rw [h.decode_url [] _ hascii,Option.bind_some,h.decode_base64]

theorem finish_timestamp (h : utils.Lawful) {buffer : List Char} {now : ℕ} {w1 w2 : W}
    (h1 : utils.write "?timestamp=".toList (utils.writer buffer) = some w1)
    (h2 : utils.write (toString now).toList w1 = some w2) :
    utils.finish w2 = '?' :: ("timestamp=".toList ++ (toString now).toList) := by
  rw [h.finish_write h2,h.finish_write h1,h.finish_writer]
  simp

theorem covers_createRestSignatureOld (h : utils.Lawful) {buffer : List Char} {now : ℕ}
    {crypto crypto' : Crypto} {writer : W}
    (he : crypto.createRestSignatureOld utils buffer now = some (writer,crypto')) :
    crypto'.Covers utils .classic (utils.finish writer) [] := by
  simp only [createRestSignatureOld, Option.bind_eq_bind, Option.bind_eq_some_iff,
    Option.some.injEq, Prod.mk.injEq] at he
  obtain ⟨w1,h1,w2,h2,w3,h3,w4,h4,rfl,rfl⟩ := he
  have hquery := finish_timestamp h h1 h2
  refine ⟨"timestamp=".toList ++ (toString now).toList,_,?_,h.ampersand_hex [] _,?_,rfl,
    h.decode_hex [] _⟩
  · rw [h.finish_write h4,h.finish_write h3,hquery]
    rfl
  · simp [fed, final, update, clear, hquery]

theorem covers_createRestSignatureOldBody (h : utils.Lawful) {buffer body : List Char} {now : ℕ}
    {crypto crypto' : Crypto} {writer : W}
    (he : crypto.createRestSignatureOldBody utils buffer now body = some (writer,crypto')) :
    crypto'.Covers utils .classic (utils.finish writer) body := by
  simp only [createRestSignatureOldBody, Option.bind_eq_bind, Option.bind_eq_some_iff,
    Option.some.injEq, Prod.mk.injEq] at he
  obtain ⟨w1,h1,w2,h2,w3,h3,w4,h4,rfl,rfl⟩ := he
  have hquery := finish_timestamp h h1 h2
  refine ⟨"timestamp=".toList ++ (toString now).toList,_,?_,h.ampersand_hex [] _,?_,rfl,
    h.decode_hex [] _⟩
  · rw [h.finish_write h4,h.finish_write h3,hquery]
    rfl
  · simp [fed, final, update, clear, hquery]

theorem covers_createRestSignatureOldQuery (h : utils.Lawful) (now : ℕ) (query : List Char)
    (crypto : Crypto) :
    (crypto.createRestSignatureOldQuery utils now query).2.Covers utils .classic
      (crypto.createRestSignatureOldQuery utils now query).1 [] := by
  refine ⟨_,_,rfl,h.ampersand_hex [] _,?_,rfl,h.decode_hex [] _⟩
  simp [createRestSignatureOldQuery, fed, final, update, clear]

end Crypto
end RoqBinance.Tools
