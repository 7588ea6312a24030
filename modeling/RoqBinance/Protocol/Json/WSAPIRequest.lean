import RoqBinance.Library.Base64

/-! The request ids of the WebSocket API: 27 bytes as 36 symbols that name the request. -/
namespace RoqBinance.Protocol.Json
open Library

abbrev WSAPIType := UInt8

namespace WSAPIType

@[match_pattern] def UNDEFINED_INTERNAL : WSAPIType := 0
@[match_pattern] def UNKNOWN_INTERNAL : WSAPIType := 1
@[match_pattern] def SESSION_LOGON : WSAPIType := 2
@[match_pattern] def USER_DATA_STREAM_SUBSCRIBE : WSAPIType := 3
@[match_pattern] def ACCOUNT_STATUS : WSAPIType := 4
@[match_pattern] def OPEN_ORDERS_STATUS : WSAPIType := 5
@[match_pattern] def MY_TRADES : WSAPIType := 6
@[match_pattern] def ORDER_PLACE : WSAPIType := 7
@[match_pattern] def ORDER_AMEND_KEEP_PRIORITY : WSAPIType := 8
@[match_pattern] def ORDER_CANCEL : WSAPIType := 9
@[match_pattern] def OPEN_ORDERS_CANCEL_ALL : WSAPIType := 10

end WSAPIType

structure WSAPIRequest where
  sequence : UInt32
  type : WSAPIType
  userId : UInt8
  orderId : UInt64
  version : UInt32
  orderId2 : UInt64
  deriving DecidableEq, Repr

namespace WSAPIRequest

def data (request : WSAPIRequest) : Bytes :=
  Bytes.ofNat 4 request.sequence.toNat ++ (request.type :: request.userId ::
    (Bytes.ofNat 8 request.orderId.toNat ++ (Bytes.ofNat 4 request.version.toNat ++
      (Bytes.ofNat 8 request.orderId2.toNat ++ [0]))))

def ofData (data : Bytes) : WSAPIRequest where
  sequence := UInt32.ofNat (Bytes.toNat (data.take 4))
  type := data.getD 4 0
  userId := data.getD 5 0
  orderId := UInt64.ofNat (Bytes.toNat ((data.drop 6).take 8))
  version := UInt32.ofNat (Bytes.toNat ((data.drop 14).take 4))
  orderId2 := UInt64.ofNat (Bytes.toNat ((data.drop 18).take 8))

def encode (request : WSAPIRequest) : List Char := Base64.encode request.data

/-- A text of any other length than 36 throws. -/
def decode (buffer : List Char) : Option WSAPIRequest :=
  if buffer.length ≠ 36 then none else (Base64.decode buffer).map ofData

theorem length_data (request : WSAPIRequest) : request.data.length = 27 := by simp [data]

theorem length_encode (request : WSAPIRequest) : request.encode.length = 36 := by
  rw [encode, Base64.length_encode, length_data]

theorem word32 (n : UInt32) : UInt32.ofNat (Bytes.toNat (Bytes.ofNat 4 n.toNat)) = n := by
  rw [Bytes.toNat_ofNat]
  apply UInt32.toNat_inj.mp
  simp

theorem word64 (n : UInt64) : UInt64.ofNat (Bytes.toNat (Bytes.ofNat 8 n.toNat)) = n := by
  rw [Bytes.toNat_ofNat]
  apply UInt64.toNat_inj.mp
  simp

theorem ofData_data (request : WSAPIRequest) : ofData request.data = request := by
  obtain ⟨sequence,type,userId,orderId,version,orderId2⟩ := request
  change WSAPIRequest.mk (UInt32.ofNat (Bytes.toNat (Bytes.ofNat 4 sequence.toNat))) type userId
    (UInt64.ofNat (Bytes.toNat (Bytes.ofNat 8 orderId.toNat)))
    (UInt32.ofNat (Bytes.toNat (Bytes.ofNat 4 version.toNat)))
    (UInt64.ofNat (Bytes.toNat (Bytes.ofNat 8 orderId2.toNat))) = _
  rw [word32, word64, word32, word64]

theorem decode_encode (request : WSAPIRequest) : decode request.encode = some request := by
  rw [decode, if_neg (by simp [length_encode]), encode, Base64.decode_encode, Option.map_some,
    ofData_data]

theorem encode_injective {r r' : WSAPIRequest} (h : r.encode = r'.encode) : r = r' := by
  have hd := decode_encode r
  rw [h, decode_encode] at hd
  exact (Option.some.inj hd).symm

/-- A word that is read from its bytes and written again gives the bytes back. -/
theorem bytes32 {bytes : Bytes} (h : bytes.length = 4) :
    Bytes.ofNat 4 (UInt32.ofNat (Bytes.toNat bytes)).toNat = bytes := by
  have hlt : Bytes.toNat bytes < 2^32 := by simpa [h] using Bytes.toNat_lt bytes
  rw [UInt32.toNat_ofNat_of_lt' hlt, ← h, Bytes.ofNat_toNat]

theorem bytes64 {bytes : Bytes} (h : bytes.length = 8) :
    Bytes.ofNat 8 (UInt64.ofNat (Bytes.toNat bytes)).toNat = bytes := by
  have hlt : Bytes.toNat bytes < 2^64 := by simpa [h] using Bytes.toNat_lt bytes
  rw [UInt64.toNat_ofNat_of_lt' hlt, ← h, Bytes.ofNat_toNat]

/-- Only the last byte is not part of the request. -/
theorem data_ofData {bytes : Bytes} (h : bytes.length = 27) :
    (ofData bytes).data = bytes.take 26 ++ [0] := by
  have h2 : (bytes.drop 4).take 2 = [bytes.getD 4 0,bytes.getD 5 0] := by
    have h4 : 4 < bytes.length := by omega
    have h5 : 5 < bytes.length := by omega
    rw [List.drop_eq_getElem_cons h4, List.drop_eq_getElem_cons h5,
      ← List.getElem_eq_getD (h := h4), ← List.getElem_eq_getD (h := h5)]
    rfl
  have hfields : bytes.take 26 = bytes.take 4 ++ (bytes.drop 4).take 2 ++ (bytes.drop 6).take 8 ++
      (bytes.drop 14).take 4 ++ (bytes.drop 18).take 8 := by
    rw [← List.take_add, ← List.take_add, ← List.take_add, ← List.take_add]
  rw [hfields, h2, data, ofData, bytes32 (by simp [h]), bytes32 (by simp [h]),
    bytes64 (by simp [h]), bytes64 (by simp [h])]
  simp

/-- The ids are texts that the exchange accepts, and tell requests apart; a text of the length
of an id is the id of what it decodes to when its last byte is zero. -/
theorem codec_bijective :
    (∀ request, (encode request).length = 36 ∧ (∀ c ∈ encode request, Base64.Alphabet c) ∧
        decode (encode request) = some request) ∧
      Function.Injective encode ∧
      (∀ buffer, buffer.length ≠ 36 → decode buffer = none) ∧
      ∀ buffer, buffer.length = 36 → (∀ c ∈ buffer, Base64.Alphabet c) →
        ∃ bytes request, Base64.decode buffer = some bytes ∧ bytes.length = 27 ∧
          decode buffer = some request ∧ (encode request = buffer ↔ bytes.getD 26 0 = 0) := by
  refine ⟨?_,fun _ _ => encode_injective,?_,?_⟩
  · intro request
    exact ⟨length_encode request,Base64.alphabet_encode request.data,decode_encode request⟩
  · intro buffer h
    rw [decode, if_pos h]
  · intro buffer h halphabet
    obtain ⟨bytes,hd,he,hlen⟩ := Base64.exists_decode buffer halphabet (by omega)
    have h27 : bytes.length = 27 := by omega
    refine ⟨bytes,ofData bytes,hd,h27,by rw [decode, if_neg (by omega), hd, Option.map_some],?_⟩
    have hsplit : bytes.take 26 ++ [bytes.getD 26 0] = bytes := by
      have h26 : 26 < bytes.length := by omega
      rw [← List.getElem_eq_getD (h := h26), List.take_append_getElem h26,
        List.take_of_length_le (by omega)]
    rw [encode, data_ofData h27]
    constructor
    · intro hb
      have hbytes : bytes.take 26 ++ [0] = bytes := by
        rw [← he] at hb
        simpa [Base64.decode_encode] using congrArg Base64.decode hb
      exact List.singleton_inj.mp (List.append_cancel_left (hsplit.trans hbytes.symm))
    · intro hz
      rw [← hz, hsplit, he]

end WSAPIRequest
end RoqBinance.Protocol.Json
