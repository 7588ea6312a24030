import RoqBinance.Protocol.Json.OrderEncoder

/-! The texts that name an order which exists: an amendment, and the two texts of a cancel. -/
namespace RoqBinance.Protocol.Json
open Library

inductive CancelRestrictions | undefinedInternal | unknownInternal | onlyNew | onlyPartiallyFilled
  deriving DecidableEq, Repr

def CancelRestrictions.asRawText (f : Formats) : CancelRestrictions → String
  | undefinedInternal => f.internal
  | unknownInternal => f.internal
  | onlyNew => "ONLY_NEW"
  | onlyPartiallyFilled => "ONLY_PARTIALLY_FILLED"

structure CancelOrderTemplate where
  cancelRestrictions : CancelRestrictions
  deriving DecidableEq, Repr

/-- What the encoder reads of an order of the OMS. -/
structure OmsOrder where
  symbol : String
  marginMode : MarginMode
  externalOrderId : String
  clientOrderId : String
  deriving DecidableEq, Repr

/-- An amendment with what only the encoder reads of it. -/
structure ModifyOrderParameters extends ModifyOrder where
  quantity : Double
  deriving DecidableEq, Repr

namespace Encoder

section
variable (f : Formats) (order : OmsOrder) (requestId previousRequestId : String)
  (recvWindow nowUtc : ℤ)

/-- A price is refused. -/
def amendOrderKeepPriorityJson (modifyOrder : ModifyOrderParameters) (refData : RefData) :
    Except Exception String :=
  if modifyOrder.price ≠ NaN then
    .error (.rejected .gateway .invalidRequestArgs "Price not allowed")
  else
    .ok ("\x7b" ++ "\"newClientOrderId\":\"" ++ requestId ++ "\"," ++
      (if order.externalOrderId ≠ "" then "\"orderId\":" ++ order.externalOrderId ++ "," else "") ++
      "\"origClientOrderId\":\"" ++ previousRequestId ++ "\"," ++
      "\"newQty\":\"" ++ f.decimal modifyOrder.quantity refData.quantity ++ "\"," ++
      "\"recvWindow\":" ++ toString recvWindow ++ "," ++
      "\"symbol\":\"" ++ order.symbol ++ "\"," ++
      "\"timestamp\":" ++ toString nowUtc ++ "\x7d")

def cancelOrderJson (cancelOrderTemplate : CancelOrderTemplate) : String :=
  "\x7b" ++
  (if cancelOrderTemplate.cancelRestrictions ≠ .undefinedInternal then
    "\"cancelRestrictions\":\"" ++ cancelOrderTemplate.cancelRestrictions.asRawText f ++ "\","
    else "") ++
  "\"newClientOrderId\":\"" ++ requestId ++ "\"," ++
  (if order.externalOrderId ≠ "" then "\"orderId\":" ++ order.externalOrderId ++ "," else "") ++
  "\"origClientOrderId\":\"" ++ previousRequestId ++ "\"," ++
  "\"recvWindow\":" ++ toString recvWindow ++ "," ++
  "\"symbol\":\"" ++ order.symbol ++ "\"," ++
  "\"timestamp\":" ++ toString nowUtc ++ "\x7d"

/-- Without an id of the exchange the order goes by the client order id that it has now. -/
def cancelOrderUrl (cancelOrderTemplate : CancelOrderTemplate) : String :=
  (if order.marginMode = .isolated then "isIsolated=TRUE&" else "") ++
  "newClientOrderId=" ++ requestId ++
  (if cancelOrderTemplate.cancelRestrictions ≠ .undefinedInternal then
    "&cancelRestrictions=" ++ cancelOrderTemplate.cancelRestrictions.asRawText f else "") ++
  (if order.externalOrderId = "" then "&origClientOrderId=" ++ order.clientOrderId
    else "&orderId=" ++ order.externalOrderId) ++
  "&recvWindow=" ++ toString recvWindow ++ "&symbol=" ++ order.symbol ++
  "&timestamp=" ++ toString nowUtc

end

section
variable (f : Formats) (order : OmsOrder) (requestId previousRequestId : String)
  (recvWindow nowUtc : ℤ)

abbrev Fields := List (Text × Option Object.Scalar)

def text (key value : String) : Text × Option Object.Scalar := (key.toList,some (.text value.toList))

def number (key value : String) : Text × Option Object.Scalar :=
  (key.toList,some (.number value.toList))

def textWhen (c : Prop) [Decidable c] (key value : String) : Text × Option Object.Scalar :=
  (key.toList,if c then some (.text value.toList) else none)

def numberWhen (c : Prop) [Decidable c] (key value : String) : Text × Option Object.Scalar :=
  (key.toList,if c then some (.number value.toList) else none)

/-- The fields of the amendment but the last one. -/
def amendLeading (modifyOrder : ModifyOrderParameters) (refData : RefData) : Fields :=
  [text "newClientOrderId" requestId,
   numberWhen (order.externalOrderId ≠ "") "orderId" order.externalOrderId,
   text "origClientOrderId" previousRequestId,
   text "newQty" (f.decimal modifyOrder.quantity refData.quantity),
   number "recvWindow" (toString recvWindow),
   text "symbol" order.symbol]

def amendFields (modifyOrder : ModifyOrderParameters) (refData : RefData) : Fields :=
  amendLeading f order requestId previousRequestId recvWindow modifyOrder refData ++
    [number "timestamp" (toString nowUtc)]

/-- The fields of the cancel but the last one. -/
def cancelLeading (cancelOrderTemplate : CancelOrderTemplate) : Fields :=
  [textWhen (cancelOrderTemplate.cancelRestrictions ≠ .undefinedInternal) "cancelRestrictions"
     (cancelOrderTemplate.cancelRestrictions.asRawText f),
   text "newClientOrderId" requestId,
   numberWhen (order.externalOrderId ≠ "") "orderId" order.externalOrderId,
   text "origClientOrderId" previousRequestId,
   number "recvWindow" (toString recvWindow),
   text "symbol" order.symbol]

def cancelFields (cancelOrderTemplate : CancelOrderTemplate) : Fields :=
  cancelLeading f order requestId previousRequestId recvWindow cancelOrderTemplate ++
    [number "timestamp" (toString nowUtc)]

/-- The pairs of the query. -/
def cancelPairs (cancelOrderTemplate : CancelOrderTemplate) : List (Text × Option Text) :=
  [("isIsolated".toList,if order.marginMode = .isolated then some "TRUE".toList else none),
   ("newClientOrderId".toList,some requestId.toList),
   ("cancelRestrictions".toList,
    if cancelOrderTemplate.cancelRestrictions ≠ .undefinedInternal then
      some (cancelOrderTemplate.cancelRestrictions.asRawText f).toList else none),
   ("origClientOrderId".toList,
    if order.externalOrderId = "" then some order.clientOrderId.toList else none),
   ("orderId".toList,if order.externalOrderId ≠ "" then some order.externalOrderId.toList else none),
   ("recvWindow".toList,some (toString recvWindow).toList),
   ("symbol".toList,some order.symbol.toList),
   ("timestamp".toList,some (toString nowUtc).toList)]

/-- Each field but the last one is followed by a comma. -/
theorem write_present_concat (fields : Fields) (key : Text) (value : Object.Scalar) :
    Object.write (present (fields ++ [(key,some value)])) =
      '{'::(fields.flatMap fun field =>
        (field.2.map fun value => Object.writeMember (field.1,value) ++ [',']).getD []) ++
          Object.writeMember (key,value) ++ ['}'] := by
  rw [present_append,present_some,present_nil,Object.write_concat,flatMap_present]

theorem writeMember_text {key : String} (piece : String) (hpiece : piece = "\"" ++ key ++ "\":\"")
    (value : String) :
    Object.writeMember (key.toList,.text value.toList) =
      piece.toList ++ (value.toList ++ "\"".toList) := by
  rw [hpiece]
  simp [Object.writeMember, Object.writeText, Object.writeScalar]

theorem writeMember_number {key : String} (piece : String) (hpiece : piece = "\"" ++ key ++ "\":")
    (value : String) :
    Object.writeMember (key.toList,.number value.toList) = piece.toList ++ value.toList := by
  rw [hpiece]
  simp [Object.writeMember, Object.writeText, Object.writeScalar]

theorem toList_amendOrderKeepPriorityJson (modifyOrder : ModifyOrderParameters) (refData : RefData) :
    (amendOrderKeepPriorityJson f order requestId previousRequestId recvWindow nowUtc modifyOrder
      refData).map String.toList =
      if modifyOrder.price ≠ NaN then
        .error (.rejected .gateway .invalidRequestArgs "Price not allowed")
      else .ok (Object.write (present (amendFields f order requestId previousRequestId recvWindow
        nowUtc modifyOrder refData))) := by
  unfold amendOrderKeepPriorityJson
  by_cases hp : modifyOrder.price ≠ NaN
  · rw [if_pos hp,if_pos hp]; rfl
  · rw [if_neg hp,if_neg hp]
    refine congrArg Except.ok ?_
    rw [amendFields,number,write_present_concat,amendLeading]
    simp only [text, number, numberWhen, List.flatMap_cons, List.flatMap_nil, getD_optional,
      Option.map_some, Option.getD_some]
    rw [writeMember_text "\"newClientOrderId\":\"" rfl,writeMember_number "\"orderId\":" rfl,
      writeMember_text "\"origClientOrderId\":\"" rfl,writeMember_text "\"newQty\":\"" rfl,
      writeMember_number "\"recvWindow\":" rfl,writeMember_text "\"symbol\":\"" rfl,
      writeMember_number "\"timestamp\":" rfl]
    have hopen : "\x7b".toList = ['{'] := rfl
    have hclose : "\x7d".toList = ['}'] := rfl
    have hcomma : ",".toList = [','] := rfl
    have hend : "\",".toList = "\"".toList ++ [','] := rfl
    simp only [String.toList_append, toList_optional, List.append_assoc, hopen, hclose, hcomma, hend,
      List.cons_append, List.nil_append, List.append_nil]

theorem toList_cancelOrderJson (cancelOrderTemplate : CancelOrderTemplate) :
    (cancelOrderJson f order requestId previousRequestId recvWindow nowUtc
      cancelOrderTemplate).toList =
      Object.write (present (cancelFields f order requestId previousRequestId recvWindow nowUtc
        cancelOrderTemplate)) := by
  rw [cancelFields,number,write_present_concat,cancelLeading]
  unfold cancelOrderJson
  simp only [text, number, textWhen, numberWhen, List.flatMap_cons, List.flatMap_nil, getD_optional,
    Option.map_some, Option.getD_some]
  rw [writeMember_text "\"cancelRestrictions\":\"" rfl,
    writeMember_text "\"newClientOrderId\":\"" rfl,writeMember_number "\"orderId\":" rfl,
    writeMember_text "\"origClientOrderId\":\"" rfl,writeMember_number "\"recvWindow\":" rfl,
    writeMember_text "\"symbol\":\"" rfl,writeMember_number "\"timestamp\":" rfl]
  have hopen : "\x7b".toList = ['{'] := rfl
  have hclose : "\x7d".toList = ['}'] := rfl
  have hcomma : ",".toList = [','] := rfl
  have hend : "\",".toList = "\"".toList ++ [','] := rfl
  simp only [String.toList_append, toList_optional, List.append_assoc, hopen, hclose, hcomma, hend,
    List.cons_append, List.nil_append, List.append_nil]

theorem toList_cancelOrderUrl (cancelOrderTemplate : CancelOrderTemplate) :
    (cancelOrderUrl f order requestId recvWindow nowUtc cancelOrderTemplate).toList =
      Query.write (present (cancelPairs f order requestId recvWindow nowUtc cancelOrderTemplate)) := by
  have hrest : ∀ rest : List (Text × Option Text),
      Query.write (present (("newClientOrderId".toList,some requestId.toList)::rest)) =
        "newClientOrderId=".toList ++ (requestId.toList ++
          rest.flatMap fun field => (field.2.map fun value =>
            '&'::Query.writePair (field.1,value)).getD []) := by
    intro rest
    rw [present_some,Query.write_cons,flatMap_present,Query.writePair,
      show "newClientOrderId=" = "newClientOrderId" ++ "=" from rfl,String.toList_append]
    simp only [List.append_assoc, List.cons_append]
    rfl
  have hisolated : ∀ rest : List (Text × Option Text),
      Query.write (present (("isIsolated".toList,
        if order.marginMode = .isolated then some "TRUE".toList else none) ::
          ("newClientOrderId".toList,some requestId.toList)::rest)) =
        (if order.marginMode = .isolated then "isIsolated=TRUE&".toList else []) ++
          Query.write (present (("newClientOrderId".toList,some requestId.toList)::rest)) := by
    intro rest
    split_ifs
    · rw [present_some,present_some,Query.write_cons,Query.write_cons]
      rfl
    · rw [present_none]; rfl
  unfold cancelPairs cancelOrderUrl
  rw [hisolated,hrest]
  simp only [List.flatMap_cons, List.flatMap_nil, getD_optional, Option.map_some, Option.getD_some]
  rw [pair_text "&cancelRestrictions=" rfl,pair_text "&origClientOrderId=" rfl,
    pair_text "&orderId=" rfl,pair_text "&recvWindow=" rfl,pair_text "&symbol=" rfl,
    pair_text "&timestamp=" rfl]
  have hname : (if order.externalOrderId = "" then "&origClientOrderId=" ++ order.clientOrderId
      else "&orderId=" ++ order.externalOrderId).toList =
        (if order.externalOrderId = "" then "&origClientOrderId=".toList ++
          order.clientOrderId.toList else []) ++
        (if order.externalOrderId ≠ "" then "&orderId=".toList ++ order.externalOrderId.toList
          else []) := by
    by_cases h : order.externalOrderId = ""
    · rw [if_pos h,if_pos h,if_neg (not_not_intro h),String.toList_append,List.append_nil]
    · rw [if_neg h,if_neg h,if_pos h,String.toList_append,List.nil_append]
  simp only [String.toList_append, toList_optional, hname, List.append_assoc, List.append_nil]

end

/-- The values that a format, a template, the OMS or the exchange puts in are plain, and an id of
the exchange is a number. -/
structure PlainCancel (f : Formats) (order : OmsOrder) (requestId previousRequestId : String) :
    Prop where
  decimal : ∀ x precision, (f.decimal x precision).toList.all plain = true
  internal : f.internal.toList.all plain = true
  requestId : requestId.toList.all plain = true
  previousRequestId : previousRequestId.toList.all plain = true
  symbol : order.symbol.toList.all plain = true
  clientOrderId : order.clientOrderId.toList.all plain = true
  externalOrderId : order.externalOrderId ≠ "" →
    Numeral.integer order.externalOrderId.toList = true

theorem plain_cancelRestrictions (f : Formats) (h : f.internal.toList.all plain = true)
    (cancelRestrictions : CancelRestrictions) :
    (cancelRestrictions.asRawText f).toList.all plain = true := by
  cases cancelRestrictions with
  | undefinedInternal => exact h
  | unknownInternal => exact h
  | onlyNew => simp [CancelRestrictions.asRawText, plain]
  | onlyPartiallyFilled => simp [CancelRestrictions.asRawText, plain]

theorem plain_integer {value : Text} (h : Numeral.integer value = true) :
    value.all plain = true := by
  rw [List.all_eq_true]
  intro c hc
  have hs := Numeral.symbol_of_integer h c hc
  simp only [Numeral.symbol, Bool.or_eq_true, beq_iff_eq] at hs
  rcases hs with hs | rfl
  · simp [plain, Char.isAlphanum, hs]
  · rfl

/-- A field that can be read back. -/
def Readable (field : Text × Option Object.Scalar) : Prop :=
  ∀ value, field.2 = some value → Object.WellFormed (field.1,value)

theorem readable_text {key value : String} (hkey : key.toList.all plain = true)
    (h : value.toList.all plain = true) : Readable (text key value) := by
  rintro _ ⟨⟩
  refine ⟨fun c hc => object_plain (List.all_eq_true.mp hkey c hc),?_,by simp⟩
  rintro _ ⟨⟩ c hc
  exact object_plain (List.all_eq_true.mp h c hc)

theorem readable_number {key value : String} (hkey : key.toList.all plain = true)
    (h : Numeral.integer value.toList = true) : Readable (number key value) := by
  rintro _ ⟨⟩
  refine ⟨fun c hc => object_plain (List.all_eq_true.mp hkey c hc),by simp,?_⟩
  rintro _ ⟨⟩
  exact h

theorem readable_textWhen {c : Prop} [Decidable c] {key value : String}
    (hkey : key.toList.all plain = true) (h : value.toList.all plain = true) :
    Readable (textWhen c key value) := by
  unfold textWhen
  split_ifs
  · exact readable_text hkey h
  · rintro _ ⟨⟩

theorem readable_numberWhen {c : Prop} [Decidable c] {key value : String}
    (hkey : key.toList.all plain = true) (h : c → Numeral.integer value.toList = true) :
    Readable (numberWhen c key value) := by
  unfold numberWhen
  split_ifs with hc
  · exact readable_number hkey (h hc)
  · rintro _ ⟨⟩

/-- A text of readable fields, at least one of them present, is read back. -/
theorem read_present {fields : Fields} (hne : present fields ≠ [])
    (h : ∀ field ∈ fields, Readable field) :
    Object.read (Object.write (present fields)) = some (present fields) := by
  refine Object.read_write hne ?_
  rintro ⟨key,value⟩ hm
  exact h _ (mem_present.mp hm) value rfl

section
variable {f : Formats} {order : OmsOrder} {requestId previousRequestId : String}
  (recvWindow nowUtc : ℤ) (h : PlainCancel f order requestId previousRequestId)
include h

theorem readable_amendFields (modifyOrder : ModifyOrderParameters) (refData : RefData) :
    ∀ field ∈ amendFields f order requestId previousRequestId recvWindow nowUtc modifyOrder refData,
      Readable field := by
  simp only [amendFields, amendLeading, List.forall_mem_append, List.forall_mem_cons]
  refine ⟨⟨?_,?_,?_,?_,?_,?_,by simp⟩,?_,by simp⟩
  · exact readable_text rfl h.requestId
  · exact readable_numberWhen rfl h.externalOrderId
  · exact readable_text rfl h.previousRequestId
  · exact readable_text rfl (h.decimal _ _)
  · exact readable_number rfl (Numeral.integer_toString _)
  · exact readable_text rfl h.symbol
  · exact readable_number rfl (Numeral.integer_toString _)

theorem readable_cancelFields (cancelOrderTemplate : CancelOrderTemplate) :
    ∀ field ∈ cancelFields f order requestId previousRequestId recvWindow nowUtc
      cancelOrderTemplate, Readable field := by
  simp only [cancelFields, cancelLeading, List.forall_mem_append, List.forall_mem_cons]
  refine ⟨⟨?_,?_,?_,?_,?_,?_,by simp⟩,?_,by simp⟩
  · exact readable_textWhen rfl (plain_cancelRestrictions f h.internal _)
  · exact readable_text rfl h.requestId
  · exact readable_numberWhen rfl h.externalOrderId
  · exact readable_text rfl h.previousRequestId
  · exact readable_number rfl (Numeral.integer_toString _)
  · exact readable_text rfl h.symbol
  · exact readable_number rfl (Numeral.integer_toString _)

/-- A pair that can be read back. -/
theorem plain_cancelPairs (cancelOrderTemplate : CancelOrderTemplate) :
    ∀ pair ∈ cancelPairs f order requestId recvWindow nowUtc cancelOrderTemplate,
      pair.1.all plain = true ∧ ∀ value, pair.2 = some value → value.all plain = true := by
  have hwhen : ∀ (c : Prop) [Decidable c] (value : Text), (c → value.all plain = true) →
      ∀ v, (if c then some value else none) = some v → v.all plain = true := by
    intro c _ value hv v hs
    split_ifs at hs with hc
    cases hs
    exact hv hc
  simp only [cancelPairs, List.forall_mem_cons]
  refine ⟨⟨rfl,?_⟩,⟨rfl,?_⟩,⟨rfl,?_⟩,⟨rfl,?_⟩,⟨rfl,?_⟩,⟨rfl,?_⟩,⟨rfl,?_⟩,⟨rfl,?_⟩,by simp⟩
  · exact hwhen _ _ fun _ => rfl
  · rintro _ ⟨⟩; exact h.requestId
  · exact hwhen _ _ fun _ => plain_cancelRestrictions f h.internal _
  · exact hwhen _ _ fun _ => h.clientOrderId
  · exact hwhen _ _ fun hne => plain_integer (h.externalOrderId hne)
  · rintro _ ⟨⟩; exact plain_toString recvWindow
  · rintro _ ⟨⟩; exact h.symbol
  · rintro _ ⟨⟩; exact plain_toString nowUtc

theorem read_cancelOrderJson (cancelOrderTemplate : CancelOrderTemplate) :
    Object.read (cancelOrderJson f order requestId previousRequestId recvWindow nowUtc
      cancelOrderTemplate).toList =
      some (present (cancelFields f order requestId previousRequestId recvWindow nowUtc
        cancelOrderTemplate)) := by
  rw [toList_cancelOrderJson]
  refine read_present ?_ (readable_cancelFields recvWindow nowUtc h cancelOrderTemplate)
  simp [cancelFields, number, present_append]

theorem read_cancelOrderUrl (cancelOrderTemplate : CancelOrderTemplate) :
    Query.read (cancelOrderUrl f order requestId recvWindow nowUtc cancelOrderTemplate).toList =
      some (present (cancelPairs f order requestId recvWindow nowUtc cancelOrderTemplate)) := by
  rw [toList_cancelOrderUrl]
  apply Query.read_write
  · intro hnil
    have hfirst : ("newClientOrderId".toList,requestId.toList) ∈
        present (cancelPairs f order requestId recvWindow nowUtc cancelOrderTemplate) := by
      rw [mem_present]
      simp [cancelPairs]
    rw [hnil] at hfirst
    exact absurd hfirst List.not_mem_nil
  · intro pair hpair
    obtain ⟨hkey,hvalue⟩ :=
      plain_cancelPairs recvWindow nowUtc h cancelOrderTemplate _ (mem_present.mp hpair)
    exact ⟨fun c hc => query_plain (List.all_eq_true.mp hkey c hc),
      fun c hc => query_plain (List.all_eq_true.mp (hvalue _ rfl) c hc)⟩

end

section
variable (f : Formats) (order : OmsOrder) (requestId previousRequestId : String)
  (recvWindow nowUtc : ℤ)

theorem nodup_cancelFields (cancelOrderTemplate : CancelOrderTemplate) :
    ((cancelFields f order requestId previousRequestId recvWindow nowUtc
      cancelOrderTemplate).map Prod.fst).Nodup := by
  have h : (cancelFields f order requestId previousRequestId recvWindow nowUtc
      cancelOrderTemplate).map Prod.fst =
        ["cancelRestrictions","newClientOrderId","orderId","origClientOrderId","recvWindow","symbol",
          "timestamp"].map String.toList := rfl
  rw [h]
  exact List.Nodup.map (fun _ _ => String.toList_injective) (by decide)

theorem nodup_cancelPairs (cancelOrderTemplate : CancelOrderTemplate) :
    ((cancelPairs f order requestId recvWindow nowUtc cancelOrderTemplate).map Prod.fst).Nodup := by
  have h : (cancelPairs f order requestId recvWindow nowUtc cancelOrderTemplate).map Prod.fst =
      ["isIsolated","newClientOrderId","cancelRestrictions","origClientOrderId","orderId",
        "recvWindow","symbol","timestamp"].map String.toList := rfl
  rw [h]
  exact List.Nodup.map (fun _ _ => String.toList_injective) (by decide)

theorem nodup_amendFields (modifyOrder : ModifyOrderParameters) (refData : RefData) :
    ((amendFields f order requestId previousRequestId recvWindow nowUtc modifyOrder
      refData).map Prod.fst).Nodup := by
  have h : (amendFields f order requestId previousRequestId recvWindow nowUtc modifyOrder
      refData).map Prod.fst =
        ["newClientOrderId","orderId","origClientOrderId","newQty","recvWindow","symbol",
          "timestamp"].map String.toList := rfl
  rw [h]
  exact List.Nodup.map (fun _ _ => String.toList_injective) (by decide)

/-- The first field is found under its own name, any other name in the rest. -/
theorem lookup_cons_toList {ν : Type} (key : Text) (name : String) (value : ν)
    (fields : List (Text × ν)) :
    ((name.toList,value)::fields).lookup key =
      if key = name.toList then some value else fields.lookup key := by
  by_cases h : key = name.toList
  · subst h; simp
  · rw [List.lookup_cons,beq_eq_false_iff_ne.mpr h,if_neg h]

end

variable {f : Formats} {order : OmsOrder} {requestId previousRequestId : String}

/-- Both texts of a cancel are well formed and name no parameter twice. They carry the same
parameters but for two: only the query says that the order is on an isolated margin, and the name
of the order differs. Both have its id of the exchange when there is one, the object also has its
previous client order id, and the query its client order id when there is none. -/
theorem cancel_texts_agree (recvWindow nowUtc : ℤ)
    (h : PlainCancel f order requestId previousRequestId) (cancelOrderTemplate : CancelOrderTemplate) :
    ∃ members pairs,
      Object.read (cancelOrderJson f order requestId previousRequestId recvWindow nowUtc
        cancelOrderTemplate).toList = some members ∧ (members.map Prod.fst).Nodup ∧
      Query.read (cancelOrderUrl f order requestId recvWindow nowUtc
        cancelOrderTemplate).toList = some pairs ∧ (pairs.map Prod.fst).Nodup ∧
      (∀ key, key ≠ "isIsolated".toList → key ≠ "origClientOrderId".toList →
        (members.lookup key).map Object.Scalar.value = pairs.lookup key) ∧
      members.lookup "isIsolated".toList = none ∧
      pairs.lookup "isIsolated".toList =
        (if order.marginMode = .isolated then some "TRUE".toList else none) ∧
      pairs.lookup "orderId".toList =
        (if order.externalOrderId ≠ "" then some order.externalOrderId.toList else none) ∧
      members.lookup "origClientOrderId".toList = some (.text previousRequestId.toList) ∧
      pairs.lookup "origClientOrderId".toList =
        if order.externalOrderId = "" then some order.clientOrderId.toList else none := by
  have hfields := nodup_cancelFields f order requestId previousRequestId recvWindow nowUtc
    cancelOrderTemplate
  have hpairs := nodup_cancelPairs f order requestId recvWindow nowUtc cancelOrderTemplate
  refine ⟨_,_,read_cancelOrderJson recvWindow nowUtc h cancelOrderTemplate,nodup_present hfields,
    read_cancelOrderUrl recvWindow nowUtc h cancelOrderTemplate,nodup_present hpairs,?_,?_,?_,?_,?_,
    ?_⟩
  · intro key hisolated horig
    rw [lookup_present hfields,lookup_present hpairs]
    simp only [cancelFields, cancelLeading, cancelPairs, text, number, textWhen, numberWhen,
      List.cons_append, List.nil_append, lookup_cons_toList, if_neg hisolated, if_neg horig,
      List.lookup_nil]
    by_cases hrestrictions : key = "cancelRestrictions".toList
    · subst hrestrictions
      split_ifs <;> simp_all [Object.Scalar.value]
    · simp only [if_neg hrestrictions]
      split_ifs <;> simp [Object.Scalar.value]
  · rw [lookup_present hfields]
    simp only [cancelFields, cancelLeading, text, number, textWhen, numberWhen, List.cons_append,
      List.nil_append, lookup_cons_toList, String.toList_inj, String.reduceEq, if_false,
      List.lookup_nil, Option.join_none]
  · rw [lookup_present hpairs]
    simp only [cancelPairs, lookup_cons_toList, if_true, Option.join_some]
  · rw [lookup_present hpairs]
    simp only [cancelPairs, lookup_cons_toList, String.toList_inj, String.reduceEq, if_true, if_false,
      Option.join_some]
  · rw [lookup_present hfields]
    simp only [cancelFields, cancelLeading, text, number, textWhen, numberWhen, List.cons_append,
      List.nil_append, lookup_cons_toList, String.toList_inj, String.reduceEq, if_true, if_false,
      Option.join_some]
  · rw [lookup_present hpairs]
    simp only [cancelPairs, lookup_cons_toList, String.toList_inj, String.reduceEq, if_true, if_false,
      Option.join_some]

/-- An order that the exchange has given the id 1001. -/
def sampleOms : OmsOrder := ⟨"BTC",.isolated,"1001","oid:1"⟩

theorem plain_sampleOms : PlainCancel sampleFormats sampleOms "oid:3" "oid:2" where
  decimal := plain_sample.decimal
  internal := plain_sample.internal
  requestId := by simp [plain]
  previousRequestId := by simp [plain]
  symbol := by simp [sampleOms, plain]
  clientOrderId := by simp [sampleOms, plain]
  externalOrderId _ := rfl

example : cancelOrderUrl sampleFormats sampleOms "oid:3" 5000 0 ⟨.onlyNew⟩ =
    "isIsolated=TRUE&newClientOrderId=oid:3&cancelRestrictions=ONLY_NEW&orderId=1001" ++
    "&recvWindow=5000&symbol=BTC&timestamp=0" := by decide

theorem cancel_texts_agree_sampleOms :
    ∃ members pairs,
      Object.read (cancelOrderJson sampleFormats sampleOms "oid:3" "oid:2" 5000 0
        ⟨.onlyNew⟩).toList = some members ∧ (members.map Prod.fst).Nodup ∧
      Query.read (cancelOrderUrl sampleFormats sampleOms "oid:3" 5000 0
        ⟨.onlyNew⟩).toList = some pairs ∧ (pairs.map Prod.fst).Nodup ∧
      (∀ key, key ≠ "isIsolated".toList → key ≠ "origClientOrderId".toList →
        (members.lookup key).map Object.Scalar.value = pairs.lookup key) ∧
      members.lookup "isIsolated".toList = none ∧
      pairs.lookup "isIsolated".toList = some "TRUE".toList ∧
      pairs.lookup "orderId".toList = some "1001".toList ∧
      members.lookup "origClientOrderId".toList = some (.text "oid:2".toList) ∧
      pairs.lookup "origClientOrderId".toList = none :=
  cancel_texts_agree 5000 0 plain_sampleOms ⟨.onlyNew⟩

/-- An amendment without a price is a well-formed text that names no parameter twice. It names the
order as a cancel does, and carries the new quantity; one with a price is refused. -/
theorem amend_text_carries (recvWindow nowUtc : ℤ)
    (h : PlainCancel f order requestId previousRequestId) (modifyOrder : ModifyOrderParameters)
    (refData : RefData) :
    (modifyOrder.price ≠ NaN → amendOrderKeepPriorityJson f order requestId previousRequestId
      recvWindow nowUtc modifyOrder refData =
        .error (.rejected .gateway .invalidRequestArgs "Price not allowed")) ∧
    (modifyOrder.price = NaN → ∃ text members canceled,
      amendOrderKeepPriorityJson f order requestId previousRequestId recvWindow nowUtc modifyOrder
        refData = .ok text ∧
      Object.read text.toList = some members ∧ (members.map Prod.fst).Nodup ∧
      Object.read (cancelOrderJson f order requestId previousRequestId recvWindow nowUtc
        ⟨.undefinedInternal⟩).toList = some canceled ∧
      (∀ key, key ≠ "newQty".toList → members.lookup key = canceled.lookup key) ∧
      members.lookup "newQty".toList =
        some (.text (f.decimal modifyOrder.quantity refData.quantity).toList)) := by
  have htext := toList_amendOrderKeepPriorityJson f order requestId previousRequestId recvWindow
    nowUtc modifyOrder refData
  refine ⟨?_,?_⟩
  · intro hp
    rw [amendOrderKeepPriorityJson,if_pos hp]
  · intro hp
    rw [if_neg (not_not_intro hp)] at htext
    obtain ⟨text,htext,hlist⟩ : ∃ text, amendOrderKeepPriorityJson f order requestId
        previousRequestId recvWindow nowUtc modifyOrder refData = .ok text ∧
          text.toList = Object.write (present (amendFields f order requestId previousRequestId
            recvWindow nowUtc modifyOrder refData)) := by
      cases he : amendOrderKeepPriorityJson f order requestId previousRequestId recvWindow nowUtc
          modifyOrder refData with
      | error e => rw [he] at htext; cases htext
      | ok text => rw [he] at htext; exact ⟨text,rfl,Except.ok.inj htext⟩
    have hread : Object.read text.toList = some (present (amendFields f order requestId
        previousRequestId recvWindow nowUtc modifyOrder refData)) := by
      rw [hlist]
      refine read_present ?_ (readable_amendFields recvWindow nowUtc h modifyOrder refData)
      simp [amendFields, number, present_append]
    have hamend := nodup_amendFields f order requestId previousRequestId recvWindow nowUtc
      modifyOrder refData
    have hcancel := nodup_cancelFields f order requestId previousRequestId recvWindow nowUtc
      ⟨.undefinedInternal⟩
    refine ⟨text,_,_,htext,hread,nodup_present hamend,
      read_cancelOrderJson recvWindow nowUtc h ⟨.undefinedInternal⟩,?_,?_⟩
    · intro key hkey
      rw [lookup_present hamend,lookup_present hcancel]
      simp only [amendFields, amendLeading, cancelFields, cancelLeading, Encoder.text, number,
        textWhen, numberWhen, List.cons_append, List.nil_append, lookup_cons_toList, if_neg hkey]
      by_cases hrestrictions : key = "cancelRestrictions".toList
      · subst hrestrictions
        simp only [String.toList_inj, String.reduceEq, if_true, if_false, List.lookup_nil]
        rfl
      · rw [if_neg hrestrictions]
    · rw [lookup_present hamend]
      simp only [amendFields, amendLeading, Encoder.text, number, numberWhen, List.cons_append,
        List.nil_append, lookup_cons_toList, String.toList_inj, String.reduceEq, if_true, if_false,
        Option.join_some]

def sampleModify (price : Double) : ModifyOrderParameters := ⟨⟨"A1",1,1,price⟩,some 2⟩

theorem amend_text_carries_sampleOms :
    (∃ text members canceled,
      amendOrderKeepPriorityJson sampleFormats sampleOms "oid:3" "oid:2" 5000 0
        (sampleModify NaN) ⟨0,0⟩ = .ok text ∧
      Object.read text.toList = some members ∧ (members.map Prod.fst).Nodup ∧
      Object.read (cancelOrderJson sampleFormats sampleOms "oid:3" "oid:2" 5000 0
        ⟨.undefinedInternal⟩).toList = some canceled ∧
      (∀ key, key ≠ "newQty".toList → members.lookup key = canceled.lookup key) ∧
      members.lookup "newQty".toList = some (.text "2".toList)) ∧
    amendOrderKeepPriorityJson sampleFormats sampleOms "oid:3" "oid:2" 5000 0
      (sampleModify (some 7)) ⟨0,0⟩ =
        .error (.rejected .gateway .invalidRequestArgs "Price not allowed") :=
  ⟨(amend_text_carries 5000 0 plain_sampleOms (sampleModify NaN) ⟨0,0⟩).2 rfl,
    (amend_text_carries 5000 0 plain_sampleOms (sampleModify (some 7)) ⟨0,0⟩).1 (by decide)⟩

end Encoder
end RoqBinance.Protocol.Json
