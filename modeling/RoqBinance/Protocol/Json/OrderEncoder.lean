import RoqBinance.Library.Fields
import RoqBinance.Protocol.Json.Types

/-! The two texts of a new order: a JSON object for the WebSocket API and a query for REST. -/
namespace RoqBinance

def Side.map : Side → Protocol.Json.Side
  | undefined => .undefinedInternal
  | buy => .buy
  | sell => .sell

def OrderType.map : OrderType → Protocol.Json.OrderType
  | undefined => .undefinedInternal
  | market => .market
  | limit => .limit

def TimeInForce.map : TimeInForce → Protocol.Json.TimeInForce
  | undefined => .undefinedInternal
  | gfd => .undefinedInternal
  | gtc => .gtc
  | opg => .undefinedInternal
  | ioc => .ioc
  | fok => .fok
  | gtx => .undefinedInternal
  | gtd => .undefinedInternal
  | atTheClose => .undefinedInternal
  | goodThroughCrossing => .undefinedInternal
  | atCrossing => .undefinedInternal
  | goodForTime => .undefinedInternal
  | gfa => .undefinedInternal
  | gfm => .undefinedInternal

namespace Protocol.Json
open Library

inductive SelfTradePreventionMode
  | undefinedInternal | unknownInternal | expireTaker | expireMaker | expireBoth
  deriving DecidableEq, Repr

inductive SideEffectType | undefined | noSideEffect | marginBuy | autoRepay | autoBorrowRepay
  deriving DecidableEq, Repr

/-- How a number is printed with a precision, and an enumeration without a value. -/
structure Formats where
  decimal : Double → ℕ → String
  internal : String

def Side.asRawText (f : Formats) : Side → String
  | undefinedInternal => f.internal
  | unknownInternal => f.internal
  | buy => "BUY"
  | sell => "SELL"

def OrderType.asRawText (f : Formats) : OrderType → String
  | undefinedInternal => f.internal
  | unknownInternal => f.internal
  | limit => "LIMIT"
  | market => "MARKET"
  | stopLoss => "STOP_LOSS"
  | stopLossLimit => "STOP_LOSS_LIMIT"
  | takeProfit => "TAKE_PROFIT"
  | takeProfitLimit => "TAKE_PROFIT_LIMIT"
  | limitMaker => "LIMIT_MAKER"

def TimeInForce.asRawText (f : Formats) : TimeInForce → String
  | undefinedInternal => f.internal
  | unknownInternal => f.internal
  | gtc => "GTC"
  | ioc => "IOC"
  | fok => "FOK"

def SelfTradePreventionMode.asRawText (f : Formats) : SelfTradePreventionMode → String
  | undefinedInternal => f.internal
  | unknownInternal => f.internal
  | expireTaker => "EXPIRE_TAKER"
  | expireMaker => "EXPIRE_MAKER"
  | expireBoth => "EXPIRE_BOTH"

def SideEffectType.enumName : SideEffectType → String
  | undefined => "UNDEFINED"
  | noSideEffect => "NO_SIDE_EFFECT"
  | marginBuy => "MARGIN_BUY"
  | autoRepay => "AUTO_REPAY"
  | autoBorrowRepay => "AUTO_BORROW_REPAY"

/-- A create order with what only the encoder reads of it. -/
structure CreateOrderParameters extends CreateOrder where
  side : RoqBinance.Side
  orderType : RoqBinance.OrderType
  timeInForce : RoqBinance.TimeInForce
  executionInstructions : List ExecutionInstruction
  quantity : Double
  price : Double
  stopPrice : Double
  deriving DecidableEq, Repr

/-- The precisions of a symbol. -/
structure RefData where
  price : ℕ
  quantity : ℕ
  deriving DecidableEq, Repr

structure CreateOrderTemplate where
  selfTradePreventionMode : SelfTradePreventionMode
  deriving DecidableEq, Repr

namespace Encoder

def mapOrderType (order : CreateOrderParameters) : OrderType :=
  match order.orderType with
  | .undefined => order.orderType.map
  | .market => if order.stopPrice ≠ NaN then .stopLoss else .market
  | .limit =>
    if .participateDoNotInitiate ∈ order.executionInstructions then .limitMaker
    else if order.stopPrice ≠ NaN then .stopLossLimit
    else .limit

def mapTimeInForce (createOrder : CreateOrderParameters) : TimeInForce :=
  match createOrder.orderType with
  | .undefined => createOrder.timeInForce.map
  | .market => .undefinedInternal
  | .limit =>
    if .participateDoNotInitiate ∈ createOrder.executionInstructions then .undefinedInternal
    else createOrder.timeInForce.map

variable (f : Formats) (createOrder : CreateOrderParameters) (refData : RefData)
  (requestId : String) (createOrderTemplate : CreateOrderTemplate) (recvWindow nowUtc : ℤ)

def placeOrderJson : String :=
  let side := createOrder.side.map
  let type := mapOrderType createOrder
  let timeInForce := mapTimeInForce createOrder
  "\x7b" ++ "\"newClientOrderId\":\"" ++ requestId ++ "\"," ++
  (if createOrder.price ≠ NaN then
    "\"price\":\"" ++ f.decimal createOrder.price refData.price ++ "\"," else "") ++
  "\"quantity\":\"" ++ f.decimal createOrder.quantity refData.quantity ++ "\"," ++
  "\"recvWindow\":" ++ toString recvWindow ++ "," ++
  (if createOrderTemplate.selfTradePreventionMode ≠ .undefinedInternal then
    "\"selfTradePreventionMode\":\"" ++
      createOrderTemplate.selfTradePreventionMode.asRawText f ++ "\"," else "") ++
  "\"side\":\"" ++ side.asRawText f ++ "\"," ++
  (if createOrder.stopPrice ≠ NaN then
    "\"stopPrice\":\"" ++ f.decimal createOrder.stopPrice refData.price ++ "\"," else "") ++
  "\"symbol\":\"" ++ createOrder.symbol ++ "\"," ++
  (if timeInForce ≠ .undefinedInternal then
    "\"timeInForce\":\"" ++ timeInForce.asRawText f ++ "\"," else "") ++
  "\"timestamp\":" ++ toString nowUtc ++ "," ++
  "\"type\":\"" ++ type.asRawText f ++ "\"" ++ "\x7d"

def newOrderUrl (sideEffectType : SideEffectType) : String :=
  let side := createOrder.side.map
  let type := mapOrderType createOrder
  let timeInForce := mapTimeInForce createOrder
  (if createOrder.marginMode = .isolated then "isIsolated=TRUE&" else "") ++
  "newClientOrderId=" ++ requestId ++
  (if createOrder.price ≠ NaN then
    "&price=" ++ f.decimal createOrder.price refData.price else "") ++
  "&quantity=" ++ f.decimal createOrder.quantity refData.quantity ++
  "&recvWindow=" ++ toString recvWindow ++
  (if createOrderTemplate.selfTradePreventionMode ≠ .undefinedInternal then
    "&selfTradePreventionMode=" ++ createOrderTemplate.selfTradePreventionMode.asRawText f
    else "") ++
  "&side=" ++ side.asRawText f ++
  (if sideEffectType ≠ .undefined then "&sideEffectType=" ++ sideEffectType.enumName else "") ++
  (if createOrder.stopPrice ≠ NaN then
    "&stopPrice=" ++ f.decimal createOrder.stopPrice refData.price else "") ++
  "&symbol=" ++ createOrder.symbol ++
  (if timeInForce ≠ .undefinedInternal then "&timeInForce=" ++ timeInForce.asRawText f else "") ++
  "&timestamp=" ++ toString nowUtc ++ "&type=" ++ type.asRawText f

/-- The value of each parameter but the last one, if the order has it. -/
def leading : List (Text × Option Text) :=
  [("newClientOrderId".toList,some requestId.toList),
   ("price".toList,if createOrder.price ≠ NaN then
      some (f.decimal createOrder.price refData.price).toList else none),
   ("quantity".toList,some (f.decimal createOrder.quantity refData.quantity).toList),
   ("recvWindow".toList,some (toString recvWindow).toList),
   ("selfTradePreventionMode".toList,
    if createOrderTemplate.selfTradePreventionMode ≠ .undefinedInternal then
      some (createOrderTemplate.selfTradePreventionMode.asRawText f).toList else none),
   ("side".toList,some (createOrder.side.map.asRawText f).toList),
   ("stopPrice".toList,if createOrder.stopPrice ≠ NaN then
      some (f.decimal createOrder.stopPrice refData.price).toList else none),
   ("symbol".toList,some createOrder.symbol.toList),
   ("timeInForce".toList,if mapTimeInForce createOrder ≠ .undefinedInternal then
      some ((mapTimeInForce createOrder).asRawText f).toList else none),
   ("timestamp".toList,some (toString nowUtc).toList)]

def parameters : List (Text × Option Text) :=
  leading f createOrder refData requestId createOrderTemplate recvWindow nowUtc ++
    [("type".toList,some ((mapOrderType createOrder).asRawText f).toList)]

/-- The parameter of that name. -/
def parameter (key : Text) : Option Text :=
  ((parameters f createOrder refData requestId createOrderTemplate recvWindow nowUtc).lookup
    key).join

/-- Two parameters are numbers, the others are texts. -/
def scalar (field : Text × Text) : Text × Object.Scalar :=
  if field.1 = "recvWindow".toList ∨ field.1 = "timestamp".toList then (field.1,.number field.2)
  else (field.1,.text field.2)

/-- REST has two parameters more. -/
def urlParameters (sideEffectType : SideEffectType) : List (Text × Option Text) :=
  let fields := parameters f createOrder refData requestId createOrderTemplate recvWindow nowUtc
  ("isIsolated".toList,if createOrder.marginMode = .isolated then some "TRUE".toList else none) ::
    (fields.take 6 ++ (("sideEffectType".toList,
      if sideEffectType ≠ .undefined then some sideEffectType.enumName.toList else none) ::
      fields.drop 6))

theorem toList_optional {c : Prop} [Decidable c] (text : String) :
    (if c then text else "").toList = if c then text.toList else [] := by
  split_ifs <;> rfl

theorem getD_optional {α β : Type} {c : Prop} [Decidable c] (value : α) (write : α → List β) :
    ((if c then some value else none).map write).getD [] = if c then write value else [] := by
  split_ifs <;> rfl

theorem scalar_text {key : String} (h : key ≠ "recvWindow" ∧ key ≠ "timestamp") (value : Text) :
    scalar (key.toList,value) = (key.toList,.text value) := by
  rw [scalar,if_neg]
  simp only [String.toList_inj]
  exact not_or.mpr h

theorem scalar_number {key : String} (h : key = "recvWindow" ∨ key = "timestamp") (value : Text) :
    scalar (key.toList,value) = (key.toList,.number value) := by
  rw [scalar,if_pos]
  simp only [String.toList_inj]
  exact h

/-- The member that a piece of the text writes. -/
theorem member_text {key : String} (piece : String) (hkey : key ≠ "recvWindow" ∧ key ≠ "timestamp")
    (hpiece : piece = "\"" ++ key ++ "\":\"") (value : String) :
    Object.writeMember (scalar (key.toList,value.toList)) =
      piece.toList ++ (value.toList ++ "\"".toList) := by
  rw [scalar_text hkey,hpiece]
  simp [Object.writeMember, Object.writeText, Object.writeScalar]

theorem member_number {key : String} (piece : String)
    (hkey : key = "recvWindow" ∨ key = "timestamp") (hpiece : piece = "\"" ++ key ++ "\":")
    (value : String) :
    Object.writeMember (scalar (key.toList,value.toList)) = piece.toList ++ value.toList := by
  rw [scalar_number hkey,hpiece]
  simp [Object.writeMember, Object.writeText, Object.writeScalar]

/-- Each piece of the text is a member, with the comma that follows it. -/
theorem toList_placeOrderJson :
    (placeOrderJson f createOrder refData requestId createOrderTemplate recvWindow nowUtc).toList =
      Object.write ((present (parameters f createOrder refData requestId createOrderTemplate
        recvWindow nowUtc)).map scalar) := by
  rw [parameters,present_append,present_some,present_nil,List.map_append,List.map_singleton,
    Object.write_concat,List.flatMap_map,flatMap_present]
  unfold leading placeOrderJson
  simp only [List.flatMap_cons, List.flatMap_nil, getD_optional, Option.map_some, Option.getD_some]
  rw [member_text "\"newClientOrderId\":\"" (by decide) rfl,
    member_text "\"price\":\"" (by decide) rfl,
    member_text "\"quantity\":\"" (by decide) rfl,
    member_number "\"recvWindow\":" (by decide) rfl,
    member_text "\"selfTradePreventionMode\":\"" (by decide) rfl,
    member_text "\"side\":\"" (by decide) rfl,
    member_text "\"stopPrice\":\"" (by decide) rfl,
    member_text "\"symbol\":\"" (by decide) rfl,
    member_text "\"timeInForce\":\"" (by decide) rfl,
    member_number "\"timestamp\":" (by decide) rfl,
    member_text "\"type\":\"" (by decide) rfl]
  have hopen : "\x7b".toList = ['{'] := rfl
  have hclose : "\x7d".toList = ['}'] := rfl
  have hcomma : ",".toList = [','] := rfl
  have hend : "\",".toList = "\"".toList ++ [','] := rfl
  simp only [String.toList_append, toList_optional, List.append_assoc, hopen, hclose, hcomma, hend,
    List.cons_append, List.nil_append, List.append_nil]

/-- The pair that a piece of the text writes. -/
theorem pair_text {key : String} (piece : String) (hpiece : piece = "&" ++ key ++ "=")
    (value : String) :
    '&'::Query.writePair (key.toList,value.toList) = piece.toList ++ value.toList := by
  rw [hpiece]
  simp [Query.writePair]

/-- An isolated wallet puts a pair in front of the one that the others follow. -/
theorem toList_newOrderUrl (sideEffectType : SideEffectType) :
    (newOrderUrl f createOrder refData requestId createOrderTemplate recvWindow nowUtc
      sideEffectType).toList =
      Query.write (present (urlParameters f createOrder refData requestId createOrderTemplate
        recvWindow nowUtc sideEffectType)) := by
  have hrest : ∀ rest : List (Text × Option Text),
      Query.write (present (("newClientOrderId".toList,some requestId.toList)::rest)) =
        "newClientOrderId=".toList ++ (requestId.toList ++
          rest.flatMap fun field => (field.2.map fun value =>
            '&'::Query.writePair (field.1,value)).getD []) := by
    intro rest
    rw [present_some,Query.write_cons,flatMap_present,Query.writePair,
      show "newClientOrderId=" = "newClientOrderId" ++ "=" from rfl,String.toList_append]
    simp only [List.append_assoc, List.cons_append]
    rfl
  have hisolated : ∀ rest : List (Text × Option Text),
      Query.write (present (("isIsolated".toList,
        if createOrder.marginMode = .isolated then some "TRUE".toList else none) ::
          ("newClientOrderId".toList,some requestId.toList)::rest)) =
        (if createOrder.marginMode = .isolated then "isIsolated=TRUE&".toList else []) ++
          Query.write (present (("newClientOrderId".toList,some requestId.toList)::rest)) := by
    intro rest
    split_ifs
    · rw [present_some,present_some,Query.write_cons,Query.write_cons]
      rfl
    · rw [present_none]; rfl
  rw [urlParameters,parameters]
  unfold leading newOrderUrl
  simp only [List.cons_append, List.nil_append, List.take_succ_cons, List.take_zero,
    List.drop_succ_cons, List.drop_zero, hisolated, hrest]
  simp only [List.flatMap_cons, List.flatMap_nil, getD_optional, Option.map_some, Option.getD_some]
  rw [pair_text "&price=" rfl,pair_text "&quantity=" rfl,pair_text "&recvWindow=" rfl,
    pair_text "&selfTradePreventionMode=" rfl,pair_text "&side=" rfl,
    pair_text "&sideEffectType=" rfl,pair_text "&stopPrice=" rfl,pair_text "&symbol=" rfl,
    pair_text "&timeInForce=" rfl,pair_text "&timestamp=" rfl,pair_text "&type=" rfl]
  simp only [String.toList_append, toList_optional, List.append_assoc, List.append_nil]

/-- The characters of the values. -/
def plain (c : Char) : Bool :=
  c.isAlphanum || c == '.' || c == '_' || c == ':' || c == '/' || c == '-'

theorem plain_bounds {c : Char} (h : plain c = true) :
    c ≠ '"' ∧ c ≠ '\\' ∧ 32 ≤ c.toNat ∧ c ≠ '&' ∧ c ≠ '=' := by
  refine ⟨?_,?_,?_,?_,?_⟩
  · rintro rfl; exact absurd h (by decide)
  · rintro rfl; exact absurd h (by decide)
  · by_contra hlt
    have hall : ∀ n : Fin 32, plain (Char.ofNat n.val) = false := by decide
    have hc := hall ⟨c.toNat,by omega⟩
    rw [Char.ofNat_toNat,h] at hc
    exact absurd hc (by decide)
  · rintro rfl; exact absurd h (by decide)
  · rintro rfl; exact absurd h (by decide)

theorem object_plain {c : Char} (h : plain c = true) : Object.plain c = true := by
  obtain ⟨h1,h2,h3,-,-⟩ := plain_bounds h
  simp [Object.plain, h1, h2, h3]

theorem query_plain {c : Char} (h : plain c = true) : Query.plain c = true := by
  obtain ⟨-,-,-,h4,h5⟩ := plain_bounds h
  simp [Query.plain, h4, h5]

theorem plain_toString (n : ℤ) : (toString n).toList.all plain = true := by
  rw [List.all_eq_true]
  intro c hc
  have hs := Numeral.symbol_of_integer (Numeral.integer_toString n) c hc
  simp only [Numeral.symbol, Bool.or_eq_true, beq_iff_eq] at hs
  rcases hs with hs | rfl
  · simp [plain, Char.isAlphanum, hs]
  · rfl

/-- The values that a format, a template or a client puts in are plain. -/
structure Plain : Prop where
  decimal : ∀ x precision, (f.decimal x precision).toList.all plain = true
  internal : f.internal.toList.all plain = true
  requestId : requestId.toList.all plain = true
  symbol : createOrder.symbol.toList.all plain = true

/-- A field is plain, and a number where it has to be. -/
structure Sound (field : Text × Option Text) : Prop where
  key : field.1.all plain = true
  value : ∀ value, field.2 = some value → value.all plain = true
  number : field.1 = "recvWindow".toList ∨ field.1 = "timestamp".toList →
    ∀ value, field.2 = some value → Numeral.integer value = true

theorem sound_some {key : String} (hkey : key.toList.all plain = true)
    (hnumber : key ≠ "recvWindow" ∧ key ≠ "timestamp") {value : Text}
    (h : value.all plain = true) : Sound (key.toList,some value) where
  key := hkey
  value v hv := by cases hv; exact h
  number hk := by simp only [String.toList_inj] at hk; exact absurd hk (not_or.mpr hnumber)

theorem sound_optional {key : String} (hkey : key.toList.all plain = true)
    (hnumber : key ≠ "recvWindow" ∧ key ≠ "timestamp") {c : Prop} [Decidable c] {value : Text}
    (h : value.all plain = true) : Sound (key.toList,if c then some value else none) := by
  split_ifs
  · exact sound_some hkey hnumber h
  · exact ⟨hkey,by simp,by simp⟩

theorem sound_number {key : String} (hkey : key.toList.all plain = true) (n : ℤ) :
    Sound (key.toList,some (toString n).toList) where
  key := hkey
  value v hv := by cases hv; exact plain_toString n
  number _ v hv := by cases hv; exact Numeral.integer_toString n

theorem plain_side (h : f.internal.toList.all plain = true) (side : Side) :
    (side.asRawText f).toList.all plain = true := by
  cases side with
  | undefinedInternal => exact h
  | unknownInternal => exact h
  | _ => simp [Side.asRawText, plain]

theorem plain_type (h : f.internal.toList.all plain = true) (type : OrderType) :
    (type.asRawText f).toList.all plain = true := by
  cases type with
  | undefinedInternal => exact h
  | unknownInternal => exact h
  | _ => simp [OrderType.asRawText, plain]

theorem plain_timeInForce (h : f.internal.toList.all plain = true) (timeInForce : TimeInForce) :
    (timeInForce.asRawText f).toList.all plain = true := by
  cases timeInForce with
  | undefinedInternal => exact h
  | unknownInternal => exact h
  | _ => simp [TimeInForce.asRawText, plain]

theorem plain_mode (h : f.internal.toList.all plain = true) (mode : SelfTradePreventionMode) :
    (mode.asRawText f).toList.all plain = true := by
  cases mode with
  | undefinedInternal => exact h
  | unknownInternal => exact h
  | _ => simp [SelfTradePreventionMode.asRawText, plain]

theorem plain_sideEffectType (sideEffectType : SideEffectType) :
    sideEffectType.enumName.toList.all plain = true := by
  cases sideEffectType <;> simp [SideEffectType.enumName, plain]

variable {f createOrder requestId}

theorem sound_parameters (h : Plain f createOrder requestId) :
    ∀ field ∈ parameters f createOrder refData requestId createOrderTemplate recvWindow nowUtc,
      Sound field := by
  simp only [parameters, leading, List.forall_mem_append, List.forall_mem_cons]
  refine ⟨⟨?_,?_,?_,?_,?_,?_,?_,?_,?_,?_,by simp⟩,?_,by simp⟩
  · exact sound_some rfl (by decide) h.requestId
  · exact sound_optional rfl (by decide) (h.decimal _ _)
  · exact sound_some rfl (by decide) (h.decimal _ _)
  · exact sound_number rfl recvWindow
  · exact sound_optional rfl (by decide) (plain_mode f h.internal _)
  · exact sound_some rfl (by decide) (plain_side f h.internal _)
  · exact sound_optional rfl (by decide) (h.decimal _ _)
  · exact sound_some rfl (by decide) h.symbol
  · exact sound_optional rfl (by decide) (plain_timeInForce f h.internal _)
  · exact sound_number rfl nowUtc
  · exact sound_some rfl (by decide) (plain_type f h.internal _)

theorem sound_urlParameters (h : Plain f createOrder requestId) (sideEffectType : SideEffectType) :
    ∀ field ∈ urlParameters f createOrder refData requestId createOrderTemplate recvWindow nowUtc
      sideEffectType, Sound field := by
  have hall := sound_parameters refData createOrderTemplate recvWindow nowUtc h
  simp only [urlParameters, List.forall_mem_append, List.forall_mem_cons]
  refine ⟨sound_optional rfl (by decide) rfl,?_,?_,?_⟩
  · intro field hfield; exact hall field (List.mem_of_mem_take hfield)
  · exact sound_optional rfl (by decide) (plain_sideEffectType _)
  · intro field hfield; exact hall field (List.mem_of_mem_drop hfield)

/-- The members of the object. -/
theorem read_placeOrderJson (h : Plain f createOrder requestId) :
    Object.read (placeOrderJson f createOrder refData requestId createOrderTemplate recvWindow
      nowUtc).toList =
      some ((present (parameters f createOrder refData requestId createOrderTemplate recvWindow
        nowUtc)).map scalar) := by
  rw [toList_placeOrderJson]
  apply Object.read_write
  · simp [parameters, present_append]
  · intro member hmember
    obtain ⟨field,hfield,rfl⟩ := List.mem_map.mp hmember
    have hs := sound_parameters refData createOrderTemplate recvWindow nowUtc h _
      (mem_present.mp hfield)
    have hkey := List.all_eq_true.mp hs.key
    have hvalue := List.all_eq_true.mp (hs.value _ rfl)
    unfold scalar
    split_ifs with hnumber
    · exact ⟨fun c hc => object_plain (hkey c hc),by simp,by simpa using hs.number hnumber⟩
    · refine ⟨fun c hc => object_plain (hkey c hc),?_,by simp⟩
      rintro value ⟨⟩ c hc
      exact object_plain (hvalue c hc)

theorem read_newOrderUrl (h : Plain f createOrder requestId) (sideEffectType : SideEffectType) :
    Query.read (newOrderUrl f createOrder refData requestId createOrderTemplate recvWindow nowUtc
      sideEffectType).toList =
      some (present (urlParameters f createOrder refData requestId createOrderTemplate recvWindow
        nowUtc sideEffectType)) := by
  rw [toList_newOrderUrl]
  apply Query.read_write
  · intro hnil
    have hfirst : ("newClientOrderId".toList,requestId.toList) ∈ present (urlParameters f
        createOrder refData requestId createOrderTemplate recvWindow nowUtc sideEffectType) := by
      rw [mem_present]
      simp [urlParameters, parameters, leading]
    rw [hnil] at hfirst
    exact absurd hfirst List.not_mem_nil
  · intro pair hpair
    have hs := sound_urlParameters refData createOrderTemplate recvWindow nowUtc h sideEffectType _
      (mem_present.mp hpair)
    have hkey := List.all_eq_true.mp hs.key
    have hvalue := List.all_eq_true.mp (hs.value _ rfl)
    exact ⟨fun c hc => query_plain (hkey c hc),fun c hc => query_plain (hvalue c hc)⟩

def names : List String :=
  ["newClientOrderId","price","quantity","recvWindow","selfTradePreventionMode","side","stopPrice",
   "symbol","timeInForce","timestamp","type"]

variable (f createOrder requestId)

theorem keys_parameters :
    (parameters f createOrder refData requestId createOrderTemplate recvWindow nowUtc).map Prod.fst =
      names.map String.toList := by
  simp only [parameters, leading, names, List.map_cons, List.map_nil, List.cons_append,
    List.nil_append]

theorem nodup_parameters :
    ((parameters f createOrder refData requestId createOrderTemplate recvWindow nowUtc).map
      Prod.fst).Nodup := by
  rw [keys_parameters]
  exact List.Nodup.map (fun _ _ => String.toList_injective) (by decide)

theorem nodup_urlParameters (sideEffectType : SideEffectType) :
    ((urlParameters f createOrder refData requestId createOrderTemplate recvWindow nowUtc
      sideEffectType).map Prod.fst).Nodup := by
  have h : (urlParameters f createOrder refData requestId createOrderTemplate recvWindow nowUtc
      sideEffectType).map Prod.fst =
        ("isIsolated"::(names.take 6 ++ "sideEffectType"::names.drop 6)).map String.toList := by
    simp only [urlParameters, List.map_cons, List.map_append, List.map_take, List.map_drop,
      keys_parameters]
  rw [h]
  exact List.Nodup.map (fun _ _ => String.toList_injective) (by decide)

/-- The value of a member is the parameter, whether it is a number or a text. -/
theorem lookup_members (key : Text) :
    (((present (parameters f createOrder refData requestId createOrderTemplate recvWindow
      nowUtc)).map scalar).lookup key).map Object.Scalar.value =
      parameter f createOrder refData requestId createOrderTemplate recvWindow nowUtc key := by
  have hscalar : scalar = fun field => (field.1,(scalar (field.1,field.2)).2) := by
    funext field
    unfold scalar
    split_ifs <;> rfl
  have hvalue : ∀ value : Text, (scalar (key,value)).2.value = value := by
    intro value
    unfold scalar
    split_ifs <;> rfl
  rw [hscalar,lookup_map (f := fun key value => (scalar (key,value)).2),Option.map_map,parameter,
    ← lookup_present (nodup_parameters f createOrder refData requestId createOrderTemplate
      recvWindow nowUtc)]
  simp [Function.comp_def, hvalue]

theorem lookup_pairs (sideEffectType : SideEffectType) {key : Text}
    (h : key ≠ "isIsolated".toList) (h' : key ≠ "sideEffectType".toList) :
    (present (urlParameters f createOrder refData requestId createOrderTemplate recvWindow nowUtc
      sideEffectType)).lookup key =
      parameter f createOrder refData requestId createOrderTemplate recvWindow nowUtc key := by
  rw [lookup_present (nodup_urlParameters f createOrder refData requestId createOrderTemplate
    recvWindow nowUtc sideEffectType),urlParameters,parameter]
  rw [← List.nil_append (_::_),lookup_insert h,List.nil_append,lookup_insert h',
    List.take_append_drop]

/-- Both texts are well formed and name no parameter twice; but for the two that only REST has,
they carry the same parameters of the order. -/
theorem texts_carry_order (h : Plain f createOrder requestId) (sideEffectType : SideEffectType) :
    ∃ members pairs,
      Object.read (placeOrderJson f createOrder refData requestId createOrderTemplate recvWindow
        nowUtc).toList = some members ∧ (members.map Prod.fst).Nodup ∧
      Query.read (newOrderUrl f createOrder refData requestId createOrderTemplate recvWindow nowUtc
        sideEffectType).toList = some pairs ∧ (pairs.map Prod.fst).Nodup ∧
      (∀ key, (members.lookup key).map Object.Scalar.value =
        parameter f createOrder refData requestId createOrderTemplate recvWindow nowUtc key) ∧
      ∀ key, key ≠ "isIsolated".toList → key ≠ "sideEffectType".toList → pairs.lookup key =
        parameter f createOrder refData requestId createOrderTemplate recvWindow nowUtc key := by
  refine ⟨_,_,read_placeOrderJson refData createOrderTemplate recvWindow nowUtc h,?_,
    read_newOrderUrl refData createOrderTemplate recvWindow nowUtc h sideEffectType,?_,?_,?_⟩
  · have hkeys : ∀ fields : List (Text × Text),
        (fields.map scalar).map Prod.fst = fields.map Prod.fst := by
      intro fields
      rw [List.map_map]
      congr 1
      funext field
      change (scalar field).1 = field.1
      unfold scalar
      split_ifs <;> rfl
    rw [hkeys]
    exact nodup_present (nodup_parameters f createOrder refData requestId createOrderTemplate
      recvWindow nowUtc)
  · exact nodup_present (nodup_urlParameters f createOrder refData requestId createOrderTemplate
      recvWindow nowUtc sideEffectType)
  · exact lookup_members f createOrder refData requestId createOrderTemplate recvWindow nowUtc
  · intro key hisolated hside
    exact lookup_pairs f createOrder refData requestId createOrderTemplate recvWindow nowUtc
      sideEffectType hisolated hside

/-- Prints a whole number as a decimal does; the order is for one unit at the price of one. -/
def sampleFormats : Formats where
  decimal x _ := match x with
    | none => "nan"
    | some q => toString q.floor
  internal := ""

def sampleOrder : CreateOrderParameters where
  account := "A1"
  orderId := 1
  symbol := "BTC"
  marginMode := .undefined
  requestTemplate := ""
  side := .buy
  orderType := .limit
  timeInForce := .gtc
  executionInstructions := []
  quantity := some 1
  price := some 1
  stopPrice := NaN

example : placeOrderJson sampleFormats sampleOrder ⟨0,0⟩ "oid:1234" ⟨.undefinedInternal⟩ 5000 0 =
    "\x7b\"newClientOrderId\":\"oid:1234\",\"price\":\"1\",\"quantity\":\"1\"," ++
    "\"recvWindow\":5000,\"side\":\"BUY\",\"symbol\":\"BTC\",\"timeInForce\":\"GTC\"," ++
    "\"timestamp\":0,\"type\":\"LIMIT\"\x7d" := by decide

theorem plain_sample : Plain sampleFormats sampleOrder "oid:1234" where
  decimal x precision := by
    cases x with
    | none => simp [sampleFormats, plain]
    | some q => exact plain_toString q.floor
  internal := rfl
  requestId := by simp [plain]
  symbol := by simp [sampleOrder, plain]

theorem texts_carry_sampleOrder :
    ∃ members pairs,
      Object.read (placeOrderJson sampleFormats sampleOrder ⟨0,0⟩ "oid:1234" ⟨.expireTaker⟩ 5000
        0).toList = some members ∧ (members.map Prod.fst).Nodup ∧
      Query.read (newOrderUrl sampleFormats sampleOrder ⟨0,0⟩ "oid:1234" ⟨.expireTaker⟩ 5000 0
        .marginBuy).toList = some pairs ∧ (pairs.map Prod.fst).Nodup ∧
      (∀ key, (members.lookup key).map Object.Scalar.value =
        parameter sampleFormats sampleOrder ⟨0,0⟩ "oid:1234" ⟨.expireTaker⟩ 5000 0 key) ∧
      ∀ key, key ≠ "isIsolated".toList → key ≠ "sideEffectType".toList → pairs.lookup key =
        parameter sampleFormats sampleOrder ⟨0,0⟩ "oid:1234" ⟨.expireTaker⟩ 5000 0 key :=
  texts_carry_order sampleFormats sampleOrder ⟨0,0⟩ "oid:1234" ⟨.expireTaker⟩ 5000 0 plain_sample
    .marginBuy

/-- A stop price is there for the stop types only, and a time in force for the types that may
rest in the book. -/
structure TypeMatches (fields : List (Text × Text)) : Prop where
  stopPrice : (fields.lookup "stopPrice".toList).isSome = true ↔
    fields.lookup "type".toList = some "STOP_LOSS".toList ∨
    fields.lookup "type".toList = some "STOP_LOSS_LIMIT".toList
  timeInForce : (fields.lookup "timeInForce".toList).isSome = true →
    fields.lookup "type".toList = some "LIMIT".toList ∨
    fields.lookup "type".toList = some "STOP_LOSS_LIMIT".toList

theorem typeMatches_lookups {fields : List (Text × Text)} {p q : Prop} [Decidable p] [Decidable q]
    {stopPrice timeInForce : Text} {type : String}
    (hstop : fields.lookup "stopPrice".toList = if p then some stopPrice else none)
    (htime : fields.lookup "timeInForce".toList = if q then some timeInForce else none)
    (htype : fields.lookup "type".toList = some type.toList) :
    TypeMatches fields ↔ (p ↔ type = "STOP_LOSS" ∨ type = "STOP_LOSS_LIMIT") ∧
      (q → type = "LIMIT" ∨ type = "STOP_LOSS_LIMIT") := by
  have hp : (fields.lookup "stopPrice".toList).isSome = true ↔ p := by
    rw [hstop]
    split_ifs with h <;> simp [h]
  have hq : (fields.lookup "timeInForce".toList).isSome = true ↔ q := by
    rw [htime]
    split_ifs with h <;> simp [h]
  have ht : ∀ name : String, fields.lookup "type".toList = some name.toList ↔ type = name := by
    intro name
    rw [htype,Option.some_inj,String.toList_inj]
  constructor
  · rintro ⟨h1,h2⟩
    rw [hp,ht,ht] at h1
    rw [hq,ht,ht] at h2
    exact ⟨h1,h2⟩
  · rintro ⟨h1,h2⟩
    refine ⟨?_,?_⟩
    · rw [hp,ht,ht]; exact h1
    · rw [hq,ht,ht]; exact h2

/-- What the three choices of the encoder have to agree on. -/
theorem typeMatches_iff {fields : List (Text × Text)}
    (horder : createOrder.orderType ≠ .undefined)
    (hfields : ∀ key, key ≠ "isIsolated".toList → key ≠ "sideEffectType".toList →
      fields.lookup key =
        parameter f createOrder refData requestId createOrderTemplate recvWindow nowUtc key) :
    TypeMatches fields ↔ ¬ (createOrder.orderType = .limit ∧
      .participateDoNotInitiate ∈ createOrder.executionInstructions ∧
      createOrder.stopPrice ≠ NaN) := by
  have hstop : fields.lookup "stopPrice".toList = if createOrder.stopPrice ≠ NaN then
      some (f.decimal createOrder.stopPrice refData.price).toList else none := by
    rw [hfields _ (by decide) (by decide)]
    rfl
  have htime : fields.lookup "timeInForce".toList =
      if mapTimeInForce createOrder ≠ .undefinedInternal then
        some ((mapTimeInForce createOrder).asRawText f).toList else none := by
    rw [hfields _ (by decide) (by decide)]
    rfl
  have htype : fields.lookup "type".toList = some ((mapOrderType createOrder).asRawText f).toList := by
    rw [hfields _ (by decide) (by decide)]
    rfl
  rw [typeMatches_lookups hstop htime htype]
  constructor
  · rintro ⟨hs,-⟩ ⟨hlimit,hpost,hprice⟩
    simp only [mapOrderType, hlimit, if_pos hpost] at hs
    exact absurd (hs.mp hprice) (by simp [OrderType.asRawText])
  · intro hcond
    cases ho : createOrder.orderType with
    | undefined => exact absurd ho horder
    | market =>
      by_cases hprice : createOrder.stopPrice = NaN <;>
        simp [mapOrderType, mapTimeInForce, ho, hprice, OrderType.asRawText]
    | limit =>
      by_cases hpost : .participateDoNotInitiate ∈ createOrder.executionInstructions
      · have hprice : createOrder.stopPrice = NaN := by
          by_contra h
          exact hcond ⟨ho,hpost,h⟩
        simp [mapOrderType, mapTimeInForce, ho, hpost, hprice, OrderType.asRawText]
      · by_cases hprice : createOrder.stopPrice = NaN <;>
          simp [mapOrderType, mapTimeInForce, ho, hpost, hprice, OrderType.asRawText]

/-- Both texts match their type exactly if a post-only order has no stop price. -/
theorem order_type_matches_iff (horder : createOrder.orderType ≠ .undefined)
    (sideEffectType : SideEffectType) :
    (placeOrderJson f createOrder refData requestId createOrderTemplate recvWindow nowUtc).toList =
      Object.write ((present (parameters f createOrder refData requestId createOrderTemplate
        recvWindow nowUtc)).map scalar) ∧
    (newOrderUrl f createOrder refData requestId createOrderTemplate recvWindow nowUtc
      sideEffectType).toList =
      Query.write (present (urlParameters f createOrder refData requestId createOrderTemplate
        recvWindow nowUtc sideEffectType)) ∧
    (TypeMatches (present (parameters f createOrder refData requestId createOrderTemplate recvWindow
        nowUtc)) ↔
      ¬ (createOrder.orderType = .limit ∧
        .participateDoNotInitiate ∈ createOrder.executionInstructions ∧
        createOrder.stopPrice ≠ NaN)) ∧
    (TypeMatches (present (urlParameters f createOrder refData requestId createOrderTemplate
        recvWindow nowUtc sideEffectType)) ↔
      ¬ (createOrder.orderType = .limit ∧
        .participateDoNotInitiate ∈ createOrder.executionInstructions ∧
        createOrder.stopPrice ≠ NaN)) := by
  refine ⟨toList_placeOrderJson f createOrder refData requestId createOrderTemplate recvWindow
    nowUtc,toList_newOrderUrl f createOrder refData requestId createOrderTemplate recvWindow nowUtc
    sideEffectType,?_,?_⟩
  · apply typeMatches_iff f createOrder refData requestId createOrderTemplate recvWindow nowUtc horder
    intro key _ _
    rw [lookup_present (nodup_parameters f createOrder refData requestId createOrderTemplate
      recvWindow nowUtc),parameter]
  · apply typeMatches_iff f createOrder refData requestId createOrderTemplate recvWindow nowUtc horder
    intro key hisolated hside
    exact lookup_pairs f createOrder refData requestId createOrderTemplate recvWindow nowUtc
      sideEffectType hisolated hside

theorem sampleOrder_type_matches :
    TypeMatches (present (parameters sampleFormats sampleOrder ⟨0,0⟩ "oid:1234" ⟨.expireTaker⟩ 5000
      0)) :=
  (order_type_matches_iff sampleFormats sampleOrder ⟨0,0⟩ "oid:1234" ⟨.expireTaker⟩ 5000 0
    (by decide) .undefined).2.2.1.mpr (by decide)

/-- A post-only order with a stop price is a `LIMIT_MAKER` with a stop price. -/
theorem limitMaker_has_stopPrice :
    ¬ TypeMatches (present (parameters sampleFormats
      {sampleOrder with executionInstructions := [.participateDoNotInitiate], stopPrice := some 2}
      ⟨0,0⟩ "oid:1234" ⟨.expireTaker⟩ 5000 0)) := by
  intro h
  have htype := h.stopPrice.mp rfl
  revert htype
  decide

end Encoder
end Protocol.Json
end RoqBinance
