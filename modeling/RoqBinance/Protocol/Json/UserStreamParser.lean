import RoqBinance.Library.Dictionary
import RoqBinance.Protocol.Json.Types

/-! The parser of the user stream, for messages wrapped as a named stream with data and for
the raw events of the portfolio API. The types of the members are those of the schemas; how
their values are read is left to the generated parsers. -/
namespace RoqBinance.Protocol.Json
open Library (Json Member Codec)

inductive ValueType
  | stringView | bool | int32 | int64 | uint64 | double | milliseconds
  | eventType | side | orderType | timeInForce | executionType | orderStatus
  | balancesItems | listStatusItems
  deriving DecidableEq, Repr

def executionReportData : List (Member ValueType) := [
  ⟨"e","event_type",.eventType⟩,
  ⟨"E","event_time",.milliseconds⟩,
  ⟨"s","symbol",.stringView⟩,
  ⟨"c","client_order_id",.stringView⟩,
  ⟨"S","side",.side⟩,
  ⟨"o","order_type",.orderType⟩,
  ⟨"f","time_in_force",.timeInForce⟩,
  ⟨"q","quantity",.double⟩,
  ⟨"p","price",.double⟩,
  ⟨"P","stop_price",.double⟩,
  ⟨"F","iceberg_quantity",.double⟩,
  ⟨"g","order_list_id",.int64⟩,
  ⟨"C","original_client_order_id",.stringView⟩,
  ⟨"x","current_execution_type",.executionType⟩,
  ⟨"X","current_order_status",.orderStatus⟩,
  ⟨"r","order_reject_reason",.stringView⟩,
  ⟨"i","order_id",.int64⟩,
  ⟨"l","last_executed_quantity",.double⟩,
  ⟨"z","cumulative_filled_quantity",.double⟩,
  ⟨"L","last_executed_price",.double⟩,
  ⟨"n","commission_amount",.double⟩,
  ⟨"N","commission_asset",.stringView⟩,
  ⟨"T","transaction_time",.milliseconds⟩,
  ⟨"t","trade_id",.int64⟩,
  ⟨"w","order_on_book",.bool⟩,
  ⟨"m","is_trade_maker",.bool⟩,
  ⟨"O","order_creation_time",.milliseconds⟩,
  ⟨"Z","cumulative_quote_asset_transacted_quantity",.double⟩,
  ⟨"Y","last_quote_asset_transacted_quantity",.double⟩,
  ⟨"Q","quote_order_qty",.double⟩,
  ⟨"W","working_time",.milliseconds⟩,
  ⟨"V","self_trade_prevention",.stringView⟩,
  ⟨"j","strategy_id",.int64⟩,
  ⟨"J","strategy_type",.int32⟩,
  ⟨"eR","expiry_reason",.stringView⟩]

def balanceUpdateData : List (Member ValueType) := [
  ⟨"e","event_type",.stringView⟩,
  ⟨"E","event_time",.milliseconds⟩,
  ⟨"a","asset",.stringView⟩,
  ⟨"d","balance_delta",.double⟩,
  ⟨"U","update_id",.uint64⟩,
  ⟨"T","clear_time",.milliseconds⟩]

def listStatusData : List (Member ValueType) := [
  ⟨"e","event_type",.eventType⟩,
  ⟨"E","event_time",.milliseconds⟩,
  ⟨"s","symbol",.stringView⟩,
  ⟨"g","order_list_id",.int32⟩,
  ⟨"c","contingency_type",.stringView⟩,
  ⟨"l","list_status_type",.stringView⟩,
  ⟨"L","list_order_status",.stringView⟩,
  ⟨"r","list_reject_reasson",.stringView⟩,
  ⟨"C","list_client_order_id",.stringView⟩,
  ⟨"T","transaction_time",.milliseconds⟩,
  ⟨"O","objects",.listStatusItems⟩]

def outboundAccountPositionData : List (Member ValueType) := [
  ⟨"e","event_type",.eventType⟩,
  ⟨"E","event_time",.milliseconds⟩,
  ⟨"u","time_of_last_account_update",.milliseconds⟩,
  ⟨"U","event_update_id",.uint64⟩,
  ⟨"B","balances",.balancesItems⟩]

/-- The generated parsers: a JSON string is read as a string, and the text of an event type
that is told apart is neither the empty string nor the undefined event type. -/
structure GeneratedParsers (V : Type) extends Codec ValueType V where
  eventType : Json → Option EventType
  getString : ∀ s, (get .stringView (.string s)).isSome
  eventType_ne_default : ∀ j, eventType j ≠ none → eventType j ≠ some .undefinedInternal →
    get .eventType j ≠ some (default .eventType) ∧ get .stringView j ≠ some (default .stringView)

/-- `stream` and `data` of a message. -/
structure Message (V : Type) where
  stream : V
  data : List V
  deriving DecidableEq, Repr

namespace UserStreamParser
variable {V : Type}

def EVENT_TYPE : String := "e"

/-- The callbacks of the handler. -/
inductive Callback | outboundAccountPosition | balanceUpdate | executionReport | listStatus
  deriving DecidableEq, Repr

def Callback.eventType : Callback → EventType
  | outboundAccountPosition => .outboundAccountPosition
  | balanceUpdate => .balanceUpdate
  | executionReport => .executionReport
  | listStatus => .listStatus

def Callback.data : Callback → List (Member ValueType)
  | outboundAccountPosition => outboundAccountPositionData
  | balanceUpdate => balanceUpdateData
  | executionReport => executionReportData
  | listStatus => listStatusData

/-- `handled none` is an event that is accepted without a callback. -/
inductive Outcome (V : Type)
  | handled (called : Option (Callback × Message V))
  | skipped
  | fatal
  | thrown
  deriving DecidableEq, Repr

def STREAM : Member ValueType := ⟨"stream","stream",.stringView⟩
def DATA : Member Unit := ⟨"data","data",()⟩

/-- The raw text of an object stands for the object; other values have no object at their root. -/
def rawText : Codec Unit Json.Object where
  default _ := []
  get
    | _, .object fields => some fields
    | _, _ => none

variable (c : GeneratedParsers V)

/-- The dictionary with the members `stream` and `data`. -/
def parseMessage (data : List (Member ValueType)) (message : Json.Object) : Option (Message V) :=
  (c.fill STREAM message).bind fun stream =>
    ((c.nested data).fill DATA message).map fun data => ⟨stream,data⟩

def dispatchHelper (callback : Callback) (message : Json.Object) : Outcome V :=
  match parseMessage c callback.data message with
  | some m => .handled (some (callback,m))
  | none => .thrown

def tryDispatch (message : Json.Object) (eventType : EventType) (allowUnknownEventTypes : Bool) :
    Outcome V :=
  match eventType with
  | .undefinedInternal => .fatal
  | .unknownInternal => if allowUnknownEventTypes then .skipped else .fatal
  | .serverShutdown => if allowUnknownEventTypes then .skipped else .fatal
  | .aggTrade => .fatal
  | .trade => .fatal
  | .miniTicker24hr => .fatal
  | .bookTicker => .fatal
  | .depthUpdate => .fatal
  | .outboundAccountPosition => dispatchHelper c .outboundAccountPosition message
  | .balanceUpdate => dispatchHelper c .balanceUpdate message
  | .executionReport => dispatchHelper c .executionReport message
  | .listStatus => dispatchHelper c .listStatus message
  | .openOrderLoss => .handled none
  | .orderTradeUpdate => .handled none
  | .eventStreamTerminated => if allowUnknownEventTypes then .skipped else .fatal
  | .accountUpdate => if allowUnknownEventTypes then .skipped else .fatal
  | .positionHistoryUpdate => if allowUnknownEventTypes then .skipped else .fatal
  | .liabilityChange => if allowUnknownEventTypes then .skipped else .fatal

/-- The loop over the keys of `root`, shared by both entry points: only the first event type
counts, and it is `message` that is parsed. -/
def dispatchRoot (message root : Json.Object) (allowUnknownEventTypes : Bool) : Outcome V :=
  match Json.first EVENT_TYPE root with
  | none => .skipped
  | some value =>
    match c.eventType value with
    | none => .thrown
    | some eventType => tryDispatch c message eventType allowUnknownEventTypes

def dispatch (message : Json.Object) (allowUnknownEventTypes : Bool) : Outcome V :=
  match c.fill STREAM message, rawText.fill DATA message with
  | some _, some data => dispatchRoot c message data allowUnknownEventTypes
  | _, _ => .thrown

def dispatchPapi (message : Json.Object) (allowUnknownEventTypes : Bool) : Outcome V :=
  dispatchRoot c message message allowUnknownEventTypes

/-- Which callback was invoked, and the `data` it was given. -/
def Outcome.called : Outcome V → Option (Callback × List V)
  | handled (some (callback,m)) => some (callback,m.data)
  | _ => none

def wrap (stream : String) (E : Json.Object) : Json.Object :=
  [("stream",.string stream),("data",.object E)]

/-- `E` is an event of the type that `callback` serves. -/
structure IsEvent (callback : Callback) (E : Json.Object) : Prop where
  present : ∃ x ∈ E, x.1 = EVENT_TYPE
  type : ∀ x ∈ E, x.1 = EVENT_TYPE → c.eventType x.2 = some callback.eventType

theorem tryDispatch_eventType (callback : Callback) (message : Json.Object) (allow : Bool) :
    tryDispatch c message callback.eventType allow = dispatchHelper c callback message := by
  cases callback <;> rfl

theorem called_dispatchHelper (callback : Callback) (message : Json.Object) :
    (dispatchHelper c callback message).called =
      (parseMessage c callback.data message).map fun m => (callback,m.data) := by
  unfold dispatchHelper
  cases parseMessage c callback.data message <;> rfl

theorem first_of_mem {key : String} {fields : Json.Object} (h : ∃ x ∈ fields, x.1 = key) :
    ∃ v, Json.first key fields = some v ∧ (key,v) ∈ fields := by
  induction fields with
  | nil => simp at h
  | cons x fields ih =>
    obtain ⟨k,v⟩ := x
    by_cases hk : k = key
    · subst k; exact ⟨v,by simp [Json.first],List.mem_cons_self⟩
    · obtain ⟨y,hy,hkey⟩ := h
      have hy' : y ∈ fields := by
        rcases List.mem_cons.mp hy with rfl | hy
        · exact absurd hkey hk
        · exact hy
      obtain ⟨w,hw,hmem⟩ := ih ⟨y,hy',hkey⟩
      exact ⟨w,by rw [Json.first, if_neg hk, hw],List.mem_cons_of_mem _ hmem⟩

variable {c}

theorem dispatchRoot_event {callback : Callback} {E : Json.Object} (h : IsEvent c callback E)
    (message : Json.Object) (allow : Bool) :
    dispatchRoot c message E allow = dispatchHelper c callback message := by
  obtain ⟨v,hv,hmem⟩ := first_of_mem h.present
  have ht := h.type _ hmem rfl
  rw [dispatchRoot, hv]
  simp only [ht, tryDispatch_eventType]

/-- On the raw path `data` is what the event holds under a key of its own. -/
theorem called_dispatchPapi {callback : Callback} {E : Json.Object} (h : IsEvent c callback E)
    (allow : Bool) : (dispatchPapi c E allow).called =
      (parseMessage c callback.data E).map fun m => (callback,m.data) := by
  rw [dispatchPapi, dispatchRoot_event h, called_dispatchHelper]

/-- On the wrapped path `data` is the event itself. -/
theorem called_dispatch_wrap {callback : Callback} {E : Json.Object} (h : IsEvent c callback E)
    (stream : String) (allow : Bool) : (dispatch c (wrap stream E) allow).called =
      (c.parse E callback.data).map fun data => (callback,data) := by
  obtain ⟨v,hv⟩ := Option.isSome_iff_exists.mp (c.getString stream)
  have hs : c.fill STREAM (wrap stream E) = some v := by
    simp [Codec.fill, Codec.fillFrom, wrap, STREAM, hv]
  have hr : rawText.fill DATA (wrap stream E) = some E := by
    simp [Codec.fill, Codec.fillFrom, wrap, DATA, rawText]
  have hd : (c.nested callback.data).fill DATA (wrap stream E) = c.parse E callback.data := by
    simp [Codec.fill, Codec.fillFrom, wrap, DATA, Codec.nested]
  simp only [dispatch, hs, hr, dispatchRoot_event h, called_dispatchHelper, parseMessage, hd]
  cases c.parse E callback.data <;> rfl

variable (c) in
/-- What `E` holds under the keys `stream` and `data` of its own decodes to the members of `E`
itself; without a key `data` that is an object without members. -/
def Mirrors (callback : Callback) (E : Json.Object) : Prop :=
  (parseMessage c callback.data E).map Message.data = c.parse E callback.data

/-- The member for the event type does not keep its default. -/
theorem eventType_filled {callback : Callback} {E : Json.Object} (h : IsEvent c callback E)
    {m : Member ValueType} (hkey : m.key = EVENT_TYPE)
    (htype : m.type = .eventType ∨ m.type = .stringView) : c.fill m E ≠ some (c.default m.type) := by
  intro hf
  obtain ⟨j,hj,hget⟩ := c.fillFrom_present m (by rw [hkey]; exact h.present) hf
  have ht := h.type _ hj hkey
  have hne := c.eventType_ne_default j (by rw [ht]; simp) (by rw [ht]; cases callback <;> decide)
  rcases htype with hm | hm <;> rw [hm] at hget
  · exact hne.1 hget
  · exact hne.2 hget

theorem parse_ne_defaults {callback : Callback} {E : Json.Object} (h : IsEvent c callback E) :
    c.parse E callback.data ≠ some (c.defaults callback.data) := by
  intro hp
  cases callback with
  | outboundAccountPosition => exact eventType_filled h rfl (.inl rfl) (c.fill_head_of_parse hp)
  | balanceUpdate => exact eventType_filled h rfl (.inr rfl) (c.fill_head_of_parse hp)
  | executionReport => exact eventType_filled h rfl (.inl rfl) (c.fill_head_of_parse hp)
  | listStatus => exact eventType_filled h rfl (.inl rfl) (c.fill_head_of_parse hp)

/-- An event without a key `stream` or `data` gives a raw message with default data. -/
theorem parseMessage_plain {E : Json.Object} (h : ∀ x ∈ E, x.1 ≠ "stream" ∧ x.1 ≠ "data")
    (data : List (Member ValueType)) :
    parseMessage c data E = some ⟨c.default .stringView,c.defaults data⟩ := by
  have hs : c.fill STREAM E = some (c.default .stringView) :=
    c.fill_absent STREAM fun x hx => (h x hx).1
  have hd : (c.nested data).fill DATA E = some (c.defaults data) :=
    (c.nested data).fill_absent DATA fun x hx => (h x hx).2
  simp [parseMessage, hs, hd]

theorem not_mirrors_plain {callback : Callback} {E : Json.Object} (h : IsEvent c callback E)
    (hplain : ∀ x ∈ E, x.1 ≠ "stream" ∧ x.1 ≠ "data") : ¬ Mirrors c callback E := by
  intro hm
  rw [Mirrors, parseMessage_plain hplain] at hm
  exact parse_ne_defaults h hm.symm

/-- The two entry points agree on exactly those events that carry a copy of themselves, hence
on no event of the portfolio API as it is sent. -/
theorem dispatchPapi_agrees_iff (c : GeneratedParsers V) {callback : Callback} {E : Json.Object}
    (h : IsEvent c callback E) (stream : String) (allow : Bool) :
    ((dispatchPapi c E allow).called = (dispatch c (wrap stream E) allow).called ↔
      Mirrors c callback E) ∧
    ((∀ x ∈ E, x.1 ≠ "stream" ∧ x.1 ≠ "data") → ¬ Mirrors c callback E) := by
  refine ⟨?_,not_mirrors_plain h⟩
  rw [called_dispatchPapi h, called_dispatch_wrap h, Mirrors]
  cases hm : parseMessage c callback.data E <;> cases hp : c.parse E callback.data <;> simp

def eventTypeOfText (text : String) : EventType :=
  match text with
  | "" => .undefinedInternal
  | "outboundAccountPosition" => .outboundAccountPosition
  | "balanceUpdate" => .balanceUpdate
  | "executionReport" => .executionReport
  | "listStatus" => .listStatus
  | _ => .unknownInternal

def textParsers : GeneratedParsers String where
  default _ := ""
  get
    | _, .string text => some text
    | _, .number text => some text
    | _, _ => none
  eventType
    | .string text => some (eventTypeOfText text)
    | _ => none
  getString _ := rfl
  eventType_ne_default j hn hu := by
    cases j with
    | string text =>
      have ht : text ≠ "" := by
        rintro rfl; exact hu rfl
      simp [ht]
    | _ => exact absurd rfl hn

def filled : Json.Object :=
  [("e",.string "executionReport"),("s",.string "BTCUSDT"),("X",.string "FILLED")]

theorem isEvent_filled : IsEvent textParsers .executionReport filled where
  present := ⟨("e",.string "executionReport"),by simp [filled],rfl⟩
  type := by simp [filled, EVENT_TYPE, textParsers, eventTypeOfText, Callback.eventType]

theorem dispatchPapi_agrees_filled :
    ((dispatchPapi textParsers filled true).called =
        (dispatch textParsers (wrap "listenKey" filled) true).called ↔
      Mirrors textParsers .executionReport filled) ∧
    ((∀ x ∈ filled, x.1 ≠ "stream" ∧ x.1 ≠ "data") → ¬ Mirrors textParsers .executionReport filled) :=
  dispatchPapi_agrees_iff textParsers isEvent_filled "listenKey" true

/-- The symbol of an execution report is read on the wrapped path and lost on the raw one. -/
theorem dispatchPapi_loses_symbol :
    ¬ ∀ (callback : Callback) (E : Json.Object) (stream : String), IsEvent textParsers callback E →
      (dispatchPapi textParsers E true).called =
        (dispatch textParsers (wrap stream E) true).called := by
  intro h
  have hs := h .executionReport filled "listenKey" isEvent_filled
  exact absurd hs (by decide)

end UserStreamParser
end RoqBinance.Protocol.Json
