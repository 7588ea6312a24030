import RoqBinance.Library.Dictionary
import RoqBinance.Protocol.Json.Types
import RoqBinance.Protocol.Json.WSAPIRequest

/-! The parser of the WebSocket API: a reply is told apart by the request that its id names,
an event by its type. -/
namespace RoqBinance.Protocol.Json
open Library (Json)

/-- The generated parsers of whole messages; a message they cannot read throws. -/
structure WSAPIParsers where
  eventType : Json → Option EventType
  sessionLogon : Json.Object → Option (WSAPIReply Unit)
  userDataStreamSubscribe : Json.Object → Option (WSAPIReply Unit)
  account : Json.Object → Option (WSAPIReply AccountAck)
  openOrders : Json.Object → Option (WSAPIReply (List Order))
  trades : Json.Object → Option (WSAPIReply (List Trade2))
  orderPlace : Json.Object → Option (WSAPIReply NewOrderAck)
  orderAmendKeepPriority : Json.Object → Option (WSAPIReply OrderAmendKeepPriority)
  cancelOrder : Json.Object → Option (WSAPIReply CancelOrderAck)
  cancelOpenOrders : Json.Object → Option (WSAPIReply (List Order))
  eventStreamTerminated : Json.Object → Option Unit
  outboundAccountPosition : Json.Object → Option OutboundAccountPositionData
  balanceUpdate : Json.Object → Option Unit
  executionReport : Json.Object → Option ExecutionReportData

def WSAPIParsers.statusOf (message : Json.Object) : ℤ :=
  match Json.first "status" message with
  | some (.number "200") => 200
  | some (.number "400") => 400
  | _ => 0

/-- Generated parsers for replies that have nothing but a status. -/
def WSAPIParsers.sample : WSAPIParsers where
  eventType _ := none
  sessionLogon message := some ⟨statusOf message,(),⟨0,""⟩,[]⟩
  userDataStreamSubscribe message := some ⟨statusOf message,(),⟨0,""⟩,[]⟩
  account message := some ⟨statusOf message,⟨0,[]⟩,⟨0,""⟩,[]⟩
  openOrders message := some ⟨statusOf message,[],⟨0,""⟩,[]⟩
  trades message := some ⟨statusOf message,[],⟨0,""⟩,[]⟩
  orderPlace message := some
    ⟨statusOf message,⟨"",0,0,NaN,NaN,NaN,NaN,.undefinedInternal,.undefinedInternal,
      .undefinedInternal,.undefinedInternal,[],false⟩,⟨0,""⟩,[]⟩
  orderAmendKeepPriority message := some
    ⟨statusOf message,⟨0,⟨"",0,NaN,NaN,NaN,.undefinedInternal,.undefinedInternal,
      .undefinedInternal,.undefinedInternal⟩⟩,⟨0,""⟩,[]⟩
  cancelOrder message := some
    ⟨statusOf message,⟨"",0,NaN,NaN,NaN,.undefinedInternal,.undefinedInternal,
      .undefinedInternal,.undefinedInternal,0,false⟩,⟨0,""⟩,[]⟩
  cancelOpenOrders message := some ⟨statusOf message,[],⟨0,""⟩,[]⟩
  eventStreamTerminated _ := some ()
  outboundAccountPosition _ := none
  balanceUpdate _ := some ()
  executionReport _ := none

/-- The callbacks of `WSAPIParser::Handler`. -/
inductive WSAPIMessage
  | sessionLogon (reply : WSAPIReply Unit)
  | userDataStreamSubscribe (reply : WSAPIReply Unit)
  | eventStreamTerminated
  | account (reply : WSAPIReply AccountAck)
  | openOrders (reply : WSAPIReply (List Order))
  | trades (reply : WSAPIReply (List Trade2))
  | orderPlace (reply : WSAPIReply NewOrderAck) (request : WSAPIRequest)
  | orderAmendKeepPriority (reply : WSAPIReply OrderAmendKeepPriority) (request : WSAPIRequest)
  | cancelOrder (reply : WSAPIReply CancelOrderAck) (request : WSAPIRequest)
  | cancelOpenOrders (reply : WSAPIReply (List Order)) (request : WSAPIRequest)
  | outboundAccountPosition (event : OutboundAccountPositionData)
  | balanceUpdate
  | executionReport (event : ExecutionReportData)

namespace WSAPIParser

inductive Outcome
  | called (message : WSAPIMessage)
  | skipped
  | fatal
  | thrown

def dispatchHelper {α : Type} (parsed : Option α) (callback : α → WSAPIMessage) : Outcome :=
  match parsed with
  | some obj => .called (callback obj)
  | none => .thrown

def dispatchResponse (p : WSAPIParsers) (message : Json.Object) (allowUnknownEventTypes : Bool)
    (request : WSAPIRequest) : Outcome :=
  match request.type with
  | .UNDEFINED_INTERNAL => .fatal
  | .UNKNOWN_INTERNAL => if allowUnknownEventTypes then .skipped else .fatal
  | .SESSION_LOGON => dispatchHelper (p.sessionLogon message) .sessionLogon
  | .USER_DATA_STREAM_SUBSCRIBE =>
    dispatchHelper (p.userDataStreamSubscribe message) .userDataStreamSubscribe
  | .ACCOUNT_STATUS => dispatchHelper (p.account message) .account
  | .OPEN_ORDERS_STATUS => dispatchHelper (p.openOrders message) .openOrders
  | .MY_TRADES => dispatchHelper (p.trades message) .trades
  | .ORDER_PLACE => dispatchHelper (p.orderPlace message) (.orderPlace · request)
  | .ORDER_AMEND_KEEP_PRIORITY =>
    dispatchHelper (p.orderAmendKeepPriority message) (.orderAmendKeepPriority · request)
  | .ORDER_CANCEL => dispatchHelper (p.cancelOrder message) (.cancelOrder · request)
  | .OPEN_ORDERS_CANCEL_ALL =>
    dispatchHelper (p.cancelOpenOrders message) (.cancelOpenOrders · request)
  | _ => .fatal

def dispatchEvent (p : WSAPIParsers) (message : Json.Object) (allowUnknownEventTypes : Bool)
    (eventType : EventType) : Outcome :=
  match eventType with
  | .undefinedInternal => .fatal
  | .unknownInternal => if allowUnknownEventTypes then .skipped else .fatal
  | .serverShutdown => if allowUnknownEventTypes then .skipped else .fatal
  | .aggTrade => .fatal
  | .trade => .fatal
  | .miniTicker24hr => .fatal
  | .bookTicker => .fatal
  | .depthUpdate => .fatal
  | .outboundAccountPosition =>
    dispatchHelper (p.outboundAccountPosition message) .outboundAccountPosition
  | .balanceUpdate => dispatchHelper (p.balanceUpdate message) fun _ => .balanceUpdate
  | .executionReport => dispatchHelper (p.executionReport message) .executionReport
  | .listStatus => .fatal
  | .openOrderLoss => .fatal
  | .orderTradeUpdate => .fatal
  | .eventStreamTerminated =>
    dispatchHelper (p.eventStreamTerminated message) fun _ => .eventStreamTerminated
  | .accountUpdate => .fatal
  | .positionHistoryUpdate => .fatal
  | .liabilityChange => .fatal

/-- The loop over the keys of the message; an event without a type does not end it. -/
def dispatchKeys (p : WSAPIParsers) (message : Json.Object) (allowUnknownEventTypes : Bool) :
    Json.Object → Outcome
  | [] => if allowUnknownEventTypes then .skipped else .fatal
  | (key,value)::rest =>
    if key = "id" then
      match value with
      | .string id =>
        match WSAPIRequest.decode id.toList with
        | some request => dispatchResponse p message allowUnknownEventTypes request
        | none => .thrown
      | _ => .thrown
    else if key = "event" then
      match value with
      | .object fields =>
        match Json.first "e" fields with
        | some v =>
          match p.eventType v with
          | some eventType => dispatchEvent p message allowUnknownEventTypes eventType
          | none => .thrown
        | none => dispatchKeys p message allowUnknownEventTypes rest
      | _ => .thrown
    else dispatchKeys p message allowUnknownEventTypes rest

/-- The streams leave `allow_unknown_event_types` at its default, `false`. -/
def dispatch (p : WSAPIParsers) (message : Json.Object) (allowUnknownEventTypes : Bool) : Outcome :=
  dispatchKeys p message allowUnknownEventTypes message

/-- A reply is a message that is not an event and whose id is the text of the request. -/
structure Echoes (id : List Char) (message : Json.Object) : Prop where
  id : Json.first "id" message = some (.string (String.ofList id))
  reply : ∀ x ∈ message, x.1 ≠ "event"

def echoes (id : List Char) (message : Json.Object) : Bool :=
  (match Json.first "id" message with
    | some (.string text) => decide (text = String.ofList id)
    | _ => false) && message.all fun x => decide (x.1 ≠ "event")

theorem echoes_iff (id : List Char) (message : Json.Object) :
    echoes id message = true ↔ Echoes id message := by
  have hid : (match Json.first "id" message with
      | some (.string text) => decide (text = String.ofList id)
      | _ => false) = true ↔ Json.first "id" message = some (.string (String.ofList id)) := by
    split
    · next text h => rw [h]; simp
    · next h =>
      simp only [Bool.false_eq_true, false_iff]
      exact h _
  rw [echoes,Bool.and_eq_true,hid,List.all_eq_true]
  constructor
  · rintro ⟨h,hreply⟩
    exact ⟨h,fun x hx => of_decide_eq_true (hreply x hx)⟩
  · intro h
    exact ⟨h.id,fun x hx => decide_eq_true (h.reply x hx)⟩

instance (id : List Char) (message : Json.Object) : Decidable (Echoes id message) :=
  decidable_of_iff _ (echoes_iff id message)

theorem dispatchKeys_echo (p : WSAPIParsers) (message : Json.Object) (allow : Bool)
    (request : WSAPIRequest) {fields : Json.Object}
    (hid : Json.first "id" fields = some (.string (String.ofList request.encode)))
    (hreply : ∀ x ∈ fields, x.1 ≠ "event") :
    dispatchKeys p message allow fields = dispatchResponse p message allow request := by
  induction fields with
  | nil => simp [Json.first] at hid
  | cons x fields ih =>
    obtain ⟨key,value⟩ := x
    by_cases hkey : key = "id"
    · rw [Json.first, if_pos hkey] at hid
      obtain rfl := Option.some.inj hid
      rw [dispatchKeys, if_pos hkey]
      simp only [String.toList_ofList, WSAPIRequest.decode_encode]
    · rw [Json.first, if_neg hkey] at hid
      have hevent : key ≠ "event" := hreply (key,value) List.mem_cons_self
      rw [dispatchKeys.eq_def]
      simp only [if_neg hkey, if_neg hevent]
      exact ih hid fun x hx => hreply x (List.mem_cons_of_mem _ hx)

/-- A reply is dispatched by the type of the request that it echoes. -/
theorem dispatch_echo (p : WSAPIParsers) (request : WSAPIRequest) (allow : Bool)
    {message : Json.Object} (h : Echoes request.encode message) :
    dispatch p message allow = dispatchResponse p message allow request :=
  dispatchKeys_echo p message allow request h.id h.reply

/-- The reply that has nothing but a status. -/
def echo (request : WSAPIRequest) (status : String) : Json.Object :=
  [("id",.string (String.ofList request.encode)),("status",.number status)]

theorem echoes_echo (request : WSAPIRequest) (status : String) :
    Echoes request.encode (echo request status) :=
  ⟨by simp [echo, Json.first],by simp [echo]⟩

end WSAPIParser
end RoqBinance.Protocol.Json
