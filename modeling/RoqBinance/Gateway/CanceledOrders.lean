import RoqBinance.Gateway.OrderEntryMargin
import RoqBinance.Gateway.OrderEntryPortfolio
import RoqBinance.Gateway.WebSocket

/-! The three replies to a request that cancels all orders, and by which of its two client
order ids each stream knows a canceled order. -/
namespace RoqBinance.Gateway
open Library Protocol.Json

/-- How an order is known: by the id of the exchange and by the id of the client. -/
abbrev OrderIds := String × String

def orderIds? : Dispatch → Option OrderIds
  | .orderUpdate _ update => some (update.externalOrderId,update.clientOrderId)
  | _ => none

section
variable {Call : Type}

/-- The orders that a handler has updated. -/
def updatedIds (outputs : List (Output Call)) : List OrderIds :=
  outputs.filterMap fun output => output.dispatched.bind orderIds?

theorem updatedIds_append (outputs outputs' : List (Output Call)) :
    updatedIds (outputs ++ outputs') = updatedIds outputs ++ updatedIds outputs' :=
  List.filterMap_append

/-- The updates are about the canceled orders, in their order, and no two orders that the
client knows apart are taken for one. -/
structure Identifies (orders : List Order) (updated : List OrderIds) : Prop where
  items : updated = orders.map fun order => (toString order.orderId,order.origClientOrderId)
  distinct : ∀ i j (hi : i < orders.length) (hj : j < orders.length),
    orders[i].origClientOrderId ≠ orders[j].origClientOrderId →
      (updated[i]?).map Prod.snd ≠ (updated[j]?).map Prod.snd

theorem Identifies.of_items {orders : List Order} {updated : List OrderIds}
    (h : updated = orders.map fun order => (toString order.orderId,order.origClientOrderId)) :
    Identifies orders updated := by
  refine ⟨h,?_⟩
  intro i j hi hj hne heq
  rw [h,List.getElem?_map,List.getElem?_map,List.getElem?_eq_getElem hi,
    List.getElem?_eq_getElem hj] at heq
  exact hne (Option.some.inj heq)

/-- The updates of a stream that takes the id of the client from `id`. -/
def updatedBy (id : Order → String) (orders : List Order) : List OrderIds :=
  (orders.filter fun order => order.clientOrderId ≠ "").map fun order =>
    (toString order.orderId,id order)

theorem identifies_updatedBy_iff (id : Order → String) (orders : List Order) :
    Identifies orders (updatedBy id orders) ↔
      ∀ order ∈ orders, order.clientOrderId ≠ "" ∧ id order = order.origClientOrderId := by
  constructor
  · rintro ⟨h,-⟩
    have hlen := congrArg List.length h
    rw [updatedBy,List.length_map,List.length_map,List.length_filter_eq_length_iff] at hlen
    have hkeep : (orders.filter fun order => order.clientOrderId ≠ "") = orders :=
      List.filter_eq_self.mpr hlen
    rw [updatedBy,hkeep,List.map_inj_left] at h
    intro order ho
    exact ⟨of_decide_eq_true (hlen order ho),(Prod.mk.inj (h order ho)).2⟩
  · intro h
    apply Identifies.of_items
    have hkeep : (orders.filter fun order => order.clientOrderId ≠ "") = orders :=
      List.filter_eq_self.mpr fun order ho => decide_eq_true (h order ho).1
    rw [updatedBy,hkeep,List.map_inj_left]
    intro order ho
    rw [(h order ho).2]

/-- What the loops of the three streams have in common. -/
theorem updatedIds_dispatchAll {Self : Type} {ctx : Context Self Call} {orders : List Order}
    {update : Order → Dispatch} {id : Order → String} (hout : ctx.outputs = [])
    (hid : ∀ order, orderIds? (update order) = some (toString order.orderId,id order)) :
    updatedIds (ctx.dispatchAll ((orders.filter fun order => order.clientOrderId ≠ "").map
      update)).outputs = updatedBy id orders := by
  rw [Context.dispatchAll_outputs,hout,List.nil_append,updatedIds,List.filterMap_map,
    List.filterMap_map,updatedBy,← List.filterMap_eq_map]
  congr 1
  funext order
  exact hid order

end

variable (shared : Shared) (t : TraceInfo) (requests : Request) (retryNow : Bool)
  (orders : List Order)

/-- A successful reply on the WebSocket API. -/
def canceledReply (error : ErrorError) (rateLimits : List RateLimitsItem) :
    WSAPIReply (List Order) :=
  ⟨200,orders,error,rateLimits⟩

/-- A successful response to a REST request. -/
def canceledResponse (status retryAfter : ℕ) (body : Body) : RestResponse :=
  .result status .success retryAfter {body with cancelAllOpenOrdersAck := .ok ⟨orders⟩}

theorem updatedIds_dispatch {Self Call : Type} (ctx : Context Self Call) {update : Dispatch}
    (h : orderIds? update = none) :
    updatedIds (ctx.dispatch update).outputs = updatedIds ctx.outputs := by
  rw [Context.dispatch_outputs,updatedIds_append]
  simp [updatedIds, Output.dispatched, h]

theorem WebSocket.updatedIds_rateLimited {α : Type} (reply : WSAPIReply α) (ctx : Ctx) :
    updatedIds (rateLimited reply ctx).outputs = updatedIds ctx.outputs := by
  rw [rateLimited,Context.dispatchAll_outputs,updatedIds_append,updateRateLimits]
  split_ifs <;> simp [updatedIds, Output.dispatched, orderIds?]

theorem WebSocket.updatedIds_canceled (self : WebSocket) (request : WSAPIRequest)
    (error : ErrorError) (limits : List RateLimitsItem) (order : MatchedOrder) :
    updatedIds (onMessage shared t (.cancelOpenOrders (canceledReply orders error limits) request)
      order retryNow ⟨self,requests,[]⟩).outputs = updatedBy Order.clientOrderId orders := by
  have hs : (canceledReply orders error limits).status = 200 := rfl
  rw [onMessage,onCancelOpenOrders,updatedIds_rateLimited,if_pos hs]
  exact updatedIds_dispatchAll rfl fun _ => rfl

theorem OrderEntryMargin.updatedIds_canceled (self : OrderEntryMargin)
    (symbol requestId : String) (marginMode : MarginMode) (status retryAfter : ℕ) (body : Body) :
    updatedIds (onResponse shared t (.cancelAllOpenOrders symbol marginMode requestId)
      (canceledResponse orders status retryAfter body) retryNow ⟨self,requests,[]⟩).outputs =
        updatedBy Order.clientOrderId orders := by
  rw [onResponse,cancelAllOpenOrdersAck,processResponse,processResponseWith_success rfl,
    updatedIds_dispatch _ rfl]
  exact updatedIds_dispatchAll rfl fun _ => rfl

theorem OrderEntryPortfolio.updatedIds_canceled (self : OrderEntryPortfolio)
    (symbol requestId : String) (status retryAfter : ℕ) (body : Body) :
    updatedIds (onResponse shared t (.cancelAllOpenOrders symbol requestId)
      (canceledResponse orders status retryAfter body) retryNow ⟨self,requests,[]⟩).outputs =
        updatedBy Order.origClientOrderId orders := by
  rw [onResponse,cancelAllOpenOrdersAck,processResponse,processResponseWith_success rfl,
    updatedIds_dispatch _ rfl]
  exact updatedIds_dispatchAll rfl fun _ => rfl

/-- A cancel-all reply as each of the streams receives it. -/
structure Canceled where
  webSocket : WebSocket
  margin : OrderEntryMargin
  portfolio : OrderEntryPortfolio
  request : WSAPIRequest
  error : ErrorError
  rateLimits : List RateLimitsItem
  order : MatchedOrder
  symbol : String
  marginMode : MarginMode
  requestId : String
  status : ℕ
  retryAfter : ℕ
  body : Body

/-- Each of the three streams updates the orders that have been canceled. -/
structure Canceled.Identified (c : Canceled) : Prop where
  webSocket : Identifies orders (updatedIds (WebSocket.onMessage shared t
    (.cancelOpenOrders (canceledReply orders c.error c.rateLimits) c.request) c.order retryNow
    ⟨c.webSocket,requests,[]⟩).outputs)
  margin : Identifies orders (updatedIds (OrderEntryMargin.onResponse shared t
    (.cancelAllOpenOrders c.symbol c.marginMode c.requestId)
    (canceledResponse orders c.status c.retryAfter c.body) retryNow
    ⟨c.margin,requests,[]⟩).outputs)
  portfolio : Identifies orders (updatedIds (OrderEntryPortfolio.onResponse shared t
    (.cancelAllOpenOrders c.symbol c.requestId)
    (canceledResponse orders c.status c.retryAfter c.body) retryNow
    ⟨c.portfolio,requests,[]⟩).outputs)

/-- The spot and the margin stream take the id that the exchange has given to the cancel. -/
theorem canceled_identified_iff (c : Canceled) :
    c.Identified shared t requests retryNow orders ↔
      ∀ order ∈ orders, order.clientOrderId ≠ "" ∧
        order.clientOrderId = order.origClientOrderId := by
  constructor
  · rintro ⟨h,-,-⟩
    rw [WebSocket.updatedIds_canceled] at h
    exact (identifies_updatedBy_iff _ orders).mp h
  · intro h
    refine ⟨?_,?_,?_⟩
    · rw [WebSocket.updatedIds_canceled]
      exact (identifies_updatedBy_iff _ orders).mpr h
    · rw [OrderEntryMargin.updatedIds_canceled]
      exact (identifies_updatedBy_iff _ orders).mpr h
    · rw [OrderEntryPortfolio.updatedIds_canceled]
      exact (identifies_updatedBy_iff _ orders).mpr fun order ho => ⟨(h order ho).1,rfl⟩

/-- Two orders of one client that one request has canceled. -/
def canceledOrders : List Order :=
  [⟨"LTCBTC",779213492,"xsyFwe7R4szBwr2N8UNBii",some (2984/1000000),some (5/100),some 0,.canceled,
      .gtc,.limit,.buy,NaN,0,0,"RAAC6wMAAQAATcQ10ZMW"⟩,
    ⟨"LTCBTC",779214518,"xsyFwe7R4szBwr2N8UNBii",some (2986/1000000),some (5/100),some 0,.canceled,
      .gtc,.limit,.buy,NaN,0,0,"XgAC7AMAAQAAWZxp3JMW"⟩]

/-- The two orders are taken for one. -/
theorem canceled_orders_merged :
    ¬ ∀ shared t requests retryNow orders (c : Canceled),
      c.Identified shared t requests retryNow orders := by
  intro h
  have hc := h Shared.sample ⟨0,0⟩ Request.empty false canceledOrders
    { webSocket := .create 1 "A1", margin := .create 2 "A1", portfolio := .create 3 "A1",
      request := ⟨1,.OPEN_ORDERS_CANCEL_ALL,0,0,0,0⟩, error := ⟨0,""⟩, rateLimits := [],
      order := ⟨0,0,0⟩, symbol := "LTCBTC", marginMode := .cross, requestId := "", status := 200,
      retryAfter := 0, body := .unreadable }
  have h1 := hc.webSocket
  rw [WebSocket.updatedIds_canceled] at h1
  exact h1.distinct 0 1 (by decide) (by decide) (by decide) (by decide)

end RoqBinance.Gateway
