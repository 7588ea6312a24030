import Mathlib.Algebra.Order.Field.Rat
import RoqBinance.Gateway.OrderEntryMargin
import RoqBinance.Gateway.OrderEntryPortfolio
import RoqBinance.Gateway.WebSocket
import RoqBinance.Library.WeightedMean

/-! What the reply to a new order says of its fills: the quantity that has been traded, and the
mean of the prices weighted by the quantities. -/
namespace RoqBinance.Gateway
open Library Protocol.Json

/-- The tests on doubles may allow a tolerance, but only to the safe side. -/
structure Shared.Cautious (shared : Shared) : Prop where
  isZero : ∀ x, shared.isZero x = false → x ≠ some 0
  isGreater : ∀ x, shared.isGreater x (some 0) = true → ∃ q, x = some q ∧ 0 < q

structure Shared.ExactTests (shared : Shared) : Prop where
  isZero : ∀ x, shared.isZero x = x.isZero
  isGreater : ∀ x, shared.isGreater x (some 0) = x.isGreater (some 0)

namespace NewOrder

def priceOf (item : Protocol.Json.Fill) : ℚ := item.price.getD 0
def quantityOf (item : Protocol.Json.Fill) : ℚ := item.qty.getD 0

/-- A fill has a price and a quantity, which is not negative. -/
structure Filled (item : Protocol.Json.Fill) : Prop where
  price : item.price = some (priceOf item)
  qty : item.qty = some (quantityOf item)
  nonneg : 0 ≤ quantityOf item

/-- `divide` divides where it can. -/
def Divides (divide : Double → Double → Double) : Prop :=
  ∀ x y, y ≠ some 0 → divide x y = x.div y

/-- What `update` says of the fills of `ack`. -/
structure Sound (shared : Shared) (ack : NewOrderAck) (update : OrderUpdate) : Prop where
  /-- No quotient depends on what a division by zero gives. -/
  divides : ∀ divide, Divides divide →
    averageTradedPrice shared divide ack = update.averageTradedPrice ∧
      lastTradedPrice shared divide ack = update.lastTradedPrice
  quantity : update.lastTradedQuantity = some (totalWeight quantityOf ack.fills)
  nan_iff : update.lastTradedPrice = NaN ↔
    shared.isGreater update.lastTradedQuantity (some 0) = false
  nan_of_not_pos : ¬ 0 < totalWeight quantityOf ack.fills → update.lastTradedPrice = NaN
  nan_iff_of_exact : shared.ExactTests →
    (update.lastTradedPrice = NaN ↔ ¬ 0 < totalWeight quantityOf ack.fills)
  between : update.lastTradedPrice ≠ NaN → ∃ lo ∈ ack.fills, ∃ hi ∈ ack.fills,
    0 < quantityOf lo ∧ 0 < quantityOf hi ∧
      (∀ item ∈ ack.fills, 0 < quantityOf item →
        priceOf lo ≤ priceOf item ∧ priceOf item ≤ priceOf hi) ∧
      ∃ price, update.lastTradedPrice = some price ∧ priceOf lo ≤ price ∧ price ≤ priceOf hi
  agree : shared.ExactTests →
    ack.executedQty = some (totalWeight quantityOf ack.fills) →
    ack.cummulativeQuoteQty = some (weightedSum priceOf quantityOf ack.fills) →
      update.lastTradedPrice = update.averageTradedPrice

section
variable {shared : Shared} {ack : NewOrderAck}

theorem foldl_add {f : Protocol.Json.Fill → Double} {g : Protocol.Json.Fill → ℚ}
    (fills : List Protocol.Json.Fill)
    (h : ∀ item ∈ fills, f item = some (g item)) (sum : ℚ) :
    fills.foldl (fun (sum : Double) item => sum.add (f item)) (some sum) =
      some (sum + (fills.map g).sum) := by
  induction fills generalizing sum with
  | nil => simp
  | cons item fills ih =>
    obtain ⟨hitem,hfills⟩ := List.forall_mem_cons.mp h
    have hadd : Double.add (some sum) (f item) = some (sum + g item) := by
      rw [hitem]
      rfl
    rw [List.foldl_cons,hadd,ih hfills,List.map_cons,List.sum_cons,add_assoc]

theorem lastTradedQuantity_eq (hfills : ∀ item ∈ ack.fills, Filled item) :
    lastTradedQuantity ack = some (totalWeight quantityOf ack.fills) := by
  rw [lastTradedQuantity,foldl_add ack.fills (fun item hitem => (hfills item hitem).qty) 0,
    zero_add]
  rfl

theorem tmp_eq (hfills : ∀ item ∈ ack.fills, Filled item) :
    tmp ack = some (weightedSum priceOf quantityOf ack.fills) := by
  have hmul : ∀ item ∈ ack.fills,
      item.price.mul item.qty = some (priceOf item*quantityOf item) := by
    intro item hitem
    rw [(hfills item hitem).price,(hfills item hitem).qty]
    rfl
  rw [tmp,foldl_add ack.fills hmul 0,zero_add]
  rfl

/-- Where the sum is not greater than zero the price is NaN, otherwise it is the mean. -/
theorem lastTradedPrice_eq (hfills : ∀ item ∈ ack.fills, Filled item) :
    lastTradedPrice shared Double.div ack =
      if shared.isGreater (some (totalWeight quantityOf ack.fills)) (some 0) then
        some (weightedSum priceOf quantityOf ack.fills/totalWeight quantityOf ack.fills)
      else NaN := by
  rw [lastTradedPrice,lastTradedQuantity_eq hfills,tmp_eq hfills]
  rfl

theorem lastTradedPrice_eq_nan_iff (hfills : ∀ item ∈ ack.fills, Filled item) :
    lastTradedPrice shared Double.div ack = NaN ↔
      shared.isGreater (some (totalWeight quantityOf ack.fills)) (some 0) = false := by
  rw [lastTradedPrice_eq hfills]
  cases shared.isGreater (some (totalWeight quantityOf ack.fills)) (some 0) <;> simp [NaN]

theorem divides_of_cautious (htests : shared.Cautious) {divide : Double → Double → Double}
    (hdivide : Divides divide) :
    averageTradedPrice shared divide ack = averageTradedPrice shared Double.div ack ∧
      lastTradedPrice shared divide ack = lastTradedPrice shared Double.div ack := by
  constructor
  · unfold averageTradedPrice
    cases hz : shared.isZero ack.executedQty with
    | true => rfl
    | false => exact hdivide _ _ (htests.isZero _ hz)
  · unfold lastTradedPrice
    cases hg : shared.isGreater (lastTradedQuantity ack) (some 0) with
    | false => rfl
    | true =>
      obtain ⟨q,hq,hpos⟩ := htests.isGreater _ hg
      refine hdivide _ _ ?_
      rw [hq]
      exact fun h => hpos.ne' (Option.some.inj h)

/-- With exact tests the averages agree where the fills add up to the totals. -/
theorem agree_of_exact (htests : shared.ExactTests) (hfills : ∀ item ∈ ack.fills, Filled item)
    (hqty : ack.executedQty = some (totalWeight quantityOf ack.fills))
    (hquote : ack.cummulativeQuoteQty = some (weightedSum priceOf quantityOf ack.fills)) :
    lastTradedPrice shared Double.div ack = averageTradedPrice shared Double.div ack := by
  have hnonneg : 0 ≤ totalWeight quantityOf ack.fills := by
    refine List.sum_nonneg fun q hq => ?_
    obtain ⟨item,hitem,rfl⟩ := List.mem_map.mp hq
    exact (hfills item hitem).nonneg
  rw [lastTradedPrice_eq hfills,averageTradedPrice,hqty,hquote,htests.isZero,htests.isGreater]
  rcases hnonneg.lt_or_eq with hpos | hzero
  · simp [Double.isGreater, Double.isZero, hpos, hpos.ne', Double.div]
  · simp [Double.isGreater, Double.isZero, ← hzero]

theorem sound_orderUpdate (htests : shared.Cautious) (hfills : ∀ item ∈ ack.fills, Filled item)
    (account : String) (marginMode : MarginMode) :
    Sound shared ack (orderUpdate shared account marginMode ack) where
  divides divide hdivide := divides_of_cautious htests hdivide
  quantity := lastTradedQuantity_eq hfills
  nan_iff := by
    change lastTradedPrice shared Double.div ack = NaN ↔
      shared.isGreater (lastTradedQuantity ack) (some 0) = false
    rw [lastTradedQuantity_eq hfills]
    exact lastTradedPrice_eq_nan_iff hfills
  nan_of_not_pos hpos := by
    refine (lastTradedPrice_eq_nan_iff hfills).mpr ?_
    by_contra hgreater
    obtain ⟨q,hq,hq0⟩ := htests.isGreater _ (Bool.not_eq_false _ ▸ hgreater)
    exact hpos (Option.some.inj hq ▸ hq0)
  nan_iff_of_exact hexact := by
    refine (lastTradedPrice_eq_nan_iff hfills).trans ?_
    rw [hexact.isGreater]
    exact decide_eq_false_iff_not
  between := by
    change lastTradedPrice shared Double.div ack ≠ NaN → ∃ lo ∈ ack.fills, ∃ hi ∈ ack.fills,
      0 < quantityOf lo ∧ 0 < quantityOf hi ∧
        (∀ item ∈ ack.fills, 0 < quantityOf item →
          priceOf lo ≤ priceOf item ∧ priceOf item ≤ priceOf hi) ∧
        ∃ price, lastTradedPrice shared Double.div ack = some price ∧
          priceOf lo ≤ price ∧ price ≤ priceOf hi
    rw [lastTradedPrice_eq hfills]
    intro hprice
    have hgreater : shared.isGreater (some (totalWeight quantityOf ack.fills)) (some 0) = true := by
      by_contra h
      exact hprice (if_neg h)
    obtain ⟨q,hq,hpos⟩ := htests.isGreater _ hgreater
    rw [← Option.some.inj hq] at hpos
    obtain ⟨lo,hlo,hi,hhi,hwlo,hwhi,hbounds,hmin,hmax⟩ :=
      weightedMean_between (fun item hitem => (hfills item hitem).nonneg) hpos
    exact ⟨lo,hlo,hi,hhi,hwlo,hwhi,hbounds,_,if_pos hgreater,hmin,hmax⟩
  agree hexact := agree_of_exact hexact hfills

end

end NewOrder

section
variable {Self Call : Type}

/-- The order update that goes out with a response. -/
def responded : Output Call → Option OrderUpdate
  | .dispatch (.response _ update _ _ _) => update
  | _ => none

/-- One order update goes out with a response. -/
def Responds (ctx ctx' : Context Self Call) (update : OrderUpdate) : Prop :=
  ctx'.outputs.filterMap responded = ctx.outputs.filterMap responded ++ [update]

theorem responds_dispatch (ctx : Context Self Call) (response : Response) (update : OrderUpdate)
    (streamId : ℕ) (userId : UInt8) (orderId : UInt64) :
    Responds ctx (ctx.dispatch (.response response (some update) streamId userId orderId))
      update := by
  simp [Responds, responded]

end

theorem WebSocket.Ctx.responds_rateLimited {α : Type} {ctx ctx' : Ctx} {update : OrderUpdate}
    (h : Responds ctx ctx' update) (reply : WSAPIReply α) :
    Responds ctx (rateLimited reply ctx') update := by
  have hnone : (updateRateLimits ctx'.self.streamId ctx'.self.account
      reply.rateLimits).filterMap (fun x => responded (.dispatch x : Output Frame)) = [] := by
    unfold updateRateLimits
    split_ifs <;> rfl
  unfold Responds rateLimited at *
  rw [Context.dispatchAll_outputs,List.filterMap_append,h,List.filterMap_map]
  simpa [Function.comp_def] using hnone

/-- Equal replies to a new order give equal updates, apart from the account and the margin mode,
on the three streams, and what they say of the fills is sound. -/
theorem newOrder_sound {shared : Shared} (htests : shared.Cautious) {ack : NewOrderAck}
    (hfills : ∀ item ∈ ack.fills, NewOrder.Filled item) :
    ∃ update, NewOrder.Sound shared ack update ∧
      (∀ t reply request order retryNow (ctx : WebSocket.Ctx),
        reply.status = 200 → reply.result = ack →
          Responds ctx
            (WebSocket.onMessage shared t (.orderPlace reply request) order retryNow ctx)
            {update with account := ctx.self.account, marginMode := .undefined}) ∧
      (∀ userId orderId version response (ctx : OrderEntryMargin.Ctx),
        classify Body.newOrderAck response = .success ack →
          Responds ctx (OrderEntryMargin.newOrderAck shared userId orderId version response ctx)
            {update with
              account := ctx.self.account,
              marginMode := if ack.isIsolated then .isolated else .cross}) ∧
      (∀ userId orderId version response (ctx : OrderEntryPortfolio.Ctx),
        classify Body.newOrderAck response = .success ack →
          Responds ctx (OrderEntryPortfolio.newOrderAck shared userId orderId version response ctx)
            {update with account := ctx.self.account, marginMode := .portfolio}) := by
  refine ⟨NewOrder.orderUpdate shared "" .undefined ack,
    NewOrder.sound_orderUpdate htests hfills "" .undefined,?_,?_,?_⟩
  · rintro t reply request order retryNow ctx hstatus rfl
    refine WebSocket.Ctx.responds_rateLimited ?_ reply
    rw [if_pos hstatus]
    exact responds_dispatch ctx _ _ _ _ _
  · intro userId orderId version response ctx hsuccess
    rw [OrderEntryMargin.newOrderAck,OrderEntryMargin.processResponse,
      processResponseWith_success hsuccess]
    exact responds_dispatch ctx _ _ _ _ _
  · intro userId orderId version response ctx hsuccess
    rw [OrderEntryPortfolio.newOrderAck,OrderEntryPortfolio.processResponse,
      processResponseWith_success hsuccess]
    exact responds_dispatch ctx _ _ _ _ _

theorem Shared.cautious_sample : Shared.sample.Cautious where
  isZero x h := of_decide_eq_false h
  isGreater x h := by
    cases x with
    | none => cases h
    | some q => exact ⟨q,rfl,of_decide_eq_true h⟩

/-- A purchase of three in two fills, with one that is empty. -/
def threeFills : NewOrderAck :=
  { symbol := "BTCUSDT", orderId := 1, transactTime := 7, price := some 104, origQty := some 3,
    executedQty := some 3, cummulativeQuoteQty := some 303, status := .filled,
    timeInForce := .gtc, type := .limit, side := .buy, isIsolated := false,
    fills := [⟨some 100,some 2⟩,⟨some 103,some 1⟩,⟨some 999,some 0⟩] }

theorem newOrder_sound_threeFills :
    ∃ update, NewOrder.Sound Shared.sample threeFills update ∧
      (∀ t reply request order retryNow (ctx : WebSocket.Ctx),
        reply.status = 200 → reply.result = threeFills →
          Responds ctx
            (WebSocket.onMessage Shared.sample t (.orderPlace reply request) order retryNow ctx)
            {update with account := ctx.self.account, marginMode := .undefined}) ∧
      (∀ userId orderId version response (ctx : OrderEntryMargin.Ctx),
        classify Body.newOrderAck response = .success threeFills →
          Responds ctx
            (OrderEntryMargin.newOrderAck Shared.sample userId orderId version response ctx)
            {update with account := ctx.self.account, marginMode := .cross}) ∧
      (∀ userId orderId version response (ctx : OrderEntryPortfolio.Ctx),
        classify Body.newOrderAck response = .success threeFills →
          Responds ctx
            (OrderEntryPortfolio.newOrderAck Shared.sample userId orderId version response ctx)
            {update with account := ctx.self.account, marginMode := .portfolio}) := by
  refine newOrder_sound Shared.cautious_sample ?_
  intro item hitem
  simp only [threeFills, List.mem_cons, List.not_mem_nil, or_false] at hitem
  rcases hitem with rfl | rfl | rfl
  · exact ⟨rfl,rfl,by decide⟩
  · exact ⟨rfl,rfl,by decide⟩
  · exact ⟨rfl,rfl,by decide⟩

/-- The empty fill does not count for the price. -/
example : NewOrder.lastTradedPrice Shared.sample Double.div threeFills = some 101 := by
  decide +kernel

end RoqBinance.Gateway
