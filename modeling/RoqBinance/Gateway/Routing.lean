import RoqBinance.Gateway.Streams
import RoqBinance.Gateway.Venue

/-! The gateway beside the order management: which stream a request for an order is passed to,
against the wallet on which the order lives. -/
namespace RoqBinance.Gateway
open Library Protocol.Json

/-- An order lives in a wallet of an account. -/
structure OrderKey where
  account : String
  wallet : Wallet
  id : ℕ
  deriving DecidableEq, Repr

/-- How the order management tells which order is meant: by the user and the order id of a
request, and by the symbol, the external order id and the client order id of an update. -/
structure Oms where
  created : UInt8 → UInt64 → ℕ
  matching : String → String → String → ℕ

/-- The orders that are known, with their margin modes. -/
abbrev Orders := OrderKey → Option MarginMode

namespace Orders

/-- The first update sets the margin mode; a later one replaces it unless its own is undefined. -/
def update (key : OrderKey) (marginMode : MarginMode) (orders : Orders) : Orders :=
  Function.update orders key
    (some (if marginMode = .undefined then (orders key).getD .undefined else marginMode))

theorem update_self (key : OrderKey) (marginMode : MarginMode) (orders : Orders) :
    orders.update key marginMode key =
      some (if marginMode = .undefined then (orders key).getD .undefined else marginMode) :=
  Function.update_self _ _ _

theorem update_of_ne {key key' : OrderKey} (h : key' ≠ key) (marginMode : MarginMode)
    (orders : Orders) : orders.update key marginMode key' = orders key' :=
  Function.update_of_ne h _ _

/-- Updates without a margin mode only add the orders that are not known. -/
theorem foldl_update_undefined (keys : List OrderKey) (orders : Orders) (key : OrderKey) :
    keys.foldl (fun orders key => orders.update key .undefined) orders key =
      if key ∈ keys then some ((orders key).getD .undefined) else orders key := by
  induction keys generalizing orders with
  | nil => simp
  | cons key' keys ih =>
    rw [List.foldl_cons,ih]
    by_cases hk : key = key'
    · subst hk
      simp [update_self]
    · simp [update_of_ne hk, hk]

end Orders

namespace Oms

/-- Orders are told apart by the lengths of their external order ids. -/
def sample : Oms where
  created _ orderId := orderId.toNat
  matching _ externalOrderId _ := externalOrderId.length

variable (oms : Oms)

def key (account : String) (wallet : Wallet) (symbol externalOrderId clientOrderId : String) :
    OrderKey :=
  ⟨account,wallet,oms.matching symbol externalOrderId clientOrderId⟩

/-- An update comes from a stream of the wallet. -/
def absorb {Call : Type} (wallet : Wallet) (orders : Orders) (output : Output Call) : Orders :=
  match output with
  | .dispatch (.orderUpdate _ update) =>
    orders.update (oms.key update.account wallet update.symbol update.externalOrderId
      update.clientOrderId) update.marginMode
  | .dispatch (.response _ (some update) _ userId orderId) =>
    orders.update ⟨update.account,wallet,oms.created userId orderId⟩ update.marginMode
  | _ => orders

end Oms

/-- The controller, the user streams that it has created, the REST requests in flight, and the
orders that are known. -/
structure Routing where
  controller : Controller
  dropCopy : String → Option DropCopyPortfolio
  dropCopyMargin : String → Option DropCopyMargin
  streamId : ℕ
  inFlight : List (String × Controller.Call)
  orders : Orders

namespace Routing

/-- A client names an order that is known; the other events are those of the streams. -/
inductive Event
  | createOrder (info : MessageInfo) (request : CreateOrder) (text : String)
  | modifyOrder (info : MessageInfo) (request : ModifyOrder) (key : OrderKey) (text : String)
  | cancelOrder (info : MessageInfo) (request : CancelOrder) (key : OrderKey) (text : String)
  | cancelAllOrders (info : MessageInfo) (request : CancelAllOrders) (requestId : String)
  | webSocket (account : String) (event : WebSocket.SocketEvent)
  | portfolio (account : String) (event : Controller.RestEvent OrderEntryPortfolio.Call)
  | margin (account : String) (event : Controller.RestEvent OrderEntryMargin.Call)
  | dropCopy (account : String) (event : DropCopyPortfolio.Event)
  | dropCopyMarginTimer (account : String) (refresh : Bool)
  | dropCopyMarginSocket (account : String) (event : DropCopyMargin.SocketEvent)

namespace Event

def account : Event → String
  | createOrder _ request _ => request.account
  | modifyOrder _ request _ _ => request.account
  | cancelOrder _ request _ _ => request.account
  | cancelAllOrders _ request _ => request.account
  | webSocket account _ => account
  | portfolio account _ => account
  | margin account _ => account
  | dropCopy account _ => account
  | dropCopyMarginTimer account _ => account
  | dropCopyMarginSocket account _ => account

/-- The wallet whose stream has the event. -/
def wallet : Event → Option Wallet
  | webSocket _ _ => some .spot
  | portfolio _ _ => some .portfolio
  | margin _ _ => some .margin
  | dropCopy _ _ => some .portfolio
  | dropCopyMarginTimer _ _ => some .margin
  | dropCopyMarginSocket _ _ => some .margin
  | _ => none

/-- The request whose callback is called. -/
def job : Event → Option (String × Controller.Call)
  | portfolio account (.response call _ _) => some (account,.portfolio call)
  | margin account (.response call _ _) => some (account,.margin call)
  | _ => none

end Event

def create (experimentalDropMargin : Bool) (accounts : List Controller.Account) : Routing where
  controller := .create experimentalDropMargin accounts
  dropCopy _ := none
  dropCopyMargin _ := none
  streamId :=
    1+accounts.length+(Controller.marginAccounts experimentalDropMargin accounts).length
  inFlight := []
  orders _ := none

/-- What the event is to the controller. The margin mode is that of the order. -/
def controllerEvent (s : Routing) : Event → Option Controller.Event
  | .createOrder info request text => some (.client (.createOrder info request text))
  | .modifyOrder info request key text =>
    if request.account = key.account then
      (s.orders key).map fun marginMode => .client (.modifyOrder info request marginMode text)
    else none
  | .cancelOrder info request key text =>
    if request.account = key.account then
      (s.orders key).map fun marginMode => .client (.cancelOrder info request marginMode text)
    else none
  | .cancelAllOrders info request requestId => some (.client (.cancelAllOrders info request requestId))
  | .webSocket account event => some (.webSocket account event)
  | .portfolio account event => some (.portfolio account event)
  | .margin account event => some (.margin account event)
  | _ => none

/-- The controller's handler of a new listen key. -/
def listenKeyUpdate (s : Routing) (update : ListenKeyUpdate) : Routing :=
  match update.marginMode with
  | .undefined => s
  | .isolated => margin
  | .cross => margin
  | .portfolio =>
    match s.dropCopy update.account with
    | some _ => s
    | none =>
      {s with
        dropCopy := Function.update s.dropCopy update.account
          (some (.create (s.streamId+1) update.account update.listenKey)),
        streamId := s.streamId+1}
where
  margin : Routing :=
    match s.dropCopyMargin update.account with
    | some self =>
      let ctx := DropCopyMargin.onListenKeyUpdate update
        ⟨self,s.controller.request update.account,[]⟩
      {s with dropCopyMargin := Function.update s.dropCopyMargin update.account (some ctx.self)}
    | none =>
      {s with
        dropCopyMargin := Function.update s.dropCopyMargin update.account
          (some (.create (s.streamId+1) update.account update)),
        streamId := s.streamId+1}

variable (oms : Oms)

/-- An order that a client creates is known once there is a stream to pass it to. -/
def register (s : Routing) : Event → Orders
  | .createOrder info request _ =>
    match s.controller.venue request.account request.marginMode with
    | some wallet =>
      Function.update s.orders ⟨request.account,wallet,oms.created info.source request.orderId⟩
        (some request.marginMode)
    | none => s.orders
  | _ => s.orders

def absorbAll {Call : Type} (wallet : Option Wallet) (outputs : List (Output Call))
    (orders : Orders) : Orders :=
  match wallet with
  | some wallet => outputs.foldl (oms.absorb wallet) orders
  | none => orders

/-- A fatal error ends the process, an exception goes to the caller. -/
def settle (event : Event) (r : Controller.Result) (s : Routing) : Option Routing :=
  if r.outputs.any Output.isFatal ||
      (listenKeyUpdates r.outputs).any fun update => update.marginMode = .undefined then none
  else
    some ((listenKeyUpdates r.outputs).foldl listenKeyUpdate
      {s with
        controller := r.controller,
        inFlight := event.job.elim s.inFlight s.inFlight.erase ++
          (r.outputs.filterMap Output.sent).map fun call => (event.account,call),
        orders := absorbAll oms event.wallet r.outputs (register oms s event)})

/-- Run a handler of a user stream, which shares the request of its account. -/
def dropCopyPhase {D Call : Type} (wallet : Wallet) (account : String) (self : Option D)
    (put : D → Routing → Routing) (f : Context D Call → Context D Call) (s : Routing) :
    Option Routing :=
  self.bind fun self =>
    let ctx := f ⟨self,s.controller.request account,[]⟩
    if ctx.outputs.any Output.isFatal then none
    else
      some (put ctx.self
        {s with
          controller :=
            {s.controller with
              request := Function.update s.controller.request account ctx.request},
          orders := ctx.outputs.foldl (oms.absorb wallet) s.orders})

def putDropCopy (account : String) (self : DropCopyPortfolio) (s : Routing) : Routing :=
  {s with dropCopy := Function.update s.dropCopy account (some self)}

def putDropCopyMargin (account : String) (self : DropCopyMargin) (s : Routing) : Routing :=
  {s with dropCopyMargin := Function.update s.dropCopyMargin account (some self)}

/-- A callback is called for a request in flight. -/
def controllerPhase (shared : Shared) (p : WSAPIParsers) (t : TraceInfo) (event : Event)
    (s : Routing) : Option Routing :=
  if event.job.all (· ∈ s.inFlight) then
    (s.controllerEvent event).bind fun e =>
      (Controller.step shared p t e s.controller).bind fun r => settle oms event r s
  else none

def next (shared : Shared) (p : WSAPIParsers) (s : Routing) (e : Timed Event) : Option Routing :=
  match e.event with
  | .dropCopy account event =>
    dropCopyPhase oms .portfolio account (s.dropCopy account) (putDropCopy account)
      (DropCopyPortfolio.handle shared e.time event) s
  | .dropCopyMarginTimer account refresh =>
    dropCopyPhase oms .margin account (s.dropCopyMargin account) (putDropCopyMargin account)
      (DropCopyMargin.onTimer e.time refresh) s
  | .dropCopyMarginSocket account event =>
    dropCopyPhase oms .margin account (s.dropCopyMargin account) (putDropCopyMargin account)
      (DropCopyMargin.onSocket shared e.time event) s
  | event => controllerPhase oms shared p e.time event s

def machine (shared : Shared) (p : WSAPIParsers) (experimentalDropMargin : Bool)
    (accounts : List Controller.Account) : Machine Routing (Timed Event) :=
  ⟨create experimentalDropMargin accounts,next oms shared p⟩

/-- A request for any known order is passed to the stream of the wallet on which it lives. -/
def Routed (s : Routing) : Prop :=
  ∀ key marginMode, s.orders key = some marginMode →
    ∃ target, s.controller.getOrderEntry key.account marginMode = .ok target ∧
      target.wallet = key.wallet

/-- An order that the margin wallet reports without its margin mode, on the user stream or in
the reply to a cancel-all, is known already. -/
def Recognised (s : Routing) (event : Event) : Prop :=
  match event with
  | .margin account (.response (.cancelAllOpenOrders _ _ _) response _) =>
    ∀ ack, classify Body.cancelAllOpenOrdersAck response = .success ack →
      ∀ order ∈ ordersOf ack,
        (s.orders (oms.key account .margin order.symbol (toString order.orderId)
          order.clientOrderId)).isSome
  | .dropCopyMarginSocket account (.message (.executionReport report) _ _) =>
    (s.orders (oms.key account .margin report.symbol (toString report.orderId)
      report.clientOrderId)).isSome
  | _ => True

/-- The orders are routed to their wallets. -/
def RoutedBy (s : Controller) (orders : Orders) : Prop :=
  ∀ key marginMode, orders key = some marginMode →
    s.venue key.account marginMode = some key.wallet

theorem routed_iff_routedBy (s : Routing) : Routed s ↔ RoutedBy s.controller s.orders := by
  simp only [Routed, RoutedBy, Controller.venue_eq_some]

namespace RoutedBy
variable {s : Controller} {orders : Orders}

theorem congr {s' : Controller} (h : Controller.Alike s s') :
    RoutedBy s' orders ↔ RoutedBy s orders := by
  simp only [RoutedBy, h _ _]

/-- An update with a margin mode that is routed to the wallet. -/
theorem update (h : RoutedBy s orders) {key : OrderKey} {marginMode : MarginMode}
    (hm : s.venue key.account marginMode = some key.wallet) :
    RoutedBy s (orders.update key marginMode) := by
  intro key' marginMode' hk
  by_cases he : key' = key
  · subst he
    rw [Orders.update_self] at hk
    cases hk
    split_ifs with hu
    · cases hknown : orders key' with
      | none => rw [← hu]; exact hm
      | some known => exact h key' known hknown
    · exact hm
  · rw [Orders.update_of_ne he] at hk
    exact h key' marginMode' hk

/-- The reports of a stream whose margin modes are all routed to its wallet. -/
theorem absorb {Call : Type} {oms : Oms} {account : String} {wallet : Wallet}
    {mode : MarginMode → Prop}
    (hm : ∀ marginMode, mode marginMode → s.venue account marginMode = some wallet)
    {output : Output Call} (ho : ∀ update, output = .dispatch update → Reports account mode update)
    (h : RoutedBy s orders) : RoutedBy s (oms.absorb wallet orders output) := by
  unfold Oms.absorb
  split
  · next streamId update =>
    obtain ⟨haccount,hmode⟩ := ho _ rfl
    refine h.update ?_
    change s.venue update.account update.marginMode = some wallet
    rw [haccount]
    exact hm _ hmode
  · next response update streamId userId orderId =>
    obtain ⟨haccount,hmode⟩ := ho _ rfl
    exact h.update (by rw [haccount]; exact hm _ hmode)
  · exact h

theorem absorb_all {Call : Type} {oms : Oms} {account : String} {wallet : Wallet}
    {mode : MarginMode → Prop}
    (hm : ∀ marginMode, mode marginMode → s.venue account marginMode = some wallet)
    {outputs : List (Output Call)}
    (ho : ∀ output ∈ outputs, ∀ update, output = .dispatch update → Reports account mode update)
    (h : RoutedBy s orders) : RoutedBy s (outputs.foldl (oms.absorb wallet) orders) := by
  induction outputs generalizing orders with
  | nil => exact h
  | cons output outputs ih =>
    exact ih (fun o hmem => ho o (List.mem_cons_of_mem _ hmem))
      (h.absorb hm (ho output List.mem_cons_self))

/-- Reports without a margin mode of orders that are not routed so: the orders have to be known. -/
theorem foldl_undefined_iff {keys : List OrderKey}
    (hkeys : ∀ key ∈ keys, s.venue key.account .undefined ≠ some key.wallet)
    (h : RoutedBy s orders) :
    RoutedBy s (keys.foldl (fun orders key => orders.update key .undefined) orders) ↔
      ∀ key ∈ keys, (orders key).isSome := by
  simp only [RoutedBy, Orders.foldl_update_undefined]
  constructor
  · intro hrouted key hm
    by_contra hnone
    have hn : orders key = none := by simpa using hnone
    exact hkeys key hm (hrouted key .undefined (by simp [hm, hn]))
  · intro hknown key marginMode hk
    split_ifs at hk with hm
    · obtain ⟨known,hknown⟩ := Option.isSome_iff_exists.mp (hknown key hm)
      rw [hknown] at hk
      cases hk
      exact h key _ hknown
    · exact h key marginMode hk

end RoutedBy

end Routing
end RoqBinance.Gateway
