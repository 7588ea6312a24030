import RoqBinance.Gateway.Controller
import RoqBinance.Gateway.OrderTags

/-! The streams to which the controller routes: an account has the same ones throughout, and
what they put out is that of the account. -/
namespace RoqBinance.Gateway
open Library Protocol.Json

inductive Wallet | spot | margin | portfolio
  deriving DecidableEq, Repr

namespace Controller

def OrderEntry.wallet : OrderEntry → Wallet
  | .webSocket _ => .spot
  | .portfolio _ => .portfolio

def Target.wallet : Target → Wallet
  | .orderEntry entry => entry.wallet
  | .margin _ => .margin

/-- The wallet of the stream to which an order with this margin mode is routed. -/
def venue (s : Controller) (account : String) (marginMode : MarginMode) : Option Wallet :=
  match s.getOrderEntry account marginMode with
  | .ok target => some target.wallet
  | .error _ => none

theorem venue_undefined (s : Controller) (account : String) :
    s.venue account .undefined = (s.orderEntry account).map OrderEntry.wallet := by
  unfold venue getOrderEntry find
  cases s.orderEntry account <;> rfl

theorem venue_portfolio (s : Controller) (account : String) :
    s.venue account .portfolio = (s.orderEntry account).map OrderEntry.wallet := by
  unfold venue getOrderEntry find
  cases s.orderEntry account <;> rfl

theorem venue_isolated (s : Controller) (account : String) :
    s.venue account .isolated = (s.orderEntryMargin account).map fun _ => .margin := by
  unfold venue getOrderEntry find
  cases s.orderEntryMargin account <;> rfl

theorem venue_cross (s : Controller) (account : String) :
    s.venue account .cross = (s.orderEntryMargin account).map fun _ => .margin := by
  unfold venue getOrderEntry find
  cases s.orderEntryMargin account <;> rfl

theorem venue_eq_some {s : Controller} {account : String} {marginMode : MarginMode}
    {wallet : Wallet} : s.venue account marginMode = some wallet ↔
      ∃ target, s.getOrderEntry account marginMode = .ok target ∧ target.wallet = wallet := by
  unfold venue
  cases s.getOrderEntry account marginMode <;> simp

theorem orderEntry_of_getOrderEntry {s : Controller} {account : String} {marginMode : MarginMode}
    {entry : OrderEntry} (h : s.getOrderEntry account marginMode = .ok (.orderEntry entry)) :
    s.orderEntry account = some entry := by
  cases marginMode <;> simp only [getOrderEntry, find] at h <;> split at h <;> cases h
  · assumption
  · assumption

theorem margin_of_getOrderEntry {s : Controller} {account : String} {marginMode : MarginMode}
    {self : OrderEntryMargin} (h : s.getOrderEntry account marginMode = .ok (.margin self)) :
    s.orderEntryMargin account = some self := by
  cases marginMode <;> simp only [getOrderEntry, find] at h <;> split at h <;> cases h
  · assumption
  · assumption

/-- Without a margin mode no order is routed to the margin wallet. -/
theorem venue_undefined_ne_margin (s : Controller) (account : String) :
    s.venue account .undefined ≠ some .margin := by
  rw [venue_undefined]
  rcases s.orderEntry account with _ | (_ | _) <;> simp [OrderEntry.wallet]

/-- Each stream is that of its account. -/
structure Owned (s : Controller) : Prop where
  webSocket : ∀ account self, s.orderEntry account = some (.webSocket self) →
    self.account = account
  portfolio : ∀ account self, s.orderEntry account = some (.portfolio self) →
    self.account = account
  margin : ∀ account self, s.orderEntryMargin account = some self → self.account = account

/-- The accounts have the same streams. -/
def Alike (s s' : Controller) : Prop :=
  ∀ account marginMode, s'.venue account marginMode = s.venue account marginMode

theorem alike_of_maps {s s' : Controller}
    (he : ∀ account, (s'.orderEntry account).map OrderEntry.wallet =
      (s.orderEntry account).map OrderEntry.wallet)
    (hm : ∀ account, (s'.orderEntryMargin account).isSome = (s.orderEntryMargin account).isSome) :
    Alike s s' := by
  have hmap : ∀ account, (s'.orderEntryMargin account).map (fun _ => Wallet.margin) =
      (s.orderEntryMargin account).map fun _ => Wallet.margin := by
    intro account
    have h := hm account
    cases h' : s'.orderEntryMargin account <;> cases hs : s.orderEntryMargin account <;>
      simp_all
  intro account marginMode
  cases marginMode with
  | undefined => rw [venue_undefined,venue_undefined,he]
  | isolated => rw [venue_isolated,venue_isolated,hmap]
  | cross => rw [venue_cross,venue_cross,hmap]
  | portfolio => rw [venue_portfolio,venue_portfolio,he]

/-- The listen keys that a stream of the account may put out. -/
def KeyOf (s : Controller) (account : String) (marginMode : MarginMode) : Prop :=
  (marginMode = .portfolio ∧ s.venue account .portfolio = some .portfolio) ∨
    marginMode = .cross ∧ s.venue account .cross = some .margin

/-- What the streams of an account may put out. -/
def policy (s : Controller) (account : String) (mode : MarginMode → Prop) :
    Policy Controller Call where
  account _ := account
  call call := ∀ marginMode, call = .margin (.openOrders marginMode) → marginMode = .cross
  key := s.KeyOf account
  mode := mode

/-- A handler of a stream has been called. -/
structure Sound (s : Controller) (account : String) (mode : MarginMode → Prop) (r : Result) :
    Prop where
  owned : Owned r.controller
  alike : Alike s r.controller
  outputs : ∀ output ∈ r.outputs, (s.policy account mode).Allows account output

theorem Sound.same {s : Controller} (h : Owned s) (account : String) (mode : MarginMode → Prop)
    (e : Option Exception) : Sound s account mode ⟨s,[],e⟩ :=
  ⟨h,fun _ _ => rfl,fun _ ho => by cases ho⟩

theorem allows_map {Self C : Type} {π : Policy Self C} {s : Controller} {account : String}
    {wrap : C → Call} {output : Output C}
    (hcall : ∀ call, π.call call → (s.policy account π.mode).call (wrap call))
    (hkey : ∀ marginMode, π.key marginMode → s.KeyOf account marginMode)
    (h : π.Allows account output) : (s.policy account π.mode).Allows account (output.map wrap) := by
  cases output with
  | send call => exact hcall call h
  | dispatch update => exact h
  | listenKeyUpdate update => exact ⟨h.1,hkey _ h.2⟩
  | suspendFor duration => trivial
  | resume => trivial
  | fatal text => trivial

theorem sound_call {Self C : Type} (π : Policy Self C) {put : Self → Controller → Controller}
    {wrap : C → Call} {account : String} {f : Context Self C → Context Self C × Option Exception}
    {self : Self} {s : Controller} (hself : π.account self = account)
    (hf : ∀ ctx, π.Obeyed account ctx → π.Obeyed account (f ctx).1)
    (hput : ∀ self request, π.account self = account →
      Owned (put self {s with request := request}) ∧ Alike s (put self {s with request := request}))
    (hcall : ∀ call, π.call call → (s.policy account π.mode).call (wrap call))
    (hkey : ∀ marginMode, π.key marginMode → s.KeyOf account marginMode) :
    Sound s account π.mode (call put wrap account f self s) := by
  have h := hf _ (Policy.Obeyed.of_nil hself (s.request account))
  have hp := hput (f ⟨self,s.request account,[]⟩).1.self
    (Function.update s.request account (f ⟨self,s.request account,[]⟩).1.request) h.own
  refine ⟨hp.1,hp.2,?_⟩
  intro output ho
  obtain ⟨o,hm,rfl⟩ := List.mem_map.mp ho
  exact allows_map hcall hkey (h.outputs o hm)

theorem put_webSocket {s : Controller} (h : Owned s) {account : String} {self : WebSocket}
    (hs : s.venue account .undefined = some .spot) (hself : self.account = account)
    (request : String → Request) :
    Owned (putOrderEntry account (.webSocket self) {s with request := request}) ∧
      Alike s (putOrderEntry account (.webSocket self) {s with request := request}) := by
  refine ⟨⟨?_,?_,h.margin⟩,alike_of_maps ?_ fun _ => rfl⟩
  · intro account' self' he
    simp only [putOrderEntry, Function.update_apply] at he
    split_ifs at he with ha
    · cases he
      rw [ha,hself]
    · exact h.webSocket account' self' he
  · intro account' self' he
    simp only [putOrderEntry, Function.update_apply] at he
    split_ifs at he with ha
    · cases he
    · exact h.portfolio account' self' he
  · intro account'
    simp only [putOrderEntry, Function.update_apply]
    split_ifs with ha
    · rw [ha,← venue_undefined,hs]
      rfl
    · rfl

theorem put_portfolio {s : Controller} (h : Owned s) {account : String}
    {self : OrderEntryPortfolio} (hs : s.venue account .undefined = some .portfolio)
    (hself : self.account = account) (request : String → Request) :
    Owned (putOrderEntry account (.portfolio self) {s with request := request}) ∧
      Alike s (putOrderEntry account (.portfolio self) {s with request := request}) := by
  refine ⟨⟨?_,?_,h.margin⟩,alike_of_maps ?_ fun _ => rfl⟩
  · intro account' self' he
    simp only [putOrderEntry, Function.update_apply] at he
    split_ifs at he with ha
    · cases he
    · exact h.webSocket account' self' he
  · intro account' self' he
    simp only [putOrderEntry, Function.update_apply] at he
    split_ifs at he with ha
    · cases he
      rw [ha,hself]
    · exact h.portfolio account' self' he
  · intro account'
    simp only [putOrderEntry, Function.update_apply]
    split_ifs with ha
    · rw [ha,← venue_undefined,hs]
      rfl
    · rfl

theorem put_margin {s : Controller} (h : Owned s) {account : String} {self : OrderEntryMargin}
    (hs : (s.orderEntryMargin account).isSome) (hself : self.account = account)
    (request : String → Request) :
    Owned (putOrderEntryMargin account self {s with request := request}) ∧
      Alike s (putOrderEntryMargin account self {s with request := request}) := by
  refine ⟨⟨h.webSocket,h.portfolio,?_⟩,alike_of_maps (fun _ => rfl) ?_⟩
  · intro account' self' he
    simp only [putOrderEntryMargin, Function.update_apply] at he
    split_ifs at he with ha
    · cases he
      rw [ha,hself]
    · exact h.margin account' self' he
  · intro account'
    simp only [putOrderEntryMargin, Function.update_apply]
    split_ifs with ha
    · rw [ha,hs]
      rfl
    · rfl

section
variable {s : Controller} (h : Owned s) {account : String} {mode : MarginMode → Prop}
include h

theorem sound_callWebSocket {self : WebSocket} (hs : s.orderEntry account = some (.webSocket self))
    {f : WebSocket.Ctx → WebSocket.Ctx × Option Exception}
    (hf : ∀ ctx, (WebSocket.policy mode).Obeyed account ctx →
      (WebSocket.policy mode).Obeyed account (f ctx).1) :
    Sound s account mode (callWebSocket account f self s) := by
  have hv : s.venue account .undefined = some .spot := by
    rw [venue_undefined,hs]
    rfl
  refine sound_call (WebSocket.policy mode) (h.webSocket account self hs) hf ?_ ?_ ?_
  · intro self request hself
    exact put_webSocket h hv hself request
  · intro call _ marginMode he
    cases he
  · intro marginMode hk
    exact hk.elim

theorem sound_callPortfolio {self : OrderEntryPortfolio}
    (hs : s.orderEntry account = some (.portfolio self))
    {f : OrderEntryPortfolio.Ctx → OrderEntryPortfolio.Ctx × Option Exception}
    (hf : ∀ ctx, (OrderEntryPortfolio.policy mode).Obeyed account ctx →
      (OrderEntryPortfolio.policy mode).Obeyed account (f ctx).1) :
    Sound s account mode (callPortfolio account f self s) := by
  have hv : s.venue account .undefined = some .portfolio := by
    rw [venue_undefined,hs]
    rfl
  refine sound_call (OrderEntryPortfolio.policy mode) (h.portfolio account self hs) hf ?_ ?_ ?_
  · intro self request hself
    exact put_portfolio h hv hself request
  · intro call _ marginMode he
    cases he
  · intro marginMode hk
    exact .inl ⟨hk,by rw [venue_portfolio,← venue_undefined,hv]⟩

theorem sound_callMargin {self : OrderEntryMargin} (hs : s.orderEntryMargin account = some self)
    {f : OrderEntryMargin.Ctx → OrderEntryMargin.Ctx × Option Exception}
    (hf : ∀ ctx, (OrderEntryMargin.policy mode).Obeyed account ctx →
      (OrderEntryMargin.policy mode).Obeyed account (f ctx).1) :
    Sound s account mode (callMargin account f self s) := by
  refine sound_call (OrderEntryMargin.policy mode) (h.margin account self hs) hf ?_ ?_ ?_
  · intro self request hself
    exact put_margin h (by rw [hs]; rfl) hself request
  · intro call hc marginMode he
    exact hc marginMode (Call.margin.inj he)
  · intro marginMode hk
    exact .inr ⟨hk,by rw [venue_cross,hs]; rfl⟩

variable (shared : Shared)

theorem sound_requestOrderEntry {entry : OrderEntry} (hs : s.orderEntry account = some entry)
    (webSocket : WebSocket.ClientRequest) (portfolio : OrderEntryPortfolio.ClientRequest) :
    Sound s account mode (requestOrderEntry shared account webSocket portfolio entry s) := by
  cases entry with
  | webSocket self =>
    exact sound_callWebSocket h hs fun _ hc => WebSocket.obeyed_onRequest shared webSocket hc
  | portfolio self =>
    exact sound_callPortfolio h hs fun _ hc =>
      OrderEntryPortfolio.obeyed_onRequest shared portfolio hc

theorem sound_requestMargin {self : OrderEntryMargin} (hs : s.orderEntryMargin account = some self)
    (margin : OrderEntryMargin.ClientRequest) :
    Sound s account mode (requestMargin shared account margin self s) :=
  sound_callMargin h hs fun _ hc => OrderEntryMargin.obeyed_onRequest shared margin hc

theorem sound_route (marginMode : MarginMode) (webSocket : WebSocket.ClientRequest)
    (portfolio : OrderEntryPortfolio.ClientRequest) (margin : OrderEntryMargin.ClientRequest) :
    Sound s account mode (route shared account marginMode webSocket portfolio margin s) := by
  unfold route
  split
  · next entry hs => exact sound_requestOrderEntry h shared (orderEntry_of_getOrderEntry hs) _ _
  · next self hs => exact sound_requestMargin h shared (margin_of_getOrderEntry hs) _
  · exact Sound.same h account mode _

end

section
variable {s : Controller} {account : String} {mode : MarginMode → Prop}

theorem keyOf_congr {s' : Controller} (h : Alike s s') {marginMode : MarginMode} :
    s'.KeyOf account marginMode ↔ s.KeyOf account marginMode := by
  rw [KeyOf,KeyOf,h,h]

theorem allows_congr {s' : Controller} (h : Alike s s') {output : Output Call}
    (ho : (s'.policy account mode).Allows account output) :
    (s.policy account mode).Allows account output := by
  cases output with
  | send call => exact ho
  | dispatch update => exact ho
  | listenKeyUpdate update => exact ⟨ho.1,(keyOf_congr h).mp ho.2⟩
  | suspendFor duration => trivial
  | resume => trivial
  | fatal text => trivial

theorem Sound.andThen {r : Result} {f : Controller → Result} (h : Sound s account mode r)
    (hf : ∀ s', Owned s' → Sound s' account mode (f s')) :
    Sound s account mode (r.andThen f) := by
  unfold Result.andThen
  split
  · exact h
  · have h' := hf r.controller h.owned
    refine ⟨h'.owned,?_,?_⟩
    · intro account marginMode
      exact (h'.alike account marginMode).trans (h.alike account marginMode)
    · intro output ho
      rcases List.mem_append.mp ho with ho | ho
      · exact h.outputs output ho
      · exact allows_congr h.alike (h'.outputs output ho)

/-- Both streams of the account are asked. -/
theorem sound_cancelAllOrders (h : Owned s) (shared : Shared) (info : MessageInfo)
    (request : CancelAllOrders) (requestId : String) :
    Sound s request.account mode (cancelAllOrders shared info request requestId s) := by
  refine Sound.andThen ?_ fun s' h' => ?_
  · unfold helper
    split
    · next entry hs => exact sound_requestOrderEntry h shared hs _ _
    · exact Sound.same h _ _ _
  · unfold helper
    split
    · next self hs => exact sound_requestMargin h' shared hs _
    · exact Sound.same h' _ _ _

end

theorem account_of_createStreams {α : Type} {create : ℕ → Account → α} {streamId : ℕ}
    {accounts : List Account} {name : String} {x : α}
    (h : createStreams create streamId accounts name = some x) :
    ∃ streamId account, account.name = name ∧ x = create streamId account := by
  obtain ⟨y,-,hy⟩ := List.exists_of_findSome?_eq_some h
  split_ifs at hy with hn
  exact ⟨y.2,y.1,hn,(Option.some.inj hy).symm⟩

theorem owned_create (experimentalDropMargin : Bool) (accounts : List Account) :
    Owned (create experimentalDropMargin accounts) where
  webSocket name self h := by
    obtain ⟨streamId,account,rfl,he⟩ := account_of_createStreams h
    unfold createOrderEntry at he
    split at he <;> cases he <;> rfl
  portfolio name self h := by
    obtain ⟨streamId,account,rfl,he⟩ := account_of_createStreams h
    unfold createOrderEntry at he
    split at he <;> cases he
    rfl
  margin name self h := by
    have hs : createStreams (fun streamId account => OrderEntryMargin.create streamId account.name)
        (2+accounts.length) (marginAccounts experimentalDropMargin accounts) name = some self := h
    obtain ⟨streamId,account,rfl,rfl⟩ := account_of_createStreams hs
    rfl

end Controller
end RoqBinance.Gateway
