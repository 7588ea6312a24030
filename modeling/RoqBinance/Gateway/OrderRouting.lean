import RoqBinance.Gateway.Routing

/-! An order is routed to the wallet on which it lives, unless the margin wallet is the first to
report it and leaves its margin mode out. -/
namespace RoqBinance.Gateway
open Library Protocol.Json

namespace Routing

/-- The margin modes of the orders that are reported at an event. -/
def Modes (event : Event) (marginMode : MarginMode) : Prop :=
  match event with
  | .webSocket _ _ => marginMode = .undefined
  | .portfolio _ _ => marginMode = .portfolio
  | .margin _ (.response (.cancelAllOpenOrders _ _ _) response _) =>
    marginMode = .cross ∨ marginMode = .isolated ∨
      marginMode = .undefined ∧ ∃ ack, classify Body.cancelAllOpenOrdersAck response = .success ack
  | .margin _ _ => marginMode = .cross ∨ marginMode = .isolated
  | _ => False

structure Consistent (s : Routing) : Prop where
  owned : s.controller.Owned
  dropCopy : ∀ account self, s.dropCopy account = some self →
    self.account = account ∧ s.controller.venue account .portfolio = some .portfolio
  dropCopyMargin : ∀ account self, s.dropCopyMargin account = some self →
    self.account = account ∧ s.controller.venue account .cross = some .margin
  inFlight : ∀ job ∈ s.inFlight, ∀ marginMode, job.2 = .margin (.openOrders marginMode) →
    marginMode = .cross

section
variable {shared : Shared} {p : WSAPIParsers} {t : TraceInfo} {s : Routing} {r : Controller.Result}

theorem sound_margin (h : s.controller.Owned) {account : String}
    {event : Controller.RestEvent OrderEntryMargin.Call}
    (hjob : ∀ job, (Event.margin account event).job = some job → ∀ marginMode,
      job.2 = .margin (.openOrders marginMode) → marginMode = .cross)
    {self : OrderEntryMargin} (hs : s.controller.orderEntryMargin account = some self) :
    s.controller.Sound account (Modes (.margin account event))
      (Controller.callMargin account (fun ctx => (Controller.onMargin shared t event ctx,none)) self
        s.controller) := by
  refine Controller.sound_callMargin h hs fun ctx hc => ?_
  cases event with
  | timer timerNow refresh => exact OrderEntryMargin.obeyed_onTimer shared timerNow refresh hc
  | connected => exact OrderEntryMargin.obeyed_onConnected hc
  | disconnected => exact OrderEntryMargin.obeyed_onDisconnected hc
  | response call response retryNow =>
    have hcall : ∀ marginMode, call = .openOrders marginMode → marginMode = .cross := by
      intro marginMode he
      exact hjob (account,.margin call) rfl marginMode (congrArg Controller.Call.margin he)
    refine OrderEntryMargin.obeyed_onResponse shared t ?_ ?_ hcall response retryNow ?_ hc
    · cases call <;> exact .inl rfl
    · cases call with
      | cancelAllOpenOrders symbol marginMode requestId => exact .inr (.inl rfl)
      | _ => exact .inr rfl
    · rintro symbol marginMode requestId ack rfl hack
      exact .inr (.inr ⟨rfl,ack,hack⟩)

theorem sound_step (h : Consistent s) {event : Event} {e : Controller.Event}
    (hjob : ∀ job, event.job = some job → job ∈ s.inFlight)
    (he : s.controllerEvent event = some e)
    (hr : Controller.step shared p t e s.controller = some r) :
    s.controller.Sound event.account (Modes event) r := by
  have hown := h.owned
  cases event with
  | createOrder info request text =>
    cases he
    cases hr
    exact Controller.sound_route hown shared _ _ _ _
  | modifyOrder info request key text =>
    simp only [controllerEvent] at he
    split_ifs at he
    obtain ⟨marginMode,-,rfl⟩ := Option.map_eq_some_iff.mp he
    cases hr
    exact Controller.sound_route hown shared _ _ _ _
  | cancelOrder info request key text =>
    simp only [controllerEvent] at he
    split_ifs at he
    obtain ⟨marginMode,-,rfl⟩ := Option.map_eq_some_iff.mp he
    cases hr
    exact Controller.sound_route hown shared _ _ _ _
  | cancelAllOrders info request requestId =>
    cases he
    cases hr
    exact Controller.sound_cancelAllOrders hown shared info request requestId
  | webSocket account event =>
    cases he
    simp only [Controller.step] at hr
    split at hr
    · next self hs =>
      cases hr
      have hm : Modes (.webSocket account event) .undefined := rfl
      exact Controller.sound_callWebSocket hown hs fun _ hc =>
        WebSocket.obeyed_onSocket shared t hm p event hc
    · cases hr
  | portfolio account event =>
    cases he
    simp only [Controller.step] at hr
    split at hr
    · next self hs =>
      cases hr
      refine Controller.sound_callPortfolio hown hs fun ctx hc => ?_
      cases event with
      | timer timerNow refresh => exact OrderEntryPortfolio.obeyed_onTimer shared t refresh hc
      | connected => exact OrderEntryPortfolio.obeyed_onConnected hc
      | disconnected => exact OrderEntryPortfolio.obeyed_onDisconnected hc
      | response call response retryNow =>
        have hm : Modes (.portfolio account (.response call response retryNow)) .portfolio := rfl
        exact OrderEntryPortfolio.obeyed_onResponse shared t hm call response retryNow hc
    · cases hr
  | margin account event =>
    cases he
    obtain ⟨self,hs,rfl⟩ := Option.map_eq_some_iff.mp hr
    exact sound_margin hown (fun job hj => h.inFlight job (hjob job hj)) hs
  | dropCopy account event => cases he
  | dropCopyMarginTimer account refresh => cases he
  | dropCopyMarginSocket account event => cases he

@[simp] theorem listenKeyUpdate_controller (s : Routing) (update : ListenKeyUpdate) :
    (s.listenKeyUpdate update).controller = s.controller := by
  unfold listenKeyUpdate listenKeyUpdate.margin
  split
  · rfl
  · split <;> rfl
  · split <;> rfl
  · split <;> rfl

@[simp] theorem listenKeyUpdate_orders (s : Routing) (update : ListenKeyUpdate) :
    (s.listenKeyUpdate update).orders = s.orders := by
  unfold listenKeyUpdate listenKeyUpdate.margin
  split
  · rfl
  · split <;> rfl
  · split <;> rfl
  · split <;> rfl

theorem consistent_listenKeyUpdate (h : Consistent s) {update : ListenKeyUpdate}
    (hk : s.controller.KeyOf update.account update.marginMode) :
    Consistent (s.listenKeyUpdate update) := by
  rcases hk with ⟨hm,hv⟩ | ⟨hm,hv⟩
  · simp only [listenKeyUpdate, hm]
    split
    · exact h
    · refine ⟨h.owned,?_,h.dropCopyMargin,h.inFlight⟩
      intro account self hs
      simp only [Function.update_apply] at hs
      split_ifs at hs with ha
      · cases hs
        exact ⟨ha.symm,by rw [ha]; exact hv⟩
      · exact h.dropCopy account self hs
  · simp only [listenKeyUpdate, hm, listenKeyUpdate.margin]
    split
    · next self hself =>
      refine ⟨h.owned,h.dropCopy,?_,h.inFlight⟩
      intro account self' hs
      simp only [Function.update_apply] at hs
      split_ifs at hs with ha
      · cases hs
        exact ⟨by rw [ha]; exact (h.dropCopyMargin _ self hself).1,by rw [ha]; exact hv⟩
      · exact h.dropCopyMargin account self' hs
    · refine ⟨h.owned,h.dropCopy,?_,h.inFlight⟩
      intro account self' hs
      simp only [Function.update_apply] at hs
      split_ifs at hs with ha
      · cases hs
        exact ⟨ha.symm,by rw [ha]; exact hv⟩
      · exact h.dropCopyMargin account self' hs

theorem foldl_listenKeyUpdate {updates : List ListenKeyUpdate} (h : Consistent s)
    (hk : ∀ update ∈ updates, s.controller.KeyOf update.account update.marginMode) :
    Consistent (updates.foldl listenKeyUpdate s) ∧
      (updates.foldl listenKeyUpdate s).controller = s.controller ∧
      (updates.foldl listenKeyUpdate s).orders = s.orders := by
  induction updates generalizing s with
  | nil => exact ⟨h,rfl,rfl⟩
  | cons update updates ih =>
    obtain ⟨hc,hcontroller,horders⟩ :=
      ih (s := s.listenKeyUpdate update) (consistent_listenKeyUpdate h (hk update List.mem_cons_self))
        (by
          intro update' hm
          rw [listenKeyUpdate_controller]
          exact hk update' (List.mem_cons_of_mem _ hm))
    exact ⟨hc,hcontroller.trans (listenKeyUpdate_controller s update),
      horders.trans (listenKeyUpdate_orders s update)⟩

theorem settle_eq_some {oms : Oms} {event : Event} {mode : MarginMode → Prop} {s' : Routing}
    (h : Consistent s) (hr : s.controller.Sound event.account mode r)
    (hs : settle oms event r s = some s') :
    Consistent s' ∧ s'.controller = r.controller ∧
      s'.orders = absorbAll oms event.wallet r.outputs (register oms s event) := by
  unfold settle at hs
  split_ifs at hs
  obtain rfl := Option.some.inj hs
  refine foldl_listenKeyUpdate ⟨hr.owned,?_,?_,?_⟩ ?_
  · intro account self hself
    exact ⟨(h.dropCopy account self hself).1,
      (hr.alike account _).trans (h.dropCopy account self hself).2⟩
  · intro account self hself
    exact ⟨(h.dropCopyMargin account self hself).1,
      (hr.alike account _).trans (h.dropCopyMargin account self hself).2⟩
  · intro job hm
    rcases List.mem_append.mp hm with hm | hm
    · refine h.inFlight job ?_
      cases hj : event.job with
      | none => rwa [hj] at hm
      | some j =>
        rw [hj] at hm
        exact List.mem_of_mem_erase hm
    · obtain ⟨call,hcall,rfl⟩ := List.mem_map.mp hm
      obtain ⟨output,ho,hsent⟩ := List.mem_filterMap.mp hcall
      cases output with
      | send call' =>
        cases hsent
        exact hr.outputs _ ho
      | _ => cases hsent
  · intro update hm
    obtain ⟨output,ho,hkey⟩ := List.mem_filterMap.mp hm
    cases output with
    | listenKeyUpdate update' =>
      cases hkey
      obtain ⟨ha,hk⟩ := hr.outputs _ ho
      rw [ha]
      exact (Controller.keyOf_congr hr.alike).mpr hk
    | _ => cases hkey

end

section
variable {shared : Shared} {p : WSAPIParsers} {oms : Oms} {s s' : Routing}

theorem reports_of_allows {Self Call : Type} {π : Policy Self Call} {account : String}
    {outputs : List (Output Call)} (h : ∀ output ∈ outputs, π.Allows account output) :
    ∀ output ∈ outputs, ∀ update, output = .dispatch update → Reports account π.mode update := by
  rintro output ho update rfl
  exact h _ ho

theorem dropCopyPhase_eq_some {D Call : Type} {wallet : Wallet} {account : String}
    {self : Option D} {put : D → Routing → Routing} {f : Context D Call → Context D Call}
    (hs : dropCopyPhase oms wallet account self put f s = some s') :
    ∃ d, self = some d ∧ s' = put (f ⟨d,s.controller.request account,[]⟩).self
      {s with
        controller :=
          {s.controller with
            request := Function.update s.controller.request account
              (f ⟨d,s.controller.request account,[]⟩).request},
        orders := (f ⟨d,s.controller.request account,[]⟩).outputs.foldl (oms.absorb wallet)
          s.orders} := by
  obtain ⟨d,hself,hd⟩ := Option.bind_eq_some_iff.mp hs
  dsimp only at hd
  split_ifs at hd
  exact ⟨d,hself,(Option.some.inj hd).symm⟩

theorem dropCopy_step (h : Consistent s) (π : Policy DropCopyPortfolio DropCopyPortfolio.Call)
    (hπ : ∀ self, π.account self = self.account) {account : String}
    {f : DropCopyPortfolio.Ctx → DropCopyPortfolio.Ctx}
    (hf : ∀ ctx, π.Obeyed account ctx → π.Obeyed account (f ctx))
    (hs : dropCopyPhase oms .portfolio account (s.dropCopy account) (putDropCopy account) f s =
      some s') :
    Consistent s' ∧ Controller.Alike s.controller s'.controller ∧ ∃ d,
      s.dropCopy account = some d ∧ (∀ output ∈ (f ⟨d,s.controller.request account,[]⟩).outputs,
        π.Allows account output) ∧
      s'.orders = (f ⟨d,s.controller.request account,[]⟩).outputs.foldl (oms.absorb .portfolio)
        s.orders := by
  obtain ⟨d,hself,rfl⟩ := dropCopyPhase_eq_some hs
  obtain ⟨hd,hv⟩ := h.dropCopy account d hself
  have hobeyed := hf _ (Policy.Obeyed.of_nil ((hπ d).trans hd) (s.controller.request account))
  refine ⟨⟨⟨h.owned.webSocket,h.owned.portfolio,h.owned.margin⟩,?_,h.dropCopyMargin,h.inFlight⟩,
    fun _ _ => rfl,d,hself,hobeyed.outputs,rfl⟩
  intro account' self' hs'
  simp only [putDropCopy, Function.update_apply] at hs'
  split_ifs at hs' with ha
  · cases hs'
    exact ⟨by rw [ha,← hπ]; exact hobeyed.own,by rw [ha]; exact hv⟩
  · exact h.dropCopy account' self' hs'

theorem dropCopyMargin_step (h : Consistent s) (π : Policy DropCopyMargin Frame)
    (hπ : ∀ self, π.account self = self.account) {account : String}
    {f : DropCopyMargin.Ctx → DropCopyMargin.Ctx}
    (hf : ∀ ctx, π.Obeyed account ctx → π.Obeyed account (f ctx))
    (hs : dropCopyPhase oms .margin account (s.dropCopyMargin account) (putDropCopyMargin account)
      f s = some s') :
    Consistent s' ∧ Controller.Alike s.controller s'.controller ∧ ∃ d,
      s.dropCopyMargin account = some d ∧
      (∀ output ∈ (f ⟨d,s.controller.request account,[]⟩).outputs, π.Allows account output) ∧
      s'.orders = (f ⟨d,s.controller.request account,[]⟩).outputs.foldl (oms.absorb .margin)
        s.orders := by
  obtain ⟨d,hself,rfl⟩ := dropCopyPhase_eq_some hs
  obtain ⟨hd,hv⟩ := h.dropCopyMargin account d hself
  have hobeyed := hf _ (Policy.Obeyed.of_nil ((hπ d).trans hd) (s.controller.request account))
  refine ⟨⟨⟨h.owned.webSocket,h.owned.portfolio,h.owned.margin⟩,h.dropCopy,?_,h.inFlight⟩,
    fun _ _ => rfl,d,hself,hobeyed.outputs,rfl⟩
  intro account' self' hs'
  simp only [putDropCopyMargin, Function.update_apply] at hs'
  split_ifs at hs' with ha
  · cases hs'
    exact ⟨by rw [ha,← hπ]; exact hobeyed.own,by rw [ha]; exact hv⟩
  · exact h.dropCopyMargin account' self' hs'

end

section
variable {shared : Shared} {p : WSAPIParsers} {t : TraceInfo} {oms : Oms} {s s' : Routing}

/-- What an event of the controller leads to. -/
structure Handled (shared : Shared) (p : WSAPIParsers) (t : TraceInfo) (oms : Oms)
    (event : Event) (s s' : Routing) (r : Controller.Result) : Prop where
  step : ∃ e, s.controllerEvent event = some e ∧
    Controller.step shared p t e s.controller = some r
  sound : s.controller.Sound event.account (Modes event) r
  consistent : Consistent s'
  alike : Controller.Alike s.controller s'.controller
  orders : s'.orders = absorbAll oms event.wallet r.outputs (register oms s event)

theorem controllerPhase_eq_some (h : Consistent s) {event : Event}
    (hs : controllerPhase oms shared p t event s = some s') :
    ∃ r, Handled shared p t oms event s s' r := by
  unfold controllerPhase at hs
  split_ifs at hs with hjob
  obtain ⟨e,he,hs⟩ := Option.bind_eq_some_iff.mp hs
  obtain ⟨r,hr,hs⟩ := Option.bind_eq_some_iff.mp hs
  have hinFlight : ∀ job, event.job = some job → job ∈ s.inFlight := by
    intro job hj
    simpa [hj] using hjob
  have hsound := sound_step h hinFlight he hr
  obtain ⟨hconsistent,hcontroller,horders⟩ := settle_eq_some h hsound hs
  exact ⟨r,⟨e,he,hr⟩,hsound,hconsistent,by rw [hcontroller]; exact hsound.alike,horders⟩

/-- The reports of a stream whose margin modes are all routed to its wallet. -/
theorem Handled.routed {event : Event} {r : Controller.Result}
    (h : Handled shared p t oms event s s' r) {wallet : Wallet} (hw : event.wallet = some wallet)
    (hregister : register oms s event = s.orders)
    (hm : ∀ marginMode, Modes event marginMode →
      s.controller.venue event.account marginMode = some wallet)
    (hs : RoutedBy s.controller s.orders) : RoutedBy s'.controller s'.orders := by
  rw [RoutedBy.congr h.alike,h.orders,hw,hregister]
  exact RoutedBy.absorb_all hm (reports_of_allows h.sound.outputs) hs

/-- A request of a client creates an order where it is routed, and reports none. -/
theorem Handled.routed_client {event : Event} {r : Controller.Result}
    (h : Handled shared p t oms event s s' r) (hw : event.wallet = none)
    (hs : RoutedBy s.controller s.orders) : RoutedBy s'.controller s'.orders := by
  rw [RoutedBy.congr h.alike,h.orders,hw]
  change RoutedBy s.controller (register oms s event)
  unfold register
  split
  · next info request text =>
    split
    · next wallet hv =>
      intro key marginMode hk
      simp only [Function.update_apply] at hk
      split_ifs at hk with he
      · cases hk
        rw [he]
        exact hv
      · exact hs key marginMode hk
    · exact hs
  · exact hs

theorem cancelAll_outputs {symbol requestId : String} {marginMode : MarginMode}
    {response : RestResponse} {retryNow : Bool} {ack : OpenOrdersAck}
    (hack : classify Body.cancelAllOpenOrdersAck response = .success ack)
    (self : OrderEntryMargin) (request : Request) :
    (OrderEntryMargin.onResponse shared t (.cancelAllOpenOrders symbol marginMode requestId) response
      retryNow ⟨self,request,[]⟩).outputs =
    (ordersOf ack).map (fun order =>
      .dispatch (OrderEntryMargin.orderUpdate shared self order .undefined .incremental)) ++
      [.dispatch (OrderEntryMargin.exchangeAck self requestId .accepted .undefined "")] := by
  rw [OrderEntryMargin.onResponse,OrderEntryMargin.cancelAllOpenOrdersAck,
    OrderEntryMargin.processResponse,processResponseWith_success hack]
  simp [OrderEntryMargin.onCancelAllOpenOrdersAck, ordersOf]

/-- The orders of a cancel-all are reported without a margin mode. -/
theorem Handled.orders_cancelAll {account symbol requestId : String} {marginMode : MarginMode}
    {response : RestResponse} {retryNow : Bool} {ack : OpenOrdersAck} {r : Controller.Result}
    (h : Handled shared p t oms
      (.margin account (.response (.cancelAllOpenOrders symbol marginMode requestId) response retryNow))
      s s' r)
    (hack : classify Body.cancelAllOpenOrdersAck response = .success ack) (hs : Consistent s) :
    s'.orders = ((ordersOf ack).map fun order =>
      oms.key account .margin order.symbol (toString order.orderId) order.clientOrderId).foldl
        (fun orders key => orders.update key .undefined) s.orders := by
  obtain ⟨e,he,hr⟩ := h.step
  cases he
  obtain ⟨self,hself,rfl⟩ := Option.map_eq_some_iff.mp hr
  have haccount := hs.owned.margin account self hself
  rw [h.orders]
  change List.foldl (oms.absorb .margin) s.orders ((OrderEntryMargin.onResponse shared t _ response
    retryNow ⟨self,s.controller.request account,[]⟩).outputs.map
      (Output.map Controller.Call.margin)) = _
  rw [cancelAll_outputs hack,← haccount]
  simp only [List.foldl_map, List.foldl_append]
  rfl

theorem executionReport_orders (d : DropCopyMargin) (request : Request) (report : ExecutionReportData)
    (order : MatchedOrder) (retryNow : Bool) (orders : Orders) :
    (DropCopyMargin.onSocket shared t (.message (.executionReport report) order retryNow)
      ⟨d,request,[]⟩).outputs.foldl (oms.absorb .margin) orders =
    [oms.key d.account .margin report.symbol (toString report.orderId) report.clientOrderId].foldl
      (fun orders key => orders.update key .undefined) orders := by
  simp only [DropCopyMargin.onSocket, DropCopyMargin.onMessage, Context.dispatchAll_outputs,
    onExecutionReport, List.nil_append, List.map_cons, List.foldl_cons, List.foldl_nil]
  split_ifs <;> rfl

/-- The keys of the margin wallet. -/
theorem venue_undefined_ne {keys : List OrderKey}
    (hkeys : ∀ key ∈ keys, key.wallet = .margin) :
    ∀ key ∈ keys, s.controller.venue key.account .undefined ≠ some key.wallet := by
  intro key hm
  rw [hkeys key hm]
  exact Controller.venue_undefined_ne_margin _ _

theorem routed_margin (hs : Consistent s) {account : String}
    {event : Controller.RestEvent OrderEntryMargin.Call} {r : Controller.Result}
    (h : Handled shared p t oms (.margin account event) s s' r)
    (hrouted : RoutedBy s.controller s.orders) :
    RoutedBy s'.controller s'.orders ↔ Recognised oms s (.margin account event) := by
  have hv : ∀ marginMode, marginMode = .cross ∨ marginMode = .isolated →
      s.controller.venue account marginMode = some .margin := by
    obtain ⟨e,he,hr⟩ := h.step
    cases he
    obtain ⟨self,hself,-⟩ := Option.map_eq_some_iff.mp hr
    rintro marginMode (rfl | rfl)
    · rw [Controller.venue_cross,hself]
      rfl
    · rw [Controller.venue_isolated,hself]
      rfl
  by_cases hcancel : ∃ symbol marginMode requestId response retryNow ack,
      event = .response (.cancelAllOpenOrders symbol marginMode requestId) response retryNow ∧
      classify Body.cancelAllOpenOrdersAck response = .success ack
  · obtain ⟨symbol,marginMode,requestId,response,retryNow,ack,rfl,hack⟩ := hcancel
    rw [RoutedBy.congr h.alike,h.orders_cancelAll hack hs,
      RoutedBy.foldl_undefined_iff (venue_undefined_ne (by simp [Oms.key])) hrouted]
    simp only [Recognised, List.forall_mem_map, hack, Processed.success.injEq]
    constructor
    · rintro hknown ack' rfl
      exact hknown
    · intro hknown
      exact hknown ack rfl
  · have hmodes : ∀ marginMode, Modes (.margin account event) marginMode →
        marginMode = .cross ∨ marginMode = .isolated := by
      intro marginMode hm
      cases event with
      | response call response retryNow =>
        cases call with
        | cancelAllOpenOrders symbol marginMode' requestId =>
          rcases hm with hm | hm | ⟨-,ack,hack⟩
          · exact .inl hm
          · exact .inr hm
          · exact absurd ⟨_,_,_,_,_,ack,rfl,hack⟩ hcancel
        | _ => exact hm
      | _ => exact hm
    refine iff_of_true (h.routed rfl rfl (fun marginMode hm => hv _ (hmodes _ hm)) hrouted) ?_
    cases event with
    | response call response retryNow =>
      cases call with
      | cancelAllOpenOrders symbol marginMode requestId =>
        intro ack hack
        exact absurd ⟨_,_,_,_,_,ack,rfl,hack⟩ hcancel
      | _ => trivial
    | _ => trivial

end

section
variable {shared : Shared} {p : WSAPIParsers} {oms : Oms} {s s' : Routing} {e : Timed Event}

theorem consistent_create (experimentalDropMargin : Bool) (accounts : List Controller.Account) :
    Consistent (create experimentalDropMargin accounts) where
  owned := Controller.owned_create experimentalDropMargin accounts
  dropCopy _ _ h := by cases h
  dropCopyMargin _ _ h := by cases h
  inFlight _ h := by cases h

theorem consistent_next (h : Consistent s) (hn : next oms shared p s e = some s') :
    Consistent s' := by
  obtain ⟨t,event⟩ := e
  have hphase : controllerPhase oms shared p t event s = some s' → Consistent s' := by
    intro hs
    obtain ⟨r,hr⟩ := controllerPhase_eq_some h hs
    exact hr.consistent
  cases event with
  | dropCopy account event =>
    exact (dropCopy_step h (DropCopyPortfolio.policy fun _ => True) (fun _ => rfl)
      (fun _ hc => DropCopyPortfolio.obeyed_handle shared t trivial event hc) hn).1
  | dropCopyMarginTimer account refresh =>
    exact (dropCopyMargin_step h (DropCopyMargin.policy fun _ => True) (fun _ => rfl)
      (fun _ hc => DropCopyMargin.obeyed_onTimer t refresh hc) hn).1
  | dropCopyMarginSocket account event =>
    exact (dropCopyMargin_step h (DropCopyMargin.policy fun _ => True) (fun _ => rfl)
      (fun _ hc => DropCopyMargin.obeyed_onSocket t shared event (fun _ _ _ _ => trivial) hc) hn).1
  | createOrder info request text => exact hphase hn
  | modifyOrder info request key text => exact hphase hn
  | cancelOrder info request key text => exact hphase hn
  | cancelAllOrders info request requestId => exact hphase hn
  | webSocket account event => exact hphase hn
  | portfolio account event => exact hphase hn
  | margin account event => exact hphase hn

theorem routed_dropCopyMarginSocket (h : Consistent s) {t : TraceInfo} {account : String}
    {event : DropCopyMargin.SocketEvent} (hr : RoutedBy s.controller s.orders)
    (hn : next oms shared p s ⟨t,.dropCopyMarginSocket account event⟩ = some s') :
    RoutedBy s'.controller s'.orders ↔ Recognised oms s (.dropCopyMarginSocket account event) := by
  by_cases hreport : ∃ report order retryNow,
      event = .message (.executionReport report) order retryNow
  · obtain ⟨report,order,retryNow,rfl⟩ := hreport
    obtain ⟨-,halike,d,hd,-,horders⟩ := dropCopyMargin_step h
      (DropCopyMargin.policy fun _ => True) (fun _ => rfl)
      (fun _ hc => DropCopyMargin.obeyed_onSocket t shared _ (fun _ _ _ _ => trivial) hc) hn
    rw [RoutedBy.congr halike,horders,executionReport_orders,(h.dropCopyMargin account d hd).1,
      RoutedBy.foldl_undefined_iff (venue_undefined_ne (by simp [Oms.key])) hr]
    simp [Recognised]
  · obtain ⟨-,halike,d,-,hallows,horders⟩ := dropCopyMargin_step h
      (DropCopyMargin.policy fun _ => False) (fun _ => rfl)
      (fun _ hc => DropCopyMargin.obeyed_onSocket t shared event
        (fun report order retryNow he => absurd ⟨report,order,retryNow,he⟩ hreport) hc) hn
    refine iff_of_true ?_ ?_
    · rw [RoutedBy.congr halike,horders]
      exact RoutedBy.absorb_all (fun _ hm => hm.elim) (reports_of_allows hallows) hr
    · unfold Recognised
      split
      · cases ‹_›
      · next report order retryNow he =>
        cases he
        exact absurd ⟨_,_,_,rfl⟩ hreport
      · trivial

theorem routed_next (h : Consistent s) (hr : Routed s) (hn : next oms shared p s e = some s') :
    Routed s' ↔ Recognised oms s e.event := by
  rw [routed_iff_routedBy] at hr ⊢
  obtain ⟨t,event⟩ := e
  have hclient : event.wallet = none → controllerPhase oms shared p t event s = some s' →
      RoutedBy s'.controller s'.orders := by
    intro hw hs
    obtain ⟨r,hhandled⟩ := controllerPhase_eq_some h hs
    exact hhandled.routed_client hw hr
  cases event with
  | createOrder info request text => exact iff_of_true (hclient rfl hn) trivial
  | modifyOrder info request key text => exact iff_of_true (hclient rfl hn) trivial
  | cancelOrder info request key text => exact iff_of_true (hclient rfl hn) trivial
  | cancelAllOrders info request requestId => exact iff_of_true (hclient rfl hn) trivial
  | webSocket account event =>
    obtain ⟨r,hhandled⟩ := controllerPhase_eq_some h hn
    refine iff_of_true (hhandled.routed rfl rfl ?_ hr) trivial
    rintro marginMode rfl
    obtain ⟨e,he,hstep⟩ := hhandled.step
    cases he
    simp only [Controller.step] at hstep
    split at hstep
    · next self hs =>
      rw [Event.account,Controller.venue_undefined,hs]
      rfl
    · cases hstep
  | portfolio account event =>
    obtain ⟨r,hhandled⟩ := controllerPhase_eq_some h hn
    refine iff_of_true (hhandled.routed rfl rfl ?_ hr) trivial
    rintro marginMode rfl
    obtain ⟨e,he,hstep⟩ := hhandled.step
    cases he
    simp only [Controller.step] at hstep
    split at hstep
    · next self hs =>
      rw [Event.account,Controller.venue_portfolio,hs]
      rfl
    · cases hstep
  | margin account event =>
    obtain ⟨r,hhandled⟩ := controllerPhase_eq_some h hn
    exact routed_margin h hhandled hr
  | dropCopy account event =>
    obtain ⟨-,halike,d,hd,hallows,horders⟩ := dropCopy_step h
      (DropCopyPortfolio.policy fun marginMode => marginMode = .portfolio) (fun _ => rfl)
      (fun _ hc => DropCopyPortfolio.obeyed_handle shared t (by rfl) event hc) hn
    refine iff_of_true ?_ trivial
    rw [RoutedBy.congr halike,horders]
    refine RoutedBy.absorb_all ?_ (reports_of_allows hallows) hr
    rintro marginMode rfl
    exact (h.dropCopy account d hd).2
  | dropCopyMarginTimer account refresh =>
    obtain ⟨-,halike,d,-,hallows,horders⟩ := dropCopyMargin_step h
      (DropCopyMargin.policy fun _ => False) (fun _ => rfl)
      (fun _ hc => DropCopyMargin.obeyed_onTimer t refresh hc) hn
    refine iff_of_true ?_ trivial
    rw [RoutedBy.congr halike,horders]
    exact RoutedBy.absorb_all (fun _ hm => hm.elim) (reports_of_allows hallows) hr
  | dropCopyMarginSocket account event => exact routed_dropCopyMarginSocket h hr hn

end

/-- In a run every order is routed to its wallet throughout, exactly if the margin wallet
reports no order without its margin mode before the order is known. -/
theorem routed_throughout_iff (oms : Oms) (shared : Shared) (p : WSAPIParsers)
    (experimentalDropMargin : Bool) (accounts : List Controller.Account) (es : List (Timed Event)) :
    (machine oms shared p experimentalDropMargin accounts).Steps (fun _ _ s' => Routed s')
      (create experimentalDropMargin accounts) es ↔
    (machine oms shared p experimentalDropMargin accounts).Steps
      (fun s e _ => Recognised oms s e.event) (create experimentalDropMargin accounts) es := by
  refine Machine.steps_iff_steps (I := Consistent) ?_ ?_
    (consistent_create experimentalDropMargin accounts) ?_
  · intro s e s' h hn
    exact consistent_next h hn
  · intro e _ s s' h hr hn
    exact routed_next h hr hn
  · intro key marginMode hk
    cases hk

/-- The report of an order that was not created here. -/
def report : ExecutionReportData where
  eventTime := 6
  symbol := "BTCUSDT"
  clientOrderId := "web_1"
  side := .buy
  orderType := .limit
  timeInForce := .gtc
  price := some 1
  stopPrice := some 0
  currentExecutionType := .new
  currentOrderStatus := .new
  orderId := 17
  lastExecutedQuantity := some 0
  cumulativeFilledQuantity := some 0
  lastExecutedPrice := some 0
  commissionAmount := some 0
  commissionAsset := ""
  transactionTime := 6
  tradeId := -1
  isTradeMaker := false
  cumulativeQuoteAssetTransactedQuantity := some 0
  lastQuoteAssetTransactedQuantity := some 0

/-- The margin wallet's user stream logs on, subscribes and is told of the order. -/
def externalOrder : List (Timed Event) :=
  [⟨⟨1,0⟩,.margin "A1" .connected⟩,
   ⟨⟨2,0⟩,.margin "A1" (.response (.listenKey .cross) (.result 200 .success 0
     {Body.unreadable with listenKeyAckMargin := .ok ⟨"token"⟩}) false)⟩,
   ⟨⟨3,0⟩,.dropCopyMarginSocket "A1" .ready⟩,
   ⟨⟨4,0⟩,.dropCopyMarginSocket "A1"
     (.message (.sessionLogon ⟨200,(),⟨0,""⟩,[]⟩) ⟨0,0,0⟩ false)⟩,
   ⟨⟨5,0⟩,.dropCopyMarginSocket "A1"
     (.message (.userDataStreamSubscribe ⟨200,(),⟨0,""⟩,[]⟩) ⟨0,0,0⟩ false)⟩,
   ⟨⟨6,0⟩,.dropCopyMarginSocket "A1" (.message (.executionReport report) ⟨0,0,0⟩ false)⟩]

/-- The order lives in the margin wallet and is routed to the spot socket. -/
theorem external_order_routed_to_spot :
    ¬ ∀ s, (machine .sample Shared.sample .sample false [⟨"A1",.undefined⟩]).Reachable s →
      Routed s := by
  intro h
  have hrun : ((machine .sample Shared.sample .sample false [⟨"A1",.undefined⟩]).run
      (create false [⟨"A1",.undefined⟩]) externalOrder).any fun s =>
        (s.orders ⟨"A1",.margin,2⟩ = some .undefined) := by
    decide +kernel
  obtain ⟨s,hs,hp⟩ := Machine.exists_reachable _ hrun
  have hknown := of_decide_eq_true hp
  have hrouted := (routed_iff_routedBy s).mp (h s hs) _ _ hknown
  exact Controller.venue_undefined_ne_margin _ _ hrouted

end Routing
end RoqBinance.Gateway
