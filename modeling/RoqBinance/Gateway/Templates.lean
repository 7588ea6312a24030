import RoqBinance.Gateway.CancelAll
import RoqBinance.Gateway.Config
import RoqBinance.Gateway.SignedRequests

/-! The templates on their way: what the configuration has under a label is what the requests
with that label carry to the exchange. -/
namespace RoqBinance.Gateway
open Library Protocol.Json Tools

/-- An order as it is sent: an object on the socket, a query for REST. -/
inductive Encoded
  | json (text : String)
  | url (text : String)
  deriving DecidableEq, Repr

/-- The parameters that the exchange reads. -/
def Encoded.read : Encoded → Option (List (Text × Text))
  | json text => (Object.read text.toList).map fun members =>
    members.map fun member => (member.1,member.2.value)
  | url text => Query.read text.toList

/-- What an account signs with: the functions of other libraries and what their writer throws when
its buffer is full, the account's own keys and buffers, and the time. -/
structure Signer (W : Type) where
  utils : Utils W
  overflow : Exception
  account : Account
  now : ℕ

namespace Controller

def Call.order : Call → Option Encoded
  | .frame x =>
    match x.params with
    | .order params => some (.json params)
    | _ => none
  | .portfolio (.newOrder body _ _) => some (.url body)
  | .portfolio (.cancelOrder body _ _ _) => some (.url body)
  | .portfolio _ => none
  | .margin (.newOrder body _ _) => some (.url body)
  | .margin (.cancelOrder body _ _ _) => some (.url body)
  | .margin _ => none

def orders (outputs : List (Output Call)) : List Encoded :=
  (outputs.filterMap Output.sent).filterMap Call.order

/-- The orders that a handler has sent, and whether it has returned. -/
def Result.sent (r : Result) : List Encoded × Bool := (orders r.outputs,r.exception.isNone)

def Target.isReady : Target → Bool
  | orderEntry entry => entry.isReady
  | margin self => self.isReady

def Target.encoded (text : String) : Target → Encoded
  | orderEntry (.webSocket _) => .json text
  | orderEntry (.portfolio _) => .url text
  | margin _ => .url text

/-- What becomes of a request for a stream. -/
def passed (found : Bool) (text : String) : Except Exception Target → List Encoded × Bool
  | .ok target => if target.isReady && found then ([target.encoded text],true) else ([],false)
  | .error _ => ([],false)

/-- A handler sends its order if the stream is ready and the template is there. -/
def Sends {Self C : Type} (wrap : C → Call) (ready found : Bool) (order : Encoded)
    (result : Context Self C × Option Exception) : Prop :=
  (orders (result.1.outputs.map (Output.map wrap)),result.2.isNone) =
    if ready && found then ([order],true) else ([],false)

section
variable (shared : Shared) (account : String) (marginMode : MarginMode)

theorem sent_route {webSocket : WebSocket.ClientRequest}
    {portfolio : OrderEntryPortfolio.ClientRequest} {margin : OrderEntryMargin.ClientRequest}
    {text : String} {found : Bool}
    (hwebSocket : ∀ self request, Sends .frame self.isReady found (.json text)
      (WebSocket.onRequest shared webSocket ⟨self,request,[]⟩))
    (hportfolio : ∀ self request, Sends .portfolio self.isReady found (.url text)
      (OrderEntryPortfolio.onRequest shared portfolio ⟨self,request,[]⟩))
    (s : Controller)
    (hmargin : ∀ self request, getOrderEntry account marginMode s = .ok (.margin self) →
      Sends .margin self.isReady found (.url text)
        (OrderEntryMargin.onRequest shared margin ⟨self,request,[]⟩)) :
    (route shared account marginMode webSocket portfolio margin s).sent =
      passed found text (getOrderEntry account marginMode s) := by
  unfold route
  cases htarget : getOrderEntry account marginMode s with
  | error e => rfl
  | ok target =>
    cases target with
    | margin self => exact hmargin self (s.request account) htarget
    | orderEntry entry =>
      cases entry with
      | webSocket self => exact hwebSocket self (s.request account)
      | portfolio self => exact hportfolio self (s.request account)

end

section
variable {shared : Shared} (info : MessageInfo)

theorem sends_orderPlace (createOrder : CreateOrder) (params : String) (self : WebSocket)
    (request : Request) :
    Sends .frame self.isReady (shared.getCreateOrderTemplate createOrder.requestTemplate).toBool
      (.json params)
      (WebSocket.onRequest shared (.createOrder info createOrder params) ⟨self,request,[]⟩) := by
  cases hr : self.isReady with
  | false => simp [Sends, WebSocket.onRequest, WebSocket.orderPlace, hr, orders]
  | true =>
    cases ht : shared.getCreateOrderTemplate createOrder.requestTemplate with
    | error e =>
      simp [Sends, WebSocket.onRequest, WebSocket.orderPlace, hr, ht, orders, Except.toBool]
    | ok _ =>
      simp [Sends, WebSocket.onRequest, WebSocket.orderPlace, WebSocket.sendText, hr, ht, orders,
        Except.toBool, Output.map, Output.sent, Call.order]

theorem sends_orderCancel (cancelOrder : CancelOrder) (params : String) (self : WebSocket)
    (request : Request) :
    Sends .frame self.isReady (shared.getCancelOrderTemplate cancelOrder.requestTemplate).toBool
      (.json params)
      (WebSocket.onRequest shared (.cancelOrder info cancelOrder params) ⟨self,request,[]⟩) := by
  cases hr : self.isReady with
  | false => simp [Sends, WebSocket.onRequest, WebSocket.orderCancel, hr, orders]
  | true =>
    cases ht : shared.getCancelOrderTemplate cancelOrder.requestTemplate with
    | error e =>
      simp [Sends, WebSocket.onRequest, WebSocket.orderCancel, hr, ht, orders, Except.toBool]
    | ok _ =>
      simp [Sends, WebSocket.onRequest, WebSocket.orderCancel, WebSocket.sendText, hr, ht, orders,
        Except.toBool, Output.map, Output.sent, Call.order]

theorem sends_newOrder_portfolio (createOrder : CreateOrder) (body : String)
    (self : OrderEntryPortfolio) (request : Request) :
    Sends .portfolio self.isReady (shared.getCreateOrderTemplate createOrder.requestTemplate).toBool
      (.url body)
      (OrderEntryPortfolio.onRequest shared (.createOrder info createOrder body)
        ⟨self,request,[]⟩) := by
  cases hr : self.isReady with
  | false => simp [Sends, OrderEntryPortfolio.onRequest, OrderEntryPortfolio.newOrder, hr, orders]
  | true =>
    cases ht : shared.getCreateOrderTemplate createOrder.requestTemplate with
    | error e =>
      simp [Sends, OrderEntryPortfolio.onRequest, OrderEntryPortfolio.newOrder, hr, ht, orders,
        Except.toBool]
    | ok _ =>
      simp [Sends, OrderEntryPortfolio.onRequest, OrderEntryPortfolio.newOrder, hr, ht, orders,
        Except.toBool, Output.map, Output.sent, Call.order]

theorem sends_cancelOrder_portfolio (cancelOrder : CancelOrder) (body : String)
    (self : OrderEntryPortfolio) (request : Request) :
    Sends .portfolio self.isReady (shared.getCancelOrderTemplate cancelOrder.requestTemplate).toBool
      (.url body)
      (OrderEntryPortfolio.onRequest shared (.cancelOrder info cancelOrder body)
        ⟨self,request,[]⟩) := by
  cases hr : self.isReady with
  | false => simp [Sends, OrderEntryPortfolio.onRequest, OrderEntryPortfolio.cancelOrder, hr, orders]
  | true =>
    cases ht : shared.getCancelOrderTemplate cancelOrder.requestTemplate with
    | error e =>
      simp [Sends, OrderEntryPortfolio.onRequest, OrderEntryPortfolio.cancelOrder, hr, ht, orders,
        Except.toBool]
    | ok _ =>
      simp [Sends, OrderEntryPortfolio.onRequest, OrderEntryPortfolio.cancelOrder, hr, ht, orders,
        Except.toBool, Output.map, Output.sent, Call.order]

theorem sends_newOrder_margin (createOrder : CreateOrder) (body : String)
    (self : OrderEntryMargin) (request : Request) :
    Sends .margin self.isReady (shared.getCreateOrderTemplate createOrder.requestTemplate).toBool
      (.url body)
      (OrderEntryMargin.onRequest shared (.createOrder info createOrder body)
        ⟨self,request,[]⟩) := by
  cases hr : self.isReady with
  | false => simp [Sends, OrderEntryMargin.onRequest, OrderEntryMargin.newOrder, hr, orders]
  | true =>
    cases ht : shared.getCreateOrderTemplate createOrder.requestTemplate with
    | error e =>
      simp [Sends, OrderEntryMargin.onRequest, OrderEntryMargin.newOrder, hr, ht, orders,
        Except.toBool]
    | ok _ =>
      simp [Sends, OrderEntryMargin.onRequest, OrderEntryMargin.newOrder, hr, ht, orders,
        Except.toBool, Output.map, Output.sent, Call.order]

/-- The stream refuses the margin mode that the controller does not route to it. -/
theorem sends_cancelOrder_margin (cancelOrder : CancelOrder) {marginMode : MarginMode}
    (hmode : marginMode ≠ .portfolio) (body : String) (self : OrderEntryMargin)
    (request : Request) :
    Sends .margin self.isReady (shared.getCancelOrderTemplate cancelOrder.requestTemplate).toBool
      (.url body)
      (OrderEntryMargin.onRequest shared (.cancelOrder info cancelOrder marginMode body)
        ⟨self,request,[]⟩) := by
  cases hr : self.isReady with
  | false => simp [Sends, OrderEntryMargin.onRequest, OrderEntryMargin.cancelOrder, hr, orders]
  | true =>
    cases ht : shared.getCancelOrderTemplate cancelOrder.requestTemplate with
    | error e =>
      simp [Sends, OrderEntryMargin.onRequest, OrderEntryMargin.cancelOrder, hr, ht, orders,
        Except.toBool]
    | ok _ =>
      simp [Sends, OrderEntryMargin.onRequest, OrderEntryMargin.cancelOrder, hr, ht, hmode, orders,
        Except.toBool, Output.map, Output.sent, Call.order]

theorem ne_portfolio_of_margin {s : Controller} {account : String} {marginMode : MarginMode}
    {self : OrderEntryMargin} (h : getOrderEntry account marginMode s = .ok (.margin self)) :
    marginMode ≠ .portfolio := by
  rintro rfl
  obtain ⟨entry,-,hentry⟩ := Config.map_eq_ok.mp h
  cases hentry

end

/-- What the stream of a request gets from the encoder, if it gets as far as that. -/
def encode {α : Type} (json url : α → String) (template : Except Exception α) :
    Except Exception Target → String
  | .ok (.orderEntry (.webSocket _)) => (template.toOption.map json).getD ""
  | .ok (.orderEntry (.portfolio _)) => (template.toOption.map url).getD ""
  | .ok (.margin _) => (template.toOption.map url).getD ""
  | .error _ => ""

section
variable {W : Type} (signer : Signer W)

/-- Over REST there must be room for the query and its signature. -/
def signs (text : String) : Except Exception Target → Bool
  | .ok (.orderEntry (.webSocket _)) => true
  | .ok (.orderEntry (.portfolio _)) =>
    (signer.account.createRestSignatureOldBody signer.utils signer.now text.toList).isSome
  | .ok (.margin _) => (signer.account.createRestSignatureBodyNew signer.utils text.toList).isSome
  | .error _ => true

/-- A handler that gets as far as to sign its text ends there if it cannot. -/
def Result.sign (text : String) (target : Except Exception Target) (r : Result) : Result :=
  if r.exception.isNone && !signs signer text target then
    {r with outputs := r.outputs.filter (·.sent.isNone),exception := some signer.overflow}
  else r

variable (shared : Shared) (config : Config) (f : Formats) (requestId : String)
  (recvWindow nowUtc : ℤ) (info : MessageInfo)

def createOrderText (order : CreateOrderParameters) (refData : RefData)
    (sideEffectType : SideEffectType) (s : Controller) : String :=
  encode (fun template => Encoder.placeOrderJson f order refData requestId template recvWindow nowUtc)
    (fun template => Encoder.newOrderUrl f order refData requestId template recvWindow nowUtc
      sideEffectType)
    (config.getCreateOrderTemplate order.requestTemplate)
    (getOrderEntry order.account order.marginMode s)

def cancelOrderText (request : CancelOrder) (order : OmsOrder) (previousRequestId : String)
    (s : Controller) : String :=
  encode (fun template => Encoder.cancelOrderJson f order requestId previousRequestId recvWindow
      nowUtc template.toCancelOrderTemplate)
    (fun template => Encoder.cancelOrderUrl f order requestId recvWindow nowUtc
      template.toCancelOrderTemplate)
    (config.getCancelOrderTemplate request.requestTemplate)
    (getOrderEntry request.account order.marginMode s)

def createOrder (order : CreateOrderParameters) (refData : RefData)
    (sideEffectType : SideEffectType) (s : Controller) : Result :=
  let text := createOrderText config f requestId recvWindow nowUtc order refData sideEffectType s
  (onRequest (config.share shared) (.createOrder info order.toCreateOrder text) s).sign signer text
    (getOrderEntry order.account order.marginMode s)

def cancelOrder (request : CancelOrder) (order : OmsOrder) (previousRequestId : String)
    (s : Controller) : Result :=
  let text := cancelOrderText config f requestId recvWindow nowUtc request order previousRequestId s
  (onRequest (config.share shared) (.cancelOrder info request order.marginMode text) s).sign signer
    text (getOrderEntry request.account order.marginMode s)

end

/-- The stream of the request can take it. -/
def Ready (account : String) (marginMode : MarginMode) (s : Controller) : Prop :=
  ∃ target, getOrderEntry account marginMode s = .ok target ∧ target.isReady = true

/-- A text from which `value` is read under `key`. -/
def Carries (key : String) (value : Option Text) (order : Encoded) : Prop :=
  ∃ fields, order.read = some fields ∧ (fields.map Prod.fst).Nodup ∧
    fields.lookup key.toList = value

/-- The request returns exactly if `passes` holds. Then one order is sent, which carries the value;
else none is. -/
structure Result.Passes (passes : Prop) (key : String) (value : Option Text) (r : Result) :
    Prop where
  returns : r.exception = none ↔ passes
  carries : r.exception = none → ∃ order, orders r.outputs = [order] ∧ Carries key value order
  silent : r.exception ≠ none → orders r.outputs = []

theorem passes_of_sent {α : Type} (json url : α → String) {template : Except Exception α}
    {account : String} {marginMode : MarginMode} {s : Controller} {r : Result} {key : String}
    {value : Option Text}
    (hsent : r.sent = passed template.toBool
      (encode json url template (getOrderEntry account marginMode s))
      (getOrderEntry account marginMode s))
    (hjson : ∀ t, template = .ok t → Carries key value (.json (json t)))
    (hurl : ∀ t, template = .ok t → Carries key value (.url (url t))) :
    r.Passes (Ready account marginMode s ∧ template.toBool = true) key value := by
  have horders := congrArg Prod.fst hsent
  have hexception := congrArg Prod.snd hsent
  change orders r.outputs = _ at horders
  change r.exception.isNone = _ at hexception
  cases htarget : getOrderEntry account marginMode s with
  | error e =>
    simp only [htarget, passed] at horders hexception
    have hne : r.exception ≠ none := fun h => by simp [h] at hexception
    refine ⟨?_,fun h => absurd h hne,fun _ => horders⟩
    simp [Ready, htarget, hne]
  | ok target =>
    simp only [htarget, passed] at horders hexception
    cases htemplate : template with
    | error e =>
      simp only [htemplate, Except.toBool, Bool.and_false, Bool.false_eq_true, if_false]
        at horders hexception
      have hne : r.exception ≠ none := fun h => by simp [h] at hexception
      refine ⟨?_,fun h => absurd h hne,fun _ => horders⟩
      simp [Except.toBool, hne]
    | ok t =>
      cases hready : target.isReady with
      | false =>
        simp only [hready, Bool.false_and, Bool.false_eq_true, if_false] at horders hexception
        have hne : r.exception ≠ none := fun h => by simp [h] at hexception
        refine ⟨?_,fun h => absurd h hne,fun _ => horders⟩
        simp [Ready, htarget, hready, hne]
      | true =>
        simp only [hready, htemplate, Except.toBool, Bool.and_self, if_true] at horders hexception
        have hnone : r.exception = none := by simpa using hexception
        refine ⟨?_,fun _ => ⟨_,horders,?_⟩,fun h => absurd hnone h⟩
        · simp [Ready, htarget, hready, hnone, Except.toBool]
        · cases target with
          | margin self => exact hurl t htemplate
          | orderEntry entry =>
            cases entry with
            | webSocket self => exact hjson t htemplate
            | portfolio self => exact hurl t htemplate

/-- What cannot be signed is not sent. -/
theorem Result.Passes.sign {W : Type} (signer : Signer W) {text : String}
    {target : Except Exception Target} {r : Result} {passes : Prop} {key : String}
    {value : Option Text} (h : r.Passes passes key value) :
    (r.sign signer text target).Passes (passes ∧ signs signer text target = true) key value := by
  unfold Result.sign
  cases hsigns : signs signer text target with
  | true => simpa using h
  | false =>
    by_cases hnone : r.exception = none
    · have hsilent : orders (r.outputs.filter (·.sent.isNone)) = [] := by
        have hnothing : (r.outputs.filter (·.sent.isNone)).filterMap Output.sent = [] := by
          rw [List.filterMap_eq_nil_iff]
          intro output hmem
          exact Option.isNone_iff_eq_none.mp (List.mem_filter.mp hmem).2
        rw [orders,hnothing,List.filterMap_nil]
      rw [hnone]
      exact ⟨by simp,nofun,fun _ => hsilent⟩
    · have hisNone : r.exception.isNone = false := by
        rw [Option.isNone_eq_false_iff,Option.isSome_iff_ne_none]
        exact hnone
      rw [hisNone]
      exact ⟨by simp [hnone],fun h' => absurd h' hnone,h.silent⟩

/-- A label that requests may have. -/
def Known (requestTemplate : RequestTemplate) (label : String) (sections : List Config.Section) :
    Prop :=
  label = "" ∨ (Config.template requestTemplate label sections).isSome = true

/-- The value under a key of the template that a label names, unless it is read as no value. -/
def configured {α : Type} [DecidableEq α] (parse : String → α) (undefined : α)
    (requestTemplate : RequestTemplate) (label key : String) (sections : List Config.Section) :
    Option Text :=
  (((if label = "" then none
    else (Config.template requestTemplate label sections).bind fun table =>
      table.entries.lookup key).filter fun value => parse value ≠ undefined).map String.toList)

theorem toBool_find {α β : Type} {templates : List (String × α)} {default : α}
    {text label : String} {read : β → α} {table : Option β}
    (h : templates.lookup label = table.map read) :
    (Config.find templates default text label).toBool = true ↔ label = "" ∨ table.isSome = true := by
  unfold Config.find
  split_ifs with hlabel
  · simp [Except.toBool, hlabel]
  · cases table with
    | none => simp [h, Except.toBool, hlabel]
    | some table => simp [h, Except.toBool]

/-- A value that is read is sent as it stands in the table. -/
theorem text_of_read {α : Type} [DecidableEq α] {parse : String → α} {text : α → String}
    {undefined unknown : α}
    (hsound : ∀ name, parse name ≠ undefined → parse name ≠ unknown → text (parse name) = name)
    {value : Option String} (hknown : ∀ name ∈ value, parse name ≠ unknown) :
    (if (value.map parse).getD undefined ≠ undefined then
      some (text ((value.map parse).getD undefined)).toList else none) =
      (value.filter fun name => parse name ≠ undefined).map String.toList := by
  cases value with
  | none => simp
  | some name =>
    by_cases h : parse name = undefined
    · simp [h, Option.filter]
    · have htext := hsound name h (hknown name rfl)
      simp [h, Option.filter, htext]

theorem mem_of_template {requestTemplate : RequestTemplate} {label : String}
    {sections : List Config.Section} {table : Table}
    (h : Config.template requestTemplate label sections = some table) :
    .requestTemplate requestTemplate label table ∈ sections := by
  obtain ⟨x,hx,hfound⟩ := List.exists_of_findSome?_eq_some h
  cases x with
  | account account => cases hfound
  | other key => cases hfound
  | requestTemplate r l t =>
    simp only [Option.ite_none_right_eq_some, Option.some.injEq] at hfound
    obtain ⟨⟨rfl,rfl⟩,rfl⟩ := hfound
    exact hx

theorem mem_of_lookup {table : Table} {key value : String}
    (h : table.entries.lookup key = some value) : (key,value) ∈ table.entries := by
  obtain ⟨l1,l2,h,-⟩ := List.lookup_eq_some_iff.mp h
  rw [h]
  simp

/-- The field of a template that is found is what the configuration has. -/
theorem configured_of_find {τ α : Type} [DecidableEq α] {templates : List (String × τ)}
    {default t : τ} {text label key : String} {read : Table → τ} (field : τ → α)
    {parse : String → α} {raw : α → String} {undefined unknown : α}
    {requestTemplate : RequestTemplate} {sections : List Config.Section}
    (hlookup : templates.lookup label =
      (Config.template requestTemplate label sections).map read)
    (hdefault : field default = undefined)
    (hread : ∀ table, field (read table) = ((table.entries.lookup key).map parse).getD undefined)
    (hsound : ∀ name, parse name ≠ undefined → parse name ≠ unknown → raw (parse name) = name)
    (hvalid : ∀ table, .requestTemplate requestTemplate label table ∈ sections →
      ∀ value, (key,value) ∈ table.entries → parse value ≠ unknown)
    (h : Config.find templates default text label = .ok t) :
    (if field t ≠ undefined then some (raw (field t)).toList else none) =
      configured parse undefined requestTemplate label key sections := by
  unfold Config.find at h
  unfold configured
  split_ifs at h with hlabel
  · obtain rfl := Except.ok.inj h
    simp [hlabel, hdefault]
  · cases htable : Config.template requestTemplate label sections with
    | none => simp [hlookup, htable] at h
    | some table =>
      have ht : read table = t := by simpa [hlookup, htable] using h
      rw [if_neg hlabel,Option.bind_some,← ht,hread]
      refine text_of_read hsound ?_
      intro value hvalue
      exact hvalid table (mem_of_template htable) value (mem_of_lookup hvalue)

section
variable {names : Names} {f : Formats} (hnames : names.Sound f) {sections : List Config.Section}
  {config : Config} (hload : Config.load names sections = .ok config)
include hnames hload

theorem configured_mode {label : String} {t : CreateOrderTemplate}
    (h : config.getCreateOrderTemplate label = .ok t) :
    (if t.selfTradePreventionMode ≠ .undefinedInternal then
      some (t.selfTradePreventionMode.asRawText f).toList else none) =
      configured names.selfTradePreventionMode .undefinedInternal .createOrder label
        "self_trade_prevention_mode" sections := by
  refine configured_of_find CreateOrderTemplate.selfTradePreventionMode
    (Config.lookup_createOrderTemplates hload label) rfl (fun _ => rfl) hnames.selfTradePreventionMode ?_ h
  intro table hmem value hvalue
  have hvalid := (Config.load_isOk_iff sections).mp ⟨config,hload⟩ _ hmem
  exact (hvalid _ hvalue).2

theorem configured_restrictions {label : String} {t : Config.CancelOrderTemplate}
    (h : config.getCancelOrderTemplate label = .ok t) :
    (if t.cancelRestrictions ≠ .undefinedInternal then
      some (t.cancelRestrictions.asRawText f).toList else none) =
      configured names.cancelRestrictions .undefinedInternal .cancelOrder label
        "cancel_restrictions" sections := by
  refine configured_of_find (fun t : Config.CancelOrderTemplate => t.cancelRestrictions)
    (Config.lookup_cancelOrderTemplates hload label) rfl (fun _ => rfl)
    hnames.cancelRestrictions ?_ h
  intro table hmem value hvalue
  have hvalid := (Config.load_isOk_iff sections).mp ⟨config,hload⟩ _ hmem
  rcases hvalid _ hvalue with ⟨-,hne⟩ | ⟨hkey,-⟩
  · exact hne
  · simp at hkey

end

section
variable {f : Formats} {requestId : String} (recvWindow nowUtc : ℤ)

theorem carries_placeOrderJson {order : CreateOrderParameters}
    (h : Encoder.Plain f order requestId) (refData : RefData) (t : CreateOrderTemplate) :
    Carries "selfTradePreventionMode" (if t.selfTradePreventionMode ≠ .undefinedInternal then
        some (t.selfTradePreventionMode.asRawText f).toList else none)
      (.json (Encoder.placeOrderJson f order refData requestId t recvWindow nowUtc)) := by
  have hnodup := Encoder.nodup_parameters f order refData requestId t recvWindow nowUtc
  have hvalues : ∀ fields : List (Text × Text), (fields.map Encoder.scalar).map
      (fun member => (member.1,member.2.value)) = fields := by
    intro fields
    rw [List.map_map]
    conv_rhs => rw [← List.map_id fields]
    refine List.map_congr_left fun field _ => ?_
    change ((Encoder.scalar field).1,(Encoder.scalar field).2.value) = field
    unfold Encoder.scalar
    split_ifs <;> rfl
  refine ⟨_,?_,nodup_present hnodup,?_⟩
  · rw [Encoded.read,Encoder.read_placeOrderJson refData t recvWindow nowUtc h,Option.map_some,
      hvalues]
  · rw [lookup_present hnodup]
    rfl

theorem carries_newOrderUrl {order : CreateOrderParameters}
    (h : Encoder.Plain f order requestId) (refData : RefData) (t : CreateOrderTemplate)
    (sideEffectType : SideEffectType) :
    Carries "selfTradePreventionMode" (if t.selfTradePreventionMode ≠ .undefinedInternal then
        some (t.selfTradePreventionMode.asRawText f).toList else none)
      (.url (Encoder.newOrderUrl f order refData requestId t recvWindow nowUtc
        sideEffectType)) := by
  have hnodup := Encoder.nodup_urlParameters f order refData requestId t recvWindow nowUtc
    sideEffectType
  refine ⟨_,Encoder.read_newOrderUrl refData t recvWindow nowUtc h sideEffectType,
    nodup_present hnodup,?_⟩
  rw [lookup_present hnodup]
  rfl

theorem carries_cancelOrderJson {order : OmsOrder} {previousRequestId : String}
    (h : Encoder.PlainCancel f order requestId previousRequestId)
    (t : Protocol.Json.CancelOrderTemplate) :
    Carries "cancelRestrictions" (if t.cancelRestrictions ≠ .undefinedInternal then
        some (t.cancelRestrictions.asRawText f).toList else none)
      (.json (Encoder.cancelOrderJson f order requestId previousRequestId recvWindow nowUtc t)) := by
  have hnodup := Encoder.nodup_cancelFields f order requestId previousRequestId recvWindow nowUtc t
  refine ⟨(present (Encoder.cancelFields f order requestId previousRequestId recvWindow nowUtc
    t)).map fun member => (member.1,member.2.value),?_,?_,?_⟩
  · rw [Encoded.read,Encoder.read_cancelOrderJson recvWindow nowUtc h t]
    rfl
  · rw [List.map_map]
    exact nodup_present hnodup
  · rw [lookup_map (f := fun _ (value : Object.Scalar) => value.value),lookup_present hnodup]
    change Option.map _ (Option.join (some (if _ then _ else _))) = _
    split_ifs <;> rfl

theorem carries_cancelOrderUrl {order : OmsOrder} {previousRequestId : String}
    (h : Encoder.PlainCancel f order requestId previousRequestId)
    (t : Protocol.Json.CancelOrderTemplate) :
    Carries "cancelRestrictions" (if t.cancelRestrictions ≠ .undefinedInternal then
        some (t.cancelRestrictions.asRawText f).toList else none)
      (.url (Encoder.cancelOrderUrl f order requestId recvWindow nowUtc t)) := by
  have hnodup := Encoder.nodup_cancelPairs f order requestId recvWindow nowUtc t
  refine ⟨_,Encoder.read_cancelOrderUrl recvWindow nowUtc h t,nodup_present hnodup,?_⟩
  rw [lookup_present hnodup]
  rfl

end

section
variable {names : Names} {f : Formats} (hnames : names.Sound f) {sections : List Config.Section}
  {config : Config} (hload : Config.load names sections = .ok config) (shared : Shared)
  {requestId : String} (recvWindow nowUtc : ℤ) (info : MessageInfo) (s : Controller)
  {W : Type} (signer : Signer W)
include hnames hload

theorem passes_createOrder {order : CreateOrderParameters} (h : Encoder.Plain f order requestId)
    (refData : RefData) (sideEffectType : SideEffectType) :
    (createOrder signer shared config f requestId recvWindow nowUtc info order refData
      sideEffectType s).Passes
        ((Ready order.account order.marginMode s ∧
          Known .createOrder order.requestTemplate sections) ∧
          signs signer (createOrderText config f requestId recvWindow nowUtc order refData
            sideEffectType s) (getOrderEntry order.account order.marginMode s) = true)
        "selfTradePreventionMode"
        (configured names.selfTradePreventionMode .undefinedInternal .createOrder
          order.requestTemplate "self_trade_prevention_mode" sections) := by
  have hknown : (config.getCreateOrderTemplate order.requestTemplate).toBool = true ↔
      Known .createOrder order.requestTemplate sections :=
    toBool_find (Config.lookup_createOrderTemplates hload order.requestTemplate)
  have hfound : ((config.share shared).getCreateOrderTemplate order.requestTemplate).toBool =
      (config.getCreateOrderTemplate order.requestTemplate).toBool := by
    rw [Config.getCreateOrderTemplate_share]
    cases config.getCreateOrderTemplate order.requestTemplate <;> rfl
  rw [← hknown]
  refine Result.Passes.sign signer (passes_of_sent
    (fun template => Encoder.placeOrderJson f order refData requestId template recvWindow nowUtc)
    (fun template => Encoder.newOrderUrl f order refData requestId template recvWindow nowUtc
      sideEffectType)
    (sent_route (config.share shared) order.account order.marginMode ?_ ?_ s ?_) ?_ ?_)
  · intro self request; rw [← hfound]; exact sends_orderPlace info order.toCreateOrder _ self request
  · intro self request
    rw [← hfound]
    exact sends_newOrder_portfolio info order.toCreateOrder _ self request
  · intro self request _
    rw [← hfound]
    exact sends_newOrder_margin info order.toCreateOrder _ self request
  · intro t ht
    rw [← configured_mode hnames hload ht]
    exact carries_placeOrderJson recvWindow nowUtc h refData t
  · intro t ht
    rw [← configured_mode hnames hload ht]
    exact carries_newOrderUrl recvWindow nowUtc h refData t sideEffectType

theorem passes_cancelOrder {order : OmsOrder} {previousRequestId : String}
    (h : Encoder.PlainCancel f order requestId previousRequestId) (request : CancelOrder) :
    (cancelOrder signer shared config f requestId recvWindow nowUtc info request order
      previousRequestId s).Passes
        ((Ready request.account order.marginMode s ∧
          Known .cancelOrder request.requestTemplate sections) ∧
          signs signer (cancelOrderText config f requestId recvWindow nowUtc request order
            previousRequestId s) (getOrderEntry request.account order.marginMode s) = true)
        "cancelRestrictions"
        (configured names.cancelRestrictions .undefinedInternal .cancelOrder
          request.requestTemplate "cancel_restrictions" sections) := by
  have hknown : (config.getCancelOrderTemplate request.requestTemplate).toBool = true ↔
      Known .cancelOrder request.requestTemplate sections :=
    toBool_find (Config.lookup_cancelOrderTemplates hload request.requestTemplate)
  have hfound : ((config.share shared).getCancelOrderTemplate request.requestTemplate).toBool =
      (config.getCancelOrderTemplate request.requestTemplate).toBool := by
    rw [Config.getCancelOrderTemplate_share]
    cases config.getCancelOrderTemplate request.requestTemplate <;> rfl
  rw [← hknown]
  refine Result.Passes.sign signer (passes_of_sent
    (fun template => Encoder.cancelOrderJson f order requestId previousRequestId recvWindow nowUtc
      template.toCancelOrderTemplate)
    (fun template => Encoder.cancelOrderUrl f order requestId recvWindow nowUtc
      template.toCancelOrderTemplate)
    (sent_route (config.share shared) request.account order.marginMode ?_ ?_ s ?_) ?_ ?_)
  · intro self r; rw [← hfound]; exact sends_orderCancel info request _ self r
  · intro self r; rw [← hfound]; exact sends_cancelOrder_portfolio info request _ self r
  · intro self r htarget
    rw [← hfound]
    exact sends_cancelOrder_margin info request (ne_portfolio_of_margin htarget) _ self r
  · intro t ht
    rw [← configured_restrictions hnames hload ht]
    exact carries_cancelOrderJson recvWindow nowUtc h t.toCancelOrderTemplate
  · intro t ht
    rw [← configured_restrictions hnames hload ht]
    exact carries_cancelOrderUrl recvWindow nowUtc h t.toCancelOrderTemplate

end

/-- A new order returns exactly if its stream is ready, its label is known and, over REST, its text
can be signed, and then carries the self-trade prevention mode that the configuration has under
its label; a cancel its restrictions. Whatever state the streams are in, a request that does not
return has sent no order. -/
theorem templates_reach_exchange {names : Names} {f : Formats} (hnames : names.Sound f)
    {sections : List Config.Section} {config : Config}
    (hload : Config.load names sections = .ok config) (shared : Shared) {requestId : String}
    (recvWindow nowUtc : ℤ) (info : MessageInfo) (s : Controller) {W : Type} (signer : Signer W) :
    (∀ order refData sideEffectType, Encoder.Plain f order requestId →
      (createOrder signer shared config f requestId recvWindow nowUtc info order refData
        sideEffectType s).Passes
          ((Ready order.account order.marginMode s ∧
            Known .createOrder order.requestTemplate sections) ∧
            signs signer (createOrderText config f requestId recvWindow nowUtc order refData
              sideEffectType s) (getOrderEntry order.account order.marginMode s) = true)
          "selfTradePreventionMode"
          (configured names.selfTradePreventionMode .undefinedInternal .createOrder
            order.requestTemplate "self_trade_prevention_mode" sections)) ∧
    ∀ (request : CancelOrder) (order : OmsOrder) previousRequestId,
      Encoder.PlainCancel f order requestId previousRequestId →
      (cancelOrder signer shared config f requestId recvWindow nowUtc info request order
        previousRequestId s).Passes
          ((Ready request.account order.marginMode s ∧
            Known .cancelOrder request.requestTemplate sections) ∧
            signs signer (cancelOrderText config f requestId recvWindow nowUtc request order
              previousRequestId s) (getOrderEntry request.account order.marginMode s) = true)
          "cancelRestrictions"
          (configured names.cancelRestrictions .undefinedInternal .cancelOrder
            request.requestTemplate "cancel_restrictions" sections) := by
  refine ⟨?_,?_⟩
  · intro order refData sideEffectType hplain
    exact passes_createOrder hnames hload shared recvWindow nowUtc info s signer hplain refData
      sideEffectType
  · intro request order previousRequestId hplain
    exact passes_cancelOrder hnames hload shared recvWindow nowUtc info s signer hplain request

def sampleNames : Names where
  selfTradePreventionMode name :=
    if name = "" then .undefinedInternal
    else if name = "EXPIRE_TAKER" then .expireTaker
    else if name = "EXPIRE_MAKER" then .expireMaker
    else if name = "EXPIRE_BOTH" then .expireBoth
    else .unknownInternal
  cancelRestrictions name :=
    if name = "" then .undefinedInternal
    else if name = "ONLY_NEW" then .onlyNew
    else if name = "ONLY_PARTIALLY_FILLED" then .onlyPartiallyFilled
    else .unknownInternal
  cancelReplaceMode name :=
    if name = "" then .undefinedInternal
    else if name = "STOP_ON_FAILURE" then .stopOnFailure
    else if name = "ALLOW_FAILURE" then .allowFailure
    else .unknownInternal

theorem sound_sampleNames (f : Formats) : sampleNames.Sound f where
  selfTradePreventionMode name h h' := by
    unfold sampleNames at *
    dsimp only at *
    split_ifs at * with h1 h2 h3 h4 <;> simp_all [SelfTradePreventionMode.asRawText]
  cancelRestrictions name h h' := by
    unfold sampleNames at *
    dsimp only at *
    split_ifs at * with h1 h2 h3 <;> simp_all [CancelRestrictions.asRawText]

/-- A template under a label that is taken by then is left out. -/
def sampleSections : List Config.Section :=
  [.account ⟨"A1",.undefined,true,"key","secret","",""⟩,
   .requestTemplate .createOrder "maker" ⟨[("self_trade_prevention_mode","EXPIRE_MAKER")],by decide⟩,
   .requestTemplate .createOrder "maker" ⟨[("self_trade_prevention_mode","EXPIRE_BOTH")],by decide⟩,
   .requestTemplate .cancelOrder "new"
     ⟨[("cancel_replace_mode","ALLOW_FAILURE"),("cancel_restrictions","ONLY_NEW")],by decide⟩]

/-- The spot stream of the account is ready. -/
def sampleController : Controller :=
  {create false [⟨"A1",.undefined⟩] with
    orderEntry := fun _ => some (.webSocket
      {WebSocket.create 2 "A1" with ready := true,connectionStatus := .ready})}

def sampleSigner : Signer Writer :=
  ⟨sampleUtils,.runtimeError "full",.sample "secret" "secret",1674303865000⟩

theorem templates_reach_exchange_sample :
    ∃ config, Config.load sampleNames sampleSections = .ok config ∧
      (∃ order, orders (createOrder sampleSigner Shared.sample config Encoder.sampleFormats
        "oid:1234" 5000 0 ⟨7,6⟩ {Encoder.sampleOrder with requestTemplate := "maker"} ⟨0,0⟩ .marginBuy
          sampleController).outputs = [order] ∧
        Carries "selfTradePreventionMode" (some "EXPIRE_MAKER".toList) order) ∧
      ∃ order, orders (cancelOrder sampleSigner Shared.sample config Encoder.sampleFormats
        "oid:3" 5000 0 ⟨7,6⟩ ⟨"A1",1,1,"new"⟩ {Encoder.sampleOms with marginMode := .undefined} "oid:2"
          sampleController).outputs = [order] ∧
        Carries "cancelRestrictions" (some "ONLY_NEW".toList) order := by
  obtain ⟨config,hload⟩ : ∃ config, Config.load sampleNames sampleSections = .ok config := by
    rw [Config.load_isOk_iff]
    simp only [sampleSections, List.forall_mem_cons, Config.Section.Valid, sampleNames]
    simp
  have hready : Ready "A1" .undefined sampleController := ⟨_,rfl,rfl⟩
  refine ⟨config,hload,?_,?_⟩
  · have hplain : Encoder.Plain Encoder.sampleFormats
        {Encoder.sampleOrder with requestTemplate := "maker"} "oid:1234" :=
      ⟨Encoder.plain_sample.decimal,Encoder.plain_sample.internal,Encoder.plain_sample.requestId,
        Encoder.plain_sample.symbol⟩
    have h := (templates_reach_exchange (sound_sampleNames _) hload Shared.sample 5000 0 ⟨7,6⟩
      sampleController sampleSigner).1 _ ⟨0,0⟩ .marginBuy hplain
    exact h.carries (h.returns.mpr ⟨⟨hready,.inr rfl⟩,rfl⟩)
  · have hplain : Encoder.PlainCancel Encoder.sampleFormats
        {Encoder.sampleOms with marginMode := .undefined} "oid:3" "oid:2" :=
      ⟨Encoder.plain_sampleOms.decimal,Encoder.plain_sampleOms.internal,
        Encoder.plain_sampleOms.requestId,Encoder.plain_sampleOms.previousRequestId,
        Encoder.plain_sampleOms.symbol,Encoder.plain_sampleOms.clientOrderId,
        Encoder.plain_sampleOms.externalOrderId⟩
    have h := (templates_reach_exchange (sound_sampleNames _) hload Shared.sample 5000 0 ⟨7,6⟩
      sampleController sampleSigner).2 ⟨"A1",1,1,"new"⟩ _ _ hplain
    exact h.carries (h.returns.mpr ⟨⟨hready,.inr rfl⟩,rfl⟩)

end Controller
end RoqBinance.Gateway
