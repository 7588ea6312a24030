import RoqBinance.Gateway.Config
import RoqBinance.Gateway.Correlation
import RoqBinance.Gateway.DropCopyMargin
import RoqBinance.Gateway.SignedRequests
import RoqBinance.Library.JsonText
import RoqBinance.Protocol.Json.CancelEncoder

/-! The texts of the requests on the WebSocket API, and what the exchange reads in them. -/
namespace RoqBinance.Gateway
open Library Protocol.Json Tools

/-- A text that stands for itself in quotes. -/
def Unescaped (text : Text) : Prop := ∀ c ∈ text, Object.plain c = true

instance (text : Text) : Decidable (Unescaped text) :=
  decidable_of_iff (text.all Object.plain = true) List.all_eq_true

theorem plain_string {text : Text} (h : Unescaped text) :
    Json.Plain (.string (String.ofList text)) := .string (by rwa [String.toList_ofList])

namespace Params
variable (apiKey signature : Text)

/-- What follows the method in a message. -/
def text : Params → Text
  | .none => []
  | .sessionLogon time =>
    ",\"params\":\x7b\"apiKey\":\"".toList ++ apiKey ++ "\",\"timestamp\":".toList ++
      (toString time).toList ++ ",\"signature\":\"".toList ++ signature ++ "\"\x7d".toList
  | .listenToken token =>
    ",\"params\":\x7b\"listenToken\":\"".toList ++ token.toList ++ "\"\x7d".toList
  | .timestamp time =>
    ",\"params\":\x7b\"timestamp\":\"".toList ++ (toString time).toList ++ "\"\x7d".toList
  | .myTrades time limit startTime symbol =>
    ",\"params\":\x7b\"timestamp\":".toList ++ (toString time).toList ++ ",\"limit\":".toList ++
      (toString limit).toList ++ ",\"startTime\":".toList ++ (toString startTime).toList ++
      ",\"symbol\":\"".toList ++ symbol.toList ++ "\"\x7d".toList
  | .cancelAll symbol time =>
    ",\"params\":\x7b\"symbol\":\"".toList ++ symbol.toList ++ "\",\"timestamp\":\"".toList ++
      (toString time).toList ++ "\"\x7d".toList
  | .order params => ",\"params\":".toList ++ params.toList

/-- The parameters as a reader finds them. -/
def json : Params → Option Json
  | .none => .none
  | .sessionLogon time => some (.object [
      ("apiKey",.string (String.ofList apiKey)),("timestamp",.number (toString time)),
      ("signature",.string (String.ofList signature))])
  | .listenToken token => some (.object [("listenToken",.string token)])
  | .timestamp time => some (.object [("timestamp",.string (toString time))])
  | .myTrades time limit startTime symbol => some (.object [
      ("timestamp",.number (toString time)),("limit",.number (toString limit)),
      ("startTime",.number (toString startTime)),("symbol",.string symbol)])
  | .cancelAll symbol time =>
    some (.object [("symbol",.string symbol),("timestamp",.string (toString time))])
  | .order params => Json.read params.toList

/-- What a client, a user or the exchange has chosen stands for itself, and the parameters of an
order are an object. -/
def Plain : Params → Prop
  | .none => True
  | .sessionLogon _ => True
  | .listenToken token => Unescaped token.toList
  | .timestamp _ => True
  | .myTrades _ _ _ symbol => Unescaped symbol.toList
  | .cancelAll symbol _ => Unescaped symbol.toList
  | .order params => ∃ j, Json.Plain j ∧ params.toList = Json.write j

end Params

namespace Frame

def text (apiKey signature : Text) (frame : Frame) : Text :=
  "\x7b\"id\":\"".toList ++ frame.id ++ "\",\"method\":\"".toList ++ frame.method.toList ++ ['"'] ++
    frame.params.text apiKey signature ++ ['}']

/-- The method is that of the type, and so are the parameters. -/
inductive Typed : WSAPIType → String → Params → Prop
  | sessionLogon (timestamp : ℕ) : Typed .SESSION_LOGON "session.logon" (.sessionLogon timestamp)
  | userDataStreamSubscribe :
    Typed .USER_DATA_STREAM_SUBSCRIBE "userDataStream.subscribe" .none
  | listenToken (listenToken : String) :
    Typed .USER_DATA_STREAM_SUBSCRIBE "userDataStream.subscribe.listenToken"
      (.listenToken listenToken)
  | accountStatus (timestamp : ℕ) : Typed .ACCOUNT_STATUS "account.status" (.timestamp timestamp)
  | openOrdersStatus (timestamp : ℕ) :
    Typed .OPEN_ORDERS_STATUS "openOrders.status" (.timestamp timestamp)
  | myTrades (timestamp limit : ℕ) (startTime : ℤ) (symbol : String) :
    Typed .MY_TRADES "myTrades" (.myTrades timestamp limit startTime symbol)
  | orderPlace (params : String) : Typed .ORDER_PLACE "order.place" (.order params)
  | orderAmendKeepPriority (params : String) :
    Typed .ORDER_AMEND_KEEP_PRIORITY "order.amend.keepPriority" (.order params)
  | orderCancel (params : String) : Typed .ORDER_CANCEL "order.cancel" (.order params)
  | openOrdersCancelAll (symbol : String) (timestamp : ℕ) :
    Typed .OPEN_ORDERS_CANCEL_ALL "openOrders.cancelAll" (.cancelAll symbol timestamp)

/-- The text is an object from which the request, the method and the parameters are read. -/
def Carries (frame : Frame) (apiKey signature : Text) : Prop :=
  ∃ fields id, Json.read (frame.text apiKey signature) = some (.object fields) ∧
    (fields.map Prod.fst).Nodup ∧ fields.lookup "id" = some (.string id) ∧
    WSAPIRequest.decode id.toList = some frame.request ∧
    fields.lookup "method" = some (.string frame.method) ∧
    fields.lookup "params" = frame.params.json apiKey signature

structure Sound (frame : Frame) : Prop where
  typed : Typed frame.request.type frame.method frame.params
  plain : frame.params.Plain

end Frame

section
variable {W : Type} (utils : Utils W) (account : Account)

/-- The signature of a logon; no other message has one. -/
def Params.signature : Params → Text
  | .sessionLogon time => (account.createSessionLogonSignature utils time).1
  | _ => []

/-- The text that the account sends for a frame. -/
def Frame.message (frame : Frame) : Text :=
  frame.text account.crypto.key.toList (frame.params.signature utils account)

/-- The key of the account and its signatures stand for themselves. -/
structure Legible : Prop where
  key : Unescaped account.crypto.key.toList
  signature : ∀ time, Unescaped (account.createSessionLogonSignature utils time).1

/-- The exchange reads in the message what the frame was made from. The message of a logon is the
one that is signed. -/
structure Frame.Understood (frame : Frame) : Prop where
  typed : Frame.Typed frame.request.type frame.method frame.params
  carries : frame.Carries account.crypto.key.toList (frame.params.signature utils account)
  logon : ∀ sent account', SessionLogon.text utils frame account = some (sent,account') →
    sent = frame.message utils account

end

section
variable {apiKey signature : Text}

theorem numeral_toString (n : ℕ) : Numeral.integer (toString n).toList = true :=
  Numeral.integer_toString (n : ℤ)

theorem unescaped_toString (n : ℕ) : Unescaped (toString n).toList := by
  intro c hc
  exact Encoder.object_plain (List.all_eq_true.mp (Encoder.plain_toString (n : ℤ)) c hc)

theorem unescaped_id (frame : Frame) : Unescaped frame.id := by
  intro c hc
  apply Encoder.object_plain
  rcases Base64.alphabet_encode frame.request.data c hc with h | rfl | rfl
  · simp [Encoder.plain, h]
  · rfl
  · rfl

theorem Frame.Typed.unescaped {type : WSAPIType} {method : String} {params : Params}
    (h : Frame.Typed type method params) : Unescaped method.toList := by
  cases h <;> decide

/-- The parameters are those that a reader finds. -/
theorem Params.text_eq {params : Params} (h : params.Plain) :
    params.text apiKey signature =
      (params.json apiKey signature).elim [] fun j => ",\"params\":".toList ++ Json.write j := by
  unfold Params.text
  cases params with
  | none => rfl
  | order params =>
    obtain ⟨j,hj,ht⟩ := h
    simp only [json, ht, Json.read_write hj, Option.elim_some]
  | _ => simp [json, Json.write, Json.writeFields, Json.writeMoreFields, Object.writeText]

/-- An object each of whose fields can be read back. -/
theorem plain_fields {fields : List (String × Json)}
    (h : ∀ field ∈ fields, Unescaped field.1.toList ∧ Json.Plain field.2) :
    Json.Plain (.object fields) :=
  .object (fun field hf => (h field hf).1) fun field hf => (h field hf).2

theorem Params.plain_json (hkey : Unescaped apiKey) (hsignature : Unescaped signature)
    {params : Params} (h : params.Plain) : ∀ j ∈ params.json apiKey signature, Json.Plain j := by
  intro j hj
  cases params with
  | none => cases hj
  | sessionLogon time =>
    obtain rfl := Option.some.inj hj
    apply plain_fields
    simp only [List.forall_mem_cons]
    exact ⟨⟨by decide,plain_string hkey⟩,⟨by decide,.number (numeral_toString time)⟩,
      ⟨by decide,plain_string hsignature⟩,by simp⟩
  | listenToken token =>
    obtain rfl := Option.some.inj hj
    apply plain_fields
    simp only [List.forall_mem_cons]
    exact ⟨⟨by decide,.string h⟩,by simp⟩
  | timestamp time =>
    obtain rfl := Option.some.inj hj
    apply plain_fields
    simp only [List.forall_mem_cons]
    exact ⟨⟨by decide,.string (unescaped_toString time)⟩,by simp⟩
  | myTrades time limit startTime symbol =>
    obtain rfl := Option.some.inj hj
    apply plain_fields
    simp only [List.forall_mem_cons]
    exact ⟨⟨by decide,.number (numeral_toString time)⟩,⟨by decide,.number (numeral_toString limit)⟩,
      ⟨by decide,.number (Numeral.integer_toString startTime)⟩,⟨by decide,.string h⟩,by simp⟩
  | cancelAll symbol time =>
    obtain rfl := Option.some.inj hj
    apply plain_fields
    simp only [List.forall_mem_cons]
    exact ⟨⟨by decide,.string h⟩,⟨by decide,.string (unescaped_toString time)⟩,by simp⟩
  | order params =>
    obtain ⟨k,hk,ht⟩ := h
    rw [json,ht,Json.read_write hk] at hj
    exact Option.some.inj hj ▸ hk

/-- The fields of the message. -/
def Frame.fields (apiKey signature : Text) (frame : Frame) : List (String × Json) :=
  [("id",.string (String.ofList frame.id)),("method",.string frame.method)] ++
    ((frame.params.json apiKey signature).map fun j => ("params",j)).toList

theorem Frame.text_eq_write {frame : Frame} (h : frame.params.Plain) :
    frame.text apiKey signature = Json.write (.object (frame.fields apiKey signature)) := by
  unfold Frame.text
  rw [Params.text_eq h,fields]
  cases frame.params.json apiKey signature with
  | none => simp [Json.write, Json.writeFields, Json.writeMoreFields, Object.writeText]
  | some j => simp [Json.write, Json.writeFields, Json.writeMoreFields, Object.writeText]

/-- The exchange reads in a sound message what it was made from. -/
theorem Frame.Sound.carries {frame : Frame} (h : frame.Sound) (hkey : Unescaped apiKey)
    (hsignature : Unescaped signature) : frame.Carries apiKey signature := by
  have hplain : Json.Plain (.object (frame.fields apiKey signature)) := by
    apply plain_fields
    rw [fields,List.forall_mem_append]
    refine ⟨?_,?_⟩
    · simp only [List.forall_mem_cons]
      exact ⟨⟨by decide,plain_string (unescaped_id frame)⟩,
        ⟨by decide,.string h.typed.unescaped⟩,by simp⟩
    · intro field hf
      obtain ⟨j,hj,rfl⟩ := Option.map_eq_some_iff.mp (Option.mem_toList.mp hf)
      exact ⟨(by decide : Unescaped "params".toList),Params.plain_json hkey hsignature h.plain j hj⟩
  refine ⟨frame.fields apiKey signature,String.ofList frame.id,?_,?_,?_,?_,?_,?_⟩
  · rw [text_eq_write h.plain,Json.read_write hplain]
  · unfold fields
    cases frame.params.json apiKey signature <;> simp
  · rfl
  · rw [String.toList_ofList,Frame.id,WSAPIRequest.decode_encode]
  · rfl
  · unfold fields
    cases frame.params.json apiKey signature <;> rfl

end

theorem plain_order {params : String} {members : List (Text × Object.Scalar)}
    (ht : params.toList = Object.write members) (h : ∀ m ∈ members, Object.WellFormed m) :
    (Params.order params).Plain :=
  ⟨_,Json.plain_object h,by rw [ht,Json.write_object]⟩

theorem plain_present {params : String} {fields : Encoder.Fields}
    (ht : params.toList = Object.write (present fields))
    (h : ∀ field ∈ fields, Encoder.Readable field) : (Params.order params).Plain := by
  refine plain_order ht ?_
  rintro ⟨key,value⟩ hm
  exact h _ (mem_present.mp hm) value rfl

theorem plain_placeOrderJson {f : Formats} {createOrder : CreateOrderParameters}
    {requestId : String} (h : Encoder.Plain f createOrder requestId) (refData : RefData)
    (createOrderTemplate : CreateOrderTemplate) (recvWindow nowUtc : ℤ) :
    (Params.order (Encoder.placeOrderJson f createOrder refData requestId createOrderTemplate
      recvWindow nowUtc)).Plain := by
  refine plain_order (Encoder.toList_placeOrderJson f createOrder refData requestId
    createOrderTemplate recvWindow nowUtc) ?_
  intro member hm
  obtain ⟨field,hfield,rfl⟩ := List.mem_map.mp hm
  have hs := Encoder.sound_parameters refData createOrderTemplate recvWindow nowUtc h _
    (mem_present.mp hfield)
  have hkey := List.all_eq_true.mp hs.key
  have hvalue := List.all_eq_true.mp (hs.value _ rfl)
  unfold Encoder.scalar
  split_ifs with hnumber
  · exact ⟨fun c hc => Encoder.object_plain (hkey c hc),by simp,by simpa using hs.number hnumber⟩
  · refine ⟨fun c hc => Encoder.object_plain (hkey c hc),?_,by simp⟩
    rintro value ⟨⟩ c hc
    exact Encoder.object_plain (hvalue c hc)

theorem plain_cancelOrderJson {f : Formats} {order : OmsOrder} {requestId previousRequestId : String}
    (h : Encoder.PlainCancel f order requestId previousRequestId) (recvWindow nowUtc : ℤ)
    (cancelOrderTemplate : CancelOrderTemplate) :
    (Params.order (Encoder.cancelOrderJson f order requestId previousRequestId recvWindow nowUtc
      cancelOrderTemplate)).Plain :=
  plain_present (Encoder.toList_cancelOrderJson f order requestId previousRequestId recvWindow nowUtc
    cancelOrderTemplate) (Encoder.readable_cancelFields recvWindow nowUtc h cancelOrderTemplate)

theorem plain_amendOrderKeepPriorityJson {f : Formats} {order : OmsOrder}
    {requestId previousRequestId : String}
    (h : Encoder.PlainCancel f order requestId previousRequestId) (recvWindow nowUtc : ℤ)
    {modifyOrder : ModifyOrderParameters} {refData : RefData} {text : String}
    (ht : Encoder.amendOrderKeepPriorityJson f order requestId previousRequestId recvWindow nowUtc
      modifyOrder refData = .ok text) : (Params.order text).Plain := by
  have hlist := Encoder.toList_amendOrderKeepPriorityJson f order requestId previousRequestId
    recvWindow nowUtc modifyOrder refData
  rw [ht] at hlist
  by_cases hp : modifyOrder.price ≠ NaN
  · rw [if_pos hp] at hlist
    cases hlist
  · rw [if_neg hp] at hlist
    exact plain_present (Except.ok.inj hlist)
      (Encoder.readable_amendFields recvWindow nowUtc h modifyOrder refData)

section
variable {W : Type} {utils : Utils W} {account : Account}

theorem text_sessionLogon {frame : Frame}
    (ht : Frame.Typed frame.request.type frame.method frame.params) {sent : Text}
    {account' : Account} (hs : SessionLogon.text utils frame account = some (sent,account')) :
    sent = frame.message utils account := by
  obtain ⟨request,method,params⟩ := frame
  change Frame.Typed request.type method params at ht
  generalize request.type = type at ht
  cases ht with
  | sessionLogon timestamp =>
    unfold SessionLogon.text at hs
    rcases hsignature : account.createSessionLogonSignature utils timestamp with ⟨signature,account''⟩
    simp only [hsignature, Option.some.injEq, Prod.mk.injEq] at hs
    rw [← hs.1,Frame.message,Params.signature,hsignature]
    unfold Frame.text Params.text
    simp
  | _ => cases hs

theorem Frame.Sound.understood {frame : Frame} (h : frame.Sound) (hl : Legible utils account) :
    frame.Understood utils account := by
  refine ⟨h.typed,h.carries hl.key ?_,fun _ _ => text_sessionLogon h.typed⟩
  unfold Params.signature
  split
  · exact hl.signature _
  · exact fun _ hc => absurd hc List.not_mem_nil

end

theorem unescaped_encodePadded (bytes : Bytes) : Unescaped (Base64.encodePadded bytes) := by
  intro c hc
  rcases List.mem_append.mp hc with hc | hc
  · obtain ⟨c',hc',rfl⟩ := List.mem_map.mp hc
    unfold Base64.standard
    rcases Base64.alphabet_encode bytes c' hc' with h | rfl | rfl
    · have hminus : c' ≠ '-' := by rintro rfl; exact absurd h (by decide)
      have hunderscore : c' ≠ '_' := by rintro rfl; exact absurd h (by decide)
      rw [if_neg hminus,if_neg hunderscore]
      exact Encoder.object_plain (by simp [Encoder.plain, h])
    · rfl
    · rfl
  · rw [(List.mem_replicate.mp hc).2]
    rfl

/-- The standard code of a signature does. -/
theorem legible_standard (sign hmac : String → Text → Bytes) {account : Account}
    (hkey : Unescaped account.crypto.key.toList) : Legible (Utils.standard sign hmac) account :=
  ⟨hkey,fun _ => unescaped_encodePadded _⟩

/-- What is sent is sound, and `known` holds of the stream. -/
structure Clean {Self : Type} (known : Self → Prop) (ctx : Context Self Frame) : Prop where
  sound : ∀ frame ∈ ctx.outputs.filterMap Output.sent, frame.Sound
  known : known ctx.self

namespace Clean
variable {Self : Type} {known : Self → Prop} {ctx : Context Self Frame}

theorem modify (h : Clean known ctx) {f : Self → Self} (hf : known (f ctx.self)) :
    Clean known (ctx.modify f) := ⟨h.sound,hf⟩

theorem post (h : Clean known ctx) (k : Kind) (time : ℕ) : Clean known (ctx.post k time) :=
  ⟨h.sound,h.known⟩

theorem emit (h : Clean known ctx) {output : Output Frame} (ho : output.sent = none) :
    Clean known (ctx.emit output) := by
  refine ⟨?_,h.known⟩
  intro frame hf
  rw [Context.emit_outputs,List.filterMap_append,List.filterMap_cons_none ho,List.filterMap_nil,
    List.append_nil] at hf
  exact h.sound frame hf

theorem dispatch (h : Clean known ctx) (update : Dispatch) : Clean known (ctx.dispatch update) :=
  h.emit rfl

theorem dispatchAll (h : Clean known ctx) (updates : List Dispatch) :
    Clean known (ctx.dispatchAll updates) := by
  refine ⟨?_,h.known⟩
  have hs : (ctx.dispatchAll updates).outputs.filterMap Output.sent =
      ctx.outputs.filterMap Output.sent := by
    simp [Function.comp_def, Output.sent]
  rw [hs]
  exact h.sound

theorem send (h : Clean known ctx) {frame : Frame} (hf : frame.Sound) :
    Clean known (ctx.send frame) := by
  refine ⟨?_,h.known⟩
  intro x hx
  rw [Context.send_outputs,List.filterMap_append,List.mem_append] at hx
  rcases hx with hx | hx
  · exact h.sound x hx
  · obtain rfl : x = frame := by simpa [Output.sent] using hx
    exact hf

end Clean

namespace WebSocket

/-- The symbols of the orders stand for themselves. -/
abbrev Clean (ctx : Ctx) : Prop :=
  Gateway.Clean (fun self : WebSocket => ∀ symbol ∈ self.openOrdersSymbols, Unescaped symbol.toList) ctx

namespace Clean
variable {ctx : Ctx}

theorem emplace (h : Clean ctx) {symbol : String} (hs : Unescaped symbol.toList) :
    Clean (ctx.modify fun self =>
      {self with openOrdersSymbols := Gateway.emplace self.openOrdersSymbols symbol}) := by
  refine h.modify ?_
  intro x hx
  simp only [Gateway.emplace] at hx
  split_ifs at hx
  · exact h.known x hx
  · rcases List.mem_append.mp hx with hx | hx
    · exact h.known x hx
    · rwa [List.mem_singleton.mp hx]

theorem onConnectionStatus (h : Clean ctx) (status : ConnectionStatus) (reason : String) :
    Clean (onConnectionStatus status reason ctx) := (h.modify h.known).dispatch _

theorem sendText (h : Clean ctx) {type : WSAPIType} (userId : UInt8) (orderId : UInt64)
    (version : UInt32) {method : String} {params : Params} (ht : Frame.Typed type method params)
    (hp : params.Plain) : Clean (sendText type userId orderId version method params ctx) :=
  (h.modify h.known).send ⟨ht,hp⟩

end Clean

section
variable {shared : Shared} (t : TraceInfo)
  (hsettings : ∀ symbol ∈ shared.settings.downloadSymbols, Unescaped symbol.toList)
include hsettings

theorem clean_downloadState : Download.Kept (downloadState shared t) Clean := by
  intro state ctx h
  cases state with
  | sessionLogon =>
    exact ((h.onConnectionStatus _ _).sendText _ _ _ (.sessionLogon _) trivial).onConnectionStatus _ _
  | userDataStreamSubscribe =>
    exact ((h.onConnectionStatus _ _).sendText _ _ _ .userDataStreamSubscribe
      trivial).onConnectionStatus _ _
  | accountStatus =>
    exact ((h.onConnectionStatus _ _).sendText _ _ _ (.accountStatus _)
      trivial).onConnectionStatus _ _
  | openOrdersStatus =>
    exact ((h.onConnectionStatus _ _).sendText _ _ _ (.openOrdersStatus _)
      trivial).onConnectionStatus _ _
  | myTrades =>
    simp only [downloadState, myTrades]
    split_ifs
    · refine List.foldlRecOn _ _ (h.onConnectionStatus _ _) ?_
      intro ctx hc symbol hs
      exact (hc.sendText _ _ _ (.myTrades _ _ _ _) (hsettings symbol hs)).onConnectionStatus _ _
    · exact h.onConnectionStatus _ _
  | done =>
    have hready := h.onConnectionStatus .ready ""
    exact ⟨hready.sound,hready.known⟩

omit hsettings in
theorem clean_sequencer {f : Download State → Ctx → Download State × Ctx} {ctx : Ctx}
    (hf : Clean (f ctx.self.download ctx).2) : Clean (sequencer f ctx) := ⟨hf.sound,hf.known⟩

theorem clean_onReply {α : Type} (state : State) (successHandler : α → Ctx → Ctx)
    (reply : WSAPIReply α) (retryNow : Bool) {ctx : Ctx} (h : Clean ctx)
    (hs : Clean (successHandler reply.result ctx)) :
    Clean (onReply shared t state successHandler reply retryNow ctx) := by
  have hk := clean_downloadState t hsettings
  refine Clean.dispatchAll ?_ _
  split_ifs
  · exact clean_sequencer (hk.check state hs)
  · exact clean_sequencer (hk.retry states retryNow state h)

end

theorem clean_onOpenOrders (shared : Shared) {orders : List Order}
    (ho : ∀ order ∈ orders, Unescaped order.symbol.toList) {ctx : Ctx} (h : Clean ctx) :
    Clean (onOpenOrders shared orders ctx) := by
  refine List.foldlRecOn _ _ h ?_
  intro ctx hc order hm
  unfold onOpenOrder
  split_ifs
  · exact hc
  · exact (hc.emplace (ho order hm)).dispatch _

/-- A request that gets as far as to be sent, and the parameters that it is sent with. -/
def ClientRequest.Sent (shared : Shared) (params : Params) : ClientRequest → Prop
  | createOrder _ request text =>
    shared.getCreateOrderTemplate request.requestTemplate = .ok () ∧ params = .order text
  | modifyOrder _ request text => request.price = NaN ∧ params = .order text
  | cancelOrder _ request text =>
    shared.getCancelOrderTemplate request.requestTemplate = .ok () ∧ params = .order text
  | cancelAllOrders info request _ => ∃ symbol, (request.symbol = "" ∨ symbol = request.symbol) ∧
    params = .cancelAll symbol (milliseconds info.receiveTimeUtc)

/-- The symbol of a new order stands for itself, and a text that is sent is an object. -/
def ClientRequest.Plain (shared : Shared) : ClientRequest → Prop
  | createOrder _ request text => Unescaped request.symbol.toList ∧
    (shared.getCreateOrderTemplate request.requestTemplate = .ok () → (Params.order text).Plain)
  | modifyOrder _ request text => request.price = NaN → (Params.order text).Plain
  | cancelOrder _ request text =>
    shared.getCancelOrderTemplate request.requestTemplate = .ok () → (Params.order text).Plain
  | cancelAllOrders _ _ _ => True

/-- The symbols of the orders that are reported as open stand for themselves. -/
def SocketEvent.Plain (p : WSAPIParsers) : SocketEvent → Prop
  | .text message _ _ => ∀ reply, WSAPIParser.dispatch p message false = .called (.openOrders reply) →
    ∀ order ∈ reply.result, Unescaped order.symbol.toList
  | _ => True

def Event.Plain (p : WSAPIParsers) (shared : Shared) : Event → Prop
  | .timer _ => True
  | .socket event => event.Plain p
  | .client request => request.Plain shared

section
variable {shared : Shared} (t : TraceInfo)
  (hsettings : ∀ symbol ∈ shared.settings.downloadSymbols, Unescaped symbol.toList)
include hsettings

theorem clean_onMessage {message : WSAPIMessage} (order : MatchedOrder) (retryNow : Bool)
    (hm : ∀ reply, message = .openOrders reply → ∀ order ∈ reply.result,
      Unescaped order.symbol.toList) {ctx : Ctx} (h : Clean ctx) :
    Clean (onMessage shared t message order retryNow ctx) := by
  cases message with
  | sessionLogon reply => exact clean_onReply t hsettings _ (fun _ ctx => ctx) reply retryNow h h
  | userDataStreamSubscribe reply =>
    exact clean_onReply t hsettings _ (fun _ ctx => ctx) reply retryNow h h
  | eventStreamTerminated => exact h.emit rfl
  | account reply => exact clean_onReply t hsettings _ onAccount reply retryNow h (h.dispatchAll _)
  | openOrders reply =>
    exact clean_onReply t hsettings _ (onOpenOrders shared) reply retryNow h
      (clean_onOpenOrders shared (hm reply rfl) h)
  | trades reply =>
    have hfirst : Clean (ctx.modify fun self => {self with downloadTradesIsFirst := false}) :=
      h.modify h.known
    exact clean_onReply t hsettings _ (onTrades shared) reply retryNow h (hfirst.dispatchAll _)
  | orderPlace reply request =>
    refine Clean.dispatchAll ?_ _
    split_ifs <;> exact h.dispatch _
  | orderAmendKeepPriority reply request =>
    refine Clean.dispatchAll ?_ _
    split_ifs <;> exact h.dispatch _
  | cancelOrder reply request =>
    refine Clean.dispatchAll ?_ _
    split_ifs <;> exact h.dispatch _
  | cancelOpenOrders reply request =>
    refine Clean.dispatchAll ?_ _
    split_ifs
    · exact h.dispatchAll _
    · exact h
  | outboundAccountPosition event => exact h.dispatchAll _
  | balanceUpdate => exact h
  | executionReport report => exact h.dispatchAll _

theorem clean_onSocket {p : WSAPIParsers} {event : SocketEvent} (he : event.Plain p) {ctx : Ctx}
    (h : Clean ctx) : Clean (onSocket shared p t event ctx) := by
  cases event with
  | ready =>
    have hbegin := (clean_downloadState t hsettings).begin states h
    exact ⟨hbegin.sound,hbegin.known⟩
  | disconnected =>
    have hdown := h.onConnectionStatus .disconnected ""
    exact ⟨hdown.sound,hdown.known⟩
  | text message order retryNow =>
    simp only [onSocket, parse]
    cases hd : WSAPIParser.dispatch p message false with
    | called called =>
      refine clean_onMessage t hsettings order retryNow ?_ h
      rintro reply rfl
      exact he reply hd
    | skipped => exact h
    | fatal => exact h.emit rfl
    | thrown => exact h.emit rfl

omit hsettings in
theorem clean_onRequest {request : ClientRequest} (he : request.Plain shared) {ctx : Ctx}
    (h : Clean ctx) : Clean (onRequest shared request ctx).1 := by
  cases request with
  | createOrder info request text =>
    obtain ⟨hsymbol,htext⟩ := he
    simp only [onRequest, orderPlace]
    have hsymbols := h.emplace hsymbol
    split_ifs
    · exact h
    · split
      · exact hsymbols
      · next hfound => exact hsymbols.sendText _ _ _ (.orderPlace text) (htext hfound)
  | modifyOrder info request text =>
    simp only [onRequest, orderAmendKeepPriority]
    split_ifs with hready hprice
    · exact h
    · exact h
    · exact h.sendText _ _ _ (.orderAmendKeepPriority text) (he (not_not.mp hprice))
  | cancelOrder info request text =>
    simp only [onRequest, orderCancel]
    split_ifs
    · exact h
    · split
      · exact h
      · next hfound => exact h.sendText _ _ _ (.orderCancel text) (he hfound)
  | cancelAllOrders info request requestId =>
    simp only [onRequest, openOrdersCancelAll]
    split_ifs
    · exact h
    · refine List.foldlRecOn _ _ h ?_
      intro ctx' hc symbol hs
      split_ifs
      · exact hc
      · exact (hc.sendText _ _ _ (.openOrdersCancelAll _ _) (h.known symbol hs)).dispatch _

theorem clean_handle {p : WSAPIParsers} {event : Event} (he : event.Plain p shared) {ctx : Ctx}
    (h : Clean ctx) : Clean (handle shared p t event ctx) := by
  cases event with
  | timer refresh => exact h
  | socket event => exact clean_onSocket t hsettings he h
  | client request => exact clean_onRequest he h

end

/-- What a request sends are its own parameters. -/
theorem sent_onRequest (shared : Shared) (request : ClientRequest) {ctx : Ctx}
    (hout : ctx.outputs = []) :
    ∀ frame ∈ sent (onRequest shared request ctx).1.outputs, request.Sent shared frame.params := by
  cases request with
  | createOrder info request text =>
    intro frame hf
    simp only [onRequest, orderPlace] at hf
    split_ifs at hf
    · simp [sent, hout] at hf
    · split at hf
      · simp [sent, hout] at hf
      · next hfound =>
        rw [sent_sendText _ _ _ _ _ _ (by simpa using hout),List.mem_singleton] at hf
        exact ⟨hfound,by rw [hf]⟩
  | modifyOrder info request text =>
    intro frame hf
    simp only [onRequest, orderAmendKeepPriority] at hf
    split_ifs at hf with hready hprice
    · simp [sent, hout] at hf
    · simp [sent, hout] at hf
    · rw [sent_sendText _ _ _ _ _ _ hout,List.mem_singleton] at hf
      exact ⟨not_not.mp hprice,by rw [hf]⟩
  | cancelOrder info request text =>
    intro frame hf
    simp only [onRequest, orderCancel] at hf
    split_ifs at hf
    · simp [sent, hout] at hf
    · split at hf
      · simp [sent, hout] at hf
      · next hfound =>
        rw [sent_sendText _ _ _ _ _ _ hout,List.mem_singleton] at hf
        exact ⟨hfound,by rw [hf]⟩
  | cancelAllOrders info request requestId =>
    simp only [onRequest, openOrdersCancelAll]
    split_ifs
    · simp [sent, hout]
    · refine List.foldlRecOn (motive := fun ctx : Ctx => ∀ frame ∈ sent ctx.outputs,
        ClientRequest.Sent shared frame.params (.cancelAllOrders info request requestId)) _ _
        (by simp [sent, hout]) ?_
      intro ctx' hc symbol _ frame hf
      split_ifs at hf with hother
      · exact hc frame hf
      · simp only [sent, sendText, Context.dispatch_outputs, Context.send_outputs,
          Context.modify_outputs, List.filterMap_append, List.mem_append] at hf
        rcases hf with (hf | hf) | hf
        · exact hc frame hf
        · have hparams : frame.params =
              .cancelAll symbol (milliseconds info.receiveTimeUtc) := by
            simp only [Output.sent, List.filterMap_cons, List.filterMap_nil,
              List.mem_singleton] at hf
            rw [hf]
          refine ⟨symbol,?_,hparams⟩
          by_cases hall : request.symbol = ""
          · exact .inl hall
          · right
            by_contra hne
            exact hother (by simp [hall, hne])
        · simp [Output.sent] at hf

/-- All that has been sent is sound; each frame is due to a request of those that `P` holds of, and
has its parameters. -/
structure Session.Clean (shared : Shared) (P : ClientRequest → Prop) (s : Session) : Prop where
  sound : ∀ frame ∈ s.frames, frame.Sound
  symbols : ∀ symbol ∈ s.stream.openOrdersSymbols, Unescaped symbol.toList
  requests : ∀ x ∈ s.requests, P x.1 ∧ x.1.Sent shared x.2.params

theorem Session.Clean.next {shared : Shared} {p : WSAPIParsers} {streamId : ℕ} {account : String}
    (hsettings : ∀ symbol ∈ shared.settings.downloadSymbols, Unescaped symbol.toList)
    {P : ClientRequest → Prop} (s : Session) (e : TraceInfo × Event) (s' : Session)
    (he : e.2.Plain p shared ∧ ∀ request, e.2 = .client request → P request)
    (h : s.Clean shared P) (hn : (machine shared p streamId account).next s e = some s') :
    s'.Clean shared P := by
  simp only [machine, WebSocket.next] at hn
  split_ifs at hn
  obtain rfl := Option.some.inj hn
  obtain ⟨t,event⟩ := e
  have hc : WebSocket.Clean s.context := ⟨by simp [Session.context],h.symbols⟩
  have hc' := clean_handle t hsettings he.1 hc
  refine ⟨?_,hc'.known,?_⟩
  · intro frame hf
    rcases List.mem_append.mp hf with hf | hf
    · exact h.sound frame hf
    · exact hc'.sound frame hf
  · intro x hx
    rcases List.mem_append.mp hx with hx | hx
    · exact h.requests x hx
    · cases event with
      | timer refresh => cases hx
      | socket event => cases hx
      | client request =>
        obtain ⟨frame,hf,rfl⟩ := List.mem_map.mp hx
        exact ⟨he.2 request rfl,sent_onRequest shared request rfl frame hf⟩

/-- What a client asks for, with what the OMS and the exchange know of the order. -/
inductive Asked
  | createOrder (order : CreateOrderParameters) (refData : RefData) (requestId : String)
  | modifyOrder (request : ModifyOrderParameters) (order : OmsOrder) (refData : RefData)
    (requestId previousRequestId : String)
  | cancelOrder (request : CancelOrder) (order : OmsOrder) (requestId previousRequestId : String)
  | cancelAllOrders (request : CancelAllOrders) (requestId : String)

namespace Asked

/-- The values that the encoder puts in are plain. -/
def Plain (f : Formats) : Asked → Prop
  | createOrder order _ requestId => Encoder.Plain f order requestId
  | modifyOrder _ order _ requestId previousRequestId =>
    Encoder.PlainCancel f order requestId previousRequestId
  | cancelOrder _ order requestId previousRequestId =>
    Encoder.PlainCancel f order requestId previousRequestId
  | cancelAllOrders _ _ => True

section
variable (config : Config) (f : Formats) (recvWindow : ℤ) (info : MessageInfo)

/-- What the encoder makes of an order. -/
def encode : Asked → Option (Except Exception String)
  | createOrder order refData requestId =>
    some ((config.getCreateOrderTemplate order.requestTemplate).map fun template =>
      Encoder.placeOrderJson f order refData requestId template recvWindow
        (milliseconds info.receiveTimeUtc))
  | modifyOrder request order refData requestId previousRequestId =>
    some (Encoder.amendOrderKeepPriorityJson f order requestId previousRequestId recvWindow
      (milliseconds info.receiveTimeUtc) request refData)
  | cancelOrder request order requestId previousRequestId =>
    some ((config.getCancelOrderTemplate request.requestTemplate).map fun template =>
      Encoder.cancelOrderJson f order requestId previousRequestId recvWindow
        (milliseconds info.receiveTimeUtc) template.toCancelOrderTemplate)
  | cancelAllOrders _ _ => none

/-- The text of the encoder, if it makes one. -/
def text (asked : Asked) : String :=
  ((asked.encode config f recvWindow info).bind Except.toOption).getD ""

/-- The request as the stream gets it. -/
def request (asked : Asked) : ClientRequest :=
  match asked with
  | createOrder order _ _ =>
    .createOrder info order.toCreateOrder (asked.text config f recvWindow info)
  | modifyOrder request _ _ _ _ =>
    .modifyOrder info request.toModifyOrder (asked.text config f recvWindow info)
  | cancelOrder request _ _ _ => .cancelOrder info request (asked.text config f recvWindow info)
  | cancelAllOrders request requestId => .cancelAllOrders info request requestId

/-- The parameters of an order are the text that the encoder has made of it, and those of a
cancel-all name a symbol that is meant. -/
inductive Carried : Asked → Params → Prop
  | order {asked : Asked} {text : String}
    (encoded : asked.encode config f recvWindow info = some (.ok text)) :
    Carried asked (.order text)
  | cancelAll (request : CancelAllOrders) (requestId : String) {symbol : String}
    (meant : request.symbol = "" ∨ symbol = request.symbol) :
    Carried (.cancelAllOrders request requestId)
      (.cancelAll symbol (milliseconds info.receiveTimeUtc))

end

section
variable {config : Config} {f : Formats} {recvWindow : ℤ} {info : MessageInfo}

theorem text_of_encode {asked : Asked} {text : String}
    (h : asked.encode config f recvWindow info = some (.ok text)) :
    asked.text config f recvWindow info = text := by
  rw [Asked.text,h]
  rfl

/-- A template that the stream finds is there for the encoder. -/
theorem exists_template {α : Type} {template : Except Exception α}
    (h : template.map (fun _ => ()) = .ok ()) : ∃ t, template = .ok t := by
  cases template with
  | error e => cases h
  | ok t => exact ⟨t,rfl⟩

theorem encode_createOrder {order : CreateOrderParameters} (refData : RefData) (requestId : String)
    {shared : Shared}
    (h : (config.share shared).getCreateOrderTemplate order.requestTemplate = .ok ()) :
    ∃ t, (createOrder order refData requestId).encode config f recvWindow info =
      some (.ok (Encoder.placeOrderJson f order refData requestId t recvWindow
        (milliseconds info.receiveTimeUtc))) := by
  rw [Config.getCreateOrderTemplate_share] at h
  obtain ⟨t,ht⟩ := exists_template h
  exact ⟨t,by rw [encode,ht]; rfl⟩

theorem encode_modifyOrder {request : ModifyOrderParameters} (hprice : request.price = NaN)
    (order : OmsOrder) (refData : RefData) (requestId previousRequestId : String) :
    ∃ text, (modifyOrder request order refData requestId previousRequestId).encode config f
      recvWindow info = some (.ok text) := by
  rw [encode,Encoder.amendOrderKeepPriorityJson,if_neg (not_not_intro hprice)]
  exact ⟨_,rfl⟩

theorem encode_cancelOrder {request : CancelOrder} (order : OmsOrder)
    (requestId previousRequestId : String) {shared : Shared}
    (h : (config.share shared).getCancelOrderTemplate request.requestTemplate = .ok ()) :
    ∃ t : Protocol.Json.CancelOrderTemplate,
      (cancelOrder request order requestId previousRequestId).encode config f recvWindow info =
        some (.ok (Encoder.cancelOrderJson f order requestId previousRequestId recvWindow
          (milliseconds info.receiveTimeUtc) t)) := by
  rw [Config.getCancelOrderTemplate_share] at h
  obtain ⟨t,ht⟩ := exists_template h
  exact ⟨t.toCancelOrderTemplate,by rw [encode,ht]; rfl⟩

theorem Plain.request {asked : Asked} (h : asked.Plain f) (shared : Shared) :
    (asked.request config f recvWindow info).Plain (config.share shared) := by
  cases asked with
  | createOrder order refData requestId =>
    refine ⟨fun c hc => Encoder.object_plain (List.all_eq_true.mp h.symbol c hc),fun hfound => ?_⟩
    obtain ⟨t,ht⟩ := encode_createOrder refData requestId hfound
    rw [text_of_encode ht]
    exact plain_placeOrderJson h _ _ _ _
  | modifyOrder request order refData requestId previousRequestId =>
    intro hprice
    obtain ⟨text,ht⟩ := encode_modifyOrder hprice order refData requestId previousRequestId
    rw [text_of_encode ht]
    exact plain_amendOrderKeepPriorityJson h _ _ (Option.some.inj ht)
  | cancelOrder request order requestId previousRequestId =>
    intro hfound
    obtain ⟨t,ht⟩ := encode_cancelOrder order requestId previousRequestId hfound
    rw [text_of_encode ht]
    exact plain_cancelOrderJson h _ _ _
  | cancelAllOrders request requestId => trivial

theorem carried_of_sent {asked : Asked} {shared : Shared} {params : Params}
    (h : (asked.request config f recvWindow info).Sent (config.share shared) params) :
    asked.Carried config f recvWindow info params := by
  cases asked with
  | createOrder order refData requestId =>
    obtain ⟨hfound,rfl⟩ := h
    obtain ⟨t,ht⟩ := encode_createOrder refData requestId hfound
    rw [text_of_encode ht]
    exact .order ht
  | modifyOrder request order refData requestId previousRequestId =>
    obtain ⟨hprice,rfl⟩ := h
    obtain ⟨text,ht⟩ := encode_modifyOrder hprice order refData requestId previousRequestId
    rw [text_of_encode ht]
    exact .order ht
  | cancelOrder request order requestId previousRequestId =>
    obtain ⟨hfound,rfl⟩ := h
    obtain ⟨t,ht⟩ := encode_cancelOrder order requestId previousRequestId hfound
    rw [text_of_encode ht]
    exact .order ht
  | cancelAllOrders request requestId =>
    obtain ⟨symbol,hmeant,rfl⟩ := h
    exact .cancelAll request requestId hmeant

end

end Asked

/-- The events with what the clients ask for. -/
inductive Incoming
  | timer (refresh : Bool)
  | socket (event : SocketEvent)
  | client (info : MessageInfo) (asked : Asked)

namespace Incoming

def event (config : Config) (f : Formats) (recvWindow : ℤ) : Incoming → Event
  | timer refresh => .timer refresh
  | socket event => .socket event
  | client info asked => .client (asked.request config f recvWindow info)

def Plain (p : WSAPIParsers) (f : Formats) : Incoming → Prop
  | timer _ => True
  | socket event => event.Plain p
  | client _ asked => asked.Plain f

end Incoming

/-- In a run on what is plain, all that is sent is sound, and each request carries what a client has
asked for. -/
theorem clean_run {config : Config} {f : Formats} {recvWindow : ℤ} {shared : Shared}
    {p : WSAPIParsers} {streamId : ℕ} {account : String}
    (hsettings : ∀ symbol ∈ shared.settings.downloadSymbols, Unescaped symbol.toList)
    {es : List (TraceInfo × Incoming)} (hes : ∀ e ∈ es, e.2.Plain p f) {s : Session}
    (hr : (machine (config.share shared) p streamId account).run
      (machine (config.share shared) p streamId account).init
        (es.map fun e => (e.1,e.2.event config f recvWindow)) = some s) :
    s.Clean (config.share shared) fun request => ∃ t info asked,
      (t,.client info asked) ∈ es ∧ request = asked.request config f recvWindow info := by
  have hshared : ∀ symbol ∈ (config.share shared).settings.downloadSymbols,
      Unescaped symbol.toList := hsettings
  refine Machine.run_of_events (fun s e s' => Session.Clean.next hshared s e s') ?_
    ⟨by simp [machine],by simp [machine, create],by simp [machine]⟩ hr
  intro e he
  obtain ⟨⟨t,incoming⟩,hmem,rfl⟩ := List.mem_map.mp he
  have hplain := hes _ hmem
  cases incoming with
  | timer refresh => exact ⟨trivial,fun _ h => by cases h⟩
  | socket event => exact ⟨hplain,fun _ h => by cases h⟩
  | client info asked =>
    refine ⟨Asked.Plain.request hplain shared,?_⟩
    intro request h
    exact ⟨t,info,asked,hmem,(Event.client.inj h).symm⟩

/-- The download, and an order to the stream that is then ready. -/
def orderRun : List (TraceInfo × Incoming) :=
  [(⟨1,1⟩,.socket .ready),
   (⟨2,2⟩,.socket (.text (WSAPIParser.echo ⟨1000001,.SESSION_LOGON,0,0,0,0⟩ "200") unmatched true)),
   (⟨3,3⟩,.socket (.text (WSAPIParser.echo ⟨1000002,.USER_DATA_STREAM_SUBSCRIBE,0,0,0,0⟩ "200")
     unmatched true)),
   (⟨4,4⟩,.socket (.text (WSAPIParser.echo ⟨1000003,.ACCOUNT_STATUS,0,0,0,0⟩ "200") unmatched true)),
   (⟨5,5⟩,.socket (.text (WSAPIParser.echo ⟨1000004,.OPEN_ORDERS_STATUS,0,0,0,0⟩ "200")
     unmatched true)),
   (⟨6,6⟩,.client ⟨7,6⟩ (.createOrder Encoder.sampleOrder ⟨0,0⟩ "oid:1234"))]

theorem plain_orderRun : ∀ e ∈ orderRun, e.2.Plain .sample Encoder.sampleFormats := by
  have hecho : ∀ request order retryNow,
      SocketEvent.Plain .sample (.text (WSAPIParser.echo request "200") order retryNow) := by
    intro request order retryNow reply hd
    rw [WSAPIParser.dispatch_echo .sample request false (WSAPIParser.echoes_echo request "200"),
      WSAPIParser.dispatchResponse] at hd
    split at hd <;> simp [WSAPIParser.dispatchHelper, WSAPIParsers.sample] at hd
    rw [← hd]
    simp
  simp only [orderRun, List.forall_mem_cons, Incoming.Plain]
  exact ⟨trivial,hecho _ _ _,hecho _ _ _,hecho _ _ _,hecho _ _ _,Encoder.plain_sample,by simp⟩

end WebSocket

namespace DropCopyMargin

/-- The token stands for itself. -/
abbrev Clean (ctx : Ctx) : Prop :=
  Gateway.Clean (fun self : DropCopyMargin => Unescaped self.listenToken.toList) ctx

namespace Clean
variable {ctx : Ctx}

theorem onConnectionStatus (h : Clean ctx) (status : ConnectionStatus) (reason : String) :
    Clean (onConnectionStatus status reason ctx) := (h.modify h.known).dispatch _

theorem sendText (h : Clean ctx) {type : WSAPIType} {method : String} {params : Params}
    (ht : Frame.Typed type method params) (hp : params.Plain) :
    Clean (sendText type method params ctx) :=
  (h.modify h.known).send ⟨ht,hp⟩

end Clean

theorem clean_downloadState (t : TraceInfo) : Download.Kept (downloadState t) Clean := by
  intro state ctx h
  cases state with
  | sessionLogon =>
    exact ((h.onConnectionStatus _ _).sendText (.sessionLogon _) trivial).onConnectionStatus _ _
  | userDataStreamSubscribe =>
    exact ((h.onConnectionStatus _ _).sendText (.listenToken _)
      h.known).onConnectionStatus _ _
  | account => exact Clean.onConnectionStatus ((h.onConnectionStatus _ _).post _ _) _ _
  | orders => exact Clean.onConnectionStatus ((h.onConnectionStatus _ _).post _ _) _ _
  | done =>
    have hready := h.onConnectionStatus .ready ""
    exact ⟨hready.sound,hready.known⟩

theorem clean_sequencer {f : Download State → Ctx → Download State × Ctx} {ctx : Ctx}
    (hf : Clean (f ctx.self.download ctx).2) : Clean (sequencer f ctx) :=
  ⟨hf.sound,hf.known⟩

theorem clean_onReply {α : Type} (t : TraceInfo) (state : State) (reply : WSAPIReply α)
    (retryNow : Bool) {ctx : Ctx} (h : Clean ctx) :
    Clean (onReply t state reply retryNow ctx) := by
  have hk := clean_downloadState t
  refine Clean.dispatchAll ?_ _
  split_ifs
  · exact clean_sequencer (hk.check state h)
  · exact clean_sequencer (hk.retry states retryNow state h)

theorem clean_checkResponse (t : TraceInfo) (state : State) (k : Kind) {ctx : Ctx} (h : Clean ctx) :
    Clean (checkResponse t state k ctx) := by
  unfold checkResponse
  split_ifs
  · exact h
  · exact clean_sequencer ((clean_downloadState t).check state h)
  · exact h

theorem clean_onMessage (shared : Shared) (t : TraceInfo) (message : WSAPIMessage)
    (order : MatchedOrder) (retryNow : Bool) {ctx : Ctx} (h : Clean ctx) :
    Clean (onMessage shared t message order retryNow ctx) := by
  cases message with
  | sessionLogon reply => exact clean_onReply t _ reply retryNow h
  | userDataStreamSubscribe reply => exact clean_onReply t _ reply retryNow h
  | eventStreamTerminated =>
    simp only [onMessage, onEventStreamTerminated]
    split_ifs
    · exact h
    · have hs : Clean (ctx.emit (.suspendFor (60*10^9))) := h.emit rfl
      exact ⟨hs.sound,(by decide : Unescaped "".toList)⟩
  | outboundAccountPosition event => exact h.dispatchAll _
  | balanceUpdate => exact h
  | executionReport report => exact h.dispatchAll _
  | _ => exact h.emit rfl

/-- The tokens that arrive stand for themselves. -/
def Event.Plain : Event → Prop
  | .listenKeyUpdate update => Unescaped update.listenKey.toList
  | _ => True

theorem clean_handle (shared : Shared) (t : TraceInfo) {event : Event} (he : event.Plain) {ctx : Ctx}
    (h : Clean ctx) : Clean (handle shared t event ctx) := by
  cases event with
  | timer refresh =>
    unfold handle onTimer
    dsimp only
    split_ifs
    · have hlisten : Clean (checkResponseListenKey ctx) := by
        unfold checkResponseListenKey
        split_ifs
        · exact ⟨h.sound,h.known⟩
        · exact h
      exact clean_checkResponse t _ _ (clean_checkResponse t _ _ hlisten)
    · exact h
  | listenKeyUpdate update =>
    have hupdate : Clean (ctx.modify fun self => {self with listenToken := update.listenKey}) :=
      ⟨h.sound,he⟩
    exact hupdate.emit rfl
  | socket event =>
    cases event with
    | ready =>
      have hbegin := (clean_downloadState t).begin states h
      exact ⟨hbegin.sound,hbegin.known⟩
    | disconnected =>
      have hdown := h.onConnectionStatus .disconnected ""
      exact ⟨hdown.sound,hdown.known⟩
    | message message order retryNow => exact clean_onMessage shared t message order retryNow h

/-- The stream and all that it has sent. -/
structure Session where
  stream : DropCopyMargin
  frames : List Frame

/-- An event also brings what the order entry has left in the shared request. -/
def machine (shared : Shared) (streamId : ℕ) (account : String) (update : ListenKeyUpdate) :
    Machine Session (TraceInfo × Request × Event) where
  init := ⟨create streamId account update,[]⟩
  next s e :=
    let ctx := handle shared e.1 e.2.2 ⟨s.stream,e.2.1,[]⟩
    if ctx.outputs.any Output.isFatal then none
    else some ⟨ctx.self,s.frames ++ ctx.outputs.filterMap Output.sent⟩

structure Session.Clean (s : Session) : Prop where
  sound : ∀ frame ∈ s.frames, frame.Sound
  listenToken : Unescaped s.stream.listenToken.toList

theorem Session.Clean.next {shared : Shared} {streamId : ℕ} {account : String}
    {update : ListenKeyUpdate} (s : Session) (e : TraceInfo × Request × Event) (s' : Session)
    (he : e.2.2.Plain) (h : s.Clean)
    (hn : (machine shared streamId account update).next s e = some s') : s'.Clean := by
  simp only [machine] at hn
  split_ifs at hn
  obtain rfl := Option.some.inj hn
  have hc : DropCopyMargin.Clean ⟨s.stream,e.2.1,[]⟩ := ⟨by simp,h.listenToken⟩
  have hc' := clean_handle shared e.1 he hc
  refine ⟨?_,hc'.known⟩
  intro frame hf
  rcases List.mem_append.mp hf with hf | hf
  · exact h.sound frame hf
  · exact hc'.sound frame hf

end DropCopyMargin

/-- In every run of the spot socket and of the user stream of the margin wallet in which the symbols,
the tokens and the values of the orders are plain, the exchange reads in each message that is sent
the request, the method of its type and its parameters. A request that is sent for a client has the
parameters that it asks for, an order the text that the encoder has made of it. -/
theorem messages_carry {W : Type} {utils : Utils W} {account : Account}
    (hl : Legible utils account) {shared : Shared}
    (hsettings : ∀ symbol ∈ shared.settings.downloadSymbols, Unescaped symbol.toList)
    (config : Config) (f : Formats) (recvWindow : ℤ) (p : WSAPIParsers) (streamId : ℕ)
    (name : String) :
    (∀ (es : List (TraceInfo × WebSocket.Incoming)) s, (∀ e ∈ es, e.2.Plain p f) →
      (WebSocket.machine (config.share shared) p streamId name).run
        (WebSocket.machine (config.share shared) p streamId name).init
          (es.map fun e => (e.1,e.2.event config f recvWindow)) = some s →
      (∀ frame ∈ s.frames, frame.Understood utils account) ∧
      ∀ x ∈ s.requests, x.2 ∈ s.frames ∧ ∃ t info asked, (t,.client info asked) ∈ es ∧
        x.1 = asked.request config f recvWindow info ∧
        asked.Carried config f recvWindow info x.2.params) ∧
    ∀ update, Unescaped update.listenKey.toList →
      ∀ (es : List (TraceInfo × Request × DropCopyMargin.Event)) s, (∀ e ∈ es, e.2.2.Plain) →
      (DropCopyMargin.machine shared streamId name update).run
        (DropCopyMargin.machine shared streamId name update).init es = some s →
      ∀ frame ∈ s.frames, frame.Understood utils account := by
  refine ⟨?_,?_⟩
  · intro es s hes hr
    have h := WebSocket.clean_run hsettings hes hr
    refine ⟨fun frame hf => (h.sound frame hf).understood hl,?_⟩
    intro x hx
    obtain ⟨⟨t,info,asked,hmem,hrequest⟩,hsent⟩ := h.requests x hx
    refine ⟨(WebSocket.valid_reachable ⟨_,hr⟩).sent x hx,t,info,asked,hmem,hrequest,?_⟩
    exact WebSocket.Asked.carried_of_sent (hrequest ▸ hsent)
  · intro update htoken es s hes hr
    have hinit : (DropCopyMargin.machine shared streamId name update).init.Clean :=
      ⟨by simp [DropCopyMargin.machine],htoken⟩
    have h := Machine.run_of_events
      (fun s e s' => DropCopyMargin.Session.Clean.next s e s') hes hinit hr
    exact fun frame hf => (h.sound frame hf).understood hl

/-- The margin stream logs on and subscribes with its token. -/
def tokenRun : List (TraceInfo × Request × DropCopyMargin.Event) :=
  [(⟨1,1⟩,Request.empty,.socket .ready),
   (⟨2,2⟩,Request.empty,.socket (.message (.sessionLogon ⟨200,(),⟨0,""⟩,[]⟩) WebSocket.unmatched true))]

theorem messages_carry_order :
    (∃ s : WebSocket.Session, s.frames.length = 5 ∧
      (∀ frame ∈ s.frames, frame.Understood sampleUtils (.sample "secret" "secret")) ∧
      ∃ x ∈ s.requests, WebSocket.Asked.Carried .empty Encoder.sampleFormats 5000 ⟨7,6⟩
        (.createOrder Encoder.sampleOrder ⟨0,0⟩ "oid:1234") x.2.params) ∧
    ∃ s : DropCopyMargin.Session, s.frames.length = 2 ∧
      ∀ frame ∈ s.frames, frame.Understood sampleUtils (.sample "secret" "secret") := by
  have hl : Legible sampleUtils (.sample "secret" "secret") := legible_standard _ _ (by decide)
  have hsettings : ∀ symbol ∈ Shared.sample.settings.downloadSymbols, Unescaped symbol.toList := by
    decide
  obtain ⟨hspot,hmargin⟩ := messages_carry hl hsettings .empty Encoder.sampleFormats 5000 .sample 1
    "account"
  refine ⟨?_,?_⟩
  · let M := WebSocket.machine (Config.empty.share .sample) .sample 1 "account"
    have hany : (M.run M.init (WebSocket.orderRun.map fun e =>
        (e.1,e.2.event .empty Encoder.sampleFormats 5000))).any
          (fun s => s.frames.length == 5 && s.requests.length == 1) = true := by decide
    obtain ⟨s,hr,hs⟩ := (Option.any_eq_true _ _).mp hany
    simp only [Bool.and_eq_true, beq_iff_eq] at hs
    obtain ⟨hframes,hrequests⟩ := hspot _ s WebSocket.plain_orderRun hr
    obtain ⟨x,hx⟩ := List.exists_mem_of_length_pos (by omega : 0 < s.requests.length)
    obtain ⟨-,t,info,asked,hmem,-,hcarried⟩ := hrequests x hx
    refine ⟨s,hs.1,hframes,x,hx,?_⟩
    simp only [WebSocket.orderRun, List.mem_cons, Prod.mk.injEq, reduceCtorEq, and_false,
      WebSocket.Incoming.client.injEq, List.not_mem_nil, or_false, false_or] at hmem
    obtain ⟨-,rfl,rfl⟩ := hmem
    exact hcarried
  · let M := DropCopyMargin.machine .sample 1 "account" ⟨"account",.cross,"token"⟩
    have hany : (M.run M.init tokenRun).any (fun s => s.frames.length == 2) = true := by decide
    obtain ⟨s,hr,hs⟩ := (Option.any_eq_true _ _).mp hany
    refine ⟨s,beq_iff_eq.mp hs,hmargin _ (by decide) tokenRun s ?_ hr⟩
    simp only [tokenRun, List.forall_mem_cons]
    exact ⟨trivial,trivial,by simp⟩

end RoqBinance.Gateway
