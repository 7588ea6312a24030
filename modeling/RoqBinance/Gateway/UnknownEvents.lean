import RoqBinance.Gateway.DropCopyMargin
import RoqBinance.Gateway.DropCopyPortfolio
import RoqBinance.Gateway.WebSocket
import RoqBinance.Protocol.Json.UserStreamParser

/-! Events of a type that a private stream does not expect. A setting says that the gateway goes
on; it does where the setting reaches the parser and the parser looks at it. -/
namespace RoqBinance.Protocol.Json

namespace WSAPIParser
variable {p : WSAPIParsers} {message : Library.Json.Object} {type : EventType}

/-- An event of type `type` that the generated parsers can read. -/
structure IsEvent (p : WSAPIParsers) (message : Library.Json.Object) (type : EventType) : Prop where
  no_id : ∀ x ∈ message, x.1 ≠ "id"
  event : ∃ fields value, Library.Json.first "event" message = some (.object fields) ∧
    Library.Json.first "e" fields = some value ∧ p.eventType value = some type
  readable : dispatchEvent p message false type ≠ .thrown

/-- The types with a callback. -/
def served : List EventType :=
  [.outboundAccountPosition,.balanceUpdate,.executionReport,.eventStreamTerminated]

theorem dispatchKeys_event {fields : Library.Json.Object} {value : Library.Json} (allow : Bool)
    (hvalue : Library.Json.first "e" fields = some value) (htype : p.eventType value = some type)
    (keys : Library.Json.Object) (hid : ∀ x ∈ keys, x.1 ≠ "id")
    (hevent : Library.Json.first "event" keys = some (.object fields)) :
    dispatchKeys p message allow keys = dispatchEvent p message allow type := by
  induction keys with
  | nil => cases hevent
  | cons x keys ih =>
    obtain ⟨key,v⟩ := x
    have hkey : key ≠ "id" := hid _ List.mem_cons_self
    unfold dispatchKeys
    rw [if_neg hkey]
    by_cases he : key = "event"
    · rw [Library.Json.first,if_pos he] at hevent
      obtain rfl := Option.some.inj hevent
      simp only [if_pos he, hvalue, htype]
    · rw [Library.Json.first,if_neg he] at hevent
      rw [if_neg he]
      exact ih (fun x hx => hid x (List.mem_cons_of_mem _ hx)) hevent

theorem IsEvent.dispatch_eq (h : IsEvent p message type) (allow : Bool) :
    dispatch p message allow = dispatchEvent p message allow type := by
  obtain ⟨fields,value,hevent,hvalue,htype⟩ := h.event
  exact dispatchKeys_event allow hvalue htype message h.no_id hevent

end WSAPIParser

namespace UserStreamParser
variable {V : Type} {c : GeneratedParsers V} {message : Library.Json.Object} {type : EventType}

/-- A raw event of type `type` that the generated parsers can read. -/
structure IsPapiEvent (c : GeneratedParsers V) (message : Library.Json.Object)
    (type : EventType) : Prop where
  event : ∃ value, Library.Json.first EVENT_TYPE message = some value ∧
    c.eventType value = some type
  readable : tryDispatch c message type false ≠ .thrown

/-- The types of the market data, and that of an event whose type is empty. -/
def foreign : List EventType :=
  [.undefinedInternal,.aggTrade,.trade,.miniTicker24hr,.bookTicker,.depthUpdate]

theorem IsPapiEvent.dispatchPapi_eq (h : IsPapiEvent c message type) (allow : Bool) :
    dispatchPapi c message allow = tryDispatch c message type allow := by
  obtain ⟨value,hvalue,htype⟩ := h.event
  simp [dispatchPapi, dispatchRoot, hvalue, htype]

end UserStreamParser
end RoqBinance.Protocol.Json

namespace RoqBinance.Gateway
open Protocol.Json

/-- `handled none` is accepted without a callback. -/
inductive Parsed (M : Type)
  | handled (message : Option M)
  | skipped
  | fatal
  | thrown

namespace Parsed
variable {M Self Call : Type}

/-- What a stream does then; a message that is skipped is logged. -/
def run (onMessage : M → Context Self Call → Context Self Call) (ctx : Context Self Call) :
    Parsed M → Context Self Call
  | handled (some message) => onMessage message ctx
  | handled none => ctx
  | skipped => ctx
  | fatal => ctx.fatal "Unexpected"
  | thrown => ctx.fatal "terminate"

/-- The message is handled or skipped. -/
inductive Accepted : Parsed M → Prop
  | handled (message : Option M) : Accepted (handled message)
  | skipped : Accepted skipped

end Parsed

/-- The process has been ended. -/
def Context.ended {Self Call : Type} (ctx : Context Self Call) : Bool :=
  ctx.outputs.any Output.isFatal

/-- The message is handled or skipped, and neither the parser nor the callback ends the process. -/
structure Accepts {M Self Call : Type} (parse : Context Self Call → Context Self Call)
    (parsed : Parsed M) : Prop where
  accepted : parsed.Accepted
  goesOn : ∀ ctx, ctx.ended = false → (parse ctx).ended = false

def ofWSAPI : WSAPIParser.Outcome → Parsed WSAPIMessage
  | .called message => .handled (some message)
  | .skipped => .skipped
  | .fatal => .fatal
  | .thrown => .thrown

namespace WebSocket

/-- The setting is not passed to the parser. -/
def parsed (p : WSAPIParsers) (message : Library.Json.Object) : Parsed WSAPIMessage :=
  ofWSAPI (WSAPIParser.dispatch p message false)

theorem parse_eq (shared : Shared) (p : WSAPIParsers) (t : TraceInfo)
    (message : Library.Json.Object) (order : MatchedOrder) (retryNow : Bool) (ctx : Ctx) :
    parse shared p t message order retryNow ctx =
      (parsed p message).run (onMessage shared t · order retryNow) ctx := by
  unfold parse parsed
  cases WSAPIParser.dispatch p message false <;> rfl

end WebSocket

namespace DropCopyMargin

def parse (shared : Shared) (p : WSAPIParsers) (t : TraceInfo) (message : Library.Json.Object)
    (order : MatchedOrder) (retryNow : Bool) (ctx : Ctx) : Ctx :=
  match WSAPIParser.dispatch p message false with
  | .called message => onMessage shared t message order retryNow ctx
  | .skipped => ctx
  | .fatal => ctx.fatal "Unexpected"
  | .thrown => ctx.fatal "terminate"

/-- The setting is not passed to the parser. -/
def parsed (p : WSAPIParsers) (message : Library.Json.Object) : Parsed WSAPIMessage :=
  ofWSAPI (WSAPIParser.dispatch p message false)

theorem parse_eq (shared : Shared) (p : WSAPIParsers) (t : TraceInfo)
    (message : Library.Json.Object) (order : MatchedOrder) (retryNow : Bool) (ctx : Ctx) :
    parse shared p t message order retryNow ctx =
      (parsed p message).run (onMessage shared t · order retryNow) ctx := by
  unfold parse parsed
  cases WSAPIParser.dispatch p message false <;> rfl

end DropCopyMargin

namespace DropCopyPortfolio
variable {V : Type}

/-- The generated parsers with the records that they make of the data of an event. -/
structure Parsers (V : Type) extends GeneratedParsers V where
  read : UserStreamParser.Callback → Protocol.Json.Message V → Message

def parse (shared : Shared) (p : Parsers V) (message : Library.Json.Object) (order : MatchedOrder)
    (ctx : Ctx) : Ctx :=
  match UserStreamParser.dispatchPapi p.toGeneratedParsers message
      shared.allowUnknownEventTypes with
  | .handled (some (callback,m)) => onMessage shared (p.read callback m) order ctx
  | .handled none => ctx
  | .skipped => ctx
  | .fatal => ctx.fatal "Unexpected"
  | .thrown => ctx.fatal "terminate"

def ofPapi (p : Parsers V) : UserStreamParser.Outcome V → Parsed Message
  | .handled called => .handled (called.map fun x => p.read x.1 x.2)
  | .skipped => .skipped
  | .fatal => .fatal
  | .thrown => .thrown

def parsed (shared : Shared) (p : Parsers V) (message : Library.Json.Object) : Parsed Message :=
  ofPapi p
    (UserStreamParser.dispatchPapi p.toGeneratedParsers message shared.allowUnknownEventTypes)

theorem parse_eq (shared : Shared) (p : Parsers V) (message : Library.Json.Object)
    (order : MatchedOrder) (ctx : Ctx) : parse shared p message order ctx =
      (parsed shared p message).run (onMessage shared · order) ctx := by
  unfold parse parsed
  cases UserStreamParser.dispatchPapi p.toGeneratedParsers message
      shared.allowUnknownEventTypes with
  | handled called => cases called <;> rfl
  | skipped => rfl
  | fatal => rfl
  | thrown => rfl

end DropCopyPortfolio

section
variable {M Self Call : Type}

@[simp] theorem ended_dispatchAll (ctx : Context Self Call) (updates : List Dispatch) :
    (ctx.dispatchAll updates).ended = ctx.ended := by
  have hnone : (updates.map (Output.dispatch : Dispatch → Output Call)).any Output.isFatal = false := by
    rw [List.any_eq_false]
    intro output h
    obtain ⟨update,-,rfl⟩ := List.mem_map.mp h
    exact Bool.false_ne_true
  simp only [Context.ended, Context.dispatchAll_outputs, List.any_append, hnone, Bool.or_false]

variable {onMessage : M → Context Self Call → Context Self Call}
  {parse : Context Self Call → Context Self Call} {parsed : Parsed M}

theorem accepts_handled (h : ∀ ctx, parse ctx = parsed.run onMessage ctx) {message : M}
    (hp : parsed = .handled (some message))
    (hm : ∀ ctx, (onMessage message ctx).ended = ctx.ended) : Accepts parse parsed := by
  refine ⟨hp ▸ .handled _,fun ctx hctx => ?_⟩
  rw [h,hp]
  exact (hm ctx).trans hctx

/-- Without a callback nothing is done. -/
theorem accepts_idle (h : ∀ ctx, parse ctx = parsed.run onMessage ctx)
    (hp : parsed = .handled none ∨ parsed = .skipped) : Accepts parse parsed := by
  rcases hp with rfl | rfl
  · exact ⟨.handled _,fun ctx hctx => by rw [h]; exact hctx⟩
  · exact ⟨.skipped,fun ctx hctx => by rw [h]; exact hctx⟩

theorem not_accepts_fatal (hp : parsed = .fatal) : ¬ Accepts parse parsed := by
  rintro ⟨haccepted,-⟩
  rw [hp] at haccepted
  cases haccepted

/-- The callback itself ends the process. -/
theorem not_accepts_callback (h : ∀ ctx, parse ctx = parsed.run onMessage ctx) {message : M}
    (hp : parsed = .handled (some message)) {ctx : Context Self Call} (hctx : ctx.ended = false)
    (hm : (onMessage message ctx).ended = true) : ¬ Accepts parse parsed := by
  rintro ⟨-,hgoesOn⟩
  have hnot := hgoesOn ctx hctx
  rw [h,hp] at hnot
  exact Bool.false_ne_true (hnot.symm.trans hm)

end

/-- The callback that an event of a type goes to. -/
inductive Serves : EventType → WSAPIMessage → Prop
  | outboundAccountPosition (event : OutboundAccountPositionData) :
    Serves .outboundAccountPosition (.outboundAccountPosition event)
  | balanceUpdate : Serves .balanceUpdate .balanceUpdate
  | executionReport (event : ExecutionReportData) :
    Serves .executionReport (.executionReport event)
  | eventStreamTerminated : Serves .eventStreamTerminated .eventStreamTerminated

theorem handled_dispatchHelper {α : Type} {parsed : Option α} {callback : α → WSAPIMessage}
    {type : EventType} (hserves : ∀ obj, Serves type (callback obj))
    (h : WSAPIParser.dispatchHelper parsed callback ≠ .thrown) : ∃ message, Serves type message ∧
      ofWSAPI (WSAPIParser.dispatchHelper parsed callback) = .handled (some message) := by
  cases parsed with
  | some obj => exact ⟨callback obj,hserves obj,rfl⟩
  | none => exact absurd rfl h

/-- Without the setting an event goes to the callback for its type or is the end. -/
theorem dispatch_cases {p : WSAPIParsers} {message : Library.Json.Object} {type : EventType}
    (h : WSAPIParser.IsEvent p message type) :
    (∃ m, Serves type m ∧ ofWSAPI (WSAPIParser.dispatch p message false) = .handled (some m)) ∨
      type ∉ WSAPIParser.served ∧ ofWSAPI (WSAPIParser.dispatch p message false) = .fatal := by
  rw [h.dispatch_eq]
  have hread := h.readable
  cases type with
  | outboundAccountPosition => exact .inl (handled_dispatchHelper .outboundAccountPosition hread)
  | balanceUpdate => exact .inl (handled_dispatchHelper (fun _ => .balanceUpdate) hread)
  | executionReport => exact .inl (handled_dispatchHelper .executionReport hread)
  | eventStreamTerminated =>
    exact .inl (handled_dispatchHelper (fun _ => .eventStreamTerminated) hread)
  | _ => exact .inr ⟨by decide,rfl⟩

namespace WebSocket

/-- The callback of a stream that is terminated ends the process. -/
def served : List EventType := [.outboundAccountPosition,.balanceUpdate,.executionReport]

theorem accepts_iff (shared : Shared) {p : WSAPIParsers} {message : Library.Json.Object}
    {type : EventType} (h : WSAPIParser.IsEvent p message type) (t : TraceInfo)
    (order : MatchedOrder) (retryNow : Bool) :
    Accepts (parse shared p t message order retryNow) (parsed p message) ↔ type ∈ served := by
  have hparse := parse_eq shared p t message order retryNow
  rcases dispatch_cases h with ⟨m,hm,hp⟩ | ⟨hnot,hp⟩
  · cases hm with
    | outboundAccountPosition event =>
      exact iff_of_true (accepts_handled hparse hp fun ctx => ended_dispatchAll ctx _) (by decide)
    | balanceUpdate => exact iff_of_true (accepts_handled hparse hp fun _ => rfl) (by decide)
    | executionReport event =>
      exact iff_of_true (accepts_handled hparse hp fun ctx => ended_dispatchAll ctx _) (by decide)
    | eventStreamTerminated =>
      have hctx : (⟨create 0 "",Request.empty,[]⟩ : Ctx).ended = false := rfl
      exact iff_of_false (not_accepts_callback hparse hp hctx rfl) (by decide)
  · have hsubset : served ⊆ WSAPIParser.served := by decide
    exact iff_of_false (not_accepts_fatal hp) fun hmem => hnot (hsubset hmem)

end WebSocket

namespace DropCopyMargin

theorem ended_onEventStreamTerminated (t : TraceInfo) (ctx : Ctx) :
    (onEventStreamTerminated t ctx).ended = ctx.ended := by
  unfold onEventStreamTerminated
  split_ifs
  · rfl
  · simp [Context.ended, Output.isFatal]

theorem accepts_iff (shared : Shared) {p : WSAPIParsers} {message : Library.Json.Object}
    {type : EventType} (h : WSAPIParser.IsEvent p message type) (t : TraceInfo)
    (order : MatchedOrder) (retryNow : Bool) :
    Accepts (parse shared p t message order retryNow) (parsed p message) ↔
      type ∈ WSAPIParser.served := by
  have hparse := parse_eq shared p t message order retryNow
  rcases dispatch_cases h with ⟨m,hm,hp⟩ | ⟨hnot,hp⟩
  · cases hm with
    | outboundAccountPosition event =>
      exact iff_of_true (accepts_handled hparse hp fun ctx => ended_dispatchAll ctx _) (by decide)
    | balanceUpdate => exact iff_of_true (accepts_handled hparse hp fun _ => rfl) (by decide)
    | executionReport event =>
      exact iff_of_true (accepts_handled hparse hp fun ctx => ended_dispatchAll ctx _) (by decide)
    | eventStreamTerminated =>
      exact iff_of_true (accepts_handled hparse hp (ended_onEventStreamTerminated t)) (by decide)
  · exact iff_of_false (not_accepts_fatal hp) hnot

end DropCopyMargin

namespace DropCopyPortfolio
variable {V : Type}

/-- None of the callbacks ends the process. -/
theorem ended_onMessage (shared : Shared) (message : Message) (order : MatchedOrder) (ctx : Ctx) :
    (onMessage shared message order ctx).ended = ctx.ended := by
  cases message with
  | outboundAccountPosition event => exact ended_dispatchAll ctx _
  | balanceUpdate => rfl
  | executionReport report => exact ended_dispatchAll ctx _
  | listStatus => rfl

theorem exists_handled (p : Parsers V) {callback : UserStreamParser.Callback}
    {message : Library.Json.Object}
    (h : UserStreamParser.dispatchHelper p.toGeneratedParsers callback message ≠ .thrown) :
    ∃ m, ofPapi p (UserStreamParser.dispatchHelper p.toGeneratedParsers callback message) =
      .handled (some m) := by
  revert h
  unfold UserStreamParser.dispatchHelper
  cases UserStreamParser.parseMessage p.toGeneratedParsers callback.data message with
  | some m => intro _; exact ⟨_,rfl⟩
  | none => intro h; exact absurd rfl h

/-- With the setting nothing but the types of the market data is not accepted. -/
theorem accepts_iff {shared : Shared} (hallow : shared.allowUnknownEventTypes = true)
    (p : Parsers V) {message : Library.Json.Object} {type : EventType}
    (h : UserStreamParser.IsPapiEvent p.toGeneratedParsers message type) (order : MatchedOrder) :
    Accepts (parse shared p message order) (parsed shared p message) ↔
      type ∉ UserStreamParser.foreign := by
  have hparse := parse_eq shared p message order
  have hparsed : parsed shared p message =
      ofPapi p (UserStreamParser.tryDispatch p.toGeneratedParsers message type true) := by
    rw [parsed,hallow,h.dispatchPapi_eq]
  have hread := h.readable
  cases type with
  | outboundAccountPosition | balanceUpdate | executionReport | listStatus =>
    obtain ⟨m,hm⟩ := exists_handled p hread
    exact iff_of_true
      (accepts_handled hparse (hparsed.trans hm) (ended_onMessage shared m order)) (by decide)
  | openOrderLoss | orderTradeUpdate =>
    exact iff_of_true (accepts_idle hparse (.inl hparsed)) (by decide)
  | undefinedInternal | aggTrade | trade | miniTicker24hr | bookTicker | depthUpdate =>
    exact iff_of_false (not_accepts_fatal hparsed) (by decide)
  | _ => exact iff_of_true (accepts_idle hparse (.inr hparsed)) (by decide)

end DropCopyPortfolio

/-- With the setting the streams of the spot and the margin wallet accept the events that they
have a callback for, as they do without it, but the spot wallet not the end of its stream; the
stream of a portfolio account accepts all but those of the market data. -/
theorem accepts_event_iff {V : Type} {shared : Shared}
    (hallow : shared.allowUnknownEventTypes = true) (p : WSAPIParsers)
    (papi : DropCopyPortfolio.Parsers V) {message raw : Library.Json.Object}
    {type rawType : EventType} (h : WSAPIParser.IsEvent p message type)
    (hraw : UserStreamParser.IsPapiEvent papi.toGeneratedParsers raw rawType)
    (t : TraceInfo) (order : MatchedOrder) (retryNow : Bool) :
    (Accepts (WebSocket.parse shared p t message order retryNow) (WebSocket.parsed p message) ↔
      type ∈ WebSocket.served) ∧
    (Accepts (DropCopyMargin.parse shared p t message order retryNow)
      (DropCopyMargin.parsed p message) ↔ type ∈ WSAPIParser.served) ∧
    (Accepts (DropCopyPortfolio.parse shared papi raw order)
      (DropCopyPortfolio.parsed shared papi raw) ↔ rawType ∉ UserStreamParser.foreign) :=
  ⟨WebSocket.accepts_iff shared h t order retryNow,
    DropCopyMargin.accepts_iff shared h t order retryNow,
    DropCopyPortfolio.accepts_iff hallow papi hraw order⟩

def continuing : Shared :=
  {Shared.sample with
    settings := {Shared.sample.settings with continueWithUnknownEventType := true}}

def textWSAPIParsers : WSAPIParsers :=
  {WSAPIParsers.sample with eventType := UserStreamParser.textParsers.eventType}

/-- The data of a raw event are the defaults. -/
def textPapiParsers : DropCopyPortfolio.Parsers String :=
  {UserStreamParser.textParsers with
    read := fun callback _ =>
      match callback with
      | .outboundAccountPosition => .outboundAccountPosition ⟨0,0,[]⟩
      | .balanceUpdate => .balanceUpdate
      | .executionReport => .executionReport
          ⟨0,"","",.undefinedInternal,.undefinedInternal,.undefinedInternal,NaN,NaN,
            .undefinedInternal,.undefinedInternal,0,NaN,NaN,NaN,NaN,"",0,0,false,NaN,NaN⟩
      | .listStatus => .listStatus}

def newEvent : Library.Json.Object := [("e",.string "newEvent"),("E",.number "1")]

theorem isEvent_newEvent :
    WSAPIParser.IsEvent textWSAPIParsers [("event",.object newEvent)] .unknownInternal where
  no_id := by simp
  event := ⟨newEvent,.string "newEvent",rfl,rfl,rfl⟩
  readable := by simp [WSAPIParser.dispatchEvent]

theorem isPapiEvent_newEvent :
    UserStreamParser.IsPapiEvent textPapiParsers.toGeneratedParsers newEvent
      .unknownInternal where
  event := ⟨.string "newEvent",rfl,rfl⟩
  readable := by simp [UserStreamParser.tryDispatch]

theorem accepts_newEvent_iff :
    (Accepts
      (WebSocket.parse continuing textWSAPIParsers ⟨7,7⟩ [("event",.object newEvent)] ⟨0,0,0⟩ true)
      (WebSocket.parsed textWSAPIParsers [("event",.object newEvent)]) ↔
        .unknownInternal ∈ WebSocket.served) ∧
    (Accepts
      (DropCopyMargin.parse continuing textWSAPIParsers ⟨7,7⟩ [("event",.object newEvent)] ⟨0,0,0⟩
        true)
      (DropCopyMargin.parsed textWSAPIParsers [("event",.object newEvent)]) ↔
        .unknownInternal ∈ WSAPIParser.served) ∧
    (Accepts (DropCopyPortfolio.parse continuing textPapiParsers newEvent ⟨0,0,0⟩)
      (DropCopyPortfolio.parsed continuing textPapiParsers newEvent) ↔
        .unknownInternal ∉ UserStreamParser.foreign) :=
  accepts_event_iff rfl textWSAPIParsers textPapiParsers isEvent_newEvent isPapiEvent_newEvent
    ⟨7,7⟩ ⟨0,0,0⟩ true

/-- The stream of the spot wallet ends the process, although it is set to go on. -/
theorem newEvent_not_accepted :
    ¬ ∀ (shared : Shared) (p : WSAPIParsers) (message : Library.Json.Object) (type : EventType),
      shared.allowUnknownEventTypes = true → WSAPIParser.IsEvent p message type →
        Accepts (WebSocket.parse shared p ⟨7,7⟩ message ⟨0,0,0⟩ true)
          (WebSocket.parsed p message) := by
  intro h
  have ha := (h continuing textWSAPIParsers _ _ rfl isEvent_newEvent).accepted
  rw [WebSocket.parsed,isEvent_newEvent.dispatch_eq] at ha
  cases ha

end RoqBinance.Gateway
