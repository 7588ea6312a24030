import Mathlib.Algebra.Group.Int.Defs
import Mathlib.Data.List.Permutation
import RoqBinance.Library.Dictionary

/-! The parser of the market streams. A message is a response, told apart by `error` or `result`,
or the data of a named stream; its keys may come in any order, so it is read twice. -/
namespace RoqBinance.Protocol.Json
open Library (Json Enumeration)

inductive Stream
  | undefinedInternal | unknownInternal | serverShutdown | aggTrade | trade | miniTicker
  | bookTicker | depth5 | depth10 | depth20 | depth
  deriving DecidableEq, Repr

def Stream.names : List (String × Stream) :=
  [("!serverShutdown",.serverShutdown),("aggTrade",.aggTrade),("trade",.trade),
    ("miniTicker",.miniTicker),("bookTicker",.bookTicker),("depth5",.depth5),("depth10",.depth10),
    ("depth20",.depth20),("depth",.depth)]

inductive Field
  | undefinedInternal | unknownInternal | error | result | id | stream | data
  deriving DecidableEq, Repr

def Field.names : List (String × Field) :=
  [("error",.error),("result",.result),("id",.id),("stream",.stream),("data",.data)]

/-- The generated parsers of the two enumerations. -/
structure EnumParsers where
  field : Enumeration Field.names [.undefinedInternal,.unknownInternal]
  stream : Enumeration Stream.names [.undefinedInternal,.unknownInternal]

namespace EnumParsers
variable (e : EnumParsers)

@[simp] theorem field_error : e.field.ofText "error" = .error :=
  e.field.named ("error",.error) (by simp [Field.names])
@[simp] theorem field_result : e.field.ofText "result" = .result :=
  e.field.named ("result",.result) (by simp [Field.names])
@[simp] theorem field_id : e.field.ofText "id" = .id :=
  e.field.named ("id",.id) (by simp [Field.names])
@[simp] theorem field_stream : e.field.ofText "stream" = .stream :=
  e.field.named ("stream",.stream) (by simp [Field.names])
@[simp] theorem field_data : e.field.ofText "data" = .data :=
  e.field.named ("data",.data) (by simp [Field.names])

/-- An empty text is undefined. -/
def sample : EnumParsers where
  field := .ofNames Field.names .undefinedInternal .unknownInternal (by decide)
  stream := .ofNames Stream.names .undefinedInternal .unknownInternal (by decide)

end EnumParsers

namespace MarketStreamParser

/-- The callbacks of the handler. -/
inductive Callback
  | error | result | serverShutdown | aggTrade | trade | miniTicker | bookTicker | depth
  | depthUpdate
  deriving DecidableEq, Repr

/-- The generated parsers of whole messages, one for each callback, and that of an integer.
What they cannot read throws. -/
structure Parsers (V : Type) extends EnumParsers where
  parse : Callback → Json.Object → Option V
  int64 : Json → Option ℤ

/-- A callback is called with the object and, by its kind, with an id or a symbol. -/
inductive Outcome (V : Type)
  | called (callback : Callback) (id : Option ℤ) (symbol : Option String) (obj : V)
  | skipped
  | fatal
  | thrown
  deriving DecidableEq, Repr

def toUpper (symbol : List Char) : String := String.ofList (symbol.map Char.toUpper)

/-- `<symbol>@<stream>[@<freq>]`; any other name ends the process. -/
def parseStream (e : EnumParsers) (fullName : String) : Option (String × Stream) :=
  let name := fullName.toList
  if '@' ∈ name then
    let symbol := name.takeWhile (· ≠ '@')
    let rest := (name.dropWhile (· ≠ '@')).tail
    some (toUpper symbol,e.stream.ofText (String.ofList (rest.takeWhile (· ≠ '@'))))
  else if name.head? = some '!' then some ("",e.stream.ofText fullName)
  else none

/-- What has been found so far. -/
structure State where
  id : ℤ
  symbol : String
  stream : Stream
  deriving DecidableEq, Repr

section
variable {V : Type} (p : Parsers V) (message : Json.Object) (allowUnknownEventTypes : Bool)

def dispatchHelper (callback : Callback) (id : Option ℤ) (symbol : Option String) : Outcome V :=
  match p.parse callback message with
  | some obj => .called callback id symbol obj
  | none => .thrown

/-- An unknown key is skipped, as in a release build. -/
def onKey (s : State) (x : String × Json) : Except (Outcome V) State :=
  match p.field.ofText x.1 with
  | .undefinedInternal => .error .fatal
  | .unknownInternal => .ok s
  | .error =>
    if 0 ≤ s.id then .error (dispatchHelper p message .error (some s.id) none) else .ok s
  | .result =>
    if 0 ≤ s.id then .error (dispatchHelper p message .result (some s.id) none) else .ok s
  | .id =>
    match p.int64 x.2 with
    | some id => .ok {s with id := id}
    | none => .error .thrown
  | .stream =>
    match x.2 with
    | .string name =>
      match parseStream p.toEnumParsers name with
      | some (symbol,stream) => .ok {s with symbol := symbol, stream := stream}
      | none => .error .fatal
    | _ => .error .thrown
  | .data =>
    match s.stream with
    | .undefinedInternal => .ok s
    | .unknownInternal => if allowUnknownEventTypes then .error .skipped else .ok s
    | .serverShutdown => .error (dispatchHelper p message .serverShutdown none none)
    | .aggTrade => .error (dispatchHelper p message .aggTrade none none)
    | .trade => .error (dispatchHelper p message .trade none none)
    | .miniTicker => .error (dispatchHelper p message .miniTicker none none)
    | .bookTicker => .error (dispatchHelper p message .bookTicker none none)
    | .depth5 => .error (dispatchHelper p message .depth none (some s.symbol))
    | .depth10 => .error (dispatchHelper p message .depth none (some s.symbol))
    | .depth20 => .error (dispatchHelper p message .depth none (some s.symbol))
    | .depth => .error (dispatchHelper p message .depthUpdate none none)

/-- One iteration over the keys. -/
def iterate (s : State) : Except (Outcome V) State :=
  message.foldlM (onKey p message allowUnknownEventTypes) s

/-- A message that is neither after two iterations ends the process. -/
def dispatch : Outcome V :=
  match (iterate p message allowUnknownEventTypes ⟨-1,"",.undefinedInternal⟩).bind
    (iterate p message allowUnknownEventTypes) with
  | .error outcome => outcome
  | .ok _ => .fatal

end

theorem parseStream_channel (e : EnumParsers) {symbol : String} (h : '@' ∉ symbol.toList)
    (channel : String) : parseStream e (symbol ++ "@" ++ channel) =
      some (toUpper symbol.toList,
        e.stream.ofText (String.ofList (channel.toList.takeWhile (· ≠ '@')))) := by
  have hname : (symbol ++ "@" ++ channel).toList = symbol.toList ++ '@'::channel.toList := by
    simp
  have hsymbol : ∀ c ∈ symbol.toList, decide (c ≠ '@') = true := by
    intro c hc
    exact decide_eq_true fun he => h (he ▸ hc)
  have htake : (symbol.toList ++ '@'::channel.toList).takeWhile (· ≠ '@') = symbol.toList := by
    rw [List.takeWhile_append_of_pos hsymbol,List.takeWhile_cons_of_neg (by simp),List.append_nil]
  have hdrop : (symbol.toList ++ '@'::channel.toList).dropWhile (· ≠ '@') =
      '@'::channel.toList := by
    rw [List.dropWhile_append_of_pos hsymbol,List.dropWhile_cons_of_neg (by simp)]
  have hmem : '@' ∈ symbol.toList ++ '@'::channel.toList := by simp
  simp only [parseStream, hname, if_pos hmem, htake, hdrop, List.tail_cons]

/-- The data of a stream, with its two keys in either order. -/
def IsData (name : String) (message : Json.Object) : Prop :=
  ∃ data, message.Perm [("stream",.string name),("data",data)]

theorem isData_iff {name : String} {message : Json.Object} :
    IsData name message ↔ ∃ data, message = [("stream",.string name),("data",data)] ∨
      message = [("data",data),("stream",.string name)] := by
  simp only [IsData, List.perm_pair]

end MarketStreamParser
end RoqBinance.Protocol.Json
