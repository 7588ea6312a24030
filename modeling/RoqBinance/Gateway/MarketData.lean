import Mathlib.Algebra.Group.Int.Defs
import Mathlib.Data.UInt
import RoqBinance.Api

/-! A stream of market data: it subscribes to the symbols of its slice, by messages that wait
in a queue for the rate limiter. -/
namespace RoqBinance.Gateway

inductive Priority | undefined | primary | secondary
  deriving DecidableEq, Repr

inductive SupportType | topOfBook | marketByPrice | tradeSummary | statistics
  deriving DecidableEq, Repr

structure SubscribeMessage where
  symbols : List String
  channel : String
  id : UInt64
  deriving DecidableEq, Repr

namespace SubscribeMessage

/-- The names of the streams. -/
def params (message : SubscribeMessage) : List String :=
  message.symbols.map fun symbol => symbol ++ "@" ++ message.channel

def separator (channel : String) : String := "@" ++ channel ++ "\",\""

/-- What stands around the list of names. -/
def enclose (id : UInt64) (params : String) : String :=
  "\x7b\"method\":\"SUBSCRIBE\",\"params\":[" ++ params ++ "],\"id\":" ++ toString id.toNat ++
    "\x7d"

def text (message : SubscribeMessage) : String :=
  enclose message.id ("\"" ++ (separator message.channel).intercalate message.symbols ++ "@" ++
    message.channel ++ "\"")

def quote (name : String) : String := "\"" ++ name ++ "\""

/-- The separator closes one name and opens the next. -/
theorem intercalate_separator (channel symbol : String) (symbols : List String) :
    "\"" ++ (separator channel).intercalate (symbol::symbols) ++ "@" ++ channel ++ "\"" =
      ",".intercalate ((symbol::symbols).map fun s => quote (s ++ "@" ++ channel)) := by
  induction symbols generalizing symbol with
  | nil => simp [quote, String.append_assoc]
  | cons next symbols ih =>
    have hsep : separator channel = "@" ++ channel ++ ("\"" ++ "," ++ "\"") := by
      rw [separator]; rfl
    have hnext := ih next
    rw [List.map_cons] at hnext
    rw [String.intercalate_cons_cons,List.map_cons,List.map_cons,String.intercalate_cons_cons]
    rw [← hnext]
    simp only [hsep, quote, String.append_assoc]

/-- The message lists the quoted names. -/
theorem text_eq {message : SubscribeMessage} (h : message.symbols ≠ []) :
    message.text = enclose message.id (",".intercalate (message.params.map quote)) := by
  obtain ⟨symbol,symbols,hs⟩ := List.exists_cons_of_ne_nil h
  have hparams := intercalate_separator message.channel symbol symbols
  simp only [text, params, List.map_map, hs]
  rw [hparams]
  rfl

end SubscribeMessage

structure MarketData where
  streamId : ℕ
  priority : Priority
  index : ℕ
  requestId : UInt64
  connectionStatus : ConnectionStatus
  subscribeQueue : List SubscribeMessage
  deriving DecidableEq, Repr

namespace MarketData

/-- Times are in nanoseconds. -/
structure Settings where
  subscribeTradeDetails : Bool
  subscribeDepthFreq : ℤ
  timeSeriesLookback : ℤ
  enableSecondary : Bool
  deriving DecidableEq, Repr

inductive Output
  | streamStatus (streamId : ℕ) (supports : List SupportType) (priority : Priority)
    (status : ConnectionStatus)
  | sendText (message : SubscribeMessage)
  | fatal (text : String)
  deriving DecidableEq, Repr

structure Ctx where
  self : MarketData
  outputs : List Output
  deriving DecidableEq, Repr

def REQUEST_ID : ℕ := 1000000

def create (streamId : ℕ) (priority : Priority) (index : ℕ) : MarketData :=
  ⟨streamId,priority,index,UInt64.ofNat (streamId*REQUEST_ID),.undefined,[]⟩

def ready (self : MarketData) : Bool := self.connectionStatus = .ready

def getSupports (priority : Priority) : Option (List SupportType) :=
  match priority with
  | .undefined => none
  | .primary => some [.topOfBook,.marketByPrice,.tradeSummary,.statistics]
  | .secondary => some [.topOfBook,.marketByPrice]

def setConnectionStatus (status : ConnectionStatus) (ctx : Ctx) : Ctx :=
  let self := {ctx.self with connectionStatus := status}
  match getSupports self.priority with
  | some supports =>
    ⟨self,ctx.outputs ++ [.streamStatus self.streamId supports self.priority status]⟩
  | none => ⟨self,ctx.outputs ++ [.fatal "Unexpected"]⟩

def subscribeChannel (symbols : List String) (channel : String) (self : MarketData) : MarketData :=
  let id := self.requestId+1
  {self with requestId := id, subscribeQueue := self.subscribeQueue ++ [⟨symbols,channel,id⟩]}

/-- In milliseconds, rounded towards zero. -/
def depth (settings : Settings) : String :=
  "depth@" ++ toString (settings.subscribeDepthFreq.tdiv 1000000) ++ "ms"

def subscribeSymbols (settings : Settings) (symbols : List String) (self : MarketData) :
    MarketData :=
  if symbols.isEmpty then self
  else
    let self :=
      if self.priority = .primary then
        let self :=
          if settings.subscribeTradeDetails then self.subscribeChannel symbols "trade"
          else self.subscribeChannel symbols "aggTrade"
        self.subscribeChannel symbols "miniTicker"
      else self
    let self := self.subscribeChannel symbols "bookTicker"
    let self := self.subscribeChannel symbols (depth settings)
    if settings.timeSeriesLookback ≠ 0 then self.subscribeChannel symbols "kline_1m" else self

/-- `getSlice` is that of the symbols of all streams. -/
def subscribe (settings : Settings) (getSlice : ℕ → ℕ → List String) (startFrom : ℕ)
    (self : MarketData) : MarketData :=
  if self.ready then self.subscribeSymbols settings (getSlice self.index startFrom) else self

/-- The rate limiter lets `allowed` messages through. -/
def checkSubscribeQueue (allowed : ℕ) (ctx : Ctx) : Ctx :=
  ⟨{ctx.self with subscribeQueue := ctx.self.subscribeQueue.drop allowed},
    ctx.outputs ++ (ctx.self.subscribeQueue.take allowed).map .sendText⟩

def onTimer (refresh : Bool) (allowed : ℕ) (ctx : Ctx) : Ctx :=
  if refresh then
    if ctx.self.ready then checkSubscribeQueue allowed ctx else ctx
  else ctx

def onDisconnected (ctx : Ctx) : Ctx :=
  let ctx := setConnectionStatus .disconnected ctx
  {ctx with self := {ctx.self with subscribeQueue := []}}

def onReady (settings : Settings) (getSlice : ℕ → ℕ → List String) (ctx : Ctx) : Ctx :=
  let ctx := setConnectionStatus .ready ctx
  {ctx with self := ctx.self.subscribe settings getSlice 0}

/-- The channels that the priority and the settings call for. -/
def channels (settings : Settings) (priority : Priority) : List String :=
  (if priority = .primary then
    [if settings.subscribeTradeDetails then "trade" else "aggTrade","miniTicker"]
  else []) ++ ["bookTicker",depth settings] ++
    if settings.timeSeriesLookback = 0 then [] else ["kline_1m"]

variable (settings : Settings) (symbols : List String) (stream : MarketData)

theorem subscribeSymbols_nil : stream.subscribeSymbols settings [] = stream := rfl

theorem subscribeSymbols_eq (h : symbols ≠ []) :
    stream.subscribeSymbols settings symbols = (channels settings stream.priority).foldl
      (fun stream channel => stream.subscribeChannel symbols channel) stream := by
  have hempty : symbols.isEmpty = false := by simpa using h
  by_cases hp : stream.priority = .primary <;> by_cases ht : settings.subscribeTradeDetails = true <;>
    by_cases hl : settings.timeSeriesLookback = 0 <;>
    simp [subscribeSymbols, channels, hempty, hp, ht, hl]

/-- The messages of one subscription: each channel once, for all of the symbols. -/
structure Subscribes (channels : List String) (after : MarketData)
    (messages : List SubscribeMessage) : Prop where
  queue : after.subscribeQueue = stream.subscribeQueue ++ messages
  channels : messages.map SubscribeMessage.channel = channels
  symbols : ∀ message ∈ messages, message.symbols = symbols
  frame : ∃ requestId,
    after = {stream with requestId := requestId, subscribeQueue := after.subscribeQueue}

theorem foldl_subscribeChannel (channels : List String) :
    ∃ messages, Subscribes symbols stream channels
      (channels.foldl (fun stream channel => stream.subscribeChannel symbols channel) stream)
      messages := by
  induction channels generalizing stream with
  | nil => exact ⟨[],by simp,rfl,by simp,stream.requestId,rfl⟩
  | cons channel channels ih =>
    obtain ⟨messages,h⟩ := ih (stream.subscribeChannel symbols channel)
    refine ⟨⟨symbols,channel,stream.requestId+1⟩::messages,?_,?_,?_,?_⟩
    · rw [List.foldl_cons,h.queue,subscribeChannel,List.append_assoc,List.singleton_append]
    · rw [List.map_cons,h.channels]
    · intro message hm
      rcases List.mem_cons.mp hm with rfl | hm
      · rfl
      · exact h.symbols message hm
    · obtain ⟨requestId,hf⟩ := h.frame
      exact ⟨requestId,hf⟩

theorem subscribeSymbols_spec : ∃ messages, Subscribes symbols stream
    (if symbols = [] then [] else channels settings stream.priority)
      (stream.subscribeSymbols settings symbols) messages := by
  by_cases h : symbols = []
  · subst h
    exact ⟨[],by simp [subscribeSymbols_nil],by simp,by simp,stream.requestId,rfl⟩
  · rw [if_neg h,subscribeSymbols_eq settings symbols stream h]
    exact foldl_subscribeChannel symbols stream (channels settings stream.priority)

end MarketData
end RoqBinance.Gateway
