import RoqBinance.Gateway.Channels
import RoqBinance.Gateway.Instruments
import RoqBinance.Protocol.Json.KeyOrder

/-! What a market data stream publishes of the messages on its socket. -/
namespace RoqBinance.Protocol.Json

structure AggTradeData where
  eventTime : ℕ
  symbol : String
  aggTradeId : ℤ
  price : Double
  quantity : Double
  tradeTime : ℕ
  buyerIsMaker : Bool
  deriving DecidableEq, Repr

structure TradeData where
  eventTime : ℕ
  symbol : String
  tradeId : ℤ
  price : Double
  quantity : Double
  tradeTime : ℕ
  buyerIsMaker : Bool
  deriving DecidableEq, Repr

structure MiniTickerData where
  eventTime : ℕ
  symbol : String
  closePrice : Double
  openPrice : Double
  highPrice : Double
  lowPrice : Double
  deriving DecidableEq, Repr

end RoqBinance.Protocol.Json

namespace RoqBinance

structure Trade where
  side : Side
  price : Double
  quantity : Double
  tradeId : String
  deriving DecidableEq, Repr

structure TradeSummary where
  streamId : ℕ
  exchange : String
  symbol : String
  trades : List Trade
  exchangeTimeUtc : ℕ
  exchangeSequence : ℕ
  sendingTimeUtc : ℕ
  deriving DecidableEq, Repr

inductive StatisticsType | highestTradedPrice | lowestTradedPrice | openPrice | closePrice
  deriving DecidableEq, Repr

structure Statistics where
  type : StatisticsType
  value : Double
  deriving DecidableEq, Repr

structure StatisticsUpdate where
  streamId : ℕ
  exchange : String
  symbol : String
  statistics : List Statistics
  updateType : UpdateType
  exchangeTimeUtc : ℕ
  exchangeSequence : ℕ
  sendingTimeUtc : ℕ
  deriving DecidableEq, Repr

end RoqBinance

namespace RoqBinance.Gateway.MarketData
open Protocol.Json MarketStreamParser

/-- The objects that the generated parsers make; that of a response is only logged. -/
inductive Message
  | error | result | serverShutdown
  | aggTrade (data : AggTradeData)
  | trade (data : TradeData)
  | miniTicker (data : MiniTickerData)
  | bookTicker (data : BookTickerData)
  | depth
  | depthUpdate (data : DepthUpdateData)
  deriving DecidableEq, Repr

/-- The generated parsers of whole messages; a message they cannot read throws. -/
structure MessageParsers extends EnumParsers where
  error : Library.Json.Object → Option Unit
  result : Library.Json.Object → Option Unit
  serverShutdown : Library.Json.Object → Option Unit
  aggTrade : Library.Json.Object → Option AggTradeData
  trade : Library.Json.Object → Option TradeData
  miniTicker : Library.Json.Object → Option MiniTickerData
  bookTicker : Library.Json.Object → Option BookTickerData
  depth : Library.Json.Object → Option Unit
  depthUpdate : Library.Json.Object → Option DepthUpdateData
  int64 : Library.Json → Option ℤ

def MessageParsers.parsers (p : MessageParsers) : Parsers Message where
  toEnumParsers := p.toEnumParsers
  parse callback message :=
    match callback with
    | .error => (p.error message).map fun _ => .error
    | .result => (p.result message).map fun _ => .result
    | .serverShutdown => (p.serverShutdown message).map fun _ => .serverShutdown
    | .aggTrade => (p.aggTrade message).map .aggTrade
    | .trade => (p.trade message).map .trade
    | .miniTicker => (p.miniTicker message).map .miniTicker
    | .bookTicker => (p.bookTicker message).map .bookTicker
    | .depth => (p.depth message).map fun _ => .depth
    | .depthUpdate => (p.depthUpdate message).map .depthUpdate
  int64 := p.int64

/-- `close` closes the connection. -/
inductive Update
  | tradeSummary (update : TradeSummary)
  | statistics (update : StatisticsUpdate)
  | instrument (output : Instruments.Output)
  | close
  deriving DecidableEq, Repr

section
variable {S : Type} (feed : Feed S) (streamId : ℕ)

def sideOf (buyerIsMaker : Bool) : RoqBinance.Side := if buyerIsMaker then .sell else .buy

def onAggTrade (data : AggTradeData) : TradeSummary where
  streamId := streamId
  exchange := feed.exchange
  symbol := data.symbol
  trades := [⟨sideOf data.buyerIsMaker,data.price,data.quantity,toString data.aggTradeId⟩]
  exchangeTimeUtc := data.tradeTime
  exchangeSequence := 0
  sendingTimeUtc := data.eventTime

def onTrade (data : TradeData) : TradeSummary where
  streamId := streamId
  exchange := feed.exchange
  symbol := data.symbol
  trades := [⟨sideOf data.buyerIsMaker,data.price,data.quantity,toString data.tradeId⟩]
  exchangeTimeUtc := data.tradeTime
  exchangeSequence := 0
  sendingTimeUtc := data.eventTime

def onMiniTicker (data : MiniTickerData) : StatisticsUpdate where
  streamId := streamId
  exchange := feed.exchange
  symbol := data.symbol
  statistics :=
    [⟨.highestTradedPrice,data.highPrice⟩,⟨.lowestTradedPrice,data.lowPrice⟩,
      ⟨.openPrice,data.openPrice⟩,⟨.closePrice,data.closePrice⟩]
  updateType := .incremental
  exchangeTimeUtc := 0
  exchangeSequence := 0
  sendingTimeUtc := data.eventTime

def onInstrument (handler : Instruments.State S → Instruments.State S × List Instruments.Output)
    (s : Instruments.State S) : Instruments.State S × List Update :=
  ((handler s).1,(handler s).2.map .instrument)

/-- A message that is not expected ends the process. -/
def unexpected (s : Instruments.State S) : Instruments.State S × List Instruments.Output :=
  ({s with ended := true},[.fatal "Unexpected"])

def onMessage (message : Message) (s : Instruments.State S) :
    Instruments.State S × List Update :=
  match message with
  | .error => (s,[])
  | .result => (s,[])
  | .serverShutdown => (s,[.close])
  | .aggTrade data => (s,[.tradeSummary (onAggTrade feed streamId data)])
  | .trade data => (s,[.tradeSummary (onTrade feed streamId data)])
  | .miniTicker data => (s,[.statistics (onMiniTicker feed streamId data)])
  | .bookTicker data => onInstrument (Instruments.onBookTicker feed streamId data) s
  | .depth => onInstrument unexpected s
  | .depthUpdate data => onInstrument (Instruments.onDepthUpdate feed streamId data) s

/-- The text of a message, once it is an object. -/
def onText (p : MessageParsers) (allowUnknownEventTypes : Bool) (message : Library.Json.Object)
    (s : Instruments.State S) : Instruments.State S × List Update :=
  match parse p.parsers message allowUnknownEventTypes with
  | .handled _ _ _ obj => onMessage feed streamId obj s
  | .reported => (s,[])
  | .fatal => onInstrument unexpected s
  | .terminated => onInstrument Instruments.terminate s

end

def Message.support : Message → Option SupportType
  | .aggTrade _ => some .tradeSummary
  | .trade _ => some .tradeSummary
  | .miniTicker _ => some .statistics
  | .bookTicker _ => some .topOfBook
  | .depthUpdate _ => some .marketByPrice
  | _ => none

/-- What a stream has to announce before it publishes the update. -/
def Update.support : Update → Option SupportType
  | .tradeSummary _ => some .tradeSummary
  | .statistics _ => some .statistics
  | .instrument (.topOfBook _) => some .topOfBook
  | .instrument (.marketByPrice _) => some .marketByPrice
  | .instrument _ => none
  | .close => none

/-- Nothing in the gateway keeps an update of these kinds from being published twice. -/
def exclusiveSupport (support : Option SupportType) : Bool :=
  support = some .tradeSummary || support = some .statistics

def Update.exclusive (update : Update) : Bool := exclusiveSupport update.support

/-- The kind of update that comes of the data of a stream. -/
def supportOf (stream : Stream) : Option SupportType :=
  match stream with
  | .aggTrade => some .tradeSummary
  | .trade => some .tradeSummary
  | .miniTicker => some .statistics
  | .bookTicker => some .topOfBook
  | .depth => some .marketByPrice
  | _ => none

/-- Whether the updates of a stream with this name are exclusive. -/
def exclusiveName (e : EnumParsers) (name : String) : Bool :=
  (parseStream e name).any fun x => exclusiveSupport (supportOf x.2)

section
variable {S : Type} {feed : Feed S} {streamId : ℕ} {s : Instruments.State S}

theorem support_onBookTicker (data : BookTickerData) {output : Instruments.Output}
    (h : output ∈ (Instruments.onBookTicker feed streamId data s).2) {k : SupportType}
    (hk : (Update.instrument output).support = some k) : k = .topOfBook := by
  unfold Instruments.onBookTicker at h
  dsimp only at h
  split at h
  · rw [List.mem_singleton.mp h] at hk
    cases hk
  · split at h
    · cases h
    · rw [List.mem_singleton.mp h] at hk
      exact (Option.some.inj hk).symm

theorem support_onSnapshotCall (symbol : String) (sendingTimeUtc : ℕ) (call : SnapshotCall)
    {k : SupportType} (hk : (Update.instrument
      (Instruments.onSnapshotCall feed streamId symbol sendingTimeUtc call)).support = some k) :
    k = .marketByPrice := by
  cases call with
  | publishSnapshot bids asks lastSequence => exact (Option.some.inj hk).symm
  | requestSnapshot retries =>
    rw [Instruments.onSnapshotCall,Instruments.requestSnapshot] at hk
    split_ifs at hk <;> cases hk

theorem support_onUpdateCall (data : DepthUpdateData) (call : UpdateCall) {k : SupportType}
    (hk : (Update.instrument (Instruments.onUpdateCall feed streamId data call)).support =
      some k) : k = .marketByPrice := by
  cases call with
  | publishUpdate bids asks => exact (Option.some.inj hk).symm
  | snapshot call => exact support_onSnapshotCall _ _ call hk

theorem mem_onCalls {Call : Type} {onCall : Call → Instruments.Output} {calls : List Call}
    {output : Instruments.Output} (h : output ∈ Instruments.onCalls onCall calls) :
    ∃ call, output = onCall call := by
  induction calls with
  | nil => cases h
  | cons call calls ih =>
    rw [Instruments.onCalls] at h
    split_ifs at h
    · exact ⟨call,List.mem_singleton.mp h⟩
    · rcases List.mem_cons.mp h with h | h
      · exact ⟨call,h⟩
      · exact ih h

theorem support_onDepthUpdate (data : DepthUpdateData) {output : Instruments.Output}
    (h : output ∈ (Instruments.onDepthUpdate feed streamId data s).2) {k : SupportType}
    (hk : (Update.instrument output).support = some k) : k = .marketByPrice := by
  have hcalls : ∀ {bids asks : List MBPUpdate} {first last previous : UInt64}
      {calls : List UpdateCall}, output ∈
        (.sequenced data.symbol bids asks first last previous::
          Instruments.onCalls (Instruments.onUpdateCall feed streamId data) calls) →
      k = .marketByPrice := by
    intro bids asks first last previous calls hmem
    rcases List.mem_cons.mp hmem with rfl | hmem
    · cases hk
    · obtain ⟨call,rfl⟩ := mem_onCalls hmem
      exact support_onUpdateCall data call hk
  unfold Instruments.onDepthUpdate at h
  dsimp only at h
  split at h
  · rw [List.mem_singleton.mp h] at hk
    cases hk
  · split at h
    · cases h
    · unfold Instruments.settle at h
      split_ifs at h
      · exact hcalls h
      · rcases List.mem_append.mp h with h | h
        · exact hcalls h
        · rw [List.mem_singleton.mp h] at hk
          cases hk
      · exact hcalls h

theorem support_onMessage (message : Message) {update : Update}
    (h : update ∈ (onMessage feed streamId message s).2) {k : SupportType}
    (hk : update.support = some k) : message.support = some k := by
  cases message with
  | error => cases h
  | result => cases h
  | serverShutdown =>
    rw [List.mem_singleton.mp h] at hk
    cases hk
  | aggTrade data => rwa [List.mem_singleton.mp h] at hk
  | trade data => rwa [List.mem_singleton.mp h] at hk
  | miniTicker data => rwa [List.mem_singleton.mp h] at hk
  | bookTicker data =>
    obtain ⟨output,hmem,rfl⟩ := List.mem_map.mp h
    exact congrArg some (support_onBookTicker data hmem hk).symm
  | depth =>
    obtain ⟨output,hmem,rfl⟩ := List.mem_map.mp h
    rw [List.mem_singleton.mp hmem] at hk
    cases hk
  | depthUpdate data =>
    obtain ⟨output,hmem,rfl⟩ := List.mem_map.mp h
    exact congrArg some (support_onDepthUpdate data hmem hk).symm

/-- Updates without a kind, or of another, are not exclusive. -/
theorem filter_exclusive_eq_nil {updates : List Update}
    (h : ∀ update ∈ updates, ∀ k, update.support = some k → exclusiveSupport (some k) = false) :
    updates.filter Update.exclusive = [] := by
  rw [List.filter_eq_nil_iff]
  intro update hmem
  cases hk : update.support with
  | none => simp [Update.exclusive, exclusiveSupport, hk]
  | some k => simp [Update.exclusive, hk, h update hmem k hk]

/-- The instruments have no part in trades and statistics. -/
theorem onMessage_of_exclusive (message : Message) (h : exclusiveSupport message.support = true) :
    (onMessage feed streamId message s).1 = s := by
  cases message <;> first | rfl | cases h

/-- A trade or a statistic is published once. -/
theorem length_exclusive_onMessage (message : Message) :
    ((onMessage feed streamId message s).2.filter Update.exclusive).length =
      if exclusiveSupport message.support then 1 else 0 := by
  cases hexclusive : exclusiveSupport message.support with
  | true => cases message <;> first | rfl | cases hexclusive
  | false =>
    rw [filter_exclusive_eq_nil]
    · rfl
    · intro update hmem k hk
      rw [← support_onMessage message hmem hk]
      exact hexclusive

end

section
variable {S : Type} (feed : Feed S) (streamId : ℕ) (p : MessageParsers) (allow : Bool)
  (s : Instruments.State S) {name symbol : String} {stream : Stream}
  {message : Library.Json.Object}

variable {p} in
/-- The object is of the kind that the callback is for. -/
theorem MessageParsers.support {callback : Callback} {obj : Message}
    (hc : stream.callback = some callback) (h : p.parsers.parse callback message = some obj) :
    obj.support = supportOf stream := by
  cases stream <;> cases hc <;> obtain ⟨_,_,rfl⟩ := Option.map_eq_some_iff.mp h <;> rfl

/-- The data has no handler, and the process goes on only where it has no kind either. -/
structure Unused (stream : Stream) (x : Instruments.State S × List Update) : Prop where
  quiet : ∀ update ∈ x.2, update.support = none
  ended : x.1.ended = true ∨ supportOf stream = none

theorem unused_unexpected : Unused stream (onInstrument unexpected s) := by
  refine ⟨fun update hu => ?_,.inl rfl⟩
  rw [List.mem_singleton.mp hu]
  rfl

theorem unused_terminate : Unused stream (onInstrument Instruments.terminate s) := by
  refine ⟨fun update hu => ?_,.inl rfl⟩
  rw [List.mem_singleton.mp hu]
  rfl

theorem onText_called {callback : Callback} {id : Option ℤ} {symbol' : Option String}
    (hc : stream.callback = some callback)
    (hd : dispatch p.parsers message allow =
      dispatchHelper p.parsers message callback id symbol') :
    (∃ obj : Message, obj.support = supportOf stream ∧
      onText feed streamId p allow message s = onMessage feed streamId obj s) ∨
    Unused stream (onText feed streamId p allow message s) := by
  rw [dispatchHelper] at hd
  cases hobj : p.parsers.parse callback message with
  | none =>
    rw [hobj] at hd
    simp only [onText, parse, hd]
    exact .inr (unused_terminate s)
  | some obj =>
    rw [hobj] at hd
    by_cases hdepth : callback = .depth
    · subst hdepth
      simp only [onText, parse, hd]
      exact .inr (unused_unexpected s)
    · refine .inl ⟨obj,MessageParsers.support hc hobj,?_⟩
      simp only [onText, parse, hd]

/-- The data goes to the handler for the stream, or it is not used. -/
theorem onText_cases (h : parseStream p.toEnumParsers name = some (symbol,stream))
    (hm : IsData name message) :
    (∃ obj : Message, obj.support = supportOf stream ∧
      onText feed streamId p allow message s = onMessage feed streamId obj s) ∨
    Unused stream (onText feed streamId p allow message s) := by
  have hdispatch := dispatch_named p.parsers allow h hm
  cases stream with
  | undefinedInternal =>
    simp only [onText, parse, hdispatch, onData]
    exact .inr (unused_unexpected s)
  | unknownInternal =>
    cases allow with
    | false =>
      simp only [onText, parse, hdispatch, onData, Bool.false_eq_true, if_false]
      exact .inr (unused_unexpected s)
    | true =>
      simp only [onText, parse, hdispatch, onData, if_true]
      refine .inr ⟨fun update hu => ?_,.inr rfl⟩
      cases hu
  | _ => exact onText_called feed streamId p allow s rfl hdispatch

/-- What is published of the data of a stream is of its kind. -/
theorem support_onText (h : parseStream p.toEnumParsers name = some (symbol,stream))
    (hm : IsData name message)
    {update : Update} (hu : update ∈ (onText feed streamId p allow message s).2) {k : SupportType}
    (hk : update.support = some k) : supportOf stream = some k := by
  rcases onText_cases feed streamId p allow s h hm with ⟨obj,hobj,heq⟩ | hunused
  · rw [heq] at hu
    rw [← hobj]
    exact support_onMessage obj hu hk
  · rw [hunused.quiet update hu] at hk
    cases hk

theorem exclusive_eq_nil_onText (h : parseStream p.toEnumParsers name = some (symbol,stream))
    (hm : IsData name message) (hs : exclusiveSupport (supportOf stream) = false) :
    (onText feed streamId p allow message s).2.filter Update.exclusive = [] := by
  refine filter_exclusive_eq_nil fun update hu k hk => ?_
  rw [← support_onText feed streamId p allow s h hm hu hk]
  exact hs

/-- A trade or a statistic is published once, or the process ends. -/
theorem exclusive_onText (h : parseStream p.toEnumParsers name = some (symbol,stream))
    (hm : IsData name message)
    (hs : exclusiveSupport (supportOf stream) = true) :
    (onText feed streamId p allow message s).1 = s ∧
        ((onText feed streamId p allow message s).2.filter Update.exclusive).length = 1 ∨
      (onText feed streamId p allow message s).1.ended = true ∧
        (onText feed streamId p allow message s).2.filter Update.exclusive = [] := by
  rcases onText_cases feed streamId p allow s h hm with ⟨obj,hobj,heq⟩ | hunused
  · left
    rw [← hobj] at hs
    rw [heq,length_exclusive_onMessage,if_pos hs]
    exact ⟨onMessage_of_exclusive obj hs,rfl⟩
  · right
    refine ⟨?_,filter_exclusive_eq_nil fun update hu k hk => ?_⟩
    · rcases hunused.ended with hend | hnone
      · exact hend
      · rw [hnone] at hs
        cases hs
    · rw [hunused.quiet update hu] at hk
      cases hk

end

end RoqBinance.Gateway.MarketData
