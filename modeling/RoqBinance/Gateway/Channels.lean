import Mathlib.Data.List.TakeWhile
import RoqBinance.Gateway.MarketData
import RoqBinance.Protocol.Json.KeyOrder

/-! What a market data stream subscribes to, and what its parser makes of the data. -/
namespace RoqBinance.Protocol.Json

/-- The callback for the data of a stream. -/
def Stream.callback (stream : Stream) : Option MarketStreamParser.Callback :=
  match stream with
  | .undefinedInternal => none
  | .unknownInternal => none
  | .serverShutdown => some .serverShutdown
  | .aggTrade => some .aggTrade
  | .trade => some .trade
  | .miniTicker => some .miniTicker
  | .bookTicker => some .bookTicker
  | .depth5 => some .depth
  | .depth10 => some .depth
  | .depth20 => some .depth
  | .depth => some .depthUpdate

namespace MarketStreamParser
variable {V : Type} (p : Parsers V) {name symbol : String} {stream : Stream}
  {message : Library.Json.Object} (allow : Bool)

/-- In either order of the keys, the data of a known stream goes to its callback. -/
theorem dispatch_data (h : parseStream p.toEnumParsers name = some (symbol,stream))
    (hm : IsData name message) {callback : Callback} (hc : stream.callback = some callback) :
    ∃ s, dispatch p message allow = dispatchHelper p message callback none s := by
  rw [dispatch_named p allow h hm]
  cases stream <;> cases hc <;> exact ⟨_,rfl⟩

end MarketStreamParser
end RoqBinance.Protocol.Json

namespace RoqBinance.Gateway.MarketData
open Protocol.Json MarketStreamParser

/-- What the stream does with a message: an exception ends the process, and so does the handler
of depth snapshots. -/
inductive Parsed (V : Type)
  | handled (callback : Callback) (id : Option ℤ) (symbol : Option String) (obj : V)
  | reported
  | fatal
  | terminated
  deriving DecidableEq, Repr

def parse {V : Type} (p : Parsers V) (message : Library.Json.Object)
    (allowUnknownEventTypes : Bool) : Parsed V :=
  match dispatch p message allowUnknownEventTypes with
  | .called .depth _ _ _ => .fatal
  | .called callback id symbol obj => .handled callback id symbol obj
  | .skipped => .reported
  | .fatal => .fatal
  | .thrown => .terminated

/-- The name of a stream is split into the upper-cased symbol and a known stream, and the data
that its parser can read goes to a handler. -/
def Parses {V : Type} (p : Parsers V) (symbol name : String) : Prop :=
  ∃ stream callback, parseStream p.toEnumParsers name = some (toUpper symbol.toList,stream) ∧
    stream.callback = some callback ∧
    ∀ message allow, IsData name message → (p.parse callback message).isSome →
      ∃ id s obj, parse p message allow = .handled callback id s obj

/-- The messages that a subscription adds to the queue. -/
def built (settings : Settings) (symbols : List String) (stream : MarketData) :
    List SubscribeMessage :=
  (stream.subscribeSymbols settings symbols).subscribeQueue.drop stream.subscribeQueue.length

/-- Every stream of the messages can be parsed. -/
def SubscribesToParsed {V : Type} (p : Parsers V) (symbols : List String)
    (messages : List SubscribeMessage) : Prop :=
  ∀ message ∈ messages, ∀ name ∈ message.params, ∃ symbol ∈ symbols,
    name = symbol ++ "@" ++ message.channel ∧ Parses p symbol name

section
variable {V : Type} (p : Parsers V) {symbol : String}

/-- The stream of a channel is named before its frequency. -/
def streamOf (e : EnumParsers) (channel : String) : Stream :=
  e.stream.ofText (String.ofList (channel.toList.takeWhile (· ≠ '@')))

theorem parses_channel (h : '@' ∉ symbol.toList) {channel : String} {callback : Callback}
    (hc : (streamOf p.toEnumParsers channel).callback = some callback) (hd : callback ≠ .depth) :
    Parses p symbol (symbol ++ "@" ++ channel) := by
  have hs := parseStream_channel p.toEnumParsers h channel
  refine ⟨streamOf p.toEnumParsers channel,callback,hs,hc,?_⟩
  intro message allow hm hv
  obtain ⟨s,hdispatch⟩ := dispatch_data p allow hs hm hc
  obtain ⟨obj,hobj⟩ := Option.isSome_iff_exists.mp hv
  refine ⟨none,s,obj,?_⟩
  rw [parse,hdispatch,dispatchHelper,hobj]
  cases callback <;> first | rfl | exact absurd rfl hd

theorem not_parses_unknown (h : '@' ∉ symbol.toList) {channel : String}
    (hc : (streamOf p.toEnumParsers channel).callback = none) :
    ¬ Parses p symbol (symbol ++ "@" ++ channel) := by
  rintro ⟨stream,callback,hs,hcallback,-⟩
  have hs' := (parseStream_channel p.toEnumParsers h channel).symm.trans hs
  have hstream : streamOf p.toEnumParsers channel = stream := (Prod.mk.inj (Option.some.inj hs')).2
  rw [← hstream,hc] at hcallback
  cases hcallback

/-- A channel without a frequency that is named in the schema. -/
theorem streamOf_named (e : EnumParsers) {channel : String} {stream : Stream}
    (hmem : (channel,stream) ∈ Stream.names) (h : '@' ∉ channel.toList) :
    streamOf e channel = stream := by
  have htake : channel.toList.takeWhile (· ≠ '@') = channel.toList :=
    List.takeWhile_eq_self_iff.mpr fun c hc => decide_eq_true fun he => h (he ▸ hc)
  rw [streamOf,htake,String.ofList_toList]
  exact e.stream.named _ hmem

theorem streamOf_trade (e : EnumParsers) : streamOf e "trade" = .trade :=
  streamOf_named e (by simp [Stream.names]) (by simp)

theorem streamOf_aggTrade (e : EnumParsers) : streamOf e "aggTrade" = .aggTrade :=
  streamOf_named e (by simp [Stream.names]) (by simp)

theorem streamOf_miniTicker (e : EnumParsers) : streamOf e "miniTicker" = .miniTicker :=
  streamOf_named e (by simp [Stream.names]) (by simp)

theorem streamOf_bookTicker (e : EnumParsers) : streamOf e "bookTicker" = .bookTicker :=
  streamOf_named e (by simp [Stream.names]) (by simp)

/-- Whatever its frequency. -/
theorem streamOf_depth (e : EnumParsers) (settings : Settings) :
    streamOf e (depth settings) = .depth := by
  have htake : (depth settings).toList.takeWhile (· ≠ '@') = "depth".toList := by
    simp [depth]
  rw [streamOf,htake,String.ofList_toList]
  exact e.stream.named ("depth",.depth) (by simp [Stream.names])

end

section
variable {V : Type} (p : Parsers V) (settings : Settings) {symbols : List String}
  (stream : MarketData)

theorem built_spec (h : symbols ≠ []) :
    (built settings symbols stream).map SubscribeMessage.channel =
      channels settings stream.priority ∧
    ∀ message ∈ built settings symbols stream, message.symbols = symbols := by
  obtain ⟨messages,hm⟩ := subscribeSymbols_spec settings symbols stream
  have hbuilt : built settings symbols stream = messages := by
    rw [built,hm.queue,List.drop_left]
  rw [hbuilt]
  exact ⟨by rw [hm.channels,if_neg h],hm.symbols⟩

/-- Every channel but that of the klines has a handler. -/
theorem callback_channels (e : EnumParsers) {channel : String} (hlookback : settings.timeSeriesLookback = 0)
    (hc : channel ∈ channels settings stream.priority) :
    ∃ callback, (streamOf e channel).callback = some callback ∧ callback ≠ .depth := by
  rw [channels,if_pos hlookback,List.append_nil] at hc
  rcases List.mem_append.mp hc with hc | hc
  · split_ifs at hc with hprimary htrade
    · rcases List.mem_pair.mp hc with rfl | rfl
      · exact ⟨.trade,by rw [streamOf_trade]; rfl,by decide⟩
      · exact ⟨.miniTicker,by rw [streamOf_miniTicker]; rfl,by decide⟩
    · rcases List.mem_pair.mp hc with rfl | rfl
      · exact ⟨.aggTrade,by rw [streamOf_aggTrade]; rfl,by decide⟩
      · exact ⟨.miniTicker,by rw [streamOf_miniTicker]; rfl,by decide⟩
    · cases hc
  · rcases List.mem_pair.mp hc with rfl | rfl
    · exact ⟨.bookTicker,by rw [streamOf_bookTicker]; rfl,by decide⟩
    · exact ⟨.depthUpdate,by rw [streamOf_depth]; rfl,by decide⟩

/-- The channel of the klines is subscribed to, but the schema has no such stream. -/
theorem streamOf_kline (e : EnumParsers) : streamOf e "kline_1m" = .undefinedInternal ∨
    streamOf e "kline_1m" = .unknownInternal := by
  have htake : "kline_1m".toList.takeWhile (· ≠ '@') = "kline_1m".toList := by simp
  rw [streamOf,htake,String.ofList_toList]
  simpa using e.stream.other "kline_1m" (by simp [Stream.names])

theorem callback_kline (e : EnumParsers) : (streamOf e "kline_1m").callback = none := by
  rcases streamOf_kline e with h | h
  · rw [h]; rfl
  · rw [h]; rfl

/-- With a lookback the klines are subscribed to. -/
theorem exists_kline (hne : symbols ≠ []) (hlookback : settings.timeSeriesLookback ≠ 0) :
    ∃ message ∈ built settings symbols stream, message.channel = "kline_1m" ∧
      ∃ symbol ∈ symbols, symbol ++ "@" ++ "kline_1m" ∈ message.params := by
  obtain ⟨hchannels,hsymbols⟩ := built_spec settings stream hne
  have hkline : "kline_1m" ∈ channels settings stream.priority := by
    simp [channels, hlookback]
  obtain ⟨message,hm,hchannel⟩ := List.mem_map.mp (hchannels ▸ hkline)
  obtain ⟨symbol,hs⟩ := List.exists_mem_of_ne_nil symbols hne
  refine ⟨message,hm,hchannel,symbol,hs,?_⟩
  rw [SubscribeMessage.params,hsymbols message hm,hchannel]
  exact List.mem_map_of_mem hs

theorem not_subscribesToParsed (hne : symbols ≠ [])
    (hat : ∀ symbol ∈ symbols, '@' ∉ symbol.toList) (hlookback : settings.timeSeriesLookback ≠ 0) :
    ¬ SubscribesToParsed p symbols (built settings symbols stream) := by
  intro h
  obtain ⟨message,hm,hchannel,symbol,hs,hn⟩ := exists_kline settings stream hne hlookback
  obtain ⟨symbol',hs',hname,hp⟩ := h message hm _ hn
  rw [hname,hchannel] at hp
  exact not_parses_unknown p (hat symbol' hs') (callback_kline p.toEnumParsers) hp

/-- Everything that is subscribed to can be parsed exactly when no time series are. -/
theorem subscribesToParsed_iff (hne : symbols ≠ [])
    (hat : ∀ symbol ∈ symbols, '@' ∉ symbol.toList) :
    SubscribesToParsed p symbols (built settings symbols stream) ↔
      settings.timeSeriesLookback = 0 := by
  constructor
  · intro h
    by_contra hlookback
    exact not_subscribesToParsed p settings stream hne hat hlookback h
  · intro hlookback message hm name hn
    obtain ⟨hchannels,hsymbols⟩ := built_spec settings stream hne
    have hchannel : message.channel ∈ channels settings stream.priority :=
      hchannels ▸ List.mem_map_of_mem hm
    obtain ⟨symbol,hs,rfl⟩ := List.mem_map.mp hn
    rw [hsymbols message hm] at hs
    obtain ⟨callback,hc,hd⟩ := callback_channels settings stream p.toEnumParsers hlookback hchannel
    exact ⟨symbol,hs,rfl,parses_channel p (hat symbol hs) hc hd⟩

end

/-- With every parser reading everything. -/
def readsAll : Parsers Unit := {EnumParsers.sample with
  parse _ _ := some ()
  int64 _ := some 0}

theorem subscribesToParsed_btcusdt :
    SubscribesToParsed readsAll ["btcusdt"]
      (built ⟨true,100000000,0,true⟩ ["btcusdt"] (create 3 .primary 0)) :=
  (subscribesToParsed_iff readsAll ⟨true,100000000,0,true⟩ (create 3 .primary 0) (by simp)
    (by simp)).mpr rfl

/-- With a lookback of a day, the klines of `btcusdt` are subscribed to and end the process. -/
theorem kline_data_fatal :
    let messages := built ⟨false,100000000,86400000000000,false⟩ ["btcusdt"] (create 3 .primary 0)
    ¬ SubscribesToParsed readsAll ["btcusdt"] messages ∧
      (∃ message ∈ messages, "btcusdt@kline_1m" ∈ message.params) ∧
      parse readsAll [("stream",.string "btcusdt@kline_1m"),("data",.object [])] false = .fatal := by
  intro messages
  have hat : ∀ symbol ∈ ["btcusdt"], '@' ∉ symbol.toList := by simp
  refine ⟨not_subscribesToParsed readsAll _ _ (by simp) hat (by decide),?_,?_⟩
  · obtain ⟨message,hm,-,symbol,hs,hn⟩ :=
      exists_kline ⟨false,100000000,86400000000000,false⟩ (create 3 .primary 0)
        (List.cons_ne_nil "btcusdt" []) (by decide)
    rw [List.mem_singleton.mp hs] at hn
    exact ⟨message,hm,hn⟩
  · have hstream := parseStream_channel readsAll.toEnumParsers (hat "btcusdt" (by simp)) "kline_1m"
    have hdata : IsData ("btcusdt" ++ "@" ++ "kline_1m")
        [("stream",.string "btcusdt@kline_1m"),("data",.object [])] := ⟨.object [],List.Perm.refl _⟩
    rw [parse,dispatch_named readsAll false hstream hdata]
    rfl

end RoqBinance.Gateway.MarketData
