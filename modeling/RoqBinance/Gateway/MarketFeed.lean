import RoqBinance.Gateway.Publications
import RoqBinance.Gateway.Redundancy
import RoqBinance.Gateway.SubscribeMessages
import RoqBinance.Library.Delivery

/-! The exchange broadcasts the data of a name to the sockets that have subscribed to it, and the
streams of market data publish what arrives. A trade or a statistic has no watermark; it is
published once because one stream alone subscribes to it. -/
namespace RoqBinance.Gateway
open Library MarketData Protocol.Json MarketStreamParser

/-- Data on its way to a stream, by the number of the broadcast that it comes from. -/
structure Delivery where
  tag : ℕ
  priority : Priority
  index : ℕ
  name : String
  data : Json
  dataFirst : Bool

namespace Delivery

def message (d : Delivery) : Json.Object :=
  if d.dataFirst then [("data",d.data),("stream",.string d.name)]
  else [("stream",.string d.name),("data",d.data)]

def exclusive (e : EnumParsers) (d : Delivery) : Bool := exclusiveName e d.name

theorem isData_message (d : Delivery) : IsData d.name d.message := by
  refine isData_iff.mpr ⟨d.data,?_⟩
  unfold message
  split_ifs
  · exact .inr rfl
  · exact .inl rfl

/-- The connection that the data is on has ended. -/
def broken (event : MarketStreams.Event) (d : Delivery) : Bool :=
  match event with
  | .ready priority index => d.priority = priority && d.index = index
  | .disconnected priority index => d.priority = priority && d.index = index
  | _ => false

end Delivery

/-- An update, by the number of the broadcast that it comes from and the priority of its stream. -/
structure Publication where
  tag : ℕ
  priority : Priority
  update : Update
  deriving DecidableEq, Repr

namespace MarketStreams

def sessions (s : MarketStreams) : Priority → List Session
  | .undefined => []
  | .primary => s.marketData1
  | .secondary => s.marketData2

/-- The sockets of a priority that have subscribed to a name. -/
def listenersOf (name : String) (priority : Priority) (xs : List Session) : List (Priority × ℕ) :=
  (xs.zipIdx.filter fun x => decide (name ∈ x.1.heard)).map fun x => (priority,x.2)

def listeners (name : String) (s : MarketStreams) : List (Priority × ℕ) :=
  listenersOf name .primary s.marketData1 ++ listenersOf name .secondary s.marketData2

end MarketStreams

/-- The streams with what the exchange has broadcast to them. The broadcasts are numbered; of
those that are exclusive the ones that any socket has subscribed to are `carried`, and `lost` if
a connection or the process has ended before they could be published. -/
structure MarketFeed (S : Type) where
  streams : MarketStreams
  instruments : Instruments.State S
  broadcasts : ℕ
  carried : List ℕ
  pending : List Delivery
  published : List Publication
  lost : List ℕ

namespace MarketFeed
variable {S : Type}

def tags (e : EnumParsers) (ds : List Delivery) : List ℕ :=
  (ds.filter (Delivery.exclusive e)).map Delivery.tag

def publishedTags (xs : List Publication) : List ℕ :=
  (xs.filter fun x => x.update.exclusive).map Publication.tag

/-- The data may arrive in any order; `depthAck` is a reply to the REST stream. -/
inductive Event
  | streams (event : MarketStreams.Event)
  | broadcast (name : String) (data : Json) (dataFirst : Bool)
  | receive (position : ℕ)
  | depthAck (streamId : ℕ) (symbol : String) (ack : DepthAck)

section
variable (feed : Feed S) (p : MessageParsers) (allowUnknownEventTypes : Bool)

def onStreams (event : MarketStreams.Event) (streams : MarketStreams) (s : MarketFeed S) :
    MarketFeed S :=
  {s with
    streams := streams, pending := s.pending.filter fun d => !d.broken event,
    lost := s.lost ++ tags p.toEnumParsers (s.pending.filter fun d => d.broken event)}

def onBroadcast (name : String) (data : Json) (dataFirst : Bool) (s : MarketFeed S) :
    MarketFeed S :=
  let listeners := s.streams.listeners name
  {s with
    broadcasts := s.broadcasts+1,
    carried := if exclusiveName p.toEnumParsers name && !listeners.isEmpty then s.carried ++ [s.broadcasts]
      else s.carried,
    pending := s.pending ++
      listeners.map fun x => ⟨s.broadcasts,x.1,x.2,name,data,dataFirst⟩}

/-- What the stream makes of the text. -/
def received (streamId : ℕ) (d : Delivery) (s : MarketFeed S) :
    Instruments.State S × List Update :=
  onText feed streamId p allowUnknownEventTypes d.message s.instruments

def onReceive (position : ℕ) (d : Delivery) (r : Instruments.State S × List Update)
    (s : MarketFeed S) : MarketFeed S :=
  {s with
    instruments := r.1, pending := s.pending.eraseIdx position,
    published := s.published ++ r.2.map fun update => ⟨d.tag,d.priority,update⟩,
    lost := s.lost ++ if r.1.ended then tags p.toEnumParsers [d] else []}

variable (settings : MarketData.Settings) (g : Slicing)

def next (s : MarketFeed S) (event : Event) : Option (MarketFeed S) :=
  if s.instruments.ended then none
  else
    match event with
    | .streams event =>
      (MarketStreams.next settings g s.streams event).map fun streams => s.onStreams p event streams
    | .broadcast name data dataFirst => some (s.onBroadcast p name data dataFirst)
    | .receive position =>
      match s.pending[position]? with
      | none => none
      | some d =>
        ((s.streams.sessions d.priority)[d.index]?).map fun x =>
          s.onReceive p position d (s.received feed p allowUnknownEventTypes x.stream.streamId d)
    | .depthAck streamId symbol ack =>
      some {s with instruments := (Instruments.onDepthAck feed streamId symbol ack s.instruments).1}

def machine (streamId : ℕ) : Machine (MarketFeed S) Event :=
  ⟨⟨⟨streamId,[],[],[]⟩,⟨fun _ => none,false⟩,0,[],[],[],[]⟩,
    next feed p allowUnknownEventTypes settings g⟩

end
end MarketFeed

namespace MarketData

theorem exclusiveName_channel (e : EnumParsers) {symbol : String} (h : '@' ∉ symbol.toList)
    (channel : String) : exclusiveName e (symbol ++ "@" ++ channel) =
      exclusiveSupport (supportOf (streamOf e channel)) := by
  rw [exclusiveName,parseStream_channel e h]
  rfl

/-- What comes of the channels of a priority is announced by its streams. -/
theorem announced_channels (e : EnumParsers) (settings : Settings) {priority : Priority} {channel : String}
    (h : channel ∈ channels settings priority) (hp : priority ≠ .undefined) {k : SupportType}
    (hk : supportOf (streamOf e channel) = some k) : k ∈ (getSupports priority).getD [] := by
  have hkline : supportOf (streamOf e "kline_1m") = none := by
    rcases streamOf_kline e with h | h
    · rw [h]; rfl
    · rw [h]; rfl
  have hdepth : supportOf (streamOf e (depth settings)) = some .marketByPrice := by
    rw [streamOf_depth]; rfl
  have hticker : supportOf (streamOf e "bookTicker") = some .topOfBook := by
    rw [streamOf_bookTicker]; rfl
  have htrade : supportOf (streamOf e "trade") = some .tradeSummary := by
    rw [streamOf_trade]; rfl
  have haggTrade : supportOf (streamOf e "aggTrade") = some .tradeSummary := by
    rw [streamOf_aggTrade]; rfl
  have hminiTicker : supportOf (streamOf e "miniTicker") = some .statistics := by
    rw [streamOf_miniTicker]; rfl
  rw [channels,List.mem_append,List.mem_append] at h
  rcases h with (h | h) | h
  · split_ifs at h with hprimary htrades
    · subst hprimary
      rcases List.mem_pair.mp h with rfl | rfl
      · rw [htrade] at hk; cases hk; decide
      · rw [hminiTicker] at hk; cases hk; decide
    · subst hprimary
      rcases List.mem_pair.mp h with rfl | rfl
      · rw [haggTrade] at hk; cases hk; decide
      · rw [hminiTicker] at hk; cases hk; decide
    · cases h
  · rcases List.mem_pair.mp h with rfl | rfl
    · rw [hticker] at hk; cases hk
      cases priority <;> first | exact absurd rfl hp | decide
    · rw [hdepth] at hk; cases hk
      cases priority <;> first | exact absurd rfl hp | decide
  · split_ifs at h
    · cases h
    · rw [List.mem_singleton.mp h,hkline] at hk
      cases hk

/-- A secondary stream announces neither trades nor statistics. -/
theorem not_exclusive_secondary (e : EnumParsers) (settings : Settings) {channel : String}
    (h : channel ∈ channels settings .secondary) :
    exclusiveSupport (supportOf (streamOf e channel)) = false := by
  cases hk : supportOf (streamOf e channel) with
  | none => rfl
  | some k =>
    have hmem := announced_channels e settings h (by decide) hk
    cases k <;> first | rfl | exact absurd hmem (by decide)

namespace Session
variable {settings : Settings} {getSlice : ℕ → ℕ → List String} {priority : Priority}
  {index : ℕ} {slice : List String} {s : Session}

/-- What has been queued since the last disconnect names channels of the priority and symbols
of the slice. -/
def Within (settings : Settings) (priority : Priority) (slice : List String) (s : Session) : Prop :=
  ∀ message ∈ s.before ++ s.queued, message.channel ∈ MarketData.channels settings priority ∧
    message.symbols ⊆ slice ∧ message.symbols ≠ []

theorem within_onSubscribe (startFrom : ℕ) (hk : s.stream.priority = priority)
    (hi : s.stream.index = index) (h : Within settings priority slice s) :
    Within settings priority (slice ++ getSlice index startFrom)
      (onSubscribe settings getSlice startFrom s) := by
  have hold : Within settings priority (slice ++ getSlice index startFrom) s := by
    intro message hm
    obtain ⟨hchannel,hsymbols,hne⟩ := h message hm
    exact ⟨hchannel,fun _ hs => List.mem_append_left _ (hsymbols hs),hne⟩
  cases hr : s.stream.ready with
  | false =>
    have hs : (onSubscribe settings getSlice startFrom s).queued = s.queued := by
      simp [onSubscribe, record, subscribe, hr]
    intro message hm
    rw [hs] at hm
    exact hold message hm
  | true =>
    obtain ⟨messages,hmessages⟩ :=
      subscribeSymbols_spec settings (getSlice s.stream.index startFrom) s.stream
    have hs : (onSubscribe settings getSlice startFrom s).queued = s.queued ++ messages := by
      simp [onSubscribe, record, subscribe, hr, hmessages.queue]
    intro message hm
    rw [hs,← List.append_assoc] at hm
    rcases List.mem_append.mp hm with hm | hm
    · exact hold message hm
    · have hchannels := hmessages.channels
      have hmem := List.mem_map_of_mem (f := SubscribeMessage.channel) hm
      rw [hchannels] at hmem
      split_ifs at hmem with hempty
      · cases hmem
      · rw [hmessages.symbols message hm]
        exact ⟨hk ▸ hmem,fun _ hs => List.mem_append_right _ (hi ▸ hs),hempty⟩

theorem within_onReady (hk : s.stream.priority = priority) (hi : s.stream.index = index)
    (h : Within settings priority (getSlice index 0) s) :
    Within settings priority (getSlice index 0) (onReady settings getSlice s) := by
  let y : Session :=
    ⟨{s.stream with connectionStatus := .ready},s.readys+1,s.before ++ s.queued,[],s.sent⟩
  have hready : onReady settings getSlice s = onSubscribe settings getSlice 0 y := by
    simp only [onReady, onSubscribe, record, MarketData.onReady, setConnectionStatus]
    split <;> simp [y, sentText]
  have hy : Within settings priority (getSlice index 0) y := by
    intro message hm
    exact h message ((List.append_nil _).subst hm)
  have hsub : Within settings priority (getSlice index 0 ++ getSlice index 0)
      (onSubscribe settings getSlice 0 y) :=
    within_onSubscribe 0 (show y.stream.priority = priority from hk) hi hy
  rw [hready]
  intro message hm
  obtain ⟨hchannel,hsymbols,hne⟩ := hsub message hm
  exact ⟨hchannel,fun _ hs => (List.mem_append.mp (hsymbols hs)).elim id id,hne⟩

theorem within_onDisconnected : Within settings priority slice (onDisconnected s) := by
  intro message hm
  cases hm

theorem within_onTimer (refresh : Bool) (allowed : ℕ) (h : Within settings priority slice s) :
    Within settings priority slice (onTimer refresh allowed s) := by
  rcases onTimer_eq refresh allowed s with hs | hs
  · rw [hs]; exact h
  · rw [hs]; exact h

/-- The exchange has heard no other names than those of the slice. -/
theorem mem_heard (h : Subscribed settings priority index slice s)
    (hw : Within settings priority slice s) (hslice : ∀ symbol ∈ slice, Unescaped symbol.toList)
    {name : String} (hn : name ∈ s.heard) : ∃ symbol ∈ slice,
      ∃ channel ∈ MarketData.channels settings priority, name = symbol ++ "@" ++ channel := by
  obtain ⟨message,hm,hn⟩ := List.mem_flatMap.mp hn
  have hmem : message ∈ s.before ++ s.queued := by
    rw [h.fifo]
    exact List.mem_append_left _ hm
  obtain ⟨hchannel,hsymbols,hne⟩ := hw message hmem
  have hplain : message.Plain :=
    ⟨fun symbol hs => hslice symbol (hsymbols hs),unescaped_channels settings priority _ hchannel,hne⟩
  rw [hplain.read_text] at hn
  obtain ⟨symbol,hs,rfl⟩ := List.mem_map.mp hn
  exact ⟨symbol,hsymbols hs,message.channel,hchannel,rfl⟩

end Session
end MarketData

namespace MarketStreams
variable {settings : MarketData.Settings} {g : Slicing}

/-- What holds of the stream at a position of one of the two lists. -/
structure Placed (settings : MarketData.Settings) (priority : Priority) (slice : ℕ → List String)
    (i : ℕ) (x : Session) : Prop where
  subscribed : Subscribed settings priority i (slice i) x
  within : Session.Within settings priority (slice i) x

/-- Every stream has subscribed to its slice, and to nothing else. -/
structure Ordered (settings : MarketData.Settings) (g : Slicing) (s : MarketStreams) : Prop where
  marketData1 : Indexed (Placed settings .primary fun i => g.getSlice s.symbols i 0) s.marketData1
  marketData2 : Indexed (Placed settings .secondary fun i => g.getSlice s.symbols i 0)
    s.marketData2

theorem kept_placed : Kept settings g (Placed settings) where
  create priority slice i streamId := by
    refine ⟨Session.subscribed_create settings streamId,?_⟩
    intro message hm
    cases hm
  onSubscribe priority symbols more i x hx := by
    have hsubscribed := Session.subscribed_onSubscribe settings (g.getSlice (symbols ++ more))
      symbols.length hx.subscribed
    have hwithin : Session.Within settings priority
        (g.getSlice symbols i 0 ++ g.getSlice (symbols ++ more) i symbols.length)
        (Session.onSubscribe settings (g.getSlice (symbols ++ more)) symbols.length x) :=
      Session.within_onSubscribe _ hx.subscribed.kind hx.subscribed.position hx.within
    rw [← g.getSlice_append] at hsubscribed hwithin
    exact ⟨hsubscribed,hwithin⟩
  onReady priority symbols i x hx :=
    ⟨Session.subscribed_onReady settings _ hx.subscribed,
      Session.within_onReady hx.subscribed.kind hx.subscribed.position hx.within⟩
  onDisconnected priority slice i x hx :=
    ⟨Session.subscribed_onDisconnected settings hx.subscribed,Session.within_onDisconnected⟩
  onTimer priority slice i x refresh allowed hx :=
    ⟨Session.subscribed_onTimer settings _ _ hx.subscribed,Session.within_onTimer _ _ hx.within⟩

theorem preserves_ordered (streamId : ℕ) :
    (machine settings g streamId).Preserves (Ordered settings g) := by
  intro s e s' h hn
  obtain ⟨hprimary,hsecondary⟩ :=
    kept_placed.preserves streamId s e s' ⟨h.marketData1,h.marketData2⟩ hn
  exact ⟨hprimary,hsecondary⟩

theorem ordered_init (streamId : ℕ) : Ordered settings g ⟨streamId,[],[],[]⟩ :=
  ⟨Indexed.nil,Indexed.nil⟩

/-- The symbols are told apart by their names, which the exchange reads as they are. -/
structure Distinct (symbols : List String) : Prop where
  nodup : symbols.Nodup
  unescaped : ∀ symbol ∈ symbols, Unescaped symbol.toList
  plain : ∀ symbol ∈ symbols, '@' ∉ symbol.toList

theorem Distinct.of_append {symbols more : List String} (h : Distinct (symbols ++ more)) :
    Distinct symbols where
  nodup := (List.nodup_append.mp h.nodup).1
  unescaped symbol hs := h.unescaped symbol (List.mem_append_left _ hs)
  plain symbol hs := h.plain symbol (List.mem_append_left _ hs)

theorem mem_of_mem_getSlice {symbols : List String} {i : ℕ} {symbol : String}
    (h : symbol ∈ g.getSlice symbols i 0) : symbol ∈ symbols := by
  obtain ⟨k,hk,-⟩ := g.exists_slot symbols i h
  exact List.mem_of_getElem? hk

theorem mem_listenersOf {name : String} {priority : Priority} {xs : List Session}
    {x : Priority × ℕ} : x ∈ listenersOf name priority xs ↔
      x.1 = priority ∧ ∃ session, xs[x.2]? = some session ∧ name ∈ session.heard := by
  obtain ⟨priority',i⟩ := x
  simp only [listenersOf, List.mem_map, List.mem_filter, decide_eq_true_eq, Prod.mk.injEq,
    Prod.exists, List.mk_mem_zipIdx_iff_getElem?]
  constructor
  · rintro ⟨session,i',⟨hsession,hname⟩,rfl,rfl⟩
    exact ⟨rfl,session,hsession,hname⟩
  · rintro ⟨rfl,session,hsession,hname⟩
    exact ⟨session,i,⟨hsession,hname⟩,rfl,rfl⟩

theorem nodup_listenersOf (name : String) (priority : Priority) (xs : List Session) :
    (listenersOf name priority xs).Nodup := by
  have hindex : (xs.zipIdx.map Prod.snd).Nodup := by
    rw [List.zipIdx_map_snd]
    exact List.nodup_range'
  have hfilter : ((xs.zipIdx.filter fun x => decide (name ∈ x.1.heard)).map Prod.snd).Nodup :=
    hindex.sublist (List.filter_sublist.map _)
  refine List.Nodup.of_map Prod.snd ?_
  rw [listenersOf,List.map_map]
  exact hfilter

/-- A listener has the symbol of the name in its slice. -/
theorem of_mem_listeners {s : MarketStreams} (h : Ordered settings g s) (hd : Distinct s.symbols)
    {name : String} {x : Priority × ℕ} (hx : x ∈ s.listeners name) : x.1 ≠ .undefined ∧
      ∃ symbol ∈ g.getSlice s.symbols x.2 0, ∃ channel ∈ MarketData.channels settings x.1,
        name = symbol ++ "@" ++ channel := by
  have hslice : ∀ symbol ∈ g.getSlice s.symbols x.2 0, Unescaped symbol.toList :=
    fun symbol hs => hd.unescaped symbol (mem_of_mem_getSlice hs)
  rcases List.mem_append.mp hx with hx | hx
  · obtain ⟨hp,session,hsession,hname⟩ := mem_listenersOf.mp hx
    have hplaced := h.marketData1 x.2 session hsession
    rw [hp]
    exact ⟨by decide,Session.mem_heard hplaced.subscribed hplaced.within hslice hname⟩
  · obtain ⟨hp,session,hsession,hname⟩ := mem_listenersOf.mp hx
    have hplaced := h.marketData2 x.2 session hsession
    rw [hp]
    exact ⟨by decide,Session.mem_heard hplaced.subscribed hplaced.within hslice hname⟩

theorem takeWhile_channel {symbol : String} (h : '@' ∉ symbol.toList) (channel : String) :
    (symbol ++ "@" ++ channel).toList.takeWhile (· ≠ '@') = symbol.toList := by
  have hname : (symbol ++ "@" ++ channel).toList = symbol.toList ++ '@'::channel.toList := by
    simp
  have hsymbol : ∀ c ∈ symbol.toList, decide (c ≠ '@') = true := by
    intro c hc
    exact decide_eq_true fun he => h (he ▸ hc)
  rw [hname,List.takeWhile_append_of_pos hsymbol,List.takeWhile_cons_of_neg (by simp),
    List.append_nil]

/-- A name of the exclusive kind has one listener at most, and a primary stream. -/
theorem listeners_exclusive {s : MarketStreams} (h : Ordered settings g s)
    (hd : Distinct s.symbols) {e : EnumParsers} {name : String} (he : exclusiveName e name = true) :
    (∀ x ∈ s.listeners name, x.1 = .primary) ∧
      ∀ x ∈ s.listeners name, ∀ y ∈ s.listeners name, x = y := by
  have hprimary : ∀ x ∈ s.listeners name, x.1 = .primary := by
    intro x hx
    obtain ⟨hundefined,symbol,hs,channel,hc,rfl⟩ := of_mem_listeners h hd hx
    rw [exclusiveName_channel e (hd.plain symbol (mem_of_mem_getSlice hs))] at he
    cases hp : x.1 with
    | undefined => exact absurd hp hundefined
    | primary => rfl
    | secondary =>
      rw [hp] at hc
      rw [not_exclusive_secondary e settings hc] at he
      cases he
  refine ⟨hprimary,fun x hx y hy => ?_⟩
  obtain ⟨-,symbol,hs,channel,-,hname⟩ := of_mem_listeners h hd hx
  obtain ⟨-,symbol',hs',channel',-,hname'⟩ := of_mem_listeners h hd hy
  have hlist := congrArg (fun name : String => name.toList.takeWhile (· ≠ '@'))
    (hname.symm.trans hname')
  simp only [takeWhile_channel (hd.plain symbol (mem_of_mem_getSlice hs)),
    takeWhile_channel (hd.plain symbol' (mem_of_mem_getSlice hs'))] at hlist
  rw [← String.toList_injective hlist] at hs'
  exact Prod.ext ((hprimary x hx).trans (hprimary y hy).symm)
    (g.slot_unique s.symbols x.2 hd.nodup hs hs')

theorem nodup_listeners (name : String) (s : MarketStreams) : (s.listeners name).Nodup := by
  refine List.nodup_append.mpr
    ⟨nodup_listenersOf name .primary _,nodup_listenersOf name .secondary _,?_⟩
  rintro x hx y hy rfl
  have hprimary := (mem_listenersOf.mp hx).1
  rw [(mem_listenersOf.mp hy).1] at hprimary
  cases hprimary

theorem listeners_eq {s : MarketStreams} (h : Ordered settings g s) (hd : Distinct s.symbols)
    {e : EnumParsers} {name : String} (he : exclusiveName e name = true) :
    s.listeners name = [] ∨ ∃ i, s.listeners name = [(.primary,i)] := by
  obtain ⟨hprimary,hunique⟩ := listeners_exclusive h hd he
  have hnodup := nodup_listeners name s
  cases hl : s.listeners name with
  | nil => exact .inl rfl
  | cons x xs =>
    rw [hl] at hprimary hunique hnodup
    have hx : x = (.primary,x.2) := Prod.ext (hprimary x List.mem_cons_self) rfl
    cases xs with
    | nil => exact .inr ⟨x.2,congrArg (· :: []) hx⟩
    | cons y ys =>
      have hxy := hunique x List.mem_cons_self y (List.mem_cons_of_mem x List.mem_cons_self)
      exact absurd (hxy ▸ List.mem_cons_self) (List.nodup_cons.mp hnodup).1

theorem symbols_next {s s' : MarketStreams} {event : Event}
    (h : next settings g s event = some s') : ∃ more, s'.symbols = s.symbols ++ more := by
  cases event with
  | symbolsUpdate symbols =>
    cases h
    refine ⟨symbols,?_⟩
    unfold onSymbolsUpdate ensureSymbolSlices
    dsimp only
    split_ifs
    · rfl
    · rfl
  | ready priority index =>
    cases h
    exact ⟨[],by cases priority <;> exact (List.append_nil _).symm⟩
  | disconnected priority index =>
    cases h
    exact ⟨[],by cases priority <;> exact (List.append_nil _).symm⟩
  | timer refresh allowed =>
    cases h
    exact ⟨[],(List.append_nil _).symm⟩
  | other =>
    cases h
    exact ⟨[],(List.append_nil _).symm⟩

end MarketStreams

namespace MarketFeed
variable {S : Type} {feed : Feed S} {p : MessageParsers} {allow : Bool}
  {settings : MarketData.Settings} {g : Slicing}

theorem tags_append (e : EnumParsers) (xs ys : List Delivery) :
    tags e (xs ++ ys) = tags e xs ++ tags e ys := by
  rw [tags,List.filter_append,List.map_append]
  rfl

theorem perm_tags (e : EnumParsers) {xs ys : List Delivery} (h : xs.Perm ys) :
    (tags e xs).Perm (tags e ys) :=
  (h.filter _).map _

theorem tags_singleton (e : EnumParsers) (d : Delivery) :
    tags e [d] = if d.exclusive e then [d.tag] else [] := by
  cases hd : d.exclusive e with
  | true => simp [tags, hd]
  | false => simp [tags, hd]

theorem publishedTags_append (xs ys : List Publication) :
    publishedTags (xs ++ ys) = publishedTags xs ++ publishedTags ys := by
  rw [publishedTags,List.filter_append,List.map_append]
  rfl

theorem publishedTags_map (tag : ℕ) (priority : Priority) (updates : List Update) :
    publishedTags (updates.map fun update => ⟨tag,priority,update⟩) =
      List.replicate (updates.filter Update.exclusive).length tag := by
  induction updates with
  | nil => rfl
  | cons update updates ih =>
    rw [List.map_cons,← List.singleton_append,publishedTags_append,ih]
    cases hu : update.exclusive with
    | true => simp [publishedTags, hu, List.replicate_succ]
    | false => simp [publishedTags, hu]

/-- The name of a delivery is that of a channel of its stream. -/
def Addressed (settings : MarketData.Settings) (d : Delivery) : Prop :=
  d.priority ≠ .undefined ∧ ∃ symbol channel, '@' ∉ symbol.toList ∧
    channel ∈ channels settings d.priority ∧ d.name = symbol ++ "@" ++ channel

/-- Each trade and statistic that a socket has subscribed to is found once; and what is published
has been announced. -/
structure Sound (e : EnumParsers) (settings : MarketData.Settings) (s : MarketFeed S) : Prop where
  addressed : ∀ d ∈ s.pending, Addressed settings d
  accounted : Accounted s.broadcasts s.carried (tags e s.pending) (publishedTags s.published) s.lost
  announced : ∀ x ∈ s.published, ∀ k, x.update.support = some k →
    k ∈ (getSupports x.priority).getD []

variable {s : MarketFeed S}

theorem sound_onStreams (h : Sound p.toEnumParsers settings s) (event : MarketStreams.Event)
    (streams : MarketStreams) :
    Sound p.toEnumParsers settings (s.onStreams p event streams) := by
  refine ⟨fun d hd => h.addressed d (List.mem_of_mem_filter hd),?_,h.announced⟩
  refine h.accounted.lose ?_
  rw [← tags_append]
  exact perm_tags _ (List.filter_append_perm (fun d => d.broken event) s.pending).symm

theorem sound_onBroadcast (h : Sound p.toEnumParsers settings s)
    (ho : MarketStreams.Ordered settings g s.streams)
    (hd : MarketStreams.Distinct s.streams.symbols) (name : String) (data : Json)
    (dataFirst : Bool) :
    Sound p.toEnumParsers settings (s.onBroadcast p name data dataFirst) := by
  refine ⟨?_,?_,h.announced⟩
  · intro d hmem
    rcases List.mem_append.mp hmem with hmem | hmem
    · exact h.addressed d hmem
    · obtain ⟨x,hx,rfl⟩ := List.mem_map.mp hmem
      obtain ⟨hp,symbol,hs,channel,hc,hname⟩ := MarketStreams.of_mem_listeners ho hd hx
      exact ⟨hp,symbol,channel,hd.plain symbol (MarketStreams.mem_of_mem_getSlice hs),hc,hname⟩
  · simp only [onBroadcast, tags_append]
    cases he : exclusiveName p.toEnumParsers name with
    | false =>
      have hnone : tags p.toEnumParsers ((s.streams.listeners name).map fun x =>
          (⟨s.broadcasts,x.1,x.2,name,data,dataFirst⟩ : Delivery)) = [] := by
        rw [tags,List.filter_eq_nil_iff.mpr]
        · rfl
        · intro d hd
          obtain ⟨x,-,rfl⟩ := List.mem_map.mp hd
          simp [Delivery.exclusive, he]
      rw [hnone]
      simpa using h.accounted.skip
    | true =>
      rcases MarketStreams.listeners_eq ho hd he with hl | ⟨i,hl⟩
      · rw [hl]
        simpa [tags] using h.accounted.skip
      · rw [hl]
        simpa [tags, Delivery.exclusive, he] using h.accounted.carry

/-- The data of a delivery, and what its name says. -/
theorem Addressed.stream (e : EnumParsers) {d : Delivery} (h : Addressed settings d) :
    ∃ symbol stream, parseStream e d.name = some (symbol,stream) ∧
      d.exclusive e = exclusiveSupport (supportOf stream) ∧
      ∀ k, supportOf stream = some k → k ∈ (getSupports d.priority).getD [] := by
  obtain ⟨hp,symbol,channel,hat,hc,hname⟩ := h
  refine ⟨toUpper symbol.toList,streamOf e channel,?_,?_,?_⟩
  · rw [hname]
    exact parseStream_channel e hat channel
  · rw [Delivery.exclusive,hname]
    exact exclusiveName_channel e hat channel
  · intro k hk
    exact announced_channels e settings hc hp hk

/-- What the stream of a delivery makes of it. -/
structure Receives (e : EnumParsers) (d : Delivery) (s : Instruments.State S)
    (r : Instruments.State S × List Update) : Prop where
  announced : ∀ update ∈ r.2, ∀ k, update.support = some k → k ∈ (getSupports d.priority).getD []
  other : d.exclusive e = false → r.2.filter Update.exclusive = []
  exclusive : d.exclusive e = true → r.1 = s ∧ (r.2.filter Update.exclusive).length = 1 ∨
    r.1.ended = true ∧ r.2.filter Update.exclusive = []

theorem Addressed.receives {d : Delivery} (h : Addressed settings d) (streamId : ℕ) :
    Receives p.toEnumParsers d s.instruments (s.received feed p allow streamId d) := by
  obtain ⟨symbol,stream,hparse,hexclusive,hsupports⟩ := h.stream p.toEnumParsers
  have hdata := d.isData_message
  refine ⟨?_,?_,?_⟩
  · intro update hu k hk
    exact hsupports k (support_onText feed streamId p allow s.instruments hparse hdata hu hk)
  · rw [hexclusive]
    exact exclusive_eq_nil_onText feed streamId p allow s.instruments hparse hdata
  · rw [hexclusive]
    exact exclusive_onText feed streamId p allow s.instruments hparse hdata

theorem sound_onReceive (h : Sound p.toEnumParsers settings s)
    (hend : s.instruments.ended = false) {position : ℕ} {d : Delivery} (hd : s.pending[position]? = some d)
    {r : Instruments.State S × List Update} 
    (hr : Receives p.toEnumParsers d s.instruments r) :
    Sound p.toEnumParsers settings (s.onReceive p position d r) := by
  obtain ⟨hlt,rfl⟩ := List.getElem?_eq_some_iff.mp hd
  have hperm : (tags p.toEnumParsers s.pending).Perm (tags p.toEnumParsers [s.pending[position]] ++
      tags p.toEnumParsers (s.pending.eraseIdx position)) := by
    rw [← tags_append]
    exact perm_tags _ (List.getElem_cons_eraseIdx_perm hlt).symm
  refine ⟨fun d hd => h.addressed d (List.mem_of_mem_eraseIdx hd),?_,?_⟩
  · simp only [onReceive, publishedTags_append, publishedTags_map]
    rw [tags_singleton] at hperm ⊢
    cases he : s.pending[position].exclusive p.toEnumParsers with
    | false =>
      rw [he] at hperm
      simpa [hr.other he] using h.accounted.lose hperm
    | true =>
      rw [he,if_pos rfl] at hperm
      rcases hr.exclusive he with ⟨hsame,hone⟩ | ⟨hended,hnone⟩
      · simpa [hsame, hend, hone] using h.accounted.deliver hperm
      · simpa [hended, hnone] using h.accounted.lose hperm
  · intro x hx k hk
    rcases List.mem_append.mp hx with hx | hx
    · exact h.announced x hx k hk
    · obtain ⟨update,hu,rfl⟩ := List.mem_map.mp hx
      exact hr.announced update hu k hk

/-- The symbols only grow, so that those of earlier states are distinct too. -/
def Invariant (e : EnumParsers) (settings : MarketData.Settings) (g : Slicing) (s : MarketFeed S) :
    Prop :=
  MarketStreams.Ordered settings g s.streams ∧
    (MarketStreams.Distinct s.streams.symbols → Sound e settings s)

theorem preserves_invariant (feed : Feed S) (p : MessageParsers) (allow : Bool)
    (settings : MarketData.Settings) (g : Slicing) (streamId : ℕ) :
    (machine feed p allow settings g streamId).Preserves
      (Invariant p.toEnumParsers settings g) := by
  rintro s e s' ⟨hordered,hsound⟩ hn
  change next feed p allow settings g s e = some s' at hn
  unfold next at hn
  split_ifs at hn with hended
  have hend : s.instruments.ended = false := by simpa using hended
  cases e with
  | streams event =>
    obtain ⟨streams,hstreams,rfl⟩ := Option.map_eq_some_iff.mp hn
    refine ⟨MarketStreams.preserves_ordered streamId _ _ _ hordered hstreams,fun hd => ?_⟩
    obtain ⟨more,hmore⟩ := MarketStreams.symbols_next hstreams
    change MarketStreams.Distinct streams.symbols at hd
    rw [hmore] at hd
    exact sound_onStreams (hsound hd.of_append) event streams
  | broadcast name data dataFirst =>
    cases hn
    exact ⟨hordered,fun hd => sound_onBroadcast (hsound hd) hordered hd name data dataFirst⟩
  | receive position =>
    dsimp only at hn
    cases hd : s.pending[position]? with
    | none => rw [hd] at hn; cases hn
    | some d =>
      rw [hd] at hn
      obtain ⟨x,-,rfl⟩ := Option.map_eq_some_iff.mp hn
      refine ⟨hordered,fun hdistinct => ?_⟩
      have h := hsound hdistinct
      exact sound_onReceive h hend hd ((h.addressed d (List.mem_of_getElem? hd)).receives _)
  | depthAck streamId symbol ack =>
    cases hn
    exact ⟨hordered,fun hd =>
      ⟨(hsound hd).addressed,(hsound hd).accounted,(hsound hd).announced⟩⟩

theorem invariant_init (feed : Feed S) (p : MessageParsers) (allow : Bool)
    (settings : MarketData.Settings) (g : Slicing) (streamId : ℕ) :
    Invariant p.toEnumParsers settings g (machine feed p allow settings g streamId).init := by
  refine ⟨MarketStreams.ordered_init streamId,fun _ => ⟨?_,Accounted.nil,?_⟩⟩
  · intro d hd
    cases hd
  · intro x hx
    cases hx

/-- Each broadcast of a trade or a statistic that a socket has subscribed to is on its way to one
stream, published once or lost with a connection or the process; every update is of a kind that
its stream has announced; and once the primary stream of a symbol has sent all of its
subscriptions, it is the one to which the trades and the statistics of the symbol go. -/
structure Distributed (e : EnumParsers) (settings : MarketData.Settings) (g : Slicing)
    (s : MarketFeed S) : Prop where
  carried : s.carried.Nodup
  accounted : (tags e s.pending ++ publishedTags s.published ++ s.lost).Perm s.carried
  once : (publishedTags s.published).Nodup
  announced : ∀ x ∈ s.published, ∀ k, x.update.support = some k →
    k ∈ (getSupports x.priority).getD []
  delivered : ∀ k symbol, s.streams.symbols[k]? = some symbol →
    ∀ channel ∈ channels settings .primary, exclusiveName e (symbol ++ "@" ++ channel) = true →
      ∀ x, s.streams.marketData1[g.slot k]? = some x → x.Drained →
        s.streams.listeners (symbol ++ "@" ++ channel) = [(.primary,g.slot k)]

theorem listeners_of_drained {s : MarketStreams} (h : MarketStreams.Ordered settings g s)
    (hd : MarketStreams.Distinct s.symbols) {k : ℕ} {symbol : String}
    (hk : s.symbols[k]? = some symbol) {channel : String}
    (hc : channel ∈ channels settings .primary)
    {e : EnumParsers} (he : exclusiveName e (symbol ++ "@" ++ channel) = true) {x : Session}
    (hx : s.marketData1[g.slot k]? = some x) (hdrained : x.Drained) :
    s.listeners (symbol ++ "@" ++ channel) = [(.primary,g.slot k)] := by
  have hplaced := h.marketData1 _ x hx
  have hnamed : x.Named := fun message hm =>
    (hplaced.within message (List.mem_append_right _ hm)).2.2
  have hperm := Session.perm_heard hplaced.subscribed hnamed
    (fun symbol hs => hd.unescaped symbol (MarketStreams.mem_of_mem_getSlice hs)) hdrained
  have hheard : symbol ++ "@" ++ channel ∈ x.heard := by
    refine hperm.mem_iff.mpr (List.mem_flatMap.mpr ⟨channel,hc,List.mem_map.mpr ⟨symbol,?_,rfl⟩⟩)
    exact g.mem_getSlice s.symbols hk
  have hmem : (.primary,g.slot k) ∈ s.listeners (symbol ++ "@" ++ channel) :=
    List.mem_append_left _ (MarketStreams.mem_listenersOf.mpr ⟨rfl,x,hx,hheard⟩)
  rcases MarketStreams.listeners_eq h hd he with hl | ⟨i,hl⟩
  · rw [hl] at hmem
    cases hmem
  · rw [hl] at hmem ⊢
    rw [List.mem_singleton.mp hmem]

/-- Over every run, as long as the symbols are distinct and plain, no trade and no statistic is
published twice, and none is lost but with a connection or the process. -/
theorem data_published_once {streamId : ℕ}
    (h : (machine feed p allow settings g streamId).Reachable s)
    (hd : MarketStreams.Distinct s.streams.symbols) :
    Distributed p.toEnumParsers settings g s := by
  obtain ⟨hordered,hsound⟩ := (preserves_invariant feed p allow settings g streamId).reachable
    (invariant_init feed p allow settings g streamId) h
  have hs := hsound hd
  refine ⟨hs.accounted.nodup,hs.accounted.perm,hs.accounted.nodup_delivered,hs.announced,?_⟩
  intro k symbol hk channel hc he x hx hdrained
  exact listeners_of_drained hordered hd hk hc he hx hdrained

/-- Generated parsers that read one trade. -/
def sampleParsers : MessageParsers where
  toEnumParsers := .sample
  error _ := none
  result _ := none
  serverShutdown _ := none
  aggTrade _ := some ⟨7,"BTCUSDT",12,some 100,some 1,6,true⟩
  trade _ := none
  miniTicker _ := none
  bookTicker _ := none
  depth _ := none
  depthUpdate _ := none
  int64 _ := none

/-- Both streams of the symbol are up when a trade is broadcast. -/
def broadcastRun : List Event :=
  [.streams (.symbolsUpdate ["btcusdt"]),.streams (.ready .primary 0),
    .streams (.ready .secondary 0),.streams (.timer (fun _ _ => true) (fun _ _ => 9)),
    .broadcast "btcusdt@aggTrade" .null false,.receive 0]

theorem data_published_once_sample : ∃ s : MarketFeed Unit,
    s.published.map Publication.tag = [0] ∧ s.pending.length = 0 ∧
      Distributed sampleParsers.toEnumParsers ⟨false,100000000,0,true⟩ (.blocks 2) s := by
  let M := machine Instruments.passThrough sampleParsers false ⟨false,100000000,0,true⟩ (.blocks 2) 3
  have htest : (M.run M.init broadcastRun).any (fun s =>
      decide (s.published.map Publication.tag = [0] ∧ s.pending.length = 0 ∧
        s.streams.symbols = ["btcusdt"])) = true := by decide +kernel
  obtain ⟨s,hs,ht⟩ := M.exists_reachable htest
  obtain ⟨hpublished,hpending,hsymbols⟩ := of_decide_eq_true ht
  refine ⟨s,hpublished,hpending,data_published_once hs ?_⟩
  rw [hsymbols]
  exact ⟨by decide,by decide,by decide⟩

end MarketFeed
end RoqBinance.Gateway
