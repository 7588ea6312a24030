import RoqBinance.Gateway.MarketData
import RoqBinance.Library.Machine
import RoqBinance.Library.Slices

/-! The market data streams of the controller, and the subscriptions that each of them makes
while symbols arrive and its socket comes and goes. -/
namespace RoqBinance.Gateway
open Library

namespace MarketData

/-- A stream with the messages it has queued and sent since its socket was last disconnected.
Those that it queued before the last ready event are kept apart. -/
structure Session where
  stream : MarketData
  readys : ℕ
  before : List SubscribeMessage
  queued : List SubscribeMessage
  sent : List SubscribeMessage
  deriving DecidableEq, Repr

def sentText : Output → Option SubscribeMessage
  | .sendText message => some message
  | _ => none

namespace Session

def create (streamId : ℕ) (priority : Priority) (index : ℕ) : Session :=
  ⟨MarketData.create streamId priority index,0,[],[],[]⟩

/-- Record what a handler adds to the queue and what it sends. -/
def record (f : Ctx → Ctx) (s : Session) : Session :=
  let ctx := f ⟨s.stream,[]⟩
  {s with
    stream := ctx.self,
    queued := s.queued ++ ctx.self.subscribeQueue.drop s.stream.subscribeQueue.length,
    sent := s.sent ++ ctx.outputs.filterMap sentText}

section
variable (settings : Settings) (getSlice : ℕ → ℕ → List String)

def onSubscribe (startFrom : ℕ) : Session → Session :=
  record fun ctx => {ctx with self := ctx.self.subscribe settings getSlice startFrom}

def onReady (s : Session) : Session :=
  record (MarketData.onReady settings getSlice)
    {s with readys := s.readys+1, before := s.before ++ s.queued, queued := []}

def onDisconnected (s : Session) : Session :=
  {record MarketData.onDisconnected s with readys := 0, before := [], queued := [], sent := []}

def onTimer (refresh : Bool) (allowed : ℕ) : Session → Session :=
  record (MarketData.onTimer refresh allowed)

end
end Session

/-- The symbols that messages name for a channel, in their order. -/
def mentions (channel : String) (messages : List SubscribeMessage) : List String :=
  (messages.filter fun message => decide (message.channel = channel)).flatMap SubscribeMessage.symbols

/-- The stream at a position is ready once its socket has been. What it has queued since the
last ready event then names every symbol of its slice once for each of its channels, and nothing
else. What it sends is what it has queued since the last disconnect, in order. -/
structure Subscribed (settings : Settings) (priority : Priority) (index : ℕ) (slice : List String)
    (s : Session) : Prop where
  position : s.stream.index = index
  kind : s.stream.priority = priority
  ready : s.stream.ready = true ↔ 0 < s.readys
  channels : ∀ message ∈ s.queued, message.channel ∈ MarketData.channels settings priority
  complete : s.stream.ready = true → ∀ channel ∈ MarketData.channels settings priority,
    mentions channel s.queued = slice
  fifo : s.before ++ s.queued = s.sent ++ s.stream.subscribeQueue
  first : s.readys ≤ 1 → s.before = []
  idle : s.readys = 0 → s.queued = []

/-- What has been sent on the connection and what waits for it name each symbol of the slice once
for each of the stream's channels, and nothing else. -/
structure Exact (settings : Settings) (priority : Priority) (slice : List String) (s : Session) :
    Prop where
  channels : ∀ message ∈ s.sent ++ s.stream.subscribeQueue,
    message.channel ∈ MarketData.channels settings priority
  complete : s.stream.ready = true → ∀ channel ∈ MarketData.channels settings priority,
    mentions channel (s.sent ++ s.stream.subscribeQueue) = slice
  once : s.stream.ready = true → slice.Nodup → ∀ channel ∈ MarketData.channels settings priority,
    ∀ symbol ∈ slice, (mentions channel (s.sent ++ s.stream.subscribeQueue)).count symbol = 1

/-- A socket that has come up once at most has nothing from an earlier connection. -/
theorem Subscribed.exact {settings : Settings} {priority : Priority} {index : ℕ}
    {slice : List String} {s : Session} (h : Subscribed settings priority index slice s)
    (hr : s.readys ≤ 1) : Exact settings priority slice s := by
  have hqueued : s.sent ++ s.stream.subscribeQueue = s.queued := by
    rw [← h.fifo,h.first hr,List.nil_append]
  refine ⟨?_,?_,?_⟩
  · rw [hqueued]
    exact h.channels
  · rw [hqueued]
    exact h.complete
  · rw [hqueued]
    intro hready hnodup channel hc symbol hs
    rw [h.complete hready channel hc]
    exact List.count_eq_one_of_mem hnodup hs

theorem mentions_append (channel : String) (xs ys : List SubscribeMessage) :
    mentions channel (xs ++ ys) = mentions channel xs ++ mentions channel ys := by
  simp [mentions]

theorem mentions_of_not_mem {channel : String} {messages : List SubscribeMessage}
    (h : channel ∉ messages.map SubscribeMessage.channel) : mentions channel messages = [] := by
  have hfilter : messages.filter (fun message => decide (message.channel = channel)) = [] := by
    apply List.filter_eq_nil_iff.mpr
    intro message hm
    simp only [decide_eq_true_eq]
    rintro rfl
    exact h (List.mem_map_of_mem hm)
  rw [mentions,hfilter,List.flatMap_nil]

theorem mentions_of_mem {channel : String} {messages : List SubscribeMessage} {symbols : List String}
    (hnodup : (messages.map SubscribeMessage.channel).Nodup)
    (hsymbols : ∀ message ∈ messages, message.symbols = symbols)
    (h : channel ∈ messages.map SubscribeMessage.channel) : mentions channel messages = symbols := by
  induction messages with
  | nil => cases h
  | cons message messages ih =>
    rw [List.map_cons,List.nodup_cons] at hnodup
    rw [← List.singleton_append,mentions_append]
    have hhead := hsymbols message List.mem_cons_self
    rcases List.mem_cons.mp h with rfl | h
    · rw [mentions_of_not_mem hnodup.1]
      simp [mentions, hhead]
    · have hne : message.channel ≠ channel := fun he => hnodup.1 (he ▸ h)
      rw [ih hnodup.2 (fun m hm => hsymbols m (List.mem_cons_of_mem message hm)) h]
      simp [mentions, hne]

theorem nodup_channels (settings : Settings) (priority : Priority) :
    (channels settings priority).Nodup := by
  have hdepth : ∀ channel ∈ ["trade","aggTrade","miniTicker","bookTicker","kline_1m"],
      depth settings ≠ channel := by
    intro channel hc he
    have hlist := congrArg String.toList he
    simp only [List.mem_cons, List.not_mem_nil, or_false] at hc
    rcases hc with rfl | rfl | rfl | rfl | rfl <;> simp [depth] at hlist
  simp only [List.forall_mem_cons, List.not_mem_nil, false_implies, implies_true, and_true] at hdepth
  obtain ⟨htrade,haggTrade,hminiTicker,hbookTicker,hkline⟩ := hdepth
  unfold channels
  split_ifs <;>
    simp [Ne.symm htrade, Ne.symm haggTrade, Ne.symm hminiTicker, Ne.symm hbookTicker, hkline]

namespace Session
variable (settings : Settings) (getSlice : ℕ → ℕ → List String) {priority : Priority} {index : ℕ}
  {slice : List String} {s : Session}

def enqueue (requestId : UInt64) (messages : List SubscribeMessage) (s : Session) : Session where
  stream :=
    {s.stream with
      requestId := requestId, subscribeQueue := s.stream.subscribeQueue ++ messages}
  readys := s.readys
  before := s.before
  queued := s.queued ++ messages
  sent := s.sent

/-- What is queued names the symbols once for each channel. -/
theorem onSubscribe_spec (startFrom : ℕ) (s : Session) :
    ∃ requestId messages,
      onSubscribe settings getSlice startFrom s = enqueue requestId messages s ∧
      (∀ message ∈ messages,
        message.channel ∈ MarketData.channels settings s.stream.priority) ∧
      (s.stream.ready = false → messages = []) ∧
      (s.stream.ready = true → ∀ channel ∈ MarketData.channels settings s.stream.priority,
        mentions channel messages = getSlice s.stream.index startFrom) := by
  cases hr : s.stream.ready with
  | false =>
    refine ⟨s.stream.requestId,[],?_,by simp,fun _ => rfl,by simp⟩
    simp [onSubscribe, record, subscribe, hr, enqueue]
  | true =>
    obtain ⟨messages,hm⟩ :=
      subscribeSymbols_spec settings (getSlice s.stream.index startFrom) s.stream
    obtain ⟨requestId,hf⟩ := hm.frame
    have hstream : s.stream.subscribe settings getSlice startFrom =
        (enqueue requestId messages s).stream := by
      rw [subscribe,if_pos hr,hf,hm.queue]
      rfl
    refine ⟨requestId,messages,?_,?_,by simp,?_⟩
    · simp only [onSubscribe, record, hstream]
      simp [enqueue]
    · intro message hmem
      have hc : message.channel ∈ messages.map SubscribeMessage.channel := List.mem_map_of_mem hmem
      rw [hm.channels] at hc
      split_ifs at hc
      · cases hc
      · exact hc
    · intro _ channel hc
      by_cases hslice : getSlice s.stream.index startFrom = []
      · have hnil := hm.channels
        rw [if_pos hslice,List.map_eq_nil_iff] at hnil
        rw [hnil,hslice]
        rfl
      · have hchannels := hm.channels
        rw [if_neg hslice] at hchannels
        apply mentions_of_mem (hchannels ▸ nodup_channels settings s.stream.priority) hm.symbols
        exact hchannels ▸ hc

theorem subscribed_create (streamId : ℕ) :
    Subscribed settings priority index slice (create streamId priority index) :=
  ⟨rfl,rfl,by simp [create, MarketData.create, ready],by simp [create],
    by simp [create, MarketData.create, ready],rfl,fun _ => rfl,fun _ => rfl⟩

/-- More of the slice. -/
theorem subscribed_onSubscribe (startFrom : ℕ) (h : Subscribed settings priority index slice s) :
    Subscribed settings priority index (slice ++ getSlice index startFrom)
      (onSubscribe settings getSlice startFrom s) := by
  obtain ⟨requestId,messages,hs,hchannels,hidle,hcomplete⟩ :=
    onSubscribe_spec settings getSlice startFrom s
  rw [hs]
  refine ⟨h.position,h.kind,h.ready,?_,?_,?_,h.first,?_⟩
  · intro message hm
    rcases List.mem_append.mp hm with hm | hm
    · exact h.channels message hm
    · exact h.kind ▸ hchannels message hm
  · intro hr channel hc
    change mentions channel (s.queued ++ messages) = _
    rw [mentions_append,h.complete hr channel hc,hcomplete hr channel (h.kind.symm ▸ hc),h.position]
  · change s.before ++ (s.queued ++ messages) = s.sent ++ (s.stream.subscribeQueue ++ messages)
    rw [← List.append_assoc,h.fifo,List.append_assoc]
  · intro hr
    have hready : s.stream.ready = false := by
      rw [Bool.eq_false_iff,Ne,h.ready]
      exact Nat.not_lt.mpr hr.le
    change s.queued ++ messages = []
    rw [h.idle hr,hidle hready,List.append_nil]

/-- A ready event begins the list of queued messages anew, with the whole slice. -/
theorem subscribed_onReady (h : Subscribed settings priority index slice s) :
    Subscribed settings priority index (getSlice index 0) (onReady settings getSlice s) := by
  let y : Session :=
    ⟨{s.stream with connectionStatus := .ready},s.readys+1,s.before ++ s.queued,[],s.sent⟩
  have hy : Subscribed settings priority index [] y := by
    refine ⟨h.position,h.kind,by simp [y, ready],by simp [y],?_,?_,?_,by simp [y]⟩
    · intro _ channel _
      rfl
    · change s.before ++ s.queued ++ [] = s.sent ++ s.stream.subscribeQueue
      rw [List.append_nil,h.fifo]
    · intro hr
      have hzero : s.readys = 0 := by simpa [y] using hr
      change s.before ++ s.queued = []
      rw [h.first (by omega),h.idle hzero,List.append_nil]
  have hready : onReady settings getSlice s = onSubscribe settings getSlice 0 y := by
    simp only [onReady, onSubscribe, record, MarketData.onReady, setConnectionStatus]
    split <;> simp [y, sentText]
  rw [hready,← List.nil_append (getSlice index 0)]
  exact subscribed_onSubscribe settings getSlice 0 hy

/-- Whatever was in the queue is never sent. -/
theorem subscribed_onDisconnected (h : Subscribed settings priority index slice s) :
    Subscribed settings priority index slice (onDisconnected s) := by
  have hstream : (onDisconnected s).stream =
      {s.stream with connectionStatus := .disconnected, subscribeQueue := []} := by
    simp only [onDisconnected, record, MarketData.onDisconnected, setConnectionStatus]
    split <;> rfl
  have hready : (onDisconnected s).stream.ready = false := by rw [hstream]; rfl
  refine ⟨by rw [hstream]; exact h.position,by rw [hstream]; exact h.kind,?_,?_,?_,?_,?_,?_⟩
  · rw [hready]; simp [onDisconnected]
  · simp [onDisconnected]
  · simp [hready]
  · rw [hstream]; rfl
  · intro _; rfl
  · intro _; rfl

theorem onTimer_eq (refresh : Bool) (allowed : ℕ) (s : Session) :
    onTimer refresh allowed s = s ∨ onTimer refresh allowed s =
      {s with
        stream := {s.stream with subscribeQueue := s.stream.subscribeQueue.drop allowed},
        sent := s.sent ++ s.stream.subscribeQueue.take allowed} := by
  by_cases h : refresh = true ∧ s.stream.ready = true
  · right
    have htexts : ((s.stream.subscribeQueue.map Output.sendText).take allowed).filterMap sentText =
        s.stream.subscribeQueue.take allowed := by
      rw [← List.map_take,List.filterMap_map]
      exact List.filterMap_some
    simp [onTimer, record, MarketData.onTimer, checkSubscribeQueue, h.1, h.2, htexts]
  · left
    have htimer : MarketData.onTimer refresh allowed ⟨s.stream,[]⟩ = ⟨s.stream,[]⟩ := by
      unfold MarketData.onTimer
      split_ifs with h1 h2
      · exact absurd ⟨h1,h2⟩ h
      · rfl
      · rfl
    simp [onTimer, record, htimer]

theorem subscribed_onTimer (refresh : Bool) (allowed : ℕ)
    (h : Subscribed settings priority index slice s) :
    Subscribed settings priority index slice (onTimer refresh allowed s) := by
  rcases onTimer_eq refresh allowed s with hs | hs
  · rw [hs]; exact h
  · rw [hs]
    refine ⟨h.position,h.kind,h.ready,h.channels,h.complete,?_,h.first,h.idle⟩
    change s.before ++ s.queued = s.sent ++ s.stream.subscribeQueue.take allowed ++
      s.stream.subscribeQueue.drop allowed
    rw [List.append_assoc,List.take_append_drop,h.fifo]

end Session
end MarketData

/-- The streams of the two priorities, by the index of their slice, and the symbols. -/
structure MarketStreams where
  streamId : ℕ
  symbols : List String
  marketData1 : List MarketData.Session
  marketData2 : List MarketData.Session
  deriving DecidableEq, Repr

namespace MarketStreams
open MarketData

/-- `other` is a stream of another kind, which takes a stream id. -/
inductive Event
  | symbolsUpdate (symbols : List String)
  | ready (priority : Priority) (index : ℕ)
  | disconnected (priority : Priority) (index : ℕ)
  | timer (refresh : Priority → ℕ → Bool) (allowed : Priority → ℕ → ℕ)
  | other

section
variable (settings : Settings) (g : Slicing)

/-- One more stream, for the next slice. -/
def helper (priority : Priority) (p : List Session × ℕ) : List Session × ℕ :=
  (p.1 ++ [Session.create (p.2+1) priority p.1.length],p.2+1)

/-- The loop runs once for each slice without a stream. -/
def ensure (priority : Priority) (size : ℕ) (p : List Session × ℕ) : List Session × ℕ :=
  (helper priority)^[size-p.1.length] p

def ensureSymbolSlices (size : ℕ) (s : MarketStreams) : MarketStreams :=
  let p := ensure .primary size (s.marketData1,s.streamId)
  let s := {s with marketData1 := p.1, streamId := p.2}
  if settings.enableSecondary then
    let p := ensure .secondary size (s.marketData2,s.streamId)
    {s with marketData2 := p.1, streamId := p.2}
  else s

def slice (s : MarketStreams) (index startFrom : ℕ) : List String :=
  g.getSlice s.symbols index startFrom

def onSymbolsUpdate (symbols : List String) (s : MarketStreams) : MarketStreams :=
  let startFrom := s.symbols.length
  let s := {s with symbols := s.symbols ++ symbols}
  let s := ensureSymbolSlices settings (g.slices s.symbols.length) s
  {s with
    marketData1 := s.marketData1.map (Session.onSubscribe settings (s.slice g) startFrom),
    marketData2 := s.marketData2.map (Session.onSubscribe settings (s.slice g) startFrom)}

/-- A handler of one of the streams. -/
def modify (priority : Priority) (index : ℕ) (f : Session → Session) (s : MarketStreams) :
    MarketStreams :=
  match priority with
  | .undefined => s
  | .primary => {s with marketData1 := s.marketData1.modify index f}
  | .secondary => {s with marketData2 := s.marketData2.modify index f}

def next (s : MarketStreams) (event : Event) : Option MarketStreams :=
  match event with
  | .symbolsUpdate symbols => some (onSymbolsUpdate settings g symbols s)
  | .ready priority index => some (s.modify priority index (Session.onReady settings (s.slice g)))
  | .disconnected priority index => some (s.modify priority index Session.onDisconnected)
  | .timer refresh allowed =>
    some {s with
      marketData1 := s.marketData1.mapIdx fun i =>
        Session.onTimer (refresh .primary i) (allowed .primary i),
      marketData2 := s.marketData2.mapIdx fun i =>
        Session.onTimer (refresh .secondary i) (allowed .secondary i)}
  | .other => some {s with streamId := s.streamId+1}

/-- The streams of the accounts have taken the first stream ids. -/
def machine (streamId : ℕ) : Machine MarketStreams Event :=
  ⟨⟨streamId,[],[],[]⟩,next settings g⟩

end

/-- One stream of each priority for a slice, if that priority is enabled. -/
structure Complete (settings : Settings) (g : Slicing) (s : MarketStreams) : Prop where
  primary : s.marketData1.length = g.slices s.symbols.length
  secondary : s.marketData2.length =
    if settings.enableSecondary then g.slices s.symbols.length else 0
  marketData1 : Indexed (fun i => Subscribed settings .primary i (g.getSlice s.symbols i 0))
    s.marketData1
  marketData2 : Indexed (fun i => Subscribed settings .secondary i (g.getSlice s.symbols i 0))
    s.marketData2

section
variable {settings : Settings} {g : Slicing} {priority : Priority}

theorem length_ensure (size : ℕ) (p : List Session × ℕ) :
    (ensure priority size p).1.length = p.1.length+(size-p.1.length) := by
  unfold ensure
  generalize size-p.1.length = n
  induction n generalizing p with
  | zero => rfl
  | succ n ih =>
    rw [Function.iterate_succ_apply,ih (helper priority p),helper,List.length_append]
    simp only [List.length_singleton]
    omega

theorem indexed_ensure {P : ℕ → Session → Prop}
    (hP : ∀ i streamId, P i (Session.create streamId priority i)) (size : ℕ)
    {p : List Session × ℕ} (h : Indexed P p.1) : Indexed P (ensure priority size p).1 := by
  unfold ensure
  generalize size-p.1.length = n
  induction n generalizing p with
  | zero => exact h
  | succ n ih =>
    rw [Function.iterate_succ_apply]
    exact ih (h.concat (hP _ _))

theorem indexed_onSubscribe {s : MarketStreams} (symbols : List String) {sessions : List Session}
    (h : Indexed (fun i => Subscribed settings priority i (g.getSlice s.symbols i 0)) sessions) :
    Indexed (fun i => Subscribed settings priority i (g.getSlice (s.symbols ++ symbols) i 0))
      (sessions.map (Session.onSubscribe settings (g.getSlice (s.symbols ++ symbols))
        s.symbols.length)) := by
  refine h.map
    (Q := fun i => Subscribed settings priority i (g.getSlice (s.symbols ++ symbols) i 0)) ?_
  intro i x hx
  rw [g.getSlice_append]
  exact Session.subscribed_onSubscribe settings (g.getSlice (s.symbols ++ symbols))
    s.symbols.length hx

/-- The streams that are created start without symbols. -/
theorem indexed_ensure_subscribed (slice : ℕ → List String) (size : ℕ) {p : List Session × ℕ}
    (h : Indexed (fun i => Subscribed settings priority i (slice i)) p.1) :
    Indexed (fun i => Subscribed settings priority i (slice i)) (ensure priority size p).1 :=
  indexed_ensure (P := fun i => Subscribed settings priority i (slice i))
    (fun _ streamId => Session.subscribed_create settings streamId) size h

theorem complete_onSymbolsUpdate {s : MarketStreams} (symbols : List String)
    (h : Complete settings g s) : Complete settings g (onSymbolsUpdate settings g symbols s) := by
  have hmono : g.slices s.symbols.length ≤ g.slices (s.symbols ++ symbols).length :=
    g.slices_mono (by simp)
  have hlength : ∀ p (q : List Session × ℕ), q.1.length = g.slices s.symbols.length →
      (ensure p (g.slices (s.symbols ++ symbols).length) q).1.length =
        g.slices (s.symbols ++ symbols).length := by
    intro p q hq
    rw [length_ensure,hq]
    omega
  have hgrow : ∀ p (q : List Session × ℕ),
      Indexed (fun i => Subscribed settings p i (g.getSlice s.symbols i 0)) q.1 →
      Indexed (fun i => Subscribed settings p i (g.getSlice s.symbols i 0))
        (ensure p (g.slices (s.symbols ++ symbols).length) q).1 := fun p q hq =>
    indexed_ensure_subscribed (fun i => g.getSlice s.symbols i 0) _ hq
  cases hsecondary : settings.enableSecondary with
  | true =>
    have hlen2 : s.marketData2.length = g.slices s.symbols.length := by
      simpa [hsecondary] using h.secondary
    simp only [onSymbolsUpdate, ensureSymbolSlices, hsecondary, if_true]
    exact ⟨by simpa using hlength .primary (s.marketData1,s.streamId) h.primary,
      by simpa [hsecondary] using hlength .secondary (s.marketData2,_) hlen2,
      indexed_onSubscribe symbols (hgrow .primary (s.marketData1,s.streamId) h.marketData1),
      indexed_onSubscribe symbols (hgrow .secondary (s.marketData2,_) h.marketData2)⟩
  | false =>
    have hlen2 : s.marketData2.length = 0 := by simpa [hsecondary] using h.secondary
    simp only [onSymbolsUpdate, ensureSymbolSlices, hsecondary, Bool.false_eq_true, if_false]
    exact ⟨by simpa using hlength .primary (s.marketData1,s.streamId) h.primary,
      by simpa [hsecondary] using hlen2,
      indexed_onSubscribe symbols (hgrow .primary (s.marketData1,s.streamId) h.marketData1),
      indexed_onSubscribe symbols h.marketData2⟩

theorem complete_modify {s : MarketStreams} (p : Priority) (index : ℕ) {f : Session → Session}
    (hf : ∀ p i x, Subscribed settings p i (g.getSlice s.symbols i 0) x →
      Subscribed settings p i (g.getSlice s.symbols i 0) (f x))
    (h : Complete settings g s) : Complete settings g (s.modify p index f) := by
  cases p with
  | undefined => exact h
  | primary =>
    exact ⟨by simpa [modify] using h.primary,h.secondary,
      h.marketData1.modify index (hf .primary),h.marketData2⟩
  | secondary =>
    exact ⟨h.primary,by simpa [modify] using h.secondary,
      h.marketData1,h.marketData2.modify index (hf .secondary)⟩

theorem preserves_complete (streamId : ℕ) :
    (machine settings g streamId).Preserves (Complete settings g) := by
  intro s e s' h hn
  cases e with
  | symbolsUpdate symbols =>
    cases hn
    exact complete_onSymbolsUpdate symbols h
  | ready p index =>
    cases hn
    exact complete_modify p index
      (fun _ _ _ hx => Session.subscribed_onReady settings (s.slice g) hx) h
  | disconnected p index =>
    cases hn
    exact complete_modify p index (fun _ _ _ hx => Session.subscribed_onDisconnected settings hx) h
  | timer refresh allowed =>
    cases hn
    exact ⟨by simpa using h.primary,by simpa using h.secondary,
      h.marketData1.mapIdx fun _ _ hx => Session.subscribed_onTimer settings _ _ hx,
      h.marketData2.mapIdx fun _ _ hx => Session.subscribed_onTimer settings _ _ hx⟩
  | other =>
    cases hn
    exact ⟨h.primary,h.secondary,h.marketData1,h.marketData2⟩

theorem complete_init (streamId : ℕ) : Complete settings g ⟨streamId,[],[],[]⟩ :=
  ⟨g.slices_zero.symm,by simp [g.slices_zero],Indexed.nil,Indexed.nil⟩

/-- In every run each slice has one stream of each priority that is enabled, and each of these
streams has subscribed to its slice. -/
theorem subscriptions_complete {streamId : ℕ} {s : MarketStreams}
    (h : (machine settings g streamId).Reachable s) : Complete settings g s :=
  (preserves_complete streamId).reachable (complete_init streamId) h

/-- A socket that is up does not come up. -/
def Alternates (s : MarketStreams) : Event → Prop
  | .ready .primary index => ∀ x, s.marketData1[index]? = some x → x.readys = 0
  | .ready .secondary index => ∀ x, s.marketData2[index]? = some x → x.readys = 0
  | _ => True

def UpOnce (sessions : List Session) : Prop := Indexed (fun _ x => x.readys ≤ 1) sessions

theorem upOnce_onSubscribe (getSlice : ℕ → ℕ → List String) (startFrom : ℕ)
    {sessions : List Session} (h : UpOnce sessions) :
    UpOnce (sessions.map (Session.onSubscribe settings getSlice startFrom)) :=
  h.map fun _ _ hx => hx

theorem upOnce_ensure (size : ℕ) {p : List Session × ℕ} (h : UpOnce p.1) :
    UpOnce (ensure priority size p).1 :=
  indexed_ensure (P := fun _ x => x.readys ≤ 1) (fun _ _ => Nat.zero_le 1) size h

theorem upOnce_next {streamId : ℕ} {s s' : MarketStreams} {e : Event} (ha : Alternates s e)
    (hn : (machine settings g streamId).next s e = some s')
    (h : UpOnce s.marketData1 ∧ UpOnce s.marketData2) :
    UpOnce s'.marketData1 ∧ UpOnce s'.marketData2 := by
  have hready : ∀ {sessions : List Session} {index : ℕ}, UpOnce sessions →
      (∀ x, sessions[index]? = some x → x.readys = 0) →
        UpOnce (sessions.modify index (Session.onReady settings (s.slice g))) := by
    intro sessions index hup hdown
    refine hup.modifyAt index fun x hx => ?_
    change x.readys+1 ≤ 1
    rw [hdown x hx]
  have hdisconnected : ∀ {sessions : List Session} (index : ℕ), UpOnce sessions →
      UpOnce (sessions.modify index Session.onDisconnected) := fun index hup =>
    hup.modify index fun _ _ _ => Nat.zero_le 1
  cases e with
  | symbolsUpdate symbols =>
    cases hn
    refine ⟨upOnce_onSubscribe _ _ ?_,upOnce_onSubscribe _ _ ?_⟩
    · unfold ensureSymbolSlices
      split_ifs
      · exact upOnce_ensure _ h.1
      · exact upOnce_ensure _ h.1
    · unfold ensureSymbolSlices
      split_ifs
      · exact upOnce_ensure _ h.2
      · exact h.2
  | ready priority index =>
    cases hn
    cases priority with
    | undefined => exact h
    | primary => exact ⟨hready h.1 ha,h.2⟩
    | secondary => exact ⟨h.1,hready h.2 ha⟩
  | disconnected priority index =>
    cases hn
    cases priority with
    | undefined => exact h
    | primary => exact ⟨hdisconnected index h.1,h.2⟩
    | secondary => exact ⟨h.1,hdisconnected index h.2⟩
  | timer refresh allowed =>
    cases hn
    exact ⟨h.1.mapIdx fun _ _ hx => hx,h.2.mapIdx fun _ _ hx => hx⟩
  | other =>
    cases hn
    exact h

/-- Where no socket comes up that is up already, what a stream has sent since its last disconnect
and what it has in its queue are exactly its subscriptions. -/
theorem subscriptions_exact {streamId : ℕ} {es : List Event} {s : MarketStreams}
    (hsteps : (machine settings g streamId).Steps (fun s e _ => Alternates s e)
      (machine settings g streamId).init es)
    (hr : (machine settings g streamId).run (machine settings g streamId).init es = some s) :
    Indexed (fun i => Exact settings .primary (g.getSlice s.symbols i 0)) s.marketData1 ∧
      Indexed (fun i => Exact settings .secondary (g.getSlice s.symbols i 0)) s.marketData2 := by
  have hcomplete := (preserves_complete streamId).run (complete_init streamId) hr
  have hup : UpOnce s.marketData1 ∧ UpOnce s.marketData2 :=
    Machine.Steps.preserves (I := fun s : MarketStreams => UpOnce s.marketData1 ∧ UpOnce s.marketData2)
      (fun _ _ _ ha h hn => upOnce_next ha hn h) hsteps ⟨Indexed.nil,Indexed.nil⟩ hr
  exact ⟨fun i x hx => (hcomplete.marketData1 i x hx).exact (hup.1 i x hx),
    fun i x hx => (hcomplete.marketData2 i x hx).exact (hup.2 i x hx)⟩

/-- Every symbol is in the slice of a stream. -/
theorem mem_slice {streamId : ℕ} {s : MarketStreams}
    (h : (machine settings g streamId).Reachable s) {k : ℕ} {symbol : String}
    (hk : s.symbols[k]? = some symbol) :
    g.slot k < s.marketData1.length ∧ symbol ∈ g.getSlice s.symbols (g.slot k) 0 := by
  have hlt : k < s.symbols.length := (List.getElem?_eq_some_iff.mp hk).1
  have hc := (preserves_complete streamId).reachable (complete_init streamId) h
  exact ⟨hc.primary ▸ g.slot_lt hlt,g.mem_getSlice s.symbols hk⟩

end

/-- A symbol arrives while the first stream is ready; then its socket comes back. -/
def sample : List Event :=
  [.symbolsUpdate ["btcusdt","ethusdt"],.ready .primary 0,.symbolsUpdate ["bnbusdt"],
    .timer (fun _ _ => true) (fun _ _ => 3),.disconnected .primary 0,.symbolsUpdate ["xrpusdt"],
    .ready .primary 0,.ready .secondary 1]

def sampleReached (s : MarketStreams) : Bool :=
  decide ((s.marketData1.length = 2 ∧ s.marketData2.length = 2) ∧
    (s.marketData1.map fun x => x.queued.length) = [4,0])

theorem subscriptions_complete_sample :
    ∃ s : MarketStreams, (s.marketData1.length = 2 ∧ s.marketData2.length = 2) ∧
      (s.marketData1.map fun x => x.queued.length) = [4,0] ∧
        Complete ⟨false,100000000,0,true⟩ (.blocks 2) s := by
  obtain ⟨s,hs,ht⟩ := (machine ⟨false,100000000,0,true⟩ (.blocks 2) 3).exists_reachable
    (show ((machine ⟨false,100000000,0,true⟩ (.blocks 2) 3).run
      (machine ⟨false,100000000,0,true⟩ (.blocks 2) 3).init sample).any sampleReached = true by
        decide)
  obtain ⟨hlength,hqueued⟩ := of_decide_eq_true ht
  exact ⟨s,hlength,hqueued,subscriptions_complete hs⟩

end MarketStreams
end RoqBinance.Gateway
