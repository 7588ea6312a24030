import RoqBinance.Gateway.Messages
import RoqBinance.Gateway.Subscriptions

/-! What the exchange reads in the messages by which a market data stream subscribes. -/
namespace RoqBinance.Gateway
open Library

namespace SubscribeMessage

def readName : Json → Option String
  | .string name => some name
  | _ => none

def readFields (method params id : Option Json) : Option (String × List String) :=
  match method, params, id with
  | some (.string method), some (.array items), some (.number id) =>
    if method = "SUBSCRIBE" then (items.mapM readName).map fun names => (id,names) else none
  | _, _, _ => none

/-- The id of a request to subscribe, and the names of the streams in it. -/
def read (text : Text) : Option (String × List String) :=
  match Json.read text with
  | some (.object fields) =>
    readFields (fields.lookup "method") (fields.lookup "params") (fields.lookup "id")
  | _ => none

/-- The symbols and the channel stand for themselves. -/
structure Plain (message : SubscribeMessage) : Prop where
  symbols : ∀ symbol ∈ message.symbols, Unescaped symbol.toList
  channel : Unescaped message.channel.toList
  nonempty : message.symbols ≠ []

def fields (message : SubscribeMessage) : List (String × Json) :=
  [("method",.string "SUBSCRIBE"),("params",.array (message.params.map .string)),
    ("id",.number (toString message.id.toNat))]

theorem writeItems_strings (name : String) (names : List String) :
    Json.writeItems ((name::names).map .string) =
      (",".intercalate ((name::names).map quote)).toList := by
  have hquote : ∀ name : String, (quote name).toList = Object.writeText name.toList := by
    intro name
    simp [quote, Object.writeText]
  induction names generalizing name with
  | nil => simp [Json.writeItems, Json.writeMoreItems, Json.write, hquote]
  | cons next names ih =>
    have hnext := ih next
    rw [List.map_cons] at hnext
    rw [List.map_cons,List.map_cons,List.map_cons,List.map_cons,String.intercalate_cons_cons,
      Json.writeItems,Json.writeMoreItems_cons,hnext,List.map_cons]
    simp [Json.write, hquote]

theorem text_eq_write {message : SubscribeMessage} (h : message.symbols ≠ []) :
    message.text.toList = Json.write (.object message.fields) := by
  obtain ⟨symbol,symbols,hs⟩ := List.exists_cons_of_ne_nil h
  have hitems := writeItems_strings (symbol ++ "@" ++ message.channel)
    (symbols.map fun symbol => symbol ++ "@" ++ message.channel)
  have hparams : message.params = (symbol ++ "@" ++ message.channel)::
      symbols.map fun symbol => symbol ++ "@" ++ message.channel := by
    rw [params,hs,List.map_cons]
  rw [← hparams] at hitems
  rw [text_eq h]
  unfold enclose fields
  simp [Json.write, Json.writeFields, Json.writeMoreFields, Object.writeText, hitems]

theorem mapM_readName (names : List String) : (names.map Json.string).mapM readName = some names := by
  induction names with
  | nil => rfl
  | cons name names ih => simp [readName, ih]

theorem Plain.json {message : SubscribeMessage} (h : message.Plain) :
    Json.Plain (.object message.fields) := by
  apply plain_fields
  simp only [fields, List.forall_mem_cons]
  refine ⟨⟨by decide,.string (by decide : Unescaped "SUBSCRIBE".toList)⟩,⟨by decide,.array ?_⟩,
    ⟨by decide,.number (numeral_toString message.id.toNat)⟩,by simp⟩
  intro j hj
  obtain ⟨name,hname,rfl⟩ := List.mem_map.mp hj
  obtain ⟨symbol,hsymbol,rfl⟩ := List.mem_map.mp hname
  refine .string ?_
  intro c hc
  simp only [String.toList_append, List.mem_append] at hc
  rcases hc with (hc | hc) | hc
  · exact h.symbols symbol hsymbol c hc
  · exact (by decide : Unescaped "@".toList) c hc
  · exact h.channel c hc

/-- The exchange reads the id and the names that the message was made from. -/
theorem Plain.read_text {message : SubscribeMessage} (h : message.Plain) :
    read message.text.toList = some (toString message.id.toNat,message.params) := by
  have hmethod : message.fields.lookup "method" = some (.string "SUBSCRIBE") := rfl
  have hparams : message.fields.lookup "params" = some (.array (message.params.map .string)) := rfl
  have hid : message.fields.lookup "id" = some (.number (toString message.id.toNat)) := rfl
  rw [read,text_eq_write h.nonempty,Json.read_write h.json]
  simp only [hmethod, hparams, hid, readFields, if_true, mapM_readName, Option.map_some]

end SubscribeMessage

namespace MarketData

theorem unescaped_channels (settings : Settings) (priority : Priority) :
    ∀ channel ∈ channels settings priority, Unescaped channel.toList := by
  have hdepth : Unescaped (depth settings).toList := by
    intro c hc
    rw [depth,String.toList_append,String.toList_append,List.mem_append,List.mem_append] at hc
    rcases hc with (hc | hc) | hc
    · exact (by decide : Unescaped "depth@".toList) c hc
    · exact Protocol.Json.Encoder.object_plain
        (List.all_eq_true.mp (Protocol.Json.Encoder.plain_toString _) c hc)
    · exact (by decide : Unescaped "ms".toList) c hc
  unfold channels
  simp only [List.forall_mem_append]
  refine ⟨⟨?_,?_⟩,?_⟩
  · split_ifs
    · simp only [List.forall_mem_cons]
      exact ⟨by decide,by decide,by simp⟩
    · simp only [List.forall_mem_cons]
      exact ⟨by decide,by decide,by simp⟩
    · simp
  · simp only [List.forall_mem_cons]
    exact ⟨by decide,hdepth,by simp⟩
  · split_ifs
    · simp
    · simp only [List.forall_mem_cons]
      exact ⟨by decide,by simp⟩

/-- The names of the streams for some channels of some symbols. -/
def names (channels symbols : List String) : List String :=
  channels.flatMap fun channel => symbols.map fun symbol => symbol ++ "@" ++ channel

theorem params_filter (channel : String) (messages : List SubscribeMessage) :
    (messages.filter fun message => decide (message.channel = channel)).flatMap
        SubscribeMessage.params =
      (mentions channel messages).map fun symbol => symbol ++ "@" ++ channel := by
  rw [mentions,List.map_flatMap]
  refine List.flatMap_congr fun message hm => ?_
  have hchannel : message.channel = channel := of_decide_eq_true (List.mem_filter.mp hm).2
  rw [SubscribeMessage.params,hchannel]

namespace Session

/-- The names that the exchange reads in what has been sent since the last disconnect. -/
def heard (s : Session) : List String :=
  s.sent.flatMap fun message => ((SubscribeMessage.read message.text.toList).map Prod.snd).getD []

/-- The socket has come up once since the last disconnect, and no message waits. -/
def Drained (s : Session) : Prop := s.readys = 1 ∧ s.stream.subscribeQueue = []

def Named (s : Session) : Prop := ∀ message ∈ s.queued, message.symbols ≠ []

section
variable (settings : Settings) (getSlice : ℕ → ℕ → List String) {s : Session}

theorem queued_onSubscribe (startFrom : ℕ) (h : s.Named) :
    (onSubscribe settings getSlice startFrom s).Named := by
  cases hr : s.stream.ready with
  | false =>
    have hs : (onSubscribe settings getSlice startFrom s).queued = s.queued := by
      simp [onSubscribe, record, subscribe, hr]
    rw [Named,hs]
    exact h
  | true =>
    obtain ⟨messages,hm⟩ :=
      subscribeSymbols_spec settings (getSlice s.stream.index startFrom) s.stream
    have hs : (onSubscribe settings getSlice startFrom s).queued = s.queued ++ messages := by
      simp [onSubscribe, record, subscribe, hr, hm.queue]
    rw [Named,hs]
    intro message hmem
    rcases List.mem_append.mp hmem with hmem | hmem
    · exact h message hmem
    · rw [hm.symbols message hmem]
      intro hnil
      have hnone := hm.channels
      rw [if_pos hnil,List.map_eq_nil_iff] at hnone
      rw [hnone] at hmem
      cases hmem

theorem queued_onReady (s : Session) : (onReady settings getSlice s).Named := by
  let y : Session :=
    ⟨{s.stream with connectionStatus := .ready},s.readys+1,s.before ++ s.queued,[],s.sent⟩
  have hready : onReady settings getSlice s = onSubscribe settings getSlice 0 y := by
    simp only [onReady, onSubscribe, record, MarketData.onReady, setConnectionStatus]
    split <;> simp [y, sentText]
  rw [hready]
  exact queued_onSubscribe settings getSlice 0 fun message hm => by cases hm

theorem queued_onTimer (refresh : Bool) (allowed : ℕ) (h : s.Named) :
    (onTimer refresh allowed s).Named := by
  rcases onTimer_eq refresh allowed s with hs | hs
  · rw [hs]; exact h
  · rw [hs]; exact h

variable {settings} {priority : Priority} {index : ℕ} {slice : List String}

/-- Once its queue is empty, the exchange has read each of the names once, and nothing else. -/
theorem perm_heard (h : Subscribed settings priority index slice s) (hnamed : s.Named)
    (hslice : ∀ symbol ∈ slice, Unescaped symbol.toList) (hdrained : s.Drained) :
    s.heard.Perm (names (channels settings priority) slice) := by
  obtain ⟨hreadys,hqueue⟩ := hdrained
  have hsent : s.sent = s.queued := by
    have hfifo := h.fifo
    rw [h.first (Nat.le_of_eq hreadys),hqueue,List.nil_append,List.append_nil] at hfifo
    exact hfifo.symm
  have hready : s.stream.ready = true := h.ready.mpr (by omega)
  have hread : ∀ message ∈ s.queued,
      ((SubscribeMessage.read message.text.toList).map Prod.snd).getD [] = message.params := by
    intro message hm
    have hchannel := h.channels message hm
    have hplain : message.Plain := by
      refine ⟨?_,unescaped_channels settings priority _ hchannel,hnamed message hm⟩
      intro symbol hs
      refine hslice symbol ?_
      rw [← h.complete hready message.channel hchannel]
      exact List.mem_flatMap.mpr ⟨message,List.mem_filter.mpr ⟨hm,decide_eq_true rfl⟩,hs⟩
    rw [hplain.read_text]
    rfl
  have hheard : s.heard = s.queued.flatMap SubscribeMessage.params := by
    rw [heard,hsent]
    exact List.flatMap_congr hread
  have hnames : names (channels settings priority) slice =
      (channels settings priority).flatMap fun channel =>
        (s.queued.filter fun message => decide (message.channel = channel)).flatMap
          SubscribeMessage.params := by
    refine List.flatMap_congr fun channel hc => ?_
    rw [params_filter,h.complete hready channel hc]
  rw [hheard,hnames,← List.flatMap_assoc]
  exact (perm_flatMap_filter (nodup_channels settings priority) h.channels).flatMap_right _

end
end Session
end MarketData

namespace MarketStreams
open MarketData
variable {settings : MarketData.Settings} {g : Slicing}

/-- A stream whose queue is empty has told the exchange each channel of each symbol of its slice
once, and nothing else; and there is a stream that does so for every symbol. -/
structure Announced (settings : MarketData.Settings) (g : Slicing) (s : MarketStreams) : Prop where
  marketData1 : Indexed (fun i x => x.Drained →
    x.heard.Perm (names (channels settings .primary) (g.getSlice s.symbols i 0))) s.marketData1
  marketData2 : Indexed (fun i x => x.Drained →
    x.heard.Perm (names (channels settings .secondary) (g.getSlice s.symbols i 0))) s.marketData2
  every : ∀ k symbol, s.symbols[k]? = some symbol → ∃ x, s.marketData1[g.slot k]? = some x ∧
    (x.Drained → ∀ channel ∈ channels settings .primary, symbol ++ "@" ++ channel ∈ x.heard)

/-- What each handler of a stream keeps, for a stream and the slice of its index. -/
structure Kept (settings : MarketData.Settings) (g : Slicing)
    (P : Priority → (ℕ → List String) → ℕ → Session → Prop) : Prop where
  create : ∀ priority slice i streamId, P priority slice i (Session.create streamId priority i)
  onSubscribe : ∀ priority symbols more i x, P priority (fun i => g.getSlice symbols i 0) i x →
    P priority (fun i => g.getSlice (symbols ++ more) i 0) i
      (Session.onSubscribe settings (g.getSlice (symbols ++ more)) symbols.length x)
  onReady : ∀ priority symbols i x, P priority (fun i => g.getSlice symbols i 0) i x →
    P priority (fun i => g.getSlice symbols i 0) i
      (Session.onReady settings (g.getSlice symbols) x)
  onDisconnected : ∀ priority slice i x, P priority slice i x →
    P priority slice i (Session.onDisconnected x)
  onTimer : ∀ priority slice i x refresh allowed, P priority slice i x →
    P priority slice i (Session.onTimer refresh allowed x)

def Each (g : Slicing) (P : Priority → (ℕ → List String) → ℕ → Session → Prop)
    (s : MarketStreams) : Prop :=
  Indexed (P .primary fun i => g.getSlice s.symbols i 0) s.marketData1 ∧
    Indexed (P .secondary fun i => g.getSlice s.symbols i 0) s.marketData2

section
variable {P : Priority → (ℕ → List String) → ℕ → Session → Prop}

theorem Each.modify {s : MarketStreams} (h : Each g P s) (priority : Priority) (index : ℕ)
    {f : Session → Session} (hf : ∀ priority i x,
      P priority (fun i => g.getSlice s.symbols i 0) i x →
      P priority (fun i => g.getSlice s.symbols i 0) i (f x)) :
    Each g P (s.modify priority index f) := by
  cases priority with
  | undefined => exact h
  | primary => exact ⟨h.1.modify index (hf .primary),h.2⟩
  | secondary => exact ⟨h.1,h.2.modify index (hf .secondary)⟩

theorem Kept.each_onSymbolsUpdate (hk : Kept settings g P) (symbols : List String)
    {s : MarketStreams} (h : Each g P s) : Each g P (onSymbolsUpdate settings g symbols s) := by
  have hgrow : ∀ priority size (q : List Session × ℕ),
      Indexed (P priority fun i => g.getSlice s.symbols i 0) q.1 →
      Indexed (P priority fun i => g.getSlice s.symbols i 0) (ensure priority size q).1 :=
    fun priority size q hq => indexed_ensure (hk.create priority _) size hq
  have hsub : ∀ priority {xs : List Session},
      Indexed (P priority fun i => g.getSlice s.symbols i 0) xs →
      Indexed (P priority fun i => g.getSlice (s.symbols ++ symbols) i 0)
        (xs.map (Session.onSubscribe settings (g.getSlice (s.symbols ++ symbols))
          s.symbols.length)) :=
    fun priority _ hxs => hxs.map fun i x hx => hk.onSubscribe priority _ _ i x hx
  cases hsecondary : settings.enableSecondary with
  | true =>
    simp only [onSymbolsUpdate, ensureSymbolSlices, hsecondary, if_true]
    exact ⟨hsub .primary (hgrow .primary _ (s.marketData1,s.streamId) h.1),
      hsub .secondary (hgrow .secondary _ (s.marketData2,_) h.2)⟩
  | false =>
    simp only [onSymbolsUpdate, ensureSymbolSlices, hsecondary, Bool.false_eq_true, if_false]
    exact ⟨hsub .primary (hgrow .primary _ (s.marketData1,s.streamId) h.1),hsub .secondary h.2⟩

/-- What each handler keeps of one stream, the machine keeps of all of them. -/
theorem Kept.preserves (hk : Kept settings g P) (streamId : ℕ) :
    (machine settings g streamId).Preserves (Each g P) := by
  intro s e s' h hn
  cases e with
  | symbolsUpdate symbols =>
    cases hn
    exact hk.each_onSymbolsUpdate symbols h
  | ready priority index =>
    cases hn
    exact h.modify priority index fun priority i x hx => hk.onReady priority _ i x hx
  | disconnected priority index =>
    cases hn
    exact h.modify priority index fun priority i x hx => hk.onDisconnected priority _ i x hx
  | timer refresh allowed =>
    cases hn
    exact ⟨h.1.mapIdx fun i x hx => hk.onTimer .primary _ i x _ _ hx,
      h.2.mapIdx fun i x hx => hk.onTimer .secondary _ i x _ _ hx⟩
  | other =>
    cases hn
    exact h

end

def AllNamed (s : MarketStreams) : Prop :=
  Indexed (fun _ => Session.Named) s.marketData1 ∧ Indexed (fun _ => Session.Named) s.marketData2

theorem kept_named : Kept settings g fun _ _ _ => Session.Named where
  create _ _ _ _ message hm := by cases hm
  onSubscribe _ _ _ _ _ hx := Session.queued_onSubscribe settings _ _ hx
  onReady _ _ _ x _ := Session.queued_onReady settings _ x
  onDisconnected _ _ _ _ _ message hm := by cases hm
  onTimer _ _ _ _ _ _ hx := Session.queued_onTimer _ _ hx

theorem preserves_allNamed (streamId : ℕ) : (machine settings g streamId).Preserves AllNamed :=
  kept_named.preserves streamId

theorem unescaped_getSlice {symbols : List String}
    (h : ∀ symbol ∈ symbols, Unescaped symbol.toList) (i : ℕ) :
    ∀ symbol ∈ g.getSlice symbols i 0, Unescaped symbol.toList := by
  intro symbol hs
  obtain ⟨x,hx,rfl⟩ := List.mem_map.mp hs
  exact h x.1 (List.fst_mem_of_mem_zipIdx (List.mem_filter.mp hx).1)

/-- Once a socket has come up and its queue is empty, the exchange has read from its messages the
names of its slice on its channels, each once; each symbol is announced by a primary stream. -/
theorem subscriptions_announced {streamId : ℕ} {s : MarketStreams}
    (h : (machine settings g streamId).Reachable s)
    (hs : ∀ symbol ∈ s.symbols, Unescaped symbol.toList) : Announced settings g s := by
  have hcomplete := (preserves_complete streamId).reachable (complete_init streamId) h
  have hnamed : AllNamed s :=
    (preserves_allNamed streamId).reachable ⟨Indexed.nil,Indexed.nil⟩ h
  have h1 : Indexed (fun i x => x.Drained →
      x.heard.Perm (names (channels settings .primary) (g.getSlice s.symbols i 0))) s.marketData1 :=
    fun i x hx => Session.perm_heard (hcomplete.marketData1 i x hx) (hnamed.1 i x hx)
      (unescaped_getSlice hs i)
  refine ⟨h1,?_,?_⟩
  · exact fun i x hx => Session.perm_heard (hcomplete.marketData2 i x hx) (hnamed.2 i x hx)
      (unescaped_getSlice hs i)
  · intro k symbol hk
    obtain ⟨hlt,hmem⟩ := mem_slice h hk
    refine ⟨_,List.getElem?_eq_getElem hlt,?_⟩
    intro hdrained channel hc
    refine ((h1 _ _ (List.getElem?_eq_getElem hlt)) hdrained).mem_iff.mpr ?_
    exact List.mem_flatMap.mpr ⟨channel,hc,List.mem_map.mpr ⟨symbol,hmem,rfl⟩⟩

/-- The messages of the first stream are let through. -/
def announcedRun : List Event :=
  [.symbolsUpdate ["btcusdt","ethusdt"],.ready .primary 0,.symbolsUpdate ["bnbusdt"],
    .timer (fun _ _ => true) (fun _ _ => 9)]

theorem subscriptions_announced_sample :
    ∃ s : MarketStreams, (s.marketData1.map fun x => (x.readys,x.stream.subscribeQueue)) = [(1,[])] ∧
      Announced ⟨false,100000000,0,false⟩ (.blocks 2) s := by
  have htest : ((machine ⟨false,100000000,0,false⟩ (.blocks 2) 3).run
      (machine ⟨false,100000000,0,false⟩ (.blocks 2) 3).init announcedRun).any (fun s =>
        decide ((s.marketData1.map fun x => (x.readys,x.stream.subscribeQueue)) = [(1,[])] ∧
          ∀ symbol ∈ s.symbols, Unescaped symbol.toList)) = true := by decide
  obtain ⟨s,hs,ht⟩ := (machine ⟨false,100000000,0,false⟩ (.blocks 2) 3).exists_reachable htest
  obtain ⟨hdrained,hplain⟩ := of_decide_eq_true ht
  exact ⟨s,hdrained,subscriptions_announced hs hplain⟩

end MarketStreams
end RoqBinance.Gateway
