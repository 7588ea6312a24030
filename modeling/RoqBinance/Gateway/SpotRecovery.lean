import RoqBinance.Gateway.Correlation

/-! The recovery of the spot stream on each connection: what it has asked for and what the
exchange has accepted when it reports itself ready. -/
namespace RoqBinance.Gateway
open Library Protocol.Json

namespace WebSocket

/-- What a connection has seen: a frame that was sent, or one that a reply accepted. -/
inductive Seen
  | sent (frame : Frame)
  | accepted (frame : Frame)
  deriving DecidableEq, Repr

/-- The stream, its frames without a reply, what has been seen since the last ready event, and
whether no trades had been downloaded by then. -/
structure Connection where
  stream : WebSocket
  pending : List Frame
  seen : List Seen
  isFirst : Bool
  deriving DecidableEq, Repr

/-- A reply is for one of the frames, other messages are events. -/
inductive ConnectionEvent
  | timer (refresh : Bool)
  | ready
  | disconnected
  | client (request : ClientRequest)
  | reply (frame : Frame) (message : Library.Json.Object) (order : MatchedOrder) (retryNow : Bool)
  | event (message : Library.Json.Object) (order : MatchedOrder)

namespace Connection

/-- The status of the reply to a request. -/
def replyStatus (p : WSAPIParsers) (type : WSAPIType) (message : Library.Json.Object) : Option ℤ :=
  match type with
  | .SESSION_LOGON => (p.sessionLogon message).map (·.status)
  | .USER_DATA_STREAM_SUBSCRIBE => (p.userDataStreamSubscribe message).map (·.status)
  | .ACCOUNT_STATUS => (p.account message).map (·.status)
  | .OPEN_ORDERS_STATUS => (p.openOrders message).map (·.status)
  | .MY_TRADES => (p.trades message).map (·.status)
  | .ORDER_PLACE => (p.orderPlace message).map (·.status)
  | .ORDER_AMEND_KEEP_PRIORITY => (p.orderAmendKeepPriority message).map (·.status)
  | .ORDER_CANCEL => (p.cancelOrder message).map (·.status)
  | .OPEN_ORDERS_CANCEL_ALL => (p.cancelOpenOrders message).map (·.status)
  | _ => none

/-- What a reply adds to what has been seen. -/
def acceptance (p : WSAPIParsers) (frame : Frame) (message : Library.Json.Object) : List Seen :=
  if replyStatus p frame.request.type message = some 200 then [.accepted frame] else []

/-- The connection after a handler, with what it has sent. -/
def after (pending : List Frame) (seen : List Seen) (isFirst : Bool) (ctx : Ctx) : Connection :=
  ⟨ctx.self,pending ++ sent ctx.outputs,seen ++ (sent ctx.outputs).map .sent,isFirst⟩

section
variable (shared : Shared) (p : WSAPIParsers)

/-- A fatal error ends the process. -/
def deliver (t : TraceInfo) (event : Event) (pending : List Frame) (seen : List Seen)
    (isFirst : Bool) (s : Connection) : Option Connection :=
  let ctx := handle shared p t event ⟨s.stream,Request.empty,[]⟩
  if ctx.outputs.any Output.isFatal then none else some (after pending seen isFirst ctx)

/-- A request is answered at most once, and on the connection on which it was sent. -/
def next (s : Connection) (e : TraceInfo × ConnectionEvent) : Option Connection :=
  match e.2 with
  | .timer refresh => deliver shared p e.1 (.timer refresh) s.pending s.seen s.isFirst s
  | .ready => deliver shared p e.1 (.socket .ready) [] [] s.stream.downloadTradesIsFirst s
  | .disconnected => deliver shared p e.1 (.socket .disconnected) [] s.seen s.isFirst s
  | .client request => deliver shared p e.1 (.client request) s.pending s.seen s.isFirst s
  | .reply frame message order retryNow =>
    if frame ∈ s.pending ∧ WSAPIParser.Echoes frame.id message then
      deliver shared p e.1 (.socket (.text message order retryNow)) (s.pending.erase frame)
        (s.seen ++ acceptance p frame message) s.isFirst s
    else none
  | .event message order =>
    if (Library.Json.first "id" message).isNone then
      deliver shared p e.1 (.socket (.text message order false)) s.pending s.seen s.isFirst s
    else none

def machine (streamId : ℕ) (account : String) : Machine Connection (TraceInfo × ConnectionEvent) :=
  ⟨⟨create streamId account,[],[],true⟩,next shared p⟩

end

def acceptedType : Seen → Option WSAPIType
  | .sent _ => none
  | .accepted frame => some frame.request.type

/-- The requests that were accepted, in order. -/
def acceptedTypes (seen : List Seen) : List WSAPIType := seen.filterMap acceptedType

/-- No snapshot has been asked for. -/
def Unasked (seen : List Seen) : Prop :=
  ∀ frame, Seen.sent frame ∈ seen →
    frame.request.type ≠ .ACCOUNT_STATUS ∧ frame.request.type ≠ .OPEN_ORDERS_STATUS

/-- The user stream is subscribed to before any snapshot is asked for. -/
def Guarded (seen : List Seen) : Prop :=
  [.SESSION_LOGON,.USER_DATA_STREAM_SUBSCRIBE].Sublist (acceptedTypes seen) ∧ Unasked seen

def AsksTrades (symbol : String) (frame : Frame) : Prop :=
  frame.request.type = .MY_TRADES ∧
    ∃ timestamp limit startTime, frame.params = .myTrades timestamp limit startTime symbol

/-- With a lookback, the trades of every symbol have been received. -/
def TradesReceived (settings : Settings) (isFirst : Bool) (seen : List Seen) :
    Prop :=
  getDownloadTradesLookback settings isFirst ≠ 0 →
    ∀ symbol ∈ settings.downloadSymbols, ∃ frame, Seen.accepted frame ∈ seen ∧ AsksTrades symbol frame

/-- The guarded logon, then the snapshots, then the trades. -/
def Recovered (settings : Settings) (isFirst : Bool) (seen : List Seen) : Prop :=
  ∃ logon snapshots trades, seen = logon ++ snapshots ++ trades ∧ Guarded logon ∧
    [.ACCOUNT_STATUS,.OPEN_ORDERS_STATUS].Sublist (acceptedTypes snapshots) ∧
    TradesReceived settings isFirst trades

/-- There is at most one symbol to download the trades of. -/
def SingleTrades (settings : Settings) (isFirst : Bool) : Prop :=
  getDownloadTradesLookback settings isFirst = 0 ∨
    ∀ x ∈ settings.downloadSymbols, ∀ y ∈ settings.downloadSymbols, x = y

/-- The request of a state. -/
def requestType : State → WSAPIType
  | .sessionLogon => .SESSION_LOGON
  | .userDataStreamSubscribe => .USER_DATA_STREAM_SUBSCRIBE
  | .accountStatus => .ACCOUNT_STATUS
  | .openOrdersStatus => .OPEN_ORDERS_STATUS
  | .myTrades => .MY_TRADES
  | .done => .UNDEFINED_INTERNAL

/-- A request that a state sends. -/
def Asks (settings : Settings) (state : State) (frame : Frame) : Prop :=
  frame.request.type = requestType state ∧
    (state = .myTrades → ∃ symbol ∈ settings.downloadSymbols, AsksTrades symbol frame)

/-- What has been seen once a state is entered. -/
def Reached (settings : Settings) (isFirst : Bool) (state : State) (seen : List Seen) : Prop :=
  match state with
  | .sessionLogon => Unasked seen
  | .userDataStreamSubscribe => [.SESSION_LOGON].Sublist (acceptedTypes seen) ∧ Unasked seen
  | .accountStatus => ∃ logon snapshots, seen = logon ++ snapshots ∧ Guarded logon
  | .openOrdersStatus =>
    ∃ logon snapshots, seen = logon ++ snapshots ∧ Guarded logon ∧
      [.ACCOUNT_STATUS].Sublist (acceptedTypes snapshots)
  | .myTrades =>
    ∃ logon snapshots, seen = logon ++ snapshots ∧ Guarded logon ∧
      [.ACCOUNT_STATUS,.OPEN_ORDERS_STATUS].Sublist (acceptedTypes snapshots)
  | .done => Recovered settings isFirst seen

/-- The state after it. -/
def following : State → State
  | .sessionLogon => .userDataStreamSubscribe
  | .userDataStreamSubscribe => .accountStatus
  | .accountStatus => .openOrdersStatus
  | .openOrdersStatus => .myTrades
  | .myTrades => .done
  | .done => .done

section
variable {settings : Settings} {isFirst : Bool}

@[simp] theorem acceptedTypes_append (xs ys : List Seen) :
    acceptedTypes (xs ++ ys) = acceptedTypes xs ++ acceptedTypes ys := by
  simp [acceptedTypes]

@[simp] theorem acceptedTypes_sent (frames : List Frame) :
    acceptedTypes (frames.map .sent) = [] := by
  simp [acceptedTypes, acceptedType]

theorem Unasked.append {xs ys : List Seen} (hx : Unasked xs) (hy : Unasked ys) :
    Unasked (xs ++ ys) := by
  intro frame hf
  rcases List.mem_append.mp hf with hf | hf
  · exact hx frame hf
  · exact hy frame hf

theorem unasked_accepted (frame : Frame) : Unasked [.accepted frame] := by
  intro frame' hf
  simp at hf

theorem unasked_sent {frames : List Frame} {type : WSAPIType}
    (hframes : ∀ frame ∈ frames, frame.request.type = type) (haccount : type ≠ .ACCOUNT_STATUS)
    (horders : type ≠ .OPEN_ORDERS_STATUS) : Unasked (frames.map .sent) := by
  intro frame hf
  obtain ⟨frame',hf',he⟩ := List.mem_map.mp hf
  obtain rfl := Seen.sent.inj he
  rw [hframes frame' hf']
  exact ⟨haccount,horders⟩

theorem TradesReceived.append {xs : List Seen} (h : TradesReceived settings isFirst xs)
    (ys : List Seen) : TradesReceived settings isFirst (xs ++ ys) := by
  intro hlookback symbol hs
  obtain ⟨frame,hf,hasks⟩ := h hlookback symbol hs
  exact ⟨frame,List.mem_append_left ys hf,hasks⟩

theorem Recovered.append {xs : List Seen} (h : Recovered settings isFirst xs) (ys : List Seen) :
    Recovered settings isFirst (xs ++ ys) := by
  obtain ⟨logon,snapshots,trades,rfl,hlogon,hsnapshots,htrades⟩ := h
  exact ⟨logon,snapshots,trades ++ ys,by simp,hlogon,hsnapshots,htrades.append ys⟩

/-- The requests of a state are sent. -/
theorem Reached.sent {state : State} {seen : List Seen} (h : Reached settings isFirst state seen)
    {frames : List Frame} (hframes : ∀ frame ∈ frames, Asks settings state frame) :
    Reached settings isFirst state (seen ++ frames.map .sent) := by
  have htype : ∀ frame ∈ frames, frame.request.type = requestType state :=
    fun frame hf => (hframes frame hf).1
  cases state with
  | sessionLogon => exact Unasked.append h (unasked_sent htype (by decide) (by decide))
  | userDataStreamSubscribe =>
    exact ⟨by simpa using h.1,h.2.append (unasked_sent htype (by decide) (by decide))⟩
  | accountStatus =>
    obtain ⟨logon,snapshots,rfl,hlogon⟩ := h
    exact ⟨logon,snapshots ++ frames.map .sent,by simp,hlogon⟩
  | openOrdersStatus =>
    obtain ⟨logon,snapshots,rfl,hlogon,hsnapshots⟩ := h
    exact ⟨logon,snapshots ++ frames.map .sent,by simp,hlogon,by simpa using hsnapshots⟩
  | myTrades =>
    obtain ⟨logon,snapshots,rfl,hlogon,hsnapshots⟩ := h
    exact ⟨logon,snapshots ++ frames.map .sent,by simp,hlogon,by simpa using hsnapshots⟩
  | done => exact Recovered.append h _

/-- The request of a state is accepted. -/
theorem Reached.accepted (hsingle : SingleTrades settings isFirst) {state : State} {seen : List Seen}
    (h : Reached settings isFirst state seen) {frame : Frame} (hframe : Asks settings state frame) :
    Reached settings isFirst (following state) (seen ++ [.accepted frame]) := by
  have htypes : acceptedTypes [.accepted frame] = [requestType state] := by
    simp [acceptedTypes, acceptedType, hframe.1]
  cases state with
  | sessionLogon =>
    refine ⟨?_,Unasked.append h (unasked_accepted frame)⟩
    rw [acceptedTypes_append,htypes]
    exact List.sublist_append_right (acceptedTypes seen) [.SESSION_LOGON]
  | userDataStreamSubscribe =>
    refine ⟨seen ++ [.accepted frame],[],by simp,?_,h.2.append (unasked_accepted frame)⟩
    rw [acceptedTypes_append,htypes]
    exact h.1.append (List.Sublist.refl [WSAPIType.USER_DATA_STREAM_SUBSCRIBE])
  | accountStatus =>
    obtain ⟨logon,snapshots,rfl,hlogon⟩ := h
    refine ⟨logon,snapshots ++ [.accepted frame],by simp,hlogon,?_⟩
    rw [acceptedTypes_append,htypes]
    exact List.sublist_append_right (acceptedTypes snapshots) [.ACCOUNT_STATUS]
  | openOrdersStatus =>
    obtain ⟨logon,snapshots,rfl,hlogon,hsnapshots⟩ := h
    refine ⟨logon,snapshots ++ [.accepted frame],by simp,hlogon,?_⟩
    rw [acceptedTypes_append,htypes]
    exact hsnapshots.append (List.Sublist.refl [WSAPIType.OPEN_ORDERS_STATUS])
  | myTrades =>
    obtain ⟨logon,snapshots,rfl,hlogon,hsnapshots⟩ := h
    refine ⟨logon,snapshots,[.accepted frame],rfl,hlogon,hsnapshots,?_⟩
    intro hlookback symbol hs
    obtain ⟨symbol',hs',hasks⟩ := hframe.2 rfl
    rcases hsingle with hzero | hsame
    · exact absurd hzero hlookback
    · rw [hsame symbol hs symbol' hs']
      exact ⟨frame,by simp,hasks⟩
  | done => exact Recovered.append h _

/-- Without anything to ask for, the trades are complete. -/
theorem Reached.skipped {seen : List Seen} (h : Reached settings isFirst .myTrades seen)
    (hskip : getDownloadTradesLookback settings isFirst = 0 ∨ settings.downloadSymbols = []) :
    Reached settings isFirst .done seen := by
  obtain ⟨logon,snapshots,rfl,hlogon,hsnapshots⟩ := h
  refine ⟨logon,snapshots,[],by simp,hlogon,hsnapshots,?_⟩
  intro hlookback symbol hs
  rcases hskip with hzero | hnone
  · exact absurd hzero hlookback
  · rw [hnone] at hs; cases hs

end

/-- The requests of a state that are without a reply. -/
def Outstanding (settings : Settings) (state : State) (pending : List Frame) : Prop :=
  (∀ frame ∈ pending, Asks settings state frame) ∧ (state ≠ .myTrades → pending.length ≤ 1)

/-- What has been seen is what the sequencer is past. -/
def Valid (settings : Settings) (s : Connection) : Prop :=
  match s.stream.download with
  | .idle => s.stream.isReady = false ∧ s.pending = []
  | .waiting state more rest =>
    (more = 0 ∧ states.dropWhile (· ≠ state) = state::rest) ∧ s.stream.isReady = false ∧
      s.stream.downloadTradesIsFirst = s.isFirst ∧ Outstanding settings state s.pending ∧
      Reached settings s.isFirst state s.seen
  | .done state => state = .done ∧ Recovered settings s.isFirst s.seen

theorem Valid.recovered {settings : Settings} {s : Connection} (h : Valid settings s)
    (hr : s.stream.isReady = true) : Recovered settings s.isFirst s.seen := by
  unfold Valid at h
  split at h
  · rw [h.1] at hr; cases hr
  · rw [h.2.1] at hr; cases hr
  · exact h.2

/-- The same as far as the recovery is concerned, but for frames that were sent. -/
structure Sends (frames : List Frame) (ctx ctx' : Ctx) : Prop where
  download : ctx'.self.download = ctx.self.download
  isFirst : ctx'.self.downloadTradesIsFirst = ctx.self.downloadTradesIsFirst
  sent : sent ctx'.outputs = sent ctx.outputs ++ frames

theorem sends_onConnectionStatus (status : ConnectionStatus) (reason : String) (ctx : Ctx) :
    Sends [] ctx (onConnectionStatus status reason ctx) :=
  ⟨rfl,rfl,by simp [onConnectionStatus, WebSocket.sent, Output.sent]⟩

theorem Sends.trans {xs ys : List Frame} {a b c : Ctx} (hab : Sends xs a b) (hbc : Sends ys b c) :
    Sends (xs ++ ys) a c :=
  ⟨hbc.download.trans hab.download,hbc.isFirst.trans hab.isFirst,
    by rw [hbc.sent,hab.sent,List.append_assoc]⟩

/-- A request and the status that is published with it. -/
theorem sends_request (type : WSAPIType) (method : String) (params : Params)
    (status : ConnectionStatus) (reason : String) (ctx : Ctx) :
    Sends [⟨⟨ctx.self.requestId+1,type,0,0,0,0⟩,method,params⟩] ctx
      (onConnectionStatus status reason (sendText type 0 0 0 method params ctx)) :=
  ⟨rfl,rfl,by simp [onConnectionStatus, sendText, WebSocket.sent, Output.sent]⟩

/-- One request for each symbol. -/
theorem sends_trades (timestamp limit : ℕ) (startTime : ℤ) (symbols : List String) {ctx : Ctx}
    (hr : ctx.self.isReady = false) :
    let f : Ctx → String → Ctx := fun ctx symbol => onConnectionStatus .downloading "myTrades"
      (sendText .MY_TRADES 0 0 0 "myTrades" (.myTrades timestamp limit startTime symbol) ctx)
    ∃ frames, Sends frames ctx (symbols.foldl f ctx) ∧
      (∀ frame ∈ frames, ∃ symbol ∈ symbols, AsksTrades symbol frame) ∧
      (symbols.foldl f ctx).self.isReady = false := by
  intro f
  induction symbols generalizing ctx with
  | nil => exact ⟨[],⟨rfl,rfl,(List.append_nil _).symm⟩,by simp,hr⟩
  | cons symbol symbols ih =>
    obtain ⟨frames,hs,hasks,hready⟩ := @ih (f ctx symbol) rfl
    refine ⟨_,(sends_request _ _ _ _ _ _).trans hs,?_,hready⟩
    intro frame hf
    rcases List.mem_append.mp hf with hf | hf
    · rw [List.mem_singleton.mp hf]
      exact ⟨symbol,List.mem_cons_self,rfl,timestamp,limit,startTime,rfl⟩
    · obtain ⟨symbol',hs',h⟩ := hasks frame hf
      exact ⟨symbol',List.mem_cons_of_mem symbol hs',h⟩

section
variable (shared : Shared) (t : TraceInfo)

/-- What a state does when it is entered: it sends its requests and waits for one reply, or there
are no trades to ask for. -/
theorem downloadState_spec {state : State} (hstate : state ≠ .done) (ctx : Ctx) :
    ∃ frames, Sends frames ctx (downloadState shared t state ctx).1 ∧
      (∀ frame ∈ frames, Asks shared.settings state frame) ∧
      (downloadState shared t state ctx).1.self.isReady = false ∧
      ((downloadState shared t state ctx).2 = 1 ∧ (state ≠ .myTrades → frames.length ≤ 1) ∨
        (state = .myTrades ∧ (downloadState shared t state ctx).2 = 0 ∧ frames = []) ∧
          (getDownloadTradesLookback shared.settings ctx.self.downloadTradesIsFirst = 0 ∨
            shared.settings.downloadSymbols = [])) := by
  have hstatus := fun reason => sends_onConnectionStatus .downloading reason ctx
  have hasks : ∀ (request : WSAPIRequest) (method : String) (params : Params),
      request.type = requestType state → state ≠ .myTrades →
      ∀ frame ∈ [Frame.mk request method params], Asks shared.settings state frame := by
    intro request method params htype hne frame hf
    rw [List.mem_singleton.mp hf]
    exact ⟨htype,fun h => absurd h hne⟩
  cases state with
  | sessionLogon =>
    exact ⟨_,(hstatus "SESSION_LOGON").trans (sends_request _ _ _ _ _ _),
      hasks _ _ _ rfl (by decide),rfl,.inl ⟨rfl,fun _ => Nat.le_refl 1⟩⟩
  | userDataStreamSubscribe =>
    exact ⟨_,(hstatus "USER_DATA_STREAM_SUBSCRIBE").trans (sends_request _ _ _ _ _ _),
      hasks _ _ _ rfl (by decide),rfl,.inl ⟨rfl,fun _ => Nat.le_refl 1⟩⟩
  | accountStatus =>
    exact ⟨_,(hstatus "ACCOUNT_STATUS").trans (sends_request _ _ _ _ _ _),
      hasks _ _ _ rfl (by decide),rfl,.inl ⟨rfl,fun _ => Nat.le_refl 1⟩⟩
  | openOrdersStatus =>
    exact ⟨_,(hstatus "OPEN_ORDERS_STATUS").trans (sends_request _ _ _ _ _ _),
      hasks _ _ _ rfl (by decide),rfl,.inl ⟨rfl,fun _ => Nat.le_refl 1⟩⟩
  | myTrades =>
    simp only [downloadState, myTrades]
    split_ifs with h
    · obtain ⟨frames,hs,hasks,hready⟩ := sends_trades (milliseconds t.originCreateTimeUtc)
        (tradesLimit shared) _ shared.settings.downloadSymbols
        (show (onConnectionStatus .downloading "MY_TRADES" ctx).self.isReady = false from rfl)
      refine ⟨frames,(hstatus "MY_TRADES").trans hs,?_,hready,.inl ⟨rfl,fun h => absurd rfl h⟩⟩
      intro frame hf
      obtain ⟨symbol,hsymbol,ha⟩ := hasks frame hf
      exact ⟨ha.1,fun _ => ⟨symbol,hsymbol,ha⟩⟩
    · refine ⟨[],hstatus "MY_TRADES",by simp,rfl,.inr ⟨by simp,?_⟩⟩
      change ¬ (decide
        (getDownloadTradesLookback shared.settings ctx.self.downloadTradesIsFirst ≠ 0) &&
        decide (shared.settings.downloadSymbols ≠ [])) = true at h
      by_cases hlookback :
          getDownloadTradesLookback shared.settings ctx.self.downloadTradesIsFirst = 0
      · exact .inl hlookback
      · exact .inr (by simpa [hlookback] using h)
  | done => exact absurd rfl hstate

/-- The stream with the sequencer that a run of it leaves. -/
def close (r : Download State × Ctx) : Ctx := r.2.modify fun self => {self with download := r.1}

theorem sequencer_eq (f : Download State → Ctx → Download State × Ctx) (ctx : Ctx) :
    sequencer f ctx = close (f ctx.self.download ctx) := rfl

/-- The last state is entered. -/
theorem valid_done {isFirst : Bool} {seen : List Seen} (pending : List Frame)
    (h : Recovered shared.settings isFirst seen) (d : Download State) (ctx : Ctx) :
    Valid shared.settings
      (after pending seen isFirst (close (Download.enter (downloadState shared t) [.done] d ctx))) :=
  ⟨rfl,h.append _⟩

/-- A state is entered, with none of its requests outstanding unless they are for trades. -/
theorem valid_enter {isFirst : Bool} {seen : List Seen} {pending : List Frame} {state : State}
    {rest : List State} (hrest : states.dropWhile (· ≠ state) = state::rest)
    (hreached : Reached shared.settings isFirst state seen)
    (hpending : state ≠ .done → ∀ frame ∈ pending, Asks shared.settings state frame)
    (hnone : state ≠ .done → state ≠ .myTrades → pending = []) {ctx : Ctx}
    (hfirst : state ≠ .done → ctx.self.downloadTradesIsFirst = isFirst)
    (hsent : WebSocket.sent ctx.outputs = []) (d : Download State) :
    Valid shared.settings (after pending seen isFirst
      (close (Download.enter (downloadState shared t) (state::rest) d ctx))) := by
  by_cases hdone : state = .done
  · subst hdone
    have hlast : states.dropWhile (· ≠ State.done) = [.done] := by decide
    obtain rfl : rest = [] := (List.cons.inj (hrest.symm.trans hlast)).2
    exact valid_done shared t pending hreached d ctx
  · obtain ⟨frames,hs,hasks,hready,hcount⟩ := downloadState_spec shared t hdone ctx
    rcases hf : downloadState shared t state ctx with ⟨ctx',n⟩
    rw [hf] at hs hready hcount
    have hframes : WebSocket.sent ctx'.outputs = frames := by rw [hs.sent,hsent,List.nil_append]
    rcases hcount with ⟨hn,hlength⟩ | ⟨⟨hstate,hn,hnil⟩,hskip⟩
    · obtain rfl : n = 1 := hn
      simp only [Download.enter, hf]
      refine ⟨⟨rfl,hrest⟩,hready,hs.isFirst.trans (hfirst hdone),⟨?_,?_⟩,?_⟩
      · intro frame hmem
        change frame ∈ pending ++ WebSocket.sent ctx'.outputs at hmem
        rw [hframes] at hmem
        rcases List.mem_append.mp hmem with hmem | hmem
        · exact hpending hdone frame hmem
        · exact hasks frame hmem
      · intro hne
        change (pending ++ WebSocket.sent ctx'.outputs).length ≤ 1
        rw [hframes,hnone hdone hne]
        exact hlength hne
      · change Reached shared.settings isFirst state
          (seen ++ (WebSocket.sent ctx'.outputs).map .sent)
        rw [hframes]
        exact hreached.sent hasks
    · obtain rfl : n = 0 := hn
      subst hstate
      have hlast : states.dropWhile (· ≠ State.myTrades) = [.myTrades,.done] := by decide
      obtain rfl : rest = [.done] := (List.cons.inj (hrest.symm.trans hlast)).2
      simp only [Download.enter, hf]
      rw [hfirst hdone] at hskip
      exact valid_done shared t pending (hreached.skipped hskip) (.done .myTrades) ctx'

/-- After a handler that has sent nothing and left the download as it is. -/
theorem valid_quiet {s : Connection} (h : Valid shared.settings s) {pending : List Frame}
    (hpending : pending.Sublist s.pending) (seen : List Seen)
    (hseen : s.stream.download.downloading = true → seen = []) (ctx : Ctx)
    (hdownload : ctx.self.download = s.stream.download)
    (hready : s.stream.download.downloading = true ∨ s.stream.download = .idle →
      ctx.self.isReady = s.stream.isReady)
    (hfirst : s.stream.download.downloading = true →
      ctx.self.downloadTradesIsFirst = s.stream.downloadTradesIsFirst)
    (hsent : s.stream.download.downloading = true ∨ s.stream.download = .idle →
      WebSocket.sent ctx.outputs = []) :
    Valid shared.settings (after pending (s.seen ++ seen) s.isFirst ctx) := by
  cases hd : s.stream.download with
  | idle =>
    simp only [Valid, hd] at h
    simp only [hd, or_true, forall_const] at hready hsent
    simp only [Valid, after, hdownload, hd, hsent, List.append_nil]
    exact ⟨hready.trans h.1,List.eq_nil_of_sublist_nil (h.2 ▸ hpending)⟩
  | waiting state more rest =>
    simp only [Valid, hd] at h
    obtain ⟨hstate,hr,hf,hout,hreached⟩ := h
    simp only [hd, Download.downloading_waiting, true_or, forall_const] at hready hsent hseen hfirst
    simp only [Valid, after, hdownload, hd, hsent, hseen, List.append_nil, List.map_nil]
    refine ⟨hstate,hready.trans hr,hfirst.trans hf,⟨?_,?_⟩,hreached⟩
    · intro frame hmem
      exact hout.1 frame (hpending.subset hmem)
    · intro hne
      exact hpending.length_le.trans (hout.2 hne)
  | done state =>
    simp only [Valid, hd] at h
    simp only [Valid, after, hdownload, hd]
    exact ⟨h.1,(h.2.append seen).append _⟩

/-- The stream is left as it is. -/
theorem valid_self {s : Connection} (h : Valid shared.settings s) {pending : List Frame}
    (hpending : pending.Sublist s.pending) :
    Valid shared.settings (after pending s.seen s.isFirst ⟨s.stream,Request.empty,[]⟩) := by
  have hq := valid_quiet shared h hpending [] (fun _ => rfl) ⟨s.stream,Request.empty,[]⟩ rfl
    (fun _ => rfl) (fun _ => rfl) (fun _ => rfl)
  rwa [List.append_nil] at hq

theorem after_dispatchAll (pending : List Frame) (seen : List Seen) (isFirst : Bool) (ctx : Ctx)
    (updates : List Dispatch) :
    after pending seen isFirst (ctx.dispatchAll updates) = after pending seen isFirst ctx := by
  have hsent : WebSocket.sent (ctx.dispatchAll updates).outputs = WebSocket.sent ctx.outputs := by
    simp [WebSocket.sent, Function.comp_def, Output.sent]
  rw [after,hsent]
  rfl

/-- What the handler of a successful reply leaves as it is. -/
structure Keeps (state : State) (ctx ctx' : Ctx) : Prop where
  download : ctx'.self.download = ctx.self.download
  ready : ctx'.self.isReady = ctx.self.isReady
  isFirst : state ≠ .myTrades → ctx'.self.downloadTradesIsFirst = ctx.self.downloadTradesIsFirst
  sent : WebSocket.sent ctx'.outputs = WebSocket.sent ctx.outputs

theorem requestType_inj {x y : State} (h : requestType x = requestType y) : x = y := by
  cases x <;> cases y <;> first | rfl | cases h

theorem dropWhile_following {state : State} {rest : List State} (hstate : state ≠ .done)
    (h : states.dropWhile (· ≠ state) = state::rest) :
    ∃ rest', rest = following state::rest' ∧
      states.dropWhile (· ≠ following state) = following state::rest' := by
  cases state with
  | done => exact absurd rfl hstate
  | _ =>
    obtain rfl := (List.cons.inj h).2
    exact ⟨_,rfl,rfl⟩

/-- A reply to a request of a state. -/
theorem valid_onReply {s : Connection} (hsingle : SingleTrades shared.settings s.isFirst)
    (h : Valid shared.settings s) {α : Type} {state : State} (hstate : state ≠ .done)
    {successHandler : α → Ctx → Ctx}
    (hsuccess : ∀ result ctx, Keeps state ctx (successHandler result ctx)) (reply : WSAPIReply α)
    (retryNow : Bool) {frame : Frame} (hmem : frame ∈ s.pending)
    (htype : frame.request.type = requestType state) :
    Valid shared.settings (after (s.pending.erase frame)
      (s.seen ++ if reply.status = 200 then [.accepted frame] else []) s.isFirst
      (onReply shared t state successHandler reply retryNow ⟨s.stream,Request.empty,[]⟩)) := by
  rw [onReply,rateLimited,after_dispatchAll]
  have hkeeps := hsuccess reply.result ⟨s.stream,Request.empty,[]⟩
  have hv := h
  cases hd : s.stream.download with
  | idle =>
    simp only [Valid, hd] at hv
    rw [hv.2] at hmem
    cases hmem
  | waiting x more rest =>
    simp only [Valid, hd] at hv
    obtain ⟨⟨rfl,hrest⟩,hr,hfirst,hout,hreached⟩ := hv
    have hasks := hout.1 frame hmem
    obtain rfl : state = x := requestType_inj (htype.symm.trans hasks.1)
    have herase : state ≠ .myTrades → s.pending.erase frame = [] := by
      intro hne
      apply List.eq_nil_of_length_eq_zero
      rw [List.length_erase_of_mem hmem]
      have hlength := hout.2 hne
      omega
    have hpending : ∀ frame' ∈ s.pending.erase frame, Asks shared.settings state frame' :=
      fun frame' hf => hout.1 frame' (List.mem_of_mem_erase hf)
    split_ifs with hstatus
    · obtain ⟨rest',rfl,hnext⟩ := dropWhile_following hstate hrest
      have hcheck : sequencer (Download.check (downloadState shared t) state)
          (successHandler reply.result ⟨s.stream,Request.empty,[]⟩) =
            close (Download.enter (downloadState shared t) (following state::rest') (.done state)
              (successHandler reply.result ⟨s.stream,Request.empty,[]⟩)) := by
        rw [sequencer_eq,hkeeps.download]
        simp only [hd, Download.check, if_true]
      rw [hcheck]
      have hmiddle : following state ≠ .done → state ≠ .myTrades := by
        intro hne he
        subst he
        exact hne rfl
      refine valid_enter shared t hnext (hreached.accepted hsingle hasks) ?_ ?_ ?_ hkeeps.sent _
      · intro hne frame' hf
        rw [herase (hmiddle hne)] at hf
        cases hf
      · intro hne _
        exact herase (hmiddle hne)
      · intro hne
        exact (hkeeps.isFirst (hmiddle hne)).trans hfirst
    · rw [List.append_nil]
      cases retryNow with
      | true =>
        have hretry : sequencer (Download.retry (downloadState shared t) states true state)
            ⟨s.stream,Request.empty,[]⟩ =
              close (Download.enter (downloadState shared t) (state::rest) (.waiting state 0 rest)
                ⟨s.stream,Request.empty,[]⟩) := by
          rw [sequencer_eq,Download.retry]
          simp only [hd, Download.downloading_waiting, Bool.and_self, if_true, hrest]
        rw [hretry]
        exact valid_enter shared t hrest hreached (fun _ => hpending) (fun _ => herase)
          (fun _ => hfirst) rfl _
      | false =>
        have hretry : sequencer (Download.retry (downloadState shared t) states false state)
            ⟨s.stream,Request.empty,[]⟩ = ⟨s.stream,Request.empty,[]⟩ := rfl
        rw [hretry]
        exact valid_self shared h List.erase_sublist
  | done x =>
    have hnone : ∀ {P : Prop},
        (s.stream.download.downloading = true ∨ s.stream.download = .idle) → P := by
      intro P hor
      rw [hd] at hor
      rcases hor with hor | hor <;> cases hor
    apply valid_quiet shared h List.erase_sublist
    · intro hdl; exact hnone (.inl hdl)
    · split_ifs
      · rw [sequencer_eq,hkeeps.download]
        simp only [hd, Download.check, close, Context.modify_self]
      · rw [sequencer_eq]
        simp only [hd, Download.retry, Download.downloading_done, Bool.and_false, close,
          Bool.false_eq_true, if_false, Context.modify_self]
    · exact hnone
    · intro hdl; exact hnone (.inl hdl)
    · exact hnone

theorem keeps_dispatchAll (state : State) (ctx : Ctx) (updates : List Dispatch) :
    Keeps state ctx (ctx.dispatchAll updates) :=
  ⟨rfl,rfl,fun _ => rfl,by simp [WebSocket.sent, Function.comp_def, Output.sent]⟩

theorem keeps_onOpenOrders (orders : List Order) (ctx : Ctx) :
    Keeps .openOrdersStatus ctx (onOpenOrders shared orders ctx) := by
  refine List.foldlRecOn (motive := Keeps .openOrdersStatus ctx) orders _ ⟨rfl,rfl,fun _ => rfl,rfl⟩ ?_
  intro ctx' h order _
  unfold onOpenOrder
  split_ifs
  · exact h
  · refine ⟨h.download,h.ready,h.isFirst,?_⟩
    simpa [WebSocket.sent, Output.sent, List.filterMap_cons] using h.sent

theorem keeps_onTrades (trades : List Trade2) (ctx : Ctx) :
    Keeps .myTrades ctx (onTrades shared trades ctx) :=
  ⟨rfl,rfl,fun h => absurd rfl h,by simp [onTrades, WebSocket.sent, Function.comp_def, Output.sent]⟩

/-- A stream with requests of other kinds outstanding has recovered. -/
theorem valid_other {s : Connection} (h : Valid shared.settings s) {frame : Frame}
    (hmem : frame ∈ s.pending) (htype : ∀ state, frame.request.type ≠ requestType state)
    (pending : List Frame) (seen : List Seen) {ctx : Ctx}
    (hdownload : ctx.self.download = s.stream.download) :
    Valid shared.settings (after pending (s.seen ++ seen) s.isFirst ctx) := by
  cases hd : s.stream.download with
  | idle =>
    simp only [Valid, hd] at h
    rw [h.2] at hmem
    cases hmem
  | waiting x more rest =>
    simp only [Valid, hd] at h
    exact absurd (h.2.2.2.1.1 frame hmem).1 (htype x)
  | done x =>
    simp only [Valid, hd] at h
    simp only [Valid, after, hdownload, hd]
    exact ⟨h.1,(h.2.append seen).append _⟩

/-- The callback of a reply, by the type of its request. -/
inductive Answers (p : WSAPIParsers) (request : WSAPIRequest) (message : Library.Json.Object) :
    WSAPIMessage → Prop
  | sessionLogon (htype : request.type = .SESSION_LOGON) {reply : WSAPIReply Unit}
      (hp : p.sessionLogon message = some reply) : Answers p request message (.sessionLogon reply)
  | userDataStreamSubscribe (htype : request.type = .USER_DATA_STREAM_SUBSCRIBE)
      {reply : WSAPIReply Unit} (hp : p.userDataStreamSubscribe message = some reply) :
      Answers p request message (.userDataStreamSubscribe reply)
  | account (htype : request.type = .ACCOUNT_STATUS) {reply : WSAPIReply AccountAck}
      (hp : p.account message = some reply) : Answers p request message (.account reply)
  | openOrders (htype : request.type = .OPEN_ORDERS_STATUS) {reply : WSAPIReply (List Order)}
      (hp : p.openOrders message = some reply) : Answers p request message (.openOrders reply)
  | trades (htype : request.type = .MY_TRADES) {reply : WSAPIReply (List Trade2)}
      (hp : p.trades message = some reply) : Answers p request message (.trades reply)
  | orderPlace (htype : request.type = .ORDER_PLACE) (reply : WSAPIReply NewOrderAck) :
      Answers p request message (.orderPlace reply request)
  | orderAmendKeepPriority (htype : request.type = .ORDER_AMEND_KEEP_PRIORITY)
      (reply : WSAPIReply OrderAmendKeepPriority) :
      Answers p request message (.orderAmendKeepPriority reply request)
  | cancelOrder (htype : request.type = .ORDER_CANCEL) (reply : WSAPIReply CancelOrderAck) :
      Answers p request message (.cancelOrder reply request)
  | cancelOpenOrders (htype : request.type = .OPEN_ORDERS_CANCEL_ALL)
      (reply : WSAPIReply (List Order)) : Answers p request message (.cancelOpenOrders reply request)

theorem dispatchHelper_called {α : Type} {parsed : Option α} {callback : α → WSAPIMessage}
    {m : WSAPIMessage} (h : WSAPIParser.dispatchHelper parsed callback = .called m) :
    ∃ obj, parsed = some obj ∧ callback obj = m := by
  cases parsed with
  | none => cases h
  | some obj => exact ⟨obj,rfl,WSAPIParser.Outcome.called.inj h⟩

theorem answers_of_called {p : WSAPIParsers} {request : WSAPIRequest}
    {message : Library.Json.Object} {m : WSAPIMessage}
    (h : WSAPIParser.dispatchResponse p message false request = .called m) :
    Answers p request message m := by
  unfold WSAPIParser.dispatchResponse at h
  split at h
  · cases h
  · cases h
  · next htype => obtain ⟨reply,hp,rfl⟩ := dispatchHelper_called h; exact .sessionLogon htype hp
  · next htype =>
    obtain ⟨reply,hp,rfl⟩ := dispatchHelper_called h
    exact .userDataStreamSubscribe htype hp
  · next htype => obtain ⟨reply,hp,rfl⟩ := dispatchHelper_called h; exact .account htype hp
  · next htype => obtain ⟨reply,hp,rfl⟩ := dispatchHelper_called h; exact .openOrders htype hp
  · next htype => obtain ⟨reply,hp,rfl⟩ := dispatchHelper_called h; exact .trades htype hp
  · next htype => obtain ⟨reply,-,rfl⟩ := dispatchHelper_called h; exact .orderPlace htype reply
  · next htype =>
    obtain ⟨reply,-,rfl⟩ := dispatchHelper_called h
    exact .orderAmendKeepPriority htype reply
  · next htype => obtain ⟨reply,-,rfl⟩ := dispatchHelper_called h; exact .cancelOrder htype reply
  · next htype =>
    obtain ⟨reply,-,rfl⟩ := dispatchHelper_called h
    exact .cancelOpenOrders htype reply
  · cases h

theorem not_skipped (p : WSAPIParsers) (request : WSAPIRequest) (message : Library.Json.Object) :
    WSAPIParser.dispatchResponse p message false request ≠ .skipped := by
  have hhelper : ∀ {α : Type} (parsed : Option α) (callback : α → WSAPIMessage),
      WSAPIParser.dispatchHelper parsed callback ≠ .skipped := by
    intro α parsed callback h
    cases parsed <;> cases h
  unfold WSAPIParser.dispatchResponse
  split <;> first | exact hhelper _ _ | simp

theorem acceptance_of (p : WSAPIParsers) {frame : Frame} {message : Library.Json.Object}
    {α : Type} {parsed : Option (WSAPIReply α)} {reply : WSAPIReply α}
    (hstatus : replyStatus p frame.request.type message = parsed.map (·.status))
    (hp : parsed = some reply) :
    acceptance p frame message = if reply.status = 200 then [.accepted frame] else [] := by
  rw [acceptance,hstatus,hp]
  simp

/-- A reply, if it does not end the process. -/
theorem valid_reply (p : WSAPIParsers) {s : Connection}
    (hsingle : SingleTrades shared.settings s.isFirst) (h : Valid shared.settings s)
    {frame : Frame} (hmem : frame ∈ s.pending) {message : Library.Json.Object}
    (hecho : WSAPIParser.Echoes frame.id message)
    (order : MatchedOrder) (retryNow : Bool)
    (hfatal : (parse shared p t message order retryNow
      ⟨s.stream,Request.empty,[]⟩).outputs.any Output.isFatal = false) :
    Valid shared.settings (after (s.pending.erase frame) (s.seen ++ acceptance p frame message)
      s.isFirst (parse shared p t message order retryNow ⟨s.stream,Request.empty,[]⟩)) := by
  have hdispatch := WSAPIParser.dispatch_echo p frame.request false hecho
  simp only [parse, hdispatch] at hfatal ⊢
  cases ho : WSAPIParser.dispatchResponse p message false frame.request with
  | skipped => exact absurd ho (not_skipped p frame.request message)
  | fatal => simp [ho, Output.isFatal] at hfatal
  | thrown => simp [ho, Output.isFatal] at hfatal
  | called m =>
    have hother : ∀ type : WSAPIType, frame.request.type = type →
        (∀ state, type ≠ requestType state) → ∀ ctx : Ctx,
          ctx.self.download = s.stream.download → Valid shared.settings
            (after (s.pending.erase frame) (s.seen ++ acceptance p frame message) s.isFirst ctx) := by
      intro type htype hne ctx hd
      exact valid_other shared h hmem (htype ▸ hne) _ _ hd
    cases answers_of_called ho with
    | sessionLogon htype hp =>
      rw [acceptance_of p (by rw [htype]; rfl) hp]
      exact valid_onReply shared t hsingle h (by decide) (fun _ _ => ⟨rfl,rfl,fun _ => rfl,rfl⟩) _
        retryNow hmem htype
    | userDataStreamSubscribe htype hp =>
      rw [acceptance_of p (by rw [htype]; rfl) hp]
      exact valid_onReply shared t hsingle h (by decide) (fun _ _ => ⟨rfl,rfl,fun _ => rfl,rfl⟩) _
        retryNow hmem htype
    | account htype hp =>
      rw [acceptance_of p (by rw [htype]; rfl) hp]
      exact valid_onReply shared t hsingle h (by decide) (fun _ _ => keeps_dispatchAll _ _ _) _
        retryNow hmem htype
    | openOrders htype hp =>
      rw [acceptance_of p (by rw [htype]; rfl) hp]
      exact valid_onReply shared t hsingle h (by decide) (keeps_onOpenOrders shared) _ retryNow
        hmem htype
    | trades htype hp =>
      rw [acceptance_of p (by rw [htype]; rfl) hp]
      exact valid_onReply shared t hsingle h (by decide) (keeps_onTrades shared) _ retryNow hmem
        htype
    | orderPlace htype reply =>
      apply hother _ htype (by rintro ⟨⟩ <;> decide)
      simp only [onMessage, onOrderPlace, rateLimited, Context.dispatchAll_self]
      split_ifs <;> rfl
    | orderAmendKeepPriority htype reply =>
      apply hother _ htype (by rintro ⟨⟩ <;> decide)
      simp only [onMessage, onOrderAmendKeepPriority, rateLimited, Context.dispatchAll_self]
      split_ifs <;> rfl
    | cancelOrder htype reply =>
      apply hother _ htype (by rintro ⟨⟩ <;> decide)
      simp only [onMessage, onCancelOrder, rateLimited, Context.dispatchAll_self]
      split_ifs <;> rfl
    | cancelOpenOrders htype reply =>
      apply hother _ htype (by rintro ⟨⟩ <;> decide)
      simp only [onMessage, onCancelOpenOrders, rateLimited, Context.dispatchAll_self]
      split_ifs <;> rfl

/-- A message without an id calls back for an event. -/
inductive Happens : WSAPIMessage → Prop
  | eventStreamTerminated : Happens .eventStreamTerminated
  | outboundAccountPosition (event : OutboundAccountPositionData) :
      Happens (.outboundAccountPosition event)
  | balanceUpdate : Happens .balanceUpdate
  | executionReport (event : ExecutionReportData) : Happens (.executionReport event)

theorem happens_of_event {p : WSAPIParsers} {message : Library.Json.Object} {type : EventType}
    {m : WSAPIMessage} (h : WSAPIParser.dispatchEvent p message false type = .called m) :
    Happens m := by
  cases type with
  | outboundAccountPosition =>
    obtain ⟨event,-,rfl⟩ := dispatchHelper_called h
    exact .outboundAccountPosition event
  | balanceUpdate =>
    obtain ⟨-,-,rfl⟩ := dispatchHelper_called h
    exact .balanceUpdate
  | executionReport =>
    obtain ⟨event,-,rfl⟩ := dispatchHelper_called h
    exact .executionReport event
  | eventStreamTerminated =>
    obtain ⟨-,-,rfl⟩ := dispatchHelper_called h
    exact .eventStreamTerminated
  | _ => cases h

theorem happens_of_keys {p : WSAPIParsers} {message fields : Library.Json.Object} {m : WSAPIMessage}
    (hid : Library.Json.first "id" fields = none)
    (h : WSAPIParser.dispatchKeys p message false fields = .called m) : Happens m := by
  induction fields with
  | nil => cases h
  | cons x fields ih =>
    obtain ⟨key,value⟩ := x
    have hkey : key ≠ "id" := by
      rintro rfl
      simp [Library.Json.first] at hid
    rw [Library.Json.first,if_neg hkey] at hid
    rw [WSAPIParser.dispatchKeys.eq_def] at h
    simp only [if_neg hkey] at h
    split at h
    · split at h
      · split at h
        · split at h
          · exact happens_of_event h
          · cases h
        · exact ih hid h
      · cases h
    · exact ih hid h

theorem valid_event (p : WSAPIParsers) {s : Connection} (h : Valid shared.settings s)
    {message : Library.Json.Object} (hid : Library.Json.first "id" message = none)
    (order : MatchedOrder)
    (hfatal : (parse shared p t message order false
      ⟨s.stream,Request.empty,[]⟩).outputs.any Output.isFatal = false) :
    Valid shared.settings (after s.pending s.seen s.isFirst
      (parse shared p t message order false ⟨s.stream,Request.empty,[]⟩)) := by
  have hself := valid_self shared h (List.Sublist.refl s.pending)
  simp only [parse] at hfatal ⊢
  cases ho : WSAPIParser.dispatch p message false with
  | skipped => exact hself
  | fatal => simp [ho, Output.isFatal] at hfatal
  | thrown => simp [ho, Output.isFatal] at hfatal
  | called m =>
    cases happens_of_keys hid ho with
    | eventStreamTerminated => simp [ho, onMessage, Output.isFatal] at hfatal
    | outboundAccountPosition event =>
      simp only [onMessage, after_dispatchAll]
      exact hself
    | balanceUpdate => exact hself
    | executionReport event =>
      simp only [onMessage, after_dispatchAll]
      exact hself

/-- Nothing is sent before the stream is ready. -/
theorem onRequest_not_ready (request : ClientRequest) {ctx : Ctx} (h : ctx.self.isReady = false) :
    (onRequest shared request ctx).1 = ctx := by
  cases request <;>
    simp [onRequest, orderPlace, orderAmendKeepPriority, orderCancel, openOrdersCancelAll, h]

theorem download_onRequest (request : ClientRequest) (ctx : Ctx) :
    (onRequest shared request ctx).1.self.download = ctx.self.download := by
  cases request with
  | createOrder info request params =>
    simp only [onRequest, orderPlace]
    split_ifs
    · rfl
    · split <;> rfl
  | modifyOrder info request params =>
    simp only [onRequest, orderAmendKeepPriority]
    split_ifs <;> rfl
  | cancelOrder info request params =>
    simp only [onRequest, orderCancel]
    split_ifs
    · rfl
    · split <;> rfl
  | cancelAllOrders info request requestId =>
    simp only [onRequest, openOrdersCancelAll]
    split_ifs
    · rfl
    · refine List.foldlRecOn (motive := fun ctx' : Ctx => ctx'.self.download = ctx.self.download)
        _ _ rfl ?_
      intro ctx' h symbol _
      split_ifs
      · exact h
      · exact h

theorem valid_client {s : Connection} (h : Valid shared.settings s) (request : ClientRequest) :
    Valid shared.settings (after s.pending s.seen s.isFirst
      (onRequest shared request ⟨s.stream,Request.empty,[]⟩).1) := by
  have hnotReady : (s.stream.download.downloading = true ∨ s.stream.download = .idle) →
      (onRequest shared request ⟨s.stream,Request.empty,[]⟩).1 = ⟨s.stream,Request.empty,[]⟩ := by
    intro hd
    apply onRequest_not_ready
    change s.stream.isReady = false
    unfold Valid at h
    split at h
    · exact h.1
    · exact h.2.1
    · next state he => rw [he] at hd; rcases hd with hd | hd <;> cases hd
  have hq := valid_quiet shared h (List.Sublist.refl s.pending) [] (fun _ => rfl)
    (onRequest shared request ⟨s.stream,Request.empty,[]⟩).1 (download_onRequest shared request _)
    (fun hd => by rw [hnotReady hd]) (fun hd => by rw [hnotReady (.inl hd)])
    (fun hd => by rw [hnotReady hd]; rfl)
  rwa [List.append_nil] at hq

theorem valid_ready (s : Connection) :
    Valid shared.settings (after [] [] s.stream.downloadTradesIsFirst
      (onReady shared t ⟨s.stream,Request.empty,[]⟩)) := by
  have hrest : states.dropWhile (· ≠ State.sessionLogon) = .sessionLogon::states.tail := rfl
  exact valid_enter shared t hrest (fun frame hf => by cases hf) (fun _ frame hf => by cases hf)
    (fun _ _ => rfl) (fun _ => rfl) rfl .idle

end

section
variable {shared : Shared} {p : WSAPIParsers}

theorem deliver_eq_some {t : TraceInfo} {event : Event} {pending : List Frame} {seen : List Seen}
    {isFirst : Bool} {s s' : Connection}
    (h : deliver shared p t event pending seen isFirst s = some s') :
    (handle shared p t event ⟨s.stream,Request.empty,[]⟩).outputs.any Output.isFatal = false ∧
      s' = after pending seen isFirst (handle shared p t event ⟨s.stream,Request.empty,[]⟩) := by
  simp only [deliver] at h
  split_ifs at h with hfatal
  exact ⟨by simpa using hfatal,(Option.some.inj h).symm⟩

theorem preserves_valid (streamId : ℕ) (account : String) :
    (machine shared p streamId account).Preserves fun s =>
      SingleTrades shared.settings s.isFirst → Valid shared.settings s := by
  intro s e s' h hn
  obtain ⟨t,event⟩ := e
  cases event with
  | timer refresh =>
    simp only [machine, next] at hn
    obtain ⟨-,rfl⟩ := deliver_eq_some hn
    intro hsingle
    exact valid_self shared (h hsingle) (List.Sublist.refl s.pending)
  | ready =>
    simp only [machine, next] at hn
    obtain ⟨-,rfl⟩ := deliver_eq_some hn
    intro _
    exact valid_ready shared t s
  | disconnected =>
    simp only [machine, next] at hn
    obtain ⟨-,rfl⟩ := deliver_eq_some hn
    intro _
    exact ⟨rfl,rfl⟩
  | client request =>
    simp only [machine, next] at hn
    obtain ⟨-,rfl⟩ := deliver_eq_some hn
    intro hsingle
    exact valid_client shared (h hsingle) request
  | reply frame message order retryNow =>
    simp only [machine, next] at hn
    split_ifs at hn with henabled
    obtain ⟨hfatal,rfl⟩ := deliver_eq_some hn
    intro hsingle
    exact valid_reply shared t p (s := s) hsingle (h hsingle) henabled.1 henabled.2 order retryNow
      hfatal
  | event message order =>
    simp only [machine, next] at hn
    split_ifs at hn with hid
    obtain ⟨hfatal,rfl⟩ := deliver_eq_some hn
    intro hsingle
    exact valid_event shared t p (h hsingle) (Option.isNone_iff_eq_none.mp hid) order hfatal

/-- Where one reply completes the download of trades, the stream is ready only after a complete
recovery. -/
theorem ready_recovered {streamId : ℕ} {account : String} {s : Connection}
    (h : (machine shared p streamId account).Reachable s)
    (hsingle : SingleTrades shared.settings s.isFirst) (hr : s.stream.isReady = true) :
    Recovered shared.settings s.isFirst s.seen := by
  have hvalid := (preserves_valid streamId account).reachable (fun _ => ⟨rfl,rfl⟩) h
  exact (hvalid hsingle).recovered hr

end

/-- A gateway that downloads the trades of some symbols. -/
def tradesShared (symbols : List String) : Shared :=
  {Shared.sample with
    settings :=
      {Shared.sample.settings with downloadSymbols := symbols, tradesLookback := 3600000000000}}

def frame (sequence : UInt32) (type : WSAPIType) (method : String) (params : Params) : Frame :=
  ⟨⟨sequence,type,0,0,0,0⟩,method,params⟩

def tradesFrame (sequence : UInt32) (symbol : String) : Frame :=
  frame sequence .MY_TRADES "myTrades" (.myTrades 4000000 1000 400000 symbol)

def acceptedBy (f : Frame) : TraceInfo × ConnectionEvent :=
  (⟨4000000000000,4000000000000⟩,.reply f (WSAPIParser.echo f.request "200") ⟨0,0,0⟩ true)

/-- Every request is accepted until the trades of the first symbol are. -/
def readyRun : List (TraceInfo × ConnectionEvent) :=
  [(⟨4000000000000,4000000000000⟩,.ready),
    acceptedBy (frame 1000001 .SESSION_LOGON "session.logon" (.sessionLogon 4000000)),
    acceptedBy (frame 1000002 .USER_DATA_STREAM_SUBSCRIBE "userDataStream.subscribe" .none),
    acceptedBy (frame 1000003 .ACCOUNT_STATUS "account.status" (.timestamp 4000000)),
    acceptedBy (frame 1000004 .OPEN_ORDERS_STATUS "openOrders.status" (.timestamp 4000000)),
    acceptedBy (tradesFrame 1000005 "BTCUSDT")]

/-- The trades of a symbol have not been received. -/
def withoutTrades (symbol : String) : Seen → Bool
  | .accepted ⟨_,_,.myTrades _ _ _ symbol'⟩ => symbol' ≠ symbol
  | _ => true

theorem not_asksTrades {symbol : String} {frame : Frame}
    (h : withoutTrades symbol (.accepted frame) = true) : ¬ AsksTrades symbol frame := by
  rintro ⟨-,timestamp,limit,startTime,hparams⟩
  obtain ⟨request,method,params⟩ := frame
  obtain rfl : params = .myTrades timestamp limit startTime symbol := hparams
  simp [withoutTrades] at h

theorem ready_recovered_single : ∃ s : Connection, s.stream.isReady = true ∧
    Recovered (tradesShared ["BTCUSDT"]).settings s.isFirst s.seen := by
  have hsame : ∀ x ∈ ["BTCUSDT"], ∀ y ∈ ["BTCUSDT"], x = y := by simp
  obtain ⟨s,hs,hr⟩ := (machine (tradesShared ["BTCUSDT"]) .sample 1 "account").exists_reachable
    (show ((machine (tradesShared ["BTCUSDT"]) .sample 1 "account").run
      (machine (tradesShared ["BTCUSDT"]) .sample 1 "account").init readyRun).any
        (fun s => s.stream.isReady) = true by decide)
  exact ⟨s,hr,ready_recovered hs (.inr hsame) hr⟩

/-- Ready, without the trades of the second symbol. -/
def readyTooEarly (s : Connection) : Bool :=
  s.stream.isReady && s.isFirst && s.seen.all (withoutTrades "ETHUSDT")

/-- With two symbols the stream is ready once the trades of the first one are received. -/
theorem ready_too_early : ¬ ∀ (shared : Shared) (p : WSAPIParsers) (streamId : ℕ) (account : String)
    (s : Connection), (machine shared p streamId account).Reachable s →
      s.stream.isReady = true → Recovered shared.settings s.isFirst s.seen := by
  intro h
  obtain ⟨s,hs,ht⟩ :=
    (machine (tradesShared ["BTCUSDT","ETHUSDT"]) .sample 1 "account").exists_reachable
      (show ((machine (tradesShared ["BTCUSDT","ETHUSDT"]) .sample 1 "account").run
        (machine (tradesShared ["BTCUSDT","ETHUSDT"]) .sample 1 "account").init readyRun).any
          readyTooEarly = true by decide)
  simp only [readyTooEarly, Bool.and_eq_true] at ht
  obtain ⟨⟨hr,hfirst⟩,hall⟩ := ht
  obtain ⟨logon,snapshots,trades,hseen,-,-,htrades⟩ := h _ _ _ _ s hs hr
  have hlookback : getDownloadTradesLookback (tradesShared ["BTCUSDT","ETHUSDT"]).settings s.isFirst
      ≠ 0 := by
    rw [hfirst]
    decide
  obtain ⟨frame,hf,hasks⟩ := htrades hlookback "ETHUSDT" (by simp [tradesShared])
  have hmem : Seen.accepted frame ∈ s.seen := hseen ▸ List.mem_append_right _ hf
  exact not_asksTrades (List.all_eq_true.mp hall _ hmem) hasks

end Connection
end WebSocket
end RoqBinance.Gateway
