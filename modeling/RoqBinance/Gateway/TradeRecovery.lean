import Mathlib.Data.List.Count
import RoqBinance.Gateway.Portfolio
import RoqBinance.Gateway.SteadyLinks

/-! The portfolio stream asks for the trades of each symbol by a request of its own, and takes
the first reply for the end of the download. -/
namespace RoqBinance.Gateway
open Library Protocol.Json

namespace OrderEntryPortfolio

def sent (ctx : Ctx) : List Call := ctx.outputs.filterMap Output.sent

/-- What the download of the trades is known by. -/
def trading (ctx : Ctx) : Bool × Bool × Stamps :=
  (ctx.self.downloadTrades,ctx.self.downloadTradesIsFirst,ctx.request.trades)

/-- The download of the trades is left alone, and only such requests are sent. -/
structure Spares (P : Call → Prop) (ctx ctx' : Ctx) : Prop where
  trading : trading ctx' = trading ctx
  sends : ∃ calls, sent ctx' = sent ctx ++ calls ∧ ∀ call ∈ calls, P call

namespace Spares
variable {P Q : Call → Prop} {ctx ctx' ctx'' : Ctx}

theorem refl (ctx : Ctx) : Spares P ctx ctx :=
  ⟨rfl,[],(List.append_nil _).symm,fun _ h => by cases h⟩

theorem mono (h : Spares P ctx ctx') (hPQ : ∀ call, P call → Q call) : Spares Q ctx ctx' := by
  obtain ⟨calls,hcalls,hP⟩ := h.sends
  exact ⟨h.trading,calls,hcalls,fun call hm => hPQ call (hP call hm)⟩

theorem trans (h₁ : Spares P ctx ctx') (h₂ : Spares P ctx' ctx'') : Spares P ctx ctx'' := by
  obtain ⟨calls,hcalls,hP⟩ := h₁.sends
  obtain ⟨calls',hcalls',hP'⟩ := h₂.sends
  refine ⟨h₂.trading.trans h₁.trading,calls ++ calls',?_,?_⟩
  · rw [hcalls',hcalls,List.append_assoc]
  · intro call hm
    rcases List.mem_append.mp hm with hm | hm
    · exact hP call hm
    · exact hP' call hm

theorem emit (h : Spares P ctx ctx') {output : Output Call} (ho : output.sent = none) :
    Spares P ctx (ctx'.emit output) :=
  h.trans ⟨rfl,[],by simp [sent, ho],fun _ h => by cases h⟩

theorem send (h : Spares P ctx ctx') {call : Call} (hcall : P call) :
    Spares P ctx (ctx'.send call) :=
  h.trans ⟨rfl,[call],by simp [sent, Output.sent],by simpa using hcall⟩

theorem dispatch (h : Spares P ctx ctx') (update : Dispatch) : Spares P ctx (ctx'.dispatch update) :=
  h.emit rfl

theorem dispatchAll (h : Spares P ctx ctx') (updates : List Dispatch) :
    Spares P ctx (ctx'.dispatchAll updates) :=
  h.trans ⟨rfl,[],by simp [sent, List.filterMap_map, Function.comp_def, Output.sent],
    fun _ h => by cases h⟩

theorem fatal (h : Spares P ctx ctx') (text : String) : Spares P ctx (ctx'.fatal text) := h.emit rfl

theorem modify (h : Spares P ctx ctx') {g : OrderEntryPortfolio → OrderEntryPortfolio}
    (hg : OrderEntryPortfolio.trading (ctx'.modify g) = OrderEntryPortfolio.trading ctx') :
    Spares P ctx (ctx'.modify g) :=
  h.trans ⟨hg,[],(List.append_nil _).symm,fun _ h => by cases h⟩

theorem foldl {α : Type} {f : Ctx → α → Ctx} {xs : List α} (h : Spares P ctx ctx')
    (hf : ∀ c, Spares P ctx c → ∀ x, Spares P ctx (f c x)) : Spares P ctx (xs.foldl f ctx') :=
  List.foldlRecOn xs f h fun c hc x _ => hf c hc x

theorem wafLimitViolation (h : Spares P ctx ctx') (shared : Shared) :
    Spares P ctx (wafLimitViolation shared ctx') := by
  unfold Gateway.wafLimitViolation
  split_ifs
  · exact h.emit rfl
  · exact h.emit rfl

end Spares

/-- The request is not for a download that the user stream asks for. -/
abbrev Call.Aside (call : Call) : Prop := call.kind = none

theorem spares_onConnectionStatus {ctx₀ ctx : Ctx} (h : Spares Call.Aside ctx₀ ctx)
    (status : ConnectionStatus) (reason : String) :
    Spares Call.Aside ctx₀ (onConnectionStatus status reason ctx) := by
  have hstatus : Spares Call.Aside ctx₀ (ctx.modify fun self => {self with connectionStatus := status}) :=
    h.modify rfl
  exact hstatus.dispatch _

theorem spares_downloadState (ctx₀ : Ctx) :
    Download.Kept downloadState (Spares Call.Aside ctx₀) := by
  intro state ctx h
  have hstatus := spares_onConnectionStatus h
  cases state with
  | listenKey =>
    rw [downloadState]
    split_ifs
    · exact (hstatus .downloading "LISTEN_KEY").send (show Call.Aside .listenKey from rfl)
    · exact h
  | done => exact ⟨(hstatus .ready "").trading,(hstatus .ready "").sends⟩

theorem spares_sequencer {ctx₀ ctx : Ctx} {f : Download State → Ctx → Download State × Ctx}
    (h : Spares Call.Aside ctx₀ (f ctx.self.download ctx).2) :
    Spares Call.Aside ctx₀ (sequencer f ctx) := ⟨h.trading,h.sends⟩

theorem spares_onConnected (ctx : Ctx) : Spares Call.Aside ctx (onConnected ctx) := by
  have hctx : Spares Call.Aside ctx ctx := Spares.refl ctx
  unfold onConnected
  split_ifs
  · exact spares_sequencer ((spares_downloadState ctx).bump hctx)
  · exact spares_sequencer ((spares_downloadState ctx).begin states hctx)

section
variable (shared : Shared) (t : TraceInfo)

theorem spares_refreshListenKey (ctx : Ctx) :
    Spares Call.Aside ctx (refreshListenKey shared t ctx) := by
  have hctx : Spares Call.Aside ctx ctx := Spares.refl ctx
  unfold refreshListenKey
  split_ifs
  · exact hctx
  · exact hctx
  · have hrefresh : Spares Call.Aside ctx (ctx.modify fun self =>
        {self with listenKeyRefresh := t.originCreateTime+shared.settings.listenKeyRefresh}) :=
      hctx.modify rfl
    exact hrefresh.send (show Call.Aside .listenKey from rfl)

theorem spares_onRequest (request : ClientRequest) (ctx : Ctx) :
    Spares Call.Aside ctx (onRequest shared request ctx).1 := by
  have hctx : Spares Call.Aside ctx ctx := Spares.refl ctx
  cases request with
  | createOrder info request body =>
    have hsymbol : Spares Call.Aside ctx (ctx.modify fun self =>
        {self with openOrdersSymbols := emplace self.openOrdersSymbols request.symbol}) :=
      hctx.modify rfl
    simp only [onRequest, newOrder]
    split_ifs
    · exact hctx
    · split
      · exact hsymbol
      · exact hsymbol.send (show Call.Aside (.newOrder _ _ _) from rfl)
  | modifyOrder info request => exact hctx
  | cancelOrder info request body =>
    simp only [onRequest, cancelOrder]
    split_ifs
    · exact hctx
    · split
      · exact hctx
      · exact hctx.send (show Call.Aside (.cancelOrder _ _ _ _) from rfl)
  | cancelAllOrders request requestId =>
    simp only [onRequest, cancelAllOpenOrders]
    split_ifs
    · exact hctx
    · refine hctx.foldl ?_
      intro c hc symbol
      split_ifs
      · exact hc
      · exact (hc.send (show Call.Aside (.cancelAllOpenOrders symbol requestId) from rfl)).dispatch _

variable {ctx : Ctx}

theorem spares_limit (forbidden : Bool) (retryAfter : ℕ) (ctx : Ctx) :
    Spares Call.Aside ctx (limit shared forbidden retryAfter ctx) := by
  have hwaf : Spares Call.Aside ctx (if forbidden then wafLimitViolation shared ctx else ctx) := by
    split_ifs
    · exact (Spares.refl ctx).wafLimitViolation shared
    · exact Spares.refl ctx
  unfold limit suspendFor
  split_ifs at hwaf ⊢
  · exact hwaf.emit rfl
  · exact hwaf.emit rfl
  · exact hwaf
  · exact hwaf

theorem spares_processResponse {α : Type} {decode : Body → Except String α}
    {response : RestResponse}
    {errorHandler : Origin → RequestStatus → Error → String → Ctx → Ctx}
    {successHandler : α → Ctx → Ctx}
    (herror : ∀ origin status error text ctx', Spares Call.Aside ctx ctx' →
      Spares Call.Aside ctx (errorHandler origin status error text ctx'))
    (hsuccess : ∀ value, Spares Call.Aside ctx (successHandler value ctx)) :
    Spares Call.Aside ctx (processResponse shared decode response errorHandler successHandler ctx) :=
  processResponseWith_cases (Spares.refl ctx)
    (fun forbidden retryAfter => spares_limit shared forbidden retryAfter ctx) herror
    (fun value _ => hsuccess value) fun text => (Spares.refl ctx).fatal text

theorem spares_completion {ctx₀ : Ctx} {k : Kind} (hk : k ≠ .trades)
    (h : Spares Call.Aside ctx₀ ctx) : Spares Call.Aside ctx₀ (completion k t ctx) := by
  have hrequest : (ctx.request.reply k t.originCreateTime).trades = ctx.request.trades := by
    have hstamps := ctx.request.stamps_reply k .trades t.originCreateTime
    rwa [if_neg (Ne.symm hk)] at hstamps
  refine h.trans ⟨?_,[],(List.append_nil _).symm,fun _ h => by cases h⟩
  cases k <;> simp_all [trading, completion, setDownload]

theorem spares_onListenKeyAck (ack : ListenKeyAck) (ctx : Ctx) :
    Spares Call.Aside ctx (onListenKeyAck shared t ack ctx) := by
  have hkey : Spares Call.Aside ctx (ctx.modify fun self => {self with listenKey := ack.listenKey}) :=
    (Spares.refl ctx).modify rfl
  simp only [onListenKeyAck]
  split_ifs
  · have hupdate := hkey.emit
      (show (Output.listenKeyUpdate ⟨ctx.self.account,.portfolio,ack.listenKey⟩ : Output Call).sent =
        none from rfl)
    exact hupdate.modify rfl
  · exact hkey.modify rfl

theorem spares_onOpenOrdersAck (ack : OpenOrdersAck) (ctx : Ctx) :
    Spares Call.Aside ctx (onOpenOrdersAck shared ack ctx) := by
  refine (Spares.refl ctx).foldl ?_
  intro c hc order
  unfold onOpenOrder
  split_ifs
  · exact hc
  · have hsymbol : Spares Call.Aside ctx (c.modify fun self =>
        {self with openOrdersSymbols := emplace self.openOrdersSymbols order.symbol}) := hc.modify rfl
    exact hsymbol.dispatch _

/-- The callbacks other than that of a request for trades. -/
theorem spares_onResponse {call : Call} (hcall : call.kind ≠ some .trades) (response : RestResponse)
    (retryNow : Bool) (ctx : Ctx) :
    Spares Call.Aside ctx (onResponse shared t call response retryNow ctx) := by
  have hctx : Spares Call.Aside ctx ctx := Spares.refl ctx
  cases call with
  | listenKey =>
    rw [onResponse,getListenKeyAck]
    refine spares_processResponse shared ?_ ?_
    · intro _ _ _ _ ctx' h
      exact spares_sequencer ((spares_downloadState ctx).retry states retryNow .listenKey h)
    · intro ack
      exact spares_sequencer ((spares_downloadState ctx).check .listenKey
        (spares_onListenKeyAck shared t ack ctx))
  | account =>
    rw [onResponse,getAccountAck]
    refine spares_processResponse shared ?_ ?_
    · intro _ _ _ _ ctx' h; exact spares_completion t (by decide) h
    · intro ack; exact spares_completion t (by decide) (hctx.dispatchAll _)
  | openOrders =>
    rw [onResponse,getOpenOrdersAck]
    refine spares_processResponse shared ?_ ?_
    · intro _ _ _ _ ctx' h; exact spares_completion t (by decide) h
    · intro ack; exact spares_completion t (by decide) (spares_onOpenOrdersAck shared ack ctx)
  | trades symbol lookback limit => exact absurd rfl hcall
  | newOrder body userId orderId =>
    rw [onResponse,newOrderAck]
    refine spares_processResponse shared ?_ ?_
    · intro _ _ _ _ ctx' h; exact h.dispatch _
    · intro ack; exact hctx.dispatch _
  | cancelOrder body userId orderId version =>
    rw [onResponse,cancelOrderAck]
    refine spares_processResponse shared ?_ ?_
    · intro _ _ _ _ ctx' h; exact h.dispatch _
    · intro ack; exact hctx.dispatch _
  | cancelAllOpenOrders symbol requestId =>
    rw [onResponse,cancelAllOpenOrdersAck]
    refine spares_processResponse shared ?_ ?_
    · intro _ _ _ _ ctx' h; exact h.dispatch _
    · intro ack; exact (hctx.dispatchAll _).dispatch _

/-- The download is over, whatever other requests for it are without an answer. -/
structure Completed (ctx ctx' : Ctx) : Prop where
  downloadTrades : ctx'.self.downloadTrades = false
  respond : ctx'.request.trades = {ctx.request.trades with respond := t.originCreateTime}
  sends : ∃ calls, sent ctx' = sent ctx ++ calls ∧ ∀ call ∈ calls, call.Aside

theorem completed_completion {ctx₀ : Ctx} (h : Spares Call.Aside ctx₀ ctx) :
    Completed t ctx₀ (completion .trades t ctx) := by
  have htrades : ctx.request.trades = ctx₀.request.trades := congrArg (·.2.2) h.trading
  refine ⟨rfl,?_,h.sends⟩
  change {ctx.request.trades with respond := t.originCreateTime} = _
  rw [htrades]

theorem completed_onResponse {call : Call} (hcall : call.kind = some .trades)
    (response : RestResponse) (retryNow : Bool)
    (hf : (onResponse shared t call response retryNow ctx).outputs.any Output.isFatal = false) :
    Completed t ctx (onResponse shared t call response retryNow ctx) := by
  cases call with
  | trades symbol lookback limit =>
    rw [onResponse,getTradesAck] at hf ⊢
    revert hf
    refine processResponseWith_cases (P := fun ctx' : Ctx =>
        ctx'.outputs.any Output.isFatal = false → Completed t ctx ctx')
      (I := Spares Call.Aside ctx) (Spares.refl ctx)
      (fun forbidden retryAfter => spares_limit shared forbidden retryAfter ctx) ?_ ?_ ?_
    · intro _ _ _ _ ctx' h _
      exact completed_completion t h
    · intro ack _ _
      have h := completed_completion t ((Spares.refl ctx).dispatchAll (onTradesAck shared ctx.self ack))
      exact ⟨h.downloadTrades,h.respond,h.sends⟩
    · intro text hno
      simp [Output.isFatal] at hno
  | _ => cases hcall

theorem foldl_send {α : Type} (f : α → Call) (xs : List α) (ctx : Ctx) :
    xs.foldl (fun ctx x => ctx.send (f x)) ctx =
      {ctx with outputs := ctx.outputs ++ xs.map fun x => .send (f x)} := by
  induction xs generalizing ctx with
  | nil => simp
  | cons x xs ih =>
    rw [List.foldl_cons,ih]
    simp

/-- The request for the trades of a symbol. -/
def tradesCall (downloadTradesIsFirst : Bool) (symbol : String) : Call :=
  .trades symbol (getDownloadTradesLookback shared.settings downloadTradesIsFirst)
    (if shared.settings.tradesLimit ≠ 0 then shared.settings.tradesLimit else DOWNLOAD_TRADES_LIMIT)

theorem getTrades_eq (ctx : Ctx) : getTrades shared ctx =
    {ctx with
      outputs := ctx.outputs ++ shared.settings.downloadSymbols.map
        (fun symbol => .send (tradesCall shared ctx.self.downloadTradesIsFirst symbol))} :=
  foldl_send _ _ _

/-- The download of the trades has been started by a request for each symbol. -/
structure Started (ctx ctx' : Ctx) : Prop where
  before : ctx.self.downloadTrades = false
  after : trading ctx' = (true,ctx.self.downloadTradesIsFirst,ctx.request.trades)
  sends : ∃ calls, (∀ call ∈ calls, call.kind ≠ some .trades) ∧ sent ctx' = sent ctx ++
    (calls ++ shared.settings.downloadSymbols.map (tradesCall shared ctx.self.downloadTradesIsFirst))

theorem started_start (hidle : ctx.self.downloading = false) (hpending : ctx.request.trades.pending) :
    Started shared ctx (start shared ctx .trades) := by
  have hstart : start shared ctx .trades = (get shared .trades ctx).modify (setDownload .trades true) :=
    if_pos (by rw [hidle]; exact decide_eq_true hpending)
  rw [hstart,get,getTrades_eq]
  refine ⟨?_,rfl,[],by simp,?_⟩
  · simp only [downloading, Bool.or_eq_false_iff] at hidle
    exact hidle.2
  · simp [sent, Output.sent, List.filterMap_append, List.filterMap_map, Function.comp_def]

theorem Started.of_spares {ctx₀ : Ctx} (hs : Spares (fun call => call.kind ≠ some .trades) ctx₀ ctx)
    {ctx' : Ctx} (h : Started shared ctx ctx') : Started shared ctx₀ ctx' := by
  have hflag : ctx.self.downloadTrades = ctx₀.self.downloadTrades := congrArg (·.1) hs.trading
  have hfirst : ctx.self.downloadTradesIsFirst = ctx₀.self.downloadTradesIsFirst :=
    congrArg (·.2.1) hs.trading
  have hrequest : ctx.request.trades = ctx₀.request.trades := congrArg (·.2.2) hs.trading
  obtain ⟨calls,hcalls,hne⟩ := hs.sends
  obtain ⟨calls',hne',hcalls'⟩ := h.sends
  refine ⟨hflag.symm.trans h.before,by rw [h.after,hfirst,hrequest],calls ++ calls',?_,?_⟩
  · intro call hm
    rcases List.mem_append.mp hm with hm | hm
    · exact hne call hm
    · exact hne' call hm
  · rw [hcalls',hcalls,hfirst]
    simp only [List.append_assoc]

theorem spares_start {k : Kind} (hk : k = .account ∨ k = .orders) (ctx : Ctx) :
    Spares (fun call => call.kind ≠ some .trades) ctx (start shared ctx k) := by
  have hctx : Spares (fun call : Call => call.kind ≠ some .trades) ctx ctx := Spares.refl ctx
  unfold start
  split_ifs
  · rcases hk with rfl | rfl
    · exact (hctx.send (show Call.account.kind ≠ some .trades by decide)).modify rfl
    · exact (hctx.send (show Call.openOrders.kind ≠ some .trades by decide)).modify rfl
  · exact hctx

/-- A timer starts the download of the trades, or leaves it alone. -/
theorem onTimer_cases (refresh : Bool) (ctx : Ctx) :
    Spares (fun call => call.kind ≠ some .trades) ctx (onTimer shared t refresh ctx) ∨
      Started shared ctx (onTimer shared t refresh ctx) := by
  have hrefresh : Spares (fun call : Call => call.kind ≠ some .trades) ctx
      (refreshListenKey shared t ctx) := by
    refine (spares_refreshListenKey shared t ctx).mono ?_
    intro call hcall
    rw [hcall]
    decide
  simp only [onTimer]
  split_ifs
  · have horders := (hrefresh.trans (spares_start shared (.inl rfl) _)).trans
      (spares_start shared (.inr rfl) _)
    by_cases hidle : (start shared (start shared (refreshListenKey shared t ctx) .account)
        .orders).self.downloading = false ∧ (start shared (start shared
          (refreshListenKey shared t ctx) .account) .orders).request.trades.pending
    · exact .inr (.of_spares shared horders (started_start shared hidle.1 hidle.2))
    · refine .inl ?_
      change Spares _ ctx (start shared (start shared (start shared
        (refreshListenKey shared t ctx) .account) .orders) .trades)
      rw [start,if_neg]
      · exact horders
      · intro hstart
        rw [Bool.and_eq_true,Bool.not_eq_true',decide_eq_true_eq] at hstart
        exact hidle hstart
  · exact .inl hrefresh
  · exact .inl (Spares.refl ctx)

/-- While the trades are downloaded a timer starts nothing. -/
theorem spares_onTimer (refresh : Bool) (hflag : ctx.self.downloadTrades = true) :
    Spares Call.Aside ctx (onTimer shared t refresh ctx) := by
  have hrefresh := spares_refreshListenKey shared t ctx
  have hflag' : (refreshListenKey shared t ctx).self.downloadTrades = true :=
    (congrArg (·.1) hrefresh.trading).trans hflag
  simp only [onTimer]
  split_ifs with _ hidle
  · simp [downloading, hflag'] at hidle
  · exact hrefresh
  · exact Spares.refl ctx

/-- A timer that has nothing else to download starts the download of the trades. -/
theorem started_onTimer (hready : ctx.self.isReady = true) (hmaster : ctx.self.master = true)
    (hidle : ctx.self.downloading = false) (hpending : ctx.request.trades.pending)
    (haccount : ¬ ctx.request.account.pending) (horders : ¬ ctx.request.orders.pending) :
    Started shared ctx (onTimer shared t true ctx) := by
  have hrefresh := spares_refreshListenKey shared t ctx
  have hframe : (refreshListenKey shared t ctx).self.isReady = ctx.self.isReady ∧
      (refreshListenKey shared t ctx).self.master = ctx.self.master ∧
      (refreshListenKey shared t ctx).self.downloading = ctx.self.downloading ∧
      (refreshListenKey shared t ctx).request = ctx.request := by
    unfold refreshListenKey
    split_ifs <;> exact ⟨rfl,rfl,rfl,rfl⟩
  obtain ⟨hready',hmaster',hidle',hrequest⟩ := hframe
  have hsame (k : Kind) (hk : ¬ (ctx.request.stamps k).pending) :
      start shared (refreshListenKey shared t ctx) k = refreshListenKey shared t ctx := by
    unfold start
    rw [hrequest,if_neg (by simp [hk])]
  have htimer : onTimer shared t true ctx =
      start shared (refreshListenKey shared t ctx) .trades := by
    simp only [onTimer, hready', hready, hmaster', hmaster, hidle', hidle]
    change start shared (start shared (start shared _ .account) .orders) .trades = _
    rw [hsame .account haccount,hsame .orders horders]
  rw [htimer]
  refine .of_spares shared (hrefresh.mono fun call hcall => ?_)
    (started_start shared (hidle'.trans hidle) (by rw [hrequest]; exact hpending))
  rw [hcall]
  decide

/-- A timer does not end the process. -/
theorem fatal_onTimer (refresh : Bool) (hf : ctx.outputs.any Output.isFatal = false) :
    (onTimer shared t refresh ctx).outputs.any Output.isFatal = false := by
  have hrefresh : (refreshListenKey shared t ctx).outputs.any Output.isFatal = false := by
    unfold refreshListenKey
    split_ifs
    · exact hf
    · exact hf
    · simpa [getListenKey, Output.isFatal] using hf
  simp only [onTimer]
  split_ifs
  · refine List.foldlRecOn (motive := fun ctx : Ctx => ctx.outputs.any Output.isFatal = false)
      kinds (start shared) hrefresh fun c hc k _ => ?_
    unfold start
    split_ifs
    · cases k with
      | account => simpa [get, getAccount, Output.isFatal] using hc
      | orders => simpa [get, getOpenOrders, Output.isFatal] using hc
      | trades => simpa [get, getTrades_eq, Output.isFatal, Function.comp_def] using hc
      | _ => exact hc
    · exact hc
  · exact hrefresh
  · exact hf

end

/-- Everything has been answered when the connection goes down. -/
abbrev tradeHandlers (shared : Shared) :
    Link.Handlers OrderEntryPortfolio Call RestReply (Link.Input ClientRequest (· ∈ kinds)) :=
  handlers shared (· ∈ kinds) true

abbrev TradeEvent := Timed (Link.Event Call RestReply (Link.Input ClientRequest (· ∈ kinds)))

def tradeMachine (shared : Shared) (streamId : ℕ) (account : String) :
    Machine (Link OrderEntryPortfolio Call × ℕ) TradeEvent :=
  (Link.machine (tradeHandlers shared) (create streamId account)).clocked
    fun e => e.time.originCreateTime

/-- How many requests for trades are without an answer. -/
def outstanding (jobs : List (Link.Job Call)) : ℕ :=
  jobs.countP fun job => job.call.kind = some .trades

/-- The download of the trades has come to an end, by any of the signs of it. -/
def Completes (s s' : Link OrderEntryPortfolio Call) : Prop :=
  (¬ s.request.trades.completed ∧ s'.request.trades.completed) ∨
    (s.self.downloadTrades = true ∧ s'.self.downloadTrades = false) ∨
      (s.self.downloadTradesIsFirst = true ∧ s'.self.downloadTradesIsFirst = false)

instance (s s' : Link OrderEntryPortfolio Call) : Decidable (Completes s s') := by
  unfold Completes
  infer_instance

/-- The download ends when every request for trades has been answered, and while one has not
been no other download is started. -/
structure Awaits (shared : Shared) (p : Link OrderEntryPortfolio Call × ℕ) (e : TradeEvent)
    (p' : Link OrderEntryPortfolio Call × ℕ) : Prop where
  completes : Completes p.1 p'.1 → outstanding p'.1.inFlight = 0
  starts : 0 < outstanding p.1.inFlight →
    ∀ call ∈ sent (Link.handle (tradeHandlers shared) e.time e.event p.1), call.kind = none

/-- With one symbol at most a request is without an answer only while the flag is set. -/
structure Single (p : Link OrderEntryPortfolio Call × ℕ) : Prop where
  outstanding : outstanding p.1.inFlight ≤ if p.1.self.downloadTrades then 1 else 0
  respond : p.1.request.trades.respond ≤ p.2

/-- The stream after an event, with the time of it. -/
def stepped (shared : Shared) (s : Link OrderEntryPortfolio Call) (e : TradeEvent) :
    Link OrderEntryPortfolio Call × ℕ :=
  (Link.after (tradeHandlers shared) e.event
    (Link.handle (tradeHandlers shared) e.time e.event s) s,e.time.originCreateTime)

/-- The step that an event takes waits for the replies, and can be followed by another. -/
def Waits (shared : Shared) (s : Link OrderEntryPortfolio Call) (clock : ℕ) (e : TradeEvent) : Prop :=
  Single (stepped shared s e) ∧ Awaits shared (s,clock) e (stepped shared s e)

section
variable {shared : Shared} {s : Link OrderEntryPortfolio Call} {clock : ℕ} {e : TradeEvent}

theorem outstanding_after (event : Link.Event Call RestReply (Link.Input ClientRequest (· ∈ kinds)))
    (ctx : Ctx) :
    outstanding (Link.after (tradeHandlers shared) event ctx s).inFlight =
      outstanding (event.outstanding s.inFlight) +
        (sent ctx).countP fun call => call.kind = some .trades := by
  simp [outstanding, Link.after, sent, List.countP_append, List.countP_map, Function.comp_def]

theorem outstanding_append (jobs jobs' : List (Link.Job Call)) :
    outstanding (jobs ++ jobs') = outstanding jobs + outstanding jobs' := List.countP_append

theorem outstanding_erase {jobs : List (Link.Job Call)} {job : Link.Job Call} (hm : job ∈ jobs)
    (hkind : job.call.kind = some .trades) :
    outstanding (jobs.erase job) = outstanding jobs - 1 := by
  simp [outstanding, List.countP_erase, hm, hkind]

theorem countP_trades_eq_zero {calls : List Call} (h : ∀ call ∈ calls, call.kind ≠ some .trades) :
    calls.countP (fun call => call.kind = some .trades) = 0 := by
  rw [List.countP_eq_zero]
  intro call hm
  simpa using h call hm

theorem Call.Aside.ne_trades {call : Call} (h : call.Aside) : call.kind ≠ some .trades := by
  rw [h]
  decide

/-- While the flag is not set nothing is waited for. -/
theorem Single.outstanding_eq_zero (hv : Single (s,clock)) (hflag : s.self.downloadTrades = false) :
    OrderEntryPortfolio.outstanding s.inFlight = 0 := by
  have hsingle := hv.outstanding
  simpa [hflag] using hsingle

theorem Single.outstanding_le (hv : Single (s,clock)) :
    OrderEntryPortfolio.outstanding s.inFlight ≤ 1 := by
  have hsingle := hv.outstanding
  simp only at hsingle
  split_ifs at hsingle <;> omega

theorem Single.respond_le (hv : Single (s,clock)) {time : ℕ} (ht : clock < time) :
    s.request.trades.respond ≤ time := Nat.le_of_lt (Nat.lt_of_le_of_lt hv.respond ht)

theorem not_completes_of_trading {s' : Link OrderEntryPortfolio Call}
    (hflag : s.self.downloadTrades = true → s'.self.downloadTrades = true)
    (hfirst : s'.self.downloadTradesIsFirst = s.self.downloadTradesIsFirst)
    (hrequest : s.request.trades.completed ∨ ¬ s'.request.trades.completed) : ¬ Completes s s' := by
  rintro (⟨hn,hc⟩ | ⟨h,h'⟩ | ⟨h,h'⟩)
  · rcases hrequest with h | h
    · exact hn h
    · exact h hc
  · rw [hflag h] at h'
    cases h'
  · rw [hfirst,h] at h'
    cases h'

/-- An event that leaves the download alone and answers no request for it. -/
theorem single_of_spares (hv : Single (s,clock)) (ht : clock < e.time.originCreateTime)
    (hjobs : outstanding (e.event.outstanding s.inFlight) = outstanding s.inFlight) {P : Call → Prop}
    (hP : ∀ call, P call → call.kind ≠ some .trades)
    (h : Spares P ⟨s.self,s.request,[]⟩ (Link.handle (tradeHandlers shared) e.time e.event s)) :
    Single (stepped shared s e) ∧ ¬ Completes s (stepped shared s e).1 := by
  have hflag : (stepped shared s e).1.self.downloadTrades = s.self.downloadTrades :=
    congrArg (·.1) h.trading
  have hfirst : (stepped shared s e).1.self.downloadTradesIsFirst = s.self.downloadTradesIsFirst :=
    congrArg (·.2.1) h.trading
  have hrequest : (stepped shared s e).1.request.trades = s.request.trades :=
    congrArg (·.2.2) h.trading
  obtain ⟨calls,hcalls,hcall⟩ := h.sends
  refine ⟨⟨?_,?_⟩,?_⟩
  · rw [hflag,stepped,outstanding_after,hjobs,hcalls]
    rw [show sent ⟨s.self,s.request,[]⟩ ++ calls = calls from rfl]
    rw [countP_trades_eq_zero fun call hm => hP call (hcall call hm)]
    exact hv.outstanding
  · rw [hrequest]
    exact hv.respond_le ht
  · refine not_completes_of_trading (fun hs => hflag.trans hs) hfirst ?_
    rw [hrequest]
    exact em _

/-- An event that sends no request for a download. -/
theorem waits_of_aside (hv : Single (s,clock)) (ht : clock < e.time.originCreateTime)
    (hjobs : outstanding (e.event.outstanding s.inFlight) = outstanding s.inFlight)
    (h : Spares Call.Aside ⟨s.self,s.request,[]⟩ (Link.handle (tradeHandlers shared) e.time e.event s)) :
    Waits shared s clock e := by
  obtain ⟨hsingle,hnot⟩ := single_of_spares hv ht hjobs (fun _ h => Call.Aside.ne_trades h) h
  refine ⟨hsingle,fun hc => absurd hc hnot,fun _ => ?_⟩
  obtain ⟨calls,hcalls,hcall⟩ := h.sends
  rw [hcalls]
  exact hcall

/-- The reply to a request for trades ends the download, and no other request is waited for. -/
theorem waits_of_completed (hv : Single (s,clock)) {time : TraceInfo} {job : Link.Job Call}
    {reply : RestReply} (hm : job ∈ s.inFlight) (hkind : job.call.kind = some .trades)
    (h : Completed time ⟨s.self,s.request,[]⟩
      (Link.handle (tradeHandlers shared) time (.reply job reply) s)) :
    Waits shared s clock ⟨time,.reply job reply⟩ := by
  obtain ⟨calls,hcalls,hcall⟩ := h.sends
  have hone := hv.outstanding_le
  have hnone : outstanding (stepped shared s ⟨time,.reply job reply⟩).1.inFlight = 0 := by
    rw [stepped,outstanding_after,hcalls]
    rw [show sent ⟨s.self,s.request,[]⟩ ++ calls = calls from rfl]
    rw [countP_trades_eq_zero fun call hm => (hcall call hm).ne_trades]
    change outstanding (s.inFlight.erase job) + 0 = 0
    rw [outstanding_erase hm hkind]
    omega
  refine ⟨⟨Nat.le_trans (Nat.le_of_eq hnone) (Nat.zero_le _),?_⟩,fun _ => hnone,fun _ => ?_⟩
  · change (Link.handle (tradeHandlers shared) time (.reply job reply) s).request.trades.respond ≤ _
    rw [h.respond]
    exact Nat.le_refl _
  · rw [hcalls]
    exact hcall

/-- A timer asks for the trades of at most one symbol, when none is waited for. -/
theorem waits_of_started (hv : Single (s,clock)) (hL : shared.settings.downloadSymbols.length ≤ 1)
    (ht : clock < e.time.originCreateTime) (hjobs : e.event.outstanding s.inFlight = s.inFlight)
    (h : Started shared ⟨s.self,s.request,[]⟩ (Link.handle (tradeHandlers shared) e.time e.event s)) :
    Waits shared s clock e := by
  have hnone : outstanding s.inFlight = 0 := hv.outstanding_eq_zero h.before
  have hflag : (stepped shared s e).1.self.downloadTrades = true := congrArg (·.1) h.after
  have hfirst : (stepped shared s e).1.self.downloadTradesIsFirst = s.self.downloadTradesIsFirst :=
    congrArg (·.2.1) h.after
  have hrequest : (stepped shared s e).1.request.trades = s.request.trades := congrArg (·.2.2) h.after
  obtain ⟨calls,hcalls,hsent⟩ := h.sends
  refine ⟨⟨?_,?_⟩,fun hc => absurd hc (not_completes_of_trading (fun _ => hflag) hfirst ?_),?_⟩
  · rw [if_pos hflag,stepped,outstanding_after,hjobs,hnone,hsent]
    have hother := countP_trades_eq_zero hcalls
    have hmap := List.countP_le_length (p := fun call : Call => decide (call.kind = some .trades))
      (l := shared.settings.downloadSymbols.map (tradesCall shared s.self.downloadTradesIsFirst))
    rw [List.length_map] at hmap
    simp only [sent, List.filterMap_nil, List.nil_append, List.countP_append, hother]
    omega
  · rw [hrequest]
    exact hv.respond_le ht
  · rw [hrequest]
    exact em _
  · intro hpos
    simp only [hnone] at hpos
    omega

theorem waits_timer (hv : Single (s,clock)) (hL : shared.settings.downloadSymbols.length ≤ 1)
    {time : TraceInfo} (ht : clock < time.originCreateTime) (timerNow : ℕ) (refresh : Bool) :
    Waits shared s clock ⟨time,.input (.timer timerNow refresh)⟩ := by
  cases hflag : s.self.downloadTrades with
  | true => exact waits_of_aside hv ht rfl (spares_onTimer shared time refresh hflag)
  | false =>
    rcases onTimer_cases shared time refresh ⟨s.self,s.request,[]⟩ with h | h
    · have hnone := hv.outstanding_eq_zero hflag
      obtain ⟨hsingle,hnot⟩ := single_of_spares
        (e := ⟨time,.input (.timer timerNow refresh)⟩) hv ht rfl (fun _ h => h) h
      refine ⟨hsingle,fun hc => absurd hc hnot,fun hpos => ?_⟩
      simp only [hnone] at hpos
      omega
    · exact waits_of_started hv hL ht rfl h

theorem waits_post (hv : Single (s,clock)) {time : TraceInfo} (ht : clock < time.originCreateTime)
    {k : Kind} (hk : k ∈ kinds) : Waits shared s clock ⟨time,.input (.post k hk)⟩ := by
  have hpost : (s.request.post k time.originCreateTime).trades =
      if .trades = k then {s.request.trades with request := time.originCreateTime}
      else s.request.trades := s.request.stamps_post k .trades _
  refine ⟨⟨?_,?_⟩,fun hc => absurd hc (not_completes_of_trading id rfl ?_),fun _ call hm => ?_⟩
  · rw [stepped,outstanding_after]
    exact hv.outstanding
  · change (s.request.post k time.originCreateTime).trades.respond ≤ time.originCreateTime
    rw [hpost]
    split_ifs
    · exact hv.respond_le ht
    · exact hv.respond_le ht
  · change s.request.trades.completed ∨
      ¬ (s.request.post k time.originCreateTime).trades.completed
    rw [hpost]
    split_ifs
    · have hrespond := hv.respond_le ht
      exact .inr (by simp only [Stamps.completed]; omega)
    · exact em _
  · cases hm

/-- With one symbol at most every step waits for its reply. -/
theorem single_step (hL : shared.settings.downloadSymbols.length ≤ 1) {streamId : ℕ} {account : String}
    {p p' : Link OrderEntryPortfolio Call × ℕ} {e : TradeEvent} (hv : Single p)
    (hn : (tradeMachine shared streamId account).next p e = some p') :
    Single p' ∧ Awaits shared p e p' := by
  obtain ⟨s,clock⟩ := p
  obtain ⟨s',clock'⟩ := p'
  obtain ⟨ht,hnext,rfl⟩ := (Machine.clocked_next_eq_some _).mp hn
  obtain ⟨he,hf,rfl⟩ := Link.next_eq_some hnext
  obtain ⟨time,event⟩ := e
  cases event with
  | connected => exact waits_of_aside hv ht rfl (spares_onConnected _)
  | disconnected =>
    have hempty : s.inFlight = [] := he.2 rfl
    have hnone : outstanding (stepped shared s ⟨time,.disconnected⟩).1.inFlight = 0 := by
      rw [stepped,outstanding_after,Link.Event.outstanding,hempty]
      rfl
    refine ⟨⟨Nat.le_trans (Nat.le_of_eq hnone) (Nat.zero_le _),hv.respond_le ht⟩,
      fun _ => hnone,fun hpos => ?_⟩
    simp [hempty, outstanding] at hpos
  | reply job reply =>
    by_cases hkind : job.call.kind = some .trades
    · exact waits_of_completed hv he.1 hkind
        (completed_onResponse shared time hkind reply.response reply.retryNow hf)
    · refine waits_of_aside hv ht ?_
        (spares_onResponse shared time hkind reply.response reply.retryNow _)
      change outstanding (s.inFlight.erase job) = outstanding s.inFlight
      simp [outstanding, List.countP_erase, hkind]
  | input input =>
    cases input with
    | timer timerNow refresh => exact waits_timer hv hL ht timerNow refresh
    | client request => exact waits_of_aside hv ht rfl (spares_onRequest shared request _)
    | post k hk => exact waits_post hv ht hk

theorem single_create (streamId : ℕ) (account : String) :
    Single (Link.create (create streamId account),0) := ⟨Nat.zero_le _,Nat.le_refl _⟩

def success (body : Body) : RestReply := ⟨.result 200 .success 0 body,false⟩

/-- The stream becomes ready, and is asked for the trades. -/
def requestedRun : List TradeEvent :=
  [⟨⟨1,1⟩,.connected⟩,
    ⟨⟨2,2⟩,.reply ⟨.listenKey,false,false⟩ (success {Body.unreadable with listenKeyAck := .ok ⟨"key"⟩})⟩,
    ⟨⟨3,3⟩,.input (.post .trades (by decide))⟩]

def requested (shared : Shared) (streamId : ℕ) (account : String) : Link OrderEntryPortfolio Call where
  self := {create streamId account with
    listenKey := "key", ready := true, listenKeyRefresh := 2+shared.settings.listenKeyRefresh,
    connectionStatus := .ready, download := .done .done}
  request := Request.empty.post .trades 3
  up := true
  inFlight := []

theorem run_requested (shared : Shared) (streamId : ℕ) (account : String) :
    (tradeMachine shared streamId account).run (tradeMachine shared streamId account).init
      requestedRun = some (requested shared streamId account,3) := rfl

/-- The timer then asks for the trades of every symbol. -/
def timerEvent : TradeEvent := ⟨⟨4,4⟩,.input (.timer 4 true)⟩

def asked (shared : Shared) (streamId : ℕ) (account : String) : Link OrderEntryPortfolio Call :=
  Link.after (tradeHandlers shared) timerEvent.event
    (Link.handle (tradeHandlers shared) timerEvent.time timerEvent.event
      (requested shared streamId account)) (requested shared streamId account)

theorem started_asked (shared : Shared) (streamId : ℕ) (account : String) :
    Started shared ⟨(requested shared streamId account).self,
      (requested shared streamId account).request,[]⟩
      (Link.handle (tradeHandlers shared) timerEvent.time timerEvent.event
        (requested shared streamId account)) :=
  started_onTimer shared ⟨4,4⟩ rfl rfl rfl (show 0 < 3 by decide) (show ¬ 0 < 0 by decide)
    (show ¬ 0 < 0 by decide)

theorem next_requested (shared : Shared) (streamId : ℕ) (account : String) :
    (tradeMachine shared streamId account).next (requested shared streamId account,3) timerEvent =
      some (asked shared streamId account,4) := by
  rw [tradeMachine,Machine.clocked_next_eq_some]
  have he : Link.Enabled (tradeHandlers shared) (requested shared streamId account)
      timerEvent.event := trivial
  have hf : (Link.handle (tradeHandlers shared) timerEvent.time timerEvent.event
      (requested shared streamId account)).outputs.any Output.isFatal = false :=
    fatal_onTimer shared ⟨4,4⟩ true rfl
  exact ⟨show 3 < 4 by decide,Link.next_of_enabled he hf,rfl⟩

theorem inFlight_asked (shared : Shared) (streamId : ℕ) (account : String) :
    ∃ jobs, (asked shared streamId account).inFlight =
      jobs ++ shared.settings.downloadSymbols.map fun symbol => ⟨tradesCall shared true symbol,true,false⟩ := by
  obtain ⟨calls,-,hsent⟩ := (started_asked shared streamId account).sends
  refine ⟨calls.map fun call => ⟨call,true,false⟩,?_⟩
  change [] ++ (sent (Link.handle (tradeHandlers shared) timerEvent.time timerEvent.event
    (requested shared streamId account))).map _ = _
  rw [hsent]
  simp [sent, requested, create, timerEvent, Link.timed, tradeHandlers, handlers, Link.Input.isTimer]

/-- The reply for a symbol, with those for the others still to come. -/
def firstReply (shared : Shared) (symbol : String) : TradeEvent :=
  ⟨⟨5,5⟩,.reply ⟨tradesCall shared true symbol,true,false⟩
    (success {Body.unreadable with tradesAck := .ok ⟨[]⟩})⟩

theorem mem_asked (streamId : ℕ) (account : String) {symbol : String}
    (hm : symbol ∈ shared.settings.downloadSymbols) :
    ⟨tradesCall shared true symbol,true,false⟩ ∈ (asked shared streamId account).inFlight := by
  obtain ⟨jobs,hjobs⟩ := inFlight_asked shared streamId account
  rw [hjobs]
  exact List.mem_append_right _ (List.mem_map_of_mem hm)

theorem length_le_outstanding_asked (streamId : ℕ) (account : String) :
    shared.settings.downloadSymbols.length ≤ outstanding (asked shared streamId account).inFlight := by
  obtain ⟨jobs,hjobs⟩ := inFlight_asked shared streamId account
  have hall : outstanding (shared.settings.downloadSymbols.map fun symbol =>
      ⟨tradesCall shared true symbol,true,false⟩) = shared.settings.downloadSymbols.length := by
    rw [outstanding,List.countP_map]
    exact List.countP_eq_length.mpr fun _ _ => rfl
  rw [hjobs,outstanding_append,hall]
  omega

theorem next_asked (streamId : ℕ) (account : String) {symbol : String}
    (hm : symbol ∈ shared.settings.downloadSymbols) :
    (tradeMachine shared streamId account).next (asked shared streamId account,4)
      (firstReply shared symbol) =
        some (stepped shared (asked shared streamId account) (firstReply shared symbol)) := by
  rw [tradeMachine,Machine.clocked_next_eq_some]
  have he : Link.Enabled (tradeHandlers shared) (asked shared streamId account)
      (firstReply shared symbol).event := ⟨mem_asked streamId account hm,fun _ => ⟨rfl,rfl⟩⟩
  exact ⟨show 4 < 5 by decide,Link.next_of_enabled he rfl,rfl⟩

/-- Its step ends the download. -/
theorem not_awaits_firstReply (streamId : ℕ) (account : String) {symbol : String}
    (hm : symbol ∈ shared.settings.downloadSymbols)
    (hlen : 1 < shared.settings.downloadSymbols.length) :
    ¬ Awaits shared (asked shared streamId account,4) (firstReply shared symbol)
      (stepped shared (asked shared streamId account) (firstReply shared symbol)) := by
  intro hawaits
  have hflag : (asked shared streamId account).self.downloadTrades = true :=
    congrArg (·.1) (started_asked shared streamId account).after
  have hzero := hawaits.completes (.inr (.inl ⟨hflag,rfl⟩))
  have hasked : shared.settings.downloadSymbols.length ≤ _ :=
    length_le_outstanding_asked streamId account
  rw [stepped,outstanding_after] at hzero
  change outstanding ((asked shared streamId account).inFlight.erase _) + _ = 0 at hzero
  rw [outstanding_erase (mem_asked streamId account hm) rfl] at hzero
  omega

end

/-- Every run waits for the replies of all symbols exactly when there is one symbol at most. -/
theorem trades_awaited_iff (shared : Shared) (streamId : ℕ) (account : String) :
    (∀ es, (tradeMachine shared streamId account).Steps (Awaits shared)
      (tradeMachine shared streamId account).init es) ↔
        shared.settings.downloadSymbols.length ≤ 1 := by
  constructor
  · intro h
    by_contra hlen
    obtain ⟨symbol,hm⟩ : ∃ symbol, symbol ∈ shared.settings.downloadSymbols :=
      List.exists_mem_of_length_pos (by omega)
    have hsteps := (h (requestedRun ++ [timerEvent,firstReply shared symbol])).after
      (run_requested shared streamId account)
    have hreply := ((Machine.steps_cons _ (next_requested shared streamId account)).mp hsteps).2
    exact not_awaits_firstReply streamId account hm (by omega)
      ((Machine.steps_cons _ (next_asked streamId account hm)).mp hreply).1
  · intro hL es
    exact Machine.steps_of_invariant _ (fun p e p' hv hn => single_step hL hv hn)
      (single_create streamId account) es

/-- A gateway that downloads the trades of two symbols. -/
def twoSymbols : Shared :=
  {Shared.sample with
    settings := {Shared.sample.settings with
      downloadSymbols := ["BTCUSDT","ETHUSDT"], tradesLookback := 3600*10^9}}

def earlyRun : List TradeEvent :=
  requestedRun ++ [timerEvent,firstReply twoSymbols "BTCUSDT"]

/-- A test for a step that ends the download when nothing is waited for any more. -/
def completesTest (p : Link OrderEntryPortfolio Call × ℕ) (_ : TradeEvent)
    (p' : Link OrderEntryPortfolio Call × ℕ) : Bool :=
  !decide (Completes p.1 p'.1) || decide (outstanding p'.1.inFlight = 0)

/-- The trades of the second symbol have not arrived when the download ends. -/
theorem first_reply_completes :
    ¬ ∀ es, (tradeMachine twoSymbols 3 "A1").Steps (Awaits twoSymbols)
      (tradeMachine twoSymbols 3 "A1").init es := by
  intro h
  have htest : ∀ p e p', Awaits twoSymbols p e p' → completesTest p e p' = true := by
    intro p e p' ha
    by_cases hc : Completes p.1 p'.1
    · simp [completesTest, ha.completes hc]
    · simp [completesTest, hc]
  have hrun := (h earlyRun).test htest
  have hfails : (tradeMachine twoSymbols 3 "A1").test completesTest
    (tradeMachine twoSymbols 3 "A1").init earlyRun = false := by decide
  rw [hfails] at hrun
  cases hrun

end OrderEntryPortfolio
end RoqBinance.Gateway
