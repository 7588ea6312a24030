import RoqBinance.Gateway.Margin
import RoqBinance.Gateway.SteadyLinks

/-! The margin stream recovers one thing at a time: a flag says which request of its timer is
without an answer, and while one is set the timer sends no other. -/
namespace RoqBinance.Gateway
open Library Protocol.Json

/-- The downloads that have not been asked for by `asks` have never been asked for. -/
def Request.Only (asks : Kind → Prop) (r : Request) : Prop :=
  ∀ k, ¬ asks k → (r.stamps k).request = 0

theorem Request.Only.post {asks : Kind → Prop} {r : Request} (h : r.Only asks) {k : Kind}
    (hk : asks k) (time : ℕ) : (r.post k time).Only asks := by
  intro j hj
  rw [stamps_post,if_neg]
  · exact h j hj
  · rintro rfl
    exact hj hk

theorem Request.Only.reply {asks : Kind → Prop} {r : Request} (h : r.Only asks) (k : Kind)
    (time : ℕ) : (r.reply k time).Only asks := by
  intro j hj
  rw [stamps_reply]
  split_ifs
  · exact h j hj
  · exact h j hj

namespace OrderEntryMargin

/-- What the timer recovers: a download that has been asked for, or the borrowed amounts. -/
inductive Recovery
  | download (k : Kind)
  | borrowed
  deriving DecidableEq, Repr

def flag (r : Recovery) (self : OrderEntryMargin) : Bool :=
  match r with
  | .download .account => self.downloadAccount
  | .download .orders => self.downloadOrders
  | .download .trades => self.downloadTrades
  | .download .listenKeyCross => self.downloadListenKeyCross
  | .download .accountCross => self.downloadAccountCross
  | .download .ordersCross => self.downloadOrdersCross
  | .download .tradesCross => self.downloadTradesCross
  | .borrowed => self.downloadAccountCrossOnTimer

/-- What a request is for. -/
def Call.recovery : Call → Option Recovery
  | .listenKey .cross => some (.download .listenKeyCross)
  | .listenKey _ => none
  | .accountCrossOnTimer => some .borrowed
  | call => call.kind.map .download

def Call.Client : Call → Prop
  | .newOrder _ _ _ => True
  | .cancelOrder _ _ _ _ => True
  | .cancelAllOpenOrders _ _ _ => True
  | _ => False

def sent (ctx : Ctx) : List Call := ctx.outputs.filterMap Output.sent

theorem flag_setDownload (k : Kind) (value : Bool) (r : Recovery) (self : OrderEntryMargin) :
    flag r (setDownload k value self) = if r = .download k then value else flag r self := by
  cases r with
  | download j => cases k <;> cases j <;> rfl
  | borrowed => cases k <;> rfl

theorem downloading_eq_false {self : OrderEntryMargin} :
    self.downloading = false ↔ ∀ r, flag r self = false := by
  constructor
  · intro h r
    simp only [downloading, Bool.or_eq_false_iff] at h
    cases r with
    | download k => cases k <;> simp [flag, h]
    | borrowed => exact h.2
  · intro h
    have hk (k : Kind) := h (.download k)
    simp only [downloading, Bool.or_eq_false_iff]
    exact ⟨⟨⟨⟨⟨⟨⟨hk .account,hk .orders⟩,hk .trades⟩,hk .listenKeyCross⟩,hk .accountCross⟩,
      hk .ordersCross⟩,hk .tradesCross⟩,h .borrowed⟩

/-- At most one recovery has been started; its flag is set and its request has been sent. -/
def Started (o : Option Recovery) (ctx : Ctx) : Prop :=
  (∀ r, flag r ctx.self = decide (o = some r)) ∧ (sent ctx).map Call.recovery = o.toList.map some

section
variable (shared : Shared) {r : Request} {ctx : Ctx}

theorem sent_get {k : Kind} (hk : DropCopyMargin.Asks k) (ctx : Ctx) :
    (get shared k ctx).self = ctx.self ∧ (get shared k ctx).request = ctx.request ∧
      ∃ call, sent (get shared k ctx) = sent ctx ++ [call] ∧ call.recovery = some (.download k) := by
  cases k with
  | listenKeyCross => exact ⟨rfl,rfl,.listenKey .cross,by simp [sent, get, getListenKey, Output.sent],rfl⟩
  | accountCross => exact ⟨rfl,rfl,.account .cross,by simp [sent, get, getAccount, Output.sent],rfl⟩
  | ordersCross => exact ⟨rfl,rfl,.openOrders .cross,by simp [sent, get, getOpenOrders, Output.sent],rfl⟩
  | _ => exact hk.elim

/-- While nothing is in progress nothing has been started. -/
theorem Started.none_of_idle {o : Option Recovery} (h : Started o ctx)
    (hidle : ctx.self.downloading = false) : o = none := by
  cases o with
  | none => rfl
  | some r =>
    have hr := h.1 r
    rw [downloading_eq_false.mp hidle r] at hr
    simp at hr

theorem started_start (k : Kind) (hr : r.Only DropCopyMargin.Asks)
    (h : ctx.request = r ∧ ∃ o, Started o ctx) :
    (start shared ctx k).request = r ∧ ∃ o, Started o (start shared ctx k) := by
  obtain ⟨hrequest,o,ho⟩ := h
  unfold start
  split_ifs with hstart
  · simp only [Bool.and_eq_true, Bool.not_eq_true', decide_eq_true_eq] at hstart
    obtain ⟨hidle,hpending⟩ := hstart
    obtain rfl := ho.none_of_idle hidle
    have hk : DropCopyMargin.Asks k := by
      by_contra hk
      rw [hrequest] at hpending
      simp [hr k hk] at hpending
    obtain ⟨hself,hreq,call,hcall,hrec⟩ := sent_get shared hk ctx
    refine ⟨hreq.trans hrequest,some (.download k),?_,?_⟩
    · intro r'
      rw [Context.modify_self,flag_setDownload,hself,downloading_eq_false.mp hidle r']
      by_cases hk : r' = .download k
      · simp [hk]
      · simp [hk, Ne.symm hk]
    · have hnone : (sent ctx).map Call.recovery = [] := ho.2
      change (sent (get shared k ctx)).map Call.recovery = _
      rw [hcall,List.map_append,hnone]
      simp [hrec]
  · exact ⟨hrequest,o,ho⟩

theorem started_pollBorrowed (timerNow : ℕ) (h : ∃ o, Started o ctx) :
    ∃ o, Started o (pollBorrowed shared timerNow ctx) := by
  obtain ⟨o,ho⟩ := h
  unfold pollBorrowed
  split_ifs with hstart
  · have hidle : ctx.self.downloading = false := by simp_all
    obtain rfl := ho.none_of_idle hidle
    refine ⟨some .borrowed,?_,?_⟩
    · intro r'
      have hr' := downloading_eq_false.mp hidle r'
      cases r' with
      | download k => cases k <;> exact hr'
      | borrowed => rfl
    · have hnone : (sent ctx).map Call.recovery = [] := ho.2
      have hsent : sent (getAccountCrossOnTimer ctx) = sent ctx ++ [.accountCrossOnTimer] := by
        simp [sent, getAccountCrossOnTimer, Output.sent]
      change (sent (getAccountCrossOnTimer ctx)).map Call.recovery = _
      rw [hsent,List.map_append,hnone]
      rfl
  · exact ⟨o,ho⟩

/-- A timer that starts anything starts one recovery. -/
theorem started_startAll (timerNow : ℕ) {self : OrderEntryMargin}
    (hr : r.Only DropCopyMargin.Asks) (hidle : self.downloading = false) :
    ∃ o, Started o (startAll shared timerNow ⟨self,r,[]⟩) := by
  refine started_pollBorrowed shared timerNow ?_
  have hstart : Started none (⟨self,r,[]⟩ : Ctx) := by
    refine ⟨?_,rfl⟩
    intro r'
    simpa using downloading_eq_false.mp hidle r'
  exact (List.foldlRecOn (motive := fun ctx : Ctx => ctx.request = r ∧ ∃ o, Started o ctx) kinds
    (start shared) ⟨rfl,none,hstart⟩ fun ctx hc k _ => started_start shared k hr hc).2

end

/-- The flag of a recovery is cleared, if any, and only such requests are sent. -/
structure Does (o : Option Recovery) (P : Call → Prop) (ctx ctx' : Ctx) : Prop where
  flag : ∀ r, flag r ctx'.self = (flag r ctx.self && decide (o ≠ some r))
  sends : ∃ calls, sent ctx' = sent ctx ++ calls ∧ ∀ call ∈ calls, P call

namespace Does
variable {o : Option Recovery} {P : Call → Prop} {ctx ctx' : Ctx}

theorem refl (ctx : Ctx) : Does none P ctx ctx :=
  ⟨fun r => by simp,[],(List.append_nil _).symm,fun _ h => by cases h⟩

theorem emit (h : Does o P ctx ctx') {output : Output Call} (ho : output.sent = none) :
    Does o P ctx (ctx'.emit output) := by
  obtain ⟨calls,hcalls,hP⟩ := h.sends
  exact ⟨h.flag,calls,by simpa [OrderEntryMargin.sent, ho] using hcalls,hP⟩

theorem send (h : Does o P ctx ctx') {call : Call} (hcall : P call) :
    Does o P ctx (ctx'.send call) := by
  obtain ⟨calls,hcalls,hP⟩ := h.sends
  refine ⟨h.flag,calls ++ [call],?_,?_⟩
  · have hsent : OrderEntryMargin.sent (ctx'.send call) = OrderEntryMargin.sent ctx' ++ [call] := by
      simp [OrderEntryMargin.sent, Output.sent]
    rw [hsent,hcalls,List.append_assoc]
  · intro c hc
    rcases List.mem_append.mp hc with hc | hc
    · exact hP c hc
    · rwa [List.mem_singleton.mp hc]

theorem dispatch (h : Does o P ctx ctx') (update : Dispatch) :
    Does o P ctx (ctx'.dispatch update) := h.emit rfl

theorem dispatchAll (h : Does o P ctx ctx') (updates : List Dispatch) :
    Does o P ctx (ctx'.dispatchAll updates) := by
  obtain ⟨calls,hcalls,hP⟩ := h.sends
  have hnone : (updates.map (Output.dispatch : Dispatch → Output Call)).filterMap Output.sent = [] := by
    simp [List.filterMap_map, Function.comp_def, Output.sent]
  refine ⟨h.flag,calls,?_,hP⟩
  simpa [OrderEntryMargin.sent, hnone] using hcalls

theorem modify (h : Does o P ctx ctx') {g : OrderEntryMargin → OrderEntryMargin}
    (hg : ∀ r, OrderEntryMargin.flag r (g ctx'.self) = OrderEntryMargin.flag r ctx'.self) :
    Does o P ctx (ctx'.modify g) := ⟨fun r => (hg r).trans (h.flag r),h.sends⟩

theorem foldl {α : Type} {f : Ctx → α → Ctx} {xs : List α} (h : Does o P ctx ctx')
    (hf : ∀ c, Does o P ctx c → ∀ x, Does o P ctx (f c x)) : Does o P ctx (xs.foldl f ctx') :=
  List.foldlRecOn xs f h fun c hc x _ => hf c hc x

theorem wafLimitViolation (h : Does o P ctx ctx') (shared : Shared) :
    Does o P ctx (wafLimitViolation shared ctx') := by
  unfold Gateway.wafLimitViolation
  split_ifs
  · exact h.emit rfl
  · exact h.emit rfl

end Does

theorem does_remember {o : Option Recovery} {P : Call → Prop} {ctx₀ ctx : Ctx} (h : Does o P ctx₀ ctx)
    (symbol : String) :
    Does o P ctx₀ (ctx.modify fun self =>
      {self with openOrdersSymbols := emplace self.openOrdersSymbols symbol}) := by
  refine h.modify ?_
  intro r
  cases r with
  | download k => cases k <;> rfl
  | borrowed => rfl

section
variable (shared : Shared) {ctx₀ ctx : Ctx}

theorem does_onRequest (request : ClientRequest) (ctx : Ctx) :
    Does none Call.Client ctx (onRequest shared request ctx).1 := by
  have hctx : Does none Call.Client ctx ctx := Does.refl ctx
  cases request with
  | createOrder info request body =>
    have hsymbol := does_remember hctx request.symbol
    simp only [onRequest, newOrder]
    split_ifs
    · exact hctx
    · split
      · exact hsymbol
      · exact hsymbol.send trivial
  | modifyOrder info request => exact hctx
  | cancelOrder info request marginMode body =>
    simp only [onRequest, cancelOrder]
    split_ifs
    · exact hctx
    · split
      · exact hctx
      · exact hctx
    · split
      · exact hctx
      · exact hctx.send trivial
  | cancelAllOrders request requestId =>
    simp only [onRequest, cancelAllOpenOrders]
    split_ifs
    · exact hctx
    · refine hctx.foldl ?_
      intro c hc symbol
      split_ifs
      · exact hc
      · have hisolated := hc.send
          (show (Call.cancelAllOpenOrders symbol .isolated requestId).Client from trivial)
        have hcross := hisolated.send
          (show (Call.cancelAllOpenOrders symbol .cross requestId).Client from trivial)
        exact hcross.dispatch _

/-- Unless the process has ended the recovery has, and nothing has been sent. -/
def Ends (o : Option Recovery) (ctx ctx' : Ctx) : Prop :=
  ctx'.outputs.any Output.isFatal = false → Does o (fun _ => False) ctx ctx'

theorem ends_fatal (o : Option Recovery) (ctx₀ ctx : Ctx) (text : String) :
    Ends o ctx₀ (ctx.fatal text) := by
  intro hno
  simp [Output.isFatal] at hno

theorem ends_processResponse {α : Type} {o : Option Recovery} {decode : Body → Except String α}
    {response : RestResponse}
    {errorHandler : Origin → RequestStatus → Error → String → Ctx → Ctx}
    {successHandler : α → Ctx → Ctx}
    (herror : ∀ origin status error text ctx', Does none (fun _ => False) ctx ctx' →
      Ends o ctx (errorHandler origin status error text ctx'))
    (hsuccess : ∀ value, Ends o ctx (successHandler value ctx)) :
    Ends o ctx (processResponse shared decode response errorHandler successHandler ctx) := by
  have hctx : Does none (fun _ => False) ctx ctx := Does.refl ctx
  refine processResponseWith_cases (I := fun ctx' => Does none (fun _ => False) ctx ctx') hctx ?_
    herror (fun value _ => hsuccess value) fun text => ends_fatal o ctx ctx text
  intro forbidden retryAfter
  unfold limit
  split_ifs
  · exact hctx.wafLimitViolation shared
  · exact hctx

variable (t : TraceInfo)

theorem ends_completion (k : Kind) (h : Does none (fun _ => False) ctx₀ ctx) :
    Ends (some (.download k)) ctx₀ (completion k t ctx) := by
  intro _
  refine ⟨?_,h.sends⟩
  intro r
  have hr := h.flag r
  rw [completion,Context.modify_self,flag_setDownload,Context.reply_self]
  by_cases hk : r = .download k
  · simp [hk]
  · simpa [hk, Ne.symm hk] using hr

theorem ends_completionOnTimer (h : Does none (fun _ => False) ctx₀ ctx) :
    Ends (some .borrowed) ctx₀ (completionOnTimer t ctx) := by
  intro _
  refine ⟨?_,h.sends⟩
  intro r
  cases r with
  | download k =>
    have hk := h.flag (.download k)
    cases k <;> simpa [completionOnTimer, flag] using hk
  | borrowed => simp [completionOnTimer, flag]

theorem ends_completeOrders (marginMode : MarginMode) (h : Does none (fun _ => False) ctx₀ ctx) :
    Ends (Call.openOrders marginMode).recovery ctx₀ (completeOrders t marginMode ctx) := by
  cases marginMode with
  | undefined => exact ends_completion t .orders h
  | isolated => exact ends_fatal _ _ _ _
  | cross => exact ends_completion t .ordersCross h
  | portfolio => exact ends_fatal _ _ _ _

theorem does_onOpenOrdersAck (ack : OpenOrdersAck) (marginMode : MarginMode) (ctx : Ctx) :
    Does none (fun _ => False) ctx (onOpenOrdersAck shared ack marginMode ctx) := by
  refine (Does.refl ctx).foldl ?_
  intro c hc order
  unfold onOpenOrder
  split_ifs
  · exact hc
  · exact (does_remember hc order.symbol).dispatch _

theorem ends_completeTrades (marginMode : MarginMode) (symbol : String) (lookback limit : ℕ)
    (h : Does none (fun _ => False) ctx₀ ctx) :
    Ends (Call.trades marginMode symbol lookback limit).recovery ctx₀
      (completeTrades t marginMode ctx) := by
  cases marginMode with
  | undefined => exact ends_completion t .trades h
  | isolated => exact ends_fatal _ _ _ _
  | cross => exact ends_completion t .tradesCross h
  | portfolio => exact ends_fatal _ _ _ _

theorem flag_notFirst (marginMode : MarginMode) (r : Recovery) (self : OrderEntryMargin) :
    flag r (notFirst marginMode self) = flag r self := by
  cases r with
  | download k => cases marginMode <;> cases k <;> rfl
  | borrowed => cases marginMode <;> rfl

/-- Each callback, apart from that of a listen key, ends the recovery that its request was for. -/
theorem ends_onResponse {call : Call} (hcall : ∀ marginMode, call ≠ .listenKey marginMode)
    (response : RestResponse) (retryNow : Bool) (ctx : Ctx) :
    Ends call.recovery ctx (onResponse shared t call response retryNow ctx) := by
  have hctx : Does none (fun _ => False) ctx ctx := Does.refl ctx
  cases call with
  | listenKey marginMode => exact absurd rfl (hcall marginMode)
  | account marginMode =>
    rw [onResponse]
    cases marginMode with
    | undefined =>
      refine ends_processResponse shared ?_ ?_
      · intro _ _ _ _ ctx' h; exact ends_completion t .account h
      · intro ack; exact ends_completion t .account (hctx.dispatchAll _)
    | isolated =>
      exact ends_processResponse shared (fun _ _ _ _ _ _ => ends_fatal _ _ _ _)
        fun _ => ends_fatal _ _ _ _
    | cross =>
      refine ends_processResponse shared ?_ ?_
      · intro _ _ _ _ ctx' h; exact ends_completion t .accountCross h
      · intro account; exact ends_completion t .accountCross (hctx.dispatchAll _)
    | portfolio =>
      exact ends_processResponse shared (fun _ _ _ _ _ _ => ends_fatal _ _ _ _)
        fun _ => ends_fatal _ _ _ _
  | openOrders marginMode =>
    rw [onResponse,getOpenOrdersAck]
    refine ends_processResponse shared ?_ ?_
    · intro _ _ _ _ ctx' h; exact ends_completeOrders t marginMode h
    · intro ack
      exact ends_completeOrders t marginMode (does_onOpenOrdersAck shared ack marginMode ctx)
  | trades marginMode symbol lookback limit =>
    rw [onResponse,getTradesAck]
    refine ends_processResponse shared ?_ ?_
    · intro _ _ _ _ ctx' h; exact ends_completeTrades t marginMode symbol lookback limit h
    · intro ack hno
      have hdoes := ends_completeTrades t marginMode symbol lookback limit hctx hno
      exact hdoes.modify (flag_notFirst marginMode · _)
  | accountCrossOnTimer =>
    rw [onResponse,getAccountCrossOnTimerAck]
    refine ends_processResponse shared ?_ ?_
    · intro _ _ _ _ ctx' h; exact ends_completionOnTimer t h
    · intro account; exact ends_completionOnTimer t (hctx.dispatchAll _)
  | newOrder body userId orderId =>
    rw [onResponse,newOrderAck]
    refine ends_processResponse shared ?_ ?_
    · intro _ _ _ _ ctx' h _; exact h.dispatch _
    · intro ack _; exact hctx.dispatch _
  | cancelOrder body userId orderId version =>
    rw [onResponse,cancelOrderAck]
    refine ends_processResponse shared ?_ ?_
    · intro _ _ _ _ ctx' h _; exact h.dispatch _
    · intro ack _; exact hctx.dispatch _
  | cancelAllOpenOrders symbol marginMode requestId =>
    rw [onResponse,cancelAllOpenOrdersAck]
    refine ends_processResponse shared ?_ ?_
    · intro _ _ _ _ ctx' h _; exact h.dispatch _
    · intro ack _; exact (hctx.dispatchAll _).dispatch _

end

/-- The states of the sequencer; it waits only for the first listen key. -/
def Stage (self : OrderEntryMargin) : Prop :=
  self.download = .idle ∨
    (self.download = .waiting .listenKey 0 [.done] ∧ self.hasListenKeyCross = false) ∨
      self.download = .done .done

theorem Stage.loading {self : OrderEntryMargin} (h : Stage self) : Loading self := by
  intro hd
  rcases h with h | ⟨h,hkey⟩ | h
  · rw [h] at hd; cases hd
  · exact ⟨⟨[.done],h⟩,hkey⟩
  · rw [h] at hd; cases hd

/-- The sequencer is through, or has asked for the first listen key. -/
structure Sought (ctx ctx' : Ctx) : Prop where
  flag : ∀ r, flag r ctx'.self = flag r ctx.self
  stage : Stage ctx'.self
  sends : (ctx'.self.download = .done .done ∧ sent ctx' = sent ctx) ∨
    (ctx'.self.download.downloading = true ∧ sent ctx' = sent ctx ++ [.listenKey .cross])

theorem sought_enter (d : Download State) (ctx : Ctx) :
    Sought ctx ((Download.enter downloadState states d ctx).2.modify fun self =>
      {self with download := (Download.enter downloadState states d ctx).1}) := by
  cases hkey : ctx.self.hasListenKeyCross with
  | true =>
    have henter : Download.enter downloadState states d ctx =
        (.done .done,(onConnectionStatus .ready "" ctx).modify fun self => {self with ready := true}) := by
      simp [states, Download.enter, downloadState, hkey]
    rw [henter]
    refine ⟨?_,.inr (.inr rfl),.inl ⟨rfl,?_⟩⟩
    · intro r
      cases r with
      | download k => cases k <;> rfl
      | borrowed => rfl
    · simp [sent, onConnectionStatus, Output.sent]
  | false =>
    have henter : Download.enter downloadState states d ctx =
        (.waiting .listenKey 0 [.done],
          getListenKey .cross (onConnectionStatus .downloading "LISTEN_KEY" ctx)) := by
      simp [states, Download.enter, downloadState, hkey]
    rw [henter]
    refine ⟨?_,.inr (.inl ⟨rfl,hkey⟩),.inr ⟨rfl,?_⟩⟩
    · intro r
      cases r with
      | download k => cases k <;> rfl
      | borrowed => rfl
    · simp [sent, getListenKey, onConnectionStatus]
      rfl

theorem sought_onConnected {ctx : Ctx} (hs : Stage ctx.self)
    (hd : ctx.self.download ≠ .done .done) : Sought ctx (onConnected ctx) := by
  unfold onConnected
  rcases hs with h | ⟨h,-⟩ | h
  · rw [if_neg (by simp [h])]
    exact sought_enter .idle ctx
  · rw [if_pos (by simp [h])]
    have hbump : Download.bump downloadState ctx.self.download ctx =
        Download.enter downloadState states ctx.self.download ctx := by
      rw [h]
      rfl
    simp only [sequencer, hbump]
    exact sought_enter _ ctx
  · exact absurd h hd

section
variable {self : OrderEntryMargin} {request : Request}

/-- What the callback of a listen key leaves: its flag is cleared, and another key is asked for
only while there has been none. -/
structure KeyReplied (before : OrderEntryMargin) (ctx : Ctx) : Prop where
  flag : ∀ r, OrderEntryMargin.flag r ctx.self =
    (OrderEntryMargin.flag r before && decide (some (Recovery.download .listenKeyCross) ≠ some r))
  stage : Stage ctx.self
  sends : sent ctx = [] ∨ (ctx.self.download.downloading = true ∧ sent ctx = [.listenKey .cross])
  done : before.download = .done .done → ctx.self.download = .done .done

theorem KeyReplied.of_sought {ctx ctx' : Ctx} (h : Sought ctx ctx')
    (hflag : ∀ r, OrderEntryMargin.flag r ctx.self = OrderEntryMargin.flag r self)
    (hs : sent ctx = []) (hd : self.download ≠ .done .done) (t : TraceInfo) :
    KeyReplied self (completion .listenKeyCross t ctx') := by
  refine ⟨?_,?_,?_,fun hdone => absurd hdone hd⟩
  · intro r
    rw [completion,Context.modify_self,flag_setDownload,Context.reply_self,h.flag r,hflag r]
    by_cases hr : r = .download .listenKeyCross
    · simp [hr]
    · simp [hr, Ne.symm hr]
  · exact h.stage
  · rcases h.sends with ⟨-,hsent⟩ | ⟨hd',hsent⟩
    · exact .inl (hsent.trans hs)
    · rw [hs] at hsent
      exact .inr ⟨hd',hsent⟩

/-- Nothing has been asked for. -/
theorem KeyReplied.of_quiet {ctx : Ctx}
    (hflag : ∀ r, OrderEntryMargin.flag r ctx.self = OrderEntryMargin.flag r self)
    (hstage : Stage ctx.self) (hs : sent ctx = [])
    (hd : self.download = .done .done → ctx.self.download = .done .done) (t : TraceInfo) :
    KeyReplied self (completion .listenKeyCross t ctx) := by
  refine ⟨?_,hstage,.inl hs,hd⟩
  intro r
  rw [completion,Context.modify_self,flag_setDownload,Context.reply_self,hflag r]
  by_cases hr : r = .download .listenKeyCross
  · simp [hr]
  · simp [hr, Ne.symm hr]

theorem flag_download (d : Download State) (r : Recovery) (self : OrderEntryMargin) :
    flag r {self with download := d} = flag r self := by
  cases r with
  | download k => cases k <;> rfl
  | borrowed => rfl

variable (shared : Shared) (t : TraceInfo)

theorem keyReplied_failure (hs : Stage self) (retryNow : Bool) {ctx : Ctx} (hself : ctx.self = self)
    (hsent : sent ctx = []) :
    KeyReplied self (completion .listenKeyCross t
      (sequencer (Download.retry downloadState states retryNow .listenKey) ctx)) := by
  subst hself
  by_cases hretry : retryNow = true ∧ ctx.self.download.downloading = true
  · obtain ⟨rfl,hd⟩ := hretry
    have henter : Download.retry downloadState states true .listenKey ctx.self.download ctx =
        Download.enter downloadState states ctx.self.download ctx := by
      simp [Download.retry, hd, states]
    have hsought : Sought ctx
        (sequencer (Download.retry downloadState states true .listenKey) ctx) := by
      simp only [sequencer, henter]
      exact sought_enter _ ctx
    refine .of_sought hsought (fun _ => rfl) hsent ?_ t
    intro hdone
    rw [hdone] at hd
    cases hd
  · have hidle : Download.retry downloadState states retryNow .listenKey ctx.self.download ctx =
        (ctx.self.download,ctx) := by
      rw [Download.retry,if_neg]
      simpa using hretry
    simp only [sequencer, hidle]
    exact .of_quiet (flag_download _ · ctx.self) hs hsent id t

/-- A listen key that ends the wait. -/
theorem keyReplied_first (h : self.download = .waiting .listenKey 0 [.done]) (ack : ListenKeyAckMargin) :
    KeyReplied self (completion .listenKeyCross t (sequencer (Download.check downloadState .listenKey)
      (onListenKeyAckMargin ack .cross ⟨self,request,[]⟩))) := by
  have hflag : ∀ r, flag r (sequencer (Download.check downloadState .listenKey)
      (onListenKeyAckMargin ack .cross (⟨self,request,[]⟩ : Ctx))).self = flag r self := by
    intro r
    simp only [sequencer, onListenKeyAckMargin, Context.modify_self, Context.emit_self, h,
      Download.check, Download.enter, downloadState, onConnectionStatus, if_true]
    cases r with
    | download k => cases k <;> rfl
    | borrowed => rfl
  have hdone : (sequencer (Download.check downloadState .listenKey)
      (onListenKeyAckMargin ack .cross (⟨self,request,[]⟩ : Ctx))).self.download = .done .done := by
    simp [sequencer, onListenKeyAckMargin, h, Download.check, Download.enter, downloadState]
  refine .of_quiet hflag (.inr (.inr hdone)) ?_ (fun _ => hdone) t
  simp [sent, sequencer, onListenKeyAckMargin, h, Download.check, Download.enter, downloadState,
    onConnectionStatus, Output.sent]

theorem keyReplied_success (hs : Stage self) (ack : ListenKeyAckMargin) :
    KeyReplied self (completion .listenKeyCross t (sequencer (Download.check downloadState .listenKey)
      (onListenKeyAckMargin ack .cross ⟨self,request,[]⟩))) := by
  by_cases hd : self.download.downloading = true
  · rcases hs with h | ⟨h,-⟩ | h
    · rw [h] at hd; cases hd
    · exact keyReplied_first t h ack
    · rw [h] at hd; cases hd
  · have hcheck := Download.check_of_not_downloading downloadState .listenKey
      (Bool.eq_false_iff.mpr hd) (onListenKeyAckMargin ack .cross ⟨self,request,[]⟩)
    have hself : (onListenKeyAckMargin ack .cross (⟨self,request,[]⟩ : Ctx)).self.download =
        self.download := rfl
    simp only [sequencer, hself, hcheck]
    refine .of_quiet ?_ ?_ ?_ ?_ t
    · intro r
      cases r with
      | download k => cases k <;> rfl
      | borrowed => rfl
    · rcases hs with h | ⟨h,-⟩ | h
      · exact .inl h
      · rw [h] at hd; exact absurd rfl hd
      · exact .inr (.inr h)
    · rfl
    · exact id

theorem keyReplied_getListenKeyAck (hs : Stage self) (response : RestResponse) (retryNow : Bool)
    (hno : (getListenKeyAck shared t .cross response retryNow ⟨self,request,[]⟩).outputs.any
      Output.isFatal = false) :
    KeyReplied self (getListenKeyAck shared t .cross response retryNow ⟨self,request,[]⟩) := by
  refine processResponseWith_cases (I := fun ctx : Ctx => ctx.self = self ∧ sent ctx = [])
    (P := fun ctx : Ctx => ctx.outputs.any Output.isFatal = false → KeyReplied self ctx)
    ⟨rfl,rfl⟩ ?_ ?_ ?_ ?_ hno
  · intro forbidden retryAfter
    unfold limit wafLimitViolation
    split_ifs
    · exact ⟨rfl,rfl⟩
    · exact ⟨rfl,rfl⟩
    · exact ⟨rfl,rfl⟩
  · rintro _ _ _ _ ctx ⟨hself,hsent⟩ _
    exact keyReplied_failure t hs retryNow hself hsent
  · intro ack _ _
    exact keyReplied_success t hs ack
  · intro text hf
    simp [Output.isFatal] at hf

end

section
variable {p : Link.Job Call → Bool} {job : Link.Job Call} {jobs : List (Link.Job Call)}

theorem filter_erase_of_not (hp : p job = false) : (jobs.erase job).filter p = jobs.filter p := by
  rw [← List.erase_filter,List.erase_of_not_mem]
  simp [hp]

theorem filter_erase_of_single (hp : p job = true) (hm : job ∈ jobs)
    (hlen : (jobs.filter p).length ≤ 1) : (jobs.erase job).filter p = [] := by
  have hmem : job ∈ jobs.filter p := List.mem_filter.mpr ⟨hm,hp⟩
  rw [← List.erase_filter]
  apply List.eq_nil_of_length_eq_zero
  rw [List.length_erase_of_mem hmem]
  omega

end

/-- A request of the initial download; that of a recovery is sent by a timer. -/
def isInitial (job : Link.Job Call) : Bool := !job.timed && decide (job.call = .listenKey .cross)

/-- All requests are of the connection as it is, those of a timer are for the recovery `o`, the
others are the clients' and at most `n` of the initial download. -/
structure Jobs (jobs : List (Link.Job Call)) (o : Option Recovery) (n : ℕ) : Prop where
  fresh : ∀ job ∈ jobs, job.stale = false
  untimed : ∀ job ∈ jobs, job.timed = false → job.call.Client ∨ job.call = .listenKey .cross
  timed : (jobs.filter Link.Job.timed).map (fun job => job.call.recovery) = o.toList.map some
  initial : (jobs.filter isInitial).length ≤ n

namespace Jobs
variable {jobs : List (Link.Job Call)} {o : Option Recovery} {n : ℕ}

theorem nil : Jobs [] none 0 where
  fresh _ h := by cases h
  untimed _ h := by cases h
  timed := rfl
  initial := Nat.le_refl 0

theorem mono {m : ℕ} (h : Jobs jobs o n) (hm : n ≤ m) : Jobs jobs o m :=
  ⟨h.fresh,h.untimed,h.timed,h.initial.trans hm⟩

theorem append_clients (h : Jobs jobs o n) {calls : List Call} (hc : ∀ call ∈ calls, call.Client) :
    Jobs (jobs ++ calls.map fun call => ⟨call,false,false⟩) o n := by
  have hnotKey : ∀ call ∈ calls, call ≠ .listenKey .cross := by
    rintro call hm rfl
    exact hc _ hm
  have htimed : (calls.map fun call => (⟨call,false,false⟩ : Link.Job Call)).filter
      Link.Job.timed = [] := by simp [List.filter_eq_nil_iff]
  have hinitial : (calls.map fun call => (⟨call,false,false⟩ : Link.Job Call)).filter
      isInitial = [] := by simpa [List.filter_eq_nil_iff, isInitial] using hnotKey
  refine ⟨?_,?_,?_,?_⟩
  · intro job hm
    rcases List.mem_append.mp hm with hm | hm
    · exact h.fresh job hm
    · obtain ⟨call,-,rfl⟩ := List.mem_map.mp hm
      rfl
  · intro job hm ht
    rcases List.mem_append.mp hm with hm | hm
    · exact h.untimed job hm ht
    · obtain ⟨call,hcall,rfl⟩ := List.mem_map.mp hm
      exact .inl (hc call hcall)
  · rw [List.filter_append,htimed,List.append_nil]
    exact h.timed
  · rw [List.filter_append,hinitial,List.append_nil]
    exact h.initial

theorem append_key (h : Jobs jobs o n) :
    Jobs (jobs ++ [⟨.listenKey .cross,false,false⟩]) o (n+1) := by
  refine ⟨?_,?_,?_,?_⟩
  · intro job hm
    rcases List.mem_append.mp hm with hm | hm
    · exact h.fresh job hm
    · rw [List.mem_singleton.mp hm]
  · intro job hm ht
    rcases List.mem_append.mp hm with hm | hm
    · exact h.untimed job hm ht
    · rw [List.mem_singleton.mp hm]
      exact .inr rfl
  · simpa using h.timed
  · have hn := h.initial
    simp only [List.filter_append, List.length_append]
    have hone : ([⟨.listenKey .cross,false,false⟩] : List (Link.Job Call)).filter isInitial =
        [⟨.listenKey .cross,false,false⟩] := by simp [isInitial]
    rw [hone,List.length_singleton]
    omega

/-- A timer sends a request only when there is no other. -/
theorem append_timed (h : Jobs jobs none n) {calls : List Call}
    (hc : calls.map Call.recovery = o.toList.map some) :
    Jobs (jobs ++ calls.map fun call => ⟨call,true,false⟩) o n := by
  have hold : jobs.filter Link.Job.timed = [] := List.map_eq_nil_iff.mp h.timed
  have htimed : (calls.map fun call => (⟨call,true,false⟩ : Link.Job Call)).filter Link.Job.timed =
      calls.map fun call => ⟨call,true,false⟩ := by simp [List.filter_eq_self]
  have hinitial : (calls.map fun call => (⟨call,true,false⟩ : Link.Job Call)).filter
      isInitial = [] := by simp [List.filter_eq_nil_iff, isInitial]
  refine ⟨?_,?_,?_,?_⟩
  · intro job hm
    rcases List.mem_append.mp hm with hm | hm
    · exact h.fresh job hm
    · obtain ⟨call,-,rfl⟩ := List.mem_map.mp hm
      rfl
  · intro job hm ht
    rcases List.mem_append.mp hm with hm | hm
    · exact h.untimed job hm ht
    · obtain ⟨call,-,rfl⟩ := List.mem_map.mp hm
      cases ht
  · rw [List.filter_append,hold,List.nil_append,htimed,List.map_map]
    exact hc
  · rw [List.filter_append,hinitial,List.append_nil]
    exact h.initial

theorem timed_length_le (h : Jobs jobs o n) : (jobs.filter Link.Job.timed).length ≤ 1 := by
  have hlen := congrArg List.length h.timed
  rw [List.length_map] at hlen
  rw [hlen]
  cases o <;> simp

variable {job : Link.Job Call}

theorem erase_untimed (h : Jobs jobs o n) (ht : job.timed = false) : Jobs (jobs.erase job) o n := by
  refine ⟨?_,?_,?_,?_⟩
  · exact fun j hj => h.fresh j (List.mem_of_mem_erase hj)
  · exact fun j hj => h.untimed j (List.mem_of_mem_erase hj)
  · rw [filter_erase_of_not ht]
    exact h.timed
  · rw [← List.erase_filter]
    exact (List.length_erase_le).trans h.initial

theorem erase_timed (h : Jobs jobs o n) (hm : job ∈ jobs) (ht : job.timed = true) :
    Jobs (jobs.erase job) none n := by
  refine ⟨?_,?_,?_,?_⟩
  · exact fun j hj => h.fresh j (List.mem_of_mem_erase hj)
  · exact fun j hj => h.untimed j (List.mem_of_mem_erase hj)
  · rw [filter_erase_of_single ht hm h.timed_length_le]
    rfl
  · rw [← List.erase_filter]
    exact (List.length_erase_le).trans h.initial

theorem erase_initial (h : Jobs jobs o 1) (hm : job ∈ jobs) (hi : isInitial job = true) :
    Jobs (jobs.erase job) o 0 := by
  have ht : job.timed = false := by simp_all [isInitial]
  refine ⟨(h.erase_untimed ht).fresh,(h.erase_untimed ht).untimed,(h.erase_untimed ht).timed,?_⟩
  rw [filter_erase_of_single hi hm h.initial]
  exact Nat.le_refl 0

/-- The request of a timer that is in flight tells what is being recovered. -/
theorem recovery_of_mem (h : Jobs jobs o n) (hm : job ∈ jobs) (ht : job.timed = true) :
    job.call.recovery = o ∧ o ≠ none := by
  have hmem : job.call.recovery ∈
      (jobs.filter Link.Job.timed).map (fun job => job.call.recovery) :=
    List.mem_map_of_mem (List.mem_filter.mpr ⟨hm,ht⟩)
  rw [h.timed] at hmem
  cases o with
  | none => cases hmem
  | some r => simpa using hmem

theorem exists_job {r : Recovery} (h : Jobs jobs (some r) n) :
    ∃ job ∈ jobs, job.timed = true ∧ job.stale = false ∧ job.call.recovery = some r := by
  have hmem : some r ∈ (jobs.filter Link.Job.timed).map (fun job => job.call.recovery) := by
    rw [h.timed]
    simp
  obtain ⟨job,hjob,hr⟩ := List.mem_map.mp hmem
  obtain ⟨hm,ht⟩ := List.mem_filter.mp hjob
  exact ⟨job,hm,ht,h.fresh job hm,hr⟩

end Jobs

structure Valid (s : Link OrderEntryMargin Call) : Prop where
  settled : facet.Settled s.self s.up
  stage : Stage s.self
  asked : s.request.Only DropCopyMargin.Asks
  down : s.up = false → s.inFlight = []
  current : ∃ o, (∀ r, flag r s.self = decide (o = some r)) ∧
    Jobs s.inFlight o (if s.self.download.downloading then 1 else 0) ∧
      (o ≠ none → s.self.download = .done .done)

theorem valid_create (streamId : ℕ) (account : String) :
    Valid (Link.create (create streamId account)) where
  settled := settled_create streamId account
  stage := .inl rfl
  asked k _ := by simp [Link.create]
  down _ := rfl
  current := by
    refine ⟨none,?_,Jobs.nil,fun h => absurd rfl h⟩
    intro r
    cases r with
    | download k => cases k <;> rfl
    | borrowed => rfl

variable (shared : Shared)

/-- Everything has been answered when the connection goes down. -/
abbrev recoveryHandlers : Link.Handlers OrderEntryMargin Call RestReply
    (Link.Input ClientRequest fun _ => False) := handlers shared (fun _ => False) true

variable {shared} {s : Link OrderEntryMargin Call} {t : TraceInfo}

theorem not_done_of_down (hv : Valid s) (hup : s.up = false) : s.self.download ≠ .done .done := by
  intro hdone
  have hs := hv.settled
  rw [hup] at hs
  rcases hs.unready.2 with hd | hd
  · have hd' : s.self.download = .idle := hd
    rw [hdone] at hd'
    cases hd'
  · have hd' : Download.Pending .done s.self.download := hd
    rw [hdone] at hd'
    exact hd'.elim

theorem valid_connected (hv : Valid s) (hup : s.up = false)
    (hs : facet.Settled (onConnected ⟨s.self,s.request,[]⟩).self true) :
    Valid (Link.after (recoveryHandlers shared) .connected (onConnected ⟨s.self,s.request,[]⟩) s) := by
  have hdone := not_done_of_down hv hup
  have hsought : Sought ⟨s.self,s.request,[]⟩ (onConnected ⟨s.self,s.request,[]⟩) :=
    sought_onConnected hv.stage hdone
  obtain ⟨o,hflag,-,hcurrent⟩ := hv.current
  have ho : o = none := by_contra fun ho => hdone (hcurrent ho)
  subst ho
  refine ⟨hs,hsought.stage,?_,?_,none,?_,?_,fun h => absurd rfl h⟩
  · change (onConnected ⟨s.self,s.request,[]⟩).request.Only _
    rw [(keeps_onConnected ⟨s.self,s.request,[]⟩).request]
    exact hv.asked
  · exact fun h => by cases h
  · exact fun r => (hsought.flag r).trans (hflag r)
  · change Jobs (s.inFlight ++ (sent (onConnected ⟨s.self,s.request,[]⟩)).map fun call =>
      ⟨call,false,false⟩) none (if (onConnected ⟨s.self,s.request,[]⟩).self.download.downloading then 1 else 0)
    rw [hv.down hup]
    rcases hsought.sends with ⟨hd,hsent⟩ | ⟨hd,hsent⟩
    · rw [hsent]
      exact Jobs.nil.mono (Nat.zero_le _)
    · rw [hsent,if_pos hd]
      exact Jobs.nil.append_key

theorem valid_disconnected (hv : Valid s) (hno : s.inFlight = [])
    (hs : facet.Settled (onDisconnected ⟨s.self,s.request,[]⟩).self false) :
    Valid (Link.after (recoveryHandlers shared) .disconnected
      (onDisconnected ⟨s.self,s.request,[]⟩) s) := by
  have hinFlight : (Link.after (recoveryHandlers shared) .disconnected
      (onDisconnected ⟨s.self,s.request,[]⟩) s).inFlight = [] := by
    simp [Link.after, Link.Event.outstanding, hno, onDisconnected, onConnectionStatus, Output.sent]
  refine ⟨hs,?_,hv.asked,fun _ => hinFlight,none,?_,?_,fun h => absurd rfl h⟩
  · rcases hv.stage with h | ⟨h,hkey⟩ | h
    · exact .inl (by simp [Link.after, onDisconnected, onConnectionStatus, h])
    · exact .inr (.inl ⟨by simp [Link.after, onDisconnected, onConnectionStatus, h],hkey⟩)
    · exact .inl (by simp [Link.after, onDisconnected, onConnectionStatus, h])
  · intro r
    cases r with
    | download k => cases k <;> rfl
    | borrowed => rfl
  · rw [hinFlight]
    exact Jobs.nil.mono (Nat.zero_le _)

theorem recovery_of_client {call : Call} (h : call.Client) : call.recovery = none := by
  cases call with
  | newOrder _ _ _ => rfl
  | cancelOrder _ _ _ _ => rfl
  | cancelAllOpenOrders _ _ _ => rfl
  | _ => exact h.elim

theorem call_of_listenKey (hv : Valid s) {job : Link.Job Call} (hm : job ∈ s.inFlight)
    {marginMode : MarginMode} (hcall : job.call = .listenKey marginMode) :
    job.call = .listenKey .cross := by
  obtain ⟨o,-,hjobs,-⟩ := hv.current
  cases ht : job.timed with
  | false =>
    rcases hjobs.untimed job hm ht with hc | hc
    · rw [hcall] at hc
      exact hc.elim
    · exact hc
  | true =>
    have hr := hjobs.recovery_of_mem hm ht
    rw [hcall] at hr ⊢
    cases marginMode with
    | cross => rfl
    | _ => exact absurd hr.1.symm hr.2

theorem asked_onResponse (hr : s.request.Only DropCopyMargin.Asks) (call : Call) (reply : RestReply)
    (hf : (onResponse shared t call reply.response reply.retryNow ⟨s.self,s.request,[]⟩).outputs.any
      Output.isFatal = false) :
    (onResponse shared t call reply.response reply.retryNow ⟨s.self,s.request,[]⟩).request.Only
      DropCopyMargin.Asks := by
  rcases (answers_onResponse (t := t) shared call reply.response reply.retryNow
    ⟨s.self,s.request,[]⟩).request with h | h
  · rw [hf] at h
    cases h
  · rw [h]
    cases call.kind with
    | none => exact hr
    | some k => exact hr.reply k _

/-- The reply to a listen key, to that of a timer or to one of the initial download. -/
theorem current_listenKey (hv : Valid s) {job : Link.Job Call} (hm : job ∈ s.inFlight)
    (hcall : job.call = .listenKey .cross) {ctx : Ctx} (hreplied : KeyReplied s.self ctx) :
    ∃ o, (∀ r, flag r ctx.self = decide (o = some r)) ∧
      Jobs (s.inFlight.erase job ++ (sent ctx).map fun call => ⟨call,false,false⟩) o
        (if ctx.self.download.downloading then 1 else 0) ∧
      (o ≠ none → ctx.self.download = .done .done) := by
  obtain ⟨o,hflag,hjobs,hdone⟩ := hv.current
  cases ht : job.timed with
  | true =>
    obtain ⟨hr,ho⟩ := hjobs.recovery_of_mem hm ht
    have hd := hdone ho
    have hd' := hreplied.done hd
    refine ⟨none,?_,?_,fun h => absurd rfl h⟩
    · intro r
      rw [hreplied.flag r,hflag r,← hr,hcall]
      by_cases hr' : some (Recovery.download .listenKeyCross) = some r
      · simp [Call.recovery, hr']
      · simp [Call.recovery, hr']
    · rcases hreplied.sends with hsent | ⟨hdown,-⟩
      · rw [hsent,hd']
        rw [hd] at hjobs
        simpa using hjobs.erase_timed hm ht
      · rw [hd'] at hdown
        cases hdown
  | false =>
    have hi : isInitial job = true := by simp [isInitial, ht, hcall]
    have hpos : 0 < (s.inFlight.filter isInitial).length :=
      List.length_pos_of_mem (List.mem_filter.mpr ⟨hm,hi⟩)
    have hdown : s.self.download.downloading = true := by
      by_contra hno
      have hinitial := hjobs.initial
      rw [if_neg hno] at hinitial
      omega
    have ho : o = none := by
      by_contra ho
      rw [hdone ho] at hdown
      cases hdown
    subst ho
    rw [if_pos hdown] at hjobs
    have herase := hjobs.erase_initial hm hi
    refine ⟨none,?_,?_,fun h => absurd rfl h⟩
    · intro r
      rw [hreplied.flag r,hflag r]
      simp
    · rcases hreplied.sends with hsent | ⟨hdown',hsent⟩
      · rw [hsent]
        simpa using herase.mono (Nat.zero_le _)
      · rw [hsent,if_pos hdown']
        exact herase.append_key

/-- The reply to another request ends the recovery that it was for. -/
theorem current_onResponse (hv : Valid s) {job : Link.Job Call} (hm : job ∈ s.inFlight)
    (hcall : ∀ marginMode, job.call ≠ .listenKey marginMode) {ctx : Ctx}
    (hdoes : Does job.call.recovery (fun _ => False) ⟨s.self,s.request,[]⟩ ctx)
    (hd : ctx.self.download = s.self.download) :
    ∃ o, (∀ r, flag r ctx.self = decide (o = some r)) ∧
      Jobs (s.inFlight.erase job ++ (sent ctx).map fun call => ⟨call,false,false⟩) o
        (if ctx.self.download.downloading then 1 else 0) ∧
      (o ≠ none → ctx.self.download = .done .done) := by
  obtain ⟨o,hflag,hjobs,hdone⟩ := hv.current
  obtain ⟨calls,hcalls,hno⟩ := hdoes.sends
  have hsent : sent ctx = [] := by
    rw [hcalls,List.eq_nil_iff_forall_not_mem.mpr hno]
    rfl
  rw [hsent,hd]
  cases ht : job.timed with
  | true =>
    obtain ⟨hr,-⟩ := hjobs.recovery_of_mem hm ht
    refine ⟨none,?_,?_,fun h => absurd rfl h⟩
    · intro r
      rw [hdoes.flag r,hr]
      change (flag r s.self && _) = _
      rw [hflag r]
      by_cases hr' : o = some r <;> simp [hr']
    · simpa using hjobs.erase_timed hm ht
  | false =>
    have hclient : job.call.Client := by
      rcases hjobs.untimed job hm ht with hc | hc
      · exact hc
      · exact absurd hc (hcall .cross)
    refine ⟨o,?_,?_,hdone⟩
    · intro r
      rw [hdoes.flag r,recovery_of_client hclient]
      change (flag r s.self && _) = _
      rw [hflag r]
      simp
    · simpa using hjobs.erase_untimed ht

theorem valid_reply (hv : Valid s) {job : Link.Job Call} {reply : RestReply} (hm : job ∈ s.inFlight)
    (hf : (onResponse shared t job.call reply.response reply.retryNow
      ⟨s.self,s.request,[]⟩).outputs.any Output.isFatal = false)
    (hs : facet.Settled (onResponse shared t job.call reply.response reply.retryNow
      ⟨s.self,s.request,[]⟩).self s.up) :
    Valid (Link.after (recoveryHandlers shared) (.reply job reply)
      (onResponse shared t job.call reply.response reply.retryNow ⟨s.self,s.request,[]⟩) s) := by
  have hup : s.up = true := by
    by_contra hup
    rw [hv.down (by simpa using hup)] at hm
    cases hm
  have hdown : s.up = false → (Link.after (recoveryHandlers shared) (.reply job reply)
      (onResponse shared t job.call reply.response reply.retryNow ⟨s.self,s.request,[]⟩)
      s).inFlight = [] := by
    intro hno
    rw [hup] at hno
    cases hno
  by_cases hkey : ∃ marginMode, job.call = .listenKey marginMode
  · obtain ⟨marginMode,hkey⟩ := hkey
    have hcall := call_of_listenKey hv hm hkey
    have hreplied : KeyReplied s.self (onResponse shared t job.call reply.response reply.retryNow
        ⟨s.self,s.request,[]⟩) := by
      rw [hcall] at hf ⊢
      exact keyReplied_getListenKeyAck shared t hv.stage reply.response reply.retryNow hf
    exact ⟨hs,hreplied.stage,asked_onResponse hv.asked job.call reply hf,hdown,
      current_listenKey hv hm hcall hreplied⟩
  · have hcall : ∀ marginMode, job.call ≠ .listenKey marginMode := fun marginMode h =>
      hkey ⟨marginMode,h⟩
    have hview := (answers_onResponse_view (t := t) shared hcall reply.response reply.retryNow
      ⟨s.self,s.request,[]⟩).view
    have hd : (onResponse shared t job.call reply.response reply.retryNow
        ⟨s.self,s.request,[]⟩).self.download = s.self.download := congrArg (·.2) hview
    have hk : (onResponse shared t job.call reply.response reply.retryNow
        ⟨s.self,s.request,[]⟩).self.hasListenKeyCross = s.self.hasListenKeyCross :=
      congrArg (·.1.2.1) hview
    have hdoes := ends_onResponse shared t hcall reply.response reply.retryNow
      ⟨s.self,s.request,[]⟩ hf
    refine ⟨hs,?_,asked_onResponse hv.asked job.call reply hf,hdown,
      current_onResponse hv hm hcall hdoes hd⟩
    change Stage (onResponse shared t job.call reply.response reply.retryNow
      ⟨s.self,s.request,[]⟩).self
    unfold Stage
    rw [hd,hk]
    exact hv.stage

/-- While the connection is down a timer or a client has nothing sent. -/
theorem sent_of_down {ctx : Ctx} (hc : facet.Checked s.self s.up true ctx.outputs)
    (hup : s.up = false) : sent ctx = [] := by
  rw [List.eq_nil_iff_forall_not_mem]
  intro call hm
  obtain ⟨output,ho,hsent⟩ := List.mem_filterMap.mp hm
  cases output with
  | send c =>
    obtain rfl : c = call := Option.some.inj hsent
    rcases hc.gated c ho with ⟨h,-⟩ | ⟨h,-⟩
    · cases h
    · rw [hup] at h
      cases h
  | _ => cases hsent

/-- A timer does nothing unless the stream is ready and nothing is in progress. -/
theorem onTimer_cases (timerNow : ℕ) (refresh : Bool) (ctx : Ctx) :
    onTimer shared timerNow refresh ctx = ctx ∨
      (ctx.self.isReady = true ∧ ctx.self.downloading = false ∧
        onTimer shared timerNow refresh ctx = startAll shared timerNow ctx) := by
  unfold onTimer
  split_ifs with hready
  · simp only [Bool.and_eq_true, Bool.not_eq_true'] at hready
    exact .inr ⟨hready.1.2,hready.2,rfl⟩
  · exact .inl rfl

theorem valid_timer (hv : Valid s) (timerNow : ℕ) (refresh : Bool)
    (hs : facet.Settled (onTimer shared timerNow refresh ⟨s.self,s.request,[]⟩).self s.up) :
    Valid (Link.after (recoveryHandlers shared) (.input (.timer timerNow refresh))
      (onTimer shared timerNow refresh ⟨s.self,s.request,[]⟩) s) := by
  have hkeeps := keeps_onTimer shared timerNow refresh ⟨s.self,s.request,[]⟩
  have hd : (onTimer shared timerNow refresh ⟨s.self,s.request,[]⟩).self.download =
      s.self.download := congrArg (·.2) hkeeps.view
  have hk : (onTimer shared timerNow refresh ⟨s.self,s.request,[]⟩).self.hasListenKeyCross =
      s.self.hasListenKeyCross := congrArg (·.1.2.1) hkeeps.view
  have hstage : Stage (onTimer shared timerNow refresh ⟨s.self,s.request,[]⟩).self := by
    unfold Stage
    rw [hd,hk]
    exact hv.stage
  have hasked : (onTimer shared timerNow refresh ⟨s.self,s.request,[]⟩).request.Only
      DropCopyMargin.Asks := by
    rw [hkeeps.request]
    exact hv.asked
  have hsilent := fun hup => sent_of_down
    ((quiet_onTimer shared timerNow refresh ⟨s.self,s.request,[]⟩).checked hv.settled true) hup
  refine ⟨hs,hstage,hasked,?_,?_⟩
  · intro hup
    change s.inFlight ++ (sent (onTimer shared timerNow refresh ⟨s.self,s.request,[]⟩)).map _ = []
    rw [hv.down hup,hsilent hup]
    rfl
  · obtain ⟨o,hflag,hjobs,hdone⟩ := hv.current
    change ∃ o, (∀ r, flag r (onTimer shared timerNow refresh ⟨s.self,s.request,[]⟩).self =
        decide (o = some r)) ∧
      Jobs (s.inFlight ++ (sent (onTimer shared timerNow refresh ⟨s.self,s.request,[]⟩)).map
        fun call => ⟨call,true,false⟩) o
        (if (onTimer shared timerNow refresh ⟨s.self,s.request,[]⟩).self.download.downloading
          then 1 else 0) ∧
      (o ≠ none → (onTimer shared timerNow refresh ⟨s.self,s.request,[]⟩).self.download = .done .done)
    rw [hd]
    rcases onTimer_cases timerNow refresh ⟨s.self,s.request,[]⟩ with
      hsame | ⟨hready,hidle,hstart⟩
    · rw [hsame]
      exact ⟨o,hflag,by simpa [sent] using hjobs,hdone⟩
    · have ho : o = none := by
        by_contra ho
        obtain ⟨r,rfl⟩ := Option.ne_none_iff_exists'.mp ho
        have hr := hflag r
        rw [downloading_eq_false.mp hidle r] at hr
        simp at hr
      subst ho
      have hdone' := (hv.settled.of_status (of_decide_eq_true hready)).2
      obtain ⟨o,hflag',hsent⟩ := started_startAll shared timerNow hv.asked hidle
      rw [hstart]
      exact ⟨o,hflag',hjobs.append_timed hsent,fun _ => hdone'⟩

theorem valid_client (hv : Valid s) (request : ClientRequest)
    (hs : facet.Settled (onRequest shared request ⟨s.self,s.request,[]⟩).1.self s.up) :
    Valid (Link.after (recoveryHandlers shared) (.input (.client request))
      (onRequest shared request ⟨s.self,s.request,[]⟩).1 s) := by
  have hkeeps := keeps_onRequest shared request ⟨s.self,s.request,[]⟩
  have hd : (onRequest shared request ⟨s.self,s.request,[]⟩).1.self.download = s.self.download :=
    congrArg (·.2) hkeeps.view
  have hk : (onRequest shared request ⟨s.self,s.request,[]⟩).1.self.hasListenKeyCross =
      s.self.hasListenKeyCross := congrArg (·.1.2.1) hkeeps.view
  have hstage : Stage (onRequest shared request ⟨s.self,s.request,[]⟩).1.self := by
    unfold Stage
    rw [hd,hk]
    exact hv.stage
  have hasked : (onRequest shared request ⟨s.self,s.request,[]⟩).1.request.Only
      DropCopyMargin.Asks := by
    rw [hkeeps.request]
    exact hv.asked
  have hdoes := does_onRequest shared request ⟨s.self,s.request,[]⟩
  refine ⟨hs,hstage,hasked,?_,?_⟩
  · intro hup
    change s.inFlight ++ (sent (onRequest shared request ⟨s.self,s.request,[]⟩).1).map _ = []
    rw [hv.down hup,sent_of_down
      ((quiet_onRequest shared request ⟨s.self,s.request,[]⟩).checked hv.settled true) hup]
    rfl
  · obtain ⟨o,hflag,hjobs,hdone⟩ := hv.current
    obtain ⟨calls,hcalls,hclient⟩ := hdoes.sends
    refine ⟨o,?_,?_,fun ho => hd.trans (hdone ho)⟩
    · intro r
      refine (hdoes.flag r).trans ?_
      change (flag r s.self && _) = _
      rw [hflag r]
      simp
    · change Jobs (s.inFlight ++ (sent (onRequest shared request ⟨s.self,s.request,[]⟩).1).map
        fun call => ⟨call,false,false⟩) o
        (if (onRequest shared request ⟨s.self,s.request,[]⟩).1.self.download.downloading
          then 1 else 0)
      rw [hd,hcalls]
      exact hjobs.append_clients hclient

/-- Every event of the connection keeps the invariant. -/
theorem valid_event (hv : Valid s) {e : Timed (Link.Event Call RestReply
    (Link.Input ClientRequest fun _ => False))} {s' : Link OrderEntryMargin Call}
    (hn : Link.next (recoveryHandlers shared) s e = some s') : Valid s' := by
  obtain ⟨he,hf,rfl⟩ := Link.next_eq_some hn
  have hs := (((steady shared (fun _ => False) true).event hv.settled hv.stage.loading he).2 hf).1
  cases hevent : e.event with
  | connected =>
    rw [hevent] at he hs
    exact valid_connected hv he hs
  | disconnected =>
    rw [hevent] at he hs
    exact valid_disconnected hv (he.2 rfl) hs
  | reply job reply =>
    rw [hevent] at he hs hf
    exact valid_reply hv he.1 hf hs
  | input input =>
    rw [hevent] at hs
    cases input with
    | timer timerNow refresh => exact valid_timer hv timerNow refresh hs
    | client request => exact valid_client hv request hs
    | post k hk => exact hk.elim

end OrderEntryMargin

namespace Margin

/-- The order entry on its connection and the user stream, which ask for and give downloads
through the request of the former. -/
structure Pair where
  orderEntry : Link OrderEntryMargin OrderEntryMargin.Call
  dropCopy : Option DropCopyMargin

namespace Pair

inductive Event
  | orderEntry (event : Link.Event OrderEntryMargin.Call RestReply
      (Link.Input OrderEntryMargin.ClientRequest fun _ => False))
  | dropCopyTimer (refresh : Bool)
  | dropCopySocket (event : DropCopyMargin.SocketEvent)

variable (shared : Shared) (dropCopyStreamId : ℕ)

/-- Run a handler of the user stream, once it exists. -/
def dropCopyPhase (f : DropCopyMargin.Ctx → DropCopyMargin.Ctx) (s : Pair) : Option Pair :=
  s.dropCopy.bind fun dropCopy =>
    let ctx := f ⟨dropCopy,s.orderEntry.request,[]⟩
    if ctx.outputs.any Output.isFatal then none
    else some ⟨{s.orderEntry with request := ctx.request},some ctx.self⟩

/-- A new listen key of the order entry goes to the user stream. -/
def next (s : Pair) (e : Timed Event) : Option Pair :=
  match e.event with
  | .orderEntry event =>
    (Link.next (OrderEntryMargin.recoveryHandlers shared) s.orderEntry ⟨e.time,event⟩).map
      fun orderEntry =>
        ⟨orderEntry,(listenKeyUpdates (Link.handle (OrderEntryMargin.recoveryHandlers shared) e.time
          event s.orderEntry).outputs).foldl
            (fun dropCopy update => onListenKeyUpdate dropCopyStreamId update dropCopy) s.dropCopy⟩
  | .dropCopyTimer refresh => dropCopyPhase (DropCopyMargin.onTimer e.time refresh) s
  | .dropCopySocket event => dropCopyPhase (DropCopyMargin.onSocket shared e.time event) s

def machine (streamId : ℕ) (account : String) : Machine Pair (Timed Event) :=
  ⟨⟨Link.create (OrderEntryMargin.create streamId account),none⟩,next shared dropCopyStreamId⟩

variable {shared dropCopyStreamId}

theorem valid_dropCopyPhase {f : DropCopyMargin.Ctx → DropCopyMargin.Ctx} {s s' : Pair}
    (hf : ∀ ctx, ctx.request.Only DropCopyMargin.Asks → (f ctx).request.Only DropCopyMargin.Asks)
    (hv : OrderEntryMargin.Valid s.orderEntry) (hn : dropCopyPhase f s = some s') :
    OrderEntryMargin.Valid s'.orderEntry := by
  obtain ⟨dropCopy,-,hn⟩ := Option.bind_eq_some_iff.mp hn
  simp only at hn
  split_ifs at hn
  obtain rfl := Option.some.inj hn
  exact ⟨hv.settled,hv.stage,hf ⟨dropCopy,s.orderEntry.request,[]⟩ hv.asked,hv.down,hv.current⟩

theorem preserves_valid (streamId : ℕ) (account : String) :
    (machine shared dropCopyStreamId streamId account).Preserves
      fun s => OrderEntryMargin.Valid s.orderEntry := by
  intro s e s' hv hn
  simp only [machine, next] at hn
  cases hevent : e.event with
  | orderEntry event =>
    rw [hevent] at hn
    obtain ⟨orderEntry,hnext,rfl⟩ := Option.map_eq_some_iff.mp hn
    exact OrderEntryMargin.valid_event hv hnext
  | dropCopyTimer refresh =>
    rw [hevent] at hn
    exact valid_dropCopyPhase (fun _ hr => DropCopyMargin.request_onTimer
      (fun _ _ hk hr => hr.post hk _) refresh hr) hv hn
  | dropCopySocket event =>
    rw [hevent] at hn
    exact valid_dropCopyPhase (fun _ hr => DropCopyMargin.request_onSocket
      (fun _ _ hk hr => hr.post hk _) shared event hr) hv hn

theorem valid_reachable {streamId : ℕ} {account : String} {s : Pair}
    (hr : (machine shared dropCopyStreamId streamId account).Reachable s) :
    OrderEntryMargin.Valid s.orderEntry :=
  (preserves_valid streamId account).reachable (OrderEntryMargin.valid_create streamId account) hr

end Pair

open OrderEntryMargin in
/-- At most one flag is set, a timer sends at most one request, and a flag is set exactly while
the request for it that a timer has sent on the connection as it is has not been answered. -/
theorem single_download (shared : Shared) (streamId dropCopyStreamId : ℕ) (account : String)
    {s : Pair} (hr : (Pair.machine shared dropCopyStreamId streamId account).Reachable s) :
    (∀ r r', flag r s.orderEntry.self = true → flag r' s.orderEntry.self = true → r = r') ∧
    (∀ timerNow refresh, (sent (onTimer shared timerNow refresh
      ⟨s.orderEntry.self,s.orderEntry.request,[]⟩)).length ≤ 1) ∧
    (∀ r, flag r s.orderEntry.self = true ↔ ∃ job ∈ s.orderEntry.inFlight,
      job.timed = true ∧ job.stale = false ∧ job.call.recovery = some r) := by
  have hv := Pair.valid_reachable hr
  obtain ⟨o,hflag,hjobs,-⟩ := hv.current
  refine ⟨?_,?_,?_⟩
  · intro r r' h h'
    rw [hflag r,decide_eq_true_eq] at h
    rw [hflag r',decide_eq_true_eq] at h'
    exact Option.some.inj (h.symm.trans h')
  · intro timerNow refresh
    rcases onTimer_cases timerNow refresh
      ⟨s.orderEntry.self,s.orderEntry.request,[]⟩ with hsame | ⟨-,hidle,hstart⟩
    · rw [hsame]
      exact Nat.zero_le 1
    · obtain ⟨o,-,hsent⟩ := started_startAll shared timerNow hv.asked hidle
      have hlen := congrArg List.length hsent
      rw [List.length_map] at hlen
      rw [hstart,hlen]
      cases o <;> simp
  · intro r
    rw [hflag r,decide_eq_true_eq]
    constructor
    · rintro rfl
      exact hjobs.exists_job
    · rintro ⟨job,hm,ht,-,hrec⟩
      exact (hjobs.recovery_of_mem hm ht).1.symm.trans hrec

/-- The stream polls the borrowed amounts once it is ready. -/
def pollRun : List (Timed Pair.Event) :=
  [⟨⟨1,1⟩,.orderEntry .connected⟩,
    ⟨⟨2,2⟩,.orderEntry (.reply ⟨.listenKey .cross,false,false⟩
      ⟨.result 200 .success 0 {Body.unreadable with listenKeyAckMargin := .ok ⟨"key"⟩},false⟩)⟩,
    ⟨⟨3,3⟩,.orderEntry (.input (.timer 3 true))⟩]

open OrderEntryMargin in
theorem single_download_poll :
    ∃ s, (Pair.machine Shared.sample 4 3 "A1").Reachable s ∧
      flag .borrowed s.orderEntry.self = true ∧
      ∃ job ∈ s.orderEntry.inFlight, job.timed = true ∧ job.stale = false ∧
        job.call.recovery = some .borrowed := by
  have hrun : ((Pair.machine Shared.sample 4 3 "A1").run (Pair.machine Shared.sample 4 3 "A1").init
      pollRun).any (fun s => flag .borrowed s.orderEntry.self) = true := by decide
  obtain ⟨s,hr,hflag⟩ := Machine.exists_reachable _ hrun
  exact ⟨s,hr,hflag,((single_download Shared.sample 3 4 "A1" hr).2.2 .borrowed).mp hflag⟩

end Margin
end RoqBinance.Gateway
