import RoqBinance.Gateway.Clerk
import RoqBinance.Gateway.Portfolio
import RoqBinance.Gateway.SingleDownload

/-! The order entries of a margin and of a portfolio account are the clerks of what their user
streams ask them for. -/
namespace RoqBinance.Gateway
open Library Protocol.Json

namespace OrderEntryMargin

/-- The poll of the borrowed amounts responds to the account download without holding it. -/
def clerk : Clerk OrderEntryMargin Call where
  kinds := kinds
  flag k := flag (.download k)
  free self := self.isReady && !self.downloading
  kind := Call.kind
  holds call := decide (call ≠ .accountCrossOnTimer)

theorem flag_onConnectionStatus (status : ConnectionStatus) (reason : String) (r : Recovery)
    (ctx : Ctx) : flag r (onConnectionStatus status reason ctx).self = flag r ctx.self := by
  cases r with
  | download k => cases k <;> rfl
  | borrowed => rfl

theorem kept_flag (r : Recovery) (value : Bool) :
    Download.Kept downloadState fun ctx => flag r ctx.self = value := by
  intro state ctx h
  cases state with
  | listenKey =>
    rw [downloadState]
    split_ifs
    · exact h
    · exact (flag_onConnectionStatus .downloading "LISTEN_KEY" r ctx).trans h
  | done =>
    refine Eq.trans ?_ h
    cases r with
    | download k => cases k <;> rfl
    | borrowed => rfl

theorem flag_sequencer {f : Download State → Ctx → Download State × Ctx} {r : Recovery} {value : Bool}
    {ctx : Ctx} (h : flag r (f ctx.self.download ctx).2.self = value) :
    flag r (sequencer f ctx).self = value := (flag_download _ r _).trans h

theorem flag_onConnected (r : Recovery) (ctx : Ctx) :
    flag r (onConnected ctx).self = flag r ctx.self := by
  unfold onConnected
  split_ifs
  · exact flag_sequencer ((kept_flag r _).bump rfl)
  · exact flag_sequencer ((kept_flag r _).begin states rfl)

theorem flag_onDisconnected (r : Recovery) (ctx : Ctx) :
    flag r (onDisconnected ctx).self = false := by
  cases r with
  | download k => cases k <;> rfl
  | borrowed => rfl

section
variable (shared : Shared)

theorem get_self (k : Kind) (ctx : Ctx) : (get shared k ctx).self = ctx.self := by
  have htrades : ∀ marginMode, (getTrades shared marginMode ctx).self = ctx.self := by
    intro marginMode
    exact List.foldlRecOn (motive := fun c : Ctx => c.self = ctx.self) shared.settings.downloadSymbols
      _ rfl fun c hc _ _ => hc
  cases k with
  | trades => exact htrades .undefined
  | tradesCross => exact htrades .cross
  | _ => rfl

/-- A download that has been started is in progress. -/
def begin (k : Kind) (ctx : Ctx) : Ctx := (get shared k ctx).modify (setDownload k true)

theorem flag_begin {k : Kind} {ctx : Ctx} (hidle : ctx.self.downloading = false) (r : Recovery) :
    flag r (begin shared k ctx).self = decide (r = .download k) := by
  rw [begin,Context.modify_self,flag_setDownload,get_self,downloading_eq_false.mp hidle r]
  split_ifs with hr
  · exact (decide_eq_true hr).symm
  · exact (decide_eq_false hr).symm

theorem foldl_start {ctx : Ctx} (hidle : ctx.self.downloading = false) :
    kinds.foldl (start shared) ctx =
      (kinds.find? (Clerk.asked ctx.request)).elim ctx (begin shared · ctx) := by
  refine Clerk.foldl_start hidle fun k _ _ => ?_
  by_contra hnot
  have hflag : flag (.download k) (begin shared k ctx).self = false :=
    downloading_eq_false.mp (Bool.eq_false_iff.mpr hnot) (.download k)
  rw [flag_begin shared hidle] at hflag
  simp at hflag

theorem flag_pollBorrowed (timerNow : ℕ) (k : Kind) (ctx : Ctx) :
    flag (.download k) (pollBorrowed shared timerNow ctx).self = flag (.download k) ctx.self := by
  unfold pollBorrowed
  split_ifs
  · cases k <;> rfl
  · rfl

theorem flag_startAll (timerNow : ℕ) (ctx : Ctx) (hidle : ctx.self.downloading = false) (k : Kind) :
    flag (.download k) (startAll shared timerNow ctx).self =
      decide (kinds.find? (Clerk.asked ctx.request) = some k) := by
  rw [startAll,flag_pollBorrowed,foldl_start shared hidle]
  cases hfind : kinds.find? (Clerk.asked ctx.request) with
  | none =>
    have hk := downloading_eq_false.mp hidle (.download k)
    simpa using hk
  | some j =>
    rw [Option.elim_some,flag_begin shared hidle]
    simp [eq_comm]

theorem recovery_eq {call : Call} (hcall : ∀ marginMode, call ≠ .listenKey marginMode) (k : Kind) :
    decide (call.recovery ≠ some (.download k)) =
      !(clerk.holds call && decide (clerk.kind call = some k)) := by
  cases call with
  | listenKey marginMode => exact absurd rfl (hcall marginMode)
  | accountCrossOnTimer => rfl
  | _ => simp [clerk, Call.recovery]

theorem flag_completion (k j : Kind) (t : TraceInfo) (ctx : Ctx) :
    flag (.download j) (completion k t ctx).self =
      (flag (.download j) ctx.self && !decide (k = j)) := by
  rw [completion,Context.modify_self,flag_setDownload,Context.reply_self]
  by_cases hk : k = j
  · simp [hk]
  · simp [hk, Ne.symm hk]

/-- A response with a listen key ends its download, whatever it does to the sequencer. -/
theorem flag_getListenKeyAck (t : TraceInfo) (marginMode : MarginMode) (response : RestResponse)
    (retryNow : Bool) {ctx : Ctx}
    (hno : (getListenKeyAck shared t marginMode response retryNow ctx).outputs.any Output.isFatal =
      false) (k : Kind) :
    flag (.download k) (getListenKeyAck shared t marginMode response retryNow ctx).self =
      (flag (.download k) ctx.self && !decide (Kind.listenKeyCross = k)) := by
  rcases getListenKeyAck_cases (t := t) shared marginMode response retryNow ctx with
    ⟨hfatal,-⟩ | ⟨ack,-,rfl,heq⟩ | ⟨-,ctx',-,hself,-,heq⟩
  · rw [hfatal] at hno
    cases hno
  · have hack : flag (.download k) (onListenKeyAckMargin ack .cross ctx).self =
        flag (.download k) ctx.self := by
      cases k <;> rfl
    rw [heq,flag_completion,flag_sequencer ((kept_flag _ _).check .listenKey hack)]
  · have hsame : flag (.download k) ctx'.self = flag (.download k) ctx.self := by rw [hself]
    rw [heq,flag_completion,flag_sequencer ((kept_flag _ _).retry states retryNow .listenKey hsame)]

theorem flag_onResponse (t : TraceInfo) (call : Call) (response : RestResponse) (retryNow : Bool)
    {ctx : Ctx}
    (hno : (onResponse shared t call response retryNow ctx).outputs.any Output.isFatal = false)
    (k : Kind) :
    flag (.download k) (onResponse shared t call response retryNow ctx).self =
      (flag (.download k) ctx.self &&
        !(clerk.holds call && decide (clerk.kind call = some k))) := by
  by_cases hcall : ∃ marginMode, call = .listenKey marginMode
  · obtain ⟨marginMode,rfl⟩ := hcall
    rw [onResponse,flag_getListenKeyAck shared t marginMode response retryNow hno k]
    simp [clerk, Call.kind]
  · have hcall' : ∀ marginMode, call ≠ .listenKey marginMode := fun m hm => hcall ⟨m,hm⟩
    rw [← recovery_eq hcall']
    exact (ends_onResponse shared t hcall' response retryNow ctx hno).flag (.download k)

end

theorem serves (shared : Shared) (asks : Kind → Prop) (drained : Bool) :
    clerk.Serves (handlers shared asks drained) where
  nodup := by decide
  idle self hfree k :=
    downloading_eq_false.mp (by simpa using (Bool.and_eq_true_iff.mp hfree).2) (.download k)
  connected _ ctx := ⟨(keeps_onConnected ctx).request,fun k => flag_onConnected (.download k) ctx⟩
  disconnected _ ctx := ⟨rfl,fun k => flag_onDisconnected (.download k) ctx⟩
  reply t call reply self request hno := by
    refine .of_reply ?_ (flag_onResponse shared t call reply.response reply.retryNow hno)
    have hanswers := answers_onResponse (t := t) shared call reply.response reply.retryNow
      ⟨self,request,[]⟩
    exact hanswers.request.resolve_left (Bool.eq_false_iff.mp hno)
  input t input self request := by
    cases input with
    | client clientRequest =>
      refine ⟨(keeps_onRequest shared clientRequest ⟨self,request,[]⟩).request,?_⟩
      intro k
      have hflag := (does_onRequest shared clientRequest ⟨self,request,[]⟩).flag (.download k)
      exact hflag.trans (by simp [clerk, Clerk.op, Clerk.flagged])
    | post k hk => exact ⟨rfl,fun _ => rfl⟩
    | timer timerNow refresh =>
      have hrequest := (keeps_onTimer shared timerNow refresh ⟨self,request,[]⟩).request
      by_cases hfree : (refresh && clerk.free self) = true
      · have hidle : self.downloading = false := by
          have hboth := (Bool.and_eq_true_iff.mp (Bool.and_eq_true_iff.mp hfree).2).2
          simpa using hboth
        have htimer : onTimer shared timerNow refresh ⟨self,request,[]⟩ =
            startAll shared timerNow ⟨self,request,[]⟩ := by
          rw [onTimer,if_pos]
          simpa [clerk, Bool.and_assoc] using hfree
        simp only [Clerk.op, hfree, if_true]
        refine ⟨hrequest,?_⟩
        intro k
        have hflag := flag_startAll shared timerNow ⟨self,request,[]⟩ hidle k
        rw [← htimer] at hflag
        exact hflag
      · have htimer : onTimer shared timerNow refresh ⟨self,request,[]⟩ = ⟨self,request,[]⟩ := by
          rw [onTimer,if_neg]
          simpa [clerk, Bool.and_assoc] using hfree
        simp only [Clerk.op, hfree]
        refine ⟨hrequest,?_⟩
        intro k
        exact congrArg (fun ctx : Ctx => flag (.download k) ctx.self) htimer

end OrderEntryMargin

namespace OrderEntryPortfolio

def flag (k : Kind) (self : OrderEntryPortfolio) : Bool :=
  match k with
  | .account => self.downloadAccount
  | .orders => self.downloadOrders
  | .trades => self.downloadTrades
  | _ => false

def clerk : Clerk OrderEntryPortfolio Call where
  kinds := kinds
  flag := flag
  free self := self.isReady && (self.master && !self.downloading)
  kind := Call.kind
  holds _ := true

def flags (ctx : Ctx) : Kind → Bool := fun k => flag k ctx.self

theorem indifferent_flags : Indifferent flags := Indifferent.self fun self k => flag k self

theorem flag_setDownload {k : Kind} (hk : k ∈ kinds) (value : Bool) (j : Kind)
    (self : OrderEntryPortfolio) :
    flag j (setDownload k value self) = if j = k then value else flag j self := by
  cases k <;> cases j <;> first | rfl | simp [kinds] at hk

theorem downloading_eq_false {self : OrderEntryPortfolio} :
    self.downloading = false ↔ ∀ k, flag k self = false := by
  constructor
  · intro h k
    simp only [downloading, Bool.or_eq_false_iff] at h
    cases k <;> simp [flag, h]
  · intro h
    simp only [downloading, Bool.or_eq_false_iff]
    exact ⟨⟨h .account,h .orders⟩,h .trades⟩

theorem kept_flags (ctx₀ : Ctx) : Download.Kept downloadState (Keeps flags ctx₀) := by
  intro state ctx h
  have hstatus (status : ConnectionStatus) (reason : String) :
      Keeps flags ctx₀ (onConnectionStatus status reason ctx) :=
    (h.modify (g := fun self => {self with connectionStatus := status}) rfl).dispatch
      indifferent_flags _
  cases state with
  | listenKey =>
    rw [downloadState]
    split_ifs
    · exact (hstatus .downloading "LISTEN_KEY").send indifferent_flags .listenKey
    · exact h
  | done => exact ⟨(hstatus .ready "").view,(hstatus .ready "").request⟩

theorem keepsFlags_sequencer {f : Download State → Ctx → Download State × Ctx} {ctx₀ ctx : Ctx}
    (h : Keeps flags ctx₀ (f ctx.self.download ctx).2) : Keeps flags ctx₀ (sequencer f ctx) :=
  ⟨h.view,h.request⟩

theorem keepsFlags_onConnected (ctx : Ctx) : Keeps flags ctx (onConnected ctx) := by
  unfold onConnected
  split_ifs
  · exact keepsFlags_sequencer ((kept_flags ctx).bump (Keeps.refl ctx))
  · exact keepsFlags_sequencer ((kept_flags ctx).begin states (Keeps.refl ctx))

section
variable (shared : Shared)

theorem keepsFlags_refreshListenKey (t : TraceInfo) (ctx : Ctx) :
    Keeps flags ctx (refreshListenKey shared t ctx) := by
  unfold refreshListenKey
  split_ifs
  · exact Keeps.refl ctx
  · exact Keeps.refl ctx
  · exact ((Keeps.refl ctx).modify (g := fun self =>
      {self with listenKeyRefresh := t.originCreateTime+shared.settings.listenKeyRefresh}) rfl).send
        indifferent_flags .listenKey

theorem keepsFlags_remember (symbol : String) (ctx : Ctx) :
    Keeps flags ctx (ctx.modify fun self =>
      {self with openOrdersSymbols := emplace self.openOrdersSymbols symbol}) :=
  (Keeps.refl ctx).modify rfl

theorem keepsFlags_onRequest (request : ClientRequest) (ctx : Ctx) :
    Keeps flags ctx (onRequest shared request ctx).1 := by
  have hctx : Keeps flags ctx ctx := Keeps.refl ctx
  cases request with
  | createOrder info request body =>
    have hsymbol := keepsFlags_remember request.symbol ctx
    simp only [onRequest, newOrder]
    split_ifs
    · exact hctx
    · split
      · exact hsymbol
      · exact hsymbol.send indifferent_flags _
  | modifyOrder info request => exact hctx
  | cancelOrder info request body =>
    simp only [onRequest, cancelOrder]
    split_ifs
    · exact hctx
    · split
      · exact hctx
      · exact hctx.send indifferent_flags _
  | cancelAllOrders request requestId =>
    simp only [onRequest, cancelAllOpenOrders]
    split_ifs
    · exact hctx
    · refine Keeps.foldl (fun ctx symbol => ?_) _ ctx
      split_ifs
      · exact Keeps.refl ctx
      · exact ((Keeps.refl ctx).send indifferent_flags _).dispatch indifferent_flags _

theorem keepsFlags_onOpenOrdersAck (ack : OpenOrdersAck) (ctx : Ctx) :
    Keeps flags ctx (onOpenOrdersAck shared ack ctx) := by
  refine Keeps.foldl (fun ctx order => ?_) ack.data ctx
  unfold onOpenOrder
  split_ifs
  · exact Keeps.refl ctx
  · exact (keepsFlags_remember order.symbol ctx).dispatch indifferent_flags _

theorem keepsFlags_limit (forbidden : Bool) (retryAfter : ℕ) (ctx : Ctx) :
    Keeps flags ctx (limit shared forbidden retryAfter ctx) := by
  have hwaf : Keeps flags ctx (if forbidden then wafLimitViolation shared ctx else ctx) := by
    split_ifs
    · exact (Keeps.refl ctx).wafLimitViolation indifferent_flags shared
    · exact Keeps.refl ctx
  unfold limit suspendFor
  split_ifs at hwaf ⊢
  · exact hwaf.emit indifferent_flags rfl
  · exact hwaf.emit indifferent_flags rfl
  · exact hwaf
  · exact hwaf

theorem keepsFlags_onListenKeyAck (t : TraceInfo) (ack : ListenKeyAck) (ctx : Ctx) :
    Keeps flags ctx (onListenKeyAck shared t ack ctx) := by
  simp only [onListenKeyAck]
  split_ifs
  · exact ⟨rfl,rfl⟩
  · exact ⟨rfl,rfl⟩

/-- Unless the process has ended, the download `o` is over, if any. -/
def Ends (o : Option Kind) (ctx ctx' : Ctx) : Prop :=
  ctx'.outputs.any Output.isFatal = true ∨
    ∀ k, flag k ctx'.self = (flag k ctx.self && !decide (o = some k))

variable {ctx ctx' : Ctx}

theorem Ends.of_keeps (h : Keeps flags ctx ctx') : Ends none ctx ctx' := by
  refine .inr ?_
  intro k
  have hk : flag k ctx'.self = flag k ctx.self := congrFun h.view k
  simpa using hk

theorem ends_completion {k : Kind} (hk : k ∈ kinds) (t : TraceInfo) (h : Keeps flags ctx ctx') :
    Ends (some k) ctx (completion k t ctx') := by
  refine .inr ?_
  intro j
  have hj : flag j ctx'.self = flag j ctx.self := congrFun h.view j
  rw [completion,Context.modify_self,flag_setDownload hk,Context.reply_self,hj]
  by_cases hjk : j = k
  · simp [hjk]
  · simp [hjk, Ne.symm hjk]

theorem ends_processResponse {α : Type} {decode : Body → Except String α} {response : RestResponse}
    {errorHandler : Origin → RequestStatus → Error → String → Ctx → Ctx}
    {successHandler : α → Ctx → Ctx} {o : Option Kind}
    (herror : ∀ origin status error text ctx', Keeps flags ctx ctx' →
      Ends o ctx (errorHandler origin status error text ctx'))
    (hsuccess : ∀ value, Ends o ctx (successHandler value ctx)) :
    Ends o ctx (processResponse shared decode response errorHandler successHandler ctx) := by
  refine processResponseWith_cases (I := Keeps flags ctx) (Keeps.refl ctx) ?_ herror
    (fun value _ => hsuccess value) fun text => .inl (by simp [Output.isFatal])
  exact fun forbidden retryAfter => keepsFlags_limit shared forbidden retryAfter ctx

theorem ends_onResponse (t : TraceInfo) (call : Call) (response : RestResponse) (retryNow : Bool)
    (ctx : Ctx) : Ends call.kind ctx (onResponse shared t call response retryNow ctx) := by
  have hctx : Keeps flags ctx ctx := Keeps.refl ctx
  cases call with
  | listenKey =>
    rw [onResponse,getListenKeyAck]
    refine ends_processResponse shared ?_ ?_
    · intro _ _ _ _ ctx' h
      exact .of_keeps (keepsFlags_sequencer ((kept_flags ctx).retry states retryNow .listenKey h))
    · intro ack
      have hack := keepsFlags_onListenKeyAck shared t ack ctx
      exact .of_keeps (keepsFlags_sequencer ((kept_flags ctx).check .listenKey hack))
  | account =>
    rw [onResponse,getAccountAck]
    refine ends_processResponse shared ?_ ?_
    · intro _ _ _ _ ctx' h; exact ends_completion (by decide) t h
    · intro ack; exact ends_completion (by decide) t (hctx.dispatchAll indifferent_flags _)
  | openOrders =>
    rw [onResponse,getOpenOrdersAck]
    refine ends_processResponse shared ?_ ?_
    · intro _ _ _ _ ctx' h; exact ends_completion (by decide) t h
    · intro ack; exact ends_completion (by decide) t (keepsFlags_onOpenOrdersAck shared ack ctx)
  | trades symbol lookback limit =>
    rw [onResponse,getTradesAck]
    refine ends_processResponse shared ?_ ?_
    · intro _ _ _ _ ctx' h; exact ends_completion (by decide) t h
    · intro ack
      have hends := ends_completion (k := .trades) (by decide) t
        (hctx.dispatchAll indifferent_flags (onTradesAck shared ctx.self ack))
      exact hends
  | newOrder body userId orderId =>
    rw [onResponse,newOrderAck]
    refine ends_processResponse shared ?_ ?_
    · intro _ _ _ _ ctx' h; exact .of_keeps (h.dispatch indifferent_flags _)
    · intro ack; exact .of_keeps (hctx.dispatch indifferent_flags _)
  | cancelOrder body userId orderId version =>
    rw [onResponse,cancelOrderAck]
    refine ends_processResponse shared ?_ ?_
    · intro _ _ _ _ ctx' h; exact .of_keeps (h.dispatch indifferent_flags _)
    · intro ack; exact .of_keeps (hctx.dispatch indifferent_flags _)
  | cancelAllOpenOrders symbol requestId =>
    rw [onResponse,cancelAllOpenOrdersAck]
    refine ends_processResponse shared ?_ ?_
    · intro _ _ _ _ ctx' h; exact .of_keeps (h.dispatch indifferent_flags _)
    · intro ack
      exact .of_keeps ((hctx.dispatchAll indifferent_flags _).dispatch indifferent_flags _)

/-- A download that has been started is in progress. -/
def begin (k : Kind) (ctx : Ctx) : Ctx := (get shared k ctx).modify (setDownload k true)

theorem flag_begin {k : Kind} (hidle : ctx.self.downloading = false) (hk : k ∈ kinds) (j : Kind) :
    flag j (begin shared k ctx).self = decide (j = k) := by
  have hself : (get shared k ctx).self = ctx.self := by
    cases k with
    | trades =>
      exact List.foldlRecOn (motive := fun c : Ctx => c.self = ctx.self)
        shared.settings.downloadSymbols _ rfl fun c hc _ _ => hc
    | _ => rfl
  rw [begin,Context.modify_self,flag_setDownload hk,hself,downloading_eq_false.mp hidle j]
  split_ifs with hj
  · exact (decide_eq_true hj).symm
  · exact (decide_eq_false hj).symm

theorem foldl_start (hidle : ctx.self.downloading = false) :
    kinds.foldl (start shared) ctx =
      (kinds.find? (Clerk.asked ctx.request)).elim ctx (begin shared · ctx) := by
  refine Clerk.foldl_start hidle fun k hk _ => ?_
  by_contra hnot
  have hflag : flag k (begin shared k ctx).self = false :=
    downloading_eq_false.mp (Bool.eq_false_iff.mpr hnot) k
  rw [flag_begin shared hidle hk] at hflag
  simp at hflag

theorem free_refreshListenKey (t : TraceInfo) (ctx : Ctx) :
    clerk.free (refreshListenKey shared t ctx).self = clerk.free ctx.self := by
  unfold refreshListenKey
  split_ifs <;> rfl

/-- The refresh of the listen key comes first, and leaves the downloads alone. -/
theorem onTimer_of_free (t : TraceInfo)
    (hfree : (ctx.self.isReady && (ctx.self.master && !ctx.self.downloading)) = true) :
    onTimer shared t true ctx = kinds.foldl (start shared) (refreshListenKey shared t ctx) := by
  have hsame := free_refreshListenKey shared t ctx
  simp only [clerk] at hsame
  simp only [onTimer, if_true, hsame, hfree]

theorem flag_onTimer (t : TraceInfo) (ctx : Ctx)
    (hfree : (ctx.self.isReady && (ctx.self.master && !ctx.self.downloading)) = true) (k : Kind) :
    flag k (onTimer shared t true ctx).self =
      decide (kinds.find? (Clerk.asked ctx.request) = some k) := by
  have hkeeps := keepsFlags_refreshListenKey shared t ctx
  have hflags : ∀ k, flag k (refreshListenKey shared t ctx).self = flag k ctx.self :=
    congrFun hkeeps.view
  have hboth := (Bool.and_eq_true_iff.mp (Bool.and_eq_true_iff.mp hfree).2).2
  have hnone : ∀ j, flag j ctx.self = false := downloading_eq_false.mp (by simpa using hboth)
  have hidle : (refreshListenKey shared t ctx).self.downloading = false :=
    downloading_eq_false.mpr fun j => (hflags j).trans (hnone j)
  rw [onTimer_of_free shared t hfree,foldl_start shared hidle,hkeeps.request]
  cases hfind : kinds.find? (Clerk.asked ctx.request) with
  | none => simpa using (hflags k).trans (hnone k)
  | some j =>
    have hmem : j ∈ kinds := List.mem_of_find?_eq_some hfind
    rw [Option.elim_some,flag_begin shared hidle hmem]
    simp [eq_comm]

/-- A timer that finds the stream busy or its connection down starts nothing. -/
theorem keepsFlags_onTimer (t : TraceInfo) {refresh : Bool} (ctx : Ctx)
    (hbusy : ¬ (refresh && (ctx.self.isReady && (ctx.self.master && !ctx.self.downloading))) = true) :
    Keeps flags ctx (onTimer shared t refresh ctx) := by
  have hkeeps := keepsFlags_refreshListenKey shared t ctx
  cases refresh with
  | false => exact Keeps.refl ctx
  | true =>
    have hsame := free_refreshListenKey shared t ctx
    simp only [clerk] at hsame
    rw [Bool.true_and] at hbusy
    simp only [onTimer, if_true, hsame, hbusy]
    exact hkeeps

end

theorem serves (shared : Shared) (asks : Kind → Prop) (drained : Bool) :
    clerk.Serves (handlers shared asks drained) where
  nodup := by decide
  idle self hfree k := by
    have hboth := (Bool.and_eq_true_iff.mp (Bool.and_eq_true_iff.mp hfree).2).2
    exact downloading_eq_false.mp (by simpa using hboth) k
  connected _ ctx :=
    ⟨(keepsFlags_onConnected ctx).request,fun k => congrFun (keepsFlags_onConnected ctx).view k⟩
  disconnected _ ctx := ⟨rfl,fun k => by cases k <;> rfl⟩
  reply t call reply self request hno := by
    have hanswers := answers_onResponse (t := t) shared call reply.response reply.retryNow
      ⟨self,request,[]⟩
    have hends := ends_onResponse shared t call reply.response reply.retryNow ⟨self,request,[]⟩
    have hnot : ¬ (onResponse shared t call reply.response reply.retryNow
        ⟨self,request,[]⟩).outputs.any Output.isFatal = true := Bool.eq_false_iff.mp hno
    exact .of_reply (hanswers.request.resolve_left hnot) (hends.resolve_left hnot)
  input t input self request := by
    cases input with
    | client clientRequest =>
      have hkeeps := keepsFlags_onRequest shared clientRequest ⟨self,request,[]⟩
      exact ⟨hkeeps.request,fun k => congrFun hkeeps.view k⟩
    | post k hk => exact ⟨rfl,fun _ => rfl⟩
    | timer timerNow refresh =>
      by_cases hfree : (refresh && clerk.free self) = true
      · obtain ⟨rfl,hself⟩ := Bool.and_eq_true_iff.mp hfree
        simp only [Clerk.op, hfree, if_true]
        exact ⟨(keeps_onTimer shared t true ⟨self,request,[]⟩).request,
          flag_onTimer shared t ⟨self,request,[]⟩ hself⟩
      · have hkeeps := keepsFlags_onTimer shared t ⟨self,request,[]⟩ hfree
        simp only [Clerk.op, hfree]
        exact ⟨hkeeps.request,fun k => congrFun hkeeps.view k⟩

end OrderEntryPortfolio

/-- Both order entries start the downloads that are asked for in the fixed order, one at a time, and
each one is passed over by no more timers than there are downloads asked for ahead of it. -/
theorem order_entries_diligent (shared : Shared) (asks : Kind → Prop) (drained : Bool) (streamId : ℕ)
    (account : String) :
    OrderEntryMargin.clerk.Diligent (OrderEntryMargin.handlers shared asks drained)
        (OrderEntryMargin.create streamId account) ∧
      OrderEntryPortfolio.clerk.Diligent (OrderEntryPortfolio.handlers shared asks drained)
        (OrderEntryPortfolio.create streamId account) :=
  ⟨(OrderEntryMargin.serves shared asks drained).diligent fun k => by cases k <;> rfl,
    (OrderEntryPortfolio.serves shared asks drained).diligent fun k => by cases k <;> rfl⟩

end RoqBinance.Gateway
