import RoqBinance.Gateway.ListenKey
import RoqBinance.Library.Lease

/-! The listen key of a portfolio account as a lease: the order entry asks for it again whenever
its refresh is due, and what it asks for is granted by the responses. -/
namespace RoqBinance.Gateway
open Library Streams Protocol.Json

namespace OrderEntryPortfolio

/-- A part of the stream that neither the orders nor the downloads for the user stream touch. -/
structure Distant {α : Type} (f : OrderEntryPortfolio → α) : Prop where
  setDownload : ∀ k value self, f (setDownload k value self) = f self
  symbols : ∀ symbols (self : OrderEntryPortfolio), f {self with openOrdersSymbols := symbols} = f self
  tradesIsFirst : ∀ value (self : OrderEntryPortfolio),
    f {self with downloadTradesIsFirst := value} = f self

section
variable {α : Type} {f : OrderEntryPortfolio → α} (hf : Distant f) (shared : Shared)

theorem get_self (k : Kind) (ctx : Ctx) : (get shared k ctx).self = ctx.self := by
  cases k with
  | trades =>
    exact List.foldlRecOn (motive := fun c : Ctx => c.self = ctx.self) _ _ rfl fun _ h _ _ => h
  | _ => rfl

include hf

theorem distant_start (ctx : Ctx) (k : Kind) : f (start shared ctx k).self = f ctx.self := by
  unfold start
  split_ifs
  · rw [Context.modify_self,hf.setDownload,get_self]
  · rfl

theorem distant_onRequest (request : ClientRequest) (ctx : Ctx) :
    f (onRequest shared request ctx).1.self = f ctx.self := by
  cases request with
  | createOrder info request body =>
    simp only [onRequest, newOrder]
    split_ifs
    · rfl
    · split
      · exact hf.symbols _ _
      · exact hf.symbols _ _
  | modifyOrder info request => rfl
  | cancelOrder info request body =>
    simp only [onRequest, cancelOrder]
    split_ifs
    · rfl
    · split <;> rfl
  | cancelAllOrders request requestId =>
    simp only [onRequest, cancelAllOpenOrders]
    split_ifs
    · rfl
    · refine List.foldlRecOn (motive := fun c : Ctx => f c.self = f ctx.self) _ _ rfl ?_
      intro c h symbol _
      split_ifs
      · exact h
      · exact h

theorem distant_completion (k : Kind) (t : TraceInfo) (ctx : Ctx) :
    f (completion k t ctx).self = f ctx.self := hf.setDownload k false ctx.self

theorem distant_onOpenOrdersAck (ack : OpenOrdersAck) (ctx : Ctx) :
    f (onOpenOrdersAck shared ack ctx).self = f ctx.self := by
  refine List.foldlRecOn (motive := fun c : Ctx => f c.self = f ctx.self) _ _ rfl ?_
  intro c h order _
  unfold onOpenOrder
  split_ifs
  · exact h
  · exact (hf.symbols _ c.self).trans h

omit hf in
theorem distant_processResponse {β : Type} {decode : Body → Except String β}
    {response : RestResponse}
    {errorHandler : Origin → RequestStatus → Error → String → Ctx → Ctx}
    {successHandler : β → Ctx → Ctx} {ctx : Ctx}
    (herror : ∀ origin status error text ctx, f (errorHandler origin status error text ctx).self =
      f ctx.self) (hsuccess : ∀ value, f (successHandler value ctx).self = f ctx.self) :
    f (processResponse shared decode response errorHandler successHandler ctx).self =
      f ctx.self := by
  refine processResponseWith_cases (P := fun c : Ctx => f c.self = f ctx.self)
    (I := fun c : Ctx => c.self = ctx.self) rfl
    (fun forbidden retryAfter => limit_self shared forbidden retryAfter ctx) ?_
    (fun value _ => hsuccess value) fun _ => rfl
  intro origin status error text ctx' h
  rw [herror,h]

/-- The callbacks other than that of a listen key. -/
theorem distant_onResponse (t : TraceInfo) {call : Call} (hcall : call ≠ .listenKey)
    (response : RestResponse) (retryNow : Bool) (ctx : Ctx) :
    f (onResponse shared t call response retryNow ctx).self = f ctx.self := by
  have hcompletion := fun k => distant_completion hf k t
  cases call with
  | listenKey => exact absurd rfl hcall
  | account =>
    exact distant_processResponse shared (fun _ _ _ _ => hcompletion _) fun _ => hcompletion _ _
  | openOrders =>
    refine distant_processResponse shared (fun _ _ _ _ => hcompletion _) fun ack => ?_
    exact (hcompletion _ _).trans (distant_onOpenOrdersAck hf shared ack ctx)
  | trades symbol lookback limit =>
    refine distant_processResponse shared (fun _ _ _ _ => hcompletion _) fun ack => ?_
    exact (hf.tradesIsFirst _ _).trans (hcompletion _ _)
  | newOrder body userId orderId =>
    exact distant_processResponse shared (fun _ _ _ _ _ => rfl) fun _ => rfl
  | cancelOrder body userId orderId version =>
    exact distant_processResponse shared (fun _ _ _ _ _ => rfl) fun _ => rfl
  | cancelAllOpenOrders symbol requestId =>
    exact distant_processResponse shared (fun _ _ _ _ _ => rfl) fun _ => rfl

end

/-- What decides when the stream asks for its listen key. -/
def schedule (self : OrderEntryPortfolio) : Bool × Bool × ℕ × Download State :=
  (self.master,self.ready,self.listenKeyRefresh,self.download)

theorem distant_schedule : Distant schedule where
  setDownload k _ _ := by cases k <;> rfl
  symbols _ _ := rfl
  tradesIsFirst _ _ := rfl

/-- The stream waits for nothing but its listen key, and once it has been ready it asks again. -/
structure Asking (stream : OrderEntryPortfolio) : Prop where
  master : stream.master = true
  charged : stream.ready = true → stream.listenKeyRefresh ≠ 0
  waiting : ∀ state more rest, stream.download = .waiting state more rest → state = .listenKey

theorem asking_create (streamId : ℕ) (account : String) : Asking (create streamId account) :=
  ⟨rfl,nofun,nofun⟩

/-- A handler that leaves it to the timer to ask. -/
structure Rests (ctx ctx' : Ctx) : Prop where
  due : ctx'.self.listenKeyRefresh = ctx.self.listenKeyRefresh
  ready : ctx'.self.ready = true → ctx.self.ready = true
  asking : Asking ctx'.self

theorem asking_congr {self self' : OrderEntryPortfolio} (h : schedule self' = schedule self)
    (ha : Asking self) : Asking self' := by
  simp only [schedule, Prod.mk.injEq] at h
  obtain ⟨hmaster,hready,hdue,hdownload⟩ := h
  exact ⟨hmaster.trans ha.master,by rw [hready,hdue]; exact ha.charged,
    by rw [hdownload]; exact ha.waiting⟩

theorem rests_of_schedule {ctx ctx' : Ctx} (h : schedule ctx'.self = schedule ctx.self)
    (ha : Asking ctx.self) : Rests ctx ctx' := by
  have hasking := asking_congr h ha
  simp only [schedule, Prod.mk.injEq] at h
  exact ⟨h.2.2.1,fun hr => h.2.1 ▸ hr,hasking⟩

/-- A master that begins its download waits for its listen key. -/
theorem enter_listenKey {ctx : Ctx} (hm : ctx.self.master = true) (rest : List State)
    (d : Download State) : Download.enter downloadState (.listenKey::rest) d ctx =
      (.waiting .listenKey 0 rest,getListenKey (onConnectionStatus .downloading "LISTEN_KEY" ctx)) := by
  simp [Download.enter, downloadState, hm]

theorem rests_enter {ctx : Ctx} (ha : Asking ctx.self) (rest : List State) (d : Download State)
    {f : Download State → Ctx → Download State × Ctx}
    (hf : f ctx.self.download ctx = Download.enter downloadState (.listenKey::rest) d ctx) :
    Rests ctx (sequencer f ctx) := by
  unfold sequencer
  rw [hf,enter_listenKey ha.master]
  refine ⟨rfl,id,ha.master,ha.charged,?_⟩
  intro state more rest' h
  cases h
  rfl

theorem rests_onConnected {ctx : Ctx} (ha : Asking ctx.self) : Rests ctx (onConnected ctx) := by
  unfold onConnected
  split_ifs with hd
  · cases hdownload : ctx.self.download with
    | waiting state more rest =>
      obtain rfl := ha.waiting state more rest hdownload
      exact rests_enter ha rest (.waiting .listenKey more rest) (by rw [hdownload]; rfl)
    | idle => rw [hdownload] at hd; cases hd
    | done state => rw [hdownload] at hd; cases hd
  · exact rests_enter ha [.done] .idle rfl

theorem rests_onDisconnected {ctx : Ctx} (ha : Asking ctx.self) :
    Rests ctx (onDisconnected ctx) := by
  refine ⟨rfl,nofun,ha.master,nofun,?_⟩
  intro state more rest h
  change (if ctx.self.download.downloading then ctx.self.download else .idle) = _ at h
  split_ifs at h
  exact ha.waiting state more rest h

theorem rests_retry {ctx ctx' : Ctx} (ha : Asking ctx.self) (hs : ctx'.self = ctx.self)
    (retryNow : Bool) : Rests ctx
      (sequencer (Download.retry downloadState states retryNow .listenKey) ctx') := by
  rw [← hs] at ha
  have hrests : Rests ctx'
      (sequencer (Download.retry downloadState states retryNow .listenKey) ctx') := by
    by_cases hretry : (retryNow && ctx'.self.download.downloading) = true
    · exact rests_enter ha [.done] ctx'.self.download (by rw [Download.retry,if_pos hretry]; rfl)
    · refine rests_of_schedule ?_ ha
      simp only [sequencer, Download.retry, if_neg hretry]
      rfl
  exact ⟨hs ▸ hrests.due,hs ▸ hrests.ready,hrests.asking⟩

theorem kept_due (due : ℕ) : Download.Kept downloadState fun ctx =>
    ctx.self.master = true ∧ ctx.self.listenKeyRefresh = due := by
  intro state ctx h
  cases state with
  | listenKey =>
    rw [downloadState]
    split_ifs
    · exact h
    · exact h
  | done => exact h

theorem waiting_rule : Download.Rule downloadState (fun _ => True) fun d _ =>
    ∀ state more rest, d = .waiting state more rest → state = .listenKey where
  owner _ _ _ := trivial
  done _ _ _ _ := nofun
  waiting state ctx n xs _ hn := by
    intro state' more rest h
    cases h
    cases state with
    | listenKey => rfl
    | done => cases hn
  left _ _ _ _ _ := nofun
  fewer state n xs ctx h := by
    intro state' more rest he
    cases he
    exact h state (n+1) xs rfl

/-- A listen key that arrives sets when the next one is asked for. -/
theorem granted_onListenKeyAck (shared : Shared) {t : TraceInfo} (ht : 0 < t.originCreateTime)
    (ack : ListenKeyAck) {ctx : Ctx} (ha : Asking ctx.self) :
    let ctx' := sequencer (Download.check downloadState .listenKey)
      (onListenKeyAck shared t ack ctx)
    ctx'.self.listenKeyRefresh = t.originCreateTime+shared.settings.listenKeyRefresh ∧
      Asking ctx'.self := by
  have hack : (onListenKeyAck shared t ack ctx).self.master = true ∧
      (onListenKeyAck shared t ack ctx).self.listenKeyRefresh =
        t.originCreateTime+shared.settings.listenKeyRefresh ∧
      (onListenKeyAck shared t ack ctx).self.download = ctx.self.download := by
    simp only [onListenKeyAck]
    split_ifs
    · exact ⟨ha.master,rfl,rfl⟩
    · exact ⟨ha.master,rfl,rfl⟩
  obtain ⟨hmaster,hdue,hdownload⟩ := hack
  have hkept := (kept_due _).check .listenKey (d := (onListenKeyAck shared t ack ctx).self.download)
    ⟨hmaster,hdue⟩
  have hwaiting := (waiting_rule.check .listenKey
    (d := (onListenKeyAck shared t ack ctx).self.download) (s := onListenKeyAck shared t ack ctx)
    trivial (by rw [hdownload]; exact ha.waiting)).2
  refine ⟨hkept.2,hkept.1,fun _ => ?_,hwaiting⟩
  change (Download.check downloadState .listenKey _ _).2.self.listenKeyRefresh ≠ 0
  rw [hkept.2]
  omega

/-- The requests for a listen key that have been sent. -/
def keyCalls (ctx : Ctx) : List Call :=
  (ctx.outputs.filterMap Output.sent).filter fun call => call = .listenKey

theorem keyCalls_send (ctx : Ctx) (call : Call) :
    keyCalls (ctx.send call) = keyCalls ctx ++ if call = .listenKey then [.listenKey] else [] := by
  simp only [keyCalls, Context.send_outputs, List.filterMap_append, List.filter_append]
  by_cases h : call = .listenKey
  · subst h
    rfl
  · simp [Output.sent, h]

section
variable (shared : Shared)

theorem keyCalls_get (k : Kind) (ctx : Ctx) : keyCalls (get shared k ctx) = keyCalls ctx := by
  cases k with
  | account => exact (keyCalls_send ctx .account).trans (List.append_nil _)
  | orders => exact (keyCalls_send ctx .openOrders).trans (List.append_nil _)
  | trades =>
    refine List.foldlRecOn (motive := fun c : Ctx => keyCalls c = keyCalls ctx) _ _ rfl ?_
    intro c h symbol _
    exact (keyCalls_send c _).trans ((List.append_nil _).trans h)
  | _ => rfl

theorem start_cases (ctx : Ctx) (k : Kind) :
    schedule (start shared ctx k).self = schedule ctx.self ∧
      keyCalls (start shared ctx k) = keyCalls ctx := by
  refine ⟨distant_start distant_schedule shared ctx k,?_⟩
  unfold start
  split_ifs
  · exact keyCalls_get shared k ctx
  · rfl

/-- The downloads do not ask for the listen key. -/
theorem onTimer_refreshes (t : TraceInfo) (ctx : Ctx) :
    schedule (onTimer shared t true ctx).self = schedule (refreshListenKey shared t ctx).self ∧
      keyCalls (onTimer shared t true ctx) = keyCalls (refreshListenKey shared t ctx) := by
  simp only [onTimer, if_true]
  split_ifs
  · refine List.foldlRecOn (motive := fun c : Ctx =>
      schedule c.self = schedule (refreshListenKey shared t ctx).self ∧
        keyCalls c = keyCalls (refreshListenKey shared t ctx)) _ _ ⟨rfl,rfl⟩ ?_
    intro c h k _
    obtain ⟨hschedule,hcalls⟩ := start_cases shared c k
    exact ⟨hschedule.trans h.1,hcalls.trans h.2⟩
  · exact ⟨rfl,rfl⟩

/-- A timer asks for the listen key if it finds that it is due. -/
theorem refreshListenKey_cases (t : TraceInfo) {ctx : Ctx} (ha : Asking ctx.self) :
    (refreshListenKey shared t ctx = ctx ∧
      (ctx.self.ready = true → t.originCreateTime < ctx.self.listenKeyRefresh)) ∨
    (ctx.self.ready = true ∧ ctx.self.listenKeyRefresh ≤ t.originCreateTime ∧
      refreshListenKey shared t ctx = getListenKey (ctx.modify fun self =>
        {self with listenKeyRefresh := t.originCreateTime+shared.settings.listenKeyRefresh})) := by
  unfold refreshListenKey
  split_ifs with hready hdue
  · refine .inl ⟨rfl,fun hr => ?_⟩
    rw [hr] at hready
    cases hready
  · refine .inl ⟨rfl,fun hr => ?_⟩
    rcases Bool.or_eq_true_iff.mp hdue with hzero | hearly
    · exact absurd (of_decide_eq_true hzero) (ha.charged hr)
    · exact of_decide_eq_true hearly
  · refine .inr ⟨by simpa using hready,?_,rfl⟩
    simp only [Bool.or_eq_true, decide_eq_true_eq, not_or, not_lt] at hdue
    exact hdue.2

end

end OrderEntryPortfolio

/-- The streams of the account, when the order entry last had a chance to ask for its key, when
the last request was sent that has been granted, and when the timer has sent its requests. -/
structure KeyLease where
  streams : Portfolio.State
  ticked : ℕ
  renewed : ℕ
  asked : List ℕ

namespace KeyLease
open OrderEntryPortfolio

/-- When the requests for a listen key were sent that are without an answer. -/
def keys (s : Portfolio.State) : List ℕ :=
  (s.inFlight.filter fun job => job.call = .listenKey).map Job.sent

def lease (s : KeyLease) : Lease where
  clock := s.streams.clock
  active := s.streams.orderEntry.ready
  due := s.streams.orderEntry.listenKeyRefresh
  ticked := s.ticked
  renewed := s.renewed
  asked := s.asked
  outstanding := keys s.streams

/-- A response with a listen key, and when it was asked for. -/
def granted (event : Portfolio.Event) : Option ℕ :=
  match event with
  | .reply job response _ =>
    if job.call = .listenKey ∧ (classify Body.listenKeyAck response).value.isSome then some job.sent
    else none
  | _ => none

/-- A timer that finds the connection up. -/
def ticks (event : Portfolio.Event) : Bool :=
  match event with
  | .timer _ refresh _ => refresh
  | _ => false

def follow (e : Timed Portfolio.Event) (s : KeyLease) (streams : Portfolio.State) : KeyLease where
  streams := streams
  ticked :=
    if ticks e.event || (granted e.event).isSome then e.time.originCreateTime else s.ticked
  renewed := (granted e.event).elim s.renewed (max s.renewed)
  asked :=
    if ticks e.event then s.asked ++ (keys streams).drop (keys s.streams).length else s.asked

def machine (shared : Shared) (streamId dropCopyStreamId : ℕ) (account : String) :
    Machine KeyLease (Timed Portfolio.Event) where
  init := ⟨Portfolio.init streamId account,0,0,[]⟩
  next s e :=
    ((Portfolio.machine shared streamId dropCopyStreamId account).next s.streams e).map (follow e s)

/-- No request for a listen key is refused. -/
def Lossless (event : Portfolio.Event) : Prop :=
  match event with
  | .reply job _ _ => job.call = .listenKey → (granted event).isSome = true
  | _ => True

instance (event : Portfolio.Event) : Decidable (Lossless event) := by
  cases event <;> unfold Lossless <;> infer_instance

/-- Requests for a listen key are answered within `answer`, and as long as the stream is ready
they are granted and its timer comes within `tick`. -/
structure Timely (answer tick : ℕ) (s : KeyLease) (e : Timed Portfolio.Event) : Prop where
  lease : s.lease.Timely answer tick e.time.originCreateTime
  granted : s.streams.orderEntry.ready = true → Lossless e.event

instance (answer tick : ℕ) (s : KeyLease) (e : Timed Portfolio.Event) :
    Decidable (Timely answer tick s e) :=
  decidable_of_iff (((∀ sent ∈ keys s.streams, e.time.originCreateTime ≤ sent+answer) ∧
      (s.streams.orderEntry.ready = true → e.time.originCreateTime ≤ s.ticked+tick)) ∧
      (s.streams.orderEntry.ready = true → Lossless e.event))
    ⟨fun h => ⟨⟨h.1.1,h.1.2⟩,h.2⟩,fun h => ⟨⟨h.lease.answered,h.lease.ticking⟩,h.granted⟩⟩

variable {shared : Shared} {streamId dropCopyStreamId : ℕ} {account : String}

theorem keys_orderEntryPhase (t : TraceInfo) (f : Ctx → Ctx) (s : Portfolio.State) :
    keys (orderEntryPhase (Portfolio.wiring shared dropCopyStreamId) t f s).1 =
      keys s ++ (keyCalls (f ⟨s.orderEntry,s.request,[]⟩)).map fun _ => t.originCreateTime := by
  simp only [keys, keyCalls, orderEntryPhase, List.filter_append, List.map_append, List.filter_map,
    List.map_map]
  rfl

theorem subset_keys_orderEntryPhase (shared : Shared) (dropCopyStreamId : ℕ) (t : TraceInfo)
    (f : Ctx → Ctx) (s : Portfolio.State) :
    keys s ⊆ keys (orderEntryPhase (Portfolio.wiring shared dropCopyStreamId) t f s).1 := by
  rw [keys_orderEntryPhase]
  exact List.subset_append_left _ _

/-- The user stream does not take part. -/
theorem orderEntry_dropCopyPhase (f : DropCopyPortfolio.Ctx → DropCopyPortfolio.Ctx)
    (s : Portfolio.State) : (dropCopyPhase f s).1.orderEntry = s.orderEntry ∧
      keys (dropCopyPhase f s).1 = keys s := by
  unfold dropCopyPhase
  split <;> exact ⟨rfl,rfl⟩

/-- An event that neither brings a key nor has the timer look for one. -/
theorem step_rest {s : KeyLease} {e : Timed Portfolio.Event} {streams : Portfolio.State}
    {ctx : Ctx} (hclock : s.streams.clock < streams.clock) (hself : streams.orderEntry = ctx.self)
    (hrests : Rests ⟨s.streams.orderEntry,s.streams.request,[]⟩ ctx)
    (hkeys : Lossless e.event → keys s.streams ⊆ keys streams) (hticks : ticks e.event = false)
    (hgranted : granted e.event = none) (period : ℕ) :
    Asking streams.orderEntry ∧
      Lease.Step period (Lossless e.event) s.lease (follow e s streams).lease := by
  obtain ⟨hdue,hready,hasking⟩ := hrests
  rw [← hself] at hdue hready hasking
  refine ⟨hasking,.rest ⟨hclock,hready,?_⟩ hdue ?_ ?_ hkeys⟩
  · simp only [lease, follow, hgranted, Option.elim_none]
  · simp only [lease, follow, hgranted, hticks, Option.isSome_none, Bool.or_self, Bool.false_eq_true,
      if_false]
  · simp only [lease, follow, hticks, Bool.false_eq_true, if_false]

theorem subset_keys_erase {s : Portfolio.State} {job : Job Call} (hcall : job.call ≠ .listenKey) :
    keys s ⊆ keys {s with inFlight := s.inFlight.erase job} := by
  intro sent hsent
  obtain ⟨job',hmem,rfl⟩ := List.mem_map.mp hsent
  obtain ⟨hmem',hkey⟩ := List.mem_filter.mp hmem
  refine List.mem_map.mpr ⟨job',List.mem_filter.mpr ⟨?_,hkey⟩,rfl⟩
  have hne : job' ≠ job := by
    rintro rfl
    exact hcall (of_decide_eq_true hkey)
  exact (List.mem_erase_of_ne hne).mpr hmem'

/-- A response that brings no key. -/
theorem rests_onResponse (t : TraceInfo) {call : Call} {response : RestResponse} (retryNow : Bool)
    {ctx : Ctx} (ha : Asking ctx.self)
    (hnone : call = .listenKey → (classify Body.listenKeyAck response).value = none) :
    Rests ctx (onResponse shared t call response retryNow ctx) := by
  by_cases hcall : call = .listenKey
  · subst hcall
    have hvalue := hnone rfl
    rw [onResponse,getListenKeyAck,processResponse]
    refine processResponseWith_cases (P := Rests ctx) (I := fun c : Ctx => c.self = ctx.self) rfl
      (fun forbidden retryAfter => limit_self shared forbidden retryAfter ctx) ?_ ?_ ?_
    · intro origin status error text ctx' h
      exact rests_retry ha h retryNow
    · intro ack hack
      rw [hack] at hvalue
      cases hvalue
    · intro text
      exact rests_of_schedule rfl ha
  · exact rests_of_schedule (distant_onResponse distant_schedule shared t hcall response retryNow ctx) ha

theorem onResponse_granted (t : TraceInfo) {response : RestResponse} {ack : ListenKeyAck}
    (hack : (classify Body.listenKeyAck response).value = some ack) (retryNow : Bool) (ctx : Ctx) :
    onResponse shared t .listenKey response retryNow ctx =
      sequencer (Download.check downloadState .listenKey) (onListenKeyAck shared t ack ctx) := by
  rw [onResponse,getListenKeyAck,processResponse]
  exact processResponseWith_success (Processed.value_eq_some.mp hack)

/-- The timer finds the key due and asks for it, or it does not. -/
theorem step_timer (t : TraceInfo) (timerNow : ℕ) (refresh dropCopyRefresh : Bool) {s : KeyLease}
    (ha : Asking s.streams.orderEntry) {streams : Portfolio.State}
    (hclock : s.streams.clock < t.originCreateTime) (hnow : streams.clock = t.originCreateTime)
    (hself : streams.orderEntry =
      (onTimer shared t refresh ⟨s.streams.orderEntry,s.streams.request,[]⟩).self)
    (hkeys : keys streams = keys s.streams ++
      (keyCalls (onTimer shared t refresh ⟨s.streams.orderEntry,s.streams.request,[]⟩)).map
        fun _ => t.originCreateTime) :
    Asking streams.orderEntry ∧
      Lease.Step shared.settings.listenKeyRefresh
        (Lossless (.timer timerNow refresh dropCopyRefresh)) s.lease
        (follow ⟨t,.timer timerNow refresh dropCopyRefresh⟩ s streams).lease := by
  have hlt : s.streams.clock < streams.clock := by rw [hnow]; exact hclock
  have hsubset : keys s.streams ⊆ keys streams := by
    rw [hkeys]
    exact List.subset_append_left _ _
  cases refresh with
  | false =>
    exact step_rest (e := ⟨t,_⟩) hlt hself (rests_of_schedule rfl ha) (fun _ => hsubset) rfl rfl _
  | true =>
    let ctx : Ctx := ⟨s.streams.orderEntry,s.streams.request,[]⟩
    have hctx : Asking ctx.self := ha
    obtain ⟨hschedule,hcalls⟩ := onTimer_refreshes shared t ctx
    rw [← hself] at hschedule
    rw [hcalls] at hkeys
    rcases refreshListenKey_cases shared t hctx with ⟨hsame,hearly⟩ | ⟨hready,hlate,hasks⟩
    · rw [hsame] at hschedule hkeys
      have hnone : keys streams = keys s.streams := hkeys.trans (List.append_nil _)
      have hrests : Rests ctx ⟨streams.orderEntry,streams.request,[]⟩ :=
        rests_of_schedule hschedule hctx
      refine ⟨hrests.asking,.tick ⟨hlt,hrests.ready,rfl⟩ hrests.due hnow.symm ?_ hsubset ?_⟩
      · simp [lease, follow, ticks, hnone]
      · intro hr
        change streams.clock < _
        rw [hnow]
        exact hearly hr
    · rw [hasks] at hschedule hkeys
      simp only [schedule, Prod.mk.injEq] at hschedule
      obtain ⟨hmaster,hready',hdue,hdownload⟩ := hschedule
      have hdue' : streams.orderEntry.listenKeyRefresh =
          streams.clock+shared.settings.listenKeyRefresh := by rw [hnow]; exact hdue
      have hone : keys streams = keys s.streams ++ [streams.clock] := by rw [hnow]; exact hkeys
      have hlate' : s.streams.orderEntry.listenKeyRefresh ≤ streams.clock := by rw [hnow]; exact hlate
      refine ⟨⟨hmaster.trans ha.master,fun _ => by omega,by rw [hdownload]; exact ha.waiting⟩,
        .ask ⟨hlt,fun _ => hready,rfl⟩ hdue' hnow.symm ?_ hsubset hlate' ?_⟩
      · simp [lease, follow, ticks, hone]
      · change streams.clock ∈ keys streams
        rw [hone]
        exact List.mem_append_right _ (List.mem_singleton_self _)

/-- A callback brings a key, or it leaves the lease alone. -/
theorem step_reply (t : TraceInfo) {job : Job Call} {response : RestResponse} {retryNow : Bool}
    (ht : 0 < t.originCreateTime) {s : KeyLease} (ha : Asking s.streams.orderEntry)
    (hmem : job ∈ s.streams.inFlight) {streams : Portfolio.State}
    (hclock : s.streams.clock < t.originCreateTime) (hnow : streams.clock = t.originCreateTime)
    (hself : streams.orderEntry = (onResponse shared t job.call response retryNow
      ⟨s.streams.orderEntry,s.streams.request,[]⟩).self)
    (hkeys : keys {s.streams with inFlight := s.streams.inFlight.erase job} ⊆ keys streams) :
    Asking streams.orderEntry ∧
      Lease.Step shared.settings.listenKeyRefresh (Lossless (.reply job response retryNow)) s.lease
        (follow ⟨t,.reply job response retryNow⟩ s streams).lease := by
  have hlt : s.streams.clock < streams.clock := by rw [hnow]; exact hclock
  let ctx : Ctx := ⟨s.streams.orderEntry,s.streams.request,[]⟩
  have hctx : Asking ctx.self := ha
  by_cases hgrant : job.call = .listenKey ∧ (classify Body.listenKeyAck response).value.isSome
  · obtain ⟨hcall,hsome⟩ := hgrant
    obtain ⟨ack,hack⟩ := Option.isSome_iff_exists.mp hsome
    have hgranted : granted (.reply job response retryNow) = some job.sent :=
      if_pos ⟨hcall,hsome⟩
    rw [hcall,onResponse_granted t hack] at hself
    obtain ⟨hdue,hasking⟩ := granted_onListenKeyAck shared ht ack hctx
    rw [← hself] at hdue hasking
    refine ⟨hasking,.grant hlt ?_ ?_ rfl job.sent ?_ ?_⟩
    · change streams.orderEntry.listenKeyRefresh = streams.clock+_
      rw [hdue,hnow]
    · simp [lease, follow, hgranted, hnow]
    · exact List.mem_map.mpr ⟨job,List.mem_filter.mpr ⟨hmem,decide_eq_true hcall⟩,rfl⟩
    · simp [lease, follow, hgranted]
  · have hgranted : granted (.reply job response retryNow) = none := if_neg hgrant
    have hnone : job.call = .listenKey →
        (classify Body.listenKeyAck response).value = none := by
      intro hcall
      rw [← Option.not_isSome_iff_eq_none]
      exact fun hsome => hgrant ⟨hcall,hsome⟩
    have hrests : Rests ctx (onResponse shared t job.call response retryNow ctx) :=
      rests_onResponse t retryNow hctx hnone
    refine step_rest (e := ⟨t,_⟩) hlt hself hrests (fun hlossless => ?_) rfl hgranted _
    have hcall : job.call ≠ .listenKey := by
      intro hcall
      have hsome := hlossless hcall
      rw [hgranted] at hsome
      cases hsome
    exact List.Subset.trans (subset_keys_erase hcall) hkeys

theorem step_lease (shared : Shared) (streamId dropCopyStreamId : ℕ) (account : String)
    {s s' : KeyLease} {e : Timed Portfolio.Event} (ha : Asking s.streams.orderEntry)
    (h : (machine shared streamId dropCopyStreamId account).next s e = some s') :
    Asking s'.streams.orderEntry ∧
      Lease.Step shared.settings.listenKeyRefresh (Lossless e.event) s.lease s'.lease ∧
      s'.lease.clock = e.time.originCreateTime := by
  obtain ⟨streams,hnext,rfl⟩ := Option.map_eq_some_iff.mp h
  obtain ⟨hclock,henabled,-,hstreams⟩ := next_eq_some hnext
  have hnow : streams.clock = e.time.originCreateTime := by rw [hstreams]
  have hlt : s.streams.clock < streams.clock := by rw [hnow]; exact hclock
  have hself : streams.orderEntry =
      (Streams.step (Portfolio.wiring shared dropCopyStreamId) e.time e.event
        s.streams).1.orderEntry := by rw [hstreams]
  have hkeys : keys streams =
      keys (Streams.step (Portfolio.wiring shared dropCopyStreamId) e.time e.event
        s.streams).1 := by rw [hstreams]; rfl
  rw [← and_assoc]
  refine ⟨?_,hnow⟩
  obtain ⟨t,event⟩ := e
  let ctx : Ctx := ⟨s.streams.orderEntry,s.streams.request,[]⟩
  have hctx : Asking ctx.self := ha
  have hphase := subset_keys_orderEntryPhase shared dropCopyStreamId t
  cases event with
  | timer timerNow refresh dropCopyRefresh =>
    obtain ⟨hdropSelf,hdropKeys⟩ := orderEntry_dropCopyPhase
      (DropCopyPortfolio.onTimer shared t dropCopyRefresh)
      (orderEntryPhase (Portfolio.wiring shared dropCopyStreamId) t
        (onTimer shared t refresh) s.streams).1
    refine step_timer t timerNow refresh dropCopyRefresh ha hclock hnow (hself.trans hdropSelf) ?_
    exact (hkeys.trans hdropKeys).trans (keys_orderEntryPhase ..)
  | connected =>
    exact step_rest hlt hself (rests_onConnected hctx) (fun _ => hkeys ▸ hphase _ _) rfl rfl _
  | disconnected =>
    exact step_rest hlt hself (rests_onDisconnected hctx) (fun _ => hkeys ▸ hphase _ _) rfl rfl _
  | reply job response retryNow =>
    refine step_reply t (Nat.zero_lt_of_lt hclock) ha henabled hclock hnow hself ?_
    exact hkeys ▸ hphase _ _
  | client request =>
    have hrests := rests_of_schedule (distant_onRequest distant_schedule shared request ctx) hctx
    exact step_rest hlt hself hrests (fun _ => hkeys ▸ hphase _ _) rfl rfl _
  | socket event =>
    obtain ⟨hdropSelf,hdropKeys⟩ := orderEntry_dropCopyPhase
      (DropCopyPortfolio.onSocket shared t event) s.streams
    -- the order entry is not called, so that it is left as it was
    have hsame : streams.orderEntry = ctx.self := hself.trans hdropSelf
    have hrests : Rests ctx ctx := rests_of_schedule rfl hctx
    refine step_rest hlt hsame hrests (fun _ => ?_) rfl rfl _
    exact (hkeys.trans hdropKeys) ▸ List.Subset.refl _

variable {answer tick : ℕ}

/-- The lease is paced and, as far as everything has been timely, kept. -/
theorem preserves_paced (shared : Shared) (streamId dropCopyStreamId : ℕ) (account : String) :
    (machine shared streamId dropCopyStreamId account).Preserves fun s =>
      Asking s.streams.orderEntry ∧ Lease.Paced shared.settings.listenKeyRefresh s.lease := by
  intro s e s' hs hn
  obtain ⟨hasking,hstep,-⟩ := step_lease shared streamId dropCopyStreamId account hs.1 hn
  exact ⟨hasking,hstep.paced hs.2⟩

theorem kept_run {es : List (Timed Portfolio.Event)} {s s' : KeyLease}
    (hsteps : (machine shared streamId dropCopyStreamId account).Steps
      (fun s e _ => Timely answer tick s e) s es) (ha : Asking s.streams.orderEntry)
    (hs : s.lease.Kept shared.settings.listenKeyRefresh answer tick)
    (hr : (machine shared streamId dropCopyStreamId account).run s es = some s') :
    s'.lease.Kept shared.settings.listenKeyRefresh answer tick := by
  refine (Machine.Steps.preserves (I := fun s : KeyLease => Asking s.streams.orderEntry ∧
    s.lease.Kept shared.settings.listenKeyRefresh answer tick) ?_ hsteps ⟨ha,hs⟩ hr).2
  intro s e s' htimely hs hn
  obtain ⟨hasking,hstep,hclock⟩ := step_lease shared streamId dropCopyStreamId account hs.1 hn
  exact ⟨hasking,hstep.kept htimely.granted (hclock ▸ htimely.lease) hs.2⟩

/-- The key is granted in a second, and the timer comes twice after its refresh is due. -/
def refreshedTwice : List (Timed Portfolio.Event) :=
  Portfolio.refreshed ++ [⟨⟨3900*10^9,0⟩,.timer 6 true true⟩]

end KeyLease
end RoqBinance.Gateway
