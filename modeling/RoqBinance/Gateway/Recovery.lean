import RoqBinance.Library.Machine
import RoqBinance.Gateway.DropCopyMargin
import RoqBinance.Gateway.DropCopyPortfolio

/-! The recovery of the two user streams, each alone with a shared request that other streams
update as they like. A stream that waits for a download has published that it is downloading,
and its timer looks at the request only after it has published that it is ready. -/
namespace RoqBinance.Gateway
open Library

/-- A stream and the request, between two events. -/
structure Alone (Self : Type) where
  self : Self
  request : Request
  deriving DecidableEq, Repr

/-- An event of the stream itself, or an update of the request by another stream. -/
inductive AloneEvent (Event : Type)
  | own (t : TraceInfo) (event : Event)
  | others (request : Request)

namespace Alone
variable {Self Call Event : Type}

def context (s : Alone Self) : Context Self Call := ⟨s.self,s.request,[]⟩

/-- A fatal error ends the process. -/
def machine (handle : TraceInfo → Event → Context Self Call → Context Self Call) (self : Self) :
    Machine (Alone Self) (AloneEvent Event) where
  init := ⟨self,Request.empty⟩
  next s
    | .own t event =>
      let ctx := handle t event s.context
      if ctx.outputs.any Output.isFatal then none else some ⟨ctx.self,ctx.request⟩
    | .others request => some {s with request := request}

theorem preserves {handle : TraceInfo → Event → Context Self Call → Context Self Call} (self : Self)
    {I : Self → Prop} (h : ∀ t event ctx, I ctx.self → I (handle t event ctx).self) :
    (machine handle self).Preserves fun s => I s.self := by
  intro s e s' hs hn
  cases e with
  | own t event =>
    simp only [machine] at hn
    split at hn
    · cases hn
    · cases hn
      exact h t event s.context hs
  | others request =>
    cases hn
    exact hs

end Alone

namespace DropCopyMargin

/-- A stream that has published that it is ready waits for no download. -/
def Settled (self : DropCopyMargin) : Prop :=
  self.connectionStatus = .ready → self.download.downloading = false

theorem rule_settled (t : TraceInfo) : Download.Rule (downloadState t) (fun _ => True)
    (fun d ctx => ctx.self.connectionStatus = .ready → d.downloading = false) where
  owner _ _ _ := trivial
  done _ _ _ _ _ := rfl
  waiting x ctx n xs _ hn hready := by
    cases x with
    | done => cases hn
    | _ => cases hready
  left _ _ _ _ _ _ := rfl
  fewer _ _ _ _ h := h

theorem settled_sequencer {f : Download State → Ctx → Download State × Ctx} {ctx : Ctx}
    (h : (f ctx.self.download ctx).2.self.connectionStatus = .ready →
      (f ctx.self.download ctx).1.downloading = false) :
    Settled (sequencer f ctx).self := h

theorem settled_checkResponse (t : TraceInfo) (state : State) (k : Kind) {ctx : Ctx}
    (h : Settled ctx.self) : Settled (checkResponse t state k ctx).self := by
  unfold checkResponse
  split_ifs with h1 h2
  · exact h
  · exact settled_sequencer ((rule_settled t).check state trivial h).2
  · exact h

theorem settled_checkResponseListenKey {ctx : Ctx} (h : Settled ctx.self) :
    Settled (checkResponseListenKey ctx).self := by
  unfold checkResponseListenKey
  split_ifs with h1
  · exact h
  · exact h

theorem settled_onReply {α : Type} (t : TraceInfo) (state : State)
    (reply : Protocol.Json.WSAPIReply α) (retryNow : Bool) {ctx : Ctx} (h : Settled ctx.self) :
    Settled (onReply t state reply retryNow ctx).self := by
  unfold onReply
  split_ifs with h200
  · exact settled_sequencer ((rule_settled t).check state trivial h).2
  · exact settled_sequencer ((rule_settled t).retry states retryNow state trivial h).2

theorem settled_onMessage (shared : Shared) (t : TraceInfo) (message : Protocol.Json.WSAPIMessage)
    (order : MatchedOrder) (retryNow : Bool) {ctx : Ctx} (h : Settled ctx.self) :
    Settled (onMessage shared t message order retryNow ctx).self := by
  cases message with
  | sessionLogon reply => exact settled_onReply t _ reply retryNow h
  | userDataStreamSubscribe reply => exact settled_onReply t _ reply retryNow h
  | eventStreamTerminated =>
    simp only [onMessage, onEventStreamTerminated]
    split_ifs with ht
    · exact h
    · exact h
  | _ => exact h

theorem settled_handle (shared : Shared) (t : TraceInfo) (event : Event) (ctx : Ctx)
    (h : Settled ctx.self) : Settled (handle shared t event ctx).self := by
  cases event with
  | timer refresh =>
    simp only [handle, onTimer]
    split_ifs with hr
    · exact settled_checkResponse t _ _
        (settled_checkResponse t _ _ (settled_checkResponseListenKey h))
    · exact h
  | listenKeyUpdate update => exact h
  | socket event =>
    cases event with
    | ready => exact settled_sequencer ((rule_settled t).enter states trivial fun _ => rfl).2
    | disconnected => exact fun _ => rfl
    | message message order retryNow => exact settled_onMessage shared t message order retryNow h

/-- The timer of a stream that waits for a download does nothing. -/
theorem onTimer_downloading {ctx : Ctx} (h : Settled ctx.self)
    (hd : ctx.self.download.downloading = true) (t : TraceInfo) (refresh : Bool) :
    onTimer t refresh ctx = ctx := by
  have hready : ctx.self.isReady = false := by
    by_contra hr
    have := h (by simpa [isReady] using hr)
    rw [hd] at this
    cases this
  rw [onTimer, hready, Bool.and_false, if_neg Bool.false_ne_true]

/-- The recovery states with the download that each waits for. -/
def recovers : State → Option Kind
  | .account => some .accountCross
  | .orders => some .ordersCross
  | _ => none

end DropCopyMargin

namespace DropCopyPortfolio

def Settled (self : DropCopyPortfolio) : Prop :=
  self.connectionStatus = .ready → self.download.downloading = false

variable (shared : Shared)

theorem rule_settled (t : TraceInfo) : Download.Rule (downloadState shared t) (fun _ => True)
    (fun d ctx => ctx.self.connectionStatus = .ready → d.downloading = false) where
  owner _ _ _ := trivial
  done _ _ _ _ _ := rfl
  waiting x ctx n xs _ hn hready := by
    cases x with
    | account => cases hready
    | orders => cases hready
    | trades =>
      simp only [downloadState] at hn hready
      split_ifs at hn hready with hc
      cases hready
    | done => cases hn
  left _ _ _ _ _ _ := rfl
  fewer _ _ _ _ h := h

theorem settled_sequencer {f : Download State → Ctx → Download State × Ctx} {ctx : Ctx}
    (h : (f ctx.self.download ctx).2.self.connectionStatus = .ready →
      (f ctx.self.download ctx).1.downloading = false) :
    Settled (sequencer f ctx).self := h

theorem settled_checkResponse (t : TraceInfo) (state : State) (k : Kind) {ctx : Ctx}
    (h : Settled ctx.self) : Settled (checkResponse shared t state k ctx).self := by
  unfold checkResponse
  split_ifs with h1 h2
  · exact h
  · exact settled_sequencer ((rule_settled shared t).check state trivial h).2
  · exact h

theorem settled_handle (t : TraceInfo) (event : Event) (ctx : Ctx) (h : Settled ctx.self) :
    Settled (handle shared t event ctx).self := by
  cases event with
  | timer refresh =>
    simp only [handle, onTimer]
    split_ifs with hr
    · exact settled_checkResponse shared t _ _
        (settled_checkResponse shared t _ _ (settled_checkResponse shared t _ _ h))
    · exact h
  | socket event =>
    cases event with
    | ready =>
      exact settled_sequencer ((rule_settled shared t).enter states trivial fun _ => rfl).2
    | disconnected => exact fun _ => rfl
    | message message order => cases message <;> exact h

variable {shared}

theorem onTimer_downloading {ctx : Ctx} (h : Settled ctx.self)
    (hd : ctx.self.download.downloading = true) (t : TraceInfo) (refresh : Bool) :
    onTimer shared t refresh ctx = ctx := by
  have hready : ctx.self.isReady = false := by
    by_contra hr
    have := h (by simpa [isReady] using hr)
    rw [hd] at this
    cases this
  rw [onTimer, hready, Bool.and_false, if_neg Bool.false_ne_true]

def recovers : State → Option Kind
  | .account => some .account
  | .orders => some .orders
  | .trades => some .trades
  | .done => none

end DropCopyPortfolio

/-- The margin stream, alone, with any listen key it may have been created with. -/
abbrev DropCopyMargin.alone (shared : Shared) (streamId : ℕ) (account : String)
    (update : ListenKeyUpdate) : Machine (Alone DropCopyMargin) (AloneEvent DropCopyMargin.Event) :=
  Alone.machine (DropCopyMargin.handle shared) (DropCopyMargin.create streamId account update)

abbrev DropCopyPortfolio.alone (shared : Shared) (streamId : ℕ) (account listenKey : String) :
    Machine (Alone DropCopyPortfolio) (AloneEvent DropCopyPortfolio.Event) :=
  Alone.machine (DropCopyPortfolio.handle shared)
    (DropCopyPortfolio.create streamId account listenKey)

theorem DropCopyMargin.settled_reachable {shared : Shared} {streamId : ℕ} {account : String}
    {update : ListenKeyUpdate} {s : Alone DropCopyMargin}
    (h : (DropCopyMargin.alone shared streamId account update).Reachable s) : Settled s.self :=
  (Alone.preserves _ (settled_handle shared)).reachable (fun _ => rfl) h

theorem DropCopyPortfolio.settled_reachable {shared : Shared} {streamId : ℕ}
    {account listenKey : String} {s : Alone DropCopyPortfolio}
    (h : (DropCopyPortfolio.alone shared streamId account listenKey).Reachable s) :
    Settled s.self :=
  (Alone.preserves _ (settled_handle shared)).reachable (fun _ => rfl) h

/-- In every reachable state in which a recovery download has been responded to, the timer
leaves the stream in the state that waits for it. -/
theorem timer_keeps_recovery (shared : Shared) (streamId : ℕ) (account : String) :
    (∀ update s, (DropCopyMargin.alone shared streamId account update).Reachable s →
      ∀ X k, DropCopyMargin.recovers X = some k → s.self.download.awaited = some X →
        (s.request.stamps k).completed → ∀ t,
          (DropCopyMargin.onTimer t true s.context).self.download.awaited = some X) ∧
    (∀ listenKey s, (DropCopyPortfolio.alone shared streamId account listenKey).Reachable s →
      ∀ X k, DropCopyPortfolio.recovers X = some k → s.self.download.awaited = some X →
        (s.request.stamps k).completed → ∀ t,
          (DropCopyPortfolio.onTimer shared t true s.context).self.download.awaited = some X) := by
  constructor
  · intro update s hs X k _ hX _ t
    have hd := Download.downloading_of_awaited hX
    rw [DropCopyMargin.onTimer_downloading (DropCopyMargin.settled_reachable hs) hd]
    exact hX
  · intro listenKey s hs X k _ hX _ t
    have hd := Download.downloading_of_awaited hX
    rw [DropCopyPortfolio.onTimer_downloading (DropCopyPortfolio.settled_reachable hs) hd]
    exact hX

/-- A margin stream whose account download, asked for at time 3, has been responded to at time 4. -/
def stuckMargin : Alone DropCopyMargin where
  self :=
    { streamId := 5, account := "A1", listenToken := "token", requestId := 5000002, ready := false,
      connectionStatus := .downloading, download := .waiting .account 0 [.orders,.done],
      downloadListenToken := false }
  request := {Request.empty with accountCross := ⟨3,4⟩}

def stuckPortfolio : Alone DropCopyPortfolio where
  self :=
    { streamId := 5, account := "A1", query := "/key", ready := false,
      connectionStatus := .downloading, download := .waiting .account 0 [.orders,.trades,.done] }
  request := {Request.empty with account := ⟨3,4⟩}

def okReply : Protocol.Json.WSAPIReply Unit := ⟨200,(),⟨0,""⟩,[]⟩

theorem stuckMargin_reachable :
    (DropCopyMargin.alone Shared.sample 5 "A1" ⟨"A1",.cross,"token"⟩).Reachable stuckMargin :=
  ⟨[.own ⟨1,0⟩ (.socket .ready),
    .own ⟨2,0⟩ (.socket (.message (.sessionLogon okReply) ⟨0,0,0⟩ false)),
    .own ⟨3,0⟩ (.socket (.message (.userDataStreamSubscribe okReply) ⟨0,0,0⟩ false)),
    .others {Request.empty with accountCross := ⟨3,4⟩}],rfl⟩

theorem stuckPortfolio_reachable :
    (DropCopyPortfolio.alone Shared.sample 5 "A1" "key").Reachable stuckPortfolio :=
  ⟨[.own ⟨3,0⟩ (.socket .ready),.others {Request.empty with account := ⟨3,4⟩}],rfl⟩

theorem timer_keeps_recovery_account :
    (DropCopyMargin.onTimer ⟨5,0⟩ true stuckMargin.context).self.download.awaited = some .account ∧
    (DropCopyPortfolio.onTimer Shared.sample ⟨5,0⟩ true
      stuckPortfolio.context).self.download.awaited = some .account :=
  ⟨(timer_keeps_recovery Shared.sample 5 "A1").1 _ _ stuckMargin_reachable .account .accountCross
      rfl rfl (by decide) ⟨5,0⟩,
    (timer_keeps_recovery Shared.sample 5 "A1").2 _ _ stuckPortfolio_reachable .account .account
      rfl rfl (by decide) ⟨5,0⟩⟩

/-- The timer does not take either stream out of its account download. -/
theorem recovery_deadlock :
    (¬ ∀ s, (DropCopyMargin.alone Shared.sample 5 "A1" ⟨"A1",.cross,"token"⟩).Reachable s →
      ∀ X k, DropCopyMargin.recovers X = some k → s.self.download.awaited = some X →
        (s.request.stamps k).completed → ∀ t,
          (DropCopyMargin.onTimer t true s.context).self.download.awaited ≠ some X) ∧
    (¬ ∀ s, (DropCopyPortfolio.alone Shared.sample 5 "A1" "key").Reachable s →
      ∀ X k, DropCopyPortfolio.recovers X = some k → s.self.download.awaited = some X →
        (s.request.stamps k).completed → ∀ t,
          (DropCopyPortfolio.onTimer Shared.sample t true s.context).self.download.awaited ≠
            some X) := by
  constructor
  · intro h
    exact h _ stuckMargin_reachable .account .accountCross rfl rfl (by decide) ⟨5,0⟩ (by decide)
  · intro h
    exact h _ stuckPortfolio_reachable .account .account rfl rfl (by decide) ⟨5,0⟩ (by decide)

end RoqBinance.Gateway
