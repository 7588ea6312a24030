import RoqBinance.Gateway.Margin

/-! The renewal of the listen token. A margin user stream whose token was terminated asks for
a listen key and waits for the order entry to pass a new token on. -/
namespace RoqBinance.Gateway
open Library Streams Protocol.Json

namespace OrderEntryMargin

/-- While the sequencer waits it waits for the first listen key. -/
def Loading (self : OrderEntryMargin) : Prop :=
  self.download.downloading = true →
    (∃ rest, self.download = .waiting .listenKey 0 rest) ∧ self.hasListenKeyCross = false

theorem rule_loading : Download.Rule downloadState (fun _ => True) (fun d ctx =>
    d.downloading = true →
      (∃ rest, d = .waiting .listenKey 0 rest) ∧ ctx.self.hasListenKeyCross = false) where
  owner _ _ _ := trivial
  done _ _ _ _ h := by cases h
  waiting x ctx n xs _ hn _ := by
    cases x with
    | listenKey =>
      simp only [downloadState] at hn ⊢
      split_ifs at hn ⊢ with hkey
      obtain rfl : n = 0 := by omega
      exact ⟨⟨xs,rfl⟩,by simpa [getListenKey, onConnectionStatus] using hkey⟩
    | done => cases hn
  left _ _ _ _ _ h := by cases h
  fewer _ _ _ _ h _ := by
    obtain ⟨⟨rest,hrest⟩,-⟩ := h rfl
    cases hrest

/-- Once there has been a listen key the sequencer neither waits nor sends. -/
theorem rule_loaded (sent : List Call) : Download.Rule downloadState
    (fun ctx => ctx.self.hasListenKeyCross = true ∧ ctx.outputs.filterMap Output.sent = sent)
    (fun d _ => d.downloading = false) where
  owner x ctx h := by
    cases x with
    | listenKey =>
      simp only [downloadState, if_pos h.1]
      exact h
    | done =>
      refine ⟨h.1,?_⟩
      simp only [downloadState, onConnectionStatus, Context.modify_outputs, Context.dispatch_outputs,
        List.filterMap_append, h.2]
      exact List.append_nil sent
  done _ _ _ _ := rfl
  waiting x ctx n xs h hn := by
    cases x with
    | listenKey =>
      simp only [downloadState, if_pos h.1] at hn
      cases hn
    | done => cases hn
  left _ _ _ _ _ := rfl
  fewer _ _ _ _ h := h

/-- The first listen key ends the wait. -/
theorem check_loaded (d : Download State) (ctx : Ctx) {sent : List Call}
    (hd : d.downloading = true → ∃ rest, d = .waiting .listenKey 0 rest)
    (hkey : ctx.self.hasListenKeyCross = true) (hs : ctx.outputs.filterMap Output.sent = sent) :
    (Download.check downloadState .listenKey d ctx).1.downloading = false ∧
      (Download.check downloadState .listenKey d ctx).2.outputs.filterMap Output.sent = sent := by
  cases d with
  | idle => exact ⟨rfl,hs⟩
  | done x => exact ⟨rfl,hs⟩
  | waiting x n rest =>
    obtain ⟨rest',h⟩ := hd rfl
    cases h
    have h := (rule_loaded sent).enter rest (d := .done .listenKey) ⟨hkey,hs⟩ rfl
    exact ⟨h.2,h.1.2⟩

theorem loading_onConnected {ctx : Ctx} (h : Loading ctx.self) : Loading (onConnected ctx).self := by
  unfold onConnected
  split_ifs
  · exact (rule_loading.bump trivial h).2
  · exact (rule_loading.enter (d := .idle) states trivial fun h => by cases h).2

theorem loading_onDisconnected {ctx : Ctx} (h : Loading ctx.self) :
    Loading (onDisconnected ctx).self := by
  by_cases hc : ctx.self.download.downloading = true
  · have hd : (onDisconnected ctx).self.download = ctx.self.download := if_pos hc
    have hk : (onDisconnected ctx).self.hasListenKeyCross = ctx.self.hasListenKeyCross := rfl
    unfold Loading
    rw [hd,hk]
    exact h
  · have hd : (onDisconnected ctx).self.download = .idle := if_neg hc
    intro hd'
    rw [hd] at hd'
    cases hd'

theorem loading_of_view {ctx ctx' : Ctx} (h : view ctx' = view ctx) (hl : Loading ctx.self) :
    Loading ctx'.self := by
  have hd : ctx'.self.download = ctx.self.download := congrArg (·.2) h
  have hk : ctx'.self.hasListenKeyCross = ctx.self.hasListenKeyCross := congrArg (·.1.2.1) h
  unfold Loading
  rw [hd,hk]
  exact hl

variable {shared : Shared} {t : TraceInfo} {ctx : Ctx} {marginMode : MarginMode}
  {response : RestResponse} {retryNow : Bool}

theorem view_completion (k : Kind) (ctx : Ctx) : view (completion k t ctx) = view ctx :=
  view_setDownload k false _

/-- A successful response leaves no wait, sends nothing and passes its token on. -/
theorem listenKey_success (ack : ListenKeyAckMargin) (ctx : Ctx) (hl : Loading ctx.self)
    (ho : ctx.outputs = []) :
    let ctx' := sequencer (Download.check downloadState .listenKey)
      (onListenKeyAckMargin ack .cross ctx)
    Loading ctx'.self ∧ ctx'.self.hasListenKeyCross = true ∧
      ctx'.outputs.filterMap Output.sent = [] ∧
      listenKeyUpdates ctx'.outputs = [⟨ctx.self.account,.cross,ack.token⟩] := by
  have hsent : (onListenKeyAckMargin ack .cross ctx).outputs.filterMap Output.sent = [] := by
    rw [onListenKeyAckMargin,Context.modify_outputs,Context.emit_outputs,ho]
    rfl
  have hkeys : listenKeyUpdates (onListenKeyAckMargin ack .cross ctx).outputs =
      [⟨ctx.self.account,.cross,ack.token⟩] := by
    rw [onListenKeyAckMargin,Context.modify_outputs,Context.emit_outputs,ho]
    rfl
  have hcheck := check_loaded ctx.self.download (onListenKeyAckMargin ack .cross ctx)
    (fun hd => (hl hd).1) rfl hsent
  have hview := (keeps_sequencer ((kept_keeps _).check .listenKey
    (Keeps.refl (onListenKeyAckMargin ack .cross ctx)))).view
  refine ⟨?_,congrArg (·.2.1) hview,hcheck.2,(congrArg (·.2.2) hview).trans hkeys⟩
  intro hd
  have hdone : true = false := hd.symm.trans hcheck.1
  cases hdone

/-- After a failure the stream asks again only while there has been no listen key. -/
theorem listenKey_failure (retryNow : Bool) (ctx : Ctx) (hl : Loading ctx.self) :
    let ctx' := sequencer (Download.retry downloadState states retryNow .listenKey) ctx
    Loading ctx'.self ∧ (ctx.self.hasListenKeyCross = true →
      ctx'.outputs.filterMap Output.sent = ctx.outputs.filterMap Output.sent) := by
  refine ⟨(rule_loading.retry states retryNow .listenKey trivial hl).2,?_⟩
  intro hkey
  have hd : ctx.self.download.downloading = false := by
    by_contra hd
    have hno := (hl (by simpa using hd)).2
    rw [hkey] at hno
    cases hno
  have hidle : Download.retry downloadState states retryNow .listenKey ctx.self.download ctx =
      (ctx.self.download,ctx) := by
    rw [Download.retry,hd,Bool.and_false,if_neg Bool.false_ne_true]
  simp only [sequencer, hidle, Context.modify_outputs]

end OrderEntryMargin

namespace DropCopyMargin
variable {t : TraceInfo}

/-- The token stays, or it has been cleared and a listen key asked for. -/
def TokenKept (t : TraceInfo) (ctx ctx' : Ctx) : Prop :=
  ctx'.self.listenToken = ctx.self.listenToken ∨
    (ctx'.request.stamps .listenKeyCross).request = t.originCreateTime

theorem kept_token (t : TraceInfo) (token : String) :
    Download.Kept (downloadState t) (fun ctx => ctx.self.listenToken = token) :=
  fun state ctx h => by cases state <;> exact h

theorem token_checkResponse (state : State) (k : Kind) (ctx : Ctx) :
    (checkResponse t state k ctx).self.listenToken = ctx.self.listenToken := by
  unfold checkResponse
  split_ifs
  · rfl
  · exact (kept_token t _).check state rfl
  · rfl

theorem token_onTimer (refresh : Bool) (ctx : Ctx) :
    (onTimer t refresh ctx).self.listenToken = ctx.self.listenToken := by
  unfold onTimer
  split_ifs
  · rw [checkResponseOrders,token_checkResponse,checkResponseAccount,token_checkResponse]
    unfold checkResponseListenKey
    split_ifs <;> rfl
  · rfl

theorem token_onReply {α : Type} (state : State) (reply : WSAPIReply α) (retryNow : Bool)
    (ctx : Ctx) : (onReply t state reply retryNow ctx).self.listenToken = ctx.self.listenToken := by
  unfold onReply
  split_ifs
  · exact (kept_token t _).check state rfl
  · exact (kept_token t _).retry states retryNow state rfl

theorem tokenKept_onSocket (shared : Shared) (event : SocketEvent) (ctx : Ctx) :
    TokenKept t ctx (onSocket shared t event ctx) := by
  cases event with
  | ready => exact .inl ((kept_token t _).begin states rfl)
  | disconnected => exact .inl rfl
  | message message order retryNow =>
    cases message with
    | sessionLogon reply => exact .inl (token_onReply .sessionLogon reply retryNow ctx)
    | userDataStreamSubscribe reply =>
      exact .inl (token_onReply .userDataStreamSubscribe reply retryNow ctx)
    | eventStreamTerminated =>
      simp only [onSocket, onMessage, onEventStreamTerminated]
      split_ifs with ht
      · exact .inl rfl
      · exact .inr (by simp [Request.stamps_post])
    | _ => exact .inl rfl

end DropCopyMargin

namespace Margin

def isListenKey : OrderEntryMargin.Call → Bool
  | .listenKey _ => true
  | _ => false

/-- A listen-key REST request is in flight. -/
def ListenKeyInFlight (jobs : List (Job OrderEntryMargin.Call)) : Prop :=
  ∃ job ∈ jobs, isListenKey job.call = true

/-- The token of the user stream, once it exists. -/
def listenToken (s : State) : Option String := s.dropCopy.map (·.listenToken)

/-- A user stream without a token has a renewal pending, or in flight. -/
def RenewalKept (s : State) : Prop :=
  listenToken s = some "" →
    (s.request.stamps .listenKeyCross).pending ∨ ListenKeyInFlight s.inFlight

/-- A listen-key response leaves a token behind, or another listen-key request in flight: one
that brings none finds that the user stream has one, or that there is no user stream. -/
def Renews (s : State) (event : Event) : Prop :=
  ∀ job response retryNow, event = .reply job response retryNow → isListenKey job.call = true →
    ListenKeyInFlight (s.inFlight.erase job) ∨
      match (classify Body.listenKeyAckMargin response).value with
      | some ack => ack.token ≠ ""
      | none => listenToken s ≠ some ""

/-- There is a user stream only after a listen key. -/
structure Created (s : State) : Prop where
  loading : s.orderEntry.Loading
  hasListenKeyCross : s.dropCopy.isSome → s.orderEntry.hasListenKeyCross = true

variable {shared : Shared} {streamId dropCopyStreamId : ℕ} {account : String}

theorem kind_listenKey {call : OrderEntryMargin.Call} :
    call.kind = some .listenKeyCross ↔ isListenKey call = true := by
  cases call with
  | account marginMode => cases marginMode <;> simp [OrderEntryMargin.Call.kind, isListenKey]
  | openOrders marginMode => cases marginMode <;> simp [OrderEntryMargin.Call.kind, isListenKey]
  | trades marginMode => cases marginMode <;> simp [OrderEntryMargin.Call.kind, isListenKey]
  | _ => simp [OrderEntryMargin.Call.kind, isListenKey]

/-- What an event other than a listen-key response does to a renewal. -/
structure Quiet (time : ℕ) (s s' : State) : Prop where
  token : listenToken s' = listenToken s ∨ (s'.request.stamps .listenKeyCross).request = time
  dropCopy : s'.dropCopy.isSome = s.dropCopy.isSome
  hasListenKeyCross : s'.orderEntry.hasListenKeyCross = s.orderEntry.hasListenKeyCross
  loading : s.orderEntry.Loading → s'.orderEntry.Loading
  inFlight : ListenKeyInFlight s.inFlight → ListenKeyInFlight s'.inFlight

theorem quiet_orderEntryPhase (shared : Shared) (dropCopyStreamId : ℕ) (t : TraceInfo)
    (f : OrderEntryMargin.Ctx → OrderEntryMargin.Ctx) (s : State)
    (hf : OrderEntryMargin.keyView (f ⟨s.orderEntry,s.request,[]⟩) =
      OrderEntryMargin.keyView ⟨s.orderEntry,s.request,[]⟩)
    (hl : s.orderEntry.Loading → (f ⟨s.orderEntry,s.request,[]⟩).self.Loading) :
    Quiet t.originCreateTime s
      (orderEntryPhase (wiring shared dropCopyStreamId) t f s).1 ∧
      (orderEntryPhase (wiring shared dropCopyStreamId) t f s).1.dropCopy = s.dropCopy := by
  have hkeys : listenKeyUpdates (f ⟨s.orderEntry,s.request,[]⟩).outputs = [] :=
    congrArg (·.2.2) hf
  have hdrop : (orderEntryPhase (wiring shared dropCopyStreamId) t f s).1.dropCopy = s.dropCopy := by
    simp only [orderEntryPhase, hkeys, List.foldl_nil]
  refine ⟨⟨.inl (by rw [listenToken,hdrop,listenToken]),by rw [hdrop],congrArg (·.2.1) hf,hl,?_⟩,
    hdrop⟩
  rintro ⟨job,hjob,hkey⟩
  exact ⟨job,List.mem_append_left _ hjob,hkey⟩

theorem quiet_dropCopyPhase {time : ℕ} {f : DropCopyMargin.Ctx → DropCopyMargin.Ctx} {s : State}
    (hf : ∀ ctx, (f ctx).self.listenToken = ctx.self.listenToken ∨
      ((f ctx).request.stamps .listenKeyCross).request = time) :
    Quiet time s (dropCopyPhase f s).1 := by
  unfold dropCopyPhase
  cases hd : s.dropCopy with
  | none => exact ⟨.inl rfl,rfl,rfl,id,id⟩
  | some dropCopy =>
    refine ⟨?_,by simp [hd],rfl,id,id⟩
    rcases hf ⟨dropCopy,s.request,[]⟩ with h | h
    · exact .inl (by simp [listenToken, hd, h])
    · exact .inr h

theorem Quiet.after {time : ℕ} {s s₁ s₂ : State} (h₁ : Quiet time s s₁)
    (hd : s₁.dropCopy = s.dropCopy) (h₂ : Quiet time s₁ s₂) : Quiet time s s₂ where
  token := by
    have ht : listenToken s₁ = listenToken s := by rw [listenToken,hd,listenToken]
    exact ht ▸ h₂.token
  dropCopy := h₂.dropCopy.trans h₁.dropCopy
  hasListenKeyCross := h₂.hasListenKeyCross.trans h₁.hasListenKeyCross
  loading h := h₂.loading (h₁.loading h)
  inFlight h := h₂.inFlight (h₁.inFlight h)

theorem quiet_step (shared : Shared) (dropCopyStreamId : ℕ) (t : TraceInfo) {event : Event}
    (s : State) (hevent : ∀ job response retryNow, event = .reply job response retryNow →
      isListenKey job.call = false) :
    Quiet t.originCreateTime s (step (wiring shared dropCopyStreamId) t event s).1 := by
  cases event with
  | timer timerNow r1 r2 =>
    have hkeep := OrderEntryMargin.keeps_onTimer shared timerNow r1 ⟨s.orderEntry,s.request,[]⟩
    have h₁ := quiet_orderEntryPhase shared dropCopyStreamId t
      (OrderEntryMargin.onTimer shared timerNow r1) s (congrArg Prod.fst hkeep.view)
      (OrderEntryMargin.loading_of_view hkeep.view)
    exact h₁.1.after h₁.2 (quiet_dropCopyPhase fun ctx => .inl (DropCopyMargin.token_onTimer r2 ctx))
  | connected =>
    exact (quiet_orderEntryPhase shared dropCopyStreamId t OrderEntryMargin.onConnected s
      (OrderEntryMargin.keeps_onConnected _).view fun h => OrderEntryMargin.loading_onConnected h).1
  | disconnected =>
    exact (quiet_orderEntryPhase shared dropCopyStreamId t OrderEntryMargin.onDisconnected s
      (OrderEntryMargin.keeps_onDisconnected _).view
      fun h => OrderEntryMargin.loading_onDisconnected h).1
  | client request =>
    have hkeep := OrderEntryMargin.keeps_onRequest shared request ⟨s.orderEntry,s.request,[]⟩
    exact (quiet_orderEntryPhase shared dropCopyStreamId t
      (fun ctx => (OrderEntryMargin.onRequest shared request ctx).1) s
      (congrArg Prod.fst hkeep.view) (OrderEntryMargin.loading_of_view hkeep.view)).1
  | socket event =>
    exact quiet_dropCopyPhase fun ctx => DropCopyMargin.tokenKept_onSocket shared event ctx
  | reply job response retryNow =>
    have hjob := hevent job response retryNow rfl
    have hcall : ∀ marginMode, job.call ≠ .listenKey marginMode := by
      rintro marginMode h
      rw [h] at hjob
      cases hjob
    have hview := (OrderEntryMargin.answers_onResponse_view (t := t) shared hcall response retryNow
      ⟨s.orderEntry,s.request,[]⟩).view
    have herase : Quiet t.originCreateTime s {s with inFlight := s.inFlight.erase job} := by
      refine ⟨.inl rfl,rfl,rfl,id,?_⟩
      rintro ⟨other,hother,hkey⟩
      have hne : other ≠ job := by rintro rfl; rw [hjob] at hkey; cases hkey
      exact ⟨other,(List.mem_erase_of_ne hne).mpr hother,hkey⟩
    exact herase.after rfl (quiet_orderEntryPhase shared dropCopyStreamId t
      (OrderEntryMargin.onResponse shared t job.call response retryNow)
      {s with inFlight := s.inFlight.erase job} (congrArg Prod.fst hview)
      (OrderEntryMargin.loading_of_view hview)).1

/-- What a listen-key response does to a renewal. -/
theorem listenKey_step {t : TraceInfo} {job : Job OrderEntryMargin.Call} {response : RestResponse}
    {retryNow : Bool} {s : State} (hjob : isListenKey job.call = true) (hl : s.orderEntry.Loading)
    (hfatal : (step (wiring shared dropCopyStreamId) t (.reply job response retryNow) s).2.fatal =
      false) :
    let s' := (step (wiring shared dropCopyStreamId) t (.reply job response retryNow) s).1
    s'.orderEntry.Loading ∧
      match (classify Body.listenKeyAckMargin response).value with
      | some ack => s'.orderEntry.hasListenKeyCross = true ∧ s'.inFlight = s.inFlight.erase job ∧
          listenToken s' = some ack.token
      | none => s'.orderEntry.hasListenKeyCross = s.orderEntry.hasListenKeyCross ∧
          s'.dropCopy = s.dropCopy ∧
          (s.orderEntry.hasListenKeyCross = true → s'.inFlight = s.inFlight.erase job) := by
  obtain ⟨call,sent⟩ := job
  cases call with
  | listenKey marginMode =>
    simp only [step, orderEntryPhase, wiring, OrderEntryMargin.onResponse, Effects.of] at hfatal ⊢
    rcases OrderEntryMargin.getListenKeyAck_cases (t := t) shared marginMode response retryNow
      ⟨s.orderEntry,s.request,[]⟩ with ⟨h,-⟩ | ⟨ack,hack,rfl,h⟩ | ⟨hnone,ctx₁,hview,hself,hsent,h⟩
    · rw [h] at hfatal; cases hfatal
    · simp only [h, hack]
      obtain ⟨hload,hkey,hsent,hupdates⟩ := OrderEntryMargin.listenKey_success ack
        ⟨s.orderEntry,s.request,[]⟩ hl rfl
      rw [OrderEntryMargin.completion,Context.modify_outputs,Context.reply_outputs,hsent,hupdates]
      refine ⟨OrderEntryMargin.loading_of_view (OrderEntryMargin.view_completion _ _) hload,hkey,
        List.append_nil _,?_⟩
      cases hd : s.dropCopy <;> rfl
    · simp only [h, hnone]
      have hl₁ : ctx₁.self.Loading := by rw [hself]; exact hl
      obtain ⟨hload,hsent₁⟩ := OrderEntryMargin.listenKey_failure retryNow ctx₁ hl₁
      have hkeys := (OrderEntryMargin.keeps_sequencer ((OrderEntryMargin.kept_keeps _).retry
        OrderEntryMargin.states retryNow .listenKey (hview.comp Prod.fst))).view
      have hupdates : listenKeyUpdates (OrderEntryMargin.sequencer
          (Download.retry OrderEntryMargin.downloadState OrderEntryMargin.states retryNow .listenKey)
          ctx₁).outputs = [] := congrArg (·.2.2) hkeys
      rw [OrderEntryMargin.completion,Context.modify_outputs,Context.reply_outputs,hupdates]
      refine ⟨OrderEntryMargin.loading_of_view (OrderEntryMargin.view_completion _ _) hload,
        congrArg (·.2.1) hkeys,rfl,?_⟩
      intro hkey
      rw [hsent₁ (by rw [hself]; exact hkey),hsent]
      exact List.append_nil _
  | _ => cases hjob

theorem preserves_created (shared : Shared) (streamId dropCopyStreamId : ℕ) (account : String) :
    (machine shared streamId dropCopyStreamId account).Preserves Created := by
  intro s e s' hs h
  obtain ⟨-,-,hfatal,rfl⟩ := next_eq_some h
  by_cases hevent : ∃ job response retryNow, e.event = .reply job response retryNow ∧
      isListenKey job.call = true
  · obtain ⟨job,response,retryNow,he,hjob⟩ := hevent
    rw [he] at hfatal ⊢
    obtain ⟨hload,hcases⟩ := listenKey_step hjob hs.loading hfatal
    refine ⟨hload,?_⟩
    cases hc : (classify Body.listenKeyAckMargin response).value with
    | some ack =>
      rw [hc] at hcases
      exact fun _ => hcases.1
    | none =>
      rw [hc] at hcases
      obtain ⟨hkey,hdrop,-⟩ := hcases
      intro hd
      exact hkey.trans (hs.hasListenKeyCross (hdrop ▸ hd))
  · have hq : Quiet e.time.originCreateTime s
        (step (wiring shared dropCopyStreamId) e.time e.event s).1 := by
      refine quiet_step shared dropCopyStreamId e.time s fun job response retryNow he => ?_
      by_contra hjob
      exact hevent ⟨job,response,retryNow,he,by simpa using hjob⟩
    refine ⟨hq.loading hs.loading,?_⟩
    intro hd
    exact hq.hasListenKeyCross.trans (hs.hasListenKeyCross (hq.dropCopy ▸ hd))

/-- An event other than a listen-key response leaves a pending renewal pending, and a listen
key that is asked for is pending. -/
theorem pending_next {s s' : State} {e : Timed Event} {d : Downloads OrderEntryMargin.Call}
    (hw : (wiring shared dropCopyStreamId).Lawful d) (hkind : d.kind = OrderEntryMargin.Call.kind)
    (hs : Orderly d s) (h : (machine shared streamId dropCopyStreamId account).next s e = some s')
    (hevent : ∀ job response retryNow, e.event = .reply job response retryNow →
      isListenKey job.call = false)
    (hp : (s.request.stamps .listenKeyCross).pending ∨
      (s'.request.stamps .listenKeyCross).request = e.time.originCreateTime) :
    (s'.request.stamps .listenKeyCross).pending := by
  obtain ⟨op,hop,hcases⟩ := ledger_next hw h .listenKeyCross
  obtain ⟨hclock,-⟩ := next_eq_some h
  have hrespond := (hs.timely .listenKeyCross).respond
  have hnone : d.replies .listenKeyCross e.event = none := by
    by_contra hr
    obtain ⟨o,ho⟩ := Option.ne_none_iff_exists'.mp hr
    obtain ⟨job,response,retryNow,he,hk,-⟩ := replies_eq_some.mp ho
    rw [hkind,kind_listenKey,hevent job response retryNow he] at hk
    cases hk
  rw [hnone] at hcases
  have hstamps : s'.request.stamps .listenKeyCross = ((ledger d .listenKeyCross s).apply
      e.time.originCreateTime op).stamps := congrArg Ledger.stamps hop
  rw [hstamps] at hp ⊢
  simp only [ledger] at hrespond hp ⊢
  rcases hcases with rfl | rfl
  · simp only [Ledger.apply, Stamps.pending] at hp ⊢
    omega
  · simp only [Ledger.apply, Stamps.pending]
    omega

theorem renewalKept_next_iff {s s' : State} {e : Timed Event}
    {d : Downloads OrderEntryMargin.Call} (hw : (wiring shared dropCopyStreamId).Lawful d)
    (hkind : d.kind = OrderEntryMargin.Call.kind) (hs : Orderly d s) (hc : Created s)
    (hQ : RenewalKept s) (h : (machine shared streamId dropCopyStreamId account).next s e = some s') :
    RenewalKept s' ↔ Renews s e.event := by
  obtain ⟨hclock,-,hfatal,hs'⟩ := next_eq_some h
  by_cases hevent : ∃ job response retryNow, e.event = .reply job response retryNow ∧
      isListenKey job.call = true
  · obtain ⟨job,response,retryNow,he,hjob⟩ := hevent
    have hrenews : Renews s e.event ↔ ListenKeyInFlight (s.inFlight.erase job) ∨
        match (classify Body.listenKeyAckMargin response).value with
        | some ack => ack.token ≠ ""
        | none => listenToken s ≠ some "" := by
      constructor
      · intro hr; exact hr job response retryNow he hjob
      · intro hr job' response' retryNow' he' _
        rw [he] at he'
        cases he'
        exact hr
    have hpending : ¬ (s'.request.stamps .listenKeyCross).pending := by
      have hr := request_step hw hfatal
      rw [he] at hr
      simp only [Event.reply?, Option.bind_some, hkind, kind_listenKey.mpr hjob] at hr
      have hq := (hs.timely .listenKeyCross).request
      rw [hs',he]
      simp only [hr, Request.stamps_reply, ledger] at hq ⊢
      simp only [Stamps.pending, if_true]
      omega
    have hkept : RenewalKept s' ↔ (listenToken s' = some "" → ListenKeyInFlight s'.inFlight) := by
      simp only [RenewalKept, hpending, false_or]
    rw [he] at hfatal hs'
    obtain ⟨-,hcases⟩ := listenKey_step hjob hc.loading hfatal
    rw [hkept,hrenews]
    cases hv : (classify Body.listenKeyAckMargin response).value with
    | some ack =>
      rw [hv] at hcases
      obtain ⟨-,hfly,htoken⟩ := hcases
      have ht : listenToken s' = some ack.token := by rw [hs']; exact htoken
      have hf : s'.inFlight = s.inFlight.erase job := by rw [hs']; exact hfly
      rw [ht,hf]
      simp only [Option.some.injEq]
      tauto
    | none =>
      rw [hv] at hcases
      obtain ⟨-,hdrop,hfly⟩ := hcases
      have ht : listenToken s' = listenToken s := by
        rw [hs']
        exact congrArg (Option.map (·.listenToken)) hdrop
      rw [ht]
      by_cases htoken : listenToken s = some ""
      · have hsome : s.dropCopy.isSome = true := by
          by_contra hd
          rw [listenToken,Option.not_isSome_iff_eq_none.mp hd] at htoken
          cases htoken
        have hf : s'.inFlight = s.inFlight.erase job := by
          rw [hs']
          exact hfly (hc.hasListenKeyCross hsome)
        rw [hf]
        simp [htoken]
      · simp [htoken]
  · have hquiet : ∀ job response retryNow, e.event = .reply job response retryNow →
        isListenKey job.call = false := by
      intro job response retryNow he
      by_contra hjob
      exact hevent ⟨job,response,retryNow,he,by simpa using hjob⟩
    have hrenews : Renews s e.event := by
      intro job response retryNow he hjob
      exact absurd ⟨job,response,retryNow,he,hjob⟩ hevent
    have hq := quiet_step shared dropCopyStreamId e.time s hquiet
    refine iff_of_true ?_ hrenews
    intro htoken
    have hpending := pending_next hw hkind hs h hquiet
    rw [hs'] at htoken hpending ⊢
    rcases hq.token with ht | ht
    · rcases hQ (ht ▸ htoken) with hp | hf
      · exact .inl (hpending (.inl hp))
      · exact .inr (hq.inFlight hf)
    · exact .inl (hpending (.inr ht))

/-- In every run each state has its renewal kept, exactly if each listen-key response leaves
a token or another request behind. -/
theorem renewal_kept_iff (shared : Shared) (streamId dropCopyStreamId : ℕ) (account : String)
    (es : List (Timed Event)) :
    (machine shared streamId dropCopyStreamId account).Steps (fun _ _ s' => RenewalKept s')
        (init streamId account) es ↔
      (machine shared streamId dropCopyStreamId account).Steps (fun s e _ => Renews s e.event)
        (init streamId account) es := by
  have hw := lawful shared streamId dropCopyStreamId account
  have hp : (machine shared streamId dropCopyStreamId account).Preserves fun s =>
      Orderly (downloads shared streamId account) s ∧ Created s := by
    intro s e s' hs h
    exact ⟨preserves_orderly hw _ s e s' hs.1 h,preserves_created _ _ _ _ s e s' hs.2 h⟩
  refine Machine.steps_iff_steps hp ?_ ⟨orderly_create _,?_⟩ ?_
  · intro e _ s s' hs hQ h
    exact renewalKept_next_iff hw rfl hs.1 hs.2 hQ h
  · constructor
    · intro hd; cases hd
    · intro hd; cases hd
  · intro htoken
    cases htoken

/-- The token is terminated, and the request for a new one fails. -/
def terminated : List (Timed Event) :=
  [⟨⟨1,0⟩,.connected⟩,
   ⟨⟨2,0⟩,.reply ⟨.listenKey .cross,1⟩ (.result 200 .success 0
     {Body.unreadable with listenKeyAckMargin := .ok ⟨"token"⟩}) false⟩,
   ⟨⟨3,0⟩,.socket (.message .eventStreamTerminated ⟨0,0,0⟩ false)⟩,
   ⟨⟨4,0⟩,.timer 4 true true⟩,
   ⟨⟨5,0⟩,.reply ⟨.listenKey .cross,4⟩ (.networkError .undefined .undefined "disconnected") false⟩]

/-- A test for a lost renewal. -/
def lostTest (s : State) : Bool :=
  decide (listenToken s = some "") && !decide (s.request.stamps .listenKeyCross).pending &&
    !s.inFlight.any fun job => isListenKey job.call

theorem not_renewalKept_of_lostTest {s : State} (h : lostTest s = true) : ¬ RenewalKept s := by
  simp only [lostTest, Bool.and_eq_true, decide_eq_true_eq, Bool.not_eq_true',
    decide_eq_false_iff_not, List.any_eq_false] at h
  intro hk
  rcases hk h.1.1 with hp | ⟨job,hjob,hkey⟩
  · exact h.1.2 hp
  · exact h.2 job hjob hkey

/-- A single failure loses the renewal: nothing is pending and nothing is in flight. -/
theorem failed_renewal_lost :
    ¬ ∀ s, (machine Shared.sample 1 2 "A1").Reachable s → RenewalKept s := by
  intro h
  obtain ⟨s,hs,hlost⟩ := (machine Shared.sample 1 2 "A1").exists_reachable
    (show ((machine Shared.sample 1 2 "A1").run (init 1 "A1") terminated).any lostTest = true by
      decide)
  exact not_renewalKept_of_lostTest hlost (h s hs)

end Margin
end RoqBinance.Gateway
