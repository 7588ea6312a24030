import RoqBinance.Gateway.SpotRecovery
import RoqBinance.Library.Conservation
import RoqBinance.Library.Progress

/-! The recovery of the spot stream goes on: how many replies it still needs, and when it is
left without a request that could be replied to. -/
namespace RoqBinance.Gateway
open Library Protocol.Json

namespace WebSocket
namespace Connection

/-- All states but the last one may ask for a reply. -/
def asks (state : State) : Bool := state ≠ .done

def remaining (s : Connection) : ℕ := s.stream.download.remaining asks

/-- While it recovers, the outstanding requests are those of the state that it waits for. -/
def Live (s : Connection) : Prop :=
  match s.stream.download with
  | .idle => s.stream.isReady = false ∧ s.pending = []
  | .waiting state more rest => more = 0 ∧ (state::rest) <:+ states ∧ s.stream.isReady = false ∧
    (∀ frame ∈ s.pending, frame.request.type = requestType state) ∧
    (state ≠ .myTrades → s.pending.length ≤ 1)
  | .done _ => s.stream.isReady = true

/-- A request that the stream waits for is outstanding. -/
def Alive (s : Connection) : Prop := s.stream.download.downloading = true → s.pending ≠ []

theorem Live.not_ready {s : Connection} (h : Live s)
    (hd : s.stream.download.downloading = true) : s.stream.isReady = false := by
  unfold Live at h
  split at h
  · exact h.1
  · exact h.2.2.1
  · next he => rw [he] at hd; cases hd

theorem Live.begun {s : Connection} (h : Live s) (hd : s.stream.download ≠ .idle) :
    s.stream.isReady = true ∨ s.stream.download.downloading = true := by
  unfold Live at h
  split at h
  · next he => exact absurd he hd
  · next he => exact .inr (by rw [he]; rfl)
  · exact .inl h

section
variable (shared : Shared) (t : TraceInfo)

/-- A state that waits has sent a request. -/
theorem sends_of_waits {state : State} {ctx ctx' : Ctx} {n : ℕ}
    (h : downloadState shared t state ctx = (ctx',n+1)) : sent ctx'.outputs ≠ [] := by
  have hstatus : ∀ reason, sent (onConnectionStatus .downloading reason ctx).outputs =
      sent ctx.outputs := fun reason => by
    rw [(sends_onConnectionStatus .downloading reason ctx).sent,List.append_nil]
  have hrequest : ∀ (type : WSAPIType) (method : String) (params : Params)
      (status : ConnectionStatus) (reason : String) (ctx : Ctx),
      sent (onConnectionStatus status reason (sendText type 0 0 0 method params ctx)).outputs ≠ [] := by
    intro type method params status reason ctx
    rw [(sends_request type method params status reason ctx).sent]
    simp
  cases state with
  | sessionLogon => cases h; exact hrequest _ _ _ _ _ _
  | userDataStreamSubscribe => cases h; exact hrequest _ _ _ _ _ _
  | accountStatus => cases h; exact hrequest _ _ _ _ _ _
  | openOrdersStatus => cases h; exact hrequest _ _ _ _ _ _
  | done => cases h
  | myTrades =>
    simp only [downloadState, myTrades] at h
    split_ifs at h with hask
    · obtain ⟨rfl,-⟩ := Prod.mk.inj h
      obtain ⟨-,hne⟩ := Bool.and_eq_true_iff.mp hask
      obtain ⟨symbol,symbols,hsymbols⟩ := List.exists_cons_of_ne_nil (of_decide_eq_true hne)
      rw [hsymbols,List.foldl_cons]
      obtain ⟨frames,hs,-,-⟩ := sends_trades (milliseconds t.originCreateTimeUtc)
        (tradesLimit shared) _ symbols
        (show (onConnectionStatus .downloading "myTrades" (sendText .MY_TRADES 0 0 0 "myTrades" _
          (onConnectionStatus .downloading "MY_TRADES" ctx))).self.isReady = false from rfl)
      rw [hs.sent]
      exact fun hnil => hrequest _ _ _ _ _ _ (List.append_eq_nil_iff.mp hnil).1
    · cases h

theorem done_downloadState (ctx : Ctx) :
    (downloadState shared t .done ctx).1.self.isReady = true ∧
      (downloadState shared t .done ctx).2 = 0 := ⟨rfl,rfl⟩

theorem asksOnce : Download.AsksOnce (downloadState shared t) asks := by
  intro state ctx
  by_cases hstate : state = .done
  · subst hstate
    exact Nat.le_refl 0
  · have hasks : asks state = true := decide_eq_true hstate
    rw [if_pos hasks]
    obtain ⟨_,-,-,-,⟨hn,-⟩ | ⟨⟨-,hn,-⟩,-⟩⟩ := downloadState_spec shared t hstate ctx
    · exact hn.le
    · omega

/-- The requests that are still outstanding when states are entered. -/
def LeftOver (xs : List State) (pending : List Frame) : Prop :=
  pending = [] ∨ xs = [.done] ∨
    xs = [.myTrades,.done] ∧ ∀ frame ∈ pending, frame.request.type = .MY_TRADES

theorem leftOver_suffix {xs : List State} {pending : List Frame} (h : LeftOver xs pending)
    {state : State} (hstate : state ≠ .done) {rest : List State} (hsuffix : (state::rest) <:+ xs) :
    (∀ frame ∈ pending, frame.request.type = requestType state) ∧
      (state ≠ .myTrades → pending = []) := by
  have hmem : state ∈ xs := hsuffix.subset List.mem_cons_self
  rcases h with rfl | rfl | ⟨rfl,htrades⟩
  · exact ⟨by simp,fun _ => rfl⟩
  · exact absurd (List.mem_singleton.mp hmem) hstate
  · obtain rfl : state = .myTrades := by
      rcases List.mem_cons.mp hmem with h | h
      · exact h
      · exact absurd (List.mem_singleton.mp h) hstate
    exact ⟨htrades,fun h => absurd rfl h⟩

theorem sent_of_skips (state : State) (ctx ctx' : Ctx) (hs : sent ctx.outputs = [])
    (hf : downloadState shared t state ctx = (ctx',0)) : sent ctx'.outputs = [] := by
  by_cases hstate : state = .done
  · subst hstate
    cases hf
    simpa [onConnectionStatus, WebSocket.sent, Output.sent] using hs
  · obtain ⟨frames,hsends,-,-,⟨hn,-⟩ | ⟨⟨-,-,rfl⟩,-⟩⟩ := downloadState_spec shared t hstate ctx
    · rw [hf] at hn
      cases hn
    · rw [hf] at hsends
      rw [hsends.sent,hs,List.append_nil]

theorem live_enter {pending : List Frame} {xs : List State} (hxs : xs <:+ states) (hne : xs ≠ [])
    (hpending : LeftOver xs pending) (seen : List Seen) (isFirst : Bool) (d : Download State)
    {ctx : Ctx} (hsent : sent ctx.outputs = []) {s : Connection}
    (hs : s = after pending seen isFirst (close (Download.enter (downloadState shared t) xs d ctx))) :
    Live s ∧ Alive s ∧ s.stream.download ≠ .idle := by
  have hdownload : s.stream.download = (Download.enter (downloadState shared t) xs d ctx).1 := by
    rw [hs]
    rfl
  have hready : s.stream.isReady =
      (Download.enter (downloadState shared t) xs d ctx).2.self.isReady := by
    rw [hs]
    rfl
  have hafter : s.pending = pending ++
      sent (Download.enter (downloadState shared t) xs d ctx).2.outputs := by
    rw [hs]
    rfl
  rcases Download.enter_cases (f := downloadState shared t)
    (P := fun ctx : Ctx => sent ctx.outputs = []) (sent_of_skips shared t) hne d hsent with
    ⟨state,n,rest,u,hsuffix,hu,hf,hwaiting⟩ | ⟨u,hu,hf,hdone⟩
  · have hstate : state ≠ .done := by
      rintro rfl
      have h := (done_downloadState shared t u).2
      rw [hf] at h
      cases h
    obtain ⟨frames,hsends,hasks,hnotReady,hcount⟩ := downloadState_spec shared t hstate u
    rw [hf] at hsends hnotReady hcount
    obtain ⟨rfl,hlength⟩ : n = 0 ∧ (state ≠ .myTrades → frames.length ≤ 1) := by
      rcases hcount with ⟨hn,hlength⟩ | ⟨⟨-,hn,-⟩,-⟩
      · exact ⟨by simpa using hn,hlength⟩
      · cases hn
    rw [hsends.sent,hu,List.nil_append] at hafter
    have hnonempty : frames ≠ [] := by
      have h := sends_of_waits shared t hf
      rwa [hsends.sent,hu,List.nil_append] at h
    obtain ⟨htype,hnone⟩ := leftOver_suffix hpending hstate hsuffix
    refine ⟨?_,fun _ => by rw [hafter]; simp [hnonempty],by rw [hdownload,hwaiting]; nofun⟩
    rw [Live,hdownload,hwaiting,hafter]
    refine ⟨rfl,hsuffix.trans hxs,hready.trans hnotReady,?_,?_⟩
    · intro frame hmem
      rcases List.mem_append.mp hmem with hmem | hmem
      · exact htype frame hmem
      · exact (hasks frame hmem).1
    · intro hne'
      rw [hnone hne',List.nil_append]
      exact hlength hne'
  · have hlast : xs.getLast hne = .done := by
      rw [hxs.getLast hne]
      rfl
    rw [hlast] at hf hdone
    refine ⟨?_,?_,by rw [hdownload,hdone]; nofun⟩
    · rw [Live,hdownload,hdone]
      have h := (done_downloadState shared t u).1
      rw [hf] at h
      exact hready.trans h
    · intro h
      rw [hdownload,hdone] at h
      cases h

/-- What a step does to the recovery, by whether it brings an accepted reply, and whether it
leaves no request without an answer. -/
structure Goes (accepted answered : Prop) (s s' : Connection) : Prop where
  live : Live s'
  alive : answered → Alive s → Alive s'
  remaining : s'.remaining ≤ s.remaining
  nearer : accepted → s.stream.download.downloading = true → s'.remaining < s.remaining
  begun : s.stream.download ≠ .idle → s'.stream.download ≠ .idle

theorem dropWhile_of_suffix {state : State} {rest : List State} (h : (state::rest) <:+ states) :
    states.dropWhile (· ≠ state) = state::rest := by
  simp only [states, List.suffix_cons_iff, List.suffix_nil, List.cons.injEq, reduceCtorEq,
    or_false] at h
  rcases h with ⟨rfl,rfl⟩ | ⟨rfl,rfl⟩ | ⟨rfl,rfl⟩ | ⟨rfl,rfl⟩ | ⟨rfl,rfl⟩ | ⟨rfl,rfl⟩ <;> rfl

/-- After a handler that leaves the download as it is and sends nothing before the stream is
ready. -/
theorem live_quiet {s : Connection} (h : Live s) {pending : List Frame}
    (hpending : pending.Sublist s.pending) (seen : List Seen) (isFirst : Bool) {ctx : Ctx}
    (hdownload : ctx.self.download = s.stream.download)
    (hready : ctx.self.isReady = s.stream.isReady)
    (hsent : s.stream.isReady = false → sent ctx.outputs = []) :
    Live (after pending seen isFirst ctx) := by
  cases hd : s.stream.download with
  | idle =>
    simp only [Live, hd] at h
    simp only [Live, after, hdownload, hd, hsent h.1, List.append_nil]
    exact ⟨hready.trans h.1,List.eq_nil_of_sublist_nil (h.2 ▸ hpending)⟩
  | waiting state more rest =>
    simp only [Live, hd] at h
    obtain ⟨hmore,hsuffix,hr,htype,hlength⟩ := h
    simp only [Live, after, hdownload, hd, hsent hr, List.append_nil]
    refine ⟨hmore,hsuffix,hready.trans hr,?_,?_⟩
    · intro frame hmem
      exact htype frame (hpending.subset hmem)
    · intro hne
      exact hpending.length_le.trans (hlength hne)
  | done state =>
    simp only [Live, hd] at h
    simp only [Live, after, hdownload, hd]
    exact hready.trans h

theorem alive_quiet {s : Connection} {pending : List Frame}
    (h : s.stream.download.downloading = true → pending ≠ []) (seen : List Seen) (isFirst : Bool)
    {ctx : Ctx} (hdownload : ctx.self.download = s.stream.download) :
    Alive (after pending seen isFirst ctx) := by
  intro hd hnil
  change ctx.self.download.downloading = true at hd
  rw [hdownload] at hd
  exact h hd (List.append_eq_nil_iff.mp hnil).1

/-- A step that is not a reply and leaves the download as it is. -/
theorem goes_quiet {s : Connection} (h : Live s) (seen : List Seen) (isFirst : Bool)
    (ctx : Ctx) (hdownload : ctx.self.download = s.stream.download)
    (hready : ctx.self.isReady = s.stream.isReady)
    (hsent : s.stream.isReady = false → sent ctx.outputs = []) (answered : Prop) :
    Goes False answered s (after s.pending seen isFirst ctx) where
  live := live_quiet h (List.Sublist.refl _) seen isFirst hdownload hready hsent
  alive _ ha := alive_quiet ha seen isFirst hdownload
  remaining := by
    change Download.remaining asks ctx.self.download ≤ _
    rw [hdownload,remaining]
  nearer := False.elim
  begun h := fun hidle => h (hdownload.symm.trans hidle)

/-- States are entered that need fewer replies than before. -/
theorem goes_enter {s : Connection} {pending : List Frame} {xs : List State} (hxs : xs <:+ states)
    (hne : xs ≠ []) (hpending : LeftOver xs pending) (seen : List Seen) (isFirst : Bool)
    (d : Download State) {ctx : Ctx} (hsent : sent ctx.outputs = []) {accepted : Prop}
    (hremaining : xs.countP asks ≤ s.remaining) (hnearer : accepted → xs.countP asks < s.remaining)
    (answered : Prop) :
    Goes accepted answered s
      (after pending seen isFirst (close (Download.enter (downloadState shared t) xs d ctx))) := by
  obtain ⟨hlive,halive,hbegun⟩ := live_enter shared t hxs hne hpending seen isFirst d hsent rfl
  have hle := Download.remaining_enter (asksOnce shared t) hne d ctx
  exact ⟨hlive,fun _ _ => halive,hle.trans hremaining,fun hacc _ => hle.trans_lt (hnearer hacc),
    fun _ => hbegun⟩

theorem goes_onReply {s : Connection} (h : Live s) {α : Type} {state : State} (hstate : state ≠ .done)
    {successHandler : α → Ctx → Ctx}
    (hsuccess : ∀ result ctx, Keeps state ctx (successHandler result ctx)) (reply : WSAPIReply α)
    (retryNow : Bool) {frame : Frame} (hmem : frame ∈ s.pending)
    (htype : frame.request.type = requestType state) (seen : List Seen) (isFirst : Bool) :
    Goes (reply.status = 200) (reply.status = 200 ∨ retryNow = true) s
      (after (s.pending.erase frame) seen isFirst
        (onReply shared t state successHandler reply retryNow ⟨s.stream,Request.empty,[]⟩)) := by
  rw [onReply,rateLimited,after_dispatchAll]
  have hkeeps := hsuccess reply.result ⟨s.stream,Request.empty,[]⟩
  have hlive := h
  cases hd : s.stream.download with
  | idle =>
    simp only [Live, hd] at hlive
    rw [hlive.2] at hmem
    cases hmem
  | waiting x more rest =>
    simp only [Live, hd] at hlive
    obtain ⟨rfl,hsuffix,hr,htypes,hlength⟩ := hlive
    obtain rfl : state = x := requestType_inj (htype.symm.trans (htypes frame hmem))
    have hrest := dropWhile_of_suffix hsuffix
    have herase : state ≠ .myTrades → s.pending.erase frame = [] := by
      intro hne
      apply List.eq_nil_of_length_eq_zero
      rw [List.length_erase_of_mem hmem]
      have := hlength hne
      omega
    have hremaining : s.remaining = 1 + rest.countP asks := by
      rw [remaining,hd]
      rfl
    split_ifs with hstatus
    · obtain ⟨rest',rfl,-⟩ := dropWhile_following hstate hrest
      have hcheck : sequencer (Download.check (downloadState shared t) state)
          (successHandler reply.result ⟨s.stream,Request.empty,[]⟩) =
            close (Download.enter (downloadState shared t) (following state::rest') (.done state)
              (successHandler reply.result ⟨s.stream,Request.empty,[]⟩)) := by
        rw [sequencer_eq,hkeeps.download]
        simp only [hd, Download.check, if_true]
      rw [hcheck]
      refine goes_enter shared t ((List.suffix_cons _ _).trans hsuffix) (List.cons_ne_nil _ _) ?_
        seen isFirst _ hkeeps.sent ?_ ?_ _
      · by_cases htrades : state = .myTrades
        · subst htrades
          have hlast : states.dropWhile (· ≠ State.myTrades) = [.myTrades,.done] := by decide
          exact .inr (.inl (List.cons.inj (hrest.symm.trans hlast)).2)
        · exact .inl (herase htrades)
      · omega
      · omega
    · cases retryNow with
      | true =>
        have hretry : sequencer (Download.retry (downloadState shared t) states true state)
            ⟨s.stream,Request.empty,[]⟩ =
              close (Download.enter (downloadState shared t) (state::rest) (.waiting state 0 rest)
                ⟨s.stream,Request.empty,[]⟩) := by
          rw [sequencer_eq,Download.retry]
          simp only [hd, Download.downloading_waiting, Bool.and_self, if_true, hrest]
        rw [hretry]
        refine goes_enter shared t hsuffix (List.cons_ne_nil _ _) ?_ seen isFirst _ rfl ?_
          (fun hacc => absurd hacc hstatus) _
        · by_cases htrades : state = .myTrades
          · subst htrades
            have hlast : states.dropWhile (· ≠ State.myTrades) = [.myTrades,.done] := by decide
            refine .inr (.inr ⟨hrest.symm.trans hlast,?_⟩)
            intro frame' hmem'
            exact htypes frame' (List.mem_of_mem_erase hmem')
          · exact .inl (herase htrades)
        · rw [List.countP_cons,hremaining]
          split_ifs <;> omega
      | false =>
        have hretry : sequencer (Download.retry (downloadState shared t) states false state)
            ⟨s.stream,Request.empty,[]⟩ = ⟨s.stream,Request.empty,[]⟩ := rfl
        rw [hretry]
        refine ⟨live_quiet h List.erase_sublist seen isFirst rfl rfl fun _ => rfl,?_,le_refl _,
          fun hacc => absurd hacc hstatus,id⟩
        rintro (hacc | hnow) _
        · exact absurd hacc hstatus
        · cases hnow
  | done x =>
    simp only [Live, hd] at hlive
    have hself : ∀ ctx : Ctx, ctx.self.download = .done x → ctx.self.isReady = true →
        Goes (reply.status = 200) (reply.status = 200 ∨ retryNow = true) s
          (after (s.pending.erase frame) seen isFirst ctx) := by
      intro ctx hdownload hready
      have hsame := hdownload.trans hd.symm
      refine ⟨live_quiet h List.erase_sublist seen isFirst hsame (hready.trans hlive.symm) ?_,?_,
        ?_,?_,fun h hidle => h (hsame.symm.trans hidle)⟩
      · intro hnot
        rw [hlive] at hnot
        cases hnot
      · exact fun _ _ => alive_quiet (fun hdl => by rw [hd] at hdl; cases hdl) seen isFirst hsame
      · change Download.remaining asks ctx.self.download ≤ Download.remaining asks s.stream.download
        rw [hsame]
      · intro _ hdl
        rw [hd] at hdl
        cases hdl
    split_ifs
    · apply hself
      · rw [sequencer_eq,hkeeps.download]
        simp only [hd, Download.check, close, Context.modify_self]
      · rw [sequencer_eq,hkeeps.download]
        simp only [hd, Download.check, close]
        exact hkeeps.ready.trans hlive
    · apply hself
      · rw [sequencer_eq]
        simp only [hd, Download.retry, Download.downloading_done, Bool.and_false, close,
          Bool.false_eq_true, if_false, Context.modify_self]
      · rw [sequencer_eq]
        simp only [hd, Download.retry, Download.downloading_done, Bool.and_false, close,
          Bool.false_eq_true, if_false]
        exact hlive

/-- A reply to a request of another kind, which the stream has recovered for. -/
theorem goes_other {s : Connection} (h : Live s) {frame : Frame} (hmem : frame ∈ s.pending)
    (htype : ∀ state, frame.request.type ≠ requestType state) (pending : List Frame)
    (seen : List Seen) (isFirst : Bool) {ctx : Ctx} (hself : ctx.self = s.stream)
    (accepted answered : Prop) : Goes accepted answered s (after pending seen isFirst ctx) := by
  have hsame : (after pending seen isFirst ctx).stream = s.stream := hself
  cases hd : s.stream.download with
  | idle =>
    simp only [Live, hd] at h
    rw [h.2] at hmem
    cases hmem
  | waiting x more rest =>
    simp only [Live, hd] at h
    exact absurd (h.2.2.2.1 frame hmem) (htype x)
  | done x =>
    simp only [Live, hd] at h
    refine ⟨?_,?_,?_,?_,by rw [hsame]; exact id⟩
    · simp only [Live, hsame, hd]
      exact h
    · intro _ _ hdl
      rw [hsame,hd] at hdl
      cases hdl
    · rw [remaining,remaining,hsame]
    · intro _ hdl
      rw [hd] at hdl
      cases hdl

theorem goes_reply (p : WSAPIParsers) {s : Connection} (h : Live s) {frame : Frame}
    (hmem : frame ∈ s.pending) {message : Library.Json.Object}
    (hecho : WSAPIParser.Echoes frame.id message) (order : MatchedOrder) (retryNow : Bool)
    (hfatal : (parse shared p t message order retryNow
      ⟨s.stream,Request.empty,[]⟩).outputs.any Output.isFatal = false) (seen : List Seen)
    (isFirst : Bool) :
    Goes (replyStatus p frame.request.type message = some 200)
      (replyStatus p frame.request.type message = some 200 ∨ retryNow = true) s
      (after (s.pending.erase frame) seen isFirst
        (parse shared p t message order retryNow ⟨s.stream,Request.empty,[]⟩)) := by
  have hdispatch := WSAPIParser.dispatch_echo p frame.request false hecho
  simp only [parse, hdispatch] at hfatal ⊢
  cases ho : WSAPIParser.dispatchResponse p message false frame.request with
  | skipped => exact absurd ho (not_skipped p frame.request message)
  | fatal => simp [ho, Output.isFatal] at hfatal
  | thrown => simp [ho, Output.isFatal] at hfatal
  | called m =>
    have hreply : ∀ {α : Type} {state : State} {successHandler : α → Ctx → Ctx}
        {parsed : Option (WSAPIReply α)} {reply : WSAPIReply α}, state ≠ .done →
        frame.request.type = requestType state → parsed = some reply →
        replyStatus p frame.request.type message = parsed.map (·.status) →
        (∀ result ctx, Keeps state ctx (successHandler result ctx)) →
        Goes (replyStatus p frame.request.type message = some 200)
          (replyStatus p frame.request.type message = some 200 ∨ retryNow = true) s
          (after (s.pending.erase frame) seen isFirst
            (onReply shared t state successHandler reply retryNow
              ⟨s.stream,Request.empty,[]⟩)) := by
      intro α state successHandler parsed reply hstate htype hp hstatus hsuccess
      rw [hstatus,hp,Option.map_some,Option.some.injEq]
      exact goes_onReply shared t h hstate hsuccess reply retryNow hmem htype seen isFirst
    have hother : ∀ type : WSAPIType, frame.request.type = type →
        (∀ state, type ≠ requestType state) → ∀ ctx : Ctx, ctx.self = s.stream →
        Goes (replyStatus p frame.request.type message = some 200)
          (replyStatus p frame.request.type message = some 200 ∨ retryNow = true) s
          (after (s.pending.erase frame) seen isFirst ctx) := by
      intro type htype hne ctx hself
      exact goes_other h hmem (htype ▸ hne) _ _ _ hself _ _
    cases answers_of_called ho with
    | sessionLogon htype hp =>
      exact hreply (by decide) htype hp (by rw [htype]; rfl) fun _ _ => ⟨rfl,rfl,fun _ => rfl,rfl⟩
    | userDataStreamSubscribe htype hp =>
      exact hreply (by decide) htype hp (by rw [htype]; rfl) fun _ _ => ⟨rfl,rfl,fun _ => rfl,rfl⟩
    | account htype hp =>
      exact hreply (by decide) htype hp (by rw [htype]; rfl) fun _ _ => keeps_dispatchAll _ _ _
    | openOrders htype hp =>
      exact hreply (by decide) htype hp (by rw [htype]; rfl) (keeps_onOpenOrders shared)
    | trades htype hp =>
      exact hreply (by decide) htype hp (by rw [htype]; rfl) (keeps_onTrades shared)
    | orderPlace htype reply =>
      apply hother _ htype (by rintro ⟨⟩ <;> decide)
      simp only [onMessage, onOrderPlace, rateLimited, Context.dispatchAll_self]
      split_ifs <;> rfl
    | orderAmendKeepPriority htype reply =>
      apply hother _ htype (by rintro ⟨⟩ <;> decide)
      simp only [onMessage, onOrderAmendKeepPriority, rateLimited, Context.dispatchAll_self]
      split_ifs <;> rfl
    | cancelOrder htype reply =>
      apply hother _ htype (by rintro ⟨⟩ <;> decide)
      simp only [onMessage, onCancelOrder, rateLimited, Context.dispatchAll_self]
      split_ifs <;> rfl
    | cancelOpenOrders htype reply =>
      apply hother _ htype (by rintro ⟨⟩ <;> decide)
      simp only [onMessage, onCancelOpenOrders, rateLimited, Context.dispatchAll_self]
      split_ifs <;> rfl

theorem goes_event (p : WSAPIParsers) {s : Connection} (h : Live s)
    {message : Library.Json.Object} (hid : Library.Json.first "id" message = none)
    (order : MatchedOrder)
    (hfatal : (parse shared p t message order false
      ⟨s.stream,Request.empty,[]⟩).outputs.any Output.isFatal = false) (seen : List Seen)
    (isFirst : Bool) (answered : Prop) :
    Goes False answered s (after s.pending seen isFirst
      (parse shared p t message order false ⟨s.stream,Request.empty,[]⟩)) := by
  have hself := goes_quiet h seen isFirst ⟨s.stream,Request.empty,[]⟩ rfl rfl
    (fun _ => rfl) answered
  simp only [parse] at hfatal ⊢
  cases ho : WSAPIParser.dispatch p message false with
  | skipped => exact hself
  | fatal => simp [ho, Output.isFatal] at hfatal
  | thrown => simp [ho, Output.isFatal] at hfatal
  | called m =>
    cases happens_of_keys hid ho with
    | eventStreamTerminated => simp [ho, onMessage, Output.isFatal] at hfatal
    | outboundAccountPosition event =>
      simp only [onMessage, after_dispatchAll]
      exact hself
    | balanceUpdate => exact hself
    | executionReport event =>
      simp only [onMessage, after_dispatchAll]
      exact hself

theorem isReady_onRequest (request : ClientRequest) (ctx : Ctx) :
    (onRequest shared request ctx).1.self.isReady = ctx.self.isReady := by
  cases request with
  | createOrder info request params =>
    simp only [onRequest, orderPlace]
    split_ifs
    · rfl
    · split <;> rfl
  | modifyOrder info request params =>
    simp only [onRequest, orderAmendKeepPriority]
    split_ifs <;> rfl
  | cancelOrder info request params =>
    simp only [onRequest, orderCancel]
    split_ifs
    · rfl
    · split <;> rfl
  | cancelAllOrders info request requestId =>
    simp only [onRequest, openOrdersCancelAll]
    split_ifs
    · rfl
    · refine List.foldlRecOn (motive := fun ctx' : Ctx => ctx'.self.isReady = ctx.self.isReady)
        _ _ rfl ?_
      intro ctx' h symbol _
      split_ifs
      · exact h
      · exact h

end

section
variable (p : WSAPIParsers)

/-- A reply for the recovery that accepts its request. -/
def accepts (s : Connection) (e : TraceInfo × ConnectionEvent) : ℕ :=
  match e.2 with
  | .reply frame message _ _ =>
    if s.stream.download.downloading ∧ replyStatus p frame.request.type message = some 200 then 1
    else 0
  | _ => 0

/-- The socket is ready for another recovery. -/
def connects (e : TraceInfo × ConnectionEvent) : Bool :=
  match e.2 with
  | .ready => true
  | _ => false

/-- A reply accepts its request or has it repeated at once. -/
def Answered (e : TraceInfo × ConnectionEvent) : Prop :=
  match e.2 with
  | .reply frame message _ retryNow =>
    replyStatus p frame.request.type message = some 200 ∨ retryNow = true
  | _ => True

variable {shared : Shared} {p}

/-- A step that brings no accepted reply. -/
theorem Goes.unpaid {s s' : Connection} {e : TraceInfo × ConnectionEvent} (h : Goes False True s s')
    (haccepts : accepts p s e = 0) (hconnects : connects e = false) :
    Live s' ∧ (Answered p e → Alive s → Alive s') ∧
      accepts p s e + s'.remaining ≤ s.remaining + if connects e then 5 else 0 := by
  refine ⟨h.live,fun _ => h.alive trivial,?_⟩
  rw [haccepts,hconnects,Nat.zero_add]
  exact h.remaining

theorem goes_next_reply {streamId : ℕ} {account : String} {s s' : Connection} (h : Live s)
    {t : TraceInfo} {frame : Frame} {message : Library.Json.Object} {order : MatchedOrder}
    {retryNow : Bool}
    (hn : (machine shared p streamId account).next s (t,.reply frame message order retryNow) =
      some s') :
    Goes (replyStatus p frame.request.type message = some 200)
      (replyStatus p frame.request.type message = some 200 ∨ retryNow = true) s s' := by
  simp only [machine, next] at hn
  split_ifs at hn with henabled
  obtain ⟨hfatal,rfl⟩ := deliver_eq_some hn
  exact goes_reply shared t p h henabled.1 henabled.2 order retryNow hfatal _ s.isFirst

theorem goes_next {streamId : ℕ} {account : String} {s s' : Connection}
    {e : TraceInfo × ConnectionEvent} (h : Live s)
    (hn : (machine shared p streamId account).next s e = some s') :
    Live s' ∧ (Answered p e → Alive s → Alive s') ∧
      accepts p s e + s'.remaining ≤ s.remaining + if connects e then 5 else 0 := by
  obtain ⟨t,event⟩ := e
  cases event with
  | timer refresh =>
    simp only [machine, next] at hn
    obtain ⟨-,rfl⟩ := deliver_eq_some hn
    exact (goes_quiet h s.seen s.isFirst ⟨s.stream,Request.empty,[]⟩ rfl rfl
      (fun _ => rfl) True).unpaid rfl rfl
  | ready =>
    simp only [machine, next] at hn
    obtain ⟨-,rfl⟩ := deliver_eq_some hn
    have hne : states ≠ [] := List.cons_ne_nil _ _
    obtain ⟨hlive,halive,-⟩ := live_enter shared t (List.suffix_refl states) hne
      (.inl rfl) [] s.stream.downloadTradesIsFirst .idle
      (show sent (⟨s.stream,Request.empty,[]⟩ : Ctx).outputs = [] from rfl) rfl
    have hle := Download.remaining_enter (asksOnce shared t) hne .idle ⟨s.stream,Request.empty,[]⟩
    refine ⟨hlive,fun _ _ => halive,?_⟩
    have hcount : states.countP asks = 5 := by decide
    calc accepts p s (t,.ready) + _
        = (after [] [] s.stream.downloadTradesIsFirst
            (handle shared p t (.socket .ready) ⟨s.stream,Request.empty,[]⟩)).remaining := Nat.zero_add _
      _ ≤ 5 := hcount ▸ hle
      _ ≤ s.remaining + 5 := Nat.le_add_left 5 _
  | disconnected =>
    simp only [machine, next] at hn
    obtain ⟨-,rfl⟩ := deliver_eq_some hn
    refine ⟨⟨rfl,rfl⟩,fun _ _ hdl => ?_,?_⟩
    · cases hdl
    · exact Nat.zero_le _
  | client request =>
    simp only [machine, next] at hn
    obtain ⟨-,rfl⟩ := deliver_eq_some hn
    exact (goes_quiet h s.seen s.isFirst
      (onRequest shared request ⟨s.stream,Request.empty,[]⟩).1
      (download_onRequest shared request _) (isReady_onRequest shared request _)
      (fun hr => by rw [onRequest_not_ready shared request hr]; rfl) True).unpaid rfl rfl
  | reply frame message order retryNow =>
    have hgoes := goes_next_reply h hn
    have hremaining := hgoes.remaining
    refine ⟨hgoes.live,hgoes.alive,?_⟩
    simp only [accepts, connects, Bool.false_eq_true, if_false]
    split_ifs with haccepts
    · have hnearer := hgoes.nearer haccepts.2 haccepts.1
      omega
    · omega
  | event message order =>
    simp only [machine, next] at hn
    split_ifs at hn with hid
    obtain ⟨hfatal,rfl⟩ := deliver_eq_some hn
    exact (goes_event shared t p h (Option.isNone_iff_eq_none.mp hid) order hfatal s.seen
      s.isFirst True).unpaid rfl rfl

theorem preserves_live (streamId : ℕ) (account : String) :
    (machine shared p streamId account).Preserves Live :=
  fun _ _ _ h hn => (goes_next h hn).1

theorem amortizes (streamId : ℕ) (account : String) :
    (machine shared p streamId account).Amortizes Live remaining (accepts p)
      fun _ e => if connects e then 5 else 0 :=
  fun _ _ _ h hn => (goes_next h hn).2.2

theorem alive_run {streamId : ℕ} {account : String} {es : List (TraceInfo × ConnectionEvent)}
    {s : Connection} (hanswered : ∀ e ∈ es, Answered p e)
    (hr : (machine shared p streamId account).run (machine shared p streamId account).init es =
      some s) : Live s ∧ Alive s := by
  have hinit : Live (machine shared p streamId account).init := ⟨rfl,rfl⟩
  refine Machine.run_of_events (I := fun s => Live s ∧ Alive s) ?_ hanswered ⟨hinit,nofun⟩ hr
  intro s e s' he hs hn
  obtain ⟨hlive,halive,-⟩ := goes_next hs.1 hn
  exact ⟨hlive,halive he hs.2⟩

/-- A recovery needs at most five accepted replies. As long as each reply accepts its request or
has it repeated, one of these requests is always outstanding, and the reply that accepts it
brings the stream nearer to being ready. -/
theorem recovery_goes_on {streamId : ℕ} {account : String} {es : List (TraceInfo × ConnectionEvent)}
    {s : Connection} (hr : (machine shared p streamId account).run
      (machine shared p streamId account).init es = some s) :
    (machine shared p streamId account).total (accepts p) (machine shared p streamId account).init es
        + s.remaining ≤ 5 * es.countP connects ∧
      ((∀ e ∈ es, Answered p e) → s.stream.download.downloading = true →
        s.stream.isReady = false ∧ s.pending ≠ [] ∧
          ∀ (t : TraceInfo) (frame : Frame) (message : Library.Json.Object) (order : MatchedOrder)
            (retryNow : Bool) (s' : Connection),
            (machine shared p streamId account).next s (t,.reply frame message order retryNow) =
              some s' → replyStatus p frame.request.type message = some 200 →
            s'.remaining < s.remaining ∧ (s'.stream.isReady = true ∨
              s'.stream.download.downloading = true ∧ s'.pending ≠ [])) := by
  have hinit : Live (machine shared p streamId account).init := ⟨rfl,rfl⟩
  have hlive := (preserves_live streamId account).run hinit hr
  refine ⟨?_,fun hanswered hdl => ⟨hlive.not_ready hdl,?_,?_⟩⟩
  · have h := (amortizes streamId account).run (preserves_live streamId account) hinit hr
    rw [Machine.total_countP connects 5 hr] at h
    exact h.trans (Nat.zero_add _).le
  · exact (alive_run hanswered hr).2 hdl
  · intro t frame message order retryNow s' hn haccepts
    have hgoes := goes_next_reply hlive hn
    refine ⟨hgoes.nearer haccepts hdl,?_⟩
    have hbegun : s'.stream.download ≠ .idle := hgoes.begun fun hidle => by
      rw [hidle] at hdl
      cases hdl
    have halive := hgoes.alive (.inl haccepts) (alive_run hanswered hr).2
    exact (hgoes.live.begun hbegun).imp_right fun hdl' => ⟨hdl',halive hdl'⟩

theorem recovery_goes_on_sample : ∃ s : Connection, s.stream.download.downloading = true ∧
    s.remaining ≤ 5 ∧ s.stream.isReady = false ∧ s.pending ≠ [] := by
  have hany : ((machine (tradesShared ["BTCUSDT"]) .sample 1 "account").run
      (machine (tradesShared ["BTCUSDT"]) .sample 1 "account").init (readyRun.take 3)).any
        (fun s => s.stream.download.downloading) = true := by decide
  obtain ⟨s,hr,hdl⟩ := (Option.any_eq_true _ _).mp hany
  obtain ⟨hcount,hgoes⟩ := recovery_goes_on hr
  have hanswered : ∀ e ∈ readyRun.take 3, Answered .sample e := by
    intro e he
    simp only [readyRun, List.take_succ_cons, List.take_zero, List.mem_cons, List.not_mem_nil,
      or_false] at he
    rcases he with rfl | rfl | rfl
    · trivial
    · exact .inr rfl
    · exact .inr rfl
  obtain ⟨hready,hpending,-⟩ := hgoes hanswered hdl
  exact ⟨s,hdl,(Nat.le_add_left _ _).trans hcount,hready,hpending⟩

end

end Connection
end WebSocket
end RoqBinance.Gateway
