import RoqBinance.Gateway.Streams

/-! Runs of an order entry with its user stream, seen through the ledger of one download:
each event leaves the ledger alone, posts a request or replies to it. -/
namespace RoqBinance.Gateway
open Library

/-- Which download a callback replies to, and what a response dispatches as its snapshot. -/
structure Downloads (Call : Type) where
  kind : Call → Option Kind
  snapshot : Call → RestResponse → Option (List Dispatch)

namespace Downloads
variable {Call Socket Client : Type} (d : Downloads Call)

/-- When the snapshot that a response delivers was asked for. -/
def delivered (job : Job Call) (response : RestResponse) : Option ℕ :=
  (d.snapshot job.call response).map fun _ => job.sent

/-- The reply to the download `k` that an event is. -/
def replies (k : Kind) : Streams.Event Call Socket Client → Option (Option ℕ)
  | .reply job response _ => if d.kind job.call = some k then some (d.delivered job response) else none
  | _ => none

end Downloads

namespace Entry
variable {Call : Type} (d : Downloads Call) (k : Kind)

/-- The snapshot of the download `k` that was delivered at this entry of the log. -/
def snapshot (x : Entry Call) : Option Snapshot :=
  match x.reply with
  | some (job,response) =>
    if d.kind job.call = some k then (d.delivered job response).map fun sent => ⟨sent,x.time⟩
    else none
  | none => none

/-- At this entry a response to `job` dispatched a snapshot of the download `k`. -/
def Delivers (x : Entry Call) (job : Job Call) : Prop :=
  ∃ response, x.reply = some (job,response) ∧ d.kind job.call = some k ∧
    d.snapshot job.call response = some x.dispatched

/-- What the entry dispatched is the snapshot of its response, if that has one. -/
def Sound (x : Entry Call) : Prop :=
  ∀ job response, x.reply = some (job,response) →
    ∀ dispatched, d.snapshot job.call response = some dispatched → x.dispatched = dispatched

variable {d k}

theorem snapshot_eq_some {x : Entry Call} (hx : x.Sound d) {y : Snapshot} :
    x.snapshot d k = some y ↔ ∃ job, x.Delivers d k job ∧ y = ⟨job.sent,x.time⟩ := by
  obtain ⟨time,reply,dispatched⟩ := x
  cases reply with
  | none => simp [snapshot, Delivers]
  | some r =>
    obtain ⟨job,response⟩ := r
    constructor
    · intro h
      simp only [snapshot, Downloads.delivered] at h
      split_ifs at h with hk
      cases hd : d.snapshot job.call response with
      | none => rw [hd] at h; cases h
      | some ds =>
        rw [hd] at h
        have hds : dispatched = ds := hx job response rfl ds hd
        exact ⟨job,⟨response,rfl,hk,by rw [hd, hds]⟩,(Option.some.inj h).symm⟩
    · rintro ⟨job',⟨response',hr,hk,hd⟩,rfl⟩
      cases hr
      simp only [snapshot, Downloads.delivered, if_pos hk, hd]
      rfl

end Entry

/-- The order entry changes the request by its callbacks only, the user stream by posting. -/
structure Wiring.Lawful {O D Call Frame Socket Client : Type}
    (w : Wiring O D Call Frame Socket Client) (d : Downloads Call) : Prop where
  timer : ∀ t timerNow refresh ctx, (w.timer t timerNow refresh ctx).request = ctx.request
  connected : ∀ t ctx, (w.connected t ctx).request = ctx.request
  disconnected : ∀ ctx, (w.disconnected ctx).request = ctx.request
  client : ∀ request ctx, (w.client request ctx).1.request = ctx.request
  response : ∀ t call response retryNow ctx,
    (w.response t call response retryNow ctx).outputs.any Output.isFatal = true ∨
    (w.response t call response retryNow ctx).request =
      match d.kind call with
      | some k => ctx.request.reply k t.originCreateTime
      | none => ctx.request
  dropCopyTimer : ∀ t refresh ctx,
    Request.Posted t.originCreateTime ctx.request (w.dropCopyTimer t refresh ctx).request
  dropCopySocket : ∀ t event ctx,
    Request.Posted t.originCreateTime ctx.request (w.dropCopySocket t event ctx).request

/-- The order entry stays the stream that it is, and a response that has a snapshot
dispatches this snapshot. -/
structure Wiring.Delivers {O D Call Frame Socket Client : Type}
    (w : Wiring O D Call Frame Socket Client) (d : Downloads Call) (I : O → Prop) : Prop where
  timer : ∀ t timerNow refresh ctx, I ctx.self → I (w.timer t timerNow refresh ctx).self
  connected : ∀ t ctx, I ctx.self → I (w.connected t ctx).self
  disconnected : ∀ ctx, I ctx.self → I (w.disconnected ctx).self
  client : ∀ request ctx, I ctx.self → I (w.client request ctx).1.self
  response : ∀ t call response retryNow ctx, I ctx.self →
    I (w.response t call response retryNow ctx).self
  snapshot : ∀ t call response retryNow ctx, I ctx.self → ctx.outputs = [] →
    ∀ dispatched, d.snapshot call response = some dispatched →
      (w.response t call response retryNow ctx).outputs.filterMap Output.dispatched = dispatched

namespace Streams
variable {O D Call Frame Socket Client : Type} (d : Downloads Call)

def ledger (k : Kind) (s : Streams O D Call) : Ledger :=
  ⟨s.request.stamps k,s.log.filterMap (Entry.snapshot d k)⟩

variable {w : Wiring O D Call Frame Socket Client}

theorem dropCopyPhase_request {t : ℕ} {f : Context D Frame → Context D Frame}
    (hf : ∀ ctx, Request.Posted t ctx.request (f ctx).request) (s : Streams O D Call) :
    Request.Posted t s.request (dropCopyPhase f s).1.request := by
  unfold dropCopyPhase
  cases s.dropCopy with
  | none => exact Request.Posted.refl t _
  | some dropCopy => exact hf ⟨dropCopy,s.request,[]⟩

@[simp] theorem dropCopyPhase_inFlight (f : Context D Frame → Context D Frame)
    (s : Streams O D Call) : (dropCopyPhase f s).1.inFlight = s.inFlight := by
  unfold dropCopyPhase
  cases s.dropCopy <;> rfl

variable [DecidableEq Call] {d}

/-- What an event does to the request. -/
theorem request_step (hw : w.Lawful d) {t : TraceInfo} {event : Event Call Socket Client}
    {s : Streams O D Call} (hfatal : (step w t event s).2.fatal = false) :
    match event.reply?.bind fun x => d.kind x.1.call with
    | some k => (step w t event s).1.request = s.request.reply k t.originCreateTime
    | none => Request.Posted t.originCreateTime s.request (step w t event s).1.request := by
  cases event with
  | timer timerNow r1 r2 =>
    have h := dropCopyPhase_request (hw.dropCopyTimer t r2)
      (orderEntryPhase w t (w.timer t timerNow r1) s).1
    have hr : (orderEntryPhase w t (w.timer t timerNow r1) s).1.request = s.request :=
      hw.timer t timerNow r1 _
    rw [hr] at h
    exact h
  | connected =>
    intro k
    exact .inl (congrArg (·.stamps k) (hw.connected t ⟨s.orderEntry,s.request,[]⟩))
  | disconnected =>
    intro k
    exact .inl (congrArg (·.stamps k) (hw.disconnected ⟨s.orderEntry,s.request,[]⟩))
  | client request =>
    intro k
    exact .inl (congrArg (·.stamps k) (hw.client request ⟨s.orderEntry,s.request,[]⟩))
  | socket event => exact dropCopyPhase_request (hw.dropCopySocket t event) s
  | reply job response retryNow =>
    have h := (hw.response t job.call response retryNow ⟨s.orderEntry,s.request,[]⟩).resolve_left
      (by simpa [step, orderEntryPhase, Effects.of] using hfatal)
    simp only [Event.reply?, Option.bind_some]
    cases hk : d.kind job.call with
    | some k => rw [hk] at h; exact h
    | none =>
      rw [hk] at h
      exact fun j => .inl (congrArg (·.stamps j) h)

/-- A request that is in flight after an event was in flight before or was sent by the event. -/
theorem inFlight_step {t : TraceInfo} {event : Event Call Socket Client} {s : Streams O D Call}
    {job : Job Call} (h : job ∈ (step w t event s).1.inFlight) :
    job ∈ s.inFlight ∨ job.sent = t.originCreateTime := by
  have hphase : ∀ (f : Context O Call → Context O Call) (s : Streams O D Call),
      job ∈ (orderEntryPhase w t f s).1.inFlight →
      job ∈ s.inFlight ∨ job.sent = t.originCreateTime := by
    intro f s h
    rcases List.mem_append.mp h with h | h
    · exact .inl h
    · obtain ⟨call,-,rfl⟩ := List.mem_map.mp h
      exact .inr rfl
  cases event with
  | timer timerNow r1 r2 =>
    have h' : job ∈ (orderEntryPhase w t (w.timer t timerNow r1) s).1.inFlight := by
      simpa [step] using h
    exact hphase _ _ h'
  | connected => exact hphase _ _ h
  | disconnected => exact hphase _ _ h
  | client request => exact hphase _ _ h
  | socket event => exact .inl (by simpa [step] using h)
  | reply job' response retryNow =>
    rcases hphase _ _ h with h | h
    · exact .inl (List.mem_of_mem_erase h)
    · exact .inr h

variable {orderEntry : O} {s s' : Streams O D Call} {e : Timed (Event Call Socket Client)}

omit [DecidableEq Call] in
/-- The entry of a callback delivers what the callback replies, other entries nothing. -/
theorem snapshot_entry (d : Downloads Call) (k : Kind) (time : ℕ)
    (event : Event Call Socket Client) (dispatched : List Dispatch) :
    Entry.snapshot d k ⟨time,event.reply?,dispatched⟩ =
      (d.replies k event).bind fun o => o.map fun sent => ⟨sent,time⟩ := by
  cases event with
  | reply job response retryNow =>
    simp only [Entry.snapshot, Event.reply?, Downloads.replies]
    split_ifs <;> rfl
  | _ => rfl

omit [DecidableEq Call] in
theorem replies_eq_some {k : Kind} {event : Event Call Socket Client} {o : Option ℕ} :
    d.replies k event = some o ↔ ∃ job response retryNow, event = .reply job response retryNow ∧
      d.kind job.call = some k ∧ o = d.delivered job response := by
  constructor
  · intro h
    cases event with
    | reply job response retryNow =>
      simp only [Downloads.replies] at h
      split_ifs at h with hk
      exact ⟨job,response,retryNow,rfl,hk,(Option.some.inj h).symm⟩
    | _ => cases h
  · rintro ⟨job,response,retryNow,rfl,hk,rfl⟩
    exact if_pos hk

/-- What an event does to a ledger: a callback replies, any other event may post. -/
theorem ledger_next (hw : w.Lawful d) (h : (machine w orderEntry).next s e = some s') (k : Kind) :
    ∃ op, ledger d k s' = (ledger d k s).apply e.time.originCreateTime op ∧
      match d.replies k e.event with
      | some o => op = .reply o
      | none => op = .idle ∨ op = .post := by
  obtain ⟨-,-,hfatal,rfl⟩ := next_eq_some h
  have hr := request_step hw hfatal
  simp only [ledger, List.filterMap_cons, snapshot_entry]
  cases hk : d.replies k e.event with
  | some o =>
    obtain ⟨job,response,retryNow,he,hkind,-⟩ := replies_eq_some.mp hk
    rw [he] at hr ⊢
    simp only [Event.reply?, Option.bind_some, hkind] at hr
    refine ⟨.reply o,?_,rfl⟩
    rw [hr, Request.stamps_reply, if_pos rfl]
    cases o <;> rfl
  | none =>
    have hsame : ∀ {r : Request}, r.stamps k = s.request.stamps k →
        ∃ op, (⟨r.stamps k,s.log.filterMap (Entry.snapshot d k)⟩ : Ledger) =
          Ledger.apply e.time.originCreateTime
            ⟨s.request.stamps k,s.log.filterMap (Entry.snapshot d k)⟩ op ∧
          (op = .idle ∨ op = .post) := by
      intro r hrk
      exact ⟨.idle,by rw [hrk]; rfl,.inl rfl⟩
    simp only [Option.bind_none]
    cases hj : e.event.reply?.bind fun x => d.kind x.1.call with
    | some j =>
      rw [hj] at hr
      have hne : k ≠ j := by
        rintro rfl
        cases he : e.event with
        | reply job response retryNow =>
          rw [he] at hj hk
          simp only [Event.reply?, Option.bind_some] at hj
          simp [Downloads.replies, hj] at hk
        | _ => rw [he] at hj; cases hj
      exact hsame (by rw [hr, Request.stamps_reply, if_neg hne])
    | none =>
      rw [hj] at hr
      rcases hr k with hrk | hrk
      · exact hsame hrk
      · exact ⟨.post,by rw [hrk]; rfl,.inr rfl⟩

/-- Requests in flight were sent in the past, and all ledgers are timely. -/
structure Orderly (d : Downloads Call) (s : Streams O D Call) : Prop where
  sent : ∀ job ∈ s.inFlight, job.sent ≤ s.clock
  timely : ∀ k, (ledger d k s).Timely s.clock

omit [DecidableEq Call] in
theorem orderly_create (orderEntry : O) : Orderly d (create orderEntry : Streams O D Call) where
  sent := by simp [create]
  timely k := by
    have h : ledger d k (create orderEntry : Streams O D Call) = ⟨⟨0,0⟩,[]⟩ := by
      simp [ledger, create]
    rw [h]
    exact Ledger.Timely.zero

/-- The snapshot of a callback was asked for before. -/
theorem replies_before (hs : Orderly d s) (h : (machine w orderEntry).next s e = some s')
    {k : Kind} {o : Option ℕ} (hk : d.replies k e.event = some o) :
    Op.Before e.time.originCreateTime (.reply o) := by
  obtain ⟨hclock,henabled,-,-⟩ := next_eq_some h
  obtain ⟨job,response,retryNow,he,-,rfl⟩ := replies_eq_some.mp hk
  rw [he] at henabled
  unfold Downloads.delivered
  cases d.snapshot job.call response with
  | some ds => exact Nat.lt_of_le_of_lt (hs.sent job henabled) hclock
  | none => trivial

theorem preserves_orderly (hw : w.Lawful d) (orderEntry : O) :
    (machine w orderEntry).Preserves (Orderly d) := by
  intro s e s' hs h
  constructor
  · intro job hjob
    obtain ⟨hclock,-,-,rfl⟩ := next_eq_some h
    rcases inFlight_step hjob with hold | hnew
    · exact Nat.le_of_lt (Nat.lt_of_le_of_lt (hs.sent job hold) hclock)
    · exact Nat.le_of_eq hnew
  · intro k
    obtain ⟨op,hop,hcases⟩ := ledger_next hw h k
    have hbefore : op.Before e.time.originCreateTime := by
      cases hk : d.replies k e.event with
      | some o =>
        rw [hk] at hcases
        obtain rfl := hcases
        exact replies_before hs h hk
      | none =>
        rw [hk] at hcases
        rcases hcases with rfl | rfl <;> trivial
    obtain ⟨hclock,-,-,hs'⟩ := next_eq_some h
    have ht := (hs.timely k).apply hclock hbefore
    rw [hop]
    rw [hs']
    exact ht

/-- The log holds what the responses of the order entry dispatched. -/
structure Sound (d : Downloads Call) (I : O → Prop) (s : Streams O D Call) : Prop where
  orderEntry : I s.orderEntry
  log : ∀ x ∈ s.log, x.Sound d

omit [DecidableEq Call] in
theorem sound_create {I : O → Prop} (h : I orderEntry) :
    Sound d I (create orderEntry : Streams O D Call) :=
  ⟨h,fun x hx => by cases hx⟩

theorem orderEntry_step {I : O → Prop} (hw : w.Delivers d I) (t : TraceInfo)
    (event : Event Call Socket Client) (s : Streams O D Call) (h : I s.orderEntry) :
    I (step w t event s).1.orderEntry := by
  cases event with
  | timer timerNow r1 r2 =>
    have ht := hw.timer t timerNow r1 ⟨s.orderEntry,s.request,[]⟩ h
    simp only [step, dropCopyPhase]
    split
    · exact ht
    · exact ht
  | connected => exact hw.connected t ⟨s.orderEntry,s.request,[]⟩ h
  | disconnected => exact hw.disconnected ⟨s.orderEntry,s.request,[]⟩ h
  | client request => exact hw.client request ⟨s.orderEntry,s.request,[]⟩ h
  | reply job response retryNow =>
    exact hw.response t job.call response retryNow ⟨s.orderEntry,s.request,[]⟩ h
  | socket event =>
    simp only [step, dropCopyPhase]
    split
    · exact h
    · exact h

theorem preserves_sound {I : O → Prop} (hw : w.Delivers d I) (orderEntry : O) :
    (machine w orderEntry).Preserves (Sound d I) := by
  intro s e s' hs h
  obtain ⟨-,-,-,rfl⟩ := next_eq_some h
  refine ⟨orderEntry_step hw e.time e.event s hs.orderEntry,?_⟩
  intro x hx
  rcases List.mem_cons.mp hx with rfl | hx
  · intro job response hr ds hds
    cases he : e.event with
    | reply job' response' retryNow =>
      rw [he] at hr
      cases hr
      exact hw.snapshot e.time _ _ _ ⟨s.orderEntry,s.request,[]⟩ hs.orderEntry rfl ds hds
    | _ => rw [he] at hr; cases hr
  · exact hs.log x hx

omit [DecidableEq Call] in
/-- The snapshots of a ledger are the entries of the log that deliver one. -/
theorem exists_snapshot_iff {I : O → Prop} (hs : Sound d I s) {k : Kind} {p : Snapshot → Prop} :
    (∃ y ∈ (ledger d k s).snapshots, p y) ↔
      ∃ x ∈ s.log, ∃ job, x.Delivers d k job ∧ p ⟨job.sent,x.time⟩ := by
  simp only [ledger, List.mem_filterMap]
  constructor
  · rintro ⟨y,⟨x,hx,hxy⟩,hy⟩
    obtain ⟨job,hjob,rfl⟩ := (Entry.snapshot_eq_some (hs.log x hx)).mp hxy
    exact ⟨x,hx,job,hjob,hy⟩
  · rintro ⟨x,hx,job,hjob,hy⟩
    exact ⟨_,⟨x,hx,(Entry.snapshot_eq_some (hs.log x hx)).mpr ⟨job,hjob,rfl⟩⟩,hy⟩

/-- When the download `k` completes, a snapshot has been dispatched for a REST request that
was sent at or after the download was asked for. -/
def Fresh (d : Downloads Call) (k : Kind) (s s' : Streams O D Call) : Prop :=
  ¬ (s.request.stamps k).completed → (s'.request.stamps k).completed →
    ∃ x ∈ s'.log, ∃ job, x.Delivers d k job ∧ (s'.request.stamps k).request ≤ job.sent

/-- The same, where the snapshot is the one just dispatched. -/
def FreshNow (d : Downloads Call) (k : Kind) (s s' : Streams O D Call) : Prop :=
  ¬ (s.request.stamps k).completed → (s'.request.stamps k).completed →
    ∃ x ∈ s'.log, x.time = s'.clock ∧
      ∃ job, x.Delivers d k job ∧ (s'.request.stamps k).request ≤ job.sent

/-- A download that was asked for and completed has had a snapshot dispatched since. -/
def Honest (d : Downloads Call) (k : Kind) (s : Streams O D Call) : Prop :=
  0 < (s.request.stamps k).request → (s.request.stamps k).completed →
    ∃ x ∈ s.log, (∃ job, x.Delivers d k job) ∧ (s.request.stamps k).request ≤ x.time

/-- A callback of the download `k` finds it completed, or delivers a snapshot whose REST
request was sent at or after the download was asked for. -/
def FreshReply (d : Downloads Call) (k : Kind) (s : Streams O D Call)
    (event : Event Call Socket Client) : Prop :=
  ∀ job response retryNow, event = .reply job response retryNow → d.kind job.call = some k →
    (s.request.stamps k).completed ∨
      ((d.snapshot job.call response).isSome ∧ (s.request.stamps k).request ≤ job.sent)

/-- A callback that delivers no snapshot of the download `k` finds it completed, or never
asked for. -/
def HonestReply (d : Downloads Call) (k : Kind) (s : Streams O D Call)
    (event : Event Call Socket Client) : Prop :=
  ∀ job response retryNow, event = .reply job response retryNow → d.kind job.call = some k →
    d.snapshot job.call response = none →
      (s.request.stamps k).request = 0 ∨ (s.request.stamps k).completed

omit [DecidableEq Call] in
theorem freshReply_iff {k : Kind} {event : Event Call Socket Client} :
    FreshReply d k s event ↔ ∀ o, d.replies k event = some o → (ledger d k s).FreshReply o := by
  constructor
  · intro h o ho
    obtain ⟨job,response,retryNow,he,hk,rfl⟩ := replies_eq_some.mp ho
    have hr := h job response retryNow he hk
    unfold Downloads.delivered
    cases hd : d.snapshot job.call response with
    | none => rw [hd] at hr; exact hr.resolve_right (by simp)
    | some ds => rw [hd] at hr; exact hr.imp_right And.right
  · intro h job response retryNow he hk
    have hr := h _ (replies_eq_some.mpr ⟨job,response,retryNow,he,hk,rfl⟩)
    unfold Downloads.delivered at hr
    cases hd : d.snapshot job.call response with
    | none => rw [hd] at hr; exact .inl hr
    | some ds => rw [hd] at hr; exact hr.imp_right fun hle => ⟨rfl,hle⟩

omit [DecidableEq Call] in
theorem honestReply_iff {k : Kind} {event : Event Call Socket Client} :
    HonestReply d k s event ↔ ∀ o, d.replies k event = some o → (ledger d k s).HonestReply o := by
  constructor
  · intro h o ho
    obtain ⟨job,response,retryNow,he,hk,rfl⟩ := replies_eq_some.mp ho
    unfold Downloads.delivered
    cases hd : d.snapshot job.call response with
    | none => exact h job response retryNow he hk hd
    | some ds => trivial
  · intro h job response retryNow he hk hd
    have hr := h _ (replies_eq_some.mpr ⟨job,response,retryNow,he,hk,rfl⟩)
    unfold Downloads.delivered at hr
    rw [hd] at hr
    exact hr

theorem fresh_next_iff {I : O → Prop} (hw : w.Lawful d) (hs : Orderly d s) (hs' : Sound d I s')
    (h : (machine w orderEntry).next s e = some s') (k : Kind) :
    Fresh d k s s' ↔ FreshReply d k s e.event := by
  obtain ⟨op,hop,hcases⟩ := ledger_next hw h k
  obtain ⟨hclock,-⟩ := next_eq_some h
  have hiff : (ledger d k s).Fresh (ledger d k s') ↔ Fresh d k s s' := by
    simp only [Ledger.Fresh, exists_snapshot_iff hs']
    rfl
  rw [← hiff,hop,freshReply_iff]
  cases hk : d.replies k e.event with
  | some o =>
    rw [hk] at hcases
    obtain rfl := hcases
    simpa using Ledger.fresh_reply_iff (hs.timely k) hclock o
  | none =>
    rw [hk] at hcases
    rcases hcases with rfl | rfl
    · simpa using Ledger.fresh_idle _ _
    · simpa using Ledger.fresh_post (hs.timely k) hclock

theorem freshNow_iff {I : O → Prop} (hw : w.Lawful d) (hs : Orderly d s) (hs' : Sound d I s')
    (h : (machine w orderEntry).next s e = some s') (k : Kind) :
    FreshNow d k s s' ↔ Fresh d k s s' := by
  obtain ⟨op,hop,-⟩ := ledger_next hw h k
  obtain ⟨hclock,-,-,hs₂⟩ := next_eq_some h
  have ht : s'.clock = e.time.originCreateTime := by rw [hs₂]
  have hnow : (ledger d k s).FreshAt s'.clock (ledger d k s') ↔ FreshNow d k s s' := by
    simp only [Ledger.FreshAt, exists_snapshot_iff hs']
    constructor
    · intro hf hn hc
      obtain ⟨x,hx,job,hjob,htime,hsent⟩ := hf hn hc
      exact ⟨x,hx,htime,job,hjob,hsent⟩
    · intro hf hn hc
      obtain ⟨x,hx,htime,job,hjob,hsent⟩ := hf hn hc
      exact ⟨x,hx,job,hjob,htime,hsent⟩
  have hiff : (ledger d k s).Fresh (ledger d k s') ↔ Fresh d k s s' := by
    simp only [Ledger.Fresh, exists_snapshot_iff hs']
    rfl
  rw [← hnow, ← hiff, ht, hop]
  exact Ledger.freshAt_apply_iff (hs.timely k) hclock op

omit [DecidableEq Call] in
theorem honest_iff {I : O → Prop} (hs : Sound d I s) (k : Kind) :
    (ledger d k s).Honest ↔ Honest d k s := by
  have h := exists_snapshot_iff (k := k) (p := fun y => (s.request.stamps k).request ≤ y.time) hs
  simp only [Ledger.Honest, Honest]
  constructor
  · intro hh h0 hc
    obtain ⟨x,hx,job,hjob,hle⟩ := h.mp (hh h0 hc)
    exact ⟨x,hx,⟨job,hjob⟩,hle⟩
  · intro hh h0 hc
    obtain ⟨x,hx,⟨job,hjob⟩,hle⟩ := hh h0 hc
    exact h.mpr ⟨x,hx,job,hjob,hle⟩

theorem honest_next_iff {I : O → Prop} (hw : w.Lawful d) (hs : Orderly d s) (hI : Sound d I s)
    (hI' : Sound d I s') (h : (machine w orderEntry).next s e = some s') {k : Kind}
    (hQ : Honest d k s) : Honest d k s' ↔ HonestReply d k s e.event := by
  obtain ⟨op,hop,hcases⟩ := ledger_next hw h k
  obtain ⟨hclock,-⟩ := next_eq_some h
  rw [← honest_iff hI] at hQ
  rw [← honest_iff hI',hop,honestReply_iff]
  cases hk : d.replies k e.event with
  | some o =>
    rw [hk] at hcases
    obtain rfl := hcases
    simpa using Ledger.honest_reply_iff (hs.timely k) hclock hQ o
  | none =>
    rw [hk] at hcases
    rcases hcases with rfl | rfl
    · simpa using Ledger.honest_idle hQ _
    · simpa using Ledger.honest_post (hs.timely k) hclock

/-- The invariant of runs: timely ledgers and a sound log. -/
theorem preserves_tidy {I : O → Prop} (hw : w.Lawful d) (hd : w.Delivers d I) (orderEntry : O) :
    (machine w orderEntry).Preserves fun s => Orderly d s ∧ Sound d I s := by
  intro s e s' hs h
  exact ⟨preserves_orderly hw orderEntry s e s' hs.1 h,preserves_sound hd orderEntry s e s' hs.2 h⟩

section
variable {I : O → Prop} (hw : w.Lawful d) (hd : w.Delivers d I) (h0 : I orderEntry)
include hw hd h0

/-- In a run each download completes with a fresh snapshot exactly if each reply is fresh. -/
theorem steps_fresh_iff (k : Kind) (es : List (Timed (Event Call Socket Client))) :
    (machine w orderEntry).Steps (fun s _ s' => Fresh d k s s') (create orderEntry) es ↔
      (machine w orderEntry).Steps (fun s e _ => FreshReply d k s e.event) (create orderEntry) es :=
  Machine.steps_congr (preserves_tidy hw hd orderEntry)
    (fun e _ s s' hs h => fresh_next_iff hw hs.1 (preserves_sound hd orderEntry s e s' hs.2 h) h k)
    ⟨orderly_create orderEntry,sound_create h0⟩

theorem steps_freshNow_iff (k : Kind) (es : List (Timed (Event Call Socket Client))) :
    (machine w orderEntry).Steps (fun s _ s' => FreshNow d k s s') (create orderEntry) es ↔
      (machine w orderEntry).Steps (fun s e _ => FreshReply d k s e.event) (create orderEntry) es := by
  rw [← steps_fresh_iff hw hd h0]
  exact Machine.steps_congr (preserves_tidy hw hd orderEntry)
    (fun e _ s s' hs h => freshNow_iff hw hs.1 (preserves_sound hd orderEntry s e s' hs.2 h) h k)
    ⟨orderly_create orderEntry,sound_create h0⟩

theorem steps_honest_iff (K : Kind → Prop) (es : List (Timed (Event Call Socket Client))) :
    (machine w orderEntry).Steps (fun _ _ s' => ∀ k, K k → Honest d k s') (create orderEntry) es ↔
      (machine w orderEntry).Steps (fun s e _ => ∀ k, K k → HonestReply d k s e.event)
        (create orderEntry) es := by
  refine Machine.steps_iff_steps (preserves_tidy hw hd orderEntry) ?_
    ⟨orderly_create orderEntry,sound_create h0⟩ ?_
  · intro e _ s s' hs hQ h
    have hI' := preserves_sound hd orderEntry s e s' hs.2 h
    exact forall₂_congr fun k hk => honest_next_iff hw hs.1 hs.2 hI' h (hQ k hk)
  · intro k _ hpos
    rw [show (create orderEntry : Streams O D Call).request = Request.empty from rfl] at hpos
    rw [Request.stamps_empty] at hpos
    exact absurd hpos (Nat.lt_irrefl 0)

end
end Streams
end RoqBinance.Gateway
