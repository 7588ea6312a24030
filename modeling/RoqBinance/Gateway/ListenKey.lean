import RoqBinance.Gateway.Portfolio

/-! The listen key of a portfolio account. The order entry stores each key that it is given, the
user stream connects with the one that it was created with. -/
namespace RoqBinance.Gateway
open Library Streams Protocol.Json

namespace DropCopyPortfolio

def getQuery (self : DropCopyPortfolio) : String := self.query

theorem createQuery_injective {key key' : String} (h : createQuery key = createQuery key') :
    key = key' := by
  have hlist := congrArg String.toList h
  simp only [createQuery, String.toList_append] at hlist
  exact String.toList_inj.mp (List.append_cancel_left hlist)

variable (shared : Shared) (t : TraceInfo)

/-- The query is the same whatever the stream does. -/
theorem kept_query (query : String) :
    Download.Kept (downloadState shared t) (fun ctx => ctx.self.query = query) := by
  intro state ctx h
  cases state with
  | trades =>
    simp only [downloadState]
    split_ifs
    · exact h
    · exact h
  | _ => exact h

theorem query_checkResponse (state : State) (k : Kind) (ctx : Ctx) :
    (checkResponse shared t state k ctx).self.query = ctx.self.query := by
  unfold checkResponse
  split_ifs
  · rfl
  · exact (kept_query shared t _).check state rfl
  · rfl

theorem query_handle (event : Event) (ctx : Ctx) :
    (handle shared t event ctx).self.query = ctx.self.query := by
  cases event with
  | timer refresh =>
    simp only [handle, onTimer]
    split_ifs
    · rw [checkResponseTrades,query_checkResponse,checkResponseOrders,query_checkResponse,
        checkResponseAccount,query_checkResponse]
    · rfl
  | socket event =>
    cases event with
    | ready => exact (kept_query shared t _).begin states rfl
    | disconnected => rfl
    | message message order => cases message <;> rfl

end DropCopyPortfolio

namespace Portfolio
variable {shared : Shared} {streamId dropCopyStreamId : ℕ} {account : String}

/-- The user stream, once it exists, will connect with the key that is stored. -/
def FollowsKey (s : State) : Prop :=
  ∀ dropCopy, s.dropCopy = some dropCopy →
    dropCopy.getQuery = DropCopyPortfolio.createQuery s.orderEntry.listenKey

/-- There is no user stream only as long as there is no key. -/
def Keyless (s : State) : Prop := s.dropCopy = none → s.orderEntry.listenKey = ""

/-- A listen key that arrives when there is a user stream is the one that is stored. -/
def SameKey (s : State) (event : Event) : Prop :=
  ∀ job response retryNow, event = .reply job response retryNow → job.call = .listenKey →
    s.dropCopy.isSome → ∀ ack, (classify Body.listenKeyAck response).value = some ack →
      ack.listenKey = s.orderEntry.listenKey

/-- What an event that brings no key does to the keys. -/
structure Quiet (s s' : State) : Prop where
  listenKey : s'.orderEntry.listenKey = s.orderEntry.listenKey
  query : s'.dropCopy.map (·.query) = s.dropCopy.map (·.query)

namespace Quiet
variable {s s' s'' : State}

theorem trans (h : Quiet s s') (h' : Quiet s' s'') : Quiet s s'' :=
  ⟨h'.listenKey.trans h.listenKey,h'.query.trans h.query⟩

theorem followsKey (h : Quiet s s') (hs : FollowsKey s) : FollowsKey s' := by
  intro dropCopy hd
  have hq := h.query
  rw [hd,Option.map_some] at hq
  obtain ⟨dropCopy',hd',hquery⟩ := Option.map_eq_some_iff.mp hq.symm
  rw [h.listenKey,← hs dropCopy' hd']
  exact hquery.symm

theorem keyless (h : Quiet s s') (hs : Keyless s) : Keyless s' := by
  intro hd
  have hq := h.query
  rw [hd,Option.map_none,eq_comm,Option.map_eq_none_iff] at hq
  rw [h.listenKey]
  exact hs hq

end Quiet

theorem quiet_orderEntryPhase (shared : Shared) (dropCopyStreamId : ℕ) (t : TraceInfo)
    (f : OrderEntryPortfolio.Ctx → OrderEntryPortfolio.Ctx) (s : State)
    (hf : OrderEntryPortfolio.keyView (f ⟨s.orderEntry,s.request,[]⟩) =
      OrderEntryPortfolio.keyView ⟨s.orderEntry,s.request,[]⟩) :
    Quiet s (orderEntryPhase (wiring shared dropCopyStreamId) t f s).1 := by
  have hkeys : listenKeyUpdates (f ⟨s.orderEntry,s.request,[]⟩).outputs = [] :=
    congrArg (·.2.2) hf
  refine ⟨congrArg (·.2.1) hf,?_⟩
  simp only [orderEntryPhase, hkeys, List.foldl_nil]

theorem quiet_dropCopyPhase (shared : Shared) (t : TraceInfo) (event : DropCopyPortfolio.Event)
    (s : State) :
    Quiet s (dropCopyPhase (DropCopyPortfolio.handle shared t event) s).1 := by
  unfold dropCopyPhase
  cases hd : s.dropCopy with
  | none => exact ⟨rfl,rfl⟩
  | some dropCopy =>
    have hq := DropCopyPortfolio.query_handle shared t event ⟨dropCopy,s.request,[]⟩
    refine ⟨rfl,?_⟩
    rw [hd,Option.map_some,Option.map_some]
    exact congrArg some hq

/-- The state of the order entry and of the user stream when a key has been stored. -/
theorem listenKey_phase (shared : Shared) (dropCopyStreamId : ℕ) (t : TraceInfo)
    (ack : ListenKeyAck) (s : State) :
    let s' := (orderEntryPhase (wiring shared dropCopyStreamId) t
      (fun ctx => OrderEntryPortfolio.sequencer
        (Download.check OrderEntryPortfolio.downloadState .listenKey)
        (OrderEntryPortfolio.onListenKeyAck shared t ack ctx)) s).1
    s'.orderEntry.listenKey = ack.listenKey ∧
      s'.dropCopy =
        if ack.listenKey ≠ s.orderEntry.listenKey ∧ s.orderEntry.listenKey = "" then
          onListenKeyUpdate dropCopyStreamId ⟨s.orderEntry.account,.portfolio,ack.listenKey⟩ s.dropCopy
        else s.dropCopy := by
  obtain ⟨-,hkey,hupdates⟩ :=
    OrderEntryPortfolio.onListenKeyAck_spec shared t ack ⟨s.orderEntry,s.request,[]⟩
  have hview := (OrderEntryPortfolio.keeps_sequencer ((OrderEntryPortfolio.kept_keeps _).check
    .listenKey (Keeps.refl (OrderEntryPortfolio.onListenKeyAck shared t ack
      ⟨s.orderEntry,s.request,[]⟩)))).view
  have hkeep := (congrArg (·.2.1) hview).trans hkey
  have hall := (congrArg (·.2.2) hview).trans hupdates
  refine ⟨hkeep,?_⟩
  simp only [OrderEntryPortfolio.keyView] at hall
  simp only [orderEntryPhase, hall]
  split_ifs
  · rfl
  · rfl

/-- An event other than a successful listen-key response. -/
theorem quiet_step (t : TraceInfo) {event : Event} (s : State)
    (hevent : ∀ job response retryNow, event = .reply job response retryNow →
      job.call = .listenKey → (classify Body.listenKeyAck response).value = none) :
    Quiet s (step (wiring shared dropCopyStreamId) t event s).1 := by
  cases event with
  | timer timerNow r1 r2 =>
    have hkeep := OrderEntryPortfolio.keeps_onTimer shared t r1 ⟨s.orderEntry,s.request,[]⟩
    exact (quiet_orderEntryPhase shared dropCopyStreamId t _ s hkeep.view).trans
      (quiet_dropCopyPhase shared t (.timer r2) _)
  | connected =>
    exact quiet_orderEntryPhase shared dropCopyStreamId t _ s
      (OrderEntryPortfolio.keeps_onConnected _).view
  | disconnected =>
    exact quiet_orderEntryPhase shared dropCopyStreamId t _ s
      (OrderEntryPortfolio.keeps_onDisconnected _).view
  | client request =>
    exact quiet_orderEntryPhase shared dropCopyStreamId t _ s
      (OrderEntryPortfolio.keeps_onRequest shared request _).view
  | socket event => exact quiet_dropCopyPhase shared t (.socket event) s
  | reply job response retryNow =>
    have hphase := fun h => quiet_orderEntryPhase shared dropCopyStreamId t
      (OrderEntryPortfolio.onResponse shared t job.call response retryNow)
      {s with inFlight := s.inFlight.erase job} h
    have herase : Quiet s {s with inFlight := s.inFlight.erase job} := ⟨rfl,rfl⟩
    refine herase.trans (hphase ?_)
    by_cases hcall : job.call = .listenKey
    · have hnone := hevent job response retryNow rfl hcall
      rw [hcall,OrderEntryPortfolio.onResponse]
      rcases OrderEntryPortfolio.getListenKeyAck_cases (t := t) shared response retryNow
        ⟨s.orderEntry,s.request,[]⟩ with ⟨ack,hack,-⟩ | ⟨-,h⟩
      · rw [hnone] at hack; cases hack
      · exact h.view
    · exact (OrderEntryPortfolio.answers_onResponse_key shared hcall response retryNow _).view

/-- A successful listen-key response. -/
theorem key_step (shared : Shared) (dropCopyStreamId : ℕ) (t : TraceInfo)
    {job : Job OrderEntryPortfolio.Call} {response : RestResponse} {ack : ListenKeyAck}
    (retryNow : Bool) (s : State) (hcall : job.call = .listenKey)
    (hack : (classify Body.listenKeyAck response).value = some ack) :
    let s' := (step (wiring shared dropCopyStreamId) t (.reply job response retryNow) s).1
    s'.orderEntry.listenKey = ack.listenKey ∧
      s'.dropCopy =
        if ack.listenKey ≠ s.orderEntry.listenKey ∧ s.orderEntry.listenKey = "" then
          onListenKeyUpdate dropCopyStreamId ⟨s.orderEntry.account,.portfolio,ack.listenKey⟩ s.dropCopy
        else s.dropCopy := by
  have hphase := listenKey_phase shared dropCopyStreamId t ack
    {s with inFlight := s.inFlight.erase job}
  have hresponse : OrderEntryPortfolio.onResponse shared t job.call response retryNow =
      fun ctx => OrderEntryPortfolio.sequencer
        (Download.check OrderEntryPortfolio.downloadState .listenKey)
        (OrderEntryPortfolio.onListenKeyAck shared t ack ctx) := by
    funext ctx
    rw [hcall,OrderEntryPortfolio.onResponse]
    rcases OrderEntryPortfolio.getListenKeyAck_cases (t := t) shared response retryNow ctx with
      ⟨ack',hack',h⟩ | ⟨hnone,-⟩
    · rw [hack] at hack'
      obtain rfl := Option.some.inj hack'
      exact h
    · rw [hack] at hnone; cases hnone
  have hstep : step (wiring shared dropCopyStreamId) t (.reply job response retryNow) s =
      orderEntryPhase (wiring shared dropCopyStreamId) t
        (OrderEntryPortfolio.onResponse shared t job.call response retryNow)
        {s with inFlight := s.inFlight.erase job} := rfl
  rw [hstep,hresponse]
  exact hphase

/-- An event brings a key, or it is quiet. -/
theorem step_cases (shared : Shared) (dropCopyStreamId : ℕ) (t : TraceInfo) (event : Event)
    (s : State) :
    (∃ job response retryNow ack, event = .reply job response retryNow ∧ job.call = .listenKey ∧
      (classify Body.listenKeyAck response).value = some ack) ∨
    ((∀ job response retryNow, event = .reply job response retryNow → job.call = .listenKey →
      (classify Body.listenKeyAck response).value = none) ∧
        Quiet s (step (wiring shared dropCopyStreamId) t event s).1) := by
  by_cases h : ∃ job response retryNow ack, event = .reply job response retryNow ∧
      job.call = .listenKey ∧ (classify Body.listenKeyAck response).value = some ack
  · exact .inl h
  · have hnone : ∀ job response retryNow, event = .reply job response retryNow →
        job.call = .listenKey → (classify Body.listenKeyAck response).value = none := by
      intro job response retryNow he hcall
      rw [Option.eq_none_iff_forall_ne_some]
      intro ack hack
      exact h ⟨job,response,retryNow,ack,he,hcall,hack⟩
    exact .inr ⟨hnone,quiet_step t s hnone⟩

theorem preserves_keyless (shared : Shared) (streamId dropCopyStreamId : ℕ) (account : String) :
    (machine shared streamId dropCopyStreamId account).Preserves Keyless := by
  intro s e s' hs h
  obtain ⟨-,-,-,rfl⟩ := next_eq_some h
  rcases step_cases shared dropCopyStreamId e.time e.event s with
    ⟨job,response,retryNow,ack,he,hcall,hack⟩ | ⟨-,hq⟩
  · rw [he]
    obtain ⟨hkey,hdrop⟩ := key_step shared dropCopyStreamId e.time retryNow s hcall hack
    intro hd
    have hnone := hdrop.symm.trans hd
    cases hs' : s.dropCopy with
    | none =>
      rw [hs',hs hs'] at hnone
      by_cases hempty : ack.listenKey = ""
      · exact hkey.trans hempty
      · rw [if_pos ⟨hempty,rfl⟩] at hnone
        cases hnone
    | some dropCopy =>
      rw [hs'] at hnone
      split_ifs at hnone; cases hnone
  · exact hq.keyless hs

theorem step_followsKey_iff {s s' : State} (e : Timed Event) (hk : Keyless s) (hs : FollowsKey s)
    (h : (machine shared streamId dropCopyStreamId account).next s e = some s') :
    FollowsKey s' ↔ SameKey s e.event := by
  obtain ⟨-,-,-,rfl⟩ := next_eq_some h
  rcases step_cases shared dropCopyStreamId e.time e.event s with
    ⟨job,response,retryNow,ack,he,hcall,hack⟩ | ⟨hnone,hq⟩
  · rw [he]
    obtain ⟨hkey,hdrop⟩ := key_step shared dropCopyStreamId e.time retryNow s hcall hack
    have hsame : SameKey s (.reply job response retryNow) ↔
        (s.dropCopy.isSome → ack.listenKey = s.orderEntry.listenKey) := by
      constructor
      · intro h hsome; exact h job response retryNow rfl hcall hsome ack hack
      · rintro h job' response' retryNow' he' - hsome ack' hack'
        obtain ⟨rfl,rfl,rfl⟩ := Streams.Event.reply.inj he'
        obtain rfl := Option.some.inj (hack.symm.trans hack')
        exact h hsome
    rw [hsame]
    unfold FollowsKey
    simp only [hkey, hdrop]
    cases hs' : s.dropCopy with
    | none =>
      rw [hk hs']
      split_ifs with hnew
      · simp [onListenKeyUpdate, DropCopyPortfolio.create, DropCopyPortfolio.getQuery]
      · simp
    | some dropCopy =>
      have hold := hs dropCopy hs'
      have hsome : (if ack.listenKey ≠ s.orderEntry.listenKey ∧ s.orderEntry.listenKey = "" then
          onListenKeyUpdate dropCopyStreamId ⟨s.orderEntry.account,.portfolio,ack.listenKey⟩
            (some dropCopy)
          else some dropCopy) = some dropCopy := by
        split_ifs <;> rfl
      rw [hsome]
      simp only [Option.some.injEq, forall_eq', hold, Option.isSome_some, forall_const]
      constructor
      · intro h; exact (DropCopyPortfolio.createQuery_injective h).symm
      · intro h; rw [h]
  · have hsame : SameKey s e.event := by
      intro job response retryNow he hcall _ ack hack
      rw [hnone job response retryNow he hcall] at hack
      cases hack
    exact iff_of_true (hq.followsKey hs) hsame

/-- The user stream follows the key all along a run if and only if, while there is a user
stream, no response brings another key. -/
theorem followsKey_iff (shared : Shared) (streamId dropCopyStreamId : ℕ) (account : String)
    (es : List (Timed Event)) :
    (machine shared streamId dropCopyStreamId account).Steps (fun _ _ s' => FollowsKey s')
        (init streamId account) es ↔
      (machine shared streamId dropCopyStreamId account).Steps (fun s e _ => SameKey s e.event)
        (init streamId account) es := by
  refine Machine.steps_iff_steps (preserves_keyless shared streamId dropCopyStreamId account) ?_
    ?_ ?_
  · intro e _ s s' hk hs h
    exact step_followsKey_iff e hk hs h
  · intro _; rfl
  · intro dropCopy hd
    cases hd

/-- The key is refreshed, and the response brings another one. -/
def refreshed : List (Timed Event) :=
  [⟨⟨1,0⟩,.connected⟩,
   ⟨⟨2,0⟩,.reply ⟨.listenKey,1⟩ (.result 200 .success 0
     {Body.unreadable with listenKeyAck := .ok ⟨"first"⟩}) false⟩,
   ⟨⟨2000*10^9,0⟩,.timer 4 true true⟩,
   ⟨⟨2001*10^9,0⟩,.reply ⟨.listenKey,2000*10^9⟩ (.result 200 .success 0
     {Body.unreadable with listenKeyAck := .ok ⟨"second"⟩}) false⟩]

/-- A test for a user stream that has another key. -/
def staleTest (s : State) : Bool :=
  s.dropCopy.any fun dropCopy =>
    decide (dropCopy.getQuery ≠ DropCopyPortfolio.createQuery s.orderEntry.listenKey)

/-- The user stream will connect with the first key. -/
theorem refreshed_key_ignored :
    ¬ ∀ s, (machine Shared.sample 1 2 "A1").Reachable s → FollowsKey s := by
  intro h
  obtain ⟨s,hs,ht⟩ := (machine Shared.sample 1 2 "A1").exists_reachable
    (show ((machine Shared.sample 1 2 "A1").run (init 1 "A1") refreshed).any staleTest = true by
      decide)
  cases hd : s.dropCopy with
  | none => simp [staleTest, hd] at ht
  | some dropCopy =>
    simp only [staleTest, hd, Option.any_some, decide_eq_true_eq] at ht
    exact ht (h s hs dropCopy hd)

end Portfolio
end RoqBinance.Gateway
