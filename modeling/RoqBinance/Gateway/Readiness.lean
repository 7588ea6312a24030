import RoqBinance.Gateway.Link

/-! When a stream is ready: the flag that it keeps for itself, the status that it publishes, and
how far its initial download has come. -/
namespace RoqBinance.Gateway
open Library

def Output.announcesReady {Call : Type} : Output Call → Bool
  | dispatch (.streamStatus _ _ status _) => status = .ready
  | _ => false

/-- Where a stream keeps what its readiness depends on, the symbols that it remembers, and the
requests of its initial download. Only a master has an initial download. -/
structure Facet (Self Call State : Type) where
  master : Self → Bool
  ready : Self → Bool
  status : Self → ConnectionStatus
  download : Self → Download State
  symbols : Self → List String
  last : State
  initial : Call → Prop

namespace Facet
variable {Self Call State : Type} (v : Facet Self Call State)

def readiness (self : Self) : Bool × Bool × ConnectionStatus × Download State :=
  (v.master self,v.ready self,v.status self,v.download self)

/-- Not ready by the flag, and not by the status. -/
def Unready (self : Self) : Prop := v.ready self = false ∧ v.status self ≠ .ready

/-- The download has not begun or is in progress and nothing is ready, or it is done on a
connection that is up, and everything is. -/
def Settled (self : Self) (up : Bool) : Prop :=
  (v.Unready self ∧ (v.download self = .idle ∨ Download.Pending v.last (v.download self))) ∨
    (v.download self = .done v.last ∧ v.ready self = true ∧ v.status self = .ready ∧ up = true)

/-- The symbols are only ever added to. -/
structure Grows (before after : Self) : Prop where
  subset : v.symbols before ⊆ v.symbols after
  nodup : (v.symbols before).Nodup → (v.symbols after).Nodup

/-- The readiness is left alone, and nothing is sent unless the stream is ready. -/
structure Quiet (ctx ctx' : Context Self Call) : Prop where
  readiness : v.readiness ctx'.self = v.readiness ctx.self
  grows : v.Grows ctx.self ctx'.self
  outputs : ∃ outputs, ctx'.outputs = ctx.outputs ++ outputs ∧
    ∀ output ∈ outputs, output.announcesReady = false ∧
      (output.sent.isSome = true → v.status ctx.self = .ready)

/-- The stream waits for its initial download, for which it may have sent requests. -/
structure Waits (ctx ctx' : Context Self Call) : Prop where
  unready : v.Unready ctx'.self
  grows : v.Grows ctx.self ctx'.self
  outputs : ∃ outputs, ctx'.outputs = ctx.outputs ++ outputs ∧
    ∀ output ∈ outputs, output.announcesReady = false ∧
      ∀ call, output = .send call → v.initial call

/-- The stream has become ready, and has said so once. -/
structure Enters (ctx ctx' : Context Self Call) : Prop where
  ready : v.ready ctx'.self = true
  status : v.status ctx'.self = .ready
  grows : v.Grows ctx.self ctx'.self
  outputs : ∃ outputs, ctx'.outputs = ctx.outputs ++ outputs ∧
    outputs.countP Output.announcesReady = 1 ∧
      ∀ call, .send call ∈ outputs → v.initial call

def Moves (ctx ctx' : Context Self Call) : Prop :=
  (v.Waits ctx ctx' ∧ Download.Pending v.last (v.download ctx'.self)) ∨
    (v.Enters ctx ctx' ∧ v.download ctx'.self = .done v.last)

/-- The stream is not ready any more; a download that is in progress stays so. -/
structure Drops (ctx ctx' : Context Self Call) : Prop where
  unready : v.Unready ctx'.self
  grows : v.Grows ctx.self ctx'.self
  download : v.download ctx'.self =
    if (v.download ctx.self).downloading then v.download ctx.self else .idle
  outputs : ∃ outputs, ctx'.outputs = ctx.outputs ++ outputs ∧
    ∀ output ∈ outputs, output.announcesReady = false ∧ output.sent = none

/-- What a handler may put out, by the stream before it and the connection in it: it announces
once that the stream is ready, and only when it was not; and whatever it sends it sends when the
download is done on a connection that is up, except for requests of the download itself. -/
structure Checked (before : Self) (up input : Bool) (outputs : List (Output Call)) : Prop where
  once : outputs.countP Output.announcesReady ≤ 1
  asserted : 0 < outputs.countP Output.announcesReady → v.ready before = false
  gated : ∀ call, .send call ∈ outputs →
    (input = false ∧ v.initial call) ∨ (up = true ∧ v.download before = .done v.last)

variable {v}

theorem Grows.refl (self : Self) : v.Grows self self := ⟨List.Subset.refl _,id⟩

theorem Grows.trans {a b c : Self} (hab : v.Grows a b) (hbc : v.Grows b c) : v.Grows a c :=
  ⟨List.Subset.trans hab.subset hbc.subset,fun h => hbc.nodup (hab.nodup h)⟩

theorem Grows.of_eq {self self' : Self} (h : v.symbols self' = v.symbols self) :
    v.Grows self self' := by
  refine ⟨?_,?_⟩
  · rw [h]
    exact List.Subset.refl _
  · rw [h]
    exact id

/-- Another symbol is remembered. -/
theorem Grows.emplace {self self' : Self} {symbol : String}
    (h : v.symbols self' = emplace (v.symbols self) symbol) : v.Grows self self' := by
  unfold Gateway.emplace at h
  split_ifs at h with hm
  · exact Grows.of_eq h
  · refine ⟨?_,?_⟩
    · rw [h]
      exact List.subset_append_left _ _
    · intro hn
      rw [h,List.nodup_append]
      refine ⟨hn,by simp,?_⟩
      intro a ha b hb he
      rw [List.mem_singleton.mp hb] at he
      exact hm (he ▸ ha)

theorem Settled.ready_iff {self : Self} {up : Bool} (h : v.Settled self up) :
    v.ready self = true ↔ v.status self = .ready := by
  rcases h with ⟨⟨hr,hs⟩,-⟩ | ⟨-,hr,hs,-⟩
  · simp [hr, hs]
  · simp [hr, hs]

/-- The status tells that the download is done. -/
theorem Settled.of_status {self : Self} {up : Bool} (h : v.Settled self up)
    (hs : v.status self = .ready) : up = true ∧ v.download self = .done v.last := by
  rcases h with ⟨⟨-,hn⟩,-⟩ | ⟨hd,-,-,hup⟩
  · exact absurd hs hn
  · exact ⟨hup,hd⟩

theorem Settled.congr {self self' : Self} {up : Bool} (h : v.Settled self up)
    (hr : v.readiness self' = v.readiness self) : v.Settled self' up := by
  simp only [readiness, Prod.mk.injEq] at hr
  obtain ⟨-,hready,hstatus,hdownload⟩ := hr
  simpa only [Settled, Unready, hready, hstatus, hdownload] using h

/-- The sequencer waits, or has nothing to do with a reply. -/
theorem Settled.pending_or {self : Self} {up : Bool} (h : v.Settled self up) :
    (v.Unready self ∧ Download.Pending v.last (v.download self)) ∨
      (v.download self).downloading = false := by
  rcases h with ⟨hu,hd | hd⟩ | ⟨hd,-⟩
  · exact .inr (by rw [hd]; rfl)
  · exact .inl ⟨hu,hd⟩
  · exact .inr (by rw [hd]; rfl)

theorem countP_announcesReady_eq_zero {outputs : List (Output Call)}
    (h : ∀ output ∈ outputs, output.announcesReady = false) :
    outputs.countP Output.announcesReady = 0 := by
  rw [List.countP_eq_zero]
  intro output hm
  simp [h output hm]

/-- Nothing is announced. -/
theorem Checked.of_silent {self : Self} {up input : Bool} {outputs : List (Output Call)}
    (h : ∀ output ∈ outputs, output.announcesReady = false)
    (hg : ∀ call, .send call ∈ outputs →
      (input = false ∧ v.initial call) ∨ (up = true ∧ v.download self = .done v.last)) :
    v.Checked self up input outputs := by
  have hnone := countP_announcesReady_eq_zero h
  exact ⟨by omega,by omega,hg⟩

/-- While the connection is down the stream is not ready. -/
theorem Settled.unready {self : Self} (h : v.Settled self false) : v.Unready self ∧
    (v.download self = .idle ∨ Download.Pending v.last (v.download self)) := by
  rcases h with h | ⟨-,-,-,hup⟩
  · exact h
  · cases hup

namespace Quiet
variable {ctx ctx' ctx'' : Context Self Call}

theorem refl (ctx : Context Self Call) : v.Quiet ctx ctx :=
  ⟨rfl,Grows.refl _,[],(List.append_nil _).symm,fun _ ho => by cases ho⟩

theorem master (h : v.Quiet ctx ctx') : v.master ctx'.self = v.master ctx.self :=
  congrArg (fun x => x.1) h.readiness

theorem status (h : v.Quiet ctx ctx') : v.status ctx'.self = v.status ctx.self :=
  congrArg (fun x => x.2.2.1) h.readiness

theorem trans (h₁ : v.Quiet ctx ctx') (h₂ : v.Quiet ctx' ctx'') : v.Quiet ctx ctx'' := by
  obtain ⟨os,hos,ho⟩ := h₁.outputs
  obtain ⟨os',hos',ho'⟩ := h₂.outputs
  refine ⟨h₂.readiness.trans h₁.readiness,h₁.grows.trans h₂.grows,os ++ os',?_,?_⟩
  · rw [hos',hos,List.append_assoc]
  · intro output hm
    rcases List.mem_append.mp hm with hm | hm
    · exact ho output hm
    · exact ⟨(ho' output hm).1,fun hs => h₁.status ▸ (ho' output hm).2 hs⟩

theorem emit (h : v.Quiet ctx ctx') {o : Output Call} (ha : o.announcesReady = false)
    (hs : o.sent = none) : v.Quiet ctx (ctx'.emit o) := by
  refine h.trans ⟨rfl,Grows.refl _,[o],rfl,?_⟩
  intro output hm
  rw [List.mem_singleton.mp hm]
  exact ⟨ha,fun hsome => by rw [hs] at hsome; cases hsome⟩

/-- A request is sent by a stream that is ready. -/
theorem send (h : v.Quiet ctx ctx') (hs : v.status ctx'.self = .ready) (call : Call) :
    v.Quiet ctx (ctx'.send call) := by
  refine h.trans ⟨rfl,Grows.refl _,[.send call],rfl,?_⟩
  intro o hm
  rw [List.mem_singleton.mp hm]
  exact ⟨rfl,fun _ => hs⟩

theorem dispatch (h : v.Quiet ctx ctx') {update : Dispatch}
    (ha : (Output.dispatch update : Output Call).announcesReady = false) :
    v.Quiet ctx (ctx'.dispatch update) := h.emit ha rfl

theorem dispatchAll (h : v.Quiet ctx ctx') {updates : List Dispatch}
    (ha : ∀ update ∈ updates, (Output.dispatch update : Output Call).announcesReady = false) :
    v.Quiet ctx (ctx'.dispatchAll updates) := by
  refine h.trans ⟨rfl,Grows.refl _,updates.map .dispatch,rfl,?_⟩
  intro o hm
  obtain ⟨update,hu,rfl⟩ := List.mem_map.mp hm
  exact ⟨ha update hu,fun hsome => by cases hsome⟩

theorem dispatchMap {α : Type} (h : v.Quiet ctx ctx') (f : α → Dispatch) (xs : List α)
    (hf : ∀ x, (Output.dispatch (f x) : Output Call).announcesReady = false) :
    v.Quiet ctx (ctx'.dispatchAll (xs.map f)) := by
  refine h.dispatchAll ?_
  intro update hu
  obtain ⟨x,-,rfl⟩ := List.mem_map.mp hu
  exact hf x

theorem modify (h : v.Quiet ctx ctx') {g : Self → Self}
    (hr : v.readiness (g ctx'.self) = v.readiness ctx'.self) (hg : v.Grows ctx'.self (g ctx'.self)) :
    v.Quiet ctx (ctx'.modify g) :=
  h.trans ⟨hr,hg,[],(List.append_nil _).symm,fun _ ho => by cases ho⟩

theorem reply (h : v.Quiet ctx ctx') (k : Kind) (time : ℕ) : v.Quiet ctx (ctx'.reply k time) :=
  ⟨h.readiness,h.grows,h.outputs⟩

theorem fatal (h : v.Quiet ctx ctx') (text : String) : v.Quiet ctx (ctx'.fatal text) := h.emit rfl rfl

theorem foldl {α : Type} {f : Context Self Call → α → Context Self Call} {xs : List α}
    (h : v.Quiet ctx ctx') (hf : ∀ c, v.Quiet ctx c → ∀ x, v.Quiet ctx (f c x)) :
    v.Quiet ctx (xs.foldl f ctx') :=
  List.foldlRecOn xs f h fun c hc x _ => hf c hc x

theorem wafLimitViolation (h : v.Quiet ctx ctx') (shared : Shared) :
    v.Quiet ctx (wafLimitViolation shared ctx') := by
  unfold Gateway.wafLimitViolation
  split_ifs
  · exact h.fatal _
  · exact h.emit rfl rfl

end Quiet

/-- Nothing is sent by a stream that is not ready. -/
theorem Waits.of_quiet {ctx ctx' : Context Self Call} (h : v.Quiet ctx ctx')
    (hu : v.Unready ctx.self) : v.Waits ctx ctx' := by
  have hready : v.ready ctx'.self = v.ready ctx.self := congrArg (fun x => x.2.1) h.readiness
  have hstatus := h.status
  obtain ⟨os,hos,ho⟩ := h.outputs
  refine ⟨?_,h.grows,os,hos,?_⟩
  · simpa only [Unready, hready, hstatus] using hu
  · intro output hm
    refine ⟨(ho output hm).1,?_⟩
    rintro call rfl
    exact absurd ((ho _ hm).2 rfl) hu.2

theorem Waits.trans {ctx ctx' ctx'' : Context Self Call} (h₁ : v.Waits ctx ctx')
    (h₂ : v.Waits ctx' ctx'') : v.Waits ctx ctx'' := by
  obtain ⟨os,hos,ho⟩ := h₁.outputs
  obtain ⟨os',hos',ho'⟩ := h₂.outputs
  refine ⟨h₂.unready,h₁.grows.trans h₂.grows,os ++ os',?_,?_⟩
  · rw [hos',hos,List.append_assoc]
  · intro output hm
    rcases List.mem_append.mp hm with hm | hm
    · exact ho output hm
    · exact ho' output hm

theorem Waits.enters {ctx ctx' ctx'' : Context Self Call} (h₁ : v.Waits ctx ctx')
    (h₂ : v.Enters ctx' ctx'') : v.Enters ctx ctx'' := by
  obtain ⟨os,hos,ho⟩ := h₁.outputs
  obtain ⟨os',hos',hcount,ho'⟩ := h₂.outputs
  refine ⟨h₂.ready,h₂.status,h₁.grows.trans h₂.grows,os ++ os',?_,?_,?_⟩
  · rw [hos',hos,List.append_assoc]
  · rw [List.countP_append,countP_announcesReady_eq_zero fun output hm => (ho output hm).1,hcount]
  · intro call hm
    rcases List.mem_append.mp hm with hm | hm
    · exact (ho _ hm).2 call rfl
    · exact ho' call hm

theorem announcesReady_dispatches {updates : List Dispatch}
    (ha : ∀ update ∈ updates, (Output.dispatch update : Output Call).announcesReady = false) :
    ∀ output ∈ updates.map (Output.dispatch : Dispatch → Output Call),
      output.announcesReady = false := by
  intro output hm
  obtain ⟨update,hu,rfl⟩ := List.mem_map.mp hm
  exact ha update hu

theorem Moves.dispatchAll {ctx₀ ctx : Context Self Call} (h : v.Moves ctx₀ ctx)
    {updates : List Dispatch}
    (ha : ∀ update ∈ updates, (Output.dispatch update : Output Call).announcesReady = false) :
    v.Moves ctx₀ (ctx.dispatchAll updates) := by
  have hsilent := announcesReady_dispatches ha
  rcases h with ⟨hw,hd⟩ | ⟨he,hd⟩
  · obtain ⟨os,hos,ho⟩ := hw.outputs
    refine .inl ⟨⟨hw.unready,hw.grows,os ++ updates.map .dispatch,?_,?_⟩,hd⟩
    · rw [Context.dispatchAll_outputs,hos,List.append_assoc]
    · intro output hm
      rcases List.mem_append.mp hm with hm | hm
      · exact ho output hm
      · refine ⟨hsilent output hm,?_⟩
        rintro call rfl
        simp at hm
  · obtain ⟨os,hos,hcount,ho⟩ := he.outputs
    refine .inr ⟨⟨he.ready,he.status,he.grows,os ++ updates.map .dispatch,?_,?_,?_⟩,hd⟩
    · rw [Context.dispatchAll_outputs,hos,List.append_assoc]
    · rw [List.countP_append,hcount,countP_announcesReady_eq_zero hsilent]
    · intro call hm
      exact ho call (by simpa using hm)

/-- The stream has taken over what its sequencer has come to. -/
theorem Moves.of_passed {ctx₀ ctx ctx' : Context Self Call} {d : Download State}
    (h : Download.Passed v.last (v.Waits ctx₀) (v.Enters ctx₀) (d,ctx))
    (hr : v.readiness ctx'.self = (v.master ctx.self,v.ready ctx.self,v.status ctx.self,d))
    (hs : v.symbols ctx'.self = v.symbols ctx.self) (ho : ctx'.outputs = ctx.outputs) :
    v.Moves ctx₀ ctx' := by
  simp only [readiness, Prod.mk.injEq] at hr
  obtain ⟨-,hready,hstatus,hdownload⟩ := hr
  rcases h with ⟨hd,hw⟩ | ⟨hd,he⟩
  · refine .inl ⟨⟨?_,hw.grows.trans (Grows.of_eq hs),ho ▸ hw.outputs⟩,hdownload.symm ▸ hd⟩
    simpa only [Unready, hready, hstatus] using hw.unready
  · exact .inr ⟨⟨hready.trans he.ready,hstatus.trans he.status,he.grows.trans (Grows.of_eq hs),
      ho ▸ he.outputs⟩,hdownload.trans hd⟩

section
variable {self : Self} {request : Request} {ctx : Context Self Call} {up : Bool}

theorem Quiet.settled (h : v.Quiet ⟨self,request,[]⟩ ctx) (hs : v.Settled self up) :
    v.Settled ctx.self up := hs.congr h.readiness

theorem Quiet.checked (h : v.Quiet ⟨self,request,[]⟩ ctx) (hs : v.Settled self up) (input : Bool) :
    v.Checked self up input ctx.outputs := by
  obtain ⟨os,hos,ho⟩ := h.outputs
  rw [hos,List.nil_append]
  refine .of_silent (fun output hm => (ho output hm).1) ?_
  intro call hm
  exact .inr (hs.of_status ((ho _ hm).2 rfl))

theorem Moves.settled (h : v.Moves ⟨self,request,[]⟩ ctx)
    (hup : v.download ctx.self = .done v.last → up = true) : v.Settled ctx.self up := by
  rcases h with ⟨hw,hd⟩ | ⟨he,hd⟩
  · exact .inl ⟨hw.unready,.inr hd⟩
  · exact .inr ⟨hd,he.ready,he.status,hup hd⟩

theorem Moves.grows {ctx₀ : Context Self Call} (h : v.Moves ctx₀ ctx) :
    v.Grows ctx₀.self ctx.self := by
  rcases h with ⟨hw,-⟩ | ⟨he,-⟩
  · exact hw.grows
  · exact he.grows

/-- The assertion on entering the last state holds. -/
theorem Moves.checked (h : v.Moves ⟨self,request,[]⟩ ctx) (hu : v.Unready self) (up : Bool) :
    v.Checked self up false ctx.outputs := by
  rcases h with ⟨hw,-⟩ | ⟨he,-⟩
  · obtain ⟨os,hos,ho⟩ := hw.outputs
    rw [hos,List.nil_append]
    refine .of_silent (fun output hm => (ho output hm).1) ?_
    intro call hm
    exact .inl ⟨rfl,(ho _ hm).2 call rfl⟩
  · obtain ⟨os,hos,hcount,ho⟩ := he.outputs
    rw [hos,List.nil_append]
    exact ⟨by omega,fun _ => hu.1,fun call hm => .inl ⟨rfl,ho call hm⟩⟩

theorem Drops.settled (h : v.Drops ⟨self,request,[]⟩ ctx) (hs : v.Settled self up) :
    v.Settled ctx.self false := by
  refine .inl ⟨h.unready,?_⟩
  rw [h.download]
  rcases hs with ⟨-,hd | hd⟩ | ⟨hd,-⟩
  · simp [hd]
  · rw [if_pos hd.downloading]
    exact .inr hd
  · simp [hd]

theorem Drops.checked (h : v.Drops ⟨self,request,[]⟩ ctx) (up : Bool) :
    v.Checked self up false ctx.outputs := by
  obtain ⟨os,hos,ho⟩ := h.outputs
  rw [hos,List.nil_append]
  refine .of_silent (fun output hm => (ho output hm).1) ?_
  intro call hm
  have hsent := (ho _ hm).2
  cases hsent

end

variable (v) in
/-- The sequencer takes its new state from `f`, and the rest of the stream from what `f` does. -/
structure Sequences (sequencer : (Download State → Context Self Call →
    Download State × Context Self Call) → Context Self Call → Context Self Call) : Prop where
  readiness : ∀ f ctx, v.readiness (sequencer f ctx).self =
    (v.master (f (v.download ctx.self) ctx).2.self,v.ready (f (v.download ctx.self) ctx).2.self,
      v.status (f (v.download ctx.self) ctx).2.self,(f (v.download ctx.self) ctx).1)
  symbols : ∀ f ctx, v.symbols (sequencer f ctx).self =
    v.symbols (f (v.download ctx.self) ctx).2.self
  outputs : ∀ f ctx, (sequencer f ctx).outputs = (f (v.download ctx.self) ctx).2.outputs

namespace Sequences
variable {sequencer : (Download State → Context Self Call → Download State × Context Self Call) →
    Context Self Call → Context Self Call} (h : v.Sequences sequencer)
include h

theorem moves {ctx₀ ctx : Context Self Call}
    {f : Download State → Context Self Call → Download State × Context Self Call}
    (hp : Download.Passed v.last (v.Waits ctx₀) (v.Enters ctx₀) (f (v.download ctx.self) ctx)) :
    v.Moves ctx₀ (sequencer f ctx) :=
  Moves.of_passed (show Download.Passed v.last (v.Waits ctx₀) (v.Enters ctx₀)
    ((f (v.download ctx.self) ctx).1,(f (v.download ctx.self) ctx).2) from hp)
    (h.readiness f ctx) (h.symbols f ctx) (h.outputs f ctx)

/-- There is nothing for the sequencer to do. -/
theorem quiet {ctx₀ ctx : Context Self Call}
    {f : Download State → Context Self Call → Download State × Context Self Call}
    (hq : v.Quiet ctx₀ ctx) (hf : f (v.download ctx.self) ctx = (v.download ctx.self,ctx)) :
    v.Quiet ctx₀ (sequencer f ctx) := by
  refine hq.trans ⟨?_,Grows.of_eq ?_,[],?_,fun _ hm => by cases hm⟩
  · rw [h.readiness,hf]
    rfl
  · rw [h.symbols,hf]
  · rw [h.outputs,hf,List.append_nil]

variable {downloadState : State → Context Self Call → Context Self Call × ℕ} {states : List State}
  (hf : ∀ ctx₀, Download.Finale downloadState v.last (v.Waits ctx₀) (v.Enters ctx₀))
  (hc : Download.Closes v.last states) {self : Self} {request : Request} {up : Bool}
include hf hc

/-- On a new connection the download goes on, or it begins. -/
theorem connected (hs : v.Settled self false) :
    v.Moves ⟨self,request,[]⟩
      (if (v.download self).downloading then sequencer (Download.bump downloadState) ⟨self,request,[]⟩
      else sequencer (fun _ => Download.begin downloadState states) ⟨self,request,[]⟩) := by
  have hw : v.Waits ⟨self,request,[]⟩ ⟨self,request,[]⟩ := .of_quiet (Quiet.refl _) hs.unready.1
  rcases hs.unready.2 with hd | hd
  · rw [if_neg (by simp [hd])]
    exact h.moves ((hf _).begin hc hw)
  · rw [if_pos hd.downloading]
    exact h.moves ((hf _).bump hd hw)

variable [DecidableEq State] {ctx : Context Self Call}

/-- A failure repeats a state of the download that is waited for, and is nothing to another. -/
theorem retry (hs : v.Settled self up) (hq : v.Quiet ⟨self,request,[]⟩ ctx) (now : Bool) {x : State}
    (hx : x ∈ states) :
    (v.Unready self ∧ Download.Pending v.last (v.download ctx.self) ∧
      v.Moves ⟨self,request,[]⟩ (sequencer (Download.retry downloadState states now x) ctx)) ∨
    v.Quiet ⟨self,request,[]⟩ (sequencer (Download.retry downloadState states now x) ctx) := by
  have hdownload : v.download ctx.self = v.download self := congrArg (fun x => x.2.2.2) hq.readiness
  rcases hs.pending_or with ⟨hu,hd⟩ | hd
  · rw [← hdownload] at hd
    exact .inl ⟨hu,hd,h.moves ((hf _).retry hc now hx hd (Waits.of_quiet hq hu))⟩
  · rw [← hdownload] at hd
    exact .inr (h.quiet hq (Download.retry_of_not_downloading downloadState states now x hd ctx))

omit hc in
/-- A success leaves a state of the download that is waited for, and is nothing to another. -/
theorem check (hs : v.Settled self up) (hq : v.Quiet ⟨self,request,[]⟩ ctx) (x : State) :
    (v.Unready self ∧
      v.Moves ⟨self,request,[]⟩ (sequencer (Download.check downloadState x) ctx)) ∨
    v.Quiet ⟨self,request,[]⟩ (sequencer (Download.check downloadState x) ctx) := by
  have hdownload : v.download ctx.self = v.download self := congrArg (fun x => x.2.2.2) hq.readiness
  rcases hs.pending_or with ⟨hu,hd⟩ | hd
  · rw [← hdownload] at hd
    exact .inl ⟨hu,h.moves ((hf _).check x hd (Waits.of_quiet hq hu))⟩
  · rw [← hdownload] at hd
    exact .inr (h.quiet hq (Download.check_of_not_downloading downloadState x hd ctx))

end Sequences
end Facet

namespace Link
variable {Self Call Reply Input State : Type}

/-- A handler is in order, and so is the stream after it unless the process has ended; it forgets
no symbol. -/
def Orderly (v : Facet Self Call State) (I : Self → Prop) (self : Self) (up input : Bool)
    (ctx : Context Self Call) : Prop :=
  v.Checked self up input ctx.outputs ∧
    (ctx.outputs.any Output.isFatal = false →
      v.Settled ctx.self up ∧ v.Grows self ctx.self ∧ I ctx.self)

/-- The handlers are in order wherever the stream is, under a property `I` that they keep. -/
structure Handlers.Steady (h : Handlers Self Call Reply Input) (v : Facet Self Call State)
    (I : Self → Prop) : Prop where
  connected : ∀ self request, v.Settled self false → I self →
    Orderly v I self true false (h.connected ⟨self,request,[]⟩)
  disconnected : ∀ self request up, v.Settled self up → I self →
    Orderly v I self false false (h.disconnected ⟨self,request,[]⟩)
  reply : ∀ t call reply self request up, v.Settled self up → I self →
    (h.succeeds reply = true → up = true) →
    Orderly v I self up false (h.reply t call reply ⟨self,request,[]⟩)
  input : ∀ t input self request up, v.Settled self up → I self →
    Orderly v I self up true (h.input t input ⟨self,request,[]⟩)

/-- The flag and the status say the same, and whatever happens next is in order. -/
structure InStep (v : Facet Self Call State) (h : Handlers Self Call Reply Input)
    (s : Link Self Call) : Prop where
  ready_iff : v.ready s.self = true ↔ v.status s.self = .ready
  checked : ∀ t event, Enabled h s event →
    v.Checked s.self (event.up s.up) event.isInput (handle h t event s).outputs

variable {v : Facet Self Call State} {I : Self → Prop}

section
variable {self : Self} {request : Request} {up : Bool} {ctx : Context Self Call}

theorem Orderly.of_quiet (hs : v.Settled self up) (hi : I ctx.self) (input : Bool)
    (hq : v.Quiet ⟨self,request,[]⟩ ctx) : Orderly v I self up input ctx :=
  ⟨hq.checked hs input,fun _ => ⟨hq.settled hs,hq.grows,hi⟩⟩

theorem Orderly.of_moves (hu : v.Unready self) (hi : I ctx.self)
    (hm : v.Moves ⟨self,request,[]⟩ ctx) (hup : v.download ctx.self = .done v.last → up = true) :
    Orderly v I self up false ctx :=
  ⟨hm.checked hu up,fun _ => ⟨hm.settled hup,hm.grows,hi⟩⟩

/-- The process ends, perhaps after requests of the initial download. -/
theorem Orderly.of_fatal (hf : ctx.outputs.any Output.isFatal = true)
    (h : ∀ output ∈ ctx.outputs, output.announcesReady = false ∧
      ∀ call, output = .send call → v.initial call) : Orderly v I self up false ctx := by
  refine ⟨.of_silent (fun output hm => (h output hm).1) ?_,?_⟩
  · intro call hm
    exact .inl ⟨rfl,(h _ hm).2 call rfl⟩
  · intro hno
    rw [hf] at hno
    cases hno

theorem Orderly.of_drops (hs : v.Settled self up) (hi : I ctx.self)
    (hd : v.Drops ⟨self,request,[]⟩ ctx) : Orderly v I self false false ctx :=
  ⟨hd.checked false,fun _ => ⟨hd.settled hs,hd.grows,hi⟩⟩

end

variable {h : Handlers Self Call Reply Input} {s : Link Self Call}

theorem Handlers.Steady.event (hh : h.Steady v I) (hs : v.Settled s.self s.up) (hi : I s.self)
    {t : TraceInfo} {event : Event Call Reply Input} (he : Enabled h s event) :
    Orderly v I s.self (event.up s.up) event.isInput (handle h t event s) := by
  cases event with
  | connected =>
    have hdown : s.up = false := he
    rw [hdown] at hs
    exact hh.connected s.self s.request hs hi
  | disconnected => exact hh.disconnected s.self s.request s.up hs hi
  | reply job reply =>
    exact hh.reply t job.call reply s.self s.request s.up hs hi fun hr => (he.2 hr).1
  | input input => exact hh.input t input s.self s.request s.up hs hi

theorem Handlers.Steady.preserves [DecidableEq Call] (hh : h.Steady v I) (self : Self) :
    (machine h self).Preserves fun s => v.Settled s.self s.up ∧ I s.self := by
  rintro s e s' ⟨hs,hi⟩ hn
  obtain ⟨he,hf,rfl⟩ := next_eq_some hn
  obtain ⟨hs',-,hi'⟩ := (hh.event hs hi he).2 hf
  exact ⟨hs',hi'⟩

theorem Handlers.Steady.inStep [DecidableEq Call] (hh : h.Steady v I) {self : Self}
    (hs : v.Settled self false) (hi : I self) {s : Link Self Call} (hr : (machine h self).Reachable s) : InStep v h s := by
  obtain ⟨hs',hi'⟩ := (hh.preserves self).reachable ⟨hs,hi⟩ hr
  exact ⟨hs'.ready_iff,fun t event he => (hh.event hs' hi' he).1⟩

end Link
end RoqBinance.Gateway
