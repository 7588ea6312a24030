import RoqBinance.Gateway.SteadyLinks
import RoqBinance.Library.Conservation
import RoqBinance.Library.Desk

/-! An order entry as the clerk of its downloads: it has at most one of them in progress, and a
timer that finds it free starts the first one that is asked for. -/
namespace RoqBinance.Gateway
open Library

/-- `flag` is whether a download is in progress, `free` whether a timer may start one. A reply
responds to the download `kind` of its request, and ends it where the request `holds` it. -/
structure Clerk (Self Call : Type) where
  kinds : List Kind
  flag : Kind → Self → Bool
  free : Self → Bool
  kind : Call → Option Kind
  holds : Call → Bool

namespace Clerk
variable {Self Call Client : Type} {asks : Kind → Prop} (c : Clerk Self Call)

def asked (request : Request) (k : Kind) : Bool := decide (request.stamps k).pending

/-- The downloads that are asked for, with the one in progress in hand. -/
def desk (self : Self) (request : Request) : Desk Kind :=
  ⟨asked request,c.kinds.find? (c.flag · self)⟩

def replied (call : Call) : Desk.Op Kind :=
  match c.kind call with
  | none => .idle
  | some k => if c.holds call then .finish k else .settle k

def op (self : Self) : Link.Event Call RestReply (Link.Input Client asks) → Desk.Op Kind
  | .disconnected => .drop
  | .reply job _ => c.replied job.call
  | .input (.timer _ refresh) => if refresh && c.free self then .take else .idle
  | .input (.post k _) => .ask k
  | _ => .idle

/-- A timer starts one of these downloads: the stream is free, and one of them is asked for. -/
def starts (ahead : List Kind) (p : Link Self Call × ℕ)
    (e : Timed (Link.Event Call RestReply (Link.Input Client asks))) : ℕ :=
  match e.event with
  | .input (.timer _ refresh) =>
    if (refresh && c.free p.1.self && ahead.any (asked p.1.request)) = true then 1 else 0
  | _ => 0

/-- The reasons for a start: one of these downloads is asked for, or a disconnect breaks one off. -/
def reasons (ahead : List Kind) (_ : Link Self Call × ℕ)
    (e : Timed (Link.Event Call RestReply (Link.Input Client asks))) : ℕ :=
  match e.event with
  | .disconnected => 1
  | .input (.post k _) => if k ∈ ahead then 1 else 0
  | _ => 0

/-- How many of these downloads are asked for and not in progress. -/
def waiting (ahead : List Kind) (s : Link Self Call) : ℕ :=
  (c.desk s.self s.request).waiting ahead

def stamped (time : ℕ) (r : Request) : Desk.Op Kind → Request
  | .ask k => r.post k time
  | .settle k => r.reply k time
  | .finish k => r.reply k time
  | _ => r

def flagged (r : Request) (flag : Kind → Bool) (op : Desk.Op Kind) (k : Kind) : Bool :=
  match op with
  | .finish j => flag k && decide (k ≠ j)
  | .drop => false
  | .take => decide (c.kinds.find? (asked r) = some k)
  | _ => flag k

/-- The handler does this to the request and the flags. -/
structure Follows (t : TraceInfo) (op : Desk.Op Kind) (ctx ctx' : Context Self Call) : Prop where
  request : ctx'.request = stamped t.originCreateTime ctx.request op
  flag : ∀ k, c.flag k ctx'.self = c.flagged ctx.request (c.flag · ctx.self) op k

/-- The handlers work as the clerk does. -/
structure Serves (h : Link.Handlers Self Call RestReply (Link.Input Client asks)) : Prop where
  nodup : c.kinds.Nodup
  idle : ∀ self, c.free self = true → ∀ k, c.flag k self = false
  connected : ∀ t ctx, c.Follows t .idle ctx (h.connected ctx)
  disconnected : ∀ t ctx, c.Follows t .drop ctx (h.disconnected ctx)
  reply : ∀ t call reply self request,
    (h.reply t call reply ⟨self,request,[]⟩).outputs.any Output.isFatal = false →
      c.Follows t (c.replied call) ⟨self,request,[]⟩ (h.reply t call reply ⟨self,request,[]⟩)
  input : ∀ t input self request,
    c.Follows t (c.op self (.input input)) ⟨self,request,[]⟩ (h.input t input ⟨self,request,[]⟩)

/-- At most one download is in progress, and the stamps are not ahead of the clock. -/
structure Tidy (p : Link Self Call × ℕ) : Prop where
  flag : ∀ k, c.flag k p.1.self = decide (c.kinds.find? (c.flag · p.1.self) = some k)
  stamps : ∀ k, (p.1.request.stamps k).request ≤ p.2 ∧ (p.1.request.stamps k).respond ≤ p.2

section
variable {c} {r : Request} {time : ℕ}

theorem inHand_of_idle {self : Self} (h : ∀ k, c.flag k self = false) (r : Request) :
    (c.desk self r).inHand = none := by
  refine List.find?_eq_none.mpr ?_
  intro k _
  simp [h k]

theorem mem_of_inHand {self : Self} {k : Kind} (h : (c.desk self r).inHand = some k) :
    k ∈ c.kinds :=
  List.mem_of_find?_eq_some h

/-- What has been asked for after an operation at a later time. -/
theorem asked_stamped (hr : ∀ k, (r.stamps k).request ≤ time ∧ (r.stamps k).respond ≤ time)
    {now : ℕ} (hnow : time < now) (self : Self) (op : Desk.Op Kind) :
    asked (stamped now r op) = ((c.desk self r).apply c.kinds op).asked := by
  have hpost (k : Kind) : asked (r.post k now) = ((c.desk self r).set k true).asked := by
    funext j
    have hj : (r.stamps j).respond < now := Nat.lt_of_le_of_lt (hr j).2 hnow
    simp only [asked, Request.stamps_post, Desk.set, desk]
    split_ifs
    · exact decide_eq_true hj
    · rfl
  have hreply (k : Kind) : asked (r.reply k now) = ((c.desk self r).set k false).asked := by
    funext j
    have hj : (r.stamps j).request ≤ now := Nat.le_of_lt (Nat.lt_of_le_of_lt (hr j).1 hnow)
    simp only [asked, Request.stamps_reply, Desk.set, desk]
    split_ifs
    · exact decide_eq_false (Nat.not_lt.mpr hj)
    · rfl
  cases op with
  | ask k => exact hpost k
  | settle k => exact hreply k
  | finish k => exact hreply k
  | _ => rfl

theorem stamps_stamped (hr : ∀ k, (r.stamps k).request ≤ time ∧ (r.stamps k).respond ≤ time)
    {now : ℕ} (hnow : time < now) (op : Desk.Op Kind) (k : Kind) :
    ((stamped now r op).stamps k).request ≤ now ∧ ((stamped now r op).stamps k).respond ≤ now := by
  have hk : (r.stamps k).request ≤ now ∧ (r.stamps k).respond ≤ now :=
    ⟨Nat.le_of_lt (Nat.lt_of_le_of_lt (hr k).1 hnow),Nat.le_of_lt (Nat.lt_of_le_of_lt (hr k).2 hnow)⟩
  have hpost (j : Kind) :
      ((r.post j now).stamps k).request ≤ now ∧ ((r.post j now).stamps k).respond ≤ now := by
    rw [Request.stamps_post]
    split_ifs
    · exact ⟨Nat.le_refl now,hk.2⟩
    · exact hk
  have hreply (j : Kind) :
      ((r.reply j now).stamps k).request ≤ now ∧ ((r.reply j now).stamps k).respond ≤ now := by
    rw [Request.stamps_reply]
    split_ifs
    · exact ⟨hk.1,Nat.le_refl now⟩
    · exact hk
  cases op with
  | ask j => exact hpost j
  | settle j => exact hreply j
  | finish j => exact hreply j
  | _ => exact hk

/-- The flags after an operation are those of what is in hand then. -/
theorem flagged_eq {self : Self}
    (htidy : ∀ k, c.flag k self = decide (c.kinds.find? (c.flag · self) = some k))
    {op : Desk.Op Kind} (htake : op = .take → ∀ k, c.flag k self = false) (k : Kind) :
    c.flagged r (c.flag · self) op k =
      decide (((c.desk self r).apply c.kinds op).inHand = some k) := by
  cases op with
  | finish j =>
    have hhand : ((c.desk self r).apply c.kinds (.finish j)).inHand =
        if (c.desk self r).inHand = some j then none else (c.desk self r).inHand := rfl
    have hk : c.flag k self = decide ((c.desk self r).inHand = some k) := htidy k
    rw [flagged,hk,hhand]
    by_cases hj : (c.desk self r).inHand = some j
    · by_cases hkj : k = j
      · simp [hkj, hj]
      · simp [hj, hkj, Ne.symm hkj]
    · by_cases hkj : k = j
      · simp [hkj, hj]
      · simp [hj, hkj]
  | take =>
    have hnone := inHand_of_idle (htake rfl) r
    simp only [flagged, Desk.apply, hnone, Option.none_or]
    rfl
  | drop => rfl
  | _ => exact htidy k

/-- Only what is listed is taken in hand. -/
theorem mem_of_apply {self : Self} {op : Desk.Op Kind} {k : Kind}
    (h : ((c.desk self r).apply c.kinds op).inHand = some k) : k ∈ c.kinds := by
  cases op with
  | finish j =>
    simp only [Desk.apply] at h
    split_ifs at h
    exact mem_of_inHand h
  | drop => cases h
  | take =>
    rcases Option.or_eq_some_iff.mp h with h | ⟨-,h⟩
    · exact mem_of_inHand h
    · exact List.mem_of_find?_eq_some h
  | _ => exact mem_of_inHand (r := r) h

theorem find?_decide {kinds : List Kind} {o : Option Kind} (ho : ∀ k, o = some k → k ∈ kinds) :
    kinds.find? (fun k => decide (o = some k)) = o := by
  cases o with
  | none => simp
  | some k =>
    have hsome : (kinds.find? fun j => decide (some k = some j)).isSome = true :=
      List.find?_isSome.mpr ⟨k,ho k rfl,decide_eq_true rfl⟩
    obtain ⟨j,hj⟩ := Option.isSome_iff_exists.mp hsome
    have hkj : k = j := by simpa using List.find?_some hj
    rw [hj,hkj]

/-- Of several downloads, each started if nothing is in progress, only the first one is that is
asked for. -/
theorem foldl_start {downloading : Self → Bool} {begin : Kind → Context Self Call → Context Self Call}
    {kinds : List Kind} {ctx : Context Self Call} (hidle : downloading ctx.self = false)
    (hbusy : ∀ k ∈ kinds, asked ctx.request k = true → downloading (begin k ctx).self = true) :
    kinds.foldl (fun ctx k =>
        if (!downloading ctx.self && asked ctx.request k) = true then begin k ctx else ctx) ctx =
      (kinds.find? (asked ctx.request)).elim ctx (begin · ctx) := by
  refine (Desk.foldl_find? (I := fun c => c = ctx) (p := asked ctx.request) ?_ ?_ rfl).trans ?_
  · rintro k - c rfl hk
    simp [hk]
  · rintro k hmem c j rfl hk
    simp [hidle, hk, hbusy k hmem hk]
  · cases hfind : kinds.find? (asked ctx.request) with
    | none => rfl
    | some k =>
      have hk : asked ctx.request k = true := List.find?_some hfind
      simp [hidle, hk]

/-- A reply responds to the download of its request, and no longer holds it. -/
theorem Follows.of_reply {t : TraceInfo} {call : Call} {ctx ctx' : Context Self Call}
    (hrequest : ctx'.request = match c.kind call with
      | some k => ctx.request.reply k t.originCreateTime
      | none => ctx.request)
    (hflag : ∀ k, c.flag k ctx'.self =
      (c.flag k ctx.self && !(c.holds call && decide (c.kind call = some k)))) :
    c.Follows t (c.replied call) ctx ctx' := by
  rw [replied]
  cases hkind : c.kind call with
  | none =>
    rw [hkind] at hrequest
    refine ⟨hrequest,?_⟩
    intro k
    simpa [hkind, flagged] using hflag k
  | some j =>
    rw [hkind] at hrequest
    cases hholds : c.holds call with
    | false =>
      refine ⟨hrequest,?_⟩
      intro k
      simpa [hholds, flagged] using hflag k
    | true =>
      refine ⟨hrequest,?_⟩
      intro k
      simpa [hkind, hholds, flagged, eq_comm] using hflag k

/-- What a handler leaves that does an operation. -/
theorem Follows.tidy {t : TraceInfo} {op : Desk.Op Kind} {ctx ctx' : Context Self Call}
    (h : c.Follows t op ctx ctx')
    (hflag : ∀ k, c.flag k ctx.self = decide (c.kinds.find? (c.flag · ctx.self) = some k))
    (htake : op = .take → ∀ k, c.flag k ctx.self = false)
    (hr : ∀ k, (ctx.request.stamps k).request ≤ time ∧ (ctx.request.stamps k).respond ≤ time)
    (hnow : time < t.originCreateTime) :
    c.desk ctx'.self ctx'.request = (c.desk ctx.self ctx.request).apply c.kinds op ∧
      ∀ k, c.flag k ctx'.self = decide (c.kinds.find? (c.flag · ctx'.self) = some k) := by
  have hflags : (c.flag · ctx'.self) = fun k =>
      decide (((c.desk ctx.self ctx.request).apply c.kinds op).inHand = some k) := by
    funext k
    rw [h.flag k,flagged_eq hflag htake]
  have hfind : c.kinds.find? (c.flag · ctx'.self) =
      ((c.desk ctx.self ctx.request).apply c.kinds op).inHand := by
    rw [hflags]
    exact find?_decide fun k => mem_of_apply
  constructor
  · rw [desk,h.request,hfind,asked_stamped hr hnow ctx.self]
  · intro k
    rw [hfind]
    exact congrFun hflags k

end

section
variable {c} {h : Link.Handlers Self Call RestReply (Link.Input Client asks)}

theorem Serves.follows (hc : c.Serves h) {t : TraceInfo}
    {event : Link.Event Call RestReply (Link.Input Client asks)} {s : Link Self Call}
    (hno : (Link.handle h t event s).outputs.any Output.isFatal = false) :
    c.Follows t (c.op s.self event) ⟨s.self,s.request,[]⟩ (Link.handle h t event s) := by
  cases event with
  | connected => exact hc.connected t _
  | disconnected => exact hc.disconnected t _
  | reply job reply => exact hc.reply t job.call reply s.self s.request hno
  | input input => exact hc.input t input s.self s.request

theorem Serves.idle_of_take (hc : c.Serves h) {self : Self}
    {event : Link.Event Call RestReply (Link.Input Client asks)} (hop : c.op self event = .take)
    (k : Kind) : c.flag k self = false := by
  refine hc.idle self ?_ k
  cases event with
  | connected => cases hop
  | disconnected => cases hop
  | reply job reply =>
    simp only [op, replied] at hop
    split at hop
    · cases hop
    · split_ifs at hop
  | input input =>
    cases input with
    | client request => cases hop
    | post j hj => cases hop
    | timer timerNow refresh =>
      simp only [op] at hop
      split_ifs at hop with hfree
      exact (Bool.and_eq_true_iff.mp hfree).2

variable {p : Link Self Call × ℕ}
  {e : Timed (Link.Event Call RestReply (Link.Input Client asks))}

theorem takes_eq_starts (hc : c.Serves h) (ahead : List Kind) :
    (c.desk p.1.self p.1.request).takes ahead (c.op p.1.self e.event) = c.starts ahead p e := by
  cases hevent : e.event with
  | connected => simp [starts, op, Desk.takes, hevent]
  | disconnected => simp [starts, op, Desk.takes, hevent]
  | reply job reply =>
    simp only [starts, op, replied, hevent]
    split
    · rfl
    · split_ifs <;> rfl
  | input input =>
    cases input with
    | client request => simp [starts, op, Desk.takes, hevent]
    | post k hk => simp [starts, op, Desk.takes, hevent]
    | timer timerNow refresh =>
      simp only [starts, op, hevent]
      by_cases hfree : (refresh && c.free p.1.self) = true
      · have hidle := hc.idle p.1.self (Bool.and_eq_true_iff.mp hfree).2
        rw [if_pos hfree,hfree,Desk.takes,inHand_of_idle hidle]
        simp [desk]
      · rw [if_neg hfree,Bool.eq_false_iff.mpr hfree]
        rfl

theorem adds_eq_reasons (ahead : List Kind) :
    Desk.adds ahead (c.op p.1.self e.event) = reasons ahead p e := by
  cases hevent : e.event with
  | connected => simp [reasons, op, Desk.adds, hevent]
  | disconnected => simp [reasons, op, Desk.adds, hevent]
  | reply job reply =>
    simp only [reasons, op, replied, hevent]
    split
    · rfl
    · split_ifs <;> rfl
  | input input =>
    cases input with
    | client request => simp [reasons, op, Desk.adds, hevent]
    | post k hk => simp [reasons, op, Desk.adds, hevent]
    | timer timerNow refresh =>
      simp only [reasons, op, hevent]
      split_ifs <;> rfl

/-- The stream on its connection, with a clock. -/
abbrev machine [DecidableEq Call]
    (h : Link.Handlers Self Call RestReply (Link.Input Client asks)) (self : Self) :
    Machine (Link Self Call × ℕ) (Timed (Link.Event Call RestReply (Link.Input Client asks))) :=
  (Link.machine h self).clocked (·.time.originCreateTime)

variable [DecidableEq Call] {self : Self} {p' : Link Self Call × ℕ}

/-- A step does its operation on the desk. -/
theorem Serves.desk_next (hc : c.Serves h) (htidy : c.Tidy p)
    (hn : (machine h self).next p e = some p') :
    c.desk p'.1.self p'.1.request =
        (c.desk p.1.self p.1.request).apply c.kinds (c.op p.1.self e.event) ∧
      c.Tidy p' := by
  obtain ⟨hclock,hnext,htime⟩ := (Link.machine h self).clocked_next_eq_some.mp hn
  obtain ⟨-,hno,hs'⟩ := Link.next_eq_some hnext
  have hfollows := hc.follows hno
  have hself : p'.1.self = (Link.handle h e.time e.event p.1).self := by rw [hs']; rfl
  have hrequest : p'.1.request = (Link.handle h e.time e.event p.1).request := by rw [hs']; rfl
  obtain ⟨hdesk,hflag⟩ := hfollows.tidy htidy.flag hc.idle_of_take htidy.stamps hclock
  refine ⟨?_,?_,?_⟩
  · rw [hself,hrequest]
    exact hdesk
  · rw [hself]
    exact hflag
  · rw [hrequest,hfollows.request,← htime]
    exact stamps_stamped htidy.stamps hclock (c.op p.1.self e.event)

theorem Serves.preserves (hc : c.Serves h) : (machine h self).Preserves c.Tidy :=
  fun _ _ _ htidy hn => (hc.desk_next htidy hn).2

theorem Serves.amortizes (hc : c.Serves h) {ahead rest : List Kind} (hk : c.kinds = ahead ++ rest) :
    (machine h self).Amortizes c.Tidy (fun p => c.waiting ahead p.1) (c.starts ahead)
      (reasons ahead) := by
  intro p e p' htidy hn
  have hdesk := (hc.desk_next htidy hn).1
  have hstep := Desk.takes_add_waiting_le hc.nodup hk (c.desk p.1.self p.1.request)
    (c.op p.1.self e.event)
  rw [takes_eq_starts hc,adds_eq_reasons,← hdesk] at hstep
  exact hstep

/-- From a state that has been reached, the timers that start one of the first downloads, and
those downloads that wait in the end, have all had their reasons. -/
theorem Serves.run (hc : c.Serves h) (htidy : c.Tidy ((machine h self).init))
    {ahead rest : List Kind} (hk : c.kinds = ahead ++ rest) (hp : (machine h self).Reachable p)
    {es : List (Timed (Link.Event Call RestReply (Link.Input Client asks)))}
    (hr : (machine h self).run p es = some p') :
    (machine h self).total (c.starts ahead) p es + c.waiting ahead p'.1 ≤
      c.waiting ahead p.1 + (machine h self).total (reasons ahead) p es :=
  (hc.amortizes hk).run hc.preserves (hc.preserves.reachable htidy hp) hr

/-- A timer that finds the stream free puts in progress the first download that is asked for,
and no other. Along a run the timers that do so for one of the first downloads, and those of
these downloads that wait in the end, are no more than what waited before, has been asked for or
has been broken off. -/
structure Diligent (c : Clerk Self Call)
    (h : Link.Handlers Self Call RestReply (Link.Input Client asks)) (self : Self) : Prop where
  prompt : ∀ p e p' timerNow, c.free p.1.self = true →
    e.event = .input (.timer timerNow true) → (machine h self).next p e = some p' →
      ∀ k, c.flag k p'.1.self = decide (c.kinds.find? (asked p.1.request) = some k)
  bounded : ∀ ahead rest, c.kinds = ahead ++ rest → ∀ p p' es, (machine h self).Reachable p →
    (machine h self).run p es = some p' →
      (machine h self).total (c.starts ahead) p es + c.waiting ahead p'.1 ≤
        c.waiting ahead p.1 + (machine h self).total (reasons ahead) p es

theorem Serves.diligent {c : Clerk Self Call}
    {h : Link.Handlers Self Call RestReply (Link.Input Client asks)} (hc : c.Serves h) {self : Self}
    (hself : ∀ k, c.flag k self = false) : c.Diligent h self := by
  have htidy : c.Tidy (machine h self).init := by
    refine ⟨?_,?_⟩
    · intro k
      have hnone : c.kinds.find? (c.flag · self) = none := inHand_of_idle hself Request.empty
      simp [machine, Link.machine, Machine.clocked, Link.create, hself k, hnone]
    · intro k
      simp [machine, Link.machine, Machine.clocked, Link.create]
  refine ⟨?_,?_⟩
  · intro p e p' timerNow hfree hevent hn k
    obtain ⟨-,hnext,-⟩ := (Link.machine h self).clocked_next_eq_some.mp hn
    obtain ⟨-,hno,hs'⟩ := Link.next_eq_some hnext
    have hself : p'.1.self = (Link.handle h e.time e.event p.1).self := by rw [hs']; rfl
    rw [hself,(hc.follows hno).flag k,hevent]
    simp [op, hfree, flagged]
  · intro ahead rest hk p p' es hp hr
    exact hc.run htidy hk hp hr

end

end Clerk
end RoqBinance.Gateway
