import RoqBinance.Gateway.Response

/-! What the handlers of an order entry leave alone: a view `f` of the context, such as the
identity of the stream, and the request, which only the callbacks change. -/
namespace RoqBinance.Gateway

variable {Self Call α : Type}

/-- The view and the request are left alone. -/
structure Keeps (f : Context Self Call → α) (ctx ctx' : Context Self Call) : Prop where
  view : f ctx' = f ctx
  request : ctx'.request = ctx.request

/-- The view is left alone, and unless the process has ended there has been a reply to the
download `o`, if any. -/
structure Answers (f : Context Self Call → α) (t : TraceInfo) (o : Option Kind)
    (ctx ctx' : Context Self Call) : Prop where
  view : f ctx' = f ctx
  request : ctx'.outputs.any Output.isFatal = true ∨
    ctx'.request = match o with
      | some k => ctx.request.reply k t.originCreateTime
      | none => ctx.request

/-- The view does not depend on the request, and on the outputs by their listen keys only. -/
structure Indifferent (f : Context Self Call → α) : Prop where
  emit : ∀ ctx output, output.listenKey = none → f (ctx.emit output) = f ctx
  reply : ∀ ctx k time, f (ctx.reply k time) = f ctx

theorem Indifferent.self (f : Self → α) :
    Indifferent fun ctx : Context Self Call => f ctx.self := ⟨fun _ _ _ => rfl,fun _ _ _ => rfl⟩

theorem Answers.comp {β : Type} {f : Context Self Call → α} (g : α → β) {t : TraceInfo}
    {o : Option Kind} {ctx ctx' : Context Self Call} (h : Answers f t o ctx ctx') :
    Answers (fun ctx => g (f ctx)) t o ctx ctx' :=
  ⟨congrArg g h.view,h.request⟩

namespace Keeps
variable {f : Context Self Call → α} {ctx ctx' : Context Self Call} {t : TraceInfo}

theorem refl (ctx : Context Self Call) : Keeps f ctx ctx := ⟨rfl,rfl⟩

theorem trans {ctx'' : Context Self Call} (h₁ : Keeps f ctx ctx') (h₂ : Keeps f ctx' ctx'') :
    Keeps f ctx ctx'' :=
  ⟨h₂.view.trans h₁.view,h₂.request.trans h₁.request⟩

theorem comp {β : Type} (h : Keeps f ctx ctx') (g : α → β) :
    Keeps (fun ctx => g (f ctx)) ctx ctx' :=
  ⟨congrArg g h.view,h.request⟩

theorem modify (h : Keeps f ctx ctx') {g : Self → Self} (hg : f (ctx'.modify g) = f ctx') :
    Keeps f ctx (ctx'.modify g) :=
  ⟨hg.trans h.view,h.request⟩

theorem foldl {β : Type} {g : Context Self Call → β → Context Self Call}
    (h : ∀ ctx x, Keeps f ctx (g ctx x)) (xs : List β) (ctx : Context Self Call) :
    Keeps f ctx (xs.foldl g ctx) :=
  List.foldlRecOn xs g (refl ctx) fun ctx' h' x _ => h'.trans (h ctx' x)

theorem answers (h : Keeps f ctx ctx') : Answers f t none ctx ctx' := ⟨h.view,.inr h.request⟩

section
variable (hf : Indifferent f)
include hf

theorem emit (h : Keeps f ctx ctx') {output : Output Call} (ho : output.listenKey = none) :
    Keeps f ctx (ctx'.emit output) :=
  ⟨(hf.emit ctx' output ho).trans h.view,h.request⟩

theorem send (h : Keeps f ctx ctx') (call : Call) : Keeps f ctx (ctx'.send call) := h.emit hf rfl

theorem dispatch (h : Keeps f ctx ctx') (update : Dispatch) : Keeps f ctx (ctx'.dispatch update) :=
  h.emit hf rfl

theorem dispatchAll (h : Keeps f ctx ctx') (updates : List Dispatch) :
    Keeps f ctx (ctx'.dispatchAll updates) := by
  induction updates generalizing ctx' with
  | nil => exact ⟨by simpa [Context.dispatchAll] using h.view,h.request⟩
  | cons update updates ih =>
    have hcons : ctx'.dispatchAll (update::updates) = (ctx'.dispatch update).dispatchAll updates := by
      simp [Context.dispatchAll, Context.dispatch, Context.emit]
    rw [hcons]
    exact ih (h.dispatch hf update)

theorem fatal (h : Keeps f ctx ctx') (o : Option Kind) (text : String) :
    Answers f t o ctx (ctx'.fatal text) :=
  ⟨(h.emit hf rfl).view,.inl (by simp [Output.isFatal])⟩

/-- A download ends with a reply and a change that the view does not see. -/
theorem reply (h : Keeps f ctx ctx') (k : Kind) {g : Self → Self}
    (hg : ∀ ctx, f (ctx.modify g) = f ctx) :
    Answers f t (some k) ctx ((ctx'.reply k t.originCreateTime).modify g) :=
  ⟨((hg _).trans (hf.reply ctx' k _)).trans h.view,
    .inr (congrArg (·.reply k t.originCreateTime) h.request)⟩

theorem wafLimitViolation (shared : Shared) (h : Keeps f ctx ctx') :
    Keeps f ctx (wafLimitViolation shared ctx') := by
  unfold Gateway.wafLimitViolation
  split_ifs
  · exact h.emit hf rfl
  · exact h.emit hf rfl

end
end Keeps

theorem answers_processResponseWith {β : Type} {f : Context Self Call → α} (hf : Indifferent f)
    {t : TraceInfo} {o : Option Kind} {limit : Bool → ℕ → Context Self Call → Context Self Call}
    {decode : Body → Except String β} {response : RestResponse}
    {errorHandler : Origin → RequestStatus → Error → String → Context Self Call → Context Self Call}
    {successHandler : β → Context Self Call → Context Self Call} {ctx : Context Self Call}
    (hlimit : ∀ forbidden retryAfter, Keeps f ctx (limit forbidden retryAfter ctx))
    (herror : ∀ origin status error text ctx', Keeps f ctx ctx' →
      Answers f t o ctx (errorHandler origin status error text ctx'))
    (hsuccess : ∀ value, Answers f t o ctx (successHandler value ctx)) :
    Answers f t o ctx (processResponseWith limit decode response errorHandler successHandler ctx) := by
  exact processResponseWith_cases (Keeps.refl ctx) hlimit herror (fun value _ => hsuccess value)
    fun _ => (Keeps.refl ctx).fatal hf o _

theorem dispatchAll_dispatched {updates : List Dispatch} {ctx : Context Self Call}
    (h : ctx.outputs = []) :
    (ctx.dispatchAll updates).outputs.filterMap Output.dispatched = updates := by
  rw [Context.dispatchAll_outputs,h,List.nil_append,List.filterMap_map]
  exact List.filterMap_some

/-- A loop that dispatches an update for each item that passes a test, under a property `I` of
the stream that it keeps. -/
theorem foldl_dispatched {β : Type} {I : Context Self Call → Prop} {p : β → Bool}
    {g : Context Self Call → β → Context Self Call} {update : β → Dispatch}
    (hI : ∀ ctx x, I ctx → I (g ctx x)) (hskip : ∀ ctx x, p x = false → g ctx x = ctx)
    (htake : ∀ ctx x, I ctx → p x = true →
      (g ctx x).outputs = ctx.outputs ++ [.dispatch (update x)])
    (xs : List β) {ctx : Context Self Call} (h : I ctx) :
    (xs.foldl g ctx).outputs.filterMap Output.dispatched =
      ctx.outputs.filterMap Output.dispatched ++ (xs.filter p).map update := by
  induction xs generalizing ctx with
  | nil => simp
  | cons x xs ih =>
    rw [List.foldl_cons,ih (hI ctx x h)]
    cases hp : p x with
    | false => rw [hskip ctx x hp,List.filter_cons_of_neg (by simp [hp])]
    | true =>
      rw [htake ctx x h hp,List.filter_cons_of_pos hp]
      simp [Output.dispatched]

end RoqBinance.Gateway
