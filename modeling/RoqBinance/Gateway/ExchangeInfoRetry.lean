import RoqBinance.Gateway.SymbolTable

/-! A download of the reference data that is repeated after an exception. What an attempt had
entered stays entered, and what it had collected is lost. -/
namespace RoqBinance.Gateway
open Library Protocol.Json

namespace SymbolTable

/-- `Q` holds if the computation ends without an exception. -/
def Completes (Q : Rest.Ctx → Prop) (r : Rest.Result) : Prop := ∀ ctx, r = .ok ctx → Q ctx

theorem Completes.bind {P Q : Rest.Ctx → Prop} {r : Rest.Result} {f : Rest.Ctx → Rest.Result}
    (hr : Completes P r) (hf : ∀ ctx, P ctx → Completes Q (f ctx)) : Completes Q (r.bind f) := by
  intro ctx h
  cases r with
  | ok ctx' => exact hf ctx' (hr ctx' rfl) ctx h
  | error ctx' => cases h

theorem Completes.foldlM {α : Type} {Q : Rest.Ctx → Prop} {f : Rest.Ctx → α → Rest.Result}
    (hf : ∀ ctx x, Q ctx → Completes Q (f ctx x)) (xs : List α) {ctx : Rest.Ctx} (h : Q ctx) :
    Completes Q (xs.foldlM f ctx) := by
  induction xs generalizing ctx with
  | nil => rintro ctx' ⟨⟩; exact h
  | cons x xs ih => exact Completes.bind (hf ctx x h) fun ctx h => ih h

variable (shared : Shared) (streamId : ℕ) (discardSymbol : String → Bool) (maxLengthSymbol : ℕ)

/-- How many dispatches succeed before a symbol is entered that is not one of `all`; the
reference data of a symbol comes before it is entered, its status after that. -/
def dispatchesBefore (all : List String) : List Symbol → ℕ
  | [] => 0
  | item::items =>
    if discardSymbol item.symbol then 1+dispatchesBefore all items
    else if normalizedSymbol item.symbol ∈ all then 2+dispatchesBefore all items
    else 1

/-- What an item can do: its reference data or its status is not dispatched, it is discarded, its
symbol is an old one, or its symbol is entered, after which it is collected or lost. -/
inductive ItemStep (throws : ℕ → Bool) (item : Symbol) (ctx : Rest.Ctx) : Rest.Result → Prop
  | thrown {ctx' : Rest.Ctx} (h : throws ctx.outputs.length = true)
    (hall : ctx'.allSymbols = ctx.allSymbols) : ItemStep throws item ctx (.error ctx')
  | discarded {ctx' : Rest.Ctx} (h : throws ctx.outputs.length = false)
    (hdiscard : discardSymbol item.symbol = true) (hall : ctx'.allSymbols = ctx.allSymbols)
    (hsymbols : ctx'.symbols = ctx.symbols) (hlength : ctx'.outputs.length = ctx.outputs.length+1) :
    ItemStep throws item ctx (.ok ctx')
  | thrownOld {ctx' : Rest.Ctx} (h : throws ctx.outputs.length = false)
    (hdiscard : discardSymbol item.symbol = false)
    (hold : normalizedSymbol item.symbol ∈ ctx.allSymbols)
    (hthrows : throws (ctx.outputs.length+1) = true) (hall : ctx'.allSymbols = ctx.allSymbols) :
    ItemStep throws item ctx (.error ctx')
  | old {ctx' : Rest.Ctx} (h : throws ctx.outputs.length = false)
    (hdiscard : discardSymbol item.symbol = false)
    (hold : normalizedSymbol item.symbol ∈ ctx.allSymbols)
    (hthrows : throws (ctx.outputs.length+1) = false) (hall : ctx'.allSymbols = ctx.allSymbols)
    (hsymbols : ctx'.symbols = ctx.symbols) (hlength : ctx'.outputs.length = ctx.outputs.length+2) :
    ItemStep throws item ctx (.ok ctx')
  | lost {ctx' : Rest.Ctx} (h : throws ctx.outputs.length = false)
    (hdiscard : discardSymbol item.symbol = false)
    (hnew : normalizedSymbol item.symbol ∉ ctx.allSymbols)
    (hall : ctx'.allSymbols = ctx.allSymbols ++ [normalizedSymbol item.symbol]) :
    ItemStep throws item ctx (.error ctx')
  | collected {ctx' : Rest.Ctx} (h : throws ctx.outputs.length = false)
    (hdiscard : discardSymbol item.symbol = false)
    (hnew : normalizedSymbol item.symbol ∉ ctx.allSymbols)
    (hall : ctx'.allSymbols = ctx.allSymbols ++ [normalizedSymbol item.symbol])
    (hsymbols : ctx'.symbols = ctx.symbols ++ [normalizedSymbol item.symbol]) :
    ItemStep throws item ctx (.ok ctx')

theorem onSymbol_step (throws : ℕ → Bool) (serverTime : ℕ) (item : Symbol) (ctx : Rest.Ctx) :
    ItemStep discardSymbol throws item ctx
      (Rest.onSymbol shared streamId ⟨discardSymbol,throws,maxLengthSymbol⟩ serverTime ctx item) := by
  unfold Rest.onSymbol Rest.dispatch
  by_cases h : throws ctx.outputs.length = true
  · simp only [if_pos h]
    exact .thrown h rfl
  · have h' := Bool.eq_false_iff.mpr h
    simp only [if_neg h, Except.bind]
    by_cases hdiscard : discardSymbol item.symbol = true
    · simp only [if_pos hdiscard]
      exact .discarded h' hdiscard rfl rfl (by simp)
    · have hdiscard' := Bool.eq_false_iff.mpr hdiscard
      simp only [if_neg hdiscard, Rest.enter]
      by_cases hold : normalizedSymbol item.symbol ∈ ctx.allSymbols
      · simp only [if_pos hold, List.length_append, List.length_singleton]
        by_cases hthrows : throws (ctx.outputs.length+1) = true
        · simp only [if_pos hthrows]
          exact .thrownOld h' hdiscard' hold hthrows rfl
        · simp only [if_neg hthrows]
          exact .old h' hdiscard' hold (Bool.eq_false_iff.mpr hthrows) rfl rfl (by simp)
      · simp only [if_neg hold]
        by_cases hlong : maxLengthSymbol < (normalizedSymbol item.symbol).utf8ByteSize
        · simp only [if_pos hlong]
          exact .lost h' hdiscard' hold rfl
        · simp only [if_neg hlong]
          split_ifs
          · exact .lost h' hdiscard' hold rfl
          · exact .collected h' hdiscard' hold rfl rfl

variable (throws : ℕ → Bool) (serverTime : ℕ)

/-- The loop over the items. -/
abbrev loop (items : List Symbol) (ctx : Rest.Ctx) : Rest.Result :=
  items.foldlM (Rest.onSymbol shared streamId ⟨discardSymbol,throws,maxLengthSymbol⟩ serverTime) ctx

theorem loop_cons (item : Symbol) (items : List Symbol) (ctx : Rest.Ctx) :
    loop shared streamId discardSymbol maxLengthSymbol throws serverTime (item::items) ctx =
      (Rest.onSymbol shared streamId ⟨discardSymbol,throws,maxLengthSymbol⟩ serverTime ctx
        item).bind (loop shared streamId discardSymbol maxLengthSymbol throws serverTime items) :=
  rfl

/-- An early exception leaves the set as it was. -/
theorem loop_thrown (items : List Symbol) {ctx : Rest.Ctx} {n : ℕ}
    (hn : n < dispatchesBefore discardSymbol ctx.allSymbols items)
    (h : throws (ctx.outputs.length+n) = true) :
    ∃ ctx', loop shared streamId discardSymbol maxLengthSymbol throws serverTime items ctx =
      .error ctx' ∧ ctx'.allSymbols = ctx.allSymbols := by
  induction items generalizing ctx n with
  | nil => exact absurd hn (Nat.not_lt_zero n)
  | cons item items ih =>
    rw [loop_cons]
    have hstep := onSymbol_step shared streamId discardSymbol maxLengthSymbol throws serverTime item
      ctx
    cases hr : Rest.onSymbol shared streamId ⟨discardSymbol,throws,maxLengthSymbol⟩ serverTime ctx
      item with
    | error ctx' =>
      rw [hr] at hstep
      refine ⟨ctx',rfl,?_⟩
      cases hstep with
      | thrown _ hall => exact hall
      | thrownOld _ _ _ _ hall => exact hall
      | lost h0 hdiscard hnew hall =>
        simp only [dispatchesBefore, hdiscard, hnew, if_false, Bool.false_eq_true] at hn
        obtain rfl : n = 0 := by omega
        rw [Nat.add_zero,h0] at h
        cases h
    | ok ctx' =>
      rw [hr] at hstep
      cases hstep with
      | discarded h0 hdiscard hall hsymbols hlength =>
        rw [dispatchesBefore,if_pos hdiscard] at hn
        obtain ⟨m,rfl⟩ : ∃ m, n = m+1 := by
          cases n with
          | zero => rw [Nat.add_zero,h0] at h; cases h
          | succ m => exact ⟨m,rfl⟩
        rw [← hall] at hn ⊢
        exact ih (n := m) (by omega) (by rw [hlength,← h]; congr 1; omega)
      | old h0 hdiscard hold h1 hall hsymbols hlength =>
        rw [dispatchesBefore,if_neg (by simp [hdiscard]),if_pos hold] at hn
        obtain ⟨m,rfl⟩ : ∃ m, n = m+2 := by
          rcases n with _ | _ | m
          · rw [Nat.add_zero,h0] at h; cases h
          · rw [Nat.zero_add,h1] at h; cases h
          · exact ⟨m,rfl⟩
        rw [← hall] at hn ⊢
        exact ih (n := m) (by omega) (by rw [hlength,← h]; congr 1; omega)
      | collected h0 hdiscard hnew hall hsymbols =>
        simp only [dispatchesBefore, hdiscard, hnew, if_false, Bool.false_eq_true] at hn
        obtain rfl : n = 0 := by omega
        rw [Nat.add_zero,h0] at h
        cases h

/-- A symbol that has been entered stays. -/
theorem loop_keeps {x : String} (items : List Symbol) {ctx : Rest.Ctx} (h : x ∈ ctx.allSymbols) :
    Ends (fun ctx => x ∈ ctx.allSymbols)
      (loop shared streamId discardSymbol maxLengthSymbol throws serverTime items ctx) := by
  refine Ends.foldlM (fun ctx item h => ?_) items h
  have hstep := onSymbol_step shared streamId discardSymbol maxLengthSymbol throws serverTime item ctx
  generalize Rest.onSymbol shared streamId ⟨discardSymbol,throws,maxLengthSymbol⟩ serverTime ctx
    item = r at hstep ⊢
  cases hstep with
  | thrown _ hall => simpa [Ends, hall] using h
  | discarded _ _ hall => simpa [Ends, hall] using h
  | thrownOld _ _ _ _ hall => simpa [Ends, hall] using h
  | old _ _ _ _ hall => simpa [Ends, hall] using h
  | lost _ _ _ hall => simpa [Ends, hall] using Or.inl h
  | collected _ _ _ hall => simpa [Ends, hall] using Or.inl h

/-- Without an early exception the loop ends well, or it has entered a symbol that is new. -/
theorem loop_not_thrown (items : List Symbol) {ctx : Rest.Ctx}
    (h : ∀ n < dispatchesBefore discardSymbol ctx.allSymbols items,
      throws (ctx.outputs.length+n) = false) :
    (∃ ctx', loop shared streamId discardSymbol maxLengthSymbol throws serverTime items ctx =
      .ok ctx') ∨
    ∃ item ∈ items, discardSymbol item.symbol = false ∧
      normalizedSymbol item.symbol ∉ ctx.allSymbols ∧
      Ends (fun ctx => normalizedSymbol item.symbol ∈ ctx.allSymbols)
        (loop shared streamId discardSymbol maxLengthSymbol throws serverTime items ctx) := by
  induction items generalizing ctx with
  | nil => exact .inl ⟨ctx,rfl⟩
  | cons item items ih =>
    rw [loop_cons]
    have hstep := onSymbol_step shared streamId discardSymbol maxLengthSymbol throws serverTime item
      ctx
    generalize Rest.onSymbol shared streamId ⟨discardSymbol,throws,maxLengthSymbol⟩ serverTime ctx
      item = r at hstep ⊢
    have hrest : ∀ {k : ℕ} {ctx' : Rest.Ctx},
        dispatchesBefore discardSymbol ctx.allSymbols (item::items) =
          k+dispatchesBefore discardSymbol ctx.allSymbols items →
        ctx'.allSymbols = ctx.allSymbols → ctx'.outputs.length = ctx.outputs.length+k →
        ∀ n < dispatchesBefore discardSymbol ctx'.allSymbols items,
          throws (ctx'.outputs.length+n) = false := by
      intro k ctx' hk hall hlength n hn
      rw [hall] at hn
      rw [hlength,Nat.add_assoc]
      exact h (k+n) (by omega)
    cases hstep with
    | thrown h0 hall =>
      have hpos : 0 < dispatchesBefore discardSymbol ctx.allSymbols (item::items) := by
        rw [dispatchesBefore]
        split_ifs <;> omega
      have := h 0 hpos
      rw [Nat.add_zero,h0] at this
      cases this
    | thrownOld h0 hdiscard hold h1 hall =>
      have := h 1 (by rw [dispatchesBefore,if_neg (by simp [hdiscard]),if_pos hold]; omega)
      rw [h1] at this
      cases this
    | lost h0 hdiscard hnew hall =>
      exact .inr ⟨item,List.mem_cons_self,hdiscard,hnew,by simp [Except.bind, Ends, hall]⟩
    | collected h0 hdiscard hnew hall hsymbols =>
      refine .inr ⟨item,List.mem_cons_self,hdiscard,hnew,?_⟩
      exact loop_keeps shared streamId discardSymbol maxLengthSymbol throws serverTime items
        (by simp [hall])
    | discarded h0 hdiscard hall hsymbols hlength =>
      rcases ih (hrest (by rw [dispatchesBefore,if_pos hdiscard]) hall hlength) with hok | hnew
      · exact .inl hok
      · obtain ⟨item',hmem,hd,hn,hends⟩ := hnew
        exact .inr ⟨item',List.mem_cons_of_mem item hmem,hd,hall ▸ hn,hends⟩
    | old h0 hdiscard hold h1 hall hsymbols hlength =>
      rcases ih (hrest (by rw [dispatchesBefore,if_neg (by simp [hdiscard]),if_pos hold]) hall
        hlength) with hok | hnew
      · exact .inl hok
      · obtain ⟨item',hmem,hd,hn,hends⟩ := hnew
        exact .inr ⟨item',List.mem_cons_of_mem item hmem,hd,hall ▸ hn,hends⟩

/-- A loop that ends well has entered every symbol, and collected those that were new. -/
theorem loop_completes (items : List Symbol) {ctx : Rest.Ctx} {all : List String}
    (h : ∀ x ∈ ctx.allSymbols, x ∈ all ∨ x ∈ ctx.symbols) :
    Completes (fun ctx' => (∀ x ∈ ctx'.allSymbols, x ∈ all ∨ x ∈ ctx'.symbols) ∧
      (∀ x ∈ ctx.allSymbols, x ∈ ctx'.allSymbols) ∧
      ∀ item ∈ items, discardSymbol item.symbol = false →
        normalizedSymbol item.symbol ∈ ctx'.allSymbols)
      (loop shared streamId discardSymbol maxLengthSymbol throws serverTime items ctx) := by
  induction items generalizing ctx with
  | nil => rintro ctx' ⟨⟩; exact ⟨h,fun x hx => hx,by simp⟩
  | cons item items ih =>
    rw [loop_cons]
    have hstep := onSymbol_step shared streamId discardSymbol maxLengthSymbol throws serverTime item
      ctx
    generalize Rest.onSymbol shared streamId ⟨discardSymbol,throws,maxLengthSymbol⟩ serverTime ctx
      item = r at hstep ⊢
    have hrest : ∀ {ctx' : Rest.Ctx}, (∀ x ∈ ctx'.allSymbols, x ∈ all ∨ x ∈ ctx'.symbols) →
        (∀ x ∈ ctx.allSymbols, x ∈ ctx'.allSymbols) →
        (discardSymbol item.symbol = false → normalizedSymbol item.symbol ∈ ctx'.allSymbols) →
        Completes (fun ctx'' => (∀ x ∈ ctx''.allSymbols, x ∈ all ∨ x ∈ ctx''.symbols) ∧
          (∀ x ∈ ctx.allSymbols, x ∈ ctx''.allSymbols) ∧
          ∀ item' ∈ item::items, discardSymbol item'.symbol = false →
            normalizedSymbol item'.symbol ∈ ctx''.allSymbols)
          (loop shared streamId discardSymbol maxLengthSymbol throws serverTime items ctx') := by
      intro ctx' h' hkeeps hitem ctx'' hr
      obtain ⟨h1,h2,h3⟩ := ih h' ctx'' hr
      refine ⟨h1,fun x hx => h2 x (hkeeps x hx),?_⟩
      intro item' hitem' hd
      rcases List.mem_cons.mp hitem' with rfl | hitem'
      · exact h2 _ (hitem hd)
      · exact h3 item' hitem' hd
    cases hstep with
    | thrown _ _ => rintro ctx' ⟨⟩
    | thrownOld _ _ _ _ _ => rintro ctx' ⟨⟩
    | lost _ _ _ _ => rintro ctx' ⟨⟩
    | discarded h0 hdiscard hall hsymbols hlength =>
      refine hrest ?_ (fun x hx => hall ▸ hx) fun hd => by rw [hdiscard] at hd; cases hd
      rw [hall,hsymbols]
      exact h
    | old h0 hdiscard hold h1 hall hsymbols hlength =>
      refine hrest ?_ (fun x hx => hall ▸ hx) fun _ => hall ▸ hold
      rw [hall,hsymbols]
      exact h
    | collected h0 hdiscard hnew hall hsymbols =>
      refine hrest ?_ (fun x hx => hall ▸ List.mem_append_left _ hx) fun _ => by simp [hall]
      intro x hx
      rw [hall] at hx
      rw [hsymbols]
      rcases List.mem_append.mp hx with hx | hx
      · exact (h x hx).imp_right (List.mem_append_left _)
      · exact .inr (List.mem_append_right _ hx)

theorem bind_eq_ok {r : Rest.Result} {f : Rest.Ctx → Rest.Result} {ctx : Rest.Ctx}
    (h : r.bind f = .ok ctx) : ∃ ctx', r = .ok ctx' ∧ f ctx' = .ok ctx := by
  cases r with
  | ok ctx' => exact ⟨ctx',rfl,h⟩
  | error ctx' => cases h

theorem dispatch_unthrown {output : Rest.Output} {ctx ctx' : Rest.Ctx}
    (h : Rest.dispatch ⟨discardSymbol,throws,maxLengthSymbol⟩ output ctx = .ok ctx') :
    Rest.dispatch ⟨discardSymbol,fun _ => false,maxLengthSymbol⟩ output ctx = .ok ctx' := by
  unfold Rest.dispatch at h ⊢
  split_ifs at h with h0
  exact h

/-- Where nothing has been thrown, the same happens without exceptions. -/
theorem loop_unthrown (items : List Symbol) {ctx ctx' : Rest.Ctx}
    (h : loop shared streamId discardSymbol maxLengthSymbol throws serverTime items ctx = .ok ctx') :
    loop shared streamId discardSymbol maxLengthSymbol (fun _ => false) serverTime items ctx =
      .ok ctx' := by
  induction items generalizing ctx with
  | nil => exact h
  | cons item items ih =>
    rw [loop_cons] at h ⊢
    cases hr : Rest.onSymbol shared streamId ⟨discardSymbol,throws,maxLengthSymbol⟩ serverTime ctx
      item with
    | error c => rw [hr] at h; cases h
    | ok c =>
      rw [hr] at h
      have hitem : Rest.onSymbol shared streamId ⟨discardSymbol,fun _ => false,maxLengthSymbol⟩
          serverTime ctx item = .ok c := by
        obtain ⟨c1,h1,hr⟩ := bind_eq_ok hr
        rw [Rest.onSymbol,dispatch_unthrown discardSymbol maxLengthSymbol throws h1]
        simp only [Except.bind]
        split_ifs at hr ⊢
        · exact hr
        · obtain ⟨c2,h2,hr⟩ := bind_eq_ok hr
          have henter : Rest.enter ⟨discardSymbol,fun _ => false,maxLengthSymbol⟩
            (normalizedSymbol item.symbol) c1 = .ok c2 := h2
          rw [henter]
          exact dispatch_unthrown discardSymbol maxLengthSymbol throws hr
      rw [hitem]
      exact ih h

variable (ack : ExchangeInfoAck)

def completes (s : State) : Bool :=
  (Rest.onExchangeInfoAck shared streamId ⟨discardSymbol,throws,maxLengthSymbol⟩ ack s.limits
    s.allSymbols).isOk

/-- Where the loop starts. -/
def start (s : State) : Rest.Ctx :=
  ⟨ack.rateLimits.foldl Rest.onRateLimitsItem s.limits,s.allSymbols,[],0,[]⟩

theorem loading_loop (s : State) :
    Ends (Loading s.allSymbols) (loop shared streamId discardSymbol maxLengthSymbol throws
      ack.serverTime ack.symbols (start ack s)) :=
  Ends.foldlM (fun _ item => loading_onSymbol shared streamId
    ⟨discardSymbol,throws,maxLengthSymbol⟩ ack.serverTime item) ack.symbols
    ⟨Entered.refl _ _,rfl⟩

/-- What is left of an attempt that fails. -/
theorem attempt_failed {s : State}
    (h : completes shared streamId discardSymbol maxLengthSymbol throws ack s = false) :
    ∃ ctx, loop shared streamId discardSymbol maxLengthSymbol throws ack.serverTime ack.symbols
        (start ack s) = .error ctx ∧
      (onExchangeInfo shared streamId discardSymbol maxLengthSymbol ack throws s).allSymbols =
        ctx.allSymbols ∧
      (onExchangeInfo shared streamId discardSymbol maxLengthSymbol ack throws s).passed =
        s.passed := by
  have hload := loading_loop shared streamId discardSymbol maxLengthSymbol throws ack s
  unfold completes Rest.onExchangeInfoAck at h
  unfold onExchangeInfo Rest.onExchangeInfoAck
  change Except.isOk ((loop shared streamId discardSymbol maxLengthSymbol throws ack.serverTime
    ack.symbols (start ack s)).bind _) = false at h
  cases hr : loop shared streamId discardSymbol maxLengthSymbol throws ack.serverTime ack.symbols
    (start ack s) with
  | error ctx =>
    rw [hr] at hload
    refine ⟨ctx,rfl,?_,?_⟩
    all_goals
      change loop shared streamId discardSymbol maxLengthSymbol throws ack.serverTime ack.symbols
        (start ack s) = _ at hr
      unfold loop start at hr
      rw [hr]
      simp [Except.bind, hload.silent]
  | ok ctx =>
    rw [hr] at h
    simp only [Except.bind] at h
    split_ifs at h <;> cases h

theorem attempt_completed {s : State}
    (h : completes shared streamId discardSymbol maxLengthSymbol throws ack s = true) :
    ∃ ctx, loop shared streamId discardSymbol maxLengthSymbol throws ack.serverTime ack.symbols
        (start ack s) = .ok ctx ∧
      (onExchangeInfo shared streamId discardSymbol maxLengthSymbol ack throws s).allSymbols =
        ctx.allSymbols ∧
      (onExchangeInfo shared streamId discardSymbol maxLengthSymbol ack throws s).passed =
        s.passed ++ ctx.symbols := by
  have hload := loading_loop shared streamId discardSymbol maxLengthSymbol throws ack s
  unfold completes Rest.onExchangeInfoAck at h
  unfold onExchangeInfo Rest.onExchangeInfoAck
  change Except.isOk ((loop shared streamId discardSymbol maxLengthSymbol throws ack.serverTime
    ack.symbols (start ack s)).bind _) = true at h
  cases hr : loop shared streamId discardSymbol maxLengthSymbol throws ack.serverTime ack.symbols
    (start ack s) with
  | error ctx => rw [hr] at h; cases h
  | ok ctx =>
    rw [hr] at hload
    unfold loop start at hr
    refine ⟨ctx,rfl,?_,?_⟩
    · rw [hr]
      simp only [Except.bind]
      split_ifs <;> rfl
    · rw [hr]
      simp only [Except.bind]
      split_ifs with hempty
      · simp [hload.silent, hempty]
      · simp [hload.silent, symbolsOf]

/-- A symbol that is entered and will never be passed on. -/
def Lost (x : String) (s : State) : Prop := x ∈ s.allSymbols ∧ x ∉ s.passed

theorem lost_attempt {x : String} {s : State} (h : Lost x s) :
    Lost x (onExchangeInfo shared streamId discardSymbol maxLengthSymbol ack throws s) := by
  obtain ⟨symbols,hp⟩ :=
    onExchangeInfo_passes shared streamId discardSymbol maxLengthSymbol ack throws s
  refine ⟨hp.entered.keeps x h.1,?_⟩
  rw [hp.passed,List.mem_append,not_or]
  exact ⟨h.2,fun hx => (hp.entered.new x hx).1.2 h.1⟩

/-- The exception comes before a symbol is entered that is new. -/
def Early (throws : ℕ → Bool) (s : State) : Prop :=
  ∃ n < dispatchesBefore discardSymbol s.allSymbols ack.symbols, throws n = true

/-- An attempt that fails early changes nothing, another one loses a symbol. -/
theorem attempt_early_or_lost {s : State} (hs : ∀ x ∈ s.passed, x ∈ s.allSymbols)
    (hf : completes shared streamId discardSymbol maxLengthSymbol throws ack s = false) :
    (Early discardSymbol ack throws s →
      (onExchangeInfo shared streamId discardSymbol maxLengthSymbol ack throws s).allSymbols =
        s.allSymbols) ∧
    (¬ Early discardSymbol ack throws s → ∃ item ∈ ack.symbols,
      discardSymbol item.symbol = false ∧ Lost (normalizedSymbol item.symbol)
        (onExchangeInfo shared streamId discardSymbol maxLengthSymbol ack throws s)) := by
  obtain ⟨ctx,hr,hall,hpassed⟩ :=
    attempt_failed shared streamId discardSymbol maxLengthSymbol throws ack hf
  constructor
  · rintro ⟨n,hn,ht⟩
    have hstart : throws ((start ack s).outputs.length+n) = true := by simpa [start] using ht
    obtain ⟨ctx',hr',hall'⟩ := loop_thrown shared streamId discardSymbol maxLengthSymbol throws
      ack.serverTime ack.symbols hn hstart
    obtain rfl : ctx' = ctx := Except.error.inj (hr'.symm.trans hr)
    exact hall.trans hall'
  · intro hearly
    have hno : ∀ n < dispatchesBefore discardSymbol (start ack s).allSymbols ack.symbols,
        throws ((start ack s).outputs.length+n) = false := by
      intro n hn
      rw [start,List.length_nil,Nat.zero_add]
      exact Bool.eq_false_iff.mpr fun ht => hearly ⟨n,hn,ht⟩
    rcases loop_not_thrown shared streamId discardSymbol maxLengthSymbol throws ack.serverTime
      ack.symbols hno with ⟨ctx',hok⟩ | ⟨item,hitem,hdiscard,hnew,hends⟩
    · rw [hr] at hok
      cases hok
    · rw [hr] at hends
      refine ⟨item,hitem,hdiscard,?_,?_⟩
      · rw [hall]; exact hends
      · rw [hpassed]; exact fun h => hnew (hs _ h)

/-- The attempts, one after the other, all fail. -/
def Fail : List (ℕ → Bool) → State → State → Prop
  | [], s, s' => s' = s
  | throws::attempts, s, s' =>
    completes shared streamId discardSymbol maxLengthSymbol throws ack s = false ∧
      Fail attempts (onExchangeInfo shared streamId discardSymbol maxLengthSymbol ack throws s) s'

/-- All symbols of the message that are not discarded have been passed on, as an attempt without
exceptions does. -/
structure Recovered (s s' : State) : Prop where
  passed : ∀ item ∈ ack.symbols, discardSymbol item.symbol = false →
    normalizedSymbol item.symbol ∈ s'.passed
  same : s'.allSymbols = (onExchangeInfo shared streamId discardSymbol maxLengthSymbol ack
      (fun _ => false) s).allSymbols ∧
    s'.passed = (onExchangeInfo shared streamId discardSymbol maxLengthSymbol ack
      (fun _ => false) s).passed

theorem lost_fail {x : String} {attempts : List (ℕ → Bool)} {s s' : State}
    (hf : Fail shared streamId discardSymbol maxLengthSymbol ack attempts s s') (h : Lost x s) :
    Lost x s' := by
  induction attempts generalizing s with
  | nil => rw [hf]; exact h
  | cons throws attempts ih =>
    exact ih hf.2 (lost_attempt shared streamId discardSymbol maxLengthSymbol throws ack h)

/-- As long as the attempts fail early nothing changes, and then a symbol is lost. -/
theorem fail_early_or_lost {attempts : List (ℕ → Bool)} {s s' : State}
    (hs : ∀ x ∈ s.passed, x ∈ s.allSymbols)
    (hf : Fail shared streamId discardSymbol maxLengthSymbol ack attempts s s') :
    ((∀ failed ∈ attempts, Early discardSymbol ack failed s) ∧
      s'.allSymbols = s.allSymbols ∧ s'.passed = s.passed) ∨
    ((¬ ∀ failed ∈ attempts, Early discardSymbol ack failed s) ∧
      ∃ item ∈ ack.symbols, discardSymbol item.symbol = false ∧
        Lost (normalizedSymbol item.symbol) s') := by
  induction attempts generalizing s with
  | nil => rw [hf]; exact .inl ⟨by simp,rfl,rfl⟩
  | cons throws attempts ih =>
    obtain ⟨hthrows,hrest⟩ := hf
    obtain ⟨hkeep,hlose⟩ := attempt_early_or_lost shared streamId discardSymbol maxLengthSymbol
      throws ack hs hthrows
    by_cases hearly : Early discardSymbol ack throws s
    · have hall := hkeep hearly
      obtain ⟨-,-,-,hpassed⟩ :=
        attempt_failed shared streamId discardSymbol maxLengthSymbol throws ack hthrows
      have hEarly : ∀ failed, Early discardSymbol ack failed
          (onExchangeInfo shared streamId discardSymbol maxLengthSymbol ack throws s) ↔
            Early discardSymbol ack failed s := by
        intro failed
        rw [Early,Early,hall]
      rcases ih (by rw [hall,hpassed]; exact hs) hrest with ⟨h1,h2,h3⟩ | ⟨h1,h2⟩
      · refine .inl ⟨?_,h2.trans hall,h3.trans hpassed⟩
        intro failed hfailed
        rcases List.mem_cons.mp hfailed with rfl | hfailed
        · exact hearly
        · exact (hEarly failed).mp (h1 failed hfailed)
      · refine .inr ⟨fun h => h1 fun failed hfailed => ?_,h2⟩
        exact (hEarly failed).mpr (h failed (List.mem_cons_of_mem throws hfailed))
    · obtain ⟨item,hitem,hdiscard,hlost⟩ := hlose hearly
      exact .inr ⟨fun h => hearly (h throws List.mem_cons_self),item,hitem,hdiscard,
        lost_fail shared streamId discardSymbol maxLengthSymbol ack hrest hlost⟩

theorem dispatch_limits {dispatcher : Rest.Dispatcher} {output : Rest.Output} {ctx ctx' : Rest.Ctx}
    (limits : Limits) (h : Rest.dispatch dispatcher output ctx = .ok ctx') :
    Rest.dispatch dispatcher output {ctx with limits := limits} =
      .ok {ctx' with limits := limits} := by
  unfold Rest.dispatch at h ⊢
  split_ifs at h ⊢
  cases h
  rfl

theorem enter_limits {dispatcher : Rest.Dispatcher} {symbol : String} {ctx ctx' : Rest.Ctx}
    (limits : Limits) (h : Rest.enter dispatcher symbol ctx = .ok ctx') :
    Rest.enter dispatcher symbol {ctx with limits := limits} = .ok {ctx' with limits := limits} := by
  unfold Rest.enter at h ⊢
  split_ifs at h ⊢
  · cases h; rfl
  · cases h; rfl

/-- The limits play no part in the loop. -/
theorem loop_limits (limits : Limits) (items : List Symbol) {ctx ctx' : Rest.Ctx}
    (h : loop shared streamId discardSymbol maxLengthSymbol throws serverTime items ctx = .ok ctx') :
    loop shared streamId discardSymbol maxLengthSymbol throws serverTime items
      {ctx with limits := limits} = .ok {ctx' with limits := limits} := by
  induction items generalizing ctx with
  | nil => cases h; rfl
  | cons item items ih =>
    rw [loop_cons] at h ⊢
    obtain ⟨c,hitem,hrest⟩ := bind_eq_ok h
    have hlimits : Rest.onSymbol shared streamId ⟨discardSymbol,throws,maxLengthSymbol⟩ serverTime
        {ctx with limits := limits} item = .ok {c with limits := limits} := by
      obtain ⟨c1,h1,hitem⟩ := bind_eq_ok hitem
      rw [Rest.onSymbol,dispatch_limits limits h1]
      simp only [Except.bind]
      split_ifs at hitem ⊢
      · cases hitem; rfl
      · obtain ⟨c2,h2,hitem⟩ := bind_eq_ok hitem
        rw [enter_limits limits h2]
        exact dispatch_limits limits hitem
    rw [hlimits]
    exact ih hrest

theorem completes_of_loop {s : State} {ctx : Rest.Ctx}
    (h : loop shared streamId discardSymbol maxLengthSymbol throws ack.serverTime ack.symbols
      (start ack s) = .ok ctx) :
    completes shared streamId discardSymbol maxLengthSymbol throws ack s = true := by
  unfold completes Rest.onExchangeInfoAck
  unfold loop start at h
  rw [h]
  simp only [Except.bind]
  split_ifs <;> rfl

/-- No symbol of the message has been lost before. -/
def Intact (s : State) : Prop :=
  ∀ item ∈ ack.symbols, discardSymbol item.symbol = false → ¬ Lost (normalizedSymbol item.symbol) s

theorem recovered_completed {s s' : State} (hs : Intact discardSymbol ack s)
    (hall : s'.allSymbols = s.allSymbols) (hpassed : s'.passed = s.passed)
    (hc : completes shared streamId discardSymbol maxLengthSymbol throws ack s' = true) :
    Recovered shared streamId discardSymbol maxLengthSymbol ack s
      (onExchangeInfo shared streamId discardSymbol maxLengthSymbol ack throws s') := by
  obtain ⟨ctx,hr,hall',hpassed'⟩ :=
    attempt_completed shared streamId discardSymbol maxLengthSymbol throws ack hc
  have hnone : ∀ x ∈ (start ack s').allSymbols, x ∈ s.allSymbols ∨ x ∈ (start ack s').symbols :=
    fun x hx => .inl (hall ▸ hx)
  have hentered := loop_completes shared streamId discardSymbol maxLengthSymbol throws ack.serverTime
    ack.symbols hnone ctx hr
  have hstart : start ack s = {start ack s' with
      limits := ack.rateLimits.foldl Rest.onRateLimitsItem s.limits} := by
    simp [start, hall]
  have hfirst : loop shared streamId discardSymbol maxLengthSymbol (fun _ => false) ack.serverTime
      ack.symbols (start ack s) = .ok {ctx with
        limits := ack.rateLimits.foldl Rest.onRateLimitsItem s.limits} := by
    rw [hstart]
    exact loop_limits shared streamId discardSymbol maxLengthSymbol _ ack.serverTime _ _
      (loop_unthrown shared streamId discardSymbol maxLengthSymbol throws ack.serverTime _ hr)
  obtain ⟨ctx',hr',hall'',hpassed''⟩ := attempt_completed shared streamId discardSymbol
    maxLengthSymbol (fun _ => false) ack (completes_of_loop shared streamId discardSymbol
      maxLengthSymbol _ ack hfirst)
  obtain rfl := Except.ok.inj (hr'.symm.trans hfirst)
  refine ⟨?_,hall'.trans hall''.symm,?_⟩
  · intro item hitem hdiscard
    rw [hpassed',hpassed,List.mem_append]
    rcases hentered.1 _ (hentered.2.2 item hitem hdiscard) with h | h
    · by_contra hlost
      exact hs item hitem hdiscard ⟨h,fun hp => hlost (.inl hp)⟩
    · exact .inr h
  · rw [hpassed',hpassed'',hpassed]

/-- Repeated attempts recover every symbol if and only if none has been lost before, and each
attempt that failed did so before it had entered one that is new. -/
theorem retries_recover_iff {attempts : List (ℕ → Bool)} {s s' : State}
    (hr : (machine shared streamId discardSymbol maxLengthSymbol).Reachable s)
    (hf : Fail shared streamId discardSymbol maxLengthSymbol ack attempts s s')
    (hc : completes shared streamId discardSymbol maxLengthSymbol throws ack s' = true) :
    Recovered shared streamId discardSymbol maxLengthSymbol ack s
        (onExchangeInfo shared streamId discardSymbol maxLengthSymbol ack throws s') ↔
      Intact discardSymbol ack s ∧ ∀ failed ∈ attempts, Early discardSymbol ack failed s := by
  have hs := consistent_of_reachable shared streamId discardSymbol maxLengthSymbol hr
  have hpasses : ∀ item ∈ ack.symbols, discardSymbol item.symbol = false →
      Lost (normalizedSymbol item.symbol) s' → ¬ Recovered shared streamId discardSymbol
        maxLengthSymbol ack s
          (onExchangeInfo shared streamId discardSymbol maxLengthSymbol ack throws s') := by
    intro item hitem hdiscard hlost hrec
    exact (lost_attempt shared streamId discardSymbol maxLengthSymbol throws ack hlost).2
      (hrec.passed item hitem hdiscard)
  constructor
  · intro hrec
    refine ⟨?_,?_⟩
    · intro item hitem hdiscard hlost
      exact hpasses item hitem hdiscard (lost_fail shared streamId discardSymbol maxLengthSymbol ack
        hf hlost) hrec
    · rcases fail_early_or_lost shared streamId discardSymbol maxLengthSymbol ack hs.entered hf with
        ⟨hearly,-,-⟩ | ⟨-,item,hitem,hdiscard,hlost⟩
      · exact hearly
      · exact absurd hrec (hpasses item hitem hdiscard hlost)
  · rintro ⟨hintact,hearly⟩
    rcases fail_early_or_lost shared streamId discardSymbol maxLengthSymbol ack hs.entered hf with
      ⟨-,hall,hpassed⟩ | ⟨hnot,-⟩
    · exact recovered_completed shared streamId discardSymbol maxLengthSymbol throws ack hintact
        hall hpassed hc
    · exact absurd hearly hnot

/-- A message with one symbol. -/
def oneSymbol : ExchangeInfoAck := ⟨0,[],[⟨"BTCUSDT",.trading,"BTC",8,"USDT",8,[]⟩]⟩

def noSymbols : State := ⟨⟨0,0,0⟩,[],[]⟩

/-- An exception on the reference data is recovered from. -/
theorem retries_recover_early :
    Recovered Shared.sample 1 (fun _ => false) 64 oneSymbol noSymbols
      (onExchangeInfo Shared.sample 1 (fun _ => false) 64 oneSymbol (fun _ => false)
        (onExchangeInfo Shared.sample 1 (fun _ => false) 64 oneSymbol (fun _ => true)
          noSymbols)) := by
  have hf : Fail Shared.sample 1 (fun _ => false) 64 oneSymbol [fun _ => true] noSymbols
      (onExchangeInfo Shared.sample 1 (fun _ => false) 64 oneSymbol (fun _ => true) noSymbols) :=
    ⟨by decide,rfl⟩
  have hr : (machine Shared.sample 1 (fun _ => false) 64).Reachable noSymbols := ⟨[],rfl⟩
  refine (retries_recover_iff Shared.sample 1 (fun _ => false) 64 (fun _ => false) oneSymbol hr hf
    (by decide)).mpr ⟨?_,?_⟩
  · simp [Intact, Lost, noSymbols]
  · intro failed hfailed
    rw [List.mem_singleton.mp hfailed]
    exact ⟨0,by decide,rfl⟩

/-- The status of the symbol cannot be dispatched at first, and the symbol is never passed on. -/
theorem status_thrown_loses_symbol :
    ¬ ∀ (attempts : List (ℕ → Bool)) (s' : State),
      Fail Shared.sample 1 (fun _ => false) 64 oneSymbol attempts noSymbols s' →
      completes Shared.sample 1 (fun _ => false) 64 (fun _ => false) oneSymbol s' = true →
        Recovered Shared.sample 1 (fun _ => false) 64 oneSymbol noSymbols
          (onExchangeInfo Shared.sample 1 (fun _ => false) 64 oneSymbol (fun _ => false) s') := by
  intro h
  have hrec := h [fun n => n == 1] _ ⟨by decide,rfl⟩ (by decide)
  have hpassed := hrec.passed ⟨"BTCUSDT",.trading,"BTC",8,"USDT",8,[]⟩ (by decide) rfl
  revert hpassed
  decide

end SymbolTable
end RoqBinance.Gateway
