import Mathlib
import RoqBinance.Gateway.Rest
import RoqBinance.Library.Machine

/-! The set of all symbols, which a download of the reference data and a client's subscription
both enter, and the symbols that they pass on. -/
namespace RoqBinance.Gateway
open Library Protocol.Json

def LowerCase (symbol : String) : Prop := normalizedSymbol symbol = symbol

instance (symbol : String) : Decidable (LowerCase symbol) :=
  inferInstanceAs (Decidable (normalizedSymbol symbol = symbol))

theorem lowerCase_normalizedSymbol (symbol : String) : LowerCase (normalizedSymbol symbol) := by
  simp [LowerCase, normalizedSymbol, Function.comp_def]

namespace SymbolTable

/-- The shared set, and all symbols of the updates so far. -/
structure State where
  limits : Limits
  allSymbols : List String
  passed : List String
  deriving DecidableEq, Repr

def symbolsOf : Rest.Output → List String
  | .symbolsUpdate symbols => symbols
  | _ => []

/-- The set and the symbols that are new, as the client wrote them. -/
def subscribeItem (p : List String × List String) (item : String) : List String × List String :=
  if item ∈ p.1 then p else (p.1 ++ [item],p.2 ++ [item])

inductive Event
  | exchangeInfo (ack : ExchangeInfoAck) (throws : ℕ → Bool)
  | subscribe (symbols : List String)

variable (shared : Shared) (streamId : ℕ) (discardSymbol : String → Bool) (maxLengthSymbol : ℕ)

def onExchangeInfo (ack : ExchangeInfoAck) (throws : ℕ → Bool) (s : State) : State :=
  match Rest.onExchangeInfoAck shared streamId ⟨discardSymbol,throws,maxLengthSymbol⟩ ack s.limits
    s.allSymbols with
  | .ok ctx => ⟨ctx.limits,ctx.allSymbols,s.passed ++ ctx.outputs.flatMap symbolsOf⟩
  | .error ctx => ⟨ctx.limits,ctx.allSymbols,s.passed ++ ctx.outputs.flatMap symbolsOf⟩

/-- A client's subscription passes on what is new in it. -/
def onSubscribe (symbols : List String) (s : State) : State :=
  let p := symbols.foldl subscribeItem (s.allSymbols,[])
  ⟨s.limits,p.1,s.passed ++ p.2⟩

def next (s : State) : Event → Option State
  | .exchangeInfo ack throws =>
    some (onExchangeInfo shared streamId discardSymbol maxLengthSymbol ack throws s)
  | .subscribe symbols => some (onSubscribe symbols s)

def machine : Machine State Event :=
  ⟨⟨⟨0,0,0⟩,[],[]⟩,next shared streamId discardSymbol maxLengthSymbol⟩

/-- Every symbol is passed on in lower case, and no two are equal up to letter case. -/
structure Normalised (s : State) : Prop where
  lowerCase : ∀ symbol ∈ s.passed, LowerCase symbol
  distinct : (s.passed.map normalizedSymbol).Nodup

/-- Symbols with the property `P` have been entered; some of the new ones are collected. -/
structure Entered (P : String → Prop) (all allSymbols symbols : List String) : Prop where
  keeps : ∀ x ∈ all, x ∈ allSymbols
  added : ∀ x ∈ allSymbols, x ∈ all ∨ P x
  new : ∀ x ∈ symbols, (x ∈ allSymbols ∧ x ∉ all) ∧ P x
  nodup : symbols.Nodup

namespace Entered
variable {P : String → Prop} {all allSymbols symbols : List String} {symbol : String}

theorem refl (P : String → Prop) (all : List String) : Entered P all all [] :=
  ⟨fun _ h => h,fun _ h => .inl h,by simp,List.nodup_nil⟩

/-- What has been collected is lost. -/
theorem drop (h : Entered P all allSymbols symbols) : Entered P all allSymbols [] :=
  ⟨h.keeps,h.added,by simp,List.nodup_nil⟩

theorem enter (h : Entered P all allSymbols symbols) (hp : P symbol) :
    Entered P all (allSymbols ++ [symbol]) symbols where
  keeps x hx := List.mem_append_left _ (h.keeps x hx)
  added x hx := by
    rcases List.mem_append.mp hx with hx | hx
    · exact h.added x hx
    · rw [List.mem_singleton.mp hx]; exact .inr hp
  new x hx := ⟨⟨List.mem_append_left _ (h.new x hx).1.1,(h.new x hx).1.2⟩,(h.new x hx).2⟩
  nodup := h.nodup

theorem collect (h : Entered P all allSymbols symbols) (hp : P symbol) (hs : symbol ∉ allSymbols) :
    Entered P all (allSymbols ++ [symbol]) (symbols ++ [symbol]) where
  keeps := (h.enter hp).keeps
  added := (h.enter hp).added
  new x hx := by
    rcases List.mem_append.mp hx with hx | hx
    · exact (h.enter hp).new x hx
    · rw [List.mem_singleton.mp hx]
      exact ⟨⟨by simp,fun hall => hs (h.keeps symbol hall)⟩,hp⟩
  nodup := by
    refine List.nodup_append.mpr ⟨h.nodup,List.nodup_singleton symbol,?_⟩
    rintro x hx y hy rfl
    exact hs (List.mem_singleton.mp hy ▸ (h.new x hx).1.1)

end Entered

/-- `Q` holds when the computation ends, also with an exception. -/
def Ends (Q : Rest.Ctx → Prop) : Rest.Result → Prop
  | .ok ctx => Q ctx
  | .error ctx => Q ctx

theorem Ends.imp {Q Q' : Rest.Ctx → Prop} {r : Rest.Result} (hr : Ends Q r)
    (h : ∀ ctx, Q ctx → Q' ctx) : Ends Q' r := by
  cases r with
  | ok ctx => exact h ctx hr
  | error ctx => exact h ctx hr

theorem Ends.bind {Q : Rest.Ctx → Prop} {r : Rest.Result} {f : Rest.Ctx → Rest.Result}
    (hr : Ends Q r) (hf : ∀ ctx, Q ctx → Ends Q (f ctx)) : Ends Q (r.bind f) := by
  cases r with
  | ok ctx => exact hf ctx hr
  | error ctx => exact hr

theorem Ends.foldlM {α : Type} {Q : Rest.Ctx → Prop} {f : Rest.Ctx → α → Rest.Result}
    (hf : ∀ ctx x, Q ctx → Ends Q (f ctx x)) (xs : List α) {ctx : Rest.Ctx} (h : Q ctx) :
    Ends Q (xs.foldlM f ctx) := by
  induction xs generalizing ctx with
  | nil => exact h
  | cons x xs ih => exact Ends.bind (hf ctx x h) fun ctx h => ih h

/-- During a download lower-case symbols are entered and none is passed on. -/
structure Loading (all : List String) (ctx : Rest.Ctx) : Prop where
  entered : Entered LowerCase all ctx.allSymbols ctx.symbols
  silent : ctx.outputs.flatMap symbolsOf = []

section
variable {all : List String} {ctx : Rest.Ctx}

theorem loading_dispatch (dispatcher : Rest.Dispatcher) {output : Rest.Output}
    (ho : symbolsOf output = []) (h : Loading all ctx) :
    Ends (Loading all) (Rest.dispatch dispatcher output ctx) := by
  unfold Rest.dispatch
  split_ifs
  · exact h
  · exact ⟨h.entered,by simp [h.silent, ho]⟩

theorem loading_enter (dispatcher : Rest.Dispatcher) {symbol : String} (hs : LowerCase symbol)
    (h : Loading all ctx) : Ends (Loading all) (Rest.enter dispatcher symbol ctx) := by
  unfold Rest.enter
  split_ifs with hmem
  · exact h
  · exact ⟨h.entered.enter hs,h.silent⟩
  · exact ⟨h.entered.collect hs hmem,h.silent⟩

theorem loading_onSymbol (dispatcher : Rest.Dispatcher) (serverTime : ℕ) (item : Symbol)
    (h : Loading all ctx) :
    Ends (Loading all) (Rest.onSymbol shared streamId dispatcher serverTime ctx item) := by
  refine Ends.bind (loading_dispatch dispatcher rfl h) fun ctx h => ?_
  split_ifs
  · exact h
  · refine Ends.bind (loading_enter dispatcher (lowerCase_normalizedSymbol item.symbol) h) ?_
    intro ctx h
    exact loading_dispatch dispatcher rfl ⟨h.entered,h.silent⟩

end

/-- What an event does to the table: it enters symbols, and passes some of the new ones on. -/
structure Passes (P : String → Prop) (s s' : State) (symbols : List String) : Prop where
  entered : Entered P s.allSymbols s'.allSymbols symbols
  passed : s'.passed = s.passed ++ symbols

theorem onExchangeInfo_passes (ack : ExchangeInfoAck) (throws : ℕ → Bool) (s : State) :
    ∃ symbols, Passes LowerCase s
      (onExchangeInfo shared streamId discardSymbol maxLengthSymbol ack throws s) symbols := by
  have hstart : Loading s.allSymbols
      ⟨ack.rateLimits.foldl Rest.onRateLimitsItem s.limits,s.allSymbols,[],0,[]⟩ :=
    ⟨Entered.refl _ _,rfl⟩
  have hload := Ends.foldlM (fun ctx item => loading_onSymbol shared streamId
    ⟨discardSymbol,throws,maxLengthSymbol⟩ ack.serverTime item) ack.symbols hstart
  unfold onExchangeInfo Rest.onExchangeInfoAck
  cases hr : ack.symbols.foldlM
      (Rest.onSymbol shared streamId ⟨discardSymbol,throws,maxLengthSymbol⟩ ack.serverTime)
      ⟨ack.rateLimits.foldl Rest.onRateLimitsItem s.limits,s.allSymbols,[],0,[]⟩ with
  | error ctx =>
    rw [hr] at hload
    exact ⟨[],hload.entered.drop,by simp [Except.bind, hload.silent]⟩
  | ok ctx =>
    rw [hr] at hload
    refine ⟨ctx.symbols,?_⟩
    by_cases hempty : ctx.symbols = []
    · simp only [Except.bind, if_pos hempty]
      exact ⟨hload.entered,by simp [hload.silent, hempty]⟩
    · simp only [Except.bind, if_neg hempty]
      exact ⟨hload.entered,by simp [hload.silent, symbolsOf]⟩

theorem foldl_subscribe (all symbols new : List String) (hnew : new.Nodup)
    (hfresh : ∀ x ∈ new, x ∉ all) :
    let p := symbols.foldl subscribeItem (all ++ new,new)
    p.1 = all ++ p.2 ∧ p.2.Nodup ∧ ∀ x, x ∈ p.2 ↔ x ∈ new ∨ (x ∈ symbols ∧ x ∉ all) := by
  induction symbols generalizing new with
  | nil => exact ⟨rfl,hnew,by simp⟩
  | cons item symbols ih =>
    rw [List.foldl_cons,subscribeItem]
    by_cases hmem : item ∈ all ++ new
    · obtain ⟨h1,h2,h3⟩ := ih new hnew hfresh
      rw [if_pos hmem]
      refine ⟨h1,h2,fun x => ?_⟩
      rw [h3 x]
      grind
    · have hmem' := hmem
      rw [List.mem_append,not_or] at hmem'
      obtain ⟨h1,h2,h3⟩ := ih (new ++ [item]) (by grind) (by grind)
      rw [if_neg hmem,List.append_assoc]
      refine ⟨h1,h2,fun x => ?_⟩
      rw [h3 x]
      grind

theorem onSubscribe_passes (symbols : List String) (s : State) :
    ∃ new, Passes (· ∈ new) s (onSubscribe symbols s) new ∧
      ∀ x, x ∈ new ↔ x ∈ symbols ∧ x ∉ s.allSymbols := by
  obtain ⟨h1,h2,h3⟩ := foldl_subscribe s.allSymbols symbols [] List.nodup_nil (by simp)
  simp only [List.append_nil, List.not_mem_nil, false_or] at h1 h2 h3
  have hall : (onSubscribe symbols s).allSymbols =
      s.allSymbols ++ (symbols.foldl subscribeItem (s.allSymbols,[])).2 := h1
  refine ⟨(symbols.foldl subscribeItem (s.allSymbols,[])).2,⟨⟨?_,?_,?_,h2⟩,rfl⟩,h3⟩
  · intro x hx
    rw [hall]
    exact List.mem_append_left _ hx
  · intro x hx
    rw [hall] at hx
    exact List.mem_append.mp hx
  · intro x hx
    rw [hall]
    exact ⟨⟨List.mem_append_right _ hx,((h3 x).mp hx).2⟩,hx⟩

/-- What is passed on has been entered once; what has been entered was in lower case or has been
passed on. -/
structure Consistent (s : State) : Prop where
  nodup : s.passed.Nodup
  entered : ∀ x ∈ s.passed, x ∈ s.allSymbols
  origin : ∀ x ∈ s.allSymbols, LowerCase x ∨ x ∈ s.passed

theorem Passes.consistent {P : String → Prop} {s s' : State} {symbols : List String}
    (h : Passes P s s' symbols) (hP : ∀ x, P x → LowerCase x ∨ x ∈ symbols)
    (hs : Consistent s) : Consistent s' where
  nodup := by
    rw [h.passed]
    refine List.nodup_append.mpr ⟨hs.nodup,h.entered.nodup,?_⟩
    rintro x hx y hy rfl
    exact (h.entered.new x hy).1.2 (hs.entered x hx)
  entered x hx := by
    rw [h.passed] at hx
    rcases List.mem_append.mp hx with hx | hx
    · exact h.entered.keeps x (hs.entered x hx)
    · exact (h.entered.new x hx).1.1
  origin x hx := by
    rw [h.passed,List.mem_append]
    rcases h.entered.added x hx with hx | hx
    · rcases hs.origin x hx with h | h
      · exact .inl h
      · exact .inr (.inl h)
    · rcases hP x hx with h | h
      · exact .inl h
      · exact .inr (.inr h)

theorem preserves_consistent :
    (machine shared streamId discardSymbol maxLengthSymbol).Preserves Consistent := by
  intro s e s' hs hn
  cases e with
  | exchangeInfo ack throws =>
    obtain rfl := Option.some.inj hn
    obtain ⟨symbols,h⟩ :=
      onExchangeInfo_passes shared streamId discardSymbol maxLengthSymbol ack throws s
    exact h.consistent (fun x hx => .inl hx) hs
  | subscribe symbols =>
    obtain rfl := Option.some.inj hn
    obtain ⟨new,h,-⟩ := onSubscribe_passes symbols s
    exact h.consistent (fun x hx => .inr hx) hs

theorem consistent_init :
    Consistent (machine shared streamId discardSymbol maxLengthSymbol).init :=
  ⟨List.nodup_nil,by simp [machine],by simp [machine]⟩

theorem consistent_of_reachable {s : State}
    (h : (machine shared streamId discardSymbol maxLengthSymbol).Reachable s) : Consistent s :=
  (preserves_consistent shared streamId discardSymbol maxLengthSymbol).reachable
    (consistent_init shared streamId discardSymbol maxLengthSymbol) h

theorem normalised_iff {s : State} (hs : Consistent s) :
    Normalised s ↔ ∀ symbol ∈ s.passed, LowerCase symbol := by
  constructor
  · intro h; exact h.lowerCase
  · intro h
    have hmap : s.passed.map normalizedSymbol = s.passed :=
      (List.map_congr_left h).trans (List.map_id s.passed)
    exact ⟨h,by rw [hmap]; exact hs.nodup⟩

/-- A client subscribes to lower-case symbols only. -/
def Event.LowerCase : Event → Prop
  | exchangeInfo _ _ => True
  | subscribe symbols => ∀ symbol ∈ symbols, Gateway.LowerCase symbol

theorem step_normalised_iff (e : Event) {s s' : State} (hs : Consistent s) (hq : Normalised s)
    (hn : (machine shared streamId discardSymbol maxLengthSymbol).next s e = some s') :
    Normalised s' ↔ e.LowerCase := by
  have hs' := preserves_consistent shared streamId discardSymbol maxLengthSymbol s e s' hs hn
  rw [normalised_iff hs']
  cases e with
  | exchangeInfo ack throws =>
    obtain rfl := Option.some.inj hn
    obtain ⟨symbols,h⟩ :=
      onExchangeInfo_passes shared streamId discardSymbol maxLengthSymbol ack throws s
    refine iff_of_true ?_ trivial
    rw [h.passed,List.forall_mem_append]
    exact ⟨hq.lowerCase,fun x hx => (h.entered.new x hx).2⟩
  | subscribe symbols =>
    obtain rfl := Option.some.inj hn
    obtain ⟨new,h,hnew⟩ := onSubscribe_passes symbols s
    rw [h.passed,List.forall_mem_append]
    constructor
    · rintro ⟨hp,hl⟩ x hx
      by_cases hall : x ∈ s.allSymbols
      · exact (hs.origin x hall).elim id (hp x)
      · exact hl x ((hnew x).mpr ⟨hx,hall⟩)
    · intro hl
      exact ⟨hq.lowerCase,fun x hx => hl x ((hnew x).mp hx).1⟩

/-- The symbols that are passed on are in lower case and distinct up to letter case, all along a
run, if and only if the clients subscribe to lower-case symbols only. -/
theorem steps_normalised_iff (es : List Event) :
    (machine shared streamId discardSymbol maxLengthSymbol).Steps (fun _ _ s' => Normalised s')
      (machine shared streamId discardSymbol maxLengthSymbol).init es ↔
        ∀ e ∈ es, e.LowerCase := by
  have htotal : ∀ s e,
      ((machine shared streamId discardSymbol maxLengthSymbol).next s e).isSome := by
    intro s e
    cases e <;> rfl
  rw [← Machine.steps_iff_forall _ htotal]
  refine Machine.steps_iff_steps (preserves_consistent shared streamId discardSymbol
    maxLengthSymbol) (fun e _ s s' => step_normalised_iff shared streamId discardSymbol
      maxLengthSymbol e) ?_ ?_
  · exact consistent_init shared streamId discardSymbol maxLengthSymbol
  · exact ⟨by simp [machine],List.nodup_nil⟩

/-- The exchange lists a symbol that a client then subscribes to as the exchange writes it. -/
def subscribedTwice : List Event :=
  [.exchangeInfo ⟨0,[],[⟨"BTCUSDT",.trading,"BTC",8,"USDT",8,[]⟩]⟩ fun _ => false,
    .subscribe ["BTCUSDT"]]

/-- The symbol is passed on twice. -/
theorem passed_not_normalised :
    ¬ ∀ s, (machine Shared.sample 1 (fun _ => false) 64).Reachable s → Normalised s := by
  intro h
  obtain ⟨s,hs,ht⟩ := (machine Shared.sample 1 (fun _ => false) 64).exists_reachable
    (show ((machine Shared.sample 1 (fun _ => false) 64).run
      (machine Shared.sample 1 (fun _ => false) 64).init subscribedTwice).any
        (fun s => decide (s.passed = ["btcusdt","BTCUSDT"])) = true by decide)
  have hd := (h s hs).distinct
  rw [of_decide_eq_true ht] at hd
  revert hd
  decide

end SymbolTable
end RoqBinance.Gateway
