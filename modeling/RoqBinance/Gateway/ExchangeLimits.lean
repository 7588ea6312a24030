import RoqBinance.Gateway.SymbolTable

/-! The limits that the exchange announces with its reference data. A limit belongs to one
interval; the request weight is taken from any. -/
namespace RoqBinance.Gateway
open Protocol.Json

namespace Rest

/-- What an item is a limit of. -/
structure Window where
  rateLimitType : Protocol.Json.RateLimitType
  interval : Protocol.Json.Interval
  intervalNum : ℕ
  deriving DecidableEq, Repr

def Window.requestWeight1m : Window := ⟨.requestWeight,.minute,1⟩
def Window.createOrder10s : Window := ⟨.orders,.second,10⟩
def Window.createOrder1d : Window := ⟨.orders,.day,1⟩

def window (item : RateLimitsItem) : Window := ⟨item.rateLimitType,item.interval,item.intervalNum⟩

/-- The limit of the last item that satisfies `q`; without one it stays as it is. -/
def lastLimit (q : RateLimitsItem → Bool) (items : List RateLimitsItem) (limit : ℕ) : ℕ :=
  ((items.filter q).getLast?.map RateLimitsItem.limit).getD limit

/-- Each limit is that of the last item of its own window. -/
structure Announced (items : List RateLimitsItem) (before after : Limits) : Prop where
  requestWeight1m : after.requestWeight1m =
    lastLimit (window · = .requestWeight1m) items before.requestWeight1m
  createOrder10s : after.createOrder10s =
    lastLimit (window · = .createOrder10s) items before.createOrder10s
  createOrder1d : after.createOrder1d =
    lastLimit (window · = .createOrder1d) items before.createOrder1d

/-- The last request weight is that of a minute, or has the same limit. -/
def ByMinute (items : List RateLimitsItem) (before : Limits) : Prop :=
  ∀ item, (items.filter (·.rateLimitType = .requestWeight)).getLast? = some item →
    window item = .requestWeight1m ∨
      item.limit = lastLimit (window · = .requestWeight1m) items before.requestWeight1m

theorem foldl_overwrite (q : RateLimitsItem → Bool) (items : List RateLimitsItem) (limit : ℕ) :
    items.foldl (fun limit item => if q item then item.limit else limit) limit =
      lastLimit q items limit := by
  induction items generalizing limit with
  | nil => rfl
  | cons item items ih =>
    rw [List.foldl_cons,ih]
    cases hq : q item with
    | false => simp [lastLimit, hq]
    | true => simp [lastLimit, hq, List.getLast?_cons]

/-- A limit of which each item decides for itself whether it is replaced. -/
theorem foldl_onRateLimitsItem (limit : Limits → ℕ) {q : RateLimitsItem → Bool}
    (h : ∀ limits item, limit (onRateLimitsItem limits item) =
      if q item then item.limit else limit limits) (items : List RateLimitsItem)
    (before : Limits) :
    limit (items.foldl onRateLimitsItem before) = lastLimit q items (limit before) := by
  rw [← foldl_overwrite]
  exact (List.foldl_hom limit fun limits item => (h limits item).symm).symm

theorem createOrder10s_foldl (items : List RateLimitsItem) (before : Limits) :
    (items.foldl onRateLimitsItem before).createOrder10s =
      lastLimit (window · = .createOrder10s) items before.createOrder10s := by
  refine foldl_onRateLimitsItem Limits.createOrder10s ?_ items before
  rintro limits ⟨rateLimitType,interval,intervalNum,limit,count⟩
  cases rateLimitType with
  | orders => cases interval <;> by_cases h : intervalNum = 10 <;>
      simp [onRateLimitsItem, window, Window.createOrder10s, h, apply_ite Limits.createOrder10s]
  | _ => simp [onRateLimitsItem, window, Window.createOrder10s]

theorem createOrder1d_foldl (items : List RateLimitsItem) (before : Limits) :
    (items.foldl onRateLimitsItem before).createOrder1d =
      lastLimit (window · = .createOrder1d) items before.createOrder1d := by
  refine foldl_onRateLimitsItem Limits.createOrder1d ?_ items before
  rintro limits ⟨rateLimitType,interval,intervalNum,limit,count⟩
  cases rateLimitType with
  | orders => cases interval <;> by_cases h : intervalNum = 1 <;>
      simp [onRateLimitsItem, window, Window.createOrder1d, h, apply_ite Limits.createOrder1d]
  | _ => simp [onRateLimitsItem, window, Window.createOrder1d]

/-- Every request weight counts, whatever its interval is. -/
theorem requestWeight1m_foldl (items : List RateLimitsItem) (before : Limits) :
    (items.foldl onRateLimitsItem before).requestWeight1m =
      lastLimit (·.rateLimitType = .requestWeight) items before.requestWeight1m := by
  refine foldl_onRateLimitsItem Limits.requestWeight1m ?_ items before
  rintro limits ⟨rateLimitType,interval,intervalNum,limit,count⟩
  cases rateLimitType with
  | orders => cases interval <;> simp [onRateLimitsItem, apply_ite Limits.requestWeight1m]
  | _ => simp [onRateLimitsItem]

theorem window_requestWeight (item : RateLimitsItem)
    (h : decide (window item = .requestWeight1m) = true) :
    decide (item.rateLimitType = .requestWeight) = true :=
  decide_eq_true (congrArg Window.rateLimitType (of_decide_eq_true h))

/-- Without a request weight there is none of a minute. -/
theorem filter_requestWeight1m {items : List RateLimitsItem}
    (h : items.filter (·.rateLimitType = .requestWeight) = []) :
    items.filter (window · = .requestWeight1m) = [] := by
  rw [List.filter_eq_nil_iff] at h ⊢
  intro item hmem hw
  exact h item hmem (window_requestWeight item hw)

theorem getLast?_filter_of_imp {α : Type} {p q : α → Bool} {xs : List α} {x : α}
    (hqp : ∀ x, q x = true → p x = true) (hlast : (xs.filter p).getLast? = some x)
    (hq : q x = true) : (xs.filter q).getLast? = some x := by
  obtain ⟨init,hinit⟩ := List.getLast?_eq_some_iff.mp hlast
  have hfilter : xs.filter q = (xs.filter p).filter q := by
    rw [List.filter_filter]
    refine List.filter_congr fun y _ => ?_
    cases hy : q y with
    | false => rfl
    | true => simp [hqp y hy]
  rw [hfilter,hinit]
  simp [hq]

theorem lastLimit_requestWeight_iff (items : List RateLimitsItem) (before : Limits) :
    lastLimit (·.rateLimitType = .requestWeight) items before.requestWeight1m =
        lastLimit (window · = .requestWeight1m) items before.requestWeight1m ↔
      ByMinute items before := by
  unfold ByMinute
  cases hlast : (items.filter (·.rateLimitType = .requestWeight)).getLast? with
  | none =>
    have hnone := filter_requestWeight1m (List.getLast?_eq_none_iff.mp hlast)
    simp [lastLimit, hlast, hnone]
  | some item =>
    have hlimit : lastLimit (·.rateLimitType = .requestWeight) items before.requestWeight1m =
        item.limit := by
      simp [lastLimit, hlast]
    rw [hlimit]
    constructor
    · rintro h item' hitem
      rw [← Option.some.inj hitem]
      exact .inr h
    · intro h
      rcases h item rfl with hw | heq
      · simp [lastLimit, getLast?_filter_of_imp window_requestWeight hlast (decide_eq_true hw)]
      · exact heq

theorem announced_foldl_iff (items : List RateLimitsItem) (before : Limits) :
    Announced items before (items.foldl onRateLimitsItem before) ↔ ByMinute items before := by
  rw [← lastLimit_requestWeight_iff,← requestWeight1m_foldl]
  constructor
  · intro h
    exact h.requestWeight1m
  · intro h
    exact ⟨h,createOrder10s_foldl items before,createOrder1d_foldl items before⟩

section
variable {limits : Limits} {ctx : Ctx} (dispatcher : Dispatcher)

theorem dispatch_limits (output : Output) (h : ctx.limits = limits) :
    SymbolTable.Ends (·.limits = limits) (dispatch dispatcher output ctx) := by
  unfold dispatch
  split_ifs
  · exact h
  · exact h

theorem enter_limits (symbol : String) (h : ctx.limits = limits) :
    SymbolTable.Ends (·.limits = limits) (enter dispatcher symbol ctx) := by
  unfold enter
  split_ifs
  · exact h
  · exact h
  · exact h

theorem onSymbol_limits (shared : Shared) (streamId serverTime : ℕ) (item : Symbol)
    (h : ctx.limits = limits) :
    SymbolTable.Ends (·.limits = limits)
      (onSymbol shared streamId dispatcher serverTime ctx item) := by
  refine SymbolTable.Ends.bind (dispatch_limits dispatcher _ h) fun ctx h => ?_
  split_ifs
  · exact h
  · refine SymbolTable.Ends.bind (enter_limits dispatcher _ h) fun ctx h => ?_
    exact dispatch_limits dispatcher _ h

end

/-- The symbols leave the limits alone, also when one of them fails. -/
theorem onExchangeInfoAck_limits (shared : Shared) (streamId : ℕ) (dispatcher : Dispatcher)
    (ack : ExchangeInfoAck) (limits : Limits) (allSymbols : List String) :
    SymbolTable.Ends (·.limits = ack.rateLimits.foldl onRateLimitsItem limits)
      (onExchangeInfoAck shared streamId dispatcher ack limits allSymbols) := by
  refine SymbolTable.Ends.bind (SymbolTable.Ends.foldlM (fun ctx item =>
    onSymbol_limits dispatcher shared streamId ack.serverTime item) ack.symbols rfl) ?_
  intro ctx h
  split_ifs
  · exact h
  · exact h

/-- The limits are those that the exchange has announced, each for its own interval, if and only
if the last request weight is that of a minute or makes no difference. -/
theorem announced_onExchangeInfoAck_iff (shared : Shared) (streamId : ℕ) (dispatcher : Dispatcher)
    (ack : ExchangeInfoAck) (limits : Limits) (allSymbols : List String) :
    SymbolTable.Ends
      (fun ctx => Announced ack.rateLimits limits ctx.limits ↔ ByMinute ack.rateLimits limits)
      (onExchangeInfoAck shared streamId dispatcher ack limits allSymbols) := by
  refine (onExchangeInfoAck_limits shared streamId dispatcher ack limits allSymbols).imp ?_
  intro ctx h
  rw [h]
  exact announced_foldl_iff ack.rateLimits limits

/-- A second window for the request weight, behind that of a minute. -/
def secondWindow : ExchangeInfoAck :=
  ⟨0,[⟨.requestWeight,.minute,1,6000,0⟩,⟨.requestWeight,.day,1,100000,0⟩],[]⟩

/-- The limit of a day is taken for that of a minute. -/
theorem secondWindow_not_announced :
    ¬ ∀ (ack : ExchangeInfoAck) (limits : Limits),
      SymbolTable.Ends (Announced ack.rateLimits limits ·.limits)
        (onExchangeInfoAck Shared.sample 1 ⟨fun _ => false,fun _ => false,64⟩ ack limits []) := by
  intro h
  have h1 : 100000 = 6000 := (h secondWindow ⟨0,0,0⟩).requestWeight1m
  omega

end Rest
end RoqBinance.Gateway
