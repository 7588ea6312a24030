import RoqBinance.Gateway.Frame
import RoqBinance.Gateway.Response

/-! What a stream may put out, as a policy that its handlers obey. -/
namespace RoqBinance.Gateway
open Library Protocol.Json

/-- What a stream may put out: the calls that it sends, the margin modes of its listen keys, and
those of the orders that it reports. -/
structure Policy (Self Call : Type) where
  account : Self → String
  call : Call → Prop
  key : MarginMode → Prop
  mode : MarginMode → Prop

/-- An order that is reported is one of the account, with such a margin mode. -/
def Reports (account : String) (mode : MarginMode → Prop) : Dispatch → Prop
  | .orderUpdate _ update => update.account = account ∧ mode update.marginMode
  | .response _ (some update) _ _ _ => update.account = account ∧ mode update.marginMode
  | _ => True

namespace Policy
variable {Self Call : Type}

def Allows (π : Policy Self Call) (account : String) : Output Call → Prop
  | .send call => π.call call
  | .dispatch update => Reports account π.mode update
  | .listenKeyUpdate update => update.account = account ∧ π.key update.marginMode
  | _ => True

/-- The stream is that of the account, and has put out what it may. -/
structure Obeyed (π : Policy Self Call) (account : String) (ctx : Context Self Call) : Prop where
  own : π.account ctx.self = account
  outputs : ∀ output ∈ ctx.outputs, π.Allows account output

namespace Obeyed
variable {π : Policy Self Call} {account : String} {ctx : Context Self Call}

theorem of_nil {self : Self} (h : π.account self = account) (request : Request) :
    π.Obeyed account ⟨self,request,[]⟩ :=
  ⟨h,fun _ ho => by cases ho⟩

theorem emit (h : π.Obeyed account ctx) (output : Output Call) (ho : π.Allows account output) :
    π.Obeyed account (ctx.emit output) := by
  refine ⟨h.own,?_⟩
  intro o hm
  rcases List.mem_append.mp hm with hm | hm
  · exact h.outputs o hm
  · rwa [List.mem_singleton.mp hm]

theorem send (h : π.Obeyed account ctx) {call : Call} (hc : π.call call) :
    π.Obeyed account (ctx.send call) := h.emit _ hc

theorem dispatch (h : π.Obeyed account ctx) {update : Dispatch}
    (hu : Reports account π.mode update) : π.Obeyed account (ctx.dispatch update) := h.emit _ hu

theorem dispatchAll (h : π.Obeyed account ctx) {updates : List Dispatch}
    (hu : ∀ update ∈ updates, Reports account π.mode update) :
    π.Obeyed account (ctx.dispatchAll updates) := by
  refine ⟨h.own,?_⟩
  intro o hm
  rcases List.mem_append.mp hm with hm | hm
  · exact h.outputs o hm
  · obtain ⟨update,hmem,rfl⟩ := List.mem_map.mp hm
    exact hu update hmem

theorem fatal (h : π.Obeyed account ctx) (text : String) : π.Obeyed account (ctx.fatal text) :=
  h.emit _ trivial

theorem modify (h : π.Obeyed account ctx) {f : Self → Self}
    (hf : π.account (f ctx.self) = π.account ctx.self) : π.Obeyed account (ctx.modify f) :=
  ⟨hf.trans h.own,h.outputs⟩

theorem post (h : π.Obeyed account ctx) (k : Kind) (time : ℕ) :
    π.Obeyed account (ctx.post k time) := ⟨h.own,h.outputs⟩

theorem wafLimitViolation (h : π.Obeyed account ctx) (shared : Shared) :
    π.Obeyed account (wafLimitViolation shared ctx) := by
  unfold Gateway.wafLimitViolation
  split_ifs
  · exact h.fatal _
  · exact h.emit _ trivial

theorem foldl {α : Type} {f : Context Self Call → α → Context Self Call} {xs : List α}
    (h : π.Obeyed account ctx)
    (hf : ∀ ctx, π.Obeyed account ctx → ∀ x, π.Obeyed account (f ctx x)) :
    π.Obeyed account (xs.foldl f ctx) :=
  List.foldlRecOn xs f h fun ctx hc x _ => hf ctx hc x

theorem processResponseWith {α : Type}
    {limit : Bool → ℕ → Context Self Call → Context Self Call}
    {decode : Body → Except String α} {response : RestResponse}
    {errorHandler : Origin → RequestStatus → Error → String → Context Self Call → Context Self Call}
    {successHandler : α → Context Self Call → Context Self Call} (h : π.Obeyed account ctx)
    (hlimit : ∀ forbidden retryAfter, π.Obeyed account (limit forbidden retryAfter ctx))
    (herror : ∀ origin status error text ctx', π.Obeyed account ctx' →
      π.Obeyed account (errorHandler origin status error text ctx'))
    (hsuccess : ∀ value, classify decode response = .success value →
      π.Obeyed account (successHandler value ctx)) :
    π.Obeyed account
      (processResponseWith limit decode response errorHandler successHandler ctx) := by
  exact processResponseWith_cases h hlimit herror hsuccess fun _ => h.fatal _

end Obeyed
end Policy

theorem reports_updateRateLimits {account : String} {mode : MarginMode → Prop} (streamId : ℕ)
    (name : String) (items : List RateLimitsItem) :
    ∀ update ∈ updateRateLimits streamId name items, Reports account mode update := by
  unfold updateRateLimits
  split_ifs <;> simp [Reports]

theorem reports_onOutboundAccountPosition {account : String} {mode : MarginMode → Prop}
    (streamId : ℕ) (name : String) (marginMode : MarginMode) (event : OutboundAccountPositionData) :
    ∀ update ∈ onOutboundAccountPosition streamId name marginMode event,
      Reports account mode update := by
  intro update hu
  obtain ⟨item,-,rfl⟩ := List.mem_map.mp hu
  trivial

theorem reports_onExecutionReport {mode : MarginMode → Prop} {marginMode : MarginMode}
    (hm : mode marginMode) (shared : Shared) (streamId : ℕ) (account : String)
    (order : MatchedOrder) (report : ExecutionReportData) :
    ∀ update ∈ onExecutionReport shared streamId account marginMode order report,
      Reports account mode update := by
  unfold onExecutionReport
  split_ifs <;> simp [Reports, executionReportUpdate, hm]

end RoqBinance.Gateway
