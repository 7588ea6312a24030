import Mathlib.Algebra.Group.Nat.Defs
import Mathlib.Tactic.SplitIfs
import RoqBinance.Library.Download
import RoqBinance.Library.Handshake
import RoqBinance.Protocol.Json.Types

/-! What the streams of the gateway share: the settings, the record of requested downloads,
and the context in which a handler runs. -/
namespace RoqBinance.Gateway
open Library

structure Settings where
  exchange : String
  downloadSymbols : List String
  tradesLookback : ℕ
  tradesLookbackOnRestart : ℕ
  tradesLimit : ℕ
  downloadBorrowedFreq : ℕ
  listenKeyRefresh : ℕ
  terminateOn403 : Bool
  backOffDelay : ℕ
  allowUnknownEventTypes : Bool
  continueWithUnknownEventType : Bool
  deriving DecidableEq, Repr

/-- The reference data and the formula for profit and loss are the dispatcher's; the tests on
doubles, which may allow a tolerance, are a library's. -/
structure Shared where
  settings : Settings
  createOrderTemplates : List String
  cancelOrderTemplates : List String
  multiplier : String → Double
  computeProfitLossAmount : RoqBinance.Side → Double → Double → Double → Double
  isZero : Double → Bool
  isGreater : Double → Double → Bool

namespace Shared

/-- A gateway for one symbol that polls the borrowed amounts and downloads no trades. -/
def sample : Shared where
  settings :=
    { exchange := "binance", downloadSymbols := ["BTCUSDT"], tradesLookback := 0,
      tradesLookbackOnRestart := 0, tradesLimit := 0, downloadBorrowedFreq := 60*10^9,
      listenKeyRefresh := 1800*10^9, terminateOn403 := false, backOffDelay := 10*10^9,
      allowUnknownEventTypes := false, continueWithUnknownEventType := false }
  createOrderTemplates := []
  cancelOrderTemplates := []
  multiplier _ := some 1
  computeProfitLossAmount _ quantity price multiplier := (quantity.mul price).mul multiplier
  isZero := Double.isZero
  isGreater := Double.isGreater

/-- Either of two settings lets the streams go on after an event of an unexpected type. -/
def allowUnknownEventTypes (shared : Shared) : Bool :=
  shared.settings.allowUnknownEventTypes || shared.settings.continueWithUnknownEventType

def getCreateOrderTemplate (shared : Shared) (name : String) : Except Exception Unit :=
  if name = "" then .ok ()
  else if name ∈ shared.createOrderTemplates then .ok ()
  else .error (.rejected .gateway .invalidRequestTemplate "create_order_template")

def getCancelOrderTemplate (shared : Shared) (name : String) : Except Exception Unit :=
  if name = "" then .ok ()
  else if name ∈ shared.cancelOrderTemplates then .ok ()
  else .error (.rejected .gateway .invalidRequestTemplate "cancel_order_template")

end Shared

def getDownloadTradesLookback (settings : Settings) (downloadTradesIsFirst : Bool) : ℕ :=
  if downloadTradesIsFirst && settings.tradesLookbackOnRestart ≠ 0 then
    settings.tradesLookbackOnRestart
  else settings.tradesLookback

structure TraceInfo where
  originCreateTime : ℕ
  originCreateTimeUtc : ℕ
  deriving DecidableEq, Repr

structure ListenKeyUpdate where
  account : String
  marginMode : MarginMode
  listenKey : String
  deriving DecidableEq, Repr

/-- The downloads that one stream asks another for. -/
inductive Kind | account | orders | trades | listenKeyCross | accountCross | ordersCross | tradesCross
  deriving DecidableEq, Repr

/-- For each download, when it was last asked for and when it was last responded to. -/
structure Request where
  account : Stamps
  orders : Stamps
  trades : Stamps
  listenKeyCross : Stamps
  accountCross : Stamps
  ordersCross : Stamps
  tradesCross : Stamps
  deriving DecidableEq, Repr

namespace Request

def empty : Request := ⟨⟨0,0⟩,⟨0,0⟩,⟨0,0⟩,⟨0,0⟩,⟨0,0⟩,⟨0,0⟩,⟨0,0⟩⟩

def stamps (r : Request) : Kind → Stamps
  | .account => r.account
  | .orders => r.orders
  | .trades => r.trades
  | .listenKeyCross => r.listenKeyCross
  | .accountCross => r.accountCross
  | .ordersCross => r.ordersCross
  | .tradesCross => r.tradesCross

def update (k : Kind) (f : Stamps → Stamps) (r : Request) : Request :=
  match k with
  | .account => {r with account := f r.account}
  | .orders => {r with orders := f r.orders}
  | .trades => {r with trades := f r.trades}
  | .listenKeyCross => {r with listenKeyCross := f r.listenKeyCross}
  | .accountCross => {r with accountCross := f r.accountCross}
  | .ordersCross => {r with ordersCross := f r.ordersCross}
  | .tradesCross => {r with tradesCross := f r.tradesCross}

def post (k : Kind) (time : ℕ) (r : Request) : Request :=
  r.update k fun s => {s with request := time}

def reply (k : Kind) (time : ℕ) (r : Request) : Request :=
  r.update k fun s => {s with respond := time}

@[simp] theorem stamps_empty (k : Kind) : empty.stamps k = ⟨0,0⟩ := by cases k <;> rfl

theorem stamps_update (k j : Kind) (f : Stamps → Stamps) (r : Request) :
    (r.update k f).stamps j = if j = k then f (r.stamps j) else r.stamps j := by
  cases k <;> cases j <;> rfl

theorem stamps_post (k j : Kind) (time : ℕ) (r : Request) :
    (r.post k time).stamps j = if j = k then {r.stamps j with request := time} else r.stamps j :=
  r.stamps_update k j _

theorem stamps_reply (k j : Kind) (time : ℕ) (r : Request) :
    (r.reply k time).stamps j = if j = k then {r.stamps j with respond := time} else r.stamps j :=
  r.stamps_update k j _

/-- Some of the downloads have been asked for at `time`, nothing else has changed. -/
def Posted (time : ℕ) (r r' : Request) : Prop :=
  ∀ k, r'.stamps k = r.stamps k ∨ r'.stamps k = {r.stamps k with request := time}

theorem Posted.refl (time : ℕ) (r : Request) : Posted time r r := fun _ => .inl rfl

theorem Posted.post {time : ℕ} {r r' : Request} (h : Posted time r r') (k : Kind) :
    Posted time r (r'.post k time) := by
  intro j
  rw [stamps_post]
  split_ifs with hj
  · rcases h j with h | h <;> rw [h] <;> exact .inr rfl
  · exact h j

end Request

/-- The effects of a handler, in their order. `Call` is what a stream sends to the exchange. -/
inductive Output (Call : Type)
  | send (call : Call)
  | dispatch (update : Dispatch)
  | listenKeyUpdate (update : ListenKeyUpdate)
  | suspendFor (duration : ℕ)
  | resume
  | fatal (text : String)
  deriving DecidableEq, Repr

namespace Output
variable {Call : Type}

/-- The same effect of a handler whose calls are among those of a larger system. -/
def map {Call' : Type} (f : Call → Call') : Output Call → Output Call'
  | send call => send (f call)
  | dispatch update => dispatch update
  | listenKeyUpdate update => listenKeyUpdate update
  | suspendFor duration => suspendFor duration
  | resume => resume
  | fatal text => fatal text

def sent : Output Call → Option Call
  | send call => some call
  | _ => none

def dispatched : Output Call → Option Dispatch
  | dispatch update => some update
  | _ => none

def listenKey : Output Call → Option ListenKeyUpdate
  | listenKeyUpdate update => some update
  | _ => none

def isFatal : Output Call → Bool
  | fatal _ => true
  | _ => false

end Output

def listenKeyUpdates {Call : Type} (outputs : List (Output Call)) : List ListenKeyUpdate :=
  outputs.filterMap Output.listenKey

structure Context (Self Call : Type) where
  self : Self
  request : Request
  outputs : List (Output Call)

namespace Context
variable {Self Call : Type}

def emit (ctx : Context Self Call) (output : Output Call) : Context Self Call :=
  {ctx with outputs := ctx.outputs ++ [output]}

def modify (ctx : Context Self Call) (f : Self → Self) : Context Self Call :=
  {ctx with self := f ctx.self}

def send (ctx : Context Self Call) (call : Call) : Context Self Call := ctx.emit (.send call)

def dispatch (ctx : Context Self Call) (update : Dispatch) : Context Self Call :=
  ctx.emit (.dispatch update)

def dispatchAll (ctx : Context Self Call) (updates : List Dispatch) : Context Self Call :=
  {ctx with outputs := ctx.outputs ++ updates.map .dispatch}

def fatal (ctx : Context Self Call) (text : String) : Context Self Call := ctx.emit (.fatal text)

def post (ctx : Context Self Call) (k : Kind) (time : ℕ) : Context Self Call :=
  {ctx with request := ctx.request.post k time}

def reply (ctx : Context Self Call) (k : Kind) (time : ℕ) : Context Self Call :=
  {ctx with request := ctx.request.reply k time}

variable (ctx : Context Self Call)

@[simp] theorem emit_self (o : Output Call) : (ctx.emit o).self = ctx.self := rfl
@[simp] theorem emit_request (o : Output Call) : (ctx.emit o).request = ctx.request := rfl
@[simp] theorem emit_outputs (o : Output Call) : (ctx.emit o).outputs = ctx.outputs ++ [o] := rfl
@[simp] theorem modify_self (f : Self → Self) : (ctx.modify f).self = f ctx.self := rfl
@[simp] theorem modify_request (f : Self → Self) : (ctx.modify f).request = ctx.request := rfl
@[simp] theorem modify_outputs (f : Self → Self) : (ctx.modify f).outputs = ctx.outputs := rfl
@[simp] theorem send_self (c : Call) : (ctx.send c).self = ctx.self := rfl
@[simp] theorem send_request (c : Call) : (ctx.send c).request = ctx.request := rfl
@[simp] theorem send_outputs (c : Call) : (ctx.send c).outputs = ctx.outputs ++ [.send c] := rfl
@[simp] theorem dispatch_self (d : Dispatch) : (ctx.dispatch d).self = ctx.self := rfl
@[simp] theorem dispatch_request (d : Dispatch) : (ctx.dispatch d).request = ctx.request := rfl
@[simp] theorem dispatch_outputs (d : Dispatch) :
    (ctx.dispatch d).outputs = ctx.outputs ++ [.dispatch d] := rfl
@[simp] theorem dispatchAll_self (ds : List Dispatch) : (ctx.dispatchAll ds).self = ctx.self := rfl
@[simp] theorem dispatchAll_request (ds : List Dispatch) :
    (ctx.dispatchAll ds).request = ctx.request := rfl
@[simp] theorem dispatchAll_outputs (ds : List Dispatch) :
    (ctx.dispatchAll ds).outputs = ctx.outputs ++ ds.map .dispatch := rfl
@[simp] theorem fatal_self (t : String) : (ctx.fatal t).self = ctx.self := rfl
@[simp] theorem fatal_request (t : String) : (ctx.fatal t).request = ctx.request := rfl
@[simp] theorem fatal_outputs (t : String) : (ctx.fatal t).outputs = ctx.outputs ++ [.fatal t] := rfl
@[simp] theorem post_self (k : Kind) (t : ℕ) : (ctx.post k t).self = ctx.self := rfl
@[simp] theorem post_request (k : Kind) (t : ℕ) : (ctx.post k t).request = ctx.request.post k t := rfl
@[simp] theorem post_outputs (k : Kind) (t : ℕ) : (ctx.post k t).outputs = ctx.outputs := rfl
@[simp] theorem reply_self (k : Kind) (t : ℕ) : (ctx.reply k t).self = ctx.self := rfl
@[simp] theorem reply_request (k : Kind) (t : ℕ) :
    (ctx.reply k t).request = ctx.request.reply k t := rfl
@[simp] theorem reply_outputs (k : Kind) (t : ℕ) : (ctx.reply k t).outputs = ctx.outputs := rfl

end Context

/-- A set of symbols, in the order in which they were first added. -/
def emplace (symbols : List String) (symbol : String) : List String :=
  if symbol ∈ symbols then symbols else symbols ++ [symbol]

end RoqBinance.Gateway
