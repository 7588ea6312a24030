import RoqBinance.Gateway.Margin
import RoqBinance.Gateway.Portfolio

/-! When the downloads of the two order entries count as completed. A callback completes its
download by its own time, whatever it brings and whenever its REST request was sent. -/
namespace RoqBinance.Gateway
open Library Streams Protocol.Json

/-- A successful response in which nothing can be read. -/
def okWith (body : Body) : RestResponse := .result 200 .success 0 body

def failed : RestResponse := .networkError .undefined .undefined "disconnected"

def order : MatchedOrder := ⟨0,0,0⟩

namespace Margin

/-- Whether a response succeeds, and can be read. -/
def succeeds (call : OrderEntryMargin.Call) (response : RestResponse) : Bool :=
  match call with
  | .listenKey _ => (classify Body.listenKeyAckMargin response).value.isSome
  | .account .undefined => (classify Body.accountAck response).value.isSome
  | .account _ => (classify Body.crossMarginAccount response).value.isSome
  | .openOrders _ => (classify Body.openOrdersAck response).value.isSome
  | .trades _ _ _ _ => (classify Body.tradesAck response).value.isSome
  | .accountCrossOnTimer => (classify Body.crossMarginAccount response).value.isSome
  | .newOrder _ _ _ => (classify Body.newOrderAck response).value.isSome
  | .cancelOrder _ _ _ _ => (classify Body.cancelOrderAck response).value.isSome
  | .cancelAllOpenOrders _ _ _ => (classify Body.cancelAllOpenOrdersAck response).value.isSome

def Successful : Event → Prop
  | .reply job response _ => succeeds job.call response = true
  | _ => True

/-- In every run the cross-margin account download completes with a fresh snapshot, exactly if
each of its callbacks, those of the poll included, finds it completed or delivers a snapshot
that was asked for after it was. -/
theorem account_fresh_iff (shared : Shared) (streamId dropCopyStreamId : ℕ) (account : String)
    (es : List (Timed Event)) :
    (machine shared streamId dropCopyStreamId account).Steps
        (fun s _ s' => Fresh (downloads shared streamId account) .accountCross s s')
        (init streamId account) es ↔
      (machine shared streamId dropCopyStreamId account).Steps
        (fun s e _ => FreshReply (downloads shared streamId account) .accountCross s e.event)
        (init streamId account) es :=
  Streams.steps_fresh_iff (lawful shared streamId dropCopyStreamId account)
    (delivers shared streamId dropCopyStreamId account) rfl .accountCross es

def userAssets : CrossMarginAccount := ⟨[⟨"BTC",some 0,some 1,some 0⟩]⟩

/-- The user stream subscribes while a poll of the borrowed amounts is in flight. -/
def polled : List (Timed Event) :=
  [⟨⟨1,0⟩,.connected⟩,
   ⟨⟨2,0⟩,.reply ⟨.listenKey .cross,1⟩
     (okWith {Body.unreadable with listenKeyAckMargin := .ok ⟨"token"⟩}) false⟩,
   ⟨⟨3,0⟩,.timer 3 true false⟩,
   ⟨⟨4,0⟩,.socket .ready⟩,
   ⟨⟨5,0⟩,.socket (.message (.sessionLogon ⟨200,(),⟨0,""⟩,[]⟩) order false)⟩,
   ⟨⟨6,0⟩,.socket (.message (.userDataStreamSubscribe ⟨200,(),⟨0,""⟩,[]⟩) order false)⟩,
   ⟨⟨7,0⟩,.reply ⟨.accountCrossOnTimer,3⟩
     (okWith {Body.unreadable with crossMarginAccount := .ok userAssets}) false⟩]

/-- A test that a fresh completion of the account download passes. -/
def freshTest (s : State) (_ : Timed Event) (s' : State) : Bool :=
  decide (s.request.stamps .accountCross).completed ||
    !decide (s'.request.stamps .accountCross).completed ||
    s'.log.any fun x =>
      match x.reply with
      | some (job,_) => decide (job.call = .account .cross)
      | none => false

theorem freshTest_of_fresh {shared : Shared} {streamId : ℕ} {account : String} (s : State)
    (e : Timed Event) (s' : State)
    (h : Fresh (downloads shared streamId account) .accountCross s s') : freshTest s e s' = true := by
  by_cases hc : (s.request.stamps .accountCross).completed
  · simp [freshTest, hc]
  by_cases hc' : (s'.request.stamps .accountCross).completed
  · obtain ⟨x,hx,job,⟨response,hr,hk,hd⟩,-⟩ := h hc hc'
    have hcall : job.call = .account .cross := by
      change job.call.kind = _ at hk
      change OrderEntryMargin.snapshot _ _ _ _ = _ at hd
      revert hk hd
      cases job.call with
      | account marginMode => cases marginMode <;> simp [OrderEntryMargin.Call.kind]
      | openOrders marginMode => cases marginMode <;> simp [OrderEntryMargin.Call.kind]
      | trades marginMode => cases marginMode <;> simp [OrderEntryMargin.Call.kind]
      | _ => simp [OrderEntryMargin.Call.kind, OrderEntryMargin.snapshot]
    simp only [freshTest, Bool.or_eq_true, List.any_eq_true]
    exact .inr ⟨x,hx,by rw [hr]; exact decide_eq_true hcall⟩
  · simp [freshTest, hc']

/-- The response to the poll completes the account download, without a snapshot. -/
theorem poll_completes_account :
    ¬ ∀ es : List (Timed Event), (∀ e ∈ es, Successful e.event) →
      (machine Shared.sample 1 2 "A1").Steps
        (fun s _ s' => Fresh (downloads Shared.sample 1 "A1") .accountCross s s')
        (init 1 "A1") es := by
  intro h
  have hs : ∀ e ∈ polled, Successful e.event := by
    simp [polled, Successful, succeeds, okWith, classify, Processed.value]
  have ht := (h polled hs).test freshTest_of_fresh
  exact absurd ht (by decide)

end Margin

namespace Portfolio

/-- Whether a response succeeds, and can be read. -/
def succeeds (call : OrderEntryPortfolio.Call) (response : RestResponse) : Bool :=
  match call with
  | .listenKey => (classify Body.listenKeyAck response).value.isSome
  | .account => (classify Body.balancesAck response).value.isSome
  | .openOrders => (classify Body.openOrdersAck response).value.isSome
  | .trades _ _ _ => (classify Body.tradesAck response).value.isSome
  | .newOrder _ _ _ => (classify Body.newOrderAck response).value.isSome
  | .cancelOrder _ _ _ _ => (classify Body.cancelOrderAck response).value.isSome
  | .cancelAllOpenOrders _ _ => (classify Body.cancelAllOpenOrdersAck response).value.isSome

def Successful : Event → Prop
  | .reply job response _ => succeeds job.call response = true
  | _ => True

/-- In every run the account and the orders downloads complete with a snapshot just dispatched
for a REST request that was sent after the download was asked for, exactly if each of their
callbacks finds the download completed or delivers such a snapshot. -/
theorem recovery_fresh_iff (shared : Shared) (streamId dropCopyStreamId : ℕ) (account : String)
    (es : List (Timed Event)) :
    (machine shared streamId dropCopyStreamId account).Steps
        (fun s _ s' => FreshNow (downloads shared streamId account) .orders s s' ∧
          FreshNow (downloads shared streamId account) .account s s')
        (init streamId account) es ↔
      (machine shared streamId dropCopyStreamId account).Steps
        (fun s e _ => FreshReply (downloads shared streamId account) .orders s e.event ∧
          FreshReply (downloads shared streamId account) .account s e.event)
        (init streamId account) es := by
  have hw := lawful shared streamId dropCopyStreamId account
  have hd := delivers shared streamId dropCopyStreamId account
  rw [Machine.steps_and,Machine.steps_and,steps_freshNow_iff hw hd rfl,steps_freshNow_iff hw hd rfl]

/-- The user stream reconnects while an account download is in flight. -/
def reconnected : List (Timed Event) :=
  [⟨⟨1,0⟩,.connected⟩,
   ⟨⟨2,0⟩,.reply ⟨.listenKey,1⟩
     (okWith {Body.unreadable with listenKeyAck := .ok ⟨"key"⟩}) false⟩,
   ⟨⟨3,0⟩,.socket .ready⟩,
   ⟨⟨4,0⟩,.timer 4 true true⟩,
   ⟨⟨5,0⟩,.socket .disconnected⟩,
   ⟨⟨6,0⟩,.socket .ready⟩,
   ⟨⟨7,0⟩,.reply ⟨.account,4⟩
     (okWith {Body.unreadable with balancesAck := .ok ⟨[⟨"BTC",some 1,0⟩]⟩}) false⟩]

/-- A test that a fresh completion of the account download passes. -/
def freshTest (s : State) (_ : Timed Event) (s' : State) : Bool :=
  decide (s.request.stamps .account).completed ||
    !decide (s'.request.stamps .account).completed ||
    s'.log.any fun x =>
      match x.reply with
      | some (job,_) => decide ((s'.request.stamps .account).request ≤ job.sent)
      | none => false

theorem freshTest_of_freshNow {shared : Shared} {streamId : ℕ} {account : String} (s : State)
    (e : Timed Event) (s' : State)
    (h : FreshNow (downloads shared streamId account) .orders s s' ∧
      FreshNow (downloads shared streamId account) .account s s') : freshTest s e s' = true := by
  by_cases hc : (s.request.stamps .account).completed
  · simp [freshTest, hc]
  by_cases hc' : (s'.request.stamps .account).completed
  · obtain ⟨x,hx,-,job,⟨response,hr,-⟩,hsent⟩ := h.2 hc hc'
    simp only [freshTest, Bool.or_eq_true, List.any_eq_true]
    exact .inr ⟨x,hx,by rw [hr]; exact decide_eq_true hsent⟩
  · simp [freshTest, hc']

/-- The response to the request of the session before completes that of the current session. -/
theorem stale_account_completes :
    ¬ ∀ es : List (Timed Event), (∀ e ∈ es, Successful e.event) →
      (machine Shared.sample 1 2 "A1").Steps
        (fun s _ s' => FreshNow (downloads Shared.sample 1 "A1") .orders s s' ∧
          FreshNow (downloads Shared.sample 1 "A1") .account s s')
        (init 1 "A1") es := by
  intro h
  have hs : ∀ e ∈ reconnected, Successful e.event := by
    simp [reconnected, Successful, succeeds, okWith, classify, Processed.value]
  have ht := (h reconnected hs).test freshTest_of_freshNow
  exact absurd ht (by decide)

end Portfolio

/-- The downloads of an account, its orders and its trades. -/
def Recovery (k : Kind) : Prop := k ≠ .listenKeyCross

/-- In every run of either system a download that was asked for counts as completed only if a
snapshot has been dispatched since, exactly if each callback that delivers no snapshot finds
its download completed or never asked for. -/
theorem recovery_honest_iff (shared : Shared) (streamId dropCopyStreamId : ℕ) (account : String) :
    (∀ es, (Margin.machine shared streamId dropCopyStreamId account).Steps
        (fun _ _ s' => ∀ k, Recovery k → Honest (Margin.downloads shared streamId account) k s')
        (Margin.init streamId account) es ↔
      (Margin.machine shared streamId dropCopyStreamId account).Steps
        (fun s e _ => ∀ k, Recovery k →
          HonestReply (Margin.downloads shared streamId account) k s e.event)
        (Margin.init streamId account) es) ∧
    (∀ es, (Portfolio.machine shared streamId dropCopyStreamId account).Steps
        (fun _ _ s' => ∀ k, Recovery k → Honest (Portfolio.downloads shared streamId account) k s')
        (Portfolio.init streamId account) es ↔
      (Portfolio.machine shared streamId dropCopyStreamId account).Steps
        (fun s e _ => ∀ k, Recovery k →
          HonestReply (Portfolio.downloads shared streamId account) k s e.event)
        (Portfolio.init streamId account) es) :=
  ⟨steps_honest_iff (Margin.lawful shared streamId dropCopyStreamId account)
      (Margin.delivers shared streamId dropCopyStreamId account) rfl Recovery,
    steps_honest_iff (Portfolio.lawful shared streamId dropCopyStreamId account)
      (Portfolio.delivers shared streamId dropCopyStreamId account) rfl Recovery⟩

/-- Both user streams ask for an account download, which fails. -/
def Margin.disconnected : List (Timed Margin.Event) :=
  [⟨⟨1,0⟩,.connected⟩,
   ⟨⟨2,0⟩,.reply ⟨.listenKey .cross,1⟩
     (okWith {Body.unreadable with listenKeyAckMargin := .ok ⟨"token"⟩}) false⟩,
   ⟨⟨4,0⟩,.socket .ready⟩,
   ⟨⟨5,0⟩,.socket (.message (.sessionLogon ⟨200,(),⟨0,""⟩,[]⟩) order false)⟩,
   ⟨⟨6,0⟩,.socket (.message (.userDataStreamSubscribe ⟨200,(),⟨0,""⟩,[]⟩) order false)⟩,
   ⟨⟨7,0⟩,.timer 7 true true⟩,
   ⟨⟨8,0⟩,.reply ⟨.account .cross,7⟩ failed false⟩]

def Portfolio.disconnected : List (Timed Portfolio.Event) :=
  [⟨⟨1,0⟩,.connected⟩,
   ⟨⟨2,0⟩,.reply ⟨.listenKey,1⟩
     (okWith {Body.unreadable with listenKeyAck := .ok ⟨"key"⟩}) false⟩,
   ⟨⟨3,0⟩,.socket .ready⟩,
   ⟨⟨4,0⟩,.timer 4 true true⟩,
   ⟨⟨5,0⟩,.reply ⟨.account,4⟩ failed false⟩]

/-- A test that an honest completion passes: since it was asked for there has been a response. -/
def honestTest {O D Call : Type} (s : Streams O D Call) : Bool :=
  let test (k : Kind) : Bool :=
    decide ((s.request.stamps k).request = 0) || !decide (s.request.stamps k).completed ||
      s.log.any fun x =>
        match x.reply with
        | some (_,.networkError _ _ _) => false
        | some _ => decide ((s.request.stamps k).request ≤ x.time)
        | none => false
  test .account && test .accountCross

theorem honestTest_of_honest {O D Call : Type} {d : Downloads Call}
    (hd : ∀ call status error what, d.snapshot call (.networkError status error what) = none)
    {s : Streams O D Call} (h : ∀ k, Recovery k → Honest d k s) : honestTest s = true := by
  have htest : ∀ k, Recovery k → (s.request.stamps k).request = 0 ∨
      ¬ (s.request.stamps k).completed ∨ ∃ x ∈ s.log, (match x.reply with
        | some (_,.networkError _ _ _) => false
        | some _ => decide ((s.request.stamps k).request ≤ x.time)
        | none => false) = true := by
    intro k hk
    by_cases h0 : (s.request.stamps k).request = 0
    · exact .inl h0
    by_cases hc : (s.request.stamps k).completed
    · obtain ⟨x,hx,⟨job,response,hr,-,hds⟩,hle⟩ := h k hk (Nat.pos_of_ne_zero h0) hc
      refine .inr (.inr ⟨x,hx,?_⟩)
      rw [hr]
      cases response with
      | networkError status error what => rw [hd] at hds; cases hds
      | _ => exact decide_eq_true hle
    · exact .inr (.inl hc)
  have ha := htest .account (by simp [Recovery])
  have hx := htest .accountCross (by simp [Recovery])
  simp only [honestTest, Bool.and_eq_true, Bool.or_eq_true, Bool.not_eq_true',
    decide_eq_true_eq, decide_eq_false_iff_not, List.any_eq_true, or_assoc]
  exact ⟨ha,hx⟩

theorem Margin.snapshot_networkError (shared : Shared) (streamId : ℕ) (account : String)
    (call : OrderEntryMargin.Call) (status : RequestStatus) (error : Error) (what : String) :
    (downloads shared streamId account).snapshot call (.networkError status error what) = none := by
  cases call with
  | account marginMode => cases marginMode <;> rfl
  | _ => rfl

theorem Portfolio.snapshot_networkError (shared : Shared) (streamId : ℕ) (account : String)
    (call : OrderEntryPortfolio.Call) (status : RequestStatus) (error : Error) (what : String) :
    (downloads shared streamId account).snapshot call (.networkError status error what) = none := by
  cases call <;> rfl

/-- In both systems a failed account download counts as completed. -/
theorem failed_download_completes :
    (¬ ∀ es, (Margin.machine Shared.sample 1 2 "A1").Steps
      (fun _ _ s' => ∀ k, Recovery k → Honest (Margin.downloads Shared.sample 1 "A1") k s')
      (Margin.init 1 "A1") es) ∧
    (¬ ∀ es, (Portfolio.machine Shared.sample 1 2 "A1").Steps
      (fun _ _ s' => ∀ k, Recovery k → Honest (Portfolio.downloads Shared.sample 1 "A1") k s')
      (Portfolio.init 1 "A1") es) := by
  constructor
  · intro h
    have ht := (h Margin.disconnected).test fun _ _ s' hs' =>
      honestTest_of_honest (Margin.snapshot_networkError Shared.sample 1 "A1") hs'
    exact absurd ht (by decide)
  · intro h
    have ht := (h Portfolio.disconnected).test fun _ _ s' hs' =>
      honestTest_of_honest (Portfolio.snapshot_networkError Shared.sample 1 "A1") hs'
    exact absurd ht (by decide)

end RoqBinance.Gateway
