import Mathlib.Algebra.Order.Ring.Int
import RoqBinance.Gateway.Instruments

/-! Several streams deliver the same messages, each with a lag of its own. What passes the
watermarks of an instrument is in order, and it ends with the newest. -/
namespace RoqBinance.Gateway
open Library Protocol.Json

namespace Instruments
variable {S : Type} (feed : Feed S)

section
variable {feed} {symbol : String} {s : State S}

theorem getInstrument_put (symbol' : String) (instrument : Instrument S) :
    getInstrument feed symbol' (put symbol instrument s) =
      if symbol' = symbol then instrument else getInstrument feed symbol' s := by
  unfold getInstrument put
  by_cases h : symbol' = symbol
  · simp [h]
  · simp [h]

variable (feed) in
def tobMark (symbol : String) (s : State S) : ℤ := (getInstrument feed symbol s).tobLastUpdateId

variable (feed) in
def mbpMark (symbol : String) (s : State S) : ℤ := (getInstrument feed symbol s).mbpLastUpdateId

theorem tobMark_put (symbol' : String) (instrument : Instrument S) :
    tobMark feed symbol' (put symbol instrument s) =
      if symbol' = symbol then instrument.tobLastUpdateId else tobMark feed symbol' s := by
  rw [tobMark,getInstrument_put]
  split_ifs <;> rfl

theorem mbpMark_put (symbol' : String) (instrument : Instrument S) :
    mbpMark feed symbol' (put symbol instrument s) =
      if symbol' = symbol then instrument.mbpLastUpdateId else mbpMark feed symbol' s := by
  rw [mbpMark,getInstrument_put]
  split_ifs <;> rfl

theorem tobMark_put_same {instrument : Instrument S}
    (h : instrument.tobLastUpdateId = tobMark feed symbol s) (symbol' : String) :
    tobMark feed symbol' (put symbol instrument s) = tobMark feed symbol' s := by
  rw [tobMark_put]
  split_ifs with hs
  · rw [h,hs]
  · rfl

theorem mbpMark_put_same {instrument : Instrument S}
    (h : instrument.mbpLastUpdateId = mbpMark feed symbol s) (symbol' : String) :
    mbpMark feed symbol' (put symbol instrument s) = mbpMark feed symbol' s := by
  rw [mbpMark_put]
  split_ifs with hs
  · rw [h,hs]
  · rfl

end

/-- A book ticker of the symbol, with the stream that delivers it, whose id fits. -/
def bookTicker? (symbol : String) : Event → Option (ℕ × BookTickerData)
  | .bookTicker streamId data =>
    if data.symbol = symbol ∧ (feed.safeCast data.orderBookUpdateId).isSome then
      some (streamId,data)
    else none
  | _ => none

/-- An update of the depth of the symbol, whose id fits. -/
def depthUpdate? (symbol : String) : Event → Option DepthUpdateData
  | .depthUpdate _ data =>
    if data.symbol = symbol ∧ (feed.safeCast data.finalUpdateId).isSome then some data else none
  | _ => none

def topOfBook? (symbol : String) : Output → Option TopOfBook
  | .topOfBook update => if update.symbol = symbol then some update else none
  | _ => none

/-- The id with which the sequencer of the symbol is called. -/
def sequenced? (symbol : String) : Output → Option ℤ
  | .sequenced symbol' _ _ _ lastSequence _ =>
    if symbol' = symbol then some lastSequence.toNat else none
  | _ => none

def tickerId (m : ℕ × BookTickerData) : ℤ := m.2.orderBookUpdateId.toNat
def finalId (data : DepthUpdateData) : ℤ := data.finalUpdateId.toNat

/-- The top of book, whichever stream has delivered it. -/
def content (update : TopOfBook) : TopOfBook := {update with streamId := 0}

theorem filterMap_onCalls {Call γ : Type} {onCall : Call → Output} {f : Output → Option γ}
    (h : ∀ call, f (onCall call) = none) (calls : List Call) :
    (onCalls onCall calls).filterMap f = [] := by
  induction calls with
  | nil => rfl
  | cons call calls ih =>
    rw [onCalls]
    split_ifs
    · simp [h]
    · simp [h, ih]

/-- A callback publishes the depth, asks for it or ends the process. -/
theorem topOfBook?_onSnapshotCall (symbol symbol' : String) (streamId sendingTimeUtc : ℕ)
    (call : SnapshotCall) :
    topOfBook? symbol (onSnapshotCall feed streamId symbol' sendingTimeUtc call) = none ∧
      sequenced? symbol (onSnapshotCall feed streamId symbol' sendingTimeUtc call) = none := by
  cases call with
  | publishSnapshot bids asks lastSequence => exact ⟨rfl,rfl⟩
  | requestSnapshot retries =>
    simp only [onSnapshotCall, requestSnapshot]
    split_ifs
    · exact ⟨rfl,rfl⟩
    · exact ⟨rfl,rfl⟩

theorem topOfBook?_onUpdateCall (symbol : String) (streamId : ℕ) (data : DepthUpdateData)
    (call : UpdateCall) :
    topOfBook? symbol (onUpdateCall feed streamId data call) = none ∧
      sequenced? symbol (onUpdateCall feed streamId data call) = none := by
  cases call with
  | publishUpdate bids asks => exact ⟨rfl,rfl⟩
  | snapshot call => exact topOfBook?_onSnapshotCall feed symbol _ streamId _ call

section
variable {feed} {Call : Type} {symbol : String} {instrument : Instrument S}
  {result : Sequenced S Call} {outputs : List Output} {s : State S}

/-- The sequencer has no part in the watermarks. -/
theorem settle_marks (h : getInstrument feed symbol s = instrument) (symbol' : String) :
    tobMark feed symbol' (settle feed symbol instrument result outputs s).1 =
        tobMark feed symbol' s ∧
      mbpMark feed symbol' (settle feed symbol instrument result outputs s).1 =
        mbpMark feed symbol' s := by
  subst h
  unfold settle
  split_ifs
  · exact ⟨rfl,rfl⟩
  · refine ⟨tobMark_put_same ?_ symbol',mbpMark_put_same ?_ symbol'⟩
    · rfl
    · rfl
  · refine ⟨tobMark_put_same ?_ symbol',mbpMark_put_same ?_ symbol'⟩
    · rfl
    · rfl

theorem settle_outputs {γ : Type} {f : Output → Option γ} (h : f (.depthRequest symbol) = none) :
    (settle feed symbol instrument result outputs s).2.filterMap f = outputs.filterMap f := by
  unfold settle
  split_ifs
  · rfl
  · simp [h]
  · rfl

end

/-- The instrument has been asked for. -/
def touch (symbol : String) (s : State S) : State S :=
  put symbol (getInstrument feed symbol s) s

section
variable {feed} {symbol : String} {s : State S} {streamId : ℕ}

theorem touch_marks (symbol' : String) :
    tobMark feed symbol' (touch feed symbol s) = tobMark feed symbol' s ∧
      mbpMark feed symbol' (touch feed symbol s) = mbpMark feed symbol' s :=
  ⟨tobMark_put_same rfl symbol',mbpMark_put_same rfl symbol'⟩

theorem onBookTicker_thrown {data : BookTickerData}
    (hcast : feed.safeCast data.orderBookUpdateId = none) :
    onBookTicker feed streamId data s = terminate (touch feed data.symbol s) := by
  simp only [onBookTicker, hcast]
  rfl

theorem onBookTicker_refused {data : BookTickerData} {updateId : ℤ}
    (hcast : feed.safeCast data.orderBookUpdateId = some updateId)
    (hlt : updateId < tobMark feed data.symbol s) :
    onBookTicker feed streamId data s = (touch feed data.symbol s,[]) := by
  simp only [onBookTicker, hcast, Instrument.tobUpdate_of_lt hlt]
  rfl

theorem onBookTicker_passed {data : BookTickerData} {updateId : ℤ}
    (hcast : feed.safeCast data.orderBookUpdateId = some updateId)
    (hle : ¬ updateId < tobMark feed data.symbol s) :
    onBookTicker feed streamId data s =
      (put data.symbol {getInstrument feed data.symbol s with tobLastUpdateId := updateId}
        (touch feed data.symbol s),
      [.topOfBook (topOfBook feed streamId data)]) := by
  simp only [onBookTicker, hcast, Instrument.tobUpdate_of_not_lt hle]
  rfl

/-- A book ticker of another symbol, or one that does not fit. -/
theorem onBookTicker_quiet {data : BookTickerData}
    (h : bookTicker? feed symbol (.bookTicker streamId data) = none) :
    tobMark feed symbol (onBookTicker feed streamId data s).1 = tobMark feed symbol s ∧
      (onBookTicker feed streamId data s).2.filterMap (topOfBook? symbol) = [] := by
  cases hcast : feed.safeCast data.orderBookUpdateId with
  | none =>
    rw [onBookTicker_thrown hcast]
    exact ⟨(touch_marks symbol).1,rfl⟩
  | some updateId =>
    have hne : symbol ≠ data.symbol := by
      rintro rfl
      simp [bookTicker?, hcast] at h
    by_cases hlt : updateId < tobMark feed data.symbol s
    · rw [onBookTicker_refused hcast hlt]
      exact ⟨(touch_marks symbol).1,rfl⟩
    · rw [onBookTicker_passed hcast hlt]
      refine ⟨?_,by simp [topOfBook?, topOfBook, hne.symm]⟩
      rw [tobMark_put,if_neg hne]
      exact (touch_marks symbol).1

theorem onBookTicker_loud {data : BookTickerData} {m : ℕ × BookTickerData}
    (h : bookTicker? feed symbol (.bookTicker streamId data) = some m) :
    tobMark feed symbol (onBookTicker feed streamId data s).1 =
        max (tobMark feed symbol s) (tickerId m) ∧
      (onBookTicker feed streamId data s).2.filterMap (topOfBook? symbol) =
        if tickerId m < tobMark feed symbol s then [] else [topOfBook feed m.1 m.2] := by
  rw [bookTicker?] at h
  split_ifs at h with hsymbol
  obtain rfl := Option.some.inj h
  obtain ⟨rfl,hfits⟩ := hsymbol
  obtain ⟨updateId,hcast⟩ := Option.isSome_iff_exists.mp hfits
  have hid : updateId = tickerId (streamId,data) := feed.safeCast_exact _ _ hcast
  rw [← hid]
  by_cases hlt : updateId < tobMark feed data.symbol s
  · rw [onBookTicker_refused hcast hlt,if_pos hlt,max_eq_left hlt.le]
    exact ⟨(touch_marks data.symbol).1,rfl⟩
  · rw [onBookTicker_passed hcast hlt,if_neg hlt,max_eq_right (not_lt.mp hlt)]
    refine ⟨?_,by simp [topOfBook?, topOfBook]⟩
    rw [tobMark_put,if_pos rfl]

theorem onBookTicker_mbp (data : BookTickerData) :
    mbpMark feed symbol (onBookTicker feed streamId data s).1 = mbpMark feed symbol s ∧
      (onBookTicker feed streamId data s).2.filterMap (sequenced? symbol) = [] := by
  cases hcast : feed.safeCast data.orderBookUpdateId with
  | none =>
    rw [onBookTicker_thrown hcast]
    exact ⟨(touch_marks symbol).2,rfl⟩
  | some updateId =>
    by_cases hlt : updateId < tobMark feed data.symbol s
    · rw [onBookTicker_refused hcast hlt]
      exact ⟨(touch_marks symbol).2,rfl⟩
    · rw [onBookTicker_passed hcast hlt]
      refine ⟨(mbpMark_put_same ?_ symbol).trans (touch_marks symbol).2,rfl⟩
      exact (touch_marks data.symbol).2.symm

theorem onDepthUpdate_thrown {data : DepthUpdateData}
    (hcast : feed.safeCast data.finalUpdateId = none) :
    onDepthUpdate feed streamId data s = terminate (touch feed data.symbol s) := by
  simp only [onDepthUpdate, hcast]
  rfl

theorem onDepthUpdate_refused {data : DepthUpdateData} {updateId : ℤ}
    (hcast : feed.safeCast data.finalUpdateId = some updateId)
    (hlt : updateId < mbpMark feed data.symbol s) :
    onDepthUpdate feed streamId data s = (touch feed data.symbol s,[]) := by
  simp only [onDepthUpdate, hcast, Instrument.mbpUpdate_of_lt hlt]
  rfl

/-- The sequencer is called, and calls back. -/
theorem onDepthUpdate_passed (streamId : ℕ) {data : DepthUpdateData} {updateId : ℤ}
    (hcast : feed.safeCast data.finalUpdateId = some updateId)
    (hle : ¬ updateId < mbpMark feed data.symbol s) :
    ∃ (result : Sequenced S UpdateCall) (bids asks : List MBPUpdate),
      onDepthUpdate feed streamId data s =
        settle feed data.symbol
          {getInstrument feed data.symbol s with mbpLastUpdateId := updateId} result
          (.sequenced data.symbol bids asks data.firstUpdateId data.finalUpdateId
              (data.firstUpdateId-1)::
            onCalls (onUpdateCall feed streamId data) result.calls)
          (put data.symbol
            {getInstrument feed data.symbol s with mbpLastUpdateId := updateId}
            (touch feed data.symbol s)) := by
  simp only [onDepthUpdate, hcast, Instrument.mbpUpdate_of_not_lt hle]
  exact ⟨_,_,_,rfl⟩

theorem onDepthUpdate_quiet {data : DepthUpdateData}
    (h : depthUpdate? feed symbol (.depthUpdate streamId data) = none) :
    mbpMark feed symbol (onDepthUpdate feed streamId data s).1 = mbpMark feed symbol s ∧
      (onDepthUpdate feed streamId data s).2.filterMap (sequenced? symbol) = [] := by
  cases hcast : feed.safeCast data.finalUpdateId with
  | none =>
    rw [onDepthUpdate_thrown hcast]
    exact ⟨(touch_marks symbol).2,rfl⟩
  | some updateId =>
    have hne : symbol ≠ data.symbol := by
      rintro rfl
      simp [depthUpdate?, hcast] at h
    by_cases hlt : updateId < mbpMark feed data.symbol s
    · rw [onDepthUpdate_refused hcast hlt]
      exact ⟨(touch_marks symbol).2,rfl⟩
    · obtain ⟨result,bids,asks,heq⟩ := onDepthUpdate_passed streamId hcast hlt
      rw [heq]
      constructor
      · rw [(settle_marks (by rw [getInstrument_put,if_pos rfl]) symbol).2,mbpMark_put,if_neg hne]
        exact (touch_marks symbol).2
      · rw [settle_outputs rfl,List.filterMap_cons_none (by simp [sequenced?, hne.symm])]
        exact filterMap_onCalls (fun call => (topOfBook?_onUpdateCall feed symbol _ data call).2) _

theorem onDepthUpdate_loud {data m : DepthUpdateData}
    (h : depthUpdate? feed symbol (.depthUpdate streamId data) = some m) :
    mbpMark feed symbol (onDepthUpdate feed streamId data s).1 =
        max (mbpMark feed symbol s) (finalId m) ∧
      (onDepthUpdate feed streamId data s).2.filterMap (sequenced? symbol) =
        if finalId m < mbpMark feed symbol s then [] else [finalId m] := by
  rw [depthUpdate?] at h
  split_ifs at h with hsymbol
  obtain rfl := Option.some.inj h
  obtain ⟨rfl,hfits⟩ := hsymbol
  obtain ⟨updateId,hcast⟩ := Option.isSome_iff_exists.mp hfits
  have hid : updateId = finalId data := feed.safeCast_exact _ _ hcast
  rw [← hid]
  by_cases hlt : updateId < mbpMark feed data.symbol s
  · rw [onDepthUpdate_refused hcast hlt,if_pos hlt,max_eq_left hlt.le]
    exact ⟨(touch_marks data.symbol).2,rfl⟩
  · obtain ⟨result,bids,asks,heq⟩ := onDepthUpdate_passed streamId hcast hlt
    rw [heq,if_neg hlt,max_eq_right (not_lt.mp hlt)]
    constructor
    · rw [(settle_marks (by rw [getInstrument_put,if_pos rfl]) data.symbol).2,mbpMark_put,
        if_pos rfl]
    · rw [settle_outputs rfl,
        List.filterMap_cons_some (show sequenced? data.symbol _ = some updateId by
          simp [sequenced?, hid, finalId]),
        filterMap_onCalls fun call => (topOfBook?_onUpdateCall feed data.symbol _ data call).2]

theorem onDepthUpdate_tob (data : DepthUpdateData) :
    tobMark feed symbol (onDepthUpdate feed streamId data s).1 = tobMark feed symbol s ∧
      (onDepthUpdate feed streamId data s).2.filterMap (topOfBook? symbol) = [] := by
  cases hcast : feed.safeCast data.finalUpdateId with
  | none =>
    rw [onDepthUpdate_thrown hcast]
    exact ⟨(touch_marks symbol).1,rfl⟩
  | some updateId =>
    by_cases hlt : updateId < mbpMark feed data.symbol s
    · rw [onDepthUpdate_refused hcast hlt]
      exact ⟨(touch_marks symbol).1,rfl⟩
    · obtain ⟨result,bids,asks,heq⟩ := onDepthUpdate_passed streamId hcast hlt
      rw [heq]
      constructor
      · rw [(settle_marks (by rw [getInstrument_put,if_pos rfl]) symbol).1]
        refine (tobMark_put_same ?_ symbol).trans (touch_marks symbol).1
        exact (touch_marks data.symbol).1.symm
      · rw [settle_outputs rfl,List.filterMap_cons_none rfl]
        exact filterMap_onCalls (fun call => (topOfBook?_onUpdateCall feed symbol _ data call).1) _

/-- A snapshot of the depth has no part in the watermarks. -/
theorem onDepthAck_marks (symbol' : String) (ack : DepthAck) :
    (tobMark feed symbol (onDepthAck feed streamId symbol' ack s).1 = tobMark feed symbol s ∧
      (onDepthAck feed streamId symbol' ack s).2.filterMap (topOfBook? symbol) = []) ∧
    (mbpMark feed symbol (onDepthAck feed streamId symbol' ack s).1 = mbpMark feed symbol s ∧
      (onDepthAck feed streamId symbol' ack s).2.filterMap (sequenced? symbol) = []) := by
  have hasked : getInstrument feed symbol' (touch feed symbol' s) = getInstrument feed symbol' s := by
    rw [touch,getInstrument_put,if_pos rfl]
  have hcalls := topOfBook?_onSnapshotCall feed symbol symbol' streamId 0
  unfold onDepthAck
  refine ⟨⟨(settle_marks hasked symbol).1.trans (touch_marks symbol).1,?_⟩,
    ⟨(settle_marks hasked symbol).2.trans (touch_marks symbol).2,?_⟩⟩
  · rw [settle_outputs rfl]
    exact filterMap_onCalls (fun call => (hcalls call).1) _
  · rw [settle_outputs rfl]
    exact filterMap_onCalls (fun call => (hcalls call).2) _

end

variable (symbol : String)

theorem next_eq_some {s s' : State S} {e : Event} (h : (machine feed).next s e = some s') :
    s' = (handle feed e s).1 := by
  simp only [machine] at h
  split_ifs at h
  exact (Option.some.inj h).symm

theorem marks_topOfBook : Marks (machine feed) (outputs feed) (tobMark feed symbol) tickerId
    (bookTicker? feed symbol) (topOfBook? symbol) (fun m => topOfBook feed m.1 m.2) where
  quiet s e s' hn hi := by
    rw [next_eq_some feed hn]
    cases e with
    | bookTicker streamId data => exact onBookTicker_quiet hi
    | depthUpdate streamId data => exact onDepthUpdate_tob data
    | depthAck streamId symbol' ack => exact (onDepthAck_marks symbol' ack).1
  loud s e s' m hn hi := by
    rw [next_eq_some feed hn]
    cases e with
    | bookTicker streamId data => exact onBookTicker_loud hi
    | depthUpdate streamId data => cases hi
    | depthAck streamId symbol' ack => cases hi

theorem marks_sequenced : Marks (machine feed) (outputs feed) (mbpMark feed symbol) finalId
    (depthUpdate? feed symbol) (sequenced? symbol) finalId where
  quiet s e s' hn hi := by
    rw [next_eq_some feed hn]
    cases e with
    | bookTicker streamId data => exact onBookTicker_mbp data
    | depthUpdate streamId data => exact onDepthUpdate_quiet hi
    | depthAck streamId symbol' ack => exact (onDepthAck_marks symbol' ack).2
  loud s e s' m hn hi := by
    rw [next_eq_some feed hn]
    cases e with
    | bookTicker streamId data => cases hi
    | depthUpdate streamId data => exact onDepthUpdate_loud hi
    | depthAck streamId symbol' ack => cases hi

/-- The machine with all that has been put out. -/
abbrev history : Machine (State S × List Output) Event := (machine feed).recorded (outputs feed)

section
variable {feed} {symbol} {es es' : List Event} {p p' : State S × List Output}

theorem published_eq (hr : (history feed).run (history feed).init es = some p) :
    p.2.filterMap (topOfBook? symbol) =
      (passed tickerId 0 (es.filterMap (bookTicker? feed symbol))).map
        fun m => topOfBook feed m.1 m.2 :=
  (marks_topOfBook feed symbol).run hr

theorem sequenced_eq (hr : (history feed).run (history feed).init es = some p) :
    p.2.filterMap (sequenced? symbol) =
      (passed finalId 0 (es.filterMap (depthUpdate? feed symbol))).map finalId :=
  (marks_sequenced feed symbol).run hr

/-- The ids with which the sequencer of a symbol is called are strictly increasing if and only if
no update comes with the newest id that has been delivered, by whichever stream. -/
theorem sequenced_increasing_iff (hr : (history feed).run (history feed).init es = some p)
    (symbol : String) :
    (p.2.filterMap (sequenced? symbol)).Pairwise (· < ·) ↔
      NoTie finalId (es.filterMap (depthUpdate? feed symbol)) := by
  rw [sequenced_eq hr,List.pairwise_map]
  exact pairwise_lt_passed_iff _ fun data _ => Int.natCast_nonneg _

/-- What has been published last is made of the newest message. -/
theorem getLast?_published (hr : (history feed).run (history feed).init es = some p)
    (hne : es.filterMap (bookTicker? feed symbol) ≠ []) :
    ∃ m ∈ es.filterMap (bookTicker? feed symbol),
      (∀ m' ∈ es.filterMap (bookTicker? feed symbol), tickerId m' ≤ tickerId m) ∧
      (p.2.filterMap (topOfBook? symbol)).getLast? = some (topOfBook feed m.1 m.2) := by
  have hnonneg : ∀ m ∈ es.filterMap (bookTicker? feed symbol), 0 ≤ tickerId m :=
    fun m _ => Int.natCast_nonneg _
  obtain ⟨m,hm,hlast,hkey⟩ := getLast?_passed hne hnonneg
  refine ⟨m,hm,?_,?_⟩
  · rw [hkey]
    exact (le_watermark 0 _).2
  · rw [published_eq hr,List.getLast?_map,hlast]
    rfl

/-- The sequences of what has been published never decrease. -/
theorem published_sorted (hr : (history feed).run (history feed).init es = some p)
    (symbol : String) :
    ((p.2.filterMap (topOfBook? symbol)).map TopOfBook.exchangeSequence).Pairwise (· ≤ ·) := by
  rw [published_eq hr,List.map_map,List.pairwise_map]
  refine (pairwise_passed 0 _).imp fun {m m'} h => ?_
  exact UInt64.le_iff_toNat_le.mpr (Int.ofNat_le.mp h)

/-- The messages of one symbol, wherever they come from, determine their content by their id. -/
def Determined (feed : Feed S) (symbol : String) (es : List Event) : Prop :=
  ∀ m ∈ es.filterMap (bookTicker? feed symbol), ∀ m' ∈ es.filterMap (bookTicker? feed symbol),
    m.2.orderBookUpdateId = m'.2.orderBookUpdateId → m.2 = m'.2

theorem tickerId_inj {m m' : ℕ × BookTickerData} (h : tickerId m = tickerId m') :
    m.2.orderBookUpdateId = m'.2.orderBookUpdateId :=
  UInt64.toNat_inj.mp (Int.ofNat_inj.mp h)

/-- A message with the largest id is what has been published last. -/
theorem content_published (hr : (history feed).run (history feed).init es = some p)
    (hdata : Determined feed symbol es) {m : ℕ × BookTickerData}
    (hm : m ∈ es.filterMap (bookTicker? feed symbol))
    (hmax : ∀ m' ∈ es.filterMap (bookTicker? feed symbol), tickerId m' ≤ tickerId m) :
    (p.2.filterMap (topOfBook? symbol)).getLast?.map content =
      some (content (topOfBook feed m.1 m.2)) := by
  obtain ⟨x,hx,hmax',hlast⟩ := getLast?_published hr (List.ne_nil_of_mem hm)
  have hid : tickerId x = tickerId m := le_antisymm (hmax x hx) (hmax' m hm)
  rw [hlast,Option.map_some,content,content,hdata x hx m hm (tickerId_inj hid)]
  rfl

/-- Two runs over the same messages of a symbol, in whichever order and by whichever streams,
publish in order and end with the same top of book, which is that of the newest message; what
comes with other symbols does not matter. -/
theorem topOfBook_converges (hr : (history feed).run (history feed).init es = some p)
    (hr' : (history feed).run (history feed).init es' = some p')
    (hdata : Determined feed symbol es)
    (hperm : ((es.filterMap (bookTicker? feed symbol)).map Prod.snd).Perm
      ((es'.filterMap (bookTicker? feed symbol)).map Prod.snd)) :
    ((p.2.filterMap (topOfBook? symbol)).map TopOfBook.exchangeSequence).Pairwise (· ≤ ·) ∧
    (∀ m ∈ es.filterMap (bookTicker? feed symbol),
      (∀ m' ∈ es.filterMap (bookTicker? feed symbol), tickerId m' ≤ tickerId m) →
        (p.2.filterMap (topOfBook? symbol)).getLast?.map content =
          some (content (topOfBook feed m.1 m.2))) ∧
    (p.2.filterMap (topOfBook? symbol)).getLast?.map content =
      (p'.2.filterMap (topOfBook? symbol)).getLast?.map content := by
  refine ⟨published_sorted hr symbol,fun m => content_published hr hdata,?_⟩
  by_cases hne : es.filterMap (bookTicker? feed symbol) = []
  · have hne' : es'.filterMap (bookTicker? feed symbol) = [] := by
      rw [hne,List.map_nil] at hperm
      exact List.map_eq_nil_iff.mp hperm.nil_eq.symm
    rw [published_eq hr,published_eq hr',hne,hne']
  · obtain ⟨m,hm,hmax,hlast⟩ := getLast?_published hr hne
    have hmem : ∀ data, data ∈ (es'.filterMap (bookTicker? feed symbol)).map Prod.snd →
        ∃ x ∈ es.filterMap (bookTicker? feed symbol), x.2 = data := by
      intro data hd
      exact List.mem_map.mp (hperm.mem_iff.mpr hd)
    obtain ⟨m',hm',hdata'⟩ := List.mem_map.mp (hperm.mem_iff.mp (List.mem_map_of_mem hm))
    have hdetermined : Determined feed symbol es' := by
      intro x hx y hy hxy
      obtain ⟨a,ha,hax⟩ := hmem x.2 (List.mem_map_of_mem hx)
      obtain ⟨b,hb,hby⟩ := hmem y.2 (List.mem_map_of_mem hy)
      rw [← hax,← hby] at hxy ⊢
      exact hdata a ha b hb hxy
    have hmax' : ∀ x ∈ es'.filterMap (bookTicker? feed symbol), tickerId x ≤ tickerId m' := by
      intro x hx
      obtain ⟨a,ha,hax⟩ := hmem x.2 (List.mem_map_of_mem hx)
      rw [tickerId,tickerId,← hax,hdata']
      exact hmax a ha
    rw [content_published hr hdata hm hmax,content_published hr' hdetermined hm' hmax']
    simp [content, topOfBook, hdata']

end

/-- A sequencer that publishes whatever it is given. -/
def passThrough : Feed Unit where
  exchange := "binance"
  mbpRequestMaxRetries := 0
  createSequencer := ()
  update _ bids asks _ _ _ := ⟨(),[.publishUpdate bids asks],false⟩
  snapshot _ bids asks sequence := ⟨(),[.publishSnapshot bids asks sequence],false⟩
  clear _ := ()
  safeCast x := if x.toNat < 2^63 then some x.toNat else none
  safeCast_exact x y h := by
    split_ifs at h
    exact (Option.some.inj h).symm
  safeCast_fits x h := by
    rw [if_pos h]
    rfl

def depthUpdate (firstUpdateId finalUpdateId : UInt64) : DepthUpdateData :=
  ⟨7,"BTCUSDT",firstUpdateId,finalUpdateId,[⟨some 100,some 1⟩],[]⟩

/-- Both streams deliver the first update before the primary delivers the second. -/
def redundant : List Event :=
  [.depthUpdate 1 (depthUpdate 1 5),.depthUpdate 2 (depthUpdate 1 5),
    .depthUpdate 1 (depthUpdate 6 9)]

theorem sequenced_redundant_iff : ∃ p,
    (history passThrough).run (history passThrough).init redundant = some p ∧
      ((p.2.filterMap (sequenced? "BTCUSDT")).Pairwise (· < ·) ↔
        NoTie finalId (redundant.filterMap (depthUpdate? passThrough "BTCUSDT"))) := by
  have hrun : ((history passThrough).run (history passThrough).init redundant).isSome := by decide
  obtain ⟨p,hr⟩ := Option.isSome_iff_exists.mp hrun
  exact ⟨p,hr,sequenced_increasing_iff hr "BTCUSDT"⟩

/-- The updates of the depth that a stream delivers. -/
def deliveredBy (streamId : ℕ) : Event → Option DepthUpdateData
  | .depthUpdate streamId' data => if streamId' = streamId then some data else none
  | _ => none

/-- The sequencer is called twice with one update, although each stream delivers the updates of
the exchange in their order. -/
theorem redundant_not_increasing :
    ¬ ∀ (exchange : List DepthUpdateData) (es : List Event) (p : State Unit × List Output),
      exchange.Pairwise (finalId · < finalId ·) →
      (∀ streamId, (es.filterMap (deliveredBy streamId)).Sublist exchange) →
      (history passThrough).run (history passThrough).init es = some p →
        (p.2.filterMap (sequenced? "BTCUSDT")).Pairwise (· < ·) := by
  intro h
  have hrun : ((history passThrough).run (history passThrough).init redundant).any
      (fun p => p.2.filterMap (sequenced? "BTCUSDT") = [5,5,9]) = true := by decide
  obtain ⟨p,hr,hp⟩ := (Option.any_eq_true _ _).mp hrun
  have hsub : ∀ streamId, (redundant.filterMap (deliveredBy streamId)).Sublist
      [depthUpdate 1 5,depthUpdate 6 9] := by
    intro streamId
    by_cases h1 : streamId = 1
    · subst h1
      decide
    · by_cases h2 : streamId = 2
      · subst h2
        decide
      · simp [redundant, deliveredBy, Ne.symm h1, Ne.symm h2]
  have hpairwise := h [depthUpdate 1 5,depthUpdate 6 9] redundant p (by decide) hsub hr
  rw [of_decide_eq_true hp] at hpairwise
  revert hpairwise
  decide

def ticker (id : UInt64) (symbol : String) : BookTickerData :=
  ⟨id,symbol,some 100,some 1,some 101,some 2⟩

def inOrder : List Event :=
  [.bookTicker 1 (ticker 5 "BTCUSDT"),.bookTicker 2 (ticker 8 "BTCUSDT"),
    .bookTicker 1 (ticker 5 "BTCUSDT")]

def outOfOrder : List Event :=
  [.bookTicker 2 (ticker 8 "BTCUSDT"),.bookTicker 2 (ticker 9 "ETHUSDT"),
    .bookTicker 1 (ticker 5 "BTCUSDT"),.bookTicker 1 (ticker 5 "BTCUSDT")]

theorem topOfBook_converges_outOfOrder : ∃ p p',
    (history passThrough).run (history passThrough).init inOrder = some p ∧
    (history passThrough).run (history passThrough).init outOfOrder = some p' ∧
    ((p.2.filterMap (topOfBook? "BTCUSDT")).map TopOfBook.exchangeSequence).Pairwise (· ≤ ·) ∧
    (∀ m ∈ inOrder.filterMap (bookTicker? passThrough "BTCUSDT"),
      (∀ m' ∈ inOrder.filterMap (bookTicker? passThrough "BTCUSDT"), tickerId m' ≤ tickerId m) →
        (p.2.filterMap (topOfBook? "BTCUSDT")).getLast?.map content =
          some (content (topOfBook passThrough m.1 m.2))) ∧
    (p.2.filterMap (topOfBook? "BTCUSDT")).getLast?.map content =
      (p'.2.filterMap (topOfBook? "BTCUSDT")).getLast?.map content := by
  have hrun : ((history passThrough).run (history passThrough).init inOrder).isSome := by decide
  have hrun' : ((history passThrough).run (history passThrough).init outOfOrder).isSome := by
    decide
  obtain ⟨p,hr⟩ := Option.isSome_iff_exists.mp hrun
  obtain ⟨p',hr'⟩ := Option.isSome_iff_exists.mp hrun'
  refine ⟨p,p',hr,hr',topOfBook_converges hr hr' ?_ ?_⟩
  · unfold Determined
    decide
  · decide

end Instruments
end RoqBinance.Gateway
