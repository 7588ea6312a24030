import Mathlib.Data.UInt
import Mathlib.Logic.Function.Basic
import RoqBinance.Api
import RoqBinance.Library.Watermark

/-! The instruments that all streams of market data share, and what the streams make of a book
ticker and of an update of the depth. An instrument remembers the newest of each. -/
namespace RoqBinance.Protocol.Json

structure BookTickerData where
  orderBookUpdateId : UInt64
  symbol : String
  bestBidPrice : Double
  bestBidQty : Double
  bestAskPrice : Double
  bestAskQty : Double
  deriving DecidableEq, Repr

structure DepthItem where
  price : Double
  qty : Double
  deriving DecidableEq, Repr

structure DepthUpdateData where
  eventTime : ℕ
  symbol : String
  firstUpdateId : UInt64
  finalUpdateId : UInt64
  bids : List DepthItem
  asks : List DepthItem
  deriving DecidableEq, Repr

structure DepthAck where
  lastUpdateId : UInt64
  bids : List DepthItem
  asks : List DepthItem
  deriving DecidableEq, Repr

end RoqBinance.Protocol.Json

namespace RoqBinance

structure Layer where
  bidPrice : Double
  bidQuantity : Double
  askPrice : Double
  askQuantity : Double
  deriving DecidableEq, Repr

structure TopOfBook where
  streamId : ℕ
  exchange : String
  symbol : String
  layer : Layer
  updateType : UpdateType
  exchangeTimeUtc : ℕ
  exchangeSequence : UInt64
  sendingTimeUtc : ℕ
  deriving DecidableEq, Repr

structure MBPUpdate where
  price : Double
  quantity : Double
  impliedQuantity : Double
  deriving DecidableEq, Repr

structure MarketByPriceUpdate where
  streamId : ℕ
  exchange : String
  symbol : String
  bids : List MBPUpdate
  asks : List MBPUpdate
  updateType : UpdateType
  exchangeTimeUtc : ℕ
  exchangeSequence : UInt64
  sendingTimeUtc : ℕ
  deriving DecidableEq, Repr

end RoqBinance

namespace RoqBinance.Gateway
open Library Protocol.Json

/-- What the sequencer of a book calls back for; a snapshot comes with the sequence that the
sequencer has reached. -/
inductive SnapshotCall
  | publishSnapshot (bids asks : List MBPUpdate) (lastSequence : UInt64)
  | requestSnapshot (retries : ℕ)
  deriving DecidableEq, Repr

/-- With an update there is one callback more. -/
inductive UpdateCall
  | publishUpdate (bids asks : List MBPUpdate)
  | snapshot (call : SnapshotCall)
  deriving DecidableEq, Repr

/-- The sequencer after it has been called, and its callbacks; an exception for a bad state may
have ended the call. -/
structure Sequenced (S Call : Type) where
  sequencer : S
  calls : List Call
  badState : Bool

/-- What the streams take from libraries: the sequencer, and the conversion of an id, which
throws where the value does not fit. -/
structure Feed (S : Type) where
  exchange : String
  mbpRequestMaxRetries : ℕ
  createSequencer : S
  update : S → List MBPUpdate → List MBPUpdate → UInt64 → UInt64 → UInt64 →
    Sequenced S UpdateCall
  snapshot : S → List MBPUpdate → List MBPUpdate → UInt64 → Sequenced S SnapshotCall
  clear : S → S
  safeCast : UInt64 → Option ℤ
  safeCast_exact : ∀ x y, safeCast x = some y → y = x.toNat
  safeCast_fits : ∀ x, x.toNat < 2^63 → (safeCast x).isSome

structure Instrument (S : Type) where
  tobLastUpdateId : ℤ
  mbpLastUpdateId : ℤ
  sequencer : S

namespace Instrument
variable {S : Type}

def create (feed : Feed S) : Instrument S := ⟨0,0,feed.createSequencer⟩

/-- An update with the last id is not refused. -/
def tobUpdate (updateId : ℤ) (self : Instrument S) : Option (Instrument S) :=
  (advance self.tobLastUpdateId updateId).map fun last => {self with tobLastUpdateId := last}

/-- An update with the last id is not refused. -/
def mbpUpdate (updateId : ℤ) (self : Instrument S) : Option (Instrument S) :=
  (advance self.mbpLastUpdateId updateId).map fun last => {self with mbpLastUpdateId := last}

variable {self : Instrument S} {updateId : ℤ}

theorem tobUpdate_of_lt (h : updateId < self.tobLastUpdateId) : self.tobUpdate updateId = none := by
  simp [tobUpdate, advance, h]

theorem tobUpdate_of_not_lt (h : ¬ updateId < self.tobLastUpdateId) :
    self.tobUpdate updateId = some {self with tobLastUpdateId := updateId} := by
  simp [tobUpdate, advance, h]

theorem mbpUpdate_of_lt (h : updateId < self.mbpLastUpdateId) : self.mbpUpdate updateId = none := by
  simp [mbpUpdate, advance, h]

theorem mbpUpdate_of_not_lt (h : ¬ updateId < self.mbpLastUpdateId) :
    self.mbpUpdate updateId = some {self with mbpLastUpdateId := updateId} := by
  simp [mbpUpdate, advance, h]

end Instrument

namespace Instruments

/-- `sequenced` is a call of the sequencer of the symbol. -/
inductive Output
  | topOfBook (update : TopOfBook)
  | sequenced (symbol : String) (bids asks : List MBPUpdate)
    (firstSequence lastSequence previousSequence : UInt64)
  | marketByPrice (update : MarketByPriceUpdate)
  | depthRequest (symbol : String)
  | fatal (text : String)
  deriving DecidableEq, Repr

def Output.isFatal : Output → Bool
  | fatal _ => true
  | _ => false

/-- The map of instruments, and whether the process has ended. -/
structure State (S : Type) where
  instruments : String → Option (Instrument S)
  ended : Bool

variable {S : Type} (feed : Feed S)

/-- An instrument is created when it is first asked for. -/
def getInstrument (symbol : String) (s : State S) : Instrument S :=
  (s.instruments symbol).getD (.create feed)

def put (symbol : String) (instrument : Instrument S) (s : State S) : State S :=
  {s with instruments := Function.update s.instruments symbol (some instrument)}

/-- An exception that nobody handles ends the process. -/
def terminate (s : State S) : State S × List Output :=
  ({s with ended := true},[.fatal "terminate"])

def topOfBook (streamId : ℕ) (data : BookTickerData) : TopOfBook :=
  { streamId := streamId, exchange := feed.exchange, symbol := data.symbol,
    layer := ⟨data.bestBidPrice,data.bestBidQty,data.bestAskPrice,data.bestAskQty⟩,
    updateType := .snapshot, exchangeTimeUtc := 0, exchangeSequence := data.orderBookUpdateId,
    sendingTimeUtc := 0 }

def onBookTicker (streamId : ℕ) (data : BookTickerData) (s : State S) : State S × List Output :=
  let instrument := getInstrument feed data.symbol s
  let s := put data.symbol instrument s
  match feed.safeCast data.orderBookUpdateId with
  | none => terminate s
  | some updateId =>
    match instrument.tobUpdate updateId with
    | none => (s,[])
    | some instrument => (put data.symbol instrument s,[.topOfBook (topOfBook feed streamId data)])

def mbpUpdate (item : DepthItem) : MBPUpdate := ⟨item.price,item.qty,NaN⟩

def marketByPriceUpdate (streamId : ℕ) (symbol : String) (bids asks : List MBPUpdate)
    (updateType : UpdateType) (exchangeSequence : UInt64) (sendingTimeUtc : ℕ) :
    MarketByPriceUpdate :=
  { streamId := streamId, exchange := feed.exchange, symbol := symbol, bids := bids, asks := asks,
    updateType := updateType, exchangeTimeUtc := 0, exchangeSequence := exchangeSequence,
    sendingTimeUtc := sendingTimeUtc }

def requestSnapshot (symbol : String) (retries : ℕ) : Output :=
  if feed.mbpRequestMaxRetries ≠ 0 ∧ feed.mbpRequestMaxRetries < retries then .fatal "Unexpected"
  else .depthRequest symbol

def onSnapshotCall (streamId : ℕ) (symbol : String) (sendingTimeUtc : ℕ) : SnapshotCall → Output
  | .publishSnapshot bids asks lastSequence =>
    .marketByPrice (marketByPriceUpdate feed streamId symbol bids asks .snapshot lastSequence
      sendingTimeUtc)
  | .requestSnapshot retries => requestSnapshot feed symbol retries

def onUpdateCall (streamId : ℕ) (data : DepthUpdateData) : UpdateCall → Output
  | .publishUpdate bids asks =>
    .marketByPrice (marketByPriceUpdate feed streamId data.symbol bids asks .incremental
      data.finalUpdateId data.eventTime)
  | .snapshot call => onSnapshotCall feed streamId data.symbol data.eventTime call

/-- The effects of the callbacks, up to one that ends the process. -/
def onCalls {Call : Type} (onCall : Call → Output) : List Call → List Output
  | [] => []
  | call::calls =>
    if (onCall call).isFatal then [onCall call] else onCall call::onCalls onCall calls

/-- After a bad state the sequencer is cleared and the depth is asked for. -/
def settle {Call : Type} (symbol : String) (instrument : Instrument S)
    (result : Sequenced S Call) (outputs : List Output) (s : State S) : State S × List Output :=
  if outputs.any Output.isFatal then ({s with ended := true},outputs)
  else if result.badState then
    (put symbol {instrument with sequencer := feed.clear result.sequencer} s,
      outputs ++ [.depthRequest symbol])
  else (put symbol {instrument with sequencer := result.sequencer} s,outputs)

def onDepthUpdate (streamId : ℕ) (data : DepthUpdateData) (s : State S) :
    State S × List Output :=
  let instrument := getInstrument feed data.symbol s
  let s := put data.symbol instrument s
  match feed.safeCast data.finalUpdateId with
  | none => terminate s
  | some updateId =>
    match instrument.mbpUpdate updateId with
    | none => (s,[])
    | some instrument =>
      let s := put data.symbol instrument s
      let bids := data.bids.map mbpUpdate
      let asks := data.asks.map mbpUpdate
      let previous := data.firstUpdateId-1
      let result := feed.update instrument.sequencer bids asks data.firstUpdateId
        data.finalUpdateId previous
      settle feed data.symbol instrument result
        (.sequenced data.symbol bids asks data.firstUpdateId data.finalUpdateId previous::
          onCalls (onUpdateCall feed streamId data) result.calls) s

/-- The REST stream passes a snapshot to the sequencer. -/
def onDepthAck (streamId : ℕ) (symbol : String) (ack : DepthAck) (s : State S) :
    State S × List Output :=
  let instrument := getInstrument feed symbol s
  let s := put symbol instrument s
  let result := feed.snapshot instrument.sequencer (ack.bids.map mbpUpdate)
    (ack.asks.map mbpUpdate) ack.lastUpdateId
  settle feed symbol instrument result
    (onCalls (onSnapshotCall feed streamId symbol 0) result.calls) s

/-- The messages of the streams of market data, and the replies to the REST stream. -/
inductive Event
  | bookTicker (streamId : ℕ) (data : BookTickerData)
  | depthUpdate (streamId : ℕ) (data : DepthUpdateData)
  | depthAck (streamId : ℕ) (symbol : String) (ack : DepthAck)
  deriving DecidableEq, Repr

def handle (e : Event) (s : State S) : State S × List Output :=
  match e with
  | .bookTicker streamId data => onBookTicker feed streamId data s
  | .depthUpdate streamId data => onDepthUpdate feed streamId data s
  | .depthAck streamId symbol ack => onDepthAck feed streamId symbol ack s

def outputs (s : State S) (e : Event) : List Output := (handle feed e s).2

def machine : Machine (State S) Event where
  init := ⟨fun _ => none,false⟩
  next s e := if s.ended then none else some (handle feed e s).1

end Instruments
end RoqBinance.Gateway
