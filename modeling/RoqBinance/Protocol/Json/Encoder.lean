import Mathlib.Algebra.Group.Int.Defs
import RoqBinance.Api

/-! The texts of requests that the encoder writes; it clears its buffer first. -/
namespace RoqBinance.Protocol.Json.Encoder

/-- `now` is in milliseconds, `lookback` in nanoseconds. -/
def myTradesUrl (symbol : String) (lookback limit now : ℕ) : String :=
  let startTime := ((now*10^6 : ℤ)-lookback).tdiv (10^6)
  "limit=" ++ toString limit ++ "&startTime=" ++ toString startTime ++ "&symbol=" ++ symbol

def cancelAllOpenOrdersUrl (symbol : String) (marginMode : MarginMode) (recvWindow now : ℕ) :
    String :=
  let isIsolated :=
    match marginMode with
    | .undefined => ""
    | .isolated => "isIsolated=TRUE&"
    | .cross => "isIsolated=FALSE&"
    | .portfolio => ""
  isIsolated ++ "symbol=" ++ symbol ++ "&recvWindow=" ++ toString recvWindow ++
    "&timestamp=" ++ toString now

end RoqBinance.Protocol.Json.Encoder
