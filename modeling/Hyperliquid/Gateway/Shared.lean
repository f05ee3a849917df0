/-!
# Settings and state shared by the streams

The settings the handlers read, `flags.json:6–21`, and the parts of `gateway/shared.hpp`
that several streams use.
-/

namespace Hyperliquid.Gateway

/-- `flags::Settings`, with the fields the handlers read. -/
structure Settings where
  exchange : String
  dex : List String
  aggregator : Bool
  deriving DecidableEq, Repr

/-- `get_exchange_from_coin`, `rest.cpp:79–89` and the same text in the other streams: an
aggregator takes the text before the first colon, if there is one. -/
def getExchangeFromCoin (coin : String) (settings : Settings) : String :=
  if settings.aggregator then
    if ':' ∈ coin.toList then String.ofList (coin.toList.takeWhile (· ≠ ':'))
    else settings.exchange
  else settings.exchange

/-- `Shared::Dex`, `shared.hpp:46–49`. -/
structure Dex where
  name : String
  assetIdOffset : Int32
  deriving DecidableEq, Repr

end Hyperliquid.Gateway
