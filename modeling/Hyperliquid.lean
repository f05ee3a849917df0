import Hyperliquid.Base.BigEndian
import Hyperliquid.Base.CoreJson
import Hyperliquid.Base.Double
import Hyperliquid.Base.Download
import Hyperliquid.Base.Grid
import Hyperliquid.Base.Nearest
import Hyperliquid.Base.JsonDocument
import Hyperliquid.Base.JsonText
import Hyperliquid.Base.MessagePack
import Hyperliquid.Base.MessagePackReader
import Hyperliquid.Base.Numerals
import Hyperliquid.Base.Binary64
import Hyperliquid.Base.OrderedJson
import Hyperliquid.Base.Parts
import Hyperliquid.Base.Periodic
import Hyperliquid.Base.Procedure
import Hyperliquid.Base.Process
import Hyperliquid.Base.Rank
import Hyperliquid.Base.Reader
import Hyperliquid.Base.Replica
import Hyperliquid.Base.Run
import Hyperliquid.Base.Triple
import Hyperliquid.Oms.Types
import Hyperliquid.Web.Http
import Hyperliquid.Tools.Conversions
import Hyperliquid.Tools.WireText
import Hyperliquid.Tools.WireNumerals
import Hyperliquid.Tools.TickSizeSteps
import Hyperliquid.Tools.PriceGrid
import Hyperliquid.Tools.RoundedPrices
import Hyperliquid.Tools.FiniteRounding
import Hyperliquid.Tools.Encoder
import Hyperliquid.Tools.CreatedOrders
import Hyperliquid.Tools.PackedJson
import Hyperliquid.Tools.SignedBytes
import Hyperliquid.Tools.PrintedJson
import Hyperliquid.Tools.Crypto
import Hyperliquid.Tools.Throttle
import Hyperliquid.Protocol.OrderAcks
import Hyperliquid.Protocol.Parser
import Hyperliquid.Protocol.AckBodies
import Hyperliquid.Protocol.Told
import Hyperliquid.Gateway.Shared
import Hyperliquid.Gateway.RequestId
import Hyperliquid.Gateway.ClientOrderIds
import Hyperliquid.Gateway.OrderRequests
import Hyperliquid.Gateway.SentTexts
import Hyperliquid.Gateway.CreatedTexts
import Hyperliquid.Gateway.MarketData
import Hyperliquid.Gateway.MarketByPrice
import Hyperliquid.Gateway.Rest.PerpDexs
import Hyperliquid.Gateway.Rest.Meta
import Hyperliquid.Gateway.Rest.PublishedTicks
import Hyperliquid.Gateway.AssetIds
import Hyperliquid.Gateway.Rest.AssetIdRuns
import Hyperliquid.Gateway.ProcessResponse
import Hyperliquid.Gateway.OrderAcks
import Hyperliquid.Gateway.Transports
import Hyperliquid.Gateway.AckResponses
import Hyperliquid.Gateway.CancelReplies
import Hyperliquid.Gateway.WebSocketReplies
import Hyperliquid.Gateway.OrderReports
import Hyperliquid.Gateway.InfoTexts
import Hyperliquid.Gateway.Inbound
import Hyperliquid.Gateway.Views
import Hyperliquid.Gateway.Session
import Hyperliquid.Gateway.Symbols
import Hyperliquid.Gateway.Subscriptions
import Hyperliquid.Gateway.DropCopy
import Hyperliquid.Gateway.OrderEntry
import Hyperliquid.Gateway.SessionRun
import Hyperliquid.Gateway.Readiness
import Hyperliquid.Gateway.OrderCounter
import Hyperliquid.Gateway.StaleOrders
import Hyperliquid.Gateway.DexChains
import Hyperliquid.Gateway.KeepAlive
import Hyperliquid.Gateway.Progress.Outline
import Hyperliquid.Gateway.Progress.DropCopy
import Hyperliquid.Gateway.Progress.Queue
import Hyperliquid.Gateway.Progress.Replies
import Hyperliquid.Gateway.Progress.Runs
import Hyperliquid.Gateway.Rest.Download
import Hyperliquid.Gateway.Rest.Stream
import Hyperliquid.Gateway.Rest.MetaChain
import Hyperliquid.Gateway.Rest.Recovery.Steady
import Hyperliquid.Gateway.Rest.Recovery.Guides
import Hyperliquid.Gateway.Rest.Recovery.CarriesOn
import Hyperliquid.Gateway.Rest.Recovery.Runs
import Hyperliquid.Gateway.Controller
import Hyperliquid.Gateway.DexBounds
import Hyperliquid.Gateway.Streams
import Hyperliquid.Gateway.NamedSymbols
import Hyperliquid.Gateway.ReadySymbols
