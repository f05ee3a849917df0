import Hyperliquid.Base.Procedure
import Hyperliquid.Oms.Types

/-!
# HTTP responses

The parts of `web::http` and `web::rest` that the gateway uses: statuses with their
categories, the exceptions, and what `web::rest::Response` gives.
-/

namespace Hyperliquid.Web

open Hyperliquid.Base Hyperliquid.Oms

/-- `web::http::Status`, with the statuses the gateway names. -/
inductive Status where
  | ok
  | forbidden
  | tooManyRequests
  | other (code : UInt16)
  deriving DecidableEq, Repr

/-- `web::http::Category`. -/
inductive Category where
  | unknown
  | informationalResponse
  | success
  | redirection
  | clientError
  | serverError
  deriving DecidableEq, Repr

/-- The exceptions that are told apart: `NetworkError`, and any other `std::exception`. -/
inductive Exception where
  | networkError (requestStatus : RequestStatus) (error : Error) (what : String)
  | std (what : String)
  deriving DecidableEq, Repr

/-- `web::rest::Response`: what `result()` returns, or what it throws. -/
structure Response (β : Type) where
  result : Except Exception (Status × Category × β)

end Hyperliquid.Web
