import Hyperliquid.Base.Triple
import Hyperliquid.Web.Http

/-!
# HTTP responses of the REST streams

`process_response`, `src/roq/hyperliquid/gateway/order_entry.cpp:904–947` and the same text in
`rest.cpp:542–585`: it sends a response to one of two handlers.
-/

namespace Hyperliquid.Gateway

open Hyperliquid.Base Hyperliquid.Oms Hyperliquid.Web

/-- What the REST streams use of the library of the connection. -/
structure HttpLibrary where
  /-- `fmt::format("\x7b\x7d", status)`. -/
  statusText : Web.Status → String
  /-- What `response.expect(Status::OK)` throws for another status. -/
  unexpected : Web.Status → Exception

variable {ω β : Type}

/-- `error_handler` of `process_response`. -/
abbrev ErrorHandler (ω : Type) :=
  Origin → RequestStatus → Error → String → Proc ω Exception Unit

/-- `response.expect(Status::OK)`. -/
def expectOk (http : HttpLibrary) (status : Web.Status) : Proc ω Exception Unit :=
  if status = .ok then pure () else Proc.throw (http.unexpected status)

/-- The switch over the category, `order_entry.cpp:907–939`. -/
def dispatchCategory (http : HttpLibrary) (suspendAfter429 : Proc ω Exception Unit)
    (status : Web.Status) (category : Category) (body : β) (errorHandler : ErrorHandler ω)
    (successHandler : β → Proc ω Exception Unit) : Proc ω Exception Unit :=
  match category with
  | .unknown => expectOk http status
  | .informationalResponse => expectOk http status
  | .success => successHandler body
  | .redirection => Proc.fatal "Unexpected: URL is being redirected"
  | .clientError =>
    if status = .tooManyRequests then do
      suspendAfter429
      errorHandler .exchange .rejected .requestRateLimitReached (http.statusText status)
    else errorHandler .exchange .rejected .unknown (http.statusText status)
  | .serverError => errorHandler .exchange .rejected .unknown (http.statusText status)

/-- The two `catch` clauses, `order_entry.cpp:940–946`. -/
def handleException (errorHandler : ErrorHandler ω) : Exception → Proc ω Exception Unit
  | .networkError requestStatus error what => errorHandler .gateway requestStatus error what
  | .std what => errorHandler .exchange .error .unknown what

/-- `process_response`. An exception of either handler inside the `try` is handled too. -/
def processResponse (http : HttpLibrary) (suspendAfter429 : Proc ω Exception Unit)
    (response : Response β) (errorHandler : ErrorHandler ω)
    (successHandler : β → Proc ω Exception Unit) : Proc ω Exception Unit :=
  Proc.catchThrown
    (match response.result with
    | .ok (status, category, body) =>
      dispatchCategory http suspendAfter429 status category body errorHandler successHandler
    | .error e => Proc.throw e)
    (handleException errorHandler)

/-- A success whose handler returns is handled by it alone. -/
theorem processResponse_of_success (http : HttpLibrary) (suspendAfter429 : Proc ω Exception Unit)
    {status : Web.Status} {body : β} (errorHandler : ErrorHandler ω)
    {successHandler : β → Proc ω Exception Unit}
    (h : ∀ e, (successHandler body).result ≠ .error (.thrown e)) :
    processResponse http suspendAfter429 ⟨.ok (status, .success, body)⟩ errorHandler
      successHandler = successHandler body := by
  simp only [processResponse, dispatchCategory]
  exact Proc.catchThrown_of_not_thrown h _

/-- What is emitted for a response comes from the suspension and the two handlers. -/
theorem emits_processResponse {P : ω → Prop} (http : HttpLibrary)
    {suspendAfter429 : Proc ω Exception Unit} {response : Response β}
    {errorHandler : ErrorHandler ω} {successHandler : β → Proc ω Exception Unit}
    (hsuspend : suspendAfter429.Emits P)
    (herror : ∀ origin requestStatus error text,
      (errorHandler origin requestStatus error text).Emits P)
    (hsuccess : ∀ status body, response.result = .ok (status, .success, body) →
      (successHandler body).Emits P) :
    (processResponse http suspendAfter429 response errorHandler successHandler).Emits P := by
  apply Proc.Emits.catchThrown
  · cases hresult : response.result with
    | error e => exact Proc.emits_throw e
    | ok parts =>
      obtain ⟨status, category, body⟩ := parts
      have hexpect : (expectOk http status : Proc ω Exception Unit).Emits P := by
        unfold expectOk
        split
        · exact Proc.emits_pure ()
        · exact Proc.emits_throw _
      cases category with
      | unknown => exact hexpect
      | informationalResponse => exact hexpect
      | success => exact hsuccess status body hresult
      | redirection => exact Proc.emits_fatal _
      | clientError =>
        show (ite _ _ _ : Proc ω Exception Unit).Emits P
        split
        · exact hsuspend.bind fun _ _ ↦ herror ..
        · exact herror ..
      | serverError => exact herror ..
  · intro e
    cases e with
    | networkError requestStatus error what => exact herror ..
    | std what => exact herror ..

/-- A triple for a response: the error handler starts where a handler has thrown, or from
the precondition. -/
theorem triple_processResponse {σ : Type} {apply : σ → ω → σ} {P : σ → Prop} {Q : Unit → σ → Prop}
    {E : Failure Exception → σ → Prop} (http : HttpLibrary)
    {suspendAfter429 : Proc ω Exception Unit} {response : Response β}
    {errorHandler : ErrorHandler ω} {successHandler : β → Proc ω Exception Unit}
    (hreturn : ∀ s, P s → Q () s) (hthrow : ∀ e s, P s → E (.thrown e) s)
    (hredirect : ∀ s, P s → E (.fatal "Unexpected: URL is being redirected") s)
    (hsuspend : Proc.Triple apply P suspendAfter429 (fun _ ↦ P) E)
    (herror : ∀ origin requestStatus error text,
      Proc.Triple apply P (errorHandler origin requestStatus error text) Q E)
    (hcaught : ∀ e origin requestStatus error text,
      Proc.Triple apply (E (.thrown e)) (errorHandler origin requestStatus error text) Q E)
    (hsuccess : ∀ status body, response.result = .ok (status, .success, body) →
      Proc.Triple apply P (successHandler body) Q E) :
    Proc.Triple apply P (processResponse http suspendAfter429 response errorHandler successHandler)
      Q E := by
  apply Proc.Triple.catchThrown
  · cases hresult : response.result with
    | error e => exact Proc.Triple.throw (hthrow e)
    | ok parts =>
      obtain ⟨status, category, body⟩ := parts
      have hexpect : Proc.Triple apply P (expectOk http status) Q E := by
        unfold expectOk
        split
        · exact Proc.Triple.pure hreturn
        · exact Proc.Triple.throw (hthrow _)
      cases category with
      | unknown => exact hexpect
      | informationalResponse => exact hexpect
      | success => exact hsuccess status body hresult
      | redirection => exact Proc.Triple.fatal hredirect
      | clientError =>
        show Proc.Triple apply P (ite _ _ _) Q E
        split
        · exact hsuspend.bind fun _ _ ↦ herror ..
        · exact herror ..
      | serverError => exact herror ..
  · intro e
    cases e with
    | networkError requestStatus error what => exact hcaught ..
    | std what => exact hcaught ..

end Hyperliquid.Gateway
