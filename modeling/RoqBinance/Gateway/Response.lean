import RoqBinance.Gateway.Shared

/-! HTTP responses to the REST requests of the order-entry streams, and how a response is
turned into a call of the success or of the error handler. -/
namespace RoqBinance.Gateway
open Protocol.Json

/-- The orders of a reply that are dispatched. -/
def ordersOf (ack : OpenOrdersAck) : List Order :=
  ack.data.filter fun order => order.clientOrderId ≠ ""

inductive Category
  | unknown | informationalResponse | success | redirection | clientError | serverError
  deriving DecidableEq, Repr

/-- A response body as each of the generated parsers reads it; the text is the exception of
a parser that cannot. -/
structure Body where
  errorError : Except String ErrorError
  listenKeyAck : Except String ListenKeyAck
  listenKeyAckMargin : Except String ListenKeyAckMargin
  accountAck : Except String AccountAck
  crossMarginAccount : Except String CrossMarginAccount
  balancesAck : Except String BalancesAck
  openOrdersAck : Except String OpenOrdersAck
  tradesAck : Except String TradesAck
  newOrderAck : Except String NewOrderAck
  cancelOrderAck : Except String CancelOrderAck
  cancelAllOpenOrdersAck : Except String OpenOrdersAck

namespace Body

def unreadable : Body where
  errorError := .error "parse"
  listenKeyAck := .error "parse"
  listenKeyAckMargin := .error "parse"
  accountAck := .error "parse"
  crossMarginAccount := .error "parse"
  balancesAck := .error "parse"
  openOrdersAck := .error "parse"
  tradesAck := .error "parse"
  newOrderAck := .error "parse"
  cancelOrderAck := .error "parse"
  cancelAllOpenOrdersAck := .error "parse"

end Body

/-- What a callback is given: a result, or the exception that reading the result throws. The
header `Retry-After` is a duration, zero when it is absent or cannot be read. -/
inductive RestResponse
  | result (status : ℕ) (category : Category) (retryAfter : ℕ) (body : Body)
  | omsException (origin : Origin) (status : RequestStatus) (error : Error) (what : String)
  | networkError (status : RequestStatus) (error : Error) (what : String)
  | exception (what : String)

def FORBIDDEN : ℕ := 403
def I_AM_A_TEAPOT : ℕ := 418
def TOO_MANY_REQUESTS : ℕ := 429

/-- Which handler a response is passed to. The rate limits are errors that may first act on
the connection; `forbidden` is the serious one. -/
inductive Processed (α : Type)
  | success (value : α)
  | error (origin : Origin) (status : RequestStatus) (error : Error) (text : String)
  | rateLimited (forbidden : Bool) (retryAfter : ℕ) (text : String)
  | fatal (text : String)

/-- The success handler starts by decoding the body. -/
def classify {α : Type} (decode : Body → Except String α) (response : RestResponse) : Processed α :=
  match response with
  | .result status category retryAfter body =>
    match category with
    | .unknown => .error .exchange .error .unknown "expect"
    | .informationalResponse => .error .exchange .error .unknown "expect"
    | .success =>
      match decode body with
      | .ok value => .success value
      | .error what => .error .exchange .error .unknown what
    | .redirection => .fatal "Unexpected: URL is being redirected"
    | .clientError =>
      if status = FORBIDDEN then .rateLimited true retryAfter (toString status)
      else if status = I_AM_A_TEAPOT ∨ status = TOO_MANY_REQUESTS then
        .rateLimited false retryAfter (toString status)
      else
        match body.errorError with
        | .ok error => .error .exchange .rejected (guessError error.code) error.msg
        | .error what => .error .exchange .error .unknown what
    | .serverError => .error .exchange .rejected .unknown (toString status)
  | .omsException origin status error what => .error origin status error what
  | .networkError status error what => .error .gateway status error what
  | .exception what => .error .exchange .error .unknown what

section
variable {Self Call : Type}

def wafLimitViolation (shared : Shared) (ctx : Context Self Call) : Context Self Call :=
  if shared.settings.terminateOn403 then ctx.fatal "WAF limit violation"
  else ctx.emit (.suspendFor shared.settings.backOffDelay)

/-- `limit` is what a stream does to its connection when a rate limit is reached. -/
def processResponseWith {α : Type} (limit : Bool → ℕ → Context Self Call → Context Self Call)
    (decode : Body → Except String α) (response : RestResponse)
    (errorHandler : Origin → RequestStatus → Error → String → Context Self Call → Context Self Call)
    (successHandler : α → Context Self Call → Context Self Call)
    (ctx : Context Self Call) : Context Self Call :=
  match classify decode response with
  | .success value => successHandler value ctx
  | .error origin status error text => errorHandler origin status error text ctx
  | .rateLimited forbidden retryAfter text =>
    errorHandler .exchange .rejected .requestRateLimitReached text (limit forbidden retryAfter ctx)
  | .fatal text => ctx.fatal text

variable {α : Type} {limit : Bool → ℕ → Context Self Call → Context Self Call}
  {decode : Body → Except String α} {response : RestResponse}
  {errorHandler : Origin → RequestStatus → Error → String → Context Self Call → Context Self Call}
  {successHandler : α → Context Self Call → Context Self Call} {ctx : Context Self Call}

theorem processResponseWith_success {value : α} (h : classify decode response = .success value) :
    processResponseWith limit decode response errorHandler successHandler ctx =
      successHandler value ctx := by
  rw [processResponseWith,h]

/-- A response is handled from a context that satisfies `I`, perhaps after the rate limits. -/
theorem processResponseWith_cases {I P : Context Self Call → Prop} (h : I ctx)
    (hlimit : ∀ forbidden retryAfter, I (limit forbidden retryAfter ctx))
    (herror : ∀ origin status error text ctx', I ctx' →
      P (errorHandler origin status error text ctx'))
    (hsuccess : ∀ value, classify decode response = .success value → P (successHandler value ctx))
    (hfatal : ∀ text, P (ctx.fatal text)) :
    P (processResponseWith limit decode response errorHandler successHandler ctx) := by
  unfold processResponseWith
  cases hclass : classify decode response with
  | success value => exact hsuccess value hclass
  | error origin status error text => exact herror _ _ _ _ _ h
  | rateLimited forbidden retryAfter text => exact herror _ _ _ _ _ (hlimit _ _)
  | fatal text => exact hfatal text

end

def Processed.value {α : Type} : Processed α → Option α
  | success value => some value
  | _ => none

theorem Processed.value_eq_some {α : Type} {x : Processed α} {value : α} :
    x.value = some value ↔ x = .success value := by
  cases x <;> simp [Processed.value]

/-- The exceptions that the clauses of `process_response` tell apart. The handlers of the streams are
written without exceptions; here it has its `try` block and its three clauses, and is the same. -/
inductive Thrown
  | oms (origin : Origin) (status : RequestStatus) (error : Error) (what : String)
  | network (status : RequestStatus) (error : Error) (what : String)
  | std (what : String)

/-- Where a handler ends, and the exception that it leaves by. -/
abbrev Ended (Self Call : Type) := Context Self Call × Option Thrown

section
variable {Self Call α : Type}

/-- Both the result and its body are read inside of the block. -/
def tryBlock (limit : Bool → ℕ → Context Self Call → Context Self Call) (response : RestResponse)
    (errorHandler : Origin → RequestStatus → Error → String → Context Self Call → Ended Self Call)
    (successHandler : Body → Context Self Call → Ended Self Call)
    (ctx : Context Self Call) : Ended Self Call :=
  match response with
  | .omsException origin status error what => (ctx,some (.oms origin status error what))
  | .networkError status error what => (ctx,some (.network status error what))
  | .exception what => (ctx,some (.std what))
  | .result status category retryAfter body =>
    match category with
    | .unknown => (ctx,some (.std "expect"))
    | .informationalResponse => (ctx,some (.std "expect"))
    | .success => successHandler body ctx
    | .redirection => (ctx.fatal "Unexpected: URL is being redirected",none)
    | .clientError =>
      if status = FORBIDDEN then
        errorHandler .exchange .rejected .requestRateLimitReached (toString status)
          (limit true retryAfter ctx)
      else if status = I_AM_A_TEAPOT ∨ status = TOO_MANY_REQUESTS then
        errorHandler .exchange .rejected .requestRateLimitReached (toString status)
          (limit false retryAfter ctx)
      else
        match body.errorError with
        | .ok error => errorHandler .exchange .rejected (guessError error.code) error.msg ctx
        | .error what => (ctx,some (.std what))
    | .serverError => errorHandler .exchange .rejected .unknown (toString status) ctx

/-- An exception of the error handler itself is passed on. -/
def catchClauses
    (errorHandler : Origin → RequestStatus → Error → String → Context Self Call → Ended Self Call)
    (ended : Ended Self Call) : Ended Self Call :=
  match ended with
  | (ctx,none) => (ctx,none)
  | (ctx,some (.oms origin status error what)) => errorHandler origin status error what ctx
  | (ctx,some (.network status error what)) => errorHandler .gateway status error what ctx
  | (ctx,some (.std what)) => errorHandler .exchange .error .unknown what ctx

def processResponseThrowing (limit : Bool → ℕ → Context Self Call → Context Self Call)
    (response : RestResponse)
    (errorHandler : Origin → RequestStatus → Error → String → Context Self Call → Ended Self Call)
    (successHandler : Body → Context Self Call → Ended Self Call)
    (ctx : Context Self Call) : Ended Self Call :=
  catchClauses errorHandler (tryBlock limit response errorHandler successHandler ctx)

/-- A success handler decodes the body before it does anything else. -/
def decoding (decode : Body → Except String α)
    (successHandler : α → Context Self Call → Context Self Call) (body : Body)
    (ctx : Context Self Call) : Ended Self Call :=
  match decode body with
  | .ok value => (successHandler value ctx,none)
  | .error what => (ctx,some (.std what))

/-- Where only the reading of the response throws, one handler is called, and called once. -/
theorem processResponseThrowing_eq
    (limit : Bool → ℕ → Context Self Call → Context Self Call) (decode : Body → Except String α)
    (response : RestResponse)
    (errorHandler : Origin → RequestStatus → Error → String → Context Self Call →
      Context Self Call)
    (successHandler : α → Context Self Call → Context Self Call) (ctx : Context Self Call) :
    processResponseThrowing limit response
        (fun origin status error text ctx => (errorHandler origin status error text ctx,none))
        (decoding decode successHandler) ctx =
      (processResponseWith limit decode response errorHandler successHandler ctx,none) := by
  cases response with
  | omsException origin status error what => rfl
  | networkError status error what => rfl
  | exception what => rfl
  | result status category retryAfter body =>
    cases category with
    | unknown => rfl
    | informationalResponse => rfl
    | redirection => rfl
    | serverError => rfl
    | success =>
      cases hb : decode body <;>
        simp [processResponseThrowing, tryBlock, catchClauses, decoding, processResponseWith,
          classify, hb]
    | clientError =>
      simp only [processResponseThrowing, tryBlock, processResponseWith, classify]
      split_ifs
      · rfl
      · rfl
      · cases body.errorError <;> rfl

end

/-- An exception carries the status of a refusal. -/
def RestResponse.Refuses : RestResponse → Prop
  | .omsException _ status _ _ => status ≠ .accepted
  | .networkError status _ _ => status ≠ .accepted
  | _ => True

/-- The value of a successful response whose body can be read. -/
def decoded {α : Type} (decode : Body → Except String α) : RestResponse → Option α
  | .result _ .success _ body => (decode body).toOption
  | _ => none

/-- The URL of the request is being redirected. -/
def RestResponse.Redirected : RestResponse → Prop
  | .result _ category _ _ => category = .redirection
  | _ => False

section
variable {α : Type} {decode : Body → Except String α}

/-- The classes of the responses. No class of error is an acceptance. -/
theorem classify_cases {P : RestResponse → Processed α → Prop}
    (hsuccess : ∀ response value, decoded decode response = some value →
      P response (.success value))
    (herror : ∀ response origin status error text, decoded decode response = none →
      (response.Refuses → status ≠ .accepted) → P response (.error origin status error text))
    (hlimited : ∀ response forbidden retryAfter text, decoded decode response = none →
      P response (.rateLimited forbidden retryAfter text))
    (hfatal : ∀ response, response.Redirected → decoded decode response = none →
      P response (.fatal "Unexpected: URL is being redirected"))
    (response : RestResponse) : P response (classify decode response) := by
  cases response with
  | result status category retryAfter body =>
    cases category with
    | unknown => exact herror _ _ _ _ _ rfl fun _ => by decide
    | informationalResponse => exact herror _ _ _ _ _ rfl fun _ => by decide
    | success =>
      rw [classify]
      cases h : decode body with
      | ok value => exact hsuccess _ value (by rw [decoded,h]; rfl)
      | error what => exact herror _ _ _ _ _ (by rw [decoded,h]; rfl) fun _ => by decide
    | redirection => exact hfatal _ rfl rfl
    | clientError =>
      rw [classify]
      split_ifs
      · exact hlimited _ _ _ _ rfl
      · exact hlimited _ _ _ _ rfl
      · cases body.errorError with
        | ok error => exact herror _ _ _ _ _ rfl fun _ => by decide
        | error what => exact herror _ _ _ _ _ rfl fun _ => by decide
    | serverError => exact herror _ _ _ _ _ rfl fun _ => by decide
  | omsException origin status error what => exact herror _ _ _ _ _ rfl id
  | networkError status error what => exact herror _ _ _ _ _ rfl id
  | exception what => exact herror _ _ _ _ _ rfl fun _ => by decide

theorem decoded_eq (decode : Body → Except String α) (response : RestResponse) :
    decoded decode response = (classify decode response).value := by
  refine classify_cases (P := fun response x => decoded decode response = x.value) ?_ ?_ ?_ ?_ response
  · intro response value h
    exact h
  · intro response origin status error text h _
    exact h
  · intro response forbidden retryAfter text h
    exact h
  · intro response _ h
    exact h

/-- Only a redirection ends the process. -/
theorem fatal_of_classify {response : RestResponse} {text : String}
    (h : classify decode response = .fatal text) :
    response.Redirected ∧ text = "Unexpected: URL is being redirected" := by
  revert h
  refine classify_cases (P := fun response x => x = .fatal text →
    response.Redirected ∧ text = "Unexpected: URL is being redirected") ?_ ?_ ?_ ?_ response
  · rintro response value - ⟨⟩
  · rintro response origin status error text - - ⟨⟩
  · rintro response forbidden retryAfter text - ⟨⟩
  · rintro response hr - ⟨⟩
    exact ⟨hr,rfl⟩

theorem RestResponse.Refuses.classify {response : RestResponse} (hr : response.Refuses)
    {origin : Origin} {status : RequestStatus} {error : Error} {text : String}
    (h : Gateway.classify decode response = .error origin status error text) :
    status ≠ .accepted := by
  revert hr h
  refine classify_cases (P := fun response x => response.Refuses →
    x = .error origin status error text → status ≠ .accepted) ?_ ?_ ?_ ?_ response
  · rintro response value - - ⟨⟩
  · rintro response origin status error text - hstatus hr ⟨⟩
    exact hstatus hr
  · rintro response forbidden retryAfter text - - ⟨⟩
  · rintro response - - - ⟨⟩

end

end RoqBinance.Gateway
