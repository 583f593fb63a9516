import Sumurai.Models.Basic

/-!
# The requests of the API client

`ApiClient.makeRequestWithRetry` (`services/ApiClient.ts`) with what it calls: the HTTP client, the
handler of an authentication error, and `AuthService.refreshToken` (`services/authService.ts`),
which makes a request of its own.

The procedure is recursive in three places: it retries a failed attempt, it refreshes the token by a
request through itself, and it issues the original request again with the attempt counter back at
zero. It takes fuel for that; a run that has used it up is still going on.

What the call cannot know is a stream of arrivals. The `i`-th is the answer to the `i`-th request
that the call sends, together with the session as it is at that moment: the token in the storage,
and the refresh that another call may have under way. A call that is alone finds the session as it
left it.
-/

namespace Sumurai

/-! ### Errors and responses -/

/-- The classes of `boundaries/errors.ts`. -/
inductive ErrorClass where
  | api | authentication | validation | network | server | conflict | notFound | forbidden
deriving DecidableEq, Repr

/-- `ApiError`. -/
structure ApiError where
  cls : ErrorClass
  status : ℕ
  message : String
deriving DecidableEq, Repr

/-- `new AuthenticationError()`. -/
def authenticationRequired : ApiError where
  cls := .authentication
  status := 401
  message := "Authentication required"

/-- `new NetworkError(message)`. -/
def networkError (message : String) : ApiError where
  cls := .network
  status := 0
  message := message

/-- What is thrown: an `ApiError`, or another `Error` with its message. -/
inductive Thrown where
  | api (e : ApiError)
  | error (message : String)
deriving DecidableEq, Repr

/-- `error.message`. -/
def Thrown.message : Thrown → String
  | .api e => e.message
  | .error message => message

/-- `error instanceof AuthenticationError`. -/
def Thrown.isAuthenticationError : Thrown → Bool
  | .api e => e.cls = .authentication
  | .error _ => false

/-- The members that are read of a JSON value other than `null`. -/
structure JsonBody where
  token : Option String
  message : Option String
  error : Option String
  detail : Option String
deriving DecidableEq, Repr

/-- `{}`. -/
def JsonBody.empty : JsonBody where
  token := none
  message := none
  error := none
  detail := none

/-- The token as the storage and the header take it: a missing one is the text `undefined`. -/
def JsonBody.tokenText (body : JsonBody) : String :=
  body.token.getD "undefined"

/-- A `Response` of `fetch`. Its body parses to a JSON value, of which `none` is `null`, or fails to
with a message. -/
structure Response where
  status : ℕ
  statusText : String
  json : Except String (Option JsonBody)

/-- The first member that is there and not empty. -/
def firstTruthy (members : List (Option String)) : Option String :=
  members.findSome? (Option.filter (· ≠ ""))

/-- `createApiError`. -/
def createApiError (response : Response) : ApiError :=
  let errorMessage :=
    match response.json with
    | .ok (some errorData) =>
      (firstTruthy [errorData.message, errorData.error, errorData.detail]).getD "Request failed"
    | _ =>
      toString response.status ++ " " ++ (firstTruthy [some response.statusText]).getD "Error"
  match response.status with
  | 400 => { cls := .validation, status := 400, message := errorMessage }
  | 401 => { cls := .authentication, status := 401, message := errorMessage }
  | 403 => { cls := .forbidden, status := 403, message := errorMessage }
  | 404 => { cls := .notFound, status := 404, message := errorMessage }
  | 409 => { cls := .conflict, status := 409, message := errorMessage }
  | 500 | 502 | 503 | 504 =>
    { cls := .server, status := response.status, message := errorMessage }
  | status => { cls := .api, status := status, message := errorMessage }

/-- `handleResponse`. -/
def handleResponse (response : Response) : Except Thrown (Option JsonBody) :=
  if 200 ≤ response.status ∧ response.status ≤ 299 then
    if response.status = 204 then .ok (some JsonBody.empty)
    else response.json.mapError Thrown.error
  else .error (.api (createApiError response))

/-! ### Requests -/

/-- The methods of the client. -/
inductive HttpMethod where
  | get | post | put | delete
deriving DecidableEq, Repr

/-- `RequestInit`, as the client fills it in. The one header that is ever set is `Authorization`. -/
structure RequestInit where
  method : HttpMethod
  body : Option String
  authorization : Option String
deriving DecidableEq, Repr

/-- A request that is sent. -/
structure SentRequest where
  endpoint : String
  options : RequestInit
deriving DecidableEq, Repr

/-- The state that `AuthService` keeps for all calls: the token in the storage, and the refresh that
is under way, with what it will come to. -/
structure ClientSession where
  authToken : Option String
  refreshPromise : Option (Except Thrown JsonBody)

/-- What a call finds when the answer to a request arrives. -/
structure Arrival where
  /-- The answer of `fetch`: a response, or the message of the error it is rejected with. -/
  answer : Except String Response
  /-- The session, as this call and the others have left it. -/
  session : ClientSession

/-- What `makeRawRequest` comes to. -/
def Arrival.result (arrival : Arrival) : Except Thrown (Option JsonBody) :=
  match arrival.answer with
  | .ok response => handleResponse response
  | .error message => .error (.error message)

/-- A call under way: what it has sent, and the session. -/
structure CallState where
  sent : List SentRequest
  session : ClientSession

/-- `AuthService.getToken`, where it is tested. -/
def ClientSession.getToken (session : ClientSession) : Option String :=
  session.authToken.filter (· ≠ "")

/-- `AuthService.clearToken`. -/
def CallState.clearToken (c : CallState) : CallState :=
  { c with session := { authToken := none, refreshPromise := none } }

/-- `AuthService.storeToken`. -/
def CallState.storeToken (token : String) (c : CallState) : CallState :=
  { c with session := { c.session with authToken := some token } }

/-- `Bearer ${token}`. -/
def bearer (token : String) : String :=
  "Bearer " ++ token

/-- `makeRawRequest`, with the headers as the attempt sets them: the token of the storage goes over
the `Authorization` that the options have. -/
def makeRawRequest (arrivals : ℕ → Arrival) (endpoint : String) (options : RequestInit)
    (c : CallState) : Except Thrown (Option JsonBody) × CallState :=
  let arrival := arrivals c.sent.length
  let authorization := (c.session.getToken.map bearer).or options.authorization
  (arrival.result,
    { sent := c.sent ++ [{ endpoint := endpoint, options := { options with authorization } }]
      session := arrival.session })

/-! ### Retrying and refreshing -/

/-- `RetryConfig`, but for the delays. -/
structure RetryConfig where
  maxRetries : ℕ
  retryableStatuses : List ℕ
  retryableErrors : List String
deriving DecidableEq, Repr

/-- `ApiClient.retryConfig`. -/
def retryConfig : RetryConfig where
  maxRetries := 3
  retryableStatuses := [502, 503, 504, 429]
  retryableErrors :=
    ["Failed to fetch", "Request timeout", "The operation was aborted", "DNS resolution failed",
      "Network error", "Connection reset", "Request aborted"]

/-- `isRetryableError`. -/
def isRetryableError (config : RetryConfig) (error : Thrown) : Bool :=
  config.retryableErrors.any fun retryableError ↦
    toLowercase retryableError <:+: toLowercase error.message

/-- `error instanceof ApiError && isRetryableStatus(error.status)`. -/
def isRetryableStatus (config : RetryConfig) : Thrown → Bool
  | .api e => e.status ∈ config.retryableStatuses
  | .error _ => false

/-- What a procedure of the client comes to, and the call after it; `none` while it is going on. -/
abbrev Settles (α : Type) := Option (Except Thrown α × CallState)

section Refresh

variable (makeRequestWithRetry : String → RequestInit → ℕ → CallState → Settles (Option JsonBody))

/-- `performRefresh`. Reading the token of `null` throws. -/
def performRefresh (c : CallState) : Settles JsonBody :=
  match makeRequestWithRetry "/auth/refresh"
    { method := .post, body := none, authorization := none }
      0 c with
  | none => none
  | some (.ok (some response), c) => some (.ok response, c)
  | some (.ok none, c) => some (.error (.error "Cannot read properties of null"), c)
  | some (.error error, c) => some (.error error, c)

/-- `AuthService.refreshToken`: the refresh that is under way, or else one of its own. -/
def refreshToken (c : CallState) : Settles JsonBody :=
  match c.session.refreshPromise with
  | some outcome => some (outcome, c)
  | none =>
    if c.session.getToken.isNone then some (.error (.error "No token"), c)
    else
      match performRefresh makeRequestWithRetry c with
      | none => none
      | some (result, c) =>
        some (result, { c with session := { c.session with refreshPromise := none } })

/-- `handleAuthenticationError`. The request that is issued again is returned without being awaited,
so what it throws is not caught here. -/
def handleAuthenticationError (endpoint : String) (options : RequestInit) (c : CallState) :
    Settles (Option JsonBody) :=
  if endpoint = "/auth/refresh" then some (.error (.api authenticationRequired), c.clearToken)
  else
    match refreshToken makeRequestWithRetry c with
    | none => none
    | some (.ok refreshResult, c) =>
      makeRequestWithRetry endpoint
        { options with authorization := some (bearer refreshResult.tokenText) } 0
        (c.storeToken refreshResult.tokenText)
    | some (.error _, c) => some (.error (.api authenticationRequired), c.clearToken)

end Refresh

/-- `ApiClient.makeRequestWithRetry`, with fuel. -/
def makeRequestWithRetry (config : RetryConfig) (arrivals : ℕ → Arrival) :
    ℕ → String → RequestInit → ℕ → CallState → Settles (Option JsonBody)
  | 0, _, _, _, _ => none
  | fuel + 1, endpoint, options, attempt, c =>
    match makeRawRequest arrivals endpoint options c with
    | (.ok response, c) => some (.ok response, c)
    | (.error error, c) =>
      if error.isAuthenticationError ∧ attempt = 0 then
        handleAuthenticationError (makeRequestWithRetry config arrivals fuel) endpoint options c
      else if isRetryableStatus config error ∧ attempt < config.maxRetries then
        makeRequestWithRetry config arrivals fuel endpoint options (attempt + 1) c
      else if isRetryableError config error ∧ attempt < config.maxRetries then
        makeRequestWithRetry config arrivals fuel endpoint options (attempt + 1) c
      else
        match error with
        | .api e => some (.error (.api e), c)
        | .error message =>
          if isRetryableError config error then some (.error (.api (networkError message)), c)
          else some (.error error, c)

end Sumurai
