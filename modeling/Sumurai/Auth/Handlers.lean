import Sumurai.Auth.Calls
import Sumurai.Foundations.Runs

/-!
# The authentication endpoints

The middleware of `auth_middleware.rs` and the authentication handlers of `main.rs`, as programs
over the calls of the authentication endpoints, and the pool of requests being served.

A registration, a login and a refresh issue a token, mark its session valid and cache the token. A
logout checks the signature of its token and removes the keys of the session. A change of the
password and the deletion of the account go through the middleware, do their work and then remove
the keys that begin with the id of the session they were made in. All of them drop the errors of the
cache.
-/

open Program

namespace Sumurai

/-! ### Requests and responses -/

/-- A request, with its bearer token where it needs one. -/
inductive SessionRequest where
  /-- `RegisterRequest`. -/
  | register (email password : String)
  /-- `LoginRequest`. -/
  | login (email password : String)
  | logout (token : Option BearerToken)
  | refresh (token : Option BearerToken)
  /-- `ChangePasswordRequest`. -/
  | changePassword (token : Option BearerToken) (currentPassword newPassword : String)
  | deleteAccount (token : Option BearerToken)
  /-- Any other request behind the middleware. -/
  | authenticated (token : Option BearerToken)
deriving DecidableEq, Repr

/-- `DeletedItemsSummary`. -/
structure DeletedItemsSummary where
  connections : ℤ
  transactions : ℤ
  accounts : ℤ
  budgets : ℤ
deriving DecidableEq, Repr

/-- The answer to a request. -/
inductive SessionResponse where
  /-- The token or its session is not accepted. -/
  | rejected (status : ℕ) (code : String)
  | failed (status : ℕ) (message : String)
  /-- `AuthResponse`. -/
  | token (claims : Claims) (userId : Uuid) (expiresAt : Timestamp) (onboardingCompleted : Bool)
  /-- `LogoutResponse`. -/
  | loggedOut (clearedSession : Uuid)
  /-- `ChangePasswordResponse`. -/
  | passwordChanged
  /-- `DeleteAccountResponse`. -/
  | accountDeleted (deletedItems : DeletedItemsSummary)
  /-- The request has reached its handler. -/
  | accepted
deriving DecidableEq, Repr

/-- `models::auth::AuthContext`. -/
structure AuthContext where
  userId : Uuid
  jwtId : Uuid
deriving DecidableEq, Repr

/-! ### The middleware -/

/-- The code of a token that is not valid. -/
def AuthError.code : AuthError → String
  | tokenExpired => "EXPIRED_TOKEN"
  | invalidToken => "INVALID_TOKEN"

/-- `auth_middleware`, up to the call of the handler. -/
def authMiddleware (header : Option BearerToken)
    (handler : AuthContext → SessionProgram SessionResponse) : SessionProgram SessionResponse :=
  match header with
  | none => return .rejected 401 "MISSING_AUTH_HEADER"
  | some token => do
    match ← performSession (.validateToken token) with
    | .error e => return .rejected 401 e.code
    | .ok claims =>
      match ← performSession (.isSessionValid claims.jti) with
      | .ok true => handler ⟨claims.sub, claims.jti⟩
      | .ok false => return .rejected 401 "SESSION_INVALID"
      | .error _ => return .rejected 401 "SESSION_ERROR"

/-! ### Sessions that begin -/

/-- The lines by which a registration, a login and a refresh make a session valid. -/
def cacheSession (authToken : AuthToken) : SessionProgram Unit := do
  let now ← performSession .now
  let ttl := max 0 ((authToken.expiresAt - now).tdiv 1000000)
  if 0 < ttl then
    let _ ← performSession (.setSessionValid authToken.claims.jti ttl)
    let _ ← performSession (.setJwtToken authToken.claims.jti ttl)
    return ()
  else return ()

/-- `register_user`. -/
def registerUser (email password : String) : SessionProgram SessionResponse := do
  match ← performSession (.hashPassword password) with
  | .error _ => return .failed 500 "Failed to process password"
  | .ok passwordHash =>
    let userId ← performSession .newUserId
    match ← performSession (.createUser ⟨userId, email, passwordHash, false⟩) with
    | .error _ => return .failed 409 "Email address is already registered"
    | .ok () =>
      match ← performSession (.generateToken userId none) with
      | .error _ => return .failed 500 "Failed to generate authentication token"
      | .ok authToken =>
        cacheSession authToken
        return .token authToken.claims userId authToken.expiresAt false

/-- `login_user`. -/
def loginUser (email password : String) : SessionProgram SessionResponse := do
  match ← performSession (.getUserByEmail email) with
  | .error _ => return .failed 500 "Authentication service temporarily unavailable"
  | .ok none => return .failed 401 "Invalid email or password"
  | .ok (some user) =>
    match ← performSession (.verifyPassword password user.passwordHash) with
    | .error _ => return .failed 500 "Authentication service error"
    | .ok false => return .failed 401 "Invalid email or password"
    | .ok true =>
      match ← performSession (.generateToken user.id none) with
      | .error _ => return .failed 500 "Failed to generate authentication token"
      | .ok authToken =>
        cacheSession authToken
        return .token authToken.claims user.id authToken.expiresAt user.onboardingCompleted

/-- `refresh_user_session` for a token whose session is valid. -/
def mintRefreshed (claims : Claims) : SessionProgram SessionResponse := do
  match ← performSession (.getUserById claims.sub) with
  | .error _ => return .failed 500 ""
  | .ok none => return .failed 401 ""
  | .ok (some user) =>
    match ← performSession (.generateToken claims.sub (some claims.jti)) with
    | .error _ => return .failed 500 ""
    | .ok authToken =>
      let now ← performSession .now
      cacheSession authToken
      return .token authToken.claims claims.sub (now + 3600000000) user.onboardingCompleted

/-- `refresh_user_session`. -/
def refreshUserSession (header : Option BearerToken) : SessionProgram SessionResponse :=
  match header with
  | none => return .rejected 401 ""
  | some token => do
    match ← performSession (.validateTokenForRefresh token) with
    | .error _ => return .rejected 401 ""
    | .ok claims =>
      match ← performSession (.isSessionValid claims.jti) with
      | .ok true => mintRefreshed claims
      | .ok false => return .rejected 401 ""
      | .error _ => return .rejected 500 ""

/-! ### Sessions that end -/

/-- The deletion of the keys found, which stops at the first error. -/
def deleteKeys : List CacheKey → SessionProgram (Except String Unit)
  | [] => return .ok ()
  | key :: keys => do
    match ← performSession (.del key) with
    | .ok () => deleteKeys keys
    | .error e => return .error e

/-- `invalidate_pattern` of `{jwtId}{start}*`, and `clear_jwt_scoped_data`. -/
def deletePattern (jwtId : Uuid) (start : String) : SessionProgram (Except String Unit) := do
  match ← performSession (.keys jwtId start) with
  | .ok keys => deleteKeys keys
  | .error e => return .error e

/-- `invalidate_session`. -/
def invalidateSession (jwtId : Uuid) : SessionProgram (Except String Unit) :=
  deleteKeys [jwtSessionKey jwtId, jwtValidKey jwtId]

/-- `clear_jwt_scoped_data`. -/
def clearJwtScopedData (jwtId : Uuid) : SessionProgram (Except String Unit) :=
  deletePattern jwtId ""

/-- `logout_user`. -/
def logoutUser (header : Option BearerToken) : SessionProgram SessionResponse :=
  match header with
  | none => return .rejected 401 ""
  | some token => do
    match ← performSession (.validateToken token) with
    | .error _ => return .rejected 401 ""
    | .ok claims =>
      let _ ← invalidateSession claims.jti
      let _ ← clearJwtScopedData claims.jti
      let _ ← performSession .clearTransactions
      return .loggedOut claims.jti

/-! ### Sessions that are revoked -/

/-- `change_user_password`. -/
def changeUserPassword (currentPassword newPassword : String) (auth : AuthContext) :
    SessionProgram SessionResponse := do
  match ← performSession (.getUserById auth.userId) with
  | .error _ => return .failed 500 "Authentication service temporarily unavailable"
  | .ok none => return .failed 500 "User account not found"
  | .ok (some user) =>
    match ← performSession (.verifyPassword currentPassword user.passwordHash) with
    | .error _ => return .failed 500 "Authentication service error"
    | .ok false => return .failed 401 "Current password is incorrect"
    | .ok true =>
      match ← performSession (.hashPassword newPassword) with
      | .error _ => return .failed 500 "Failed to process new password"
      | .ok newHash =>
        match ← performSession (.updateUserPassword auth.userId newHash) with
        | .error _ => return .failed 500 "Failed to update password"
        | .ok () =>
          let _ ← deletePattern auth.jwtId "_"
          return .passwordChanged

/-- The loop of `delete_user_account` over the connections. -/
def disconnectAll (auth : AuthContext) (connections : List Uuid) :
    SessionProgram DeletedItemsSummary :=
  forEach connections ⟨0, 0, 0, 0⟩ fun deleted connectionId ↦ do
    match ← performSession (.disconnectConnectionById connectionId auth.userId auth.jwtId) with
    | .ok result =>
      if result.success then
        return { deleted with
          connections := deleted.connections + 1
          transactions := deleted.transactions + result.transactions
          accounts := deleted.accounts + result.accounts }
      else return deleted
    | .error _ => return deleted

/-- `delete_user_account`. -/
def deleteUserAccount (auth : AuthContext) : SessionProgram SessionResponse := do
  match ← performSession (.getAllProviderConnectionsByUser auth.userId) with
  | .error _ => return .failed 500 "Failed to retrieve user connections"
  | .ok connections =>
    let deleted ← disconnectAll auth connections
    match ← performSession (.getBudgetsForUser auth.userId) with
    | .error _ => return .failed 500 "Failed to retrieve user budgets"
    | .ok budgets =>
      match ← performSession (.deleteUser auth.userId) with
      | .error _ => return .failed 500 "Failed to delete user account"
      | .ok () =>
        let _ ← deletePattern auth.jwtId "_"
        return .accountDeleted { deleted with budgets := budgets }

/-! ### Requests in flight -/

/-- The program that serves a request. -/
def serveSession : SessionRequest → SessionProgram SessionResponse
  | .register email password => registerUser email password
  | .login email password => loginUser email password
  | .logout header => logoutUser header
  | .refresh header => refreshUserSession header
  | .changePassword header currentPassword newPassword =>
    authMiddleware header (changeUserPassword currentPassword newPassword)
  | .deleteAccount header => authMiddleware header deleteUserAccount
  | .authenticated header => authMiddleware header fun _ ↦ return .accepted

/-- The world, and the requests that are being served. -/
abbrev SessionPool := Pool SessionCall SessionCall.Answer SessionWorld SessionResponse

/-- The requests at their first call. -/
def servingSessions (requests : List SessionRequest) (w : SessionWorld) : SessionPool where
  state := w
  threads := requests.map serveSession

/-- One of the requests makes its next call. -/
def sessionStep : SessionPool → ℕ × SessionReply → SessionPool :=
  Pool.step sessionExec

end Sumurai
