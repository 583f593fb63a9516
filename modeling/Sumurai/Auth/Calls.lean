import Sumurai.Foundations.Programs
import Sumurai.Models.Basic

/-!
# The calls of the authentication endpoints

The calls that the authentication endpoints and the middleware make: to `auth_service.rs`, to the
session keys of `cache_service.rs`, and to the users of `repository_service.rs`.

A token is known by its claims. Its signature verifies exactly when the service has signed it, so
the world keeps the tokens that were issued (`SessionWorld.issued`), each with the session whose
token a refresh exchanged for it. The id of a session is a `Uuid::new_v4`, which is not the id of a
token or a key that exists.

Of the cache only the keys count: a session is valid while its key `{jti}_session_valid` is there.
The environment of a call (`SessionReply`) chooses the clock, whether the database and the cache
answer, whether a key that is looked up has expired, and what the password functions answer.
-/

namespace Sumurai

/-- `models::auth::Claims`. The subject and the id are UUIDs, the times are in seconds. -/
structure Claims where
  sub : Uuid
  exp : ℕ
  iat : ℕ
  jti : Uuid
deriving DecidableEq, Repr

/-- `models::auth::AuthToken`. The text of the token is given by its claims. -/
structure AuthToken where
  claims : Claims
  expiresAt : Timestamp
deriving DecidableEq, Repr

/-- A token that the service has signed. -/
structure IssuedToken where
  claims : Claims
  /-- The session of the token that a refresh exchanged for this one. -/
  mintedFrom : Option Uuid
deriving DecidableEq, Repr

/-- The bearer token of a request: the claims that its text encodes, and what `is_malicious_token`
says of the text. -/
structure BearerToken where
  claims : Option Claims
  malicious : Bool
deriving DecidableEq, Repr

/-- `models::auth::AuthError`, as far as the token functions return it. -/
inductive AuthError where
  | tokenExpired
  | invalidToken
deriving DecidableEq, Repr

/-- `models::auth::User`, as far as the endpoints use it. -/
structure User where
  id : Uuid
  email : String
  passwordHash : String
  onboardingCompleted : Bool
deriving DecidableEq, Repr

/-- A key of the cache that begins with the id of a session. -/
structure CacheKey where
  jwtId : Uuid
  suffix : String
deriving DecidableEq, Repr

/-- `jwt_session_key`. -/
def jwtSessionKey (jwtId : Uuid) : CacheKey :=
  ⟨jwtId, "_session_token"⟩

/-- `jwt_valid_key`. -/
def jwtValidKey (jwtId : Uuid) : CacheKey :=
  ⟨jwtId, "_session_valid"⟩

/-- What `disconnect_connection_by_id` tells the deletion of an account. -/
structure DisconnectCounts where
  success : Bool
  transactions : ℤ
  accounts : ℤ
deriving DecidableEq, Repr

/-! ### Tokens -/

/-- `TOKEN_EXPIRATION_HOURS`, in microseconds. -/
def tokenExpiration : ℤ := 24 * 3600000000

/-- `DateTime::timestamp`, as a `usize`. -/
def Timestamp.seconds (t : Timestamp) : ℕ :=
  (t / 1000000).toNat

/-- `generate_token`. -/
def newToken (userId : Uuid) (now : Timestamp) (jti : Uuid) : AuthToken where
  claims :=
    { sub := userId
      exp := Timestamp.seconds (now + tokenExpiration)
      iat := Timestamp.seconds now
      jti := jti }
  expiresAt := now + tokenExpiration

/-- `jsonwebtoken::decode` with the leeway of its validation: the signature, then the expiry. -/
def decodeToken (issued : List IssuedToken) (now : Timestamp) (leeway : ℕ) (token : BearerToken) :
    Option Claims :=
  token.claims.filter fun claims ↦
    (issued.any fun t ↦ t.claims = claims) && decide (now.seconds ≤ claims.exp + leeway)

/-- `validate_token`. The default leeway is a minute. -/
def validateToken (issued : List IssuedToken) (now : Timestamp) (token : BearerToken) :
    Except AuthError Claims :=
  if token.malicious then .error .invalidToken
  else
    match decodeToken issued now 60 token with
    | some claims => if claims.exp < now.seconds then .error .tokenExpired else .ok claims
    | none => .error .invalidToken

/-- `validate_token_for_refresh`. -/
def validateTokenForRefresh (issued : List IssuedToken) (now : Timestamp) (token : BearerToken) :
    Except AuthError Claims :=
  match decodeToken issued now 300 token with
  | some claims => if claims.exp + 300 < now.seconds then .error .tokenExpired else .ok claims
  | none => .error .invalidToken

/-! ### The calls -/

/-- A call of the authentication endpoints. -/
inductive SessionCall where
  /-- `Utc::now`. -/
  | now
  /-- `Uuid::new_v4`, for the id of a user. -/
  | newUserId
  | hashPassword (password : String)
  | verifyPassword (password hash : String)
  | generateToken (userId : Uuid) (mintedFrom : Option Uuid)
  | validateToken (token : BearerToken)
  | validateTokenForRefresh (token : BearerToken)
  | createUser (user : User)
  | getUserByEmail (email : String)
  | getUserById (userId : Uuid)
  | updateUserPassword (userId : Uuid) (hash : String)
  | deleteUser (userId : Uuid)
  | getAllProviderConnectionsByUser (userId : Uuid)
  | disconnectConnectionById (connectionId userId jwtId : Uuid)
  /-- The number of the user's budgets. -/
  | getBudgetsForUser (userId : Uuid)
  | setSessionValid (jwtId : Uuid) (ttl : ℤ)
  | setJwtToken (jwtId : Uuid) (ttl : ℤ)
  | isSessionValid (jwtId : Uuid)
  /-- The Redis command `DEL`. -/
  | del (key : CacheKey)
  /-- The Redis command `KEYS`, for the pattern `{jwtId}{start}*`. -/
  | keys (jwtId : Uuid) (start : String)
  | clearTransactions
deriving DecidableEq, Repr

/-- What a call is answered with. -/
abbrev SessionCall.Answer : SessionCall → Type
  | now => Timestamp
  | newUserId => Uuid
  | hashPassword _ => Except String String
  | verifyPassword _ _ => Except String Bool
  | generateToken _ _ => Except AuthError AuthToken
  | validateToken _ => Except AuthError Claims
  | validateTokenForRefresh _ => Except AuthError Claims
  | createUser _ => Except String Unit
  | getUserByEmail _ => Except String (Option User)
  | getUserById _ => Except String (Option User)
  | updateUserPassword _ _ => Except String Unit
  | deleteUser _ => Except String Unit
  | getAllProviderConnectionsByUser _ => Except String (List Uuid)
  | disconnectConnectionById _ _ _ => Except String DisconnectCounts
  | getBudgetsForUser _ => Except String ℕ
  | setSessionValid _ _ => Except String Unit
  | setJwtToken _ _ => Except String Unit
  | isSessionValid _ => Except String Bool
  | del _ => Except String Unit
  | keys _ _ => Except String (List CacheKey)
  | clearTransactions => Except String Unit

/-- What the environment chooses at a call. -/
structure SessionReply where
  now : Timestamp
  newId : Uuid
  /-- The error of a database that does not answer. -/
  databaseError : Option String
  /-- The error of a cache that does not answer. -/
  cacheError : Option String
  /-- The key looked up has outlived its time. -/
  expired : Bool
  hashed : Except String String
  verified : Except String Bool
  /-- `encode` fails. -/
  unsigned : Bool
  connections : Except String (List Uuid)
  disconnected : Except String DisconnectCounts
  budgets : Except String ℕ

/-- The users, the tokens issued, and the keys of the cache. -/
structure SessionWorld where
  users : List User
  issued : List IssuedToken
  cache : List CacheKey
deriving DecidableEq, Repr

/-- The session ids that are taken. -/
def SessionWorld.sessionIds (w : SessionWorld) : List Uuid :=
  w.issued.map (fun t ↦ t.claims.jti) ++ w.cache.map CacheKey.jwtId

/-- A call to a service that answers or does not. -/
def SessionWorld.ask {α : Type} (w : SessionWorld) (error : Option String)
    (result : SessionWorld × α) : SessionWorld × Except String α :=
  match error with
  | some e => (w, .error e)
  | none => (result.1, .ok result.2)

theorem SessionWorld.ask_fst {α : Type} (w : SessionWorld) (error : Option String)
    (result : SessionWorld × α) :
    (w.ask error result).1 = if error = none then result.1 else w := by
  cases error <;> rfl

theorem SessionWorld.ask_snd_eq_ok {α : Type} {w : SessionWorld} {error : Option String}
    {result : SessionWorld × α} {a : α} :
    (w.ask error result).2 = .ok a ↔ error = none ∧ result.2 = a := by
  cases error <;> simp [SessionWorld.ask]

/-- What a call does, and what it answers. -/
def sessionExec : (call : SessionCall) → SessionReply → SessionWorld → SessionWorld × call.Answer
  | .now, e, w => (w, e.now)
  | .newUserId, e, w => (w, e.newId)
  | .hashPassword _, e, w => (w, e.hashed)
  | .verifyPassword _ _, e, w => (w, e.verified)
  | .generateToken userId mintedFrom, e, w =>
    if e.unsigned then (w, .error .invalidToken)
    else
      let token := newToken userId e.now (newV4 w.sessionIds e.newId)
      ({ w with issued := w.issued ++ [⟨token.claims, mintedFrom⟩] }, .ok token)
  | .validateToken token, e, w => (w, Sumurai.validateToken w.issued e.now token)
  | .validateTokenForRefresh token, e, w =>
    (w, Sumurai.validateTokenForRefresh w.issued e.now token)
  | .createUser user, e, w =>
    if w.users.any fun u ↦ u.id = user.id ∨ u.email = user.email then
      (w, .error (e.databaseError.getD "duplicate key value violates unique constraint"))
    else w.ask e.databaseError ({ w with users := w.users ++ [user] }, ())
  | .getUserByEmail email, e, w =>
    w.ask e.databaseError (w, w.users.find? fun u ↦ u.email = email)
  | .getUserById userId, e, w => w.ask e.databaseError (w, w.users.find? fun u ↦ u.id = userId)
  | .updateUserPassword userId hash, e, w =>
    w.ask e.databaseError
      ({ w with users := w.users.map fun u ↦
          if u.id = userId then { u with passwordHash := hash } else u }, ())
  | .deleteUser userId, e, w =>
    w.ask e.databaseError ({ w with users := w.users.filter fun u ↦ u.id ≠ userId }, ())
  | .getAllProviderConnectionsByUser _, e, w => (w, e.connections)
  | .disconnectConnectionById _ _ _, e, w => (w, e.disconnected)
  | .getBudgetsForUser _, e, w => (w, e.budgets)
  | .setSessionValid jwtId _, e, w =>
    w.ask e.cacheError ({ w with cache := jwtValidKey jwtId :: w.cache }, ())
  | .setJwtToken jwtId _, e, w =>
    w.ask e.cacheError ({ w with cache := jwtSessionKey jwtId :: w.cache }, ())
  | .isSessionValid jwtId, e, w =>
    if e.expired then
      w.ask e.cacheError
        ({ w with cache := w.cache.filter fun key ↦ key ≠ jwtValidKey jwtId }, false)
    else w.ask e.cacheError (w, decide (jwtValidKey jwtId ∈ w.cache))
  | .del key, e, w =>
    w.ask e.cacheError ({ w with cache := w.cache.filter fun k ↦ k ≠ key }, ())
  | .keys jwtId start, e, w =>
    w.ask e.cacheError
      (w, (w.cache.filter fun key ↦
        key.jwtId = jwtId && start.toList.isPrefixOf key.suffix.toList).dedup)
  | .clearTransactions, e, w => w.ask e.cacheError (w, ())

/-- A program of the authentication endpoints. -/
abbrev SessionProgram := Program SessionCall SessionCall.Answer

/-- A single call of an authentication endpoint. -/
def performSession (call : SessionCall) : SessionProgram call.Answer :=
  Program.ask call

/-! ### A small environment -/

/-- The answers of an environment in which nothing fails. -/
def answeringSessionReply : SessionReply where
  now := 0
  newId := 9
  databaseError := none
  cacheError := none
  expired := false
  hashed := .ok "new-hash"
  verified := .ok true
  unsigned := false
  connections := .ok []
  disconnected := .ok ⟨true, 0, 0⟩
  budgets := .ok 0

/-- The claims of a session of user `7`. -/
def someClaims (jti : Uuid) : Claims where
  sub := 7
  exp := 86400
  iat := 0
  jti := jti

/-- The bearer token with these claims. -/
def someBearer (jti : Uuid) : BearerToken where
  claims := some (someClaims jti)
  malicious := false

/-- User `7` with valid sessions. -/
def someSessions (jtis : List Uuid) : SessionWorld where
  users := [⟨7, "user@example.com", "hash", true⟩]
  issued := jtis.map fun jti ↦ ⟨someClaims jti, none⟩
  cache := jtis.flatMap fun jti ↦ [jwtSessionKey jti, jwtValidKey jti]

end Sumurai
