import Mathlib.Data.List.MinMax
import Sumurai.Auth.Handlers

/-!
# Sessions that have ended

A session is valid while its key is in the cache, and its key is written by the request that issued
its token. So a session that is not valid stays so unless a request in flight has still to write its
key: a request that has issued the token and not yet written, or, for a session that is yet to be
minted, one that has passed the check of the session it mints from.

`Spares D E q` says that the program `q` writes no key of a session in `D` and mints no session from
one in `E`, as long as the sessions of `D` are not valid. A set of sessions has *ended* when none of
them is valid and every request in flight spares them; it stays ended (`Ended.step`), and every
request that presents a token of one of them is rejected (`under_rejected`).
-/

open LabelledSystem Program

namespace Sumurai

/-- The call writes the key of a session in `D`, or mints a session from one in `E`. -/
def SessionCall.Revives (D E : Uuid → Prop) : SessionCall → Prop
  | setSessionValid jwtId _ => D jwtId
  | generateToken _ (some mintedFrom) => E mintedFrom
  | _ => False

/-- What a call can be answered with when no session in `D` is valid and their ids are taken. -/
def SessionCall.AnswersAs (D : Uuid → Prop) : (call : SessionCall) → call.Answer → Prop
  | isSessionValid jwtId, r => D jwtId → r ≠ .ok true
  | generateToken _ _, r => ∀ t, r = .ok t → ¬ D t.claims.jti
  | validateToken token, r => ∀ claims, r = .ok claims → token.claims = some claims
  | validateTokenForRefresh token, r => ∀ claims, r = .ok claims → token.claims = some claims
  | _, _ => True

/-- The program leaves the sessions in `D` ended and mints nothing from those in `E`. -/
def Spares (D E : Uuid → Prop) (q : SessionProgram SessionResponse) : Prop :=
  q.Under (SessionCall.AnswersAs D) (fun call ↦ ¬ call.Revives D E) fun _ ↦ True

/-- **The sessions in `D` have ended.** -/
structure Ended (D E : Uuid → Prop) (p : SessionPool) : Prop where
  invalid : ∀ j, D j → jwtValidKey j ∉ p.state.cache
  taken : ∀ j, D j → ∃ t ∈ p.state.issued, t.claims.jti = j
  spared : ∀ q ∈ p.threads, Spares D E q

/-- The response is that the token or its session is not accepted. -/
def SessionResponse.IsRejected : SessionResponse → Prop
  | rejected _ _ => True
  | _ => False

/-- The bearer token of a request. -/
def SessionRequest.header : SessionRequest → Option BearerToken
  | register _ _ | login _ _ => none
  | logout header | refresh header | changePassword header _ _ | deleteAccount header
  | authenticated header => header

/-- The request presents a token with the claims. -/
def SessionRequest.Presents (request : SessionRequest) (claims : Claims) : Prop :=
  ∃ token ∈ request.header, token.claims = some claims

/-- The request needs a session that is valid. -/
def SessionRequest.NeedsSession : SessionRequest → Prop
  | register _ _ | login _ _ | logout _ => False
  | refresh _ | changePassword _ _ _ | deleteAccount _ | authenticated _ => True

/-! ### The calls -/

section Calls

variable {D E : Uuid → Prop} {e : SessionReply} {w : SessionWorld}

/-- A token validates only as the claims that it presents, of a token that was issued. -/
theorem decodeToken_eq_some {issued : List IssuedToken} {now : Timestamp} {leeway : ℕ}
    {token : BearerToken} {claims : Claims}
    (h : decodeToken issued now leeway token = some claims) :
    token.claims = some claims ∧ ∃ t ∈ issued, t.claims = claims := by
  obtain ⟨hclaims, hvalid⟩ := Option.filter_eq_some_iff.1 h
  rw [Bool.and_eq_true, List.any_eq_true] at hvalid
  obtain ⟨⟨t, ht, heq⟩, -⟩ := hvalid
  exact ⟨hclaims, t, ht, of_decide_eq_true heq⟩

theorem validateToken_eq_ok {issued : List IssuedToken} {now : Timestamp} {token : BearerToken}
    {claims : Claims} (h : validateToken issued now token = .ok claims) :
    token.claims = some claims ∧ ∃ t ∈ issued, t.claims = claims := by
  unfold validateToken at h
  split at h
  · cases h
  · split at h
    · rename_i hdecode
      split at h
      · cases h
      · cases h
        exact decodeToken_eq_some hdecode
    · cases h

theorem validateTokenForRefresh_eq_ok {issued : List IssuedToken} {now : Timestamp}
    {token : BearerToken} {claims : Claims}
    (h : validateTokenForRefresh issued now token = .ok claims) :
    token.claims = some claims ∧ ∃ t ∈ issued, t.claims = claims := by
  unfold validateTokenForRefresh at h
  split at h
  · rename_i hdecode
    split at h
    · cases h
    · cases h
      exact decodeToken_eq_some hdecode
  · cases h

/-- **The answers of a world in which the sessions in `D` are not valid.** -/
theorem sessionExec_answersAs (hinvalid : ∀ j, D j → jwtValidKey j ∉ w.cache)
    (htaken : ∀ j, D j → ∃ t ∈ w.issued, t.claims.jti = j) (call : SessionCall) :
    call.AnswersAs D (sessionExec call e w).2 := by
  cases call with
  | isSessionValid jwtId =>
    intro hj hvalid
    rw [sessionExec] at hvalid
    split at hvalid
    · cases (SessionWorld.ask_snd_eq_ok.1 hvalid).2
    · exact hinvalid jwtId hj (of_decide_eq_true (SessionWorld.ask_snd_eq_ok.1 hvalid).2)
  | generateToken userId mintedFrom =>
    intro t ht hj
    rw [sessionExec] at ht
    split at ht
    · cases ht
    · obtain rfl := Except.ok.inj ht
      obtain ⟨t, ht, hid⟩ := htaken _ hj
      refine newV4_notMem w.sessionIds e.newId (List.mem_append_left _ ?_)
      exact List.mem_map.2 ⟨t, ht, hid⟩
  | validateToken token => exact fun claims hok ↦ (validateToken_eq_ok hok).1
  | validateTokenForRefresh token => exact fun claims hok ↦ (validateTokenForRefresh_eq_ok hok).1
  | _ => trivial

/-- Where the keys of a world after a call come from. -/
theorem mem_cache_ask {α : Type} {error : Option String} {result : SessionWorld × α}
    {key : CacheKey} (h : key ∈ (w.ask error result).1.cache) :
    error = none ∧ key ∈ result.1.cache ∨ error ≠ none ∧ key ∈ w.cache := by
  rw [SessionWorld.ask_fst] at h
  split at h
  · exact Or.inl ⟨‹_›, h⟩
  · exact Or.inr ⟨‹_›, h⟩

/-- The key of a valid session was there before a call, which did not remove it, or the call wrote
it. -/
theorem validKey_sessionExec {call : SessionCall} {j : Uuid}
    (h : jwtValidKey j ∈ (sessionExec call e w).1.cache) :
    jwtValidKey j ∈ w.cache ∧ (call = .del (jwtValidKey j) → e.cacheError ≠ none) ∨
      ∃ ttl, call = .setSessionValid j ttl := by
  cases call with
  | setSessionValid jwtId ttl =>
    rcases mem_cache_ask h with ⟨-, hkey⟩ | ⟨-, hkey⟩
    · rcases List.mem_cons.1 hkey with hkey | hkey
      · right
        rw [show j = jwtId by simpa [jwtValidKey] using hkey]
        exact ⟨ttl, rfl⟩
      · exact Or.inl ⟨hkey, by simp⟩
    · exact Or.inl ⟨hkey, by simp⟩
  | setJwtToken jwtId ttl =>
    left
    rcases mem_cache_ask h with ⟨-, hkey⟩ | ⟨-, hkey⟩
    · rcases List.mem_cons.1 hkey with hkey | hkey
      · simp [jwtValidKey, jwtSessionKey] at hkey
      · exact ⟨hkey, by simp⟩
    · exact ⟨hkey, by simp⟩
  | isSessionValid jwtId =>
    left
    rw [sessionExec] at h
    split at h
    · rcases mem_cache_ask h with ⟨-, hkey⟩ | ⟨-, hkey⟩
      · exact ⟨List.mem_of_mem_filter hkey, by simp⟩
      · exact ⟨hkey, by simp⟩
    · rcases mem_cache_ask h with ⟨-, hkey⟩ | ⟨-, hkey⟩ <;> exact ⟨hkey, by simp⟩
  | del key =>
    left
    rcases mem_cache_ask h with ⟨-, hkey⟩ | ⟨hdown, hkey⟩
    · rw [List.mem_filter, decide_eq_true_eq] at hkey
      refine ⟨hkey.1, fun heq ↦ absurd ?_ hkey.2⟩
      exact (SessionCall.del.inj heq).symm
    · exact ⟨hkey, fun _ ↦ hdown⟩
  | keys jwtId start =>
    left
    rcases mem_cache_ask h with ⟨-, hkey⟩ | ⟨-, hkey⟩ <;> exact ⟨hkey, by simp⟩
  | getUserByEmail | getUserById | updateUserPassword | deleteUser | clearTransactions =>
    left
    rcases mem_cache_ask h with ⟨-, hkey⟩ | ⟨-, hkey⟩ <;> exact ⟨hkey, by simp⟩
  | createUser user =>
    left
    rw [sessionExec] at h
    split at h
    · exact ⟨h, by simp⟩
    · rcases mem_cache_ask h with ⟨-, hkey⟩ | ⟨-, hkey⟩ <;> exact ⟨hkey, by simp⟩
  | generateToken userId mintedFrom =>
    left
    rw [sessionExec] at h
    split at h <;> exact ⟨h, by simp⟩
  | _ => exact Or.inl ⟨h, by simp⟩

/-- What a call can add to the tokens. -/
theorem issued_sessionExec (call : SessionCall) :
    (sessionExec call e w).1.issued = w.issued ∨ ∃ userId mintedFrom claims,
      call = .generateToken userId mintedFrom ∧
        (sessionExec call e w).1.issued = w.issued ++ [⟨claims, mintedFrom⟩] := by
  cases call with
  | generateToken userId mintedFrom =>
    rw [sessionExec]
    split
    · exact Or.inl rfl
    · exact Or.inr ⟨userId, mintedFrom, _, rfl, rfl⟩
  | createUser user =>
    left
    rw [sessionExec]
    split
    · rfl
    · rw [SessionWorld.ask_fst]
      split <;> rfl
  | isSessionValid jwtId =>
    left
    rw [sessionExec]
    split <;> rw [SessionWorld.ask_fst] <;> split <;> rfl
  | getUserByEmail | getUserById | updateUserPassword | deleteUser | setSessionValid | setJwtToken
  | del | keys | clearTransactions =>
    left
    rw [sessionExec, SessionWorld.ask_fst]
    split <;> rfl
  | _ => exact Or.inl rfl

end Calls

/-! ### Ended for good -/

section Steps

variable {D E : Uuid → Prop} {p : SessionPool} {l : ℕ × SessionReply}

/-- Tokens stay issued. -/
theorem issued_step {t : IssuedToken} (h : t ∈ p.state.issued) :
    t ∈ (sessionStep p l).state.issued := by
  rcases p.step_cases sessionExec l with hsame | ⟨op, next, -, hcall⟩
  · rw [sessionStep, hsame]
    exact h
  · rw [sessionStep, hcall]
    show t ∈ (sessionExec op l.2 p.state).1.issued
    rcases issued_sessionExec (e := l.2) (w := p.state) op with
      hissued | ⟨userId, mintedFrom, claims, -, hissued⟩
    · rw [hissued]
      exact h
    · rw [hissued]
      exact List.mem_append_left _ h

/-- **Sessions that have ended stay ended.** -/
theorem Ended.step (h : Ended D E p) (l : ℕ × SessionReply) : Ended D E (sessionStep p l) where
  invalid j hj hvalid := by
    rcases p.step_cases sessionExec l with hsame | ⟨op, next, hthread, hcall⟩
    · rw [sessionStep, hsame] at hvalid
      exact h.invalid j hj hvalid
    · rw [sessionStep, hcall] at hvalid
      rcases validKey_sessionExec hvalid with ⟨hkey, -⟩ | ⟨ttl, rfl⟩
      · exact h.invalid j hj hkey
      · -- the request that writes the key does not spare the session
        exact (h.spared _ (List.mem_of_getElem? hthread)).1 hj
  taken j hj := by
    obtain ⟨t, ht, hid⟩ := h.taken j hj
    exact ⟨t, issued_step ht, hid⟩
  spared q hq := by
    obtain ⟨i, hi⟩ := List.mem_iff_getElem?.1 hq
    refine Pool.under_step sessionExec (fun op _ ↦ ?_) (fun q hq ↦ ?_) hi
    · exact sessionExec_answersAs h.invalid h.taken op
    · exact h.spared q (List.mem_of_getElem? hq)

/-- The program ends with a rejection as long as the sessions in `D` are not valid. -/
def EndsRejected (D : Uuid → Prop) (q : SessionProgram SessionResponse) : Prop :=
  q.Under (SessionCall.AnswersAs D) (fun _ ↦ True) SessionResponse.IsRejected

theorem Ended.endsRejected_step (h : Ended D E p) {k : ℕ}
    (hk : ∀ q, p.threads[k]? = some q → EndsRejected D q) {q : SessionProgram SessionResponse}
    (hq : (sessionStep p l).threads[k]? = some q) : EndsRejected D q :=
  Pool.under_step sessionExec (fun op _ ↦ sessionExec_answersAs h.invalid h.taken op) hk hq

/-- What asks whether an ended session is valid goes on as with one that is not. -/
theorem endsRejected_isSessionValid {jwtId : Uuid} (hD : D jwtId)
    {next : Except String Bool → SessionProgram SessionResponse}
    (hinvalid : EndsRejected D (next (.ok false))) (herror : ∀ e, EndsRejected D (next (.error e))) :
    EndsRejected D (performSession (.isSessionValid jwtId) >>= next) := by
  refine under_bind.2 ⟨trivial, fun valid hvalid ↦ ?_⟩
  match valid, hvalid with
  | .ok true, hvalid => exact absurd rfl (hvalid hD)
  | .ok false, _ => exact hinvalid
  | .error e, _ => exact herror e

theorem endsRejected_authMiddleware {token : BearerToken} {claims : Claims}
    (hclaims : token.claims = some claims) (hD : D claims.jti)
    (handler : AuthContext → SessionProgram SessionResponse) :
    EndsRejected D (authMiddleware (some token) handler) := by
  refine under_bind.2 ⟨trivial, fun r hr ↦ ?_⟩
  match r, hr with
  | .error _, _ => exact trivial
  | .ok claims', hr =>
    obtain rfl : claims = claims' := Option.some.inj (hclaims.symm.trans (hr claims' rfl))
    exact endsRejected_isSessionValid hD trivial fun _ ↦ trivial

theorem endsRejected_refresh {token : BearerToken} {claims : Claims}
    (hclaims : token.claims = some claims) (hD : D claims.jti) :
    EndsRejected D (refreshUserSession (some token)) := by
  refine under_bind.2 ⟨trivial, fun r hr ↦ ?_⟩
  match r, hr with
  | .error _, _ => exact trivial
  | .ok claims', hr =>
    obtain rfl : claims = claims' := Option.some.inj (hclaims.symm.trans (hr claims' rfl))
    exact endsRejected_isSessionValid hD trivial fun _ ↦ trivial

/-- **A request that needs a session and presents the token of an ended one is rejected.** -/
theorem endsRejected_serveSession {request : SessionRequest} {claims : Claims}
    (hneeds : request.NeedsSession) (hpresents : request.Presents claims) (hD : D claims.jti) :
    EndsRejected D (serveSession request) := by
  obtain ⟨token, htoken, hclaims⟩ := hpresents
  cases request with
  | register | login | logout => exact hneeds.elim
  | refresh header =>
    obtain rfl : header = some token := htoken
    exact endsRejected_refresh hclaims hD
  | changePassword header currentPassword newPassword =>
    obtain rfl : header = some token := htoken
    exact endsRejected_authMiddleware hclaims hD _
  | deleteAccount header =>
    obtain rfl : header = some token := htoken
    exact endsRejected_authMiddleware hclaims hD deleteUserAccount
  | authenticated header =>
    obtain rfl : header = some token := htoken
    exact endsRejected_authMiddleware hclaims hD fun _ ↦ pure .accepted

/-- A request behind the middleware that only reaches its handler spares every session. -/
theorem spares_authenticated (D E : Uuid → Prop) (header : Option BearerToken) :
    Spares D E (serveSession (.authenticated header)) := by
  cases header with
  | none => exact trivial
  | some token =>
    refine under_bind.2 ⟨id, fun r _ ↦ ?_⟩
    match r with
    | .error _ => exact trivial
    | .ok claims =>
      refine under_bind.2 ⟨id, fun valid _ ↦ ?_⟩
      match valid with
      | .ok true | .ok false | .error _ => exact trivial

end Steps

end Sumurai
