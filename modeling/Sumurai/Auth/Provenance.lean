import Sumurai.Auth.EndedSessions
import Sumurai.Foundations.Recordings

/-!
# Where tokens come from

Requests to the authentication endpoints are served in any order, one call at a time. A request does
what it does because of what it has been answered (`SessionRequest.Justifies`): it issues a token to
the user it has just created, to a user whose password it has verified, or to the subject of a token
whose session it has found valid; it changes a password for the subject of such a token, after the
old password; it deletes the account of the subject of such a token.

So every token there ever is goes back to a registration or to a login, through any number of
refreshes (`Granted`), and a request that gets past the middleware has presented such a token
(`tokens_granted`).
-/

open LabelledSystem Program

namespace Sumurai

/-- A call of the authentication endpoints with its answer. -/
abbrev SessionEvent := Event SessionCall.Answer

/-- A call of a request that is being served, on the world that it found. -/
abbrev SessionEntry := Entry SessionCall SessionWorld SessionReply

/-- The requests being served, and the calls that they have made. -/
abbrev SessionRecording :=
  Recording SessionCall SessionCall.Answer SessionWorld SessionReply SessionResponse

/-- A run in which the requests are served, with the calls of every request. -/
def recordedSessions (requests : List SessionRequest) (w : SessionWorld)
    (ls : List (ℕ × SessionReply)) : SessionRecording :=
  ls.foldl (Recording.step sessionExec) (Recording.start (servingSessions requests w))

/-- What a request has been answered. -/
abbrev sessionPast (i : ℕ) (log : List SessionEntry) : List SessionEvent :=
  past sessionExec i log

/-! ### What a request justifies -/

/-- The middleware has let the request pass with the claims. -/
def PassedMiddleware (header : Option BearerToken) (claims : Claims) (past : List SessionEvent) :
    Prop :=
  ∃ token ∈ header, ⟨.validateToken token, .ok claims⟩ ∈ past ∧
    ⟨.isSessionValid claims.jti, .ok true⟩ ∈ past

/-- What must have been answered to a request before it issues a token. -/
inductive MayIssue (past : List SessionEvent) (userId : Uuid) :
    Option Uuid → SessionRequest → Prop
  | registered {email password : String} (user : User) (hid : user.id = userId)
      (hemail : user.email = email)
      (hcreated : ⟨.createUser user, .ok ()⟩ ∈ past) :
      MayIssue past userId none (.register email password)
  | loggedIn {email password : String} (user : User) (hid : user.id = userId)
      (hfound : ⟨.getUserByEmail email, .ok (some user)⟩ ∈ past)
      (hverified : ⟨.verifyPassword password user.passwordHash, .ok true⟩ ∈ past) :
      MayIssue past userId none (.login email password)
  | refreshed {token : BearerToken} (claims : Claims) (hsub : claims.sub = userId)
      (hvalidated : ⟨.validateTokenForRefresh token, .ok claims⟩ ∈ past)
      (hvalid : ⟨.isSessionValid claims.jti, .ok true⟩ ∈ past) :
      MayIssue past userId (some claims.jti) (.refresh (some token))

/-- What must have been answered to a request before it changes the password of a user. -/
inductive MayChangePassword (past : List SessionEvent) (userId : Uuid) (hash : String) :
    SessionRequest → Prop
  | authenticated {header : Option BearerToken} {currentPassword newPassword : String}
      (claims : Claims) (user : User) (hsub : claims.sub = userId)
      (hpassed : PassedMiddleware header claims past)
      (hfound : ⟨.getUserById userId, .ok (some user)⟩ ∈ past)
      (hverified : ⟨.verifyPassword currentPassword user.passwordHash, .ok true⟩ ∈ past)
      (hhashed : ⟨.hashPassword newPassword, .ok hash⟩ ∈ past) :
      MayChangePassword past userId hash (.changePassword header currentPassword newPassword)

/-- What must have been answered to a request before it deletes a user. -/
inductive MayDelete (past : List SessionEvent) (userId : Uuid) : SessionRequest → Prop
  | authenticated {header : Option BearerToken} (claims : Claims) (hsub : claims.sub = userId)
      (hpassed : PassedMiddleware header claims past) :
      MayDelete past userId (.deleteAccount header)

/-- What must have been answered to a request before it creates a user. -/
inductive MayCreate (past : List SessionEvent) (user : User) : SessionRequest → Prop
  | hashed {email password : String} (hemail : user.email = email)
      (hhashed : ⟨.hashPassword password, .ok user.passwordHash⟩ ∈ past) :
      MayCreate past user (.register email password)

/-- The calls that a request may make after what it has been answered. -/
def SessionRequest.Justifies (request : SessionRequest) (past : List SessionEvent) :
    SessionCall → Prop
  | .generateToken userId mintedFrom => MayIssue past userId mintedFrom request
  | .createUser user => MayCreate past user request
  | .updateUserPassword userId hash => MayChangePassword past userId hash request
  | .deleteUser userId => MayDelete past userId request
  | _ => True

/-- The answers that tell of a session that was accepted. -/
def SessionResponse.isAuthenticated : SessionResponse → Bool
  | passwordChanged | accountDeleted _ | accepted => true
  | _ => false

/-- What must have been answered to a request before it is answered. -/
def SessionRequest.Earns (request : SessionRequest) (response : SessionResponse)
    (past : List SessionEvent) : Prop :=
  response.isAuthenticated → ∃ claims, PassedMiddleware request.header claims past

/-! ### The programs -/

/-- The calls that need no justification. -/
def SessionCall.isFree : SessionCall → Bool
  | generateToken _ _ | createUser _ | updateUserPassword _ _ | deleteUser _ => false
  | _ => true

section Programs

variable {request : SessionRequest} {past : List SessionEvent}

theorem justifies_of_isFree (request : SessionRequest) (past : List SessionEvent)
    (call : SessionCall) (h : call.isFree) : request.Justifies past call := by
  cases call <;> trivial

theorem calls_cacheSession (authToken : AuthToken) :
    (cacheSession authToken).Calls (SessionCall.isFree ·) := by
  refine Calls.bind (calls_ask rfl) fun now ↦ ?_
  dsimp only
  split
  · exact Calls.bind (calls_ask rfl) fun _ ↦ Calls.bind (calls_ask rfl) fun _ ↦ calls_pure
  · exact calls_pure

theorem calls_deleteKeys (keys : List CacheKey) :
    (deleteKeys keys).Calls (SessionCall.isFree ·) := by
  induction keys with
  | nil => exact calls_pure
  | cons key keys ih =>
    refine Calls.bind (calls_ask rfl) fun r ↦ ?_
    cases r with
    | ok _ => exact ih
    | error e => exact calls_pure

theorem calls_deletePattern (jwtId : Uuid) (start : String) :
    (deletePattern jwtId start).Calls (SessionCall.isFree ·) := by
  refine Calls.bind (calls_ask rfl) fun r ↦ ?_
  cases r with
  | ok keys => exact calls_deleteKeys keys
  | error e => exact calls_pure

theorem calls_disconnectAll (auth : AuthContext) (connections : List Uuid) :
    (disconnectAll auth connections).Calls (SessionCall.isFree ·) := by
  refine calls_forEach (fun deleted connectionId _ ↦ ?_) _
  refine Calls.bind (calls_ask rfl) fun r ↦ ?_
  cases r with
  | ok result => dsimp only; split <;> exact calls_pure
  | error e => exact calls_pure

/-- A part of a request that only makes free calls leaves what was answered before. -/
theorem ensures_of_isFree {α : Type} {p : SessionProgram α}
    (h : p.Calls (SessionCall.isFree ·)) {Q : α → List SessionEvent → Prop}
    (hQ : ∀ a past', past ⊆ past' → Q a past') :
    p.Ensures (onPast request.Justifies) Q past :=
  (h.ensures_onPast (justifies_of_isFree request)).imp fun a past' hpast ↦
    hQ a past' hpast.subset

/-- A call that is justified is answered in any way. -/
theorem ensures_performSession {α : Type} {call : SessionCall}
    {f : call.Answer → SessionProgram α} {Q : α → List SessionEvent → Prop}
    (hcall : request.Justifies past call)
    (hnext : ∀ r, (f r).Ensures (onPast request.Justifies) Q (past ++ [⟨call, r⟩])) :
    (performSession call >>= f).Ensures (onPast request.Justifies) Q past :=
  ensures_bind.2 (ensures_ask_onPast.2 ⟨hcall, fun e ↦ hnext (e call)⟩)

/-- An answer that does not tell of a session needs nothing. -/
theorem earns_of_not_isAuthenticated {response : SessionResponse}
    (h : response.isAuthenticated = false) : request.Earns response past :=
  fun hauth ↦ absurd (h.symm.trans hauth) Bool.false_ne_true

/-- What has been answered stays answered. -/
theorem PassedMiddleware.mono {header : Option BearerToken} {claims : Claims}
    {past past' : List SessionEvent} (h : PassedMiddleware header claims past)
    (hsub : past ⊆ past') : PassedMiddleware header claims past' := by
  obtain ⟨token, htoken, hvalidated, hvalid⟩ := h
  exact ⟨token, htoken, hsub hvalidated, hsub hvalid⟩

/-- The middleware calls the handler only after it has found the session valid. -/
theorem ensures_authMiddleware {header : Option BearerToken}
    {handler : AuthContext → SessionProgram SessionResponse}
    (hhandler : ∀ claims past, PassedMiddleware header claims past →
      (handler ⟨claims.sub, claims.jti⟩).Ensures (onPast request.Justifies) request.Earns past) :
    (authMiddleware header handler).Ensures (onPast request.Justifies) request.Earns past := by
  cases header with
  | none => exact earns_of_not_isAuthenticated rfl
  | some token =>
    refine ensures_performSession trivial fun r ↦ ?_
    cases r with
    | error error => exact earns_of_not_isAuthenticated rfl
    | ok claims =>
      refine ensures_performSession trivial fun r ↦ ?_
      rcases r with _ | (_ | _)
      · exact earns_of_not_isAuthenticated rfl
      · exact earns_of_not_isAuthenticated rfl
      · exact hhandler claims _ ⟨token, rfl, by simp, by simp⟩

theorem ensures_registerUser (email password : String) :
    (registerUser email password).Ensures
      (onPast (SessionRequest.register email password).Justifies)
      (SessionRequest.register email password).Earns past := by
  refine ensures_performSession trivial fun r ↦ ?_
  cases r with
  | error error => exact earns_of_not_isAuthenticated rfl
  | ok passwordHash =>
    refine ensures_performSession trivial fun userId ↦ ?_
    refine ensures_performSession (.hashed rfl (by simp)) fun r ↦ ?_
    cases r with
    | error error => exact earns_of_not_isAuthenticated rfl
    | ok _ =>
      refine ensures_performSession (.registered ⟨userId, email, passwordHash, false⟩ rfl rfl
        (by simp)) fun r ↦ ?_
      cases r with
      | error error => exact earns_of_not_isAuthenticated rfl
      | ok authToken =>
        refine ensures_bind.2 (ensures_of_isFree (calls_cacheSession authToken) fun _ _ _ ↦ ?_)
        exact earns_of_not_isAuthenticated rfl

theorem ensures_loginUser (email password : String) :
    (loginUser email password).Ensures (onPast (SessionRequest.login email password).Justifies)
      (SessionRequest.login email password).Earns past := by
  refine ensures_performSession trivial fun r ↦ ?_
  rcases r with _ | (_ | user)
  · exact earns_of_not_isAuthenticated rfl
  · exact earns_of_not_isAuthenticated rfl
  · refine ensures_performSession trivial fun r ↦ ?_
    rcases r with _ | (_ | _)
    · exact earns_of_not_isAuthenticated rfl
    · exact earns_of_not_isAuthenticated rfl
    · refine ensures_performSession (.loggedIn user rfl (by simp) (by simp)) fun r ↦ ?_
      cases r with
      | error error => exact earns_of_not_isAuthenticated rfl
      | ok authToken =>
        refine ensures_bind.2 (ensures_of_isFree (calls_cacheSession authToken) fun _ _ _ ↦ ?_)
        exact earns_of_not_isAuthenticated rfl

theorem ensures_refreshUserSession (header : Option BearerToken) :
    (refreshUserSession header).Ensures (onPast (SessionRequest.refresh header).Justifies)
      (SessionRequest.refresh header).Earns past := by
  cases header with
  | none => exact earns_of_not_isAuthenticated rfl
  | some token =>
    refine ensures_performSession trivial fun r ↦ ?_
    cases r with
    | error error => exact earns_of_not_isAuthenticated rfl
    | ok claims =>
      refine ensures_performSession trivial fun r ↦ ?_
      rcases r with _ | (_ | _)
      · exact earns_of_not_isAuthenticated rfl
      · exact earns_of_not_isAuthenticated rfl
      · refine ensures_performSession trivial fun r ↦ ?_
        rcases r with _ | (_ | user)
        · exact earns_of_not_isAuthenticated rfl
        · exact earns_of_not_isAuthenticated rfl
        · refine ensures_performSession (.refreshed claims rfl (by simp) (by simp)) fun r ↦ ?_
          cases r with
          | error error => exact earns_of_not_isAuthenticated rfl
          | ok authToken =>
            refine ensures_performSession trivial fun _ ↦ ?_
            refine ensures_bind.2 (ensures_of_isFree (calls_cacheSession authToken) fun _ _ _ ↦ ?_)
            exact earns_of_not_isAuthenticated rfl

theorem ensures_changeUserPassword {header : Option BearerToken}
    {currentPassword newPassword : String} {claims : Claims}
    (hpassed : PassedMiddleware header claims past) :
    (changeUserPassword currentPassword newPassword ⟨claims.sub, claims.jti⟩).Ensures
      (onPast (SessionRequest.changePassword header currentPassword newPassword).Justifies)
      (SessionRequest.changePassword header currentPassword newPassword).Earns past := by
  refine ensures_performSession trivial fun r ↦ ?_
  rcases r with _ | (_ | user)
  · exact earns_of_not_isAuthenticated rfl
  · exact earns_of_not_isAuthenticated rfl
  · refine ensures_performSession trivial fun r ↦ ?_
    rcases r with _ | (_ | _)
    · exact earns_of_not_isAuthenticated rfl
    · exact earns_of_not_isAuthenticated rfl
    · refine ensures_performSession trivial fun r ↦ ?_
      cases r with
      | error error => exact earns_of_not_isAuthenticated rfl
      | ok newHash =>
        have hpassed' : PassedMiddleware header claims (past ++
            [⟨.getUserById claims.sub, .ok (some user)⟩] ++
            [⟨.verifyPassword currentPassword user.passwordHash, .ok true⟩] ++
            [⟨.hashPassword newPassword, .ok newHash⟩]) := hpassed.mono (by simp)
        refine ensures_performSession (.authenticated claims user rfl hpassed' (by simp) (by simp)
          (by simp)) fun r ↦ ?_
        cases r with
        | error error => exact earns_of_not_isAuthenticated rfl
        | ok _ =>
          refine ensures_bind.2 (ensures_of_isFree (calls_deletePattern claims.jti "_")
            fun _ past' hsub _ ↦ ⟨claims, hpassed'.mono fun event hevent ↦ hsub ?_⟩)
          exact List.mem_append_left _ hevent

theorem ensures_deleteUserAccount {header : Option BearerToken} {claims : Claims}
    (hpassed : PassedMiddleware header claims past) :
    (deleteUserAccount ⟨claims.sub, claims.jti⟩).Ensures
      (onPast (SessionRequest.deleteAccount header).Justifies)
      (SessionRequest.deleteAccount header).Earns past := by
  refine ensures_performSession trivial fun r ↦ ?_
  cases r with
  | error error => exact earns_of_not_isAuthenticated rfl
  | ok connections =>
    refine ensures_bind.2 (ensures_of_isFree (calls_disconnectAll _ connections)
      fun deleted past₁ hsub₁ ↦ ?_)
    have hpassed₁ : PassedMiddleware header claims past₁ :=
      hpassed.mono fun event hevent ↦ hsub₁ (List.mem_append_left _ hevent)
    refine ensures_performSession trivial fun r ↦ ?_
    cases r with
    | error error => exact earns_of_not_isAuthenticated rfl
    | ok budgets =>
      have hpassed₂ := hpassed₁.mono (List.subset_append_left past₁
        [⟨.getBudgetsForUser claims.sub, .ok budgets⟩])
      refine ensures_performSession (.authenticated claims rfl hpassed₂) fun r ↦ ?_
      cases r with
      | error error => exact earns_of_not_isAuthenticated rfl
      | ok _ =>
        refine ensures_bind.2 (ensures_of_isFree (calls_deletePattern claims.jti "_")
          fun _ past' hsub _ ↦ ⟨claims, hpassed₂.mono fun event hevent ↦ hsub ?_⟩)
        exact List.mem_append_left _ hevent

theorem ensures_logoutUser (header : Option BearerToken) :
    (logoutUser header).Ensures (onPast (SessionRequest.logout header).Justifies)
      (SessionRequest.logout header).Earns past := by
  cases header with
  | none => exact earns_of_not_isAuthenticated rfl
  | some token =>
    refine ensures_performSession trivial fun r ↦ ?_
    cases r with
    | error error => exact earns_of_not_isAuthenticated rfl
    | ok claims =>
      refine ensures_bind.2 (ensures_of_isFree (calls_deleteKeys _) fun _ _ _ ↦ ?_)
      refine ensures_bind.2 (ensures_of_isFree (calls_deletePattern claims.jti "") fun _ _ _ ↦ ?_)
      refine ensures_performSession trivial fun _ ↦ ?_
      exact earns_of_not_isAuthenticated rfl

/-- **What a request does**: it makes the calls that its answers justify, and no others. -/
theorem ensures_serveSession (request : SessionRequest) :
    (serveSession request).Ensures (onPast request.Justifies) request.Earns past := by
  cases request with
  | register email password => exact ensures_registerUser email password
  | login email password => exact ensures_loginUser email password
  | logout header => exact ensures_logoutUser header
  | refresh header => exact ensures_refreshUserSession header
  | changePassword header currentPassword newPassword =>
    exact ensures_authMiddleware fun claims past hpassed ↦ ensures_changeUserPassword hpassed
  | deleteAccount header =>
    exact ensures_authMiddleware fun claims past hpassed ↦ ensures_deleteUserAccount hpassed
  | authenticated header =>
    rw [serveSession]
    refine ensures_authMiddleware fun claims past hpassed ↦ ?_
    exact fun _ ↦ ⟨claims, hpassed⟩

end Programs

/-! ### Runs -/

/-- The claims go back to a registration or a login of their subject, through refreshes of sessions
that were valid. -/
inductive Granted (requests : List SessionRequest) (log : List SessionEntry) : Claims → Prop
  | registered {claims : Claims} (i : ℕ) {email password : String} {user : User}
      (hrequest : requests[i]? = some (.register email password)) (hid : user.id = claims.sub)
      (hcreated : MayCreate (sessionPast i log) user (.register email password))
      (hanswer : ⟨.createUser user, .ok ()⟩ ∈ sessionPast i log) : Granted requests log claims
  | loggedIn {claims : Claims} (i : ℕ) {email password : String} (user : User)
      (hrequest : requests[i]? = some (.login email password)) (hid : user.id = claims.sub)
      (hstored : ∃ e ∈ log, user ∈ e.state.users ∧ user.email = email)
      (hverified : ⟨.verifyPassword password user.passwordHash, .ok true⟩ ∈ sessionPast i log) :
      Granted requests log claims
  | refreshed {claims : Claims} (i : ℕ) {token : BearerToken} (parent : Claims)
      (hrequest : requests[i]? = some (.refresh (some token)))
      (hpresented : token.claims = some parent) (hsub : parent.sub = claims.sub)
      (hvalid : ⟨.isSessionValid parent.jti, .ok true⟩ ∈ sessionPast i log)
      (hparent : Granted requests log parent) : Granted requests log claims

section Runs

variable {requests : List SessionRequest} {w : SessionWorld} {log log' : List SessionEntry}
  {claims : Claims}

theorem sessionPast_append_subset (i : ℕ) (log log' : List SessionEntry) :
    sessionPast i log ⊆ sessionPast i (log ++ log') := by
  rw [sessionPast, sessionPast, past_append]
  exact List.subset_append_left _ _

theorem Granted.append (h : Granted requests log claims) (log' : List SessionEntry) :
    Granted requests (log ++ log') claims := by
  induction h with
  | registered i hrequest hid hcreated hanswer =>
    obtain ⟨hemail, hhashed⟩ := hcreated
    exact .registered i hrequest hid (.hashed hemail (sessionPast_append_subset i log log' hhashed))
      (sessionPast_append_subset i log log' hanswer)
  | loggedIn i user hrequest hid hstored hverified =>
    obtain ⟨e, he, huser⟩ := hstored
    exact .loggedIn i user hrequest hid ⟨e, List.mem_append_left _ he, huser⟩
      (sessionPast_append_subset i log log' hverified)
  | refreshed i parent hrequest hpresented hsub hvalid _ ih =>
    exact .refreshed i parent hrequest hpresented hsub
      (sessionPast_append_subset i log log' hvalid) ih

/-- The calls of a run are justified by what their requests were answered. -/
theorem justified_recordedSessions (requests : List SessionRequest) (w : SessionWorld)
    (ls : List (ℕ × SessionReply)) :
    (recordedSessions requests w ls).Justified sessionExec
      (fun i past call ↦ ∃ request ∈ requests[i]?, request.Justifies past call)
      (fun i response past ↦ ∃ request ∈ requests[i]?, request.Earns response past) := by
  refine Recording.justified sessionExec (fun i q hq ↦ ?_) ls
  obtain ⟨request, hrequest, rfl⟩ := Option.map_eq_some_iff.1 (List.getElem?_map.symm.trans hq)
  have hjustifies : (fun past call ↦ ∃ request ∈ requests[i]?, request.Justifies past call) =
      request.Justifies := by
    simp [hrequest]
  have hearns : (fun response past ↦ ∃ request ∈ requests[i]?, request.Earns response past) =
      request.Earns := by
    simp [hrequest]
  rw [hjustifies, hearns]
  exact ensures_serveSession request

/-- What a call adds to the tokens is a token for the user it was made for. -/
theorem mem_issued_sessionExec {call : SessionCall} {e : SessionReply} {w : SessionWorld}
    {t : IssuedToken} (h : t ∈ (sessionExec call e w).1.issued) :
    t ∈ w.issued ∨ ∃ mintedFrom, call = .generateToken t.claims.sub mintedFrom := by
  rcases issued_sessionExec (e := e) (w := w) call with hsame | ⟨userId, mintedFrom, claims, rfl, -⟩
  · exact Or.inl (hsame ▸ h)
  · rw [sessionExec] at h
    split at h
    · exact Or.inl h
    · rcases List.mem_append.1 h with h | h
      · exact Or.inl h
      · rw [List.mem_singleton.1 h]
        exact Or.inr ⟨mintedFrom, rfl⟩

/-- The tokens that each call has found go back to a registration or a login before it. -/
def GrantedBefore (requests : List SessionRequest) : List SessionEntry → Prop :=
  EachAfter fun before e ↦ ∀ t ∈ e.state.issued, Granted requests before t.claims

/-- Each call is justified by what its request was answered before it. -/
def JustifiedBefore (requests : List SessionRequest) : List SessionEntry → Prop :=
  EachAfter fun before e ↦ ∃ request ∈ requests[e.thread]?,
    request.Justifies (sessionPast e.thread before) e.op

/-- The tokens of every moment of a run go back to a registration or a login. -/
structure AllGranted (requests : List SessionRequest) (R : SessionRecording) : Prop where
  now : ∀ t ∈ R.pool.state.issued, Granted requests R.log t.claims
  earlier : GrantedBefore requests R.log

/-- An event of a request was a call on some world. -/
theorem exists_entry_of_mem_sessionPast {i : ℕ} {call : SessionCall} {r : call.Answer}
    (h : ⟨call, r⟩ ∈ sessionPast i log) :
    ∃ e ∈ log, e.thread = i ∧ e.op = call ∧ (sessionExec call e.choice e.state).2 = r := by
  obtain ⟨e, he, hi, hevent⟩ := (mem_past sessionExec).1 h
  obtain ⟨hop, hanswer⟩ := Sigma.mk.inj hevent
  obtain ⟨j, op, choice, state⟩ := e
  obtain rfl : op = call := hop
  exact ⟨_, he, hi, rfl, eq_of_heq hanswer⟩

/-- The tokens of the worlds that the calls so far have found. -/
theorem GrantedBefore.of_mem (h : GrantedBefore requests log) {e : SessionEntry} (he : e ∈ log)
    {t : IssuedToken} (ht : t ∈ e.state.issued) : Granted requests log t.claims := by
  obtain ⟨before, after, hlog, hgranted⟩ := EachAfter.of_mem h he
  rw [hlog]
  exact (hgranted t ht).append _

/-- A token that was validated for a refresh had been issued. -/
theorem GrantedBefore.of_refresh (h : GrantedBefore requests log) {i : ℕ} {token : BearerToken}
    (hevent : ⟨.validateTokenForRefresh token, .ok claims⟩ ∈ sessionPast i log) :
    token.claims = some claims ∧ Granted requests log claims := by
  obtain ⟨e, he, -, -, hanswer⟩ := exists_entry_of_mem_sessionPast hevent
  obtain ⟨hclaims, t, ht, rfl⟩ := validateTokenForRefresh_eq_ok hanswer
  exact ⟨hclaims, h.of_mem he ht⟩

/-- A token that has passed the middleware had been issued. -/
theorem GrantedBefore.of_passed (h : GrantedBefore requests log) {i : ℕ}
    {header : Option BearerToken}
    (hpassed : PassedMiddleware header claims (sessionPast i log)) :
    (∃ token ∈ header, token.claims = some claims) ∧ Granted requests log claims := by
  obtain ⟨token, htoken, hvalidated, -⟩ := hpassed
  obtain ⟨e, he, -, -, hanswer⟩ := exists_entry_of_mem_sessionPast hvalidated
  obtain ⟨hclaims, t, ht, rfl⟩ := validateToken_eq_ok hanswer
  exact ⟨⟨token, htoken, hclaims⟩, h.of_mem he ht⟩

/-- A call that is justified issues a token that goes back to the start. -/
theorem GrantedBefore.of_mayIssue (h : GrantedBefore requests log) {i : ℕ}
    {request : SessionRequest} (hrequest : requests[i]? = some request) {mintedFrom : Option Uuid}
    (hcreated : ∀ user, ⟨.createUser user, .ok ()⟩ ∈ sessionPast i log →
      MayCreate (sessionPast i log) user request)
    (hissue : MayIssue (sessionPast i log) claims.sub mintedFrom request) :
    Granted requests log claims := by
  cases hissue with
  | registered user hid hemail hanswer =>
    exact .registered i hrequest hid (hcreated user hanswer) hanswer
  | loggedIn user hid hfound hverified =>
    obtain ⟨e, he, -, -, hanswer⟩ := exists_entry_of_mem_sessionPast hfound
    refine .loggedIn i user hrequest hid ⟨e, he, ?_⟩ hverified
    obtain ⟨-, hfind⟩ := SessionWorld.ask_snd_eq_ok.1 hanswer
    exact ⟨List.mem_of_find?_eq_some hfind, by simpa using List.find?_some hfind⟩
  | refreshed parent hsub hvalidated hvalid =>
    obtain ⟨hpresented, hgranted⟩ := h.of_refresh hvalidated
    exact .refreshed i parent hrequest hpresented hsub hvalid hgranted

/-- A user that a request has created has the email of the request and a hash of its password. -/
theorem JustifiedBefore.mayCreate (h : JustifiedBefore requests log) {i : ℕ}
    {request : SessionRequest} (hrequest : requests[i]? = some request) {user : User}
    (hanswer : ⟨.createUser user, .ok ()⟩ ∈ sessionPast i log) :
    MayCreate (sessionPast i log) user request := by
  obtain ⟨e, he, rfl, hop, -⟩ := exists_entry_of_mem_sessionPast hanswer
  obtain ⟨before, after, hlog, request', hrequest', hcreate⟩ := EachAfter.of_mem h he
  obtain rfl := Option.some.inj (hrequest'.symm.trans hrequest)
  rw [hop] at hcreate
  obtain ⟨hemail, hhashed⟩ := hcreate
  rw [hlog]
  exact .hashed hemail (sessionPast_append_subset e.thread before _ hhashed)

theorem AllGranted.step {R : SessionRecording} (h : AllGranted requests R)
    (l : ℕ × SessionReply)
    (hjustified : JustifiedBefore requests (R.step sessionExec l).log) :
    AllGranted requests (R.step sessionExec l) := by
  rcases R.step_cases sessionExec l with hsame | ⟨op, next, -, hstep⟩
  · rw [hsame]
    exact h
  · rw [hstep] at hjustified ⊢
    obtain ⟨hbefore, request, hrequest, hcall⟩ := eachAfter_append_singleton.1 hjustified
    refine ⟨fun t ht ↦ ?_, eachAfter_append_singleton.2 ⟨h.earlier, h.now⟩⟩
    refine Granted.append ?_ _
    rcases mem_issued_sessionExec ht with hold | ⟨mintedFrom, rfl⟩
    · exact h.now t hold
    · exact h.earlier.of_mayIssue hrequest
        (fun _ ↦ JustifiedBefore.mayCreate hbefore hrequest) hcall

theorem allGranted_recordedSessions (requests : List SessionRequest) (users : List User)
    (cache : List CacheKey) (ls : List (ℕ × SessionReply)) :
    AllGranted requests (recordedSessions requests ⟨users, [], cache⟩ ls) := by
  induction ls using List.reverseRecOn with
  | nil => exact ⟨fun t ht ↦ absurd ht List.not_mem_nil, eachAfter_nil⟩
  | append_singleton ls l ih =>
    have hjustified := (justified_recordedSessions requests ⟨users, [], cache⟩ (ls ++ [l])).made
    rw [recordedSessions, List.foldl_append] at hjustified ⊢
    exact ih.step l hjustified

/-- **Where tokens come from.** Requests are served from a world without tokens, in whatever order
their calls are made and whatever they are answered. Then every token that was issued goes back,
through refreshes of sessions that were valid, to a registration of its subject or to a login with a
password that was verified; and every request that was answered from behind the middleware has
presented such a token. -/
theorem tokens_granted (requests : List SessionRequest) (users : List User)
    (cache : List CacheKey) (ls : List (ℕ × SessionReply)) :
    let R := recordedSessions requests ⟨users, [], cache⟩ ls
    (∀ t ∈ R.pool.state.issued, Granted requests R.log t.claims) ∧
      ∀ i response, R.pool.result i = some response → response.isAuthenticated →
        ∃ request ∈ requests[i]?, ∃ token ∈ request.header, ∃ claims,
          token.claims = some claims ∧ Granted requests R.log claims := by
  have hgranted := allGranted_recordedSessions requests users cache ls
  refine ⟨hgranted.now, fun i response hresult hauth ↦ ?_⟩
  obtain ⟨request, hrequest, hearns⟩ :=
    (justified_recordedSessions requests ⟨users, [], cache⟩ ls).result hresult
  obtain ⟨claims, hpassed⟩ := hearns hauth
  obtain ⟨⟨token, htoken, hclaims⟩, h⟩ := hgranted.earlier.of_passed hpassed
  exact ⟨request, hrequest, token, htoken, claims, hclaims, h⟩

end Runs

end Sumurai
