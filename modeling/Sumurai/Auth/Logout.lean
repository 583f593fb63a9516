import Mathlib.Logic.Relation
import Sumurai.Auth.Revocation

/-!
# What a logout ends

A logout checks the signature of its token and removes the keys of the session. A refresh checks
that the session of its token is valid, and later issues a new token and makes its session valid. So
a refresh that has made its check gets its session also after the logout has returned; a session
that was minted before the logout goes on and can be refreshed; and the logout returns also when the
cache has not answered its removals.

The *line* of a session is the session with those that were minted from it, directly or by a chain
of refreshes. `lineEnded_of_guarded` says what is enough for a logout to end the line: when it makes
its last call, no session of the line is valid, and no request in flight has still to write the key
of one or to mint from one. A logout itself is not a use of the session: it is answered with success
also when the session has ended, unless no logout is repeated.
-/

open LabelledSystem Program Relation

namespace Sumurai

/-- A refresh with the token of the session `parent` has issued the token of `child`. -/
def MintedFrom (issued : List IssuedToken) (parent child : Uuid) : Prop :=
  ∃ t ∈ issued, t.mintedFrom = some parent ∧ t.claims.jti = child

/-- The line of a session. -/
def SessionLine (issued : List IssuedToken) (j : Uuid) : Uuid → Prop :=
  ReflTransGen (MintedFrom issued) j

/-- The `i`-th request logs out with a token of the claims. -/
def IsLogout (requests : List SessionRequest) (claims : Claims) (i : ℕ) : Prop :=
  ∃ token, requests[i]? = some (.logout (some token)) ∧ token.claims = some claims

/-- The success of a logout. -/
def SessionResponse.isLoggedOut : SessionResponse → Bool
  | loggedOut _ => true
  | _ => false

/-- The request has returned the success of a logout. -/
def LoggedOut (p : SessionPool) (i : ℕ) : Prop :=
  ∃ response ∈ p.result i, response.isLoggedOut

instance {p : SessionPool} {i : ℕ} : Decidable (LoggedOut p i) :=
  inferInstanceAs (Decidable (∃ response ∈ p.result i, response.isLoggedOut))

/-- The `k`-th request presents the claims and had not started at a moment at which the logout had
returned. -/
def PresentedAfterLogout (kind : SessionRequest → Prop) (requests : List SessionRequest)
    (h : SessionHistory) (i : ℕ) (claims : Claims) (k : ℕ) : Prop :=
  ∃ request ∈ requests[k]?, kind request ∧ request.Presents claims ∧
    ∃ p ∈ h.moments, LoggedOut p i ∧ p.threads[k]? = some (serveSession request)

/-- **A logout ends the line of its session**: once it has returned, every request of the kind that
starts with the token is rejected, and no session of the line becomes valid. -/
def LineEnded (kind : SessionRequest → Prop) (requests : List SessionRequest) (h : SessionHistory) :
    Prop :=
  ∀ claims i, IsLogout requests claims i →
    (∀ k, PresentedAfterLogout kind requests h i claims k →
      ∀ response, h.now.result k = some response → response.IsRejected) ∧
    ∀ p, h.past.head? = some p → LoggedOut p i →
      ∀ j, SessionLine h.now.state.issued claims.jti j →
        jwtValidKey j ∈ h.now.state.cache → jwtValidKey j ∈ p.state.cache

/-- When a logout makes its last call, no session of the line is valid, and every request in flight
spares the line and mints nothing from it. -/
def EndsLine (requests : List SessionRequest) (h : SessionHistory) (l : ℕ × SessionReply) : Prop :=
  ∀ claims, IsLogout requests claims l.1 → h.now.nextCall l.1 = some .clearTransactions →
    (∀ j, SessionLine h.now.state.issued claims.jti j → jwtValidKey j ∉ h.now.state.cache) ∧
    ∀ q ∈ h.now.threads, Spares (SessionLine h.now.state.issued claims.jti)
      (SessionLine h.now.state.issued claims.jti) q

/-- A logout does not start with a token with which a logout has returned. -/
def NotRepeated (requests : List SessionRequest) (h : SessionHistory) (l : ℕ × SessionReply) :
    Prop :=
  ∀ claims, IsLogout requests claims l.1 →
    ∀ token, h.now.nextCall l.1 = some (.validateToken token) →
      ∀ i, IsLogout requests claims i → ¬ LoggedOut h.now i

/-! ### The line of a session -/

section Line

variable {issued : List IssuedToken} {j₀ : Uuid} {p : SessionPool} {l : ℕ × SessionReply}

theorem taken_of_sessionLine (h₀ : ∃ t ∈ issued, t.claims.jti = j₀) {j : Uuid}
    (h : SessionLine issued j₀ j) : ∃ t ∈ issued, t.claims.jti = j := by
  cases h with
  | refl => exact h₀
  | tail _ hlast =>
    obtain ⟨t, ht, -, hid⟩ := hlast
    exact ⟨t, ht, hid⟩

/-- **A line that has ended does not grow.** -/
theorem sessionLine_step (h : Ended (SessionLine p.state.issued j₀)
    (SessionLine p.state.issued j₀) p) :
    SessionLine (sessionStep p l).state.issued j₀ = SessionLine p.state.issued j₀ := by
  funext j
  refine propext ⟨fun hline ↦ ?_, fun hline ↦ ?_⟩
  · induction hline with
    | refl => exact ReflTransGen.refl
    | tail _ hlast ih =>
      obtain ⟨t, ht, hparent, hid⟩ := hlast
      suffices hold : t ∈ p.state.issued from ih.tail ⟨t, hold, hparent, hid⟩
      rcases p.step_cases sessionExec l with hsame | ⟨op, next, hthread, hcall⟩
      · rw [sessionStep, hsame] at ht
        exact ht
      · rw [sessionStep, hcall] at ht
        change t ∈ (sessionExec op l.2 p.state).1.issued at ht
        rcases issued_sessionExec (e := l.2) (w := p.state) op with
          hissued | ⟨userId, mintedFrom, claims, hop, hissued⟩
        · rwa [hissued] at ht
        · rw [hissued] at ht
          rcases List.mem_append.1 ht with ht | ht
          · exact ht
          · -- the new token is minted from the line, by a request that spares it
            obtain rfl := List.mem_singleton.1 ht
            obtain rfl : mintedFrom = _ := hparent
            subst hop
            exact absurd ih (h.spared _ (List.mem_of_getElem? hthread)).1
  · refine ReflTransGen.mono (fun a b hab ↦ ?_) _ _ hline
    obtain ⟨t, ht, hparent, hid⟩ := hab
    exact ⟨t, issued_step ht, hparent, hid⟩

end Line

/-! ### The thread of a logout -/

section Thread

variable {requests : List SessionRequest} {claims : Claims} {p : SessionPool}
  {l : ℕ × SessionReply} {i : ℕ}

theorem loggedOut_iff :
    LoggedOut p i ↔ ∃ response, p.threads[i]? = some (.done response) ∧ response.isLoggedOut := by
  simp only [LoggedOut, Option.mem_def, Pool.result_eq_some_iff]

theorem LoggedOut.step (hr : LoggedOut p i) : LoggedOut (sessionStep p l) i := by
  obtain ⟨response, hdone, hout⟩ := loggedOut_iff.1 hr
  exact loggedOut_iff.2 ⟨response, Pool.done_step sessionExec hdone, hout⟩

/-- A logout returns success only with its last call. -/
def ClearsBeforeSuccess (q : SessionProgram SessionResponse) : Prop :=
  q.Through (fun op ↦ op = .clearTransactions) fun response ↦ response.isLoggedOut

theorem clearsBeforeSuccess_logoutUser (token : BearerToken) :
    ClearsBeforeSuccess (logoutUser (some token)) := by
  refine Through.bind fun r ↦ ?_
  match r with
  | .error _ => exact Bool.false_ne_true
  | .ok claims =>
    refine Through.bind fun _ ↦ Through.bind fun _ ↦ ?_
    exact Or.inl ⟨rfl, fun _ ↦ ⟨_, rfl⟩⟩

/-- Where the thread of a logout can be with a token that is not known to be issued. -/
def LogoutThread (p : SessionPool) (claims : Claims) (token : BearerToken) (i : ℕ) : Prop :=
  (∃ t ∈ p.state.issued, t.claims = claims) ∨ p.threads[i]? = some (logoutUser (some token)) ∨
    ∃ status code, p.threads[i]? = some (.done (.rejected status code))

/-- A logout gets past the check of its token only if the token was issued. -/
theorem LogoutThread.step {token : BearerToken} (hclaims : token.claims = some claims)
    (h : LogoutThread p claims token i) : LogoutThread (sessionStep p l) claims token i := by
  rcases h with ⟨t, ht, htclaims⟩ | hstart | ⟨status, code, hdone⟩
  · exact Or.inl ⟨t, issued_step ht, htclaims⟩
  · by_cases hi : l.1 = i
    · subst hi
      have hlt : l.1 < p.threads.length := (List.getElem?_eq_some_iff.1 hstart).1
      rw [sessionStep, Pool.step_call sessionExec hstart]
      rcases hanswer : validateToken p.state.issued l.2.now token with e | claims'
      · refine Or.inr (Or.inr ⟨401, "", ?_⟩)
        show (p.threads.set l.1 _)[l.1]? = _
        rw [List.getElem?_set_self hlt, sessionExec, hanswer]
        rfl
      · obtain ⟨hclaims', t, ht, htclaims⟩ := validateToken_eq_ok hanswer
        rw [hclaims] at hclaims'
        rw [← Option.some.inj hclaims'] at htclaims
        exact Or.inl ⟨t, ht, htclaims⟩
    · refine Or.inr (Or.inl ?_)
      rw [← hstart]
      exact Pool.thread_step_of_ne sessionExec hi
  · exact Or.inr (Or.inr ⟨status, code, Pool.done_step sessionExec hdone⟩)

end Thread

/-! ### What every guarded step keeps -/

/-- The invariant of a guarded run. -/
structure LogoutsHold (requests : List SessionRequest) (h : SessionHistory) : Prop where
  threads : ∀ claims i, IsLogout requests claims i → ∀ q, h.now.threads[i]? = some q →
    ClearsBeforeSuccess q ∨ ∃ response, q = .done response
  issued : ∀ claims token (i : ℕ), requests[i]? = some (.logout (some token)) →
    token.claims = some claims → LogoutThread h.now claims token i
  /-- What has returned stays returned. -/
  loggedOut : ∀ p ∈ h.moments, ∀ i, LoggedOut p i → LoggedOut h.now i
  /-- The line of a logout that has returned has ended. -/
  ended : ∀ claims i, IsLogout requests claims i → LoggedOut h.now i →
    Ended (SessionLine h.now.state.issued claims.jti) (SessionLine h.now.state.issued claims.jti)
      h.now
  /-- The requests that started afterwards are going to be rejected. -/
  rejected : ∀ claims i, IsLogout requests claims i →
    ∀ k, PresentedAfterLogout SessionRequest.NeedsSession requests h i claims k →
      ∀ q, h.now.threads[k]? = some q →
        EndsRejected (SessionLine h.now.state.issued claims.jti) q

section Step

variable {requests : List SessionRequest} {h : SessionHistory} {l : ℕ × SessionReply}

theorem serveSession_of_thread {w : SessionWorld} {i : ℕ} {q : SessionProgram SessionResponse}
    (hq : (servingSessions requests w).threads[i]? = some q) :
    ∃ request ∈ requests[i]?, q = serveSession request := by
  rw [servingSessions, List.getElem?_map, Option.map_eq_some_iff] at hq
  obtain ⟨request, hrequest, rfl⟩ := hq
  exact ⟨request, hrequest, rfl⟩

theorem not_loggedOut_serving {w : SessionWorld} {claims : Claims} {i : ℕ}
    (hi : IsLogout requests claims i) : ¬ LoggedOut (servingSessions requests w) i := by
  intro hout
  obtain ⟨response, hdone, hsuccess⟩ := loggedOut_iff.1 hout
  obtain ⟨request, hrequest, hserve⟩ := serveSession_of_thread hdone
  obtain ⟨token, htoken, -⟩ := hi
  obtain rfl := Option.some.inj (hrequest.symm.trans htoken)
  have hnot : ClearsBeforeSuccess (.done response) := by
    rw [hserve]
    exact clearsBeforeSuccess_logoutUser token
  exact hnot hsuccess

theorem LogoutsHold.begin (requests : List SessionRequest) (w : SessionWorld) :
    LogoutsHold requests (History.start (servingSessions requests w)) where
  threads claims i hi q hq := by
    obtain ⟨request, hrequest, rfl⟩ := serveSession_of_thread hq
    obtain ⟨token, htoken, -⟩ := hi
    obtain rfl := Option.some.inj (hrequest.symm.trans htoken)
    exact Or.inl (clearsBeforeSuccess_logoutUser token)
  issued claims token i htoken hclaims := by
    refine Or.inr (Or.inl ?_)
    show (requests.map serveSession)[i]? = _
    rw [List.getElem?_map, htoken]
    rfl
  loggedOut p hp i hi := by
    rw [History.moments_start, List.mem_singleton] at hp
    rwa [History.now_start, ← hp]
  ended claims i hi hout := absurd hout (not_loggedOut_serving hi)
  rejected claims i hi k hafter := by
    obtain ⟨request, -, -, -, p, hp, hout, -⟩ := hafter
    rw [History.moments_start, List.mem_singleton] at hp
    rw [hp] at hout
    exact absurd hout (not_loggedOut_serving hi)

/-- A logout that is about to make its last call has a token that was issued. -/
theorem LogoutsHold.issued_of_last (hholds : LogoutsHold requests h) {claims : Claims} {i : ℕ}
    (hi : IsLogout requests claims i) (hlast : h.now.nextCall i = some .clearTransactions) :
    ∃ t ∈ h.now.state.issued, t.claims = claims := by
  obtain ⟨token, htoken, hclaims⟩ := hi
  obtain ⟨next, hthread⟩ := Pool.nextCall_eq_some_iff.1 hlast
  rcases hholds.issued claims token i htoken hclaims with hissued | hstart | ⟨status, code, hdone⟩
  · exact hissued
  · rw [hthread] at hstart
    cases hstart
  · rw [hthread] at hdone
    cases hdone

theorem LogoutsHold.ended_step (hholds : LogoutsHold requests h) (hl : EndsLine requests h l)
    {claims : Claims} {i : ℕ} (hi : IsLogout requests claims i)
    (hout : LoggedOut (sessionStep h.now l) i) :
    Ended (SessionLine (sessionStep h.now l).state.issued claims.jti)
      (SessionLine (sessionStep h.now l).state.issued claims.jti) (sessionStep h.now l) := by
  suffices hnow : Ended (SessionLine h.now.state.issued claims.jti)
      (SessionLine h.now.state.issued claims.jti) h.now by
    rw [sessionLine_step hnow]
    exact hnow.step l
  obtain ⟨response, hdone, hsuccess⟩ := loggedOut_iff.1 hout
  rcases (Pool.through_step sessionExec (hholds.threads claims i hi)).2 response hdone hsuccess with
    hsame | ⟨rfl, op, next, rfl, hthread⟩
  · exact hholds.ended claims i hi (loggedOut_iff.2 ⟨response, hsame, hsuccess⟩)
  · -- the last call of the logout
    have hlast := Pool.nextCall_eq_some_iff.2 ⟨next, hthread⟩
    obtain ⟨hinvalid, hspared⟩ := hl claims hi hlast
    obtain ⟨t, ht, htclaims⟩ := hholds.issued_of_last hi hlast
    refine ⟨hinvalid, fun j hj ↦ taken_of_sessionLine ⟨t, ht, ?_⟩ hj, hspared⟩
    rw [htclaims]

/-- **Every guarded step keeps the invariant.** -/
theorem LogoutsHold.step (hholds : LogoutsHold requests h) (hl : EndsLine requests h l) :
    LogoutsHold requests (h.step sessionStep l) where
  threads claims i hi q hq := (Pool.through_step sessionExec (hholds.threads claims i hi)).1 q hq
  issued claims token i htoken hclaims := (hholds.issued claims token i htoken hclaims).step hclaims
  loggedOut p hp i hi := by
    rcases List.mem_cons.1 hp with rfl | hp
    · exact hi
    · exact (hholds.loggedOut p hp i hi).step
  ended claims i hi hout := hholds.ended_step hl hi hout
  rejected claims i hi k hafter q hq := by
    obtain ⟨request, hk, hneeds, hpresents, p, hp, hout, hstart⟩ := hafter
    rcases List.mem_cons.1 hp with rfl | hp
    · -- the request starts now
      rw [hstart] at hq
      obtain rfl := Option.some.inj hq
      exact endsRejected_serveSession hneeds hpresents ReflTransGen.refl
    · have hended := hholds.ended claims i hi (hholds.loggedOut p hp i hout)
      show EndsRejected (SessionLine (sessionStep h.now l).state.issued claims.jti) q
      rw [sessionLine_step hended]
      refine hended.endsRejected_step ?_ hq
      exact hholds.rejected claims i hi k ⟨request, hk, hneeds, hpresents, p, hp, hout, hstart⟩

/-- No session of a line that has ended becomes valid. -/
theorem LogoutsHold.lineEnded (hholds : LogoutsHold requests h) :
    LineEnded SessionRequest.NeedsSession requests h := by
  intro claims i hi
  constructor
  · intro k hafter response hresponse
    exact hholds.rejected claims i hi k hafter _ (Pool.result_eq_some_iff.1 hresponse)
  · intro p hp hout j hj hvalid
    have hmem : p ∈ h.moments := List.mem_cons_of_mem _ (List.mem_of_mem_head? hp)
    have hended := hholds.ended claims i hi (hholds.loggedOut p hmem i hout)
    exact absurd hvalid (hended.invalid j hj)

/-- The logouts that had not started when one with their token had returned do not start. -/
def NoneAgain (requests : List SessionRequest) (h : SessionHistory) : Prop :=
  ∀ claims (i k : ℕ), IsLogout requests claims i → ∀ token,
    requests[k]? = some (.logout (some token)) → token.claims = some claims →
    (∃ p ∈ h.moments, LoggedOut p i ∧ p.threads[k]? = some (logoutUser (some token))) →
      h.now.threads[k]? = some (logoutUser (some token))

theorem NoneAgain.step (hnone : NoneAgain requests h) (hholds : LogoutsHold requests h)
    (hl : NotRepeated requests h l) : NoneAgain requests (h.step sessionStep l) := by
  intro claims i k hi token hk hclaims hafter
  obtain ⟨p, hp, hout, hstart⟩ := hafter
  rcases List.mem_cons.1 hp with rfl | hp
  · exact hstart
  · have hnow := hnone claims i k hi token hk hclaims ⟨p, hp, hout, hstart⟩
    have hne : l.1 ≠ k := by
      rintro rfl
      exact hl claims ⟨token, hk, hclaims⟩ token (Pool.nextCall_eq_some_iff.2 ⟨_, hnow⟩) i hi
        (hholds.loggedOut p hp i hout)
    rw [← hnow]
    exact Pool.thread_step_of_ne sessionExec hne

theorem NoneAgain.begin (requests : List SessionRequest) (w : SessionWorld) :
    NoneAgain requests (History.start (servingSessions requests w)) := by
  intro claims i k hi token hk hclaims hafter
  obtain ⟨p, hp, hout, -⟩ := hafter
  rw [History.moments_start, List.mem_singleton] at hp
  rw [hp] at hout
  exact absurd hout (not_loggedOut_serving hi)

/-- Where no logout is repeated, the requests that present the token are those that need its
session. -/
theorem LogoutsHold.lineEnded_all (hholds : LogoutsHold requests h) (hnone : NoneAgain requests h) :
    LineEnded (fun _ ↦ True) requests h := by
  intro claims i hi
  refine ⟨fun k hafter response hresponse ↦ ?_, (hholds.lineEnded claims i hi).2⟩
  obtain ⟨request, hk, -, hpresents, hmoment⟩ := hafter
  by_cases hneeds : request.NeedsSession
  · exact (hholds.lineEnded claims i hi).1 k ⟨request, hk, hneeds, hpresents, hmoment⟩ response
      hresponse
  · obtain ⟨token, htoken, hclaims⟩ := hpresents
    cases request with
    | register | login => cases htoken
    | refresh | changePassword | deleteAccount | authenticated => exact absurd trivial hneeds
    | logout header =>
      -- a logout that is not repeated has not made its first call
      obtain rfl : header = some token := htoken
      have hthread := hnone claims i k hi token hk hclaims hmoment
      rw [Pool.result_eq_some_iff, hthread] at hresponse
      cases hresponse

end Step

end Sumurai
