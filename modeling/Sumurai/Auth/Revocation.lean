import Sumurai.Auth.EndedSessions

/-!
# What a change of the password revokes

A change of the password answers that the user has to log in again, and the deletion of an account
that the account is gone. Both remove the keys of the session they were made in, and of no other:
the tokens of the other sessions of the user stay accepted. They also drop the errors of the cache,
and a login or a refresh in flight makes its session valid afterwards.

`revokedAreRejected_of_guarded` says what is enough for every token that was issued to the user
before such a request returned success to be rejected in every request that starts afterwards: when
the request returns, no session of the user is valid, but for one whose key its last call removes,
and no request in flight has still to make one valid.
-/

open LabelledSystem Program

namespace Sumurai

/-- The request changes the password of the user or deletes the account. -/
def SessionRequest.RevokesFor (userId : Uuid) : SessionRequest → Prop
  | changePassword header _ _ | deleteAccount header =>
    ∃ token ∈ header, ∃ claims ∈ token.claims, claims.sub = userId
  | _ => False

/-- The `i`-th request changes the password of the user or deletes the account. -/
def IsRevocation (requests : List SessionRequest) (userId : Uuid) (i : ℕ) : Prop :=
  ∃ request ∈ requests[i]?, request.RevokesFor userId

/-- The success of a change of the password or of the deletion of an account. -/
def SessionResponse.revoked : SessionResponse → Bool
  | passwordChanged | accountDeleted _ => true
  | _ => false

/-- The request has returned success. -/
def Revoked (p : SessionPool) (i : ℕ) : Prop :=
  ∃ response ∈ p.result i, response.revoked

instance {p : SessionPool} {i : ℕ} : Decidable (Revoked p i) :=
  inferInstanceAs (Decidable (∃ response ∈ p.result i, response.revoked))

/-- A history of the pool. -/
abbrev SessionHistory := History SessionPool

/-- The token was issued at a moment at which the `i`-th request had not returned success. -/
def IssuedBefore (h : SessionHistory) (i : ℕ) (t : IssuedToken) : Prop :=
  ∃ p ∈ h.moments, ¬ Revoked p i ∧ t ∈ p.state.issued

/-- The `k`-th request needs a session, presents the claims, and had not started at a moment at
which the `i`-th had returned success. -/
def PresentedAfter (requests : List SessionRequest) (h : SessionHistory) (i : ℕ) (claims : Claims)
    (k : ℕ) : Prop :=
  ∃ request ∈ requests[k]?, request.NeedsSession ∧ request.Presents claims ∧
    ∃ p ∈ h.moments, Revoked p i ∧ p.threads[k]? = some (serveSession request)

/-- **Revoked tokens are rejected**: of a token issued to a user before a change of the password or
the deletion of the account returned, no check of the session succeeds once it has returned, and
every request that starts afterwards is rejected. -/
def RevokedAreRejected (requests : List SessionRequest) (h : SessionHistory) : Prop :=
  ∀ userId i, IsRevocation requests userId i →
    ∀ t : IssuedToken, t.claims.sub = userId → IssuedBefore h i t →
      (Revoked h.now i → ∀ e,
        (sessionExec (.isSessionValid t.claims.jti) e h.now.state).2 ≠ .ok true) ∧
      ∀ k, PresentedAfter requests h i t.claims k →
        ∀ response, h.now.result k = some response → response.IsRejected

/-- The call removes the key. -/
def Removes (p : SessionPool) (l : ℕ × SessionReply) (key : CacheKey) : Prop :=
  p.nextCall l.1 = some (.del key) ∧ l.2.cacheError = none

instance {p : SessionPool} {l : ℕ × SessionReply} {key : CacheKey} : Decidable (Removes p l key) :=
  inferInstanceAs (Decidable (p.nextCall l.1 = some (.del key) ∧ l.2.cacheError = none))

/-- A change of the password or the deletion of an account that returns success in this step leaves
no session of the user: those that are valid end in the step, and no request has still to make one
valid. -/
def LeavesNoSession (requests : List SessionRequest) (h : SessionHistory) (l : ℕ × SessionReply) :
    Prop :=
  ∀ userId, IsRevocation requests userId l.1 → ¬ Revoked h.now l.1 →
    Revoked (sessionStep h.now l) l.1 → ∀ t ∈ h.now.state.issued, t.claims.sub = userId →
      (jwtValidKey t.claims.jti ∈ h.now.state.cache →
        Removes h.now l (jwtValidKey t.claims.jti)) ∧
      ∀ q ∈ h.now.threads, Spares (· = t.claims.jti) (fun _ ↦ False) q

/-! ### What every guarded step keeps -/

/-- The invariant of a guarded run. -/
structure RevocationsHold (requests : List SessionRequest) (h : SessionHistory) : Prop where
  /-- What has returned stays returned. -/
  revoked : ∀ p ∈ h.moments, ∀ i, Revoked p i → Revoked h.now i
  issued : ∀ p ∈ h.moments, ∀ t ∈ p.state.issued, t ∈ h.now.state.issued
  /-- The sessions issued before a revocation that has returned have ended. -/
  ended : ∀ userId i, IsRevocation requests userId i → Revoked h.now i →
    ∀ t : IssuedToken, t.claims.sub = userId → IssuedBefore h i t →
      Ended (· = t.claims.jti) (fun _ ↦ False) h.now
  /-- The requests that started afterwards are going to be rejected. -/
  rejected : ∀ userId i, IsRevocation requests userId i →
    ∀ t : IssuedToken, t.claims.sub = userId → IssuedBefore h i t →
      ∀ k, PresentedAfter requests h i t.claims k →
        ∀ q, h.now.threads[k]? = some q → EndsRejected (· = t.claims.jti) q

section Step

variable {requests : List SessionRequest} {h : SessionHistory} {l : ℕ × SessionReply} {i : ℕ}

theorem revoked_iff {p : SessionPool} :
    Revoked p i ↔ ∃ response, p.threads[i]? = some (.done response) ∧ response.revoked := by
  simp only [Revoked, Option.mem_def, Pool.result_eq_some_iff]

theorem Revoked.step {p : SessionPool} (hr : Revoked p i) : Revoked (sessionStep p l) i := by
  obtain ⟨response, hdone, hrevoked⟩ := revoked_iff.1 hr
  exact revoked_iff.2 ⟨response, Pool.done_step sessionExec hdone, hrevoked⟩

/-- The step in which a revocation returns ends the sessions that it leaves to be ended. -/
theorem ended_of_leavesNoSession {p : SessionPool} {t : IssuedToken} (ht : t ∈ p.state.issued)
    (hkey : jwtValidKey t.claims.jti ∈ p.state.cache →
      Removes p l (jwtValidKey t.claims.jti))
    (hspared : ∀ q ∈ p.threads, Spares (· = t.claims.jti) (fun _ ↦ False) q) :
    Ended (· = t.claims.jti) (fun _ ↦ False) (sessionStep p l) := by
  by_cases hvalid : jwtValidKey t.claims.jti ∈ p.state.cache
  · -- the call of the step removes the key
    obtain ⟨hcall, hup⟩ := hkey hvalid
    obtain ⟨next, hthread⟩ := Pool.nextCall_eq_some_iff.1 hcall
    refine ⟨?_, ?_, fun q hq ↦ ?_⟩
    · rintro _ rfl hstill
      rw [sessionStep, Pool.step_call sessionExec hthread] at hstill
      rcases validKey_sessionExec hstill with ⟨-, hdown⟩ | ⟨ttl, hset⟩
      · exact hdown rfl hup
      · cases hset
    · rintro _ rfl
      exact ⟨t, issued_step ht, rfl⟩
    · obtain ⟨i, hi⟩ := List.mem_iff_getElem?.1 hq
      rcases Pool.thread_of_step sessionExec hi with hsame | ⟨op, next', rfl, hthread', rfl⟩
      · exact hspared q (List.mem_of_getElem? hsame)
      · rw [hthread] at hthread'
        cases hthread'
        exact (hspared _ (List.mem_of_getElem? hthread)).2 _ trivial
  · have hended : Ended (· = t.claims.jti) (fun _ ↦ False) p :=
      ⟨by rintro _ rfl; exact hvalid, by rintro _ rfl; exact ⟨t, ht, rfl⟩, hspared⟩
    exact hended.step l

theorem RevocationsHold.begin (requests : List SessionRequest) (w : SessionWorld) :
    RevocationsHold requests (History.start (servingSessions requests w)) where
  revoked p hp i hi := by
    rw [History.moments_start, List.mem_singleton] at hp
    rwa [History.now_start, ← hp]
  issued p hp t ht := by
    rw [History.moments_start, List.mem_singleton] at hp
    rwa [History.now_start, ← hp]
  ended userId i hi hrevoked t huser hbefore := by
    obtain ⟨p, hp, hnot, -⟩ := hbefore
    rw [History.moments_start, List.mem_singleton] at hp
    rw [hp] at hnot
    exact absurd hrevoked hnot
  rejected userId i hi t huser hbefore k hafter := by
    obtain ⟨p, hp, hnot, -⟩ := hbefore
    obtain ⟨request, -, -, -, p', hp', hrevoked, -⟩ := hafter
    rw [History.moments_start, List.mem_singleton] at hp hp'
    rw [hp] at hnot
    rw [hp'] at hrevoked
    exact absurd hrevoked hnot

/-- A token issued before a revocation that has now returned was issued before the last step. -/
theorem RevocationsHold.issuedBefore_of_step (hholds : RevocationsHold requests h)
    {t : IssuedToken} (hrevoked : Revoked (sessionStep h.now l) i)
    (hbefore : IssuedBefore (h.step sessionStep l) i t) :
    IssuedBefore h i t ∧ t ∈ h.now.state.issued := by
  obtain ⟨p, hp, hnot, ht⟩ := hbefore
  rcases List.mem_cons.1 hp with rfl | hp
  · exact absurd hrevoked hnot
  · exact ⟨⟨p, hp, hnot, ht⟩, hholds.issued p hp t ht⟩

theorem RevocationsHold.ended_step (hholds : RevocationsHold requests h)
    (hl : LeavesNoSession requests h l) {userId : Uuid} (hi : IsRevocation requests userId i)
    (hrevoked : Revoked (sessionStep h.now l) i) {t : IssuedToken} (huser : t.claims.sub = userId)
    (hbefore : IssuedBefore (h.step sessionStep l) i t) :
    Ended (· = t.claims.jti) (fun _ ↦ False) (sessionStep h.now l) := by
  obtain ⟨hbefore', ht⟩ := hholds.issuedBefore_of_step hrevoked hbefore
  by_cases hnow : Revoked h.now i
  · exact (hholds.ended userId i hi hnow t huser hbefore').step l
  · -- the request returns in this step, so it is the one that makes its call
    have hil : i = l.1 := by
      obtain ⟨response, hdone, hsuccess⟩ := revoked_iff.1 hrevoked
      rcases Pool.thread_of_step sessionExec hdone with hsame | ⟨_, _, hil, -, -⟩
      · exact absurd (revoked_iff.2 ⟨response, hsame, hsuccess⟩) hnow
      · exact hil
    subst hil
    obtain ⟨hkey, hspared⟩ := hl userId hi hnow hrevoked t ht huser
    exact ended_of_leavesNoSession ht hkey hspared

/-- **Every guarded step keeps the invariant.** -/
theorem RevocationsHold.step (hholds : RevocationsHold requests h)
    (hl : LeavesNoSession requests h l) : RevocationsHold requests (h.step sessionStep l) where
  revoked p hp i hi := by
    rcases List.mem_cons.1 hp with rfl | hp
    · exact hi
    · exact (hholds.revoked p hp i hi).step
  issued p hp t ht := by
    rcases List.mem_cons.1 hp with rfl | hp
    · exact ht
    · exact issued_step (hholds.issued p hp t ht)
  ended userId i hi hrevoked t huser hbefore := hholds.ended_step hl hi hrevoked huser hbefore
  rejected userId i hi t huser hbefore k hafter q hq := by
    obtain ⟨request, hk, hneeds, hpresents, p, hp, hrevoked, hstart⟩ := hafter
    rcases List.mem_cons.1 hp with rfl | hp
    · -- the request starts now
      rw [hstart] at hq
      obtain rfl := Option.some.inj hq
      exact endsRejected_serveSession hneeds hpresents rfl
    · have hnow : Revoked h.now i := hholds.revoked p hp i hrevoked
      obtain ⟨hbefore', -⟩ := hholds.issuedBefore_of_step hnow.step hbefore
      refine (hholds.ended userId i hi hnow t huser hbefore').endsRejected_step ?_ hq
      exact hholds.rejected userId i hi t huser hbefore' k
        ⟨request, hk, hneeds, hpresents, p, hp, hrevoked, hstart⟩

end Step

end Sumurai
