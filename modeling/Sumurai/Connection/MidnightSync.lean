import Sumurai.Connection.Sync
import Sumurai.Foundations.Recordings
import Sumurai.Models.Dates

/-!
# The midnight sync

A worker sleeps until the next local midnight, syncs every connected connection of every user, waits
five seconds and starts again.

A round passes over what fails: the connections of a user that cannot be listed, and a connection
whose sync ends in an error. What else the service does in the meantime does not matter, so a round
is followed through the calls that it makes itself (`onPast`): it lists the connections of every
user once, in order, and makes one attempt at each of the connected ones
(`runMidnightSync_attempts`).

When the rounds start depends on the time zone. A local day may have two midnights or none, and then
the worker takes the first one, or a day of 24 hours. No two rounds ever start on one local day, and
no day is left out as long as every round ends on the day it started (`rounds_days`).
-/

open Program

namespace Sumurai

/-- A call of the service with its answer. -/
abbrev ServiceEvent := Event ServiceCall.Answer

/-- `run_midnight_sync`: the number of connections that were synced. The users are those that
`get_all_user_ids` has answered. -/
def runMidnightSync (registered : String → Bool) (userIds : Except DbError (List Uuid)) :
    ServiceProgram (Except DbError ℕ) :=
  match userIds with
  | .error e => return .error e
  | .ok userIds => do
    let total ← forEach userIds 0 fun total userId ↦ do
      match ← syncAllUserConnections registered userId with
      | .ok count => return total + count
      | .error _ => return total
    return .ok total

/-! ### Attempts -/

/-- The sync of a connection begins with the look-up of its credentials. -/
def attempt : ServiceEvent → Option (Uuid × String)
  | ⟨.getProviderCredentialsForUser userId itemId, _⟩ => some (userId, itemId)
  | _ => none

/-- A listing of the connections of a user, with what it was answered. -/
def listing : ServiceEvent → Option (Uuid × Except DbError (List ProviderConnection))
  | ⟨.getAllProviderConnectionsByUser userId, r⟩ => some (userId, r)
  | _ => none

/-- The connections of a user that a sync of all of them is for. -/
def dueConnections (found : Uuid × Except DbError (List ProviderConnection)) :
    List (Uuid × String) :=
  match found.2 with
  | .ok connections =>
    (connections.filter ProviderConnection.isConnected).map fun c ↦ (found.1, c.itemId)
  | .error _ => []

/-- The call is neither an attempt nor a listing. -/
def ServiceCall.isDetail : ServiceCall → Bool
  | getProviderCredentialsForUser _ _ | getAllProviderConnectionsByUser _ => false
  | _ => true

/-- The attempts and the listings that were added to a past. -/
structure Adds (past past' : List ServiceEvent) (attempts : List (Uuid × String))
    (listings : List (Uuid × Except DbError (List ProviderConnection))) : Prop where
  attempts : past'.filterMap attempt = past.filterMap attempt ++ attempts
  listings : past'.filterMap listing = past.filterMap listing ++ listings

section Adds

variable {past past' past'' : List ServiceEvent} {as as' : List (Uuid × String)}
  {ls ls' : List (Uuid × Except DbError (List ProviderConnection))}

theorem Adds.refl (past : List ServiceEvent) : Adds past past [] [] :=
  ⟨(List.append_nil _).symm, (List.append_nil _).symm⟩

theorem Adds.trans (h : Adds past past' as ls) (h' : Adds past' past'' as' ls') :
    Adds past past'' (as ++ as') (ls ++ ls') := by
  constructor
  · rw [h'.attempts, h.attempts, List.append_assoc]
  · rw [h'.listings, h.listings, List.append_assoc]

theorem adds_singleton (past : List ServiceEvent) (event : ServiceEvent) :
    Adds past (past ++ [event]) (attempt event).toList (listing event).toList := by
  constructor
  · rw [List.filterMap_append]
    cases h : attempt event <;> simp [h]
  · rw [List.filterMap_append]
    cases h : listing event <;> simp [h]

theorem adds_detail {call : ServiceCall} (h : call.isDetail) (r : call.Answer) :
    Adds past (past ++ [⟨call, r⟩]) [] [] := by
  have hadds := adds_singleton past ⟨call, r⟩
  cases call <;> first | exact hadds | cases h

end Adds

/-! ### One connection -/

section Programs

variable {registered : String → Bool} {userId : Uuid} {connection : ProviderConnection}
  {past : List ServiceEvent} {α : Type}

/-- Any call may be made. -/
abbrev anyCall : List ServiceEvent → ServiceCall → Prop :=
  fun _ _ ↦ True

/-- A call, and what is done with its answer. -/
theorem ensures_perform_onPast {call : ServiceCall} {f : call.Answer → ServiceProgram α}
    {Q : α → List ServiceEvent → Prop}
    (hnext : ∀ r, (f r).Ensures (onPast anyCall) Q (past ++ [⟨call, r⟩])) :
    (perform call >>= f).Ensures (onPast anyCall) Q past :=
  ensures_bind.2 (ensures_ask_onPast.2 ⟨trivial, fun e ↦ hnext (e call)⟩)

/-- Details add nothing. -/
theorem ensures_of_isDetail {p : ServiceProgram α} (h : p.Calls (ServiceCall.isDetail ·)) :
    p.Ensures (onPast anyCall) (fun _ past' ↦ Adds past past' [] []) past := by
  refine h.ensures (J := fun past' ↦ Adds past past' [] []) ?_ (fun _ _ _ _ ↦ trivial) ?_
    (Adds.refl past)
  · rintro past' _ hpast rfl
    exact hpast
  · exact fun past' call e hpast hcall _ ↦ hpast.trans (adds_detail hcall (e call))

theorem calls_detail {call : ServiceCall} (h : call.isDetail = true) :
    (perform call).Calls (ServiceCall.isDetail ·) :=
  calls_perform h

theorem isDetail_recordConnectionError (message status : String) :
    (recordConnectionError connection message status).Calls (ServiceCall.isDetail ·) :=
  (calls_detail rfl).bind fun _ ↦ calls_pure

theorem isDetail_syncProviderTransactions (credentials : ProviderCredentials)
    (syncTimestamp : Timestamp) (window : NaiveDate × NaiveDate) :
    (syncProviderTransactions registered userId credentials connection syncTimestamp window).Calls
      (ServiceCall.isDetail ·) := by
  refine (calls_detail rfl).bind fun answer ↦ ?_
  split
  · exact calls_pure
  · have hfetch : ∀ accounts, (syncBankConnectionTransactions registered credentials connection
        accounts).Calls (ServiceCall.isDetail ·) := by
      intro accounts
      refine (calls_detail rfl).bind fun now ↦ ?_
      dsimp only
      split
      · refine (calls_detail rfl).bind fun answer ↦ ?_
        split <;> exact calls_pure
      · exact calls_pure
    refine (hfetch _).bind fun result ↦ ?_
    split
    · exact (isDetail_recordConnectionError _ _).bind fun _ ↦ calls_pure
    · refine (calls_persistTransactions (fun t ↦ rfl) _).bind fun _ ↦ ?_
      exact (calls_finishProviderSync (P := (ServiceCall.isDetail ·)) rfl rfl rfl
        fun _ _ ↦ rfl).bind fun _ ↦ calls_pure

theorem isDetail_syncTellerTransactions (credentials : ProviderCredentials)
    (syncTimestamp : Timestamp) (window : NaiveDate × NaiveDate) :
    (syncTellerTransactions userId credentials connection syncTimestamp window).Calls
      (ServiceCall.isDetail ·) := by
  refine (calls_detail rfl).bind fun answer ↦ ?_
  split
  · exact calls_pure
  · refine (calls_detail rfl).bind fun answer ↦ ?_
    split
    · exact (isDetail_recordConnectionError _ _).bind fun _ ↦ calls_pure
    · refine (calls_persistTellerTransactions (fun t ↦ rfl) _ _).bind fun _ ↦ ?_
      exact calls_finishTellerSync rfl rfl rfl rfl fun _ _ ↦ rfl

/-- The first calls of a sync: the readings of the clock and the look-up of the credentials. -/
theorem ensures_startOfSync
    {f : Timestamp → Timestamp → Except DbError (Option PlaidCredentials) → ServiceProgram α}
    (hrest : ∀ t now r, (f t now r).Calls (ServiceCall.isDetail ·)) :
    (do let t ← perform .now
        let now ← perform .now
        let r ← perform (.getProviderCredentialsForUser userId connection.itemId)
        f t now r : ServiceProgram α).Ensures (onPast anyCall)
      (fun _ past' ↦ Adds past past' [(userId, connection.itemId)] []) past := by
  refine ensures_perform_onPast fun t ↦ ?_
  refine ensures_perform_onPast fun now ↦ ?_
  refine ensures_perform_onPast fun r ↦ ?_
  refine (ensures_of_isDetail (hrest t now r)).imp fun _ past' hrest ↦ ?_
  have hclock (past : List ServiceEvent) (t : Timestamp) : Adds past (past ++ [⟨.now, t⟩]) [] [] :=
    adds_singleton past ⟨.now, t⟩
  have hlookup (past : List ServiceEvent) := adds_singleton past
    ⟨.getProviderCredentialsForUser userId connection.itemId, r⟩
  exact (hclock past t).trans ((hclock _ now).trans ((hlookup _).trans hrest))

/-- **A sync of a connection is one attempt**, however it ends. -/
theorem ensures_syncConnection_adds :
    (syncConnection registered userId connection).Ensures (onPast anyCall)
      (fun _ past' ↦ Adds past past' [(userId, connection.itemId)] []) past := by
  rw [syncConnection]
  split
  · refine ensures_bind.2 (Ensures.imp (ensures_startOfSync ?_) fun result past' hadds ↦ ?_)
    · intro t now r
      split
      · exact calls_pure
      · exact calls_pure
      · split
        · refine (calls_detail rfl).bind fun answer ↦ ?_
          split
          · exact (isDetail_recordConnectionError _ _).bind fun _ ↦ calls_pure
          · refine (calls_persistAccounts (fun a ↦ rfl) _).bind fun _ ↦ ?_
            refine (calls_detail rfl).bind fun _ ↦ ?_
            exact isDetail_syncTellerTransactions _ _ _
        · exact calls_pure
    · split <;> exact hadds
  · refine ensures_bind.2 (Ensures.imp (ensures_startOfSync ?_) fun result past' hadds ↦ ?_)
    · intro t now r
      split
      · exact calls_pure
      · exact calls_pure
      · split
        · refine (calls_detail rfl).bind fun answer ↦ ?_
          split
          · exact (isDetail_recordConnectionError _ _).bind fun _ ↦ calls_pure
          · refine (calls_persistAccounts (fun a ↦ rfl) _).bind fun _ ↦ ?_
            exact isDetail_syncProviderTransactions _ _ _
        · exact calls_pure
    · split <;> exact hadds

/-! ### One user -/

/-- One connection more is one attempt more, if it is connected. -/
theorem dueConnections_append (userId : Uuid) (before : List ProviderConnection)
    (connection : ProviderConnection) :
    dueConnections (userId, .ok (before ++ [connection])) = dueConnections (userId, .ok before) ++
      if connection.isConnected then [(userId, connection.itemId)] else [] := by
  simp only [dueConnections, List.filter_append, List.map_append]
  cases h : connection.isConnected <;> simp [h]

/-- **The sync of all the connections of a user** lists them once and attempts each of those that
are connected once, in order. -/
theorem ensures_syncAllUserConnections_adds :
    (syncAllUserConnections registered userId).Ensures (onPast anyCall) (fun result past' ↦
      ∃ found, Adds past past' (dueConnections (userId, found)) [(userId, found)] ∧
        ∀ count, result = .ok count → count ≤ (dueConnections (userId, found)).length) past := by
  refine ensures_perform_onPast fun found ↦ ?_
  have hlist := adds_singleton past ⟨.getAllProviderConnectionsByUser userId, found⟩
  cases found with
  | error e => exact ⟨.error e, hlist, nofun⟩
  | ok connections =>
    refine ensures_bind.2 (Ensures.imp (Ensures.forEach
      (I := fun before count past' ↦ Adds past past' (dueConnections (userId, .ok before))
        [(userId, .ok connections)] ∧ count ≤ (dueConnections (userId, .ok before)).length)
      ?_ ⟨hlist, le_rfl⟩) fun count past' hcount ↦ ?_)
    · rintro before connection after count past' - ⟨hadds, hcount⟩
      rw [dueConnections_append]
      split
      · refine ensures_bind.2 (ensures_syncConnection_adds.imp fun result past'' hattempt ↦ ?_)
        have hboth := hadds.trans hattempt
        cases result with
        | ok response => exact ⟨hboth, by simpa using hcount⟩
        | error e => exact ⟨hboth, by simpa using Nat.le_succ_of_le hcount⟩
      · exact ⟨by simpa using hadds, by simpa using hcount⟩
    · exact ⟨.ok connections, hcount.1, fun c hc ↦ by cases hc; exact hcount.2⟩

/-! ### All users -/

/-- **A round of the midnight sync** lists the connections of every user once, in order, and makes
one attempt at each of those that are connected, whatever fails. -/
theorem ensures_runMidnightSync (userIds : List Uuid) :
    (runMidnightSync registered (.ok userIds)).Ensures (onPast anyCall) (fun result past' ↦
      ∃ found, Adds past past' (found.flatMap dueConnections) found ∧
        found.map Prod.fst = userIds ∧
        ∃ total, result = .ok total ∧ total ≤ (found.flatMap dueConnections).length) past := by
  refine ensures_bind.2 (Ensures.imp (Ensures.forEach
    (I := fun before total past' ↦ ∃ found, Adds past past' (found.flatMap dueConnections) found ∧
      found.map Prod.fst = before ∧ total ≤ (found.flatMap dueConnections).length)
    ?_ ⟨[], Adds.refl past, rfl, le_rfl⟩) fun total past' htotal ↦ ?_)
  · rintro before userId after total past' - ⟨found, hadds, husers, htotal⟩
    refine ensures_bind.2 (ensures_syncAllUserConnections_adds.imp ?_)
    rintro result past'' ⟨answer, huser, hcount⟩
    have hboth : Adds past past'' ((found ++ [(userId, answer)]).flatMap dueConnections)
        (found ++ [(userId, answer)]) := by
      rw [List.flatMap_append, List.flatMap_singleton]
      exact hadds.trans huser
    have hnames : (found ++ [(userId, answer)]).map Prod.fst = before ++ [userId] := by
      rw [List.map_append, husers]
      rfl
    cases result with
    | ok count =>
      refine ⟨_, hboth, hnames, ?_⟩
      rw [List.flatMap_append, List.flatMap_singleton, List.length_append]
      exact Nat.add_le_add htotal (hcount count rfl)
    | error e =>
      refine ⟨_, hboth, hnames, ?_⟩
      rw [List.flatMap_append, List.length_append]
      exact Nat.le_add_right_of_le htotal
  · obtain ⟨found, hadds, husers, hle⟩ := htotal
    exact ⟨found, hadds, husers, total, rfl, hle⟩

theorem ensures_anyCall (p : ServiceProgram α) :
    p.Ensures (onPast anyCall) (fun _ _ ↦ True) past := by
  induction p generalizing past with
  | done a => trivial
  | call op next ih =>
    rintro _ rfl
    exact ⟨trivial, fun e _ ↦ ih _⟩

end Programs

/-- The calls that a thread of the service has made, with their answers. -/
abbrev servicePast (L : Locale) (i : ℕ) (log : List (Entry ServiceCall World Reply)) :
    List ServiceEvent :=
  past (exec L) i log

/-- What a listing was answered with is what was stored. -/
theorem eq_of_listing {L : Locale} {e : Entry ServiceCall World Reply} {userId : Uuid}
    {connections : List ProviderConnection}
    (h : listing (e.event (exec L)) = some (userId, .ok connections)) :
    connections = getAllProviderConnectionsByUser e.state.db userId := by
  obtain ⟨j, call, reply, w⟩ := e
  cases call with
  | getAllProviderConnectionsByUser u =>
    simp only [listing, Entry.event, Option.some.injEq, Prod.mk.injEq] at h
    obtain ⟨rfl, hanswer⟩ := h
    change (readStatement reply w.db (getAllProviderConnectionsByUser w.db u)).2 = _ at hanswer
    rw [readStatement] at hanswer
    split at hanswer
    · exact (Except.ok.inj hanswer).symm
    · cases hanswer
  | _ => cases h

/-- **A round reaches every connection.** One of the programs that the service is running is a round
of the midnight sync. Whatever the others do in between, and whatever fails, when the round is done
it has listed the connections of every user once, in order, as they were stored at that time, and
made one attempt at each of those that were connected, and at nothing else. -/
theorem runMidnightSync_attempts (L : Locale) {registered : String → Bool} {userIds : List Uuid}
    {p : Pool ServiceCall ServiceCall.Answer World (Except DbError ℕ)} {i : ℕ}
    (hround : p.threads[i]? = some (runMidnightSync registered (.ok userIds)))
    (ls : List (ℕ × Reply)) {result : Except DbError ℕ}
    (hdone : (ls.foldl (Recording.step (exec L)) (Recording.start p)).pool.result i =
      some result) :
    let log := (ls.foldl (Recording.step (exec L)) (Recording.start p)).log
    let listings := (servicePast L i log).filterMap listing
    listings.map Prod.fst = userIds ∧
      (servicePast L i log).filterMap attempt = listings.flatMap dueConnections ∧
      (∀ userId connections, (userId, .ok connections) ∈ listings → ∃ e ∈ log,
        connections = getAllProviderConnectionsByUser e.state.db userId) ∧
      ∃ total, result = .ok total ∧ total ≤ (listings.flatMap dueConnections).length := by
  intro log listings
  have hjustified := Recording.justified (exec L) (J := fun _ ↦ anyCall)
    (Q := fun j (result : Except DbError ℕ) past' ↦ j = i →
      ∃ found, Adds [] past' (found.flatMap dueConnections) found ∧
        found.map Prod.fst = userIds ∧
        ∃ total, result = .ok total ∧ total ≤ (found.flatMap dueConnections).length)
    (p := p) (fun j q hq ↦ ?_) ls
  · obtain ⟨found, hadds, husers, hresult⟩ := hjustified.result hdone rfl
    obtain rfl : found = listings := hadds.listings.symm
    refine ⟨husers, hadds.attempts, fun userId connections hmem ↦ ?_, hresult⟩
    obtain ⟨event, hevent, hlisting⟩ := List.mem_filterMap.1 hmem
    obtain ⟨e, he, -, rfl⟩ := (mem_past (exec L)).1 hevent
    exact ⟨e, he, eq_of_listing hlisting⟩
  · rcases eq_or_ne j i with rfl | hne
    · obtain rfl := Option.some.inj (hround.symm.trans hq)
      exact (ensures_runMidnightSync userIds).imp fun _ _ h _ ↦ h
    · exact (ensures_anyCall q).imp fun _ _ _ heq ↦ absurd heq hne

/-- The checking account without its credentials, and a round for its user. -/
def uncredentialedRound : Pool ServiceCall ServiceCall.Answer World (Except DbError ℕ) where
  state := ⟨{ connectedDatabase.toStore with plaidCredentials := [] }, 0, []⟩
  threads := [runMidnightSync (fun _ ↦ true) (.ok [7])]

/-- A round attempts a connection whose credentials are gone. -/
theorem runMidnightSync_uncredentialed :
    let log := ((List.replicate 4 (0, quietReply)).foldl (Recording.step (exec Locale.c))
      (Recording.start uncredentialedRound)).log
    (servicePast Locale.c 0 log).filterMap attempt = [(7, "item-1")] ∧
      (servicePast Locale.c 0 log).filterMap attempt =
        ((servicePast Locale.c 0 log).filterMap listing).flatMap dueConnections := by
  have hdone : ((List.replicate 4 (0, quietReply)).foldl (Recording.step (exec Locale.c))
      (Recording.start uncredentialedRound)).pool.result 0 = some (.ok 0) := rfl
  exact ⟨rfl, (runMidnightSync_attempts Locale.c rfl _ hdone).2.1⟩

end Sumurai
