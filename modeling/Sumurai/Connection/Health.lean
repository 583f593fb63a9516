import Sumurai.Connection.Identity
import Sumurai.Connection.LastSync
import Sumurai.Connection.Records

/-!
# What is said about a connection

The status of a connection as `load_connection_statuses` (`main.rs`) puts it, the answer of
`sync_authenticated_provider_transactions` to a sync that has failed, and what a sync leaves on the
record of its connection for the first of the two to read.

A sync saves its connection at most once. What it saves goes with its result (`outcome`): after a
success the connection is healthy, after a failure of the provider it has the message and a status
that is made of it; after any other failure nothing is saved. `ensures_syncConnection_told` follows
this through both syncs, and `connectionsOf_updateRow` says what the save makes of the connections
of the user.
-/

open Program

namespace Sumurai

/-! ### The status of a connection -/

/-- `ProviderConnectionStatus`. -/
structure ProviderConnectionStatus where
  isConnected : Bool
  lastSyncAt : Option Timestamp
  institutionName : Option String
  connectionId : Option Uuid
  transactionCount : ℤ
  accountCount : ℤ
  syncInProgress : Bool
  errorMessage : Option String
  status : Option String
deriving DecidableEq, Repr

/-- What in an error means that the user has to log in again. -/
def reauthWords : List String :=
  ["mfa", "reauth", "re-authentication", "login_required"]

/-- An error has one of the words, in whatever case. -/
def mentionsReauth (err : String) : Bool :=
  reauthWords.any fun word ↦ word.toList <:+: toLowercase err

/-- The status that is shown. A stored one is read only where there is no error. -/
def shownStatus (c : ProviderConnection) : String :=
  if !c.isConnected then "error"
  else
    match c.lastSyncError with
    | some err => if mentionsReauth err then "needs_reauth" else "error"
    | none => if c.status = "" then "connected" else c.status

/-- The status of one connection. -/
def connectionStatus (c : ProviderConnection) : ProviderConnectionStatus where
  isConnected := c.isConnected
  lastSyncAt := c.lastSyncAt
  institutionName := c.institutionName
  connectionId := some c.id
  transactionCount := c.transactionCount
  accountCount := c.accountCount
  syncInProgress := false
  errorMessage := c.lastSyncError
  status := some (shownStatus c)

/-- The connections of a user with a provider, the latest first. -/
def connectionsOf (db : Store) (userId : Uuid) (provider : String) : List ProviderConnection :=
  (getAllProviderConnectionsByUser db userId).filter fun c ↦
    providerForConnection c.itemId = provider

/-- `load_connection_statuses`. -/
def loadConnectionStatuses (db : Store) (userId : Uuid) (provider : String) :
    List ProviderConnectionStatus :=
  (connectionsOf db userId provider).map connectionStatus

/-- `ProviderStatusResponse`. -/
structure ProviderStatusResponse where
  provider : String
  connections : List ProviderConnectionStatus
deriving DecidableEq, Repr

/-- `get_authenticated_provider_status`, on a database that answers. The provider is that of the
user, if there is one. -/
def getAuthenticatedProviderStatus (db : Store) (defaultProvider : String)
    (userProvider : Option String) (userId : Uuid) : ProviderStatusResponse :=
  let provider := String.ofList (toLowercase (userProvider.getD defaultProvider))
  { provider := provider, connections := loadConnectionStatuses db userId provider }

/-! ### The answer to a sync -/

/-- `ApiErrorResponse`, with the status it is sent with. The code and the details are left out. -/
structure ApiErrorResponse where
  status : ℕ
  error : String
  message : String
deriving DecidableEq, Repr

/-- `ApiErrorResponse::internal_server_error`. -/
def ApiErrorResponse.internalServerError (message : String) : ApiErrorResponse where
  status := 500
  error := "INTERNAL_SERVER_ERROR"
  message := message

/-- `connection_label`. -/
def connectionLabel (c : ProviderConnection) : String :=
  (c.institutionName.filter fun name ↦ trim name ≠ []).getD "this Teller connection"

/-- The answer to a Teller sync that has failed. -/
def tellerSyncFailure (c : ProviderConnection) : TellerSyncError → ApiErrorResponse
  | .credentialsMissing =>
    ⟨404, "NOT_FOUND", "No Teller credentials found for this connection"⟩
  | .credentialAccess _ => .internalServerError "Failed to load Teller credentials"
  | .providerInitialization _ => .internalServerError "Failed to initialize Teller provider"
  | .providerRequest message =>
    if "mfa_required".toList <:+: message.toList ∨
        "Enrollment is not healthy".toList <:+: message.toList then
      ⟨409, "TELLER_REAUTH_REQUIRED",
        "Teller says " ++ connectionLabel c ++ " requires MFA re-authentication. " ++
          "Reconnect it with Teller Connect, then sync again."⟩
    else if "too_many_requests".toList <:+: message.toList then
      ⟨429, "TELLER_RATE_LIMITED", "Teller rate limited this sync. Wait a bit, then try again."⟩
    else ⟨502, "PROVIDER_REQUEST_FAILED", "Teller failed to sync this connection"⟩
  | .accountLookup _ => .internalServerError "Failed to load Teller accounts"
  | .connectionPersistence _ => .internalServerError "Failed to update Teller connection"

/-- The answer to another sync that has failed. -/
def providerSyncFailure : ProviderSyncError → ApiErrorResponse
  | .credentialsMissing =>
    ⟨404, "NOT_FOUND", "No provider credentials found for this connection"⟩
  | .credentialAccess _ => .internalServerError "Failed to access provider credentials"
  | .providerUnavailable _ =>
    ⟨400, "BAD_REQUEST", "Provider is unavailable for this connection"⟩
  | .providerRequest _ =>
    ⟨502, "PROVIDER_REQUEST_FAILED", "Provider failed to sync this connection"⟩
  | .accountLookup _ => .internalServerError "Failed to load accounts during sync"
  | .syncFailure _ => .internalServerError "Sync service failed"

/-- The answer to a sync of a connection that has failed, or that did not find it. -/
def syncFailure (c : ProviderConnection) : ConnectionSyncError → ApiErrorResponse
  | .connectionNotFound => ⟨404, "NOT_FOUND", "Connection not found"⟩
  | .connectionLookup _ => .internalServerError "Failed to load connection"
  | .teller e => tellerSyncFailure c e
  | .provider e => providerSyncFailure e

/-! ### What a sync saves -/

/-- The status and the error that a sync saves with its result, if it saves its connection. -/
def outcome : Except ConnectionSyncError SyncTransactionsResponse → Option (String × Option String)
  | .ok _ => some ("connected", none)
  | .error (.teller (.connectionPersistence _)) => some ("connected", none)
  | .error (.teller (.providerRequest message)) => some (tellerErrorStatus message, some message)
  | .error (.provider (.providerRequest message)) =>
    some (providerErrorStatus message, some message)
  | .error (.provider (.syncFailure message)) => some (providerErrorStatus message, some message)
  | .error _ => none

/-- The connection of a save that the database has accepted. -/
def acceptedSave : CallMade → Option ProviderConnection
  | ⟨.saveProviderConnection c, _, .ok ()⟩ => some c
  | _ => none

/-- A row after a connection is saved. -/
def updateRow (c r : ProviderConnection) : ProviderConnection :=
  if r.itemId = c.itemId then { c with id := r.id, userId := r.userId, createdAt := r.createdAt }
  else r

/-- A connection as a sync saves it: of what is shown of it, the status, the error and, if there is
none, the last sync may be other than they were. -/
structure SavedAs (connection : ProviderConnection) (status : String) (err : Option String)
    (c : ProviderConnection) : Prop where
  itemId : c.itemId = connection.itemId
  isConnected : c.isConnected = connection.isConnected
  institutionName : c.institutionName = connection.institutionName
  status : c.status = status
  lastSyncError : c.lastSyncError = err
  lastSyncAt : err ≠ none → c.lastSyncAt = connection.lastSyncAt

/-- What a sync leaves whose outcome it is. -/
def Told (rows : List ProviderConnection) (connection : ProviderConnection)
    (outcome : Option (String × Option String)) (w : World) : Prop :=
  match outcome with
  | none => savedConnections w.calls = [] ∧ w.calls.filterMap acceptedSave = [] ∧
    w.db.providerConnections = rows
  | some (status, err) => ∃ c, SavedAs connection status err c ∧ savedConnections w.calls = [c] ∧
    ((w.calls.filterMap acceptedSave = [] ∧ w.db.providerConnections = rows) ∨
      w.calls.filterMap acceptedSave = [c] ∧ w.db.providerConnections = rows.map (updateRow c))

section Told

variable {L : Locale} {rows : List ProviderConnection} {connection : ProviderConnection}
  {registered : String → Bool} {userId : Uuid} {w : World}

/-- A program that is alone, in any environment. -/
def anyhow (L : Locale) : Setting ServiceCall ServiceCall.Answer World Reply :=
  Setting.alone (exec L) fun _ _ ↦ True

/-- Nothing has been saved yet. -/
abbrev Untold (rows : List ProviderConnection) (connection : ProviderConnection) (w : World) :
    Prop :=
  Told rows connection none w

/-- A call that saves or deletes no connection. -/
def ServiceCall.untelling : ServiceCall → Bool
  | .saveProviderConnection _ => false
  | .deleteProviderConnection _ _ => false
  | _ => true

theorem Untold.exec {call : ServiceCall} {e : Reply} (h : Untold rows connection w)
    (hcall : call.untelling = true) : Untold rows connection (exec L call e w).1 := by
  obtain ⟨hsaved, haccepted, hrows⟩ := h
  refine ⟨?_, ?_, ?_⟩
  · rw [savedConnections_exec fun c heq ↦ by rw [heq] at hcall; cases hcall]
    exact hsaved
  · rw [Sumurai.exec, List.filterMap_append, haccepted]
    cases call <;> first | rfl | cases hcall
  · have hkeeps : call.keepsConnections = true := by
      cases call <;> first | rfl | cases hcall
    exact (providerConnections_answer hkeeps).trans hrows

theorem ensures_untelling {call : ServiceCall} {Q : call.Answer → World → Prop}
    (h : Untold rows connection w) (hcall : call.untelling = true)
    (hQ : ∀ a w', Untold rows connection w' → Q a w') : (perform call).Ensures (anyhow L) Q w :=
  ensures_ask_alone.2 fun _ _ ↦ hQ _ _ (h.exec hcall)

theorem ensures_of_untelling {α : Type} {p : ServiceProgram α}
    (hp : p.Calls fun call ↦ call.untelling = true) (h : Untold rows connection w) :
    p.Ensures (anyhow L) (fun _ w' ↦ Untold rows connection w') w := by
  have hexec : ∀ (w : World) (call : ServiceCall) (e : Reply), Untold rows connection w →
      call.untelling = true → True → Untold rows connection (exec L call e w).1 :=
    fun _ _ _ hw hcall _ ↦ hw.exec hcall
  exact hp.ensures_alone hexec h

/-- The save of a connection that has a row. -/
theorem ensures_save_told {c : ProviderConnection} {status : String} {err : Option String}
    (hrow : connection ∈ rows) (h : Untold rows connection w)
    (hc : SavedAs connection status err c) :
    (perform (.saveProviderConnection c)).Ensures (anyhow L)
      (fun _ w' ↦ Told rows connection (some (status, err)) w') w := by
  refine ensures_ask_alone.2 fun e _ ↦ ?_
  obtain ⟨hsaved, haccepted, hrows⟩ := h
  refine ⟨c, hc, ?_, ?_⟩
  · rw [savedConnections_exec_save, hsaved, List.nil_append]
  · have hany : (w.db.providerConnections.any fun r ↦ r.itemId = c.itemId) = true := by
      rw [hrows]
      exact List.any_eq_true.2 ⟨connection, hrow, decide_eq_true hc.itemId.symm⟩
    have hsave : saveProviderConnection w.db c =
        .ok { w.db with providerConnections := w.db.providerConnections.map (updateRow c) } :=
      if_pos hany
    rcases unitStatement_cases e w.db (saveProviderConnection w.db c) with
      ⟨err', hanswer⟩ | ⟨db', hok, hanswer⟩
    · rw [exec_of_answer (show answer L e w.db (.saveProviderConnection c) = _ from hanswer)]
      refine .inl ⟨?_, hrows⟩
      rw [List.filterMap_append, haccepted]
      rfl
    · obtain rfl := Except.ok.inj (hsave.symm.trans hok)
      rw [exec_of_answer (show answer L e w.db (.saveProviderConnection c) = _ from hanswer)]
      refine .inr ⟨?_, congrArg (List.map (updateRow c)) hrows⟩
      rw [List.filterMap_append, haccepted]
      rfl

/-- Recording an error saves the connection as it is, with the error. -/
theorem ensures_recordConnectionError_told {message status : String} (hrow : connection ∈ rows)
    (h : Untold rows connection w) :
    (recordConnectionError connection message status).Ensures (anyhow L)
      (fun _ w' ↦ Told rows connection (some (status, some message)) w') w :=
  ensures_bind.2 (ensures_save_told hrow h ⟨rfl, rfl, rfl, rfl, rfl, fun _ ↦ rfl⟩)

/-- The save at the end of a sync. -/
theorem savedAs_syncedConnection {syncTimestamp updatedAt : Timestamp}
    {transactionCount accountCount : ℤ} :
    SavedAs connection "connected" none
      (syncedConnection connection syncTimestamp updatedAt transactionCount accountCount) :=
  ⟨rfl, rfl, rfl, rfl, rfl, fun h ↦ absurd rfl h⟩

/-! ### The two syncs -/

theorem ensures_finishProviderSync_told {syncTimestamp : Timestamp}
    {window : NaiveDate × NaiveDate} {accountCount : ℤ} {transactions : List Transaction}
    (hrow : connection ∈ rows) (h : Untold rows connection w) :
    (finishProviderSync userId connection syncTimestamp window accountCount transactions).Ensures
      (anyhow L) (fun _ w' ↦ Told rows connection (some ("connected", none)) w') w := by
  refine ensures_bind.2 (ensures_untelling h rfl fun _ w₁ h₁ ↦ ?_)
  refine ensures_bind.2
    ((ensures_of_untelling (calls_totalTransactions rfl) h₁).imp fun _ w₂ h₂ ↦ ?_)
  refine ensures_bind.2 (ensures_untelling h₂ rfl fun _ w₃ h₃ ↦ ?_)
  exact ensures_bind.2 (ensures_save_told hrow h₃ savedAs_syncedConnection)

theorem ensures_syncProviderTransactions_told {credentials : ProviderCredentials}
    {syncTimestamp : Timestamp} {window : NaiveDate × NaiveDate} (hrow : connection ∈ rows)
    (h : Untold rows connection w) :
    (syncProviderTransactions registered userId credentials connection syncTimestamp window).Ensures
      (anyhow L) (fun result ↦ Told rows connection (outcome (result.mapError .provider))) w := by
  have hfetch : ∀ accounts, (syncBankConnectionTransactions registered credentials connection
      accounts).Calls fun call ↦ call.untelling = true := by
    intro accounts
    refine (calls_perform (P := fun call ↦ call.untelling = true) rfl).bind fun now ↦ ?_
    dsimp only
    split
    · refine (calls_perform (P := fun call ↦ call.untelling = true) rfl).bind fun answer ↦ ?_
      split <;> exact calls_pure
    · exact calls_pure
  refine ensures_bind.2 (ensures_untelling h rfl fun answer w₁ h₁ ↦ ?_)
  split
  · exact h₁
  · refine ensures_bind.2 ((ensures_of_untelling (hfetch _) h₁).imp fun result w₂ h₂ ↦ ?_)
    split
    · exact ensures_bind.2 (ensures_recordConnectionError_told hrow h₂)
    · refine ensures_bind.2 ((ensures_of_untelling
        (calls_persistTransactions (fun _ ↦ rfl) _) h₂).imp fun _ w₃ h₃ ↦ ?_)
      exact ensures_bind.2 (ensures_finishProviderSync_told hrow h₃)

theorem ensures_syncProviderConnection_told {provider : String} (hrow : connection ∈ rows)
    (h : Untold rows connection w) :
    (syncProviderConnection registered provider userId connection).Ensures (anyhow L)
      (fun result ↦ Told rows connection (outcome (result.mapError .provider))) w := by
  refine ensures_bind.2 (ensures_untelling h rfl fun _ w₁ h₁ ↦ ?_)
  refine ensures_bind.2 (ensures_untelling h₁ rfl fun _ w₂ h₂ ↦ ?_)
  refine ensures_bind.2 (ensures_untelling h₂ rfl fun answer w₃ h₃ ↦ ?_)
  split
  · exact h₃
  · exact h₃
  · split
    · refine ensures_bind.2 (ensures_untelling h₃ rfl fun answer w₄ h₄ ↦ ?_)
      split
      · exact ensures_bind.2 (ensures_recordConnectionError_told hrow h₄)
      · refine ensures_bind.2 ((ensures_of_untelling (calls_persistAccounts (fun _ ↦ rfl) _)
          h₄).imp fun _ w₅ h₅ ↦ ?_)
        exact ensures_syncProviderTransactions_told hrow h₅
    · exact h₃

theorem ensures_finishTellerSync_told {syncTimestamp : Timestamp}
    {window : NaiveDate × NaiveDate} {accountCount : ℤ} {transactions : List Transaction}
    (hrow : connection ∈ rows) (h : Untold rows connection w) :
    (finishTellerSync userId connection syncTimestamp window accountCount transactions).Ensures
      (anyhow L) (fun result ↦ Told rows connection (outcome (result.mapError .teller))) w := by
  refine ensures_bind.2 (ensures_untelling h rfl fun _ w₁ h₁ ↦ ?_)
  refine ensures_bind.2 (ensures_untelling h₁ rfl fun _ w₂ h₂ ↦ ?_)
  refine ensures_bind.2
    ((ensures_of_untelling (calls_totalTransactions rfl) h₂).imp fun _ w₃ h₃ ↦ ?_)
  refine ensures_bind.2 (ensures_untelling h₃ rfl fun _ w₄ h₄ ↦ ?_)
  refine ensures_bind.2 ((ensures_save_told hrow h₄ savedAs_syncedConnection).imp
    fun answer w₅ h₅ ↦ ?_)
  split <;> exact h₅

theorem ensures_syncTellerTransactions_told {credentials : ProviderCredentials}
    {syncTimestamp : Timestamp} {window : NaiveDate × NaiveDate} (hrow : connection ∈ rows)
    (h : Untold rows connection w) :
    (syncTellerTransactions userId credentials connection syncTimestamp window).Ensures
      (anyhow L) (fun result ↦ Told rows connection (outcome (result.mapError .teller))) w := by
  refine ensures_bind.2 (ensures_untelling h rfl fun answer w₁ h₁ ↦ ?_)
  split
  · exact h₁
  · refine ensures_bind.2 (ensures_untelling h₁ rfl fun answer w₂ h₂ ↦ ?_)
    split
    · exact ensures_bind.2 (ensures_recordConnectionError_told hrow h₂)
    · refine ensures_bind.2 ((ensures_of_untelling
        (calls_persistTellerTransactions (fun _ ↦ rfl) _ _) h₂).imp fun _ w₃ h₃ ↦ ?_)
      exact ensures_finishTellerSync_told hrow h₃

theorem ensures_syncTellerConnection_told (hrow : connection ∈ rows)
    (h : Untold rows connection w) :
    (syncTellerConnection registered userId connection).Ensures (anyhow L)
      (fun result ↦ Told rows connection (outcome (result.mapError .teller))) w := by
  refine ensures_bind.2 (ensures_untelling h rfl fun _ w₁ h₁ ↦ ?_)
  refine ensures_bind.2 (ensures_untelling h₁ rfl fun _ w₂ h₂ ↦ ?_)
  refine ensures_bind.2 (ensures_untelling h₂ rfl fun answer w₃ h₃ ↦ ?_)
  split
  · exact h₃
  · exact h₃
  · split
    · refine ensures_bind.2 (ensures_untelling h₃ rfl fun answer w₄ h₄ ↦ ?_)
      split
      · exact ensures_bind.2 (ensures_recordConnectionError_told hrow h₄)
      · refine ensures_bind.2 ((ensures_of_untelling (calls_persistAccounts (fun _ ↦ rfl) _)
          h₄).imp fun _ w₅ h₅ ↦ ?_)
        refine ensures_bind.2 (ensures_untelling h₅ rfl fun _ w₆ h₆ ↦ ?_)
        exact ensures_syncTellerTransactions_told hrow h₆
    · exact h₃

/-- **What a sync leaves**, of either kind. -/
theorem ensures_syncConnection_told (hrow : connection ∈ rows) (h : Untold rows connection w) :
    (syncConnection registered userId connection).Ensures (anyhow L)
      (fun result ↦ Told rows connection (outcome result)) w := by
  rw [syncConnection]
  split
  · refine ensures_bind.2 ((ensures_syncTellerConnection_told hrow h).imp
      fun result w' htold ↦ ?_)
    cases result <;> exact htold
  · refine ensures_bind.2 ((ensures_syncProviderConnection_told hrow h).imp
      fun result w' htold ↦ ?_)
    cases result <;> exact htold

/-- A sync by an id is a sync of the connection that has it, unless the lookup fails. -/
theorem ensures_syncConnectionById_of_mem {db : Database}
    (hmem : connection ∈ db.providerConnections)
    {Q : Except ConnectionSyncError SyncTransactionsResponse → World → Prop}
    (hdown : ∀ e, Q (.error (.connectionLookup .unavailable))
      (exec L (.getProviderConnectionById connection.id) e ⟨db.toStore, 0, []⟩).1)
    (hsync : ∀ e, (syncConnection registered userId connection).Ensures (anyhow L) Q
      (exec L (.getProviderConnectionById connection.id) e ⟨db.toStore, 0, []⟩).1) :
    (syncConnectionById registered userId connection.id).Ensures (anyhow L) Q
      ⟨db.toStore, 0, []⟩ := by
  refine ensures_bind.2 (ensures_ask_alone.2 fun e _ ↦ ?_)
  have hload : getProviderConnectionById db.toStore connection.id = some connection := by
    obtain ⟨r, hr, hid, -⟩ := (stored_of_mem hmem).load
    rw [hr, List.inj_on_of_nodup_map db.keyed.providerConnections_pkey
      (List.mem_of_find?_eq_some hr) hmem hid]
  have hanswer : (exec L (.getProviderConnectionById connection.id) e ⟨db.toStore, 0, []⟩).2 =
      if e.databaseUp then .ok (some connection) else .error .unavailable := by
    show (readStatement e db.toStore (getProviderConnectionById db.toStore connection.id)).2 = _
    rw [hload, readStatement]
    split <;> rfl
  rw [hanswer]
  by_cases hup : e.databaseUp = true
  · rw [if_pos hup]
    exact hsync e
  · rw [if_neg hup]
    exact hdown e

/-- A sync of a connection of the database by its id. -/
theorem syncConnectionById_told (L : Locale) (registered : String → Bool) (userId : Uuid)
    {db : Database} (hmem : connection ∈ db.providerConnections) (env : ℕ → Reply) :
    let run := (syncConnectionById registered userId connection.id).run (exec L) env
      ⟨db.toStore, 0, []⟩
    Told db.providerConnections connection (outcome run.2.1) run.1 := by
  have hstart : Untold db.providerConnections connection ⟨db.toStore, 0, []⟩ := ⟨rfl, rfl, rfl⟩
  exact run_of_ensures_always (Q := fun result ↦ Told db.providerConnections connection
    (outcome result)) (ensures_syncConnectionById_of_mem hmem (fun _ ↦ hstart.exec rfl)
      fun _ ↦ ensures_syncConnection_told hmem (hstart.exec rfl))

/-- A sync of a Teller connection does not fail as those of the other providers do. -/
theorem syncConnectionById_teller (L : Locale) (registered : String → Bool) (userId : Uuid)
    {db : Database} (hmem : connection ∈ db.providerConnections)
    (hteller : providerForConnection connection.itemId = "teller") (env : ℕ → Reply)
    (failure : ProviderSyncError) :
    ((syncConnectionById registered userId connection.id).run (exec L) env
      ⟨db.toStore, 0, []⟩).2.1 ≠ .error (.provider failure) := by
  refine run_of_ensures_always (Q := fun result _ ↦ result ≠ .error (.provider failure))
    (ensures_syncConnectionById_of_mem hmem (fun _ ↦ by simp) fun _ ↦ ?_)
  rw [syncConnection, if_pos hteller]
  refine ensures_bind.2 ((ensures_alone_trivial _).imp fun result _ _ ↦ ?_)
  cases result <;> simp

end Told

/-! ### The connections of the user -/

section Rows

variable {connection c r : ProviderConnection} {db : Database} {status : String}
  {err : Option String}

/-- The row of the connection after it is saved. -/
theorem updateRow_self (hc : SavedAs connection status err c) :
    updateRow c connection =
      { c with
        id := connection.id
        userId := connection.userId
        createdAt := connection.createdAt } :=
  if_pos hc.itemId.symm

theorem SavedAs.updateRow (hc : SavedAs connection status err c) :
    SavedAs connection status err (updateRow c connection) := by
  rw [updateRow_self hc]
  exact ⟨hc.itemId, hc.isConnected, hc.institutionName, hc.status, hc.lastSyncError,
    hc.lastSyncAt⟩

/-- The other rows are left alone. -/
theorem updateRow_of_ne (hc : SavedAs connection status err c)
    (hmem : connection ∈ db.providerConnections) (hr : r ∈ db.providerConnections)
    (hne : r.id ≠ connection.id) : updateRow c r = r := by
  refine if_neg fun hitem ↦ hne ?_
  rw [List.inj_on_of_nodup_map db.keyed.providerConnections_itemId_key hr hmem
    (hitem.trans hc.itemId)]

theorem mem_connectionsOf {store : Store} {owner : Uuid} {provider : String} :
    r ∈ connectionsOf store owner provider ↔ r ∈ store.providerConnections ∧ r.userId = owner ∧
      providerForConnection r.itemId = provider := by
  rw [connectionsOf, getAllProviderConnectionsByUser, List.mem_filter, List.mem_insertionSort,
    List.mem_filter, decide_eq_true_iff, decide_eq_true_iff, and_assoc]

end Rows

/-- The connections of a user after one of the database is saved: the same ones in the same order,
but for the row of that one. -/
theorem connectionsOf_updateRow {db : Database} {db' : Store} {c : ProviderConnection}
    (hrows : db'.providerConnections = db.providerConnections.map (updateRow c)) (owner : Uuid)
    (provider : String) :
    connectionsOf db' owner provider =
      (connectionsOf db.toStore owner provider).map (updateRow c) := by
  have huser (r : ProviderConnection) : (updateRow c r).userId = r.userId := by
    unfold updateRow
    split <;> rfl
  have hitem (r : ProviderConnection) : (updateRow c r).itemId = r.itemId := by
    unfold updateRow
    split
    · rename_i heq
      exact heq.symm
    · rfl
  have hcreated (r : ProviderConnection) : (updateRow c r).createdAt = r.createdAt := by
    unfold updateRow
    split <;> rfl
  have hprovider : ∀ r : ProviderConnection,
      decide (providerForConnection (updateRow c r).itemId = provider) =
        decide (providerForConnection r.itemId = provider) := fun r ↦ by rw [hitem]
  have howner : ∀ r : ProviderConnection,
      decide ((updateRow c r).userId = owner) = decide (r.userId = owner) := fun r ↦ by rw [huser]
  unfold connectionsOf getAllProviderConnectionsByUser
  rw [hrows, List.filter_map,
    ← List.map_insertionSort (r := OrderBy.desc fun c : ProviderConnection ↦
      OrderBy.nullable c.createdAt), List.filter_map]
  · simp only [Function.comp_def, hprovider, howner]
  · intro a _ b _
    simp only [OrderBy.desc, hcreated]

end Sumurai
