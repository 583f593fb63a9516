import Sumurai.Connection.Health
import Sumurai.Frontend.ApiClient

/-!
# Issues of the accounts

The issues that `useAccountIssues` shows (`hooks/useAccountIssues.ts`), and when a Teller sync that
has been refused leads to a new login (`hooks/useTellerLinkFlow.ts`). Both are read off what the
server says about a connection.

A sync settles the issue of its connection and no other: there is none after a success, and after a
failure of the provider there is one, with its message (`issues_after_sync`). The login is offered
exactly where the sync has put the status `needs_reauth` on record (`reauth_iff_recorded`). What the
issue says of a login is found out again from the message, with other words, so it can differ.
-/

open Program

namespace Sumurai.Frontend

/-! ### Issues -/

/-- The status of an issue. -/
inductive IssueStatus where
  | needsReauth
  | error
deriving DecidableEq, Repr

/-- `AccountIssue`. A connection without an id is `unknown`, which is none here. -/
structure AccountIssue where
  id : Option Uuid
  institutionName : String
  status : IssueStatus
  errorMessage : String
  lastSyncAt : Option Timestamp
deriving DecidableEq, Repr

/-- The issue of a connection, if it has one. -/
def detectedIssue (conn : ProviderConnectionStatus) : Option AccountIssue :=
  let isError := conn.status = some "error" ∨ conn.status = some "needs_reauth" ∨
    conn.isConnected = false ∨ (conn.errorMessage.filter (· ≠ "")).isSome
  if isError then
    let status := if conn.status = some "needs_reauth" then .needsReauth else .error
    some
      { id := conn.connectionId
        institutionName := (conn.institutionName.filter (· ≠ "")).getD "Bank Connection"
        status := status
        errorMessage := (conn.errorMessage.filter (· ≠ "")).getD
          (if status = .needsReauth then "Requires re-authentication"
          else if !conn.isConnected then "Account disconnected"
          else "Connection issue")
        lastSyncAt := conn.lastSyncAt }
  else none

/-- `useAccountIssues`, on the connections of a response. -/
def detectedIssues (connections : List ProviderConnectionStatus) : List AccountIssue :=
  connections.filterMap detectedIssue

/-- The issues that the user of a connection is shown about its provider. -/
def shownIssues (connection : ProviderConnection) (db : Store) : List AccountIssue :=
  detectedIssues (loadConnectionStatuses db connection.userId
    (providerForConnection connection.itemId))

/-- The message of the provider, if it is what a sync has failed with. -/
def failureMessage (result : Except ConnectionSyncError SyncTransactionsResponse) : Option String :=
  (outcome result).bind Prod.snd

/-- The issue of a connection whose provider has failed. -/
def failureIssue (connection : ProviderConnection) (message : String) : AccountIssue where
  id := some connection.id
  institutionName := (connection.institutionName.filter (· ≠ "")).getD "Bank Connection"
  status := if connection.isConnected ∧ mentionsReauth message then .needsReauth else .error
  errorMessage :=
    if message ≠ "" then message
    else if connection.isConnected then "Connection issue" else "Account disconnected"
  lastSyncAt := connection.lastSyncAt

section Issues

variable {connection c r : ProviderConnection} {db : Database} {status : String}
  {err : Option String}

/-- The issue has the id of its connection. -/
theorem id_of_detectedIssue {issue : AccountIssue}
    (h : detectedIssue (connectionStatus c) = some issue) : issue.id = some c.id := by
  unfold detectedIssue at h
  dsimp only at h
  split at h
  · obtain rfl := Option.some.inj h
    rfl
  · cases h

/-- A connected connection is healthy after a success. -/
theorem detectedIssue_connected (hconnected : c.isConnected = true)
    (hstatus : c.status = "connected") (herr : c.lastSyncError = none) :
    detectedIssue (connectionStatus c) = none := by
  have hshown : shownStatus c = "connected" := by
    rw [shownStatus, hconnected, herr, hstatus]
    decide
  refine if_neg ?_
  simp only [connectionStatus, hshown, hconnected, herr]
  decide

/-- A connection with an error has the issue that goes with the error. -/
theorem detectedIssue_failed {message : String} (hc : SavedAs connection status (some message) c)
    (hid : c.id = connection.id) :
    detectedIssue (connectionStatus c) = some (failureIssue connection message) := by
  have hlast : c.lastSyncAt = connection.lastSyncAt := hc.lastSyncAt (by simp)
  have hshown : shownStatus c =
      if connection.isConnected ∧ mentionsReauth message then "needs_reauth" else "error" := by
    rw [shownStatus, hc.isConnected, hc.lastSyncError]
    cases connection.isConnected <;> cases hwords : mentionsReauth message <;> simp [hwords]
  have htext : (some message).filter (fun text ↦ decide (text ≠ "")) =
      if message = "" then none else some message := by
    by_cases hempty : message = "" <;> simp [Option.filter, hempty]
  unfold detectedIssue failureIssue connectionStatus
  simp only [hshown, hc.isConnected, hc.institutionName, hc.lastSyncError, hlast, hid, htext]
  by_cases hreauth : connection.isConnected ∧ mentionsReauth message
  · -- an empty message has none of the words
    have hnonempty : message ≠ "" := by
      rintro rfl
      exact absurd hreauth.2 (by decide)
    simp [hreauth, hnonempty]
  · by_cases hempty : message = ""
    · subst hempty
      have hwords : mentionsReauth "" = false := by decide
      cases hconnected : connection.isConnected <;> simp [hwords]
    · simp [hreauth, hempty]

/-- The issues after a save, as those of the connections before it. -/
theorem shownIssues_of_save {db' : Store}
    (hrows : db'.providerConnections = db.providerConnections.map (updateRow c)) :
    shownIssues connection db' = (connectionsOf db.toStore connection.userId
      (providerForConnection connection.itemId)).filterMap fun r ↦
        detectedIssue (connectionStatus (updateRow c r)) := by
  rw [shownIssues, detectedIssues, loadConnectionStatuses, connectionsOf_updateRow hrows,
    List.map_map, List.filterMap_map]
  rfl

theorem shownIssues_eq (store : Store) :
    shownIssues connection store = (connectionsOf store connection.userId
      (providerForConnection connection.itemId)).filterMap fun r ↦
        detectedIssue (connectionStatus r) := by
  rw [shownIssues, detectedIssues, loadConnectionStatuses, List.filterMap_map]
  rfl

/-- The issues on the status of the provider, where it is that of the connection. -/
theorem shownIssues_of_status (store : Store) (defaultProvider : String) :
    detectedIssues (getAuthenticatedProviderStatus store defaultProvider
      (some (providerForConnection connection.itemId)) connection.userId).connections =
      shownIssues connection store := by
  have hlower : String.ofList (toLowercase (providerForConnection connection.itemId)) =
      providerForConnection connection.itemId := by
    unfold providerForConnection
    split <;> decide
  rw [shownIssues, getAuthenticatedProviderStatus, Option.getD_some, hlower]

/-- The connection is one of those whose issues are shown, the only one with its id. -/
theorem filter_connectionsOf (hmem : connection ∈ db.providerConnections) :
    ∀ r ∈ connectionsOf db.toStore connection.userId (providerForConnection connection.itemId),
      r.id = connection.id → r = connection := fun _ hr hid ↦
  List.inj_on_of_nodup_map db.keyed.providerConnections_pkey (mem_connectionsOf.1 hr).1 hmem hid

/-- A save of the connection leaves the issues of the others. -/
theorem others_of_save {db' : Store} (hc : SavedAs connection status err c)
    (hmem : connection ∈ db.providerConnections)
    (hrows : db'.providerConnections = db.providerConnections.map (updateRow c)) :
    (shownIssues connection db').filter (·.id ≠ some connection.id) =
      (shownIssues connection db.toStore).filter (·.id ≠ some connection.id) := by
  rw [shownIssues_of_save hrows, shownIssues_eq, List.filter_filterMap, List.filter_filterMap]
  refine List.filterMap_congr fun r hr ↦ ?_
  by_cases hid : r.id = connection.id
  · have hnone : ∀ r' : ProviderConnection, r'.id = connection.id →
        (detectedIssue (connectionStatus r')).filter (·.id ≠ some connection.id) = none := by
      intro r' hid'
      rcases hissue : detectedIssue (connectionStatus r') with - | issue
      · rfl
      · exact if_neg (by simp [id_of_detectedIssue hissue, hid'])
    obtain rfl := filter_connectionsOf hmem r hr hid
    rw [hnone _ rfl, hnone _ (by rw [updateRow_self hc])]
  · rw [updateRow_of_ne hc hmem (mem_connectionsOf.1 hr).1 hid]

/-- The issues of the connection itself after a save. -/
theorem own_of_save {db' : Store} (hc : SavedAs connection status err c)
    (hmem : connection ∈ db.providerConnections)
    (hrows : db'.providerConnections = db.providerConnections.map (updateRow c))
    {issue : AccountIssue} (hid : issue.id = some connection.id) :
    issue ∈ shownIssues connection db' ↔
      detectedIssue (connectionStatus (updateRow c connection)) = some issue := by
  rw [shownIssues_of_save hrows, List.mem_filterMap]
  constructor
  · rintro ⟨r, hr, hissue⟩
    have hr' : r = connection := by
      by_contra hne
      have hother : r.id ≠ connection.id := fun h ↦ hne (filter_connectionsOf hmem r hr h)
      rw [updateRow_of_ne hc hmem (mem_connectionsOf.1 hr).1 hother] at hissue
      exact hother (Option.some.inj ((id_of_detectedIssue hissue).symm.trans hid))
    exact hr' ▸ hissue
  · exact fun h ↦ ⟨connection, mem_connectionsOf.2 ⟨hmem, rfl, rfl⟩, h⟩

end Issues

/-- **A sync settles the issue of its connection**, whoever asks for it and whatever it is answered,
and no other. If what it saves is not accepted, or it saves nothing, the issues are those before.
Otherwise there is none after a success, and exactly the one with the message after a failure of the
provider. -/
theorem issues_after_sync (L : Locale) (registered : String → Bool) (userId : Uuid) {db : Database}
    {connection : ProviderConnection} (hmem : connection ∈ db.providerConnections)
    (env : ℕ → Sumurai.Reply) :
    let run := (syncConnectionById registered userId connection.id).run (Sumurai.exec L) env
      ⟨db.toStore, 0, []⟩
    let before := shownIssues connection db.toStore
    let after := shownIssues connection run.1.db
    after.filter (·.id ≠ some connection.id) = before.filter (·.id ≠ some connection.id) ∧
      (run.1.calls.filterMap acceptedSave = [] → after = before) ∧
      (run.1.calls.filterMap acceptedSave ≠ [] → ∀ issue, issue.id = some connection.id →
        (∀ response, run.2.1 = .ok response → connection.isConnected = true → issue ∉ after) ∧
        ∀ message, failureMessage run.2.1 = some message →
          (issue ∈ after ↔ issue = failureIssue connection message)) := by
  intro run before after
  have htold : Told db.providerConnections connection (outcome run.2.1) run.1 :=
    syncConnectionById_told L registered userId hmem env
  have hsame (hrows : run.1.db.providerConnections = db.providerConnections) : after = before := by
    show shownIssues connection run.1.db = shownIssues connection db.toStore
    rw [shownIssues_eq, shownIssues_eq, connectionsOf, connectionsOf,
      getAllProviderConnectionsByUser, getAllProviderConnectionsByUser, hrows]
  rcases houtcome : outcome run.2.1 with - | ⟨status, err⟩
  · rw [houtcome] at htold
    obtain ⟨-, haccepted, hrows⟩ := htold
    exact ⟨by rw [hsame hrows], fun _ ↦ hsame hrows, fun hne ↦ absurd haccepted hne⟩
  · rw [houtcome] at htold
    obtain ⟨c, hc, -, ⟨haccepted, hrows⟩ | ⟨haccepted, hrows⟩⟩ := htold
    · exact ⟨by rw [hsame hrows], fun _ ↦ hsame hrows, fun hne ↦ absurd haccepted hne⟩
    · refine ⟨others_of_save hc hmem hrows, fun hnil ↦ ?_, fun _ issue hid ↦ ⟨?_, ?_⟩⟩
      · rw [haccepted] at hnil
        cases hnil
      · intro response hok hconnected hissue
        rw [hok] at houtcome
        obtain ⟨rfl, rfl⟩ := Prod.mk.inj (Option.some.inj houtcome)
        have hnone := (own_of_save hc hmem hrows hid).1 hissue
        have hrow := hc.updateRow
        rw [detectedIssue_connected (hrow.isConnected.trans hconnected) hrow.status
          hrow.lastSyncError] at hnone
        cases hnone
      · intro message hmessage
        rw [failureMessage, houtcome] at hmessage
        obtain rfl : err = some message := hmessage
        have hid' : (updateRow c connection).id = connection.id := by rw [updateRow_self hc]
        rw [own_of_save hc hmem hrows hid, detectedIssue_failed hc.updateRow hid',
          Option.some.injEq, eq_comm]

/-- The connected checking account as one of Teller. -/
def tellerConnection : ProviderConnection :=
  { checkingConnection with itemId := "teller_enr_1" }

/-- The database with the connection of Teller. -/
def tellerDatabase : Database where
  toStore := { connectedDatabase.toStore with
    plaidCredentials := [⟨6, some 7, "teller_enr_1", "access-1"⟩]
    providerConnections := [tellerConnection] }
  keyed := by decide
  referential := by decide

/-- Teller refuses. -/
def unhealthyReply : Sumurai.Reply :=
  { quietReply with accounts := .error "Enrollment is not healthy" }

/-- There is an issue with the message of a refusal, which has none of the words that ask for a
login. -/
theorem issues_after_sync_unhealthy :
    let run := (syncConnectionById (fun _ ↦ true) 7 5).run (Sumurai.exec Locale.c)
      (fun _ ↦ unhealthyReply) ⟨tellerDatabase.toStore, 0, []⟩
    ∀ issue : AccountIssue, issue.id = some 5 →
      (issue ∈ shownIssues tellerConnection run.1.db ↔
        issue = failureIssue tellerConnection "Enrollment is not healthy") := by
  have hmem : tellerConnection ∈ tellerDatabase.providerConnections := .head _
  obtain ⟨-, -, hown⟩ := issues_after_sync Locale.c (fun _ ↦ true) 7 hmem fun _ ↦ unhealthyReply
  intro run issue hid
  exact (hown (by decide) issue hid).2 "Enrollment is not healthy" rfl

/-! ### A new login -/

/-- The response that the client gets to an error of the server. -/
def errorResponse (failure : ApiErrorResponse) : Response where
  status := failure.status
  statusText := ""
  json := .ok (some
    { token := none, message := some failure.message, error := some failure.error, detail := none })

/-- `isTellerReauthRequired`. -/
def isTellerReauthRequired (error : Sumurai.Thrown) : Bool :=
  "requires MFA re-authentication".toList <:+: error.message.toList ∨
    "TELLER_REAUTH_REQUIRED".toList <:+: error.message.toList

/-- `syncOne` opens Teller Connect for the connection when this is what the sync has come to. -/
def reauthOffered (connection : ProviderConnection) :
    Except ConnectionSyncError SyncTransactionsResponse → Bool
  | .ok _ => false
  | .error e => isTellerReauthRequired (.api (createApiError (errorResponse
      (syncFailure connection e))))

/-- The message of the server is what the client reads. -/
theorem message_createApiError {failure : ApiErrorResponse} (h : failure.message ≠ "") :
    (createApiError (errorResponse failure)).message = failure.message := by
  unfold createApiError
  dsimp only [errorResponse]
  have hfirst : firstTruthy [some failure.message, some failure.error, none] =
      some failure.message := by
    simp [firstTruthy, Option.filter, h]
  split <;> simp only [hfirst, Option.getD_some]

/-- What the page does with an error is decided by the message of the server. -/
theorem reauthOffered_error {connection : ProviderConnection} {e : ConnectionSyncError}
    {message : String} (hmessage : (syncFailure connection e).message = message)
    (h : message.toList ≠ []) :
    reauthOffered connection (.error e) = isTellerReauthRequired (.error message) := by
  subst hmessage
  have hne : (syncFailure connection e).message ≠ "" := fun hempty ↦ h (by rw [hempty]; rfl)
  have hclient : (Sumurai.Thrown.api
      (createApiError (errorResponse (syncFailure connection e)))).message =
      (syncFailure connection e).message := message_createApiError hne
  show isTellerReauthRequired (.api (createApiError (errorResponse (syncFailure connection e)))) = _
  unfold isTellerReauthRequired
  rw [hclient]
  rfl

/-- What the status is made of is what the answer asks for. -/
theorem tellerErrorStatus_eq_reauth {message : String} :
    tellerErrorStatus message = "needs_reauth" ↔
      "mfa_required".toList <:+: message.toList ∨
        "Enrollment is not healthy".toList <:+: message.toList := by
  unfold tellerErrorStatus
  split
  · exact iff_of_true rfl ‹_›
  · exact iff_of_false (by decide) ‹_›

/-- The text about a Teller connection that needs a new login. -/
theorem reauthOffered_of_reauth {connection : ProviderConnection} {message : String}
    (h : tellerErrorStatus message = "needs_reauth") :
    reauthOffered connection (.error (.teller (.providerRequest message))) = true := by
  have htext : (syncFailure connection (.teller (.providerRequest message))).message =
      "Teller says " ++ connectionLabel connection ++ " requires MFA re-authentication. " ++
        "Reconnect it with Teller Connect, then sync again." :=
    congrArg ApiErrorResponse.message (if_pos (tellerErrorStatus_eq_reauth.1 h))
  have hsays : "Teller says ".toList ≠ [] := by decide
  have hrequires : " requires MFA re-authentication. ".toList =
      " ".toList ++ "requires MFA re-authentication".toList ++ ". ".toList := by decide
  rw [reauthOffered_error htext]
  · refine decide_eq_true (.inl ?_)
    simp only [Sumurai.Thrown.message, String.toList_append]
    rw [hrequires]
    exact ⟨"Teller says ".toList ++ (connectionLabel connection).toList ++ " ".toList,
      ". ".toList ++ "Reconnect it with Teller Connect, then sync again.".toList,
      by simp only [List.append_assoc]⟩
  · simp only [String.toList_append, ne_eq, List.append_eq_nil_iff, hsays, false_and,
      not_false_eq_true]

theorem not_reauthOffered_text {connection : ProviderConnection} {e : ConnectionSyncError}
    (text : String) (hmessage : (syncFailure connection e).message = text) (h : text.toList ≠ [])
    (hplain : isTellerReauthRequired (.error text) = false) :
    reauthOffered connection (.error e) = false :=
  (reauthOffered_error hmessage h).trans hplain

/-- The other texts are fixed, and ask for no login. -/
theorem not_reauthOffered {connection : ProviderConnection} {failure : TellerSyncError}
    (h : ∀ message, failure = .providerRequest message →
      tellerErrorStatus message ≠ "needs_reauth") :
    reauthOffered connection (.error (.teller failure)) = false := by
  cases failure with
  | credentialsMissing =>
    exact not_reauthOffered_text "No Teller credentials found for this connection" rfl (by decide)
      (by decide)
  | credentialAccess e =>
    exact not_reauthOffered_text "Failed to load Teller credentials" rfl (by decide)
      (by decide)
  | providerInitialization message =>
    exact not_reauthOffered_text "Failed to initialize Teller provider" rfl (by decide)
      (by decide)
  | providerRequest message =>
    have htext : (syncFailure connection (.teller (.providerRequest message))).message =
        if "too_many_requests".toList <:+: message.toList then
          "Teller rate limited this sync. Wait a bit, then try again."
        else "Teller failed to sync this connection" := by
      have hno := tellerErrorStatus_eq_reauth.not.1 (h message rfl)
      refine (congrArg ApiErrorResponse.message (if_neg hno)).trans ?_
      split <;> rfl
    by_cases hlimited : "too_many_requests".toList <:+: message.toList
    · rw [if_pos hlimited] at htext
      exact not_reauthOffered_text _ htext (by decide) (by decide)
    · rw [if_neg hlimited] at htext
      exact not_reauthOffered_text _ htext (by decide) (by decide)
  | accountLookup e =>
    exact not_reauthOffered_text "Failed to load Teller accounts" rfl (by decide)
      (by decide)
  | connectionPersistence e =>
    exact not_reauthOffered_text "Failed to update Teller connection" rfl (by decide)
      (by decide)

/-- Of the failures of a Teller sync, the page offers a new login for those that the server puts
down as such. -/
theorem reauthOffered_teller {connection : ProviderConnection} {failure : TellerSyncError} :
    reauthOffered connection (.error (.teller failure)) = true ↔
      ∃ message, failure = .providerRequest message ∧
        tellerErrorStatus message = "needs_reauth" := by
  constructor
  · intro hoffered
    by_contra hnone
    rw [not_reauthOffered fun message hfailure hstatus ↦
      hnone ⟨message, hfailure, hstatus⟩] at hoffered
    cases hoffered
  · rintro ⟨message, rfl, hstatus⟩
    exact reauthOffered_of_reauth hstatus

/-- **A new login is offered exactly when it is on record.** When `syncOne` has a Teller connection
synced, the page opens Teller Connect for it if and only if the sync has saved the connection with
the status `needs_reauth`, whether or not the save was accepted. -/
theorem reauth_iff_recorded (L : Locale) (registered : String → Bool) (userId : Uuid)
    {db : Database} {connection : ProviderConnection} (hmem : connection ∈ db.providerConnections)
    (hteller : providerForConnection connection.itemId = "teller") (env : ℕ → Sumurai.Reply) :
    let run := (syncConnectionById registered userId connection.id).run (Sumurai.exec L) env
      ⟨db.toStore, 0, []⟩
    reauthOffered connection run.2.1 = true ↔
      ∃ c ∈ savedConnections run.1.calls, c.status = "needs_reauth" := by
  intro run
  have htold : Told db.providerConnections connection (outcome run.2.1) run.1 :=
    syncConnectionById_told L registered userId hmem env
  have hkind : ∀ failure, run.2.1 ≠ .error (.provider failure) :=
    syncConnectionById_teller L registered userId hmem hteller env
  -- what is saved is read off the outcome
  have hsaved : (∃ c ∈ savedConnections run.1.calls, c.status = "needs_reauth") ↔
      ∃ err, outcome run.2.1 = some ("needs_reauth", err) := by
    rcases houtcome : outcome run.2.1 with - | ⟨status, err⟩
    · rw [houtcome] at htold
      simp [htold.1]
    · rw [houtcome] at htold
      obtain ⟨c, hc, hcalls, -⟩ := htold
      simp [hcalls, hc.status]
  rw [hsaved]
  rcases hresult : run.2.1 with e | response
  · cases e with
    | connectionNotFound =>
      rw [not_reauthOffered_text "Connection not found" rfl (by decide) (by decide)]
      simp [outcome]
    | connectionLookup e =>
      rw [not_reauthOffered_text "Failed to load connection" rfl (by decide) (by decide)]
      simp [outcome]
    | teller failure =>
      rw [reauthOffered_teller]
      cases failure <;> simp [outcome]
    | provider failure => exact absurd hresult (hkind failure)
  · simp [reauthOffered, outcome]

/-- The page opens Teller Connect for a connection whose issue asks for no login. -/
theorem reauth_iff_recorded_unhealthy :
    let run := (syncConnectionById (fun _ ↦ true) 7 5).run (Sumurai.exec Locale.c)
      (fun _ ↦ unhealthyReply) ⟨tellerDatabase.toStore, 0, []⟩
    reauthOffered tellerConnection run.2.1 = true ∧
      ∃ c ∈ savedConnections run.1.calls, c.status = "needs_reauth" := by
  have hmem : tellerConnection ∈ tellerDatabase.providerConnections := .head _
  have hoffered : reauthOffered tellerConnection
      ((syncConnectionById (fun _ ↦ true) 7 5).run (Sumurai.exec Locale.c)
        (fun _ ↦ unhealthyReply) ⟨tellerDatabase.toStore, 0, []⟩).2.1 = true :=
    reauthOffered_of_reauth (by decide)
  exact ⟨hoffered, (reauth_iff_recorded Locale.c (fun _ ↦ true) 7 hmem (by decide)
    fun _ ↦ unhealthyReply).1 hoffered⟩

end Sumurai.Frontend
