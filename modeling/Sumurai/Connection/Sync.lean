import Sumurai.Connection.Calls
import Sumurai.Connection.SyncWindow

/-!
# Syncing a connection

`sync_provider_connection` and `sync_teller_connection` of `connection_service.rs`, and their
callers in `main.rs`: the sync of one connection at a user's request, and the background sync of all
the connections of a user.

Both syncs have the same shape. They take the time and the window, load the credentials, fetch the
accounts and persist them one by one, read back the accounts of the user, fetch the transactions of
the window and persist them one by one, clean up duplicates, and save the connection with the time
taken at the start as its new `last_sync_at`. A failure to persist a row is logged and passed over;
a failure of the provider is recorded on the connection and ends the sync. They differ in the
clean-up, in which accounts transactions are mapped to, and in whether a failure to save the
connection fails the sync.

The cache writes, which only log their failures, are not calls of the programs.
-/

open Program

namespace Sumurai

/-- `SyncMetadata`. -/
structure SyncMetadata where
  transactionCount : ℤ
  accountCount : ℤ
  syncTimestamp : Timestamp
  startDate : NaiveDate
  endDate : NaiveDate
  connectionUpdated : Bool
deriving DecidableEq, Repr

/-- `SyncTransactionsResponse`. -/
structure SyncTransactionsResponse where
  transactions : List Transaction
  metadata : SyncMetadata
deriving DecidableEq, Repr

/-- `ProviderSyncError`. -/
inductive ProviderSyncError where
  | credentialsMissing
  | credentialAccess (e : DbError)
  | providerUnavailable (provider : String)
  | providerRequest (message : String)
  | accountLookup (e : DbError)
  | syncFailure (message : String)
deriving DecidableEq, Repr

/-- `TellerSyncError`. -/
inductive TellerSyncError where
  | credentialsMissing
  | credentialAccess (e : DbError)
  | providerInitialization (message : String)
  | providerRequest (message : String)
  | accountLookup (e : DbError)
  | connectionPersistence (e : DbError)
deriving DecidableEq, Repr

/-! ### Shared steps -/

/-- `record_connection_error`. The `last_sync_at` of the connection is saved as it was. -/
def recordConnectionError (connection : ProviderConnection) (errorMsg status : String) :
    ServiceProgram Unit := do
  let _ ← perform (.saveProviderConnection
    { connection with status := status, lastSyncError := some errorMsg })
  return ()

/-- The loop over the fetched accounts. -/
def persistAccounts (userId : Uuid) (connection : ProviderConnection)
    (fetchedAccounts : List Account) : ServiceProgram Unit :=
  forEach fetchedAccounts () fun _ account ↦ do
    let _ ← perform (.upsertAccount
      { account with userId := some userId, providerConnectionId := some connection.id })
    return ()

/-- `calculate_account_mapping`: the account of a provider account id. Later accounts replace
earlier ones. -/
def accountMapping (accounts : List Account) (providerAccountId : String) : Option Uuid :=
  (accounts.filter fun a ↦ a.providerAccountId = some providerAccountId).getLast?.map Account.id

/-- The number of the user's transactions, or zero. -/
def totalTransactions (userId : Uuid) : ServiceProgram ℤ := do
  match ← perform (.getTransactionsForUser userId) with
  | .ok transactions => return transactions.length
  | .error _ => return 0

/-- The connection after a sync, with `last_sync_at` set to the time taken at the start. -/
def syncedConnection (connection : ProviderConnection) (syncTimestamp updatedAt : Timestamp)
    (transactionCount accountCount : ℤ) : ProviderConnection :=
  { connection with
    lastSyncAt := some syncTimestamp
    transactionCount := transactionCount
    accountCount := accountCount
    updatedAt := some updatedAt
    status := "connected"
    lastSyncError := none }

/-- The response of a sync. -/
def syncResponse (transactions : List Transaction) (transactionCount accountCount : ℤ)
    (syncTimestamp : Timestamp) (window : NaiveDate × NaiveDate) : SyncTransactionsResponse where
  transactions := transactions
  metadata :=
    { transactionCount := transactionCount
      accountCount := accountCount
      syncTimestamp := syncTimestamp
      startDate := window.1
      endDate := window.2
      connectionUpdated := true }

/-! ### Plaid connections -/

/-- The status of a connection whose provider failed. -/
def providerErrorStatus (message : String) : String :=
  if "login_required".toList <:+: toLowercase message ∨
    "reauth".toList <:+: toLowercase message then
    "needs_reauth"
  else "error"

/-- The account mapping of one transaction. Without an account it keeps the id it came with. -/
def mapToAccount (accounts : List Account) (t : Transaction) : Transaction :=
  match t.providerAccountId.bind (accountMapping accounts) with
  | some accountId => { t with accountId := accountId }
  | none => t

/-- `sync_bank_connection_transactions`. The window is computed again, at its own time. -/
def syncBankConnectionTransactions (registered : String → Bool) (credentials : ProviderCredentials)
    (connection : ProviderConnection) (accounts : List Account) :
    ServiceProgram (Except String (List Transaction)) := do
  let now ← perform .now
  let window := calculateSyncDateRange now connection.lastSyncAt
  if registered credentials.provider then
    match ← perform (.getTransactions credentials window.1 window.2) with
    | .ok transactions => return .ok (transactions.map (mapToAccount accounts))
    | .error message => return .error message
  else return .error ("Provider '" ++ credentials.provider ++ "' is not registered")

/-- The loop over the transactions of a Plaid connection. A transaction that could not be stored is
kept in the response. -/
def persistTransactions (transactions : List Transaction) : ServiceProgram (List Transaction) :=
  forEach transactions [] fun persisted t ↦
    if t.accountId = 0 then return persisted
    else do
      let _ ← perform (.upsertTransaction t)
      return persisted ++ [t]

/-- The end of a Plaid sync. A failure to save the connection is logged only. -/
def finishProviderSync (userId : Uuid) (connection : ProviderConnection) (syncTimestamp : Timestamp)
    (window : NaiveDate × NaiveDate) (accountCount : ℤ) (transactions : List Transaction) :
    ServiceProgram SyncTransactionsResponse := do
  let _ ← perform (.autoResolvePendingDuplicates userId (some connection.id))
  let transactionCount ← totalTransactions userId
  let updatedAt ← perform .now
  let _ ← perform (.saveProviderConnection
    (syncedConnection connection syncTimestamp updatedAt transactionCount accountCount))
  return syncResponse transactions transactionCount accountCount syncTimestamp window

/-- The transactions of a Plaid sync. -/
def syncProviderTransactions (registered : String → Bool) (userId : Uuid)
    (credentials : ProviderCredentials) (connection : ProviderConnection)
    (syncTimestamp : Timestamp) (window : NaiveDate × NaiveDate) :
    ServiceProgram (Except ProviderSyncError SyncTransactionsResponse) := do
  match ← perform (.getAccountsForUser userId) with
  | .error e => return .error (.accountLookup e)
  | .ok dbAccounts =>
    match ← syncBankConnectionTransactions registered credentials connection dbAccounts with
    | .error message =>
      recordConnectionError connection message (providerErrorStatus message)
      return .error (.syncFailure message)
    | .ok transactions =>
      let persisted ← persistTransactions
        (transactions.map fun t ↦ { t with userId := some userId })
      let response ← finishProviderSync userId connection syncTimestamp window dbAccounts.length
        persisted
      return .ok response

/-- `sync_provider_connection`. -/
def syncProviderConnection (registered : String → Bool) (provider : String) (userId : Uuid)
    (connection : ProviderConnection) :
    ServiceProgram (Except ProviderSyncError SyncTransactionsResponse) := do
  let syncTimestamp ← perform .now
  let now ← perform .now
  let window := calculateSyncDateRange now connection.lastSyncAt
  match ← perform (.getProviderCredentialsForUser userId connection.itemId) with
  | .error e => return .error (.credentialAccess e)
  | .ok none => return .error .credentialsMissing
  | .ok (some record) =>
    if registered provider then
      let credentials : ProviderCredentials := ⟨provider, record.accessToken, connection.itemId⟩
      match ← perform (.getAccounts credentials) with
      | .error message =>
        recordConnectionError connection message (providerErrorStatus message)
        return .error (.providerRequest message)
      | .ok fetchedAccounts =>
        persistAccounts userId connection fetchedAccounts
        syncProviderTransactions registered userId credentials connection syncTimestamp window
    else return .error (.providerUnavailable provider)

/-! ### Teller connections -/

/-- The status of a connection whose provider failed. -/
def tellerErrorStatus (message : String) : String :=
  if "mfa_required".toList <:+: message.toList ∨
      "Enrollment is not healthy".toList <:+: message.toList then "needs_reauth"
  else "error"

/-- The loop over the transactions of a Teller connection. A transaction without a known account is
skipped, and so is one that could not be stored. -/
def persistTellerTransactions (userId : Uuid) (accounts : List Account)
    (transactions : List Transaction) : ServiceProgram (List Transaction) :=
  forEach transactions [] fun synced t ↦
    match t.providerAccountId.bind (accountMapping accounts) with
    | none => return synced
    | some accountId => do
      let transaction := { t with userId := some userId, accountId := accountId }
      match ← perform (.upsertTransaction transaction) with
      | .error _ => return synced
      | .ok () => return synced ++ [transaction]

/-- The end of a Teller sync. A failure to save the connection fails the sync. -/
def finishTellerSync (userId : Uuid) (connection : ProviderConnection) (syncTimestamp : Timestamp)
    (window : NaiveDate × NaiveDate) (accountCount : ℤ) (transactions : List Transaction) :
    ServiceProgram (Except TellerSyncError SyncTransactionsResponse) := do
  let _ ← perform (.mergeDuplicateProviderTransactions userId connection.id)
  let _ ← perform (.autoResolvePendingDuplicates userId (some connection.id))
  let transactionCount ← totalTransactions userId
  let updatedAt ← perform .now
  match ← perform (.saveProviderConnection
    (syncedConnection connection syncTimestamp updatedAt transactionCount accountCount)) with
  | .error e => return .error (.connectionPersistence e)
  | .ok () =>
    return .ok (syncResponse transactions transactionCount accountCount syncTimestamp window)

/-- The transactions of a Teller sync, mapped to the accounts of the connection. -/
def syncTellerTransactions (userId : Uuid) (credentials : ProviderCredentials)
    (connection : ProviderConnection) (syncTimestamp : Timestamp)
    (window : NaiveDate × NaiveDate) :
    ServiceProgram (Except TellerSyncError SyncTransactionsResponse) := do
  match ← perform (.getAccountsForUser userId) with
  | .error e => return .error (.accountLookup e)
  | .ok dbAccounts =>
    let accountsForConnection := dbAccounts.filter fun a ↦
      a.providerConnectionId = some connection.id
    match ← perform (.getTransactions credentials window.1 window.2) with
    | .error message =>
      recordConnectionError connection message (tellerErrorStatus message)
      return .error (.providerRequest message)
    | .ok transactions =>
      let synced ← persistTellerTransactions userId accountsForConnection transactions
      finishTellerSync userId connection syncTimestamp window accountsForConnection.length synced

/-- `sync_teller_connection`. -/
def syncTellerConnection (registered : String → Bool) (userId : Uuid)
    (connection : ProviderConnection) :
    ServiceProgram (Except TellerSyncError SyncTransactionsResponse) := do
  let syncTimestamp ← perform .now
  let now ← perform .now
  let window := calculateSyncDateRange now connection.lastSyncAt
  match ← perform (.getProviderCredentialsForUser userId connection.itemId) with
  | .error e => return .error (.credentialAccess e)
  | .ok none => return .error .credentialsMissing
  | .ok (some record) =>
    if registered "teller" then
      let credentials : ProviderCredentials := ⟨"teller", record.accessToken, connection.itemId⟩
      match ← perform (.getAccounts credentials) with
      | .error message =>
        recordConnectionError connection message (tellerErrorStatus message)
        return .error (.providerRequest message)
      | .ok fetchedAccounts =>
        persistAccounts userId connection fetchedAccounts
        let _ ← perform (.mergeDuplicateProviderAccounts userId connection.id)
        syncTellerTransactions userId credentials connection syncTimestamp window
    else return .error (.providerInitialization "Teller provider not registered")

/-! ### The callers -/

/-- The error of a sync of either kind. -/
inductive ConnectionSyncError where
  | connectionNotFound
  | connectionLookup (e : DbError)
  | teller (e : TellerSyncError)
  | provider (e : ProviderSyncError)
deriving DecidableEq, Repr

/-- `provider_for_connection`. -/
def providerForConnection (itemId : String) : String :=
  if "teller_".toList <+: itemId.toList then "teller" else "plaid"

/-- The sync of a loaded connection, by its provider. -/
def syncConnection (registered : String → Bool) (userId : Uuid) (connection : ProviderConnection) :
    ServiceProgram (Except ConnectionSyncError SyncTransactionsResponse) :=
  if providerForConnection connection.itemId = "teller" then do
    match ← syncTellerConnection registered userId connection with
    | .ok response => return .ok response
    | .error e => return .error (.teller e)
  else do
    match ← syncProviderConnection registered (providerForConnection connection.itemId) userId
      connection with
    | .ok response => return .ok response
    | .error e => return .error (.provider e)

/-- `sync_authenticated_provider_transactions`: the sync of one connection at a user's request. -/
def syncConnectionById (registered : String → Bool) (userId connectionId : Uuid) :
    ServiceProgram (Except ConnectionSyncError SyncTransactionsResponse) := do
  match ← perform (.getProviderConnectionById connectionId) with
  | .error e => return .error (.connectionLookup e)
  | .ok none => return .error .connectionNotFound
  | .ok (some connection) => syncConnection registered userId connection

/-- `sync_all_user_connections`: the number of connections that were synced. -/
def syncAllUserConnections (registered : String → Bool) (userId : Uuid) :
    ServiceProgram (Except DbError ℕ) := do
  match ← perform (.getAllProviderConnectionsByUser userId) with
  | .error e => return .error e
  | .ok connections =>
    let syncedCount ← forEach connections 0 fun count connection ↦
      if connection.isConnected then do
        match ← syncConnection registered userId connection with
        | .ok _ => return count + 1
        | .error _ => return count
      else return count
    return .ok syncedCount

/-! ### The calls they make -/

section Calls

variable {P : ServiceCall → Prop} {userId : Uuid} {connection : ProviderConnection}

theorem calls_persistAccounts
    (hupsert : ∀ a : Account, P (.upsertAccount
      { a with userId := some userId, providerConnectionId := some connection.id }))
    (fetchedAccounts : List Account) :
    (persistAccounts userId connection fetchedAccounts).Calls P :=
  calls_forEach (fun _ _ _ ↦ (calls_perform (hupsert _)).bind fun _ ↦ calls_pure) _

theorem calls_totalTransactions (hread : P (.getTransactionsForUser userId)) :
    (totalTransactions userId).Calls P := by
  refine (calls_perform hread).bind fun answer ↦ ?_
  split <;> exact calls_pure

theorem calls_persistTransactions (hupsert : ∀ t, P (.upsertTransaction t))
    (transactions : List Transaction) : (persistTransactions transactions).Calls P := by
  refine calls_forEach (fun _ _ _ ↦ ?_) _
  split
  · exact calls_pure
  · exact (calls_perform (hupsert _)).bind fun _ ↦ calls_pure

theorem calls_persistTellerTransactions (hupsert : ∀ t, P (.upsertTransaction t))
    (accounts : List Account) (transactions : List Transaction) :
    (persistTellerTransactions userId accounts transactions).Calls P := by
  refine calls_forEach (fun _ _ _ ↦ ?_) _
  split
  · exact calls_pure
  · refine (calls_perform (hupsert _)).bind fun answer ↦ ?_
    split <;> exact calls_pure

theorem calls_finishProviderSync {syncTimestamp : Timestamp} {window : NaiveDate × NaiveDate}
    {accountCount : ℤ} {transactions : List Transaction}
    (hresolve : P (.autoResolvePendingDuplicates userId (some connection.id)))
    (hread : P (.getTransactionsForUser userId)) (hnow : P .now)
    (hsave : ∀ updatedAt transactionCount, P (.saveProviderConnection
      (syncedConnection connection syncTimestamp updatedAt transactionCount accountCount))) :
    (finishProviderSync userId connection syncTimestamp window accountCount transactions).Calls
      P := by
  refine (calls_perform hresolve).bind fun _ ↦ ?_
  refine (calls_totalTransactions hread).bind fun transactionCount ↦ ?_
  refine (calls_perform hnow).bind fun updatedAt ↦ ?_
  exact (calls_perform (hsave updatedAt transactionCount)).bind fun _ ↦ calls_pure

theorem calls_finishTellerSync {syncTimestamp : Timestamp} {window : NaiveDate × NaiveDate}
    {accountCount : ℤ} {transactions : List Transaction}
    (hmerge : P (.mergeDuplicateProviderTransactions userId connection.id))
    (hresolve : P (.autoResolvePendingDuplicates userId (some connection.id)))
    (hread : P (.getTransactionsForUser userId)) (hnow : P .now)
    (hsave : ∀ updatedAt transactionCount, P (.saveProviderConnection
      (syncedConnection connection syncTimestamp updatedAt transactionCount accountCount))) :
    (finishTellerSync userId connection syncTimestamp window accountCount transactions).Calls
      P := by
  refine (calls_perform hmerge).bind fun _ ↦ ?_
  refine (calls_perform hresolve).bind fun _ ↦ ?_
  refine (calls_totalTransactions hread).bind fun transactionCount ↦ ?_
  refine (calls_perform hnow).bind fun updatedAt ↦ ?_
  refine (calls_perform (hsave updatedAt transactionCount)).bind fun answer ↦ ?_
  split <;> exact calls_pure

/-- The saves of a call are of the connection. -/
def SavesOnly (connection : ProviderConnection) (call : ServiceCall) : Prop :=
  ∀ c, call = .saveProviderConnection c →
    c.id = connection.id ∧ c.itemId = connection.itemId ∧ c.userId = connection.userId

theorem savesOnly_of_ne {call : ServiceCall} (h : ∀ c, call ≠ .saveProviderConnection c) :
    SavesOnly connection call :=
  fun c hc ↦ absurd hc (h c)

theorem savesOnly_save {c : ProviderConnection} (hid : c.id = connection.id)
    (hitem : c.itemId = connection.itemId) (huser : c.userId = connection.userId) :
    SavesOnly connection (.saveProviderConnection c) := by
  intro c' hc'
  obtain rfl := ServiceCall.saveProviderConnection.inj hc'
  exact ⟨hid, hitem, huser⟩

theorem calls_recordConnectionError (message status : String) :
    (recordConnectionError connection message status).Calls (SavesOnly connection) :=
  (calls_perform (savesOnly_save rfl rfl rfl)).bind fun _ ↦ calls_pure

theorem calls_syncProviderTransactions (registered : String → Bool)
    (credentials : ProviderCredentials) (syncTimestamp : Timestamp)
    (window : NaiveDate × NaiveDate) :
    (syncProviderTransactions registered userId credentials connection syncTimestamp window).Calls
      (SavesOnly connection) := by
  refine (calls_perform (savesOnly_of_ne (by simp))).bind fun answer ↦ ?_
  split
  · exact calls_pure
  · have hfetch : ∀ accounts, (syncBankConnectionTransactions registered credentials connection
        accounts).Calls (SavesOnly connection) := by
      intro accounts
      refine (calls_perform (savesOnly_of_ne (by simp))).bind fun now ↦ ?_
      dsimp only
      split
      · refine (calls_perform (savesOnly_of_ne (by simp))).bind fun answer ↦ ?_
        split <;> exact calls_pure
      · exact calls_pure
    refine (hfetch _).bind fun result ↦ ?_
    split
    · exact (calls_recordConnectionError _ _).bind fun _ ↦ calls_pure
    · refine (calls_persistTransactions (fun t ↦ savesOnly_of_ne (by simp)) _).bind fun _ ↦ ?_
      refine Calls.bind ?_ fun _ ↦ calls_pure
      exact calls_finishProviderSync (savesOnly_of_ne (by simp)) (savesOnly_of_ne (by simp))
        (savesOnly_of_ne (by simp)) fun _ _ ↦ savesOnly_save rfl rfl rfl

theorem calls_syncProviderConnection (registered : String → Bool) (provider : String) :
    (syncProviderConnection registered provider userId connection).Calls
    (SavesOnly connection) := by
  refine (calls_perform (savesOnly_of_ne (by simp))).bind fun _ ↦ ?_
  refine (calls_perform (savesOnly_of_ne (by simp))).bind fun _ ↦ ?_
  refine (calls_perform (savesOnly_of_ne (by simp))).bind fun answer ↦ ?_
  split
  · exact calls_pure
  · exact calls_pure
  · split
    · refine (calls_perform (savesOnly_of_ne (by simp))).bind fun answer ↦ ?_
      split
      · exact (calls_recordConnectionError _ _).bind fun _ ↦ calls_pure
      · refine (calls_persistAccounts (fun a ↦ savesOnly_of_ne (by simp)) _).bind fun _ ↦ ?_
        exact calls_syncProviderTransactions _ _ _ _
    · exact calls_pure

theorem calls_syncTellerConnection (registered : String → Bool) :
    (syncTellerConnection registered userId connection).Calls (SavesOnly connection) := by
  refine (calls_perform (savesOnly_of_ne (by simp))).bind fun _ ↦ ?_
  refine (calls_perform (savesOnly_of_ne (by simp))).bind fun _ ↦ ?_
  refine (calls_perform (savesOnly_of_ne (by simp))).bind fun answer ↦ ?_
  split
  · exact calls_pure
  · exact calls_pure
  · split
    · refine (calls_perform (savesOnly_of_ne (by simp))).bind fun answer ↦ ?_
      split
      · exact (calls_recordConnectionError _ _).bind fun _ ↦ calls_pure
      · refine (calls_persistAccounts (fun a ↦ savesOnly_of_ne (by simp)) _).bind fun _ ↦ ?_
        refine (calls_perform (savesOnly_of_ne (by simp))).bind fun _ ↦ ?_
        refine (calls_perform (savesOnly_of_ne (by simp))).bind fun answer ↦ ?_
        split
        · exact calls_pure
        · refine (calls_perform (savesOnly_of_ne (by simp))).bind fun answer ↦ ?_
          split
          · exact (calls_recordConnectionError _ _).bind fun _ ↦ calls_pure
          · refine (calls_persistTellerTransactions (fun t ↦ savesOnly_of_ne (by simp)) _ _).bind
              fun _ ↦ ?_
            exact calls_finishTellerSync (savesOnly_of_ne (by simp)) (savesOnly_of_ne (by simp))
              (savesOnly_of_ne (by simp)) (savesOnly_of_ne (by simp))
              fun _ _ ↦ savesOnly_save rfl rfl rfl
    · exact calls_pure

/-- **A sync saves no connection but its own.** -/
theorem calls_syncConnection (registered : String → Bool) :
    (syncConnection registered userId connection).Calls (SavesOnly connection) := by
  rw [syncConnection]
  split
  · refine (calls_syncTellerConnection registered).bind fun result ↦ ?_
    split <;> exact calls_pure
  · refine (calls_syncProviderConnection registered _).bind fun result ↦ ?_
    split <;> exact calls_pure

end Calls

end Sumurai
