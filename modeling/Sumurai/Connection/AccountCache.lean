import Sumurai.Connection.Connect
import Sumurai.Foundations.Embeddings

/-!
# The cached accounts of a connection

`complete_sync_with_jwt_cache_update` of `connection_service.rs` and the three operations that end
with it: the two syncs and the Teller connect. It drops the account lists of the session from the
cache and writes the one of the connection, from the accounts that the operation hands it. Each
hands it another list: the Plaid sync all the accounts of the user, the Teller sync those of them
that are on the connection, and the connect those that it has just stored, as it sent them.

The operations are those of `Sumurai.Connection.Sync` and `Sumurai.Connection.Connect`, with the
list as a second result (`syncProviderConnection_eq` and the two after it), followed by the cache
calls. The cached connection and the cached transactions are not looked at here, nor the balances
that are dropped along with the accounts.
-/

open Program

namespace Sumurai

/-! ### The operations with their accounts -/

/-- The transactions of a Plaid sync, with the accounts of the user. -/
def syncProviderTransactionsAndAccounts (registered : String → Bool) (userId : Uuid)
    (credentials : ProviderCredentials) (connection : ProviderConnection)
    (syncTimestamp : Timestamp) (window : NaiveDate × NaiveDate) :
    ServiceProgram (Except ProviderSyncError (SyncTransactionsResponse × List Account)) := do
  match ← perform (.getAccountsForUser userId) with
  | .error e => return .error (.accountLookup e)
  | .ok dbAccounts =>
    match ← syncBankConnectionTransactions registered credentials connection dbAccounts with
    | .error message =>
      recordConnectionError connection message (providerErrorStatus message)
      return .error (.syncFailure message)
    | .ok transactions =>
      let persisted ← persistTransactions
        (transactions.map fun t ↦ { t with userId := some userId })
      let response ← finishProviderSync userId connection syncTimestamp window dbAccounts.length
        persisted
      return .ok (response, dbAccounts)

/-- `sync_provider_connection` up to its cache writes, with the accounts that it writes. -/
def syncProviderConnectionAndAccounts (registered : String → Bool) (provider : String)
    (userId : Uuid) (connection : ProviderConnection) :
    ServiceProgram (Except ProviderSyncError (SyncTransactionsResponse × List Account)) := do
  let syncTimestamp ← perform .now
  let now ← perform .now
  let window := calculateSyncDateRange now connection.lastSyncAt
  match ← perform (.getProviderCredentialsForUser userId connection.itemId) with
  | .error e => return .error (.credentialAccess e)
  | .ok none => return .error .credentialsMissing
  | .ok (some record) =>
    if registered provider then
      let credentials : ProviderCredentials := ⟨provider, record.accessToken, connection.itemId⟩
      match ← perform (.getAccounts credentials) with
      | .error message =>
        recordConnectionError connection message (providerErrorStatus message)
        return .error (.providerRequest message)
      | .ok fetchedAccounts =>
        persistAccounts userId connection fetchedAccounts
        syncProviderTransactionsAndAccounts registered userId credentials connection syncTimestamp
          window
    else return .error (.providerUnavailable provider)

/-- The transactions of a Teller sync, with the user's accounts on the connection. -/
def syncTellerTransactionsAndAccounts (userId : Uuid) (credentials : ProviderCredentials)
    (connection : ProviderConnection) (syncTimestamp : Timestamp) (window : NaiveDate × NaiveDate) :
    ServiceProgram (Except TellerSyncError (SyncTransactionsResponse × List Account)) := do
  match ← perform (.getAccountsForUser userId) with
  | .error e => return .error (.accountLookup e)
  | .ok dbAccounts =>
    let accountsForConnection := dbAccounts.filter fun a ↦
      a.providerConnectionId = some connection.id
    match ← perform (.getTransactions credentials window.1 window.2) with
    | .error message =>
      recordConnectionError connection message (tellerErrorStatus message)
      return .error (.providerRequest message)
    | .ok transactions =>
      let synced ← persistTellerTransactions userId accountsForConnection transactions
      match ← finishTellerSync userId connection syncTimestamp window accountsForConnection.length
        synced with
      | .error e => return .error e
      | .ok response => return .ok (response, accountsForConnection)

/-- `sync_teller_connection` up to its cache writes, with the accounts that it writes. -/
def syncTellerConnectionAndAccounts (registered : String → Bool) (userId : Uuid)
    (connection : ProviderConnection) :
    ServiceProgram (Except TellerSyncError (SyncTransactionsResponse × List Account)) := do
  let syncTimestamp ← perform .now
  let now ← perform .now
  let window := calculateSyncDateRange now connection.lastSyncAt
  match ← perform (.getProviderCredentialsForUser userId connection.itemId) with
  | .error e => return .error (.credentialAccess e)
  | .ok none => return .error .credentialsMissing
  | .ok (some record) =>
    if registered "teller" then
      let credentials : ProviderCredentials := ⟨"teller", record.accessToken, connection.itemId⟩
      match ← perform (.getAccounts credentials) with
      | .error message =>
        recordConnectionError connection message (tellerErrorStatus message)
        return .error (.providerRequest message)
      | .ok fetchedAccounts =>
        persistAccounts userId connection fetchedAccounts
        let _ ← perform (.mergeDuplicateProviderAccounts userId connection.id)
        syncTellerTransactionsAndAccounts userId credentials connection syncTimestamp window
    else return .error (.providerInitialization "Teller provider not registered")

/-- The accounts of a saved connection, with those that were stored. -/
def connectAndListAccounts (userId : Uuid) (connection : ProviderConnection)
    (credentials : ProviderCredentials) : ConnectProgram (List Account) := do
  match ← callService (.getAccounts credentials) with
  | .error _ =>
    finishConnect userId connection []
    return []
  | .ok accounts =>
    let persisted ← persistConnectAccounts userId connection accounts
    finishConnect userId connection persisted
    return persisted

/-- `connect_teller_provider` up to its cache writes, on the connection that it is about, with the
accounts that it writes. -/
def connectToAndAccounts (userId : Uuid) (request : ProviderConnectRequest)
    (connection : ProviderConnection) :
    ConnectProgram (Except TellerConnectError (ProviderConnectResponse × List Account)) := do
  match ← performConnect (.storeProviderCredentialsForUser userId connection.itemId
    request.accessToken) with
  | .error e => return .error (.credentialStorage e)
  | .ok () =>
    let institutionName := request.institutionName.getD "Connected Bank"
    let connection ← markConnected connection institutionName
    let connection := resetCounts request { connection with institutionId := some "teller" }
    match ← callService (.saveProviderConnection connection) with
    | .error e => return .error (.connectionPersistence e)
    | .ok () =>
      let persisted ← connectAndListAccounts userId connection
        ⟨"teller", request.accessToken, connection.itemId⟩
      return .ok (⟨connection.id, institutionName⟩, persisted)

/-- `connect_teller_provider` up to its cache writes, with the accounts that it writes. -/
def connectTellerProviderAndAccounts (registered : String → Bool) (parseStr : String → Option Uuid)
    (userId : Uuid) (request : ProviderConnectRequest) :
    ConnectProgram (Except TellerConnectError (ProviderConnectResponse × List Account)) :=
  if request.provider ≠ "teller" then return .error (.invalidProvider request.provider)
  else if registered "teller" then do
    match ← chosenConnection parseStr userId request with
    | .error e => return .error e
    | .ok connection => connectToAndAccounts userId request connection
  else return .error (.invalidProvider "teller")

section Results

variable {registered : String → Bool} {userId : Uuid} {connection : ProviderConnection}

theorem syncProviderTransactions_eq {credentials : ProviderCredentials} {syncTimestamp : Timestamp}
    {window : NaiveDate × NaiveDate} :
    syncProviderTransactions registered userId credentials connection syncTimestamp window =
      syncProviderTransactionsAndAccounts registered userId credentials connection syncTimestamp
        window >>= fun result ↦ pure (result.map Prod.fst) := by
  refine bind_eq_bind_bind fun answer ↦ ?_
  split
  · rfl
  · refine bind_eq_bind_bind fun result ↦ ?_
    split
    · rfl
    · exact bind_eq_bind_bind fun persisted ↦ bind_eq_bind_bind fun response ↦ rfl

/-- **The Plaid sync** is this one without the accounts. -/
theorem syncProviderConnection_eq (provider : String) :
    syncProviderConnection registered provider userId connection =
      syncProviderConnectionAndAccounts registered provider userId connection >>= fun result ↦
        pure (result.map Prod.fst) := by
  refine bind_eq_bind_bind fun syncTimestamp ↦ bind_eq_bind_bind fun now ↦
    bind_eq_bind_bind fun answer ↦ ?_
  split
  · rfl
  · rfl
  · split
    · refine bind_eq_bind_bind fun answer ↦ ?_
      split
      · rfl
      · exact bind_eq_bind_bind fun _ ↦ syncProviderTransactions_eq
    · rfl

theorem syncTellerTransactions_eq {credentials : ProviderCredentials} {syncTimestamp : Timestamp}
    {window : NaiveDate × NaiveDate} :
    syncTellerTransactions userId credentials connection syncTimestamp window =
      syncTellerTransactionsAndAccounts userId credentials connection syncTimestamp window >>=
        fun result ↦ pure (result.map Prod.fst) := by
  refine bind_eq_bind_bind fun answer ↦ ?_
  split
  · rfl
  · refine bind_eq_bind_bind fun answer ↦ ?_
    split
    · rfl
    · refine bind_eq_bind_bind fun synced ↦ ?_
      rw [Program.bind_assoc]
      refine (Program.bind_pure _).symm.trans (bind_congr fun result ↦ ?_)
      cases result <;> rfl

/-- **The Teller sync** is this one without the accounts. -/
theorem syncTellerConnection_eq :
    syncTellerConnection registered userId connection =
      syncTellerConnectionAndAccounts registered userId connection >>= fun result ↦
        pure (result.map Prod.fst) := by
  refine bind_eq_bind_bind fun syncTimestamp ↦ bind_eq_bind_bind fun now ↦
    bind_eq_bind_bind fun answer ↦ ?_
  split
  · rfl
  · rfl
  · split
    · refine bind_eq_bind_bind fun answer ↦ ?_
      split
      · rfl
      · exact bind_eq_bind_bind fun _ ↦ bind_eq_bind_bind fun _ ↦ syncTellerTransactions_eq
    · rfl

theorem connectAccounts_eq {credentials : ProviderCredentials} :
    connectAccounts userId connection credentials =
      connectAndListAccounts userId connection credentials >>= fun _ ↦ pure () := by
  refine bind_eq_bind_bind fun answer ↦ ?_
  split
  · rw [Program.bind_assoc]
    exact (Program.bind_pure _).symm
  · refine bind_eq_bind_bind fun persisted ↦ ?_
    rw [Program.bind_assoc]
    exact (Program.bind_pure _).symm

theorem connectTo_eq {request : ProviderConnectRequest} :
    connectTo userId request connection =
      connectToAndAccounts userId request connection >>= fun result ↦
        pure (result.map Prod.fst) := by
  refine bind_eq_bind_bind fun answer ↦ ?_
  split
  · rfl
  · refine bind_eq_bind_bind fun connection ↦ bind_eq_bind_bind fun answer ↦ ?_
    split
    · rfl
    · rw [connectAccounts_eq, Program.bind_assoc, Program.bind_assoc]
      rfl

/-- **The Teller connect** is this one without the accounts. -/
theorem connectTellerProvider_eq {parseStr : String → Option Uuid}
    {request : ProviderConnectRequest} :
    connectTellerProvider registered parseStr userId request =
      connectTellerProviderAndAccounts registered parseStr userId request >>= fun result ↦
        pure (result.map Prod.fst) := by
  rw [connectTellerProvider, connectTellerProviderAndAccounts]
  split
  · rfl
  · split
    · refine bind_eq_bind_bind fun result ↦ ?_
      split
      · rfl
      · exact connectTo_eq
    · rfl

end Results

/-! ### The cache -/

/-- The account lists that the cache has for a session: the connection that each is cached for, and
the list. The newest comes first. -/
abbrev AccountCache := List (Uuid × List Account)

/-- A call of an operation that ends with the cache. -/
inductive CachingCall where
  | connect (op : ConnectCall)
  /-- `invalidate_pattern`, of `{}*_balances_overview*`. -/
  | invalidateBalancesOverview
  /-- `invalidate_pattern`, of `{}_bank_accounts_*`. -/
  | invalidateBankAccounts
  | cacheJwtScopedBankConnection (connectionId : Uuid)
  | cacheJwtScopedBankAccounts (connectionId : Uuid) (accounts : List Account)
deriving DecidableEq, Repr

/-- What a call is answered with. -/
abbrev CachingCall.Answer : CachingCall → Type
  | connect op => op.Answer
  | _ => Except String Unit

/-- A program that ends with the cache. -/
abbrev CachingProgram := Program CachingCall CachingCall.Answer

/-- The world of an operation, and the account lists of its session in the cache. -/
structure CachingWorld where
  world : World
  cache : AccountCache

/-- A cache call that changes the account lists: it is carried out, or fails and changes nothing. -/
def cacheWrite (e : ConnectReply) (s : CachingWorld) (cache : AccountCache) :
    CachingWorld × Except String Unit :=
  match e.cache with
  | .ok () => ({ s with cache := cache }, .ok ())
  | .error message => (s, .error message)

/-- One call. -/
def cachingExec (L : Locale) : (op : CachingCall) → ConnectReply → CachingWorld →
    CachingWorld × op.Answer
  | .connect op, e, s =>
    ({ s with world := (connectExec L op e s.world).1 }, (connectExec L op e s.world).2)
  | .invalidateBalancesOverview, e, s => (s, e.cache)
  | .invalidateBankAccounts, e, s => cacheWrite e s []
  | .cacheJwtScopedBankConnection _, e, s => (s, e.cache)
  | .cacheJwtScopedBankAccounts connectionId accounts, e, s =>
    cacheWrite e s ((connectionId, accounts) :: s.cache)

/-- A single call. -/
def performCaching (op : CachingCall) : CachingProgram op.Answer :=
  Program.ask op

/-- The calls that connect an item. -/
def connectCalls : CallEmbedding ConnectCall ConnectCall.Answer CachingCall CachingCall.Answer where
  op := .connect
  answer _ r := r

/-- The calls of the service. -/
def serviceCalls : CallEmbedding ServiceCall ServiceCall.Answer CachingCall CachingCall.Answer where
  op := fun op ↦ .connect (.service op)
  answer _ r := r

/-- `complete_sync_with_jwt_cache_update`. Only the last two calls may fail it. -/
def completeSyncWithJwtCacheUpdate (connectionId : Uuid) (accounts : List Account) :
    CachingProgram (Except String Unit) := do
  let _ ← performCaching .invalidateBalancesOverview
  let _ ← performCaching .invalidateBankAccounts
  match ← performCaching (.cacheJwtScopedBankConnection connectionId) with
  | .error message => return .error message
  | .ok () => performCaching (.cacheJwtScopedBankAccounts connectionId accounts)

/-- `sync_provider_connection`, with its cache writes. Their failure is logged. -/
def syncProviderConnectionAndCache (registered : String → Bool) (provider : String) (userId : Uuid)
    (connection : ProviderConnection) :
    CachingProgram (Except ProviderSyncError SyncTransactionsResponse) := do
  match ← (syncProviderConnectionAndAccounts registered provider userId connection).embed
    serviceCalls with
  | .error e => return .error e
  | .ok (response, dbAccounts) =>
    let _ ← completeSyncWithJwtCacheUpdate connection.id dbAccounts
    return .ok response

/-- `sync_teller_connection`, with its cache writes. Their failure is logged. -/
def syncTellerConnectionAndCache (registered : String → Bool) (userId : Uuid)
    (connection : ProviderConnection) :
    CachingProgram (Except TellerSyncError SyncTransactionsResponse) := do
  match ← (syncTellerConnectionAndAccounts registered userId connection).embed serviceCalls with
  | .error e => return .error e
  | .ok (response, accountsForConnection) =>
    let _ ← completeSyncWithJwtCacheUpdate connection.id accountsForConnection
    return .ok response

/-- `connect_teller_provider`, with its cache writes, which it makes if it has stored an account. -/
def connectTellerProviderAndCache (registered : String → Bool) (parseStr : String → Option Uuid)
    (userId : Uuid) (request : ProviderConnectRequest) :
    CachingProgram (Except TellerConnectError ProviderConnectResponse) := do
  match ← (connectTellerProviderAndAccounts registered parseStr userId request).embed
    connectCalls with
  | .error e => return .error e
  | .ok (response, persisted) =>
    if persisted = [] then return .ok response
    else
      let _ ← completeSyncWithJwtCacheUpdate response.connectionId persisted
      return .ok response

/-! ### The property -/

/-- The stored accounts of a connection. -/
def accountsOf (db : Store) (connectionId : Uuid) : List Account :=
  db.accounts.filter fun a ↦ a.providerConnectionId = some connectionId

/-- What tells one account from another: its id and that of the provider. -/
def Account.ids (a : Account) : Uuid × Option String :=
  (a.id, a.providerAccountId)

/-- The accounts of a list are the stored accounts of the connection, with their stored ids. -/
def ListsAccountsOf (db : Store) (connectionId : Uuid) (accounts : List Account) : Prop :=
  (accounts.map Account.ids).Perm ((accountsOf db connectionId).map Account.ids)

/-- The account count of a connection is the number of its stored accounts. -/
def CountsAccountsOf (db : Store) (connectionId : Uuid) : Prop :=
  ∀ r ∈ db.providerConnections, r.id = connectionId →
    r.accountCount = (accountsOf db connectionId).length

/-- **Cached and counted accounts are the connection's own**: the account list that is cached for
the connection, if there is one, and its account count are those of its stored accounts. -/
structure AccountsAgree (connectionId : Uuid) (s : CachingWorld) : Prop where
  cached : ∀ accounts, s.cache.lookup connectionId = some accounts →
    ListsAccountsOf s.world.db connectionId accounts
  counted : CountsAccountsOf s.world.db connectionId

/-! ### Runs -/

section Runs

variable {L : Locale} {env : ℕ → ConnectReply} {s : CachingWorld}

theorem connectCalls_runs (L : Locale) :
    connectCalls.Runs (connectExec L) (cachingExec L) CachingWorld.world id :=
  ⟨fun _ _ _ ↦ rfl, fun _ _ _ ↦ rfl⟩

theorem serviceCalls_runs (L : Locale) :
    serviceCalls.Runs (exec L) (cachingExec L) CachingWorld.world ConnectReply.toReply :=
  ⟨fun _ _ _ ↦ rfl, fun _ _ _ ↦ rfl⟩

theorem cacheWrite_ok {e : ConnectReply} (h : e.cache = .ok ()) (s : CachingWorld)
    (cache : AccountCache) : cacheWrite e s cache = ({ s with cache := cache }, .ok ()) := by
  rw [cacheWrite, h]

theorem cacheWrite_world (e : ConnectReply) (s : CachingWorld) (cache : AccountCache) :
    (cacheWrite e s cache).1.world = s.world := by
  unfold cacheWrite
  split <;> rfl

/-- On a cache that answers, the list of the connection is the one that is left. -/
theorem ensures_completeSync {connectionId : Uuid} {accounts : List Account} :
    (completeSyncWithJwtCacheUpdate connectionId accounts).Ensures
      (Setting.alone (cachingExec L) fun _ e ↦ e.cache = .ok ())
      (fun _ s' ↦ s' = { s with cache := [(connectionId, accounts)] }) s := by
  refine ensures_bind.2 (ensures_ask_alone.2 fun e _ ↦ ?_)
  refine ensures_bind.2 (ensures_ask_alone.2 fun e he ↦ ?_)
  show Ensures _ _ _ (cacheWrite e s []).1
  rw [cacheWrite_ok he]
  refine ensures_bind.2 (ensures_ask_alone.2 fun e he ↦ ?_)
  split
  · rename_i message hfails
    have hanswer : e.cache = .error message := hfails
    exact absurd (he.symm.trans hanswer) nofun
  · refine ensures_ask_alone.2 fun e he ↦ ?_
    show (cacheWrite e { s with cache := [] } [(connectionId, accounts)]).1 = _
    rw [cacheWrite_ok he]

/-- The cache calls leave the world alone. -/
theorem ensures_completeSync_world {connectionId : Uuid} {accounts : List Account} :
    (completeSyncWithJwtCacheUpdate connectionId accounts).Ensures
      (Setting.alone (cachingExec L) fun _ _ ↦ True) (fun _ s' ↦ s'.world = s.world) s := by
  refine ensures_bind.2 (ensures_ask_alone.2 fun e _ ↦ ?_)
  refine ensures_bind.2 (ensures_ask_alone.2 fun e _ ↦ ?_)
  have hdropped : (cachingExec L .invalidateBankAccounts e s).1.world = s.world :=
    cacheWrite_world _ _ _
  refine ensures_bind.2 (ensures_ask_alone.2 fun e _ ↦ ?_)
  split
  · exact hdropped
  · exact ensures_ask_alone.2 fun e _ ↦ (cacheWrite_world _ _ _).trans hdropped

end Runs

/-! ### The operations without their cache -/

section Worlds

variable {L : Locale} {registered : String → Bool} {userId : Uuid} {connection : ProviderConnection}
  {env : ℕ → ConnectReply} {s : CachingWorld}

/-- What is written to the cache does not show in the world, nor in the result. -/
theorem run_completeSync {α : Type} (connectionId : Uuid) (accounts : List Account) (a : α) :
    ((completeSyncWithJwtCacheUpdate connectionId accounts >>= fun _ ↦ pure a).run (cachingExec L)
        env s).1.world = s.world ∧
      ((completeSyncWithJwtCacheUpdate connectionId accounts >>= fun _ ↦ pure a).run (cachingExec L)
        env s).2.1 = a := by
  have hworld : ((completeSyncWithJwtCacheUpdate connectionId accounts).run (cachingExec L)
      env s).1.world = s.world :=
    run_of_ensures_always (Q := fun _ (s' : CachingWorld) ↦ s'.world = s.world)
      ensures_completeSync_world
  rw [run_bind (p := completeSyncWithJwtCacheUpdate connectionId accounts) rfl]
  exact ⟨hworld, rfl⟩

/-- **The Plaid sync** does to the world, and returns, what it does and returns without its
cache. -/
theorem run_syncProviderConnectionAndCache (provider : String) :
    ((syncProviderConnectionAndCache registered provider userId connection).run (cachingExec L)
        env s).1.world =
      ((syncProviderConnection registered provider userId connection).run (exec L)
        (fun n ↦ (env n).toReply) s.world).1 ∧
    ((syncProviderConnectionAndCache registered provider userId connection).run (cachingExec L)
        env s).2.1 =
      ((syncProviderConnection registered provider userId connection).run (exec L)
        (fun n ↦ (env n).toReply) s.world).2.1 := by
  rw [syncProviderConnection_eq]
  refine run_embed_bind (serviceCalls_runs L) ?_ _ env s
  rintro (error | ⟨response, accounts⟩) env s
  · exact ⟨rfl, rfl⟩
  · exact run_completeSync connection.id accounts _

/-- **The Teller sync** does to the world, and returns, what it does and returns without its
cache. -/
theorem run_syncTellerConnectionAndCache :
    ((syncTellerConnectionAndCache registered userId connection).run (cachingExec L) env
      s).1.world =
      ((syncTellerConnection registered userId connection).run (exec L)
        (fun n ↦ (env n).toReply) s.world).1 ∧
    ((syncTellerConnectionAndCache registered userId connection).run (cachingExec L) env s).2.1 =
      ((syncTellerConnection registered userId connection).run (exec L)
        (fun n ↦ (env n).toReply) s.world).2.1 := by
  rw [syncTellerConnection_eq]
  refine run_embed_bind (serviceCalls_runs L) ?_ _ env s
  rintro (error | ⟨response, accounts⟩) env s
  · exact ⟨rfl, rfl⟩
  · exact run_completeSync connection.id accounts _

/-- **The connect** does to the world, and returns, what it does and returns without its cache. -/
theorem run_connectTellerProviderAndCache {parseStr : String → Option Uuid}
    {request : ProviderConnectRequest} :
    ((connectTellerProviderAndCache registered parseStr userId request).run (cachingExec L)
        env s).1.world =
      ((connectTellerProvider registered parseStr userId request).run (connectExec L)
        env s.world).1 ∧
    ((connectTellerProviderAndCache registered parseStr userId request).run (cachingExec L)
        env s).2.1 =
      ((connectTellerProvider registered parseStr userId request).run (connectExec L)
        env s.world).2.1 := by
  rw [connectTellerProvider_eq]
  refine run_embed_bind (connectCalls_runs L) ?_ _ env s
  rintro (error | ⟨response, persisted⟩) env s
  · exact ⟨rfl, rfl⟩
  · dsimp only
    split
    · exact ⟨rfl, rfl⟩
    · exact run_completeSync response.connectionId persisted _

end Worlds

end Sumurai
