import Sumurai.Connection.Sync

/-!
# Connecting an item

`connect_teller_provider` and `exchange_public_token` of `connection_service.rs`. Both make a
`ProviderConnection` with a fresh id, or load the one they are given, store the credentials of the
item, and save the connection; the first goes on to fetch the accounts of the item and to store
them. In the first a failure to store credentials or connection ends the operation, in the second it
is logged.

Besides the calls of the service, the two make fresh ids, exchange tokens and store credentials
(`ConnectCall`). They work on the `World` of the service, whose log has the calls of the service
among theirs. Their cache writes only log their failures, and are no calls of the programs.
-/

open Program

namespace Sumurai

/-- `providers::InstitutionInfo`, as far as the service uses it. -/
structure InstitutionInfo where
  institutionId : String
  name : String
deriving DecidableEq, Repr

/-- A call of an operation that connects an item. -/
inductive ConnectCall where
  /-- A call of the service. -/
  | service (op : ServiceCall)
  /-- `Uuid::new_v4`, for a connection. -/
  | newV4
  | storeProviderCredentialsForUser (userId : Uuid) (itemId accessToken : String)
  /-- `FinancialDataProvider::exchange_public_token`. -/
  | exchangePublicToken (publicToken : String)
  /-- `FinancialDataProvider::get_institution_info`. -/
  | getInstitutionInfo (credentials : ProviderCredentials)
deriving DecidableEq, Repr

/-- What a call is answered with. -/
abbrev ConnectCall.Answer : ConnectCall → Type
  | service op => op.Answer
  | newV4 => Uuid
  | storeProviderCredentialsForUser _ _ _ => Except DbError Unit
  | exchangePublicToken _ => Except String ProviderCredentials
  | getInstitutionInfo _ => Except String InstitutionInfo

/-- What the environment chooses at a call. -/
structure ConnectReply extends Reply where
  newId : Uuid
  credentials : Except String ProviderCredentials
  institution : Except String InstitutionInfo

/-- A program that connects an item. -/
abbrev ConnectProgram := Program ConnectCall ConnectCall.Answer

/-- One call on the world. -/
def connectExec (L : Locale) : (op : ConnectCall) → ConnectReply → World → World × op.Answer
  | .service op, e, w => exec L op e.toReply w
  | .newV4, e, w => (w, newV4 (w.db.providerConnections.map ProviderConnection.id) e.newId)
  | .storeProviderCredentialsForUser userId itemId accessToken, e, w =>
    if e.databaseUp then
      let id := newV4 (w.db.plaidCredentials.map PlaidCredentials.id) e.newId
      ({ w with db := storeProviderCredentialsForUser w.db id userId itemId accessToken }, .ok ())
    else (w, .error .unavailable)
  | .exchangePublicToken _, e, w => (w, e.credentials)
  | .getInstitutionInfo _, e, w => (w, e.institution)

/-- A single call. -/
def performConnect (op : ConnectCall) : ConnectProgram op.Answer :=
  Program.ask op

/-- A call of the service. -/
def callService (op : ServiceCall) : ConnectProgram op.Answer :=
  performConnect (.service op)

/-! ### The connection -/

/-- `ProviderConnection::new`. -/
def newProviderConnection (userId : Uuid) (itemId : String) :
    ConnectProgram ProviderConnection := do
  let now ← callService .now
  let id ← performConnect .newV4
  return {
    id := id
    userId := userId
    itemId := itemId
    isConnected := false
    lastSyncAt := none
    connectedAt := none
    disconnectedAt := none
    institutionId := none
    institutionName := none
    transactionCount := 0
    accountCount := 0
    status := "connected"
    lastSyncError := none
    createdAt := some now
    updatedAt := some now }

/-- `mark_connected`. -/
def markConnected (connection : ProviderConnection) (institutionName : String) :
    ConnectProgram ProviderConnection := do
  let connectedAt ← callService .now
  let updatedAt ← callService .now
  return { connection with
    isConnected := true
    connectedAt := some connectedAt
    disconnectedAt := none
    institutionName := some institutionName
    updatedAt := some updatedAt }

/-! ### Teller -/

/-- `ProviderConnectRequest`. -/
structure ProviderConnectRequest where
  provider : String
  accessToken : String
  enrollmentId : String
  institutionName : Option String
  connectionId : Option String
deriving DecidableEq, Repr

/-- `ProviderConnectResponse`. The id is sent as text. -/
structure ProviderConnectResponse where
  connectionId : Uuid
  institutionName : String
deriving DecidableEq, Repr

/-- `TellerConnectError`. -/
inductive TellerConnectError where
  | invalidProvider (provider : String)
  | invalidConnection
  | credentialStorage (e : DbError)
  | connectionPersistence (e : DbError)
deriving DecidableEq, Repr

/-- The connection that a request is about: the one whose id it gives, or a new one. -/
def chosenConnection (parseStr : String → Option Uuid) (userId : Uuid)
    (request : ProviderConnectRequest) :
    ConnectProgram (Except TellerConnectError ProviderConnection) :=
  match request.connectionId with
  | some connectionId =>
    match parseStr connectionId with
    | none => return .error .invalidConnection
    | some connectionId => do
      match ← callService (.getProviderConnectionById connectionId) with
      | .error e => return .error (.connectionPersistence e)
      | .ok none => return .error .invalidConnection
      | .ok (some connection) => return .ok connection
  | none => do
    let connection ← newProviderConnection userId ("teller_" ++ request.enrollmentId)
    return .ok connection

/-- The counts and the last sync of a connection that was not given by its id start anew. -/
def resetCounts (request : ProviderConnectRequest) (connection : ProviderConnection) :
    ProviderConnection :=
  if request.connectionId.isNone then
    { connection with transactionCount := 0, accountCount := 0, lastSyncAt := none }
  else connection

/-- The loop over the fetched accounts: the ones that were stored. -/
def persistConnectAccounts (userId : Uuid) (connection : ProviderConnection)
    (accounts : List Account) : ConnectProgram (List Account) :=
  forEach accounts [] fun persisted account ↦ do
    let account :=
      { account with userId := some userId, providerConnectionId := some connection.id }
    match ← callService (.upsertAccount account) with
    | .ok () => return persisted ++ [account]
    | .error _ => return persisted

/-- What follows when accounts were stored. Failures are logged. -/
def finishConnect (userId : Uuid) (connection : ProviderConnection) (persisted : List Account) :
    ConnectProgram Unit :=
  if persisted = [] then return ()
  else do
    let _ ← callService (.mergeDuplicateProviderAccounts userId connection.id)
    let _ ← callService (.saveProviderConnection
      { connection with accountCount := persisted.length })
    return ()

/-- The accounts of a saved connection. A failure to fetch them is logged. -/
def connectAccounts (userId : Uuid) (connection : ProviderConnection)
    (credentials : ProviderCredentials) : ConnectProgram Unit := do
  match ← callService (.getAccounts credentials) with
  | .error _ => finishConnect userId connection []
  | .ok accounts =>
    let persisted ← persistConnectAccounts userId connection accounts
    finishConnect userId connection persisted

/-- `connect_teller_provider`, on the connection that it is about. -/
def connectTo (userId : Uuid) (request : ProviderConnectRequest) (connection : ProviderConnection) :
    ConnectProgram (Except TellerConnectError ProviderConnectResponse) := do
  match ← performConnect (.storeProviderCredentialsForUser userId connection.itemId
    request.accessToken) with
  | .error e => return .error (.credentialStorage e)
  | .ok () =>
    let institutionName := request.institutionName.getD "Connected Bank"
    let connection ← markConnected connection institutionName
    let connection := resetCounts request { connection with institutionId := some "teller" }
    match ← callService (.saveProviderConnection connection) with
    | .error e => return .error (.connectionPersistence e)
    | .ok () =>
      connectAccounts userId connection ⟨"teller", request.accessToken, connection.itemId⟩
      return .ok ⟨connection.id, institutionName⟩

/-- `connect_teller_provider`. -/
def connectTellerProvider (registered : String → Bool) (parseStr : String → Option Uuid)
    (userId : Uuid) (request : ProviderConnectRequest) :
    ConnectProgram (Except TellerConnectError ProviderConnectResponse) :=
  if request.provider ≠ "teller" then return .error (.invalidProvider request.provider)
  else if registered "teller" then do
    match ← chosenConnection parseStr userId request with
    | .error e => return .error e
    | .ok connection => connectTo userId request connection
  else return .error (.invalidProvider "teller")

/-! ### Plaid -/

/-- `ExchangeTokenResponse`. -/
structure ExchangeTokenResponse where
  accessToken : String
  itemId : String
  institutionId : Option String
  institutionName : String
deriving DecidableEq, Repr

/-- `ExchangeTokenError`. -/
inductive ExchangeTokenError where
  | providerUnavailable (provider : String)
  | exchangeFailed (message : String)
deriving DecidableEq, Repr

/-- The institution of the credentials, or what stands for it. -/
def institutionOf (credentials : ProviderCredentials) : ConnectProgram InstitutionInfo := do
  match ← performConnect (.getInstitutionInfo credentials) with
  | .ok info => return info
  | .error _ => return ⟨credentials.itemId, "Connected Bank"⟩

/-- `exchange_public_token`. -/
def exchangePublicToken (registered : String → Bool) (provider : String) (userId : Uuid)
    (publicToken : String) : ConnectProgram (Except ExchangeTokenError ExchangeTokenResponse) :=
  if registered provider then do
    match ← performConnect (.exchangePublicToken publicToken) with
    | .error message => return .error (.exchangeFailed message)
    | .ok credentials =>
      let info ← institutionOf credentials
      let _ ← performConnect (.storeProviderCredentialsForUser userId credentials.itemId
        credentials.accessToken)
      let connection ← newProviderConnection userId credentials.itemId
      let connection ← markConnected connection info.name
      let connection := { connection with institutionId := some info.institutionId }
      let _ ← callService (.saveProviderConnection connection)
      return .ok ⟨credentials.accessToken, connection.itemId, connection.institutionId,
        connection.institutionName.getD "Connected Bank"⟩
  else return .error (.providerUnavailable provider)

/-! ### A small environment -/

/-- The answers of an environment in which nothing fails, with an account to fetch. -/
def connectReply : ConnectReply where
  toReply := { quietReply with accounts := .ok [checkingAccount] }
  newId := 9
  credentials := .ok ⟨"plaid", "access-1", "item-1"⟩
  institution := .ok ⟨"ins_1", "First Bank"⟩

end Sumurai
