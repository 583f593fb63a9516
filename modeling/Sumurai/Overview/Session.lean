import Sumurai.Analytics.NetWorth
import Sumurai.Connection.Connect
import Sumurai.Connection.Disconnect
import Sumurai.Connection.SyncedRows
import Sumurai.Overview.CacheKeys
import Sumurai.Overview.ManualAccounts
import Sumurai.Repository.Duplicates

/-!
# A session with its cached overviews

What one session does, one operation after the other: it connects, syncs and disconnects, marks
duplicates, creates, updates and deletes manual accounts, and reads the two overviews. A read
answers from the cache when it finds its key there, and fills it when it does not; an operation
changes the database and removes the keys that match its patterns.

An operation of the connection service runs as the program it is, and its patterns follow from how
it ran: a sync removes keys when it succeeds, a Teller connect when it has stored an account, a
disconnect when it has found its connection. The environment chooses the replies of the program, for
which keys the cache answers a removal, and at a read whether the cache answers and whether the
entry has outlived its time.

A cached response carries the databases that the session has had since it was computed. The code
has nothing of the kind: they are there to say what has changed since.
-/

open Program

namespace Sumurai

/-- A session, and what serves it. -/
structure SessionContext where
  locale : Locale
  /-- The providers that are registered. -/
  registered : String → Bool
  /-- `Uuid::parse_str`. -/
  parseStr : String → Option Uuid
  /-- The hash of `DefaultHasher` over the ids of an account filter. -/
  hash : List Uuid → UInt64
  userId : Uuid
  jwtId : Uuid

/-- The response of an overview. -/
inductive OverviewResponse where
  | balancesOverview (response : BalancesOverviewResponse)
  | netWorthOverTime (series : List NetWorthSeriesPoint)
deriving DecidableEq, Repr

/-- A cached response. -/
structure CachedOverview where
  response : OverviewResponse
  /-- The databases before the present one, since the response was computed. The latest is first. -/
  before : List Store

/-- The database, and the cache of the session. -/
structure OverviewSession where
  db : Store
  cache : OverviewKey → Option CachedOverview

/-- A session that has cached nothing. -/
def OverviewSession.start (db : Store) : OverviewSession where
  db := db
  cache _ := none

/-! ### The operations -/

/-- An operation that changes the database, with what its environment chooses. -/
inductive SessionOperation where
  | connectTellerProvider (request : ProviderConnectRequest) (env : ℕ → ConnectReply)
  | exchangePublicToken (provider publicToken : String) (env : ℕ → ConnectReply)
  | syncConnectionById (connectionId : Uuid) (env : ℕ → Reply)
  | disconnectConnectionById (connectionId : Uuid) (env : ℕ → Reply)
  | markTransactionDuplicate (transactionId : Uuid) (now : Timestamp) (databaseUp : Bool)
  | manual (request : ManualRequest) (e : ManualReply)

/-- What an operation does. -/
structure Performed where
  db : Store
  /-- The patterns whose keys it removes. -/
  invalidated : List (List Char)

section Patterns

variable (jwtId : Uuid)

/-- The patterns of `complete_sync_with_jwt_cache_update`. -/
def completeSyncPatterns : List (List Char) :=
  [balancesOverviewPattern jwtId, bankAccountsPattern jwtId]

/-- The patterns of `clear_all_plaid_cache_data` and `clear_jwt_scoped_bank_connection_cache`. -/
def disconnectPatterns (connectionId : Uuid) : List (List Char) :=
  [balancesOverviewKey jwtId, netWorthPattern jwtId, bankConnectionKey jwtId connectionId,
    bankAccountsKey jwtId connectionId]

/-- The patterns of `invalidate_account_overview_cache`. -/
def accountOverviewPatterns : List (List Char) :=
  [balancesOverviewPattern jwtId, netWorthPattern jwtId]

end Patterns

namespace SessionContext

variable (S : SessionContext) (db : Store)

/-- The run of a Teller connect. -/
def connectRun (request : ProviderConnectRequest) (env : ℕ → ConnectReply) :
    World × Except TellerConnectError ProviderConnectResponse :=
  let run := (connectTellerProvider S.registered S.parseStr S.userId request).run
    (connectExec S.locale) env ⟨db, 0, []⟩
  (run.1, run.2.1)

/-- The run of the exchange of a public token. -/
def exchangeRun (provider publicToken : String) (env : ℕ → ConnectReply) :
    World × Except ExchangeTokenError ExchangeTokenResponse :=
  let run := (exchangePublicToken S.registered provider S.userId publicToken).run
    (connectExec S.locale) env ⟨db, 0, []⟩
  (run.1, run.2.1)

/-- The run of a sync. -/
def syncRun (connectionId : Uuid) (env : ℕ → Reply) :
    World × Except ConnectionSyncError SyncTransactionsResponse :=
  let run := (syncConnectionById S.registered S.userId connectionId).run (exec S.locale) env
    ⟨db, 0, []⟩
  (run.1, run.2.1)

/-- The run of a disconnect. -/
def disconnectRun (connectionId : Uuid) (env : ℕ → Reply) :
    World × Except DisconnectError DisconnectResult :=
  let run := (disconnectConnectionById S.userId connectionId).run (exec S.locale) env ⟨db, 0, []⟩
  (run.1, run.2.1)

/-- A Teller connect has stored an account. -/
def connectStores (request : ProviderConnectRequest) (env : ℕ → ConnectReply) : Bool :=
  writtenAccounts (S.connectRun db request env).1.calls ≠ []

/-- A sync succeeds. -/
def syncSucceeds (connectionId : Uuid) (env : ℕ → Reply) : Bool :=
  (S.syncRun db connectionId env).2.isOk

/-- A disconnect has found its connection, and gone on to clear the caches. -/
def disconnectFinds (connectionId : Uuid) (env : ℕ → Reply) : Bool :=
  (S.disconnectRun db connectionId env).1.calls.any fun c ↦ c.call = .clearBankConnectionCache

/-- What an operation does. -/
def perform : SessionOperation → Performed
  | .connectTellerProvider request env =>
    { db := (S.connectRun db request env).1.db
      invalidated := if S.connectStores db request env then completeSyncPatterns S.jwtId else [] }
  | .exchangePublicToken provider publicToken env =>
    { db := (S.exchangeRun db provider publicToken env).1.db
      invalidated := [] }
  | .syncConnectionById connectionId env =>
    { db := (S.syncRun db connectionId env).1.db
      invalidated := if S.syncSucceeds db connectionId env then completeSyncPatterns S.jwtId
        else [] }
  | .disconnectConnectionById connectionId env =>
    { db := (S.disconnectRun db connectionId env).1.db
      invalidated :=
        if S.disconnectFinds db connectionId env then disconnectPatterns S.jwtId connectionId
        else [] }
  | .markTransactionDuplicate transactionId now databaseUp =>
    { db :=
        if databaseUp then
          match Sumurai.markTransactionDuplicate S.locale db now transactionId S.userId with
          | .ok db' => db'
          | .error _ => db
        else db
      invalidated := [] }
  | .manual request e =>
    { db := (serveManual db e S.userId request).1
      invalidated :=
        if (serveManual db e S.userId request).2.succeeded then accountOverviewPatterns S.jwtId
        else [] }

end SessionContext

/-! ### The reads -/

/-- A request for an overview, its dates parsed. -/
inductive OverviewRequest where
  | balancesOverview (accountIds : List String)
  | netWorthOverTime (startDate endDate : NaiveDate) (accountIds : List String)
deriving DecidableEq, Repr

/-- How a read ends without a response. -/
inductive ReadFailure where
  | badRequest
  | forbidden
  | internalServerError
  /-- The request's task panics. -/
  | panicked
  /-- The loop over the days is still running. -/
  | running
deriving DecidableEq, Repr

/-- The failures of the series. -/
def ReadFailure.ofAbort : Abort → ReadFailure
  | .badRequest => .badRequest
  | .panicked => .panicked
  | .running => .running

/-- What the environment chooses at a read. -/
structure ReadReply where
  now : Timestamp
  /-- The turns that the loop over the days may take. -/
  fuel : ℕ
  /-- The database answers when the account filter is validated. -/
  ownershipUp : Bool
  /-- The database answers the queries of the overview. -/
  databaseUp : Bool
  /-- The cache answers a lookup. -/
  lookupUp : Bool
  /-- The cache stores a response. -/
  storeUp : Bool
  /-- The entry looked up has outlived its time. -/
  expired : Bool
deriving DecidableEq, Repr

namespace SessionContext

variable (S : SessionContext) (db : Store)

/-- `validate_account_ownership`. -/
def validateAccountOwnership (e : ReadReply) (accountIds : List String) :
    Except ReadFailure (List Uuid) :=
  match accountIds.mapM S.parseStr with
  | none => .error .badRequest
  | some accountIds =>
    if e.ownershipUp then
      if ∀ id ∈ accountIds, id ∈ (getAccountsForUser S.locale db S.userId).map Account.id then
        .ok accountIds
      else .error .forbidden
    else .error .internalServerError

/-- The account filter of a request. Without ids there is none. -/
def accountFilter (e : ReadReply) (accountIds : List String) :
    Except ReadFailure (Option (List Uuid)) :=
  if accountIds = [] then .ok none
  else (S.validateAccountOwnership db e accountIds).map some

/-- The read of a request that is valid. -/
def validate (e : ReadReply) : OverviewRequest → Except ReadFailure OverviewRead
  | .balancesOverview accountIds => (S.accountFilter db e accountIds).map .balancesOverview
  | .netWorthOverTime startDate endDate accountIds =>
    if endDate < startDate then .error .badRequest
    else (S.accountFilter db e accountIds).map (.netWorthOverTime startDate endDate)

/-- What the scan over the accounts of a net-worth series collects. -/
def scan (accountIds : Option (List Uuid)) : AccountScan :=
  (getAccountsForUser S.locale db S.userId).foldl (scanAccount accountIds) AccountScan.empty

/-- The response of a read that the cache does not answer, and whether it is stored: a series
without accounts is returned before. -/
def compute (e : ReadReply) : OverviewRead → Except ReadFailure (OverviewResponse × Bool)
  | .balancesOverview accountIds =>
    if e.databaseUp then
      .ok (.balancesOverview (getAuthenticatedBalancesOverview S.locale db S.userId accountIds),
        true)
    else .error .internalServerError
  | .netWorthOverTime startDate endDate accountIds =>
    if e.databaseUp then
      match getAuthenticatedNetWorthOverTime S.locale db S.userId accountIds e.now startDate endDate
        e.fuel with
      | .ok series =>
        let scan := S.scan db accountIds
        .ok (.netWorthOverTime series, !(scan.depositoryIds = [] && scan.staticCurrentById = []))
      | .error abort => .error (.ofAbort abort)
    else .error .internalServerError

end SessionContext

/-- The cached response is one of the kind that a read deserializes. -/
def OverviewRead.accepts : OverviewRead → OverviewResponse → Bool
  | balancesOverview _, .balancesOverview _ => true
  | netWorthOverTime _ _ _, .netWorthOverTime _ => true
  | _, _ => false

/-- What a read finds in the cache. -/
def OverviewSession.lookup (S : SessionContext) (s : OverviewSession) (r : OverviewRead) :
    Option CachedOverview :=
  (s.cache (r.key S.hash S.jwtId)).filter fun cached ↦ r.accepts cached.response

/-- A read of a valid request: the session after it, and its answer. -/
def OverviewSession.readValid (S : SessionContext) (s : OverviewSession) (e : ReadReply)
    (r : OverviewRead) : OverviewSession × Except ReadFailure OverviewResponse :=
  let key := r.key S.hash S.jwtId
  let s := if e.expired then { s with cache := Function.update s.cache key none } else s
  match if e.lookupUp then s.lookup S r else none with
  | some cached => (s, .ok cached.response)
  | none =>
    match S.compute s.db e r with
    | .error failure => (s, .error failure)
    | .ok (response, stored) =>
      if stored && e.storeUp then
        ({ s with cache := Function.update s.cache key (some ⟨response, []⟩) }, .ok response)
      else (s, .ok response)

/-- `get_authenticated_balances_overview` and `get_authenticated_net_worth_over_time`, on a
cache. -/
def OverviewSession.read (S : SessionContext) (s : OverviewSession) (request : OverviewRequest)
    (e : ReadReply) : OverviewSession × Except ReadFailure OverviewResponse :=
  match S.validate s.db e request with
  | .error failure => (s, .error failure)
  | .ok r => s.readValid S e r

/-! ### The steps of a session -/

/-- A step of a session. -/
inductive OverviewStep where
  /-- An operation, and the keys for which the cache answers its removals. -/
  | operate (op : SessionOperation) (answers : OverviewKey → Bool)
  | read (request : OverviewRequest) (e : ReadReply)

/-- The removals of an operation reach a key. -/
def Performed.removes (performed : Performed) (answers : OverviewKey → Bool) (key : OverviewKey) :
    Bool :=
  performed.invalidated.any (Glob.isMatch · key) && answers key

/-- One step of a session. -/
def overviewStep (S : SessionContext) (s : OverviewSession) : OverviewStep → OverviewSession
  | .operate op answers =>
    let performed := S.perform s.db op
    { db := performed.db
      cache := fun key ↦
        if performed.removes answers key then none
        else (s.cache key).map fun cached ↦ { cached with before := s.db :: cached.before } }
  | .read request e => (s.read S request e).1

end Sumurai
