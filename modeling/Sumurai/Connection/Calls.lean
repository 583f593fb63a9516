import Sumurai.Foundations.Programs
import Sumurai.Repository.Connections

/-!
# The calls of the connection service

What `connection_service.rs` does is a program over calls: to the clock, to the provider, to the
cache and to the repository. `ServiceCall` lists them with the arguments the service passes, and
`exec` says what each does to the `World`.

The environment of a call (`Reply`) chooses what the code does not determine: the reading of the
clock, what the provider and the cache answer, and whether the database answers at all. A repository
call on a database that answers is the statement of the repository; on one that does not, it is an
error and changes nothing. The world keeps the calls that were made, each with the store it found
and its answer.
-/

namespace Sumurai

/-- `providers::ProviderCredentials`, as far as the service fills it in. -/
structure ProviderCredentials where
  provider : String
  accessToken : String
  itemId : String
deriving DecidableEq, Repr

/-- A call of the connection service. -/
inductive ServiceCall where
  /-- `Utc::now`. -/
  | now
  /-- `FinancialDataProvider::get_accounts`. -/
  | getAccounts (credentials : ProviderCredentials)
  /-- `FinancialDataProvider::get_transactions`. -/
  | getTransactions (credentials : ProviderCredentials) (startDate endDate : NaiveDate)
  /-- `clear_jwt_scoped_bank_connection_cache`, the one cache call whose failure is passed on. -/
  | clearBankConnectionCache
  | getProviderConnectionById (connectionId : Uuid)
  | getAllProviderConnectionsByUser (userId : Uuid)
  | connectionIdOfItem (itemId : String)
  | getProviderCredentialsForUser (userId : Uuid) (itemId : String)
  | upsertAccount (a : Account)
  | mergeDuplicateProviderAccounts (userId connectionId : Uuid)
  | getAccountsForUser (userId : Uuid)
  | upsertTransaction (t : Transaction)
  | mergeDuplicateProviderTransactions (userId connectionId : Uuid)
  | autoResolvePendingDuplicates (userId : Uuid) (connectionId : Option Uuid)
  | getTransactionsForUser (userId : Uuid)
  | saveProviderConnection (c : ProviderConnection)
  | deleteTransactionsOfConnection (connectionId : Uuid)
  | deleteAccountsOfConnection (connectionId : Uuid)
  | deleteProviderCredentials (itemId : String)
  | deleteProviderConnection (userId : Uuid) (itemId : String)
deriving DecidableEq, Repr

/-- What a call is answered with. -/
abbrev ServiceCall.Answer : ServiceCall → Type
  | now => Timestamp
  | getAccounts _ => Except String (List Account)
  | getTransactions _ _ _ => Except String (List Transaction)
  | clearBankConnectionCache => Except String Unit
  | getProviderConnectionById _ => Except DbError (Option ProviderConnection)
  | getAllProviderConnectionsByUser _ => Except DbError (List ProviderConnection)
  | connectionIdOfItem _ => Except DbError (Option Uuid)
  | getProviderCredentialsForUser _ _ => Except DbError (Option PlaidCredentials)
  | upsertAccount _ => Except DbError Unit
  | mergeDuplicateProviderAccounts _ _ => Except DbError ℕ
  | getAccountsForUser _ => Except DbError (List Account)
  | upsertTransaction _ => Except DbError Unit
  | mergeDuplicateProviderTransactions _ _ => Except DbError ℕ
  | autoResolvePendingDuplicates _ _ => Except DbError ℕ
  | getTransactionsForUser _ => Except DbError (List Transaction)
  | saveProviderConnection _ => Except DbError Unit
  | deleteTransactionsOfConnection _ => Except DbError ℕ
  | deleteAccountsOfConnection _ => Except DbError ℕ
  | deleteProviderCredentials _ => Except DbError Unit
  | deleteProviderConnection _ _ => Except DbError Unit

/-- What the environment chooses at a call. -/
structure Reply where
  now : Timestamp
  databaseUp : Bool
  accounts : Except String (List Account)
  transactions : Except String (List Transaction)
  cache : Except String Unit

/-- A call that was made, the store it was made on, and its answer. -/
structure CallMade where
  call : ServiceCall
  db : Store
  answer : call.Answer

/-- The database, the clock, and the calls made so far. -/
structure World where
  db : Store
  clock : Timestamp
  calls : List CallMade

/-- A program of the connection service. -/
abbrev ServiceProgram := Program ServiceCall ServiceCall.Answer

/-- A single call of the service. -/
def perform (call : ServiceCall) : ServiceProgram call.Answer :=
  Program.ask call

theorem calls_perform {P : ServiceCall → Prop} {call : ServiceCall} (h : P call) :
    (perform call).Calls P :=
  Program.calls_ask h

/-! ### What a call does -/

/-- A reading statement. -/
def readStatement {α : Type} (e : Reply) (db : Store) (a : α) : Store × Except DbError α :=
  if e.databaseUp then (db, .ok a) else (db, .error .unavailable)

/-- A writing statement that answers with a value. -/
def writeStatement {α : Type} (e : Reply) (db : Store) (result : Except DbError (Store × α)) :
    Store × Except DbError α :=
  if e.databaseUp then
    match result with
    | .ok (db', a) => (db', .ok a)
    | .error err => (db, .error err)
  else (db, .error .unavailable)

/-- A writing statement without a value. -/
def withUnit (result : Except DbError Store) : Except DbError (Store × Unit) :=
  result.map fun db ↦ (db, ())

/-- What a call does to the database, and what it answers. -/
def answer (L : Locale) (e : Reply) (db : Store) : (call : ServiceCall) → Store × call.Answer
  | .now => (db, e.now)
  | .getAccounts _ => (db, e.accounts)
  | .getTransactions _ _ _ => (db, e.transactions)
  | .clearBankConnectionCache => (db, e.cache)
  | .getProviderConnectionById connectionId =>
    readStatement e db (getProviderConnectionById db connectionId)
  | .getAllProviderConnectionsByUser userId =>
    readStatement e db (getAllProviderConnectionsByUser db userId)
  | .connectionIdOfItem itemId => readStatement e db (connectionIdOfItem db itemId)
  | .getProviderCredentialsForUser userId itemId =>
    readStatement e db (getProviderCredentialsForUser db userId itemId)
  | .upsertAccount a => writeStatement e db (withUnit (upsertAccount db e.now a))
  | .mergeDuplicateProviderAccounts userId connectionId =>
    writeStatement e db (mergeDuplicateProviderAccounts L db userId connectionId)
  | .getAccountsForUser userId => readStatement e db (getAccountsForUser L db userId)
  | .upsertTransaction t => writeStatement e db (withUnit (upsertTransaction db e.now t))
  | .mergeDuplicateProviderTransactions userId connectionId =>
    writeStatement e db (.ok (mergeDuplicateProviderTransactions L db userId connectionId))
  | .autoResolvePendingDuplicates userId connectionId =>
    writeStatement e db (.ok (autoResolvePendingDuplicates L db e.now userId connectionId))
  | .getTransactionsForUser userId => readStatement e db (getTransactionsForUser db userId)
  | .saveProviderConnection c => writeStatement e db (withUnit (saveProviderConnection db c))
  | .deleteTransactionsOfConnection connectionId =>
    writeStatement e db (.ok (deleteTransactionsOfConnection db connectionId))
  | .deleteAccountsOfConnection connectionId =>
    writeStatement e db (deleteAccountsOfConnection db connectionId)
  | .deleteProviderCredentials itemId =>
    writeStatement e db (.ok (deleteProviderCredentials db itemId, ()))
  | .deleteProviderConnection userId itemId =>
    writeStatement e db (withUnit (deleteProviderConnection db userId itemId))

/-- One call on the world. -/
def exec (L : Locale) (call : ServiceCall) (e : Reply) (w : World) : World × call.Answer :=
  ({ db := (answer L e w.db call).1
     clock := e.now
     calls := w.calls ++ [⟨call, w.db, (answer L e w.db call).2⟩] },
    (answer L e w.db call).2)

theorem exec_of_answer {L : Locale} {call : ServiceCall} {e : Reply} {w : World} {db : Store}
    {r : call.Answer} (h : answer L e w.db call = (db, r)) :
    exec L call e w = ({ db := db, clock := e.now, calls := w.calls ++ [⟨call, w.db, r⟩] }, r) := by
  simp only [exec, h]

/-! ### A small environment

On the connected checking account, with nothing new and nothing that fails. -/

/-- The connected checking account with its credentials. -/
def connectedDatabase : Database where
  toStore := { Store.empty with
    accounts := [checkingAccount]
    plaidCredentials := [⟨6, some 7, "item-1", "access-1"⟩]
    providerConnections := [checkingConnection] }
  keyed := by decide
  referential := by decide

/-- The answers of an environment in which nothing is new and nothing fails. -/
def quietReply : Reply where
  now := 0
  databaseUp := true
  accounts := .ok []
  transactions := .ok []
  cache := .ok ()

end Sumurai
