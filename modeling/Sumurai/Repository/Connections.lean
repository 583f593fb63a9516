import Sumurai.Repository.Accounts
import Sumurai.Repository.Duplicates

/-!
# Connections and credentials

The statements of `repository_service.rs` on `provider_connections` and `plaid_credentials`, and
those that delete what belongs to a connection. Saving a connection is an upsert by item id, for the
first save of a connection and for every later one.

The two deletions by item id look the connection up first, in a statement of its own; that is
`connectionIdOfItem`.
-/

namespace Sumurai

/-! ### Reading -/

/-- `get_provider_connection_by_id`. The user is not part of the condition. -/
def getProviderConnectionById (db : Store) (connectionId : Uuid) : Option ProviderConnection :=
  db.providerConnections.find? fun c ↦ c.id = connectionId

/-- `get_all_provider_connections_by_user`: `WHERE user_id = $1 ORDER BY created_at DESC`. -/
def getAllProviderConnectionsByUser (db : Store) (userId : Uuid) : List ProviderConnection :=
  (db.providerConnections.filter fun c ↦ c.userId = userId).insertionSort
    (OrderBy.desc fun c ↦ OrderBy.nullable c.createdAt)

/-- `SELECT id FROM provider_connections WHERE item_id = $1`. -/
def connectionIdOfItem (db : Store) (itemId : String) : Option Uuid :=
  (db.providerConnections.find? fun c ↦ c.itemId = itemId).map ProviderConnection.id

/-- `get_provider_credentials_for_user`. The record carries the user it was asked for. -/
def getProviderCredentialsForUser (db : Store) (userId : Uuid) (itemId : String) :
    Option PlaidCredentials :=
  (db.plaidCredentials.find? fun c ↦ c.itemId = itemId).map fun c ↦ { c with userId := some userId }

/-! ### Writing -/

/-- `store_provider_credentials_for_user`: `ON CONFLICT (item_id) DO UPDATE`, which gives the row of
the item the user and the token. -/
def storeProviderCredentialsForUser (db : Store) (id userId : Uuid) (itemId accessToken : String) :
    Store :=
  if db.plaidCredentials.any fun r ↦ r.itemId = itemId then
    { db with
      plaidCredentials := db.plaidCredentials.map fun r ↦
        if r.itemId = itemId then { r with userId := some userId, accessToken := accessToken }
        else r }
  else
    { db with plaidCredentials := db.plaidCredentials ++ [⟨id, some userId, itemId, accessToken⟩] }

/-- `save_provider_connection`: `ON CONFLICT (item_id) DO UPDATE`, which keeps the id, the user and
the creation time of the row. -/
def saveProviderConnection (db : Store) (c : ProviderConnection) : Except DbError Store :=
  if db.providerConnections.any fun r ↦ r.itemId = c.itemId then
    .ok { db with
      providerConnections := db.providerConnections.map fun r ↦
        if r.itemId = c.itemId then
          { c with id := r.id, userId := r.userId, createdAt := r.createdAt }
        else r }
  else if c.id ∈ db.providerConnections.map ProviderConnection.id then .error .uniqueViolation
  else .ok { db with providerConnections := db.providerConnections ++ [c] }

/-- `delete_provider_transactions`, the deletion: the transactions of a connection's accounts, and
their number. -/
def deleteTransactionsOfConnection (db : Store) (connectionId : Uuid) : Store × ℕ :=
  (deleteTransactions db (onConnection db connectionId),
    (db.transactions.filter (onConnection db connectionId)).length)

/-- `delete_provider_accounts`, the deletion: the accounts of a connection, and their number. -/
def deleteAccountsOfConnection (db : Store) (connectionId : Uuid) : Except DbError (Store × ℕ) := do
  let doomed := fun a : Account ↦ decide (a.providerConnectionId = some connectionId)
  let db' ← deleteAccounts db doomed
  return (db', (db.accounts.filter doomed).length)

/-- `delete_provider_credentials`. -/
def deleteProviderCredentials (db : Store) (itemId : String) : Store :=
  { db with plaidCredentials := db.plaidCredentials.filter fun c ↦ c.itemId ≠ itemId }

/-- `delete_provider_connection`. The accounts of the connection go with it. -/
def deleteProviderConnection (db : Store) (userId : Uuid) (itemId : String) :
    Except DbError Store := do
  let doomed := fun c : ProviderConnection ↦ decide (c.userId = userId ∧ c.itemId = itemId)
  let gone := (db.providerConnections.filter doomed).map ProviderConnection.id
  let db' ← deleteAccounts db fun a ↦ a.providerConnectionId.any fun c ↦ c ∈ gone
  return { db' with providerConnections := db.providerConnections.filter fun c ↦ !doomed c }

end Sumurai
