import Mathlib.Data.List.Nodup
import Sumurai.Models.Rows

/-!
# The constraints of the schema

What the migrations declare about the tables of the `Store`: the primary and unique keys, and the
foreign keys. A nullable unique column constrains only its non-null values, so its key is the list
of the values that are there.

A `Database` is a store that satisfies them, so that a result quantifying over databases assumes
nothing that PostgreSQL does not itself maintain. Both constraint structures are decidable, and a
concrete database is built by evaluating them.
-/

namespace Sumurai

/-- The primary and unique keys. -/
structure Store.Keyed (db : Store) : Prop where
  accounts_pkey : (db.accounts.map Account.id).Nodup
  accounts_providerAccountId_key : (db.accounts.filterMap Account.providerAccountId).Nodup
  transactions_pkey : (db.transactions.map TransactionRow.id).Nodup
  transactions_providerTransactionId_key :
    (db.transactions.filterMap TransactionRow.providerTransactionId).Nodup
  transactionCategoryOverrides_pkey :
    (db.transactionCategoryOverrides.map fun o ↦ (o.transactionId, o.userId)).Nodup
  manualAccountBalanceHistory_key :
    (db.manualAccountBalanceHistory.map fun h ↦ (h.accountId, h.asOfDate)).Nodup
  plaidCredentials_itemId_key : (db.plaidCredentials.map PlaidCredentials.itemId).Nodup
  providerConnections_pkey : (db.providerConnections.map ProviderConnection.id).Nodup
  providerConnections_itemId_key : (db.providerConnections.map ProviderConnection.itemId).Nodup

/-- The foreign keys. -/
structure Store.Referential (db : Store) : Prop where
  accounts_providerConnectionId_fkey : ∀ a ∈ db.accounts, ∀ c ∈ a.providerConnectionId,
    c ∈ db.providerConnections.map ProviderConnection.id
  transactions_accountId_fkey : ∀ t ∈ db.transactions, t.accountId ∈ db.accounts.map Account.id
  transactions_duplicateOfTransactionId_fkey : ∀ t ∈ db.transactions,
    ∀ d ∈ t.duplicateOfTransactionId, d ∈ db.transactions.map TransactionRow.id
  transactionCategoryOverrides_transactionId_fkey : ∀ o ∈ db.transactionCategoryOverrides,
    o.transactionId ∈ db.transactions.map TransactionRow.id
  manualAccountBalanceHistory_accountId_fkey : ∀ h ∈ db.manualAccountBalanceHistory,
    h.accountId ∈ db.accounts.map Account.id
  amazonReceipts_matchedTransactionId_fkey : ∀ r ∈ db.amazonReceipts,
    ∀ t ∈ r.matchedTransactionId, t ∈ db.transactions.map TransactionRow.id

instance (db : Store) : Decidable db.Keyed :=
  decidable_of_iff
    ((db.accounts.map Account.id).Nodup ∧
      (db.accounts.filterMap Account.providerAccountId).Nodup ∧
      (db.transactions.map TransactionRow.id).Nodup ∧
      (db.transactions.filterMap TransactionRow.providerTransactionId).Nodup ∧
      (db.transactionCategoryOverrides.map fun o ↦ (o.transactionId, o.userId)).Nodup ∧
      (db.manualAccountBalanceHistory.map fun h ↦ (h.accountId, h.asOfDate)).Nodup ∧
      (db.plaidCredentials.map PlaidCredentials.itemId).Nodup ∧
      (db.providerConnections.map ProviderConnection.id).Nodup ∧
      (db.providerConnections.map ProviderConnection.itemId).Nodup)
    ⟨fun ⟨h₁, h₂, h₃, h₄, h₅, h₆, h₇, h₈, h₉⟩ ↦ ⟨h₁, h₂, h₃, h₄, h₅, h₆, h₇, h₈, h₉⟩,
      fun h ↦ ⟨h.1, h.2, h.3, h.4, h.5, h.6, h.7, h.8, h.9⟩⟩

instance (db : Store) : Decidable db.Referential :=
  decidable_of_iff
    ((∀ a ∈ db.accounts, ∀ c ∈ a.providerConnectionId,
        c ∈ db.providerConnections.map ProviderConnection.id) ∧
      (∀ t ∈ db.transactions, t.accountId ∈ db.accounts.map Account.id) ∧
      (∀ t ∈ db.transactions, ∀ d ∈ t.duplicateOfTransactionId,
        d ∈ db.transactions.map TransactionRow.id) ∧
      (∀ o ∈ db.transactionCategoryOverrides,
        o.transactionId ∈ db.transactions.map TransactionRow.id) ∧
      (∀ h ∈ db.manualAccountBalanceHistory, h.accountId ∈ db.accounts.map Account.id) ∧
      (∀ r ∈ db.amazonReceipts, ∀ t ∈ r.matchedTransactionId,
        t ∈ db.transactions.map TransactionRow.id))
    ⟨fun ⟨h₁, h₂, h₃, h₄, h₅, h₆⟩ ↦ ⟨h₁, h₂, h₃, h₄, h₅, h₆⟩,
      fun h ↦ ⟨h.1, h.2, h.3, h.4, h.5, h.6⟩⟩

/-- The ways in which a repository call fails. -/
inductive DbError where
  /-- A primary or unique key is taken. -/
  | uniqueViolation
  /-- A referenced row is missing. -/
  | foreignKeyViolation
  /-- The call found no row to work on. -/
  | notFound
  /-- The database does not answer. -/
  | unavailable
deriving DecidableEq, Repr

/-- A store that satisfies the constraints of the schema. -/
structure Database extends Store where
  keyed : toStore.Keyed
  referential : toStore.Referential

/-- The database without rows. -/
def Database.empty : Database where
  toStore := Store.empty
  keyed := by decide
  referential := by decide

/-! ### A small database

One connected checking account, on which concrete runs are evaluated. -/

/-- A connected checking account with a balance of 100.00. -/
def checkingAccount : Account where
  id := 1
  userId := some 7
  providerAccountId := some "acc-1"
  providerConnectionId := some 5
  name := "Checking"
  accountType := "depository"
  balanceCurrent := some 10000
  mask := none
  institutionName := none
  updatedAt := none

/-- The connection of the checking account. -/
def checkingConnection : ProviderConnection where
  id := 5
  userId := 7
  itemId := "item-1"
  isConnected := true
  lastSyncAt := none
  connectedAt := none
  disconnectedAt := none
  institutionId := none
  institutionName := none
  transactionCount := 0
  accountCount := 0
  status := "connected"
  lastSyncError := none
  createdAt := none
  updatedAt := none

/-- A posted transaction of the checking account. -/
def checkingTransaction (id : Uuid) (date : NaiveDate) (amount : Decimal) : TransactionRow where
  id := id
  accountId := 1
  userId := some 7
  providerTransactionId := none
  amount := amount
  date := date
  merchantName := none
  categoryPrimary := "GENERAL"
  categoryDetailed := ""
  categoryConfidence := ""
  paymentChannel := none
  pending := false
  createdAt := none
  duplicateOfTransactionId := none
  duplicateReviewedAt := none
  duplicateReviewedBy := none

end Sumurai
