import Sumurai.Models.Basic

/-!
# The records and the tables

One structure per record of `models/` and per table of `migrations/`, and the `Store` of the
tables the financial core reads and writes. A table is the list of its rows in physical
order, the order in which PostgreSQL breaks the ties that an `ORDER BY` leaves.

`Transaction` is the record the providers and handlers pass around, and `TransactionRow` the
table's row: the record has the provider's account id, which is never stored, and the row has
the duplicate-review columns, which no record carries.
-/

namespace Sumurai

/-- `models::account::Account`, and a row of `accounts`. -/
structure Account where
  id : Uuid
  userId : Option Uuid
  providerAccountId : Option String
  providerConnectionId : Option Uuid
  name : String
  accountType : String
  balanceCurrent : Option Decimal
  mask : Option String
  institutionName : Option String
  updatedAt : Option Timestamp
deriving DecidableEq, Repr

/-- `models::transaction::Transaction`. -/
structure Transaction where
  id : Uuid
  accountId : Uuid
  userId : Option Uuid
  providerAccountId : Option String
  providerTransactionId : Option String
  amount : Decimal
  date : NaiveDate
  merchantName : Option String
  categoryPrimary : String
  categoryDetailed : String
  categoryConfidence : String
  paymentChannel : Option String
  pending : Bool
  createdAt : Option Timestamp
deriving DecidableEq, Repr

/-- A row of `transactions`. -/
structure TransactionRow where
  id : Uuid
  accountId : Uuid
  userId : Option Uuid
  providerTransactionId : Option String
  amount : Decimal
  date : NaiveDate
  merchantName : Option String
  categoryPrimary : String
  categoryDetailed : String
  categoryConfidence : String
  paymentChannel : Option String
  pending : Bool
  createdAt : Option Timestamp
  duplicateOfTransactionId : Option Uuid
  duplicateReviewedAt : Option Timestamp
  duplicateReviewedBy : Option Uuid
deriving DecidableEq, Repr

/-- The record read back from a row. -/
def TransactionRow.toTransaction (r : TransactionRow) : Transaction where
  id := r.id
  accountId := r.accountId
  userId := r.userId
  providerAccountId := none
  providerTransactionId := r.providerTransactionId
  amount := r.amount
  date := r.date
  merchantName := r.merchantName
  categoryPrimary := r.categoryPrimary
  categoryDetailed := r.categoryDetailed
  categoryConfidence := r.categoryConfidence
  paymentChannel := r.paymentChannel
  pending := r.pending
  createdAt := r.createdAt

/-- `models::transaction::TransactionWithAccount`. The rule fields are left empty by the query and
filled in by its caller. -/
structure TransactionWithAccount extends Transaction where
  accountName : String
  accountType : String
  accountMask : Option String
  provider : Option String
  customCategory : Option String
  customSubcategory : Option String
  ruleCategory : Option String
  ruleSubcategory : Option String
deriving DecidableEq, Repr

/-- A row of `transaction_category_overrides`. -/
structure TransactionCategoryOverride where
  transactionId : Uuid
  userId : Uuid
  categoryName : String
  subcategoryName : Option String
  createdAt : Option Timestamp
deriving DecidableEq, Repr

/-- A row of `manual_account_balance_history`. -/
structure ManualAccountBalanceHistoryRow where
  accountId : Uuid
  userId : Uuid
  asOfDate : NaiveDate
  balanceCurrent : Decimal
deriving DecidableEq, Repr

/-- A row of `plaid_credentials`. The token is shown decrypted. -/
structure PlaidCredentials where
  id : Uuid
  userId : Option Uuid
  itemId : String
  accessToken : String
deriving DecidableEq, Repr

/-- `models::plaid::ProviderConnection`, and a row of `provider_connections`. -/
structure ProviderConnection where
  id : Uuid
  userId : Uuid
  itemId : String
  isConnected : Bool
  lastSyncAt : Option Timestamp
  connectedAt : Option Timestamp
  disconnectedAt : Option Timestamp
  institutionId : Option String
  institutionName : Option String
  transactionCount : ℤ
  accountCount : ℤ
  status : String
  lastSyncError : Option String
  createdAt : Option Timestamp
  updatedAt : Option Timestamp
deriving DecidableEq, Repr

/-- A row of `amazon_receipts`, as far as the backend touches it. -/
structure AmazonReceipt where
  id : Uuid
  userId : Option Uuid
  orderId : String
  amount : Decimal
  matchedTransactionId : Option Uuid
deriving DecidableEq, Repr

/-- The tables of the financial core. -/
structure Store where
  accounts : List Account
  transactions : List TransactionRow
  transactionCategoryOverrides : List TransactionCategoryOverride
  manualAccountBalanceHistory : List ManualAccountBalanceHistoryRow
  plaidCredentials : List PlaidCredentials
  providerConnections : List ProviderConnection
  amazonReceipts : List AmazonReceipt
deriving DecidableEq, Repr

/-- The store without rows. -/
def Store.empty : Store where
  accounts := []
  transactions := []
  transactionCategoryOverrides := []
  manualAccountBalanceHistory := []
  plaidCredentials := []
  providerConnections := []
  amazonReceipts := []

end Sumurai
