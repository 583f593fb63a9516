import Mathlib.Data.List.Lex
import Sumurai.Foundations.OrderBy
import Sumurai.Models.Schema

/-!
# Account queries

The queries of `repository_service.rs` that read accounts and their balances, and the statements
that write the accounts of a connection. Both account queries compute the balance they show: an
account without a stored balance that is a credit card shows the sum of its posted transactions,
negated, unless that sum is zero.

## What is proved

`getLatestAccountBalancesForUser_eq_map` says that the two queries read the same rows in the
same order with the same balances, so that a figure computed from one of them is a figure
computed from the other. `mem_accountRowsForUser` and `getAccountsForUser_ids_nodup` are what the
analytics use of a user's account list.
-/

namespace Sumurai

/-- A row of `LatestAccountBalance`. -/
structure LatestAccountBalance where
  accountId : Uuid
  institutionId : String
  accountType : String
  accountSubtype : Option String
  currency : String
  currentBalance : Decimal
  providerConnectionId : Option Uuid
  institutionName : Option String
deriving DecidableEq, Repr

/-- `ManualAccountBalanceHistoryPoint`. -/
structure ManualAccountBalanceHistoryPoint where
  accountId : Uuid
  asOfDate : NaiveDate
  balanceCurrent : Decimal
deriving DecidableEq, Repr

/-- `NULLIF(COALESCE(SUM(-t.amount), 0), 0)` over the posted transactions of an account. -/
def postedCreditBalance (db : Store) (a : Account) : Option Decimal :=
  let total := ((db.transactions.filter fun t ↦
    t.accountId = a.id ∧ t.userId.isSome ∧ t.userId = a.userId ∧ t.pending = false).map
      fun t ↦ -t.amount).sum
  if total = 0 then none else some total

/-- The balance both account queries show: the stored one, or that of a credit card's posted
transactions. -/
def shownBalance (L : Locale) (db : Store) (a : Account) : Option Decimal :=
  match a.balanceCurrent with
  | some b => some b
  | none =>
    if L.lowerString a.accountType = "credit".toList ∨
        L.lowerString a.accountType = "credit card".toList then
      postedCreditBalance db a
    else none

/-- `LEFT JOIN provider_connections`: the institution name of an account's connection. -/
def connectionInstitutionName (db : Store) (a : Account) : Option String :=
  a.providerConnectionId.bind fun c ↦
    (db.providerConnections.find? fun pc ↦ pc.id = c).bind ProviderConnection.institutionName

/-- `WHERE a.user_id = $1 ORDER BY a.name`. -/
def accountRowsForUser (L : Locale) (db : Store) (userId : Uuid) : List Account :=
  (db.accounts.filter fun a ↦ a.userId = some userId).insertionSort
    (OrderBy.asc fun a ↦ L.collationKey a.name)

/-- `get_accounts_for_user`. -/
def getAccountsForUser (L : Locale) (db : Store) (userId : Uuid) : List Account :=
  (accountRowsForUser L db userId).map fun a ↦
    { a with
      balanceCurrent := shownBalance L db a
      institutionName := a.institutionName.or (connectionInstitutionName db a) }

/-- `get_latest_account_balances_for_user`. -/
def getLatestAccountBalancesForUser (L : Locale) (db : Store) (userId : Uuid) :
    List LatestAccountBalance :=
  (accountRowsForUser L db userId).map fun a ↦
    { accountId := a.id
      institutionId :=
        (a.institutionName.or (connectionInstitutionName db a)).getD "unknown_institution"
      accountType := a.accountType
      accountSubtype := none
      currency := "USD"
      currentBalance := (shownBalance L db a).getD 0
      providerConnectionId := a.providerConnectionId
      institutionName := a.institutionName.or (connectionInstitutionName db a) }

/-- `get_manual_account_balance_history_for_user`: `WHERE user_id = $1 AND as_of_date <= $2
ORDER BY account_id, as_of_date`. -/
def getManualAccountBalanceHistoryForUser (db : Store) (userId : Uuid) (endDate : NaiveDate) :
    List ManualAccountBalanceHistoryPoint :=
  ((db.manualAccountBalanceHistory.filter fun h ↦
      h.userId = userId ∧ h.asOfDate ≤ endDate).insertionSort
    (OrderBy.thenBy (OrderBy.asc fun h ↦ h.accountId) (OrderBy.asc fun h ↦ h.asOfDate))).map
    fun h ↦ { accountId := h.accountId, asOfDate := h.asOfDate, balanceCurrent := h.balanceCurrent }

/-! ### What the queries return -/

variable (L : Locale) (db : Store) (userId : Uuid)

/-- **The two account queries read the same rows**: the balances query is the account query with
a missing balance shown as zero and a missing institution shown by name. -/
theorem getLatestAccountBalancesForUser_eq_map :
    getLatestAccountBalancesForUser L db userId =
      (getAccountsForUser L db userId).map fun a ↦
        { accountId := a.id
          institutionId := a.institutionName.getD "unknown_institution"
          accountType := a.accountType
          accountSubtype := none
          currency := "USD"
          currentBalance := a.balanceCurrent.getD 0
          providerConnectionId := a.providerConnectionId
          institutionName := a.institutionName } := by
  rw [getLatestAccountBalancesForUser, getAccountsForUser, List.map_map]
  rfl

theorem getAccountsForUser_map_id :
    (getAccountsForUser L db userId).map Account.id =
      (accountRowsForUser L db userId).map Account.id := by
  rw [getAccountsForUser, List.map_map]
  rfl

theorem mem_accountRowsForUser {a : Account} :
    a ∈ accountRowsForUser L db userId ↔ a ∈ db.accounts ∧ a.userId = some userId := by
  rw [accountRowsForUser, List.mem_insertionSort, List.mem_filter, decide_eq_true_iff]

/-- An account list has every account once. -/
theorem getAccountsForUser_ids_nodup (db : Database) (userId : Uuid) :
    ((getAccountsForUser L db.toStore userId).map Account.id).Nodup := by
  rw [getAccountsForUser_map_id]
  have hperm : (accountRowsForUser L db.toStore userId).Perm
      (db.accounts.filter fun a ↦ a.userId = some userId) :=
    List.perm_insertionSort _ _
  rw [(hperm.map Account.id).nodup_iff]
  exact db.keyed.accounts_pkey.sublist (List.filter_sublist.map _)

/-- The manual history that a query reads is the stored one, cut off at its end date. -/
theorem mem_getManualAccountBalanceHistoryForUser {endDate : NaiveDate}
    {p : ManualAccountBalanceHistoryPoint} :
    p ∈ getManualAccountBalanceHistoryForUser db userId endDate ↔
      p.asOfDate ≤ endDate ∧
        { accountId := p.accountId, userId := userId, asOfDate := p.asOfDate,
          balanceCurrent := p.balanceCurrent } ∈ db.manualAccountBalanceHistory := by
  rw [getManualAccountBalanceHistoryForUser, List.mem_map]
  constructor
  · rintro ⟨h, hmem, rfl⟩
    rw [List.mem_insertionSort, List.mem_filter, decide_eq_true_iff] at hmem
    obtain ⟨hdb, rfl, hle⟩ := hmem
    exact ⟨hle, hdb⟩
  · rintro ⟨hle, hdb⟩
    refine ⟨⟨p.accountId, userId, p.asOfDate, p.balanceCurrent⟩, ?_, rfl⟩
    rw [List.mem_insertionSort, List.mem_filter, decide_eq_true_iff]
    exact ⟨hdb, rfl, hle⟩

/-- A manual history has at most one point for an account and a day. -/
theorem getManualAccountBalanceHistoryForUser_key_nodup (db : Database) (userId : Uuid)
    (endDate : NaiveDate) :
    ((getManualAccountBalanceHistoryForUser db.toStore userId endDate).map
      fun p ↦ (p.accountId, p.asOfDate)).Nodup := by
  rw [getManualAccountBalanceHistoryForUser, List.map_map]
  have hperm := List.perm_insertionSort
    (OrderBy.thenBy (OrderBy.asc fun h : ManualAccountBalanceHistoryRow ↦ h.accountId)
      (OrderBy.asc fun h ↦ h.asOfDate))
    (db.manualAccountBalanceHistory.filter fun h ↦ h.userId = userId ∧ h.asOfDate ≤ endDate)
  rw [(hperm.map _).nodup_iff]
  exact db.keyed.manualAccountBalanceHistory_key.sublist (List.filter_sublist.map _)

/-! ### Writing accounts -/

/-- The foreign key of `accounts.provider_connection_id` holds for an account. -/
def hasConnection (db : Store) (a : Account) : Bool :=
  a.providerConnectionId.all fun c ↦ c ∈ db.providerConnections.map ProviderConnection.id

/-- The row of a provider account id: the one an upsert conflicts with. -/
def conflictsWith (a r : Account) : Bool :=
  r.providerAccountId.isSome && r.providerAccountId == a.providerAccountId

/-- `upsert_account`. On a known provider account id the row keeps its id and its user, and its
balance if none is given. -/
def upsertAccount (db : Store) (now : Timestamp) (a : Account) : Except DbError Store :=
  if db.accounts.any (conflictsWith a) then
    if hasConnection db a then
      .ok { db with
        accounts := db.accounts.map fun r ↦
          if conflictsWith a r then
            { r with
              providerConnectionId := a.providerConnectionId
              name := a.name
              accountType := a.accountType
              balanceCurrent := a.balanceCurrent.or r.balanceCurrent
              mask := a.mask
              institutionName := a.institutionName
              updatedAt := some now }
          else r }
    else .error .foreignKeyViolation
  else if a.id ∈ db.accounts.map Account.id then .error .uniqueViolation
  else if hasConnection db a then
    .ok { db with accounts := db.accounts ++ [{ a with updatedAt := some now }] }
  else .error .foreignKeyViolation

/-- `DELETE FROM accounts`, with what the foreign keys do: the balance history goes with its
account, and an account that a transaction still belongs to cannot go. -/
def deleteAccounts (db : Store) (doomed : Account → Bool) : Except DbError Store :=
  let gone := (db.accounts.filter doomed).map Account.id
  if db.transactions.any fun t ↦ t.accountId ∈ gone then .error .foreignKeyViolation
  else
    .ok { db with
      accounts := db.accounts.filter fun a ↦ !doomed a
      manualAccountBalanceHistory := db.manualAccountBalanceHistory.filter fun h ↦
        h.accountId ∉ gone }

/-- The rows of `ranked_accounts`: the provider accounts of a user on a connection. -/
def rankedAccounts (db : Store) (userId connectionId : Uuid) : List Account :=
  db.accounts.filter fun a ↦
    a.userId = some userId && a.providerConnectionId = some connectionId &&
      a.providerAccountId.isSome

/-- `PARTITION BY provider_connection_id, LOWER(name), COALESCE(mask, ''), account_type`. -/
def samePartition (L : Locale) (a b : Account) : Bool :=
  a.providerConnectionId = b.providerConnectionId && L.lowerString a.name = L.lowerString b.name &&
    a.mask.getD "" = b.mask.getD "" && a.accountType = b.accountType

/-- `ORDER BY (balance_current IS NOT NULL) DESC, updated_at DESC, id DESC`. -/
abbrev canonicalFirst : Account → Account → Prop :=
  OrderBy.thenBy (OrderBy.desc fun a ↦ a.balanceCurrent.isSome)
    (OrderBy.thenBy (OrderBy.desc fun a ↦ OrderBy.nullable a.updatedAt)
      (OrderBy.desc fun a ↦ a.id))

/-- `FIRST_VALUE(id)`: the canonical account of an account's partition. -/
def canonicalAccount (L : Locale) (db : Store) (userId connectionId : Uuid) (a : Account) :
    Option Account :=
  (((rankedAccounts db userId connectionId).filter (samePartition L a)).insertionSort
    canonicalFirst).head?

/-- `duplicate_accounts`: the accounts that are not the first of their partition, with the one that
is. -/
def duplicateAccounts (L : Locale) (db : Store) (userId connectionId : Uuid) : List (Uuid × Uuid) :=
  (rankedAccounts db userId connectionId).filterMap fun a ↦
    match canonicalAccount L db userId connectionId a with
    | some c => if c.id = a.id then none else some (a.id, c.id)
    | none => none

/-- `moved_transactions`: the user's transactions of a duplicate account go to the canonical one. -/
def moveTransactions (db : Store) (userId : Uuid) (duplicates : List (Uuid × Uuid)) : Store :=
  { db with
    transactions := db.transactions.map fun t ↦
      match duplicates.lookup t.accountId with
      | some canonicalId => if t.userId = some userId then { t with accountId := canonicalId }
        else t
      | none => t }

/-- `merge_duplicate_provider_accounts`: the store without the duplicate accounts, and their
number. -/
def mergeDuplicateProviderAccounts (L : Locale) (db : Store) (userId connectionId : Uuid) :
    Except DbError (Store × ℕ) := do
  let duplicates := duplicateAccounts L db userId connectionId
  let db' ← deleteAccounts (moveTransactions db userId duplicates) fun a ↦
    a.id ∈ duplicates.map Prod.fst
  return (db', duplicates.length)

end Sumurai
