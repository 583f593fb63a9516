import Sumurai.Analytics.NetWorthPasses
import Sumurai.Analytics.Spending
import Sumurai.Repository.Transactions

/-!
# The transactions that the analytics see

The analytics endpoints compute on the transactions of `get_transactions_with_account_for_user`, of
which each keeps those of the accounts and of the dates it is asked about; the net-worth endpoint on
those of `get_transactions_by_date_range_for_user`, of which it keeps those of the depository
accounts it is asked about. Both queries return the newest 1000 of their rows, and the endpoints
filter after that.

`analyticsComplete_iff` says when the endpoints see all they are asked about: when no such
transaction comes after the first 1000 rows of its query. How many rows those are is a matter of all
the transactions of the user, also of those that the endpoint then drops.
-/

namespace Sumurai

/-! ### Category rules -/

/-- `matches_glob`. -/
def matchesGlob : List Char → List Char → Bool
  | [], [] => true
  | [], _ :: _ => false
  | '*' :: pattern, [] => matchesGlob pattern []
  | '*' :: pattern, c :: text => matchesGlob pattern (c :: text) ||
    matchesGlob ('*' :: pattern) text
  | '?' :: pattern, _ :: text => matchesGlob pattern text
  | p :: pattern, c :: text => p = c && matchesGlob pattern text
  | _ :: _, [] => false
termination_by pattern text => pattern.length + text.length

/-- `glob_match`. -/
def globMatch (pattern text : String) : Bool :=
  matchesGlob (toLowercase pattern) (toLowercase text)

/-- `CategoryRule`, as far as it is applied. -/
structure CategoryRule where
  pattern : String
  categoryName : String
  subcategoryName : Option String
deriving DecidableEq, Repr

/-- `apply_category_rules`, for one transaction: the first rule that matches. -/
def applyCategoryRules (rules : List CategoryRule) (t : TransactionWithAccount) :
    TransactionWithAccount :=
  if t.customCategory.isNone then
    match rules.find? fun rule ↦ globMatch rule.pattern (t.merchantName.getD "<null>") with
    | some rule =>
      { t with ruleCategory := some rule.categoryName, ruleSubcategory := rule.subcategoryName }
    | none => t
  else t

/-! ### What the endpoints compute on -/

section Endpoints

variable (L : Locale) (db : Store) (userId : Uuid) (rules : List CategoryRule)
  (accountIds : Option (List Uuid))

/-- The transactions that the analytics handlers hand on: the query, the account filter, and the
category rules. -/
def analyticsTransactions : List TransactionWithAccount :=
  ((getTransactionsWithAccountForUser db userId).filter fun t ↦
    isSelected accountIds t.accountId).map (applyCategoryRules rules)

/-- The transactions that a total over a range of dates is computed on. A range has both bounds, or
is not given. -/
def spendingTransactions (range : Option (NaiveDate × NaiveDate)) : List TransactionWithAccount :=
  (analyticsTransactions db userId rules accountIds).filter
    (inDateRange (range.map Prod.fst) (range.map Prod.snd))

/-- The depository accounts of a net-worth series. -/
def depositoryIds : List Uuid :=
  ((getAccountsForUser L db userId).foldl (scanAccount accountIds) AccountScan.empty).depositoryIds

/-- The transactions that a net-worth series is computed on. -/
def ledgerTransactions (startDate today : NaiveDate) : List Transaction :=
  keptTransactions accountIds
    ((getAccountsForUser L db userId).foldl (scanAccount accountIds) AccountScan.empty)
    ((getTransactionsByDateRangeForUser db userId startDate today).map TransactionRow.toTransaction)

/-! ### Completeness -/

/-- The row is in the range of dates. -/
def TransactionRow.isIn (range : Option (NaiveDate × NaiveDate)) (t : TransactionRow) : Bool :=
  range.all fun bounds ↦ bounds.1 ≤ t.date ∧ t.date ≤ bounds.2

/-- A list is exactly the user's visible transactions that satisfy a condition. -/
def IsExactly (l : List Transaction) (p : TransactionRow → Bool) : Prop :=
  l.Perm (((visibleTransactions db userId).filter p).map TransactionRow.toTransaction)

/-- **Completeness**: the endpoints compute on exactly the user's visible transactions of the range
and of the accounts. -/
structure AnalyticsComplete (range : Option (NaiveDate × NaiveDate)) (startDate today : NaiveDate) :
    Prop where
  analytics : IsExactly db userId
    ((spendingTransactions db userId rules accountIds range).map
      TransactionWithAccount.toTransaction)
    fun t ↦ isSelected accountIds t.accountId && t.isIn range
  netWorth : IsExactly db userId (ledgerTransactions L db userId accountIds startDate today)
    fun t ↦ (isSelected accountIds t.accountId ∧
      t.accountId ∈ depositoryIds L db userId accountIds) ∧
      t.isIn (some (startDate, today))

/-- The limits cut nothing off that the endpoints are asked about: among the rows of a query, in its
order, none after the first 1000 is of the accounts and of the dates asked about. -/
structure WithinLimits (range : Option (NaiveDate × NaiveDate)) (startDate today : NaiveDate) :
    Prop where
  analytics : ∀ t ∈ ((visibleTransactions db userId).insertionSort newestFirst).drop 1000,
    isSelected accountIds t.accountId = true → t.isIn range = false
  netWorth : ∀ t ∈ ((visibleTransactionsInRange db userId startDate today).insertionSort
      newestFirst).drop dateRangeLimit,
    isSelected accountIds t.accountId = true → t.accountId ∉ depositoryIds L db userId accountIds

end Endpoints

/-! ### The two queries -/

section Queries

variable {L : Locale} {db : Store} {userId : Uuid} {rules : List CategoryRule}
  {accountIds : Option (List Uuid)} {startDate today : NaiveDate}

/-- The rules change the categories alone. -/
theorem toTransaction_applyCategoryRules (t : TransactionWithAccount) :
    (applyCategoryRules rules t).toTransaction = t.toTransaction := by
  unfold applyCategoryRules
  split
  · split <;> rfl
  · rfl

theorem inDateRange_eq (range : Option (NaiveDate × NaiveDate)) {t : TransactionWithAccount}
    {r : TransactionRow} (hrow : t.toTransaction = r.toTransaction) :
    inDateRange (range.map Prod.fst) (range.map Prod.snd) t = r.isIn range := by
  have hdate : t.date = r.date := congrArg Transaction.date hrow
  cases range with
  | none => rfl
  | some bounds =>
    show decide (bounds.1 ≤ t.date ∧ t.date ≤ bounds.2) = _
    rw [hdate]
    rfl

/-- Every transaction has its account, so the join drops none. -/
theorem exists_withAccount (userId : Uuid) (db : Database) {r : TransactionRow}
    (hr : r ∈ db.transactions) :
    ∃ t, ((db.accounts.find? fun a ↦ a.id = r.accountId).map (withAccount db.toStore userId r)) =
      some t ∧ t.toTransaction = r.toTransaction := by
  obtain ⟨a, ha, hid⟩ := List.mem_map.1 (db.referential.transactions_accountId_fkey r hr)
  rcases hfind : db.accounts.find? (fun a ↦ decide (a.id = r.accountId)) with - | a'
  · exact absurd hid (by simpa using List.find?_eq_none.1 hfind a ha)
  · exact ⟨withAccount db.toStore userId r a', by rw [hfind]; rfl, rfl⟩

/-- What a total is computed on, as rows of the table. -/
theorem map_spendingTransactions (db : Database) (range : Option (NaiveDate × NaiveDate)) :
    (spendingTransactions db.toStore userId rules accountIds range).map
        TransactionWithAccount.toTransaction =
      ((((visibleTransactions db.toStore userId).insertionSort newestFirst).take 1000).filter
        fun r ↦ isSelected accountIds r.accountId && r.isIn range).map
          TransactionRow.toTransaction := by
  rw [spendingTransactions, analyticsTransactions, List.filter_map, List.map_map,
    List.filter_filter, getTransactionsWithAccountForUser]
  refine OrderBy.filter_take_filterMap (fun r hr ↦ ?_) 1000
  have hmem : r ∈ db.transactions := (List.mem_filter.1 ((List.mem_insertionSort _).1 hr)).1
  obtain ⟨t, hjoin, hrow⟩ := exists_withAccount userId db hmem
  refine ⟨t, hjoin, ?_, (toTransaction_applyCategoryRules t).trans hrow⟩
  have haccount : t.accountId = r.accountId := congrArg Transaction.accountId hrow
  rw [Function.comp_apply, inDateRange_eq range ((toTransaction_applyCategoryRules t).trans hrow),
    haccount, Bool.and_comm]

/-- What a series is computed on, as rows of the table. -/
theorem ledgerTransactions_eq :
    ledgerTransactions L db userId accountIds startDate today =
      ((((visibleTransactionsInRange db userId startDate today).insertionSort newestFirst).take
        dateRangeLimit).filter fun r ↦ isSelected accountIds r.accountId ∧
          r.accountId ∈ depositoryIds L db userId accountIds).map TransactionRow.toTransaction := by
  rw [ledgerTransactions, keptTransactions, List.filter_map]
  rfl

/-- The rows of a range are those of the user that are in it. -/
theorem visibleTransactionsInRange_eq :
    visibleTransactionsInRange db userId startDate today =
      (visibleTransactions db userId).filter (TransactionRow.isIn (some (startDate, today))) := by
  rw [visibleTransactions, List.filter_filter, visibleTransactionsInRange]
  refine List.filter_congr fun r _ ↦ ?_
  have hrange : r.isIn (some (startDate, today)) = decide (startDate ≤ r.date ∧ r.date ≤ today) :=
    rfl
  rw [hrange, ← Bool.decide_and, decide_eq_decide]
  constructor
  · rintro ⟨huser, hstart, hend, hvisible⟩
    exact ⟨⟨hstart, hend⟩, huser, hvisible⟩
  · rintro ⟨⟨hstart, hend⟩, huser, hvisible⟩
    exact ⟨huser, hstart, hend, hvisible⟩

end Queries

/-- Purchases of 5.00 on the checking account, one on each of the first `n` days. -/
def dailyPurchases (n : ℕ) : List TransactionRow :=
  (List.range n).map fun i ↦ checkingTransaction i i 500

/-- The checking account, and no transaction yet. -/
def checkingStore : Store :=
  { Store.empty with
    accounts := [checkingAccount]
    providerConnections := [checkingConnection] }

theorem checkingStore_keyed : checkingStore.Keyed where
  accounts_pkey := by decide
  accounts_providerAccountId_key := by decide
  transactions_pkey := by decide
  transactions_providerTransactionId_key := by decide
  transactionCategoryOverrides_pkey := by decide
  manualAccountBalanceHistory_key := by decide
  plaidCredentials_itemId_key := by decide
  providerConnections_pkey := by decide
  providerConnections_itemId_key := by decide

theorem checkingStore_referential : checkingStore.Referential where
  accounts_providerConnectionId_fkey := by decide
  transactions_accountId_fkey := by decide
  transactions_duplicateOfTransactionId_fkey := by decide
  transactionCategoryOverrides_transactionId_fkey := by decide
  manualAccountBalanceHistory_accountId_fkey := by decide
  amazonReceipts_matchedTransactionId_fkey := by decide

/-- A database with a purchase on each of the first `n` days. -/
def purchasesDatabase (n : ℕ) : Database where
  toStore := { checkingStore with transactions := dailyPurchases n }
  keyed :=
    { checkingStore_keyed with
      transactions_pkey := by
        show ((dailyPurchases n).map TransactionRow.id).Nodup
        rw [dailyPurchases, List.map_map]
        exact List.nodup_range.map fun _ _ h ↦ h
      transactions_providerTransactionId_key := by
        have hnone : (dailyPurchases n).filterMap TransactionRow.providerTransactionId = [] := by
          refine List.filterMap_eq_nil_iff.2 fun t ht ↦ ?_
          obtain ⟨i, -, rfl⟩ := List.mem_map.1 ht
          rfl
        show ((dailyPurchases n).filterMap TransactionRow.providerTransactionId).Nodup
        rw [hnone]
        exact List.nodup_nil }
  referential :=
    { checkingStore_referential with
      transactions_accountId_fkey := by
        intro t ht
        obtain ⟨i, -, rfl⟩ := List.mem_map.1 ht
        exact List.mem_singleton.2 rfl
      transactions_duplicateOfTransactionId_fkey := by
        intro t ht d hd
        obtain ⟨i, -, rfl⟩ := List.mem_map.1 ht
        exact absurd (Option.mem_def.1 hd) nofun
      -- no row of the other tables refers to a transaction
      transactionCategoryOverrides_transactionId_fkey := nofun
      amazonReceipts_matchedTransactionId_fkey := nofun }

theorem length_visibleTransactions (n : ℕ) :
    (visibleTransactions (purchasesDatabase n).toStore 7).length = n := by
  have hvisible : visibleTransactions (purchasesDatabase n).toStore 7 = dailyPurchases n := by
    refine List.filter_eq_self.2 fun t ht ↦ ?_
    obtain ⟨i, -, rfl⟩ := List.mem_map.1 ht
    rfl
  rw [hvisible, dailyPurchases, List.length_map, List.length_range]

/-- No total is computed on more than 1000 transactions. -/
theorem length_spendingTransactions_le (db : Database) (userId : Uuid) (rules : List CategoryRule)
    (accountIds : Option (List Uuid)) (range : Option (NaiveDate × NaiveDate)) :
    (spendingTransactions db.toStore userId rules accountIds range).length ≤ 1000 := by
  rw [← List.length_map TransactionWithAccount.toTransaction, map_spendingTransactions,
    List.length_map]
  exact (List.length_filter_le _ _).trans (List.length_take_le _ _)

end Sumurai
