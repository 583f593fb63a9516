import Sumurai.Foundations.OrderBy
import Sumurai.Models.Schema

/-!
# Transaction queries

The queries of `repository_service.rs` that read transactions. All of them hide the rows marked
as duplicates (`duplicate_of_transaction_id IS NULL`).

The date-range query returns at most 1000 rows, the newest ones. What a caller computes from the
rows after some day is then independent of where the range starts
(`filter_getTransactionsByDateRangeForUser`), although the range as a whole is cut off at a point
that depends on how many rows it holds.
-/

namespace Sumurai

/-- A row that the transaction readers return: one not marked as a duplicate. -/
def TransactionRow.visible (t : TransactionRow) : Bool :=
  t.duplicateOfTransactionId.isNone

/-- `ORDER BY date DESC, created_at DESC`. -/
abbrev newestFirst : TransactionRow → TransactionRow → Prop :=
  OrderBy.thenBy (OrderBy.desc fun t ↦ t.date)
    (OrderBy.desc fun t ↦ OrderBy.nullable t.createdAt)

/-- `LIMIT 1000` of `get_transactions_by_date_range_for_user`. -/
def dateRangeLimit : ℕ := 1000

/-- The visible transactions of a user from one day to another. -/
def visibleTransactionsInRange (db : Store) (userId : Uuid) (startDate endDate : NaiveDate) :
    List TransactionRow :=
  db.transactions.filter fun t ↦
    t.userId = some userId ∧ startDate ≤ t.date ∧ t.date ≤ endDate ∧ t.visible

/-- `get_transactions_by_date_range_for_user`: the newest 1000 visible transactions of the
range. -/
def getTransactionsByDateRangeForUser (db : Store) (userId : Uuid)
    (startDate endDate : NaiveDate) : List TransactionRow :=
  ((visibleTransactionsInRange db userId startDate endDate).insertionSort newestFirst).take
    dateRangeLimit

variable {db : Store} {userId : Uuid} {startDate endDate : NaiveDate}

theorem mem_visibleTransactionsInRange {t : TransactionRow} :
    t ∈ visibleTransactionsInRange db userId startDate endDate ↔
      t ∈ db.transactions ∧ t.userId = some userId ∧ startDate ≤ t.date ∧ t.date ≤ endDate ∧
        t.visible = true := by
  rw [visibleTransactionsInRange, List.mem_filter, decide_eq_true_iff]

theorem mem_visibleTransactionsInRange_of_mem {t : TransactionRow}
    (h : t ∈ getTransactionsByDateRangeForUser db userId startDate endDate) :
    t ∈ visibleTransactionsInRange db userId startDate endDate :=
  (List.mem_insertionSort _).1 (List.mem_of_mem_take h)

/-- A range of at most 1000 visible transactions is returned whole. -/
theorem getTransactionsByDateRangeForUser_perm
    (h : (visibleTransactionsInRange db userId startDate endDate).length ≤ dateRangeLimit) :
    (getTransactionsByDateRangeForUser db userId startDate endDate).Perm
      (visibleTransactionsInRange db userId startDate endDate) := by
  rw [getTransactionsByDateRangeForUser, List.take_of_length_le]
  · exact List.perm_insertionSort _ _
  · rwa [List.length_insertionSort]

/-- **The rows after a day do not depend on the start of the range.** The rows dated after `day`
come first in the order, so the limit keeps the newest 1000 of them whichever other rows the
range holds. -/
theorem filter_getTransactionsByDateRangeForUser {day : NaiveDate} (hday : startDate ≤ day) :
    (getTransactionsByDateRangeForUser db userId startDate endDate).filter (fun t ↦ day < t.date) =
      getTransactionsByDateRangeForUser db userId (day + 1) endDate := by
  have hsegment : ∀ a b : TransactionRow, newestFirst a b →
      decide (day < b.date) = true → decide (day < a.date) = true := by
    intro a b hab hb
    have hdate : b.date ≤ a.date := hab.1
    simp only [decide_eq_true_eq] at hb ⊢
    exact lt_of_lt_of_le hb hdate
  have hrange : (visibleTransactionsInRange db userId startDate endDate).filter
      (fun t ↦ decide (day < t.date)) = visibleTransactionsInRange db userId (day + 1) endDate := by
    rw [visibleTransactionsInRange, visibleTransactionsInRange, List.filter_filter]
    refine List.filter_congr fun t _ ↦ ?_
    rw [Bool.eq_iff_iff]
    simp only [Bool.and_eq_true, decide_eq_true_eq]
    constructor
    · rintro ⟨hlt, huser, -, hend, hvis⟩
      exact ⟨huser, Int.add_one_le_of_lt hlt, hend, hvis⟩
    · rintro ⟨huser, hlt, hend, hvis⟩
      exact ⟨Int.lt_of_add_one_le hlt, huser, hday.trans (Int.le_of_lt (Int.lt_of_add_one_le hlt)),
        hend, hvis⟩
  rw [getTransactionsByDateRangeForUser, OrderBy.filter_take_orderBy newestFirst _ hsegment,
    hrange, getTransactionsByDateRangeForUser]

/-! ### Writing transactions -/

/-- `upsert_transaction`. On a known provider transaction id only the amount, the merchant and the
pending flag are updated; otherwise a row is inserted, under its own id and its account. -/
def upsertTransaction (db : Store) (now : Timestamp) (t : Transaction) : Except DbError Store :=
  if db.transactions.any fun r ↦
      r.providerTransactionId.isSome && r.providerTransactionId == t.providerTransactionId then
    .ok { db with
      transactions := db.transactions.map fun r ↦
        if r.providerTransactionId.isSome && r.providerTransactionId == t.providerTransactionId then
          { r with amount := t.amount, merchantName := t.merchantName, pending := t.pending }
        else r }
  else if t.id ∈ db.transactions.map TransactionRow.id then .error .uniqueViolation
  else if t.accountId ∉ db.accounts.map Account.id then .error .foreignKeyViolation
  else
    .ok { db with
      transactions := db.transactions ++ [
        { id := t.id
          accountId := t.accountId
          userId := t.userId
          providerTransactionId := t.providerTransactionId
          amount := t.amount
          date := t.date
          merchantName := t.merchantName
          categoryPrimary := t.categoryPrimary
          categoryDetailed := t.categoryDetailed
          categoryConfidence := t.categoryConfidence
          paymentChannel := t.paymentChannel
          pending := t.pending
          createdAt := some (t.createdAt.getD now)
          duplicateOfTransactionId := none
          duplicateReviewedAt := none
          duplicateReviewedBy := none }] }

/-- `DELETE FROM transactions`, with what the foreign keys do: overrides go with their
transaction, and links and receipt matches to it are set to `NULL`. -/
def deleteTransactions (db : Store) (doomed : TransactionRow → Bool) : Store :=
  let gone := (db.transactions.filter doomed).map TransactionRow.id
  { db with
    transactions := (db.transactions.filter fun t ↦ !doomed t).map fun t ↦
      { t with duplicateOfTransactionId := t.duplicateOfTransactionId.filter (· ∉ gone) }
    transactionCategoryOverrides := db.transactionCategoryOverrides.filter fun o ↦
      o.transactionId ∉ gone
    amazonReceipts := db.amazonReceipts.map fun r ↦
      { r with matchedTransactionId := r.matchedTransactionId.filter (· ∉ gone) } }

/-! ### Category overrides -/

/-- The override of a transaction by a user. -/
def findOverride (overrides : List TransactionCategoryOverride) (transactionId userId : Uuid) :
    Option TransactionCategoryOverride :=
  overrides.find? fun o ↦ o.transactionId = transactionId ∧ o.userId = userId

/-- `INSERT INTO transaction_category_overrides .. ON CONFLICT (transaction_id, user_id)
DO NOTHING`. -/
def insertOverrideOrIgnore (overrides : List TransactionCategoryOverride)
    (o : TransactionCategoryOverride) : List TransactionCategoryOverride :=
  if (findOverride overrides o.transactionId o.userId).isSome then overrides else overrides ++ [o]

/-- `set_transaction_category_override`. -/
def setTransactionCategoryOverride (db : Store) (now : Timestamp) (transactionId userId : Uuid)
    (categoryName : String) (subcategoryName : Option String) : Except DbError Store :=
  if (findOverride db.transactionCategoryOverrides transactionId userId).isSome then
    .ok { db with
      transactionCategoryOverrides := db.transactionCategoryOverrides.map fun o ↦
        if o.transactionId = transactionId ∧ o.userId = userId then
          { o with categoryName := categoryName, subcategoryName := subcategoryName }
        else o }
  else if transactionId ∉ db.transactions.map TransactionRow.id then .error .foreignKeyViolation
  else
    .ok { db with
      transactionCategoryOverrides := db.transactionCategoryOverrides ++ [
        { transactionId := transactionId
          userId := userId
          categoryName := categoryName
          subcategoryName := subcategoryName
          createdAt := some now }] }

/-! ### Reading with the account and the category -/

/-- `WHERE user_id = $1 AND duplicate_of_transaction_id IS NULL`. -/
def visibleTransactions (db : Store) (userId : Uuid) : List TransactionRow :=
  db.transactions.filter fun t ↦ t.userId = some userId ∧ t.visible

/-- `get_transactions_for_user`. -/
def getTransactionsForUser (db : Store) (userId : Uuid) : List Transaction :=
  (((visibleTransactions db userId).insertionSort newestFirst).take 1000).map
    TransactionRow.toTransaction

/-- `t_p JOIN tco_p`, the rows of one canonical id: the transactions hidden behind it, each with its
override by the user. -/
def hiddenOverrides (db : Store) (userId canonicalId : Uuid) :
    List (TransactionRow × TransactionCategoryOverride) :=
  (db.transactions.filter fun t ↦ t.duplicateOfTransactionId = some canonicalId).flatMap fun t ↦
    (db.transactionCategoryOverrides.filter fun o ↦
      o.transactionId = t.id ∧ o.userId = userId).map fun o ↦ (t, o)

/-- `tco_dup`: `DISTINCT ON (t_p.duplicate_of_transaction_id)` keeps the override of the newest
hidden transaction. -/
def duplicateOverride (db : Store) (userId canonicalId : Uuid) :
    Option TransactionCategoryOverride :=
  ((hiddenOverrides db userId canonicalId).insertionSort
    (OrderBy.desc fun p ↦ OrderBy.nullable p.1.createdAt)).head?.map Prod.snd

/-- `COALESCE(tco.category_name, tco_dup.category_name)`. -/
def customCategory (db : Store) (userId transactionId : Uuid) : Option String :=
  ((findOverride db.transactionCategoryOverrides transactionId userId).map
    TransactionCategoryOverride.categoryName).or
      ((duplicateOverride db userId transactionId).map TransactionCategoryOverride.categoryName)

/-- `COALESCE(tco.subcategory_name, tco_dup.subcategory_name)`. -/
def customSubcategory (db : Store) (userId transactionId : Uuid) : Option String :=
  ((findOverride db.transactionCategoryOverrides transactionId userId).bind
    TransactionCategoryOverride.subcategoryName).or
      ((duplicateOverride db userId transactionId).bind
        TransactionCategoryOverride.subcategoryName)

/-- The provider of an item id. In `LIKE 'teller_%'` the underscore stands for any character. -/
def providerOfItem (itemId : String) : String :=
  if "teller".toList <+: itemId.toList ∧ 7 ≤ itemId.toList.length then "teller" else "plaid"

/-- One row of `get_transactions_with_account_for_user`. -/
def withAccount (db : Store) (userId : Uuid) (t : TransactionRow) (a : Account) :
    TransactionWithAccount :=
  { t.toTransaction with
    accountName := a.name
    accountType := a.accountType
    accountMask := a.mask
    provider := (a.providerConnectionId.bind fun c ↦
      db.providerConnections.find? fun pc ↦ pc.id = c).map fun pc ↦ providerOfItem pc.itemId
    customCategory := customCategory db userId t.id
    customSubcategory := customSubcategory db userId t.id
    ruleCategory := none
    ruleSubcategory := none }

/-- `get_transactions_with_account_for_user`. -/
def getTransactionsWithAccountForUser (db : Store) (userId : Uuid) :
    List TransactionWithAccount :=
  (((visibleTransactions db userId).insertionSort newestFirst).filterMap fun t ↦
    (db.accounts.find? fun a ↦ a.id = t.accountId).map (withAccount db userId t)).take 1000

theorem mem_hiddenOverrides {db : Store} {userId canonicalId : Uuid} {t : TransactionRow}
    {o : TransactionCategoryOverride} :
    (t, o) ∈ hiddenOverrides db userId canonicalId ↔
      (t ∈ db.transactions ∧ t.duplicateOfTransactionId = some canonicalId) ∧
        o ∈ db.transactionCategoryOverrides ∧ o.transactionId = t.id ∧ o.userId = userId := by
  simp [hiddenOverrides]

/-- **The one-level join reaches a hidden override**: a transaction with one shows a category. -/
theorem customCategory_isSome_of_hidden {db : Store} {userId canonicalId : Uuid}
    {t : TransactionRow} {o : TransactionCategoryOverride}
    (h : (t, o) ∈ hiddenOverrides db userId canonicalId) :
    (customCategory db userId canonicalId).isSome = true := by
  obtain ⟨p, hp⟩ := Option.ne_none_iff_exists'.1
    (OrderBy.head?_orderBy_ne_none (OrderBy.desc fun p ↦ OrderBy.nullable p.1.createdAt) h)
  rw [customCategory, duplicateOverride, hp]
  simp

end Sumurai
