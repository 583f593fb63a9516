import Mathlib.Algebra.Order.Group.Unbundled.Int
import Sumurai.Repository.Transactions

/-!
# Matching Amazon receipts

The tables of the syncer and `match_and_override_transaction`. The function looks for a bank
transaction of an amount in a window of days. It asks that the merchant be Amazon and that no
receipt of another order be matched to the row, takes the first row in an order that prefers rows
that are no duplicates, and overrides the category of that row, or of the row it is a duplicate of.
The id of the overridden row is what it returns, and what the callers record as the match of the
receipt.

The result of a database transaction is the tables after it, or the error for which it is rolled
back.
-/

namespace Sumurai

/-- A row of `amazon_receipts`, with the columns that the syncer reads back. -/
structure SyncedReceipt extends AmazonReceipt where
  orderDate : NaiveDate
  category : String
  subcategory : Option String
  matchedAt : Option Timestamp
deriving DecidableEq, Repr

/-- The tables that the syncer reads and writes. -/
structure SyncerStore where
  transactions : List TransactionRow
  transactionCategoryOverrides : List TransactionCategoryOverride
  amazonReceipts : List SyncedReceipt
deriving DecidableEq, Repr

/-- The errors that the database raises. -/
inductive SyncerError where
  | notNullViolation
  | foreignKeyViolation
  | uniqueViolation
  /-- `ON CONFLICT DO UPDATE command cannot affect row a second time`. -/
  | cardinalityViolation
  /-- The database does not answer. -/
  | unavailable
deriving DecidableEq, Repr

/-- The arguments of `match_and_override_transaction`. -/
structure MatchArgs where
  orderId : String
  orderDate : NaiveDate
  amount : Decimal
  category : String
  subcategory : Option String
  userId : Option Uuid
  dateWindowDays : ℤ := 35
  tolerance : Decimal := 2
deriving DecidableEq, Repr

/-- `t.merchant_name ILIKE '%word%'`. -/
def merchantLike (L : Locale) (word : String) (t : TransactionRow) : Bool :=
  t.merchantName.any fun name ↦ L.lowerString word <:+: L.lowerString name

/-- The `NOT EXISTS` of the query: no receipt of another order is matched to the row. -/
def freeForOrder (receipts : List SyncedReceipt) (orderId : String) (t : TransactionRow) : Bool :=
  !receipts.any fun ar ↦ ar.matchedTransactionId = some t.id ∧ ar.orderId ≠ orderId

/-- The `WHERE` clause of the query. -/
def isReceiptCandidate (L : Locale) (receipts : List SyncedReceipt) (args : MatchArgs)
    (t : TransactionRow) : Bool :=
  (merchantLike L "amazon" t || merchantLike L "amzn" t) &&
    decide (|t.amount - args.amount| ≤ args.tolerance) &&
    decide (args.orderDate - 2 ≤ t.date ∧ t.date ≤ args.orderDate + args.dateWindowDays) &&
    freeForOrder receipts args.orderId t

/-- The order of the query: rows that are no duplicates first, then the nearest date, then the
nearest amount. -/
abbrev receiptOrder (args : MatchArgs) : TransactionRow → TransactionRow → Prop :=
  OrderBy.thenBy (OrderBy.asc fun t ↦ if t.duplicateOfTransactionId.isSome then 1 else 0)
    (OrderBy.thenBy (OrderBy.asc fun t ↦ |t.date - args.orderDate|)
      (OrderBy.asc fun t ↦ |t.amount - args.amount|))

/-- The rows of the query, in order. -/
def receiptCandidates (L : Locale) (db : SyncerStore) (args : MatchArgs) : List TransactionRow :=
  (db.transactions.filter (isReceiptCandidate L db.amazonReceipts args)).insertionSort
    (receiptOrder args)

/-- `row`: what the query returns. -/
def selectedRow (L : Locale) (db : SyncerStore) (args : MatchArgs) : Option TransactionRow :=
  (receiptCandidates L db args).head?

/-- `row.get("duplicate_of_transaction_id") or row["id"]`. -/
def TransactionRow.overriddenId (t : TransactionRow) : Uuid :=
  t.duplicateOfTransactionId.getD t.id

/-- `INSERT INTO transaction_category_overrides .. ON CONFLICT (transaction_id, user_id)
DO UPDATE`. -/
def upsertOverride (db : SyncerStore) (o : TransactionCategoryOverride) :
    Except SyncerError SyncerStore :=
  if o.transactionId ∉ db.transactions.map TransactionRow.id then .error .foreignKeyViolation
  else if (findOverride db.transactionCategoryOverrides o.transactionId o.userId).isSome then
    .ok { db with
      transactionCategoryOverrides := db.transactionCategoryOverrides.map fun r ↦
        if r.transactionId = o.transactionId ∧ r.userId = o.userId then
          { r with categoryName := o.categoryName, subcategoryName := o.subcategoryName }
        else r }
  else
    .ok { db with transactionCategoryOverrides := db.transactionCategoryOverrides ++ [o] }

/-- `match_and_override_transaction`. The user of the override is that of the row, or else that of
the arguments. -/
def matchAndOverrideTransaction (L : Locale) (now : Timestamp) (args : MatchArgs)
    (db : SyncerStore) : Except SyncerError (Option Uuid × SyncerStore) :=
  match selectedRow L db args with
  | none => .ok (none, db)
  | some row =>
    match row.userId.or args.userId with
    | none => .error .notNullViolation
    | some txnUserId =>
      (upsertOverride db
        { transactionId := row.overriddenId
          userId := txnUserId
          categoryName := args.category
          subcategoryName := args.subcategory
          createdAt := some now }).map fun db ↦ (some row.overriddenId, db)

/-! ### What is selected -/

section Selected

variable {L : Locale} {db db' : SyncerStore} {args : MatchArgs} {t : TransactionRow}

theorem mem_receiptCandidates :
    t ∈ receiptCandidates L db args ↔
      t ∈ db.transactions ∧ isReceiptCandidate L db.amazonReceipts args t = true := by
  rw [receiptCandidates, List.mem_insertionSort, List.mem_filter]

theorem mem_of_selectedRow (h : selectedRow L db args = some t) :
    t ∈ db.transactions ∧ isReceiptCandidate L db.amazonReceipts args t = true :=
  mem_receiptCandidates.1 (List.mem_of_head? h)

/-- The receipts that are matched to the selected row itself are those of the order. -/
theorem orderId_of_selectedRow (h : selectedRow L db args = some t) {r : SyncedReceipt}
    (hr : r ∈ db.amazonReceipts) (hmatched : r.matchedTransactionId = some t.id) :
    r.orderId = args.orderId := by
  have hcandidate := (mem_of_selectedRow h).2
  rw [isReceiptCandidate, Bool.and_eq_true, freeForOrder, Bool.not_eq_true'] at hcandidate
  by_contra hne
  refine List.any_eq_false.1 hcandidate.2 r hr ?_
  exact decide_eq_true ⟨hmatched, hne⟩

/-- The selection reads the transactions, and of the receipts only what is matched to what. -/
theorem selectedRow_congr (htransactions : db'.transactions = db.transactions)
    (hfree : ∀ t, freeForOrder db'.amazonReceipts args.orderId t =
      freeForOrder db.amazonReceipts args.orderId t) :
    selectedRow L db' args = selectedRow L db args := by
  rw [selectedRow, selectedRow, receiptCandidates, receiptCandidates, htransactions]
  have hcandidate : isReceiptCandidate L db'.amazonReceipts args =
      isReceiptCandidate L db.amazonReceipts args := by
    funext t
    rw [isReceiptCandidate, isReceiptCandidate, hfree]
  rw [hcandidate]

/-- A receipt that is not matched makes no row less free. -/
theorem freeForOrder_append {receipts : List SyncedReceipt} {r : SyncedReceipt}
    (hr : r.matchedTransactionId = none) (orderId : String) (t : TransactionRow) :
    freeForOrder (receipts ++ [r]) orderId t = freeForOrder receipts orderId t := by
  simp [freeForOrder, hr]

end Selected

/-! ### What is overridden -/

/-- The row gets an override: it has a user, or the arguments have one, and the row to override
exists. -/
def Overridable (db : SyncerStore) (args : MatchArgs) (t : TransactionRow) : Prop :=
  (t.userId.or args.userId).isSome ∧
    t.overriddenId ∈ db.transactions.map TransactionRow.id

instance (db : SyncerStore) (args : MatchArgs) (t : TransactionRow) :
    Decidable (Overridable db args t) :=
  inferInstanceAs (Decidable (_ ∧ _))

section Overridden

variable {L : Locale} {db db' : SyncerStore} {args : MatchArgs} {o : TransactionCategoryOverride}
  {t : TransactionRow}

theorem upsertOverride_error {e : SyncerError} (h : upsertOverride db o = .error e) :
    o.transactionId ∉ db.transactions.map TransactionRow.id := by
  rw [upsertOverride] at h
  split at h
  · assumption
  · split at h <;> cases h

theorem upsertOverride_ok (h : upsertOverride db o = .ok db') :
    o.transactionId ∈ db.transactions.map TransactionRow.id ∧
      db'.transactions = db.transactions ∧ db'.amazonReceipts = db.amazonReceipts := by
  rw [upsertOverride] at h
  split at h
  · cases h
  · rename_i hid
    split at h
    · obtain rfl := Except.ok.inj h
      exact ⟨not_not.1 hid, rfl, rfl⟩
    · obtain rfl := Except.ok.inj h
      exact ⟨not_not.1 hid, rfl, rfl⟩

/-- Without a row there is no match. -/
theorem matchAndOverrideTransaction_none (now : Timestamp) (h : selectedRow L db args = none) :
    matchAndOverrideTransaction L now args db = .ok (none, db) := by
  rw [matchAndOverrideTransaction, h]

/-- **The outcomes of a selection**: the row that is recorded gets its override and nothing else
changes, or the transaction is rolled back. -/
theorem matchAndOverrideTransaction_some (now : Timestamp) (h : selectedRow L db args = some t) :
    (Overridable db args t ∧ ∃ db', matchAndOverrideTransaction L now args db =
        .ok (some t.overriddenId, db') ∧ db'.transactions = db.transactions ∧
          db'.amazonReceipts = db.amazonReceipts) ∨
      ¬ Overridable db args t ∧ ∃ e, matchAndOverrideTransaction L now args db = .error e := by
  rw [matchAndOverrideTransaction, h]
  dsimp only
  cases howner : t.userId.or args.userId with
  | none =>
    refine Or.inr ⟨fun hover ↦ ?_, _, rfl⟩
    have hsome := hover.1
    rw [howner] at hsome
    cases hsome
  | some owner =>
    dsimp only
    cases hupsert : upsertOverride db
        { transactionId := t.overriddenId
          userId := owner
          categoryName := args.category
          subcategoryName := args.subcategory
          createdAt := some now } with
    | error e => exact Or.inr ⟨fun hover ↦ upsertOverride_error hupsert hover.2, e, rfl⟩
    | ok db' =>
      obtain ⟨hid, htransactions, hreceipts⟩ := upsertOverride_ok hupsert
      refine Or.inl ⟨⟨?_, hid⟩, db', rfl, htransactions, hreceipts⟩
      rw [howner]
      rfl

end Overridden

end Sumurai
