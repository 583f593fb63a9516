import Mathlib.Algebra.Order.Group.Unbundled.Int
import Sumurai.Repository.Transactions

/-!
# Duplicate transactions

The three statements of `repository_service.rs` that deal with duplicate transactions:

* `mergeDuplicateProviderTransactions` deletes the duplicates among the provider transactions of a
  connection;
* `markTransactionDuplicate` hides one transaction behind another, at the user's request;
* `autoResolvePendingDuplicates` hides pending transactions behind the posted ones they turned into.

Merchants are compared by their *merchant key*: the letters and digits of the name, in lower case.
Each statement has its own notion of related keys.

The last two are one kind of statement: a snapshot of the tables decides which rows are linked to
which (`LinkPlan`), and the writes follow. `LinkPlan.apply` is the writing half, so that the
two halves of a statement can be separated in time.
-/

namespace Sumurai

/-- `LOWER(REGEXP_REPLACE(COALESCE(merchant_name, ''), '[^[:alnum:]]+', '', 'g'))`. -/
def merchantKey (L : Locale) (merchantName : Option String) : List Char :=
  ((merchantName.getD "").toList.filter L.isAlnum).map L.lower

/-- `a = b OR POSITION(a IN b) > 0 OR POSITION(b IN a) > 0`. -/
def keysOverlap (a b : List Char) : Bool :=
  a = b || decide (a <:+: b) || decide (b <:+: a)

/-- `INNER JOIN accounts a .. WHERE a.provider_connection_id = $2`. -/
def onConnection (db : Store) (connectionId : Uuid) (t : TransactionRow) : Bool :=
  db.accounts.any fun a ↦ a.id = t.accountId && a.providerConnectionId = some connectionId

/-! ### Merging provider transactions -/

/-- A row of `transaction_candidates`. -/
structure MergeCandidate where
  id : Uuid
  accountId : Uuid
  amount : Decimal
  date : NaiveDate
  merchantKey : List Char
  createdAt : Option Timestamp
deriving DecidableEq, Repr

/-- The candidate of a transaction row. -/
def MergeCandidate.ofRow (L : Locale) (t : TransactionRow) : MergeCandidate where
  id := t.id
  accountId := t.accountId
  amount := t.amount
  date := t.date
  merchantKey := Sumurai.merchantKey L t.merchantName
  createdAt := t.createdAt

/-- `transaction_candidates`: the provider transactions of a user on a connection. -/
def transactionCandidates (L : Locale) (db : Store) (userId connectionId : Uuid) :
    List MergeCandidate :=
  (db.transactions.filter fun t ↦
    t.userId = some userId && onConnection db connectionId t &&
      t.providerTransactionId.isSome).map (MergeCandidate.ofRow L)

/-- The join condition of `duplicate_pairs`. -/
def isDuplicatePair (older newer : MergeCandidate) : Bool :=
  newer.accountId = older.accountId && newer.amount = older.amount && newer.date = older.date &&
    newer.id ≠ older.id && older.merchantKey ≠ [] && newer.merchantKey ≠ [] &&
    keysOverlap older.merchantKey newer.merchantKey

/-- `a >= b` on nullable timestamps: not true when one of them is `NULL`. -/
def timestampGE (a b : Option Timestamp) : Bool :=
  match a, b with
  | some x, some y => y ≤ x
  | _, _ => false

/-- The `CASE` condition of `duplicate_pairs`: the newer row is the canonical one. -/
def newerWins (older newer : MergeCandidate) : Bool :=
  older.merchantKey.length < newer.merchantKey.length ||
    (newer.merchantKey.length = older.merchantKey.length &&
      timestampGE newer.createdAt older.createdAt)

/-- One row of `duplicate_pairs`: the canonical id and the duplicate id. -/
def duplicatePair (older newer : MergeCandidate) : Uuid × Uuid :=
  if newerWins older newer then (newer.id, older.id) else (older.id, newer.id)

/-- `duplicate_pairs`: every related pair of candidates, in both orders. -/
def duplicatePairs (candidates : List MergeCandidate) : List (Uuid × Uuid) :=
  (candidates.flatMap fun older ↦
    (candidates.filter fun newer ↦ isDuplicatePair older newer).map fun newer ↦
      duplicatePair older newer).dedup

/-- `merge_duplicate_provider_transactions`: the number of deleted rows, and the store without
them. The overrides of a deleted row are offered to its canonical row, without the subcategory. -/
def mergeDuplicateProviderTransactions (L : Locale) (db : Store) (userId connectionId : Uuid) :
    Store × ℕ :=
  let pairs := duplicatePairs (transactionCandidates L db userId connectionId)
  let movedOverrides := db.transactionCategoryOverrides.flatMap fun tco ↦
    if tco.userId = userId then
      (pairs.filter fun d ↦ d.2 = tco.transactionId).map fun d ↦
        { transactionId := d.1
          userId := tco.userId
          categoryName := tco.categoryName
          subcategoryName := none
          createdAt := tco.createdAt }
    else []
  let doomed := fun t : TransactionRow ↦
    decide (t.id ∈ pairs.map Prod.snd) && decide (t.userId = some userId)
  (deleteTransactions
    { db with
      transactionCategoryOverrides :=
        movedOverrides.foldl insertOverrideOrIgnore db.transactionCategoryOverrides }
    doomed, (db.transactions.filter doomed).length)

/-! ### Linking rows -/

/-- What the reading half of a linking statement decides: the links to set, as pairs of a hidden
and a canonical id, and the overrides to offer to the canonical rows. -/
structure LinkPlan where
  userId : Uuid
  links : List (Uuid × Uuid)
  overrides : List TransactionCategoryOverride
deriving DecidableEq, Repr

/-- `transferred_overrides`: the override of a hidden row goes to its canonical row, if that has
none. -/
def transferredOverrides (overrides : List TransactionCategoryOverride) (userId : Uuid)
    (links : List (Uuid × Uuid)) : List TransactionCategoryOverride :=
  links.filterMap fun link ↦
    match findOverride overrides link.1 userId with
    | some tco =>
      if (findOverride overrides link.2 userId).isSome then none
      else some { tco with transactionId := link.2 }
    | none => none

/-- The plan of a set of links, with its overrides read from the same snapshot. -/
def LinkPlan.ofLinks (db : Store) (userId : Uuid) (links : List (Uuid × Uuid)) : LinkPlan where
  userId := userId
  links := links
  overrides := transferredOverrides db.transactionCategoryOverrides userId links

/-- The writing half: set the links of the user's rows, transfer the overrides, and point the
receipts matched to a hidden row at its canonical one. -/
def LinkPlan.apply (plan : LinkPlan) (now : Timestamp) (db : Store) : Store :=
  { db with
    transactions := db.transactions.map fun t ↦
      match plan.links.lookup t.id with
      | some canonicalId =>
        if t.userId = some plan.userId then
          { t with
            duplicateOfTransactionId := some canonicalId
            duplicateReviewedAt := some now
            duplicateReviewedBy := some plan.userId }
        else t
      | none => t
    transactionCategoryOverrides :=
      plan.overrides.foldl insertOverrideOrIgnore db.transactionCategoryOverrides
    amazonReceipts := db.amazonReceipts.map fun r ↦
      match r.matchedTransactionId.bind fun id ↦ plan.links.lookup id with
      | some canonicalId => { r with matchedTransactionId := some canonicalId }
      | none => r }

/-! ### Marking a duplicate -/

/-- The merchant test of `mark_transaction_duplicate`. -/
def merchantsRelated (a b : List Char) : Bool :=
  a ≠ [] && b ≠ [] && keysOverlap a b

/-- `selected`: the row to mark, if it is the user's and not marked yet. -/
def selectedTransaction (db : Store) (transactionId userId : Uuid) : Option TransactionRow :=
  db.transactions.find? fun t ↦
    t.id = transactionId && t.userId = some userId && t.duplicateOfTransactionId.isNone

/-- The join condition of `candidate`. -/
def isMarkCandidate (userId : Uuid) (s t : TransactionRow) : Bool :=
  t.accountId = s.accountId && t.amount = s.amount && decide (|t.date - s.date| ≤ 7) &&
    t.id ≠ s.id && t.userId = some userId && t.duplicateOfTransactionId.isNone && s.amount ≠ 0 &&
    (s.pending || !t.pending)

/-- The order of `candidate`: related merchants first, then posted rows, then the oldest, then by
id. -/
abbrev markOrder (L : Locale) (s : TransactionRow) : TransactionRow → TransactionRow → Prop :=
  OrderBy.thenBy
    (OrderBy.asc fun t ↦
      if merchantsRelated (merchantKey L s.merchantName) (merchantKey L t.merchantName) then 0
      else 1)
    (OrderBy.thenBy (OrderBy.asc fun t ↦ if t.pending then 1 else 0)
      (OrderBy.thenBy (OrderBy.asc fun t ↦ OrderBy.nullable t.createdAt)
        (OrderBy.asc fun t ↦ t.id)))

/-- `candidate`: the row that the selected one is marked as a duplicate of. -/
def markCandidate (L : Locale) (db : Store) (userId : Uuid) (s : TransactionRow) :
    Option TransactionRow :=
  ((db.transactions.filter (isMarkCandidate userId s)).insertionSort (markOrder L s)).head?

/-- The reading half of `mark_transaction_duplicate`. -/
def planMark (L : Locale) (db : Store) (transactionId userId : Uuid) : Option LinkPlan := do
  let s ← selectedTransaction db transactionId userId
  let t ← markCandidate L db userId s
  return LinkPlan.ofLinks db userId [(s.id, t.id)]

/-- `mark_transaction_duplicate`. -/
def markTransactionDuplicate (L : Locale) (db : Store) (now : Timestamp)
    (transactionId userId : Uuid) : Except DbError Store :=
  match planMark L db transactionId userId with
  | some plan => .ok (plan.apply now db)
  | none => .error .notFound

/-! ### Resolving pending duplicates -/

/-- The merchant test of `auto_resolve_pending_duplicates`. -/
def pendingMerchantsRelated (p post : List Char) : Bool :=
  keysOverlap p post ||
    (decide (6 ≤ p.length) && decide (6 ≤ post.length) &&
      (decide (p.take 6 <:+: post) || decide (post.take 6 <:+: p))) ||
    (decide ("verizon".toList <:+: p) && decide ("verizon".toList <:+: post)) ||
    (decide ("amazon".toList <:+: p) && decide ("amazon".toList <:+: post))

/-- The common `WHERE` clause of `pending_tx` and `posted_tx`. -/
def isResolvable (db : Store) (userId : Uuid) (connectionId : Option Uuid)
    (t : TransactionRow) : Bool :=
  t.userId = some userId && t.duplicateOfTransactionId.isNone && t.amount ≠ 0 &&
    match connectionId with
    | none => true
    | some connectionId => onConnection db connectionId t

/-- `pending_tx`. -/
def pendingTx (db : Store) (userId : Uuid) (connectionId : Option Uuid) : List TransactionRow :=
  db.transactions.filter fun t ↦ t.pending && isResolvable db userId connectionId t

/-- `posted_tx`. -/
def postedTx (db : Store) (userId : Uuid) (connectionId : Option Uuid) : List TransactionRow :=
  db.transactions.filter fun t ↦ !t.pending && isResolvable db userId connectionId t

/-- The join condition of `matched_pairs`. -/
def isPostedMatch (L : Locale) (p post : TransactionRow) : Bool :=
  post.accountId = p.accountId && post.amount = p.amount && decide (|post.date - p.date| ≤ 7) &&
    pendingMerchantsRelated (merchantKey L p.merchantName) (merchantKey L post.merchantName)

/-- The order in which `DISTINCT ON (p.id)` picks a match: the nearest date, then the earliest. -/
abbrev postedOrder (p : TransactionRow) : TransactionRow → TransactionRow → Prop :=
  OrderBy.thenBy (OrderBy.asc fun post ↦ |post.date - p.date|) (OrderBy.asc fun post ↦ post.date)

/-- The posted row that a pending one is matched with. -/
def postedMatch (L : Locale) (db : Store) (userId : Uuid) (connectionId : Option Uuid)
    (p : TransactionRow) : Option TransactionRow :=
  (((postedTx db userId connectionId).filter (isPostedMatch L p)).insertionSort
    (postedOrder p)).head?

/-- `matched_pairs`. -/
def matchedPairs (L : Locale) (db : Store) (userId : Uuid) (connectionId : Option Uuid) :
    List (Uuid × Uuid) :=
  (pendingTx db userId connectionId).filterMap fun p ↦
    (postedMatch L db userId connectionId p).map fun post ↦ (p.id, post.id)

/-- `auto_resolve_pending_duplicates`: the store with the links set, and their number. -/
def autoResolvePendingDuplicates (L : Locale) (db : Store) (now : Timestamp) (userId : Uuid)
    (connectionId : Option Uuid) : Store × ℕ :=
  let links := matchedPairs L db userId connectionId
  ((LinkPlan.ofLinks db userId links).apply now db, links.length)

end Sumurai
