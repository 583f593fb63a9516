import Sumurai.Amazon.Receipts
import Sumurai.Foundations.Runs

/-!
# The Amazon syncer

What `syncer.py` does to the database, from the parsed emails on: `process_email_message` records
and matches the charged amounts of an order, `process_subscribe_and_save_email` those of the items
of a delivery, and `sweep_unmatched_receipts` retries the receipts that have no match. What the
emails say, how the classifier answers and how a price is taxed come in as data.

Each operation is several database transactions, and the sweep matches through connections that
see nothing of what its own has not committed. An operation that fails leaves what it has committed:
the argument `commits` bounds the transactions that it commits before the database stops answering,
and the outcome says whether it has come to its end.

`syncerStep` is the system that the results are about: the loop bodies, the two transactions of the
sweep, and what the backend does to the tables in between. The emails, the sweep and the cycle of
the syncer are runs of it (`processEmailMessage_run`, `sweepUnmatchedReceipts_run`, `runSync_run`).
-/

namespace Sumurai

/-! ### Recording a charge -/

/-- What the loop of `process_email_message` knows of a charged amount. -/
structure Charge where
  orderId : String
  orderDate : NaiveDate
  amount : Decimal
  category : String
  subcategory : Option String
  userId : Option Uuid
deriving DecidableEq, Repr

/-- The call of `match_and_override_transaction` for a charge. -/
def Charge.matchArgs (c : Charge) : MatchArgs where
  orderId := c.orderId
  orderDate := c.orderDate
  amount := c.amount
  category := c.category
  subcategory := c.subcategory
  userId := c.userId

/-- `WHERE order_id = .. AND amount = ..`. -/
def findReceipt (receipts : List SyncedReceipt) (orderId : String) (amount : Decimal) :
    Option SyncedReceipt :=
  receipts.find? fun r ↦ r.orderId = orderId ∧ r.amount = amount

/-- The row that is inserted for a charge. -/
def Charge.receipt (c : Charge) (newId : Uuid) : SyncedReceipt where
  id := newId
  userId := c.userId
  orderId := c.orderId
  amount := c.amount
  matchedTransactionId := none
  orderDate := c.orderDate
  category := c.category
  subcategory := c.subcategory
  matchedAt := none

/-- The first transaction of a charge: the id of its receipt, which is inserted if there is none.
There is no id if the receipt is matched already. -/
def recordReceipt (newId : Uuid) (c : Charge) (db : SyncerStore) :
    Except SyncerError (Option Uuid × SyncerStore) :=
  match findReceipt db.amazonReceipts c.orderId c.amount with
  | some existing =>
    if existing.matchedTransactionId.isSome then .ok (none, db) else .ok (some existing.id, db)
  | none =>
    if newId ∈ db.amazonReceipts.map (·.id) then .error .uniqueViolation
    else .ok (some newId, { db with amazonReceipts := db.amazonReceipts ++ [c.receipt newId] })

/-- `SET matched_transaction_id = .., matched_at = NOW() WHERE id = ..`. -/
def setMatched (now : Timestamp) (receiptId txnId : Uuid) (receipts : List SyncedReceipt) :
    List SyncedReceipt :=
  receipts.map fun r ↦
    if r.id = receiptId then { r with matchedTransactionId := some txnId, matchedAt := some now }
    else r

/-- The outcome of an operation: the tables it leaves, and whether it came to its end. -/
abbrev Outcome := SyncerStore × Except SyncerError Unit

/-- The rest of the loop of `process_email_message`: the receipt that was recorded is matched. -/
def matchCharge (L : Locale) (now : Timestamp) (c : Charge) (receiptId : Uuid) (commits : ℕ)
    (db : SyncerStore) : Outcome :=
  if commits < 1 then (db, .error .unavailable) else
  match matchAndOverrideTransaction L now c.matchArgs db with
  | .error e => (db, .error e)
  | .ok (none, db) => (db, .ok ())
  | .ok (some txnId, db) =>
    if commits < 2 then (db, .error .unavailable) else
    ({ db with amazonReceipts := setMatched now receiptId txnId db.amazonReceipts }, .ok ())

/-- The body of the loop of `process_email_message`. -/
def processCharge (L : Locale) (now : Timestamp) (newId : Uuid) (c : Charge) (commits : ℕ)
    (db : SyncerStore) : Outcome :=
  if commits < 1 then (db, .error .unavailable) else
  match recordReceipt newId c db with
  | .error e => (db, .error e)
  | .ok (none, db) => (db, .ok ())
  | .ok (some receiptId, db) => matchCharge L now c receiptId (commits - 1) db

/-! ### Recording a delivery -/

/-- An item of a Subscribe & Save email. The order id is made from the delivery date and the
title, and the price is taken as it is and with an estimate of the tax. -/
structure Delivery where
  orderId : String
  emailDate : NaiveDate
  deliveryDate : NaiveDate
  preTax : Decimal
  taxed : Decimal
  /-- The category of the classifier. -/
  category : String
  subcategory : Option String
  userId : Option Uuid
deriving DecidableEq, Repr

/-- The category of the order's receipt, or else that of the classifier. -/
def Delivery.classify (d : Delivery) (existing : Option SyncedReceipt) : String × Option String :=
  match existing with
  | some r => if r.category ≠ "" then (r.category, r.subcategory) else (d.category, d.subcategory)
  | none => (d.category, d.subcategory)

/-- The call of `match_and_override_transaction` for one of the amounts of a delivery. -/
def Delivery.matchArgs (d : Delivery) (category : String × Option String) (amount : Decimal) :
    MatchArgs where
  orderId := d.orderId
  orderDate := d.emailDate
  amount := amount
  category := category.1
  subcategory := category.2
  userId := d.userId
  dateWindowDays := 14

/-- The loop over `candidate_amt`: the first amount that has a match, with its transaction. -/
def matchAmounts (L : Locale) (now : Timestamp) (args : Decimal → MatchArgs) :
    List Decimal → SyncerStore → Except SyncerError (Option (Decimal × Uuid) × SyncerStore)
  | [], db => .ok (none, db)
  | amount :: amounts, db =>
    match matchAndOverrideTransaction L now (args amount) db with
    | .error e => .error e
    | .ok (none, db) => matchAmounts L now args amounts db
    | .ok (some txnId, db) => .ok (some (amount, txnId), db)

/-- `INSERT INTO amazon_receipts .. ON CONFLICT (order_id, amount) DO UPDATE`, which keeps the match
of the receipt if there is no new one. -/
def upsertReceipt (now : Timestamp) (newId : Uuid) (d : Delivery)
    (category : String × Option String)
    (amount : Decimal) (txnId : Option Uuid) (receipts : List SyncedReceipt) :
    Except SyncerError (List SyncedReceipt) :=
  if (findReceipt receipts d.orderId amount).isSome then
    .ok (receipts.map fun r ↦
      if r.orderId = d.orderId ∧ r.amount = amount then
        { r with
          matchedTransactionId := txnId.or r.matchedTransactionId
          matchedAt := if txnId.isSome then some now else r.matchedAt }
      else r)
  else if newId ∈ receipts.map (·.id) then .error .uniqueViolation
  else
    .ok (receipts ++ [
      { id := newId
        userId := d.userId
        orderId := d.orderId
        amount := amount
        matchedTransactionId := txnId
        orderDate := d.deliveryDate
        category := category.1
        subcategory := category.2
        matchedAt := if txnId.isSome then some now else none }])

/-- The receipt of the order that is looked at, of which there may be several. -/
def existingSub (db : SyncerStore) (orderId : String) : Option SyncedReceipt :=
  db.amazonReceipts.find? fun r ↦ r.orderId = orderId

/-- The body of the loop of `process_subscribe_and_save_email`. The override of a match is committed
before the receipt is. -/
def processDelivery (L : Locale) (now : Timestamp) (newId : Uuid) (d : Delivery) (commits : ℕ)
    (db : SyncerStore) : Outcome :=
  let existing := existingSub db d.orderId
  if (existing.bind fun r ↦ r.matchedTransactionId).isSome then (db, .ok ()) else
  let category := d.classify existing
  if commits < 1 then (db, .error .unavailable) else
  match matchAmounts L now (d.matchArgs category) [d.taxed, d.preTax] db with
  | .error e => (db, .error e)
  | .ok (matched, db) =>
    if matched.isSome ∧ commits < 2 then (db, .error .unavailable) else
    match upsertReceipt now newId d category ((matched.map Prod.fst).getD d.taxed)
      (matched.map Prod.snd) db.amazonReceipts with
    | .error e => (db, .error e)
    | .ok receipts => ({ db with amazonReceipts := receipts }, .ok ())

/-! ### The sweep -/

/-- The rows that the first statement of the sweep inserts: the overrides of duplicates, for the
rows they are duplicates of, where these have none. -/
def copiedOverrides (db : SyncerStore) : List TransactionCategoryOverride :=
  db.transactions.flatMap fun pending ↦
    match pending.duplicateOfTransactionId with
    | none => []
    | some postedId =>
      if db.transactionCategoryOverrides.any fun o ↦ o.transactionId = postedId then []
      else (db.transactionCategoryOverrides.filter fun o ↦ o.transactionId = pending.id).map
        fun o ↦ { o with transactionId := postedId }

/-- The row that an id is a duplicate of, or itself. -/
def postedId (transactions : List TransactionRow) (id : Uuid) : Uuid :=
  ((transactions.find? fun t ↦ t.id = id).bind TransactionRow.duplicateOfTransactionId).getD id

/-- The first transaction of the sweep. The insertion fails if it has two rows for one key. -/
def repointReceipts (db : SyncerStore) : Except SyncerError SyncerStore :=
  if ¬ ((copiedOverrides db).map fun o ↦ (o.transactionId, o.userId)).Nodup then
    .error .cardinalityViolation
  else if ∃ o ∈ copiedOverrides db, o.transactionId ∉ db.transactions.map TransactionRow.id then
    .error .foreignKeyViolation
  else
    .ok { db with
      transactionCategoryOverrides := db.transactionCategoryOverrides ++ copiedOverrides db
      amazonReceipts := db.amazonReceipts.map fun r ↦
        { r with matchedTransactionId := r.matchedTransactionId.map (postedId db.transactions) } }

/-- `matched_transaction_id IS NULL AND order_date >= NOW() - INTERVAL '35 days'`. -/
def isUnmatched (now : Timestamp) (r : SyncedReceipt) : Bool :=
  r.matchedTransactionId.isNone && decide (now - 35 * microsPerDay ≤ r.orderDate * microsPerDay)

/-- The call of `match_and_override_transaction` for a receipt of the sweep. -/
def SyncedReceipt.matchArgs (r : SyncedReceipt) (userId : Option Uuid) : MatchArgs where
  orderId := r.orderId
  orderDate := r.orderDate
  amount := r.amount
  category := r.category
  subcategory := r.subcategory
  userId := r.userId.or userId

/-- The loop of the sweep: the updates that it makes but does not commit, as pairs of a receipt and
a transaction, unless it is interrupted. -/
def retryMatches (L : Locale) (now : Timestamp) (userId : Option Uuid) :
    List SyncedReceipt → ℕ → SyncerStore → SyncerStore × Except SyncerError (List (Uuid × Uuid))
  | [], commits, db => (db, if commits < 1 then .error .unavailable else .ok [])
  | r :: unmatched, commits, db =>
    match matchAndOverrideTransaction L now (r.matchArgs userId) db with
    | .error e => (db, .error e)
    | .ok (none, db) => retryMatches L now userId unmatched commits db
    | .ok (some txnId, matched) =>
      if commits < 1 then (db, .error .unavailable) else
      let (db, updates) := retryMatches L now userId unmatched (commits - 1) matched
      (db, updates.map fun updates ↦ (r.id, txnId) :: updates)

/-- The second transaction of the sweep, which is committed after the loop. -/
def retryUnmatched (L : Locale) (now : Timestamp) (userId : Option Uuid) (commits : ℕ)
    (db : SyncerStore) : Outcome :=
  let unmatched := db.amazonReceipts.filter (isUnmatched now)
  match retryMatches L now userId unmatched commits db with
  | (db, .error e) => (db, .error e)
  | (db, .ok updates) =>
    ({ db with
      amazonReceipts := updates.foldl (fun receipts u ↦ setMatched now u.1 u.2 receipts)
        db.amazonReceipts }, .ok ())

/-- `sweep_unmatched_receipts`. -/
def sweepUnmatchedReceipts (L : Locale) (now : Timestamp) (userId : Option Uuid) (commits : ℕ)
    (db : SyncerStore) : Outcome :=
  if commits < 1 then (db, .error .unavailable) else
  match repointReceipts db with
  | .error e => (db, .error e)
  | .ok db => retryUnmatched L now userId (commits - 1) db

/-! ### The cycle -/

/-- The choices of the environment for one operation: the clock, a fresh id, and how many
transactions it commits before it is interrupted. -/
structure Turn where
  now : Timestamp
  newId : Uuid
  commits : ℕ

/-- A loop that ends with the first exception. -/
def inTurn {ι : Type} (body : Turn → ι → SyncerStore → Outcome) :
    List ι → (ℕ → Turn) → SyncerStore → Outcome
  | [], _, db => (db, .ok ())
  | x :: xs, turns, db =>
    match body (turns 0) x db with
    | (db, .error e) => (db, .error e)
    | (db, .ok ()) => inTurn body xs (fun n ↦ turns (n + 1)) db

/-- An email about an order: what is parsed from it, and the classifier's answer. -/
structure OrderEmail where
  orderId : String
  orderDate : NaiveDate
  amounts : List Decimal
  category : String
  subcategory : Option String
  userId : Option Uuid
deriving DecidableEq, Repr

/-- The charges that `process_email_message` loops over: none if all of them have their match, and
otherwise all, under the category of an earlier receipt of the order if there is one. -/
def OrderEmail.charges (email : OrderEmail) (db : SyncerStore) : List Charge :=
  let existing := db.amazonReceipts.filter fun r ↦ r.orderId = email.orderId
  if email.amounts.all fun amount ↦ existing.any fun r ↦
      r.amount = amount ∧ r.matchedTransactionId.isSome then []
  else
    let category := match existing.find? fun r ↦ r.category ≠ "" with
      | some r => (r.category, r.subcategory)
      | none => (email.category, email.subcategory)
    email.amounts.map fun amount ↦
      { orderId := email.orderId
        orderDate := email.orderDate
        amount := amount
        category := category.1
        subcategory := category.2
        userId := email.userId }

/-- `process_email_message`, for an order. -/
def processOrderEmail (L : Locale) (turns : ℕ → Turn) (email : OrderEmail) (db : SyncerStore) :
    Outcome :=
  inTurn (fun turn c ↦ processCharge L turn.now turn.newId c turn.commits)
    (email.charges db) turns db

/-- `process_subscribe_and_save_email`. -/
def processSubscribeAndSaveEmail (L : Locale) (turns : ℕ → Turn) (items : List Delivery)
    (db : SyncerStore) : Outcome :=
  inTurn (fun turn d ↦ processDelivery L turn.now turn.newId d turn.commits) items turns db

/-- What an email is parsed to. -/
inductive AmazonEmail where
  | order (email : OrderEmail)
  | subscribeAndSave (items : List Delivery)
deriving DecidableEq, Repr

/-- `process_email_message`. -/
def processEmailMessage (L : Locale) (turns : ℕ → Turn) (email : AmazonEmail) (db : SyncerStore) :
    Outcome :=
  match email with
  | .order email => processOrderEmail L turns email db
  | .subscribeAndSave items => processSubscribeAndSaveEmail L turns items db

/-- `run_sync`, on the emails of the mailbox. An error in one email is logged. -/
def runSync (L : Locale) (defaultUserId : Option Uuid) (emails : List (AmazonEmail × (ℕ → Turn)))
    (sweep : Turn) (db : SyncerStore) : Outcome :=
  sweepUnmatchedReceipts L sweep.now defaultUserId sweep.commits
    (emails.foldl (fun db email ↦ (processEmailMessage L email.2 email.1 db).1) db)

/-! ### The system -/

/-- The steps that change the tables. -/
inductive SyncerStep where
  | charge (turn : Turn) (c : Charge)
  | delivery (turn : Turn) (d : Delivery)
  /-- The first transaction of the sweep. -/
  | repoint
  /-- The second transaction of the sweep. -/
  | retry (turn : Turn) (userId : Option Uuid)
  /-- The backend has other transactions and overrides, and has pointed the receipts of the rows
  that it linked at the rows it linked them to. -/
  | bank (transactions : List TransactionRow) (overrides : List TransactionCategoryOverride)
      (links : List (Uuid × Uuid))

/-- Where the backend leaves the match of a receipt. The match goes with its transaction. -/
def relink (transactions : List TransactionRow) (links : List (Uuid × Uuid))
    (matched : Option Uuid) :
    Option Uuid :=
  (matched.map fun id ↦ (links.lookup id).getD id).filter fun id ↦
    id ∈ transactions.map TransactionRow.id

/-- One step. -/
def syncerStep (L : Locale) (db : SyncerStore) : SyncerStep → SyncerStore
  | .charge turn c => (processCharge L turn.now turn.newId c turn.commits db).1
  | .delivery turn d => (processDelivery L turn.now turn.newId d turn.commits db).1
  | .repoint => (repointReceipts db).toOption.getD db
  | .retry turn userId => (retryUnmatched L turn.now userId turn.commits db).1
  | .bank transactions overrides links =>
    { transactions := transactions
      transactionCategoryOverrides := overrides.filter fun o ↦
        o.transactionId ∈ transactions.map TransactionRow.id
      amazonReceipts := db.amazonReceipts.map fun r ↦
        { r with matchedTransactionId := relink transactions links r.matchedTransactionId } }

section Runs

variable {L : Locale}

/-- A loop over steps is a run. -/
theorem inTurn_run {ι : Type} {body : Turn → ι → SyncerStore → Outcome}
    (step : Turn → ι → SyncerStep)
    (hstep : ∀ turn x db, (body turn x db).1 = syncerStep L db (step turn x)) (xs : List ι)
    (turns : ℕ → Turn) (db : SyncerStore) :
    ∃ steps : List SyncerStep, (inTurn body xs turns db).1 = steps.foldl (syncerStep L) db := by
  induction xs generalizing turns db with
  | nil => exact ⟨[], rfl⟩
  | cons x xs ih =>
    have hhead := hstep (turns 0) x db
    rw [inTurn]
    rcases hbody : body (turns 0) x db with ⟨db', _ | ⟨⟩⟩
    · rw [hbody] at hhead
      exact ⟨[step (turns 0) x], hhead⟩
    · rw [hbody] at hhead
      obtain ⟨steps, hsteps⟩ := ih (fun n ↦ turns (n + 1)) db'
      refine ⟨step (turns 0) x :: steps, ?_⟩
      rw [List.foldl_cons, ← hhead]
      exact hsteps

/-- **An email is a run.** -/
theorem processEmailMessage_run (turns : ℕ → Turn) (email : AmazonEmail) (db : SyncerStore) :
    ∃ steps : List SyncerStep, (processEmailMessage L turns email db).1 =
      steps.foldl (syncerStep L) db := by
  cases email with
  | order email => exact inTurn_run .charge (fun _ _ _ ↦ rfl) _ turns db
  | subscribeAndSave items => exact inTurn_run .delivery (fun _ _ _ ↦ rfl) _ turns db

/-- **A sweep is a run.** -/
theorem sweepUnmatchedReceipts_run (turn : Turn) (userId : Option Uuid) (db : SyncerStore) :
    ∃ steps : List SyncerStep, (sweepUnmatchedReceipts L turn.now userId turn.commits db).1 =
      steps.foldl (syncerStep L) db := by
  rw [sweepUnmatchedReceipts]
  split
  · exact ⟨[], rfl⟩
  · cases hrepoint : repointReceipts db with
    | error e => exact ⟨[], rfl⟩
    | ok db' =>
      refine ⟨[.repoint, .retry { turn with commits := turn.commits - 1 } userId], ?_⟩
      have hfirst : syncerStep L db .repoint = db' := by
        rw [syncerStep, hrepoint]
        rfl
      rw [List.foldl_cons, hfirst]
      rfl

/-- **A cycle of the syncer is a run.** -/
theorem runSync_run (defaultUserId : Option Uuid) (emails : List (AmazonEmail × (ℕ → Turn)))
    (sweep : Turn) (db : SyncerStore) :
    ∃ steps : List SyncerStep, (runSync L defaultUserId emails sweep db).1 =
      steps.foldl (syncerStep L) db := by
  have hemails : ∀ db, ∃ steps : List SyncerStep,
      emails.foldl (fun db email ↦ (processEmailMessage L email.2 email.1 db).1) db =
        steps.foldl (syncerStep L) db := by
    induction emails with
    | nil => exact fun db ↦ ⟨[], rfl⟩
    | cons email emails ih =>
      intro db
      obtain ⟨first, hfirst⟩ := processEmailMessage_run (L := L) email.2 email.1 db
      obtain ⟨steps, hsteps⟩ := ih (processEmailMessage L email.2 email.1 db).1
      refine ⟨first ++ steps, ?_⟩
      rw [List.foldl_cons, hsteps, hfirst, List.foldl_append]
  obtain ⟨steps, hsteps⟩ := hemails db
  obtain ⟨last, hlast⟩ := sweepUnmatchedReceipts_run (L := L) sweep defaultUserId
    (steps.foldl (syncerStep L) db)
  exact ⟨steps ++ last, by rw [runSync, hsteps, hlast, List.foldl_append]⟩

end Runs

end Sumurai
