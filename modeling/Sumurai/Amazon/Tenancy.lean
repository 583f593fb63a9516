import Sumurai.Amazon.Syncer

/-!
# Receipts and the user they belong to

`match_and_override_transaction` takes the user of the receipt, and uses it only where the selected
row has none. No predicate of its query mentions a user, so the nearest row of any user is selected,
and the override is written for the row's own user.

`staysWithinUser_iff` says when the function nevertheless stays within the user: when, in the order
of the query, every candidate of another user comes after one of the user's own. Under that
condition a charge, a delivery and a sweep leave the overrides of the other users' transactions as
they are (`overridesOf_charge`, `overridesOf_delivery`, `overridesOf_retry`).
-/

namespace Sumurai

/-- A row of the user, which is not the duplicate of a row of another user. -/
def OwnRow (db : SyncerStore) (userId : Uuid) (t : TransactionRow) : Prop :=
  t.userId = some userId ∧
    ∀ s ∈ db.transactions, s.id = t.overriddenId → s.userId = some userId

instance (db : SyncerStore) (userId : Uuid) (t : TransactionRow) :
    Decidable (OwnRow db userId t) :=
  inferInstanceAs (Decidable (_ ∧ ∀ s ∈ db.transactions, _))

/-- **Amazon receipts stay within their user**: a call for a receipt of a user selects a transaction
of the user, and overrides the category of a transaction of the user. -/
def StaysWithinUser (L : Locale) (now : Timestamp) (db : SyncerStore) (args : MatchArgs) : Prop :=
  ∀ u, args.userId = some u →
    (∀ t, selectedRow L db args = some t → t.userId = some u) ∧
      ∀ id db', matchAndOverrideTransaction L now args db = .ok (some id, db') →
        ∀ s ∈ db.transactions, s.id = id → s.userId = some u

/-- In the order of the query, every candidate that is not the user's own comes after one that
is. -/
def OwnFirst (L : Locale) (db : SyncerStore) (args : MatchArgs) : Prop :=
  ∀ u, args.userId = some u →
    ∀ (j : ℕ) t, (receiptCandidates L db args)[j]? = some t → ¬ OwnRow db u t →
      ∃ i < j, ∃ s, (receiptCandidates L db args)[i]? = some s ∧ OwnRow db u s

section Call

variable {L : Locale} {now : Timestamp} {db db' : SyncerStore} {args : MatchArgs}
  {t : TransactionRow} {u id : Uuid}

/-- The condition is one on the row that is selected. -/
theorem ownFirst_iff :
    OwnFirst L db args ↔ ∀ u, args.userId = some u →
      ∀ t, selectedRow L db args = some t → OwnRow db u t :=
  forall₂_congr fun _ _ ↦ OrderBy.forall_head?_iff.symm

/-- The id that is returned is that of the overridden row. -/
theorem selectedRow_of_matchAndOverrideTransaction
    (h : matchAndOverrideTransaction L now args db = .ok (some id, db')) :
    ∃ t, selectedRow L db args = some t ∧ t.overriddenId = id := by
  cases hrow : selectedRow L db args with
  | none =>
    rw [matchAndOverrideTransaction_none now hrow] at h
    cases h
  | some t =>
    rcases matchAndOverrideTransaction_some now hrow with
      ⟨-, db'', hmatch, -, -⟩ | ⟨-, e, hmatch⟩
    · rw [hmatch] at h
      exact ⟨t, rfl, Option.some.inj (Prod.mk.inj (Except.ok.inj h)).1⟩
    · rw [hmatch] at h
      cases h

/-- A receipt of 25.00 of user 7. -/
def receiptOfSeven : MatchArgs where
  orderId := "111"
  orderDate := 100
  amount := 2500
  category := "Shopping"
  subcategory := none
  userId := some 7

/-- The only transaction of 25.00 at Amazon is one of user 8. -/
def transactionOfEight : TransactionRow :=
  { checkingTransaction 1 101 2500 with merchantName := some "AMAZON MKTPL", userId := some 8 }

end Call

/-! ### The overrides of the other users -/

/-- The overrides of a transaction. -/
def overridesOf (db : SyncerStore) (id : Uuid) : List TransactionCategoryOverride :=
  db.transactionCategoryOverrides.filter fun o ↦ o.transactionId = id

section Overrides

variable {L : Locale} {now : Timestamp} {db db' : SyncerStore} {args : MatchArgs}
  {o : TransactionCategoryOverride} {s : TransactionRow} {u id : Uuid}

/-- An upsert leaves the overrides of other transactions. -/
theorem overridesOf_upsertOverride (h : upsertOverride db o = .ok db')
    (hid : id ≠ o.transactionId) :
    overridesOf db' id = overridesOf db id := by
  rw [upsertOverride] at h
  split at h
  · cases h
  split at h
  · obtain rfl := Except.ok.inj h
    have hcomp : ∀ rows : List TransactionCategoryOverride, (rows.map fun r ↦
        if r.transactionId = o.transactionId ∧ r.userId = o.userId then
          { r with categoryName := o.categoryName, subcategoryName := o.subcategoryName }
        else r).filter (fun r ↦ r.transactionId = id) =
          rows.filter fun r ↦ r.transactionId = id := by
      intro rows
      induction rows with
      | nil => rfl
      | cons r rows ih =>
        rw [List.map_cons, List.filter_cons, List.filter_cons, ih]
        by_cases hr : r.transactionId = o.transactionId ∧ r.userId = o.userId
        · -- a row that is rewritten is not one of the transaction
          have hne : r.transactionId ≠ id := fun heq ↦ hid (heq.symm.trans hr.1)
          rw [if_pos hr]
          simp [hne]
        · rw [if_neg hr]
    exact hcomp _
  · obtain rfl := Except.ok.inj h
    simp [overridesOf, hid.symm]

/-- **A call leaves the overrides of other users' transactions.** -/
theorem overridesOf_matchAndOverrideTransaction {matched : Option Uuid}
    (huser : args.userId = some u)
    (hown : OwnFirst L db args) (hs : s ∈ db.transactions) (hother : s.userId ≠ some u)
    (h : matchAndOverrideTransaction L now args db = .ok (matched, db')) :
    overridesOf db' s.id = overridesOf db s.id := by
  rw [matchAndOverrideTransaction] at h
  split at h
  · obtain ⟨-, rfl⟩ := Prod.mk.inj (Except.ok.inj h)
    rfl
  rename_i t ht
  split at h
  · cases h
  cases hupsert : upsertOverride db _ with
  | error e =>
    rw [hupsert] at h
    cases h
  | ok db'' =>
    rw [hupsert] at h
    obtain ⟨-, rfl⟩ := Prod.mk.inj (Except.ok.inj h)
    refine overridesOf_upsertOverride hupsert fun hid ↦ hother ?_
    exact (ownFirst_iff.1 hown u huser t ht).2 s hs hid

/-- The condition speaks of the transactions, and of what is matched to what. -/
theorem OwnFirst.congr (h : OwnFirst L db args) (htransactions : db'.transactions = db.transactions)
    (hfree : ∀ t, freeForOrder db'.amazonReceipts args.orderId t =
      freeForOrder db.amazonReceipts args.orderId t) : OwnFirst L db' args := by
  rw [ownFirst_iff] at h ⊢
  intro u hu t ht
  rw [selectedRow_congr htransactions hfree] at ht
  rw [OwnRow, htransactions]
  exact h u hu t ht

/-- Recording a charge leaves the transactions and the overrides, and matches nothing. -/
theorem recordReceipt_ok {newId : Uuid} {c : Charge} {receiptId : Option Uuid}
    (h : recordReceipt newId c db = .ok (receiptId, db')) :
    db'.transactions = db.transactions ∧
      db'.transactionCategoryOverrides = db.transactionCategoryOverrides ∧
      ∀ orderId t, freeForOrder db'.amazonReceipts orderId t =
        freeForOrder db.amazonReceipts orderId t := by
  rw [recordReceipt] at h
  split at h
  · split at h <;>
    · obtain ⟨-, rfl⟩ := Prod.mk.inj (Except.ok.inj h)
      exact ⟨rfl, rfl, fun _ _ ↦ rfl⟩
  · split at h
    · cases h
    · obtain ⟨-, rfl⟩ := Prod.mk.inj (Except.ok.inj h)
      exact ⟨rfl, rfl, freeForOrder_append rfl⟩

/-- **A charge stays within its user.** -/
theorem overridesOf_charge {turn : Turn} {c : Charge} (huser : c.userId = some u)
    (hown : OwnFirst L db c.matchArgs) (hs : s ∈ db.transactions) (hother : s.userId ≠ some u) :
    overridesOf (syncerStep L db (.charge turn c)) s.id = overridesOf db s.id := by
  rw [syncerStep, processCharge]
  split
  · rfl
  split
  · rfl
  · rename_i hrecord
    exact congrArg (List.filter _) (recordReceipt_ok hrecord).2.1
  · rename_i receiptId recorded hrecord
    obtain ⟨htransactions, hoverrides, hfree⟩ := recordReceipt_ok hrecord
    have hrecorded : overridesOf recorded s.id = overridesOf db s.id :=
      congrArg (List.filter _) hoverrides
    have hcall : ∀ matched db', matchAndOverrideTransaction L turn.now c.matchArgs recorded =
        .ok (matched, db') → overridesOf db' s.id = overridesOf db s.id := fun matched db' h ↦
      (overridesOf_matchAndOverrideTransaction huser (hown.congr htransactions (hfree _))
        (htransactions ▸ hs) hother h).trans hrecorded
    rw [matchCharge]
    split
    · exact hrecorded
    split
    · exact hrecorded
    · exact hcall _ _ (by assumption)
    · rename_i hmatch
      have hmatched := hcall _ _ hmatch
      split <;> exact hmatched

/-- The loop over the amounts of a delivery leaves the overrides of other users' transactions. -/
theorem overridesOf_matchAmounts {args : Decimal → MatchArgs} {amounts : List Decimal}
    {matched : Option (Decimal × Uuid)} (huser : ∀ amount, (args amount).userId = some u)
    (hown : ∀ amount ∈ amounts, OwnFirst L db (args amount)) (hs : s ∈ db.transactions)
    (hother : s.userId ≠ some u) (h : matchAmounts L now args amounts db = .ok (matched, db')) :
    overridesOf db' s.id = overridesOf db s.id := by
  induction amounts with
  | nil =>
    obtain ⟨-, rfl⟩ := Prod.mk.inj (Except.ok.inj h)
    rfl
  | cons amount amounts ih =>
    obtain ⟨hhead, htail⟩ := List.forall_mem_cons.1 hown
    rw [matchAmounts] at h
    cases hrow : selectedRow L db (args amount) with
    | none =>
      rw [matchAndOverrideTransaction_none now hrow] at h
      exact ih htail h
    | some t =>
      rcases matchAndOverrideTransaction_some now hrow with
        ⟨-, db'', hmatch, -, -⟩ | ⟨-, e, hmatch⟩
      · rw [hmatch] at h
        obtain ⟨-, rfl⟩ := Prod.mk.inj (Except.ok.inj h)
        exact overridesOf_matchAndOverrideTransaction (huser amount) hhead hs hother hmatch
      · rw [hmatch] at h
        cases h

/-- **A delivery stays within its user.** -/
theorem overridesOf_delivery {turn : Turn} {d : Delivery} (huser : d.userId = some u)
    (hown : ∀ amount ∈ [d.taxed, d.preTax],
      OwnFirst L db (d.matchArgs (d.classify (existingSub db d.orderId)) amount))
    (hs : s ∈ db.transactions) (hother : s.userId ≠ some u) :
    overridesOf (syncerStep L db (.delivery turn d)) s.id = overridesOf db s.id := by
  rw [syncerStep, processDelivery]
  dsimp only
  split
  · rfl
  split
  · rfl
  split
  · rfl
  · rename_i hmatch
    have hmatched := overridesOf_matchAmounts (fun _ ↦ huser) hown hs hother hmatch
    split
    · exact hmatched
    · split <;> exact hmatched

/-- **A sweep stays within the users of its receipts**: the overrides of a transaction that none of
them owns are left. -/
theorem overridesOf_retry {turn : Turn} {userId : Option Uuid} (hs : s ∈ db.transactions)
    (hown : ∀ r ∈ db.amazonReceipts, OwnFirst L db (r.matchArgs userId) ∧
      ∃ u, (r.matchArgs userId).userId = some u ∧ s.userId ≠ some u) :
    overridesOf (syncerStep L db (.retry turn userId)) s.id = overridesOf db s.id := by
  have hloop : ∀ unmatched : List SyncedReceipt, (∀ r ∈ unmatched, r ∈ db.amazonReceipts) →
      ∀ (commits : ℕ) (db' : SyncerStore), db'.transactions = db.transactions →
        db'.amazonReceipts = db.amazonReceipts → overridesOf db' s.id = overridesOf db s.id →
        overridesOf (retryMatches L turn.now userId unmatched commits db').1 s.id =
          overridesOf db s.id := by
    intro unmatched
    induction unmatched with
    | nil => exact fun _ _ _ _ _ hdb' ↦ hdb'
    | cons r unmatched ih =>
      intro hmem commits db' htransactions hreceipts hdb'
      obtain ⟨hr, hunmatched⟩ := List.forall_mem_cons.1 hmem
      obtain ⟨hfirst, u, hu, hother⟩ := hown r hr
      have hfirst' : OwnFirst L db' (r.matchArgs userId) :=
        hfirst.congr htransactions fun t ↦ by rw [hreceipts]
      rw [retryMatches]
      cases hrow : selectedRow L db' (r.matchArgs userId) with
      | none =>
        rw [matchAndOverrideTransaction_none _ hrow]
        exact ih hunmatched commits db' htransactions hreceipts hdb'
      | some t =>
        rcases matchAndOverrideTransaction_some turn.now hrow with
          ⟨-, db'', hmatch, htransactions', hreceipts'⟩ | ⟨-, e, hmatch⟩
        · have hmatched := overridesOf_matchAndOverrideTransaction hu hfirst' (htransactions ▸ hs)
            hother hmatch
          rw [hmatch]
          dsimp only
          split
          · exact hdb'
          · exact ih hunmatched _ db'' (htransactions'.trans htransactions)
              (hreceipts'.trans hreceipts) (hmatched.trans hdb')
        · rw [hmatch]
          exact hdb'
  have hall := hloop (db.amazonReceipts.filter (isUnmatched turn.now))
    (fun r hr ↦ (List.mem_filter.1 hr).1) turn.commits db rfl rfl rfl
  rw [syncerStep, retryUnmatched]
  split
  · rename_i hretry
    rw [hretry] at hall
    exact hall
  · rename_i hretry
    rw [hretry] at hall
    exact hall

end Overrides

end Sumurai
