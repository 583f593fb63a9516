import Sumurai.Amazon.OneToOne
import Sumurai.Foundations.DecimalText
import Sumurai.Models.Dates

/-!
# Subscribe & Save mails

A mail about a delivery is read again at every cycle of the syncer. An item is known by its order
id, which is made from the month of the delivery and the start of its title (`snsOrderId`); a
receipt is known by the order id and the amount, which is that of the bank transaction found, or
else the price with the estimated tax (`Delivery.recordedAmount`).

So two titles that start alike have one order id, and an item that was recorded without a match gets
a second receipt when its transaction arrives at the price without tax. `subscribeAndSave_once` says
that these are the only ways: where the order ids of a mail are distinct and its items keep their
amounts, every run records each item once.
-/

open LabelledSystem

namespace Sumurai

/-! ### The mail -/

/-- `re.sub(r"[^a-zA-Z0-9]", "", title[:15])`. -/
def subKey (title : String) : List Char :=
  (title.toList.take 15).filter Char.isAlphanum

/-- `f"SNS-{delivery_date.strftime('%Y%m')}-{sub_key}"`. -/
def snsOrderId (deliveryDate : NaiveDate) (title : String) : String :=
  String.ofList ("SNS-".toList ++ ((toString (NaiveDate.year deliveryDate)).toList ++
    (Text.padded 2 (NaiveDate.month deliveryDate) ++ '-' :: subKey title)))

/-- An item of `extract_subscribe_and_save_items`. -/
structure SubscribeAndSaveItem where
  title : String
  preTax : Decimal
  taxed : Decimal
deriving DecidableEq, Repr

/-- What is read from a mail: the items, with the dates that `process_subscribe_and_save_email`
reads. -/
structure SubscribeAndSaveEmail where
  emailDate : NaiveDate
  deliveryDate : NaiveDate
  userId : Option Uuid
  items : List SubscribeAndSaveItem
  /-- `seen_titles`. -/
  titles_nodup : (items.map SubscribeAndSaveItem.title).Nodup

namespace SubscribeAndSaveEmail

variable (email : SubscribeAndSaveEmail)

/-- `order_id` of an item. -/
def orderId (item : SubscribeAndSaveItem) : String :=
  snsOrderId email.deliveryDate item.title

/-- The order ids of the items. -/
def orderIds : List String :=
  email.items.map email.orderId

/-- The items as the loop goes over them. `answer` is what the classifier answers to a title. -/
def deliveries (answer : String → String × Option String) : List Delivery :=
  email.items.map fun item ↦
    { orderId := email.orderId item
      emailDate := email.emailDate
      deliveryDate := email.deliveryDate
      preTax := item.preTax
      taxed := item.taxed
      category := (answer item.title).1
      subcategory := (answer item.title).2
      userId := email.userId }

end SubscribeAndSaveEmail

/-! ### Runs -/

/-- What happens around a mail: it is processed, receipts are swept, and the backend changes the
bank transactions. -/
inductive MailStep where
  | process (turns : ℕ → Turn) (answer : String → String × Option String)
  | sweep (turn : Turn) (userId : Option Uuid)
  | bank (transactions : List TransactionRow) (overrides : List TransactionCategoryOverride)
      (links : List (Uuid × Uuid))

section Run

variable (L : Locale) (email : SubscribeAndSaveEmail)

/-- One step. -/
def mailStep (db : SyncerStore) : MailStep → SyncerStore
  | .process turns answer =>
    (processSubscribeAndSaveEmail L turns (email.deliveries answer) db).1
  | .sweep turn userId => (sweepUnmatchedReceipts L turn.now userId turn.commits db).1
  | .bank transactions overrides links => syncerStep L db (.bank transactions overrides links)

/-- How processing the mail ends. -/
def mailOutcome (db : SyncerStore) : MailStep → Option (Except SyncerError Unit)
  | .process turns answer =>
    some (processSubscribeAndSaveEmail L turns (email.deliveries answer) db).2
  | _ => none

/-- `matched_amt`: the first of the two amounts that has a bank transaction, or else the one with
tax. -/
def Delivery.recordedAmount (db : SyncerStore) (d : Delivery) : Decimal :=
  ((firstSelected L db (d.matchArgs (d.classify (existingSub db d.orderId)))
    [d.taxed, d.preTax]).map Prod.fst).getD d.taxed

/-- An item whose receipt has no match yet is recorded with the amount of the receipt. -/
def Delivery.KeepsAmount (db : SyncerStore) (d : Delivery) : Prop :=
  ∀ r ∈ existingSub db d.orderId, r.matchedTransactionId = none → r.amount = d.recordedAmount L db

/-- Every item that the loop comes to keeps its amount. -/
def AllKeepAmount : List Delivery → (ℕ → Turn) → SyncerStore → Prop
  | [], _, _ => True
  | d :: ds, turns, db =>
    let after := processDelivery L (turns 0).now (turns 0).newId d (turns 0).commits db
    d.KeepsAmount L db ∧
      (after.2 = .ok () → AllKeepAmount ds (fun n ↦ turns (n + 1)) after.1)

/-- The order ids of the mail are distinct, and its items keep their amounts. -/
def ProcessesOnce (db : SyncerStore) : MailStep → Prop
  | .process turns answer =>
    email.orderIds.Nodup ∧ AllKeepAmount L (email.deliveries answer) turns db
  | _ => True

instance (db : SyncerStore) (d : Delivery) : Decidable (d.KeepsAmount L db) :=
  inferInstanceAs (Decidable (∀ r ∈ existingSub db d.orderId, _ → _))

instance decidableAllKeepAmount :
    ∀ ds turns db, Decidable (AllKeepAmount L ds turns db)
  | [], _, _ => inferInstanceAs (Decidable True)
  | d :: ds, turns, db =>
    haveI := decidableAllKeepAmount ds (fun n ↦ turns (n + 1))
      (processDelivery L (turns 0).now (turns 0).newId d (turns 0).commits db).1
    inferInstanceAs (Decidable (_ ∧ (_ → _)))

instance (db : SyncerStore) : ∀ step, Decidable (ProcessesOnce L email db step)
  | .process _ _ => inferInstanceAs (Decidable (_ ∧ _))
  | .sweep _ _ => inferInstanceAs (Decidable True)
  | .bank _ _ _ => inferInstanceAs (Decidable True)

end Run

/-- The receipts of the mail are one for each of its titles. -/
def RecordedOnce (email : SubscribeAndSaveEmail) (receipts : List SyncedReceipt) : Prop :=
  ((receipts.map (·.orderId)).filter (· ∈ email.orderIds)).Perm email.orderIds

/-- The receipts of an item are matched to one bank transaction at most. -/
def MatchedAtMostOnce (email : SubscribeAndSaveEmail) (receipts : List SyncedReceipt) : Prop :=
  ∀ orderId ∈ email.orderIds, ∀ r ∈ receipts, ∀ r' ∈ receipts, r.orderId = orderId →
    r'.orderId = orderId → ∀ id id', r.matchedTransactionId = some id →
      r'.matchedTransactionId = some id' → id = id'

/-! ### Order ids -/

/-- The order ids of the receipts. -/
def SyncerStore.receiptOrderIds (db : SyncerStore) : List String :=
  db.amazonReceipts.map (·.orderId)

section Steps

variable {L : Locale} {db : SyncerStore}

theorem orderIds_setMatched (now : Timestamp) (receiptId txnId : Uuid)
    (receipts : List SyncedReceipt) :
    (setMatched now receiptId txnId receipts).map (·.orderId) = receipts.map (·.orderId) := by
  rw [setMatched, List.map_map]
  refine List.map_congr_left fun r _ ↦ ?_
  rw [Function.comp_apply]
  split <;> rfl

theorem receiptOrderIds_repoint {db' : SyncerStore} (h : repointReceipts db = .ok db') :
    db'.receiptOrderIds = db.receiptOrderIds := by
  rw [repointReceipts] at h
  split at h
  · cases h
  · split at h
    · cases h
    · obtain rfl := Except.ok.inj h
      rw [SyncerStore.receiptOrderIds, SyncerStore.receiptOrderIds, List.map_map]
      rfl

theorem receiptOrderIds_retry (now : Timestamp) (userId : Option Uuid) (commits : ℕ) :
    (retryUnmatched L now userId commits db).1.receiptOrderIds = db.receiptOrderIds := by
  obtain ⟨hsame, -⟩ := retryMatches_cases L now userId (db.amazonReceipts.filter (isUnmatched now))
    commits (rfl : db.transactions = db.transactions) rfl
  rw [retryUnmatched]
  split
  · rename_i db' e hretry
    rw [hretry] at hsame
    exact congrArg (List.map fun r : SyncedReceipt ↦ r.orderId) hsame
  · rename_i db' updates hretry
    rw [hretry] at hsame
    rw [SyncerStore.receiptOrderIds, SyncerStore.receiptOrderIds, ← hsame]
    refine List.foldlRecOn (motive := fun receipts : List SyncedReceipt ↦
      receipts.map (·.orderId) = db'.amazonReceipts.map (·.orderId)) updates _ rfl
        fun receipts ih u _ ↦ ?_
    rw [orderIds_setMatched, ih]

/-- A sweep adds no receipts. -/
theorem receiptOrderIds_sweep (now : Timestamp) (userId : Option Uuid) (commits : ℕ) :
    (sweepUnmatchedReceipts L now userId commits db).1.receiptOrderIds = db.receiptOrderIds := by
  rw [sweepUnmatchedReceipts]
  split
  · rfl
  · split
    · rfl
    · rename_i db' hrepoint
      rw [receiptOrderIds_retry, receiptOrderIds_repoint hrepoint]

theorem mem_receiptOrderIds_of_existingSub {orderId : String} {r : SyncedReceipt}
    (h : existingSub db orderId = some r) :
    r ∈ db.amazonReceipts ∧ r.orderId = orderId := by
  have hid := List.find?_some h
  exact ⟨List.mem_of_find?_eq_some h, of_decide_eq_true hid⟩

/-- No order gets a second receipt, and none loses its receipt. -/
structure GrowsOnce (ids ids' : List String) : Prop where
  count_le : ∀ id, ids.count id ≤ 1 → ids'.count id ≤ 1
  subset : ids ⊆ ids'

theorem GrowsOnce.refl (ids : List String) : GrowsOnce ids ids :=
  ⟨fun _ hle ↦ hle, List.Subset.refl ids⟩

theorem GrowsOnce.trans {ids ids' ids'' : List String} (h : GrowsOnce ids ids')
    (h' : GrowsOnce ids' ids'') : GrowsOnce ids ids'' :=
  ⟨fun id hle ↦ h'.count_le id (h.count_le id hle), List.Subset.trans h.subset h'.subset⟩

theorem GrowsOnce.concat {ids : List String} {newId : String} (hnew : newId ∉ ids) :
    GrowsOnce ids (ids ++ [newId]) := by
  refine ⟨fun id hle ↦ ?_, List.subset_append_left _ _⟩
  rw [List.count_append, List.count_singleton]
  split
  · rename_i hid
    rw [beq_iff_eq] at hid
    rw [← hid, List.count_eq_zero.2 hnew]
  · exact hle

/-- **What an upsert adds**: the receipt of the order and the amount, where there is none. -/
theorem upsertReceipt_orderIds {now : Timestamp} {newId : Uuid} {d : Delivery}
    {category : String × Option String} {amount : Decimal} {txnId : Option Uuid}
    {receipts receipts' : List SyncedReceipt}
    (h : upsertReceipt now newId d category amount txnId receipts = .ok receipts') :
    ((findReceipt receipts d.orderId amount).isSome ∧
        receipts'.map (·.orderId) = receipts.map (·.orderId)) ∨
      findReceipt receipts d.orderId amount = none ∧
        receipts'.map (·.orderId) = receipts.map (·.orderId) ++ [d.orderId] := by
  rw [upsertReceipt] at h
  split at h
  · rename_i hfind
    obtain rfl := Except.ok.inj h
    refine Or.inl ⟨hfind, ?_⟩
    rw [List.map_map]
    refine List.map_congr_left fun r _ ↦ ?_
    rw [Function.comp_apply]
    split <;> rfl
  · rename_i hfind
    split at h
    · cases h
    · obtain rfl := Except.ok.inj h
      refine Or.inr ⟨Option.not_isSome_iff_eq_none.1 hfind, ?_⟩
      rw [List.map_append]
      rfl

/-- What recording an item adds, where its amount is kept. -/
theorem orderIds_of_upsert {d : Delivery} {now : Timestamp} {newId : Uuid}
    {category : String × Option String} {amount : Decimal} {txnId : Option Uuid}
    {receipts' : List SyncedReceipt}
    (hkeeps : ∀ r ∈ existingSub db d.orderId, r.amount = amount)
    (h : upsertReceipt now newId d category amount txnId db.amazonReceipts = .ok receipts') :
    GrowsOnce db.receiptOrderIds (receipts'.map (·.orderId)) ∧
      d.orderId ∈ receipts'.map (·.orderId) := by
  obtain ⟨hfind, hsame⟩ | ⟨hnone, hadded⟩ := upsertReceipt_orderIds h
  · obtain ⟨r, hr, hkey⟩ := exists_of_findReceipt_isSome hfind
    rw [hsame]
    exact ⟨.refl _, List.mem_map.2 ⟨r, hr, congrArg Prod.fst hkey⟩⟩
  · have hnew : d.orderId ∉ db.receiptOrderIds := by
      intro hmem
      -- a receipt of the order would be of the amount
      cases hexisting : existingSub db d.orderId with
      | none =>
        obtain ⟨r, hr, hid⟩ := List.mem_map.1 hmem
        exact List.find?_eq_none.1 hexisting r hr (decide_eq_true hid)
      | some r =>
        obtain ⟨hr, hid⟩ := mem_receiptOrderIds_of_existingSub hexisting
        exact findReceipt_eq_none hnone
          (List.mem_map.2 ⟨r, hr, Prod.ext hid (hkeeps r hexisting)⟩)
    rw [hadded]
    exact ⟨.concat hnew, List.mem_append_right _ (List.mem_singleton_self _)⟩

/-- An amount that is kept is kept by the item's receipt, if that has no match. -/
theorem amount_of_keepsAmount {d : Delivery} (h : d.KeepsAmount L db)
    (hunmatched : ¬((existingSub db d.orderId).bind fun r ↦ r.matchedTransactionId).isSome) :
    ∀ r ∈ existingSub db d.orderId, r.amount = d.recordedAmount L db := by
  intro r hr
  have hsub : existingSub db d.orderId = some r := hr
  refine h r hr ?_
  by_contra hne
  rw [hsub, Option.bind_some] at hunmatched
  exact hunmatched (Option.isSome_iff_ne_none.2 hne)

/-- **What processing an item does**: its receipt is there, or is added where there was none. -/
theorem processDelivery_orderIds {d : Delivery} (h : d.KeepsAmount L db) (turn : Turn) :
    let after := processDelivery L turn.now turn.newId d turn.commits db
    GrowsOnce db.receiptOrderIds after.1.receiptOrderIds ∧
      (after.2 = .ok () → d.orderId ∈ after.1.receiptOrderIds) := by
  dsimp only
  rw [processDelivery]
  dsimp only
  split
  · -- the receipt that is looked at has its match
    rename_i hmatched
    obtain ⟨id, hid⟩ := Option.isSome_iff_exists.1 hmatched
    obtain ⟨r, hr, -⟩ := Option.bind_eq_some_iff.1 hid
    obtain ⟨hmem, horder⟩ := mem_receiptOrderIds_of_existingSub hr
    exact ⟨.refl _, fun _ ↦ List.mem_map.2 ⟨r, hmem, horder⟩⟩
  rename_i hunmatched
  split
  · exact ⟨.refl _, fun hok ↦ by cases hok⟩
  have hkeeps := amount_of_keepsAmount h hunmatched
  rw [Delivery.recordedAmount] at hkeeps
  obtain ⟨hfirst, hmatch⟩ | ⟨amount, t, hfirst, ⟨-, db', hreceipts, hmatch⟩ | ⟨-, e, hmatch⟩⟩ :=
    matchAmounts_cases L db turn.now (d.matchArgs (d.classify (existingSub db d.orderId)))
      [d.taxed, d.preTax]
  · rw [hmatch]
    rw [hfirst] at hkeeps
    dsimp only
    rw [if_neg (by simp)]
    split
    · exact ⟨.refl _, fun hok ↦ by cases hok⟩
    · rename_i receipts hupsert
      obtain ⟨hgrows, hmem⟩ := orderIds_of_upsert hkeeps hupsert
      exact ⟨hgrows, fun _ ↦ hmem⟩
  · rw [hmatch]
    rw [hfirst] at hkeeps
    dsimp only
    have hsame : db'.receiptOrderIds = db.receiptOrderIds :=
      congrArg (List.map fun r : SyncedReceipt ↦ r.orderId) hreceipts
    split
    · exact ⟨hsame ▸ .refl _, fun hok ↦ by cases hok⟩
    · rw [hreceipts]
      split
      · exact ⟨hsame ▸ .refl _, fun hok ↦ by cases hok⟩
      · rename_i receipts hupsert
        obtain ⟨hgrows, hmem⟩ := orderIds_of_upsert hkeeps hupsert
        exact ⟨hgrows, fun _ ↦ hmem⟩
  · rw [hmatch]
    exact ⟨.refl _, fun hok ↦ by cases hok⟩

/-- **What processing the mail does**: it adds no second receipt of an order, and if it comes to its
end the receipts of all items are there. -/
theorem inTurn_orderIds {ds : List Delivery} {turns : ℕ → Turn} (h : AllKeepAmount L ds turns db) :
    let after := inTurn (fun turn d ↦ processDelivery L turn.now turn.newId d turn.commits) ds
      turns db
    GrowsOnce db.receiptOrderIds after.1.receiptOrderIds ∧
      (after.2 = .ok () → ∀ d ∈ ds, d.orderId ∈ after.1.receiptOrderIds) := by
  induction ds generalizing turns db with
  | nil => exact ⟨.refl _, fun _ d hd ↦ absurd hd List.not_mem_nil⟩
  | cons d ds ih =>
    obtain ⟨hkeeps, hrest⟩ := h
    have hfirst := processDelivery_orderIds hkeeps (turns 0)
    dsimp only at hfirst ⊢
    rw [inTurn]
    generalize processDelivery L (turns 0).now (turns 0).newId d (turns 0).commits db = after
      at hfirst hrest
    obtain ⟨db', outcome⟩ := after
    obtain ⟨hgrows, hmem⟩ := hfirst
    cases outcome with
    | error e => exact ⟨hgrows, fun hok ↦ by cases hok⟩
    | ok u =>
      obtain ⟨hlater, hall⟩ := ih (hrest rfl)
      exact ⟨hgrows.trans hlater, fun hok ↦
        List.forall_mem_cons.2 ⟨hlater.subset (hmem rfl), hall hok⟩⟩

/-- **What a step does** to the order ids. -/
theorem mailStep_orderIds {email : SubscribeAndSaveEmail} {step : MailStep}
    (h : ProcessesOnce L email db step) :
    GrowsOnce db.receiptOrderIds (mailStep L email db step).receiptOrderIds ∧
      (mailOutcome L email db step = some (.ok ()) → email.orderIds.Nodup ∧
        ∀ id ∈ email.orderIds, id ∈ (mailStep L email db step).receiptOrderIds) := by
  cases step with
  | process turns answer =>
    obtain ⟨hnodup, hkeep⟩ := h
    obtain ⟨hgrows, hall⟩ := inTurn_orderIds hkeep
    refine ⟨hgrows, fun hok ↦ ⟨hnodup, fun id hid ↦ ?_⟩⟩
    obtain ⟨item, hitem, rfl⟩ := List.mem_map.1 hid
    exact hall (Option.some.inj hok) _ (List.mem_map_of_mem hitem)
  | sweep turn userId =>
    have hsame : (mailStep L email db (.sweep turn userId)).receiptOrderIds = db.receiptOrderIds :=
      receiptOrderIds_sweep turn.now userId turn.commits
    rw [hsame]
    exact ⟨.refl _, fun hok ↦ by cases hok⟩
  | bank transactions overrides links =>
    have hsame : (mailStep L email db (.bank transactions overrides links)).receiptOrderIds =
        db.receiptOrderIds := by
      rw [SyncerStore.receiptOrderIds, SyncerStore.receiptOrderIds, mailStep, syncerStep,
        List.map_map]
      rfl
    rw [hsame]
    exact ⟨.refl _, fun hok ↦ by cases hok⟩

end Steps

/-! ### What the runs record -/

/-- Distinct order ids that are each there once are recorded once. -/
theorem recordedOnce_of_count {email : SubscribeAndSaveEmail} {receipts : List SyncedReceipt}
    (hnodup : email.orderIds.Nodup)
    (hcount : ∀ id ∈ email.orderIds, (receipts.map (·.orderId)).count id ≤ 1)
    (hmem : ∀ id ∈ email.orderIds, id ∈ receipts.map (·.orderId)) :
    RecordedOnce email receipts := by
  refine List.perm_iff_count.2 fun id ↦ ?_
  by_cases hid : id ∈ email.orderIds
  · have hpos := List.count_pos_iff.2 (hmem id hid)
    have hle := hcount id hid
    rw [List.count_eq_one_of_mem hnodup hid, List.count_filter]
    · omega
    · exact decide_eq_true hid
  · rw [List.count_eq_zero.2 hid, List.count_eq_zero]
    exact fun h ↦ hid (of_decide_eq_true (List.mem_filter.1 h).2)

/-- Of an order with one receipt at most, one transaction is matched at most. -/
theorem matchedAtMostOnce_of_count {email : SubscribeAndSaveEmail} {receipts : List SyncedReceipt}
    (hcount : ∀ id ∈ email.orderIds, (receipts.map (·.orderId)).count id ≤ 1) :
    MatchedAtMostOnce email receipts := by
  intro orderId horder r hr r' hr' hid hid' id id' hmatched hmatched'
  have hle := hcount orderId horder
  rw [List.count_eq_length_filter, List.filter_map, List.length_map] at hle
  have hmem {s : SyncedReceipt} (hs : s ∈ receipts) (hsid : s.orderId = orderId) :
      s ∈ receipts.filter ((· == orderId) ∘ (·.orderId)) :=
    List.mem_filter.2 ⟨hs, beq_iff_eq.2 hsid⟩
  obtain ⟨s, hs⟩ := List.length_eq_one_iff.1
    (le_antisymm hle (List.length_pos_of_mem (hmem hr hid)))
  have hrs := hmem hr hid
  have hrs' := hmem hr' hid'
  rw [hs, List.mem_singleton] at hrs hrs'
  rw [hrs] at hmatched
  rw [hrs'] at hmatched'
  exact Option.some.inj (hmatched.symm.trans hmatched')

section Runs

variable {L : Locale} {email : SubscribeAndSaveEmail} {db : SyncerStore}

/-- What a run does to the order ids. -/
theorem steps_orderIds {steps : List MailStep}
    (h : Guarded (mailStep L email) (ProcessesOnce L email) db steps) :
    let after := steps.foldl (mailStep L email) db
    GrowsOnce db.receiptOrderIds after.receiptOrderIds ∧
      (.ok () ∈ outputs (mailStep L email) (mailOutcome L email) db steps →
        email.orderIds.Nodup ∧ ∀ id ∈ email.orderIds, id ∈ after.receiptOrderIds) := by
  induction steps generalizing db with
  | nil => exact ⟨.refl _, fun hok ↦ absurd hok List.not_mem_nil⟩
  | cons step steps ih =>
    obtain ⟨hgrows, hstep⟩ := mailStep_orderIds h.1
    obtain ⟨hlater, hrest⟩ := ih h.2
    refine ⟨hgrows.trans hlater, fun hok ↦ ?_⟩
    obtain hnow | hthen := List.mem_append.1 hok
    · obtain ⟨hnodup, hmem⟩ := hstep (Option.mem_toList.1 hnow)
      exact ⟨hnodup, fun id hid ↦ hlater.subset (hmem id hid)⟩
    · exact hrest hthen

/-- **Subscribe & Save mails.** In every run whose steps keep the order ids distinct and the amounts
of the items, no item is matched to two bank transactions, and once the mail has been processed to
its end its receipts are one for each title. -/
theorem subscribeAndSave_once (hnone : ∀ id ∈ email.orderIds, id ∉ db.receiptOrderIds)
    {steps : List MailStep} (h : Guarded (mailStep L email) (ProcessesOnce L email) db steps) :
    MatchedAtMostOnce email (steps.foldl (mailStep L email) db).amazonReceipts ∧
      (.ok () ∈ outputs (mailStep L email) (mailOutcome L email) db steps →
        RecordedOnce email (steps.foldl (mailStep L email) db).amazonReceipts) := by
  obtain ⟨hgrows, hmem⟩ := steps_orderIds h
  have hcount : ∀ id ∈ email.orderIds,
      (steps.foldl (mailStep L email) db).receiptOrderIds.count id ≤ 1 := fun id hid ↦
    hgrows.count_le id (List.count_eq_zero.2 (hnone id hid) ▸ Nat.zero_le 1)
  refine ⟨matchedAtMostOnce_of_count hcount, fun hok ↦ ?_⟩
  obtain ⟨hnodup, hall⟩ := hmem hok
  exact recordedOnce_of_count hnodup hcount hall

end Runs

instance (email : SubscribeAndSaveEmail) (receipts : List SyncedReceipt) :
    Decidable (RecordedOnce email receipts) :=
  inferInstanceAs (Decidable (List.Perm _ _))

/-- A mail of day 100 about items of 25.00, which are 26.50 with the estimated tax. -/
def subscribeAndSaveMail (titles : List String) (h : titles.Nodup) : SubscribeAndSaveEmail where
  emailDate := 100
  deliveryDate := 107
  userId := some 7
  items := titles.map fun title ↦ ⟨title, 2500, 2650⟩
  titles_nodup := by
    rw [List.map_map]
    exact (List.map_id titles).symm ▸ h

/-- Processing the mail without an interruption, with receipts numbered from `newId`. -/
def processMail (newId : ℕ) : MailStep :=
  .process (fun n ↦ amazonTurn (newId + n)) fun _ ↦ ("Shopping", none)

/-- A mail that is read again when its transaction has arrived at the price with tax. -/
theorem subscribeAndSave_once_taxed :
    let email := subscribeAndSaveMail ["Coffee Beans"] (by decide)
    let steps := [processMail 1, .bank [{ amazonTransaction 1 with amount := 2650 }] [] [],
      processMail 2, .sweep (amazonTurn 0) (some 7), processMail 3]
    MatchedAtMostOnce email
        (steps.foldl (mailStep Locale.c email) ⟨[], [], []⟩).amazonReceipts ∧
      (.ok () ∈ outputs (mailStep Locale.c email) (mailOutcome Locale.c email) ⟨[], [], []⟩ steps →
        RecordedOnce email
          (steps.foldl (mailStep Locale.c email) ⟨[], [], []⟩).amazonReceipts) :=
  subscribeAndSave_once (by decide) (by decide)

/-- **Two receipts of one title, one receipt of two.** An item that is recorded with tax and found
without it has two receipts. Two titles that start alike, at one price, have one. -/
theorem recorded_twice :
    (let email := subscribeAndSaveMail ["Coffee Beans"] (by decide)
      let last := [processMail 1, .bank [amazonTransaction 1] [] [], processMail 2].foldl
        (mailStep Locale.c email) ⟨[], [], []⟩
      (last.amazonReceipts.map fun r ↦ (r.orderId, r.amount, r.matchedTransactionId)) =
          [("SNS-197004-CoffeeBeans", 2650, none), ("SNS-197004-CoffeeBeans", 2500, some 1)] ∧
        ¬RecordedOnce email last.amazonReceipts) ∧
      let email := subscribeAndSaveMail ["Cascade Platinum", "Cascade Platinum Plus"] (by decide)
      let last := [processMail 1].foldl (mailStep Locale.c email) ⟨[], [], []⟩
      (last.amazonReceipts.map fun r ↦ (r.orderId, r.amount, r.matchedTransactionId)) =
          [("SNS-197004-CascadePlatinu", 2650, none)] ∧
        ¬RecordedOnce email last.amazonReceipts := by
  decide

end Sumurai
