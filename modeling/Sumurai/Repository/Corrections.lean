import Sumurai.Repository.Transactions

/-!
# Corrections of a transaction

A provider reports a transaction again when it posts or when something about it changes, and
`upsert_transaction` finds its row by the provider transaction id. The insert lists every column;
the conflict branch lists the amount, the merchant and the pending flag, and leaves the date out.

`refreshed_iff`: over any sequence of reports, the row shows the last one exactly if that has the
date under which the row was stored first.
-/

namespace Sumurai

/-- The row of a provider transaction id. -/
def rowOfProvider (db : Store) (p : String) : Option TransactionRow :=
  db.transactions.find? fun r ↦ r.providerTransactionId == some p

/-- `upsert_transaction` at a time. A call that fails changes nothing. -/
def upsertStep (db : Store) (report : Timestamp × Transaction) : Store :=
  match upsertTransaction db report.1 report.2 with
  | .ok db' => db'
  | .error _ => db

/-- `upsert_transaction`, once for each report. -/
def upsertAll (db : Store) (reports : List (Timestamp × Transaction)) : Store :=
  reports.foldl upsertStep db

/-- A row shows what the provider owns and may correct. -/
structure Shows (r : TransactionRow) (t : Transaction) : Prop where
  amount : r.amount = t.amount
  date : r.date = t.date
  merchantName : r.merchantName = t.merchantName
  pending : r.pending = t.pending

/-- The row of a provider transaction id keeps its id and its duplicate link, and nobody's override
is touched. -/
structure KeepsRow (p : String) (db db' : Store) : Prop where
  row : ∀ r, rowOfProvider db p = some r → ∃ r', rowOfProvider db' p = some r' ∧ r'.id = r.id ∧
    r'.duplicateOfTransactionId = r.duplicateOfTransactionId
  overrides : db'.transactionCategoryOverrides = db.transactionCategoryOverrides

/-- A sequence of reports refreshes the row: it shows the last of them, and since every moment of
the sequence it has kept its id, its link and its overrides. -/
structure Refreshed (p : String) (db : Store) (reports : List (Timestamp × Transaction)) :
    Prop where
  last : ∀ report ∈ reports.getLast?, ∀ r, rowOfProvider (upsertAll db reports) p = some r →
    Shows r report.2
  keeps : ∀ before after, reports = before ++ after →
    KeepsRow p (upsertAll db before) (upsertAll db reports)

/-- A row can be inserted: its id is free, and its account exists. -/
def canInsert (db : Store) (t : Transaction) : Bool :=
  t.id ∉ db.transactions.map TransactionRow.id ∧ t.accountId ∈ db.accounts.map Account.id

/-- The date under which a row is stored first: it is there already, or it is inserted by the first
report that can be. -/
def firstDate (p : String) (db : Store) (reports : List (Timestamp × Transaction)) :
    Option NaiveDate :=
  ((rowOfProvider db p).map TransactionRow.date).or
    ((reports.find? fun report ↦ canInsert db report.2).map fun report ↦ report.2.date)

/-! ### One report -/

section Step

variable {p : String} {db : Store} {report : Timestamp × Transaction}

/-- A row after the conflict branch. -/
def TransactionRow.refresh (r : TransactionRow) (t : Transaction) : TransactionRow :=
  { r with amount := t.amount, merchantName := t.merchantName, pending := t.pending }

/-- The row of an insert. -/
def Transaction.newRow (t : Transaction) (now : Timestamp) : TransactionRow where
  id := t.id
  accountId := t.accountId
  userId := t.userId
  providerTransactionId := t.providerTransactionId
  amount := t.amount
  date := t.date
  merchantName := t.merchantName
  categoryPrimary := t.categoryPrimary
  categoryDetailed := t.categoryDetailed
  categoryConfidence := t.categoryConfidence
  paymentChannel := t.paymentChannel
  pending := t.pending
  createdAt := some (t.createdAt.getD now)
  duplicateOfTransactionId := none
  duplicateReviewedAt := none
  duplicateReviewedBy := none

/-- The conflict test, on a report with the provider transaction id. -/
theorem conflict_eq (hp : report.2.providerTransactionId = some p) :
    (fun r : TransactionRow ↦ r.providerTransactionId.isSome &&
      r.providerTransactionId == report.2.providerTransactionId) = fun r ↦
        r.providerTransactionId == some p := by
  funext r
  rw [hp]
  cases r.providerTransactionId <;> rfl

theorem any_conflict_eq (db : Store) (hp : report.2.providerTransactionId = some p) :
    (db.transactions.any fun r ↦ r.providerTransactionId.isSome &&
      r.providerTransactionId == report.2.providerTransactionId) =
        (rowOfProvider db p).isSome := by
  rw [conflict_eq hp, rowOfProvider, Bool.eq_iff_iff, List.find?_isSome, List.any_eq_true]

theorem upsertStep_overrides :
    (upsertStep db report).transactionCategoryOverrides = db.transactionCategoryOverrides := by
  rw [upsertStep, upsertTransaction]
  split
  · rename_i db' hok
    split at hok
    · rw [← Except.ok.inj hok]
    · split at hok
      · exact absurd hok nofun
      · split at hok
        · exact absurd hok nofun
        · rw [← Except.ok.inj hok]
  · rfl

/-- **A report about a row that is there** refreshes it. -/
theorem rowOfProvider_refresh (hp : report.2.providerTransactionId = some p) {r : TransactionRow}
    (hr : rowOfProvider db p = some r) :
    rowOfProvider (upsertStep db report) p = some (r.refresh report.2) := by
  have hany := any_conflict_eq db hp
  rw [hr, Option.isSome_some] at hany
  have hrow : (r.providerTransactionId == some p) = true :=
    List.find?_some (p := fun r : TransactionRow ↦ r.providerTransactionId == some p) hr
  rw [upsertStep, upsertTransaction, if_pos hany]
  show List.find? _ (List.map _ _) = _
  rw [List.find?_map]
  have hsame : ((fun r : TransactionRow ↦ r.providerTransactionId == some p) ∘ fun r ↦
      if r.providerTransactionId.isSome &&
          r.providerTransactionId == report.2.providerTransactionId then
        { r with amount := report.2.amount, merchantName := report.2.merchantName,
                 pending := report.2.pending }
      else r) = fun r ↦ r.providerTransactionId == some p := by
    funext r
    rw [Function.comp_apply]
    split <;> rfl
  rw [hsame, show db.transactions.find? _ = some r from hr, Option.map_some,
    if_pos ((congrFun (conflict_eq hp) r).trans hrow)]
  rfl

/-- **A report about a row that is not there** inserts it, if it can. -/
theorem upsertStep_of_none (hp : report.2.providerTransactionId = some p)
    (hnone : rowOfProvider db p = none) :
    upsertStep db report =
      if canInsert db report.2 then
        { db with transactions := db.transactions ++ [report.2.newRow report.1] }
      else db := by
  have hany := any_conflict_eq db hp
  rw [hnone, Option.isSome_none] at hany
  rw [upsertStep, upsertTransaction, if_neg (by rw [hany]; exact Bool.false_ne_true)]
  simp only [canInsert, decide_eq_true_eq]
  rcases em (report.2.id ∈ db.transactions.map TransactionRow.id) with hid | hid
  · rw [if_pos hid, if_neg fun h ↦ h.1 hid]
  · rw [if_neg hid]
    rcases em (report.2.accountId ∈ db.accounts.map Account.id) with haccount | haccount
    · rw [if_neg (not_not.2 haccount), if_pos ⟨hid, haccount⟩]
      rfl
    · rw [if_pos haccount, if_neg fun h ↦ haccount h.2]

theorem rowOfProvider_insert (hp : report.2.providerTransactionId = some p)
    (hnone : rowOfProvider db p = none) (hinsert : canInsert db report.2 = true) :
    rowOfProvider (upsertStep db report) p = some (report.2.newRow report.1) := by
  rw [upsertStep_of_none hp hnone, if_pos hinsert, rowOfProvider, List.find?_append,
    show db.transactions.find? _ = none from hnone, Option.none_or, List.find?_singleton, if_pos]
  rw [Transaction.newRow, hp, beq_self_eq_true]

theorem upsertStep_of_not_canInsert (hp : report.2.providerTransactionId = some p)
    (hnone : rowOfProvider db p = none) (hinsert : ¬canInsert db report.2 = true) :
    upsertStep db report = db := by
  rw [upsertStep_of_none hp hnone, if_neg hinsert]

/-- A report keeps the row it is about. -/
theorem keepsRow_upsertStep (hp : report.2.providerTransactionId = some p) :
    KeepsRow p db (upsertStep db report) where
  row _ hr := ⟨_, rowOfProvider_refresh hp hr, rfl, rfl⟩
  overrides := upsertStep_overrides

/-- A row after a report shows it, but for the date. -/
theorem shows_upsertStep_iff (hp : report.2.providerTransactionId = some p) {r : TransactionRow}
    (hr : rowOfProvider (upsertStep db report) p = some r) :
    Shows r report.2 ↔ r.date = report.2.date := by
  refine ⟨Shows.date, fun hdate ↦ ?_⟩
  rcases hrow : rowOfProvider db p with - | r₀
  · rcases hinsert : canInsert db report.2 with - | -
    · rw [upsertStep_of_not_canInsert hp hrow (by simp [hinsert]), hrow] at hr
      exact absurd hr nofun
    · rw [rowOfProvider_insert hp hrow hinsert] at hr
      obtain rfl := Option.some.inj hr
      exact ⟨rfl, hdate, rfl, rfl⟩
  · rw [rowOfProvider_refresh hp hrow] at hr
    obtain rfl := Option.some.inj hr
    exact ⟨rfl, hdate, rfl, rfl⟩

end Step

/-! ### All reports -/

section Run

variable {p : String}

theorem upsertAll_append (db : Store) (reports reports' : List (Timestamp × Transaction)) :
    upsertAll db (reports ++ reports') = upsertAll (upsertAll db reports) reports' :=
  List.foldl_append

theorem KeepsRow.trans {db db' db'' : Store} (h : KeepsRow p db db') (h' : KeepsRow p db' db'') :
    KeepsRow p db db'' where
  row r hr := by
    obtain ⟨r', hr', hid, hlink⟩ := h.row r hr
    obtain ⟨r'', hr'', hid', hlink'⟩ := h'.row r' hr'
    exact ⟨r'', hr'', hid'.trans hid, hlink'.trans hlink⟩
  overrides := h'.overrides.trans h.overrides

/-- **The row keeps its id and its link** over all reports, and the overrides stay. -/
theorem keepsRow_upsertAll (db : Store) {reports : List (Timestamp × Transaction)}
    (hp : ∀ report ∈ reports, report.2.providerTransactionId = some p) :
    KeepsRow p db (upsertAll db reports) := by
  induction reports generalizing db with
  | nil => exact ⟨fun r hr ↦ ⟨r, hr, rfl, rfl⟩, rfl⟩
  | cons report reports ih =>
    exact (keepsRow_upsertStep (hp report List.mem_cons_self)).trans
      (ih _ fun report' h ↦ hp report' (List.mem_cons_of_mem _ h))

/-- **The date of the row is the first.** -/
theorem date_rowOfProvider (db : Store) {reports : List (Timestamp × Transaction)}
    (hp : ∀ report ∈ reports, report.2.providerTransactionId = some p) :
    (rowOfProvider (upsertAll db reports) p).map TransactionRow.date = firstDate p db reports := by
  induction reports generalizing db with
  | nil =>
    show _ = ((rowOfProvider db p).map TransactionRow.date).or none
    rw [Option.or_none]
    rfl
  | cons report reports ih =>
    have hreport := hp report List.mem_cons_self
    have hrest := ih (upsertStep db report) fun report' h ↦ hp report' (List.mem_cons_of_mem _ h)
    rw [show upsertAll db (report :: reports) = upsertAll (upsertStep db report) reports from rfl,
      hrest, firstDate, firstDate]
    rcases hrow : rowOfProvider db p with - | r
    · rcases hinsert : canInsert db report.2 with - | -
      · rw [upsertStep_of_not_canInsert hreport hrow (by simp [hinsert]), hrow,
          List.find?_cons_of_neg (by simp [hinsert])]
      · rw [rowOfProvider_insert hreport hrow hinsert]
        simp [Transaction.newRow, hinsert]
    · rw [rowOfProvider_refresh hreport hrow]
      rfl

end Run

/-- **When a row is refreshed.** Over every sequence of reports under one provider transaction id,
on every store: the row shows the last report, and has kept its id, its duplicate link and its
overrides, if and only if the last report has the date under which the row was stored first. -/
theorem refreshed_iff (db : Store) {p : String} {reports : List (Timestamp × Transaction)}
    (hp : ∀ report ∈ reports, report.2.providerTransactionId = some p) :
    Refreshed p db reports ↔
      ∀ report ∈ reports.getLast?, ∀ d ∈ firstDate p db reports, report.2.date = d := by
  have hkeeps : ∀ before after, reports = before ++ after →
      KeepsRow p (upsertAll db before) (upsertAll db reports) := by
    rintro before after rfl
    rw [upsertAll_append]
    exact keepsRow_upsertAll _ fun report h ↦ hp report (List.mem_append_right before h)
  have hdate := date_rowOfProvider db hp
  -- the row after the last report shows it exactly if it has its date
  have hlast : ∀ report ∈ reports.getLast?, ∀ r, rowOfProvider (upsertAll db reports) p = some r →
      (Shows r report.2 ↔ r.date = report.2.date) := by
    intro report hreport r hr
    obtain ⟨before, rfl⟩ := List.getLast?_eq_some_iff.1 hreport
    rw [upsertAll_append] at hr
    exact shows_upsertStep_iff
      (hp report (List.mem_append_right _ (List.mem_singleton_self report))) hr
  constructor
  · intro h report hreport d hd
    rw [← hdate] at hd
    obtain ⟨r, hr, rfl⟩ := Option.map_eq_some_iff.1 hd
    exact (h.last report hreport r hr).date.symm
  · refine fun h ↦ ⟨fun report hreport r hr ↦ (hlast report hreport r hr).2 ?_, hkeeps⟩
    refine (h report hreport r.date ?_).symm
    rw [← hdate, hr]
    rfl

/-- A purchase of the checking account, as its bank reports it. -/
def purchaseReport (id : Uuid) (date : NaiveDate) (pending : Bool) : Timestamp × Transaction :=
  (0, { (checkingTransaction id date 500).toTransaction with
    providerTransactionId := some "txn-1", merchantName := some "Coffee", pending := pending })

/-- The store with the checking account. -/
def emptyChecking : Store :=
  { Store.empty with
    accounts := [checkingAccount]
    providerConnections := [checkingConnection] }

/-- A purchase that posts on the day on which it was made. -/
theorem refreshed_sameDay :
    Refreshed "txn-1" emptyChecking [purchaseReport 1 100 true, purchaseReport 2 100 false] :=
  (refreshed_iff emptyChecking (by decide)).2 (by decide)

/-- **A posting date that does not arrive.** A purchase of day 100 posts on day 102; its row stays
on day 100. -/
theorem not_refreshed_posted :
    (∀ report ∈ [purchaseReport 1 100 true, purchaseReport 2 102 false],
        report.2.providerTransactionId = some "txn-1") ∧
      ((rowOfProvider (upsertAll emptyChecking
        [purchaseReport 1 100 true, purchaseReport 2 102 false]) "txn-1").map fun r ↦
          (r.id, r.date, r.pending)) = some (1, 100, false) ∧
      ¬ Refreshed "txn-1" emptyChecking
        [purchaseReport 1 100 true, purchaseReport 2 102 false] := by
  refine ⟨by decide, by decide, fun h ↦ ?_⟩
  have hrow : ∃ r, rowOfProvider (upsertAll emptyChecking
      [purchaseReport 1 100 true, purchaseReport 2 102 false]) "txn-1" = some r ∧
        r.date = 100 := ⟨_, rfl, rfl⟩
  obtain ⟨r, hr, hdate⟩ := hrow
  have hshown := (h.last _ rfl r hr).date
  rw [hdate] at hshown
  exact absurd hshown (by decide)

end Sumurai
