import Sumurai.Duplicates.Links
import Sumurai.Foundations.Regex
import Sumurai.Frontend.CategoryFilter
import Sumurai.Frontend.LocalDates

/-!
# Pending transactions that are taken for duplicates

`features/transactions/hooks/useTransactions.ts` leaves the transactions out of the list that are
pending and have a posted match in it: of the same account and the same amount, at most seven days
apart, with merchants that look related.

What is left out always has such a match in the list that is shown (`exists_active_match`), and the
server would take any of it for a duplicate too: a request to mark it finds a row to link it to
(`hidden_transaction`).
-/

namespace Sumurai.Frontend

variable (M : CaseMapping) (parsed : String → Option (ℤ × ℕ × ℕ))

/-! ### The list with the ids -/

/-- `Transaction`, with the id by which it is told from the others. -/
structure PageTransaction extends ListedTransaction where
  id : String
deriving DecidableEq, Repr

/-- A stage of the filter, on records that have more than it reads: those that it keeps. -/
def keeping {α : Type*} (listed : α → ListedTransaction)
    (stage : List ListedTransaction → List ListedTransaction) (l : List α) : List α :=
  l.filter fun t ↦ stage [listed t] ≠ []

/-- `TransactionFilter.filter`, on records that have more than it reads. -/
def TransactionFilter.filterOn {α : Type*} (listed : α → ListedTransaction) (transactions : List α)
    (criteria : FilterCriteria) : List α :=
  let result := ((criteria.search.filter (· ≠ "")).map fun search ↦
    keeping listed (filterBySearch M · search) transactions).getD transactions
  let result := ((criteria.category.filter (· ≠ "")).map fun category ↦
    keeping listed (filterByCategory M · category) result).getD result
  let result := ((criteria.subcategory.filter (· ≠ "")).map fun subcategory ↦
    keeping listed (filterBySubcategory M · subcategory) result).getD result
  let result := (criteria.dateRange.map fun range ↦
    keeping listed (filterByDateRange parsed · range.1 range.2) result).getD result
  result.insertionSort (OrderBy.desc fun t ↦ toDateOnlyKey parsed (listed t).date)

/-- `categoryOptionItems`, with the ids. -/
def pageCategoryOptionItems (all : List PageTransaction) (search : String)
    (start stop : List Char) : List PageTransaction :=
  (TransactionFilter.filterOn M parsed PageTransaction.toListedTransaction all
    { search := some (String.ofList (trim search.toList))
      category := none
      subcategory := none
      dateRange := some (start, stop) }).filter fun t ↦ getNetSpendingAmount M t.toTransaction ≠ 0

/-- `filtered`, with the ids. -/
def pageFiltered (all : List PageTransaction) (search : String) (start stop : List Char)
    (selectedCategory selectedSubcategory : Option String) : List PageTransaction :=
  let result := TransactionFilter.filterOn M parsed PageTransaction.toListedTransaction all
    { search := some (String.ofList (trim search.toList))
      category := selectedCategory
      subcategory := selectedSubcategory
      dateRange := some (start, stop) }
  if ¬isTruthy selectedCategory ∧ ¬isTruthy selectedSubcategory then result
  else result.filter fun t ↦ getNetSpendingAmount M t.toTransaction ≠ 0

/-! ### Related merchants -/

/-- `normalizeMerchant`. -/
def normalizeMerchant (value : String) : List Char :=
  (M.lowerCase value.toList).filter Text.isKeyChar

/-- The `stopWords` of `tokenizeMerchant`. -/
def stopWords : List String :=
  ["purchase", "payment", "payments", "authorized", "recurring", "card", "draft", "entry", "descr",
    "pmts", "mktplace", "mktpl"]

/-- `tokenizeMerchant`: the texts that `/[a-z0-9]{3,}/g` matches. -/
def tokenizeMerchant (value : String) : List (List Char) :=
  (((Regex.run Text.isKeyChar 3 none).findAll (M.lowerCase value.toList)).map fun m ↦
    m.text).filter fun token ↦ token ∉ stopWords.map String.toList

/-- One half of the test of `merchantsLookRelated` by the first six characters. -/
def startsIn (merchantA merchantB : List Char) : Bool :=
  6 ≤ merchantA.length ∧ merchantA.take 6 <:+: merchantB

/-- `merchantsLookRelated`. -/
def merchantsLookRelated (a b : String) : Bool :=
  let merchantA := normalizeMerchant M a
  let merchantB := normalizeMerchant M b
  if merchantA = [] ∨ merchantB = [] then false
  else if merchantA = merchantB ∨ merchantB <:+: merchantA ∨ merchantA <:+: merchantB then true
  else if startsIn merchantA merchantB then true
  else if startsIn merchantB merchantA then true
  else (tokenizeMerchant M a).any fun token ↦ token ∈ tokenizeMerchant M b

/-! ### Candidates -/

section Candidates

-- what `Date.parse` reads of a text that is no date `YYYY-MM-DD` with `T00:00:00Z` after it
variable (parseOther : String → Option ℤ)

/-- ``Date.parse(`${date}T00:00:00Z`)``. -/
def parseMidnight (date : String) : Option ℤ :=
  match parseDay date.toList with
  | some (year, month, day) => (NaiveDate.fromYmdOpt year month day).map (· * msPerDay)
  | none => parseOther date

/-- `daysBetween(a, b) <= 7`. No comparison holds of what is no number. -/
def withinWeek (a b : String) : Bool :=
  match parseMidnight parseOther a, parseMidnight parseOther b with
  | some dateA, some dateB => |dateA - dateB| ≤ 7 * msPerDay
  | _, _ => false

/-- `transaction.merchant || transaction.name`. -/
def PageTransaction.merchantOrName (t : PageTransaction) : String :=
  (t.merchant.filter (· ≠ "")).getD t.name

/-- `areDuplicateCandidates`. The amounts are numbers of cents, so `toFixed(2)` tells them apart. -/
def areDuplicateCandidates (a b : PageTransaction) : Bool :=
  isTruthy a.accountId && a.accountId = b.accountId && a.amount ≠ 0 && a.amount = b.amount &&
    withinWeek parseOther a.date b.date &&
      merchantsLookRelated M a.merchantOrName b.merchantOrName

/-- `hasPostedMatch`. -/
def hasPostedMatch (filtered : List PageTransaction) (transaction : PageTransaction) : Bool :=
  filtered.any fun candidate ↦
    !(candidate.id = transaction.id || candidate.pending.getD false) &&
      areDuplicateCandidates M parseOther transaction candidate

/-- The body of the loop of `duplicateCandidateIds`. -/
def isDuplicateCandidate (filtered : List PageTransaction) (transaction : PageTransaction) : Bool :=
  if !isTruthy transaction.accountId || transaction.amount = 0 then false
  else transaction.pending.getD false && hasPostedMatch M parseOther filtered transaction

/-- `duplicateCandidateIds`. -/
def duplicateCandidateIds (filtered : List PageTransaction) : List String :=
  filtered.foldl (fun candidateIds transaction ↦
    if isDuplicateCandidate M parseOther filtered transaction then
      AssocMap.addKey transaction.id candidateIds
    else candidateIds) []

/-- `activeTransactions`. -/
def activeTransactions (filtered : List PageTransaction) : List PageTransaction :=
  let duplicateSet := duplicateCandidateIds M parseOther filtered
  filtered.filter fun t ↦ t.id ∉ duplicateSet

end Candidates

section Theorems

variable {M : CaseMapping} {parsed : String → Option (ℤ × ℕ × ℕ)}
  {parseOther : String → Option ℤ}

/-! ### The list with the ids is the list -/

/-- A stage of the filter is a filter. -/
def IsStage (stage : List ListedTransaction → List ListedTransaction) : Prop :=
  ∃ p : ListedTransaction → Bool, ∀ l, stage l = l.filter p

theorem isStage_filter (p : ListedTransaction → Bool) : IsStage fun l ↦ l.filter p :=
  ⟨p, fun _ ↦ rfl⟩

theorem isStage_filterBySearch (search : String) : IsStage (filterBySearch M · search) := by
  unfold filterBySearch
  dsimp only
  split
  · exact ⟨fun _ ↦ true, fun l ↦ (List.filter_true l).symm⟩
  · exact isStage_filter _

theorem isStage_filterByCategory (category : String) : IsStage (filterByCategory M · category) :=
  ⟨_, fun _ ↦ rfl⟩

theorem isStage_filterBySubcategory (subcategory : String) :
    IsStage (filterBySubcategory M · subcategory) :=
  ⟨_, fun _ ↦ rfl⟩

theorem isStage_filterByDateRange (range : List Char × List Char) :
    IsStage (filterByDateRange parsed · range.1 range.2) :=
  ⟨_, fun _ ↦ rfl⟩

theorem IsStage.map_keeping {stage : List ListedTransaction → List ListedTransaction}
    (h : IsStage stage) {α : Type*} (listed : α → ListedTransaction) (l : List α) :
    (keeping listed stage l).map listed = stage (l.map listed) := by
  obtain ⟨p, hp⟩ := h
  rw [hp, List.filter_map, keeping]
  refine congrArg (List.map listed) (List.filter_congr fun t _ ↦ ?_)
  rw [hp, List.filter_singleton, Function.comp_apply]
  cases p (listed t) <;> rfl

/-- A stage that is there or not. -/
theorem map_optional {α τ : Type*} (listed : α → ListedTransaction)
    (stage : τ → List ListedTransaction → List ListedTransaction)
    (hstage : ∀ x, IsStage (stage x)) (x : Option τ) (l : List α) :
    ((x.map fun x ↦ keeping listed (stage x) l).getD l).map listed =
      (x.map fun x ↦ stage x (l.map listed)).getD (l.map listed) := by
  cases x with
  | none => rfl
  | some x => exact (hstage x).map_keeping listed l

/-- What is known beside the records does not matter for what is listed. -/
theorem TransactionFilter.map_filterOn {α : Type*} (listed : α → ListedTransaction)
    (transactions : List α) (criteria : FilterCriteria) :
    (TransactionFilter.filterOn M parsed listed transactions criteria).map listed =
      TransactionFilter.filter M parsed (transactions.map listed) criteria := by
  have hsort (l : List α) :
      (l.insertionSort (OrderBy.desc fun t ↦ toDateOnlyKey parsed (listed t).date)).map listed =
        sortByDate parsed (l.map listed) :=
    List.map_insertionSort _ _ listed l fun _ _ _ _ ↦ Iff.rfl
  unfold TransactionFilter.filterOn TransactionFilter.filter
  dsimp only
  rw [hsort, map_optional listed _ isStage_filterByDateRange,
    map_optional listed _ isStage_filterBySubcategory,
    map_optional listed _ isStage_filterByCategory, map_optional listed _ isStage_filterBySearch]

/-- The list that is filtered with the ids is the list that is filtered without them. -/
theorem map_pageFiltered (all : List PageTransaction) (search : String) (start stop : List Char)
    (selectedCategory selectedSubcategory : Option String) :
    (pageFiltered M parsed all search start stop selectedCategory selectedSubcategory).map
        PageTransaction.toListedTransaction =
      filtered M parsed (all.map PageTransaction.toListedTransaction) search start stop
        selectedCategory selectedSubcategory := by
  unfold pageFiltered filtered
  dsimp only
  split
  · exact TransactionFilter.map_filterOn _ _ _
  · rw [← TransactionFilter.map_filterOn, List.filter_map]
    rfl

theorem map_pageCategoryOptionItems (all : List PageTransaction) (search : String)
    (start stop : List Char) :
    (pageCategoryOptionItems M parsed all search start stop).map
        PageTransaction.toListedTransaction =
      categoryOptionItems M parsed (all.map PageTransaction.toListedTransaction) search start
        stop := by
  unfold pageCategoryOptionItems categoryOptionItems
  rw [← TransactionFilter.map_filterOn, List.filter_map]
  rfl

theorem optional_sublist {α τ : Type*} {listed : α → ListedTransaction}
    {stage : τ → List ListedTransaction → List ListedTransaction} (x : Option τ) (l : List α) :
    ((x.map fun x ↦ keeping listed (stage x) l).getD l).Sublist l := by
  cases x with
  | none => exact .refl l
  | some x => exact List.filter_sublist

/-- The filter leaves out and sorts. -/
theorem TransactionFilter.filterOn_subperm {α : Type*} (listed : α → ListedTransaction)
    (transactions : List α) (criteria : FilterCriteria) :
    (TransactionFilter.filterOn M parsed listed transactions criteria).Subperm transactions := by
  unfold TransactionFilter.filterOn
  dsimp only
  refine (List.perm_insertionSort _ _).subperm.trans (List.Sublist.subperm ?_)
  exact ((optional_sublist _ _).trans (optional_sublist _ _)).trans
    ((optional_sublist _ _).trans (optional_sublist _ _))

theorem pageFiltered_subperm (all : List PageTransaction) (search : String)
    (start stop : List Char) (selectedCategory selectedSubcategory : Option String) :
    (pageFiltered M parsed all search start stop selectedCategory selectedSubcategory).Subperm
      all := by
  unfold pageFiltered
  dsimp only
  split
  · exact TransactionFilter.filterOn_subperm _ _ _
  · exact List.filter_sublist.subperm.trans (TransactionFilter.filterOn_subperm _ _ _)

/-- What is kept is of the month. -/
theorem isBetween_of_mem_pageFiltered {all : List PageTransaction} {search : String}
    {start stop : List Char} {selectedCategory selectedSubcategory : Option String}
    {t : PageTransaction} (ht : t ∈ pageFiltered M parsed all search start stop selectedCategory
      selectedSubcategory) : isBetween start stop (toDateOnlyKey parsed t.date) = true := by
  have hfilter {criteria : FilterCriteria} (hrange : criteria.dateRange = some (start, stop))
      (ht : t ∈ TransactionFilter.filterOn M parsed PageTransaction.toListedTransaction all
        criteria) : isBetween start stop (toDateOnlyKey parsed t.date) = true := by
    unfold TransactionFilter.filterOn at ht
    dsimp only at ht
    rw [hrange, Option.map_some, Option.getD_some, List.mem_insertionSort] at ht
    have hkept := of_decide_eq_true (List.mem_filter.1 ht).2
    by_contra hnot
    exact hkept (List.filter_eq_nil_iff.2 fun t' ht' ↦ by rwa [List.mem_singleton.1 ht'])
  unfold pageFiltered at ht
  dsimp only at ht
  split at ht
  · exact hfilter rfl ht
  · exact hfilter rfl (List.mem_of_mem_filter ht)

/-! ### What is left out -/

theorem mem_foldl_addKey {ids : List String} {p : PageTransaction → Bool} {id : String}
    {l : List PageTransaction} : id ∈ l.foldl (fun candidateIds t ↦
      if p t then AssocMap.addKey t.id candidateIds else candidateIds) ids ↔
        id ∈ ids ∨ ∃ t ∈ l, p t ∧ t.id = id := by
  induction l generalizing ids with
  | nil => simp
  | cons t l ih =>
    rw [List.foldl_cons, ih, List.exists_mem_cons_iff]
    split
    · rename_i hp
      rw [AssocMap.mem_addKey, or_assoc, and_iff_right hp, eq_comm]
    · rename_i hp
      simp only [hp, Bool.false_eq_true, false_and, false_or]

/-- The ids of the candidates. -/
theorem mem_duplicateCandidateIds {filtered : List PageTransaction} {id : String} :
    id ∈ duplicateCandidateIds M parseOther filtered ↔
      ∃ t ∈ filtered, isDuplicateCandidate M parseOther filtered t ∧ t.id = id := by
  rw [duplicateCandidateIds, mem_foldl_addKey]
  simp

theorem merchantsLookRelated_iff {a b : String} : merchantsLookRelated M a b = true ↔
    (normalizeMerchant M a ≠ [] ∧ normalizeMerchant M b ≠ []) ∧
      (normalizeMerchant M a = normalizeMerchant M b ∨
        (normalizeMerchant M b <:+: normalizeMerchant M a ∨
          normalizeMerchant M a <:+: normalizeMerchant M b) ∨
        (startsIn (normalizeMerchant M a) (normalizeMerchant M b) = true ∨
          startsIn (normalizeMerchant M b) (normalizeMerchant M a) = true) ∨
        ∃ token, token ∈ tokenizeMerchant M a ∧ token ∈ tokenizeMerchant M b) := by
  unfold merchantsLookRelated
  dsimp only
  split_ifs with hempty hinfix hstart hstart'
  · rw [false_iff]
    rintro ⟨⟨ha, hb⟩, -⟩
    exact hempty.elim ha hb
  · rw [not_or] at hempty
    simp only [true_iff]
    exact ⟨hempty, hinfix.imp_right fun h ↦ .inl h⟩
  · rw [not_or] at hempty
    simp only [true_iff]
    exact ⟨hempty, .inr (.inr (.inl (.inl hstart)))⟩
  · rw [not_or] at hempty
    simp only [true_iff]
    exact ⟨hempty, .inr (.inr (.inl (.inr hstart')))⟩
  · rw [not_or] at hempty
    rw [not_or, not_or] at hinfix
    simp only [and_iff_right hempty, hinfix.1, hinfix.2.1, hinfix.2.2, hstart, hstart', false_or,
      or_self, List.any_eq_true, decide_eq_true_eq, Bool.false_eq_true]

theorem merchantsLookRelated_comm (a b : String) :
    merchantsLookRelated M a b = merchantsLookRelated M b a := by
  rw [Bool.eq_iff_iff, merchantsLookRelated_iff, merchantsLookRelated_iff]
  refine and_congr and_comm (or_congr eq_comm (or_congr or_comm (or_congr or_comm ?_)))
  exact exists_congr fun token ↦ and_comm

theorem withinWeek_comm (a b : String) :
    withinWeek parseOther a b = withinWeek parseOther b a := by
  unfold withinWeek
  cases parseMidnight parseOther a <;> cases parseMidnight parseOther b <;> try rfl
  dsimp only
  rw [abs_sub_comm]

/-- Being candidates of each other has no direction. -/
theorem areDuplicateCandidates_comm (a b : PageTransaction) :
    areDuplicateCandidates M parseOther a b = areDuplicateCandidates M parseOther b a := by
  have hsymm {a b : PageTransaction} (h : areDuplicateCandidates M parseOther a b = true) :
      areDuplicateCandidates M parseOther b a = true := by
    simp only [areDuplicateCandidates, Bool.and_eq_true, decide_eq_true_eq] at h ⊢
    obtain ⟨⟨⟨⟨⟨hid, haccount⟩, hzero⟩, hamount⟩, hweek⟩, hmerchant⟩ := h
    rw [withinWeek_comm, merchantsLookRelated_comm]
    exact ⟨⟨⟨⟨⟨haccount ▸ hid, haccount.symm⟩, hamount ▸ hzero⟩, hamount.symm⟩, hweek⟩, hmerchant⟩
  rw [Bool.eq_iff_iff]
  exact ⟨hsymm, hsymm⟩

/-- What is left out is pending, and has a posted match in the list. -/
theorem isDuplicateCandidate_iff {filtered : List PageTransaction} {t : PageTransaction} :
    isDuplicateCandidate M parseOther filtered t = true ↔ t.pending.getD false = true ∧
      ∃ posted ∈ filtered, posted.id ≠ t.id ∧ posted.pending.getD false = false ∧
        areDuplicateCandidates M parseOther t posted = true := by
  have hmatch : hasPostedMatch M parseOther filtered t = true ↔
      ∃ posted ∈ filtered, posted.id ≠ t.id ∧ posted.pending.getD false = false ∧
        areDuplicateCandidates M parseOther t posted = true := by
    simp only [hasPostedMatch, List.any_eq_true, Bool.and_eq_true, Bool.not_eq_true',
      Bool.or_eq_false_iff, decide_eq_false_iff_not, and_assoc, ne_eq]
  unfold isDuplicateCandidate
  split
  · rename_i hguard
    -- a candidate has an account and an amount anyway
    simp only [Bool.false_eq_true, false_iff]
    rintro ⟨-, posted, -, -, -, hdup⟩
    simp only [areDuplicateCandidates, Bool.and_eq_true, decide_eq_true_eq] at hdup
    simp [hdup.1.1.1.1.1, hdup.1.1.1.2] at hguard
  · rw [Bool.and_eq_true, hmatch]

/-- **What is left out has a posted match that is shown**, when the ids tell the transactions
apart. -/
theorem exists_active_match {filtered : List PageTransaction}
    (hids : (filtered.map PageTransaction.id).Nodup) {t : PageTransaction} (ht : t ∈ filtered)
    (hout : t ∉ activeTransactions M parseOther filtered) : t.pending.getD false = true ∧
      ∃ posted ∈ activeTransactions M parseOther filtered, posted.id ≠ t.id ∧
        posted.pending.getD false = false ∧
          areDuplicateCandidates M parseOther t posted = true := by
  have hcandidate {t : PageTransaction} (ht : t ∈ filtered)
      (hmem : t.id ∈ duplicateCandidateIds M parseOther filtered) :
      isDuplicateCandidate M parseOther filtered t = true := by
    obtain ⟨t', ht', hdup, hid⟩ := mem_duplicateCandidateIds.1 hmem
    rwa [List.inj_on_of_nodup_map hids ht' ht hid] at hdup
  have hmem : t.id ∈ duplicateCandidateIds M parseOther filtered := by
    by_contra hnot
    exact hout (List.mem_filter.2 ⟨ht, decide_eq_true hnot⟩)
  obtain ⟨hpending, posted, hposted, hne, hnot, hdup⟩ :=
    isDuplicateCandidate_iff.1 (hcandidate ht hmem)
  refine ⟨hpending, posted, List.mem_filter.2 ⟨hposted, decide_eq_true fun hmem' ↦ ?_⟩, hne, hnot,
    hdup⟩
  have hpending' := (isDuplicateCandidate_iff.1 (hcandidate hposted hmem')).1
  rw [hnot] at hpending'
  cases hpending'

/-! ### What the server says -/

/-- The client's record of a transaction, with its id. -/
def pageReceived (M : CaseMapping) (t : TransactionWithAccount) : PageTransaction :=
  { received M t with
    name := (t.merchantName.filter (· ≠ "")).getD "Unknown"
    merchant := t.merchantName
    id := toString t.id }

/-- The client reads a date of the server. -/
theorem parseMidnight_serializeDate {d : NaiveDate}
    (hyear : 0 ≤ NaiveDate.year d ∧ NaiveDate.year d ≤ 9999) :
    parseMidnight parseOther (serializeDate d) = some (d * msPerDay) := by
  have hday := isDay_of_mem hyear
  have hymd : NaiveDate.fromYmdOpt (NaiveDate.year d).toNat (NaiveDate.month d) (NaiveDate.day d) =
      some d := by
    have hrange : NaiveDate.MIN_YEAR ≤ ((NaiveDate.year d).toNat : ℤ) ∧
        ((NaiveDate.year d).toNat : ℤ) ≤ NaiveDate.MAX_YEAR := by
      rw [NaiveDate.MIN_YEAR, NaiveDate.MAX_YEAR]
      have hle := hday.year_le
      omega
    rw [NaiveDate.fromYmdOpt, if_pos ⟨hrange, ⟨hday.one_le_month, hday.month_le⟩, hday.one_le_day,
      hday.day_le⟩, Int.toNat_of_nonneg hyear.1, NaiveDate.day_eq rfl rfl, NaiveDate.monthStart]
    exact congrArg some (by ring)
  unfold parseMidnight
  rw [toList_serializeDate_of_mem hyear, parseDay_dateText hday]
  dsimp only
  rw [hymd, Option.map_some]

/-- A row that the listing shows. -/
theorem exists_row_of_mem {db : Store} {userId : Uuid} {t : Sumurai.Transaction}
    (ht : t ∈ (getTransactionsWithAccountForUser db userId).map
      TransactionWithAccount.toTransaction) : ∃ row ∈ db.transactions,
        row.userId = some userId ∧ row.duplicateOfTransactionId = none ∧
          row.toTransaction = t := by
  obtain ⟨shown, hshown, rfl⟩ := List.mem_map.1 ht
  obtain ⟨row, hrow, hmap⟩ := List.mem_filterMap.1 (List.mem_of_mem_take hshown)
  obtain ⟨account, -, rfl⟩ := Option.map_eq_some_iff.1 hmap
  obtain ⟨hmem, hkept⟩ := List.mem_filter.1 ((List.mem_insertionSort _).1 hrow)
  obtain ⟨huser, hvisible⟩ := of_decide_eq_true hkept
  exact ⟨row, hmem, huser, Option.isNone_iff_eq_none.1 hvisible, rfl⟩

/-- The listing shows no row twice. -/
theorem nodup_ids_listing (db : Database) (userId : Uuid) :
    ((getTransactionsWithAccountForUser db.toStore userId).map fun t ↦ t.id).Nodup := by
  have hrows : (((visibleTransactions db.toStore userId).insertionSort newestFirst).map
      TransactionRow.id).Nodup :=
    (((List.perm_insertionSort _ _).map _).nodup_iff).2
      ((List.filter_sublist.map _).nodup db.keyed.transactions_pkey)
  refine ((List.take_sublist _ _).map _).nodup (List.Sublist.nodup ?_ hrows)
  generalize (visibleTransactions db.toStore userId).insertionSort newestFirst = rows
  induction rows with
  | nil => exact .slnil
  | cons row rows ih =>
    rw [List.filterMap_cons]
    cases db.accounts.find? fun a ↦ a.id = row.accountId with
    | none => exact ih.cons _
    | some account => exact ih.cons_cons _

section Server

variable {db : Database} {userId : Uuid} {a b : TransactionWithAccount}

/-- What the client takes for candidates of each other, the server takes too. -/
theorem isMarkCandidate_of_candidates {s r : TransactionRow} (huser : r.userId = some userId)
    (hfree : r.duplicateOfTransactionId = none) (hsame : s.toTransaction = a.toTransaction)
    (hsame' : r.toTransaction = b.toTransaction)
    (hyear : 0 ≤ NaiveDate.year a.date ∧ NaiveDate.year a.date ≤ 9999)
    (hyear' : 0 ≤ NaiveDate.year b.date ∧ NaiveDate.year b.date ≤ 9999)
    (hne : b.id ≠ a.id) (hpending : a.pending = true)
    (hdup : areDuplicateCandidates M parseOther (pageReceived M a) (pageReceived M b) = true) :
    isMarkCandidate userId s r = true := by
  simp only [areDuplicateCandidates, Bool.and_eq_true, decide_eq_true_eq] at hdup
  obtain ⟨⟨⟨⟨⟨-, haccount⟩, hzero⟩, hamount⟩, hweek⟩, -⟩ := hdup
  have hdates : |b.date - a.date| ≤ 7 := by
    change (withinWeek parseOther (serializeDate a.date) (serializeDate b.date)) = true at hweek
    rw [withinWeek, parseMidnight_serializeDate hyear, parseMidnight_serializeDate hyear'] at hweek
    have hms := of_decide_eq_true hweek
    rw [← sub_mul, abs_mul, abs_sub_comm] at hms
    exact le_of_mul_le_mul_right hms (by decide)
  -- the two records say of themselves what the rows say
  have hrow {β : Type} (f : Sumurai.Transaction → β) : f s.toTransaction = f a.toTransaction :=
    congrArg f hsame
  have hrow' {β : Type} (f : Sumurai.Transaction → β) : f r.toTransaction = f b.toTransaction :=
    congrArg f hsame'
  have hids : r.id ≠ s.id := fun h ↦
    hne ((hrow' fun t ↦ t.id).symm.trans (h.trans (hrow fun t ↦ t.id)))
  have haccounts : r.accountId = s.accountId := (hrow' fun t ↦ t.accountId).trans
    ((Nat.repr_injective (Option.some.inj haccount)).symm.trans
      (hrow fun t ↦ t.accountId).symm)
  have hamounts : r.amount = s.amount :=
    (hrow' fun t ↦ t.amount).trans (hamount.symm.trans (hrow fun t ↦ t.amount).symm)
  have hdays : |r.date - s.date| ≤ 7 := by
    rw [show r.date = b.date from hrow' fun t ↦ t.date,
      show s.date = a.date from hrow fun t ↦ t.date]
    exact hdates
  have hnonzero : s.amount ≠ 0 := fun h ↦ hzero ((hrow fun t ↦ t.amount).symm.trans h)
  have hpends : s.pending = true := (hrow fun t ↦ t.pending).trans hpending
  simp only [isMarkCandidate, Bool.and_eq_true, decide_eq_true_eq, haccounts, hamounts, hdays,
    hids, huser, hfree, hnonzero, hpends, Option.isNone_none, Bool.true_or, ne_eq,
    not_false_eq_true, and_self]

end Server

variable (M parsed parseOther) in
/-- **What the page leaves out of a month that was loaded** is pending; a posted match of it is
shown in its place, and the server would take it for a duplicate too. -/
theorem hidden_transaction (L : Locale) (db : Database) (userId : Uuid)
    {rows : List TransactionWithAccount}
    (hrows : (rows.map TransactionWithAccount.toTransaction).Sublist
      ((getTransactionsWithAccountForUser db.toStore userId).map
        TransactionWithAccount.toTransaction))
    (hyears : ∀ row ∈ rows, 0 ≤ NaiveDate.year row.date ∧ NaiveDate.year row.date ≤ 9999)
    (search : String) (start stop : List Char)
    (selectedCategory selectedSubcategory : Option String) :
    let filtered := pageFiltered M parsed (rows.map (pageReceived M)) search start stop
      selectedCategory selectedSubcategory
    ∀ t ∈ filtered, t ∉ activeTransactions M parseOther filtered →
      t.pending.getD false = true ∧
      (∃ posted ∈ activeTransactions M parseOther filtered, posted.id ≠ t.id ∧
        posted.pending.getD false = false ∧ areDuplicateCandidates M parseOther t posted = true) ∧
      ∃ transactionId : Uuid, t.id = toString transactionId ∧
        planMark L db.toStore transactionId userId ≠ none := by
  intro filtered t ht hout
  have hsub : filtered.Subperm (rows.map (pageReceived M)) := pageFiltered_subperm _ _ _ _ _ _
  have hids : (filtered.map PageTransaction.id).Nodup := by
    have hrowIds : (rows.map fun row ↦ row.id).Nodup := by
      have hsubIds := hrows.map Sumurai.Transaction.id
      rw [List.map_map, List.map_map] at hsubIds
      exact hsubIds.nodup (nodup_ids_listing db userId)
    have hnodup : ((rows.map (pageReceived M)).map PageTransaction.id).Nodup := by
      have htexts := hrowIds.map fun _ _ h ↦ Nat.repr_injective h
      rw [List.map_map] at htexts ⊢
      exact htexts
    obtain ⟨l, hperm, hsublist⟩ := hsub
    exact (hperm.map _).nodup_iff.1 ((hsublist.map _).nodup hnodup)
  obtain ⟨hpending, posted, hposted, hne, hnot, hdup⟩ := exists_active_match hids ht hout
  refine ⟨hpending, ⟨posted, hposted, hne, hnot, hdup⟩, ?_⟩
  obtain ⟨a, ha, rfl⟩ := List.mem_map.1 (hsub.subset ht)
  obtain ⟨b, hb, rfl⟩ := List.mem_map.1 (hsub.subset (List.mem_of_mem_filter hposted))
  obtain ⟨s, hs, huser, hfree, hsame⟩ :=
    exists_row_of_mem (hrows.subset (List.mem_map_of_mem ha))
  obtain ⟨r, hr, huser', hfree', hsame'⟩ :=
    exists_row_of_mem (hrows.subset (List.mem_map_of_mem hb))
  refine ⟨s.id, ?_, planMark_ne_none db.keyed.transactions_pkey hs huser hfree hr
    (isMarkCandidate_of_candidates huser' hfree' hsame hsame' (hyears a ha) (hyears b hb)
      (fun h ↦ hne (congrArg toString h)) hpending hdup)⟩
  exact congrArg (fun t : Sumurai.Transaction ↦ toString t.id) hsame.symm

/-- A pending charge, and the purchase it became. -/
def pendingCoffee : Database where
  toStore := { Store.empty with
    accounts := [Sumurai.checkingAccount]
    transactions := [
      { checkingTransaction 1 100 500 with
        providerTransactionId := some "txn-1", merchantName := some "SQ *COFFEE", pending := true },
      { checkingTransaction 2 102 500 with
        providerTransactionId := some "txn-2", merchantName := some "Coffee Shop" }]
    providerConnections := [checkingConnection] }
  keyed := by decide
  referential := by decide

/-- The charge is left out, the purchase is shown, and a request to mark the charge finds it. -/
theorem hidden_transaction_pendingCoffee :
    let filtered := pageFiltered simpleCase (fun _ ↦ none)
      ((getTransactionsWithAccountForUser pendingCoffee.toStore 7).map (pageReceived simpleCase)) ""
      "1970-04-01".toList "1970-04-30".toList none none
    filtered.map PageTransaction.id = ["2", "1"] ∧
      (activeTransactions simpleCase (fun _ ↦ none) filtered).map PageTransaction.id = ["2"] ∧
      ∀ t ∈ filtered, t ∉ activeTransactions simpleCase (fun _ ↦ none) filtered →
        t.pending.getD false = true ∧
        (∃ posted ∈ activeTransactions simpleCase (fun _ ↦ none) filtered, posted.id ≠ t.id ∧
          posted.pending.getD false = false ∧
            areDuplicateCandidates simpleCase (fun _ ↦ none) t posted = true) ∧
        ∃ transactionId : Uuid, t.id = toString transactionId ∧
          planMark Locale.c pendingCoffee.toStore transactionId 7 ≠ none :=
  ⟨by decide +kernel, by decide +kernel,
    hidden_transaction simpleCase (fun _ ↦ none) (fun _ ↦ none) Locale.c pendingCoffee 7 (.refl _)
      (by decide +kernel) "" "1970-04-01".toList "1970-04-30".toList none none⟩

end Theorems

end Sumurai.Frontend
