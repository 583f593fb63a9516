import Sumurai.Analytics.NetWorthPasses

/-!
# The closed form of the net-worth series

A `NetWorthRequest` is everything the handler's answer depends on. In its own terms — the
selected accounts, the transactions the query fetches, the snapshots the history query shows — the
series has a closed form: `returns_iff` says exactly when the handler returns a series and that
the series has, for every day of the window, the point

> what the carried accounts are worth that day, plus today's cash, plus the flows fetched for the
> first day of the series, minus the flows fetched for the days after it

(`NetWorthRequest.value`). The third term is what the two boundaries of the handler leave over:
the baseline is rolled back over the days *after* the start of the series, and the loop rolls it
forward again *from* that day on.
-/

namespace Sumurai

/-- A request for a net-worth series: who asks, for which accounts and days, and the state of the
database and of the clock when the handler runs. -/
structure NetWorthRequest where
  locale : Locale
  db : Database
  userId : Uuid
  filteredAccountIds : Option (List Uuid)
  now : Timestamp
  startDate : NaiveDate
  endDate : NaiveDate

namespace NetWorthRequest

variable (q : NetWorthRequest)

/-- The handler on this request, with fuel for its loop. -/
def run (fuel : ℕ) : Except Abort (List NetWorthSeriesPoint) :=
  getAuthenticatedNetWorthOverTime q.locale q.db.toStore q.userId q.filteredAccountIds q.now
    q.startDate q.endDate fuel

/-- The handler returns this series. -/
def Returns (series : List NetWorthSeriesPoint) : Prop :=
  ∃ fuel, q.run fuel = .ok series

/-- The day of the request. -/
def today : NaiveDate :=
  Timestamp.dateNaive q.now

/-! ### What the request reads -/

/-- The selected accounts. -/
def selected : List Account :=
  selectedAccounts q.locale q.db.toStore q.userId q.filteredAccountIds

/-- The accounts whose balance is reconstructed from transactions. -/
def cash : List Account :=
  q.selected.filter Account.isCash

/-- The accounts carried at a balance. -/
def carried : List Account :=
  q.selected.filter fun a ↦ !a.isCash

/-- The transactions of the cash accounts that the date-range query returns. -/
def fetched : List TransactionRow :=
  (getTransactionsByDateRangeForUser q.db.toStore q.userId q.startDate q.today).filter fun t ↦
    t.accountId ∈ q.cash.map Account.id

/-- The fetched flows of the days satisfying `p`, summed. -/
def fetchedSum (p : NaiveDate → Prop) [DecidablePred p] : Decimal :=
  PartialSums.sumOf TransactionRow.amount (fun t ↦ p t.date) q.fetched

/-- The points of the manual history that the query returns for the carried accounts. -/
def visibleHistory : List ManualAccountBalanceHistoryPoint :=
  (getManualAccountBalanceHistoryForUser q.db.toStore q.userId q.endDate).filter fun p ↦
    p.accountId ∈ (q.carried.filter Account.isManual).map Account.id

/-- The snapshots of a carried account that the query returns. -/
def visibleSnapshots (a : Account) : List (NaiveDate × Decimal) :=
  (q.visibleHistory.filter fun p ↦ p.accountId = a.id).map fun p ↦
    (p.asOfDate, a.balanceCategory.signedBalance p.balanceCurrent)

/-- The dates that anchor the start of the series. -/
def anchorDates : List NaiveDate :=
  q.fetched.map TransactionRow.date ++
    (q.carried.filterMap (fun a ↦ a.updatedAt.map Timestamp.dateNaive) ++
      q.visibleHistory.map ManualAccountBalanceHistoryPoint.asOfDate)

/-- The first day of the series. -/
def effectiveStart : NaiveDate :=
  effectiveStartDate q.startDate q.anchorDates

/-- The first day of the rolled-back range. -/
def rollbackStart : NaiveDate :=
  (NaiveDate.succOpt q.effectiveStart).getD q.effectiveStart

/-! ### The closed form -/

/-- What a carried account is worth on a day. -/
def carriedValue (day : NaiveDate) (a : Account) : Decimal :=
  if q.visibleSnapshots a = [] then a.signedBalance
  else ((AssocMap.lastUpTo day (q.visibleSnapshots a)).map Prod.snd).getD 0

/-- The value of the series on a day. -/
def value (day : NaiveDate) : Decimal :=
  (q.carried.map (q.carriedValue day)).sum +
    ((q.cash.map Account.signedBalance).sum + q.fetchedSum (· = q.effectiveStart) -
      q.fetchedSum (day < ·))

/-- The points of the window. -/
def points : List NetWorthSeriesPoint :=
  (Int.range q.effectiveStart (q.endDate + 1)).map fun d ↦ { date := d, value := q.value d }

/-! ### The selected accounts -/

theorem selected_ids_nodup : (q.selected.map Account.id).Nodup :=
  (getAccountsForUser_ids_nodup q.locale q.db q.userId).sublist (List.filter_sublist.map _)

theorem cash_ids_nodup : (q.cash.map Account.id).Nodup :=
  q.selected_ids_nodup.sublist (List.filter_sublist.map _)

/-- The scan of the request's accounts. -/
def scan : AccountScan :=
  AccountScan.ofSelected q.selected

theorem foldl_scanAccount_eq :
    (getAccountsForUser q.locale q.db.toStore q.userId).foldl
        (scanAccount q.filteredAccountIds) AccountScan.empty = q.scan :=
  foldl_scanAccount _ (getAccountsForUser_ids_nodup q.locale q.db q.userId)

theorem scan_depositoryIds : q.scan.depositoryIds = q.cash.map Account.id :=
  rfl

theorem scan_manualStaticAccountIds :
    q.scan.manualStaticAccountIds = (q.carried.filter Account.isManual).map Account.id := by
  rw [carried, List.filter_filter, scan, AccountScan.ofSelected]
  simp only [Bool.and_comm]

theorem isSelected_of_mem_cash {id : Uuid} (h : id ∈ q.cash.map Account.id) :
    isSelected q.filteredAccountIds id = true := by
  obtain ⟨a, ha, rfl⟩ := List.mem_map.1 h
  exact (List.mem_filter.1 (List.mem_filter.1 ha).1).2

/-- The transactions the third pass keeps are the fetched ones. -/
theorem keptTransactions_eq :
    keptTransactions q.filteredAccountIds q.scan
        ((getTransactionsByDateRangeForUser q.db.toStore q.userId q.startDate q.today).map
          TransactionRow.toTransaction) =
      q.fetched.map TransactionRow.toTransaction := by
  rw [keptTransactions, List.filter_map, fetched]
  refine congrArg _ (List.filter_congr fun t _ ↦ ?_)
  rw [Function.comp_apply, scan_depositoryIds, decide_eq_decide]
  exact ⟨fun h ↦ h.2, fun h ↦ ⟨q.isSelected_of_mem_cash h, h⟩⟩

theorem keptHistory_eq :
    keptHistory q.scan (getManualAccountBalanceHistoryForUser q.db.toStore q.userId q.endDate) =
      q.visibleHistory := by
  rw [keptHistory, scan_manualStaticAccountIds, visibleHistory]

/-! ### The carried accounts -/

/-- The history filed by the second pass. -/
def historyByAccount : DatedAmounts :=
  q.visibleHistory.foldl
    (fun m p ↦ AssocMap.modifyOrDefault p.accountId []
      (AssocMap.insert p.asOfDate (signedSnapshot q.scan p)) m)
    []

/-- The second pass files the visible history, also when the handler skips it. -/
theorem history_eq :
    (if q.scan.manualStaticAccountIds = [] then Filed.empty
      else (getManualAccountBalanceHistoryForUser q.db.toStore q.userId q.endDate).foldl
        (collectHistoryPoint q.scan) Filed.empty) =
      { anchorDates := q.visibleHistory.map ManualAccountBalanceHistoryPoint.asOfDate
        byAccount := q.historyByAccount } := by
  split
  · rename_i hnone
    have hnil : q.visibleHistory = [] := by
      rw [visibleHistory, ← scan_manualStaticAccountIds, hnone]
      exact List.filter_eq_nil_iff.2 fun p _ ↦ by simp
    rw [historyByAccount, hnil]
    rfl
  · rw [foldl_collectHistoryPoint, keptHistory_eq]
    rfl

/-- The sign a snapshot is filed with is that of its account's category. -/
theorem signedSnapshot_eq {a : Account} (ha : a ∈ q.carried)
    {p : ManualAccountBalanceHistoryPoint} (hp : p.accountId = a.id) :
    signedSnapshot q.scan p = a.balanceCategory.signedBalance p.balanceCurrent := by
  obtain ⟨hsel, hcash⟩ := List.mem_filter.1 ha
  have hmem : p.accountId ∈ q.scan.liabilityStaticAccountIds ↔ a.isLiability = true := by
    rw [hp, scan, AccountScan.ofSelected, mem_map_id_filter q.selected_ids_nodup hsel,
      Bool.and_eq_true]
    exact ⟨fun h ↦ h.2, fun h ↦ ⟨hcash, h⟩⟩
  rw [signedSnapshot, if_congr hmem rfl rfl]
  rcases hcat : a.balanceCategory <;>
    simp [Account.isLiability, Account.isCash, hcat, BalanceCategory.signedBalance] at hcash ⊢

/-- What the loop adds for a carried account is its carried value. -/
theorem staticValue_eq {a : Account} (ha : a ∈ q.carried) (day : NaiveDate) :
    staticValue q.historyByAccount day a.id a.signedBalance = q.carriedValue day a := by
  have hkey : (q.visibleHistory.map fun p ↦ (p.accountId, p.asOfDate)).Nodup :=
    (getManualAccountBalanceHistoryForUser_key_nodup q.db q.userId q.endDate).sublist
      (List.filter_sublist.map _)
  have hsnap : ((q.visibleHistory.filter fun p ↦ p.accountId = a.id).map fun p ↦
      (p.asOfDate, signedSnapshot q.scan p)) = q.visibleSnapshots a := by
    refine List.map_congr_left fun p hp ↦ ?_
    have hid : p.accountId = a.id := of_decide_eq_true (List.mem_filter.1 hp).2
    rw [q.signedSnapshot_eq ha hid]
  rw [staticValue, historyByAccount, lookup_history q.scan hkey, hsnap, carriedValue]
  by_cases hnil : q.visibleHistory.filter (fun p ↦ p.accountId = a.id) = []
  · rw [if_pos hnil, if_pos (by rw [visibleSnapshots, hnil, List.map_nil])]
  · rw [if_neg hnil, if_neg (by rwa [visibleSnapshots, List.map_eq_nil_iff])]

/-! ### The window -/

theorem effectiveStart_le_of_mem {d : NaiveDate} (hd : d ∈ q.anchorDates)
    (hstart : q.startDate ≤ d) : q.effectiveStart ≤ d := by
  rw [effectiveStart, effectiveStartDate]
  rcases hmin : q.anchorDates.min? with - | earliest
  · rw [List.min?_eq_none_iff.1 hmin] at hd
    exact absurd hd List.not_mem_nil
  · exact max_le hstart ((List.min?_eq_some_iff.1 hmin).2 d hd)

theorem startDate_le_effectiveStart : q.startDate ≤ q.effectiveStart := by
  rw [effectiveStart, effectiveStartDate]
  rcases q.anchorDates.min? with - | earliest
  · exact le_refl _
  · exact le_max_left _ _

/-- A fetched transaction is dated from the effective start up to today. -/
theorem date_of_mem_fetched {t : TransactionRow} (ht : t ∈ q.fetched) :
    q.effectiveStart ≤ t.date ∧ t.date ≤ q.today := by
  have hrange := mem_visibleTransactionsInRange_of_mem (List.mem_filter.1 ht).1
  obtain ⟨-, -, hstart, hend, -⟩ := mem_visibleTransactionsInRange.1 hrange
  exact ⟨q.effectiveStart_le_of_mem
    (List.mem_append_left _ (List.mem_map_of_mem ht)) hstart, hend⟩

/-- The flows the third pass files for an account, summed. -/
theorem flowSum_eq (accId : Uuid) (p : NaiveDate → Prop) [DecidablePred p] :
    flowSum (q.fetched.map TransactionRow.toTransaction) accId p =
      PartialSums.sumOf TransactionRow.amount (fun t ↦ t.accountId = accId ∧ p t.date)
        q.fetched :=
  PartialSums.sumOf_map _ _

/-- The flows of the cash accounts are the fetched ones. -/
theorem sum_flowSum_eq (p : NaiveDate → Prop) [DecidablePred p] :
    ((q.cash.map Account.id).map fun accId ↦
      flowSum (q.fetched.map TransactionRow.toTransaction) accId p).sum = q.fetchedSum p := by
  simp only [flowSum_eq]
  refine PartialSums.sum_sumOf_key TransactionRow.accountId q.cash_ids_nodup fun t ht _ ↦ ?_
  exact of_decide_eq_true (List.mem_filter.1 ht).2

/-- **The rollback and the roll-forward leave the first day over**: on a day of the series before
the end of the calendar, the flows rolled forward minus those rolled back are the flows of the
first day minus those after the day. -/
theorem fetchedSum_forward_sub_back {day : NaiveDate} (hday : q.effectiveStart ≤ day)
    (hend : day ≤ q.endDate) (hmax : q.endDate < NaiveDate.MAX) :
    q.fetchedSum (fun d ↦ q.effectiveStart ≤ d ∧ d < day + 1 ∧ d ≤ min q.endDate q.today) -
        q.fetchedSum (rollbackRange q.effectiveStart q.today) =
      q.fetchedSum (· = q.effectiveStart) - q.fetchedSum (day < ·) := by
  have hforward : q.fetchedSum
      (fun d ↦ q.effectiveStart ≤ d ∧ d < day + 1 ∧ d ≤ min q.endDate q.today) =
      q.fetchedSum (fun d ↦ ¬ day < d) := by
    refine PartialSums.sumOf_congr fun t ht ↦ ?_
    have := q.date_of_mem_fetched ht
    lia
  have hback : q.fetchedSum (rollbackRange q.effectiveStart q.today) =
      q.fetchedSum (fun d ↦ ¬ d = q.effectiveStart) := by
    refine PartialSums.sumOf_congr fun t ht ↦ ?_
    have := q.date_of_mem_fetched ht
    rw [rollbackRange, NaiveDate.succOpt_of_lt (by lia), Option.getD_some]
    lia
  have hsplit : ∀ p : NaiveDate → Prop, [DecidablePred p] →
      q.fetchedSum p + q.fetchedSum (fun d ↦ ¬ p d) =
      (q.fetched.map TransactionRow.amount).sum := by
    intro p _
    rw [← PartialSums.sumOf_true (p := fun _ ↦ True) fun _ _ ↦ trivial,
      PartialSums.sumOf_split fun t ↦ p t.date]
    simp only [true_and]
    rfl
  have h₁ := hsplit (day < ·)
  have h₂ := hsplit (· = q.effectiveStart)
  rw [hforward, hback]
  lia

/-! ### The run of the handler -/

/-- What the loop reads when the rollback has succeeded. -/
def seriesInput : SeriesInput where
  depositoryIds := q.scan.depositoryIds
  staticCurrentById := q.scan.staticCurrentById
  staticHistoryByAccount := q.historyByAccount
  flowsByAccount := flowsOf (q.fetched.map TransactionRow.toTransaction)
  baseStart := (q.cash.map Account.id).map fun accId ↦
    (accId, rolledBack q.scan (flowsOf (q.fetched.map TransactionRow.toTransaction))
      q.effectiveStart q.today accId)
  endDate := q.endDate
  endAnchor := min q.endDate q.today

/-- The balance a cash account is rolled back from. -/
theorem lookup_balanceCurrentById {a : Account} (ha : a ∈ q.cash) :
    (q.scan.balanceCurrentById.lookup a.id).getD 0 = a.signedBalance := by
  have hcat : a.balanceCategory = .cash := of_decide_eq_true (List.mem_filter.1 ha).2
  have hlookup : q.scan.balanceCurrentById.lookup a.id = some (a.balanceCurrent.getD 0) :=
    AssocMap.lookup_map_of_nodup Account.id (fun b ↦ b.balanceCurrent.getD 0) q.cash_ids_nodup ha
  rw [hlookup, Account.signedBalance, hcat]
  rfl

/-- **The loop's value of a day is the closed form.** -/
theorem pointValue_eq {day : NaiveDate} (hday : q.effectiveStart ≤ day) (hend : day ≤ q.endDate)
    (hmax : q.endDate < NaiveDate.MAX) :
    pointValue q.seriesInput (q.fetched.map TransactionRow.toTransaction) q.effectiveStart day =
      q.value day := by
  have hcarried : (q.seriesInput.staticCurrentById.map fun entry ↦
      staticValue q.seriesInput.staticHistoryByAccount day entry.1 entry.2).sum =
      (q.carried.map (q.carriedValue day)).sum := by
    have hids : q.seriesInput.staticCurrentById = q.carried.map fun a ↦ (a.id, a.signedBalance) :=
      rfl
    rw [hids, List.map_map]
    exact congrArg List.sum (List.map_congr_left fun a ha ↦ q.staticValue_eq ha day)
  have hbase : ∀ accId ∈ q.cash.map Account.id, (q.seriesInput.baseStart.lookup accId).getD 0 =
      (q.scan.balanceCurrentById.lookup accId).getD 0 -
        flowSum (q.fetched.map TransactionRow.toTransaction) accId
          (rollbackRange q.effectiveStart q.today) := by
    intro accId hacc
    have hlookup : q.seriesInput.baseStart.lookup accId =
        some (rolledBack q.scan (flowsOf (q.fetched.map TransactionRow.toTransaction))
          q.effectiveStart q.today accId) := by
      refine AssocMap.lookup_map_of_nodup (fun accId : Uuid ↦ accId) _ ?_ hacc
      rw [List.map_id']
      exact q.cash_ids_nodup
    rw [hlookup, ← sumWhere_flowsOf]
    rfl
  have hcash : ((q.cash.map Account.id).map fun accId ↦
      (q.seriesInput.baseStart.lookup accId).getD 0 +
        flowSum (q.fetched.map TransactionRow.toTransaction) accId fun d ↦
          q.effectiveStart ≤ d ∧ d < day + 1 ∧ d ≤ min q.endDate q.today).sum +
        q.fetchedSum (rollbackRange q.effectiveStart q.today) =
      (q.cash.map Account.signedBalance).sum +
        q.fetchedSum (fun d ↦
          q.effectiveStart ≤ d ∧ d < day + 1 ∧ d ≤ min q.endDate q.today) := by
    rw [← q.sum_flowSum_eq, ← q.sum_flowSum_eq, List.map_map, List.map_map, List.map_map,
      ← List.sum_map_add, ← List.sum_map_add]
    refine congrArg List.sum (List.map_congr_left fun a ha ↦ ?_)
    simp only [Function.comp_apply]
    rw [hbase a.id (List.mem_map_of_mem ha), q.lookup_balanceCurrentById ha]
    lia
  have hroll := q.fetchedSum_forward_sub_back hday hend hmax
  rw [pointValue, hcarried]
  refine congrArg _ ?_
  refine Eq.trans (eq_sub_of_add_eq hcash) ?_
  rw [add_sub_assoc, hroll, ← add_sub_assoc]

/-- The handler, on a valid window and with some account selected, is the rollback followed by the
loop. -/
theorem run_eq (hwindow : q.startDate ≤ q.endDate) (hsel : q.selected ≠ []) (fuel : ℕ) :
    q.run fuel = (baseStartByAccount q.scan
        (flowsOf (q.fetched.map TransactionRow.toTransaction)) q.effectiveStart q.today).bind
      fun baseStart ↦
        seriesLoop { q.seriesInput with baseStart := baseStart } fuel q.effectiveStart [] [] := by
  have hscan : ¬ (q.scan.depositoryIds = [] ∧ q.scan.staticCurrentById = []) := by
    rintro ⟨hdep, hstatic⟩
    refine hsel (List.eq_nil_iff_forall_not_mem.2 fun a ha ↦ ?_)
    rcases hcash : a.isCash with - | -
    · have hmem : a ∈ q.carried := List.mem_filter.2 ⟨ha, by simp [hcash]⟩
      have hnil : q.carried = [] := List.map_eq_nil_iff.1 hstatic
      exact List.not_mem_nil (hnil ▸ hmem)
    · have hmem : a ∈ q.cash := List.mem_filter.2 ⟨ha, hcash⟩
      have hnil : q.cash = [] := List.map_eq_nil_iff.1 hdep
      exact List.not_mem_nil (hnil ▸ hmem)
  rw [run, getAuthenticatedNetWorthOverTime, if_neg (not_lt.2 hwindow), foldl_scanAccount_eq,
    if_neg hscan]
  dsimp only
  rw [history_eq, foldl_collectTransaction]
  rw [show Timestamp.dateNaive q.now = q.today from rfl, keptTransactions_eq, List.map_map]
  rfl

theorem run_of_nothing_selected (hwindow : q.startDate ≤ q.endDate) (hsel : q.selected = [])
    (fuel : ℕ) : q.run fuel = .ok [] := by
  have hscan : q.scan.depositoryIds = [] ∧ q.scan.staticCurrentById = [] := by
    rw [scan, hsel]
    exact ⟨rfl, rfl⟩
  rw [run, getAuthenticatedNetWorthOverTime, if_neg (not_lt.2 hwindow), foldl_scanAccount_eq,
    if_pos hscan]

/-- The rollback has no backwards range: nothing to roll back, or some day to roll back over. -/
def RollbackSound : Prop :=
  q.fetched = [] ∨ q.rollbackStart ≤ q.today

/-- The loop ends: the window ends before the calendar does, or it is empty. -/
def LoopEnds : Prop :=
  q.endDate < NaiveDate.MAX ∨ q.endDate < q.effectiveStart

theorem lookup_flowsOf_eq_none_iff (l : List Transaction) (accId : Uuid) :
    (flowsOf l).lookup accId = none ↔ ∀ t ∈ l, t.accountId ≠ accId := by
  rw [lookup_flowsOf]
  split
  · rename_i hnil
    refine iff_of_true rfl fun t ht heq ↦ ?_
    have hmem : t ∈ l.filter fun t ↦ t.accountId = accId :=
      List.mem_filter.2 ⟨ht, decide_eq_true heq⟩
    exact List.not_mem_nil (hnil ▸ hmem)
  · rename_i hne
    refine iff_of_false (by simp) fun hall ↦ hne ?_
    exact List.filter_eq_nil_iff.2 fun t ht ↦ by simpa using hall t ht

theorem baseStart_eq_ok (h : q.RollbackSound) :
    baseStartByAccount q.scan (flowsOf (q.fetched.map TransactionRow.toTransaction))
      q.effectiveStart q.today = .ok q.seriesInput.baseStart := by
  refine baseStartByAccount_eq_ok q.cash_ids_nodup fun accId _ ↦ ?_
  rcases h with hnil | hrange
  · refine Or.inl ((lookup_flowsOf_eq_none_iff _ _).2 fun t ht ↦ ?_)
    rw [hnil, List.map_nil] at ht
    exact absurd ht List.not_mem_nil
  · exact Or.inr hrange

theorem baseStart_eq_panicked (h : ¬ q.RollbackSound) :
    baseStartByAccount q.scan (flowsOf (q.fetched.map TransactionRow.toTransaction))
      q.effectiveStart q.today = .error .panicked := by
  rw [RollbackSound, not_or, not_le] at h
  obtain ⟨hne, hrange⟩ := h
  obtain ⟨t, ht⟩ := List.exists_mem_of_ne_nil _ hne
  refine baseStartByAccount_eq_panicked hrange
    ⟨t.accountId, of_decide_eq_true (List.mem_filter.1 ht).2, fun hnone ↦ ?_⟩
  exact (lookup_flowsOf_eq_none_iff _ _).1 hnone _ (List.mem_map_of_mem ht) rfl

/-- The loop of a request whose rollback succeeds returns the points of the closed form. -/
theorem loop_returns_iff {series : List NetWorthSeriesPoint} :
    (∃ fuel, seriesLoop q.seriesInput fuel q.effectiveStart [] [] = .ok series) ↔
      q.LoopEnds ∧ series = q.points := by
  have hpoints : q.endDate < NaiveDate.MAX →
      ((Int.range q.effectiveStart (q.endDate + 1)).map fun d ↦ NetWorthSeriesPoint.mk d
        (pointValue q.seriesInput (q.fetched.map TransactionRow.toTransaction)
          q.effectiveStart d)) = q.points := by
    intro hmax
    refine List.map_congr_left fun d hd ↦ ?_
    obtain ⟨hle, hlt⟩ := Int.mem_range_iff.1 hd
    rw [q.pointValue_eq hle (Int.le_of_lt_add_one hlt) hmax]
  have hloop : q.endDate < NaiveDate.MAX → ∀ fuel : ℕ, 0 < fuel →
      q.endDate < q.effectiveStart + fuel →
      seriesLoop q.seriesInput fuel q.effectiveStart [] [] = .ok q.points := by
    intro hmax fuel hpos hturns
    rw [← hpoints hmax]
    exact seriesLoop_eq rfl hmax fuel (le_refl _) (cumBefore_start _ _ _) hpos hturns
  have hempty : q.endDate < q.effectiveStart → ∀ fuel : ℕ, 0 < fuel →
      seriesLoop q.seriesInput fuel q.effectiveStart [] [] = .ok q.points := by
    intro hlt fuel hpos
    obtain ⟨n, rfl⟩ := Nat.exists_eq_succ_of_ne_zero hpos.ne'
    have hguard : ¬ q.effectiveStart ≤ q.seriesInput.endDate := not_le.2 hlt
    rw [seriesLoop, if_neg hguard, points, range_eq_nil (by lia), List.map_nil]
  have henough : q.LoopEnds → ∀ fuel : ℕ,
      seriesLoop q.seriesInput (fuel + ((q.endDate - q.effectiveStart).toNat + 1))
        q.effectiveStart [] [] = .ok q.points := by
    rintro (hmax | hlt) fuel
    · exact hloop hmax _ (Nat.succ_pos _) (by push_cast; lia)
    · exact hempty hlt _ (Nat.succ_pos _)
  constructor
  · rintro ⟨fuel, hrun⟩
    by_cases hends : q.LoopEnds
    · have hmore := seriesLoop_mono ((q.endDate - q.effectiveStart).toNat + 1) hrun
      rw [henough hends fuel] at hmore
      exact ⟨hends, by simpa using hmore.symm⟩
    · rw [LoopEnds, not_or, not_lt, not_lt] at hends
      rw [seriesLoop_last_day hends.1 fuel hends.2] at hrun
      exact absurd hrun (by simp)
  · rintro ⟨hends, rfl⟩
    exact ⟨_, henough hends 0⟩

/-- **When and what the handler returns.** A window that is not backwards gets a series unless the
rollback panics or the loop does not end; the series is empty when no account is selected, and
otherwise has the points of the closed form. -/
theorem returns_iff {series : List NetWorthSeriesPoint} :
    q.Returns series ↔ q.startDate ≤ q.endDate ∧
      ((q.selected = [] ∧ series = []) ∨
        (q.selected ≠ [] ∧ q.RollbackSound ∧ q.LoopEnds ∧ series = q.points)) := by
  by_cases hwindow : q.startDate ≤ q.endDate
  · rw [and_iff_right hwindow]
    by_cases hsel : q.selected = []
    · have hrun := q.run_of_nothing_selected hwindow hsel
      constructor
      · rintro ⟨fuel, hfuel⟩
        rw [hrun fuel] at hfuel
        exact Or.inl ⟨hsel, by simpa using hfuel.symm⟩
      · rintro (⟨-, rfl⟩ | ⟨hne, -⟩)
        · exact ⟨0, hrun 0⟩
        · exact absurd hsel hne
    · rw [or_iff_right fun h ↦ hsel h.1, and_iff_right hsel]
      by_cases hsound : q.RollbackSound
      · rw [and_iff_right hsound, ← q.loop_returns_iff]
        refine exists_congr fun fuel ↦ ?_
        rw [q.run_eq hwindow hsel, q.baseStart_eq_ok hsound]
        rfl
      · refine iff_of_false ?_ fun h ↦ hsound h.1
        rintro ⟨fuel, hfuel⟩
        rw [q.run_eq hwindow hsel, q.baseStart_eq_panicked hsound] at hfuel
        exact absurd hfuel (by simp [Except.bind])
  · refine iff_of_false ?_ fun h ↦ hwindow h.1
    rintro ⟨fuel, hfuel⟩
    rw [run, getAuthenticatedNetWorthOverTime, if_pos (not_le.1 hwindow)] at hfuel
    exact absurd hfuel (by simp)

end NetWorthRequest

end Sumurai
