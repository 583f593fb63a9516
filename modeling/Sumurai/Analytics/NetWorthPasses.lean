import Mathlib.Algebra.BigOperators.Ring.List
import Mathlib.Data.Int.Range
import Sumurai.Analytics.NetWorth
import Sumurai.Foundations.Loops
import Sumurai.Foundations.PartialSums

/-!
# What each pass of the net-worth handler computes

One lemma for each of the handler's passes, so that the closed form of the series
(`NetWorthLedger`) never unfolds a loop.

* `foldl_scanAccount` — the scan of accounts with distinct ids is `AccountScan.ofSelected` of the
  selected ones: the cash accounts on one side, every other account on the other.
* `lookup_collectHistory`, `lookup_collectTransactions` — what is filed under an account: its
  snapshots, and its flows as a tally by day.
* `baseStartByAccount_eq_ok`, `baseStartByAccount_eq_panicked` — the rollback succeeds, or one
  account's range is backwards.
* `seriesLoop_eq` — the loop returns one point for every day of the window once it has a turn of
  fuel for each, and `seriesLoop_last_day` that it never returns when the window ends on the last
  day of the calendar.
-/

namespace Sumurai

/-! ### The scan -/

/-- A depository account, which the series reconstructs. -/
def Account.isCash (a : Account) : Bool :=
  a.balanceCategory = .cash

/-- A credit or loan account. -/
def Account.isLiability (a : Account) : Bool :=
  a.balanceCategory = .credit ∨ a.balanceCategory = .loan

/-- With distinct ids, an account's id is among those of a part of the list exactly when the
account is in that part. -/
theorem mem_map_id_filter {l : List Account} (hl : (l.map Account.id).Nodup) {a : Account}
    (ha : a ∈ l) (p : Account → Bool) : a.id ∈ (l.filter p).map Account.id ↔ p a = true := by
  rw [List.mem_map]
  constructor
  · rintro ⟨b, hb, hid⟩
    obtain ⟨hbl, hpb⟩ := List.mem_filter.1 hb
    exact List.inj_on_of_nodup_map hl hbl ha hid ▸ hpb
  · exact fun hpa ↦ ⟨a, List.mem_filter.2 ⟨ha, hpa⟩, rfl⟩

/-- The scan of a list of selected accounts with distinct ids. -/
def AccountScan.ofSelected (l : List Account) : AccountScan where
  depositoryIds := (l.filter Account.isCash).map Account.id
  balanceCurrentById := (l.filter Account.isCash).map fun a ↦ (a.id, a.balanceCurrent.getD 0)
  staticCurrentById := (l.filter fun a ↦ !a.isCash).map fun a ↦ (a.id, a.signedBalance)
  manualStaticAccountIds := (l.filter fun a ↦ !a.isCash && a.isManual).map Account.id
  liabilityStaticAccountIds := (l.filter fun a ↦ !a.isCash && a.isLiability).map Account.id
  accountAnchorDates :=
    (l.filter fun a ↦ !a.isCash).filterMap fun a ↦ a.updatedAt.map Timestamp.dateNaive

/-- Scanning one more selected account whose id is new. -/
theorem scanAccount_ofSelected {filteredAccountIds : Option (List Uuid)} {l : List Account}
    {a : Account} (ha : isSelected filteredAccountIds a.id = true) (hid : a.id ∉ l.map Account.id) :
    scanAccount filteredAccountIds (AccountScan.ofSelected l) a =
      AccountScan.ofSelected (l ++ [a]) := by
  have hnew : ∀ p : Account → Bool, a.id ∉ (l.filter p).map Account.id := fun p hmem ↦
    hid ((List.filter_sublist.map _).subset hmem)
  have hkey : ∀ p : Account → Bool, ∀ v : Decimal, ∀ f : Account → Decimal,
      AssocMap.insert a.id v ((l.filter p).map fun b ↦ (b.id, f b)) =
        ((l.filter p).map fun b ↦ (b.id, f b)) ++ [(a.id, v)] := fun p v f ↦
    AssocMap.insert_of_notMem v (by rw [List.map_map]; exact hnew p)
  have hor : ∀ p : Account → Bool, ∀ v : Decimal, ∀ f : Account → Decimal,
      AssocMap.orInsert a.id v ((l.filter p).map fun b ↦ (b.id, f b)) =
        ((l.filter p).map fun b ↦ (b.id, f b)) ++ [(a.id, v)] := fun p v f ↦
    AssocMap.orInsert_of_notMem v (by rw [List.map_map]; exact hnew p)
  have hadd : ∀ p : Account → Bool, AssocMap.addKey a.id ((l.filter p).map Account.id) =
      (l.filter p).map Account.id ++ [a.id] := fun p ↦ if_neg (hnew p)
  rw [scanAccount, if_pos ha]
  rcases hcat : mapAccountToBalanceCategory a.accountType none <;>
    rcases hman : a.isManual <;> rcases hup : a.updatedAt <;>
      simp [AccountScan.ofSelected, AccountScan.addStatic, Account.isCash, Account.isLiability,
        Account.signedBalance, BalanceCategory.signedBalance, Account.balanceCategory, hcat, hman,
        hup, hkey, hor, hadd]

/-- **The scan of accounts with distinct ids.** -/
theorem foldl_scanAccount (filteredAccountIds : Option (List Uuid)) {l : List Account}
    (hl : (l.map Account.id).Nodup) :
    l.foldl (scanAccount filteredAccountIds) AccountScan.empty =
      AccountScan.ofSelected (l.filter fun a ↦ isSelected filteredAccountIds a.id) := by
  induction l using List.reverseRecOn with
  | nil => rfl
  | append_singleton l a ih =>
    rw [List.map_append, List.map_singleton, List.nodup_append] at hl
    obtain ⟨hl', -, hdisj⟩ := hl
    rw [List.foldl_append, ih hl', List.filter_append, List.foldl_cons, List.foldl_nil]
    rcases ha : isSelected filteredAccountIds a.id with - | -
    · have hskip : ([a].filter fun b ↦ isSelected filteredAccountIds b.id) = [] := by simp [ha]
      rw [hskip, List.append_nil, scanAccount, ha, if_neg Bool.false_ne_true]
    · have hkeep : ([a].filter fun b ↦ isSelected filteredAccountIds b.id) = [a] := by simp [ha]
      rw [hkeep]
      refine scanAccount_ofSelected ha fun hmem ↦ ?_
      exact hdisj _ ((List.filter_sublist.map _).subset hmem) _ List.mem_cons_self rfl

/-! ### Filing -/

/-- A loop that files every element of a list anchors all their dates and files each under its
account. -/
theorem foldl_filed {ι : Type*} (date : ι → NaiveDate) (key : ι → Uuid)
    (write : ι → List (NaiveDate × Decimal) → List (NaiveDate × Decimal)) (l : List ι)
    (filed : Filed) :
    l.foldl
        (fun filed i ↦
          { anchorDates := filed.anchorDates ++ [date i]
            byAccount := AssocMap.modifyOrDefault (key i) [] (write i) filed.byAccount })
        filed =
      { anchorDates := filed.anchorDates ++ l.map date
        byAccount := l.foldl
          (fun m i ↦ AssocMap.modifyOrDefault (key i) [] (write i) m) filed.byAccount } := by
  induction l generalizing filed with
  | nil => simp
  | cons i l ih => rw [List.foldl_cons, ih]; simp

/-- The transactions the third pass keeps: selected, and of a depository account. -/
def keptTransactions (filteredAccountIds : Option (List Uuid)) (scan : AccountScan)
    (l : List Transaction) : List Transaction :=
  l.filter fun t ↦ isSelected filteredAccountIds t.accountId ∧ t.accountId ∈ scan.depositoryIds

/-- The flows of a list of transactions, by account and day. -/
def flowsOf (l : List Transaction) : DatedAmounts :=
  l.foldl
    (fun m t ↦ AssocMap.modifyOrDefault t.accountId [] (AssocMap.addTo t.date t.amount) m) []

theorem foldl_collectTransaction (filteredAccountIds : Option (List Uuid)) (scan : AccountScan)
    (l : List Transaction) :
    l.foldl (collectTransaction filteredAccountIds scan) Filed.empty =
      { anchorDates := (keptTransactions filteredAccountIds scan l).map Transaction.date
        byAccount := flowsOf (keptTransactions filteredAccountIds scan l) } := by
  have hfold := foldl_filed Transaction.date Transaction.accountId
    (fun t ↦ AssocMap.addTo t.date t.amount) (keptTransactions filteredAccountIds scan l)
    Filed.empty
  rw [keptTransactions, List.foldl_filter] at hfold
  simp only [decide_eq_true_eq] at hfold
  exact hfold

/-- **The flows filed under an account** are the tally by day of its transactions. -/
theorem lookup_flowsOf (l : List Transaction) (accId : Uuid) :
    (flowsOf l).lookup accId =
      if l.filter (fun t ↦ t.accountId = accId) = [] then none
      else some (AssocMap.tally Transaction.date Transaction.amount
        (l.filter fun t ↦ t.accountId = accId)) :=
  AssocMap.lookup_foldl_modifyOrDefault Transaction.accountId []
    (fun t ↦ AssocMap.addTo t.date t.amount) accId l []

/-- The sum of an account's flows on the days satisfying `p`. -/
def flowSum (l : List Transaction) (accId : Uuid) (p : NaiveDate → Prop) [DecidablePred p] :
    Decimal :=
  PartialSums.sumOf Transaction.amount (fun t ↦ t.accountId = accId ∧ p t.date) l

/-- Summing what is filed under an account sums its transactions. -/
theorem sumWhere_flowsOf (l : List Transaction) (accId : Uuid) (p : NaiveDate → Prop)
    [DecidablePred p] :
    AssocMap.sumWhere p (((flowsOf l).lookup accId).getD []) = flowSum l accId p := by
  have htally : AssocMap.sumWhere p (AssocMap.tally Transaction.date Transaction.amount
      (l.filter fun t ↦ t.accountId = accId)) = flowSum l accId p := by
    rw [AssocMap.sumWhere_tally, flowSum, ← PartialSums.sumOf_filter]
    rfl
  rw [lookup_flowsOf, ← htally]
  split
  · rename_i hnil
    rw [hnil]
    rfl
  · rfl

/-- What is filed under an account and a day is the sum of the account's transactions of the
day. -/
theorem getD_lookup_flowsOf (l : List Transaction) (accId : Uuid) (day : NaiveDate) :
    ((((flowsOf l).lookup accId).getD []).lookup day).getD 0 = flowSum l accId (· = day) := by
  have htally : ((AssocMap.tally Transaction.date Transaction.amount
      (l.filter fun t ↦ t.accountId = accId)).lookup day).getD 0 = flowSum l accId (· = day) := by
    rw [AssocMap.getD_lookup_tally, flowSum, ← PartialSums.sumOf_filter]
    rfl
  rw [lookup_flowsOf, ← htally]
  split
  · rename_i hnil
    rw [hnil]
    rfl
  · rfl

/-- The history points the second pass keeps: those of the manual carried accounts. -/
def keptHistory (scan : AccountScan) (l : List ManualAccountBalanceHistoryPoint) :
    List ManualAccountBalanceHistoryPoint :=
  l.filter fun p ↦ p.accountId ∈ scan.manualStaticAccountIds

/-- A snapshot, signed by the kind of its account. -/
def signedSnapshot (scan : AccountScan) (p : ManualAccountBalanceHistoryPoint) : Decimal :=
  if p.accountId ∈ scan.liabilityStaticAccountIds then -|p.balanceCurrent| else p.balanceCurrent

theorem foldl_collectHistoryPoint (scan : AccountScan)
    (l : List ManualAccountBalanceHistoryPoint) :
    l.foldl (collectHistoryPoint scan) Filed.empty =
      { anchorDates := (keptHistory scan l).map ManualAccountBalanceHistoryPoint.asOfDate
        byAccount := (keptHistory scan l).foldl
          (fun m p ↦ AssocMap.modifyOrDefault p.accountId []
            (AssocMap.insert p.asOfDate (signedSnapshot scan p)) m)
          [] } := by
  have hfold := foldl_filed ManualAccountBalanceHistoryPoint.asOfDate
    ManualAccountBalanceHistoryPoint.accountId
    (fun p ↦ AssocMap.insert p.asOfDate (signedSnapshot scan p)) (keptHistory scan l) Filed.empty
  rw [keptHistory, List.foldl_filter] at hfold
  simp only [decide_eq_true_eq] at hfold
  exact hfold

/-- **The snapshots filed under an account** are its own, one for each of their days. -/
theorem lookup_history (scan : AccountScan) {l : List ManualAccountBalanceHistoryPoint}
    (hl : (l.map fun p ↦ (p.accountId, p.asOfDate)).Nodup) (accId : Uuid) :
    (l.foldl (fun m p ↦ AssocMap.modifyOrDefault p.accountId []
        (AssocMap.insert p.asOfDate (signedSnapshot scan p)) m) []).lookup accId =
      if l.filter (fun p ↦ p.accountId = accId) = [] then none
      else some ((l.filter fun p ↦ p.accountId = accId).map fun p ↦
        (p.asOfDate, signedSnapshot scan p)) := by
  rw [AssocMap.lookup_foldl_modifyOrDefault ManualAccountBalanceHistoryPoint.accountId []
    (fun p ↦ AssocMap.insert p.asOfDate (signedSnapshot scan p)) accId l [], List.lookup_nil,
    Option.getD_none]
  have hdays : ((l.filter fun p ↦ p.accountId = accId).map
      ManualAccountBalanceHistoryPoint.asOfDate).Nodup := by
    refine List.Nodup.of_map (fun d ↦ (accId, d)) ?_
    rw [List.map_map]
    have hsame : (l.filter fun p ↦ p.accountId = accId).map
          ((fun d ↦ (accId, d)) ∘ ManualAccountBalanceHistoryPoint.asOfDate) =
        (l.filter fun p ↦ p.accountId = accId).map fun p ↦ (p.accountId, p.asOfDate) := by
      refine List.map_congr_left fun p hp ↦ ?_
      have hid : p.accountId = accId := of_decide_eq_true (List.mem_filter.1 hp).2
      rw [Function.comp_apply, hid]
    rw [hsame]
    exact hl.sublist (List.filter_sublist.map _)
  rw [AssocMap.foldl_insert_of_nodup _ _ hdays (by simp), List.nil_append]

/-! ### The baseline -/

/-- The flows of an account over the rolled-back range. -/
def rollbackRange (effectiveStart today d : NaiveDate) : Prop :=
  (NaiveDate.succOpt effectiveStart).getD effectiveStart ≤ d ∧ d ≤ today

instance (effectiveStart today : NaiveDate) : DecidablePred (rollbackRange effectiveStart today) :=
  fun _ ↦ inferInstanceAs (Decidable (_ ∧ _))

/-- What an account's balance is rolled back to. -/
def rolledBack (scan : AccountScan) (flows : DatedAmounts) (effectiveStart today : NaiveDate)
    (accId : Uuid) : Decimal :=
  (scan.balanceCurrentById.lookup accId).getD 0 -
    AssocMap.sumWhere (rollbackRange effectiveStart today) ((flows.lookup accId).getD [])

/-- The rollback of every account succeeds when no range is backwards. -/
theorem baseStartByAccount_eq_ok {scan : AccountScan} {flows : DatedAmounts}
    {effectiveStart today : NaiveDate} (hids : scan.depositoryIds.Nodup)
    (h : ∀ accId ∈ scan.depositoryIds, flows.lookup accId = none ∨
      (NaiveDate.succOpt effectiveStart).getD effectiveStart ≤ today) :
    baseStartByAccount scan flows effectiveStart today =
      .ok (scan.depositoryIds.map fun accId ↦
        (accId, rolledBack scan flows effectiveStart today accId)) := by
  have hrollback : ∀ accId ∈ scan.depositoryIds, rollbackSum flows effectiveStart today accId =
      .ok (AssocMap.sumWhere (rollbackRange effectiveStart today)
        ((flows.lookup accId).getD [])) := by
    intro accId hacc
    rw [rollbackSum]
    rcases hm : flows.lookup accId with - | m
    · rfl
    · have hrange := (h accId hacc).resolve_left (by simp [hm])
      dsimp only
      rw [if_neg (not_lt.2 hrange)]
      rfl
  rw [baseStartByAccount, Loops.foldlM_eq_ok (g := fun bases accId ↦
    AssocMap.insert accId (rolledBack scan flows effectiveStart today accId) bases)]
  · rw [AssocMap.foldl_insert_of_nodup _ _ (by simpa using hids) (by simp), List.nil_append]
  · intro accId hacc bases
    rw [hrollback accId hacc]
    rfl

/-- The rollback panics when some account has flows and the range is backwards. -/
theorem baseStartByAccount_eq_panicked {scan : AccountScan} {flows : DatedAmounts}
    {effectiveStart today : NaiveDate}
    (hrange : today < (NaiveDate.succOpt effectiveStart).getD effectiveStart)
    (h : ∃ accId ∈ scan.depositoryIds, flows.lookup accId ≠ none) :
    baseStartByAccount scan flows effectiveStart today = .error .panicked := by
  have hbody : ∀ accId, rollbackSum flows effectiveStart today accId =
      (flows.lookup accId).elim (.ok 0) fun _ ↦ .error .panicked := by
    intro accId
    rw [rollbackSum]
    rcases flows.lookup accId with - | m
    · rfl
    · dsimp only
      rw [if_pos hrange]
      rfl
  refine Loops.foldlM_eq_error ?_ ?_ []
  · intro accId _ bases e' he
    rw [hbody] at he
    rcases hm : flows.lookup accId with - | m
    · simp [hm, bind, Except.bind, pure, Except.pure] at he
    · simpa [hm, bind, Except.bind] using he.symm
  · obtain ⟨accId, hacc, hflows⟩ := h
    refine ⟨accId, hacc, fun bases ↦ ?_⟩
    rw [hbody]
    rcases hm : flows.lookup accId with - | m
    · exact absurd hm hflows
    · rfl

/-! ### The daily loop -/

/-- `per_account_cum` before a day: the flows of the window's earlier days, up to the anchor. -/
def CumBefore (l : List Transaction) (effectiveStart endAnchor day : NaiveDate)
    (cum : List (Uuid × Decimal)) : Prop :=
  ∀ accId, (cum.lookup accId).getD 0 =
    flowSum l accId fun d ↦ effectiveStart ≤ d ∧ d < day ∧ d ≤ endAnchor

theorem cumBefore_start (l : List Transaction) (effectiveStart endAnchor : NaiveDate) :
    CumBefore l effectiveStart endAnchor effectiveStart [] := by
  intro accId
  refine (PartialSums.sumOf_eq_zero fun t _ ht ↦ ?_).symm
  exact absurd ht.2.2.1 (not_lt.2 ht.2.1)

theorem getD_lookup_addFlowsOfDay (l : List Transaction) (day : NaiveDate)
    (cum : List (Uuid × Decimal)) (accId : Uuid) :
    ((addFlowsOfDay (flowsOf l) day cum).lookup accId).getD 0 =
      (cum.lookup accId).getD 0 + flowSum l accId (· = day) := by
  have hkeys : ((flowsOf l).map Prod.fst).Nodup :=
    AssocMap.nodup_keys_foldl_modifyOrDefault _ _ _ l List.nodup_nil
  rw [addFlowsOfDay, AssocMap.getD_lookup_foldl_addTo, AssocMap.filter_fst_of_nodup hkeys,
    ← getD_lookup_flowsOf]
  rcases (flowsOf l).lookup accId with - | m <;> simp

/-- **One turn of the loop files the flows of its day.** -/
theorem CumBefore.succ {l : List Transaction} {effectiveStart endAnchor day : NaiveDate}
    {cum : List (Uuid × Decimal)} (hday : effectiveStart ≤ day)
    (h : CumBefore l effectiveStart endAnchor day cum) :
    CumBefore l effectiveStart endAnchor (day + 1)
      (if day ≤ endAnchor then addFlowsOfDay (flowsOf l) day cum else cum) := by
  intro accId
  have hsplit : flowSum l accId (fun d ↦ effectiveStart ≤ d ∧ d < day + 1 ∧ d ≤ endAnchor) =
      flowSum l accId (fun d ↦ effectiveStart ≤ d ∧ d < day ∧ d ≤ endAnchor) +
        if day ≤ endAnchor then flowSum l accId (· = day) else 0 := by
    rw [flowSum, PartialSums.sumOf_split fun t ↦ t.date < day]
    refine congrArg₂ (· + ·) (PartialSums.sumOf_congr fun t _ ↦ by lia) ?_
    split
    · exact PartialSums.sumOf_congr fun t _ ↦ by lia
    · exact PartialSums.sumOf_eq_zero fun t _ ↦ by lia
  rw [hsplit, ← h accId]
  split
  · exact getD_lookup_addFlowsOfDay l day cum accId
  · exact (add_zero _).symm

/-- The value of a day, with the running sums written out. -/
def pointValue (w : SeriesInput) (l : List Transaction) (effectiveStart day : NaiveDate) :
    Decimal :=
  (w.staticCurrentById.map fun entry ↦
      staticValue w.staticHistoryByAccount day entry.1 entry.2).sum +
    (w.depositoryIds.map fun accId ↦ (w.baseStart.lookup accId).getD 0 +
      flowSum l accId fun d ↦ effectiveStart ≤ d ∧ d < day + 1 ∧ d ≤ w.endAnchor).sum

theorem dayTotal_of_cumBefore {w : SeriesInput} {l : List Transaction}
    {effectiveStart day : NaiveDate} {cum : List (Uuid × Decimal)}
    (h : CumBefore l effectiveStart w.endAnchor (day + 1) cum) :
    dayTotal w day cum = pointValue w l effectiveStart day := by
  rw [dayTotal, pointValue]
  exact congrArg _ (congrArg List.sum (List.map_congr_left fun accId _ ↦ by rw [h accId]))

theorem range_eq_cons {m n : ℤ} (h : m < n) : Int.range m n = m :: Int.range (m + 1) n := by
  obtain ⟨k, hk⟩ := Int.le.dest h
  have hm : (n - m).toNat = k + 1 := by lia
  have hm' : (n - (m + 1)).toNat = k := by lia
  rw [Int.range, Int.range, hm, hm', List.range_succ_eq_map, List.map_cons, List.map_map]
  refine congrArg₂ List.cons (add_zero m) (List.map_congr_left fun i _ ↦ ?_)
  rw [Function.comp_apply]
  push_cast
  lia

theorem range_eq_nil {m n : ℤ} (h : n ≤ m) : Int.range m n = [] := by
  rw [Int.range, Int.toNat_of_nonpos (by lia)]
  rfl

/-- **The daily loop** returns one point for each day of the window, once it has a turn for
each. -/
theorem seriesLoop_eq {w : SeriesInput} {l : List Transaction} {effectiveStart : NaiveDate}
    (hflows : w.flowsByAccount = flowsOf l) (hend : w.endDate < NaiveDate.MAX) (fuel : ℕ)
    {day : NaiveDate} {cum : List (Uuid × Decimal)} {series : List NetWorthSeriesPoint}
    (hday : effectiveStart ≤ day) (hcum : CumBefore l effectiveStart w.endAnchor day cum)
    (hfuel : 0 < fuel) (hturns : w.endDate < day + fuel) :
    seriesLoop w fuel day cum series =
      .ok (series ++ (Int.range day (w.endDate + 1)).map fun d ↦
        { date := d, value := pointValue w l effectiveStart d }) := by
  induction fuel generalizing day cum series with
  | zero => exact absurd hfuel (lt_irrefl 0)
  | succ fuel ih =>
    rw [seriesLoop]
    by_cases hle : day ≤ w.endDate
    · have hcum' := hcum.succ hday
      rw [if_pos hle, hflows, NaiveDate.succOpt_of_lt (lt_of_le_of_lt hle hend), Option.getD_some,
        range_eq_cons (Int.lt_add_one_of_le hle), List.map_cons]
      dsimp only
      rw [dayTotal_of_cumBefore hcum']
      by_cases hlast : w.endDate < day + 1
      · rw [if_pos hlast, range_eq_nil (by lia), List.map_nil]
      · rw [if_neg hlast, ih (by lia) hcum' (by lia) (by push_cast at hturns; lia),
          List.append_assoc, List.singleton_append]
    · rw [if_neg hle, range_eq_nil (by lia), List.map_nil, List.append_nil]

/-- More fuel does not change a series that is returned. -/
theorem seriesLoop_mono {w : SeriesInput} {fuel : ℕ} (extra : ℕ) {day : NaiveDate}
    {cum : List (Uuid × Decimal)} {series result : List NetWorthSeriesPoint}
    (h : seriesLoop w fuel day cum series = .ok result) :
    seriesLoop w (fuel + extra) day cum series = .ok result := by
  induction fuel generalizing day cum series with
  | zero => exact absurd h (by simp [seriesLoop])
  | succ fuel ih =>
    rw [Nat.succ_add, seriesLoop]
    rw [seriesLoop] at h
    split at h
    · rename_i hle
      rw [if_pos hle]
      dsimp only at h ⊢
      split at h
      · rename_i hlast
        rw [if_pos hlast, h]
      · rename_i hlast
        rw [if_neg hlast]
        exact ih h
    · rename_i hle
      rw [if_neg hle, h]

/-- When the window ends on the last day of the calendar, no amount of fuel is enough. -/
theorem seriesLoop_last_day {w : SeriesInput} (hend : NaiveDate.MAX ≤ w.endDate) (fuel : ℕ)
    {day : NaiveDate} {cum : List (Uuid × Decimal)} {series : List NetWorthSeriesPoint}
    (hday : day ≤ w.endDate) : seriesLoop w fuel day cum series = .error .running := by
  induction fuel generalizing day cum series with
  | zero => rfl
  | succ fuel ih =>
    have hnext : (NaiveDate.succOpt day).getD day ≤ w.endDate := by
      rcases lt_or_ge day NaiveDate.MAX with hlt | hge
      · rw [NaiveDate.succOpt_of_lt hlt, Option.getD_some]
        exact (Int.add_one_le_of_lt hlt).trans hend
      · rw [NaiveDate.succOpt_of_le hge, Option.getD_none]
        exact hday
    rw [seriesLoop, if_pos hday, if_neg (not_lt.2 hnext)]
    exact ih hnext

end Sumurai
