import Sumurai.Analytics.NetWorthPasses
import Sumurai.Overview.Session

/-!
# What an overview depends on

`OverviewRead.dependsOn` collects what the response of a read is computed from: of the balances the
rows of the selected accounts; of a net-worth series what the scan over the selected accounts keeps
of them, the recorded balances of the manual accounts among them, and the flows of the depository
accounts among them. `compute_congr` says that nothing else matters: on two databases that agree on
this, a read computes the same response.

A filter names accounts of the user, or the read is refused. Whether it does depends on the same
data (`Admitted.congr`).
-/

namespace Sumurai

/-- What a response is computed from. -/
inductive OverviewInputs where
  | balances (rows : List LatestAccountBalance)
  /-- The flows are the accounts, days and amounts of transactions. -/
  | netWorth (scan : AccountScan) (history : List ManualAccountBalanceHistoryPoint)
      (flows : List (Uuid × NaiveDate × Decimal))
deriving DecidableEq, Repr

/-- What the series keeps of a transaction. -/
def Transaction.flow (t : Transaction) : Uuid × NaiveDate × Decimal :=
  (t.accountId, t.date, t.amount)

namespace OverviewRead

variable (S : SessionContext)

/-- The accounts, balances and transactions that a read depends on, when it is served on a day. -/
def dependsOn (today : NaiveDate) (db : Store) : OverviewRead → OverviewInputs
  | balancesOverview accountIds =>
    .balances ((getLatestAccountBalancesForUser S.locale db S.userId).filter fun row ↦
      isSelected accountIds row.accountId)
  | netWorthOverTime startDate endDate accountIds =>
    let scan := S.scan db accountIds
    let transactions := (getTransactionsByDateRangeForUser db S.userId startDate today).map
      TransactionRow.toTransaction
    .netWorth scan (keptHistory scan (getManualAccountBalanceHistoryForUser db S.userId endDate))
      ((keptTransactions accountIds scan transactions).map Transaction.flow)

/-- The account filter of a read names accounts of the user. -/
def Admitted (db : Store) (r : OverviewRead) : Prop :=
  ∀ accountIds ∈ r.accountIds, ∀ id ∈ accountIds,
    id ∈ (getAccountsForUser S.locale db S.userId).map Account.id

variable {S} {r : OverviewRead} {db db' : Store} {today : NaiveDate} {e : ReadReply}

/-! ### A valid request is admitted -/

theorem validateAccountOwnership_eq_ok {ids : List String} {accountIds : List Uuid}
    (h : S.validateAccountOwnership db e ids = .ok accountIds) :
    ∀ id ∈ accountIds, id ∈ (getAccountsForUser S.locale db S.userId).map Account.id := by
  unfold SessionContext.validateAccountOwnership at h
  split at h
  · cases h
  · split_ifs at h with hup howned
    obtain rfl := Except.ok.inj h
    exact howned

theorem accountFilter_eq_ok {ids : List String} {filter : Option (List Uuid)}
    (h : S.accountFilter db e ids = .ok filter) : ∀ accountIds ∈ filter, ∀ id ∈ accountIds,
      id ∈ (getAccountsForUser S.locale db S.userId).map Account.id := by
  unfold SessionContext.accountFilter at h
  split at h
  · obtain rfl := Except.ok.inj h
    intro accountIds hmem
    cases hmem
  · rcases hids : S.validateAccountOwnership db e ids with failure | accountIds
    · rw [hids] at h
      cases h
    · rw [hids] at h
      obtain rfl := Except.ok.inj h
      intro accountIds' hmem
      obtain rfl := Option.mem_some_iff.1 hmem
      exact validateAccountOwnership_eq_ok hids

/-- **A request that is valid is admitted.** -/
theorem admitted_of_validate {request : OverviewRequest} (h : S.validate db e request = .ok r) :
    r.Admitted S db := by
  cases request with
  | balancesOverview ids =>
    rcases hids : S.accountFilter db e ids with failure | filter
    · rw [SessionContext.validate, hids] at h
      cases h
    · rw [SessionContext.validate, hids] at h
      obtain rfl := Except.ok.inj h
      exact accountFilter_eq_ok hids
  | netWorthOverTime startDate endDate ids =>
    rw [SessionContext.validate] at h
    split at h
    · cases h
    · rcases hids : S.accountFilter db e ids with failure | filter
      · rw [hids] at h
        cases h
      · rw [hids] at h
        obtain rfl := Except.ok.inj h
        exact accountFilter_eq_ok hids

end OverviewRead

/-! ### The accounts of a scan -/

/-- The scan has kept an account. -/
def AccountScan.Has (scan : AccountScan) (id : Uuid) : Prop :=
  id ∈ scan.depositoryIds ∨ id ∈ scan.staticCurrentById.map Prod.fst

theorem AccountScan.has_addStatic {scan : AccountScan} {a : Account} {balance : Decimal}
    {id : Uuid} :
    (scan.addStatic a balance).Has id ↔ scan.Has id ∨ id = a.id := by
  show id ∈ scan.depositoryIds ∨ id ∈ (AssocMap.insert a.id balance _).map Prod.fst ↔ _
  rw [AssocMap.map_fst_insert, AssocMap.mem_addKey, ← or_assoc]
  rfl

/-- The scan of an account keeps it if it is selected. -/
theorem has_scanAccount {accountIds : Option (List Uuid)} {scan : AccountScan} {a : Account}
    {id : Uuid} : (scanAccount accountIds scan a).Has id ↔
      scan.Has id ∨ (isSelected accountIds a.id = true ∧ id = a.id) := by
  unfold scanAccount
  split
  · rename_i hselected
    rw [and_iff_right hselected]
    cases mapAccountToBalanceCategory a.accountType none with
    | cash =>
      show id ∈ AssocMap.addKey a.id scan.depositoryIds ∨ _ ↔ _
      rw [AssocMap.mem_addKey, AccountScan.Has]
      exact or_right_comm
    | investments | property => exact AccountScan.has_addStatic
    | credit | loan =>
      show (scan.addStatic a (-|a.balanceCurrent.getD 0|)).Has id ↔ _
      exact AccountScan.has_addStatic
  · rename_i hselected
    exact (or_iff_left fun h ↦ hselected h.1).symm

theorem has_foldl_scanAccount {accountIds : Option (List Uuid)} {l : List Account}
    {scan : AccountScan} {id : Uuid} : (l.foldl (scanAccount accountIds) scan).Has id ↔
      scan.Has id ∨ (isSelected accountIds id = true ∧ id ∈ l.map Account.id) := by
  induction l generalizing scan with
  | nil => simp
  | cons a l ih =>
    rw [List.foldl_cons, ih, has_scanAccount, List.map_cons, List.mem_cons, or_assoc]
    refine or_congr_right ?_
    constructor
    · rintro (⟨hselected, rfl⟩ | ⟨hselected, hmem⟩)
      · exact ⟨hselected, Or.inl rfl⟩
      · exact ⟨hselected, Or.inr hmem⟩
    · rintro ⟨hselected, rfl | hmem⟩
      · exact Or.inl ⟨hselected, rfl⟩
      · exact Or.inr ⟨hselected, hmem⟩

namespace OverviewRead

variable {S : SessionContext} {r : OverviewRead} {db db' : Store} {today : NaiveDate}
  {e : ReadReply}

/-- An account of the filter is the user's if the data that the read depends on have it. -/
theorem mem_accounts_iff (today : NaiveDate) {accountIds : List Uuid} {id : Uuid}
    (hid : id ∈ accountIds)
    (hfilter : r.accountIds = some accountIds) :
    id ∈ (getAccountsForUser S.locale db S.userId).map Account.id ↔
      match r.dependsOn S today db with
      | .balances rows => id ∈ rows.map LatestAccountBalance.accountId
      | .netWorth scan _ _ => scan.Has id := by
  have hselected : isSelected (some accountIds) id = true := by simpa [isSelected] using hid
  cases r with
  | balancesOverview ids =>
    obtain rfl : ids = some accountIds := hfilter
    show _ ↔ id ∈ ((getLatestAccountBalancesForUser _ _ _).filter _).map _
    rw [getLatestAccountBalancesForUser_eq_map, List.filter_map, List.map_map, List.mem_map,
      List.mem_map]
    constructor
    · rintro ⟨a, ha, rfl⟩
      exact ⟨a, List.mem_filter.2 ⟨ha, hselected⟩, rfl⟩
    · rintro ⟨a, ha, rfl⟩
      exact ⟨a, (List.mem_filter.1 ha).1, rfl⟩
  | netWorthOverTime startDate endDate ids =>
    obtain rfl : ids = some accountIds := hfilter
    show _ ↔ AccountScan.Has (List.foldl _ _ _) id
    rw [has_foldl_scanAccount, and_iff_right hselected]
    exact (or_iff_right (by simp [AccountScan.Has, AccountScan.empty])).symm

/-- **Whether a read is admitted depends on what the read depends on.** -/
theorem Admitted.congr (h : r.dependsOn S today db = r.dependsOn S today db')
    (hadmitted : r.Admitted S db) : r.Admitted S db' := by
  intro accountIds hfilter id hid
  have hbefore := hadmitted accountIds hfilter id hid
  rw [mem_accounts_iff today hid hfilter, h] at hbefore
  exact (mem_accounts_iff today hid hfilter).2 hbefore

/-! ### Nothing else matters -/

theorem overviewRows_eq_nil {accountIds : Option (List Uuid)}
    (h : overviewRows S.locale db S.userId accountIds = []) :
    selectedAccounts S.locale db S.userId accountIds = [] := by
  have hsigned := overviewRows_map_signedBalance S.locale db S.userId accountIds
  rw [h] at hsigned
  exact List.map_eq_nil_iff.1 hsigned.symm

theorem groups_eq_nil {κ ι ν : Type} [DecidableEq κ] {key : ι → κ} {val : ι → ν} {l : List ι}
    (h : AssocMap.groups key val l = []) : l = [] := by
  have hperm := AssocMap.flatMap_groups_perm key val l
  rw [h] at hperm
  exact List.map_eq_nil_iff.1 hperm.symm.eq_nil

/-- The balances overview depends on the rows of its accounts. -/
theorem getAuthenticatedBalancesOverview_congr {accountIds : Option (List Uuid)}
    (h : (balancesOverview accountIds).dependsOn S today db =
      (balancesOverview accountIds).dependsOn S today db') :
    getAuthenticatedBalancesOverview S.locale db S.userId accountIds =
      getAuthenticatedBalancesOverview S.locale db' S.userId accountIds := by
  have hselected := OverviewInputs.balances.inj h
  have hrows : overviewRows S.locale db S.userId accountIds =
      overviewRows S.locale db' S.userId accountIds :=
    congrArg (List.filter fun row : LatestAccountBalance ↦ !isForeignCurrency row.currency)
      hselected
  have hlatest : latestMap S.locale db S.userId accountIds =
      latestMap S.locale db' S.userId accountIds := by
    simp only [latestMap, hrows]
    split
    · -- without rows there are no accounts to fall back to
      rename_i hnone
      have hnil := groups_eq_nil hnone
      rw [overviewRows_eq_nil hnil, overviewRows_eq_nil (hrows.trans hnil)]
    · rfl
  rw [getAuthenticatedBalancesOverview, getAuthenticatedBalancesOverview, hlatest, hrows, hselected]

/-- What is filed of transactions depends on their flows. -/
theorem collectTransaction_congr {accountIds : Option (List Uuid)} {scan : AccountScan}
    {l l' : List Transaction}
    (h : (keptTransactions accountIds scan l).map Transaction.flow =
      (keptTransactions accountIds scan l').map Transaction.flow) :
    l.foldl (collectTransaction accountIds scan) Filed.empty =
      l'.foldl (collectTransaction accountIds scan) Filed.empty := by
  have hdates : ∀ l : List Transaction,
      l.map Transaction.date = (l.map Transaction.flow).map fun flow ↦ flow.2.1 :=
    fun l ↦ by rw [List.map_map]; rfl
  have hflows : ∀ l : List Transaction, flowsOf l = (l.map Transaction.flow).foldl (fun m flow ↦
      AssocMap.modifyOrDefault flow.1 [] (AssocMap.addTo flow.2.1 flow.2.2) m) [] :=
    fun l ↦ by rw [List.foldl_map]; rfl
  rw [foldl_collectTransaction, foldl_collectTransaction, hdates, hflows, h, ← hdates, ← hflows]

/-- The net-worth series depends on its accounts, snapshots and flows. -/
theorem getAuthenticatedNetWorthOverTime_congr {startDate endDate : NaiveDate}
    {accountIds : Option (List Uuid)} {now : Timestamp} {fuel : ℕ}
    (h : (netWorthOverTime startDate endDate accountIds).dependsOn S (Timestamp.dateNaive now) db =
      (netWorthOverTime startDate endDate accountIds).dependsOn S (Timestamp.dateNaive now) db') :
    getAuthenticatedNetWorthOverTime S.locale db S.userId accountIds now startDate endDate fuel =
      getAuthenticatedNetWorthOverTime S.locale db' S.userId accountIds now startDate endDate
        fuel := by
  obtain ⟨hscan, hhistory, hflows⟩ := OverviewInputs.netWorth.inj h
  rw [← hscan] at hhistory hflows
  have hfiled := collectTransaction_congr hflows
  have hsnapshots : ∀ scan, keptHistory scan
      (getManualAccountBalanceHistoryForUser db S.userId endDate) =
      keptHistory scan (getManualAccountBalanceHistoryForUser db' S.userId endDate) →
      (getManualAccountBalanceHistoryForUser db S.userId endDate).foldl (collectHistoryPoint scan)
          Filed.empty =
        (getManualAccountBalanceHistoryForUser db' S.userId endDate).foldl
          (collectHistoryPoint scan) Filed.empty := by
    intro scan hkept
    rw [foldl_collectHistoryPoint, foldl_collectHistoryPoint, hkept]
  unfold getAuthenticatedNetWorthOverTime
  unfold SessionContext.scan at hscan hhistory hfiled
  rw [← hscan]
  dsimp only
  rw [hsnapshots _ hhistory, hfiled]

/-- **A read computes the same response on databases that agree on what it depends on.** -/
theorem compute_congr
    (h : r.dependsOn S (Timestamp.dateNaive e.now) db =
      r.dependsOn S (Timestamp.dateNaive e.now) db') :
    S.compute db e r = S.compute db' e r := by
  cases r with
  | balancesOverview accountIds =>
    rw [SessionContext.compute, SessionContext.compute, getAuthenticatedBalancesOverview_congr h]
  | netWorthOverTime startDate endDate accountIds =>
    have hscan : S.scan db accountIds = S.scan db' accountIds := (OverviewInputs.netWorth.inj h).1
    rw [SessionContext.compute, SessionContext.compute, getAuthenticatedNetWorthOverTime_congr h,
      hscan]

end OverviewRead

end Sumurai
