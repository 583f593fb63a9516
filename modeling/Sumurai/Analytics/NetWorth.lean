import Sumurai.Analytics.BalancesOverview
import Sumurai.Repository.Transactions

/-!
# The net-worth series

`get_authenticated_net_worth_over_time` (`main.rs`), from the validated request to the series. The
balances of depository accounts are reconstructed day by day from their transactions; every other
account is carried at its current balance, or, when it is a manual account with a balance
history, at its last snapshot.

The handler runs in five passes, each a definition here: `scanAccount` sorts the accounts into
the ones to reconstruct and the ones to carry, `collectHistoryPoint` and `collectTransaction`
file the snapshots and the flows, `baseStartByAccount` rolls the current balances back to the
start of the series, and `seriesLoop` rolls them forward again, one day at a time.

Two ways of not answering are the handler's own. `BTreeMap::range` panics on a range whose start is
past its end, which is what `rollbackSum` reports as `panicked`. And the loop steps its day with
`succ_opt().unwrap_or(day)`, which does not move on the last day of the calendar; the loop
therefore takes fuel, and a run is finished when some amount of fuel finishes it.
-/

namespace Sumurai

/-- The ways in which the handler ends without a series. -/
inductive Abort where
  /-- `StatusCode::BAD_REQUEST`. -/
  | badRequest
  /-- The request's task panics. -/
  | panicked
  /-- The loop is still running. -/
  | running
deriving DecidableEq, Repr

/-- `NetWorthSeriesPoint`. The response formats the date. -/
structure NetWorthSeriesPoint where
  date : NaiveDate
  value : Decimal
deriving DecidableEq, Repr

/-! ### Scanning the accounts -/

/-- What the pass over the accounts collects. -/
structure AccountScan where
  depositoryIds : List Uuid
  balanceCurrentById : List (Uuid × Decimal)
  staticCurrentById : List (Uuid × Decimal)
  manualStaticAccountIds : List Uuid
  liabilityStaticAccountIds : List Uuid
  accountAnchorDates : List NaiveDate
deriving DecidableEq, Repr

/-- Before the first account. -/
def AccountScan.empty : AccountScan where
  depositoryIds := []
  balanceCurrentById := []
  staticCurrentById := []
  manualStaticAccountIds := []
  liabilityStaticAccountIds := []
  accountAnchorDates := []

/-- `acc.provider_connection_id.is_none() && acc.provider_account_id.is_none()`. -/
def Account.isManual (acc : Account) : Bool :=
  acc.providerConnectionId.isNone && acc.providerAccountId.isNone

/-- The two branches of the scan for accounts without a ledger: carried at the given balance, and
anchored at the day of the last update. -/
def AccountScan.addStatic (scan : AccountScan) (acc : Account) (signedBalance : Decimal) :
    AccountScan :=
  { scan with
    staticCurrentById := AssocMap.insert acc.id signedBalance scan.staticCurrentById
    accountAnchorDates :=
      match acc.updatedAt with
      | some updatedAt => scan.accountAnchorDates ++ [Timestamp.dateNaive updatedAt]
      | none => scan.accountAnchorDates
    manualStaticAccountIds :=
      if acc.isManual then AssocMap.addKey acc.id scan.manualStaticAccountIds
      else scan.manualStaticAccountIds }

/-- One account of the first pass. -/
def scanAccount (filteredAccountIds : Option (List Uuid)) (scan : AccountScan) (acc : Account) :
    AccountScan :=
  if isSelected filteredAccountIds acc.id then
    let balance := acc.balanceCurrent.getD 0
    match mapAccountToBalanceCategory acc.accountType none with
    | .cash =>
      { scan with
        depositoryIds := AssocMap.addKey acc.id scan.depositoryIds
        balanceCurrentById := AssocMap.orInsert acc.id balance scan.balanceCurrentById }
    | .investments | .property => scan.addStatic acc balance
    | .credit | .loan =>
      let scan := scan.addStatic acc (-|balance|)
      { scan with
        liabilityStaticAccountIds := AssocMap.addKey acc.id scan.liabilityStaticAccountIds }
  else scan

/-! ### Filing snapshots and flows -/

/-- Dated amounts by account: `HashMap<Uuid, BTreeMap<NaiveDate, Decimal>>`. -/
abbrev DatedAmounts := List (Uuid × List (NaiveDate × Decimal))

/-- Anchor dates, and dated amounts by account. -/
structure Filed where
  anchorDates : List NaiveDate
  byAccount : DatedAmounts
deriving DecidableEq, Repr

/-- Nothing filed. -/
def Filed.empty : Filed where
  anchorDates := []
  byAccount := []

/-- One point of the manual balance history. -/
def collectHistoryPoint (scan : AccountScan) (filed : Filed)
    (point : ManualAccountBalanceHistoryPoint) : Filed :=
  if point.accountId ∈ scan.manualStaticAccountIds then
    let signedBalance :=
      if point.accountId ∈ scan.liabilityStaticAccountIds then -|point.balanceCurrent|
      else point.balanceCurrent
    { anchorDates := filed.anchorDates ++ [point.asOfDate]
      byAccount := AssocMap.modifyOrDefault point.accountId []
        (AssocMap.insert point.asOfDate signedBalance) filed.byAccount }
  else filed

/-- One transaction of the fetched range. -/
def collectTransaction (filteredAccountIds : Option (List Uuid)) (scan : AccountScan)
    (filed : Filed) (t : Transaction) : Filed :=
  if isSelected filteredAccountIds t.accountId ∧ t.accountId ∈ scan.depositoryIds then
    { anchorDates := filed.anchorDates ++ [t.date]
      byAccount := AssocMap.modifyOrDefault t.accountId []
        (AssocMap.addTo t.date t.amount) filed.byAccount }
  else filed

/-! ### The window and the baseline -/

/-- `effective_start_date`: the later of the requested start and the earliest anchor. -/
def effectiveStartDate (startDate : NaiveDate) (anchorDates : List NaiveDate) : NaiveDate :=
  match anchorDates.min? with
  | some earliest => max startDate earliest
  | none => startDate

/-- The flows of one account after the effective start and up to today, summed over
`map.range((effective_start_date.succ_opt().unwrap_or(effective_start_date))..=today)`. -/
def rollbackSum (flowsByAccount : DatedAmounts) (effectiveStart today : NaiveDate)
    (accId : Uuid) : Except Abort Decimal :=
  match flowsByAccount.lookup accId with
  | none => .ok 0
  | some flows =>
    let rangeStart := (NaiveDate.succOpt effectiveStart).getD effectiveStart
    if today < rangeStart then .error .panicked
    else .ok (AssocMap.sumWhere (fun d ↦ rangeStart ≤ d ∧ d ≤ today) flows)

/-- `base_start_by_account`: the current balances, rolled back. -/
def baseStartByAccount (scan : AccountScan) (flowsByAccount : DatedAmounts)
    (effectiveStart today : NaiveDate) : Except Abort (List (Uuid × Decimal)) :=
  scan.depositoryIds.foldlM
    (fun bases accId ↦ do
      let rollback ← rollbackSum flowsByAccount effectiveStart today accId
      return AssocMap.insert accId ((scan.balanceCurrentById.lookup accId).getD 0 - rollback) bases)
    []

/-! ### The daily loop -/

/-- What the daily loop reads. -/
structure SeriesInput where
  depositoryIds : List Uuid
  staticCurrentById : List (Uuid × Decimal)
  staticHistoryByAccount : DatedAmounts
  flowsByAccount : DatedAmounts
  baseStart : List (Uuid × Decimal)
  endDate : NaiveDate
  endAnchor : NaiveDate

/-- Add one day's flows to the running sums of the accounts. -/
def addFlowsOfDay (flowsByAccount : DatedAmounts) (day : NaiveDate)
    (perAccountCum : List (Uuid × Decimal)) : List (Uuid × Decimal) :=
  flowsByAccount.foldl
    (fun cum entry ↦ AssocMap.addTo entry.1 ((entry.2.lookup day).getD 0) cum) perAccountCum

/-- The balance of a carried account on a day: its last snapshot, nothing before the first one,
and its current balance when it has none at all. -/
def staticValue (history : DatedAmounts) (day : NaiveDate) (accountId : Uuid)
    (currentSignedBalance : Decimal) : Decimal :=
  match history.lookup accountId with
  | some snapshots => ((AssocMap.lastUpTo day snapshots).map Prod.snd).getD 0
  | none => currentSignedBalance

/-- The total of one day. -/
def dayTotal (w : SeriesInput) (day : NaiveDate) (perAccountCum : List (Uuid × Decimal)) :
    Decimal :=
  (w.staticCurrentById.map fun entry ↦
      staticValue w.staticHistoryByAccount day entry.1 entry.2).sum +
    (w.depositoryIds.map fun accId ↦
      (w.baseStart.lookup accId).getD 0 + (perAccountCum.lookup accId).getD 0).sum

/-- `while day <= end_date { .. }`, with the fuel to take that many turns. -/
def seriesLoop (w : SeriesInput) : ℕ → NaiveDate → List (Uuid × Decimal) →
    List NetWorthSeriesPoint → Except Abort (List NetWorthSeriesPoint)
  | 0, _, _, _ => .error .running
  | fuel + 1, day, perAccountCum, series =>
    if day ≤ w.endDate then
      let perAccountCum :=
        if day ≤ w.endAnchor then addFlowsOfDay w.flowsByAccount day perAccountCum
        else perAccountCum
      let series := series ++ [{ date := day, value := dayTotal w day perAccountCum }]
      let day := (NaiveDate.succOpt day).getD day
      if w.endDate < day then .ok series else seriesLoop w fuel day perAccountCum series
    else .ok series

/-! ### The handler -/

/-- `get_authenticated_net_worth_over_time`, on a parsed date range and a validated account
filter, at the instant `now`. -/
def getAuthenticatedNetWorthOverTime (L : Locale) (db : Store) (userId : Uuid)
    (filteredAccountIds : Option (List Uuid)) (now : Timestamp) (startDate endDate : NaiveDate)
    (fuel : ℕ) : Except Abort (List NetWorthSeriesPoint) :=
  if endDate < startDate then .error .badRequest
  else
    let scan := (getAccountsForUser L db userId).foldl (scanAccount filteredAccountIds)
      AccountScan.empty
    if scan.depositoryIds = [] ∧ scan.staticCurrentById = [] then .ok []
    else
      let history :=
        if scan.manualStaticAccountIds = [] then Filed.empty
        else (getManualAccountBalanceHistoryForUser db userId endDate).foldl
          (collectHistoryPoint scan) Filed.empty
      let today := Timestamp.dateNaive now
      let endAnchor := min endDate today
      let txns := (getTransactionsByDateRangeForUser db userId startDate today).map
        TransactionRow.toTransaction
      let flows := txns.foldl (collectTransaction filteredAccountIds scan) Filed.empty
      let effectiveStart := effectiveStartDate startDate
        (flows.anchorDates ++ (scan.accountAnchorDates ++ history.anchorDates))
      do
        let baseStart ← baseStartByAccount scan flows.byAccount effectiveStart today
        seriesLoop
          { depositoryIds := scan.depositoryIds
            staticCurrentById := scan.staticCurrentById
            staticHistoryByAccount := history.byAccount
            flowsByAccount := flows.byAccount
            baseStart := baseStart
            endDate := endDate
            endAnchor := endAnchor }
          fuel effectiveStart [] []

end Sumurai
