import Sumurai.Analytics.NetWorthLedger

/-!
# What the net-worth series promises, and when it keeps it

Three laws a net-worth series should obey, each with the exact condition under which the handler
obeys it. All three are read off the closed form (`NetWorthLedger`).

* **Anchor.** Today's value is today's balance. It is, when nothing was fetched for the first day
  of the series (`anchoredToday_iff`): the closed form has the flows of that day on top.
* **Flow.** From one day to the next the series moves by the money that left or came in. It moves
  by the *stored amounts*, and a stored amount is positive when money leaves, so the series moves
  the wrong way unless the day's amounts cancel (`flow_law_iff`).
* **Windows.** A day has one value, whatever window it is asked for in. It has, up to what each
  window leaves over (`skew`): the flows of the window's own first day, and the accounts
  whose history begins after the window's end (`windows_agree_iff`).

The terms that do not depend on the window are stated over the stored rows (`storedSnapshots`,
`storedSum`), so that each condition is a condition on the database.
-/

namespace Sumurai

namespace NetWorthRequest

variable (q : NetWorthRequest)

/-! ### Carried accounts and their stored history -/

/-- The stored snapshots of a carried account. -/
def storedSnapshots (a : Account) : List (NaiveDate × Decimal) :=
  if a.isManual then
    (q.db.manualAccountBalanceHistory.filter fun h ↦
      h.accountId = a.id ∧ h.userId = q.userId).map fun h ↦
        (h.asOfDate, a.balanceCategory.signedBalance h.balanceCurrent)
  else []

/-- The snapshot of an account in force on a day, zero before the first one. -/
def snapshotInForce (day : NaiveDate) (a : Account) : Decimal :=
  ((AssocMap.lastUpTo day (q.storedSnapshots a)).map Prod.snd).getD 0

/-- The accounts that have a history, all of it after the end of the window, counted at their
current balances. -/
def hiddenHistoryTotal : Decimal :=
  PartialSums.sumOf Account.signedBalance
    (fun a ↦ q.storedSnapshots a ≠ [] ∧ q.visibleSnapshots a = []) q.carried

theorem mem_visibleSnapshots {a : Account} (ha : a ∈ q.carried) {e : NaiveDate × Decimal} :
    e ∈ q.visibleSnapshots a ↔ e ∈ q.storedSnapshots a ∧ e.1 ≤ q.endDate := by
  have hids : (q.carried.map Account.id).Nodup :=
    q.selected_ids_nodup.sublist (List.filter_sublist.map _)
  have hmanual := mem_map_id_filter hids ha Account.isManual
  rw [visibleSnapshots, visibleHistory, storedSnapshots]
  constructor
  · intro he
    obtain ⟨p, hp, rfl⟩ := List.mem_map.1 he
    obtain ⟨hp', hid⟩ := List.mem_filter.1 hp
    obtain ⟨hread, hman⟩ := List.mem_filter.1 hp'
    have hid' : p.accountId = a.id := of_decide_eq_true hid
    obtain ⟨hle, hrow⟩ := (mem_getManualAccountBalanceHistoryForUser _ _).1 hread
    rw [if_pos (hmanual.1 (hid' ▸ of_decide_eq_true hman))]
    exact ⟨List.mem_map.2 ⟨_, List.mem_filter.2 ⟨hrow, by simp [hid']⟩, rfl⟩, hle⟩
  · rintro ⟨he, hle⟩
    split at he
    · rename_i hman
      obtain ⟨h, hh, rfl⟩ := List.mem_map.1 he
      obtain ⟨hrow, hcond⟩ := List.mem_filter.1 hh
      obtain ⟨hid, huser⟩ := of_decide_eq_true hcond
      refine List.mem_map.2 ⟨⟨h.accountId, h.asOfDate, h.balanceCurrent⟩, ?_, rfl⟩
      refine List.mem_filter.2 ⟨List.mem_filter.2 ⟨?_, ?_⟩, decide_eq_true hid⟩
      · exact (mem_getManualAccountBalanceHistoryForUser _ _).2 ⟨hle, huser ▸ hrow⟩
      · exact decide_eq_true (hid ▸ hmanual.2 hman)
    · exact absurd he List.not_mem_nil

theorem storedSnapshots_days_nodup (a : Account) :
    ((q.storedSnapshots a).map Prod.fst).Nodup := by
  rw [storedSnapshots]
  split
  · rw [List.map_map]
    refine List.Nodup.of_map (fun d ↦ (a.id, d)) ?_
    rw [List.map_map]
    have hsame : (q.db.manualAccountBalanceHistory.filter fun h ↦
          h.accountId = a.id ∧ h.userId = q.userId).map
          ((fun d ↦ (a.id, d)) ∘ Prod.fst ∘ fun h ↦
            (h.asOfDate, a.balanceCategory.signedBalance h.balanceCurrent)) =
        (q.db.manualAccountBalanceHistory.filter fun h ↦
          h.accountId = a.id ∧ h.userId = q.userId).map fun h ↦ (h.accountId, h.asOfDate) := by
      refine List.map_congr_left fun h hh ↦ ?_
      have hid : h.accountId = a.id := (of_decide_eq_true (List.mem_filter.1 hh).2).1
      simp only [Function.comp_apply, hid]
    rw [hsame]
    exact q.db.keyed.manualAccountBalanceHistory_key.sublist (List.filter_sublist.map _)
  · exact List.nodup_nil

/-- **A carried account of a day**: its snapshot in force, and its current balance on top exactly
when the window shows no snapshot of it. -/
theorem carriedValue_eq {a : Account} (ha : a ∈ q.carried) {day : NaiveDate}
    (hday : day ≤ q.endDate) :
    q.carriedValue day a =
      (if q.visibleSnapshots a = [] then a.signedBalance else 0) + q.snapshotInForce day a := by
  have hsame : AssocMap.lastUpTo day (q.visibleSnapshots a) =
      AssocMap.lastUpTo day (q.storedSnapshots a) := by
    refine AssocMap.lastUpTo_congr (q.storedSnapshots_days_nodup a) fun e he ↦ ?_
    rw [q.mem_visibleSnapshots ha]
    exact and_iff_left (he.trans hday)
  rw [carriedValue, snapshotInForce, ← hsame]
  split
  · rename_i hnil
    rw [hnil]
    exact (add_zero _).symm
  · exact (zero_add _).symm

/-- The carried accounts of a day: those without a history, those whose history the window does
not show, and the snapshots in force. -/
theorem sum_carriedValue_eq {day : NaiveDate} (hday : day ≤ q.endDate) :
    (q.carried.map (q.carriedValue day)).sum =
      PartialSums.sumOf Account.signedBalance (fun a ↦ q.storedSnapshots a = []) q.carried +
        q.hiddenHistoryTotal + (q.carried.map (q.snapshotInForce day)).sum := by
  have hsplit : PartialSums.sumOf Account.signedBalance (fun a ↦ q.visibleSnapshots a = [])
      q.carried =
      PartialSums.sumOf Account.signedBalance (fun a ↦ q.storedSnapshots a = []) q.carried +
        q.hiddenHistoryTotal := by
    rw [PartialSums.sumOf_split fun a ↦ q.storedSnapshots a = [], hiddenHistoryTotal]
    refine congrArg₂ (· + ·) (PartialSums.sumOf_congr fun a ha ↦ ?_)
      (PartialSums.sumOf_congr fun a _ ↦ and_comm)
    refine and_iff_right_of_imp fun hnil ↦ List.eq_nil_iff_forall_not_mem.2 fun e he ↦ ?_
    have := ((q.mem_visibleSnapshots ha).1 he).1
    rw [hnil] at this
    exact List.not_mem_nil this
  have hparts : ∀ l : List Account, (∀ a ∈ l, a ∈ q.carried) →
      (l.map (q.carriedValue day)).sum =
        PartialSums.sumOf Account.signedBalance (fun a ↦ q.visibleSnapshots a = []) l +
          (l.map (q.snapshotInForce day)).sum := by
    intro l
    induction l with
    | nil => intro _; rfl
    | cons a l ih =>
      intro hl
      rw [List.map_cons, List.sum_cons, List.map_cons, List.sum_cons, PartialSums.sumOf_cons,
        q.carriedValue_eq (hl a List.mem_cons_self) hday,
        ih fun b hb ↦ hl b (List.mem_cons_of_mem _ hb)]
      lia
  rw [hparts q.carried fun _ h ↦ h, hsplit]

/-- A point of a returned series is a point of the closed form. -/
theorem value_of_mem {series : List NetWorthSeriesPoint} (h : q.Returns series) {day : NaiveDate}
    {v : Decimal} (hmem : { date := day, value := v } ∈ series) :
    q.effectiveStart ≤ day ∧ day ≤ q.endDate ∧ v = q.value day := by
  obtain ⟨-, ⟨-, rfl⟩ | ⟨-, -, -, rfl⟩⟩ := q.returns_iff.1 h
  · exact absurd hmem List.not_mem_nil
  · obtain ⟨d, hd, heq⟩ := List.mem_map.1 hmem
    obtain ⟨rfl, rfl⟩ := NetWorthSeriesPoint.mk.inj heq
    obtain ⟨hle, hlt⟩ := Int.mem_range_iff.1 hd
    exact ⟨hle, Int.le_of_lt_add_one hlt, rfl⟩

/-- A request has at most one answer. -/
theorem returns_unique {s t : List NetWorthSeriesPoint} (hs : q.Returns s) (ht : q.Returns t) :
    s = t := by
  obtain ⟨-, hs | hs⟩ := q.returns_iff.1 hs <;> obtain ⟨-, ht | ht⟩ := q.returns_iff.1 ht
  · exact hs.2.trans ht.2.symm
  · exact absurd hs.1 ht.1
  · exact absurd ht.1 hs.1
  · exact hs.2.2.2.trans ht.2.2.2.symm

end NetWorthRequest

/-! ### A small ledger

The checking account with two transactions, looked at from the day after the second. -/

/-- The ledger: 5.00 spent on day 100 and 3.00 on day 101. -/
def checkingLedger : Database where
  toStore := { Store.empty with
    accounts := [checkingAccount]
    transactions := [checkingTransaction 1 100 500, checkingTransaction 2 101 300]
    providerConnections := [checkingConnection] }
  keyed := by decide
  referential := by decide

/-- The ledger's series from `startDate` to `endDate`, asked for on day 102. -/
def checkingRequest (startDate endDate : NaiveDate) : NetWorthRequest where
  locale := Locale.c
  db := checkingLedger
  userId := 7
  filteredAccountIds := none
  now := 102 * microsPerDay
  startDate := startDate
  endDate := endDate

namespace NetWorthRequest

variable (q : NetWorthRequest)

/-! ### The anchor law -/

/-- The handler returns a series whose value today is the sum of the signed balances of the
selected accounts, which is the overall net of the balances overview. -/
def AnchoredToday : Prop :=
  ∃ series v, q.Returns series ∧ { date := q.today, value := v } ∈ series ∧
    v = (q.selected.map Account.signedBalance).sum ∧
    v = (getAuthenticatedBalancesOverview q.locale q.db.toStore q.userId
      q.filteredAccountIds).overall.net

/-- No selected account has a manual balance history. -/
def NoManualHistory : Prop :=
  ∀ h ∈ q.db.manualAccountBalanceHistory, h.accountId ∉ q.selected.map Account.id

instance : Decidable q.NoManualHistory :=
  inferInstanceAs (Decidable (∀ h ∈ q.db.manualAccountBalanceHistory,
    h.accountId ∉ q.selected.map Account.id))

theorem sum_cash_add_sum_carried :
    (q.cash.map Account.signedBalance).sum + (q.carried.map Account.signedBalance).sum =
      (q.selected.map Account.signedBalance).sum := by
  have hperm : (q.cash ++ q.carried).Perm q.selected :=
    List.filter_append_perm Account.isCash q.selected
  rw [← (hperm.map Account.signedBalance).sum_eq, List.map_append, List.sum_append]

theorem carriedValue_of_noManualHistory (h : q.NoManualHistory) {a : Account}
    (ha : a ∈ q.carried) (day : NaiveDate) : q.carriedValue day a = a.signedBalance := by
  have hnil : q.visibleSnapshots a = [] := by
    refine List.eq_nil_iff_forall_not_mem.2 fun e he ↦ ?_
    obtain ⟨p, hp, -⟩ := List.mem_map.1 he
    obtain ⟨hread, hid⟩ := List.mem_filter.1 hp
    obtain ⟨-, hrow⟩ := (mem_getManualAccountBalanceHistoryForUser _ _).1
      (List.mem_filter.1 hread).1
    have hid' : p.accountId = a.id := of_decide_eq_true hid
    exact h _ hrow (hid' ▸ List.mem_map_of_mem (List.mem_filter.1 ha).1)
  rw [carriedValue, if_pos hnil]

/-- Without manual history, today's value is today's balances plus the flows of the first day. -/
theorem value_today (h : q.NoManualHistory) :
    q.value q.today =
      (q.selected.map Account.signedBalance).sum + q.fetchedSum (· = q.effectiveStart) := by
  have hcarried : q.carried.map (q.carriedValue q.today) = q.carried.map Account.signedBalance :=
    List.map_congr_left fun a ha ↦ q.carriedValue_of_noManualHistory h ha q.today
  have hlater : q.fetchedSum (q.today < ·) = 0 :=
    PartialSums.sumOf_eq_zero fun t ht ↦ not_lt.2 (q.date_of_mem_fetched ht).2
  rw [value, hcarried, hlater, ← q.sum_cash_add_sum_carried]
  lia

/-- **The anchor law, exactly.** With no manual history on the selected accounts, and today inside
the window, the series is anchored at today's balances if and only if some account is selected, the
window ends before the calendar does, the series has begun by today — before today, if any flow
was fetched — and the flows fetched for its first day sum to zero. -/
theorem anchoredToday_iff (hstart : q.startDate ≤ q.today) (hend : q.today ≤ q.endDate)
    (hhistory : q.NoManualHistory) :
    q.AnchoredToday ↔
      q.selected ≠ [] ∧ q.endDate < NaiveDate.MAX ∧ q.effectiveStart ≤ q.today ∧
        (q.fetched = [] ∨ q.effectiveStart < q.today) ∧
        q.fetchedSum (· = q.effectiveStart) = 0 := by
  have hsound : q.endDate < NaiveDate.MAX → q.effectiveStart ≤ q.today →
      (q.RollbackSound ↔ q.fetched = [] ∨ q.effectiveStart < q.today) := by
    intro hmax hle
    rw [RollbackSound, rollbackStart,
      NaiveDate.succOpt_of_lt (lt_of_le_of_lt (hle.trans hend) hmax), Option.getD_some,
      Int.add_one_le_iff]
  constructor
  · rintro ⟨series, v, hret, hmem, hv, -⟩
    obtain ⟨hle, -, rfl⟩ := q.value_of_mem hret hmem
    obtain ⟨-, ⟨-, rfl⟩ | ⟨hsel, hroll, hloop, -⟩⟩ := q.returns_iff.1 hret
    · exact absurd hmem List.not_mem_nil
    · have hmax : q.endDate < NaiveDate.MAX :=
        hloop.resolve_right (not_lt.2 (hle.trans hend))
      refine ⟨hsel, hmax, hle, (hsound hmax hle).1 hroll, ?_⟩
      rw [q.value_today hhistory] at hv
      exact left_eq_add.1 hv.symm
  · rintro ⟨hsel, hmax, hle, hroll, hzero⟩
    have hnet := overview_net_eq_sum q.locale q.db.toStore q.userId q.filteredAccountIds
    have hvalue : q.value q.today = (q.selected.map Account.signedBalance).sum := by
      rw [q.value_today hhistory, hzero, add_zero]
    refine ⟨q.points, q.value q.today, q.returns_iff.2 ⟨hstart.trans hend, Or.inr
      ⟨hsel, (hsound hmax hle).2 hroll, Or.inl hmax, rfl⟩⟩, ?_, hvalue, hvalue.trans hnet.symm⟩
    exact List.mem_map.2 ⟨q.today, Int.mem_range_iff.2 ⟨hle, Int.lt_add_one_of_le hend⟩, rfl⟩

/-- The anchor law kept: from day 102 on nothing was spent, and the series shows the 100.00 of the
ledger. -/
theorem anchoredToday_checkingRequest : (checkingRequest 102 103).AnchoredToday :=
  (anchoredToday_iff (checkingRequest 102 103) (by decide) (by decide) (by decide)).2 (by decide)

/-- **A series off by its first day.** The ledger holds 100.00 today and the overview says so; the
series says 105.00, the 5.00 spent on its first day being left over. -/
theorem not_anchoredToday_checkingRequest :
    (checkingRequest 100 103).startDate ≤ (checkingRequest 100 103).today ∧
      (checkingRequest 100 103).today ≤ (checkingRequest 100 103).endDate ∧
      (∀ t ∈ (checkingRequest 100 103).db.transactions, t.date ≤ (checkingRequest 100 103).today) ∧
      (checkingRequest 100 103).NoManualHistory ∧
      (checkingRequest 100 103).run 4 =
        .ok [⟨100, 10200⟩, ⟨101, 10500⟩, ⟨102, 10500⟩, ⟨103, 10500⟩] ∧
      (getAuthenticatedBalancesOverview Locale.c checkingLedger.toStore 7 none).overall.net =
        10000 ∧
      ¬ (checkingRequest 100 103).AnchoredToday := by
  have hrun : (checkingRequest 100 103).run 4 =
      .ok [⟨100, 10200⟩, ⟨101, 10500⟩, ⟨102, 10500⟩, ⟨103, 10500⟩] := by decide
  refine ⟨by decide, by decide, by decide, by decide, hrun, by decide, ?_⟩
  rintro ⟨series, v, hret, hmem, hv, -⟩
  obtain rfl := returns_unique _ hret ⟨4, hrun⟩
  have hsum : ((checkingRequest 100 103).selected.map Account.signedBalance).sum = 10000 := by
    decide
  rw [hsum] at hv
  subst hv
  exact absurd hmem (by decide)

/-! ### The flow law -/

/-- The transactions that move the cash of the request: visible, the user's, and of a selected
cash account. -/
def stored : List TransactionRow :=
  q.db.transactions.filter fun t ↦
    t.userId = some q.userId ∧ t.visible ∧ t.accountId ∈ q.cash.map Account.id

/-- The stored flows of the days satisfying `p`, summed. -/
def storedSum (p : NaiveDate → Prop) [DecidablePred p] : Decimal :=
  PartialSums.sumOf TransactionRow.amount (fun t ↦ p t.date) q.stored

/-- The manual-history snapshots in force on a day, summed over the carried accounts. -/
def snapshotsInForce (day : NaiveDate) : Decimal :=
  (q.carried.map (q.snapshotInForce day)).sum

/-- When the query's limit does not cut the window off, what is fetched is what is stored. -/
theorem fetchedSum_eq_storedSum (hlimit : (visibleTransactionsInRange q.db.toStore q.userId
      q.startDate q.today).length ≤ dateRangeLimit) {p : NaiveDate → Prop} [DecidablePred p]
    (hp : ∀ d, p d → q.startDate ≤ d ∧ d ≤ q.today) : q.fetchedSum p = q.storedSum p := by
  have hperm := getTransactionsByDateRangeForUser_perm hlimit
  rw [fetchedSum, fetched, PartialSums.sumOf_filter, PartialSums.sumOf,
    ((hperm.filter _).map TransactionRow.amount).sum_eq, ← PartialSums.sumOf,
    visibleTransactionsInRange, PartialSums.sumOf_filter, storedSum, stored,
    PartialSums.sumOf_filter]
  refine PartialSums.sumOf_congr fun t _ ↦ ⟨?_, ?_⟩
  · rintro ⟨⟨huser, -, -, hvis⟩, hacc, hpt⟩
    exact ⟨⟨huser, hvis, hacc⟩, hpt⟩
  · rintro ⟨⟨huser, hvis, hacc⟩, hpt⟩
    exact ⟨⟨huser, (hp _ hpt).1, (hp _ hpt).2, hvis⟩, hacc, hpt⟩

/-- **What one day changes.** The closed form moves by the fetched amounts of the day, and by
the snapshots. -/
theorem value_sub_value_pred {day : NaiveDate} (hend : day ≤ q.endDate) :
    q.value day - q.value (day - 1) =
      q.fetchedSum (· = day) + (q.snapshotsInForce day - q.snapshotsInForce (day - 1)) := by
  have hprev : q.fetchedSum (day - 1 < ·) = q.fetchedSum (· = day) + q.fetchedSum (day < ·) := by
    rw [fetchedSum, PartialSums.sumOf_split fun t ↦ t.date = day]
    exact congrArg₂ (· + ·) (PartialSums.sumOf_congr fun t _ ↦ by lia)
      (PartialSums.sumOf_congr fun t _ ↦ by lia)
  rw [value, value, q.sum_carriedValue_eq hend,
    q.sum_carriedValue_eq (show day - 1 ≤ q.endDate by lia),
    hprev, snapshotsInForce, snapshotsInForce]
  lia

/-- **The flow law, exactly.** On a day of the series the change from the day before is minus the
sum of the stored amounts plus the change of the snapshots if and only if the amounts fetched for
the day and those stored for it cancel. -/
theorem flow_law_iff {series : List NetWorthSeriesPoint} (h : q.Returns series) {day : NaiveDate}
    {v v' : Decimal} (hprev : { date := day - 1, value := v' } ∈ series)
    (hday : { date := day, value := v } ∈ series) :
    v - v' = -q.storedSum (· = day) + (q.snapshotsInForce day - q.snapshotsInForce (day - 1)) ↔
      q.fetchedSum (· = day) + q.storedSum (· = day) = 0 := by
  obtain ⟨-, -, rfl⟩ := q.value_of_mem h hprev
  obtain ⟨-, hend, rfl⟩ := q.value_of_mem h hday
  rw [q.value_sub_value_pred hend]
  constructor
  · intro heq
    lia
  · intro heq
    lia

/-- The flow law kept on a day without transactions. -/
theorem flow_law_checkingRequest :
    (10500 : Decimal) - 10500 = -(checkingRequest 100 103).storedSum (· = 102) +
      ((checkingRequest 100 103).snapshotsInForce 102 -
        (checkingRequest 100 103).snapshotsInForce (102 - 1)) :=
  have hrun : (checkingRequest 100 103).Returns
      [⟨100, 10200⟩, ⟨101, 10500⟩, ⟨102, 10500⟩, ⟨103, 10500⟩] := ⟨4, by decide⟩
  (flow_law_iff _ hrun (by decide) (by decide)).2 (by decide)

/-- **A series that moves the wrong way.** On day 101 the account spends 3.00 and the series rises
by 3.00. -/
theorem not_flow_law_checkingRequest :
    (checkingRequest 100 103).run 4 =
        .ok [⟨100, 10200⟩, ⟨101, 10500⟩, ⟨102, 10500⟩, ⟨103, 10500⟩] ∧
      (101 : NaiveDate) ≤ (checkingRequest 100 103).today ∧
      (checkingRequest 100 103).storedSum (· = 101) = 300 ∧
      ¬ (10500 : Decimal) - 10200 = -(checkingRequest 100 103).storedSum (· = 101) +
        ((checkingRequest 100 103).snapshotsInForce 101 -
          (checkingRequest 100 103).snapshotsInForce (101 - 1)) := by
  decide

/-! ### The window law -/

/-- The same request for another window. -/
def window (startDate endDate : NaiveDate) : NetWorthRequest :=
  { q with startDate := startDate, endDate := endDate }

/-- What a window leaves over: the flows fetched for its own first day, and the accounts whose
history begins after its end. -/
def skew : Decimal :=
  q.fetchedSum (· = q.effectiveStart) + q.hiddenHistoryTotal

/-- The value of a day in every window, up to what the window leaves over: the accounts without a
history, the snapshots in force, today's cash, and the newest transactions after the day. -/
def ledgerValue (day : NaiveDate) : Decimal :=
  PartialSums.sumOf Account.signedBalance (fun a ↦ q.storedSnapshots a = []) q.carried +
    q.snapshotsInForce day + (q.cash.map Account.signedBalance).sum -
    PartialSums.sumOf TransactionRow.amount (fun t ↦ t.accountId ∈ q.cash.map Account.id)
      (getTransactionsByDateRangeForUser q.db.toStore q.userId (day + 1) q.today)

/-- The flows a window rolls back to reach a day do not depend on the window. -/
theorem fetchedSum_after {day : NaiveDate} (hday : q.startDate ≤ day) :
    q.fetchedSum (day < ·) =
      PartialSums.sumOf TransactionRow.amount (fun t ↦ t.accountId ∈ q.cash.map Account.id)
        (getTransactionsByDateRangeForUser q.db.toStore q.userId (day + 1) q.today) := by
  rw [← filter_getTransactionsByDateRangeForUser hday, PartialSums.sumOf_filter, fetchedSum,
    fetched, PartialSums.sumOf_filter]
  exact PartialSums.sumOf_congr fun t _ ↦ and_comm

/-- **A window shows the ledger, shifted by what it leaves over.** -/
theorem value_eq_ledgerValue_add_skew {day : NaiveDate} (hday : q.effectiveStart ≤ day)
    (hend : day ≤ q.endDate) : q.value day = q.ledgerValue day + q.skew := by
  rw [value, q.sum_carriedValue_eq hend,
    q.fetchedSum_after (q.startDate_le_effectiveStart.trans hday), ledgerValue, skew,
    snapshotsInForce]
  lia

/-- **The window law, exactly.** A day that two windows both show has the same value in both if
and only if the two windows leave over the same. -/
theorem windows_agree_iff {s₁ e₁ s₂ e₂ : NaiveDate} {series₁ series₂ : List NetWorthSeriesPoint}
    (h₁ : (q.window s₁ e₁).Returns series₁) (h₂ : (q.window s₂ e₂).Returns series₂)
    {day : NaiveDate} {v₁ v₂ : Decimal} (hday₁ : { date := day, value := v₁ } ∈ series₁)
    (hday₂ : { date := day, value := v₂ } ∈ series₂) :
    v₁ = v₂ ↔ (q.window s₁ e₁).skew = (q.window s₂ e₂).skew := by
  obtain ⟨hstart₁, hend₁, rfl⟩ := value_of_mem _ h₁ hday₁
  obtain ⟨hstart₂, hend₂, rfl⟩ := value_of_mem _ h₂ hday₂
  have hledger : (q.window s₁ e₁).ledgerValue day = (q.window s₂ e₂).ledgerValue day := rfl
  rw [value_eq_ledgerValue_add_skew _ hstart₁ hend₁,
    value_eq_ledgerValue_add_skew _ hstart₂ hend₂, hledger]
  exact add_right_inj _

/-- The window law kept: two windows from day 102 on agree on day 102, so they leave over the
same. -/
theorem windows_agree_checkingRequest :
    ((checkingRequest 100 103).window 102 102).skew =
      ((checkingRequest 100 103).window 102 103).skew :=
  have hshort : ((checkingRequest 100 103).window 102 102).Returns [⟨102, 10000⟩] :=
    ⟨1, by decide⟩
  have hlong : ((checkingRequest 100 103).window 102 103).Returns
      [⟨102, 10000⟩, ⟨103, 10000⟩] := ⟨2, by decide⟩
  (windows_agree_iff _ hshort hlong List.mem_cons_self List.mem_cons_self).1 rfl

/-- **Two windows, two values.** On day 102 the ledger is worth 105.00 seen from day 100 and
103.00 seen from day 101. -/
theorem not_windows_agree_checkingRequest :
    ((checkingRequest 100 103).window 100 103).run 4 =
        .ok [⟨100, 10200⟩, ⟨101, 10500⟩, ⟨102, 10500⟩, ⟨103, 10500⟩] ∧
      ((checkingRequest 100 103).window 101 103).run 3 =
        .ok [⟨101, 10300⟩, ⟨102, 10300⟩, ⟨103, 10300⟩] ∧
      (10500 : Decimal) ≠ 10300 := by
  decide

end NetWorthRequest

end Sumurai
