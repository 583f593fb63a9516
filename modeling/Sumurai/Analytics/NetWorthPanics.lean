import Sumurai.Analytics.NetWorthLaws

/-!
# When the net-worth handler runs to completion

The handler rolls the balances back over the days from the one after the effective start up to
today. The effective start is the later of the requested start and the earliest anchor, so it can be
today itself; the range is then backwards, and `BTreeMap::range` panics on it as soon as one account
has a flow to roll back.

`completes_iff` is exact: the effective start is before today precisely when the requested start is
and some anchor is.
-/

namespace Sumurai.NetWorthRequest

variable (q : NetWorthRequest)

/-- The request gets an answer: its task does not panic, and its loop ends. -/
def Completes : Prop :=
  ∃ fuel, ∀ abort, q.run fuel = .error abort → abort = .badRequest

/-- There is a day to roll back over: the requested start is before today, and so is some
transaction, some update of a carried account or some point of a history that anchors the
series. -/
def AnchoredBeforeToday : Prop :=
  q.startDate < q.today ∧ ∃ d ∈ q.anchorDates, d < q.today

/-- The window ends before the calendar does, or before every anchor. -/
def EndsInCalendar : Prop :=
  q.endDate < NaiveDate.MAX ∨ (q.anchorDates ≠ [] ∧ ∀ d ∈ q.anchorDates, q.endDate < d)

/-! ### The effective start, by its parts -/

/-- With an anchor to start from, the effective start is before a day when the requested start is
and some anchor is. -/
theorem effectiveStart_lt_iff (hanchors : q.anchorDates ≠ []) {day : NaiveDate} :
    q.effectiveStart < day ↔ q.startDate < day ∧ ∃ d ∈ q.anchorDates, d < day := by
  rw [effectiveStart, effectiveStartDate]
  rcases hmin : q.anchorDates.min? with - | earliest
  · exact absurd (List.min?_eq_none_iff.1 hmin) hanchors
  · obtain ⟨hmem, hleast⟩ := List.min?_eq_some_iff.1 hmin
    show max q.startDate earliest < day ↔ _
    rw [max_lt_iff]
    refine and_congr_right fun _ ↦ ⟨fun h ↦ ⟨earliest, hmem, h⟩, ?_⟩
    rintro ⟨d, hd, hlt⟩
    exact (hleast d hd).trans_lt hlt

theorem anchorDates_ne_nil (hfetched : q.fetched ≠ []) : q.anchorDates ≠ [] := by
  obtain ⟨t, ht⟩ := List.exists_mem_of_ne_nil _ hfetched
  exact List.ne_nil_of_mem (List.mem_append_left _ (List.mem_map_of_mem ht))

/-- The range of the rollback is not backwards when it has a day, and when today is the last day of
the calendar, which has no successor. -/
theorem rollbackSound_iff :
    q.RollbackSound ↔ q.fetched = [] ∨ q.AnchoredBeforeToday ∨ NaiveDate.MAX ≤ q.today := by
  refine or_congr_right' fun hfetched ↦ ?_
  -- a fetched transaction is dated from the effective start up to today
  obtain ⟨t, ht⟩ := List.exists_mem_of_ne_nil _ hfetched
  obtain ⟨hstart, htoday⟩ := q.date_of_mem_fetched ht
  rw [AnchoredBeforeToday, ← q.effectiveStart_lt_iff (q.anchorDates_ne_nil hfetched),
    rollbackStart]
  rcases lt_or_ge q.effectiveStart NaiveDate.MAX with hlt | hge
  · rw [NaiveDate.succOpt_of_lt hlt, Option.getD_some]
    lia
  · rw [NaiveDate.succOpt_of_le hge, Option.getD_none]
    lia

theorem loopEnds_iff (hwindow : q.startDate ≤ q.endDate) : q.LoopEnds ↔ q.EndsInCalendar := by
  refine or_congr_right ?_
  rw [effectiveStart, effectiveStartDate]
  rcases hmin : q.anchorDates.min? with - | earliest
  · rw [List.min?_eq_none_iff.1 hmin]
    exact iff_of_false (not_lt.2 hwindow) fun h ↦ h.1 rfl
  · obtain ⟨hmem, hleast⟩ := List.min?_eq_some_iff.1 hmin
    show q.endDate < max q.startDate earliest ↔ _
    rw [lt_max_iff, or_iff_right (not_lt.2 hwindow)]
    constructor
    · intro hlt
      exact ⟨List.ne_nil_of_mem hmem, fun d hd ↦ hlt.trans_le (hleast d hd)⟩
    · rintro ⟨-, hall⟩
      exact hall earliest hmem

/-- The loop rejects no request. -/
theorem seriesLoop_ne_badRequest (w : SeriesInput) (fuel : ℕ) (day : NaiveDate)
    (cum : List (Uuid × Decimal)) (series : List NetWorthSeriesPoint) :
    seriesLoop w fuel day cum series ≠ .error .badRequest := by
  induction fuel generalizing day cum series with
  | zero => simp [seriesLoop]
  | succ fuel ih =>
    rw [seriesLoop]
    split
    · dsimp only
      split
      · simp
      · exact ih _ _ _
    · simp

/-- A request is answered with a rejection, which is for backwards windows, or with a series. -/
theorem completes_iff_returns :
    q.Completes ↔ q.endDate < q.startDate ∨ ∃ series, q.Returns series := by
  constructor
  · rintro ⟨fuel, hrun⟩
    refine or_iff_not_imp_left.2 fun hforward ↦ ?_
    have hwindow := not_lt.1 hforward
    rcases hresult : q.run fuel with abort | series
    · obtain rfl := hrun abort hresult
      rcases eq_or_ne q.selected [] with hsel | hsel
      · rw [q.run_of_nothing_selected hwindow hsel] at hresult
        cases hresult
      · rw [q.run_eq hwindow hsel] at hresult
        rcases em q.RollbackSound with hsound | hsound
        · rw [q.baseStart_eq_ok hsound] at hresult
          exact absurd hresult (seriesLoop_ne_badRequest _ _ _ _ _)
        · rw [q.baseStart_eq_panicked hsound] at hresult
          cases hresult
    · exact ⟨series, fuel, hresult⟩
  · rintro (hbackwards | ⟨series, fuel, hrun⟩)
    · refine ⟨0, fun abort habort ↦ ?_⟩
      rw [run, getAuthenticatedNetWorthOverTime, if_pos hbackwards] at habort
      exact (Except.error.inj habort).symm
    · refine ⟨fuel, fun abort habort ↦ ?_⟩
      rw [hrun] at habort
      cases habort

/-- **When the handler runs to completion.** On every request: it gets an answer if and only if the
window is backwards, or no account is selected, or both the rollback and the loop end. The rollback
does when no cash account has a transaction to roll back, or when both the requested start and some
anchor are before today (or today is the last day there is); the loop does when the window ends
before the calendar. -/
theorem completes_iff :
    q.Completes ↔ q.endDate < q.startDate ∨ q.selected = [] ∨
      ((q.fetched = [] ∨ q.AnchoredBeforeToday ∨ NaiveDate.MAX ≤ q.today) ∧ q.EndsInCalendar) := by
  rw [completes_iff_returns]
  refine or_congr_right' fun hforward ↦ ?_
  have hwindow := not_lt.1 hforward
  rw [← q.rollbackSound_iff, ← q.loopEnds_iff hwindow]
  simp only [q.returns_iff, hwindow, true_and]
  constructor
  · rintro ⟨series, ⟨hsel, -⟩ | ⟨-, hsound, hends, -⟩⟩
    · exact Or.inl hsel
    · exact Or.inr ⟨hsound, hends⟩
  · intro h
    rcases eq_or_ne q.selected [] with hsel | hsel
    · exact ⟨[], Or.inl ⟨hsel, rfl⟩⟩
    · obtain ⟨hsound, hends⟩ := h.resolve_left hsel
      exact ⟨q.points, Or.inr ⟨hsel, hsound, hends, rfl⟩⟩

/-- The ledger asked on day 101 for that day alone, on which a transaction is dated. -/
def todayRequest : NetWorthRequest :=
  { checkingRequest 101 101 with now := 101 * microsPerDay }

/-- **The net worth of today panics.** A window that begins today, with a transaction of today: the
range from tomorrow to today is backwards. -/
theorem today_panics :
    todayRequest.startDate ≤ todayRequest.endDate ∧ todayRequest.today = 101 ∧
      (∀ fuel, todayRequest.run fuel = .error .panicked) ∧ ¬ todayRequest.Completes := by
  have hrun : ∀ fuel, todayRequest.run fuel = .error .panicked := by
    intro fuel
    have hsound : ¬ todayRequest.RollbackSound := by
      show ¬ (todayRequest.fetched = [] ∨ todayRequest.rollbackStart ≤ todayRequest.today)
      decide
    rw [todayRequest.run_eq (by decide) (by decide), todayRequest.baseStart_eq_panicked hsound]
    rfl
  refine ⟨by decide, by decide, hrun, ?_⟩
  rintro ⟨fuel, hfuel⟩
  exact absurd (hfuel .panicked (hrun fuel)) nofun

end Sumurai.NetWorthRequest
