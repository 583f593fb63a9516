import Sumurai.Analytics.NetWorthPanics

/-!
# The days of the net-worth series

The loop of the net-worth handler steps from the effective start of the window to its end. Whatever
baseline it starts from, it shows one point for each day of the window (`showsDays_range`), unless
the window ends on the last day of the calendar. That day has no successor,
`succ_opt().unwrap_or(day)` stays on it, and neither of the two exit tests of the loop ever sees a
day past the end.

`seriesShape_iff` is exact.
-/

namespace Sumurai

/-- The points are those of the days from `first` to `last`, one for each day and in order. -/
structure ShowsDays (series : List NetWorthSeriesPoint) (first last : NaiveDate) : Prop where
  increasing : (series.map NetWorthSeriesPoint.date).Pairwise (· < ·)
  mem_iff : ∀ d, d ∈ series.map NetWorthSeriesPoint.date ↔ first ≤ d ∧ d ≤ last

/-- A window without days has no points. -/
theorem ShowsDays.eq_nil {series : List NetWorthSeriesPoint} {first last : NaiveDate}
    (h : ShowsDays series first last) (hempty : last < first) : series = [] := by
  refine List.eq_nil_iff_forall_not_mem.2 fun point hpoint ↦ ?_
  obtain ⟨hfirst, hlast⟩ := (h.mem_iff _).1 (List.mem_map_of_mem hpoint)
  exact absurd (hfirst.trans hlast) (not_le.2 hempty)

theorem pairwise_lt_range (m n : ℤ) : (Int.range m n).Pairwise (· < ·) := by
  refine List.Pairwise.map _ (fun i j hij ↦ ?_) List.pairwise_lt_range
  lia

/-- A value for each day of a window. -/
theorem showsDays_range (first last : NaiveDate) (value : NaiveDate → Decimal) :
    ShowsDays ((Int.range first (last + 1)).map fun d ↦ { date := d, value := value d }) first
      last := by
  have hdates : ((Int.range first (last + 1)).map fun d ↦
      NetWorthSeriesPoint.mk d (value d)).map NetWorthSeriesPoint.date =
        Int.range first (last + 1) := by
    rw [List.map_map]
    exact List.map_id' _
  constructor
  · rw [hdates]
    exact pairwise_lt_range first (last + 1)
  · intro d
    rw [hdates, Int.mem_range_iff, Int.lt_add_one_iff]

namespace NetWorthRequest

variable (q : NetWorthRequest)

/-- The loop of the handler on this request, from a baseline. -/
def loop (baseStart : List (Uuid × Decimal)) (fuel : ℕ) : Except Abort (List NetWorthSeriesPoint) :=
  seriesLoop { q.seriesInput with baseStart := baseStart } fuel q.effectiveStart [] []

/-- The loop ends, and shows every day of the window from the effective start on. -/
def SeriesShape (baseStart : List (Uuid × Decimal)) : Prop :=
  ∃ fuel series, q.loop baseStart fuel = .ok series ∧
    ShowsDays series q.effectiveStart q.endDate

/-- The loop of a window that ends before the calendar does. -/
theorem loop_eq (baseStart : List (Uuid × Decimal)) (hmax : q.endDate < NaiveDate.MAX) :
    ∃ value : NaiveDate → Decimal,
      q.loop baseStart ((q.endDate - q.effectiveStart).toNat + 1) =
        .ok ((Int.range q.effectiveStart (q.endDate + 1)).map fun d ↦
          { date := d, value := value d }) := by
  have hturns : q.endDate < q.effectiveStart + ((q.endDate - q.effectiveStart).toNat + 1 : ℕ) := by
    push_cast
    lia
  exact ⟨_, seriesLoop_eq rfl hmax _ (le_refl q.effectiveStart) (cumBefore_start _ _ _)
    (Nat.succ_pos _) hturns⟩

/-- The loop of a window without days stops at its first test. -/
theorem loop_of_lt (baseStart : List (Uuid × Decimal)) (hempty : q.endDate < q.effectiveStart) :
    q.loop baseStart 1 = .ok [] := by
  rw [loop, seriesLoop]
  exact if_neg (not_le.2 hempty)

/-- The loop of a window that has the last day of the calendar never ends. -/
theorem loop_last_day (baseStart : List (Uuid × Decimal)) (hmax : NaiveDate.MAX ≤ q.endDate)
    (hday : q.effectiveStart ≤ q.endDate) (fuel : ℕ) :
    q.loop baseStart fuel = .error .running :=
  seriesLoop_last_day hmax fuel hday

theorem seriesShape_iff_loopEnds (baseStart : List (Uuid × Decimal)) :
    q.SeriesShape baseStart ↔ q.LoopEnds := by
  constructor
  · rintro ⟨fuel, series, hloop, -⟩
    by_contra hends
    rw [LoopEnds, not_or, not_lt, not_lt] at hends
    rw [q.loop_last_day baseStart hends.1 hends.2] at hloop
    cases hloop
  · rintro (hmax | hempty)
    · obtain ⟨value, hloop⟩ := q.loop_eq baseStart hmax
      exact ⟨_, _, hloop, showsDays_range _ _ value⟩
    · refine ⟨1, [], q.loop_of_lt baseStart hempty, List.Pairwise.nil, fun d ↦ ?_⟩
      exact iff_of_false List.not_mem_nil fun h ↦ absurd (h.1.trans h.2) (not_le.2 hempty)

/-- **The shape of the net-worth series.** On every window that is not backwards and every selection
of accounts, the handler is its rollback followed by the loop; and from any baseline the loop ends
with one point for each day from the effective start to the end of the window, in order, if and only
if the window ends before the calendar does, or before every anchor. -/
theorem seriesShape_iff (hwindow : q.startDate ≤ q.endDate) (hsel : q.selected ≠ []) :
    (∀ fuel, q.run fuel = (baseStartByAccount q.scan
        (flowsOf (q.fetched.map TransactionRow.toTransaction)) q.effectiveStart q.today).bind
          fun baseStart ↦ q.loop baseStart fuel) ∧
      ∀ baseStart, q.SeriesShape baseStart ↔ q.EndsInCalendar := by
  refine ⟨fun fuel ↦ q.run_eq hwindow hsel fuel, fun baseStart ↦ ?_⟩
  rw [q.seriesShape_iff_loopEnds, q.loopEnds_iff hwindow]

/-- The ledger from day 100 to day 103. -/
theorem seriesShape_checkingRequest :
    (checkingRequest 100 103).SeriesShape [] ↔ (checkingRequest 100 103).EndsInCalendar :=
  (seriesShape_iff (checkingRequest 100 103) (by decide) (by decide)).2 []

/-- **The series up to the end of the calendar is never finished.** -/
theorem lastDay_running :
    (checkingRequest 100 NaiveDate.MAX).startDate ≤ (checkingRequest 100 NaiveDate.MAX).endDate ∧
      (checkingRequest 100 NaiveDate.MAX).selected ≠ [] ∧
      (∀ fuel, (checkingRequest 100 NaiveDate.MAX).run fuel = .error .running) ∧
      ∀ baseStart, ¬ (checkingRequest 100 NaiveDate.MAX).SeriesShape baseStart := by
  have hsel : (checkingRequest 100 NaiveDate.MAX).selected ≠ [] := by decide
  have hstart : (checkingRequest 100 NaiveDate.MAX).effectiveStart ≤ NaiveDate.MAX := by decide
  have hsound : (checkingRequest 100 NaiveDate.MAX).RollbackSound :=
    Or.inr (show (checkingRequest 100 NaiveDate.MAX).rollbackStart ≤ 102 by decide)
  refine ⟨by decide, hsel, fun fuel ↦ ?_, fun baseStart ↦ ?_⟩
  · rw [run_eq _ (by decide) hsel, baseStart_eq_ok _ hsound]
    exact seriesLoop_last_day le_rfl fuel hstart
  · rw [seriesShape_iff_loopEnds, LoopEnds, not_or, not_lt, not_lt]
    exact ⟨le_rfl, hstart⟩

end NetWorthRequest

end Sumurai
