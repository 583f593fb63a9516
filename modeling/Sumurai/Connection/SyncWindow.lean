import Sumurai.Models.Basic

/-!
# The window of a sync

`calculate_sync_date_range` of `sync_service.rs`: the days a sync asks the provider for. It goes
back to two days before the last sync, at most five years and never past today; without a last sync
it goes back two years.

What the coverage of a connection's history rests on is stated here once: where a window starts
relative to the end of an earlier one (`start_le_succ_iff`), and that later windows start later
(`start_mono`, `start_le_of_synced`).
-/

namespace Sumurai

/-- `MAX_SYNC_YEARS`. -/
def maxSyncYears : ℤ := 5

/-- `SAFETY_MARGIN_DAYS`. -/
def safetyMarginDays : ℤ := 2

/-- `DEFAULT_FIRST_SYNC_DAYS`. -/
def defaultFirstSyncDays : ℤ := 730

/-- `calculate_sync_date_range`: the first and the last day of the window, at an instant `now`. -/
def calculateSyncDateRange (now : Timestamp) (lastSyncAt : Option Timestamp) :
    NaiveDate × NaiveDate :=
  let endDate := Timestamp.dateNaive now
  let maxLookback := endDate - 365 * maxSyncYears
  let startDate :=
    match lastSyncAt with
    | some lastSync =>
      min (max (Timestamp.dateNaive (lastSync - safetyMarginDays * microsPerDay)) maxLookback)
        endDate
    | none => endDate - defaultFirstSyncDays
  (startDate, endDate)

/-- The look-back of a window in days: five years after a sync, two years before the first one. -/
def lookbackDays (lastSyncAt : Option Timestamp) : ℤ :=
  match lastSyncAt with
  | some _ => 365 * maxSyncYears
  | none => defaultFirstSyncDays

variable {now : Timestamp} {lastSyncAt : Option Timestamp}

/-- The window after a sync. -/
theorem calculateSyncDateRange_some (now lastSync : Timestamp) :
    (calculateSyncDateRange now (some lastSync)).1 =
      min (max (Timestamp.dateNaive lastSync - 2) (Timestamp.dateNaive now - 1825))
        (Timestamp.dateNaive now) := by
  rw [← Timestamp.dateNaive_sub_days]
  rfl

theorem calculateSyncDateRange_none (now : Timestamp) :
    (calculateSyncDateRange now none).1 = Timestamp.dateNaive now - 730 :=
  rfl

theorem start_le_end : (calculateSyncDateRange now lastSyncAt).1 ≤ Timestamp.dateNaive now := by
  cases lastSyncAt with
  | none => rw [calculateSyncDateRange_none]; lia
  | some lastSync => rw [calculateSyncDateRange_some]; lia

/-- Without a sync in between, later windows start later. -/
theorem start_mono {now' : Timestamp} (h : now ≤ now') :
    (calculateSyncDateRange now lastSyncAt).1 ≤ (calculateSyncDateRange now' lastSyncAt).1 := by
  have hday := Timestamp.dateNaive_mono h
  cases lastSyncAt with
  | none => rw [calculateSyncDateRange_none, calculateSyncDateRange_none]; lia
  | some lastSync => rw [calculateSyncDateRange_some, calculateSyncDateRange_some]; lia

/-- After a sync, later windows start later, unless the sync was a first one that took so long that
its start is behind the start of its window. -/
theorem start_le_of_synced {now' syncTimestamp : Timestamp} (h : now ≤ now')
    (hsync : syncTimestamp ≤ now) (hlast : ∀ x ∈ lastSyncAt, x ≤ syncTimestamp)
    (hlong : Timestamp.dateNaive now ≤
      Timestamp.dateNaive syncTimestamp + (defaultFirstSyncDays - safetyMarginDays)) :
    (calculateSyncDateRange now lastSyncAt).1 ≤
      (calculateSyncDateRange now' (some syncTimestamp)).1 := by
  have hday := Timestamp.dateNaive_mono h
  have hsyncDay := Timestamp.dateNaive_mono hsync
  cases lastSyncAt with
  | none =>
    rw [calculateSyncDateRange_none, calculateSyncDateRange_some]
    simp only [defaultFirstSyncDays, safetyMarginDays] at hlong
    lia
  | some lastSync =>
    have hlastDay := Timestamp.dateNaive_mono (hlast lastSync rfl)
    rw [calculateSyncDateRange_some, calculateSyncDateRange_some]
    lia

/-- **When a window leaves no gap** after a day that is not before the last sync: when the day is in
the look-back, or just before it. -/
theorem start_le_succ_iff {day : NaiveDate}
    (hlast : ∀ x ∈ lastSyncAt, Timestamp.dateNaive x ≤ day) :
    (calculateSyncDateRange now lastSyncAt).1 ≤ day + 1 ↔
      Timestamp.dateNaive now - day ≤ lookbackDays lastSyncAt + 1 := by
  cases lastSyncAt with
  | none =>
    rw [calculateSyncDateRange_none, lookbackDays, defaultFirstSyncDays]
    lia
  | some lastSync =>
    have hlastDay := hlast lastSync rfl
    rw [calculateSyncDateRange_some, lookbackDays, maxSyncYears]
    lia

end Sumurai
