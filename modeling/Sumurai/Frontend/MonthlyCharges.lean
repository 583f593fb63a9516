import Sumurai.Frontend.UpcomingCharges

/-!
# Monthly charges

A monthly charge is expected on the day of the month of the latest one, or on the last day of a
month that is shorter. `predictUpcomingCharges` goes on from its own last result, so a short month
on the way cuts the day off for all later ones: a charge of 31 January is expected on 29 March where
29 February is not after today.

## Main result

`monthlyCharge_iff`: after which months the day is kept, and going on month by month is going on at
once.
-/

namespace Sumurai.Frontend.DashboardCalculator

open NaiveDate

/-- A charge is on the day of the month of the latest one, or on the last day of a shorter month. -/
def KeepsDay (latest next : NaiveDate) : Prop :=
  NaiveDate.day next = min (NaiveDate.day latest) (monthLength (monthIndex next))

/-- No month between a day and the one `k` months later is shorter than the day that is expected. -/
def NoShorterMonth (latest : NaiveDate) (k : ℕ) : Prop :=
  ∀ j < k, 0 < j → min (NaiveDate.day latest) (monthLength (monthIndex latest + k)) ≤
    monthLength (monthIndex latest + j)

instance (latest next : NaiveDate) : Decidable (KeepsDay latest next) :=
  inferInstanceAs (Decidable (_ = _))

instance (latest : NaiveDate) (k : ℕ) : Decidable (NoShorterMonth latest k) :=
  inferInstanceAs (Decidable (∀ j < k, 0 < j → _ ≤ _))

theorem iterate_eq_iff_noShorterMonth {latest : NaiveDate} {k : ℕ} :
    (addMonths 1)^[k] latest = addMonths k latest ↔ NoShorterMonth latest k := by
  rw [iterate_addMonths_eq_iff, NoShorterMonth]
  exact forall_congr' fun j ↦ imp.swap

/-- The day is kept exactly if going on month by month is going on at once. -/
theorem keepsDay_iterate_iff {latest : NaiveDate} {k : ℕ} :
    KeepsDay latest ((addMonths 1)^[k] latest) ↔ NoShorterMonth latest k := by
  rw [← iterate_eq_iff_noShorterMonth, eq_iff_monthIndex, monthIndex_iterate, monthIndex_addMonths,
    and_iff_right rfl, day_addMonths, KeepsDay, monthIndex_iterate]

variable {z : TimeZone}

/-- Going on month by month from a key. -/
theorem iterate_addMonthsClamped (hz : z.IsSteady) {day : NaiveDate} (hday : HasKey day) {k : ℕ}
    (hend : HasKey (addMonths k day)) :
    (z.addMonthsClamped · 1)^[k] (calendarText day) =
      calendarText ((addMonths 1)^[k] day) := by
  have hlast := (hasKey_iff_monthIndex.1 hend).2
  rw [monthIndex_addMonths] at hlast
  have hkey {j : ℕ} (hj : j ≤ k) : HasKey ((addMonths 1)^[j] day) := by
    have hfirst := (hasKey_iff_monthIndex.1 hday).1
    rw [hasKey_iff_monthIndex, monthIndex_iterate]
    omega
  clear hend hlast
  induction k with
  | zero => rfl
  | succ k ih =>
    rw [Function.iterate_succ_apply', Function.iterate_succ_apply',
      ih fun hj ↦ hkey (hj.trans k.le_succ)]
    refine hz.addMonthsClamped_calendarText (hkey k.le_succ) ?_
    rw [← Function.iterate_succ_apply' (addMonths 1)]
    exact hkey le_rfl

/-- **Monthly charges.** Going on month by month goes to the day that going on at once goes to, and
the next charge of a monthly group is on the day of the month of its latest one, exactly if no month
between is shorter than the day that is expected. -/
theorem monthlyCharge_iff (hz : z.IsSteady) (parse : List Char → Option ℤ) :
    (∀ (day : NaiveDate) (k : ℕ), HasKey day → HasKey (addMonths k day) →
      ((z.addMonthsClamped · 1)^[k] (calendarText day) = z.addMonthsClamped (calendarText day) k ↔
        NoShorterMonth day k)) ∧
    ∀ (group : ChargeGroup) (latest : ChargeTransaction) (cadence : CadenceMatch) (now : ℤ),
      (∀ transaction ∈ group.transactions, ∃ day, IsDatedOn transaction day) →
      (sortedCharges z parse group).getLast? = some latest →
      matchCadence (median ((getIntervals z parse (sortedCharges z parse group)).map Int.cast)) =
        some cadence →
      cadence.cadence = .monthly →
      1000 ≤ z.getFullYear now ∧ z.getFullYear now ≤ 9000 →
      ∃ day next k, IsLatest group day ∧ monthIndex next = monthIndex day + (k : ℕ) ∧
        (∃ fuel, ∀ fuel' ≥ fuel, nextChargeDate z fuel' cadence (latest.dateKey z parse)
          (z.toDateKey (some now)) = some (calendarText next)) ∧
        (KeepsDay day next ↔ NoShorterMonth day k) := by
  constructor
  · intro day k hday hend
    have hstep := hz.addMonthsClamped_calendarText hday hend
    rw [iterate_addMonthsClamped hz hday hend, hstep, calendarText_inj hend.year_range,
      iterate_eq_iff_noShorterMonth]
  · intro group latest cadence now hdated hlatest hcadence hmonthly hnow
    have htoday : HasKey (z.localDay now) := ⟨hnow.1, hnow.2.trans (by decide)⟩
    have hdays := days_of_matchCadence hcadence
    obtain ⟨day, hdateKey, hday, hisLatest⟩ := isLatest_of_getLast? hdated hlatest
    rw [hdateKey, TimeZone.toDateKey_some htoday]
    obtain ⟨fuel, key, hend⟩ :=
      exists_nextChargeDate hz hdays hday.hasKey hday.year_le htoday hnow.2
    obtain ⟨k, rfl, -, -⟩ := exists_of_nextChargeDate hz hdays hday.hasKey hday.year_le htoday
      hnow.2 (hend fuel le_rfl)
    have hnext : cadence.cadence.next = addMonths 1 := by
      rw [hmonthly]
      exact funext fun _ ↦ if_pos rfl
    rw [hnext] at hend
    exact ⟨day, _, k + 1, hisLatest, monthIndex_iterate (k + 1) day, ⟨fuel, hend⟩,
      keepsDay_iterate_iff⟩

/-- From 30 March no month on the way to 30 May is too short. -/
theorem monthlyCharge_iff_march :
    (oneHourAhead.addMonthsClamped · 1)^[2] (calendarText 19812) =
      oneHourAhead.addMonthsClamped (calendarText 19812) 2 :=
  ((monthlyCharge_iff isSteady_oneHourAhead fun _ ↦ none).1 19812 2
    ⟨by decide, by decide⟩ ⟨by decide, by decide⟩).2 (by decide)

/-- After a charge on 31 January the next one is expected on 29 March, when February is over. -/
theorem january_day_lost :
    (predictUpcomingCharges simpleCase oneHourAhead (fun _ ↦ none) 3
        [gymCharge "2023-12-31", gymCharge "2024-01-31"] (some 1710325800000) 45).map
          (List.map fun prediction ↦ (prediction.nextDate, prediction.cadence)) =
        some [("2024-03-29".toList, .monthly)] ∧
      (calendarText 19753, calendarText 19811) = ("2024-01-31".toList, "2024-03-29".toList) ∧
      ¬KeepsDay 19753 19811 ∧
      (oneHourAhead.addMonthsClamped · 1)^[2] "2024-01-31".toList = "2024-03-29".toList ∧
      oneHourAhead.addMonthsClamped "2024-01-31".toList 2 = "2024-03-31".toList := by
  refine ⟨?_, ?_, ?_, ?_, ?_⟩ <;> decide +kernel

end Sumurai.Frontend.DashboardCalculator
