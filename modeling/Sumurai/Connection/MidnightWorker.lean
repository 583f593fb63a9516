import Mathlib
import Sumurai.Models.Basic

/-!
# When the midnight sync runs

`spawn_midnight_sync_worker` computes the time until the next local midnight, sleeps, runs a round,
sleeps five seconds more, and starts again. The time zone of the machine is a parameter: `chrono`
says what the local date of an instant is, and which instants are the midnight of a date. A local
midnight may come twice, and then the earlier one is taken; it may not come at all, and then the
worker sleeps for 24 hours. Instants are in microseconds, and dates are day numbers.

`rounds_days`: no two rounds start on one local day. No day is left out exactly if every round
starts on the day after it was planned, and the next one is planned on the day it started.
-/

namespace Sumurai

/-- `chrono::LocalResult`. -/
inductive LocalResult where
  | none
  | single (t : ℤ)
  | ambiguous (earliest latest : ℤ)
deriving DecidableEq, Repr

/-- The instant is the first one of the date. -/
def IsFirstOf (localDay : ℤ → ℤ) (d : ℤ) (t : ℤ) : Prop :=
  localDay t = d ∧ ∀ u < t, localDay u < d

/-- `chrono::Local`. -/
structure LocalZone where
  /-- `date_naive` of an instant in the zone. -/
  localDay : ℤ → ℤ
  /-- `and_local_timezone` of the midnight of a date. -/
  midnight : ℤ → LocalResult
  localDay_mono : Monotone localDay
  single : ∀ {d t}, midnight d = .single t → IsFirstOf localDay d t
  ambiguous : ∀ {d t t'}, midnight d = .ambiguous t t' → IsFirstOf localDay d t
  /-- A day before a midnight that does not come has no more than 24 hours. -/
  none : ∀ {t}, midnight (localDay t + 1) = .none → localDay t < localDay (t + microsPerDay)

namespace LocalZone

variable (zone : LocalZone)

/-- `to_std` of the time until an instant, or a day. -/
def untilInstant (next now : ℤ) : ℤ :=
  if 0 ≤ next - now then next - now else microsPerDay

/-- `duration_until_next_midnight`. -/
def durationUntilNextMidnight (now : ℤ) : ℤ :=
  let today := zone.localDay now
  match zone.midnight ((NaiveDate.succOpt today).getD today) with
  | .single next => untilInstant next now
  | .ambiguous earliest _ => untilInstant earliest now
  | .none => microsPerDay

/-- How long a cycle of the worker takes: what it sleeps too long, the round, and the pause of five
seconds with what it sleeps too long then. -/
structure Cycle where
  oversleep : ℕ
  syncing : ℕ
  pausing : ℕ
deriving DecidableEq, Repr

/-- When the round starts that is planned now. -/
def roundStart (now : ℤ) (c : Cycle) : ℤ :=
  now + zone.durationUntilNextMidnight now + c.oversleep

/-- When the next round is planned. -/
def nextPlan (now : ℤ) (c : Cycle) : ℤ :=
  zone.roundStart now c + c.syncing + (5000000 + c.pausing)

/-- When the rounds of `spawn_midnight_sync_worker` start. -/
def rounds : ℤ → List Cycle → List ℤ
  | _, [] => []
  | now, c :: cs => zone.roundStart now c :: rounds (zone.nextPlan now c) cs

/-- When the round after the last one is planned. -/
def afterCycles : ℤ → List Cycle → ℤ
  | now, [] => now
  | now, c :: cs => afterCycles (zone.nextPlan now c) cs

/-- Every round starts on the day after it was planned, and the next one is planned on the day it
started. -/
def Timely : ℤ → List Cycle → Prop
  | _, [] => True
  | now, c :: cs => zone.localDay (zone.roundStart now c) = zone.localDay now + 1 ∧
      (cs ≠ [] → zone.localDay (zone.nextPlan now c) = zone.localDay (zone.roundStart now c)) ∧
      Timely (zone.nextPlan now c) cs

section

variable {zone} {now : ℤ}

theorem untilInstant_nonneg (next now : ℤ) : 0 ≤ untilInstant next now := by
  rw [untilInstant]
  split
  · assumption
  · decide

theorem durationUntilNextMidnight_nonneg (now : ℤ) :
    0 ≤ zone.durationUntilNextMidnight now := by
  rw [durationUntilNextMidnight]
  split
  · exact untilInstant_nonneg _ _
  · exact untilInstant_nonneg _ _
  · decide

/-- The first instant of the day after today is still to come. -/
theorem lt_of_isFirstOf {next : ℤ}
    (h : IsFirstOf zone.localDay (zone.localDay now + 1) next) : now < next := by
  by_contra hle
  have hmono := zone.localDay_mono (not_lt.1 hle)
  have hday := h.1
  omega

/-- **The worker wakes up on a later day**, on the next one if that has a midnight. -/
theorem localDay_lt_wake (hmax : zone.localDay now < NaiveDate.MAX) :
    zone.localDay now < zone.localDay (now + zone.durationUntilNextMidnight now) := by
  have hwake : ∀ {next}, IsFirstOf zone.localDay (zone.localDay now + 1) next →
      zone.localDay now < zone.localDay (now + untilInstant next now) := by
    intro next hnext
    have hlt := lt_of_isFirstOf hnext
    rw [untilInstant, if_pos (by omega), show now + (next - now) = next by omega, hnext.1]
    exact Int.lt_succ _
  rw [durationUntilNextMidnight, NaiveDate.succOpt_of_lt hmax, Option.getD_some]
  split
  · exact hwake (zone.single ‹_›)
  · exact hwake (zone.ambiguous ‹_›)
  · exact zone.none ‹_›

theorem localDay_lt_roundStart (hmax : zone.localDay now < NaiveDate.MAX) (c : Cycle) :
    zone.localDay now < zone.localDay (zone.roundStart now c) := by
  refine (localDay_lt_wake hmax).trans_le (zone.localDay_mono ?_)
  rw [roundStart]
  omega

theorem roundStart_le_nextPlan (zone : LocalZone) (now : ℤ) (c : Cycle) :
    zone.roundStart now c ≤ zone.nextPlan now c := by
  rw [nextPlan]
  omega

theorem le_nextPlan (now : ℤ) (c : Cycle) : now ≤ zone.nextPlan now c := by
  have hnonneg := zone.durationUntilNextMidnight_nonneg now
  have hle := zone.roundStart_le_nextPlan now c
  rw [roundStart] at hle
  omega

theorem le_afterCycles (now : ℤ) (cs : List Cycle) : now ≤ zone.afterCycles now cs := by
  induction cs generalizing now with
  | nil => exact le_rfl
  | cons c cs ih => exact (le_nextPlan now c).trans (ih _)

/-- The days of the rounds come after the day on which the first one is planned. -/
theorem localDay_lt_of_mem_rounds {cs : List Cycle} {t : ℤ} (ht : t ∈ zone.rounds now cs)
    (hmax : zone.localDay (zone.afterCycles now cs) < NaiveDate.MAX) :
    zone.localDay now < zone.localDay t := by
  induction cs generalizing now with
  | nil => cases ht
  | cons c cs ih =>
    have htoday := (zone.localDay_mono (le_afterCycles now (c :: cs))).trans_lt hmax
    rcases List.mem_cons.1 ht with rfl | ht
    · exact localDay_lt_roundStart htoday c
    · exact (zone.localDay_mono (le_nextPlan now c)).trans_lt (ih ht hmax)

/-- No two rounds start on one day. -/
theorem pairwise_rounds {cs : List Cycle}
    (hmax : zone.localDay (zone.afterCycles now cs) < NaiveDate.MAX) :
    ((zone.rounds now cs).map zone.localDay).Pairwise (· < ·) := by
  induction cs generalizing now with
  | nil => exact List.Pairwise.nil
  | cons c cs ih =>
    refine List.Pairwise.cons (fun d hd ↦ ?_) (ih hmax)
    obtain ⟨t, ht, rfl⟩ := List.mem_map.1 hd
    exact (zone.localDay_mono (zone.roundStart_le_nextPlan now c)).trans_lt
      (localDay_lt_of_mem_rounds ht hmax)

/-- The days after a day. -/
def daysFrom (d : ℤ) (n : ℕ) : List ℤ :=
  (List.range n).map fun k : ℕ ↦ d + 1 + k

theorem daysFrom_succ (d : ℤ) (n : ℕ) :
    daysFrom d (n + 1) = (d + 1) :: daysFrom (d + 1) n := by
  rw [daysFrom, List.range_succ_eq_map, List.map_cons, List.map_map]
  refine congrArg₂ _ (by omega) (List.map_congr_left fun k _ ↦ ?_)
  simp only [Function.comp_apply]
  omega

theorem rounds_eq_daysFrom_iff {cs : List Cycle}
    (hmax : zone.localDay (zone.afterCycles now cs) < NaiveDate.MAX) :
    (zone.rounds now cs).map zone.localDay = daysFrom (zone.localDay now) cs.length ↔
      zone.Timely now cs := by
  induction cs generalizing now with
  | nil => exact iff_of_true rfl trivial
  | cons c cs ih =>
    rw [rounds, List.map_cons, List.length_cons, daysFrom_succ, List.cons.injEq, Timely]
    refine and_congr_right fun hstart ↦ ?_
    have hnext := zone.localDay_mono (zone.roundStart_le_nextPlan now c)
    rcases cs with - | ⟨c', cs⟩
    · simp [rounds, daysFrom, Timely]
    · constructor
      · intro hdays
        -- the next round starts later than the day it is planned on, and on the next day but one
        have hfirst : zone.localDay (zone.roundStart (zone.nextPlan now c) c') =
            zone.localDay now + 1 + 1 := by
          rw [rounds, List.map_cons, List.length_cons, daysFrom_succ] at hdays
          exact (List.cons.inj hdays).1
        have hlt : zone.localDay (zone.nextPlan now c) <
            zone.localDay (zone.roundStart (zone.nextPlan now c) c') := localDay_lt_roundStart
          ((zone.localDay_mono (le_afterCycles _ (c' :: cs))).trans_lt hmax) c'
        have hsame : zone.localDay (zone.nextPlan now c) = zone.localDay now + 1 := by omega
        exact ⟨fun _ ↦ hsame.trans hstart.symm, (ih hmax).1 (hsame ▸ hdays)⟩
      · rintro ⟨hsame, htimely⟩
        have hdays := (ih hmax).2 htimely
        rw [hsame (by simp), hstart] at hdays
        exact hdays

end

end LocalZone

/-- **The days of the midnight sync.** In every time zone, and however long the rounds take: the
rounds start on different local days, in order, all of them after the day on which the worker is
started; and they start on all the days that follow it, one after the other, if and only if every
round starts on the day after it was planned, and the next one is planned on the day it started. -/
theorem LocalZone.rounds_days (zone : LocalZone) {now : ℤ} {cs : List LocalZone.Cycle}
    (hmax : zone.localDay (zone.afterCycles now cs) < NaiveDate.MAX) :
    (∀ t ∈ zone.rounds now cs, zone.localDay now < zone.localDay t) ∧
      ((zone.rounds now cs).map zone.localDay).Pairwise (· < ·) ∧
      ((zone.rounds now cs).map zone.localDay = daysFrom (zone.localDay now) cs.length ↔
        zone.Timely now cs) :=
  ⟨fun _ ht ↦ localDay_lt_of_mem_rounds ht hmax, pairwise_rounds hmax,
    rounds_eq_daysFrom_iff hmax⟩

/-- The zone without an offset. -/
def utc : LocalZone where
  localDay t := t / microsPerDay
  midnight d := .single (d * microsPerDay)
  localDay_mono _ _ h := Int.ediv_le_ediv (by decide) h
  single := by
    rintro d _ ⟨⟩
    exact ⟨Int.mul_ediv_cancel d (by decide), fun u hu ↦ Int.ediv_lt_of_lt_mul (by decide) hu⟩
  ambiguous := by
    rintro _ _ _ ⟨⟩
  none := by
    rintro _ ⟨⟩

/-- Two rounds of ten minutes. -/
def shortCycles : List LocalZone.Cycle :=
  [⟨0, 600000000, 0⟩, ⟨0, 600000000, 0⟩]

theorem rounds_days_utc : (utc.rounds 0 shortCycles).map utc.localDay = [1, 2] :=
  (utc.rounds_days (by decide)).2.2.2
    ⟨by decide, fun _ ↦ by decide, by decide, fun h ↦ absurd rfl h, trivial⟩

end Sumurai
