import Sumurai.Foundations.Strides

/-!
# Dots of the net worth chart

`calculateNetDotIndices` picks the points of the chart that have a dot, for at most `maxDots` dots:
with a stride it takes so many of the points where the value changes, and then the last one of these
in any case, which the stride does not count.

## Main result

`withinBudget_iff`: for how many changes the dots are within the budget. The dots are at changes,
among them the last one and all of a few, for every series.
-/

namespace Sumurai.Frontend.DashboardCalculator

open Strides

/-- `NetWorthPoint`. The value is none if it is no finite number. -/
structure NetWorthPoint where
  value : Option ℚ
deriving DecidableEq, Repr

/-- `Number(series[i]?.value ?? 0)`, if it is finite. -/
def valueAt (series : List NetWorthPoint) (i : ℕ) : Option ℚ :=
  (series[i]?.map NetWorthPoint.value).getD (some 0)

/-- `changeIdx`. -/
def changeIdx (series : List NetWorthPoint) : List ℕ :=
  (List.range' 1 (series.length - 1)).filter fun i ↦
    match valueAt series (i - 1), valueAt series i with
    | some prev, some curr => curr ≠ prev
    | _, _ => false

/-- `maxDots`. -/
def maxDots : ℕ :=
  30

/-- `calculateNetDotIndices`. -/
def calculateNetDotIndices (series : List NetWorthPoint) : Finset ℕ :=
  let changeIdx := changeIdx series
  match changeIdx.getLast? with
  | none => ∅
  | some last =>
    let stride := strideFor maxDots changeIdx.length
    ((strides changeIdx.length stride).filterMap (changeIdx[·]?)).toFinset ∪ {last}

/-! ### Changes -/

/-- The value at an index is not the one before it. Only finite numbers are compared. -/
def IsChange (series : List NetWorthPoint) (i : ℕ) : Prop :=
  0 < i ∧ i < series.length ∧ (valueAt series (i - 1)).isSome ∧ (valueAt series i).isSome ∧
    valueAt series i ≠ valueAt series (i - 1)

instance (series : List NetWorthPoint) (i : ℕ) : Decidable (IsChange series i) :=
  inferInstanceAs (Decidable (_ ∧ _))

/-- The changes of a series. -/
def changes (series : List NetWorthPoint) : Finset ℕ :=
  (Finset.range series.length).filter (IsChange series)

/-- There are at most 30 dots, all of them at changes, among them the last change, and all changes
if there are at most 30. -/
structure WithinBudget (series : List NetWorthPoint) : Prop where
  card_le : (calculateNetDotIndices series).card ≤ 30
  isChange : ∀ i ∈ calculateNetDotIndices series, IsChange series i
  last : ∀ i, IsChange series i → (∀ j, IsChange series j → j ≤ i) →
    i ∈ calculateNetDotIndices series
  all : (changes series).card ≤ 30 → ∀ i, IsChange series i → i ∈ calculateNetDotIndices series

variable {series : List NetWorthPoint}

theorem mem_changes {i : ℕ} : i ∈ changes series ↔ IsChange series i := by
  rw [changes, Finset.mem_filter, Finset.mem_range]
  exact and_iff_right_of_imp fun h ↦ h.2.1

theorem mem_changeIdx {i : ℕ} : i ∈ changeIdx series ↔ IsChange series i := by
  have hrange : (1 ≤ i ∧ i < 1 + (series.length - 1)) ↔ 0 < i ∧ i < series.length := by omega
  rw [changeIdx, List.mem_filter, List.mem_range'_1, hrange, IsChange, ← and_assoc]
  refine and_congr_right fun _ ↦ ?_
  cases valueAt series (i - 1) with
  | none => simp
  | some prev => cases valueAt series i <;> simp

theorem pairwise_changeIdx (series : List NetWorthPoint) : (changeIdx series).Pairwise (· < ·) :=
  (List.pairwise_lt_range' 1).filter _

theorem nodup_changeIdx (series : List NetWorthPoint) : (changeIdx series).Nodup :=
  (pairwise_changeIdx series).imp ne_of_lt

theorem length_changeIdx (series : List NetWorthPoint) :
    (changeIdx series).length = (changes series).card := by
  have hsame : (changeIdx series).toFinset = changes series := by
    ext i
    rw [List.mem_toFinset, mem_changeIdx, mem_changes]
  rw [← hsame, List.toFinset_card_of_nodup (nodup_changeIdx series)]

/-- The last index is that of the last change. -/
theorem getLast?_changeIdx {i : ℕ} (h : IsChange series i)
    (hlast : ∀ j, IsChange series j → j ≤ i) : (changeIdx series).getLast? = some i := by
  have hmem := mem_changeIdx.2 h
  obtain ⟨before, last, heq⟩ :=
    (List.eq_nil_or_concat' (changeIdx series)).resolve_left (List.ne_nil_of_mem hmem)
  have hsorted := pairwise_changeIdx series
  have hle := hlast last (mem_changeIdx.1 (heq ▸ List.mem_concat_self))
  rw [heq] at hmem hsorted ⊢
  obtain hbefore | rfl := List.mem_append.1 hmem |>.imp_right List.mem_singleton.1
  · have hlt := (List.pairwise_append.1 hsorted).2.2 i hbefore last (List.mem_singleton_self last)
    exact absurd hle hlt.not_ge
  · exact List.getLast?_concat

/-! ### Dots -/

/-- The dots are the changes thinned out. -/
theorem calculateNetDotIndices_eq (series : List NetWorthPoint) :
    calculateNetDotIndices series =
      thinned (strideFor maxDots (changeIdx series).length) (changeIdx series) := by
  rw [calculateNetDotIndices, thinned, strided]
  cases hlast : (changeIdx series).getLast? with
  | none =>
    rw [List.getLast?_eq_none_iff.1 hlast]
    rfl
  | some last => rfl

theorem isChange_of_mem {i : ℕ} (h : i ∈ calculateNetDotIndices series) : IsChange series i := by
  rw [calculateNetDotIndices_eq] at h
  exact mem_changeIdx.1 (mem_of_mem_thinned h)

theorem last_mem_calculateNetDotIndices {i : ℕ} (h : IsChange series i)
    (hlast : ∀ j, IsChange series j → j ≤ i) : i ∈ calculateNetDotIndices series := by
  rw [calculateNetDotIndices_eq, mem_thinned]
  exact Or.inr (getLast?_changeIdx h hlast)

/-- A few changes have all of them a dot. -/
theorem mem_calculateNetDotIndices (hfew : (changes series).card ≤ maxDots) {i : ℕ}
    (h : IsChange series i) : i ∈ calculateNetDotIndices series := by
  rw [← length_changeIdx] at hfew
  rw [calculateNetDotIndices_eq, strideFor_eq_one (by decide) hfew, thinned_one, List.mem_toFinset]
  exact mem_changeIdx.2 h

/-- **There is at most one dot too many.** -/
theorem card_calculateNetDotIndices_le (series : List NetWorthPoint) :
    (calculateNetDotIndices series).card ≤ maxDots + 1 := by
  rw [calculateNetDotIndices_eq]
  exact card_thinned_le_succ (by decide) (nodup_changeIdx series)

/-- **The dots are within the budget** exactly for so many changes that the quotient and the
remainder by 30, of the number of those before the last one, are less than 30 together. -/
theorem withinBudget_iff (series : List NetWorthPoint) :
    WithinBudget series ↔
      ((changes series).card - 1) / 30 + ((changes series).card - 1) % 30 < 30 := by
  have hcard : (calculateNetDotIndices series).card ≤ 30 ↔
      ((changes series).card - 1) / 30 + ((changes series).card - 1) % 30 < 30 := by
    rw [calculateNetDotIndices_eq, ← length_changeIdx]
    exact card_thinned_le_iff (show 0 < maxDots by decide) (nodup_changeIdx series)
  rw [← hcard]
  constructor
  · exact WithinBudget.card_le
  · intro hle
    exact
      { card_le := hle
        isChange := fun _ ↦ isChange_of_mem
        last := fun _ ↦ last_mem_calculateNetDotIndices
        all := fun hfew _ ↦ mem_calculateNetDotIndices hfew }

/-- A series that goes up and down every day. -/
def upAndDown (days : ℕ) : List NetWorthPoint :=
  (List.range days).map fun day ↦ ⟨some (if day % 2 = 0 then 1000 else 2000)⟩

/-- Of 60 changes 30 have a dot, and then the last one has one as well. -/
theorem sixty_changes :
    (changes (upAndDown 61)).card = 60 ∧ (calculateNetDotIndices (upAndDown 61)).card = 31 ∧
      ¬∀ series, WithinBudget series := by
  have hcard : (calculateNetDotIndices (upAndDown 61)).card = 31 := by decide +kernel
  refine ⟨by decide +kernel, hcard, fun hall ↦ ?_⟩
  exact absurd (hcard ▸ (hall (upAndDown 61)).card_le) (by decide)

end Sumurai.Frontend.DashboardCalculator
