import Mathlib.Algebra.Order.Ring.Int
import Sumurai.Analytics.BalancesOverview

/-!
# The totals of the balances overview

The overview shows five category totals and three figures made of them, once for every institution
and once for all of them together. The institutions are added up category by category, and an
account is counted in its category before that, so that every figure of the whole is the sum of the
figures of its parts.

The ratio is a quotient of two sums, rounded to two decimals. `IsRoundedQuotient` says what that
is, without saying how it is computed.

## Main result

`overview_consistent`: the response of the overview is consistent, for every store and every filter.
-/

namespace Sumurai

/-! ### Rounding -/

/-- `r` is the quotient of two amounts, rounded to a number of hundredths: none is nearer, and of
two that are equally near it is the even one. -/
def IsRoundedQuotient (n d r : ℤ) : Prop :=
  2 * |100 * n - r * d| ≤ d ∧ (2 * |100 * n - r * d| = d → r % 2 = 0)

theorem round2Quotient_isRounded {n d : ℤ} (hd : 0 < d) :
    IsRoundedQuotient n d (round2Quotient n d) := by
  have hmod : 100 * n - 100 * n / d * d = 100 * n % d := by
    rw [mul_comm (100 * n / d), Int.emod_def]
  have hnonneg : 0 ≤ 100 * n % d := Int.emod_nonneg _ hd.ne'
  have hlt : 100 * n % d < d := Int.emod_lt_of_pos _ hd
  -- the distances to the two candidates add up to the divisor
  have hdown : |100 * n - 100 * n / d * d| = 100 * n % d := by rw [hmod, abs_of_nonneg hnonneg]
  have hup : |100 * n - (100 * n / d + 1) * d| = d - 100 * n % d := by
    rw [Int.add_mul, Int.one_mul, ← sub_sub, hmod, abs_of_neg (by lia), neg_sub]
  unfold IsRoundedQuotient round2Quotient
  dsimp only
  split
  · rw [hdown]
    exact ⟨by lia, fun h ↦ by lia⟩
  · split
    · rw [hup]
      exact ⟨by lia, fun h ↦ by lia⟩
    · split
      · rename_i heven
        rw [hdown]
        exact ⟨by lia, fun _ ↦ heven⟩
      · rw [hup]
        exact ⟨by lia, fun _ ↦ by lia⟩

/-- Of two rounded quotients neither is the smaller one: a step apart they would both be even. -/
theorem IsRoundedQuotient.le {n d r r' : ℤ} (hd : 0 < d) (h : IsRoundedQuotient n d r)
    (h' : IsRoundedQuotient n d r') : r' ≤ r := by
  by_contra! hlt
  have hstep : d ≤ (r' - r) * d := le_mul_of_one_le_left hd.le (by lia)
  have hdiff : (100 * n - r * d) - (100 * n - r' * d) = (r' - r) * d := by
    rw [sub_mul]
    lia
  have habs : 100 * n - r * d ≤ |100 * n - r * d| := le_abs_self _
  have habs' : -|100 * n - r' * d| ≤ 100 * n - r' * d := neg_abs_le _
  have hle := h.1
  have hle' := h'.1
  have hone : r' - r = 1 := by
    have hself : (r' - r) * d = 1 * d := by
      rw [← hdiff] at hstep ⊢
      omega
    exact mul_right_cancel₀ hd.ne' hself
  have heven := h.2 (by lia)
  have heven' := h'.2 (by lia)
  lia

/-- There is one rounded quotient. -/
theorem IsRoundedQuotient.unique {n d r r' : ℤ} (hd : 0 < d) (h : IsRoundedQuotient n d r)
    (h' : IsRoundedQuotient n d r') : r = r' :=
  le_antisymm (h'.le hd h) (h.le hd h')

/-! ### The ratio -/

/-- `AnalyticsService::compute_positive_negative_ratio`. -/
def computePositiveNegativeRatio (positivesTotal negativesTotal : Decimal) : Option Decimal :=
  if negativesTotal = 0 then none
  else some (round2Quotient positivesTotal (max (-negativesTotal) 100))

/-- The finaliser of the totals has the ratio of the analytics service. -/
theorem finalizeTotals_ratio (s : CategoryTotals) :
    (finalizeTotals s).ratio =
      computePositiveNegativeRatio (s.cash + s.investments + s.property) (s.credit + s.loan) :=
  rfl

section Ratio

variable {positivesTotal negativesTotal : Decimal}

theorem computePositiveNegativeRatio_eq_none_iff :
    computePositiveNegativeRatio positivesTotal negativesTotal = none ↔ negativesTotal = 0 := by
  unfold computePositiveNegativeRatio
  split
  · rename_i h
    exact iff_of_true rfl h
  · rename_i h
    exact iff_of_false nofun h

theorem computePositiveNegativeRatio_eq_some_iff (h : negativesTotal ≤ 0) (r : Decimal) :
    computePositiveNegativeRatio positivesTotal negativesTotal = some r ↔
      negativesTotal ≠ 0 ∧ IsRoundedQuotient positivesTotal (max 100 |negativesTotal|) r := by
  have hdenom : max (-negativesTotal) 100 = max 100 |negativesTotal| := by
    rw [abs_of_nonpos h, max_comm]
  have hpos : 0 < max 100 |negativesTotal| := lt_max_of_lt_left (by decide)
  unfold computePositiveNegativeRatio
  rw [hdenom]
  split
  · rename_i hzero
    exact iff_of_false nofun fun hr ↦ hr.1 hzero
  · rename_i hzero
    rw [Option.some_inj]
    constructor
    · rintro rfl
      exact ⟨hzero, round2Quotient_isRounded hpos⟩
    · rintro ⟨-, hr⟩
      exact (round2Quotient_isRounded hpos).unique hpos hr

end Ratio

/-! ### The figures of one institution, and of all -/

/-- The figures made of the category totals fit them. -/
structure Totals.Consistent (t : Totals) : Prop where
  credit_nonpos : t.credit ≤ 0
  loan_nonpos : t.loan ≤ 0
  positives : t.positivesTotal = t.cash + t.investments + t.property
  negatives : t.negativesTotal = t.credit + t.loan
  net : t.net = t.positivesTotal + t.negativesTotal
  ratio_none : t.ratio = none ↔ t.negativesTotal = 0
  /-- `Decimal::ONE` is 100 cents. -/
  ratio_some : ∀ r, t.ratio = some r ↔
    t.negativesTotal ≠ 0 ∧ IsRoundedQuotient t.positivesTotal (max 100 |t.negativesTotal|) r

/-- The figures of the whole are those of its parts. -/
structure BalancesOverviewResponse.Consistent (r : BalancesOverviewResponse) : Prop where
  overall : r.overall.Consistent
  banks : ∀ bank ∈ r.banks, bank.totals.Consistent
  cash : r.overall.cash = (r.banks.map fun bank ↦ bank.totals.cash).sum
  credit : r.overall.credit = (r.banks.map fun bank ↦ bank.totals.credit).sum
  loan : r.overall.loan = (r.banks.map fun bank ↦ bank.totals.loan).sum
  investments : r.overall.investments = (r.banks.map fun bank ↦ bank.totals.investments).sum
  property : r.overall.property = (r.banks.map fun bank ↦ bank.totals.property).sum

namespace CategoryTotals

/-- Liabilities never count as positive. -/
structure Signed (s : CategoryTotals) : Prop where
  credit : s.credit ≤ 0
  loan : s.loan ≤ 0

theorem signed_zero : zero.Signed :=
  ⟨le_rfl, le_rfl⟩

/-- Counting an account keeps the signs, whatever its category and its balance. -/
theorem Signed.add {s : CategoryTotals} (h : s.Signed) (c : BalanceCategory) (balance : Decimal) :
    (s.add c balance).Signed := by
  have habs : -|balance| ≤ 0 := neg_nonpos.2 (abs_nonneg balance)
  cases c with
  | cash => exact ⟨h.credit, h.loan⟩
  | credit => exact ⟨add_nonpos h.credit habs, h.loan⟩
  | loan => exact ⟨h.credit, add_nonpos h.loan habs⟩
  | investments => exact ⟨h.credit, h.loan⟩
  | property => exact ⟨h.credit, h.loan⟩

theorem Signed.plus {s t : CategoryTotals} (h : s.Signed) (h' : t.Signed) : (s.plus t).Signed :=
  ⟨add_nonpos h.credit h'.credit, add_nonpos h.loan h'.loan⟩

/-- The finaliser keeps the category totals and gets the other figures right. -/
theorem Signed.consistent {s : CategoryTotals} (h : s.Signed) : (finalizeTotals s).Consistent := by
  have hneg : s.credit + s.loan ≤ 0 := add_nonpos h.credit h.loan
  exact ⟨h.credit, h.loan, rfl, rfl, rfl, computePositiveNegativeRatio_eq_none_iff,
    computePositiveNegativeRatio_eq_some_iff hneg⟩

/-- A figure that is additive adds up over the parts. -/
theorem foldl_plus {β : Type*} (figure : CategoryTotals → Decimal)
    (hplus : ∀ s t : CategoryTotals, figure (s.plus t) = figure s + figure t)
    (part : β → CategoryTotals) (l : List β) (s : CategoryTotals) :
    figure (l.foldl (fun s b ↦ s.plus (part b)) s) =
      figure s + (l.map fun b ↦ figure (part b)).sum := by
  induction l generalizing s with
  | nil => rw [List.foldl_nil, List.map_nil, List.sum_nil, add_zero]
  | cons b l ih => rw [List.foldl_cons, ih, hplus, List.map_cons, List.sum_cons, add_assoc]

theorem Signed.foldl_plus {β : Type*} {part : β → CategoryTotals} (hpart : ∀ b, (part b).Signed)
    (l : List β) {s : CategoryTotals} (h : s.Signed) :
    (l.foldl (fun s b ↦ s.plus (part b)) s).Signed := by
  induction l generalizing s with
  | nil => exact h
  | cons b l ih => exact ih (h.plus (hpart b))

theorem Signed.foldl_add {α : Type*} (category : α → BalanceCategory) (balance : α → Decimal)
    (l : List α) {s : CategoryTotals} (h : s.Signed) :
    (l.foldl (fun s a ↦ s.add (category a) (balance a)) s).Signed := by
  induction l generalizing s with
  | nil => exact h
  | cons a l ih => exact ih (h.add (category a) (balance a))

end CategoryTotals

/-! ### The response -/

theorem signed_bankSums (accounts : List LatestMapValue) : (bankSums accounts).Signed :=
  CategoryTotals.signed_zero.foldl_add _ _ accounts

/-- The overall sums of a response. -/
def overallSums (banks : List (String × List LatestMapValue)) : CategoryTotals :=
  banks.foldl (fun s bank ↦ s.plus (bankSums bank.2)) CategoryTotals.zero

theorem signed_overallSums (banks : List (String × List LatestMapValue)) :
    (overallSums banks).Signed :=
  CategoryTotals.Signed.foldl_plus (fun bank : String × List LatestMapValue ↦
    signed_bankSums bank.2) banks CategoryTotals.signed_zero

/-- Whatever adds up over two institutions adds up over all of them. -/
theorem overallSums_eq_sum (figure : CategoryTotals → Decimal)
    (hzero : figure CategoryTotals.zero = 0)
    (hplus : ∀ s t : CategoryTotals, figure (s.plus t) = figure s + figure t)
    (banks : List (String × List LatestMapValue)) :
    figure (overallSums banks) = (banks.map fun bank ↦ figure (bankSums bank.2)).sum := by
  rw [overallSums, CategoryTotals.foldl_plus figure hplus, hzero, zero_add]

/-- **The balances overview is consistent**, for every store, every user and every filter: each
category total of the whole is the sum of those of the institutions, liabilities never count as
positive, and the net and the ratio are those of the sums they are shown with. -/
theorem overview_consistent (L : Locale) (db : Store) (userId : Uuid)
    (filteredAccountIds : Option (List Uuid)) :
    (getAuthenticatedBalancesOverview L db userId filteredAccountIds).Consistent := by
  have hsum : ∀ (figure : CategoryTotals → Decimal), figure CategoryTotals.zero = 0 →
      (∀ s t : CategoryTotals, figure (s.plus t) = figure s + figure t) →
      figure (overallSums (latestMap L db userId filteredAccountIds)) =
        ((latestMap L db userId filteredAccountIds).map fun bank ↦
          figure (bankSums bank.2)).sum :=
    fun figure hzero hplus ↦ overallSums_eq_sum figure hzero hplus _
  refine ⟨(signed_overallSums _).consistent, fun bank hbank ↦ ?_, ?_, ?_, ?_, ?_, ?_⟩
  · obtain ⟨accounts, -, rfl⟩ := List.mem_map.1 hbank
    exact (signed_bankSums accounts.2).consistent
  · rw [getAuthenticatedBalancesOverview, List.map_map]
    exact hsum CategoryTotals.cash rfl fun _ _ ↦ rfl
  · rw [getAuthenticatedBalancesOverview, List.map_map]
    exact hsum CategoryTotals.credit rfl fun _ _ ↦ rfl
  · rw [getAuthenticatedBalancesOverview, List.map_map]
    exact hsum CategoryTotals.loan rfl fun _ _ ↦ rfl
  · rw [getAuthenticatedBalancesOverview, List.map_map]
    exact hsum CategoryTotals.investments rfl fun _ _ ↦ rfl
  · rw [getAuthenticatedBalancesOverview, List.map_map]
    exact hsum CategoryTotals.property rfl fun _ _ ↦ rfl

end Sumurai
