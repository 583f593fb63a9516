import Sumurai.Frontend.CashBalance
import Sumurai.Frontend.SpelledMajors

/-!
# What the diagram makes of transfers

`isSpendingExcludedCategory` knows the transfers, the card payments and the movements of investments
by the keys of their categories, and the spending side leaves them out. `computeSankeyData` passes
over what resolves to `Transfer`, and what has a detailed category that says so; of the rest, money
in on a depository account is income (`neutral_iff`).
-/

namespace Sumurai.Frontend

open Text

variable (M : CaseMapping)

/-- The category of the transaction is excluded from spending, and not for being one of income. -/
structure IsMovement (t : Transaction) : Prop where
  excluded : isSpendingExcludedCategory M (rawCategory t) = true
  resolved : resolveMajorCategory M (rawCategory t) [] ∉ ["Earned Income", "Tax Refund"]
  key : asciiKey (M.lowerCase (trim (rawCategory t).toList)) ∉
    ["income".toList, "paycheck".toList, "bonus".toList]

/-- The totals, the savings and the graph are the same. -/
structure SameFigures (r r' : SankeyCalculationResult) : Prop where
  totalInflow : r.stats.totalInflow = r'.stats.totalInflow
  totalOutflow : r.stats.totalOutflow = r'.stats.totalOutflow
  netSavings : r.stats.netSavings = r'.stats.netSavings
  nodes : r.nodes = r'.nodes
  links : r.links = r'.links

/-- Wherever it comes or is taken out, the transaction changes nothing. -/
def IsNeutral (t : Transaction) : Prop :=
  ∀ before after includeSubcategories, ∃ r r',
    computeSankeyData M (before ++ t :: after) includeSubcategories = some r ∧
      computeSankeyData M (before ++ after) includeSubcategories = some r' ∧ SameFigures r r'

/-! ### Keys of categories -/

section Keys

variable {M}

/-- What a name mentions is in its key. -/
theorem infix_asciiKey_of_mentions {name part : String} (h : mentions M name part = true)
    (hpart : asciiKey part.toList = part.toList) :
    part.toList <:+: asciiKey (M.lowerCase (trim name.toList)) := by
  rw [asciiKey_lowerCase_trim, ← hpart]
  exact (of_decide_eq_true h : part.toList <:+: M.lowerCase name.toList).filter _

end Keys

/-! ### The diagram and movements -/

section Movements

variable {M} {t : Transaction}

theorem income_majors_mem : ∀ major ∈ ["Earned Income", "Tax Refund"],
    ∃ cat ∈ CATEGORIES_TAXONOMY, cat.name = major := by
  decide +kernel

theorem lowerCase_resolved_iff {major : String}
    (hmajor : ∃ cat ∈ CATEGORIES_TAXONOMY, cat.name = major) (name : String) :
    M.lowerCase (resolveMajorCategory M name []).toList = lowered major ↔
      resolveMajorCategory M name [] = major := by
  obtain ⟨cat, hcat, rfl⟩ := hmajor
  rw [← lowerCase_eq_lowered M (taxonomy_isAscii cat hcat).1,
    lowerCase_resolveMajorCategory_iff M hcat]

/-- The keys that are excluded as movements say nothing of an income. -/
theorem movement_keys : ∀ key ∈ ["creditcardbill".toList, "creditcardbills".toList,
    "creditcardpayment".toList, "creditcardpayments".toList, "investment".toList,
    "investments".toList, "transferin".toList, "transferout".toList,
    "loanpaymentscreditcardpayment".toList, "income".toList, "transfer".toList,
    "transferexcludefrombudget".toList, "cashspendingtransfer".toList, "cryptodeposit".toList,
    "cryptoother".toList, "cryptowithdrawal".toList, "investmentdeposit".toList,
    "investmentwithdrawal".toList, "mortgagepayment".toList, "othertransfer".toList,
    "paycheck".toList, "bonus".toList],
    key ∉ ["income".toList, "paycheck".toList, "bonus".toList] →
      ∀ part ∈ ["income", "paycheck", "salary", "bonus"], ¬part.toList <:+: key := by
  decide +kernel

theorem parts_keys : ∀ part ∈ ["income", "paycheck", "salary", "bonus"],
    asciiKey part.toList = part.toList := by
  decide +kernel

/-- A movement that is not passed over has one of the keys. -/
theorem IsMovement.not_mentions (h : IsMovement M t) (hincluded : isIncluded M t = true)
    {part : String} (hpart : part ∈ ["income", "paycheck", "salary", "bonus"]) :
    mentions M (rawCategory t) part = false := by
  have htransfer : resolveMajorCategory M (rawCategory t) [] ≠ "Transfer" := fun hresolved ↦ by
    refine (isIncluded_iff.1 hincluded).2 (Bool.or_eq_true_iff.2 (Or.inl ?_))
    rw [decide_eq_true_iff, hresolved]
    exact lowerCase_eq_lowered M (by decide +kernel)
  obtain ⟨-, hexcluded⟩ := Bool.and_eq_true_iff.1 h.excluded
  obtain hresolved | hkey := Bool.or_eq_true_iff.1 hexcluded
  · obtain hresolved | hresolved := List.mem_cons.1 (of_decide_eq_true hresolved)
    · exact absurd hresolved htransfer
    · refine absurd ?_ h.resolved
      obtain hrefund | hearned := List.mem_cons.1 hresolved
      · exact List.mem_cons_of_mem _ (List.mem_singleton.2 hrefund)
      · exact List.mem_cons.2 (Or.inl (List.mem_singleton.1 hearned))
  · refine Bool.eq_false_iff.2 fun hmentions ↦ ?_
    exact movement_keys _ (of_decide_eq_true hkey) h.key part hpart
      (infix_asciiKey_of_mentions hmentions (parts_keys part hpart))

/-- No movement is taken for income by its category. -/
theorem IsMovement.hasIncomeCategory_eq_false (h : IsMovement M t)
    (hincluded : isIncluded M t = true) : hasIncomeCategory M t = false := by
  have hmajors : ∀ major ∈ ["Earned Income", "Tax Refund"],
      M.lowerCase (resolveMajorCategory M (rawCategory t) []).toList ≠ lowered major := by
    intro major hmajor hlowered
    have hresolved := (lowerCase_resolved_iff (income_majors_mem major hmajor) _).1 hlowered
    exact h.resolved (hresolved ▸ hmajor)
  have hearned := hmajors "Earned Income" List.mem_cons_self
  have hrefund := hmajors "Tax Refund" (List.mem_cons_of_mem _ List.mem_cons_self)
  have hnot {part : String} (hpart : part ∈ ["income", "paycheck", "salary", "bonus"]) :=
    h.not_mentions hincluded hpart
  rw [hasIncomeCategory, isIncomeCategory, hnot (by decide), hnot (by decide), hnot (by decide),
    hnot (by decide), Bool.or_false, Bool.or_false, Bool.or_false, Bool.or_false,
    Bool.or_eq_false_iff]
  exact ⟨decide_eq_false hearned, decide_eq_false hrefund⟩

/-- No movement is spending. -/
theorem IsMovement.isSpendingTransaction_eq_false (h : IsMovement M t) :
    isSpendingTransaction M t = false := by
  have hexcluded : hasExcludedCategory M t = true := by
    have hraw := h.excluded
    rw [rawCategory] at hraw
    rw [hasExcludedCategory]
    cases hcustom : t.customCategory with
    | some custom =>
      rw [hcustom] at hraw
      rw [Option.getD_some, show isSpendingExcludedCategory M custom = true from hraw,
        Bool.or_true, Bool.true_or]
    | none =>
      cases hrule : t.ruleCategory with
      | some rule =>
        rw [hcustom, hrule] at hraw
        rw [Option.getD_some, show isSpendingExcludedCategory M rule = true from hraw,
          Bool.or_true]
      | none =>
        rw [hcustom, hrule] at hraw
        rw [show isSpendingExcludedCategory M t.category.primary = true from hraw, Bool.true_or,
          Bool.true_or, Bool.true_or]
  rw [isSpendingTransaction, isTransactionCategoryExcluded, hexcluded, Bool.true_or]
  exact Bool.and_false _

/-- Money that came in on a depository account. -/
def IsDeposit (M : CaseMapping) (t : Transaction) : Prop :=
  isDepositoryAccount M t = true ∧ 0 < getDisplayAmount M t

theorem IsMovement.addTransaction_eq_self (h : IsMovement M t)
    (hnot : isIncluded M t = false ∨ ¬IsDeposit M t) (flows : CashFlows) :
    addTransaction M flows t = flows := by
  rw [addTransaction_eq]
  cases hincluded : isIncluded M t with
  | false => rfl
  | true =>
    have hdeposit : isDepositoryInflow M t = false := Bool.eq_false_iff.2 fun hinflow ↦
      hnot.resolve_left (by rw [hincluded]; exact nofun) (isDepositoryInflow_iff.1 hinflow)
    rw [h.hasIncomeCategory_eq_false hincluded, hdeposit, h.isSpendingTransaction_eq_false]
    rfl

/-- What the loop passes over makes no difference. -/
theorem isNeutral_of_addTransaction (h : ∀ flows, addTransaction M flows t = flows) :
    IsNeutral M t := by
  intro before after includeSubcategories
  obtain ⟨result, hresult, -⟩ := exists_drawing M (before ++ after) includeSubcategories
  have hflows : cashFlows M (before ++ t :: after) = cashFlows M (before ++ after) := by
    simp only [cashFlows, List.foldl_append, List.foldl_cons, h]
  refine ⟨result, result, ?_, hresult, ⟨rfl, rfl, rfl, rfl, rfl⟩⟩
  rw [← hresult, computeSankeyData, computeSankeyData, hflows]

/-- A deposit that is not passed over is an inflow. -/
theorem totalInflow_of_isDeposit (hincluded : isIncluded M t = true) (hdeposit : IsDeposit M t) :
    (cashFlows M [t]).totalInflow = getDisplayAmount M t := by
  rw [cashFlows, List.foldl_cons, List.foldl_nil, addTransaction_eq, if_pos hincluded, if_pos]
  · exact (zero_add _).trans (abs_of_pos hdeposit.2)
  · rw [isDepositoryInflow_iff.2 hdeposit, Bool.or_true, Bool.true_and]
    exact decide_eq_true hdeposit.2.ne'

theorem not_isNeutral_of_isDeposit (hincluded : isIncluded M t = true) (hdeposit : IsDeposit M t) :
    ¬IsNeutral M t := by
  intro hneutral
  obtain ⟨r, r', hr, hr', hsame⟩ := hneutral [] [] none
  obtain ⟨result, hresult, hstats, -⟩ := exists_drawing M [t] none
  obtain ⟨result', hresult', hstats', -⟩ := exists_drawing M [] none
  obtain rfl := Option.some.inj (hr.symm.trans hresult)
  obtain rfl := Option.some.inj (hr'.symm.trans hresult')
  have htotal := hsame.totalInflow
  rw [hstats, hstats'] at htotal
  have hnone : (cashFlows M [t]).totalInflow = 0 := htotal
  rw [totalInflow_of_isDeposit hincluded hdeposit] at hnone
  exact hdeposit.2.ne' hnone

/-- A category that is excluded by its key, and what it resolves to. -/
theorem isMovement_of_key {resolved : String} (hne : rawCategory t ≠ "")
    (hresolved : resolveMajorCategory M (rawCategory t) [] = resolved)
    (hnot : resolved ∉ ["Earned Income", "Tax Refund"])
    (hkey : asciiKey (M.lowerCase (trim (rawCategory t).toList)) ∈
      ["creditcardpayment".toList, "transferin".toList]) : IsMovement M t where
  excluded := by
    refine Bool.and_eq_true_iff.2 ⟨decide_eq_true hne, Bool.or_eq_true_iff.2 (Or.inr ?_)⟩
    obtain hcard | htransfer := List.mem_cons.1 hkey
    · rw [hcard]
      decide +kernel
    · rw [List.mem_singleton.1 htransfer]
      decide +kernel
  resolved := hresolved ▸ hnot
  key := by
    obtain hcard | htransfer := List.mem_cons.1 hkey
    · rw [hcard]
      decide +kernel
    · rw [List.mem_singleton.1 htransfer]
      decide +kernel

end Movements

/-- **When a transfer is neutral.** A transaction that is excluded from spending as a transfer, a
card payment or a movement of investments changes nothing in any list, exactly when it is pending,
recognised as a transfer by the diagram, or not money in on a depository account. -/
theorem isNeutral_iff (t : Transaction) (h : IsMovement M t) : IsNeutral M t ↔
    t.pending = some true ∨
      isTransferFlow M t (resolveMajorCategory M (rawCategory t) []) = true ∨ ¬IsDeposit M t := by
  have hnot : isIncluded M t = false ↔ t.pending = some true ∨
      isTransferFlow M t (resolveMajorCategory M (rawCategory t) []) = true := by
    rw [← Bool.not_eq_true, isIncluded_iff, not_and_or, not_not, not_not]
  rw [← or_assoc, ← hnot]
  refine ⟨fun hneutral ↦ ?_, fun hcases ↦
    isNeutral_of_addTransaction (h.addTransaction_eq_self hcases)⟩
  refine or_iff_not_imp_left.2 fun hincluded hdeposit ↦ ?_
  exact not_isNeutral_of_isDeposit ((Bool.not_eq_false _).mp hincluded) hdeposit hneutral

theorem isNeutral_iff_cardPayment :
    IsMovement simpleCase (postedTransaction "credit" "CREDIT_CARD_PAYMENT" (-5000)) ∧
      IsNeutral simpleCase (postedTransaction "credit" "CREDIT_CARD_PAYMENT" (-5000)) := by
  have hresolved : resolveMajorCategory simpleCase
      (rawCategory (postedTransaction "credit" "CREDIT_CARD_PAYMENT" (-5000))) [] =
        "Credit Card Payment" := by
    decide +kernel
  have hmovement : IsMovement simpleCase
      (postedTransaction "credit" "CREDIT_CARD_PAYMENT" (-5000)) :=
    isMovement_of_key (by decide) hresolved (by decide) (by decide +kernel)
  refine ⟨hmovement, (isNeutral_iff simpleCase _ hmovement).2 (Or.inr (Or.inr ?_))⟩
  rintro ⟨haccount, -⟩
  exact absurd haccount (by decide +kernel)

/-- **A transfer into an account** of 500.00 is an income of 500.00. -/
theorem transferIn_not_neutral :
    IsMovement simpleCase (postedTransaction "checking" "TRANSFER_IN" (-50000)) ∧
      (cashFlows simpleCase [postedTransaction "checking" "TRANSFER_IN" (-50000)]).totalInflow =
        50000 ∧
      ¬IsNeutral simpleCase (postedTransaction "checking" "TRANSFER_IN" (-50000)) := by
  have hresolved : resolveMajorCategory simpleCase
      (rawCategory (postedTransaction "checking" "TRANSFER_IN" (-50000))) [] = "Transfer In" := by
    decide +kernel
  have hincluded : isIncluded simpleCase (postedTransaction "checking" "TRANSFER_IN" (-50000)) =
      true := by
    rw [isIncluded, hresolved]
    decide +kernel
  have hdeposit : IsDeposit simpleCase (postedTransaction "checking" "TRANSFER_IN" (-50000)) :=
    ⟨by decide +kernel, by decide +kernel⟩
  exact ⟨isMovement_of_key (by decide) hresolved (by decide) (by decide +kernel),
    (totalInflow_of_isDeposit hincluded hdeposit).trans (by decide +kernel),
    not_isNeutral_of_isDeposit hincluded hdeposit⟩

end Sumurai.Frontend
