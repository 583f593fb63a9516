import Mathlib.Algebra.Order.BigOperators.Group.List
import Sumurai.Foundations.Words
import Sumurai.Frontend.CategoryAgreement
import Sumurai.Frontend.Sankey

/-!
# The flows of the diagram

What the loop over the transactions leaves in its accumulators: the totals are the sums of their
parts, every part is positive, and the names are told apart by the `Map`s they are keys of
(`isConsistent_cashFlows`).

The ids of the nodes are made of these names with underscores between them. No name has an
underscore of its own: each comes from `formatCategoryName`, which splits at underscores, or from
the taxonomy. Nor is a subcategory ever named `Other`, which is the name that the small ones are
grouped under.
-/

namespace Sumurai.Frontend

open Text

variable (M : CaseMapping)

/-! ### Names -/

theorem underscore_notMem_lower {c : Char} (hc : c ≠ '_') : '_' ∉ M.lower c := by
  obtain ⟨hascii, hlower⟩ | ⟨-, hlower⟩ | ⟨-, hlower⟩ | ⟨-, hlower⟩ := M.lower_cases c
  · have hall : c ≠ '_' → '_' ∉ [c.toLower] :=
      forall_ascii (P := fun c ↦ c ≠ '_' → '_' ∉ [c.toLower]) (by decide) hascii
    rw [hlower]
    exact hall hc
  · rw [hlower]
    decide
  · rw [hlower]
    decide
  · exact fun hmem ↦ absurd (hlower '_' hmem) (by decide)

theorem underscore_notMem_upper {c : Char} (hc : c ≠ '_') : '_' ∉ M.upper c := by
  rcases Nat.lt_or_ge c.toNat 128 with hascii | hother
  · have hall : c ≠ '_' → '_' ∉ [c.toUpper] :=
      forall_ascii (P := fun c ↦ c ≠ '_' → '_' ∉ [c.toUpper]) (by decide) hascii
    rw [M.upper_ascii c hascii]
    exact hall hc
  · exact fun hmem ↦ absurd (M.upper_other c hother '_' hmem) (by decide)

theorem underscore_notMem_lowerCase {s : List Char} (hs : '_' ∉ s) : '_' ∉ M.lowerCase s := by
  intro hmem
  obtain ⟨c, hc, hmem⟩ := List.mem_flatMap.1 hmem
  exact underscore_notMem_lower M (fun h ↦ hs (h ▸ hc)) hmem

theorem underscore_notMem_capitalize {word : List Char} (hword : '_' ∉ word) :
    '_' ∉ capitalize M word := by
  cases word with
  | nil => exact List.not_mem_nil
  | cons c word =>
    rw [List.mem_cons, not_or] at hword
    intro hmem
    obtain hmem | hmem := List.mem_append.1 hmem
    · exact underscore_notMem_upper M (Ne.symm hword.1) hmem
    · exact underscore_notMem_lowerCase M hword.2 hmem

theorem underscore_notMem_words {s word : List Char} (hword : word ∈ words s) : '_' ∉ word := by
  intro hmem
  have hfalse := eq_false_of_mem_splitOnP (List.mem_filter.1 hword).1 hmem
  exact absurd hfalse (by decide)

/-- **A formatted name has no underscore.** -/
theorem underscore_notMem_formatCategoryName (s : String) :
    '_' ∉ (formatCategoryName M s).toList := by
  have hshopping : '_' ∉ "Shopping".toList := by decide
  unfold formatCategoryName
  split
  · exact hshopping
  simp only
  split
  · exact hshopping
  split
  · exact hshopping
  rw [String.toList_ofList]
  refine notMem_intercalate (by decide) fun part hpart ↦ ?_
  obtain ⟨word, hword, rfl⟩ := List.mem_map.1 hpart
  exact underscore_notMem_capitalize M (underscore_notMem_words hword)

/-- No formatted name is `Other`. -/
theorem formatCategoryName_ne_other (s : String) : formatCategoryName M s ≠ "Other" := by
  unfold formatCategoryName
  split
  · decide
  simp only
  split
  · decide
  split
  · decide
  rename_i hother
  intro heq
  refine hother (Or.inr ?_)
  rw [← String.toList_ofList (l := [' '].intercalate _), heq,
    M.lowerCase_of_isAscii (by decide)]
  decide

/-- **A major category has no underscore.** -/
theorem underscore_notMem_resolveMajorCategory (c : String) :
    '_' ∉ (resolveMajorCategory M c []).toList := by
  have hshopping : '_' ∉ "Shopping".toList := by decide
  have hbills : '_' ∉ "Bills & Utilities".toList := by decide
  have hmajors : ∀ cat ∈ CATEGORIES_TAXONOMY, '_' ∉ cat.name.toList := by decide +kernel
  have hmajor {found : Option CategoryDefinition}
      (hfound : ∀ cat ∈ found, cat ∈ CATEGORIES_TAXONOMY)
      {name : String} (hname : '_' ∉ name.toList) :
      '_' ∉ ((found.map fun cat ↦ cat.name).getD name).toList := by
    cases found with
    | some cat => exact hmajors cat (hfound cat rfl)
    | none => exact hname
  have hfind (text : List Char) : ∀ cat ∈ findMajor M text, cat ∈ CATEGORIES_TAXONOMY :=
    fun cat hcat ↦ List.mem_of_find?_eq_some hcat
  rw [resolveMajorCategory_nil]
  simp only
  split
  · exact hshopping
  split
  · exact hbills
  split
  · decide
  split
  · exact hshopping
  split
  · decide
  split
  · exact hshopping
  refine hmajor (fun cat hcat ↦ ?_) ?_
  · rw [Option.mem_def, Option.or_eq_some_iff] at hcat
    obtain hcat | ⟨-, hcat⟩ := hcat
    · exact List.mem_of_find?_eq_some hcat
    · exact List.mem_of_find?_eq_some hcat
  split
  · exact hmajor (hfind _) hshopping
  split
  · exact hbills
  unfold spelledMajor
  simp only
  split
  · exact hshopping
  · exact hmajor (hfind _) (underscore_notMem_formatCategoryName M _)

/-! ### The accumulators -/

/-- Named amounts, each positive, with distinct names and a given sum. -/
structure IsSplitOf (amounts : List (String × Decimal)) (total : Decimal) : Prop where
  nodup : (amounts.map Prod.fst).Nodup
  pos : ∀ entry ∈ amounts, 0 < entry.2
  sum_eq : (amounts.map Prod.snd).sum = total

/-- The subcategories make up the category, and none of them is named `Other`. -/
structure CategoryOutflow.IsSplit (category : CategoryOutflow) : Prop extends
    IsSplitOf category.subcategories category.total where
  ne_other : ∀ sub ∈ category.subcategories, sub.1 ≠ "Other"

/-- The totals are made up of their parts, under names without underscores. -/
structure CashFlows.IsConsistent (flows : CashFlows) : Prop where
  inflows : IsSplitOf flows.inflowBySource flows.totalInflow
  source_names : ∀ source ∈ flows.inflowBySource, '_' ∉ source.1.toList
  categories_nodup : (flows.outflowByCategory.map Prod.fst).Nodup
  categories_sum : (flows.outflowByCategory.map fun entry ↦ entry.2.total).sum = flows.totalOutflow
  categories : ∀ entry ∈ flows.outflowByCategory,
    '_' ∉ entry.1.toList ∧ 0 < entry.2.total ∧ entry.2.IsSplit

theorem isSplitOf_nil : IsSplitOf [] 0 :=
  ⟨List.nodup_nil, fun _ h ↦ absurd h List.not_mem_nil, rfl⟩

theorem IsSplitOf.total_nonneg {amounts : List (String × Decimal)} {total : Decimal}
    (h : IsSplitOf amounts total) : 0 ≤ total := by
  rw [← h.sum_eq]
  refine List.sum_nonneg fun amount hamount ↦ ?_
  obtain ⟨entry, hentry, rfl⟩ := List.mem_map.1 hamount
  exact (h.pos entry hentry).le

/-- One more amount. -/
theorem IsSplitOf.addTo {amounts : List (String × Decimal)} {total : Decimal}
    (h : IsSplitOf amounts total) (name : String) {amount : Decimal} (hamount : 0 < amount) :
    IsSplitOf (AssocMap.addTo name amount amounts) (total + amount) where
  nodup := by
    rw [AssocMap.map_fst_addTo]
    exact AssocMap.addKey_nodup h.nodup
  pos entry hentry := by
    obtain rfl | hmem | ⟨amount', hmem, rfl⟩ := AssocMap.mem_addTo hentry
    · exact hamount
    · exact h.pos entry hmem
    · exact add_pos (h.pos _ hmem) hamount
  sum_eq := by
    rw [AssocMap.sum_addTo, h.sum_eq]

theorem forall_names_addTo {P : String → Prop} {amounts : List (String × Decimal)}
    (h : ∀ entry ∈ amounts, P entry.1) {name : String} (hname : P name) (amount : Decimal) :
    ∀ entry ∈ AssocMap.addTo name amount amounts, P entry.1 := by
  intro entry hentry
  obtain rfl | hmem | ⟨amount', -, rfl⟩ := AssocMap.mem_addTo hentry
  · exact hname
  · exact h entry hmem
  · exact hname

namespace CashFlows.IsConsistent

variable {flows : CashFlows}

theorem empty : CashFlows.empty.IsConsistent where
  inflows := isSplitOf_nil
  source_names _ h := absurd h List.not_mem_nil
  categories_nodup := List.nodup_nil
  categories_sum := rfl
  categories _ h := absurd h List.not_mem_nil

theorem totalOutflow_nonneg (h : flows.IsConsistent) : 0 ≤ flows.totalOutflow := by
  rw [← h.categories_sum]
  refine List.sum_nonneg fun amount hamount ↦ ?_
  obtain ⟨entry, hentry, rfl⟩ := List.mem_map.1 hamount
  exact (h.categories entry hentry).2.1.le

/-- One more inflow. -/
theorem addInflow (h : flows.IsConsistent) {name : String} (hname : '_' ∉ name.toList)
    {amount : Decimal} (hamount : 0 < amount) : (flows.addInflow name amount).IsConsistent :=
  { h with
    inflows := h.inflows.addTo name hamount
    source_names := forall_names_addTo (P := fun name ↦ '_' ∉ name.toList) h.source_names hname
      amount }

/-- One more outflow. -/
theorem addOutflow (h : flows.IsConsistent) {catKey subName : String} (hkey : '_' ∉ catKey.toList)
    (hname : subName ≠ "Other") {amount : Decimal} (hamount : 0 < amount) :
    (flows.addOutflow catKey subName amount).IsConsistent := by
  -- the entry so far, or a new one
  have hold : ((flows.outflowByCategory.lookup catKey).getD
      { total := 0, subcategories := [] }).IsSplit := by
    cases hlookup : flows.outflowByCategory.lookup catKey with
    | none => exact ⟨isSplitOf_nil, fun _ h ↦ absurd h List.not_mem_nil⟩
    | some category =>
      exact (h.categories _ (AssocMap.mem_of_lookup_eq_some hlookup)).2.2
  exact
    { h with
      categories_nodup := by
        rw [CashFlows.addOutflow, AssocMap.modifyOrDefault, AssocMap.map_fst_insert]
        exact AssocMap.addKey_nodup h.categories_nodup
      categories_sum := by
        rw [CashFlows.addOutflow,
          AssocMap.sum_modifyOrDefault CategoryOutflow.total rfl fun _ ↦ rfl, h.categories_sum]
      categories := fun entry hentry ↦ by
        obtain rfl | hmem := AssocMap.mem_insert hentry
        · exact ⟨hkey, add_pos_of_nonneg_of_pos hold.total_nonneg hamount,
            hold.toIsSplitOf.addTo subName hamount,
            forall_names_addTo (P := fun name ↦ name ≠ "Other") hold.ne_other hname amount⟩
        · exact h.categories entry hmem }

end CashFlows.IsConsistent

/-- One step of the loop. -/
theorem isConsistent_addTransaction {flows : CashFlows} (h : flows.IsConsistent)
    (t : Transaction) : (addTransaction M flows t).IsConsistent := by
  unfold addTransaction
  simp only
  generalize |if 0 < getDisplayAmount M t then getDisplayAmount M t else t.amount| = inflowAmt
  split
  · exact h
  split
  · exact h
  split
  · rename_i hinflow
    have hamount := (Bool.and_eq_true_iff.1 hinflow).2
    exact h.addInflow (underscore_notMem_formatCategoryName M _) (of_decide_eq_true hamount)
  split
  · rename_i hspend
    have hamount := (Bool.and_eq_true_iff.1 hspend).2
    exact h.addOutflow (underscore_notMem_resolveMajorCategory M _)
      (formatCategoryName_ne_other M _) (of_decide_eq_true hamount)
  · exact h

/-- **The accumulators after the loop.** -/
theorem isConsistent_cashFlows (transactions : List Transaction) :
    (cashFlows M transactions).IsConsistent := by
  have hloop {flows : CashFlows} (h : flows.IsConsistent) :
      (transactions.foldl (addTransaction M) flows).IsConsistent := by
    induction transactions generalizing flows with
    | nil => exact h
    | cons t transactions ih => exact ih (isConsistent_addTransaction M h t)
  exact hloop CashFlows.IsConsistent.empty

/-! ### Minor subcategories -/

/-- Some of the amounts as one. -/
theorem isSplitOf_grouped {subs : List (String × Decimal)} {total : Decimal}
    (h : IsSplitOf subs total) (hother : ∀ sub ∈ subs, sub.1 ≠ "Other")
    (isMinor : String × Decimal → Bool) (hpos : 0 < ((subs.filter isMinor).map Prod.snd).sum) :
    IsSplitOf (((subs.filter fun sub ↦ !isMinor sub) ++
      [("Other", ((subs.filter isMinor).map Prod.snd).sum)]).insertionSort
        (OrderBy.desc Prod.snd)) total := by
  have hperm := List.perm_insertionSort (OrderBy.desc Prod.snd)
    ((subs.filter fun sub ↦ !isMinor sub) ++
      [("Other", ((subs.filter isMinor).map Prod.snd).sum)])
  refine ⟨(hperm.map Prod.fst).nodup_iff.2 ?_, fun sub hsub ↦ ?_, ?_⟩
  · rw [List.map_append, List.nodup_append]
    refine ⟨h.nodup.sublist (List.filter_sublist.map Prod.fst), List.nodup_singleton _, ?_⟩
    intro name hname other hname'
    obtain ⟨sub, hsub, rfl⟩ := List.mem_map.1 hname
    rw [List.mem_singleton.1 hname']
    exact hother sub (List.mem_filter.1 hsub).1
  · obtain hsub | hsub := List.mem_append.1 (hperm.mem_iff.1 hsub)
    · exact h.pos sub (List.mem_filter.1 hsub).1
    · rw [List.mem_singleton.1 hsub]
      exact hpos
  · have hparts := (List.filter_append_perm isMinor subs).map Prod.snd
    rw [(hperm.map Prod.snd).sum_eq, ← h.sum_eq, ← hparts.sum_eq]
    simp only [List.map_append, List.sum_append, List.map_singleton, List.sum_singleton]
    exact add_comm _ _

/-- The subcategories of a category after the small ones have been grouped. -/
theorem isSplitOf_groupMinorSubcategories {subs : List (String × Decimal)} {total : Decimal}
    (h : IsSplitOf subs total) (hother : ∀ sub ∈ subs, sub.1 ≠ "Other")
    (categoryTotal thresholdAmount : Decimal) (thresholdPct : ℤ) :
    IsSplitOf (groupMinorSubcategories subs categoryTotal thresholdAmount thresholdPct) total := by
  unfold groupMinorSubcategories
  split
  · exact h
  simp only
  split
  · rename_i hgrouped
    exact isSplitOf_grouped h hother _ hgrouped.2
  · exact h

/-- **The subcategories that are shown** add up to the category. -/
theorem isSplitOf_sortedSubs {category : CategoryOutflow} (h : category.IsSplit) :
    IsSplitOf (sortedSubs category) category.total := by
  have hperm := List.perm_insertionSort (OrderBy.desc Prod.snd) category.subcategories
  refine isSplitOf_groupMinorSubcategories ⟨(hperm.map Prod.fst).nodup_iff.2 h.nodup, ?_, ?_⟩
    (fun sub hsub ↦ h.ne_other sub (hperm.mem_iff.1 hsub)) category.total 3000 5
  · exact fun sub hsub ↦ h.pos sub (hperm.mem_iff.1 hsub)
  · rw [(hperm.map Prod.snd).sum_eq, h.sum_eq]

end Sumurai.Frontend
