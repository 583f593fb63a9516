import Sumurai.Foundations.Flows
import Sumurai.Frontend.SankeyFlows

/-!
# What the diagram shows

The diagram without its drawing: which nodes there are, by what they stand for, and what flows
between them. A chart is put together from the accumulators, part by part, and its flows are
conserved: what comes into the hub goes out of it, and what comes into a category goes out to its
subcategories.
-/

namespace Sumurai.Frontend

open PartialSums

/-! ### Nodes -/

/-- A node, by what it stands for. -/
inductive NodeKey where
  | totalIncome
  | totalSpending
  | source (name : String)
  | fromSavings
  | category (name : String)
  | subcategory (catName subName : String)
  | netSavings
deriving DecidableEq, Repr

/-- From left to right. -/
def CategoryType.layer : CategoryType → ℕ
  | .inflow => 0
  | .deficit => 0
  | .hub => 1
  | .outflow => 2
  | .savings => 2
  | .subcategory => 3

namespace NodeKey

/-- The id of the node. -/
def id : NodeKey → String
  | totalIncome => "hub_total_income"
  | totalSpending => "hub_total_spending"
  | source name => "inflow_" ++ name
  | fromSavings => "inflow_from_savings"
  | category name => "cat_" ++ name
  | subcategory catName subName => "sub_" ++ catName ++ "_" ++ subName
  | netSavings => "savings_net"

/-- The kind of the node. -/
def categoryType : NodeKey → CategoryType
  | totalIncome => .hub
  | totalSpending => .hub
  | source _ => .inflow
  | fromSavings => .deficit
  | category _ => .outflow
  | subcategory _ _ => .subcategory
  | netSavings => .savings

/-- The names within the id, but for the last one, have no underscore, nor has the name of a
source. -/
def IsPlain : NodeKey → Prop
  | source name => '_' ∉ name.toList
  | subcategory catName _ => '_' ∉ catName.toList
  | _ => True

/-- The first characters of the id. -/
def tag : NodeKey → List Char
  | totalIncome => ['h', 'u', 'b']
  | totalSpending => ['h', 'u', 'b']
  | source _ => ['i', 'n', 'f']
  | fromSavings => ['i', 'n', 'f']
  | category _ => ['c', 'a', 't']
  | subcategory _ _ => ['s', 'u', 'b']
  | netSavings => ['s', 'a', 'v']

theorem take_toList_id (k : NodeKey) : k.id.toList.take 3 = k.tag := by
  cases k with
  | totalIncome => decide
  | totalSpending => decide
  | source name => rw [id, String.toList_append]; rfl
  | fromSavings => decide
  | category name => rw [id, String.toList_append]; rfl
  | subcategory catName subName =>
    rw [id, String.toList_append, String.toList_append, String.toList_append]; rfl
  | netSavings => decide

theorem eq_of_append_eq {s t u : String} (h : s ++ t = s ++ u) : t = u := by
  have hlist := congrArg String.toList h
  rw [String.toList_append, String.toList_append] at hlist
  exact String.toList_injective (List.append_cancel_left hlist)

/-- Two texts are the same before and after their first separator. -/
theorem append_cons_inj {c : Char} {a b s t : List Char} (ha : c ∉ a) (hb : c ∉ b)
    (h : a ++ c :: s = b ++ c :: t) : a = b ∧ s = t := by
  induction a generalizing b with
  | nil =>
    cases b with
    | nil => exact ⟨rfl, (List.cons.inj h).2⟩
    | cons d b => exact absurd ((List.cons.inj h).1 ▸ List.mem_cons_self) hb
  | cons d a ih =>
    cases b with
    | nil => exact absurd ((List.cons.inj h).1 ▸ List.mem_cons_self) ha
    | cons e b =>
      obtain ⟨rfl, hrest⟩ := List.cons.inj h
      obtain ⟨rfl, hst⟩ := ih (fun hmem ↦ ha (List.mem_cons_of_mem d hmem))
        (fun hmem ↦ hb (List.mem_cons_of_mem d hmem)) hrest
      exact ⟨rfl, hst⟩

/-- **Nodes are told apart by their ids.** -/
theorem id_injective {a b : NodeKey} (ha : a.IsPlain) (hb : b.IsPlain) (h : a.id = b.id) :
    a = b := by
  have htag : a.tag = b.tag := by rw [← take_toList_id, ← take_toList_id, h]
  have hsavings {name : String} (hname : '_' ∉ name.toList)
      (heq : "inflow_" ++ name = "inflow_from_savings") : False := by
    have hfrom : "inflow_" ++ name = "inflow_" ++ "from_savings" := heq.trans (by decide)
    rw [eq_of_append_eq hfrom] at hname
    exact absurd hname (by decide)
  cases a with
  | totalIncome =>
    cases b with
    | totalIncome => rfl
    | totalSpending => exact absurd h (by decide)
    | _ => simp [tag] at htag
  | totalSpending =>
    cases b with
    | totalSpending => rfl
    | totalIncome => exact absurd h (by decide)
    | _ => simp [tag] at htag
  | source name =>
    cases b with
    | source other => rw [eq_of_append_eq h]
    | fromSavings => exact (hsavings ha h).elim
    | _ => simp [tag] at htag
  | fromSavings =>
    cases b with
    | fromSavings => rfl
    | source other => exact (hsavings hb h.symm).elim
    | _ => simp [tag] at htag
  | category name =>
    cases b with
    | category other => rw [eq_of_append_eq h]
    | _ => simp [tag] at htag
  | subcategory catName subName =>
    cases b with
    | subcategory catName' subName' =>
      have hlist := congrArg String.toList h
      simp only [id, String.toList_append, List.append_assoc] at hlist
      obtain ⟨hcat, hsub⟩ := append_cons_inj ha hb (List.append_cancel_left hlist)
      rw [String.toList_injective hcat, String.toList_injective hsub]
    | _ => simp [tag] at htag
  | netSavings =>
    cases b with
    | netSavings => rfl
    | _ => simp [tag] at htag

end NodeKey

/-! ### Charts -/

/-- The nodes of a diagram, and what flows between them. -/
structure Chart where
  keys : List NodeKey
  flows : List (NodeFlow NodeKey Decimal)

namespace Chart

/-- No nodes. -/
def empty : Chart where
  keys := []
  flows := []

/-- One chart after the other. -/
def append (c d : Chart) : Chart where
  keys := c.keys ++ d.keys
  flows := c.flows ++ d.flows

instance : Append Chart :=
  ⟨append⟩

@[simp]
theorem keys_append (c d : Chart) : (c ++ d).keys = c.keys ++ d.keys :=
  rfl

@[simp]
theorem flows_append (c d : Chart) : (c ++ d).flows = c.flows ++ d.flows :=
  rfl

theorem append_assoc (c d e : Chart) : c ++ d ++ e = c ++ (d ++ e) :=
  congrArg₂ Chart.mk (List.append_assoc _ _ _) (List.append_assoc _ _ _)

theorem append_empty (c : Chart) : c ++ empty = c :=
  congrArg₂ Chart.mk (List.append_nil _) (List.append_nil _)

/-- The charts of a list of parts. -/
def join {α : Type} (part : α → Chart) (l : List α) : Chart where
  keys := l.flatMap fun a ↦ (part a).keys
  flows := l.flatMap fun a ↦ (part a).flows

/-- A node without any flows. -/
def node (key : NodeKey) : Chart where
  keys := [key]
  flows := []

/-- A node, and what flows from it or to it. -/
def single (key : NodeKey) (flow : NodeFlow NodeKey Decimal) : Chart where
  keys := [key]
  flows := [flow]

end Chart

/-- A source of income. -/
def sourceChart (source : String × Decimal) : Chart :=
  .single (.source source.1)
    { source := .source source.1, target := .totalIncome, value := source.2 }

/-- A subcategory of a category. -/
def subcategoryChart (catName : String) (sub : String × Decimal) : Chart :=
  .single (.subcategory catName sub.1)
    { source := .category catName, target := .subcategory catName sub.1, value := sub.2 }

/-- The subcategories of a category, if they are shown. -/
def subcategoriesChart (includeSub : Bool) (category : String × CategoryOutflow) : Chart :=
  if includeSub then .join (subcategoryChart category.1) (sortedSubs category.2) else .empty

/-- A category with its subcategories. -/
def categoryChart (includeSub : Bool) (hub : NodeKey) (category : String × CategoryOutflow) :
    Chart :=
  .single (.category category.1)
      { source := hub, target := .category category.1, value := category.2.total } ++
    subcategoriesChart includeSub category

/-- What is spent beyond the income. -/
def deficitChart (netSavings : Decimal) : Chart :=
  if netSavings < 0 then
    .single .fromSavings { source := .fromSavings, target := .totalIncome, value := |netSavings| }
  else .empty

/-- What is left of the income. -/
def savingsChart (netSavings : Decimal) : Chart :=
  if 0 < netSavings then
    .single .netSavings { source := .totalIncome, target := .netSavings, value := netSavings }
  else .empty

/-- The diagram with income. -/
def incomeChart (includeSub : Bool) (flows : CashFlows) : Chart :=
  .node .totalIncome ++ .join sourceChart flows.inflowBySource ++
    deficitChart (flows.totalInflow - flows.totalOutflow) ++
      .join (categoryChart includeSub .totalIncome) (sortedCategories flows) ++
        savingsChart (flows.totalInflow - flows.totalOutflow)

/-- The diagram without income. -/
def spendingChart (includeSub : Bool) (flows : CashFlows) : Chart :=
  .node .totalSpending ++
    .join (categoryChart includeSub .totalSpending) (sortedCategories flows)

/-- The diagram, which is empty where there is nothing to show. -/
def sankeyChart (includeSub : Bool) (flows : CashFlows) : Chart :=
  if 0 < flows.totalInflow then incomeChart includeSub flows
  else if 0 < flows.totalOutflow then spendingChart includeSub flows
  else .empty

/-! ### One category -/

/-- The values of the flows of a chart that has one for each element of a list. -/
theorem Chart.values_join {α : Type} {chart : α → Chart} {value : α → Decimal} {l : List α}
    (h : ∀ a, (chart a).flows.map NodeFlow.value = [value a]) :
    (Chart.join chart l).flows.map NodeFlow.value = l.map value := by
  rw [Chart.join, List.map_flatMap, List.map_eq_flatMap]
  exact congrArg (l.flatMap ·) (funext h)

section Category

variable {includeSub : Bool} {hub : NodeKey} {category : String × CategoryOutflow}

theorem mem_subcategoriesChart_keys {k : NodeKey} :
    k ∈ (subcategoriesChart includeSub category).keys ↔
      includeSub ∧ ∃ sub ∈ sortedSubs category.2, k = .subcategory category.1 sub.1 := by
  cases includeSub with
  | true => simp [subcategoriesChart, Chart.join, subcategoryChart, Chart.single]
  | false => simp [subcategoriesChart, Chart.empty]

theorem mem_subcategoriesChart_flows {f : NodeFlow NodeKey Decimal} :
    f ∈ (subcategoriesChart includeSub category).flows ↔
      includeSub ∧ ∃ sub ∈ sortedSubs category.2, f =
        { source := .category category.1
          target := .subcategory category.1 sub.1
          value := sub.2 } := by
  cases includeSub with
  | true => simp [subcategoriesChart, Chart.join, subcategoryChart, Chart.single]
  | false => simp [subcategoriesChart, Chart.empty]

/-- What goes out to the subcategories is the total of the category. -/
theorem outOf_subcategoriesChart (h : category.2.IsSplit) :
    NodeFlow.outOf (.category category.1) (subcategoriesChart includeSub category).flows =
      if includeSub then category.2.total else 0 := by
  have hsource : ∀ f ∈ (subcategoriesChart includeSub category).flows,
      f.source = .category category.1 := fun f hf ↦ by
    obtain ⟨-, sub, -, rfl⟩ := mem_subcategoriesChart_flows.1 hf
    rfl
  rw [NodeFlow.outOf_eq_sum hsource]
  cases includeSub with
  | true =>
    have hvalues : ((subcategoriesChart true category).flows.map NodeFlow.value) =
        (sortedSubs category.2).map Prod.snd := Chart.values_join fun _ ↦ rfl
    rw [hvalues, (isSplitOf_sortedSubs h).sum_eq, if_pos rfl]
  | false => rfl

/-- What flows into a node that is not a subcategory. -/
theorem into_categoryChart {k : NodeKey} (hk : k.categoryType ≠ .subcategory) :
    NodeFlow.into k (categoryChart includeSub hub category).flows =
      if .category category.1 = k then category.2.total else 0 := by
  have hsubs : NodeFlow.into k (subcategoriesChart includeSub category).flows = 0 := by
    refine NodeFlow.into_eq_zero fun f hf hfk ↦ hk ?_
    obtain ⟨-, sub, -, rfl⟩ := mem_subcategoriesChart_flows.1 hf
    rw [← hfk]
    rfl
  rw [categoryChart, Chart.flows_append, NodeFlow.into_append, hsubs, add_zero, Chart.single,
    NodeFlow.into_cons, NodeFlow.into_nil, add_zero]

/-- What flows out of a node that is not the category. -/
theorem outOf_categoryChart {k : NodeKey} (hk : k ≠ .category category.1) :
    NodeFlow.outOf k (categoryChart includeSub hub category).flows =
      if hub = k then category.2.total else 0 := by
  have hsubs : NodeFlow.outOf k (subcategoriesChart includeSub category).flows = 0 := by
    refine NodeFlow.outOf_eq_zero fun f hf hfk ↦ hk ?_
    obtain ⟨-, sub, -, rfl⟩ := mem_subcategoriesChart_flows.1 hf
    exact hfk.symm
  rw [categoryChart, Chart.flows_append, NodeFlow.outOf_append, hsubs, add_zero, Chart.single,
    NodeFlow.outOf_cons, NodeFlow.outOf_nil, add_zero]

/-- What flows out of the category. -/
theorem outOf_categoryChart_self (h : category.2.IsSplit) (hhub : hub.categoryType = .hub) :
    NodeFlow.outOf (.category category.1) (categoryChart includeSub hub category).flows =
      if includeSub then category.2.total else 0 := by
  have hne : hub ≠ .category category.1 := fun heq ↦ by
    rw [heq] at hhub
    exact absurd hhub (by simp [NodeKey.categoryType])
  rw [categoryChart, Chart.flows_append, NodeFlow.outOf_append, outOf_subcategoriesChart h,
    Chart.single, NodeFlow.outOf_cons, if_neg hne, NodeFlow.outOf_nil, add_zero, zero_add]

end Category

/-! ### All categories -/

section Categories

variable {includeSub : Bool} {hub : NodeKey} {categories : List (String × CategoryOutflow)}

/-- Nothing flows from the categories to a hub. -/
theorem into_hub_categories {k : NodeKey} (hk : k.categoryType = .hub) :
    NodeFlow.into k (Chart.join (categoryChart includeSub hub) categories).flows = 0 := by
  have hzero (category : String × CategoryOutflow) :
      NodeFlow.into k (categoryChart includeSub hub category).flows = 0 := by
    rw [into_categoryChart (by simp [hk]), if_neg]
    rintro rfl
    exact absurd hk (by simp [NodeKey.categoryType])
  rw [Chart.join, NodeFlow.into_flatMap]
  refine List.sum_eq_zero fun value hvalue ↦ ?_
  obtain ⟨category, -, rfl⟩ := List.mem_map.1 hvalue
  exact hzero category

/-- What flows from the hub into the categories. -/
theorem outOf_hub_categories (hhub : hub.categoryType = .hub) :
    NodeFlow.outOf hub (Chart.join (categoryChart includeSub hub) categories).flows =
      (categories.map fun category ↦ category.2.total).sum := by
  rw [Chart.join, NodeFlow.outOf_flatMap]
  refine congrArg List.sum (List.map_congr_left fun category _ ↦ ?_)
  rw [outOf_categoryChart, if_pos rfl]
  rintro rfl
  exact absurd hhub (by simp [NodeKey.categoryType])

variable (hnodup : (categories.map Prod.fst).Nodup) {category : String × CategoryOutflow}
  (hmem : category ∈ categories)

include hnodup hmem

/-- What flows into one of the categories. -/
theorem into_categories :
    NodeFlow.into (.category category.1)
    (Chart.join (categoryChart includeSub hub) categories).flows =
      category.2.total := by
  rw [Chart.join, NodeFlow.into_flatMap]
  calc (categories.map fun other ↦
          NodeFlow.into (.category category.1) (categoryChart includeSub hub other).flows).sum
      = (categories.map fun other ↦ if other.1 = category.1 then other.2.total else 0).sum := by
        refine congrArg List.sum (List.map_congr_left fun other _ ↦ ?_)
        rw [into_categoryChart (by simp [NodeKey.categoryType])]
        simp only [NodeKey.category.injEq]
    _ = category.2.total := by
        rw [← sumOf_true (p := fun _ ↦ True) fun _ _ ↦ trivial, sumOf_ite]
        simp only [true_and]
        exact sumOf_key Prod.fst hnodup hmem

/-- What flows out of one of the categories. -/
theorem outOf_categories (hhub : hub.categoryType = .hub)
    (hsplit : ∀ category ∈ categories, category.2.IsSplit) :
    NodeFlow.outOf (.category category.1)
    (Chart.join (categoryChart includeSub hub) categories).flows =
      if includeSub then category.2.total else 0 := by
  rw [Chart.join, NodeFlow.outOf_flatMap]
  calc (categories.map fun other ↦
          NodeFlow.outOf (.category category.1) (categoryChart includeSub hub other).flows).sum
      = (categories.map fun other ↦
          if other.1 = category.1 then if includeSub then other.2.total else 0 else 0).sum := by
        refine congrArg List.sum (List.map_congr_left fun other hother ↦ ?_)
        split
        · rename_i heq
          rw [← heq, outOf_categoryChart_self (hsplit other hother) hhub]
        · rename_i hne
          rw [outOf_categoryChart, if_neg]
          · rintro rfl
            exact absurd hhub (by simp [NodeKey.categoryType])
          · exact fun heq ↦ hne (NodeKey.category.inj heq).symm
    _ = if includeSub then category.2.total else 0 := by
        rw [← sumOf_true (p := fun _ ↦ True) fun _ _ ↦ trivial, sumOf_ite]
        simp only [true_and]
        let value (other : String × CategoryOutflow) : Decimal :=
          if includeSub then other.2.total else 0
        have hkey : sumOf value (fun other ↦ other.1 = category.1) categories = value category :=
          sumOf_key Prod.fst hnodup hmem
        exact hkey

end Categories

/-! ### Sound charts -/

/-- The nodes of a chart are told apart, and are of the given kinds, and its flows go from left to
right. -/
structure Chart.IsSound (chart : Chart) (kinds : List CategoryType) : Prop where
  nodup : chart.keys.Nodup
  kind_mem : ∀ k ∈ chart.keys, k.categoryType ∈ kinds
  plain : ∀ k ∈ chart.keys, k.IsPlain
  forward : ∀ f ∈ chart.flows, f.source.IsPlain ∧ f.target.IsPlain ∧
    f.source.categoryType.layer < f.target.categoryType.layer

/-- Charts of different kinds of nodes, side by side. -/
theorem Chart.IsSound.append {c d : Chart} {kinds kinds' : List CategoryType}
    (hc : c.IsSound kinds) (hd : d.IsSound kinds') (hdisjoint : ∀ kind ∈ kinds, kind ∉ kinds') :
    (c ++ d).IsSound (kinds ++ kinds') where
  nodup := by
    refine List.nodup_append.2 ⟨hc.nodup, hd.nodup, fun a ha b hb hab ↦ ?_⟩
    exact hdisjoint _ (hc.kind_mem a ha) (hab ▸ hd.kind_mem b hb)
  kind_mem k hk := by
    obtain hk | hk := List.mem_append.1 hk
    · exact List.mem_append_left _ (hc.kind_mem k hk)
    · exact List.mem_append_right _ (hd.kind_mem k hk)
  plain k hk := (List.mem_append.1 hk).elim (hc.plain k) (hd.plain k)
  forward f hf := (List.mem_append.1 hf).elim (hc.forward f) (hd.forward f)

theorem isSound_empty (kinds : List CategoryType) : Chart.empty.IsSound kinds where
  nodup := List.nodup_nil
  kind_mem _ h := absurd h List.not_mem_nil
  plain _ h := absurd h List.not_mem_nil
  forward _ h := absurd h List.not_mem_nil

theorem isSound_node (key : NodeKey) (hplain : key.IsPlain) :
    (Chart.node key).IsSound [key.categoryType] where
  nodup := List.nodup_singleton key
  kind_mem k hk := by
    rw [List.mem_singleton.1 hk]
    exact List.mem_singleton_self _
  plain k hk := by
    rwa [List.mem_singleton.1 hk]
  forward _ h := absurd h List.not_mem_nil

theorem isSound_single {key : NodeKey} {flow : NodeFlow NodeKey Decimal} (hplain : key.IsPlain)
    (hsource : flow.source.IsPlain) (htarget : flow.target.IsPlain)
    (hforward : flow.source.categoryType.layer < flow.target.categoryType.layer) :
    (Chart.single key flow).IsSound [key.categoryType] :=
  { isSound_node key hplain with
    forward := fun f hf ↦ by
      rw [List.mem_singleton.1 hf]
      exact ⟨hsource, htarget, hforward⟩ }

/-- Parts that are told apart by the names of what they are made of. -/
theorem isSound_join {α : Type} {part : String × α → Chart} {kinds : List CategoryType}
    {l : List (String × α)} (hnodup : (l.map Prod.fst).Nodup)
    (hpart : ∀ a ∈ l, (part a).IsSound kinds)
    (hdisjoint : ∀ a b : String × α, ∀ k ∈ (part a).keys, k ∈ (part b).keys → a.1 = b.1) :
    (Chart.join part l).IsSound kinds where
  nodup := by
    refine List.nodup_flatMap.2 ⟨fun a ha ↦ (hpart a ha).nodup, ?_⟩
    refine (List.pairwise_map.1 hnodup).imp fun {a b} hne ↦ ?_
    exact List.disjoint_left.2 fun k ha hb ↦ hne (hdisjoint a b k ha hb)
  kind_mem k hk := by
    obtain ⟨a, ha, hk⟩ := List.mem_flatMap.1 hk
    exact (hpart a ha).kind_mem k hk
  plain k hk := by
    obtain ⟨a, ha, hk⟩ := List.mem_flatMap.1 hk
    exact (hpart a ha).plain k hk
  forward f hf := by
    obtain ⟨a, ha, hf⟩ := List.mem_flatMap.1 hf
    exact (hpart a ha).forward f hf

theorem isSound_sources {sources : List (String × Decimal)}
    (hnodup : (sources.map Prod.fst).Nodup) (hnames : ∀ source ∈ sources, '_' ∉ source.1.toList) :
    (Chart.join sourceChart sources).IsSound [.inflow] := by
  refine isSound_join hnodup (fun source hsource ↦ ?_) fun a b k ha hb ↦ ?_
  · exact isSound_single (hnames source hsource) (hnames source hsource) trivial
      (show 0 < 1 by decide)
  · have heq := (List.mem_singleton.1 ha).symm.trans (List.mem_singleton.1 hb)
    exact NodeKey.source.inj heq

theorem isSound_deficitChart (d : Decimal) : (deficitChart d).IsSound [.deficit] := by
  rw [deficitChart]
  split
  · exact isSound_single trivial trivial trivial (show 0 < 1 by decide)
  · exact isSound_empty _

theorem isSound_savingsChart (d : Decimal) : (savingsChart d).IsSound [.savings] := by
  rw [savingsChart]
  split
  · exact isSound_single trivial trivial trivial (show 1 < 2 by decide)
  · exact isSound_empty _

theorem isSound_subcategories {includeSub : Bool} {category : String × CategoryOutflow}
    (hname : '_' ∉ category.1.toList) (h : category.2.IsSplit) :
    (subcategoriesChart includeSub category).IsSound [.subcategory] := by
  rw [subcategoriesChart]
  split
  · refine isSound_join (isSplitOf_sortedSubs h).nodup (fun sub _ ↦ ?_) fun a b k ha hb ↦ ?_
    · exact isSound_single hname trivial hname (show 2 < 3 by decide)
    · have heq := (List.mem_singleton.1 ha).symm.trans (List.mem_singleton.1 hb)
      exact (NodeKey.subcategory.inj heq).2
  · exact isSound_empty _

theorem isSound_categories {includeSub : Bool} {hub : NodeKey} (hhub : hub.categoryType = .hub)
    (hplain : hub.IsPlain) {categories : List (String × CategoryOutflow)}
    (hnodup : (categories.map Prod.fst).Nodup)
    (h : ∀ category ∈ categories, '_' ∉ category.1.toList ∧ category.2.IsSplit) :
    (Chart.join (categoryChart includeSub hub) categories).IsSound [.outflow, .subcategory] := by
  refine isSound_join hnodup (fun category hcategory ↦ ?_) fun a b k ha hb ↦ ?_
  · obtain ⟨hname, hsplit⟩ := h category hcategory
    have hkey : (NodeKey.category category.1).IsPlain := trivial
    refine (isSound_single hkey hplain hkey ?_).append (isSound_subcategories hname hsplit) ?_
    · rw [hhub]
      show 1 < 2
      decide
    · show ∀ kind ∈ [CategoryType.outflow], kind ∉ [CategoryType.subcategory]
      decide
  · have hname (c : String × CategoryOutflow) (hk : k ∈ (categoryChart includeSub hub c).keys) :
        k = .category c.1 ∨ ∃ sub, k = .subcategory c.1 sub := by
      obtain hk | hk := List.mem_append.1 hk
      · exact Or.inl (List.mem_singleton.1 hk)
      · obtain ⟨-, sub, -, hk⟩ := mem_subcategoriesChart_keys.1 hk
        exact Or.inr ⟨sub.1, hk⟩
    obtain rfl | ⟨sub, rfl⟩ := hname a ha
    · obtain heq | ⟨sub, heq⟩ := hname b hb
      · exact NodeKey.category.inj heq
      · exact absurd heq (by simp)
    · obtain heq | ⟨sub', heq⟩ := hname b hb
      · exact absurd heq (by simp)
      · exact (NodeKey.subcategory.inj heq).1

/-! ### The whole chart -/

theorem sortedCategories_perm (flows : CashFlows) :
    (sortedCategories flows).Perm flows.outflowByCategory :=
  List.perm_insertionSort _ _

section Whole

variable {flows : CashFlows} (h : flows.IsConsistent) (includeSub : Bool)

include h

theorem isSound_sortedCategories {hub : NodeKey} (hhub : hub.categoryType = .hub)
    (hplain : hub.IsPlain) :
    (Chart.join (categoryChart includeSub hub) (sortedCategories flows)).IsSound
      [.outflow, .subcategory] := by
  have hperm := sortedCategories_perm flows
  refine isSound_categories hhub hplain ((hperm.map Prod.fst).nodup_iff.2 h.categories_nodup) ?_
  intro category hcategory
  obtain ⟨hname, -, hsplit⟩ := h.categories category (hperm.mem_iff.1 hcategory)
  exact ⟨hname, hsplit⟩

/-- **The diagram with income** is sound. -/
theorem isSound_incomeChart : (incomeChart includeSub flows).IsSound
    [.hub, .inflow, .deficit, .outflow, .subcategory, .savings] := by
  have hhub := isSound_node .totalIncome trivial
  have hcategories := isSound_sortedCategories h includeSub
    (rfl : NodeKey.totalIncome.categoryType = .hub) trivial
  exact (((hhub.append (isSound_sources h.inflows.nodup h.source_names) (by decide)).append
    (isSound_deficitChart _) (by decide)).append hcategories (by decide)).append
      (isSound_savingsChart _) (by decide)

/-- **The diagram without income** is sound. -/
theorem isSound_spendingChart : (spendingChart includeSub flows).IsSound
    [.hub, .outflow, .subcategory] := by
  have hhub := isSound_node .totalSpending trivial
  have hcategories := isSound_sortedCategories h includeSub
    (rfl : NodeKey.totalSpending.categoryType = .hub) trivial
  exact hhub.append hcategories (by decide)

/-- Every diagram is sound. -/
theorem isSound_sankeyChart : ∃ kinds, (sankeyChart includeSub flows).IsSound kinds := by
  rw [sankeyChart]
  split
  · exact ⟨_, isSound_incomeChart h includeSub⟩
  split
  · exact ⟨_, isSound_spendingChart h includeSub⟩
  · exact ⟨[], isSound_empty _⟩

end Whole

/-! ### Conservation -/

section Conservation

variable {flows : CashFlows} (h : flows.IsConsistent) (includeSub : Bool)

/-- What the sources bring into a node. -/
theorem into_sources (k : NodeKey) (sources : List (String × Decimal)) :
    NodeFlow.into k (Chart.join sourceChart sources).flows =
      if .totalIncome = k then (sources.map Prod.snd).sum else 0 := by
  have hflows : (Chart.join sourceChart sources).flows.map NodeFlow.value =
      sources.map Prod.snd := Chart.values_join fun _ ↦ rfl
  have htarget : ∀ f ∈ (Chart.join sourceChart sources).flows, f.target = .totalIncome := by
    intro f hf
    obtain ⟨source, -, hf⟩ := List.mem_flatMap.1 hf
    rw [List.mem_singleton.1 hf]
  split
  · rename_i heq
    rw [NodeFlow.into_eq_sum fun f hf ↦ (htarget f hf).trans heq, hflows]
  · rename_i hne
    exact NodeFlow.into_eq_zero fun f hf hfk ↦ hne ((htarget f hf).symm.trans hfk)

/-- Nothing flows from a node that is not a source into one. -/
theorem outOf_sources {k : NodeKey} (hk : k.categoryType ≠ .inflow)
    (sources : List (String × Decimal)) :
    NodeFlow.outOf k (Chart.join sourceChart sources).flows = 0 := by
  refine NodeFlow.outOf_eq_zero fun f hf hfk ↦ hk ?_
  obtain ⟨source, -, hf⟩ := List.mem_flatMap.1 hf
  rw [← hfk, List.mem_singleton.1 hf]
  rfl

theorem into_deficitChart (k : NodeKey) (d : Decimal) :
    NodeFlow.into k (deficitChart d).flows = if .totalIncome = k ∧ d < 0 then -d else 0 := by
  rw [deficitChart]
  by_cases hneg : d < 0
  · simp [hneg, Chart.single, abs_of_neg]
  · simp [hneg, Chart.empty]

theorem outOf_deficitChart {k : NodeKey} (hk : k.categoryType ≠ .deficit) (d : Decimal) :
    NodeFlow.outOf k (deficitChart d).flows = 0 := by
  have hne : NodeKey.fromSavings ≠ k := fun heq ↦ hk (heq ▸ rfl)
  rw [deficitChart]
  split
  · simp [Chart.single, hne]
  · rfl

theorem into_savingsChart {k : NodeKey} (hk : k.categoryType ≠ .savings) (d : Decimal) :
    NodeFlow.into k (savingsChart d).flows = 0 := by
  have hne : NodeKey.netSavings ≠ k := fun heq ↦ hk (heq ▸ rfl)
  rw [savingsChart]
  split
  · simp [Chart.single, hne]
  · rfl

theorem outOf_savingsChart (k : NodeKey) (d : Decimal) :
    NodeFlow.outOf k (savingsChart d).flows = if .totalIncome = k ∧ 0 < d then d else 0 := by
  rw [savingsChart]
  by_cases hpos : 0 < d
  · simp [hpos, Chart.single]
  · simp [hpos, Chart.empty]

include h

/-- What the hub hands out to the categories is all that was spent. -/
theorem sum_sortedCategories :
    ((sortedCategories flows).map fun category ↦ category.2.total).sum = flows.totalOutflow := by
  rw [((sortedCategories_perm flows).map _).sum_eq, h.categories_sum]

/-- **The hub of the income is balanced.** -/
theorem totalIncome_balanced :
    NodeFlow.into .totalIncome (incomeChart includeSub flows).flows =
        max flows.totalInflow flows.totalOutflow ∧
      NodeFlow.outOf .totalIncome (incomeChart includeSub flows).flows =
        max flows.totalInflow flows.totalOutflow := by
  have hhub : NodeKey.totalIncome.categoryType = .hub := rfl
  constructor
  · simp only [incomeChart, Chart.flows_append, NodeFlow.into_append, Chart.node, NodeFlow.into_nil,
      into_sources, into_deficitChart, into_hub_categories hhub, if_true,
      true_and, into_savingsChart (k := .totalIncome) (by decide), h.inflows.sum_eq]
    split <;> lia
  · simp only [incomeChart, Chart.flows_append, NodeFlow.outOf_append, Chart.node,
      NodeFlow.outOf_nil, outOf_sources (k := .totalIncome) (by decide), outOf_hub_categories hhub,
      outOf_deficitChart (k := .totalIncome) (by decide), outOf_savingsChart, true_and,
      sum_sortedCategories h]
    split <;> lia

/-- **The hub of the spending** hands out all that was spent. -/
theorem outOf_totalSpending : NodeFlow.outOf .totalSpending (spendingChart includeSub flows).flows =
    flows.totalOutflow := by
  have hhub : NodeKey.totalSpending.categoryType = .hub := rfl
  simp only [spendingChart, Chart.flows_append, NodeFlow.outOf_append, Chart.node,
    NodeFlow.outOf_nil, outOf_hub_categories hhub, sum_sortedCategories h, zero_add]

variable {category : String × CategoryOutflow} (hmem : category ∈ flows.outflowByCategory)

include hmem

/-- The flows of a category within those of all categories. -/
theorem category_flows {hub : NodeKey} (hhub : hub.categoryType = .hub) :
    NodeFlow.into (.category category.1)
        (Chart.join (categoryChart includeSub hub) (sortedCategories flows)).flows =
          category.2.total ∧
      NodeFlow.outOf (.category category.1)
        (Chart.join (categoryChart includeSub hub) (sortedCategories flows)).flows =
          if includeSub then category.2.total else 0 := by
  have hperm := sortedCategories_perm flows
  have hnodup := (hperm.map Prod.fst).nodup_iff.2 h.categories_nodup
  have hmem' := hperm.mem_iff.2 hmem
  exact ⟨into_categories hnodup hmem', outOf_categories hnodup hmem' hhub fun other hother ↦
    (h.categories other (hperm.mem_iff.1 hother)).2.2⟩

/-- **The categories are balanced**, if their subcategories are shown. -/
theorem category_incomeChart :
    NodeFlow.into (.category category.1) (incomeChart includeSub flows).flows = category.2.total ∧
      NodeFlow.outOf (.category category.1) (incomeChart includeSub flows).flows =
        if includeSub then category.2.total else 0 := by
  obtain ⟨hinto, houtOf⟩ := category_flows h includeSub hmem
    (rfl : NodeKey.totalIncome.categoryType = .hub)
  have hkind : (NodeKey.category category.1).categoryType = .outflow := rfl
  have hsavings := into_savingsChart (k := .category category.1) (by simp [hkind])
    (flows.totalInflow - flows.totalOutflow)
  have hsources := outOf_sources (k := .category category.1) (by simp [hkind])
    flows.inflowBySource
  have hdeficit := outOf_deficitChart (k := .category category.1) (by simp [hkind])
    (flows.totalInflow - flows.totalOutflow)
  constructor
  · simp [incomeChart, Chart.node, into_sources, into_deficitChart, hinto, hsavings]
  · simp [incomeChart, Chart.node, hsources, hdeficit, houtOf, outOf_savingsChart]

theorem category_spendingChart :
    NodeFlow.into (.category category.1) (spendingChart includeSub flows).flows = category.2.total ∧
      NodeFlow.outOf (.category category.1) (spendingChart includeSub flows).flows =
        if includeSub then category.2.total else 0 := by
  obtain ⟨hinto, houtOf⟩ := category_flows h includeSub hmem
    (rfl : NodeKey.totalSpending.categoryType = .hub)
  simp [spendingChart, Chart.node, hinto, houtOf]

omit h hmem in
/-- What a category hands out goes to its subcategories. -/
theorem includeSub_of_source {hub : NodeKey} (hhub : hub.categoryType = .hub) {name : String}
    {categories : List (String × CategoryOutflow)} {f : NodeFlow NodeKey Decimal}
    (hf : f ∈ (Chart.join (categoryChart includeSub hub) categories).flows)
    (hsource : f.source = .category name) : includeSub = true := by
  obtain ⟨category, -, hf⟩ := List.mem_flatMap.1 hf
  obtain hf | hf := List.mem_append.1 hf
  · rw [List.mem_singleton.1 hf] at hsource
    rw [show hub = .category name from hsource] at hhub
    exact absurd hhub (by simp [NodeKey.categoryType])
  · exact (mem_subcategoriesChart_flows.1 hf).1

omit h hmem in
theorem includeSub_of_incomeChart {name : String} {f : NodeFlow NodeKey Decimal}
    (hf : f ∈ (incomeChart includeSub flows).flows) (hsource : f.source = .category name) :
    includeSub = true := by
  simp only [incomeChart, Chart.flows_append, List.mem_append] at hf
  obtain (((hf | hf) | hf) | hf) | hf := hf
  · exact absurd hf List.not_mem_nil
  · obtain ⟨source, -, hf⟩ := List.mem_flatMap.1 hf
    rw [List.mem_singleton.1 hf] at hsource
    exact absurd hsource (by simp)
  · rw [deficitChart] at hf
    split at hf
    · rw [List.mem_singleton.1 hf] at hsource
      exact absurd hsource (by simp)
    · exact absurd hf List.not_mem_nil
  · exact includeSub_of_source includeSub rfl hf hsource
  · rw [savingsChart] at hf
    split at hf
    · rw [List.mem_singleton.1 hf] at hsource
      exact absurd hsource (by simp)
    · exact absurd hf List.not_mem_nil

/-- **A category that hands out anything is balanced.** -/
theorem category_balanced {f : NodeFlow NodeKey Decimal}
    (hf : f ∈ (sankeyChart includeSub flows).flows) (hsource : f.source = .category category.1) :
    NodeFlow.into (.category category.1) (sankeyChart includeSub flows).flows =
      NodeFlow.outOf (.category category.1) (sankeyChart includeSub flows).flows := by
  rw [sankeyChart] at hf ⊢
  split at hf
  · rename_i hincome
    obtain ⟨hinto, houtOf⟩ := category_incomeChart h includeSub hmem
    rw [if_pos hincome, hinto, houtOf, if_pos (includeSub_of_incomeChart includeSub hf hsource)]
  · rename_i hincome
    split at hf
    · rename_i hspending
      obtain ⟨hinto, houtOf⟩ := category_spendingChart h includeSub hmem
      have hsub : includeSub = true := includeSub_of_source includeSub rfl hf hsource
      rw [if_neg hincome, if_pos hspending, hinto, houtOf, if_pos hsub]
    · exact absurd hf List.not_mem_nil

omit hmem in
/-- The nodes of categories are those of the categories of the flows. -/
theorem exists_category {k : NodeKey} (hk : k ∈ (sankeyChart includeSub flows).keys)
    (hkind : k.categoryType = .outflow) :
    ∃ category ∈ flows.outflowByCategory, k = .category category.1 := by
  have hcategories {hub : NodeKey}
      (hk : k ∈ (Chart.join (categoryChart includeSub hub) (sortedCategories flows)).keys) :
      ∃ category ∈ flows.outflowByCategory, k = .category category.1 := by
    obtain ⟨category, hcategory, hk⟩ := List.mem_flatMap.1 hk
    refine ⟨category, (sortedCategories_perm flows).mem_iff.1 hcategory, ?_⟩
    obtain hk | hk := List.mem_append.1 hk
    · exact List.mem_singleton.1 hk
    · obtain ⟨-, sub, -, rfl⟩ := mem_subcategoriesChart_keys.1 hk
      exact absurd hkind (by simp [NodeKey.categoryType])
  -- the other parts have nodes of other kinds
  have hother {c : Chart} {kinds : List CategoryType} (hc : c.IsSound kinds)
      (hkinds : CategoryType.outflow ∉ kinds) (hk : k ∈ c.keys) : False :=
    hkinds (hkind ▸ hc.kind_mem k hk)
  rw [sankeyChart] at hk
  split at hk
  · simp only [incomeChart, Chart.keys_append, List.mem_append] at hk
    obtain (((hk | hk) | hk) | hk) | hk := hk
    · exact (hother (isSound_node .totalIncome trivial) (by decide) hk).elim
    · exact (hother (isSound_sources h.inflows.nodup h.source_names) (by decide) hk).elim
    · exact (hother (isSound_deficitChart _) (by decide) hk).elim
    · exact hcategories hk
    · exact (hother (isSound_savingsChart _) (by decide) hk).elim
  split at hk
  · simp only [spendingChart, Chart.keys_append, List.mem_append] at hk
    obtain hk | hk := hk
    · exact (hother (isSound_node .totalSpending trivial) (by decide) hk).elim
    · exact hcategories hk
  · exact absurd hk List.not_mem_nil

end Conservation

end Sumurai.Frontend
