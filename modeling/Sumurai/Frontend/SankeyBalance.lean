import Sumurai.Frontend.SankeyChart

/-!
# The diagram is a balanced flow graph

`computeSankeyData` draws a chart: every node of the graph shows a node of the chart, and every link
joins, by their indices, the nodes that a flow of the chart is between (`exists_drawing`). No step
of the drawing throws, and none drops a link, as every value is positive.

## Main result

`computeSankeyData_balanced`: the ids are unique, the links join nodes of the graph from left to
right, and the flows through the hub and the categories are conserved.
-/

namespace Sumurai.Frontend

variable (M : CaseMapping)

/-- Every element of the one list has one of the other. -/
theorem exists_mem_of_forall₂ {α β : Type} {R : α → β → Prop} {l : List α} {l' : List β}
    (h : List.Forall₂ R l l') {a : α} (ha : a ∈ l) : ∃ b ∈ l', R a b := by
  induction h with
  | nil => exact absurd ha List.not_mem_nil
  | cons hab _ ih =>
    obtain rfl | ha := List.mem_cons.1 ha
    · exact ⟨_, List.mem_cons_self, hab⟩
    · obtain ⟨b, hb, hab⟩ := ih ha
      exact ⟨b, List.mem_cons_of_mem _ hb, hab⟩

/-! ### Drawing a chart -/

/-- A node of the graph shows a node of the chart. -/
def Shows (node : SankeyNodeData) (key : NodeKey) : Prop :=
  node.id = key.id ∧ node.categoryType = key.categoryType

/-- The node at an index of the graph shows a node of the chart. -/
def ShowsAt (g : SankeyGraph) (idx : ℕ) (key : NodeKey) : Prop :=
  ∃ node, g.nodes[idx]? = some node ∧ Shows node key

/-- A link of the graph shows a flow of the chart. -/
structure Joins (g : SankeyGraph) (link : SankeyLinkData) (flow : NodeFlow NodeKey Decimal) :
    Prop where
  source : ShowsAt g link.source flow.source
  target : ShowsAt g link.target flow.target
  value : link.value = flow.value
  sourceId : link.sourceId = flow.source.id
  targetId : link.targetId = flow.target.id

/-- The graph is a drawing of the chart. -/
structure Draws (g : SankeyGraph) (chart : Chart) : Prop where
  nodes : List.Forall₂ Shows g.nodes chart.keys
  links : List.Forall₂ (Joins g) g.links chart.flows

/-- The nodes are told apart by their ids. -/
def IsNaming (keys : List NodeKey) : Prop :=
  keys.Nodup ∧ ∀ k ∈ keys, k.IsPlain

theorem IsNaming.left {keys keys' : List NodeKey} (h : IsNaming (keys ++ keys')) : IsNaming keys :=
  ⟨h.1.of_append_left, fun k hk ↦ h.2 k (List.mem_append_left _ hk)⟩

section Growth

variable {g g' : SankeyGraph} (h : g.nodes <+: g'.nodes)

include h

/-- Nodes stay where they are when more are drawn. -/
theorem ShowsAt.mono {idx : ℕ} {key : NodeKey} (hat : ShowsAt g idx key) : ShowsAt g' idx key := by
  obtain ⟨node, hnode, hshows⟩ := hat
  obtain ⟨hlt, rfl⟩ := List.getElem?_eq_some_iff.1 hnode
  exact ⟨_, by rw [List.getElem?_eq_getElem (hlt.trans_le h.length_le), h.getElem hlt], hshows⟩

theorem Joins.mono {link : SankeyLinkData} {flow : NodeFlow NodeKey Decimal}
    (hjoins : Joins g link flow) :
    Joins g' link flow :=
  { hjoins with
    source := hjoins.source.mono h
    target := hjoins.target.mono h }

end Growth

/-- A node with a new id is drawn. -/
theorem addNode_draws {g : SankeyGraph} {chart : Chart} (hdraws : Draws g chart) {key : NodeKey}
    (hnaming : IsNaming (chart.keys ++ [key])) (name : String) (amount : Decimal) (color : String)
    (percentage : Option ℤ) :
    ∃ g' idx, addNode M g key.id name amount color key.categoryType percentage = (g', idx) ∧
      Draws g' (chart ++ .node key) ∧ ShowsAt g' idx key ∧ g.nodes <+: g'.nodes := by
  have hfind : (g.nodes.findIdx? fun node ↦ node.id = key.id) = none := by
    refine List.findIdx?_eq_none_iff.2 fun node hnode ↦ decide_eq_false fun hid ↦ ?_
    -- a node with this id would show the same node of the chart
    obtain ⟨k, hk, hshows⟩ := exists_mem_of_forall₂ hdraws.nodes hnode
    have hkey : key ∈ chart.keys ++ [key] := List.mem_append_right _ (List.mem_singleton_self key)
    have heq := NodeKey.id_injective (hnaming.2 k (List.mem_append_left _ hk))
      (hnaming.2 key hkey) (hshows.1.symm.trans hid)
    exact (List.nodup_append.1 hnaming.1).2.2 k hk key (List.mem_singleton_self key) heq
  rw [addNode, hfind]
  refine ⟨_, _, rfl, ?_, ?_, List.prefix_append _ _⟩
  · refine ⟨List.rel_append hdraws.nodes (.cons ⟨rfl, rfl⟩ .nil), ?_⟩
    rw [Chart.flows_append, Chart.node, List.append_nil]
    exact hdraws.links.imp fun link flow hjoins ↦ hjoins.mono (List.prefix_append _ _)
  · exact ⟨_, List.getElem?_concat_length, rfl, rfl⟩

/-- A link with a positive value is drawn. -/
theorem addLink_draws {g : SankeyGraph} {chart : Chart} (hdraws : Draws g chart)
    (flow : NodeFlow NodeKey Decimal) {sourceIdx targetIdx : ℕ}
    (hsource : ShowsAt g sourceIdx flow.source) (htarget : ShowsAt g targetIdx flow.target)
    (hpos : 0 < flow.value) (color : String) :
    ∃ g', addLink g sourceIdx targetIdx flow.value color = some g' ∧
      Draws g' { chart with flows := chart.flows ++ [flow] } ∧ g'.nodes = g.nodes := by
  obtain ⟨source, hsourceAt, hsourceShows⟩ := hsource
  obtain ⟨target, htargetAt, htargetShows⟩ := htarget
  rw [addLink, if_neg (not_le.2 hpos), hsourceAt, htargetAt]
  refine ⟨_, rfl, ⟨hdraws.nodes, ?_⟩, rfl⟩
  have hextends (links : List SankeyLinkData) :
      g.nodes <+: ({ g with links := links } : SankeyGraph).nodes :=
    List.prefix_refl _
  refine List.rel_append (hdraws.links.imp fun link flow h ↦ h.mono (hextends _)) (.cons ?_ .nil)
  exact
    { source := ⟨source, hsourceAt, hsourceShows⟩
      target := ⟨target, htargetAt, htargetShows⟩
      value := rfl
      sourceId := hsourceShows.1
      targetId := htargetShows.1 }

/-! ### Drawing part by part -/

/-- A step that draws a part of a chart, in a graph that has the node `anchor` at the index
`idx`. -/
def Adds (step : SankeyGraph → Option SankeyGraph) (idx : ℕ) (anchor : NodeKey) (part : Chart) :
    Prop :=
  ∀ g chart, Draws g chart → ShowsAt g idx anchor → IsNaming (chart ++ part).keys →
    ∃ g', step g = some g' ∧ Draws g' (chart ++ part) ∧ g.nodes <+: g'.nodes

theorem adds_empty (idx : ℕ) (anchor : NodeKey) : Adds some idx anchor .empty := by
  intro g chart hdraws _ _
  rw [Chart.append_empty]
  exact ⟨g, rfl, hdraws, List.prefix_refl _⟩

/-- Two steps. -/
theorem Adds.bind {step step' : SankeyGraph → Option SankeyGraph} {idx : ℕ} {anchor : NodeKey}
    {part part' : Chart} (h : Adds step idx anchor part) (h' : Adds step' idx anchor part') :
    Adds (fun g ↦ (step g).bind step') idx anchor (part ++ part') := by
  intro g chart hdraws hat hnaming
  rw [← Chart.append_assoc] at hnaming ⊢
  obtain ⟨g₁, hstep, hdraws₁, hextends⟩ := h g chart hdraws hat hnaming.left
  obtain ⟨g₂, hstep', hdraws₂, hextends'⟩ := h' g₁ _ hdraws₁ (hat.mono hextends) hnaming
  refine ⟨g₂, ?_, hdraws₂, hextends.trans hextends'⟩
  show (step g).bind step' = some g₂
  rw [hstep, Option.bind_some, hstep']

/-- **A loop** draws its parts one after the other. -/
theorem Adds.foldlM {α : Type} {step : SankeyGraph → α → Option SankeyGraph} {idx : ℕ}
    {anchor : NodeKey} {part : α → Chart} {l : List α}
    (h : ∀ a ∈ l, Adds (fun g ↦ step g a) idx anchor (part a)) :
    Adds (fun g ↦ l.foldlM step g) idx anchor (.join part l) := by
  induction l with
  | nil => exact adds_empty idx anchor
  | cons a l ih =>
    exact (h a List.mem_cons_self).bind (ih fun b hb ↦ h b (List.mem_cons_of_mem a hb))

/-! ### The parts of the diagram -/

/-- A node and a flow, drawn one after the other. -/
theorem append_single (chart : Chart) (key : NodeKey) (flow : NodeFlow NodeKey Decimal) :
    { chart ++ .node key with flows := (chart ++ .node key).flows ++ [flow] } =
      chart ++ .single key flow :=
  congrArg₂ Chart.mk rfl (by rw [Chart.flows_append, Chart.node, List.append_nil]; rfl)

theorem addSource_adds (totalInflow : Decimal) (hubIdx : ℕ) {source : String × Decimal}
    (hpos : 0 < source.2) :
    Adds (fun g ↦ addSource M totalInflow hubIdx g source) hubIdx .totalIncome
      (sourceChart source) := by
  intro g chart hdraws hhub hnaming
  obtain ⟨g₁, idx, hnode, hdraws₁, hat, hextends⟩ :=
    addNode_draws M hdraws hnaming source.1 source.2
    (getCategoryColor M source.1 0) (some (10 * roundedShare 100 source.2 totalInflow))
  obtain ⟨node, hnodeAt, -⟩ := id hat
  obtain ⟨g₂, hlink, hdraws₂, hnodes⟩ := addLink_draws hdraws₁
    { source := .source source.1, target := .totalIncome, value := source.2 } hat
      (hhub.mono hextends) hpos node.color
  rw [append_single] at hdraws₂
  refine ⟨g₂, ?_, hdraws₂, hnodes ▸ hextends⟩
  have hnode' : addNode M g ("inflow_" ++ source.1) source.1 source.2
      (getCategoryColor M source.1 0) .inflow
        (some (10 * roundedShare 100 source.2 totalInflow)) = (g₁, idx) := hnode
  simp only [addSource, hnode', hnodeAt, Option.bind_eq_bind, Option.bind_some, hlink]

theorem addSubcategory_adds (catName : String) (catTotal : Decimal) (catIdx : ℕ)
    {sub : String × Decimal} (hpos : 0 < sub.2) :
    Adds (fun g ↦ addSubcategory M catName catTotal catIdx g sub) catIdx (.category catName)
      (subcategoryChart catName sub) := by
  intro g chart hdraws hcat hnaming
  obtain ⟨catNode, hcatAt, -⟩ := id hcat
  obtain ⟨g₁, idx, hnode, hdraws₁, hat, hextends⟩ := addNode_draws M hdraws hnaming sub.1 sub.2
    catNode.color (some (10 * roundedShare 100 sub.2 catTotal))
  obtain ⟨g₂, hlink, hdraws₂, hnodes⟩ := addLink_draws hdraws₁
    { source := .category catName, target := .subcategory catName sub.1, value := sub.2 }
      (hcat.mono hextends) hat hpos catNode.color
  rw [append_single] at hdraws₂
  refine ⟨g₂, ?_, hdraws₂, hnodes ▸ hextends⟩
  have hnode' : addNode M g ("sub_" ++ catName ++ "_" ++ sub.1) sub.1 sub.2 catNode.color
      .subcategory (some (10 * roundedShare 100 sub.2 catTotal)) = (g₁, idx) := hnode
  simp only [addSubcategory, hcatAt, hnode', Option.bind_eq_bind, Option.bind_some, hlink]

theorem addSubcategories_adds (includeSub : Bool) (catIdx : ℕ)
    {category : String × CategoryOutflow} (hsplit : category.2.IsSplit) :
    Adds (fun g ↦
      if includeSub ∧ 0 < category.2.subcategories.length then
        (sortedSubs category.2).foldlM (addSubcategory M category.1 category.2.total catIdx) g
      else some g) catIdx (.category category.1) (subcategoriesChart includeSub category) := by
  cases includeSub with
  | false => simpa [subcategoriesChart] using adds_empty catIdx (.category category.1)
  | true =>
    have hloop := Adds.foldlM fun sub hsub ↦ addSubcategory_adds M category.1 category.2.total
      catIdx ((isSplitOf_sortedSubs hsplit).pos sub hsub)
    rcases Nat.eq_zero_or_pos category.2.subcategories.length with hnone | hsome
    · -- a category without subcategories has nothing to show
      have hnil : sortedSubs category.2 = [] := by
        rw [sortedSubs, List.length_eq_zero_iff.1 hnone]
        rfl
      rw [hnil] at hloop
      simp only [hnone, lt_irrefl, and_false, if_false, subcategoriesChart, if_true, hnil]
      exact hloop
    · simpa only [hsome, and_self, if_true, subcategoriesChart] using hloop

theorem addCategory_adds (includeSub : Bool) (totalOutflow : Decimal) (hubIdx : ℕ) (hub : NodeKey)
    {category : String × CategoryOutflow} (hpos : 0 < category.2.total)
    (hsplit : category.2.IsSplit) :
    Adds (fun g ↦ addCategory M includeSub totalOutflow hubIdx g category) hubIdx hub
      (categoryChart includeSub hub category) := by
  intro g chart hdraws hhub hnaming
  obtain ⟨catName, catData⟩ := category
  rw [categoryChart, ← Chart.append_assoc] at hnaming ⊢
  obtain ⟨g₁, idx, hnode, hdraws₁, hat, hextends⟩ := addNode_draws M hdraws hnaming.left catName
    catData.total (getCategoryColor M catName 0)
      (some (10 * roundedShare 100 catData.total totalOutflow))
  obtain ⟨node, hnodeAt, -⟩ := id hat
  obtain ⟨g₂, hlink, hdraws₂, hnodes⟩ := addLink_draws hdraws₁
    { source := hub, target := .category catName, value := catData.total } (hhub.mono hextends) hat
      hpos node.color
  rw [append_single] at hdraws₂
  have hat₂ : ShowsAt g₂ idx (.category catName) := hat.mono (hnodes ▸ List.prefix_refl _)
  have hnode' : addNode M g ("cat_" ++ catName) catName catData.total
      (getCategoryColor M catName 0) .outflow
        (some (10 * roundedShare 100 catData.total totalOutflow)) = (g₁, idx) := hnode
  simp only [addCategory, hnode', hnodeAt, Option.bind_eq_bind, Option.bind_some, hlink]
  obtain ⟨g₃, hsubs, hdraws₃, hextends₃⟩ := addSubcategories_adds M includeSub idx hsplit g₂ _
    hdraws₂ hat₂ hnaming
  exact ⟨g₃, hsubs, hdraws₃, (hnodes ▸ hextends).trans hextends₃⟩

/-! ### The whole diagram -/

theorem addCategories_adds {flows : CashFlows} (h : flows.IsConsistent) (includeSub : Bool)
    (totalOutflow : Decimal) (hubIdx : ℕ) (hub : NodeKey) :
    Adds (fun g ↦ (sortedCategories flows).foldlM (addCategory M includeSub totalOutflow hubIdx) g)
      hubIdx hub (.join (categoryChart includeSub hub) (sortedCategories flows)) := by
  refine Adds.foldlM fun category hcategory ↦ ?_
  obtain ⟨-, hpos, hsplit⟩ :=
    h.categories category ((sortedCategories_perm flows).mem_iff.1 hcategory)
  exact addCategory_adds M includeSub totalOutflow hubIdx hub hpos hsplit

theorem addDeficit_adds (stats : SankeyStats) (hubIdx : ℕ) :
    Adds (addDeficit M stats hubIdx) hubIdx .totalIncome (deficitChart stats.netSavings) := by
  intro g chart hdraws hhub hnaming
  rw [addDeficit]
  rw [deficitChart] at hnaming ⊢
  split at hnaming
  · rename_i hneg
    rw [if_pos hneg, if_pos hneg]
    obtain ⟨g₁, idx, hnode, hdraws₁, hat, hextends⟩ := addNode_draws M hdraws hnaming "From Savings"
      |stats.netSavings| "#f59e0b" none
    obtain ⟨g₂, hlink, hdraws₂, hnodes⟩ := addLink_draws hdraws₁
      { source := .fromSavings, target := .totalIncome, value := |stats.netSavings| } hat
        (hhub.mono hextends) (abs_pos.2 hneg.ne) "#f59e0b"
    rw [append_single] at hdraws₂
    have hnode' : addNode M g "inflow_from_savings" "From Savings" |stats.netSavings| "#f59e0b"
      .deficit none = (g₁, idx) := hnode
    exact ⟨g₂, by rw [hnode']; exact hlink, hdraws₂, hnodes ▸ hextends⟩
  · rename_i hneg
    rw [if_neg hneg, if_neg hneg]
    exact adds_empty hubIdx .totalIncome g chart hdraws hhub hnaming

theorem addSavings_adds (stats : SankeyStats) (hubIdx : ℕ) :
    Adds (addSavings M stats hubIdx) hubIdx .totalIncome (savingsChart stats.netSavings) := by
  intro g chart hdraws hhub hnaming
  rw [addSavings]
  rw [savingsChart] at hnaming ⊢
  split at hnaming
  · rename_i hpos
    rw [if_pos hpos, if_pos hpos]
    obtain ⟨g₁, idx, hnode, hdraws₁, hat, hextends⟩ := addNode_draws M hdraws hnaming "Net Savings"
      stats.netSavings "#10b981" (some stats.savingsRate)
    obtain ⟨g₂, hlink, hdraws₂, hnodes⟩ := addLink_draws hdraws₁
      { source := .totalIncome, target := .netSavings, value := stats.netSavings }
        (hhub.mono hextends) hat hpos "#10b981"
    rw [append_single] at hdraws₂
    have hnode' : addNode M g "savings_net" "Net Savings" stats.netSavings "#10b981" .savings
      (some stats.savingsRate) = (g₁, idx) := hnode
    exact ⟨g₂, by rw [hnode']; exact hlink, hdraws₂, hnodes ▸ hextends⟩
  · rename_i hpos
    rw [if_neg hpos, if_neg hpos]
    exact adds_empty hubIdx .totalIncome g chart hdraws hhub hnaming

/-- The hub is the first node. -/
theorem hub_drawn (key : NodeKey) (name : String) (amount : Decimal) (color : String) :
    ∃ g, addNode M { nodes := [], links := [] } key.id name amount color key.categoryType none =
        (g, 0) ∧ Draws g (.node key) ∧ ShowsAt g 0 key :=
  ⟨_, rfl, ⟨.cons ⟨rfl, rfl⟩ .nil, .nil⟩, _, rfl, rfl, rfl⟩

theorem fullLayout_draws {flows : CashFlows} (h : flows.IsConsistent) (includeSub : Bool) :
    ∃ g, fullLayout M includeSub flows = some g ∧ Draws g (incomeChart includeSub flows) := by
  have hsound := isSound_incomeChart h includeSub
  obtain ⟨g, hnode, hdraws, hat⟩ := hub_drawn M .totalIncome "Total Income"
    (max flows.totalInflow flows.totalOutflow) "#0d9488"
  have hsources : Adds
      (fun g ↦ flows.inflowBySource.foldlM (addSource M flows.totalInflow 0) g) 0 .totalIncome
        (.join sourceChart flows.inflowBySource) :=
    Adds.foldlM fun source hsource ↦ addSource_adds M flows.totalInflow 0
      (h.inflows.pos source hsource)
  have hnode' : addNode M { nodes := [], links := [] } "hub_total_income" "Total Income"
    (max flows.totalInflow flows.totalOutflow) "#0d9488" .hub none = (g, 0) := hnode
  have hsteps := ((hsources.bind (addDeficit_adds M (sankeyStats flows) 0)).bind
    (addCategories_adds M h includeSub flows.totalOutflow 0 .totalIncome)).bind
      (addSavings_adds M (sankeyStats flows) 0)
  have hchart : incomeChart includeSub flows = .node .totalIncome ++
      (.join sourceChart flows.inflowBySource ++ deficitChart (sankeyStats flows).netSavings ++
        .join (categoryChart includeSub .totalIncome) (sortedCategories flows) ++
          savingsChart (sankeyStats flows).netSavings) := by
    simp only [incomeChart, Chart.append_assoc]
    rfl
  rw [hchart] at hsound ⊢
  obtain ⟨g', hstep, hdraws', -⟩ := hsteps g _ hdraws hat ⟨hsound.nodup, hsound.plain⟩
  refine ⟨g', ?_, hdraws'⟩
  simp only [Option.bind_assoc] at hstep
  rw [fullLayout, sankeyStats]
  simp only [hnode']
  exact hstep

theorem spendingLayout_draws {flows : CashFlows} (h : flows.IsConsistent) (includeSub : Bool) :
    ∃ g, spendingLayout M includeSub flows = some g ∧ Draws g (spendingChart includeSub flows) := by
  have hsound := isSound_spendingChart h includeSub
  obtain ⟨g, hnode, hdraws, hat⟩ := hub_drawn M .totalSpending "Total Spending"
    flows.totalOutflow "#64748b"
  obtain ⟨g', hloop, hdraws', -⟩ := addCategories_adds M h includeSub flows.totalOutflow 0
    .totalSpending g _ hdraws hat ⟨hsound.nodup, hsound.plain⟩
  refine ⟨g', ?_, hdraws'⟩
  have hnode' : addNode M { nodes := [], links := [] } "hub_total_spending" "Total Spending"
    flows.totalOutflow "#64748b" .hub none = (g, 0) := hnode
  simp only [spendingLayout, hnode']
  exact hloop

/-- **`computeSankeyData` draws the chart of its flows**, and does not throw. -/
theorem exists_drawing (transactions : List Transaction) (includeSubcategories : Option Bool) :
    ∃ result, computeSankeyData M transactions includeSubcategories = some result ∧
      result.stats = sankeyStats (cashFlows M transactions) ∧
      (result.hasIncome ↔ 0 < (cashFlows M transactions).totalInflow) ∧
      Draws { nodes := result.nodes, links := result.links }
        (sankeyChart (includeSubcategories.getD true) (cashFlows M transactions)) := by
  have h := isConsistent_cashFlows M transactions
  let result (g : SankeyGraph) (hasData hasIncome : Bool) : SankeyCalculationResult :=
    { nodes := g.nodes
      links := g.links
      stats := sankeyStats (cashFlows M transactions)
      hasData := hasData
      hasIncome := hasIncome }
  rcases lt_or_ge 0 (cashFlows M transactions).totalInflow with hincome | hincome
  · obtain ⟨g, hlayout, hdraws⟩ := fullLayout_draws M h (includeSubcategories.getD true)
    rw [sankeyChart, if_pos hincome]
    refine ⟨result g true true, ?_, rfl, by simp [result, hincome], hdraws⟩
    simp [computeSankeyData, sankeyStats, hincome, hlayout, result]
  have hnone := hincome.not_gt
  rcases lt_or_ge 0 (cashFlows M transactions).totalOutflow with hspending | hspending
  · obtain ⟨g, hlayout, hdraws⟩ := spendingLayout_draws M h (includeSubcategories.getD true)
    rw [sankeyChart, if_neg hnone, if_pos hspending]
    refine ⟨result g true false, ?_, rfl, by simp [result, hincome], hdraws⟩
    simp [computeSankeyData, sankeyStats, hnone, hspending, hlayout, result]
  · have hneither := hspending.not_gt
    rw [sankeyChart, if_neg hnone, if_neg hneither]
    refine ⟨result { nodes := [], links := [] } false false, ?_, rfl, by simp [result, hincome],
      .nil, .nil⟩
    simp [computeSankeyData, sankeyStats, hnone, hneither, result]

/-! ### Flows of the graph -/

/-- The flow of a link, between ids. -/
def SankeyLinkData.flow (link : SankeyLinkData) : NodeFlow String Decimal where
  source := link.sourceId
  target := link.targetId
  value := link.value

/-- What flows into the node with an id. -/
def valueInto (links : List SankeyLinkData) (id : String) : Decimal :=
  NodeFlow.into id (links.map SankeyLinkData.flow)

/-- What flows out of the node with an id. -/
def valueOutOf (links : List SankeyLinkData) (id : String) : Decimal :=
  NodeFlow.outOf id (links.map SankeyLinkData.flow)

/-- The flow of a link, between indices. -/
def SankeyLinkData.indexFlow (link : SankeyLinkData) : NodeFlow ℕ Decimal where
  source := link.source
  target := link.target
  value := link.value

/-- The nodes have ids of their own, and the links lead from left to right, between nodes of the
graph, without cycles. -/
structure IsFlowGraph (nodes : List SankeyNodeData) (links : List SankeyLinkData) : Prop where
  ids_nodup : (nodes.map SankeyNodeData.id).Nodup
  forward : ∀ link ∈ links, ∃ source target, nodes[link.source]? = some source ∧
    nodes[link.target]? = some target ∧ link.sourceId = source.id ∧ link.targetId = target.id ∧
      source.categoryType.layer < target.categoryType.layer
  acyclic : ∀ idx,
    ¬Relation.TransGen (NodeFlow.Leads (links.map SankeyLinkData.indexFlow)) idx idx

section Transfer

variable {g : SankeyGraph} {chart : Chart} {kinds : List CategoryType}

/-- The sums of the graph are those of the chart. -/
theorem valueInto_eq {links : List SankeyLinkData} {flows : List (NodeFlow NodeKey Decimal)}
    (hlinks : List.Forall₂ (Joins g) links flows)
    (hflows : ∀ f ∈ flows, f.source.IsPlain ∧ f.target.IsPlain) {key : NodeKey}
    (hkey : key.IsPlain) : valueInto links key.id = NodeFlow.into key flows ∧
      valueOutOf links key.id = NodeFlow.outOf key flows := by
  induction hlinks with
  | nil => exact ⟨rfl, rfl⟩
  | @cons link flow links flows hjoins _ ih =>
    obtain ⟨hinto, houtOf⟩ := ih fun f hf ↦ hflows f (List.mem_cons_of_mem _ hf)
    obtain ⟨hsource, htarget⟩ := hflows flow List.mem_cons_self
    have hsourceIff : link.sourceId = key.id ↔ flow.source = key := by
      rw [hjoins.sourceId]
      exact ⟨NodeKey.id_injective hsource hkey, fun h ↦ congrArg NodeKey.id h⟩
    have htargetIff : link.targetId = key.id ↔ flow.target = key := by
      rw [hjoins.targetId]
      exact ⟨NodeKey.id_injective htarget hkey, fun h ↦ congrArg NodeKey.id h⟩
    rw [valueInto] at hinto ⊢
    rw [valueOutOf] at houtOf ⊢
    simp only [List.map_cons, NodeFlow.into_cons, NodeFlow.outOf_cons, hinto, houtOf,
      SankeyLinkData.flow, hsourceIff, htargetIff, hjoins.value, and_self]

/-- **A drawing of a sound chart** is a flow graph. -/
theorem isFlowGraph_of_draws (hdraws : Draws g chart) (hsound : chart.IsSound kinds) :
    IsFlowGraph g.nodes g.links := by
  have hids : g.nodes.map SankeyNodeData.id = chart.keys.map NodeKey.id := by
    have hnodes := hdraws.nodes
    generalize g.nodes = nodes at hnodes
    generalize chart.keys = keys at hnodes
    induction hnodes with
    | nil => rfl
    | cons hshows _ ih => rw [List.map_cons, List.map_cons, hshows.1, ih]
  have hforward : ∀ link ∈ g.links, ∃ source target, g.nodes[link.source]? = some source ∧
      g.nodes[link.target]? = some target ∧ link.sourceId = source.id ∧
        link.targetId = target.id ∧ source.categoryType.layer < target.categoryType.layer := by
    intro link hlink
    obtain ⟨flow, hflow, hjoins⟩ := exists_mem_of_forall₂ hdraws.links hlink
    obtain ⟨source, hsource, hsourceId, hsourceType⟩ := hjoins.source
    obtain ⟨target, htarget, htargetId, htargetType⟩ := hjoins.target
    have hlayer := (hsound.forward flow hflow).2.2
    rw [← hsourceType, ← htargetType] at hlayer
    exact ⟨source, target, hsource, htarget, hjoins.sourceId.trans hsourceId.symm,
      hjoins.targetId.trans htargetId.symm, hlayer⟩
  refine ⟨?_, hforward, ?_⟩
  · rw [hids]
    exact hsound.nodup.map_on fun a ha b hb ↦
      NodeKey.id_injective (hsound.plain a ha) (hsound.plain b hb)
  · -- the layer of the node at an index is its rank
    refine NodeFlow.not_cyclic_of_rank
      (fun idx ↦ (g.nodes[idx]?.map fun node ↦ node.categoryType.layer).getD 0) fun f hf ↦ ?_
    obtain ⟨link, hlink, rfl⟩ := List.mem_map.1 hf
    obtain ⟨source, target, hsource, htarget, -, -, hlayer⟩ := hforward link hlink
    simpa only [SankeyLinkData.indexFlow, hsource, htarget, Option.map_some, Option.getD_some]
      using hlayer

end Transfer

/-- **The diagram is a balanced flow graph.** -/
theorem computeSankeyData_balanced (transactions : List Transaction)
    (includeSubcategories : Option Bool) :
    ∃ result, computeSankeyData M transactions includeSubcategories = some result ∧
      IsFlowGraph result.nodes result.links ∧
      (result.hasIncome = true →
        valueInto result.links "hub_total_income" = valueOutOf result.links "hub_total_income" ∧
        valueInto result.links "hub_total_income" =
          max result.stats.totalInflow result.stats.totalOutflow) ∧
      (result.hasIncome = false →
        valueOutOf result.links "hub_total_spending" = result.stats.totalOutflow) ∧
      ∀ node ∈ result.nodes, node.categoryType = .outflow →
        (∃ link ∈ result.links, link.sourceId = node.id) →
          valueInto result.links node.id = valueOutOf result.links node.id := by
  obtain ⟨result, hresult, hstats, hincome, hdraws⟩ :=
    exists_drawing M transactions includeSubcategories
  have h := isConsistent_cashFlows M transactions
  generalize cashFlows M transactions = flows at hstats hincome hdraws h
  generalize includeSubcategories.getD true = includeSub at hdraws
  obtain ⟨kinds, hsound⟩ := isSound_sankeyChart h includeSub
  have hplain : ∀ f ∈ (sankeyChart includeSub flows).flows, f.source.IsPlain ∧ f.target.IsPlain :=
    fun f hf ↦ ⟨(hsound.forward f hf).1, (hsound.forward f hf).2.1⟩
  refine ⟨result, hresult, isFlowGraph_of_draws hdraws hsound, fun hhas ↦ ?_, fun hnone ↦ ?_,
    fun node hnode hkind hlinked ↦ ?_⟩
  · have hhub : NodeKey.totalIncome.IsPlain := trivial
    obtain ⟨hinto, houtOf⟩ := valueInto_eq hdraws.links hplain hhub
    obtain ⟨hintoMax, houtOfMax⟩ := totalIncome_balanced h includeSub
    rw [sankeyChart, if_pos (hincome.1 hhas)] at hinto houtOf
    rw [hstats]
    exact ⟨(hinto.trans hintoMax).trans (houtOf.trans houtOfMax).symm, hinto.trans hintoMax⟩
  · have hhub : NodeKey.totalSpending.IsPlain := trivial
    have hno : ¬0 < flows.totalInflow := fun hlt ↦ by simp [hincome.2 hlt] at hnone
    have houtOf := (valueInto_eq hdraws.links hplain hhub).2
    rw [sankeyChart, if_neg hno] at houtOf
    rw [hstats]
    refine houtOf.trans ?_
    show _ = flows.totalOutflow
    split
    · exact outOf_totalSpending h includeSub
    · rename_i hzero
      exact le_antisymm h.totalOutflow_nonneg (not_lt.1 hzero)
  · obtain ⟨key, hkey, hid, hcategoryType⟩ := exists_mem_of_forall₂ hdraws.nodes hnode
    obtain ⟨category, hmem, rfl⟩ :=
      exists_category h includeSub hkey (hcategoryType.symm.trans hkind)
    obtain ⟨link, hlink, hsourceId⟩ := hlinked
    obtain ⟨flow, hflow, hjoins⟩ := exists_mem_of_forall₂ hdraws.links hlink
    have hcategory : (NodeKey.category category.1).IsPlain := trivial
    -- the link leaves the node of the category
    have hsource : flow.source = .category category.1 :=
      NodeKey.id_injective (hplain flow hflow).1 hcategory
        (hjoins.sourceId.symm.trans (hsourceId.trans hid))
    obtain ⟨hinto, houtOf⟩ := valueInto_eq hdraws.links hplain hcategory
    rw [hid]
    exact (hinto.trans (category_balanced h includeSub hmem hflow hsource)).trans houtOf.symm

end Sumurai.Frontend
