import Mathlib.Algebra.Order.Group.Unbundled.Abs
import Sumurai.Foundations.AssocMap
import Sumurai.Foundations.OrderBy
import Sumurai.Frontend.Transactions

/-!
# The cash flow diagram

`domain/SankeyCalculator.ts` makes a graph of a list of transactions: the money that came in, by
source, flows into a hub, and from there into the categories it was spent in and their
subcategories. It first adds up the flows (`addTransaction`), and then draws them
(`computeSankeyData`).

A `Map` iterates in the order of insertion, which is the order of an association list. Amounts are
exact, so rounding to two decimals changes none. The nodes are looked up by their ids where the code
has `nodeIndexMap`, which is written together with `nodes` only. What the code would throw on, a
link from or to a node that does not exist, is `none`.
-/

namespace Sumurai.Frontend

variable (M : CaseMapping)

/-! ### Colors -/

/-- `CATEGORY_COLORS`. -/
def CATEGORY_COLORS : List (String × String) :=
  [("earned income", "#10b981"), ("income", "#10b981"), ("paycheck", "#059669"),
    ("salary", "#059669"), ("bonus", "#34d399"), ("net savings", "#10b981"),
    ("from savings", "#f59e0b"), ("total income", "#0d9488"), ("total spending", "#64748b"),
    ("bills & utilities", "#0284c7"), ("food & dining", "#f43f5e"), ("groceries", "#84cc16"),
    ("home management", "#6366f1"), ("home improvement", "#06b6d4"), ("shopping", "#8b5cf6"),
    ("transportation", "#f97316"), ("medical", "#ec4899"), ("education", "#14b8a6"),
    ("entertainment", "#3b82f6"), ("childcare", "#d946ef"), ("insurance", "#0284c7"),
    ("pets", "#eab308"), ("gifts & donations", "#e11d48"), ("travel", "#0ea5e9"),
    ("other", "#64748b"), ("uncategorized", "#94a3b8")]

/-- `PALETTE`. -/
def PALETTE : List String :=
  ["#0ea5e9", "#8b5cf6", "#10b981", "#f59e0b", "#f43f5e", "#06b6d4", "#6366f1", "#84cc16",
    "#ec4899", "#d946ef", "#3b82f6"]

/-- `getCategoryColor`. -/
def getCategoryColor (categoryName : String) (index : ℕ) : String :=
  let norm := trimLower M categoryName
  match (CATEGORY_COLORS.find? fun entry ↦ entry.1.toList = norm).or
      (CATEGORY_COLORS.find? fun entry ↦ entry.1.toList <:+: norm) with
  | some entry => entry.2
  | none => PALETTE.getD (index % PALETTE.length) ""

/-! ### Minor subcategories -/

/-- `groupMinorSubcategories`. The threshold on the share is a percentage. -/
def groupMinorSubcategories (subs : List (String × Decimal)) (categoryTotal : Decimal)
    (thresholdAmount : Decimal) (thresholdPct : ℤ) : List (String × Decimal) :=
  if subs.length ≤ 3 then subs
  else
    let isMinor (sub : String × Decimal) : Bool :=
      sub.2 < thresholdAmount ∧ (0 < categoryTotal → 100 * sub.2 < thresholdPct * categoryTotal)
    let primary := subs.filter fun sub ↦ !isMinor sub
    let minor := subs.filter isMinor
    let otherTotal := (minor.map Prod.snd).sum
    if 2 ≤ minor.length ∧ 0 < otherTotal then
      (primary ++ [("Other", otherTotal)]).insertionSort (OrderBy.desc Prod.snd)
    else subs

/-! ### Adding up the flows -/

/-- An entry of `outflowByCategory`. -/
structure CategoryOutflow where
  total : Decimal
  subcategories : List (String × Decimal)
deriving DecidableEq, Repr

/-- The accumulators of `computeSankeyData`. -/
structure CashFlows where
  inflowBySource : List (String × Decimal)
  outflowByCategory : List (String × CategoryOutflow)
  totalInflow : Decimal
  totalOutflow : Decimal
  inflowCount : ℕ
  outflowCount : ℕ
deriving DecidableEq, Repr

/-- No flows. -/
def CashFlows.empty : CashFlows where
  inflowBySource := []
  outflowByCategory := []
  totalInflow := 0
  totalOutflow := 0
  inflowCount := 0
  outflowCount := 0

/-- `s.toLowerCase().includes(part)`. -/
def mentions (s part : String) : Bool :=
  part.toList <:+: M.lowerCase s.toList

/-- `rawCategory`. -/
def rawCategory (t : Transaction) : String :=
  (t.customCategory.or t.ruleCategory).getD t.category.primary

/-- Transfers between accounts, and payments of credit cards. -/
def isTransferFlow (t : Transaction) (resolvedMajor : String) : Bool :=
  M.lowerCase resolvedMajor.toList = "transfer".toList ||
    t.category.detailed.any fun detailed ↦
      detailed ≠ "" && (mentions M detailed "credit card payment" ||
        mentions M detailed "cash spending transfer")

/-- `isIncomeCategory`. -/
def isIncomeCategory (rawCategory resolvedMajor : String) : Bool :=
  M.lowerCase resolvedMajor.toList = "earned income".toList ||
    M.lowerCase resolvedMajor.toList = "tax refund".toList ||
      mentions M rawCategory "income" || mentions M rawCategory "paycheck" ||
        mentions M rawCategory "salary" || mentions M rawCategory "bonus"

/-- `isDepositoryInflow`. -/
def isDepositoryInflow (t : Transaction) : Bool :=
  M.lowerCase t.accountType.toList ∈ ["depository".toList, "checking".toList, "savings".toList] &&
    0 < getDisplayAmount M t && !isSpendingTransaction M t

/-- The detailed category that a flow is named after. -/
def rawDetailed (t : Transaction) : Option String :=
  (t.customSubcategory.or t.ruleSubcategory).or t.category.detailed

/-- `sourceName`. -/
def sourceName (t : Transaction) (rawCategory : String) : String :=
  formatCategoryName M <|
    ((rawDetailed t).filter fun detailed ↦
      detailed ≠ "" ∧ M.lowerCase detailed.toList ≠ "other".toList).getD
        (if rawCategory = "" then "Paycheck" else rawCategory)

/-- `subName`. -/
def subName (t : Transaction) (rawCategory catKey : String) : String :=
  let subRaw := (rawDetailed t).getD rawCategory
  let isGeneric : Bool :=
    subRaw = "" ||
      trimLower M subRaw ∈ ["other".toList, "general".toList, "uncategorized".toList] ||
      trimLower M subRaw = trimLower M catKey || "other ".toList <+: trimLower M subRaw ||
        "general ".toList <+: trimLower M subRaw
  formatCategoryName M (if isGeneric then catKey else subRaw)

/-- One more inflow. -/
def CashFlows.addInflow (flows : CashFlows) (sourceName : String) (inflowAmt : Decimal) :
    CashFlows :=
  { flows with
    inflowBySource := AssocMap.addTo sourceName inflowAmt flows.inflowBySource
    totalInflow := flows.totalInflow + inflowAmt
    inflowCount := flows.inflowCount + 1 }

/-- One more outflow. -/
def CashFlows.addOutflow (flows : CashFlows) (catKey subName : String) (netSpend : Decimal) :
    CashFlows :=
  { flows with
    outflowByCategory :=
      AssocMap.modifyOrDefault catKey { total := 0, subcategories := [] }
        (fun entry ↦
          { total := entry.total + netSpend
            subcategories := AssocMap.addTo subName netSpend entry.subcategories })
        flows.outflowByCategory
    totalOutflow := flows.totalOutflow + netSpend
    outflowCount := flows.outflowCount + 1 }

/-- The body of the loop over the transactions. -/
def addTransaction (flows : CashFlows) (t : Transaction) : CashFlows :=
  let raw := rawCategory t
  let resolvedMajor := resolveMajorCategory M raw []
  let displayAmount := getDisplayAmount M t
  let inflowAmt := |if 0 < displayAmount then displayAmount else t.amount|
  if t.pending = some true then flows
  else if isTransferFlow M t resolvedMajor then flows
  else if (isIncomeCategory M raw resolvedMajor || isDepositoryInflow M t) && 0 < inflowAmt then
    flows.addInflow (sourceName M t raw) inflowAmt
  else if isSpendingTransaction M t && 0 < getNetSpendingAmount M t then
    flows.addOutflow resolvedMajor (subName M t raw resolvedMajor) (getNetSpendingAmount M t)
  else flows

/-- The loop over the transactions. -/
def cashFlows (transactions : List Transaction) : CashFlows :=
  transactions.foldl (addTransaction M) CashFlows.empty

/-! ### Figures -/

/-- `Math.round((part / whole) * scale)` of a positive whole, halves up, and zero of any other. -/
def roundedShare (scale : ℤ) (part whole : Decimal) : ℤ :=
  if 0 < whole then (2 * scale * part + whole) / (2 * whole) else 0

/-- `topExpenseCategory`. -/
structure TopExpense where
  name : String
  amount : Decimal
  percentage : ℤ
deriving DecidableEq, Repr

/-- `SankeyStats`. The savings rate is a number of tenths. -/
structure SankeyStats where
  totalInflow : Decimal
  totalOutflow : Decimal
  netSavings : Decimal
  savingsRate : ℤ
  topExpenseCategory : Option TopExpense
  inflowCount : ℕ
  outflowCount : ℕ
deriving DecidableEq, Repr

/-- The loop over the categories for the largest one, the first of equals. -/
def topExpense (flows : CashFlows) : Option TopExpense :=
  (flows.outflowByCategory.foldl
    (fun (best : Decimal × Option TopExpense) entry ↦
      if best.1 < entry.2.total then
        (entry.2.total, some
          { name := entry.1
            amount := entry.2.total
            percentage := roundedShare 100 entry.2.total flows.totalOutflow })
      else best)
    (0, none)).2

/-- `stats`. -/
def sankeyStats (flows : CashFlows) : SankeyStats where
  totalInflow := flows.totalInflow
  totalOutflow := flows.totalOutflow
  netSavings := flows.totalInflow - flows.totalOutflow
  savingsRate := roundedShare 1000 (flows.totalInflow - flows.totalOutflow) flows.totalInflow
  topExpenseCategory := topExpense flows
  inflowCount := flows.inflowCount
  outflowCount := flows.outflowCount

/-! ### The graph -/

/-- `categoryType`. -/
inductive CategoryType where
  | inflow | outflow | hub | savings | deficit | subcategory
deriving DecidableEq, Repr

/-- `SankeyNodeData`. The percentage is a number of tenths. -/
structure SankeyNodeData where
  id : String
  name : String
  formattedName : String
  amount : Decimal
  color : String
  categoryType : CategoryType
  percentage : Option ℤ
deriving DecidableEq, Repr

/-- `SankeyLinkData`. -/
structure SankeyLinkData where
  source : ℕ
  target : ℕ
  value : Decimal
  sourceId : String
  targetId : String
  sourceName : String
  targetName : String
  color : String
deriving DecidableEq, Repr

/-- `nodes` and `links`. -/
structure SankeyGraph where
  nodes : List SankeyNodeData
  links : List SankeyLinkData
deriving DecidableEq, Repr

/-- `addNode`: the graph with the node, and the index of the node. -/
def addNode (g : SankeyGraph) (id name : String) (amount : Decimal) (color : String)
    (categoryType : CategoryType) (percentage : Option ℤ) : SankeyGraph × ℕ :=
  match g.nodes.findIdx? fun node ↦ node.id = id with
  | some index => (g, index)
  | none =>
    let node :=
      { id, name, formattedName := formatCategoryName M name, amount, color, categoryType,
        percentage }
    ({ g with nodes := g.nodes ++ [node] }, g.nodes.length)

/-- `addLink`, unless it throws. -/
def addLink (g : SankeyGraph) (sourceIdx targetIdx : ℕ) (value : Decimal) (color : String) :
    Option SankeyGraph :=
  if value ≤ 0 then some g
  else do
    let sourceNode ← g.nodes[sourceIdx]?
    let targetNode ← g.nodes[targetIdx]?
    let link :=
      { source := sourceIdx
        target := targetIdx
        value := value
        sourceId := sourceNode.id
        targetId := targetNode.id
        sourceName := sourceNode.name
        targetName := targetNode.name
        color := if color = "" then sourceNode.color else color }
    return { g with links := g.links ++ [link] }

/-- The body of the loop over the sources. -/
def addSource (totalInflow : Decimal) (hubIdx : ℕ) (g : SankeyGraph) (source : String × Decimal) :
    Option SankeyGraph := do
  let (g, srcIdx) := addNode M g ("inflow_" ++ source.1) source.1 source.2
    (getCategoryColor M source.1 0) .inflow (some (10 * roundedShare 100 source.2 totalInflow))
  let srcNode ← g.nodes[srcIdx]?
  addLink g srcIdx hubIdx source.2 srcNode.color

/-- The body of the loop over the subcategories of a category. -/
def addSubcategory (catName : String) (catTotal : Decimal) (catIdx : ℕ) (g : SankeyGraph)
    (sub : String × Decimal) : Option SankeyGraph := do
  let catNode ← g.nodes[catIdx]?
  let (g, subIdx) := addNode M g ("sub_" ++ catName ++ "_" ++ sub.1) sub.1 sub.2 catNode.color
    .subcategory (some (10 * roundedShare 100 sub.2 catTotal))
  addLink g catIdx subIdx sub.2 catNode.color

/-- `sortedSubs`. -/
def sortedSubs (catData : CategoryOutflow) : List (String × Decimal) :=
  groupMinorSubcategories (catData.subcategories.insertionSort (OrderBy.desc Prod.snd))
    catData.total 3000 5

/-- The body of the loop over the categories, which both layouts have. -/
def addCategory (includeSub : Bool) (totalOutflow : Decimal) (hubIdx : ℕ) (g : SankeyGraph)
    (category : String × CategoryOutflow) : Option SankeyGraph := do
  let (catName, catData) := category
  let (g, catIdx) := addNode M g ("cat_" ++ catName) catName catData.total
    (getCategoryColor M catName 0) .outflow
      (some (10 * roundedShare 100 catData.total totalOutflow))
  let catNode ← g.nodes[catIdx]?
  let g ← addLink g hubIdx catIdx catData.total catNode.color
  if includeSub ∧ 0 < catData.subcategories.length then
    (sortedSubs catData).foldlM (addSubcategory M catName catData.total catIdx) g
  else return g

/-- `sortedCategories`. -/
def sortedCategories (flows : CashFlows) : List (String × CategoryOutflow) :=
  flows.outflowByCategory.insertionSort (OrderBy.desc fun entry ↦ entry.2.total)

/-- The node that makes up for what is spent beyond the income. -/
def addDeficit (stats : SankeyStats) (hubIdx : ℕ) (g : SankeyGraph) : Option SankeyGraph :=
  if stats.netSavings < 0 then
    let (g, defIdx) := addNode M g "inflow_from_savings" "From Savings" |stats.netSavings|
      "#f59e0b" .deficit none
    addLink g defIdx hubIdx |stats.netSavings| "#f59e0b"
  else some g

/-- The node for what is left of the income. -/
def addSavings (stats : SankeyStats) (hubIdx : ℕ) (g : SankeyGraph) : Option SankeyGraph :=
  if 0 < stats.netSavings then
    let (g, savIdx) := addNode M g "savings_net" "Net Savings" stats.netSavings "#10b981" .savings
      (some stats.savingsRate)
    addLink g hubIdx savIdx stats.netSavings "#10b981"
  else some g

/-- The layout with income. -/
def fullLayout (includeSub : Bool) (flows : CashFlows) : Option SankeyGraph := do
  let stats := sankeyStats flows
  let (g, hubIdx) := addNode M { nodes := [], links := [] } "hub_total_income" "Total Income"
    (max stats.totalInflow stats.totalOutflow) "#0d9488" .hub none
  let g ← flows.inflowBySource.foldlM (addSource M stats.totalInflow hubIdx) g
  let g ← addDeficit M stats hubIdx g
  let g ← (sortedCategories flows).foldlM (addCategory M includeSub stats.totalOutflow hubIdx) g
  addSavings M stats hubIdx g

/-- The layout without income. -/
def spendingLayout (includeSub : Bool) (flows : CashFlows) : Option SankeyGraph := do
  let (g, hubIdx) := addNode M { nodes := [], links := [] } "hub_total_spending" "Total Spending"
    flows.totalOutflow "#64748b" .hub none
  (sortedCategories flows).foldlM (addCategory M includeSub flows.totalOutflow hubIdx) g

/-- `SankeyCalculationResult`. -/
structure SankeyCalculationResult where
  nodes : List SankeyNodeData
  links : List SankeyLinkData
  stats : SankeyStats
  hasData : Bool
  hasIncome : Bool
deriving DecidableEq, Repr

/-- `computeSankeyData`, unless it throws. -/
def computeSankeyData (transactions : List Transaction) (includeSubcategories : Option Bool) :
    Option SankeyCalculationResult := do
  let includeSub := includeSubcategories.getD true
  let flows := cashFlows M transactions
  let stats := sankeyStats flows
  if 0 < stats.totalInflow ∨ 0 < stats.totalOutflow then
    let g ← if 0 < stats.totalInflow then fullLayout M includeSub flows
      else spendingLayout M includeSub flows
    return {
      nodes := g.nodes
      links := g.links
      stats := stats
      hasData := true
      hasIncome := 0 < stats.totalInflow }
  else
    return { nodes := [], links := [], stats := stats, hasData := false, hasIncome := false }

end Sumurai.Frontend
