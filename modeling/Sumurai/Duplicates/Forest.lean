import Sumurai.Duplicates.Links
import Sumurai.Foundations.Runs

/-!
# The forest of duplicate links

Every reader of transactions goes one link up and no further: a hidden row is meant to stand behind
a visible one, and the override join of `get_transactions_with_account_for_user` looks at the rows
directly behind a row. Both are right as long as the links form a forest of depth one
(`DuplicatesForest`).

Each statement that sets links looks only at its own candidates: neither checks whether the row it
hides is itself the target of a link. `forest_throughout_iff` says that this is the one way to
lose the forest. Along any sequence of statements from a store without transactions, the forest is
kept throughout exactly if no statement links a row that another row is linked to
(`LinksNoTarget`).

The induction carries `LinksSound`: ids are unique, and every link leads to a row of the same user.
-/

open LabelledSystem

namespace Sumurai

/-- The statements that write transactions, their links and their overrides. -/
inductive DuplicateOp where
  | upsertTransaction (now : Timestamp) (t : Transaction)
  | mergeDuplicateProviderTransactions (userId connectionId : Uuid)
  | markTransactionDuplicate (now : Timestamp) (transactionId userId : Uuid)
  | autoResolvePendingDuplicates (now : Timestamp) (userId : Uuid) (connectionId : Option Uuid)
  | setTransactionCategoryOverride (now : Timestamp) (transactionId userId : Uuid)
      (categoryName : String) (subcategoryName : Option String)
deriving DecidableEq, Repr

/-- The store after a statement: one that fails changes nothing. -/
def committed (db : Store) : Except DbError Store → Store
  | .ok db' => db'
  | .error _ => db

/-- One statement. -/
def duplicateStep (L : Locale) (db : Store) : DuplicateOp → Store
  | .upsertTransaction now t => committed db (upsertTransaction db now t)
  | .mergeDuplicateProviderTransactions userId connectionId =>
    (mergeDuplicateProviderTransactions L db userId connectionId).1
  | .markTransactionDuplicate now transactionId userId =>
    committed db (markTransactionDuplicate L db now transactionId userId)
  | .autoResolvePendingDuplicates now userId connectionId =>
    (autoResolvePendingDuplicates L db now userId connectionId).1
  | .setTransactionCategoryOverride now transactionId userId categoryName subcategoryName =>
    committed db
      (setTransactionCategoryOverride db now transactionId userId categoryName subcategoryName)

/-- **The links form a forest of depth one**: every link leads to a visible row of the same user,
whose category join reaches every override left on the hidden row. -/
def DuplicatesForest (db : Store) : Prop :=
  ∀ t ∈ db.transactions, ∀ d, t.duplicateOfTransactionId = some d →
    ∃ c ∈ db.transactions, c.id = d ∧ c.userId = t.userId ∧ c.visible = true ∧
      ∀ o ∈ db.transactionCategoryOverrides, o.transactionId = t.id →
        (t, o) ∈ hiddenOverrides db o.userId c.id ∧
          (customCategory db o.userId c.id).isSome = true

/-- The rows that a statement links: for a mark, the user's unlinked row if it has a candidate; for
resolving, the pending rows that some posted row matches. -/
def linkedRows (L : Locale) (db : Store) : DuplicateOp → List TransactionRow
  | .markTransactionDuplicate _ transactionId userId =>
    db.transactions.filter fun s ↦
      s.id = transactionId && s.userId = some userId && s.duplicateOfTransactionId.isNone &&
        db.transactions.any (isMarkCandidate userId s)
  | .autoResolvePendingDuplicates _ userId connectionId =>
    (pendingTx db userId connectionId).filter fun p ↦
      (postedTx db userId connectionId).any (isPostedMatch L p)
  | _ => []

/-- No row that the statement links is the target of a link. -/
def LinksNoTarget (L : Locale) (db : Store) (op : DuplicateOp) : Prop :=
  ∀ s ∈ linkedRows L db op, ∀ t ∈ db.transactions, t.duplicateOfTransactionId ≠ some s.id

instance (L : Locale) (db : Store) (op : DuplicateOp) : Decidable (LinksNoTarget L db op) :=
  inferInstanceAs (Decidable (∀ s ∈ linkedRows L db op, ∀ t ∈ db.transactions,
    t.duplicateOfTransactionId ≠ some s.id))

/-- What every statement keeps: ids are unique, and every link leads to a row of the same user. -/
structure LinksSound (db : Store) : Prop where
  uniqueIds : UniqueIds db
  target : ∀ t ∈ db.transactions, ∀ d, t.duplicateOfTransactionId = some d →
    ∃ c ∈ db.transactions, c.id = d ∧ c.userId = t.userId

/-! ### The invariant -/

section Invariant

variable {L : Locale} {db db' : Store}

theorem LinksSound.of_nil (h : db.transactions = []) : LinksSound db where
  uniqueIds := by rw [UniqueIds, h]; exact List.nodup_nil
  target := by simp [h]

/-- Sound links that lead to unlinked rows are a forest, and the other way round. -/
theorem LinksSound.forest_iff (h : LinksSound db) :
    DuplicatesForest db ↔ LinkGraph.OneLevel (linkOf db) := by
  constructor
  · intro hforest x y hxy
    obtain ⟨t, ht, -, hdup⟩ := exists_row_of_linkOf hxy
    obtain ⟨c, hc, rfl, -, hvisible, -⟩ := hforest t ht y hdup
    rw [linkOf_of_mem h.uniqueIds hc]
    exact Option.isNone_iff_eq_none.1 hvisible
  · intro hone t ht d hdup
    obtain ⟨c, hc, rfl, huser⟩ := h.target t ht d hdup
    have hfree : c.duplicateOfTransactionId = none := by
      rw [← linkOf_of_mem h.uniqueIds hc]
      exact hone t.id c.id (by rw [linkOf_of_mem h.uniqueIds ht, hdup])
    refine ⟨c, hc, rfl, huser, Option.isNone_iff_eq_none.2 hfree, fun o ho hot ↦ ?_⟩
    have hreached : (t, o) ∈ hiddenOverrides db o.userId c.id :=
      mem_hiddenOverrides.2 ⟨⟨ht, hdup⟩, ho, hot, rfl⟩
    exact ⟨hreached, customCategory_isSome_of_hidden hreached⟩

theorem LinksSound.upsertTransaction {now : Timestamp} {t : Transaction} (h : LinksSound db)
    (hup : upsertTransaction db now t = .ok db') : LinksSound db' := by
  refine ⟨uniqueIds_upsertTransaction hup h.uniqueIds, ?_⟩
  rcases upsertTransaction_cases hup with ⟨f, hdb, hf⟩ | ⟨r, hdb, -, hlink⟩
  · rw [hdb]
    intro t' ht' d hdup
    obtain ⟨t, ht, rfl⟩ := List.mem_map.1 ht'
    rw [(hf t).2.2.2] at hdup
    obtain ⟨c, hc, rfl, huser⟩ := h.target t ht d hdup
    refine ⟨f c, List.mem_map_of_mem hc, (hf c).1, ?_⟩
    rw [(hf c).2.2.1, (hf t).2.2.1, huser]
  · rw [hdb]
    intro t ht d hdup
    rcases List.mem_append.1 ht with ht | ht
    · obtain ⟨c, hc, hid, huser⟩ := h.target t ht d hdup
      exact ⟨c, List.mem_append_left _ hc, hid, huser⟩
    · obtain rfl := List.mem_singleton.1 ht
      rw [hlink] at hdup
      exact absurd hdup (by simp)

theorem LinksSound.deleteTransactions (h : LinksSound db) (doomed : TransactionRow → Bool) :
    LinksSound (deleteTransactions db doomed) := by
  refine ⟨uniqueIds_deleteTransactions doomed h.uniqueIds, fun t ht d hdup ↦ ?_⟩
  obtain ⟨r, hr, -, -, huser, hlink⟩ := mem_deleteTransactions ht
  rw [hdup] at hlink
  obtain ⟨hrd, hgone⟩ := Option.filter_eq_some_iff.1 hlink.symm
  obtain ⟨c, hc, rfl, hcuser⟩ := h.target r hr d hrd
  -- the target is not deleted, or its link would be gone
  have hkept : doomed c = false := by
    by_contra hne
    refine of_decide_eq_true hgone (List.mem_map_of_mem (List.mem_filter.2 ⟨hc, ?_⟩))
    simpa using hne
  refine ⟨_, List.mem_map_of_mem (List.mem_filter.2 ⟨hc, by simp [hkept]⟩), rfl, ?_⟩
  exact hcuser.trans huser.symm

theorem LinksSound.apply {plan : LinkPlan} (now : Timestamp) (h : LinksSound db)
    (hplan : plan.SameUser db) : LinksSound (plan.apply now db) := by
  refine ⟨uniqueIds_apply plan now h.uniqueIds, fun t' ht' d hdup ↦ ?_⟩
  have hlink : linkOf (plan.apply now db) t'.id = some d := by
    rw [linkOf_of_mem (uniqueIds_apply plan now h.uniqueIds) ht', hdup]
  rw [plan.apply_transactions] at ht'
  obtain ⟨t, ht, rfl⟩ := List.mem_map.1 ht'
  obtain ⟨hid, -, huser⟩ := plan.relinkRow_spec now t
  rw [hid, linkOf_apply, LinkGraph.overlay] at hlink
  -- the target, before its own row was rewritten
  obtain ⟨c, hc, rfl, hcuser⟩ : ∃ c ∈ db.transactions, c.id = d ∧ c.userId = t.userId := by
    rcases hnew : plan.newLinks db t.id with - | y
    · rw [hnew, Option.none_or, linkOf_of_mem h.uniqueIds ht] at hlink
      exact h.target t ht d hlink
    · rw [hnew, Option.some_or] at hlink
      obtain rfl := Option.some.inj hlink
      obtain ⟨s, hs, c, hc, hst, hcy, hcs⟩ := hplan t.id y hnew
      obtain rfl := List.inj_on_of_nodup_map h.uniqueIds hs ht hst
      exact ⟨c, hc, hcy, hcs⟩
  obtain ⟨hcid, -, hcuser'⟩ := plan.relinkRow_spec now c
  refine ⟨plan.relinkRow now c, List.mem_map_of_mem hc, hcid, ?_⟩
  rw [hcuser', huser, hcuser]

theorem LinksSound.of_transactions_eq (h : LinksSound db)
    (heq : db'.transactions = db.transactions) : LinksSound db' where
  uniqueIds := by rw [UniqueIds, heq]; exact h.uniqueIds
  target := by rw [heq]; exact h.target

/-- **Every statement keeps the invariant.** -/
theorem LinksSound.duplicateStep (h : LinksSound db) (op : DuplicateOp) :
    LinksSound (duplicateStep L db op) := by
  cases op with
  | upsertTransaction now t =>
    rw [Sumurai.duplicateStep]
    rcases hup : Sumurai.upsertTransaction db now t with e | db'
    · exact h
    · exact h.upsertTransaction hup
  | mergeDuplicateProviderTransactions userId connectionId =>
    obtain ⟨db', doomed, heq, hmerge⟩ :=
      mergeDuplicateProviderTransactions_eq L db userId connectionId
    rw [Sumurai.duplicateStep, hmerge]
    exact (h.of_transactions_eq heq).deleteTransactions doomed
  | markTransactionDuplicate now transactionId userId =>
    rw [Sumurai.duplicateStep, markTransactionDuplicate]
    rcases hplan : planMark L db transactionId userId with - | plan
    · exact h
    · exact h.apply now (admissible_of_planMark h.uniqueIds hplan).sameUser
  | autoResolvePendingDuplicates now userId connectionId =>
    exact h.apply now (admissible_matchedPairs h.uniqueIds).sameUser
  | setTransactionCategoryOverride now transactionId userId categoryName subcategoryName =>
    rw [Sumurai.duplicateStep]
    rcases hset : Sumurai.setTransactionCategoryOverride db now transactionId userId categoryName
      subcategoryName with e | db'
    · exact h
    · exact h.of_transactions_eq (setTransactionCategoryOverride_transactions hset)

end Invariant

/-! ### What one statement does to the forest -/

section Step

variable {L : Locale} {db : Store}

/-- **When a linking statement keeps one level**, for a plan that links the given rows. -/
theorem oneLevel_apply_iff {plan : LinkPlan} (now : Timestamp) (hids : UniqueIds db)
    (hone : LinkGraph.OneLevel (linkOf db)) (hplan : plan.Admissible db)
    {rows : List TransactionRow}
    (hrows : ∀ x, plan.newLinks db x ≠ none ↔ ∃ s ∈ rows, s.id = x) :
    LinkGraph.OneLevel (linkOf (plan.apply now db)) ↔
      ∀ s ∈ rows, ∀ t ∈ db.transactions, t.duplicateOfTransactionId ≠ some s.id := by
  rw [linkOf_apply,
    LinkGraph.oneLevel_overlay_iff hone hplan.fresh fun x y hxy ↦ hplan.free hids hxy]
  constructor
  · intro hfree s hs t ht hdup
    refine hfree s.id ((hrows s.id).2 ⟨s, hs, rfl⟩) t.id ?_
    rw [linkOf_of_mem hids ht, hdup]
  · intro hfree x hx y hyx
    obtain ⟨s, hs, rfl⟩ := (hrows x).1 hx
    obtain ⟨t, ht, -, hdup⟩ := exists_row_of_linkOf hyx
    exact hfree s hs t ht hdup

theorem mem_linkedRows_mark {now : Timestamp} {transactionId userId : Uuid} {s : TransactionRow} :
    s ∈ linkedRows L db (.markTransactionDuplicate now transactionId userId) ↔
      s ∈ db.transactions ∧ s.id = transactionId ∧ s.userId = some userId ∧
        s.duplicateOfTransactionId = none ∧
          ∃ t ∈ db.transactions, isMarkCandidate userId s t = true := by
  simp [linkedRows, and_assoc]

theorem mem_linkedRows_autoResolve {now : Timestamp} {userId : Uuid} {connectionId : Option Uuid}
    {p : TransactionRow} :
    p ∈ linkedRows L db (.autoResolvePendingDuplicates now userId connectionId) ↔
      p ∈ pendingTx db userId connectionId ∧
        ∃ post ∈ postedTx db userId connectionId, isPostedMatch L p post = true := by
  simp [linkedRows]

/-- A mark links its row, or finds nothing to link. -/
theorem newLinks_planMark (hids : UniqueIds db) {now : Timestamp} {transactionId userId : Uuid}
    {plan : LinkPlan} (hplan : planMark L db transactionId userId = some plan) (x : Uuid) :
    plan.newLinks db x ≠ none ↔
      ∃ s ∈ linkedRows L db (.markTransactionDuplicate now transactionId userId), s.id = x := by
  obtain ⟨s, hs, t, ht, rfl, huser, hfree, hcand, rfl⟩ := planMark_eq_some hplan
  have hmem : s ∈ linkedRows L db (.markTransactionDuplicate now s.id userId) :=
    mem_linkedRows_mark.2 ⟨hs, rfl, huser, hfree, t, ht, hcand⟩
  rw [newLinks_singleton hids hs
    (show s.userId = some (LinkPlan.ofLinks db userId [(s.id, t.id)]).userId from huser) rfl]
  constructor
  · intro hx
    rw [ne_eq, ite_eq_right_iff, not_forall] at hx
    obtain ⟨rfl, -⟩ := hx
    exact ⟨s, hmem, rfl⟩
  · rintro ⟨r, hr, rfl⟩
    rw [if_pos (mem_linkedRows_mark.1 hr).2.1]
    exact Option.some_ne_none _

/-- Resolving links the pending rows that have a match. -/
theorem newLinks_autoResolve (hids : UniqueIds db) {now : Timestamp} {userId : Uuid}
    {connectionId : Option Uuid} (x : Uuid) :
    (LinkPlan.ofLinks db userId (matchedPairs L db userId connectionId)).newLinks db x ≠ none ↔
      ∃ s ∈ linkedRows L db (.autoResolvePendingDuplicates now userId connectionId), s.id = x := by
  rw [newLinks_matchedPairs hids, AssocMap.lookup_ne_none_iff]
  constructor
  · rintro ⟨y, hy⟩
    obtain ⟨p, hp, post, hpost, rfl, -, hmatch⟩ := mem_matchedPairs hy
    exact ⟨p, mem_linkedRows_autoResolve.2 ⟨hp, post, hpost, hmatch⟩, rfl⟩
  · rintro ⟨p, hp, rfl⟩
    obtain ⟨hpending, post, hpost, hmatch⟩ := mem_linkedRows_autoResolve.1 hp
    exact exists_mem_matchedPairs hpending hpost hmatch

/-- **What a statement does to the links.** It links nothing, and links only go; or it puts an
admissible plan over them, whose links are those of the linked rows. -/
theorem duplicateStep_cases (op : DuplicateOp) (h : LinksSound db) :
    (linkedRows L db op = [] ∧
        ∀ x y, linkOf (duplicateStep L db op) x = some y → linkOf db x = some y) ∨
      ∃ (plan : LinkPlan) (now : Timestamp), duplicateStep L db op = plan.apply now db ∧
        plan.Admissible db ∧
        ∀ x, plan.newLinks db x ≠ none ↔ ∃ s ∈ linkedRows L db op, s.id = x := by
  cases op with
  | upsertTransaction now t =>
    refine Or.inl ⟨rfl, fun x y hxy ↦ ?_⟩
    rw [duplicateStep] at hxy
    rcases hup : upsertTransaction db now t with e | db'
    · rwa [hup] at hxy
    · rwa [hup, committed, linkOf_upsertTransaction hup] at hxy
  | mergeDuplicateProviderTransactions userId connectionId =>
    refine Or.inl ⟨rfl, fun x y hxy ↦ ?_⟩
    obtain ⟨db', doomed, heq, hmerge⟩ :=
      mergeDuplicateProviderTransactions_eq L db userId connectionId
    rw [duplicateStep, hmerge] at hxy
    rw [← linkOf_of_transactions_eq heq]
    exact (linkOf_deleteTransactions (h.of_transactions_eq heq).uniqueIds hxy).1
  | markTransactionDuplicate now transactionId userId =>
    rw [duplicateStep, markTransactionDuplicate]
    rcases hplan : planMark L db transactionId userId with - | plan
    · -- without a candidate there is no row to link
      refine Or.inl ⟨List.eq_nil_iff_forall_not_mem.2 fun s hs ↦ ?_, fun x y hxy ↦ hxy⟩
      obtain ⟨hmem, rfl, huser, hfree, t, ht, hcand⟩ := mem_linkedRows_mark.1 hs
      exact absurd hplan (planMark_ne_none h.uniqueIds hmem huser hfree ht hcand)
    · exact Or.inr ⟨plan, now, rfl, admissible_of_planMark h.uniqueIds hplan,
        newLinks_planMark h.uniqueIds hplan⟩
  | autoResolvePendingDuplicates now userId connectionId =>
    exact Or.inr ⟨_, now, rfl, admissible_matchedPairs h.uniqueIds,
      newLinks_autoResolve h.uniqueIds⟩
  | setTransactionCategoryOverride now transactionId userId categoryName subcategoryName =>
    refine Or.inl ⟨rfl, fun x y hxy ↦ ?_⟩
    rw [duplicateStep] at hxy
    rcases hset : setTransactionCategoryOverride db now transactionId userId categoryName
      subcategoryName with e | db'
    · rwa [hset] at hxy
    · rwa [hset, committed,
        linkOf_of_transactions_eq (setTransactionCategoryOverride_transactions hset)] at hxy

/-- **What one statement does to the forest**: it keeps it exactly if it links no target. -/
theorem forest_duplicateStep_iff (op : DuplicateOp) (h : LinksSound db)
    (hforest : DuplicatesForest db) :
    DuplicatesForest (duplicateStep L db op) ↔ LinksNoTarget L db op := by
  have hone := h.forest_iff.1 hforest
  rw [(h.duplicateStep op).forest_iff]
  rcases duplicateStep_cases op h with ⟨hnone, hsub⟩ | ⟨plan, now, hstep, hplan, hrows⟩
  · exact iff_of_true (hone.anti hsub) (by simp [LinksNoTarget, hnone])
  · rw [hstep]
    exact oneLevel_apply_iff now h.uniqueIds hone hplan hrows

end Step

/-! ### Whole runs -/

/-- **When the links stay a forest.** From a database without transactions, the links form a forest
in every state of a run if and only if no statement of the run links a row that, at that moment,
another row is linked to. -/
theorem forest_throughout_iff (L : Locale) (db : Database) (hempty : db.transactions = [])
    (ops : List DuplicateOp) :
    Throughout (duplicateStep L) DuplicatesForest db.toStore ops ↔
      Guarded (duplicateStep L) (LinksNoTarget L) db.toStore ops := by
  have hforest : DuplicatesForest db.toStore := by
    intro t ht
    rw [hempty] at ht
    exact absurd ht List.not_mem_nil
  exact throughout_iff_guarded (I := LinksSound) (fun _ op h ↦ h.duplicateStep op)
    (fun _ op h hs ↦ forest_duplicateStep_iff op h hs) (LinksSound.of_nil hempty) hforest ops

/-- The checking account before its first transaction. -/
def checkingDatabase : Database where
  toStore := { Store.empty with
    accounts := [checkingAccount]
    providerConnections := [checkingConnection] }
  keyed := by decide
  referential := by decide

/-- The upsert of a purchase of 5.00 on day 100. -/
def upsertPurchase (id : Uuid) (providerTransactionId : String) : DuplicateOp :=
  .upsertTransaction 0
    { (checkingTransaction id 100 500).toTransaction with
      providerTransactionId := some providerTransactionId }

/-- Two purchases of which one is marked and given a category of its own. -/
theorem forest_throughout_purchases :
    Throughout (duplicateStep Locale.c) DuplicatesForest checkingDatabase.toStore
      [upsertPurchase 1 "txn-1", upsertPurchase 2 "txn-2",
        .setTransactionCategoryOverride 1 1 7 "Coffee" none, .markTransactionDuplicate 2 1 7] :=
  (forest_throughout_iff Locale.c checkingDatabase rfl _).2 (by decide)

/-- **A chain of two links.** Three equal purchases; the first is marked as a duplicate, which links
it to the second, and then the second, which links it to the third. -/
theorem marks_chain_purchases :
    let db := [upsertPurchase 1 "txn-1", upsertPurchase 2 "txn-2", upsertPurchase 3 "txn-3",
      .markTransactionDuplicate 1 1 7, .markTransactionDuplicate 2 2 7].foldl
        (duplicateStep Locale.c) checkingDatabase.toStore
    linkOf db 1 = some 2 ∧ linkOf db 2 = some 3 ∧ ¬ DuplicatesForest db := by
  intro db
  have h₁ : linkOf db 1 = some 2 := by decide
  have h₂ : linkOf db 2 = some 3 := by decide
  refine ⟨h₁, h₂, fun hforest ↦ ?_⟩
  obtain ⟨t, ht, -, hdup⟩ := exists_row_of_linkOf h₁
  obtain ⟨c, hc, hid, -, hvisible, -⟩ := hforest t ht 2 hdup
  have hhidden : ∀ c ∈ db.transactions, c.id = 2 → c.visible = false := by decide
  rw [hhidden c hc hid] at hvisible
  exact Bool.false_ne_true hvisible

end Sumurai
