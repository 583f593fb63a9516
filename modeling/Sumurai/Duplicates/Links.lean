import Sumurai.Foundations.AssocMap
import Sumurai.Foundations.LinkGraph
import Sumurai.Repository.Duplicates

/-!
# The duplicate links of a store

`linkOf db` is the link graph of a store: a transaction id to the id it is marked a duplicate of.
One lemma for each statement that touches transactions says what becomes of it:

* an upsert and a category override leave it as it is (`linkOf_upsertTransaction`,
  `setTransactionCategoryOverride_transactions`);
* a merge only removes links (`linkOf_deleteTransactions`);
* a linking statement puts its new links over it (`linkOf_apply`).

What the two linking statements may link is `planMark_eq_some` and `mem_matchedPairs`; both are
admissible (`LinkPlan.Admissible`): they lead from a row without a link to another such row of the
same user that the statement does not link itself.
-/

namespace Sumurai

/-- The row of a transaction id. -/
def rowOf (db : Store) (id : Uuid) : Option TransactionRow :=
  db.transactions.find? fun t ↦ t.id = id

/-- The transaction that an id is marked a duplicate of. -/
def linkOf (db : Store) (id : Uuid) : Option Uuid :=
  (rowOf db id).bind TransactionRow.duplicateOfTransactionId

/-- The id of every transaction occurs once. -/
def UniqueIds (db : Store) : Prop :=
  (db.transactions.map TransactionRow.id).Nodup

theorem rowOf_eq_some {db : Store} {id : Uuid} {t : TransactionRow} (h : rowOf db id = some t) :
    t ∈ db.transactions ∧ t.id = id :=
  ⟨List.mem_of_find?_eq_some h, by simpa using List.find?_some h⟩

theorem rowOf_of_mem {db : Store} (hids : UniqueIds db) {t : TransactionRow}
    (ht : t ∈ db.transactions) : rowOf db t.id = some t := by
  rcases h : rowOf db t.id with - | r
  · have hne : ¬ decide (t.id = t.id) = true := List.find?_eq_none.1 h t ht
    simp at hne
  · obtain ⟨hr, hid⟩ := rowOf_eq_some h
    rw [List.inj_on_of_nodup_map hids hr ht hid]

theorem linkOf_of_mem {db : Store} (hids : UniqueIds db) {t : TransactionRow}
    (ht : t ∈ db.transactions) : linkOf db t.id = t.duplicateOfTransactionId := by
  rw [linkOf, rowOf_of_mem hids ht, Option.bind_some]

/-- A link is that of a row. -/
theorem exists_row_of_linkOf {db : Store} {x y : Uuid} (h : linkOf db x = some y) :
    ∃ t ∈ db.transactions, t.id = x ∧ t.duplicateOfTransactionId = some y := by
  rw [linkOf] at h
  obtain ⟨t, ht, hdup⟩ := Option.bind_eq_some_iff.1 h
  obtain ⟨hmem, hid⟩ := rowOf_eq_some ht
  exact ⟨t, hmem, hid, hdup⟩

/-! ### Rewriting rows -/

/-- Rewriting every row in place, without changing its id. -/
theorem rowOf_map {db db' : Store} {f : TransactionRow → TransactionRow}
    (hdb : db'.transactions = db.transactions.map f) (hf : ∀ t, (f t).id = t.id) (id : Uuid) :
    rowOf db' id = (rowOf db id).map f := by
  rw [rowOf, hdb, List.find?_map]
  refine congrArg (Option.map f) ?_
  have hcomp : ((fun t : TransactionRow ↦ decide (t.id = id)) ∘ f) =
      fun t ↦ decide (t.id = id) := by
    funext t
    rw [Function.comp_apply, hf]
  rw [hcomp]
  rfl

theorem uniqueIds_map {db db' : Store} {f : TransactionRow → TransactionRow}
    (hdb : db'.transactions = db.transactions.map f) (hf : ∀ t, (f t).id = t.id)
    (h : UniqueIds db) : UniqueIds db' := by
  have hids : db'.transactions.map TransactionRow.id = db.transactions.map TransactionRow.id := by
    rw [hdb, List.map_map]
    exact List.map_congr_left fun t _ ↦ hf t
  rw [UniqueIds, hids]
  exact h

theorem linkOf_map {db db' : Store} {f : TransactionRow → TransactionRow}
    (hdb : db'.transactions = db.transactions.map f) (hf : ∀ t, (f t).id = t.id)
    (hlink : ∀ t, (f t).duplicateOfTransactionId = t.duplicateOfTransactionId) (id : Uuid) :
    linkOf db' id = linkOf db id := by
  rw [linkOf, linkOf, rowOf_map hdb hf]
  rcases rowOf db id with - | t
  · rfl
  · exact hlink t

/-! ### Upserts and overrides -/

/-- What an upsert does to the rows: it rewrites them in place, or appends one without a link and
with a new id. -/
theorem upsertTransaction_cases {db db' : Store} {now : Timestamp} {t : Transaction}
    (h : upsertTransaction db now t = .ok db') :
    (∃ f : TransactionRow → TransactionRow, db'.transactions = db.transactions.map f ∧
        ∀ r, (f r).id = r.id ∧ (f r).accountId = r.accountId ∧ (f r).userId = r.userId ∧
          (f r).duplicateOfTransactionId = r.duplicateOfTransactionId) ∨
      (∃ r : TransactionRow, db'.transactions = db.transactions ++ [r] ∧
        r.id ∉ db.transactions.map TransactionRow.id ∧ r.duplicateOfTransactionId = none) := by
  rw [upsertTransaction] at h
  split at h
  · obtain rfl := Except.ok.inj h
    refine Or.inl ⟨_, rfl, fun r ↦ ?_⟩
    split <;> exact ⟨rfl, rfl, rfl, rfl⟩
  · split at h
    · exact absurd h (by simp)
    · rename_i hid
      split at h
      · exact absurd h (by simp)
      · obtain rfl := Except.ok.inj h
        exact Or.inr ⟨_, rfl, hid, rfl⟩

theorem uniqueIds_upsertTransaction {db db' : Store} {now : Timestamp} {t : Transaction}
    (h : upsertTransaction db now t = .ok db') (hids : UniqueIds db) : UniqueIds db' := by
  rcases upsertTransaction_cases h with ⟨f, hdb, hf⟩ | ⟨r, hdb, hnew, -⟩
  · exact uniqueIds_map hdb (fun r ↦ (hf r).1) hids
  · rw [UniqueIds, hdb, List.map_append, List.map_singleton, List.nodup_append]
    refine ⟨hids, List.nodup_singleton _, fun a ha b hb ↦ ?_⟩
    rw [List.mem_singleton] at hb
    rintro rfl
    exact hnew (hb ▸ ha)

/-- **An upsert leaves the links as they are.** -/
theorem linkOf_upsertTransaction {db db' : Store} {now : Timestamp} {t : Transaction}
    (h : upsertTransaction db now t = .ok db') (id : Uuid) : linkOf db' id = linkOf db id := by
  rcases upsertTransaction_cases h with ⟨f, hdb, hf⟩ | ⟨r, hdb, hnew, hlink⟩
  · exact linkOf_map hdb (fun r ↦ (hf r).1) (fun r ↦ (hf r).2.2.2) id
  · have hrow : rowOf db' id = (rowOf db id).or ([r].find? fun t ↦ t.id = id) := by
      rw [rowOf, hdb, List.find?_append]
      rfl
    rw [linkOf, linkOf, hrow]
    rcases rowOf db id with - | s
    · rw [Option.none_or, Option.bind_none, List.find?_singleton]
      split
      · exact hlink
      · rfl
    · rfl

/-- The links are those of the transactions. -/
theorem linkOf_of_transactions_eq {db db' : Store} (h : db'.transactions = db.transactions) :
    linkOf db' = linkOf db := by
  funext id
  rw [linkOf, linkOf, rowOf, rowOf, h]

theorem setTransactionCategoryOverride_transactions {db db' : Store} {now : Timestamp}
    {transactionId userId : Uuid} {categoryName : String} {subcategoryName : Option String}
    (h : setTransactionCategoryOverride db now transactionId userId categoryName subcategoryName =
      .ok db') : db'.transactions = db.transactions := by
  rw [setTransactionCategoryOverride] at h
  split at h
  · obtain rfl := Except.ok.inj h
    rfl
  · split at h
    · exact absurd h (by simp)
    · obtain rfl := Except.ok.inj h
      rfl

/-! ### Deletions -/

theorem mem_deleteTransactions {db : Store} {doomed : TransactionRow → Bool}
    {t : TransactionRow} (h : t ∈ (deleteTransactions db doomed).transactions) :
    ∃ r ∈ db.transactions, doomed r = false ∧ t.id = r.id ∧ t.userId = r.userId ∧
      t.duplicateOfTransactionId = r.duplicateOfTransactionId.filter fun d ↦
        d ∉ (db.transactions.filter doomed).map TransactionRow.id := by
  obtain ⟨r, hr, rfl⟩ := List.mem_map.1 h
  obtain ⟨hdb, hkeep⟩ := List.mem_filter.1 hr
  exact ⟨r, hdb, by simpa using hkeep, rfl, rfl, rfl⟩

theorem uniqueIds_deleteTransactions {db : Store} (doomed : TransactionRow → Bool)
    (hids : UniqueIds db) : UniqueIds (deleteTransactions db doomed) := by
  rw [UniqueIds, deleteTransactions]
  dsimp only
  rw [List.map_map]
  exact hids.sublist (List.filter_sublist.map _)

/-- **A deletion removes links and adds none.** -/
theorem linkOf_deleteTransactions {db : Store} {doomed : TransactionRow → Bool}
    (hids : UniqueIds db) {x y : Uuid} (h : linkOf (deleteTransactions db doomed) x = some y) :
    linkOf db x = some y ∧ y ∉ (db.transactions.filter doomed).map TransactionRow.id := by
  obtain ⟨t, ht, rfl, hdup⟩ := exists_row_of_linkOf h
  obtain ⟨r, hr, -, hid, -, hlink⟩ := mem_deleteTransactions ht
  rw [hdup] at hlink
  obtain ⟨hry, hgone⟩ := Option.filter_eq_some_iff.1 hlink.symm
  rw [hid, linkOf_of_mem hids hr]
  exact ⟨hry, of_decide_eq_true hgone⟩

/-- A merge moves overrides, and then deletes rows. -/
theorem mergeDuplicateProviderTransactions_eq (L : Locale) (db : Store)
    (userId connectionId : Uuid) :
    ∃ db' : Store, ∃ doomed : TransactionRow → Bool, db'.transactions = db.transactions ∧
      (mergeDuplicateProviderTransactions L db userId connectionId).1 =
        deleteTransactions db' doomed := by
  rw [mergeDuplicateProviderTransactions]
  refine ⟨_, _, ?_, rfl⟩
  rfl

/-! ### Linking statements -/

/-- The links a plan sets in a store: those of rows that are the user's. -/
def LinkPlan.newLinks (plan : LinkPlan) (db : Store) (id : Uuid) : Option Uuid :=
  match rowOf db id with
  | some t => if t.userId = some plan.userId then plan.links.lookup id else none
  | none => none

/-- What a plan does to one row. -/
def LinkPlan.relinkRow (plan : LinkPlan) (now : Timestamp) (t : TransactionRow) : TransactionRow :=
  match plan.links.lookup t.id with
  | some canonicalId =>
    if t.userId = some plan.userId then
      { t with
        duplicateOfTransactionId := some canonicalId
        duplicateReviewedAt := some now
        duplicateReviewedBy := some plan.userId }
    else t
  | none => t

theorem LinkPlan.apply_transactions (plan : LinkPlan) (now : Timestamp) (db : Store) :
    (plan.apply now db).transactions = db.transactions.map (plan.relinkRow now) :=
  rfl

theorem LinkPlan.relinkRow_spec (plan : LinkPlan) (now : Timestamp) (t : TransactionRow) :
    (plan.relinkRow now t).id = t.id ∧ (plan.relinkRow now t).accountId = t.accountId ∧
      (plan.relinkRow now t).userId = t.userId := by
  rw [relinkRow]
  split
  · split <;> exact ⟨rfl, rfl, rfl⟩
  · exact ⟨rfl, rfl, rfl⟩

theorem uniqueIds_apply (plan : LinkPlan) (now : Timestamp) {db : Store} (hids : UniqueIds db) :
    UniqueIds (plan.apply now db) :=
  uniqueIds_map (plan.apply_transactions now db) (fun t ↦ (plan.relinkRow_spec now t).1) hids

/-- **A plan puts its links over those of the store.** -/
theorem linkOf_apply (plan : LinkPlan) (now : Timestamp) (db : Store) :
    linkOf (plan.apply now db) = LinkGraph.overlay (plan.newLinks db) (linkOf db) := by
  funext id
  rw [linkOf, rowOf_map (plan.apply_transactions now db) fun t ↦ (plan.relinkRow_spec now t).1,
    LinkGraph.overlay, LinkPlan.newLinks, linkOf]
  rcases hrow : rowOf db id with - | t
  · rfl
  · obtain ⟨-, rfl⟩ := rowOf_eq_some hrow
    simp only [Option.map_some, Option.bind_some, LinkPlan.relinkRow]
    rcases plan.links.lookup t.id with - | c
    · simp
    · dsimp only
      split <;> simp

/-- A plan whose links lead to rows of the same user. -/
def LinkPlan.SameUser (plan : LinkPlan) (db : Store) : Prop :=
  ∀ x y, plan.newLinks db x = some y → ∃ s ∈ db.transactions, ∃ c ∈ db.transactions,
    s.id = x ∧ c.id = y ∧ c.userId = s.userId

/-- A plan whose links lead from unlinked rows to unlinked rows of the same user that it does not
link itself. -/
structure LinkPlan.Admissible (plan : LinkPlan) (db : Store) : Prop where
  fresh : ∀ x, plan.newLinks db x ≠ none → linkOf db x = none
  target : ∀ x y, plan.newLinks db x = some y → ∃ s ∈ db.transactions, ∃ c ∈ db.transactions,
    s.id = x ∧ c.id = y ∧ c.userId = s.userId ∧ c.duplicateOfTransactionId = none ∧
      plan.newLinks db y = none

theorem LinkPlan.Admissible.sameUser {plan : LinkPlan} {db : Store} (h : plan.Admissible db) :
    plan.SameUser db := by
  intro x y hxy
  obtain ⟨s, hs, c, hc, hsx, hcy, huser, -, -⟩ := h.target x y hxy
  exact ⟨s, hs, c, hc, hsx, hcy, huser⟩

/-- The targets of an admissible plan have no link and get none. -/
theorem LinkPlan.Admissible.free {plan : LinkPlan} {db : Store} (hids : UniqueIds db)
    (h : plan.Admissible db) {x y : Uuid} (hxy : plan.newLinks db x = some y) :
    linkOf db y = none ∧ plan.newLinks db y = none := by
  obtain ⟨-, -, c, hc, -, rfl, -, hfree, hnew⟩ := h.target x y hxy
  exact ⟨by rw [linkOf_of_mem hids hc, hfree], hnew⟩

/-! ### What the two statements link -/

section Statements

variable {L : Locale} {db : Store}

/-- What the reading half of a mark finds. -/
theorem planMark_eq_some {transactionId userId : Uuid} {plan : LinkPlan}
    (h : planMark L db transactionId userId = some plan) :
    ∃ s ∈ db.transactions, ∃ t ∈ db.transactions, s.id = transactionId ∧
      s.userId = some userId ∧ s.duplicateOfTransactionId = none ∧
      isMarkCandidate userId s t = true ∧ plan = LinkPlan.ofLinks db userId [(s.id, t.id)] := by
  rw [planMark] at h
  obtain ⟨s, hs, h⟩ := Option.bind_eq_some_iff.1 h
  obtain ⟨t, ht, h⟩ := Option.bind_eq_some_iff.1 h
  obtain ⟨hmem, hcand⟩ := List.mem_filter.1 (OrderBy.mem_of_head?_orderBy _ ht)
  have hsel := List.find?_some hs
  simp only [Bool.and_eq_true, decide_eq_true_eq, Option.isNone_iff_eq_none] at hsel
  exact ⟨s, List.mem_of_find?_eq_some hs, t, hmem, hsel.1.1, hsel.1.2, hsel.2, hcand,
    (Option.some.inj h).symm⟩

/-- A mark finds something when its row is the user's, unmarked, and has a candidate. -/
theorem planMark_ne_none (hids : UniqueIds db) {userId : Uuid} {s t : TransactionRow}
    (hs : s ∈ db.transactions) (huser : s.userId = some userId)
    (hfree : s.duplicateOfTransactionId = none) (ht : t ∈ db.transactions)
    (hcand : isMarkCandidate userId s t = true) : planMark L db s.id userId ≠ none := by
  have hsel : selectedTransaction db s.id userId = some s := by
    rcases hfind : selectedTransaction db s.id userId with - | r
    · have := List.find?_eq_none.1 hfind s hs
      simp [huser, hfree] at this
    · have hr := List.find?_some hfind
      simp only [Bool.and_eq_true, decide_eq_true_eq] at hr
      rw [List.inj_on_of_nodup_map hids (List.mem_of_find?_eq_some hfind) hs hr.1.1]
  have hhead : markCandidate L db userId s ≠ none :=
    OrderBy.head?_orderBy_ne_none _ (List.mem_filter.2 ⟨ht, hcand⟩)
  obtain ⟨c, hc⟩ := Option.ne_none_iff_exists'.1 hhead
  rw [planMark, hsel]
  simp [hc]

theorem isMarkCandidate_spec {userId : Uuid} {s t : TransactionRow}
    (h : isMarkCandidate userId s t = true) :
    t.accountId = s.accountId ∧ t.amount = s.amount ∧ |t.date - s.date| ≤ 7 ∧ t.id ≠ s.id ∧
      t.userId = some userId ∧ t.duplicateOfTransactionId = none ∧ s.amount ≠ 0 := by
  simp only [isMarkCandidate, Bool.and_eq_true, decide_eq_true_eq,
    Option.isNone_iff_eq_none] at h
  obtain ⟨⟨⟨⟨⟨⟨⟨hacc, hamount⟩, hdate⟩, hid⟩, huser⟩, hfree⟩, hzero⟩, -⟩ := h
  exact ⟨hacc, hamount, hdate, hid, huser, hfree, hzero⟩

/-- The links of a plan with one link. -/
theorem newLinks_singleton (hids : UniqueIds db) {s : TransactionRow} (hs : s ∈ db.transactions)
    {plan : LinkPlan} {c : Uuid} (huser : s.userId = some plan.userId)
    (hlinks : plan.links = [(s.id, c)]) (x : Uuid) :
    plan.newLinks db x = if x = s.id then some c else none := by
  rw [LinkPlan.newLinks]
  split
  · rename_i t ht
    obtain ⟨hmem, rfl⟩ := rowOf_eq_some ht
    simp only [hlinks, AssocMap.lookup_cons_ite, List.lookup_nil]
    by_cases hid : t.id = s.id
    · obtain rfl := List.inj_on_of_nodup_map hids hmem hs hid
      rw [if_pos huser, if_pos rfl]
    · rw [if_neg hid, ite_self]
  · rename_i hnone
    rw [if_neg]
    rintro rfl
    rw [rowOf_of_mem hids hs] at hnone
    exact absurd hnone (by simp)

/-- **A mark is admissible.** -/
theorem admissible_of_planMark (hids : UniqueIds db) {transactionId userId : Uuid}
    {plan : LinkPlan} (h : planMark L db transactionId userId = some plan) :
    plan.Admissible db := by
  obtain ⟨s, hs, t, ht, -, huser, hfree, hcand, rfl⟩ := planMark_eq_some h
  obtain ⟨-, -, -, hne, htuser, htfree, -⟩ := isMarkCandidate_spec hcand
  have hnew := newLinks_singleton hids hs
    (show s.userId = some (LinkPlan.ofLinks db userId [(s.id, t.id)]).userId from huser) rfl
  refine ⟨fun x hx ↦ ?_, fun x y hxy ↦ ?_⟩
  · rw [hnew] at hx
    by_cases hxs : x = s.id
    · rw [hxs, linkOf_of_mem hids hs, hfree]
    · exact absurd (if_neg hxs) hx
  · rw [hnew] at hxy
    split at hxy
    · rename_i hxs
      obtain rfl : t.id = y := by simpa using hxy
      exact ⟨s, hs, t, ht, hxs.symm, rfl, htuser.trans huser.symm, htfree,
        by rw [hnew, if_neg hne]⟩
    · exact absurd hxy (by simp)

variable {userId : Uuid} {connectionId : Option Uuid}

theorem isResolvable_spec {t : TransactionRow}
    (h : isResolvable db userId connectionId t = true) :
    t.userId = some userId ∧ t.duplicateOfTransactionId = none ∧ t.amount ≠ 0 := by
  simp only [isResolvable, Bool.and_eq_true, decide_eq_true_eq,
    Option.isNone_iff_eq_none] at h
  exact ⟨h.1.1.1, h.1.1.2, h.1.2⟩

theorem mem_pendingTx {t : TransactionRow} (h : t ∈ pendingTx db userId connectionId) :
    t ∈ db.transactions ∧ t.pending = true ∧ t.userId = some userId ∧
      t.duplicateOfTransactionId = none ∧ t.amount ≠ 0 := by
  obtain ⟨hmem, hcond⟩ := List.mem_filter.1 h
  rw [Bool.and_eq_true] at hcond
  obtain ⟨huser, hfree, hzero⟩ := isResolvable_spec hcond.2
  exact ⟨hmem, hcond.1, huser, hfree, hzero⟩

theorem mem_postedTx {t : TransactionRow} (h : t ∈ postedTx db userId connectionId) :
    t ∈ db.transactions ∧ t.pending = false ∧ t.userId = some userId ∧
      t.duplicateOfTransactionId = none ∧ t.amount ≠ 0 := by
  obtain ⟨hmem, hcond⟩ := List.mem_filter.1 h
  rw [Bool.and_eq_true, Bool.not_eq_true'] at hcond
  obtain ⟨huser, hfree, hzero⟩ := isResolvable_spec hcond.2
  exact ⟨hmem, hcond.1, huser, hfree, hzero⟩

/-- A matched pair is a pending row and a posted row that matches it. -/
theorem mem_matchedPairs {x y : Uuid} (h : (x, y) ∈ matchedPairs L db userId connectionId) :
    ∃ p ∈ pendingTx db userId connectionId, ∃ post ∈ postedTx db userId connectionId,
      p.id = x ∧ post.id = y ∧ isPostedMatch L p post = true := by
  obtain ⟨p, hp, hmatch⟩ := List.mem_filterMap.1 h
  obtain ⟨post, hpost, heq⟩ := Option.map_eq_some_iff.1 hmatch
  obtain ⟨rfl, rfl⟩ := Prod.mk.inj heq
  obtain ⟨hmem, hrel⟩ := List.mem_filter.1 (OrderBy.mem_of_head?_orderBy _ hpost)
  exact ⟨p, hp, post, hmem, rfl, rfl, hrel⟩

/-- A pending row with a match is in a matched pair. -/
theorem exists_mem_matchedPairs {p post : TransactionRow}
    (hp : p ∈ pendingTx db userId connectionId) (hpost : post ∈ postedTx db userId connectionId)
    (hmatch : isPostedMatch L p post = true) :
    ∃ y, (p.id, y) ∈ matchedPairs L db userId connectionId := by
  have hhead : postedMatch L db userId connectionId p ≠ none :=
    OrderBy.head?_orderBy_ne_none _ (List.mem_filter.2 ⟨hpost, hmatch⟩)
  obtain ⟨c, hc⟩ := Option.ne_none_iff_exists'.1 hhead
  exact ⟨c.id, List.mem_filterMap.2 ⟨p, hp, by rw [hc]; rfl⟩⟩

/-- The links that resolving sets are the matched pairs. -/
theorem newLinks_matchedPairs (hids : UniqueIds db) (x : Uuid) :
    (LinkPlan.ofLinks db userId (matchedPairs L db userId connectionId)).newLinks db x =
      (matchedPairs L db userId connectionId).lookup x := by
  rw [LinkPlan.newLinks]
  rcases hlookup : (matchedPairs L db userId connectionId).lookup x with - | y
  · split
    · simp [LinkPlan.ofLinks, hlookup]
    · rfl
  · obtain ⟨p, hp, -, -, rfl, -⟩ := mem_matchedPairs (AssocMap.mem_of_lookup_eq_some hlookup)
    obtain ⟨hmem, -, huser, -⟩ := mem_pendingTx hp
    rw [rowOf_of_mem hids hmem]
    simp [LinkPlan.ofLinks, huser, hlookup]

/-- **Resolving is admissible.** -/
theorem admissible_matchedPairs (hids : UniqueIds db) :
    (LinkPlan.ofLinks db userId (matchedPairs L db userId connectionId)).Admissible db := by
  refine ⟨fun x hx ↦ ?_, fun x y hxy ↦ ?_⟩
  · rw [newLinks_matchedPairs hids] at hx
    obtain ⟨y, hy⟩ := AssocMap.lookup_ne_none_iff.1 hx
    obtain ⟨p, hp, -, -, rfl, -⟩ := mem_matchedPairs hy
    obtain ⟨hmem, -, -, hfree, -⟩ := mem_pendingTx hp
    rw [linkOf_of_mem hids hmem, hfree]
  · rw [newLinks_matchedPairs hids] at hxy ⊢
    obtain ⟨p, hp, post, hpost, rfl, rfl, -⟩ :=
      mem_matchedPairs (AssocMap.mem_of_lookup_eq_some hxy)
    obtain ⟨hpmem, -, hpuser, -⟩ := mem_pendingTx hp
    obtain ⟨hmem, hposted, huser, hfree, -⟩ := mem_postedTx hpost
    refine ⟨p, hpmem, post, hmem, rfl, rfl, huser.trans hpuser.symm, hfree, ?_⟩
    -- a posted row is not among the pending ones
    by_contra hne
    obtain ⟨z, hz⟩ := AssocMap.lookup_ne_none_iff.1 hne
    obtain ⟨p', hp', -, -, hid, -⟩ := mem_matchedPairs hz
    obtain ⟨hmem', hpending, -⟩ := mem_pendingTx hp'
    obtain rfl := List.inj_on_of_nodup_map hids hmem' hmem hid
    rw [hposted] at hpending
    exact Bool.false_ne_true hpending

end Statements

end Sumurai
