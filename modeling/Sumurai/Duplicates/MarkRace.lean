import Sumurai.Duplicates.Forest

/-!
# Concurrent duplicate marks

`mark_transaction_duplicate` is one SQL statement, but at the default isolation level it is not one
step: it reads from a snapshot, and by the time its `UPDATE` gets the row, other requests may have
committed. The `UPDATE` checks the id and the user of the row again, and not the candidate. A
request is therefore a `MarkEvent.read`, which makes a plan from the committed store, and a later
`MarkEvent.write`, which applies it to the store of that moment; any number of plans are in flight.

Requests served one after another never make a circle of links (`acyclic_duplicateStep`): the
candidate has no link. Two requests in flight do, when each has picked the row of the other. What
has to hold when a plan is written is `NotBehind`: the chain of links from the canonical row does
not lead to the row that is being hidden. `groupsShown_throughout_iff` says that this decides,
along every interleaving, whether every group keeps a member that the readers return.
-/

open LabelledSystem Relation

namespace Sumurai

/-! ### One statement after another -/

section Sequential

variable {L : Locale} {db : Store}

theorem acyclic_apply {plan : LinkPlan} (now : Timestamp) (hids : UniqueIds db)
    (h : LinkGraph.Acyclic (linkOf db)) (hplan : plan.Admissible db) :
    LinkGraph.Acyclic (linkOf (plan.apply now db)) := by
  rw [linkOf_apply]
  refine LinkGraph.acyclic_overlay h fun x y hxy ↦ ?_
  obtain ⟨hlink, hnew⟩ := hplan.free hids hxy
  rw [LinkGraph.overlay, hnew, hlink]
  rfl

/-- **No statement makes a circle of links on its own.** -/
theorem acyclic_duplicateStep (op : DuplicateOp) (hsound : LinksSound db)
    (h : LinkGraph.Acyclic (linkOf db)) :
    LinkGraph.Acyclic (linkOf (duplicateStep L db op)) := by
  rcases duplicateStep_cases op hsound with ⟨-, hsub⟩ | ⟨plan, now, hstep, hplan, -⟩
  · exact h.anti hsub
  · rw [hstep]
    exact acyclic_apply now hsound.uniqueIds h hplan

/-- A sequence of statements from a store without transactions. -/
theorem sound_acyclic_of_history (hempty : db.transactions = []) (history : List DuplicateOp) :
    LinksSound (history.foldl (duplicateStep L) db) ∧
      LinkGraph.Acyclic (linkOf (history.foldl (duplicateStep L) db)) := by
  have hfree : ∀ x, linkOf db x = none := by
    intro x
    rw [linkOf, rowOf, hempty]
    rfl
  refine foldl_invariant (I := fun db ↦ LinksSound db ∧ LinkGraph.Acyclic (linkOf db)) ?_ history
    ⟨LinksSound.of_nil hempty, LinkGraph.acyclic_of_forall_eq_none hfree⟩
  rintro s op ⟨hsound, hacyclic⟩
  exact ⟨hsound.duplicateStep op, acyclic_duplicateStep op hsound hacyclic⟩

end Sequential

/-! ### Requests in flight -/

/-- The committed store, and the plans of the requests that have read and not written. -/
structure MarkState where
  db : Store
  inFlight : List LinkPlan

/-- What happens to one of the requests. -/
inductive MarkEvent where
  /-- A request to mark a transaction reads its candidate. -/
  | read (transactionId : Uuid)
  /-- A request in flight writes its link and is answered. -/
  | write (now : Timestamp) (request : ℕ)
deriving DecidableEq, Repr

/-- One event of the `mark_transaction_duplicate` requests of a user. A request that finds no
candidate is answered at once. -/
def markStep (L : Locale) (userId : Uuid) (s : MarkState) : MarkEvent → MarkState
  | .read transactionId =>
    match planMark L s.db transactionId userId with
    | some plan => { s with inFlight := s.inFlight ++ [plan] }
    | none => s
  | .write now request =>
    match s.inFlight[request]? with
    | some plan =>
      { db := plan.apply now s.db
        inFlight := s.inFlight.eraseIdx request }
    | none => s

/-- **No group is lost**: the links have no circle, and those of every transaction of the user lead
to one that the readers return. -/
def GroupsShown (db : Store) (userId : Uuid) : Prop :=
  LinkGraph.Acyclic (linkOf db) ∧
    ∀ t ∈ db.transactions, t.userId = some userId → ∃ r ∈ visibleTransactions db userId,
      ReflTransGen (LinkGraph.Links (linkOf db)) t.id r.id

/-- When a plan is written, its canonical row is not behind the row it hides, directly or through
other rows. -/
def NotBehind (s : MarkState) : MarkEvent → Prop
  | .read _ => True
  | .write _ request => ∀ plan ∈ s.inFlight[request]?, ∀ link ∈ plan.links,
      ¬ ReflTransGen (LinkGraph.Links (linkOf s.db)) link.2 link.1

/-- What every event keeps: sound links, and plans that link one row of the user to another. -/
structure MarkState.Sound (userId : Uuid) (s : MarkState) : Prop where
  links : LinksSound s.db
  plans : ∀ plan ∈ s.inFlight, plan.userId = userId ∧ ∃ t ∈ s.db.transactions,
    ∃ c ∈ s.db.transactions, t.userId = some userId ∧ c.userId = some userId ∧
      plan.links = [(t.id, c.id)]

section Events

variable {L : Locale} {userId : Uuid} {s : MarkState}

/-- Following sound links from a row of a user leads to a row of that user. -/
theorem LinksSound.row_of_chain {db : Store} (h : LinksSound db) {t : TransactionRow}
    (ht : t ∈ db.transactions) {y : Uuid}
    (hchain : ReflTransGen (LinkGraph.Links (linkOf db)) t.id y) :
    ∃ r ∈ db.transactions, r.id = y ∧ r.userId = t.userId := by
  induction hchain with
  | refl => exact ⟨t, ht, rfl, rfl⟩
  | tail _ hlink ih =>
    obtain ⟨r, hr, rfl, huser⟩ := ih
    rw [LinkGraph.Links, linkOf_of_mem h.uniqueIds hr] at hlink
    obtain ⟨c, hc, hid, hcuser⟩ := h.target r hr _ hlink
    exact ⟨c, hc, hid, hcuser.trans huser⟩

/-- On sound links no group is lost exactly when there is no circle. -/
theorem LinksSound.groupsShown_iff {db : Store} (h : LinksSound db) :
    GroupsShown db userId ↔ LinkGraph.Acyclic (linkOf db) := by
  refine ⟨And.left, fun hacyclic ↦ ⟨hacyclic, fun t ht huser ↦ ?_⟩⟩
  have hrows : ∀ x y, linkOf db x = some y →
      y ∈ (db.transactions.map TransactionRow.id).toFinset := by
    intro x y hxy
    obtain ⟨r, hr, -, hdup⟩ := exists_row_of_linkOf hxy
    obtain ⟨c, hc, rfl, -⟩ := h.target r hr y hdup
    exact List.mem_toFinset.2 (List.mem_map_of_mem hc)
  obtain ⟨y, hchain, hend⟩ := hacyclic.exists_end _ hrows t.id
  obtain ⟨r, hr, rfl, hruser⟩ := h.row_of_chain ht hchain
  rw [linkOf_of_mem h.uniqueIds hr] at hend
  refine ⟨r, List.mem_filter.2 ⟨hr, ?_⟩, hchain⟩
  simp [TransactionRow.visible, hruser, huser, hend]

/-- The links of a plan in flight, at the time it is written. -/
theorem MarkState.Sound.newLinks (h : s.Sound userId) {plan : LinkPlan}
    (hplan : plan ∈ s.inFlight) :
    ∃ t ∈ s.db.transactions, ∃ c ∈ s.db.transactions, c.userId = t.userId ∧
      plan.links = [(t.id, c.id)] ∧
        ∀ x, plan.newLinks s.db x = if x = t.id then some c.id else none := by
  obtain ⟨huser, t, ht, c, hc, htuser, hcuser, hlinks⟩ := h.plans plan hplan
  refine ⟨t, ht, c, hc, hcuser.trans htuser.symm, hlinks, ?_⟩
  exact newLinks_singleton h.links.uniqueIds ht (by rw [htuser, huser]) hlinks

/-- **Every event keeps the invariant.** -/
theorem MarkState.Sound.markStep (h : s.Sound userId) (e : MarkEvent) :
    (markStep L userId s e).Sound userId := by
  cases e with
  | read transactionId =>
    rw [Sumurai.markStep]
    rcases hplan : planMark L s.db transactionId userId with - | plan
    · exact h
    · refine ⟨h.links, fun p hp ↦ ?_⟩
      rcases List.mem_append.1 hp with hp | hp
      · exact h.plans p hp
      · obtain rfl := List.mem_singleton.1 hp
        obtain ⟨t, ht, c, hc, -, htuser, -, hcand, rfl⟩ := planMark_eq_some hplan
        obtain ⟨-, -, -, -, hcuser, -⟩ := isMarkCandidate_spec hcand
        exact ⟨rfl, t, ht, c, hc, htuser, hcuser, rfl⟩
  | write now request =>
    rw [Sumurai.markStep]
    rcases hget : s.inFlight[request]? with - | plan
    · exact h
    · have hmem : plan ∈ s.inFlight := List.mem_of_getElem? hget
      refine ⟨?_, fun p hp ↦ ?_⟩
      · refine h.links.apply now fun x y hxy ↦ ?_
        obtain ⟨t, ht, c, hc, hcuser, -, hnew⟩ := h.newLinks hmem
        rw [hnew] at hxy
        split at hxy
        · rename_i hx
          exact ⟨t, ht, c, hc, hx.symm, Option.some.inj hxy, hcuser⟩
        · exact absurd hxy (by simp)
      · obtain ⟨huser, t, ht, c, hc, htuser, hcuser, hlinks⟩ :=
          h.plans p (List.mem_of_mem_eraseIdx hp)
        obtain ⟨htid, -, htu⟩ := plan.relinkRow_spec now t
        obtain ⟨hcid, -, hcu⟩ := plan.relinkRow_spec now c
        refine ⟨huser, plan.relinkRow now t, List.mem_map_of_mem ht, plan.relinkRow now c,
          List.mem_map_of_mem hc, htu.trans htuser, hcu.trans hcuser, ?_⟩
        rw [htid, hcid, hlinks]

/-- **Checking the candidate again would be enough**: a plan whose canonical row still has no link
puts nothing behind itself. -/
theorem notBehind_of_unlinked {now : Timestamp} {request : ℕ}
    (h : ∀ plan ∈ s.inFlight[request]?, ∀ link ∈ plan.links,
      linkOf s.db link.2 = none ∧ link.2 ≠ link.1) :
    NotBehind s (.write now request) := by
  intro plan hplan link hlink
  obtain ⟨hfree, hne⟩ := h plan hplan link hlink
  exact LinkGraph.not_reflTransGen_of_eq_none hfree hne

/-- **What one event does to the groups**: it loses none exactly if the plan that is written
does not put a row behind itself. -/
theorem groupsShown_markStep_iff (e : MarkEvent) (h : s.Sound userId)
    (hshown : GroupsShown s.db userId) :
    GroupsShown (markStep L userId s e).db userId ↔ NotBehind s e := by
  rw [(h.markStep e).links.groupsShown_iff]
  cases e with
  | read transactionId =>
    refine iff_of_true ?_ trivial
    rw [markStep]
    split <;> exact hshown.1
  | write now request =>
    rw [markStep, NotBehind]
    rcases hget : s.inFlight[request]? with - | plan
    · exact iff_of_true hshown.1 (by simp)
    · obtain ⟨t, ht, c, hc, -, hlinks, hnew⟩ := h.newLinks (List.mem_of_getElem? hget)
      show LinkGraph.Acyclic (linkOf (plan.apply now s.db)) ↔ _
      rw [linkOf_apply, LinkGraph.overlay_single hnew, LinkGraph.acyclic_update_iff hshown.1]
      simp [hlinks]

end Events

/-! ### Every interleaving -/

/-- **When no group is lost.** Let any sequence of statements have led from a database without
transactions to a store, and let any number of marks of a user interleave on it. Every state has its
groups shown if and only if no plan is written while its canonical row is behind the row it
hides. -/
theorem groupsShown_throughout_iff (L : Locale) (db : Database) (hempty : db.transactions = [])
    (history : List DuplicateOp) (userId : Uuid) (events : List MarkEvent) :
    let start : MarkState := ⟨history.foldl (duplicateStep L) db.toStore, []⟩
    Throughout (markStep L userId) (fun s ↦ GroupsShown s.db userId) start events ↔
      Guarded (markStep L userId) NotBehind start events := by
  intro start
  obtain ⟨hsound, hacyclic⟩ := sound_acyclic_of_history (L := L) hempty history
  have hstart : start.Sound userId := ⟨hsound, fun _ hp ↦ absurd hp List.not_mem_nil⟩
  exact throughout_iff_guarded (I := MarkState.Sound userId) (fun _ e h ↦ h.markStep e)
    (fun _ e h hs ↦ groupsShown_markStep_iff e h hs) hstart (hsound.groupsShown_iff.2 hacyclic)
      events

/-- Three equal purchases, and marks of the second and the third that overlap in time. -/
theorem groupsShown_overlapping_marks :
    Throughout (markStep Locale.c 7) (fun s ↦ GroupsShown s.db 7)
      ⟨[upsertPurchase 1 "txn-1", upsertPurchase 2 "txn-2", upsertPurchase 3 "txn-3"].foldl
        (duplicateStep Locale.c) checkingDatabase.toStore, []⟩
      [.read 2, .read 3, .write 1 0, .write 2 0] :=
  (groupsShown_throughout_iff Locale.c checkingDatabase rfl _ 7 _).2
    ⟨trivial, trivial, notBehind_of_unlinked (by decide), notBehind_of_unlinked (by decide),
      trivial⟩

/-- **A lost group.** Two equal purchases; two requests mark them at the same time. Each finds the
other row unmarked, and afterwards neither is shown. -/
theorem marks_lose_purchases :
    let start : MarkState :=
      ⟨[upsertPurchase 1 "txn-1", upsertPurchase 2 "txn-2"].foldl (duplicateStep Locale.c)
        checkingDatabase.toStore, []⟩
    let db := ([MarkEvent.read 1, .read 2, .write 1 0, .write 2 0].foldl
      (markStep Locale.c 7) start).db
    linkOf db 1 = some 2 ∧ linkOf db 2 = some 1 ∧ visibleTransactions db 7 = [] ∧
      ¬ GroupsShown db 7 := by
  intro start db
  have h₁ : linkOf db 1 = some 2 := by decide
  have h₂ : linkOf db 2 = some 1 := by decide
  refine ⟨h₁, h₂, by decide, fun hshown ↦ ?_⟩
  exact hshown.1 1 (TransGen.tail (TransGen.single h₁) h₂)

end Sumurai
