import Sumurai.Duplicates.Links
import Sumurai.Foundations.Runs

/-!
# Resolving pending transactions

`auto_resolve_pending_duplicates` hides a pending transaction behind the posted one it turned into.
It looks for a match from the side of the pending row alone: `DISTINCT ON (p.id)` picks one posted
row for each pending row, and nothing picks one pending row for each posted row, within a call or
across calls. Two equal pending charges are therefore both hidden behind the first posted one.

What does hold, over any run of calls and upserts, is `resolution_run`:

* a link that is set stays as it is;
* every link the run sets leads from a pending row to a posted row that matched it in the call
  that set it (`MatchedIn`), and none that matched was dated nearer;
* the links are one-to-one throughout exactly if they were at the start and every call picks
  distinct posted rows, none of them the target of a link (`PicksDistinct`).
-/

open LabelledSystem

namespace Sumurai

/-- The statements of a sync that touch pending transactions. -/
inductive ResolveOp where
  | upsertTransaction (now : Timestamp) (t : Transaction)
  | autoResolvePendingDuplicates (now : Timestamp) (userId : Uuid) (connectionId : Option Uuid)
deriving DecidableEq, Repr

/-- One statement. A failed upsert changes nothing. -/
def resolveStep (L : Locale) (db : Store) : ResolveOp → Store
  | .upsertTransaction now t =>
    match upsertTransaction db now t with
    | .ok db' => db'
    | .error _ => db
  | .autoResolvePendingDuplicates now userId connectionId =>
    (autoResolvePendingDuplicates L db now userId connectionId).1

/-- The transaction `x` is pending, and `y` is a posted one that matches it; no posted one that
matches is dated nearer. -/
def MatchedIn (L : Locale) (db : Store) (userId : Uuid) (connectionId : Option Uuid)
    (x y : Uuid) : Prop :=
  ∃ p ∈ pendingTx db userId connectionId, ∃ post ∈ postedTx db userId connectionId,
    p.id = x ∧ post.id = y ∧ isPostedMatch L p post = true ∧
      ∀ post' ∈ postedTx db userId connectionId, isPostedMatch L p post' = true →
        |post.date - p.date| ≤ |post'.date - p.date|

/-- A call picks different posted rows for different pending rows, and none to which a row is linked
already. -/
def PicksDistinct (L : Locale) (db : Store) : ResolveOp → Prop
  | .upsertTransaction _ _ => True
  | .autoResolvePendingDuplicates _ userId connectionId =>
    ∀ p ∈ pendingTx db userId connectionId, ∀ post,
      postedMatch L db userId connectionId p = some post →
        (∀ p' ∈ pendingTx db userId connectionId,
          postedMatch L db userId connectionId p' = some post → p = p') ∧
        ∀ t ∈ db.transactions, t.duplicateOfTransactionId ≠ some post.id

section Step

variable {L : Locale} {db : Store} {userId : Uuid} {connectionId : Option Uuid}

/-- The links of a call. -/
theorem lookup_matchedPairs (hids : UniqueIds db) {x y : Uuid} :
    (matchedPairs L db userId connectionId).lookup x = some y ↔
      ∃ p ∈ pendingTx db userId connectionId, ∃ post,
        postedMatch L db userId connectionId p = some post ∧ p.id = x ∧ post.id = y := by
  have hpair : ∀ {x y}, (matchedPairs L db userId connectionId).lookup x = some y →
      ∃ p ∈ pendingTx db userId connectionId, ∃ post,
        postedMatch L db userId connectionId p = some post ∧ p.id = x ∧ post.id = y := by
    intro x y h
    obtain ⟨p, hp, hmatch⟩ := List.mem_filterMap.1 (AssocMap.mem_of_lookup_eq_some h)
    obtain ⟨post, hpost, heq⟩ := Option.map_eq_some_iff.1 hmatch
    obtain ⟨rfl, rfl⟩ := Prod.mk.inj heq
    exact ⟨p, hp, post, hpost, rfl, rfl⟩
  refine ⟨hpair, ?_⟩
  rintro ⟨p, hp, post, hpost, rfl, rfl⟩
  have hne : (matchedPairs L db userId connectionId).lookup p.id ≠ none :=
    AssocMap.lookup_ne_none_iff.2 ⟨post.id, List.mem_filterMap.2 ⟨p, hp, by rw [hpost]; rfl⟩⟩
  obtain ⟨z, hz⟩ := Option.ne_none_iff_exists'.1 hne
  obtain ⟨p', hp', post', hpost', hid, rfl⟩ := hpair hz
  obtain rfl := List.inj_on_of_nodup_map hids (mem_pendingTx hp').1 (mem_pendingTx hp).1 hid
  obtain rfl := Option.some.inj (hpost'.symm.trans hpost)
  exact hz

/-- The pick of a pending row matches it, and nothing that matches it is nearer. -/
theorem matchedIn_of_postedMatch {p post : TransactionRow}
    (hp : p ∈ pendingTx db userId connectionId)
    (h : postedMatch L db userId connectionId p = some post) :
    MatchedIn L db userId connectionId p.id post.id := by
  obtain ⟨hmem, hmatch⟩ := List.mem_filter.1 (OrderBy.mem_of_head?_orderBy _ h)
  refine ⟨p, hp, post, hmem, rfl, rfl, hmatch, fun post' hpost' hmatch' ↦ ?_⟩
  exact (OrderBy.rel_of_head?_orderBy _ h (List.mem_filter.2 ⟨hpost', hmatch'⟩)).1

theorem uniqueIds_resolveStep (hids : UniqueIds db) (op : ResolveOp) :
    UniqueIds (resolveStep L db op) := by
  cases op with
  | upsertTransaction now t =>
    rw [resolveStep]
    rcases hup : upsertTransaction db now t with e | db'
    · exact hids
    · exact uniqueIds_upsertTransaction hup hids
  | autoResolvePendingDuplicates now userId connectionId =>
    exact uniqueIds_apply _ now hids

theorem linkOf_upsert (now : Timestamp) (t : Transaction) :
    linkOf (resolveStep L db (.upsertTransaction now t)) = linkOf db := by
  funext id
  rw [resolveStep]
  rcases hup : upsertTransaction db now t with e | db'
  · rfl
  · exact linkOf_upsertTransaction hup id

/-- **What a call does to the links**: it puts those of its matches over them. -/
theorem linkOf_autoResolve (hids : UniqueIds db) (now : Timestamp) :
    linkOf (resolveStep L db (.autoResolvePendingDuplicates now userId connectionId)) =
      LinkGraph.overlay (fun x ↦ (matchedPairs L db userId connectionId).lookup x) (linkOf db) := by
  show linkOf (LinkPlan.apply _ now db) = _
  rw [linkOf_apply]
  exact congrArg (LinkGraph.overlay · (linkOf db)) (funext (newLinks_matchedPairs hids))

/-- A call links rows that have no link. -/
theorem matchedPairs_fresh (hids : UniqueIds db) (x : Uuid)
    (hx : (matchedPairs L db userId connectionId).lookup x ≠ none) : linkOf db x = none :=
  (admissible_matchedPairs hids).fresh x (by rwa [newLinks_matchedPairs hids])

/-- **A link that is set stays as it is.** -/
theorem linkOf_resolveStep (hids : UniqueIds db) (op : ResolveOp) {x y : Uuid}
    (h : linkOf db x = some y) : linkOf (resolveStep L db op) x = some y := by
  cases op with
  | upsertTransaction now t => rw [linkOf_upsert, h]
  | autoResolvePendingDuplicates now userId connectionId =>
    rw [linkOf_autoResolve hids, LinkGraph.overlay]
    rcases hnew : (matchedPairs L db userId connectionId).lookup x with - | z
    · rw [Option.none_or, h]
    · have hfresh := matchedPairs_fresh hids x (by rw [hnew]; exact Option.some_ne_none z)
      rw [h] at hfresh
      exact absurd hfresh (by simp)

/-- **A link that a statement sets is a match of the call.** -/
theorem linkOf_resolveStep_cases (hids : UniqueIds db) {op : ResolveOp} {x y : Uuid}
    (h : linkOf (resolveStep L db op) x = some y) :
    linkOf db x = some y ∨ ∃ now userId connectionId,
      op = .autoResolvePendingDuplicates now userId connectionId ∧
        MatchedIn L db userId connectionId x y := by
  cases op with
  | upsertTransaction now t => exact Or.inl (by rwa [linkOf_upsert] at h)
  | autoResolvePendingDuplicates now userId connectionId =>
    rw [linkOf_autoResolve hids, LinkGraph.overlay, Option.or_eq_some_iff] at h
    rcases h with hnew | ⟨-, hold⟩
    · obtain ⟨p, hp, post, hpost, rfl, rfl⟩ := (lookup_matchedPairs hids).1 hnew
      exact Or.inr ⟨now, userId, connectionId, rfl, matchedIn_of_postedMatch hp hpost⟩
    · exact Or.inl hold

/-- **When a statement keeps the links one-to-one.** -/
theorem oneToOne_resolveStep_iff (hids : UniqueIds db) (op : ResolveOp)
    (h : LinkGraph.OneToOne (linkOf db)) :
    LinkGraph.OneToOne (linkOf (resolveStep L db op)) ↔ PicksDistinct L db op := by
  cases op with
  | upsertTransaction now t =>
    rw [linkOf_upsert]
    exact iff_of_true h trivial
  | autoResolvePendingDuplicates now userId connectionId =>
    rw [linkOf_autoResolve hids, LinkGraph.oneToOne_overlay_iff h (matchedPairs_fresh hids)]
    constructor
    · rintro ⟨hinj, hfree⟩ p hp post hpost
      have hlookup := (lookup_matchedPairs hids).2 ⟨p, hp, post, hpost, rfl, rfl⟩
      refine ⟨fun p' hp' hpost' ↦ ?_, fun t ht hdup ↦ ?_⟩
      · have hlookup' := (lookup_matchedPairs hids).2 ⟨p', hp', post, hpost', rfl, rfl⟩
        exact List.inj_on_of_nodup_map hids (mem_pendingTx hp).1 (mem_pendingTx hp').1
          (hinj _ _ _ hlookup hlookup')
      · exact hfree _ _ hlookup t.id (by rw [linkOf_of_mem hids ht, hdup])
    · intro hpicks
      refine ⟨fun x x' y hx hx' ↦ ?_, fun x y hx z hz ↦ ?_⟩
      · obtain ⟨p, hp, post, hpost, rfl, rfl⟩ := (lookup_matchedPairs hids).1 hx
        obtain ⟨p', hp', post', hpost', rfl, hid⟩ := (lookup_matchedPairs hids).1 hx'
        -- the two posted rows have one id, so they are one row
        have hrow : ∀ {p q}, postedMatch L db userId connectionId p = some q →
            q ∈ db.transactions := fun hq ↦
          (mem_postedTx (List.mem_filter.1 (OrderBy.mem_of_head?_orderBy _ hq)).1).1
        obtain rfl := List.inj_on_of_nodup_map hids (hrow hpost') (hrow hpost) hid
        rw [(hpicks p hp post' hpost).1 p' hp' hpost']
      · obtain ⟨p, hp, post, hpost, rfl, rfl⟩ := (lookup_matchedPairs hids).1 hx
        obtain ⟨t, ht, -, hdup⟩ := exists_row_of_linkOf hz
        exact (hpicks p hp post hpost).2 t ht hdup

end Step

/-! ### Whole runs -/

section Run

variable {L : Locale} {db : Store}

theorem linkOf_resolveRun (hids : UniqueIds db) {x y : Uuid} (h : linkOf db x = some y)
    (ops : List ResolveOp) : linkOf (ops.foldl (resolveStep L) db) x = some y := by
  induction ops generalizing db with
  | nil => exact h
  | cons op ops ih => exact ih (uniqueIds_resolveStep hids op) (linkOf_resolveStep hids op h)

/-- A link at the end of a run was there at the start, or was set by a call of the run. -/
theorem linkOf_resolveRun_cases (hids : UniqueIds db) (ops : List ResolveOp) {x y : Uuid}
    (h : linkOf (ops.foldl (resolveStep L) db) x = some y) :
    linkOf db x = some y ∨ ∃ before now userId connectionId after,
      ops = before ++ .autoResolvePendingDuplicates now userId connectionId :: after ∧
        MatchedIn L (before.foldl (resolveStep L) db) userId connectionId x y := by
  induction ops generalizing db with
  | nil => exact Or.inl h
  | cons op ops ih =>
    rcases ih (uniqueIds_resolveStep hids op) h with
      hstep | ⟨before, now, userId, connectionId, after, rfl, hmatch⟩
    · rcases linkOf_resolveStep_cases hids hstep with
        hold | ⟨now, userId, connectionId, rfl, hmatch⟩
      · exact Or.inl hold
      · exact Or.inr ⟨[], now, userId, connectionId, ops, rfl, hmatch⟩
    · exact Or.inr ⟨op :: before, now, userId, connectionId, after, rfl, hmatch⟩

end Run

/-- **What a run of resolutions and upserts does to the links.** No link changes; every new one is
a match of the call that set it; and they are one-to-one throughout if and only if they were so at
the start and no call picks one posted row twice or one that is the target of a link. -/
theorem resolution_run (L : Locale) (db : Database) (ops : List ResolveOp) :
    (∀ x y, linkOf db.toStore x = some y →
        linkOf (ops.foldl (resolveStep L) db.toStore) x = some y) ∧
      (∀ x y, linkOf (ops.foldl (resolveStep L) db.toStore) x = some y →
        linkOf db.toStore x = some y ∨ ∃ before now userId connectionId after,
          ops = before ++ .autoResolvePendingDuplicates now userId connectionId :: after ∧
            MatchedIn L (before.foldl (resolveStep L) db.toStore) userId connectionId x y) ∧
      (Throughout (resolveStep L) (fun db ↦ LinkGraph.OneToOne (linkOf db)) db.toStore ops ↔
        LinkGraph.OneToOne (linkOf db.toStore) ∧
          Guarded (resolveStep L) (PicksDistinct L) db.toStore ops) := by
  have hids : UniqueIds db.toStore := db.keyed.transactions_pkey
  refine ⟨fun x y h ↦ linkOf_resolveRun hids h ops,
    fun x y h ↦ linkOf_resolveRun_cases hids ops h, ?_⟩
  have hexact : LinkGraph.OneToOne (linkOf db.toStore) →
      (Throughout (resolveStep L) (fun db ↦ LinkGraph.OneToOne (linkOf db)) db.toStore ops ↔
        Guarded (resolveStep L) (PicksDistinct L) db.toStore ops) := fun hone ↦
    throughout_iff_guarded (I := UniqueIds) (fun _ op h ↦ uniqueIds_resolveStep h op)
      (fun _ op h hs ↦ oneToOne_resolveStep_iff h op hs) hids hone ops
  constructor
  · intro h
    exact ⟨h.start, (hexact h.start).1 h⟩
  · rintro ⟨hone, hguard⟩
    exact (hexact hone).2 hguard

/-- Two equal pending charges, and one of them posted. -/
def pendingCharges : Database where
  toStore := { Store.empty with
    accounts := [checkingAccount]
    transactions := [
      { checkingTransaction 1 100 500 with
        providerTransactionId := some "txn-1", merchantName := some "Coffee", pending := true },
      { checkingTransaction 2 100 500 with
        providerTransactionId := some "txn-2", merchantName := some "Coffee", pending := true },
      { checkingTransaction 3 101 500 with
        providerTransactionId := some "txn-3", merchantName := some "Coffee" }]
    providerConnections := [checkingConnection] }
  keyed := by decide
  referential := by decide

/-- **A posted transaction shared by two pending ones.** -/
theorem resolution_shares_pendingCharges :
    let db := [ResolveOp.autoResolvePendingDuplicates 0 7 (some 5)].foldl (resolveStep Locale.c)
      pendingCharges.toStore
    linkOf pendingCharges.toStore 1 = none ∧ linkOf pendingCharges.toStore 2 = none ∧
      linkOf db 1 = some 3 ∧ linkOf db 2 = some 3 ∧ ¬ LinkGraph.OneToOne (linkOf db) := by
  intro db
  have h₁ : linkOf db 1 = some 3 := by decide
  have h₂ : linkOf db 2 = some 3 := by decide
  refine ⟨by decide, by decide, h₁, h₂, fun hone ↦ ?_⟩
  have heq : (1 : Uuid) = 2 := hone 1 2 3 h₁ h₂
  exact absurd heq (by decide)

end Sumurai
