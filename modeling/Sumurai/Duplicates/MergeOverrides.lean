import Sumurai.Duplicates.Merge

/-!
# What a duplicate merge does to the overrides

The merge offers the override of every duplicate to the canonical row of each of its pairs, and the
first one that a row is offered stays, unless the row has one already. The statement that inserts
them was written before overrides had a subcategory: it copies the category and leaves the
subcategory empty.

`keepsCategories_iff` says exactly for which stores a merge keeps the categories that it deletes.
-/

open Relation

namespace Sumurai

/-! ### Overrides and their keys -/

/-- A user has one override for a transaction. -/
def UniqueOverrides (overrides : List TransactionCategoryOverride) : Prop :=
  (overrides.map fun o ↦ (o.transactionId, o.userId)).Nodup

section Overrides

variable {overrides : List TransactionCategoryOverride} {x u : Uuid}

theorem findOverride_eq_some_iff (h : UniqueOverrides overrides) {o : TransactionCategoryOverride} :
    findOverride overrides x u = some o ↔ o ∈ overrides ∧ o.transactionId = x ∧ o.userId = u := by
  constructor
  · intro hfind
    exact ⟨List.mem_of_find?_eq_some hfind, by simpa using List.find?_some hfind⟩
  · rintro ⟨hmem, rfl, rfl⟩
    rcases hfind : findOverride overrides o.transactionId o.userId with - | o'
    · have hnot := List.find?_eq_none.1 hfind o hmem
      simp at hnot
    · have hkey : o'.transactionId = o.transactionId ∧ o'.userId = o.userId := by
        simpa using List.find?_some hfind
      rw [List.inj_on_of_nodup_map h (List.mem_of_find?_eq_some hfind) hmem
        (Prod.ext hkey.1 hkey.2)]

theorem findOverride_append (overrides' : List TransactionCategoryOverride) :
    findOverride (overrides ++ overrides') x u =
      (findOverride overrides x u).or (findOverride overrides' x u) :=
  List.find?_append

theorem findOverride_singleton (o : TransactionCategoryOverride) :
    findOverride [o] x u = if o.transactionId = x ∧ o.userId = u then some o else none := by
  simp only [findOverride, List.find?_singleton, decide_eq_true_eq]

theorem findOverride_insert (o : TransactionCategoryOverride) :
    findOverride (insertOverrideOrIgnore overrides o) x u =
      (findOverride overrides x u).or (findOverride [o] x u) := by
  rw [insertOverrideOrIgnore]
  split
  · rename_i hthere
    rw [findOverride_singleton]
    split
    · rename_i hkey
      rw [← hkey.1, ← hkey.2]
      exact (Option.or_of_isSome hthere).symm
    · exact Option.or_none.symm
  · exact findOverride_append [o]

/-- **The first override for a key stays.** -/
theorem findOverride_foldl_insert (offers : List TransactionCategoryOverride) :
    findOverride (offers.foldl insertOverrideOrIgnore overrides) x u =
      (findOverride overrides x u).or (findOverride offers x u) := by
  induction offers generalizing overrides with
  | nil => exact Option.or_none.symm
  | cons o offers ih =>
    rw [List.foldl_cons, ih, findOverride_insert, Option.or_assoc, ← findOverride_append]
    rfl

theorem UniqueOverrides.insert (h : UniqueOverrides overrides) (o : TransactionCategoryOverride) :
    UniqueOverrides (insertOverrideOrIgnore overrides o) := by
  rw [insertOverrideOrIgnore]
  split
  · exact h
  · rename_i hnone
    rw [UniqueOverrides, List.map_append, List.map_singleton, List.nodup_append]
    refine ⟨h, List.nodup_singleton _, fun key hkey key' hkey' ↦ ?_⟩
    rintro rfl
    obtain ⟨o', ho', heq⟩ := List.mem_map.1 hkey
    rw [List.mem_singleton.1 hkey'] at heq
    obtain ⟨htransaction, huser⟩ := Prod.mk.inj heq
    have hfind := (findOverride_eq_some_iff h).2 ⟨ho', htransaction, huser⟩
    exact hnone (by rw [hfind]; rfl)

theorem UniqueOverrides.foldl_insert (h : UniqueOverrides overrides)
    (offers : List TransactionCategoryOverride) :
    UniqueOverrides (offers.foldl insertOverrideOrIgnore overrides) := by
  induction offers generalizing overrides with
  | nil => exact h
  | cons o offers ih => exact ih (h.insert o)

end Overrides

/-! ### Offers -/

/-- An override as it is offered to a canonical row. -/
def TransactionCategoryOverride.offeredTo (tco : TransactionCategoryOverride) (canonicalId : Uuid) :
    TransactionCategoryOverride where
  transactionId := canonicalId
  userId := tco.userId
  categoryName := tco.categoryName
  subcategoryName := none
  createdAt := tco.createdAt

/-- `moved_overrides`, before conflicts: the overrides of every duplicate, offered to its canonical
rows. -/
def movedOverrides (overrides : List TransactionCategoryOverride) (userId : Uuid)
    (pairs : List (Uuid × Uuid)) : List TransactionCategoryOverride :=
  overrides.flatMap fun tco ↦
    if tco.userId = userId then
      (pairs.filter fun d ↦ d.2 = tco.transactionId).map fun d ↦ tco.offeredTo d.1
    else []

theorem findOverride_offers (tco : TransactionCategoryOverride) (userId : Uuid)
    (pairs : List (Uuid × Uuid)) (x u : Uuid) :
    findOverride (if tco.userId = userId then
        (pairs.filter fun d ↦ d.2 = tco.transactionId).map fun d ↦ tco.offeredTo d.1 else []) x u =
      if u = userId ∧ tco.userId = userId ∧ (x, tco.transactionId) ∈ pairs then
        some (tco.offeredTo x) else none := by
  split
  · rename_i huser
    -- an offer with the key is that to `x`
    have hoffer : ∀ o ∈ (pairs.filter fun d ↦ d.2 = tco.transactionId).map fun d ↦
        tco.offeredTo d.1, o.transactionId = x → o = tco.offeredTo x ∧
          (x, tco.transactionId) ∈ pairs := by
      rintro o ho rfl
      obtain ⟨⟨canonicalId, duplicateId⟩, hd, rfl⟩ := List.mem_map.1 ho
      obtain ⟨hmem, hdup⟩ := List.mem_filter.1 hd
      obtain rfl : duplicateId = tco.transactionId := of_decide_eq_true hdup
      exact ⟨rfl, hmem⟩
    rcases hfind : findOverride _ x u with - | o
    · rw [if_neg]
      rintro ⟨rfl, -, hpair⟩
      have hnot := List.find?_eq_none.1 hfind (tco.offeredTo x)
        (List.mem_map.2 ⟨_, List.mem_filter.2 ⟨hpair, decide_eq_true rfl⟩, rfl⟩)
      exact hnot (decide_eq_true ⟨rfl, huser⟩)
    · have hkey : o.transactionId = x ∧ o.userId = u := by simpa using List.find?_some hfind
      obtain ⟨rfl, hpair⟩ := hoffer o (List.mem_of_find?_eq_some hfind) hkey.1
      rw [if_pos ⟨hkey.2.symm.trans huser, huser, hpair⟩]
  · rename_i huser
    rw [if_neg fun h ↦ huser h.2.1]
    rfl

/-- **What a row is offered first.** -/
theorem findOverride_movedOverrides (overrides : List TransactionCategoryOverride) (userId : Uuid)
    (pairs : List (Uuid × Uuid)) (x u : Uuid) :
    findOverride (movedOverrides overrides userId pairs) x u =
      if u = userId then
        (overrides.find? fun tco ↦
          tco.userId = userId ∧ (x, tco.transactionId) ∈ pairs).map fun tco ↦ tco.offeredTo x
      else none := by
  induction overrides with
  | nil => split <;> rfl
  | cons tco overrides ih =>
    rw [movedOverrides, List.flatMap_cons, findOverride_append, findOverride_offers,
      show findOverride (overrides.flatMap _) x u = _ from ih]
    rcases em (u = userId) with huser | huser
    · rcases em (tco.userId = userId ∧ (x, tco.transactionId) ∈ pairs) with hoffer | hoffer
      · simp [huser, hoffer]
      · simp [huser, hoffer]
    · simp [huser]

/-! ### The guarantee -/

section Guarantee

open MergeCandidate

variable (L : Locale) (db : Database) (userId connectionId : Uuid)

/-- The duplicate group of a candidate. -/
abbrev InGroup : MergeCandidate → MergeCandidate → Prop :=
  EqvGen (DuplicateRelation L db userId connectionId)

/-- A merge that deletes a transaction with an override of a user leaves an override of that user
with the same category and the same subcategory on a row of its group, unless a row of the group
that stays had an override of the user before. -/
def KeepsCategories : Prop :=
  ∀ t ∈ db.transactions, t.id ∉ mergedIds L db userId connectionId →
    ∀ o ∈ db.transactionCategoryOverrides, o.transactionId = t.id →
      (∀ m ∈ transactionCandidates L db.toStore userId connectionId,
        InGroup L db userId connectionId (.ofRow L t) m →
          m.id ∈ mergedIds L db userId connectionId →
            ∀ o' ∈ db.transactionCategoryOverrides, o'.transactionId = m.id →
              o'.userId ≠ o.userId) →
        ∃ m ∈ transactionCandidates L db.toStore userId connectionId,
          InGroup L db userId connectionId (.ofRow L t) m ∧
            m.id ∈ mergedIds L db userId connectionId ∧
              ∃ o' ∈ (mergeDuplicateProviderTransactions L db.toStore userId
                  connectionId).1.transactionCategoryOverrides,
                o'.transactionId = m.id ∧ o'.userId = o.userId ∧
                  o'.categoryName = o.categoryName ∧ o'.subcategoryName = o.subcategoryName

/-- A candidate loses to a related one. -/
def Beaten (c : MergeCandidate) : Prop :=
  ∃ y ∈ transactionCandidates L db.toStore userId connectionId, Related c y ∧ LosesTo c y

/-- The first override of the user, in the order of the table, that a candidate which loses to this
one has. -/
def firstOffer (m : MergeCandidate) : Option TransactionCategoryOverride :=
  db.transactionCategoryOverrides.find? fun o ↦ o.userId = userId ∧
    ∃ x ∈ transactionCandidates L db.toStore userId connectionId,
      x.id = o.transactionId ∧ Related x m ∧ LosesTo x m

/-- Every override of a beaten candidate, in whose group no unbeaten candidate has an override of
the same user, is one of the user's without a subcategory, and some unbeaten candidate of the group
is offered its category first. -/
def CategoriesArrive : Prop :=
  ∀ c ∈ transactionCandidates L db.toStore userId connectionId, Beaten L db userId connectionId c →
    ∀ o ∈ db.transactionCategoryOverrides, o.transactionId = c.id →
      (∀ m ∈ transactionCandidates L db.toStore userId connectionId,
        InGroup L db userId connectionId c m → ¬Beaten L db userId connectionId m →
          ∀ o' ∈ db.transactionCategoryOverrides, o'.transactionId = m.id →
            o'.userId ≠ o.userId) →
        o.userId = userId ∧ o.subcategoryName = none ∧
          ∃ m ∈ transactionCandidates L db.toStore userId connectionId,
            InGroup L db userId connectionId c m ∧ ¬Beaten L db userId connectionId m ∧
              ∃ o' ∈ firstOffer L db userId connectionId m, o'.categoryName = o.categoryName

variable {L db userId connectionId}

/-- A candidate stays exactly if it is unbeaten. -/
theorem mem_mergedIds_iff {c : MergeCandidate}
    (hc : c ∈ transactionCandidates L db.toStore userId connectionId) :
    c.id ∈ mergedIds L db userId connectionId ↔ ¬Beaten L db userId connectionId c := by
  rw [← not_iff_not, not_not, lost_iff hc]
  constructor
  · rintro ⟨y, ⟨-, hy, hrel⟩, hlose⟩
    exact ⟨y, hy, hrel, hlose⟩
  · rintro ⟨y, hy, hrel, hlose⟩
    exact ⟨y, ⟨hc, hy, hrel⟩, hlose⟩

/-- A deleted transaction is a candidate. -/
theorem ofRow_mem_of_deleted {t : TransactionRow} (ht : t ∈ db.transactions)
    (hgone : t.id ∉ mergedIds L db userId connectionId) :
    MergeCandidate.ofRow L t ∈ transactionCandidates L db.toStore userId connectionId := by
  have hdup : t.id ∈ (duplicatePairs (transactionCandidates L db.toStore userId
      connectionId)).map Prod.snd := by
    by_contra hkeep
    refine hgone ?_
    rw [mergedIds, mergeDuplicateProviderTransactions, deleteTransactions, List.map_map]
    exact List.mem_map.2 ⟨t, List.mem_filter.2 ⟨ht, by simp [hkeep]⟩, rfl⟩
  obtain ⟨d, hd, hid⟩ := List.mem_map.1 hdup
  obtain ⟨older, hold, newer, hnew, -, rfl⟩ := mem_duplicatePairs_iff.1 hd
  -- the duplicate of a pair is one of its candidates
  have hcandidate : ∃ c ∈ transactionCandidates L db.toStore userId connectionId, c.id = t.id := by
    rw [duplicatePair] at hid
    split at hid
    · exact ⟨older, hold, hid⟩
    · exact ⟨newer, hnew, hid⟩
  obtain ⟨c, hc, hcid⟩ := hcandidate
  obtain ⟨r, hr, rfl⟩ := List.mem_map.1 hc
  obtain rfl := List.inj_on_of_nodup_map db.keyed.transactions_pkey
    (List.mem_filter.1 hr).1 ht hcid
  exact hc

theorem uniqueOverrides (d : Database) : UniqueOverrides d.transactionCategoryOverrides :=
  d.keyed.transactionCategoryOverrides_pkey

/-- The overrides of a row that stays are not deleted. -/
theorem mem_mergedOverrides_iff {x : Uuid} (hx : x ∈ mergedIds L db userId connectionId)
    {o : TransactionCategoryOverride} (ho : o.transactionId = x) :
    o ∈ (mergeDuplicateProviderTransactions L db.toStore userId
        connectionId).1.transactionCategoryOverrides ↔
      o ∈ (movedOverrides db.transactionCategoryOverrides userId (duplicatePairs
        (transactionCandidates L db.toStore userId connectionId))).foldl insertOverrideOrIgnore
          db.transactionCategoryOverrides := by
  rw [mergeDuplicateProviderTransactions, deleteTransactions]
  refine List.mem_filter.trans (and_iff_left ?_)
  rw [decide_eq_true_eq, ho, List.mem_map]
  rintro ⟨r, hr, rfl⟩
  obtain ⟨hmem, hdoomed⟩ := List.mem_filter.1 hr
  rw [mergedIds, mergeDuplicateProviderTransactions, deleteTransactions, List.map_map] at hx
  obtain ⟨r', hr', hid⟩ := List.mem_map.1 hx
  obtain ⟨hmem', hkept⟩ := List.mem_filter.1 hr'
  obtain rfl := List.inj_on_of_nodup_map db.keyed.transactions_pkey hmem' hmem hid
  rw [hdoomed] at hkept
  exact absurd hkept Bool.false_ne_true

/-- **What a row that stays has of a user** who had no override for it: the first offer to it,
without the subcategory. -/
theorem exists_mergedOverride_iff {m : MergeCandidate}
    (hm : m ∈ transactionCandidates L db.toStore userId connectionId)
    (hstays : m.id ∈ mergedIds L db userId connectionId) {u : Uuid}
    (hnone : ∀ o ∈ db.transactionCategoryOverrides, o.transactionId = m.id → o.userId ≠ u)
    (categoryName : String) (subcategoryName : Option String) :
    (∃ o ∈ (mergeDuplicateProviderTransactions L db.toStore userId
        connectionId).1.transactionCategoryOverrides, o.transactionId = m.id ∧ o.userId = u ∧
          o.categoryName = categoryName ∧ o.subcategoryName = subcategoryName) ↔
      u = userId ∧ subcategoryName = none ∧
        ∃ o ∈ firstOffer L db userId connectionId m, o.categoryName = categoryName := by
  have hpairs : ∀ tco : TransactionCategoryOverride, (m.id, tco.transactionId) ∈
      duplicatePairs (transactionCandidates L db.toStore userId connectionId) ↔ _ := fun tco ↦
    mem_duplicatePairs_of_mem (transactionCandidates_ids_nodup L db userId connectionId) hm
  have hunique := (uniqueOverrides db).foldl_insert
    (movedOverrides db.transactionCategoryOverrides userId (duplicatePairs
      (transactionCandidates L db.toStore userId connectionId)))
  have hold : findOverride db.transactionCategoryOverrides m.id u = none :=
    List.find?_eq_none.2 fun o ho hkey ↦ by
      have hkey := of_decide_eq_true hkey
      exact hnone o ho hkey.1 hkey.2
  -- the override of the key after the merge
  have hfind : findOverride ((movedOverrides db.transactionCategoryOverrides userId (duplicatePairs
      (transactionCandidates L db.toStore userId connectionId))).foldl insertOverrideOrIgnore
        db.transactionCategoryOverrides) m.id u = _ := findOverride_foldl_insert _
  rw [hold, Option.none_or, findOverride_movedOverrides] at hfind
  simp only [hpairs] at hfind
  have hoffer : ∀ o, (o ∈ (mergeDuplicateProviderTransactions L db.toStore userId
      connectionId).1.transactionCategoryOverrides ∧ o.transactionId = m.id ∧ o.userId = u) ↔
        u = userId ∧ ∃ tco ∈ firstOffer L db userId connectionId m, tco.offeredTo m.id = o := by
    intro o
    rw [show (o ∈ _ ∧ o.transactionId = m.id ∧ o.userId = u) ↔ (o ∈ _ ∧ o.transactionId = m.id ∧
      o.userId = u) from and_congr_left fun h ↦ mem_mergedOverrides_iff hstays h.1,
      ← findOverride_eq_some_iff hunique, hfind]
    split
    · rename_i huser
      rw [and_iff_right huser, Option.map_eq_some_iff]
      rfl
    · rename_i huser
      exact iff_of_false nofun fun h ↦ huser h.1
  constructor
  · rintro ⟨o, ho, htransaction, huser, hcategory, hsubcategory⟩
    obtain ⟨hu, tco, htco, rfl⟩ := (hoffer o).1 ⟨ho, htransaction, huser⟩
    exact ⟨hu, hsubcategory.symm, tco, htco, hcategory⟩
  · rintro ⟨hu, rfl, tco, htco, hcategory⟩
    obtain ⟨ho, htransaction, huser⟩ := (hoffer _).2 ⟨hu, tco, htco, rfl⟩
    exact ⟨_, ho, htransaction, huser, hcategory, rfl⟩

/-- **Which merges keep the categories.** Exactly those that delete, of the groups whose remaining
rows have no override, only overrides without a subcategory, each with a category that some
remaining row of the group is offered first. -/
theorem keepsCategories_iff (L : Locale) (db : Database) (userId connectionId : Uuid) :
    KeepsCategories L db userId connectionId ↔ CategoriesArrive L db userId connectionId := by
  constructor
  · intro hkeep c hc hbeaten o ho hoc hnone
    obtain ⟨t, ht, rfl⟩ := List.mem_map.1 hc
    have hgone : t.id ∉ mergedIds L db userId connectionId := fun hstays ↦
      (mem_mergedIds_iff hc).1 hstays hbeaten
    obtain ⟨m, hm, hgroup, hstays, hoverride⟩ := hkeep t (List.mem_filter.1 ht).1 hgone o ho hoc
      fun m hm hgroup hstays ↦ hnone m hm hgroup ((mem_mergedIds_iff hm).1 hstays)
    have hunbeaten := (mem_mergedIds_iff hm).1 hstays
    obtain ⟨huser, hsubcategory, hoffer⟩ :=
      (exists_mergedOverride_iff hm hstays (hnone m hm hgroup hunbeaten) _ _).1 hoverride
    exact ⟨huser, hsubcategory, m, hm, hgroup, hunbeaten, hoffer⟩
  · intro harrive t ht hgone o ho hot hnone
    have hc := ofRow_mem_of_deleted ht hgone
    have hbeaten : Beaten L db userId connectionId (.ofRow L t) := by
      by_contra hunbeaten
      exact hgone ((mem_mergedIds_iff hc).2 hunbeaten)
    have hnone' : ∀ m ∈ transactionCandidates L db.toStore userId connectionId,
        InGroup L db userId connectionId (.ofRow L t) m → ¬Beaten L db userId connectionId m →
          ∀ o' ∈ db.transactionCategoryOverrides, o'.transactionId = m.id → o'.userId ≠ o.userId :=
      fun m hm hgroup hunbeaten ↦ hnone m hm hgroup ((mem_mergedIds_iff hm).2 hunbeaten)
    obtain ⟨huser, hsubcategory, m, hm, hgroup, hunbeaten, hoffer⟩ :=
      harrive _ hc hbeaten o ho hot hnone'
    have hstays := (mem_mergedIds_iff hm).2 hunbeaten
    exact ⟨m, hm, hgroup, hstays, (exists_mergedOverride_iff hm hstays
      (hnone' m hm hgroup hunbeaten) _ _).2 ⟨huser, hsubcategory, hoffer⟩⟩

end Guarantee

/-- A coffee, filed under a subcategory and reported again later under a new provider id. -/
def filedCoffee : Database where
  toStore := { Store.empty with
    accounts := [checkingAccount]
    transactions := [
      { checkingTransaction 1 100 500 with
        providerTransactionId := some "txn-1", merchantName := some "Coffee", createdAt := some 0 },
      { checkingTransaction 2 100 500 with
        providerTransactionId := some "txn-2", merchantName := some "Coffee", createdAt := some 1 }]
    providerConnections := [checkingConnection]
    transactionCategoryOverrides := [
      { transactionId := 1, userId := 7, categoryName := "Food & Dining"
        subcategoryName := some "Coffee Shops", createdAt := some 2 }] }
  keyed := by decide
  referential := by decide

/-- **A subcategory that a merge loses.** The row that stays has the category of the one that is
deleted and no subcategory. -/
theorem not_keepsCategories_filedCoffee : ¬KeepsCategories Locale.c filedCoffee 7 5 := by
  intro hkeep
  have hids : mergedIds Locale.c filedCoffee 7 5 = [2] := by decide +kernel
  have hone : ∀ {m}, m ∈ mergedIds Locale.c filedCoffee 7 5 → m = 2 := fun h ↦ by
    rw [hids] at h
    exact List.mem_singleton.1 h
  obtain ⟨m, -, -, -, o', ho', -, -, -, hsubcategory⟩ :=
    hkeep filedCoffee.transactions[0] (by decide) (by decide)
      filedCoffee.transactionCategoryOverrides[0] (by decide) rfl
      fun m _ _ hstays o' ho' hom ↦ by
        rw [hone hstays] at hom
        rw [List.mem_singleton.1 ho'] at hom
        exact absurd hom (by decide)
  have hnone : ∀ o ∈ (mergeDuplicateProviderTransactions Locale.c filedCoffee.toStore 7
      5).1.transactionCategoryOverrides, o.subcategoryName = none := by decide
  rw [hnone o' ho'] at hsubcategory
  exact absurd hsubcategory nofun

end Sumurai
