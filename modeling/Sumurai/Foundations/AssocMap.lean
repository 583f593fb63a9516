import Mathlib.Data.List.Dedup
import Mathlib.Algebra.BigOperators.Group.List.Basic
import Mathlib.Data.List.Induction
import Mathlib.Data.List.Nodup
import Mathlib.Order.Lattice

/-!
# Association maps built by insertion

The maps an accumulating loop builds: an association list in order of first insertion, read with
`List.lookup`. Four ways of writing a key are used by such loops, and each has one lookup
lemma:

* `insert` replaces the value of a present key (`map.insert(k, v)`);
* `orInsert` keeps it (`map.entry(k).or_insert(v)`);
* `addTo` adds to it (`map.entry(k).and_modify(|x| *x += v).or_insert(v)`);
* `modifyOrDefault` changes it, starting from a default (`f(map.entry(k).or_default())`).

A *new* key is appended by every one of them (`insert_of_notMem`), so a loop over distinct keys
builds the list of its own entries. The *groups* of a list are the map that collects its elements by
a key, and together they hold each element once (`flatMap_groups_perm`). On ordered keys
`lastUpTo k` is the entry with the greatest key up to `k` (`map.range(..=k).next_back()`), which
does not see the entries above `k`.

For `addTo` the other reading of the map is a *tally*: the sum of the values over the keys in
some set. `sumWhere_addTo` says that one `addTo` changes that sum by the added value when the key
is counted and not otherwise — whatever the order of the keys and whether or not the key was
present — and `sumWhere_tally` that a tally built from a list sums the list itself.
-/

namespace AssocMap

variable {κ ν ι : Type*} [DecidableEq κ]

/-- Replace the value of `k`, or append `k` with value `v`. -/
def insert (k : κ) (v : ν) : List (κ × ν) → List (κ × ν)
  | [] => [(k, v)]
  | (k', v') :: m => if k' = k then (k, v) :: m else (k', v') :: insert k v m

/-- Add `k` to a set of keys (`set.insert(k)`). -/
def addKey (k : κ) (s : List κ) : List κ :=
  if k ∈ s then s else s ++ [k]

/-- Append `k` with value `v` unless `k` is present. -/
def orInsert (k : κ) (v : ν) : List (κ × ν) → List (κ × ν)
  | [] => [(k, v)]
  | (k', v') :: m => if k' = k then (k', v') :: m else (k', v') :: orInsert k v m

/-- Add `v` to the value of `k`, or append `k` with value `v`. -/
def addTo [Add ν] (k : κ) (v : ν) : List (κ × ν) → List (κ × ν)
  | [] => [(k, v)]
  | (k', v') :: m => if k' = k then (k', v' + v) :: m else (k', v') :: addTo k v m

/-- Change the value of `k` by `f`, starting from `d` when `k` is absent. -/
def modifyOrDefault (k : κ) (d : ν) (f : ν → ν) (m : List (κ × ν)) : List (κ × ν) :=
  insert k (f ((m.lookup k).getD d)) m

/-! ### Lookup after a write -/

theorem lookup_cons_ite (k k₀ : κ) (v₀ : ν) (m : List (κ × ν)) :
    ((k₀, v₀) :: m).lookup k = if k = k₀ then some v₀ else m.lookup k := by
  by_cases h : k = k₀
  · simp [h]
  · rw [List.lookup_cons, if_neg h, beq_eq_false_iff_ne.2 h]

theorem mem_of_lookup_eq_some {k : κ} {v : ν} {m : List (κ × ν)} (h : m.lookup k = some v) :
    (k, v) ∈ m := by
  obtain ⟨l₁, l₂, rfl, -⟩ := List.lookup_eq_some_iff.1 h
  exact List.mem_append_right l₁ List.mem_cons_self

theorem lookup_ne_none_iff {k : κ} {m : List (κ × ν)} :
    m.lookup k ≠ none ↔ ∃ v, (k, v) ∈ m := by
  constructor
  · intro h
    obtain ⟨v, hv⟩ := Option.ne_none_iff_exists'.1 h
    exact ⟨v, mem_of_lookup_eq_some hv⟩
  · rintro ⟨v, hv⟩ hnone
    have := List.lookup_eq_none_iff.1 hnone _ hv
    simp at this

/-- Removing a key. -/
theorem lookup_filter_ne (k k' : κ) (m : List (κ × ν)) :
    (m.filter fun e ↦ e.1 ≠ k).lookup k' = if k' = k then none else m.lookup k' := by
  induction m with
  | nil => simp
  | cons e m ih =>
    rw [List.filter_cons]
    split <;> grind

theorem lookup_insert (k k' : κ) (v : ν) (m : List (κ × ν)) :
    (insert k v m).lookup k' = if k' = k then some v else m.lookup k' := by
  induction m with
  | nil => rw [insert, lookup_cons_ite]
  | cons e m ih =>
    obtain ⟨k₀, v₀⟩ := e
    by_cases h₀ : k₀ = k
    · subst h₀
      rw [insert, if_pos rfl, lookup_cons_ite, lookup_cons_ite]
      split <;> rfl
    · rw [insert, if_neg h₀, lookup_cons_ite, lookup_cons_ite, ih]
      grind

theorem lookup_addTo [AddMonoid ν] (k k' : κ) (v : ν) (m : List (κ × ν)) :
    (addTo k v m).lookup k' =
      if k' = k then some ((m.lookup k).getD 0 + v) else m.lookup k' := by
  induction m with
  | nil => simp [addTo, lookup_cons_ite]
  | cons e m ih =>
    obtain ⟨k₀, v₀⟩ := e
    by_cases h₀ : k₀ = k
    · subst h₀
      rw [addTo, if_pos rfl, lookup_cons_ite, lookup_cons_ite, lookup_cons_ite, if_pos rfl,
        Option.getD_some]
      grind
    · rw [addTo, if_neg h₀, lookup_cons_ite, lookup_cons_ite, lookup_cons_ite, ih,
        if_neg (Ne.symm h₀)]
      grind

theorem lookup_modifyOrDefault (k k' : κ) (d : ν) (f : ν → ν) (m : List (κ × ν)) :
    (modifyOrDefault k d f m).lookup k' =
      if k' = k then some (f ((m.lookup k).getD d)) else m.lookup k' :=
  lookup_insert k k' _ m

/-- **A loop of `modifyOrDefault` runs, at each key, the loop over that key's own elements.** -/
theorem lookup_foldl_modifyOrDefault (key : ι → κ) (d : ν) (f : ι → ν → ν) (k : κ)
    (l : List ι) (m : List (κ × ν)) :
    (l.foldl (fun m i ↦ modifyOrDefault (key i) d (f i) m) m).lookup k =
      if l.filter (fun i ↦ key i = k) = [] then m.lookup k
      else some ((l.filter fun i ↦ key i = k).foldl (fun v i ↦ f i v) ((m.lookup k).getD d)) := by
  induction l generalizing m with
  | nil => simp
  | cons i l ih =>
    rw [List.foldl_cons, ih, lookup_modifyOrDefault]
    by_cases h : key i = k
    · subst h
      by_cases hl : l.filter (fun j ↦ key j = key i) = []
      · simp [hl]
      · simp [hl]
    · simp [h, Ne.symm h]

/-! ### Writing distinct keys -/

theorem insert_of_notMem {k : κ} (v : ν) {m : List (κ × ν)} (h : k ∉ m.map Prod.fst) :
    insert k v m = m ++ [(k, v)] := by
  induction m with
  | nil => rfl
  | cons e m ih =>
    rw [List.map_cons, List.mem_cons, not_or] at h
    rw [insert, if_neg (Ne.symm h.1), ih h.2, List.cons_append]

theorem orInsert_of_notMem {k : κ} (v : ν) {m : List (κ × ν)} (h : k ∉ m.map Prod.fst) :
    orInsert k v m = m ++ [(k, v)] := by
  induction m with
  | nil => rfl
  | cons e m ih =>
    rw [List.map_cons, List.mem_cons, not_or] at h
    rw [orInsert, if_neg (Ne.symm h.1), ih h.2, List.cons_append]

/-- A loop inserting distinct new keys appends its own entries. -/
theorem foldl_insert_of_nodup (key : ι → κ) (val : ι → ν) {l : List ι} {m : List (κ × ν)}
    (hl : (l.map key).Nodup) (hm : ∀ i ∈ l, key i ∉ m.map Prod.fst) :
    l.foldl (fun m i ↦ insert (key i) (val i) m) m = m ++ l.map fun i ↦ (key i, val i) := by
  induction l generalizing m with
  | nil => simp
  | cons i l ih =>
    rw [List.map_cons, List.nodup_cons] at hl
    rw [List.foldl_cons, insert_of_notMem _ (hm i List.mem_cons_self), ih hl.2]
    · simp
    · intro j hj
      rw [List.map_append, List.mem_append, not_or]
      refine ⟨hm j (List.mem_cons_of_mem _ hj), ?_⟩
      rw [List.map_singleton, List.mem_singleton]
      intro hji
      have hji' : key j = key i := hji
      exact hl.1 (hji' ▸ List.mem_map_of_mem hj)

/-! ### The keys of a map -/

theorem map_fst_insert (k : κ) (v : ν) (m : List (κ × ν)) :
    (insert k v m).map Prod.fst = addKey k (m.map Prod.fst) := by
  by_cases h : k ∈ m.map Prod.fst
  · rw [addKey, if_pos h]
    induction m with
    | nil => simp at h
    | cons e m ih =>
      by_cases he : e.1 = k
      · simp [insert, he]
      · have hm : k ∈ m.map Prod.fst := by
          rw [List.map_cons, List.mem_cons] at h
          exact h.resolve_left (Ne.symm he)
        rw [insert, if_neg he, List.map_cons, ih hm, List.map_cons]
  · rw [addKey, if_neg h, insert_of_notMem v h, List.map_append, List.map_singleton]

theorem map_fst_addTo [Add ν] (k : κ) (v : ν) (m : List (κ × ν)) :
    (addTo k v m).map Prod.fst = addKey k (m.map Prod.fst) := by
  induction m with
  | nil => rfl
  | cons e m ih =>
    rw [addTo]
    split
    · rename_i h
      rw [addKey, if_pos (h ▸ List.mem_cons_self)]
      rfl
    · rename_i h
      rw [List.map_cons, List.map_cons, ih, addKey, addKey]
      simp only [List.mem_cons, Ne.symm h, false_or]
      split <;> rfl

/-- The entries after a key was set. -/
theorem mem_insert {k : κ} {v : ν} {m : List (κ × ν)} {e : κ × ν} (he : e ∈ insert k v m) :
    e = (k, v) ∨ e ∈ m := by
  induction m with
  | nil => exact Or.inl (List.mem_singleton.1 he)
  | cons e' m ih =>
    rw [insert] at he
    split at he
    · exact (List.mem_cons.1 he).imp_right (List.mem_cons_of_mem e')
    · obtain rfl | he := List.mem_cons.1 he
      · exact Or.inr List.mem_cons_self
      · exact (ih he).imp_right (List.mem_cons_of_mem e')

/-- The entries after the value of a key was changed. -/
theorem mem_modifyOrDefault {k : κ} {d : ν} {f : ν → ν} {m : List (κ × ν)} {e : κ × ν}
    (he : e ∈ modifyOrDefault k d f m) :
    e = (k, f d) ∨ (∃ v, (k, v) ∈ m ∧ e = (k, f v)) ∨ e ∈ m := by
  obtain rfl | hold := mem_insert he
  · cases hlookup : m.lookup k with
    | none => exact Or.inl rfl
    | some v => exact Or.inr (Or.inl ⟨v, mem_of_lookup_eq_some hlookup, rfl⟩)
  · exact Or.inr (Or.inr hold)

/-- The entries after something was added to a key. -/
theorem mem_addTo [Add ν] {k : κ} {v : ν} {m : List (κ × ν)} {e : κ × ν} (he : e ∈ addTo k v m) :
    e = (k, v) ∨ e ∈ m ∨ ∃ v', (k, v') ∈ m ∧ e = (k, v' + v) := by
  induction m with
  | nil => exact Or.inl (List.mem_singleton.1 he)
  | cons e' m ih =>
    obtain ⟨k', v'⟩ := e'
    rw [addTo] at he
    split at he
    · rename_i h
      subst h
      obtain rfl | he := List.mem_cons.1 he
      · exact Or.inr (Or.inr ⟨v', List.mem_cons_self, rfl⟩)
      · exact Or.inr (Or.inl (List.mem_cons_of_mem _ he))
    · obtain rfl | he := List.mem_cons.1 he
      · exact Or.inr (Or.inl List.mem_cons_self)
      · obtain heq | hmem | ⟨v'', hmem, heq⟩ := ih he
        · exact Or.inl heq
        · exact Or.inr (Or.inl (List.mem_cons_of_mem _ hmem))
        · exact Or.inr (Or.inr ⟨v'', List.mem_cons_of_mem _ hmem, heq⟩)

theorem mem_addKey {k k' : κ} {s : List κ} : k' ∈ addKey k s ↔ k' ∈ s ∨ k' = k := by
  rw [addKey]
  split
  · rename_i h
    exact ⟨Or.inl, fun hmem ↦ hmem.elim id fun heq ↦ heq ▸ h⟩
  · rw [List.mem_append, List.mem_singleton]

theorem addKey_nodup {k : κ} {s : List κ} (h : s.Nodup) : (addKey k s).Nodup := by
  rw [addKey]
  split
  · exact h
  · exact List.nodup_append.2 ⟨h, List.nodup_singleton k, by grind⟩

theorem mem_foldl_addKey {k : κ} {ks s : List κ} :
    k ∈ ks.foldl (fun s k ↦ addKey k s) s ↔ k ∈ s ∨ k ∈ ks := by
  induction ks generalizing s with
  | nil => simp
  | cons k' ks ih => rw [List.foldl_cons, ih, mem_addKey, List.mem_cons, or_assoc]

theorem foldl_addKey_nodup {ks s : List κ} (h : s.Nodup) :
    (ks.foldl (fun s k ↦ addKey k s) s).Nodup := by
  induction ks generalizing s with
  | nil => exact h
  | cons k ks ih => exact ih (addKey_nodup h)

/-- Looking up the entry of an element in a map listed with distinct keys. -/
theorem lookup_map_of_nodup (key : ι → κ) (val : ι → ν) {l : List ι} (hl : (l.map key).Nodup)
    {i : ι} (hi : i ∈ l) : (l.map fun j ↦ (key j, val j)).lookup (key i) = some (val i) := by
  induction l with
  | nil => simp at hi
  | cons j l ih =>
    obtain ⟨hj, hl'⟩ := List.nodup_cons.1 hl
    rw [List.map_cons, lookup_cons_ite]
    rcases List.mem_cons.1 hi with rfl | hil
    · rw [if_pos rfl]
    · rw [if_neg, ih hl' hil]
      rintro heq
      exact hj (heq ▸ List.mem_map_of_mem hil)

/-- In a map with distinct keys every entry is the one that `lookup` finds. -/
theorem mem_iff_lookup_of_nodup {m : List (κ × ν)} (hm : (m.map Prod.fst).Nodup) {e : κ × ν} :
    e ∈ m ↔ m.lookup e.1 = some e.2 := by
  constructor
  · intro he
    have hlookup := lookup_map_of_nodup Prod.fst Prod.snd hm he
    rwa [show (m.map fun e ↦ (e.1, e.2)) = m from List.map_id' m] at hlookup
  · exact mem_of_lookup_eq_some

omit [DecidableEq κ] in
/-- The keys of some of the elements of a list. -/
theorem keys_filterMap_sublist (key : ι → κ) (val : ι → Option ν) (l : List ι) :
    ((l.filterMap fun y ↦ (val y).map fun v ↦ (key y, v)).map Prod.fst).Sublist (l.map key) := by
  induction l with
  | nil => exact List.Sublist.refl _
  | cons y l ih =>
    rw [List.filterMap_cons, List.map_cons]
    cases val y with
    | some v => exact ih.cons_cons (key y)
    | none => exact ih.cons (key y)

/-- An association of some of the elements of a list. -/
theorem lookup_filterMap_of_nodup (key : ι → κ) (val : ι → Option ν) {l : List ι}
    (hl : (l.map key).Nodup) {x : ι} (hx : x ∈ l) :
    (l.filterMap fun y ↦ (val y).map fun v ↦ (key y, v)).lookup (key x) = val x := by
  induction l with
  | nil => exact absurd hx List.not_mem_nil
  | cons y l ih =>
    obtain ⟨hy, hl'⟩ := List.nodup_cons.1 hl
    rw [List.filterMap_cons]
    rcases List.mem_cons.1 hx with rfl | hx'
    · cases hval : val x with
      | some v => simp
      | none =>
        -- no other element has the key
        rw [Option.map_none, List.lookup_eq_none_iff]
        intro p hp
        obtain ⟨z, hz, hpz⟩ := List.mem_filterMap.1 hp
        obtain ⟨v, -, rfl⟩ := Option.map_eq_some_iff.1 hpz
        rw [bne_iff_ne]
        intro heq
        exact hy (heq ▸ List.mem_map_of_mem hz)
    · have hne : key x ≠ key y := by
        intro heq
        exact hy (heq ▸ List.mem_map_of_mem hx')
      cases val y with
      | some v =>
        rw [Option.map_some, List.lookup_cons, beq_false_of_ne hne]
        exact ih hl' hx'
      | none => exact ih hl' hx'

/-- A loop of `modifyOrDefault` keeps the keys distinct. -/
theorem nodup_keys_foldl_modifyOrDefault (key : ι → κ) (d : ν) (f : ι → ν → ν) (l : List ι)
    {m : List (κ × ν)} (hm : (m.map Prod.fst).Nodup) :
    ((l.foldl (fun m i ↦ modifyOrDefault (key i) d (f i) m) m).map Prod.fst).Nodup := by
  induction l generalizing m with
  | nil => exact hm
  | cons i l ih =>
    have hkeys : ((modifyOrDefault (key i) d (f i) m).map Prod.fst).Nodup := by
      rw [modifyOrDefault, map_fst_insert]
      exact addKey_nodup hm
    exact ih hkeys

/-- With distinct keys, the entries of a key are the one that `lookup` finds. -/
theorem filter_fst_of_nodup {m : List (κ × ν)} (hm : (m.map Prod.fst).Nodup) (k : κ) :
    m.filter (fun e ↦ e.1 = k) = ((m.lookup k).map fun v ↦ (k, v)).toList := by
  induction m with
  | nil => rfl
  | cons e m ih =>
    obtain ⟨k₀, v₀⟩ := e
    rw [List.map_cons, List.nodup_cons] at hm
    rw [lookup_cons_ite]
    by_cases h : k = k₀
    · subst h
      have hnil : m.filter (fun e ↦ e.1 = k) = [] := by
        rw [List.filter_eq_nil_iff]
        intro e he hk
        have hek : e.1 = k := of_decide_eq_true hk
        exact hm.1 (List.mem_map.2 ⟨e, he, hek⟩)
      simp [hnil]
    · simp [h, Ne.symm h, ih hm.2]

/-! ### Groups -/

/-- The values `val` of a list, collected by their `key`
(`map.entry(key).or_default().push(val)`). -/
def groups (key : ι → κ) (val : ι → ν) (l : List ι) : List (κ × List ν) :=
  l.foldl (fun m i ↦ modifyOrDefault (key i) [] (· ++ [val i]) m) []

theorem flatMap_modifyOrDefault_perm (k : κ) (v : ν) (m : List (κ × List ν)) :
    ((modifyOrDefault k [] (· ++ [v]) m).flatMap Prod.snd).Perm (m.flatMap Prod.snd ++ [v]) := by
  unfold modifyOrDefault
  induction m with
  | nil => simp [insert]
  | cons e m ih =>
    obtain ⟨k₀, vs⟩ := e
    by_cases h : k₀ = k
    · subst h
      simp only [insert, lookup_cons_ite, if_true, Option.getD_some, List.flatMap_cons]
      rw [List.append_assoc, List.append_assoc]
      exact List.perm_append_comm.append_left vs
    · simp only [insert, lookup_cons_ite, h, Ne.symm h, if_false, List.flatMap_cons]
      rw [List.append_assoc]
      exact ih.append_left vs

/-- The group of a key has the values of the elements with that key. -/
theorem lookup_groups (key : ι → κ) (val : ι → ν) (l : List ι) (k : κ) :
    ((groups key val l).lookup k).getD [] = (l.filter fun i ↦ key i = k).map val := by
  have hfold (l : List ι) (vs : List ν) :
      l.foldl (fun vs i ↦ vs ++ [val i]) vs = vs ++ l.map val := by
    induction l generalizing vs with
    | nil => simp
    | cons i l ih => simp [ih]
  rw [groups, lookup_foldl_modifyOrDefault key [] (fun i vs ↦ vs ++ [val i]) k l []]
  split
  · rename_i h
    rw [h]
    rfl
  · exact hfold _ []

/-- **The groups of a list hold every element of the list once.** -/
theorem flatMap_groups_perm (key : ι → κ) (val : ι → ν) (l : List ι) :
    ((groups key val l).flatMap Prod.snd).Perm (l.map val) := by
  induction l using List.reverseRecOn with
  | nil => exact List.Perm.refl _
  | append_singleton l i ih =>
    rw [groups, List.foldl_append, List.map_append]
    exact (flatMap_modifyOrDefault_perm _ _ _).trans (ih.append_right _)

/-! ### The last entry up to a key -/

section LastUpTo

variable {κ ν : Type*} [LinearOrder κ]

/-- The entry with the greatest key up to `k`. -/
def lastUpTo (k : κ) : List (κ × ν) → Option (κ × ν)
  | [] => none
  | e :: m =>
    match lastUpTo k m with
    | none => if e.1 ≤ k then some e else none
    | some e' => if e.1 ≤ k ∧ e'.1 < e.1 then some e else some e'

theorem lastUpTo_eq_none_iff {k : κ} {m : List (κ × ν)} :
    lastUpTo k m = none ↔ ∀ e ∈ m, ¬ e.1 ≤ k := by
  induction m with
  | nil => simp [lastUpTo]
  | cons e m ih =>
    rw [lastUpTo]
    rcases h : lastUpTo k m with - | e'
    · rw [h] at ih
      have hm : ∀ a ∈ m, ¬ a.1 ≤ k := ih.1 rfl
      rw [List.forall_mem_cons, and_iff_left hm]
      dsimp only
      split <;> simp_all
    · have hm : ¬ ∀ a ∈ m, ¬ a.1 ≤ k := fun hall ↦ by simp [h] at ih; grind
      refine iff_of_false ?_ fun hall ↦ hm fun a ha ↦ hall a (List.mem_cons_of_mem _ ha)
      dsimp only
      split <;> simp

/-- What `lastUpTo` finds is an entry up to `k` that no entry up to `k` exceeds. -/
theorem lastUpTo_spec {k : κ} {m : List (κ × ν)} {e : κ × ν} (h : lastUpTo k m = some e) :
    e ∈ m ∧ e.1 ≤ k ∧ ∀ a ∈ m, a.1 ≤ k → a.1 ≤ e.1 := by
  induction m generalizing e with
  | nil => simp [lastUpTo] at h
  | cons b m ih =>
    rw [lastUpTo] at h
    rcases hm : lastUpTo k m with - | e'
    · rw [hm] at h
      have hnone := lastUpTo_eq_none_iff.1 hm
      dsimp only at h
      split at h
      · rename_i hb
        obtain rfl : b = e := by simpa using h
        refine ⟨List.mem_cons_self, hb, fun a ha hak ↦ ?_⟩
        rcases List.mem_cons.1 ha with rfl | ha'
        · exact le_refl _
        · exact absurd hak (hnone a ha')
      · simp at h
    · rw [hm] at h
      obtain ⟨hmem, hle, hmax⟩ := ih hm
      dsimp only at h
      split at h
      · rename_i hb
        obtain rfl : b = e := by simpa using h
        refine ⟨List.mem_cons_self, hb.1, fun a ha hak ↦ ?_⟩
        rcases List.mem_cons.1 ha with rfl | ha'
        · exact le_refl _
        · exact (hmax a ha' hak).trans hb.2.le
      · rename_i hb
        obtain rfl : e' = e := by simpa using h
        refine ⟨List.mem_cons_of_mem _ hmem, hle, fun a ha hak ↦ ?_⟩
        rcases List.mem_cons.1 ha with rfl | ha'
        · exact not_lt.1 fun hlt ↦ hb ⟨hak, hlt⟩
        · exact hmax a ha' hak

/-- **With distinct keys, `lastUpTo` is determined by the entries up to `k`**, whatever their
order and whatever lies above `k`. -/
theorem lastUpTo_congr {k : κ} {m₁ m₂ : List (κ × ν)} (hm : (m₂.map Prod.fst).Nodup)
    (h : ∀ e : κ × ν, e.1 ≤ k → (e ∈ m₁ ↔ e ∈ m₂)) : lastUpTo k m₁ = lastUpTo k m₂ := by
  rcases h₁ : lastUpTo k m₁ with - | e₁
  · refine (lastUpTo_eq_none_iff.2 fun e he hek ↦ ?_).symm
    exact lastUpTo_eq_none_iff.1 h₁ e ((h e hek).2 he) hek
  · obtain ⟨hmem₁, hle₁, hmax₁⟩ := lastUpTo_spec h₁
    rcases h₂ : lastUpTo k m₂ with - | e₂
    · exact absurd hle₁ (lastUpTo_eq_none_iff.1 h₂ e₁ ((h e₁ hle₁).1 hmem₁))
    · obtain ⟨hmem₂, hle₂, hmax₂⟩ := lastUpTo_spec h₂
      have hkey : e₁.1 = e₂.1 :=
        le_antisymm (hmax₂ e₁ ((h e₁ hle₁).1 hmem₁) hle₁) (hmax₁ e₂ ((h e₂ hle₂).2 hmem₂) hle₂)
      exact congrArg some
        (List.inj_on_of_nodup_map hm ((h e₁ hle₁).1 hmem₁) hmem₂ hkey)

/-- A change of the values does not change which entry is found. -/
theorem lastUpTo_map {μ : Type*} (f : ν → μ) (k : κ) (m : List (κ × ν)) :
    lastUpTo k (m.map fun e ↦ (e.1, f e.2)) = (lastUpTo k m).map fun e ↦ (e.1, f e.2) := by
  induction m with
  | nil => rfl
  | cons e m ih =>
    rw [List.map_cons, lastUpTo, lastUpTo, ih]
    cases lastUpTo k m with
    | none =>
      dsimp only [Option.map_none]
      split <;> rfl
    | some e' =>
      dsimp only [Option.map_some]
      split <;> rfl

/-- The value of the last entry, where none lies above `k`. -/
theorem map_lastUpTo_eq {k last : κ} {v : ν} {m : List (κ × ν)} (hmem : (last, v) ∈ m)
    (hlast : ∀ e ∈ m, e.1 ≤ last ∧ (e.1 = last → e.2 = v)) (hk : ∀ e ∈ m, e.1 ≤ k) :
    (lastUpTo k m).map Prod.snd = some v := by
  rcases hfound : lastUpTo k m with - | e
  · exact absurd (hk _ hmem) (lastUpTo_eq_none_iff.1 hfound _ hmem)
  · obtain ⟨he, -, hmax⟩ := lastUpTo_spec hfound
    have hkey : e.1 = last := le_antisymm (hlast e he).1 (hmax _ hmem (hk _ hmem))
    exact congrArg some ((hlast e he).2 hkey)

end LastUpTo

/-! ### Tallies -/

/-- The sum of the values over the keys satisfying `p`. -/
def sumWhere [AddCommMonoid ν] (p : κ → Prop) [DecidablePred p] (m : List (κ × ν)) : ν :=
  ((m.filter fun e ↦ p e.1).map Prod.snd).sum

/-- The tally of a list: the values `val` of its elements, added up by their `key`. -/
def tally [AddCommMonoid ν] (key : ι → κ) (val : ι → ν) (l : List ι) : List (κ × ν) :=
  l.foldl (fun m i ↦ addTo (key i) (val i) m) []

section Tally

variable [AddCommMonoid ν] (p : κ → Prop) [DecidablePred p]

omit [DecidableEq κ] in
@[simp]
theorem sumWhere_nil : sumWhere (ν := ν) p [] = 0 :=
  rfl

omit [DecidableEq κ] in
theorem sumWhere_cons (k : κ) (v : ν) (m : List (κ × ν)) :
    sumWhere p ((k, v) :: m) = (if p k then v else 0) + sumWhere p m := by
  by_cases h : p k <;> simp [sumWhere, h]

/-- **One write changes a tally's sum by the added value, if the key is counted.** -/
theorem sumWhere_addTo (k : κ) (v : ν) (m : List (κ × ν)) :
    sumWhere p (addTo k v m) = sumWhere p m + if p k then v else 0 := by
  induction m with
  | nil => rw [addTo, sumWhere_cons, sumWhere_nil, add_zero, zero_add]
  | cons e m ih =>
    obtain ⟨k₀, v₀⟩ := e
    by_cases h₀ : k₀ = k
    · subst h₀
      by_cases hp : p k₀
      · simp only [addTo, if_true, sumWhere_cons, hp]
        exact add_right_comm _ _ _
      · simp [addTo, sumWhere_cons, hp]
    · simp only [addTo, h₀, if_false, sumWhere_cons, ih]
      rw [add_assoc]

/-- Writing a list into a map adds the list's counted values to the map's sum. -/
theorem sumWhere_foldl_addTo (key : ι → κ) (val : ι → ν) (l : List ι) (m : List (κ × ν)) :
    sumWhere p (l.foldl (fun m i ↦ addTo (key i) (val i) m) m) =
      sumWhere p m + ((l.filter fun i ↦ p (key i)).map val).sum := by
  induction l generalizing m with
  | nil => simp
  | cons i l ih =>
    rw [List.foldl_cons, ih, sumWhere_addTo, add_assoc]
    by_cases hp : p (key i) <;> simp [hp]

omit [DecidablePred p] in
/-- What is added to a key is added to the sum. -/
theorem sum_addTo (k : κ) (v : ν) (m : List (κ × ν)) :
    ((addTo k v m).map Prod.snd).sum = (m.map Prod.snd).sum + v := by
  simpa [sumWhere] using sumWhere_addTo (fun _ ↦ True) k v m

omit [DecidablePred p] in
/-- A change of one value by `x`, by a weight that is zero on the default. -/
theorem sum_modifyOrDefault {ω : Type*} {k : κ} {d : ω} {f : ω → ω} {m : List (κ × ω)}
    (weight : ω → ν) {x : ν} (hd : weight d = 0) (hf : ∀ w, weight (f w) = weight w + x) :
    ((modifyOrDefault k d f m).map fun e ↦ weight e.2).sum =
      (m.map fun e ↦ weight e.2).sum + x := by
  unfold modifyOrDefault
  induction m with
  | nil => simp [insert, hd, hf]
  | cons e m ih =>
    obtain ⟨k', v'⟩ := e
    by_cases h : k' = k
    · subst h
      simp [insert, hf, add_right_comm]
    · rw [insert, if_neg h, lookup_cons_ite, if_neg (Ne.symm h), List.map_cons, List.sum_cons, ih,
        List.map_cons, List.sum_cons, add_assoc]

/-- **A tally sums the list it was built from.** -/
theorem sumWhere_tally (key : ι → κ) (val : ι → ν) (l : List ι) :
    sumWhere p (tally key val l) = ((l.filter fun i ↦ p (key i)).map val).sum := by
  rw [tally, sumWhere_foldl_addTo, sumWhere_nil, zero_add]

omit [DecidablePred p] in
theorem sum_tally (key : ι → κ) (val : ι → ν) (l : List ι) :
    ((tally key val l).map Prod.snd).sum = (l.map val).sum := by
  simpa [sumWhere] using sumWhere_tally (fun _ ↦ True) key val l

omit [DecidablePred p] in
/-- A loop that passes over a part of its list tallies the rest. -/
theorem foldl_addTo_if (keep : ι → Bool) (key : ι → κ) (val : ι → ν) (l : List ι) :
    l.foldl (fun m i ↦ if keep i then addTo (key i) (val i) m else m) [] =
      tally key val (l.filter keep) := by
  rw [tally, List.foldl_filter]

end Tally

/-- Looking a key up in a map after writing a list adds the values filed under that key. -/
theorem getD_lookup_foldl_addTo [AddCommMonoid ν] (key : ι → κ) (val : ι → ν) (k : κ)
    (l : List ι) (m : List (κ × ν)) :
    ((l.foldl (fun m i ↦ addTo (key i) (val i) m) m).lookup k).getD 0 =
      (m.lookup k).getD 0 + ((l.filter fun i ↦ key i = k).map val).sum := by
  induction l generalizing m with
  | nil => simp
  | cons i l ih =>
    rw [List.foldl_cons, ih, lookup_addTo]
    by_cases h : key i = k
    · subst h
      simp [add_assoc]
    · simp [h, Ne.symm h]

/-- Looking a key up in a tally gives the sum of the values filed under it. -/
theorem getD_lookup_tally [AddCommMonoid ν] (key : ι → κ) (val : ι → ν) (k : κ) (l : List ι) :
    ((tally key val l).lookup k).getD 0 = ((l.filter fun i ↦ key i = k).map val).sum := by
  rw [tally, getD_lookup_foldl_addTo, List.lookup_nil, Option.getD_none, zero_add]

/-! ### The entries of a tally -/

section Entries

variable [AddCommMonoid ν] (key : ι → κ) (val : ι → ν)

/-- The keys after a loop of `addTo`: each once, and besides the old ones those of the list. -/
theorem keys_foldl_addTo (l : List ι) {m : List (κ × ν)} (hm : (m.map Prod.fst).Nodup) :
    ((l.foldl (fun m i ↦ addTo (key i) (val i) m) m).map Prod.fst).Nodup ∧
      ∀ k, k ∈ (l.foldl (fun m i ↦ addTo (key i) (val i) m) m).map Prod.fst ↔
        k ∈ m.map Prod.fst ∨ k ∈ l.map key := by
  induction l generalizing m with
  | nil => exact ⟨hm, fun k ↦ by simp⟩
  | cons i l ih =>
    have hkeys : (addTo (key i) (val i) m).map Prod.fst = addKey (key i) (m.map Prod.fst) :=
      map_fst_addTo (key i) (val i) m
    have hnodup : ((addTo (key i) (val i) m).map Prod.fst).Nodup := hkeys ▸ addKey_nodup hm
    refine ⟨(ih hnodup).1, fun k ↦ ?_⟩
    rw [List.foldl_cons, (ih hnodup).2 k, hkeys, mem_addKey, List.map_cons, List.mem_cons, or_assoc]

theorem keys_tally (l : List ι) :
    ((tally key val l).map Prod.fst).Nodup ∧
      ∀ k, k ∈ (tally key val l).map Prod.fst ↔ k ∈ l.map key := by
  have hnil : (([] : List (κ × ν)).map Prod.fst).Nodup := List.nodup_nil
  obtain ⟨hnodup, hmem⟩ := keys_foldl_addTo key val l hnil
  refine ⟨hnodup, fun k ↦ ?_⟩
  rw [tally, hmem, List.map_nil, List.mem_nil_iff, false_or]

theorem nodup_keys_tally (l : List ι) : ((tally key val l).map Prod.fst).Nodup :=
  (keys_tally key val l).1

theorem mem_keys_tally {l : List ι} {k : κ} :
    k ∈ (tally key val l).map Prod.fst ↔ k ∈ l.map key :=
  (keys_tally key val l).2 k

/-- **The entries of a tally**: every key of the list, with the sum of the values filed under it. -/
theorem mem_tally_iff {l : List ι} {e : κ × ν} :
    e ∈ tally key val l ↔
      e.1 ∈ l.map key ∧ e.2 = ((l.filter fun i ↦ key i = e.1).map val).sum := by
  rw [mem_iff_lookup_of_nodup (nodup_keys_tally key val l), ← mem_keys_tally key val,
    ← getD_lookup_tally]
  constructor
  · intro h
    exact ⟨List.mem_map.2 ⟨e, mem_of_lookup_eq_some h, rfl⟩, by rw [h, Option.getD_some]⟩
  · rintro ⟨hkey, hval⟩
    obtain ⟨⟨k, v⟩, hmem, hk⟩ := List.mem_map.1 hkey
    obtain ⟨v', hlookup⟩ := Option.ne_none_iff_exists'.1 (lookup_ne_none_iff.2 ⟨v, hmem⟩)
    rw [← hk, hlookup] at hval ⊢
    rw [hval, Option.getD_some]

/-- A tally has an entry for each key of the list. -/
theorem tally_perm_map (l : List ι) :
    (tally key val l).Perm
      ((l.map key).dedup.map fun k ↦ (k, ((l.filter fun i ↦ key i = k).map val).sum)) := by
  have hnodup : ((l.map key).dedup.map fun k ↦
      (k, ((l.filter fun i ↦ key i = k).map val).sum)).Nodup :=
    (List.nodup_dedup _).map fun k k' h ↦ (Prod.mk.inj h).1
  refine (List.perm_ext_iff_of_nodup (nodup_keys_tally key val l).of_map hnodup).2 fun e ↦ ?_
  rw [mem_tally_iff]
  constructor
  · intro ⟨hkey, hsum⟩
    exact List.mem_map.2 ⟨e.1, List.mem_dedup.2 hkey, by rw [← hsum]⟩
  · intro he
    obtain ⟨k, hk, rfl⟩ := List.mem_map.1 he
    exact ⟨List.mem_dedup.1 hk, rfl⟩

/-- The order of the list does not matter to a tally, but for the order of its entries. -/
theorem tally_perm {l l' : List ι} (h : l.Perm l') :
    (tally key val l).Perm (tally key val l') := by
  refine (List.perm_ext_iff_of_nodup (nodup_keys_tally key val l).of_map
    (nodup_keys_tally key val l').of_map).2 fun e ↦ ?_
  rw [mem_tally_iff, mem_tally_iff, (h.map key).mem_iff, ((h.filter _).map val).sum_eq]

end Entries

end AssocMap
