import Mathlib.Data.List.Sort
import Mathlib.Order.WithBot

/-!
# Ordered and limited queries

`ORDER BY` followed by `LIMIT`, over lists. The sort is `List.insertionSort`, which is stable:
rows that the keys do not distinguish keep their physical order.

An ordering is a total and transitive relation built from keys: `asc f`, `desc f`, and `thenBy`
for the keys after the first. A nullable key goes through `nullable`, because SQL sorts `NULL` as
larger than every value: `asc` of it is `NULLS LAST` and `desc` of it `NULLS FIRST`.

The two results a limited query needs are that sorting commutes with filtering (`filter_orderBy`)
and that a *final segment of the order* commutes with the limit
(`filter_take_of_pairwise`). Together (`filter_take_orderBy`): of the first `n` rows, the ones
in an initial segment of the order are the first `n` rows of that segment, so that they do not
depend on which other rows the query read.
-/

namespace OrderBy

variable {α β : Type*}

/-! ### Orderings -/

/-- The sort key of a nullable column: `NULL` is larger than every value. -/
def nullable : Option β → WithTop β
  | none => ⊤
  | some b => b

section Keys

variable [LinearOrder β]

/-- `f ASC`. -/
def asc (f : α → β) (a b : α) : Prop :=
  f a ≤ f b

/-- `f DESC`. -/
def desc (f : α → β) (a b : α) : Prop :=
  f b ≤ f a

variable (f : α → β)

instance : DecidableRel (asc f) := fun a b ↦ inferInstanceAs (Decidable (f a ≤ f b))

instance : DecidableRel (desc f) := fun a b ↦ inferInstanceAs (Decidable (f b ≤ f a))

instance : Std.Total (asc f) := ⟨fun a b ↦ le_total (f a) (f b)⟩

instance : Std.Total (desc f) := ⟨fun a b ↦ le_total (f b) (f a)⟩

instance : IsTrans α (asc f) := ⟨fun _ _ _ hab hbc ↦ le_trans hab hbc⟩

instance : IsTrans α (desc f) := ⟨fun _ _ _ hab hbc ↦ le_trans hbc hab⟩

end Keys

/-- `r, s`: the rows that `r` does not distinguish are ordered by `s`. -/
def thenBy (r s : α → α → Prop) (a b : α) : Prop :=
  r a b ∧ (r b a → s a b)

section ThenBy

variable (r s : α → α → Prop)

instance [DecidableRel r] [DecidableRel s] : DecidableRel (thenBy r s) := fun a b ↦
  inferInstanceAs (Decidable (r a b ∧ (r b a → s a b)))

instance [Std.Total r] [Std.Total s] : Std.Total (thenBy r s) where
  total a b := by
    have hs := total_of s a b
    have hr := total_of r a b
    unfold thenBy
    grind

instance [IsTrans α r] [IsTrans α s] : IsTrans α (thenBy r s) where
  trans a b c hab hbc := by
    refine ⟨trans_of r hab.1 hbc.1, fun hca ↦ ?_⟩
    exact trans_of s (hab.2 (trans_of r hbc.1 hca)) (hbc.2 (trans_of r hca hab.1))

end ThenBy

/-! ### Sorting and filtering -/

section Filter

variable (r : α → α → Prop) [DecidableRel r]

theorem filter_orderedInsert [IsTrans α r] (p : α → Bool) (a : α) {l : List α}
    (hl : l.Pairwise r) :
    (l.orderedInsert r a).filter p =
      if p a then (l.filter p).orderedInsert r a else l.filter p := by
  induction l with
  | nil => by_cases ha : p a <;> simp [ha]
  | cons b l ih =>
    obtain ⟨hb, hl'⟩ := List.pairwise_cons.1 hl
    rw [List.orderedInsert_cons]
    by_cases hab : r a b
    · rw [if_pos hab]
      by_cases ha : p a
      · rw [List.filter_cons_of_pos ha, if_pos ha]
        -- `a` precedes every row of `b :: l`, so also the first one that the filter keeps
        have hfirst : ∀ c ∈ (b :: l).filter p, r a c := by
          intro c hc
          rcases List.mem_cons.1 (List.mem_filter.1 hc).1 with rfl | hcl
          · exact hab
          · exact trans_of r hab (hb c hcl)
        rcases h : (b :: l).filter p with - | ⟨c, cs⟩
        · rfl
        · rw [List.orderedInsert_cons, if_pos (hfirst c (h ▸ List.mem_cons_self))]
      · rw [List.filter_cons_of_neg ha, if_neg ha]
    · rw [if_neg hab]
      by_cases hpb : p b
      · rw [List.filter_cons_of_pos hpb, List.filter_cons_of_pos hpb, ih hl']
        by_cases ha : p a
        · rw [if_pos ha, if_pos ha, List.orderedInsert_cons, if_neg hab]
        · rw [if_neg ha, if_neg ha]
      · rw [List.filter_cons_of_neg hpb, List.filter_cons_of_neg hpb, ih hl']

/-- **A filter commutes with a stable sort.** -/
theorem filter_orderBy [Std.Total r] [IsTrans α r] (p : α → Bool) (l : List α) :
    (l.insertionSort r).filter p = (l.filter p).insertionSort r := by
  induction l with
  | nil => rfl
  | cons a l ih =>
    rw [List.insertionSort_cons, filter_orderedInsert r p a (List.pairwise_insertionSort r l), ih]
    by_cases ha : p a
    · rw [if_pos ha, List.filter_cons_of_pos ha, List.insertionSort_cons]
    · rw [if_neg ha, List.filter_cons_of_neg ha]

end Filter

/-- When the rows satisfying `p` come first, the ones among the first `n` rows are the first `n`
of them. -/
theorem filter_take_of_pairwise (p : α → Bool) (n : ℕ) {l : List α}
    (hl : l.Pairwise fun a b ↦ p b = true → p a = true) :
    (l.take n).filter p = (l.filter p).take n := by
  induction l generalizing n with
  | nil => simp
  | cons a l ih =>
    obtain ⟨ha, hl'⟩ := List.pairwise_cons.1 hl
    cases n with
    | zero => simp
    | succ n =>
      by_cases hp : p a
      · rw [List.take_succ_cons, List.filter_cons_of_pos hp, List.filter_cons_of_pos hp,
          List.take_succ_cons, ih n hl']
      · -- nothing after `a` satisfies `p` either
        have hnil : l.filter p = [] := by
          rw [List.filter_eq_nil_iff]
          exact fun b hb hpb ↦ hp (ha b hb hpb)
        rw [List.take_succ_cons, List.filter_cons_of_neg hp, List.filter_cons_of_neg hp,
          ih n hl', hnil]
        simp

/-- **An initial segment of the order sees only itself through a limited query**: the first `n`
rows of `l`, cut down to the segment `p`, are the first `n` rows of the segment. -/
theorem filter_take_orderBy (r : α → α → Prop) [DecidableRel r] [Std.Total r] [IsTrans α r]
    (p : α → Bool) (hp : ∀ a b, r a b → p b = true → p a = true) (n : ℕ) (l : List α) :
    ((l.insertionSort r).take n).filter p = ((l.filter p).insertionSort r).take n := by
  rw [filter_take_of_pairwise p n, filter_orderBy]
  exact (List.pairwise_insertionSort r l).imp fun {a b} hab ↦ hp a b hab

/-- **What a limit before a filter cuts off.** Filtering the first rows of a query gives all that
the filter would give, up to order, exactly if none of the rows that are cut off satisfies it. -/
theorem perm_filter_take_iff {β : Type*} (p : α → Bool) (f : α → β) (n : ℕ) {l l' : List α}
    (h : l.Perm l') : (((l.take n).filter p).map f).Perm ((l'.filter p).map f) ↔
      ∀ a ∈ l.drop n, p a = false := by
  have hsplit : (l.take n).filter p ++ (l.drop n).filter p = l.filter p := by
    rw [← List.filter_append, List.take_append_drop]
  have hall : ((l.filter p).map f).Perm ((l'.filter p).map f) := (h.filter p).map f
  have hnone : (∀ a ∈ l.drop n, p a = false) ↔ (l.drop n).filter p = [] := by
    rw [List.filter_eq_nil_iff]
    simp only [Bool.not_eq_true]
  rw [hnone]
  constructor
  · intro hperm
    have hlength := (hperm.trans hall.symm).length_eq
    rw [List.length_map, List.length_map, ← hsplit, List.length_append] at hlength
    exact List.length_eq_zero_iff.1 (by omega)
  · intro hnil
    rw [hnil, List.append_nil] at hsplit
    rwa [hsplit]

/-- A limit on joined rows is a limit on the rows before the join, when every row has a partner. -/
theorem filter_take_filterMap {β γ : Type*} {l : List α} {join : α → Option β} {q : β → Bool}
    {p : α → Bool} {g : β → γ} {f : α → γ}
    (h : ∀ a ∈ l, ∃ b, join a = some b ∧ q b = p a ∧ g b = f a) (n : ℕ) :
    (((l.filterMap join).take n).filter q).map g = ((l.take n).filter p).map f := by
  induction l generalizing n with
  | nil => simp
  | cons a l ih =>
    obtain ⟨b, hjoin, hq, hg⟩ := h a List.mem_cons_self
    have hrest := ih fun a' ha' ↦ h a' (List.mem_cons_of_mem _ ha')
    rw [List.filterMap_cons_some hjoin]
    cases n with
    | zero => rfl
    | succ n =>
      rw [List.take_succ_cons, List.take_succ_cons, List.filter_cons, List.filter_cons, hq]
      split
      · rw [List.map_cons, List.map_cons, hg, hrest]
      · exact hrest n

/-! ### The first row -/

section First

variable (r : α → α → Prop) [DecidableRel r]

/-- What `ORDER BY .. LIMIT 1` returns is a row of the query. -/
theorem mem_of_head?_orderBy {l : List α} {a : α} (h : (l.insertionSort r).head? = some a) :
    a ∈ l :=
  (List.mem_insertionSort r).1 (List.mem_of_head? h)

/-- `ORDER BY .. LIMIT 1` returns a row when there is one. -/
theorem head?_orderBy_ne_none {l : List α} {a : α} (h : a ∈ l) :
    (l.insertionSort r).head? ≠ none := by
  rw [Ne, List.head?_eq_none_iff]
  intro hnil
  have hmem : a ∈ l.insertionSort r := (List.mem_insertionSort r).2 h
  rw [hnil] at hmem
  exact List.not_mem_nil hmem

/-- No row of the query comes before the one that `ORDER BY .. LIMIT 1` returns. -/
theorem rel_of_head?_orderBy [Std.Total r] [IsTrans α r] {l : List α} {a b : α}
    (h : (l.insertionSort r).head? = some a) (hb : b ∈ l) : r a b := by
  have hsorted := List.pairwise_insertionSort r l
  have hmem : b ∈ l.insertionSort r := (List.mem_insertionSort r).2 hb
  rcases hl : l.insertionSort r with - | ⟨c, cs⟩
  · rw [hl] at hmem
    exact absurd hmem List.not_mem_nil
  · rw [hl] at h hmem hsorted
    obtain rfl : c = a := by simpa using h
    rcases List.mem_cons.1 hmem with rfl | hcs
    · exact (total_of r b b).elim id id
    · exact (List.pairwise_cons.1 hsorted).1 b hcs

/-- No row of the query comes after the last one. -/
theorem rel_of_getLast?_orderBy [Std.Total r] [IsTrans α r] {l : List α} {a b : α}
    (h : (l.insertionSort r).getLast? = some a) (hb : b ∈ l) : r b a := by
  have hsorted := List.pairwise_insertionSort r l
  have hmem : b ∈ l.insertionSort r := (List.mem_insertionSort r).2 hb
  obtain ⟨rows, hrows⟩ := List.getLast?_eq_some_iff.1 h
  rw [hrows] at hsorted hmem
  obtain hfirst | hlast := List.mem_append.1 hmem
  · exact (List.pairwise_append.1 hsorted).2.2 b hfirst a (List.mem_singleton_self a)
  · obtain rfl := List.mem_singleton.1 hlast
    exact (total_of r b b).elim id id

/-- What the first row satisfies: every row that does not satisfy it comes after one that does. -/
theorem forall_head?_iff {l : List α} {p : α → Prop} :
    (∀ a, l.head? = some a → p a) ↔
      ∀ (j : ℕ) (a : α), l[j]? = some a → ¬ p a → ∃ i < j, ∃ b, l[i]? = some b ∧ p b := by
  cases l with
  | nil => simp
  | cons c l =>
    constructor
    · intro h j a hj ha
      have hc : p c := h c rfl
      cases j with
      | zero =>
        obtain rfl : c = a := Option.some.inj hj
        exact absurd hc ha
      | succ j => exact ⟨0, Nat.succ_pos j, c, rfl, hc⟩
    · intro h a ha
      by_contra hnot
      -- the first row comes after no other
      obtain ⟨i, hi, -⟩ := h 0 a ha hnot
      exact absurd hi (Nat.not_lt_zero i)

/-- A row comes before another in a query: by the order or, where that does not distinguish the two,
in the table. -/
def Precedes (l : List α) (a b : α) : Prop :=
  r a b ∧ (r b a → [a, b].Sublist l)

instance [DecidableEq α] (l : List α) : DecidableRel (Precedes r l) := fun a b ↦
  inferInstanceAs (Decidable (r a b ∧ (r b a → [a, b].Sublist l)))

/-- Of two rows of a table, one comes first. -/
theorem pair_sublist_or {l : List α} {a b : α} (ha : a ∈ l) (hb : b ∈ l) (hne : a ≠ b) :
    [a, b].Sublist l ∨ [b, a].Sublist l := by
  induction l with
  | nil => exact absurd ha List.not_mem_nil
  | cons c l ih =>
    rcases List.mem_cons.1 ha with rfl | hal
    · have hbl : b ∈ l := (List.mem_cons.1 hb).resolve_left hne.symm
      exact Or.inl ((List.singleton_sublist.2 hbl).cons_cons a)
    · rcases List.mem_cons.1 hb with rfl | hbl
      · exact Or.inr ((List.singleton_sublist.2 hal).cons_cons b)
      · exact (ih hal hbl).imp (fun h ↦ h.cons c) fun h ↦ h.cons c

/-- Nothing comes before the first row. -/
theorem not_precedes_head? {l : List α} (hl : l.Nodup) {a b : α}
    (h : (l.insertionSort r).head? = some b) (hab : r a b) : ¬[a, b].Sublist l := by
  intro hpair
  have hsorted := List.pair_sublist_insertionSort hab hpair
  have hnodup := (List.perm_insertionSort r l).nodup_iff.2 hl
  rcases hs : l.insertionSort r with - | ⟨c, cs⟩
  · rw [hs] at h
    exact absurd h nofun
  · rw [hs] at h hsorted hnodup
    obtain rfl : c = b := by simpa using h
    -- the pair ends with the first row, which does not occur again
    have hmem : c ∈ cs := by
      rcases List.sublist_cons_iff.1 hsorted with htail | ⟨tail, htail, hsub⟩
      · exact htail.subset (by simp)
      · obtain ⟨-, rfl⟩ := List.cons.inj htail
        exact hsub.subset (List.mem_singleton_self c)
    exact (List.nodup_cons.1 hnodup).1 hmem

/-- **What the first row of a query satisfies**: every row of the query that does not satisfy it is
preceded by one that does. -/
theorem forall_head?_orderBy_iff [Std.Total r] [IsTrans α r] {l : List α} (hl : l.Nodup)
    {p : α → Prop} :
    (∀ a, (l.insertionSort r).head? = some a → p a) ↔
      ∀ b ∈ l, ¬ p b → ∃ a ∈ l, p a ∧ Precedes r l a b := by
  constructor
  · intro h b hb hnot
    rcases hhead : (l.insertionSort r).head? with - | a
    · exact absurd hhead (head?_orderBy_ne_none r hb)
    · have ha := mem_of_head?_orderBy r hhead
      refine ⟨a, ha, h a hhead, rel_of_head?_orderBy r hhead hb, fun hba ↦ ?_⟩
      have hne : a ≠ b := fun heq ↦ hnot (heq ▸ h a hhead)
      exact (pair_sublist_or ha hb hne).resolve_right (not_precedes_head? r hl hhead hba)
  · intro h b hhead
    by_contra hnot
    obtain ⟨a, ha, -, hab, htie⟩ := h b (mem_of_head?_orderBy r hhead) hnot
    exact not_precedes_head? r hl hhead hab (htie (rel_of_head?_orderBy r hhead ha))

end First

end OrderBy
