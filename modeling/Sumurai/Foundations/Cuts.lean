import Mathlib.Data.List.Pairwise
import Sumurai.Foundations.OrderBy

/-!
# What a limit leaves

The first rows of an ordered list, characterised without the order of the list.

Two questions have the same answer in terms of how many elements lie above one. Sorted by one key
and cut off at the front, or sorted by another and cut off at the back, a list keeps the same
elements if and only if the second key puts the last ones by the first key in front
(`take_eq_drop_iff`). And the first rows by a key do not depend on the order of the rows before the
sort if and only if there is no tie within the limit (`take_perm_iff`).
-/

namespace Cuts

open OrderBy

variable {α β : Type*} [LinearOrder β] {f : α → β} {l l' : List α} {n : ℕ}

/-- There are fewer than `n` elements with a larger key. -/
def IsTop (f : α → β) (n : ℕ) (l : List α) (a : α) : Prop :=
  (l.filter fun b ↦ f a < f b).length < n

instance (f : α → β) (n : ℕ) (l : List α) : DecidablePred (IsTop f n l) :=
  fun _ ↦ inferInstanceAs (Decidable (_ < _))

theorem isTop_perm (h : l.Perm l') (a : α) : IsTop f n l a ↔ IsTop f n l' a := by
  unfold IsTop
  rw [(h.filter _).length_eq]

/-- A larger key is at the top if a smaller one is. -/
theorem IsTop.mono {a b : α} (h : IsTop f n l a) (hle : f a ≤ f b) : IsTop f n l b := by
  refine Nat.lt_of_le_of_lt (List.Sublist.length_le ?_) h
  refine List.monotone_filter_right l fun c hc ↦ ?_
  exact decide_eq_true (hle.trans_lt (of_decide_eq_true hc))

/-! ### Descending order -/

/-- What is before a limit in descending order is at the top. -/
theorem isTop_of_mem_take (hl : l.Pairwise (desc f)) {a : α} (ha : a ∈ l.take n) :
    IsTop f n l a := by
  obtain ⟨before, after, hsplit⟩ := List.append_of_mem ha
  have hlength : before.length < n := by
    have htake := congrArg List.length hsplit
    rw [List.length_append, List.length_cons] at htake
    have hle := List.length_take_le n l
    omega
  -- whatever has a larger key comes before
  have hl' : l = before ++ a :: (after ++ l.drop n) := by
    rw [← List.cons_append, ← List.append_assoc, ← hsplit, List.take_append_drop]
  rw [hl', List.pairwise_append, List.pairwise_cons] at hl
  have hnone : (a :: (after ++ l.drop n)).filter (fun b ↦ f a < f b) = [] := by
    refine List.filter_eq_nil_iff.2 fun b hb hlt ↦ ?_
    obtain rfl | hb := List.mem_cons.1 hb
    · exact lt_irrefl _ (of_decide_eq_true hlt)
    · exact absurd (of_decide_eq_true hlt) (not_lt.2 (hl.2.1.1 b hb))
  rw [IsTop, hl', List.filter_append, hnone, List.append_nil]
  exact Nat.lt_of_le_of_lt (List.length_filter_le _ before) hlength

/-- The first rows in descending order are the first of the ones at the top. -/
theorem take_eq_take_filter (l : List α) :
    (l.insertionSort (desc f)).take n =
      ((l.filter (IsTop f n l)).insertionSort (desc f)).take n := by
  rw [← filter_take_orderBy (desc f) (fun a ↦ IsTop f n l a)
    (fun a b hab hb ↦ decide_eq_true ((of_decide_eq_true hb).mono hab)) n l]
  refine (List.filter_eq_self.2 fun a ha ↦ ?_).symm
  have htop := isTop_of_mem_take (List.pairwise_insertionSort (desc f) l) ha
  exact decide_eq_true ((isTop_perm (List.perm_insertionSort _ l) a).1 htop)

/-- Without ties at the top the first rows are the same for every order of the list. -/
theorem take_perm (hl : ∀ a ∈ l, ∀ b ∈ l, f a = f b → IsTop f n l a → a = b) (h : l'.Perm l) :
    (l'.insertionSort (desc f)).take n = (l.insertionSort (desc f)).take n := by
  rw [take_eq_take_filter l', take_eq_take_filter l]
  congr 1
  have htop : l'.filter (IsTop f n l') = l'.filter (IsTop f n l) :=
    List.filter_congr fun a _ ↦ decide_eq_decide.2 (isTop_perm h a)
  have hperm : (l'.filter (IsTop f n l')).Perm (l.filter (IsTop f n l)) :=
    htop ▸ h.filter _
  refine List.Perm.eq_of_pairwise ?_ (List.pairwise_insertionSort (desc f) _)
    (List.pairwise_insertionSort (desc f) _)
    ((List.perm_insertionSort _ _).trans (hperm.trans (List.perm_insertionSort _ _).symm))
  intro a b ha hb hab hba
  rw [List.mem_insertionSort] at ha hb
  obtain ⟨ha, hatop⟩ := List.mem_filter.1 (hperm.mem_iff.1 ha)
  exact hl a ha b (List.mem_filter.1 hb).1 (le_antisymm hba hab) (of_decide_eq_true hatop)

/-- Of the elements that share a key, the first row is the one that comes first before the sort. -/
theorem find?_tied (f : α → β) (a : α) (rest : List α) :
    ((a :: rest).insertionSort (desc f)).find? (fun b ↦ f b = f a) = some a := by
  have htied : ((a :: rest).filter fun b ↦ f b = f a).Pairwise (desc f) := by
    refine List.pairwise_of_forall_mem_list fun b hb c hc ↦ ?_
    have hba := of_decide_eq_true (List.mem_filter.1 hb).2
    have hca := of_decide_eq_true (List.mem_filter.1 hc).2
    exact (hca.trans hba.symm).le
  rw [← List.head?_filter, filter_orderBy, htied.insertionSort_eq, List.head?_filter]
  exact List.find?_cons_of_pos (decide_eq_true rfl)

/-- If there is room for an element, the first row with its key is before the limit. -/
theorem find?_take {a : α} {rest : List α} (h : IsTop f n (a :: rest) a) :
    (((a :: rest).insertionSort (desc f)).take n).find? (fun b ↦ f b = f a) = some a := by
  have hsorted := List.pairwise_insertionSort (desc f) (a :: rest)
  obtain ⟨-, before, after, hsplit, hbefore⟩ :=
    List.find?_eq_some_iff_append.1 (find?_tied f a rest)
  rw [← isTop_perm (List.perm_insertionSort (desc f) (a :: rest))] at h
  rw [hsplit] at h hsorted ⊢
  -- whatever comes before the first row with the key has a larger one
  have hlarger : before.filter (fun b ↦ f a < f b) = before := by
    refine List.filter_eq_self.2 fun b hb ↦ decide_eq_true ?_
    have hle : f a ≤ f b := (List.pairwise_append.1 hsorted).2.2 b hb a List.mem_cons_self
    have hne : f b ≠ f a := by simpa using hbefore b hb
    exact lt_of_le_of_ne hle hne.symm
  have hlength : before.length < n := by
    rw [IsTop, List.filter_append, hlarger, List.length_append] at h
    omega
  obtain ⟨k, rfl⟩ := Nat.exists_eq_add_of_lt hlength
  rw [Nat.add_assoc, List.take_length_add_append, List.take_succ_cons,
    List.find?_append, List.find?_eq_none.2 fun b hb ↦ by simpa using hbefore b hb, Option.none_or]
  exact List.find?_cons_of_pos (decide_eq_true rfl)

/-- **When a limit does not depend on the order of the rows.** The first rows in descending order
are the same for every order of the list before the sort if and only if no two elements share a key
at the top. -/
theorem take_perm_iff (n : ℕ) (f : α → β) (l : List α) :
    (∀ l' : List α, l'.Perm l →
      (l'.insertionSort (desc f)).take n = (l.insertionSort (desc f)).take n) ↔
      ∀ a ∈ l, ∀ b ∈ l, f a = f b → IsTop f n l a → a = b := by
  constructor
  · intro h a ha b hb hab htop
    have hfront : ∀ c ∈ l, f c = f a → ∃ rest, (c :: rest).Perm l ∧
        ((l.insertionSort (desc f)).take n).find? (fun b ↦ f b = f a) = some c := by
      intro c hc hca
      obtain ⟨before, after, rfl⟩ := List.append_of_mem hc
      have hperm : (c :: (before ++ after)).Perm (before ++ c :: after) := List.perm_middle.symm
      refine ⟨before ++ after, hperm, ?_⟩
      rw [← h _ hperm, ← hca]
      refine find?_take ?_
      rw [isTop_perm hperm]
      exact htop.mono hca.ge
    obtain ⟨-, -, hfirst⟩ := hfront a ha rfl
    obtain ⟨-, -, hsecond⟩ := hfront b hb hab.symm
    exact Option.some_inj.1 (hfirst.symm.trans hsecond)
  · exact fun h l' hperm ↦ take_perm h hperm

/-! ### Ascending order, cut off at the back and at the front -/

section Ends

variable [LinearOrder α]

theorem pairwise_lt_insertionSort (hl : l.Nodup) :
    (l.insertionSort (· ≤ ·)).Pairwise (· < ·) := by
  have hnodup : (l.insertionSort (· ≤ ·)).Nodup := (List.perm_insertionSort _ l).nodup_iff.2 hl
  exact ((List.pairwise_insertionSort (· ≤ ·) l).and hnodup).imp fun h ↦ lt_of_le_of_ne h.1 h.2

/-- The last rows in ascending order are the ones at the top. -/
theorem drop_eq_filter (hl : l.Nodup) (n : ℕ) :
    (l.insertionSort (· ≤ ·)).drop (l.length - n) =
      (l.insertionSort (· ≤ ·)).filter (IsTop id n l) := by
  have hsorted := pairwise_lt_insertionSort hl
  have hperm := List.perm_insertionSort (· ≤ ·) l
  have hlength : (l.insertionSort (· ≤ ·)).length = l.length := hperm.length_eq
  generalize l.insertionSort (· ≤ ·) = sorted at *
  have htop : ∀ a, IsTop id n l a ↔ IsTop id n sorted a := isTop_perm hperm.symm
  have hcut : sorted.take (l.length - n) ++ sorted.drop (l.length - n) = sorted :=
    List.take_append_drop _ _
  have hacross := (List.pairwise_append.1 (hcut.symm ▸ hsorted)).2.2
  have hfront : (sorted.take (l.length - n)).filter (IsTop id n l) = [] := by
    refine List.filter_eq_nil_iff.2 fun a ha hatop ↦ ?_
    -- all of the `n` last rows are larger
    have hlarger : (sorted.drop (l.length - n)).filter (fun b ↦ id a < id b) =
        sorted.drop (l.length - n) :=
      List.filter_eq_self.2 fun b hb ↦ decide_eq_true (hacross a ha b hb)
    have hcount := (htop a).1 (of_decide_eq_true hatop)
    rw [IsTop, ← hcut, List.filter_append, hlarger, List.length_append, List.length_drop] at hcount
    have hpos := List.length_pos_of_mem ha
    rw [List.length_take] at hpos
    omega
  have hback : (sorted.drop (l.length - n)).filter (IsTop id n l) =
      sorted.drop (l.length - n) := by
    refine List.filter_eq_self.2 fun a ha ↦ decide_eq_true ?_
    have hdesc : sorted.reverse.Pairwise (desc id) :=
      List.pairwise_reverse.2 (hsorted.imp le_of_lt)
    have hmem : a ∈ sorted.reverse.take n := by
      rw [List.take_reverse, List.mem_reverse, hlength]
      exact ha
    rw [htop, ← isTop_perm (List.reverse_perm sorted)]
    exact isTop_of_mem_take hdesc hmem
  rw [← hback, ← List.nil_append ((sorted.drop _).filter _), ← hfront, ← List.filter_append, hcut]

theorem mem_drop_iff (hl : l.Nodup) {a : α} :
    a ∈ (l.insertionSort (· ≤ ·)).drop (l.length - n) ↔ a ∈ l ∧ IsTop id n l a := by
  rw [drop_eq_filter hl, List.mem_filter, List.mem_insertionSort, decide_eq_true_iff]

/-- Rows that ascend by themselves and by a key ascend by the key. -/
theorem le_of_pairwise {rows : List α} (h : rows.Pairwise (· < ·)) (hf : rows.Pairwise (asc f))
    {a b : α} (ha : a ∈ rows) (hb : b ∈ rows) (hab : a < b) : f a ≤ f b := by
  have hsymm : Std.Symm fun a b ↦ (a < b → f a ≤ f b) ∧ (b < a → f b ≤ f a) :=
    ⟨fun a b hab ↦ ⟨hab.2, hab.1⟩⟩
  have hboth : rows.Pairwise fun a b ↦ (a < b → f a ≤ f b) ∧ (b < a → f b ≤ f a) :=
    (h.and hf).imp fun hab ↦ ⟨fun _ ↦ hab.2, fun hba ↦ absurd hba hab.1.asymm⟩
  exact (hboth.forall ha hb hab.ne).1 hab

/-- If the key puts the last elements in front and in order, it leaves them before the limit. -/
theorem take_eq_filter (hl : l.Nodup) (hf : Function.Injective f)
    (h : ∀ a ∈ l, ∀ b ∈ l, a < b → IsTop id n l b → (f a < f b ↔ IsTop id n l a)) :
    (l.insertionSort (asc f)).take n = (l.insertionSort (asc f)).filter (IsTop id n l) := by
  have hinitial : (l.insertionSort (asc f)).Pairwise fun a b ↦
      decide (IsTop id n l b) = true → decide (IsTop id n l a) = true := by
    refine (List.pairwise_insertionSort (asc f) l).imp_of_mem fun {a b} ha hb hab htop ↦ ?_
    rw [List.mem_insertionSort] at ha hb
    rw [decide_eq_true_iff] at htop ⊢
    obtain hlt | rfl | hgt := lt_trichotomy a b
    · exact (h a ha b hb hlt htop).1 (lt_of_le_of_ne hab (hf.ne hlt.ne))
    · exact htop
    · exact htop.mono hgt.le
  have hfilter := filter_take_of_pairwise (fun a ↦ decide (IsTop id n l a)) n hinitial
  have hlength : ((l.insertionSort (asc f)).filter (IsTop id n l)).length = min n l.length := by
    rw [((List.perm_insertionSort _ l).filter _).length_eq,
      ← ((List.perm_insertionSort (· ≤ ·) l).filter _).length_eq, ← drop_eq_filter hl,
      List.length_drop, List.length_insertionSort]
    omega
  rw [List.take_of_length_le (hlength.trans_le (min_le_left _ _))] at hfilter
  -- nothing is filtered out of what is before the limit
  rw [← hfilter]
  refine (List.filter_sublist.eq_of_length ?_).symm
  rw [hfilter, hlength, List.length_take, List.length_insertionSort]

/-- **When a cut at the front is a cut at the back.** Sorted by a key, the first `n` of a list are
its `n` last in ascending order if and only if of any two elements, of which the larger one is among
the last, the smaller one has the smaller key exactly if it is among the last, too. -/
theorem take_eq_drop_iff (hl : l.Nodup) (hf : Function.Injective f) (n : ℕ) :
    (l.insertionSort (asc f)).take n = (l.insertionSort (· ≤ ·)).drop (l.length - n) ↔
      ∀ a ∈ l, ∀ b ∈ l, a < b → IsTop id n l b → (f a < f b ↔ IsTop id n l a) := by
  have hkey := List.pairwise_insertionSort (asc f) l
  constructor
  · intro h a ha b hb hab htop
    have hbtake : b ∈ (l.insertionSort (asc f)).take n := h ▸ (mem_drop_iff hl).2 ⟨hb, htop⟩
    constructor
    · intro hlt
      by_contra hnot
      have hcut : (l.insertionSort (asc f)).take n ++ (l.insertionSort (asc f)).drop n =
          l.insertionSort (asc f) := List.take_append_drop _ _
      have hmem : a ∈ (l.insertionSort (asc f)).drop n := by
        have hatake : a ∉ (l.insertionSort (asc f)).take n :=
          h ▸ fun hmem ↦ hnot ((mem_drop_iff hl).1 hmem).2
        have hsort : a ∈ l.insertionSort (asc f) := (List.mem_insertionSort _).2 ha
        rw [← hcut] at hsort
        exact (List.mem_append.1 hsort).resolve_left hatake
      have hle := (List.pairwise_append.1 (hcut.symm ▸ hkey)).2.2 b hbtake a hmem
      exact absurd hlt (not_lt.2 hle)
    · intro hatop
      have hatake : a ∈ (l.insertionSort (asc f)).take n := h ▸ (mem_drop_iff hl).2 ⟨ha, hatop⟩
      have hrows : ((l.insertionSort (asc f)).take n).Pairwise (· < ·) :=
        h ▸ (pairwise_lt_insertionSort hl).sublist (List.drop_sublist _ _)
      have hle := le_of_pairwise hrows (hkey.sublist (List.take_sublist _ _)) hatake hbtake hab
      exact lt_of_le_of_ne hle (hf.ne hab.ne)
  · intro h
    rw [take_eq_filter hl hf h, drop_eq_filter hl]
    -- the two orders agree on the last elements
    have hagree : ((l.insertionSort (· ≤ ·)).filter (IsTop id n l)).Pairwise (asc f) := by
      refine ((pairwise_lt_insertionSort hl).filter _).imp_of_mem fun {a b} ha hb hab ↦ ?_
      rw [List.mem_filter, List.mem_insertionSort, decide_eq_true_iff] at ha hb
      exact ((h a ha.1 b hb.1 hab hb.2).2 ha.2).le
    refine List.Perm.eq_of_pairwise (fun a b _ _ hab hba ↦ hf (le_antisymm hab hba))
      (hkey.filter _) hagree ?_
    exact ((List.perm_insertionSort _ l).filter _).trans
      ((List.perm_insertionSort _ l).filter _).symm

/-- The last elements are all there are, or none. -/
theorem isTop_downward_iff (hl : l.Nodup) :
    (∀ a ∈ l, ∀ b ∈ l, a < b → IsTop id n l b → IsTop id n l a) ↔ n = 0 ∨ l.length ≤ n := by
  have hlength : (l.insertionSort (· ≤ ·)).length = l.length := List.length_insertionSort _ l
  constructor
  · intro h
    refine or_iff_not_imp_left.2 fun hn ↦ ?_
    by_contra hmore
    have hpos : 0 < ((l.insertionSort (· ≤ ·)).drop (l.length - n)).length := by
      rw [List.length_drop, hlength]
      omega
    obtain ⟨b, hb⟩ := List.exists_mem_of_length_pos hpos
    obtain ⟨hb, hbtop⟩ := (mem_drop_iff hl).1 hb
    -- everything below an element at the top would be at the top
    have hall : (l.insertionSort (· ≤ ·)).filter (IsTop id n l) = l.insertionSort (· ≤ ·) := by
      refine List.filter_eq_self.2 fun a ha ↦ decide_eq_true ?_
      obtain hle | hlt := le_or_gt b a
      · exact hbtop.mono hle
      · exact h a ((List.mem_insertionSort _).1 ha) b hb hlt hbtop
    have hdrop := congrArg List.length ((drop_eq_filter hl n).trans hall)
    rw [List.length_drop, hlength] at hdrop
    omega
  · rintro (rfl | hle) a ha b - - hb
    · exact absurd hb (Nat.not_lt_zero _)
    · refine Nat.lt_of_lt_of_le ?_ hle
      exact List.length_filter_lt_length_iff_exists.2 ⟨a, ha, by simp⟩

end Ends

end Cuts
