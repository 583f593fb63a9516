import Mathlib.Algebra.BigOperators.Group.List.Basic
import Mathlib.Data.List.Nodup

/-!
# Sums over a part of a list

`sumOf val p l` is the sum of `val` over the elements of `l` that satisfy `p`, which is what a
`SUM` with a `WHERE` clause and an accumulating loop with a guard both compute. A part can be
split by a further condition (`sumOf_split`) and, when every element of it has its key in a list
of distinct keys, it is the sum over the keys (`sum_sumOf_key`).
-/

namespace PartialSums

variable {ι κ ν : Type*} [AddCommMonoid ν] (val : ι → ν)

/-- The sum of `val` over the elements of a list that satisfy `p`. -/
def sumOf (p : ι → Prop) [DecidablePred p] (l : List ι) : ν :=
  ((l.filter fun i ↦ p i).map val).sum

variable (p q : ι → Prop) [DecidablePred p] [DecidablePred q]

@[simp]
theorem sumOf_nil : sumOf val p [] = 0 :=
  rfl

theorem sumOf_cons (i : ι) (l : List ι) :
    sumOf val p (i :: l) = (if p i then val i else 0) + sumOf val p l := by
  by_cases h : p i <;> simp [sumOf, h]

theorem sumOf_append (l₁ l₂ : List ι) :
    sumOf val p (l₁ ++ l₂) = sumOf val p l₁ + sumOf val p l₂ := by
  rw [sumOf, sumOf, sumOf, List.filter_append, List.map_append, List.sum_append]

theorem sumOf_flatMap {α : Type*} (f : α → List ι) (l : List α) :
    sumOf val p (l.flatMap f) = (l.map fun a ↦ sumOf val p (f a)).sum := by
  induction l with
  | nil => rfl
  | cons a l ih => rw [List.flatMap_cons, sumOf_append, ih, List.map_cons, List.sum_cons]

variable {val p q}

theorem sumOf_congr {l : List ι} (h : ∀ i ∈ l, p i ↔ q i) : sumOf val p l = sumOf val q l := by
  have hfilter : (l.filter fun i ↦ p i) = l.filter fun i ↦ q i :=
    List.filter_congr fun i hi ↦ by simp only [h i hi]
  rw [sumOf, sumOf, hfilter]

theorem sumOf_eq_zero {l : List ι} (h : ∀ i ∈ l, ¬ p i) : sumOf val p l = 0 := by
  rw [sumOf, List.filter_eq_nil_iff.2 fun i hi ↦ by simpa using h i hi]
  rfl

theorem sumOf_true {l : List ι} (h : ∀ i ∈ l, p i) : sumOf val p l = (l.map val).sum := by
  rw [sumOf, List.filter_eq_self.2 fun i hi ↦ by simpa using h i hi]

/-- Only the values of the part matter. -/
theorem sumOf_congr_val {f g : ι → ν} {l : List ι} (h : ∀ i ∈ l, p i → f i = g i) :
    sumOf f p l = sumOf g p l := by
  refine congrArg List.sum (List.map_congr_left fun i hi ↦ ?_)
  obtain ⟨hmem, hp⟩ := List.mem_filter.1 hi
  exact h i hmem (of_decide_eq_true hp)

/-- Values that are zero but for a part of the part. -/
theorem sumOf_ite (q : ι → Prop) [DecidablePred q] (l : List ι) :
    sumOf (fun i ↦ if q i then val i else 0) p l = sumOf val (fun i ↦ p i ∧ q i) l := by
  induction l with
  | nil => rfl
  | cons i l ih =>
    rw [sumOf_cons, sumOf_cons, ih, ite_and]

theorem sumOf_neg {γ : Type*} [AddCommGroup γ] {val : ι → γ} (l : List ι) :
    sumOf (fun i ↦ -val i) p l = -sumOf val p l := by
  induction l with
  | nil => exact neg_zero.symm
  | cons i l ih =>
    rw [sumOf_cons, sumOf_cons, ih, neg_add]
    split
    · rfl
    · rw [neg_zero]

/-- **A part splits by any condition.** -/
theorem sumOf_split (q : ι → Prop) [DecidablePred q] (l : List ι) :
    sumOf val p l = sumOf val (fun i ↦ p i ∧ q i) l + sumOf val (fun i ↦ p i ∧ ¬ q i) l := by
  induction l with
  | nil => simp
  | cons i l ih =>
    rw [sumOf_cons, sumOf_cons, sumOf_cons, ih, add_add_add_comm]
    by_cases hp : p i <;> by_cases hq : q i <;> simp [hp, hq]

/-- **Two parts have the same sum** exactly if what is only in one of them comes to the same as what
is only in the other. -/
theorem sumOf_eq_iff {γ : Type*} [AddCancelCommMonoid γ] {val : ι → γ} (l : List ι) :
    sumOf val p l = sumOf val q l ↔
      sumOf val (fun i ↦ p i ∧ ¬q i) l = sumOf val (fun i ↦ q i ∧ ¬p i) l := by
  have hboth : sumOf val (fun i ↦ p i ∧ q i) l = sumOf val (fun i ↦ q i ∧ p i) l :=
    sumOf_congr fun _ _ ↦ and_comm
  rw [sumOf_split q l, sumOf_split (p := q) p l, hboth, add_right_inj]

/-- A sum over a filtered list is a sum over the list. -/
theorem sumOf_filter (l : List ι) :
    sumOf val p (l.filter fun i ↦ q i) = sumOf val (fun i ↦ q i ∧ p i) l := by
  rw [sumOf, sumOf, List.filter_filter]
  simp only [Bool.decide_and, Bool.and_comm]

/-- The part of one key, where the keys are distinct. -/
theorem sumOf_key [DecidableEq κ] (key : ι → κ) {l : List ι} (h : (l.map key).Nodup) {i : ι}
    (hi : i ∈ l) : sumOf val (fun j ↦ key j = key i) l = val i := by
  induction l with
  | nil => exact absurd hi List.not_mem_nil
  | cons j l ih =>
    obtain ⟨hj, hrest⟩ := List.nodup_cons.1 h
    rw [sumOf_cons]
    obtain rfl | hi := List.mem_cons.1 hi
    · have hnone : ∀ m ∈ l, ¬key m = key i := fun m hm heq ↦ hj (heq ▸ List.mem_map_of_mem hm)
      rw [if_pos rfl, sumOf_eq_zero hnone, add_zero]
    · have hne : ¬key j = key i := fun heq ↦ hj (heq ▸ List.mem_map_of_mem hi)
      rw [if_neg hne, ih hrest hi, zero_add]

theorem sumOf_map {τ : Type*} (f : τ → ι) (l : List τ) :
    sumOf val p (l.map f) = sumOf (fun i ↦ val (f i)) (fun i ↦ p (f i)) l := by
  rw [sumOf, sumOf, List.filter_map, List.map_map]
  rfl

/-- **A part is the sum of its subparts by key.** -/
theorem sum_sumOf_key [DecidableEq κ] (key : ι → κ) {keys : List κ} (hkeys : keys.Nodup)
    {l : List ι} (h : ∀ i ∈ l, p i → key i ∈ keys) :
    (keys.map fun k ↦ sumOf val (fun i ↦ key i = k ∧ p i) l).sum = sumOf val p l := by
  induction keys generalizing p with
  | nil =>
    rw [List.map_nil, List.sum_nil, sumOf_eq_zero]
    exact fun i hi hp ↦ by simpa using h i hi hp
  | cons k keys ih =>
    obtain ⟨hk, hkeys'⟩ := List.nodup_cons.1 hkeys
    rw [List.map_cons, List.sum_cons, sumOf_split (p := p) (fun i ↦ key i = k) l,
      ← ih hkeys' (p := fun i ↦ p i ∧ ¬ key i = k)]
    · refine congrArg₂ (· + ·) (sumOf_congr fun i _ ↦ and_comm) ?_
      refine congrArg List.sum (List.map_congr_left fun k' hk' ↦ sumOf_congr fun i _ ↦ ?_)
      constructor
      · rintro ⟨rfl, hp⟩
        exact ⟨rfl, hp, fun heq ↦ hk (heq ▸ hk')⟩
      · exact fun hi ↦ ⟨hi.1, hi.2.1⟩
    · intro i hi hp
      exact (List.mem_cons.1 (h i hi hp.1)).resolve_left hp.2

end PartialSums
