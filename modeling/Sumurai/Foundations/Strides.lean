import Mathlib.Data.Finset.Card
import Mathlib.Data.Int.CardIntervalMod
import Mathlib.Data.List.Induction

/-!
# Lists thinned out

Of a long list every `stride`-th element is kept, the first one among them, and the last one as well
(`thinned`). The first ones alone are as many as there are strides (`length_strided`). The last one
is one more, unless it is among them; so there is one element for every stride that is begun between
the first and the last one, and the first one (`card_thinned`).

For at most `budget` elements the stride is the number of elements by the budget, rounded up. That
is enough for the elements without the last one, and with the last one it is exactly if the begun
strides leave room for it (`card_thinned_le_iff`); there is never more than one too many
(`card_thinned_le_succ`).
-/

namespace Strides

variable {α : Type*}

/-- The values of `k` in `for (let k = 0; k < n; k += stride)`. -/
def strides (n stride : ℕ) : List ℕ :=
  (List.range n).filter (stride ∣ ·)

/-- Every `stride`-th element of a list. -/
def strided (stride : ℕ) (l : List α) : List α :=
  (strides l.length stride).filterMap (l[·]?)

/-- Every `stride`-th element of a list, and the last one. -/
def thinned [DecidableEq α] (stride : ℕ) (l : List α) : Finset α :=
  (strided stride l).toFinset ∪ l.getLast?.toFinset

/-! ### Every so many elements -/

@[simp]
theorem strided_nil (stride : ℕ) : strided stride ([] : List α) = [] :=
  rfl

theorem strides_succ (n stride : ℕ) :
    strides (n + 1) stride = strides n stride ++ if stride ∣ n then [n] else [] := by
  rw [strides, List.range_succ, List.filter_append, ← strides]
  split
  · rename_i hdvd
    rw [List.filter_singleton, decide_eq_true hdvd]
    rfl
  · rename_i hdvd
    rw [List.filter_singleton, decide_eq_false hdvd]
    rfl

/-- The elements of a longer list. -/
theorem strided_concat (stride : ℕ) (l : List α) (a : α) :
    strided stride (l ++ [a]) = strided stride l ++ if stride ∣ l.length then [a] else [] := by
  have hsame : (strides l.length stride).filterMap ((l ++ [a])[·]?) = strided stride l := by
    refine List.filterMap_congr fun k hk ↦ ?_
    have hlt : k < l.length := List.mem_range.1 (List.mem_filter.1 hk).1
    exact List.getElem?_append_left hlt
  have hlast : (l ++ [a])[l.length]? = some a := List.getElem?_concat_length
  rw [strided, List.length_append, List.length_singleton, strides_succ, List.filterMap_append,
    hsame]
  split
  · rw [List.filterMap_cons, hlast, List.filterMap_nil]
  · rfl

theorem strided_sublist (stride : ℕ) (l : List α) : (strided stride l).Sublist l := by
  induction l using List.reverseRecOn with
  | nil => exact List.Sublist.slnil
  | append_singleton l a ih =>
    rw [strided_concat]
    refine ih.append ?_
    split
    · exact List.Sublist.refl _
    · exact List.nil_sublist _

theorem strided_one (l : List α) : strided 1 l = l := by
  induction l using List.reverseRecOn with
  | nil => rfl
  | append_singleton l a ih => rw [strided_concat, ih, if_pos (one_dvd _)]

/-- There is an element for every stride that is begun. -/
theorem length_strided {stride : ℕ} (hpos : 0 < stride) (l : List α) :
    (strided stride l).length = ⌈(l.length : ℚ) / stride⌉₊ := by
  have hcount : (strided stride l).length = l.length.count (· ≡ 0 [MOD stride]) := by
    induction l using List.reverseRecOn with
    | nil => rfl
    | append_singleton l a ih =>
      rw [strided_concat, List.length_append, ih, List.length_append, List.length_singleton,
        Nat.count_succ]
      simp only [Nat.modEq_zero_iff_dvd]
      split <;> rfl
  have hceil := Nat.count_modEq_card_eq_ceil l.length hpos 0
  rw [← hcount, Nat.zero_mod, Nat.cast_zero, sub_zero] at hceil
  rw [← Int.ceil_toNat, ← hceil, Int.toNat_natCast]

/-! ### And the last one -/

section Thinned

variable [DecidableEq α]

theorem mem_thinned {stride : ℕ} {l : List α} {a : α} :
    a ∈ thinned stride l ↔ a ∈ strided stride l ∨ l.getLast? = some a := by
  rw [thinned, Finset.mem_union, List.mem_toFinset, Option.mem_toFinset, Option.mem_def]

theorem mem_of_mem_thinned {stride : ℕ} {l : List α} {a : α} (h : a ∈ thinned stride l) :
    a ∈ l := by
  obtain hstrided | hlast := mem_thinned.1 h
  · exact (strided_sublist stride l).subset hstrided
  · exact List.mem_of_getLast? hlast

theorem thinned_one (l : List α) : thinned 1 l = l.toFinset := by
  ext a
  rw [List.mem_toFinset, mem_thinned, strided_one]
  exact or_iff_left_of_imp List.mem_of_getLast?

/-- The last one, and the elements of what is before it. -/
theorem thinned_concat (stride : ℕ) (l : List α) (a : α) :
    thinned stride (l ++ [a]) = insert a (strided stride l).toFinset := by
  ext b
  rw [mem_thinned, strided_concat, List.getLast?_concat, Finset.mem_insert, List.mem_toFinset,
    List.mem_append, Option.some_inj, or_assoc, or_comm, eq_comm (a := a)]
  refine or_congr_left (or_iff_right_of_imp fun h ↦ ?_)
  split at h
  · exact List.mem_singleton.1 h
  · exact absurd h List.not_mem_nil

/-- **There is one element for every stride that is begun** between the first and the last one, and
the first one. -/
theorem card_thinned {stride : ℕ} (hpos : 0 < stride) {l : List α} (hnodup : l.Nodup)
    (hne : l ≠ []) :
    (thinned stride l).card = ⌈((l.length - 1 : ℕ) : ℚ) / stride⌉₊ + 1 := by
  obtain ⟨before, a, rfl⟩ := (List.eq_nil_or_concat' l).resolve_left hne
  obtain ⟨hbefore, -, hdisjoint⟩ := List.nodup_append.1 hnodup
  have hsublist := strided_sublist stride before
  have hlast : a ∉ (strided stride before).toFinset := fun h ↦
    hdisjoint a (hsublist.subset (List.mem_toFinset.1 h)) a (List.mem_singleton_self a) rfl
  rw [thinned_concat, Finset.card_insert_of_notMem hlast,
    List.toFinset_card_of_nodup (hsublist.nodup hbefore), length_strided hpos,
    List.length_append, List.length_singleton, Nat.add_sub_cancel]

end Thinned

/-! ### A budget -/

section Budget

/-- `Math.max(1, Math.ceil(n / budget))`, the stride for `n` elements. -/
def strideFor (budget n : ℕ) : ℕ :=
  max 1 ⌈(n : ℚ) / budget⌉₊

theorem ceil_div_le_iff {n d k : ℕ} (hpos : 0 < d) : ⌈(n : ℚ) / d⌉₊ ≤ k ↔ n ≤ k * d := by
  rw [Nat.ceil_le, div_le_iff₀ (by exact_mod_cast hpos)]
  exact_mod_cast Iff.rfl

variable {budget : ℕ} (hbudget : 0 < budget)
include hbudget

theorem strideFor_eq (n : ℕ) : strideFor budget n = (n - 1) / budget + 1 := by
  cases n with
  | zero => rw [strideFor, Nat.cast_zero, zero_div, Nat.ceil_zero, Nat.zero_sub, Nat.zero_div]; rfl
  | succ n =>
    have hceil : ⌈((n + 1 : ℕ) : ℚ) / budget⌉₊ = n / budget + 1 :=
      eq_of_forall_ge_iff fun k ↦ by
        rw [ceil_div_le_iff hbudget, Nat.succ_le_iff, Nat.succ_le_iff,
          Nat.div_lt_iff_lt_mul hbudget]
    rw [strideFor, hceil, Nat.add_sub_cancel]
    exact max_eq_right (Nat.succ_pos _)

theorem strideFor_eq_one {n : ℕ} (hle : n ≤ budget) : strideFor budget n = 1 := by
  have hlt : n - 1 < budget := by omega
  rw [strideFor_eq hbudget, Nat.div_eq_of_lt hlt]

variable [DecidableEq α] {l : List α}

/-- How many elements there are, with the stride that a budget asks for. -/
theorem card_thinned_strideFor_le_iff (hnodup : l.Nodup) (hne : l ≠ []) {k : ℕ} :
    (thinned (strideFor budget l.length) l).card ≤ k + 1 ↔
      l.length - 1 ≤ k * ((l.length - 1) / budget + 1) := by
  rw [strideFor_eq hbudget, card_thinned (Nat.succ_pos _) hnodup hne, Nat.succ_le_succ_iff,
    ceil_div_le_iff (Nat.succ_pos _)]

/-- **There is at most one element too many.** -/
theorem card_thinned_le_succ (hnodup : l.Nodup) :
    (thinned (strideFor budget l.length) l).card ≤ budget + 1 := by
  obtain rfl | hne := eq_or_ne l []
  · exact Nat.zero_le _
  · rw [card_thinned_strideFor_le_iff hbudget hnodup hne]
    exact (Nat.lt_mul_div_succ _ hbudget).le

/-- **The elements are within the budget** exactly if the last one is not too far behind the last
one that is kept before it. -/
theorem card_thinned_le_iff (hnodup : l.Nodup) :
    (thinned (strideFor budget l.length) l).card ≤ budget ↔
      (l.length - 1) / budget + (l.length - 1) % budget < budget := by
  obtain rfl | hne := eq_or_ne l []
  · exact iff_of_true (Nat.zero_le _) (by simpa using hbudget)
  · obtain ⟨k, rfl⟩ := Nat.exists_eq_succ_of_ne_zero hbudget.ne'
    have hsplit := Nat.div_add_mod (l.length - 1) (k + 1)
    rw [Nat.succ_eq_add_one, card_thinned_strideFor_le_iff hbudget hnodup hne]
    generalize (l.length - 1) / (k + 1) = q, (l.length - 1) % (k + 1) = r at *
    rw [← hsplit]
    constructor <;> intro <;> lia

end Budget

end Strides
