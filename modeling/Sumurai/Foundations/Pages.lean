import Mathlib.Algebra.Order.Floor.Div
import Mathlib.Data.List.Basic
import Mathlib.Order.Lattice
import Mathlib.Tactic.Ring
import Mathlib.Tactic.Linarith

/-!
# A list in pages

A list is shown in pages of one size, at least one of them. `page size k l` is the page with the
number `k`, from zero on, and `pageCount size n` the number of pages of `n` elements. Together the
pages are the list, each element once and in order (`flatMap_page`), and none of them is empty
unless the list is (`page_ne_nil_iff`).
-/

namespace Paging

variable {α : Type*} {size k n : ℕ} {l : List α}

/-- The page with the number `k`. -/
def page (size k : ℕ) (l : List α) : List α :=
  (l.drop (k * size)).take size

/-- `max(1, ceil(n / size))`. -/
def pageCount (size n : ℕ) : ℕ :=
  max 1 (n ⌈/⌉ size)

theorem one_le_pageCount (size n : ℕ) : 1 ≤ pageCount size n :=
  le_max_left _ _

/-- The pages have room for everything. -/
theorem le_pageCount_mul (hsize : 0 < size) : n ≤ pageCount size n * size := by
  have hceil : n ≤ size * (n ⌈/⌉ size) := by
    simpa [smul_eq_mul] using (ceilDiv_le_iff_le_smul hsize).1 (le_refl (n ⌈/⌉ size))
  calc n ≤ size * (n ⌈/⌉ size) := hceil
    _ ≤ size * pageCount size n := Nat.mul_le_mul_left _ (le_max_right _ _)
    _ = pageCount size n * size := mul_comm _ _

/-- A page before the last one is full. -/
theorem lt_pageCount_iff (hsize : 0 < size) (hn : 0 < n) : k < pageCount size n ↔ k * size < n := by
  have hceil : n ⌈/⌉ size ≤ k ↔ n ≤ k * size := by
    rw [ceilDiv_le_iff_le_smul hsize, smul_eq_mul, mul_comm]
  rw [pageCount, lt_max_iff, Nat.lt_one_iff, ← not_le, hceil, not_le]
  constructor
  · rintro (rfl | h)
    · rwa [zero_mul]
    · exact h
  · exact .inr

theorem length_page : (page size k l).length = min size (l.length - k * size) := by
  rw [page, List.length_take, List.length_drop]

/-- A page is empty when it starts behind the end. -/
theorem page_ne_nil_iff (hsize : 0 < size) : page size k l ≠ [] ↔ k * size < l.length := by
  rw [← List.length_pos_iff, length_page, lt_min_iff, and_iff_right hsize, Nat.sub_pos_iff_lt]

theorem page_subset : page size k l ⊆ l :=
  fun _ h ↦ List.mem_of_mem_drop (List.mem_of_mem_take h)

/-- The first pages are the beginning of the list. -/
theorem flatMap_page_range (size n : ℕ) (l : List α) :
    (List.range n).flatMap (page size · l) = l.take (n * size) := by
  induction n with
  | zero => rw [zero_mul, List.take_zero]; rfl
  | succ n ih =>
    rw [List.range_succ, List.flatMap_append, ih, List.flatMap_singleton, page, add_mul, one_mul,
      List.take_add]

/-- **The pages together are the list.** -/
theorem flatMap_page (hsize : 0 < size) (l : List α) :
    (List.range (pageCount size l.length)).flatMap (page size · l) = l := by
  rw [flatMap_page_range, List.take_of_length_le (le_pageCount_mul hsize)]

end Paging
