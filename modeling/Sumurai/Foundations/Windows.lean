import Mathlib.Data.List.Chain
import Mathlib.Order.Interval.Set.Basic
import Mathlib.Order.SuccPred.Basic

/-!
# Windows that cover a range

A sequence of closed windows of a linear order with successors, each of which starts and ends no
earlier than the one before. Its union is one range, from the first start to the last end, exactly
if each window starts at the latest at the successor of the end of the one before
(`covered_eq_Icc_iff`): a gap that one window leaves is not filled by a later one.
-/

namespace Windows

variable {α : Type*} [LinearOrder α]

/-- The points in some window of a list. -/
def covered (ws : List (α × α)) : Set α :=
  {d | ∃ w ∈ ws, d ∈ Set.Icc w.1 w.2}

/-- The second window starts and ends no earlier than the first. -/
def Advances (v w : α × α) : Prop :=
  v.1 ≤ w.1 ∧ v.2 ≤ w.2

instance : IsTrans (α × α) Advances where
  trans _ _ _ h h' := ⟨h.1.trans h'.1, h.2.trans h'.2⟩

theorem mem_covered_cons {w : α × α} {ws : List (α × α)} {d : α} :
    d ∈ covered (w :: ws) ↔ d ∈ Set.Icc w.1 w.2 ∨ d ∈ covered ws := by
  simp [covered]

/-- In a sequence that advances, every window lies between the first start and the last end. -/
theorem covered_subset {w : α × α} {ws : List (α × α)} (hadv : (w :: ws).IsChain Advances) :
    covered (w :: ws) ⊆ Set.Icc w.1 ((w :: ws).getLast (List.cons_ne_nil w ws)).2 := by
  rintro d ⟨v, hv, hstart, hend⟩
  have hpairwise : (w :: ws).Pairwise Advances := List.isChain_iff_pairwise.1 hadv
  have hfirst : w.1 ≤ v.1 := by
    rcases List.mem_cons.1 hv with rfl | hv
    · exact le_rfl
    · exact (List.rel_of_pairwise_cons hpairwise hv).1
  have hlast : v.2 ≤ ((w :: ws).getLast (List.cons_ne_nil w ws)).2 := by
    rw [← List.dropLast_append_getLast (List.cons_ne_nil w ws)] at hv hpairwise
    rcases List.mem_append.1 hv with hv | hv
    · exact ((List.pairwise_append.1 hpairwise).2.2 v hv _ (List.mem_singleton.2 rfl)).2
    · rw [← List.mem_singleton.1 hv]
  exact ⟨hfirst.trans hstart, hend.trans hlast⟩

variable [SuccOrder α]

/-- The second window leaves no gap after the first. -/
def Reaches (v w : α × α) : Prop :=
  w.1 ≤ Order.succ v.2

/-- **When a sequence of windows covers a range.** -/
theorem covered_eq_Icc_iff {w : α × α} {ws : List (α × α)} (hwf : ∀ v ∈ w :: ws, v.1 ≤ v.2)
    (hadv : (w :: ws).IsChain Advances) :
    covered (w :: ws) = Set.Icc w.1 ((w :: ws).getLast (List.cons_ne_nil w ws)).2 ↔
      (w :: ws).IsChain Reaches := by
  induction ws generalizing w with
  | nil =>
    refine iff_of_true ?_ (List.isChain_singleton w)
    ext d
    simp [covered]
  | cons v ws ih =>
    obtain ⟨hwv, hrest⟩ := List.isChain_cons_cons.1 hadv
    have htail := ih (fun u hu ↦ hwf u (List.mem_cons_of_mem w hu)) hrest
    rw [List.isChain_cons_cons, ← htail, List.getLast_cons (List.cons_ne_nil v ws)]
    set last := ((v :: ws).getLast (List.cons_ne_nil v ws)).2 with hlast
    have hvlast : v.2 ≤ last :=
      (covered_subset hrest ⟨v, List.mem_cons_self, hwf v (by simp), le_rfl⟩).2
    constructor
    · intro hcovered
      constructor
      · -- the point after the first window would be left out
        by_contra hgap
        have hgap : Order.succ w.2 < v.1 := not_le.1 hgap
        have hlt : w.2 < Order.succ w.2 :=
          Order.lt_succ_of_not_isMax fun hmax ↦
            ((Order.le_succ w.2).trans_lt (hgap.trans_le (hwf v (by simp)))).not_ge (hmax hwv.2)
        have hmem : Order.succ w.2 ∈ covered (w :: v :: ws) := by
          rw [hcovered]
          exact ⟨(hwf w (by simp)).trans hlt.le,
            hgap.le.trans ((hwf v (by simp)).trans hvlast)⟩
        rcases mem_covered_cons.1 hmem with hfirst | hlater
        · exact hlt.not_ge hfirst.2
        · exact hgap.not_ge (covered_subset hrest hlater).1
      · refine (covered_subset hrest).antisymm fun d hd ↦ ?_
        have hmem : d ∈ covered (w :: v :: ws) := by
          rw [hcovered]
          exact ⟨hwv.1.trans hd.1, hd.2⟩
        rcases mem_covered_cons.1 hmem with hfirst | hlater
        · exact ⟨v, List.mem_cons_self, hd.1, hfirst.2.trans hwv.2⟩
        · exact hlater
    · rintro ⟨hreach, hcovered⟩
      ext d
      rw [mem_covered_cons, hcovered]
      constructor
      · rintro (hd | hd)
        · exact ⟨hd.1, hd.2.trans (hwv.2.trans hvlast)⟩
        · exact ⟨hwv.1.trans hd.1, hd.2⟩
      · intro hd
        rcases le_or_gt d w.2 with hle | hgt
        · exact Or.inl ⟨hd.1, hle⟩
        · exact Or.inr ⟨hreach.trans (Order.succ_le_of_lt hgt), hd.2⟩

end Windows
