import Mathlib.Data.List.Nodup

/-!
# Updates under a unique constraint

An `UPDATE` of some rows of a table changes them one after another, and a unique constraint that is
not deferred is checked at every row: an update fails that leads through a duplicate key, even if
its end has none.

`updateRows` is such an update. Where a row that is already at the key of an updated row stays there
when it is updated itself, as when the update sets a column of the key to a constant, the way does
not matter: the update succeeds exactly if all keys of its end differ (`updateRows_eq`).
-/

namespace UniqueUpdate

variable {α κ : Type} [DecidableEq κ] (key : α → κ) (p : α → Bool) (f : α → α)

/-- The update of the rows that satisfy `p`, with those in `done` behind. -/
def updateRows : List α → List α → Option (List α)
  | done, [] => some done
  | done, r :: rows =>
    if p r then
      if key (f r) ∈ (done ++ rows).map key then none else updateRows (done ++ [f r]) rows
    else updateRows (done ++ [r]) rows

/-- A row after the update. -/
def updated (r : α) : α :=
  if p r then f r else r

variable {key p f}

/-- An update from the middle on. The induction is on the rows ahead; the keys of those behind and
ahead differ at every row that is reached. -/
theorem updateRows_eq_of_nodup
    (hstay : ∀ r s, p r = true → p s = true → key s = key (f r) → key (f s) = key (f r))
    {done rows : List α} (h : ((done ++ rows).map key).Nodup) :
    updateRows key p f done rows =
      if ((done ++ rows.map (updated p f)).map key).Nodup then some (done ++ rows.map (updated p f))
      else none := by
  induction rows generalizing done with
  | nil =>
    rw [List.map_nil, if_pos h, List.append_nil]
    rfl
  | cons r rows ih =>
    have hend : done ++ (r :: rows).map (updated p f) =
        (done ++ [updated p f r]) ++ rows.map (updated p f) := by
      rw [List.map_cons, List.append_assoc, List.singleton_append]
    rw [hend, updateRows]
    have hothers : ((done ++ rows).map key).Nodup :=
      h.sublist ((List.Sublist.append_left (List.sublist_cons_self r rows) done).map key)
    have hnext : ∀ r', key r' ∉ (done ++ rows).map key →
        (((done ++ [r']) ++ rows).map key).Nodup := by
      intro r' hfree
      have hperm : ((done ++ [r']) ++ rows).Perm (r' :: (done ++ rows)) := by
        rw [List.append_assoc, List.singleton_append]
        exact List.perm_middle
      refine ((hperm.map key).nodup_iff).2 (List.nodup_cons.2 ⟨hfree, hothers⟩)
    split
    · rename_i hr
      rw [show updated p f r = f r from if_pos hr]
      split
      · -- a row is in the way, and still is in the end
        rename_i htaken
        rw [if_neg]
        intro hnodup
        rw [List.map_append, List.nodup_append'] at hnodup
        obtain ⟨s, hs, hkey⟩ := List.mem_map.1 htaken
        rcases List.mem_append.1 hs with hs | hs
        · have hleft := hnodup.1
          rw [List.map_append, List.nodup_append'] at hleft
          exact hleft.2.2 (List.mem_map_of_mem hs)
            (by rw [hkey]; exact List.mem_map_of_mem (List.mem_singleton.2 rfl))
        · refine hnodup.2.2 (List.mem_map_of_mem (List.mem_append_right _
            (List.mem_singleton.2 rfl))) (List.mem_map.2 ⟨_, List.mem_map_of_mem hs, ?_⟩)
          rw [updated]
          split
          · rename_i hps
            exact hstay r s hr hps hkey
          · exact hkey
      · rename_i hfree
        exact ih (hnext (f r) hfree)
    · rename_i hr
      rw [show updated p f r = r from if_neg hr]
      refine ih ?_
      rw [List.append_assoc]
      exact h

/-- **An update succeeds exactly if all keys of its end differ.** -/
theorem updateRows_eq
    (hstay : ∀ r s, p r = true → p s = true → key s = key (f r) → key (f s) = key (f r))
    {rows : List α} (h : (rows.map key).Nodup) :
    updateRows key p f [] rows =
      if ((rows.map (updated p f)).map key).Nodup then some (rows.map (updated p f)) else none :=
  updateRows_eq_of_nodup hstay (show (([] ++ rows).map key).Nodup from h)

end UniqueUpdate
