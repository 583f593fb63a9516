import Mathlib.Data.List.Flatten

/-!
# Words of a text

A text is split into words at its separators, and words are joined into a text. A program that
changes the words of a text one by one changes its letters in place: what is read off a text letter
by letter, and of the separators gives nothing, is read off the words alike (`flatMap_splitOnP`,
`flatMap_intercalate`).
-/

namespace Text

variable {α β : Type*} {p : α → Bool}

/-- What is read off the letters is read off the pieces. -/
theorem flatMap_splitOnP {g : α → List β} (hsep : ∀ a, p a → g a = []) (s : List α) :
    ((s.splitOnP p).flatMap fun piece ↦ piece.flatMap g) = s.flatMap g := by
  induction s with
  | nil => rfl
  | cons a s ih =>
    obtain ⟨piece, pieces, hpieces⟩ := List.exists_cons_of_ne_nil (List.splitOnP_ne_nil p s)
    have hletters : (a :: s).flatMap g = g a ++ s.flatMap g := List.flatMap_cons
    rw [List.splitOnP_cons_eq_if_modifyHead, hletters, ← ih]
    split
    · rename_i ha
      rw [List.flatMap_cons, hsep a ha]
      rfl
    · rw [hpieces, List.modifyHead_cons, List.flatMap_cons, List.flatMap_cons, List.flatMap_cons,
        List.append_assoc]

/-- The pieces of a text have its letters. -/
theorem mem_of_mem_splitOnP {s piece : List α} (hpiece : piece ∈ s.splitOnP p) {a : α}
    (ha : a ∈ piece) : a ∈ s := by
  induction s generalizing piece with
  | nil =>
    rw [List.splitOnP_nil, List.mem_singleton] at hpiece
    exact hpiece ▸ ha
  | cons b s ih =>
    obtain ⟨first, pieces, hpieces⟩ := List.exists_cons_of_ne_nil (List.splitOnP_ne_nil p s)
    rw [List.splitOnP_cons_eq_if_modifyHead] at hpiece
    split at hpiece
    · obtain rfl | hmem := List.mem_cons.1 hpiece
      · exact absurd ha List.not_mem_nil
      · exact List.mem_cons_of_mem b (ih hmem ha)
    · rw [hpieces, List.modifyHead_cons] at hpiece
      obtain rfl | hmem := List.mem_cons.1 hpiece
      · obtain rfl | hfirst := List.mem_cons.1 ha
        · exact List.mem_cons_self
        · exact List.mem_cons_of_mem b (ih (hpieces ▸ List.mem_cons_self) hfirst)
      · exact List.mem_cons_of_mem b (ih (hpieces ▸ List.mem_cons_of_mem first hmem) ha)

/-- What a text is split at is in none of the parts. -/
theorem eq_false_of_mem_splitOnP {s word : List α} (hword : word ∈ s.splitOnP p) {c : α}
    (hc : c ∈ word) : p c = false := by
  induction s generalizing word with
  | nil =>
    rw [List.splitOnP_nil, List.mem_singleton] at hword
    rw [hword] at hc
    exact absurd hc List.not_mem_nil
  | cons d s ih =>
    rw [List.splitOnP_cons_eq_if_modifyHead] at hword
    split at hword
    · obtain rfl | hword := List.mem_cons.1 hword
      · exact absurd hc List.not_mem_nil
      · exact ih hword hc
    · rename_i hd
      cases hsplit : s.splitOnP p with
      | nil => exact absurd hsplit (List.splitOnP_ne_nil p s)
      | cons first rest =>
        rw [hsplit, List.modifyHead_cons] at hword
        rw [hsplit] at ih
        obtain rfl | hword := List.mem_cons.1 hword
        · -- the first part goes on from `d`
          obtain rfl | hc := List.mem_cons.1 hc
          · exact Bool.eq_false_iff.2 hd
          · exact ih List.mem_cons_self hc
        · exact ih (List.mem_cons_of_mem _ hword) hc

/-- What gives nothing can be left out. -/
theorem flatMap_filter_eq {q : α → Bool} {f : α → List β} (h : ∀ a, q a = false → f a = [])
    (l : List α) : (l.filter q).flatMap f = l.flatMap f := by
  induction l with
  | nil => rfl
  | cons a l ih =>
    cases ha : q a with
    | false => rw [List.filter_cons_of_neg (by simp [ha]), ih, List.flatMap_cons, h a ha]; rfl
    | true => rw [List.filter_cons_of_pos ha, List.flatMap_cons, List.flatMap_cons, ih]

/-- Empty pieces have no letters. -/
theorem flatMap_filter_ne_nil [DecidableEq α] (g : α → List β) (pieces : List (List α)) :
    ((pieces.filter fun piece ↦ piece ≠ []).flatMap fun piece ↦ piece.flatMap g) =
      pieces.flatMap fun piece ↦ piece.flatMap g := by
  induction pieces with
  | nil => rfl
  | cons piece pieces ih =>
    rw [List.filter_cons, List.flatMap_cons, ← ih]
    split
    · rw [List.flatMap_cons]
    · rename_i hempty
      obtain rfl : piece = [] := by simpa using hempty
      rfl

/-- A text whose letters are changed is split where it was. -/
theorem splitOnP_map (f : β → α) (s : List β) :
    (s.map f).splitOnP p = (s.splitOnP fun b ↦ p (f b)).map (List.map f) := by
  induction s with
  | nil => rfl
  | cons b s ih =>
    obtain ⟨piece, pieces, hpieces⟩ :=
      List.exists_cons_of_ne_nil (List.splitOnP_ne_nil (fun b ↦ p (f b)) s)
    rw [List.map_cons, List.splitOnP_cons_eq_if_modifyHead, List.splitOnP_cons_eq_if_modifyHead, ih,
      hpieces]
    split
    · rfl
    · rfl

/-- What is read off the letters is read off the words that are joined. -/
theorem flatMap_intercalate {g : α → List β} {sep : List α} (hsep : sep.flatMap g = [])
    (words : List (List α)) :
    (sep.intercalate words).flatMap g = words.flatMap fun word ↦ word.flatMap g := by
  induction words with
  | nil => rfl
  | cons word words ih =>
    cases words with
    | nil => simp [List.intercalate]
    | cons next words =>
      rw [List.intercalate_cons_cons, List.flatMap_append, List.flatMap_append, hsep, ih,
        List.append_nil]
      exact List.flatMap_cons.symm

/-- Joined words have the letters of the words and of the separator. -/
theorem notMem_intercalate {c : α} {sep : List α} (hsep : c ∉ sep) {parts : List (List α)}
    (hparts : ∀ part ∈ parts, c ∉ part) : c ∉ sep.intercalate parts := by
  induction parts with
  | nil => exact List.not_mem_nil
  | cons part parts ih =>
    obtain ⟨hfirst, hrest⟩ := List.forall_mem_cons.1 hparts
    cases parts with
    | nil => rwa [List.intercalate_singleton]
    | cons next parts =>
      rw [List.intercalate_cons_cons]
      simp only [List.mem_append, hfirst, hsep, ih hrest, or_self, not_false_iff]

/-- Joined words are split again. -/
theorem splitOnP_intercalate {sep : α} (hsep : p sep = true) {words : List (List α)}
    (hne : words ≠ []) (h : ∀ word ∈ words, ∀ a ∈ word, p a = false) :
    ([sep].intercalate words).splitOnP p = words := by
  induction words with
  | nil => exact absurd rfl hne
  | cons word words ih =>
    have hword := h word List.mem_cons_self
    cases words with
    | nil => rw [List.intercalate_singleton, List.splitOnP_eq_singleton hword]
    | cons next words =>
      rw [List.intercalate_cons_cons, List.append_assoc, List.singleton_append,
        List.splitOnP_append_cons_of_forall_mem hword sep hsep,
        ih (List.cons_ne_nil _ _) fun word hmem ↦ h word (List.mem_cons_of_mem _ hmem)]

end Text
