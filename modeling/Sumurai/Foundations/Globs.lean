import Mathlib.Data.List.Infix

/-!
# Glob patterns

Patterns over characters in which `*` stands for any run of characters and every other character for
itself. `isMatch` decides whether a pattern matches a whole text.

A pattern with a literal beginning is matched after that beginning (`isMatch_append`), so the
patterns in use are matched by a literal text, by a literal prefix, or by a literal prefix and a
later literal part.
-/

namespace Glob

/-- The pattern matches the text. -/
def isMatch : List Char → List Char → Bool
  | [], s => s.isEmpty
  | c :: p, s =>
    if c = '*' then s.tails.any (isMatch p)
    else
      match s with
      | [] => false
      | d :: s => c = d && isMatch p s

variable {literal later p s : List Char} {c : Char}

theorem isMatch_nil : isMatch [] s = true ↔ s = [] :=
  List.isEmpty_iff

/-- A star is matched by any beginning of what is left. -/
theorem isMatch_star : isMatch ('*' :: p) s = true ↔ ∃ t, t <:+ s ∧ isMatch p t = true := by
  show s.tails.any (isMatch p) = true ↔ _
  rw [List.any_eq_true]
  exact exists_congr fun t ↦ and_congr_left' (List.mem_tails t s)

theorem isMatch_cons (hc : c ≠ '*') :
    isMatch (c :: p) s = true ↔ ∃ t, s = c :: t ∧ isMatch p t = true := by
  cases s with
  | nil => simp [isMatch, hc]
  | cons d s =>
    show (if c = '*' then _ else decide (c = d) && isMatch p s) = true ↔ _
    rw [if_neg hc, Bool.and_eq_true, decide_eq_true_iff]
    constructor
    · rintro ⟨rfl, hmatch⟩
      exact ⟨s, rfl, hmatch⟩
    · rintro ⟨t, heq, hmatch⟩
      obtain ⟨rfl, rfl⟩ := List.cons.inj heq
      exact ⟨rfl, hmatch⟩

/-- A literal beginning is matched by itself. -/
theorem isMatch_append (hliteral : '*' ∉ literal) :
    isMatch (literal ++ p) s = true ↔ ∃ t, s = literal ++ t ∧ isMatch p t = true := by
  induction literal generalizing s with
  | nil => simp
  | cons c literal ih =>
    obtain ⟨hc, hrest⟩ := List.ne_and_not_mem_of_not_mem_cons hliteral
    rw [List.cons_append, isMatch_cons hc.symm]
    constructor
    · rintro ⟨u, rfl, hmatch⟩
      obtain ⟨t, rfl, htail⟩ := (ih hrest).1 hmatch
      exact ⟨t, rfl, htail⟩
    · rintro ⟨t, rfl, hmatch⟩
      have htail : isMatch (literal ++ p) (literal ++ t) = true := (ih hrest).2 ⟨t, rfl, hmatch⟩
      exact ⟨literal ++ t, rfl, htail⟩

/-- A pattern without a star is matched by itself alone. -/
theorem isMatch_literal (hliteral : '*' ∉ literal) : isMatch literal s = true ↔ s = literal := by
  have happend := isMatch_append (p := []) (s := s) hliteral
  rw [List.append_nil] at happend
  rw [happend]
  constructor
  · rintro ⟨t, rfl, hmatch⟩
    rw [isMatch_nil.1 hmatch, List.append_nil]
  · rintro rfl
    exact ⟨[], (List.append_nil _).symm, isMatch_nil.2 rfl⟩

/-- A star at the end is matched by anything. -/
theorem isMatch_star_end : isMatch ['*'] s = true :=
  isMatch_star.2 ⟨[], List.nil_suffix, isMatch_nil.2 rfl⟩

/-- `literal*` is matched by the texts that begin with the literal. -/
theorem isMatch_beginning (hliteral : '*' ∉ literal) :
    isMatch (literal ++ ['*']) s = true ↔ literal <+: s := by
  rw [isMatch_append hliteral]
  constructor
  · rintro ⟨t, rfl, -⟩
    exact List.prefix_append literal t
  · rintro ⟨t, rfl⟩
    exact ⟨t, rfl, isMatch_star_end⟩

/-- `literal*later*` is matched by the texts that begin with the literal and go on, anywhere, with
the later one. -/
theorem isMatch_within (hliteral : '*' ∉ literal) (hlater : '*' ∉ later) :
    isMatch (literal ++ '*' :: (later ++ ['*'])) s = true ↔
    ∃ t, s = literal ++ t ∧ later <:+: t := by
  rw [isMatch_append hliteral]
  refine exists_congr fun t ↦ and_congr_right fun _ ↦ ?_
  rw [isMatch_star]
  constructor
  · rintro ⟨u, hsuffix, hmatch⟩
    exact ((isMatch_beginning hlater).1 hmatch).isInfix.trans hsuffix.isInfix
  · intro hoccurs
    obtain ⟨u, hbegins, hsuffix⟩ := List.infix_iff_prefix_suffix.1 hoccurs
    exact ⟨u, hsuffix, (isMatch_beginning hlater).2 hbegins⟩

end Glob
