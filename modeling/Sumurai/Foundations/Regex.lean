import Mathlib.Data.List.Count
import Mathlib.Data.List.Forall2

/-!
# Regular expressions that are searched for

The regular expressions of a programming language, as far as runs of characters, groups, boundaries
of words and alternatives go. A matcher that backtracks tries the ways in which an expression can
match at a place in a fixed order (`Regex.ways`) and takes the first one. A search goes through the
text from the left and goes on where a match ends (`Regex.scan`); from it come the texts that are
found (`Regex.findAll`) and the text with all of them replaced (`Regex.replaceAll`).

A replacement changes none of the characters that the expression does not read
(`Regex.count_replaceAll`). A search finds only what matches (`Regex.exists_of_mem_findAll`), and it
finds everything that does if no match starts within another one (`Regex.mem_findAll`).
-/

/-- A regular expression. -/
inductive Regex (α : Type*) where
  /-- Matches the empty text. -/
  | empty
  /-- A greedy run of characters of a class, with the least and the greatest number of them. -/
  | run (p : α → Bool) (least : ℕ) (most : Option ℕ)
  /-- Between a character of a word and one that is of none, or an end of the text. -/
  | boundary (isWord : α → Bool)
  /-- A match of the expression is also the text of a group. -/
  | group (r : Regex α)
  | seq (r r' : Regex α)
  /-- The second expression is tried after the first one. -/
  | alt (r r' : Regex α)

namespace Regex

/-- A match: its text and the texts of the groups. -/
@[ext]
structure Match (α : Type*) where
  text : List α
  groups : List (List α)
deriving DecidableEq, Repr

variable {α : Type*}

/-- One character of a class. -/
def char (p : α → Bool) : Regex α :=
  .run p 1 (some 1)

/-- One character after the other, each of its class. -/
def chars : List (α → Bool) → Regex α
  | [] => .empty
  | p :: ps => .seq (char p) (chars ps)

/-- Expressions one after the other. -/
def seqs : List (Regex α) → Regex α
  | [] => .empty
  | r :: rs => .seq r (seqs rs)

/-- The first of the expressions that matches. -/
def alts : List (Regex α) → Regex α
  | [] => char fun _ ↦ false
  | r :: rs => .alt r (alts rs)

/-- How many characters a run can have. -/
def runLength (p : α → Bool) (most : Option ℕ) (s : List α) : ℕ :=
  match most with
  | some n => min n (s.takeWhile p).length
  | none => (s.takeWhile p).length

/-- The ways in which an expression matches at a place, in the order in which they are tried.
`prev` is the character before the place. -/
def ways : Regex α → Option α → List α → List (Match α)
  | empty, _, _ => [⟨[], []⟩]
  | run p least most, _, s =>
    ((List.range (runLength p most s + 1)).reverse.filter fun n ↦ least ≤ n).map
      fun n ↦ ⟨s.take n, []⟩
  | boundary isWord, prev, s =>
    if prev.any isWord = s.head?.any isWord then [] else [⟨[], []⟩]
  | group r, prev, s => (ways r prev s).map fun m ↦ ⟨m.text, m.text :: m.groups⟩
  | seq r r', prev, s =>
    (ways r prev s).flatMap fun m ↦
      (ways r' (m.text.getLast?.or prev) (s.drop m.text.length)).map fun m' ↦
        ⟨m.text ++ m'.text, m.groups ++ m'.groups⟩
  | alt r r', prev, s => ways r prev s ++ ways r' prev s

/-- The match at a place. -/
def first (r : Regex α) (prev : Option α) (s : List α) : Option (Match α) :=
  (r.ways prev s).head?

/-- The search through a text: what is passed over, character by character, and the matches. The
first `skip` characters belong to the last match. -/
def scan (r : Regex α) : Option α → ℕ → List α → List (α ⊕ Match α)
  | prev, 0, [] => (r.first prev []).toList.map .inr
  | _, _ + 1, [] => []
  | _, skip + 1, c :: s => scan r (some c) skip s
  | prev, 0, c :: s =>
    match r.first prev (c :: s) with
    | none => .inl c :: scan r (some c) 0 s
    | some m =>
      .inr m :: match m.text.length with
        | 0 => .inl c :: scan r (some c) 0 s
        | skip + 1 => scan r (some c) skip s

/-- The matches that a search finds. -/
def findAll (r : Regex α) (s : List α) : List (Match α) :=
  (r.scan none 0 s).filterMap Sum.getRight?

/-- The text with all matches replaced. -/
def replaceAll (r : Regex α) (replacement s : List α) : List α :=
  (r.scan none 0 s).flatMap fun
    | .inl c => [c]
    | .inr _ => replacement

/-! ### The ways to match -/

section Ways

variable {r r' : Regex α} {prev : Option α} {s : List α} {m : Match α} {p : α → Bool}

@[simp]
theorem mem_ways_empty : m ∈ (empty : Regex α).ways prev s ↔ m = ⟨[], []⟩ :=
  List.mem_singleton

theorem le_length_takeWhile_iff {n : ℕ} :
    n ≤ (s.takeWhile p).length ↔ n ≤ s.length ∧ ∀ c ∈ s.take n, p c = true := by
  induction s generalizing n with
  | nil => simp
  | cons c s ih =>
    cases n with
    | zero => simp
    | succ n =>
      cases hc : p c with
      | false => simp [hc]
      | true =>
        rw [List.takeWhile_cons_of_pos hc, List.length_cons, Nat.add_le_add_iff_right, ih]
        simp [hc]

theorem le_runLength_iff {n : ℕ} {most : Option ℕ} : n ≤ runLength p most s ↔
    (n ≤ s.length ∧ ∀ c ∈ s.take n, p c = true) ∧ ∀ k ∈ most, n ≤ k := by
  rw [← le_length_takeWhile_iff]
  cases most with
  | none => simp [runLength]
  | some k => simp [runLength, Nat.le_min, and_comm]

/-- A run is a beginning of the text with characters of the class. -/
theorem mem_ways_run {least : ℕ} {most : Option ℕ} : m ∈ (run p least most).ways prev s ↔
    m.groups = [] ∧ m.text <+: s ∧ (∀ c ∈ m.text, p c = true) ∧ least ≤ m.text.length ∧
      ∀ n ∈ most, m.text.length ≤ n := by
  have hmem : m ∈ (run p least most).ways prev s ↔
      ∃ n, (n ≤ runLength p most s ∧ least ≤ n) ∧ (⟨s.take n, []⟩ : Match α) = m := by
    simp only [ways, List.mem_map, List.mem_filter, List.mem_reverse, List.mem_range,
      decide_eq_true_eq, Nat.lt_succ_iff]
  rw [hmem]
  constructor
  · rintro ⟨n, ⟨hn, hleast⟩, rfl⟩
    obtain ⟨⟨hle, hall⟩, hmost⟩ := le_runLength_iff.1 hn
    have hlength : (s.take n).length = n := List.length_take_of_le hle
    exact ⟨rfl, List.take_prefix n s, hall, hlength.symm ▸ hleast,
      fun k hk ↦ hlength.symm ▸ hmost k hk⟩
  · rintro ⟨hgroups, ⟨after, rfl⟩, hall, hleast, hmost⟩
    have htake : (m.text ++ after).take m.text.length = m.text := List.take_left
    refine ⟨m.text.length, ⟨le_runLength_iff.2 ⟨⟨?_, htake.symm ▸ hall⟩, hmost⟩, hleast⟩, ?_⟩
    · rw [List.length_append]
      omega
    · rw [htake]
      exact Match.ext rfl hgroups.symm

@[simp]
theorem mem_ways_boundary {isWord : α → Bool} : m ∈ (boundary isWord).ways prev s ↔
    prev.any isWord ≠ s.head?.any isWord ∧ m = ⟨[], []⟩ := by
  rw [ways]
  split
  · rename_i heq
    simp [heq]
  · rename_i hne
    simp [hne]

@[simp]
theorem mem_ways_group : m ∈ (group r).ways prev s ↔
    ∃ m' ∈ r.ways prev s, (⟨m'.text, m'.text :: m'.groups⟩ : Match α) = m :=
  List.mem_map

@[simp]
theorem mem_ways_alt : m ∈ (alt r r').ways prev s ↔ m ∈ r.ways prev s ∨ m ∈ r'.ways prev s :=
  List.mem_append

/-- A match is of a beginning of the text. -/
theorem prefix_of_mem_ways (h : m ∈ r.ways prev s) : m.text <+: s := by
  induction r generalizing prev s m with
  | empty =>
    rw [mem_ways_empty.1 h]
    exact List.nil_prefix
  | run p least most => exact (mem_ways_run.1 h).2.1
  | boundary isWord =>
    rw [(mem_ways_boundary.1 h).2]
    exact List.nil_prefix
  | group r ih =>
    obtain ⟨m', hm', rfl⟩ := mem_ways_group.1 h
    show m'.text <+: s
    exact ih hm'
  | seq r r' ih ih' =>
    obtain ⟨m₁, hm₁, hm⟩ := List.mem_flatMap.1 h
    obtain ⟨m₂, hm₂, rfl⟩ := List.mem_map.1 hm
    obtain ⟨after, rfl⟩ := ih hm₁
    rw [List.drop_left] at hm₂
    exact (List.prefix_append_right_inj m₁.text).2 (ih' hm₂)
  | alt r r' ih ih' =>
    obtain h | h := mem_ways_alt.1 h
    · exact ih h
    · exact ih' h

/-- A match of two expressions is one of the first, and one of the second where it ends. -/
theorem mem_ways_seq : m ∈ (seq r r').ways prev s ↔
    ∃ m₁ m₂ : Match α, ∃ after, s = m₁.text ++ after ∧ m₁ ∈ r.ways prev s ∧
      m₂ ∈ r'.ways (m₁.text.getLast?.or prev) after ∧
      m = ⟨m₁.text ++ m₂.text, m₁.groups ++ m₂.groups⟩ := by
  rw [ways, List.mem_flatMap]
  constructor
  · rintro ⟨m₁, hm₁, hm⟩
    obtain ⟨m₂, hm₂, rfl⟩ := List.mem_map.1 hm
    obtain ⟨after, rfl⟩ := prefix_of_mem_ways hm₁
    rw [List.drop_left] at hm₂
    exact ⟨m₁, m₂, after, rfl, hm₁, hm₂, rfl⟩
  · rintro ⟨m₁, m₂, after, rfl, hm₁, hm₂, rfl⟩
    refine ⟨m₁, hm₁, List.mem_map.2 ⟨m₂, ?_, rfl⟩⟩
    rw [List.drop_left]
    exact hm₂

/-! ### Languages -/

/-- The texts that an expression matches, wherever they stand. -/
def Lang : Regex α → List α → Prop
  | empty, t => t = []
  | run p least most, t =>
    (∀ c ∈ t, p c = true) ∧ least ≤ t.length ∧ ∀ n ∈ most, t.length ≤ n
  | boundary _, t => t = []
  | group r, t => Lang r t
  | seq r r', t => ∃ t₁ t₂, t = t₁ ++ t₂ ∧ Lang r t₁ ∧ Lang r' t₂
  | alt r r', t => Lang r t ∨ Lang r' t

/-- An expression without groups and boundaries. -/
def IsPlain : Regex α → Prop
  | empty => True
  | run _ _ _ => True
  | boundary _ => False
  | group _ => False
  | seq r r' => IsPlain r ∧ IsPlain r'
  | alt r r' => IsPlain r ∧ IsPlain r'

/-- Without groups and boundaries an expression matches the beginnings that are in its language. -/
theorem IsPlain.mem_ways_iff (hr : r.IsPlain) :
    m ∈ r.ways prev s ↔ m.groups = [] ∧ m.text <+: s ∧ r.Lang m.text := by
  induction r generalizing prev s m with
  | empty =>
    rw [mem_ways_empty]
    constructor
    · rintro rfl
      exact ⟨rfl, List.nil_prefix, rfl⟩
    · rintro ⟨hgroups, -, htext⟩
      exact Match.ext htext hgroups
  | run p least most => exact mem_ways_run
  | boundary isWord => exact hr.elim
  | group r ih => exact hr.elim
  | seq r r' ih ih' =>
    rw [mem_ways_seq]
    constructor
    · rintro ⟨m₁, m₂, after, rfl, h₁, h₂, rfl⟩
      obtain ⟨hgroups₁, -, hlang₁⟩ := (ih hr.1).1 h₁
      obtain ⟨hgroups₂, hprefix, hlang₂⟩ := (ih' hr.2).1 h₂
      exact ⟨by rw [hgroups₁, hgroups₂]; rfl, (List.prefix_append_right_inj m₁.text).2 hprefix,
        m₁.text, m₂.text, rfl, hlang₁, hlang₂⟩
    · rintro ⟨hgroups, ⟨after, rfl⟩, t₁, t₂, htext, hlang₁, hlang₂⟩
      rw [htext, List.append_assoc]
      exact ⟨⟨t₁, []⟩, ⟨t₂, []⟩, t₂ ++ after, rfl,
        (ih hr.1).2 ⟨rfl, List.prefix_append _ _, hlang₁⟩,
        (ih' hr.2).2 ⟨rfl, List.prefix_append _ _, hlang₂⟩, Match.ext htext hgroups⟩
  | alt r r' ih ih' =>
    rw [mem_ways_alt, ih hr.1, ih' hr.2]
    show _ ↔ _ ∧ _ ∧ (r.Lang m.text ∨ r'.Lang m.text)
    rw [and_or_left, and_or_left]

theorem IsPlain.mem_ways_group_iff (hr : r.IsPlain) : m ∈ (group r).ways prev s ↔
    m.groups = [m.text] ∧ m.text <+: s ∧ r.Lang m.text := by
  rw [mem_ways_group]
  constructor
  · rintro ⟨m', hm', rfl⟩
    obtain ⟨hgroups, hprefix, hlang⟩ := hr.mem_ways_iff.1 hm'
    exact ⟨by rw [hgroups], hprefix, hlang⟩
  · rintro ⟨hgroups, hprefix, hlang⟩
    exact ⟨⟨m.text, []⟩, hr.mem_ways_iff.2 ⟨rfl, hprefix, hlang⟩, Match.ext rfl hgroups.symm⟩

theorem lang_char {p : α → Bool} {t : List α} : (char p).Lang t ↔ ∃ c, t = [c] ∧ p c = true := by
  constructor
  · rintro ⟨hall, hleast, hmost⟩
    obtain ⟨c, rfl⟩ := List.length_eq_one_iff.1 (Nat.le_antisymm (hmost 1 rfl) hleast)
    exact ⟨c, rfl, hall c (List.mem_singleton_self c)⟩
  · rintro ⟨c, rfl, hc⟩
    refine ⟨fun d hd ↦ List.mem_singleton.1 hd ▸ hc, Nat.le_refl 1, ?_⟩
    exact fun n hn ↦ Nat.le_of_eq (Option.some.inj hn)

theorem lang_chars {ps : List (α → Bool)} {t : List α} :
    (chars ps).Lang t ↔ List.Forall₂ (fun p c ↦ p c = true) ps t := by
  induction ps generalizing t with
  | nil => exact List.forall₂_nil_left_iff.symm
  | cons p ps ih =>
    show (∃ t₁ t₂, t = t₁ ++ t₂ ∧ (char p).Lang t₁ ∧ (chars ps).Lang t₂) ↔ _
    simp only [lang_char, ih, List.forall₂_cons_left_iff]
    constructor
    · rintro ⟨-, t₂, rfl, ⟨c, rfl, hc⟩, hps⟩
      exact ⟨c, t₂, hc, hps, rfl⟩
    · rintro ⟨c, t₂, hc, hps, rfl⟩
      exact ⟨[c], t₂, rfl, ⟨c, rfl, hc⟩, hps⟩

theorem lang_alts {rs : List (Regex α)} {t : List α} : (alts rs).Lang t ↔ ∃ r ∈ rs, r.Lang t := by
  induction rs with
  | nil => simp [alts, lang_char]
  | cons r rs ih =>
    show r.Lang t ∨ (alts rs).Lang t ↔ _
    rw [ih, List.exists_mem_cons_iff]

theorem isPlain_chars (ps : List (α → Bool)) : (chars ps).IsPlain := by
  induction ps with
  | nil => trivial
  | cons p ps ih => exact ⟨trivial, ih⟩

theorem isPlain_alts {rs : List (Regex α)} (h : ∀ r ∈ rs, r.IsPlain) : (alts rs).IsPlain := by
  induction rs with
  | nil => trivial
  | cons r rs ih =>
    obtain ⟨hr, hrs⟩ := List.forall_mem_cons.1 h
    exact ⟨hr, ih hrs⟩

/-! ### The characters that are read -/

/-- Whether a character is of one of the classes of an expression. -/
def reads : Regex α → α → Bool
  | empty, _ => false
  | run p _ _, c => p c
  | boundary _, _ => false
  | group r, c => reads r c
  | seq r r', c => reads r c || reads r' c
  | alt r r', c => reads r c || reads r' c

theorem reads_of_mem_ways (h : m ∈ r.ways prev s) {c : α} (hc : c ∈ m.text) : r.reads c = true := by
  induction r generalizing prev s m with
  | empty =>
    rw [mem_ways_empty.1 h] at hc
    exact absurd hc List.not_mem_nil
  | run p least most => exact (mem_ways_run.1 h).2.2.1 c hc
  | boundary isWord =>
    rw [(mem_ways_boundary.1 h).2] at hc
    exact absurd hc List.not_mem_nil
  | group r ih =>
    obtain ⟨m', hm', rfl⟩ := mem_ways_group.1 h
    exact ih hm' hc
  | seq r r' ih ih' =>
    obtain ⟨m₁, m₂, after, -, hm₁, hm₂, rfl⟩ := mem_ways_seq.1 h
    obtain hc | hc := List.mem_append.1 hc
    · exact Bool.or_eq_true_iff.2 (.inl (ih hm₁ hc))
    · exact Bool.or_eq_true_iff.2 (.inr (ih' hm₂ hc))
  | alt r r' ih ih' =>
    obtain h | h := mem_ways_alt.1 h
    · exact Bool.or_eq_true_iff.2 (.inl (ih h hc))
    · exact Bool.or_eq_true_iff.2 (.inr (ih' h hc))

end Ways

/-! ### The search -/

section Scan

variable {r : Regex α} {prev : Option α} {s before after : List α} {m : Match α}

theorem exists_first (h : m ∈ r.ways prev s) : ∃ m', r.first prev s = some m' := by
  obtain ⟨m', later, hways⟩ := List.exists_cons_of_ne_nil (List.ne_nil_of_mem h)
  exact ⟨m', by rw [first, hways]; rfl⟩

theorem mem_ways_of_first (h : r.first prev s = some m) : m ∈ r.ways prev s :=
  List.mem_of_mem_head? h

/-- The match at a place, after `before` of the text. -/
def FirstAt (r : Regex α) (prev : Option α) (before after : List α) (m : Match α) : Prop :=
  r.first (before.getLast?.or prev) after = some m

theorem firstAt_cons {c : α} : r.FirstAt prev (c :: before) after m ↔
    r.FirstAt (some c) before after m := by
  unfold FirstAt
  cases before with
  | nil => rfl
  | cons d before =>
    rw [List.getLast?_cons_cons, List.getLast?_cons, Option.some_or, Option.some_or]

/-- What is found in the rest of a text matches at its place. -/
theorem exists_of_mem_scan {skip : ℕ} (h : .inr m ∈ r.scan prev skip s) :
    ∃ before after, s = before ++ after ∧ r.FirstAt prev before after m := by
  induction s generalizing prev skip with
  | nil =>
    cases skip with
    | zero =>
      rw [scan] at h
      obtain ⟨m', hm', heq⟩ := List.mem_map.1 h
      obtain rfl := Sum.inr.inj heq
      exact ⟨[], [], rfl, Option.mem_toList.1 hm'⟩
    | succ skip =>
      rw [scan] at h
      exact absurd h List.not_mem_nil
  | cons c s ih =>
    have hlater {skip : ℕ} (h : .inr m ∈ r.scan (some c) skip s) :
        ∃ before after, c :: s = before ++ after ∧ r.FirstAt prev before after m := by
      obtain ⟨before, after, rfl, hat⟩ := ih h
      exact ⟨c :: before, after, rfl, firstAt_cons.2 hat⟩
    cases skip with
    | succ skip =>
      rw [scan] at h
      exact hlater h
    | zero =>
      rw [scan] at h
      split at h
      · exact hlater ((List.mem_cons.1 h).resolve_left Sum.inr_ne_inl)
      · rename_i m' hfirst
        obtain heq | h := List.mem_cons.1 h
        · obtain rfl := Sum.inr.inj heq
          exact ⟨[], c :: s, rfl, hfirst⟩
        · split at h
          · exact hlater ((List.mem_cons.1 h).resolve_left Sum.inr_ne_inl)
          · exact hlater h

/-- No match of an expression starts within another one. -/
def Apart (r : Regex α) : Prop :=
  ∀ ⦃prev prev' : Option α⦄ ⦃before rest after : List α⦄ ⦃m m' : Match α⦄, before ≠ [] → rest ≠ [] →
    m ∈ r.ways prev (before ++ rest ++ after) → m.text = before ++ rest →
      m' ∉ r.ways prev' (rest ++ after)

/-- A match that is not within the one before is found. -/
theorem mem_scan (hapart : r.Apart) {skip : ℕ} (hskip : skip ≤ before.length)
    (hat : r.FirstAt prev before after m) (hne : after ≠ []) :
    .inr m ∈ r.scan prev skip (before ++ after) := by
  induction before generalizing prev skip with
  | nil =>
    obtain rfl := Nat.le_zero.1 hskip
    obtain ⟨c, after, rfl⟩ := List.exists_cons_of_ne_nil hne
    have hfirst : r.first prev (c :: after) = some m := hat
    rw [List.nil_append, scan, hfirst]
    exact List.mem_cons_self
  | cons c before ih =>
    have hlater := firstAt_cons.1 hat
    rw [List.cons_append]
    cases skip with
    | succ skip =>
      rw [scan]
      exact ih (Nat.le_of_succ_le_succ hskip) hlater
    | zero =>
      rw [scan]
      split
      · exact List.mem_cons_of_mem _ (ih (Nat.zero_le _) hlater)
      · rename_i m' hfirst
        refine List.mem_cons_of_mem _ ?_
        split
        · exact List.mem_cons_of_mem _ (ih (Nat.zero_le _) hlater)
        · rename_i skip hlength
          refine ih ?_ hlater
          -- otherwise the match would start within the one that is found here
          by_contra hlt
          have hways := mem_ways_of_first hfirst
          have hprefix := prefix_of_mem_ways hways
          rw [← List.cons_append] at hprefix
          obtain ⟨rest, hrest⟩ : c :: before <+: m'.text :=
            List.prefix_of_prefix_length_le (List.prefix_append _ _) hprefix
              (by rw [List.length_cons]; omega)
          rw [← hrest] at hprefix
          obtain ⟨tail, rfl⟩ := (List.prefix_append_right_inj (c :: before)).1 hprefix
          have hne' : rest ≠ [] := by
            rintro rfl
            rw [List.append_nil] at hrest
            rw [← hrest, List.length_cons] at hlength
            omega
          rw [← List.cons_append, ← List.append_assoc] at hways
          exact hapart (List.cons_ne_nil c before) hne' hways hrest.symm (mem_ways_of_first hat)

/-- A search finds matches only. -/
theorem exists_of_mem_findAll (h : m ∈ r.findAll s) :
    ∃ before after, s = before ++ after ∧ r.FirstAt none before after m := by
  obtain ⟨x, hx, hm⟩ := List.mem_filterMap.1 h
  obtain rfl := Sum.getRight?_eq_some_iff.1 hm
  exact exists_of_mem_scan hx

/-- **A search finds every match** if none starts within another one. -/
theorem mem_findAll (hapart : r.Apart) (hat : r.FirstAt none before after m) (hne : after ≠ []) :
    m ∈ r.findAll (before ++ after) :=
  List.mem_filterMap.2 ⟨.inr m, mem_scan hapart (Nat.zero_le _) hat hne, rfl⟩

/-! ### Replacements -/

section Count

variable [DecidableEq α] {c : α} {replacement : List α}

theorem count_scan (hreads : r.reads c = false) (hreplacement : c ∉ replacement) (skip : ℕ) :
    ((r.scan prev skip s).flatMap fun
      | .inl d => [d]
      | .inr _ => replacement).count c = (s.drop skip).count c := by
  have hzero : replacement.count c = 0 := List.count_eq_zero.2 hreplacement
  induction s generalizing prev skip with
  | nil =>
    cases skip with
    | zero =>
      rw [scan]
      cases r.first prev [] with
      | none => rfl
      | some m => simpa using hzero
    | succ skip => rfl
  | cons d s ih =>
    cases skip with
    | succ skip =>
      rw [scan, List.drop_succ_cons]
      exact ih skip
    | zero =>
      have hpass : (Sum.inl d :: r.scan (some d) 0 s).flatMap (fun
          | .inl e => [e]
          | .inr _ => replacement) = d :: (r.scan (some d) 0 s).flatMap fun
          | .inl e => [e]
          | .inr _ => replacement := rfl
      rw [scan]
      split
      · rw [hpass, List.count_cons, ih 0]
        exact List.count_cons.symm
      · rename_i m hfirst
        rw [List.flatMap_cons, List.count_append, hzero, Nat.zero_add]
        split
        · rw [hpass, List.count_cons, ih 0]
          exact List.count_cons.symm
        · rename_i skip hlength
          have hways := mem_ways_of_first hfirst
          obtain ⟨after, hafter⟩ := prefix_of_mem_ways hways
          have hnone : m.text.count c = 0 := List.count_eq_zero.2 fun hc ↦
            absurd (reads_of_mem_ways hways hc) (by rw [hreads]; exact Bool.false_ne_true)
          have hdrop : s.drop skip = after := by
            calc s.drop skip = (d :: s).drop m.text.length := by rw [hlength, List.drop_succ_cons]
              _ = after := by rw [← hafter, List.drop_left]
          rw [ih skip, hdrop, List.drop_zero, ← hafter, List.count_append, hnone, Nat.zero_add]

/-- A replacement keeps the characters that the expression does not read. -/
theorem count_replaceAll (hreads : r.reads c = false) (hreplacement : c ∉ replacement) :
    (r.replaceAll replacement s).count c = s.count c :=
  count_scan hreads hreplacement 0

end Count

end Scan

end Regex
