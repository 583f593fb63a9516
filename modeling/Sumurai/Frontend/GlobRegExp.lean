import Sumurai.Foundations.CaseMapping
import Sumurai.Foundations.Wildcards

/-!
# Rule patterns as regular expressions

`matchGlob` of `useTransactions.ts`: the pattern of a category rule is escaped, its wildcards are
replaced by what they are in a regular expression, and the expression is tested on the name of the
merchant, with the flag `i` and no other.

A string is its UTF-16 code units here, as it is for such an expression. Of the regular expressions
there are those that the escaping writes: anchors, single units, the dot, and an atom repeated. An
expression with anything else is not read (`RegExp.parse`), and no pattern has one
(`parse_source`). What a pattern matches is a match of its units (`matchGlob_iff`), and as a rule
one of its characters (`unitsMatch_iff`): a character outside of the basic plane is two units, which
fit those of no other character, but a question mark takes one unit.
-/

namespace Sumurai.Frontend

open Wildcard

/-! ### Code units -/

/-- The UTF-16 code units of a character. -/
def codeUnits (c : Char) : List ℕ :=
  if c.toNat < 0x10000 then [c.toNat]
  else [0xD800 + (c.toNat - 0x10000) / 0x400, 0xDC00 + (c.toNat - 0x10000) % 0x400]

/-- A string, as its code units. -/
def units (s : String) : List ℕ :=
  s.toList.flatMap codeUnits

/-- `Canonicalize`: without the flag `u`, a unit stands for its upper case if that is one unit, and
is not an ASCII one of another. -/
def canonicalize (M : CaseMapping) (u : ℕ) : ℕ :=
  if u.isValidChar then
    match (M.upper (Char.ofNat u)).flatMap codeUnits with
    | [v] => if 128 ≤ u ∧ v < 128 then u else v
    | _ => u
  else u

/-- `LineTerminator`. -/
def isLineTerminator (u : ℕ) : Bool :=
  u ∈ [0x0A, 0x0D, 0x2028, 0x2029]

/-! ### Regular expressions -/

namespace RegExp

/-- What takes one code unit. -/
inductive Atom where
  | dot
  | char (u : ℕ)
deriving DecidableEq, Repr

/-- A term of an expression. -/
inductive Node where
  | start
  | finish
  | one (a : Atom)
  | many (a : Atom)
deriving DecidableEq, Repr

/-- A token of the source of an expression. -/
inductive Token where
  | caret
  | dollar
  | star
  | atom (a : Atom)
deriving DecidableEq, Repr

/-- `SyntaxCharacter`. -/
def syntaxCharacters : List ℕ :=
  ['^', '$', '\\', '.', '*', '+', '?', '(', ')', '[', ']', '\x7b', '\x7d', '|'].map Char.toNat

/-- A unit by itself. The other syntax characters are not read here. -/
def token (u : ℕ) : Option Token :=
  if u = '^'.toNat then some .caret
  else if u = '$'.toNat then some .dollar
  else if u = '*'.toNat then some .star
  else if u = '.'.toNat then some (.atom .dot)
  else if u ∈ syntaxCharacters then none
  else some (.atom (.char u))

/-- The tokens of a source. After a backslash a syntax character is itself. -/
def tokens : List ℕ → Option (List Token)
  | [] => some []
  | u :: s =>
    if u = '\\'.toNat then
      match s with
      | [] => none
      | v :: s => if v ∈ syntaxCharacters then (tokens s).map (.atom (.char v) :: ·) else none
    else (token u).bind fun t ↦ (tokens s).map (t :: ·)

/-- The terms of an expression. -/
def terms : List Token → Option (List Node)
  | [] => some []
  | .caret :: ts => (terms ts).map (.start :: ·)
  | .dollar :: ts => (terms ts).map (.finish :: ·)
  | .star :: _ => none
  | .atom a :: .star :: ts => (terms ts).map (.many a :: ·)
  | .atom a :: ts => (terms ts).map (.one a :: ·)

/-- `new RegExp`. -/
def parse (source : List ℕ) : Option (List Node) :=
  (tokens source).bind terms

variable (M : CaseMapping)

/-- `CharacterSetMatcher`. No line terminator has another case, so that a dot takes what is none. -/
def Atom.accepts : Atom → ℕ → Bool
  | .dot, u => !isLineTerminator u
  | .char v, u => canonicalize M v = canonicalize M u

/-- `RepeatMatcher`, of an atom that takes one unit. -/
def repeatMatcher (a : Atom) (rest : Bool → List ℕ → Bool) : Bool → List ℕ → Bool
  | atStart, [] => rest atStart []
  | atStart, u :: s => a.accepts M u && repeatMatcher a rest false s || rest atStart (u :: s)

/-- A term, and what is to follow it. The matcher is told whether it is at the start of the input,
and it is given what is left. -/
def Node.exec : Node → (Bool → List ℕ → Bool) → Bool → List ℕ → Bool
  | .start, rest, atStart, s => atStart && rest atStart s
  | .finish, rest, atStart, s => s.isEmpty && rest atStart s
  | .one a, rest, _, u :: s => a.accepts M u && rest false s
  | .one _, _, _, [] => false
  | .many a, rest, atStart, s => repeatMatcher M a rest atStart s

/-- All terms, one after the other. -/
def exec (nodes : List Node) : Bool → List ℕ → Bool :=
  nodes.foldr (Node.exec M) fun _ _ ↦ true

/-- `test`: the expression matches at the start, or later. -/
def test (nodes : List Node) (text : List ℕ) : Bool :=
  exec M nodes true text || text.tails.tail.any (exec M nodes false)

end RegExp

/-! ### `matchGlob` -/

/-- `replace`, of every unit of a kind. -/
def replaceUnits (kind : List ℕ) (by' : ℕ → List ℕ) (s : List ℕ) : List ℕ :=
  s.flatMap fun u ↦ if u ∈ kind then by' u else [u]

/-- `[.+^${}()|[\]\\]`. -/
def escapedCharacters : List ℕ :=
  ['.', '+', '^', '$', '\x7b', '\x7d', '(', ')', '|', '[', ']', '\\'].map Char.toNat

/-- `escaped`. -/
def escaped (pattern : List ℕ) : List ℕ :=
  replaceUnits ['?'.toNat] (fun _ ↦ ['.'.toNat])
    (replaceUnits ['*'.toNat] (fun _ ↦ ['.'.toNat, '*'.toNat])
      (replaceUnits escapedCharacters (fun u ↦ ['\\'.toNat, u]) pattern))

/-- What `new RegExp` is given. -/
def source (pattern : List ℕ) : List ℕ :=
  '^'.toNat :: (escaped pattern ++ ['$'.toNat])

/-- `matchGlob`. There is no result if `new RegExp` throws. -/
def matchGlob (M : CaseMapping) (pattern text : String) : Option Bool :=
  if pattern = "" ∨ text = "" then some false
  else (RegExp.parse (source (units pattern))).map fun nodes ↦ RegExp.test M nodes (units text)

/-! ### The terms of a pattern -/

/-- The item of a pattern that a character stands for, or a unit. -/
def globItem {τ : Type*} (code : τ → ℕ) (x : τ) : Item τ :=
  if code x = '*'.toNat then .star else if code x = '?'.toNat then .any else .lit x

/-- The tokens of an item. -/
def itemTokens : Item ℕ → List RegExp.Token
  | .star => [.atom .dot, .star]
  | .any => [.atom .dot]
  | .lit u => [.atom (.char u)]

/-- The term of an item. -/
def itemNode : Item ℕ → RegExp.Node
  | .star => .many .dot
  | .any => .one .dot
  | .lit u => .one (.char u)

theorem replaceUnits_append (kind : List ℕ) (by' : ℕ → List ℕ) (s t : List ℕ) :
    replaceUnits kind by' (s ++ t) = replaceUnits kind by' s ++ replaceUnits kind by' t :=
  List.flatMap_append

theorem escaped_append (s t : List ℕ) : escaped (s ++ t) = escaped s ++ escaped t := by
  rw [escaped, replaceUnits_append, replaceUnits_append, replaceUnits_append]
  rfl

theorem mem_syntaxCharacters {u : ℕ} : u ∈ RegExp.syntaxCharacters ↔
    u = '*'.toNat ∨ u = '?'.toNat ∨ u ∈ escapedCharacters := by
  have hall : RegExp.syntaxCharacters.Perm ('*'.toNat :: '?'.toNat :: escapedCharacters) := by
    decide
  rw [hall.mem_iff, List.mem_cons, List.mem_cons]

theorem tokens_backslash {v : ℕ} (hv : v ∈ RegExp.syntaxCharacters) (s : List ℕ) :
    RegExp.tokens ('\\'.toNat :: v :: s) =
      (RegExp.tokens s).map (RegExp.Token.atom (.char v) :: ·) := by
  rw [RegExp.tokens, if_pos rfl]
  exact if_pos hv

theorem tokens_cons {u : ℕ} {t : RegExp.Token} (hu : u ≠ '\\'.toNat) (ht : RegExp.token u = some t)
    (s : List ℕ) : RegExp.tokens (u :: s) = (RegExp.tokens s).map (t :: ·) := by
  rw [RegExp.tokens.eq_def]
  show (if u = '\\'.toNat then _ else (RegExp.token u).bind _) = _
  rw [if_neg hu, ht]
  rfl

section Items

variable {τ : Type*} {code : τ → ℕ} {x : τ} {l : List τ}

theorem globItem_star (h : code x = '*'.toNat) : globItem code x = .star :=
  if_pos h

theorem globItem_any (h : code x = '?'.toNat) : globItem code x = .any := by
  rw [globItem, if_neg (by rw [h]; decide), if_pos h]

theorem globItem_lit (hstar : code x ≠ '*'.toNat) (hany : code x ≠ '?'.toNat) :
    globItem code x = .lit x := by
  rw [globItem, if_neg hstar, if_neg hany]

theorem globItem_cases (code : τ → ℕ) (x : τ) : (code x = '*'.toNat ∧ globItem code x = .star) ∨
    (code x = '?'.toNat ∧ globItem code x = .any) ∨
      code x ≠ '*'.toNat ∧ code x ≠ '?'.toNat ∧ globItem code x = .lit x := by
  by_cases hstar : code x = '*'.toNat
  · exact Or.inl ⟨hstar, globItem_star hstar⟩
  · by_cases hany : code x = '?'.toNat
    · exact Or.inr (Or.inl ⟨hany, globItem_any hany⟩)
    · exact Or.inr (Or.inr ⟨hstar, hany, globItem_lit hstar hany⟩)

theorem mem_map_globItem_star : .star ∈ l.map (globItem code) ↔ ∃ x ∈ l, code x = '*'.toNat := by
  rw [List.mem_map]
  refine exists_congr fun x ↦ and_congr_right fun _ ↦ ⟨fun h ↦ ?_, globItem_star⟩
  obtain ⟨hcode, -⟩ | ⟨-, hx⟩ | ⟨-, -, hx⟩ := globItem_cases code x
  · exact hcode
  · nomatch hx.symm.trans h
  · nomatch hx.symm.trans h

theorem mem_map_globItem_any : .any ∈ l.map (globItem code) ↔ ∃ x ∈ l, code x = '?'.toNat := by
  rw [List.mem_map]
  refine exists_congr fun x ↦ and_congr_right fun _ ↦ ⟨fun h ↦ ?_, globItem_any⟩
  obtain ⟨-, hx⟩ | ⟨hcode, -⟩ | ⟨-, -, hx⟩ := globItem_cases code x
  · nomatch hx.symm.trans h
  · exact hcode
  · nomatch hx.symm.trans h

theorem mem_map_globItem_lit :
    .lit x ∈ l.map (globItem code) ↔ x ∈ l ∧ code x ≠ '*'.toNat ∧ code x ≠ '?'.toNat := by
  rw [List.mem_map]
  constructor
  · rintro ⟨y, hy, h⟩
    obtain ⟨-, hx⟩ | ⟨-, hx⟩ | ⟨hstar, hany, hx⟩ := globItem_cases code y
    · nomatch hx.symm.trans h
    · nomatch hx.symm.trans h
    · cases hx.symm.trans h
      exact ⟨hy, hstar, hany⟩
  · rintro ⟨hx, hstar, hany⟩
    exact ⟨x, hx, globItem_lit hstar hany⟩

end Items

/-- A unit that is no syntax character is a token by itself. -/
theorem token_eq {u : ℕ} (h : u ∉ RegExp.syntaxCharacters) :
    RegExp.token u = some (.atom (.char u)) := by
  have hne : ∀ c ∈ RegExp.syntaxCharacters, u ≠ c := fun c hc heq ↦ h (heq ▸ hc)
  rw [RegExp.token, if_neg (hne _ (by decide)), if_neg (hne _ (by decide)),
    if_neg (hne _ (by decide)), if_neg (hne _ (by decide)), if_neg h]

theorem replaceUnits_singleton {kind : List ℕ} (by' : ℕ → List ℕ) {u : ℕ} (h : u ∈ kind) :
    replaceUnits kind by' [u] = by' u := by
  rw [replaceUnits, List.flatMap_singleton, if_pos h]

theorem replaceUnits_of_notMem {kind : List ℕ} (by' : ℕ → List ℕ) {s : List ℕ}
    (h : ∀ u ∈ s, u ∉ kind) : replaceUnits kind by' s = s := by
  induction s with
  | nil => rfl
  | cons u s ih =>
    show replaceUnits kind by' ([u] ++ s) = u :: s
    rw [replaceUnits_append, ih fun v hv ↦ h v (List.mem_cons_of_mem u hv), replaceUnits,
      List.flatMap_singleton, if_neg (h u List.mem_cons_self)]
    rfl

theorem escaped_singleton {u : ℕ} (hstar : u ≠ '*'.toNat) (hany : u ≠ '?'.toNat) :
    escaped [u] = if u ∈ escapedCharacters then ['\\'.toNat, u] else [u] := by
  have hkept : ∀ s : List ℕ, (∀ v ∈ s, v ≠ '*'.toNat ∧ v ≠ '?'.toNat) →
      replaceUnits ['?'.toNat] (fun _ ↦ ['.'.toNat])
        (replaceUnits ['*'.toNat] (fun _ ↦ ['.'.toNat, '*'.toNat]) s) = s := by
    intro s hs
    rw [replaceUnits_of_notMem _ fun v hv hmem ↦ (hs v hv).1 (List.mem_singleton.1 hmem),
      replaceUnits_of_notMem _ fun v hv hmem ↦ (hs v hv).2 (List.mem_singleton.1 hmem)]
  rw [escaped]
  split
  · rename_i hmem
    rw [replaceUnits_singleton _ hmem]
    refine hkept _ fun v hv ↦ ?_
    rcases List.mem_pair.1 hv with rfl | rfl
    · decide
    · exact ⟨hstar, hany⟩
  · rename_i hmem
    have hsame : replaceUnits escapedCharacters (fun u ↦ ['\\'.toNat, u]) [u] = [u] :=
      replaceUnits_of_notMem _ fun v hv ↦ List.mem_singleton.1 hv ▸ hmem
    rw [hsame]
    exact hkept _ fun v hv ↦ List.mem_singleton.1 hv ▸ ⟨hstar, hany⟩

/-- The escaping of a unit is read as the item that it stands for. -/
theorem tokens_escaped (u : ℕ) (s : List ℕ) : RegExp.tokens (escaped [u] ++ s) =
    (RegExp.tokens s).map (itemTokens (globItem id u) ++ ·) := by
  by_cases hstar : u = '*'.toNat
  · subst hstar
    show RegExp.tokens ('.'.toNat :: '*'.toNat :: s) = _
    rw [tokens_cons (by decide) rfl, tokens_cons (by decide) rfl, Option.map_map]
    rfl
  by_cases hany : u = '?'.toNat
  · subst hany
    exact tokens_cons (by decide) rfl s
  rw [escaped_singleton hstar hany, globItem_lit hstar hany]
  by_cases hmem : u ∈ escapedCharacters
  · rw [if_pos hmem]
    exact tokens_backslash (mem_syntaxCharacters.2 (Or.inr (Or.inr hmem))) s
  · have hsyntax : u ∉ RegExp.syntaxCharacters := by
      rw [mem_syntaxCharacters, not_or, not_or]
      exact ⟨hstar, hany, hmem⟩
    rw [if_neg hmem]
    refine tokens_cons (fun heq ↦ hsyntax ?_) (token_eq hsyntax) s
    rw [heq]
    decide

/-- A pattern is read as its items, and then as their terms. -/
theorem tokens_source (s : List ℕ) : RegExp.tokens (source s) =
    some (.caret :: ((s.map (globItem id)).flatMap itemTokens ++ [.dollar])) := by
  have hescaped : RegExp.tokens (escaped s ++ ['$'.toNat]) =
      some ((s.map (globItem id)).flatMap itemTokens ++ [.dollar]) := by
    induction s with
    | nil => rfl
    | cons u s ih =>
      show RegExp.tokens (escaped ([u] ++ s) ++ _) = _
      rw [escaped_append, List.append_assoc, tokens_escaped, ih, List.map_cons, List.flatMap_cons,
        List.append_assoc]
      rfl
  rw [source, tokens_cons (by decide) rfl, hescaped]
  rfl

theorem terms_itemTokens (i : Item ℕ) {ts : List RegExp.Token} (h : ts.head? ≠ some .star) :
    RegExp.terms (itemTokens i ++ ts) = (RegExp.terms ts).map (itemNode i :: ·) := by
  cases i with
  | star => rfl
  | any =>
    cases ts with
    | nil => rfl
    | cons t ts => cases t <;> first | rfl | exact absurd rfl h
  | lit u =>
    cases ts with
    | nil => rfl
    | cons t ts => cases t <;> first | rfl | exact absurd rfl h

theorem head?_itemTokens_ne (p : List (Item ℕ)) :
    (p.flatMap itemTokens ++ [RegExp.Token.dollar]).head? ≠ some .star := by
  cases p with
  | nil => nofun
  | cons i p => cases i <;> nofun

/-- **Every pattern is read.** Its expression is that of its items between the two anchors. -/
theorem parse_source (s : List ℕ) : RegExp.parse (source s) =
    some (.start :: ((s.map (globItem id)).map itemNode ++ [.finish])) := by
  have hterms : ∀ p : List (Item ℕ), RegExp.terms (p.flatMap itemTokens ++ [.dollar]) =
      some (p.map itemNode ++ [.finish]) := by
    intro p
    induction p with
    | nil => rfl
    | cons i p ih =>
      rw [List.flatMap_cons, List.append_assoc, terms_itemTokens i (head?_itemTokens_ne p), ih]
      rfl
  rw [RegExp.parse, tokens_source]
  show (RegExp.terms _).map _ = _
  rw [hterms]
  rfl

/-! ### What an expression matches -/

/-- Two units that stand for the same. -/
def FoldsAlike (M : CaseMapping) (v u : ℕ) : Prop :=
  canonicalize M v = canonicalize M u

/-- The matcher of the items of a pattern, up to the end of the input. -/
def itemsExec (M : CaseMapping) (p : List (Item ℕ)) : Bool → List ℕ → Bool :=
  RegExp.exec M (p.map itemNode ++ [.finish])

section Match

variable {M : CaseMapping}

theorem itemsExec_star (p : List (Item ℕ)) (atStart : Bool) (u : ℕ) (s : List ℕ) :
    itemsExec M (.star :: p) atStart (u :: s) =
      (!isLineTerminator u && itemsExec M (.star :: p) false s || itemsExec M p atStart (u :: s)) :=
  rfl

/-- The matcher of a pattern. -/
theorem itemsExec_iff (p : List (Item ℕ)) (atStart : Bool) (s : List ℕ) :
    itemsExec M p atStart s = true ↔
      Matches (FoldsAlike M) (fun u ↦ isLineTerminator u = false) p s := by
  induction p generalizing atStart s with
  | nil =>
    rw [matches_nil]
    show (s.isEmpty && true) = true ↔ s = []
    rw [Bool.and_true, List.isEmpty_iff]
  | cons i p ih =>
    cases i with
    | lit v =>
      cases s with
      | nil => exact iff_of_false nofun matches_lit_nil
      | cons u s =>
        show (decide (canonicalize M v = canonicalize M u) && itemsExec M p false s) = true ↔ _
        rw [Bool.and_eq_true, decide_eq_true_iff, ih, matches_lit_cons]
        rfl
    | any =>
      cases s with
      | nil => exact iff_of_false nofun matches_any_nil
      | cons u s =>
        show (!isLineTerminator u && itemsExec M p false s) = true ↔ _
        rw [Bool.and_eq_true, Bool.not_eq_true', ih, matches_any_cons]
    | star =>
      -- along the text: the star takes the next unit, or it is done
      induction s generalizing atStart with
      | nil =>
        rw [matches_star_nil, ← ih atStart]
        rfl
      | cons u s ihs =>
        rw [matches_star_cons, ← ih atStart, ← ihs false, itemsExec_star, Bool.or_eq_true,
          Bool.and_eq_true, Bool.not_eq_true', or_comm]

/-- An expression that is anchored at its start is not matched later. -/
theorem test_start (nodes : List RegExp.Node) (s : List ℕ) :
    RegExp.test M (.start :: nodes) s = RegExp.exec M nodes true s := by
  have hlater : s.tails.tail.any (RegExp.exec M (.start :: nodes) false) = false :=
    List.any_eq_false.2 fun _ _ ↦ Bool.false_ne_true
  rw [RegExp.test, hlater, Bool.or_false]
  rfl

theorem matchGlob_eq {pattern text : String} (hpattern : pattern ≠ "") (htext : text ≠ "") :
    matchGlob M pattern text =
      some (itemsExec M ((units pattern).map (globItem id)) true (units text)) := by
  rw [matchGlob, if_neg (not_or.2 ⟨hpattern, htext⟩), parse_source, Option.map_some, test_start]
  rfl

/-- There is always a result. -/
theorem exists_matchGlob (M : CaseMapping) (pattern text : String) :
    ∃ b, matchGlob M pattern text = some b := by
  by_cases h : pattern = "" ∨ text = ""
  · exact ⟨false, if_pos h⟩
  · exact ⟨_, matchGlob_eq (not_or.1 h).1 (not_or.1 h).2⟩

/-- `matchGlob` matches the units of the text. -/
theorem matchGlob_iff_units {pattern text : String} (htext : text ≠ "") :
    matchGlob M pattern text = some true ↔ pattern ≠ "" ∧
      Matches (FoldsAlike M) (fun u ↦ isLineTerminator u = false)
        ((units pattern).map (globItem id)) (units text) := by
  by_cases hpattern : pattern = ""
  · rw [matchGlob, if_pos (Or.inl hpattern)]
    exact iff_of_false (by decide) fun h ↦ h.1 hpattern
  · rw [matchGlob_eq hpattern htext, Option.some_inj, itemsExec_iff]
    exact (and_iff_right hpattern).symm

end Match

/-! ### Surrogates -/

/-- A unit that is half of a character. -/
def IsSurrogate (u : ℕ) : Prop :=
  0xD800 ≤ u ∧ u < 0xE000

theorem not_isSurrogate_toNat (c : Char) : ¬IsSurrogate c.toNat := by
  have hvalid : c.toNat < 0xD800 ∨ 0xDFFF < c.toNat ∧ c.toNat < 0x110000 := c.valid
  unfold IsSurrogate
  omega

/-- A character of the basic plane is one unit, and another is a pair of surrogates. -/
theorem codeUnits_cases (c : Char) : (c.toNat < 0x10000 ∧ codeUnits c = [c.toNat]) ∨
    0x10000 ≤ c.toNat ∧ ∃ x y, codeUnits c = [x, y] ∧ IsSurrogate x ∧ IsSurrogate y ∧
      x < 0xDC00 ∧ 0xDC00 ≤ y := by
  have hvalid : c.toNat < 0xD800 ∨ 0xDFFF < c.toNat ∧ c.toNat < 0x110000 := c.valid
  rcases Nat.lt_or_ge c.toNat 0x10000 with h | h
  · exact Or.inl ⟨h, if_pos h⟩
  · refine Or.inr ⟨h, _, _, if_neg (not_lt.2 h), ?_⟩
    unfold IsSurrogate
    omega

theorem isShort_codeUnits (c : Char) : IsShort (codeUnits c) := by
  obtain ⟨-, h⟩ | ⟨-, x, y, h, -⟩ := codeUnits_cases c
  · exact Or.inl ⟨_, h⟩
  · exact Or.inr ⟨x, y, h⟩

/-- Text of one unit is a character of the basic plane. -/
theorem eq_toNat_of_flatMap_codeUnits {l : List Char} {v : ℕ} (h : l.flatMap codeUnits = [v]) :
    ∃ c : Char, v = c.toNat := by
  cases l with
  | nil => nomatch h
  | cons c l =>
    rw [List.flatMap_cons] at h
    obtain ⟨-, hcode⟩ | ⟨-, x, y, hcode, -⟩ := codeUnits_cases c
    · rw [hcode] at h
      exact ⟨c, (List.cons.inj h).1.symm⟩
    · rw [hcode] at h
      nomatch (List.cons.inj h).2

section Surrogates

variable {M : CaseMapping} {u v x y : ℕ} {c : Char}

/-- A surrogate stands for itself. -/
theorem canonicalize_of_isSurrogate (h : IsSurrogate u) : canonicalize M u = u := by
  have hinvalid : ¬u.isValidChar := by
    unfold IsSurrogate at h
    unfold Nat.isValidChar
    omega
  exact if_neg hinvalid

/-- A character of the basic plane stands for one. -/
theorem not_isSurrogate_canonicalize (h : ¬IsSurrogate u) : ¬IsSurrogate (canonicalize M u) := by
  rw [canonicalize]
  split
  · split
    · rename_i v hunits
      obtain ⟨c, rfl⟩ := eq_toNat_of_flatMap_codeUnits hunits
      split
      · exact h
      · exact not_isSurrogate_toNat c
    · exact h
  · exact h

/-- A surrogate is alike to itself alone. -/
theorem foldsAlike_of_isSurrogate (hv : IsSurrogate v) : FoldsAlike M v u ↔ v = u := by
  rw [FoldsAlike, canonicalize_of_isSurrogate hv]
  constructor
  · intro heq
    by_cases hu : IsSurrogate u
    · rw [heq, canonicalize_of_isSurrogate hu]
    · exact absurd (heq ▸ hv) (not_isSurrogate_canonicalize hu)
  · rintro rfl
    exact (canonicalize_of_isSurrogate hv).symm

theorem FoldsAlike.symm (h : FoldsAlike M v u) : FoldsAlike M u v :=
  Eq.symm h

end Surrogates

/-! ### Characters -/

/-- What the units of a character stand for. -/
def foldUnits (M : CaseMapping) (c : Char) : List ℕ :=
  (codeUnits c).map (canonicalize M)

section Characters

variable {M : CaseMapping} {c d : Char} {p : List (Item Char)} {t : List Char}
  {text : String}

theorem forall₂_foldsAlike : List.Forall₂ (FoldsAlike M) (codeUnits c) (codeUnits d) ↔
    foldUnits M c = foldUnits M d := by
  rw [foldUnits, foldUnits, ← List.forall₂_eq_eq_eq, List.forall₂_map_left_iff,
    List.forall₂_map_right_iff]
  rfl

theorem isLineTerminator_of_le {u : ℕ} (h : 0x202A ≤ u) : isLineTerminator u = false :=
  decide_eq_false fun hmem ↦ by
    simp only [List.mem_cons, List.not_mem_nil, or_false] at hmem
    omega

/-- Half a character is no line terminator, so that a dot takes every unit of what it takes. -/
theorem forall_codeUnits_isLineTerminator :
    (∀ u ∈ codeUnits c, isLineTerminator u = false) ↔ isLineTerminator c.toNat = false := by
  obtain ⟨-, h⟩ | ⟨hle, x, y, h, hx, hy, -⟩ := codeUnits_cases c
  · rw [h, List.forall_mem_singleton]
  · refine iff_of_true (fun u hu ↦ isLineTerminator_of_le ?_) (isLineTerminator_of_le (by omega))
    rw [h, List.mem_pair] at hu
    rcases hu with rfl | rfl
    · exact le_trans (by decide) hx.1
    · exact le_trans (by decide) hy.1

theorem mem_globItems_any {l : List Char} : .any ∈ l.map (globItem Char.toNat) ↔ '?' ∈ l := by
  rw [mem_map_globItem_any]
  constructor
  · rintro ⟨c, hc, hcode⟩
    rwa [← Char.toNat_inj.1 hcode]
  · exact fun h ↦ ⟨_, h, rfl⟩

/-- The items of the units are the units of the items. -/
theorem map_globItem_units (pattern : String) :
    (units pattern).map (globItem id) =
      expand codeUnits (pattern.toList.map (globItem Char.toNat)) := by
  refine map_flatMap_eq_expand fun c _ ↦ ?_
  obtain ⟨-, h⟩ | ⟨hle, x, y, h, hx, hy, -⟩ := codeUnits_cases c
  · rw [h, List.map_singleton]
    obtain ⟨hcode, hitem⟩ | ⟨hcode, hitem⟩ | ⟨hstar, hany, hitem⟩ := globItem_cases Char.toNat c
    · have hunit : globItem id c.toNat = .star := globItem_star hcode
      rw [hitem, hunit]
      rfl
    · have hunit : globItem id c.toNat = .any := globItem_any hcode
      rw [hitem, hunit]
      rfl
    · have hunit : globItem id c.toNat = .lit c.toNat := globItem_lit hstar hany
      rw [hitem, hunit, Item.expand_lit, h]
      rfl
  · -- a unit outside of ASCII is no wildcard
    have hlit : ∀ {τ : Type} (code : τ → ℕ) (x : τ), 0x80 ≤ code x → globItem code x = .lit x :=
      fun code x hle ↦ globItem_lit (fun heq ↦ absurd (heq ▸ hle) (by decide))
        fun heq ↦ absurd (heq ▸ hle) (by decide)
    rw [h, hlit Char.toNat c (le_trans (by decide) hle), List.map_cons, List.map_singleton,
      hlit id x (le_trans (by decide) hx.1), hlit id y (le_trans (by decide) hy.1),
      Item.expand_lit, h]
    rfl

/-- The only unit of a character is not half of another. -/
theorem not_isSurrogate_of_codeUnits {u : ℕ} (h : codeUnits c = [u]) : ¬IsSurrogate u := by
  obtain ⟨-, hcode⟩ | ⟨-, x, y, hcode, -⟩ := codeUnits_cases c
  · rw [hcode, List.singleton_inj] at h
    exact h ▸ not_isSurrogate_toNat c
  · rw [hcode] at h
    nomatch (List.cons.inj h).2

theorem isSurrogate_of_codeUnits {u v : ℕ} (h : codeUnits c = [u, v]) :
    IsSurrogate u ∧ u < 0xDC00 ∧ IsSurrogate v ∧ 0xDC00 ≤ v := by
  obtain ⟨-, hcode⟩ | ⟨-, x, y, hcode, hx, hy, hlt, hle⟩ := codeUnits_cases c
  · nomatch hcode.symm.trans h
  · obtain ⟨rfl, hrest⟩ := List.cons.inj (hcode.symm.trans h)
    rw [List.singleton_inj] at hrest
    exact ⟨hx, hlt, hrest ▸ hy, hrest ▸ hle⟩

/-- The units of a pattern and of a text are in step. Half a character is alike to no character and
to no other half. -/
theorem inStep_codeUnits (hsingle : .any ∈ p → ∀ c ∈ t, c.toNat < 0x10000) :
    InStep codeUnits codeUnits (FoldsAlike M) p t where
  pattern_short a _ := isShort_codeUnits a
  text_short c _ := isShort_codeUnits c
  single hany c hc := by
    obtain ⟨-, h⟩ | ⟨hle, -⟩ := codeUnits_cases c
    · exact ⟨_, h⟩
    · exact absurd (hsingle hany c hc) (not_lt.2 hle)
  pattern_pair a x y _ hcode c _ u hcode' halike := by
    have hx := (isSurrogate_of_codeUnits hcode).1
    have hxu := (foldsAlike_of_isSurrogate hx).1 halike
    exact absurd (hxu ▸ hx) (not_isSurrogate_of_codeUnits hcode')
  text_pair a x _ hcode c _ u v hcode' halike := by
    have hu := (isSurrogate_of_codeUnits hcode').1
    have hux := (foldsAlike_of_isSurrogate hu).1 halike.symm
    exact absurd (hux ▸ hu) (not_isSurrogate_of_codeUnits hcode)
  star_pair _ c _ u v hcode a _ x hx halike := by
    obtain ⟨-, -, hv, hle⟩ := isSurrogate_of_codeUnits hcode
    have hvx := (foldsAlike_of_isSurrogate hv).1 halike.symm
    obtain ⟨-, hcode'⟩ | ⟨-, y, z, hcode', -, -, hlt, -⟩ := codeUnits_cases a
    · rw [hcode'] at hx
      exact not_isSurrogate_toNat a (Option.some.inj hx ▸ hvx ▸ hv)
    · rw [hcode'] at hx
      have hyx : y = x := Option.some.inj hx
      omega

/-- The units of a text match the units of a pattern. -/
def UnitsMatch (M : CaseMapping) (p t : List Char) : Prop :=
  Matches (FoldsAlike M) (fun u ↦ isLineTerminator u = false)
    (expand codeUnits (p.map (globItem Char.toNat))) (t.flatMap codeUnits)

/-- **The client matches units.** -/
theorem matchGlob_iff (pattern : String) (htext : text ≠ "") :
    matchGlob M pattern text = some true ↔
      pattern ≠ "" ∧ UnitsMatch M pattern.toList text.toList := by
  rw [matchGlob_iff_units htext, map_globItem_units]
  rfl

/-- Where a pattern with a question mark meets only characters of the basic plane, characters are
matched by characters with the same folding. -/
theorem unitsMatch_iff {p t : List Char} (hsingle : '?' ∈ p → ∀ c ∈ t, c.toNat < 0x10000) :
    UnitsMatch M p t ↔
      Matches (fun p c ↦ foldUnits M p = foldUnits M c) (fun c ↦ isLineTerminator c.toNat = false)
        (p.map (globItem Char.toNat)) t := by
  rw [UnitsMatch, matches_expand (inStep_codeUnits fun hany ↦ hsingle (mem_globItems_any.1 hany))]
  exact matches_congr (fun a _ c _ ↦ forall₂_foldsAlike) fun _ c _ ↦
    forall_codeUnits_isLineTerminator

end Characters

end Sumurai.Frontend
