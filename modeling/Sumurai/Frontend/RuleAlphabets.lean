import Sumurai.Analytics.QueryLimits
import Sumurai.Foundations.UnicodeCase
import Sumurai.Frontend.GlobRegExp

/-!
# What rule patterns and names may be written with

The backend matches the pattern of a category rule with the lower case of both it and the name,
character by character (`globMatch`); the client tests a regular expression on code units. For the
characters that patterns are written with, and those of names, `RulesAgree` lists what it takes for
the two to agree.

Then both come to one match, of characters that are alike in lower case: the client's because the
foldings are alike (`RulesAgree.client_iff`), the server's because a lower case of two characters is
matched as a whole and a sigma does not depend on its place (`RulesAgree.server_iff`).
-/

namespace Sumurai.Frontend

open Wildcard UnicodeCase

/-! ### The server -/

/-- `glob_match`, with the lower case of all of Unicode. -/
def globMatch (U : UnicodeCase) (pattern text : String) : Bool :=
  matchesGlob (U.toLowercase pattern) (U.toLowercase text)

section Server

variable {U : UnicodeCase} {p t : List Char} {x : Char × Bool}

/-- The character is no wildcard. -/
def IsLetter (c : Char) : Prop :=
  c ≠ '*' ∧ c ≠ '?'

instance (c : Char) : Decidable (IsLetter c) :=
  inferInstanceAs (Decidable (_ ∧ _))

theorem globItem_char {a : Char} (hstar : a = '*' → False) (hany : a = '?' → False) :
    globItem Char.toNat a = .lit a :=
  globItem_lit (fun h ↦ hstar (Char.toNat_inj.1 h)) fun h ↦ hany (Char.toNat_inj.1 h)

/-- What has no wildcards is its characters. -/
theorem map_globItem_letters (hp : ∀ c ∈ p, IsLetter c) :
    p.map (globItem Char.toNat) = p.map .lit :=
  List.map_congr_left fun c hc ↦ globItem_char (hp c hc).1 (hp c hc).2

/-- `matches_glob` matches the items of the pattern, of which a wildcard takes anything. -/
theorem matchesGlob_iff (p t : List Char) : matchesGlob p t = true ↔
    Matches (fun a c ↦ a = c) (fun _ ↦ True) (p.map (globItem Char.toNat)) t := by
  fun_induction matchesGlob p t with
  | case1 => exact iff_of_true rfl Matches.nil
  | case2 c t => exact iff_of_false nofun fun h ↦ nomatch h
  | case3 p ih =>
    rw [ih]
    exact matches_star_nil.symm
  | case4 p c t ih ihs =>
    rw [Bool.or_eq_true, ih, ihs]
    refine Iff.trans ?_ matches_star_cons.symm
    rw [true_and]
    rfl
  | case5 p c t ih =>
    rw [ih]
    exact (matches_any_cons.trans (and_iff_right trivial)).symm
  | case6 a p c t hstar hany ih =>
    rw [Bool.and_eq_true, decide_eq_true_iff, ih, List.map_cons, globItem_char hstar hany,
      matches_lit_cons]
  | case7 a p hstar =>
    refine iff_of_false nofun fun h ↦ ?_
    rw [List.map_cons] at h
    by_cases hany : a = '?'
    · rw [globItem_any (congrArg Char.toNat hany)] at h
      exact matches_any_nil h
    · rw [globItem_char hstar hany] at h
      exact matches_lit_nil h

/-- A wildcard is the lower case of itself alone. -/
theorem eq_of_mem_lower {c w : Char} (hw : w = '*' ∨ w = '?') (h : w ∈ U.lower c) : c = w := by
  have hascii : w.toNat < 0x80 := by rcases hw with rfl | rfl <;> decide
  obtain ⟨hc, hlower⟩ | ⟨-, hlower⟩ | ⟨-, hlower⟩ | ⟨-, hlower⟩ := U.lower_cases c
  · rw [hlower, List.mem_singleton] at h
    have hchar : ∀ n < 0x80, ((Char.ofNat n).toLower = '*' → Char.ofNat n = '*') ∧
        ((Char.ofNat n).toLower = '?' → Char.ofNat n = '?') := by decide
    have hback := Text.forall_ascii
      (P := fun c ↦ (c.toLower = '*' → c = '*') ∧ (c.toLower = '?' → c = '?')) hchar hc
    rcases hw with rfl | rfl
    · exact hback.1 h.symm
    · exact hback.2 h.symm
  · rw [hlower] at h
    rcases hw with rfl | rfl <;> exact absurd h (by decide)
  · rw [hlower] at h
    rcases hw with rfl | rfl <;> exact absurd h (by decide)
  · exact absurd (hlower w h) (not_le.2 hascii)

/-- The code of a character in its place, as a character of a pattern. -/
def placeCode (x : Char × Bool) : ℕ :=
  x.1.toNat

theorem lower_wildcard {w : Char} (hw : w = '*' ∨ w = '?') : U.lower w = [w] := by
  rcases hw with rfl | rfl <;> exact U.lower_ascii _ (by decide)

theorem lowerAt_wildcard {w : Char} (hw : w = '*' ∨ w = '?') (h : placeCode x = w.toNat) :
    U.lowerAt x = [w] := by
  have hx : x.1 = w := Char.toNat_inj.1 h
  have hsigma : w ≠ 'Σ' := by rcases hw with rfl | rfl <;> decide
  rw [lowerAt_of_ne (hx ▸ hsigma), hx, lower_wildcard hw]

theorem eq_of_mem_lowerAt {w : Char} (hw : w = '*' ∨ w = '?') (h : w ∈ U.lowerAt x) :
    x.1 = w := by
  by_cases hsigma : x.1 = 'Σ'
  · rcases lowerAt_sigma (U := U) hsigma with hx | hx <;> rw [hx, List.mem_singleton] at h <;>
      subst h <;> exact absurd hw (by decide)
  · rw [lowerAt_of_ne hsigma] at h
    exact eq_of_mem_lower hw h

/-- The items of the lower case are the lower case of the items. -/
theorem map_globItem_lowerCase (l : List (Char × Bool)) :
    (l.flatMap U.lowerAt).map (globItem Char.toNat) =
      expand U.lowerAt (l.map (globItem placeCode)) := by
  refine map_flatMap_eq_expand fun x _ ↦ ?_
  obtain ⟨hcode, hitem⟩ | ⟨hcode, hitem⟩ | ⟨hstar, hany, hitem⟩ := globItem_cases placeCode x
  · rw [hitem, lowerAt_wildcard (Or.inl rfl) hcode]
    rfl
  · rw [hitem, lowerAt_wildcard (Or.inr rfl) hcode]
    rfl
  · rw [hitem, Item.expand_lit]
    refine List.map_congr_left fun d hd ↦ globItem_lit (fun h ↦ hstar ?_) fun h ↦ hany ?_
    · rw [Char.toNat_inj.1 h] at hd
      exact congrArg Char.toNat (eq_of_mem_lowerAt (Or.inl rfl) hd)
    · rw [Char.toNat_inj.1 h] at hd
      exact congrArg Char.toNat (eq_of_mem_lowerAt (Or.inr rfl) hd)

/-- The server matches the lower case of the characters in their places. -/
theorem matchesGlob_toLowercase (p t : List Char) :
    matchesGlob (U.toLowercaseFrom [] p) (U.toLowercaseFrom [] t) = true ↔
      Matches (fun a c ↦ a = c) (fun _ ↦ True)
        (expand U.lowerAt ((U.placed [] p).map (globItem placeCode)))
        ((U.placed [] t).flatMap U.lowerAt) := by
  rw [matchesGlob_iff, toLowercaseFrom_eq, toLowercaseFrom_eq, map_globItem_lowerCase]

end Server

/-! ### Alphabets -/

/-- The client and the server agree about patterns of the characters `B` and texts of the
characters `C`.

`lines`: a wildcard meets no line break. `single`: a question mark meets only characters of one code
unit, and not the dotted capital I, which is two characters in lower case. `letters`: a character of
a pattern folds like one of a text exactly when the two are alike in lower case. `dottedPattern`,
`dottedText`, `dottedStar`: the dotted capital I meets neither its two parts nor one of them beside
a star. `sigma`: the capital sigma, which depends on its place, meets no other sigma, and itself
only without wildcards. -/
structure RulesAgree (U : UnicodeCase) (B C : Set Char) : Prop where
  lines : '*' ∈ B ∨ '?' ∈ B → ∀ c ∈ C, isLineTerminator c.toNat = false
  single : '?' ∈ B → ∀ c ∈ C, c.toNat < 0x10000 ∧ c ≠ '\u0130'
  letters : ∀ p ∈ B, p ≠ '*' → p ≠ '?' → ∀ c ∈ C,
    (foldUnits U.toCaseMapping p = foldUnits U.toCaseMapping c ↔ U.Alike p c)
  dottedPattern : '\u0130' ∈ B →
    ¬((∃ c ∈ C, U.lower c = ['i']) ∧ ∃ c ∈ C, U.lower c = ['\u0307'])
  dottedText : '\u0130' ∈ C →
    ¬((∃ p ∈ B, U.lower p = ['i']) ∧ ∃ p ∈ B, U.lower p = ['\u0307'])
  dottedStar : '\u0130' ∈ C → '*' ∈ B → ∀ p ∈ B, U.lower p ≠ ['i'] ∧ U.lower p ≠ ['\u0307']
  sigma : 'Σ' ∈ B ∨ 'Σ' ∈ C → (∀ p ∈ B, ¬IsSigma p) ∨ (∀ c ∈ C, ¬IsSigma c) ∨
    ('*' ∉ B ∧ '?' ∉ B ∧ (∀ p ∈ B, IsSigma p → p = 'Σ') ∧ ∀ c ∈ C, IsSigma c → c = 'Σ')

section Sufficient

variable {U : UnicodeCase} {B C : Set Char} {p t : List Char} {x : Char × Bool} {u v : Char}

theorem lowerAt_pair (h : U.lowerAt x = [u, v]) : x.1 = '\u0130' ∧ u = 'i' ∧ v = '\u0307' := by
  by_cases hx : x.1 = '\u0130'
  · rw [lowerAt_dotted hx] at h
    obtain ⟨hu, hv⟩ := List.cons.inj h
    exact ⟨hx, hu.symm, (List.singleton_inj.1 hv).symm⟩
  · obtain ⟨d, hd⟩ := lowerAt_single (U := U) hx
    nomatch (List.cons.inj (hd.symm.trans h)).2

theorem isShort_lowerAt (x : Char × Bool) : IsShort (U.lowerAt x) := by
  by_cases hx : x.1 = '\u0130'
  · exact Or.inr ⟨_, _, lowerAt_dotted hx⟩
  · exact Or.inl (lowerAt_single hx)

/-- Only what is a dot by itself begins with the dot. -/
theorem lower_of_head?_lowerAt (h : '\u0307' ∈ (U.lowerAt x).head?) :
    U.lower x.1 = ['\u0307'] := by
  by_cases hx : x.1 = '\u0130'
  · rw [lowerAt_dotted hx] at h
    exact absurd h (by decide)
  · obtain ⟨d, hd⟩ := lowerAt_single (U := U) hx
    rw [hd] at h
    rw [Option.some.inj h] at hd
    exact (lowerAt_eq_singleton (by decide) (by decide)).1 hd

theorem lower_of_lowerAt_i (h : U.lowerAt x = ['i']) : U.lower x.1 = ['i'] :=
  (lowerAt_eq_singleton (by decide) (by decide)).1 h

theorem mem_of_mem_placedItems (hp : ∀ c ∈ p, c ∈ B)
    (h : .lit x ∈ (U.placed [] p).map (globItem placeCode)) : x.1 ∈ B :=
  hp x.1 (fst_mem_of_mem_placed (mem_map_globItem_lit.1 h).1)

theorem mem_of_star_mem (hp : ∀ c ∈ p, c ∈ B)
    (h : .star ∈ (U.placed [] p).map (globItem placeCode)) : '*' ∈ B := by
  obtain ⟨x, hx, hcode⟩ := mem_map_globItem_star.1 h
  rw [← Char.toNat_inj.1 hcode]
  exact hp x.1 (fst_mem_of_mem_placed hx)

theorem mem_of_any_mem (hp : ∀ c ∈ p, c ∈ B)
    (h : .any ∈ (U.placed [] p).map (globItem placeCode)) : '?' ∈ B := by
  obtain ⟨x, hx, hcode⟩ := mem_map_globItem_any.1 h
  rw [← Char.toNat_inj.1 hcode]
  exact hp x.1 (fst_mem_of_mem_placed hx)

/-- The lower cases of a pattern and of a text are in step: the dotted capital I is matched as a
whole. -/
theorem RulesAgree.inStep (h : RulesAgree U B C) (hp : ∀ c ∈ p, c ∈ B) (ht : ∀ c ∈ t, c ∈ C) :
    InStep U.lowerAt U.lowerAt (fun a c ↦ a = c) ((U.placed [] p).map (globItem placeCode))
      (U.placed [] t) where
  pattern_short a _ := isShort_lowerAt a
  text_short b _ := isShort_lowerAt b
  single hany b hb :=
    lowerAt_single (h.single (mem_of_any_mem hp hany) b.1 (ht _ (fst_mem_of_mem_placed hb))).2
  pattern_pair a x y ha hcode b hb u hcode' hxu c hc w hw hyw := by
    obtain ⟨hdotted, rfl, rfl⟩ := lowerAt_pair hcode
    subst hxu hyw
    have hmem : '\u0130' ∈ B := hdotted ▸ mem_of_mem_placedItems hp ha
    exact h.dottedPattern hmem
      ⟨⟨b.1, ht _ (fst_mem_of_mem_placed hb), lower_of_lowerAt_i hcode'⟩,
        c.1, ht _ (fst_mem_of_mem_placed hc), lower_of_head?_lowerAt hw⟩
  text_pair a x ha hcode b hb u v hcode' hxu := by
    obtain ⟨hdotted, rfl, rfl⟩ := lowerAt_pair hcode'
    subst hxu
    have hmem : '\u0130' ∈ C := hdotted ▸ ht _ (fst_mem_of_mem_placed hb)
    have hi := lower_of_lowerAt_i hcode
    have haB := mem_of_mem_placedItems hp ha
    constructor
    · exact fun hstar ↦ (h.dottedStar hmem (mem_of_star_mem hp hstar) a.1 haB).1 hi
    · rintro c hc w hw rfl
      exact h.dottedText hmem
        ⟨⟨a.1, haB, hi⟩, c.1, mem_of_mem_placedItems hp hc, lower_of_head?_lowerAt hw⟩
  star_pair hstar b hb u v hcode := by
    obtain ⟨hdotted, rfl, rfl⟩ := lowerAt_pair hcode
    have hmem : '\u0130' ∈ C := hdotted ▸ ht _ (fst_mem_of_mem_placed hb)
    rintro c hc w hw rfl
    exact (h.dottedStar hmem (mem_of_star_mem hp hstar) c.1 (mem_of_mem_placedItems hp hc)).2
      (lower_of_head?_lowerAt hw)

/-- The server matches characters in their places. -/
theorem RulesAgree.server_iff_placed (h : RulesAgree U B C) (hp : ∀ c ∈ p, c ∈ B)
    (ht : ∀ c ∈ t, c ∈ C) :
    matchesGlob (U.toLowercaseFrom [] p) (U.toLowercaseFrom [] t) = true ↔
      Matches (fun x y ↦ U.lowerAt x = U.lowerAt y) (fun _ ↦ True)
        ((U.placed [] p).map (globItem placeCode)) (U.placed [] t) := by
  rw [matchesGlob_toLowercase, matches_expand (h.inStep hp ht)]
  refine matches_congr (fun a _ c _ ↦ ?_) fun _ _ _ ↦ iff_of_true (fun _ _ ↦ trivial) trivial
  rw [List.forall₂_eq_eq_eq]

/-- Where places do not matter, a match of characters in their places is one of characters. -/
theorem matches_placed_iff
    (h : ∀ x ∈ U.placed [] p, ∀ y ∈ U.placed [] t,
      (U.lowerAt x = U.lowerAt y ↔ U.Alike x.1 y.1)) :
    Matches (fun x y ↦ U.lowerAt x = U.lowerAt y) (fun _ ↦ True)
        ((U.placed [] p).map (globItem placeCode)) (U.placed [] t) ↔
      Matches U.Alike (fun _ ↦ True) (p.map (globItem Char.toNat)) t := by
  have hitems : p.map (globItem Char.toNat) =
      expand (fun x ↦ [x.1]) ((U.placed [] p).map (globItem placeCode)) := by
    have hmap : ((U.placed [] p).flatMap fun x ↦ [x.1]).map (globItem Char.toNat) =
        expand (fun x ↦ [x.1]) ((U.placed [] p).map (globItem placeCode)) := by
      refine map_flatMap_eq_expand fun x _ ↦ ?_
      obtain ⟨hcode, hitem⟩ | ⟨hcode, hitem⟩ | ⟨hstar, hany, hitem⟩ := globItem_cases placeCode x
      · rw [hitem]
        exact congrArg (fun i ↦ [i]) (globItem_star hcode)
      · rw [hitem]
        exact congrArg (fun i ↦ [i]) (globItem_any hcode)
      · rw [hitem]
        exact congrArg (fun i ↦ [i]) (globItem_lit hstar hany)
    rwa [← List.map_eq_flatMap, map_fst_placed] at hmap
  have htext : t = (U.placed [] t).map Prod.fst := map_fst_placed.symm
  rw [hitems]
  conv_rhs => rw [htext]
  rw [matches_map]
  exact matches_congr (fun x hx y hy ↦ h x (mem_map_globItem_lit.1 hx).1 y hy) fun _ _ _ ↦ Iff.rfl

/-- Without wildcards, and with the capital sigma for the only sigma, a match of characters in their
places is one of characters. -/
theorem matches_placed_iff_of_capitalOnly (hstar : '*' ∉ p) (hany : '?' ∉ p)
    (hp : CapitalOnly p) (ht : CapitalOnly t) :
    Matches (fun x y ↦ U.lowerAt x = U.lowerAt y) (fun _ ↦ True)
        ((U.placed [] p).map (globItem placeCode)) (U.placed [] t) ↔
      Matches U.Alike (fun _ ↦ True) (p.map (globItem Char.toNat)) t := by
  have hletters : ∀ c ∈ p, IsLetter c := fun c hc ↦
    ⟨fun h ↦ hstar (h ▸ hc), fun h ↦ hany (h ▸ hc)⟩
  have hplaced : (U.placed [] p).map (globItem placeCode) = (U.placed [] p).map .lit :=
    List.map_congr_left fun x hx ↦ by
      obtain ⟨hstar, hany⟩ := hletters x.1 (fst_mem_of_mem_placed hx)
      exact globItem_lit (fun h ↦ hstar (Char.toNat_inj.1 h)) fun h ↦ hany (Char.toNat_inj.1 h)
  rw [hplaced, map_globItem_letters hletters, matches_map_lit, matches_map_lit,
    forall₂_lowerAt_placed_iff hp ht]

/-- The server matches characters by their lower case. -/
theorem RulesAgree.server_iff (h : RulesAgree U B C) (hp : ∀ c ∈ p, c ∈ B) (ht : ∀ c ∈ t, c ∈ C) :
    matchesGlob (U.toLowercaseFrom [] p) (U.toLowercaseFrom [] t) = true ↔
      Matches U.Alike (fun _ ↦ True) (p.map (globItem Char.toNat)) t := by
  rw [h.server_iff_placed hp ht]
  by_cases hcapital : 'Σ' ∈ B ∨ 'Σ' ∈ C
  · obtain hpattern | htext | ⟨hstar, hany, hpattern, htext⟩ := h.sigma hcapital
    · exact matches_placed_iff fun x hx y _ ↦ lowerAt_eq_iff fun hboth ↦
        hpattern x.1 (hp _ (fst_mem_of_mem_placed hx)) hboth.1
    · exact matches_placed_iff fun x _ y hy ↦ lowerAt_eq_iff fun hboth ↦
        htext y.1 (ht _ (fst_mem_of_mem_placed hy)) hboth.2
    · exact matches_placed_iff_of_capitalOnly (fun hmem ↦ hstar (hp _ hmem))
        (fun hmem ↦ hany (hp _ hmem)) (fun c hc ↦ hpattern c (hp c hc))
        fun c hc ↦ htext c (ht c hc)
  · obtain ⟨hpattern, htext⟩ := not_or.1 hcapital
    refine matches_placed_iff fun x hx y hy ↦ ?_
    rw [lowerAt_of_ne fun heq ↦ hpattern (heq ▸ hp _ (fst_mem_of_mem_placed hx)),
      lowerAt_of_ne fun heq ↦ htext (heq ▸ ht _ (fst_mem_of_mem_placed hy))]
    rfl

/-- The client matches characters by their lower case. -/
theorem RulesAgree.client_iff (h : RulesAgree U B C) (hp : ∀ c ∈ p, c ∈ B) (ht : ∀ c ∈ t, c ∈ C) :
    UnitsMatch U.toCaseMapping p t ↔
      Matches U.Alike (fun _ ↦ True) (p.map (globItem Char.toNat)) t := by
  rw [unitsMatch_iff fun hany c hc ↦ (h.single (hp _ hany) c (ht c hc)).1]
  refine matches_congr (fun a ha c hc ↦ ?_) fun hwild c hc ↦ ?_
  · obtain ⟨hmem, hstar, hany⟩ := mem_map_globItem_lit.1 ha
    exact h.letters a (hp a hmem) (fun heq ↦ hstar (congrArg Char.toNat heq))
      (fun heq ↦ hany (congrArg Char.toNat heq)) c (ht c hc)
  · refine iff_of_true (h.lines ?_ c (ht c hc)) trivial
    rcases hwild with hwild | hwild
    · obtain ⟨d, hd, hcode⟩ := mem_map_globItem_star.1 hwild
      exact Or.inl (Char.toNat_inj.1 hcode ▸ hp d hd)
    · exact Or.inr (hp _ (mem_globItems_any.1 hwild))

end Sufficient

end Sumurai.Frontend
