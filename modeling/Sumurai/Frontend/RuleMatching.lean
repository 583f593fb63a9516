import Sumurai.Frontend.Categories
import Sumurai.Frontend.RuleAlphabets

/-!
# Where the client and the server match rules alike

`matchGlob` of the client, which shows at once what a new rule does, and `glob_match` of the
backend, which applies it from then on. `matchGlob_eq_globMatch_iff` says for which characters of
patterns and of names the two agree: for those of `RulesAgree` and no others. That one fails where
a condition does is shown on patterns and names of one character or of two.

ASCII without line breaks is among them (`rulesAgree_ascii`). A question mark and a name with a
character outside of the basic plane are not (`pizza_differs`).
-/

namespace Sumurai.Frontend

open Wildcard UnicodeCase

/-! ### Where they do not agree -/

/-- The client and the server agree, by the characters of patterns and texts. -/
def ListsAgree (U : UnicodeCase) (B C : Set Char) : Prop :=
  ∀ p t : List Char, p ≠ [] → t ≠ [] → (∀ c ∈ p, c ∈ B) → (∀ c ∈ t, c ∈ C) →
    (UnitsMatch U.toCaseMapping p t ↔
      matchesGlob (U.toLowercaseFrom [] p) (U.toLowercaseFrom [] t) = true)

theorem RulesAgree.listsAgree {U : UnicodeCase} {B C : Set Char} (h : RulesAgree U B C) :
    ListsAgree U B C :=
  fun _ _ _ _ hp ht ↦ (h.client_iff hp ht).trans (h.server_iff hp ht).symm

section Necessary

variable {U : UnicodeCase} {B C : Set Char} {p t : List Char} {c d : Char}

/-- The server compares what has no wildcards in lower case. -/
theorem server_letters (hp : ∀ c ∈ p, IsLetter c) :
    matchesGlob (U.toLowercaseFrom [] p) (U.toLowercaseFrom [] t) = true ↔
      U.toLowercaseFrom [] p = U.toLowercaseFrom [] t := by
  have hletters : ∀ d ∈ U.toLowercaseFrom [] p, IsLetter d := by
    intro d hd
    rw [toLowercaseFrom_eq, List.mem_flatMap] at hd
    obtain ⟨x, hx, hd⟩ := hd
    obtain ⟨hstar, hany⟩ := hp x.1 (fst_mem_of_mem_placed hx)
    constructor
    · rintro rfl
      exact hstar (eq_of_mem_lowerAt (Or.inl rfl) hd)
    · rintro rfl
      exact hany (eq_of_mem_lowerAt (Or.inr rfl) hd)
  rw [matchesGlob_iff, map_globItem_letters hletters, matches_map_lit, List.forall₂_eq_eq_eq]

/-- The client compares what has no wildcards character by character. -/
theorem client_letters (hp : ∀ c ∈ p, IsLetter c) : UnitsMatch U.toCaseMapping p t ↔
    List.Forall₂ (fun p c ↦ foldUnits U.toCaseMapping p = foldUnits U.toCaseMapping c) p t := by
  rw [unitsMatch_iff fun hany ↦ absurd rfl (hp _ hany).2, map_globItem_letters hp, matches_map_lit]

theorem ListsAgree.letters (h : ListsAgree U B C) (hp : d ∈ B) (hd : IsLetter d) (hc : c ∈ C) :
    foldUnits U.toCaseMapping d = foldUnits U.toCaseMapping c ↔ U.Alike d c := by
  have hletter : ∀ e ∈ [d], IsLetter e := List.forall_mem_singleton.2 hd
  have hsame := h [d] [c] (List.cons_ne_nil _ _) (List.cons_ne_nil _ _)
    (List.forall_mem_singleton.2 hp) (List.forall_mem_singleton.2 hc)
  rw [client_letters hletter, server_letters hletter, toLowercaseFrom_singleton,
    toLowercaseFrom_singleton, List.forall₂_cons, and_iff_left List.Forall₂.nil] at hsame
  exact hsame

/-- A star, and a character by itself. -/
theorem ListsAgree.star (h : ListsAgree U B C) (hstar : '*' ∈ B) (hc : c ∈ C) :
    isLineTerminator c.toNat = false := by
  have hsame := h ['*'] [c] (List.cons_ne_nil _ _) (List.cons_ne_nil _ _)
    (List.forall_mem_singleton.2 hstar) (List.forall_mem_singleton.2 hc)
  rw [unitsMatch_iff fun hany ↦ absurd hany (by decide), matchesGlob_iff, toLowercaseFrom_singleton,
    lower_wildcard (Or.inl rfl)] at hsame
  have hclient := hsame.2 (matches_star_singleton.2 fun _ _ ↦ trivial)
  exact matches_star_singleton.1 hclient c List.mem_cons_self

/-- A question mark, and a character by itself. -/
theorem ListsAgree.any (h : ListsAgree U B C) (hany : '?' ∈ B) (hc : c ∈ C) :
    isLineTerminator c.toNat = false ∧ c.toNat < 0x10000 ∧ c ≠ '\u0130' := by
  have hsame := h ['?'] [c] (List.cons_ne_nil _ _) (List.cons_ne_nil _ _)
    (List.forall_mem_singleton.2 hany) (List.forall_mem_singleton.2 hc)
  have hclient : UnitsMatch U.toCaseMapping ['?'] [c] ↔
      ∃ u, codeUnits c = [u] ∧ isLineTerminator u = false := by
    rw [UnitsMatch, List.flatMap_singleton]
    exact matches_any_singleton
  have hserver : matchesGlob (U.toLowercaseFrom [] ['?']) (U.toLowercaseFrom [] [c]) = true ↔
      ∃ d, U.lower c = [d] ∧ True := by
    rw [matchesGlob_iff, toLowercaseFrom_singleton, toLowercaseFrom_singleton,
      lower_wildcard (Or.inr rfl)]
    exact matches_any_singleton
  rw [hclient, hserver] at hsame
  have hne : c ≠ '\u0130' := by
    rintro rfl
    obtain ⟨d, hd, -⟩ := hsame.1 ⟨_, rfl, rfl⟩
    rw [U.lower_dotted] at hd
    exact absurd (List.cons.inj hd).2 (List.cons_ne_nil _ _)
  obtain ⟨d, hd⟩ := U.lower_single c hne
  obtain ⟨u, hunit, hline⟩ := hsame.2 ⟨d, hd, trivial⟩
  obtain ⟨hlt, hcode⟩ | ⟨-, x, y, hcode, -⟩ := codeUnits_cases c
  · rw [hcode, List.singleton_inj] at hunit
    exact ⟨hunit ▸ hline, hlt, hne⟩
  · exact absurd (List.cons.inj (hcode.symm.trans hunit)).2 (List.cons_ne_nil _ _)

/-- A character with the lower case of another letter is a letter, and no capital sigma. -/
theorem isLetter_of_lower {e : Char} (he : IsLetter e) (hsigma : e ≠ 'σ') (h : U.lower c = [e]) :
    IsLetter c ∧ c ≠ 'Σ' := by
  refine ⟨⟨?_, ?_⟩, ?_⟩ <;> rintro rfl
  · rw [lower_wildcard (Or.inl rfl), List.singleton_inj] at h
    exact he.1 h.symm
  · rw [lower_wildcard (Or.inr rfl), List.singleton_inj] at h
    exact he.2 h.symm
  · rw [U.lower_capitalSigma, List.singleton_inj] at h
    exact hsigma h.symm

/-- The two parts of the dotted capital I, as its lower case. -/
theorem toLowercaseFrom_parts (hc : U.lower c = ['i']) (hd : U.lower d = ['\u0307']) :
    U.toLowercaseFrom [] [c, d] = U.lower '\u0130' := by
  have hc' := (isLetter_of_lower (by decide) (by decide) hc).2
  have hd' := (isLetter_of_lower (by decide) (by decide) hd).2
  rw [toLowercaseFrom_of_notMem (by simp [hc'.symm, hd'.symm]), List.flatMap_cons, hc,
    List.flatMap_singleton, hd, U.lower_dotted]
  rfl

theorem ListsAgree.dottedPattern (h : ListsAgree U B C) (hdotted : '\u0130' ∈ B) :
    ¬((∃ c ∈ C, U.lower c = ['i']) ∧ ∃ c ∈ C, U.lower c = ['\u0307']) := by
  rintro ⟨⟨c, hc, hi⟩, d, hd, hdot⟩
  have hletter : ∀ e ∈ ['\u0130'], IsLetter e := List.forall_mem_singleton.2 (by decide)
  have hsame := h ['\u0130'] [c, d] (List.cons_ne_nil _ _) (List.cons_ne_nil _ _)
    (List.forall_mem_singleton.2 hdotted) (by simp [hc, hd])
  rw [client_letters hletter, server_letters hletter, toLowercaseFrom_singleton,
    toLowercaseFrom_parts hi hdot] at hsame
  nomatch (List.forall₂_cons.1 (hsame.2 rfl)).2

theorem ListsAgree.dottedText (h : ListsAgree U B C) (hdotted : '\u0130' ∈ C) :
    ¬((∃ p ∈ B, U.lower p = ['i']) ∧ ∃ p ∈ B, U.lower p = ['\u0307']) := by
  rintro ⟨⟨c, hc, hi⟩, d, hd, hdot⟩
  have hletter : ∀ e ∈ [c, d], IsLetter e := by
    simp [(isLetter_of_lower (by decide) (by decide) hi).1,
      (isLetter_of_lower (by decide) (by decide) hdot).1]
  have hsame := h [c, d] ['\u0130'] (List.cons_ne_nil _ _) (List.cons_ne_nil _ _)
    (by simp [hc, hd]) (List.forall_mem_singleton.2 hdotted)
  rw [client_letters hletter, server_letters hletter, toLowercaseFrom_singleton,
    toLowercaseFrom_parts hi hdot] at hsame
  nomatch (List.forall₂_cons.1 (hsame.2 rfl)).2

/-- Beside a star the dotted capital I is matched by half. -/
theorem ListsAgree.dottedStar (h : ListsAgree U B C) (hdotted : '\u0130' ∈ C) (hstar : '*' ∈ B)
    (hc : c ∈ B) : U.lower c ≠ ['i'] ∧ U.lower c ≠ ['\u0307'] := by
  have hfold : IsLetter c → ∀ e, U.lower c = [e] →
      foldUnits U.toCaseMapping c ≠ foldUnits U.toCaseMapping '\u0130' := by
    intro hletter e he hfold
    have halike : U.lower c = U.lower '\u0130' := (h.letters hc hletter hdotted).1 hfold
    rw [he, U.lower_dotted] at halike
    nomatch (List.cons.inj halike).2
  have htext : ∀ e ∈ ['\u0130'], e ∈ C := List.forall_mem_singleton.2 hdotted
  constructor
  · intro hi
    obtain ⟨hletter, hsigma⟩ := isLetter_of_lower (by decide) (by decide) hi
    have hsame := h [c, '*'] ['\u0130'] (List.cons_ne_nil _ _) (List.cons_ne_nil _ _)
      (by simp [hc, hstar]) htext
    rw [toLowercaseFrom_singleton, U.lower_dotted,
      toLowercaseFrom_of_notMem (by simp [hsigma.symm]), List.flatMap_cons, hi,
      List.flatMap_singleton, lower_wildcard (Or.inl rfl),
      unitsMatch_iff (by simp [hletter.2.symm]), List.map_cons,
      globItem_char hletter.1 hletter.2] at hsame
    have hserver : matchesGlob ['i', '*'] ['i', '\u0307'] = true := by simp [matchesGlob]
    exact hfold hletter _ hi (matches_lit_cons.1 (hsame.2 hserver)).1
  · intro hdot
    obtain ⟨hletter, hsigma⟩ := isLetter_of_lower (by decide) (by decide) hdot
    have hsame := h ['*', c] ['\u0130'] (List.cons_ne_nil _ _) (List.cons_ne_nil _ _)
      (by simp [hc, hstar]) htext
    rw [toLowercaseFrom_singleton, U.lower_dotted,
      toLowercaseFrom_of_notMem (by simp [hsigma.symm]), List.flatMap_cons,
      lower_wildcard (Or.inl rfl), List.flatMap_singleton, hdot,
      unitsMatch_iff (by simp [hletter.2.symm]), List.map_cons, List.map_singleton,
      globItem_char hletter.1 hletter.2] at hsame
    have hserver : matchesGlob ['*', '\u0307'] ['i', '\u0307'] = true := by simp [matchesGlob]
    rcases matches_star_cons.1 (hsame.2 hserver) with hclient | ⟨-, hclient⟩
    · exact hfold hletter _ hdot (matches_lit_cons.1 hclient).1
    · exact matches_lit_nil (matches_star_nil.1 hclient)

/-! ### Sigmas -/

theorem foldUnits_sigma (hc : IsSigma c) : foldUnits U.toCaseMapping c = ['Σ'.toNat] := by
  have hfold : ∀ d ∈ ['Σ', 'σ', 'ς'], foldUnits U.toCaseMapping d = ['Σ'.toNat] := by
    intro d hd
    have hplane : ∀ d ∈ ['Σ', 'σ', 'ς'], d.toNat < 0x10000 := by decide
    have hcode : codeUnits d = [d.toNat] := if_pos (hplane d hd)
    have hvalid : d.toNat.isValidChar := d.valid
    rw [foldUnits, hcode, List.map_singleton, canonicalize, if_pos hvalid, Char.ofNat_toNat,
      U.upper_sigmas d hd]
    show [if 128 ≤ d.toNat ∧ 'Σ'.toNat < 128 then d.toNat else 'Σ'.toNat] = _
    rw [if_neg fun hlow ↦ absurd hlow.2 (by decide)]
  exact hfold c (by simpa [IsSigma] using hc)

theorem isLetter_of_isSigma (hc : IsSigma c) : IsLetter c := by
  rcases hc with rfl | rfl | rfl <;> decide

/-- Sigmas that meet are both final, or both are not. -/
theorem ListsAgree.final_iff (h : ListsAgree U B C) (hd : d ∈ B) (hd' : IsSigma d) (hc : c ∈ C)
    (hc' : IsSigma c) : d = 'ς' ↔ c = 'ς' := by
  have halike : U.lower d = U.lower c := (h.letters hd (isLetter_of_isSigma hd') hc).1
    ((foldUnits_sigma hd').trans (foldUnits_sigma hc').symm)
  constructor
  · rintro rfl
    exact U.eq_of_lower_eq_finalSigma c (halike ▸ U.lower_finalSigma)
  · rintro rfl
    exact U.eq_of_lower_eq_finalSigma d (halike.trans U.lower_finalSigma)

/-- The capital sigmas of a word meet no small ones. -/
theorem ListsAgree.capital_small (h : ListsAgree U B C) :
    ¬('Σ' ∈ B ∧ 'σ' ∈ C) ∧ ¬('σ' ∈ B ∧ 'Σ' ∈ C) := by
  have hsmall : U.toLowercaseFrom [] ['σ', 'σ'] = ['σ', 'σ'] := by
    rw [toLowercaseFrom_of_notMem (by decide), List.flatMap_cons, List.flatMap_singleton,
      U.lower_sigma]
    rfl
  have hfold : foldUnits U.toCaseMapping 'Σ' = foldUnits U.toCaseMapping 'σ' :=
    (foldUnits_sigma (by decide)).trans (foldUnits_sigma (by decide)).symm
  constructor
  · rintro ⟨hB, hC⟩
    have hsame := h ['Σ', 'Σ'] ['σ', 'σ'] (List.cons_ne_nil _ _) (List.cons_ne_nil _ _)
      (by simp [hB]) (by simp [hC])
    rw [client_letters (by decide), server_letters (by decide), hsmall, toLowercaseFrom_sigmas]
      at hsame
    exact absurd (hsame.1 (by simp [hfold])) (by decide)
  · rintro ⟨hB, hC⟩
    have hsame := h ['σ', 'σ'] ['Σ', 'Σ'] (List.cons_ne_nil _ _) (List.cons_ne_nil _ _)
      (by simp [hB]) (by simp [hC])
    rw [client_letters (by decide), server_letters (by decide), hsmall, toLowercaseFrom_sigmas]
      at hsame
    exact absurd (hsame.1 (by simp [hfold])) (by decide)

/-- A capital sigma after a wildcard is not at the end of a word, as what it meets may be. -/
theorem ListsAgree.capital_wildcard (h : ListsAgree U B C) (hB : 'Σ' ∈ B) (hC : 'Σ' ∈ C) :
    '*' ∉ B ∧ '?' ∉ B := by
  have htext : ∀ e ∈ ['Σ', 'Σ'], e ∈ C := by simp [hC]
  have hsingle : ∀ e ∈ ['Σ', 'Σ'], e.toNat < 0x10000 := by decide
  have hlower : ∀ w ∈ ['*', '?'], U.toLowercaseFrom [] [w, 'Σ'] = [w, 'σ'] := by
    intro w hw
    have hlower := lower_wildcard (U := U) (by simpa using hw : w = '*' ∨ w = '?')
    have hne : w ≠ 'Σ' := by rintro rfl; exact absurd hw (by decide)
    rw [toLowercaseFrom, if_neg hne, hlower, toLowercaseFrom, if_pos rfl,
      mapUppercaseSigma_wildcard hw]
    rfl
  constructor
  · intro hstar
    have hsame := h ['*', 'Σ'] ['Σ', 'Σ'] (List.cons_ne_nil _ _) (List.cons_ne_nil _ _)
      (by simp [hstar, hB]) htext
    rw [hlower '*' (by decide), toLowercaseFrom_sigmas, unitsMatch_iff fun _ ↦ hsingle] at hsame
    have hserver := hsame.1 (Matches.more rfl (Matches.skip (Matches.lit rfl Matches.nil)))
    simp [matchesGlob] at hserver
  · intro hany
    have hsame := h ['?', 'Σ'] ['Σ', 'Σ'] (List.cons_ne_nil _ _) (List.cons_ne_nil _ _)
      (by simp [hany, hB]) htext
    rw [hlower '?' (by decide), toLowercaseFrom_sigmas, unitsMatch_iff fun _ ↦ hsingle] at hsame
    have hserver := hsame.1 (Matches.any rfl (Matches.lit rfl Matches.nil))
    simp [matchesGlob] at hserver

theorem ListsAgree.sigma (h : ListsAgree U B C) (hcapital : 'Σ' ∈ B ∨ 'Σ' ∈ C) :
    (∀ p ∈ B, ¬IsSigma p) ∨ (∀ c ∈ C, ¬IsSigma c) ∨
      ('*' ∉ B ∧ '?' ∉ B ∧ (∀ p ∈ B, IsSigma p → p = 'Σ') ∧ ∀ c ∈ C, IsSigma c → c = 'Σ') := by
  by_cases hpattern : ∀ p ∈ B, ¬IsSigma p
  · exact Or.inl hpattern
  by_cases htext : ∀ c ∈ C, ¬IsSigma c
  · exact Or.inr (Or.inl htext)
  push Not at hpattern htext
  obtain ⟨p, hp, hsigma⟩ := hpattern
  obtain ⟨c, hc, hsigma'⟩ := htext
  obtain ⟨hcs, hsc⟩ := h.capital_small
  -- with a capital sigma about, no sigma is final, and then none is small
  have hnotFinal : ∀ d ∈ B, IsSigma d → ∀ e ∈ C, IsSigma e → d ≠ 'ς' ∧ e ≠ 'ς' := by
    intro d hd hd' e he he'
    have hiff := h.final_iff hd hd' he he'
    have hd'' : d ≠ 'ς' := by
      intro hfin
      rcases hcapital with hB | hC
      · exact absurd ((h.final_iff hB (Or.inl rfl) he he').2 (hiff.1 hfin)) (by decide)
      · exact absurd ((h.final_iff hd hd' hC (Or.inl rfl)).1 hfin) (by decide)
    exact ⟨hd'', fun hfin ↦ hd'' (hiff.2 hfin)⟩
  have hcapitalBoth : ∀ d ∈ B, IsSigma d → ∀ e ∈ C, IsSigma e → d = 'Σ' ∧ e = 'Σ' := by
    intro d hd hd' e he he'
    obtain ⟨hdf, hef⟩ := hnotFinal d hd hd' e he he'
    rcases hd' with rfl | rfl | rfl
    · rcases he' with rfl | rfl | rfl
      · exact ⟨rfl, rfl⟩
      · exact absurd ⟨hd, he⟩ hcs
      · exact absurd rfl hef
    · rcases he' with rfl | rfl | rfl
      · exact absurd ⟨hd, he⟩ hsc
      · exact hcapital.elim (fun hB ↦ absurd ⟨hB, he⟩ hcs) fun hC ↦ absurd ⟨hd, hC⟩ hsc
      · exact absurd rfl hef
    · exact absurd rfl hdf
  obtain ⟨rfl, rfl⟩ := hcapitalBoth p hp hsigma c hc hsigma'
  obtain ⟨hstar, hany⟩ := h.capital_wildcard hp hc
  exact Or.inr (Or.inr ⟨hstar, hany, fun d hd hd' ↦ (hcapitalBoth d hd hd' _ hc hsigma').1,
    fun e he he' ↦ (hcapitalBoth _ hp hsigma e he he').2⟩)

/-- What the two agree about has what it takes. -/
theorem ListsAgree.rulesAgree (h : ListsAgree U B C) : RulesAgree U B C where
  lines hwild _ hc := hwild.elim (fun hstar ↦ h.star hstar hc) fun hany ↦ (h.any hany hc).1
  single hany _ hc := (h.any hany hc).2
  letters _ hp hstar hany _ hc := h.letters hp ⟨hstar, hany⟩ hc
  dottedPattern := h.dottedPattern
  dottedText := h.dottedText
  dottedStar hdotted hstar _ hp := h.dottedStar hdotted hstar hp
  sigma := h.sigma

end Necessary

/-! ### Rules -/

section Rules

variable {U : UnicodeCase} {B C : Set Char}

/-- An empty pattern matches no text. -/
theorem globMatch_empty {text : String} (h : text ≠ "") : globMatch U "" text = false := by
  have hpattern : U.toLowercase "" = [] := by
    rw [UnicodeCase.toLowercase, String.toList_empty]
    rfl
  refine Bool.eq_false_iff.2 fun hmatch ↦ ?_
  rw [globMatch, hpattern, matchesGlob_iff, List.map_nil, matches_nil, UnicodeCase.toLowercase,
    toLowercaseFrom_eq, List.flatMap_eq_nil_iff] at hmatch
  obtain ⟨c, rest, htext⟩ :=
    List.exists_cons_of_ne_nil fun hnil ↦ h (String.toList_eq_nil_iff.1 hnil)
  have hfirst := hmatch (c, U.isWordFinal [] rest) (by rw [htext]; exact List.mem_cons_self)
  obtain ⟨d, hd⟩ | ⟨d, e, hd⟩ := isShort_lowerAt (U := U) (c, U.isWordFinal [] rest)
  · exact absurd (hd.symm.trans hfirst) (List.cons_ne_nil _ _)
  · exact absurd (hd.symm.trans hfirst) (List.cons_ne_nil _ _)

/-- The two agree about strings when they agree about their characters. -/
theorem listsAgree_iff : ListsAgree U B C ↔
    ∀ pattern text : String, (∀ c ∈ pattern.toList, c ∈ B) → (∀ c ∈ text.toList, c ∈ C) →
      text ≠ "" → matchGlob U.toCaseMapping pattern text = some (globMatch U pattern text) := by
  constructor
  · intro h pattern text hp ht htext
    by_cases hpattern : pattern = ""
    · rw [matchGlob, if_pos (Or.inl hpattern), hpattern, globMatch_empty htext]
    · obtain ⟨b, hb⟩ := exists_matchGlob U.toCaseMapping pattern text
      have hclient := matchGlob_iff (M := U.toCaseMapping) pattern htext
      have hsame := h pattern.toList text.toList (fun h ↦ hpattern (String.toList_eq_nil_iff.1 h))
        (fun h ↦ htext (String.toList_eq_nil_iff.1 h)) hp ht
      rw [hb, Option.some_inj, and_iff_right hpattern, hsame] at hclient
      rw [hb, Bool.eq_iff_iff.2 hclient]
      rfl
  · intro h p t hp ht hpB htC
    have hpattern : String.ofList p ≠ "" := fun heq ↦ hp <| by
      rw [← String.toList_ofList (l := p), heq, String.toList_empty]
    have htext : String.ofList t ≠ "" := fun heq ↦ ht <| by
      rw [← String.toList_ofList (l := t), heq, String.toList_empty]
    have hsame := h (String.ofList p) (String.ofList t) (by rwa [String.toList_ofList])
      (by rwa [String.toList_ofList]) htext
    have hclient := matchGlob_iff (M := U.toCaseMapping) (String.ofList p) htext
    rw [hsame, Option.some_inj, and_iff_right hpattern, String.toList_ofList,
      String.toList_ofList] at hclient
    rw [← hclient, globMatch, UnicodeCase.toLowercase, UnicodeCase.toLowercase,
      String.toList_ofList, String.toList_ofList]

/-- **Where rules are matched alike**: the client and the server agree about every pattern and every
name that may be written with some characters exactly when these are as `RulesAgree` has them. -/
theorem matchGlob_eq_globMatch_iff (U : UnicodeCase) (B C : Set Char) :
    (∀ pattern text : String, (∀ c ∈ pattern.toList, c ∈ B) → (∀ c ∈ text.toList, c ∈ C) →
      text ≠ "" → matchGlob U.toCaseMapping pattern text = some (globMatch U pattern text)) ↔
      RulesAgree U B C := by
  rw [← listsAgree_iff]
  constructor
  · -- each condition by a pattern and a name that need it
    exact ListsAgree.rulesAgree
  · -- both come to one match of characters
    exact RulesAgree.listsAgree

/-! ### ASCII -/

theorem foldUnits_ascii (U : UnicodeCase) {c : Char} (h : c.toNat < 0x80) :
    foldUnits U.toCaseMapping c = [c.toUpper.toNat] := by
  have hupper := Text.toNat_toUpper_lt h
  have hvalid : c.toNat.isValidChar := c.valid
  have hcode : codeUnits c = [c.toNat] := if_pos (h.trans (by decide))
  have hcode' : codeUnits c.toUpper = [c.toUpper.toNat] := if_pos (hupper.trans (by decide))
  rw [foldUnits, hcode, List.map_singleton, canonicalize, if_pos hvalid, Char.ofNat_toNat,
    U.upper_ascii c h, List.flatMap_singleton, hcode']
  show [if 128 ≤ c.toNat ∧ c.toUpper.toNat < 128 then c.toNat else c.toUpper.toNat] = _
  rw [if_neg fun hlarge ↦ absurd h (not_lt.2 hlarge.1)]

/-- In ASCII the two foldings are alike. -/
theorem foldUnits_ascii_iff (U : UnicodeCase) {c d : Char} (hc : c.toNat < 0x80)
    (hd : d.toNat < 0x80) :
    foldUnits U.toCaseMapping c = foldUnits U.toCaseMapping d ↔ U.Alike c d := by
  rw [foldUnits_ascii U hc, foldUnits_ascii U hd, Alike, U.lower_ascii c hc, U.lower_ascii d hd,
    List.singleton_inj, List.singleton_inj, Char.toNat_inj]
  constructor
  · intro h
    rw [← Text.toLower_toUpper hc, h, Text.toLower_toUpper hd]
  · intro h
    rw [← Text.toUpper_toLower hc, h, Text.toUpper_toLower hd]

/-- **In ASCII without line breaks** the client and the server agree. -/
theorem rulesAgree_ascii (U : UnicodeCase) (hB : ∀ p ∈ B, p.toNat < 0x80)
    (hC : ∀ c ∈ C, c.toNat < 0x80 ∧ isLineTerminator c.toNat = false) : RulesAgree U B C where
  lines _ c hc := (hC c hc).2
  single _ c hc :=
    ⟨(hC c hc).1.trans (by decide), fun h ↦ absurd (h ▸ (hC c hc).1) (by decide)⟩
  letters p hp _ _ c hc := foldUnits_ascii_iff U (hB p hp) (hC c hc).1
  dottedPattern h := absurd (hB _ h) (by decide)
  dottedText h := absurd (hC _ h).1 (by decide)
  dottedStar h := absurd (hC _ h).1 (by decide)
  sigma h := h.elim (fun h ↦ absurd (hB _ h) (by decide)) fun h ↦ absurd (hC _ h).1 (by decide)

/-- In ASCII the lower case is the one of the analytics. -/
theorem toLowercase_ascii (U : UnicodeCase) {s : String} (h : Text.IsAscii s.toList) :
    U.toLowercase s = Sumurai.toLowercase s := by
  have hcapital : 'Σ' ∉ s.toList := fun hmem ↦ absurd (h _ hmem) (by decide)
  have hmapped : ∀ M : CaseMapping, s.toList.flatMap M.lower = s.toList.map Char.toLower :=
    fun M ↦ M.lowerCase_of_isAscii h
  rw [UnicodeCase.toLowercase, toLowercaseFrom_of_notMem hcapital, hmapped U.toCaseMapping]
  exact (hmapped simpleCase).symm

/-- **In ASCII** a rule matches as the analytics have it. -/
theorem globMatch_ascii (U : UnicodeCase) {pattern text : String}
    (hpattern : Text.IsAscii pattern.toList) (htext : Text.IsAscii text.toList) :
    globMatch U pattern text = Sumurai.globMatch pattern text := by
  rw [globMatch, Sumurai.globMatch, toLowercase_ascii U hpattern, toLowercase_ascii U htext]

end Rules

/-! ### A name outside of the basic plane -/

section Greek

/-- The lower case of the backend, with the sigmas. -/
def greekLower (c : Char) : List Char :=
  if c = 'Σ' then ['σ'] else lowercaseChar c

/-- The capital letters of ASCII, and the capital sigma. -/
def greekUpper (c : Char) : List Char :=
  if IsSigma c then ['Σ'] else [c.toUpper]

theorem greekLower_of_ne {c : Char} (h : c ≠ 'Σ') : greekLower c = simpleCase.lower c :=
  if_neg h

theorem greekUpper_of_not {c : Char} (h : ¬IsSigma c) : greekUpper c = simpleCase.upper c :=
  if_neg h

theorem not_isSigma_ascii {c : Char} (h : c.toNat < 128) : ¬IsSigma c := by
  rintro (rfl | rfl | rfl) <;> exact absurd h (by decide)

/-- A character outside of ASCII is, by itself, the lower case of itself and of the capital sigma
alone. -/
theorem eq_of_greekLower {c d : Char} (hd : 128 ≤ d.toNat) (hc : c ≠ 'Σ')
    (h : greekLower c = [d]) : c = d := by
  rw [greekLower, if_neg hc, lowercaseChar] at h
  split at h
  · rw [List.singleton_inj] at h
    exact absurd (h ▸ hd) (by decide)
  · split at h
    · exact absurd (List.cons.inj h).2 (List.cons_ne_nil _ _)
    · rw [List.singleton_inj] at h
      rcases Nat.lt_or_ge c.toNat 128 with hascii | hother
      · exact absurd (h ▸ hd) (not_le.2 (Text.toNat_toLower_lt hascii))
      · rw [← h, Text.toLower_of_le hother]

/-- A case mapping of ASCII and of the sigmas. -/
def greekCase : UnicodeCase where
  lower := greekLower
  upper := greekUpper
  lower_ascii c h := by
    rw [greekLower_of_ne fun heq ↦ not_isSigma_ascii h (Or.inl heq)]
    exact simpleCase.lower_ascii c h
  lower_kelvin := rfl
  lower_dotted := rfl
  lower_other c hc hkelvin hdotted d hd := by
    by_cases h : c = 'Σ'
    · rw [h] at hd
      rw [List.mem_singleton.1 (hd : d ∈ ['σ'])]
      decide
    · rw [greekLower_of_ne h] at hd
      exact simpleCase.lower_other c hc hkelvin hdotted d hd
  lower_ne_nil c := by
    by_cases h : c = 'Σ'
    · rw [h]
      decide
    · rw [greekLower_of_ne h]
      exact simpleCase.lower_ne_nil c
  upper_ascii c h := by
    rw [greekUpper_of_not (not_isSigma_ascii h)]
    exact simpleCase.upper_ascii c h
  upper_other c hc d hd := by
    by_cases h : IsSigma c
    · rw [greekUpper, if_pos h, List.mem_singleton] at hd
      rw [hd]
      decide
    · rw [greekUpper_of_not h] at hd
      exact simpleCase.upper_other c hc d hd
  cased c := (greekLower c).any fun d ↦ d.isAlpha || IsSigma d
  caseIgnorable c := (greekLower c).all fun d ↦ d ∈ ['.', ':', '^', '\u0307', '\u2019']
  lower_single c h := by
    rw [greekLower, lowercaseChar, if_neg h]
    split
    · exact ⟨_, rfl⟩
    · split
      · exact ⟨_, rfl⟩
      · exact ⟨_, rfl⟩
  lower_capitalSigma := rfl
  lower_finalSigma := by decide
  eq_of_lower_eq_sigma c h := by
    by_cases hc : c = 'Σ'
    · exact Or.inl hc
    · exact Or.inr (eq_of_greekLower (by decide) hc h)
  eq_of_lower_eq_finalSigma c h := by
    by_cases hc : c = 'Σ'
    · rw [hc] at h
      exact absurd h (by decide)
    · exact eq_of_greekLower (by decide) hc h
  lower_sigma := by decide
  upper_sigmas c hc := if_pos (by simpa [IsSigma] using hc)
  cased_sigma := by decide
  caseIgnorable_sigma := by decide
  cased_wildcard := by decide
  caseIgnorable_wildcard := by decide
  cased_congr c d h := by rw [h]
  caseIgnorable_congr c d h := by rw [h]

/-- A question mark takes any character on the server, and one code unit on the client. -/
theorem pizza_differs : matchGlob greekCase.toCaseMapping "PIZZA ?" "PIZZA 🍕" = some false ∧
    globMatch greekCase "PIZZA ?" "PIZZA 🍕" = true := by
  constructor
  · decide +kernel
  · have hpattern : greekCase.toLowercase "PIZZA ?" = ['p', 'i', 'z', 'z', 'a', ' ', '?'] := by
      decide +kernel
    have htext : greekCase.toLowercase "PIZZA 🍕" = ['p', 'i', 'z', 'z', 'a', ' ', '🍕'] := by
      decide +kernel
    rw [globMatch, hpattern, htext]
    simp [matchesGlob]

end Greek


end Sumurai.Frontend
