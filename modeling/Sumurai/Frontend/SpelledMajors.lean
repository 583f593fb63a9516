import Sumurai.Foundations.Words
import Sumurai.Frontend.BudgetAgreement

/-!
# Names written like a major category

A name is written like a major category if it is that category but for the case, or is shown like
it: underscores are shown as spaces, and `other` as Shopping. Such a name resolves to the category
(`resolveMajorCategory_of_spells`), although the resolver looks at the name in many other ways
first.

The letters of a name are among those of the name as it is shown, so none of the keys and phrases
that the resolver looks for can be in the name unless it is in the major category as well. The names
of the taxonomy are compared as they are.
-/

namespace Sumurai.Frontend

open Text

variable (M : CaseMapping)

/-! ### The letters of a name -/

/-- The letters that a character has in lower case, but for `i` and `k`. -/
def plainLetters (c : Char) : List Char :=
  plainKey (asciiKey (M.lower c))

theorem plainKey_lowerCase (s : List Char) :
    plainKey (asciiKey (M.lowerCase s)) = s.flatMap (plainLetters M) := by
  rw [CaseMapping.lowerCase, asciiKey, plainKey, List.filter_flatMap, List.filter_flatMap]
  rfl

/-- What a name is split at. -/
def isSeparator (c : Char) : Bool :=
  c = '_' || isSpace c

theorem words_eq (s : List Char) :
    words s = (s.splitOnP isSeparator).filter fun word ↦ word ≠ [] :=
  rfl

theorem plainLetters_separator {c : Char} (hc : isSeparator c) : plainLetters M c = [] := by
  have halphanum : c.isAlphanum = false := by
    obtain rfl | hspace : c = '_' ∨ isSpace c = true := by simpa [isSeparator] using hc
    · decide
    · exact not_isAlphanum_of_isSpace c hspace
  rw [plainLetters]
  obtain ⟨hascii, hlower⟩ | ⟨-, hlower⟩ | ⟨-, hlower⟩ | ⟨-, hlower⟩ := M.lower_cases c
  · rw [hlower, CaseMapping.asciiKey_toLower hascii, halphanum]
    rfl
  · rw [hlower]
    decide
  · rw [hlower]
    decide
  · rw [CaseMapping.asciiKey_eq_nil hlower]
    rfl

theorem asciiKey_lower_space {c : Char} (hc : isSpace c = true) : asciiKey (M.lower c) = [] := by
  have halphanum := not_isAlphanum_of_isSpace c hc
  obtain ⟨hascii, hlower⟩ | ⟨rfl, -⟩ | ⟨rfl, -⟩ | ⟨-, hlower⟩ := M.lower_cases c
  · rw [hlower, CaseMapping.asciiKey_toLower hascii, halphanum]
    rfl
  · exact absurd hc (by decide)
  · exact absurd hc (by decide)
  · exact CaseMapping.asciiKey_eq_nil hlower

/-- A key is the same with the spaces around the name. -/
theorem asciiKey_lowerCase_trim (s : List Char) :
    asciiKey (M.lowerCase (trim s)) = asciiKey (M.lowerCase s) := by
  have hletters (l : List Char) : asciiKey (M.lowerCase l) =
      (l.filter fun c ↦ !isSpace c).flatMap fun c ↦ asciiKey (M.lower c) := by
    rw [flatMap_filter_eq fun c hc ↦ asciiKey_lower_space M (by simpa using hc), asciiKey,
      CaseMapping.lowerCase, List.filter_flatMap]
    rfl
  have hstrip : (trim s).filter (fun c ↦ !isSpace c) = s.filter fun c ↦ !isSpace c :=
    filter_strip (fun c hc ↦ by rw [hc]; rfl) s
  rw [hletters, hletters s, hstrip]

/-- A letter stays when it is put into another case first. -/
theorem plainLetters_sublist {c : Char} {s : List Char}
    (hs : c.toNat < 128 → M.lowerCase s = [c.toLower]) :
    (plainLetters M c).Sublist (s.flatMap (plainLetters M)) := by
  rw [← plainKey_lowerCase, plainLetters]
  obtain ⟨hascii, hlower⟩ | ⟨-, hlower⟩ | ⟨-, hlower⟩ | ⟨-, hlower⟩ := M.lower_cases c
  · rw [hlower, hs hascii]
  · rw [hlower]
    exact List.nil_sublist _
  · rw [hlower]
    exact List.nil_sublist _
  · rw [CaseMapping.asciiKey_eq_nil hlower]
    exact List.nil_sublist _

theorem lowerCase_upper {c : Char} (h : c.toNat < 128) : M.lowerCase (M.upper c) = [c.toLower] := by
  rw [M.upper_ascii c h, CaseMapping.lowerCase_cons, M.lower_ascii _ (toNat_toUpper_lt h),
    toLower_toUpper h]
  rfl

theorem lowerCase_lower {c : Char} (h : c.toNat < 128) : M.lowerCase (M.lower c) = [c.toLower] := by
  have hlower : c.toLower.toLower = c.toLower :=
    forall_ascii (P := fun c ↦ c.toLower.toLower = c.toLower) (by decide) h
  rw [M.lower_ascii c h, CaseMapping.lowerCase_cons, M.lower_ascii _ (toNat_toLower_lt h), hlower]
  rfl

/-- The letters of a word are among those of the word with a capital letter. -/
theorem letters_capitalize (word : List Char) :
    (word.flatMap (plainLetters M)).Sublist ((capitalize M word).flatMap (plainLetters M)) := by
  cases word with
  | nil => exact List.nil_sublist _
  | cons c word =>
    rw [capitalize, List.flatMap_cons, List.flatMap_append, CaseMapping.lowerCase,
      List.flatMap_assoc]
    exact (plainLetters_sublist M fun h ↦ lowerCase_upper M h).append
      (List.Sublist.flatMap_right _ fun d _ ↦ plainLetters_sublist M fun h ↦ lowerCase_lower M h)

/-- The words of a name, each with a capital letter. -/
def capitalized (s : List Char) : List Char :=
  [' '].intercalate ((words s).map (capitalize M))

/-- **The letters of a name** are among those of its words as they are shown. -/
theorem letters_capitalized (s : List Char) :
    (plainKey (asciiKey (M.lowerCase s))).Sublist
      (plainKey (asciiKey (M.lowerCase (capitalized M s)))) := by
  have hspace : [' '].flatMap (plainLetters M) = [] := by
    rw [List.flatMap_singleton]
    exact plainLetters_separator M (by decide)
  rw [plainKey_lowerCase, plainKey_lowerCase, capitalized, flatMap_intercalate hspace,
    ← flatMap_splitOnP (fun c hc ↦ plainLetters_separator M hc) s, ← flatMap_filter_ne_nil,
    ← words_eq, List.flatMap_map]
  exact List.Sublist.flatMap_right _ fun word _ ↦ letters_capitalize M word

/-! ### ASCII names -/

theorem isSpace_toLower (c : Char) : isSpace c.toLower = isSpace c := by
  rcases Nat.lt_or_ge c.toNat 128 with h | h
  · exact forall_ascii (P := fun c ↦ isSpace c.toLower = isSpace c) (by decide) h
  · rw [toLower_of_le h]

theorem isSeparator_toLower (c : Char) : isSeparator c.toLower = isSeparator c := by
  rcases Nat.lt_or_ge c.toNat 128 with h | h
  · exact forall_ascii (P := fun c ↦ isSeparator c.toLower = isSeparator c) (by decide) h
  · rw [toLower_of_le h]

theorem trim_map_toLower (s : List Char) :
    trim (s.map Char.toLower) = (trim s).map Char.toLower := by
  have hspace : isSpace ∘ Char.toLower = isSpace := funext isSpace_toLower
  rw [trim, strip, List.dropWhile_map, hspace, List.rdropWhile, ← List.map_reverse,
    List.dropWhile_map, hspace, ← List.map_reverse]
  rfl

/-- The words of an ASCII name are the same in lower case. -/
theorem words_map_toLower (s : List Char) :
    words (s.map Char.toLower) = (words s).map (List.map Char.toLower) := by
  rw [words_eq, splitOnP_map, funext isSeparator_toLower, words_eq, List.filter_map]
  refine congrArg _ (List.filter_congr fun word _ ↦ ?_)
  simp

theorem isAscii_word {s word : List Char} (hs : IsAscii s) (hword : word ∈ words s) :
    IsAscii word :=
  fun c hc ↦ hs c (mem_of_mem_splitOnP (List.mem_filter.1 hword).1 hc)

theorem lowerCase_capitalize {word : List Char} (h : IsAscii word) :
    M.lowerCase (capitalize M word) = word.map Char.toLower := by
  cases word with
  | nil => rfl
  | cons c word =>
    have hrest : M.lowerCase (M.lowerCase word) = word.map Char.toLower := by
      rw [CaseMapping.lowerCase, CaseMapping.lowerCase, List.flatMap_assoc, List.map_eq_flatMap]
      exact List.flatMap_congr fun d hd ↦ lowerCase_lower M (h d (List.mem_cons_of_mem c hd))
    rw [capitalize, CaseMapping.lowerCase, List.flatMap_append, List.map_cons]
    exact congrArg₂ (· ++ ·) (lowerCase_upper M (h c List.mem_cons_self)) hrest

theorem lowerCase_intercalate (words : List (List Char)) :
    M.lowerCase ([' '].intercalate words) = [' '].intercalate (words.map M.lowerCase) := by
  have hspace : M.lower ' ' = [' '] := M.lower_ascii ' ' (by decide)
  induction words with
  | nil => rfl
  | cons word words ih =>
    cases words with
    | nil => rw [List.intercalate_singleton, List.map_singleton, List.intercalate_singleton]
    | cons next words =>
      rw [List.intercalate_cons_cons, CaseMapping.lowerCase, List.flatMap_append,
        List.flatMap_append, List.flatMap_singleton, hspace, List.map_cons, List.map_cons,
        List.intercalate_cons_cons, ← List.map_cons, ← ih]
      rfl

/-- **An ASCII name** is shown as its words, which are the same in lower case. -/
theorem lowerCase_capitalized {s : List Char} (h : IsAscii s) :
    M.lowerCase (capitalized M s) = [' '].intercalate (words (s.map Char.toLower)) := by
  rw [capitalized, lowerCase_intercalate, words_map_toLower, List.map_map]
  exact congrArg _ (List.map_congr_left fun word hword ↦
    lowerCase_capitalize M (isAscii_word h hword))

/-- Text in lower case without a `k` is that of an ASCII name, if it is ASCII. -/
theorem isAscii_of_lowerCase {s : List Char} (h : IsAscii (M.lowerCase s))
    (hk : 'k' ∉ M.lowerCase s) : IsAscii s := by
  intro c hc
  have hmem {d : Char} (hd : d ∈ M.lower c) : d ∈ M.lowerCase s := List.mem_flatMap.2 ⟨c, hc, hd⟩
  obtain ⟨hascii, -⟩ | ⟨-, hlower⟩ | ⟨-, hlower⟩ | ⟨-, hlower⟩ := M.lower_cases c
  · exact hascii
  · exact absurd (hmem (hlower ▸ List.mem_singleton_self 'k')) hk
  · have hdot := h _ (hmem (hlower ▸ List.mem_cons_of_mem 'i' (List.mem_singleton_self '\u0307')))
    exact absurd hdot (by decide)
  · obtain ⟨d, hd⟩ := List.exists_mem_of_ne_nil _ (M.lower_ne_nil c)
    exact absurd (h d (hmem hd)) (not_lt.2 (hlower d hd))

/-! ### What was checked -/

/-- What the words of a name are in lower case if it is shown as a major category, with this
category. -/
def shownTexts : List (List Char × String) :=
  (CATEGORIES_TAXONOMY.map fun cat ↦ (loweredBytes cat.name, cat.name)) ++
    [("general merchandise".toList, "Shopping"), ("other".toList, "Shopping")]

/-- The keys that the resolver files by hand. -/
def keyRules : List (List (List Char) × String) :=
  [(["rentandutilities".toList, "rentutilities".toList, "rentandutilitieswater".toList,
      "rentutilitieswater".toList], "Bills & Utilities"),
    (["homesupplies".toList, "householdsupplies".toList], "Home Improvement"),
    (["personalcare".toList, "generalmerchandise".toList, "other".toList, "uncategorized".toList,
      "unknown".toList], "Shopping"),
    (["foodanddrink".toList, "fooddrink".toList], "Food & Dining"),
    (["general".toList], "Shopping")]

/-- The keys and phrases of the resolver have letters that the major categories have not in this
order, but for those that resolve to the category. -/
theorem shownTexts_apart : ∀ e ∈ shownTexts,
    (∀ rule ∈ keyRules, ∀ key ∈ rule.1,
      (plainKey key).Sublist (plainKey (asciiKey e.1)) → rule.2 = e.2) ∧
    (∀ letters ∈ ["water".toList, "rentandutltes".toList, "rentutltes".toList],
      ¬letters.Sublist (plainKey (asciiKey e.1))) ∧
    ("other".toList.Sublist (plainKey (asciiKey e.1)) → e = ("other".toList, "Shopping")) := by
  decide +kernel

/-- The names of the taxonomy are shown as they are. Those with a `k` have letters that the major
categories have not in this order. -/
theorem taxonomy_apart : ∀ cat ∈ CATEGORIES_TAXONOMY, ∀ s ∈ cat.name :: cat.subcategories,
    IsAscii (loweredBytes s) ∧ [' '].intercalate (words (loweredBytes s)) = loweredBytes s ∧
      ('k' ∈ loweredBytes s → ∀ e ∈ shownTexts,
        ¬(plainKey (asciiKey (loweredBytes s))).Sublist (plainKey (asciiKey e.1))) := by
  decide +kernel

/-- The major categories are shown as themselves. -/
theorem majors_shown : ∀ cat ∈ CATEGORIES_TAXONOMY,
    loweredBytes cat.name ∉ ["other".toList, "uncategorized".toList, "unknown".toList,
      "general merchandise".toList, "general_merchandise".toList, "general".toList] ∧
    plainKey (asciiKey (loweredBytes cat.name)) ≠ [] ∧ trim (loweredBytes cat.name) =
      loweredBytes cat.name ∧ 'k' ∉ loweredBytes cat.name := by
  decide +kernel

theorem majors_lowered : ∀ cat ∈ CATEGORIES_TAXONOMY,
    (loweredBytes cat.name).map Char.toLower = loweredBytes cat.name := by
  decide +kernel

/-- The names that are shown as Shopping are filed under it by their keys. -/
theorem shopping_filed : ∀ text ∈ ["other".toList, "uncategorized".toList, "unknown".toList,
      "general merchandise".toList, "general_merchandise".toList, "general".toList],
    asciiKey text ∉ ["rentandutilities".toList, "rentutilities".toList,
      "rentandutilitieswater".toList, "rentutilitieswater".toList] ∧
    asciiKey text ∉ ["homesupplies".toList, "householdsupplies".toList] ∧
    (asciiKey text ∈ ["personalcare".toList, "generalmerchandise".toList, "other".toList,
        "uncategorized".toList, "unknown".toList] ∨
      asciiKey text ∉ ["foodanddrink".toList, "fooddrink".toList] ∧
        text = "general".toList) := by
  decide +kernel

theorem shopping_notMem_taxonomy :
    taxonomyMajor loweredBytes "general merchandise".toList = none ∧
      taxonomyMajor loweredBytes "other".toList = none := by
  decide +kernel

/-! ### The resolver -/

section Shown

variable {M} {s : List Char} {e : List Char × String}

/-- No key of another rule is in the letters of a name that is shown as a major category. -/
theorem keyRule_eq (he : e ∈ shownTexts) (hshown : M.lowerCase (capitalized M s) = e.1)
    {rule : List (List Char) × String} (hrule : rule ∈ keyRules)
    (hkey : asciiKey (M.lowerCase s) ∈ rule.1) : rule.2 = e.2 :=
  (shownTexts_apart e he).1 rule hrule _ hkey (hshown ▸ letters_capitalized M s)

/-- A name of the taxonomy that is shown as a major category is that category. -/
theorem taxonomyMajor_of_shown (he : e ∈ shownTexts)
    (hshown : M.lowerCase (capitalized M s) = e.1) {major : String}
    (hmajor : taxonomyMajor loweredBytes (M.lowerCase s) = some major) : major = e.2 := by
  have hmem : M.lowerCase s ∈ taxonomyTexts := by
    by_contra hnot
    rw [taxonomyMajor_eq_none_iff.2 hnot] at hmajor
    exact absurd hmajor nofun
  obtain ⟨cat, hcat, hmem⟩ := List.mem_flatMap.1 hmem
  obtain ⟨name, hname, htext⟩ : ∃ name ∈ cat.name :: cat.subcategories,
      M.lowerCase s = loweredBytes name := by
    obtain htext | hsub := List.mem_cons.1 hmem
    · exact ⟨cat.name, List.mem_cons_self, htext.trans (lowered_eq (taxonomy_isAscii cat hcat).1)⟩
    · obtain ⟨sub, hsub, htext⟩ := List.mem_map.1 hsub
      exact ⟨sub, List.mem_cons_of_mem _ hsub,
        htext.symm.trans (lowered_eq ((taxonomy_isAscii cat hcat).2 sub hsub))⟩
  obtain ⟨hascii, hwords, hk⟩ := taxonomy_apart cat hcat name hname
  have hplain : 'k' ∉ M.lowerCase s := fun hmem ↦
    hk (htext ▸ hmem) e he (htext ▸ hshown ▸ letters_capitalized M s)
  -- the name is ASCII, so it is shown as it is
  have hs : IsAscii s := isAscii_of_lowerCase M (htext ▸ hascii) hplain
  rw [lowerCase_capitalized M hs, ← M.lowerCase_of_isAscii hs, htext, hwords] at hshown
  rw [htext, hshown] at hmajor
  obtain hcat | hshopping := List.mem_append.1 he
  · obtain ⟨other, hother, rfl⟩ := List.mem_map.1 hcat
    rw [taxonomyMajor, (othersFiled other hother).1] at hmajor
    exact (Option.some.inj hmajor).symm
  · obtain rfl | hother := List.mem_cons.1 hshopping
    · exact absurd (shopping_notMem_taxonomy.1.symm.trans hmajor) nofun
    · obtain rfl := List.mem_singleton.1 hother
      exact absurd (shopping_notMem_taxonomy.2.symm.trans hmajor) nofun

/-- The rule for `other`, of a name that is shown as a major category. -/
theorem other_of_shown (he : e ∈ shownTexts) (hshown : M.lowerCase (capitalized M s) = e.1)
    (hother : "other ".toList <+: M.lowerCase s) :
    ((findMajor M (trim ((M.lowerCase s).drop 6))).map fun cat ↦ cat.name).getD "Shopping" =
      e.2 := by
  have hkey : plainKey (asciiKey (M.lowerCase s)) =
      "other".toList ++ plainKey (asciiKey (trim ((M.lowerCase s).drop 6))) := by
    rw [asciiKey_of_other hother, plainKey_append, infixKeys.1.2.2.1]
  have hsub := letters_capitalized M s
  rw [hshown, hkey] at hsub
  obtain rfl := (shownTexts_apart e he).2.2 ((List.sublist_append_left _ _).trans hsub)
  cases hfind : findMajor M (trim ((M.lowerCase s).drop 6)) with
  | none => rfl
  | some cat =>
    -- there is no room for the letters of a category
    rw [findMajor_eq] at hfind
    have hcat := List.mem_of_find?_eq_some hfind
    have hfound := List.find?_some hfind
    rw [← of_decide_eq_true hfound] at hsub
    have hlength := hsub.length_le
    have hshort : (plainKey (asciiKey "other".toList)).length = "other".toList.length := by decide
    rw [List.length_append, hshort] at hlength
    have hzero : (plainKey (asciiKey (loweredBytes cat.name))).length = 0 := by omega
    exact absurd (List.length_eq_zero_iff.1 hzero) (majors_shown cat hcat).2.1

/-- A name that is shown as a major category is resolved by its words, or to the same category. -/
theorem resolveMajorCategory_of_shown {name : String} (hne : trim name.toList ≠ [])
    (he : e ∈ shownTexts) (hshown : M.lowerCase (capitalized M (trim name.toList)) = e.1)
    (hspelled : spelledMajor M (trim name.toList) = e.2) :
    resolveMajorCategory M name [] = e.2 := by
  have hletters := letters_capitalized M (trim name.toList)
  rw [hshown] at hletters
  rw [resolveMajorCategory_nil]
  simp only [if_neg hne]
  split
  · rename_i hkey
    exact keyRule_eq he hshown (List.mem_of_getElem? (show keyRules[0]? = some _ from rfl)) hkey
  split
  · rename_i hkey
    exact keyRule_eq he hshown (List.mem_of_getElem? (show keyRules[1]? = some _ from rfl)) hkey
  split
  · rename_i hkey
    exact keyRule_eq he hshown (List.mem_of_getElem? (show keyRules[2]? = some _ from rfl)) hkey
  split
  · rename_i hkey
    exact keyRule_eq he hshown (List.mem_of_getElem? (show keyRules[3]? = some _ from rfl)) hkey
  split
  · rename_i hgeneral
    have hkey : asciiKey (M.lowerCase (trim name.toList)) ∈ ["general".toList] := by
      rw [hgeneral]
      decide
    exact keyRule_eq he hshown (List.mem_of_getElem? (show keyRules[4]? = some _ from rfl)) hkey
  cases hmajor : taxonomyMajor loweredBytes (M.lowerCase (trim name.toList)) with
  | some major => exact taxonomyMajor_of_shown he hshown hmajor
  | none =>
    rw [Option.getD_none]
    split
    · rename_i hother
      exact other_of_shown he hshown hother
    split
    · rename_i hwater
      have hapart {t letters : List Char} (hphrase : t <:+: M.lowerCase (trim name.toList))
          (hplain : plainKey (asciiKey t) = letters)
          (hmem : letters ∈ ["water".toList, "rentandutltes".toList, "rentutltes".toList]) :
          False := by
        have hpart : letters <:+: plainKey (asciiKey (M.lowerCase (trim name.toList))) :=
          hplain ▸ (hphrase.filter isKeyChar).filter isPlain
        exact (shownTexts_apart e he).2.1 letters hmem (hpart.sublist.trans hletters)
      obtain h | h | h := hwater
      · exact (hapart h infixKeys.2.1 (by decide)).elim
      · exact (hapart h infixKeys.2.2.1 (by decide)).elim
      · exact (hapart h infixKeys.2.2.2 (by decide)).elim
    · exact hspelled

end Shown

/-! ### Names that are written like a major category -/

/-- How a name is shown. -/
theorem formatCategoryName_cases {name : String} (hne : trim name.toList ≠ []) :
    (M.lowerCase (trim name.toList) ∈ ["other".toList, "uncategorized".toList, "unknown".toList,
        "general merchandise".toList, "general_merchandise".toList, "general".toList] ∧
      formatCategoryName M name = "Shopping") ∨
    ((M.lowerCase (capitalized M (trim name.toList)) = "general merchandise".toList ∨
        M.lowerCase (capitalized M (trim name.toList)) = "other".toList) ∧
      formatCategoryName M name = "Shopping") ∨
    (M.lowerCase (trim name.toList) ∉ ["other".toList, "uncategorized".toList, "unknown".toList,
        "general merchandise".toList, "general_merchandise".toList, "general".toList] ∧
      formatCategoryName M name = String.ofList (capitalized M (trim name.toList))) := by
  have hname : name ≠ "" := fun h ↦ hne (by rw [h]; rfl)
  have hformat : formatCategoryName M name =
      if M.lowerCase (trim name.toList) ∈ ["other".toList, "uncategorized".toList,
          "unknown".toList, "general merchandise".toList, "general_merchandise".toList,
          "general".toList] then "Shopping"
      else if M.lowerCase (capitalized M (trim name.toList)) = "general merchandise".toList ∨
          M.lowerCase (capitalized M (trim name.toList)) = "other".toList then "Shopping"
      else String.ofList (capitalized M (trim name.toList)) := if_neg hname
  rw [hformat]
  split
  · rename_i hnorm
    exact Or.inl ⟨hnorm, rfl⟩
  · rename_i hnorm
    split
    · rename_i hshopping
      exact Or.inr (Or.inl ⟨hshopping, rfl⟩)
    · exact Or.inr (Or.inr ⟨hnorm, rfl⟩)

/-- A blank name is shown as Shopping, or as nothing. -/
theorem formatCategoryName_blank {name : String} (hblank : trim name.toList = []) :
    formatCategoryName M name = "Shopping" ∨ formatCategoryName M name = "" := by
  by_cases hname : name = ""
  · exact Or.inl (if_pos hname)
  · refine Or.inr ((if_neg hname).trans ?_)
    rw [hblank]
    rfl

section Spelled

variable {M} {cat : CategoryDefinition} {name : String}

theorem eq_of_lowerCase_shopping (hcat : cat ∈ CATEGORIES_TAXONOMY)
    (h : M.lowerCase "Shopping".toList = loweredBytes cat.name) : cat.name = "Shopping" := by
  obtain ⟨other, hother, hname⟩ := List.mem_map.1 (sameMajors.1 ▸ sameMajors.2.2)
  rw [← hname, lowerCase_eq_lowered M (taxonomy_isAscii other hother).1,
    ← lowered_eq (taxonomy_isAscii cat hcat).1] at h
  rw [← hname, lowered_inj hother hcat h]

/-- A name that is a major category but for the case is shown as this category. -/
theorem lowerCase_formatCategoryName (hcat : cat ∈ CATEGORIES_TAXONOMY)
    (h : M.lowerCase (trim name.toList) = loweredBytes cat.name) :
    M.lowerCase (formatCategoryName M name).toList = loweredBytes cat.name := by
  obtain ⟨hascii, hwords, -⟩ := taxonomy_apart cat hcat cat.name List.mem_cons_self
  obtain ⟨hnorm, hletters, -, hk⟩ := majors_shown cat hcat
  have hname : IsAscii (trim name.toList) := isAscii_of_lowerCase M (h ▸ hascii) (h ▸ hk)
  have hne : trim name.toList ≠ [] := fun hblank ↦ by
    rw [hblank] at h
    exact hletters (h ▸ rfl)
  have hshown : M.lowerCase (capitalized M (trim name.toList)) = loweredBytes cat.name := by
    rw [lowerCase_capitalized M hname, ← M.lowerCase_of_isAscii hname, h, hwords]
  obtain ⟨hmem, -⟩ | ⟨hshopping, -⟩ | ⟨-, hformat⟩ := formatCategoryName_cases M hne
  · exact absurd (h ▸ hmem) hnorm
  · rw [hshown] at hshopping
    refine absurd ?_ hnorm
    obtain heq | heq := hshopping
    · rw [heq]
      exact List.mem_of_getElem? (i := 3) rfl
    · rw [heq]
      exact List.mem_cons_self
  · rw [hformat, String.toList_ofList, hshown]

/-- The names that are shown as Shopping for what they say resolve to it. -/
theorem resolveMajorCategory_shopping (hne : trim name.toList ≠ [])
    (h : M.lowerCase (trim name.toList) ∈ ["other".toList, "uncategorized".toList,
      "unknown".toList, "general merchandise".toList, "general_merchandise".toList,
      "general".toList]) : resolveMajorCategory M name [] = "Shopping" := by
  obtain ⟨hbills, hsupplies, hkey⟩ := shopping_filed _ h
  rw [resolveMajorCategory_nil]
  simp only [if_neg hne, if_neg hbills, if_neg hsupplies]
  split
  · rfl
  · rename_i hnot
    obtain ⟨hfood, hgeneral⟩ := hkey.resolve_left hnot
    rw [if_neg hfood, if_pos hgeneral]

/-- A name that is shown as a major category spells it. -/
theorem spelledMajor_of_format (hcat : cat ∈ CATEGORIES_TAXONOMY) (hne : trim name.toList ≠ [])
    (h : M.lowerCase (formatCategoryName M name).toList = loweredBytes cat.name) :
    spelledMajor M (trim name.toList) = cat.name := by
  have hlowered := lowered_eq (taxonomy_isAscii cat hcat).1
  obtain ⟨other, hother, hspelled, hname⟩ | ⟨hnone, -⟩ := spelledMajor_cases M (trim name.toList)
  · rw [formatCategoryName_trim M name hne, h, ← hlowered] at hname
    rw [hspelled, lowered_inj hother hcat hname]
  · refine absurd ?_ (hnone cat hcat)
    rw [formatCategoryName_trim M name hne, h, hlowered]

/-- A name that is shown as a major category resolves to it. -/
theorem resolveMajorCategory_of_format (hcat : cat ∈ CATEGORIES_TAXONOMY)
    (h : M.lowerCase (formatCategoryName M name).toList = loweredBytes cat.name) :
    resolveMajorCategory M name [] = cat.name := by
  by_cases hblank : trim name.toList = []
  · have hresolved : resolveMajorCategory M name [] = "Shopping" := if_pos hblank
    rw [hresolved]
    obtain hformat | hformat := formatCategoryName_blank M hblank
    · rw [hformat] at h
      exact (eq_of_lowerCase_shopping hcat h).symm
    · rw [hformat] at h
      exact absurd (congrArg (fun text ↦ plainKey (asciiKey text)) h.symm)
        (majors_shown cat hcat).2.1
  · have hspelled := spelledMajor_of_format hcat hblank h
    obtain ⟨hnorm, hformat⟩ | ⟨hshopping, hformat⟩ | ⟨-, hformat⟩ :=
      formatCategoryName_cases M hblank
    · rw [hformat] at h
      rw [resolveMajorCategory_shopping hblank hnorm, eq_of_lowerCase_shopping hcat h]
    · rw [hformat] at h
      have hname := eq_of_lowerCase_shopping hcat h
      rw [hname] at hspelled ⊢
      obtain hshown | hshown := hshopping
      · exact resolveMajorCategory_of_shown (e := ("general merchandise".toList, "Shopping"))
          hblank (List.mem_append_right _ List.mem_cons_self) hshown hspelled
      · exact resolveMajorCategory_of_shown (e := ("other".toList, "Shopping")) hblank
          (List.mem_append_right _ (List.mem_cons_of_mem _ List.mem_cons_self)) hshown hspelled
    · rw [hformat, String.toList_ofList] at h
      exact resolveMajorCategory_of_shown (e := (loweredBytes cat.name, cat.name)) hblank
        (List.mem_append_left _ (List.mem_map_of_mem hcat)) h hspelled

/-- A major category is shown as itself. -/
theorem lowerCase_formatCategoryName_major (hcat : cat ∈ CATEGORIES_TAXONOMY) :
    M.lowerCase (formatCategoryName M cat.name).toList = loweredBytes cat.name := by
  refine lowerCase_formatCategoryName hcat ?_
  have hascii := (taxonomy_isAscii cat hcat).1
  rw [toList_eq_byteChars hascii, (majors_checked cat hcat).1, ← toList_eq_byteChars hascii,
    lowerCase_eq_lowered M hascii, lowered_eq hascii]

/-- **A name that is written like a major category** resolves to it. -/
theorem resolveMajorCategory_of_spells (hcat : cat ∈ CATEGORIES_TAXONOMY)
    (h : Spells M cat.name (M.lowerCase name.toList) name) :
    resolveMajorCategory M name [] = cat.name := by
  obtain htext | hformat := h
  · -- nothing is trimmed off a name that is a major category but for the case
    obtain ⟨hascii, -, -⟩ := taxonomy_apart cat hcat cat.name List.mem_cons_self
    obtain ⟨-, -, htrim, hk⟩ := majors_shown cat hcat
    rw [lowerCase_eq_lowered M (taxonomy_isAscii cat hcat).1,
      lowered_eq (taxonomy_isAscii cat hcat).1] at htext
    have hname : IsAscii name.toList := isAscii_of_lowerCase M (htext ▸ hascii) (htext ▸ hk)
    have htrimmed : IsAscii (trim name.toList) := fun c hc ↦ hname c (strip_subset _ _ hc)
    refine resolveMajorCategory_of_format hcat (lowerCase_formatCategoryName hcat ?_)
    rw [M.lowerCase_of_isAscii htrimmed, ← trim_map_toLower, ← M.lowerCase_of_isAscii hname, htext,
      htrim]
  · rw [lowerCase_formatCategoryName_major hcat] at hformat
    exact resolveMajorCategory_of_format hcat hformat

end Spelled

/-! ### What a name resolves to -/

theorem mem_majors : ∀ major ∈ ["Bills & Utilities", "Home Improvement", "Shopping",
    "Food & Dining"], major ∈ CATEGORIES_TAXONOMY.map fun cat ↦ cat.name := by
  decide +kernel

/-- The words of a name are those of a major category, or are shown as they are. -/
theorem spelledMajor_mem_or (clean : List Char) :
    spelledMajor M clean ∈ CATEGORIES_TAXONOMY.map (fun cat ↦ cat.name) ∨
      spelledMajor M clean = formatCategoryName M (String.ofList clean) ∧
        ∀ cat ∈ CATEGORIES_TAXONOMY,
          M.lowerCase (formatCategoryName M (String.ofList clean)).toList ≠
            M.lowerCase cat.name.toList := by
  obtain ⟨cat, hcat, hspelled, -⟩ | ⟨hnone, -⟩ := spelledMajor_cases M clean
  · exact Or.inl (hspelled ▸ List.mem_map_of_mem hcat)
  · have hnone' (cat) (hcat : cat ∈ CATEGORIES_TAXONOMY) : M.lowerCase
        (formatCategoryName M (String.ofList clean)).toList ≠ M.lowerCase cat.name.toList := by
      rw [lowerCase_eq_lowered M (taxonomy_isAscii cat hcat).1]
      exact (hnone cat hcat).symm
    have hfind : findMajor M (M.lowerCase (formatCategoryName M (String.ofList clean)).toList) =
        none := List.find?_eq_none.2 fun cat hcat h ↦ hnone' cat hcat (of_decide_eq_true h).symm
    refine Or.inr ⟨?_, hnone'⟩
    rw [spelledMajor]
    simp only [hfind, Option.map_none, Option.getD_none]
    split
    · rename_i hshopping
      exact hshopping.symm
    · rfl

theorem mem_majors_of_findMajor (text : List Char) :
    ((findMajor M text).map fun cat ↦ cat.name).getD "Shopping" ∈
      CATEGORIES_TAXONOMY.map fun cat ↦ cat.name := by
  cases hfind : findMajor M text with
  | none => exact mem_majors _ (by decide)
  | some cat => exact List.mem_map_of_mem (List.mem_of_find?_eq_some hfind)

theorem mem_majors_of_taxonomyMajor {text : List Char} {major : String}
    (h : taxonomyMajor loweredBytes text = some major) :
    major ∈ CATEGORIES_TAXONOMY.map fun cat ↦ cat.name := by
  obtain ⟨cat, hcat, rfl⟩ := Option.map_eq_some_iff.1 h
  obtain hfind | ⟨-, hfind⟩ := Option.or_eq_some_iff.1 hcat
  · exact List.mem_map_of_mem (List.mem_of_find?_eq_some hfind)
  · exact List.mem_map_of_mem (List.mem_of_find?_eq_some hfind)

/-- A name resolves to a major category, or is shown as it is and like none of them. -/
theorem resolveMajorCategory_cases (name : String) :
    (∃ cat ∈ CATEGORIES_TAXONOMY, resolveMajorCategory M name [] = cat.name) ∨
      resolveMajorCategory M name [] = formatCategoryName M name ∧ ∀ cat ∈ CATEGORIES_TAXONOMY,
        M.lowerCase (formatCategoryName M name).toList ≠ M.lowerCase cat.name.toList := by
  have hmajor {major : String} (h : major ∈ CATEGORIES_TAXONOMY.map fun cat ↦ cat.name) :
      ∃ cat ∈ CATEGORIES_TAXONOMY, major = cat.name := by
    obtain ⟨cat, hcat, rfl⟩ := List.mem_map.1 h
    exact ⟨cat, hcat, rfl⟩
  rw [resolveMajorCategory_nil]
  simp only
  split
  · exact Or.inl (hmajor (mem_majors _ (by decide)))
  rename_i hne
  split
  · exact Or.inl (hmajor (mem_majors _ (by decide)))
  split
  · exact Or.inl (hmajor (mem_majors _ (by decide)))
  split
  · exact Or.inl (hmajor (mem_majors _ (by decide)))
  split
  · exact Or.inl (hmajor (mem_majors _ (by decide)))
  split
  · exact Or.inl (hmajor (mem_majors _ (by decide)))
  cases htaxonomy : taxonomyMajor loweredBytes (M.lowerCase (trim name.toList)) with
  | some major => exact Or.inl (hmajor (mem_majors_of_taxonomyMajor htaxonomy))
  | none =>
    rw [Option.getD_none]
    split
    · exact Or.inl (hmajor (mem_majors_of_findMajor M _))
    split
    · exact Or.inl (hmajor (mem_majors _ (by decide)))
    · have hspelled := spelledMajor_mem_or M (trim name.toList)
      rw [formatCategoryName_trim M name hne] at hspelled
      exact hspelled.imp_left hmajor

/-- The lower case of what a name resolves to tells the major categories apart. -/
theorem lowerCase_resolveMajorCategory_iff {cat : CategoryDefinition}
    (hcat : cat ∈ CATEGORIES_TAXONOMY) (name : String) :
    M.lowerCase (resolveMajorCategory M name []).toList = M.lowerCase cat.name.toList ↔
      resolveMajorCategory M name [] = cat.name := by
  refine ⟨fun h ↦ ?_, fun h ↦ by rw [h]⟩
  obtain ⟨other, hother, hname⟩ | ⟨hformat, hnone⟩ := resolveMajorCategory_cases M name
  · rw [hname] at h ⊢
    exact lowerCase_major_inj M hother hcat h
  · rw [hformat] at h
    exact absurd h (hnone cat hcat)

end Sumurai.Frontend
