import Sumurai.Frontend.SpelledMajors

/-!
# Resolving what is resolved already

`resolveMajorCategory` looks a name up by several rules in turn (`IsFiled`), and what none of them
knows it shows with `formatCategoryName`, which puts spaces for underscores and changes the case.
Shown like this the name can be one that the rules know.

`idempotent_iff` says when resolving twice is resolving once: when a rule knows the name, or its
words spell a major category, or the name as it is shown is known to no rule and is shown as itself,
as every ASCII name is (`formatCategoryName_of_isAscii`).
-/

namespace Sumurai.Frontend

open Text

variable (M : CaseMapping)

/-- One of the rules of `resolveMajorCategory` before the last one knows the name. -/
def IsFiled (clean : List Char) : Prop :=
  clean = [] ∨
    asciiKey (M.lowerCase clean) ∈ ["rentandutilities".toList, "rentutilities".toList,
      "rentandutilitieswater".toList, "rentutilitieswater".toList] ∨
    asciiKey (M.lowerCase clean) ∈ ["homesupplies".toList, "householdsupplies".toList] ∨
    asciiKey (M.lowerCase clean) ∈ ["personalcare".toList, "generalmerchandise".toList,
      "other".toList, "uncategorized".toList, "unknown".toList] ∨
    asciiKey (M.lowerCase clean) ∈ ["foodanddrink".toList, "fooddrink".toList] ∨
    M.lowerCase clean = "general".toList ∨ M.lowerCase clean ∈ taxonomyTexts ∨
    "other ".toList <+: M.lowerCase clean ∨ "water".toList <:+: M.lowerCase clean ∨
    "rent_and_utilities".toList <:+: M.lowerCase clean ∨
    "rent & utilities".toList <:+: M.lowerCase clean

instance : DecidablePred (IsFiled M) := fun _ ↦
  inferInstanceAs (Decidable (_ ∨ _ ∨ _ ∨ _ ∨ _ ∨ _ ∨ _ ∨ _ ∨ _ ∨ _ ∨ _))

/-! ### The rules -/

section Rules

variable {M} {name : String}

/-- The rules give major categories. -/
theorem resolveMajorCategory_of_isFiled (h : IsFiled M (trim name.toList)) :
    ∃ cat ∈ CATEGORIES_TAXONOMY, resolveMajorCategory M name [] = cat.name := by
  have hmajor {major : String} (h : major ∈ CATEGORIES_TAXONOMY.map fun cat ↦ cat.name) :
      ∃ cat ∈ CATEGORIES_TAXONOMY, major = cat.name := by
    obtain ⟨cat, hcat, rfl⟩ := List.mem_map.1 h
    exact ⟨cat, hcat, rfl⟩
  rw [resolveMajorCategory_nil]
  simp only
  split
  · exact hmajor (mem_majors _ (by decide))
  rename_i hne
  split
  · exact hmajor (mem_majors _ (by decide))
  rename_i hbills
  split
  · exact hmajor (mem_majors _ (by decide))
  rename_i hsupplies
  split
  · exact hmajor (mem_majors _ (by decide))
  rename_i hshopping
  split
  · exact hmajor (mem_majors _ (by decide))
  rename_i hfood
  split
  · exact hmajor (mem_majors _ (by decide))
  rename_i hgeneral
  cases htaxonomy : taxonomyMajor loweredBytes (M.lowerCase (trim name.toList)) with
  | some major => exact hmajor (mem_majors_of_taxonomyMajor htaxonomy)
  | none =>
    rw [Option.getD_none]
    split
    · exact hmajor (mem_majors_of_findMajor M _)
    rename_i hother
    split
    · exact hmajor (mem_majors _ (by decide))
    · rename_i hwater
      -- no rule is left
      obtain h | h | h | h | h | h | h | h | h := h
      · exact absurd h hne
      · exact absurd h hbills
      · exact absurd h hsupplies
      · exact absurd h hshopping
      · exact absurd h hfood
      · exact absurd h hgeneral
      · exact absurd h (taxonomyMajor_eq_none_iff.1 htaxonomy)
      · exact absurd h hother
      · exact absurd h hwater

/-- A name that no rule knows is resolved by its words. -/
theorem resolveMajorCategory_of_not_isFiled (h : ¬IsFiled M (trim name.toList)) :
    resolveMajorCategory M name [] = spelledMajor M (trim name.toList) := by
  obtain ⟨hne, hbills, hsupplies, hshopping, hfood, hgeneral, htaxonomy, hother, hwater⟩ :
      _ ∧ _ ∧ _ ∧ _ ∧ _ ∧ _ ∧ _ ∧ _ ∧ _ := by
    simpa only [IsFiled, not_or] using h
  rw [resolveMajorCategory_nil]
  simp only [if_neg hne, if_neg hbills, if_neg hsupplies, if_neg hshopping, if_neg hfood,
    if_neg hgeneral, taxonomyMajor_eq_none_iff.2 htaxonomy, Option.getD_none, if_neg hother]
  exact if_neg (by simpa only [not_or] using hwater)

end Rules

/-- The name is shown as a major category. -/
def IsShownAsMajor (name : String) : Prop :=
  M.lowerCase (formatCategoryName M name).toList ∈ majorTexts

/-- Resolving twice is resolving once. -/
def IsIdempotentAt (name : String) : Prop :=
  resolveMajorCategory M (resolveMajorCategory M name []) [] = resolveMajorCategory M name []

section Resolver

variable {M} {name : String}

theorem mem_majorTexts_iff {text : List Char} :
    text ∈ majorTexts ↔ ∃ cat ∈ CATEGORIES_TAXONOMY, lowered cat.name = text :=
  List.mem_map

/-- A major category resolves to itself. -/
theorem isIdempotentAt_of_major
    (h : ∃ cat ∈ CATEGORIES_TAXONOMY, resolveMajorCategory M name [] = cat.name) :
    IsIdempotentAt M name := by
  obtain ⟨cat, hcat, hname⟩ := h
  rw [IsIdempotentAt, hname]
  refine resolveMajorCategory_of_format hcat ?_
  exact lowerCase_formatCategoryName_major hcat

/-- The words that a name is shown with are looked up. -/
theorem spelledMajor_eq_iff (hne : trim name.toList ≠ []) (hname : ∀ cat ∈ CATEGORIES_TAXONOMY,
    M.lowerCase name.toList ≠ M.lowerCase cat.name.toList) :
    spelledMajor M (trim name.toList) = name ↔ formatCategoryName M name = name := by
  have hformat := formatCategoryName_trim M name hne
  obtain hmajor | ⟨hspelled, -⟩ := spelledMajor_mem_or M (trim name.toList)
  · obtain ⟨cat, hcat, hcatname⟩ := List.mem_map.1 hmajor
    refine iff_of_false (fun h ↦ hname cat hcat ?_) fun h ↦ ?_
    · rw [hcatname, h]
    · obtain ⟨other, hother, -, hlowered⟩ | ⟨-, hnot⟩ := spelledMajor_cases M (trim name.toList)
      · rw [hformat, h, ← lowerCase_eq_lowered M (taxonomy_isAscii other hother).1] at hlowered
        exact hname other hother hlowered.symm
      · exact hnot hmajor
  · rw [hspelled, hformat]

theorem isIdempotentAt_iff_of_not_isFiled (hfiled : ¬IsFiled M (trim name.toList)) :
    IsIdempotentAt M name ↔ IsShownAsMajor M name ∨
      ¬IsFiled M (trim (formatCategoryName M name).toList) ∧
        formatCategoryName M (formatCategoryName M name) = formatCategoryName M name := by
  have hne : trim name.toList ≠ [] := fun h ↦ hfiled (Or.inl h)
  have hresolved := resolveMajorCategory_of_not_isFiled hfiled
  obtain ⟨cat, hcat, hspelled, hlowered⟩ | ⟨hnone, hnotmem⟩ :=
    spelledMajor_cases M (trim name.toList)
  · rw [formatCategoryName_trim M name hne] at hlowered
    exact iff_of_true (isIdempotentAt_of_major ⟨cat, hcat, hresolved.trans hspelled⟩)
      (Or.inl (mem_majorTexts_iff.2 ⟨cat, hcat, hlowered⟩))
  rw [formatCategoryName_trim M name hne] at hnone
  have hnot : ¬IsShownAsMajor M name := fun hshown ↦ by
    obtain ⟨cat, hcat, hlowered⟩ := mem_majorTexts_iff.1 hshown
    exact hnone cat hcat hlowered
  have hapart : ∀ cat ∈ CATEGORIES_TAXONOMY, M.lowerCase (formatCategoryName M name).toList ≠
      M.lowerCase cat.name.toList := fun cat hcat heq ↦
    hnone cat hcat (heq.trans (lowerCase_eq_lowered M (taxonomy_isAscii cat hcat).1)).symm
  have hshown : resolveMajorCategory M name [] = formatCategoryName M name := by
    rw [hresolved, ((spelledMajor_mem_or M (trim name.toList)).resolve_left hnotmem).1,
      formatCategoryName_trim M name hne]
  rw [or_iff_right hnot, IsIdempotentAt, hshown]
  by_cases hagain : IsFiled M (trim (formatCategoryName M name).toList)
  · obtain ⟨cat, hcat, hmajor⟩ := resolveMajorCategory_of_isFiled hagain
    refine iff_of_false (fun heq ↦ hapart cat hcat ?_) fun h ↦ h.1 hagain
    rw [← hmajor, heq]
  · rw [resolveMajorCategory_of_not_isFiled hagain, and_iff_right hagain]
    exact spelledMajor_eq_iff (fun h ↦ hagain (Or.inl h)) hapart

end Resolver

/-! ### ASCII names -/

section Ascii

variable {M} {s : List Char}

theorem words_dropWhile (s : List Char) : words (s.dropWhile isSpace) = words s := by
  induction s with
  | nil => rfl
  | cons c s ih =>
    rw [List.dropWhile_cons]
    split
    · rename_i hspace
      rw [ih, words_eq, words_eq, List.splitOnP_cons_eq_if_modifyHead,
        if_pos (show isSeparator c = true from Bool.or_eq_true_iff.2 (Or.inr hspace))]
      rfl
    · rfl

theorem words_rdropWhile (s : List Char) : words (s.rdropWhile isSpace) = words s := by
  induction s using List.reverseRecOn with
  | nil => rfl
  | append_singleton s c ih =>
    rw [List.rdropWhile_concat]
    split
    · rename_i hspace
      rw [ih, words_eq, words_eq, List.splitOnP_append_cons s []
        (show isSeparator c = true from Bool.or_eq_true_iff.2 (Or.inr hspace)), List.filter_append]
      exact (List.append_nil _).symm
    · rfl

/-- The spaces around a name are in none of its words. -/
theorem words_trim (s : List Char) : words (trim s) = words s := by
  rw [trim, strip, words_rdropWhile, words_dropWhile]

theorem ne_nil_of_mem_words {word : List Char} (h : word ∈ words s) : word ≠ [] :=
  of_decide_eq_true (List.mem_filter.1 h).2

/-- A word of an ASCII name with a capital letter. -/
theorem capitalize_cons_of_isAscii {c : Char} {word : List Char} (h : IsAscii (c :: word)) :
    capitalize M (c :: word) = c.toUpper :: word.map Char.toLower := by
  rw [capitalize, M.upper_ascii c (h c List.mem_cons_self),
    M.lowerCase_of_isAscii fun d hd ↦ h d (List.mem_cons_of_mem c hd)]
  rfl

theorem capitalize_capitalize {word : List Char} (h : IsAscii word) :
    capitalize M (capitalize M word) = capitalize M word := by
  cases word with
  | nil => rfl
  | cons c word =>
    have hascii : IsAscii (c.toUpper :: word.map Char.toLower) := by
      intro d hd
      obtain rfl | hd := List.mem_cons.1 hd
      · exact toNat_toUpper_lt (h c List.mem_cons_self)
      · obtain ⟨e, he, rfl⟩ := List.mem_map.1 hd
        exact toNat_toLower_lt (h e (List.mem_cons_of_mem c he))
    have hupper : c.toUpper.toUpper = c.toUpper :=
      forall_ascii (P := fun c ↦ c.toUpper.toUpper = c.toUpper) (by decide)
        (h c List.mem_cons_self)
    have hlower : (word.map Char.toLower).map Char.toLower = word.map Char.toLower := by
      rw [List.map_map]
      refine List.map_congr_left fun d hd ↦ ?_
      exact forall_ascii (P := fun d ↦ d.toLower.toLower = d.toLower) (by decide)
        (h d (List.mem_cons_of_mem c hd))
    rw [capitalize_cons_of_isAscii h, capitalize_cons_of_isAscii hascii, hupper, hlower]

/-- No letter becomes a separator. -/
theorem not_isSeparator_capitalize {word : List Char} (h : IsAscii word)
    (hword : ∀ c ∈ word, isSeparator c = false) :
    ∀ c ∈ capitalize M word, isSeparator c = false := by
  cases word with
  | nil => exact nofun
  | cons c word =>
    rw [capitalize_cons_of_isAscii h]
    intro d hd
    obtain rfl | hd := List.mem_cons.1 hd
    · exact forall_ascii (P := fun c ↦ isSeparator c = false → isSeparator c.toUpper = false)
        (by decide) (h c List.mem_cons_self) (hword c List.mem_cons_self)
    · obtain ⟨e, he, rfl⟩ := List.mem_map.1 hd
      rw [isSeparator_toLower]
      exact hword e (List.mem_cons_of_mem c he)

theorem capitalize_ne_nil {word : List Char} (h : IsAscii word) (hne : word ≠ []) :
    capitalize M word ≠ [] := by
  cases word with
  | nil => exact absurd rfl hne
  | cons c word =>
    rw [capitalize_cons_of_isAscii h]
    exact List.cons_ne_nil _ _

/-- The words of an ASCII name as it is shown are its words as they are shown. -/
theorem capitalized_capitalized (h : IsAscii s) :
    capitalized M (capitalized M s) = capitalized M s := by
  by_cases hnil : words s = []
  · rw [capitalized, capitalized, hnil]
    rfl
  have hwords : words (capitalized M s) = (words s).map (capitalize M) := by
    rw [words_eq, capitalized, splitOnP_intercalate (by decide) (mt List.map_eq_nil_iff.1 hnil)]
    · refine List.filter_eq_self.2 fun word hword ↦ decide_eq_true ?_
      obtain ⟨plain, hplain, rfl⟩ := List.mem_map.1 hword
      exact capitalize_ne_nil (isAscii_word h hplain) (ne_nil_of_mem_words hplain)
    · intro word hword
      obtain ⟨plain, hplain, rfl⟩ := List.mem_map.1 hword
      exact not_isSeparator_capitalize (isAscii_word h hplain) fun c hc ↦
        eq_false_of_mem_splitOnP (List.mem_filter.1 hplain).1 hc
  rw [capitalized, hwords, List.map_map, capitalized]
  exact congrArg _ (List.map_congr_left fun word hword ↦
    capitalize_capitalize (isAscii_word h hword))

/-- **An ASCII name is shown as itself** once it is shown, unless a rule knows it then. -/
theorem formatCategoryName_of_isAscii {name : String} (h : IsAscii name.toList)
    (hnot : ¬IsFiled M (trim (formatCategoryName M name).toList)) :
    formatCategoryName M (formatCategoryName M name) = formatCategoryName M name := by
  have hshopping : IsFiled M (trim "Shopping".toList) := by
    have htext : M.lowerCase (trim "Shopping".toList) = "shopping".toList :=
      M.lowerCase_of_isAscii (by decide)
    have hmem : "shopping".toList ∈ taxonomyTexts := by decide +kernel
    rw [IsFiled, htext]
    exact Or.inr (Or.inr (Or.inr (Or.inr (Or.inr (Or.inr (Or.inl hmem))))))
  by_cases hblank : trim name.toList = []
  · obtain hformat | hformat := formatCategoryName_blank M hblank
    · rw [hformat] at hnot
      exact absurd hshopping hnot
    · rw [hformat] at hnot
      exact absurd (Or.inl rfl) hnot
  have hformat : formatCategoryName M name = String.ofList (capitalized M (trim name.toList)) := by
    obtain ⟨-, hformat⟩ | ⟨-, hformat⟩ | ⟨-, hformat⟩ := formatCategoryName_cases M hblank
    · rw [hformat] at hnot
      exact absurd hshopping hnot
    · rw [hformat] at hnot
      exact absurd hshopping hnot
    · exact hformat
  have hascii : IsAscii (trim name.toList) := fun c hc ↦ h c (strip_subset _ _ hc)
  have hagain : capitalized M (trim (formatCategoryName M name).toList) =
      (formatCategoryName M name).toList := by
    rw [capitalized, words_trim, ← capitalized, hformat, String.toList_ofList,
      capitalized_capitalized hascii]
  have hkey {text : List Char} (htext : M.lowerCase (formatCategoryName M name).toList = text) :
      asciiKey (M.lowerCase (trim (formatCategoryName M name).toList)) = asciiKey text := by
    rw [asciiKey_lowerCase_trim, htext]
  have hne : trim (formatCategoryName M name).toList ≠ [] := fun hnil ↦ hnot (Or.inl hnil)
  obtain ⟨hnorm, -⟩ | ⟨hshown, -⟩ | ⟨-, hshown⟩ := formatCategoryName_cases M hne
  · -- what is shown as Shopping for what it says has a key that is filed
    obtain hfiled | hgeneral := (shopping_filed _ hnorm).2.2
    · exact absurd (Or.inr (Or.inr (Or.inr (Or.inl hfiled)))) hnot
    · exact absurd (Or.inr (Or.inr (Or.inr (Or.inr (Or.inr (Or.inl hgeneral.2)))))) hnot
  · refine absurd (Or.inr (Or.inr (Or.inr (Or.inl ?_)))) hnot
    rw [hagain] at hshown
    obtain htext | htext := hshown
    · rw [hkey htext]
      decide
    · rw [hkey htext]
      decide
  · rw [hshown, hagain, String.ofList_toList]

end Ascii

/-- **When resolving twice is resolving once.** For every name: exactly when a rule knows it, or it
is shown as a major category, or the name as it is shown is known to no rule and shown as itself.
For ASCII names the last condition is always met. -/
theorem idempotent_iff :
    (∀ name, IsIdempotentAt M name ↔ IsFiled M (trim name.toList) ∨ IsShownAsMajor M name ∨
      ¬IsFiled M (trim (formatCategoryName M name).toList) ∧
        formatCategoryName M (formatCategoryName M name) = formatCategoryName M name) ∧
      ∀ name, IsAscii name.toList → (IsIdempotentAt M name ↔ IsFiled M (trim name.toList) ∨
        IsShownAsMajor M name ∨ ¬IsFiled M (trim (formatCategoryName M name).toList)) := by
  have hall (name : String) : IsIdempotentAt M name ↔
      IsFiled M (trim name.toList) ∨ IsShownAsMajor M name ∨
        ¬IsFiled M (trim (formatCategoryName M name).toList) ∧
          formatCategoryName M (formatCategoryName M name) = formatCategoryName M name := by
    by_cases hfiled : IsFiled M (trim name.toList)
    · exact iff_of_true (isIdempotentAt_of_major (resolveMajorCategory_of_isFiled hfiled))
        (Or.inl hfiled)
    · rw [isIdempotentAt_iff_of_not_isFiled hfiled, or_iff_right hfiled]
  refine ⟨hall, fun name hascii ↦ ?_⟩
  rw [hall, and_iff_left_of_imp (formatCategoryName_of_isAscii hascii)]

/-- The hypothesis of the second part is met by a name of the bank's. -/
theorem idempotent_iff_parking : IsIdempotentAt simpleCase "PARKING_FEES" :=
  ((idempotent_iff simpleCase).2 "PARKING_FEES" (by decide +kernel)).2
    (Or.inr (Or.inr (by decide +kernel)))

/-- **An insurance of another name** is shown as `Auto Insurance`, which is an `Insurance`. -/
theorem autoInsurance_not_idempotent :
    resolveMajorCategory simpleCase "auto_insurance" [] = "Auto Insurance" ∧
      resolveMajorCategory simpleCase "Auto Insurance" [] = "Insurance" ∧
      ¬IsIdempotentAt simpleCase "auto_insurance" := by
  have hshown : resolveMajorCategory simpleCase "auto_insurance" [] = "Auto Insurance" := by
    decide +kernel
  have hresolved : resolveMajorCategory simpleCase "Auto Insurance" [] = "Insurance" := by
    decide +kernel
  refine ⟨hshown, hresolved, ?_⟩
  rw [IsIdempotentAt, hshown, hresolved]
  decide

end Sumurai.Frontend
