import Mathlib.Data.List.Find
import Mathlib.Data.List.Nodup
import Sumurai.Frontend.CategoryTables

/-!
# Two resolvers of a category

The server and the client each resolve the name of a category to a major category. The server looks
the letters of the name up in one table. The client goes through a cascade of keys, exact names,
prefixes and infixes over a taxonomy of its own, and shows a name that it does not know as it is,
where the server says Shopping.

`resolveMajorCategory_eq_iff` says for which names the two agree.
-/

namespace Sumurai.Frontend

open Text

variable (M : CaseMapping)

/-! ### When they agree -/

/-- The names of which the resolvers agree. `text` is what the client compares, `clientKey` its
letters, and `key` the letters that the server reads. The two keys differ in the letters `i` and `k`
at most, where the name has a character outside of ASCII for them. -/
def ResolversAgree (c : String) : Prop :=
  let text := M.lowerCase (trim c.toList)
  let clientKey := asciiKey text
  let key := normalizeCategoryKey c
  if trim c.toList = [] then True
  -- the client files these keys by hand, and the server has all of them but one
  else if clientKey ∈ ["rentandutilities".toList, "rentutilities".toList,
      "rentandutilitieswater".toList, "rentutilitieswater".toList] then
    clientKey ≠ "rentandutilitieswater".toList ∧ key = clientKey
  else if clientKey ∈ ["homesupplies".toList, "householdsupplies".toList] then key = clientKey
  else if clientKey ∈ ["personalcare".toList, "generalmerchandise".toList, "other".toList,
      "uncategorized".toList, "unknown".toList] then True
  else if clientKey ∈ ["foodanddrink".toList, "fooddrink".toList] then key = clientKey
  else if text = "general".toList then True
  else if text ∈ taxonomyTexts then
    text ∈ shoppingTexts ∨ (text ∉ misfiledTexts ∧ key = clientKey)
  else if "other ".toList <+: text then
    if trim (text.drop 6) ∈ majorTexts then trim (text.drop 6) ∉ missingOthers
    else key ∉ filedOthers.map String.toList
  else if "water".toList <:+: text ∨ "rent_and_utilities".toList <:+: text ∨
      "rent & utilities".toList <:+: text then
    key ∈ ["rentandutilities", "rentutilities", "rentutilitieswater", "water"].map String.toList
  else
    -- the words of the name are those of a major category that the server files its letters under
    ∃ arm ∈ majorCategories, lowered arm.1 = M.lowerCase (formatCategoryName M c).toList ∧
      (arm.1 = "Shopping" ∧ (∀ other ∈ majorCategories, other.1 ≠ "Shopping" →
        ∀ k ∈ other.2, k.toList ≠ key) ∨ ∃ k ∈ arm.2, k.toList = key)

instance (c : String) : Decidable (ResolversAgree M c) := by
  unfold ResolversAgree
  infer_instance

/-! ### What was checked -/

theorem tableEntries_isAscii : ∀ e ∈ tableEntries, isAsciiString e.2 :=
  tables_checked.1.1

theorem taxonomy_isAscii : ∀ cat ∈ CATEGORIES_TAXONOMY,
    isAsciiString cat.name ∧ ∀ sub ∈ cat.subcategories, isAsciiString sub :=
  tables_checked.1.2

theorem keysDistinct : KeysDistinct :=
  tables_checked.2.1

theorem sameMajors : SameMajors :=
  tables_checked.2.2.1

theorem taxonomyFiled : TaxonomyFiled :=
  tables_checked.2.2.2.1

theorem misfiledElsewhere : MisfiledElsewhere :=
  tables_checked.2.2.2.2.1

theorem keysAbsent : KeysAbsent :=
  tables_checked.2.2.2.2.2.1

theorem keysPresent : KeysPresent :=
  tables_checked.2.2.2.2.2.2.1

theorem othersFiled : OthersFiled :=
  tables_checked.2.2.2.2.2.2.2.1

theorem othersListed : OthersListed :=
  tables_checked.2.2.2.2.2.2.2.2.1

theorem waterListed : WaterListed :=
  tables_checked.2.2.2.2.2.2.2.2.2.1

theorem namesByKey : NamesByKey :=
  tables_checked.2.2.2.2.2.2.2.2.2.2.1

theorem infixKeys : InfixKeys :=
  tables_checked.2.2.2.2.2.2.2.2.2.2.2

/-! ### The server -/

/-- The major category that the server's table has for a key. -/
def filed (key : List Char) : String :=
  match majorCategories.find? fun arm ↦ arm.2.any fun k ↦ k.toList = key with
  | some arm => arm.1
  | none => "Shopping"

theorem resolveMajorCategory_eq_filed (c : String) :
    Sumurai.resolveMajorCategory c = filed (normalizeCategoryKey c) :=
  rfl

/-- A key is in the table, or Shopping. -/
theorem filed_cases (key : List Char) :
    (filed key = "Shopping" ∧ ∀ e ∈ tableEntries, e.2.toList ≠ key) ∨
      ∃ e ∈ tableEntries, e.2.toList = key ∧ filed key = e.1 := by
  unfold filed
  split
  · rename_i arm hfind
    have hany := List.find?_some hfind
    obtain ⟨k, hk, heq⟩ := List.any_eq_true.1 hany
    exact Or.inr ⟨(arm.1, k), mem_tableEntries.2 ⟨arm, List.mem_of_find?_eq_some hfind, rfl, hk⟩,
      of_decide_eq_true heq, rfl⟩
  · rename_i hfind
    refine Or.inl ⟨rfl, fun e he heq ↦ ?_⟩
    -- an entry for the key would have been found
    obtain ⟨arm, harm, -, hk⟩ := mem_tableEntries.1 he
    exact absurd (List.any_eq_true.2 ⟨e.2, hk, decide_eq_true heq⟩)
      (List.find?_eq_none.1 hfind arm harm)

theorem tableEntries_injective {e f : String × String} (he : e ∈ tableEntries)
    (hf : f ∈ tableEntries) (h : plainKey e.2.toList = plainKey f.2.toList) : e = f := by
  refine List.inj_on_of_nodup_map (nodup_of_distinct keysDistinct) he hf ?_
  rw [← toList_eq_byteChars (tableEntries_isAscii e he),
    ← toList_eq_byteChars (tableEntries_isAscii f hf), h]

/-- **The server on a key of the table**, read with letters `i` and `k` missing or not. -/
theorem filed_eq {e : String × String} (he : e ∈ tableEntries) {key : List Char}
    (h : plainKey key = plainKey e.2.toList) :
    filed key = if key = e.2.toList then e.1 else "Shopping" := by
  obtain ⟨hshopping, habsent⟩ | ⟨f, hf, rfl, hfiled⟩ := filed_cases key
  · rw [if_neg (Ne.symm (habsent e he)), hshopping]
  · obtain rfl := tableEntries_injective hf he h
    rw [if_pos rfl, hfiled]

/-- A key that the table does not have, whatever its letters `i` and `k`. -/
theorem filed_eq_shopping {t key : List Char}
    (habsent : ∀ e ∈ tableEntries, code (plainKey (byteChars e.2)) ≠ code (plainKey t))
    (h : plainKey key = plainKey t) : filed key = "Shopping" := by
  obtain ⟨hshopping, -⟩ | ⟨e, he, rfl, -⟩ := filed_cases key
  · exact hshopping
  · exact absurd (by rw [← toList_eq_byteChars (tableEntries_isAscii e he), h]) (habsent e he)

/-! ### The client's taxonomy -/

theorem taxonomyMajor_congr (low low' : String → List Char) (h : ∀ cat ∈ CATEGORIES_TAXONOMY,
    low cat.name = low' cat.name ∧ ∀ sub ∈ cat.subcategories, low sub = low' sub)
    (text : List Char) : taxonomyMajor low text = taxonomyMajor low' text := by
  have hnames : (CATEGORIES_TAXONOMY.find? fun cat ↦ low cat.name = text) =
      CATEGORIES_TAXONOMY.find? fun cat ↦ low' cat.name = text :=
    List.find?_congr fun cat hcat ↦ by rw [(h cat hcat).1]
  have hsubs : (CATEGORIES_TAXONOMY.find? fun cat ↦
      cat.subcategories.any fun sub ↦ low sub = text) =
      CATEGORIES_TAXONOMY.find? fun cat ↦ cat.subcategories.any fun sub ↦ low' sub = text :=
    List.find?_congr fun cat hcat ↦ by
      rw [Bool.eq_iff_iff, List.any_eq_true, List.any_eq_true]
      exact exists_congr fun sub ↦ and_congr_right fun hsub ↦ by rw [(h cat hcat).2 sub hsub]
  rw [taxonomyMajor, taxonomyMajor, hnames, hsubs]

theorem lowered_eq {name : String} (h : isAsciiString name) : lowered name = loweredBytes name := by
  rw [lowered, loweredBytes, toList_eq_byteChars h]

theorem lowerCase_eq_lowered {name : String} (h : isAsciiString name) :
    M.lowerCase name.toList = lowered name :=
  M.lowerCase_of_isAscii (isAscii_toList h)

theorem findMajor_eq (text : List Char) :
    findMajor M text = CATEGORIES_TAXONOMY.find? fun cat ↦ loweredBytes cat.name = text :=
  List.find?_congr fun cat hcat ↦ by
    rw [lowerCase_eq_lowered M (taxonomy_isAscii cat hcat).1,
      lowered_eq (taxonomy_isAscii cat hcat).1]

theorem taxonomyMajor_eq_none_iff {text : List Char} :
    taxonomyMajor loweredBytes text = none ↔ text ∉ taxonomyTexts := by
  rw [taxonomyMajor, Option.map_eq_none_iff, Option.or_eq_none_iff, List.find?_eq_none,
    List.find?_eq_none, taxonomyTexts]
  constructor
  · rintro ⟨hnames, hsubs⟩ hmem
    obtain ⟨cat, hcat, hmem⟩ := List.mem_flatMap.1 hmem
    obtain heq | hsub := List.mem_cons.1 hmem
    · rw [lowered_eq (taxonomy_isAscii cat hcat).1] at heq
      exact hnames cat hcat (decide_eq_true heq.symm)
    · obtain ⟨sub, hsub, heq⟩ := List.mem_map.1 hsub
      rw [lowered_eq ((taxonomy_isAscii cat hcat).2 sub hsub)] at heq
      exact hsubs cat hcat (List.any_eq_true.2 ⟨sub, hsub, decide_eq_true heq⟩)
  · intro hnot
    refine ⟨fun cat hcat heq ↦ hnot ?_, fun cat hcat hany ↦ hnot ?_⟩
    · rw [decide_eq_true_eq, ← lowered_eq (taxonomy_isAscii cat hcat).1] at heq
      exact List.mem_flatMap.2 ⟨cat, hcat, heq ▸ List.mem_cons_self⟩
    · obtain ⟨sub, hsub, heq⟩ := List.any_eq_true.1 hany
      rw [decide_eq_true_eq, ← lowered_eq ((taxonomy_isAscii cat hcat).2 sub hsub)] at heq
      exact List.mem_flatMap.2
        ⟨cat, hcat, List.mem_cons_of_mem _ (List.mem_map.2 ⟨sub, hsub, heq⟩)⟩

theorem taxonomyMajor_of_findMajor {text : List Char} {cat : CategoryDefinition}
    (h : findMajor M text = some cat) : taxonomyMajor loweredBytes text = some cat.name := by
  rw [findMajor_eq] at h
  rw [taxonomyMajor, h]
  rfl

/-! ### The client without user categories -/

/-- The major category that the words of a name spell, or else these words. -/
def spelledMajor (c : List Char) : String :=
  let formatted := formatCategoryName M (String.ofList c)
  if formatted = "Shopping" then "Shopping"
  else ((findMajor M (M.lowerCase formatted.toList)).map fun cat ↦ cat.name).getD formatted

/-- `getMajorCategoryForSubcategory`, where no user has added a category, of a name that is not
filed by its key. -/
theorem getMajorCategoryForSubcategory_nil {clean : List Char} (hclean : trim clean = clean)
    (hkey : asciiKey (M.lowerCase clean) ∉ ["personalcare".toList, "generalmerchandise".toList,
      "other".toList, "uncategorized".toList, "unknown".toList])
    (hsupplies : asciiKey (M.lowerCase clean) ∉ ["homesupplies".toList, "householdsupplies".toList])
    (hmajor : findMajor M (M.lowerCase clean) = none) :
    getMajorCategoryForSubcategory M clean [] =
      let text := M.lowerCase clean
      if text = "general".toList then some "Shopping"
      else (taxonomyMajor loweredBytes text).or
        (if "other ".toList <+: text then
          some (((findMajor M (trim (text.drop 6))).map fun cat ↦ cat.name).getD "Shopping")
        else if "water".toList <:+: text ∨ "rent_and_utilities".toList <:+: text ∨
            "rent & utilities".toList <:+: text then some "Bills & Utilities"
        else none) := by
  have hlow : taxonomyMajor loweredBytes (M.lowerCase clean) =
      ((CATEGORIES_TAXONOMY.find? fun cat ↦
        cat.subcategories.any fun sub ↦ M.lowerCase sub.toList = M.lowerCase clean).map
          fun cat ↦ cat.name) := by
    have hcongr := taxonomyMajor_congr (fun s ↦ M.lowerCase s.toList) loweredBytes
      (fun cat hcat ↦ ⟨?_, fun sub hsub ↦ ?_⟩) (M.lowerCase clean)
    · rw [← hcongr, taxonomyMajor]
      rw [findMajor] at hmajor
      rw [hmajor, Option.none_or]
    · rw [lowerCase_eq_lowered M (taxonomy_isAscii cat hcat).1,
        lowered_eq (taxonomy_isAscii cat hcat).1]
    · rw [lowerCase_eq_lowered M ((taxonomy_isAscii cat hcat).2 sub hsub),
        lowered_eq ((taxonomy_isAscii cat hcat).2 sub hsub)]
  -- the other names that are told apart here are filed by their keys
  have hnames : M.lowerCase clean ∈ ["general merchandise".toList, "general_merchandise".toList,
      "other".toList, "uncategorized".toList, "general".toList] ↔
      M.lowerCase clean = "general".toList := by
    refine ⟨fun hmem ↦ (namesByKey.1 _ hmem).resolve_right hkey, fun heq ↦ ?_⟩
    rw [heq]
    exact List.mem_of_mem_getLast? rfl
  simp only [getMajorCategoryForSubcategory, hclean, hnames, List.find?_nil, Option.bind_none, hlow,
    if_neg fun hmem ↦ hsupplies (namesByKey.2.1 _ hmem)]
  split
  · rfl
  · have hwater : (M.lowerCase clean = "water".toList ∨ "water".toList <:+: M.lowerCase clean ∨
        "rent_and_utilities".toList <:+: M.lowerCase clean ∨
          "rent & utilities".toList <:+: M.lowerCase clean) ↔
        ("water".toList <:+: M.lowerCase clean ∨
          "rent_and_utilities".toList <:+: M.lowerCase clean ∨
            "rent & utilities".toList <:+: M.lowerCase clean) :=
      or_iff_right_of_imp fun heq ↦ Or.inl (heq ▸ List.infix_refl _)
    simp only [hwater]
    cases CATEGORIES_TAXONOMY.find? fun cat ↦
      cat.subcategories.any fun sub ↦ M.lowerCase sub.toList = M.lowerCase clean with
    | some cat => rfl
    | none => rfl

/-- `resolveMajorCategory`, where no user has added a category. -/
theorem resolveMajorCategory_nil (c : String) :
    resolveMajorCategory M c [] =
      let clean := trim c.toList
      let text := M.lowerCase clean
      let normKey := asciiKey text
      if clean = [] then "Shopping"
      else if normKey ∈ ["rentandutilities".toList, "rentutilities".toList,
          "rentandutilitieswater".toList, "rentutilitieswater".toList] then "Bills & Utilities"
      else if normKey ∈ ["homesupplies".toList, "householdsupplies".toList] then
        "Home Improvement"
      else if normKey ∈ ["personalcare".toList, "generalmerchandise".toList, "other".toList,
          "uncategorized".toList, "unknown".toList] then "Shopping"
      else if normKey ∈ ["foodanddrink".toList, "fooddrink".toList] then "Food & Dining"
      else if text = "general".toList then "Shopping"
      else (taxonomyMajor loweredBytes text).getD
        (if "other ".toList <+: text then
          ((findMajor M (trim (text.drop 6))).map fun cat ↦ cat.name).getD "Shopping"
        else if "water".toList <:+: text ∨ "rent_and_utilities".toList <:+: text ∨
            "rent & utilities".toList <:+: text then "Bills & Utilities"
        else spelledMajor M clean) := by
  simp only [resolveMajorCategory]
  split
  · rfl
  split
  · rfl
  split
  · rfl
  split
  · rfl
  split
  · rfl
  rename_i hsupplies hkey _
  cases hmajor : findMajor M (M.lowerCase (trim c.toList)) with
  | some cat =>
    have hcat := taxonomyMajor_of_findMajor M hmajor
    have hgeneral : M.lowerCase (trim c.toList) ≠ "general".toList := fun heq ↦ by
      rw [heq, namesByKey.2.2] at hcat
      exact absurd hcat (by simp)
    rw [if_neg hgeneral, hcat]
    rfl
  | none =>
    simp only [getMajorCategoryForSubcategory_nil M (trim_trim c.toList) hkey hsupplies hmajor]
    by_cases hgeneral : M.lowerCase (trim c.toList) = "general".toList
    · simp only [if_pos hgeneral]
    simp only [if_neg hgeneral]
    cases taxonomyMajor loweredBytes (M.lowerCase (trim c.toList)) with
    | some major => rfl
    | none =>
      simp only [Option.none_or, Option.getD_none]
      by_cases hother : "other ".toList <+: M.lowerCase (trim c.toList)
      · simp only [if_pos hother]
      simp only [if_neg hother]
      by_cases hwater : "water".toList <:+: M.lowerCase (trim c.toList) ∨
          "rent_and_utilities".toList <:+: M.lowerCase (trim c.toList) ∨
            "rent & utilities".toList <:+: M.lowerCase (trim c.toList)
      · simp only [if_pos hwater]
      simp only [if_neg hwater, spelledMajor, List.find?_nil]
      by_cases hformatted : formatCategoryName M (String.ofList (trim c.toList)) = "Shopping"
      · simp only [if_pos hformatted]
      simp only [if_neg hformatted]
      cases findMajor M (M.lowerCase
        (formatCategoryName M (String.ofList (trim c.toList))).toList) with
      | some cat => rfl
      | none => rfl

/-! ### Rule by rule -/

section Rules

variable (c : String)

/-- The two keys of a name. -/
theorem plainKey_normalizeCategoryKey : plainKey (normalizeCategoryKey c) =
    plainKey (asciiKey (M.lowerCase (trim c.toList))) := by
  rw [M.plainKey_asciiKey, trim, alphanumKey_strip not_isAlphanum_of_isSpace]
  rfl

/-- A rule of the client for a key of the server's table. -/
theorem eq_filed_iff {e : String × String} (he : e ∈ tableEntries) {key clientKey : List Char}
    (hkey : plainKey key = plainKey clientKey) (hclient : clientKey = e.2.toList) :
    e.1 = filed key ↔ e.1 = "Shopping" ∨ key = clientKey := by
  subst hclient
  rw [filed_eq he hkey]
  split
  · rename_i h
    exact ⟨fun _ ↦ Or.inr h, fun _ ↦ rfl⟩
  · rename_i h
    exact (or_iff_left h).symm

/-- A rule of the client for some keys of one major category. -/
theorem keys_eq_filed_iff {major : String} {names : List String}
    (hnames : ∀ k ∈ names, (major, k) ∈ tableEntries) {key clientKey : List Char}
    (hkey : plainKey key = plainKey clientKey) (hmem : clientKey ∈ names.map String.toList) :
    major = filed key ↔ major = "Shopping" ∨ key = clientKey := by
  obtain ⟨k, hk, heq⟩ := List.mem_map.1 hmem
  exact eq_filed_iff (hnames k hk) hkey heq.symm

/-- The rule for rent and utilities. The server has no key for all three words. -/
theorem bills_eq_filed_iff {key clientKey : List Char} (hkey : plainKey key = plainKey clientKey)
    (hmem : clientKey ∈ ["rentandutilities".toList, "rentutilities".toList,
      "rentandutilitieswater".toList, "rentutilitieswater".toList]) :
    "Bills & Utilities" = filed key ↔
      clientKey ≠ "rentandutilitieswater".toList ∧ key = clientKey := by
  by_cases habsent : clientKey = "rentandutilitieswater".toList
  · rw [habsent] at hkey
    rw [filed_eq_shopping (keysAbsent _ (by simp)) hkey]
    exact iff_of_false (by decide) fun h ↦ h.1 habsent
  · have hpresent : clientKey ∈ ["rentandutilities", "rentutilities", "rentutilitieswater",
        "water"].map String.toList := by
      simp only [List.mem_cons, List.not_mem_nil, or_false] at hmem
      obtain h | h | h | h := hmem
      · exact List.mem_map.2 ⟨_, List.mem_cons_self, h.symm⟩
      · exact List.mem_map.2 ⟨_, List.mem_cons_of_mem _ List.mem_cons_self, h.symm⟩
      · exact absurd h habsent
      · exact List.mem_map.2
          ⟨_, List.mem_cons_of_mem _ (List.mem_cons_of_mem _ List.mem_cons_self), h.symm⟩
    rw [keys_eq_filed_iff keysPresent.1 hkey hpresent, or_iff_right (by decide),
      and_iff_right habsent]

/-- The rule for the keys that are Shopping by themselves. -/
theorem shopping_eq_filed {key clientKey : List Char} (hkey : plainKey key = plainKey clientKey)
    (hmem : clientKey ∈ ["personalcare".toList, "generalmerchandise".toList, "other".toList,
      "uncategorized".toList, "unknown".toList]) : "Shopping" = filed key := by
  by_cases habsent : clientKey = "unknown".toList
  · rw [habsent] at hkey
    exact (filed_eq_shopping (keysAbsent _ (by simp)) hkey).symm
  · have hpresent : clientKey ∈ ["personalcare", "generalmerchandise", "other",
        "uncategorized"].map String.toList := by
      have hsplit := (List.mem_append (s := ["personalcare", "generalmerchandise", "other",
        "uncategorized"].map String.toList) (t := ["unknown".toList])).1 hmem
      exact hsplit.resolve_right fun h ↦ habsent (List.mem_singleton.1 h)
    exact (keys_eq_filed_iff keysPresent.2.2.1 hkey hpresent).2 (Or.inl rfl)

/-- The rule for the names of the taxonomy. -/
theorem taxonomy_eq_filed_iff {key text : List Char} {major : String}
    (hkey : plainKey key = plainKey (asciiKey text))
    (hmajor : taxonomyMajor loweredBytes text = some major) :
    major = filed key ↔ text ∈ shoppingTexts ∨ (text ∉ misfiledTexts ∧ key = asciiKey text) := by
  have hmem : text ∈ taxonomyTexts := by
    by_contra hnot
    rw [taxonomyMajor_eq_none_iff.2 hnot] at hmajor
    exact absurd hmajor (by simp)
  obtain ⟨cat, hcat, s, hs, rfl⟩ : ∃ cat ∈ CATEGORIES_TAXONOMY, ∃ s ∈ cat.name :: cat.subcategories,
      loweredBytes s = text := by
    obtain ⟨cat, hcat, hmem⟩ := List.mem_flatMap.1 hmem
    obtain heq | hsub := List.mem_cons.1 hmem
    · exact ⟨cat, hcat, cat.name, List.mem_cons_self,
        heq ▸ (lowered_eq (taxonomy_isAscii cat hcat).1).symm⟩
    · obtain ⟨sub, hsub, heq⟩ := List.mem_map.1 hsub
      exact ⟨cat, hcat, sub, List.mem_cons_of_mem _ hsub,
        heq ▸ (lowered_eq ((taxonomy_isAscii cat hcat).2 sub hsub)).symm⟩
  by_cases hmisfiled : loweredBytes s ∈ misfiledTexts
  · obtain ⟨hnot, other, -, hfind, hname, habsent⟩ := misfiledElsewhere _ hmisfiled
    have heq : major = other.name := Option.some.inj (hmajor.symm.trans hfind)
    refine ⟨fun hfiled ↦ ?_, fun h ↦ absurd hmisfiled (h.resolve_left hnot).1⟩
    -- the server has the letters of the name, if at all, under another major category
    obtain ⟨hnone, -⟩ | ⟨e, he, rfl, hmajor⟩ := filed_cases key
    · exact absurd (heq.symm.trans (hfiled.trans hnone)) hname
    · rw [toList_eq_byteChars (tableEntries_isAscii e he)] at hkey
      exact absurd (hmajor.symm.trans (hfiled.symm.trans heq)) (habsent e he (congrArg code hkey))
  · obtain ⟨arm, harm, hfind, hshopping, k, hk, hkchars⟩ :=
      (taxonomyFiled cat hcat s hs).resolve_left hmisfiled
    have he : (arm.1, k) ∈ tableEntries := mem_tableEntries.2 ⟨arm, harm, rfl, hk⟩
    obtain rfl : major = arm.1 := Option.some.inj (hmajor.symm.trans hfind)
    have hclient : asciiKey (loweredBytes s) = k.toList := by
      rw [← hkchars, toList_eq_byteChars (tableEntries_isAscii _ he)]
    rw [eq_filed_iff he hkey hclient, hshopping, and_iff_right hmisfiled]

theorem asciiKey_trim (s : List Char) : asciiKey (trim s) = asciiKey s := by
  have hspace : ∀ c, isSpace c → isKeyChar c = false := by
    intro c hc
    have hnot := not_isAlphanum_of_isSpace c hc
    simp only [Char.isAlphanum, Char.isAlpha, Bool.or_eq_false_iff] at hnot
    rw [isKeyChar, hnot.1.2, hnot.2, Bool.or_self]
  exact filter_strip hspace s

/-- The letters of a name that starts with `other`. -/
theorem asciiKey_of_other {text : List Char} (h : "other ".toList <+: text) :
    asciiKey text = "other".toList ++ asciiKey (trim (text.drop 6)) := by
  obtain ⟨rest, rfl⟩ := h
  have hdrop : ("other ".toList ++ rest).drop 6 = rest := List.drop_left' infixKeys.1.1
  rw [hdrop, asciiKey_trim, asciiKey_append, infixKeys.1.2.1]

theorem mem_of_other {text : List Char} (h : "other ".toList <+: text) {d : Char}
    (hd : d ∈ text) (hspace : isSpace d = false) (hother : d ∉ "other".toList) :
    d ∈ trim (text.drop 6) := by
  obtain ⟨rest, rfl⟩ := h
  have hdrop : ("other ".toList ++ rest).drop 6 = rest := List.drop_left' infixKeys.1.1
  rw [hdrop]
  refine mem_strip ?_ hspace
  refine (List.mem_append.1 hd).resolve_left fun hmem ↦ ?_
  obtain hd | hd := infixKeys.1.2.2.2 d hmem
  · rw [hspace] at hd
    exact absurd hd (by decide)
  · exact hother hd

/-- The rule for `other` and a major category. -/
theorem other_major_eq_filed_iff {cat : CategoryDefinition} (hcat : cat ∈ CATEGORIES_TAXONOMY)
    (hother : "other ".toList <+: M.lowerCase (trim c.toList))
    (hname : trim ((M.lowerCase (trim c.toList)).drop 6) = loweredBytes cat.name) :
    cat.name = filed (normalizeCategoryKey c) ↔
      trim ((M.lowerCase (trim c.toList)).drop 6) ∉ missingOthers := by
  obtain ⟨-, hk, hdot, hfiled⟩ := othersFiled cat hcat
  -- nothing of the name is outside of ASCII, so both sides have the same letters
  have hkey : normalizeCategoryKey c = "other".toList ++ asciiKey (loweredBytes cat.name) := by
    rw [← hname, ← asciiKey_of_other hother, M.asciiKey_eq_alphanumKey (fun hmem ↦ hk ?_)
      fun hmem ↦ hdot ?_]
    · exact (alphanumKey_strip not_isAlphanum_of_isSpace _).symm
    · exact hname ▸ mem_of_other hother hmem (by decide) (by decide)
    · exact hname ▸ mem_of_other hother hmem (by decide) (by decide)
  rw [hname]
  obtain ⟨hmem, hshopping, habsent⟩ | ⟨hmem, arm, harm, harmname, k, hkmem, hkchars⟩ := hfiled
  · rw [filed_eq_shopping habsent (congrArg plainKey hkey)]
    exact iff_of_false hshopping (not_not.2 hmem)
  · have he : (arm.1, k) ∈ tableEntries := mem_tableEntries.2 ⟨arm, harm, rfl, hkmem⟩
    have hklist : normalizeCategoryKey c = k.toList := by
      rw [hkey, ← hkchars, toList_eq_byteChars (tableEntries_isAscii _ he)]
    refine iff_of_true ?_ hmem
    rw [← harmname]
    exact (eq_filed_iff he rfl hklist).2 (Or.inr rfl)

/-- The rule for `other` and anything else. -/
theorem other_eq_filed_iff (hother : "other ".toList <+: M.lowerCase (trim c.toList)) :
    "Shopping" = filed (normalizeCategoryKey c) ↔
      normalizeCategoryKey c ∉ filedOthers.map String.toList := by
  constructor
  · intro hfiled hmem
    obtain ⟨k, hk, heq⟩ := List.mem_map.1 hmem
    obtain ⟨arm, harm, hname, hkmem⟩ := othersListed.1 k hk
    have he : (arm.1, k) ∈ tableEntries := mem_tableEntries.2 ⟨arm, harm, rfl, hkmem⟩
    exact hname (((eq_filed_iff he rfl heq.symm).2 (Or.inr rfl)).trans hfiled.symm)
  · intro hnot
    obtain ⟨hshopping, -⟩ | ⟨e, he, hkey, hfiled⟩ := filed_cases (normalizeCategoryKey c)
    · exact hshopping.symm
    · have hplain : plainKey (byteChars e.2) =
          "other".toList ++ plainKey (asciiKey (trim ((M.lowerCase (trim c.toList)).drop 6))) := by
        rw [← toList_eq_byteChars (tableEntries_isAscii e he), hkey,
          plainKey_normalizeCategoryKey M,
          asciiKey_of_other hother, plainKey_append, infixKeys.1.2.2.1]
      have hmem := othersListed.2 e he (hplain ▸ List.prefix_append _ _)
      rw [hfiled]
      exact (hmem.resolve_right fun h ↦ hnot (List.mem_map.2 ⟨e.2, h, hkey⟩)).symm

/-- The rule for `other`. -/
theorem other_candidate_eq_filed_iff (hother : "other ".toList <+: M.lowerCase (trim c.toList)) :
    (((findMajor M (trim ((M.lowerCase (trim c.toList)).drop 6))).map fun cat ↦ cat.name).getD
        "Shopping" = filed (normalizeCategoryKey c)) ↔
      if trim ((M.lowerCase (trim c.toList)).drop 6) ∈ majorTexts then
        trim ((M.lowerCase (trim c.toList)).drop 6) ∉ missingOthers
      else normalizeCategoryKey c ∉ filedOthers.map String.toList := by
  cases hfind : findMajor M (trim ((M.lowerCase (trim c.toList)).drop 6)) with
  | some cat =>
    rw [findMajor_eq] at hfind
    have hcat := List.mem_of_find?_eq_some hfind
    have hfound := List.find?_some hfind
    have hname := of_decide_eq_true hfound
    have hmem : trim ((M.lowerCase (trim c.toList)).drop 6) ∈ majorTexts :=
      List.mem_map.2 ⟨cat, hcat, (lowered_eq (taxonomy_isAscii cat hcat).1).trans hname⟩
    rw [if_pos hmem]
    exact other_major_eq_filed_iff M c hcat hother hname.symm
  | none =>
    rw [findMajor_eq] at hfind
    have hnot : trim ((M.lowerCase (trim c.toList)).drop 6) ∉ majorTexts := fun hmem ↦ by
      obtain ⟨cat, hcat, hname⟩ := List.mem_map.1 hmem
      rw [lowered_eq (taxonomy_isAscii cat hcat).1] at hname
      exact List.find?_eq_none.1 hfind cat hcat (decide_eq_true hname)
    rw [if_neg hnot]
    exact other_eq_filed_iff M c hother

/-- The rule for names that contain `water`, or rent and utilities. -/
theorem water_eq_filed_iff (hwater : "water".toList <:+: M.lowerCase (trim c.toList) ∨
      "rent_and_utilities".toList <:+: M.lowerCase (trim c.toList) ∨
        "rent & utilities".toList <:+: M.lowerCase (trim c.toList)) :
    "Bills & Utilities" = filed (normalizeCategoryKey c) ↔ normalizeCategoryKey c ∈
      ["rentandutilities", "rentutilities", "rentutilitieswater", "water"].map String.toList := by
  constructor
  · intro hfiled
    obtain ⟨hshopping, -⟩ | ⟨e, he, hkey, hmajor⟩ := filed_cases (normalizeCategoryKey c)
    · exact absurd (hfiled.trans hshopping) (by decide)
    · have hplain : plainKey (byteChars e.2) =
          plainKey (asciiKey (M.lowerCase (trim c.toList))) := by
        rw [← toList_eq_byteChars (tableEntries_isAscii e he), hkey,
          plainKey_normalizeCategoryKey M]
      -- what the name contains is found again in its letters
      have hinfix {t : List Char} (h : t <:+: M.lowerCase (trim c.toList)) :
          plainKey (asciiKey t) <:+: plainKey (byteChars e.2) :=
        hplain ▸ (h.filter isKeyChar).filter isPlain
      refine List.mem_map.2 ⟨e.2, waterListed e he (hmajor.symm.trans hfiled.symm) ?_, hkey⟩
      obtain h | h | h := hwater
      · exact Or.inl (infixKeys.2.1 ▸ hinfix h)
      · exact Or.inr (Or.inl (infixKeys.2.2.1 ▸ hinfix h))
      · exact Or.inr (Or.inr (infixKeys.2.2.2 ▸ hinfix h))
  · intro hmem
    exact (keys_eq_filed_iff keysPresent.1 rfl hmem).2 (Or.inr rfl)

/-- What it takes for the server to answer with a major category. -/
theorem eq_filed_iff_of_mem {arm : String × List String} (harm : arm ∈ majorCategories)
    {key : List Char} : arm.1 = filed key ↔ (arm.1 = "Shopping" ∧ ∀ other ∈ majorCategories,
      other.1 ≠ "Shopping" → ∀ k ∈ other.2, k.toList ≠ key) ∨ ∃ k ∈ arm.2, k.toList = key := by
  constructor
  · intro hfiled
    obtain ⟨hshopping, habsent⟩ | ⟨e, he, hkey, hmajor⟩ := filed_cases key
    · exact Or.inl ⟨hfiled.trans hshopping, fun other hother _ k hk ↦
        habsent (other.1, k) (mem_tableEntries.2 ⟨other, hother, rfl, hk⟩)⟩
    · obtain ⟨other, hother, hname, hk⟩ := mem_tableEntries.1 he
      obtain rfl := List.inj_on_of_nodup_map sameMajors.2.1 hother harm
        (hname.trans (hmajor.symm.trans hfiled.symm))
      exact Or.inr ⟨e.2, hk, hkey⟩
  · rintro (⟨hshopping, habsent⟩ | ⟨k, hk, heq⟩)
    · rw [hshopping]
      obtain ⟨hfiled, -⟩ | ⟨e, he, hkey, hmajor⟩ := filed_cases key
      · exact hfiled.symm
      · obtain ⟨other, hother, hname, hk⟩ := mem_tableEntries.1 he
        by_contra hne
        exact habsent other hother (fun heq ↦ hne (by rw [hmajor, ← hname, heq])) e.2 hk hkey
    · have he : (arm.1, k) ∈ tableEntries := mem_tableEntries.2 ⟨arm, harm, rfl, hk⟩
      exact (eq_filed_iff he rfl heq.symm).2 (Or.inr rfl)

theorem filed_mem (key : List Char) : filed key ∈ majorCategories.map Prod.fst := by
  obtain ⟨hshopping, -⟩ | ⟨e, he, -, hmajor⟩ := filed_cases key
  · rw [hshopping]
    exact sameMajors.2.2
  · obtain ⟨arm, harm, hname, -⟩ := mem_tableEntries.1 he
    exact List.mem_map.2 ⟨arm, harm, hname.trans hmajor.symm⟩

/-- The words of a name are those of a major category, or the client answers with no such. -/
theorem spelledMajor_cases (clean : List Char) :
    (∃ cat ∈ CATEGORIES_TAXONOMY, spelledMajor M clean = cat.name ∧
      lowered cat.name = M.lowerCase (formatCategoryName M (String.ofList clean)).toList) ∨
    ((∀ cat ∈ CATEGORIES_TAXONOMY, lowered cat.name ≠
        M.lowerCase (formatCategoryName M (String.ofList clean)).toList) ∧
      spelledMajor M clean ∉ CATEGORIES_TAXONOMY.map fun cat ↦ cat.name) := by
  have hlow (cat) (hcat : cat ∈ CATEGORIES_TAXONOMY) : M.lowerCase cat.name.toList =
      lowered cat.name := lowerCase_eq_lowered M (taxonomy_isAscii cat hcat).1
  unfold spelledMajor
  generalize formatCategoryName M (String.ofList clean) = formatted
  by_cases hshopping : formatted = "Shopping"
  · obtain ⟨cat, hcat, hname⟩ := List.mem_map.1 (sameMajors.1 ▸ sameMajors.2.2)
    exact Or.inl ⟨cat, hcat, (if_pos hshopping).trans hname.symm,
      by rw [hshopping, ← hname, hlow cat hcat]⟩
  simp only [if_neg hshopping]
  cases hfind : findMajor M (M.lowerCase formatted.toList) with
  | some cat =>
    have hcat := List.mem_of_find?_eq_some hfind
    have hfound := List.find?_some hfind
    exact Or.inl ⟨cat, hcat, rfl, hlow cat hcat ▸ of_decide_eq_true hfound⟩
  | none =>
    have hnone (cat) (hcat : cat ∈ CATEGORIES_TAXONOMY) :
        M.lowerCase cat.name.toList ≠ M.lowerCase formatted.toList := fun heq ↦
      List.find?_eq_none.1 hfind cat hcat (decide_eq_true heq)
    refine Or.inr ⟨fun cat hcat ↦ hlow cat hcat ▸ hnone cat hcat, fun hmem ↦ ?_⟩
    obtain ⟨cat, hcat, hname⟩ := List.mem_map.1 hmem
    exact hnone cat hcat (by rw [hname]; rfl)

theorem lowered_inj {cat other : CategoryDefinition} (hcat : cat ∈ CATEGORIES_TAXONOMY)
    (hother : other ∈ CATEGORIES_TAXONOMY) (h : lowered cat.name = lowered other.name) :
    cat = other := by
  rw [lowered_eq (taxonomy_isAscii cat hcat).1, lowered_eq (taxonomy_isAscii other hother).1] at h
  have hfirst := (othersFiled cat hcat).1
  rw [h, (othersFiled other hother).1] at hfirst
  exact (Option.some.inj hfirst).symm

/-- The rule for the names that the client knows nothing of but their words. -/
theorem spelled_eq_filed_iff {clean key : List Char} :
    spelledMajor M clean = filed key ↔ ∃ arm ∈ majorCategories,
      lowered arm.1 = M.lowerCase (formatCategoryName M (String.ofList clean)).toList ∧
        ((arm.1 = "Shopping" ∧ ∀ other ∈ majorCategories, other.1 ≠ "Shopping" →
          ∀ k ∈ other.2, k.toList ≠ key) ∨ ∃ k ∈ arm.2, k.toList = key) := by
  have harms {name : String} (h : name ∈ CATEGORIES_TAXONOMY.map fun cat ↦ cat.name) :
      ∃ arm ∈ majorCategories, arm.1 = name :=
    List.mem_map.1 (sameMajors.1 ▸ h)
  have hcats {arm : String × List String} (h : arm ∈ majorCategories) :
      ∃ cat ∈ CATEGORIES_TAXONOMY, cat.name = arm.1 :=
    List.mem_map.1 (sameMajors.1 ▸ List.mem_map_of_mem h)
  obtain ⟨cat, hcat, hspelled, hname⟩ | ⟨hnone, hnot⟩ := spelledMajor_cases M clean
  · rw [hspelled]
    obtain ⟨arm, harm, harmname⟩ := harms (List.mem_map_of_mem hcat)
    constructor
    · intro hfiled
      exact ⟨arm, harm, harmname ▸ hname,
        (eq_filed_iff_of_mem harm).1 (harmname.trans hfiled)⟩
    · rintro ⟨other, hother, hothername, hfiled⟩
      obtain ⟨cat', hcat', hcatname⟩ := hcats hother
      obtain rfl := lowered_inj hcat hcat' (by rw [hname, hcatname, hothername])
      exact hcatname.trans ((eq_filed_iff_of_mem hother).2 hfiled)
  · refine iff_of_false (fun hfiled ↦ hnot ?_) ?_
    · rw [hfiled, ← sameMajors.1]
      exact filed_mem key
    · rintro ⟨arm, harm, hname, -⟩
      obtain ⟨cat, hcat, hcatname⟩ := hcats harm
      exact hnone cat hcat (hcatname ▸ hname)

theorem formatCategoryName_trim (h : trim c.toList ≠ []) :
    formatCategoryName M (String.ofList (trim c.toList)) = formatCategoryName M c := by
  have hc : c ≠ "" := fun heq ↦ h (by rw [heq]; rfl)
  have hclean : String.ofList (trim c.toList) ≠ "" := fun heq ↦ h (by
    rw [← String.toList_ofList (l := trim c.toList), heq]
    rfl)
  simp only [formatCategoryName, if_neg hc, if_neg hclean, String.toList_ofList, trim_trim]

end Rules

/-- **Which names are resolved alike.** -/
theorem resolveMajorCategory_eq_iff (c : String) :
    resolveMajorCategory M c [] = Sumurai.resolveMajorCategory c ↔ ResolversAgree M c := by
  have hkey := plainKey_normalizeCategoryKey M c
  rw [resolveMajorCategory_nil, resolveMajorCategory_eq_filed]
  unfold ResolversAgree
  simp only
  by_cases hblank : trim c.toList = []
  · simp only [if_pos hblank, iff_true]
    rw [hblank] at hkey
    exact (filed_eq_shopping (keysAbsent [] List.mem_cons_self) hkey).symm
  simp only [if_neg hblank]
  by_cases hbills : asciiKey (M.lowerCase (trim c.toList)) ∈ ["rentandutilities".toList,
      "rentutilities".toList, "rentandutilitieswater".toList, "rentutilitieswater".toList]
  · simp only [if_pos hbills]
    exact bills_eq_filed_iff hkey hbills
  simp only [if_neg hbills]
  by_cases hsupplies : asciiKey (M.lowerCase (trim c.toList)) ∈ ["homesupplies".toList,
      "householdsupplies".toList]
  · simp only [if_pos hsupplies]
    exact (keys_eq_filed_iff keysPresent.2.1 hkey hsupplies).trans (or_iff_right (by decide))
  simp only [if_neg hsupplies]
  by_cases hshopping : asciiKey (M.lowerCase (trim c.toList)) ∈ ["personalcare".toList,
      "generalmerchandise".toList, "other".toList, "uncategorized".toList, "unknown".toList]
  · simp only [if_pos hshopping, iff_true]
    exact shopping_eq_filed hkey hshopping
  simp only [if_neg hshopping]
  by_cases hfood : asciiKey (M.lowerCase (trim c.toList)) ∈ ["foodanddrink".toList,
      "fooddrink".toList]
  · simp only [if_pos hfood]
    exact (keys_eq_filed_iff keysPresent.2.2.2 hkey hfood).trans (or_iff_right (by decide))
  simp only [if_neg hfood]
  by_cases hgeneral : M.lowerCase (trim c.toList) = "general".toList
  · simp only [if_pos hgeneral, iff_true]
    rw [hgeneral] at hkey
    exact (filed_eq_shopping (keysAbsent _ (List.mem_of_mem_getLast? rfl)) hkey).symm
  simp only [if_neg hgeneral]
  cases hmajor : taxonomyMajor loweredBytes (M.lowerCase (trim c.toList)) with
  | some major =>
    have hmem : M.lowerCase (trim c.toList) ∈ taxonomyTexts := by
      by_contra hnot
      rw [taxonomyMajor_eq_none_iff.2 hnot] at hmajor
      exact absurd hmajor (by simp)
    simp only [if_pos hmem]
    exact taxonomy_eq_filed_iff hkey hmajor
  | none =>
    simp only [if_neg (taxonomyMajor_eq_none_iff.1 hmajor), Option.getD_none]
    by_cases hother : "other ".toList <+: M.lowerCase (trim c.toList)
    · simp only [if_pos hother]
      exact other_candidate_eq_filed_iff M c hother
    simp only [if_neg hother]
    split
    · rename_i hwater
      exact water_eq_filed_iff M c hwater
    · rw [spelled_eq_filed_iff, formatCategoryName_trim M c hblank]

/-- A name that the two sides book under different major categories. -/
theorem water_resolved_apart :
    resolveMajorCategory simpleCase "RENT_AND_UTILITIES_WATER" [] = "Bills & Utilities" ∧
      Sumurai.resolveMajorCategory "RENT_AND_UTILITIES_WATER" = "Shopping" := by
  have hkey : normalizeCategoryKey "RENT_AND_UTILITIES_WATER" = "rentandutilitieswater".toList := by
    decide
  constructor
  · decide
  · have hmem : "rentandutilitieswater".toList ∈ [[], "unknown".toList,
        "rentandutilitieswater".toList, "general".toList] :=
      List.mem_cons_of_mem _ (List.mem_cons_of_mem _ List.mem_cons_self)
    rw [resolveMajorCategory_eq_filed, hkey]
    exact filed_eq_shopping (keysAbsent _ hmem) rfl

end Sumurai.Frontend
