import Sumurai.Analytics.SpendingCategory
import Sumurai.Frontend.Categories

/-!
# The two tables of categories

The server's table of keys and the client's taxonomy, held against each other. What a proof about
the two resolvers needs to know of the tables is finite, and is checked here in one go, the strings
being read by their bytes.
-/

namespace Sumurai.Frontend

open Text

/-! ### The tables -/

/-- A name as the client compares it. -/
def lowered (name : String) : List Char :=
  name.toList.map Char.toLower

/-- The major categories of the taxonomy, as the client compares them. -/
def majorTexts : List (List Char) :=
  CATEGORIES_TAXONOMY.map fun cat ↦ lowered cat.name

/-- All names of the taxonomy, as the client compares them. -/
def taxonomyTexts : List (List Char) :=
  CATEGORIES_TAXONOMY.flatMap fun cat ↦ lowered cat.name :: cat.subcategories.map lowered

/-- The names of the taxonomy that the server files under another major category. -/
def misfiledTexts : List (List Char) :=
  ["toys".toList, "mortgage".toList, "home insurance".toList, "car insurance".toList]

/-- Shopping and its subcategories. A name of no major category is Shopping to the server, so the
client cannot be wrong about these. -/
def shoppingTexts : List (List Char) :=
  ["shopping".toList, "books".toList, "clothing".toList, "decor".toList, "electronics".toList,
    "hair".toList, "hobbies".toList, "home".toList, "kitchen".toList, "laundry".toList,
    "personal care".toList, "spa & massage".toList]

/-- The major categories that the server's table has no `other` of. -/
def missingOthers : List (List Char) :=
  ["earned income".toList, "groceries".toList, "home improvement".toList,
    "home management".toList, "insurance".toList, "tax refund".toList]

/-- The keys that start with `other` and are not Shopping to the server. Most are of the major
categories, of which the client makes out the full names only. -/
def filedOthers : List String :=
  ["otherbillsutilities", "otherbillsandutilities", "otherchildcare", "othereducation",
    "otherentertainment", "otherfooddining", "otherfoodanddining", "othergiftsdonations",
    "othergiftsanddonations", "otherhome", "othermedical", "otherpets", "othertaxes",
    "otherautotransport", "otherautoandtransport", "othertransportation", "othertransfer",
    "othertravel"]

/-- The entries of the server's table: a major category and one of its keys. -/
def tableEntries : List (String × String) :=
  majorCategories.flatMap fun arm ↦ arm.2.map fun k ↦ (arm.1, k)

theorem mem_tableEntries {e : String × String} :
    e ∈ tableEntries ↔ ∃ arm ∈ majorCategories, arm.1 = e.1 ∧ e.2 ∈ arm.2 := by
  simp only [tableEntries, List.mem_flatMap, List.mem_map]
  constructor
  · rintro ⟨arm, harm, k, hk, rfl⟩
    exact ⟨arm, harm, rfl, hk⟩
  · rintro ⟨arm, harm, hname, hk⟩
    exact ⟨arm, harm, e.2, hk, Prod.ext hname rfl⟩

/-- A number for a text, the same for equal texts. -/
def code (s : List Char) : ℕ :=
  s.foldr (fun c n ↦ c.toNat + 128 * n) 0

/-- No number comes twice. -/
def distinct : List ℕ → Bool
  | [] => true
  | n :: ns => ns.all (fun m ↦ !Nat.beq n m) && distinct ns

theorem nodup_of_distinct {ns : List ℕ} (h : distinct ns) : ns.Nodup := by
  induction ns with
  | nil => exact List.nodup_nil
  | cons n ns ih =>
    obtain ⟨hfirst, hrest⟩ := Bool.and_eq_true_iff.1 h
    refine List.nodup_cons.2 ⟨fun hmem ↦ ?_, ih hrest⟩
    have hne := List.all_eq_true.1 hfirst n hmem
    rw [Nat.beq_refl] at hne
    exact absurd hne (by decide)

/-- The major category of a name of the taxonomy, where the names are compared by `low`. -/
def taxonomyMajor (low : String → List Char) (text : List Char) : Option String :=
  ((CATEGORIES_TAXONOMY.find? fun cat ↦ low cat.name = text).or
    (CATEGORIES_TAXONOMY.find? fun cat ↦ cat.subcategories.any fun sub ↦ low sub = text)).map
      fun cat ↦ cat.name

/-- A name as the client compares it, read off its bytes. -/
def loweredBytes (name : String) : List Char :=
  (byteChars name).map Char.toLower

/-! ### What is checked -/

/-- The strings are ASCII. -/
abbrev TablesAscii : Prop :=
  (∀ e ∈ tableEntries, isAsciiString e.2) ∧ ∀ cat ∈ CATEGORIES_TAXONOMY,
    isAsciiString cat.name ∧ ∀ sub ∈ cat.subcategories, isAsciiString sub

/-- The letters `i` and `k` do not tell two keys of the server's table apart. -/
abbrev KeysDistinct : Prop :=
  distinct (tableEntries.map fun e ↦ code (plainKey (byteChars e.2)))

/-- Both sides have the same major categories, each once. -/
abbrev SameMajors : Prop :=
  (majorCategories.map Prod.fst = CATEGORIES_TAXONOMY.map fun cat ↦ cat.name) ∧
    (majorCategories.map Prod.fst).Nodup ∧ "Shopping" ∈ majorCategories.map Prod.fst

/-- The names of the taxonomy that are not misfiled have their letters in the server's table, under
the same major category. -/
abbrev TaxonomyFiled : Prop :=
  ∀ cat ∈ CATEGORIES_TAXONOMY, ∀ s ∈ cat.name :: cat.subcategories,
    loweredBytes s ∈ misfiledTexts ∨
      ∃ arm ∈ majorCategories, taxonomyMajor loweredBytes (loweredBytes s) = some arm.1 ∧
        (arm.1 = "Shopping" ↔ loweredBytes s ∈ shoppingTexts) ∧
          ∃ k ∈ arm.2, byteChars k = asciiKey (loweredBytes s)

/-- The misfiled ones have them elsewhere, or not at all. -/
abbrev MisfiledElsewhere : Prop :=
  ∀ t ∈ misfiledTexts, t ∉ shoppingTexts ∧
    ∃ cat ∈ CATEGORIES_TAXONOMY, taxonomyMajor loweredBytes t = some cat.name ∧
      cat.name ≠ "Shopping" ∧ ∀ e ∈ tableEntries,
        code (plainKey (byteChars e.2)) = code (plainKey (asciiKey t)) → e.1 ≠ cat.name

/-- Keys that are not in the server's table. -/
abbrev KeysAbsent : Prop :=
  ∀ t ∈ [[], "unknown".toList, "rentandutilitieswater".toList, "general".toList],
    ∀ e ∈ tableEntries, code (plainKey (byteChars e.2)) ≠ code (plainKey t)

/-- Keys that are in the server's table. -/
abbrev KeysPresent : Prop :=
  (∀ k ∈ ["rentandutilities", "rentutilities", "rentutilitieswater", "water"],
    ("Bills & Utilities", k) ∈ tableEntries) ∧
  (∀ k ∈ ["homesupplies", "householdsupplies"], ("Home Improvement", k) ∈ tableEntries) ∧
  (∀ k ∈ ["personalcare", "generalmerchandise", "other", "uncategorized"],
    ("Shopping", k) ∈ tableEntries) ∧
  ∀ k ∈ ["foodanddrink", "fooddrink"], ("Food & Dining", k) ∈ tableEntries

/-- The major categories with `other` before them: the server's table has their letters, or the
major category is one of `missingOthers`. -/
abbrev OthersFiled : Prop :=
  ∀ cat ∈ CATEGORIES_TAXONOMY,
    (CATEGORIES_TAXONOMY.find? fun other ↦ loweredBytes other.name = loweredBytes cat.name) =
        some cat ∧ 'k' ∉ loweredBytes cat.name ∧ '\u0307' ∉ loweredBytes cat.name ∧
      ((loweredBytes cat.name ∈ missingOthers ∧ cat.name ≠ "Shopping" ∧ ∀ e ∈ tableEntries,
          code (plainKey (byteChars e.2)) ≠
            code (plainKey ("other".toList ++ asciiKey (loweredBytes cat.name)))) ∨
        loweredBytes cat.name ∉ missingOthers ∧ ∃ arm ∈ majorCategories, arm.1 = cat.name ∧
          ∃ k ∈ arm.2, byteChars k = "other".toList ++ asciiKey (loweredBytes cat.name))

/-- `filedOthers` are the keys with `other` before them that are not Shopping. -/
abbrev OthersListed : Prop :=
  (∀ k ∈ filedOthers, ∃ arm ∈ majorCategories, arm.1 ≠ "Shopping" ∧ k ∈ arm.2) ∧
    ∀ e ∈ tableEntries, "other".toList <+: plainKey (byteChars e.2) →
      e.1 = "Shopping" ∨ e.2 ∈ filedOthers

/-- The keys of Bills & Utilities with water, or rent and utilities, in them. -/
abbrev WaterListed : Prop :=
  ∀ e ∈ tableEntries, e.1 = "Bills & Utilities" →
    ("water".toList <:+: plainKey (byteChars e.2) ∨
      "rentandutltes".toList <:+: plainKey (byteChars e.2) ∨
        "rentutltes".toList <:+: plainKey (byteChars e.2)) →
      e.2 ∈ ["rentandutilities", "rentutilities", "rentutilitieswater", "water"]

/-- The names that the client tells apart by their text are filed by their keys, but for one that
is not in the taxonomy. -/
abbrev NamesByKey : Prop :=
  (∀ t ∈ ["general merchandise".toList, "general_merchandise".toList, "other".toList,
    "uncategorized".toList, "general".toList], t = "general".toList ∨
      asciiKey t ∈ ["personalcare".toList, "generalmerchandise".toList, "other".toList,
        "uncategorized".toList, "unknown".toList]) ∧
  (∀ t ∈ ["home supplies".toList, "home_supplies".toList, "homesupplies".toList],
    asciiKey t ∈ ["homesupplies".toList, "householdsupplies".toList]) ∧
  taxonomyMajor loweredBytes "general".toList = none

/-- The letters of what the client looks for within a name. -/
abbrev InfixKeys : Prop :=
  ("other ".toList.length = 6 ∧ asciiKey "other ".toList = "other".toList ∧
    plainKey "other".toList = "other".toList ∧
      ∀ c ∈ "other ".toList, isSpace c = true ∨ c ∈ "other".toList) ∧
  plainKey (asciiKey "water".toList) = "water".toList ∧
  plainKey (asciiKey "rent_and_utilities".toList) = "rentandutltes".toList ∧
  plainKey (asciiKey "rent & utilities".toList) = "rentutltes".toList

/-- **The tables, checked.** -/
theorem tables_checked : TablesAscii ∧ KeysDistinct ∧ SameMajors ∧ TaxonomyFiled ∧
    MisfiledElsewhere ∧ KeysAbsent ∧ KeysPresent ∧ OthersFiled ∧ OthersListed ∧ WaterListed ∧
      NamesByKey ∧ InfixKeys := by
  refine ⟨?_, ?_, ?_, ?_, ?_, ?_, ?_, ?_, ?_, ?_, ?_, ?_⟩ <;> decide +kernel

end Sumurai.Frontend
