import Sumurai.Analytics.SpendingTotals
import Sumurai.Frontend.CategoryAgreement
import Sumurai.Frontend.RolloverWindows
import Sumurai.Frontend.SpendingAgreement

/-!
# What is spent in a category, on either side

For a category and a month, the client adds up the transactions that it files under the category
(`calculateSpent`), and the server has a total of its own in the list of its categories
(`groupTransactionsWithAccountByEffectiveCategory`). Where both resolve every category alike, they
still leave out different transactions, and `calculateSpent_eq_iff` says when the two amounts agree.

The client counts pending transactions, and files a transaction under the name of its subcategory,
too. Each side has exclusions that the other has not: the client goes by the category that the user
sees, the server also by the category of the provider.
-/

namespace Sumurai.Frontend

open Text PartialSums

variable (M : CaseMapping)

/-! ### The dates that the server sends -/

/-- The text of a year in a date. -/
def yearText (year : ℤ) : List Char :=
  if 0 ≤ year ∧ year ≤ 9999 then padded 4 year.toNat
  else (if year < 0 then '-' else '+') ::
    (if year.natAbs ≤ 9999 then padded 4 year.natAbs else (toString year.natAbs).toList)

theorem toList_serializeDate (d : NaiveDate) : (serializeDate d).toList =
    windowText (yearText (NaiveDate.year d)) (NaiveDate.month d) (NaiveDate.day d) :=
  String.toList_ofList

/-- A year of the calendar that the client reads has no sign. -/
theorem yearText_of_mem {year : ℤ} (h : 0 ≤ year ∧ year ≤ 9999) :
    yearText year = padded 4 year.toNat :=
  if_pos h

/-- Any other year starts with a sign. -/
theorem yearText_of_not_mem {year : ℤ} (h : ¬(0 ≤ year ∧ year ≤ 9999)) :
    ∃ sign rest, yearText year = sign :: rest ∧ sign.isDigit = false := by
  refine ⟨_, _, if_neg h, ?_⟩
  split <;> decide

theorem padded_four_eq_cons (y : ℕ) : ∃ c rest, padded 4 y = c :: rest ∧ c.isDigit := by
  have hlength := length_padded 4 y
  cases htext : padded 4 y with
  | nil =>
    rw [htext] at hlength
    exact absurd hlength (by decide)
  | cons c rest => exact ⟨c, rest, rfl, isDigit_of_mem_padded (htext ▸ List.mem_cons_self)⟩

theorem yearText_eq_padded_iff {year : ℤ} {y : ℕ} (hy : y ≤ 9999) :
    yearText year = padded 4 y ↔ year = y := by
  have hlt : y < 10 ^ 4 := Nat.lt_succ_of_le hy
  by_cases hmem : 0 ≤ year ∧ year ≤ 9999
  · rw [yearText_of_mem hmem]
    constructor
    · intro htext
      have hnat := padded_inj (by omega) hlt htext
      omega
    · intro heq
      rw [heq, Int.toNat_natCast]
  · refine iff_of_false (fun htext ↦ ?_) (by omega)
    obtain ⟨sign, rest, hyear, hsign⟩ := yearText_of_not_mem hmem
    obtain ⟨c, rest', hpadded, hdigit⟩ := padded_four_eq_cons y
    obtain rfl : sign = c := (List.cons.inj (hyear.symm.trans (htext.trans hpadded))).1
    rw [hdigit] at hsign
    exact absurd hsign (by decide)

/-- A year has no hyphen but for its sign. -/
theorem hyphen_notMem_yearText (year : ℤ) : '-' ∉ (yearText year).drop 1 := by
  have hpadded (y : ℕ) : '-' ∉ padded 4 y := fun hmem ↦
    absurd (isDigit_of_mem_padded hmem) (by decide)
  rw [yearText]
  split
  · exact fun hmem ↦ hpadded _ (List.mem_of_mem_drop hmem)
  · show '-' ∉ ite _ _ _
    split
    · exact hpadded _
    · show '-' ∉ (Nat.repr year.natAbs).toList
      rw [Nat.toList_repr]
      exact fun hmem ↦
        absurd (Nat.isDigit_of_mem_toDigits (by decide) (by decide) hmem) (by decide)

/-- A date of a year with four digits is a day that the client reads. -/
theorem isDay_of_mem {d : NaiveDate} (h : 0 ≤ NaiveDate.year d ∧ NaiveDate.year d ≤ 9999) :
    IsDay (NaiveDate.year d).toNat (NaiveDate.month d) (NaiveDate.day d) := by
  have hmonth := Gregorian.month_spec (d + NaiveDate.epoch)
  have hday := NaiveDate.day_le_daysInMonth d
  rw [← Int.toNat_of_nonneg h.1] at hday
  exact ⟨by omega, hmonth.1, hmonth.2.1, NaiveDate.one_le_day d, hday⟩

theorem toList_serializeDate_of_mem {d : NaiveDate}
    (h : 0 ≤ NaiveDate.year d ∧ NaiveDate.year d ≤ 9999) : (serializeDate d).toList =
      dateText (NaiveDate.year d).toNat (NaiveDate.month d) (NaiveDate.day d) := by
  rw [toList_serializeDate, yearText_of_mem h, dateText]

/-- The client reads the dates of the years with four digits. -/
theorem isDated_received_iff (t : TransactionWithAccount) :
    IsDated (received M t) ↔ 0 ≤ NaiveDate.year t.date ∧ NaiveDate.year t.date ≤ 9999 := by
  constructor
  · rintro ⟨y, m, d, hday, hdate⟩
    have htext : windowText (yearText (NaiveDate.year t.date)) (NaiveDate.month t.date)
        (NaiveDate.day t.date) = dateText y m d := by
      rw [← toList_serializeDate, show serializeDate t.date = _ from hdate, String.toList_ofList]
    by_contra hmem
    obtain ⟨sign, rest, hyear, hsign⟩ := yearText_of_not_mem hmem
    obtain ⟨c, rest', hpadded, hdigit⟩ := padded_four_eq_cons y
    rw [dateText, windowText, windowText, hyear, hpadded] at htext
    obtain rfl : sign = c := (List.cons.inj htext).1
    rw [hdigit] at hsign
    exact absurd hsign (by decide)
  · intro hmem
    refine ⟨_, _, _, isDay_of_mem hmem, ?_⟩
    rw [← toList_serializeDate_of_mem hmem, String.ofList_toList]
    rfl

/-- The last day of a month. -/
def lastOfMonth (year : ℤ) (month : ℕ) : NaiveDate :=
  NaiveDate.monthStart year (month + 1) - 1

/-- The text of the first day of a month. -/
theorem serializeDate_monthStart (year : ℤ) {month : ℕ} (hone : 1 ≤ month) (htwelve : month ≤ 12) :
    (serializeDate (NaiveDate.monthStart year month)).toList =
      windowText (yearText year) month 1 := by
  obtain ⟨hyear, hmonth⟩ := (NaiveDate.mem_month_iff hone htwelve).2
    ⟨le_rfl, NaiveDate.monthStart_lt_succ year hone htwelve⟩
  have hday := NaiveDate.day_eq hyear hmonth
  rw [sub_self, zero_add] at hday
  rw [toList_serializeDate, hyear, hmonth, Nat.cast_eq_one.1 hday]

/-- The text of the last day of a month. -/
theorem serializeDate_lastOfMonth (year : ℤ) {month : ℕ} (hone : 1 ≤ month)
    (htwelve : month ≤ 12) : (serializeDate (lastOfMonth year month)).toList =
      windowText (yearText year) month (NaiveDate.daysInMonth year month) := by
  have hlt := NaiveDate.monthStart_lt_succ year hone htwelve
  obtain ⟨hyear, hmonth⟩ := (NaiveDate.mem_month_iff (d := lastOfMonth year month) hone
    htwelve).2 ⟨Int.le_sub_one_of_lt hlt, Int.sub_lt_self _ (by decide)⟩
  have hday := NaiveDate.day_eq hyear hmonth
  have hlength : NaiveDate.day (lastOfMonth year month) = NaiveDate.daysInMonth year month := by
    simp only [NaiveDate.daysInMonth, lastOfMonth, NaiveDate.monthStart] at hday hlt ⊢
    lia
  rw [toList_serializeDate, hyear, hmonth, hlength]

/-- **A month on the client** has the days that the server has in it. -/
theorem isBetween_month_iff (year : ℤ) {month : ℕ} (hone : 1 ≤ month) (htwelve : month ≤ 12)
    {d : NaiveDate} (hmem : 0 ≤ NaiveDate.year d ∧ NaiveDate.year d ≤ 9999) :
    isBetween (serializeDate (NaiveDate.monthStart year month)).toList
        (serializeDate (lastOfMonth year month)).toList (serializeDate d).toList ↔
      NaiveDate.year d = year ∧ NaiveDate.month d = month := by
  have hday := isDay_of_mem hmem
  have hlength : NaiveDate.daysInMonth year month ≤ 31 := daysInMonth_le hone htwelve
  have htext : yearText year = padded 4 (NaiveDate.year d).toNat ↔ year = NaiveDate.year d := by
    rw [yearText_eq_padded_iff hday.year_le, Int.toNat_of_nonneg hmem.1]
  rw [serializeDate_monthStart year hone htwelve, serializeDate_lastOfMonth year hone htwelve,
    toList_serializeDate_of_mem hmem, between_iff (hyphen_notMem_yearText year) hday (by omega)
      (by omega) (by omega) fun hyear hmonth ↦ ?_, htext]
  · omega
  · rw [Int.toNat_of_nonneg hmem.1, ← htext.1 hyear, hmonth]

/-! ### Which transactions count -/

/-- The client's category of a transaction. -/
def clientCategory (t : TransactionWithAccount) : String :=
  (t.customCategory.or t.ruleCategory).getD t.categoryPrimary

/-- The subcategory that the client goes by when it files a transaction. -/
def clientSubcategory (t : TransactionWithAccount) : String :=
  ((((received M t).category.detailed.filter (· ≠ "")).or
    (t.customSubcategory.filter (· ≠ ""))).or t.ruleSubcategory).getD ""

/-- A text is a name but for the case, or is shown like it. `lowered` is the text in lower case. -/
def Spells (name : String) (lowered : List Char) (text : String) : Prop :=
  lowered = M.lowerCase name.toList ∨
    M.lowerCase (formatCategoryName M text).toList =
      M.lowerCase (formatCategoryName M name).toList

/-- The client files a transaction under a major category by the major category of its category, by
the spelling of its category, or by the spelling of its subcategory. -/
def ClientFiles (name : String) (t : TransactionWithAccount) : Prop :=
  let sub := M.lowerCase (clientSubcategory M t).toList
  isSpendingExcludedCategory M (clientCategory t) = false ∧
    (getEffectiveCategoryName t = name ∨
      Spells M name (M.lowerCase (clientCategory t).toList) (clientCategory t) ∨
        sub ≠ [] ∧ Spells M name sub (String.ofList sub))

/-- A transaction counts in the client's amount. -/
def ClientCounts (name : String) (t : TransactionWithAccount) : Prop :=
  ClientFiles M name t ∧ hasExcludedCategory M (received M t) = false ∧
    ¬(IsCredit t ∧ ClientLoan M t)

/-- A transaction counts in the server's total. -/
def ServerCounts (name : String) (t : TransactionWithAccount) : Prop :=
  getEffectiveCategoryName t = name ∧ t.pending = false ∧
    Sumurai.isSpendingExcludedCategory name = false ∧
      Sumurai.isSpendingExcludedCategory t.categoryDetailed = false ∧ ¬(IsCredit t ∧ ServerLoan t)

/-- What a transaction adds to the client's amount if it counts there. -/
def clientAmount (t : TransactionWithAccount) : Decimal :=
  if IsCredit t then if t.provider = some "teller" then -t.amount else t.amount
  else max t.amount 0

/-- What a transaction adds to the server's total if it counts there. -/
def serverAmount (t : TransactionWithAccount) : Decimal :=
  if TellerCreditCard t then -clientAmount t else clientAmount t

/-- A transaction of a month. -/
def InMonth (year : ℤ) (month : ℕ) (t : TransactionWithAccount) : Prop :=
  NaiveDate.year t.date = year ∧ NaiveDate.month t.date = month

instance (name : String) (lowered : List Char) (text : String) :
    Decidable (Spells M name lowered text) :=
  inferInstanceAs (Decidable (_ ∨ _))

instance (name : String) (t : TransactionWithAccount) : Decidable (ClientFiles M name t) :=
  inferInstanceAs (Decidable (_ ∧ (_ ∨ _ ∨ _ ∧ _)))

instance (name : String) (t : TransactionWithAccount) : Decidable (ClientCounts M name t) :=
  inferInstanceAs (Decidable (_ ∧ _ ∧ ¬_))

instance (name : String) (t : TransactionWithAccount) : Decidable (ServerCounts name t) :=
  inferInstanceAs (Decidable (_ ∧ _ ∧ _ ∧ _ ∧ ¬_))

instance (year : ℤ) (month : ℕ) (t : TransactionWithAccount) : Decidable (InMonth year month t) :=
  inferInstanceAs (Decidable (_ ∧ _))

/-- When the two amounts agree: the client can read the dates of what it files under the category,
and what only the client counts in the month, with twice the Teller purchases that the server takes
for refunds, comes to the same amount as what only the server counts. -/
def BudgetsAgree (name : String) (year : ℤ) (month : ℕ) (rows : List TransactionWithAccount) :
    Prop :=
  (∀ t ∈ rows, ClientFiles M name t →
    0 ≤ NaiveDate.year t.date ∧ NaiveDate.year t.date ≤ 9999) ∧
  sumOf clientAmount
      (fun t ↦ InMonth year month t ∧ ClientCounts M name t ∧ ¬ServerCounts name t) rows +
    2 * sumOf clientAmount (fun t ↦ InMonth year month t ∧
      ClientCounts M name t ∧ ServerCounts name t ∧ TellerCreditCard t) rows =
  sumOf serverAmount
    (fun t ↦ InMonth year month t ∧ ServerCounts name t ∧ ¬ClientCounts M name t) rows

instance (name : String) (year : ℤ) (month : ℕ) (rows : List TransactionWithAccount) :
    Decidable (BudgetsAgree M name year month rows) :=
  inferInstanceAs (Decidable (_ ∧ _))

/-! ### The client -/

/-- The major categories resolve to themselves. -/
theorem majors_checked : ∀ cat ∈ CATEGORIES_TAXONOMY,
    trim (byteChars cat.name) = byteChars cat.name ∧ byteChars cat.name ≠ [] ∧
      asciiKey (loweredBytes cat.name) ∉ ["rentandutilities".toList, "rentutilities".toList,
        "rentandutilitieswater".toList, "rentutilitieswater".toList, "homesupplies".toList,
        "householdsupplies".toList, "personalcare".toList, "generalmerchandise".toList,
        "other".toList, "uncategorized".toList, "unknown".toList, "foodanddrink".toList,
        "fooddrink".toList] := by
  decide +kernel

theorem resolveMajorCategory_major {cat : CategoryDefinition} (hcat : cat ∈ CATEGORIES_TAXONOMY) :
    resolveMajorCategory M cat.name [] = cat.name := by
  have hascii := (taxonomy_isAscii cat hcat).1
  obtain ⟨htrim, hne, hkey⟩ := majors_checked cat hcat
  have hfind : findMajor M (loweredBytes cat.name) = some cat := by
    rw [findMajor_eq, (othersFiled cat hcat).1]
  have hclean : trim cat.name.toList = byteChars cat.name := by
    rw [toList_eq_byteChars hascii, htrim]
  have htext : M.lowerCase (byteChars cat.name) = loweredBytes cat.name := by
    rw [← toList_eq_byteChars hascii, lowerCase_eq_lowered M hascii, lowered_eq hascii]
  simp only [List.mem_cons, List.not_mem_nil, or_false, not_or] at hkey
  simp only [resolveMajorCategory, hclean, htext, hfind, hkey, hne, List.mem_cons,
    List.not_mem_nil, or_false, if_false]

/-- The majors are told apart by their lower case. -/
theorem lowerCase_major_inj {cat other : CategoryDefinition} (hcat : cat ∈ CATEGORIES_TAXONOMY)
    (hother : other ∈ CATEGORIES_TAXONOMY)
    (h : M.lowerCase cat.name.toList = M.lowerCase other.name.toList) : cat.name = other.name := by
  rw [lowerCase_eq_lowered M (taxonomy_isAscii cat hcat).1,
    lowerCase_eq_lowered M (taxonomy_isAscii other hother).1] at h
  rw [lowered_inj hcat hother h]

/-- What the client files under a category, where it resolves the categories as the server does. -/
theorem isInCategory_received_iff {name : String} (hname : name ∈ majorCategories.map Prod.fst)
    {t : TransactionWithAccount}
    (hresolved : resolveMajorCategory M (received M t).category.primary [] =
      getEffectiveCategoryName t) :
    isInCategory M name none (received M t) ↔ ClientFiles M name t := by
  have hprimary : (received M t).category.primary = clientCategory t := received_primary M t
  have heffective : getEffectiveCategoryName t ∈ majorCategories.map Prod.fst := filed_mem _
  rw [sameMajors.1] at hname heffective
  obtain ⟨cat, hcat, rfl⟩ := List.mem_map.1 hname
  obtain ⟨other, hother, hothername⟩ := List.mem_map.1 heffective
  have hmajor : M.lowerCase (getEffectiveCategoryName t).toList = M.lowerCase cat.name.toList ↔
      getEffectiveCategoryName t = cat.name := by
    refine ⟨fun h ↦ ?_, fun h ↦ by rw [h]⟩
    rw [← hothername] at h ⊢
    exact lowerCase_major_inj M hother hcat h
  rw [hprimary] at hresolved
  have hsub : ((((received M t).category.detailed.filter (· ≠ "")).or
      ((received M t).customSubcategory.filter (· ≠ ""))).or (received M t).ruleSubcategory).getD
        "" = clientSubcategory M t := rfl
  unfold isInCategory ClientFiles Spells
  simp only [hprimary, hresolved, resolveMajorCategory_major M hcat, Option.filter_none, hmajor,
    hsub]
  cases isSpendingExcludedCategory M (clientCategory t) with
  | true => simp
  | false =>
    rw [if_neg (by decide)]
    split
    · rename_i hspelled
      exact iff_of_true rfl ⟨rfl, Or.inr (Or.inr hspelled)⟩
    · rename_i hspelled
      simp only [Bool.or_eq_true, Bool.and_eq_true, decide_eq_true_eq, true_and,
        or_iff_left hspelled]
      exact or_comm

/-- The second filter throws on a transaction that is not dated. -/
theorem filterDays_eq_none {start stop : List Char} {transactions : List Transaction}
    {t : Transaction} (ht : t ∈ transactions) (hdated : ¬IsDated t) :
    filterDays start stop transactions = none := by
  have hday : isoDay t.date = none := by
    rw [isoDay, Option.map_eq_none_iff, Option.eq_none_iff_forall_ne_some]
    rintro ⟨y, m, d⟩ hparse
    obtain ⟨htext, hday⟩ := parseDay_eq_some_iff.1 hparse
    exact hdated ⟨y, m, d, hday, by rw [← htext, String.ofList_toList]⟩
  induction transactions with
  | nil => exact absurd ht List.not_mem_nil
  | cons head transactions ih =>
    rw [filterDays]
    obtain rfl | ht := List.mem_cons.1 ht
    · rw [hday]
      rfl
    · rw [ih ht]
      cases isoDay head.date with
      | some day => rfl
      | none => rfl

/-- What a transaction adds to the client's amount. -/
theorem getNetSpendingAmount_filed {name : String} {t : TransactionWithAccount}
    (hfiled : ClientFiles M name t) : getNetSpendingAmount M (received M t) =
      if ClientCounts M name t then clientAmount t else 0 := by
  cases hexcluded : hasExcludedCategory M (received M t) with
  | true =>
    rw [if_neg fun h ↦ absurd (h.2.1.symm.trans hexcluded) (by decide), getNetSpendingAmount,
      isTransactionCategoryExcluded, hexcluded]
    rfl
  | false =>
    have hcounts : ClientCounts M name t ↔ ¬(IsCredit t ∧ ClientLoan M t) := by
      rw [ClientCounts, and_iff_right hfiled, and_iff_right hexcluded]
    rw [getNetSpendingAmount_received M hexcluded, if_congr hcounts rfl rfl, ite_not, ite_and,
      clientAmount]
    split
    · rfl
    · rfl

section Month

variable {M} {name : String} {rows : List TransactionWithAccount} (year : ℤ) {month : ℕ}

/-- **The client's amount** for a month. -/
theorem calculateSpent_received (hname : name ∈ majorCategories.map Prod.fst)
    (hresolved : ∀ t ∈ rows, resolveMajorCategory M (received M t).category.primary [] =
      getEffectiveCategoryName t) (hone : 1 ≤ month) (htwelve : month ≤ 12)
    (hdated : ∀ t ∈ rows, ClientFiles M name t →
      0 ≤ NaiveDate.year t.date ∧ NaiveDate.year t.date ≤ 9999) :
    calculateSpent M (rows.map (received M)) name
        (serializeDate (NaiveDate.monthStart year month)).toList
        (serializeDate (lastOfMonth year month)).toList none =
      some (sumOf clientAmount (fun t ↦ InMonth year month t ∧ ClientCounts M name t) rows) := by
  have hdated' : ∀ r ∈ (rows.map (received M)).filter (isInCategory M name none), IsDated r := by
    intro r hr
    obtain ⟨hmem, hfiled⟩ := List.mem_filter.1 hr
    obtain ⟨t, ht, rfl⟩ := List.mem_map.1 hmem
    exact (isDated_received_iff M t).2
      (hdated t ht ((isInCategory_received_iff M hname (hresolved t ht)).1 hfiled))
  have hsum : sumOf (getNetSpendingAmount M) (fun r ↦ isInCategory M name none r ∧
      isBetween (serializeDate (NaiveDate.monthStart year month)).toList
        (serializeDate (lastOfMonth year month)).toList r.date.toList) (rows.map (received M)) =
      sumOf clientAmount (fun t ↦ InMonth year month t ∧ ClientCounts M name t) rows := by
    rw [sumOf_map]
    calc sumOf (fun t ↦ getNetSpendingAmount M (received M t))
          (fun t ↦ isInCategory M name none (received M t) ∧
            isBetween (serializeDate (NaiveDate.monthStart year month)).toList
              (serializeDate (lastOfMonth year month)).toList (received M t).date.toList) rows
        = sumOf (fun t ↦ getNetSpendingAmount M (received M t))
            (fun t ↦ InMonth year month t ∧ ClientFiles M name t) rows := by
          refine sumOf_congr fun t ht ↦ ?_
          rw [isInCategory_received_iff M hname (hresolved t ht), and_comm]
          exact and_congr_left fun hfiled ↦
            isBetween_month_iff year hone htwelve (hdated t ht hfiled)
      _ = sumOf (fun t ↦ if ClientCounts M name t then clientAmount t else 0)
            (fun t ↦ InMonth year month t ∧ ClientFiles M name t) rows :=
          sumOf_congr_val fun t _ ht ↦ getNetSpendingAmount_filed M ht.2
      _ = sumOf clientAmount (fun t ↦ InMonth year month t ∧ ClientCounts M name t) rows := by
          rw [sumOf_ite]
          refine sumOf_congr fun t _ ↦ ?_
          rw [and_assoc, and_iff_right_of_imp (b := ClientCounts M name t) And.left]
  rw [calculateSpent, filterDays_eq hdated', ← hsum, ← sumOf_filter, sumOf]
  simp only [Bool.decide_eq_true]
  rfl

/-- The client throws on a date that it cannot read. -/
theorem calculateSpent_eq_none (hname : name ∈ majorCategories.map Prod.fst)
    {t : TransactionWithAccount} (ht : t ∈ rows)
    (hresolved : resolveMajorCategory M (received M t).category.primary [] =
      getEffectiveCategoryName t) (hfiled : ClientFiles M name t)
    (hdated : ¬(0 ≤ NaiveDate.year t.date ∧ NaiveDate.year t.date ≤ 9999))
    (start stop : List Char) :
    calculateSpent M (rows.map (received M)) name start stop none = none := by
  have hmem : received M t ∈ (rows.map (received M)).filter (isInCategory M name none) :=
    List.mem_filter.2 ⟨List.mem_map_of_mem ht,
      (isInCategory_received_iff M hname hresolved).2 hfiled⟩
  rw [calculateSpent, filterDays_eq_none hmem fun h ↦ hdated ((isDated_received_iff M t).1 h)]
  rfl

end Month

/-! ### The server -/

/-- The value of a category among the totals, zero where it has none. -/
def categoryValue (totals : List CategorySpending) (name : String) : Decimal :=
  ((totals.find? fun total ↦ total.name = name).map CategorySpending.value).getD 0

theorem categoryValue_map (m : List (String × Decimal)) (name : String) :
    categoryValue (m.map fun entry ↦ { name := entry.1, value := entry.2 }) name =
      (m.lookup name).getD 0 := by
  have hfind : ((m.map fun entry ↦ ({ name := entry.1, value := entry.2 } : CategorySpending)).find?
      fun total ↦ total.name = name).map CategorySpending.value = m.lookup name := by
    induction m with
    | nil => rfl
    | cons entry m ih =>
      rw [List.map_cons, List.find?_cons, AssocMap.lookup_cons_ite]
      split
      · rename_i hfound
        rw [if_pos (of_decide_eq_true hfound).symm]
        rfl
      · rename_i hother
        rw [if_neg fun h ↦ of_decide_eq_false hother h.symm, ih]
  rw [categoryValue, hfind]

theorem serverAmount_eq (t : TransactionWithAccount) : serverAmount t =
    if IsCredit t then
      if t.provider = some "teller" ∧ ¬TellerCreditCard t then -t.amount else t.amount
    else max t.amount 0 := by
  rw [serverAmount, clientAmount]
  split
  · rename_i hcard
    have hcredit : IsCredit t := Or.inr hcard.2
    rw [if_pos hcredit, if_pos hcredit, if_pos hcard.1, if_neg fun h ↦ h.2 hcard, neg_neg]
  · rename_i hcard
    rw [if_congr (and_iff_left hcard) rfl rfl]

/-- What a transaction adds to the server's total. -/
theorem getSpendingAmountWithAccount_effective {name : String} {t : TransactionWithAccount}
    (heffective : getEffectiveCategoryName t = name) : getSpendingAmountWithAccount t =
      if ServerCounts name t then serverAmount t else 0 := by
  by_cases hopen : t.pending = false ∧ Sumurai.isSpendingExcludedCategory name = false ∧
      Sumurai.isSpendingExcludedCategory t.categoryDetailed = false
  · obtain ⟨hposted, hname, hdetailed⟩ := hopen
    have hcounts : ServerCounts name t ↔ ¬(IsCredit t ∧ ServerLoan t) := by
      rw [ServerCounts, and_iff_right heffective, and_iff_right hposted, and_iff_right hname,
        and_iff_right hdetailed]
    rw [getSpendingAmountWithAccount_posted hposted (heffective ▸ hname) hdetailed,
      if_congr hcounts rfl rfl, ite_not, serverAmount_eq]
    split
    · rename_i hcredit
      rw [if_congr (and_iff_right hcredit) rfl rfl]
    · rename_i hcredit
      rw [if_neg fun h ↦ hcredit h.1]
  · rw [if_neg fun h ↦ hopen ⟨h.2.1, h.2.2.1, h.2.2.2.1⟩]
    simp only [getSpendingAmountWithAccount, heffective]
    split
    · rfl
    · rename_i hposted
      refine if_pos (or_iff_not_and_not.2 fun h ↦ hopen ?_)
      simpa using And.intro hposted h

/-- **The server's total** for a month. -/
theorem categoryValue_month (name : String) (rows : List TransactionWithAccount) (year : ℤ)
    {month : ℕ} (hone : 1 ≤ month) (htwelve : month ≤ 12) :
    categoryValue (groupTransactionsWithAccountByEffectiveCategory rows
        (some (NaiveDate.monthStart year month)) (some (lastOfMonth year month))) name =
      sumOf serverAmount (fun t ↦ InMonth year month t ∧ ServerCounts name t) rows := by
  have hmonth (t : TransactionWithAccount) : inDateRange (some (NaiveDate.monthStart year month))
      (some (lastOfMonth year month)) t ↔ InMonth year month t := by
    rw [InMonth, NaiveDate.mem_month_iff hone htwelve, inDateRange, decide_eq_true_eq, lastOfMonth]
    exact and_congr_right fun _ ↦ Int.le_sub_one_iff
  rw [categories_eq_tally, categoryValue_map, AssocMap.getD_lookup_tally]
  -- the rows that are passed over add nothing
  calc ((spendingInRange rows (some (NaiveDate.monthStart year month))
          (some (lastOfMonth year month))).filter (fun t ↦ getEffectiveCategoryName t = name)
            |>.map getSpendingAmountWithAccount).sum
      = sumOf getSpendingAmountWithAccount (fun t ↦ (InMonth year month t ∧
          getEffectiveCategoryName t = name) ∧ getSpendingAmountWithAccount t ≠ 0) rows := by
        rw [spendingInRange, List.filter_filter, sumOf]
        refine congrArg (fun l ↦ (l.map getSpendingAmountWithAccount).sum)
          (List.filter_congr fun t _ ↦ ?_)
        rw [Bool.eq_iff_iff]
        simp only [Bool.and_eq_true, decide_eq_true_eq, hmonth, isSpendingTransactionWithAccount]
        tauto
    _ = sumOf getSpendingAmountWithAccount (fun t ↦ InMonth year month t ∧
          getEffectiveCategoryName t = name) rows := by
        rw [← sumOf_ite]
        refine sumOf_congr_val fun t _ _ ↦ ?_
        split
        · rfl
        · rename_i hzero
          exact (not_not.1 hzero).symm
    _ = sumOf (fun t ↦ if ServerCounts name t then serverAmount t else 0)
          (fun t ↦ InMonth year month t ∧ getEffectiveCategoryName t = name) rows :=
        sumOf_congr_val fun t _ ht ↦ getSpendingAmountWithAccount_effective ht.2
    _ = sumOf serverAmount (fun t ↦ InMonth year month t ∧ ServerCounts name t) rows := by
        rw [sumOf_ite]
        refine sumOf_congr fun t _ ↦ ?_
        rw [and_assoc, and_iff_right_of_imp (b := ServerCounts name t) And.left]

/-! ### Both -/

/-- The two sums differ in what one side only counts, and in what they count with different
signs. -/
theorem sums_eq_iff (name : String) (year : ℤ) (month : ℕ) (rows : List TransactionWithAccount) :
    sumOf clientAmount (fun t ↦ InMonth year month t ∧ ClientCounts M name t) rows =
        sumOf serverAmount (fun t ↦ InMonth year month t ∧ ServerCounts name t) rows ↔
      sumOf clientAmount
          (fun t ↦ InMonth year month t ∧ ClientCounts M name t ∧ ¬ServerCounts name t) rows +
        2 * sumOf clientAmount (fun t ↦ InMonth year month t ∧
          ClientCounts M name t ∧ ServerCounts name t ∧ TellerCreditCard t) rows =
      sumOf serverAmount
        (fun t ↦ InMonth year month t ∧ ServerCounts name t ∧ ¬ClientCounts M name t) rows := by
  have hclient : sumOf clientAmount (fun t ↦ InMonth year month t ∧ ClientCounts M name t) rows =
      sumOf clientAmount (fun t ↦ InMonth year month t ∧
          ClientCounts M name t ∧ ServerCounts name t ∧ TellerCreditCard t) rows +
        sumOf clientAmount (fun t ↦ InMonth year month t ∧
          ClientCounts M name t ∧ ServerCounts name t ∧ ¬TellerCreditCard t) rows +
        sumOf clientAmount (fun t ↦ InMonth year month t ∧
          ClientCounts M name t ∧ ¬ServerCounts name t) rows := by
    rw [sumOf_split (ServerCounts name), sumOf_split TellerCreditCard]
    simp only [and_assoc]
  have hserver : sumOf serverAmount (fun t ↦ InMonth year month t ∧ ServerCounts name t) rows =
      sumOf serverAmount (fun t ↦ InMonth year month t ∧
          ClientCounts M name t ∧ ServerCounts name t ∧ TellerCreditCard t) rows +
        sumOf serverAmount (fun t ↦ InMonth year month t ∧
          ClientCounts M name t ∧ ServerCounts name t ∧ ¬TellerCreditCard t) rows +
        sumOf serverAmount (fun t ↦ InMonth year month t ∧
          ServerCounts name t ∧ ¬ClientCounts M name t) rows := by
    rw [sumOf_split (ClientCounts M name), sumOf_split TellerCreditCard]
    simp only [and_assoc, and_left_comm (b := ClientCounts M name _)]
  have hflipped : sumOf serverAmount (fun t ↦ InMonth year month t ∧
      ClientCounts M name t ∧ ServerCounts name t ∧ TellerCreditCard t) rows =
        -sumOf clientAmount (fun t ↦ InMonth year month t ∧
          ClientCounts M name t ∧ ServerCounts name t ∧ TellerCreditCard t) rows := by
    rw [← sumOf_neg]
    exact sumOf_congr_val fun t _ ht ↦ if_pos ht.2.2.2
  have hsame : sumOf serverAmount (fun t ↦ InMonth year month t ∧
      ClientCounts M name t ∧ ServerCounts name t ∧ ¬TellerCreditCard t) rows =
        sumOf clientAmount (fun t ↦ InMonth year month t ∧
          ClientCounts M name t ∧ ServerCounts name t ∧ ¬TellerCreditCard t) rows :=
    sumOf_congr_val fun t _ ht ↦ if_neg ht.2.2.2
  rw [hclient, hserver, hflipped, hsame]
  lia

/-- **When both sides agree about a budget.** -/
theorem calculateSpent_eq_iff (rows : List TransactionWithAccount)
    (hresolved : ∀ t ∈ rows, resolveMajorCategory M (received M t).category.primary [] =
      getEffectiveCategoryName t) {name : String} (hname : name ∈ majorCategories.map Prod.fst)
    (year : ℤ) {month : ℕ} (hone : 1 ≤ month) (htwelve : month ≤ 12) :
    calculateSpent M (rows.map (received M)) name
        (serializeDate (NaiveDate.monthStart year month)).toList
        (serializeDate (lastOfMonth year month)).toList none =
      some (categoryValue (groupTransactionsWithAccountByEffectiveCategory rows
        (some (NaiveDate.monthStart year month)) (some (lastOfMonth year month))) name) ↔
    BudgetsAgree M name year month rows := by
  rw [categoryValue_month name rows year hone htwelve, BudgetsAgree]
  by_cases hdated : ∀ t ∈ rows, ClientFiles M name t →
      0 ≤ NaiveDate.year t.date ∧ NaiveDate.year t.date ≤ 9999
  · rw [calculateSpent_received year hname hresolved hone htwelve hdated, Option.some_inj,
      sums_eq_iff, and_iff_right hdated]
  · refine iff_of_false (fun heq ↦ ?_) fun h ↦ hdated h.1
    obtain ⟨t, ht, hfiled, hyear⟩ : ∃ t ∈ rows, ClientFiles M name t ∧
        ¬(0 ≤ NaiveDate.year t.date ∧ NaiveDate.year t.date ≤ 9999) := by
      simpa only [not_forall, exists_prop] using hdated
    rw [calculateSpent_eq_none hname ht (hresolved t ht) hfiled hyear] at heq
    exact absurd heq (by simp)

/-- A purchase that is pending. -/
def pendingPurchase : TransactionWithAccount :=
  { tellerPurchase "credit" with pending := true }

/-- The client counts a pending purchase. -/
theorem pending_counted_apart :
    (resolveMajorCategory simpleCase (received simpleCase pendingPurchase).category.primary [] =
        getEffectiveCategoryName pendingPurchase ∧
      "Bills & Utilities" ∈ majorCategories.map Prod.fst) ∧
    calculateSpent simpleCase ([pendingPurchase].map (received simpleCase)) "Bills & Utilities"
        (serializeDate (NaiveDate.monthStart 2024 10)).toList
        (serializeDate (lastOfMonth 2024 10)).toList none = some 2500 ∧
      categoryValue (groupTransactionsWithAccountByEffectiveCategory [pendingPurchase]
        (some (NaiveDate.monthStart 2024 10)) (some (lastOfMonth 2024 10)))
          "Bills & Utilities" = 0 := by
  decide +kernel

/-- Both count a purchase that is posted. -/
theorem posted_counted_alike :
    calculateSpent simpleCase ([tellerPurchase "credit"].map (received simpleCase))
        "Bills & Utilities" (serializeDate (NaiveDate.monthStart 2024 10)).toList
        (serializeDate (lastOfMonth 2024 10)).toList none =
      some (categoryValue (groupTransactionsWithAccountByEffectiveCategory
        [tellerPurchase "credit"] (some (NaiveDate.monthStart 2024 10))
          (some (lastOfMonth 2024 10))) "Bills & Utilities") := by
  have hresolved : ∀ t ∈ [tellerPurchase "credit"],
      resolveMajorCategory simpleCase (received simpleCase t).category.primary [] =
        getEffectiveCategoryName t := by
    decide +kernel
  exact (calculateSpent_eq_iff simpleCase [tellerPurchase "credit"] hresolved (by decide) 2024
    (by decide) (by decide)).2 (by decide +kernel)

end Sumurai.Frontend
