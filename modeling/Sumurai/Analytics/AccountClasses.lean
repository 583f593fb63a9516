import Sumurai.Analytics.BalanceCategory
import Sumurai.Analytics.Recategorization
import Sumurai.Foundations.CaseMapping
import Sumurai.Overview.ManualAccounts

/-!
# Account classes

The type of an account is free text, and the backend reads it in four places, each with a table of
its own. The balance categories know liabilities as `credit` and `loan`; the spending analytics know
`credit` and `credit card`, and the deposit accounts `depository`, `checking` and `savings`; the
account queries know `credit` and `credit card`, by the lower case of the database; and the manual
accounts know `loan`, with the blanks around it dropped.

`classesAgree_iff` says for which texts the tables agree. They do not for the three words that the
balance categories lack, for what the two lower cases read differently, and for a `loan` with blanks
around it.
-/

namespace Sumurai

/-! ### Four tables -/

/-- A liability, by the balance categories. -/
def IsLiability (accountType : String) : Prop :=
  mapAccountToBalanceCategory accountType none ∈ [BalanceCategory.credit, .loan]

/-- `is_credit` of the spending analytics. -/
def IsSpendingCredit (accountType : String) : Prop :=
  toLowercase accountType = "credit".toList ∨ toLowercase accountType = "credit card".toList

/-- A deposit account, by the spending analytics. -/
def IsSpendingDeposit (accountType : String) : Prop :=
  toLowercase accountType ∈ ["depository".toList, "checking".toList, "savings".toList]

/-- A credit account, by the account queries. -/
def IsQueryCredit (L : Locale) (accountType : String) : Prop :=
  L.lowerString accountType = "credit".toList ∨ L.lowerString accountType = "credit card".toList

/-- A loan, by the manual accounts. -/
def IsManualLoan (accountType : String) : Prop :=
  normalizeManualAccountType accountType = some "loan"

instance : DecidablePred IsLiability := fun _ ↦ inferInstanceAs (Decidable (_ ∈ _))

instance : DecidablePred IsSpendingCredit := fun _ ↦ inferInstanceAs (Decidable (_ ∨ _))

instance : DecidablePred IsSpendingDeposit := fun _ ↦ inferInstanceAs (Decidable (_ ∈ _))

instance (L : Locale) : DecidablePred (IsQueryCredit L) :=
  fun _ ↦ inferInstanceAs (Decidable (_ ∨ _))

instance : DecidablePred IsManualLoan := fun _ ↦ inferInstanceAs (Decidable (_ = _))

/-- The four tables agree on an account type. -/
structure ClassesAgree (L : Locale) (accountType : String) : Prop where
  liability : IsLiability accountType ↔
    IsSpendingCredit accountType ∨ IsQueryCredit L accountType ∨ IsManualLoan accountType
  deposit : IsSpendingDeposit accountType →
    mapAccountToBalanceCategory accountType none = BalanceCategory.cash

/-! ### What each table is read for -/

/-- Outside of Teller, a refund counts on the credit accounts and on no others. -/
theorem amountByAccount_refund_iff {t : TransactionWithAccount}
    (hprovider : t.provider.getD "plaid" ≠ "teller") (hrefund : t.amount < 0) :
    amountByAccount t = t.amount ↔ IsSpendingCredit t.accountType := by
  have hmax : max t.amount 0 = 0 := max_eq_right hrefund.le
  unfold amountByAccount IsSpendingCredit
  rw [if_neg fun h ↦ hprovider h.1, if_neg fun h ↦ hprovider h.1]
  split
  · rename_i hcredit
    exact ⟨fun _ ↦ hcredit, fun _ ↦ rfl⟩
  · rename_i hcredit
    rw [hmax]
    exact ⟨fun h ↦ absurd h.symm hrefund.ne, fun h ↦ absurd h hcredit⟩

/-- A missing balance is made up for the credit accounts of the queries, and for no others. -/
theorem shownBalance_eq (L : Locale) (db : Store) (a : Account) :
    shownBalance L db a =
      a.balanceCurrent.or
        (if IsQueryCredit L a.accountType then postedCreditBalance db a else none) := by
  unfold shownBalance
  cases a.balanceCurrent <;> rfl

/-! ### The tables compared -/

section Tables

variable {accountType : String}

/-- A type is a liability if it is one of two words, up to case. -/
theorem isLiability_iff :
    IsLiability accountType ↔
      toLowercase accountType = "credit".toList ∨ toLowercase accountType = "loan".toList := by
  unfold IsLiability mapAccountToBalanceCategory
  dsimp only
  -- the five arms of the match, and the fallback
  split
  · rename_i h
    rw [h]
    decide
  · split
    · rename_i h
      rw [h]
      decide
    · rename_i hcredit
      split
      · rename_i h
        rw [h]
        decide
      · rename_i hloan
        refine iff_of_false ?_ (not_or_intro hcredit hloan)
        repeat' split
        all_goals decide

theorem mapAccount_eq_cash_iff :
    mapAccountToBalanceCategory accountType none = BalanceCategory.cash ↔
      toLowercase accountType = "depository".toList := by
  unfold mapAccountToBalanceCategory
  dsimp only
  split
  · rename_i h
    exact iff_of_true rfl h
  · rename_i h
    refine iff_of_false ?_ h
    repeat' split
    all_goals decide

/-! ### White space

The manual accounts drop the blanks around a type, which nobody else does. -/

theorem lowercaseChar_of_isWhitespace {c : Char} (h : isWhitespace c = true) :
    lowercaseChar c = [c] := by
  have hupper : ¬(c.val ≥ 'A'.val ∧ c.val ≤ 'Z'.val) := by
    simp only [isWhitespace, Bool.or_eq_true, Bool.and_eq_true, decide_eq_true_eq] at h
    rw [ge_iff_le, UInt32.le_iff_toNat_le, UInt32.le_iff_toNat_le]
    change ¬(65 ≤ c.toNat ∧ c.toNat ≤ 90)
    omega
  have hkelvin : c ≠ '\u212A' := by
    rintro rfl
    exact absurd h (by decide)
  have hdotted : c ≠ '\u0130' := by
    rintro rfl
    exact absurd h (by decide)
  rw [lowercaseChar, if_neg hkelvin, if_neg hdotted, Char.toLower, dif_neg hupper]

theorem dropWhile_eq_self {p : Char → Bool} {s : List Char} (h : ∀ c ∈ s, p c = false) :
    s.dropWhile p = s := by
  cases s with
  | nil => rfl
  | cons c s =>
    rw [List.dropWhile_cons_of_neg (by rw [h c List.mem_cons_self]; exact Bool.false_ne_true)]

/-- Lower case loses no white space, so where it has none there is nothing to trim. -/
theorem trim_eq_of_lower (h : ∀ c ∈ toLowercase accountType, isWhitespace c = false) :
    trim accountType = accountType.toList := by
  have hspace : ∀ c ∈ accountType.toList, isWhitespace c = false := by
    intro c hc
    by_contra hne
    rw [Bool.not_eq_false] at hne
    have hmem : c ∈ toLowercase accountType :=
      List.mem_flatMap.2 ⟨c, hc, lowercaseChar_of_isWhitespace hne ▸ List.mem_singleton_self c⟩
    rw [h c hmem] at hne
    exact absurd hne Bool.false_ne_true
  rw [trim, dropWhile_eq_self hspace,
    dropWhile_eq_self fun c hc ↦ hspace c (List.mem_reverse.1 hc), List.reverse_reverse]

/-- Text that has neither a hyphen nor an underscore comes from no other by the replacement. -/
theorem map_hyphen_eq_iff {s t : List Char} (hhyphen : '-' ∉ t) (hunderscore : '_' ∉ t) :
    s.map (fun c ↦ if c = '-' then '_' else c) = t ↔ s = t := by
  have hid : ∀ l : List Char, '-' ∉ l → l.map (fun c ↦ if c = '-' then '_' else c) = l := by
    intro l hl
    refine (List.map_congr_left fun c hc ↦ if_neg ?_).trans (List.map_id' l)
    rintro rfl
    exact hl hc
  constructor
  · intro h
    have hs : '-' ∉ s := fun hmem ↦ hunderscore (h ▸ List.mem_map.2 ⟨'-', hmem, if_pos rfl⟩)
    rw [← h, hid s hs]
  · rintro rfl
    exact hid s hhyphen

theorem isManualLoan_iff :
    IsManualLoan accountType ↔ (trim accountType).flatMap lowercaseChar = "loan".toList := by
  have hmap := map_hyphen_eq_iff (s := (trim accountType).flatMap lowercaseChar)
    (t := "loan".toList) (by decide) (by decide)
  rw [← hmap, IsManualLoan, normalizeManualAccountType]
  split
  · rw [Option.some_inj]
    exact ⟨fun h ↦ by rw [← h, String.toList_ofList], fun h ↦ by rw [h, String.ofList_toList]⟩
  · rename_i h
    refine iff_of_false nofun fun heq ↦ h ?_
    rw [heq]
    decide

/-- A loan of the manual accounts is a liability unless there were blanks to drop. -/
theorem lower_eq_loan_iff :
    toLowercase accountType = "loan".toList ↔
      IsManualLoan accountType ∧ trim accountType = accountType.toList := by
  rw [isManualLoan_iff]
  constructor
  · intro h
    have htrim : trim accountType = accountType.toList :=
      trim_eq_of_lower (by rw [h]; decide)
    exact ⟨by rw [htrim]; exact h, htrim⟩
  · rintro ⟨hloan, htrim⟩
    rw [htrim] at hloan
    exact hloan

end Tables

/-! ### Where the tables agree -/

/-- **When the account classes agree.** The four tables give an account type the same class if and
only if its lower case is none of the words that the balance categories lack, the database reads a
credit account only in what the backend reads as a liability, too, and a loan of the manual accounts
has no blanks around it. -/
theorem classesAgree_iff (L : Locale) (accountType : String) :
    ClassesAgree L accountType ↔
      toLowercase accountType ∉ ["credit card".toList, "checking".toList, "savings".toList] ∧
      (L.lowerString accountType ∈ ["credit".toList, "credit card".toList] →
        toLowercase accountType ∈ ["credit".toList, "loan".toList]) ∧
      (IsManualLoan accountType → trim accountType = accountType.toList) := by
  have hquery : L.lowerString accountType ∈ ["credit".toList, "credit card".toList] ↔
      IsQueryCredit L accountType := List.mem_pair
  have hliability : toLowercase accountType ∈ ["credit".toList, "loan".toList] ↔
      IsLiability accountType := List.mem_pair.trans isLiability_iff.symm
  rw [hquery, hliability]
  constructor
  · intro h
    refine ⟨fun hmem ↦ ?_, fun hcredit ↦ h.liability.2 (Or.inr (Or.inl hcredit)), fun hloan ↦ ?_⟩
    · -- each of the three words is a class of the spending analytics alone
      simp only [List.mem_cons, List.not_mem_nil, or_false] at hmem
      obtain hword | hword | hword := hmem
      · have hmem := isLiability_iff.1 (h.liability.2 (Or.inl (Or.inr hword)))
        rw [hword] at hmem
        exact absurd hmem (by decide)
      · have hcash := mapAccount_eq_cash_iff.1
          (h.deposit (by rw [IsSpendingDeposit, hword]; decide))
        rw [hword] at hcash
        exact absurd hcash (by decide)
      · have hcash := mapAccount_eq_cash_iff.1
          (h.deposit (by rw [IsSpendingDeposit, hword]; decide))
        rw [hword] at hcash
        exact absurd hcash (by decide)
    · -- a liability has no blanks to drop
      refine trim_eq_of_lower ?_
      obtain hlower | hlower := isLiability_iff.1 (h.liability.2 (Or.inr (Or.inr hloan)))
      · rw [hlower]
        decide
      · rw [hlower]
        decide
  · rintro ⟨hwords, hcredit, hloan⟩
    simp only [List.mem_cons, List.not_mem_nil, or_false, not_or] at hwords
    obtain ⟨hcard, hchecking, hsavings⟩ := hwords
    refine ⟨⟨fun h ↦ ?_, fun h ↦ ?_⟩, fun h ↦ ?_⟩
    · obtain hlower | hlower := isLiability_iff.1 h
      · exact Or.inl (Or.inl hlower)
      · exact Or.inr (Or.inr (lower_eq_loan_iff.1 hlower).1)
    · obtain (hlower | hlower) | h | h := h
      · exact isLiability_iff.2 (Or.inl hlower)
      · exact absurd hlower hcard
      · exact hcredit h
      · exact isLiability_iff.2 (Or.inr (lower_eq_loan_iff.2 ⟨h, hloan h⟩))
    · simp only [IsSpendingDeposit, List.mem_cons, List.not_mem_nil, or_false] at h
      obtain hlower | hlower | hlower := h
      · exact mapAccount_eq_cash_iff.2 hlower
      · exact absurd hlower hchecking
      · exact absurd hlower hsavings

/-- **A credit card that is an asset.** A `credit card` is an investment to the balance categories
and a credit account to the spending analytics. -/
theorem creditCard_is_asset :
    mapAccountToBalanceCategory "credit card" none = BalanceCategory.investments ∧
      IsSpendingCredit "credit card" ∧ ¬ClassesAgree Locale.c "credit card" := by
  have hasset : mapAccountToBalanceCategory "credit card" none = BalanceCategory.investments := by
    decide
  have hcredit : IsSpendingCredit "credit card" := by decide
  refine ⟨hasset, hcredit, fun h ↦ ?_⟩
  have hliability := h.liability.2 (Or.inl hcredit)
  rw [IsLiability, hasset] at hliability
  exact absurd hliability (by decide)

end Sumurai
