import Mathlib.Data.List.Sort
import Mathlib.Tactic.Common
import Sumurai.Foundations.Globs
import Sumurai.Models.Dates

/-!
# The cache keys of the overviews

The two overview endpoints cache their responses under keys that are put together from the id of the
session, the dates of the request, and a hash of the account filter. The operations that change the
accounts remove the keys that match a pattern, each its own patterns. A key and a pattern are the
characters that the source formats.

`OverviewRead.key_matches_balancesOverviewPattern` and the lemmas after it say which keys each
pattern matches. Most patterns are told apart by the first letters after the id of the session; the
one with a star there by the letter `l`, which no net-worth key has.

The hash is that of the standard library, which does not promise an algorithm. It is a parameter.
-/

namespace Sumurai

/-- A key of the cache. -/
abbrev OverviewKey := List Char

/-! ### Formatted values -/

/-- `{:x}`. -/
def lowerHex (n : ℕ) : List Char :=
  Nat.toDigits 16 n

/-- `{:02}`, and its like: at least `width` characters. -/
def zeroPadded (width : ℕ) (digits : List Char) : List Char :=
  List.replicate (width - digits.length) '0' ++ digits

/-- `Display` of `Uuid`, hyphenated. -/
def uuidText (id : Uuid) : List Char :=
  let digits := zeroPadded 32 (lowerHex id)
  digits.take 8 ++ '-' :: (digits.drop 8).take 4 ++ '-' :: (digits.drop 12).take 4 ++
    '-' :: (digits.drop 16).take 4 ++ '-' :: digits.drop 20

/-- The year of a date: four digits, with a sign outside of the years `0` to `9999`. -/
def yearText (y : ℤ) : List Char :=
  let digits := zeroPadded 4 (Nat.toDigits 10 y.natAbs)
  if 0 ≤ y ∧ y ≤ 9999 then digits
  else if 0 ≤ y then '+' :: digits
  else '-' :: digits

/-- `Display` of `NaiveDate`. -/
def dateText (d : NaiveDate) : List Char :=
  yearText (NaiveDate.year d) ++ '-' :: zeroPadded 2 (Nat.toDigits 10 (NaiveDate.month d)) ++
    '-' :: zeroPadded 2 (Nat.toDigits 10 (NaiveDate.day d))

/-! ### Keys -/

/-- What a read of an overview asks for. The account filter has been validated. -/
inductive OverviewRead where
  | balancesOverview (accountIds : Option (List Uuid))
  | netWorthOverTime (startDate endDate : NaiveDate) (accountIds : Option (List Uuid))
deriving DecidableEq, Repr

/-- The account filter. -/
def OverviewRead.accountIds : OverviewRead → Option (List Uuid)
  | balancesOverview accountIds | netWorthOverTime _ _ accountIds => accountIds

/-- The read is of the balances. -/
def OverviewRead.isBalances : OverviewRead → Bool
  | balancesOverview _ => true
  | netWorthOverTime _ _ _ => false

/-- `generate_cache_key_with_account_filter`. The ids of the filter are a set. -/
def generateCacheKeyWithAccountFilter (hash : List Uuid → UInt64) (baseKey : OverviewKey)
    (accountIds : Option (List Uuid)) : OverviewKey :=
  match accountIds with
  | some accountIds =>
    let sortedIds := accountIds.dedup.insertionSort (· ≤ ·)
    baseKey ++ '_' :: lowerHex (hash sortedIds).toNat
  | none => baseKey

/-- The key without the account filter, after the id of the session. -/
def OverviewRead.baseKey : OverviewRead → OverviewKey
  | balancesOverview _ => "_balances_overview".toList
  | netWorthOverTime startDate endDate _ =>
    "_net_worth_over_time_v2_".toList ++ dateText startDate ++ '_' :: dateText endDate

/-- The key of a read. -/
def OverviewRead.key (hash : List Uuid → UInt64) (jwtId : Uuid) (r : OverviewRead) : OverviewKey :=
  generateCacheKeyWithAccountFilter hash (uuidText jwtId ++ r.baseKey) r.accountIds

/-! ### Patterns -/

section Patterns

variable (jwtId : Uuid)

/-- `{}*_balances_overview*`. -/
def balancesOverviewPattern : List Char :=
  uuidText jwtId ++ '*' :: ("_balances_overview".toList ++ ['*'])

/-- `{}_net_worth_over_time_*`. -/
def netWorthPattern : List Char :=
  uuidText jwtId ++ "_net_worth_over_time_".toList ++ ['*']

/-- `{}_balances_overview`. -/
def balancesOverviewKey : List Char :=
  uuidText jwtId ++ "_balances_overview".toList

/-- `{}_bank_accounts_*`. -/
def bankAccountsPattern : List Char :=
  uuidText jwtId ++ "_bank_accounts_".toList ++ ['*']

/-- `jwt_scoped_bank_connection_key`. -/
def bankConnectionKey (connectionId : Uuid) : List Char :=
  uuidText jwtId ++ "_bank_connection_".toList ++ uuidText connectionId

/-- `jwt_scoped_bank_accounts_key`. -/
def bankAccountsKey (connectionId : Uuid) : List Char :=
  uuidText jwtId ++ "_bank_accounts_".toList ++ uuidText connectionId

end Patterns

/-! ### The characters of formatted values -/

/-- The characters that numbers, ids and dates are written with. -/
def isPlain (c : Char) : Bool :=
  c ∈ "0123456789abcdef+-".toList

theorem isPlain_digitChar : ∀ d < 16, isPlain (Nat.digitChar d) = true := by
  decide

theorem isPlain_toDigits {b : ℕ} (hone : 1 < b) (hb : b ≤ 16) (n : ℕ) :
    ∀ c ∈ Nat.toDigits b n, isPlain c = true := by
  induction n using Nat.strongRecOn with
  | ind n ih =>
    intro c hc
    rw [Nat.toDigits_eq_if hone] at hc
    split at hc
    · obtain rfl := List.mem_singleton.1 hc
      exact isPlain_digitChar n (by omega)
    · rcases List.mem_append.1 hc with hc | hc
      · exact ih (n / b) (Nat.div_lt_self (by omega) hone) c hc
      · obtain rfl := List.mem_singleton.1 hc
        exact isPlain_digitChar _ ((Nat.mod_lt n (by omega)).trans_le hb)

theorem isPlain_zeroPadded {width : ℕ} {digits : List Char}
    (h : ∀ c ∈ digits, isPlain c = true) : ∀ c ∈ zeroPadded width digits, isPlain c = true := by
  intro c hc
  rcases List.mem_append.1 hc with hc | hc
  · rw [List.eq_of_mem_replicate hc]
    decide
  · exact h c hc

theorem isPlain_append {digits later : List Char} (h : ∀ c ∈ digits, isPlain c = true)
    (hlater : ∀ c ∈ later, isPlain c = true) : ∀ c ∈ digits ++ later, isPlain c = true :=
  List.forall_mem_append.2 ⟨h, hlater⟩

theorem isPlain_cons {c : Char} {digits : List Char} (hc : isPlain c = true)
    (h : ∀ c ∈ digits, isPlain c = true) : ∀ c' ∈ c :: digits, isPlain c' = true :=
  List.forall_mem_cons.2 ⟨hc, h⟩

theorem isPlain_lowerHex (n : ℕ) : ∀ c ∈ lowerHex n, isPlain c = true :=
  isPlain_toDigits (by decide) (by decide) n

theorem isPlain_uuidText (id : Uuid) : ∀ c ∈ uuidText id, isPlain c = true := by
  have hdigits : ∀ c ∈ zeroPadded 32 (lowerHex id), isPlain c = true :=
    isPlain_zeroPadded (isPlain_lowerHex id)
  have hdrop : ∀ n, ∀ c ∈ (zeroPadded 32 (lowerHex id)).drop n, isPlain c = true :=
    fun n c hc ↦ hdigits c (List.mem_of_mem_drop hc)
  have hgroup : ∀ n, ∀ c ∈ '-' :: ((zeroPadded 32 (lowerHex id)).drop n).take 4, isPlain c = true :=
    fun n ↦ isPlain_cons (by decide) fun c hc ↦ hdrop n c (List.mem_of_mem_take hc)
  refine isPlain_append (isPlain_append (isPlain_append (isPlain_append ?_ (hgroup 8)) (hgroup 12))
    (hgroup 16)) (isPlain_cons (by decide) (hdrop 20))
  exact fun c hc ↦ hdigits c (List.mem_of_mem_take hc)

theorem isPlain_yearText (y : ℤ) : ∀ c ∈ yearText y, isPlain c = true := by
  have hdigits : ∀ c ∈ zeroPadded 4 (Nat.toDigits 10 y.natAbs), isPlain c = true :=
    isPlain_zeroPadded (isPlain_toDigits (by decide) (by decide) _)
  rw [yearText]
  split
  · exact hdigits
  · split
    · exact isPlain_cons (by decide) hdigits
    · exact isPlain_cons (by decide) hdigits

theorem isPlain_dateText (d : NaiveDate) : ∀ c ∈ dateText d, isPlain c = true := by
  have htwo : ∀ n, ∀ c ∈ '-' :: zeroPadded 2 (Nat.toDigits 10 n), isPlain c = true :=
    fun n ↦ isPlain_cons (by decide)
      (isPlain_zeroPadded (isPlain_toDigits (by decide) (by decide) n))
  exact isPlain_append (isPlain_append (isPlain_yearText _) (htwo _)) (htwo _)

/-- What is not plain does not occur in a formatted value. -/
theorem notMem_of_isPlain {digits : List Char} {c : Char} (h : ∀ c ∈ digits, isPlain c = true)
    (hc : isPlain c = false) : c ∉ digits :=
  fun hmem ↦ Bool.false_ne_true (hc.symm.trans (h c hmem))

theorem star_notMem_uuidText (id : Uuid) : '*' ∉ uuidText id :=
  notMem_of_isPlain (isPlain_uuidText id) (by decide)

/-! ### What the patterns match -/

namespace OverviewRead

variable {hash : List Uuid → UInt64} {jwtId : Uuid} {r : OverviewRead}

/-- What the account filter adds to a key. -/
def filterText (hash : List Uuid → UInt64) (r : OverviewRead) : List Char :=
  generateCacheKeyWithAccountFilter hash [] r.accountIds

/-- A key is the id of the session, the text of the read, and that of its filter. -/
theorem key_eq : r.key hash jwtId = uuidText jwtId ++ (r.baseKey ++ r.filterText hash) := by
  rw [key, filterText]
  cases r.accountIds with
  | none => exact (congrArg _ (List.append_nil _)).symm
  | some accountIds => exact List.append_assoc _ _ _

theorem notMem_filterText (r : OverviewRead) : 'l' ∉ r.filterText hash := by
  rw [filterText]
  cases r.accountIds with
  | none => exact List.not_mem_nil
  | some accountIds =>
    show 'l' ∉ '_' :: lowerHex _
    exact List.not_mem_cons_of_ne_of_not_mem (by decide)
      (notMem_of_isPlain (isPlain_lowerHex _) (by decide))

/-- No net-worth key has the letter `l` after the id of the session. -/
theorem notMem_netWorth (startDate endDate : NaiveDate) (accountIds : Option (List Uuid)) :
    'l' ∉ (netWorthOverTime startDate endDate accountIds).baseKey ++
      (netWorthOverTime startDate endDate accountIds).filterText hash := by
  have hdate : ∀ d, 'l' ∉ dateText d := fun d ↦ notMem_of_isPlain (isPlain_dateText d) (by decide)
  have hbase : 'l' ∉ (netWorthOverTime startDate endDate accountIds).baseKey := by
    show 'l' ∉ "_net_worth_over_time_v2_".toList ++ dateText startDate ++ '_' :: dateText endDate
    simp only [List.mem_append, List.mem_cons, not_or]
    exact ⟨⟨by decide, hdate _⟩, by decide, hdate _⟩
  rw [List.mem_append]
  exact not_or.2 ⟨hbase, notMem_filterText _⟩

/-- `{}*_balances_overview*` matches the keys of the balances overview. -/
theorem key_matches_balancesOverviewPattern :
    Glob.isMatch (balancesOverviewPattern jwtId) (r.key hash jwtId) = true ↔
    r.isBalances = true := by
  rw [balancesOverviewPattern, Glob.isMatch_within (star_notMem_uuidText jwtId) (by decide), key_eq]
  constructor
  · rintro ⟨t, heq, hoccurs⟩
    obtain rfl := List.append_cancel_left heq
    cases r with
    | balancesOverview accountIds => rfl
    | netWorthOverTime startDate endDate accountIds =>
      exact absurd (hoccurs.subset (by decide)) (notMem_netWorth startDate endDate accountIds)
  · intro hbalances
    refine ⟨_, rfl, ?_⟩
    cases r with
    | balancesOverview accountIds => exact (List.prefix_append _ _).isInfix
    | netWorthOverTime startDate endDate accountIds => cases hbalances

/-- A key begins, after the id of the session, with the text of its kind. -/
theorem prefix_key {text : List Char} :
    uuidText jwtId ++ text <+: r.key hash jwtId ↔ text <+: r.baseKey ++ r.filterText hash := by
  rw [key_eq, List.prefix_append_right_inj]

/-- `{}_net_worth_over_time_*` matches the keys of the net worth. -/
theorem key_matches_netWorthPattern :
    Glob.isMatch (netWorthPattern jwtId) (r.key hash jwtId) = true ↔ r.isBalances = false := by
  have hliteral : '*' ∉ uuidText jwtId ++ "_net_worth_over_time_".toList := by
    rw [List.mem_append]
    exact not_or.2 ⟨star_notMem_uuidText jwtId, by decide⟩
  rw [netWorthPattern, Glob.isMatch_beginning hliteral, prefix_key]
  cases r with
  | balancesOverview accountIds =>
    refine iff_of_false ?_ (by simp [isBalances])
    rintro ⟨t, heq⟩
    have hsecond : some 'n' = some 'b' := congrArg (fun key : OverviewKey ↦ key[1]?) heq
    exact absurd hsecond (by decide)
  | netWorthOverTime startDate endDate accountIds =>
    refine iff_of_true ?_ rfl
    exact ⟨_, rfl⟩

/-- `{}_balances_overview`, without a star, matches the one key that has no filter. -/
theorem key_matches_balancesOverviewKey :
    Glob.isMatch (balancesOverviewKey jwtId) (r.key hash jwtId) = true ↔
      r = .balancesOverview none := by
  have hliteral : '*' ∉ uuidText jwtId ++ "_balances_overview".toList := by
    rw [List.mem_append]
    exact not_or.2 ⟨star_notMem_uuidText jwtId, by decide⟩
  rw [balancesOverviewKey, Glob.isMatch_literal hliteral, key_eq, List.append_cancel_left_eq]
  cases r with
  | balancesOverview accountIds =>
    cases accountIds with
    | none => exact iff_of_true (List.append_nil _) rfl
    | some accountIds =>
      refine iff_of_false (fun heq ↦ ?_) (by simp)
      have hnil : filterText hash (.balancesOverview (some accountIds)) = [] :=
        List.append_right_eq_self.1 heq
      exact List.cons_ne_nil _ _ hnil
  | netWorthOverTime startDate endDate accountIds =>
    refine iff_of_false (fun heq ↦ ?_) (by simp)
    have hsecond : some 'n' = some 'b' := congrArg (fun key : OverviewKey ↦ key[1]?) heq
    exact absurd hsecond (by decide)

/-- No key begins like those of the connections and their accounts. -/
theorem not_bank_prefix_key : ¬ uuidText jwtId ++ "_bank_".toList <+: r.key hash jwtId := by
  rw [prefix_key]
  rintro ⟨t, heq⟩
  cases r with
  | balancesOverview accountIds =>
    have hfourth : some 'n' = some 'l' := congrArg (fun key : OverviewKey ↦ key[3]?) heq
    exact absurd hfourth (by decide)
  | netWorthOverTime startDate endDate accountIds =>
    have hsecond : some 'b' = some 'n' := congrArg (fun key : OverviewKey ↦ key[1]?) heq
    exact absurd hsecond (by decide)

theorem key_matches_bankAccountsPattern :
    Glob.isMatch (bankAccountsPattern jwtId) (r.key hash jwtId) = false := by
  have hliteral : '*' ∉ uuidText jwtId ++ "_bank_accounts_".toList := by
    rw [List.mem_append]
    exact not_or.2 ⟨star_notMem_uuidText jwtId, by decide⟩
  refine Bool.eq_false_iff.2 fun hmatch ↦ ?_
  have hbegins := (Glob.isMatch_beginning hliteral).1 hmatch
  have htext : uuidText jwtId ++ "_bank_".toList <+: uuidText jwtId ++ "_bank_accounts_".toList :=
    (List.prefix_append_right_inj _).2 (by decide)
  exact not_bank_prefix_key (htext.trans hbegins)

/-- The key of a connection or of its accounts matches itself. -/
theorem key_matches_bankKey {text : List Char} {connectionId : Uuid}
    (htext : "_bank_".toList <+: text) (hstar : '*' ∉ text) :
    Glob.isMatch (uuidText jwtId ++ text ++ uuidText connectionId) (r.key hash jwtId) = false := by
  have hliteral : '*' ∉ uuidText jwtId ++ text ++ uuidText connectionId := by
    simp only [List.mem_append, not_or]
    exact ⟨⟨star_notMem_uuidText jwtId, hstar⟩, star_notMem_uuidText connectionId⟩
  refine Bool.eq_false_iff.2 fun hmatch ↦ ?_
  have hbegins : uuidText jwtId ++ "_bank_".toList <+: r.key hash jwtId := by
    rw [(Glob.isMatch_literal hliteral).1 hmatch, List.append_assoc, List.prefix_append_right_inj]
    exact htext.trans (List.prefix_append _ _)
  exact not_bank_prefix_key hbegins

end OverviewRead

end Sumurai
