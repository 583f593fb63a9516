import Mathlib.Data.List.Lex
import Mathlib.Data.List.ReduceOption
import Sumurai.Foundations.AssocMap
import Sumurai.Foundations.Loops
import Sumurai.Foundations.OrderBy
import Sumurai.Frontend.DateKeys

/-!
# Upcoming charges

`predictUpcomingCharges` groups the charges by merchant and account, takes the median of the days
between the charges of a group for its cadence, and goes on from the latest charge by the cadence
until it is after today. The loop compares keys, so it is run for as long as its fuel lasts.

Amounts are exact, and `Number(amount)` is none where it is not finite. Keys are compared by
`localeCompare`, which orders keys of one length as text; the predictions are sorted by a comparator
that has `NaN` for dates that are invalid, which come last here.

## Main result

`predictUpcomingCharges_wellFormed`: for charges, a today and a horizon of the years that have keys
the calculation ends, with predictions in order that are what they say.
-/

namespace Sumurai.Frontend.DashboardCalculator

open AssocMap Loops NaiveDate OrderBy

/-! ### Charges -/

/-- `ChargeTransaction`. -/
structure ChargeTransaction where
  accountId : Option String
  accountType : Option String
  amount : Option ℚ
  date : String
  merchant : Option String
  name : Option String
  provider : Option String
deriving DecidableEq

/-- `UpcomingChargePrediction['cadence']`. -/
inductive Cadence
  | weekly
  | biweekly
  | monthly
  | quarterly
  | yearly
deriving DecidableEq, Repr

/-- `UpcomingChargePrediction['confidence']`. -/
inductive Confidence
  | high
  | medium
deriving DecidableEq, Repr

/-- `UpcomingChargePrediction`. The days are `NaN` where there are none. -/
structure UpcomingChargePrediction where
  merchant : List Char
  amount : ℚ
  nextDate : List Char
  daysUntil : Option ℤ
  cadence : Cadence
  confidence : Confidence
  occurrenceCount : ℕ
deriving DecidableEq

/-- `ChargeGroup`. -/
structure ChargeGroup where
  merchant : List Char
  transactions : List ChargeTransaction
deriving DecidableEq

/-- `CadenceMatch`. -/
structure CadenceMatch where
  cadence : Cadence
  days : ℚ
  score : ℚ
deriving DecidableEq

/-- The days of a cadence, in the table of `matchCadence`. -/
def Cadence.days : Cadence → ℕ
  | weekly => 7
  | biweekly => 14
  | monthly => 30
  | quarterly => 91
  | yearly => 365

/-! ### Groups -/

/-- `.replace(/\s+/g, ' ')`. -/
def collapseSpaces : List Char → List Char
  | [] => []
  | c :: s =>
    if isSpace c then
      if (collapseSpaces s).head? = some ' ' then collapseSpaces s else ' ' :: collapseSpaces s
    else c :: collapseSpaces s

/-- `.replace(/\s+\d{2,}.*$/, '')`, on a text of one line. -/
def cutNumber : List Char → List Char
  | [] => []
  | c :: s =>
    if isSpace c ∧ 2 ≤ ((s.dropWhile isSpace).takeWhile Char.isDigit).length then []
    else c :: cutNumber s

/-- `normalizeMerchant`. -/
def normalizeMerchant (value : List Char) : List Char :=
  trim (cutNumber (collapseSpaces value))

section Groups

variable (M : CaseMapping)

/-- `getDisplayAmount`. -/
def getDisplayAmount (transaction : ChargeTransaction) : ℚ :=
  match transaction.amount with
  | none => 0
  | some amount =>
    let accountType := M.lowerCase (transaction.accountType.getD "").toList
    let isCreditAccount : Bool :=
      accountType = "credit".toList ∨ accountType = "credit card".toList
    if transaction.provider = some "teller" ∧ isCreditAccount then amount else -amount

/-- The merchant of a transaction. -/
def chargeMerchant (transaction : ChargeTransaction) : List Char :=
  normalizeMerchant (((transaction.merchant.filter (· ≠ "")).or
    (transaction.name.filter (· ≠ ""))).getD "").toList

/-- The key of the group of a transaction. -/
def chargeKey (transaction : ChargeTransaction) : List Char :=
  chargeMerchant transaction ++
    ':' :: ((transaction.accountId.filter (· ≠ "")).getD "all").toList

/-- `groupChargeTransactions`. -/
def groupChargeTransactions (transactions : List ChargeTransaction) :
    List (List Char × ChargeGroup) :=
  transactions.foldl (fun groups transaction ↦
    if 0 ≤ getDisplayAmount M transaction ∨ chargeMerchant transaction = [] then groups
    else modifyOrDefault (chargeKey transaction) ⟨chargeMerchant transaction, []⟩
      (fun group ↦ { group with transactions := group.transactions ++ [transaction] }) groups) []

end Groups

/-! ### Cadences -/

/-- `median`. -/
def median (values : List ℚ) : ℚ :=
  let sorted := values.insertionSort (asc id)
  let middle := sorted.length / 2
  if sorted = [] then 0
  else if sorted.length % 2 = 1 then sorted.getD middle 0
  else (sorted.getD (middle - 1) 0 + sorted.getD middle 0) / 2

/-- `matchCadence`. -/
def matchCadence (days : ℚ) : Option CadenceMatch :=
  let cadences : List Cadence := [.weekly, .biweekly, .monthly, .quarterly, .yearly]
  let scored := cadences.map fun cadence ↦
    (⟨cadence, cadence.days, |days - cadence.days|⟩ : CadenceMatch)
  let matching := scored.filter fun cadence ↦ cadence.score ≤ max 2 (cadence.days * (12 / 100))
  (matching.insertionSort (asc CadenceMatch.score)).head?

/-- `slice(-4)`. -/
def lastFour (amounts : List ℚ) : List ℚ :=
  amounts.drop (amounts.length - 4)

/-- `amountDrift`. -/
def amountDrift (recentAmounts : List ℚ) : ℚ :=
  let averageRecentAmount := recentAmounts.sum / recentAmounts.length
  if 0 < averageRecentAmount then
    (recentAmounts.map fun amount ↦ |amount - averageRecentAmount|).foldl max 0 /
      averageRecentAmount
  else 0

section Predictions

variable (M : CaseMapping) (z : TimeZone) (parse : List Char → Option ℤ)

/-- `toDateKey` of the date of a transaction. -/
def ChargeTransaction.dateKey (transaction : ChargeTransaction) : List Char :=
  z.toDateKeyOf parse transaction.date.toList

/-- `getIntervals`. -/
def getIntervals (transactions : List ChargeTransaction) : List ℤ :=
  (transactions.zip transactions.tail).filterMap fun (previous, current) ↦
    (z.daysBetween (previous.dateKey z parse) (current.dateKey z parse)).filter (0 < ·)

/-- `sorted`. -/
def sortedCharges (group : ChargeGroup) : List ChargeTransaction :=
  (group.transactions.filter fun transaction ↦ transaction.dateKey z parse ≠ []).insertionSort
    (asc (ChargeTransaction.dateKey z parse))

/-- One step of a cadence. -/
def addCadence (cadence : CadenceMatch) (value : List Char) : List Char :=
  if cadence.cadence = .monthly then z.addMonthsClamped value 1 else z.addDays value cadence.days

/-- `nextDate`, at the end of the loop. -/
def nextChargeDate (fuel : ℕ) (cadence : CadenceMatch) (latestKey todayKey : List Char) :
    Option (List Char) :=
  whileDo (fun nextDate ↦ nextDate ≤ todayKey) (addCadence z cadence) fuel
    (addCadence z cadence latestKey)

/-- The body of the loop over the groups, unless it runs out of fuel. A group without a prediction
is skipped. -/
def predictGroup (fuel : ℕ) (todayKey horizon : List Char) (group : ChargeGroup) :
    Option (Option UpcomingChargePrediction) :=
  let sorted := sortedCharges z parse group
  let intervals := getIntervals z parse sorted
  let amounts := sorted.map fun transaction ↦ |getDisplayAmount M transaction|
  let predictedAmount := median (lastFour amounts)
  match sorted.getLast?, matchCadence (median (intervals.map Int.cast)) with
  | some latest, some cadence =>
    let stableIntervals := intervals.filter fun interval : ℤ ↦
      |(interval : ℚ) - cadence.days| ≤ max 2 (cadence.days * (18 / 100))
    if sorted.length < 2 ∨ intervals = [] ∨ stableIntervals = [] ∨ predictedAmount < 1 then
      some none
    else
      (nextChargeDate z fuel cadence (latest.dateKey z parse) todayKey).map fun nextDate ↦
        if horizon < nextDate then none
        else some {
          merchant := group.merchant
          amount := predictedAmount
          nextDate
          daysUntil := z.daysBetween todayKey nextDate
          cadence := cadence.cadence
          confidence :=
            if 3 ≤ sorted.length ∧ max 1 (intervals.length - 1) ≤ stableIntervals.length ∧
              amountDrift (lastFour amounts) ≤ 2 / 10 then .high else .medium
          occurrenceCount := sorted.length }
  | _, _ => some none

/-- `predictUpcomingCharges`, unless it runs out of fuel. -/
def predictUpcomingCharges (fuel : ℕ) (transactions : List ChargeTransaction) (today : Option ℤ)
    (horizonDays : ℚ) : Option (List UpcomingChargePrediction) := do
  let groups := groupChargeTransactions M transactions
  let todayKey := z.toDateKey today
  let horizon := z.addDays todayKey horizonDays
  let predictions ← groups.mapM fun (_, group) ↦
    predictGroup M z parse fuel todayKey horizon group
  return (predictions.reduceOption.insertionSort
    (thenBy (asc fun prediction ↦ nullable prediction.daysUntil)
      (desc UpcomingChargePrediction.amount))).take 8

end Predictions

/-! ### The steps of a cadence -/

/-- The day that a step of a cadence goes to. -/
def Cadence.next (cadence : Cadence) (day : NaiveDate) : NaiveDate :=
  if cadence = .monthly then addMonths 1 day else day + cadence.days

theorem Cadence.lt_next (cadence : Cadence) (day : NaiveDate) : day < cadence.next day := by
  rw [Cadence.next]
  split
  · refine lt_of_monthIndex_lt ?_
    rw [monthIndex_addMonths, Nat.cast_one]
    exact Int.lt_succ _
  · have hpos : 0 < cadence.days := by cases cadence <;> decide
    exact lt_add_of_pos_right day (by exact_mod_cast hpos)

theorem Cadence.le_iterate (cadence : Cadence) (k : ℕ) (day : NaiveDate) :
    day ≤ cadence.next^[k] day :=
  Function.id_le_iterate_of_id_le (fun day ↦ (cadence.lt_next day).le) k day

/-- A step stays in the years that have keys. -/
theorem Cadence.hasKey_next (cadence : Cadence) {day : NaiveDate} (h : HasKey day)
    (hyear : year day ≤ 9000) : HasKey (cadence.next day) := by
  refine ⟨h.le_year.trans (year_mono (cadence.lt_next day).le), ?_⟩
  rw [Cadence.next]
  split
  · have hmonth := monthIndex_addMonths 1 day
    have hone := one_le_month (addMonths 1 day)
    have hle := month_le day
    rw [monthIndex, monthIndex] at hmonth
    omega
  · have hdays : cadence.days ≤ 365 := by cases cadence <;> decide
    have hle := year_add_le day (n := cadence.days) zero_le_one (by exact_mod_cast hdays)
    omega

/-- A cadence that is matched has its own days. -/
theorem days_of_matchCadence {days : ℚ} {cadence : CadenceMatch}
    (h : matchCadence days = some cadence) : cadence.days = cadence.cadence.days := by
  obtain ⟨hmem, -⟩ := List.mem_filter.1 (mem_of_head?_orderBy _ h)
  obtain ⟨c, -, rfl⟩ := List.mem_map.1 hmem
  rfl

section Steps

variable {z : TimeZone} (hz : z.IsSteady) {cadence : CadenceMatch}
  (hcadence : cadence.days = cadence.cadence.days)

include hz hcadence

/-- A step goes to the key of the next day. -/
theorem addCadence_calendarText {day : NaiveDate} (hday : HasKey day)
    (hnext : HasKey (cadence.cadence.next day)) :
    addCadence z cadence (calendarText day) = calendarText (cadence.cadence.next day) := by
  rw [Cadence.next] at hnext
  rw [addCadence, Cadence.next]
  split
  · rename_i hmonthly
    rw [if_pos hmonthly] at hnext
    exact hz.addMonthsClamped_calendarText hday hnext
  · rename_i hother
    rw [if_neg hother] at hnext
    have hfloor : ⌊cadence.days⌋ = (cadence.cadence.days : ℤ) := by
      rw [hcadence, Int.floor_natCast]
    have hpos : 0 ≤ cadence.days := hcadence ▸ Nat.cast_nonneg _
    have hdays := hz.addDays_calendarText hday hpos (hfloor.symm ▸ hnext)
    rwa [hfloor] at hdays

variable {latest today : NaiveDate} (hlatest : HasKey latest) (hlatestYear : year latest ≤ 9000)
  (htoday : HasKey today) (htodayYear : year today ≤ 9000)

include hlatest hlatestYear htoday htodayYear

/-- **The loop over keys is the loop over days.** -/
theorem nextChargeDate_eq (fuel : ℕ) :
    nextChargeDate z fuel cadence (calendarText latest) (calendarText today) =
      (whileDo (· ≤ today) cadence.cadence.next fuel (cadence.cadence.next latest)).map
        calendarText := by
  have hfirst := cadence.cadence.hasKey_next hlatest hlatestYear
  rw [nextChargeDate, addCadence_calendarText hz hcadence hlatest hfirst]
  refine whileDo_map (I := HasKey) (fun day hday ↦ ?_) (fun day hday hle ↦ ?_) fuel hfirst
  · rw [← not_lt, ← not_lt]
    exact not_congr (calendarText_lt_iff htoday hday)
  · have hnext := cadence.cadence.hasKey_next hday ((year_mono hle).trans htodayYear)
    exact ⟨hnext, addCadence_calendarText hz hcadence hday hnext⟩

/-- What the loop ends with. -/
theorem exists_of_nextChargeDate {fuel : ℕ} {key : List Char}
    (h : nextChargeDate z fuel cadence (calendarText latest) (calendarText today) = some key) :
    ∃ k, key = calendarText (cadence.cadence.next^[k + 1] latest) ∧
      today < cadence.cadence.next^[k + 1] latest ∧
      HasKey (cadence.cadence.next^[k + 1] latest) := by
  rw [nextChargeDate_eq hz hcadence hlatest hlatestYear htoday htodayYear] at h
  obtain ⟨next, hnext, rfl⟩ := Option.map_eq_some_iff.1 h
  obtain ⟨k, -, rfl, hafter, hbefore⟩ := whileDo_eq_some_iff.1 hnext
  refine ⟨k, rfl, not_le.1 hafter, ?_⟩
  rw [Function.iterate_succ_apply']
  -- the day before the last step is the latest charge or not after today
  have hyear : year (cadence.cadence.next^[k] latest) ≤ 9000 := by
    cases k with
    | zero => exact hlatestYear
    | succ k =>
      have hle : cadence.cadence.next^[k + 1] latest ≤ today := hbefore k (Nat.lt_succ_self k)
      exact (year_mono hle).trans htodayYear
  refine cadence.cadence.hasKey_next ⟨?_, hyear.trans (by decide)⟩ hyear
  exact hlatest.le_year.trans (year_mono (cadence.cadence.le_iterate k latest))

/-- The loop ends. -/
theorem exists_nextChargeDate : ∃ fuel key, ∀ fuel' ≥ fuel,
    nextChargeDate z fuel' cadence (calendarText latest) (calendarText today) = some key := by
  have hmeasure : ∀ day ≤ today,
      (today + 1 - cadence.cadence.next day).toNat < (today + 1 - day).toNat := fun day hle ↦ by
    have hlt := cadence.cadence.lt_next day
    lia
  obtain ⟨next, hnext⟩ := exists_whileDo (fun day ↦ (today + 1 - day).toNat) hmeasure
    (Nat.lt_succ_self (today + 1 - cadence.cadence.next latest).toNat)
  refine ⟨(today + 1 - cadence.cadence.next latest).toNat + 1, calendarText next,
    fun fuel' hfuel ↦ ?_⟩
  rw [nextChargeDate_eq hz hcadence hlatest hlatestYear htoday htodayYear,
    whileDo_mono hfuel hnext, Option.map_some]

end Steps

/-! ### What a prediction says -/

/-- A transaction of a valid day of the years 1000 to 9000. -/
structure IsDatedOn (transaction : ChargeTransaction) (day : NaiveDate) : Prop where
  le_year : 1000 ≤ year day
  year_le : year day ≤ 9000
  starts : calendarText day <+: transaction.date.toList

/-- The day of the latest charge of a group. -/
structure IsLatest (group : ChargeGroup) (latest : NaiveDate) : Prop where
  exists_charge : ∃ transaction ∈ group.transactions, IsDatedOn transaction latest
  le_latest : ∀ transaction ∈ group.transactions, ∀ day, IsDatedOn transaction day → day ≤ latest

/-- A prediction of the charge that follows the latest one of a group, after today and at most at
the horizon. -/
structure IsUpcoming (group : ChargeGroup) (today : ℤ) (horizonDays : ℚ)
    (prediction : UpcomingChargePrediction) (latest next : ℤ) : Prop where
  merchant_eq : prediction.merchant = group.merchant
  isLatest : IsLatest group latest
  nextDate_eq : prediction.nextDate = calendarText next
  today_lt : today < next
  next_le : (next : ℚ) ≤ today + horizonDays
  daysUntil_eq : prediction.daysUntil = some (next - today)
  one_le_amount : 1 ≤ prediction.amount
  exists_steps : ∃ k, 0 < k ∧ prediction.cadence.next^[k] latest = next

theorem IsDatedOn.hasKey {transaction : ChargeTransaction} {day : NaiveDate}
    (h : IsDatedOn transaction day) : HasKey day :=
  ⟨h.le_year, h.year_le.trans (by decide)⟩

section Predictions

variable {M : CaseMapping} {z : TimeZone} {parse : List Char → Option ℤ}

/-- The key of the date of a transaction. -/
theorem IsDatedOn.dateKey {transaction : ChargeTransaction} {day : NaiveDate}
    (h : IsDatedOn transaction day) : transaction.dateKey z parse = calendarText day := by
  obtain ⟨rest, hrest⟩ := h.starts
  rw [ChargeTransaction.dateKey, TimeZone.toDateKeyOf, ← hrest, h.hasKey.matchDay_append]

/-- The latest charge of a group. -/
theorem isLatest_of_getLast? {group : ChargeGroup}
    (hdated : ∀ transaction ∈ group.transactions, ∃ day, IsDatedOn transaction day)
    {latest : ChargeTransaction} (h : (sortedCharges z parse group).getLast? = some latest) :
    ∃ day, latest.dateKey z parse = calendarText day ∧ IsDatedOn latest day ∧
      IsLatest group day := by
  have hmem := List.mem_of_getLast? h
  rw [sortedCharges, List.mem_insertionSort, List.mem_filter] at hmem
  obtain ⟨day, hday⟩ := hdated latest hmem.1
  refine ⟨day, hday.dateKey, hday, ⟨latest, hmem.1, hday⟩, fun transaction htransaction d hd ↦ ?_⟩
  have hkey : transaction.dateKey z parse ≠ [] := by
    rw [hd.dateKey, hd.hasKey.calendarText_eq]
    exact List.ne_nil_of_length_pos (by rw [length_dateText]; decide)
  have hle := rel_of_getLast?_orderBy _ h
    (List.mem_filter.2 ⟨htransaction, decide_eq_true hkey⟩)
  rw [asc, hd.dateKey, hday.dateKey, ← not_lt] at hle
  exact not_lt.1 fun hlt ↦ hle ((calendarText_lt_iff hday.hasKey hd.hasKey).2 hlt)

/-- The transactions of a group are transactions of the list. -/
theorem mem_of_mem_group (transactions : List ChargeTransaction) :
    ∀ e ∈ groupChargeTransactions M transactions, ∀ transaction ∈ e.2.transactions,
      transaction ∈ transactions := by
  refine List.foldlRecOn (motive := fun groups : List (List Char × ChargeGroup) ↦ ∀ e ∈ groups,
    ∀ transaction ∈ e.2.transactions, transaction ∈ transactions) transactions _ ?_
      fun groups ih charge hcharge ↦ ?_
  · exact fun e he ↦ absurd he List.not_mem_nil
  split
  · exact ih
  · intro e he transaction h
    obtain rfl | ⟨group, hgroup, rfl⟩ | hold := mem_modifyOrDefault he
    · rwa [List.mem_singleton.1 h]
    · obtain hold | hnew := List.mem_append.1 h
      · exact ih _ hgroup transaction hold
      · rwa [List.mem_singleton.1 hnew]
    · exact ih e hold transaction h

section Group

variable (hz : z.IsSteady) {group : ChargeGroup}
  (hdated : ∀ transaction ∈ group.transactions, ∃ day, IsDatedOn transaction day)
  {today : NaiveDate} (htoday : 1000 ≤ year today) (htodayYear : year today ≤ 9000)

include hz hdated htoday htodayYear

/-- The body of the loop over the groups ends. -/
theorem exists_predictGroup (horizon : List Char) : ∃ fuel prediction, ∀ fuel' ≥ fuel,
    predictGroup M z parse fuel' (calendarText today) horizon group = some prediction := by
  have hkey : HasKey today := ⟨htoday, htodayYear.trans (by decide)⟩
  simp only [predictGroup]
  split
  · rename_i latest cadence hlatest hcadence
    split
    · exact ⟨0, none, fun _ _ ↦ rfl⟩
    · obtain ⟨day, hdateKey, hday, -⟩ := isLatest_of_getLast? hdated hlatest
      obtain ⟨fuel, key, hend⟩ := exists_nextChargeDate hz (days_of_matchCadence hcadence)
        hday.hasKey hday.year_le hkey htodayYear
      simp only [hdateKey]
      exact ⟨fuel, _, fun fuel' hfuel ↦ congrArg (Option.map _) (hend fuel' hfuel)⟩
  · exact ⟨0, none, fun _ _ ↦ rfl⟩

/-- **The prediction of a group is what it says.** -/
theorem isUpcoming_of_predictGroup {horizonDays : ℚ} (hpos : 0 ≤ horizonDays)
    (hhorizon : horizonDays < 36525) {fuel : ℕ} {prediction : UpcomingChargePrediction}
    (h : predictGroup M z parse fuel (calendarText today)
      (z.addDays (calendarText today) horizonDays) group = some (some prediction)) :
    ∃ latest next, IsUpcoming group today horizonDays prediction latest next := by
  have hkey : HasKey today := ⟨htoday, htodayYear.trans (by decide)⟩
  have hfloor : ⌊horizonDays⌋ ≤ 365 * 101 := by
    have hlt : ⌊horizonDays⌋ < 36525 := Int.floor_lt.2 hhorizon
    omega
  have hend : HasKey (today + ⌊horizonDays⌋) := by
    have hle := year_add_le today (by decide) hfloor
    have hmono : today ≤ today + ⌊horizonDays⌋ :=
      le_add_of_nonneg_right (Int.floor_nonneg.2 hpos)
    exact ⟨htoday.trans (year_mono hmono), by omega⟩
  simp only [predictGroup, hz.addDays_calendarText hkey hpos hend] at h
  split at h
  · rename_i latest cadence hlatest hcadence
    split at h
    · exact absurd (Option.some.inj h) (by simp)
    · rename_i hkept
      obtain ⟨day, hdateKey, hday, hisLatest⟩ := isLatest_of_getLast? hdated hlatest
      obtain ⟨key, hnextDate, h⟩ := Option.map_eq_some_iff.1 h
      rw [hdateKey] at hnextDate
      obtain ⟨k, rfl, hafter, hnext⟩ := exists_of_nextChargeDate hz (days_of_matchCadence hcadence)
        hday.hasKey hday.year_le hkey htodayYear hnextDate
      split at h
      · exact absurd h (by simp)
      · rename_i hwithin
        obtain rfl := Option.some.inj h
        rw [calendarText_lt_iff hend hnext, not_lt] at hwithin
        refine ⟨day, _, rfl, hisLatest, rfl, hafter, ?_, hz.daysBetween_calendarText hkey hnext, ?_,
          k + 1, Nat.succ_pos k, rfl⟩
        · have hle : ((cadence.cadence.next^[k + 1] day : ℤ) : ℚ) ≤
              ((today + ⌊horizonDays⌋ : ℤ) : ℚ) := Int.cast_le.2 hwithin
          rw [Int.cast_add] at hle
          exact hle.trans (add_le_add_right (Int.floor_le horizonDays) _)
        · exact not_lt.1 fun hsmall ↦ hkept (Or.inr (Or.inr (Or.inr hsmall)))
  · exact absurd (Option.some.inj h) (by simp)

end Group

/-- **Upcoming charges.** For charges, a today and a horizon of the years that have keys the
calculation ends with at most eight predictions, in the order of their days, that are each what they
say. -/
theorem predictUpcomingCharges_wellFormed (hz : z.IsSteady)
    {transactions : List ChargeTransaction}
    (hdated : ∀ transaction ∈ transactions, ∃ day, IsDatedOn transaction day) {now : ℤ}
    (hnow : 1000 ≤ z.getFullYear now ∧ z.getFullYear now ≤ 9000) {horizonDays : ℚ}
    (hpos : 0 ≤ horizonDays) (hhorizon : horizonDays < 36525) :
    ∃ predictions : List UpcomingChargePrediction,
      (∃ fuel, ∀ fuel' ≥ fuel, predictUpcomingCharges M z parse fuel' transactions (some now)
        horizonDays = some predictions) ∧
      predictions.length ≤ 8 ∧
      predictions.Pairwise (asc fun prediction ↦ nullable prediction.daysUntil) ∧
      ∀ prediction ∈ predictions, ∃ e ∈ groupChargeTransactions M transactions, ∃ latest next,
        IsUpcoming e.2 (z.localDay now) horizonDays prediction latest next := by
  have hkey : HasKey (z.localDay now) := ⟨hnow.1, hnow.2.trans (by decide)⟩
  have htoday : z.toDateKey (some now) = calendarText (z.localDay now) :=
    TimeZone.toDateKey_some hkey
  have hgroup : ∀ e ∈ groupChargeTransactions M transactions,
      ∀ transaction ∈ e.2.transactions, ∃ day, IsDatedOn transaction day := fun e he t ht ↦
    hdated t (mem_of_mem_group transactions e he t ht)
  obtain ⟨fuel, results, hresults⟩ := exists_mapM fun e he ↦
    exists_predictGroup hz (hgroup e he) hnow.1 hnow.2
      (z.addDays (calendarText (z.localDay now)) horizonDays)
  refine ⟨_, ⟨fuel, fun fuel' hfuel ↦ ?_⟩, List.length_take_le 8 (results.reduceOption.insertionSort
    (thenBy (asc fun prediction ↦ nullable prediction.daysUntil)
      (desc UpcomingChargePrediction.amount))), ?_, fun prediction hprediction ↦ ?_⟩
  · simp only [predictUpcomingCharges, htoday]
    rw [hresults fuel' hfuel]
    rfl
  · exact ((List.pairwise_insertionSort _ _).imp fun h ↦ h.1).sublist (List.take_sublist 8 _)
  · have hmem := (List.mem_insertionSort _).1 (List.mem_of_mem_take hprediction)
    obtain ⟨e, he, hpredict⟩ :=
      exists_of_mem_mapM (hresults fuel le_rfl) (List.reduceOption_mem_iff.1 hmem)
    exact ⟨e, he, isUpcoming_of_predictGroup hz (hgroup e he) hnow.1 hnow.2 hpos hhorizon hpredict⟩

end Predictions

/-- A charge of ten dollars at the gym. -/
def gymCharge (date : String) : ChargeTransaction where
  accountId := none
  accountType := none
  amount := some 10
  date
  merchant := some "Gym"
  name := none
  provider := none

theorem isDatedOn_gymCharge {day : NaiveDate} {date : String} (hlow : 1000 ≤ year day)
    (hhigh : year day ≤ 9000) (hdate : date.toList = calendarText day) :
    IsDatedOn (gymCharge date) day :=
  ⟨hlow, hhigh, hdate ▸ List.prefix_rfl⟩

theorem isSteady_oneHourAhead : oneHourAhead.IsSteady where
  utc_eq t := ⟨t, rfl⟩
  offset_lt _ _ := (by decide : (3600000 : ℤ) < 3600000 + 21600000)

/-- Two weekly charges in March 2024, and the 45 days from the 13th. -/
theorem predictUpcomingCharges_wellFormed_gym :
    ∃ predictions : List UpcomingChargePrediction,
      (∃ fuel, ∀ fuel' ≥ fuel, predictUpcomingCharges simpleCase oneHourAhead (fun _ ↦ none) fuel'
        [gymCharge "2024-03-04", gymCharge "2024-03-11"] (some 1710325800000) 45 =
          some predictions) ∧
      predictions.length ≤ 8 ∧
      predictions.Pairwise (asc fun prediction ↦ nullable prediction.daysUntil) ∧
      ∀ prediction ∈ predictions, ∃ e ∈ groupChargeTransactions simpleCase
        [gymCharge "2024-03-04", gymCharge "2024-03-11"], ∃ latest next,
          IsUpcoming e.2 (oneHourAhead.localDay 1710325800000) 45 prediction latest next := by
  refine predictUpcomingCharges_wellFormed isSteady_oneHourAhead ?_ (by decide) (by norm_num)
    (by norm_num)
  rw [List.forall_mem_cons, List.forall_mem_singleton]
  exact ⟨⟨19786, isDatedOn_gymCharge (by decide) (by decide) (by decide)⟩,
    ⟨19793, isDatedOn_gymCharge (by decide) (by decide) (by decide)⟩⟩

end Sumurai.Frontend.DashboardCalculator
