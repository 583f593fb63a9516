import Sumurai.Frontend.RuleAlphabets

/-!
# What a category rule says

A pattern says of a text that it can be split: a star covers any piece, a question mark a piece of
one character, and any other character itself (`IsSplitBy`). `matches_glob` decides this by trying,
at each star, the empty piece before longer ones.

`categoryRules_correct` is what `apply_category_rules` does in these terms: a transaction that the
user has given no category gets that of the first rule that matches its merchant.
-/

namespace Sumurai.CategoryRules

open Wildcard Frontend

/-! ### The matcher -/

/-- What a character of a pattern covers. -/
def Covers : Char → List Char → Prop
  | '*', _ => True
  | '?', piece => piece.length = 1
  | c, piece => piece = [c]

/-- The text can be split into a piece for each character of the pattern. -/
def IsSplitBy (pattern text : List Char) : Prop :=
  ∃ pieces : List (List Char), pieces.flatten = text ∧ List.Forall₂ Covers pattern pieces

theorem covers_iff (c : Char) (piece : List Char) : Covers c piece ↔
    (globItem Char.toNat c).Takes (fun a d ↦ a = d) (fun _ ↦ True) piece := by
  unfold Covers
  split
  · exact iff_of_true trivial fun _ _ ↦ trivial
  · rw [List.length_eq_one_iff]
    exact exists_congr fun d ↦ (and_iff_left trivial).symm
  · rename_i hstar hany
    rw [globItem_char hstar hany]
    constructor
    · rintro rfl
      exact ⟨c, rfl, rfl⟩
    · rintro ⟨d, rfl, rfl⟩
      rfl

/-- `matches_glob` finds a split whenever there is one. -/
theorem matchesGlob_iff_isSplitBy (pattern text : List Char) :
    matchesGlob pattern text = true ↔ IsSplitBy pattern text := by
  rw [matchesGlob_iff, matches_iff_exists_pieces, IsSplitBy]
  refine exists_congr fun pieces ↦ and_congr_right fun _ ↦ ?_
  rw [List.forall₂_map_left_iff]
  exact ⟨List.Forall₂.imp fun c piece ↦ (covers_iff c piece).2,
    List.Forall₂.imp fun c piece ↦ (covers_iff c piece).1⟩

/-- A pattern of `glob_match` matches a text: its lower case splits that of the text. -/
def GlobMatches (U : UnicodeCase) (pattern text : String) : Prop :=
  IsSplitBy (U.toLowercase pattern) (U.toLowercase text)

theorem globMatch_iff_globMatches (U : UnicodeCase) (pattern text : String) :
    Frontend.globMatch U pattern text = true ↔ GlobMatches U pattern text :=
  matchesGlob_iff_isSplitBy _ _

/-! ### The rules -/

/-- A transaction that a rule has been applied to. -/
def withRule (t : TransactionWithAccount) (rule : CategoryRule) : TransactionWithAccount :=
  { t with
    ruleCategory := some rule.categoryName
    ruleSubcategory := rule.subcategoryName }

/-- The inner loop of `apply_category_rules`, which a rule that matches breaks. -/
def applyFirst (glob : String → String → Bool) (t : TransactionWithAccount) (merchant : String) :
    List CategoryRule → TransactionWithAccount
  | [] => t
  | rule :: rules =>
    if glob rule.pattern merchant then withRule t rule else applyFirst glob t merchant rules

/-- What `apply_category_rules` does with one transaction. -/
def applyRules (glob : String → String → Bool) (rules : List CategoryRule)
    (t : TransactionWithAccount) : TransactionWithAccount :=
  if t.customCategory.isNone then applyFirst glob t (t.merchantName.getD "<null>") rules else t

/-- `apply_category_rules`, with the lower case of all of Unicode. -/
def applyCategoryRules (U : UnicodeCase) (transactions : List TransactionWithAccount)
    (rules : List CategoryRule) : List TransactionWithAccount :=
  transactions.map (applyRules (Frontend.globMatch U) rules)

section Rules

variable {glob : String → String → Bool} {t : TransactionWithAccount} {merchant : String}
  {rule : CategoryRule} {rules before after : List CategoryRule}

theorem applyFirst_eq_find? (rules : List CategoryRule) : applyFirst glob t merchant rules =
    ((rules.find? fun rule ↦ glob rule.pattern merchant).map (withRule t)).getD t := by
  induction rules with
  | nil => rfl
  | cons rule rules ih =>
    rw [applyFirst, List.find?_cons]
    by_cases h : glob rule.pattern merchant = true
    · rw [if_pos h, h]
      rfl
    · rw [if_neg h, ih, Bool.not_eq_true _ |>.mp h]

/-- The analytics endpoints apply the rules by the same loop. -/
theorem applyCategoryRules_eq (rules : List CategoryRule) :
    Sumurai.applyCategoryRules rules = applyRules Sumurai.globMatch rules := by
  funext t
  unfold Sumurai.applyCategoryRules applyRules
  split
  · rw [applyFirst_eq_find?]
    split <;> rename_i hfind <;> rw [hfind] <;> rfl
  · rfl

/-- The first rule that matches is applied. -/
theorem applyFirst_append (hbefore : ∀ r ∈ before, glob r.pattern merchant = false)
    (hrule : glob rule.pattern merchant = true) :
    applyFirst glob t merchant (before ++ rule :: after) = withRule t rule := by
  have hfind : (before ++ rule :: after).find? (fun r ↦ glob r.pattern merchant) = some rule :=
    List.find?_eq_some_iff_append.2
      ⟨hrule, before, after, rfl, fun r hr ↦ by rw [hbefore r hr]; rfl⟩
  rw [applyFirst_eq_find?, hfind]
  rfl

theorem applyFirst_of_unmatched (h : ∀ r ∈ rules, glob r.pattern merchant = false) :
    applyFirst glob t merchant rules = t := by
  have hfind : rules.find? (fun r ↦ glob r.pattern merchant) = none :=
    List.find?_eq_none.2 fun r hr ↦ by rw [h r hr]; decide
  rw [applyFirst_eq_find?, hfind]
  rfl

end Rules

/-- What the rules make of a transaction, for a meaning of patterns. -/
structure IsRuled (M : String → String → Prop) (rules : List CategoryRule)
    (t t' : TransactionWithAccount) : Prop where
  overridden : t.customCategory ≠ none → t' = t
  first : t.customCategory = none → ∀ before rule after, rules = before ++ rule :: after →
    (∀ r ∈ before, ¬M r.pattern (t.merchantName.getD "<null>")) →
    M rule.pattern (t.merchantName.getD "<null>") →
    t' = { t with ruleCategory := some rule.categoryName, ruleSubcategory := rule.subcategoryName }
  unmatched : t.customCategory = none →
    (∀ r ∈ rules, ¬M r.pattern (t.merchantName.getD "<null>")) → t' = t

theorem isRuled_applyRules {glob : String → String → Bool} {M : String → String → Prop}
    (hglob : ∀ pattern text, glob pattern text = true ↔ M pattern text)
    (rules : List CategoryRule) (t : TransactionWithAccount) :
    IsRuled M rules t (applyRules glob rules t) := by
  have hfalse : ∀ {pattern text}, ¬M pattern text → glob pattern text = false := fun h ↦
    Bool.eq_false_iff.2 fun heq ↦ h ((hglob _ _).1 heq)
  constructor
  · intro hcustom
    exact if_neg fun hnone ↦ hcustom (Option.isNone_iff_eq_none.1 hnone)
  · rintro hcustom before rule after rfl hbefore hrule
    rw [applyRules, if_pos (Option.isNone_iff_eq_none.2 hcustom)]
    exact applyFirst_append (fun r hr ↦ hfalse (hbefore r hr)) ((hglob _ _).2 hrule)
  · intro hcustom hrules
    rw [applyRules, if_pos (Option.isNone_iff_eq_none.2 hcustom)]
    exact applyFirst_of_unmatched fun r hr ↦ hfalse (hrules r hr)

/-- **The rules mean what their patterns say.** `glob_match` is true exactly of the texts whose
lower case the lower case of the pattern splits, and of every list `apply_category_rules` gives each
transaction without an override the category of the first rule that matches, and leaves the others
as they are. -/
theorem categoryRules_correct (U : UnicodeCase) :
    (∀ pattern text : String,
      Frontend.globMatch U pattern text = true ↔ GlobMatches U pattern text) ∧
      ∀ (transactions : List TransactionWithAccount) (rules : List CategoryRule),
        List.Forall₂ (IsRuled (GlobMatches U) rules) transactions
          (applyCategoryRules U transactions rules) := by
  refine ⟨globMatch_iff_globMatches U, fun transactions rules ↦ ?_⟩
  rw [applyCategoryRules, List.forall₂_map_right_iff, List.forall₂_same]
  exact fun t _ ↦ isRuled_applyRules (globMatch_iff_globMatches U) rules t

end Sumurai.CategoryRules
