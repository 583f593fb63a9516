import Sumurai.Budgets.Calls
import Sumurai.Foundations.UniqueUpdates
import Sumurai.Models.Schema

/-!
# The migrations of the categories

Migrations 032, 034, 036 and 038 rename categories: of the rows of `budgets`, whose key is the user
and the category, and of `user_categories`, whose key is the user and the name. A migration is the
list of its statements on these two tables; of the other tables that they update no renamed column
is in a key.

A statement gives all rows that it matches one new category, so two rows that it brings together
violate the constraint, and a migration that fails keeps the server from starting.
`categoryMigrations_apply_iff` says for which contents of the tables the four succeed.
-/

open UniqueUpdate

namespace Sumurai

/-! ### Patterns -/

/-- `LIKE`: `%` stands for any text and `_` for any character. -/
def like : List Char → List Char → Bool
  | [], s => s.isEmpty
  | c :: p, s =>
    if c = '%' then s.tails.any (like p)
    else
      match s with
      | [] => false
      | d :: s => (c = '_' || c = d) && like p s

/-- `s ILIKE p`. -/
def ilike (L : Locale) (p s : String) : Bool :=
  like (L.lowerString p) (L.lowerString s)

/-- `s ILIKE p₁ OR s ILIKE p₂ OR ..`. -/
def ilikeAny (L : Locale) (ps : List String) (s : String) : Bool :=
  ps.any fun p ↦ ilike L p s

example : ilike Locale.c "%rent_and_utilities%" "RENT_AND_UTILITIES" = true := by decide

example : ilike Locale.c "other%" "Another" = false := by decide

/-! ### Tables and statements -/

/-- A row of `user_categories`. -/
structure UserCategoryRow where
  id : Uuid
  userId : Uuid
  name : String
  parentCategory : Option String
  createdAt : Option Timestamp
deriving DecidableEq, Repr

/-- The two tables with categories in their keys. -/
structure CategoryTables where
  budgets : List Budget
  userCategories : List UserCategoryRow
deriving DecidableEq, Repr

/-- The columns of `budgets_user_id_category_unique`. -/
def Budget.key (b : Budget) : Uuid × String :=
  (b.userId, b.category)

/-- The columns of `user_categories_unique`. -/
def UserCategoryRow.key (c : UserCategoryRow) : Uuid × String :=
  (c.userId, c.name)

/-- The unique constraints hold. -/
structure CategoryTables.Unique (tables : CategoryTables) : Prop where
  budgets : (tables.budgets.map Budget.key).Nodup
  userCategories : (tables.userCategories.map UserCategoryRow.key).Nodup

/-- A statement of a migration, on the rows whose category it matches. -/
inductive CategoryStatement where
  /-- `UPDATE budgets SET category = target WHERE ..`. -/
  | renameBudgets (matched : String → Bool) (target : String)
  /-- `UPDATE user_categories SET name = target WHERE ..`. -/
  | renameUserCategories (matched : String → Bool) (target : String)
  /-- `UPDATE user_categories SET parent_category = target WHERE ..`. -/
  | moveUserCategories (matched : String → Bool) (target : String)
  /-- `DELETE FROM user_categories WHERE .. AND parent_category IS NULL`. -/
  | deleteTopLevel (matched : String → Bool)

/-- A budget under a new category. The trigger of the table sets `updated_at`. -/
def Budget.rename (now : Timestamp) (target : String) (b : Budget) : Budget :=
  { b with category := target, updatedAt := now }

/-- A user category under a new name. -/
def UserCategoryRow.rename (target : String) (c : UserCategoryRow) : UserCategoryRow :=
  { c with name := target }

/-- A user category in its new place. -/
def UserCategoryRow.move (matched : String → Bool) (target : String) (c : UserCategoryRow) :
    UserCategoryRow :=
  if c.parentCategory.any matched then { c with parentCategory := some target } else c

/-- A top-level category whose name is matched. -/
def UserCategoryRow.isTopLevel (matched : String → Bool) (c : UserCategoryRow) : Bool :=
  matched c.name && c.parentCategory.isNone

/-- A statement on the tables. -/
def CategoryStatement.exec (now : Timestamp) (tables : CategoryTables) :
    CategoryStatement → Except DbError CategoryTables
  | renameBudgets matched target =>
    match updateRows Budget.key (fun b ↦ matched b.category) (Budget.rename now target) []
        tables.budgets with
    | some budgets => .ok { tables with budgets := budgets }
    | none => .error .uniqueViolation
  | renameUserCategories matched target =>
    match updateRows UserCategoryRow.key (fun c ↦ matched c.name) (UserCategoryRow.rename target) []
        tables.userCategories with
    | some userCategories => .ok { tables with userCategories := userCategories }
    | none => .error .uniqueViolation
  | moveUserCategories matched target =>
    .ok { tables with
      userCategories := tables.userCategories.map (UserCategoryRow.move matched target) }
  | deleteTopLevel matched =>
    .ok { tables with
      userCategories := tables.userCategories.filter fun c ↦ !c.isTopLevel matched }

/-- The statements of a script, one after another. -/
def runStatements (now : Timestamp) (statements : List CategoryStatement)
    (tables : CategoryTables) :
    Except DbError CategoryTables :=
  statements.foldlM (CategoryStatement.exec now) tables

/-- `032_normalize_budget_categories.sql`. -/
def migration032 : List CategoryStatement := [
  .renameBudgets (· = "Mortgage") "Home Management",
  .renameBudgets (· = "EDUCATION") "Education",
  .renameBudgets (· = "Utilities") "Bills & Utilities",
  .renameBudgets (· = "Car") "Transportation"]

/-- The patterns of migration 034. -/
def rentAndUtilities : List String :=
  ["%rent_and_utilities%", "%rent & utilities%", "%rent and utilities%"]

/-- `034_remove_rent_and_utilities.sql`. -/
def migration034 (L : Locale) : List CategoryStatement := [
  .renameUserCategories (ilikeAny L rentAndUtilities) "Bills & Utilities",
  .renameBudgets (ilikeAny L rentAndUtilities) "Bills & Utilities"]

/-- The patterns of migration 036. -/
def personalCare : List String :=
  ["%personal%care%", "%personal_care%"]

/-- `036_remove_personal_care_category.sql`. -/
def migration036 (L : Locale) : List CategoryStatement := [
  .moveUserCategories (ilikeAny L personalCare) "Shopping",
  .deleteTopLevel (ilike L "%personal%care%"),
  .renameBudgets (ilikeAny L personalCare) "Shopping"]

/-- The patterns of migration 038. -/
def generalMerchandiseAndOther : List String :=
  ["%general%merchandise%", "other%", "uncategorized"]

/-- `038_remove_general_merchandise_and_other.sql`. -/
def migration038 (L : Locale) : List CategoryStatement := [
  .moveUserCategories (ilikeAny L generalMerchandiseAndOther) "Shopping",
  .deleteTopLevel (ilikeAny L generalMerchandiseAndOther),
  .renameBudgets (ilikeAny L generalMerchandiseAndOther) "Shopping"]

/-- The four migrations, each at its own time. -/
def runCategoryMigrations (L : Locale) (now : ℕ → Timestamp) (tables : CategoryTables) :
    Except DbError CategoryTables := do
  let tables ← runStatements (now 32) migration032 tables
  let tables ← runStatements (now 34) (migration034 L) tables
  let tables ← runStatements (now 36) (migration036 L) tables
  runStatements (now 38) (migration038 L) tables

/-! ### What a statement does -/

/-- A statement with the time of its migration. -/
abbrev TimedStatement := Timestamp × CategoryStatement

/-- The tables after a statement, whether or not it violates a constraint. -/
def CategoryStatement.image (now : Timestamp) (tables : CategoryTables) :
    CategoryStatement → CategoryTables
  | renameBudgets matched target => { tables with
      budgets := tables.budgets.map
        (updated (fun b ↦ matched b.category) (Budget.rename now target)) }
  | renameUserCategories matched target => { tables with
      userCategories := tables.userCategories.map
        (updated (fun c ↦ matched c.name) (UserCategoryRow.rename target)) }
  | moveUserCategories matched target => { tables with
      userCategories := tables.userCategories.map (UserCategoryRow.move matched target) }
  | deleteTopLevel matched => { tables with
      userCategories := tables.userCategories.filter fun c ↦ !c.isTopLevel matched }

/-- The statement changes no key of a user category. -/
def CategoryStatement.keepsNames : CategoryStatement → Prop
  | renameUserCategories _ _ => False
  | _ => True

/-- The tables after the statements of a script. -/
def imageOf (script : List TimedStatement) (tables : CategoryTables) : CategoryTables :=
  script.foldl (fun tables s ↦ s.2.image s.1 tables) tables

/-- The statements of a script leave the budgets unique, one after another. -/
def BudgetsStayUnique : List TimedStatement → CategoryTables → Prop
  | [], _ => True
  | s :: script, tables => ((s.2.image s.1 tables).budgets.map Budget.key).Nodup ∧
      BudgetsStayUnique script (s.2.image s.1 tables)

/-- The statements of a script leave the user categories unique, one after another. -/
def UserCategoriesStayUnique : List TimedStatement → CategoryTables → Prop
  | [], _ => True
  | s :: script, tables =>
    ((s.2.image s.1 tables).userCategories.map UserCategoryRow.key).Nodup ∧
      UserCategoriesStayUnique script (s.2.image s.1 tables)

section Statements

variable {now : Timestamp} {tables tables' : CategoryTables} {script : List TimedStatement}

/-- The keys of user categories, after a statement that keeps them, are among those before. -/
theorem userCategories_sublist {s : CategoryStatement} (h : s.keepsNames) :
    ((s.image now tables).userCategories.map UserCategoryRow.key).Sublist
      (tables.userCategories.map UserCategoryRow.key) := by
  cases s with
  | renameUserCategories matched target => exact h.elim
  | renameBudgets matched target => exact List.Sublist.refl _
  | moveUserCategories matched target =>
    have hkey : UserCategoryRow.key ∘ UserCategoryRow.move matched target =
        UserCategoryRow.key := by
      funext c
      show (UserCategoryRow.move matched target c).key = c.key
      rw [UserCategoryRow.move]
      split <;> rfl
    show ((tables.userCategories.map _).map _).Sublist _
    rw [List.map_map, hkey]
  | deleteTopLevel matched => exact List.filter_sublist.map _

/-- A budget of a user that is renamed gets the key of the user's others that are. -/
theorem Budget.key_rename {r s : Budget} {target : String}
    (h : s.key = (r.rename now target).key) :
    (s.rename now target).key = (r.rename now target).key :=
  Prod.ext (congrArg Prod.fst h : s.userId = r.userId) rfl

theorem UserCategoryRow.key_rename {r s : UserCategoryRow} {target : String}
    (h : s.key = (r.rename target).key) : (s.rename target).key = (r.rename target).key :=
  Prod.ext (congrArg Prod.fst h : s.userId = r.userId) rfl

/-- A statement that cannot fail. -/
theorem ok_eq_iff {image : CategoryTables} {P Q : Prop} (hP : P) (hQ : Q) :
    (.ok image : Except DbError CategoryTables) = .ok tables' ↔ tables' = image ∧ P ∧ Q := by
  rw [Except.ok.injEq, eq_comm]
  exact (and_iff_left ⟨hP, hQ⟩).symm

/-- **A statement succeeds exactly if its end violates no constraint.** -/
theorem exec_eq_ok_iff (h : tables.Unique) (s : CategoryStatement) :
    s.exec now tables = .ok tables' ↔ tables' = s.image now tables ∧
      ((s.image now tables).budgets.map Budget.key).Nodup ∧
        ((s.image now tables).userCategories.map UserCategoryRow.key).Nodup := by
  cases s with
  | renameBudgets matched target =>
    have hupdate : updateRows Budget.key (fun b ↦ matched b.category) (Budget.rename now target) []
        tables.budgets = _ := updateRows_eq (fun _ _ _ _ hkey ↦ Budget.key_rename hkey) h.budgets
    rw [CategoryStatement.exec]
    split at hupdate
    · rename_i hunique
      rw [hupdate]
      exact ok_eq_iff hunique h.userCategories
    · rename_i hcollision
      rw [hupdate]
      exact iff_of_false (by simp) fun hend ↦ hcollision hend.2.1
  | renameUserCategories matched target =>
    have hupdate : updateRows UserCategoryRow.key (fun c ↦ matched c.name)
        (UserCategoryRow.rename target) [] tables.userCategories = _ :=
      updateRows_eq (fun _ _ _ _ hkey ↦ UserCategoryRow.key_rename hkey) h.userCategories
    rw [CategoryStatement.exec]
    split at hupdate
    · rename_i hunique
      rw [hupdate]
      exact ok_eq_iff h.budgets hunique
    · rename_i hcollision
      rw [hupdate]
      exact iff_of_false (by simp) fun hend ↦ hcollision hend.2.2
  | moveUserCategories matched target =>
    have hsub : ((CategoryStatement.moveUserCategories matched target).image now
        tables).userCategories.map UserCategoryRow.key |>.Sublist _ :=
      userCategories_sublist trivial
    exact ok_eq_iff h.budgets (h.userCategories.sublist hsub)
  | deleteTopLevel matched =>
    have hsub : ((CategoryStatement.deleteTopLevel matched).image now
        tables).userCategories.map UserCategoryRow.key |>.Sublist _ :=
      userCategories_sublist trivial
    exact ok_eq_iff h.budgets (h.userCategories.sublist hsub)

/-- A script, statement by statement. -/
def runScript (script : List TimedStatement) (tables : CategoryTables) :
    Except DbError CategoryTables :=
  script.foldlM (fun tables s ↦ s.2.exec s.1 tables) tables

theorem runScript_eq_ok_iff (h : tables.Unique) :
    runScript script tables = .ok tables' ↔ tables' = imageOf script tables ∧
      BudgetsStayUnique script tables ∧ UserCategoriesStayUnique script tables := by
  induction script generalizing tables with
  | nil => exact ok_eq_iff trivial trivial
  | cons s script ih =>
    rw [runScript, List.foldlM_cons]
    rcases hexec : s.2.exec s.1 tables with e | next
    · refine iff_of_false nofun ?_
      rintro ⟨-, ⟨hbudgets, -⟩, huser, -⟩
      have hok := (exec_eq_ok_iff h s.2).2 ⟨rfl, hbudgets, huser⟩
      rw [hexec] at hok
      exact absurd hok nofun
    · obtain ⟨rfl, hbudgets, huser⟩ := (exec_eq_ok_iff h s.2).1 hexec
      refine (ih ⟨hbudgets, huser⟩).trans ?_
      rw [BudgetsStayUnique, UserCategoriesStayUnique, and_iff_right hbudgets, and_iff_right huser]
      rfl

/-- The category that a statement gives a budget. -/
def CategoryStatement.categoryAfter (s : CategoryStatement) (category : String) : String :=
  match s with
  | renameBudgets matched target => if matched category then target else category
  | _ => category

/-- The category that a script gives a budget. -/
def categoryAfter (script : List TimedStatement) (category : String) : String :=
  script.foldl (fun category s ↦ s.2.categoryAfter category) category

theorem budgets_image (s : CategoryStatement) :
    (s.image now tables).budgets.map Budget.key =
      tables.budgets.map fun b ↦ (b.userId, s.categoryAfter b.category) := by
  cases s with
  | renameBudgets matched target =>
    show (tables.budgets.map _).map Budget.key = _
    rw [List.map_map]
    refine List.map_congr_left fun b _ ↦ ?_
    show (updated _ _ b).key = _
    rw [updated, CategoryStatement.categoryAfter]
    split <;> rfl
  | _ => rfl

/-- The keys of the budgets after a script. -/
theorem budgets_imageOf :
    (imageOf script tables).budgets.map Budget.key =
      tables.budgets.map fun b ↦ (b.userId, categoryAfter script b.category) := by
  induction script generalizing tables with
  | nil => rfl
  | cons s script ih =>
    have hfirst : (s.2.image s.1 tables).budgets.map Budget.key =
        tables.budgets.map fun b ↦ (b.userId, s.2.categoryAfter b.category) := budgets_image s.2
    have hkeys := congrArg (List.map fun k : Uuid × String ↦ (k.1, categoryAfter script k.2)) hfirst
    rw [List.map_map, List.map_map] at hkeys
    exact ih.trans hkeys

/-- **The budgets stay unique exactly if they are in the end**, since two budgets that are brought
together stay together. -/
theorem budgetsStayUnique_iff (h : (tables.budgets.map Budget.key).Nodup) :
    BudgetsStayUnique script tables ↔ ((imageOf script tables).budgets.map Budget.key).Nodup := by
  induction script generalizing tables with
  | nil => exact iff_of_true trivial h
  | cons s script ih =>
    rw [BudgetsStayUnique]
    constructor
    · rintro ⟨hnext, hrest⟩
      exact (ih hnext).1 hrest
    · intro hend
      have hnext : ((s.2.image s.1 tables).budgets.map Budget.key).Nodup := by
        have hkeys : (imageOf script (s.2.image s.1 tables)).budgets.map Budget.key =
            ((s.2.image s.1 tables).budgets.map Budget.key).map
              fun k ↦ (k.1, categoryAfter script k.2) := by
          rw [budgets_imageOf, List.map_map]
          rfl
        rw [show imageOf (s :: script) tables = imageOf script (s.2.image s.1 tables) from rfl,
          hkeys] at hend
        exact List.Nodup.of_map _ hend
      exact ⟨hnext, (ih hnext).2 hend⟩

/-- Statements that keep the names leave the user categories unique. -/
theorem userCategoriesStayUnique_of_keepsNames (hkeeps : ∀ s ∈ script, s.2.keepsNames)
    (h : (tables.userCategories.map UserCategoryRow.key).Nodup) :
    UserCategoriesStayUnique script tables := by
  induction script generalizing tables with
  | nil => trivial
  | cons s script ih =>
    obtain ⟨hfirst, hrest⟩ := List.forall_mem_cons.1 hkeeps
    have hnext : ((s.2.image s.1 tables).userCategories.map UserCategoryRow.key).Nodup :=
      h.sublist (userCategories_sublist hfirst)
    exact ⟨hnext, ih hrest hnext⟩

/-- What a statement renames budgets to. -/
def CategoryStatement.budgetRename : CategoryStatement → Option ((String → Bool) × String)
  | renameBudgets matched target => some (matched, target)
  | _ => none

/-- A budget that no statement matches stays as it is. -/
theorem mem_budgets_imageOf {b : Budget} (hb : b ∈ tables.budgets)
    (hunmatched : ∀ m ∈ script.filterMap fun s ↦ s.2.budgetRename, m.1 b.category = false) :
    b ∈ (imageOf script tables).budgets := by
  induction script generalizing tables with
  | nil => exact hb
  | cons s script ih =>
    obtain ⟨now, statement⟩ := s
    cases statement with
    | renameBudgets matched target =>
      obtain ⟨hfirst, hrest⟩ := List.forall_mem_cons.1 hunmatched
      refine ih (List.mem_map.2 ⟨b, hb, if_neg ?_⟩) hrest
      show ¬matched b.category = true
      rw [show matched b.category = false from hfirst]
      exact Bool.false_ne_true
    | _ => exact ih hb hunmatched

end Statements

/-! ### The guarantee -/

/-- The renames of the budgets, in order. -/
def budgetRenames (L : Locale) : List ((String → Bool) × String) := [
  (fun c ↦ c = "Mortgage", "Home Management"),
  (fun c ↦ c = "EDUCATION", "Education"),
  (fun c ↦ c = "Utilities", "Bills & Utilities"),
  (fun c ↦ c = "Car", "Transportation"),
  (ilikeAny L rentAndUtilities, "Bills & Utilities"),
  (ilikeAny L personalCare, "Shopping"),
  (ilikeAny L generalMerchandiseAndOther, "Shopping")]

/-- The category of a budget after all of them. -/
def finalCategory (L : Locale) (category : String) : String :=
  (budgetRenames L).foldl (fun category m ↦ if m.1 category then m.2 else category) category

/-- The name of a user category after its rename. -/
def finalName (L : Locale) (name : String) : String :=
  if ilikeAny L rentAndUtilities name then "Bills & Utilities" else name

/-- The migrations succeed, leave each user with at most one budget for a category, and leave the
budgets alone that none of them renames. -/
def CategoryMigrationsApply (L : Locale) (now : ℕ → Timestamp) (tables : CategoryTables) : Prop :=
  ∃ tables', runCategoryMigrations L now tables = .ok tables' ∧
    (tables'.budgets.map Budget.key).Nodup ∧
      ∀ b ∈ tables.budgets, (∀ m ∈ budgetRenames L, m.1 b.category = false) → b ∈ tables'.budgets

/-- No two budgets of a user get one category, and no two user categories of a user get one name. -/
structure NoCollisions (L : Locale) (tables : CategoryTables) : Prop where
  budgets : ∀ b ∈ tables.budgets, ∀ b' ∈ tables.budgets, b.userId = b'.userId →
    finalCategory L b.category = finalCategory L b'.category → b.category = b'.category
  userCategories : ∀ c ∈ tables.userCategories, ∀ c' ∈ tables.userCategories,
    c.userId = c'.userId → finalName L c.name = finalName L c'.name → c.name = c'.name

/-- The statements of the four migrations. -/
def categoryScript (L : Locale) (now : ℕ → Timestamp) : List TimedStatement :=
  migration032.map (now 32, ·) ++ ((migration034 L).map (now 34, ·) ++
    ((migration036 L).map (now 36, ·) ++ (migration038 L).map (now 38, ·)))

section Guarantee

variable {L : Locale} {now : ℕ → Timestamp} {tables : CategoryTables}

theorem runStatements_eq (now : Timestamp) (statements : List CategoryStatement)
    (tables : CategoryTables) :
    runStatements now statements tables = runScript (statements.map (now, ·)) tables := by
  rw [runStatements, runScript, List.foldlM_map]

theorem runCategoryMigrations_eq (L : Locale) (now : ℕ → Timestamp) (tables : CategoryTables) :
    runCategoryMigrations L now tables = runScript (categoryScript L now) tables := by
  simp only [runCategoryMigrations, runStatements_eq, runScript, categoryScript, List.foldlM_append]

/-- Distinct keys stay distinct under a change of the second column exactly if no two rows of a user
are brought together. -/
theorem nodup_renamed_iff {α : Type} {rows : List α} {user : α → Uuid} {name : α → String}
    (h : (rows.map fun r ↦ (user r, name r)).Nodup) (rename : String → String) :
    (rows.map fun r ↦ (user r, rename (name r))).Nodup ↔
      ∀ r ∈ rows, ∀ r' ∈ rows, user r = user r' → rename (name r) = rename (name r') →
        name r = name r' := by
  rw [List.nodup_map_iff_inj_on h.of_map]
  refine forall₂_congr fun r hr ↦ forall₂_congr fun r' hr' ↦ ?_
  rw [Prod.mk.injEq, and_imp]
  refine forall₂_congr fun huser _ ↦ ?_
  constructor
  · rintro rfl
    rfl
  · exact fun hname ↦ List.inj_on_of_nodup_map h hr hr' (Prod.ext huser hname)

theorem categoryAfter_categoryScript (category : String) :
    categoryAfter (categoryScript L now) category = finalCategory L category :=
  rfl

/-- Of the statements on user categories the rename alone can bring two together. -/
theorem userCategoriesStayUnique_iff
    (h : (tables.userCategories.map UserCategoryRow.key).Nodup) :
    UserCategoriesStayUnique (categoryScript L now) tables ↔
      (tables.userCategories.map fun c ↦ (c.userId, finalName L c.name)).Nodup := by
  have hkeys : ((tables.userCategories.map (updated (fun c ↦ ilikeAny L rentAndUtilities c.name)
      (UserCategoryRow.rename "Bills & Utilities"))).map UserCategoryRow.key) =
        tables.userCategories.map fun c ↦ (c.userId, finalName L c.name) := by
    rw [List.map_map]
    refine List.map_congr_left fun c _ ↦ ?_
    show (updated _ _ c).key = _
    rw [updated, finalName]
    split <;> rfl
  rw [← hkeys]
  constructor
  · rintro ⟨-, -, -, -, hrenamed, -⟩
    exact hrenamed
  · intro hrenamed
    refine ⟨h, h, h, h, hrenamed, userCategoriesStayUnique_of_keepsNames ?_ hrenamed⟩
    simp [migration036, migration038, CategoryStatement.keepsNames]

/-- **When the category migrations apply.** -/
theorem categoryMigrations_apply_iff (L : Locale) (now : ℕ → Timestamp) (tables : CategoryTables)
    (h : tables.Unique) :
    CategoryMigrationsApply L now tables ↔ NoCollisions L tables := by
  have hbudgets := nodup_renamed_iff h.budgets (finalCategory L)
  have huser := nodup_renamed_iff h.userCategories (finalName L)
  have hscript : ∀ tables', runCategoryMigrations L now tables = .ok tables' ↔
      tables' = imageOf (categoryScript L now) tables ∧ NoCollisions L tables := by
    intro tables'
    rw [runCategoryMigrations_eq, runScript_eq_ok_iff h, budgetsStayUnique_iff h.budgets,
      userCategoriesStayUnique_iff h.userCategories, budgets_imageOf]
    simp only [categoryAfter_categoryScript]
    rw [hbudgets, huser]
    exact and_congr_right fun _ ↦ ⟨fun h ↦ ⟨h.1, h.2⟩, fun h ↦ ⟨h.1, h.2⟩⟩
  constructor
  · rintro ⟨tables', hrun, -⟩
    exact ((hscript tables').1 hrun).2
  · intro hfree
    refine ⟨_, (hscript _).2 ⟨rfl, hfree⟩, ?_, fun b hb hunmatched ↦ ?_⟩
    · rw [budgets_imageOf]
      exact hbudgets.2 hfree.budgets
    · have hrenames : ((categoryScript L now).filterMap fun s ↦ s.2.budgetRename) =
          budgetRenames L := rfl
      exact mem_budgets_imageOf hb (hrenames ▸ hunmatched)

end Guarantee

/-- A monthly budget of 100.00. -/
def monthlyBudget (id : Uuid) (category : String) : Budget where
  id := id
  userId := 7
  category := category
  amount := 100
  frequency := "monthly"
  rollover := false
  rolloverStartMonth := none
  createdAt := 0
  updatedAt := 0

/-- A user with a budget for the mortgage and one for the home. -/
def mortgageAndHome : CategoryTables where
  budgets := [monthlyBudget 1 "Mortgage", monthlyBudget 2 "Home Management"]
  userCategories := []

/-- **Tables that the migrations do not apply to.** -/
theorem not_categoryMigrationsApply_mortgageAndHome :
    mortgageAndHome.Unique ∧ ¬CategoryMigrationsApply Locale.c (fun _ ↦ 0) mortgageAndHome := by
  have hfails : runCategoryMigrations Locale.c (fun _ ↦ 0) mortgageAndHome =
      .error .uniqueViolation := by rfl
  refine ⟨⟨by decide, by decide⟩, ?_⟩
  rintro ⟨tables', hrun, -⟩
  rw [hfails] at hrun
  exact absurd hrun nofun

/-- Budgets for groceries, rent and utilities, and care. -/
def threeBudgets : CategoryTables where
  budgets := [monthlyBudget 1 "Groceries", monthlyBudget 2 "RENT_AND_UTILITIES",
    monthlyBudget 3 "Personal Care"]
  userCategories := []

/-- Tables that the migrations apply to. -/
theorem categoryMigrationsApply_threeBudgets :
    CategoryMigrationsApply Locale.c (fun _ ↦ 0) threeBudgets :=
  (categoryMigrations_apply_iff Locale.c (fun _ ↦ 0) threeBudgets ⟨by decide, by decide⟩).2
    ⟨by decide, by decide⟩

end Sumurai
