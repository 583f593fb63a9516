import Sumurai.Foundations.PythonValues

/-!
# What the language model answers

`categorize_with_ollama` asks a language model for the category of the items of an order and reads
its answer, which can be anything: a body that is no JSON, values of other types than those asked
for, names that are not in the taxonomy. Any exception is caught, and the order is then filed under
Shopping.

`isConfined_iff` says when the answer is one of the taxonomy's categories with one of its
subcategories or none: always, but for a subcategory that is neither `null` nor true, like the empty
string, which is returned as it is.
-/

namespace Sumurai

open Python

/-- `SUMURAI_TAXONOMY`. -/
def SUMURAI_TAXONOMY : List (String × List String) :=
  [("Bills & Utilities", ["AI", "Internet", "Phone", "Television", "Utilities", "Water"]),
    ("Childcare",
      ["Baby Supplies", "Babysitter & Daycare", "Child Support", "Kids Activities", "Toys"]),
    ("Education", ["Books & Supplies", "Tuition"]),
    ("Entertainment",
      ["Amusement", "Arts", "Movies & DVDs", "Music", "Newspaper & Magazines", "Subscription"]),
    ("Food & Dining",
      ["Alcohol & Bars", "Cafes & Bakeries", "Coffee Shops", "Fast Food", "Restaurants"]),
    ("Gifts & Donations", ["Charity", "Children Allowance", "Gifts"]),
    ("Groceries", ["Groceries"]),
    ("Health & Fitness", ["Gym", "Sports"]),
    ("Home Improvement",
      ["Furnishings", "Household Supplies", "Lawn & Garden", "Plants & Needs"]),
    ("Home Management", ["Home Insurance", "Home Services", "Mortgage"]),
    ("Insurance", ["Auto Insurance", "Car Insurance", "Health Insurance", "Life Insurance"]),
    ("Medical", ["Dentist", "Doctor", "Eyecare", "Labs", "Mental Health", "Pharmacy"]),
    ("Pets", ["Boarding", "Insurance"]),
    ("Shopping",
      ["Books", "Clothing", "Decor", "Electronics", "Hair", "Hobbies", "Home", "Kitchen",
        "Laundry", "Personal Care", "Spa & Massage", "Toys"]),
    ("Transportation",
      ["Auto Payment", "Car Insurance", "Car Maintainance", "Car Registration", "Gas", "Parking",
        "Public Transport", "Toll", "Traffic Ticket"])]

/-! ### The request -/

/-- `build_taxonomy_text`. -/
def buildTaxonomyText : String :=
  "\n".intercalate (SUMURAI_TAXONOMY.map fun entry ↦
    "- " ++ entry.1 ++ ": " ++ ", ".intercalate entry.2)

/-- `prompt`. -/
def ollamaPrompt (items : List Text) : Text :=
  text ("You are a personal finance categorization assistant.\n" ++
    "Classify the following Amazon order items into the SINGLE best Major Category and " ++
    "Subcategory from the allowed taxonomy.\n\nALLOWED TAXONOMY:\n" ++ buildTaxonomyText ++
    "\n\nGUIDELINES:\n" ++
    "- Always choose an exact Subcategory from the allowed list if any subcategory reasonably " ++
    "fits the item.\n" ++
    "- Cleaning supplies, laundry detergents, dishwasher soap, paper towels, trash bags, " ++
    "batteries, hardware -> Category: \"Home Improvement\", Subcategory: \"Household " ++
    "Supplies\".\n" ++
    "- Food, pantry, snacks, beverages -> Category: \"Groceries\", Subcategory: " ++
    "\"Groceries\".\n" ++
    "- Cables, electronics, tech accessories -> Category: \"Shopping\", Subcategory: " ++
    "\"Electronics\".\n" ++
    "- Apparel, shoes, shirts -> Category: \"Shopping\", Subcategory: \"Clothing\".\n" ++
    "- Pet food, pet toys -> Category: \"Pets\", Subcategory: \"Boarding\" or null.\n\n" ++
    "PURCHASED ITEMS:\n") ++
  (text "\n").intercalate (items.map fun item ↦ text "- " ++ item) ++
  text ("\n\nRespond STRICTLY with valid JSON in this format:\n" ++
    "\x7b\"category\": \"<Major Category Name>\", " ++
    "\"subcategory\": \"<Subcategory Name or null>\"\x7d\n")

/-- `payload`. -/
structure OllamaPayload where
  model : Text
  prompt : Text
  format : Text := text "json"
  stream : Bool := false

/-- What the syncer asks of its surroundings here: the service, up to the JSON of its response or
the exception of the request, and the reader of JSON. -/
structure OllamaClient extends LowerCase where
  ollamaModel : Text
  post : OllamaPayload → Except Python.Error Value
  jsonLoads : Text → Except Python.Error Value

namespace OllamaClient

variable (C : OllamaClient)

/-! ### The answer -/

/-- `json.loads(raw_response)`, which takes text. -/
def loads : Value → Except Python.Error Value
  | .str s => C.jsonLoads s
  | _ => .error .typeError

/-- `category` and `subcategory`, as they are read from the response. -/
def readAnswer (items : List Text) : Except Python.Error (Text × Value) := do
  let data ← C.post { model := C.ollamaModel, prompt := ollamaPrompt items }
  let rawResponse ← data.get "response" (.str (text "\x7b\x7d"))
  let parsed ← C.loads rawResponse
  let category ← parsed.get "category" (.str [])
  let category ← category.strip
  let subcategory ← parsed.get "subcategory" .none
  return (category, subcategory)

/-- The words for no subcategory. -/
def withoutNullWords (subcategory : Value) : Except Python.Error Value :=
  if subcategory.isTruthy then do
    let subcategory ← subcategory.strip
    return if C.lower subcategory ∈ [text "null", text "none", text ""] then .none
      else .str subcategory
  else .ok subcategory

/-- The first loop: a major category. -/
def findMajor (category : Text) : Option String :=
  (SUMURAI_TAXONOMY.find? fun entry ↦ C.lower (text entry.1) = C.lower category).map Prod.fst

/-- The second loop: the major category of a subcategory. -/
def findMajorOfSub (category : Text) : Option String :=
  (SUMURAI_TAXONOMY.find? fun entry ↦
    entry.2.any fun sub ↦ C.lower (text sub) = C.lower category).map Prod.fst

/-- `matched_major`, and the subcategory that goes with it. -/
def matchMajor (category : Text) (subcategory : Value) : String × Value :=
  match C.findMajor category with
  | some major => (major, subcategory)
  | none =>
    match C.findMajorOfSub category with
    | some major => (major, .str category)
    | none => ("Shopping", subcategory)

/-- The last check of the subcategory. -/
def validateSubcategory (matchedMajor : String) (subcategory : Value) :
    Except Python.Error Value :=
  if subcategory.isTruthy then do
    let allowedSubs :=
      ((SUMURAI_TAXONOMY.find? fun entry ↦ entry.1 = matchedMajor).map Prod.snd).getD []
    let lowered ← subcategory.lower C.toLowerCase
    return match allowedSubs.find? fun s ↦ C.lower (text s) = lowered with
    | some matchedSub => .str (text matchedSub)
    | none => .none
  else .ok subcategory

/-- The body of the `try`. -/
def askOllama (items : List Text) : Except Python.Error (String × Value) := do
  let (category, subcategory) ← C.readAnswer items
  let subcategory ← C.withoutNullWords subcategory
  let (matchedMajor, subcategory) := C.matchMajor category subcategory
  let subcategory ← C.validateSubcategory matchedMajor subcategory
  return (matchedMajor, subcategory)

/-- `categorize_with_ollama`. -/
def categorizeWithOllama (items : List Text) : Except Python.Error (String × Value) :=
  if items = [] then .ok ("Shopping", .none)
  else tryCatch (C.askOllama items) fun _ ↦ .ok ("Shopping", .none)

/-! ### What is returned -/

/-- A category of the taxonomy, with one of its subcategories or none. -/
def IsConfined (answer : String × Value) : Prop :=
  ∃ subs, (answer.1, subs) ∈ SUMURAI_TAXONOMY ∧
    (answer.2 = .none ∨ ∃ sub ∈ subs, answer.2 = .str (text sub))

/-- The subcategory is none, or a text that is not empty. -/
def IsNormal (subcategory : Value) : Prop :=
  subcategory = .none ∨ ∃ s ≠ [], subcategory = .str s

/-- The category is that of a subcategory, and no major one. -/
def NamesSubcategory (category : Text) : Prop :=
  C.findMajor category = none ∧ C.findMajorOfSub category ≠ none

theorem subcategories_isAscii : ∀ entry ∈ SUMURAI_TAXONOMY, ∀ sub ∈ entry.2,
    (∀ c ∈ text sub, c < 128) ∧ text sub ≠ [] := by
  decide +kernel

theorem shopping_isMajor : "Shopping" ∈ SUMURAI_TAXONOMY.map Prod.fst := by
  decide +kernel

section Answer

variable {C} {items : List Text} {category : Text} {subcategory subcategory' : Value}
  {major : String}

theorem isConfined_shopping : IsConfined ("Shopping", .none) := by
  obtain ⟨⟨_, subs⟩, hmem, rfl⟩ := List.mem_map.1 shopping_isMajor
  exact ⟨subs, hmem, Or.inl rfl⟩

/-- A subcategory that is true is normal after the words for none. -/
theorem isNormal_of_withoutNullWords (htruthy : subcategory.isTruthy = true)
    (h : C.withoutNullWords subcategory = .ok subcategory') : IsNormal subcategory' := by
  rw [withoutNullWords, if_pos htruthy] at h
  cases subcategory with
  | str s =>
    obtain rfl := Except.ok.inj h
    split
    · exact Or.inl rfl
    · rename_i hword
      refine Or.inr ⟨_, fun hempty ↦ hword ?_, rfl⟩
      -- the empty text is the last of the words
      rw [hempty, C.lower_nil]
      exact List.mem_cons_of_mem _ (List.mem_cons_of_mem _ List.mem_cons_self)
  | none => cases h
  | bool b => cases h
  | int n => cases h
  | float bits => cases h
  | list values => cases h
  | dict members => cases h

theorem withoutNullWords_of_not_isTruthy (h : subcategory.isTruthy = false) :
    C.withoutNullWords subcategory = .ok subcategory :=
  if_neg (by rw [h]; exact Bool.false_ne_true)

theorem mem_of_findMajor (h : C.findMajor category = some major) :
    major ∈ SUMURAI_TAXONOMY.map Prod.fst := by
  obtain ⟨entry, hentry, rfl⟩ := Option.map_eq_some_iff.1 h
  exact List.mem_map_of_mem (List.mem_of_find?_eq_some hentry)

/-- What is a subcategory of the taxonomy is not empty. -/
theorem of_findMajorOfSub (h : C.findMajorOfSub category = some major) :
    major ∈ SUMURAI_TAXONOMY.map Prod.fst ∧ category ≠ [] := by
  obtain ⟨entry, hentry, rfl⟩ := Option.map_eq_some_iff.1 h
  have hmem := List.mem_of_find?_eq_some hentry
  refine ⟨List.mem_map_of_mem hmem, fun hempty ↦ ?_⟩
  have hany := List.find?_some hentry
  obtain ⟨sub, hsub, hlower⟩ := List.any_eq_true.1 hany
  obtain ⟨hascii, hne⟩ := subcategories_isAscii entry hmem sub hsub
  refine C.lower_ne_nil hascii hne ?_
  rw [of_decide_eq_true hlower, hempty, C.lower_nil]

/-- The category that is matched is one of the taxonomy's, and its subcategory that of the answer,
or the category of the answer. -/
theorem matchMajor_cases (category : Text) (subcategory : Value) :
    (C.matchMajor category subcategory).1 ∈ SUMURAI_TAXONOMY.map Prod.fst ∧
      (C.NamesSubcategory category ∧ IsNormal (C.matchMajor category subcategory).2 ∨
        ¬C.NamesSubcategory category ∧ (C.matchMajor category subcategory).2 = subcategory) := by
  rw [matchMajor]
  cases hmajor : C.findMajor category with
  | some major =>
    have hnot : ¬C.NamesSubcategory category := fun h ↦ nomatch hmajor.symm.trans h.1
    exact ⟨mem_of_findMajor hmajor, Or.inr ⟨hnot, rfl⟩⟩
  | none =>
    cases hsub : C.findMajorOfSub category with
    | some major =>
      obtain ⟨hmem, hne⟩ := of_findMajorOfSub hsub
      have hnames : C.NamesSubcategory category := ⟨hmajor, by rw [hsub]; exact nofun⟩
      exact ⟨hmem, Or.inl ⟨hnames, Or.inr ⟨category, hne, rfl⟩⟩⟩
    | none =>
      have hnot : ¬C.NamesSubcategory category := fun h ↦ h.2 hsub
      exact ⟨shopping_isMajor, Or.inr ⟨hnot, rfl⟩⟩

/-- A normal subcategory is spelled as in the taxonomy, or dropped. -/
theorem isConfined_of_validateSubcategory (hmajor : major ∈ SUMURAI_TAXONOMY.map Prod.fst)
    (hnormal : IsNormal subcategory) :
    ∃ subcategory', C.validateSubcategory major subcategory = .ok subcategory' ∧
      IsConfined (major, subcategory') := by
  obtain ⟨entry, hentry, rfl⟩ := List.mem_map.1 hmajor
  obtain ⟨found, hfind⟩ : ∃ found,
      (SUMURAI_TAXONOMY.find? fun other ↦ other.1 = entry.1) = some found :=
    Option.isSome_iff_exists.1 (List.find?_isSome.2 ⟨entry, hentry, decide_eq_true rfl⟩)
  have hfound := List.find?_some hfind
  have hname : found.1 = entry.1 := of_decide_eq_true hfound
  have hmem : (entry.1, found.2) ∈ SUMURAI_TAXONOMY := by
    rw [← hname]
    exact List.mem_of_find?_eq_some hfind
  obtain rfl | ⟨s, hs, rfl⟩ := hnormal
  · exact ⟨.none, rfl, found.2, hmem, Or.inl rfl⟩
  · have htruthy : (Value.str s).isTruthy = true := decide_eq_true hs
    rw [validateSubcategory, if_pos htruthy, hfind]
    refine ⟨_, rfl, found.2, hmem, ?_⟩
    cases hsub : found.2.find? fun sub ↦ C.lower (text sub) = C.lower s with
    | none => exact Or.inl (by simp [hsub])
    | some sub => exact Or.inr ⟨sub, List.mem_of_find?_eq_some hsub, by simp [hsub]⟩

/-- The checks after the answer has been read. -/
theorem askOllama_eq (h : C.readAnswer items = .ok (category, subcategory)) :
    C.askOllama items = (C.withoutNullWords subcategory).bind fun subcategory ↦
      (C.validateSubcategory (C.matchMajor category subcategory).1
        (C.matchMajor category subcategory).2).map fun subcategory' ↦
          ((C.matchMajor category subcategory).1, subcategory') := by
  rw [askOllama, h]
  rfl

/-- What the function returns is always an answer: an exception is one of Shopping. -/
theorem categorizeWithOllama_eq (hitems : items ≠ []) : C.categorizeWithOllama items =
    .ok (match C.askOllama items with
      | .ok answer => answer
      | .error _ => ("Shopping", .none)) := by
  rw [categorizeWithOllama, if_neg hitems]
  cases C.askOllama items with
  | ok answer => rfl
  | error e => rfl

/-- The steps of an answer that is returned. -/
theorem of_askOllama {answer : String × Value} (h : C.askOllama items = .ok answer) :
    ∃ category subcategory subcategory' checked,
      C.readAnswer items = .ok (category, subcategory) ∧
      C.withoutNullWords subcategory = .ok subcategory' ∧
      C.validateSubcategory (C.matchMajor category subcategory').1
        (C.matchMajor category subcategory').2 = .ok checked ∧
      answer = ((C.matchMajor category subcategory').1, checked) := by
  cases hread : C.readAnswer items with
  | error e =>
    rw [askOllama, hread] at h
    cases h
  | ok read =>
    obtain ⟨category, subcategory⟩ := read
    rw [askOllama_eq hread] at h
    cases hwords : C.withoutNullWords subcategory with
    | error e =>
      rw [hwords] at h
      cases h
    | ok subcategory' =>
      rw [hwords] at h
      have hvalidate : Except.map (fun checked ↦ ((C.matchMajor category subcategory').1, checked))
          (C.validateSubcategory (C.matchMajor category subcategory').1
            (C.matchMajor category subcategory').2) = .ok answer := h
      cases hchecked : C.validateSubcategory (C.matchMajor category subcategory').1
          (C.matchMajor category subcategory').2 with
      | error e =>
        rw [hchecked] at hvalidate
        cases hvalidate
      | ok checked =>
        rw [hchecked] at hvalidate
        exact ⟨category, subcategory, subcategory', checked, rfl, hwords, hchecked,
          (Except.ok.inj hvalidate).symm⟩

/-- An answer that cannot be read, or has a normal subcategory in the end, is confined. -/
theorem isConfined_of_askOllama {answer : String × Value} (h : C.askOllama items = .ok answer)
    (hread : ∀ category subcategory, C.readAnswer items = .ok (category, subcategory) →
      subcategory = .none ∨ subcategory.isTruthy = true ∨ C.NamesSubcategory category) :
    IsConfined answer := by
  obtain ⟨category, subcategory, subcategory', checked, hanswer, hwords, hchecked, rfl⟩ :=
    of_askOllama h
  obtain ⟨hmajor, hmatched⟩ := C.matchMajor_cases category subcategory'
  have hnormal : IsNormal (C.matchMajor category subcategory').2 := by
    obtain ⟨-, hnormal⟩ | ⟨hnot, hsame⟩ := hmatched
    · exact hnormal
    · rw [hsame]
      obtain rfl | htruthy | hnames := hread category subcategory hanswer
      · obtain rfl := Except.ok.inj ((withoutNullWords_of_not_isTruthy rfl).symm.trans hwords)
        exact Or.inl rfl
      · exact isNormal_of_withoutNullWords htruthy hwords
      · exact absurd hnames hnot
  obtain ⟨checked', hchecked', hconfined⟩ := C.isConfined_of_validateSubcategory hmajor hnormal
  obtain rfl := Except.ok.inj (hchecked.symm.trans hchecked')
  exact hconfined

/-- A subcategory that is neither none nor true is returned as it is. -/
theorem askOllama_of_not_isTruthy (hread : C.readAnswer items = .ok (category, subcategory))
    (hfalse : subcategory.isTruthy = false) (hnot : ¬C.NamesSubcategory category) :
    ∃ major, C.askOllama items = .ok (major, subcategory) := by
  obtain ⟨-, ⟨hnames, -⟩ | ⟨-, hsame⟩⟩ := C.matchMajor_cases category subcategory
  · exact absurd hnames hnot
  · refine ⟨(C.matchMajor category subcategory).1, ?_⟩
    rw [askOllama_eq hread, withoutNullWords_of_not_isTruthy hfalse]
    show Except.map _ (C.validateSubcategory _ (C.matchMajor category subcategory).2) = _
    rw [hsame, validateSubcategory, if_neg (by rw [hfalse]; exact Bool.false_ne_true)]
    rfl

theorem not_isConfined_of_not_isTruthy (hfalse : subcategory.isTruthy = false)
    (hne : subcategory ≠ .none) : ¬IsConfined (major, subcategory) := by
  rintro ⟨subs, hmem, hnone | ⟨sub, hsub, rfl⟩⟩
  · exact hne hnone
  · have hempty : text sub = [] := of_not_not fun hne ↦
      absurd (hfalse.symm.trans (decide_eq_true hne)) nofun
    exact (subcategories_isAscii _ hmem sub hsub).2 hempty

end Answer

/-- The function returns, whatever happens, and a category of the taxonomy. -/
theorem exists_categorizeWithOllama (items : List Text) : ∃ answer,
    C.categorizeWithOllama items = .ok answer ∧ answer.1 ∈ SUMURAI_TAXONOMY.map Prod.fst := by
  by_cases hitems : items = []
  · exact ⟨_, if_pos hitems, shopping_isMajor⟩
  rw [categorizeWithOllama_eq hitems]
  cases hask : C.askOllama items with
  | error e => exact ⟨_, rfl, shopping_isMajor⟩
  | ok answer =>
    obtain ⟨category, -, subcategory', -, -, -, -, rfl⟩ := of_askOllama hask
    exact ⟨_, rfl, (C.matchMajor_cases category subcategory').1⟩

/-- **When the answer is confined to the taxonomy.** For every service, reader of JSON and items:
the function returns a category of the taxonomy; and what it returns with it is one of its
subcategories or none, exactly when there are no items, or an answer that can be read has no
subcategory (`null`), one that is true, or a category that is that of a subcategory. -/
theorem isConfined_iff (items : List Text) :
    (∃ answer, C.categorizeWithOllama items = .ok answer ∧
      answer.1 ∈ SUMURAI_TAXONOMY.map Prod.fst) ∧
    ((∃ answer, C.categorizeWithOllama items = .ok answer ∧ IsConfined answer) ↔
      items = [] ∨ ∀ category subcategory, C.readAnswer items = .ok (category, subcategory) →
        subcategory = .none ∨ subcategory.isTruthy = true ∨ C.NamesSubcategory category) := by
  refine ⟨C.exists_categorizeWithOllama items, ?_⟩
  by_cases hitems : items = []
  · exact iff_of_true ⟨_, if_pos hitems, isConfined_shopping⟩ (Or.inl hitems)
  rw [or_iff_right hitems, categorizeWithOllama_eq hitems]
  constructor
  · rintro ⟨answer, hanswer, hconfined⟩ category subcategory hread
    by_contra hnot
    obtain ⟨hne, hfalse, hnames⟩ : subcategory ≠ .none ∧ ¬subcategory.isTruthy = true ∧
        ¬C.NamesSubcategory category := by
      simpa only [not_or] using hnot
    rw [Bool.not_eq_true] at hfalse
    obtain ⟨major, hask⟩ := askOllama_of_not_isTruthy hread hfalse hnames
    rw [hask] at hanswer
    obtain rfl := Except.ok.inj hanswer
    exact not_isConfined_of_not_isTruthy hfalse hne hconfined
  · intro hread
    cases hask : C.askOllama items with
    | error e => exact ⟨_, rfl, isConfined_shopping⟩
    | ok answer => exact ⟨_, rfl, isConfined_of_askOllama hask hread⟩

end OllamaClient

/-- The lower case of ASCII. -/
def asciiLowerCase : LowerCase where
  lower s := s.map fun c ↦ if 65 ≤ c ∧ c ≤ 90 then c + 32 else c
  lower_ascii _ _ := rfl

/-- A service that answers with a category and an empty subcategory. -/
def emptySubcategoryClient : OllamaClient where
  toLowerCase := asciiLowerCase
  ollamaModel := text "llama3.2:latest"
  post _ := .ok (.dict [(text "response",
    .str (text "\x7b\"category\": \"Groceries\", \"subcategory\": \"\"\x7d"))])
  jsonLoads _ := .ok (.dict [(text "category", .str (text "Groceries")),
    (text "subcategory", .str [])])

theorem readAnswer_emptySubcategory (items : List Text) :
    emptySubcategoryClient.readAnswer items = .ok (text "Groceries", .str []) := by
  have hresponse : emptySubcategoryClient.post
      { model := emptySubcategoryClient.ollamaModel, prompt := ollamaPrompt items } =
        .ok (.dict [(text "response",
          .str (text "\x7b\"category\": \"Groceries\", \"subcategory\": \"\"\x7d"))]) := rfl
  have hloads (s : Text) : emptySubcategoryClient.loads (.str s) = .ok
      (.dict [(text "category", .str (text "Groceries")), (text "subcategory", .str [])]) := rfl
  have hname : text "category" ≠ text "subcategory" := by decide +kernel
  have hstrip : stripSpaces (text "Groceries") = text "Groceries" := by decide +kernel
  simp only [OllamaClient.readAnswer, hresponse, hloads, Value.get_cons_self,
    Value.get_cons_of_ne hname, Value.strip, hstrip, bind, Except.bind]
  rfl

/-- **An empty subcategory** is returned as it is. -/
theorem emptySubcategory_returned :
    emptySubcategoryClient.categorizeWithOllama [text "Apples"] = .ok ("Groceries", .str []) ∧
      ¬∃ answer, emptySubcategoryClient.categorizeWithOllama [text "Apples"] = .ok answer ∧
        OllamaClient.IsConfined answer := by
  have hmajor : emptySubcategoryClient.findMajor (text "Groceries") = some "Groceries" := by
    decide +kernel
  have hreturned : emptySubcategoryClient.categorizeWithOllama [text "Apples"] =
      .ok ("Groceries", .str []) := by
    rw [OllamaClient.categorizeWithOllama_eq (List.cons_ne_nil _ _),
      OllamaClient.askOllama_eq (readAnswer_emptySubcategory _),
      OllamaClient.withoutNullWords_of_not_isTruthy rfl]
    simp only [Except.bind, OllamaClient.matchMajor, hmajor]
    rfl
  have hne : Value.str [] ≠ .none := nofun
  refine ⟨hreturned, ?_⟩
  rintro ⟨answer, hanswer, hconfined⟩
  obtain rfl := Except.ok.inj (hreturned.symm.trans hanswer)
  exact OllamaClient.not_isConfined_of_not_isTruthy rfl hne hconfined

end Sumurai
