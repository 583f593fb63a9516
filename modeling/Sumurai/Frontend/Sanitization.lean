import Sumurai.Foundations.Regex
import Sumurai.Foundations.Urls
import Sumurai.Frontend.Categories

/-!
# What is kept out of telemetry

`observability/sanitization.ts`: URLs lose the values of the sensitive parameters of their query
(`sanitizeUrl`), and what is no URL for the parser, such as a path without an origin, is searched
for texts that look like tokens instead (`redactTokenPatterns`).

The parser of the browser before the query is a parameter. Whatever it is, the result does not
depend on the sensitive values of a URL. It does depend on those of a text that is no URL: no
pattern reads an exclamation mark, so a value with one more of them is seen in the result
(`sanitizeUrl_iff`).
-/

namespace Sumurai.Frontend

open Url

/-! ### The token patterns -/

/-- `SENSITIVE_HEADERS`. -/
def sensitiveHeaders : List String :=
  ["authorization", "cookie", "x-api-key", "x-auth-token", "api-key", "auth-token"]

/-- `SENSITIVE_QUERY_PARAMS`. -/
def sensitiveQueryParams : List (List Char) :=
  ["token".toList, "access_token".toList, "public_token".toList, "refresh_token".toList,
    "api_key".toList, "key".toList]

/-- A text as an expression. -/
def literal (s : String) : Regex Char :=
  .chars (s.toList.map fun c d ↦ d = c)

/-- `\w`, also for `\b`. -/
def isWordChar (c : Char) : Bool :=
  c.isAlphanum || c = '_'

/-- `[A-Za-z0-9_-]`. -/
def isTokenChar (c : Char) : Bool :=
  c.isAlphanum || c = '_' || c = '-'

/-- `\d` and a number of them. -/
def digits (n : ℕ) : Regex Char :=
  .run Char.isDigit n (some n)

/-- `eyJ[A-Za-z0-9_-]{10,}\.[A-Za-z0-9_-]{10,}\.[A-Za-z0-9_-]{10,}`. -/
def jwtPattern : Regex Char :=
  .seqs [literal "eyJ", .run isTokenChar 10 none, literal ".", .run isTokenChar 10 none,
    literal ".", .run isTokenChar 10 none]

/-- `access-[a-z]+-[a-zA-Z0-9-]{10,}`. -/
def plaidPattern : Regex Char :=
  .seqs [literal "access-", .run Char.isLower 1 none, literal "-",
    .run (fun c ↦ c.isAlphanum || c = '-') 10 none]

/-- `test_token_[a-zA-Z0-9]+`. -/
def tellerPattern : Regex Char :=
  .seqs [literal "test_token_", .run Char.isAlphanum 1 none]

/-- `\b\d{4}[\s-]?\d{4}[\s-]?\d{4}[\s-]?\d{4}\b`. -/
def cardPattern : Regex Char :=
  let gap : Regex Char := .run (fun c ↦ isSpace c || c = '-') 0 (some 1)
  .seqs [.boundary isWordChar, digits 4, gap, digits 4, gap, digits 4, gap, digits 4,
    .boundary isWordChar]

/-- `\b\d{3}-\d{2}-\d{4}\b`. -/
def ssnPattern : Regex Char :=
  .seqs [.boundary isWordChar, digits 3, literal "-", digits 2, literal "-", digits 4,
    .boundary isWordChar]

/-- `Bearer\s+[A-Za-z0-9_-]+`. -/
def bearerPattern : Regex Char :=
  .seqs [literal "Bearer", .run isSpace 1 none, .run isTokenChar 1 none]

/-- `TOKEN_PATTERNS`. -/
def tokenPatterns : List (Regex Char × String) :=
  [(jwtPattern, "[JWT_REDACTED]"), (plaidPattern, "[PLAID_TOKEN_REDACTED]"),
    (tellerPattern, "[TELLER_TOKEN_REDACTED]"), (cardPattern, "[CC_REDACTED]"),
    (ssnPattern, "[SSN_REDACTED]"), (bearerPattern, "Bearer [REDACTED]")]

/-- `redactTokenPatterns`. -/
def redactTokenPatterns (value : List Char) : List Char :=
  tokenPatterns.foldl (fun sanitized p ↦ p.1.replaceAll p.2.toList sanitized) value

example : redactTokenPatterns "Card: 4532-1234-5678-9010".toList =
    "Card: [CC_REDACTED]".toList := by
  decide +kernel

/-- No pattern reads an exclamation mark, and no replacement has one. -/
theorem count_redactTokenPatterns (value : List Char) :
    (redactTokenPatterns value).count '!' = value.count '!' := by
  have hpatterns : ∀ p ∈ tokenPatterns, p.1.reads '!' = false ∧ '!' ∉ p.2.toList := by
    decide +kernel
  unfold redactTokenPatterns
  generalize tokenPatterns = patterns at hpatterns ⊢
  induction patterns generalizing value with
  | nil => rfl
  | cons p patterns ih =>
    obtain ⟨hp, hrest⟩ := List.forall_mem_cons.1 hpatterns
    rw [List.foldl_cons, ih _ hrest, Regex.count_replaceAll hp.1 hp.2]

/-! ### URLs -/

/-- The body of the loop over `SENSITIVE_QUERY_PARAMS`. -/
def redactParam (url : Url) (param : List Char) : Url :=
  if url.has param then url.set param "[REDACTED]".toList else url

/-- `sanitizeUrl`. -/
def sanitizeUrl (parseBase : List Char → Bool → Bool → Option UrlBase) (url : List Char) :
    List Char :=
  match ofString parseBase url with
  | some urlObj => (sensitiveQueryParams.foldl redactParam urlObj).href
  | none => redactTokenPatterns url

/-- The loop leaves no difference in the parameters that it sets. -/
theorem foldl_redactParam_eq {names : List (List Char)} {url url' : Url}
    (h : Alike names url url') : names.foldl redactParam url = names.foldl redactParam url' := by
  induction names generalizing url url' with
  | nil => exact h.eq
  | cons name names ih =>
    have hstep : Alike names (redactParam url name) (redactParam url' name) := by
      unfold redactParam
      rw [← h.has_eq name]
      cases hhas : url.has name with
      | true => exact h.set hhas _
      | false => exact h.of_not_has hhas
    exact ih hstep

/-- A URL is sanitized in the same way whatever the sensitive values are. -/
theorem sanitizeUrl_eq_of_isSome {parseBase : List Char → Bool → Bool → Option UrlBase}
    {url url' : List Char} (hdiffer : DifferIn sensitiveQueryParams url url')
    (hsome : (ofString parseBase url).isSome) :
    sanitizeUrl parseBase url' = sanitizeUrl parseBase url := by
  obtain rfl | halike := hdiffer.alike_ofString parseBase
  · rfl
  · unfold sanitizeUrl
    generalize ofString parseBase url = urlObj, ofString parseBase url' = urlObj' at halike hsome ⊢
    cases halike with
    | none => exact absurd hsome Bool.false_ne_true
    | some halike => exact congrArg Url.href (foldl_redactParam_eq halike).symm

/-- **What is no URL for the parser shows its sensitive values.** -/
theorem exists_sanitizeUrl_ne {parseBase : List Char → Bool → Bool → Option UrlBase}
    {url : List Char} (hnone : ofString parseBase url = none)
    (hnamed : HasNamed sensitiveQueryParams url) : ∃ url', DifferIn sensitiveQueryParams url url' ∧
      sanitizeUrl parseBase url' ≠ sanitizeUrl parseBase url := by
  obtain ⟨url', hdiffer, hcount⟩ := hnamed.exists_differIn (c := '!') (by decide)
  refine ⟨url', hdiffer, fun heq ↦ ?_⟩
  have hnone' : ofString parseBase url' = none := by
    obtain rfl | halike := hdiffer.alike_ofString parseBase
    · exact hnone
    · rw [hnone] at halike
      cases hother : ofString parseBase url' with
      | none => rfl
      | some urlObj =>
        rw [hother] at halike
        cases halike
  have hmarks := congrArg (List.count '!') heq
  simp only [sanitizeUrl, hnone, hnone', count_redactTokenPatterns] at hmarks
  omega

/-- **Redaction does not tell the sensitive values of a URL**, whatever they are, and of a text that
is no URL it does tell them. -/
theorem sanitizeUrl_iff (parseBase : List Char → Bool → Bool → Option UrlBase) (url : List Char) :
    (∀ url', DifferIn sensitiveQueryParams url url' →
        sanitizeUrl parseBase url' = sanitizeUrl parseBase url) ↔
      (ofString parseBase url).isSome ∨ ¬HasNamed sensitiveQueryParams url := by
  constructor
  · intro hall
    by_contra hnot
    obtain ⟨hnone, hnamed⟩ := not_or.1 hnot
    obtain ⟨url', hdiffer, hne⟩ :=
      exists_sanitizeUrl_ne (Option.not_isSome_iff_eq_none.1 hnone) (not_not.1 hnamed)
    exact hne (hall url' hdiffer)
  · rintro (hsome | hnamed) url' hdiffer
    · exact sanitizeUrl_eq_of_isSome hdiffer hsome
    · rw [hdiffer.eq_of_not_hasNamed hnamed]

/-- What the parser makes of an address with `http`, a plain host and a path. -/
def httpBase (s : List Char) (_ _ : Bool) : Option UrlBase :=
  let host := (s.drop 7).takeWhile (· ≠ '/')
  if "http://".toList <+: s ∧ host ≠ [] ∧ (∀ c ∈ host, c.isLower ∨ c = '.') ∧ '/' ∈ s.drop 7 then
    some ⟨s, true⟩
  else none

example : sanitizeUrl httpBase "http://api.com/auth?token=abc123&user=bob".toList =
    "http://api.com/auth?token=%5BREDACTED%5D&user=bob".toList := by
  decide +kernel

/-- A path is no URL: two texts that differ in the value of `token` are not made the same. -/
theorem path_shows_token : ¬∀ url url', DifferIn sensitiveQueryParams url url' →
    sanitizeUrl httpBase url' = sanitizeUrl httpBase url := by
  intro hall
  have hdiffer : DifferIn sensitiveQueryParams "/auth?token=abc123".toList
      "/auth?token=abc124".toList := by
    refine ⟨"/auth".toList, ["token=abc123".toList], ["token=abc124".toList], [],
      ⟨rfl, by decide, by decide, fun _ hc ↦ nomatch hc⟩,
      ⟨rfl, by decide, by decide, fun _ hc ↦ nomatch hc⟩,
      .cons (.inr ?_) .nil⟩
    exact ⟨"token".toList, "abc123".toList, "abc124".toList, rfl, rfl, by decide,
      by decide +kernel⟩
  have hne : sanitizeUrl httpBase "/auth?token=abc124".toList ≠
      sanitizeUrl httpBase "/auth?token=abc123".toList := by
    decide +kernel
  exact hne (hall _ _ hdiffer)

/-! ### Span attributes -/

section Attributes

variable {δ : Type*}

/-- The value of an attribute: a string, or a number, a truth value or a list. -/
inductive AttributeValue (δ : Type*) where
  | text (s : List Char)
  | other (value : δ)

/-- `SENSITIVE_HEADERS.some((header) => lowerKey.includes(header))`. -/
def isSensitiveHeader (lowerKey : List Char) : Bool :=
  sensitiveHeaders.any fun header ↦ header.toList <:+: lowerKey

/-- `lowerKey.includes('url')`. -/
def isUrlKey (lowerKey : List Char) : Bool :=
  "url".toList <:+: lowerKey

/-- What an attribute that is not deleted is updated to. -/
def attributeUpdate (parseBase : List Char → Bool → Bool → Option UrlBase) (lowerKey : List Char) :
    AttributeValue δ → Option (List Char)
  | .text s =>
    if isUrlKey lowerKey then some (sanitizeUrl parseBase s)
    else if s ≠ [] ∧ redactTokenPatterns s ≠ s then some (redactTokenPatterns s)
    else none
  | .other _ => none

/-- `sanitizeSpanAttributes`: the calls of `setAttribute`, those with `undefined` first. -/
def sanitizeSpanAttributes (M : CaseMapping)
    (parseBase : List Char → Bool → Bool → Option UrlBase)
    (attributes : List (List Char × AttributeValue δ)) : List (List Char × Option (List Char)) :=
  let keysToDelete := attributes.filterMap fun a ↦
    if isSensitiveHeader (M.lowerCase a.1) then some a.1 else none
  let keysToUpdate := attributes.filterMap fun a ↦
    if isSensitiveHeader (M.lowerCase a.1) then none
    else (attributeUpdate parseBase (M.lowerCase a.1) a.2).map fun value ↦ (a.1, value)
  keysToDelete.map (fun key ↦ (key, none)) ++ keysToUpdate.map fun u ↦ (u.1, some u.2)

/-- Attributes that differ at most in the sensitive values of a URL. -/
def SameAttribute (M : CaseMapping) (parseBase : List Char → Bool → Bool → Option UrlBase)
    (a a' : List Char × AttributeValue δ) : Prop :=
  a = a' ∨ ∃ key url url', a = (key, .text url) ∧ a' = (key, .text url') ∧
    isUrlKey (M.lowerCase key) ∧ DifferIn sensitiveQueryParams url url' ∧
    (ofString parseBase url).isSome

/-- What the spans are told does not depend on the sensitive values of URLs. -/
theorem sanitizeSpanAttributes_eq {M : CaseMapping}
    {parseBase : List Char → Bool → Bool → Option UrlBase}
    {attributes attributes' : List (List Char × AttributeValue δ)}
    (h : List.Forall₂ (SameAttribute M parseBase) attributes attributes') :
    sanitizeSpanAttributes M parseBase attributes =
      sanitizeSpanAttributes M parseBase attributes' := by
  have hkey {a a' : List Char × AttributeValue δ} (ha : SameAttribute M parseBase a a') :
      a.1 = a'.1 ∧ attributeUpdate parseBase (M.lowerCase a.1) a.2 =
        attributeUpdate parseBase (M.lowerCase a'.1) a'.2 := by
    obtain rfl | ⟨key, url, url', rfl, rfl, hurl, hdiffer, hsome⟩ := ha
    · exact ⟨rfl, rfl⟩
    · refine ⟨rfl, ?_⟩
      simp only [attributeUpdate, hurl, if_true, sanitizeUrl_eq_of_isSome hdiffer hsome]
  have hfilterMap {β : Type _} {f : List Char × AttributeValue δ → Option β}
      (hf : ∀ a a', SameAttribute M parseBase a a' → f a = f a') :
      attributes.filterMap f = attributes'.filterMap f := by
    induction h with
    | nil => rfl
    | cons ha h ih => rw [List.filterMap_cons, List.filterMap_cons, hf _ _ ha, ih]
  unfold sanitizeSpanAttributes
  simp only
  rw [hfilterMap fun a a' ha ↦ by rw [(hkey ha).1],
    hfilterMap fun a a' ha ↦ by rw [(hkey ha).2, (hkey ha).1]]

end Attributes

end Sumurai.Frontend
