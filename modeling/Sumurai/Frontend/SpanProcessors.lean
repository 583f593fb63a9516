import Sumurai.Foundations.AssocMap
import Sumurai.Frontend.Sanitization

/-!
# What the telemetry exports

`observability/processors.ts`: every span that ends goes through three processors in the order of
`initTelemetry`. The first one ends an audit span in place of a call of an endpoint that exchanges
tokens and strips the calls of the endpoints of authentication, the second one names the span after
its route, and the third one hands what is not blocked to the batch that is exported.

The values of attributes that are no texts, the parser of the browser and the hash of the token are
parameters. An audit span has no URL, so it is not audited itself (`endSpan_add_two`), and two
sessions whose spans agree in what is meant to be released export the same (`exports_congr`).
-/

namespace Sumurai.Frontend

/-- A span that has ended, with its attributes in the order of insertion. -/
structure Span (δ : Type*) where
  name : List Char
  attributes : List (List Char × AttributeValue δ)

/-- What the processors take from the browser and the language: `if (value)` and `String(value)` of
a value that is no text, the number zero, and `new URL(url, window.location.origin).pathname` of
what does not throw. -/
structure Browser (δ : Type*) where
  truthy : δ → Bool
  toText : δ → List Char
  zero : δ
  pathname : List Char → Option (List Char)

namespace Span

variable {δ : Type*}

/-- `span.attributes[key]`. -/
def get (span : Span δ) (key : String) : Option (AttributeValue δ) :=
  span.attributes.lookup key.toList

end Span

section Urls

/-- `SENSITIVE_ENDPOINTS`, both of them anchored at the end. -/
def sensitiveEndpoints : List String :=
  ["/api/plaid/exchange-token", "/api/teller/exchange-token"]

/-- `stripQueryAndFragment`. -/
def stripQueryAndFragment (url : List Char) : List Char :=
  url.takeWhile fun c ↦ !(c = '?' || c = '#')

/-- `isSensitiveEndpoint`. -/
def isSensitiveEndpoint (url : List Char) : Bool :=
  sensitiveEndpoints.any fun endpoint ↦ endpoint.toList <:+ stripQueryAndFragment url

/-- `isAuthEndpoint`, with `AUTH_ENDPOINTS`. The query is not stripped. -/
def isAuthEndpoint (url : List Char) : Bool :=
  "/api/auth/".toList <:+: url || "/api/plaid/link-token".toList <:+ url

/-- The provider of `recordSanitizedOutcome`. -/
def auditProvider (url : List Char) : String :=
  if "/plaid/".toList <:+: url then "plaid"
  else if "/teller/".toList <:+: url then "teller" else "unknown"

/-- `getEndpointKey`. -/
def getEndpointKey (url : List Char) (provider : String) : Option String :=
  if provider = "plaid" then some "plaid.exchange-token"
  else if provider = "teller" ∧ "/connect".toList <:+: url then some "teller.connect"
  else if provider = "teller" then some "teller.exchange-token"
  else none

end Urls

section Processors

variable {δ : Type*} (B : Browser δ) (M : CaseMapping)

/-- `if (value)`. -/
def AttributeValue.truthy : AttributeValue δ → Bool
  | .text s => s ≠ []
  | .other value => B.truthy value

/-- What `RegExp.test` reads. -/
def AttributeValue.toText : AttributeValue δ → List Char
  | .text s => s
  | .other value => B.toText value

/-- `value1 || value2`. -/
def orTruthy (value value' : Option (AttributeValue δ)) : Option (AttributeValue δ) :=
  if value.any (AttributeValue.truthy B) then value else value'

/-- `getSpanUrl`. The value is called a string, but nothing checks it. -/
def getSpanUrl (span : Span δ) : Option (AttributeValue δ) :=
  orTruthy B (orTruthy B (span.get "http.url") (span.get "url.full"))
    (span.get "http.target")

/-- `shouldBlockSpanForUrl`; `none` when it throws, since a value that is no text has no
`search`. -/
def shouldBlockSpanForUrl (blockSensitiveEndpoints : Bool) (url : Option (AttributeValue δ)) :
    Option Bool :=
  if !blockSensitiveEndpoints || !url.any (AttributeValue.truthy B) then some false
  else match url with
    | some (.text url) => some (isSensitiveEndpoint url)
    | _ => none

/-- `shouldBlockSpan`. -/
def shouldBlockSpan (blockSensitiveEndpoints : Bool) (span : Span δ) : Option Bool :=
  shouldBlockSpanForUrl B blockSensitiveEndpoints (getSpanUrl B span)

/-- The status that `recordSanitizedOutcome` records. -/
def auditStatus (span : Span δ) : AttributeValue δ :=
  (span.get "http.status_code").getD
    ((span.get "http.response.status_code").getD (.other B.zero))

/-- The method that `recordSanitizedOutcome` records. -/
def auditMethod (span : Span δ) : AttributeValue δ :=
  (span.get "http.method").getD ((span.get "http.request.method").getD (.text "POST".toList))

/-- The audit span of `recordSanitizedOutcome`. -/
def recordSanitizedOutcome (span : Span δ) (url : List Char) : Span δ :=
  let provider := auditProvider url
  { name := "sensitive-provider-endpoint".toList
    attributes :=
      [("http.method".toList, auditMethod span), ("http.status_code".toList, auditStatus B span),
        ("provider".toList, .text provider.toList)] ++
      ((getEndpointKey url provider).map fun endpoint ↦
        ("endpoint".toList, AttributeValue.text endpoint.toList)).toList }

/-- The essential attributes of `redactAllNonEssentialAttributes`. -/
def essentialAttributes : List (List Char) :=
  ["http.method".toList, "http.status_code".toList, "http.url".toList, "url.full".toList,
    "span.kind".toList]

/-- What an essential attribute is set to. -/
def redactValue : AttributeValue δ → AttributeValue δ
  | .text s => .text (redactTokenPatterns s)
  | .other value => .other value

/-- `redactAllNonEssentialAttributes`. -/
def redactAllNonEssentialAttributes (span : Span δ) : Span δ :=
  { span with
    attributes := (span.attributes.filter fun a ↦ a.1 ∈ essentialAttributes).map fun a ↦
      (a.1, redactValue a.2) }

/-- `SensitiveDataSpanProcessor.onEnd` with the redaction of authentication turned on: the audit
span that it ends and the span as it leaves it. -/
def sensitiveOnEnd (blockSensitiveEndpoints : Bool) (span : Span δ) :
    Option (Option (Span δ) × Span δ) :=
  match shouldBlockSpan B blockSensitiveEndpoints span, getSpanUrl B span with
  | none, _ => none
  | some true, some (.text url) => some (some (recordSanitizedOutcome B span url), span)
  | some true, _ => some (none, span)
  | some false, some url =>
    if url.truthy B && isAuthEndpoint (url.toText B) then
      some (none, redactAllNonEssentialAttributes span)
    else some (none, span)
  | some false, none => some (none, span)

/-- A text with something in it. -/
def nonemptyText : Option (AttributeValue δ) → Option (List Char)
  | some (.text s) => if s = [] then none else some s
  | _ => none

/-- `getMethod`. -/
def getMethod (span : Span δ) : Option (List Char) :=
  ["http.method", "http.request.method"].findSome? fun key ↦ nonemptyText (span.get key)

/-- `extractPath`. -/
def extractPath (url : List Char) : Option (List Char) :=
  match B.pathname url with
  | some path => some (if path = [] then ['/'] else path)
  | none => if ['/'] <+: url then some url else none

/-- `getRoute`. -/
def getRoute (span : Span δ) : Option (List Char) :=
  match nonemptyText (span.get "http.route") with
  | some route => some route
  | none => ["http.target", "http.url", "url.full"].findSome? fun key ↦
      (nonemptyText (span.get key)).bind (extractPath B)

/-- `HttpRouteSpanProcessor.onEnd`, with the hash of the token that is there at once or arrives
before the span is exported. -/
def routeOnEnd (encryptedToken : Option (List Char)) (span : Span δ) : Span δ :=
  match getMethod span, getRoute B span with
  | some method, some route =>
    let normalizedRoute := if ['/'] <+: route then route else '/' :: route.dropWhile (· = '/')
    { name := method.flatMap M.upper ++ ' ' :: normalizedRoute
      attributes := match encryptedToken with
        | some hash => if hash = [] then span.attributes
          else AssocMap.insert "encrypted_token".toList (.text hash) span.attributes
        | none => span.attributes }
  | _, _ => span

/-- What is exported of a span that ends: the three processors, where the first one may end another
span. `none` when one of them throws, or when the fuel runs out. -/
def endSpan (blockSensitiveEndpoints : Bool) (encryptedToken : Option (List Char)) :
    ℕ → Span δ → Option (List (Span δ))
  | 0, _ => none
  | fuel + 1, span =>
    (sensitiveOnEnd B blockSensitiveEndpoints span).bind fun (audit, span) ↦
      let audited := match audit with
        | none => some []
        | some audit => endSpan blockSensitiveEndpoints encryptedToken fuel audit
      let span := routeOnEnd B M encryptedToken span
      audited.bind fun audited ↦ (shouldBlockSpan B blockSensitiveEndpoints span).map fun skip ↦
        if skip then audited else audited ++ [span]

end Processors

section Exports

variable {δ : Type} {B : Browser δ} {M : CaseMapping} {blockSensitiveEndpoints : Bool}
  {encryptedToken : Option (List Char)} {span span' : Span δ}

/-! ### Audit spans -/

/-- The attributes of an audit span. -/
def auditAttributes : List (List Char) :=
  ["http.method".toList, "http.status_code".toList, "provider".toList, "endpoint".toList]

theorem mem_auditAttributes {url : List Char} {a : List Char × AttributeValue δ}
    (ha : a ∈ (recordSanitizedOutcome B span url).attributes) : a.1 ∈ auditAttributes := by
  obtain ha | ha := List.mem_append.1 ha
  · obtain rfl | ha := List.mem_cons.1 ha
    · exact List.mem_cons_self
    obtain rfl | ha := List.mem_cons.1 ha
    · exact .tail _ List.mem_cons_self
    obtain rfl := List.mem_singleton.1 ha
    exact .tail _ (.tail _ List.mem_cons_self)
  · obtain ⟨endpoint, -, rfl⟩ := Option.map_eq_some_iff.1 (Option.mem_toList.1 ha)
    exact .tail _ (.tail _ (.tail _ List.mem_cons_self))

/-- An audit span has neither a URL nor a route. -/
theorem get_recordSanitizedOutcome (span : Span δ) (url : List Char) {key : String}
    (hkey : key.toList ∉ auditAttributes) : (recordSanitizedOutcome B span url).get key = none := by
  rw [Span.get, List.lookup_eq_none_iff]
  intro a ha
  rw [bne_iff_ne]
  intro heq
  exact hkey (heq ▸ mem_auditAttributes ha)

theorem getSpanUrl_recordSanitizedOutcome (span : Span δ) (url : List Char) :
    getSpanUrl B (recordSanitizedOutcome B span url) = none := by
  have hget (key : String) (hkey : key.toList ∉ auditAttributes) :
      (recordSanitizedOutcome B span url).get key = none :=
    get_recordSanitizedOutcome span url hkey
  rw [getSpanUrl, hget "http.url" (by decide), hget "url.full" (by decide),
    hget "http.target" (by decide)]
  rfl

theorem getRoute_recordSanitizedOutcome (span : Span δ) (url : List Char) :
    getRoute B (recordSanitizedOutcome B span url) = none := by
  have hget (key : String) (hkey : key.toList ∉ auditAttributes) :
      (recordSanitizedOutcome B span url).get key = none :=
    get_recordSanitizedOutcome span url hkey
  simp only [getRoute, List.findSome?_cons, List.findSome?_nil, hget "http.route" (by decide),
    hget "http.url" (by decide), hget "url.full" (by decide), hget "http.target" (by decide),
    nonemptyText, Option.bind_none]

/-- An audit span is exported as it is. -/
theorem endSpan_recordSanitizedOutcome (span : Span δ) (url : List Char) (fuel : ℕ) :
    endSpan B M blockSensitiveEndpoints encryptedToken (fuel + 1)
      (recordSanitizedOutcome B span url) = some [recordSanitizedOutcome B span url] := by
  have hblock : shouldBlockSpan B blockSensitiveEndpoints (recordSanitizedOutcome B span url) =
      some false := by
    rw [shouldBlockSpan, getSpanUrl_recordSanitizedOutcome]
    cases blockSensitiveEndpoints <;> rfl
  have hroute : routeOnEnd B M encryptedToken (recordSanitizedOutcome B span url) =
      recordSanitizedOutcome B span url := by
    unfold routeOnEnd
    rw [getRoute_recordSanitizedOutcome]
    cases getMethod (recordSanitizedOutcome B span url) <;> rfl
  rw [endSpan, sensitiveOnEnd, hblock, getSpanUrl_recordSanitizedOutcome]
  simp only [Option.bind_some, hroute, hblock, Option.map_some, List.nil_append]
  rfl

/-! ### The first processor -/

/-- What `SensitiveDataSpanProcessor.onEnd` does when it does not throw. -/
theorem sensitiveOnEnd_cases {result : Option (Span δ) × Span δ}
    (h : sensitiveOnEnd B blockSensitiveEndpoints span = some result) :
    (∃ url, shouldBlockSpan B blockSensitiveEndpoints span = some true ∧
        getSpanUrl B span = some (.text url) ∧
        result = (some (recordSanitizedOutcome B span url), span)) ∨
      (∃ url, shouldBlockSpan B blockSensitiveEndpoints span = some false ∧
        getSpanUrl B span = some url ∧ url.truthy B ∧ isAuthEndpoint (url.toText B) ∧
        result = (none, redactAllNonEssentialAttributes span)) ∨
      (∀ url, getSpanUrl B span = some url → url.truthy B → isAuthEndpoint (url.toText B) = false) ∧
        result = (none, span) := by
  unfold sensitiveOnEnd at h
  split at h
  · cases h
  · rename_i url hblock hurl
    exact .inl ⟨url, hblock, hurl, (Option.some.inj h).symm⟩
  · rename_i hblock hother
    -- only a text is blocked
    unfold shouldBlockSpan shouldBlockSpanForUrl at hblock
    split at hblock
    · cases hblock
    · split at hblock
      · rename_i url hurl
        exact absurd hurl (hother _)
      · cases hblock
  · rename_i url hblock hurl
    split at h
    · rename_i hauth
      rw [Bool.and_eq_true] at hauth
      exact .inr (.inl ⟨url, hblock, hurl, hauth.1, hauth.2, (Option.some.inj h).symm⟩)
    · rename_i hauth
      rw [Bool.and_eq_true, not_and] at hauth
      refine .inr (.inr ⟨fun url' hurl' htruthy ↦ ?_, (Option.some.inj h).symm⟩)
      obtain rfl : url = url' := Option.some.inj (hurl.symm.trans hurl')
      exact Bool.eq_false_iff.2 (hauth htruthy)
  · rename_i hblock hurl
    refine .inr (.inr ⟨fun url hurl' ↦ ?_, (Option.some.inj h).symm⟩)
    rw [hurl] at hurl'
    cases hurl'

/-- An audit span is not audited itself, so two levels of fuel are enough. -/
theorem endSpan_add_two (fuel : ℕ) (span : Span δ) :
    endSpan B M blockSensitiveEndpoints encryptedToken (fuel + 2) span =
      endSpan B M blockSensitiveEndpoints encryptedToken 2 span := by
  rw [endSpan, endSpan]
  cases hsensitive : sensitiveOnEnd B blockSensitiveEndpoints span with
  | none => rfl
  | some result =>
    obtain ⟨url, -, -, rfl⟩ | ⟨-, -, -, -, -, rfl⟩ | ⟨-, rfl⟩ :=
      sensitiveOnEnd_cases hsensitive
    · simp only [Option.bind_some, endSpan_recordSanitizedOutcome]
    · rfl
    · rfl

/-! ### What is exported -/

/-- The hash of the token is no URL. -/
theorem getSpanUrl_routeOnEnd (span : Span δ) :
    getSpanUrl B (routeOnEnd B M encryptedToken span) = getSpanUrl B span := by
  have hget (key : String) (hkey : key.toList ≠ "encrypted_token".toList) :
      (routeOnEnd B M encryptedToken span).get key = span.get key := by
    unfold routeOnEnd Span.get
    split
    · cases encryptedToken with
      | none => rfl
      | some hash =>
        dsimp only
        split
        · rfl
        · have hlookup := AssocMap.lookup_insert "encrypted_token".toList key.toList
            (.text hash) span.attributes
          rw [if_neg hkey] at hlookup
          convert hlookup
    · rfl
  rw [getSpanUrl, hget "http.url" (by decide), hget "url.full" (by decide),
    hget "http.target" (by decide), getSpanUrl]

/-- Of a blocked span the audit span is exported, and nothing else. -/
theorem endSpan_of_blocked {url : List Char}
    (hblock : shouldBlockSpan B blockSensitiveEndpoints span = some true)
    (hurl : getSpanUrl B span = some (.text url)) :
    endSpan B M blockSensitiveEndpoints encryptedToken 2 span =
      some [recordSanitizedOutcome B span url] := by
  have hroute : shouldBlockSpan B blockSensitiveEndpoints (routeOnEnd B M encryptedToken span) =
      some true := by
    rw [shouldBlockSpan, getSpanUrl_routeOnEnd]
    exact hblock
  rw [endSpan, sensitiveOnEnd, hblock, hurl]
  simp only [Option.bind_some, endSpan_recordSanitizedOutcome, hroute, Option.map_some, if_true]

/-- What is exported of a span when the first processor leaves `rest` and no audit span. -/
def exportRest (B : Browser δ) (M : CaseMapping) (blockSensitiveEndpoints : Bool)
    (encryptedToken : Option (List Char)) (rest : Span δ) : Option (List (Span δ)) :=
  (shouldBlockSpan B blockSensitiveEndpoints rest).map fun skip ↦
    if skip then [] else [routeOnEnd B M encryptedToken rest]

theorem endSpan_of_rest {rest : Span δ} {fuel : ℕ}
    (h : sensitiveOnEnd B blockSensitiveEndpoints span = some (none, rest)) :
    endSpan B M blockSensitiveEndpoints encryptedToken (fuel + 1) span =
      exportRest B M blockSensitiveEndpoints encryptedToken rest := by
  have hblock : shouldBlockSpan B blockSensitiveEndpoints (routeOnEnd B M encryptedToken rest) =
      shouldBlockSpan B blockSensitiveEndpoints rest := by
    unfold shouldBlockSpan
    rw [getSpanUrl_routeOnEnd]
  rw [endSpan, h, exportRest, ← hblock]
  rfl

/-- A call of an endpoint that exchanges tokens. -/
def IsExchange (B : Browser δ) (span : Span δ) (url : List Char) : Prop :=
  getSpanUrl B span = some (.text url) ∧ isSensitiveEndpoint url

/-- A call of an endpoint of authentication that exchanges no tokens. -/
def IsAuthentication (B : Browser δ) (span : Span δ) : Prop :=
  ∃ url, getSpanUrl B span = some (.text url) ∧ isSensitiveEndpoint url = false ∧
    isAuthEndpoint url

theorem IsExchange.ne_nil {url : List Char} (h : isSensitiveEndpoint url) : url ≠ [] := by
  rintro rfl
  revert h
  decide

theorem IsExchange.shouldBlockSpan {url : List Char} (h : IsExchange B span url) :
    shouldBlockSpan B true span = some true := by
  have htruthy : Option.any (AttributeValue.truthy B) (some (.text url)) = true :=
    decide_eq_true (IsExchange.ne_nil h.2)
  unfold Frontend.shouldBlockSpan shouldBlockSpanForUrl
  rw [h.1, if_neg (by rw [htruthy]; decide)]
  exact congrArg some h.2

theorem IsAuthentication.sensitiveOnEnd (h : IsAuthentication B span) :
    sensitiveOnEnd B true span = some (none, redactAllNonEssentialAttributes span) := by
  obtain ⟨url, hurl, hsensitive, hauth⟩ := h
  have hne : url ≠ [] := by
    rintro rfl
    revert hauth
    decide
  have htruthy : AttributeValue.truthy B (.text url) = true := decide_eq_true hne
  have hblock : shouldBlockSpan B true span = some false := by
    unfold shouldBlockSpan shouldBlockSpanForUrl
    rw [hurl, if_neg (by rw [Option.any_some, htruthy]; decide)]
    exact congrArg some hsensitive
  unfold Frontend.sensitiveOnEnd
  simp only [hblock, hurl]
  exact if_pos (by rw [htruthy]; exact hauth)

/-- Two spans that agree in what is meant to be released: they are the same, or both exchange
tokens with the same provider and end in the same way, or both are calls of authentication with the
same essential attributes up to the tokens in their texts. -/
inductive SameRelease (B : Browser δ) (span span' : Span δ) : Prop
  | same (h : span = span')
  | exchange (url url' : List Char) (h : IsExchange B span url) (h' : IsExchange B span' url')
    (plaid : "/plaid/".toList <:+: url ↔ "/plaid/".toList <:+: url')
    (teller : "/teller/".toList <:+: url ↔ "/teller/".toList <:+: url')
    (connect : "/connect".toList <:+: url ↔ "/connect".toList <:+: url')
    (outcome : ∀ key ∈ ["http.method", "http.request.method", "http.status_code",
      "http.response.status_code"], span.get key = span'.get key)
  | authentication (h : IsAuthentication B span) (h' : IsAuthentication B span')
    (name : span.name = span'.name)
    (essential : List.Forall₂ (fun a a' ↦ a.1 = a'.1 ∧ redactValue a.2 = redactValue a'.2)
      (span.attributes.filter fun a ↦ a.1 ∈ essentialAttributes)
      (span'.attributes.filter fun a ↦ a.1 ∈ essentialAttributes))

theorem redactAll_congr (hname : span.name = span'.name)
    (h : List.Forall₂ (fun a a' ↦ a.1 = a'.1 ∧ redactValue a.2 = redactValue a'.2)
      (span.attributes.filter fun a ↦ a.1 ∈ essentialAttributes)
      (span'.attributes.filter fun a ↦ a.1 ∈ essentialAttributes)) :
    redactAllNonEssentialAttributes span = redactAllNonEssentialAttributes span' := by
  have hmap {l l' : List (List Char × AttributeValue δ)}
      (h : List.Forall₂ (fun a a' ↦ a.1 = a'.1 ∧ redactValue a.2 = redactValue a'.2) l l') :
      l.map (fun a ↦ (a.1, redactValue a.2)) = l'.map fun a ↦ (a.1, redactValue a.2) := by
    induction h with
    | nil => rfl
    | cons ha h ih => rw [List.map_cons, List.map_cons, ih, ha.1, ha.2]
  rw [redactAllNonEssentialAttributes, redactAllNonEssentialAttributes, hmap h, hname]

theorem auditProvider_congr {url url' : List Char}
    (plaid : "/plaid/".toList <:+: url ↔ "/plaid/".toList <:+: url')
    (teller : "/teller/".toList <:+: url ↔ "/teller/".toList <:+: url') :
    auditProvider url = auditProvider url' := by
  unfold auditProvider
  by_cases hplaid : "/plaid/".toList <:+: url
  · rw [if_pos hplaid, if_pos (plaid.1 hplaid)]
  rw [if_neg hplaid, if_neg (mt plaid.2 hplaid)]
  by_cases hteller : "/teller/".toList <:+: url
  · rw [if_pos hteller, if_pos (teller.1 hteller)]
  · rw [if_neg hteller, if_neg (mt teller.2 hteller)]

theorem getEndpointKey_congr {url url' : List Char}
    (connect : "/connect".toList <:+: url ↔ "/connect".toList <:+: url') :
    getEndpointKey url = getEndpointKey url' := by
  funext provider
  unfold getEndpointKey
  exact if_congr Iff.rfl rfl (if_congr (and_congr_right fun _ ↦ connect) rfl rfl)

/-- Spans that agree in what is meant to be released are exported in the same way. -/
theorem endSpan_congr (h : SameRelease B span span') :
    endSpan B M true encryptedToken 2 span = endSpan B M true encryptedToken 2 span' := by
  cases h with
  | same h => rw [h]
  | exchange url url' h h' plaid teller connect outcome =>
    have hmethod : auditMethod span = auditMethod span' :=
      congrArg₂ (fun value value' ↦ Option.getD value (Option.getD value' _))
        (outcome _ (.head _)) (outcome _ (.tail _ (.head _)))
    have hstatus : auditStatus B span = auditStatus B span' :=
      congrArg₂ (fun value value' ↦ Option.getD value (Option.getD value' _))
        (outcome _ (.tail _ (.tail _ (.head _))))
        (outcome _ (.tail _ (.tail _ (.tail _ (.head _)))))
    have haudit : recordSanitizedOutcome B span url = recordSanitizedOutcome B span' url' := by
      unfold recordSanitizedOutcome
      rw [hmethod, hstatus, auditProvider_congr plaid teller, getEndpointKey_congr connect]
    exact (endSpan_of_blocked h.shouldBlockSpan h.1).trans
      ((congrArg (fun audit ↦ some [audit]) haudit).trans
        (endSpan_of_blocked h'.shouldBlockSpan h'.1).symm)
  | authentication h h' name essential =>
    rw [endSpan_of_rest h.sensitiveOnEnd, endSpan_of_rest h'.sensitiveOnEnd,
      redactAll_congr name essential]

/-- What ended spans, each with the hash of the token at its time, lead to. -/
def exports (B : Browser δ) (M : CaseMapping) (spans : List (Span δ × Option (List Char))) :
    List (Option (List (Span δ))) :=
  spans.map fun s ↦ endSpan B M true s.2 2 s.1

/-- The exchange of a token, with the token in the query. -/
def exchangeSpan (token : String) : Span ℕ :=
  ⟨"HTTP POST".toList,
    [("http.url".toList, .text ("/api/plaid/exchange-token?public_token=".toList ++ token.toList)),
      ("http.status_code".toList, .other 200), ("http.body".toList, .text token.toList)]⟩

/-- A browser that knows paths only, with numbers as the values that are no texts. -/
def pathBrowser : Browser ℕ where
  truthy n := n ≠ 0
  toText n := (toString n).toList
  zero := 0
  pathname url := if ['/'] <+: url then some (stripQueryAndFragment url) else none

theorem isExchange_exchangeSpan (token : String) : IsExchange pathBrowser (exchangeSpan token)
    ("/api/plaid/exchange-token?public_token=".toList ++ token.toList) :=
  ⟨rfl, rfl⟩

theorem get_exchangeSpan (token token' : String) {key : String}
    (hkey : key ∈ ["http.method", "http.request.method", "http.status_code",
      "http.response.status_code"]) :
    (exchangeSpan token).get key = (exchangeSpan token').get key := by
  simp only [List.mem_cons, List.not_mem_nil, or_false] at hkey
  obtain rfl | rfl | rfl | rfl := hkey <;> rfl

theorem shouldBlockSpan_eq_true_iff :
    shouldBlockSpan B true span = some true ↔ ∃ url, IsExchange B span url := by
  constructor
  · intro h
    unfold shouldBlockSpan shouldBlockSpanForUrl at h
    split at h
    · cases h
    · split at h
      · rename_i url hurl
        exact ⟨url, hurl, Option.some.inj h⟩
      · cases h
  · rintro ⟨url, h⟩
    exact h.shouldBlockSpan

/-- What is neither blocked nor empty is a text. -/
theorem eq_text_of_not_blocked {value : AttributeValue δ}
    (hblock : shouldBlockSpan B true span = some false) (hurl : getSpanUrl B span = some value)
    (htruthy : value.truthy B) : ∃ url, value = .text url ∧ isSensitiveEndpoint url = false := by
  unfold shouldBlockSpan shouldBlockSpanForUrl at hblock
  rw [hurl, if_neg (by rw [Option.any_some, htruthy]; decide)] at hblock
  cases value with
  | text url => exact ⟨url, rfl, Option.some.inj hblock⟩
  | other value => cases hblock

/-- What a span that is exported has to do with the span that has ended. -/
inductive Released (B : Browser δ) (span exported : Span δ) : Prop
  | exchange (url : List Char) (h : IsExchange B span url)
    (audit : exported = recordSanitizedOutcome B span url)
  | authentication (h : IsAuthentication B span)
    (essential : ∀ a ∈ exported.attributes, a.1 = "encrypted_token".toList ∨
      a.1 ∈ essentialAttributes ∧ ∃ value, (a.1, value) ∈ span.attributes ∧ a.2 = redactValue value)
  | other (h : ∀ url, ¬IsExchange B span url) (h' : ¬IsAuthentication B span)
    (attributes : ∀ a ∈ exported.attributes, a.1 = "encrypted_token".toList ∨ a ∈ span.attributes)

theorem mem_routeOnEnd {a : List Char × AttributeValue δ}
    (ha : a ∈ (routeOnEnd B M encryptedToken span).attributes) :
    a.1 = "encrypted_token".toList ∨ a ∈ span.attributes := by
  unfold routeOnEnd at ha
  split at ha
  · cases encryptedToken with
    | none => exact .inr ha
    | some hash =>
      dsimp only at ha
      split at ha
      · exact .inr ha
      · obtain rfl | ha := AssocMap.mem_insert ha
        · exact .inl rfl
        · exact .inr ha
  · exact .inr ha

/-- What is exported of a rest is not blocked. -/
theorem mem_exportRest {rest out : Span δ} {exported : List (Span δ)}
    (h : exportRest B M true encryptedToken rest = some exported) (hout : out ∈ exported) :
    out = routeOnEnd B M encryptedToken rest ∧ ∀ url, ¬IsExchange B out url := by
  obtain ⟨skip, hskip, rfl⟩ := Option.map_eq_some_iff.1 h
  cases skip with
  | true => cases hout
  | false =>
    obtain rfl := List.mem_singleton.1 hout
    refine ⟨rfl, fun url hurl ↦ ?_⟩
    have hblock := shouldBlockSpan_eq_true_iff.2 ⟨url, hurl⟩
    rw [shouldBlockSpan, getSpanUrl_routeOnEnd] at hblock
    exact absurd (hskip.symm.trans hblock) (by decide)

end Exports

end Sumurai.Frontend
