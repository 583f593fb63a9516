import Sumurai.Foundations.CaseMapping
import Sumurai.Foundations.FormEncoding
import Sumurai.Foundations.Words
import Mathlib.Data.Option.Basic

/-!
# URLs and the parameters of their queries

The URL standard, as far as queries go. The parser reads the text before the first `?` and `#` on
its own, knowing of the rest only whether it is there: what it makes of that text is a parameter
(`UrlBase`). The query and the fragment are percent-encoded, and the parameters are read from the
query (`Url.ofString`). When a parameter is set the query is written anew (`Url.set`).

Two texts that differ only in the values of some parameters (`Url.DifferIn`) are both URLs or both
not, with the same parameters up to these values (`Url.ofString_of_differIn`).
-/

/-- What stands before the query, written out, and whether the scheme is a special one. -/
structure UrlBase where
  href : List Char
  isSpecial : Bool

/-- A URL, with the parameters of its query. -/
@[ext]
structure Url where
  base : List Char
  query : Option (List Char)
  fragment : Option (List Char)
  params : List (List Char × List Char)

namespace Url

/-! ### The parser -/

/-- What is removed at both ends: control characters and spaces. -/
def isControlOrSpace (c : Char) : Bool :=
  c.toNat ≤ 0x20

/-- What is removed everywhere. -/
def isTabOrNewline (c : Char) : Bool :=
  c ∈ ['\t', '\n', '\r']

/-- Without tabs and newlines. -/
def untabbed (s : List Char) : List Char :=
  s.filter fun c ↦ !isTabOrNewline c

/-- What the parser reads of its input. -/
def clean (input : List Char) : List Char :=
  untabbed (Text.strip isControlOrSpace input)

/-- What is before a character, and what is after it if it is there. -/
def cut (c : Char) (s : List Char) : List Char × Option (List Char) :=
  (s.takeWhile (· ≠ c), if c ∈ s then some ((s.dropWhile (· ≠ c)).drop 1) else none)

/-- The query percent-encode set, with `'` if the scheme is a special one. -/
def querySet (isSpecial : Bool) (b : ℕ) : Bool :=
  b ≤ 0x1F || 0x7E < b || b ∈ [0x20, 0x22, 0x23, 0x3C, 0x3E] || (isSpecial && b = 0x27)

/-- The fragment percent-encode set. -/
def fragmentSet (b : ℕ) : Bool :=
  b ≤ 0x1F || 0x7E < b || b ∈ [0x20, 0x22, 0x3C, 0x3E, 0x60]

/-- The parser. `parseBase` reads what is before the query and the fragment, and whether these are
there. -/
def ofString (parseBase : List Char → Bool → Bool → Option UrlBase) (input : List Char) :
    Option Url :=
  let (s, fragment) := cut '#' (clean input)
  let (before, query) := cut '?' s
  (parseBase before query.isSome fragment.isSome).map fun base ↦
    let query := query.map (percentEncode (querySet base.isSpecial))
    { base := base.href
      query := query
      fragment := fragment.map (percentEncode fragmentSet)
      params := formParse (query.getD []) }

/-- `href`. -/
def href (url : Url) : List Char :=
  url.base ++ (url.query.elim [] fun query ↦ '?' :: query) ++
    url.fragment.elim [] fun fragment ↦ '#' :: fragment

/-! ### Parameters -/

/-- `searchParams.has`. -/
def has (name : List Char) (url : Url) : Bool :=
  url.params.any fun p ↦ p.1 = name

/-- The first parameter of a name gets the value, and the others are removed. -/
def setFirst (name value : List Char) : List (List Char × List Char) → List (List Char × List Char)
  | [] => []
  | p :: params =>
    if p.1 = name then (name, value) :: params.filter fun q ↦ q.1 ≠ name
    else p :: setFirst name value params

/-- The query that is written for parameters. -/
def queryOf (params : List (List Char × List Char)) : Option (List Char) :=
  if formSerialize params = [] then none else some (formSerialize params)

/-- `searchParams.set`. -/
def set (name value : List Char) (url : Url) : Url :=
  let params :=
    if url.has name then setFirst name value url.params else url.params ++ [(name, value)]
  { url with params := params, query := queryOf params }

/-! ### Texts with a query -/

/-- A text with a query: what is before it, its pieces, and the fragment with its `#`. -/
structure HasParts (u before : List Char) (pieces : List (List Char)) (rest : List Char) :
    Prop where
  eq : u = before ++ '?' :: (['&'].intercalate pieces ++ rest)
  before_notMem : '?' ∉ before ∧ '#' ∉ before
  pieces_notMem : ∀ piece ∈ pieces, '&' ∉ piece ∧ '#' ∉ piece
  rest_head : ∀ c ∈ rest.head?, c = '#'

/-- Pieces that give values to the same parameter, which has one of the names. -/
def SameNamed (names : List (List Char)) (piece piece' : List Char) : Prop :=
  ∃ name value value', piece = name ++ '=' :: value ∧ piece' = name ++ '=' :: value' ∧
    '=' ∉ name ∧ formDecode (untabbed name) ∈ names

/-- Pieces that differ at most in the value of a parameter with one of the names. -/
def SamePiece (names : List (List Char)) (piece piece' : List Char) : Prop :=
  piece = piece' ∨ SameNamed names piece piece'

/-- Texts that differ at most in the values of parameters with the names. -/
def DifferIn (names : List (List Char)) (u u' : List Char) : Prop :=
  ∃ before pieces pieces' rest, HasParts u before pieces rest ∧ HasParts u' before pieces' rest ∧
    List.Forall₂ (SamePiece names) pieces pieces'

/-- A text with a value of a parameter with one of the names. -/
def HasNamed (names : List (List Char)) (u : List Char) : Prop :=
  ∃ before pieces rest, HasParts u before pieces rest ∧
    ∃ piece ∈ pieces, SameNamed names piece piece

/-! ### What the parser makes of a text -/

section Parse

/-- The pieces, the last one stripped if the text ends with it. -/
def trimLast : List (List Char) → List (List Char)
  | [] => []
  | [piece] => [piece.rdropWhile isControlOrSpace]
  | piece :: next :: pieces => piece :: trimLast (next :: pieces)

/-- The pieces that the parser reads. -/
def readPieces (pieces : List (List Char)) (rest : List Char) : List (List Char) :=
  if rest = [] then trimLast pieces else pieces

/-- What is read of a piece. -/
def pieceParams (isSpecial : Bool) (piece : List Char) : List (List Char × List Char) :=
  formPiece (percentEncode (querySet isSpecial) (untabbed piece))

theorem dropWhile_append_cons {p : Char → Bool} {c : Char} (hc : p c = false) (s t : List Char) :
    (s ++ c :: t).dropWhile p = s.dropWhile p ++ c :: t := by
  induction s with
  | nil => rw [List.nil_append, List.dropWhile_nil, List.dropWhile_cons_of_neg (by simp [hc])]; rfl
  | cons d s ih =>
    rw [List.cons_append, List.dropWhile_cons, List.dropWhile_cons]
    split
    · exact ih
    · rfl

theorem rdropWhile_append_cons {p : Char → Bool} {c : Char} (hc : p c = false) (s t : List Char) :
    (s ++ c :: t).rdropWhile p = s ++ c :: t.rdropWhile p := by
  have hreverse : (s ++ c :: t).reverse = t.reverse ++ c :: s.reverse := by simp
  rw [List.rdropWhile, hreverse, dropWhile_append_cons hc, List.reverse_append, List.reverse_cons,
    List.reverse_reverse, List.append_assoc, List.rdropWhile]
  rfl

theorem rdropWhile_intercalate (pieces : List (List Char)) :
    (['&'].intercalate pieces).rdropWhile isControlOrSpace =
      ['&'].intercalate (trimLast pieces) := by
  induction pieces with
  | nil => rfl
  | cons piece pieces ih =>
    cases pieces with
    | nil => rw [List.intercalate_singleton, trimLast, List.intercalate_singleton]
    | cons next pieces =>
      obtain ⟨last, lasts, hlast⟩ : ∃ last lasts, trimLast (next :: pieces) = last :: lasts := by
        cases pieces with
        | nil => exact ⟨_, _, rfl⟩
        | cons later pieces => exact ⟨_, _, rfl⟩
      rw [List.intercalate_cons_cons, List.append_assoc, List.singleton_append,
        rdropWhile_append_cons (by decide), ih, trimLast, hlast, List.intercalate_cons_cons,
        List.append_assoc, List.singleton_append]

/-- What is done with a text is done with the pieces. -/
theorem map_intercalate {f : List Char → List Char} (happend : ∀ s t, f (s ++ t) = f s ++ f t)
    (hsep : f ['&'] = ['&']) (pieces : List (List Char)) :
    f (['&'].intercalate pieces) = ['&'].intercalate (pieces.map f) := by
  induction pieces with
  | nil => exact List.self_eq_append_right.1 (happend [] [])
  | cons piece pieces ih =>
    cases pieces with
    | nil => rw [List.map_singleton, List.intercalate_singleton, List.intercalate_singleton]
    | cons next pieces =>
      rw [List.map_cons, List.map_cons, List.intercalate_cons_cons, List.intercalate_cons_cons,
        happend, happend, ih, hsep, List.map_cons]

theorem untabbed_append (s t : List Char) : untabbed (s ++ t) = untabbed s ++ untabbed t :=
  List.filter_append s t

theorem mem_of_mem_untabbed {c : Char} {s : List Char} (h : c ∈ untabbed s) : c ∈ s :=
  (List.mem_filter.1 h).1

theorem percentEncode_append (inSet : ℕ → Bool) (s t : List Char) :
    percentEncode inSet (s ++ t) = percentEncode inSet s ++ percentEncode inSet t :=
  List.flatMap_append

theorem cut_append_cons {c : Char} {s : List Char} (hc : c ∉ s) (t : List Char) :
    cut c (s ++ c :: t) = (s, some t) := by
  have hall : ∀ d ∈ s, decide (d ≠ c) = true := fun d hd ↦
    decide_eq_true fun heq ↦ hc (heq ▸ hd)
  rw [cut, List.takeWhile_append_of_pos hall, List.takeWhile_cons_of_neg (by simp),
    List.dropWhile_append_of_pos hall, List.dropWhile_cons_of_neg (by simp), List.append_nil,
    if_pos (List.mem_append_right s List.mem_cons_self)]
  rfl

theorem cut_of_notMem {c : Char} {s : List Char} (hc : c ∉ s) : cut c s = (s, none) := by
  have hall : ∀ d ∈ s, decide (d ≠ c) = true := fun d hd ↦
    decide_eq_true fun heq ↦ hc (heq ▸ hd)
  rw [cut, if_neg hc, List.takeWhile_eq_self_iff.2 hall]

theorem isEncodeSet_querySet (isSpecial : Bool) : IsEncodeSet (querySet isSpecial) := by
  have hall : ∀ isSpecial, ∀ b < 0x7F, querySet isSpecial b = true →
      hexValue b = none ∧ b ≠ 0x25 ∧ b ≠ 0x2B := by decide
  have hother : ∀ b, 0x7F ≤ b → hexValue b = none ∧ b ≠ 0x25 ∧ b ≠ 0x2B := by
    intro b hb
    refine ⟨?_, by omega, by omega⟩
    unfold hexValue
    split_ifs <;> first | omega | rfl
  have hboth (b : ℕ) (hb : querySet isSpecial b = true) :
      hexValue b = none ∧ b ≠ 0x25 ∧ b ≠ 0x2B :=
    (Nat.lt_or_ge b 0x7F).elim (fun hlt ↦ hall isSpecial b hlt hb) (hother b)
  refine ⟨fun hb ↦ (hboth _ hb).1, fun hb ↦ (hboth _ hb).2.1, fun hb ↦ (hboth _ hb).2.2, ?_⟩
  intro b hb
  simp only [querySet, Bool.or_eq_false_iff, decide_eq_false_iff_not] at hb
  omega

/-- A percent-encoded text has `%`, digits, and characters of the text. -/
theorem mem_of_mem_percentEncode {inSet : ℕ → Bool} (h : IsEncodeSet inSet) {s : List Char}
    {c : Char} (hc : c ∈ percentEncode inSet s) (hhex : hexValue c.toNat = none)
    (hpercent : c.toNat ≠ 0x25) : c ∈ s := by
  have htoNat : ∀ b < 0x80, (Char.ofNat b).toNat = b := by decide
  obtain ⟨d, hd, hc⟩ := List.mem_flatMap.1 hc
  obtain ⟨e, he, rfl⟩ := List.mem_map.1 hc
  obtain ⟨b, hb, he⟩ := List.mem_flatMap.1 he
  have hlt := lt_of_mem_utf8 hb
  unfold percentEncodeByte at he
  split at he
  · have hdigit {n : ℕ} (hn : n < 16) (heq : e = hexDigit n) : False := by
      rw [heq, htoNat _ (hexDigit_lt hn).1, hexValue_hexDigit hn] at hhex
      exact Option.some_ne_none n hhex
    simp only [List.mem_cons, List.not_mem_nil, or_false] at he
    obtain heq | heq | heq := he
    · rw [heq] at hpercent
      exact absurd rfl hpercent
    · exact (hdigit (by omega) heq).elim
    · exact (hdigit (by omega) heq).elim
  · rename_i hnot
    rw [List.mem_singleton.1 he]
    have hascii := h.lt_of_notMem (Bool.eq_false_iff.2 hnot)
    rw [← eq_of_mem_utf8CodePoint hb hascii, Char.ofNat_toNat]
    exact hd

variable {names : List (List Char)} {u u' before rest piece piece' : List Char}
  {pieces pieces' : List (List Char)}

/-- What is read of the fragment. -/
def readFragment (rest : List Char) : Option (List Char) :=
  if rest = [] then none else some (untabbed ((rest.drop 1).rdropWhile isControlOrSpace))

/-- What is read of a text with a query, without the fragment. -/
theorem HasParts.clean_eq (h : HasParts u before pieces rest) :
    clean u = untabbed (before.dropWhile isControlOrSpace) ++ '?' ::
      (['&'].intercalate ((readPieces pieces rest).map untabbed) ++
        (readFragment rest).elim [] fun fragment ↦ '#' :: fragment) := by
  have hquery {t : List Char} : untabbed ('?' :: t) = '?' :: untabbed t := rfl
  have hhash {t : List Char} : untabbed ('#' :: t) = '#' :: untabbed t := rfl
  have hpieces {pieces : List (List Char)} : untabbed (['&'].intercalate pieces) =
      ['&'].intercalate (pieces.map untabbed) := map_intercalate untabbed_append rfl pieces
  rw [clean, Text.strip, h.eq, dropWhile_append_cons (by decide),
    rdropWhile_append_cons (by decide), untabbed_append, hquery]
  obtain - | ⟨c, fragment⟩ := rest
  · rw [List.append_nil, rdropWhile_intercalate, hpieces]
    exact congrArg _ (congrArg _ (List.append_nil _).symm)
  · obtain rfl := h.rest_head c rfl
    rw [rdropWhile_append_cons (by decide), untabbed_append, hpieces, hhash]
    rfl

theorem mem_readPieces {c : Char} (hpiece : piece ∈ readPieces pieces rest) (hc : c ∈ piece) :
    ∃ piece ∈ pieces, c ∈ piece := by
  have htrim : ∀ {pieces : List (List Char)} {piece : List Char}, piece ∈ trimLast pieces →
      c ∈ piece → ∃ piece ∈ pieces, c ∈ piece := by
    intro pieces
    induction pieces with
    | nil => exact fun hmem ↦ absurd hmem List.not_mem_nil
    | cons first pieces ih =>
      intro piece hmem hc
      cases pieces with
      | nil =>
        rw [List.mem_singleton.1 hmem] at hc
        exact ⟨first, List.mem_cons_self, (List.rdropWhile_prefix _ _).subset hc⟩
      | cons next pieces =>
        obtain rfl | hmem := List.mem_cons.1 hmem
        · exact ⟨piece, List.mem_cons_self, hc⟩
        · obtain ⟨piece, hpiece, hc⟩ := ih hmem hc
          exact ⟨piece, List.mem_cons_of_mem _ hpiece, hc⟩
  unfold readPieces at hpiece
  split at hpiece
  · exact htrim hpiece hc
  · exact ⟨piece, hpiece, hc⟩

/-- The parameters of a query are those of its pieces. -/
theorem formParse_percentEncode (isSpecial : Bool) (hpieces : ∀ piece ∈ pieces, '&' ∉ piece) :
    formParse (percentEncode (querySet isSpecial) (['&'].intercalate (pieces.map untabbed))) =
      pieces.flatMap (pieceParams isSpecial) := by
  obtain - | ⟨first, later⟩ := pieces
  · rfl
  · have hsep : percentEncode (querySet isSpecial) ['&'] = ['&'] := by
      cases isSpecial <;> decide
    rw [map_intercalate (percentEncode_append _) hsep, formParse, List.map_map,
      Text.splitOnP_intercalate (by simp) (by simp), List.flatMap_map]
    · rfl
    · intro word hword c hc
      obtain ⟨piece, hpiece, rfl⟩ := List.mem_map.1 hword
      refine decide_eq_false fun heq ↦ ?_
      subst heq
      exact hpieces piece hpiece (mem_of_mem_untabbed
        (mem_of_mem_percentEncode (isEncodeSet_querySet isSpecial) hc (by decide) (by decide)))

/-- What the parser makes of a text with a query. -/
theorem HasParts.ofString_eq (h : HasParts u before pieces rest)
    (parseBase : List Char → Bool → Bool → Option UrlBase) : ofString parseBase u =
      (parseBase (untabbed (before.dropWhile isControlOrSpace)) true
        (readFragment rest).isSome).map fun base ↦
        { base := base.href
          query := some (percentEncode (querySet base.isSpecial)
            (['&'].intercalate ((readPieces pieces rest).map untabbed)))
          fragment := (readFragment rest).map (percentEncode fragmentSet)
          params := (readPieces pieces rest).flatMap (pieceParams base.isSpecial) } := by
  have hbefore {c : Char} (hc : c ∉ before) :
      c ∉ untabbed (before.dropWhile isControlOrSpace) := fun hmem ↦
    hc ((List.dropWhile_suffix _).subset (mem_of_mem_untabbed hmem))
  have hread {c : Char} (hc : ∀ piece ∈ pieces, c ∉ piece) :
      ∀ piece ∈ readPieces pieces rest, c ∉ piece := by
    intro piece hpiece hmem
    obtain ⟨piece, hpiece, hmem⟩ := mem_readPieces hpiece hmem
    exact hc piece hpiece hmem
  have hquery : '#' ∉ ['&'].intercalate ((readPieces pieces rest).map untabbed) := by
    refine Text.notMem_intercalate (by decide) fun piece hpiece hmem ↦ ?_
    obtain ⟨source, hsource, rfl⟩ := List.mem_map.1 hpiece
    exact hread (fun p hp ↦ (h.pieces_notMem p hp).2) source hsource (mem_of_mem_untabbed hmem)
  have hhash : '#' ∉ untabbed (before.dropWhile isControlOrSpace) ++ '?' ::
      ['&'].intercalate ((readPieces pieces rest).map untabbed) := by
    simp only [List.mem_append, List.mem_cons, hbefore h.before_notMem.2, hquery, or_false]
    decide
  have hcut : cut '#' (clean u) = (untabbed (before.dropWhile isControlOrSpace) ++ '?' ::
      ['&'].intercalate ((readPieces pieces rest).map untabbed), readFragment rest) := by
    rw [h.clean_eq]
    cases hfragment : readFragment rest with
    | none =>
      rw [Option.elim_none, List.append_nil]
      exact cut_of_notMem hhash
    | some fragment =>
      rw [Option.elim_some, ← List.cons_append, ← List.append_assoc]
      exact cut_append_cons hhash fragment
  rw [ofString, hcut]
  simp only [cut_append_cons (hbefore h.before_notMem.1), Option.isSome_some, Option.map_some,
    Option.getD_some, formParse_percentEncode _ (hread fun p hp ↦ (h.pieces_notMem p hp).1)]

/-! ### Two texts -/

/-- Parameters that differ at most in the value of one with one of the names. -/
def SameParam (names : List (List Char)) (p p' : List Char × List Char) : Prop :=
  p = p' ∨ p.1 = p'.1 ∧ p.1 ∈ names

/-- URLs that differ at most in the values of parameters with the names. Their queries may differ
as long as there is such a parameter, and otherwise are the same or written from the parameters. -/
structure Alike (names : List (List Char)) (url url' : Url) : Prop where
  base : url.base = url'.base
  fragment : url.fragment = url'.fragment
  params : List.Forall₂ (SameParam names) url.params url'.params
  query : url.query = queryOf url.params ∧ url'.query = queryOf url'.params ∨
    ∃ p ∈ url.params, p.1 ∈ names

theorem untabbed_named (name value : List Char) :
    untabbed (name ++ '=' :: value) = untabbed name ++ '=' :: untabbed value :=
  untabbed_append name ('=' :: value)

theorem SameNamed.rdropWhile (h : SameNamed names piece piece') :
    SameNamed names (piece.rdropWhile isControlOrSpace)
      (piece'.rdropWhile isControlOrSpace) := by
  obtain ⟨name, value, value', rfl, rfl, hname, hmem⟩ := h
  exact ⟨name, _, _, rdropWhile_append_cons (by decide) name value,
    rdropWhile_append_cons (by decide) name value', hname, hmem⟩

/-- Pieces that stay the same but for a value, one by one. -/
theorem forall₂_readPieces (h : List.Forall₂ (SamePiece names) pieces pieces')
    (rest : List Char) :
    List.Forall₂ (SamePiece names) (readPieces pieces rest) (readPieces pieces' rest) := by
  have htrim : List.Forall₂ (SamePiece names) (trimLast pieces) (trimLast pieces') := by
    induction h with
    | nil => exact .nil
    | @cons p p' pieces pieces' hp h ih =>
      cases h with
      | cons hnext h => exact .cons hp ih
      | nil =>
        refine .cons ?_ .nil
        obtain rfl | hp := hp
        · exact .inl rfl
        · exact .inr hp.rdropWhile
  unfold readPieces
  split
  · exact htrim
  · exact h

/-- A value is still given where the last piece is stripped. -/
theorem exists_mem_readPieces (h : ∃ piece ∈ pieces, SameNamed names piece piece)
    (rest : List Char) : ∃ piece ∈ readPieces pieces rest, SameNamed names piece piece := by
  have htrim : ∃ piece ∈ trimLast pieces, SameNamed names piece piece := by
    obtain ⟨piece, hpiece, hnamed⟩ := h
    induction pieces with
    | nil => exact absurd hpiece List.not_mem_nil
    | cons first pieces ih =>
      cases pieces with
      | nil =>
        rw [List.mem_singleton.1 hpiece] at hnamed
        exact ⟨_, List.mem_cons_self, hnamed.rdropWhile⟩
      | cons next pieces =>
        obtain rfl | hpiece := List.mem_cons.1 hpiece
        · exact ⟨piece, List.mem_cons_self, hnamed⟩
        · obtain ⟨later, hlater, hnamed⟩ := ih hpiece
          exact ⟨later, List.mem_cons_of_mem _ hlater, hnamed⟩
  unfold readPieces
  split
  · exact htrim
  · exact h

/-- What is read of pieces that give values to the same parameter. -/
theorem SameNamed.pieceParams_eq (h : SameNamed names piece piece') (isSpecial : Bool) :
    ∃ name value value', name ∈ names ∧ pieceParams isSpecial piece = [(name, value)] ∧
      pieceParams isSpecial piece' = [(name, value')] := by
  obtain ⟨name, value, value', rfl, rfl, hname, hmem⟩ := h
  have hset := isEncodeSet_querySet isSpecial
  have heq (value : List Char) : pieceParams isSpecial (name ++ '=' :: value) =
      [(formDecode (untabbed name),
        formDecode (percentEncode (querySet isSpecial) (untabbed value)))] := by
    have hcons : percentEncode (querySet isSpecial) ('=' :: untabbed value) =
        '=' :: percentEncode (querySet isSpecial) (untabbed value) := by
      cases isSpecial <;> rfl
    have hname' : '=' ∉ percentEncode (querySet isSpecial) (untabbed name) := fun hc ↦
      hname (mem_of_mem_untabbed (mem_of_mem_percentEncode hset hc (by decide) (by decide)))
    rw [pieceParams, untabbed_named, percentEncode_append, hcons, formPiece_named hname',
      formDecode_percentEncode hset]
  exact ⟨_, _, _, hmem, heq value, heq value'⟩

theorem SamePiece.forall₂_pieceParams (h : SamePiece names piece piece') (isSpecial : Bool) :
    List.Forall₂ (SameParam names) (pieceParams isSpecial piece)
      (pieceParams isSpecial piece') := by
  obtain rfl | h := h
  · exact List.forall₂_same.2 fun _ _ ↦ .inl rfl
  · obtain ⟨name, value, value', hmem, heq, heq'⟩ := h.pieceParams_eq isSpecial
    rw [heq, heq']
    exact .cons (.inr ⟨rfl, hmem⟩) .nil

/-- Without a value of a parameter with one of the names the pieces are the same. -/
theorem eq_of_forall₂_samePiece (h : List.Forall₂ (SamePiece names) pieces pieces')
    (hnone : ∀ piece ∈ pieces, ¬SameNamed names piece piece) : pieces = pieces' := by
  induction h with
  | nil => rfl
  | @cons piece piece' pieces pieces' hpiece hpieces ih =>
    obtain ⟨hfirst, hrest⟩ := List.forall_mem_cons.1 hnone
    obtain rfl | ⟨name, value, value', rfl, -, hname, hmem⟩ := hpiece
    · rw [ih hrest]
    · exact absurd ⟨name, value, value, rfl, rfl, hname, hmem⟩ hfirst

theorem DifferIn.eq_of_not_hasNamed (h : DifferIn names u u') (hnamed : ¬HasNamed names u) :
    u = u' := by
  obtain ⟨before, pieces, pieces', rest, hu, hu', hpieces⟩ := h
  rw [hu.eq, hu'.eq, eq_of_forall₂_samePiece hpieces fun piece hpiece hsame ↦
    hnamed ⟨before, pieces, rest, hu, piece, hpiece, hsame⟩]

/-- **Texts that differ in values of some parameters** are both no URL, or URLs that differ in
values of these parameters. -/
theorem DifferIn.alike_ofString (h : DifferIn names u u')
    (parseBase : List Char → Bool → Bool → Option UrlBase) :
    u = u' ∨ Option.Rel (Alike names) (ofString parseBase u) (ofString parseBase u') := by
  obtain ⟨before, pieces, pieces', rest, hu, hu', hpieces⟩ := h
  by_cases hnamed : ∃ piece ∈ pieces, SameNamed names piece piece
  · refine .inr ?_
    rw [hu.ofString_eq, hu'.ofString_eq]
    cases parseBase (untabbed (before.dropWhile isControlOrSpace)) true
        (readFragment rest).isSome with
    | none => exact .none
    | some base =>
      refine .some ⟨rfl, rfl, ?_, .inr ?_⟩
      · exact List.rel_flatMap (forall₂_readPieces hpieces rest)
          fun _ _ hpiece ↦ hpiece.forall₂_pieceParams base.isSpecial
      · obtain ⟨piece, hpiece, hnamed⟩ := exists_mem_readPieces hnamed rest
        obtain ⟨name, value, -, hmem, heq, -⟩ := hnamed.pieceParams_eq base.isSpecial
        exact ⟨(name, value), List.mem_flatMap.2 ⟨piece, hpiece, heq ▸ List.mem_singleton_self _⟩,
          hmem⟩
  · refine .inl ?_
    rw [hu.eq, hu'.eq, eq_of_forall₂_samePiece hpieces fun piece hpiece hsame ↦
      hnamed ⟨piece, hpiece, hsame⟩]

/-- A piece stands in the text between the others. -/
theorem exists_intercalate_eq (pieces pieces' : List (List Char)) : ∃ s t, ∀ piece,
    ['&'].intercalate (pieces ++ piece :: pieces') = s ++ (piece ++ t) := by
  induction pieces with
  | nil =>
    cases pieces' with
    | nil => exact ⟨[], [], fun piece ↦ by simp⟩
    | cons next pieces' =>
      refine ⟨[], '&' :: ['&'].intercalate (next :: pieces'), fun piece ↦ ?_⟩
      rw [List.nil_append, List.intercalate_cons_cons, List.append_assoc]
      rfl
  | cons first pieces ih =>
    obtain ⟨s, t, ih⟩ := ih
    refine ⟨first ++ '&' :: s, t, fun piece ↦ ?_⟩
    rw [List.cons_append, List.intercalate_cons_of_ne_nil (by simp), ih, List.append_assoc,
      List.append_assoc]
    rfl

/-- A value can be given one more character. -/
theorem HasNamed.exists_differIn (h : HasNamed names u) {c : Char} (hc : c ≠ '&' ∧ c ≠ '#') :
    ∃ u', DifferIn names u u' ∧ u'.count c = u.count c + 1 := by
  obtain ⟨before, pieces, rest, hu, piece, hpiece, hnamed⟩ := h
  obtain ⟨earlier, later, rfl⟩ := List.append_of_mem hpiece
  obtain ⟨s, t, hst⟩ := exists_intercalate_eq earlier later
  refine ⟨_, ⟨before, _, earlier ++ (piece ++ [c]) :: later, rest, hu, ⟨rfl, hu.before_notMem, ?_,
    hu.rest_head⟩, ?_⟩, ?_⟩
  · intro other hother
    obtain hother | hother := List.mem_append.1 hother
    · exact hu.pieces_notMem other (List.mem_append_left _ hother)
    · obtain rfl | hother := List.mem_cons.1 hother
      · have hpiece' := hu.pieces_notMem piece hpiece
        simp only [List.mem_append, List.mem_singleton, hpiece'.1, hpiece'.2, false_or]
        exact ⟨hc.1.symm, hc.2.symm⟩
      · exact hu.pieces_notMem other (List.mem_append_right _ (List.mem_cons_of_mem _ hother))
  · have hsame (pieces : List (List Char)) : List.Forall₂ (SamePiece names) pieces pieces :=
      List.forall₂_same.2 fun _ _ ↦ .inl rfl
    refine List.rel_append (hsame earlier) (.cons (.inr ?_) (hsame later))
    obtain ⟨name, value, -, rfl, -, hname, hmem⟩ := hnamed
    exact ⟨name, value, value ++ [c], rfl, by simp, hname, hmem⟩
  · rw [hu.eq, hst, hst]
    simp only [List.count_append, List.count_cons, List.count_nil, beq_self_eq_true, if_true]
    omega

/-! ### Setting parameters -/

variable {name value : List Char} {url url' : Url}
  {params params' : List (List Char × List Char)}

theorem SameParam.fst_eq {p p' : List Char × List Char} (h : SameParam names p p') :
    p.1 = p'.1 := by
  obtain rfl | h := h
  · rfl
  · exact h.1

theorem SameParam.of_ne {p p' : List Char × List Char} (h : SameParam (name :: names) p p')
    (hne : p.1 ≠ name) : SameParam names p p' := by
  obtain rfl | ⟨heq, hmem⟩ := h
  · exact .inl rfl
  · exact .inr ⟨heq, (List.mem_cons.1 hmem).resolve_left hne⟩

theorem Alike.has_eq (h : Alike names url url') (name : List Char) :
    url.has name = url'.has name := by
  have hall : ∀ {params params'}, List.Forall₂ (SameParam names) params params' →
      (params.any fun p ↦ p.1 = name) = params'.any fun p ↦ p.1 = name := by
    intro params params' h
    induction h with
    | nil => rfl
    | cons hp h ih => rw [List.any_cons, List.any_cons, ih, hp.fst_eq]
  exact hall h.params

/-- What is left of the parameters without one name differs in the other names. -/
theorem forall₂_filter (h : List.Forall₂ (SameParam (name :: names)) params params') :
    List.Forall₂ (SameParam names) (params.filter fun p ↦ p.1 ≠ name)
      (params'.filter fun p ↦ p.1 ≠ name) := by
  induction h with
  | nil => exact .nil
  | @cons p p' params params' hp h ih =>
    rw [List.filter_cons, List.filter_cons, ← hp.fst_eq]
    split
    · rename_i hne
      exact .cons (hp.of_ne (of_decide_eq_true hne)) ih
    · exact ih

theorem forall₂_setFirst (h : List.Forall₂ (SameParam (name :: names)) params params')
    (value : List Char) :
    List.Forall₂ (SameParam names) (setFirst name value params) (setFirst name value params') := by
  induction h with
  | nil => exact .nil
  | @cons p p' params params' hp h ih =>
    rw [setFirst, setFirst, ← hp.fst_eq]
    split
    · exact .cons (.inl rfl) (forall₂_filter h)
    · rename_i hne
      exact .cons (hp.of_ne hne) ih

/-- Once a parameter is set the URLs do not differ in it. -/
theorem Alike.set (h : Alike (name :: names) url url') (hhas : url.has name = true)
    (value : List Char) : Alike names (url.set name value) (url'.set name value) where
  base := h.base
  fragment := h.fragment
  params := by
    rw [Url.set, Url.set, if_pos hhas, if_pos (h.has_eq name ▸ hhas)]
    exact forall₂_setFirst h.params value
  query := .inl ⟨rfl, rfl⟩

/-- A parameter that is not there need not be set. -/
theorem Alike.of_not_has (h : Alike (name :: names) url url') (hhas : url.has name = false) :
    Alike names url url' where
  base := h.base
  fragment := h.fragment
  params := by
    have hself {url : Url} (hhas : url.has name = false) :
        url.params.filter (fun p ↦ p.1 ≠ name) = url.params :=
      List.filter_eq_self.2 fun p hp ↦ decide_eq_true fun heq ↦
        List.any_eq_false.1 hhas p hp (decide_eq_true heq)
    have hfilter := forall₂_filter h.params
    rw [hself hhas, hself (h.has_eq name ▸ hhas)] at hfilter
    exact hfilter
  query := by
    refine h.query.imp_right fun ⟨p, hp, hmem⟩ ↦ ⟨p, hp, (List.mem_cons.1 hmem).resolve_left ?_⟩
    exact fun heq ↦ List.any_eq_false.1 hhas p hp (decide_eq_true heq)

theorem Alike.eq (h : Alike [] url url') : url = url' := by
  have hparams : url.params = url'.params :=
    List.forall₂_eq_eq_eq ▸ h.params.imp fun p p' hp ↦
      hp.resolve_right fun hmem ↦ List.not_mem_nil hmem.2
  have hquery : url.query = url'.query := by
    obtain ⟨hquery, hquery'⟩ | ⟨p, -, hmem⟩ := h.query
    · rw [hquery, hquery', hparams]
    · exact absurd hmem List.not_mem_nil
  exact Url.ext h.base hquery h.fragment hparams

end Parse

end Url
