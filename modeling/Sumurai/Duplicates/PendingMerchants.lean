import Sumurai.Duplicates.PendingMatch

/-!
# Merchants of resolved pending transactions

`auto_resolve_pending_duplicates` compares merchant keys by substring tests, and every text contains
the empty one. A transaction without a merchant name, or with a name of punctuation only, therefore
matches whatever has its account and its amount. The merge and the manual marking ask for keys that
are not empty, and so does the client's own test.

`resolvesSoundly_iff`: the links of a call are between related merchants exactly if no pending
transaction without a key has a posted one in reach, and every posted one without a key is outdone
by one that is related.
-/

namespace Sumurai

/-- The keys of related merchants: both are there, and they are equal, or one contains the other, or
the first six characters of one occur in the other, or both name the same listed retailer. -/
def RelatedMerchants (a b : List Char) : Prop :=
  a ≠ [] ∧ b ≠ [] ∧
    (a = b ∨ a <:+: b ∨ b <:+: a ∨ (6 ≤ a.length ∧ a.take 6 <:+: b) ∨
      (6 ≤ b.length ∧ b.take 6 <:+: a) ∨
        ("verizon".toList <:+: a ∧ "verizon".toList <:+: b) ∨
          ("amazon".toList <:+: a ∧ "amazon".toList <:+: b))

instance : DecidableRel RelatedMerchants := fun a b ↦
  inferInstanceAs (Decidable (a ≠ [] ∧ b ≠ [] ∧ _))

/-- Every link that a call sets leads from a pending transaction to a posted one of a related
merchant. -/
def ResolvesSoundly (L : Locale) (db : Store) (now : Timestamp) (userId : Uuid)
    (connectionId : Option Uuid) : Prop :=
  ∀ x y, linkOf (autoResolvePendingDuplicates L db now userId connectionId).1 x = some y →
    linkOf db x ≠ some y → ∃ p ∈ db.transactions, ∃ post ∈ db.transactions, p.id = x ∧
      post.id = y ∧ p.pending = true ∧ post.pending = false ∧
        RelatedMerchants (merchantKey L p.merchantName) (merchantKey L post.merchantName)

/-- The part of the join condition that is not about merchants. -/
def InReach (p post : TransactionRow) : Prop :=
  post.accountId = p.accountId ∧ post.amount = p.amount ∧ |post.date - p.date| ≤ 7

instance : DecidableRel InReach := fun p post ↦
  inferInstanceAs (Decidable (post.accountId = p.accountId ∧ _))

/-- Where one of two transactions in reach has no merchant key, it is the posted one, and the
pending one prefers another to it, which is of a related merchant. -/
def NamelessOutdone (L : Locale) (db : Store) (userId : Uuid) (connectionId : Option Uuid) : Prop :=
  ∀ p ∈ pendingTx db userId connectionId, ∀ post ∈ postedTx db userId connectionId,
    InReach p post → merchantKey L p.merchantName = [] ∨ merchantKey L post.merchantName = [] →
      merchantKey L p.merchantName ≠ [] ∧ ∃ post' ∈ postedTx db userId connectionId,
        InReach p post' ∧
          RelatedMerchants (merchantKey L p.merchantName) (merchantKey L post'.merchantName) ∧
            OrderBy.Precedes (postedOrder p) (postedTx db userId connectionId) post' post

instance (L : Locale) (db : Store) (userId : Uuid) (connectionId : Option Uuid) :
    Decidable (NamelessOutdone L db userId connectionId) :=
  inferInstanceAs (Decidable (∀ p ∈ pendingTx db userId connectionId,
    ∀ post ∈ postedTx db userId connectionId, _))

/-! ### The merchant test -/

theorem length_le_of_take {n : ℕ} {a b : List Char} (ha : n ≤ a.length) (h : a.take n <:+: b) :
    n ≤ b.length := by
  have hle := h.length_le
  rw [List.length_take] at hle
  omega

/-- **What the merchant test lets through**: related merchants, and every pair of which one has no
key. -/
theorem pendingMerchantsRelated_iff {a b : List Char} :
    pendingMerchantsRelated a b = true ↔ a = [] ∨ b = [] ∨ RelatedMerchants a b := by
  rcases eq_or_ne a [] with rfl | ha
  · simp [pendingMerchantsRelated, keysOverlap]
  rcases eq_or_ne b [] with rfl | hb
  · simp [pendingMerchantsRelated, keysOverlap]
  simp only [pendingMerchantsRelated, keysOverlap, RelatedMerchants, ha, hb, ne_eq, not_false_iff,
    true_and, false_or, Bool.or_eq_true, Bool.and_eq_true, decide_eq_true_eq]
  -- a key whose first six characters occur in another leaves it no shorter
  have hextends : ((6 ≤ a.length ∧ 6 ≤ b.length) ∧ (a.take 6 <:+: b ∨ b.take 6 <:+: a)) ↔
      (6 ≤ a.length ∧ a.take 6 <:+: b) ∨ (6 ≤ b.length ∧ b.take 6 <:+: a) := by
    constructor
    · rintro ⟨⟨hla, hlb⟩, h | h⟩
      · exact Or.inl ⟨hla, h⟩
      · exact Or.inr ⟨hlb, h⟩
    · rintro (⟨hla, h⟩ | ⟨hlb, h⟩)
      · exact ⟨⟨hla, length_le_of_take hla h⟩, Or.inl h⟩
      · exact ⟨⟨length_le_of_take hlb h, hlb⟩, Or.inr h⟩
  rw [hextends]
  simp only [or_assoc]

theorem isPostedMatch_iff {L : Locale} {p post : TransactionRow} :
    isPostedMatch L p post = true ↔ InReach p post ∧
      pendingMerchantsRelated (merchantKey L p.merchantName) (merchantKey L post.merchantName) =
        true := by
  simp only [isPostedMatch, InReach, Bool.and_eq_true, decide_eq_true_eq, and_assoc]

/-! ### The links of a call -/

section Call

variable {L : Locale} {db : Store} {now : Timestamp} {userId : Uuid} {connectionId : Option Uuid}

/-- A call sets the links of its matches. -/
theorem newLink_iff (hids : UniqueIds db) {x y : Uuid} :
    (linkOf (autoResolvePendingDuplicates L db now userId connectionId).1 x = some y ∧
        linkOf db x ≠ some y) ↔
      ∃ p ∈ pendingTx db userId connectionId, ∃ post,
        postedMatch L db userId connectionId p = some post ∧ p.id = x ∧ post.id = y := by
  have hlinks : linkOf (autoResolvePendingDuplicates L db now userId connectionId).1 x =
      ((matchedPairs L db userId connectionId).lookup x).or (linkOf db x) :=
    congrFun (linkOf_autoResolve hids now) x
  rw [hlinks, ← lookup_matchedPairs hids, Option.or_eq_some_iff]
  constructor
  · rintro ⟨hnew | ⟨-, hold⟩, hne⟩
    · exact hnew
    · exact absurd hold hne
  · intro hnew
    refine ⟨Or.inl hnew, fun hold ↦ ?_⟩
    have hfresh := matchedPairs_fresh hids x (by rw [hnew]; exact Option.some_ne_none y)
    rw [hold] at hfresh
    exact absurd hfresh nofun

/-- A call is sound exactly if every pick is of a related merchant. -/
theorem resolvesSoundly_iff_picks (hids : UniqueIds db) :
    ResolvesSoundly L db now userId connectionId ↔ ∀ p ∈ pendingTx db userId connectionId,
      ∀ post, postedMatch L db userId connectionId p = some post →
        RelatedMerchants (merchantKey L p.merchantName) (merchantKey L post.merchantName) := by
  have hposted : ∀ {p post}, postedMatch L db userId connectionId p = some post →
      post ∈ postedTx db userId connectionId := fun h ↦
    (List.mem_filter.1 (OrderBy.mem_of_head?_orderBy _ h)).1
  constructor
  · intro h p hp post hpost
    obtain ⟨hset, hnew⟩ := (newLink_iff hids).2 ⟨p, hp, post, hpost, rfl, rfl⟩
    obtain ⟨p', hp', post', hpost', hid, hid', -, -, hrelated⟩ := h _ _ hset hnew
    obtain rfl := List.inj_on_of_nodup_map hids hp' (mem_pendingTx hp).1 hid
    obtain rfl := List.inj_on_of_nodup_map hids hpost' (mem_postedTx (hposted hpost)).1 hid'
    exact hrelated
  · intro h x y hset hnew
    obtain ⟨p, hp, post, hpost, rfl, rfl⟩ := (newLink_iff hids).1 ⟨hset, hnew⟩
    obtain ⟨hmem, hpending, -⟩ := mem_pendingTx hp
    obtain ⟨hmem', hposted', -⟩ := mem_postedTx (hposted hpost)
    exact ⟨p, hmem, post, hmem', rfl, rfl, hpending, hposted', h p hp post hpost⟩

theorem postedTx_nodup (hids : UniqueIds db) : (postedTx db userId connectionId).Nodup :=
  (List.Nodup.of_map _ hids).filter _

/-- The rows that a pending one matches stand in the order of the table. -/
theorem precedes_filter_iff {p a b : TransactionRow} (ha : isPostedMatch L p a = true)
    (hb : isPostedMatch L p b = true) :
    OrderBy.Precedes (postedOrder p)
        ((postedTx db userId connectionId).filter (isPostedMatch L p)) a b ↔
      OrderBy.Precedes (postedOrder p) (postedTx db userId connectionId) a b := by
  refine and_congr_right fun _ ↦ imp_congr_right fun _ ↦ ⟨fun h ↦ h.trans List.filter_sublist, ?_⟩
  intro h
  have hpair : [a, b].filter (isPostedMatch L p) = [a, b] := by simp [ha, hb]
  exact hpair ▸ h.filter _

/-- What a pending row picks is related exactly if it is preferred to everything that is not. -/
theorem pick_related_iff (hids : UniqueIds db) (p : TransactionRow) :
    (∀ post, postedMatch L db userId connectionId p = some post →
        RelatedMerchants (merchantKey L p.merchantName) (merchantKey L post.merchantName)) ↔
      ∀ post ∈ postedTx db userId connectionId, InReach p post →
        merchantKey L p.merchantName = [] ∨ merchantKey L post.merchantName = [] →
          merchantKey L p.merchantName ≠ [] ∧ ∃ post' ∈ postedTx db userId connectionId,
            InReach p post' ∧
              RelatedMerchants (merchantKey L p.merchantName) (merchantKey L post'.merchantName) ∧
                OrderBy.Precedes (postedOrder p) (postedTx db userId connectionId) post' post := by
  rw [show (∀ post, postedMatch L db userId connectionId p = some post → _) ↔ _ from
    OrderBy.forall_head?_orderBy_iff (postedOrder p) ((postedTx_nodup hids).filter _)]
  constructor
  · intro h post hpost hreach hnameless
    have hmatch : isPostedMatch L p post = true :=
      isPostedMatch_iff.2 ⟨hreach, pendingMerchantsRelated_iff.2 (or_assoc.1 (Or.inl hnameless))⟩
    have hunrelated : ¬RelatedMerchants (merchantKey L p.merchantName)
        (merchantKey L post.merchantName) := fun hrelated ↦
      hnameless.elim hrelated.1 hrelated.2.1
    obtain ⟨post', hmem, hrelated, hbefore⟩ :=
      h post (List.mem_filter.2 ⟨hpost, hmatch⟩) hunrelated
    obtain ⟨hpost', hmatch'⟩ := List.mem_filter.1 hmem
    exact ⟨hrelated.1, post', hpost', (isPostedMatch_iff.1 hmatch').1, hrelated,
      (precedes_filter_iff hmatch' hmatch).1 hbefore⟩
  · intro h post hmem hunrelated
    obtain ⟨hpost, hmatch⟩ := List.mem_filter.1 hmem
    obtain ⟨hreach, htest⟩ := isPostedMatch_iff.1 hmatch
    -- what passes the test without being related has no key on one side
    have hnameless : merchantKey L p.merchantName = [] ∨ merchantKey L post.merchantName = [] := by
      rcases pendingMerchantsRelated_iff.1 htest with hp | hpost | hrelated
      · exact Or.inl hp
      · exact Or.inr hpost
      · exact absurd hrelated hunrelated
    obtain ⟨-, post', hpost', hreach', hrelated, hbefore⟩ := h post hpost hreach hnameless
    have hmatch' : isPostedMatch L p post' = true :=
      isPostedMatch_iff.2 ⟨hreach', pendingMerchantsRelated_iff.2 (Or.inr (Or.inr hrelated))⟩
    exact ⟨post', List.mem_filter.2 ⟨hpost', hmatch'⟩, hrelated,
      (precedes_filter_iff hmatch' hmatch).2 hbefore⟩

end Call

/-- **When pending transactions are resolved soundly.** On every database: the links of a call lead
only to transactions of related merchants if and only if, wherever a pending and a posted
transaction of one account and amount are at most seven days apart and one of them has no merchant
key, it is the posted one, and a posted one of a related merchant is preferred to it. -/
theorem resolvesSoundly_iff (L : Locale) (db : Database) (now : Timestamp) (userId : Uuid)
    (connectionId : Option Uuid) :
    ResolvesSoundly L db.toStore now userId connectionId ↔
      NamelessOutdone L db.toStore userId connectionId := by
  have hids : UniqueIds db.toStore := db.keyed.transactions_pkey
  rw [resolvesSoundly_iff_picks hids]
  exact forall_congr' fun p ↦ imp_congr_right fun _ ↦ pick_related_iff hids p

/-- A pending charge without a merchant name, and a purchase of the same amount. -/
def namelessCharge : Database where
  toStore := { Store.empty with
    accounts := [checkingAccount]
    transactions := [
      { checkingTransaction 1 100 500 with
        providerTransactionId := some "txn-1", pending := true },
      { checkingTransaction 2 103 500 with
        providerTransactionId := some "txn-2", merchantName := some "Coffee" }]
    providerConnections := [checkingConnection] }
  keyed := by decide
  referential := by decide

/-- **A nameless charge is hidden behind a purchase.** -/
theorem nameless_hidden :
    linkOf (autoResolvePendingDuplicates Locale.c namelessCharge.toStore 0 7 (some 5)).1 1 =
      some 2 ∧
      (namelessCharge.transactions.map fun t ↦ merchantKey Locale.c t.merchantName) =
        [[], "coffee".toList] ∧
      ¬ ResolvesSoundly Locale.c namelessCharge.toStore 0 7 (some 5) := by
  have hlink : linkOf (autoResolvePendingDuplicates Locale.c namelessCharge.toStore 0 7
      (some 5)).1 1 = some 2 := by decide
  refine ⟨hlink, by decide, fun h ↦ ?_⟩
  obtain ⟨p, hp, post, -, hid, -, -, -, hrelated⟩ := h 1 2 hlink (by decide)
  have hempty : ∀ t ∈ namelessCharge.transactions, t.id = 1 →
      merchantKey Locale.c t.merchantName = [] := by decide
  exact hrelated.1 (hempty p hp hid)

end Sumurai
