import Mathlib.Data.Prod.Lex
import Sumurai.Foundations.Groups
import Sumurai.Repository.Duplicates

/-!
# What a duplicate merge keeps

`merge_duplicate_provider_transactions` joins the candidates with themselves, so every related pair
is decided twice, once in each order, and everything that loses once is deleted. The longer merchant
key wins; between keys of one length the later `created_at` is meant to win.

Two decisions of one pair agree unless the pair is a *tie*: keys of one length, and timestamps that
are equal or of which one is missing. A tie is decided once against each of its members
(`mem_duplicateIds_iff`, `lost_of_tie`), which is the one way in which the merge can delete a whole
group.

## Main result

`merge_keeps_survivor_iff` — the merge keeps a row of every group and decides no pair both ways if
and only if no two related candidates tie. That moreover *no pair loses both members*, to whichever
other candidates, asks in addition that no candidate outranks one and is outranked by another
(`NoLadders`).
-/

open Relation

namespace Sumurai

namespace MergeCandidate

/-- The duplicate relation: the join condition, which does not depend on the order. -/
def Related (a b : MergeCandidate) : Prop :=
  isDuplicatePair a b = true

instance : DecidableRel Related := fun a b ↦
  inferInstanceAs (Decidable (isDuplicatePair a b = true))

/-- Keys of one length, and no later `created_at` on either side: equal or missing. -/
def Tie (a b : MergeCandidate) : Prop :=
  a.merchantKey.length = b.merchantKey.length ∧
    (a.createdAt = none ∨ b.createdAt = none ∨ a.createdAt = b.createdAt)

/-- A longer merchant key, or one of the same length and a later `created_at`. -/
def Outranks (a b : MergeCandidate) : Prop :=
  b.merchantKey.length < a.merchantKey.length ∨
    (a.merchantKey.length = b.merchantKey.length ∧
      ∃ x ∈ a.createdAt, ∃ y ∈ b.createdAt, y < x)

/-- The rank that decides between related candidates. -/
def rank (a : MergeCandidate) : ℕ ×ₗ ℤ :=
  toLex (a.merchantKey.length, a.createdAt.getD 0)

theorem keysOverlap_comm (a b : List Char) : keysOverlap a b = keysOverlap b a := by
  have heq : decide (a = b) = decide (b = a) := decide_eq_decide.2 eq_comm
  rw [keysOverlap, keysOverlap, heq, Bool.or_assoc, Bool.or_assoc]
  exact congrArg (decide (b = a) || ·) (Bool.or_comm _ _)

theorem Related.symm {a b : MergeCandidate} (h : Related a b) : Related b a := by
  simp only [Related, isDuplicatePair, Bool.and_eq_true, decide_eq_true_eq] at h ⊢
  obtain ⟨⟨⟨⟨⟨⟨hacc, hamount⟩, hdate⟩, hid⟩, hold⟩, hnew⟩, hkeys⟩ := h
  rw [keysOverlap_comm] at hkeys
  exact ⟨⟨⟨⟨⟨⟨hacc.symm, hamount.symm⟩, hdate.symm⟩, Ne.symm hid⟩, hnew⟩, hold⟩, hkeys⟩

theorem Outranks.rank_lt {a b : MergeCandidate} (h : Outranks a b) : b.rank < a.rank := by
  rw [rank, rank, Prod.Lex.toLex_lt_toLex]
  rcases h with hlen | ⟨hlen, x, hx, y, hy, hlt⟩
  · exact Or.inl hlen
  · refine Or.inr ⟨hlen.symm, ?_⟩
    rw [Option.mem_def.1 hx, Option.mem_def.1 hy]
    exact hlt

/-- Two candidates tie, or one outranks the other. -/
theorem tie_or_outranks (a b : MergeCandidate) : Tie a b ∨ Outranks a b ∨ Outranks b a := by
  rcases lt_trichotomy a.merchantKey.length b.merchantKey.length with hlt | heq | hlt
  · exact Or.inr (Or.inr (Or.inl hlt))
  · rcases ha : a.createdAt with - | x
    · exact Or.inl ⟨heq, Or.inl ha⟩
    · rcases hb : b.createdAt with - | y
      · exact Or.inl ⟨heq, Or.inr (Or.inl hb)⟩
      · rcases lt_trichotomy x y with hxy | rfl | hyx
        · exact Or.inr (Or.inr (Or.inr ⟨heq.symm, y, hb, x, ha, hxy⟩))
        · exact Or.inl ⟨heq, Or.inr (Or.inr (ha.trans hb.symm))⟩
        · exact Or.inr (Or.inl (Or.inr ⟨heq, x, ha, y, hb, hyx⟩))
  · exact Or.inr (Or.inl (Or.inl hlt))

theorem Outranks.not_tie {a b : MergeCandidate} (h : Outranks a b) : ¬ Tie a b := by
  rintro ⟨hlen, hcreated⟩
  rcases h with hlt | ⟨-, x, hx, y, hy, hlt⟩
  · exact absurd hlen hlt.ne'
  · rw [Option.mem_def.1 hx, Option.mem_def.1 hy] at hcreated
    rcases hcreated with h | h | h
    · exact absurd h (by simp)
    · exact absurd h (by simp)
    · exact absurd (Option.some.inj h) hlt.ne'

/-! ### Losing a pair -/

/-- `a` is the duplicate of the pair with `b`, in one of the two orders. -/
def LosesTo (a b : MergeCandidate) : Prop :=
  newerWins a b = true ∨ newerWins b a = false

instance : DecidableRel LosesTo := fun a b ↦
  inferInstanceAs (Decidable (newerWins a b = true ∨ newerWins b a = false))

theorem newerWins_of_outranks {a b : MergeCandidate} (h : Outranks b a) : newerWins a b = true := by
  rw [newerWins, Bool.or_eq_true, Bool.and_eq_true, decide_eq_true_iff, decide_eq_true_iff]
  rcases h with hlt | ⟨hlen, x, hx, y, hy, hlt⟩
  · exact Or.inl hlt
  · refine Or.inr ⟨hlen, ?_⟩
    rw [Option.mem_def.1 hx, Option.mem_def.1 hy]
    exact decide_eq_true hlt.le

theorem newerWins_of_outranked {a b : MergeCandidate} (h : Outranks a b) :
    newerWins a b = false := by
  rw [newerWins, Bool.or_eq_false_iff, Bool.and_eq_false_iff, decide_eq_false_iff_not,
    decide_eq_false_iff_not]
  rcases h with hlt | ⟨hlen, x, hx, y, hy, hlt⟩
  · exact ⟨not_lt.2 hlt.le, Or.inl hlt.ne⟩
  · refine ⟨by lia, Or.inr ?_⟩
    rw [Option.mem_def.1 hx, Option.mem_def.1 hy]
    exact decide_eq_false (not_le.2 hlt)

/-- Away from ties, losing is being outranked. -/
theorem losesTo_iff_outranks {a b : MergeCandidate} (h : ¬ Tie a b) :
    LosesTo a b ↔ Outranks b a := by
  constructor
  · intro hlose
    rcases tie_or_outranks a b with htie | hab | hba
    · exact absurd htie h
    · rcases hlose with hwin | hwin
      · rw [newerWins_of_outranked hab] at hwin
        exact absurd hwin Bool.false_ne_true
      · rw [newerWins_of_outranks hab] at hwin
        exact absurd hwin.symm Bool.false_ne_true
    · exact hba
  · exact fun hba ↦ Or.inl (newerWins_of_outranks hba)

/-- **A tie is lost by both sides.** -/
theorem losesTo_of_tie {a b : MergeCandidate} (h : Tie a b) : LosesTo a b := by
  obtain ⟨hlen, hcreated⟩ := h
  rcases ha : a.createdAt with - | x
  · right
    simp [newerWins, hlen, ha, timestampGE]
  · rcases hb : b.createdAt with - | y
    · right
      simp [newerWins, hlen, hb, timestampGE]
    · left
      rw [ha, hb] at hcreated
      obtain rfl : x = y := by simpa using hcreated
      simp [newerWins, hlen, ha, hb, timestampGE]

theorem Tie.symm {a b : MergeCandidate} (h : Tie a b) : Tie b a := by
  obtain ⟨hlen, hcreated⟩ := h
  refine ⟨hlen.symm, ?_⟩
  rcases hcreated with h | h | h
  · exact Or.inr (Or.inl h)
  · exact Or.inl h
  · exact Or.inr (Or.inr h.symm)

end MergeCandidate

open MergeCandidate

/-! ### What is deleted -/

theorem mem_duplicatePairs_iff {candidates : List MergeCandidate} {d : Uuid × Uuid} :
    d ∈ duplicatePairs candidates ↔ ∃ older ∈ candidates, ∃ newer ∈ candidates,
      Related older newer ∧ duplicatePair older newer = d := by
  rw [duplicatePairs, List.mem_dedup, List.mem_flatMap]
  refine exists_congr fun older ↦ and_congr_right fun _ ↦ ?_
  rw [List.mem_map]
  simp only [List.mem_filter, and_assoc, Related]

/-- **The pairs of a candidate** lead to it from the related candidates that lose to it. -/
theorem mem_duplicatePairs_of_mem {candidates : List MergeCandidate}
    (hids : (candidates.map MergeCandidate.id).Nodup) {m : MergeCandidate} (hm : m ∈ candidates)
    {id : Uuid} : (m.id, id) ∈ duplicatePairs candidates ↔
      ∃ x ∈ candidates, x.id = id ∧ Related x m ∧ LosesTo x m := by
  have hsame : ∀ y ∈ candidates, y.id = m.id → y = m := fun y hy hid ↦
    List.inj_on_of_nodup_map hids hy hm hid
  rw [mem_duplicatePairs_iff]
  constructor
  · rintro ⟨older, hold, newer, hnew, hrel, hpair⟩
    rw [duplicatePair] at hpair
    split at hpair
    · rename_i hwin
      obtain ⟨hid, rfl⟩ := Prod.mk.inj hpair
      obtain rfl := hsame newer hnew hid
      exact ⟨older, hold, rfl, hrel, Or.inl hwin⟩
    · rename_i hwin
      obtain ⟨hid, rfl⟩ := Prod.mk.inj hpair
      obtain rfl := hsame older hold hid
      exact ⟨newer, hnew, rfl, hrel.symm, Or.inr (by simpa using hwin)⟩
  · rintro ⟨x, hx, rfl, hrel, hwin | hwin⟩
    · exact ⟨x, hx, m, hm, hrel, by rw [duplicatePair, if_pos hwin]⟩
    · exact ⟨m, hm, x, hx, hrel.symm, by rw [duplicatePair, if_neg (by simp [hwin])]⟩

/-- **A candidate is deleted when it loses to some related candidate.** -/
theorem mem_duplicateIds_iff {candidates : List MergeCandidate}
    (hids : (candidates.map MergeCandidate.id).Nodup) {c : MergeCandidate} (hc : c ∈ candidates) :
    c.id ∈ (duplicatePairs candidates).map Prod.snd ↔
      ∃ y ∈ candidates, Related c y ∧ LosesTo c y := by
  rw [List.mem_map]
  constructor
  · rintro ⟨d, hd, hdup⟩
    obtain ⟨older, hold, newer, hnew, hrel, rfl⟩ := mem_duplicatePairs_iff.1 hd
    -- the canonical side of the pair is a candidate, and what loses to it is this one
    have hcanonical : ∃ m ∈ candidates, m.id = (duplicatePair older newer).1 := by
      rw [duplicatePair]
      split
      · exact ⟨newer, hnew, rfl⟩
      · exact ⟨older, hold, rfl⟩
    obtain ⟨m, hm, hid⟩ := hcanonical
    have hpair : (m.id, c.id) ∈ duplicatePairs candidates := by
      rw [hid, ← hdup]
      exact hd
    obtain ⟨x, hx, hxid, hxm, hlose⟩ := (mem_duplicatePairs_of_mem hids hm).1 hpair
    obtain rfl := List.inj_on_of_nodup_map hids hx hc hxid
    exact ⟨m, hm, hxm, hlose⟩
  · rintro ⟨y, hy, hrel, hlose⟩
    exact ⟨(y.id, c.id), (mem_duplicatePairs_of_mem hids hy).2 ⟨c, hc, rfl, hrel, hlose⟩, rfl⟩

variable (L : Locale) (db : Database) (userId connectionId : Uuid)

theorem transactionCandidates_ids_nodup :
    ((transactionCandidates L db.toStore userId connectionId).map MergeCandidate.id).Nodup := by
  rw [transactionCandidates, List.map_map]
  exact db.keyed.transactions_pkey.sublist (List.filter_sublist.map _)

/-- The ids of the transactions after the merge. -/
def mergedIds : List Uuid :=
  (mergeDuplicateProviderTransactions L db.toStore userId connectionId).1.transactions.map
    TransactionRow.id

/-- A candidate is gone after the merge exactly when it is the duplicate of some pair. -/
theorem notMem_mergedIds_iff {c : MergeCandidate}
    (hc : c ∈ transactionCandidates L db.toStore userId connectionId) :
    c.id ∉ mergedIds L db userId connectionId ↔
      c.id ∈ (duplicatePairs (transactionCandidates L db.toStore userId connectionId)).map
        Prod.snd := by
  obtain ⟨t, ht, rfl⟩ := List.mem_map.1 hc
  obtain ⟨htdb, hcond⟩ := List.mem_filter.1 ht
  have huser : t.userId = some userId := by
    simp only [Bool.and_eq_true, decide_eq_true_eq] at hcond
    exact hcond.1.1
  have hmerged : ∀ id, id ∈ mergedIds L db userId connectionId ↔ ∃ r ∈ db.transactions,
      ¬ (r.id ∈ (duplicatePairs (transactionCandidates L db.toStore userId connectionId)).map
        Prod.snd ∧ r.userId = some userId) ∧ r.id = id := by
    intro id
    simp only [mergedIds, mergeDuplicateProviderTransactions, deleteTransactions, List.map_map,
      List.mem_map, List.mem_filter, Function.comp_apply, Bool.not_eq_true', Bool.and_eq_false_iff,
      decide_eq_false_iff_not, and_assoc, not_and_or]
  rw [hmerged]
  constructor
  · intro hnone
    by_contra hkeep
    exact hnone ⟨t, htdb, fun h ↦ hkeep h.1, rfl⟩
  · rintro hdup ⟨r, hr, hkeep, hid⟩
    obtain rfl : r = t := List.inj_on_of_nodup_map db.keyed.transactions_pkey hr htdb hid
    exact hkeep ⟨hdup, huser⟩

/-! ### The guarantee -/

/-- The duplicate relation among the candidates of a merge. -/
def DuplicateRelation (a b : MergeCandidate) : Prop :=
  a ∈ transactionCandidates L db.toStore userId connectionId ∧
    b ∈ transactionCandidates L db.toStore userId connectionId ∧ Related a b

/-- Every connected group of the duplicate relation still has a row. -/
def GroupsKeepRow : Prop :=
  ∀ c ∈ transactionCandidates L db.toStore userId connectionId,
    ∃ m ∈ transactionCandidates L db.toStore userId connectionId,
      EqvGen (DuplicateRelation L db userId connectionId) c m ∧
        m.id ∈ mergedIds L db userId connectionId

/-- The two decisions of a pair delete the same row. -/
def PairsDecidedOnce : Prop :=
  ∀ a b, DuplicateRelation L db userId connectionId a b →
    (duplicatePair a b).2 = (duplicatePair b a).2

/-- No related pair loses both its members. -/
def NoPairLost : Prop :=
  ∀ a b, DuplicateRelation L db userId connectionId a b →
    a.id ∈ mergedIds L db userId connectionId ∨ b.id ∈ mergedIds L db userId connectionId

/-- No two related candidates tie. -/
def NoTies : Prop :=
  ∀ a b, DuplicateRelation L db userId connectionId a b → ¬ Tie a b

/-- No candidate outranks a related one and is itself outranked by a related one. -/
def NoLadders : Prop :=
  ∀ a b c, DuplicateRelation L db userId connectionId a b →
    DuplicateRelation L db userId connectionId b c → ¬ (Outranks b a ∧ Outranks c b)

variable {L db userId connectionId}

theorem DuplicateRelation.symm {a b : MergeCandidate}
    (h : DuplicateRelation L db userId connectionId a b) :
    DuplicateRelation L db userId connectionId b a :=
  ⟨h.2.1, h.1, h.2.2.symm⟩

/-- A candidate is gone after the merge exactly when it loses to a related one. -/
theorem lost_iff {c : MergeCandidate}
    (hc : c ∈ transactionCandidates L db.toStore userId connectionId) :
    c.id ∉ mergedIds L db userId connectionId ↔
      ∃ y, DuplicateRelation L db userId connectionId c y ∧ LosesTo c y := by
  rw [notMem_mergedIds_iff L db userId connectionId hc,
    mem_duplicateIds_iff (transactionCandidates_ids_nodup L db userId connectionId) hc]
  constructor
  · rintro ⟨y, hy, hrel, hlose⟩
    exact ⟨y, ⟨hc, hy, hrel⟩, hlose⟩
  · rintro ⟨y, ⟨-, hy, hrel⟩, hlose⟩
    exact ⟨y, hy, hrel, hlose⟩

/-- Away from ties, the members of a group that nothing related outranks are kept. -/
theorem NoTies.groupsKeepRow (h : NoTies L db userId connectionId) :
    GroupsKeepRow L db userId connectionId := by
  intro c hc
  obtain ⟨m, hm, hcm, hmax⟩ :=
    Groups.exists_unbeaten (DuplicateRelation L db userId connectionId) MergeCandidate.rank hc
  refine ⟨m, hm, hcm, ?_⟩
  by_contra hlost
  obtain ⟨y, hmy, hlose⟩ := (lost_iff hm).1 hlost
  have hrank := ((losesTo_iff_outranks (h m y hmy)).1 hlose).rank_lt
  exact absurd (hmax y hmy.2.1 hmy) (not_le.2 hrank)

/-- The two decisions of a pair agree exactly away from ties. -/
theorem pairsDecidedOnce_iff :
    PairsDecidedOnce L db userId connectionId ↔ NoTies L db userId connectionId := by
  refine forall_congr' fun a ↦ forall_congr' fun b ↦ forall_congr' fun hab ↦ ?_
  have hid : b.id ≠ a.id := by
    have hrel := hab.2.2
    simp only [Related, isDuplicatePair, Bool.and_eq_true, decide_eq_true_eq] at hrel
    exact hrel.1.1.1.2
  rw [duplicatePair, duplicatePair]
  rcases tie_or_outranks a b with htie | hout | hout
  · refine iff_of_false ?_ (not_not.2 htie)
    -- the decisions of a tie point at different rows
    rcases losesTo_of_tie htie with hwin | hwin <;>
      rcases losesTo_of_tie htie.symm with hwin' | hwin' <;> simp [hwin, hwin', hid, hid.symm] at *
  · refine iff_of_true ?_ hout.not_tie
    rw [newerWins_of_outranks hout, newerWins_of_outranked hout]
    rfl
  · refine iff_of_true ?_ fun htie ↦ hout.not_tie htie.symm
    rw [newerWins_of_outranks hout, newerWins_of_outranked hout]
    rfl

/-- Away from ties, no pair is lost exactly when nothing is both above and below a related
candidate. -/
theorem NoTies.noPairLost_iff (h : NoTies L db userId connectionId) :
    NoPairLost L db userId connectionId ↔ NoLadders L db userId connectionId := by
  have hlost : ∀ {c : MergeCandidate},
      c ∈ transactionCandidates L db.toStore userId connectionId →
      (c.id ∉ mergedIds L db userId connectionId ↔
        ∃ y, DuplicateRelation L db userId connectionId c y ∧ Outranks y c) := by
    intro c hc
    rw [lost_iff hc]
    exact exists_congr fun y ↦ and_congr_right fun hcy ↦ losesTo_iff_outranks (h c y hcy)
  constructor
  · rintro hpair a b c hab hbc ⟨hba, hcb⟩
    rcases hpair a b hab with ha | hb
    · exact (hlost hab.1).2 ⟨b, hab, hba⟩ ha
    · exact (hlost hab.2.1).2 ⟨c, hbc, hcb⟩ hb
  · intro hladder a b hab
    by_contra hboth
    rw [not_or] at hboth
    obtain ⟨y, hay, hya⟩ := (hlost hab.1).1 hboth.1
    obtain ⟨z, hbz, hzb⟩ := (hlost hab.2.1).1 hboth.2
    rcases tie_or_outranks a b with htie | hout | hout
    · exact h a b hab htie
    · exact hladder b a y hab.symm hay ⟨hout, hya⟩
    · exact hladder a b z hab hbz ⟨hout, hzb⟩

/-- **What the merge keeps, exactly.** It keeps a row of every group and decides no pair both ways
if and only if no two related candidates tie; and it keeps a row of every group and of every pair
if and only if, besides, no candidate is both above and below a related one. -/
theorem merge_keeps_survivor_iff (L : Locale) (db : Database) (userId connectionId : Uuid) :
    (GroupsKeepRow L db userId connectionId ∧ PairsDecidedOnce L db userId connectionId ↔
        NoTies L db userId connectionId) ∧
      (GroupsKeepRow L db userId connectionId ∧ NoPairLost L db userId connectionId ↔
        NoTies L db userId connectionId ∧ NoLadders L db userId connectionId) := by
  constructor
  · exact ⟨fun h ↦ pairsDecidedOnce_iff.1 h.2, fun h ↦ ⟨h.groupsKeepRow, pairsDecidedOnce_iff.2 h⟩⟩
  · constructor
    · rintro ⟨-, hpair⟩
      have hties : NoTies L db userId connectionId := by
        intro a b hab htie
        rcases hpair a b hab with ha | hb
        · exact (lost_iff hab.1).2 ⟨b, hab, losesTo_of_tie htie⟩ ha
        · exact (lost_iff hab.2.1).2 ⟨a, hab.symm, losesTo_of_tie htie.symm⟩ hb
      exact ⟨hties, hties.noPairLost_iff.1 hpair⟩
    · rintro ⟨hties, hladder⟩
      exact ⟨hties.groupsKeepRow, hties.noPairLost_iff.2 hladder⟩

/-- One coffee, reported under two provider ids in one batch. -/
def coffeeTwice : Database where
  toStore := { Store.empty with
    accounts := [checkingAccount]
    transactions := [
      { checkingTransaction 1 100 500 with
        providerTransactionId := some "txn-1", merchantName := some "Coffee", createdAt := some 0 },
      { checkingTransaction 2 100 500 with
        providerTransactionId := some "txn-2", merchantName := some "Coffee", createdAt := some 0 }]
    providerConnections := [checkingConnection] }
  keyed := by decide
  referential := by decide

/-- **A merge that deletes a whole group.** Both rows of the coffee have the same `created_at`; both
are deleted. -/
theorem merge_deletes_coffeeTwice :
    (mergeDuplicateProviderTransactions Locale.c coffeeTwice.toStore 7 5).1.transactions = [] ∧
      (mergeDuplicateProviderTransactions Locale.c coffeeTwice.toStore 7 5).2 = 2 ∧
      ¬ GroupsKeepRow Locale.c coffeeTwice 7 5 ∧ ¬ NoPairLost Locale.c coffeeTwice 7 5 := by
  have hgone :
      (mergeDuplicateProviderTransactions Locale.c coffeeTwice.toStore 7 5).1.transactions =
        [] := by decide
  have hids : mergedIds Locale.c coffeeTwice 7 5 = [] := by
    rw [mergedIds, hgone, List.map_nil]
  have hmem : ∀ id, id ∉ mergedIds Locale.c coffeeTwice 7 5 := by
    intro id
    rw [hids]
    exact List.not_mem_nil
  refine ⟨hgone, by decide, fun hkeep ↦ ?_, fun hpair ↦ ?_⟩
  · obtain ⟨m, -, -, hm⟩ := hkeep _ (List.mem_map_of_mem (List.mem_filter.2
      ⟨List.mem_cons_self, by decide⟩))
    exact hmem _ hm
  · rcases hpair (MergeCandidate.ofRow Locale.c coffeeTwice.transactions[0])
      (MergeCandidate.ofRow Locale.c coffeeTwice.transactions[1])
      ⟨by decide, by decide, by decide⟩ with h | h
    · exact hmem _ h
    · exact hmem _ h

end Sumurai
