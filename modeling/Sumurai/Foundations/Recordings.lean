import Sumurai.Foundations.Programs
import Sumurai.Foundations.Runs

/-!
# Recorded runs of a pool

A pool of programs does not remember the calls that were made. A `Recording` does: it is a pool with
the log of its calls, each with the thread that made it and the state that it found. Without the log
it runs as the pool does (`Recording.pool_foldl`).

The calls of one thread with their answers are its *past* (`past`). A program can be run on its past
alone: in the setting `onPast J` a call is permitted when `J` allows it after the past, and is
answered in any way. What a program ensures there does not depend on the other programs, so it holds
of every thread of every recorded run (`Recording.justified`).
-/

namespace Program

open LabelledSystem

variable {Op : Type} {Res : Op → Type} {α σ ε : Type}

/-- A call and its answer. -/
abbrev Event (Res : Op → Type) : Type :=
  (op : Op) × Res op

/-- Programs that run on their own past. The environment chooses an answer to every call. -/
def onPast (J : List (Event Res) → Op → Prop) :
    Setting Op Res (List (Event Res)) ((op : Op) → Res op) where
  exec op e past := (past ++ [⟨op, e op⟩], e op)
  allows _ _ := True
  permits := J
  rely := Eq

section OnPast

variable {J : List (Event Res) → Op → Prop} {past : List (Event Res)}

theorem ensures_ask_onPast {op : Op} {Q : Res op → List (Event Res) → Prop} :
    (ask op).Ensures (onPast J) Q past ↔
      J past op ∧ ∀ e : (op : Op) → Res op, Q (e op) (past ++ [⟨op, e op⟩]) := by
  rw [ensures_ask]
  constructor
  · intro h
    exact ⟨(h past rfl).1, fun e ↦ (h past rfl).2 e trivial⟩
  · rintro ⟨hJ, hQ⟩ _ rfl
    exact ⟨hJ, fun e _ ↦ hQ e⟩

/-- A program whose calls are always allowed only adds to the past. -/
theorem Calls.ensures_onPast {P : Op → Prop} (hJ : ∀ past op, P op → J past op)
    {p : Program Op Res α} (h : p.Calls P) :
    p.Ensures (onPast J) (fun _ past' ↦ past <+: past') past := by
  refine h.ensures (J := fun past' ↦ past <+: past') ?_ ?_ ?_ List.prefix_rfl
  · rintro past' _ hpast rfl
    exact hpast
  · exact fun past' op _ hop ↦ hJ past' op hop
  · exact fun past' op e hpast _ _ ↦ hpast.trans (List.prefix_append _ _)

end OnPast

/-- Every element of a list stands in a relation to the elements before it. -/
def EachAfter {γ : Type} (P : List γ → γ → Prop) (log : List γ) : Prop :=
  ∀ before e after, log = before ++ e :: after → P before e

section EachAfter

variable {γ : Type} {P : List γ → γ → Prop} {log : List γ}

theorem eachAfter_nil : EachAfter P [] := by
  intro before e after hlog
  exact absurd hlog (by simp)

theorem EachAfter.of_mem (h : EachAfter P log) {e : γ} (he : e ∈ log) :
    ∃ before after, log = before ++ e :: after ∧ P before e := by
  obtain ⟨before, after, hlog⟩ := List.append_of_mem he
  exact ⟨before, after, hlog, h before e after hlog⟩

theorem EachAfter.of_append {log' : List γ} (h : EachAfter P (log ++ log')) : EachAfter P log :=
  fun before e after hlog ↦ h before e (after ++ log') (by rw [hlog, List.append_assoc]; rfl)

theorem eachAfter_append_singleton {x : γ} :
    EachAfter P (log ++ [x]) ↔ EachAfter P log ∧ P log x := by
  constructor
  · exact fun h ↦ ⟨h.of_append, h log x [] rfl⟩
  · rintro ⟨h, hx⟩ before e after hlog
    -- the element is the last one, or was there before
    rcases List.eq_nil_or_concat after with rfl | ⟨after, last, rfl⟩
    · obtain ⟨rfl, he⟩ := List.append_inj' hlog rfl
      obtain rfl := (List.cons.inj he).1
      exact hx
    · rw [List.concat_eq_append, ← List.cons_append, ← List.append_assoc] at hlog
      exact h before e after (List.append_inj' hlog rfl).1

end EachAfter

/-- A call that a thread has made, with the choice of the environment and the state it found. -/
structure Entry (Op σ ε : Type) where
  thread : ℕ
  op : Op
  choice : ε
  state : σ

/-- A pool and the calls that were made. -/
structure Recording (Op : Type) (Res : Op → Type) (σ ε α : Type) where
  pool : Pool Op Res σ α
  log : List (Entry Op σ ε)

section

variable (exec : (op : Op) → ε → σ → σ × Res op)

/-- The call of an entry with its answer. -/
def Entry.event (e : Entry Op σ ε) : Event Res :=
  ⟨e.op, (exec e.op e.choice e.state).2⟩

/-- The state that an entry has left. -/
def Entry.after (e : Entry Op σ ε) : σ :=
  (exec e.op e.choice e.state).1

/-- The calls of a thread with their answers. -/
def past (i : ℕ) (log : List (Entry Op σ ε)) : List (Event Res) :=
  (log.filter fun e ↦ e.thread = i).map (Entry.event exec)

theorem mem_past {i : ℕ} {log : List (Entry Op σ ε)} {event : Event Res} :
    event ∈ past exec i log ↔ ∃ e ∈ log, e.thread = i ∧ e.event exec = event := by
  simp only [past, List.mem_map, List.mem_filter, decide_eq_true_eq, and_assoc]

theorem past_append (i : ℕ) (log log' : List (Entry Op σ ε)) :
    past exec i (log ++ log') = past exec i log ++ past exec i log' := by
  rw [past, List.filter_append, List.map_append]
  rfl

theorem past_singleton (e : Entry Op σ ε) : past exec e.thread [e] = [e.event exec] := by
  simp [past]

theorem past_singleton_of_ne {i : ℕ} {e : Entry Op σ ε} (h : e.thread ≠ i) :
    past exec i [e] = [] := by
  simp [past, h]

/-! ### Recording -/

namespace Recording

/-- Nothing has been called yet. -/
def start (p : Pool Op Res σ α) : Recording Op Res σ ε α where
  pool := p
  log := []

/-- One thread makes its next call, which is recorded. -/
def step (R : Recording Op Res σ ε α) (l : ℕ × ε) : Recording Op Res σ ε α where
  pool := R.pool.step exec l
  log := R.log ++ ((R.pool.nextCall l.1).map fun op ↦ ⟨l.1, op, l.2, R.pool.state⟩).toList

variable {exec} {R : Recording Op Res σ ε α} {l : ℕ × ε}

/-- **The log does not change the run.** -/
theorem pool_foldl (ls : List (ℕ × ε)) (R : Recording Op Res σ ε α) :
    (ls.foldl (Recording.step exec) R).pool = ls.foldl (Pool.step exec) R.pool := by
  induction ls generalizing R with
  | nil => rfl
  | cons l ls ih => exact ih (R.step exec l)

/-- What a recorded step does: nothing, or a call of one thread. -/
theorem step_cases (exec : (op : Op) → ε → σ → σ × Res op) (R : Recording Op Res σ ε α)
    (l : ℕ × ε) :
    R.step exec l = R ∨ ∃ op next, R.pool.threads[l.1]? = some (call op next) ∧
      R.step exec l =
        { pool := { state := (exec op l.2 R.pool.state).1
                    threads := R.pool.threads.set l.1 (next (exec op l.2 R.pool.state).2) }
          log := R.log ++ [⟨l.1, op, l.2, R.pool.state⟩] } := by
  rw [step]
  cases hcall : R.pool.nextCall l.1 with
  | none =>
    left
    rcases R.pool.step_cases exec l with hsame | ⟨op, next, hthread, -⟩
    · rw [hsame, Option.map_none, Option.toList_none, List.append_nil]
    · have hnext := Pool.nextCall_eq_some_iff.2 ⟨next, hthread⟩
      rw [hcall] at hnext
      cases hnext
  | some op =>
    obtain ⟨next, hthread⟩ := Pool.nextCall_eq_some_iff.1 hcall
    refine Or.inr ⟨op, next, hthread, ?_⟩
    rw [Pool.step_call exec hthread]
    rfl

/-! ### What the calls of a run were justified by -/

/-- Every call was allowed after the past of its thread, and every thread goes on as it should. -/
structure Justified (exec : (op : Op) → ε → σ → σ × Res op)
    (J : ℕ → List (Event Res) → Op → Prop) (Q : ℕ → α → List (Event Res) → Prop)
    (R : Recording Op Res σ ε α) : Prop where
  made : EachAfter (fun before e ↦ J e.thread (past exec e.thread before) e.op) R.log
  ready : ∀ i (q : Program Op Res α), R.pool.threads[i]? = some q →
    q.Ensures (onPast (J i)) (Q i) (past exec i R.log)

variable {J : ℕ → List (Event Res) → Op → Prop} {Q : ℕ → α → List (Event Res) → Prop}

theorem Justified.step (h : R.Justified exec J Q) (l : ℕ × ε) :
    (R.step exec l).Justified exec J Q := by
  rcases R.step_cases exec l with hsame | ⟨op, next, hthread, hstep⟩
  · rw [hsame]
    exact h
  · have hcall : (call op next).Ensures (onPast (J l.1)) (Q l.1) (past exec l.1 R.log) :=
      h.ready l.1 _ hthread
    obtain ⟨hallowed, hnext⟩ := hcall _ rfl
    rw [hstep]
    constructor
    · exact eachAfter_append_singleton.2 ⟨h.made, hallowed⟩
    · intro i q hq
      change (R.pool.threads.set l.1 _)[i]? = some q at hq
      rw [past_append]
      rw [List.getElem?_set] at hq
      split at hq
      · rename_i hi
        subst hi
        split at hq
        · obtain rfl := Option.some.inj hq
          rw [past_singleton (e := ⟨l.1, op, l.2, R.pool.state⟩)]
          exact hnext (fun op ↦ (exec op l.2 R.pool.state).2) trivial
        · cases hq
      · rename_i hi
        rw [past_singleton_of_ne exec (e := ⟨l.1, op, l.2, R.pool.state⟩) hi,
          List.append_nil]
        exact h.ready i q hq

/-- **The recording rule.** Programs that justify their calls by their own past do so in every run,
whatever the others do in between. -/
theorem justified (exec : (op : Op) → ε → σ → σ × Res op) {p : Pool Op Res σ α}
    (h : ∀ i (q : Program Op Res α), p.threads[i]? = some q →
      q.Ensures (onPast (J i)) (Q i) []) (ls : List (ℕ × ε)) :
    (ls.foldl (Recording.step exec) (start p)).Justified exec J Q := by
  exact foldl_invariant (fun R l hR ↦ hR.step l) ls ⟨eachAfter_nil, h⟩

/-- A thread that is done ends as it should. -/
theorem Justified.result (h : R.Justified exec J Q) {i : ℕ} {a : α}
    (ha : R.pool.result i = some a) : Q i a (past exec i R.log) :=
  h.ready i _ (Pool.result_eq_some_iff.1 ha)

/-! ### What the calls of a run have done -/

/-- A property that every call keeps holds wherever a call of the run was made, and at its end. -/
theorem invariant {I : σ → Prop} (hexec : ∀ op e s, I s → I (exec op e s).1)
    {p : Pool Op Res σ α} (hstart : I p.state) (ls : List (ℕ × ε)) :
    I (ls.foldl (Recording.step exec) (start p)).pool.state ∧
      ∀ e ∈ (ls.foldl (Recording.step exec) (start p)).log, I e.state := by
  refine foldl_invariant (I := fun R : Recording Op Res σ ε α ↦
    I R.pool.state ∧ ∀ e ∈ R.log, I e.state) ?_ ls ⟨hstart, fun e he ↦ by cases he⟩
  rintro R l ⟨hR, hlog⟩
  rcases R.step_cases exec l with hsame | ⟨op, next, -, hstep⟩
  · rw [hsame]
    exact ⟨hR, hlog⟩
  · rw [hstep]
    refine ⟨hexec op l.2 _ hR, fun e he ↦ ?_⟩
    rcases List.mem_append.1 he with he | he
    · exact hlog e he
    · rw [List.mem_singleton.1 he]
      exact hR

end Recording

end

end Program
