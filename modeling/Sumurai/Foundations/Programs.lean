import Mathlib.Data.List.Basic
import Mathlib.Logic.Relation

/-!
# Programs that make calls

A `Program` is a computation whose only effects are calls: it is done, or it makes a call and goes
on with the answer. What a call does is not part of the program. A `Setting` says it: how a call
changes the state and what it answers (`exec`), given what the environment chooses (`allows`);
which calls may be made (`permits`); and what others may do to the state between two calls of the
program (`rely`).

`Ensures S Q p s` is the weakest precondition of the program in a setting: started in `s`, every
call it makes is permitted, and it ends with a value and a state related by `Q`, whatever the
environment chooses and the others do. It composes with the program: `ensures_bind`, `ensures_ask`
and the loop rule `Ensures.forEach`, which carries an invariant on the elements that are behind. For
the parts of a program of which only the calls matter there is `Calls`: a program keeps whatever
each of its calls keeps (`Calls.ensures`).

Two ways to run programs are covered:

* one program alone, with a stream of choices (`run`): `run_of_ensures`, and for two runs of one
  program on related states `run_related`;
* a pool of programs that take turns, one call at a time (`Pool.step`): `Pool.Ensured.step` is the
  rely-guarantee rule, by which the programs of a pool ensure what each ensures by itself, provided
  that what one is permitted to do is what the others rely on.
-/

/-- A program that makes calls `op : Op`, answered in `Res op`, and ends with an `α`. -/
inductive Program (Op : Type) (Res : Op → Type) (α : Type) where
  | done (a : α)
  | call (op : Op) (next : Res op → Program Op Res α)

namespace Program

variable {Op : Type} {Res : Op → Type} {α β ι σ ε : Type}

/-- Sequential composition. -/
def bind : Program Op Res α → (α → Program Op Res β) → Program Op Res β
  | done a, f => f a
  | call op next, f => call op fun r ↦ (next r).bind f

instance : Monad (Program Op Res) where
  pure := done
  bind := bind

/-- A single call. -/
def ask (op : Op) : Program Op Res (Res op) :=
  call op done

/-- A loop over a list that carries a value. -/
def forEach : List ι → β → (β → ι → Program Op Res β) → Program Op Res β
  | [], b, _ => done b
  | x :: xs, b, f => (f b x).bind fun b' ↦ forEach xs b' f

/-- Where programs run. -/
structure Setting (Op : Type) (Res : Op → Type) (σ ε : Type) where
  /-- The state after a call, and its answer. -/
  exec : (op : Op) → ε → σ → σ × Res op
  /-- What the environment may choose in a state. -/
  allows : σ → ε → Prop
  /-- The calls that may be made in a state. -/
  permits : σ → Op → Prop
  /-- What others may do between two calls. -/
  rely : σ → σ → Prop

/-- A program running alone: every call is permitted and nothing happens between two calls. -/
def Setting.alone (exec : (op : Op) → ε → σ → σ × Res op) (allows : σ → ε → Prop) :
    Setting Op Res σ ε where
  exec := exec
  allows := allows
  permits _ _ := True
  rely := Eq

/-- The weakest precondition of a program. -/
def Ensures (S : Setting Op Res σ ε) (Q : α → σ → Prop) : Program Op Res α → σ → Prop
  | done a, s => Q a s
  | call op next, s => ∀ s', S.rely s s' → S.permits s' op ∧
      ∀ e, S.allows s' e → Ensures S Q (next (S.exec op e s').2) (S.exec op e s').1

section Rules

variable {S : Setting Op Res σ ε} {Q Q' : α → σ → Prop} {s : σ}

@[simp]
theorem ensures_pure {a : α} : (pure a : Program Op Res α).Ensures S Q s ↔ Q a s :=
  Iff.rfl

theorem ensures_bind {p : Program Op Res β} {f : β → Program Op Res α} :
    (p >>= f).Ensures S Q s ↔ p.Ensures S (fun b s ↦ (f b).Ensures S Q s) s := by
  induction p generalizing s with
  | done b => exact Iff.rfl
  | call op next ih =>
    refine forall_congr' fun s' ↦ forall_congr' fun _ ↦ and_congr_right fun _ ↦ ?_
    exact forall_congr' fun e ↦ forall_congr' fun _ ↦ ih _

theorem ensures_ask {op : Op} {Q : Res op → σ → Prop} :
    (ask op).Ensures S Q s ↔ ∀ s', S.rely s s' → S.permits s' op ∧
      ∀ e, S.allows s' e → Q (S.exec op e s').2 (S.exec op e s').1 :=
  Iff.rfl

theorem ensures_ask_alone {exec : (op : Op) → ε → σ → σ × Res op} {allows : σ → ε → Prop} {op : Op}
    {Q : Res op → σ → Prop} :
    (ask op).Ensures (Setting.alone exec allows) Q s ↔
      ∀ e, allows s e → Q (exec op e s).2 (exec op e s).1 := by
  rw [ensures_ask]
  constructor
  · intro h
    exact (h s rfl).2
  · rintro h _ rfl
    exact ⟨trivial, h⟩

/-- A program alone may do what it likes. -/
theorem ensures_alone_trivial {exec : (op : Op) → ε → σ → σ × Res op} {allows : σ → ε → Prop}
    (p : Program Op Res α) : p.Ensures (Setting.alone exec allows) (fun _ _ ↦ True) s := by
  induction p generalizing s with
  | done a => trivial
  | call op next ih =>
    rintro _ rfl
    exact ⟨trivial, fun e _ ↦ ih _⟩

theorem Ensures.imp {p : Program Op Res α} (h : p.Ensures S Q s) (hQ : ∀ a s, Q a s → Q' a s) :
    p.Ensures S Q' s := by
  induction p generalizing s with
  | done a => exact hQ a s h
  | call op next ih =>
    intro s' hs'
    obtain ⟨hpermits, hnext⟩ := h s' hs'
    exact ⟨hpermits, fun e he ↦ ih _ (hnext e he)⟩

/-- **The loop rule.** The invariant speaks of the elements already behind, of the value carried and
of the state. -/
theorem Ensures.forEach {xs : List ι} {f : β → ι → Program Op Res β} {I : List ι → β → σ → Prop}
    (hstep : ∀ before x after b s, xs = before ++ x :: after → I before b s →
      (f b x).Ensures S (fun b' s' ↦ I (before ++ [x]) b' s') s) {b : β} (h : I [] b s) :
    (forEach xs b f).Ensures S (fun b' s' ↦ I xs b' s') s := by
  -- the induction is on the elements ahead, those behind are generalised
  suffices hgen : ∀ before after b s, xs = before ++ after → I before b s →
      (Program.forEach after b f).Ensures S (fun b' s' ↦ I xs b' s') s from hgen [] xs b s rfl h
  intro before after
  induction after generalizing before with
  | nil =>
    rintro b s hxs hI
    rw [List.append_nil] at hxs
    rw [hxs]
    exact hI
  | cons x after ih =>
    intro b s hxs hI
    refine ensures_bind.2 ((hstep before x after b s hxs hI).imp fun b' s' hI' ↦ ?_)
    exact ih (before ++ [x]) b' s' (by rw [hxs, List.append_assoc]; rfl) hI'

/-- A program that is not done is as ready after the others have acted. -/
theorem Ensures.of_rely {op : Op} {next : Res op → Program Op Res α}
    (htrans : ∀ s t u, S.rely s t → S.rely t u → S.rely s u)
    (h : (call op next).Ensures S Q s) {s' : σ} (hs' : S.rely s s') :
    (call op next).Ensures S Q s' :=
  fun t ht ↦ h t (htrans s s' t hs' ht)

end Rules

/-! ### The calls of a program -/

/-- Every call that a program may make, whatever it is answered, satisfies `P`. -/
def Calls (P : Op → Prop) : Program Op Res α → Prop
  | done _ => True
  | call op next => P op ∧ ∀ r, (next r).Calls P

section Calls

variable {P : Op → Prop}

@[simp]
theorem calls_pure {a : α} : (pure a : Program Op Res α).Calls P :=
  trivial

theorem calls_ask {op : Op} (h : P op) : (ask op : Program Op Res (Res op)).Calls P :=
  ⟨h, fun _ ↦ trivial⟩

theorem Calls.bind {p : Program Op Res β} {f : β → Program Op Res α} (hp : p.Calls P)
    (hf : ∀ b, (f b).Calls P) : (p >>= f).Calls P := by
  induction p with
  | done b => exact hf b
  | call op next ih => exact ⟨hp.1, fun r ↦ ih r (hp.2 r)⟩

theorem calls_forEach {xs : List ι} {f : β → ι → Program Op Res β}
    (hf : ∀ b, ∀ x ∈ xs, (f b x).Calls P) (b : β) : (forEach xs b f).Calls P := by
  induction xs generalizing b with
  | nil => trivial
  | cons x xs ih =>
    refine (hf b x List.mem_cons_self).bind fun b' ↦ ?_
    exact ih (fun b y hy ↦ hf b y (List.mem_cons_of_mem x hy)) b'

/-- **A program keeps what its calls keep.** -/
theorem Calls.ensures {S : Setting Op Res σ ε} {J : σ → Prop}
    (hrely : ∀ s s', J s → S.rely s s' → J s') (hpermits : ∀ s op, J s → P op → S.permits s op)
    (hexec : ∀ s op e, J s → P op → S.allows s e → J (S.exec op e s).1)
    {p : Program Op Res α} (h : p.Calls P) {s : σ} (hs : J s) :
    p.Ensures S (fun _ s ↦ J s) s := by
  induction p generalizing s with
  | done a => exact hs
  | call op next ih =>
    intro s' hs'
    have hJ : J s' := hrely s s' hs hs'
    exact ⟨hpermits s' op hJ h.1, fun e he ↦ ih _ (h.2 _) (hexec s' op e hJ h.1 he)⟩

/-- The same for a program alone. -/
theorem Calls.ensures_alone {exec : (op : Op) → ε → σ → σ × Res op} {allows : σ → ε → Prop}
    {J : σ → Prop} (hexec : ∀ s op e, J s → P op → allows s e → J (exec op e s).1)
    {p : Program Op Res α} (h : p.Calls P) {s : σ} (hs : J s) :
    p.Ensures (Setting.alone exec allows) (fun _ s ↦ J s) s := by
  refine h.ensures ?_ (fun _ _ _ _ ↦ trivial) hexec hs
  rintro s _ hJ rfl
  exact hJ

end Calls

/-! ### Answers that are possible -/

/-- Whenever its calls are answered as is `possible`, the program makes only calls that satisfy `P`
and ends only with values that satisfy `Q`. -/
def Under (possible : (op : Op) → Res op → Prop) (P : Op → Prop) (Q : α → Prop) :
    Program Op Res α → Prop
  | done a => Q a
  | call op next => P op ∧ ∀ r, possible op r → (next r).Under possible P Q

section Under

variable {possible : (op : Op) → Res op → Prop} {P : Op → Prop} {Q Q' : α → Prop}

@[simp]
theorem under_pure {a : α} : (pure a : Program Op Res α).Under possible P Q ↔ Q a :=
  Iff.rfl

theorem under_bind {p : Program Op Res β} {f : β → Program Op Res α} :
    (p >>= f).Under possible P Q ↔ p.Under possible P fun b ↦ (f b).Under possible P Q := by
  induction p with
  | done b => exact Iff.rfl
  | call op next ih =>
    refine and_congr_right fun _ ↦ forall_congr' fun r ↦ ?_
    exact forall_congr' fun _ ↦ ih r

theorem Under.imp {p : Program Op Res α} (h : p.Under possible P Q) (hQ : ∀ a, Q a → Q' a) :
    p.Under possible P Q' := by
  induction p with
  | done a => exact hQ a h
  | call op next ih => exact ⟨h.1, fun r hr ↦ ih r (h.2 r hr)⟩

end Under

/-- A value that satisfies `S` is reached only with a call that satisfies `P`, and that call is the
last. -/
def Through (P : Op → Prop) (S : α → Prop) : Program Op Res α → Prop
  | done a => ¬ S a
  | call op next => (P op ∧ ∀ r, ∃ a, next r = done a) ∨ ∀ r, (next r).Through P S

theorem Through.bind {P : Op → Prop} {S : α → Prop} {p : Program Op Res β}
    {f : β → Program Op Res α} (hf : ∀ b, (f b).Through P S) : (p >>= f).Through P S := by
  induction p with
  | done b => exact hf b
  | call op next ih => exact Or.inr ih

/-! ### One program alone -/

/-- The run of a program on a stream of choices: the final state, the value, and the choices that
are left. -/
def run (exec : (op : Op) → ε → σ → σ × Res op) :
    Program Op Res α → (ℕ → ε) → σ → σ × α × (ℕ → ε)
  | done a, env, s => (s, a, env)
  | call op next, env, s =>
    run exec (next (exec op (env 0) s).2) (fun n ↦ env (n + 1)) (exec op (env 0) s).1

/-- The run of a composition goes on where the run of its first part ends. -/
theorem run_bind {exec : (op : Op) → ε → σ → σ × Res op} {p : Program Op Res β}
    {f : β → Program Op Res α} {env env' : ℕ → ε} {s s' : σ} {b : β}
    (h : p.run exec env s = (s', b, env')) :
    (p >>= f).run exec env s = (f b).run exec env' s' := by
  induction p generalizing env s with
  | done b' =>
    cases h
    rfl
  | call op next ih => exact ih _ h

/-- A value that is computed from the end of a run. -/
theorem result_map {exec : (op : Op) → ε → σ → σ × Res op} (p : Program Op Res β) (f : β → α)
    (env : ℕ → ε) (s : σ) :
    ((p >>= fun b ↦ pure (f b)).run exec env s).2.1 = f (p.run exec env s).2.1 := by
  rw [run_bind (b := (p.run exec env s).2.1) rfl]
  rfl

/-- **What a program ensures holds when it is run alone**, on choices that are allowed at every
call. -/
theorem run_of_ensures {exec : (op : Op) → ε → σ → σ × Res op} {allows : σ → ε → Prop}
    (fits : σ → (ℕ → ε) → Prop)
    (hfits : ∀ s env, fits s env → allows s (env 0) ∧
      ∀ op, fits (exec op (env 0) s).1 fun n ↦ env (n + 1))
    {Q : α → σ → Prop} {p : Program Op Res α} {s : σ} {env : ℕ → ε}
    (h : p.Ensures (Setting.alone exec allows) Q s) (henv : fits s env) :
    Q (p.run exec env s).2.1 (p.run exec env s).1 := by
  induction p generalizing s env with
  | done a => exact h
  | call op next ih =>
    obtain ⟨hallows, hnext⟩ := hfits s env henv
    exact ih _ ((h s rfl).2 _ hallows) (hnext op)

/-- The choices that are left after a run fit the state it ends in. -/
theorem run_fits {exec : (op : Op) → ε → σ → σ × Res op} (fits : σ → (ℕ → ε) → Prop)
    (hfits : ∀ s env, fits s env → ∀ op, fits (exec op (env 0) s).1 fun n ↦ env (n + 1))
    (p : Program Op Res α) {s : σ} {env : ℕ → ε} (henv : fits s env) :
    fits (p.run exec env s).1 (p.run exec env s).2.2 := by
  induction p generalizing s env with
  | done a => exact henv
  | call op next ih => exact ih _ (hfits s env henv op)

/-- The same where everything is allowed. -/
theorem run_of_ensures_always {exec : (op : Op) → ε → σ → σ × Res op} {Q : α → σ → Prop}
    {p : Program Op Res α} {s : σ} {env : ℕ → ε}
    (h : p.Ensures (Setting.alone exec fun _ _ ↦ True) Q s) :
    Q (p.run exec env s).2.1 (p.run exec env s).1 :=
  run_of_ensures (fun _ _ ↦ True) (fun _ _ _ ↦ ⟨trivial, fun _ ↦ trivial⟩) h trivial

/-- Every call of a run is made where `G` holds of the state, the call and the choice. -/
def Along (exec : (op : Op) → ε → σ → σ × Res op) (G : σ → Op → ε → Prop) :
    Program Op Res α → (ℕ → ε) → σ → Prop
  | done _, _, _ => True
  | call op next, env, s => G s op (env 0) ∧
      Along exec G (next (exec op (env 0) s).2) (fun n ↦ env (n + 1)) (exec op (env 0) s).1

instance decidableAlong (exec : (op : Op) → ε → σ → σ × Res op) (G : σ → Op → ε → Prop)
    [∀ s op e, Decidable (G s op e)] :
    ∀ (p : Program Op Res α) (env : ℕ → ε) (s : σ), Decidable (p.Along exec G env s)
  | done _, _, _ => isTrue trivial
  | call _ _, _, _ => @instDecidableAnd _ _ _ (decidableAlong exec G _ _ _)

theorem along_congr {exec : (op : Op) → ε → σ → σ × Res op} {G G' : σ → Op → ε → Prop}
    (hG : ∀ s op e, G s op e ↔ G' s op e) {p : Program Op Res α} {env : ℕ → ε} {s : σ} :
    p.Along exec G env s ↔ p.Along exec G' env s := by
  induction p generalizing env s with
  | done a => exact Iff.rfl
  | call op next ih => exact and_congr (hG s op (env 0)) (ih _)

section Log

variable {exec : (op : Op) → ε → σ → σ × Res op} {γ : Type} {log : σ → List γ}
  {entry : σ → Op → ε → γ}

/-- Where every call adds an entry to a log, a run adds some. -/
theorem exists_log_run (hlog : ∀ s op e, log (exec op e s).1 = log s ++ [entry s op e])
    (p : Program Op Res α) (env : ℕ → ε) (s : σ) :
    ∃ made, log (p.run exec env s).1 = log s ++ made := by
  induction p generalizing env s with
  | done a => exact ⟨[], (List.append_nil _).symm⟩
  | call op next ih =>
    obtain ⟨made, hmade⟩ := ih (exec op (env 0) s).2 (fun n ↦ env (n + 1)) (exec op (env 0) s).1
    exact ⟨entry s op (env 0) :: made, by rw [run, hmade, hlog, List.append_assoc]; rfl⟩

/-- **The log rule.** A condition on the calls of a run is one on the entries that it adds. -/
theorem along_iff_log (hlog : ∀ s op e, log (exec op e s).1 = log s ++ [entry s op e])
    {C : γ → Prop} {p : Program Op Res α} {env : ℕ → ε} {s : σ} {made : List γ}
    (hmade : log (p.run exec env s).1 = log s ++ made) :
    p.Along exec (fun s op e ↦ C (entry s op e)) env s ↔ ∀ m ∈ made, C m := by
  induction p generalizing env s made with
  | done a =>
    obtain rfl : made = [] := List.append_cancel_left (hmade.symm.trans (List.append_nil _).symm)
    exact iff_of_true trivial (by simp)
  | call op next ih =>
    rw [run] at hmade
    obtain ⟨rest, hrest⟩ := exists_log_run hlog (next (exec op (env 0) s).2)
      (fun n ↦ env (n + 1)) (exec op (env 0) s).1
    obtain rfl : made = entry s op (env 0) :: rest := by
      rw [hrest, hlog, List.append_assoc] at hmade
      exact (List.append_cancel_left hmade).symm
    rw [List.forall_mem_cons, ← ih _ hrest]
    exact Iff.rfl

end Log

/-- **The two-run rule.** Two states are related, and stay related when the same call, made under
the same choice where `G` holds, is answered alike in both. Then the whole run is answered alike. -/
theorem run_related {exec : (op : Op) → ε → σ → σ × Res op} {G : σ → Op → ε → Prop}
    {R : σ → σ → Prop}
    (hstep : ∀ op e s t, G s op e → R s t →
      (exec op e t).2 = (exec op e s).2 ∧ R (exec op e s).1 (exec op e t).1)
    {p : Program Op Res α} {env : ℕ → ε} {s t : σ} (hG : p.Along exec G env s) (h : R s t) :
    (p.run exec env t).2.1 = (p.run exec env s).2.1 ∧
    R (p.run exec env s).1 (p.run exec env t).1 := by
  induction p generalizing env s t with
  | done a => exact ⟨rfl, h⟩
  | call op next ih =>
    obtain ⟨hcall, hrest⟩ := hG
    obtain ⟨hanswer, hnext⟩ := hstep op (env 0) s t hcall h
    rw [run, run, hanswer]
    exact ih _ hrest hnext

/-! ### A pool of programs -/

/-- A state and the programs that run on it. -/
structure Pool (Op : Type) (Res : Op → Type) (σ α : Type) where
  state : σ
  threads : List (Program Op Res α)

/-- One thread makes its next call. A thread that is done stays as it is. -/
def Pool.step (exec : (op : Op) → ε → σ → σ × Res op) (p : Pool Op Res σ α) (l : ℕ × ε) :
    Pool Op Res σ α :=
  match p.threads[l.1]? with
  | some (call op next) =>
    { state := (exec op l.2 p.state).1
      threads := p.threads.set l.1 (next (exec op l.2 p.state).2) }
  | _ => p

/-- The call that a thread makes next. -/
def Pool.nextCall (p : Pool Op Res σ α) (i : ℕ) : Option Op :=
  match p.threads[i]? with
  | some (call op _) => some op
  | _ => none

/-- The value of a thread that is done. -/
def Pool.result (p : Pool Op Res σ α) (i : ℕ) : Option α :=
  match p.threads[i]? with
  | some (done a) => some a
  | _ => none

theorem Pool.nextCall_eq_some_iff {p : Pool Op Res σ α} {i : ℕ} {op : Op} :
    p.nextCall i = some op ↔ ∃ next, p.threads[i]? = some (call op next) := by
  rw [Pool.nextCall]
  rcases p.threads[i]? with - | a | ⟨op', next⟩
  · simp
  · simp
  · constructor
    · intro h
      cases h
      exact ⟨next, rfl⟩
    · rintro ⟨next', h⟩
      cases h
      rfl

theorem Pool.result_eq_some_iff {p : Pool Op Res σ α} {i : ℕ} {a : α} :
    p.result i = some a ↔ p.threads[i]? = some (done a) := by
  rw [Pool.result]
  rcases p.threads[i]? with - | a' | ⟨op, next⟩ <;> simp

theorem Pool.step_call (exec : (op : Op) → ε → σ → σ × Res op) {p : Pool Op Res σ α} {l : ℕ × ε}
    {op : Op} {next : Res op → Program Op Res α} (h : p.threads[l.1]? = some (call op next)) :
    p.step exec l = { state := (exec op l.2 p.state).1
                      threads := p.threads.set l.1 (next (exec op l.2 p.state).2) } := by
  rw [Pool.step, h]

/-- What a step does: nothing, or a call of one thread. -/
theorem Pool.step_cases (exec : (op : Op) → ε → σ → σ × Res op) (p : Pool Op Res σ α)
    (l : ℕ × ε) :
    p.step exec l = p ∨ ∃ op next, p.threads[l.1]? = some (call op next) ∧
      p.step exec l = { state := (exec op l.2 p.state).1
                        threads := p.threads.set l.1 (next (exec op l.2 p.state).2) } := by
  rw [Pool.step]
  split
  · exact Or.inr ⟨_, _, ‹_›, rfl⟩
  · exact Or.inl rfl

/-- Where the threads of a pool come from: the thread that made its call goes on with the answer,
and the others are where they were. -/
theorem Pool.thread_of_step (exec : (op : Op) → ε → σ → σ × Res op) {p : Pool Op Res σ α}
    {l : ℕ × ε} {i : ℕ} {q : Program Op Res α} (hq : (p.step exec l).threads[i]? = some q) :
    p.threads[i]? = some q ∨ ∃ op next, i = l.1 ∧ p.threads[i]? = some (call op next) ∧
      q = next (exec op l.2 p.state).2 := by
  rcases p.step_cases exec l with hsame | ⟨op, next, hthread, hcall⟩
  · rw [hsame] at hq
    exact Or.inl hq
  · rw [hcall] at hq
    change (p.threads.set l.1 _)[i]? = some q at hq
    rw [List.getElem?_set] at hq
    split at hq
    · rename_i hi
      subst hi
      split at hq
      · exact Or.inr ⟨op, next, rfl, hthread, (Option.some.inj hq).symm⟩
      · cases hq
    · exact Or.inl hq

/-- The step of another thread leaves a thread where it is. -/
theorem Pool.thread_step_of_ne (exec : (op : Op) → ε → σ → σ × Res op) {p : Pool Op Res σ α}
    {l : ℕ × ε} {i : ℕ} (h : l.1 ≠ i) : (p.step exec l).threads[i]? = p.threads[i]? := by
  rcases p.step_cases exec l with hsame | ⟨op, next, -, hcall⟩
  · rw [hsame]
  · rw [hcall]
    exact List.getElem?_set_ne h

theorem Pool.thread_foldl_of_ne (exec : (op : Op) → ε → σ → σ × Res op) {p : Pool Op Res σ α}
    {i : ℕ} {ls : List (ℕ × ε)} (h : ∀ l ∈ ls, l.1 ≠ i) :
    (ls.foldl (Pool.step exec) p).threads[i]? = p.threads[i]? := by
  induction ls generalizing p with
  | nil => rfl
  | cons l ls ih =>
    rw [List.foldl_cons, ih fun l' hl' ↦ h l' (List.mem_cons_of_mem _ hl')]
    exact Pool.thread_step_of_ne exec (h l List.mem_cons_self)

/-- A thread that is done stays done. -/
theorem Pool.done_step (exec : (op : Op) → ε → σ → σ × Res op) {p : Pool Op Res σ α} {l : ℕ × ε}
    {i : ℕ} {a : α} (h : p.threads[i]? = some (done a)) :
    (p.step exec l).threads[i]? = some (done a) := by
  rcases p.step_cases exec l with hsame | ⟨op, next, hthread, hcall⟩
  · rw [hsame]
    exact h
  · rw [hcall]
    show (p.threads.set l.1 _)[i]? = some (done a)
    rw [List.getElem?_set_ne, h]
    rintro rfl
    rw [h] at hthread
    cases hthread

/-- A thread that is answered as is possible goes on as it should. -/
theorem Pool.under_step (exec : (op : Op) → ε → σ → σ × Res op) {p : Pool Op Res σ α} {l : ℕ × ε}
    {possible : (op : Op) → Res op → Prop} {P : Op → Prop} {Q : α → Prop} {i : ℕ}
    (hexec : ∀ op, P op → possible op (exec op l.2 p.state).2)
    (h : ∀ q, p.threads[i]? = some q → q.Under possible P Q) {q : Program Op Res α}
    (hq : (p.step exec l).threads[i]? = some q) : q.Under possible P Q := by
  rcases Pool.thread_of_step exec hq with hsame | ⟨op, next, -, hthread, rfl⟩
  · exact h q hsame
  · obtain ⟨hop, hnext⟩ := h _ hthread
    exact hnext _ (hexec op hop)

/-- A thread that reaches a value only through a call makes that call in the step in which it gets
there. -/
theorem Pool.through_step (exec : (op : Op) → ε → σ → σ × Res op) {p : Pool Op Res σ α}
    {l : ℕ × ε} {P : Op → Prop} {S : α → Prop} {i : ℕ}
    (h : ∀ q, p.threads[i]? = some q → q.Through P S ∨ ∃ a, q = done a) :
    (∀ q, (p.step exec l).threads[i]? = some q → q.Through P S ∨ ∃ a, q = done a) ∧
      ∀ a, (p.step exec l).threads[i]? = some (done a) → S a → p.threads[i]? = some (done a) ∨
        i = l.1 ∧ ∃ op next, P op ∧ p.threads[i]? = some (call op next) := by
  constructor
  · intro q hq
    rcases Pool.thread_of_step exec hq with hsame | ⟨op, next, -, hthread, rfl⟩
    · exact h q hsame
    · rcases h _ hthread with (⟨-, hdone⟩ | hlater) | ⟨_, hdone⟩
      · exact Or.inr (hdone _)
      · exact Or.inl (hlater _)
      · cases hdone
  · intro a hq ha
    rcases Pool.thread_of_step exec hq with hsame | ⟨op, next, hi, hthread, hnext⟩
    · exact Or.inl hsame
    · right
      rcases h _ hthread with (⟨hop, -⟩ | hlater) | ⟨_, hdone⟩
      · exact ⟨hi, op, next, hop, hthread⟩
      · have hnot := hlater (exec op l.2 p.state).2
        rw [← hnext] at hnot
        exact absurd ha hnot
      · cases hdone

/-- Every thread that is not done ensures its own postcondition. -/
def Pool.Ensured (S : Setting Op Res σ ε) (Q : ℕ → α → σ → Prop) (p : Pool Op Res σ α) : Prop :=
  ∀ i op next, p.threads[i]? = some (call op next) → (call op next).Ensures S (Q i) p.state

/-- **The rely-guarantee rule.** When every permitted call does what the others rely on, a step of
the pool leaves every thread ensuring its postcondition, and a thread that gets done in the step has
its postcondition. -/
theorem Pool.Ensured.step {S : Setting Op Res σ ε} {Q : ℕ → α → σ → Prop} {p : Pool Op Res σ α}
    (htrans : ∀ s t u, S.rely s t → S.rely t u → S.rely s u)
    (hguarantee : ∀ op e, S.permits p.state op → S.allows p.state e →
      S.rely p.state (S.exec op e p.state).1)
    (h : p.Ensured S Q) (hrefl : S.rely p.state p.state) {l : ℕ × ε} (hl : S.allows p.state l.2) :
    (p.step S.exec l).Ensured S Q ∧ S.rely p.state (p.step S.exec l).state ∧
      ∀ i a, (p.step S.exec l).threads[i]? = some (done a) →
        p.threads[i]? = some (done a) ∨ Q i a (p.step S.exec l).state := by
  rcases p.step_cases S.exec l with hsame | ⟨op, next, hthread, hcall⟩
  · rw [hsame]
    exact ⟨h, hrefl, fun i a hi ↦ Or.inl hi⟩
  · obtain ⟨hpermits, hnext⟩ := h l.1 op next hthread p.state hrefl
    have hrely : S.rely p.state (p.step S.exec l).state := by
      rw [hcall]
      exact hguarantee op l.2 hpermits hl
    -- the thread that made the call is the only one that went on
    have hown : ∀ q, q = next (S.exec op l.2 p.state).2 →
        q.Ensures S (Q l.1) (p.step S.exec l).state := by
      rintro q rfl
      rw [hcall]
      exact hnext l.2 hl
    have hthreads : ∀ i q, (p.step S.exec l).threads[i]? = some q →
        p.threads[i]? = some q ∨ i = l.1 ∧ q = next (S.exec op l.2 p.state).2 := by
      intro i q hq
      rcases Pool.thread_of_step S.exec hq with hsame | ⟨op', next', hi, hthread', hq'⟩
      · exact Or.inl hsame
      · rw [hi, hthread] at hthread'
        cases hthread'
        exact Or.inr ⟨hi, hq'⟩
    refine ⟨fun i op' next' hi ↦ ?_, hrely, fun i a hi ↦ ?_⟩
    · rcases hthreads i _ hi with hsame | ⟨rfl, hq⟩
      · exact (h i op' next' hsame).of_rely htrans hrely
      · exact hown _ hq
    · rcases hthreads i _ hi with hsame | ⟨rfl, hq⟩
      · exact Or.inl hsame
      · exact Or.inr (hown _ hq)

end Program

/-- A fallible composition that succeeds: both of its parts have. -/
theorem Except.exists_of_bind_eq_ok {ε α β : Type} {x : Except ε α} {f : α → Except ε β} {b : β}
    (h : (x >>= f) = .ok b) : ∃ a, x = .ok a ∧ f a = .ok b := by
  cases x with
  | error e => exact absurd h nofun
  | ok a => exact ⟨a, rfl, h⟩
