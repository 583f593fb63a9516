import Mathlib.Data.List.Induction
import Mathlib.Logic.Relation

/-!
# Guarded runs of a labelled system

A labelled system is a step relation whose steps carry a label. A *guard* is a condition on a
label in the state its step starts from, and a *guarded run* takes only steps that meet the
guard. An unrestricted run is the run of the trivial guard, so one induction rule
(`GuardedRun.invariant`) serves both readings:

* a safety property of every run is an invariant kept by every step;
* a safety property of the runs that avoid some step is an invariant kept by every step that
  meets the guard.

A system given by a step *function* (`ofFun`) is run by folding its labels
(`run_ofFun_foldl`), which is what makes a concrete run checkable by evaluation.

For a step function a property may be characterised along a run and not only established: when the
guard of each step says exactly whether the step keeps the property, the property holds throughout
a run if and only if every step meets its guard (`throughout_iff_guarded`).

When a step may break the property and a later one mend it, only the end of the run counts: a
*verdict* says of each step whether the property holds after it, given whether it held before, and
the verdict of the whole run is that of its steps, one after the other (`foldl_iff_lastVerdict`).

What a step puts out can be collected along the run (`outputs`). An observation that a step sets to
what it puts out, and leaves alone when it puts out nothing, is at the end of a run the last output
(`observe_foldl`).

A `History` is a state with those before it, for properties that speak of more than one moment of a
run: a step of the system is a step of its histories (`History.step`).
-/

/-- A labelled transition system: the states a labelled step may lead to. -/
structure LabelledSystem (σ ℓ : Type*) where
  /-- `Step s l t`: the step labelled `l` may lead from `s` to `t`. -/
  Step : σ → ℓ → σ → Prop

namespace LabelledSystem

variable {σ ℓ : Type*} (S : LabelledSystem σ ℓ)

/-- One step whose label meets the guard in the state the step starts from. -/
def GuardedStep (G : σ → ℓ → Prop) (s t : σ) : Prop :=
  ∃ l, G s l ∧ S.Step s l t

/-- A run all of whose steps meet the guard. -/
def GuardedRun (G : σ → ℓ → Prop) : σ → σ → Prop :=
  Relation.ReflTransGen (S.GuardedStep G)

/-- An unrestricted run. -/
def Run : σ → σ → Prop :=
  S.GuardedRun fun _ _ ↦ True

variable {S}

theorem GuardedRun.refl {G : σ → ℓ → Prop} (s : σ) : S.GuardedRun G s s :=
  Relation.ReflTransGen.refl

theorem GuardedRun.tail {G : σ → ℓ → Prop} {s t u : σ} {l : ℓ} (h : S.GuardedRun G s t)
    (hG : G t l) (hstep : S.Step t l u) : S.GuardedRun G s u :=
  Relation.ReflTransGen.tail h ⟨l, hG, hstep⟩

/-- **The invariant rule.** A property that holds at the start and is kept by every step meeting
the guard holds at the end of every guarded run. -/
theorem GuardedRun.invariant {G : σ → ℓ → Prop} {I : σ → Prop}
    (hstep : ∀ {s l t}, I s → G s l → S.Step s l t → I t) {s t : σ}
    (h : S.GuardedRun G s t) (hs : I s) : I t := by
  induction h with
  | refl => exact hs
  | tail _ hlast ih =>
    obtain ⟨l, hG, hl⟩ := hlast
    exact hstep ih hG hl

/-- A guarded run of a stronger guard is a guarded run of a weaker one. -/
theorem GuardedRun.mono {G H : σ → ℓ → Prop} (hGH : ∀ s l, G s l → H s l) {s t : σ}
    (h : S.GuardedRun G s t) : S.GuardedRun H s t := by
  induction h with
  | refl => exact GuardedRun.refl _
  | tail _ hlast ih =>
    obtain ⟨l, hG, hl⟩ := hlast
    exact ih.tail (hGH _ _ hG) hl

/-- The invariant rule for unrestricted runs. -/
theorem Run.invariant {I : σ → Prop} (hstep : ∀ {s l t}, I s → S.Step s l t → I t) {s t : σ}
    (h : S.Run s t) (hs : I s) : I t :=
  GuardedRun.invariant (fun hI _ hl ↦ hstep hI hl) h hs

/-- The system of a step function. -/
def ofFun (step : σ → ℓ → σ) : LabelledSystem σ ℓ where
  Step s l t := step s l = t

@[simp]
theorem ofFun_step {step : σ → ℓ → σ} {s t : σ} {l : ℓ} :
    (ofFun step).Step s l t ↔ step s l = t :=
  Iff.rfl

/-- Folding the labels of a step function is a run. -/
theorem run_ofFun_foldl (step : σ → ℓ → σ) (ls : List ℓ) (s : σ) :
    (ofFun step).Run s (ls.foldl step s) := by
  induction ls using List.reverseRecOn with
  | nil => exact GuardedRun.refl s
  | append_singleton ls l ih =>
    rw [List.foldl_append]
    exact ih.tail trivial rfl

/-- The invariant rule for the runs of a step function. -/
theorem foldl_invariant {step : σ → ℓ → σ} {I : σ → Prop} (hstep : ∀ s l, I s → I (step s l))
    (ls : List ℓ) {s : σ} (hs : I s) : I (ls.foldl step s) := by
  refine Run.invariant ?_ (run_ofFun_foldl step ls s) hs
  rintro s l _ hI rfl
  exact hstep s l hI

/-! ### Label by label -/

section Function

variable (step : σ → ℓ → σ)

/-- `P` holds in every state of the run of a list of labels. -/
def Throughout (P : σ → Prop) : σ → List ℓ → Prop
  | s, [] => P s
  | s, l :: ls => P s ∧ Throughout P (step s l) ls

/-- Every label of a list meets the guard in the state that its step starts from. -/
def Guarded (G : σ → ℓ → Prop) : σ → List ℓ → Prop
  | _, [] => True
  | s, l :: ls => G s l ∧ Guarded G (step s l) ls

/-- The verdict at the end of a run, from the one before it. -/
def lastVerdict (verdict : σ → Prop → ℓ → Prop) : σ → Prop → List ℓ → Prop
  | _, before, [] => before
  | s, before, l :: ls => lastVerdict verdict (step s l) (verdict s before l) ls

/-- What the steps of a run put out, in order. -/
def outputs {ω : Type*} (out : σ → ℓ → Option ω) : σ → List ℓ → List ω
  | _, [] => []
  | s, l :: ls => (out s l).toList ++ outputs out (step s l) ls

variable {step}

instance instDecidableGuarded {G : σ → ℓ → Prop} [∀ s l, Decidable (G s l)] :
    ∀ s ls, Decidable (Guarded step G s ls)
  | _, [] => inferInstanceAs (Decidable True)
  | s, l :: ls =>
    haveI : Decidable (Guarded step G (step s l) ls) := instDecidableGuarded (step s l) ls
    inferInstanceAs (Decidable (G s l ∧ Guarded step G (step s l) ls))

instance instDecidableThroughout {P : σ → Prop} [∀ s, Decidable (P s)] :
    ∀ s ls, Decidable (Throughout step P s ls)
  | s, [] => inferInstanceAs (Decidable (P s))
  | s, l :: ls =>
    haveI : Decidable (Throughout step P (step s l) ls) := instDecidableThroughout (step s l) ls
    inferInstanceAs (Decidable (P s ∧ Throughout step P (step s l) ls))

theorem Throughout.start {P : σ → Prop} {s : σ} {ls : List ℓ} (h : Throughout step P s ls) :
    P s := by
  cases ls with
  | nil => exact h
  | cons l ls => exact h.1

theorem Throughout.final {P : σ → Prop} {s : σ} {ls : List ℓ} (h : Throughout step P s ls) :
    P (ls.foldl step s) := by
  induction ls generalizing s with
  | nil => exact h
  | cons l ls ih => exact ih h.2

/-- A weaker guard is met by more labels. -/
theorem Guarded.imp {G H : σ → ℓ → Prop} (hGH : ∀ s l, G s l → H s l) {s : σ} {ls : List ℓ}
    (h : Guarded step G s ls) : Guarded step H s ls := by
  induction ls generalizing s with
  | nil => trivial
  | cons l ls ih => exact ⟨hGH s l h.1, ih h.2⟩

/-- **The exactness rule.** Let `I` be kept by every step. When, under `I`, a step keeps `P` exactly
if its label meets the guard, a run keeps `P` throughout exactly if all its labels do. -/
theorem throughout_iff_guarded {I P : σ → Prop} {G : σ → ℓ → Prop}
    (hI : ∀ s l, I s → I (step s l)) (hP : ∀ s l, I s → P s → (P (step s l) ↔ G s l)) {s : σ}
    (hs : I s) (hsP : P s) (ls : List ℓ) :
    Throughout step P s ls ↔ Guarded step G s ls := by
  induction ls generalizing s with
  | nil => exact iff_of_true hsP trivial
  | cons l ls ih =>
    constructor
    · rintro ⟨-, htail⟩
      have hnext : P (step s l) := htail.start
      exact ⟨(hP s l hs hsP).1 hnext, (ih (hI s l hs) hnext).1 htail⟩
    · rintro ⟨hG, htail⟩
      have hnext : P (step s l) := (hP s l hs hsP).2 hG
      exact ⟨hsP, (ih (hI s l hs) hnext).2 htail⟩

/-- **The verdict rule.** Let `I` be kept by every step. When, under `I`, the verdict on a step says
whether `P` holds after it, the verdict on a run says whether `P` holds at its end. -/
theorem foldl_iff_lastVerdict {I P : σ → Prop} {verdict : σ → Prop → ℓ → Prop}
    (hI : ∀ s l, I s → I (step s l)) (hP : ∀ s l, I s → (P (step s l) ↔ verdict s (P s) l)) {s : σ}
    (hs : I s) {before : Prop} (h : P s ↔ before) (ls : List ℓ) :
    P (ls.foldl step s) ↔ lastVerdict step verdict s before ls := by
  induction ls generalizing s before with
  | nil => exact h
  | cons l ls ih =>
    refine ih (hI s l hs) ((hP s l hs).trans ?_)
    rw [propext h]

/-- **The last output is what is observed.** -/
theorem observe_foldl {α ω : Type*} {observe : σ → α} {out : σ → ℓ → Option ω} {value : ω → α}
    (hstep : ∀ s l, observe (step s l) = ((out s l).map value).getD (observe s)) (s : σ)
    (ls : List ℓ) :
    observe (ls.foldl step s) =
      ((outputs step out s ls).getLast?.map value).getD (observe s) := by
  induction ls generalizing s with
  | nil => rfl
  | cons l ls ih =>
    rw [List.foldl_cons, ih, outputs, List.getLast?_append, hstep]
    cases (outputs step out (step s l) ls).getLast? <;> cases out s l <;> rfl

/-- A run of steps that meet a guard has an invariant that such steps keep, in every state. -/
theorem Guarded.throughout {I P : σ → Prop} {G : σ → ℓ → Prop}
    (hstep : ∀ s l, I s → G s l → I (step s l)) (hP : ∀ s, I s → P s) {s : σ} (hs : I s)
    {ls : List ℓ} (h : Guarded step G s ls) : Throughout step P s ls := by
  induction ls generalizing s with
  | nil => exact hP s hs
  | cons l ls ih => exact ⟨hP s hs, ih (hstep s l hs h.1) h.2⟩

end Function

/-! ### Runs that remember -/

/-- A state and those that came before it, the latest first. -/
structure History (σ : Type*) where
  now : σ
  past : List σ

namespace History

/-- The history that begins. -/
def start (s : σ) : History σ :=
  ⟨s, []⟩

/-- A step of the current state. -/
def step (step : σ → ℓ → σ) (h : History σ) (l : ℓ) : History σ :=
  ⟨step h.now l, h.now :: h.past⟩

/-- The states so far. -/
def moments (h : History σ) : List σ :=
  h.now :: h.past

variable {next : σ → ℓ → σ} {h : History σ} {l : ℓ} {s t : σ}

@[simp]
theorem moments_start : (start s).moments = [s] :=
  rfl

@[simp]
theorem moments_step : (h.step next l).moments = next h.now l :: h.moments :=
  rfl

@[simp]
theorem now_start : (start s).now = s :=
  rfl

@[simp]
theorem now_step : (h.step next l).now = next h.now l :=
  rfl

theorem now_mem_moments : h.now ∈ h.moments :=
  List.mem_cons_self

/-- What was is not undone by a step. -/
theorem mem_moments_step (ht : t ∈ h.moments) : t ∈ (h.step next l).moments :=
  List.mem_cons_of_mem _ ht

theorem now_foldl (ls : List ℓ) (h : History σ) :
    (ls.foldl (History.step next) h).now = ls.foldl next h.now := by
  induction ls generalizing h with
  | nil => rfl
  | cons l ls ih => exact ih (h.step next l)

/-- The state after the first steps of a run is a moment of the run. -/
theorem now_mem_moments_append (ls ls' : List ℓ) (h : History σ) :
    (ls.foldl (History.step next) h).now ∈ ((ls ++ ls').foldl (History.step next) h).moments := by
  rw [List.foldl_append]
  generalize ls.foldl (History.step next) h = h'
  suffices hgen : ∀ t ∈ h'.moments, t ∈ (ls'.foldl (History.step next) h').moments from
    hgen _ now_mem_moments
  induction ls' generalizing h' with
  | nil => exact fun t ht ↦ ht
  | cons l ls' ih => exact fun t ht ↦ ih (h'.step next l) t (mem_moments_step ht)

end History

end LabelledSystem
