import Sumurai.Foundations.Programs

/-!
# Programs among programs that can do more

A `CallEmbedding` makes the calls of one kind of program calls of another kind. The embedded program
(`Program.embed`) runs on a larger state, of which the program sees a `view`. `run_embed` says that
it does there what it does by itself, `run_embed_bind` that it does so too where calls follow that
the view does not see, and `Ensures.embed` that what it ensures by itself it ensures there.
-/

variable {Op Op' : Type} {Res : Op → Type} {Res' : Op' → Type} {α σ σ' ε ε' : Type}

/-- The calls of one kind among those of another, with what the answers mean. -/
structure CallEmbedding (Op : Type) (Res : Op → Type) (Op' : Type) (Res' : Op' → Type) where
  op : Op → Op'
  answer : ∀ o, Res' (op o) → Res o

namespace CallEmbedding

/-- The embedded calls do to the view of a state, and answer, what the calls do and answer. -/
structure Runs (i : CallEmbedding Op Res Op' Res') (exec : (o : Op) → ε → σ → σ × Res o)
    (exec' : (o : Op') → ε' → σ' → σ' × Res' o) (view : σ' → σ) (choice : ε' → ε) : Prop where
  state : ∀ o e s, view (exec' (i.op o) e s).1 = (exec o (choice e) (view s)).1
  answer : ∀ o e s, i.answer o (exec' (i.op o) e s).2 = (exec o (choice e) (view s)).2

end CallEmbedding

namespace Program

/-- A program with its calls embedded. -/
def embed (i : CallEmbedding Op Res Op' Res') : Program Op Res α → Program Op' Res' α
  | done a => done a
  | call o next => call (i.op o) fun r ↦ embed i (next (i.answer o r))

theorem bind_assoc {β γ : Type} (p : Program Op Res α) (f : α → Program Op Res β)
    (g : β → Program Op Res γ) : (p >>= f) >>= g = p >>= fun a ↦ f a >>= g := by
  induction p with
  | done a => rfl
  | call o next ih => exact congrArg (call o) (funext fun r ↦ ih r)

theorem bind_pure (p : Program Op Res α) : (p >>= fun a ↦ pure a) = p := by
  induction p with
  | done a => rfl
  | call o next ih => exact congrArg (call o) (funext fun r ↦ ih r)

/-- What comes after each continuation comes after the whole. -/
theorem bind_eq_bind_bind {β γ : Type} {p : Program Op Res α} {f : α → Program Op Res β}
    {g : α → Program Op Res γ} {k : β → Program Op Res γ} (h : ∀ a, g a = f a >>= k) :
    p >>= g = (p >>= f) >>= k := by
  rw [Program.bind_assoc]
  exact bind_congr h

section Embed

variable {i : CallEmbedding Op Res Op' Res'} {exec : (o : Op) → ε → σ → σ × Res o}
  {exec' : (o : Op') → ε' → σ' → σ' × Res' o} {view : σ' → σ} {choice : ε' → ε}

/-- **An embedded program does to the view what it does by itself.** -/
theorem run_embed (h : i.Runs exec exec' view choice) (p : Program Op Res α) (env : ℕ → ε')
    (s : σ') :
    view ((p.embed i).run exec' env s).1 = (p.run exec (fun n ↦ choice (env n)) (view s)).1 ∧
      ((p.embed i).run exec' env s).2.1 = (p.run exec (fun n ↦ choice (env n)) (view s)).2.1 := by
  induction p generalizing env s with
  | done a => exact ⟨rfl, rfl⟩
  | call o next ih =>
    rw [embed, run, run, h.answer, ← h.state]
    exact ih _ _ _

/-- **What the view does not see.** An embedded program, with calls after it that leave the view
alone, does to the view what the program does by itself. -/
theorem run_embed_bind (h : i.Runs exec exec' view choice) {β : Type} {k : α → Program Op' Res' β}
    {f : α → β} (hk : ∀ a env s, view ((k a).run exec' env s).1 = view s ∧
      ((k a).run exec' env s).2.1 = f a) (p : Program Op Res α) (env : ℕ → ε') (s : σ') :
    view ((p.embed i >>= k).run exec' env s).1 =
        ((p >>= fun a ↦ pure (f a)).run exec (fun n ↦ choice (env n)) (view s)).1 ∧
      ((p.embed i >>= k).run exec' env s).2.1 =
        ((p >>= fun a ↦ pure (f a)).run exec (fun n ↦ choice (env n)) (view s)).2.1 := by
  obtain ⟨hstate, hvalue⟩ := run_embed h p env s
  rw [run_bind (p := p.embed i) rfl, run_bind (p := p) rfl]
  obtain ⟨hview, hresult⟩ := hk ((p.embed i).run exec' env s).2.1
    ((p.embed i).run exec' env s).2.2 ((p.embed i).run exec' env s).1
  exact ⟨hview.trans hstate, hresult.trans (congrArg f hvalue)⟩

/-- **The embedding rule.** An embedded program ensures of the view what it ensures by itself, and
leaves alone what its calls leave alone. -/
theorem Ensures.embed (h : i.Runs exec exec' view choice) {allows : σ → ε → Prop}
    {allows' : σ' → ε' → Prop} (hallows : ∀ s e, allows' s e → allows (view s) (choice e))
    {J : σ' → Prop} (hJ : ∀ o e s, J s → J (exec' (i.op o) e s).1) {p : Program Op Res α}
    {Q : α → σ → Prop} {s : σ'} (hp : p.Ensures (Setting.alone exec allows) Q (view s)) (hs : J s) :
    (p.embed i).Ensures (Setting.alone exec' allows') (fun a s' ↦ Q a (view s') ∧ J s') s := by
  induction p generalizing s with
  | done a => exact ⟨hp, hs⟩
  | call o next ih =>
    refine fun s' hs' ↦ ⟨trivial, fun e he ↦ ?_⟩
    obtain rfl : s = s' := hs'
    refine ih _ ?_ (hJ o e s hs)
    -- the answer that the program sees is the one to its own call
    show Ensures _ _ (next (i.answer o (exec' (i.op o) e s).2)) (view (exec' (i.op o) e s).1)
    rw [h.answer, h.state]
    exact (hp _ rfl).2 (choice e) (hallows s e he)

end Embed

end Program
