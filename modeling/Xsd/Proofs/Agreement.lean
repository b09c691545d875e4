import Xsd.Proofs.Steps

/-!
# Computations that agree

Two computations that start from related states come to the same result, in states that are related
again, or the first of them fails. What is said of a single computation is the case in which both are
the same.
-/

namespace Xsd

variable {ε σ α β : Type}

/-- In the state `s` a computation fails with the error `e` and leaves the state `t`. -/
def Fails (x : ExceptT ε (StateM σ) α) (s : σ) (e : ε) (t : σ) : Prop :=
  x.run.run s = (.error e, t)

theorem Yields.not_fails {x : ExceptT ε (StateM σ) α} {s t u : σ} {a : α} {e : ε}
    (h : Yields x s a t) : ¬ Fails x s e u := by
  intro h'
  cases h.symm.trans h'

theorem Fails.bind {x : ExceptT ε (StateM σ) α} {f : α → ExceptT ε (StateM σ) β} {s t : σ} {e : ε}
    (h : Fails x s e t) : Fails (x >>= f) s e t := by
  unfold Fails at h ⊢
  rw [ExceptT.run_bind, StateT.run_bind, h]
  rfl

theorem Yields.bind {x : ExceptT ε (StateM σ) α} {f : α → ExceptT ε (StateM σ) β} {s t : σ} {a : α}
    (h : Yields x s a t) : ((x >>= f).run.run s) = (f a).run.run t := by
  rw [ExceptT.run_bind, StateT.run_bind, h]
  rfl

/-! ## Outcomes apart from the state -/

/-- The outcome of a computation does not depend on the state, nor does the state change. Something
is said of the errors, and of the results. -/
def Inert (F : ε → Prop) (G : α → Prop) (x : ExceptT ε (StateM σ) α) : Prop :=
  ∃ r : Except ε α, x = liftM r ∧ (∀ e, r = .error e → F e) ∧ ∀ a, r = .ok a → G a

namespace Inert

variable {F : ε → Prop} {G : α → Prop} {H : β → Prop}

theorem pure {a : α} (h : G a) : Inert F G (Pure.pure a : ExceptT ε (StateM σ) α) := by
  refine ⟨.ok a, rfl, ?_, ?_⟩
  · intro e he
    cases he
  · intro b hb
    cases hb
    exact h

theorem throw {e : ε} (h : F e) :
    Inert F G (MonadExcept.throw e : ExceptT ε (StateM σ) α) := by
  refine ⟨.error e, rfl, ?_, ?_⟩
  · intro e' he
    cases he
    exact h
  · intro b hb
    cases hb

theorem lift {r : Except ε α} (hF : ∀ e, r = .error e → F e) (hG : ∀ a, r = .ok a → G a) :
    Inert F G (liftM r : ExceptT ε (StateM σ) α) :=
  ⟨r, rfl, hF, hG⟩

theorem bind {x : ExceptT ε (StateM σ) α} {f : α → ExceptT ε (StateM σ) β} (hx : Inert F G x)
    (hf : ∀ a, G a → Inert F H (f a)) : Inert F H (x >>= f) := by
  obtain ⟨r, rfl, hF, hG⟩ := hx
  cases r with
  | error e => exact throw (hF e rfl)
  | ok a => exact hf a (hG a rfl)

theorem map {x : ExceptT ε (StateM σ) α} {f : α → β} (hx : Inert F G x)
    (hf : ∀ a, G a → H (f a)) : Inert F H (f <$> x) :=
  bind hx fun a ha => pure (hf a ha)

theorem foldlM {f : α → β → ExceptT ε (StateM σ) α} {xs : List β}
    (hf : ∀ b ∈ xs, ∀ a, G a → Inert F G (f a b)) {a : α} (h : G a) :
    Inert F G (xs.foldlM f a) := by
  induction xs generalizing a with
  | nil => exact pure h
  | cons x xs ih =>
    rw [List.foldlM_cons]
    exact bind (hf x List.mem_cons_self a h) fun a' =>
      ih fun b mem => hf b (List.mem_cons_of_mem _ mem)

theorem weaken {F' : ε → Prop} {G' : α → Prop} {x : ExceptT ε (StateM σ) α} (hx : Inert F G x)
    (hF : ∀ e, F e → F' e) (hG : ∀ a, G a → G' a) : Inert F' G' x := by
  obtain ⟨r, rfl, hF', hG'⟩ := hx
  exact ⟨r, rfl, fun e he => hF e (hF' e he), fun a ha => hG a (hG' a ha)⟩

theorem upholds {P : σ → Prop} {x : ExceptT ε (StateM σ) α} (hx : Inert F G x) : Upholds P x := by
  obtain ⟨r, rfl, -⟩ := hx
  exact .lift r

theorem of_yields {x : ExceptT ε (StateM σ) α} {s t : σ} {a : α} (hx : Inert F G x)
    (h : Yields x s a t) : G a := by
  obtain ⟨r, rfl, -, hG⟩ := hx
  cases r with
  | error e => exact absurd h not_yields_throw
  | ok b =>
    obtain ⟨rfl, -⟩ := yields_pure_iff.mp h
    exact hG b rfl

end Inert

/-! ## Agreement -/

/-- From related states the computations come to one result, in states that are related as is said,
unless the first fails; then something is said of the error and of the state that is left. -/
def Agrees (P : σ → σ → Prop) (x : ExceptT ε (StateM σ) α) (y : ExceptT ε (StateM σ) α)
    (E : ε → σ → Prop) (Q : α → σ → σ → Prop) : Prop :=
  ∀ s t, P s t →
    (∃ a s' t', Yields x s a s' ∧ Yields y t a t' ∧ Q a s' t') ∨ ∃ e s', Fails x s e s' ∧ E e s'

namespace Agrees

variable {P P' : σ → σ → Prop} {E E' : ε → σ → Prop} {Q Q' : α → σ → σ → Prop}
  {R : β → σ → σ → Prop} {x : ExceptT ε (StateM σ) α} {y : ExceptT ε (StateM σ) α}

theorem pure {a : α} (h : ∀ s t, P s t → Q a s t) :
    Agrees P (Pure.pure a : ExceptT ε (StateM σ) α) (Pure.pure a) E Q :=
  fun s t hP => Or.inl ⟨a, s, t, rfl, rfl, h s t hP⟩

/-- Nothing is asked of the second computation where the first fails. -/
theorem throw {e : ε} (h : ∀ s t, P s t → E e s) :
    Agrees P (MonadExcept.throw e : ExceptT ε (StateM σ) α) y E Q :=
  fun s t hP => Or.inr ⟨e, s, rfl, h s t hP⟩

theorem bind {f : α → ExceptT ε (StateM σ) β} {g : α → ExceptT ε (StateM σ) β}
    (hx : Agrees P x y E Q) (hf : ∀ a, Agrees (Q a) (f a) (g a) E R) :
    Agrees P (x >>= f) (y >>= g) E R := by
  intro s t hP
  rcases hx s t hP with ⟨a, s', t', hs, ht, hQ⟩ | ⟨e, s', hs, hE⟩
  · unfold Yields Fails
    rw [hs.bind, ht.bind]
    exact hf a s' t' hQ
  · exact Or.inr ⟨e, s', hs.bind, hE⟩

/-- What follows may depend on the states that are found. -/
theorem getBind {f : σ → ExceptT ε (StateM σ) α} {g : σ → ExceptT ε (StateM σ) α}
    (h : ∀ s t, P s t → Agrees (fun s' t' => s' = s ∧ t' = t) (f s) (g t) E Q) :
    Agrees P (MonadState.get >>= f) (MonadState.get >>= g) E Q :=
  fun s t hP => h s t hP s t ⟨rfl, rfl⟩

theorem weaken (hx : Agrees P x y E Q) (hP : ∀ s t, P' s t → P s t)
    (hE : ∀ e s, E e s → E' e s) (hQ : ∀ a s t, Q a s t → Q' a s t) : Agrees P' x y E' Q' := by
  intro s t h
  rcases hx s t (hP s t h) with ⟨a, s', t', hs, ht, h⟩ | ⟨e, s', hs, h⟩
  · exact Or.inl ⟨a, s', t', hs, ht, hQ a s' t' h⟩
  · exact Or.inr ⟨e, s', hs, hE e s' h⟩

/-- The same computation on both sides, whose outcome does not depend on the state. -/
theorem inert {F : ε → Prop} {G : α → Prop} (hx : Inert F G x)
    (hE : ∀ e s t, P s t → F e → E e s) : Agrees P x x E fun a s t => P s t ∧ G a := by
  obtain ⟨r, rfl, hF, hG⟩ := hx
  intro s t hP
  cases r with
  | error e => exact Or.inr ⟨e, s, rfl, hE e s t hP (hF e rfl)⟩
  | ok a => exact Or.inl ⟨a, s, t, rfl, rfl, hP, hG a rfl⟩

theorem inertBind {F : ε → Prop} {G : α → Prop} {f g : α → ExceptT ε (StateM σ) β}
    (hx : Inert F G x) (hE : ∀ e s t, P s t → F e → E e s)
    (hf : ∀ a, G a → Agrees P (f a) (g a) E R) : Agrees P (x >>= f) (x >>= g) E R :=
  bind (inert hx hE) fun a s t hP => hf a hP.2 s t hP.1

theorem foldlM {f : β → α → ExceptT ε (StateM σ) β} {g : β → α → ExceptT ε (StateM σ) β}
    {xs : List α} (h : ∀ x ∈ xs, ∀ b, Agrees (R b) (f b x) (g b x) E R) (b : β) :
    Agrees (R b) (xs.foldlM f b) (xs.foldlM g b) E R := by
  induction xs generalizing b with
  | nil => exact pure fun s t hR => hR
  | cons x xs ih =>
    rw [List.foldlM_cons, List.foldlM_cons]
    exact bind (h x List.mem_cons_self b) fun b' =>
      ih (fun x mem => h x (List.mem_cons_of_mem _ mem)) b'

end Agrees

end Xsd
