import Mathlib

/-!
# Steps

How a chain of steps that can fail comes to a result: each of them does. And what a computation keeps
of its state, whether it fails or not; one that fails leaves the state as it is by then.
-/

namespace Xsd

variable {ε σ α β : Type} {P : σ → Prop}

/-! ## Steps that can fail -/

theorem bind_eq_ok_iff {x : Except ε α} {f : α → Except ε β} {b : β} :
    x >>= f = .ok b ↔ ∃ a, x = .ok a ∧ f a = .ok b := by
  cases x with
  | error e =>
    constructor
    · intro h
      cases h
    · rintro ⟨a, h, _⟩
      cases h
  | ok a =>
    constructor
    · intro h
      exact ⟨a, rfl, h⟩
    · rintro ⟨a', h, hf⟩
      cases h
      exact hf

/-- A step without a result only has to succeed. -/
theorem then_eq_ok_iff {x : Except ε Unit} {f : Unit → Except ε β} {b : β} :
    x >>= f = .ok b ↔ x = .ok () ∧ f () = .ok b := by
  rw [bind_eq_ok_iff]
  constructor
  · rintro ⟨⟨⟩, hx, hf⟩
    exact ⟨hx, hf⟩
  · rintro ⟨hx, hf⟩
    exact ⟨(), hx, hf⟩

theorem pure_eq_ok_iff {a b : α} : (pure a : Except ε α) = .ok b ↔ a = b :=
  ⟨fun h => Except.ok.inj h, fun h => h ▸ rfl⟩

theorem isOk_iff {x : Except ε α} : x.isOk = true ↔ ∃ a, x = .ok a := by
  cases x <;> simp [Except.isOk, Except.toBool]

theorem toOption_eq_some_iff {x : Except ε α} {a : α} : x.toOption = some a ↔ x = .ok a := by
  cases x <;> simp [Except.toOption]

theorem discard_eq_ok_iff {x : Except ε α} : discard x = .ok () ↔ ∃ a, x = .ok a := by
  cases x with
  | error e =>
    constructor
    · intro h
      cases h
    · rintro ⟨a, h⟩
      cases h
  | ok a =>
    constructor
    · intro _
      exact ⟨a, rfl⟩
    · intro _
      rfl

theorem forM_eq_ok_iff {xs : List α} {f : α → Except ε Unit} :
    xs.forM f = .ok () ↔ ∀ x ∈ xs, f x = .ok () := by
  induction xs with
  | nil => simp [List.forM, pure_eq_ok_iff]
  | cons x xs ih => rw [List.forM, then_eq_ok_iff, ih, List.forall_mem_cons]

/-- With a state the steps are taken one after the other, each in the state that the one before it
leaves. -/
theorem run_bind_eq_ok_iff {x : StateT σ (Except ε) α} {f : α → StateT σ (Except ε) β} {s t : σ}
    {b : β} :
    (x >>= f).run s = .ok (b, t) ↔ ∃ a u, x.run s = .ok (a, u) ∧ (f a).run u = .ok (b, t) := by
  rw [StateT.run_bind, bind_eq_ok_iff, Prod.exists]

theorem run_pure_eq_ok_iff {a b : α} {s t : σ} :
    (pure a : StateT σ (Except ε) α).run s = .ok (b, t) ↔ a = b ∧ s = t := by
  rw [StateT.run_pure, pure_eq_ok_iff, Prod.mk.injEq]

/-! ## Steps on a state -/

/-- The property holds of the state that a computation leaves if it holds of the one it finds. -/
def Keeps (P : σ → Prop) (x : StateM σ α) : Prop :=
  ∀ s, P s → P (x.run s).2

namespace Keeps

theorem pure (a : α) : Keeps P (Pure.pure a : StateM σ α) := fun _ hs => hs

theorem bind {x : StateM σ α} {f : α → StateM σ β} (hx : Keeps P x) (hf : ∀ a, Keeps P (f a)) :
    Keeps P (x >>= f) :=
  fun s hs => hf (x.run s).1 (x.run s).2 (hx s hs)

theorem get : Keeps P (MonadState.get : StateM σ σ) := fun _ hs => hs

/-- What follows may depend on the state that is found. -/
theorem getBind {f : σ → StateM σ β} (hf : ∀ s, P s → P ((f s).run s).2) :
    Keeps P (MonadState.get >>= f) :=
  hf

theorem modify {f : σ → σ} (hf : ∀ s, P s → P (f s)) : Keeps P (modify f : StateM σ Unit) :=
  hf

theorem discard {x : StateM σ α} (hx : Keeps P x) : Keeps P (Functor.discard x) :=
  bind hx fun _ => pure ()

theorem set {t : σ} (ht : P t) : Keeps P (MonadStateOf.set t : StateM σ PUnit) := fun _ _ => ht

theorem foldlM {f : β → α → StateM σ β} (hf : ∀ b a, Keeps P (f b a)) {xs : List α} {b : β} :
    Keeps P (xs.foldlM f b) := by
  induction xs generalizing b with
  | nil => exact pure b
  | cons x xs ih => exact bind (hf b x) fun b => ih

theorem forM {f : α → StateM σ Unit} (hf : ∀ a, Keeps P (f a)) {xs : List α} :
    Keeps P (xs.forM f) := by
  induction xs with
  | nil => exact pure ()
  | cons x xs ih => exact bind (hf x) fun _ => ih

theorem mapM {f : α → StateM σ β} (hf : ∀ a, Keeps P (f a)) {xs : List α} :
    Keeps P (xs.mapM f) := by
  induction xs with
  | nil => exact pure []
  | cons x xs ih =>
    rw [List.mapM_cons]
    exact bind (hf x) fun b => bind ih fun bs => pure (b :: bs)

end Keeps

/-- The same for a computation that can fail. -/
def Upholds (P : σ → Prop) (x : ExceptT ε (StateM σ) α) : Prop :=
  Keeps P x.run

namespace Upholds

theorem pure (a : α) : Upholds P (Pure.pure a : ExceptT ε (StateM σ) α) := fun _ hs => hs

theorem throw (e : ε) : Upholds P (MonadExcept.throw e : ExceptT ε (StateM σ) α) := fun _ hs => hs

/-- An outcome that does not depend on the state. -/
theorem lift (x : Except ε α) : Upholds P (liftM x : ExceptT ε (StateM σ) α) := fun _ hs => hs

/-- A computation that cannot fail. -/
theorem ofKeeps {x : StateM σ α} (hx : Keeps P x) :
    Upholds P (liftM x : ExceptT ε (StateM σ) α) :=
  Keeps.bind hx fun a => Keeps.pure (Except.ok a)

theorem bind {x : ExceptT ε (StateM σ) α} {f : α → ExceptT ε (StateM σ) β} (hx : Upholds P x)
    (hf : ∀ a, Upholds P (f a)) : Upholds P (x >>= f) := by
  rw [Upholds, ExceptT.run_bind]
  refine Keeps.bind hx fun r => ?_
  cases r with
  | ok a => exact hf a
  | error e => exact Keeps.pure (Except.error e)

theorem get : Upholds P (MonadState.get : ExceptT ε (StateM σ) σ) := fun _ hs => hs

theorem modify {f : σ → σ} (hf : ∀ s, P s → P (f s)) :
    Upholds P (modify f : ExceptT ε (StateM σ) Unit) :=
  hf

theorem modifyGet {f : σ → α × σ} (hf : ∀ s, P s → P (f s).2) :
    Upholds P (MonadStateOf.modifyGet f : ExceptT ε (StateM σ) α) :=
  hf

theorem discard {x : ExceptT ε (StateM σ) α} (hx : Upholds P x) : Upholds P (Functor.discard x) :=
  bind hx fun _ => pure ()

theorem foldlM {f : β → α → ExceptT ε (StateM σ) β} (hf : ∀ b a, Upholds P (f b a)) {xs : List α}
    {b : β} : Upholds P (xs.foldlM f b) := by
  induction xs generalizing b with
  | nil => exact pure b
  | cons x xs ih => exact bind (hf b x) fun b => ih

theorem forM {f : α → ExceptT ε (StateM σ) Unit} (hf : ∀ a, Upholds P (f a)) {xs : List α} :
    Upholds P (xs.forM f) := by
  induction xs with
  | nil => exact pure ()
  | cons x xs ih => exact bind (hf x) fun _ => ih

theorem mapM {f : α → ExceptT ε (StateM σ) β} (hf : ∀ a, Upholds P (f a)) {xs : List α} :
    Upholds P (xs.mapM f) := by
  induction xs with
  | nil => exact pure []
  | cons x xs ih =>
    rw [List.mapM_cons]
    exact bind (hf x) fun b => bind ih fun bs => pure (b :: bs)

theorem tryCatch {x : ExceptT ε (StateM σ) α} {handle : ε → ExceptT ε (StateM σ) α}
    (hx : Upholds P x) (hh : ∀ e, Upholds P (handle e)) : Upholds P (MonadExcept.tryCatch x handle) := by
  rw [Upholds, ExceptT.run_tryCatch]
  refine Keeps.bind hx fun r => ?_
  cases r with
  | ok a => exact Keeps.pure (Except.ok a)
  | error e => exact hh e

end Upholds

/-! ## Results -/

/-- In the state `s` a computation comes to the result `a` and leaves the state `t`. -/
def Yields (x : ExceptT ε (StateM σ) α) (s : σ) (a : α) (t : σ) : Prop :=
  x.run.run s = (.ok a, t)

variable {x : ExceptT ε (StateM σ) α} {f : α → ExceptT ε (StateM σ) β} {s t : σ} {a b : α}

theorem Upholds.of_yields (hx : Upholds P x) (h : Yields x s a t) (hs : P s) : P t := by
  have := hx s hs
  rwa [h] at this

theorem yields_pure_iff : Yields (pure a : ExceptT ε (StateM σ) α) s b t ↔ a = b ∧ s = t := by
  constructor
  · rintro ⟨⟩
    exact ⟨rfl, rfl⟩
  · rintro ⟨rfl, rfl⟩
    rfl

theorem not_yields_throw {e : ε} : ¬ Yields (throw e : ExceptT ε (StateM σ) α) s a t := by
  rintro ⟨⟩

theorem yields_get_iff {u : σ} :
    Yields (get : ExceptT ε (StateM σ) σ) s u t ↔ s = u ∧ s = t := by
  constructor
  · rintro ⟨⟩
    exact ⟨rfl, rfl⟩
  · rintro ⟨rfl, rfl⟩
    rfl

/-- A chain of steps comes to a result if each step does, in the state that the one before it
leaves. -/
theorem yields_bind_iff {b : β} :
    Yields (x >>= f) s b t ↔ ∃ a u, Yields x s a u ∧ Yields (f a) u b t := by
  unfold Yields
  rw [ExceptT.run_bind, StateT.run_bind]
  rcases hx : x.run.run s with ⟨r, u⟩
  cases r with
  | ok a =>
    constructor
    · intro h
      exact ⟨a, u, rfl, h⟩
    · rintro ⟨a, u, ⟨⟩, h⟩
      exact h
  | error e =>
    constructor
    · rintro ⟨⟩
    · rintro ⟨a, u, ⟨⟩, -⟩

end Xsd
