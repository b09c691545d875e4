import Xsd.Proofs.Schema.Passes
import Xsd.Proofs.Schema.Shapes

/-!
# Reading and resolving within limits

A limit that is exceeded is an error, and an error that has been noted is not forgotten. So what is
read and resolved without an error within limits is read and resolved within larger ones just the
same. The passes of the resolution are counted with the limits at hand, but they end before that.
-/

namespace Xsd

open Schema

variable {α β : Type}

namespace Assembly

def IsFlawless (a : Assembly) : Prop := a.errors = []

/-- Something is wrong. -/
def IsWrong (a : Assembly) : Prop := a.errors ≠ []

instance : Receptive IsWrong where
  note _ _ := by simp [IsWrong]
  registry _ h := h
  type _ h := h
  element _ h := h
  attributeDecl _ h := h
  group _ h := h
  attributeGroup _ h := h

end Assembly

open Assembly

/-! ## Reading -/

namespace Assemble

/-- Where the first computation comes to a result and nothing is wrong, the second one comes to the
same; and what is wrong before the first one is so after it. -/
structure Mirrors (x x' : Assemble α) : Prop where
  same : ∀ {a v b}, Yields x a v b → b.IsFlawless → Yields x' a v b
  keeps : Upholds IsWrong x

namespace Mirrors

theorem refl {x : Assemble α} (keeps : Upholds IsWrong x) : Mirrors x x := ⟨fun h _ => h, keeps⟩

theorem bind {x x' : Assemble α} {f f' : α → Assemble β} (hx : Mirrors x x')
    (hf : ∀ v, Mirrors (f v) (f' v)) : Mirrors (x >>= f) (x' >>= f') where
  same h clean := by
    obtain ⟨v, u, first, rest⟩ := yields_bind_iff.mp h
    have between : u.IsFlawless := by
      by_contra wrong
      exact (hf v).keeps.of_yields rest wrong clean
    exact yields_bind_iff.mpr ⟨v, u, hx.same first between, (hf v).same rest clean⟩
  keeps := .bind hx.keeps fun v => (hf v).keeps

theorem throw {e : Error} {x' : Assemble α} : Mirrors (MonadExcept.throw e) x' :=
  ⟨fun h _ => (not_yields_throw h).elim, .throw e⟩

theorem throw_bind {e : Error} {f : α → Assemble β} {x' : Assemble β} :
    Mirrors ((MonadExcept.throw e : Assemble α) >>= f) x' where
  same h _ := by
    obtain ⟨_, _, failed, -⟩ := yields_bind_iff.mp h
    exact (not_yields_throw failed).elim
  keeps _ wrong := wrong

/-- A computation that only comes to a result with an error noted. -/
theorem note {e : Error} {x' : Assemble Unit} : Mirrors (Assemble.note e) x' where
  same h clean := by
    cases h
    exact absurd clean (by simp [IsFlawless])
  keeps := upholds_note e

theorem discard {x x' : Assemble α} (hx : Mirrors x x') :
    Mirrors (Functor.discard x) (Functor.discard x') :=
  bind hx fun _ => refl (.pure ())

theorem forM {f f' : β → Assemble Unit} (hf : ∀ x, Mirrors (f x) (f' x)) (xs : List β) :
    Mirrors (xs.forM f) (xs.forM f') := by
  induction xs with
  | nil => exact refl (.pure ())
  | cons x xs ih => exact bind (hf x) fun _ => ih

/-- An error that is caught is noted, so there is none. -/
theorem tryNote {x x' : Assemble Unit} (hx : Mirrors x x') :
    Mirrors (tryCatch x Assemble.note) (tryCatch x' Assemble.note) where
  same {a _ _} h clean := by
    unfold Yields at h ⊢
    rw [ExceptT.run_tryCatch, StateT.run_bind] at h ⊢
    rcases hrun : x.run.run a with ⟨r, u⟩
    rw [hrun] at h
    cases r with
    | ok w =>
      cases h
      have run : x'.run.run a = (.ok w, u) := hx.same hrun clean
      rw [run]
      rfl
    | error e =>
      cases h
      exact absurd clean (by simp [IsFlawless])
  keeps := .tryCatch hx.keeps upholds_note

end Mirrors

end Assemble

namespace Schema

open Assemble

variable {retriever : Option Retriever} {limits limits' : Limits} {depth : Nat}
  {read read' : ReadIncluded} {inner : Nested} {s : Setting}

theorem mirrors_inclusion (le : limits ≤ limits')
    (reads : ∀ includer document, Mirrors (read includer document) (read' includer document))
    (e : Element) :
    Mirrors (inclusion ⟨retriever, limits⟩ depth read s e)
      (inclusion ⟨retriever, limits'⟩ depth read' s e) := by
  unfold inclusion
  split
  · exact .refl (.lift _)
  · refine .bind (.refl .get) fun a => ?_
    split
    · exact .refl (.pure ())
    · extract_lets fetch fetch'
      have fetched : Mirrors (fetch ()) (fetch' ()) := by
        unfold fetch fetch'
        dsimp only
        split
        · exact .note
        · split
          · exact .note
          · exact .tryNote (.discard (reads _ _))
      split
      · exact .throw_bind
      · rename_i passed
        have passed' : limits'.checkSchemaDepth (depth + 1) = .ok () :=
          Limits.check_mono le.schemaDepth passed
        rw [passed']
        exact fetched

theorem mirrors_checkSize (le : limits ≤ limits') :
    Mirrors (checkSize limits) (checkSize limits') := by
  refine .bind (.refl .get) fun a => ?_
  split
  · exact .throw
  · rename_i passed
    have passed' : limits'.checkSchemaComponents a.arena.size = .ok () :=
      Limits.check_mono le.schemaComponents passed
    rw [passed']
    exact .refl (.pure ())

/-- Only inclusions look at limits. -/
theorem mirrors_topLevel (le : limits ≤ limits')
    (reads : ∀ includer document, Mirrors (read includer document) (read' includer document))
    (nested : inner.Shapes IsWrong) (e : Element) :
    Mirrors (topLevel ⟨retriever, limits⟩ depth read inner s e)
      (topLevel ⟨retriever, limits'⟩ depth read' inner s e) := by
  refine .bind (.refl (.lift _)) fun _ => ?_
  split
  · exact .refl (.pure ())
  · exact .refl (.pure ())
  · exact mirrors_inclusion le reads e
  · exact .refl (upholds_importation e)
  · exact .refl (.lift _)
  · exact .refl (upholds_globalElement nested e)
  · refine .refl (.bind (.lift _) fun name => ?_)
    exact .bind (upholds_simpleType nested _ e) fun id => upholds_declare _ _
  · refine .refl (.bind (.lift _) fun name => ?_)
    exact .bind (upholds_complexType nested _ e) fun id => upholds_declare _ _
  · exact .refl (upholds_globalAttribute nested e)
  · exact .refl (upholds_globalAttributeGroup nested e)
  · exact .refl (upholds_globalGroup nested e)
  · exact .refl (.lift _)

theorem mirrors_readDocument (le : limits ≤ limits')
    (reads : ∀ includer document, Mirrors (read includer document) (read' includer document))
    (includer : Option Includer) (document : Document) :
    Mirrors (readDocument ⟨retriever, limits⟩ depth read includer document)
      (readDocument ⟨retriever, limits'⟩ depth read' includer document) := by
  refine .bind (.refl (.lift _)) fun root => .bind (.refl (.lift _)) fun ⟨target, adopted⟩ => ?_
  refine .bind (.refl (.lift _)) fun elements => .bind (.refl (.lift _)) fun attributes => ?_
  refine .bind (.refl (.modifyGet fun _ h => h)) fun id => ?_
  refine .bind (.forM (fun e => ?_) _) fun _ => .refl (.pure _)
  exact .bind (mirrors_topLevel le reads (shapes_nested _ _) e) fun _ => mirrors_checkSize le

/-- By induction on the number of documents that may include each other, of which there may be more
in the second place. -/
theorem mirrors_readIncluded (le : limits ≤ limits') {room room' : Nat} (more : room ≤ room')
    (includer : Includer) (document : Document) :
    Mirrors (readIncluded ⟨retriever, limits⟩ depth room includer document)
      (readIncluded ⟨retriever, limits'⟩ depth room' includer document) := by
  induction room generalizing depth room' includer document with
  | zero =>
    cases room' with
    | zero => exact mirrors_readDocument le (fun _ _ => .throw) _ _
    | succ room' => exact mirrors_readDocument le (fun _ _ => .throw) _ _
  | succ room ih =>
    cases room' with
    | zero => omega
    | succ room' =>
      exact mirrors_readDocument le (fun _ _ => ih (Nat.le_of_succ_le_succ more) _ _) _ _

theorem mirrors_readAt (le : limits ≤ limits') (depth : Nat) (document : Document) :
    Mirrors (readAt ⟨retriever, limits⟩ depth document)
      (readAt ⟨retriever, limits'⟩ depth document) :=
  mirrors_readDocument le
    (mirrors_readIncluded le (Nat.sub_le_sub_right le.schemaDepth depth)) _ _

theorem mirrors_buildImported (le : limits ≤ limits') (ns : Namespace) (document : Document) :
    Mirrors (buildImported ⟨retriever, limits⟩ ns document)
      (buildImported ⟨retriever, limits'⟩ ns document) := by
  unfold buildImported
  extract_lets declared
  split
  · exact mirrors_readAt le 1 document
  · exact .throw

end Schema

/-! ## Resolution -/

namespace Resolution

/-- Where the first computation leaves a state with the property, the second one does the same. -/
def Mirrors (Q : Assembly → Prop) (x x' : StateM Assembly α) : Prop :=
  ∀ a, Q (x.run a).2 → x'.run a = x.run a

namespace Mirrors

variable {Q : Assembly → Prop} {x x' : StateM Assembly α} {f f' : α → StateM Assembly β}

/-- As nothing that is wrong is forgotten, nothing is after the first step if nothing is in the
end. -/
theorem bind (hx : Mirrors IsFlawless x x') (clean : ∀ {a}, Q a → a.IsFlawless)
    (keeps : ∀ v, Keeps IsWrong (f v)) (hf : ∀ v, Mirrors Q (f v) (f' v)) :
    Mirrors Q (x >>= f) (x' >>= f') := by
  intro a h
  rw [StateT.run_bind] at h ⊢
  rw [StateT.run_bind]
  have between : ((x.run a).2).IsFlawless := by
    by_contra wrong
    exact keeps _ _ wrong (clean h)
  rw [hx a between]
  exact hf _ _ h

theorem refl (x : StateM Assembly α) : Mirrors Q x x := fun _ _ => rfl

theorem getBind {f f' : Assembly → StateM Assembly β} (hf : ∀ a, Mirrors Q (f a) (f' a)) :
    Mirrors Q (get >>= f) (get >>= f') :=
  fun a h => hf a a h

theorem setBind {a : Assembly} {f f' : PUnit → StateM Assembly β} (hf : Mirrors Q (f ⟨⟩) (f' ⟨⟩)) :
    Mirrors Q (set a >>= f) (set a >>= f') :=
  fun _ h => hf a h

/-- A failure after which an error is noted. -/
theorem runBind {x x' : Assemble α} {f : Except Error α → StateM Assembly β}
    (hx : Assemble.Mirrors x x') (keeps : ∀ r, Keeps IsWrong (f r))
    (fails : ∀ e a, ((f (.error e)).run a).2.IsWrong) :
    Mirrors IsFlawless (x.run >>= f) (x'.run >>= f) := by
  intro a h
  rw [StateT.run_bind] at h ⊢
  rw [StateT.run_bind]
  rcases hrun : x.run.run a with ⟨r, u⟩
  rw [hrun] at h
  cases r with
  | error e => exact absurd h (fails e u)
  | ok v =>
    have between : u.IsFlawless := by
      by_contra wrong
      exact keeps _ _ wrong h
    have run : x'.run.run a = (.ok v, u) := hx.same hrun between
    rw [run]

theorem foldlM {f f' : β → α → StateM Assembly β} (hf : ∀ b y, Mirrors IsFlawless (f b y) (f' b y))
    (keeps : ∀ b y, Keeps IsWrong (f b y)) (ys : List α) (b : β) :
    Mirrors IsFlawless (ys.foldlM f b) (ys.foldlM f' b) := by
  induction ys generalizing b with
  | nil => exact fun _ _ => rfl
  | cons y ys ih => exact bind (hf b y) id (fun b => .foldlM keeps) ih

end Mirrors

variable {retriever : Option Retriever} {limits limits' : Limits}

theorem preserving_isWrong (supply : Supply) : Preserving supply IsWrong where
  attempt _ h := h
  tryImport := keeps_tryImport supply
  giveUp failed id := by
    refine .modify fun a h => ?_
    split
    · exact h
    · exact fun none => h (List.append_eq_nil_iff.mp none).1

theorem mirrors_importNamespace (le : limits ≤ limits') (ns : Namespace) :
    Assemble.Mirrors (importNamespace ⟨retriever, limits⟩ ns)
      (importNamespace ⟨retriever, limits'⟩ ns) := by
  unfold importNamespace
  dsimp only
  split
  · exact .throw
  · refine .bind (.refl .get) fun a => ?_
    split
    · exact .throw
    · exact .discard (mirrors_buildImported le ns _)

/-- An import that fails leaves an error. -/
theorem mirrors_tryImport (le : limits ≤ limits') (imports : Imports) (ns : Namespace) :
    Mirrors IsFlawless (tryImport ⟨retriever, limits⟩ imports ns)
      (tryImport ⟨retriever, limits'⟩ imports ns) := by
  rw [tryImport_eq, tryImport_eq]
  refine .getBind fun a => ?_
  split
  · exact .refl _
  · refine .runBind (mirrors_importNamespace le ns) (fun r => ?_) fun e a => ?_
    · cases r with
      | ok => exact .pure _
      | error e => exact .bind (.modify fun _ h => Receptive.note e h) fun _ => .pure _
    · change a.errors ++ [e] ≠ []
      simp

/-- The passes end, with no component that is open, before either fuel is used up. -/
theorem mirrors_passes (le : limits ≤ limits') {fuel fuel' : Nat} (more : fuel ≤ fuel')
    (failed : List Namespace) (report : ResolutionReport) :
    Mirrors (fun a => a.IsFlawless ∧ pending a.arena = [])
      (passes ⟨retriever, limits⟩ fuel failed report)
      (passes ⟨retriever, limits'⟩ fuel' failed report) := by
  induction fuel generalizing fuel' failed report with
  | zero =>
    -- the first run stops for want of fuel, the second one finds nothing to do
    intro a h
    rw [passes_zero]
    cases fuel' with
    | zero => rw [passes_zero]
    | succ fuel' => exact passes_idle _ _ _ _ h.2
  | succ fuel ih =>
    obtain ⟨fuel', rfl⟩ := Nat.exists_eq_add_of_le' (Nat.le_trans (Nat.le_add_left 1 fuel) more)
    rw [passes_succ, passes_succ]
    refine .getBind fun a => ?_
    dsimp only
    split
    · exact .refl _
    · refine .setBind (.bind ?_ And.left (fun imports => ?_) fun imports => ?_)
      · exact .foldlM (mirrors_tryImport le) (keeps_tryImport _) _ _
      · split
        · exact .bind (.forM ((preserving_isWrong ⟨retriever, limits⟩).giveUp _)) fun _ => .pure _
        · exact (preserving_isWrong _).passes _ _ _
      · split
        · exact .refl _
        · exact ih (Nat.le_of_succ_le_succ more) _ _

theorem mirrors_resolve (le : limits ≤ limits') :
    Mirrors (fun a => a.IsFlawless ∧ pending a.arena = []) (resolve ⟨retriever, limits⟩)
      (resolve ⟨retriever, limits'⟩) := by
  refine .getBind fun a => mirrors_passes le ?_ _ _
  have := le.schemaComponents
  dsimp only
  omega

end Resolution

end Xsd
