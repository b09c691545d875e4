import Xsd.Proofs.Schema.Attempts
import Xsd.Proofs.Schema.Inclusion
import Xsd.Proofs.Schema.Success

/-!
# How far documents lead

The documents that a schema starts from lead to others by includes and imports. For those that are
included the depth is counted on from the document that includes them, and it is limited. Those that
are imported are read between the passes of the resolution and counted as one step away, however they
were reached. So the limit is one for the number of steps only where imports lead no further.
-/

namespace Xsd

variable {a b : Assembly}

namespace Schema

variable {supply : Supply} {documents : List Document} {document : Document} {depth : Nat}

/-- Documents that so many includes and imports lead to, from those that the schema starts from. -/
inductive Reaches (supply : Supply) (documents : List Document) : Nat → Document → Prop
  | start {document : Document} : document ∈ documents → Reaches supply documents 0 document
  | included {steps : Nat} {document included : Document} {location : Location} :
    Reaches supply documents steps document → Includes supply document location included →
      Reaches supply documents (steps + 1) { included with location := location }
  | imported {steps : Nat} {document imported : Document} :
    Reaches supply documents steps document → LeadsTo supply document imported →
      Reaches supply documents (steps + 1) imported

/-- The steps to the document are within the limit. -/
def IsWithin (supply : Supply) (documents : List Document) (document : Document) : Prop :=
  ∃ steps ≤ supply.limits.schemaDepth, Reaches supply documents steps document

/-- What documents within the limit import is one step away, and that is within the limit. -/
def ImportsNearby (supply : Supply) (documents : List Document) : Prop :=
  ∀ document imported, IsWithin supply documents document → LeadsTo supply document imported →
    1 ≤ supply.limits.schemaDepth ∧ ∃ start ∈ documents, LeadsTo supply start imported

/-- What has been read is within the limit, and if something has not been read that the schema starts
from or a document includes, the schema is not compiled. -/
structure Confined (supply : Supply) (documents : List Document) (registry : Registry)
    (readings : List Reading) : Prop extends Account supply documents registry readings where
  within : ∀ r ∈ readings, r = .builtin ∨ IsWithin supply documents r.document
  starts : ∀ start ∈ documents, (∃ r ∈ readings, r.document = start) ∨
    ∃ errors, Model.compile supply documents = .error errors
  includes : ∀ r ∈ readings, ∀ location included, Includes supply r.document location included →
    (∃ other ∈ readings, other.document.location.isSame location = true) ∨
      ∃ errors, Model.compile supply documents = .error errors

/-- Where imports are nearby, no document is further away than it is counted. -/
theorem Counts.reaches (near : ImportsNearby supply documents)
    (h : Counts supply documents depth document) :
    depth ≤ supply.limits.schemaDepth ∧
      ∃ steps ≤ depth, Reaches supply documents steps document := by
  induction h with
  | start mem => exact ⟨Nat.zero_le _, 0, le_rfl, .start mem⟩
  | included _ includes within ih =>
    obtain ⟨-, steps, le, reached⟩ := ih
    exact ⟨within, steps + 1, Nat.succ_le_succ le, .included reached includes⟩
  | imported _ leads ih =>
    obtain ⟨within, steps, le, reached⟩ := ih
    obtain ⟨within, start, mem, leads⟩ := near _ _ ⟨steps, le.trans within, reached⟩ leads
    exact ⟨within, 1, le_rfl, .imported (.start mem) leads⟩

theorem Counts.isWithin (near : ImportsNearby supply documents)
    (h : Counts supply documents depth document) : IsWithin supply documents document :=
  let ⟨within, steps, le, reached⟩ := h.reaches near
  ⟨steps, le.trans within, reached⟩

end Schema

namespace Model

open Schema

variable {supply : Supply} {documents : List Document} {results : List (Except Error DocumentId)}
  {report : ResolutionReport}

/-- A schema that is compiled is without errors. -/
theorem blameless_of_compile (built : (build supply documents).run .initial = (results, a))
    (resolved : (Resolution.resolve supply).run a = (report, b))
    (compiled : ¬ ∃ errors, compile supply documents = .error errors) :
    failures results ++ b.errors = [] := by
  cases answer : compile supply documents with
  | error errors => exact absurd ⟨errors, answer⟩ compiled
  | ok m =>
    obtain ⟨report', b', isAssembled, -⟩ := compile_eq_ok_iff.mp answer
    obtain ⟨sound, -, same, clean⟩ := assembled_eq_ok_iff.mp isAssembled
    rw [built] at sound same
    cases resolved.symm.trans same
    rw [sound, clean]
    rfl

/-- What is read for a schema, and for its imports however they come about, is within the limit on
the steps that lead there, where what is imported is no more than one step away. What would exceed
the limit is not read, and then there are errors. -/
theorem confined_of_resolve (supply : Supply) (documents : List Document)
    (near : ImportsNearby supply documents)
    (built : (build supply documents).run .initial = (results, a))
    (resolved : (Resolution.resolve supply).run a = (report, b)) :
    ∃ readings, Confined supply documents b.registry readings := by
  obtain ⟨readings, ledger, settled⟩ := ledger_of_resolve built resolved
  refine ⟨readings, ledger.toAccount, fun r mem => ?_, fun start mem => ?_,
    fun r mem location included includes => ?_⟩
  · exact (ledger.counts r mem).imp_right fun ⟨_, counts⟩ => counts.isWithin near
  all_goals
    refine or_iff_not_imp_right.mpr fun compiled => ?_
    have none := blameless_of_compile built resolved compiled
    obtain ⟨starts, settled⟩ := settled fun e he => absurd (none ▸ he) List.not_mem_nil
  · obtain ⟨r, mem, own, -⟩ := starts start mem
    exact ⟨r, mem, own⟩
  · obtain ⟨i, hr⟩ := List.mem_iff_getElem?.mp mem
    obtain ⟨j, info, hj, same⟩ :=
      Registry.isSome_findDocument?_iff.mp ((settled i r hr).includes includes)
    obtain ⟨other, hother, location, -⟩ := ledger.info hj
    exact ⟨other, List.mem_of_getElem? hother, location ▸ same⟩

/-! ### A chain of imports -/

open Resolution

variable {limits : Limits} {document included imported : Document} {location : Location}
  {key : String} {next : Option String}

theorem imported_of_chainSupply (h : LeadsTo (chainSupply limits) document imported) :
    imported = link "b" (some "c") ∨ imported = link "c" none := by
  obtain ⟨edge, -, retriever, ⟨⟩, fetched, -⟩ := h
  dsimp only at fetched
  split at fetched
  · exact Or.inl (Except.ok.inj fetched).symm
  · split at fetched
    · exact Or.inr (Except.ok.inj fetched).symm
    · cases fetched

theorem hasImport_link (key next : String) : HasImport (link key (some next))
    ⟨some ("urn:" ++ next), some ((Location.memory key).join next)⟩ :=
  ⟨_, rfl, _, List.mem_cons_self, rfl, rfl⟩

/-- A link of the chain has no children but an import, and what it declares. -/
theorem child_of_link {root e : Element} (hroot : (link key next).root = some root)
    (child : e ∈ root.children) (other : e.name ≠ .xsd "element" ∧ e.name ≠ .xsd "complexType") :
    ∃ key' ∈ next, e.name = .xsd "import" ∧ e.attribute? "namespace" = some ("urn:" ++ key') ∧
      e.attribute? "schemaLocation" = some key' := by
  cases hroot
  cases next with
  | none =>
    obtain rfl := List.mem_singleton.mp child
    exact absurd rfl other.2
  | some key' =>
    rcases List.mem_cons.mp child with rfl | later
    · exact ⟨key', rfl, rfl, rfl, rfl⟩
    · rcases List.mem_cons.mp later with rfl | later
      · exact absurd rfl other.1
      · obtain rfl := List.mem_singleton.mp later
        exact absurd rfl other.2

theorem not_includes_link {supply : Supply} :
    ¬ Includes supply (link key next) location included := by
  rintro ⟨⟨root, hroot, e, child, name, -⟩, -⟩
  obtain ⟨-, -, importing, -⟩ := child_of_link hroot child (by rw [name]; decide)
  rw [name] at importing
  exact absurd importing (by decide)

theorem edge_of_hasImport {edge : ImportEdge} (h : HasImport (link key next) edge) :
    ∃ key' ∈ next, edge = ⟨some ("urn:" ++ key'), some ((Location.memory key).join key')⟩ := by
  obtain ⟨root, hroot, e, child, name, rfl⟩ := h
  obtain ⟨key', mem, -, ns, hint⟩ := child_of_link hroot child (by rw [name]; decide)
  exact ⟨key', mem, by rw [ns, hint]; rfl⟩

theorem join_link (key : String) :
    (Location.memory key).join "b" = .memory "b" ∧ (Location.memory key).join "c" = .memory "c" := by
  have alone : Location.parse "b" = .memory "b" ∧ Location.parse "c" = .memory "c" := by
    decide +kernel
  unfold Location.join
  rw [alone.1, alone.2]
  exact ⟨rfl, rfl⟩

/-- The last document of the chain is two steps away from the first one. -/
theorem steps_of_reaches {steps : Nat}
    (h : Reaches (chainSupply limits) [link "a" (some "b")] steps document) :
    document = link "a" (some "b") ∧ steps = 0 ∨ document = link "b" (some "c") ∧ 1 ≤ steps ∨
      document = link "c" none ∧ 2 ≤ steps := by
  induction h with
  | start mem => exact Or.inl ⟨List.mem_singleton.mp mem, rfl⟩
  | included _ includes ih =>
    rcases ih with ⟨rfl, -⟩ | ⟨rfl, -⟩ | ⟨rfl, -⟩ <;> exact absurd includes not_includes_link
  | imported _ leads ih =>
    rcases imported_of_chainSupply leads with rfl | rfl
    · exact Or.inr (Or.inl ⟨rfl, Nat.le_add_left 1 _⟩)
    · refine Or.inr (Or.inr ⟨rfl, Nat.succ_le_succ ?_⟩)
      rcases ih with ⟨rfl, -⟩ | ⟨-, steps⟩ | ⟨-, steps⟩
      · -- the first document imports the namespace of the second one only
        obtain ⟨edge, own, -, -, -, declares⟩ := leads
        obtain ⟨key', ⟨⟩, rfl⟩ := edge_of_hasImport own
        exact absurd declares (by decide)
      · exact steps
      · exact Nat.le_of_succ_le steps

/-- Limits by which one step is allowed. -/
def oneStep : Limits :=
  { Limits.standard with schemaDepth := 1 }

/-- What is read within them and resolved, where the second and the third document of the chain are
supplied. -/
def chainEnd (documents : List Document) : Assembly :=
  let read := (build (chainSupply oneStep) documents).run .initial
  ((Resolution.resolve (chainSupply oneStep)).run read.2).2

/-- If a third document imports the last one of the chain itself, all are within the limit. -/
theorem confined_of_resolve_chained :
    ImportsNearby (chainSupply oneStep) [link "a" (some "b"), link "d" (some "c")] ∧
      ∃ readings, Confined (chainSupply oneStep) [link "a" (some "b"), link "d" (some "c")]
        (chainEnd [link "a" (some "b"), link "d" (some "c")]).registry readings := by
  have near : ImportsNearby (chainSupply oneStep) [link "a" (some "b"), link "d" (some "c")] := by
    intro document imported _ leads
    refine ⟨le_rfl, ?_⟩
    rcases imported_of_chainSupply leads with rfl | rfl
    · refine ⟨link "a" (some "b"), by simp, _, hasImport_link _ _, _, rfl, ?_, rfl⟩
      rw [(join_link "a").1]
      rfl
    · refine ⟨link "d" (some "c"), by simp, _, hasImport_link _ _, _, rfl, ?_, rfl⟩
      rw [(join_link "d").2]
      rfl
  exact ⟨near, confined_of_resolve _ _ near (Prod.eta _).symm (Prod.eta _).symm⟩

example : (chainEnd [link "a" (some "b"), link "d" (some "c")]).registry.documents.size = 5 ∧
    (chainEnd [link "a" (some "b"), link "d" (some "c")]).errors = [] := by
  decide +kernel

/-- Without it the last document of the chain is read, though it is two steps away. -/
theorem not_confined_of_resolve :
    ¬ ∀ (supply : Supply) (documents : List Document) (results : List (Except Error DocumentId))
      (a b : Assembly) (report : ResolutionReport),
      (build supply documents).run .initial = (results, a) →
      (Resolution.resolve supply).run a = (report, b) →
      ∃ readings, Confined supply documents b.registry readings := by
  intro claimed
  obtain ⟨readings, confined⟩ : ∃ readings, Confined (chainSupply oneStep) [link "a" (some "b")]
      (chainEnd [link "a" (some "b")]).registry readings :=
    claimed _ _ _ _ _ _ (Prod.eta _).symm (Prod.eta _).symm
  have known : (chainEnd [link "a" (some "b")]).registry.documents[3]? =
      some ⟨.memory "c", some "urn:c", none, []⟩ := by
    decide +kernel
  obtain ⟨r, hr, last, -⟩ := confined.info known
  rcases confined.within r (List.mem_of_getElem? hr) with rfl | ⟨steps, within, reached⟩
  · exact absurd last (by decide)
  · rcases steps_of_reaches reached with ⟨same, -⟩ | ⟨same, -⟩ | ⟨-, far⟩
    · exact absurd (same ▸ last) (by decide)
    · exact absurd (same ▸ last) (by decide)
    · exact absurd within (Nat.not_le.mpr far)

end Model

end Xsd
