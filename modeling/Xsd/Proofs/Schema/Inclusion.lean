import Xsd.Proofs.Schema.Accounts
import Xsd.Proofs.Schema.Passes

/-!
# What including a document brings about

A document that is included takes effect in the namespace of the one that includes it. It is read
once, for the first that includes it from its location, and the others rely on that reading: their
includes take effect if it was done in their own namespace, and not otherwise. Documents that
include each other need no further care, since one that is being read is found at its location.

Each step of the reading goes on with the account of the documents, and so does the resolving, which
reads those that are imported. At the end, if nothing was at fault, every document in the account is
settled.
-/

namespace Xsd

variable {a b c : Assembly}

theorem Setting.name_of_expectXsd {s : Setting} {e : Element} (h : s.expectXsd e = .ok ()) :
    e.name = .xsd e.localName := by
  unfold expectXsd at h
  split at h
  · rename_i isXsd
    have ns := eq_of_beq isXsd
    unfold Element.name at ns ⊢
    rw [QName.xsd, ← ns]
    rfl
  · cases h

namespace Schema

variable {supply : Supply} {documents : List Document} {readings readings' : List Reading}
  {registry : Registry} {depth : Nat} {read : ReadIncluded} {s : Setting} {current : Reading}
  {root e : Element}

/-! ## Reading a document -/

/-- What one of the children of the root brings about: if it declares a name, that is declared; if
it includes a document, one is found at that location. -/
structure Brings (s : Setting) (e : Element) (b : Assembly) : Prop where
  declares : ∀ {category}, topLevelCategory? e.localName = some category → Declared s e category b
  includes : b.IsClean → e.localName = "include" →
    ∀ {hint}, e.attribute? "schemaLocation" = some hint →
      (b.registry.findDocument? (s.location.join hint)).isSome

theorem Brings.mono (h : Brings s e b) (lasts : b.Lasts c) : Brings s e c :=
  ⟨fun declares word named => (h.declares declares word named).mono lasts,
    fun clean word _ named =>
      lasts.registry.isSome_findDocument? (h.includes (clean.of_lasts lasts) word named)⟩

/-- An element that neither declares nor includes anything. -/
theorem Brings.nothing (undeclared : topLevelCategory? e.localName = none)
    (other : e.localName ≠ "include") : Brings s e b := by
  refine ⟨fun declares => ?_, fun _ word => absurd word other⟩
  rw [undeclared] at declares
  cases declares

/-- Documents that others at the depth include are read by the rules for these. -/
structure ReadIncluded.Recounts (supply : Supply) (documents : List Document) (depth : Nat)
    (read : ReadIncluded) : Prop where
  raises : ∀ includer document, Raises (Error.IsIn document.location) (read includer document)
  recounts : ∀ {a readings} (includer : Includer) {parent location document},
    a.arena.Has (.type .anyType) → readings[includer.document.index]? = some parent →
      parent.target = includer.target → Includes supply parent.document location document →
        Counts supply documents (depth + 1) { document with location := location } →
          Schema.Recounts supply documents a readings
            (read includer { document with location := location })
            fun _ _ readings' => ∃ r ∈ readings', r.document.location = location

/-- The document that is being read is in the account, and at the depth. -/
structure InProgress (supply : Supply) (documents : List Document) (depth : Nat) (s : Setting)
    (readings : List Reading) (current : Reading) : Prop where
  reading : readings[s.document.index]? = some current
  location : current.document.location = s.location
  target : current.target = s.target
  counts : Counts supply documents depth current.document

theorem InProgress.mono (h : InProgress supply documents depth s readings current)
    (kept : readings <+: readings') : InProgress supply documents depth s readings' current := by
  refine ⟨?_, h.location, h.target, h.counts⟩
  obtain ⟨rest, rfl⟩ := kept
  exact (List.getElem?_append_left (List.getElem?_eq_some_iff.mp h.reading).1).trans h.reading

theorem InProgress.known (h : InProgress supply documents depth s readings current)
    (account : Account supply documents registry readings) :
    s.document.index < registry.documents.size :=
  account.length_eq ▸ (List.getElem?_eq_some_iff.mp h.reading).1

/-- Unless something is wrong, a document is found afterwards: it was there before, or it has been
read now. -/
theorem recounts_inclusion (hread : read.Recounts supply documents depth)
    (general : a.arena.Has (.type .anyType))
    (progress : InProgress supply documents depth s readings current)
    (hroot : current.document.root = some root) (child : e ∈ root.children)
    (name : e.name = .xsd "include") :
    Recounts supply documents a readings (inclusion supply depth read s e) fun _ b _ =>
      b.IsClean → ∀ {hint}, e.attribute? "schemaLocation" = some hint →
        (b.registry.findDocument? (s.location.join hint)).isSome := by
  unfold inclusion
  split
  · exact .throw _
  · rename_i hint named
    refine .getBind ?_
    have only : ∀ {b : Assembly}, (b.registry.findDocument? (s.location.join hint)).isSome →
        ∀ {other}, e.attribute? "schemaLocation" = some other →
          (b.registry.findDocument? (s.location.join other)).isSome := by
      intro b found other same
      rw [named] at same
      cases same
      exact found
    split
    · rename_i found
      exact .pure fun _ => only found
    · extract_lets fetch
      have hfetch (within : depth + 1 ≤ supply.limits.schemaDepth) :
          Recounts supply documents a readings (fetch ()) fun _ b _ =>
            b.IsClean → ∀ {other}, e.attribute? "schemaLocation" = some other →
              (b.registry.findDocument? (s.location.join other)).isSome := by
        unfold fetch
        split
        · exact .note (Or.inl rfl) fun _ _ unclean clean => absurd clean unclean
        · rename_i retriever supplied
          split
          · exact .note (Or.inl rfl) fun _ _ unclean clean => absurd clean unclean
          · rename_i document fetched
            have includes : Includes supply current.document (s.location.join hint) document :=
              ⟨⟨root, hroot, e, child, name, hint, named, by rw [progress.location]⟩, retriever,
                supplied, fetched⟩
            have included := hread.recounts ⟨s.document, s.target⟩ general progress.reading
              progress.target includes (.included progress.counts includes within)
            refine .tryNote (.discard (.weaken included ?_))
              (fun _ _ unclean clean => absurd clean unclean)
              fun e' failed => (Raises.discard (hread.raises _ _) a e' failed).isFault
            rintro _ b readings' recounted ⟨r, mem, same⟩ -
            exact only (same ▸ recounted.account.isSome_findDocument? mem)
      split
      · exact .throwBind
      · rename_i within
        exact hfetch (Limits.check_eq_ok_iff.mp within)

theorem recounts_importation (progress : InProgress supply documents depth s readings current)
    (hroot : current.document.root = some root) (child : e ∈ root.children)
    (name : e.name = .xsd "import") :
    Recounts supply documents a readings (importation s e) fun _ _ _ => True := by
  unfold importation
  extract_lets ns location
  split
  · exact .throw _
  · intro account
    have own : HasImport current.document ⟨ns, location⟩ :=
      ⟨root, hroot, e, child, name, by rw [progress.location]⟩
    have still := Advances.still (b := { a with
      registry := a.registry.addImport s.document ⟨ns, location⟩ })
      (account.addImport progress.reading own)
      (Assembly.Grows.ofRegistry (Registry.extends_addImport _ _ _)).lasts
    exact ⟨readings, still.toRecounted, fun _ _ => trivial, fun _ => still⟩

theorem steady_documents (base : Assembly) (registry : Registry) :
    Steady base fun a => a.registry.documents = registry.documents where
  note _ h := h
  declare _ _ declared h := (Registry.declare?_spec declared).1.trans h
  type _ _ _ h := h
  elementDecl _ h := h
  attributeDecl _ _ h := h
  groupDef _ h := h
  attributeGroupDef _ h := h

theorem recounts_topLevel (hread : read.Recounts supply documents depth)
    (general : a.arena.Has (.type .anyType))
    (progress : InProgress supply documents depth s readings current)
    (hroot : current.document.root = some root) (child : e ∈ root.children) (height : Nat) :
    Recounts supply documents a readings (topLevel supply depth read (nested s height) s e)
      fun _ b _ => Brings s e b := by
  cases declares : topLevelCategory? e.localName with
  | some category =>
    intro account
    have steady := steady_documents a a.registry
    have declared : Builds (fun b => b.registry.documents = a.registry.documents) a
        (topLevel supply depth read (nested s height) s e) fun _ => Declared s e category :=
      builds_declaration steady general (builds_nested steady general s height)
        ⟨.refl a, progress.known account.toAccount⟩ declares
    have brings : ∀ {b : Assembly}, Declared s e category b → Brings s e b := by
      refine fun declared => ⟨fun same => ?_, fun _ word => ?_⟩
      · cases declares.symm.trans same
        exact declared
      · rw [word] at declares
        cases declares
    have whole : Recounts supply documents a readings
        (topLevel supply depth read (nested s height) s e) fun _ b _ => Brings s e b :=
      .weaken (.ofBuilds declared) fun _ _ _ _ => brings
    exact whole account
  | none =>
    refine .liftBind fun _ expected => ?_
    split
    · rename_i word
      exact .pure (.nothing declares (by rw [word]; decide))
    · rename_i word
      exact .pure (.nothing declares (by rw [word]; decide))
    · rename_i word
      have name : e.name = .xsd "include" := word ▸ Setting.name_of_expectXsd expected
      refine .weaken (recounts_inclusion hread general progress hroot child name) ?_
      refine fun _ b _ _ found => ⟨fun same => ?_, fun clean _ => found clean⟩
      cases declares.symm.trans same
    · rename_i word
      have name : e.name = .xsd "import" := word ▸ Setting.name_of_expectXsd expected
      refine .weaken (recounts_importation progress hroot child name) fun _ _ _ _ _ => ?_
      exact .nothing declares (by rw [word]; decide)
    · exact .throw _
    all_goals
      first
      | exact .throw _
      | rename_i word
        rw [word] at declares
        cases declares

theorem root_of_schemaRoot {document : Document} (h : schemaRoot document = .ok root) :
    document.root = some root := by
  unfold schemaRoot at h
  split at h
  · cases h
  · rename_i found
    split at h
    · cases h
      exact found
    · cases h

/-- A document is settled once all children of its root have been read. -/
theorem Reading.settled_of_brings {i : Nat} (hroot : current.document.root = some root)
    (clean : b.IsClean) (location : current.document.location = s.location)
    (target : current.target = s.target) (own : s.document = ⟨i⟩)
    (brings : ∀ e ∈ root.children, Brings s e b) : current.Settled supply b i := by
  constructor
  · rintro category name ⟨root', hroot', e, child, -, declares, named⟩
    cases hroot.symm.trans hroot'
    rw [target, ← own]
    exact (brings e child).declares declares name named
  · rintro place included ⟨⟨root', hroot', e, child, name, hint, named, rfl⟩, -⟩
    cases hroot.symm.trans hroot'
    rw [location]
    exact (brings e child).includes clean (congrArg QName.localName name) named

theorem recounts_children (hread : read.Recounts supply documents depth)
    (general : a.arena.Has (.type .anyType))
    (progress : InProgress supply documents depth s readings current)
    (hroot : current.document.root = some root) (height : Nat) :
    Recounts supply documents a readings
      (root.children.forM fun e => do
        topLevel supply depth read (nested s height) s e
        checkSize supply.limits)
      fun _ b _ => ∀ e ∈ root.children, Brings s e b := by
  refine .forM (Q := Brings s) Brings.mono fun e child b readings' recounted => ?_
  refine .bind (recounts_topLevel hread (recounted.lasts.has general)
    (progress.mono recounted.kept) hroot child height) fun _ b' readings'' _ brings => ?_
  exact .weaken (.ofBuilds (builds_checkSize supply.limits)) fun _ _ _ recounted' _ =>
    brings.mono recounted'.lasts

/-- A document that has been read is in the account, with all that it includes. -/
theorem recounts_readDocument (hread : read.Recounts supply documents depth)
    (general : a.arena.Has (.type .anyType)) {includer : Option Includer} {document : Document}
    (origin : ∀ root target adopted, schemaRoot document = .ok root →
      targetNamespace document includer root = .ok (target, adopted) →
      ∀ readings', readings <+: readings' → Origin supply documents readings'
        ⟨document, target, includer.map (·.document)⟩)
    (counts : Counts supply documents depth document) :
    Recounts supply documents a readings (readDocument supply depth read includer document)
      fun _ _ readings' => ∃ r ∈ readings', r.document = document ∧
        r.includedBy = includer.map (·.document) := by
  refine .liftBind fun root hroot => .liftBind fun ⟨target, adopted⟩ htarget => ?_
  refine .liftBind fun elementsQualified _ => .liftBind fun attributesQualified _ => ?_
  let current : Reading := ⟨document, target, includer.map (·.document)⟩
  let s : Setting := ⟨⟨readings.length⟩, document.location, target, adopted, elementsQualified,
    attributesQualified⟩
  have progress : InProgress supply documents depth s (readings ++ [current]) current :=
    ⟨by simp [s], rfl, rfl, counts⟩
  have found := root_of_schemaRoot hroot
  refine .weaken (.addDocument current (fun b => ∀ e ∈ root.children, Brings s e b)
    (origin root target adopted hroot htarget _ (List.prefix_append _ _)) counts ?_ ?_ ?_) ?_
  · refine .bind (recounts_children hread ((a.lasts_withDocument current.info).has general) progress
      found root.height) fun _ b _ _ brings => .pure brings
  · exact .bind (raises_children s root.height root) fun _ => .pure _
  · exact fun b brings clean => Reading.settled_of_brings found clean rfl rfl rfl brings
  · exact fun _ _ _ _ mem => ⟨current, mem, rfl, rfl⟩

theorem target_of_included {document : Document} {includer : Includer} {target : Namespace}
    {adopted : Bool} (h : targetNamespace document (some includer) root = .ok (target, adopted)) :
    target = includer.target := by
  unfold targetNamespace at h
  extract_lets declared at h
  clear_value declared
  split at h
  · cases h
  · cases declared with
    | none => exact (Prod.mk.inj (Except.ok.inj h)).1.symm
    | some uri =>
      dsimp only at h
      split at h
      · rename_i same
        exact (Prod.mk.inj (Except.ok.inj h)).1.symm.trans same.symm
      · cases h

theorem origin_of_included {includer : Includer} {parent : Reading} {location : Location}
    {document : Document} {target : Namespace} {adopted : Bool}
    (found : readings[includer.document.index]? = some parent)
    (same : parent.target = includer.target)
    (includes : Includes supply parent.document location document)
    (htarget : targetNamespace { document with location := location } (some includer) root =
      .ok (target, adopted)) (kept : readings <+: readings') :
    Origin supply documents readings'
      ⟨{ document with location := location }, target, some includer.document⟩ := by
  rw [target_of_included htarget, ← same]
  exact (Origin.included found includes).mono kept

/-- By induction on the number of documents that may include each other. -/
theorem recounts_readIncluded (depth room : Nat) :
    (readIncluded supply (depth + 1) room).Recounts supply documents depth := by
  have readable : ∀ {depth read}, ReadIncluded.Recounts supply documents (depth + 1) read →
      ReadIncluded.Recounts supply documents depth fun includer =>
        readDocument supply (depth + 1) read (some includer) := by
    intro depth read hread
    refine ⟨fun _ _ => raises_readDocument _ _, ?_⟩
    intro a readings includer parent location document general found same includes counts
    refine .weaken (recounts_readDocument hread general (fun _ _ _ _ htarget _ kept =>
      origin_of_included found same includes htarget kept) counts) ?_
    rintro _ b readings' - ⟨r, mem, own, -⟩
    exact ⟨r, mem, congrArg Document.location own⟩
  induction room generalizing depth with
  | zero =>
    refine readable ⟨fun _ _ => .throw trivial, ?_⟩
    intros
    exact .throw _
  | succ room ih => exact readable (ih (depth + 1))

/-- A document that is read by itself. -/
theorem recounts_readAt (general : a.arena.Has (.type .anyType)) {document : Document}
    (origin : Origin supply documents readings ⟨document, declaredNamespace document, none⟩)
    (counts : Counts supply documents depth document) :
    Recounts supply documents a readings (readAt supply depth document) fun _ _ readings' =>
      ∃ r ∈ readings', r.document = document ∧ r.includedBy = none := by
  refine recounts_readDocument (recounts_readIncluded _ _) general ?_ counts
  intro root target adopted hroot htarget readings' kept
  have declared : target = declaredNamespace document := by
    rw [target_of_targetNamespace htarget, declaredNamespace, root_of_schemaRoot hroot]
    rfl
  rw [declared]
  exact origin.mono kept

end Schema

/-! ## Resolving -/

namespace Resolution

open Schema

variable {supply : Supply} {documents : List Document} {readings readings' : List Reading}

/-- A component keeps its name and its document in whatever state it is. -/
theorem lasts_of_info? {arena : Arena} (state : ResolutionState) (id : ComponentId)
    (same : ∀ other, arena.info? other =
      if other = id then (a.arena.info? id).map fun info => { info with state := state }
      else a.arena.info? other) :
    a.Lasts { a with arena := arena } := by
  refine ⟨.refl _, fun {other info} hi => ?_, List.prefix_rfl⟩
  have looked := same other
  split at looked
  · rename_i here
    rw [← here, hi, Option.map_some] at looked
    exact ⟨_, looked, rfl, rfl⟩
  · exact ⟨info, looked.trans hi, rfl, rfl⟩

theorem Attempt.lasts {p q : Pass} {id : ComponentId} (h : Attempt a.registry p id q) :
    Assembly.Lasts { a with arena := p.arena } { a with arena := q.arena } := by
  have looked : ∀ (b : Binder) state, Assembly.Lasts { a with arena := p.arena }
      { a with arena := (p.arena.bindWith b id).setState state id } := by
    refine fun b state => lasts_of_info? state id fun other => ?_
    rw [Arena.info?_setState, Arena.info?_bindWith, Arena.info?_bindWith]
  cases h with
  | idle => exact .refl _
  | complete _ _ bound => exact bound ▸ looked _ .resolved
  | release _ _ bound => exact bound ▸ looked _ .unresolved

theorem GivenUp.lasts {failed : List Namespace} {id : ComponentId} (h : GivenUp a failed id b) :
    a.Lasts b := by
  cases h with
  | idle => exact .refl a
  | fail =>
    have kept := lasts_of_info? (a := a) .failed id (Arena.info?_setState a.arena .failed id)
    exact ⟨kept.registry, kept.info, List.prefix_append _ _⟩

/-- A namespace that is missing is imported. -/
theorem isImported_of_missing? {registry : Registry} {document : DocumentId} {r : AnyReference}
    {ns : Namespace} (start : registry.isLoaded (some QName.xsdNamespace))
    (h : missing? registry document r = some ns) : registry.IsImported ns := by
  have unloaded := unloaded_of_missing? h
  dsimp only [missing?] at h
  split at h
  · rename_i wanted
    cases h
    simp only [Bool.and_eq_true] at wanted
    obtain ⟨⟨⟨-, visible⟩, -⟩, -⟩ := wanted
    have notLoaded : ¬ registry.isLoaded r.name.ns = true := by simp [unloaded]
    unfold Registry.isVisible at visible
    rcases Bool.or_eq_true_iff.mp visible with easy | imported
    · rcases Bool.or_eq_true_iff.mp easy with builtin | own
      · exact absurd (eq_of_beq builtin ▸ start) notLoaded
      · cases hi : registry.document? document with
        | none => simp [hi] at own
        | some info =>
          rw [hi] at own
          exact absurd (Registry.isLoaded_iff.mpr ⟨_, info, hi, eq_of_beq own⟩) notLoaded
    · exact Registry.isImported_of_importsFrom imported
  · cases h

theorem isImported_of_needed {registry : Registry} (arena : Arena) (todo : List ComponentId)
    (start : registry.isLoaded (some QName.xsdNamespace)) :
    ∀ ns ∈ (pass registry arena todo).needed, registry.IsImported ns := by
  have folded : ∀ p : Pass, (∀ ns ∈ p.needed, registry.IsImported ns) →
      ∀ ns ∈ (todo.foldl (resolveComponent registry) p).needed, registry.IsImported ns := by
    induction todo with
    | nil => exact fun p hp => hp
    | cons id todo ih =>
      refine fun p hp => ih _ ?_
      have attempt := attempt_resolveComponent registry p id
      generalize resolveComponent registry p id = q at attempt
      cases attempt with
      | idle => exact hp
      | complete => exact hp
      | release =>
        intro ns mem
        rcases (Namespace.mem_foldl_insertSorted _ _).mp mem with new | old
        · obtain ⟨r, -, wanted⟩ := List.mem_filterMap.mp new
          exact isImported_of_missing? start wanted
        · exact hp ns old
  exact folded ⟨arena, 0, []⟩ fun _ none => absurd none List.not_mem_nil

theorem recounts_importNamespace (general : a.arena.Has (.type .anyType)) {ns : Namespace}
    (imported : a.registry.IsImported ns) :
    Recounts supply documents a readings (importNamespace supply ns) fun _ _ _ => True := by
  intro account
  obtain ⟨edge, mem, asked⟩ := Registry.exists_request imported
  obtain ⟨same, i, info, hi, noted⟩ := Registry.mem_of_mem_importsOf mem
  obtain ⟨r, hr, -⟩ := account.info hi
  have own := account.imports hi hr edge noted
  obtain ⟨depth, counts⟩ : ∃ depth, Counts supply documents depth r.document := by
    refine (account.counts r (List.mem_of_getElem? hr)).resolve_left fun builtin => ?_
    obtain ⟨root, hroot, -⟩ := own
    rw [builtin] at hroot
    cases hroot
  suffices whole : Recounts supply documents a readings (importNamespace supply ns)
      fun _ _ _ => True from whole account
  unfold importNamespace
  split
  · exact .throw _
  · rename_i retriever supplied
    refine .getBind ?_
    extract_lets request
    split
    · exact .throw _
    · rename_i document fetched
      refine .discard ?_
      unfold buildImported
      extract_lets declared
      split
      · rename_i declares
        have leads : LeadsTo supply r.document document :=
          ⟨edge, own, retriever, supplied, asked ▸ fetched, declares.trans same.symm⟩
        refine .weaken (recounts_readAt general (.imported supplied fetched)
          (.imported counts leads)) ?_
        exact fun _ _ _ _ _ => trivial
      · exact .throw _

/-- An import that fails for no fault has not changed anything that counts. -/
theorem advances_tryImport (general : a.arena.Has (.type .anyType)) (imports : Imports)
    {ns : Namespace} (imported : a.registry.IsImported ns)
    (account : Ledger supply documents a.registry readings) :
    ∃ readings', Advances supply documents a readings
      ((tryImport supply imports ns).run a).2 readings' := by
  change ∃ readings', Advances supply documents a readings
    ((if imports.failed.contains ns || a.registry.isLoaded ns then _ else _ :
      StateM Assembly Imports).run a).2 readings'
  split
  · exact ⟨readings, .refl account⟩
  · obtain ⟨readings', recounted, -, advances⟩ :=
      recounts_importNamespace general imported account
    rw [StateT.run_bind]
    generalize (importNamespace supply ns).run.run a = outcome at recounted advances
    obtain ⟨r, b⟩ := outcome
    cases r with
    | ok => exact ⟨readings', advances (by rintro _ ⟨⟩)⟩
    | error e =>
      refine ⟨readings', recounted.advances_note fun blameless => advances ?_⟩
      rintro _ ⟨⟩
      exact blameless

theorem advances_imports {namespaces : List Namespace} (general : a.arena.Has (.type .anyType))
    (imported : ∀ ns ∈ namespaces, a.registry.IsImported ns) (imports : Imports)
    (account : Ledger supply documents a.registry readings) :
    ∃ readings', Advances supply documents a readings
      ((namespaces.foldlM (tryImport supply) imports).run a).2 readings' := by
  induction namespaces generalizing a readings imports with
  | nil => exact ⟨readings, .refl account⟩
  | cons ns namespaces ih =>
    obtain ⟨here, others⟩ := List.forall_mem_cons.mp imported
    obtain ⟨readings', first⟩ := advances_tryImport general imports here account
    rw [List.foldlM_cons, StateT.run_bind]
    generalize (tryImport supply imports ns).run a = outcome at first
    obtain ⟨imports', b⟩ := outcome
    obtain ⟨readings'', rest⟩ := ih (first.lasts.has general)
      (fun ns mem => first.lasts.registry.isImported (others ns mem)) imports' first.account
    exact ⟨readings'', first.trans rest⟩

theorem advances_attempt {p q : Pass} {id : ComponentId} (attempt : Attempt a.registry p id q)
    (account : Ledger supply documents a.registry readings) :
    Advances supply documents { a with arena := p.arena } readings { a with arena := q.arena }
      readings :=
  .still account attempt.lasts

theorem advances_giveUp (failed : List Namespace) (id : ComponentId)
    (account : Ledger supply documents a.registry readings) :
    Advances supply documents a readings ((giveUp failed id).run a).2 readings := by
  have given := givenUp_giveUp a failed id
  generalize ((giveUp failed id).run a).2 = b at given
  refine .still (account.of_documents ?_) given.lasts
  cases given <;> rfl

/-- By induction on the number of passes that are left. What is imported after one of them was
missing in it, so some document has an import of that namespace. -/
theorem advances_passes (general : a.arena.Has (.type .anyType))
    (start : a.registry.isLoaded (some QName.xsdNamespace)) (fuel : Nat) (failed : List Namespace)
    (report : ResolutionReport) (account : Ledger supply documents a.registry readings) :
    ∃ readings', Advances supply documents a readings
      ((passes supply fuel failed report).run a).2 readings' := by
  induction fuel generalizing a readings failed report with
  | zero => exact ⟨readings, .refl account⟩
  | succ fuel ih =>
    by_cases any : pending a.arena = []
    · rw [passes_idle supply fuel failed report any]
      exact ⟨readings, .refl account⟩
    · obtain ⟨imports, b, report', -, hrun, step⟩ := passes_step supply failed report any
      have last := step fuel
      have passed : Advances supply documents a readings
          { a with arena := (nextPass a).arena } readings :=
        keeps_pass (a := a) (P := fun c => Advances supply documents a readings c readings)
          (fun attempt h => h.trans (advances_attempt attempt h.account)) _ (.refl account)
      have wanted : ∀ ns ∈ (nextPass a).needed, a.registry.IsImported ns :=
        isImported_of_needed a.arena (pending a.arena) start
      obtain ⟨readings', imported⟩ :=
        advances_imports (passed.lasts.has general) wanted ⟨failed, 0⟩ passed.account
      rw [hrun] at imported
      have imported := passed.trans imported
      split at last
      · rw [last]
        refine ⟨readings', ?_⟩
        have given : Keeps (fun c => Advances supply documents a readings c readings')
            ((pending a.arena).forM (giveUp imports.failed)) :=
          .forM fun id c h => h.trans (advances_giveUp _ id h.account)
        exact given b imported
      · rw [last]
        obtain ⟨readings'', rest⟩ := ih (imported.lasts.has general)
          (imported.lasts.registry.isLoaded start) imports.failed report' imported.account
        exact ⟨readings'', imported.trans rest⟩

end Resolution

/-! ## Schemas -/

namespace Model

open Schema

variable {supply : Supply} {documents : List Document} {readings readings' : List Reading}
  {results : List (Except Error DocumentId)}

theorem ledger_initial (supply : Supply) (documents : List Document) :
    Ledger supply documents Registry.initial [.builtin] where
  infos := rfl
  origin := List.forall_mem_singleton.mpr .builtin
  counts := List.forall_mem_singleton.mpr (Or.inl rfl)
  imports {i info r} hi _ := by
    rw [Registry.initial, Array.getElem?_singleton] at hi
    split at hi
    · cases hi
      exact List.forall_mem_nil _
    · cases hi

/-- The documents that a schema starts from are read one after the other. -/
theorem recounts_build (general : a.arena.Has (.type .anyType)) {starts : List Document}
    (known : ∀ d ∈ starts, d ∈ documents)
    (account : Ledger supply documents a.registry readings) :
    ∃ readings', Recounted supply documents a readings ((build supply starts).run a).2 readings' ∧
      ((∀ e ∈ failures ((build supply starts).run a).1,
          ¬ (e.isDocumentFault = true ∨ e.isLimitExcess = true)) →
        Advances supply documents a readings ((build supply starts).run a).2 readings' ∧
          ∀ d ∈ starts, ∃ r ∈ readings', r.document = d ∧ r.includedBy = none) := by
  induction starts generalizing a readings with
  | nil =>
    exact ⟨readings, (Advances.refl account).toRecounted,
      fun _ => ⟨.refl account, fun _ h => absurd h List.not_mem_nil⟩⟩
  | cons start starts ih =>
    obtain ⟨here, others⟩ := List.forall_mem_cons.mp known
    have read : Recounts supply documents a readings (Schema.build supply start)
        fun _ _ readings' => ∃ r ∈ readings', r.document = start ∧ r.includedBy = none :=
      recounts_readAt general (.start here) (.start here)
    have raised : Raises (Error.IsIn start.location) (Schema.build supply start) :=
      raises_readAt 0 start
    have raised := raised a
    obtain ⟨readings', recounted, result, advances⟩ := read account
    rw [run_build_cons]
    generalize (Schema.build supply start).run.run a = outcome at raised recounted result advances
    obtain ⟨r, first⟩ := outcome
    obtain ⟨readings'', recounted', rest⟩ :=
      ih (recounted.lasts.has general) others recounted.account
    refine ⟨readings'', recounted.trans recounted', fun blameless => ?_⟩
    cases r with
    | error e =>
      exact absurd (raised e rfl).isFault (blameless e List.mem_cons_self)
    | ok id =>
      obtain ⟨further, found⟩ := rest blameless
      refine ⟨(advances (by rintro _ ⟨⟩)).trans further, List.forall_mem_cons.mpr ⟨?_, found⟩⟩
      obtain ⟨reading, mem, own⟩ := result id rfl
      exact ⟨reading, recounted'.kept.subset mem, own⟩

/-- The document of the schema language declares nothing by reading. -/
theorem settled_builtin (i : Nat) : Reading.Settled supply a i .builtin := by
  constructor
  · rintro category name ⟨root, ⟨⟩, -⟩
  · rintro location included ⟨⟨root, ⟨⟩, -⟩, -⟩

/-- The documents of a schema that has been read and resolved, and what they bring about without
fault. -/
theorem ledger_of_resolve {report : ResolutionReport}
    (built : (build supply documents).run .initial = (results, a))
    (resolved : (Resolution.resolve supply).run a = (report, b)) :
    ∃ readings, Ledger supply documents b.registry readings ∧
      ((∀ e ∈ failures results ++ b.errors, ¬ (e.isDocumentFault = true ∨ e.isLimitExcess = true)) →
        (∀ d ∈ documents, ∃ r ∈ readings, r.document = d ∧ r.includedBy = none) ∧
          ∀ (i : Nat) (r : Reading), readings[i]? = some r → r.Settled supply b i) := by
  have general := Arena.grounded_initial.has_anyType
  have start : Registry.initial.isLoaded (some QName.xsdNamespace) :=
    Registry.isLoaded_iff.mpr ⟨0, _, rfl, rfl⟩
  obtain ⟨readings, recounted, rest⟩ :=
    recounts_build (a := .initial) general (fun _ h => h) (ledger_initial supply documents)
  rw [built] at rest recounted
  obtain ⟨fuel, -, run⟩ := Resolution.exists_passes supply a
  obtain ⟨readings', resolves⟩ := Resolution.advances_passes (recounted.lasts.has general)
    (recounted.lasts.registry.isLoaded start) fuel [] ⟨0, 0, 0⟩ recounted.account
  rw [← run, resolved] at resolves
  refine ⟨readings', resolves.account, fun blameless => ?_⟩
  obtain ⟨all, clean⟩ := List.forall_mem_append.mp blameless
  obtain ⟨reads, found⟩ := rest all
  have whole := reads.trans resolves
  refine ⟨fun d hd => ?_, fun i r hr => ?_⟩
  · obtain ⟨r, mem, own⟩ := found d hd
    exact ⟨r, resolves.kept.subset mem, own⟩
  · by_cases late : 1 ≤ i
    · exact whole.settled clean i r hr late
    · obtain rfl : i = 0 := by omega
      obtain ⟨others, rfl⟩ := whole.kept
      cases hr
      exact settled_builtin 0

theorem settled_of_resolve {report : ResolutionReport}
    (built : (build supply documents).run .initial = (results, a))
    (resolved : (Resolution.resolve supply).run a = (report, b))
    (blameless : ∀ e ∈ failures results ++ b.errors,
      ¬ (e.isDocumentFault = true ∨ e.isLimitExcess = true)) :
    ∃ readings, Account supply documents b.registry readings ∧
      (∀ d ∈ documents, ∃ r ∈ readings, r.document = d ∧ r.includedBy = none) ∧
        ∀ (i : Nat) (r : Reading), readings[i]? = some r → r.Settled supply b i := by
  obtain ⟨readings, ledger, settled⟩ := ledger_of_resolve built resolved
  exact ⟨readings, ledger.toAccount, settled blameless⟩

/-- Each include of a document that has been read takes effect in the namespace of that document, if
the document that was first read from its location is the one that it is about, and was read in that
namespace: all that this one declares at its top level is declared, by that document. -/
theorem declared_of_includes (supply : Supply) (documents : List Document)
    {results : List (Except Error DocumentId)} {a b : Assembly} {report : ResolutionReport}
    (built : (build supply documents).run .initial = (results, a))
    (resolved : (Resolution.resolve supply).run a = (report, b))
    (sound : ∀ e ∈ failures results ++ b.errors, e.isDocumentFault = false)
    (within : ∀ e ∈ failures results ++ b.errors, e.isLimitExcess = false) :
    ∃ readings, Account supply documents b.registry readings ∧
      (∀ d ∈ documents, ∃ r ∈ readings, r.document = d ∧ r.includedBy = none) ∧
      ∀ r ∈ readings, ∀ location included, Includes supply r.document location included →
        ∃ id first, b.registry.findDocument? location = some id ∧
          readings[id.index]? = some first ∧
          (first.document.root = included.root → first.target = r.target →
            ∀ category name, Defines included category name →
              ∃ component info, b.registry.get? ⟨r.target, name⟩ category = some component ∧
                b.arena.info? component = some info ∧ info.name = some ⟨r.target, name⟩ ∧
                info.document = id) := by
  have blameless : ∀ e ∈ failures results ++ b.errors,
      ¬ (e.isDocumentFault = true ∨ e.isLimitExcess = true) := by
    intro e he
    simp [sound e he, within e he]
  obtain ⟨readings, account, starts, settled⟩ := settled_of_resolve built resolved blameless
  refine ⟨readings, account, starts, fun r mem location included includes => ?_⟩
  obtain ⟨i, hr⟩ := List.mem_iff_getElem?.mp mem
  obtain ⟨id, found⟩ := Option.isSome_iff_exists.mp ((settled i r hr).includes includes)
  obtain ⟨info, hi⟩ := Registry.document_of_findDocument? found
  obtain ⟨first, hfirst, -⟩ := account.info hi
  refine ⟨id, first, found, hfirst, fun same target category name defines => ?_⟩
  have declares := (settled _ first hfirst).declares (defines.congr same)
  rw [target] at declares
  rcases declares with ⟨component, info, hc, hinfo, named, own⟩ | noted
  · exact ⟨component, info, hc, hinfo, named, own⟩
  · have := sound _ (List.mem_append_right _ noted)
    cases this

/-! ### Documents that share an included one -/

/-- A start tag of the schema language. -/
def tagOf (word : String) (attributes : List (String × String)) : Tag :=
  ⟨.xsd word, ⟨attributes.map fun (name, value) => (⟨none, name⟩, value)⟩, default, 0⟩

/-- A document that declares the element `p`, and no target namespace. -/
def part : Document :=
  ⟨.memory "part.xsd",
    some ⟨tagOf "schema" [], [.element (tagOf "element" [("name", "p")]) []]⟩⟩

/-- A document that includes it. -/
def user (key uri : String) : Document :=
  ⟨.memory key,
    some ⟨tagOf "schema" [("targetNamespace", uri)],
      [.element (tagOf "include" [("schemaLocation", "part.xsd")]) []]⟩⟩

/-- Where it is found. -/
def partSupply : Supply where
  limits := .standard
  retriever := some {
    size := 1
    fetch := fun request =>
      if request = .document part.location then .ok part
      else .error (.source (.notRegistered request.render)) }

theorem user_includes_part (key uri : String) :
    Includes partSupply (user key uri) part.location part := by
  refine ⟨⟨_, rfl, _, List.mem_singleton_self _, rfl, "part.xsd", rfl, ?_⟩, _, rfl, rfl⟩
  have alone : Location.parse "part.xsd" = part.location := by decide +kernel
  unfold Location.join
  rw [alone]
  rfl

theorem part_defines : Defines part .element "p" :=
  ⟨_, rfl, _, List.mem_singleton_self _, rfl, rfl, rfl⟩

theorem part_of_includes {document included : Document} {location : Location}
    (h : Includes partSupply document location included) : included = part := by
  obtain ⟨-, retriever, supplied, fetched⟩ := h
  cases supplied
  dsimp only at fetched
  split at fetched
  · exact (Except.ok.inj fetched).symm
  · cases fetched

/-- What is read of two documents of these namespaces. -/
def readUsers (one other : String) : List (Except Error DocumentId) × Assembly :=
  (build partSupply [user "a.xsd" one, user "b.xsd" other]).run .initial

/-- What becomes of it when its references are resolved. -/
def resolvedUsers (one other : String) : Assembly :=
  ((Resolution.resolve partSupply).run (readUsers one other).2).2

theorem sound_users :
    failures (readUsers "urn:a" "urn:a").1 ++ (resolvedUsers "urn:a" "urn:a").errors = [] ∧
      failures (readUsers "urn:a" "urn:b").1 ++ (resolvedUsers "urn:a" "urn:b").errors = [] := by
  refine ⟨List.isEmpty_iff.mp ?_, List.isEmpty_iff.mp ?_⟩ <;> decide +kernel

theorem target_of_user {documents : List Document} {readings : List Reading} {r : Reading}
    {key uri : String} (origin : Origin partSupply documents readings r)
    (own : r.document = user key uri) (alone : r.includedBy = none) : r.target = some uri := by
  rw [origin.target_eq alone (by rw [own]; nofun), own]
  rfl

/-- Two documents of one namespace that include the same one. -/
theorem part_declared :
    (∀ e ∈ failures (readUsers "urn:a" "urn:a").1 ++ (resolvedUsers "urn:a" "urn:a").errors,
        e.isDocumentFault = false) ∧
      (∀ e ∈ failures (readUsers "urn:a" "urn:a").1 ++ (resolvedUsers "urn:a" "urn:a").errors,
        e.isLimitExcess = false) ∧
      ∃ component info, (resolvedUsers "urn:a" "urn:a").registry.get? ⟨some "urn:a", "p"⟩ .element =
          some component ∧
        (resolvedUsers "urn:a" "urn:a").arena.info? component = some info ∧
        info.document = ⟨2⟩ := by
  have sound : ∀ e ∈ failures (readUsers "urn:a" "urn:a").1 ++
      (resolvedUsers "urn:a" "urn:a").errors, e.isDocumentFault = false := by
    simp [sound_users.1]
  have within : ∀ e ∈ failures (readUsers "urn:a" "urn:a").1 ++
      (resolvedUsers "urn:a" "urn:a").errors, e.isLimitExcess = false := by
    simp [sound_users.1]
  refine ⟨sound, within, ?_⟩
  obtain ⟨readings, account, starts, effective⟩ :=
    declared_of_includes partSupply _ (Prod.eta (readUsers "urn:a" "urn:a")).symm (Prod.eta _).symm
      sound within
  obtain ⟨r, mem, own, alone⟩ := starts (user "b.xsd" "urn:a") (by simp)
  have target := target_of_user (account.origin r mem) own alone
  obtain ⟨id, first, found, hfirst, declares⟩ :=
    effective r mem part.location part (own ▸ user_includes_part _ _)
  have second : (resolvedUsers "urn:a" "urn:a").registry.findDocument? part.location =
      some ⟨2⟩ := by
    decide +kernel
  cases second.symm.trans found
  have known : (resolvedUsers "urn:a" "urn:a").registry.documents[2]? =
      some ⟨part.location, some "urn:a", some ⟨1⟩, []⟩ := by
    decide +kernel
  obtain ⟨first', hfirst', -, same, includer⟩ := account.info known
  obtain rfl : first = first' := Option.some.inj (hfirst.symm.trans hfirst')
  have root : first.document.root = part.root := by
    cases account.origin first (List.mem_of_getElem? hfirst) with
    | included _ includes => rw [part_of_includes includes]
    | _ => cases includer
  obtain ⟨component, info, hc, hi, -, document⟩ :=
    declares root (same.trans target.symm) .element "p" part_defines
  exact ⟨component, info, target ▸ hc, hi, document⟩

/-- With two namespaces only the document that comes first takes effect as it should: the other one
is not read again. -/
theorem not_declared_of_includes :
    ¬ ∀ (supply : Supply) (documents : List Document) (results : List (Except Error DocumentId))
      (a b : Assembly) (report : ResolutionReport),
      (build supply documents).run .initial = (results, a) →
      (Resolution.resolve supply).run a = (report, b) →
      (∀ e ∈ failures results ++ b.errors, e.isDocumentFault = false) →
      ∃ readings, Account supply documents b.registry readings ∧
        (∀ d ∈ documents, ∃ r ∈ readings, r.document = d ∧ r.includedBy = none) ∧
        ∀ r ∈ readings, ∀ location included, Includes supply r.document location included →
          ∀ category name, Defines included category name →
            (b.registry.get? ⟨r.target, name⟩ category).isSome := by
  intro claimed
  have sound : ∀ e ∈ failures (readUsers "urn:a" "urn:b").1 ++
      (resolvedUsers "urn:a" "urn:b").errors, e.isDocumentFault = false := by
    simp [sound_users.2]
  obtain ⟨readings, account, starts, effective⟩ :=
    claimed partSupply _ _ _ _ _ (Prod.eta (readUsers "urn:a" "urn:b")).symm (Prod.eta _).symm sound
  obtain ⟨r, mem, own, alone⟩ := starts (user "b.xsd" "urn:b") (by simp)
  have declared := effective r mem part.location part (own ▸ user_includes_part _ _) .element "p"
    part_defines
  rw [target_of_user (account.origin r mem) own alone] at declared
  have missing : (resolvedUsers "urn:a" "urn:b").registry.get? ⟨some "urn:b", "p"⟩ .element =
      none := by
    decide +kernel
  cases (congrArg Option.isSome missing).symm.trans declared

end Model

end Xsd
