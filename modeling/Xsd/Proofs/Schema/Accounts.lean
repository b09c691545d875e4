import Xsd.Proofs.Schema.Faults
import Xsd.Proofs.Schema.Reading

/-!
# Where the documents of a registry are from

A registry does not keep the documents that have been read. An account of it says for each of its
documents what it was read from, and how it came to be read: as one of those that the schema starts
from, for a namespace that is imported, or because another document includes it. A ledger says also
at which depth that was, and that the imports noted of a document are its own. A document that has
been read without fault has declared its names, and where it includes another one, some document is
found at that location.
-/

namespace Xsd

variable {a b c : Assembly}

/-! ## What lasts -/

/-- The second assembly knows what the first one knows; components may have been looked at since. -/
structure Assembly.Lasts (a b : Assembly) : Prop where
  registry : a.registry.Extends b.registry
  info : ∀ {id info}, a.arena.info? id = some info →
    ∃ info', b.arena.info? id = some info' ∧ info'.name = info.name ∧
      info'.document = info.document
  errors : a.errors <+: b.errors

namespace Assembly.Lasts

theorem refl (a : Assembly) : a.Lasts a :=
  ⟨.refl _, fun {_ info} hi => ⟨info, hi, rfl, rfl⟩, List.prefix_rfl⟩

theorem trans (h : a.Lasts b) (h' : b.Lasts c) : a.Lasts c := by
  refine ⟨h.registry.trans h'.registry, fun hi => ?_, h.errors.trans h'.errors⟩
  obtain ⟨info', hi', name, document⟩ := h.info hi
  obtain ⟨info'', hi'', name', document'⟩ := h'.info hi'
  exact ⟨info'', hi'', name'.trans name, document'.trans document⟩

theorem has (h : a.Lasts b) {id : ComponentId} (has : a.arena.Has id) : b.arena.Has id := by
  obtain ⟨info, hi⟩ := Arena.has_iff.mp has
  obtain ⟨info', hi', -⟩ := h.info hi
  exact Arena.has_iff.mpr ⟨info', hi'⟩

theorem note (h : a.Lasts b) (e : Error) : a.Lasts { b with errors := b.errors ++ [e] } :=
  ⟨h.registry, h.info, h.errors.trans (List.prefix_append _ _)⟩

end Assembly.Lasts

theorem Assembly.Grows.lasts (h : a.Grows b) : a.Lasts b where
  registry := h.registry
  errors := h.errors
  info {id info} hi := by
    have same := (h.arena.same (Arena.has_iff.mpr ⟨info, hi⟩)).1
    exact ⟨info, same.trans hi, rfl, rfl⟩

/-- The assembly with one more document. -/
def Assembly.withDocument (a : Assembly) (info : DocumentInfo) : Assembly :=
  { a with registry := (a.registry.addDocument info).2 }

theorem Assembly.lasts_withDocument (a : Assembly) (info : DocumentInfo) :
    a.Lasts (a.withDocument info) :=
  (Grows.ofRegistry (Registry.extends_addDocument a.registry info)).lasts

theorem Assembly.Declares.mono {document : DocumentId} {name : QName} {category : Category}
    (h : a.Declares document name category) (lasts : a.Lasts b) :
    b.Declares document name category := by
  rcases h with ⟨id, info, found, hi, named, own⟩ | noted
  · obtain ⟨info', hi', name', document'⟩ := lasts.info hi
    exact Or.inl ⟨id, info', lasts.registry.names found, hi', name'.trans named,
      document'.trans own⟩
  · exact Or.inr (lasts.errors.subset noted)

theorem Location.isSame_self (location : Location) : location.isSame location = true := by
  cases location <;> simp [isSame]

/-- What is asked for because of an import. -/
def ImportEdge.request (edge : ImportEdge) : Request :=
  match edge.location with
  | some location => .document location
  | none => .declaring edge.ns

namespace Registry

variable {r s : Registry} {location : Location} {ns : Namespace}

theorem isSome_findDocument?_iff : (r.findDocument? location).isSome ↔
    ∃ (i : Nat) (info : DocumentInfo), r.documents[i]? = some info ∧
      info.location.isSame location = true := by
  rw [findDocument?, Option.isSome_map, Array.findIdx?_isSome, Array.any_eq_true]
  constructor
  · rintro ⟨i, bound, same⟩
    exact ⟨i, _, Array.getElem?_eq_getElem bound, same⟩
  · rintro ⟨i, info, hi, same⟩
    obtain ⟨bound, rfl⟩ := Array.getElem?_eq_some_iff.mp hi
    exact ⟨i, bound, same⟩

theorem document_of_findDocument? {id : DocumentId} (h : r.findDocument? location = some id) :
    ∃ info, r.documents[id.index]? = some info := by
  obtain ⟨i, found, rfl⟩ := Option.map_eq_some_iff.mp h
  obtain ⟨bound, -⟩ := Array.findIdx?_eq_some_iff_getElem.mp found
  exact ⟨_, Array.getElem?_eq_getElem bound⟩

/-- An import that is noted changes nothing else of a document. -/
theorem bare_addImport (r : Registry) (document : DocumentId) (edge : ImportEdge) :
    (r.addImport document edge).documents.toList.map (fun info => { info with imports := [] }) =
      r.documents.toList.map fun info => { info with imports := [] } := by
  refine List.ext_getElem? fun i => ?_
  simp only [addImport, List.getElem?_map, Array.getElem?_toList, Array.getElem?_modify]
  cases r.documents[i]? with
  | none => simp
  | some info =>
    by_cases same : document.index = i
    · rw [if_pos same, Option.map_some, Option.map_some]
      split <;> rfl
    · rw [if_neg same]

theorem Extends.isSome_findDocument? (h : r.Extends s)
    (found : (r.findDocument? location).isSome) : (s.findDocument? location).isSome := by
  obtain ⟨i, info, hi, same⟩ := isSome_findDocument?_iff.mp found
  obtain ⟨info', hi', kept⟩ := h.documents hi
  exact isSome_findDocument?_iff.mpr ⟨i, info', hi', kept.location ▸ same⟩

/-! ### The imports of a namespace -/

/-- A document has an import of the namespace. -/
def IsImported (r : Registry) (ns : Namespace) : Prop :=
  ∃ (i : Nat) (info : DocumentInfo), r.documents[i]? = some info ∧
    ∃ edge ∈ info.imports, edge.ns = ns

theorem isImported_of_importsFrom {fuel : Nat} {id : DocumentId}
    (h : r.importsFrom ns fuel id = true) : r.IsImported ns := by
  induction fuel generalizing id with
  | zero => cases h
  | succ fuel ih =>
    rw [importsFrom] at h
    split at h
    · cases h
    · rename_i info hi
      rcases Bool.or_eq_true_iff.mp h with own | inherited
      · obtain ⟨edge, mem, same⟩ := List.any_eq_true.mp own
        exact ⟨id.index, info, hi, edge, mem, eq_of_beq same⟩
      · split at inherited
        · exact ih inherited
        · cases inherited

theorem mem_of_mem_dropRepeats {edge last : ImportEdge} {edges : List ImportEdge}
    (h : edge ∈ dropRepeats last edges) : edge ∈ edges := by
  induction edges generalizing last with
  | nil => exact h
  | cons first edges ih =>
    rw [dropRepeats] at h
    split at h
    · exact List.mem_cons_of_mem _ (ih h)
    · rcases List.mem_cons.mp h with rfl | later
      · exact List.mem_cons_self
      · exact List.mem_cons_of_mem _ (ih later)

theorem mem_of_mem_importsOf {edge : ImportEdge} (h : edge ∈ r.importsOf ns) :
    edge.ns = ns ∧ ∃ (i : Nat) (info : DocumentInfo), r.documents[i]? = some info ∧
      edge ∈ info.imports := by
  have among : edge ∈ (r.documents.toList.flatMap (·.imports)).filter fun edge =>
      edge.ns == ns := by
    unfold importsOf at h
    extract_lets edges at h
    have parts : ∀ e ∈ edges.filter (·.location.isSome) ++ edges.filter (·.location.isNone),
        e ∈ edges := by
      intro e mem
      rcases List.mem_append.mp mem with part | part <;> exact List.mem_of_mem_filter part
    split at h
    · cases h
    · rename_i first rest split'
      refine parts edge (split' ▸ ?_)
      rcases List.mem_cons.mp h with rfl | later
      · exact List.mem_cons_self
      · exact List.mem_cons_of_mem _ (mem_of_mem_dropRepeats later)
  obtain ⟨mem, same⟩ := List.mem_filter.mp among
  obtain ⟨info, known, mem⟩ := List.mem_flatMap.mp mem
  obtain ⟨i, hi⟩ := List.mem_iff_getElem?.mp known
  exact ⟨eq_of_beq same, i, info, by rwa [Array.getElem?_toList] at hi, mem⟩

theorem importsOf_ne_nil (h : r.IsImported ns) : r.importsOf ns ≠ [] := by
  obtain ⟨i, info, hi, edge, mem, same⟩ := h
  unfold importsOf
  extract_lets edges
  have some : edge ∈ edges := by
    refine List.mem_filter.mpr ⟨List.mem_flatMap.mpr ⟨info, ?_, mem⟩, by simp [same]⟩
    exact List.mem_of_getElem? (by rwa [Array.getElem?_toList])
  have parts : edge ∈ edges.filter (·.location.isSome) ++ edges.filter (·.location.isNone) := by
    cases located : edge.location <;> simp [some, located]
  split
  · rename_i none
    rw [none] at parts
    cases parts
  · exact List.cons_ne_nil _ _

/-- What is asked for because of the imports of a namespace is asked for because of one of them. -/
theorem exists_request (h : r.IsImported ns) :
    ∃ edge ∈ r.importsOf ns, edge.request =
      match (r.importsOf ns).findSome? (·.location) with
      | some location => .document location
      | none => .declaring ns := by
  cases located : (r.importsOf ns).findSome? (·.location) with
  | some location =>
    obtain ⟨edge, mem, same⟩ := List.exists_of_findSome?_eq_some located
    exact ⟨edge, mem, by rw [ImportEdge.request, same]⟩
  | none =>
    obtain ⟨edge, mem⟩ := List.exists_mem_of_ne_nil _ (importsOf_ne_nil h)
    have nowhere := List.findSome?_eq_none_iff.mp located edge mem
    exact ⟨edge, mem, by rw [ImportEdge.request, nowhere, (mem_of_mem_importsOf mem).1]⟩

theorem Extends.isImported (h : r.Extends s) (imported : r.IsImported ns) : s.IsImported ns := by
  obtain ⟨i, info, hi, edge, mem, same⟩ := imported
  obtain ⟨info', hi', kept⟩ := h.documents hi
  exact ⟨i, info', hi', edge, kept.imports mem, same⟩

end Registry

/-! ## Faults -/

/-- Neither the documents nor the limits are at fault. -/
def Assembly.IsClean (a : Assembly) : Prop :=
  ∀ e ∈ a.errors, ¬ (e.isDocumentFault = true ∨ e.isLimitExcess = true)

theorem Assembly.IsClean.of_lasts (clean : b.IsClean) (lasts : a.Lasts b) : a.IsClean :=
  fun e he => clean e (lasts.errors.subset he)

namespace Schema

/-! ## Accounts -/

/-- A document that has been read, its target namespace in effect, and the document that includes
it. -/
structure Reading where
  document : Document
  target : Namespace
  includedBy : Option DocumentId

/-- What the registry knows of the document, its imports apart. -/
def Reading.info (r : Reading) : DocumentInfo :=
  ⟨r.document.location, r.target, r.includedBy, []⟩

/-- The document of the schema language itself, which is not read. -/
def Reading.builtin : Reading :=
  ⟨⟨Registry.builtinLocation, none⟩, some QName.xsdNamespace, none⟩

/-- The document declares the name in the category, at the top level. -/
def Defines (document : Document) (category : Category) (name : String) : Prop :=
  ∃ root, document.root = some root ∧ ∃ e ∈ root.children, e.name.isXsd ∧
    topLevelCategory? e.localName = some category ∧ e.attribute? "name" = some name

/-- The document has an include for the location, where the other document can be fetched. -/
def Includes (supply : Supply) (document : Document) (location : Location)
    (included : Document) : Prop :=
  (∃ root, document.root = some root ∧ ∃ e ∈ root.children, e.name = .xsd "include" ∧
    ∃ hint, e.attribute? "schemaLocation" = some hint ∧ location = document.location.join hint) ∧
  ∃ retriever, supply.retriever = some retriever ∧
    retriever.fetch (.document location) = .ok included

/-- How a document comes to be read. One that is included is known by the location that it is
included from, and takes effect in the namespace of the one that includes it. -/
inductive Origin (supply : Supply) (documents : List Document) (readings : List Reading) :
    Reading → Prop
  | builtin : Origin supply documents readings .builtin
  | start {document : Document} : document ∈ documents →
    Origin supply documents readings ⟨document, declaredNamespace document, none⟩
  | imported {retriever : Retriever} {request : Request} {document : Document} :
    supply.retriever = some retriever → retriever.fetch request = .ok document →
      Origin supply documents readings ⟨document, declaredNamespace document, none⟩
  | included {i : DocumentId} {includer : Reading} {location : Location} {document : Document} :
    readings[i.index]? = some includer → Includes supply includer.document location document →
      Origin supply documents readings
        ⟨{ document with location := location }, includer.target, some i⟩

/-- The document has the import. -/
def HasImport (document : Document) (edge : ImportEdge) : Prop :=
  ∃ root, document.root = some root ∧ ∃ e ∈ root.children, e.name = .xsd "import" ∧
    edge = ⟨e.attribute? "namespace", (e.attribute? "schemaLocation").map document.location.join⟩

/-- The document has an import for which the other one is fetched, and is of the namespace. -/
def LeadsTo (supply : Supply) (document imported : Document) : Prop :=
  ∃ edge, HasImport document edge ∧ ∃ retriever, supply.retriever = some retriever ∧
    retriever.fetch edge.request = .ok imported ∧ declaredNamespace imported = edge.ns

/-- Documents at the depth at which they are read. That of a document that is imported does not
depend on where. -/
inductive Counts (supply : Supply) (documents : List Document) : Nat → Document → Prop
  | start {document : Document} : document ∈ documents → Counts supply documents 0 document
  | included {depth : Nat} {document included : Document} {location : Location} :
    Counts supply documents depth document → Includes supply document location included →
      depth + 1 ≤ supply.limits.schemaDepth →
        Counts supply documents (depth + 1) { included with location := location }
  | imported {depth : Nat} {document imported : Document} :
    Counts supply documents depth document → LeadsTo supply document imported →
      Counts supply documents 1 imported

/-- What the documents of the registry have been read from, one after the other. -/
structure Account (supply : Supply) (documents : List Document) (registry : Registry)
    (readings : List Reading) : Prop where
  infos : registry.documents.toList.map (fun info => { info with imports := [] }) =
    readings.map Reading.info
  origin : ∀ r ∈ readings, Origin supply documents readings r

/-- An account in which each document is read at some depth, and has the imports that are noted of
it. -/
structure Ledger (supply : Supply) (documents : List Document) (registry : Registry)
    (readings : List Reading) : Prop extends Account supply documents registry readings where
  counts : ∀ r ∈ readings, r = .builtin ∨ ∃ depth, Counts supply documents depth r.document
  imports : ∀ {i : Nat} {info : DocumentInfo} {r : Reading}, registry.documents[i]? = some info →
    readings[i]? = some r → ∀ edge ∈ info.imports, HasImport r.document edge

/-- What a document that has been read brings about: its names are declared, and a document is found
wherever it includes one. -/
structure Reading.Settled (supply : Supply) (a : Assembly) (i : Nat) (r : Reading) : Prop where
  declares : ∀ {category name}, Defines r.document category name →
    a.Declares ⟨i⟩ ⟨r.target, name⟩ category
  includes : ∀ {location included}, Includes supply r.document location included →
    (a.registry.findDocument? location).isSome

variable {supply : Supply} {documents : List Document} {registry registry' : Registry}
  {readings readings' readings'' : List Reading} {r : Reading}

theorem Defines.congr {d d' : Document} {category : Category} {name : String}
    (h : Defines d category name) (same : d'.root = d.root) : Defines d' category name :=
  let ⟨root, hroot, child⟩ := h
  ⟨root, same.trans hroot, child⟩

theorem Reading.Settled.mono {i : Nat} (h : r.Settled supply a i) (lasts : a.Lasts b) :
    r.Settled supply b i :=
  ⟨fun defines => (h.declares defines).mono lasts,
    fun includes => lasts.registry.isSome_findDocument? (h.includes includes)⟩

theorem Origin.mono (h : Origin supply documents readings r) (kept : readings <+: readings') :
    Origin supply documents readings' r := by
  cases h with
  | builtin => exact .builtin
  | start mem => exact .start mem
  | imported supplied fetched => exact .imported supplied fetched
  | included found includes =>
    obtain ⟨rest, rfl⟩ := kept
    have bound := (List.getElem?_eq_some_iff.mp found).1
    exact .included ((List.getElem?_append_left bound).trans found) includes

/-- A document that no other one includes is in effect in the namespace that it declares. -/
theorem Origin.target_eq (h : Origin supply documents readings r) (alone : r.includedBy = none)
    (real : r.document.root ≠ none) : r.target = declaredNamespace r.document := by
  cases h with
  | builtin => exact absurd rfl real
  | start => rfl
  | imported => rfl
  | included => cases alone

namespace Account

theorem congr (h : Account supply documents registry readings)
    (same : registry'.documents.toList.map (fun info => { info with imports := [] }) =
      registry.documents.toList.map fun info => { info with imports := [] }) :
    Account supply documents registry' readings :=
  ⟨same.trans h.infos, h.origin⟩

theorem length_eq (h : Account supply documents registry readings) :
    registry.documents.size = readings.length := by
  have := congrArg List.length h.infos
  rwa [List.length_map, List.length_map, Array.length_toList] at this

/-- One more document. -/
theorem push (h : Account supply documents registry readings)
    (origin : Origin supply documents (readings ++ [r]) r) :
    Account supply documents (registry.addDocument r.info).2 (readings ++ [r]) where
  infos := by
    rw [Registry.documents_addDocument, Array.toList_push, List.map_append, List.map_append,
      h.infos]
    rfl
  origin other mem := by
    rcases List.mem_append.mp mem with old | new
    · exact (h.origin other old).mono (List.prefix_append _ _)
    · cases List.mem_singleton.mp new
      exact origin

theorem info (h : Account supply documents registry readings) {i : Nat} {info : DocumentInfo}
    (hi : registry.documents[i]? = some info) :
    ∃ r, readings[i]? = some r ∧ r.document.location = info.location ∧ r.target = info.target ∧
      r.includedBy = info.includedBy := by
  have at' := congrArg (·[i]?) h.infos
  simp only [List.getElem?_map, Array.getElem?_toList, hi, Option.map_some] at at'
  obtain ⟨r, hr, same⟩ := Option.map_eq_some_iff.mp at'.symm
  cases info
  cases same
  exact ⟨r, hr, rfl, rfl, rfl⟩

theorem reading (h : Account supply documents registry readings) {i : Nat}
    (hr : readings[i]? = some r) :
    ∃ info, registry.documents[i]? = some info ∧ info.location = r.document.location ∧
      info.target = r.target ∧ info.includedBy = r.includedBy := by
  have bound := (List.getElem?_eq_some_iff.mp hr).1
  rw [← h.length_eq] at bound
  obtain ⟨r', hr', location, target, includedBy⟩ := h.info (Array.getElem?_eq_getElem bound)
  cases hr.symm.trans hr'
  exact ⟨_, Array.getElem?_eq_getElem bound, location.symm, target.symm, includedBy.symm⟩

theorem isSome_findDocument? (h : Account supply documents registry readings)
    (mem : r ∈ readings) : (registry.findDocument? r.document.location).isSome := by
  obtain ⟨i, hr⟩ := List.mem_iff_getElem?.mp mem
  obtain ⟨info, hi, same, -⟩ := h.reading hr
  exact Registry.isSome_findDocument?_iff.mpr ⟨i, info, hi, same ▸ Location.isSame_self _⟩

end Account

namespace Ledger

theorem of_documents (h : Ledger supply documents registry readings)
    (same : registry'.documents = registry.documents) :
    Ledger supply documents registry' readings where
  toAccount := h.toAccount.congr (by rw [same])
  counts := h.counts
  imports hi := h.imports (same ▸ hi)

/-- One more document. -/
theorem push (h : Ledger supply documents registry readings) {depth : Nat}
    (origin : Origin supply documents (readings ++ [r]) r)
    (counts : Counts supply documents depth r.document) :
    Ledger supply documents (registry.addDocument r.info).2 (readings ++ [r]) where
  toAccount := h.toAccount.push origin
  counts := List.forall_mem_append.mpr
    ⟨h.counts, List.forall_mem_singleton.mpr (Or.inr ⟨depth, counts⟩)⟩
  imports {i info r'} hi hr := by
    rw [Registry.documents_addDocument, Array.getElem?_push] at hi
    split at hi
    · cases hi
      exact List.forall_mem_nil _
    · have bound := (Array.getElem?_eq_some_iff.mp hi).1
      rw [List.getElem?_append_left (h.length_eq ▸ bound)] at hr
      exact h.imports hi hr

/-- An import of a document is noted. -/
theorem addImport (h : Ledger supply documents registry readings) {document : DocumentId}
    {edge : ImportEdge} (found : readings[document.index]? = some r)
    (own : HasImport r.document edge) :
    Ledger supply documents (registry.addImport document edge) readings where
  toAccount := h.toAccount.congr (Registry.bare_addImport registry document edge)
  counts := h.counts
  imports {i info r'} hi hr := by
    simp only [Registry.addImport, Array.getElem?_modify] at hi
    split at hi
    · rename_i here
      obtain ⟨before, hb, rfl⟩ := Option.map_eq_some_iff.mp hi
      have old := h.imports hb hr
      subst here
      cases hr.symm.trans found
      split
      · exact old
      · exact List.forall_mem_append.mpr ⟨old, List.forall_mem_singleton.mpr own⟩
    · exact h.imports hi hr

end Ledger

/-! ## How an account goes on -/

/-- The account goes on with what has been read since. -/
structure Recounted (supply : Supply) (documents : List Document) (a : Assembly)
    (readings : List Reading) (b : Assembly) (readings' : List Reading) : Prop where
  account : Ledger supply documents b.registry readings'
  kept : readings <+: readings'
  lasts : a.Lasts b

/-- What has been read since is settled, unless there are faults. -/
structure Advances (supply : Supply) (documents : List Document) (a : Assembly)
    (readings : List Reading) (b : Assembly) (readings' : List Reading) : Prop
    extends Recounted supply documents a readings b readings' where
  settled : b.IsClean → ∀ i r, readings'[i]? = some r → readings.length ≤ i →
    r.Settled supply b i

theorem Recounted.trans (h : Recounted supply documents a readings b readings')
    (h' : Recounted supply documents b readings' c readings'') :
    Recounted supply documents a readings c readings'' :=
  ⟨h'.account, h.kept.trans h'.kept, h.lasts.trans h'.lasts⟩

/-- An error that is noted leaves the account as it is. -/
theorem Recounted.note (h : Recounted supply documents a readings b readings') (e : Error) :
    Recounted supply documents a readings { b with errors := b.errors ++ [e] } readings' :=
  ⟨h.account, h.kept, h.lasts.note e⟩

/-- With a fault nothing has to be settled. -/
theorem Recounted.advances_of_fault (h : Recounted supply documents a readings b readings')
    {e : Error} (noted : e ∈ b.errors) (fault : e.isDocumentFault = true ∨ e.isLimitExcess = true) :
    Advances supply documents a readings b readings' :=
  ⟨h, fun clean => absurd fault (clean e noted)⟩

namespace Advances

/-- No document has been read. -/
theorem still (account : Ledger supply documents b.registry readings) (lasts : a.Lasts b) :
    Advances supply documents a readings b readings := by
  refine ⟨⟨account, List.prefix_rfl, lasts⟩, fun _ i r hr late => ?_⟩
  have := (List.getElem?_eq_some_iff.mp hr).1
  omega

theorem refl (account : Ledger supply documents a.registry readings) :
    Advances supply documents a readings a readings :=
  still account (.refl a)

theorem trans (h : Advances supply documents a readings b readings')
    (h' : Advances supply documents b readings' c readings'') :
    Advances supply documents a readings c readings'' := by
  refine ⟨h.toRecounted.trans h'.toRecounted, fun clean i r hr late => ?_⟩
  by_cases early : i < readings'.length
  · obtain ⟨rest, rfl⟩ := h'.kept
    rw [List.getElem?_append_left early] at hr
    exact (h.settled (clean.of_lasts h'.lasts) i r hr late).mono h'.lasts
  · exact h'.settled clean i r hr (Nat.not_lt.mp early)

end Advances

/-- Whether or not it is a fault, an error that is noted leaves nothing unsettled. -/
theorem Recounted.advances_note (h : Recounted supply documents a readings b readings') {e : Error}
    (advances : ¬ (e.isDocumentFault = true ∨ e.isLimitExcess = true) →
      Advances supply documents a readings b readings') :
    Advances supply documents a readings { b with errors := b.errors ++ [e] } readings' := by
  by_cases fault : e.isDocumentFault = true ∨ e.isLimitExcess = true
  · exact (h.note e).advances_of_fault (List.mem_append_right _ (List.mem_singleton_self e)) fault
  · have noted : b.Lasts { b with errors := b.errors ++ [e] } := (Assembly.Lasts.refl b).note e
    exact (advances fault).trans (.still h.account noted)

variable {α β : Type} {post : α → Assembly → List Reading → Prop}

/-- However a step of the reading ends, the account goes on. A step that comes to a result, or fails
for no fault of documents or limits, leaves nothing unsettled. -/
def Recounts (supply : Supply) (documents : List Document) (a : Assembly) (readings : List Reading)
    (x : Assemble α) (post : α → Assembly → List Reading → Prop) : Prop :=
  Ledger supply documents a.registry readings →
    ∃ readings', Recounted supply documents a readings (x.run.run a).2 readings' ∧
      (∀ v, (x.run.run a).1 = .ok v → post v (x.run.run a).2 readings') ∧
      ((∀ e, (x.run.run a).1 = .error e →
          ¬ (e.isDocumentFault = true ∨ e.isLimitExcess = true)) →
        Advances supply documents a readings (x.run.run a).2 readings')

namespace Recounts

/-- A step that reads no document. -/
theorem ofBuilds {x : Assemble α} {post : α → Assembly → Prop}
    (h : Builds (fun b => b.registry.documents = a.registry.documents) a x post) :
    Recounts supply documents a readings x fun v b _ => post v b := by
  intro account
  obtain ⟨same, grows, result⟩ := h rfl
  have still := Advances.still (account.of_documents same) grows.lasts
  exact ⟨readings, still.toRecounted, result, fun _ => still⟩

theorem pure {v : α} (h : post v a readings) :
    Recounts supply documents a readings (Pure.pure v) post := by
  intro account
  refine ⟨readings, (Advances.refl account).toRecounted, ?_, fun _ => .refl account⟩
  rintro _ ⟨⟩
  exact h

theorem throw (e : Error) :
    Recounts supply documents a readings (MonadExcept.throw e : Assemble α) post := by
  intro account
  refine ⟨readings, (Advances.refl account).toRecounted, ?_, fun _ => .refl account⟩
  rintro _ ⟨⟩

theorem throwBind {e : Error} {f : β → Assemble α} :
    Recounts supply documents a readings (MonadExcept.throw e >>= f) post :=
  throw e

theorem weaken {x : Assemble α} {post' : α → Assembly → List Reading → Prop}
    (hx : Recounts supply documents a readings x post)
    (h : ∀ v b readings', Recounted supply documents a readings b readings' → post v b readings' →
      post' v b readings') :
    Recounts supply documents a readings x post' := by
  intro account
  obtain ⟨readings', recounted, result, advances⟩ := hx account
  exact ⟨readings', recounted, fun v hv => h v _ _ recounted (result v hv), advances⟩

theorem bind {x : Assemble α} {f : α → Assemble β} {post' : β → Assembly → List Reading → Prop}
    (hx : Recounts supply documents a readings x post)
    (hf : ∀ v b readings', Recounted supply documents a readings b readings' → post v b readings' →
      Recounts supply documents b readings' (f v) post') :
    Recounts supply documents a readings (x >>= f) post' := by
  intro account
  obtain ⟨readings', recounted, result, advances⟩ := hx account
  rw [ExceptT.run_bind, StateT.run_bind]
  generalize x.run.run a = outcome at recounted result advances
  obtain ⟨r, b⟩ := outcome
  cases r with
  | error e =>
    refine ⟨readings', recounted, ?_, fun blameless => ?_⟩
    · rintro _ ⟨⟩
    · exact advances fun e' he => blameless e' (Except.error.inj he ▸ rfl)
  | ok v =>
    have first := advances (by rintro _ ⟨⟩)
    obtain ⟨readings'', recounted', result', advances'⟩ :=
      hf v b readings' recounted (result v rfl) recounted.account
    exact ⟨readings'', recounted.trans recounted', result',
      fun blameless => first.trans (advances' blameless)⟩

theorem liftBind {x : Except Error α} {f : α → Assemble β}
    {post' : β → Assembly → List Reading → Prop}
    (hf : ∀ v, x = .ok v → Recounts supply documents a readings (f v) post') :
    Recounts supply documents a readings ((liftM x : Assemble α) >>= f) post' := by
  cases x with
  | ok v => exact hf v rfl
  | error e => exact throw e

theorem discard {x : Assemble α} {post : Assembly → List Reading → Prop}
    (hx : Recounts supply documents a readings x fun _ => post) :
    Recounts supply documents a readings (Functor.discard x) fun _ => post :=
  bind hx fun _ _ _ _ h => pure h

/-- A fault that is noted. -/
theorem note {e : Error} {post : Unit → Assembly → List Reading → Prop}
    (fault : e.isDocumentFault = true ∨ e.isLimitExcess = true)
    (noted : ∀ b readings', ¬ b.IsClean → post () b readings') :
    Recounts supply documents a readings (Assemble.note e) post := by
  intro account
  have here : e ∈ a.errors ++ [e] := List.mem_append_right _ (List.mem_singleton_self e)
  have recounted := (Advances.refl account).toRecounted.note e
  exact ⟨readings, recounted, fun _ _ => noted _ _ fun clean => clean e here fault,
    fun _ => recounted.advances_of_fault here fault⟩

theorem getBind {f : Assembly → Assemble β} {post' : β → Assembly → List Reading → Prop}
    (h : Recounts supply documents a readings (f a) post') :
    Recounts supply documents a readings (MonadState.get >>= f) post' :=
  h

/-- An error that is handled by noting it. -/
theorem tryNote {x : Assemble Unit} {post : Unit → Assembly → List Reading → Prop}
    (hx : Recounts supply documents a readings x post)
    (noted : ∀ b readings', ¬ b.IsClean → post () b readings') (blamed : ∀ e,
      (x.run.run a).1 = .error e → e.isDocumentFault = true ∨ e.isLimitExcess = true) :
    Recounts supply documents a readings (MonadExcept.tryCatch x Assemble.note) post := by
  intro account
  obtain ⟨readings', recounted, result, advances⟩ := hx account
  rw [ExceptT.run_tryCatch, StateT.run_bind]
  generalize x.run.run a = outcome at recounted result advances blamed
  obtain ⟨r, b⟩ := outcome
  cases r with
  | ok v => exact ⟨readings', recounted, result, fun _ => advances (by rintro _ ⟨⟩)⟩
  | error e =>
    have fault := blamed e rfl
    have here : e ∈ b.errors ++ [e] := List.mem_append_right _ (List.mem_singleton_self e)
    refine ⟨readings', recounted.note e, fun _ _ => ?_, fun _ =>
      (recounted.note e).advances_of_fault here fault⟩
    exact noted _ _ fun clean => clean e here fault

/-- What each step brings about is there in the end, if it lasts. -/
theorem forM {f : α → Assemble Unit} {Q : α → Assembly → Prop}
    (lasting : ∀ {x b c}, Q x b → b.Lasts c → Q x c) {xs : List α}
    (hf : ∀ x ∈ xs, ∀ b readings', Recounted supply documents a readings b readings' →
      Recounts supply documents b readings' (f x) fun _ b _ => Q x b) :
    Recounts supply documents a readings (xs.forM f) fun _ b _ => ∀ x ∈ xs, Q x b := by
  induction xs generalizing a readings with
  | nil => exact pure fun _ h => absurd h List.not_mem_nil
  | cons x xs ih =>
    have first : Recounts supply documents a readings (f x) fun _ b _ => Q x b := by
      intro account
      exact hf x List.mem_cons_self a readings (Advances.refl account).toRecounted account
    refine bind first fun _ b readings' recounted hx => ?_
    have rest := ih fun y hy b' readings'' recounted' =>
      hf y (List.mem_cons_of_mem x hy) b' readings'' (recounted.trans recounted')
    exact weaken rest fun _ c _ recounted' hxs =>
      List.forall_mem_cons.mpr ⟨lasting hx recounted'.lasts, hxs⟩

/-- A document that is entered is settled once it has been read, and its reading fails for faults
only. -/
theorem addDocument (current : Reading) (Q : Assembly → Prop) {f : DocumentId → Assemble α}
    (origin : Origin supply documents (readings ++ [current]) current) {depth : Nat}
    (counts : Counts supply documents depth current.document)
    (hf : Recounts supply documents (a.withDocument current.info) (readings ++ [current])
      (f ⟨readings.length⟩) fun _ b _ => Q b)
    (raises : Raises (Error.IsIn current.document.location) (f ⟨readings.length⟩))
    (settles : ∀ b, Q b → b.IsClean → current.Settled supply b readings.length) :
    Recounts supply documents a readings
      (modifyGet (fun a : Assembly =>
        let (id, registry) := a.registry.addDocument current.info
        (id, { a with registry := registry })) >>= f)
      fun _ _ readings' => current ∈ readings' := by
  intro account
  have number : (a.registry.addDocument current.info).1 = ⟨readings.length⟩ := by
    rw [Registry.id_addDocument, account.length_eq]
  have run : (modifyGet (fun a : Assembly =>
        let (id, registry) := a.registry.addDocument current.info
        (id, { a with registry := registry })) >>= f).run.run a =
      (f ⟨readings.length⟩).run.run (a.withDocument current.info) := by
    rw [← number]
    rfl
  obtain ⟨readings', recounted, result, advances⟩ := hf (account.push origin counts)
  have raised := raises (a.withDocument current.info)
  rw [run]
  generalize (f ⟨readings.length⟩).run.run _ = outcome at recounted result advances raised
  obtain ⟨r, b⟩ := outcome
  have entered : readings'[readings.length]? = some current := by
    obtain ⟨rest, rfl⟩ := recounted.kept
    simp
  have whole : Recounted supply documents a readings b readings' :=
    ⟨recounted.account, (List.prefix_append _ _).trans recounted.kept,
      (a.lasts_withDocument current.info).trans recounted.lasts⟩
  refine ⟨readings', whole, fun _ _ => List.mem_of_getElem? entered,
    fun blameless => ⟨whole, fun clean i r' hr late => ?_⟩⟩
  cases r with
  | error e => exact absurd (raised e rfl).isFault (blameless e rfl)
  | ok v =>
    by_cases first : i = readings.length
    · subst first
      cases entered.symm.trans hr
      exact settles b (result v rfl) clean
    · have settled := (advances (by rintro _ ⟨⟩)).settled clean i r' hr
      refine settled ?_
      rw [List.length_append, List.length_singleton]
      omega

end Recounts

end Schema

end Xsd
