import ApiCatalog.Proofs.Loading.Schemas
import ApiCatalog.Proofs.Marks

/-!
# The marks that a load leaves

The records of a load are marked as the linked documents say: a schema is marked as input when some operation has it
as its request, and as output when some operation answers with it (`marks_exact`). It does not matter which step
cached the schema, an operation, a message or another schema, nor whether this was before or after the operation was
linked: marks are looked up by URL, every operation adds its own, and no other step adds or removes any.
-/

namespace ApiCatalog

theorem mem_linkedUses {role : Role} {uses : List (Role × String)} {url : String} :
    (role, url) ∈ linkedUses uses ↔ NamedAs role uses url := by
  simp only [linkedUses, List.mem_map, List.mem_filter, Prod.mk.injEq, NamedAs, Prod.exists, Bool.not_eq_true']
  constructor
  · rintro ⟨_, reference, ⟨hmem, hblank⟩, rfl, rfl⟩
    exact ⟨reference, hmem, hblank, rfl⟩
  · rintro ⟨reference, hmem, hblank, rfl⟩
    exact ⟨role, reference, ⟨hmem, hblank⟩, rfl, rfl⟩

/-! ## The operations of a load -/

namespace Loaded

/-- Some operation has the schema of a URL as its request. -/
def Takes (loaded : Loaded) (url : String) : Prop :=
  ∃ result ∈ loaded.definitions, ∃ api, result.document = .api api ∧ ∃ entry ∈ api.entries, entry.input = some url

/-- Some operation answers with the schema of a URL. -/
def Answers (loaded : Loaded) (url : String) : Prop :=
  ∃ result ∈ loaded.definitions, ∃ api, result.document = .api api ∧ ∃ entry ∈ api.entries, entry.output = some url

end Loaded

theorem Document.input_mem_uses {document : Document} {url : String} :
    (Role.input, url) ∈ document.uses ↔
      ∃ api, document = .api api ∧ ∃ entry ∈ api.entries, entry.input = some url := by
  cases document <;> simp [uses, ApiEntry.uses, ExchangeEntry.uses]

theorem Document.output_mem_uses {document : Document} {url : String} :
    (Role.output, url) ∈ document.uses ↔
      ∃ api, document = .api api ∧ ∃ entry ∈ api.entries, entry.output = some url := by
  cases document <;> simp [uses, ApiEntry.uses, ExchangeEntry.uses]

/-! ## The documents of a load -/

namespace Library
variable {library : Library} {patches : List SchemaPatch} {definitions : List Definition} {loaded : Loaded}
  {t : Session}

theorem marked_loadDocuments {index : Nat} {results : List LoadedDefinition} {role : Role} {url : String}
    {s t : Session} (hrun : Load.perform (library.loadDocuments index definitions) s = (.ok results, t)) :
    t.cache.marked role url = true ↔ s.cache.marked role url = true ∨
      role ≠ .message ∧ ∃ result ∈ results, (role, canonicalUrl url) ∈ result.document.uses := by
  induction definitions generalizing index results s with
  | nil =>
    cases hrun
    simp
  | cons definition rest ih =>
    obtain ⟨document, linked, u, more, -, hnamed, hresolve, hrest, rfl⟩ := loadDocuments_cons_ok.1 hrun
    rw [ih hrest, marked_resolveAll hresolve, or_assoc, ← mem_linkedUses, ← Document.uses_of_named hnamed,
      ← and_or_left, List.exists_mem_cons_iff]
    rfl

/-- The marks of a load are those of the references that are left in its documents. -/
theorem marked_loadDefinitions
    (hrun : Load.perform (library.loadDefinitions patches definitions) {} = (.ok loaded, t)) {role : Role}
    {url : String} : loaded.schemas.marked role url = true ↔
      role ≠ .message ∧ ∃ result ∈ loaded.definitions, (role, canonicalUrl url) ∈ result.document.uses := by
  obtain ⟨u, hdocuments, -, hnames, -⟩ := loadDefinitions_ok.1 hrun
  have hsame : u.cache.SameMarks loaded.schemas :=
    (SchemaCache.sameMarks_applyPatches u.cache patches).trans (SchemaCache.sameMarks_nameEach hnames)
  rw [hsame role url, marked_loadDocuments hdocuments]
  -- nothing is marked in the cache that a load starts with
  exact or_iff_right (by simp [SchemaCache.marked, SchemaCache.get?])

end Library

theorem SchemaCache.marked_of_mem {cache : SchemaCache} {record : SchemaRecord} (h : record ∈ cache.records)
    (role : Role) : cache.marked role record.sourceUrl = role.marks record := by
  have hfound : cache.get? record.sourceUrl = some record := get?_eq_some.2 ⟨h, rfl⟩
  rw [marked, hfound, Option.any_some]

namespace Library
variable {library : Library} {patches : List SchemaPatch} {definitions : List Definition} {loaded : Loaded}
  {t : Session}

theorem marks_iff (hrun : Load.perform (library.loadDefinitions patches definitions) {} = (.ok loaded, t))
    {record : SchemaRecord} (hrecord : record ∈ loaded.schemas.records) (role : Role) :
    role.marks record = true ↔
      role ≠ .message ∧ ∃ result ∈ loaded.definitions, (role, record.sourceUrl) ∈ result.document.uses := by
  obtain ⟨key, -, -, hsource, -⟩ := fetched_of_loadDefinitions hrun hrecord
  have hcanonical : canonicalUrl record.sourceUrl = record.sourceUrl := by rw [hsource, SchemaKey.canonicalUrl_url]
  rw [← SchemaCache.marked_of_mem hrecord, marked_loadDefinitions hrun, hcanonical]

/-- **The marks of a load** are exact: a schema is marked as input when some operation takes it, and as output when
some operation answers with it. Messages, references of schemas, patches and names neither set nor clear a mark. -/
theorem marks_exact (hrun : Load.perform (library.loadDefinitions patches definitions) {} = (.ok loaded, t)) :
    (∀ record ∈ loaded.schemas.records, (record.isInput = true ↔ loaded.Takes record.sourceUrl) ∧
      (record.isOutput = true ↔ loaded.Answers record.sourceUrl)) ∧
    (∀ id document, Load.KeepsMarks (library.link id (.exchange document))) ∧
    (∀ url, Load.KeepsMarks (library.resolve url)) ∧
    (∀ corrections, Load.KeepsMarks (Load.applyPatches corrections)) ∧ Load.KeepsMarks Load.assignTypeNames := by
  refine ⟨fun record hrecord => ⟨?_, ?_⟩, keepsMarks_linkExchange, keepsMarks_resolve, ?_, ?_⟩
  · have hmarks := marks_iff hrun hrecord .input
    simp only [Document.input_mem_uses, ne_eq, reduceCtorEq, not_false_eq_true, true_and] at hmarks
    exact hmarks
  · have hmarks := marks_iff hrun hrecord .output
    simp only [Document.output_mem_uses, ne_eq, reduceCtorEq, not_false_eq_true, true_and] at hmarks
    exact hmarks
  · intro corrections s
    exact SchemaCache.sameMarks_applyPatches s.cache corrections
  · intro s
    rw [perform_assignTypeNames]
    split
    · next hnames => exact SchemaCache.sameMarks_nameEach hnames
    · exact .refl _

theorem cyclic_uses
    (hrun : Load.perform (cyclic.loadDefinitions SchemaPatch.builtin [cyclicDefinition]) {} = (.ok loaded, t)) :
    ∃ result, loaded.definitions = [result] ∧ result.document.uses = [(.input, "http://s/a.json#")] := by
  obtain ⟨u, -, hlinked, -⟩ := linked_of_loadDefinitions hrun
  have horder : loadOrder [cyclicDefinition] = [cyclicDefinition] := List.mergeSort_singleton _
  rw [horder] at hlinked
  generalize hdefinitions : loaded.definitions = results at hlinked
  cases hlinked with
  | cons opens plain named tail =>
    cases tail
    cases opens.unique cyclic_opens
    refine ⟨_, rfl, ?_⟩
    rw [Document.uses_of_named named]
    decide

theorem cyclic_marks_exact : ∃ loaded t,
    Load.perform (cyclic.loadDefinitions SchemaPatch.builtin [cyclicDefinition]) {} = (.ok loaded, t) ∧
      ∀ record ∈ loaded.schemas.records,
        (record.isInput = true ↔ record.sourceUrl = "http://s/a.json#") ∧ record.isOutput = false := by
  obtain ⟨loaded, t, hrun⟩ := cyclic_loads
  obtain ⟨result, hresults, huses⟩ := cyclic_uses hrun
  refine ⟨loaded, t, hrun, fun record hrecord => ?_⟩
  obtain ⟨hinput, houtput⟩ := (marks_exact hrun).1 record hrecord
  have htakes : loaded.Takes record.sourceUrl ↔ (Role.input, record.sourceUrl) ∈ result.document.uses := by
    simp [Loaded.Takes, hresults, Document.input_mem_uses]
  have hanswers : loaded.Answers record.sourceUrl ↔ (Role.output, record.sourceUrl) ∈ result.document.uses := by
    simp [Loaded.Answers, hresults, Document.output_mem_uses]
  rw [htakes, huses] at hinput
  rw [hanswers, huses] at houtput
  exact ⟨by simpa using hinput, by simpa using houtput⟩

end Library

end ApiCatalog
