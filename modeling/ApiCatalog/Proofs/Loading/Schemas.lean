import ApiCatalog.Proofs.Loading.Success

/-!
# The schemas that a load leaves

The cache of a load that succeeded holds exactly the schemas that its documents lead to (`schemas_exact`), and all
that is left of their references can be looked up in it (`references_found`). The second needs the first: in the
middle of a search there are references to schemas that have not been reached yet, but what a reachable schema
leads to is reachable.
-/

namespace ApiCatalog

/-! ## Which schemas there are -/

namespace Library
variable {library : Library} {patches : List SchemaPatch} {definitions : List Definition} {loaded : Loaded}
  {t : Session}

/-- **The cached schemas** are those that the entries of the documents lead to, directly or through others. -/
theorem schemas_exact (hrun : Load.perform (library.loadDefinitions patches definitions) {} = (.ok loaded, t)) :
    (∀ url, url ∈ loaded.schemas.keys ↔ library.Reachable (library.Declares definitions) url) ∧
      (∀ url, url ∈ loaded.schemaUrls ↔ library.Reachable (library.Declares definitions) url) ∧
      loaded.schemaUrls.Pairwise (· < ·) := by
  obtain ⟨u, -, -, hdiscovered, -, hrevises, -⟩ := linked_of_loadDefinitions hrun
  have hkeys (url : String) : url ∈ loaded.schemas.keys ↔ library.Reachable (library.Declares definitions) url := by
    rw [hrevises.keys_eq, hdiscovered.keys_iff]
  exact ⟨hkeys, fun url => SchemaCache.mem_sortedUrls.trans (hkeys url),
    SchemaCache.sortedUrls_ascending loaded.schemas⟩

theorem cyclic_schemas_exact : ∃ loaded t,
    Load.perform (cyclic.loadDefinitions SchemaPatch.builtin [cyclicDefinition]) {} = (.ok loaded, t) ∧
      ∀ url, url ∈ loaded.schemas.keys ↔ OnCycle url := by
  obtain ⟨loaded, t, hrun⟩ := cyclic_loads
  exact ⟨loaded, t, hrun, fun url => ((schemas_exact hrun).1 url).trans (cyclic_reachable url)⟩

end Library

/-! ## What their references lead to -/

/-- The text is a canonical URL, with its only marker at its end, and names a schema of the load: the record that is
found for it was fetched for this very text. -/
structure Loaded.Names (loaded : Loaded) (reference : String) : Prop where
  marked_once : reference.toList.count fragmentMarker = 1
  marked_last : reference.toList.getLast? = some fragmentMarker
  found : ∃ record, loaded.schemas.get? reference = some record ∧ record.key = reference ∧
    record.sourceUrl = reference

/-- Nothing refers out of the load. -/
structure Loaded.Closed (loaded : Loaded) : Prop where
  /-- The references of entries name schemas. -/
  entries : ∀ result ∈ loaded.definitions, ∀ reference ∈ result.document.references, loaded.Names reference
  /-- The references of schemas beyond their own documents name schemas. -/
  schemas : ∀ record ∈ loaded.schemas.records, ∀ reference ∈ record.root.references,
    isLocalReference reference = false → loaded.Names reference
  /-- Schemas are looked up by the URLs that they were fetched for. -/
  keys : ∀ record ∈ loaded.schemas.records, record.key = record.sourceUrl

theorem SchemaKey.count_url (key : SchemaKey) : key.url.toList.count fragmentMarker = 1 := by
  rw [toList_url, List.count_append, List.count_eq_zero_of_not_mem key.unmarked]
  simp

namespace Library
variable {library : Library} {patches : List SchemaPatch} {definitions : List Definition} {loaded : Loaded}
  {t : Session}

/-- Every cached schema is reachable and was fetched for its key, and the patches and names have added no reference
to those that it had then. -/
theorem fetched_of_loadDefinitions
    (hrun : Load.perform (library.loadDefinitions patches definitions) {} = (.ok loaded, t)) {record : SchemaRecord}
    (hrecord : record ∈ loaded.schemas.records) : ∃ key root nested, record.sourceUrl = key.url ∧
      record.key = key.url ∧ library.Reachable (library.Declares definitions) key.url ∧
      library.schema key = .ok (root, nested) ∧ record.root.references ⊆ root.references := by
  obtain ⟨u, -, -, hdiscovered, -, hrevises, -⟩ := linked_of_loadDefinitions hrun
  obtain ⟨original, horiginal, hrevised⟩ := exists_of_forall₂ hrevises record hrecord
  obtain ⟨key, nested, hsource, hschema⟩ := hdiscovered.fetched original horiginal
  have hurl := hrevised.sourceUrl.trans hsource
  have hkey : record.key = key.url := by rw [SchemaRecord.key, hurl, SchemaKey.canonicalUrl_url]
  refine ⟨key, _, nested, hurl, hkey, ?_, hschema, hrevised.root.references⟩
  rw [← hdiscovered.keys_iff, ← hrevises.keys_eq, ← hkey]
  exact SchemaCache.key_mem_keys hrecord

theorem names_of_reachable (hrun : Load.perform (library.loadDefinitions patches definitions) {} = (.ok loaded, t))
    {url : String} (hurl : library.Reachable (library.Declares definitions) url) : loaded.Names url := by
  obtain ⟨u, -, -, hdiscovered, -, hrevises, -⟩ := linked_of_loadDefinitions hrun
  have hmem : url ∈ loaded.schemas.keys := by rwa [hrevises.keys_eq, hdiscovered.keys_iff]
  obtain ⟨record, hrecord, rfl⟩ := SchemaCache.mem_keys.1 hmem
  obtain ⟨key, root, nested, hsource, hkey, -, -, -⟩ := fetched_of_loadDefinitions hrun hrecord
  rw [hkey]
  refine ⟨key.count_url, by rw [SchemaKey.toList_url]; simp, record, ?_, hkey, hsource⟩
  exact SchemaCache.get?_eq_some.2 ⟨hrecord, by rw [hkey, SchemaKey.canonicalUrl_url]⟩

/-- **A load that succeeds** is closed. -/
theorem references_found (hrun : Load.perform (library.loadDefinitions patches definitions) {} = (.ok loaded, t)) :
    loaded.Closed where
  entries result hresult reference hreference := by
    obtain ⟨u, -, hlinked, -⟩ := linked_of_loadDefinitions hrun
    obtain ⟨hmem, document, id, hopens, hnamed⟩ := hlinked.named result hresult
    rw [Document.references_of_named hnamed] at hreference
    obtain ⟨original, hfiltered, rfl⟩ := List.mem_map.1 hreference
    obtain ⟨horiginal, hblank⟩ := List.mem_filter.1 hfiltered
    have hplain : Text.isBlank original = false := by simpa using hblank
    have hdefinition := (loadOrder_perm definitions).mem_iff.1 hmem
    exact names_of_reachable hrun (.root ⟨_, hdefinition, document, hopens, original, horiginal, hplain, rfl⟩)
  schemas record hrecord reference hreference hlocal := by
    obtain ⟨key, root, nested, -, -, hurl, hschema, hsubset⟩ := fetched_of_loadDefinitions hrun hrecord
    -- what a reachable schema leads to is reachable
    exact names_of_reachable hrun (hurl.step (leadsTo_of_mem_references hschema (hsubset hreference) hlocal))
  keys record hrecord := by
    obtain ⟨key, root, nested, hsource, hkey, -⟩ := fetched_of_loadDefinitions hrun hrecord
    rw [hkey, hsource]

theorem cyclic_references_found : ∃ loaded t,
    Load.perform (cyclic.loadDefinitions SchemaPatch.builtin [cyclicDefinition]) {} = (.ok loaded, t) ∧
      loaded.Closed := by
  obtain ⟨loaded, t, hrun⟩ := cyclic_loads
  exact ⟨loaded, t, hrun, references_found hrun⟩

end Library

end ApiCatalog
