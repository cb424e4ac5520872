import ApiCatalog.NamesReport
import ApiCatalog.Proofs.Loading.Definitions
import ApiCatalog.Proofs.Naming.Given

/-!
# Reports are complete

A report is made from what a load holds, and what it does not find it leaves out: a URL without a schema, the name of a
type that has not been given. A load that succeeded leaves nothing out. The URLs of its schemas are the keys of its
cache, and every record stands under the URL that it was fetched for and has a name (`showsSchema`); the documents have
the entries that were read, in their order, and each entry has its names (`covers_names`).

Both parts compare the report with something that was there before it, the schemas with the records of the cache and
the definitions with the documents of the library (`report_complete`).
-/

namespace ApiCatalog
open Naming (NamedAfter WellNamed)

/-! ## Schemas -/

/-- A line of the report shows the schema that is cached under a canonical URL, with the name that it was given. -/
structure SchemaNames.Shows (cache : SchemaCache) (url : String) (names : SchemaNames) : Prop where
  url_eq : names.url = url
  canonical : canonicalUrl url = url
  found : ∃ record, cache.get? url = some record ∧ record.sourceUrl = url ∧
    record.typeName = some names.typeName ∧ names.isInput = record.isInput ∧ names.isOutput = record.isOutput
  named : names.typeName ≠ ""

theorem Naming.NamedAfter.ne_empty {text name : String} (h : NamedAfter text name) : name ≠ "" := by
  rintro rfl
  obtain ⟨first, rest, hchars, -⟩ := h.wellFormed
  cases hchars

namespace Loaded
variable {loaded : Loaded}

theorem mem_records_of_mem_sortedSchemas {record : SchemaRecord} (h : record ∈ loaded.sortedSchemas) :
    record ∈ loaded.schemas.records := by
  obtain ⟨url, -, hfound⟩ := List.mem_filterMap.1 h
  exact (SchemaCache.get?_eq_some.1 hfound).1

section Named
variable (hsource : ∀ record ∈ loaded.schemas.records, record.sourceUrl = record.key)
  (hnamed : WellNamed loaded.schemas.records SchemaRecord.namingHint SchemaRecord.typeName)
include hsource hnamed

/-- **Every key has its line**, when records stand under their own URLs and have names. -/
theorem showsSchema : List.Forall₂ (SchemaNames.Shows loaded.schemas) loaded.schemaUrls loaded.names.schemas := by
  have hlines : List.Forall₂ (fun url record => SchemaNames.Shows loaded.schemas url record.names) loaded.schemaUrls
      loaded.sortedSchemas := by
    refine forall₂_filterMap fun url hurl => ?_
    have hkey : url ∈ loaded.schemas.keys := SchemaCache.mem_sortedUrls.1 hurl
    obtain ⟨record, hfound, rfl⟩ := SchemaCache.exists_get? hkey
    have hrecord := (SchemaCache.get?_eq_some.1 hfound).1
    obtain ⟨given, hgiven, hafter⟩ := hnamed.named record hrecord
    have hname : record.names.typeName = given := by
      rw [SchemaRecord.names, hgiven]
      rfl
    refine ⟨record, hfound, hsource record hrecord, SchemaCache.canonicalUrl_of_mem_keys hkey, ?_, ?_⟩
    · exact ⟨record, hfound, hsource record hrecord, by rw [hname, hgiven], rfl, rfl⟩
    · rw [hname]
      exact hafter.ne_empty
  exact List.forall₂_map_right_iff.2 hlines

theorem urls_names : loaded.names.schemas.map SchemaNames.url = loaded.schemaUrls := by
  have hurls : List.Forall₂ (fun url (names : SchemaNames) => url = names.url) loaded.schemaUrls loaded.names.schemas :=
    (showsSchema hsource hnamed).imp fun _ _ hshows => hshows.url_eq.symm
  have hmap := List.forall₂_map_right_iff.2 hurls
  rw [List.forall₂_eq_eq_eq] at hmap
  exact hmap.symm

theorem nodup_typeNames : (loaded.names.schemas.map SchemaNames.typeName).Nodup := by
  have hlines : loaded.sortedSchemas.Nodup := by
    have hurls : (loaded.names.schemas.map SchemaNames.url).Nodup := by
      rw [urls_names hsource hnamed]
      exact loaded.schemas.nodup_sortedUrls
    exact (hurls.of_map _).of_map _
  show ((loaded.sortedSchemas.map SchemaRecord.names).map SchemaNames.typeName).Nodup
  rw [List.map_map]
  refine hlines.map_on fun record hrecord other hother hsame => ?_
  have hrecord := mem_records_of_mem_sortedSchemas hrecord
  have hother := mem_records_of_mem_sortedSchemas hother
  obtain ⟨given, hgiven, -⟩ := hnamed.named record hrecord
  obtain ⟨given', hgiven', -⟩ := hnamed.named other hother
  have hnames : given = given' := by simpa [SchemaRecord.names, hgiven, hgiven'] using hsame
  exact List.inj_on_of_nodup_map hnamed.distinct hrecord hother (by rw [hgiven, hgiven', hnames])

end Named

end Loaded

/-! ## Definitions -/

/-- The report of a binding shows the declared name and the full name of the exchange, and a name for the binding and
for each segment of its routing key. -/
structure BindingNames.Covers (exchanges : String) (entry : ExchangeEntry) (names : BindingNames) : Prop where
  entry_eq : names.entry = entry.name
  typeName : NamedAfter entry.name names.typeName
  exchange : names.exchange = exchanges ++ entry.exchange
  fields : List.Forall₂ NamedAfter (entry.routingKey.map (·.name)) names.fields

/-- The report of an operation shows the declared name and the name of the method. -/
def ApiEntry.CoveredBy (entry : ApiEntry) (method : String × String) : Prop :=
  method.1 = entry.name ∧ NamedAfter entry.name method.2

/-- The report of a document shows each of its entries in its place, and no others. -/
def DefinitionNames.Covers (names : DefinitionNames) : Document → Prop
  | .api document =>
    names.kind = .api ∧ names.bindings = [] ∧ List.Forall₂ ApiEntry.CoveredBy document.entries names.methods
  | .exchange document =>
    names.kind = .exchange ∧ names.methods = [] ∧
      List.Forall₂ (BindingNames.Covers document.exchangePrefix) document.entries names.bindings

/-- The names that a document was given, in the order of its entries. -/
def Document.givenNames : Document → List String
  | .api document => document.entries.map (·.methodName)
  | .exchange document =>
    document.entries.flatMap fun entry => entry.typeName :: entry.routingKey.map (·.fieldName)

def DefinitionNames.givenNames (names : DefinitionNames) : List String :=
  names.methods.map Prod.snd ++ names.bindings.flatMap fun binding => binding.typeName :: binding.fields

/-- The report of a definition covers the document that is read from the library, and shows the names that this
document was given. -/
structure DefinitionNames.Lists (library : Library) (result : LoadedDefinition) (names : DefinitionNames) : Prop where
  url : names.url = result.definition.url
  name : names.name = result.definition.name
  document : ∃ declared, library.Opens result.definition declared ∧ names.Covers declared
  given : names.givenNames = result.document.givenNames

theorem BindingNames.covers_unlinked (exchanges : String) (entry : ExchangeEntry) (names : BindingNames) :
    names.Covers exchanges entry.unlinked ↔ names.Covers exchanges entry := by
  have hkeys : entry.unlinked.routingKey.map (·.name) = entry.routingKey.map (·.name) := by
    rw [ExchangeEntry.unlinked, List.map_map]
    rfl
  constructor
  · rintro ⟨hentry, htype, hexchange, hfields⟩
    exact ⟨hentry, htype, hexchange, hkeys ▸ hfields⟩
  · rintro ⟨hentry, htype, hexchange, hfields⟩
    exact ⟨hentry, htype, hexchange, hkeys.symm ▸ hfields⟩

theorem BindingNames.covers_mapReferences (f : Option String → Option String) (exchanges : String)
    (entry : ExchangeEntry) (names : BindingNames) :
    names.Covers exchanges (entry.mapReferences f) ↔ names.Covers exchanges entry := by
  constructor
  · rintro ⟨hentry, htype, hexchange, hfields⟩
    exact ⟨hentry, htype, hexchange, hfields⟩
  · rintro ⟨hentry, htype, hexchange, hfields⟩
    exact ⟨hentry, htype, hexchange, hfields⟩

namespace DefinitionNames
variable {names : DefinitionNames} {document linked : Document}

theorem covers_unlinked : names.Covers document.unlinked ↔ names.Covers document := by
  cases document with
  | api document =>
    simp only [Document.unlinked, Covers, List.forall₂_map_left_iff]
    rfl
  | exchange document =>
    simp only [Document.unlinked, Covers, List.forall₂_map_left_iff, BindingNames.covers_unlinked]

theorem covers_mapReferences {f : Option String → Option String} :
    names.Covers (document.mapReferences f) ↔ names.Covers document := by
  cases document with
  | api document =>
    simp only [Document.mapReferences, Covers, List.forall₂_map_left_iff]
    rfl
  | exchange document =>
    simp only [Document.mapReferences, Covers, List.forall₂_map_left_iff, BindingNames.covers_mapReferences]

theorem covers_of_named {id : DefinitionId} (h : document.named id = .ok linked) (hcovers : names.Covers linked) :
    names.Covers document := by
  rw [← covers_unlinked, Document.unlinked_of_named h, covers_mapReferences, covers_unlinked] at hcovers
  exact hcovers

/-- **Every entry has its place** in the report of a document whose entries are named. -/
theorem covers_names {result : LoadedDefinition} (h : result.document.EntriesNamed) :
    result.names.Covers result.document := by
  obtain ⟨definition, document⟩ := result
  cases document with
  | api document =>
    refine ⟨rfl, rfl, List.forall₂_map_right_iff.2 (List.forall₂_same.2 fun entry hentry => ⟨rfl, ?_⟩)⟩
    obtain ⟨given, hgiven, hafter⟩ := WellNamed.named h entry hentry
    cases hgiven
    exact hafter
  | exchange document =>
    obtain ⟨hentries, hfields⟩ := h
    refine ⟨rfl, rfl, List.forall₂_map_right_iff.2 (List.forall₂_same.2 fun entry hentry => ?_)⟩
    obtain ⟨given, hgiven, hafter⟩ := hentries.named entry hentry
    cases hgiven
    refine ⟨rfl, hafter, rfl, ?_⟩
    rw [List.forall₂_map_left_iff]
    refine List.forall₂_map_right_iff.2 (List.forall₂_same.2 fun element helement => ?_)
    obtain ⟨field, hfield, hafter⟩ := WellNamed.named (hfields entry hentry) element helement
    cases hfield
    exact hafter

theorem givenNames_names (result : LoadedDefinition) : result.names.givenNames = result.document.givenNames := by
  obtain ⟨definition, document⟩ := result
  cases document with
  | api document =>
    show (document.entries.map fun entry => (entry.name, entry.methodName)).map Prod.snd ++ [] = _
    rw [List.append_nil, List.map_map]
    rfl
  | exchange document =>
    show [] ++ (document.entries.map document.bindingNames).flatMap _ = _
    rw [List.nil_append, List.flatMap_map]
    rfl

end DefinitionNames

/-! ## Loads -/

/-- The report shows all schemas of the load, each one once, and all definitions in the order of the load. -/
structure NamesReport.Complete (library : Library) (definitions : List Definition) (loaded : Loaded)
    (report : NamesReport) : Prop where
  schemas : List.Forall₂ (SchemaNames.Shows loaded.schemas) loaded.schemaUrls report.schemas
  /-- The lines are those of the cached schemas. -/
  once : (report.schemas.map SchemaNames.url).Perm loaded.schemas.keys
  ascending : (report.schemas.map SchemaNames.url).Pairwise (· < ·)
  distinct : (report.schemas.map SchemaNames.typeName).Nodup
  order : StablySorted definitions (loaded.definitions.map (·.definition))
  lists : List.Forall₂ (DefinitionNames.Lists library) loaded.definitions report.definitions

namespace Library
variable {library : Library} {patches : List SchemaPatch} {definitions : List Definition} {loaded : Loaded}
  {s t : Session}

theorem sourceUrl_of_fresh (hfresh : s.cache = {})
    (hrun : Load.perform (library.loadDefinitions patches definitions) s = (.ok loaded, t)) :
    ∀ record ∈ loaded.schemas.records, record.sourceUrl = record.key := by
  intro record hrecord
  obtain ⟨u, -, -, hdiscovered, -, hrevises, -⟩ := linked_of_fresh hfresh hrun
  obtain ⟨original, horiginal, hrevised⟩ := exists_of_forall₂ hrevises record hrecord
  obtain ⟨key, nested, hsource, -⟩ := hdiscovered.fetched original horiginal
  rw [SchemaRecord.key, hrevised.sourceUrl, hsource, SchemaKey.canonicalUrl_url]

/-- **The report of a load is complete**, whatever was requested before the load, such as its manifest. -/
theorem report_complete (hfresh : s.cache = {})
    (hrun : Load.perform (library.loadDefinitions patches definitions) s = (.ok loaded, t)) :
    loaded.names.Complete library definitions loaded := by
  have hsource := sourceUrl_of_fresh hfresh hrun
  have hnamed : WellNamed loaded.schemas.records SchemaRecord.namingHint SchemaRecord.typeName := by
    obtain ⟨u, -, -, hnames, -⟩ := loadDefinitions_ok.1 hrun
    exact SchemaCache.wellNamed_of_assignTypeNames hnames
  obtain ⟨u, -, hlinked, -⟩ := linked_of_fresh hfresh hrun
  have hurls := Loaded.urls_names hsource hnamed
  refine ⟨Loaded.showsSchema hsource hnamed, ?_, ?_, Loaded.nodup_typeNames hsource hnamed, ?_, ?_⟩
  · rw [hurls]
    exact loaded.schemas.sortedUrls_perm
  · rw [hurls]
    exact loaded.schemas.sortedUrls_ascending
  · rw [hlinked.inPlace.1]
    exact stablySorted_loadOrder definitions
  · refine List.forall₂_map_right_iff.2 (List.forall₂_same.2 fun result hresult => ?_)
    obtain ⟨-, document, id, hopens, hentries⟩ := hlinked.named result hresult
    have hcovers := DefinitionNames.covers_names (Document.entriesNamed_of_named hentries)
    refine ⟨?_, ?_, ⟨document, hopens, DefinitionNames.covers_of_named hentries hcovers⟩,
      DefinitionNames.givenNames_names result⟩
    · cases hdocument : result.document <;> rw [LoadedDefinition.names, hdocument]
    · cases hdocument : result.document <;> rw [LoadedDefinition.names, hdocument]

theorem cyclic_report_complete : ∃ loaded t,
    Load.perform (cyclic.loadDefinitions SchemaPatch.builtin [cyclicDefinition])
      (Session.request {} .manifest "http://r/m.json") = (.ok loaded, t) ∧
      loaded.names.Complete cyclic [cyclicDefinition] loaded := by
  obtain ⟨loaded, t, hrun⟩ := ok_of_loadable_of_fresh
    (s := Session.request {} .manifest "http://r/m.json") rfl cyclic_loadable cyclic_small
  exact ⟨loaded, t, hrun, report_complete rfl hrun⟩

end Library

end ApiCatalog
