import ApiCatalog.Proofs.Discovery
import ApiCatalog.Proofs.Naming.Documents
import ApiCatalog.Proofs.Naming.Types
import ApiCatalog.Proofs.Schema.Patching

/-!
# When a load succeeds

A load of definitions is a run over their documents, followed by two steps that revise the cache: the patches and
the names (`loadDefinitions_ok`). The run succeeds when all that it comes across can be read, the patches apply
when they fit, and there are names enough. These conditions make a list of definitions `Loadable`. Unlike the load
they know no order, no cache and no search: they speak of what the library holds at each location.

`succeeds_iff_loadable`: definitions that are not too many to be named load exactly when they are loadable.
-/

namespace ApiCatalog

/-! ## The parts of a load -/

namespace Library
variable {library : Library} {patches : List SchemaPatch} {definitions : List Definition} {loaded : Loaded}
  {s t : Session}

theorem loadOrder_perm (definitions : List Definition) : (loadOrder definitions).Perm definitions :=
  List.mergeSort_perm _ _

theorem declares_perm {other : List Definition} (h : definitions.Perm other) (url : String) :
    library.Declares definitions url ↔ library.Declares other url := by
  unfold Declares
  simp only [h.mem_iff]

theorem perform_applyPatches (patches : List SchemaPatch) (s : Session) :
    Load.perform (Load.applyPatches patches) s =
      ((s.cache.applyPatches patches).1, { s with cache := (s.cache.applyPatches patches).2 }) := rfl

theorem perform_assignTypeNames (s : Session) :
    Load.perform Load.assignTypeNames s =
      match s.cache.assignTypeNames with
      | .ok cache => (.ok (), { s with cache })
      | .error e => (.error e, s) := by
  unfold Load.assignTypeNames
  simp only [Load.perform_bind, Load.perform_get, Load.perform_lift]
  cases s.cache.assignTypeNames <;> rfl

theorem perform_assignTypeNames_ok {done : Unit} :
    Load.perform Load.assignTypeNames s = (.ok done, t) ↔
      ∃ cache, s.cache.assignTypeNames = .ok cache ∧ t = { s with cache } := by
  rw [perform_assignTypeNames]
  cases s.cache.assignTypeNames with
  | error e => simp
  | ok cache => simp [eq_comm]

/-- **A load succeeds** when its run over the documents does, the patches apply to the cache of the run, and the
schemas that come of this can be named. -/
theorem loadDefinitions_ok :
    Load.perform (library.loadDefinitions patches definitions) s = (.ok loaded, t) ↔
      ∃ u, Load.perform (library.loadDocuments 0 (loadOrder definitions)) s = (.ok loaded.definitions, u) ∧
        (∃ count, (u.cache.applyPatches patches).1 = .ok count) ∧
        (u.cache.applyPatches patches).2.assignTypeNames = .ok loaded.schemas ∧
        t = { u with cache := loaded.schemas } := by
  unfold loadDefinitions
  simp only [Load.bind_ok, perform_applyPatches, perform_assignTypeNames_ok, Load.perform_get, Load.perform_pure,
    Prod.mk.injEq, Except.ok.injEq]
  constructor
  · rintro ⟨documents, u, hrun, count, _, ⟨hpatches, rfl⟩, _, _, ⟨cache, hnames, rfl⟩, _, _, ⟨rfl, rfl⟩, rfl, rfl⟩
    exact ⟨u, hrun, ⟨count, hpatches⟩, hnames, rfl⟩
  · rintro ⟨u, hrun, ⟨count, hpatches⟩, hnames, rfl⟩
    exact ⟨_, u, hrun, count, _, ⟨hpatches, rfl⟩, (), _, ⟨_, hnames, rfl⟩, _, _, ⟨rfl, rfl⟩, rfl, rfl⟩

/-- What a load that succeeded has done, whatever was requested before it: it linked every document, discovered what
all of them declare, and revised what it discovered. -/
theorem linked_of_fresh (hfresh : s.cache = {})
    (h : Load.perform (library.loadDefinitions patches definitions) s = (.ok loaded, t)) :
    ∃ u, Load.perform (library.loadDocuments 0 (loadOrder definitions)) s = (.ok loaded.definitions, u) ∧
      library.Linked 0 (loadOrder definitions) loaded.definitions ∧
      Discovered library (library.Declares definitions) u.cache ∧ (∀ patch ∈ patches, u.cache.Admits patch) ∧
      u.cache.Revises loaded.schemas ∧ t = { u with cache := loaded.schemas } := by
  obtain ⟨u, hrun, hpatches, hnames, rfl⟩ := loadDefinitions_ok.1 h
  have hempty : Discovered library (fun _ => False) s.cache := by
    rw [hfresh]
    exact .empty
  obtain ⟨hlinked, hdiscovered⟩ := discovered_loadDocuments hempty hrun
  refine ⟨u, hrun, hlinked, hdiscovered.congr fun url => ?_, SchemaCache.applyPatches_ok.1 hpatches, ?_, rfl⟩
  · rw [false_or, declares_perm (loadOrder_perm definitions)]
  · exact (SchemaCache.revises_applyPatches u.cache patches).trans (SchemaCache.revises_nameEach hnames)

theorem linked_of_loadDefinitions
    (h : Load.perform (library.loadDefinitions patches definitions) {} = (.ok loaded, t)) :
    ∃ u, Load.perform (library.loadDocuments 0 (loadOrder definitions)) {} = (.ok loaded.definitions, u) ∧
      library.Linked 0 (loadOrder definitions) loaded.definitions ∧
      Discovered library (library.Declares definitions) u.cache ∧ (∀ patch ∈ patches, u.cache.Admits patch) ∧
      u.cache.Revises loaded.schemas ∧ t = { u with cache := loaded.schemas } :=
  linked_of_fresh rfl h

/-! ## What a load needs -/

/-- There are names enough: fewer than 2^32 schemas are declared, directly or through others, and no document has
as many entries, or segments in one routing key. -/
structure Small (library : Library) (definitions : List Definition) : Prop where
  schemas (urls : List String) (hnodup : urls.Nodup)
    (hreachable : ∀ url ∈ urls, library.Reachable (library.Declares definitions) url) : urls.length < 2 ^ 32
  documents (definition : Definition) (hdefinition : definition ∈ definitions) (document : Document)
    (hopens : library.Opens definition document) : document.Small

/-- All that a load of definitions comes across is there and of the right form. -/
structure Loadable (library : Library) (patches : List SchemaPatch) (definitions : List Definition) : Prop where
  /-- Every document can be read, and the references of its entries do not point into schemas. -/
  opens : ∀ definition ∈ definitions, ∃ document, library.Opens definition document ∧
    ∀ reference ∈ document.references, Text.isBlank reference = false → hasPointerFragment reference = false
  /-- Every schema that some entry leads to can be read, and all of its references can be followed. -/
  readable : ∀ url, library.Reachable (library.Declares definitions) url → library.Readable url
  /-- A patch for one of these schemas fits the schema as it is in the library. -/
  fits : ∀ patch ∈ patches, library.Reachable (library.Declares definitions) (canonicalUrl patch.url) →
    ∃ node, library.Reads (canonicalUrl patch.url) node ∧ patch.Fits node

end Library

namespace Discovered
variable {library : Library} {roots : String → Prop} {cache : SchemaCache} {url : String}

theorem exists_record (h : Discovered library roots cache) (hurl : library.Reachable roots url) :
    ∃ record ∈ cache.records, ∃ key nested, record.key = url ∧ url = key.url ∧
      library.schema key = .ok (record.root, nested) := by
  obtain ⟨record, hrecord, hkey⟩ := SchemaCache.mem_keys.1 ((h.keys_iff url).2 hurl)
  obtain ⟨key, nested, hsource, hschema⟩ := h.fetched record hrecord
  refine ⟨record, hrecord, key, nested, hkey, ?_, hschema⟩
  rw [← hkey, SchemaRecord.key, hsource, SchemaKey.canonicalUrl_url]

theorem readable (h : Discovered library roots cache) (hurl : library.Reachable roots url) :
    library.Readable url := by
  obtain ⟨record, -, key, nested, -, rfl, hschema⟩ := h.exists_record hurl
  exact Library.schema_ok_iff.1 ⟨_, hschema⟩

theorem admits_iff {patch : SchemaPatch} (h : Discovered library roots cache) :
    cache.Admits patch ↔ (library.Reachable roots (canonicalUrl patch.url) →
      ∃ node, library.Reads (canonicalUrl patch.url) node ∧ patch.Fits node) := by
  constructor
  · intro hadmits hurl
    obtain ⟨record, hrecord, key, nested, hkey, hurl, hschema⟩ := h.exists_record hurl
    obtain ⟨node, hreads, hrun⟩ := Library.reads_of_schema hschema
    refine ⟨node, by rwa [hurl], ?_⟩
    rw [SchemaPatch.Fits.congr (SchemaNode.samePaths_mapReferences _ node hrun)]
    exact hadmits record hrecord hkey
  · intro hfits record hrecord hkey
    have hurl := (h.keys_iff _).1 (hkey ▸ SchemaCache.key_mem_keys hrecord)
    obtain ⟨node, hreads, hnode⟩ := hfits hurl
    obtain ⟨key, nested, hsource, hschema⟩ := h.fetched record hrecord
    obtain ⟨node', hreads', hrun⟩ := Library.reads_of_schema hschema
    have hsame : canonicalUrl patch.url = key.url := by
      rw [← hkey, SchemaRecord.key, hsource, SchemaKey.canonicalUrl_url]
    rw [hsame] at hreads
    rw [hreads.unique hreads'] at hnode
    exact (SchemaPatch.Fits.congr (SchemaNode.samePaths_mapReferences _ node' hrun)).1 hnode

end Discovered

namespace Library
variable {library : Library} {patches : List SchemaPatch} {definitions : List Definition} {loaded : Loaded}

theorem plainUses_iff {document : Document} : PlainUses document.uses ↔
    ∀ reference ∈ document.references, Text.isBlank reference = false → hasPointerFragment reference = false := by
  simp only [PlainUses, Document.references, List.forall_mem_map]

theorem loadable_of_fresh {s t : Session} (hfresh : s.cache = {})
    (h : Load.perform (library.loadDefinitions patches definitions) s = (.ok loaded, t)) :
    library.Loadable patches definitions := by
  obtain ⟨u, -, hlinked, hdiscovered, hadmits, -, -⟩ := linked_of_fresh hfresh h
  refine ⟨fun definition hdefinition => ?_, fun url hurl => hdiscovered.readable hurl, fun patch hpatch =>
    hdiscovered.admits_iff.1 (hadmits patch hpatch)⟩
  obtain ⟨document, hopens, hplain⟩ := hlinked.opens definition ((loadOrder_perm definitions).mem_iff.2 hdefinition)
  exact ⟨document, hopens, plainUses_iff.1 hplain⟩

theorem ok_of_loadable_of_fresh {s : Session} (hfresh : s.cache = {}) (h : library.Loadable patches definitions)
    (hsmall : library.Small definitions) :
    ∃ loaded t, Load.perform (library.loadDefinitions patches definitions) s = (.ok loaded, t) := by
  have hdeclares (url : String) : library.Declares (loadOrder definitions) url ↔ library.Declares definitions url :=
    declares_perm (loadOrder_perm definitions) url
  have hopens : ∀ definition ∈ loadOrder definitions, ∃ document, library.Opens definition document ∧
      PlainUses document.uses ∧ ∀ id, ∃ linked, document.named id = .ok linked := by
    intro definition hdefinition
    have hmem := (loadOrder_perm definitions).mem_iff.1 hdefinition
    obtain ⟨document, hdocument, hplain⟩ := h.opens definition hmem
    exact ⟨document, hdocument, plainUses_iff.2 hplain,
      Document.named_ok_of_small (hsmall.documents definition hmem document hdocument)⟩
  have hreadable : ∀ url, library.Reachable (library.Declares (loadOrder definitions)) url → library.Readable url :=
    fun url hurl => h.readable url (hurl.mono fun root => (hdeclares root).1)
  obtain ⟨documents, u, hrun⟩ := loadDocuments_ok_of_readable (s := s) hopens hreadable
  have hempty : Discovered library (fun _ => False) s.cache := by
    rw [hfresh]
    exact .empty
  have hdiscovered : Discovered library (library.Declares definitions) u.cache :=
    (discovered_loadDocuments hempty hrun).2.congr fun url => by rw [false_or, hdeclares]
  have hpatches := SchemaCache.applyPatches_ok.2 fun patch hpatch => hdiscovered.admits_iff.2 (h.fits patch hpatch)
  -- the patches leave the number of schemas, which are all reachable
  have hsize : (u.cache.applyPatches patches).2.size < 2 ^ 32 := by
    rw [(SchemaCache.revises_applyPatches u.cache patches).size_eq]
    have hlength := hsmall.schemas u.cache.keys u.cache.nodup_keys fun url hurl => (hdiscovered.keys_iff url).1 hurl
    rwa [SchemaCache.keys, List.length_map] at hlength
  obtain ⟨schemas, hnames⟩ := SchemaCache.assignTypeNames_ok_of_size hsize
  exact ⟨{ definitions := documents, schemas }, _, loadDefinitions_ok.2 ⟨u, hrun, hpatches, hnames, rfl⟩⟩

theorem ok_of_loadable (h : library.Loadable patches definitions) (hsmall : library.Small definitions) :
    ∃ loaded t, Load.perform (library.loadDefinitions patches definitions) {} = (.ok loaded, t) :=
  ok_of_loadable_of_fresh rfl h hsmall

theorem succeeds_iff_loadable (hsmall : library.Small definitions) :
    (∃ loaded t, Load.perform (library.loadDefinitions patches definitions) {} = (.ok loaded, t)) ↔
      library.Loadable patches definitions := by
  constructor
  · rintro ⟨loaded, t, hrun⟩
    exact loadable_of_fresh rfl hrun
  · intro h
    exact ok_of_loadable h hsmall

/-! ## A cycle that loads

Two schemas that refer to each other, and a reference with one operation, which takes the first of them. -/

/-- The library of the three documents. -/
def cyclic : Library where
  documents :=
    [("http://r/a.json", "\x7b\"entries\":[\x7b\"name\":\"t\",\"input\":\"http://s/a.json\"\x7d]\x7d"),
     ("http://s/a.json", "\x7b\"items\":\x7b\"$ref\":\"b.json#\"\x7d\x7d"),
     ("http://s/b.json", "\x7b\"items\":\x7b\"$ref\":\"a.json\"\x7d\x7d")]

def cyclicDefinition : Definition :=
  { url := "http://r/a.json", schema := DocumentKind.apiSchema, name := "A" }

/-- The reference as it is read. -/
def cyclicDocument : Document := .api { entries := [{ name := "t", input := some "http://s/a.json" }] }

theorem cyclic_opens : cyclic.Opens cyclicDefinition cyclicDocument :=
  ⟨.api, _, by decide, rfl, by decide +kernel⟩

theorem cyclic_next_first : cyclic.next? ⟨"http://s/a.json", by decide⟩ = some ["http://s/b.json#"] := by
  decide +kernel

theorem cyclic_next_second : cyclic.next? ⟨"http://s/b.json", by decide⟩ = some ["http://s/a.json#"] := by
  decide +kernel

theorem cyclic_declares (url : String) :
    cyclic.Declares [cyclicDefinition] url ↔ url = "http://s/a.json#" := by
  constructor
  · rintro ⟨definition, hdefinition, document, hopens, reference, hreference, -, rfl⟩
    cases List.mem_singleton.1 hdefinition
    cases hopens.unique cyclic_opens
    cases List.mem_singleton.1 (hreference : reference ∈ ["http://s/a.json"])
    decide
  · rintro rfl
    exact ⟨_, List.mem_singleton_self _, _, cyclic_opens, _, List.mem_singleton_self _, by decide, by decide⟩

/-- The URL of one of the two schemas. -/
def OnCycle (url : String) : Prop := url = "http://s/a.json#" ∨ url = "http://s/b.json#"

theorem cyclic_reachable (url : String) :
    cyclic.Reachable (cyclic.Declares [cyclicDefinition]) url ↔ OnCycle url := by
  have hfirst (next : String) : cyclic.LeadsTo "http://s/a.json#" next ↔ next ∈ ["http://s/b.json#"] :=
    leadsTo_iff_of_next? (by decide) cyclic_next_first next
  have hsecond (next : String) : cyclic.LeadsTo "http://s/b.json#" next ↔ next ∈ ["http://s/a.json#"] :=
    leadsTo_iff_of_next? (by decide) cyclic_next_second next
  constructor
  · intro h
    refine h.closed (fun root hroot => .inl ((cyclic_declares root).1 hroot)) ?_
    rintro _ next (rfl | rfl) hnext
    · exact .inr (List.mem_singleton.1 ((hfirst next).1 hnext))
    · exact .inl (List.mem_singleton.1 ((hsecond next).1 hnext))
  · have hroot : cyclic.Reachable (cyclic.Declares [cyclicDefinition]) "http://s/a.json#" :=
      .root ((cyclic_declares _).2 rfl)
    rintro (rfl | rfl)
    · exact hroot
    · exact hroot.step ((hfirst _).2 (List.mem_singleton_self _))

theorem cyclic_loadable : cyclic.Loadable SchemaPatch.builtin [cyclicDefinition] where
  opens definition hdefinition := by
    cases List.mem_singleton.1 hdefinition
    refine ⟨cyclicDocument, cyclic_opens, ?_⟩
    show ∀ reference ∈ ["http://s/a.json"], _
    decide
  readable url hurl := by
    rcases (cyclic_reachable url).1 hurl with rfl | rfl
    · exact readable_of_next? (by decide) cyclic_next_first
    · exact readable_of_next? (by decide) cyclic_next_second
  fits patch hpatch hurl := by
    -- the one patch is for another schema
    have habsent : ∀ patch ∈ SchemaPatch.builtin, ¬(canonicalUrl patch.url = "http://s/a.json#" ∨
        canonicalUrl patch.url = "http://s/b.json#") := by
      decide +kernel
    exact absurd ((cyclic_reachable _).1 hurl) (habsent patch hpatch)

theorem cyclic_small : cyclic.Small [cyclicDefinition] where
  schemas urls hnodup hreachable := by
    have hsubset : urls ⊆ ["http://s/a.json#", "http://s/b.json#"] := by
      intro url hurl
      rcases (cyclic_reachable url).1 (hreachable url hurl) with rfl | rfl
      · exact List.mem_cons_self
      · exact List.mem_cons_of_mem _ List.mem_cons_self
    have hlength : urls.length ≤ 2 := List.Nodup.length_le_of_subset hnodup hsubset
    omega
  documents definition hdefinition document hopens := by
    cases List.mem_singleton.1 hdefinition
    cases hopens.unique cyclic_opens
    show 1 < 2 ^ 32
    decide

theorem cyclic_loads : ∃ loaded t,
    Load.perform (cyclic.loadDefinitions SchemaPatch.builtin [cyclicDefinition]) {} = (.ok loaded, t) :=
  ok_of_loadable cyclic_loadable cyclic_small

end Library

end ApiCatalog
