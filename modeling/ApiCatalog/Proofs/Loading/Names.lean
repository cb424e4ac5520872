import ApiCatalog.Proofs.Loading.Success
import ApiCatalog.Proofs.Naming.Given

/-!
# The names that a load gives

Four kinds of namespaces are named by a load: the schemas, the operations of a document, the bindings of a document
and the segments of a routing key. In each of them every member gets a name made from its own text, and no name is
given twice (`names_given`), although the texts may be the same, may normalise to the same identifier, or may end in
the number that was put behind another name.
-/

namespace ApiCatalog.Library
open Naming (WellNamed)
variable {library : Library} {patches : List SchemaPatch} {definitions : List Definition} {loaded : Loaded}
  {t : Session}

/-- **All names of a load** are given well: those of the schemas, named after the titles that the patches leave, and
those in each document. -/
theorem names_given (hrun : Load.perform (library.loadDefinitions patches definitions) {} = (.ok loaded, t)) :
    WellNamed loaded.schemas.records SchemaRecord.namingHint SchemaRecord.typeName ∧
      ∀ result ∈ loaded.definitions, result.document.EntriesNamed := by
  obtain ⟨u, hdocuments, -, hnames, -⟩ := loadDefinitions_ok.1 hrun
  refine ⟨SchemaCache.wellNamed_of_assignTypeNames hnames, fun result hresult => ?_⟩
  obtain ⟨hlinked, -⟩ := discovered_loadDocuments .empty hdocuments
  obtain ⟨-, document, id, -, hnamed⟩ := hlinked.named result hresult
  exact Document.entriesNamed_of_named hnamed

theorem cyclic_names_given : ∃ loaded t,
    Load.perform (cyclic.loadDefinitions SchemaPatch.builtin [cyclicDefinition]) {} = (.ok loaded, t) ∧
      WellNamed loaded.schemas.records SchemaRecord.namingHint SchemaRecord.typeName ∧
        ∀ result ∈ loaded.definitions, result.document.EntriesNamed := by
  obtain ⟨loaded, t, hrun⟩ := cyclic_loads
  exact ⟨loaded, t, hrun, names_given hrun⟩

end ApiCatalog.Library
