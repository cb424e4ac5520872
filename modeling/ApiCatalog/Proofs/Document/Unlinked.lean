import ApiCatalog.Document.Wire
import ApiCatalog.Proofs.Linking

/-!
# Documents without what linking adds

Linking writes names, back-references and canonical references into a document and leaves everything else. A document
is `unlinked` by taking the names and back-references out again, which gives the document as it could have been read
(`unlinked_of_decode`). What linking does to a document is then two statements: it `BelongsTo` its definition
(`belongsTo_of_named`), and unlinked it is the original but for its references (`unlinked_of_named`).
-/

namespace ApiCatalog
open Naming (NameScope)

/-! ## Taking names and back-references out -/

def RouteElement.unlinked (element : RouteElement) : RouteElement := { element with fieldName := "" }

def ApiEntry.unlinked (entry : ApiEntry) : ApiEntry := { entry with methodName := "", definition := {} }

/-- A binding without its identifier, those of its segments, and its back-reference. -/
def ExchangeEntry.unlinked (entry : ExchangeEntry) : ExchangeEntry :=
  { entry with routingKey := entry.routingKey.map RouteElement.unlinked, typeName := "", definition := {} }

/-- A document without identifiers and back-references. -/
def Document.unlinked : Document → Document
  | .api document => .api { document with entries := document.entries.map ApiEntry.unlinked, definition := {} }
  | .exchange document =>
    .exchange { document with entries := document.entries.map ExchangeEntry.unlinked, definition := {} }

/-! ## Changing references -/

def ApiEntry.mapReferences (f : Option String → Option String) (entry : ApiEntry) : ApiEntry :=
  { entry with input := f entry.input, output := f entry.output }

def ExchangeEntry.mapReferences (f : Option String → Option String) (entry : ExchangeEntry) : ExchangeEntry :=
  { entry with schema := f entry.schema }

/-- A document with the references of its entries changed, and nothing else. -/
def Document.mapReferences (f : Option String → Option String) : Document → Document
  | .api document => .api { document with entries := document.entries.map (ApiEntry.mapReferences f) }
  | .exchange document => .exchange { document with entries := document.entries.map (ExchangeEntry.mapReferences f) }

/-! ## Pointing back -/

/-- The document and all of its entries point back to a definition. -/
def Document.BelongsTo (id : DefinitionId) : Document → Prop
  | .api document => document.definition = id ∧ ∀ entry ∈ document.entries, entry.definition = id
  | .exchange document => document.definition = id ∧ ∀ entry ∈ document.entries, entry.definition = id

/-! ## Documents that are read -/

theorem Document.unlinked_ofJson (kind : DocumentKind) (json : Json) :
    (Document.ofJson kind json).unlinked = Document.ofJson kind json := by
  cases kind with
  | api =>
    have hentries : ((json.itemsAt "entries").map ApiEntry.ofJson).map ApiEntry.unlinked =
        (json.itemsAt "entries").map ApiEntry.ofJson := by
      rw [List.map_map]
      rfl
    simp only [ofJson, ApiDocument.ofJson, unlinked, hentries]
  | exchange =>
    have hentries : ((json.itemsAt "entries").map ExchangeEntry.ofJson).map ExchangeEntry.unlinked =
        (json.itemsAt "entries").map ExchangeEntry.ofJson := by
      rw [List.map_map]
      refine List.map_congr_left fun entry _ => ?_
      have helements : ((entry.itemsAt "routingKey").map RouteElement.ofJson).map RouteElement.unlinked =
          (entry.itemsAt "routingKey").map RouteElement.ofJson := by
        rw [List.map_map]
        rfl
      simp only [Function.comp, ExchangeEntry.ofJson, ExchangeEntry.unlinked, helements]
    simp only [ofJson, ExchangeDocument.ofJson, unlinked, hentries]

theorem Document.decode_ok {kind : DocumentKind} {url body : String} {document : Document} :
    Document.decode kind url body = .ok document ↔
      ∃ json, Json.read documentLayout (.record kind.record) body = .ok json ∧ Document.ofJson kind json = document := by
  unfold decode
  cases Json.read documentLayout (.record kind.record) body <;> simp

theorem Document.unlinked_of_decode {kind : DocumentKind} {url body : String} {document : Document}
    (h : Document.decode kind url body = .ok document) : document.unlinked = document := by
  obtain ⟨json, -, rfl⟩ := decode_ok.1 h
  exact unlinked_ofJson kind json

theorem Document.kind_of_decode {kind : DocumentKind} {url body : String} {document : Document}
    (h : Document.decode kind url body = .ok document) : document.kind = kind := by
  obtain ⟨json, -, rfl⟩ := decode_ok.1 h
  cases kind <;> rfl

/-! ## Documents that are named -/

theorem unlinked_of_nameElements {fields : NameScope} {elements named : List RouteElement}
    (h : Library.nameElements fields elements = .ok named) :
    named.map RouteElement.unlinked = elements.map RouteElement.unlinked := by
  induction elements generalizing fields named with
  | nil =>
    cases h
    rfl
  | cons element rest ih =>
    simp only [Library.nameElements, except_bind_ok, Prod.exists] at h
    obtain ⟨name, scope, -, more, hmore, hnamed⟩ := h
    cases hnamed
    rw [List.map_cons, List.map_cons, ih hmore]
    rfl

theorem unlinked_of_nameApiEntries {id : DefinitionId} {methods : NameScope} {entries named : List ApiEntry}
    (h : nameApiEntries id methods entries = .ok named) :
    named.map ApiEntry.unlinked = (entries.map ApiEntry.unlinked).map (ApiEntry.mapReferences linkedReference) ∧
      ∀ entry ∈ named, entry.definition = id := by
  induction entries generalizing methods named with
  | nil =>
    cases h
    exact ⟨rfl, by simp⟩
  | cons entry rest ih =>
    simp only [nameApiEntries, except_bind_ok, Prod.exists] at h
    obtain ⟨name, scope, -, more, hmore, hnamed⟩ := h
    cases hnamed
    obtain ⟨hframe, hbelongs⟩ := ih hmore
    refine ⟨?_, List.forall_mem_cons.2 ⟨rfl, hbelongs⟩⟩
    rw [List.map_cons, List.map_cons, List.map_cons, hframe]
    rfl

theorem unlinked_of_nameExchangeEntries {id : DefinitionId} {bindings : NameScope}
    {entries named : List ExchangeEntry} (h : nameExchangeEntries id bindings entries = .ok named) :
    named.map ExchangeEntry.unlinked =
        (entries.map ExchangeEntry.unlinked).map (ExchangeEntry.mapReferences linkedReference) ∧
      ∀ entry ∈ named, entry.definition = id := by
  induction entries generalizing bindings named with
  | nil =>
    cases h
    exact ⟨rfl, by simp⟩
  | cons entry rest ih =>
    simp only [nameExchangeEntries, except_bind_ok, Prod.exists] at h
    obtain ⟨name, scope, -, key, hkey, more, hmore, hnamed⟩ := h
    cases hnamed
    obtain ⟨hframe, hbelongs⟩ := ih hmore
    refine ⟨?_, List.forall_mem_cons.2 ⟨rfl, hbelongs⟩⟩
    rw [List.map_cons, List.map_cons, List.map_cons, hframe]
    simp only [ExchangeEntry.unlinked, ExchangeEntry.mapReferences, unlinked_of_nameElements hkey]

namespace Document
variable {document linked : Document} {id : DefinitionId}

/-- **Linking leaves the document** but for its references, which it writes in canonical form. -/
theorem unlinked_of_named (h : document.named id = .ok linked) :
    linked.unlinked = document.unlinked.mapReferences linkedReference := by
  cases document with
  | api document =>
    simp only [named, except_bind_ok] at h
    obtain ⟨entries, hentries, hlinked⟩ := h
    cases hlinked
    simp only [unlinked, mapReferences, (unlinked_of_nameApiEntries hentries).1]
  | exchange document =>
    simp only [named, except_bind_ok] at h
    obtain ⟨entries, hentries, hlinked⟩ := h
    cases hlinked
    simp only [unlinked, mapReferences, (unlinked_of_nameExchangeEntries hentries).1]

theorem belongsTo_of_named (h : document.named id = .ok linked) : linked.BelongsTo id := by
  cases document with
  | api document =>
    simp only [named, except_bind_ok] at h
    obtain ⟨entries, hentries, hlinked⟩ := h
    cases hlinked
    exact ⟨rfl, (unlinked_of_nameApiEntries hentries).2⟩
  | exchange document =>
    simp only [named, except_bind_ok] at h
    obtain ⟨entries, hentries, hlinked⟩ := h
    cases hlinked
    exact ⟨rfl, (unlinked_of_nameExchangeEntries hentries).2⟩

theorem kind_of_named (h : document.named id = .ok linked) : linked.kind = document.kind := by
  have hkind (document : Document) : document.unlinked.kind = document.kind := by cases document <;> rfl
  rw [← hkind linked, unlinked_of_named h]
  cases document <;> rfl

end Document

end ApiCatalog
