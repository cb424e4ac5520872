import ApiCatalog.Proofs.Document.Unlinked
import ApiCatalog.Proofs.Json.Printing

/-!
# Documents are read back as they were written

What a load adds to a document is written under keys of its own (`Document.derivedKeys`), which no record of a document
knows. So reading does not look at them: texts that differ only there are read alike, whatever they hold there
(`Document.decode_without`). What is left of a document is what it declares (`Document.declared`), and that is read back
member by member, save that an empty text cannot stand for a reference or a constant (`Document.NoEmptyTexts`). Together:
the text of a document, linked or not, is read as the document unlinked (`Document.decode_compact_of_noEmptyTexts`).
-/

namespace ApiCatalog
open Json (conform conform_text conform_flag conform_list conform_texts conform_record memberConforms
  memberConforms_optionalText)

/-! ## What a document declares -/

def ApiEntry.declared (entry : ApiEntry) : Json :=
  .object
    [("type", .text entry.entryType),
     ("method", .text entry.httpMethod),
     ("route", .text entry.route),
     ("args", .ofTexts entry.args),
     ("name", .text entry.name),
     ("scopes", .list (entry.scopes.map .ofTexts)),
     ("input", .ofOptionalText entry.input),
     ("output", .ofOptionalText entry.output),
     ("title", .text entry.title),
     ("description", .text entry.description)]

def RouteElement.declared (element : RouteElement) : Json :=
  .object
    [("name", .text element.name),
     ("summary", .text element.summary),
     ("constant", .ofOptionalText element.constant),
     ("multipleWords", .bool element.multipleWords),
     ("required", .bool element.required)]

def ExchangeEntry.declared (entry : ExchangeEntry) : Json :=
  .object
    [("type", .text entry.entryType),
     ("exchange", .text entry.exchange),
     ("name", .text entry.name),
     ("title", .text entry.title),
     ("description", .text entry.description),
     ("routingKey", .list (entry.routingKey.map RouteElement.declared)),
     ("schema", .ofOptionalText entry.schema)]

/-- The members of a document that are read. -/
def Document.declared : Document → Json
  | .api document =>
    .object
      [("version", .text document.version),
       ("title", .text document.title),
       ("description", .text document.description),
       ("baseUrl", .text document.baseUrl),
       ("entries", .list (document.entries.map ApiEntry.declared))]
  | .exchange document =>
    .object
      [("version", .text document.version),
       ("title", .text document.title),
       ("description", .text document.description),
       ("exchangePrefix", .text document.exchangePrefix),
       ("entries", .list (document.entries.map ExchangeEntry.declared))]

/-- The keys of what a load adds to a document, and of its kind. -/
def Document.derivedKeys : List String := ["kind", "definition", "method_name", "type_name", "field_name"]

/-! ### Leaving the derived members out -/

theorem Json.without_list {α : Type} {keys : List String} {write read : α → Json} (h : ∀ a, (write a).without keys = read a)
    (values : List α) : (Json.list (values.map write)).without keys = .list (values.map read) := by
  rw [without, withoutItems_eq, List.map_map]
  exact congrArg Json.list (List.map_congr_left fun a _ => h a)

theorem Json.without_ofTexts (keys values : List String) : (Json.ofTexts values).without keys = .ofTexts values :=
  without_list (fun _ => rfl) values

theorem Json.without_ofOptionalText (keys : List String) (value : Option String) :
    (Json.ofOptionalText value).without keys = .ofOptionalText value := by
  cases value <;> rfl

theorem ApiEntry.without_toJson (entry : ApiEntry) : entry.toJson.without Document.derivedKeys = entry.declared := by
  rw [declared, ← Json.without_ofTexts Document.derivedKeys entry.args,
    ← Json.without_list (Json.without_ofTexts Document.derivedKeys) entry.scopes,
    ← Json.without_ofOptionalText Document.derivedKeys entry.input,
    ← Json.without_ofOptionalText Document.derivedKeys entry.output]
  rfl

theorem RouteElement.without_toJson (element : RouteElement) :
    element.toJson.without Document.derivedKeys = element.declared := by
  rw [declared, ← Json.without_ofOptionalText Document.derivedKeys element.constant]
  rfl

theorem ExchangeEntry.without_toJson (entry : ExchangeEntry) :
    entry.toJson.without Document.derivedKeys = entry.declared := by
  rw [declared, ← Json.without_list RouteElement.without_toJson entry.routingKey,
    ← Json.without_ofOptionalText Document.derivedKeys entry.schema]
  rfl

theorem Document.without_toJson (document : Document) : document.toJson.without derivedKeys = document.declared := by
  cases document with
  | api document =>
    rw [declared, ← Json.without_list ApiEntry.without_toJson document.entries]
    rfl
  | exchange document =>
    rw [declared, ← Json.without_list ExchangeEntry.without_toJson document.entries]
    rfl

/-! ## Reading what is declared -/

theorem documentLayout_nodup (name : DocumentRecord) : ((documentLayout name).members.map (·.key)).Nodup := by
  cases name <;> decide

theorem documentLayout_optional (name : DocumentRecord) : ∀ known ∈ (documentLayout name).members, known.required = false := by
  cases name <;> decide

/-- No record of a document knows what a load adds. -/
theorem ignores_derivedKeys : Json.Ignores documentLayout Document.derivedKeys := by
  intro name
  cases name <;> simp [documentLayout, DocumentRecord.optionalText, Document.derivedKeys, Json.Shape.OnlyRecords]

theorem ApiEntry.conform_declared (entry : ApiEntry) (limit : Nat) :
    conform documentLayout (limit + 3) (.record .apiEntry) entry.declared = some entry.declared := by
  have hscopes : conform documentLayout (limit + 2) (.list (.list .text)) (.list (entry.scopes.map .ofTexts)) =
      some (.list (entry.scopes.map .ofTexts)) :=
    conform_list (List.forall_mem_map.2 fun scope _ => conform_texts scope)
  refine conform_record (documentLayout_nodup .apiEntry) ?_ (documentLayout_optional .apiEntry)
  simp only [List.forall_mem_cons]
  exact ⟨memberConforms rfl (conform_text _), memberConforms rfl (conform_text _), memberConforms rfl (conform_text _),
    memberConforms rfl (conform_texts _), memberConforms rfl (conform_text _), memberConforms rfl hscopes,
    memberConforms_optionalText rfl _, memberConforms_optionalText rfl _, memberConforms rfl (conform_text _),
    memberConforms rfl (conform_text _), by simp⟩

theorem RouteElement.conform_declared (element : RouteElement) (limit : Nat) :
    conform documentLayout (limit + 1) (.record .routeElement) element.declared = some element.declared := by
  refine conform_record (documentLayout_nodup .routeElement) ?_ (documentLayout_optional .routeElement)
  simp only [List.forall_mem_cons]
  exact ⟨memberConforms rfl (conform_text _), memberConforms rfl (conform_text _), memberConforms_optionalText rfl _,
    memberConforms rfl (conform_flag _), memberConforms rfl (conform_flag _), by simp⟩

theorem ExchangeEntry.conform_declared (entry : ExchangeEntry) (limit : Nat) :
    conform documentLayout (limit + 3) (.record .exchangeEntry) entry.declared = some entry.declared := by
  have helements : conform documentLayout (limit + 2) (.list (.record .routeElement))
      (.list (entry.routingKey.map RouteElement.declared)) = some (.list (entry.routingKey.map RouteElement.declared)) :=
    conform_list (List.forall_mem_map.2 fun element _ => element.conform_declared limit)
  refine conform_record (documentLayout_nodup .exchangeEntry) ?_ (documentLayout_optional .exchangeEntry)
  simp only [List.forall_mem_cons]
  exact ⟨memberConforms rfl (conform_text _), memberConforms rfl (conform_text _), memberConforms rfl (conform_text _),
    memberConforms rfl (conform_text _), memberConforms rfl (conform_text _), memberConforms rfl helements,
    memberConforms_optionalText rfl _, by simp⟩

theorem Document.conform_declared (document : Document) (limit : Nat) :
    conform documentLayout (limit + 5) (.record document.kind.record) document.declared = some document.declared := by
  cases document with
  | api document =>
    have hentries : conform documentLayout (limit + 4) (.list (.record .apiEntry))
        (.list (document.entries.map ApiEntry.declared)) = some (.list (document.entries.map ApiEntry.declared)) :=
      conform_list (List.forall_mem_map.2 fun entry _ => entry.conform_declared limit)
    refine conform_record (documentLayout_nodup .api) ?_ (documentLayout_optional .api)
    simp only [List.forall_mem_cons]
    exact ⟨memberConforms rfl (conform_text _), memberConforms rfl (conform_text _), memberConforms rfl (conform_text _),
      memberConforms rfl (conform_text _), memberConforms rfl hentries, by simp⟩
  | exchange document =>
    have hentries : conform documentLayout (limit + 4) (.list (.record .exchangeEntry))
        (.list (document.entries.map ExchangeEntry.declared)) =
          some (.list (document.entries.map ExchangeEntry.declared)) :=
      conform_list (List.forall_mem_map.2 fun entry _ => entry.conform_declared limit)
    refine conform_record (documentLayout_nodup .exchange) ?_ (documentLayout_optional .exchange)
    simp only [List.forall_mem_cons]
    exact ⟨memberConforms rfl (conform_text _), memberConforms rfl (conform_text _), memberConforms rfl (conform_text _),
      memberConforms rfl (conform_text _), memberConforms rfl hentries, by simp⟩

/-! ## From the members back to the document -/

/-- No reference and no constant of the document is an empty text. -/
def Document.NoEmptyTexts : Document → Prop
  | .api document => ∀ entry ∈ document.entries, entry.input ≠ some "" ∧ entry.output ≠ some ""
  | .exchange document =>
    ∀ entry ∈ document.entries, entry.schema ≠ some "" ∧ ∀ element ∈ entry.routingKey, element.constant ≠ some ""

theorem nonEmpty_ofOptionalText {value : Option String} (h : value ≠ some "") :
    (Json.ofOptionalText value).text?.filter (· ≠ "") = value := by
  cases value with
  | none => rfl
  | some value =>
    have hvalue : value ≠ "" := fun heq => h (congrArg some heq)
    simp [Json.ofOptionalText, Json.text?, hvalue]

theorem ApiEntry.ofJson_declared {entry : ApiEntry} (hinput : entry.input ≠ some "") (houtput : entry.output ≠ some "") :
    ApiEntry.ofJson entry.declared = entry.unlinked := by
  have hscopes : (entry.scopes.map Json.ofTexts).map (fun scope => scope.items.filterMap Json.text?) = entry.scopes := by
    rw [List.map_map]
    exact (List.map_congr_left fun scope _ => Json.filterMap_ofTexts scope).trans (List.map_id _)
  rw [unlinked, ← Json.filterMap_ofTexts entry.args, ← hscopes, ← nonEmpty_ofOptionalText hinput,
    ← nonEmpty_ofOptionalText houtput]
  rfl

theorem RouteElement.ofJson_declared {element : RouteElement} (h : element.constant ≠ some "") :
    RouteElement.ofJson element.declared = element.unlinked := by
  rw [unlinked, ← nonEmpty_ofOptionalText h]
  rfl

theorem ExchangeEntry.ofJson_declared {entry : ExchangeEntry} (hschema : entry.schema ≠ some "")
    (helements : ∀ element ∈ entry.routingKey, element.constant ≠ some "") :
    ExchangeEntry.ofJson entry.declared = entry.unlinked := by
  have hrouting : (entry.routingKey.map RouteElement.declared).map RouteElement.ofJson =
      entry.routingKey.map RouteElement.unlinked := by
    rw [List.map_map]
    exact List.map_congr_left fun element helement => RouteElement.ofJson_declared (helements element helement)
  rw [unlinked, ← hrouting, ← nonEmpty_ofOptionalText hschema]
  rfl

theorem Document.ofJson_declared {document : Document} (h : document.NoEmptyTexts) :
    Document.ofJson document.kind document.declared = document.unlinked := by
  cases document with
  | api document =>
    have hentries : (document.entries.map ApiEntry.declared).map ApiEntry.ofJson =
        document.entries.map ApiEntry.unlinked := by
      rw [List.map_map]
      exact List.map_congr_left fun entry hentry => ApiEntry.ofJson_declared (h entry hentry).1 (h entry hentry).2
    rw [unlinked, ← hentries]
    rfl
  | exchange document =>
    have hentries : (document.entries.map ExchangeEntry.declared).map ExchangeEntry.ofJson =
        document.entries.map ExchangeEntry.unlinked := by
      rw [List.map_map]
      exact List.map_congr_left fun entry hentry => ExchangeEntry.ofJson_declared (h entry hentry).1 (h entry hentry).2
    rw [unlinked, ← hentries]
    rfl

/-! ## Reading texts -/

/-- **Texts that differ only in what a load adds are read alike**, also where they cannot be read. -/
theorem Document.decode_without {json json' : Json} (h : json.without derivedKeys = json'.without derivedKeys)
    (kind : DocumentKind) (url : String) (document : Document) :
    Document.decode kind url json.compact = .ok document ↔ Document.decode kind url json'.compact = .ok document := by
  have hconform (json : Json) : conform documentLayout Json.depthLimit (.record kind.record) (json.without derivedKeys) =
      conform documentLayout Json.depthLimit (.record kind.record) json :=
    Json.conform_without ignores_derivedKeys Json.depthLimit (.record kind.record) trivial json
  simp only [decode_ok, Json.read_compact]
  rw [← hconform json, h, hconform json']

/-- **The text of a document is read as the document unlinked**, and so is every text that differs from it only in
what a load adds. -/
theorem Document.decode_compact_of_noEmptyTexts {document : Document} (h : document.NoEmptyTexts) (url : String) :
    Document.decode document.kind url document.toJson.compact = .ok document.unlinked ∧
      ∀ json json' : Json, json.without derivedKeys = json'.without derivedKeys → ∀ kind result,
        Document.decode kind url json.compact = .ok result ↔ Document.decode kind url json'.compact = .ok result := by
  have hread : conform documentLayout Json.depthLimit (.record document.kind.record) document.toJson =
      some document.declared := by
    rw [← Json.conform_without ignores_derivedKeys Json.depthLimit (.record document.kind.record) trivial document.toJson,
      document.without_toJson]
    exact document.conform_declared 122
  refine ⟨decode_ok.2 ⟨document.declared, (Json.read_compact documentLayout).2 hread, ofJson_declared h⟩, ?_⟩
  exact fun json json' hwithout kind result => decode_without hwithout kind url result

/-- A binding as it is after linking. -/
def Document.linkedExchange : Document :=
  .exchange
    { version := "v1", title := "Queue", exchangePrefix := "exchange/queue/v1/"
      definition := { index := 3 }
      entries :=
        [{ entryType := "topic-exchange", exchange := "task-defined", name := "taskDefined"
           routingKey := [{ name := "kind", constant := some "primary", required := true, fieldName := "kind" }]
           schema := some "https://example.org/task.json#", typeName := "TaskDefined", definition := { index := 3 } }] }

theorem Document.linkedExchange_decode_compact :
    linkedExchange.NoEmptyTexts ∧
      Document.decode .exchange "queue.json" linkedExchange.toJson.compact = .ok linkedExchange.unlinked ∧
        ∀ json json' : Json, json.without derivedKeys = json'.without derivedKeys → ∀ kind result,
          Document.decode kind "queue.json" json.compact = .ok result ↔
            Document.decode kind "queue.json" json'.compact = .ok result := by
  have htexts : linkedExchange.NoEmptyTexts := by
    intro entry hentry
    rw [List.mem_singleton.1 hentry]
    exact ⟨by decide, List.forall_mem_singleton.2 (by decide)⟩
  exact ⟨htexts, decode_compact_of_noEmptyTexts htexts "queue.json"⟩

end ApiCatalog
