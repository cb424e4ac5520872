import ApiCatalog.Proofs.Loading.Success
import ApiCatalog.Proofs.Schema.Requests

/-!
# What a load requests

The searches of a load are separated by steps that request documents and change what is known about cached
schemas. None of them touches the keys of the cache, so the record of requests that the searches keep
(`Session.Recorded`) is kept by the whole load: every step of it takes a recorded session to a recorded one, or
fails as a search may. After the last document nothing is requested at all.
-/

namespace ApiCatalog
open Load (Takes takes_pure takes_bind takes_lift)
open Session (Recorded FailsOnce)

/-! ## Errors that are not of the cache -/

theorem Document.decode_error {kind : DocumentKind} {url body : String} {e : LoadError}
    (h : Document.decode kind url body = .error e) : e.Specific := by
  unfold decode at h
  split at h
  · cases h
  · cases h
    trivial

theorem Definition.kind_error {definition : Definition} {e : LoadError} (h : definition.kind = .error e) :
    e.Specific := by
  unfold kind at h
  split at h
  · cases h
  · cases h
    trivial

theorem Naming.NameScope.claimFor_specific {scope : NameScope} {text : String} {e : LoadError}
    (h : scope.claimFor text = .error e) : e.Specific := by
  rw [claimFor_error h]
  trivial

theorem Library.nameElements_error {fields : Naming.NameScope} {elements : List RouteElement} {e : LoadError}
    (h : Library.nameElements fields elements = .error e) : e.Specific := by
  induction elements generalizing fields with
  | nil => cases h
  | cons element rest ih =>
    rw [nameElements, except_bind_error] at h
    rcases h with hclaim | ⟨⟨name, grown⟩, -, h⟩
    · exact Naming.NameScope.claimFor_specific hclaim
    · rcases except_bind_error.1 h with hrest | ⟨named, -, h⟩
      · exact ih hrest
      · cases h

/-! ## Steps that keep the record -/

namespace Library
variable {library : Library} {others : List Request}

/-- The step keeps the record of requests, or fails as a search may. -/
abbrev KeepsRecord {α : Type} (others : List Request) (step : Load α) : Prop :=
  Takes (Recorded others) (Recorded others) FailsOnce step

theorem takes_lift_specific {α : Type} {result : Except LoadError α}
    (hfails : ∀ e, result = .error e → e.Specific) : KeepsRecord others (liftM result : Load α) :=
  takes_lift fun _ e hrecorded herror => ⟨hfails e herror, hrecorded.askedOnce⟩

theorem keeps_resolve (url : String) : KeepsRecord others (library.resolve url) := by
  unfold resolve
  split
  · exact takes_pure none
  · split
    · refine ⟨?_, ?_⟩
      · rintro s t _ - ⟨⟩
      · rintro s t _ hrecorded ⟨⟩
        exact ⟨trivial, hrecorded.askedOnce⟩
    · refine takes_bind ⟨?_, ?_⟩ fun _ => takes_pure _
      · intro s t _ hrecorded hrun
        exact (Session.once_of_follow hrecorded).1 t hrun
      · intro s t e hrecorded hrun
        exact (Session.once_of_follow hrecorded).2 e t hrun

theorem keeps_resolveAs (role : Role) (reference : Option String) :
    KeepsRecord others (library.resolveAs role reference) := by
  cases reference with
  | none => exact takes_pure none
  | some url =>
    refine takes_bind (keeps_resolve url) fun found => ?_
    cases found with
    | none => exact takes_pure none
    | some key =>
      refine takes_bind ⟨?_, ?_⟩ fun _ => takes_pure _
      · intro s t _ hrecorded hrun
        cases hrun
        exact ⟨by rw [SchemaCache.keys_modify]; exact hrecorded.schemas, hrecorded.others⟩
      · rintro s t e - ⟨⟩

theorem keeps_linkApiEntries (id : DefinitionId) (methods : Naming.NameScope) (entries : List ApiEntry) :
    KeepsRecord others (library.linkApiEntries id methods entries) := by
  induction entries generalizing methods with
  | nil => exact takes_pure []
  | cons entry rest ih =>
    refine takes_bind (keeps_resolveAs .input _) fun _ => takes_bind (keeps_resolveAs .output _) fun _ => ?_
    refine takes_bind (takes_lift_specific fun _ => Naming.NameScope.claimFor_specific) fun claimed => ?_
    exact takes_bind (ih claimed.2) fun _ => takes_pure _

theorem keeps_linkExchangeEntries (id : DefinitionId) (bindings : Naming.NameScope) (entries : List ExchangeEntry) :
    KeepsRecord others (library.linkExchangeEntries id bindings entries) := by
  induction entries generalizing bindings with
  | nil => exact takes_pure []
  | cons entry rest ih =>
    refine takes_bind (keeps_resolveAs .message _) fun _ => ?_
    refine takes_bind (takes_lift_specific fun _ => Naming.NameScope.claimFor_specific) fun claimed => ?_
    refine takes_bind (takes_lift_specific fun _ => nameElements_error) fun _ => ?_
    exact takes_bind (ih claimed.2) fun _ => takes_pure _

theorem keeps_link (id : DefinitionId) (document : Document) :
    KeepsRecord others (library.link id document) := by
  cases document with
  | api document =>
    exact takes_bind (takes_bind (keeps_linkApiEntries id .empty _) fun _ => takes_pure _) fun _ => takes_pure _
  | exchange document =>
    exact takes_bind (takes_bind (keeps_linkExchangeEntries id .empty _) fun _ => takes_pure _) fun _ => takes_pure _

/-! ## Steps that request documents -/

def documentRequest (definition : Definition) : Request := ⟨.document, definition.url⟩

theorem recorded_request {s : Session} (h : s.Recorded others) (definition : Definition) :
    (s.request .document definition.url).Recorded (others ++ [documentRequest definition]) := by
  refine ⟨?_, ?_⟩
  · rw [Session.schemaLocations_request, if_neg (by simp), List.append_nil]
    exact h.schemas
  · simp [← h.others, Session.otherRequests, Session.request, documentRequest]

theorem takes_fetchDocument (definition : Definition) :
    Takes (Recorded others) (Recorded (others ++ [documentRequest definition])) FailsOnce
      (library.fetchDocument definition) := by
  have hfetch : Takes (Recorded others) (Recorded (others ++ [documentRequest definition])) FailsOnce
      (Load.fetch library .document definition.url) := by
    refine ⟨?_, ?_⟩
    · intro s t body hrecorded hfetch
      rw [Load.perform_fetch, Prod.mk.injEq] at hfetch
      obtain ⟨-, rfl⟩ := hfetch
      exact recorded_request hrecorded definition
    · intro s t e hrecorded hfetch
      rw [Load.perform_fetch, Prod.mk.injEq] at hfetch
      obtain ⟨hanswer, rfl⟩ := hfetch
      exact ⟨answer_error hanswer, (recorded_request hrecorded definition).askedOnce⟩
  refine takes_bind (takes_lift_specific fun _ => Definition.kind_error) fun kind => takes_bind hfetch fun body => ?_
  exact takes_lift_specific fun _ => Document.decode_error

theorem takes_loadDocuments (index : Nat) (definitions : List Definition) :
    Takes (Recorded others) (Recorded (others ++ definitions.map documentRequest)) FailsOnce
      (library.loadDocuments index definitions) := by
  induction definitions generalizing index others with
  | nil =>
    rw [List.map_nil, List.append_nil]
    exact takes_pure []
  | cons definition rest ih =>
    have hsplit : others ++ (definition :: rest).map documentRequest =
        others ++ [documentRequest definition] ++ rest.map documentRequest := by simp
    rw [hsplit]
    refine takes_bind (takes_fetchDocument definition) fun document => ?_
    refine takes_bind (keeps_link ⟨index⟩ document) fun linked => ?_
    exact takes_bind (ih (index + 1)) fun _ => takes_pure _

/-! ## Steps that request nothing -/

theorem recorded_of_revises {s : Session} {cache : SchemaCache} (h : s.Recorded others)
    (hrevises : s.cache.Revises cache) : ({ s with cache } : Session).Recorded others :=
  ⟨by rw [hrevises.keys_eq]; exact h.schemas, h.others⟩

theorem keeps_applyPatches (patches : List SchemaPatch) : KeepsRecord others (Load.applyPatches patches) := by
  have hrecorded {s : Session} (h : s.Recorded others) :
      ({ s with cache := (s.cache.applyPatches patches).2 } : Session).Recorded others :=
    recorded_of_revises h (SchemaCache.revises_applyPatches s.cache patches)
  refine ⟨?_, ?_⟩
  · intro s t count h hrun
    rw [perform_applyPatches, Prod.mk.injEq] at hrun
    obtain ⟨-, rfl⟩ := hrun
    exact hrecorded h
  · intro s t e h hrun
    rw [perform_applyPatches, Prod.mk.injEq] at hrun
    obtain ⟨herror, rfl⟩ := hrun
    obtain ⟨url, message, rfl⟩ := SchemaCache.applyPatches_error herror
    exact ⟨trivial, (hrecorded h).askedOnce⟩

theorem keeps_get : KeepsRecord others (get : Load Session) := by
  refine ⟨?_, ?_⟩
  · rintro s t _ hrecorded ⟨⟩
    exact hrecorded
  · rintro s t e - ⟨⟩

theorem keeps_assignTypeNames : KeepsRecord others Load.assignTypeNames := by
  refine ⟨?_, ?_⟩
  · intro s t _ hrecorded hrun
    obtain ⟨cache, hcache, rfl⟩ := perform_assignTypeNames_ok.1 hrun
    exact recorded_of_revises hrecorded (SchemaCache.revises_nameEach hcache)
  · intro s t e hrecorded hrun
    rw [perform_assignTypeNames] at hrun
    split at hrun
    · cases hrun
    · next herror =>
      cases hrun
      obtain ⟨candidate, rfl⟩ := SchemaCache.nameEach_error herror
      exact ⟨trivial, hrecorded.askedOnce⟩

/-- A load of definitions requests their documents, in the order in which they are loaded, and the schemas that it
caches. -/
theorem takes_loadDefinitions (patches : List SchemaPatch) (definitions : List Definition) :
    Takes (Recorded others) (Recorded (others ++ (loadOrder definitions).map documentRequest)) FailsOnce
      (library.loadDefinitions patches definitions) := by
  refine takes_bind (takes_loadDocuments 0 _) fun documents => takes_bind (keeps_applyPatches patches) fun _ => ?_
  exact takes_bind keeps_assignTypeNames fun _ => takes_bind keeps_get fun _ => takes_pure _

/-! ## Whole loads -/

theorem recorded_empty : ({} : Session).Recorded [] := ⟨rfl, rfl⟩

/-- **A load asks once.** Whether it succeeds or fails, no document was asked for twice as a schema, and no schema
was registered twice. When it succeeds it has made one request for every definition and one for every schema in its
cache. -/
theorem schemas_requested_once (library : Library) (patches : List SchemaPatch) (definitions : List Definition)
    {result : Except LoadError Loaded} {after : Session}
    (hrun : Load.perform (library.loadDefinitions patches definitions) {} = (result, after)) :
    after.AskedOnce ∧ (∀ text, result ≠ .error (.general text)) ∧
      ∀ loaded, result = .ok loaded → after.requests.length = definitions.length + loaded.schemas.size := by
  cases result with
  | error e =>
    obtain ⟨hspecific, honce⟩ := (takes_loadDefinitions patches definitions).error recorded_empty hrun
    refine ⟨honce, fun text h => hspecific.ne_general text (Except.error.inj h), ?_⟩
    rintro loaded ⟨⟩
  | ok loaded =>
    have hrecorded := (takes_loadDefinitions patches definitions).ok recorded_empty hrun
    refine ⟨hrecorded.askedOnce, by simp, ?_⟩
    rintro _ ⟨⟩
    obtain ⟨u, -, -, -, rfl⟩ := loadDefinitions_ok.1 hrun
    rw [hrecorded.requests_length, List.nil_append, List.length_map, (loadOrder_perm definitions).length_eq]

theorem cyclic_requested_once : ∃ loaded after,
    Load.perform (cyclic.loadDefinitions SchemaPatch.builtin [cyclicDefinition]) {} = (.ok loaded, after) ∧
      after.AskedOnce ∧ after.requests.length = 1 + loaded.schemas.size := by
  obtain ⟨loaded, after, hrun⟩ := cyclic_loads
  obtain ⟨honce, -, hlength⟩ := schemas_requested_once cyclic SchemaPatch.builtin [cyclicDefinition] hrun
  exact ⟨loaded, after, hrun, honce, hlength loaded rfl⟩

end Library

end ApiCatalog
