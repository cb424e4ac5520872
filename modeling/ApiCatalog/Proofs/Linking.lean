import ApiCatalog.Linking
import ApiCatalog.Proofs.Performing

/-!
# Linking as naming and resolving

Linking a document interleaves two things that do not depend on each other: giving names and writing references
in canonical form, which need no session (`Document.named`), and resolving the references of all entries one
after the other, which needs nothing but the list of these references (`Library.resolveAll`). `link_ok` says that
linking succeeds exactly when both do, with the document of the one and the session of the other.
-/

namespace ApiCatalog
open Naming (NameScope)

/-! ## What a document refers to -/

/-- The references of an operation, with the roles of their schemas. -/
def ApiEntry.uses (entry : ApiEntry) : List (Role × String) :=
  entry.input.toList.map (Role.input, ·) ++ entry.output.toList.map (Role.output, ·)

def ExchangeEntry.uses (entry : ExchangeEntry) : List (Role × String) :=
  entry.schema.toList.map (Role.message, ·)

namespace Document

/-- The references of all entries, in the order of declaration. -/
def uses : Document → List (Role × String)
  | .api document => document.entries.flatMap ApiEntry.uses
  | .exchange document => document.entries.flatMap ExchangeEntry.uses

/-- The references of all entries, whatever the roles of their schemas. -/
def references (document : Document) : List String := document.uses.map Prod.snd

end Document

/-! ## Without a session -/

/-- A reference of an entry once it is linked: blank ones are gone, the others are canonical. -/
def linkedReference (reference : Option String) : Option String :=
  (reference.filter (!Text.isBlank ·)).map canonicalUrl

/-- Operations with their names and canonical references; `methods` are the names given out before. -/
def nameApiEntries (id : DefinitionId) (methods : NameScope) : List ApiEntry → Except LoadError (List ApiEntry)
  | [] => .ok []
  | entry :: rest => do
    let (methodName, methods) ← methods.claimFor entry.name
    let rest ← nameApiEntries id methods rest
    let input := linkedReference entry.input
    let output := linkedReference entry.output
    return { entry with input, output, methodName, definition := id } :: rest

/-- Message bindings with their names and canonical references; `bindings` are the names given out before. -/
def nameExchangeEntries (id : DefinitionId) (bindings : NameScope) :
    List ExchangeEntry → Except LoadError (List ExchangeEntry)
  | [] => .ok []
  | entry :: rest => do
    let (typeName, bindings) ← bindings.claimFor entry.name
    let routingKey ← Library.nameElements .empty entry.routingKey
    let rest ← nameExchangeEntries id bindings rest
    return { entry with schema := linkedReference entry.schema, typeName, routingKey, definition := id } :: rest

/-- A document with its names, canonical references and back-references. -/
def Document.named (id : DefinitionId) : Document → Except LoadError Document
  | .api document => do
    let entries ← nameApiEntries id .empty document.entries
    return .api { document with entries, definition := id }
  | .exchange document => do
    let entries ← nameExchangeEntries id .empty document.entries
    return .exchange { document with entries, definition := id }

/-! ## With a session -/

namespace Library
variable {library : Library}

/-- Resolves references one after the other and marks their schemas. -/
def resolveAll (library : Library) : List (Role × String) → Load Unit
  | [] => return
  | (role, reference) :: rest => do
    let _ ← library.resolveAs role (some reference)
    library.resolveAll rest

theorem resolve_blank {url : String} {s : Session} (hblank : Text.isBlank url = true) :
    Load.perform (library.resolve url) s = (.ok none, s) := by
  rw [resolve, if_pos hblank, Load.perform_pure]

theorem resolve_unkeyed {url : String} {s : Session} (hblank : Text.isBlank url = false)
    (hkey : SchemaKey.ofUrl? url = none) :
    Load.perform (library.resolve url) s =
      (.error (.decode url "JSON pointer fragments are not supported"), s) := by
  rw [resolve, if_neg (by simp [hblank]), hkey, Load.perform_throw]

theorem resolve_search {url : String} {s : Session} {key : SchemaKey} (hblank : Text.isBlank url = false)
    (hkey : SchemaKey.ofUrl? url = some key) :
    Load.perform (library.resolve url) s =
      ((s.follow library [key]).1.1.map fun _ => some key.url, (s.follow library [key]).1.2) := by
  rw [resolve, if_neg (by simp [hblank]), hkey]
  simp only [Load.perform_bind, Load.perform_mk]
  rcases (s.follow library [key]).1 with ⟨e | done, t⟩ <;> rfl

theorem resolve_ok {url : String} {s t : Session} {result : Option String} :
    Load.perform (library.resolve url) s = (.ok result, t) ↔
      (Text.isBlank url = true ∧ result = none ∧ s = t) ∨
        Text.isBlank url = false ∧ ∃ key, SchemaKey.ofUrl? url = some key ∧ result = some key.url ∧
          (s.follow library [key]).1 = (.ok (), t) := by
  cases hblank : Text.isBlank url with
  | true =>
    rw [resolve_blank hblank, Prod.mk.injEq]
    simp [eq_comm]
  | false =>
    cases hkey : SchemaKey.ofUrl? url with
    | none => simp [resolve_unkeyed hblank hkey]
    | some key =>
      rw [resolve_search hblank hkey]
      rcases hfollow : (s.follow library [key]).1 with ⟨e | done, u⟩
      · simp [hfollow, Except.map]
      · simp [hfollow, Except.map, eq_comm]

theorem linkedReference_of_resolve {url : String} {s t : Session} {result : Option String}
    (h : Load.perform (library.resolve url) s = (.ok result, t)) : result = linkedReference (some url) := by
  rcases resolve_ok.1 h with ⟨hblank, rfl, -⟩ | ⟨hblank, key, hkey, rfl, -⟩
  · simp [linkedReference, Option.filter, hblank]
  · simp [linkedReference, Option.filter, hblank, SchemaKey.url_of_ofUrl? hkey]

theorem linkedReference_of_resolveAs {role : Role} {url : String} {s t : Session} {result : Option String}
    (h : Load.perform (library.resolveAs role (some url)) s = (.ok result, t)) :
    result = linkedReference (some url) := by
  obtain ⟨found, u, hresolve, hmark⟩ := Load.bind_ok.1 h
  have hfound := linkedReference_of_resolve hresolve
  cases found with
  | none =>
    cases hmark
    exact hfound
  | some key =>
    obtain ⟨_, v, -, hpure⟩ := Load.bind_ok.1 hmark
    cases hpure
    exact hfound

theorem resolveAs_ok {role : Role} {reference result : Option String} {s t : Session} :
    Load.perform (library.resolveAs role reference) s = (.ok result, t) ↔
      result = linkedReference reference ∧
        Load.perform (library.resolveAll (reference.toList.map (role, ·))) s = (.ok (), t) := by
  cases reference with
  | none =>
    show Load.perform (pure none : Load (Option String)) s = _ ↔ _
    simp only [Load.perform_pure, Prod.mk.injEq, Except.ok.injEq, Option.toList_none, List.map_nil, resolveAll]
    constructor
    · rintro ⟨rfl, rfl⟩
      exact ⟨rfl, trivial, rfl⟩
    · rintro ⟨rfl, -, rfl⟩
      exact ⟨rfl, rfl⟩
  | some url =>
    simp only [Option.toList_some, List.map_cons, List.map_nil, resolveAll, Load.bind_ok, Load.perform_pure,
      Prod.mk.injEq, true_and]
    constructor
    · intro h
      exact ⟨linkedReference_of_resolveAs h, result, t, h, rfl⟩
    · rintro ⟨rfl, found, _, h, rfl⟩
      rwa [← linkedReference_of_resolveAs h]

theorem resolveAll_append {uses more : List (Role × String)} {s t : Session} :
    Load.perform (library.resolveAll (uses ++ more)) s = (.ok (), t) ↔
      ∃ u, Load.perform (library.resolveAll uses) s = (.ok (), u) ∧
        Load.perform (library.resolveAll more) u = (.ok (), t) := by
  induction uses generalizing s with
  | nil =>
    simp only [List.nil_append, resolveAll, Load.perform_pure, Prod.mk.injEq, true_and]
    constructor
    · intro h
      exact ⟨s, rfl, h⟩
    · rintro ⟨_, rfl, h⟩
      exact h
  | cons use rest ih =>
    obtain ⟨role, reference⟩ := use
    simp only [List.cons_append, resolveAll, Load.bind_ok, ih]
    constructor
    · rintro ⟨result, v, hfirst, u, hrest, hmore⟩
      exact ⟨u, ⟨result, v, hfirst, hrest⟩, hmore⟩
    · rintro ⟨u, ⟨result, v, hfirst, hrest⟩, hmore⟩
      exact ⟨result, v, hfirst, u, hrest, hmore⟩

theorem linkApiEntries_ok {id : DefinitionId} {methods : NameScope} {entries linked : List ApiEntry}
    {s t : Session} :
    Load.perform (library.linkApiEntries id methods entries) s = (.ok linked, t) ↔
      nameApiEntries id methods entries = .ok linked ∧
        Load.perform (library.resolveAll (entries.flatMap ApiEntry.uses)) s = (.ok (), t) := by
  induction entries generalizing methods linked s t with
  | nil => simp [linkApiEntries, nameApiEntries, resolveAll, eq_comm]
  | cons entry rest ih =>
    rw [List.flatMap_cons, ApiEntry.uses, resolveAll_append]
    simp only [linkApiEntries, nameApiEntries, Load.bind_ok, except_bind_ok, resolveAll_append, resolveAs_ok,
      Load.lift_ok, ih, Load.perform_pure, Prod.mk.injEq, Except.ok.injEq, Prod.exists]
    constructor
    · rintro ⟨_, u, ⟨rfl, hinput⟩, _, v, ⟨rfl, houtput⟩, name, scope, _, ⟨hname, rfl⟩, more, _, ⟨hmore, hrest⟩,
        rfl, rfl⟩
      exact ⟨⟨name, scope, hname, more, hmore, rfl⟩, v, ⟨u, hinput, houtput⟩, hrest⟩
    · rintro ⟨⟨name, scope, hname, more, hmore, hlinked⟩, v, ⟨u, hinput, houtput⟩, hrest⟩
      exact ⟨_, u, ⟨rfl, hinput⟩, _, v, ⟨rfl, houtput⟩, name, scope, v, ⟨hname, rfl⟩, more, t, ⟨hmore, hrest⟩,
        Except.ok.inj hlinked, rfl⟩

theorem linkExchangeEntries_ok {id : DefinitionId} {bindings : NameScope} {entries linked : List ExchangeEntry}
    {s t : Session} :
    Load.perform (library.linkExchangeEntries id bindings entries) s = (.ok linked, t) ↔
      nameExchangeEntries id bindings entries = .ok linked ∧
        Load.perform (library.resolveAll (entries.flatMap ExchangeEntry.uses)) s = (.ok (), t) := by
  induction entries generalizing bindings linked s t with
  | nil => simp [linkExchangeEntries, nameExchangeEntries, resolveAll, eq_comm]
  | cons entry rest ih =>
    rw [List.flatMap_cons, ExchangeEntry.uses, resolveAll_append]
    simp only [linkExchangeEntries, nameExchangeEntries, Load.bind_ok, except_bind_ok, resolveAs_ok,
      Load.lift_ok, ih, Load.perform_pure, Prod.mk.injEq, Except.ok.injEq, Prod.exists]
    constructor
    · rintro ⟨_, u, ⟨rfl, hschema⟩, name, scope, _, ⟨hname, rfl⟩, key, _, ⟨hkey, rfl⟩, more, _, ⟨hmore, hrest⟩,
        rfl, rfl⟩
      exact ⟨⟨name, scope, hname, key, hkey, more, hmore, rfl⟩, u, hschema, hrest⟩
    · rintro ⟨⟨name, scope, hname, key, hkey, more, hmore, hlinked⟩, u, hschema, hrest⟩
      exact ⟨_, u, ⟨rfl, hschema⟩, name, scope, u, ⟨hname, rfl⟩, key, u, ⟨hkey, rfl⟩, more, t, ⟨hmore, hrest⟩,
        Except.ok.inj hlinked, rfl⟩

/-- **Linking is naming and resolving.** -/
theorem link_ok {id : DefinitionId} {document linked : Document} {s t : Session} :
    Load.perform (library.link id document) s = (.ok linked, t) ↔
      document.named id = .ok linked ∧ Load.perform (library.resolveAll document.uses) s = (.ok (), t) := by
  cases document with
  | api document =>
    simp only [link, linkApi, Document.named, Document.uses, Load.bind_ok, except_bind_ok, linkApiEntries_ok,
      Load.perform_pure, Prod.mk.injEq, Except.ok.injEq]
    constructor
    · rintro ⟨_, _, ⟨entries, _, ⟨hnamed, hresolve⟩, rfl, rfl⟩, rfl, rfl⟩
      exact ⟨⟨entries, hnamed, rfl⟩, hresolve⟩
    · rintro ⟨⟨entries, hnamed, hlinked⟩, hresolve⟩
      exact ⟨_, t, ⟨entries, t, ⟨hnamed, hresolve⟩, rfl, rfl⟩, Except.ok.inj hlinked, rfl⟩
  | exchange document =>
    simp only [link, linkExchange, Document.named, Document.uses, Load.bind_ok, except_bind_ok,
      linkExchangeEntries_ok, Load.perform_pure, Prod.mk.injEq, Except.ok.injEq]
    constructor
    · rintro ⟨_, _, ⟨entries, _, ⟨hnamed, hresolve⟩, rfl, rfl⟩, rfl, rfl⟩
      exact ⟨⟨entries, hnamed, rfl⟩, hresolve⟩
    · rintro ⟨⟨entries, hnamed, hlinked⟩, hresolve⟩
      exact ⟨_, t, ⟨entries, t, ⟨hnamed, hresolve⟩, rfl, rfl⟩, Except.ok.inj hlinked, rfl⟩

end Library

end ApiCatalog
