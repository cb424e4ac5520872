import ApiCatalog.Proofs.Linking
import ApiCatalog.Proofs.Naming.Scope

/-!
# Naming the entries of a document

A document is named when none of its scopes runs out of names, so one that is `Small` always is. Naming leaves the
references of the entries that are not blank, in canonical form and in their order.
-/

namespace ApiCatalog
open Naming (NameScope)

/-! ## There are enough names -/

theorem nameElements_ok_of_room {fields : NameScope} {elements : List RouteElement}
    (h : fields.Room elements.length) : ∃ named, Library.nameElements fields elements = .ok named := by
  induction elements generalizing fields with
  | nil => exact ⟨[], rfl⟩
  | cons element rest ih =>
    obtain ⟨name, hclaim, hroom⟩ := h.claimFor element.name
    obtain ⟨more, hmore⟩ := ih hroom
    refine ⟨{ element with fieldName := name } :: more, ?_⟩
    simp only [Library.nameElements, except_bind_ok, Prod.exists]
    exact ⟨name, _, hclaim, more, hmore, rfl⟩

theorem nameApiEntries_ok_of_room {id : DefinitionId} {methods : NameScope} {entries : List ApiEntry}
    (h : methods.Room entries.length) : ∃ named, nameApiEntries id methods entries = .ok named := by
  induction entries generalizing methods with
  | nil => exact ⟨[], rfl⟩
  | cons entry rest ih =>
    obtain ⟨name, hclaim, hroom⟩ := h.claimFor entry.name
    obtain ⟨more, hmore⟩ := ih hroom
    simp only [nameApiEntries, except_bind_ok, Prod.exists]
    exact ⟨_, name, _, hclaim, more, hmore, rfl⟩

theorem nameExchangeEntries_ok_of_room {id : DefinitionId} {bindings : NameScope} {entries : List ExchangeEntry}
    (h : bindings.Room entries.length) (hkeys : ∀ entry ∈ entries, entry.routingKey.length < 2 ^ 32) :
    ∃ named, nameExchangeEntries id bindings entries = .ok named := by
  induction entries generalizing bindings with
  | nil => exact ⟨[], rfl⟩
  | cons entry rest ih =>
    obtain ⟨hkey, hrest⟩ := List.forall_mem_cons.1 hkeys
    obtain ⟨name, hclaim, hroom⟩ := h.claimFor entry.name
    obtain ⟨key, hnamed⟩ := nameElements_ok_of_room (NameScope.room_empty hkey)
    obtain ⟨more, hmore⟩ := ih hroom hrest
    simp only [nameExchangeEntries, except_bind_ok, Prod.exists]
    exact ⟨_, name, _, hclaim, key, hnamed, more, hmore, rfl⟩

namespace Document

/-- Neither the entries of a document nor the segments of one of its routing keys number 2^32 or more. -/
def Small : Document → Prop
  | .api document => document.entries.length < 2 ^ 32
  | .exchange document =>
    document.entries.length < 2 ^ 32 ∧ ∀ entry ∈ document.entries, entry.routingKey.length < 2 ^ 32

theorem named_ok_of_small {document : Document} (h : document.Small) (id : DefinitionId) :
    ∃ linked, document.named id = .ok linked := by
  cases document with
  | api document =>
    have hnamed : ∃ entries, nameApiEntries id .empty document.entries = .ok entries :=
      nameApiEntries_ok_of_room (NameScope.room_empty h)
    obtain ⟨entries, hentries⟩ := hnamed
    simp only [named, except_bind_ok]
    exact ⟨_, entries, hentries, rfl⟩
  | exchange document =>
    obtain ⟨hlength, hkeys⟩ := h
    have hnamed : ∃ entries, nameExchangeEntries id .empty document.entries = .ok entries :=
      nameExchangeEntries_ok_of_room (NameScope.room_empty hlength) hkeys
    obtain ⟨entries, hentries⟩ := hnamed
    simp only [named, except_bind_ok]
    exact ⟨_, entries, hentries, rfl⟩

end Document

/-! ## What is left of the references -/

/-- References that are not blank, in canonical form. -/
def linkedReferences (references : List String) : List String :=
  (references.filter (!Text.isBlank ·)).map canonicalUrl

/-- References that are not blank, in canonical form, with the roles of their schemas. -/
def linkedUses (uses : List (Role × String)) : List (Role × String) :=
  (uses.filter fun use => !Text.isBlank use.2).map fun use => (use.1, canonicalUrl use.2)

theorem linkedUses_append (uses more : List (Role × String)) :
    linkedUses (uses ++ more) = linkedUses uses ++ linkedUses more := by
  simp [linkedUses]

theorem linkedUses_toList (role : Role) (reference : Option String) :
    (linkedReference reference).toList.map (role, ·) = linkedUses (reference.toList.map (role, ·)) := by
  cases reference with
  | none => rfl
  | some url => cases hblank : Text.isBlank url <;> simp [linkedReference, linkedUses, Option.filter, hblank]

theorem map_snd_linkedUses (uses : List (Role × String)) :
    (linkedUses uses).map Prod.snd = linkedReferences (uses.map Prod.snd) := by
  simp [linkedUses, linkedReferences, List.filter_map, Function.comp_def]

theorem uses_nameApiEntries {id : DefinitionId} {methods : NameScope} {entries named : List ApiEntry}
    (h : nameApiEntries id methods entries = .ok named) :
    named.flatMap ApiEntry.uses = linkedUses (entries.flatMap ApiEntry.uses) := by
  induction entries generalizing methods named with
  | nil =>
    cases h
    rfl
  | cons entry rest ih =>
    simp only [nameApiEntries, except_bind_ok, Prod.exists] at h
    obtain ⟨name, scope, -, more, hmore, hnamed⟩ := h
    cases hnamed
    simp only [List.flatMap_cons, linkedUses_append, ih hmore, ApiEntry.uses, linkedUses_toList]

theorem uses_nameExchangeEntries {id : DefinitionId} {bindings : NameScope} {entries named : List ExchangeEntry}
    (h : nameExchangeEntries id bindings entries = .ok named) :
    named.flatMap ExchangeEntry.uses = linkedUses (entries.flatMap ExchangeEntry.uses) := by
  induction entries generalizing bindings named with
  | nil =>
    cases h
    rfl
  | cons entry rest ih =>
    simp only [nameExchangeEntries, except_bind_ok, Prod.exists] at h
    obtain ⟨name, scope, -, key, -, more, hmore, hnamed⟩ := h
    cases hnamed
    simp only [List.flatMap_cons, linkedUses_append, ih hmore, ExchangeEntry.uses, linkedUses_toList]

/-- **The references of a named document** are those of the document, but for the blank ones, and in the same
roles. -/
theorem Document.uses_of_named {document linked : Document} {id : DefinitionId}
    (h : document.named id = .ok linked) : linked.uses = linkedUses document.uses := by
  cases document with
  | api document =>
    simp only [named, except_bind_ok] at h
    obtain ⟨entries, hentries, hlinked⟩ := h
    cases hlinked
    exact uses_nameApiEntries hentries
  | exchange document =>
    simp only [named, except_bind_ok] at h
    obtain ⟨entries, hentries, hlinked⟩ := h
    cases hlinked
    exact uses_nameExchangeEntries hentries

theorem Document.references_of_named {document linked : Document} {id : DefinitionId}
    (h : document.named id = .ok linked) : linked.references = linkedReferences document.references := by
  rw [references, uses_of_named h, map_snd_linkedUses]
  rfl

end ApiCatalog
