import ApiCatalog.Proofs.Loading.Success
import ApiCatalog.Proofs.Schema.Reordering

/-!
# The order of definitions, entries and properties

A library `Reorders` another when it holds texts at the same locations and each of them reads, as a document or as a
schema, like that of the other but for the order of entries and of properties. The graphs of the two are the same,
and so whether definitions can be loaded is the same for both, in any order of the definitions.
-/

namespace ApiCatalog

/-- Two readings that fail both, or succeed both with related results. -/
inductive ReadAlike {α : Type} (R : α → α → Prop) : Except LoadError α → Except LoadError α → Prop
  | ok {a b : α} (h : R a b) : ReadAlike R (.ok a) (.ok b)
  | error (e e' : LoadError) : ReadAlike R (.error e) (.error e')

theorem ReadAlike.symm {α : Type} {R : α → α → Prop} (hR : ∀ {a b}, R a b → R b a)
    {first second : Except LoadError α} (h : ReadAlike R first second) : ReadAlike R second first := by
  cases h with
  | ok h => exact .ok (hR h)
  | error e e' => exact .error e' e

theorem ReadAlike.exists_ok {α : Type} {R : α → α → Prop} {first second : Except LoadError α} {a : α}
    (h : ReadAlike R first second) (hfirst : first = .ok a) : ∃ b, second = .ok b ∧ R a b := by
  cases h with
  | ok h =>
    cases hfirst
    exact ⟨_, rfl, h⟩
  | error e e' => cases hfirst

/-! ## Documents -/

namespace Document

/-- Documents of the same kind with the same entries, up to their order. -/
def Reordered : Document → Document → Prop
  | .api a, .api b => a.entries.Perm b.entries
  | .exchange a, .exchange b => a.entries.Perm b.entries
  | _, _ => False

variable {a b : Document}

theorem Reordered.symm (h : Reordered a b) : Reordered b a := by
  cases a <;> cases b
  · exact List.Perm.symm h
  · cases h
  · cases h
  · exact List.Perm.symm h

theorem Reordered.mem_references_iff (h : Reordered a b) (reference : String) :
    reference ∈ a.references ↔ reference ∈ b.references := by
  cases a <;> cases b
  · exact ((List.Perm.flatMap_right ApiEntry.uses h).map Prod.snd).mem_iff
  · cases h
  · cases h
  · exact ((List.Perm.flatMap_right ExchangeEntry.uses h).map Prod.snd).mem_iff

theorem Reordered.small (h : Reordered a b) (hsmall : a.Small) : b.Small := by
  cases a <;> cases b
  · exact Nat.lt_of_le_of_lt (Nat.le_of_eq (List.Perm.length_eq h).symm) hsmall
  · cases h
  · cases h
  · obtain ⟨hlength, hkeys⟩ := hsmall
    refine ⟨Nat.lt_of_le_of_lt (Nat.le_of_eq (List.Perm.length_eq h).symm) hlength, fun entry hentry => ?_⟩
    exact hkeys entry ((List.Perm.mem_iff h).2 hentry)

end Document

/-! ## Libraries -/

/-- Two texts that read alike, as documents of either kind and as schemas. -/
structure TextsReordered (body body' : String) : Prop where
  documents (kind : DocumentKind) (url : String) :
    ReadAlike Document.Reordered (Document.decode kind url body) (Document.decode kind url body')
  schemas (url : String) : ReadAlike SchemaNode.Reordered (SchemaNode.decode url body) (SchemaNode.decode url body')

theorem TextsReordered.symm {body body' : String} (h : TextsReordered body body') : TextsReordered body' body where
  documents kind url := (h.documents kind url).symm .symm
  schemas url := (h.schemas url).symm .symm

namespace Library

/-- The libraries hold texts at the same locations, and the two texts at a location read alike. -/
def Reorders (library other : Library) : Prop :=
  ∀ location, Option.Rel TextsReordered (library.find? location) (other.find? location)

variable {library other : Library}

theorem Reorders.symm (h : library.Reorders other) : other.Reorders library := fun location =>
  rel_symm .symm (h location)

theorem Reorders.exists_find? (h : library.Reorders other) {location body : String}
    (hbody : library.find? location = some body) :
    ∃ body', other.find? location = some body' ∧ TextsReordered body body' :=
  rel_some_left (hbody ▸ h location)

theorem Reorders.exists_reads (h : library.Reorders other) {url : String} {node : SchemaNode}
    (hreads : library.Reads url node) : ∃ node', other.Reads url node' ∧ SchemaNode.Reordered node node' := by
  obtain ⟨body, hbody, hdecode⟩ := hreads
  obtain ⟨body', hbody', htexts⟩ := h.exists_find? hbody
  obtain ⟨node', hdecode', hnodes⟩ := (htexts.schemas url).exists_ok hdecode
  exact ⟨node', ⟨body', hbody', hdecode'⟩, hnodes⟩

theorem Reorders.exists_opens (h : library.Reorders other) {definition : Definition} {document : Document}
    (hopens : library.Opens definition document) :
    ∃ document', other.Opens definition document' ∧ Document.Reordered document document' := by
  obtain ⟨kind, body, hkind, hbody, hdecode⟩ := hopens
  obtain ⟨body', hbody', htexts⟩ := h.exists_find? hbody
  obtain ⟨document', hdecode', hdocuments⟩ := (htexts.documents kind definition.url).exists_ok hdecode
  exact ⟨document', ⟨kind, body', hkind, hbody', hdecode'⟩, hdocuments⟩

theorem Reorders.leadsTo (h : library.Reorders other) {url next : String} (hnext : library.LeadsTo url next) :
    other.LeadsTo url next := by
  obtain ⟨node, reference, absolute, hreads, hreference, hlocal, habsolute, rfl⟩ := hnext
  obtain ⟨node', hreads', hnodes⟩ := h.exists_reads hreads
  exact ⟨node', reference, absolute, hreads', (hnodes.mem_references_iff reference).1 hreference, hlocal, habsolute,
    rfl⟩

theorem Reorders.readable (h : library.Reorders other) {url : String} (hurl : library.Readable url) :
    other.Readable url := by
  obtain ⟨node, hreads, hreferences⟩ := hurl
  obtain ⟨node', hreads', hnodes⟩ := h.exists_reads hreads
  exact ⟨node', hreads', fun reference hreference =>
    hreferences reference ((hnodes.mem_references_iff reference).2 hreference)⟩

variable {definitions definitions' : List Definition}

theorem Reorders.reachable (h : library.Reorders other) (hdefinitions : definitions.Perm definitions') {url : String}
    (hurl : library.Reachable (library.Declares definitions) url) :
    other.Reachable (other.Declares definitions') url := by
  refine hurl.closed (P := other.Reachable (other.Declares definitions')) (fun root hroot => ?_)
    fun current next hcurrent hnext => hcurrent.step (h.leadsTo hnext)
  obtain ⟨definition, hdefinition, document, hopens, reference, hreference, hblank, rfl⟩ := hroot
  obtain ⟨document', hopens', hdocuments⟩ := h.exists_opens hopens
  exact .root ⟨definition, hdefinitions.mem_iff.1 hdefinition, document', hopens', reference,
    (hdocuments.mem_references_iff reference).1 hreference, hblank, rfl⟩

theorem Loadable.reorder {patches : List SchemaPatch} (hload : library.Loadable patches definitions)
    (h : library.Reorders other) (hdefinitions : definitions.Perm definitions') :
    other.Loadable patches definitions' where
  opens definition hdefinition := by
    obtain ⟨document, hopens, hplain⟩ := hload.opens definition (hdefinitions.mem_iff.2 hdefinition)
    obtain ⟨document', hopens', hdocuments⟩ := h.exists_opens hopens
    exact ⟨document', hopens', fun reference hreference =>
      hplain reference ((hdocuments.mem_references_iff reference).2 hreference)⟩
  readable url hurl := h.readable (hload.readable url (h.symm.reachable hdefinitions.symm hurl))
  fits patch hpatch hurl := by
    obtain ⟨node, hreads, hfits⟩ := hload.fits patch hpatch (h.symm.reachable hdefinitions.symm hurl)
    obtain ⟨node', hreads', hnodes⟩ := h.exists_reads hreads
    exact ⟨node', hreads', (SchemaPatch.Fits.congr hnodes.samePaths).1 hfits⟩

theorem Small.reorder (hsmall : library.Small definitions) (h : library.Reorders other)
    (hdefinitions : definitions.Perm definitions') : other.Small definitions' where
  schemas urls hnodup hreachable :=
    hsmall.schemas urls hnodup fun url hurl => h.symm.reachable hdefinitions.symm (hreachable url hurl)
  documents definition hdefinition document hopens := by
    obtain ⟨document', hopens', hdocuments⟩ := h.symm.exists_opens hopens
    exact hdocuments.symm.small (hsmall.documents definition (hdefinitions.mem_iff.2 hdefinition) document' hopens')

end Library

end ApiCatalog
