import ApiCatalog.Proofs.Schema.Paths
import ApiCatalog.Proofs.Schema.Records

/-!
# Revisions of schemas

What happens to a schema after it was fetched: its title, descriptions, types and formats may change, and what is
known about its record. It stays the same schema for those that refer to it: the new record `Revises` the old one,
with the same URL, the same paths, and no references but those that were there.
-/

namespace ApiCatalog

/-! ## Nodes -/

namespace SchemaNode

theorem mem_memberReferences {members : List (String × SchemaNode)} {reference : String} :
    reference ∈ memberReferences members ↔ ∃ member ∈ members, reference ∈ member.2.references := by
  induction members with
  | nil => simp [memberReferences]
  | cons member rest ih =>
    obtain ⟨name, node⟩ := member
    rw [memberReferences, List.mem_append, ih, List.exists_mem_cons_iff]

theorem mem_references {node : SchemaNode} {reference : String} :
    reference ∈ node.references ↔ node.reference = some reference ∨
      (∃ members, node.properties = some members ∧ reference ∈ memberReferences members) ∨
      ∃ child, node.items = some child ∧ reference ∈ child.references := by
  obtain ⟨title, description, type, format, properties, required, items, values, own⟩ := node
  rw [references, List.mem_append, List.mem_append, Option.mem_toList, or_assoc]
  refine or_congr_right (or_congr ?_ ?_)
  · cases properties <;> simp [propertyReferences]
  · cases items <;> simp [itemReferences]

/-- A node that was changed in what is said about it: it leads to the same nodes, and no reference is new. -/
structure Edits (old new : SchemaNode) : Prop where
  references : new.references ⊆ old.references
  paths : SamePaths old new

theorem Edits.refl (node : SchemaNode) : Edits node node := ⟨List.Subset.refl _, .refl node⟩

theorem Edits.trans {a b c : SchemaNode} (hab : Edits a b) (hbc : Edits b c) : Edits a c :=
  ⟨List.Subset.trans hbc.references hab.references, hab.paths.trans hbc.paths⟩

theorem edits_of_eq {old new : SchemaNode} (hreference : new.reference = old.reference)
    (hproperties : new.properties = old.properties) (hitems : new.items = old.items) : Edits old new := by
  refine ⟨fun reference h => ?_, samePaths_of_children (fun name => ?_) ?_⟩
  · rwa [mem_references, hreference, hproperties, hitems, ← mem_references] at h
  · rw [property?, property?, hproperties]
    exact rel_refl .refl _
  · rw [hitems]
    exact rel_refl .refl _

end SchemaNode

/-! ## Records -/

/-- A record that was changed in what is said about its schema. -/
structure SchemaRecord.Revises (old new : SchemaRecord) : Prop where
  sourceUrl : new.sourceUrl = old.sourceUrl
  root : SchemaNode.Edits old.root new.root

theorem SchemaRecord.Revises.refl (record : SchemaRecord) : record.Revises record := ⟨rfl, .refl _⟩

theorem SchemaRecord.Revises.trans {a b c : SchemaRecord} (hab : a.Revises b) (hbc : b.Revises c) : a.Revises c :=
  ⟨hbc.sourceUrl.trans hab.sourceUrl, hab.root.trans hbc.root⟩

/-! ## Caches -/

namespace SchemaCache

def Revises (old new : SchemaCache) : Prop := List.Forall₂ SchemaRecord.Revises old.records new.records

theorem Revises.refl (cache : SchemaCache) : cache.Revises cache :=
  List.forall₂_same.2 fun record _ => .refl record

theorem Revises.trans {a b c : SchemaCache} (hab : a.Revises b) (hbc : b.Revises c) : a.Revises c :=
  forall₂_trans (R := SchemaRecord.Revises) SchemaRecord.Revises.trans hab hbc

theorem Revises.keys_eq {old new : SchemaCache} (h : old.Revises new) : new.keys = old.keys :=
  keys_of_forall₂ SchemaRecord.Revises.sourceUrl h

theorem Revises.contains_eq {old new : SchemaCache} (h : old.Revises new) (url : String) :
    new.contains url = old.contains url := by
  rw [Bool.eq_iff_iff, contains_iff, contains_iff, h.keys_eq]

theorem Revises.size_eq {old new : SchemaCache} (h : old.Revises new) : new.size = old.size :=
  (List.Forall₂.length_eq h).symm

end SchemaCache

end ApiCatalog
