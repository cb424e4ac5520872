import ApiCatalog.Proofs.Schema.Revisions
import Mathlib.Logic.Relation

/-!
# The order of properties

Two schemas are `Reordered` when one comes from the other by permuting the properties of nodes in it, at any depth.
Such schemas have the same references and the same paths, which is all that a load can see of their structure.
-/

namespace ApiCatalog.SchemaNode

/-- The properties of a node, or of one below it, are permuted. The properties of a node have different names. -/
inductive Permutes : SchemaNode → SchemaNode → Prop
  | here {node : SchemaNode} {members members' : List (String × SchemaNode)}
      (hproperties : node.properties = some members) (hnames : (members.map Prod.fst).Nodup)
      (hperm : members.Perm members') : Permutes node { node with properties := some members' }
  | property {node child child' : SchemaNode} {before after : List (String × SchemaNode)} {name : String}
      (hproperties : node.properties = some (before ++ (name, child) :: after)) (below : Permutes child child') :
      Permutes node { node with properties := some (before ++ (name, child') :: after) }
  | items {node child child' : SchemaNode} (hitems : node.items = some child) (below : Permutes child child') :
      Permutes node { node with items := some child' }

/-- Nodes that differ in the order of properties only, at whatever depth. -/
def Reordered (a b : SchemaNode) : Prop := Relation.EqvGen Permutes a b

theorem lookup_iff_mem {members : List (String × SchemaNode)} (hnames : (members.map Prod.fst).Nodup) {name : String}
    {node : SchemaNode} : members.lookup name = some node ↔ (name, node) ∈ members := by
  induction members with
  | nil => simp
  | cons member rest ih =>
    obtain ⟨known, first⟩ := member
    rw [List.map_cons, List.nodup_cons] at hnames
    rw [List.lookup_cons, List.mem_cons, Prod.mk.injEq]
    by_cases hknown : name = known
    · subst hknown
      have hrest : (name, node) ∉ rest := fun hmem =>
        hnames.1 (List.mem_map.2 ⟨(name, node), hmem, rfl⟩)
      simp [hrest, eq_comm]
    · rw [beq_false_of_ne hknown]
      simp [ih hnames.2, hknown]

theorem lookup_perm {members members' : List (String × SchemaNode)} (hnames : (members.map Prod.fst).Nodup)
    (hperm : members.Perm members') (name : String) : members.lookup name = members'.lookup name := by
  have hnames' : (members'.map Prod.fst).Nodup := (hperm.map Prod.fst).nodup_iff.1 hnames
  apply Option.ext
  intro node
  rw [lookup_iff_mem hnames, lookup_iff_mem hnames', hperm.mem_iff]

namespace Permutes
variable {a b : SchemaNode}

theorem mem_references_iff (h : Permutes a b) (reference : String) :
    reference ∈ a.references ↔ reference ∈ b.references := by
  induction h with
  | @here node members members' hproperties hnames hperm =>
    rw [SchemaNode.mem_references, SchemaNode.mem_references]
    refine or_congr_right (or_congr_left ?_)
    simp only [hproperties, Option.some.injEq, exists_eq_left', mem_memberReferences, hperm.mem_iff]
  | @property node child child' before after name hproperties below ih =>
    rw [SchemaNode.mem_references, SchemaNode.mem_references]
    refine or_congr_right (or_congr_left ?_)
    simp only [hproperties, Option.some.injEq, exists_eq_left', mem_memberReferences, List.mem_append, List.mem_cons,
      or_and_right, exists_or, exists_eq_left, ih]
  | @items node child child' hitems below ih =>
    rw [SchemaNode.mem_references, SchemaNode.mem_references]
    refine or_congr_right (or_congr_right ?_)
    simp only [hitems, Option.some.injEq, exists_eq_left', ih]

theorem samePaths (h : Permutes a b) : SamePaths a b := by
  induction h with
  | @here node members members' hproperties hnames hperm =>
    refine samePaths_of_children (fun name => ?_) (rel_refl .refl _)
    simp only [property?, hproperties, Option.bind_some, lookup_perm hnames hperm name]
    exact rel_refl .refl _
  | @property node child child' before after name hproperties below ih =>
    refine samePaths_of_children (fun other => ?_) (rel_refl .refl _)
    simp only [property?, hproperties, Option.bind_some, List.lookup_append, List.lookup_cons]
    rcases before.lookup other with - | found
    · cases other == name with
      | true => exact .some ih
      | false => exact rel_refl .refl _
    · exact rel_refl .refl _
  | @items node child child' hitems below ih =>
    refine samePaths_of_children (fun other => rel_refl .refl _) ?_
    rw [hitems]
    exact .some ih

end Permutes

namespace Reordered
variable {a b : SchemaNode}

theorem symm (h : Reordered a b) : Reordered b a := Relation.EqvGen.symm _ _ h

theorem mem_references_iff (h : Reordered a b) (reference : String) :
    reference ∈ a.references ↔ reference ∈ b.references := by
  induction h with
  | rel a b hstep => exact hstep.mem_references_iff reference
  | refl a => rfl
  | symm a b _ ih => exact ih.symm
  | trans a b c _ _ ih ih' => exact ih.trans ih'

theorem samePaths (h : Reordered a b) : SamePaths a b := by
  induction h with
  | rel a b hstep => exact hstep.samePaths
  | refl a => exact .refl a
  | symm a b _ ih => exact ih.symm
  | trans a b c _ _ ih ih' => exact ih.trans ih'

end Reordered

end ApiCatalog.SchemaNode
