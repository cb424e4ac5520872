import ApiCatalog.Proofs.Related
import ApiCatalog.Proofs.Schema.Visiting

/-!
# Paths into a schema

Which nodes there are below a node, said without changing any of them: `HasPath` follows the steps of a path
through properties and items. A node has the same paths as another when what is behind each first step has
(`samePaths_of_children`), so neither the references of the nodes nor their titles, types and formats matter. In
particular, a schema has the same paths before and after its references are replaced (`samePaths_mapReferences`).
-/

namespace ApiCatalog

namespace SchemaNode

/-! ## Paths -/

/-- The first property with a name. -/
def property? (node : SchemaNode) (name : String) : Option SchemaNode :=
  node.properties.bind (·.lookup name)

/-- The steps of a path lead from a node to one below it: `properties` and a name to a property, `items` to the
items. -/
inductive HasPath : List String → SchemaNode → Prop
  | here (node : SchemaNode) : HasPath [] node
  | property {node child : SchemaNode} {name : String} {rest : List String}
      (found : node.property? name = some child) (below : HasPath rest child) :
      HasPath ("properties" :: name :: rest) node
  | items {node child : SchemaNode} {rest : List String} (found : node.items = some child)
      (below : HasPath rest child) : HasPath ("items" :: rest) node

/-! ## Nodes with the same paths -/

def SamePaths (a b : SchemaNode) : Prop := ∀ path, HasPath path a ↔ HasPath path b

theorem SamePaths.refl (node : SchemaNode) : SamePaths node node := fun _ => Iff.rfl

theorem SamePaths.symm {a b : SchemaNode} (h : SamePaths a b) : SamePaths b a := fun path => (h path).symm

theorem SamePaths.trans {a b c : SchemaNode} (hab : SamePaths a b) (hbc : SamePaths b c) : SamePaths a c :=
  fun path => (hab path).trans (hbc path)

theorem HasPath.of_children {a b : SchemaNode} {path : List String} (h : HasPath path a)
    (hproperties : ∀ name, Option.Rel SamePaths (a.property? name) (b.property? name))
    (hitems : Option.Rel SamePaths a.items b.items) : HasPath path b := by
  cases h with
  | here => exact .here b
  | @property _ child name rest found below =>
    obtain ⟨child', hfound, hsame⟩ := rel_some_left (found ▸ hproperties name)
    exact .property hfound ((hsame rest).1 below)
  | @items _ child rest found below =>
    obtain ⟨child', hfound, hsame⟩ := rel_some_left (found ▸ hitems)
    exact .items hfound ((hsame rest).1 below)

theorem samePaths_of_children {a b : SchemaNode}
    (hproperties : ∀ name, Option.Rel SamePaths (a.property? name) (b.property? name))
    (hitems : Option.Rel SamePaths a.items b.items) : SamePaths a b := by
  intro path
  constructor
  · intro h
    exact h.of_children hproperties hitems
  · intro h
    exact h.of_children (fun name => rel_symm .symm (hproperties name)) (rel_symm .symm hitems)

/-! ## References do not matter -/

section Relinking
variable {R : String → String → Prop} {a b : SchemaNode} {path : List String}

theorem lookup_of_relinked {members members' : List (String × SchemaNode)}
    (hnames : members'.map Prod.fst = members.map Prod.fst)
    (h : List.Forall₂ (fun a b => Relinked R a.2 b.2) members members') (name : String) :
    Option.Rel (Relinked R) (members.lookup name) (members'.lookup name) := by
  induction h with
  | nil => exact .none
  | @cons member member' rest rest' hnode _ ih =>
    rw [List.map_cons, List.map_cons, List.cons.injEq] at hnames
    obtain ⟨known, node⟩ := member
    obtain ⟨known', node'⟩ := member'
    obtain ⟨hknown, hrest⟩ := hnames
    obtain rfl : known' = known := hknown
    rw [List.lookup_cons, List.lookup_cons]
    cases name == known' with
    | true => exact .some hnode
    | false => exact ih hrest

namespace Relinked

theorem property? (h : Relinked R a b) (name : String) :
    Option.Rel (Relinked R) (a.property? name) (b.property? name) := by
  obtain ⟨-, -, hnames, hproperties, -⟩ := h
  unfold SchemaNode.property?
  revert hnames hproperties
  generalize a.properties = properties, b.properties = properties'
  rintro hnames (⟨hmembers⟩ | _)
  · exact lookup_of_relinked (Option.some.inj hnames) hmembers name
  · exact .none

theorem items (h : Relinked R a b) : Option.Rel (Relinked R) a.items b.items := by
  obtain ⟨-, -, -, -, hitems⟩ := h
  exact hitems

theorem hasPath (h : Relinked R a b) (hpath : HasPath path a) : HasPath path b := by
  induction hpath generalizing b with
  | here => exact .here b
  | @property _ child name rest found _ ih =>
    obtain ⟨child', hfound, hchild⟩ := rel_some_left (found ▸ h.property? name)
    exact .property hfound (ih hchild)
  | @items _ child rest found _ ih =>
    obtain ⟨child', hfound, hchild⟩ := rel_some_left (found ▸ h.items)
    exact .items hfound (ih hchild)

theorem hasPath_before (h : Relinked R a b) (hpath : HasPath path b) : HasPath path a := by
  induction hpath generalizing a with
  | here => exact .here a
  | @property _ child name rest found _ ih =>
    obtain ⟨child', hfound, hchild⟩ := rel_some_right (found ▸ h.property? name)
    exact .property hfound (ih hchild)
  | @items _ child rest found _ ih =>
    obtain ⟨child', hfound, hchild⟩ := rel_some_right (found ▸ h.items)
    exact .items hfound (ih hchild)

end Relinked

theorem samePaths_mapReferences {σ ε : Type} (f : String → StateT σ (Except ε) String) (node : SchemaNode)
    {root : SchemaNode} {s t : σ} (h : (node.mapReferences f).run s = .ok (root, t)) : SamePaths node root := by
  have hrelinked : Relinked (fun _ _ => True) node root := relinked_mapReferences (fun _ => trivial) node h
  exact fun path => ⟨hrelinked.hasPath, hrelinked.hasPath_before⟩

end Relinking

end SchemaNode

end ApiCatalog
