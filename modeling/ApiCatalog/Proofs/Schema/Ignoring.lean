import ApiCatalog.Proofs.Related
import ApiCatalog.Proofs.Schema.RoundTrip
import Mathlib.Logic.Relation

/-!
# What is read of a schema

A schema is read from nine members of its objects. All others are skipped, in whatever order the members stand, so a text
may be edited without another schema being read: a member with another key may be inserted into a node, and the members of
a node may be reordered, at any depth (`Edit`). Nodes stand as the items of a node and under the names of its properties;
the names themselves are never skipped, and neither is their order.

One edit changes at most the order in which the members of a record were seen (`Alike`). What a node is made of depends on
neither that order nor the reading of the nodes below it but for the nodes that they are (`conform_edit`). So a text and
its edited version are read as the same node, or neither is read (`decode_iff_of_edits`).
-/

namespace ApiCatalog
open Json (Tree Glyph textMeant withKey conformMember conformEntry complete putMember)

namespace SchemaNode

/-! ## Edits -/

def readKeys : List String :=
  ["title", "description", "type", "format", "properties", "required", "items", "enum", "$ref"]

/-- One edit of a node, or of a node below it. -/
inductive Edit : Tree → Tree → Prop
  /-- A member that is not read is inserted. -/
  | insert {before after : List (List Glyph × Tree)} {glyphs : List Glyph} {key : String} (value : Tree)
      (hkey : Json.textMeant glyphs = some key) (hunread : key ∉ readKeys) :
      Edit (.object (before ++ after)) (.object (before ++ (glyphs, value) :: after))
  /-- The members are reordered. -/
  | reorder {members members' : List (List Glyph × Tree)} (h : members.Perm members') :
      Edit (.object members) (.object members')
  /-- The items are edited. -/
  | items {before after : List (List Glyph × Tree)} {glyphs : List Glyph} {node node' : Tree}
      (hkey : Json.textMeant glyphs = some "items") (h : Edit node node') :
      Edit (.object (before ++ (glyphs, node) :: after)) (.object (before ++ (glyphs, node') :: after))
  /-- A property is edited. -/
  | property {before after first last : List (List Glyph × Tree)} {glyphs name : List Glyph} {node node' : Tree}
      (hkey : Json.textMeant glyphs = some "properties") (h : Edit node node') :
      Edit (.object (before ++ (glyphs, .object (first ++ (name, node) :: last)) :: after))
        (.object (before ++ (glyphs, .object (first ++ (name, node') :: last)) :: after))

theorem Edit.exists_members {tree tree' : Tree} (h : Edit tree tree') :
    ∃ members members', tree = .object members ∧ tree' = .object members' := by
  cases h <;> exact ⟨_, _, rfl, rfl⟩

theorem find?_of_unread {key : String} (h : key ∉ readKeys) : (schemaLayout .node).find? key = none := by
  refine List.find?_eq_none.2 fun member hmember heq => h ?_
  rw [← eq_of_beq heq]
  exact List.mem_map_of_mem (f := Json.Member.key) hmember

theorem mem_readKeys_of_find? {key : String} {known : Json.Member SchemaRecordName}
    (h : (schemaLayout .node).find? key = some known) : key ∈ readKeys := by
  have hkey := List.find?_some (p := fun member : Json.Member SchemaRecordName => member.key == key) h
  rw [← eq_of_beq hkey]
  exact List.mem_map_of_mem (f := Json.Member.key) (List.mem_of_find?_eq_some h)

/-! ## The members that were seen -/

/-- Members with the same keys that make the same node. -/
structure Alike (seen seen' : List (String × Json)) : Prop where
  keys : ∀ key, seen.any (·.1 == key) = seen'.any (·.1 == key)
  node : ∀ node, withMembers seen node = withMembers seen' node

theorem Alike.refl (seen : List (String × Json)) : Alike seen seen := ⟨fun _ => rfl, fun _ => rfl⟩

theorem Alike.trans {a b c : List (String × Json)} (hab : Alike a b) (hbc : Alike b c) : Alike a c :=
  ⟨fun key => (hab.keys key).trans (hbc.keys key), fun node => (hab.node node).trans (hbc.node node)⟩

def SameField (key : String) (value value' : Json) : Prop :=
  ∀ node, withMembers [(key, value)] node = withMembers [(key, value')] node

theorem Alike.append {seen seen' : List (String × Json)} (h : Alike seen seen') {key : String} {value value' : Json}
    (hvalue : SameField key value value') : Alike (seen ++ [(key, value)]) (seen' ++ [(key, value')]) := by
  refine ⟨fun other => ?_, fun node => ?_⟩
  · rw [List.any_append, List.any_append, h.keys other]
    rfl
  · rw [withMembers_append, withMembers_append, h.node, hvalue]

theorem withMembers_swap {key key' : String} (hkey : key ∈ readKeys) (hkey' : key' ∈ readKeys) (hne : key ≠ key')
    (value value' : Json) (node : SchemaNode) :
    withMembers [(key, value), (key', value')] node = withMembers [(key', value'), (key, value)] node := by
  simp only [readKeys, List.mem_cons, List.not_mem_nil, or_false] at hkey hkey'
  rcases hkey with rfl | rfl | rfl | rfl | rfl | rfl | rfl | rfl | rfl <;>
    rcases hkey' with rfl | rfl | rfl | rfl | rfl | rfl | rfl | rfl | rfl <;> first | exact absurd rfl hne | rfl

theorem Alike.swap {key key' : String} (hkey : key ∈ readKeys) (hkey' : key' ∈ readKeys) (hne : key ≠ key')
    (value value' : Json) (seen : List (String × Json)) :
    Alike (seen ++ [(key, value)] ++ [(key', value')]) (seen ++ [(key', value')] ++ [(key, value)]) := by
  rw [List.append_assoc, List.append_assoc]
  refine ⟨fun other => ?_, fun node => ?_⟩
  · rw [List.any_append, List.any_append, List.any_append, List.any_append, Bool.or_comm (List.any [(key, value)] _)]
  · rw [withMembers_append seen, withMembers_append seen]
    exact withMembers_swap hkey hkey' hne value value' _

/-! ## One member of a node -/

def memberValue (depth : Nat) (member : Json.Member SchemaRecordName) : Tree → Option Json :=
  Tree.conformAs member.nullable (Tree.conform schemaLayout depth member.shape)

/-- Reads one member of a node, after those that were seen. -/
def nodeStep (depth : Nat) : List (String × Json) → List Glyph × Tree → Option (List (String × Json)) :=
  withKey (conformMember (schemaLayout .node) (memberValue depth))

theorem nodeStep_unread {glyphs : List Glyph} {key : String} (hkey : Json.textMeant glyphs = some key)
    (hunread : key ∉ readKeys) (depth : Nat) (value : Tree) (seen : List (String × Json)) :
    nodeStep depth seen (glyphs, value) = some seen := by
  rw [nodeStep, withKey, hkey, Option.bind_some, conformMember, find?_of_unread hunread]

theorem nodeStep_read {glyphs : List Glyph} {key : String} {known : Json.Member SchemaRecordName}
    (hkey : Json.textMeant glyphs = some key) (hknown : (schemaLayout .node).find? key = some known) (depth : Nat)
    (value : Tree) (seen : List (String × Json)) :
    nodeStep depth seen (glyphs, value) =
      if seen.any (·.1 == key) then none else (memberValue depth known value).map fun json => seen ++ [(key, json)] := by
  rw [nodeStep, withKey, hkey, Option.bind_some, conformMember, hknown]

/-- A member fails, or is skipped, or is seen unless its key was seen before. -/
theorem nodeStep_cases (depth : Nat) (member : List Glyph × Tree) :
    (∀ seen, nodeStep depth seen member = none) ∨ (∀ seen, nodeStep depth seen member = some seen) ∨
      ∃ key ∈ readKeys, ∃ json, ∀ seen,
        nodeStep depth seen member = if seen.any (·.1 == key) then none else some (seen ++ [(key, json)]) := by
  obtain ⟨glyphs, value⟩ := member
  cases hkey : Json.textMeant glyphs with
  | none =>
    refine .inl fun seen => ?_
    rw [nodeStep, withKey, hkey, Option.bind_none]
  | some key =>
    cases hknown : (schemaLayout .node).find? key with
    | none =>
      refine .inr (.inl fun seen => ?_)
      rw [nodeStep, withKey, hkey, Option.bind_some, conformMember, hknown]
    | some known =>
      cases hvalue : memberValue depth known value with
      | none =>
        refine .inl fun seen => ?_
        rw [nodeStep_read hkey hknown, hvalue, Option.map_none, ite_self]
      | some json =>
        refine .inr (.inr ⟨key, mem_readKeys_of_find? hknown, json, fun seen => ?_⟩)
        rw [nodeStep_read hkey hknown, hvalue, Option.map_some]

theorem rel_nodeStep (depth : Nat) (member : List Glyph × Tree) {seen seen' : List (String × Json)} (h : Alike seen seen') :
    Option.Rel Alike (nodeStep depth seen member) (nodeStep depth seen' member) := by
  rcases nodeStep_cases depth member with hfails | hskips | ⟨key, -, json, hseen⟩
  · rw [hfails, hfails]
    exact .none
  · rw [hskips, hskips]
    exact .some h
  · rw [hseen, hseen, h.keys key]
    split
    · exact .none
    · exact .some (h.append fun _ => rfl)

theorem memberValue_object (depth : Nat) (known : Json.Member SchemaRecordName) (members : List (List Glyph × Tree)) :
    memberValue depth known (.object members) = (Tree.object members).conform schemaLayout depth known.shape := by
  unfold memberValue Tree.conformAs
  split <;> rfl

theorem rel_nodeStep_object {depth : Nat} {glyphs : List Glyph} {key : String} {known : Json.Member SchemaRecordName}
    (hkey : Json.textMeant glyphs = some key) (hknown : (schemaLayout .node).find? key = some known)
    {members members' : List (List Glyph × Tree)}
    (hvalue : Option.Rel (SameField key) ((Tree.object members).conform schemaLayout depth known.shape)
      ((Tree.object members').conform schemaLayout depth known.shape))
    {seen seen' : List (String × Json)} (h : Alike seen seen') :
    Option.Rel Alike (nodeStep depth seen (glyphs, .object members)) (nodeStep depth seen' (glyphs, .object members')) := by
  rw [nodeStep_read hkey hknown, nodeStep_read hkey hknown, h.keys key, memberValue_object, memberValue_object]
  split
  · exact .none
  · exact rel_map hvalue h.append

theorem rel_nodeStep_swap (depth : Nat) (member member' : List Glyph × Tree) (seen : List (String × Json)) :
    Option.Rel Alike ((nodeStep depth seen member).bind (nodeStep depth · member'))
      ((nodeStep depth seen member').bind (nodeStep depth · member)) := by
  rcases nodeStep_cases depth member with hfails | hskips | ⟨key, hkey, json, hseen⟩
  · simp only [hfails, Option.bind_none, Option.bind_fun_none]
    exact .none
  · simp only [hskips, Option.bind_some, Option.bind_fun_some]
    exact rel_refl Alike.refl _
  rcases nodeStep_cases depth member' with hfails' | hskips' | ⟨key', hkey', json', hseen'⟩
  · simp only [hfails', Option.bind_none, Option.bind_fun_none]
    exact .none
  · simp only [hskips', Option.bind_some, Option.bind_fun_some]
    exact rel_refl Alike.refl _
  -- both are seen, unless they have one key or a key that was seen before
  have hbind (p : Bool) (first : List (String × Json)) (key : String) (json : Json) :
      (if p = true then none else some first).bind (fun seen : List (String × Json) =>
        if seen.any (·.1 == key) = true then none else some (seen ++ [(key, json)])) =
      if (p || first.any (·.1 == key)) = true then none else some (first ++ [(key, json)]) := by
    cases p <;> rfl
  have hsame : (seen.any (·.1 == key) || (seen ++ [(key, json)]).any (·.1 == key')) =
      (seen.any (·.1 == key') || (seen ++ [(key', json')]).any (·.1 == key)) := by
    rw [List.any_append, List.any_append, ← Bool.or_assoc, ← Bool.or_assoc, Bool.or_comm (seen.any _)]
    simp only [List.any_cons, List.any_nil, BEq.comm (a := key)]
  simp only [hseen, hseen', hbind, hsame]
  split
  · exact .none
  · next hnew =>
    have hne : key ≠ key' := by
      rintro rfl
      simp at hnew
    exact .some (Alike.swap hkey hkey' hne json json' seen)

/-! ## Nodes -/

def SameNode (json json' : Json) : Prop :=
  ∃ seen seen', json = .object seen ∧ json' = .object seen' ∧ Alike seen seen'

theorem SameNode.ofJson_eq {json json' : Json} (h : SameNode json json') : ofJson json = ofJson json' := by
  obtain ⟨seen, seen', rfl, rfl, halike⟩ := h
  rw [ofJson, ofJson, halike.node]

theorem SameNode.sameField {json json' : Json} (h : SameNode json json') : SameField "items" json json' := by
  obtain ⟨seen, seen', rfl, rfl, halike⟩ := h
  intro node
  have hitems : itemsOfJson (.object seen) = itemsOfJson (.object seen') := by
    rw [itemsOfJson, itemsOfJson, halike.node]
  show { node with items := itemsOfJson (.object seen) } = { node with items := itemsOfJson (.object seen') }
  rw [hitems]

theorem conform_node (depth : Nat) (members : List (List Glyph × Tree)) :
    (Tree.object members).conform schemaLayout (depth + 1) (.record .node) =
      (members.foldlM (nodeStep depth) []).map Json.object := by
  rw [Tree.conform]
  show Option.bind (members.foldlM (nodeStep depth) []) (complete (schemaLayout .node)) = _
  cases members.foldlM (nodeStep depth) [] with
  | none => rfl
  | some seen => rfl

theorem rel_conform_node {depth : Nat} {members members' : List (List Glyph × Tree)}
    (h : Option.Rel Alike (members.foldlM (nodeStep depth) []) (members'.foldlM (nodeStep depth) [])) :
    Option.Rel SameNode ((Tree.object members).conform schemaLayout (depth + 1) (.record .node))
      ((Tree.object members').conform schemaLayout (depth + 1) (.record .node)) := by
  rw [conform_node, conform_node]
  exact rel_map h fun halike => ⟨_, _, rfl, rfl, halike⟩

/-! ## Properties -/

/-- The properties that were read make the same nodes, under the same names. -/
def SameProperties (seen seen' : List (String × Json)) : Prop := ofMembers seen = ofMembers seen'

theorem ofMembers_eq (members : List (String × Json)) :
    ofMembers members = members.map fun member => (member.1, ofJson member.2) := by
  induction members with
  | nil => rw [ofMembers, List.map_nil]
  | cons member members ih =>
    obtain ⟨name, value⟩ := member
    rw [ofMembers, ih, List.map_cons]

theorem ofMembers_putMember (members : List (String × Json)) (name : String) (value : Json) :
    ofMembers (putMember members name value) =
      if (ofMembers members).any (·.1 == name) then
        (ofMembers members).map fun property => if property.1 == name then (name, ofJson value) else property
      else ofMembers members ++ [(name, ofJson value)] := by
  have hany : (ofMembers members).any (·.1 == name) = members.any (·.1 == name) := by
    rw [ofMembers_eq, List.any_map]
    rfl
  rw [hany, putMember]
  split
  · rw [ofMembers_eq, ofMembers_eq, List.map_map, List.map_map]
    refine List.map_congr_left fun member _ => ?_
    rw [Function.comp_apply, Function.comp_apply]
    dsimp only
    split <;> rfl
  · rw [ofMembers_eq, ofMembers_eq, List.map_append]
    rfl

def propertyStep (depth : Nat) : List (String × Json) → List Glyph × Tree → Option (List (String × Json)) :=
  withKey (conformEntry (Tree.conform schemaLayout depth (.record .node)))

theorem rel_propertyStep {depth : Nat} (name : List Glyph) {node node' : Tree}
    (hnode : Option.Rel (fun json json' => ofJson json = ofJson json') (node.conform schemaLayout depth (.record .node))
      (node'.conform schemaLayout depth (.record .node))) {seen seen' : List (String × Json)}
    (h : SameProperties seen seen') :
    Option.Rel SameProperties (propertyStep depth seen (name, node)) (propertyStep depth seen' (name, node')) := by
  rw [propertyStep, withKey, withKey]
  cases Json.textMeant name with
  | none => exact .none
  | some name =>
    refine rel_map hnode fun hjson => ?_
    unfold SameProperties at h ⊢
    rw [ofMembers_putMember, ofMembers_putMember, h, hjson]

theorem conform_properties (depth : Nat) (members : List (List Glyph × Tree)) :
    (Tree.object members).conform schemaLayout (depth + 1) (.map (.record .node)) =
      (members.foldlM (propertyStep depth) []).map Json.object := by
  rw [Tree.conform]
  rfl

theorem SameProperties.sameField {seen seen' : List (String × Json)} (h : SameProperties seen seen') :
    SameField "properties" (.object seen) (.object seen') := by
  intro node
  have hproperties : propertiesOfJson (.object seen) = propertiesOfJson (.object seen') := by
    rw [propertiesOfJson, propertiesOfJson, h]
  show { node with properties := propertiesOfJson (.object seen) } =
    { node with properties := propertiesOfJson (.object seen') }
  rw [hproperties]

theorem rel_conform_properties (depth : Nat) (first last : List (List Glyph × Tree)) (name : List Glyph) {node node' : Tree}
    (hnode : ∀ depth, Option.Rel SameNode (node.conform schemaLayout depth (.record .node))
      (node'.conform schemaLayout depth (.record .node))) :
    Option.Rel (SameField "properties")
      ((Tree.object (first ++ (name, node) :: last)).conform schemaLayout depth (.map (.record .node)))
      ((Tree.object (first ++ (name, node') :: last)).conform schemaLayout depth (.map (.record .node))) := by
  cases depth with
  | zero => exact .none
  | succ depth =>
    have hsame := rel_mono SameNode.ofJson_eq (hnode depth)
    have hother (property : List Glyph × Tree) {seen seen' : List (String × Json)} (h : SameProperties seen seen') :
        Option.Rel SameProperties (propertyStep depth seen property) (propertyStep depth seen' property) :=
      rel_propertyStep property.1 (rel_refl (R := fun json json' => ofJson json = ofJson json') (fun _ => rfl) _) h
    rw [conform_properties, conform_properties]
    exact rel_map (rel_foldlM_replaced hother first last (rel_propertyStep name hsame) (rfl : SameProperties [] []))
      SameProperties.sameField

/-! ## Edited nodes -/

theorem foldlM_inserted {glyphs : List Glyph} {key : String} (hkey : Json.textMeant glyphs = some key)
    (hunread : key ∉ readKeys) (depth : Nat) (value : Tree) (before after : List (List Glyph × Tree))
    (seen : List (String × Json)) :
    (before ++ (glyphs, value) :: after).foldlM (nodeStep depth) seen = (before ++ after).foldlM (nodeStep depth) seen := by
  rw [List.foldlM_append, List.foldlM_append]
  congr 1
  funext seen
  rw [List.foldlM_cons, nodeStep_unread hkey hunread]
  rfl

/-- **An edit leaves the node what it is**, at any depth, and makes it neither readable nor unreadable. -/
theorem conform_edit {tree tree' : Tree} (h : Edit tree tree') (depth : Nat) :
    Option.Rel SameNode (tree.conform schemaLayout depth (.record .node))
      (tree'.conform schemaLayout depth (.record .node)) := by
  induction h generalizing depth with
  | @insert before after glyphs key value hkey hunread =>
    cases depth with
    | zero => exact .none
    | succ depth =>
      refine rel_conform_node ?_
      rw [foldlM_inserted hkey hunread]
      exact rel_refl Alike.refl _
  | reorder hperm =>
    cases depth with
    | zero => exact .none
    | succ depth =>
      exact rel_conform_node (rel_foldlM_perm (rel_nodeStep depth) Alike.refl Alike.trans
        (rel_nodeStep_swap depth) hperm [])
  | @items before after glyphs node node' hkey hnode ih =>
    cases depth with
    | zero => exact .none
    | succ depth =>
      have hknown : (schemaLayout .node).find? "items" =
          some { key := "items", shape := .record .node, nullable := true } := rfl
      have hfield := rel_mono SameNode.sameField (ih depth)
      obtain ⟨members, members', rfl, rfl⟩ := hnode.exists_members
      exact rel_conform_node (rel_foldlM_replaced (rel_nodeStep depth) before after
        (rel_nodeStep_object hkey hknown hfield) (Alike.refl []))
  | @property before after first last glyphs name node node' hkey hnode ih =>
    cases depth with
    | zero => exact .none
    | succ depth =>
      have hknown : (schemaLayout .node).find? "properties" =
          some { key := "properties", shape := .map (.record .node), nullable := true } := rfl
      have hfield := rel_conform_properties depth first last name ih
      exact rel_conform_node (rel_foldlM_replaced (rel_nodeStep depth) before after
        (rel_nodeStep_object hkey hknown hfield) (Alike.refl []))

theorem decode_isWritten {tree : Tree} {text : String} (h : tree.IsWritten text) (url : String) (node : SchemaNode) :
    decode url text = .ok node ↔
      (tree.conform schemaLayout Json.depthLimit (.record .node)).map ofJson = some node := by
  have hread (json : Json) : Json.read schemaLayout (.record .node) text = .ok json ↔
      tree.conform schemaLayout Json.depthLimit (.record .node) = some json := Json.read_isWritten schemaLayout h
  unfold decode
  rw [Option.map_eq_some_iff]
  simp only [← hread]
  cases Json.read schemaLayout (.record .node) text with
  | ok json => simp
  | error message => simp

/-- **Schemas are read as the same node** before and after any number of edits, however the texts space their tokens. -/
theorem decode_iff_of_edits {before after : Tree} (hedits : Relation.ReflTransGen Edit before after) {text text' : String}
    (htext : before.IsWritten text) (htext' : after.IsWritten text') (url : String) (node : SchemaNode) :
    decode url text = .ok node ↔ decode url text' = .ok node := by
  rw [decode_isWritten htext, decode_isWritten htext']
  clear htext htext'
  induction hedits with
  | refl => exact Iff.rfl
  | tail _ hedit ih =>
    rw [ih, map_eq_of_rel (conform_edit hedit Json.depthLimit) SameNode.ofJson_eq]

def order : Json :=
  .object
    [("title", .text "Order"), ("properties", .object [("note", .object [])]),
     ("items", .object [("$ref", .text "tag.json#")])]

/-- The schema with a member inserted into its property, one into its items, and its own members reordered. -/
def editedOrder : Json :=
  .object
    [("items", .object [("required ", .null), ("$ref", .text "tag.json#")]), ("title", .text "Order"),
     ("properties", .object [("note", .object [("examples", .list [.object [("title", .bool true)]])])])]

theorem order_decode_iff :
    (Relation.ReflTransGen Edit (.ofJson order) (.ofJson editedOrder) ∧ (Tree.ofJson order).IsWritten order.compact ∧
      (Tree.ofJson editedOrder).IsWritten (String.ofList ('\n' :: editedOrder.render))) ∧
    decode "order.json" (String.ofList ('\n' :: editedOrder.render)) =
      .ok { title := some "Order", properties := some [("note", {})], items := some { reference := some "tag.json#" } } := by
  have htext : (Tree.ofJson order).IsWritten order.compact := Json.isWritten_compact order
  have htext' : (Tree.ofJson editedOrder).IsWritten (String.ofList ('\n' :: editedOrder.render)) := by
    have hspells := Json.spells_render editedOrder []
    rw [List.append_nil] at hspells
    rw [Tree.IsWritten, String.toList_ofList]
    exact ⟨[], ⟨_, .space rfl .none, hspells⟩, .none⟩
  have hedits : Relation.ReflTransGen Edit (.ofJson order) (.ofJson editedOrder) := by
    let title := (Json.glyphsOf "title", Tree.text (Json.glyphsOf "Order"))
    let items := (Json.glyphsOf "items", Tree.object [(Json.glyphsOf "$ref", .text (Json.glyphsOf "tag.json#"))])
    have hnote := @Edit.insert [] [] (Json.glyphsOf "examples") "examples"
      (.list [.object [(Json.glyphsOf "title", .bool true)]]) (Json.textMeant_glyphsOf _) (by decide)
    have hproperty := @Edit.property [title] [items] [] [] (Json.glyphsOf "properties") (Json.glyphsOf "note") _ _
      (Json.textMeant_glyphsOf _) hnote
    have htag := @Edit.insert [] [(Json.glyphsOf "$ref", .text (Json.glyphsOf "tag.json#"))] (Json.glyphsOf "required ")
      "required " .null (Json.textMeant_glyphsOf _) (by decide)
    have hitems := @Edit.items [title, (Json.glyphsOf "properties", .object [(Json.glyphsOf "note", .object
      [(Json.glyphsOf "examples", .list [.object [(Json.glyphsOf "title", .bool true)]])])])] [] (Json.glyphsOf "items") _ _
      (Json.textMeant_glyphsOf _) htag
    exact .tail (.tail (.single hproperty) hitems) (.reorder List.perm_append_comm)
  have hread : decode "order.json" order.compact =
      .ok { title := some "Order", properties := some [("note", {})], items := some { reference := some "tag.json#" } } := by
    rw [decode_isWritten htext, Json.conform_ofJson]
    rfl
  exact ⟨⟨hedits, htext, htext'⟩, (decode_iff_of_edits hedits htext htext' "order.json" _).1 hread⟩

end SchemaNode

end ApiCatalog
