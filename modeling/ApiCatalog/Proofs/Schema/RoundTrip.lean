import ApiCatalog.Proofs.Json.Printing
import ApiCatalog.Schema.Wire

/-!
# Schemas are read back as they were written

What is absent from a node is not written, and what is not written reads as absent: a node comes back from its members
whatever it holds (`SchemaNode.ofJson_toJson`). Its text is another matter, since a number may be read as another one, a
second entry with a key replaces the first, and depth is limited. For a node without such values
(`SchemaNode.Exact`) that nests less than the limit, the members that are read are those that were written
(`SchemaNode.conforms_of_exact`), and so the node is read back from its text (`SchemaNode.decode_compact_of_exact`).
-/

namespace ApiCatalog

namespace SchemaNode

/-! ## From the members back to the node -/

theorem withMembers_append (members more : List (String × Json)) (node : SchemaNode) :
    withMembers (members ++ more) node = withMembers more (withMembers members node) := by
  induction members generalizing node with
  | nil => rw [List.nil_append, withMembers]
  | cons member members ih =>
    obtain ⟨key, value⟩ := member
    rw [List.cons_append, withMembers, withMembers, ih]

theorem ofJson?_toJson (type : SchemaType) : SchemaType.ofJson? type.toJson = some type := by
  cases type with
  | single name => rfl
  | choice names =>
    rw [SchemaType.toJson, SchemaType.ofJson?, Json.texts?_ofTexts]
    rfl

theorem itemsOfJson_toJson (node : SchemaNode) : itemsOfJson node.toJson = some (ofJson node.toJson) := by
  cases node
  rw [toJson, itemsOfJson, ofJson]

mutual

theorem ofJson_toJson : ∀ node : SchemaNode, ofJson node.toJson = node
  | { title, description, type, format, properties, required, items, values, reference } => by
    have htitle : withMembers (optionalMember "title" (title.map .text)) {} = { title } := by
      cases title <;> rfl
    have hdescription : withMembers (optionalMember "description" (description.map .text)) { title } =
        { title, description } := by
      cases description <;> rfl
    have htype : withMembers (optionalMember "type" (type.map SchemaType.toJson)) { title, description } =
        { title, description, type } := by
      cases type with
      | none => rfl
      | some type =>
        show ({ title, description, type := SchemaType.ofJson? type.toJson } : SchemaNode) = _
        rw [ofJson?_toJson]
    have hformat : withMembers (optionalMember "format" (format.map .text)) { title, description, type } =
        { title, description, type, format } := by
      cases format <;> rfl
    have hproperties : withMembers (optionalMember "properties" (propertiesToJson properties))
        { title, description, type, format } = { title, description, type, format, properties } := by
      cases properties with
      | none => rfl
      | some properties =>
        show ({ title, description, type, format, properties := some (ofMembers (toMembers properties)) } : SchemaNode) = _
        rw [ofMembers_toMembers properties]
    have hrequired : withMembers (if required.isEmpty then [] else [("required", .ofTexts required)])
        { title, description, type, format, properties } =
        { title, description, type, format, properties, required } := by
      cases required with
      | nil => rfl
      | cons name names =>
        exact congrArg (fun required => ({ title, description, type, format, properties, required } : SchemaNode))
          (Json.filterMap_ofTexts (name :: names))
    have hitems : withMembers (optionalMember "items" (itemsToJson items))
        { title, description, type, format, properties, required } =
        { title, description, type, format, properties, required, items } := by
      cases items with
      | none => rfl
      | some node =>
        show ({ title, description, type, format, properties, required, items := itemsOfJson node.toJson } : SchemaNode) = _
        rw [itemsOfJson_toJson, ofJson_toJson node]
    have hvalues : withMembers (optionalMember "enum" (values.map .list))
        { title, description, type, format, properties, required, items } =
        { title, description, type, format, properties, required, items, values } := by
      cases values <;> rfl
    have hreference : withMembers (optionalMember "$ref" (reference.map .text))
        { title, description, type, format, properties, required, items, values } =
        { title, description, type, format, properties, required, items, values, reference } := by
      cases reference <;> rfl
    rw [toJson, ofJson]
    simp only [withMembers_append, htitle, hdescription, htype, hformat, hproperties, hrequired, hitems, hvalues, hreference]

theorem ofMembers_toMembers : ∀ properties : List (String × SchemaNode), ofMembers (toMembers properties) = properties
  | [] => by rw [toMembers, ofMembers]
  | (name, node) :: properties => by
    rw [toMembers, ofMembers, ofJson_toJson node, ofMembers_toMembers properties]

end

/-! ## What is written conforms -/

theorem toMembers_eq (properties : List (String × SchemaNode)) :
    toMembers properties = properties.map fun property => (property.1, property.2.toJson) := by
  induction properties with
  | nil => rw [toMembers, List.map_nil]
  | cons property properties ih => rw [toMembers, ih, List.map_cons]

/-- The members that are written for a node. -/
def written (node : SchemaNode) : List (String × Json) :=
  optionalMember "title" (node.title.map .text) ++
    optionalMember "description" (node.description.map .text) ++
    optionalMember "type" (node.type.map SchemaType.toJson) ++
    optionalMember "format" (node.format.map .text) ++
    optionalMember "properties" (propertiesToJson node.properties) ++
    (if node.required.isEmpty then [] else [("required", .ofTexts node.required)]) ++
    optionalMember "items" (itemsToJson node.items) ++
    optionalMember "enum" (node.values.map .list) ++
    optionalMember "$ref" (node.reference.map .text)

theorem toJson_eq (node : SchemaNode) : node.toJson = .object node.written := by
  cases node
  rw [toJson, written]

theorem keys_optionalMember (key : String) (value : Option Json) :
    ((optionalMember key value).map Prod.fst).Sublist [key] := by
  cases value with
  | none => exact List.nil_sublist _
  | some value => exact List.Sublist.refl _

theorem nodup_written (node : SchemaNode) : (node.written.map Prod.fst).Nodup := by
  have hrequired : ((if node.required.isEmpty then [] else [("required", Json.ofTexts node.required)]).map
      Prod.fst).Sublist ["required"] := by
    split
    · exact List.nil_sublist _
    · exact List.Sublist.refl _
  have hsublist : (node.written.map Prod.fst).Sublist
      (["title"] ++ ["description"] ++ ["type"] ++ ["format"] ++ ["properties"] ++ ["required"] ++ ["items"] ++ ["enum"] ++
        ["$ref"]) := by
    simp only [written, List.map_append]
    exact ((((((((keys_optionalMember _ _).append (keys_optionalMember _ _)).append (keys_optionalMember _ _)).append
      (keys_optionalMember _ _)).append (keys_optionalMember _ _)).append hrequired).append
      (keys_optionalMember _ _)).append (keys_optionalMember _ _)).append (keys_optionalMember _ _)
  exact hsublist.nodup (by decide)

theorem forall_optionalMember {P : String × Json → Prop} {key : String} {value : Option Json} :
    (∀ member ∈ optionalMember key value, P member) ↔ ∀ json, value = some json → P (key, json) := by
  cases value with
  | none => simp [optionalMember]
  | some json => simp [optionalMember]

/-- A node that is read back as it was: no property name stands twice, and the allowed values are read back. -/
inductive Exact : SchemaNode → Prop
  | mk {node : SchemaNode}
      (hnames : ∀ properties, node.properties = some properties → (properties.map Prod.fst).Nodup)
      (hproperties : ∀ properties, node.properties = some properties → ∀ property ∈ properties, Exact property.2)
      (hitems : ∀ items, node.items = some items → Exact items)
      (hvalues : ∀ values, node.values = some values → ∀ value ∈ values, value.Exact) : Exact node

/-- What is written for the node conforms, under any limit that leaves room for its depth. -/
def Conforms (node : SchemaNode) : Prop :=
  ∀ limit, node.toJson.depth ≤ limit → Json.conform schemaLayout limit (.record .node) node.toJson = some node.toJson

section Members
variable {limit : Nat}

/-- The member of a node with this value conforms, if there is room for its depth. -/
def MemberConforms (limit : Nat) (member : String × Json) : Prop :=
  member.2.depth ≤ limit → Json.MemberConforms schemaLayout limit (schemaLayout .node) member

theorem memberConforms_text {key : String}
    (hkey : (schemaLayout .node).find? key = some { key, shape := .text, nullable := true }) (value : Option String) :
    ∀ member ∈ optionalMember key (value.map .text), MemberConforms limit member := by
  refine forall_optionalMember.2 fun json hjson _ => ?_
  obtain ⟨text, -, rfl⟩ := Option.map_eq_some_iff.1 hjson
  exact Json.memberConforms hkey (Json.conform_text text)

theorem memberConforms_type (type : SchemaType) : MemberConforms limit ("type", type.toJson) := by
  intro hdepth
  have hexact : type.toJson.Exact := by
    cases type with
    | single name => exact .text name
    | choice names => exact Json.exact_ofTexts names
  have hkind : Json.isTextOrTexts type.toJson = true := by
    cases type with
    | single name => rfl
    | choice names =>
      rw [SchemaType.toJson, Json.isTextOrTexts, Json.texts?_ofTexts]
      rfl
  have hconform : Json.conform schemaLayout limit (.textOrTexts "SchemaType") type.toJson = some type.toJson := by
    rw [Json.conform, Json.conformAny_self hexact hdepth, Option.filter_some, if_pos hkind]
  exact Json.memberConforms rfl hconform

theorem memberConforms_properties {properties : List (String × SchemaNode)}
    (hnames : (properties.map Prod.fst).Nodup) (h : ∀ property ∈ properties, Conforms property.2) :
    MemberConforms limit ("properties", .object (toMembers properties)) := by
  intro hdepth
  rw [Json.depth] at hdepth
  obtain ⟨lower, rfl⟩ := Nat.exists_eq_add_one_of_ne_zero (Nat.ne_zero_of_lt hdepth)
  refine Json.memberConforms rfl (Json.conform_map ?_ fun member hmember => ?_)
  · rwa [toMembers_eq, List.map_map]
  · have hle := Nat.le_trans (Json.depth_le_of_mem_members hmember) (Nat.le_of_succ_le_succ hdepth)
    rw [toMembers_eq] at hmember
    obtain ⟨property, hproperty, rfl⟩ := List.mem_map.1 hmember
    exact h property hproperty lower hle

theorem memberConforms_required (names : List String) : MemberConforms limit ("required", .ofTexts names) := by
  intro hdepth
  rw [Json.ofTexts, Json.depth] at hdepth
  obtain ⟨lower, rfl⟩ := Nat.exists_eq_add_one_of_ne_zero (Nat.ne_zero_of_lt hdepth)
  exact Json.memberConforms rfl (Json.conform_texts names)

theorem memberConforms_items {node : SchemaNode} (h : node.Conforms) : MemberConforms limit ("items", node.toJson) :=
  fun hdepth => Json.memberConforms rfl (h limit hdepth)

theorem memberConforms_values {values : List Json} (h : ∀ value ∈ values, value.Exact) :
    MemberConforms limit ("enum", .list values) := by
  intro hdepth
  rw [Json.depth] at hdepth
  obtain ⟨lower, rfl⟩ := Nat.exists_eq_add_one_of_ne_zero (Nat.ne_zero_of_lt hdepth)
  refine Json.memberConforms rfl (Json.conform_list fun value hvalue => ?_)
  rw [Json.conform]
  exact Json.conformAny_self (h value hvalue) (Nat.le_trans (Json.depth_le_of_mem_items hvalue) (Nat.le_of_succ_le_succ hdepth))

end Members

/-- **What is written for an exact node conforms**, as deep as it nests. -/
theorem conforms_of_exact {node : SchemaNode} (h : node.Exact) : node.Conforms := by
  induction h with
  | @mk node hnames _ _ hvalues hproperties hitems =>
    intro limit hdepth
    rw [toJson_eq, Json.depth] at hdepth
    obtain ⟨lower, rfl⟩ := Nat.exists_eq_add_one_of_ne_zero (Nat.ne_zero_of_lt hdepth)
    have hmembers : ∀ member ∈ node.written, MemberConforms lower member := by
      simp only [written, List.forall_mem_append]
      refine ⟨⟨⟨⟨⟨⟨⟨⟨memberConforms_text rfl _, memberConforms_text rfl _⟩, ?type⟩, memberConforms_text rfl _⟩, ?properties⟩,
        ?required⟩, ?items⟩, ?values⟩, memberConforms_text rfl _⟩
      case type =>
        refine forall_optionalMember.2 fun json hjson => ?_
        obtain ⟨type, -, rfl⟩ := Option.map_eq_some_iff.1 hjson
        exact memberConforms_type type
      case properties =>
        refine forall_optionalMember.2 fun json hjson => ?_
        cases hnode : node.properties with
        | none =>
          rw [hnode, propertiesToJson] at hjson
          cases hjson
        | some properties =>
          rw [hnode, propertiesToJson] at hjson
          cases hjson
          exact memberConforms_properties (hnames properties hnode) (hproperties properties hnode)
      case required =>
        split
        · simp
        · exact List.forall_mem_singleton.2 (memberConforms_required node.required)
      case items =>
        refine forall_optionalMember.2 fun json hjson => ?_
        cases hnode : node.items with
        | none =>
          rw [hnode, itemsToJson] at hjson
          cases hjson
        | some items =>
          rw [hnode, itemsToJson] at hjson
          cases hjson
          exact memberConforms_items (hitems items hnode)
      case values =>
        refine forall_optionalMember.2 fun json hjson => ?_
        obtain ⟨values, hnode, rfl⟩ := Option.map_eq_some_iff.1 hjson
        exact memberConforms_values (hvalues values hnode)
    rw [toJson_eq]
    refine Json.conform_record node.nodup_written (fun member hmem => hmembers member hmem ?_) (by decide)
    exact Nat.le_trans (Json.depth_le_of_mem_members hmem) (Nat.le_of_succ_le_succ hdepth)

/-- **A schema is read back from its text**: an exact node that nests less than 128 levels. -/
theorem decode_compact_of_exact {node : SchemaNode} (h : node.Exact) (hdepth : node.toJson.depth < 128) (url : String) :
    SchemaNode.decode url node.toJson.compact = .ok node := by
  have hread : Json.read schemaLayout (.record .node) node.toJson.compact = .ok node.toJson :=
    (Json.read_compact schemaLayout).2 (conforms_of_exact h Json.depthLimit (Nat.le_of_lt_succ hdepth))
  unfold SchemaNode.decode
  rw [hread]
  exact congrArg Except.ok (ofJson_toJson node)

/-- A node with properties, items and allowed values of several kinds. -/
def nested : SchemaNode :=
  { title := some "Order"
    type := some (.choice ["object", "null"])
    properties := some
      [("tags", { type := some (.single "array"), items := some { reference := some "tag.json#" } }),
       ("limit", { values := some [.number (.whole (-1)), .object [("max", .number (.whole 18446744073709551615))]] })]
    required := ["tags"] }

theorem nested_decode_compact :
    nested.Exact ∧ nested.toJson.depth < 128 ∧
      SchemaNode.decode "order.json" nested.toJson.compact = .ok nested := by
  have htag : Exact { reference := some "tag.json#" } := .mk nofun nofun nofun nofun
  have htags : Exact { type := some (.single "array"), items := some { reference := some "tag.json#" } } :=
    .mk nofun nofun (by rintro _ ⟨⟩; exact htag) nofun
  have hmax : (Json.object [("max", .number (.whole 18446744073709551615))]).Exact :=
    .object (by decide) (List.forall_mem_singleton.2 (.whole (by decide) (by decide)))
  have hlimit : Exact { values := some [.number (.whole (-1)), .object [("max", .number (.whole 18446744073709551615))]] } :=
    .mk nofun nofun nofun (by
      rintro _ ⟨⟩
      exact List.forall_mem_cons.2 ⟨.whole (by decide) (by decide), List.forall_mem_singleton.2 hmax⟩)
  have hexact : nested.Exact :=
    .mk (by rintro _ ⟨⟩; decide)
      (by rintro _ ⟨⟩; exact List.forall_mem_cons.2 ⟨htags, List.forall_mem_singleton.2 hlimit⟩) nofun nofun
  have hdepth : nested.toJson.depth < 128 := by decide
  exact ⟨hexact, hdepth, decode_compact_of_exact hexact hdepth "order.json"⟩

end SchemaNode

end ApiCatalog
