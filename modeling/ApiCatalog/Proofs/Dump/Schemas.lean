import ApiCatalog.Proofs.Dump.Rows

/-!
# Dumps of schemas are faithful

The dump of a node is the rows of the node, each on a line. The rows about the node itself come first, then those of its
properties and of its items, one level deeper behind the row that names them. A node's own rows therefore end where a
row is less deep or is about a part, the rows of a part end where a row is not deeper, and nothing else is needed to
find the parts again (`SchemaNode.rows_append_inj`). So two nodes are dumped alike exactly when they are the same as
shown: a type is shown by its name, and no properties are shown like an empty list of them
(`SchemaNode.text_dump_eq_iff`).
-/

namespace ApiCatalog

open Dump

namespace SchemaNode

/-! ## Nodes as shown -/

mutual

/-- A node with its types given by the names that are shown, and its properties always given. -/
def asShown : SchemaNode → SchemaNode
  | { title, description, type, format, properties, required, items, values, reference } =>
    { title, description, type := type.map fun type => .single type.display, format,
      properties := some (propertiesAsShown properties), required, items := itemsAsShown items, values, reference }

def propertiesAsShown : Option (List (String × SchemaNode)) → List (String × SchemaNode)
  | none => []
  | some members => membersAsShown members

def membersAsShown : List (String × SchemaNode) → List (String × SchemaNode)
  | [] => []
  | (name, node) :: rest => (name, node.asShown) :: membersAsShown rest

def itemsAsShown : Option SchemaNode → Option SchemaNode
  | none => none
  | some node => some node.asShown

end

/-! ## Texts that are shown as they are -/

def typeNames : Option SchemaType → List String
  | none => []
  | some (.single name) => [name]
  | some (.choice names) => names

mutual

/-- The titles, descriptions, type names, formats, references and property names of a node and the nodes in it. -/
def plainTexts : SchemaNode → List String
  | { title, description, type, format, properties, items, reference, .. } =>
    title.toList ++ description.toList ++ typeNames type ++ format.toList ++ reference.toList ++
      propertyTexts properties ++ itemTexts items

def propertyTexts : Option (List (String × SchemaNode)) → List String
  | none => []
  | some members => memberTexts members

def memberTexts : List (String × SchemaNode) → List String
  | [] => []
  | (name, node) :: rest => name :: (node.plainTexts ++ memberTexts rest)

def itemTexts : Option SchemaNode → List String
  | none => []
  | some node => node.plainTexts

end

/-- No line of a node is broken by what it shows. -/
def Unbroken (node : SchemaNode) : Prop := ∀ text ∈ node.plainTexts, '\n' ∉ text.toList

instance (node : SchemaNode) : Decidable node.Unbroken := List.decidableBAll _ _

/-! ## The rows of a node -/

def shownIn (node : SchemaNode) : TextField → Option String
  | .title => node.title
  | .description => node.description
  | .type => node.type.map SchemaType.display
  | .format => node.format
  | .reference => node.reference

/-- The row of a field, unless it is absent. -/
def textRow (node : SchemaNode) (textField : TextField) : List Row :=
  (node.shownIn textField).toList.map (Row.text textField)

/-- The rows about the node itself. -/
def ownRows (node : SchemaNode) : List Row :=
  node.textRow .title ++ node.textRow .description ++ node.textRow .type ++ node.textRow .format ++
    node.textRow .reference ++ (if node.required.isEmpty then [] else [.required node.required]) ++
    node.values.toList.map Row.allowed

mutual

/-- All rows of a node that lies so many levels deep. -/
def rows (depth : ℕ) : SchemaNode → List PlacedRow
  | { title, description, type, format, properties, required, items, values, reference } =>
    (ownRows { title, description, type, format, required, values, reference }).map (PlacedRow.mk depth) ++
      (propertyRows depth properties ++ itemRows depth items)

def propertyRows (depth : ℕ) : Option (List (String × SchemaNode)) → List PlacedRow
  | none => []
  | some members => memberRows depth members

/-- The rows of properties, each behind a row with its name. -/
def memberRows (depth : ℕ) : List (String × SchemaNode) → List PlacedRow
  | [] => []
  | (name, node) :: rest => ⟨depth, .property name⟩ :: (node.rows (depth + 1) ++ memberRows depth rest)

/-- The rows of optional items behind a row that says so. -/
def itemRows (depth : ℕ) : Option SchemaNode → List PlacedRow
  | none => []
  | some node => ⟨depth, .items⟩ :: node.rows (depth + 1)

end

theorem present_eq (textField : TextField) (value : Option String) :
    Dump.present (Row.Kind.text textField).label value = (value.toList.map (Row.text textField)).map Row.line := by
  cases value with
  | none => rfl
  | some value => exact congrArg (fun line => [line]) ((Row.text textField value).field_eq_line rfl)

theorem ownDump_eq (node : SchemaNode) : node.ownDump = node.ownRows.map Row.line := by
  have hrequired : (if node.required.isEmpty then [] else [field "Required     " (texts node.required)]) =
      (if node.required.isEmpty then [] else [Row.required node.required]).map Row.line := by
    by_cases h : node.required.isEmpty
    · rw [if_pos h, if_pos h, List.map_nil]
    · rw [if_neg h, if_neg h]
      exact congrArg (fun line => [line]) ((Row.required node.required).field_eq_line rfl)
  have hvalues :
      Dump.present "Enum         " (node.values.map fun values => ", ".intercalate (values.map Json.compact)) =
        (node.values.toList.map Row.allowed).map Row.line := by
    cases node.values with
    | none => rfl
    | some values => exact congrArg (fun line => [line]) ((Row.allowed values).field_eq_line rfl)
  simp only [ownDump, ownRows, textRow, List.map_append, ← present_eq, hrequired, hvalues]
  rfl

mutual

/-- **A dump shows the rows of a node,** each on a line. -/
theorem dump_eq (depth : ℕ) : ∀ node : SchemaNode, node.dump depth = (node.rows depth).map PlacedRow.line
  | { title, description, type, format, properties, required, items, values, reference } => by
    rw [dump, rows, ownDump_eq, List.map_append, List.map_append, List.map_map, List.map_map,
      dumpProperties_eq depth properties, dumpItems_eq depth items, List.append_assoc]
    rfl

theorem dumpProperties_eq (depth : ℕ) : ∀ properties : Option (List (String × SchemaNode)),
    dumpProperties depth properties = (propertyRows depth properties).map PlacedRow.line
  | none => rfl
  | some members => dumpMembers_eq depth members

theorem dumpMembers_eq (depth : ℕ) : ∀ members : List (String × SchemaNode),
    dumpMembers depth members = (memberRows depth members).map PlacedRow.line
  | [] => rfl
  | (name, node) :: rest => by
    rw [dumpMembers, memberRows, List.map_cons, List.map_append, dump_eq (depth + 1) node, dumpMembers_eq depth rest,
      String.append_assoc]
    rfl

theorem dumpItems_eq (depth : ℕ) : ∀ items : Option SchemaNode,
    dumpItems depth items = (itemRows depth items).map PlacedRow.line
  | none => rfl
  | some node => by
    rw [dumpItems, itemRows, List.map_cons, dump_eq (depth + 1) node]
    rfl

end

/-! ## The node itself -/

theorem asShown_eq_iff {a b : SchemaNode} :
    a.asShown = b.asShown ↔ (∀ textField, a.shownIn textField = b.shownIn textField) ∧ a.required = b.required ∧
      a.values = b.values ∧ propertiesAsShown a.properties = propertiesAsShown b.properties ∧
      itemsAsShown a.items = itemsAsShown b.items := by
  have htype (type type' : Option SchemaType) :
      ((type.map fun type => SchemaType.single type.display) = type'.map fun type => .single type.display) ↔
        type.map SchemaType.display = type'.map SchemaType.display := by
    cases type <;> cases type' <;> simp
  obtain ⟨title, description, type, format, properties, required, items, values, reference⟩ := a
  obtain ⟨title', description', type', format', properties', required', items', values', reference'⟩ := b
  simp only [asShown, SchemaNode.mk.injEq, Option.some.injEq, htype]
  constructor
  · rintro ⟨htitle, hdescription, htypes, hformat, hproperties, hrequired, hitems, hvalues, hreference⟩
    refine ⟨fun textField => ?_, hrequired, hvalues, hproperties, hitems⟩
    cases textField with
    | title => exact htitle
    | description => exact hdescription
    | type => exact htypes
    | format => exact hformat
    | reference => exact hreference
  · rintro ⟨htexts, hrequired, hvalues, hproperties, hitems⟩
    exact ⟨htexts .title, htexts .description, htexts .type, htexts .format, hproperties, hrequired, hitems, hvalues,
      htexts .reference⟩

theorem text_mem_ownRows (node : SchemaNode) (textField : TextField) (value : String) :
    Row.text textField value ∈ node.ownRows ↔ node.shownIn textField = some value := by
  cases textField <;> simp [ownRows, textRow]

theorem required_mem_ownRows (node : SchemaNode) (names : List String) :
    Row.required names ∈ node.ownRows ↔ node.required ≠ [] ∧ node.required = names := by
  by_cases hempty : node.required = []
  · simp [ownRows, textRow, hempty]
  · simp [ownRows, textRow, hempty, eq_comm (a := names)]

theorem allowed_mem_ownRows (node : SchemaNode) (values : List Json) :
    Row.allowed values ∈ node.ownRows ↔ node.values = some values := by
  simp [ownRows, textRow]

theorem isOwn_of_mem_ownRows {node : SchemaNode} {row : Row} (h : row ∈ node.ownRows) : row.isOwn = true := by
  cases row with
  | property name => simp [ownRows, textRow] at h
  | items => simp [ownRows, textRow] at h
  | _ => rfl

theorem fields_of_ownRows {a b : SchemaNode} (h : a.ownRows = b.ownRows) :
    (∀ textField, a.shownIn textField = b.shownIn textField) ∧ a.required = b.required ∧ a.values = b.values := by
  have hrequired (names : List String) :
      a.required ≠ [] ∧ a.required = names ↔ b.required ≠ [] ∧ b.required = names := by
    rw [← required_mem_ownRows, h, required_mem_ownRows]
  refine ⟨fun textField => Option.ext fun value => ?_, ?_, Option.ext fun values => ?_⟩
  · rw [← text_mem_ownRows, h, text_mem_ownRows]
  · by_cases ha : a.required = []
    · by_contra hne
      have hb : b.required ≠ [] := fun hb => hne (ha.trans hb.symm)
      exact ((hrequired b.required).2 ⟨hb, rfl⟩).1 ha
    · exact ((hrequired a.required).1 ⟨ha, rfl⟩).2.symm
  · rw [← allowed_mem_ownRows, h, allowed_mem_ownRows]

/-! ## Where rows end -/

/-- What follows is nothing, or starts with a row that is less deep, or as deep and as `P` says. -/
def Ends (depth : ℕ) (P : Row → Prop) (rest : List PlacedRow) : Prop :=
  ∀ placed ∈ rest.head?, placed.depth < depth ∨ placed.depth = depth ∧ P placed.row

section Ends
variable {depth : ℕ} {P Q : Row → Prop} {rest rest' : List PlacedRow}

theorem ends_nil : Ends depth P [] := by simp [Ends]

theorem ends_cons {row : Row} (h : P row) (rest : List PlacedRow) : Ends depth P (⟨depth, row⟩ :: rest) := by
  rintro placed ⟨⟩
  exact .inr ⟨rfl, h⟩

theorem Ends.mono (h : Ends depth P rest) (hPQ : ∀ row, P row → Q row) : Ends depth Q rest :=
  fun placed hplaced => (h placed hplaced).imp_right fun hrow => ⟨hrow.1, hPQ _ hrow.2⟩

theorem Ends.deeper (h : Ends depth P rest) : Ends (depth + 1) (fun _ => False) rest := by
  intro placed hplaced
  have hdepth := h placed hplaced
  omega

theorem Ends.ne_cons (h : Ends depth P rest) {row : Row} (hrow : ¬P row) (rest' : List PlacedRow) :
    rest ≠ ⟨depth, row⟩ :: rest' := by
  rintro rfl
  rcases h _ rfl with hless | ⟨-, hP⟩
  · exact lt_irrefl depth hless
  · exact hrow hP

theorem ends_itemRows (h : Ends depth (fun _ => False) rest) (items : Option SchemaNode) :
    Ends depth (· = .items) (itemRows depth items ++ rest) := by
  cases items with
  | none => exact h.mono fun _ => False.elim
  | some node =>
    rw [itemRows, List.cons_append]
    exact ends_cons (P := (· = .items)) rfl _

theorem ends_memberRows (h : Ends depth (· = .items) rest) (members : List (String × SchemaNode)) :
    Ends depth (fun row => row.isOwn = false) (memberRows depth members ++ rest) := by
  cases members with
  | nil => exact h.mono fun row hrow => by rw [hrow, Row.isOwn]
  | cons member members =>
    rw [memberRows, List.cons_append]
    exact ends_cons (P := fun row => row.isOwn = false) rfl _

theorem ends_propertyRows (h : Ends depth (· = .items) rest) (properties : Option (List (String × SchemaNode))) :
    Ends depth (fun row => row.isOwn = false) (propertyRows depth properties ++ rest) := by
  cases properties with
  | none => exact ends_memberRows h []
  | some members => exact ends_memberRows h members

theorem own_append_inj {own own' : List Row} (hown : ∀ row ∈ own, row.isOwn = true)
    (hown' : ∀ row ∈ own', row.isOwn = true) (hrest : Ends depth (fun row => row.isOwn = false) rest)
    (hrest' : Ends depth (fun row => row.isOwn = false) rest')
    (heq : own.map (PlacedRow.mk depth) ++ rest = own'.map (PlacedRow.mk depth) ++ rest') :
    own = own' ∧ rest = rest' := by
  let here (placed : PlacedRow) : Bool := decide (placed.depth = depth) && placed.row.isOwn
  have hbefore {own : List Row} (hown : ∀ row ∈ own, row.isOwn = true) :
      ∀ placed ∈ own.map (PlacedRow.mk depth), here placed = true := by
    intro placed hplaced
    obtain ⟨row, hrow, rfl⟩ := List.mem_map.1 hplaced
    simp [here, hown row hrow]
  have hafter {rest : List PlacedRow} (hrest : Ends depth (fun row => row.isOwn = false) rest) :
      ∀ placed ∈ rest.head?, here placed = false := by
    intro placed hplaced
    rcases hrest placed hplaced with hless | ⟨-, hrow⟩
    · simp [here, hless.ne]
    · simp [here, hrow]
  obtain ⟨hrows, hbehind⟩ := append_inj_of_head (hbefore hown) (hbefore hown') (hafter hrest) (hafter hrest') heq
  exact ⟨List.map_injective_iff.2 (fun a b h => (PlacedRow.mk.inj h).2) hrows, hbehind⟩

theorem members_eq_nil {members : List (String × SchemaNode)} (hrest : Ends depth (· = .items) rest)
    (heq : rest = memberRows depth members ++ rest') : members = [] ∧ rest = rest' := by
  cases members with
  | nil => exact ⟨rfl, heq⟩
  | cons member members =>
    rw [memberRows, List.cons_append] at heq
    exact absurd heq (hrest.ne_cons (by simp) _)

end Ends

/-! ## Rows told apart -/

mutual

/-- **A node is told,** as it is shown, from its rows, and so is where they end. -/
theorem rows_append_inj : ∀ (a : SchemaNode) {b : SchemaNode} {depth : ℕ} {rest rest' : List PlacedRow},
    Ends depth (fun _ => False) rest → Ends depth (fun _ => False) rest' →
    a.rows depth ++ rest = b.rows depth ++ rest' → a.asShown = b.asShown ∧ rest = rest'
  | { title, description, type, format, properties, required, items, values, reference },
    { title := title', description := description', type := type', format := format', properties := properties',
      required := required', items := items', values := values', reference := reference' }, depth, rest, rest',
    hrest, hrest', heq => by
    -- the node's own rows end where a part begins, its properties where its items begin, and these where it ends
    have hitems := ends_itemRows hrest items
    have hitems' := ends_itemRows hrest' items'
    rw [rows, rows] at heq
    simp only [List.append_assoc] at heq
    obtain ⟨hown, hparts⟩ := own_append_inj (fun _ => isOwn_of_mem_ownRows) (fun _ => isOwn_of_mem_ownRows)
      (ends_propertyRows hitems properties) (ends_propertyRows hitems' properties') heq
    obtain ⟨htexts, hrequired, hvalues⟩ := fields_of_ownRows hown
    obtain ⟨hproperties, hbehind⟩ := propertyRows_append_inj properties hitems hitems' hparts
    obtain ⟨hitem, hend⟩ := itemRows_append_inj items hrest hrest' hbehind
    exact ⟨asShown_eq_iff.2 ⟨htexts, hrequired, hvalues, hproperties, hitem⟩, hend⟩

theorem propertyRows_append_inj : ∀ (properties : Option (List (String × SchemaNode)))
    {properties' : Option (List (String × SchemaNode))} {depth : ℕ} {rest rest' : List PlacedRow},
    Ends depth (· = .items) rest → Ends depth (· = .items) rest' →
    propertyRows depth properties ++ rest = propertyRows depth properties' ++ rest' →
    propertiesAsShown properties = propertiesAsShown properties' ∧ rest = rest'
  | none, none, depth, rest, rest', _, _, heq => ⟨rfl, heq⟩
  | none, some members', depth, rest, rest', hrest, hrest', heq => by
    obtain ⟨rfl, hbehind⟩ := members_eq_nil hrest heq
    exact ⟨rfl, hbehind⟩
  | some members, none, depth, rest, rest', hrest, hrest', heq => by
    obtain ⟨rfl, hbehind⟩ := members_eq_nil hrest' heq.symm
    exact ⟨rfl, hbehind.symm⟩
  | some members, some members', depth, rest, rest', hrest, hrest', heq =>
    memberRows_append_inj members hrest hrest' heq

theorem memberRows_append_inj : ∀ (members : List (String × SchemaNode)) {members' : List (String × SchemaNode)}
    {depth : ℕ} {rest rest' : List PlacedRow}, Ends depth (· = .items) rest → Ends depth (· = .items) rest' →
    memberRows depth members ++ rest = memberRows depth members' ++ rest' →
    membersAsShown members = membersAsShown members' ∧ rest = rest'
  | [], members', depth, rest, rest', hrest, hrest', heq => by
    obtain ⟨rfl, hbehind⟩ := members_eq_nil hrest heq
    exact ⟨rfl, hbehind⟩
  | member :: members, [], depth, rest, rest', hrest, hrest', heq => by
    obtain ⟨hnil, -⟩ := members_eq_nil hrest' heq.symm
    cases hnil
  | (name, node) :: members, (name', node') :: members', depth, rest, rest', hrest, hrest', heq => by
    rw [memberRows, memberRows, List.cons_append, List.cons_append, List.append_assoc, List.append_assoc] at heq
    obtain ⟨hhead, htail⟩ := List.cons.inj heq
    cases hhead
    obtain ⟨hnode, hbehind⟩ := rows_append_inj node (ends_memberRows hrest members).deeper
      (ends_memberRows hrest' members').deeper htail
    obtain ⟨hmembers, hend⟩ := memberRows_append_inj members hrest hrest' hbehind
    rw [membersAsShown, membersAsShown, hnode, hmembers]
    exact ⟨rfl, hend⟩

theorem itemRows_append_inj : ∀ (items : Option SchemaNode) {items' : Option SchemaNode} {depth : ℕ}
    {rest rest' : List PlacedRow}, Ends depth (fun _ => False) rest → Ends depth (fun _ => False) rest' →
    itemRows depth items ++ rest = itemRows depth items' ++ rest' →
    itemsAsShown items = itemsAsShown items' ∧ rest = rest'
  | none, none, depth, rest, rest', _, _, heq => ⟨rfl, heq⟩
  | none, some node', depth, rest, rest', hrest, _, heq => absurd heq (hrest.ne_cons not_false _)
  | some node, none, depth, rest, rest', _, hrest', heq => absurd heq.symm (hrest'.ne_cons not_false _)
  | some node, some node', depth, rest, rest', hrest, hrest', heq => by
    obtain ⟨hnode, hbehind⟩ := rows_append_inj node hrest.deeper hrest'.deeper (List.cons.inj heq).2
    exact ⟨congrArg some hnode, hbehind⟩

end

/-! ## What is not shown -/

theorem ownRows_asShown (node : SchemaNode) : node.asShown.ownRows = node.ownRows := by
  obtain ⟨title, description, type, format, properties, required, items, values, reference⟩ := node
  cases type <;> rfl

mutual

theorem rows_asShown (depth : ℕ) : ∀ node : SchemaNode, node.asShown.rows depth = node.rows depth
  | { title, description, type, format, properties, required, items, values, reference } => by
    have hown := ownRows_asShown { title, description, type, format, required, values, reference }
    have hproperties := memberRows_asShown_properties depth properties
    have hitems := itemRows_asShown depth items
    rw [asShown, rows, rows, propertyRows, hproperties, hitems, ← hown]
    rfl

theorem memberRows_asShown_properties (depth : ℕ) : ∀ properties : Option (List (String × SchemaNode)),
    memberRows depth (propertiesAsShown properties) = propertyRows depth properties
  | none => rfl
  | some members => memberRows_asShown depth members

theorem memberRows_asShown (depth : ℕ) : ∀ members : List (String × SchemaNode),
    memberRows depth (membersAsShown members) = memberRows depth members
  | [] => rfl
  | (name, node) :: rest => by
    rw [membersAsShown, memberRows, memberRows, rows_asShown (depth + 1) node, memberRows_asShown depth rest]

theorem itemRows_asShown (depth : ℕ) : ∀ items : Option SchemaNode,
    itemRows depth (itemsAsShown items) = itemRows depth items
  | none => rfl
  | some node => by
    rw [itemsAsShown, itemRows, itemRows, rows_asShown (depth + 1) node]

end

/-! ## Line feeds -/

theorem newline_not_mem_display {type : SchemaType} (h : ∀ name ∈ typeNames (some type), '\n' ∉ name.toList) :
    '\n' ∉ type.display.toList := by
  cases type with
  | single name => exact h name (List.mem_singleton_self name)
  | choice names =>
    rw [SchemaType.display, String.toList_intercalate]
    exact Text.not_mem_intercalate (by decide) h

theorem newline_not_mem_shownIn {node : SchemaNode} (h : node.Unbroken) :
    ∀ textField, ∀ value ∈ node.shownIn textField, '\n' ∉ value.toList := by
  obtain ⟨title, description, type, format, properties, required, items, values, reference⟩ := node
  simp only [Unbroken, plainTexts, List.forall_mem_append] at h
  obtain ⟨⟨⟨⟨⟨⟨htitle, hdescription⟩, htype⟩, hformat⟩, hreference⟩, -⟩, -⟩ := h
  intro textField value hvalue
  cases textField with
  | title => exact htitle value (Option.mem_toList.2 hvalue)
  | description => exact hdescription value (Option.mem_toList.2 hvalue)
  | type =>
    obtain ⟨type, rfl, rfl⟩ := Option.mem_map.1 hvalue
    exact newline_not_mem_display htype
  | format => exact hformat value (Option.mem_toList.2 hvalue)
  | reference => exact hreference value (Option.mem_toList.2 hvalue)

theorem newline_not_mem_ownRows {node : SchemaNode} (h : node.Unbroken) :
    ∀ row ∈ node.ownRows, ∀ text ∈ row.plainTexts, '\n' ∉ text.toList := by
  intro row hrow text htext
  cases row with
  | text textField value =>
    obtain rfl := List.mem_singleton.1 htext
    exact newline_not_mem_shownIn h textField _ ((text_mem_ownRows node textField _).1 hrow)
  | property name => cases isOwn_of_mem_ownRows hrow
  | _ => cases htext

mutual

theorem newline_not_mem_rows (depth : ℕ) : ∀ node : SchemaNode, node.Unbroken →
    ∀ placed ∈ node.rows depth, '\n' ∉ placed.line.toList
  | { title, description, type, format, properties, required, items, values, reference }, h => by
    have hown := newline_not_mem_ownRows h
    simp only [Unbroken, plainTexts, List.forall_mem_append] at h
    obtain ⟨⟨-, hproperties⟩, hitems⟩ := h
    rw [rows, List.forall_mem_append, List.forall_mem_append]
    refine ⟨?_, newline_not_mem_propertyRows depth properties hproperties, newline_not_mem_itemRows depth items hitems⟩
    intro placed hplaced
    obtain ⟨row, hrow, rfl⟩ := List.mem_map.1 hplaced
    exact PlacedRow.newline_not_mem_line (hown row hrow)

theorem newline_not_mem_propertyRows (depth : ℕ) : ∀ properties : Option (List (String × SchemaNode)),
    (∀ text ∈ propertyTexts properties, '\n' ∉ text.toList) →
    ∀ placed ∈ propertyRows depth properties, '\n' ∉ placed.line.toList
  | none, _ => List.forall_mem_nil _
  | some members, h => newline_not_mem_memberRows depth members h

theorem newline_not_mem_memberRows (depth : ℕ) : ∀ members : List (String × SchemaNode),
    (∀ text ∈ memberTexts members, '\n' ∉ text.toList) →
    ∀ placed ∈ memberRows depth members, '\n' ∉ placed.line.toList
  | [], _ => List.forall_mem_nil _
  | (name, node) :: rest, h => by
    rw [memberTexts, List.forall_mem_cons, List.forall_mem_append] at h
    obtain ⟨hname, hnode, hrest⟩ := h
    rw [memberRows, List.forall_mem_cons, List.forall_mem_append]
    exact ⟨PlacedRow.newline_not_mem_line (List.forall_mem_singleton.2 hname),
      newline_not_mem_rows (depth + 1) node hnode, newline_not_mem_memberRows depth rest hrest⟩

theorem newline_not_mem_itemRows (depth : ℕ) : ∀ items : Option SchemaNode,
    (∀ text ∈ itemTexts items, '\n' ∉ text.toList) → ∀ placed ∈ itemRows depth items, '\n' ∉ placed.line.toList
  | none, _ => List.forall_mem_nil _
  | some node, h => by
    rw [itemRows, List.forall_mem_cons]
    exact ⟨PlacedRow.newline_not_mem_line (List.forall_mem_nil _), newline_not_mem_rows (depth + 1) node h⟩

end

theorem newline_not_mem_dump {node : SchemaNode} (h : node.Unbroken) (depth : ℕ) :
    ∀ line ∈ node.dump depth, '\n' ∉ line.toList := by
  intro line hline
  rw [dump_eq, List.mem_map] at hline
  obtain ⟨placed, hplaced, rfl⟩ := hline
  exact newline_not_mem_rows depth node h placed hplaced

/-! ## Dumps told apart -/

/-- **Nodes that are dumped alike** are the same as shown, and the other way round, unless a text of theirs breaks a
line. -/
theorem text_dump_eq_iff {a b : SchemaNode} (ha : a.Unbroken) (hb : b.Unbroken) (depth : ℕ) :
    Dump.text (a.dump depth) = Dump.text (b.dump depth) ↔ a.asShown = b.asShown := by
  constructor
  · intro htext
    have hlines : a.dump depth = b.dump depth :=
      text_inj (newline_not_mem_dump ha depth) (newline_not_mem_dump hb depth) htext
    rw [dump_eq, dump_eq] at hlines
    have hrows : a.rows depth = b.rows depth := List.map_injective_iff.2 PlacedRow.line_injective hlines
    have hends : a.rows depth ++ [] = b.rows depth ++ [] := by rw [hrows]
    exact (rows_append_inj a ends_nil ends_nil hends).1
  · intro hshown
    rw [dump_eq, dump_eq, ← rows_asShown, hshown, rows_asShown]

example : Dump.text (SchemaNode.dump 0 { type := some (.choice ["string", "null"]) }) =
    Dump.text (SchemaNode.dump 0 { type := some (.single "string|null"), properties := some [] }) := by decide

/-- A list of items as the only property. -/
def listProperty : SchemaNode := { properties := some [("rows", { items := some {} })] }

/-- A list of items beside the only property. -/
def listBeside : SchemaNode := { properties := some [("rows", {})], items := some {} }

/-- Where the items belong is told from the dump. -/
theorem text_dump_listProperty_ne : Dump.text (listProperty.dump 0) ≠ Dump.text (listBeside.dump 0) := by
  intro htext
  have hshown := (text_dump_eq_iff (by decide : listProperty.Unbroken) (by decide : listBeside.Unbroken) 0).1 htext
  have hitems : none = some _ := congrArg SchemaNode.items hshown
  cases hitems

end SchemaNode
end ApiCatalog
