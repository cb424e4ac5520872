import ApiCatalog.Proofs.Json.Reading

/-!
# Reading what was printed

What the printer writes for a value is one spelling of one tree (`Tree.ofJson`, `spells_render`), and this tree conforms to
what the value conforms to (`conform_ofJson`). So reading the text of a value is conforming the value (`read_compact`).
-/

namespace ApiCatalog.Json

/-! ## What the printer writes -/

/-- What stands in front of an element that was printed. -/
def separator (first : Bool) : List Char := if first then [] else [',']

theorem separates_separator (first : Bool) (rest : List Char) : Separates first (separator first ++ rest) rest := by
  cases first with
  | true => exact .first
  | false => exact .comma .none

/-- The rest of a list that was printed, from an item on. -/
def itemsFrom (first : Bool) (items : List Json) : List Char :=
  if first then renderItems items else items.flatMap fun item => ',' :: item.render

theorem itemsFrom_nil (first : Bool) : itemsFrom first [] = [] := by cases first <;> rfl

theorem itemsFrom_cons (first : Bool) (item : Json) (items : List Json) :
    itemsFrom first (item :: items) = separator first ++ (item.render ++ itemsFrom false items) := by
  cases first with
  | false => rfl
  | true =>
    cases items with
    | nil => exact (List.append_nil _).symm
    | cons next items =>
      show item.render ++ ',' :: renderItems (next :: items) = _
      rw [show renderItems (next :: items) = itemsFrom true (next :: items) from rfl, itemsFrom_cons true next items]
      rfl

def renderMember (member : String × Json) : List Char := renderText member.1 ++ ':' :: member.2.render

/-- The rest of an object that was printed, from a member on. -/
def membersFrom (first : Bool) (members : List (String × Json)) : List Char :=
  if first then renderMembers members else members.flatMap fun member => ',' :: renderMember member

theorem membersFrom_nil (first : Bool) : membersFrom first [] = [] := by cases first <;> rfl

theorem membersFrom_cons (first : Bool) (member : String × Json) (members : List (String × Json)) :
    membersFrom first (member :: members) = separator first ++ (renderMember member ++ membersFrom false members) := by
  cases first with
  | false => rfl
  | true =>
    cases members with
    | nil => exact (List.append_nil _).symm
    | cons next members =>
      show renderText member.1 ++ ':' :: (member.2.render ++ ',' :: renderMembers (next :: members)) = _
      rw [show renderMembers (next :: members) = membersFrom true (next :: members) from rfl,
        membersFrom_cons true next members]
      simp [separator, renderMember, membersFrom]

noncomputable def Tree.ofNumber (number : Number) : Tree :=
  let hnumeral := number.exists_numeral.choose_spec.choose_spec.1
  .number number.exists_numeral.choose ⟨number.exists_numeral.choose_spec.choose, hnumeral⟩

mutual

/-- How the printer writes a value. -/
noncomputable def Tree.ofJson : Json → Tree
  | .null => .null
  | .bool value => .bool value
  | .number value => .ofNumber value
  | .text value => .text (glyphsOf value)
  | .list items => .list (Tree.ofItems items)
  | .object members => .object (Tree.ofMembers members)

noncomputable def Tree.ofItems : List Json → List Tree
  | [] => []
  | item :: items => Tree.ofJson item :: Tree.ofItems items

noncomputable def Tree.ofMembers : List (String × Json) → List (List Glyph × Tree)
  | [] => []
  | (key, value) :: members => (glyphsOf key, Tree.ofJson value) :: Tree.ofMembers members

end

theorem spells_ofNumber (number : Number) (rest : List Char) :
    Spells (.ofNumber number) (number.render ++ rest) rest := by
  have hrender := number.exists_numeral.choose_spec.choose_spec.2
  rw [hrender, List.append_assoc]
  exact .number

mutual

theorem spells_render : ∀ (json : Json) (rest : List Char), Spells (.ofJson json) (json.render ++ rest) rest
  | .null, _ => .null
  | .bool true, _ => .yes
  | .bool false, _ => .no
  | .number value, rest => by
    rw [render, Tree.ofJson]
    exact spells_ofNumber value rest
  | .text value, rest => by
    rw [render, renderText_append, Tree.ofJson]
    exact .text
  | .list items, rest => by
    rw [render, List.cons_append, List.append_assoc, Tree.ofJson]
    exact .list (spells_itemsFrom true items (']' :: rest))
  | .object members, rest => by
    rw [render, List.cons_append, List.append_assoc, Tree.ofJson]
    exact .object (spells_membersFrom true members ('\x7d' :: rest))

theorem spells_itemsFrom : ∀ (first : Bool) (items : List Json) (rest : List Char),
    SpellsItems first (Tree.ofItems items) (itemsFrom first items ++ rest) rest
  | first, [], rest => by
    rw [itemsFrom_nil, Tree.ofItems]
    exact .nil .none
  | first, item :: items, rest => by
    have hitem := spells_render item (itemsFrom false items ++ rest)
    rw [itemsFrom_cons, List.append_assoc, List.append_assoc, Tree.ofItems]
    exact .cons (separates_separator first _) .none hitem (spells_itemsFrom false items rest)

theorem spells_membersFrom : ∀ (first : Bool) (members : List (String × Json)) (rest : List Char),
    SpellsMembers first (Tree.ofMembers members) (membersFrom first members ++ rest) rest
  | first, [], rest => by
    rw [membersFrom_nil, Tree.ofMembers]
    exact .nil .none
  | first, (key, value) :: members, rest => by
    have hvalue := spells_render value (membersFrom false members ++ rest)
    rw [membersFrom_cons, List.append_assoc, List.append_assoc, renderMember, List.append_assoc, renderText_append,
      Tree.ofMembers]
    exact .cons (separates_separator first _) ⟨_, .none, .none⟩ .none hvalue (spells_membersFrom false members rest)

end

theorem isWritten_compact (json : Json) : (Tree.ofJson json).IsWritten json.compact := by
  have hspells := spells_render json []
  rw [List.append_nil] at hspells
  rw [Tree.IsWritten, compact, String.toList_ofList]
  exact ⟨[], hspells.stands, .none⟩

/-! ## What is read of it -/

theorem ofItems_eq (items : List Json) : Tree.ofItems items = items.map Tree.ofJson := by
  induction items with
  | nil => rw [Tree.ofItems, List.map_nil]
  | cons item items ih => rw [Tree.ofItems, ih, List.map_cons]

theorem foldlM_ofMembers {β : Type} (step : β → String × Tree → Option β) (before : β) (members : List (String × Json)) :
    (Tree.ofMembers members).foldlM (withKey step) before =
      members.foldlM (fun before member => step before (member.1, .ofJson member.2)) before := by
  induction members generalizing before with
  | nil =>
    rw [Tree.ofMembers]
    rfl
  | cons member members ih =>
    obtain ⟨key, value⟩ := member
    rw [Tree.ofMembers, List.foldlM_cons, List.foldlM_cons, withKey, textMeant_glyphsOf, Option.bind_some]
    cases step before (key, .ofJson value) with
    | none => rfl
    | some after => exact ih after

theorem conformAny_ofNumber (depth : Nat) (number : Number) :
    (Tree.ofNumber number).conformAny depth = number.reread.map Json.number := by
  have hnumeral := number.exists_numeral.choose_spec.choose_spec
  rw [Tree.ofNumber, Tree.conformAny, Number.reread_eq hnumeral.1 hnumeral.2]
  rfl

theorem mapM_ofItems {f : Tree → Option Json} {g : Json → Option Json} (h : ∀ json, f (.ofJson json) = g json)
    (items : List Json) : (Tree.ofItems items).mapM f = items.mapM g := by
  rw [ofItems_eq, List.mapM_map]
  congr 1
  funext json
  exact h json

theorem conformEntries_ofMembers {f : Tree → Option Json} {g : Json → Option Json} (h : ∀ json, f (.ofJson json) = g json)
    (members : List (String × Json)) :
    (Tree.ofMembers members).foldlM (withKey (conformEntry f)) [] = conformEntries g [] members := by
  rw [foldlM_ofMembers, conformEntries]
  simp only [conformEntry, h]

theorem conformAny_ofJson : ∀ (depth : Nat) (json : Json), (Tree.ofJson json).conformAny depth = Json.conformAny depth json
  | depth, .number value => by
    rw [Tree.ofJson, conformAny_ofNumber, conformAny]
  | depth, .null => by rw [Tree.ofJson, Tree.conformAny, conformAny]
  | depth, .bool value => by rw [Tree.ofJson, Tree.conformAny, conformAny]
  | depth, .text value => by
    rw [Tree.ofJson, Tree.conformAny, conformAny, textMeant_glyphsOf]
    rfl
  | 0, .list items => by rw [Tree.ofJson, Tree.conformAny, conformAny]
  | depth + 1, .list items => by
    rw [Tree.ofJson, Tree.conformAny, conformAny, mapM_ofItems (conformAny_ofJson depth)]
  | 0, .object members => by rw [Tree.ofJson, Tree.conformAny, conformAny]
  | depth + 1, .object members => by
    rw [Tree.ofJson, Tree.conformAny, conformAny, conformEntries_ofMembers (conformAny_ofJson depth)]

theorem conformAs_ofJson (nullable : Bool) {f : Tree → Option Json} {g : Json → Option Json}
    (h : ∀ json, f (.ofJson json) = g json) (json : Json) :
    Tree.conformAs nullable f (.ofJson json) = conformAs nullable g json := by
  unfold Tree.conformAs conformAs
  split
  · cases json with
    | null => rw [Tree.ofJson, Tree.conformNullable, conformNullable]
    | number value => exact h (.number value)
    | bool | text | list | object =>
      unfold Tree.conformNullable conformNullable
      rw [Tree.ofJson]
      dsimp only
      rw [← h, Tree.ofJson]
  · exact h json

theorem text?_ofJson (json : Json) : (Tree.ofJson json).text? = json.text? := by
  cases json with
  | text value => rw [Tree.ofJson, Tree.text?, textMeant_glyphsOf, text?]
  | _ =>
    rw [Tree.ofJson]
    rfl

theorem bool?_ofJson (json : Json) : (Tree.ofJson json).bool? = json.bool? := by
  cases json <;> rw [Tree.ofJson] <;> rfl

section Shapes
variable {ρ : Type} (layout : Layout ρ)

theorem conformPositional_ofItems {f : Member ρ → Tree → Option Json} {g : Member ρ → Json → Option Json}
    (h : ∀ known json, f known (.ofJson json) = g known json) (known : List (Member ρ)) (items : List Json) :
    conformPositional f known (Tree.ofItems items) = conformPositional g known items := by
  rw [ofItems_eq]
  induction known generalizing items with
  | nil => cases items <;> rfl
  | cons member known ih =>
    cases items with
    | nil =>
      have hnone := ih []
      rw [List.map_nil] at hnone ⊢
      rw [conformPositional, conformPositional, hnone]
    | cons item items => rw [List.map_cons, conformPositional, conformPositional, h, ih]

theorem conformObject_ofMembers (record : Record ρ) {f : Member ρ → Tree → Option Json} {g : Member ρ → Json → Option Json}
    (h : ∀ known json, f known (.ofJson json) = g known json) (members : List (String × Json)) :
    ((Tree.ofMembers members).foldlM (withKey (conformMember record f)) []).bind (complete record) =
      conformObject record g members := by
  have hmember (seen : List (String × Json)) (member : String × Json) :
      conformMember record f seen (member.1, .ofJson member.2) = conformMember record g seen member := by
    simp only [conformMember, h]
  rw [foldlM_ofMembers, conformObject]
  simp only [hmember]
  rfl

/-- **The tree of a value conforms to what the value conforms to.** -/
theorem conform_ofJson : ∀ (depth : Nat) (shape : Shape ρ) (json : Json),
    (Tree.ofJson json).conform layout depth shape = json.conform layout depth shape
  | depth, .any, json => by rw [Tree.conform, conform, conformAny_ofJson]
  | depth, .textOrTexts name, json => by rw [Tree.conform, conform, conformAny_ofJson]
  | _, .text, json => by rw [Tree.conform, conform, text?_ofJson]
  | _, .flag, json => by rw [Tree.conform, conform, bool?_ofJson]
  | 0, .list item, json => by cases json <;> rw [Tree.ofJson] <;> rfl
  | depth + 1, .list item, json => by
    cases json with
    | list items => rw [Tree.ofJson, Tree.conform, conform, mapM_ofItems (conform_ofJson depth item)]
    | _ =>
      rw [Tree.ofJson]
      rfl
  | 0, .map item, json => by cases json <;> rw [Tree.ofJson] <;> rfl
  | depth + 1, .map item, json => by
    cases json with
    | object members => rw [Tree.ofJson, Tree.conform, conform, conformEntries_ofMembers (conform_ofJson depth item)]
    | _ =>
      rw [Tree.ofJson]
      rfl
  | 0, .record name, json => by cases json <;> rw [Tree.ofJson] <;> rfl
  | depth + 1, .record name, json => by
    have hmember (member : Member ρ) (json : Json) :
        Tree.conformAs member.nullable (Tree.conform layout depth member.shape) (.ofJson json) =
          conformAs member.nullable (Json.conform layout depth member.shape) json :=
      conformAs_ofJson member.nullable (conform_ofJson depth member.shape) json
    cases json with
    | object members => rw [Tree.ofJson, Tree.conform, conform, conformObject_ofMembers _ hmember]
    | list items => rw [Tree.ofJson, Tree.conform, conform, conformPositional_ofItems hmember]
    | _ =>
      rw [Tree.ofJson]
      rfl

/-- **Reading the text of a value is conforming the value.** -/
theorem read_compact {shape : Shape ρ} {json value : Json} :
    Json.read layout shape json.compact = .ok value ↔ conform layout depthLimit shape json = some value := by
  rw [read_isWritten layout (isWritten_compact json), conform_ofJson]

end Shapes

end ApiCatalog.Json
