import ApiCatalog.Proofs.Json.Numbers

/-!
# Conforming values

What a reader of a shape makes of a value, said without any text: `conform layout depth shape json` is the value that is
read where `json` stands, or nothing where `json` does not have the shape or nests too deep. Unknown members of a record
are left out, a record given as a list becomes an object, and of two entries with one key the later value is kept.

Reading the text that is printed for a value is conforming the value (`read_compact`), so what reading does to values can
be shown here, by recursion on values. There are two such facts: a record whose members conform to themselves is read back
as it was (`conform_record`, and `conformAny_self` where any value may stand), and members with keys that no record knows
make no difference (`conform_without`).
-/

namespace ApiCatalog.Json

/-! ## Values of a shape -/

/-- The entries of an object with any keys, added to those before. -/
def conformEntries (item : Json → Option Json) (seen members : List (String × Json)) : Option (List (String × Json)) :=
  members.foldlM (fun seen member => (item member.2).map (putMember seen member.1)) seen

/-- Any value: a number may become another one, and depth is limited. -/
def conformAny : (depth : Nat) → Json → Option Json
  | depth, json =>
    match json with
    | .null => some .null
    | .bool value => some (.bool value)
    | .number value => value.reread.map .number
    | .text value => some (.text value)
    | .list items =>
      match depth with
      | 0 => none
      | depth + 1 => (items.mapM (conformAny depth)).map .list
    | .object members =>
      match depth with
      | 0 => none
      | depth + 1 => (conformEntries (conformAny depth) [] members).map .object

section Records
variable {ρ α : Type} (record : Record ρ) (value : Member ρ → α → Option Json)

/-- Adds a member to those before, if the record knows it; it must not be there already. -/
def conformMember (seen : List (String × Json)) (member : String × α) : Option (List (String × Json)) :=
  match record.find? member.1 with
  | none => some seen
  | some known =>
    if seen.any (·.1 == member.1) then none else (value known member.2).map fun value => seen ++ [(member.1, value)]

def conformObject (members : List (String × α)) : Option Json :=
  (members.foldlM (conformMember record value) []).bind fun seen =>
    match record.members.find? fun m => m.required && !seen.any (·.1 == m.key) with
    | some _ => none
    | none => some (.object seen)

/-- The members of a record from the items of a list; there may be fewer items than members. -/
def conformPositional : List (Member ρ) → List α → Option (List (String × Json))
  | [], [] => some []
  | [], _ :: _ => none
  | known :: more, [] => if known.required then none else conformPositional more []
  | known :: more, item :: items =>
    (value known item).bind fun value => (conformPositional more items).map ((known.key, value) :: ·)

end Records

/-- `null`, or else a value. -/
def conformNullable (value : Json → Option Json) : Json → Option Json
  | .null => some .null
  | json => value json

/-- A value that may be `null` if the member says so. -/
def conformAs (nullable : Bool) (value : Json → Option Json) : Json → Option Json :=
  if nullable then conformNullable value else value

/-- A value of a shape. -/
def conform {ρ : Type} (layout : Layout ρ) : (depth : Nat) → Shape ρ → Json → Option Json
  | depth, shape, json =>
    match shape with
    | .any => conformAny depth json
    | .textOrTexts _ => (conformAny depth json).filter isTextOrTexts
    | .text => json.text?.map .text
    | .flag => json.bool?.map .bool
    | .list item =>
      match json with
      | .list items =>
        match depth with
        | 0 => none
        | depth + 1 => (items.mapM (conform layout depth item)).map .list
      | _ => none
    | .map item =>
      match json with
      | .object members =>
        match depth with
        | 0 => none
        | depth + 1 => (conformEntries (conform layout depth item) [] members).map .object
      | _ => none
    | .record name =>
      match json with
      | .object members =>
        match depth with
        | 0 => none
        | depth + 1 =>
          conformObject (layout name) (fun member => conformAs member.nullable (conform layout depth member.shape)) members
      | .list items =>
        match depth with
        | 0 => none
        | depth + 1 =>
          (conformPositional (fun member => conformAs member.nullable (conform layout depth member.shape))
            (layout name).members items).map .object
      | _ => none

/-! ## Values that conform to themselves -/

theorem foldlM_append {step : List (String × Json) → String × Json → Option (List (String × Json))}
    (seen : List (String × Json)) {members : List (String × Json)}
    (h : ∀ seen, ∀ member ∈ members, member.1 ∉ seen.map Prod.fst → step seen member = some (seen ++ [member]))
    (hkeys : ((seen ++ members).map Prod.fst).Nodup) : members.foldlM step seen = some (seen ++ members) := by
  induction members generalizing seen with
  | nil => simp
  | cons member members ih =>
    have hnew : member.1 ∉ seen.map Prod.fst := by
      rw [List.map_append, List.map_cons, List.nodup_append] at hkeys
      exact fun hmem => hkeys.2.2 _ hmem _ List.mem_cons_self rfl
    rw [List.append_cons] at hkeys ⊢
    rw [List.foldlM_cons, h seen member List.mem_cons_self hnew]
    exact ih _ (fun seen' member' hmem => h seen' member' (List.mem_cons_of_mem _ hmem)) hkeys

theorem any_key_eq_false {key : String} {seen : List (String × Json)} (h : key ∉ seen.map Prod.fst) :
    seen.any (·.1 == key) = false := by
  rw [List.any_eq_false]
  intro member hmem heq
  exact h (List.mem_map.2 ⟨member, hmem, eq_of_beq heq⟩)

theorem mapM_self {f : Json → Option Json} {items : List Json} (h : ∀ item ∈ items, f item = some item) :
    items.mapM f = some items := by
  induction items with
  | nil => rfl
  | cons item items ih =>
    obtain ⟨hitem, hitems⟩ := List.forall_mem_cons.1 h
    rw [List.mapM_cons, hitem, ih hitems]
    rfl

theorem conformEntries_self {item : Json → Option Json} {members : List (String × Json)}
    (hkeys : (members.map Prod.fst).Nodup) (h : ∀ member ∈ members, item member.2 = some member.2) :
    conformEntries item [] members = some members := by
  refine foldlM_append [] (fun seen member hmem hnew => ?_) hkeys
  rw [h member hmem, Option.map_some, putMember, any_key_eq_false hnew]
  rfl

theorem conformObject_self {ρ : Type} {record : Record ρ} {value : Member ρ → Json → Option Json}
    {members : List (String × Json)} (hkeys : (members.map Prod.fst).Nodup)
    (h : ∀ member ∈ members, ∃ known, record.find? member.1 = some known ∧ value known member.2 = some member.2)
    (hrequired : ∀ known ∈ record.members, known.required = false) :
    conformObject record value members = some (.object members) := by
  have hfold : members.foldlM (conformMember record value) [] = some members := by
    refine foldlM_append [] (fun seen member hmem hnew => ?_) hkeys
    obtain ⟨known, hknown, hvalue⟩ := h member hmem
    rw [conformMember, hknown]
    dsimp only
    rw [any_key_eq_false hnew, hvalue]
    rfl
  have hnone : (record.members.find? fun m => m.required && !members.any (·.1 == m.key)) = none := by
    rw [List.find?_eq_none]
    intro known hknown
    simp [hrequired known hknown]
  rw [conformObject, hfold]
  dsimp only [Option.bind_some]
  rw [hnone]

section Shapes
variable {ρ : Type} {layout : Layout ρ} {limit : Nat}

theorem conform_text (value : String) : conform layout limit .text (.text value) = some (.text value) := by
  cases limit <;> rfl

theorem conform_flag (value : Bool) : conform layout limit .flag (.bool value) = some (.bool value) := by
  cases limit <;> rfl

theorem conform_list {shape : Shape ρ} {items : List Json}
    (h : ∀ item ∈ items, conform layout limit shape item = some item) :
    conform layout (limit + 1) (.list shape) (.list items) = some (.list items) := by
  show (items.mapM (conform layout limit shape)).map Json.list = _
  rw [mapM_self h]
  rfl

theorem conform_texts (values : List String) :
    conform layout (limit + 1) (.list .text) (.ofTexts values) = some (.ofTexts values) := by
  refine conform_list fun item hitem => ?_
  obtain ⟨value, -, rfl⟩ := List.mem_map.1 hitem
  exact conform_text value

theorem conform_map {shape : Shape ρ} {members : List (String × Json)} (hkeys : (members.map Prod.fst).Nodup)
    (h : ∀ member ∈ members, conform layout limit shape member.2 = some member.2) :
    conform layout (limit + 1) (.map shape) (.object members) = some (.object members) := by
  show (conformEntries (conform layout limit shape) [] members).map Json.object = _
  rw [conformEntries_self hkeys h]
  rfl

/-- A member that a record knows, with a value that conforms to itself. -/
def MemberConforms (layout : Layout ρ) (limit : Nat) (record : Record ρ) (member : String × Json) : Prop :=
  ∃ known, record.find? member.1 = some known ∧
    conformAs known.nullable (conform layout limit known.shape) member.2 = some member.2

theorem memberConforms {record : Record ρ} {known : Member ρ} {key : String} {json : Json}
    (hknown : record.find? key = some known) (h : conform layout limit known.shape json = some json) :
    MemberConforms layout limit record (key, json) := by
  refine ⟨known, hknown, ?_⟩
  unfold conformAs
  split
  · cases json with
    | null => rfl
    | _ => exact h
  · exact h

theorem memberConforms_optionalText {record : Record ρ} {key : String}
    (hknown : record.find? key = some { key, shape := .text, nullable := true }) (value : Option String) :
    MemberConforms layout limit record (key, .ofOptionalText value) := by
  cases value with
  | none => exact ⟨_, hknown, rfl⟩
  | some value => exact memberConforms hknown (conform_text value)

theorem conform_record {name : ρ} {members : List (String × Json)} (hkeys : (members.map Prod.fst).Nodup)
    (h : ∀ member ∈ members, MemberConforms layout limit (layout name) member)
    (hrequired : ∀ known ∈ (layout name).members, known.required = false) :
    conform layout (limit + 1) (.record name) (.object members) = some (.object members) :=
  conformObject_self hkeys h hrequired

end Shapes

/-! ### Lists of texts -/

theorem filterMap_ofTexts (values : List String) : (Json.ofTexts values).items.filterMap text? = values := by
  show (values.map Json.text).filterMap text? = values
  rw [List.filterMap_map]
  exact List.filterMap_some

theorem texts?_ofTexts (values : List String) : (Json.ofTexts values).texts? = some values := by
  show (values.map Json.text).mapM text? = some values
  rw [List.mapM_map]
  exact (List.mapM_pure (m := Option) (f := id)).trans (by rw [List.map_id]; rfl)

/-! ### Any value -/

mutual

/-- How deep the brackets of a value nest. -/
def depth : Json → Nat
  | .list items => depthItems items + 1
  | .object members => depthMembers members + 1
  | _ => 0

def depthItems : List Json → Nat
  | [] => 0
  | item :: items => max item.depth (depthItems items)

def depthMembers : List (String × Json) → Nat
  | [] => 0
  | (_, value) :: members => max value.depth (depthMembers members)

end

theorem depth_le_of_mem_items {item : Json} {items : List Json} (h : item ∈ items) : item.depth ≤ depthItems items := by
  induction items with
  | nil => cases h
  | cons first items ih =>
    rw [depthItems]
    rcases List.mem_cons.1 h with rfl | hmem
    · exact Nat.le_max_left _ _
    · exact Nat.le_trans (ih hmem) (Nat.le_max_right _ _)

theorem depth_le_of_mem_members {member : String × Json} {members : List (String × Json)} (h : member ∈ members) :
    member.2.depth ≤ depthMembers members := by
  induction members with
  | nil => cases h
  | cons first members ih =>
    rw [depthMembers]
    rcases List.mem_cons.1 h with rfl | hmem
    · exact Nat.le_max_left _ _
    · exact Nat.le_trans (ih hmem) (Nat.le_max_right _ _)

/-- A value that is read back as it was: its numbers are whole numbers of 64 bits, and no object in it has a key
twice. -/
inductive Exact : Json → Prop
  | null : Exact .null
  | bool (value : Bool) : Exact (.bool value)
  | whole {n : Int} (hlow : -0x8000000000000000 ≤ n) (hhigh : n < 0x10000000000000000) : Exact (.number (.whole n))
  | text (value : String) : Exact (.text value)
  | list {items : List Json} (h : ∀ item ∈ items, Exact item) : Exact (.list items)
  | object {members : List (String × Json)} (hkeys : (members.map Prod.fst).Nodup)
      (h : ∀ member ∈ members, Exact member.2) : Exact (.object members)

theorem exact_ofTexts (values : List String) : (Json.ofTexts values).Exact := by
  refine .list fun item hitem => ?_
  obtain ⟨value, -, rfl⟩ := List.mem_map.1 hitem
  exact .text value

/-- **An exact value is kept as it is**, up to the depth that it has. -/
theorem conformAny_self {json : Json} (h : json.Exact) {limit : Nat} (hdepth : json.depth ≤ limit) :
    conformAny limit json = some json := by
  induction h generalizing limit with
  | null => rw [conformAny]
  | bool value => rw [conformAny]
  | whole hlow hhigh =>
    rw [conformAny, Number.reread_whole hlow hhigh]
    rfl
  | text value => rw [conformAny]
  | @list items _ ih =>
    rw [depth] at hdepth
    obtain ⟨lower, rfl⟩ := Nat.exists_eq_add_one_of_ne_zero (Nat.ne_zero_of_lt hdepth)
    have hitems : items.mapM (conformAny lower) = some items :=
      mapM_self fun item hmem => ih item hmem (Nat.le_trans (depth_le_of_mem_items hmem) (Nat.le_of_succ_le_succ hdepth))
    rw [conformAny, hitems]
    rfl
  | @object members hkeys _ ih =>
    rw [depth] at hdepth
    obtain ⟨lower, rfl⟩ := Nat.exists_eq_add_one_of_ne_zero (Nat.ne_zero_of_lt hdepth)
    have hmembers : conformEntries (conformAny lower) [] members = some members :=
      conformEntries_self hkeys fun member hmem =>
        ih member hmem (Nat.le_trans (depth_le_of_mem_members hmem) (Nat.le_of_succ_le_succ hdepth))
    rw [conformAny, hmembers]
    rfl

/-! ## Members that no record knows -/

mutual

/-- A value without the members that have one of these keys, at any depth. -/
def without (keys : List String) : Json → Json
  | .list items => .list (withoutItems keys items)
  | .object members => .object (withoutMembers keys members)
  | json => json

def withoutItems (keys : List String) : List Json → List Json
  | [] => []
  | item :: items => item.without keys :: withoutItems keys items

def withoutMembers (keys : List String) : List (String × Json) → List (String × Json)
  | [] => []
  | (key, value) :: members =>
    if key ∈ keys then withoutMembers keys members else (key, value.without keys) :: withoutMembers keys members

end

/-- A shape in which every object is a record. -/
def Shape.OnlyRecords {ρ : Type} : Shape ρ → Prop
  | .text | .flag | .record _ => True
  | .list item => item.OnlyRecords
  | .any | .textOrTexts _ | .map _ => False

/-- The layout has only records for objects, and none of them has a member with one of these keys. -/
def Ignores {ρ : Type} (layout : Layout ρ) (keys : List String) : Prop :=
  ∀ name, ∀ member ∈ (layout name).members, member.key ∉ keys ∧ member.shape.OnlyRecords

theorem withoutItems_eq (keys : List String) (items : List Json) : withoutItems keys items = items.map (without keys) := by
  induction items with
  | nil => rfl
  | cons item items ih => rw [withoutItems, ih, List.map_cons]

theorem conformAs_without {value : Json → Option Json} {keys : List String} {json : Json} (nullable : Bool)
    (h : value (json.without keys) = value json) :
    conformAs nullable value (json.without keys) = conformAs nullable value json := by
  unfold conformAs
  split
  · cases json with
    | null => rfl
    | _ => exact h
  · exact h

theorem text?_without (keys : List String) (json : Json) : (json.without keys).text? = json.text? := by
  cases json <;> rfl

theorem bool?_without (keys : List String) (json : Json) : (json.without keys).bool? = json.bool? := by
  cases json <;> rfl

section Without
variable {ρ : Type} {keys : List String}

theorem foldlM_without (record : Record ρ) {value : Member ρ → Json → Option Json}
    (hkeys : ∀ known ∈ record.members, known.key ∉ keys)
    (h : ∀ known ∈ record.members, ∀ json, value known (json.without keys) = value known json)
    (seen members : List (String × Json)) :
    (withoutMembers keys members).foldlM (conformMember record value) seen =
      members.foldlM (conformMember record value) seen := by
  induction members generalizing seen with
  | nil => rfl
  | cons member members ih =>
    obtain ⟨key, json⟩ := member
    rw [withoutMembers, List.foldlM_cons]
    split
    · next hkey =>
      -- the record does not know this key
      have hunknown : record.find? key = none := by
        refine List.find?_eq_none.2 fun known hknown heq => hkeys known hknown ?_
        rwa [eq_of_beq heq]
      rw [conformMember, hunknown]
      exact ih seen
    · rw [List.foldlM_cons]
      have hstep : conformMember record value seen (key, json.without keys) = conformMember record value seen (key, json) := by
        unfold conformMember
        dsimp only
        cases hfind : record.find? key with
        | none => rfl
        | some known =>
          dsimp only
          rw [h known (List.mem_of_find?_eq_some hfind)]
      rw [hstep]
      cases conformMember record value seen (key, json) with
      | none => rfl
      | some seen => exact ih seen

theorem conformPositional_without {value : Member ρ → Json → Option Json} (known : List (Member ρ))
    (h : ∀ member ∈ known, ∀ json, value member (json.without keys) = value member json) (items : List Json) :
    conformPositional value known (items.map (without keys)) = conformPositional value known items := by
  induction known generalizing items with
  | nil => cases items <;> rfl
  | cons member known ih =>
    obtain ⟨hmember, hknown⟩ := List.forall_mem_cons.1 h
    cases items with
    | nil => rfl
    | cons item items =>
      rw [List.map_cons, conformPositional, conformPositional, hmember item, ih hknown items]

/-- **Members that no record knows make no difference.** -/
theorem conform_without {layout : Layout ρ} (hignores : Ignores layout keys) :
    ∀ (depth : Nat) (shape : Shape ρ), shape.OnlyRecords → ∀ json,
      conform layout depth shape (json.without keys) = conform layout depth shape json
  | _, .text, _, json => by rw [conform, conform, text?_without]
  | _, .flag, _, json => by rw [conform, conform, bool?_without]
  | 0, .list item, _, json => by cases json <;> rfl
  | depth + 1, .list item, hitem, json => by
    cases json with
    | list items =>
      have hitems : (items.map (without keys)).mapM (conform layout depth item) = items.mapM (conform layout depth item) := by
        rw [List.mapM_map]
        congr 1
        funext json
        exact conform_without hignores depth item hitem json
      rw [without, withoutItems_eq, conform, conform, hitems]
    | _ => rfl
  | 0, .record name, _, json => by cases json <;> rfl
  | depth + 1, .record name, _, json => by
    have hmember : ∀ member ∈ (layout name).members, ∀ json,
        conformAs member.nullable (conform layout depth member.shape) (json.without keys) =
          conformAs member.nullable (conform layout depth member.shape) json :=
      fun member hmem json =>
        conformAs_without member.nullable (conform_without hignores depth member.shape (hignores name member hmem).2 json)
    cases json with
    | object members =>
      have hfold := foldlM_without (layout name) (fun known hknown => (hignores name known hknown).1) hmember [] members
      rw [without, conform, conform, conformObject, conformObject, hfold]
    | list items =>
      have hitems := conformPositional_without (layout name).members hmember items
      rw [without, withoutItems_eq, conform, conform, hitems]
    | _ => rfl

end Without

end ApiCatalog.Json
