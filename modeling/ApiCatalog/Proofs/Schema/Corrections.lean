import ApiCatalog.Proofs.Schema.Positions
import ApiCatalog.Proofs.Schema.RoundTrip

/-!
# What a patch asks for

A patch that can be applied spells a `Correction`: a position, and an entry for the node there, which is a field with
a value of its kind. Which corrections a patch spells is said without applying it (`Spells`); it fits a schema where the
position is there (`fits_iff`), and then its application makes the correction and nothing else (`applyTo_of_spells`).
-/

namespace ApiCatalog

/-! ## The segments of a path -/

theorem Text.splitAt_eq_splitOn (separator : Char) (text : List Char) :
    Text.splitAt separator text = text.splitOn separator := by
  induction text with
  | nil => simp [Text.splitAt]
  | cons c rest ih =>
    rw [Text.splitAt, List.splitOn_cons_eq_if_modifyHead, ih]
    by_cases hc : c = separator
    · simp [hc]
    · rw [if_neg hc, if_neg (by simpa using hc)]
      cases hparts : rest.splitOn separator with
      | nil => exact absurd hparts (List.splitOn_ne_nil separator rest)
      | cons part more => rfl

theorem SchemaPatch.segments_eq_iff {path : String} {names : List String} :
    SchemaPatch.segments path = names ↔
      (path.toList.dropWhile (· = '/')).splitOn '/' = names.map String.toList := by
  rw [SchemaPatch.segments, Text.splitAt_eq_splitOn]
  constructor
  · rintro rfl
    simp [Function.comp_def]
  · intro h
    simp [h, Function.comp_def]

/-! ## Entries -/

namespace Json

theorem eq_text_of_text? {value : Json} {text : String} (h : value.text? = some text) : value = .text text := by
  cases value <;> cases h
  rfl

theorem eq_ofTexts_of_texts? {value : Json} {texts : List String} (h : value.texts? = some texts) :
    value = .ofTexts texts := by
  cases value with
  | list items =>
    have hitems : items.mapM text? = some texts := h
    rw [ofTexts]
    congr 1
    induction items generalizing texts with
    | nil =>
      cases hitems
      rfl
    | cons item rest ih =>
      rw [List.mapM_cons] at hitems
      obtain ⟨first, hfirst, hrest⟩ := Option.bind_eq_some_iff.1 hitems
      obtain ⟨more, hmore, hpure⟩ := Option.bind_eq_some_iff.1 hrest
      cases hpure
      rw [List.map_cons, ih hmore hmore, eq_text_of_text? hfirst]
  | _ => cases h

end Json

theorem SchemaType.ofJson?_eq_some {value : Json} {type : SchemaType} :
    SchemaType.ofJson? value = some type ↔ value = type.toJson := by
  constructor
  · intro h
    unfold SchemaType.ofJson? at h
    split at h
    · next text htext =>
      cases h
      exact Json.eq_text_of_text? htext
    · next names _ hnames =>
      cases h
      exact Json.eq_ofTexts_of_texts? hnames
    · cases h
  · rintro rfl
    exact SchemaNode.ofJson?_toJson type

namespace SchemaNode

/-- What can be said at a node by a correction. -/
inductive Entry where
  | type (kind : SchemaType)
  | title (wording : String)
  | description (wording : String)
  | format (wording : String)
  deriving DecidableEq, Repr

namespace Entry

def field : Entry → String
  | .type _ => "type"
  | .title _ => "title"
  | .description _ => "description"
  | .format _ => "format"

/-- The value of the field: a text, or for a type also a list of texts. -/
def value : Entry → Json
  | .type kind => kind.toJson
  | .title wording => .text wording
  | .description wording => .text wording
  | .format wording => .text wording

def set : Entry → SchemaNode → SchemaNode
  | .type kind, node => { node with type := some kind }
  | .title wording, node => { node with title := some wording }
  | .description wording, node => { node with description := some wording }
  | .format wording, node => { node with format := some wording }

theorem shallow (entry : Entry) : Shallow entry.set where
  behind? node step := by cases entry <;> cases step <;> rfl
  withBehind node step child := by cases entry <;> cases step <;> rfl

theorem edits (entry : Entry) (node : SchemaNode) : Edits node (entry.set node) := by
  cases entry <;> exact edits_of_eq rfl rfl rfl

theorem set_comm {a b : Entry} (h : a.field ≠ b.field) (node : SchemaNode) :
    a.set (b.set node) = b.set (a.set node) := by
  cases a <;> cases b <;> simp_all [field, set]

theorem set_set {a b : Entry} (h : a.field = b.field) (node : SchemaNode) : a.set (b.set node) = a.set node := by
  cases a <;> cases b <;> simp_all [field, set]

theorem field_ne_empty (entry : Entry) : entry.field ≠ "" := by
  cases entry <;> simp [field]

end Entry

/-- An entry for the node at a position. -/
structure Correction where
  steps : List Step
  entry : Entry
  deriving DecidableEq, Repr

namespace Correction

/-- A correction as it is spelled in a path. -/
def segments (correction : Correction) : List String :=
  correction.steps.flatMap Step.segments ++ [correction.entry.field]

def correct (correction : Correction) (root : SchemaNode) : SchemaNode :=
  root.updateAt correction.entry.set correction.steps

theorem isSome_at?_correct (correction : Correction) (root : SchemaNode) (position : List Step) :
    ((correction.correct root).at? position).isSome = (root.at? position).isSome :=
  isSome_at?_updateAt correction.entry.shallow correction.steps position root

theorem segments_eq_iff {a b : Correction} :
    a.segments = b.segments ↔ a.steps = b.steps ∧ a.entry.field = b.entry.field := by
  rw [segments, segments, List.append_singleton_inj]
  exact and_congr_left' ⟨steps_eq_of_segments_eq, congrArg (List.flatMap Step.segments)⟩

end Correction

end SchemaNode

/-! ## One patch -/

namespace SchemaPatch
open SchemaNode (Step Entry Correction Edits HasPath)

/-- The field can be patched, and the value is of its shape: a text or a list of texts for a type, a text for the
others. -/
def Accepts (field : String) (value : Json) : Prop :=
  field = "type" ∧ (value.text?.isSome ∨ value.texts?.isSome) ∨
    field ∈ ["title", "description", "format"] ∧ value.text?.isSome

/-- The path of the patch leads to a node, and ends with a field that accepts the value. -/
def Fits (patch : SchemaPatch) (root : SchemaNode) : Prop :=
  ∃ steps field, segments patch.path = steps ++ [field] ∧ HasPath steps root ∧ Accepts field patch.value

theorem Fits.congr {patch : SchemaPatch} {a b : SchemaNode} (h : SchemaNode.SamePaths a b) :
    patch.Fits a ↔ patch.Fits b := by
  unfold Fits
  simp only [h _]

/-- The path, without the slashes at its start and split at the others, is the position of the correction and behind it
its field; the value is that of its entry. -/
def Spells (patch : SchemaPatch) (correction : Correction) : Prop :=
  (patch.path.toList.dropWhile (· = '/')).splitOn '/' = correction.segments.map String.toList ∧
    patch.value = correction.entry.value

theorem Spells.segments_eq {patch : SchemaPatch} {correction : Correction} (h : patch.Spells correction) :
    segments patch.path = correction.segments :=
  segments_eq_iff.2 h.1

theorem setField_ok {field : String} {value : Json} {node changed : SchemaNode} :
    setField field value node = .ok changed ↔
      ∃ entry : Entry, entry.field = field ∧ entry.value = value ∧ entry.set node = changed := by
  constructor
  · intro h
    unfold setField at h
    split at h
    · next hfield =>
      split at h
      · next kind hkind =>
        cases h
        exact ⟨.type kind, hfield.symm, (SchemaType.ofJson?_eq_some.1 hkind).symm, rfl⟩
      · cases h
    split at h
    · next hfield =>
      split at h
      · next wording hwording =>
        cases h
        exact ⟨.title wording, hfield.symm, (Json.eq_text_of_text? hwording).symm, rfl⟩
      · cases h
    split at h
    · next hfield =>
      split at h
      · next wording hwording =>
        cases h
        exact ⟨.description wording, hfield.symm, (Json.eq_text_of_text? hwording).symm, rfl⟩
      · cases h
    split at h
    · next hfield =>
      split at h
      · next wording hwording =>
        cases h
        exact ⟨.format wording, hfield.symm, (Json.eq_text_of_text? hwording).symm, rfl⟩
      · cases h
    cases h
  · rintro ⟨entry, rfl, rfl, rfl⟩
    cases entry with
    | type kind => simp [setField, Entry.field, Entry.value, Entry.set, SchemaNode.ofJson?_toJson]
    | title wording => rfl
    | description wording => rfl
    | format wording => rfl

theorem accepts_iff {field : String} {value : Json} :
    Accepts field value ↔ ∃ entry : Entry, entry.field = field ∧ entry.value = value := by
  constructor
  · rintro (⟨rfl, htype⟩ | ⟨hfield, htext⟩)
    · have hsome : (SchemaType.ofJson? value).isSome := by
        unfold SchemaType.ofJson?
        split <;> simp_all
      obtain ⟨kind, hkind⟩ := Option.isSome_iff_exists.1 hsome
      exact ⟨.type kind, rfl, (SchemaType.ofJson?_eq_some.1 hkind).symm⟩
    · obtain ⟨wording, hwording⟩ := Option.isSome_iff_exists.1 htext
      have hvalue := Json.eq_text_of_text? hwording
      simp only [List.mem_cons, List.not_mem_nil, or_false] at hfield
      rcases hfield with rfl | rfl | rfl
      · exact ⟨.title wording, rfl, hvalue.symm⟩
      · exact ⟨.description wording, rfl, hvalue.symm⟩
      · exact ⟨.format wording, rfl, hvalue.symm⟩
  · rintro ⟨entry, rfl, rfl⟩
    cases entry with
    | type kind =>
      refine .inl ⟨rfl, ?_⟩
      cases kind with
      | single name => exact .inl rfl
      | choice names => exact .inr (Option.isSome_of_eq_some (Json.texts?_ofTexts names))
    | title wording => exact .inr ⟨by simp [Entry.field], rfl⟩
    | description wording => exact .inr ⟨by simp [Entry.field], rfl⟩
    | format wording => exact .inr ⟨by simp [Entry.field], rfl⟩

section OnePatch
variable {patch : SchemaPatch} {correction : Correction} {root patched : SchemaNode}

theorem fits_iff :
    patch.Fits root ↔ ∃ correction, patch.Spells correction ∧ (root.at? correction.steps).isSome := by
  constructor
  · rintro ⟨path, field, hsegments, hpath, haccepts⟩
    obtain ⟨steps, rfl, hsteps⟩ := SchemaNode.hasPath_iff.1 hpath
    obtain ⟨entry, rfl, hvalue⟩ := accepts_iff.1 haccepts
    exact ⟨⟨steps, entry⟩, ⟨segments_eq_iff.1 hsegments, hvalue.symm⟩, hsteps⟩
  · rintro ⟨correction, hspells, hsteps⟩
    exact ⟨_, _, hspells.segments_eq, SchemaNode.hasPath_iff.2 ⟨correction.steps, rfl, hsteps⟩,
      accepts_iff.2 ⟨correction.entry, rfl, hspells.2.symm⟩⟩

theorem applyTo_of_spells (hspells : patch.Spells correction) (hsteps : (root.at? correction.steps).isSome) :
    patch.applyTo root = .ok (correction.correct root) := by
  obtain ⟨target, htarget⟩ := Option.isSome_iff_exists.1 hsteps
  have hset : setField correction.entry.field patch.value target = .ok (correction.entry.set target) :=
    setField_ok.2 ⟨correction.entry, rfl, hspells.2.symm, rfl⟩
  unfold applyTo
  simp only [hspells.segments_eq, Correction.segments, List.getLast?_concat, List.dropLast_concat]
  rw [if_neg correction.entry.field_ne_empty, changeAt_segments htarget hset, Correction.correct]
  exact congrArg Except.ok (SchemaNode.updateAt_congr htarget rfl)

theorem spells_of_applyTo (h : patch.applyTo root = .ok patched) :
    ∃ correction, patch.Spells correction ∧ (root.at? correction.steps).isSome := by
  unfold applyTo at h
  rcases List.eq_nil_or_concat (segments patch.path) with hnil | ⟨path, field, hsegments⟩
  · simp [hnil] at h
  · simp only [hsegments, List.concat_eq_append, List.getLast?_concat, List.dropLast_concat] at h
    split at h
    · cases h
    · obtain ⟨steps, target, new, rfl, htarget, hnew, -⟩ := changeAt_ok.1 h
      obtain ⟨entry, rfl, hvalue, -⟩ := setField_ok.1 hnew
      rw [List.concat_eq_append] at hsegments
      exact ⟨⟨steps, entry⟩, ⟨segments_eq_iff.1 hsegments, hvalue.symm⟩, Option.isSome_of_eq_some htarget⟩

theorem applyTo_ok : (∃ patched, patch.applyTo root = .ok patched) ↔ patch.Fits root := by
  rw [fits_iff]
  constructor
  · rintro ⟨patched, hpatched⟩
    exact spells_of_applyTo hpatched
  · rintro ⟨correction, hspells, hsteps⟩
    exact ⟨_, applyTo_of_spells hspells hsteps⟩

theorem applyTo_edits (h : patch.applyTo root = .ok patched) : Edits root patched := by
  obtain ⟨correction, hspells, hsteps⟩ := spells_of_applyTo h
  rw [applyTo_of_spells hspells hsteps] at h
  cases h
  exact SchemaNode.edits_updateAt correction.entry.edits correction.steps root

end OnePatch

/-- The schema with the patch applied, or as it is where the patch does not fit. -/
def patchedRoot (patch : SchemaPatch) (root : SchemaNode) : SchemaNode := (patch.applyTo root).toOption.getD root

theorem patchedRoot_of_ok {patch : SchemaPatch} {root patched : SchemaNode} (h : patch.applyTo root = .ok patched) :
    patch.patchedRoot root = patched := by
  rw [patchedRoot, h]
  rfl

theorem patchedRoot_of_spells {patch : SchemaPatch} {correction : Correction} {root : SchemaNode}
    (hspells : patch.Spells correction) (hsteps : (root.at? correction.steps).isSome) :
    patch.patchedRoot root = correction.correct root :=
  patchedRoot_of_ok (applyTo_of_spells hspells hsteps)

theorem patchedRoot_of_not_fits {patch : SchemaPatch} {root : SchemaNode} (h : ¬patch.Fits root) :
    patch.patchedRoot root = root := by
  rw [patchedRoot]
  cases happlied : patch.applyTo root with
  | ok patched => exact absurd (applyTo_ok.1 ⟨patched, happlied⟩) h
  | error fault => rfl

theorem edits_patchedRoot (patch : SchemaPatch) (root : SchemaNode) :
    SchemaNode.Edits root (patch.patchedRoot root) := by
  rw [patchedRoot]
  cases happlied : patch.applyTo root with
  | ok patched => exact applyTo_edits happlied
  | error fault => exact .refl root

end SchemaPatch

end ApiCatalog
