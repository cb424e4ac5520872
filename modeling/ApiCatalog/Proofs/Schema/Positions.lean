import ApiCatalog.Proofs.Performing
import ApiCatalog.Proofs.Schema.Revisions
import ApiCatalog.Schema.Patch

/-!
# Positions in a schema

A position is a list of steps, each to a property by its name or to the items, so that what a name looks like does not
matter: a property may be called `items`. `at?` finds the node at a position and `updateAt` changes it. Where the
change is to what is said at the node and not to what is in it (`Shallow`), every other position keeps what is said
there (`own_at?_updateAt`), changes at different positions commute (`updateAt_comm`), and of two changes at one
position the later may absorb the earlier (`updateAt_updateAt`).
-/

namespace ApiCatalog

namespace SchemaNode

inductive Step where
  | property (name : String)
  | items
  deriving DecidableEq, Repr

def Step.segments : Step → List String
  | .property name => ["properties", name]
  | .items => ["items"]

/-! ## One step -/

def behind? (node : SchemaNode) : Step → Option SchemaNode
  | .property name => node.property? name
  | .items => node.items

/-- The node with another one behind a step. Where there is none behind it, nothing changes. -/
def withBehind (node : SchemaNode) : Step → SchemaNode → SchemaNode
  | .property name, child => { node with properties := node.properties.map (SchemaPatch.setProperty · name child) }
  | .items, child => { node with items := node.items.map fun _ => child }

theorem lookup_setProperty {members : List (String × SchemaNode)} {name other : String} {node : SchemaNode} :
    (SchemaPatch.setProperty members name node).lookup other =
      if other = name then (members.lookup other).map fun _ => node else members.lookup other := by
  induction members with
  | nil => simp [SchemaPatch.setProperty]
  | cons member rest ih =>
    obtain ⟨known, child⟩ := member
    rw [SchemaPatch.setProperty, List.map_cons, ← SchemaPatch.setProperty]
    by_cases hknown : known = name
    · subst hknown
      by_cases hother : other = known
      · simp [hother]
      · simp [List.lookup_cons, beq_false_of_ne hother, ih, hother]
    · rw [if_neg (by simpa using hknown), List.lookup_cons, List.lookup_cons, ih]
      by_cases hother : other = known
      · simp [hother, hknown]
      · simp [beq_false_of_ne hother]

section OneStep
variable {node child other : SchemaNode} {step later : Step}

theorem behind?_withBehind : (node.withBehind step child).behind? later =
    if later = step then (node.behind? later).map fun _ => child else node.behind? later := by
  cases step with
  | items => cases later <;> simp [behind?, withBehind, property?]
  | property name =>
    cases later with
    | items => simp [behind?, withBehind]
    | property sought =>
      cases hproperties : node.properties with
      | none => simp [behind?, withBehind, property?, hproperties]
      | some members => simp [behind?, withBehind, property?, hproperties, lookup_setProperty]

theorem withBehind_withBehind : (node.withBehind step child).withBehind step other = node.withBehind step other := by
  cases step with
  | items => simp [withBehind, Function.comp_def]
  | property name =>
    have hset (members : List (String × SchemaNode)) :
        SchemaPatch.setProperty (SchemaPatch.setProperty members name child) name other =
          SchemaPatch.setProperty members name other := by
      rw [SchemaPatch.setProperty, SchemaPatch.setProperty, SchemaPatch.setProperty, List.map_map]
      refine List.map_congr_left fun member _ => ?_
      by_cases hname : member.1 = name <;> simp [hname]
    simp [withBehind, Function.comp_def, hset]

theorem withBehind_comm (hne : step ≠ later) :
    (node.withBehind step child).withBehind later other = (node.withBehind later other).withBehind step child := by
  cases step with
  | items =>
    cases later with
    | items => exact absurd rfl hne
    | property name => rfl
  | property name =>
    cases later with
    | items => rfl
    | property sought =>
      have hnames : name ≠ sought := fun h => hne (congrArg Step.property h)
      have hset (members : List (String × SchemaNode)) :
          SchemaPatch.setProperty (SchemaPatch.setProperty members name child) sought other =
            SchemaPatch.setProperty (SchemaPatch.setProperty members sought other) name child := by
        simp only [SchemaPatch.setProperty, List.map_map]
        refine List.map_congr_left fun member _ => ?_
        by_cases hname : member.1 = name
        · simp [hname, hnames]
        · by_cases hsought : member.1 = sought <;> simp [hname, hsought, hnames.symm]
      simp [withBehind, Function.comp_def, hset]

end OneStep

/-! ## Positions -/

def at? : SchemaNode → List Step → Option SchemaNode
  | node, [] => some node
  | node, step :: rest => (node.behind? step).bind fun child => child.at? rest

def updateAt (f : SchemaNode → SchemaNode) : List Step → SchemaNode → SchemaNode
  | [], node => f node
  | step :: rest, node =>
    match node.behind? step with
    | none => node
    | some child => node.withBehind step (updateAt f rest child)

/-- What is said at a node: all of it but what is in the nodes below, of which the names and the order count. -/
def own (node : SchemaNode) : SchemaNode :=
  { node with
    properties := node.properties.map (·.map fun member => (member.1, {}))
    items := node.items.map fun _ => {} }

/-- A change to what is said at a node, which neither looks at what is in the node nor changes it. -/
structure Shallow (f : SchemaNode → SchemaNode) : Prop where
  behind? (node : SchemaNode) (step : Step) : (f node).behind? step = node.behind? step
  withBehind (node : SchemaNode) (step : Step) (child : SchemaNode) :
    f (node.withBehind step child) = (f node).withBehind step child

section Positions
variable {f g : SchemaNode → SchemaNode}

theorem own_withBehind (node child : SchemaNode) (step : Step) : (node.withBehind step child).own = node.own := by
  cases step with
  | items => simp [own, withBehind, Function.comp_def]
  | property name =>
    have hset (members : List (String × SchemaNode)) :
        (SchemaPatch.setProperty members name child).map (fun member => (member.1, ({} : SchemaNode))) =
          members.map fun member => (member.1, {}) := by
      rw [SchemaPatch.setProperty, List.map_map]
      refine List.map_congr_left fun member _ => ?_
      by_cases hname : member.1 = name <;> simp [hname]
    simp [own, withBehind, Function.comp_def, hset]

/-- **Every position keeps what is said there**, but the one that is changed. -/
theorem own_at?_updateAt (hf : Shallow f) (steps position : List Step) (node : SchemaNode) :
    ((node.updateAt f steps).at? position).map own =
      if position = steps then ((node.at? position).map f).map own else (node.at? position).map own := by
  induction steps generalizing position node with
  | nil =>
    cases position with
    | nil => rfl
    | cons step rest => simp [updateAt, at?, hf.behind?]
  | cons step rest ih =>
    rw [updateAt]
    cases hchild : node.behind? step with
    | none =>
      by_cases hposition : position = step :: rest
      · simp [hposition, at?, hchild]
      · rw [if_neg hposition]
    | some child =>
      cases position with
      | nil => simp [at?, own_withBehind]
      | cons later more =>
        rw [at?, behind?_withBehind, at?]
        by_cases hlater : later = step
        · subst hlater
          simpa [hchild] using ih more child
        · simp [hlater]

theorem isSome_at?_updateAt (hf : Shallow f) (steps position : List Step) (node : SchemaNode) :
    ((node.updateAt f steps).at? position).isSome = (node.at? position).isSome := by
  have hown := congrArg Option.isSome (own_at?_updateAt hf steps position node)
  split at hown <;> simpa using hown

theorem behind?_updateAt (hf : Shallow f) {step : Step} {steps : List Step} (hstep : steps.head? ≠ some step)
    (node : SchemaNode) : (node.updateAt f steps).behind? step = node.behind? step := by
  cases steps with
  | nil => exact hf.behind? node step
  | cons first rest =>
    have hne : step ≠ first := fun h => hstep (congrArg some h.symm)
    rw [updateAt]
    split
    · rfl
    · rw [behind?_withBehind, if_neg hne]

theorem updateAt_withBehind (hf : Shallow f) {step : Step} {steps : List Step} (hstep : steps.head? ≠ some step)
    (node child : SchemaNode) :
    (node.withBehind step child).updateAt f steps = (node.updateAt f steps).withBehind step child := by
  cases steps with
  | nil => exact hf.withBehind node step child
  | cons first rest =>
    have hne : first ≠ step := fun h => hstep (congrArg some h)
    rw [updateAt, updateAt, behind?_withBehind, if_neg hne]
    cases node.behind? first with
    | none => rfl
    | some below => exact withBehind_comm hne.symm

/-- **Changes at different positions commute**, and so do changes at one position if they commute themselves. -/
theorem updateAt_comm (hf : Shallow f) (hg : Shallow g) {steps others : List Step}
    (hcomm : steps = others → ∀ node, f (g node) = g (f node)) (node : SchemaNode) :
    (node.updateAt g others).updateAt f steps = (node.updateAt f steps).updateAt g others := by
  induction steps generalizing others node with
  | nil =>
    cases others with
    | nil => exact hcomm rfl node
    | cons step rest =>
      show f (node.updateAt g (step :: rest)) = (f node).updateAt g (step :: rest)
      rw [updateAt, updateAt, hf.behind?]
      cases node.behind? step with
      | none => rfl
      | some child => exact hf.withBehind node step _
  | cons step rest ih =>
    by_cases hstep : others.head? = some step
    · obtain ⟨more, rfl⟩ : ∃ more, others = step :: more := List.head?_eq_some_iff.1 hstep
      have hbelow := ih fun h => hcomm (congrArg (step :: ·) h)
      cases hchild : node.behind? step with
      | none => simp [updateAt, hchild]
      | some child =>
        simp [updateAt, hchild, behind?_withBehind, withBehind_withBehind, hbelow]
    · rw [updateAt, updateAt, behind?_updateAt hg hstep]
      cases node.behind? step with
      | none => rfl
      | some child => exact (updateAt_withBehind hg hstep node _).symm

theorem updateAt_updateAt (habsorb : ∀ node, f (g node) = f node) (steps : List Step) (node : SchemaNode) :
    (node.updateAt g steps).updateAt f steps = node.updateAt f steps := by
  induction steps generalizing node with
  | nil => exact habsorb node
  | cons step rest ih =>
    cases hchild : node.behind? step with
    | none => simp [updateAt, hchild]
    | some child => simp [updateAt, hchild, behind?_withBehind, withBehind_withBehind, ih]

theorem updateAt_congr {steps : List Step} {node target : SchemaNode} (htarget : node.at? steps = some target)
    (h : f target = g target) : node.updateAt f steps = node.updateAt g steps := by
  induction steps generalizing node with
  | nil =>
    cases htarget
    exact h
  | cons step rest ih =>
    obtain ⟨child, hchild, hbelow⟩ := Option.bind_eq_some_iff.1 htarget
    rw [updateAt, updateAt, hchild]
    exact congrArg (node.withBehind step) (ih hbelow)

end Positions

/-! ## Edits -/

theorem edits_withBehind {node child changed : SchemaNode} {step : Step} (hchild : node.behind? step = some child)
    (h : Edits child changed) : Edits node (node.withBehind step changed) := by
  refine ⟨fun reference hmem => ?_, ?_⟩
  · rw [mem_references] at hmem ⊢
    cases step with
    | items =>
      refine hmem.imp_right (Or.imp_right ?_)
      rintro ⟨_, hitems, hreference⟩
      obtain ⟨_, hitem, rfl⟩ := Option.map_eq_some_iff.1 hitems
      exact ⟨child, hchild, h.references hreference⟩
    | property name =>
      obtain ⟨members, hmembers, hlookup⟩ := Option.bind_eq_some_iff.1 hchild
      refine hmem.imp_right (Or.imp_left ?_)
      rintro ⟨members', hmembers', hreference⟩
      obtain ⟨_, hknown, rfl⟩ := Option.map_eq_some_iff.1 hmembers'
      rw [hmembers] at hknown
      cases hknown
      refine ⟨members, hmembers, ?_⟩
      rw [mem_memberReferences] at hreference ⊢
      obtain ⟨member, hmember, hreference⟩ := hreference
      obtain ⟨original, horiginal, rfl⟩ := List.mem_map.1 hmember
      split at hreference
      · -- the changed node stands in place of every property of this name
        obtain ⟨before, after, hsplit, -⟩ := List.lookup_eq_some_iff.1 hlookup
        exact ⟨(name, child), by rw [hsplit]; simp, h.references hreference⟩
      · exact ⟨original, horiginal, hreference⟩
  · have hbehind (later : Step) :
        Option.Rel SamePaths (node.behind? later) ((node.withBehind step changed).behind? later) := by
      rw [behind?_withBehind]
      split
      · next hlater =>
        rw [hlater, hchild]
        exact .some h.paths
      · exact rel_refl .refl _
    exact samePaths_of_children (fun name => hbehind (.property name)) (hbehind .items)

theorem edits_updateAt {f : SchemaNode → SchemaNode} (hf : ∀ node, Edits node (f node)) (steps : List Step)
    (node : SchemaNode) : Edits node (node.updateAt f steps) := by
  induction steps generalizing node with
  | nil => exact hf node
  | cons step rest ih =>
    rw [updateAt]
    cases hchild : node.behind? step with
    | none => exact .refl node
    | some child => exact edits_withBehind hchild (ih child)

/-! ## Paths -/

theorem hasPath_iff {path : List String} {node : SchemaNode} :
    HasPath path node ↔ ∃ steps : List Step, steps.flatMap Step.segments = path ∧ (node.at? steps).isSome := by
  constructor
  · intro h
    induction h with
    | here node => exact ⟨[], rfl, rfl⟩
    | @property node child name rest found _ ih =>
      obtain ⟨steps, rfl, hsteps⟩ := ih
      exact ⟨.property name :: steps, rfl, by rwa [at?, behind?, found]⟩
    | @items node child rest found _ ih =>
      obtain ⟨steps, rfl, hsteps⟩ := ih
      exact ⟨.items :: steps, rfl, by rwa [at?, behind?, found]⟩
  · rintro ⟨steps, rfl, hsteps⟩
    induction steps generalizing node with
    | nil => exact .here node
    | cons step rest ih =>
      obtain ⟨target, htarget⟩ := Option.isSome_iff_exists.1 hsteps
      obtain ⟨child, hchild, hbelow⟩ := Option.bind_eq_some_iff.1 htarget
      have hpath := ih (Option.isSome_of_eq_some hbelow)
      cases step with
      | property name => exact .property hchild hpath
      | items => exact .items hchild hpath

theorem steps_eq_of_segments_eq {steps others : List Step}
    (h : steps.flatMap Step.segments = others.flatMap Step.segments) : steps = others := by
  induction steps generalizing others with
  | nil =>
    rcases others with _ | ⟨_ | _, others⟩
    · rfl
    · cases h
    · cases h
  | cons step rest ih =>
    rcases step with name | _ <;> rcases others with _ | ⟨other | _, others⟩ <;>
      simp [Step.segments] at h
    · rw [h.1, ih h.2]
    · rw [ih h]

end SchemaNode

namespace SchemaPatch
open SchemaNode (Step)

theorem changeAt_segments {change : SchemaNode → Except PatchFault SchemaNode} {steps : List Step}
    {node target new : SchemaNode} (htarget : node.at? steps = some target) (hnew : change target = .ok new) :
    changeAt change (steps.flatMap Step.segments) node = .ok (node.updateAt (fun _ => new) steps) := by
  induction steps generalizing node with
  | nil =>
    cases htarget
    exact hnew
  | cons step rest ih =>
    obtain ⟨child, hchild, hbelow⟩ := Option.bind_eq_some_iff.1 htarget
    have hchanged := ih hbelow
    rw [SchemaNode.updateAt, hchild]
    cases step with
    | property name =>
      have hproperty : node.properties.bind (·.lookup name) = some child := hchild
      show changeAt change ("properties" :: name :: rest.flatMap Step.segments) node = _
      rw [changeAt, hproperty]
      exact except_bind_ok.2 ⟨_, hchanged, rfl⟩
    | items =>
      have hitems : node.items = some child := hchild
      have hput : node.withBehind .items (child.updateAt (fun _ => new) rest) =
          { node with items := some (child.updateAt (fun _ => new) rest) } := by
        simp [SchemaNode.withBehind, hitems]
      show changeAt change ("items" :: rest.flatMap Step.segments) node = _
      rw [changeAt, hitems]
      exact except_bind_ok.2 ⟨_, hchanged, congrArg Except.ok hput.symm⟩

/-- **A change at the end of a path** succeeds when the path spells a position that is there, and the node at this
position can be changed. -/
theorem changeAt_ok {change : SchemaNode → Except PatchFault SchemaNode} {path : List String}
    {node changed : SchemaNode} :
    changeAt change path node = .ok changed ↔
      ∃ steps target new, steps.flatMap Step.segments = path ∧ node.at? steps = some target ∧
        change target = .ok new ∧ node.updateAt (fun _ => new) steps = changed := by
  constructor
  · intro h
    induction path, node using changeAt.induct generalizing changed with
    | case1 node => exact ⟨[], node, changed, rfl, rfl, h, rfl⟩
    | case2 node => cases h
    | case3 name rest node hchild =>
      simp only [changeAt, hchild] at h
      cases h
    | case4 name rest node child hchild ih =>
      simp only [changeAt, hchild, except_bind_ok] at h
      obtain ⟨below, hbelow, hnode⟩ := h
      cases hnode
      obtain ⟨steps, target, new, rfl, htarget, hnew, rfl⟩ := ih hbelow
      have hbehind : node.behind? (.property name) = some child := hchild
      refine ⟨.property name :: steps, target, new, rfl, ?_, hnew, ?_⟩
      · rwa [SchemaNode.at?, hbehind]
      · rw [SchemaNode.updateAt, hbehind]
        rfl
    | case5 rest node hchild =>
      simp only [changeAt, hchild] at h
      cases h
    | case6 rest node child hchild ih =>
      simp only [changeAt, hchild, except_bind_ok] at h
      obtain ⟨below, hbelow, hnode⟩ := h
      cases hnode
      obtain ⟨steps, target, new, rfl, htarget, hnew, rfl⟩ := ih hbelow
      have hbehind : node.behind? .items = some child := hchild
      refine ⟨.items :: steps, target, new, rfl, ?_, hnew, ?_⟩
      · rwa [SchemaNode.at?, hbehind]
      · rw [SchemaNode.updateAt, hbehind]
        simp [SchemaNode.withBehind, hchild]
    | case7 segment rest node hshort hproperties hitems => simp [changeAt] at h
  · rintro ⟨steps, target, new, rfl, htarget, hnew, rfl⟩
    exact changeAt_segments htarget hnew

end SchemaPatch

end ApiCatalog
