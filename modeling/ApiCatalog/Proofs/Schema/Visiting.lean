import ApiCatalog.Proofs.Schema.References
import Mathlib.Data.List.Forall2
import Mathlib.Data.Option.Basic

/-!
# Visiting the references of a schema

Two recursions go through a schema: `SchemaNode.references` reads its references and `SchemaNode.mapReferences`
rewrites them. They go in the same order and stop at the same places (`references_mapReferences`), and a visit leaves the
rest of the schema alone (`Relinked`). For a function with a state, this is `mapReferences_exact`: the function is called
on the references, one after the other, the state of each call is the one that the call before it left, and what the calls
return is read afterwards.

What a function does when it is called is known of the function alone. That a visit does the same is said once, for
functions of any two kinds (`Sequential.mapReferences`): a relation between steps that sequences respect is passed on
from the calls to the visit. A function that writes down its calls, one that never fails, and one that may fail and is
told by a flag are compared in this way with the functions that they come from. The last is how the references of a schema
are put in canonical form: the function that does it may fail, but the visit goes to the end (`Library.schema_of_decode`).
-/

namespace ApiCatalog

/-! ## Steps of two kinds -/

section Relating
variable {m n : Type → Type} [Monad m] [Monad n]

/-- A relation between steps of two kinds that holds of equal results and of sequences of related steps. -/
structure Sequential (R : (α : Type) → m α → n α → Prop) : Prop where
  pure : ∀ {α : Type} (a : α), R _ (pure a) (pure a)
  bind : ∀ {α β : Type} {step : m α} {other : n α} {next : α → m β} {otherNext : α → n β}, R _ step other →
    (∀ a, R _ (next a) (otherNext a)) → R _ (step >>= next) (other >>= otherNext)

namespace Sequential
variable {R : (α : Type) → m α → n α → Prop} {f : String → m String} {g : String → n String}

theorem mapReference (hR : Sequential R) (hf : ∀ reference, R _ (f reference) (g reference)) (reference : Option String) :
    R _ (SchemaNode.mapReference f reference) (SchemaNode.mapReference g reference) := by
  cases reference with
  | none => exact hR.pure none
  | some reference => exact hR.bind (hf reference) fun _ => hR.pure _

mutual

/-- Functions that do related steps for each reference do related steps for a node. -/
theorem mapReferences (hR : Sequential R) (hf : ∀ reference, R _ (f reference) (g reference)) (node : SchemaNode) :
    R _ (node.mapReferences f) (node.mapReferences g) := by
  obtain ⟨title, description, type, format, properties, required, items, values, reference⟩ := node
  unfold SchemaNode.mapReferences
  exact hR.bind (hR.mapReference hf reference) fun _ => hR.bind (hR.mapPropertyReferences hf properties) fun _ =>
    hR.bind (hR.mapItemReferences hf items) fun _ => hR.pure _

theorem mapPropertyReferences (hR : Sequential R) (hf : ∀ reference, R _ (f reference) (g reference))
    (properties : Option (List (String × SchemaNode))) :
    R _ (SchemaNode.mapPropertyReferences f properties) (SchemaNode.mapPropertyReferences g properties) := by
  cases properties with
  | none => exact hR.pure none
  | some members => exact hR.bind (hR.mapMemberReferences hf members) fun _ => hR.pure _

theorem mapMemberReferences (hR : Sequential R) (hf : ∀ reference, R _ (f reference) (g reference))
    (members : List (String × SchemaNode)) :
    R _ (SchemaNode.mapMemberReferences f members) (SchemaNode.mapMemberReferences g members) := by
  cases members with
  | nil => exact hR.pure []
  | cons member rest =>
    obtain ⟨name, node⟩ := member
    exact hR.bind (hR.mapReferences hf node) fun _ => hR.bind (hR.mapMemberReferences hf rest) fun _ => hR.pure _

theorem mapItemReferences (hR : Sequential R) (hf : ∀ reference, R _ (f reference) (g reference))
    (items : Option SchemaNode) : R _ (SchemaNode.mapItemReferences f items) (SchemaNode.mapItemReferences g items) := by
  cases items with
  | none => exact hR.pure none
  | some node => exact hR.bind (hR.mapReferences hf node) fun _ => hR.pure _

end

end Sequential

end Relating

/-! ## What a visit leaves alone -/

/-- The nodes agree in all but their references, at every depth, and each reference of the new one stands to that of
the old one as `R` says. -/
inductive SchemaNode.Relinked (R : String → String → Prop) : SchemaNode → SchemaNode → Prop
  | node {old new : SchemaNode}
      (own : new = { old with properties := new.properties, items := new.items, reference := new.reference })
      (reference : Option.Rel R old.reference new.reference)
      (names : new.properties.map (·.map Prod.fst) = old.properties.map (·.map Prod.fst))
      (properties : Option.Rel (List.Forall₂ fun a b => Relinked R a.2 b.2) old.properties new.properties)
      (items : Option.Rel (Relinked R) old.items new.items) : Relinked R old new

namespace SchemaNode
variable {σ ε : Type} {f : String → StateT σ (Except ε) String} {R : String → String → Prop}

theorem relinked_mapReference
    (hf : ∀ {reference form s t}, (f reference).run s = .ok (form, t) → R reference form) (reference : Option String)
    {form : Option String} {s t : σ} (h : (mapReference f reference).run s = .ok (form, t)) :
    Option.Rel R reference form := by
  cases reference with
  | none =>
    cases h
    exact .none
  | some reference =>
    simp only [mapReference, run_bind_ok] at h
    obtain ⟨form, u, hform, hsome⟩ := h
    cases hsome
    exact .some (hf hform)

mutual

theorem relinked_mapReferences
    (hf : ∀ {reference form s t}, (f reference).run s = .ok (form, t) → R reference form) (node : SchemaNode)
    {root : SchemaNode} {s t : σ} (h : (node.mapReferences f).run s = .ok (root, t)) : Relinked R node root := by
  obtain ⟨title, description, type, format, properties, required, items, values, reference⟩ := node
  simp only [mapReferences, run_bind_ok] at h
  obtain ⟨reference', u, hreference, properties', v, hproperties, items', w, hitems, hroot⟩ := h
  cases hroot
  obtain ⟨hnames, hnodes⟩ := relinked_mapPropertyReferences hf properties hproperties
  exact .node rfl (relinked_mapReference hf reference hreference) hnames hnodes
    (relinked_mapItemReferences hf items hitems)

theorem relinked_mapPropertyReferences
    (hf : ∀ {reference form s t}, (f reference).run s = .ok (form, t) → R reference form)
    (properties : Option (List (String × SchemaNode))) {properties' : Option (List (String × SchemaNode))} {s t : σ}
    (h : (mapPropertyReferences f properties).run s = .ok (properties', t)) :
    properties'.map (·.map Prod.fst) = properties.map (·.map Prod.fst) ∧
      Option.Rel (List.Forall₂ fun a b => Relinked R a.2 b.2) properties properties' := by
  cases properties with
  | none =>
    cases h
    exact ⟨rfl, .none⟩
  | some members =>
    simp only [mapPropertyReferences, run_bind_ok] at h
    obtain ⟨members', u, hmembers, hproperties⟩ := h
    cases hproperties
    obtain ⟨hnames, hnodes⟩ := relinked_mapMemberReferences hf members hmembers
    exact ⟨congrArg some hnames, .some hnodes⟩

theorem relinked_mapMemberReferences
    (hf : ∀ {reference form s t}, (f reference).run s = .ok (form, t) → R reference form)
    (members : List (String × SchemaNode)) {members' : List (String × SchemaNode)} {s t : σ}
    (h : (mapMemberReferences f members).run s = .ok (members', t)) :
    members'.map Prod.fst = members.map Prod.fst ∧ List.Forall₂ (fun a b => Relinked R a.2 b.2) members members' := by
  cases members with
  | nil =>
    cases h
    exact ⟨rfl, .nil⟩
  | cons member rest =>
    obtain ⟨name, node⟩ := member
    simp only [mapMemberReferences, run_bind_ok] at h
    obtain ⟨node', u, hnode, rest', v, hrest, hmembers⟩ := h
    cases hmembers
    obtain ⟨hnames, hnodes⟩ := relinked_mapMemberReferences hf rest hrest
    exact ⟨congrArg (name :: ·) hnames, .cons (relinked_mapReferences hf node hnode) hnodes⟩

theorem relinked_mapItemReferences
    (hf : ∀ {reference form s t}, (f reference).run s = .ok (form, t) → R reference form) (items : Option SchemaNode)
    {items' : Option SchemaNode} {s t : σ} (h : (mapItemReferences f items).run s = .ok (items', t)) :
    Option.Rel (Relinked R) items items' := by
  cases items with
  | none =>
    cases h
    exact .none
  | some node =>
    simp only [mapItemReferences, run_bind_ok] at h
    obtain ⟨node', u, hnode, hitems⟩ := h
    cases hitems
    exact .some (relinked_mapReferences hf node hnode)

end

end SchemaNode

/-! ## Functions with a state -/

namespace SchemaNode

/-- The step never fails, and does what the plain one does. -/
def NeverFails {σ α : Type} (step : StateT σ (Except Empty) α) (plain : StateM σ α) : Prop :=
  ∀ s, step.run s = .ok (plain.run s)

theorem sequential_neverFails {σ : Type} : Sequential (@NeverFails σ) where
  pure _ _ := rfl
  bind hstep hnext s := by
    rw [StateT.run_bind, hstep s]
    exact hnext _ _

/-- The step does what the plain one does, and writes something down. -/
def Logs {σ α : Type} (step : StateM (σ × List String) α) (plain : StateM σ α) : Prop :=
  ∀ s calls, ∃ more, step.run (s, calls) = ((plain.run s).1, (plain.run s).2, calls ++ more)

theorem sequential_logs {σ : Type} : Sequential (@Logs σ) where
  pure _ _ _ := ⟨[], by rw [List.append_nil]; rfl⟩
  bind {_ _ _ plain _ _} hstep hnext s calls := by
    obtain ⟨more, hmore⟩ := hstep s calls
    obtain ⟨later, hlater⟩ := hnext (plain.run s).1 (plain.run s).2 (calls ++ more)
    refine ⟨more ++ later, ?_⟩
    rw [StateT.run_bind, hmore, ← List.append_assoc]
    exact hlater

section Stateful
variable {σ : Type} (f : String → StateM σ String)

/-- The function, which also writes down what it is called on. -/
def logged (reference : String) : StateM (σ × List String) String := fun (s, calls) =>
  let (form, t) := (f reference).run s
  (form, t, calls ++ [reference])

theorem logs_logged (reference : String) : Logs (logged f reference) (f reference) :=
  fun _ _ => ⟨[reference], rfl⟩

theorem calls_mapM_logged (references : List String) (s : σ) (calls : List String) :
    ((references.mapM (logged f)).run (s, calls)).2.2 = calls ++ references := by
  induction references generalizing s calls with
  | nil => exact (List.append_nil calls).symm
  | cons reference rest ih =>
    rw [List.mapM_cons, List.append_cons]
    exact ih ((f reference).run s).2 (calls ++ [reference])

theorem run_mapReferences_logged (node : SchemaNode) (s : σ) :
    (node.mapReferences (logged f)).run (s, []) =
      (((node.mapReferences f).run s).1, ((node.mapReferences f).run s).2, node.references) := by
  obtain ⟨calls, hrun⟩ := sequential_logs.mapReferences (logs_logged f) node s []
  -- reading the references of the result leaves the state alone, so the calls are those along the list
  have hcalls : ((node.mapReferences (logged f)).run (s, [])).2.2 = node.references :=
    calc ((references <$> node.mapReferences (logged f)).run (s, [])).2.2
      _ = ((node.references.mapM (logged f)).run (s, [])).2.2 := by rw [references_mapReferences]
      _ = node.references := calls_mapM_logged f node.references s []
  rw [List.nil_append] at hrun
  rw [hrun] at hcalls
  rw [hrun, ← hcalls]

theorem relinked_run (node : SchemaNode) (s : σ) :
    Relinked (fun _ _ => True) node ((node.mapReferences f).run s).1 := by
  have hrun : NeverFails (node.mapReferences fun reference s => .ok ((f reference).run s)) (node.mapReferences f) :=
    sequential_neverFails.mapReferences (fun _ _ => rfl) node
  exact relinked_mapReferences (fun _ => trivial) node (hrun s)

/-- **The visit and the list agree.** A function with a state is called on the references of a node, in their order and on
each of them once. Result by result and state by state, this is calling it along the list of the references, and the list
of its results is that of the references afterwards. Nothing else in the node changes, at any depth, and there are
references where there were some. -/
theorem mapReferences_exact (node : SchemaNode) (s : σ) :
    ∃ new t, (node.mapReferences f).run s = (new, t) ∧
      (node.mapReferences (logged f)).run (s, []) = (new, t, node.references) ∧
      (node.references.mapM f).run s = (new.references, t) ∧ Relinked (fun _ _ => True) node new := by
  refine ⟨_, _, rfl, run_mapReferences_logged f node s, ?_, relinked_run f node s⟩
  rw [← references_mapReferences]
  rfl

/-- A counter numbers the references in the order of the visit, those of a property's items before those of the next
property. -/
example :
    let child (reference : String) : SchemaNode := { reference := some reference }
    let node : SchemaNode :=
      { properties := some [("a", { items := some (child "a.json") }), ("b", child "b.json")]
        items := some (child "c.json") }
    let number (reference : String) : StateM Nat String := fun n => (reference ++ toString n, n + 1)
    let visited := (node.mapReferences number).run 1
    visited.1.references = ["a.json1", "b.json2", "c.json3"] ∧ visited.2 = 4 := by
  decide

end Stateful

/-! ## Functions that may fail -/

section Failing
variable {σ ε α : Type}

/-- What came of a visit, by its flag: the first failure, or the result and the state. -/
def outcome : α × Option ε × σ → Except ε (α × σ)
  | (a, none, t) => .ok (a, t)
  | (_, some e, _) => .error e

theorem outcome_of_flag {visited : α × Option ε × σ} {e : ε} (h : visited.2.1 = some e) :
    outcome visited = .error e := by
  obtain ⟨a, flag, t⟩ := visited
  cases h
  rfl

/-- The plain step tells by the flag what comes of the other one, and it keeps a flag that is set. -/
def Flags {σ ε α : Type} (step : StateT σ (Except ε) α) (plain : StateM (Option ε × σ) α) : Prop :=
  (∀ s, step.run s = outcome (plain.run (none, s))) ∧ ∀ e s, (plain.run (some e, s)).2.1 = some e

theorem sequential_flags : Sequential (@Flags σ ε) where
  pure _ := ⟨fun _ => rfl, fun _ _ => rfl⟩
  bind {_ _ _ plain _ plainNext} hstep hnext := by
    have hkeeps (e : ε) (a : _) (t : σ) : ((plainNext a).run (some e, t)).2.1 = some e := (hnext a).2 e t
    refine ⟨fun s => ?_, fun e s => ?_⟩
    · rw [StateT.run_bind, StateT.run_bind, hstep.1 s]
      rcases plain.run (none, s) with ⟨a, flag, t⟩
      cases flag with
      | none => exact (hnext a).1 t
      -- the other step has stopped here; the plain one goes on, and comes to nothing else
      | some e => exact (outcome_of_flag (hkeeps e a t)).symm
    · have hflag := hstep.2 e s
      rw [StateT.run_bind]
      rcases hplain : plain.run (some e, s) with ⟨a, flag, t⟩
      rw [hplain] at hflag
      cases hflag
      exact hkeeps e a t

/-- A function that may fail, as one that does not: it sets the flag to the first failure, and from then on it leaves the
references as they are. -/
def flagged (f : String → StateT σ (Except ε) String) (reference : String) : StateM (Option ε × σ) String
  | (some e, s) => (reference, some e, s)
  | (none, s) =>
    match (f reference).run s with
    | .ok (form, t) => (form, none, t)
    | .error e => (reference, some e, s)

theorem flags_flagged (f : String → StateT σ (Except ε) String) (reference : String) :
    Flags (f reference) (flagged f reference) := by
  refine ⟨fun s => ?_, fun _ _ => rfl⟩
  simp only [flagged, StateT.run]
  rcases f reference s with e | ⟨form, t⟩
  · rfl
  · rfl

/-- A visit that stops at the first failure comes to what a full visit comes to that is flagged there. -/
theorem run_mapReferences_flagged (f : String → StateT σ (Except ε) String) (node : SchemaNode) (s : σ) :
    (node.mapReferences f).run s = outcome ((node.mapReferences (flagged f)).run (none, s)) :=
  (sequential_flags.mapReferences (flags_flagged f) node).1 s

end Failing

end SchemaNode

theorem Library.schema_of_decode {library : Library} {key : SchemaKey} {body : String} {node : SchemaNode}
    (hanswer : library.answer key.location = .ok body) (hdecode : SchemaNode.decode key.url body = .ok node) :
    library.schema key =
      (SchemaNode.outcome ((node.mapReferences (SchemaNode.flagged (canonicalReference key.location))).run (none, []))).mapError
        fun fault => .decode key.url fault.message := by
  unfold schema
  rw [← SchemaNode.run_mapReferences_flagged]
  simp only [hanswer, hdecode]
  rcases (node.mapReferences (canonicalReference key.location)).run [] with fault | found
  · rfl
  · rfl

end ApiCatalog
