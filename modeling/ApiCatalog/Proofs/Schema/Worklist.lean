import ApiCatalog.Proofs.Linking
import ApiCatalog.Proofs.Loading.Success
import ApiCatalog.Proofs.Schema.Following
import ApiCatalog.Proofs.Schema.Visiting

/-!
# Resolving by a worklist

The search of the resolver descends: what a schema refers to is searched before the search goes on with the
references that are left. A plain loop does the same without a descent. It keeps a stack of canonical URLs, takes
the first one in every turn, passes over it when the schema is cached, and else reads the schema, caches it and
puts the references of the schema on the stack, in front of those that are left (`Worklist.turn`).

The loop is said with URLs, texts and rewritten references only; `rewritten_url` says that what it reads is what the
resolver finds. The rest is `unwinds_follow`: a search for some keys is a part of the loop, from the moment when their
URLs are on top of the stack to the moment when the stack below them is laid bare. A search that fails ends the loop,
and one that succeeds hands on its session, whatever else is on the stack. So the induction along the search needs no
account of how deep the search is.
-/

namespace ApiCatalog

/-! ## One schema -/

/-- A reference in the schema for a URL, in canonical form. A local one stays as it is. -/
def rewriteReference (url reference : String) : Except LoadError String :=
  if isLocalReference reference then .ok reference
  else
    match Url.absolute? (documentLocation url) reference with
    | none => .error (.decode url ("cannot resolve reference '" ++ reference ++ "'"))
    | some absolute =>
      if hasPointerFragment absolute then
        .error (.decode url ("unsupported fragment in reference '" ++ reference ++ "'"))
      else .ok (canonicalUrl absolute)

/-- The schema for a URL with its references rewritten, and the rewritten references to other schemas in the order
of the visit. -/
def Library.rewritten (library : Library) (url : String) : Except LoadError (SchemaNode × List String) := do
  let body ← library.answer (documentLocation url)
  let node ← SchemaNode.decode url body
  let root ← node.mapReferences (rewriteReference url)
  let nested ← (node.references.filter (!isLocalReference ·)).mapM (rewriteReference url)
  return (root, nested)

/-- The step without a state does what the step with a state does, whatever the state. -/
def Forgets {α : Type} (url : String) (step : StateT (List SchemaKey) (Except ReferenceFault) α)
    (plain : Except LoadError α) : Prop :=
  ∀ keys, plain = ((step.run keys).map Prod.fst).mapError fun fault => .decode url fault.message

theorem sequential_forgets (url : String) : Sequential fun α => Forgets (α := α) url where
  pure _ _ := rfl
  bind {_ _ step plain next plainNext} hstep hnext keys := by
    rw [hstep keys, StateT.run_bind]
    rcases step.run keys with fault | ⟨a, between⟩
    · rfl
    · exact hnext a between

theorem forgets_rewriteReference (key : SchemaKey) (reference : String) :
    Forgets key.url (canonicalReference key.location reference) (rewriteReference key.url reference) := by
  intro keys
  show _ = ((canonicalReference key.location reference keys).map Prod.fst).mapError _
  unfold canonicalReference rewriteReference SchemaKey.ofReference
  rw [SchemaKey.documentLocation_url]
  cases isLocalReference reference with
  | true => rfl
  | false =>
    cases Url.absolute? key.location reference with
    | none => rfl
    | some absolute =>
      by_cases hfragment : hasPointerFragment absolute = true
      · simp only [SchemaKey.ofUrl?_of_pointed hfragment, if_pos hfragment]
        rfl
      · obtain ⟨other, hother, hurl⟩ := SchemaKey.exists_ofUrl? (Bool.eq_false_iff.2 hfragment)
        simp only [hother, if_neg hfragment, ← hurl]
        rfl

theorem mapM_rewriteReference {key : SchemaKey} {references : List String}
    (h : ∀ reference ∈ references, SchemaKey.Resolvable key.location reference) :
    (references.filter (!isLocalReference ·)).mapM (rewriteReference key.url) =
      .ok ((references.filterMap (SchemaKey.referred? key.location)).map SchemaKey.url) := by
  induction references with
  | nil => rfl
  | cons reference rest ih =>
    obtain ⟨hfirst, hrest⟩ := List.forall_mem_cons.1 h
    cases hlocal : isLocalReference reference with
    | true => simpa [hlocal, SchemaKey.referred?] using ih hrest
    | false =>
      obtain ⟨other, hother⟩ : ∃ other, SchemaKey.ofReference key.location reference = .ok other := by
        simpa [SchemaKey.Resolvable, hlocal] using hfirst
      have hreferred := SchemaKey.referred?_eq_some.2 ⟨hlocal, hother⟩
      have hrewrite : rewriteReference key.url reference = .ok other.url := by
        rw [forgets_rewriteReference key reference [], run_canonicalReference hfirst]
        simp [canonicalForm, hreferred, Except.map, Except.mapError]
      rw [List.filter_cons_of_pos (by simp [hlocal]), List.mapM_cons, hrewrite, ih hrest,
        List.filterMap_cons_some hreferred]
      rfl

/-- **What the loop reads** is what the resolver finds: the same schema with the same references to other schemas, or
the same error. -/
theorem Library.rewritten_url (library : Library) (key : SchemaKey) :
    library.rewritten key.url = (library.schema key).map fun found => (found.1, found.2.map SchemaKey.url) := by
  unfold rewritten schema
  rw [SchemaKey.documentLocation_url]
  cases library.answer key.location with
  | error e => rfl
  | ok body =>
    dsimp only
    show (SchemaNode.decode key.url body >>= _) = _
    cases SchemaNode.decode key.url body with
    | error e => rfl
    | ok node =>
      dsimp only
      show (node.mapReferences (rewriteReference key.url) >>= _) = _
      rw [(sequential_forgets key.url).mapReferences (forgets_rewriteReference key) node []]
      rcases hrun : (node.mapReferences (canonicalReference key.location)).run [] with fault | ⟨root, nested⟩
      · rfl
      · obtain ⟨hall, -, rfl⟩ := found_of_run hrun
        show ((node.references.filter (!isLocalReference ·)).mapM (rewriteReference key.url) >>= _) = _
        rw [mapM_rewriteReference hall]
        rfl

/-! ## The loop -/

/-- What the loop has before it: the references on its stack, the next one first, and the session so far. -/
structure Worklist where
  stack : List String
  session : Session

namespace Worklist

/-- How the loop ends: its result, and the session that it leaves. -/
abbrev Ending := Except LoadError Unit × Session

/-- One turn of the loop: the end of it, or what is before it then. -/
def turn (library : Library) : Worklist → Ending ⊕ Worklist
  | ⟨[], session⟩ => .inl (.ok (), session)
  | ⟨url :: rest, session⟩ =>
    if session.cache.contains url then .inr ⟨rest, session⟩
    else
      let asked := session.request .schema (documentLocation url)
      match library.rewritten url with
      | .error e => .inl (.error e, asked)
      | .ok (root, nested) =>
        match asked.cache.insert { sourceUrl := url, root } with
        | .error e => .inl (.error e, asked)
        | .ok cache => .inr ⟨nested ++ rest, { asked with cache }⟩

/-- The turns of the loop come to this end. -/
inductive Ends (library : Library) : Worklist → Ending → Prop
  | now {worklist : Worklist} {ending : Ending} (hturn : worklist.turn library = .inl ending) :
      Ends library worklist ending
  | later {worklist next : Worklist} {ending : Ending} (hturn : worklist.turn library = .inr next)
      (hnext : Ends library next ending) : Ends library worklist ending

variable {library : Library}

theorem Ends.unique {worklist : Worklist} {a b : Ending} (ha : Ends library worklist a)
    (hb : Ends library worklist b) : a = b := by
  induction ha with
  | now hturn =>
    cases hb with
    | now hturn' => exact Sum.inl.inj (hturn.symm.trans hturn')
    | later hturn' _ => cases hturn.symm.trans hturn'
  | later hturn _ ih =>
    cases hb with
    | now hturn' => cases hturn.symm.trans hturn'
    | later hturn' hnext =>
      cases hturn.symm.trans hturn'
      exact ih hnext

/-! ## Its turns -/

theorem turn_cached {key : SchemaKey} {rest : List String} {session : Session}
    (hcached : key.url ∈ session.cache.keys) : turn library ⟨key.url :: rest, session⟩ = .inr ⟨rest, session⟩ := by
  have hcontains : session.cache.contains key.url = true := by
    rwa [SchemaCache.contains_iff, SchemaKey.canonicalUrl_url]
  rw [turn, if_pos hcontains]

theorem turn_fails {key : SchemaKey} {rest : List String} {session : Session} {e : LoadError}
    (hfresh : key.url ∉ session.cache.keys) (hschema : library.schema key = .error e) :
    turn library ⟨key.url :: rest, session⟩ = .inl (.error e, session.request .schema key.location) := by
  rw [turn, if_neg (Session.not_contains_url hfresh), library.rewritten_url, hschema, SchemaKey.documentLocation_url]
  rfl

theorem turn_visits {key : SchemaKey} {rest : List String} {root : SchemaNode} {nested : List SchemaKey}
    {session after : Session} (hvisits : Session.Visits library key root nested session after) :
    turn library ⟨key.url :: rest, session⟩ = .inr ⟨nested.map SchemaKey.url ++ rest, after⟩ := by
  have hvisit := hvisits.visit_eq
  unfold Session.visit at hvisit
  simp only [hvisits.schema] at hvisit
  rw [turn, if_neg (Session.not_contains_url hvisits.fresh), library.rewritten_url, SchemaKey.documentLocation_url,
    hvisits.schema]
  cases hinsert : (session.request .schema key.location).cache.insert { sourceUrl := key.url, root } with
  | error e =>
    rw [hinsert] at hvisit
    cases hvisit
  | ok cache =>
    rw [hinsert] at hvisit
    cases hvisit
    simp only [Except.map, hinsert]

/-! ## The loop and the search -/

/-- With some URLs on top of the stack the loop ends as a search that fails, and after one that succeeds it goes on
with the rest of the stack. -/
def Unwinds (library : Library) (pending : List SchemaKey) (session : Session) : Ending → Prop
  | (.error e, failed) => ∀ rest, Ends library ⟨pending.map SchemaKey.url ++ rest, session⟩ (.error e, failed)
  | (.ok (), done) => ∀ rest ending, Ends library ⟨rest, done⟩ ending →
      Ends library ⟨pending.map SchemaKey.url ++ rest, session⟩ ending

/-- **A search is a part of the loop.** -/
theorem unwinds_follow (library : Library) (pending : List SchemaKey) (session : Session) :
    Unwinds library pending session (session.follow library pending).1 := by
  refine Session.follow_induct library (motive := Unwinds library) ?_ ?_ ?_ ?_ ?_ pending session
  · intro session rest ending hrest
    exact hrest
  · rintro key keys session ⟨_ | _, final⟩ hcached ih
    · exact fun rest => .later (turn_cached hcached) (ih rest)
    · exact fun rest ending hrest => .later (turn_cached hcached) (ih rest ending hrest)
  · intro key keys session e hfresh hschema rest
    exact .now (turn_fails hfresh hschema)
  · intro key keys session root nested after e deep hvisits ih rest
    exact .later (turn_visits hvisits) (ih _)
  · -- the keys that are left wait below those of the schema, and are on top when the search for these is done
    rintro key keys session root nested after deep ⟨_ | _, final⟩ hvisits ih ih'
    · exact fun rest => .later (turn_visits hvisits) (ih _ _ (ih' rest))
    · exact fun rest ending hrest => .later (turn_visits hvisits) (ih _ _ (ih' rest ending hrest))

theorem ends_iff_follow {key : SchemaKey} {session : Session} {ending : Ending} :
    Ends library ⟨[key.url], session⟩ ending ↔ ending = (session.follow library [key]).1 := by
  have hends : Ends library ⟨[key.url], session⟩ (session.follow library [key]).1 := by
    have hsearch := unwinds_follow library [key] session
    rcases hfollow : (session.follow library [key]).1 with ⟨_ | _, final⟩
    · rw [hfollow] at hsearch
      exact hsearch []
    · rw [hfollow] at hsearch
      exact hsearch [] _ (.now rfl)
  constructor
  · exact fun hother => hother.unique hends
  · rintro rfl
    exact hends

/-- **Resolving is the loop.** For a URL that is not blank and does not point into a document, whatever the cache, the
loop that starts with the canonical form of the URL comes to one end, and to no other. Resolving has the error of the
loop, or returns that canonical form where the loop has none, and leaves the same cache and the same requests in the
same order. -/
theorem resolve_as_loop {url : String} (hblank : Text.isBlank url = false) (hplain : hasPointerFragment url = false)
    (session : Session) :
    ∃ ending : Ending, (∀ other, Ends library ⟨[canonicalUrl url], session⟩ other ↔ other = ending) ∧
      Load.perform (library.resolve url) session = (ending.1.map fun _ => some (canonicalUrl url), ending.2) := by
  obtain ⟨key, hkey, hurl⟩ := SchemaKey.exists_ofUrl? hplain
  rw [← hurl]
  refine ⟨(session.follow library [key]).1, fun _ => ends_iff_follow, ?_⟩
  unfold Library.resolve
  rw [if_neg (by simp [hblank]), hkey]
  simp only [Load.perform_bind, Load.perform_mk]
  rcases (session.follow library [key]).1 with ⟨_ | _, final⟩ <;> rfl

theorem ends_of_cycle {first second : SchemaKey} {rootA rootB : SchemaNode} (hne : second.url ≠ first.url)
    (hfirst : library.schema first = .ok (rootA, [second])) (hsecond : library.schema second = .ok (rootB, [first])) :
    ∃ final, Ends library ⟨[first.url], {}⟩ (.ok (), final) ∧
      final.requests = [⟨.schema, first.location⟩, ⟨.schema, second.location⟩] := by
  have hfreshA : first.url ∉ ({} : Session).cache.keys := List.not_mem_nil
  obtain ⟨middle, -, hvisitA⟩ := Session.exists_visit hfreshA hfirst
  have hkeysA : middle.cache.keys = [first.url] := by
    rw [SchemaCache.keys, hvisitA.records]
    exact congrArg ([·]) first.canonicalUrl_url
  have hfreshB : second.url ∉ middle.cache.keys := by simpa [hkeysA] using hne
  obtain ⟨final, -, hvisitB⟩ := Session.exists_visit hfreshB hsecond
  have hkeysB : first.url ∈ final.cache.keys := by
    have hkept : first.url ∈ middle.cache.keys := by simp [hkeysA]
    rw [SchemaCache.keys, hvisitB.records]
    exact List.mem_cons_of_mem _ hkept
  refine ⟨final, .later (turn_visits hvisitA) (.later (turn_visits hvisitB) (.later (turn_cached hkeysB) (.now rfl))), ?_⟩
  rw [hvisitB.requests, hvisitA.requests]
  rfl

theorem cyclic_resolve_as_loop : ∃ final,
    Ends Library.cyclic ⟨[canonicalUrl "http://s/a.json"], {}⟩ (.ok (), final) ∧
    Load.perform (Library.cyclic.resolve "http://s/a.json") {} = (.ok (some (canonicalUrl "http://s/a.json")), final) ∧
      final.requests = [⟨.schema, "http://s/a.json"⟩, ⟨.schema, "http://s/b.json"⟩] := by
  let first : SchemaKey := ⟨"http://s/a.json", by decide⟩
  let second : SchemaKey := ⟨"http://s/b.json", by decide⟩
  have hnextA : Library.cyclic.next? first = some ([second].map SchemaKey.url) := Library.cyclic_next_first
  have hnextB : Library.cyclic.next? second = some ([first].map SchemaKey.url) := Library.cyclic_next_second
  obtain ⟨rootA, hfirst⟩ := Library.schema_of_next?_eq_map hnextA
  obtain ⟨rootB, hsecond⟩ := Library.schema_of_next?_eq_map hnextB
  obtain ⟨final, hends, hrequests⟩ := ends_of_cycle (by decide) hfirst hsecond
  have hurl : first.url = canonicalUrl "http://s/a.json" := by decide
  rw [hurl] at hends
  obtain ⟨ending, honly, hresolve⟩ :=
    @resolve_as_loop Library.cyclic "http://s/a.json" (by decide) (by decide) {}
  obtain rfl := (honly (.ok (), final)).1 hends
  exact ⟨final, hends, hresolve, hrequests⟩

end Worklist

end ApiCatalog
