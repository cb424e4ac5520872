import ApiCatalog.Schema.Key
import ApiCatalog.Schema.Wire
import ApiCatalog.Session
import ApiCatalog.Url.Parser

/-!
# Resolving schemas

A schema is resolved by caching it and every schema that it refers to, directly or through others. A schema is
read at most once: one that is in the cache is not followed again, which also ends the way around a cycle.

What a schema is and where its references lead depend on the library alone (`Library.schema`). Resolving visits
that graph depth first, in the order of the references (`follow`).
-/

namespace ApiCatalog

/-! ## One schema -/

inductive ReferenceFault where
  /-- It points into a document. -/
  | unsupportedFragment (reference : String)
  /-- It has no absolute form. -/
  | unresolvable (reference : String)
  deriving DecidableEq, Repr

def ReferenceFault.message : ReferenceFault → String
  | .unsupportedFragment reference => "unsupported fragment in reference '" ++ reference ++ "'"
  | .unresolvable reference => "cannot resolve reference '" ++ reference ++ "'"

/-- Whether a reference stays in its own document. Such references are left as they are. -/
def isLocalReference (reference : String) : Bool := reference.toList.head? = some fragmentMarker

def SchemaKey.ofReference (location reference : String) : Except ReferenceFault SchemaKey :=
  match Url.absolute? location reference with
  | none => .error (.unresolvable reference)
  | some absolute =>
    match SchemaKey.ofUrl? absolute with
    | none => .error (.unsupportedFragment reference)
    | some key => .ok key

/-- A reference in canonical form; the key that it leads to is added to those found before. -/
def canonicalReference (location reference : String) : StateT (List SchemaKey) (Except ReferenceFault) String :=
  fun keys =>
    if isLocalReference reference then .ok (reference, keys)
    else (SchemaKey.ofReference location reference).map fun key => (key.url, keys ++ [key])

/-- The schema of a key with its references in canonical form, and the keys that they lead to. -/
def Library.schema (library : Library) (key : SchemaKey) : Except LoadError (SchemaNode × List SchemaKey) :=
  match library.answer key.location with
  | .error error => .error error
  | .ok body =>
    match SchemaNode.decode key.url body with
    | .error error => .error error
    | .ok node =>
      match (node.mapReferences (canonicalReference key.location)).run [] with
      | .error fault => .error (.decode key.url fault.message)
      | .ok found => .ok found

theorem Library.mem_locations_of_schema {library : Library} {key : SchemaKey} {found : SchemaNode × List SchemaKey}
    (h : library.schema key = .ok found) : key.location ∈ library.locations := by
  unfold Library.schema at h
  split at h
  · cases h
  · next body answered => exact mem_locations_of_answer answered

/-! ## All schemas that one leads to -/

namespace Session

/-- Requests a schema and caches it; the keys that its references lead to come out. -/
def visit (library : Library) (key : SchemaKey) (session : Session) :
    Except LoadError (List SchemaKey) × Session :=
  let asked := session.request .schema key.location
  match library.schema key with
  | .error error => (.error error, asked)
  | .ok (root, nested) =>
    match asked.cache.insert { sourceUrl := key.url, root } with
    | .error error => (.error error, asked)
    | .ok cache => (.ok nested, { asked with cache })

theorem keys_subset_visit (library : Library) (key : SchemaKey) (session : Session) :
    session.cache.keys ⊆ (session.visit library key).2.cache.keys := by
  unfold visit
  simp only
  split
  · exact List.Subset.refl _
  · split
    · exact List.Subset.refl _
    · next inserted =>
      rw [(SchemaCache.keys_of_insert inserted).1]
      exact List.subset_cons_self ..

theorem keys_of_visit {library : Library} {key : SchemaKey} {session after : Session} {nested : List SchemaKey}
    (h : session.visit library key = (.ok nested, after)) :
    key.location ∈ library.locations ∧ after.cache.keys = key.url :: session.cache.keys ∧
      key.url ∉ session.cache.keys := by
  unfold visit at h
  simp only at h
  split at h
  · cases h
  · next found =>
    split at h
    · cases h
    · next inserted =>
      cases h
      have facts := SchemaCache.keys_of_insert inserted
      simp only [SchemaRecord.key, SchemaKey.canonicalUrl_url] at facts
      exact ⟨Library.mem_locations_of_schema found, facts.1, facts.2⟩

/-- The locations of a library whose schemas are not cached, as a number. -/
def unread (library : Library) (cache : SchemaCache) : Nat :=
  library.locations.countP fun location => canonicalUrl location ∉ cache.keys

theorem unread_le {library : Library} {cache grown : SchemaCache} (h : cache.keys ⊆ grown.keys) :
    unread library grown ≤ unread library cache := by
  apply List.countP_mono_left
  intro location _ missing
  simp only [decide_eq_true_eq] at *
  exact fun known => missing (h known)

theorem countP_lt_countP {α : Type} {p q : α → Bool} {l : List α} {x : α}
    (imp : ∀ y ∈ l, p y = true → q y = true) (mem : x ∈ l) (fails : ¬p x = true) (holds : q x = true) :
    l.countP p < l.countP q := by
  induction l with
  | nil => cases mem
  | cons y rest ih =>
    have le : rest.countP p ≤ rest.countP q :=
      List.countP_mono_left fun z inside => imp z (List.mem_cons_of_mem _ inside)
    rw [List.countP_cons, List.countP_cons]
    rcases List.mem_cons.1 mem with rfl | there
    · rw [if_neg fails, if_pos holds]
      omega
    · have lt := ih (fun z inside => imp z (List.mem_cons_of_mem _ inside)) there
      by_cases here : p y = true
      · rw [if_pos here, if_pos (imp y List.mem_cons_self here)]
        omega
      · rw [if_neg here]
        omega

theorem unread_lt {library : Library} {cache grown : SchemaCache} {key : SchemaKey}
    (stored : key.location ∈ library.locations) (keys : grown.keys = key.url :: cache.keys)
    (fresh : key.url ∉ cache.keys) : unread library grown < unread library cache := by
  refine countP_lt_countP (fun location _ missing => ?_) stored ?_ ?_
  · refine decide_eq_true fun known => of_decide_eq_true missing ?_
    rw [keys]
    exact List.mem_cons_of_mem _ known
  · refine fun missing => of_decide_eq_true missing ?_
    rw [keys, SchemaKey.canonicalUrl_location]
    exact List.mem_cons_self
  · rw [SchemaKey.canonicalUrl_location]
    exact decide_eq_true fresh

/-- Visits the schemas of some keys and all that they lead to. The keys that a schema leads to come before those
that are left; a key that is cached is passed over. -/
def follow (library : Library) (pending : List SchemaKey) (session : Session) :
    { outcome : Except LoadError Unit × Session // session.cache.keys ⊆ outcome.2.cache.keys } :=
  match pending with
  | [] => ⟨(.ok (), session), List.Subset.refl _⟩
  | key :: rest =>
    if session.cache.contains key.url then follow library rest session
    else
      match visited : session.visit library key with
      | (.error error, after) =>
        ⟨(.error error, after), by have := keys_subset_visit library key session; rwa [visited] at this⟩
      | (.ok nested, after) =>
        have grown : session.cache.keys ⊆ after.cache.keys := by
          have := keys_subset_visit library key session
          rwa [visited] at this
        match follow library nested after with
        | ⟨(.error error, deep), deeper⟩ => ⟨(.error error, deep), List.Subset.trans grown deeper⟩
        | ⟨(.ok (), deep), deeper⟩ =>
          have : unread library deep.cache < unread library session.cache :=
            have facts := keys_of_visit visited
            Nat.lt_of_le_of_lt (unread_le deeper) (unread_lt facts.1 facts.2.1 facts.2.2)
          let last := follow library rest deep
          ⟨last.1, List.Subset.trans (List.Subset.trans grown deeper) last.2⟩
termination_by (unread library session.cache, pending.length)
decreasing_by
  · exact Prod.Lex.right _ (by simp)
  · have facts := keys_of_visit visited
    exact Prod.Lex.left _ _ (unread_lt facts.1 facts.2.1 facts.2.2)
  · exact Prod.Lex.left _ _ this

end Session

/-! ## References of documents -/

/-- Resolves a URL and returns its canonical form. A blank URL is no reference, and nothing comes of it. -/
def Library.resolve (library : Library) (url : String) : Load (Option String) :=
  if Text.isBlank url then return none
  else
    match SchemaKey.ofUrl? url with
    | none => throw (.decode url "JSON pointer fragments are not supported")
    | some key => do
      ExceptT.mk fun session => (session.follow library [key]).1
      return some key.url

end ApiCatalog
