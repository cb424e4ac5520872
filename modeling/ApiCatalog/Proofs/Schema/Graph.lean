import ApiCatalog.Proofs.Schema.References
import Mathlib.Logic.Relation

/-!
# The graph of schemas

Which schemas a library holds and where their references lead, said without the resolver: `Reads` is the text of
a schema as it was decoded, `LeadsTo` one reference from a schema to a canonical URL, `Readable` that all
references of a schema can be followed, and `Reachable` what some URLs lead to in any number of steps.

`schema_found` and `schema_ok_iff` say that the resolver's view of one schema is this graph.
-/

namespace ApiCatalog.Library

/-- The library holds, for a URL, the text of a schema. -/
def Reads (library : Library) (url : String) (node : SchemaNode) : Prop :=
  ∃ body, library.find? (documentLocation url) = some body ∧ SchemaNode.decode url body = .ok node

/-- The schema for a URL has, at some depth, a reference beyond its own document, and `next` is the canonical
form of this reference. -/
def LeadsTo (library : Library) (url next : String) : Prop :=
  ∃ node reference absolute, library.Reads url node ∧ reference ∈ node.references ∧
    isLocalReference reference = false ∧
    Url.absolute? (documentLocation url) reference = some absolute ∧ next = canonicalUrl absolute

/-- There is a schema for a URL, and each of its references beyond its own document has an absolute form that
does not point into a document. -/
def Readable (library : Library) (url : String) : Prop :=
  ∃ node, library.Reads url node ∧
    ∀ reference ∈ node.references, isLocalReference reference = false →
      ∃ absolute, Url.absolute? (documentLocation url) reference = some absolute ∧
        hasPointerFragment absolute = false

/-- Some root leads to a URL in any number of steps. -/
def Reachable (library : Library) (roots : String → Prop) (url : String) : Prop :=
  ∃ root, roots root ∧ Relation.ReflTransGen library.LeadsTo root url

variable {library : Library} {key : SchemaKey}

theorem Reads.unique {url : String} {a b : SchemaNode} (ha : library.Reads url a)
    (hb : library.Reads url b) : a = b := by
  obtain ⟨body, hbody, hdecode⟩ := ha
  obtain ⟨body', hbody', hdecode'⟩ := hb
  rw [hbody] at hbody'
  cases hbody'
  rw [hdecode] at hdecode'
  cases hdecode'
  rfl

theorem Reachable.root {roots : String → Prop} {url : String} (h : roots url) :
    library.Reachable roots url :=
  ⟨url, h, .refl⟩

theorem Reachable.step {roots : String → Prop} {url next : String} (h : library.Reachable roots url)
    (hnext : library.LeadsTo url next) : library.Reachable roots next := by
  obtain ⟨root, hroot, hpath⟩ := h
  exact ⟨root, hroot, hpath.tail hnext⟩

theorem Reachable.mono {roots roots' : String → Prop} {url : String}
    (hroots : ∀ root, roots root → roots' root) (h : library.Reachable roots url) :
    library.Reachable roots' url := by
  obtain ⟨root, hroot, hpath⟩ := h
  exact ⟨root, hroots root hroot, hpath⟩

theorem Reachable.closed {roots P : String → Prop} (hroots : ∀ root, roots root → P root)
    (hstep : ∀ url next, P url → library.LeadsTo url next → P next) {url : String}
    (h : library.Reachable roots url) : P url := by
  obtain ⟨root, hroot, hpath⟩ := h
  induction hpath with
  | refl => exact hroots root hroot
  | tail _ hnext ih => exact hstep _ _ ih hnext

/-! ## The resolver's view -/

theorem answer_ok {location body : String} :
    library.answer location = .ok body ↔ library.find? location = some body := by
  unfold answer
  cases library.find? location <;> simp

theorem schema_of_reads {node : SchemaNode} {found : SchemaNode × List SchemaKey}
    (hreads : library.Reads key.url node)
    (hrun : (node.mapReferences (canonicalReference key.location)).run [] = .ok found) :
    library.schema key = .ok found := by
  obtain ⟨body, hbody, hdecode⟩ := hreads
  rw [SchemaKey.documentLocation_url] at hbody
  simp only [schema, answer_ok.2 hbody, hdecode, hrun]

theorem reads_of_schema {found : SchemaNode × List SchemaKey} (h : library.schema key = .ok found) :
    ∃ node, library.Reads key.url node ∧
      (node.mapReferences (canonicalReference key.location)).run [] = .ok found := by
  unfold schema at h
  split at h
  · cases h
  · next body hbody =>
    split at h
    · cases h
    · next node hdecode =>
      split at h
      · cases h
      · next hrun =>
        cases h
        exact ⟨node, ⟨body, by rw [SchemaKey.documentLocation_url]; exact answer_ok.1 hbody, hdecode⟩, hrun⟩

theorem schema_found {root : SchemaNode} {nested : List SchemaKey}
    (h : library.schema key = .ok (root, nested)) :
    ∃ node, library.Reads key.url node ∧
      (∀ reference ∈ node.references, SchemaKey.Resolvable key.location reference) ∧
      root.references = node.references.map (canonicalForm key.location) ∧
      nested = node.references.filterMap (SchemaKey.referred? key.location) := by
  obtain ⟨node, hreads, hrun⟩ := reads_of_schema h
  obtain ⟨hall, hreferences, hnested⟩ := found_of_run hrun
  exact ⟨node, hreads, hall, hreferences, hnested⟩

theorem resolvable_iff {location reference : String} :
    SchemaKey.Resolvable location reference ↔
      (isLocalReference reference = false →
        ∃ absolute, Url.absolute? location reference = some absolute ∧ hasPointerFragment absolute = false) := by
  unfold SchemaKey.Resolvable
  cases isLocalReference reference with
  | true => simp
  | false =>
    simp only [Bool.false_eq_true, false_or, SchemaKey.ofReference_ok, forall_const]
    constructor
    · rintro ⟨key, absolute, habsolute, hkey⟩
      exact ⟨absolute, habsolute, SchemaKey.hasPointerFragment_of_ofUrl? hkey⟩
    · rintro ⟨absolute, habsolute, hplain⟩
      obtain ⟨key, hkey, -⟩ := SchemaKey.exists_ofUrl? hplain
      exact ⟨key, absolute, habsolute, hkey⟩

theorem schema_ok_iff : (∃ found, library.schema key = .ok found) ↔ library.Readable key.url := by
  constructor
  · rintro ⟨⟨root, nested⟩, hfound⟩
    obtain ⟨node, hreads, hall, -⟩ := schema_found hfound
    refine ⟨node, hreads, fun reference hreference => ?_⟩
    rw [SchemaKey.documentLocation_url]
    exact resolvable_iff.1 (hall reference hreference)
  · rintro ⟨node, hreads, hrefs⟩
    rw [SchemaKey.documentLocation_url] at hrefs
    have hlist := congrArg (StateT.run · ([] : List SchemaKey))
      (SchemaNode.references_mapReferences (canonicalReference key.location) node)
    simp only [StateT.run_map] at hlist
    rw [run_mapM_canonicalReference fun reference hreference =>
      resolvable_iff.2 (hrefs reference hreference)] at hlist
    cases hrun : (node.mapReferences (canonicalReference key.location)).run [] with
    | error fault =>
      rw [hrun] at hlist
      cases hlist
    | ok found => exact ⟨found, schema_of_reads hreads hrun⟩

theorem leadsTo_iff {root : SchemaNode} {nested : List SchemaKey}
    (h : library.schema key = .ok (root, nested)) {next : String} :
    library.LeadsTo key.url next ↔ ∃ other ∈ nested, next = other.url := by
  obtain ⟨node, hreads, hall, -, rfl⟩ := schema_found h
  unfold LeadsTo
  rw [SchemaKey.documentLocation_url]
  constructor
  · rintro ⟨node', reference, absolute, hreads', hreference, hlocal, habsolute, rfl⟩
    cases hreads.unique hreads'
    obtain ⟨other, hother⟩ : ∃ other, SchemaKey.ofReference key.location reference = .ok other := by
      simpa [SchemaKey.Resolvable, hlocal] using hall reference hreference
    obtain ⟨absolute', habsolute', hkey⟩ := SchemaKey.ofReference_ok.1 hother
    rw [habsolute] at habsolute'
    cases habsolute'
    refine ⟨other, ?_, (SchemaKey.url_of_ofUrl? hkey).symm⟩
    exact List.mem_filterMap.2 ⟨reference, hreference, SchemaKey.referred?_eq_some.2 ⟨hlocal, hother⟩⟩
  · rintro ⟨other, hother, rfl⟩
    obtain ⟨reference, hreference, hreferred⟩ := List.mem_filterMap.1 hother
    obtain ⟨hlocal, hkey⟩ := SchemaKey.referred?_eq_some.1 hreferred
    obtain ⟨absolute, habsolute, hurl⟩ := SchemaKey.ofReference_ok.1 hkey
    exact ⟨node, reference, absolute, hreads, hreference, hlocal, habsolute, SchemaKey.url_of_ofUrl? hurl⟩

theorem leadsTo_of_mem_references {root : SchemaNode} {nested : List SchemaKey}
    (h : library.schema key = .ok (root, nested)) {reference : String} (hmem : reference ∈ root.references)
    (hlocal : isLocalReference reference = false) : library.LeadsTo key.url reference := by
  obtain ⟨node, hreads, hall, hreferences, hnested⟩ := schema_found h
  rw [hreferences] at hmem
  obtain ⟨original, horiginal, rfl⟩ := List.mem_map.1 hmem
  refine (leadsTo_iff h).2 ?_
  unfold canonicalForm at hlocal ⊢
  cases hreferred : SchemaKey.referred? key.location original with
  | some other =>
    exact ⟨other, by rw [hnested]; exact List.mem_filterMap.2 ⟨original, horiginal, hreferred⟩, rfl⟩
  | none =>
    -- a reference without a key that is not local would not have been let through
    rw [hreferred] at hlocal
    simp only [Option.map_none, Option.getD_none] at hlocal
    obtain ⟨other, hother⟩ : ∃ other, SchemaKey.ofReference key.location original = .ok other := by
      simpa [SchemaKey.Resolvable, hlocal] using hall original horiginal
    rw [SchemaKey.referred?_eq_some.2 ⟨hlocal, hother⟩] at hreferred
    cases hreferred

theorem url_mem_references {root : SchemaNode} {nested : List SchemaKey} (h : library.schema key = .ok (root, nested))
    {other : SchemaKey} (hother : other ∈ nested) : other.url ∈ root.references := by
  obtain ⟨node, -, -, hreferences, hnested⟩ := schema_found h
  rw [hnested] at hother
  obtain ⟨original, horiginal, hreferred⟩ := List.mem_filterMap.1 hother
  rw [hreferences]
  refine List.mem_map.2 ⟨original, horiginal, ?_⟩
  simp [canonicalForm, hreferred]

/-! ## Computing the graph -/

/-- The URLs that a schema leads to; none when the schema cannot be read. -/
def next? (library : Library) (key : SchemaKey) : Option (List String) :=
  (library.schema key).toOption.map fun found => found.2.map SchemaKey.url

variable {url : String} {urls : List String}

theorem schema_of_next? (h : library.next? key = some urls) :
    ∃ root nested, library.schema key = .ok (root, nested) ∧ nested.map SchemaKey.url = urls := by
  unfold next? at h
  rcases hschema : library.schema key with e | ⟨root, nested⟩
  · rw [hschema] at h
    cases h
  · rw [hschema] at h
    exact ⟨root, nested, rfl, Option.some.inj h⟩

theorem schema_of_next?_eq_map {keys : List SchemaKey} (h : library.next? key = some (keys.map SchemaKey.url)) :
    ∃ root, library.schema key = .ok (root, keys) := by
  obtain ⟨root, nested, hschema, hurls⟩ := schema_of_next? h
  have hkeys : nested = keys := (List.map_inj_right fun _ _ => SchemaKey.url_injective).1 hurls
  exact ⟨root, hkeys ▸ hschema⟩

theorem schema_of_next?_eq_none (h : library.next? key = none) : ∃ e, library.schema key = .error e := by
  unfold next? at h
  rcases hschema : library.schema key with e | found
  · exact ⟨e, rfl⟩
  · rw [hschema] at h
    cases h

theorem readable_of_next? (hurl : key.url = url) (h : library.next? key = some urls) : library.Readable url := by
  subst hurl
  obtain ⟨root, nested, hschema, -⟩ := schema_of_next? h
  exact schema_ok_iff.1 ⟨_, hschema⟩

theorem leadsTo_iff_of_next? (hurl : key.url = url) (h : library.next? key = some urls) (next : String) :
    library.LeadsTo url next ↔ next ∈ urls := by
  subst hurl
  obtain ⟨root, nested, hschema, rfl⟩ := schema_of_next? h
  rw [leadsTo_iff hschema, List.mem_map]
  exact exists_congr fun other => and_congr_right fun _ => eq_comm

end ApiCatalog.Library
