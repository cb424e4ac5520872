import ApiCatalog.Proofs.Loading.Marks
import ApiCatalog.Proofs.Schema.Agreement

/-!
# The order of discovery

Two runs over different documents, in different orders, find the schemas in different orders too, and a schema that
one run finds through an operation the other may find far below another schema. Still, the runs have the same
outcome when their documents refer to the same schemas in the same roles (`discovery_order_irrelevant`). The runs
are not compared step by step. The cache that comes of references resolved one after the other is determined by
what they refer to (`Collected`): which schemas are in it by reachability, their roots by the library, their marks
by the roles. Patches and names do the same to caches that agree.
-/

namespace ApiCatalog

/-! ## Runs over documents -/

namespace Library

def linkEach (library : Library) : List (DefinitionId × Document) → Load (List Document)
  | [] => return []
  | (id, document) :: rest => do
    let linked ← library.link id document
    let rest ← library.linkEach rest
    return linked :: rest

/-- Links documents, corrects the schemas that they lead to, and names them. -/
def linkAndName (library : Library) (patches : List SchemaPatch) (documents : List (DefinitionId × Document)) :
    Load (List Document) := do
  let linked ← library.linkEach documents
  let _ ← Load.applyPatches patches
  Load.assignTypeNames
  return linked

end Library

/-- The references of documents, with the roles of their schemas, in the order of declaration. -/
def usesOf (documents : List (DefinitionId × Document)) : List (Role × String) :=
  documents.flatMap fun document => document.2.uses

@[simp] theorem usesOf_cons (document : DefinitionId × Document) (rest : List (DefinitionId × Document)) :
    usesOf (document :: rest) = document.2.uses ++ usesOf rest := rfl

namespace Library
variable {library : Library} {documents : List (DefinitionId × Document)} {s t : Session}

theorem linkEach_ok {linked : List Document} :
    Load.perform (library.linkEach documents) s = (.ok linked, t) ↔
      List.Forall₂ (fun document linked => document.2.named document.1 = .ok linked) documents linked ∧
        Load.perform (library.resolveAll (usesOf documents)) s = (.ok (), t) := by
  induction documents generalizing linked s t with
  | nil => simp [linkEach, usesOf, resolveAll, eq_comm]
  | cons document rest ih =>
    obtain ⟨id, document⟩ := document
    simp only [linkEach, usesOf_cons, Load.bind_ok, link_ok, ih, resolveAll_append, Load.perform_pure,
      Prod.mk.injEq, Except.ok.injEq, List.forall₂_cons_left_iff]
    constructor
    · rintro ⟨first, u, ⟨hnamed, hresolve⟩, more, _, ⟨hmore, hrest⟩, rfl, rfl⟩
      exact ⟨⟨first, more, hnamed, hmore, rfl⟩, u, hresolve, hrest⟩
    · rintro ⟨⟨first, more, hnamed, hmore, rfl⟩, u, hresolve, hrest⟩
      exact ⟨first, u, ⟨hnamed, hresolve⟩, more, t, ⟨hmore, hrest⟩, rfl, rfl⟩

theorem linkEach_ok_of_small (hsmall : ∀ document ∈ documents, document.2.Small)
    (hresolve : Load.perform (library.resolveAll (usesOf documents)) s = (.ok (), t)) :
    ∃ linked, Load.perform (library.linkEach documents) s = (.ok linked, t) := by
  have hnamed : ∃ linked, List.Forall₂
      (fun document linked => document.2.named document.1 = .ok linked) documents linked := by
    clear hresolve
    induction documents with
    | nil => exact ⟨[], .nil⟩
    | cons document rest ih =>
      obtain ⟨hfirst, hrest⟩ := List.forall_mem_cons.1 hsmall
      obtain ⟨first, hfirst⟩ := Document.named_ok_of_small hfirst document.1
      obtain ⟨more, hmore⟩ := ih hrest
      exact ⟨first :: more, .cons hfirst hmore⟩
  obtain ⟨linked, hlinked⟩ := hnamed
  exact ⟨linked, linkEach_ok.2 ⟨hlinked, hresolve⟩⟩

end Library

/-! ## What comes of references -/

namespace SchemaCache

def Unnamed (cache : SchemaCache) : Prop := ∀ record ∈ cache.records, record.typeName = none

theorem Unnamed.grows {old new : SchemaCache} (h : old.Unnamed) (hgrows : old.Grows new) : new.Unnamed := by
  intro record hrecord
  rcases hgrows.added record hrecord with hold | hbare
  · exact h record hold
  · rw [hbare]

theorem Unnamed.mark {cache : SchemaCache} (h : cache.Unnamed) (url : String) (role : Role) :
    (cache.modify url role.mark).Unnamed := by
  intro record hrecord
  rw [records_modify] at hrecord
  obtain ⟨original, horiginal, rfl⟩ := List.mem_map.1 hrecord
  have hname : (changed role.mark original).typeName = original.typeName := by cases role <;> rfl
  split
  · exact hname.trans (h original horiginal)
  · exact h original horiginal

end SchemaCache

namespace Library
variable {library : Library} {uses : List (Role × String)} {s t : Session}

theorem unnamed_resolveAll (h : s.cache.Unnamed)
    (hrun : Load.perform (library.resolveAll uses) s = (.ok (), t)) : t.cache.Unnamed := by
  induction uses generalizing s with
  | nil =>
    cases hrun
    exact h
  | cons use rest ih =>
    obtain ⟨result, u, hfirst, hrest⟩ := Load.bind_ok.1 hrun
    refine ih ?_ hrest
    obtain ⟨found, v, hresolve, hmark⟩ := Load.bind_ok.1 hfirst
    have hunnamed : v.cache.Unnamed := by
      have hgrows := grows_resolve library use.2 s
      rw [hresolve] at hgrows
      exact h.grows hgrows
    cases found with
    | none =>
      cases hmark
      exact hunnamed
    | some url =>
      obtain ⟨_, w, hmodify, hpure⟩ := Load.bind_ok.1 hmark
      cases hpure
      cases hmodify
      exact hunnamed.mark url use.1

end Library

/-- The cache holds what comes of references that are resolved with nothing cached before. -/
structure Collected (library : Library) (uses : List (Role × String)) (cache : SchemaCache) : Prop where
  discovered : Discovered library (namedUrls uses) cache
  marked_iff (role : Role) (url : String) :
    cache.marked role url = true ↔ role ≠ .message ∧ NamedAs role uses (canonicalUrl url)
  unnamed : cache.Unnamed

/-- The same schemas are referred to in the same roles, whatever the order and number of the references. -/
def SameUses (uses others : List (Role × String)) : Prop :=
  ∀ role url, NamedAs role uses url ↔ NamedAs role others url

theorem SameUses.symm {uses others : List (Role × String)} (h : SameUses uses others) : SameUses others uses :=
  fun role url => (h role url).symm

theorem namedUrls_iff {uses : List (Role × String)} {url : String} :
    namedUrls uses url ↔ ∃ role, NamedAs role uses url := by
  simp only [namedUrls, NamedAs, Prod.exists]

theorem SameUses.namedUrls_iff {uses others : List (Role × String)} (h : SameUses uses others) (url : String) :
    namedUrls uses url ↔ namedUrls others url := by
  rw [ApiCatalog.namedUrls_iff, ApiCatalog.namedUrls_iff]
  exact exists_congr fun role => h role url

theorem plainUses_iff_namedUrls {uses : List (Role × String)} :
    PlainUses uses ↔ ∀ url, namedUrls uses url → hasPointerFragment url = false := by
  constructor
  · rintro h _ ⟨use, huse, hblank, rfl⟩
    rw [hasPointerFragment_canonicalUrl]
    exact h use huse hblank
  · intro h use huse hblank
    rw [← hasPointerFragment_canonicalUrl]
    exact h _ ⟨use, huse, hblank, rfl⟩

namespace Collected
variable {library : Library} {uses others : List (Role × String)} {a b : SchemaCache}

/-- **References that resolve** determine the cache, but for the order of its records. -/
theorem of_resolveAll {t : Session} (hrun : Load.perform (library.resolveAll uses) {} = (.ok (), t)) :
    Collected library uses t.cache where
  discovered := (Library.discovered_resolveAll .empty hrun).1.congr fun url => by rw [false_or]
  marked_iff role url := by
    rw [Library.marked_resolveAll hrun]
    exact or_iff_right (by simp [SchemaCache.marked, SchemaCache.get?])
  unnamed := Library.unnamed_resolveAll (fun record hrecord => by cases hrecord) hrun

theorem mem_records (ha : Collected library uses a) (hb : Collected library others b) (hsame : SameUses uses others)
    {record : SchemaRecord} (hrecord : record ∈ a.records) : record ∈ b.records := by
  have hreachable : library.Reachable (namedUrls others) record.key :=
    ((ha.discovered.keys_iff _).1 (SchemaCache.key_mem_keys hrecord)).mono fun url => (hsame.namedUrls_iff url).1
  obtain ⟨other, hother, hkey⟩ := SchemaCache.mem_keys.1 ((hb.discovered.keys_iff _).2 hreachable)
  obtain ⟨key, nested, hsource, hschema⟩ := ha.discovered.fetched record hrecord
  obtain ⟨key', nested', hsource', hschema'⟩ := hb.discovered.fetched other hother
  -- both records were fetched for the same key
  have hkeys : key' = key := by
    rw [SchemaRecord.key, SchemaRecord.key, hsource, hsource', SchemaKey.canonicalUrl_url,
      SchemaKey.canonicalUrl_url] at hkey
    exact SchemaKey.url_injective hkey
  subst hkeys
  have hurl : other.sourceUrl = record.sourceUrl := hsource'.trans hsource.symm
  have hroot : other.root = record.root := by
    rw [hschema] at hschema'
    exact (Prod.mk.inj (Except.ok.inj hschema')).1.symm
  have hmarks (role : Role) : role.marks other = role.marks record := by
    rw [← SchemaCache.marked_of_mem hother, ← SchemaCache.marked_of_mem hrecord, hurl]
    refine Bool.eq_iff_iff.2 ?_
    rw [ha.marked_iff, hb.marked_iff, hsame]
  have hname : other.typeName = record.typeName := (hb.unnamed other hother).trans (ha.unnamed record hrecord).symm
  have hinput : other.isInput = record.isInput := hmarks .input
  have houtput : other.isOutput = record.isOutput := hmarks .output
  have hequal : other = record := by
    cases other
    cases record
    congr
  rwa [← hequal]

theorem agrees (ha : Collected library uses a) (hb : Collected library others b) (hsame : SameUses uses others) :
    a.Agrees b :=
  SchemaCache.agrees_of_mem_iff fun _ => ⟨ha.mem_records hb hsame, hb.mem_records ha hsame.symm⟩

end Collected

theorem Library.resolveAll_ok_of_sameUses {library : Library} {uses others : List (Role × String)} {s : Session}
    (hsame : SameUses uses others) (hrun : Load.perform (library.resolveAll uses) {} = (.ok (), s)) :
    ∃ t, Load.perform (library.resolveAll others) {} = (.ok (), t) ∧ s.cache.Agrees t.cache := by
  have hcollected := Collected.of_resolveAll hrun
  have hplain : PlainUses others := by
    have huses := (discovered_resolveAll .empty hrun).2
    rw [plainUses_iff_namedUrls] at huses ⊢
    exact fun url hurl => huses url ((hsame.namedUrls_iff url).2 hurl)
  have hreadable : ∀ url, library.Reachable (namedUrls others) url → library.Readable url := fun url hurl =>
    hcollected.discovered.readable (hurl.mono fun root => (hsame.namedUrls_iff root).2)
  obtain ⟨t, ht⟩ := resolveAll_ok_of_readable (s := {}) hplain hreadable
  exact ⟨t, ht, hcollected.agrees (.of_resolveAll ht) hsame⟩

/-! ## Runs with the same outcome -/

namespace Load
variable {α β : Type}

/-- Two runs that fail both, or succeed both with caches that agree. -/
inductive EndAlike : Except LoadError α × Session → Except LoadError α × Session → Prop
  | ok {a b : α} {s t : Session} (h : s.cache.Agrees t.cache) : EndAlike (.ok a, s) (.ok b, t)
  | error {e e' : LoadError} {s t : Session} : EndAlike (.error e, s) (.error e', t)

theorem endAlike_of_ok {first second : Except LoadError α × Session}
    (h : ∀ a s, first = (.ok a, s) → ∃ b t, second = (.ok b, t) ∧ s.cache.Agrees t.cache)
    (hback : ∀ b t, second = (.ok b, t) → ∃ a s, first = (.ok a, s)) : EndAlike first second := by
  rcases first with ⟨e | a, s⟩
  · rcases second with ⟨e' | b, t⟩
    · exact .error
    · obtain ⟨a, u, ⟨⟩⟩ := hback b t rfl
  · obtain ⟨b, t, rfl, hagrees⟩ := h a s rfl
    exact .ok hagrees

theorem endAlike_bind {step step' : Load α} {next next' : α → Load β} {s s' : Session}
    (hstep : EndAlike (perform step s) (perform step' s'))
    (hnext : ∀ a b t t', t.cache.Agrees t'.cache → EndAlike (perform (next a) t) (perform (next' b) t')) :
    EndAlike (perform (step >>= next) s) (perform (step' >>= next') s') := by
  rw [perform_bind, perform_bind]
  generalize perform step s = first at hstep
  generalize perform step' s' = second at hstep
  cases hstep with
  | ok hagrees => exact hnext _ _ _ _ hagrees
  | error => exact .error

theorem endAlike_applyPatches (patches : List SchemaPatch) {s t : Session} (h : s.cache.Agrees t.cache) :
    EndAlike (perform (applyPatches patches) s) (perform (applyPatches patches) t) := by
  obtain ⟨hcount, hagrees⟩ := h.applyPatches patches
  rw [Library.perform_applyPatches, Library.perform_applyPatches, ← hcount]
  cases (s.cache.applyPatches patches).1 with
  | error e => exact .error
  | ok count => exact .ok hagrees

theorem endAlike_assignTypeNames {s t : Session} (h : s.cache.Agrees t.cache) :
    EndAlike (perform assignTypeNames s) (perform assignTypeNames t) := by
  refine endAlike_of_ok (fun done u hrun => ?_) fun done u hrun => ?_
  · obtain ⟨cache, hnames, rfl⟩ := Library.perform_assignTypeNames_ok.1 hrun
    obtain ⟨cache', hnames', hagrees⟩ := h.assignTypeNames_ok hnames
    exact ⟨(), _, Library.perform_assignTypeNames_ok.2 ⟨cache', hnames', rfl⟩, hagrees⟩
  · obtain ⟨cache, hnames, rfl⟩ := Library.perform_assignTypeNames_ok.1 hrun
    obtain ⟨cache', hnames', -⟩ := h.symm.assignTypeNames_ok hnames
    exact ⟨(), _, Library.perform_assignTypeNames_ok.2 ⟨cache', hnames', rfl⟩⟩

end Load

namespace Library
open Load (EndAlike endAlike_of_ok endAlike_bind endAlike_applyPatches endAlike_assignTypeNames)
variable {library : Library} {documents others : List (DefinitionId × Document)}

theorem linkEach_ok_of_sameUses (hsmall : ∀ document ∈ others, document.2.Small)
    (hsame : SameUses (usesOf documents) (usesOf others)) {linked : List Document} {s : Session}
    (hrun : Load.perform (library.linkEach documents) {} = (.ok linked, s)) :
    ∃ linked' t, Load.perform (library.linkEach others) {} = (.ok linked', t) ∧ s.cache.Agrees t.cache := by
  obtain ⟨t, hresolve, hagrees⟩ := resolveAll_ok_of_sameUses hsame (linkEach_ok.1 hrun).2
  obtain ⟨linked', hrun'⟩ := linkEach_ok_of_small hsmall hresolve
  exact ⟨linked', t, hrun', hagrees⟩

/-- **The order of discovery** does not matter. Two runs over small documents that refer to the same schemas in the
same roles fail both, or they leave the same records: the same schemas with the same roots, marks and names. -/
theorem discovery_order_irrelevant (patches : List SchemaPatch) (hsmall : ∀ document ∈ documents, document.2.Small)
    (hsmall' : ∀ document ∈ others, document.2.Small) (hsame : SameUses (usesOf documents) (usesOf others)) :
    EndAlike (Load.perform (library.linkAndName patches documents) {})
      (Load.perform (library.linkAndName patches others) {}) := by
  have hlink : EndAlike (Load.perform (library.linkEach documents) {}) (Load.perform (library.linkEach others) {}) := by
    refine endAlike_of_ok (fun linked s => linkEach_ok_of_sameUses hsmall' hsame) fun linked t hrun => ?_
    obtain ⟨linked', s, hrun', -⟩ := linkEach_ok_of_sameUses hsmall hsame.symm hrun
    exact ⟨linked', s, hrun'⟩
  refine endAlike_bind hlink fun _ _ s t hagrees => ?_
  refine endAlike_bind (endAlike_applyPatches patches hagrees) fun _ _ s t hagrees => ?_
  exact endAlike_bind (endAlike_assignTypeNames hagrees) fun _ _ s t hagrees => .ok hagrees

/-! ## The cycle, found from either end

An operation takes the first schema of the cycle and answers with the second, of which there is a message as well.
The rearranged documents declare the message first, and the request apart from the response. -/

def cyclicDocuments : List (DefinitionId × Document) :=
  [(⟨0⟩, .api { entries := [{ name := "t", input := some "http://s/a.json", output := some "http://s/b.json#" }] }),
   (⟨1⟩, .exchange { entries := [{ name := "m", schema := some "http://s/b.json" }] })]

def cyclicRearranged : List (DefinitionId × Document) :=
  [(⟨7⟩, .exchange { entries := [{ name := "n", schema := some "http://s/b.json#" }] }),
   (⟨3⟩, .api { entries := [{ name := "u", output := some "http://s/b.json" },
      { name := "t", input := some "http://s/a.json#", output := some " " },
      { name := "t", input := some "http://s/a.json" }] })]

theorem sameUses_of_linkedUses {uses others : List (Role × String)}
    (h : ∀ use, use ∈ linkedUses uses ↔ use ∈ linkedUses others) : SameUses uses others := by
  intro role url
  rw [← mem_linkedUses, ← mem_linkedUses]
  exact h (role, url)

theorem cyclic_sameUses : SameUses (usesOf cyclicDocuments) (usesOf cyclicRearranged) := by
  have hfirst : linkedUses (usesOf cyclicDocuments) =
      [(.input, "http://s/a.json#"), (.output, "http://s/b.json#"), (.message, "http://s/b.json#")] := by decide
  have hsecond : linkedUses (usesOf cyclicRearranged) = [(.message, "http://s/b.json#"),
      (.output, "http://s/b.json#"), (.input, "http://s/a.json#"), (.input, "http://s/a.json#")] := by decide
  refine sameUses_of_linkedUses fun use => ?_
  rw [hfirst, hsecond]
  simp only [List.mem_cons, List.not_mem_nil, or_false]
  tauto

theorem cyclic_runs :
    ∃ linked s, Load.perform (cyclic.linkAndName [] cyclicDocuments) {} = (.ok linked, s) := by
  have hroots : ∀ url, namedUrls (usesOf cyclicDocuments) url → OnCycle url := by
    have huses : ∀ use ∈ usesOf cyclicDocuments, canonicalUrl use.2 = "http://s/a.json#" ∨
        canonicalUrl use.2 = "http://s/b.json#" := by
      decide
    rintro _ ⟨use, huse, -, rfl⟩
    exact huses use huse
  have hreachable : ∀ url, cyclic.Reachable (namedUrls (usesOf cyclicDocuments)) url →
      cyclic.Reachable (cyclic.Declares [cyclicDefinition]) url := fun url hurl =>
    hurl.closed (fun root hroot => (cyclic_reachable root).2 (hroots root hroot)) fun _ _ => .step
  have hplain : PlainUses (usesOf cyclicDocuments) := by
    unfold PlainUses
    decide
  have hsmall : ∀ document ∈ cyclicDocuments, document.2.Small := by
    simp [cyclicDocuments, Document.Small]
  obtain ⟨u, hresolve⟩ := resolveAll_ok_of_readable (s := {}) hplain fun url hurl =>
    cyclic_loadable.readable url (hreachable url hurl)
  obtain ⟨linked, hlink⟩ := linkEach_ok_of_small hsmall hresolve
  have hsize : u.cache.size < 2 ^ 32 := by
    have hlength := cyclic_small.schemas u.cache.keys u.cache.nodup_keys fun url hurl =>
      hreachable url (((Collected.of_resolveAll hresolve).discovered.keys_iff url).1 hurl)
    rwa [SchemaCache.keys, List.length_map] at hlength
  obtain ⟨named, hnamed⟩ := SchemaCache.assignTypeNames_ok_of_size hsize
  have hnames : Load.perform Load.assignTypeNames u = (.ok (), { u with cache := named }) :=
    perform_assignTypeNames_ok.2 ⟨named, hnamed, rfl⟩
  refine ⟨linked, { u with cache := named }, Load.bind_ok.2 ⟨linked, u, hlink, ?_⟩⟩
  exact Load.bind_ok.2 ⟨0, u, rfl, Load.bind_ok.2 ⟨(), _, hnames, rfl⟩⟩

theorem cyclic_order_irrelevant : ∃ linked linked' s t,
    Load.perform (cyclic.linkAndName [] cyclicDocuments) {} = (.ok linked, s) ∧
      Load.perform (cyclic.linkAndName [] cyclicRearranged) {} = (.ok linked', t) ∧ s.cache.Agrees t.cache := by
  obtain ⟨linked, s, hrun⟩ := cyclic_runs
  have hsmall : ∀ document ∈ cyclicDocuments, document.2.Small := by simp [cyclicDocuments, Document.Small]
  have hsmall' : ∀ document ∈ cyclicRearranged, document.2.Small := by simp [cyclicRearranged, Document.Small]
  have hboth : EndAlike (Load.perform (cyclic.linkAndName [] cyclicDocuments) {})
      (Load.perform (cyclic.linkAndName [] cyclicRearranged) {}) :=
    discovery_order_irrelevant [] hsmall hsmall' cyclic_sameUses
  rw [hrun] at hboth
  generalize hsecond : Load.perform (cyclic.linkAndName [] cyclicRearranged) {} = second at hboth ⊢
  cases hboth with
  | ok hagrees => exact ⟨linked, _, s, _, hrun, rfl, hagrees⟩

end Library

end ApiCatalog
