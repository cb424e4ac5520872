import ApiCatalog.Loading
import ApiCatalog.Proofs.Linking
import ApiCatalog.Proofs.Schema.Following

/-!
# What a load discovers

The documents of definitions are loaded one after the other, and each caches the schemas that it leads to. The
cache is at any time `Discovered`: its keys are the URLs that the references resolved so far lead to, all of them
and no others, and each record was fetched as it is. This says nothing of the order in which the references came,
and so needs no account of which search found which schema.

`discovered_loadDocuments` describes a run that succeeded, `loadDocuments_ok_of_readable` says when a run does
succeed.
-/

namespace ApiCatalog

/-! ## Documents and what they declare -/

namespace Library

/-- The definition has a known kind, the library holds a text at its URL, and the text is that of a document of
this kind. -/
def Opens (library : Library) (definition : Definition) (document : Document) : Prop :=
  ∃ kind body, DocumentKind.ofSchemaUrl? definition.schema = some kind ∧
    library.find? definition.url = some body ∧ Document.decode kind definition.url body = .ok document

/-- Some entry of the document of some definition refers to a schema, and `url` is the canonical form of the
reference. -/
def Declares (library : Library) (definitions : List Definition) (url : String) : Prop :=
  ∃ definition ∈ definitions, ∃ document, library.Opens definition document ∧
    ∃ reference ∈ document.references, Text.isBlank reference = false ∧ url = canonicalUrl reference

theorem Opens.unique {library : Library} {definition : Definition} {a b : Document}
    (ha : library.Opens definition a) (hb : library.Opens definition b) : a = b := by
  obtain ⟨kind, body, hkind, hbody, hdecode⟩ := ha
  obtain ⟨kind', body', hkind', hbody', hdecode'⟩ := hb
  rw [hkind] at hkind'
  cases hkind'
  rw [hbody] at hbody'
  cases hbody'
  rw [hdecode] at hdecode'
  cases hdecode'
  rfl

theorem fetchDocument_ok {library : Library} {definition : Definition} {document : Document} {s t : Session} :
    Load.perform (library.fetchDocument definition) s = (.ok document, t) ↔
      library.Opens definition document ∧ t = s.request .document definition.url := by
  simp only [fetchDocument, Load.bind_ok, Load.lift_ok, Load.perform_fetch, Prod.mk.injEq, answer_ok]
  unfold Opens Definition.kind
  constructor
  · rintro ⟨kind, _, ⟨hkind, rfl⟩, body, _, ⟨hbody, rfl⟩, hdecode, rfl⟩
    refine ⟨⟨kind, body, ?_, hbody, hdecode⟩, rfl⟩
    split at hkind
    · next hselected =>
      cases hkind
      exact hselected
    · cases hkind
  · rintro ⟨⟨kind, body, hkind, hbody, hdecode⟩, rfl⟩
    exact ⟨kind, s, ⟨by rw [hkind], rfl⟩, body, _, ⟨hbody, rfl⟩, hdecode, rfl⟩

end Library

/-- The canonical forms of the references that are not blank. -/
def namedUrls (uses : List (Role × String)) (url : String) : Prop :=
  ∃ use ∈ uses, Text.isBlank use.2 = false ∧ url = canonicalUrl use.2

/-- No reference of an entry points into a document, blank ones apart. -/
def PlainUses (uses : List (Role × String)) : Prop :=
  ∀ use ∈ uses, Text.isBlank use.2 = false → hasPointerFragment use.2 = false

/-! ## The invariant -/

/-- The cache holds what the roots lead to, each schema as it was fetched. -/
structure Discovered (library : Library) (roots : String → Prop) (cache : SchemaCache) : Prop where
  keys_iff (url : String) : url ∈ cache.keys ↔ library.Reachable roots url
  fetched (record : SchemaRecord) (hrecord : record ∈ cache.records) :
    ∃ key nested, record.sourceUrl = key.url ∧ library.schema key = .ok (record.root, nested)

namespace Discovered
variable {library : Library} {roots roots' : String → Prop} {cache : SchemaCache}

theorem empty : Discovered library (fun _ => False) {} where
  keys_iff url := by
    constructor
    · intro hurl
      cases hurl
    · rintro ⟨_, ⟨⟩, _⟩
  fetched record hrecord := by cases hrecord

theorem congr (hroots : ∀ url, roots url ↔ roots' url) (h : Discovered library roots cache) :
    Discovered library roots' cache where
  keys_iff url := by
    rw [h.keys_iff]
    exact ⟨.mono fun root => (hroots root).1, .mono fun root => (hroots root).2⟩
  fetched := h.fetched

theorem modify {url : String} {f : SchemaRecord → SchemaRecord} (hf : ∀ record, (f record).root = record.root)
    (h : Discovered library roots cache) : Discovered library roots (cache.modify url f) where
  keys_iff other := by rw [SchemaCache.keys_modify, h.keys_iff]
  fetched record hrecord := by
    rw [SchemaCache.records_modify] at hrecord
    obtain ⟨original, horiginal, rfl⟩ := List.mem_map.1 hrecord
    obtain ⟨key, nested, hurl, hschema⟩ := h.fetched original horiginal
    split
    · exact ⟨key, nested, hurl, by rw [SchemaCache.changed, hf]; exact hschema⟩
    · exact ⟨key, nested, hurl, hschema⟩

/-- **A search that succeeds** adds what its key leads to. -/
theorem follow {key : SchemaKey} {s t : Session} (h : Discovered library roots s.cache)
    (hfollow : (s.follow library [key]).1 = (.ok (), t)) :
    Discovered library (fun url => roots url ∨ url = key.url) t.cache := by
  have hexplored := Session.explored_of_follow hfollow
  have hpending : ∀ url, Session.pendingUrls [key] url → roots url ∨ url = key.url := by
    rintro _ ⟨other, hother, rfl⟩
    rw [List.mem_singleton] at hother
    exact .inr (by rw [hother])
  refine ⟨fun url => ⟨fun hurl => ?_, fun hreachable => ?_⟩, fun record hrecord => ?_⟩
  · -- a cached key was cached before or is settled, and both are reachable
    obtain ⟨record, hrecord, rfl⟩ := SchemaCache.mem_keys.1 hurl
    rcases hexplored.added record hrecord with hold | ⟨other, nested, hrecord', hschema, hreachable, -⟩
    · exact ((h.keys_iff _).1 (SchemaCache.key_mem_keys hold)).mono fun _ => .inl
    · rw [hrecord', SchemaRecord.key, SchemaKey.canonicalUrl_url]
      exact hreachable.mono hpending
  · -- the cached keys contain the roots and are closed under references
    refine hreachable.closed ?_ fun current next hcurrent hnext => ?_
    · rintro root (hroot | rfl)
      · exact hexplored.keys_subset ((h.keys_iff root).2 (.root hroot))
      · exact hexplored.reached key (List.mem_singleton_self key)
    · obtain ⟨record, hrecord, rfl⟩ := SchemaCache.mem_keys.1 hcurrent
      rcases hexplored.added record hrecord with hold | ⟨other, nested, hrecord', hschema, -, hnested⟩
      · have hbefore := (h.keys_iff _).1 (SchemaCache.key_mem_keys hold)
        exact hexplored.keys_subset ((h.keys_iff next).2 (hbefore.step hnext))
      · rw [hrecord', SchemaRecord.key, SchemaKey.canonicalUrl_url] at hnext
        obtain ⟨below, hbelow, rfl⟩ := (Library.leadsTo_iff hschema).1 hnext
        exact hnested below hbelow
  · rcases hexplored.added record hrecord with hold | ⟨other, nested, hrecord', hschema, -, -⟩
    · exact h.fetched record hold
    · exact ⟨other, nested, by rw [hrecord'], hschema⟩

end Discovered

/-! ## References of entries -/

namespace Library
variable {library : Library} {roots : String → Prop}

theorem discovered_resolveAs {role : Role} {reference : String} {result : Option String} {s t : Session}
    (h : Discovered library roots s.cache)
    (hrun : Load.perform (library.resolveAs role (some reference)) s = (.ok result, t)) :
    Discovered library (fun url => roots url ∨ namedUrls [(role, reference)] url) t.cache ∧
      PlainUses [(role, reference)] := by
  obtain ⟨found, u, hresolve, hmark⟩ := Load.bind_ok.1 hrun
  have hnamed (url : String) : namedUrls [(role, reference)] url ↔
      Text.isBlank reference = false ∧ url = canonicalUrl reference := by
    simp [namedUrls]
  rcases resolve_ok.1 hresolve with ⟨hblank, rfl, rfl⟩ | ⟨hblank, key, hkey, rfl, hfollow⟩
  · cases hmark
    refine ⟨h.congr fun url => ?_, ?_⟩
    · simp [hnamed, hblank]
    · simp [PlainUses, hblank]
  · obtain ⟨_, v, hmodify, hpure⟩ := Load.bind_ok.1 hmark
    cases hpure
    rw [Load.perform_modifyCache, Prod.mk.injEq] at hmodify
    obtain ⟨-, rfl⟩ := hmodify
    have hmarked : ∀ record, (role.mark record).root = record.root := by
      intro record
      cases role <;> rfl
    refine ⟨((h.follow hfollow).modify hmarked).congr fun url => ?_, ?_⟩
    · simp [hnamed, hblank, SchemaKey.url_of_ofUrl? hkey]
    · simp [PlainUses, SchemaKey.hasPointerFragment_of_ofUrl? hkey]

theorem namedUrls_cons {use : Role × String} {rest : List (Role × String)} {url : String} :
    namedUrls (use :: rest) url ↔ namedUrls [use] url ∨ namedUrls rest url := by
  simp only [namedUrls, List.exists_mem_cons_iff, List.not_mem_nil, false_and, exists_false, or_false]

theorem plainUses_cons {use : Role × String} {rest : List (Role × String)} :
    PlainUses (use :: rest) ↔ PlainUses [use] ∧ PlainUses rest := by
  simp only [PlainUses, List.forall_mem_cons, List.not_mem_nil, false_implies, implies_true, and_true]

theorem discovered_resolveAll {uses : List (Role × String)} {s t : Session} (h : Discovered library roots s.cache)
    (hrun : Load.perform (library.resolveAll uses) s = (.ok (), t)) :
    Discovered library (fun url => roots url ∨ namedUrls uses url) t.cache ∧ PlainUses uses := by
  induction uses generalizing roots s with
  | nil =>
    cases hrun
    exact ⟨h.congr fun url => by simp [namedUrls], by simp [PlainUses]⟩
  | cons use rest ih =>
    obtain ⟨result, u, hfirst, hrest⟩ := Load.bind_ok.1 hrun
    obtain ⟨hdiscovered, hplain⟩ := discovered_resolveAs h hfirst
    obtain ⟨hdiscovered', hplain'⟩ := ih hdiscovered hrest
    refine ⟨hdiscovered'.congr fun url => ?_, plainUses_cons.2 ⟨hplain, hplain'⟩⟩
    rw [or_assoc]
    exact or_congr_right namedUrls_cons.symm

theorem resolveAs_ok_of_readable {role : Role} {reference : String} {s : Session}
    (hplain : PlainUses [(role, reference)])
    (hreadable : ∀ url, library.Reachable (namedUrls [(role, reference)]) url → library.Readable url) :
    ∃ result t, Load.perform (library.resolveAs role (some reference)) s = (.ok result, t) := by
  have hresolve : ∃ result t, Load.perform (library.resolve reference) s = (.ok result, t) := by
    cases hblank : Text.isBlank reference with
    | true => exact ⟨none, s, resolve_ok.2 (.inl ⟨hblank, rfl, rfl⟩)⟩
    | false =>
      obtain ⟨key, hkey, hurl⟩ := SchemaKey.exists_ofUrl? (hplain _ (List.mem_singleton_self _) hblank)
      have hroot : ∀ root, Session.pendingUrls [key] root → namedUrls [(role, reference)] root := by
        rintro _ ⟨other, hother, rfl⟩
        rw [List.mem_singleton] at hother
        exact ⟨_, List.mem_singleton_self _, hblank, by rw [hother, hurl]⟩
      have hfollow : ∃ t, (s.follow library [key]).1 = (.ok (), t) :=
        Session.follow_ok_of_readable fun url hurl => hreadable url (hurl.mono hroot)
      obtain ⟨t, hfollow⟩ := hfollow
      exact ⟨some key.url, t, resolve_ok.2 (.inr ⟨hblank, key, hkey, rfl, hfollow⟩)⟩
  obtain ⟨result, t, hresolve⟩ := hresolve
  cases result with
  | none => exact ⟨none, t, Load.bind_ok.2 ⟨none, t, hresolve, rfl⟩⟩
  | some url => exact ⟨some url, _, Load.bind_ok.2 ⟨some url, t, hresolve, rfl⟩⟩

theorem resolveAll_ok_of_readable {uses : List (Role × String)} {s : Session} (hplain : PlainUses uses)
    (hreadable : ∀ url, library.Reachable (namedUrls uses) url → library.Readable url) :
    ∃ t, Load.perform (library.resolveAll uses) s = (.ok (), t) := by
  induction uses generalizing s with
  | nil => exact ⟨s, rfl⟩
  | cons use rest ih =>
    obtain ⟨role, reference⟩ := use
    obtain ⟨hplain, hrest⟩ := plainUses_cons.1 hplain
    obtain ⟨result, u, hfirst⟩ := resolveAs_ok_of_readable (s := s) hplain fun url hurl =>
      hreadable url (hurl.mono fun _ hroot => namedUrls_cons.2 (.inl hroot))
    obtain ⟨t, hmore⟩ := ih (s := u) hrest fun url hurl =>
      hreadable url (hurl.mono fun _ hroot => namedUrls_cons.2 (.inr hroot))
    exact ⟨t, Load.bind_ok.2 ⟨result, u, hfirst, hmore⟩⟩

/-! ## Documents of definitions -/

theorem declares_cons {definition : Definition} {rest : List Definition} {document : Document} {url : String}
    (hopens : library.Opens definition document) :
    library.Declares (definition :: rest) url ↔ namedUrls document.uses url ∨ library.Declares rest url := by
  constructor
  · rintro ⟨other, hother, document', hopens', reference, hreference, hblank, rfl⟩
    rcases List.mem_cons.1 hother with rfl | hother
    · cases hopens.unique hopens'
      obtain ⟨use, huse, rfl⟩ := List.mem_map.1 hreference
      exact .inl ⟨use, huse, hblank, rfl⟩
    · exact .inr ⟨other, hother, document', hopens', reference, hreference, hblank, rfl⟩
  · rintro (⟨use, huse, hblank, rfl⟩ | ⟨other, hother, hdeclares⟩)
    · exact ⟨definition, List.mem_cons_self, document, hopens, use.2, List.mem_map_of_mem huse, hblank, rfl⟩
    · exact ⟨other, List.mem_cons_of_mem _ hother, hdeclares⟩

/-- What the documents of definitions, the first of which has the position `index`, become by linking. -/
inductive Linked (library : Library) : (index : Nat) → List Definition → List LoadedDefinition → Prop
  | nil (index : Nat) : Linked library index [] []
  | cons {index : Nat} {definition : Definition} {document linked : Document} {rest : List Definition}
      {more : List LoadedDefinition} (opens : library.Opens definition document)
      (plain : PlainUses document.uses) (named : document.named ⟨index⟩ = .ok linked)
      (tail : Linked library (index + 1) rest more) :
      Linked library index (definition :: rest) ({ definition, document := linked } :: more)

theorem loadDocuments_cons_ok {index : Nat} {definition : Definition} {rest : List Definition}
    {loaded : List LoadedDefinition} {s t : Session} :
    Load.perform (library.loadDocuments index (definition :: rest)) s = (.ok loaded, t) ↔
      ∃ document linked u more, library.Opens definition document ∧ document.named ⟨index⟩ = .ok linked ∧
        Load.perform (library.resolveAll document.uses) (s.request .document definition.url) = (.ok (), u) ∧
        Load.perform (library.loadDocuments (index + 1) rest) u = (.ok more, t) ∧
        loaded = { definition, document := linked } :: more := by
  simp only [loadDocuments, Load.bind_ok, fetchDocument_ok, link_ok, Load.perform_pure, Prod.mk.injEq,
    Except.ok.injEq]
  constructor
  · rintro ⟨document, _, ⟨hopens, rfl⟩, linked, u, ⟨hnamed, hresolve⟩, more, _, hrest, rfl, rfl⟩
    exact ⟨document, linked, u, more, hopens, hnamed, hresolve, hrest, rfl⟩
  · rintro ⟨document, linked, u, more, hopens, hnamed, hresolve, hrest, rfl⟩
    exact ⟨document, _, ⟨hopens, rfl⟩, linked, u, ⟨hnamed, hresolve⟩, more, t, hrest, rfl, rfl⟩

/-- **A run that succeeds** has linked every document and discovered what all of them declare. -/
theorem discovered_loadDocuments {index : Nat} {definitions : List Definition} {loaded : List LoadedDefinition}
    {s t : Session} (h : Discovered library roots s.cache)
    (hrun : Load.perform (library.loadDocuments index definitions) s = (.ok loaded, t)) :
    Linked library index definitions loaded ∧
      Discovered library (fun url => roots url ∨ library.Declares definitions url) t.cache := by
  induction definitions generalizing index roots loaded s with
  | nil =>
    cases hrun
    exact ⟨.nil index, h.congr fun url => by simp [Declares]⟩
  | cons definition rest ih =>
    obtain ⟨document, linked, u, more, hopens, hnamed, hresolve, hrest, rfl⟩ := loadDocuments_cons_ok.1 hrun
    obtain ⟨hdiscovered, hplain⟩ := discovered_resolveAll (s := s.request .document definition.url) h hresolve
    obtain ⟨hlinked, hdiscovered'⟩ := ih hdiscovered hrest
    refine ⟨.cons hopens hplain hnamed hlinked, hdiscovered'.congr fun url => ?_⟩
    rw [or_assoc]
    exact or_congr_right (declares_cons hopens).symm

/-- A run succeeds when all documents open and can be named, no reference of theirs points into a document, and
all that they declare leads only to schemas that can be read. -/
theorem loadDocuments_ok_of_readable {index : Nat} {definitions : List Definition} {s : Session}
    (hopens : ∀ definition ∈ definitions, ∃ document, library.Opens definition document ∧
      PlainUses document.uses ∧ ∀ id, ∃ linked, document.named id = .ok linked)
    (hreadable : ∀ url, library.Reachable (library.Declares definitions) url → library.Readable url) :
    ∃ loaded t, Load.perform (library.loadDocuments index definitions) s = (.ok loaded, t) := by
  induction definitions generalizing index s with
  | nil => exact ⟨[], s, rfl⟩
  | cons definition rest ih =>
    obtain ⟨⟨document, hdocument, hplain, hnames⟩, hrest⟩ := List.forall_mem_cons.1 hopens
    obtain ⟨linked, hnamed⟩ := hnames ⟨index⟩
    obtain ⟨u, hresolve⟩ := resolveAll_ok_of_readable (s := s.request .document definition.url) hplain
      fun url hurl => hreadable url (hurl.mono fun _ hroot => (declares_cons hdocument).2 (.inl hroot))
    have hmore : ∃ more t, Load.perform (library.loadDocuments (index + 1) rest) u = (.ok more, t) :=
      ih hrest fun url hurl => hreadable url (hurl.mono fun _ hroot => (declares_cons hdocument).2 (.inr hroot))
    obtain ⟨more, t, hmore⟩ := hmore
    exact ⟨_, t, loadDocuments_cons_ok.2 ⟨document, linked, u, more, hdocument, hnamed, hresolve, hmore, rfl⟩⟩

namespace Linked
variable {index : Nat} {definitions : List Definition} {loaded : List LoadedDefinition}

theorem opens (h : Linked library index definitions loaded) :
    ∀ definition ∈ definitions, ∃ document, library.Opens definition document ∧ PlainUses document.uses := by
  induction h with
  | nil => simp
  | cons hopens hplain _ _ ih => exact List.forall_mem_cons.2 ⟨⟨_, hopens, hplain⟩, ih⟩

theorem named (h : Linked library index definitions loaded) :
    ∀ result ∈ loaded, result.definition ∈ definitions ∧
      ∃ document id, library.Opens result.definition document ∧ document.named id = .ok result.document := by
  induction h with
  | nil => simp
  | cons hopens _ hnamed _ ih =>
    refine List.forall_mem_cons.2 ⟨⟨List.mem_cons_self, _, _, hopens, hnamed⟩, fun result hresult => ?_⟩
    obtain ⟨hmem, hdocument⟩ := ih result hresult
    exact ⟨List.mem_cons_of_mem _ hmem, hdocument⟩

end Linked

end Library

end ApiCatalog
