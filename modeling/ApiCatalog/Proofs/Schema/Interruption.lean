import ApiCatalog.Proofs.Linking
import ApiCatalog.Proofs.Schema.Following

/-!
# Searches that are interrupted

A schema is cached before the schemas that it refers to are searched, so that cycles come to an end, and it stays
in the cache when the search below it fails. A later search takes it as it is. A cache that several calls share may
thus hold schemas whose references were not all resolved: those that were under way when some call failed.

There are no others (`open_follow` for one search, `open_afterAll` for a sequence of calls), and each of these does
lead to a schema that is missing (`UnderWay.leads_out`). So a call that succeeds has cached everything that its schema
leads to without passing through an interrupted schema.
-/

namespace ApiCatalog

/-! ## References of cached schemas -/

namespace SchemaCache

/-- The cached schema refers to another document, and `next` is the reference. -/
def Refers (cache : SchemaCache) (url next : String) : Prop :=
  ∃ record ∈ cache.records, record.key = url ∧ next ∈ record.root.references ∧ isLocalReference next = false

/-- The cache holds the schema and all that it leads to through the references of cached schemas. -/
def Populated (cache : SchemaCache) (url : String) : Prop :=
  ∀ next, Relation.ReflTransGen cache.Refers url next → next ∈ cache.keys

/-- Some reference of the cached schema leads out of the cache. -/
def Open (cache : SchemaCache) (url : String) : Prop := ∃ next, cache.Refers url next ∧ next ∉ cache.keys

variable {cache : SchemaCache} {url next : String}

/-- A path that starts in the cache stays there as long as it passes through no open schema. -/
theorem mem_keys_of_path {P : String → Prop} (hurl : url ∈ cache.keys) (hclosed : ∀ url, P url → ¬cache.Open url)
    (hpath : Relation.ReflTransGen (fun current next => cache.Refers current next ∧ P current) url next) :
    next ∈ cache.keys := by
  induction hpath with
  | refl => exact hurl
  | tail _ hstep ih =>
    obtain ⟨hrefers, hcurrent⟩ := hstep
    by_contra habsent
    exact hclosed _ hcurrent ⟨_, hrefers, habsent⟩

end SchemaCache

/-! ## One search -/

namespace Session

/-- The schema has been visited, and the search below it fails, in the search for some keys. -/
inductive UnderWay (library : Library) : List SchemaKey → Session → String → Prop
  | cached {key : SchemaKey} {rest : List SchemaKey} {session : Session} {url : String}
      (hcached : key.url ∈ session.cache.keys) (hrest : UnderWay library rest session url) :
      UnderWay library (key :: rest) session url
  | here {key : SchemaKey} {rest nested : List SchemaKey} {root : SchemaNode} {session after deep : Session}
      {e : LoadError} (hvisits : Visits library key root nested session after)
      (hfails : (after.follow library nested).1 = (.error e, deep)) : UnderWay library (key :: rest) session key.url
  | deeper {key : SchemaKey} {rest nested : List SchemaKey} {root : SchemaNode} {session after deep : Session}
      {e : LoadError} {url : String} (hvisits : Visits library key root nested session after)
      (hfails : (after.follow library nested).1 = (.error e, deep)) (hbelow : UnderWay library nested after url) :
      UnderWay library (key :: rest) session url
  | next {key : SchemaKey} {rest nested : List SchemaKey} {root : SchemaNode} {session after deep : Session}
      {url : String} (hvisits : Visits library key root nested session after)
      (hdone : (after.follow library nested).1 = (.ok (), deep)) (hrest : UnderWay library rest deep url) :
      UnderWay library (key :: rest) session url

variable {library : Library}

theorem Visits.open_cases {key : SchemaKey} {nested : List SchemaKey} {root : SchemaNode} {before after : Session}
    (h : Visits library key root nested before after) {url : String} (hopen : after.cache.Open url) :
    url = key.url ∨ before.cache.Open url := by
  obtain ⟨next, ⟨record, hrecord, rfl, hnext, hlocal⟩, habsent⟩ := hopen
  rw [h.records] at hrecord
  rcases List.mem_cons.1 hrecord with rfl | hrecord
  · exact .inl (SchemaKey.canonicalUrl_url key)
  · refine .inr ⟨next, ⟨record, hrecord, rfl, hnext, hlocal⟩, fun hold => habsent ?_⟩
    refine SchemaCache.keys_subset_of_suffix ?_ hold
    rw [h.records]
    exact List.suffix_cons _ _

theorem Visits.not_open {key : SchemaKey} {nested : List SchemaKey} {root : SchemaNode}
    {before after deep : Session} (h : Visits library key root nested before after)
    (hdone : (after.follow library nested).1 = (.ok (), deep)) : ¬deep.cache.Open key.url := by
  rintro ⟨next, ⟨record, hrecord, hkey, hnext, hlocal⟩, habsent⟩
  have hdeep := explored_of_follow hdone
  -- the record is the one of the visit
  have hvisited : ({ sourceUrl := key.url, root } : SchemaRecord) ∈ deep.cache.records := by
    refine hdeep.kept.subset ?_
    rw [h.records]
    exact List.mem_cons_self
  have hsame := SchemaCache.eq_of_key_eq hrecord hvisited (hkey.trans (SchemaKey.canonicalUrl_url key).symm)
  subst hsame
  obtain ⟨other, hother, rfl⟩ := (Library.leadsTo_iff h.schema).1
    (Library.leadsTo_of_mem_references h.schema hnext hlocal)
  exact habsent (hdeep.reached other hother)

/-- **A search** opens no schemas but those that are under way when it fails. -/
theorem open_follow (library : Library) (pending : List SchemaKey) (session : Session) (url : String) :
    (session.follow library pending).1.2.cache.Open url → session.cache.Open url ∨
      (∃ e, (session.follow library pending).1.1 = .error e) ∧ UnderWay library pending session url := by
  refine follow_induct_runs library (motive := fun pending session outcome =>
    outcome.2.cache.Open url → session.cache.Open url ∨ (∃ e, outcome.1 = .error e) ∧
      UnderWay library pending session url) ?_ ?_ ?_ ?_ ?_ pending session
  · intro session hopen
    exact .inl hopen
  · intro key rest session outcome hcached ih hopen
    rcases ih hopen with hold | ⟨hfails, hrest⟩
    · exact .inl hold
    · exact .inr ⟨hfails, .cached hcached hrest⟩
  · intro key rest session e _ _ hopen
    exact .inl hopen
  · intro key rest session root nested after e deep hvisits hfails ih hopen
    rcases ih hopen with hafter | ⟨_, hbelow⟩
    · rcases hvisits.open_cases hafter with rfl | hold
      · exact .inr ⟨⟨e, rfl⟩, .here hvisits hfails⟩
      · exact .inl hold
    · exact .inr ⟨⟨e, rfl⟩, .deeper hvisits hfails hbelow⟩
  · intro key rest session root nested after deep outcome hvisits hdone ih ih' hopen
    rcases ih' hopen with hdeep | ⟨hfails, hrest⟩
    · rcases ih hdeep with hafter | ⟨⟨e, herror⟩, _⟩
      · rcases hvisits.open_cases hafter with rfl | hold
        · exact absurd hdeep (hvisits.not_open hdone)
        · exact .inl hold
      · cases herror
    · exact .inr ⟨hfails, .next hvisits hdone hrest⟩

/-- A search that fails has met a schema that it could not cache, and one of the keys leads to it. -/
theorem leads_out_of_follow {pending : List SchemaKey} {session final : Session} {e : LoadError}
    (h : (session.follow library pending).1 = (.error e, final)) :
    ∃ key ∈ pending, ∃ next, Relation.ReflTransGen library.LeadsTo key.url next ∧ next ∉ final.cache.keys := by
  refine follow_induct library (motive := fun pending _ outcome => ∀ e final, outcome = (.error e, final) →
    ∃ key ∈ pending, ∃ next, Relation.ReflTransGen library.LeadsTo key.url next ∧ next ∉ final.cache.keys)
    ?_ ?_ ?_ ?_ ?_ pending session e final h
  · rintro session e final ⟨⟩
  · intro key rest session outcome _ ih e final hfinal
    obtain ⟨other, hother, hleads⟩ := ih e final hfinal
    exact ⟨other, List.mem_cons_of_mem _ hother, hleads⟩
  · rintro key rest session e hfresh _ _ _ ⟨⟩
    exact ⟨key, List.mem_cons_self, key.url, .refl, hfresh⟩
  · rintro key rest session root nested after e deep hvisits ih _ _ ⟨⟩
    obtain ⟨other, hother, next, hpath, habsent⟩ := ih e deep rfl
    have hstep := (Library.leadsTo_iff hvisits.schema).2 ⟨other, hother, rfl⟩
    exact ⟨key, List.mem_cons_self, next, .head hstep hpath, habsent⟩
  · intro key rest session root nested after deep outcome _ _ ih e final hfinal
    obtain ⟨other, hother, hleads⟩ := ih e final hfinal
    exact ⟨other, List.mem_cons_of_mem _ hother, hleads⟩

/-- **A schema under way** is left with something missing: the search fails, and the schema leads to another that
is not in the cache. -/
theorem UnderWay.leads_out {pending : List SchemaKey} {session : Session} {url : String}
    (h : UnderWay library pending session url) : ∃ e final, (session.follow library pending).1 = (.error e, final) ∧
      ∃ next, Relation.ReflTransGen library.LeadsTo url next ∧ next ∉ final.cache.keys := by
  induction h with
  | cached hcached _ ih =>
    rw [follow_cached hcached]
    exact ih
  | here hvisits hfails =>
    obtain ⟨other, hother, next, hpath, habsent⟩ := leads_out_of_follow hfails
    have hstep := (Library.leadsTo_iff hvisits.schema).2 ⟨other, hother, rfl⟩
    exact ⟨_, _, follow_deepFails hvisits hfails, next, .head hstep hpath, habsent⟩
  | deeper hvisits _ _ ih =>
    obtain ⟨e, final, hfails, hleads⟩ := ih
    exact ⟨e, final, follow_deepFails hvisits hfails, hleads⟩
  | next hvisits hdone _ ih =>
    rw [follow_visited hvisits hdone]
    exact ih

theorem not_underWay_of_schema_error {key : SchemaKey} {session : Session} {e : LoadError} {url : String}
    (hfresh : key.url ∉ session.cache.keys) (hschema : library.schema key = .error e) :
    ¬UnderWay library [key] session url := by
  have hvisits {nested : List SchemaKey} {root : SchemaNode} {after : Session}
      (h : Visits library key root nested session after) : False := by
    rw [h.schema] at hschema
    cases hschema
  intro hunder
  cases hunder with
  | cached hcached => exact hfresh hcached
  | here h => exact hvisits h
  | deeper h => exact hvisits h
  | next h => exact hvisits h

end Session

/-! ## A sequence of calls -/

/-- A library that may change, and what has been resolved with it. -/
structure Resolver where
  library : Library
  session : Session := {}

namespace Resolver

/-- What may happen to a resolver: a text is added or replaced, or a URL is resolved. -/
inductive Call where
  | put (location body : String)
  | resolve (url : String)
  deriving DecidableEq, Repr

def resolve (resolver : Resolver) (url : String) : Except LoadError (Option String) × Session :=
  Load.perform (resolver.library.resolve url) resolver.session

/-- The resolver after a call. A call that fails leaves in the cache what it had put there. -/
def after (resolver : Resolver) : Call → Resolver
  | .put location body => { resolver with library := resolver.library.put location body }
  | .resolve url => { resolver with session := (resolver.resolve url).2 }

def afterAll (resolver : Resolver) (calls : List Call) : Resolver := calls.foldl after resolver

/-- The call fails, and the search below the schema is what it fails in. -/
def Interrupts (resolver : Resolver) (url : String) : Call → Prop
  | .put _ _ => False
  | .resolve reference => (∃ e t, resolver.resolve reference = (.error e, t)) ∧
      ∃ key, SchemaKey.ofUrl? reference = some key ∧
        resolver.session.UnderWay resolver.library [key] url

def Interrupted (resolver : Resolver) (url : String) : List Call → Prop
  | [] => False
  | call :: rest => resolver.Interrupts url call ∨ (resolver.after call).Interrupted url rest

def Succeeds (resolver : Resolver) : List Call → Prop
  | [] => True
  | .put location body :: rest => (resolver.after (.put location body)).Succeeds rest
  | .resolve url :: rest =>
    (∃ key t, resolver.resolve url = (.ok key, t)) ∧ (resolver.after (.resolve url)).Succeeds rest

variable {resolver : Resolver} {url : String}

theorem resolve_eq (resolver : Resolver) {reference : String} {key : SchemaKey}
    (hblank : Text.isBlank reference = false) (hkey : SchemaKey.ofUrl? reference = some key) :
    resolver.resolve reference =
      ((resolver.session.follow resolver.library [key]).1.1.map fun _ => some key.url,
        (resolver.session.follow resolver.library [key]).1.2) :=
  Library.resolve_search hblank hkey

theorem open_of_resolve (resolver : Resolver) (reference : String)
    (h : (resolver.resolve reference).2.cache.Open url) :
    resolver.session.cache.Open url ∨ resolver.Interrupts url (.resolve reference) := by
  cases hblank : Text.isBlank reference with
  | true =>
    rw [resolve, Library.resolve_blank hblank] at h
    exact .inl h
  | false =>
    cases hkey : SchemaKey.ofUrl? reference with
    | none =>
      rw [resolve, Library.resolve_unkeyed hblank hkey] at h
      exact .inl h
    | some key =>
      have hresolve := resolve_eq resolver hblank hkey
      rw [hresolve] at h
      rcases Session.open_follow _ _ _ _ h with hold | ⟨⟨e, hfails⟩, hunder⟩
      · exact .inl hold
      · rw [hfails] at hresolve
        exact .inr ⟨⟨e, _, hresolve⟩, key, hkey, hunder⟩

/-- **A sequence of calls** opens no schemas but those that some call is interrupted in. -/
theorem open_afterAll {calls : List Call} (h : (resolver.afterAll calls).session.cache.Open url) :
    resolver.session.cache.Open url ∨ resolver.Interrupted url calls := by
  induction calls generalizing resolver with
  | nil => exact .inl h
  | cons call rest ih =>
    rcases ih h with hafter | hrest
    · cases call with
      | put location body => exact .inl hafter
      | resolve reference => exact (open_of_resolve resolver reference hafter).imp_right .inl
    · exact .inr (.inr hrest)

theorem Succeeds.not_interrupted {calls : List Call} (h : resolver.Succeeds calls) :
    ¬resolver.Interrupted url calls := by
  induction calls generalizing resolver with
  | nil => exact id
  | cons call rest ih =>
    cases call with
    | put location body =>
      rintro (hfalse | hrest)
      · exact hfalse
      · exact ih h hrest
    | resolve reference =>
      obtain ⟨⟨key, t, hrun⟩, hsucceeds⟩ := h
      rintro (⟨⟨e, u, hfails⟩, -⟩ | hrest)
      · rw [hrun] at hfails
        cases hfails
      · exact ih hsucceeds hrest

/-- **A call that succeeds** has cached its schema, and everything that the schema leads to without passing through
a schema that an earlier call was interrupted in. If no earlier call failed, this is everything that it leads to. -/
theorem populated_unless_interrupted (library : Library) (calls : List Call) {key : String} {t : Session}
    (hrun : (afterAll { library } calls).resolve url = (.ok (some key), t)) :
    key ∈ t.cache.keys ∧
      (∀ next, Relation.ReflTransGen (fun current next => t.cache.Refers current next ∧
        ¬Interrupted { library } current calls) key next → next ∈ t.cache.keys) ∧
      (Succeeds { library } calls → t.cache.Populated key) := by
  have hcached : key ∈ t.cache.keys := by
    rcases Library.resolve_ok.1 hrun with ⟨-, hnone, -⟩ | ⟨-, found, -, hfound, hfollow⟩
    · cases hnone
    · cases hfound
      exact (Session.explored_of_follow hfollow).reached found (List.mem_singleton_self found)
  have hclosed : ∀ current, ¬Interrupted { library } current calls → ¬t.cache.Open current := by
    intro current hnot hopen
    have hlast : t = ((afterAll { library } calls).resolve url).2 := by rw [hrun]
    rw [hlast] at hopen
    rcases open_of_resolve _ url hopen with hbefore | ⟨⟨e, u, hfails⟩, -⟩
    · rcases open_afterAll hbefore with ⟨_, ⟨_, ⟨⟩, _⟩, _⟩ | hinterrupted
      exact hnot hinterrupted
    · rw [hrun] at hfails
      cases hfails
  refine ⟨hcached, fun _ hpath => SchemaCache.mem_keys_of_path hcached hclosed hpath, fun hsucceeds next hpath => ?_⟩
  refine SchemaCache.mem_keys_of_path hcached hclosed ?_
  exact Relation.ReflTransGen.mono (fun _ _ hrefers => ⟨hrefers, hsucceeds.not_interrupted⟩) _ _ hpath

/-! ## A reference that cannot be followed -/

/-- The library of one schema, which refers to another that is not there. -/
def dangling : Library where
  documents := [("http://s/a.json", "\x7b\"items\":\x7b\"$ref\":\"b.json\"\x7d\x7d")]

/-- The keys of the two schemas. -/
def presentKey : SchemaKey := ⟨"http://s/a.json", by decide⟩

def missingKey : SchemaKey := ⟨"http://s/b.json", by decide⟩

theorem ofUrl?_present : SchemaKey.ofUrl? "http://s/a.json" = some presentKey := by decide

theorem ofUrl?_missing : SchemaKey.ofUrl? "http://s/b.json" = some missingKey := by decide

theorem dangling_schema : ∃ root, dangling.schema presentKey = .ok (root, [missingKey]) :=
  Library.schema_of_next?_eq_map (by decide +kernel)

theorem dangling_missing : ∃ e, dangling.schema missingKey = .error e :=
  Library.schema_of_next?_eq_none (by decide +kernel)

theorem dangling_fails : ∃ e t root,
    Resolver.resolve { library := dangling } "http://s/a.json" = (.error e, t) ∧
      t.cache.records = [{ sourceUrl := presentKey.url, root }] ∧ missingKey.url ∈ root.references := by
  obtain ⟨root, hschema⟩ := dangling_schema
  obtain ⟨e, hmissing⟩ := dangling_missing
  obtain ⟨after, hvisit, hvisits⟩ : ∃ after, ({} : Session).visit dangling presentKey = (.ok [missingKey], after) ∧
    Session.Visits dangling presentKey root [missingKey] {} after := Session.exists_visit List.not_mem_nil hschema
  have hfresh : missingKey.url ∉ after.cache.keys := by
    rw [(Session.keys_of_visit hvisit).2.1]
    decide
  have hfollow : (({} : Session).follow dangling [presentKey]).1 = (.error e, _) :=
    Session.follow_deepFails hvisits (Session.follow_fails hfresh hmissing)
  refine ⟨e, after.request .schema missingKey.location, root, ?_, hvisits.records,
    Library.url_mem_references hschema (List.mem_singleton_self _)⟩
  rw [resolve_eq _ (by decide) ofUrl?_present, hfollow]
  rfl

/-- A reference that could not be followed is not followed by the next call either: this call succeeds, for the
schema is in the cache, and what the schema refers to is not. -/
theorem dangling_not_populated : ∃ t,
    (afterAll { library := dangling } [.resolve "http://s/a.json"]).resolve "http://s/a.json" =
      (.ok (some "http://s/a.json#"), t) ∧ ¬t.cache.Populated "http://s/a.json#" := by
  obtain ⟨e, t, root, hfails, hrecords, hreference⟩ := dangling_fails
  have hafter : afterAll { library := dangling } [.resolve "http://s/a.json"] =
      { library := dangling, session := t } := by
    simp only [afterAll, List.foldl_cons, List.foldl_nil, after, hfails]
  have hkeys : t.cache.keys = [presentKey.url] := by
    rw [SchemaCache.keys, hrecords]
    simp [SchemaRecord.key]
  have hcached : presentKey.url ∈ t.cache.keys := by
    rw [hkeys]
    exact List.mem_singleton_self _
  refine ⟨t, ?_, fun hpopulated => ?_⟩
  · rw [hafter, resolve_eq _ (by decide) ofUrl?_present, Session.follow_cached hcached,
      Session.follow_nil]
    rfl
  · have hrefers : t.cache.Refers "http://s/a.json#" missingKey.url := by
      refine ⟨{ sourceUrl := presentKey.url, root }, ?_, SchemaKey.canonicalUrl_url presentKey, hreference, by decide⟩
      rw [hrecords]
      exact List.mem_singleton_self _
    have hmem := hpopulated _ (.single hrefers)
    rw [hkeys] at hmem
    exact absurd hmem (by decide)

/-- The calls that mend the library: one asks for the missing schema and fails, one puts the schema there. -/
def mending : List Call := [.resolve "http://s/b.json", .put "http://s/b.json" "\x7b\x7d"]

def mended : Library := dangling.put "http://s/b.json" "\x7b\x7d"

theorem mended_schema : ∃ root, mended.schema presentKey = .ok (root, [missingKey]) :=
  Library.schema_of_next?_eq_map (by decide +kernel)

theorem mended_missing : ∃ root, mended.schema missingKey = .ok (root, []) :=
  Library.schema_of_next?_eq_map (by decide +kernel)

theorem afterAll_mending : ∃ requests, afterAll { library := dangling } mending =
    { library := mended, session := { requests } } := by
  obtain ⟨e, hmissing⟩ := dangling_missing
  have hfails : (({} : Session).follow dangling [missingKey]).1 = (.error e, _) :=
    Session.follow_fails List.not_mem_nil hmissing
  have hresolve := resolve_eq { library := dangling } (by decide) ofUrl?_missing
  simp only [hfails] at hresolve
  exact ⟨_, by simp only [mending, afterAll, List.foldl_cons, List.foldl_nil, after, hresolve]; rfl⟩

theorem not_interrupted_mending : ¬Interrupted { library := dangling } url mending := by
  obtain ⟨e, hmissing⟩ := dangling_missing
  rintro (⟨-, key, hkey, hunder⟩ | hfalse | hfalse)
  · rw [ofUrl?_missing] at hkey
    cases hkey
    exact Session.not_underWay_of_schema_error List.not_mem_nil hmissing hunder
  · exact hfalse
  · exact hfalse

theorem mended_readable (url : String) (h : mended.Reachable (Session.pendingUrls [presentKey]) url) :
    mended.Readable url := by
  obtain ⟨root, hschema⟩ := mended_schema
  obtain ⟨root', hmissing⟩ := mended_missing
  have hurl : ∃ key ∈ [presentKey, missingKey], url = key.url := by
    refine h.closed (P := fun url => ∃ key ∈ [presentKey, missingKey], url = key.url) ?_ ?_
    · rintro _ ⟨key, hkey, rfl⟩
      exact ⟨key, List.mem_cons.2 (.inl (List.mem_singleton.1 hkey)), rfl⟩
    · rintro _ next ⟨key, hkey, rfl⟩ hnext
      rcases List.mem_pair.1 hkey with rfl | rfl
      · obtain ⟨other, hother, rfl⟩ := (Library.leadsTo_iff hschema).1 hnext
        exact ⟨other, List.mem_cons_of_mem _ hother, rfl⟩
      · obtain ⟨other, hother, -⟩ := (Library.leadsTo_iff hmissing).1 hnext
        cases hother
  obtain ⟨key, hkey, rfl⟩ := hurl
  rcases List.mem_pair.1 hkey with rfl | rfl
  · exact Library.schema_ok_iff.1 ⟨_, hschema⟩
  · exact Library.schema_ok_iff.1 ⟨_, hmissing⟩

/-- When the missing schema has been put there, a call for the other one caches both, in spite of the call that
failed before. -/
theorem mended_populated : ∃ t,
    (afterAll { library := dangling } mending).resolve "http://s/a.json" = (.ok (some presentKey.url), t) ∧
      missingKey.url ∈ t.cache.keys := by
  obtain ⟨requests, hafter⟩ := afterAll_mending
  obtain ⟨t, hfollow⟩ : ∃ t, (Session.follow mended [presentKey] { requests }).1 = (.ok (), t) :=
    Session.follow_ok_of_readable mended_readable
  have hrun : (afterAll { library := dangling } mending).resolve "http://s/a.json" =
      (.ok (some presentKey.url), t) := by
    rw [hafter, resolve_eq _ (by decide) ofUrl?_present, hfollow]
    rfl
  obtain ⟨hcached, hpath, -⟩ := populated_unless_interrupted dangling mending hrun
  refine ⟨t, hrun, hpath _ (.single ⟨?_, not_interrupted_mending⟩)⟩
  -- the record is that of the schema in the library, which refers to the other one
  obtain ⟨record, hrecord, hkey⟩ := SchemaCache.mem_keys.1 hcached
  rcases (Session.explored_of_follow hfollow).added record hrecord with hold | ⟨key, nested, hsource, hschema, -, -⟩
  · cases hold
  · have hpresent : key = presentKey := by
      rw [hsource, SchemaRecord.key, SchemaKey.canonicalUrl_url] at hkey
      exact SchemaKey.url_injective hkey
    subst hpresent
    obtain ⟨root, hfound⟩ := mended_schema
    rw [hfound] at hschema
    cases hschema
    exact ⟨record, hrecord, hkey, Library.url_mem_references hfound (List.mem_singleton_self _), by decide⟩

end Resolver

end ApiCatalog
