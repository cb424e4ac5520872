import ApiCatalog.Proofs.Schema.Interruption
import ApiCatalog.Proofs.Schema.Tours
import ApiCatalog.Proofs.Schema.Visiting

/-!
# What a call leaves behind

What becomes of a session when a URL is resolved, whether the call succeeds or fails, and how deep it was when it
failed (`resolve_effect`). Records that were there stay as they were. Each record that is new holds a schema of the
library with its references rewritten and with nothing else changed (`Library.Fetched`). A call that fails has met a
schema that cannot be read (`Library.Unreadable`), and this one is not cached: references are rewritten before a schema
is cached, and when one of them has no canonical form, what was made of the others is lost
(`unreadable_of_schema_error`). A call that succeeds makes its schema a cached one, so a second call does nothing.
-/

namespace ApiCatalog

/-! ## Rewritten references -/

/-- What becomes of a reference in a document: a local one stays as it is, and any other one becomes the canonical form
of its absolute form. -/
def IsCanonicalForm (location reference form : String) : Prop :=
  if isLocalReference reference then form = reference
  else ∃ absolute, Url.absolute? location reference = some absolute ∧ form = canonicalUrl absolute

theorem isCanonicalForm_of_run {location reference form : String} {keys keys' : List SchemaKey}
    (h : (canonicalReference location reference).run keys = .ok (form, keys')) :
    IsCanonicalForm location reference form := by
  have hrun : canonicalReference location reference keys = .ok (form, keys') := h
  unfold canonicalReference at hrun
  unfold IsCanonicalForm
  split
  · next hlocal =>
    rw [if_pos hlocal] at hrun
    cases hrun
    rfl
  · next hlocal =>
    rw [if_neg hlocal] at hrun
    rcases hkey : SchemaKey.ofReference location reference with fault | key
    · rw [hkey] at hrun
      cases hrun
    · rw [hkey] at hrun
      cases hrun
      obtain ⟨absolute, habsolute, hofUrl⟩ := SchemaKey.ofReference_ok.1 hkey
      exact ⟨absolute, habsolute, SchemaKey.url_of_ofUrl? hofUrl⟩

/-! ## Schemas that can be read, and others -/

/-- The record holds the schema of the library at its URL with its references in canonical form, and nothing is known
of its use. -/
structure Library.Fetched (library : Library) (record : SchemaRecord) : Prop where
  root : ∃ node, library.Reads record.sourceUrl node ∧
    SchemaNode.Relinked (IsCanonicalForm (documentLocation record.sourceUrl)) node record.root
  unmarked : record.isInput = false ∧ record.isOutput = false
  unnamed : record.typeName = none

/-- There is no schema for the URL that could be cached, and the error says why: no text is stored, or the text is not
that of a schema, or one of its references has no absolute form or points into a document. -/
inductive Library.Unreadable (library : Library) (url : String) : LoadError → Prop
  | missing (absent : library.find? (documentLocation url) = none) :
      Unreadable library url (.transport (documentLocation url) "404 Not Found")
  | malformed {body message : String} (stored : library.find? (documentLocation url) = some body)
      (refused : SchemaNode.decode url body = .error (.decode url message)) :
      Unreadable library url (.decode url message)
  | unresolvable {node : SchemaNode} {reference : String} (reads : library.Reads url node)
      (stands : reference ∈ node.references) (remote : isLocalReference reference = false)
      (relative : Url.absolute? (documentLocation url) reference = none) :
      Unreadable library url (.decode url ("cannot resolve reference '" ++ reference ++ "'"))
  | pointed {node : SchemaNode} {reference absolute : String} (reads : library.Reads url node)
      (stands : reference ∈ node.references) (remote : isLocalReference reference = false)
      (joined : Url.absolute? (documentLocation url) reference = some absolute)
      (points : hasPointerFragment absolute = true) :
      Unreadable library url (.decode url ("unsupported fragment in reference '" ++ reference ++ "'"))

theorem exists_fault_of_run_mapM {location : String} {references : List String} {keys : List SchemaKey}
    {fault : ReferenceFault} (h : (references.mapM (canonicalReference location)).run keys = .error fault) :
    ∃ reference ∈ references, isLocalReference reference = false ∧
      SchemaKey.ofReference location reference = .error fault := by
  induction references generalizing keys with
  | nil => cases h
  | cons reference rest ih =>
    rw [List.mapM_cons] at h
    rcases run_bind_error.1 h with hfirst | ⟨form, between, -, h⟩
    · have hrun : canonicalReference location reference keys = .error fault := hfirst
      unfold canonicalReference at hrun
      split at hrun
      · cases hrun
      · next hremote =>
        refine ⟨reference, List.mem_cons_self, by simpa using hremote, ?_⟩
        rcases hkey : SchemaKey.ofReference location reference with fault' | key
        · rw [hkey] at hrun
          cases hrun
          rfl
        · rw [hkey] at hrun
          cases hrun
    · rcases run_bind_error.1 h with hrest | ⟨forms, final, -, hpure⟩
      · obtain ⟨other, hother, hfault⟩ := ih hrest
        exact ⟨other, List.mem_cons_of_mem _ hother, hfault⟩
      · cases hpure

theorem SchemaNode.eq_decode_of_error {url body : String} {e : LoadError} (h : decode url body = .error e) :
    ∃ message, e = .decode url message := by
  unfold decode at h
  split at h
  · cases h
  · cases h
    exact ⟨_, rfl⟩

namespace Library
variable {library : Library} {key : SchemaKey}

theorem unreadable_of_ofReference {node : SchemaNode} {reference : String} {fault : ReferenceFault}
    (hreads : library.Reads key.url node) (hstands : reference ∈ node.references)
    (hremote : isLocalReference reference = false)
    (hfault : SchemaKey.ofReference key.location reference = .error fault) :
    library.Unreadable key.url (.decode key.url fault.message) := by
  unfold SchemaKey.ofReference at hfault
  rw [← SchemaKey.documentLocation_url] at hfault
  split at hfault
  · next hnone =>
    cases hfault
    exact .unresolvable hreads hstands hremote hnone
  · next absolute habsolute =>
    split at hfault
    · next hkey =>
      cases hfault
      refine .pointed hreads hstands hremote habsolute ?_
      by_contra hplain
      obtain ⟨other, hother, -⟩ := SchemaKey.exists_ofUrl? (Bool.eq_false_iff.2 hplain)
      rw [hkey] at hother
      cases hother
    · cases hfault

theorem unreadable_of_schema_error {e : LoadError} (h : library.schema key = .error e) :
    library.Unreadable key.url e := by
  unfold schema answer at h
  rw [← SchemaKey.documentLocation_url] at h
  cases hbody : library.find? (documentLocation key.url) with
  | none =>
    simp only [hbody] at h
    cases h
    exact .missing hbody
  | some body =>
    simp only [hbody] at h
    cases hdecode : SchemaNode.decode key.url body with
    | error e' =>
      simp only [hdecode] at h
      cases h
      obtain ⟨message, rfl⟩ := SchemaNode.eq_decode_of_error hdecode
      exact .malformed hbody hdecode
    | ok node =>
      simp only [hdecode] at h
      split at h
      · next fault hrun =>
        cases h
        -- the list of the references is rewritten as the node is, and so fails with it
        have hlist := congrArg (StateT.run · ([] : List SchemaKey))
          (SchemaNode.references_mapReferences (canonicalReference (documentLocation key.url)) node)
        simp only [StateT.run_map, hrun] at hlist
        obtain ⟨reference, hstands, hremote, hfault⟩ := exists_fault_of_run_mapM hlist.symm
        rw [SchemaKey.documentLocation_url] at hfault
        exact unreadable_of_ofReference ⟨body, hbody, hdecode⟩ hstands hremote hfault
      · cases h

theorem fetched_of_schema {root : SchemaNode} {nested : List SchemaKey} (h : library.schema key = .ok (root, nested)) :
    library.Fetched { sourceUrl := key.url, root } := by
  obtain ⟨node, hreads, hrun⟩ := reads_of_schema h
  refine ⟨⟨node, hreads, ?_⟩, ⟨rfl, rfl⟩, rfl⟩
  rw [SchemaKey.documentLocation_url]
  exact SchemaNode.relinked_mapReferences isCanonicalForm_of_run node hrun

/-! ## One call -/

variable {url : String} {session final : Session}

theorem found_of_toured {outcome : Except LoadError Unit × Session} (h : Session.Toured library session outcome)
    (other : String) (record : SchemaRecord) :
    (session.cache.get? other = some record → outcome.2.cache.get? other = some record) ∧
      (outcome.2.cache.get? other = some record → session.cache.get? other = some record ∨
        canonicalUrl other = record.sourceUrl ∧ library.Fetched record) := by
  -- a request behind the tour leaves the cache alone
  obtain ⟨keys, last, htour, hcache⟩ : ∃ keys last, Session.Tour library keys session last ∧
      outcome.2.cache = last.cache := by
    rcases outcome with ⟨e | _, final⟩
    · obtain ⟨keys, last, bad, htour, -, -, rfl⟩ := h
      exact ⟨keys, last, htour, rfl⟩
    · obtain ⟨keys, htour⟩ := h
      exact ⟨keys, final, htour, rfl⟩
  rw [hcache, SchemaCache.get?_eq_some, SchemaCache.get?_eq_some]
  refine ⟨fun hold => ⟨htour.kept.subset hold.1, hold.2⟩, fun hfound => ?_⟩
  rcases htour.fetched record hfound.1 with hold | ⟨key, nested, hrecord, hschema⟩
  · exact .inl ⟨hold, hfound.2⟩
  · refine .inr ⟨?_, ?_⟩
    · rw [← hfound.2, SchemaRecord.key, hrecord, SchemaKey.canonicalUrl_url]
    · rw [hrecord]
      exact fetched_of_schema hschema

theorem resolve_cached (hblank : Text.isBlank url = false) (hkey : SchemaKey.ofUrl? url = some key)
    (hcached : key.url ∈ session.cache.keys) :
    Load.perform (library.resolve url) session = (.ok (some key.url), session) := by
  rw [resolve_search hblank hkey, Session.follow_cached hcached, Session.follow_nil]
  rfl

/-- **What a call leaves behind.** No record that was cached is changed or lost, and each one that is new sits under its
own URL and holds a schema of the library with nothing changed but its references. A URL that is blank or points into a
document leaves everything as it is. A call for another URL fails because of a schema that cannot be read, and this
schema is not cached. A call that succeeds can be repeated, with its URL or with its result, and the second call does
nothing and has the same result. -/
theorem resolve_effect {result : Except LoadError (Option String)}
    (hrun : Load.perform (library.resolve url) session = (result, final)) :
    (∀ other record, session.cache.get? other = some record → final.cache.get? other = some record) ∧
      (∀ other record, final.cache.get? other = some record → session.cache.get? other = some record ∨
        canonicalUrl other = record.sourceUrl ∧ library.Fetched record) ∧
      (Text.isBlank url = true ∨ hasPointerFragment url = true → final = session) ∧
      (∀ e, result = .error e → hasPointerFragment url = false →
        ∃ bad : SchemaKey, library.Unreadable bad.url e ∧ final.cache.get? bad.url = none) ∧
      ∀ key, result = .ok (some key) →
        Load.perform (library.resolve url) final = (.ok (some key), final) ∧
          Load.perform (library.resolve key) final = (.ok (some key), final) := by
  cases hblank : Text.isBlank url with
  | true =>
    rw [resolve_blank hblank] at hrun
    cases hrun
    exact ⟨fun _ _ => id, fun _ _ => .inl, fun _ => rfl, by rintro e ⟨⟩, by rintro key ⟨⟩⟩
  | false =>
    cases hpointed : hasPointerFragment url with
    | true =>
      rw [resolve_unkeyed hblank (SchemaKey.ofUrl?_of_pointed hpointed)] at hrun
      cases hrun
      exact ⟨fun _ _ => id, fun _ _ => .inl, fun _ => rfl, fun _ _ => by rintro ⟨⟩, by rintro key ⟨⟩⟩
    | false =>
      obtain ⟨key, hkey, -⟩ := SchemaKey.exists_ofUrl? hpointed
      obtain ⟨hresult, rfl⟩ := Prod.mk.inj ((resolve_search hblank hkey).symm.trans hrun)
      have htoured := Session.tour_of_follow library [key] session
      refine ⟨fun other record => (found_of_toured htoured other record).1,
        fun other record => (found_of_toured htoured other record).2, by simp, ?_, ?_⟩
      · rintro e rfl -
        rcases hfollow : (session.follow library [key]).1 with ⟨e' | _, t⟩
        · rw [hfollow] at hresult htoured
          cases hresult
          obtain ⟨keys, last, bad, -, hfresh, hschema, rfl⟩ := htoured
          refine ⟨bad, unreadable_of_schema_error hschema, SchemaCache.get?_eq_none.2 ?_⟩
          rwa [SchemaKey.canonicalUrl_url]
        · rw [hfollow] at hresult
          cases hresult
      · rintro found rfl
        rcases hfollow : (session.follow library [key]).1 with ⟨e' | _, t⟩
        · rw [hfollow] at hresult
          cases hresult
        · rw [hfollow] at hresult
          cases hresult
          have hcached := (Session.explored_of_follow hfollow).reached key (List.mem_singleton_self key)
          exact ⟨resolve_cached hblank hkey hcached, resolve_cached key.isBlank_url key.ofUrl?_url hcached⟩

/-- A call that fails below its schema has cached this schema as it was fetched, and not the one that it failed at. The
next call is content with that, and so is one for its result. -/
theorem dangling_effect : ∃ e t,
    Load.perform (Resolver.dangling.resolve "http://s/a.json") {} = (.error e, t) ∧
      (∃ bad : SchemaKey, Resolver.dangling.Unreadable bad.url e ∧ t.cache.get? bad.url = none) ∧
      (∃ record, t.cache.get? "http://s/a.json" = some record ∧ Resolver.dangling.Fetched record) ∧
      Load.perform (Resolver.dangling.resolve "http://s/a.json") t = (.ok (some Resolver.presentKey.url), t) ∧
      Load.perform (Resolver.dangling.resolve Resolver.presentKey.url) t = (.ok (some Resolver.presentKey.url), t) := by
  obtain ⟨e, t, root, hfails, hrecords, -⟩ := Resolver.dangling_fails
  have hrun : Load.perform (Resolver.dangling.resolve "http://s/a.json") {} = (.error e, t) := hfails
  have hrecord : ({ sourceUrl := Resolver.presentKey.url, root } : SchemaRecord) ∈ t.cache.records := by
    rw [hrecords]
    exact List.mem_singleton_self _
  have hcached : Resolver.presentKey.url ∈ t.cache.keys :=
    SchemaCache.mem_keys.2 ⟨_, hrecord, SchemaKey.canonicalUrl_url _⟩
  have hagain : Load.perform (Resolver.dangling.resolve "http://s/a.json") t =
      (.ok (some Resolver.presentKey.url), t) :=
    resolve_cached (by decide) Resolver.ofUrl?_present hcached
  obtain ⟨-, hadded, -, hfailed, -⟩ := resolve_effect hrun
  obtain ⟨-, -, -, -, hrepeated⟩ := resolve_effect hagain
  have hfound : t.cache.get? "http://s/a.json" = some { sourceUrl := Resolver.presentKey.url, root } :=
    SchemaCache.get?_eq_some.2 ⟨hrecord, (SchemaKey.canonicalUrl_url _).trans (by decide)⟩
  refine ⟨e, t, hrun, hfailed e rfl (by decide), ⟨_, hfound, ?_⟩, hagain, (hrepeated _ rfl).2⟩
  rcases hadded _ _ hfound with hold | ⟨-, hfetched⟩
  · cases hold
  · exact hfetched

end Library

end ApiCatalog
