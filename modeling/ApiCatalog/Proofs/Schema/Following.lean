import ApiCatalog.Proofs.Schema.Graph
import ApiCatalog.Proofs.Schema.Records

/-!
# Following references

What the search of the resolver does, whatever the shape of the graph. `follow_induct` is the induction behind
all of it: the search ends, passes over a cached key, or visits a fresh one and goes on with the keys that it
leads to before the keys that are left. `follow_cached`, `follow_fails`, `follow_deepFails` and `follow_visited` are
the equations of these steps.

* `explored_of_follow`: a search that succeeds keeps every record, reaches every pending key, and each record it
  adds was fetched, is reachable from the pending keys, and leads to keys that are all cached in the end. In the
  middle of the search the last part is false; it comes about because the searches below a schema have returned.
* `follow_ok_of_readable`: the search succeeds when every schema that the pending keys lead to can be read.
-/

namespace ApiCatalog

theorem SchemaCache.keys_subset_of_suffix {cache grown : SchemaCache} (h : cache.records <:+ grown.records) :
    cache.keys ⊆ grown.keys := by
  intro url hurl
  obtain ⟨record, hmem, rfl⟩ := mem_keys.1 hurl
  exact key_mem_keys (h.subset hmem)

namespace Session
variable {library : Library}

/-! ## One visit -/

/-- The visit of a fresh key that succeeded: one request, and one record in front of the others. -/
structure Visits (library : Library) (key : SchemaKey) (root : SchemaNode) (nested : List SchemaKey)
    (before after : Session) : Prop where
  fresh : key.url ∉ before.cache.keys
  schema : library.schema key = .ok (root, nested)
  records : after.cache.records = { sourceUrl := key.url, root } :: before.cache.records
  requests : after.requests = before.requests ++ [⟨.schema, key.location⟩]

theorem visit_error {key : SchemaKey} {session after : Session} {e : LoadError}
    (hfresh : key.url ∉ session.cache.keys) (h : session.visit library key = (.error e, after)) :
    library.schema key = .error e ∧ after = session.request .schema key.location := by
  unfold visit at h
  simp only at h
  split at h
  · next hschema =>
    cases h
    exact ⟨hschema, rfl⟩
  · next root nested hschema =>
    -- the key is fresh, so its record is accepted
    have hkey : ({ sourceUrl := key.url, root } : SchemaRecord).key ∉ session.cache.keys := by
      simpa [SchemaRecord.key] using hfresh
    obtain ⟨grown, hinsert, -⟩ := SchemaCache.insert_of_fresh hkey
    have hinsert' : (session.request .schema key.location).cache.insert { sourceUrl := key.url, root } = .ok grown :=
      hinsert
    rw [hinsert'] at h
    cases h

theorem visits_of_visit {key : SchemaKey} {session after : Session} {nested : List SchemaKey}
    (h : session.visit library key = (.ok nested, after)) :
    ∃ root, Visits library key root nested session after := by
  have hfresh := (keys_of_visit h).2.2
  unfold visit at h
  simp only at h
  split at h
  · cases h
  · next root _ hschema =>
    split at h
    · cases h
    · next hinsert =>
      cases h
      exact ⟨root, hfresh, hschema, SchemaCache.records_of_insert hinsert, rfl⟩

theorem visit_of_schema_error {key : SchemaKey} {session : Session} {e : LoadError}
    (h : library.schema key = .error e) :
    session.visit library key = (.error e, session.request .schema key.location) := by
  simp only [visit, h]

theorem exists_visit {key : SchemaKey} {session : Session} {root : SchemaNode} {nested : List SchemaKey}
    (hfresh : key.url ∉ session.cache.keys) (hschema : library.schema key = .ok (root, nested)) :
    ∃ after, session.visit library key = (.ok nested, after) ∧ Visits library key root nested session after := by
  have hkey : ({ sourceUrl := key.url, root } : SchemaRecord).key ∉ session.cache.keys := by
    simpa [SchemaRecord.key] using hfresh
  obtain ⟨cache, hinsert, hrecords⟩ := SchemaCache.insert_of_fresh hkey
  have hinsert' : (session.request .schema key.location).cache.insert { sourceUrl := key.url, root } = .ok cache :=
    hinsert
  refine ⟨{ session.request .schema key.location with cache }, ?_, hfresh, hschema, hrecords, rfl⟩
  simp only [visit, hschema, hinsert']

theorem Visits.visit_eq {key : SchemaKey} {root : SchemaNode} {nested : List SchemaKey} {before after : Session}
    (h : Visits library key root nested before after) : before.visit library key = (.ok nested, after) := by
  obtain ⟨other, hvisit, hother⟩ := exists_visit h.fresh h.schema
  have hcache : other.cache = after.cache := by
    have hrecords : other.cache.records = after.cache.records := hother.records.trans h.records.symm
    revert hrecords
    cases other.cache
    cases after.cache
    rintro rfl
    rfl
  have hrequests : other.requests = after.requests := hother.requests.trans h.requests.symm
  have hsame : other = after := by
    cases other
    cases after
    cases hcache
    cases hrequests
    rfl
  rw [hvisit, hsame]

/-- Searches by their steps, with the search below each visit known to be the one that was run. -/
theorem follow_induct_runs (library : Library)
    {motive : List SchemaKey → Session → Except LoadError Unit × Session → Prop}
    (nil : ∀ session, motive [] session (.ok (), session))
    (cached : ∀ key rest session outcome, key.url ∈ session.cache.keys → motive rest session outcome →
      motive (key :: rest) session outcome)
    (fails : ∀ key rest session e, key.url ∉ session.cache.keys → library.schema key = .error e →
      motive (key :: rest) session (.error e, session.request .schema key.location))
    (deepFails : ∀ key rest session root nested after e deep, Visits library key root nested session after →
      (after.follow library nested).1 = (.error e, deep) → motive nested after (.error e, deep) →
      motive (key :: rest) session (.error e, deep))
    (visited : ∀ key rest session root nested after deep outcome, Visits library key root nested session after →
      (after.follow library nested).1 = (.ok (), deep) → motive nested after (.ok (), deep) →
      motive rest deep outcome → motive (key :: rest) session outcome)
    (pending : List SchemaKey) (session : Session) : motive pending session (session.follow library pending).1 := by
  have fresh {session : Session} {key : SchemaKey} (h : ¬session.cache.contains key.url = true) :
      key.url ∉ session.cache.keys := by
    rwa [SchemaCache.contains_iff, SchemaKey.canonicalUrl_url] at h
  refine follow.induct_unfolding library (fun pending session outcome => motive pending session outcome.1)
    nil ?_ ?_ ?_ ?_ pending session
  · intro session key rest hcached ih
    rw [SchemaCache.contains_iff, SchemaKey.canonicalUrl_url] at hcached
    exact cached key rest session _ hcached ih
  · intro session key rest hfresh e after hvisit
    obtain ⟨hschema, rfl⟩ := visit_error (fresh hfresh) hvisit
    exact fails key rest session e (fresh hfresh) hschema
  · intro session key rest hfresh nested after hvisit _ e deep _ hfollow ih
    obtain ⟨root, hvisits⟩ := visits_of_visit hvisit
    rw [hfollow] at ih
    exact deepFails key rest session root nested after e deep hvisits (congrArg Subtype.val hfollow) ih
  · intro session key rest hfresh nested after hvisit _ deep _ hfollow _ _ ih ih'
    obtain ⟨root, hvisits⟩ := visits_of_visit hvisit
    rw [hfollow] at ih
    exact visited key rest session root nested after deep _ hvisits (congrArg Subtype.val hfollow) ih ih'

/-- Searches by their steps: what holds of a search without pending keys and is kept by passing over a cached
key, by a visit that fails, and by a visit with the searches behind it, holds of every search. -/
theorem follow_induct (library : Library)
    {motive : List SchemaKey → Session → Except LoadError Unit × Session → Prop}
    (nil : ∀ session, motive [] session (.ok (), session))
    (cached : ∀ key rest session outcome, key.url ∈ session.cache.keys → motive rest session outcome →
      motive (key :: rest) session outcome)
    (fails : ∀ key rest session e, key.url ∉ session.cache.keys → library.schema key = .error e →
      motive (key :: rest) session (.error e, session.request .schema key.location))
    (deepFails : ∀ key rest session root nested after e deep, Visits library key root nested session after →
      motive nested after (.error e, deep) → motive (key :: rest) session (.error e, deep))
    (visited : ∀ key rest session root nested after deep outcome, Visits library key root nested session after →
      motive nested after (.ok (), deep) → motive rest deep outcome → motive (key :: rest) session outcome)
    (pending : List SchemaKey) (session : Session) : motive pending session (session.follow library pending).1 :=
  follow_induct_runs library nil cached fails
    (fun key rest session root nested after e deep hvisits _ =>
      deepFails key rest session root nested after e deep hvisits)
    (fun key rest session root nested after deep outcome hvisits _ =>
      visited key rest session root nested after deep outcome hvisits)
    pending session

/-! ## The steps of a search -/

theorem not_contains_url {session : Session} {key : SchemaKey} (h : key.url ∉ session.cache.keys) :
    ¬session.cache.contains key.url = true := by
  rwa [SchemaCache.contains_iff, SchemaKey.canonicalUrl_url]

theorem follow_nil (session : Session) : (session.follow library []).1 = (.ok (), session) := by
  rw [follow]

theorem follow_cached {key : SchemaKey} {rest : List SchemaKey} {session : Session}
    (hcached : key.url ∈ session.cache.keys) :
    (session.follow library (key :: rest)).1 = (session.follow library rest).1 := by
  have hcontains : session.cache.contains key.url = true := by
    rwa [SchemaCache.contains_iff, SchemaKey.canonicalUrl_url]
  rw [follow, if_pos hcontains]

theorem follow_fails {key : SchemaKey} {rest : List SchemaKey} {session : Session} {e : LoadError}
    (hfresh : key.url ∉ session.cache.keys) (hschema : library.schema key = .error e) :
    (session.follow library (key :: rest)).1 = (.error e, session.request .schema key.location) := by
  have hvisit : session.visit library key = (.error e, session.request .schema key.location) :=
    visit_of_schema_error hschema
  rw [follow, if_neg (not_contains_url hfresh)]
  split
  · next heq =>
    rw [hvisit] at heq
    cases heq
    rfl
  · next heq =>
    rw [hvisit] at heq
    cases heq

theorem follow_visit {key : SchemaKey} {rest nested : List SchemaKey} {root : SchemaNode} {session after : Session}
    (hvisits : Visits library key root nested session after) :
    (session.follow library (key :: rest)).1 =
      match (after.follow library nested).1 with
      | (.error e, deep) => (.error e, deep)
      | (.ok (), deep) => (deep.follow library rest).1 := by
  rw [follow, if_neg (not_contains_url hvisits.fresh)]
  split
  · next heq =>
    rw [hvisits.visit_eq] at heq
    cases heq
  · next heq =>
    rw [hvisits.visit_eq] at heq
    cases heq
    split
    · next hfollow => rw [hfollow]
    · next hfollow => rw [hfollow]

theorem follow_deepFails {key : SchemaKey} {rest nested : List SchemaKey} {root : SchemaNode}
    {session after deep : Session} {e : LoadError} (hvisits : Visits library key root nested session after)
    (hbelow : (after.follow library nested).1 = (.error e, deep)) :
    (session.follow library (key :: rest)).1 = (.error e, deep) := by
  rw [follow_visit hvisits, hbelow]

theorem follow_visited {key : SchemaKey} {rest nested : List SchemaKey} {root : SchemaNode}
    {session after deep : Session} (hvisits : Visits library key root nested session after)
    (hbelow : (after.follow library nested).1 = (.ok (), deep)) :
    (session.follow library (key :: rest)).1 = (deep.follow library rest).1 := by
  rw [follow_visit hvisits, hbelow]

/-! ## What a search finds -/

def pendingUrls (pending : List SchemaKey) (url : String) : Prop := ∃ key ∈ pending, url = key.url

theorem pendingUrls_tail {key : SchemaKey} {rest : List SchemaKey} {url : String} (h : pendingUrls rest url) :
    pendingUrls (key :: rest) url := by
  obtain ⟨other, hother, rfl⟩ := h
  exact ⟨other, List.mem_cons_of_mem _ hother, rfl⟩

theorem reachable_head (key : SchemaKey) (rest : List SchemaKey) :
    library.Reachable (pendingUrls (key :: rest)) key.url :=
  .root ⟨key, List.mem_cons_self, rfl⟩

theorem Visits.reachable {key : SchemaKey} {nested : List SchemaKey} {root : SchemaNode} {before after : Session}
    (h : Visits library key root nested before after) (rest : List SchemaKey) {url : String}
    (hurl : pendingUrls nested url) : library.Reachable (pendingUrls (key :: rest)) url := by
  obtain ⟨next, hnext, rfl⟩ := hurl
  exact (reachable_head key rest).step ((Library.leadsTo_iff h.schema).2 ⟨next, hnext, rfl⟩)

/-- A record that some roots lead to, as it was fetched, with everything that it leads to in the cache. -/
def Settled (library : Library) (roots : String → Prop) (cache : SchemaCache) (record : SchemaRecord) : Prop :=
  ∃ key nested, record = { sourceUrl := key.url, root := record.root } ∧
    library.schema key = .ok (record.root, nested) ∧ library.Reachable roots key.url ∧
    ∀ next ∈ nested, next.url ∈ cache.keys

/-- What a search from `before` to `after` has done when it succeeds. -/
structure Explored (library : Library) (pending : List SchemaKey) (before after : Session) : Prop where
  kept : before.cache.records <:+ after.cache.records
  reached : ∀ key ∈ pending, key.url ∈ after.cache.keys
  added : ∀ record ∈ after.cache.records, record ∈ before.cache.records ∨
    Settled library (pendingUrls pending) after.cache record

theorem Settled.mono {roots roots' : String → Prop} {cache grown : SchemaCache} {record : SchemaRecord}
    (hroots : ∀ root, roots root → library.Reachable roots' root) (hkeys : cache.keys ⊆ grown.keys)
    (h : Settled library roots cache record) : Settled library roots' grown record := by
  obtain ⟨key, nested, hrecord, hschema, hreachable, hnested⟩ := h
  refine ⟨key, nested, hrecord, hschema, ?_, fun next hnext => hkeys (hnested next hnext)⟩
  exact hreachable.closed hroots fun url next hurl hnext => hurl.step hnext

theorem Explored.keys_subset {pending : List SchemaKey} {before after : Session}
    (h : Explored library pending before after) : before.cache.keys ⊆ after.cache.keys :=
  SchemaCache.keys_subset_of_suffix h.kept

theorem Visits.explored {key : SchemaKey} {rest nested : List SchemaKey} {root : SchemaNode}
    {session after deep final : Session} (hvisits : Visits library key root nested session after)
    (hdeep : Explored library nested after deep) (hrest : Explored library rest deep final) :
    Explored library (key :: rest) session final := by
  have hkey : key.url ∈ after.cache.keys := by
    rw [SchemaCache.mem_keys, hvisits.records]
    exact ⟨_, List.mem_cons_self, SchemaKey.canonicalUrl_url key⟩
  refine ⟨?_, ?_, fun record hrecord => ?_⟩
  · have hstep : session.cache.records <:+ after.cache.records := by
      rw [hvisits.records]
      exact List.suffix_cons _ _
    exact hstep.trans (hdeep.kept.trans hrest.kept)
  · intro other hother
    rcases List.mem_cons.1 hother with rfl | hother
    · exact hrest.keys_subset (hdeep.keys_subset hkey)
    · exact hrest.reached other hother
  · rcases hrest.added record hrecord with hrecord | hsettled
    · rcases hdeep.added record hrecord with hrecord | hsettled
      · rw [hvisits.records] at hrecord
        rcases List.mem_cons.1 hrecord with rfl | hrecord
        · -- the visited schema: the search below it has cached all that it leads to
          exact .inr ⟨key, nested, rfl, hvisits.schema, reachable_head key rest, fun next hnext =>
            hrest.keys_subset (hdeep.reached next hnext)⟩
        · exact .inl hrecord
      · exact .inr (hsettled.mono (fun _ => hvisits.reachable rest) hrest.keys_subset)
    · exact .inr (hsettled.mono (fun _ h => .root (pendingUrls_tail h)) (List.Subset.refl _))

/-- **A search that succeeds** has explored its pending keys. -/
theorem explored_of_follow {pending : List SchemaKey} {session final : Session}
    (h : (session.follow library pending).1 = (.ok (), final)) : Explored library pending session final := by
  refine follow_induct library
    (motive := fun pending session outcome =>
      ∀ final, outcome = (.ok (), final) → Explored library pending session final)
    ?_ ?_ ?_ ?_ ?_ pending session final h
  · rintro session _ ⟨⟩
    exact ⟨List.suffix_rfl, by simp, fun record hrecord => .inl hrecord⟩
  · intro key rest session outcome hcached ih final hfinal
    have hrest := ih final hfinal
    refine ⟨hrest.kept, fun other hother => ?_, fun record hrecord => ?_⟩
    · rcases List.mem_cons.1 hother with rfl | hother
      · exact hrest.keys_subset hcached
      · exact hrest.reached other hother
    · exact (hrest.added record hrecord).imp_right fun hsettled =>
        hsettled.mono (fun _ h => .root (pendingUrls_tail h)) (List.Subset.refl _)
  · intro key rest session e _ _ final hfinal
    cases hfinal
  · intro key rest session root nested after e deep _ _ final hfinal
    cases hfinal
  · intro key rest session root nested after deep outcome hvisits ih ih' final hfinal
    exact hvisits.explored (ih deep rfl) (ih' final hfinal)

theorem follow_ok_of_readable {pending : List SchemaKey} {session : Session}
    (h : ∀ url, library.Reachable (pendingUrls pending) url → library.Readable url) :
    ∃ final, (session.follow library pending).1 = (.ok (), final) := by
  refine follow_induct library
    (motive := fun pending session outcome =>
      (∀ url, library.Reachable (pendingUrls pending) url → library.Readable url) →
        ∃ final, outcome = (.ok (), final))
    ?_ ?_ ?_ ?_ ?_ pending session h
  · intro session _
    exact ⟨session, rfl⟩
  · intro key rest session outcome _ ih hreadable
    exact ih fun url hurl => hreadable url (hurl.mono fun _ => pendingUrls_tail)
  · intro key rest session e _ hschema hreadable
    obtain ⟨found, hfound⟩ := Library.schema_ok_iff.2 (hreadable key.url (reachable_head key rest))
    rw [hschema] at hfound
    cases hfound
  · intro key rest session root nested after e deep hvisits ih hreadable
    have hbelow : ∀ url, library.Reachable (pendingUrls nested) url → library.Readable url := fun url hurl =>
      hreadable url (hurl.closed (fun _ => hvisits.reachable rest) fun _ _ => .step)
    obtain ⟨final, hfinal⟩ := ih hbelow
    cases hfinal
  · intro key rest session root nested after deep outcome _ _ ih hreadable
    exact ih fun url hurl => hreadable url (hurl.mono fun _ => pendingUrls_tail)

end Session

end ApiCatalog
