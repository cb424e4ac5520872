import ApiCatalog.Proofs.Linking
import ApiCatalog.Proofs.Schema.Following

/-!
# Searches as tours

Whatever the shape of the graph, all that a search does to a session is to visit fresh schemas, one after the other. So
a search that succeeds is a tour, and one that fails is a tour with one more request behind it, for a schema that is
not in the cache and cannot be read (`tour_of_follow`). How deep the search is when it fails makes no difference.

What a search requests and what it caches is then read off the keys of its tour, in their order
(`Tour.requests`, `Tour.keys`, `Tour.fetched`). The keys are fresh and different from each other (`Tour.nodup`).
-/

namespace ApiCatalog

namespace Session

/-- The schemas of some keys are visited, one after the other. -/
inductive Tour (library : Library) : List SchemaKey → Session → Session → Prop
  | here (session : Session) : Tour library [] session session
  | visit {key : SchemaKey} {keys nested : List SchemaKey} {root : SchemaNode} {before between after : Session}
      (first : Visits library key root nested before between) (rest : Tour library keys between after) :
      Tour library (key :: keys) before after

def schemaRequest (key : SchemaKey) : Request := ⟨.schema, key.location⟩

namespace Tour
variable {library : Library} {keys more : List SchemaKey} {before between after : Session}

theorem append (h : Tour library keys before between) (hmore : Tour library more between after) :
    Tour library (keys ++ more) before after := by
  induction h with
  | here => exact hmore
  | visit first _ ih => exact .visit first (ih hmore)

theorem requests (h : Tour library keys before after) :
    after.requests = before.requests ++ keys.map schemaRequest := by
  induction h with
  | here session => rw [List.map_nil, List.append_nil]
  | visit first _ ih =>
    rw [ih, first.requests, List.append_assoc]
    rfl

theorem kept (h : Tour library keys before after) : before.cache.records <:+ after.cache.records := by
  induction h with
  | here => exact List.suffix_rfl
  | visit first _ ih =>
    refine List.IsSuffix.trans ?_ ih
    rw [first.records]
    exact List.suffix_cons _ _

theorem keys_eq (h : Tour library keys before after) :
    after.cache.keys = (keys.map SchemaKey.url).reverse ++ before.cache.keys := by
  induction h with
  | here => rfl
  | visit first _ ih =>
    rw [ih, SchemaCache.keys, first.records]
    simp [SchemaRecord.key, SchemaCache.keys]

theorem fetched (h : Tour library keys before after) (record : SchemaRecord) (hrecord : record ∈ after.cache.records) :
    record ∈ before.cache.records ∨ ∃ key nested, record = { sourceUrl := key.url, root := record.root } ∧
      library.schema key = .ok (record.root, nested) := by
  induction h with
  | here => exact .inl hrecord
  | visit first _ ih =>
    rcases ih hrecord with hbetween | hadded
    · rw [first.records] at hbetween
      rcases List.mem_cons.1 hbetween with rfl | hold
      · exact .inr ⟨_, _, rfl, first.schema⟩
      · exact .inl hold
    · exact .inr hadded

theorem stored (h : Tour library keys before after) : ∀ key ∈ keys, key.location ∈ library.locations := by
  induction h with
  | here => simp
  | visit first _ ih => exact List.forall_mem_cons.2 ⟨Library.mem_locations_of_schema first.schema, ih⟩

theorem mem_keys_iff (h : Tour library keys before after) {url : String} :
    url ∈ after.cache.keys ↔ (∃ key ∈ keys, key.url = url) ∨ url ∈ before.cache.keys := by
  simp [h.keys_eq]

theorem nodup (h : Tour library keys before after) : keys.Nodup := by
  have hcache := after.cache.nodup_keys
  rw [h.keys_eq] at hcache
  exact .of_map SchemaKey.url (List.nodup_reverse.1 (List.nodup_append.1 hcache).1)

theorem fresh (h : Tour library keys before after) : ∀ key ∈ keys, key.url ∉ before.cache.keys := by
  intro key hkey hcached
  have hcache := after.cache.nodup_keys
  rw [h.keys_eq] at hcache
  have hadded : key.url ∈ (keys.map SchemaKey.url).reverse := List.mem_reverse.2 (List.mem_map_of_mem hkey)
  exact (List.nodup_append.1 hcache).2.2 _ hadded _ hcached rfl

end Tour

/-! ## Searches -/

/-- How a search ends that starts with a session: it was a tour, and when it fails, a schema that is not in the cache
was asked for behind the tour and cannot be read. -/
def Toured (library : Library) (session : Session) : Except LoadError Unit × Session → Prop
  | (.ok (), final) => ∃ keys, Tour library keys session final
  | (.error e, final) => ∃ keys last bad, Tour library keys session last ∧ bad.url ∉ last.cache.keys ∧
      library.schema bad = .error e ∧ final = last.request .schema bad.location

theorem Toured.after {library : Library} {keys : List SchemaKey} {session between : Session}
    {outcome : Except LoadError Unit × Session} (htour : Tour library keys session between)
    (h : Toured library between outcome) : Toured library session outcome := by
  rcases outcome with ⟨e | _, final⟩
  · obtain ⟨more, last, bad, hmore, hbad⟩ := h
    exact ⟨keys ++ more, last, bad, htour.append hmore, hbad⟩
  · obtain ⟨more, hmore⟩ := h
    exact ⟨keys ++ more, htour.append hmore⟩

/-- **A search is a tour**, and may fail behind it. -/
theorem tour_of_follow (library : Library) (pending : List SchemaKey) (session : Session) :
    Toured library session (session.follow library pending).1 := by
  refine follow_induct library (motive := fun _ => Toured library) ?_ ?_ ?_ ?_ ?_ pending session
  · intro session
    exact ⟨[], .here session⟩
  · intro key rest session outcome _ ih
    exact ih
  · intro key rest session e hfresh hschema
    exact ⟨[], session, key, .here session, hfresh, hschema, rfl⟩
  · intro key rest session root nested after e deep hvisits ih
    exact .after (.visit hvisits (.here after)) ih
  · intro key rest session root nested after deep outcome hvisits ih ih'
    obtain ⟨keys, hbelow⟩ := ih
    exact .after (.visit hvisits hbelow) ih'

end Session

end ApiCatalog
