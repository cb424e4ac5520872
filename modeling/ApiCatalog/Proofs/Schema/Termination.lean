import ApiCatalog.Proofs.Schema.Tours
import ApiCatalog.Proofs.Schema.Worklist
import Mathlib.Data.Finset.Card

/-!
# Resolving ends

A call that resolves a URL calls itself for every reference of the schema, and on a cycle of schemas neither the URL
nor the schema gets any smaller on the way. `Library.resolveWithin` is this call, written down with URLs and with a
bound on how deep the calls nest; where they would nest deeper it has no result.

What gets smaller is the set of the stored locations whose schemas are not cached (`Library.uncached`): a schema is
cached before the calls for its references, and no two keys share a location. So the calls nest no deeper than this
set is large, with one more for a schema that is cached or cannot be read (`resolveWithin_eq`), and a call makes no
more requests than that, each for another location (`resolve_ends`).
-/

namespace ApiCatalog

theorem SchemaKey.location_injective : Function.Injective SchemaKey.location := by
  rintro ⟨location, unmarked⟩ ⟨_, _⟩ rfl
  rfl

namespace Library

/-! ## Nested calls -/

/-- Resolves URLs in turn, up to the first that fails. Where one of them has no result, there is none. -/
def resolveEach (resolve : String → Session → Option (Except LoadError (Option String) × Session)) :
    List String → Session → Option (Except LoadError Unit × Session)
  | [], session => some (.ok (), session)
  | url :: rest, session =>
    match resolve url session with
    | none => none
    | some (.error e, failed) => some (.error e, failed)
    | some (.ok _, done) => resolveEach resolve rest done

/-- Resolves a URL: a schema that is not cached is requested, read and cached, and then the same is done for each of its
references. There is no result when this nests deeper than `depth`. -/
def resolveWithin (library : Library) :
    Nat → String → Session → Option (Except LoadError (Option String) × Session)
  | 0, _, _ => none
  | depth + 1, url, session =>
    if Text.isBlank url then some (.ok none, session)
    else if hasPointerFragment url then
      some (.error (.decode url "JSON pointer fragments are not supported"), session)
    else if session.cache.contains (canonicalUrl url) then some (.ok (some (canonicalUrl url)), session)
    else
      let asked := session.request .schema (documentLocation (canonicalUrl url))
      match library.rewritten (canonicalUrl url) with
      | .error e => some (.error e, asked)
      | .ok (root, nested) =>
        match asked.cache.insert { sourceUrl := canonicalUrl url, root } with
        | .error e => some (.error e, asked)
        | .ok cache =>
          (resolveEach (library.resolveWithin depth) nested { asked with cache }).map fun (result, final) =>
            (result.map fun _ => some (canonicalUrl url), final)

/-! ## What gets smaller -/

/-- The stored locations whose schemas are not cached. -/
def uncached (library : Library) (cache : SchemaCache) : Finset String :=
  library.locations.toFinset.filter fun location => canonicalUrl location ∉ cache.keys

variable {library : Library}

theorem mem_uncached {cache : SchemaCache} {location : String} :
    location ∈ library.uncached cache ↔ location ∈ library.locations ∧ canonicalUrl location ∉ cache.keys := by
  rw [uncached, Finset.mem_filter, List.mem_toFinset]

theorem uncached_subset {cache grown : SchemaCache} (h : cache.keys ⊆ grown.keys) :
    library.uncached grown ⊆ library.uncached cache := by
  intro location hlocation
  rw [mem_uncached] at hlocation ⊢
  exact hlocation.imp_right fun hfresh hcached => hfresh (h hcached)

theorem length_le_card_uncached {keys : List SchemaKey} {before after : Session}
    (h : Session.Tour library keys before after) : keys.length ≤ (library.uncached before.cache).card := by
  have hlocations : (keys.map SchemaKey.location).toFinset ⊆ library.uncached before.cache := by
    intro location hlocation
    obtain ⟨key, hkey, rfl⟩ := List.mem_map.1 (List.mem_toFinset.1 hlocation)
    rw [mem_uncached, SchemaKey.canonicalUrl_location]
    exact ⟨h.stored key hkey, h.fresh key hkey⟩
  have hcard := Finset.card_le_card hlocations
  rwa [List.toFinset_card_of_nodup (h.nodup.map SchemaKey.location_injective), List.length_map] at hcard

theorem card_uncached_lt {key : SchemaKey} {root : SchemaNode} {nested : List SchemaKey} {before after : Session}
    (h : Session.Visits library key root nested before after) :
    (library.uncached after.cache).card < (library.uncached before.cache).card := by
  have htour : Session.Tour library [key] before after := .visit h (.here after)
  refine Finset.card_lt_card ((Finset.ssubset_iff_of_subset ?_).2 ⟨key.location, ?_, ?_⟩)
  · exact uncached_subset (SchemaCache.keys_subset_of_suffix htour.kept)
  · rw [mem_uncached, SchemaKey.canonicalUrl_location]
    exact ⟨mem_locations_of_schema h.schema, h.fresh⟩
  · rw [mem_uncached, SchemaKey.canonicalUrl_location]
    exact fun hmissing => hmissing.2 (htour.mem_keys_iff.2 (.inl ⟨key, List.mem_singleton_self key, rfl⟩))

/-! ## The calls for keys -/

variable {depth : Nat} {key : SchemaKey} {session : Session}

theorem resolveWithin_cached (hcached : key.url ∈ session.cache.keys) :
    library.resolveWithin (depth + 1) key.url session = some (.ok (some key.url), session) := by
  have hcontains : session.cache.contains key.url = true := by
    rwa [SchemaCache.contains_iff, SchemaKey.canonicalUrl_url]
  simp [resolveWithin, SchemaKey.isBlank_url, hcontains]

theorem resolveWithin_fails {e : LoadError} (hfresh : key.url ∉ session.cache.keys)
    (hschema : library.schema key = .error e) :
    library.resolveWithin (depth + 1) key.url session = some (.error e, session.request .schema key.location) := by
  simp [resolveWithin, SchemaKey.isBlank_url, Session.not_contains_url hfresh, rewritten_url, hschema, Except.map]

theorem resolveWithin_visits {root : SchemaNode} {nested : List SchemaKey} {after : Session}
    (hvisits : Session.Visits library key root nested session after) :
    library.resolveWithin (depth + 1) key.url session =
      (resolveEach (library.resolveWithin depth) (nested.map SchemaKey.url) after).map fun (result, final) =>
        (result.map fun _ => some key.url, final) := by
  have hvisit := hvisits.visit_eq
  unfold Session.visit at hvisit
  simp only [hvisits.schema] at hvisit
  cases hinsert : (session.request .schema key.location).cache.insert { sourceUrl := key.url, root } with
  | error e =>
    rw [hinsert] at hvisit
    cases hvisit
  | ok cache =>
    rw [hinsert] at hvisit
    cases hvisit
    simp [resolveWithin, SchemaKey.isBlank_url, Session.not_contains_url hvisits.fresh, rewritten_url, hvisits.schema, Except.map,
      hinsert]

/-- **The calls for some keys** are the search for them, when they may nest deeper than there are stored schemas to be
cached. -/
theorem resolveEach_eq_follow (library : Library) (pending : List SchemaKey) (session : Session) (depth : Nat)
    (h : (library.uncached session.cache).card < depth) :
    resolveEach (library.resolveWithin depth) (pending.map SchemaKey.url) session =
      some (session.follow library pending).1 := by
  refine Session.follow_induct_runs library
    (motive := fun pending session outcome => ∀ depth, (library.uncached session.cache).card < depth →
      resolveEach (library.resolveWithin depth) (pending.map SchemaKey.url) session = some outcome)
    ?_ ?_ ?_ ?_ ?_ pending session depth h
  · intro session depth _
    rfl
  · intro key rest session outcome hcached ih depth hdepth
    obtain ⟨depth, rfl⟩ := Nat.exists_eq_add_one_of_ne_zero (Nat.ne_zero_of_lt hdepth)
    rw [List.map_cons, resolveEach, resolveWithin_cached hcached]
    exact ih _ hdepth
  · intro key rest session e hfresh hschema depth hdepth
    obtain ⟨depth, rfl⟩ := Nat.exists_eq_add_one_of_ne_zero (Nat.ne_zero_of_lt hdepth)
    rw [List.map_cons, resolveEach, resolveWithin_fails hfresh hschema]
  · -- the visit leaves fewer schemas, so the calls below it may nest one level less
    intro key rest session root nested after e deep hvisits _ ih depth hdepth
    obtain ⟨depth, rfl⟩ := Nat.exists_eq_add_one_of_ne_zero (Nat.ne_zero_of_lt hdepth)
    have hbelow := ih depth (Nat.lt_of_lt_of_le (card_uncached_lt hvisits) (Nat.le_of_lt_succ hdepth))
    rw [List.map_cons, resolveEach, resolveWithin_visits hvisits, hbelow]
    rfl
  · intro key rest session root nested after deep outcome hvisits hdone ih ih' depth hdepth
    obtain ⟨depth, rfl⟩ := Nat.exists_eq_add_one_of_ne_zero (Nat.ne_zero_of_lt hdepth)
    have hafter := card_uncached_lt hvisits
    have hdeep : (library.uncached deep.cache).card ≤ (library.uncached after.cache).card :=
      Finset.card_le_card (uncached_subset (Session.explored_of_follow hdone).keys_subset)
    have hbelow := ih depth (by omega)
    rw [List.map_cons, resolveEach, resolveWithin_visits hvisits, hbelow]
    exact ih' (depth + 1) (by omega)

theorem resolveWithin_url (h : (library.uncached session.cache).card < depth + 1) :
    library.resolveWithin (depth + 1) key.url session =
      some ((session.follow library [key]).1.1.map fun _ => some key.url, (session.follow library [key]).1.2) := by
  by_cases hcached : key.url ∈ session.cache.keys
  · rw [resolveWithin_cached hcached, Session.follow_cached hcached, Session.follow_nil]
    rfl
  · rcases hschema : library.schema key with e | ⟨root, nested⟩
    · rw [resolveWithin_fails hcached hschema, Session.follow_fails hcached hschema]
      rfl
    · obtain ⟨after, -, hvisits⟩ := Session.exists_visit hcached hschema
      have hbelow := resolveEach_eq_follow library nested after depth
        (Nat.lt_of_lt_of_le (card_uncached_lt hvisits) (Nat.le_of_lt_succ h))
      rw [resolveWithin_visits hvisits, hbelow, Session.follow_visit hvisits]
      rcases (after.follow library nested).1 with ⟨e | _, deep⟩
      · rfl
      · simp only [Session.follow_nil]
        rfl

/-- **Calls that may nest deep enough** resolve a URL, whatever the schemas refer to. -/
theorem resolveWithin_eq (url : String) (h : (library.uncached session.cache).card < depth) :
    library.resolveWithin depth url session = some (Load.perform (library.resolve url) session) := by
  obtain ⟨depth, rfl⟩ := Nat.exists_eq_add_one_of_ne_zero (Nat.ne_zero_of_lt h)
  cases hblank : Text.isBlank url with
  | true => rw [resolve_blank hblank, resolveWithin, if_pos hblank]
  | false =>
    cases hpointed : hasPointerFragment url with
    | true =>
      rw [resolve_unkeyed hblank (SchemaKey.ofUrl?_of_pointed hpointed), resolveWithin, if_neg (by simp [hblank]),
        if_pos hpointed]
    | false =>
      obtain ⟨key, hkey, hurl⟩ := SchemaKey.exists_ofUrl? hpointed
      -- the call sees no more of a URL than its canonical form
      have hsame : library.resolveWithin (depth + 1) url session = library.resolveWithin (depth + 1) key.url session := by
        simp only [resolveWithin, hblank, hpointed, SchemaKey.isBlank_url, SchemaKey.hasPointerFragment_url,
          SchemaKey.canonicalUrl_url, ← hurl, Bool.false_eq_true, if_false]
      rw [hsame, resolveWithin_url h, resolve_search hblank hkey]

/-! ## One call -/

/-- A search asks for as many schemas as it caches, and for one more where it fails. -/
theorem requests_of_follow (library : Library) (pending : List SchemaKey) (session : Session) :
    ∃ keys : List SchemaKey,
      (session.follow library pending).1.2.requests = session.requests ++ keys.map Session.schemaRequest ∧
        keys.length ≤ (library.uncached session.cache).card + 1 ∧ keys.Nodup := by
  have htoured := Session.tour_of_follow library pending session
  generalize (session.follow library pending).1 = outcome at htoured ⊢
  rcases outcome with ⟨e | _, final⟩
  · obtain ⟨keys, last, bad, htour, hfresh, -, rfl⟩ := htoured
    refine ⟨keys ++ [bad], ?_, ?_, ?_⟩
    · rw [Session.request, htour.requests, List.map_append, List.append_assoc]
      rfl
    · rw [List.length_append, List.length_singleton]
      exact Nat.succ_le_succ (length_le_card_uncached htour)
    · -- the schemas of the tour are cached when it ends, the bad one is not
      have hbad : bad ∉ keys := fun hmem => hfresh (htour.mem_keys_iff.2 (.inl ⟨bad, hmem, rfl⟩))
      exact htour.nodup.append (List.nodup_singleton bad) (List.disjoint_singleton.2 hbad)
  · obtain ⟨keys, htour⟩ := htoured
    exact ⟨keys, htour.requests, Nat.le_succ_of_le (length_le_card_uncached htour), htour.nodup⟩

/-- **A call ends**, whatever the library, the cache and the URL, and however the schemas refer to each other. The
calls that it leads to nest at most one level deeper than there are stored locations whose schemas were not cached. It
makes at most that many requests, and no two for the same location. -/
theorem resolve_ends (library : Library) (url : String) (session : Session) :
    (∀ more, library.resolveWithin ((library.uncached session.cache).card + 1 + more) url session =
        some (Load.perform (library.resolve url) session)) ∧
      ∃ asked : List String,
        (Load.perform (library.resolve url) session).2.requests = session.requests ++ asked.map (⟨.schema, ·⟩) ∧
          asked.length ≤ (library.uncached session.cache).card + 1 ∧ asked.Nodup := by
  refine ⟨fun more => resolveWithin_eq url (by omega), ?_⟩
  cases hblank : Text.isBlank url with
  | true => exact ⟨[], by simp [resolve_blank hblank], by simp, .nil⟩
  | false =>
    cases hpointed : hasPointerFragment url with
    | true => exact ⟨[], by simp [resolve_unkeyed hblank (SchemaKey.ofUrl?_of_pointed hpointed)], by simp, .nil⟩
    | false =>
      obtain ⟨key, hkey, -⟩ := SchemaKey.exists_ofUrl? hpointed
      obtain ⟨keys, hrequests, hlength, hnodup⟩ := requests_of_follow library [key] session
      refine ⟨keys.map SchemaKey.location, ?_, by rwa [List.length_map], hnodup.map SchemaKey.location_injective⟩
      rw [resolve_search hblank hkey, List.map_map]
      exact hrequests

end Library

end ApiCatalog
