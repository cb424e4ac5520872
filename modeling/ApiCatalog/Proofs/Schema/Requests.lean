import ApiCatalog.Proofs.Performing
import ApiCatalog.Proofs.Schema.Following

/-!
# Requests for schemas

A session is `Recorded` when the schemas asked for are the cached ones, in the order in which they were cached.
Searches keep it: check and insertion are one visit, with nothing between them. A search that fails has asked
for one more document, whose key was fresh; so also then no document was asked for twice, and the failure is
never that a schema was registered twice (`once_of_follow`).
-/

namespace ApiCatalog

namespace Session

/-- The locations of the documents that were asked for as schemas, in order. -/
def schemaLocations (session : Session) : List String :=
  (session.requests.filter (·.purpose = .schema)).map (·.location)

def otherRequests (session : Session) : List Request := session.requests.filter (¬·.purpose = .schema)

/-- Every request for a schema was answered and its schema cached; `others` are the requests for other things. -/
structure Recorded (others : List Request) (session : Session) : Prop where
  schemas : session.schemaLocations.map (·.push fragmentMarker) = session.cache.keys.reverse
  others : session.otherRequests = others

def AskedOnce (session : Session) : Prop := session.schemaLocations.Nodup

theorem requests_length (session : Session) :
    session.requests.length = session.otherRequests.length + session.schemaLocations.length := by
  rw [List.length_eq_length_filter_add (·.purpose = .schema), schemaLocations, List.length_map, Nat.add_comm]
  simp [otherRequests]

theorem schemaLocations_request (session : Session) (purpose : Purpose) (location : String) :
    (session.request purpose location).schemaLocations =
      session.schemaLocations ++ if purpose = .schema then [location] else [] := by
  unfold schemaLocations request
  cases purpose <;> simp

variable {others : List Request}

theorem Recorded.askedOnce {session : Session} (h : session.Recorded others) : session.AskedOnce := by
  refine List.Nodup.of_map (·.push fragmentMarker) ?_
  rw [h.schemas]
  exact List.nodup_reverse.2 session.cache.nodup_keys

theorem Recorded.askedOnce_request {session : Session} {key : SchemaKey} (h : session.Recorded others)
    (hfresh : key.url ∉ session.cache.keys) : (session.request .schema key.location).AskedOnce := by
  refine List.Nodup.of_map (·.push fragmentMarker) ?_
  rw [schemaLocations_request, if_pos rfl, List.map_append, h.schemas]
  refine List.Nodup.append (List.nodup_reverse.2 session.cache.nodup_keys) (List.nodup_singleton _) ?_
  intro url hurl hkey
  rw [List.map_singleton, List.mem_singleton] at hkey
  subst hkey
  exact hfresh (List.mem_reverse.1 hurl)

theorem Recorded.visits {library : Library} {key : SchemaKey} {root : SchemaNode} {nested : List SchemaKey}
    {before after : Session} (h : before.Recorded others) (hvisits : Visits library key root nested before after) :
    after.Recorded others := by
  have hkeys : after.cache.keys = key.url :: before.cache.keys := by
    rw [SchemaCache.keys, hvisits.records, List.map_cons, SchemaRecord.key, SchemaKey.canonicalUrl_url]
    rfl
  have hlocations : after.schemaLocations = before.schemaLocations ++ [key.location] := by
    simp [schemaLocations, hvisits.requests]
  constructor
  · rw [hlocations, List.map_append, h.schemas, hkeys, List.reverse_cons]
    rfl
  · rw [← h.others]
    simp [otherRequests, hvisits.requests]

theorem Recorded.requests_length {session : Session} (h : session.Recorded others) :
    session.requests.length = others.length + session.cache.size := by
  have hlength := congrArg List.length h.schemas
  rw [List.length_map, List.length_reverse, SchemaCache.keys, List.length_map] at hlength
  rw [Session.requests_length, h.others, hlength]
  rfl

end Session

/-! ## Errors -/

/-- The error has a form of its own. A second registration of a schema has none. -/
def LoadError.Specific : LoadError → Prop
  | .general _ => False
  | _ => True

theorem LoadError.Specific.ne_general {e : LoadError} (h : e.Specific) (text : String) : e ≠ .general text := by
  rintro rfl
  exact h

theorem SchemaNode.decode_error {url body : String} {e : LoadError} (h : decode url body = .error e) :
    e.Specific := by
  unfold decode at h
  split at h
  · cases h
  · cases h
    trivial

theorem Library.answer_error {library : Library} {location : String} {e : LoadError}
    (h : library.answer location = .error e) : e.Specific := by
  unfold answer at h
  split at h
  · cases h
  · cases h
    trivial

theorem Library.schema_error {library : Library} {key : SchemaKey} {e : LoadError}
    (h : library.schema key = .error e) : e.Specific := by
  unfold schema at h
  split at h
  · next hanswer =>
    cases h
    exact answer_error hanswer
  · split at h
    · next hdecode =>
      cases h
      exact SchemaNode.decode_error hdecode
    · split at h
      · cases h
        trivial
      · cases h

/-! ## Searches -/

namespace Session

/-- What a load that fails may leave behind. -/
def FailsOnce (e : LoadError) (session : Session) : Prop := e.Specific ∧ session.AskedOnce

/-- **A search asks once**, and what it asked for is what it cached, unless it fails. -/
theorem once_of_follow {library : Library} {pending : List SchemaKey} {others : List Request} {session : Session}
    (h : session.Recorded others) :
    (∀ final, (session.follow library pending).1 = (.ok (), final) → final.Recorded others) ∧
      ∀ e final, (session.follow library pending).1 = (.error e, final) → FailsOnce e final := by
  refine follow_induct library
    (motive := fun _ session outcome => session.Recorded others →
      (∀ final, outcome = (.ok (), final) → final.Recorded others) ∧
        ∀ e final, outcome = (.error e, final) → FailsOnce e final)
    ?_ ?_ ?_ ?_ ?_ pending session h
  · intro session hrecorded
    refine ⟨?_, ?_⟩
    · rintro _ ⟨⟩
      exact hrecorded
    · rintro e _ ⟨⟩
  · intro key rest session outcome _ ih
    exact ih
  · intro key rest session e hfresh hschema hrecorded
    refine ⟨?_, ?_⟩
    · rintro _ ⟨⟩
    · rintro _ _ ⟨⟩
      exact ⟨Library.schema_error hschema, hrecorded.askedOnce_request hfresh⟩
  · intro key rest session root nested after e deep hvisits ih hrecorded
    refine ⟨?_, (ih (hrecorded.visits hvisits)).2⟩
    rintro _ ⟨⟩
  · intro key rest session root nested after deep outcome hvisits ih ih' hrecorded
    exact ih' ((ih (hrecorded.visits hvisits)).1 deep rfl)

end Session

end ApiCatalog
