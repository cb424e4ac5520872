import ApiCatalog.Proofs.Loading.Reordering

/-!
# Loads fail for reasons only

Every way in which the load of a manifest can fail is a defect that can be pointed out in the texts: in the
manifest, in a document, in a schema that the documents lead to, or in a patch for one of these. No such defect is
passed over, and nothing else makes a load fail (`loadManifest_succeeds_iff`).
-/

namespace ApiCatalog.Library
variable {library : Library} {patches : List SchemaPatch} {location body : String}

def Loads (library : Library) (patches : List SchemaPatch) (location body : String) : Prop :=
  ∃ loaded after, Load.perform (library.loadManifest patches location body) {} = (.ok loaded, after)

theorem loads_iff : library.Loads patches location body ↔ ∃ definitions,
    decodeManifest location body = .ok definitions ∧
      ∃ loaded t, Load.perform (library.loadDefinitions patches definitions) {} = (.ok loaded, t) := by
  unfold Loads loadManifest
  simp only [Load.bind_ok, Load.lift_ok]
  constructor
  · rintro ⟨loaded, t, definitions, _, ⟨hdecode, rfl⟩, hrun⟩
    exact ⟨definitions, hdecode, loaded, t, hrun⟩
  · rintro ⟨definitions, hdecode, loaded, t, hrun⟩
    exact ⟨loaded, t, definitions, {}, ⟨hdecode, rfl⟩, hrun⟩

theorem loads_iff_loadable
    (hsmall : ∀ definitions, decodeManifest location body = .ok definitions → library.Small definitions) :
    library.Loads patches location body ↔ ∃ definitions,
      decodeManifest location body = .ok definitions ∧ library.Loadable patches definitions := by
  rw [loads_iff]
  refine exists_congr fun definitions => and_congr_right fun hdecode => ?_
  exact succeeds_iff_loadable (hsmall definitions hdecode)

theorem loads_reorder {other : Library} {location' body' : String}
    (hsmall : ∀ definitions, decodeManifest location body = .ok definitions → library.Small definitions)
    (hlibraries : library.Reorders other)
    (hmanifests : ReadAlike List.Perm (decodeManifest location body) (decodeManifest location' body'))
    (h : library.Loads patches location body) : other.Loads patches location' body' := by
  obtain ⟨definitions, hdecode, hloadable⟩ := (loads_iff_loadable hsmall).1 h
  obtain ⟨definitions', hdecode', hperm⟩ := hmanifests.exists_ok hdecode
  have hsmall' := (hsmall definitions hdecode).reorder hlibraries hperm
  exact loads_iff.2 ⟨definitions', hdecode', ok_of_loadable (hloadable.reorder hlibraries hperm) hsmall'⟩

/-- **A manifest loads** exactly when it can be read and its definitions are loadable. So the order does not
matter: neither that of the definitions in the manifest, nor that of the entries of documents, nor that of the
properties of schemas. -/
theorem loadManifest_succeeds_iff (library : Library) (patches : List SchemaPatch) (location body : String)
    (hsmall : ∀ definitions, decodeManifest location body = .ok definitions → library.Small definitions) :
    (library.Loads patches location body ↔ ∃ definitions,
      decodeManifest location body = .ok definitions ∧ library.Loadable patches definitions) ∧
    ∀ (other : Library) (location' body' : String), library.Reorders other →
      ReadAlike List.Perm (decodeManifest location body) (decodeManifest location' body') →
      (library.Loads patches location body ↔ other.Loads patches location' body') := by
  refine ⟨loads_iff_loadable hsmall, fun other location' body' hlibraries hmanifests => ?_⟩
  have hsmall' : ∀ definitions, decodeManifest location' body' = .ok definitions → other.Small definitions := by
    intro definitions hdecode
    obtain ⟨original, horiginal, hperm⟩ := (hmanifests.symm List.Perm.symm).exists_ok hdecode
    exact (hsmall original horiginal).reorder hlibraries hperm.symm
  exact ⟨loads_reorder hsmall hlibraries hmanifests,
    loads_reorder hsmall' hlibraries.symm (hmanifests.symm List.Perm.symm)⟩

/-- The manifest of the definition whose schemas form a cycle. -/
def cyclicManifest : String :=
  "[\x7b\"url\":\"http://r/a.json\",\"schema\":\"" ++ DocumentKind.apiSchema ++ "\",\"name\":\"A\"\x7d]"

theorem decodeManifest_cyclic : decodeManifest "m.json" cyclicManifest = .ok [cyclicDefinition] := by
  decide +kernel

theorem loadManifest_succeeds_cyclic : cyclic.Loads SchemaPatch.builtin "m.json" cyclicManifest := by
  have hsmall : ∀ definitions, decodeManifest "m.json" cyclicManifest = .ok definitions →
      cyclic.Small definitions := by
    intro definitions hdecode
    rw [decodeManifest_cyclic] at hdecode
    cases hdecode
    exact cyclic_small
  exact (loadManifest_succeeds_iff cyclic SchemaPatch.builtin "m.json" cyclicManifest hsmall).1.2
    ⟨_, decodeManifest_cyclic, cyclic_loadable⟩

end ApiCatalog.Library
