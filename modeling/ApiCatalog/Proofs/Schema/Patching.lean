import ApiCatalog.Proofs.Schema.Corrections

/-!
# What patches change

A patch that is applied revises its schema. So whether a patch fits can be seen on the schema as it was fetched,
whatever patches were applied before it (`Revises.admits_iff`), and a list of patches is applied exactly when each
one fits its schema (`applyPatches_ok`). Then the patches are applied in turn (`applyPatches_of_admits`); otherwise those
before the first that does not fit are (`applyPatches_split`). What a patch does is the correction that it spells, and
no more (`applyPatches_exact`).
-/

namespace ApiCatalog

namespace SchemaCache
open SchemaNode (Correction)

/-! ## When patches are applied -/

/-- The patch fits the record that it is meant for, if there is one. -/
def Admits (cache : SchemaCache) (patch : SchemaPatch) : Prop :=
  ∀ record ∈ cache.records, record.key = canonicalUrl patch.url → patch.Fits record.root

theorem Revises.admits_iff {old new : SchemaCache} {patch : SchemaPatch} (h : old.Revises new) :
    new.Admits patch ↔ old.Admits patch := by
  constructor
  · intro hnew record hrecord hkey
    obtain ⟨record', hrecord', hrevises⟩ := exists_of_forall₂ (List.Forall₂.flip h) record hrecord
    have hkey' : record'.key = canonicalUrl patch.url := by
      rw [SchemaRecord.key, hrevises.sourceUrl]
      exact hkey
    exact (SchemaPatch.Fits.congr hrevises.root.paths).2 (hnew record' hrecord' hkey')
  · intro hold record hrecord hkey
    obtain ⟨record', hrecord', hrevises⟩ := exists_of_forall₂ h record hrecord
    have hkey' : record'.key = canonicalUrl patch.url := by
      rw [SchemaRecord.key, ← hrevises.sourceUrl]
      exact hkey
    exact (SchemaPatch.Fits.congr hrevises.root.paths).1 (hold record' hrecord' hkey')

variable {cache : SchemaCache} {patch : SchemaPatch}

theorem admits_of_none (h : cache.applyPatch? patch = .ok none) : cache.Admits patch := by
  unfold applyPatch? at h
  split at h
  · next habsent =>
    intro record hrecord hkey
    exact absurd (hkey ▸ key_mem_keys hrecord) (get?_eq_none.1 habsent)
  · split at h <;> cases h

theorem admits_of_some {patched : SchemaCache} (h : cache.applyPatch? patch = .ok (some patched)) :
    cache.Admits patch ∧ cache.Revises patched := by
  unfold applyPatch? at h
  split at h
  · cases h
  · next record hfound =>
    obtain ⟨hrecord, hkey⟩ := get?_eq_some.1 hfound
    split at h
    · next root hroot =>
      cases h
      refine ⟨fun other hother hkey' => ?_, forall₂_modify .refl fun other hother hkey' => ?_⟩
      · rw [eq_of_key_eq hother hrecord (hkey'.trans hkey.symm)]
        exact SchemaPatch.applyTo_ok.1 ⟨root, hroot⟩
      · rw [eq_of_key_eq hother hrecord (hkey'.trans hkey.symm)]
        exact ⟨rfl, SchemaPatch.applyTo_edits hroot⟩
    · cases h

theorem not_admits_of_error {e : LoadError} (h : cache.applyPatch? patch = .error e) :
    ¬cache.Admits patch ∧ ∃ fault : PatchFault, e = .patch (canonicalUrl patch.url) fault.message := by
  unfold applyPatch? at h
  split at h
  · cases h
  · next record hfound =>
    obtain ⟨hrecord, hkey⟩ := get?_eq_some.1 hfound
    split at h
    · cases h
    · next fault hfault =>
      cases h
      refine ⟨fun hadmits => ?_, fault, rfl⟩
      obtain ⟨root, hroot⟩ := SchemaPatch.applyTo_ok.2 (hadmits record hrecord hkey)
      rw [hfault] at hroot
      cases hroot

theorem revises_applyPatches (cache : SchemaCache) (patches : List SchemaPatch) :
    cache.Revises (cache.applyPatches patches).2 := by
  induction patches generalizing cache with
  | nil => exact .refl cache
  | cons patch rest ih =>
    unfold applyPatches
    split
    · exact .refl cache
    · exact ih cache
    · next patched happlied => exact (admits_of_some happlied).2.trans (ih patched)

/-- **Patches are applied** exactly when each one fits the schema that it is meant for, as this was at first. -/
theorem applyPatches_ok {patches : List SchemaPatch} :
    (∃ count, (cache.applyPatches patches).1 = .ok count) ↔ ∀ patch ∈ patches, cache.Admits patch := by
  induction patches generalizing cache with
  | nil => simp [applyPatches]
  | cons patch rest ih =>
    rw [List.forall_mem_cons]
    unfold applyPatches
    split
    · next e herror => simp [(not_admits_of_error herror).1]
    · next hnone => rw [ih, and_iff_right (admits_of_none hnone)]
    · next patched hsome =>
      obtain ⟨hadmits, hrevises⟩ := admits_of_some hsome
      have hrest : (∀ other ∈ rest, cache.Admits other) ↔ ∀ other ∈ rest, patched.Admits other :=
        forall₂_congr fun other _ => hrevises.admits_iff.symm
      rw [and_iff_right hadmits, hrest, ← ih]
      rcases patched.applyPatches rest with ⟨e | count, final⟩
      · simp [Except.map]
      · simp [Except.map]

theorem applyPatches_error {patches : List SchemaPatch} {e : LoadError}
    (h : (cache.applyPatches patches).1 = .error e) : ∃ url message, e = .patch url message := by
  induction patches generalizing cache with
  | nil => cases h
  | cons patch rest ih =>
    unfold applyPatches at h
    split at h
    · next herror =>
      cases h
      obtain ⟨-, fault, rfl⟩ := not_admits_of_error herror
      exact ⟨_, _, rfl⟩
    · exact ih h
    · next patched _ =>
      have hrest : (patched.applyPatches rest).1 = .error e := by
        rcases hrun : patched.applyPatches rest with ⟨e' | count, final⟩
        · simpa [hrun, Except.map] using h
        · simp [hrun, Except.map] at h
      exact ih hrest

/-! ## What an applied patch does -/

variable {final : SchemaCache} {patches : List SchemaPatch} {record : SchemaRecord}

/-- The cache with one patch applied, where it fits. -/
def patched (cache : SchemaCache) (patch : SchemaPatch) : SchemaCache :=
  cache.modify patch.url fun record => { record with root := patch.patchedRoot record.root }

theorem patched_of_not_contains (h : cache.contains patch.url = false) : cache.patched patch = cache := by
  refine modify_eq_self fun record hrecord hkey => ?_
  have hcontains : cache.contains patch.url = true := contains_iff.2 (hkey ▸ key_mem_keys hrecord)
  rw [h] at hcontains
  cases hcontains

theorem revises_patched (cache : SchemaCache) (patch : SchemaPatch) : cache.Revises (cache.patched patch) :=
  forall₂_modify .refl fun _ _ _ => ⟨rfl, patch.edits_patchedRoot _⟩

theorem applyPatch?_of_admits (h : cache.Admits patch) :
    cache.applyPatch? patch = .ok (if cache.contains patch.url then some (cache.patched patch) else none) := by
  unfold applyPatch? contains
  cases hfound : cache.get? patch.url with
  | none => rfl
  | some record =>
    obtain ⟨hrecord, hkey⟩ := get?_eq_some.1 hfound
    obtain ⟨root, hroot⟩ := SchemaPatch.applyTo_ok.2 (h record hrecord hkey)
    have hpatched : (cache.modify patch.url fun record => { record with root }) = cache.patched patch := by
      refine modify_congr rfl fun other hother hkey' => ?_
      rw [eq_of_key_eq hother hrecord (hkey'.trans hkey.symm)]
      show ({ record with root } : SchemaRecord) = { record with root := patch.patchedRoot record.root }
      rw [SchemaPatch.patchedRoot_of_ok hroot]
    simp [hroot, hpatched]

/-- **Admitted patches are all applied**, but for those whose schemas are not cached, and these change nothing. -/
theorem applyPatches_of_admits (h : ∀ patch ∈ patches, cache.Admits patch) :
    cache.applyPatches patches = (.ok (patches.countP (cache.contains ·.url)), patches.foldl patched cache) := by
  induction patches generalizing cache with
  | nil => rfl
  | cons patch rest ih =>
    obtain ⟨hpatch, hrest⟩ := List.forall_mem_cons.1 h
    rw [applyPatches, applyPatch?_of_admits hpatch, List.foldl_cons, List.countP_cons]
    cases hcontains : cache.contains patch.url with
    | false =>
      rw [patched_of_not_contains hcontains]
      exact ih hrest
    | true =>
      have hafter : ∀ other ∈ rest, (cache.patched patch).Admits other := fun other hother =>
        (revises_patched cache patch).admits_iff.2 (hrest other hother)
      simp [ih hafter, (revises_patched cache patch).contains_eq, Except.map]

theorem foldl_patched_of_ok {count : Nat} (h : cache.applyPatches patches = (.ok count, final)) :
    count = patches.countP (cache.contains ·.url) ∧ final = patches.foldl patched cache := by
  have hadmits := applyPatches_ok.1 ⟨count, congrArg Prod.fst h⟩
  obtain ⟨hcount, hfinal⟩ := Prod.mk.inj (h.symm.trans (applyPatches_of_admits hadmits))
  exact ⟨Except.ok.inj hcount, hfinal⟩

/-- **A list of patches that fails** has applied the patches before the one that fails. -/
theorem applyPatches_split {e : LoadError} (h : cache.applyPatches patches = (.error e, final)) :
    ∃ before patch after, patches = before ++ patch :: after ∧
      (∃ count, cache.applyPatches before = (.ok count, final)) ∧ final.applyPatches [patch] = (.error e, final) := by
  induction patches generalizing cache with
  | nil => cases h
  | cons patch rest ih =>
    unfold applyPatches at h
    split at h
    · next herror =>
      cases h
      exact ⟨[], patch, rest, rfl, ⟨0, rfl⟩, by simp [applyPatches, herror]⟩
    · next hskipped =>
      obtain ⟨before, failing, after, rfl, ⟨count, hbefore⟩, hfailing⟩ := ih h
      exact ⟨patch :: before, failing, after, rfl, ⟨count, by simp [applyPatches, hskipped, hbefore]⟩, hfailing⟩
    · next patched happlied =>
      rcases hrun : patched.applyPatches rest with ⟨e' | n, last⟩
      · rw [hrun] at h
        cases h
        obtain ⟨before, failing, after, rfl, ⟨count, hbefore⟩, hfailing⟩ := ih hrun
        exact ⟨patch :: before, failing, after, rfl,
          ⟨count + 1, by simp [applyPatches, happlied, hbefore, Except.map]⟩, hfailing⟩
      · rw [hrun] at h
        cases h

theorem applyPatches_singleton_ok (hfound : cache.get? patch.url = some record) :
    (∃ count, (cache.applyPatches [patch]).1 = .ok count) ↔
      ∃ correction, patch.Spells correction ∧ (record.root.at? correction.steps).isSome := by
  obtain ⟨hrecord, hkey⟩ := get?_eq_some.1 hfound
  rw [applyPatches_ok, List.forall_mem_singleton, ← SchemaPatch.fits_iff]
  constructor
  · intro hadmits
    exact hadmits record hrecord hkey
  · intro hfits other hother hkey'
    rwa [eq_of_key_eq hother hrecord (hkey'.trans hkey.symm)]

theorem records_of_applyPatches_singleton (hfound : cache.get? patch.url = some record) {correction : Correction}
    (hspells : patch.Spells correction) {count : Nat} (h : cache.applyPatches [patch] = (.ok count, final)) :
    final.records = cache.records.map fun other =>
      if other.key = record.key then { other with root := correction.correct other.root } else other := by
  obtain ⟨hrecord, hkey⟩ := get?_eq_some.1 hfound
  obtain ⟨another, hanother, hsteps⟩ := (applyPatches_singleton_ok hfound).1 ⟨count, congrArg Prod.fst h⟩
  -- the path spells one position only, so the position of this correction is there as well
  have hsame := (SchemaNode.Correction.segments_eq_iff.1 (hspells.segments_eq.symm.trans hanother.segments_eq)).1
  rw [← hsame] at hsteps
  obtain ⟨-, rfl⟩ := foldl_patched_of_ok h
  show (cache.patched patch).records = _
  rw [patched, records_modify]
  refine List.map_congr_left fun other hother => ?_
  rw [hkey]
  by_cases hkey' : other.key = canonicalUrl patch.url
  · rw [if_pos (by simpa using hkey'), if_pos hkey', eq_of_key_eq hother hrecord (hkey'.trans hkey.symm)]
    show ({ record with root := patch.patchedRoot record.root } : SchemaRecord) = _
    rw [SchemaPatch.patchedRoot_of_spells hspells hsteps]
  · rw [if_neg (by simpa using hkey'), if_neg hkey']

/-- **What patches do to a cache.** A patch for a cached schema is applied exactly when it spells a correction at a
position that is there, and then sets the field of the entry in the node at this position and touches nothing else. A
list counts the patches whose schemas are cached; one that fails leaves the cache as the patches before the failing one
have made it. -/
theorem applyPatches_exact (cache : SchemaCache) :
    (∀ patch record, cache.get? patch.url = some record →
      ((∃ count, (cache.applyPatches [patch]).1 = .ok count) ↔
        ∃ correction, patch.Spells correction ∧ (record.root.at? correction.steps).isSome) ∧
      ∀ correction count final, patch.Spells correction → cache.applyPatches [patch] = (.ok count, final) →
        (final.records = cache.records.map fun other =>
          if other.key = record.key then { other with root := correction.correct other.root } else other) ∧
        ∀ position, ((correction.correct record.root).at? position).map SchemaNode.own =
          if position = correction.steps then
            ((record.root.at? position).map correction.entry.set).map SchemaNode.own
          else (record.root.at? position).map SchemaNode.own) ∧
    (∀ patches count final, cache.applyPatches patches = (.ok count, final) →
      count = patches.countP (cache.contains ·.url)) ∧
    ∀ patches e final, cache.applyPatches patches = (.error e, final) →
      ∃ before patch after, patches = before ++ patch :: after ∧
        (∃ count, cache.applyPatches before = (.ok count, final)) ∧ final.applyPatches [patch] = (.error e, final) := by
  refine ⟨fun patch record hfound => ⟨applyPatches_singleton_ok hfound, ?_⟩, ?_, ?_⟩
  · intro correction count final hspells hrun
    exact ⟨records_of_applyPatches_singleton hfound hspells hrun, fun position =>
      SchemaNode.own_at?_updateAt correction.entry.shallow correction.steps position record.root⟩
  · intro patches count final hrun
    exact (foldl_patched_of_ok hrun).1
  · intro patches e final hrun
    exact applyPatches_split hrun

/-- A schema with a list under a property that is itself called `items`. -/
def listRecord : SchemaRecord where
  sourceUrl := "http://s/a.json#"
  root := { properties := some [("items", { items := some { title := some "Item" } })] }

def listCache : SchemaCache where
  records := [listRecord]
  distinct := List.nodup_singleton _

/-- A patch for the type of the list items. -/
def listPatch : SchemaPatch where
  url := "http://s/a.json"
  path := "//properties/items/items/type"
  value := .ofTexts ["string", "null"]

/-- A name that reads like a step is taken as a name, and a slash too many at the start does no harm. -/
theorem listPatch_exact :
    ∃ final, listCache.applyPatches [listPatch] = (.ok 1, final) ∧
      final.records = [{ listRecord with
        root := { properties := some [("items",
          { items := some { title := some "Item", type := some (.choice ["string", "null"]) } })] } }] := by
  have hfound : listCache.get? listPatch.url = some listRecord :=
    get?_eq_some.2 ⟨List.mem_singleton_self _, by decide⟩
  have hspells : listPatch.Spells ⟨[.property "items", .items], .type (.choice ["string", "null"])⟩ := ⟨by decide, rfl⟩
  obtain ⟨hsingle, hcount, -⟩ := applyPatches_exact listCache
  obtain ⟨happlied, heffect⟩ := hsingle listPatch listRecord hfound
  obtain ⟨count, hok⟩ := happlied.2 ⟨_, hspells, rfl⟩
  rcases hrun : listCache.applyPatches [listPatch] with ⟨result, final⟩
  rw [hrun] at hok
  obtain rfl : result = .ok count := hok
  have hone : count = 1 := by
    rw [hcount _ _ _ hrun]
    simp [contains, hfound]
  refine ⟨final, by rw [hone], ?_⟩
  rw [(heffect _ _ _ hspells hrun).1]
  rfl

end SchemaCache

end ApiCatalog
