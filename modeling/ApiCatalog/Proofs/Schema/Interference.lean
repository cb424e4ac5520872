import ApiCatalog.Proofs.Schema.Patching

/-!
# Patches do not interfere

A patch is meant for a target: a schema, and a path in it. Patches with different targets set different fields, so they
commute (`patched_comm`); of two with one target the later stays (`patched_patched`). No patch changes which positions
there are, so none can make another one fit or fail. Hence a list of patches may be reordered when its targets differ,
and applied again without effect (`applyPatches_compose`).
-/

namespace ApiCatalog

/-! ## On a schema -/

namespace SchemaPatch
open SchemaNode (Correction)

/-- What a patch is meant for: the schema by its canonical URL, and the path without the slashes at its start. -/
def target (patch : SchemaPatch) : String × String :=
  (canonicalUrl patch.url, String.ofList (patch.path.toList.dropWhile (· = '/')))

variable {p q : SchemaPatch} {root : SchemaNode}

theorem path_eq_iff {c d : Correction} (hc : p.Spells c) (hd : q.Spells d) :
    p.target.2 = q.target.2 ↔ c.steps = d.steps ∧ c.entry.field = d.entry.field := by
  have hparts : p.target.2 = q.target.2 ↔ c.segments.map String.toList = d.segments.map String.toList := by
    rw [← hc.1, ← hd.1]
    constructor
    · intro h
      rw [String.ofList_injective h]
    · intro h
      have hjoined := congrArg ['/'].intercalate h
      rw [List.intercalate_splitOn, List.intercalate_splitOn] at hjoined
      exact congrArg String.ofList hjoined
  rw [hparts, ← SchemaNode.Correction.segments_eq_iff]
  exact List.map_inj_right fun _ _ => String.toList_inj.1

theorem fits_patchedRoot : q.Fits (p.patchedRoot root) ↔ q.Fits root :=
  (Fits.congr (p.edits_patchedRoot root).paths).symm

theorem patchedRoot_comm (h : p.target.2 ≠ q.target.2) (root : SchemaNode) :
    q.patchedRoot (p.patchedRoot root) = p.patchedRoot (q.patchedRoot root) := by
  by_cases hp : p.Fits root
  · by_cases hq : q.Fits root
    · obtain ⟨c, hc, hcsteps⟩ := fits_iff.1 hp
      obtain ⟨d, hd, hdsteps⟩ := fits_iff.1 hq
      have hcthere : ((d.correct root).at? c.steps).isSome := (d.isSome_at?_correct root c.steps).trans hcsteps
      have hdthere : ((c.correct root).at? d.steps).isSome := (c.isSome_at?_correct root d.steps).trans hdsteps
      have hfield (hsteps : d.steps = c.steps) : d.entry.field ≠ c.entry.field := fun hfield =>
        h ((path_eq_iff hc hd).2 ⟨hsteps.symm, hfield.symm⟩)
      rw [patchedRoot_of_spells hc hcsteps, patchedRoot_of_spells hd hdsteps, patchedRoot_of_spells hd hdthere,
        patchedRoot_of_spells hc hcthere]
      exact SchemaNode.updateAt_comm d.entry.shallow c.entry.shallow
        (fun hsteps => SchemaNode.Entry.set_comm (hfield hsteps)) root
    · rw [patchedRoot_of_not_fits hq, patchedRoot_of_not_fits (mt fits_patchedRoot.1 hq)]
  · rw [patchedRoot_of_not_fits hp, patchedRoot_of_not_fits (mt fits_patchedRoot.1 hp)]

theorem patchedRoot_patchedRoot (h : p.target.2 = q.target.2) (hq : q.Fits root) :
    q.patchedRoot (p.patchedRoot root) = q.patchedRoot root := by
  by_cases hp : p.Fits root
  · obtain ⟨c, hc, hcsteps⟩ := fits_iff.1 hp
    obtain ⟨d, hd, hdsteps⟩ := fits_iff.1 hq
    obtain ⟨hsteps, hfield⟩ := (path_eq_iff hc hd).1 h
    have hdthere : ((c.correct root).at? d.steps).isSome := (c.isSome_at?_correct root d.steps).trans hdsteps
    rw [patchedRoot_of_spells hc hcsteps, patchedRoot_of_spells hd hdsteps, patchedRoot_of_spells hd hdthere,
      Correction.correct, Correction.correct, Correction.correct, hsteps]
    exact SchemaNode.updateAt_updateAt (SchemaNode.Entry.set_set hfield.symm) d.steps root
  · rw [patchedRoot_of_not_fits hp]

end SchemaPatch

/-! ## On a cache -/

namespace SchemaCache
variable {cache : SchemaCache} {p q : SchemaPatch} {patches others : List SchemaPatch}

theorem patched_comm (h : p.target ≠ q.target) (cache : SchemaCache) :
    (cache.patched p).patched q = (cache.patched q).patched p := by
  by_cases hurl : canonicalUrl p.url = canonicalUrl q.url
  · have hpath : p.target.2 ≠ q.target.2 := fun hpath => h (Prod.ext hurl hpath)
    rw [patched, patched, patched, patched, modify_modify hurl.symm, modify_modify hurl]
    refine modify_congr hurl fun record _ _ => ?_
    show ({ record with root := q.patchedRoot (p.patchedRoot record.root) } : SchemaRecord) =
      { record with root := p.patchedRoot (q.patchedRoot record.root) }
    rw [SchemaPatch.patchedRoot_comm hpath]
  · exact modify_comm hurl

theorem patched_patched (h : p.target = q.target) (hq : cache.Admits q) :
    (cache.patched p).patched q = cache.patched q := by
  obtain ⟨hurl, hpath⟩ := Prod.mk.inj h
  rw [patched, patched, patched, modify_modify hurl.symm]
  refine modify_congr hurl fun record hrecord hkey => ?_
  show ({ record with root := q.patchedRoot (p.patchedRoot record.root) } : SchemaRecord) =
    { record with root := q.patchedRoot record.root }
  rw [SchemaPatch.patchedRoot_patchedRoot hpath (hq record hrecord (hkey.trans hurl))]

theorem foldl_patched_absorbs (hadmits : ∀ patch ∈ patches, cache.Admits patch)
    (h : p.target ∈ patches.map SchemaPatch.target) :
    patches.foldl patched (cache.patched p) = patches.foldl patched cache := by
  induction patches generalizing cache with
  | nil => cases h
  | cons patch rest ih =>
    obtain ⟨hpatch, hrest⟩ := List.forall_mem_cons.1 hadmits
    rw [List.foldl_cons, List.foldl_cons]
    by_cases htarget : p.target = patch.target
    · rw [patched_patched htarget hpatch]
    · rw [List.map_cons, List.mem_cons] at h
      rw [patched_comm htarget]
      exact ih (fun other hother => (revises_patched cache patch).admits_iff.2 (hrest other hother))
        (h.resolve_left htarget)

theorem foldl_patched_foldl (hadmits : ∀ patch ∈ patches, cache.Admits patch)
    (h : ∀ other ∈ others, other.target ∈ patches.map SchemaPatch.target) :
    patches.foldl patched (others.foldl patched cache) = patches.foldl patched cache := by
  induction others generalizing cache with
  | nil => rfl
  | cons other rest ih =>
    obtain ⟨hother, hrest⟩ := List.forall_mem_cons.1 h
    have hafter : ∀ patch ∈ patches, (cache.patched other).Admits patch := fun patch hpatch =>
      (revises_patched cache other).admits_iff.2 (hadmits patch hpatch)
    rw [List.foldl_cons, ih hafter hrest, foldl_patched_absorbs hadmits hother]

theorem foldl_patched_perm (hperm : patches.Perm others) (htargets : (patches.map SchemaPatch.target).Nodup)
    (cache : SchemaCache) : patches.foldl patched cache = others.foldl patched cache := by
  refine hperm.foldl_eq' (fun p hp q hq current => ?_) cache
  by_cases htarget : p.target = q.target
  · rw [List.inj_on_of_nodup_map htargets hp hq htarget]
  · exact patched_comm htarget current

/-- **Patches compose.** A list is applied exactly when each of its patches is, alone and to the cache as it was at
first. Once applied, it can be applied again and nothing changes. And when its targets differ, the order does not
matter. -/
theorem applyPatches_compose (cache : SchemaCache) (patches : List SchemaPatch) :
    ((∃ count, (cache.applyPatches patches).1 = .ok count) ↔
      ∀ patch ∈ patches, ∃ count, (cache.applyPatches [patch]).1 = .ok count) ∧
    ∀ count final, cache.applyPatches patches = (.ok count, final) →
      final.applyPatches patches = (.ok count, final) ∧
      ∀ others, patches.Perm others → (patches.map SchemaPatch.target).Nodup →
        cache.applyPatches others = (.ok count, final) := by
  refine ⟨?_, fun count final hrun => ?_⟩
  · rw [applyPatches_ok]
    refine forall₂_congr fun patch _ => ?_
    rw [applyPatches_ok, List.forall_mem_singleton]
  · have hadmits := applyPatches_ok.1 ⟨count, congrArg Prod.fst hrun⟩
    obtain ⟨rfl, hfinal⟩ := foldl_patched_of_ok hrun
    have hrevises : cache.Revises final := by
      have hrevises := revises_applyPatches cache patches
      rwa [hrun] at hrevises
    refine ⟨?_, fun others hperm htargets => ?_⟩
    · have hagain : ∀ patch ∈ patches, final.Admits patch := fun patch hpatch =>
        hrevises.admits_iff.2 (hadmits patch hpatch)
      have hsame : patches.foldl patched final = final := by
        rw [hfinal]
        exact foldl_patched_foldl hadmits fun other hother => List.mem_map_of_mem hother
      rw [applyPatches_of_admits hagain, hsame]
      simp only [hrevises.contains_eq]
    · have hadmits' : ∀ patch ∈ others, cache.Admits patch := fun patch hpatch =>
        hadmits patch (hperm.mem_iff.2 hpatch)
      rw [applyPatches_of_admits hadmits', hfinal, ← foldl_patched_perm hperm htargets, hperm.countP_eq]

/-- A patch for the title of the list items. -/
def titlePatch : SchemaPatch where
  url := "http://s/a.json#"
  path := "/properties/items/items/title"
  value := .text "Entry"

/-- Two fields of one node, in either order and once more. -/
theorem titlePatch_compose : ∃ final,
    listCache.applyPatches [listPatch, titlePatch] = (.ok 2, final) ∧
      final.applyPatches [listPatch, titlePatch] = (.ok 2, final) ∧
      listCache.applyPatches [titlePatch, listPatch] = (.ok 2, final) := by
  have hfound : listCache.get? listPatch.url = some listRecord :=
    get?_eq_some.2 ⟨List.mem_singleton_self _, by decide⟩
  have hfound' : listCache.get? titlePatch.url = some listRecord :=
    get?_eq_some.2 ⟨List.mem_singleton_self _, by decide⟩
  have htype : listPatch.Spells ⟨[.property "items", .items], .type (.choice ["string", "null"])⟩ := ⟨by decide, rfl⟩
  have htitle : titlePatch.Spells ⟨[.property "items", .items], .title "Entry"⟩ := ⟨by decide, rfl⟩
  obtain ⟨halone, hcompose⟩ := applyPatches_compose listCache [listPatch, titlePatch]
  have heach : ∀ patch ∈ [listPatch, titlePatch], ∃ count, (listCache.applyPatches [patch]).1 = .ok count := by
    simp only [List.forall_mem_cons, List.not_mem_nil, false_implies, implies_true, and_true]
    exact ⟨(applyPatches_singleton_ok hfound).2 ⟨_, htype, rfl⟩,
      (applyPatches_singleton_ok hfound').2 ⟨_, htitle, rfl⟩⟩
  obtain ⟨count, hok⟩ := halone.2 heach
  rcases hrun : listCache.applyPatches [listPatch, titlePatch] with ⟨result, final⟩
  rw [hrun] at hok
  obtain rfl : result = .ok count := hok
  obtain rfl : count = 2 := by
    rw [(foldl_patched_of_ok hrun).1]
    simp [contains, hfound, hfound']
  obtain ⟨hagain, hreordered⟩ := hcompose 2 final hrun
  exact ⟨final, rfl, hagain, hreordered _ (List.Perm.swap titlePatch listPatch []) (by decide)⟩

end SchemaCache

end ApiCatalog
