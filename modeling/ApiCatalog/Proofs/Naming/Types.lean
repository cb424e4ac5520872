import ApiCatalog.Naming.Types
import ApiCatalog.Proofs.Naming.Scope
import ApiCatalog.Proofs.Schema.Revisions

/-!
# Naming the schemas of a cache

Naming fails only for want of names, and a cache of fewer than 2^32 schemas never wants for one. The schemas are
the same under their names.
-/

namespace ApiCatalog.SchemaCache
open Naming (NameScope)
variable {cache named : SchemaCache} {scope : NameScope} {urls : List String}

theorem revises_nameEach (h : cache.nameEach scope urls = .ok named) : cache.Revises named := by
  induction urls generalizing cache scope with
  | nil =>
    cases h
    exact .refl _
  | cons url rest ih =>
    unfold nameEach at h
    split at h
    · exact ih h
    · split at h
      · cases h
      · refine Revises.trans ?_ (ih h)
        exact forall₂_modify .refl fun record _ _ => ⟨rfl, .refl record.root⟩

theorem nameEach_ok_of_room (h : scope.Room urls.length) : ∃ named, cache.nameEach scope urls = .ok named := by
  induction urls generalizing cache scope with
  | nil => exact ⟨cache, rfl⟩
  | cons url rest ih =>
    unfold nameEach
    split
    · refine ih ?_
      unfold NameScope.Room at h ⊢
      rw [List.length_cons] at h
      omega
    · next record _ =>
      obtain ⟨name, hclaim, hroom⟩ := h.claimFor record.namingHint
      rw [hclaim]
      exact ih hroom

theorem nameEach_error {e : LoadError} (h : cache.nameEach scope urls = .error e) :
    ∃ candidate, e = .namingExhausted candidate := by
  induction urls generalizing cache scope with
  | nil => cases h
  | cons url rest ih =>
    unfold nameEach at h
    split at h
    · exact ih h
    · split at h
      · next hclaim =>
        cases h
        exact ⟨_, NameScope.claimFor_error hclaim⟩
      · exact ih h

theorem assignTypeNames_ok_of_size (h : cache.size < 2 ^ 32) : ∃ named, cache.assignTypeNames = .ok named := by
  refine nameEach_ok_of_room (NameScope.room_empty ?_)
  rwa [sortedUrls, List.length_mergeSort, keys, List.length_map]

end ApiCatalog.SchemaCache
