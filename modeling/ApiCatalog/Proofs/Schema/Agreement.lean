import ApiCatalog.Naming.Types
import ApiCatalog.Proofs.Schema.Records
import ApiCatalog.Schema.Patch

/-!
# Caches that agree

Two caches agree when they hold the same records, found in whatever order. Lookups do not see the order of the
records, and neither do the sorted URLs; patches and names go by these two alone, so they do the same to caches
that agree.
-/

namespace ApiCatalog.SchemaCache

/-- The caches hold the same records. -/
def Agrees (a b : SchemaCache) : Prop := a.records.Perm b.records

variable {a b : SchemaCache}

theorem Agrees.symm (h : a.Agrees b) : b.Agrees a := List.Perm.symm h

theorem Agrees.get? (h : a.Agrees b) (url : String) : a.get? url = b.get? url := by
  refine Option.ext fun record => ?_
  rw [get?_eq_some, get?_eq_some, List.Perm.mem_iff h]

theorem Agrees.sortedUrls (h : a.Agrees b) : a.sortedUrls = b.sortedUrls := by
  have hkeys : a.keys.Perm b.keys := List.Perm.map SchemaRecord.key h
  have hsorted : a.sortedUrls.Perm b.sortedUrls :=
    a.sortedUrls_perm.trans (hkeys.trans b.sortedUrls_perm.symm)
  exact eq_of_ascending hsorted a.sortedUrls_ascending b.sortedUrls_ascending

theorem Agrees.modify (h : a.Agrees b) (url : String) (f : SchemaRecord → SchemaRecord) :
    (a.modify url f).Agrees (b.modify url f) := List.Perm.map _ h

theorem agrees_of_mem_iff (h : ∀ record, record ∈ a.records ↔ record ∈ b.records) : a.Agrees b :=
  (List.perm_ext_iff_of_nodup (.of_map _ a.distinct) (.of_map _ b.distinct)).2 h

/-! ## Patches -/

theorem Agrees.applyPatch? (h : a.Agrees b) (patch : SchemaPatch) :
    (∃ e, a.applyPatch? patch = .error e ∧ b.applyPatch? patch = .error e) ∨
      (a.applyPatch? patch = .ok none ∧ b.applyPatch? patch = .ok none) ∨
      ∃ patched patched', a.applyPatch? patch = .ok (some patched) ∧ b.applyPatch? patch = .ok (some patched') ∧
        patched.Agrees patched' := by
  unfold SchemaCache.applyPatch?
  rw [← h.get?]
  cases a.get? patch.url with
  | none => exact .inr (.inl ⟨rfl, rfl⟩)
  | some record =>
    simp only
    cases patch.applyTo record.root with
    | error fault => exact .inl ⟨_, rfl, rfl⟩
    | ok root => exact .inr (.inr ⟨_, _, rfl, rfl, h.modify _ _⟩)

theorem Agrees.applyPatches (h : a.Agrees b) (patches : List SchemaPatch) :
    (a.applyPatches patches).1 = (b.applyPatches patches).1 ∧
      (a.applyPatches patches).2.Agrees (b.applyPatches patches).2 := by
  induction patches generalizing a b with
  | nil => exact ⟨rfl, h⟩
  | cons patch rest ih =>
    unfold SchemaCache.applyPatches
    rcases h.applyPatch? patch with ⟨e, hfirst, hsecond⟩ | ⟨hfirst, hsecond⟩ |
      ⟨patched, patched', hfirst, hsecond, hpatched⟩
    · rw [hfirst, hsecond]
      exact ⟨rfl, h⟩
    · rw [hfirst, hsecond]
      exact ih h
    · rw [hfirst, hsecond]
      obtain ⟨hcount, hfinal⟩ := ih hpatched
      exact ⟨congrArg (Except.map (· + 1)) hcount, hfinal⟩

/-! ## Names -/

theorem Agrees.nameEach_ok (h : a.Agrees b) {scope : Naming.NameScope} {urls : List String} {named : SchemaCache}
    (hnamed : a.nameEach scope urls = .ok named) :
    ∃ named', b.nameEach scope urls = .ok named' ∧ named.Agrees named' := by
  induction urls generalizing a b scope with
  | nil =>
    cases hnamed
    exact ⟨b, rfl, h⟩
  | cons url rest ih =>
    unfold nameEach at hnamed ⊢
    rw [← h.get?]
    cases hfound : a.get? url with
    | none =>
      rw [hfound] at hnamed
      exact ih h hnamed
    | some record =>
      rw [hfound] at hnamed
      cases hclaim : scope.claimFor record.namingHint with
      | error e =>
        simp only [hclaim] at hnamed
        cases hnamed
      | ok claimed =>
        simp only [hclaim] at hnamed ⊢
        exact ih (h.modify _ _) hnamed

theorem Agrees.assignTypeNames_ok (h : a.Agrees b) {named : SchemaCache} (hnamed : a.assignTypeNames = .ok named) :
    ∃ named', b.assignTypeNames = .ok named' ∧ named.Agrees named' := by
  unfold assignTypeNames at hnamed ⊢
  rw [← h.sortedUrls]
  exact h.nameEach_ok hnamed

end ApiCatalog.SchemaCache
