import ApiCatalog.Proofs.Linking
import ApiCatalog.Proofs.Naming.Types
import ApiCatalog.Proofs.Schema.Following
import ApiCatalog.Proofs.Schema.Patching

/-!
# Marks

A schema is marked when an operation is linked that sends or receives it, and at no other time. A mark is looked up
by URL (`SchemaCache.marked`), and a schema that is not cached has none. So when all marks of two caches are the
same, none was set and none was lost between them, even if one of them has more schemas.

* A search, whether it succeeds or fails, leaves the records that were there and adds `Bare` ones (`Grows`).
* `KeepsMarks` holds of the steps that mark nothing: resolving, linking an exchange reference, correcting, naming.
* `marked_resolveAll`: resolving the references of entries adds the marks of those that are not blank.
-/

namespace ApiCatalog

/-! ## Marks of records -/

/-- Whether a record is marked for a role. Messages leave no mark. -/
def Role.marks : Role → SchemaRecord → Bool
  | .input, record => record.isInput
  | .output, record => record.isOutput
  | .message, _ => false

theorem Role.marks_mark (role other : Role) (record : SchemaRecord) :
    other.marks (role.mark record) = true ↔ other.marks record = true ∨ other = role ∧ role ≠ .message := by
  cases role <;> cases other <;> simp [Role.marks, Role.mark]

@[simp] theorem Role.marks_changed (role : Role) (f : SchemaRecord → SchemaRecord) (record : SchemaRecord) :
    role.marks (SchemaCache.changed f record) = role.marks (f record) := by
  cases role <;> rfl

/-- Nothing is known of a schema but what was fetched. -/
def SchemaRecord.Bare (record : SchemaRecord) : Prop :=
  record = { sourceUrl := record.sourceUrl, root := record.root }

theorem SchemaRecord.Bare.not_marks {record : SchemaRecord} (h : record.Bare) (role : Role) :
    role.marks record = false := by
  rw [h]
  cases role <;> rfl

/-! ## Marks in a cache -/

namespace SchemaCache

def marked (cache : SchemaCache) (role : Role) (url : String) : Bool := (cache.get? url).any role.marks

theorem marked_iff {cache : SchemaCache} {role : Role} {url : String} :
    cache.marked role url = true ↔
      ∃ record ∈ cache.records, record.key = canonicalUrl url ∧ role.marks record = true := by
  simp only [marked, Option.any_eq_true, get?_eq_some, and_assoc]

/-- Every schema has the same marks in both caches. -/
def SameMarks (old new : SchemaCache) : Prop := ∀ role url, new.marked role url = old.marked role url

theorem SameMarks.refl (cache : SchemaCache) : cache.SameMarks cache := fun _ _ => rfl

theorem SameMarks.trans {a b c : SchemaCache} (hab : a.SameMarks b) (hbc : b.SameMarks c) : a.SameMarks c :=
  fun role url => (hbc role url).trans (hab role url)

theorem sameMarks_of_iff {old new : SchemaCache}
    (h : ∀ role url, new.marked role url = true ↔ old.marked role url = true) : old.SameMarks new :=
  fun role url => Bool.eq_iff_iff.2 (h role url)

theorem marked_modify {cache : SchemaCache} {url other : String} {f : SchemaRecord → SchemaRecord} {role : Role} :
    (cache.modify url f).marked role other = (cache.get? other).any fun record =>
      role.marks (if canonicalUrl other = canonicalUrl url then f record else record) := by
  rw [marked, get?_modify]
  split
  · simp only [Option.any_map, Role.marks_changed]
  · rfl

theorem sameMarks_modify {cache : SchemaCache} {url : String} {f : SchemaRecord → SchemaRecord}
    (hf : ∀ role record, Role.marks role (f record) = Role.marks role record) :
    cache.SameMarks (cache.modify url f) := by
  intro role other
  rw [marked_modify, marked]
  split
  · simp only [hf]
  · rfl

theorem marked_modify_mark {cache : SchemaCache} {url other : String} {role role' : Role} :
    (cache.modify url role.mark).marked role' other = true ↔ cache.marked role' other = true ∨
      canonicalUrl url ∈ cache.keys ∧ role ≠ .message ∧ role' = role ∧ canonicalUrl other = canonicalUrl url := by
  rw [marked_modify, marked]
  cases hfound : cache.get? other with
  | none =>
    have habsent := get?_eq_none.1 hfound
    simp only [Option.any_none, Bool.false_eq_true, false_or, false_iff]
    rintro ⟨hcached, -, -, hsame⟩
    exact habsent (hsame ▸ hcached)
  | some record =>
    obtain ⟨hrecord, hkey⟩ := get?_eq_some.1 hfound
    have hcached : canonicalUrl other ∈ cache.keys := hkey ▸ key_mem_keys hrecord
    simp only [Option.any_some]
    split
    · next hsame =>
      rw [Role.marks_mark, ← hsame, and_iff_right hcached, eq_self, and_true, and_comm]
    · next hother => simp [hother]

/-! ## Searches -/

/-- The records that were there, with bare ones in front of them. -/
structure Grows (old new : SchemaCache) : Prop where
  kept : old.records <:+ new.records
  added : ∀ record ∈ new.records, record ∈ old.records ∨ record.Bare

theorem Grows.refl (cache : SchemaCache) : cache.Grows cache := ⟨List.suffix_rfl, fun _ => .inl⟩

theorem Grows.trans {a b c : SchemaCache} (hab : a.Grows b) (hbc : b.Grows c) : a.Grows c where
  kept := hab.kept.trans hbc.kept
  added record hrecord := (hbc.added record hrecord).elim (hab.added record) .inr

theorem Grows.sameMarks {old new : SchemaCache} (h : old.Grows new) : old.SameMarks new := by
  refine sameMarks_of_iff fun role url => ?_
  rw [marked_iff, marked_iff]
  constructor
  · rintro ⟨record, hrecord, hkey, hmarks⟩
    rcases h.added record hrecord with hold | hbare
    · exact ⟨record, hold, hkey, hmarks⟩
    · rw [hbare.not_marks] at hmarks
      cases hmarks
  · rintro ⟨record, hrecord, hkey, hmarks⟩
    exact ⟨record, h.kept.subset hrecord, hkey, hmarks⟩

end SchemaCache

namespace Session
variable {library : Library}

theorem Visits.grows {key : SchemaKey} {root : SchemaNode} {nested : List SchemaKey} {before after : Session}
    (h : Visits library key root nested before after) : before.cache.Grows after.cache := by
  refine ⟨?_, fun record hrecord => ?_⟩
  · rw [h.records]
    exact List.suffix_cons _ _
  · rw [h.records] at hrecord
    rcases List.mem_cons.1 hrecord with rfl | hrecord
    · exact .inr rfl
    · exact .inl hrecord

/-- **A search** adds bare records, whether it succeeds or fails. -/
theorem grows_follow (library : Library) (pending : List SchemaKey) (session : Session) :
    session.cache.Grows (session.follow library pending).1.2.cache := by
  refine follow_induct library (motive := fun _ session outcome => session.cache.Grows outcome.2.cache)
    ?_ ?_ ?_ ?_ ?_ pending session
  · intro session
    exact .refl _
  · intro key rest session outcome _ ih
    exact ih
  · intro key rest session e _ _
    exact .refl _
  · intro key rest session root nested after e deep hvisits ih
    exact hvisits.grows.trans ih
  · intro key rest session root nested after deep outcome hvisits ih ih'
    exact hvisits.grows.trans (ih.trans ih')

end Session

/-! ## Steps that mark nothing -/

namespace Load

/-- Whatever comes of the step, it leaves the marks as they were. -/
def KeepsMarks {α : Type} (step : Load α) : Prop :=
  ∀ s : Session, s.cache.SameMarks (perform step s).2.cache

variable {α β : Type}

theorem keepsMarks_pure (a : α) : KeepsMarks (pure a : Load α) := fun s => .refl s.cache

theorem keepsMarks_lift (result : Except LoadError α) : KeepsMarks (liftM result : Load α) := fun s => .refl s.cache

theorem keepsMarks_bind {step : Load α} {next : α → Load β} (hstep : KeepsMarks step)
    (hnext : ∀ a, KeepsMarks (next a)) : KeepsMarks (step >>= next) := by
  intro s
  have hfirst := hstep s
  rw [perform_bind]
  rcases hperform : perform step s with ⟨e | a, t⟩
  · rwa [hperform] at hfirst
  · rw [hperform] at hfirst
    exact hfirst.trans (hnext a t)

end Load

namespace Library
open Load (KeepsMarks keepsMarks_pure keepsMarks_lift keepsMarks_bind)
variable {library : Library}

theorem grows_resolve (library : Library) (url : String) (s : Session) :
    s.cache.Grows (Load.perform (library.resolve url) s).2.cache := by
  cases hblank : Text.isBlank url with
  | true =>
    rw [resolve_blank hblank]
    exact .refl _
  | false =>
    cases hkey : SchemaKey.ofUrl? url with
    | none =>
      rw [resolve_unkeyed hblank hkey]
      exact .refl _
    | some key =>
      rw [resolve_search hblank hkey]
      exact Session.grows_follow library [key] s

theorem keepsMarks_resolve (url : String) : KeepsMarks (library.resolve url) :=
  fun s => (grows_resolve library url s).sameMarks

theorem keepsMarks_message (reference : Option String) : KeepsMarks (library.resolveAs .message reference) := by
  cases reference with
  | none => exact keepsMarks_pure none
  | some url =>
    refine keepsMarks_bind (keepsMarks_resolve url) fun found => ?_
    cases found with
    | none => exact keepsMarks_pure none
    | some key =>
      refine keepsMarks_bind (fun s => ?_) fun _ => keepsMarks_pure _
      exact SchemaCache.sameMarks_modify fun _ _ => rfl

theorem keepsMarks_linkExchangeEntries (id : DefinitionId) (bindings : Naming.NameScope)
    (entries : List ExchangeEntry) : KeepsMarks (library.linkExchangeEntries id bindings entries) := by
  induction entries generalizing bindings with
  | nil => exact keepsMarks_pure []
  | cons entry rest ih =>
    refine keepsMarks_bind (keepsMarks_message _) fun _ => keepsMarks_bind (keepsMarks_lift _) fun claimed => ?_
    exact keepsMarks_bind (keepsMarks_lift _) fun _ => keepsMarks_bind (ih claimed.2) fun _ => keepsMarks_pure _

theorem keepsMarks_linkExchange (id : DefinitionId) (document : ExchangeDocument) :
    KeepsMarks (library.link id (.exchange document)) :=
  keepsMarks_bind (keepsMarks_bind (keepsMarks_linkExchangeEntries id .empty _) fun _ => keepsMarks_pure _)
    fun _ => keepsMarks_pure _

end Library

namespace SchemaCache

theorem sameMarks_applyPatch? {cache patched : SchemaCache} {patch : SchemaPatch}
    (h : cache.applyPatch? patch = .ok (some patched)) : cache.SameMarks patched := by
  unfold applyPatch? at h
  split at h
  · cases h
  · split at h
    · cases h
      exact sameMarks_modify fun role _ => by cases role <;> rfl
    · cases h

theorem sameMarks_applyPatches (cache : SchemaCache) (patches : List SchemaPatch) :
    cache.SameMarks (cache.applyPatches patches).2 := by
  induction patches generalizing cache with
  | nil => exact .refl cache
  | cons patch rest ih =>
    unfold applyPatches
    split
    · exact .refl cache
    · exact ih cache
    · next patched happlied => exact (sameMarks_applyPatch? happlied).trans (ih patched)

theorem sameMarks_nameEach {cache named : SchemaCache} {scope : Naming.NameScope} {urls : List String}
    (h : cache.nameEach scope urls = .ok named) : cache.SameMarks named := by
  induction urls generalizing cache scope with
  | nil =>
    cases h
    exact .refl _
  | cons url rest ih =>
    unfold nameEach at h
    split at h
    · exact ih h
    · split at h
      · cases h
      · exact SameMarks.trans (sameMarks_modify fun role _ => by cases role <;> rfl) (ih h)

end SchemaCache

/-! ## Steps that mark -/

/-- Some reference in this role is not blank, and `url` is its canonical form. -/
def NamedAs (role : Role) (uses : List (Role × String)) (url : String) : Prop :=
  ∃ reference, (role, reference) ∈ uses ∧ Text.isBlank reference = false ∧ url = canonicalUrl reference

namespace Library
variable {library : Library}

theorem marked_resolveAs {role other : Role} {reference url : String} {result : Option String} {s t : Session}
    (hrun : Load.perform (library.resolveAs role (some reference)) s = (.ok result, t)) :
    t.cache.marked other url = true ↔ s.cache.marked other url = true ∨
      other ≠ .message ∧ NamedAs other [(role, reference)] (canonicalUrl url) := by
  obtain ⟨found, u, hresolve, hmark⟩ := Load.bind_ok.1 hrun
  have hsame : u.cache.marked other url = s.cache.marked other url := by
    have hkept : s.cache.SameMarks (Load.perform (library.resolve reference) s).2.cache :=
      keepsMarks_resolve reference s
    rw [hresolve] at hkept
    exact hkept other url
  rcases resolve_ok.1 hresolve with ⟨hblank, rfl, -⟩ | ⟨hblank, key, hkey, rfl, hfollow⟩
  · cases hmark
    rw [hsame]
    simp [NamedAs, hblank]
  · obtain ⟨_, v, hmodify, hpure⟩ := Load.bind_ok.1 hmark
    cases hpure
    rw [Load.perform_modifyCache, Prod.mk.injEq] at hmodify
    obtain ⟨-, rfl⟩ := hmodify
    have hcached : key.url ∈ u.cache.keys :=
      (Session.explored_of_follow hfollow).reached key (List.mem_singleton_self key)
    rw [SchemaCache.marked_modify_mark, hsame, SchemaKey.canonicalUrl_url, SchemaKey.url_of_ofUrl? hkey]
    refine or_congr_right ?_
    rw [SchemaKey.url_of_ofUrl? hkey] at hcached
    constructor
    · rintro ⟨-, hmessage, rfl, hurl⟩
      exact ⟨hmessage, reference, List.mem_singleton_self _, hblank, hurl⟩
    · rintro ⟨hmessage, named, hmem, -, hurl⟩
      cases List.mem_singleton.1 hmem
      exact ⟨hcached, hmessage, rfl, hurl⟩

theorem namedAs_cons {role : Role} {use : Role × String} {rest : List (Role × String)} {url : String} :
    NamedAs role (use :: rest) url ↔ NamedAs role [use] url ∨ NamedAs role rest url := by
  simp only [NamedAs, List.mem_cons, List.not_mem_nil, or_false, or_and_right, exists_or]

/-- **References that resolve** mark the schemas that they name, each for its role. -/
theorem marked_resolveAll {uses : List (Role × String)} {role : Role} {url : String} {s t : Session}
    (hrun : Load.perform (library.resolveAll uses) s = (.ok (), t)) :
    t.cache.marked role url = true ↔ s.cache.marked role url = true ∨
      role ≠ .message ∧ NamedAs role uses (canonicalUrl url) := by
  induction uses generalizing s with
  | nil =>
    cases hrun
    simp [NamedAs]
  | cons use rest ih =>
    obtain ⟨result, u, hfirst, hrest⟩ := Load.bind_ok.1 hrun
    rw [ih hrest, marked_resolveAs hfirst, or_assoc, @namedAs_cons role use rest, and_or_left]

end Library

end ApiCatalog
