import ApiCatalog.Proofs.Linking
import ApiCatalog.Proofs.Naming.Identifier
import ApiCatalog.Proofs.Naming.Types

/-!
# Names that are given

The members of a namespace are `WellNamed` when each of them has a name that is made from its text, and no two have
the same. All namespaces get their names alike: `NameScope.claimEach` gives names to some texts one after the other,
and a run of it from the empty scope names its texts well (`wellNamed_of_claimEach`). What remains for each of the four
kinds of namespace is that its names come from such a run.
-/

namespace ApiCatalog.Naming

/-! ## One name -/

/-- The name is the identifier of the text, or this identifier with a number behind it. -/
structure NamedAfter (text name : String) : Prop where
  wellFormed : IsIdentifier name
  derived : name = identifier text ∨ ∃ k, 1 ≤ k ∧ k ≤ 2 ^ 32 - 1 ∧ name = identifier text ++ toString k

namespace NameScope
variable {scope grown : NameScope} {text name : String}

theorem claimFor_ok (h : scope.claimFor text = .ok (name, grown)) :
    name ∉ scope.names ∧ grown = scope.insert name ∧ NamedAfter text name := by
  unfold claimFor claim at h
  split at h
  · split at h
    · next hfree =>
      cases h
      obtain ⟨k, hk, hname, hnew, -⟩ := firstFree_eq_some.1 hfree
      refine ⟨hnew, rfl, ?_, .inr ⟨1 + k, by omega, ?_, hname⟩⟩
      · rw [hname]
        exact (isIdentifier_identifier text).numbered (1 + k)
      · rw [maxSuffix] at hk
        omega
    · cases h
  · next hfree =>
    cases h
    exact ⟨by simpa [contains] using hfree, rfl, isIdentifier_identifier text, .inl rfl⟩

/-! ## Names one after the other -/

def claimEach (scope : NameScope) : List String → Except LoadError (List String)
  | [] => .ok []
  | text :: rest => do
    let (name, scope) ← scope.claimFor text
    let rest ← scope.claimEach rest
    return name :: rest

theorem claimEach_cons {texts names : List String} :
    scope.claimEach (text :: texts) = .ok names ↔ ∃ name grown rest, scope.claimFor text = .ok (name, grown) ∧
      grown.claimEach texts = .ok rest ∧ names = name :: rest := by
  simp only [claimEach, except_bind_ok, Prod.exists]
  constructor
  · rintro ⟨name, grown, hclaim, rest, hrest, hnames⟩
    cases hnames
    exact ⟨name, grown, rest, hclaim, hrest, rfl⟩
  · rintro ⟨name, grown, rest, hclaim, hrest, rfl⟩
    exact ⟨name, grown, hclaim, rest, hrest, rfl⟩

theorem claimEach_ok {texts names : List String} (h : scope.claimEach texts = .ok names) :
    (∀ name ∈ names, name ∉ scope.names) ∧ names.Nodup ∧ List.Forall₂ NamedAfter texts names := by
  induction texts generalizing scope names with
  | nil =>
    cases h
    exact ⟨by simp, List.nodup_nil, .nil⟩
  | cons text texts ih =>
    obtain ⟨name, grown, rest, hclaim, hrest, rfl⟩ := claimEach_cons.1 h
    obtain ⟨hnew, rfl, hnamed⟩ := claimFor_ok hclaim
    obtain ⟨hothers, hnodup, hall⟩ := ih hrest
    -- the first name is taken when the others are given
    have hfresh (other : String) (hother : other ∈ rest) : other ≠ name ∧ other ∉ scope.names := by
      simpa [insert] using hothers other hother
    refine ⟨?_, List.nodup_cons.2 ⟨fun hmem => (hfresh name hmem).1 rfl, hnodup⟩, .cons hnamed hall⟩
    exact List.forall_mem_cons.2 ⟨hnew, fun other hother => (hfresh other hother).2⟩

end NameScope

/-! ## Namespaces -/

/-- Every member has a name that is made from its text, and different members have different names. -/
structure WellNamed {α : Type} (members : List α) (text : α → String) (name : α → Option String) : Prop where
  named : ∀ member ∈ members, ∃ given, name member = some given ∧ NamedAfter (text member) given
  distinct : (members.map name).Nodup

section Namespaces
variable {α β : Type} {members : List α} {text : α → String} {name : α → Option String}

/-- **Texts that are named in turn** are well named. -/
theorem wellNamed_of_claimEach {names : List String}
    (h : NameScope.empty.claimEach (members.map text) = .ok names) (hnames : members.map name = names.map some) :
    WellNamed members text name := by
  obtain ⟨-, hnodup, hall⟩ := NameScope.claimEach_ok h
  refine ⟨?_, ?_⟩
  · clear hnodup h
    induction members generalizing names with
    | nil => simp
    | cons member rest ih =>
      cases names with
      | nil => cases hnames
      | cons given names =>
        rw [List.map_cons, List.map_cons, List.cons.injEq] at hnames
        cases hall with
        | cons hfirst hrest => exact List.forall_mem_cons.2 ⟨⟨given, hnames.1, hfirst⟩, ih hnames.2 hrest⟩
  · rw [hnames]
    exact hnodup.map fun _ _ => Option.some.inj

theorem WellNamed.perm {others : List α} (h : WellNamed members text name) (hperm : members.Perm others) :
    WellNamed others text name where
  named member hmember := h.named member (hperm.mem_iff.2 hmember)
  distinct := (hperm.map name).nodup_iff.1 h.distinct

theorem wellNamed_of_map {key : β → α} {others : List β} {text' : β → String} {name' : β → Option String}
    (h : WellNamed (others.map key) text name) (htext : ∀ other ∈ others, text' other = text (key other))
    (hname : ∀ other ∈ others, name' other = name (key other)) : WellNamed others text' name' where
  named other hother := by
    rw [htext other hother, hname other hother]
    exact h.named (key other) (List.mem_map_of_mem hother)
  distinct := by
    have hsame : others.map name' = (others.map key).map name := by
      rw [List.map_map]
      exact List.map_congr_left hname
    rw [hsame]
    exact h.distinct

end Namespaces

end ApiCatalog.Naming

/-! ## Documents -/

namespace ApiCatalog
open Naming (NameScope WellNamed wellNamed_of_claimEach)

theorem claimEach_of_nameElements {fields : NameScope} {elements named : List RouteElement}
    (h : Library.nameElements fields elements = .ok named) :
    fields.claimEach (named.map (·.name)) = .ok (named.map (·.fieldName)) := by
  induction elements generalizing fields named with
  | nil =>
    cases h
    rfl
  | cons element rest ih =>
    simp only [Library.nameElements, except_bind_ok, Prod.exists] at h
    obtain ⟨name, scope, hclaim, more, hmore, hnamed⟩ := h
    cases hnamed
    exact NameScope.claimEach_cons.2 ⟨name, scope, _, hclaim, ih hmore, rfl⟩

theorem claimEach_of_nameApiEntries {id : DefinitionId} {methods : NameScope} {entries named : List ApiEntry}
    (h : nameApiEntries id methods entries = .ok named) :
    methods.claimEach (named.map (·.name)) = .ok (named.map (·.methodName)) := by
  induction entries generalizing methods named with
  | nil =>
    cases h
    rfl
  | cons entry rest ih =>
    simp only [nameApiEntries, except_bind_ok, Prod.exists] at h
    obtain ⟨name, scope, hclaim, more, hmore, hnamed⟩ := h
    cases hnamed
    exact NameScope.claimEach_cons.2 ⟨name, scope, _, hclaim, ih hmore, rfl⟩

def ExchangeEntry.FieldsNamed (entry : ExchangeEntry) : Prop :=
  WellNamed entry.routingKey (·.name) (some ·.fieldName)

theorem claimEach_of_nameExchangeEntries {id : DefinitionId} {bindings : NameScope}
    {entries named : List ExchangeEntry} (h : nameExchangeEntries id bindings entries = .ok named) :
    bindings.claimEach (named.map (·.name)) = .ok (named.map (·.typeName)) ∧
      ∀ entry ∈ named, entry.FieldsNamed := by
  induction entries generalizing bindings named with
  | nil =>
    cases h
    exact ⟨rfl, by simp⟩
  | cons entry rest ih =>
    simp only [nameExchangeEntries, except_bind_ok, Prod.exists] at h
    obtain ⟨name, scope, hclaim, key, hkey, more, hmore, hnamed⟩ := h
    cases hnamed
    obtain ⟨hnames, hfields⟩ := ih hmore
    refine ⟨NameScope.claimEach_cons.2 ⟨name, scope, _, hclaim, hnames, rfl⟩, List.forall_mem_cons.2 ⟨?_, hfields⟩⟩
    exact wellNamed_of_claimEach (claimEach_of_nameElements hkey) (List.map_map ..).symm

/-- Operations are well named in their document; so are bindings, and the segments of each routing key. -/
def Document.EntriesNamed : Document → Prop
  | .api document => WellNamed document.entries (·.name) (some ·.methodName)
  | .exchange document =>
    WellNamed document.entries (·.name) (some ·.typeName) ∧ ∀ entry ∈ document.entries, entry.FieldsNamed

theorem Document.entriesNamed_of_named {document linked : Document} {id : DefinitionId}
    (h : document.named id = .ok linked) : linked.EntriesNamed := by
  cases document with
  | api document =>
    simp only [named, except_bind_ok] at h
    obtain ⟨entries, hentries, hlinked⟩ := h
    cases hlinked
    exact wellNamed_of_claimEach (claimEach_of_nameApiEntries hentries) (List.map_map ..).symm
  | exchange document =>
    simp only [named, except_bind_ok] at h
    obtain ⟨entries, hentries, hlinked⟩ := h
    cases hlinked
    obtain ⟨hnames, hfields⟩ := claimEach_of_nameExchangeEntries hentries
    exact ⟨wellNamed_of_claimEach hnames (List.map_map ..).symm, hfields⟩

/-! ## Schemas -/

namespace SchemaCache
variable {cache named : SchemaCache} {scope : NameScope} {urls : List String} {url other : String}

/-- The text that the schema for a URL is named after. -/
def hint (cache : SchemaCache) (url : String) : String := ((cache.get? url).map SchemaRecord.namingHint).getD ""

theorem hint_modify_typeName {name : String} :
    (cache.modify url fun record => { record with typeName := some name }).hint other = cache.hint other := by
  rw [hint, hint, get?_modify]
  split
  · rw [Option.map_map]
    rfl
  · rfl

theorem claimEach_of_nameEach (hcached : urls ⊆ cache.keys) (hnodup : urls.Nodup)
    (h : cache.nameEach scope urls = .ok named) :
    (∃ names, scope.claimEach (urls.map named.hint) = .ok names ∧ urls.map named.typeName? = names.map some) ∧
      (∀ other, named.hint other = cache.hint other) ∧
      ∀ other ∈ cache.keys, other ∉ urls → named.typeName? other = cache.typeName? other := by
  induction urls generalizing cache scope with
  | nil =>
    cases h
    exact ⟨⟨[], rfl, rfl⟩, fun _ => rfl, fun _ _ _ => rfl⟩
  | cons url rest ih =>
    obtain ⟨hurl, hrest⟩ := List.cons_subset.1 hcached
    obtain ⟨hnew, hnodup⟩ := List.nodup_cons.1 hnodup
    obtain ⟨record, hfound, -⟩ := exists_get? hurl
    have hcanonical := canonicalUrl_of_mem_keys hurl
    unfold nameEach at h
    rw [hfound] at h
    simp only at h
    split at h
    · cases h
    · next name grown hclaim =>
      obtain ⟨⟨names, hnames, htypes⟩, hhints, hothers⟩ := ih (by rwa [keys_modify]) hnodup h
      have hhint : named.hint url = record.namingHint := by
        rw [hhints, hint_modify_typeName, hint, hfound]
        rfl
      have htype : named.typeName? url = some name := by
        rw [hothers url (by rwa [keys_modify]) hnew, typeName?, get?_modify, if_pos rfl, hfound]
        rfl
      refine ⟨⟨name :: names, ?_, ?_⟩, fun other => ?_, fun other hother hmem => ?_⟩
      · rw [List.map_cons, hhint]
        exact NameScope.claimEach_cons.2 ⟨name, grown, names, hclaim, hnames, rfl⟩
      · rw [List.map_cons, List.map_cons, htype, htypes]
      · rw [hhints, hint_modify_typeName]
      · obtain ⟨hne, hmem⟩ := not_or.1 (List.mem_cons.not.1 hmem)
        rw [hothers other (by rwa [keys_modify]) hmem, typeName?, get?_modify, canonicalUrl_of_mem_keys hother,
          hcanonical, if_neg hne]
        rfl

theorem wellNamed_of_assignTypeNames (h : cache.assignTypeNames = .ok named) :
    WellNamed named.records SchemaRecord.namingHint SchemaRecord.typeName := by
  obtain ⟨⟨names, hnames, htypes⟩, -, -⟩ :=
    claimEach_of_nameEach cache.sortedUrls_perm.subset cache.nodup_sortedUrls h
  have hsorted : WellNamed cache.sortedUrls named.hint named.typeName? := wellNamed_of_claimEach hnames htypes
  have hkeys : WellNamed (named.records.map SchemaRecord.key) named.hint named.typeName? := by
    have hsame : named.records.map SchemaRecord.key = cache.keys := (revises_nameEach h).keys_eq
    exact hsorted.perm (hsame ▸ cache.sortedUrls_perm)
  refine Naming.wellNamed_of_map hkeys (fun record hrecord => ?_) fun record hrecord => ?_
  · rw [hint, get?_key hrecord]
    rfl
  · rw [typeName?, get?_key hrecord]
    rfl

end SchemaCache

end ApiCatalog
