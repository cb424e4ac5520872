import ApiCatalog.Proofs.Loading.DiscoveryOrder
import ApiCatalog.Proofs.Schema.Effects

/-!
# Linking a document again

A document that has been linked is left as it is when it is linked again, and so are the cache and the requests
(`link_again`). Linking is naming and resolving, so there are two things to show.

* Names and references are fixed by what was there before: an entry keeps the text that it is named after, so the scopes
  give the same names again, and a canonical reference is its own canonical form (`Document.named_again`).
* A reference that was resolved is `Settled`: it leads to a schema that is cached and marked for its role. Such a reference
  resolves without a request, and marking the schema again changes nothing (`resolveAll_settled`).
-/

namespace ApiCatalog
open Naming (NameScope)

/-! ## Naming again -/

theorem isBlank_canonicalUrl (url : String) : Text.isBlank (canonicalUrl url) = false := by
  have hmarker : Text.isWhiteSpace fragmentMarker = false := by decide
  have hmem : fragmentMarker ∈ (canonicalUrl url).toList := by
    unfold canonicalUrl
    split
    · next hlast => exact List.mem_of_getLast? hlast
    · simp
  rw [Text.isBlank, List.all_eq_false]
  exact ⟨_, hmem, by simp [hmarker]⟩

@[simp] theorem linkedReference_linkedReference (reference : Option String) :
    linkedReference (linkedReference reference) = linkedReference reference := by
  unfold linkedReference
  cases hkept : reference.filter (!Text.isBlank ·) with
  | none => rfl
  | some url => simp [Option.filter, isBlank_canonicalUrl]

theorem nameElements_again {fields : NameScope} {elements named : List RouteElement}
    (h : Library.nameElements fields elements = .ok named) : Library.nameElements fields named = .ok named := by
  induction elements generalizing fields named with
  | nil =>
    cases h
    rfl
  | cons element rest ih =>
    simp only [Library.nameElements, except_bind_ok, Prod.exists] at h
    obtain ⟨name, scope, hclaim, more, hmore, hnamed⟩ := h
    cases hnamed
    simp only [Library.nameElements, except_bind_ok, Prod.exists]
    exact ⟨name, scope, hclaim, more, ih hmore, rfl⟩

theorem nameApiEntries_again {id : DefinitionId} {methods : NameScope} {entries named : List ApiEntry}
    (h : nameApiEntries id methods entries = .ok named) : nameApiEntries id methods named = .ok named := by
  induction entries generalizing methods named with
  | nil =>
    cases h
    rfl
  | cons entry rest ih =>
    simp only [nameApiEntries, except_bind_ok, Prod.exists] at h
    obtain ⟨name, scope, hclaim, more, hmore, hnamed⟩ := h
    cases hnamed
    simp only [nameApiEntries, except_bind_ok, Prod.exists, linkedReference_linkedReference]
    exact ⟨name, scope, hclaim, more, ih hmore, rfl⟩

theorem nameExchangeEntries_again {id : DefinitionId} {bindings : NameScope} {entries named : List ExchangeEntry}
    (h : nameExchangeEntries id bindings entries = .ok named) : nameExchangeEntries id bindings named = .ok named := by
  induction entries generalizing bindings named with
  | nil =>
    cases h
    rfl
  | cons entry rest ih =>
    simp only [nameExchangeEntries, except_bind_ok, Prod.exists] at h
    obtain ⟨name, scope, hclaim, key, hkey, more, hmore, hnamed⟩ := h
    cases hnamed
    simp only [nameExchangeEntries, except_bind_ok, Prod.exists, linkedReference_linkedReference]
    exact ⟨name, scope, hclaim, key, nameElements_again hkey, more, ih hmore, rfl⟩

theorem Document.named_again {id : DefinitionId} {document linked : Document} (h : document.named id = .ok linked) :
    linked.named id = .ok linked := by
  cases document with
  | api document =>
    simp only [named, except_bind_ok] at h
    obtain ⟨entries, hentries, hlinked⟩ := h
    cases hlinked
    simp only [named, except_bind_ok]
    exact ⟨entries, nameApiEntries_again hentries, rfl⟩
  | exchange document =>
    simp only [named, except_bind_ok] at h
    obtain ⟨entries, hentries, hlinked⟩ := h
    cases hlinked
    simp only [named, except_bind_ok]
    exact ⟨entries, nameExchangeEntries_again hentries, rfl⟩

/-! ## Resolving again -/

theorem Role.mark_of_marks {role : Role} {record : SchemaRecord} (h : role = .message ∨ role.marks record = true) :
    role.mark record = record := by
  obtain ⟨sourceUrl, root, isInput, isOutput, typeName⟩ := record
  cases role with
  | message => rfl
  | input =>
    have hmarked : isInput = true := h.resolve_left (by decide)
    rw [hmarked, Role.mark]
  | output =>
    have hmarked : isOutput = true := h.resolve_left (by decide)
    rw [hmarked, Role.mark]

/-- The reference is the canonical URL of a schema that is cached, and marked if the role leaves a mark. -/
def Settled (cache : SchemaCache) (use : Role × String) : Prop :=
  ∃ key : SchemaKey, use.2 = key.url ∧ key.url ∈ cache.keys ∧ (use.1 = .message ∨ cache.marked use.1 key.url = true)

namespace Library
variable {library : Library} {role : Role} {reference : String} {uses : List (Role × String)} {s t : Session}

theorem resolveAs_settled (h : Settled s.cache (role, reference)) :
    Load.perform (library.resolveAs role (some reference)) s = (.ok (some reference), s) := by
  obtain ⟨key, rfl, hcached, hmarked⟩ := h
  have hmark : s.cache.modify key.url role.mark = s.cache := by
    refine SchemaCache.modify_eq_self fun record hrecord hkey => ?_
    have hmarks : role = .message ∨ role.marks record = true := by
      refine hmarked.imp_right fun hmarked => ?_
      rwa [SchemaCache.marked, SchemaCache.get?_eq_some.2 ⟨hrecord, hkey⟩] at hmarked
    rw [SchemaCache.changed, Role.mark_of_marks hmarks]
  have hmodify : Load.perform (Load.modifyCache (·.modify key.url role.mark)) s = (.ok (), s) := by
    rw [Load.perform_modifyCache, hmark]
  exact Load.bind_ok.2 ⟨some key.url, s, resolve_cached key.isBlank_url key.ofUrl?_url hcached,
    Load.bind_ok.2 ⟨(), s, hmodify, rfl⟩⟩

/-- **Settled references** resolve without leaving a trace. -/
theorem resolveAll_settled (h : ∀ use ∈ uses, Settled s.cache use) :
    Load.perform (library.resolveAll uses) s = (.ok (), s) := by
  induction uses with
  | nil => rfl
  | cons use rest ih =>
    obtain ⟨huse, hrest⟩ := List.forall_mem_cons.1 h
    exact Load.bind_ok.2 ⟨some use.2, s, resolveAs_settled huse, ih hrest⟩

theorem cached_resolveAs {result : Option String}
    (hrun : Load.perform (library.resolveAs role (some reference)) s = (.ok result, t)) :
    s.cache.keys ⊆ t.cache.keys ∧ (Text.isBlank reference = false →
      ∃ key : SchemaKey, canonicalUrl reference = key.url ∧ key.url ∈ t.cache.keys) := by
  obtain ⟨found, u, hresolve, hmark⟩ := Load.bind_ok.1 hrun
  have hgrows : s.cache.keys ⊆ u.cache.keys := by
    have hkept := (grows_resolve library reference s).kept
    rw [hresolve] at hkept
    exact SchemaCache.keys_subset_of_suffix hkept
  rcases resolve_ok.1 hresolve with ⟨hblank, rfl, -⟩ | ⟨hblank, key, hkey, rfl, hfollow⟩
  · cases hmark
    exact ⟨hgrows, fun hnot => absurd hblank (by simp [hnot])⟩
  · obtain ⟨_, v, hmodify, hpure⟩ := Load.bind_ok.1 hmark
    cases hpure
    cases hmodify
    have hcached := (Session.explored_of_follow hfollow).reached key (List.mem_singleton_self key)
    refine ⟨by rwa [SchemaCache.keys_modify], fun _ => ⟨key, (SchemaKey.url_of_ofUrl? hkey).symm, ?_⟩⟩
    rwa [SchemaCache.keys_modify]

theorem cached_resolveAll (hrun : Load.perform (library.resolveAll uses) s = (.ok (), t)) :
    s.cache.keys ⊆ t.cache.keys ∧ ∀ use ∈ uses, Text.isBlank use.2 = false →
      ∃ key : SchemaKey, canonicalUrl use.2 = key.url ∧ key.url ∈ t.cache.keys := by
  induction uses generalizing s with
  | nil =>
    cases hrun
    exact ⟨List.Subset.refl _, by simp⟩
  | cons use rest ih =>
    obtain ⟨result, u, hfirst, hrest⟩ := Load.bind_ok.1 hrun
    obtain ⟨hkept, hcached⟩ := cached_resolveAs hfirst
    obtain ⟨hkept', hcached'⟩ := ih hrest
    refine ⟨List.Subset.trans hkept hkept', List.forall_mem_cons.2 ⟨fun hblank => ?_, hcached'⟩⟩
    obtain ⟨key, hurl, hmem⟩ := hcached hblank
    exact ⟨key, hurl, hkept' hmem⟩

theorem settled_of_resolveAll (hrun : Load.perform (library.resolveAll uses) s = (.ok (), t)) :
    ∀ use ∈ linkedUses uses, Settled t.cache use := by
  rintro ⟨role, url⟩ huse
  obtain ⟨reference, hmem, hblank, rfl⟩ := mem_linkedUses.1 huse
  obtain ⟨key, hurl, hcached⟩ := (cached_resolveAll hrun).2 (role, reference) hmem hblank
  refine ⟨key, hurl, hcached, or_iff_not_imp_left.2 fun hmessage => ?_⟩
  refine (marked_resolveAll hrun).2 (.inr ⟨hmessage, reference, hmem, hblank, ?_⟩)
  rw [SchemaKey.canonicalUrl_url]
  exact hurl.symm

/-- **Linking a document again**, with the cache that linking it has left, changes nothing: not the document, not the cache,
and no request is made. -/
theorem link_again {id : DefinitionId} {document linked : Document} {u : Session}
    (hrun : Load.perform (library.link id document) s = (.ok linked, t)) (hcache : u.cache = t.cache) :
    Load.perform (library.link id linked) u = (.ok linked, u) := by
  obtain ⟨hnamed, hresolve⟩ := link_ok.1 hrun
  have hsettled : ∀ use ∈ linked.uses, Settled u.cache use := by
    rw [Document.uses_of_named hnamed, hcache]
    exact settled_of_resolveAll hresolve
  exact link_ok.2 ⟨Document.named_again hnamed, resolveAll_settled hsettled⟩

/-- An exchange reference, and after it an API reference with a blank reference and operations of the same name. -/
theorem cyclic_link_again : ∃ exchange api s t,
    Load.perform (cyclic.link ⟨7⟩ (.exchange { entries := [{ name := "n", schema := some "http://s/b.json#" }] })) {} =
        (.ok exchange, s) ∧
      Load.perform (cyclic.link ⟨7⟩ exchange) { cache := s.cache } = (.ok exchange, { cache := s.cache }) ∧
      Load.perform (cyclic.link ⟨3⟩ (.api { entries :=
        [{ name := "u", output := some "http://s/b.json" },
         { name := "t", input := some "http://s/a.json#", output := some " " },
         { name := "t", input := some "http://s/a.json" }] })) s = (.ok api, t) ∧
      Load.perform (cyclic.link ⟨3⟩ api) t = (.ok api, t) := by
  obtain ⟨linked, final, hrun⟩ := cyclic_runs
  obtain ⟨_, _, hlink, -⟩ := Load.bind_ok.1 hrun
  have hsmall : ∀ document ∈ cyclicRearranged, document.2.Small := by simp [cyclicRearranged, Document.Small]
  obtain ⟨_, _, hrearranged, -⟩ := linkEach_ok_of_sameUses hsmall cyclic_sameUses hlink
  obtain ⟨exchange, s, hexchange, hrest⟩ := Load.bind_ok.1 hrearranged
  obtain ⟨_, _, hothers, -⟩ := Load.bind_ok.1 hrest
  obtain ⟨api, t, hapi, -⟩ := Load.bind_ok.1 hothers
  exact ⟨exchange, api, s, t, hexchange, link_again hexchange rfl, hapi, link_again hapi rfl⟩

end Library

end ApiCatalog
