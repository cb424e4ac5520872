import ApiCatalog.Proofs.Related
import ApiCatalog.Schema.Cache
import Mathlib.Data.List.Nodup
import Mathlib.Data.String.Basic

/-!
# The records of a cache

Lookup, insertion and change of a record, said of the list of records. Every record is found under its own
canonical URL and under no other (`get?_eq_some`); a change of one record leaves the keys, and in every record
what the change respects (`forall₂_modify`). What is sorted by a text stands in ascending order of it
(`ascending_mergeSort`); the sorted URLs are the keys in strictly ascending order.
-/

namespace ApiCatalog

/-! ## Sorting by a text -/

section Sorting
variable {α : Type} (text : α → String)

theorem text_le_trans (a b c : α) (hab : decide (text a ≤ text b) = true) (hbc : decide (text b ≤ text c) = true) :
    decide (text a ≤ text c) = true :=
  decide_eq_true ((of_decide_eq_true hab).trans (of_decide_eq_true hbc))

theorem text_le_total (a b : α) : (decide (text a ≤ text b) || decide (text b ≤ text a)) = true := by
  simpa using le_total (text a) (text b)

theorem ascending_mergeSort (elements : List α) :
    (elements.mergeSort fun a b => text a ≤ text b).Pairwise fun a b => text a ≤ text b :=
  (List.pairwise_mergeSort (text_le_trans text) (text_le_total text) elements).imp of_decide_eq_true

end Sorting

namespace SchemaCache
variable {cache : SchemaCache} {url other : String} {record : SchemaRecord}

/-! ## Keys and lookups -/

theorem mem_keys : url ∈ cache.keys ↔ ∃ record ∈ cache.records, record.key = url := by
  simp [keys]

theorem key_mem_keys (h : record ∈ cache.records) : record.key ∈ cache.keys :=
  mem_keys.2 ⟨record, h, rfl⟩

theorem nodup_keys (cache : SchemaCache) : cache.keys.Nodup := cache.distinct

theorem eq_of_key_eq {other : SchemaRecord} (h : record ∈ cache.records) (hother : other ∈ cache.records)
    (hkey : record.key = other.key) : record = other :=
  List.inj_on_of_nodup_map cache.distinct h hother hkey

theorem get?_eq_some : cache.get? url = some record ↔ record ∈ cache.records ∧ record.key = canonicalUrl url := by
  unfold get?
  constructor
  · intro h
    exact ⟨List.mem_of_find?_eq_some h, by simpa using List.find?_some h⟩
  · rintro ⟨hmem, hkey⟩
    cases hfind : cache.records.find? (·.key == canonicalUrl url) with
    | none =>
      have hnot := List.find?_eq_none.1 hfind record hmem
      simp [hkey] at hnot
    | some found =>
      have hfound : found.key = canonicalUrl url := by simpa using List.find?_some hfind
      rw [eq_of_key_eq (List.mem_of_find?_eq_some hfind) hmem (hfound.trans hkey.symm)]

theorem canonicalUrl_of_mem_keys (h : url ∈ cache.keys) : canonicalUrl url = url := by
  obtain ⟨record, -, rfl⟩ := mem_keys.1 h
  exact canonicalUrl_canonicalUrl record.sourceUrl

theorem getLast?_canonicalUrl (url : String) : (canonicalUrl url).toList.getLast? = some fragmentMarker := by
  unfold canonicalUrl
  split
  · next hmarked => exact hmarked
  · rw [String.toList_push, List.getLast?_concat]

theorem get?_canonicalUrl (cache : SchemaCache) (url : String) : cache.get? (canonicalUrl url) = cache.get? url := by
  rw [get?, get?, canonicalUrl_canonicalUrl]

theorem get?_key (h : record ∈ cache.records) : cache.get? record.key = some record :=
  get?_eq_some.2 ⟨h, (canonicalUrl_canonicalUrl _).symm⟩

theorem exists_get? (h : url ∈ cache.keys) : ∃ record, cache.get? url = some record ∧ record.key = url := by
  obtain ⟨record, hrecord, rfl⟩ := mem_keys.1 h
  exact ⟨record, get?_key hrecord, rfl⟩

theorem get?_eq_none : cache.get? url = none ↔ canonicalUrl url ∉ cache.keys := by
  rw [mem_keys, get?, List.find?_eq_none]
  simp

/-! ## Insertion -/

theorem insert_of_fresh (h : record.key ∉ cache.keys) :
    ∃ grown, cache.insert record = .ok grown ∧ grown.records = record :: cache.records := by
  unfold insert
  rw [dif_neg h]
  exact ⟨_, rfl, rfl⟩

theorem records_of_insert {grown : SchemaCache} (h : cache.insert record = .ok grown) :
    grown.records = record :: cache.records := by
  unfold insert at h
  split at h
  · cases h
  · cases h
    rfl

theorem get?_of_records_cons {grown : SchemaCache} (h : grown.records = record :: cache.records) (url : String) :
    grown.get? url = if record.key = canonicalUrl url then some record else cache.get? url := by
  rw [get?, h, List.find?_cons, get?]
  by_cases hkey : record.key = canonicalUrl url
  · rw [if_pos hkey, beq_iff_eq.2 hkey]
  · rw [if_neg hkey, beq_false_of_ne hkey]

/-! ## Change -/

theorem records_modify (f : SchemaRecord → SchemaRecord) :
    (cache.modify url f).records =
      cache.records.map fun record => if record.key == canonicalUrl url then changed f record else record :=
  rfl

theorem get?_modify {f : SchemaRecord → SchemaRecord} :
    (cache.modify url f).get? other =
      if canonicalUrl other = canonicalUrl url then (cache.get? other).map (changed f) else cache.get? other := by
  have hkey (record : SchemaRecord) :
      (if record.key == canonicalUrl url then changed f record else record).key = record.key := by
    split <;> rfl
  rw [get?, records_modify, List.find?_map]
  simp only [Function.comp_def, hkey]
  rw [← get?]
  split
  · next hsame =>
    cases hfound : cache.get? other with
    | none => rfl
    | some record => simp [(get?_eq_some.1 hfound).2, hsame]
  · next hother =>
    cases hfound : cache.get? other with
    | none => rfl
    | some record => simp [(get?_eq_some.1 hfound).2, hother]

/-- What a change respects in the record that it changes, it respects in all. -/
theorem forall₂_modify {R : SchemaRecord → SchemaRecord → Prop} {f : SchemaRecord → SchemaRecord}
    (hrefl : ∀ record, R record record)
    (hchange : ∀ record ∈ cache.records, record.key = canonicalUrl url → R record (changed f record)) :
    List.Forall₂ R cache.records (cache.modify url f).records := by
  rw [records_modify, List.forall₂_map_right_iff, List.forall₂_same]
  intro record hmem
  split
  · next hkey => exact hchange record hmem (by simpa using hkey)
  · exact hrefl record

theorem keys_of_forall₂ {other : SchemaCache} {R : SchemaRecord → SchemaRecord → Prop}
    (hurl : ∀ {a b}, R a b → b.sourceUrl = a.sourceUrl) (h : List.Forall₂ R cache.records other.records) :
    other.keys = cache.keys := by
  have hkeys : List.Forall₂ (· = ·) (cache.records.map SchemaRecord.key) (other.records.map SchemaRecord.key) := by
    rw [List.forall₂_map_left_iff, List.forall₂_map_right_iff]
    exact h.imp fun a b hab => by rw [SchemaRecord.key, SchemaRecord.key, hurl hab]
  exact (List.forall₂_eq_eq_eq ▸ hkeys).symm

@[simp] theorem keys_modify (f : SchemaRecord → SchemaRecord) : (cache.modify url f).keys = cache.keys :=
  keys_of_forall₂ (R := fun a b => b.sourceUrl = a.sourceUrl) id
    (forall₂_modify (fun _ => rfl) fun _ _ _ => rfl)

theorem ext_records {first second : SchemaCache} (h : first.records = second.records) : first = second := by
  cases first
  cases second
  cases h
  rfl

section Changes
variable {f g : SchemaRecord → SchemaRecord}

@[simp] theorem key_changed : (changed f record).key = record.key := rfl

theorem modify_congr (hurl : canonicalUrl url = canonicalUrl other)
    (h : ∀ record ∈ cache.records, record.key = canonicalUrl url → changed f record = changed g record) :
    cache.modify url f = cache.modify other g := by
  refine ext_records (List.map_congr_left fun record hrecord => ?_)
  rw [hurl]
  split
  · next hkey => exact h record hrecord (by simpa [hurl] using hkey)
  · rfl

theorem modify_eq_self (h : ∀ record ∈ cache.records, record.key = canonicalUrl url → changed f record = record) :
    cache.modify url f = cache := by
  refine ext_records ((List.map_congr_left fun record hrecord => ?_).trans (List.map_id _))
  split
  · next hkey => exact h record hrecord (by simpa using hkey)
  · rfl

theorem modify_modify (hurl : canonicalUrl other = canonicalUrl url) :
    (cache.modify url f).modify other g = cache.modify url (g ∘ changed f) := by
  refine ext_records ?_
  rw [records_modify, records_modify, records_modify, List.map_map]
  refine List.map_congr_left fun record _ => ?_
  rw [Function.comp_apply, hurl]
  by_cases hkey : record.key = canonicalUrl url
  · simp only [hkey, key_changed, beq_self_eq_true, if_true]
    rfl
  · simp [hkey]

theorem modify_comm (hurl : canonicalUrl url ≠ canonicalUrl other) :
    (cache.modify url f).modify other g = (cache.modify other g).modify url f := by
  refine ext_records ?_
  simp only [records_modify, List.map_map]
  refine List.map_congr_left fun record _ => ?_
  by_cases hkey : record.key = canonicalUrl url
  · simp [hkey, hurl]
  · by_cases hother : record.key = canonicalUrl other
    · simp [hother, hurl.symm]
    · simp [hkey, hother]

end Changes

/-! ## Sorted URLs -/

theorem sortedUrls_perm (cache : SchemaCache) : cache.sortedUrls.Perm cache.keys := List.mergeSort_perm _ _

theorem mem_sortedUrls {cache : SchemaCache} {url : String} : url ∈ cache.sortedUrls ↔ url ∈ cache.keys :=
  List.mem_mergeSort

theorem nodup_sortedUrls (cache : SchemaCache) : cache.sortedUrls.Nodup :=
  cache.sortedUrls_perm.nodup_iff.2 cache.nodup_keys

theorem sortedUrls_ascending (cache : SchemaCache) : cache.sortedUrls.Pairwise (· < ·) := by
  have hsorted : cache.sortedUrls.Pairwise (· ≤ ·) := ascending_mergeSort id cache.keys
  exact hsorted.imp₂ (fun a b hle hne => lt_of_le_of_ne hle hne) cache.nodup_sortedUrls

theorem eq_of_ascending {urls others : List String} (hperm : urls.Perm others) (h : urls.Pairwise (· < ·))
    (hothers : others.Pairwise (· < ·)) : urls = others :=
  hperm.eq_of_pairwise (fun _ _ _ _ hlt hgt => (lt_asymm hlt hgt).elim) h hothers

end SchemaCache

end ApiCatalog
