import ApiCatalog.Proofs.Naming.Given

/-!
# Names are stable

Naming a cache is naming some texts: the texts that the schemas are named after, in ascending order of the URLs. The names
are then written into the records (`assignTypeNames_eq`). So a name depends on the URLs and texts up to its own, and not
on what a record held before.

* Two caches that agree on URLs and texts below a bound list the same texts first, and texts that stand first get the same
  names whatever follows them (`claimEach_append`).
* Two caches that differ in their names only are named alike (`assignTypeNames_congr`), and they still differ in names only
  when the same records have been inserted into both.
-/

namespace ApiCatalog

namespace Naming.NameScope

theorem claimEach_append {scope : NameScope} {texts more names : List String}
    (h : scope.claimEach (texts ++ more) = .ok names) :
    ∃ first rest, scope.claimEach texts = .ok first ∧ names = first ++ rest := by
  induction texts generalizing scope names with
  | nil => exact ⟨[], names, rfl, rfl⟩
  | cons text texts ih =>
    obtain ⟨name, grown, others, hclaim, hothers, rfl⟩ := claimEach_cons.1 h
    obtain ⟨first, rest, hfirst, rfl⟩ := ih hothers
    exact ⟨name :: first, rest, claimEach_cons.2 ⟨name, grown, first, hclaim, hfirst, rfl⟩, rfl⟩

theorem length_of_claimEach {scope : NameScope} {texts names : List String} (h : scope.claimEach texts = .ok names) :
    texts.length = names.length :=
  (claimEach_ok h).2.2.length_eq

end Naming.NameScope

namespace SchemaCache
open Naming (NameScope)
variable {cache other : SchemaCache} {url : String} {names : List (String × String)}

/-! ## Names in records -/

def renamed (record : SchemaRecord) (name : Option String) : SchemaRecord := { record with typeName := name }

def mapNames (cache : SchemaCache) (name : SchemaRecord → Option String) : SchemaCache where
  records := cache.records.map fun record => renamed record (name record)
  distinct := by
    rw [List.map_map]
    exact cache.distinct

/-- The cache with names that are listed by URL; other names are kept. -/
def withNames (cache : SchemaCache) (names : List (String × String)) : SchemaCache :=
  cache.mapNames fun record => (names.lookup record.key).or record.typeName

def withoutNames (cache : SchemaCache) : SchemaCache := cache.mapNames fun _ => none

theorem records_mapNames (name : SchemaRecord → Option String) :
    (cache.mapNames name).records = cache.records.map fun record => renamed record (name record) := rfl

@[simp] theorem keys_mapNames (name : SchemaRecord → Option String) : (cache.mapNames name).keys = cache.keys := by
  rw [keys, mapNames, List.map_map]
  rfl

theorem get?_mapNames (name : SchemaRecord → Option String) :
    (cache.mapNames name).get? url = (cache.get? url).map fun record => renamed record (name record) := by
  rw [get?, mapNames, List.find?_map]
  rfl

@[simp] theorem hint_mapNames (name : SchemaRecord → Option String) : (cache.mapNames name).hint = cache.hint := by
  funext url
  rw [hint, hint, get?_mapNames, Option.map_map]
  rfl

@[simp] theorem withoutNames_withNames : (cache.withNames names).withoutNames = cache.withoutNames :=
  ext_records (by simp [withoutNames, withNames, mapNames, renamed, Function.comp_def])

theorem withNames_modify {name : String} (hurl : url ∈ cache.keys) (hnew : names.lookup url = none) :
    (cache.modify url fun record => { record with typeName := some name }).withNames names =
      cache.withNames ((url, name) :: names) := by
  refine ext_records ?_
  rw [withNames, withNames, records_mapNames, records_mapNames, records_modify, List.map_map]
  refine List.map_congr_left fun record _ => ?_
  rw [Function.comp_apply, List.lookup_cons, canonicalUrl_of_mem_keys hurl]
  by_cases hkey : record.key = url
  · simp only [hkey, beq_self_eq_true, if_true, key_changed, hnew]
    rfl
  · simp only [beq_eq_false_iff_ne.2 hkey]
    rfl

/-- **Naming schemas** is naming the texts that they are named after, and writing the names into the records. -/
theorem nameEach_eq {scope : NameScope} {urls : List String} (hcached : urls ⊆ cache.keys) (hnodup : urls.Nodup) :
    cache.nameEach scope urls =
      (scope.claimEach (urls.map cache.hint)).map fun names => cache.withNames (urls.zip names) := by
  induction urls generalizing cache scope with
  | nil =>
    refine congrArg Except.ok (ext_records ?_)
    simp [withNames, mapNames, renamed]
  | cons url rest ih =>
    obtain ⟨hurl, hrest⟩ := List.cons_subset.1 hcached
    obtain ⟨hnew, hnodup⟩ := List.nodup_cons.1 hnodup
    obtain ⟨record, hfound, -⟩ := exists_get? hurl
    have hhint : cache.hint url = record.namingHint := by
      rw [hint, hfound]
      rfl
    rw [nameEach, hfound, List.map_cons, hhint, NameScope.claimEach]
    dsimp only
    cases hclaim : scope.claimFor record.namingHint with
    | error e => rfl
    | ok claimed =>
      obtain ⟨name, grown⟩ := claimed
      have hhints : (cache.modify url fun record => { record with typeName := some name }).hint = cache.hint :=
        funext fun other => hint_modify_typeName
      dsimp only
      rw [ih (by rwa [keys_modify]) hnodup, hhints]
      show _ = Except.map _ (grown.claimEach (rest.map cache.hint) >>= fun names => Except.ok (name :: names))
      cases hnames : grown.claimEach (rest.map cache.hint) with
      | error e => rfl
      | ok names =>
        have hunlisted : (rest.zip names).lookup url = none := by
          rw [List.lookup_eq_none_iff]
          intro entry hentry
          rw [bne_iff_ne]
          rintro rfl
          exact hnew (List.of_mem_zip hentry).1
        exact congrArg Except.ok (withNames_modify hurl hunlisted)

theorem assignTypeNames_eq (cache : SchemaCache) :
    cache.assignTypeNames = (NameScope.empty.claimEach (cache.sortedUrls.map cache.hint)).map fun names =>
      cache.withNames (cache.sortedUrls.zip names) :=
  nameEach_eq cache.sortedUrls_perm.subset cache.nodup_sortedUrls

/-! ## Caches that differ in names only -/

theorem exists_lookup_zip {urls names : List String} (hlength : urls.length = names.length) (hurl : url ∈ urls) :
    ∃ name, (urls.zip names).lookup url = some name := by
  rw [← Option.isSome_iff_exists, ← Option.ne_none_iff_isSome, Ne, List.lookup_eq_none_iff]
  intro hnone
  rw [← List.map_fst_zip (Nat.le_of_eq hlength)] at hurl
  obtain ⟨entry, hentry, rfl⟩ := List.mem_map.1 hurl
  exact absurd (hnone entry hentry) (by simp)

theorem withNames_withoutNames (h : ∀ url ∈ cache.keys, ∃ name, names.lookup url = some name) :
    cache.withoutNames.withNames names = cache.withNames names := by
  refine ext_records ?_
  rw [withNames, withNames, withoutNames, records_mapNames, records_mapNames, records_mapNames, List.map_map]
  refine List.map_congr_left fun record hrecord => ?_
  obtain ⟨name, hname⟩ := h record.key (key_mem_keys hrecord)
  have hname' : names.lookup (renamed record none).key = some name := hname
  rw [Function.comp_apply, hname, hname']
  rfl

theorem assignTypeNames_withoutNames : cache.withoutNames.assignTypeNames = cache.assignTypeNames := by
  have hurls : cache.withoutNames.sortedUrls = cache.sortedUrls := by
    rw [sortedUrls, sortedUrls, withoutNames, keys_mapNames]
  have hhint : cache.withoutNames.hint = cache.hint := hint_mapNames _
  rw [assignTypeNames_eq, assignTypeNames_eq, hurls, hhint]
  cases hnames : NameScope.empty.claimEach (cache.sortedUrls.map cache.hint) with
  | error e => rfl
  | ok names =>
    have hlength : cache.sortedUrls.length = names.length := by
      rw [← NameScope.length_of_claimEach hnames, List.length_map]
    exact congrArg Except.ok (withNames_withoutNames fun url hurl =>
      exists_lookup_zip hlength (mem_sortedUrls.2 hurl))

theorem assignTypeNames_congr (h : cache.withoutNames = other.withoutNames) :
    cache.assignTypeNames = other.assignTypeNames := by
  rw [← assignTypeNames_withoutNames, h, assignTypeNames_withoutNames]

theorem withoutNames_of_assignTypeNames {named : SchemaCache} (h : cache.assignTypeNames = .ok named) :
    named.withoutNames = cache.withoutNames := by
  rw [assignTypeNames_eq] at h
  cases hnames : NameScope.empty.claimEach (cache.sortedUrls.map cache.hint) with
  | error e =>
    rw [hnames] at h
    cases h
  | ok names =>
    rw [hnames] at h
    cases h
    exact withoutNames_withNames

def insertEach (cache : SchemaCache) (records : List SchemaRecord) : Except LoadError SchemaCache :=
  records.foldlM insert cache

/-- Records that are inserted into two caches that differ in names only are accepted by both or rejected by both, and
the caches are then named alike. -/
theorem assignTypeNames_insertEach (h : cache.withoutNames = other.withoutNames) (records : List SchemaRecord) :
    (cache.insertEach records >>= assignTypeNames) = (other.insertEach records >>= assignTypeNames) := by
  induction records generalizing cache other with
  | nil => exact assignTypeNames_congr h
  | cons record records ih =>
    have hkeys : cache.keys = other.keys := by
      have hunnamed (cache : SchemaCache) : cache.withoutNames.keys = cache.keys := keys_mapNames _
      rw [← hunnamed cache, ← hunnamed other, h]
    rw [insertEach, insertEach, List.foldlM_cons, List.foldlM_cons]
    by_cases hknown : record.key ∈ cache.keys
    · have hrejected : cache.insert record = other.insert record := by
        rw [insert, insert, dif_pos hknown, dif_pos (hkeys ▸ hknown)]
      rw [hrejected]
    · obtain ⟨grown, hinsert, hrecords⟩ := insert_of_fresh hknown
      obtain ⟨grown', hinsert', hrecords'⟩ := insert_of_fresh (hkeys ▸ hknown)
      have hsame : grown.withoutNames = grown'.withoutNames := by
        refine ext_records ?_
        have hbefore : cache.withoutNames.records = other.withoutNames.records := congrArg SchemaCache.records h
        rw [withoutNames, withoutNames, records_mapNames, records_mapNames] at hbefore ⊢
        rw [hrecords, hrecords', List.map_cons, List.map_cons, hbefore]
      rw [hinsert, hinsert']
      exact ih hsame

/-! ## Caches that agree below a bound -/

/-- Below a bound, there are schemas for the same URLs, and they are named after the same texts. -/
structure AgreeBelow (bound : String) (cache other : SchemaCache) : Prop where
  keys : ∀ url < bound, url ∈ cache.keys ↔ url ∈ other.keys
  hints : ∀ url < bound, url ∈ cache.keys → cache.hint url = other.hint url

/-- The URLs below a bound, in ascending order. -/
def urlsBelow (cache : SchemaCache) (bound : String) : List String := cache.sortedUrls.filter (· < bound)

theorem mem_urlsBelow {bound : String} : url ∈ cache.urlsBelow bound ↔ url ∈ cache.keys ∧ url < bound := by
  rw [urlsBelow, List.mem_filter, mem_sortedUrls, decide_eq_true_iff]

theorem filter_prefix_of_ascending {urls : List String} (h : urls.Pairwise (· < ·)) (bound : String) :
    urls.filter (· < bound) <+: urls := by
  induction urls with
  | nil => exact List.nil_prefix
  | cons url urls ih =>
    obtain ⟨hfirst, hrest⟩ := List.pairwise_cons.1 h
    by_cases hbelow : url < bound
    · rw [List.filter_cons_of_pos (by simpa using hbelow)]
      exact (List.prefix_cons_inj url).2 (ih hrest)
    · have hnone : urls.filter (· < bound) = [] := by
        rw [List.filter_eq_nil_iff]
        intro other hother hless
        exact hbelow ((hfirst other hother).trans (by simpa using hless))
      rw [List.filter_cons_of_neg (by simpa using hbelow), hnone]
      exact List.nil_prefix

theorem AgreeBelow.urlsBelow_eq {bound : String} (h : AgreeBelow bound cache other) :
    cache.urlsBelow bound = other.urlsBelow bound := by
  have hascending (cache : SchemaCache) : (cache.urlsBelow bound).Pairwise (· < ·) :=
    cache.sortedUrls_ascending.filter _
  have hperm : (cache.urlsBelow bound).Perm (other.urlsBelow bound) := by
    refine (List.perm_ext_iff_of_nodup ((hascending cache).imp ne_of_lt) ((hascending other).imp ne_of_lt)).2 fun url => ?_
    rw [mem_urlsBelow, mem_urlsBelow]
    exact and_congr_left fun hbelow => h.keys url hbelow
  exact eq_of_ascending hperm (hascending cache) (hascending other)

/-- The schemas with the smallest URLs get the names that their texts are given in an empty scope. -/
theorem typeNames_of_prefix {named : SchemaCache} {urls : List String} (h : cache.assignTypeNames = .ok named)
    (hinitial : urls <+: cache.sortedUrls) :
    ∃ names, NameScope.empty.claimEach (urls.map cache.hint) = .ok names ∧ urls.map named.typeName? = names.map some := by
  obtain ⟨⟨names, hnames, htypes⟩, hhints, -⟩ :=
    claimEach_of_nameEach cache.sortedUrls_perm.subset cache.nodup_sortedUrls h
  obtain ⟨more, hmore⟩ := hinitial
  rw [← hmore, List.map_append] at hnames htypes
  obtain ⟨first, rest, hfirst, rfl⟩ := NameScope.claimEach_append hnames
  have hlength : (urls.map named.typeName?).length = (first.map some).length := by
    rw [List.length_map, List.length_map, ← NameScope.length_of_claimEach hfirst, List.length_map]
  rw [List.map_append] at htypes
  refine ⟨first, ?_, (List.append_inj htypes hlength).1⟩
  rwa [List.map_congr_left fun url _ => hhints url] at hfirst

theorem AgreeBelow.typeName?_eq {bound : String} {named named' : SchemaCache} (h : AgreeBelow bound cache other)
    (hnamed : cache.assignTypeNames = .ok named) (hnamed' : other.assignTypeNames = .ok named') (hurl : url ∈ cache.keys)
    (hbelow : url < bound) : ∃ name, named.typeName? url = some name ∧ named'.typeName? url = some name := by
  have hinitial (cache : SchemaCache) : cache.urlsBelow bound <+: cache.sortedUrls :=
    filter_prefix_of_ascending cache.sortedUrls_ascending bound
  obtain ⟨names, hnames, htypes⟩ := typeNames_of_prefix hnamed (hinitial cache)
  obtain ⟨names', hnames', htypes'⟩ := typeNames_of_prefix hnamed' (hinitial other)
  have htexts : (cache.urlsBelow bound).map cache.hint = (other.urlsBelow bound).map other.hint := by
    rw [← h.urlsBelow_eq]
    exact List.map_congr_left fun url hurl => h.hints url (mem_urlsBelow.1 hurl).2 (mem_urlsBelow.1 hurl).1
  rw [htexts, hnames'] at hnames
  cases hnames
  have hsame := List.map_inj_left.1 (htypes.trans (h.urlsBelow_eq ▸ htypes').symm) url (mem_urlsBelow.2 ⟨hurl, hbelow⟩)
  have hmem := List.mem_map_of_mem (f := named.typeName?) (mem_urlsBelow.2 ⟨hurl, hbelow⟩)
  rw [htypes] at hmem
  obtain ⟨name, -, hname⟩ := List.mem_map.1 hmem
  exact ⟨name, hname.symm, hsame ▸ hname.symm⟩

/-- **Names are stable.** Two caches that agree below a bound give the same names below it, whatever else they hold. Naming
a cache again changes nothing, and it makes no difference whether a cache is named before more schemas are inserted. -/
theorem assignTypeNames_stable {bound : String} (hsize : cache.size < 2 ^ 32) (hsize' : other.size < 2 ^ 32)
    (hbelow : AgreeBelow bound cache other) :
    ∃ named named', cache.assignTypeNames = .ok named ∧ other.assignTypeNames = .ok named' ∧
      (∀ url ∈ cache.keys, url < bound → ∃ name, named.typeName? url = some name ∧ named'.typeName? url = some name) ∧
      named.assignTypeNames = .ok named ∧
      ∀ records, (named.insertEach records >>= assignTypeNames) = (cache.insertEach records >>= assignTypeNames) := by
  obtain ⟨named, hnamed⟩ := assignTypeNames_ok_of_size hsize
  obtain ⟨named', hnamed'⟩ := assignTypeNames_ok_of_size hsize'
  have hsame : named.withoutNames = cache.withoutNames := withoutNames_of_assignTypeNames hnamed
  exact ⟨named, named', hnamed, hnamed', fun url hurl hurlBelow => hbelow.typeName?_eq hnamed hnamed' hurl hurlBelow,
    (assignTypeNames_congr hsame).trans hnamed, assignTypeNames_insertEach hsame⟩

/-- Two schemas whose texts make the same identifier, and a third one beyond them. -/
def three : SchemaCache where
  records :=
    [{ sourceUrl := "http://s/c.json#", root := { title := some "Task Item" } },
     { sourceUrl := "http://s/b.json", root := { title := some "task item" } },
     { sourceUrl := "http://s/a.json#", root := { title := some "Task  Item" } }]
  distinct := by decide

/-- The first two of the schemas, with other marks, names and descriptions, and two others beyond them. -/
def four : SchemaCache where
  records :=
    [{ sourceUrl := "http://s/a.json", root := { title := some "Task  Item", description := some "An item." } },
     { sourceUrl := "http://s/d.json#", root := { title := some "Task Item 1" } },
     { sourceUrl := "http://s/b.json#", root := { title := some "task item" }, isInput := true, typeName := some "Old" },
     { sourceUrl := "http://s/c/task-item.json#", root := {} }]
  distinct := by decide

theorem three_four_stable :
    three.size < 2 ^ 32 ∧ four.size < 2 ^ 32 ∧ AgreeBelow "http://s/c" three four ∧
      ∃ named named', three.assignTypeNames = .ok named ∧ four.assignTypeNames = .ok named' ∧
        (∀ url ∈ three.keys, url < "http://s/c" →
          ∃ name, named.typeName? url = some name ∧ named'.typeName? url = some name) ∧
        named.assignTypeNames = .ok named ∧
        ∀ records, (named.insertEach records >>= assignTypeNames) = (three.insertEach records >>= assignTypeNames) := by
  have hforth : ∀ url ∈ three.keys, url < "http://s/c" → url ∈ four.keys ∧ three.hint url = four.hint url := by decide
  have hback : ∀ url ∈ four.keys, url < "http://s/c" → url ∈ three.keys := by decide
  have hbelow : AgreeBelow "http://s/c" three four :=
    ⟨fun url hbelow => ⟨fun hurl => (hforth url hurl hbelow).1, fun hurl => hback url hurl hbelow⟩,
      fun url hbelow hurl => (hforth url hurl hbelow).2⟩
  exact ⟨by decide, by decide, hbelow, assignTypeNames_stable (by decide) (by decide) hbelow⟩

end SchemaCache

end ApiCatalog
