import ApiCatalog.Proofs.Schema.Records
import Mathlib.Data.List.Induction

/-!
# Histories of insertions

What a cache holds after any records were inserted into an empty one, in any order and however their URLs are spelled: under
each canonical URL the first record that was inserted for it (`history_exact`). An insertion is rejected when an earlier one
had the same canonical URL, and then nothing changes; all others are accepted.

One more insertion adds its record, or adds nothing (`Keeps.offer`), and the first record for a URL in a longer history is
the first one in the shorter history, if there is one there (`find?_append_singleton`). The rest is about the cache alone:
it has as many records as were accepted, with different canonical URLs.
-/

namespace ApiCatalog.SchemaCache

/-! ## Calls -/

abbrev Insertion := SchemaRecord × Except LoadError Unit

/-- Inserts a record. A cache that rejects it stays as it is. -/
def offer (record : SchemaRecord) : StateM SchemaCache (Except LoadError Unit) := fun cache =>
  match cache.insert record with
  | .ok grown => (.ok (), grown)
  | .error e => (.error e, cache)

def offerAll (records : List SchemaRecord) : StateM SchemaCache (List Insertion) :=
  records.mapM fun record => return (record, ← offer record)

def history (records : List SchemaRecord) : List Insertion × SchemaCache := (offerAll records).run empty

def accepted (calls : List Insertion) : List SchemaRecord := (calls.filter (·.2.isOk)).map Prod.fst

section Calls
variable {cache : SchemaCache} {record : SchemaRecord} {calls : List Insertion} {e : LoadError}

theorem offer_of_known (h : record.key ∈ cache.keys) :
    (offer record).run cache = (.error (.general ("Schema '" ++ record.key ++ "' registered twice")), cache) := by
  have hinsert : cache.insert record = .error (.general ("Schema '" ++ record.key ++ "' registered twice")) := dif_pos h
  show offer record cache = _
  rw [offer, hinsert]

theorem offer_of_new (h : record.key ∉ cache.keys) :
    ∃ grown, (offer record).run cache = (.ok (), grown) ∧ grown.records = record :: cache.records := by
  obtain ⟨grown, hinsert, hrecords⟩ := insert_of_fresh h
  refine ⟨grown, ?_, hrecords⟩
  show offer record cache = _
  rw [offer, hinsert]

theorem offer_error_iff : (∃ e, ((offer record).run cache).1 = .error e) ↔ record.key ∈ cache.keys := by
  by_cases hknown : record.key ∈ cache.keys
  · rw [offer_of_known hknown]
    exact iff_of_true ⟨_, rfl⟩ hknown
  · obtain ⟨grown, hrun, -⟩ := offer_of_new hknown
    rw [hrun]
    exact iff_of_false (by rintro ⟨e, ⟨⟩⟩) hknown

theorem accepted_append_ok : accepted (calls ++ [(record, .ok ())]) = accepted calls ++ [record] := by
  simp [accepted, Except.isOk, Except.toBool]

theorem accepted_append_error : accepted (calls ++ [(record, .error e)]) = accepted calls := by
  simp [accepted, Except.isOk, Except.toBool]

end Calls

/-! ## Longer histories -/

theorem run_offerAll_cons (record : SchemaRecord) (rest : List SchemaRecord) (cache : SchemaCache) :
    (offerAll (record :: rest)).run cache =
      ((record, ((offer record).run cache).1) :: ((offerAll rest).run ((offer record).run cache).2).1,
        ((offerAll rest).run ((offer record).run cache).2).2) := by
  rw [offerAll, List.mapM_cons]
  rfl

theorem run_offerAll_append (records later : List SchemaRecord) (cache : SchemaCache) :
    (offerAll (records ++ later)).run cache =
      (((offerAll records).run cache).1 ++ ((offerAll later).run ((offerAll records).run cache).2).1,
        ((offerAll later).run ((offerAll records).run cache).2).2) := by
  rw [offerAll, List.mapM_append]
  rfl

theorem map_fst_offerAll (records : List SchemaRecord) (cache : SchemaCache) :
    ((offerAll records).run cache).1.map Prod.fst = records := by
  induction records generalizing cache with
  | nil => rfl
  | cons record rest ih => rw [run_offerAll_cons, List.map_cons, ih]

theorem history_append_singleton (records : List SchemaRecord) (record : SchemaRecord) :
    history (records ++ [record]) =
      ((history records).1 ++ [(record, ((offer record).run (history records).2).1)],
        ((offer record).run (history records).2).2) := by
  rw [history, run_offerAll_append, run_offerAll_cons]
  rfl

theorem call_of_history {records : List SchemaRecord} {before after : List Insertion} {record : SchemaRecord}
    {result : Except LoadError Unit} (h : (history records).1 = before ++ (record, result) :: after) :
    (history (before.map Prod.fst)).1 = before ∧
      ((offer record).run (history (before.map Prod.fst)).2).1 = result := by
  have hrecords : (history records).1.map Prod.fst = records := map_fst_offerAll records empty
  rw [h, List.map_append, List.map_cons] at hrecords
  rw [← hrecords, history, run_offerAll_append, run_offerAll_cons] at h
  have hlength : ((offerAll (before.map Prod.fst)).run empty).1.length = before.length := by
    rw [← List.length_map (f := Prod.fst), map_fst_offerAll, List.length_map]
  obtain ⟨hbefore, hcall⟩ := List.append_inj h hlength
  exact ⟨hbefore, (Prod.mk.inj (List.cons.inj hcall).1).2⟩

/-! ## What a cache keeps -/

theorem find?_append_singleton (records : List SchemaRecord) (record : SchemaRecord) (url : String) :
    (records ++ [record]).find? (·.key == url) =
      (records.find? (·.key == url)).or (if record.key = url then some record else none) := by
  rw [List.find?_append, List.find?_singleton]
  simp

/-- The cache holds the first record for each canonical URL, and so the records that were accepted, the latest first. -/
structure Keeps (calls : List Insertion) (cache : SchemaCache) : Prop where
  first : ∀ url, cache.get? url = (calls.map Prod.fst).find? (·.key == canonicalUrl url)
  records : cache.records = (accepted calls).reverse

namespace Keeps
variable {cache : SchemaCache} {calls : List Insertion}

theorem mem_keys (h : Keeps calls cache) (record : SchemaRecord) :
    record.key ∈ cache.keys ↔ ∃ earlier ∈ calls, earlier.1.key = record.key := by
  have hcanonical : canonicalUrl record.key = record.key := canonicalUrl_canonicalUrl _
  have hmissing : cache.get? record.key = none ↔ canonicalUrl record.key ∉ cache.keys := get?_eq_none
  rw [h.first, List.find?_eq_none, hcanonical] at hmissing
  rw [← not_iff_not, ← hmissing]
  simp

theorem offer (h : Keeps calls cache) (record : SchemaRecord) :
    Keeps (calls ++ [(record, ((offer record).run cache).1)]) ((offer record).run cache).2 := by
  by_cases hknown : record.key ∈ cache.keys
  · rw [offer_of_known hknown]
    refine ⟨fun url => ?_, h.records.trans (congrArg List.reverse accepted_append_error.symm)⟩
    rw [List.map_append, List.map_singleton, find?_append_singleton, ← h.first]
    split
    · next hkey =>
      -- an earlier record is found for the URL, so the new one does not count
      obtain ⟨earlier, hearlier, -⟩ := exists_get? hknown
      rw [hkey, get?_canonicalUrl] at hearlier
      rw [hearlier, Option.some_or]
    · exact Option.or_none.symm
  · obtain ⟨grown, hrun, hrecords⟩ := offer_of_new hknown
    rw [hrun]
    refine ⟨fun url => ?_, ?_⟩
    · rw [List.map_append, List.map_singleton, find?_append_singleton, ← h.first, get?_of_records_cons hrecords]
      split
      · next hkey => rw [get?_eq_none.2 (hkey ▸ hknown), Option.none_or]
      · exact Option.or_none.symm
    · rw [hrecords, h.records, accepted_append_ok, List.reverse_append]
      rfl

theorem size_eq (h : Keeps calls cache) : cache.size = (accepted calls).length := by
  rw [size, h.records, List.length_reverse]

theorem sortedUrls_perm (h : Keeps calls cache) : cache.sortedUrls.Perm ((accepted calls).map SchemaRecord.key) := by
  refine cache.sortedUrls_perm.trans ?_
  rw [keys, h.records]
  exact (List.reverse_perm _).map _

end Keeps

theorem keeps_history (records : List SchemaRecord) : Keeps (history records).1 (history records).2 := by
  induction records using List.reverseRecOn with
  | nil => exact ⟨fun _ => rfl, rfl⟩
  | append_singleton records record ih =>
    rw [history_append_singleton]
    exact ih.offer record

theorem rejects_of_history {records : List SchemaRecord} {before after : List Insertion} {record : SchemaRecord}
    {result : Except LoadError Unit} (h : (history records).1 = before ++ (record, result) :: after) :
    ((∃ e, result = .error e) ↔ ∃ earlier ∈ before, earlier.1.key = record.key) ∧
      ∀ e, result = .error e → e = .general ("Schema '" ++ record.key ++ "' registered twice") ∧
        (history (before.map Prod.fst ++ [record])).2 = (history (before.map Prod.fst)).2 := by
  obtain ⟨hbefore, rfl⟩ := call_of_history h
  refine ⟨?_, fun e he => ?_⟩
  · rw [offer_error_iff, (keeps_history _).mem_keys, hbefore]
  · have hknown := offer_error_iff.1 ⟨e, he⟩
    rw [history_append_singleton, offer_of_known hknown]
    rw [offer_of_known hknown] at he
    exact ⟨(Except.error.inj he).symm, rfl⟩

/-- **The first record wins.** Under each canonical URL a cache holds the first of the records that were inserted for it. An
insertion is rejected when an earlier one had the same canonical URL, and changes nothing then. A URL and its canonical form
find the same, in a lookup and in a change of the record. There are as many records as were accepted, and the URLs are those
of the accepted records in strictly ascending order, each with the marker at its end. -/
theorem history_exact (records : List SchemaRecord) :
    ∃ calls cache, history records = (calls, cache) ∧ calls.map Prod.fst = records ∧
      (∀ url, cache.get? url = records.find? (·.key == canonicalUrl url)) ∧
      (∀ before record result after, calls = before ++ (record, result) :: after →
        ((∃ e, result = .error e) ↔ ∃ earlier ∈ before, earlier.1.key = record.key) ∧
          ∀ e, result = .error e → e = .general ("Schema '" ++ record.key ++ "' registered twice") ∧
            (history (before.map Prod.fst ++ [record])).2 = (history (before.map Prod.fst)).2) ∧
      (∀ url, cache.get? (canonicalUrl url) = cache.get? url ∧ cache.contains url = (cache.get? url).isSome ∧
        ∀ f, cache.modify (canonicalUrl url) f = cache.modify url f ∧
          (cache.modify url f).get? url = (cache.get? url).map (changed f)) ∧
      cache.size = (accepted calls).length ∧
      cache.sortedUrls.Pairwise (· < ·) ∧ cache.sortedUrls.Perm ((accepted calls).map SchemaRecord.key) ∧
      ∀ url ∈ cache.sortedUrls, url.toList.getLast? = some fragmentMarker := by
  have hkeeps := keeps_history records
  have hrecords : (history records).1.map Prod.fst = records := map_fst_offerAll records empty
  refine ⟨(history records).1, (history records).2, rfl, hrecords, fun url => ?first, fun _ _ _ _ => rejects_of_history,
    fun url => ⟨get?_canonicalUrl _ url, rfl, fun f => ⟨?spelling, ?change⟩⟩, hkeeps.size_eq, sortedUrls_ascending _,
    hkeeps.sortedUrls_perm, fun url hurl => ?marked⟩
  case first => rw [hkeeps.first, hrecords]
  case spelling => exact modify_congr (canonicalUrl_canonicalUrl url) fun _ _ _ => rfl
  case change => rw [get?_modify, if_pos rfl]
  case marked =>
    rw [← canonicalUrl_of_mem_keys (mem_sortedUrls.1 hurl)]
    exact getLast?_canonicalUrl url

/-- A record is rejected for the URL of one that was inserted before it, whether or not the marker is there. -/
example :
    let record (url : String) : SchemaRecord := { sourceUrl := url, root := {} }
    let (calls, cache) := history [record "http://x/a.json#", record "http://x/a.json", record "http://x/b.json"]
    calls.map (·.2.isOk) = [true, false, true] ∧ cache.size = 2 ∧
      (cache.get? "http://x/a.json").map (·.sourceUrl) = some "http://x/a.json#" := by
  decide

end ApiCatalog.SchemaCache
