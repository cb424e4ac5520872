import ApiCatalog.Error
import ApiCatalog.Schema.Record

/-!
# Schema caches

A cache holds one record for every schema of a load. Records are looked up by canonical URL, so a URL finds its
record with or without the marker at its end. A record never leaves a cache, nor does it change its URL.
-/

namespace ApiCatalog

/-- Records with different canonical URLs, the latest first. -/
structure SchemaCache where
  records : List SchemaRecord := []
  distinct : (records.map SchemaRecord.key).Nodup := by exact List.nodup_nil

namespace SchemaCache

instance : Inhabited SchemaCache := ⟨{}⟩

def empty : SchemaCache := {}

/-- The canonical URLs of the records. -/
def keys (cache : SchemaCache) : List String := cache.records.map SchemaRecord.key

def get? (cache : SchemaCache) (url : String) : Option SchemaRecord :=
  cache.records.find? (·.key == canonicalUrl url)

def contains (cache : SchemaCache) (url : String) : Bool := (cache.get? url).isSome

def size (cache : SchemaCache) : Nat := cache.records.length

def isEmpty (cache : SchemaCache) : Bool := cache.records.isEmpty

/-- Adds a record, unless there is one for its URL. -/
def insert (cache : SchemaCache) (record : SchemaRecord) : Except LoadError SchemaCache :=
  if fresh : record.key ∈ cache.keys then
    .error (.general ("Schema '" ++ record.key ++ "' registered twice"))
  else
    .ok ⟨record :: cache.records, by simpa [List.nodup_cons, keys] using And.intro fresh cache.distinct⟩

theorem contains_iff {cache : SchemaCache} {url : String} :
    cache.contains url = true ↔ canonicalUrl url ∈ cache.keys := by
  simp [contains, get?, keys, List.find?_isSome, List.mem_map]

theorem keys_of_insert {cache grown : SchemaCache} {record : SchemaRecord}
    (h : cache.insert record = .ok grown) :
    grown.keys = record.key :: cache.keys ∧ record.key ∉ cache.keys := by
  unfold insert at h
  split at h
  · cases h
  · next fresh =>
    cases h
    exact ⟨rfl, fresh⟩

def changed (f : SchemaRecord → SchemaRecord) (record : SchemaRecord) : SchemaRecord :=
  { f record with sourceUrl := record.sourceUrl }

/-- Changes the record for a URL, if there is one, in all but its URL. -/
def modify (cache : SchemaCache) (url : String) (f : SchemaRecord → SchemaRecord) : SchemaCache where
  records := cache.records.map fun record => if record.key == canonicalUrl url then changed f record else record
  distinct := by
    have keep : (cache.records.map fun record =>
        if record.key == canonicalUrl url then changed f record else record).map SchemaRecord.key =
        cache.records.map SchemaRecord.key := by
      rw [List.map_map]
      apply List.map_congr_left
      intro record _
      simp only [Function.comp]
      split <;> rfl
    rw [keep]
    exact cache.distinct

def sortedUrls (cache : SchemaCache) : List String := cache.keys.mergeSort

/-- The records in ascending order of the URLs they were fetched for. -/
def sortedRecords (cache : SchemaCache) : List SchemaRecord :=
  cache.records.mergeSort fun a b => a.sourceUrl ≤ b.sourceUrl

/-- The name of the type for a URL, once names have been given. -/
def typeName? (cache : SchemaCache) (url : String) : Option String := (cache.get? url).bind (·.typeName)

end SchemaCache

end ApiCatalog
