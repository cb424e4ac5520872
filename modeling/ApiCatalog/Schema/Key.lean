import ApiCatalog.Location

/-!
# Schema keys

A URL without a pointer fragment names a schema, with or without the marker at its end. Its key is the location
of the document; the canonical URL is that location with the marker behind it. Keys and canonical URLs
correspond one to one, so asking for every key once is asking for every document once.
-/

namespace ApiCatalog

/-- What a schema is fetched by: a location without a marker. -/
structure SchemaKey where
  location : String
  unmarked : fragmentMarker ∉ location.toList
  deriving DecidableEq, Repr

namespace SchemaKey

instance : Inhabited SchemaKey := ⟨"", by simp⟩

/-- The canonical URL of the schema. -/
def url (key : SchemaKey) : String := key.location.push fragmentMarker

/-- The key that a URL stands for, unless it points into a document. -/
def ofUrl? (url : String) : Option SchemaKey :=
  if hasPointerFragment url then none
  else some ⟨documentLocation url, marker_not_mem_documentLocation url⟩

theorem toList_url (key : SchemaKey) : key.url.toList = key.location.toList ++ [fragmentMarker] := by
  simp [url]

theorem url_injective {a b : SchemaKey} (h : a.url = b.url) : a = b := by
  have : a.location = b.location := by
    apply String.toList_inj.1
    have := congrArg String.toList h
    rw [toList_url, toList_url] at this
    exact List.append_cancel_right this
  cases a; cases b; simp_all

@[simp] theorem canonicalUrl_url (key : SchemaKey) : canonicalUrl key.url = key.url := by
  simp [canonicalUrl, toList_url]

@[simp] theorem canonicalUrl_location (key : SchemaKey) : canonicalUrl key.location = key.url := by
  unfold canonicalUrl
  rw [if_neg]
  · rfl
  · intro h
    exact key.unmarked (List.mem_of_getLast? h)

theorem url_of_ofUrl? {url : String} {key : SchemaKey} (h : ofUrl? url = some key) :
    key.url = canonicalUrl url := by
  unfold ofUrl? at h
  split at h
  · cases h
  · next plain =>
    cases h
    exact (canonicalUrl_of_hasPointerFragment_eq_false (by simpa using plain)).symm

end SchemaKey

end ApiCatalog
