/-!
# Schema URLs and document locations

A schema is looked up by its *canonical URL*, which ends with the fragment marker `#`, and fetched from its
*document location*, the part of the URL before the first marker. A URL with text behind that marker points
into a document; such URLs name no schema of their own.
-/

namespace ApiCatalog

/-- The character that starts the fragment of a URL and ends every canonical one. -/
def fragmentMarker : Char := '#'

/-- A schema URL with the marker at its end. -/
def canonicalUrl (url : String) : String :=
  if url.toList.getLast? = some fragmentMarker then url else url.push fragmentMarker

@[simp] theorem canonicalUrl_canonicalUrl (url : String) : canonicalUrl (canonicalUrl url) = canonicalUrl url := by
  by_cases h : url.toList.getLast? = some fragmentMarker
  · have hsame : canonicalUrl url = url := if_pos h
    rw [hsame, hsame]
  · have hpush : canonicalUrl url = url.push fragmentMarker := if_neg h
    rw [hpush]
    exact if_pos (by simp)

/-- The part of a URL that can be fetched: all before the first marker. -/
def documentLocation (url : String) : String :=
  String.ofList (url.toList.takeWhile (· ≠ fragmentMarker))

/-- Whether a URL points into a document: text follows the first marker. -/
def hasPointerFragment (url : String) : Bool :=
  match url.toList.dropWhile (· ≠ fragmentMarker) with
  | [] => false
  | _ :: fragment => !fragment.isEmpty

theorem marker_not_mem_documentLocation (url : String) : fragmentMarker ∉ (documentLocation url).toList := by
  intro h
  have all := List.all_takeWhile (p := (· ≠ fragmentMarker)) (l := url.toList)
  simpa using List.all_eq_true.1 all fragmentMarker (by simpa [documentLocation] using h)

theorem toList_of_hasPointerFragment_eq_false {url : String} (h : hasPointerFragment url = false) :
    url.toList = (documentLocation url).toList ∨
      url.toList = (documentLocation url).toList ++ [fragmentMarker] := by
  have parts := List.takeWhile_append_dropWhile (p := (· ≠ fragmentMarker)) (l := url.toList)
  rw [documentLocation, String.toList_ofList]
  unfold hasPointerFragment at h
  cases rest : url.toList.dropWhile (· ≠ fragmentMarker) with
  | nil => exact .inl (by rw [rest, List.append_nil] at parts; exact parts.symm)
  | cons c fragment =>
    rw [rest] at h parts
    have marker : c = fragmentMarker := by
      have := List.head_dropWhile_not (p := (· ≠ fragmentMarker)) (l := url.toList) (by rw [rest]; simp)
      simp only [rest, List.head_cons] at this
      simpa using this
    have empty : fragment = [] := by simpa using h
    exact .inr (by rw [marker, empty] at parts; exact parts.symm)

theorem canonicalUrl_of_hasPointerFragment_eq_false {url : String} (h : hasPointerFragment url = false) :
    canonicalUrl url = (documentLocation url).push fragmentMarker := by
  apply String.toList_inj.1
  rw [String.toList_push]
  unfold canonicalUrl
  rcases toList_of_hasPointerFragment_eq_false h with bare | marked
  · have open_ : ¬ url.toList.getLast? = some fragmentMarker := fun last =>
      marker_not_mem_documentLocation url (bare ▸ List.mem_of_getLast? last)
    rw [if_neg open_, String.toList_push, ← bare]
  · rw [if_pos (by rw [marked]; simp), marked]

end ApiCatalog
