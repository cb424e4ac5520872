import ApiCatalog.Proofs.Schema.Records
import Mathlib.Data.List.Basic

/-!
# Records in the order of their URLs

A cache lists its URLs in ascending order, and its records. The URLs are canonical, while a record is put in its place by
the URL that it was inserted with, which may lack the marker at its end. The marker sorts behind some characters, such as
the exclamation mark: `a` comes before `a!`, but `a#` behind `a!#`.

This is the only way in which the two orders differ (`canonicalUrl_lt`, `Undercuts.canonicalUrl_lt`): the orders of two
URLs and of their canonical forms are decided at the same place, unless the smaller one lacks the marker and the greater
one goes on behind it. So the lists agree place by place just when no URL of a record undercuts another
(`sortedRecords_eq_lookups_iff`), in particular when all of them are canonical.
-/

namespace ApiCatalog

/-! ## URLs and their canonical forms -/

/-- The first URL is the other one, which lacks the marker, and more, starting with a character that sorts before the
marker. -/
def Undercuts (longer url : String) : Prop :=
  url.toList.getLast? ≠ some fragmentMarker ∧
    ∃ c rest, longer.toList = url.toList ++ c :: rest ∧ c < fragmentMarker

theorem exists_toList_canonicalUrl (url : String) : ∃ marker, (canonicalUrl url).toList = url.toList ++ marker := by
  unfold canonicalUrl
  split
  · exact ⟨[], (List.append_nil _).symm⟩
  · exact ⟨[fragmentMarker], String.toList_push _⟩

/-- The order of two texts is decided at the first character that differs, or else the greater one goes on behind the
smaller. -/
theorem exists_of_lt {chars others : List Char} (h : chars < others) :
    (∃ c rest, others = chars ++ c :: rest) ∨
      ∃ start c d rest rest', chars = start ++ c :: rest ∧ others = start ++ d :: rest' ∧ c < d := by
  induction chars generalizing others with
  | nil =>
    cases others with
    | nil => exact absurd h (List.not_lt_nil _)
    | cons c rest => exact .inl ⟨c, rest, rfl⟩
  | cons a chars ih =>
    cases others with
    | nil => exact absurd h (List.not_lt_nil _)
    | cons b others =>
      rcases List.cons_lt_cons_iff.1 h with hless | ⟨rfl, hless⟩
      · exact .inr ⟨[], a, b, chars, others, rfl, rfl, hless⟩
      · rcases ih hless with ⟨c, rest, rfl⟩ | ⟨start, c, d, rest, rest', rfl, rfl, hcd⟩
        · exact .inl ⟨c, rest, rfl⟩
        · exact .inr ⟨a :: start, c, d, rest, rest', rfl, rfl, hcd⟩

theorem append_cons_lt {start rest rest' : List Char} {c d : Char} (h : c < d) : start ++ c :: rest < start ++ d :: rest' :=
  List.append_left_lt (List.cons_lt_cons_iff.2 (.inl h))

theorem lt_append_cons (start : List Char) (c : Char) (rest : List Char) : start < start ++ c :: rest := by
  have hless : start ++ [] < start ++ c :: rest := List.append_left_lt (List.nil_lt_cons c rest)
  rwa [List.append_nil] at hless

theorem Undercuts.canonicalUrl_lt {longer url : String} (h : Undercuts longer url) :
    url < longer ∧ canonicalUrl longer < canonicalUrl url := by
  obtain ⟨hunmarked, c, rest, hlonger, hc⟩ := h
  obtain ⟨marker, hcanonical⟩ := exists_toList_canonicalUrl longer
  rw [String.lt_iff_toList_lt, String.lt_iff_toList_lt, hcanonical, canonicalUrl, if_neg hunmarked, String.toList_push,
    hlonger, List.append_assoc]
  exact ⟨lt_append_cons _ _ _, append_cons_lt hc⟩

theorem canonicalUrl_lt_of_differ {url other : String} {start rest rest' : List Char} {c d : Char}
    (hurl : url.toList = start ++ c :: rest) (hother : other.toList = start ++ d :: rest') (h : c < d) :
    canonicalUrl url < canonicalUrl other := by
  obtain ⟨marker, hcanonical⟩ := exists_toList_canonicalUrl url
  obtain ⟨marker', hcanonical'⟩ := exists_toList_canonicalUrl other
  rw [String.lt_iff_toList_lt, hcanonical, hcanonical', hurl, hother, List.append_assoc, List.append_assoc]
  exact append_cons_lt h

theorem canonicalUrl_lt_of_marked {url longer : String} {c : Char} {rest : List Char}
    (hlonger : longer.toList = url.toList ++ c :: rest) (hmarked : url.toList.getLast? = some fragmentMarker) :
    canonicalUrl url < canonicalUrl longer := by
  obtain ⟨marker, hcanonical⟩ := exists_toList_canonicalUrl longer
  rw [String.lt_iff_toList_lt, hcanonical, hlonger, List.append_assoc, canonicalUrl, if_pos hmarked]
  exact lt_append_cons _ _ _

theorem canonicalUrl_lt_of_unmarked {url longer : String} {c : Char} {rest : List Char}
    (hlonger : longer.toList = url.toList ++ c :: rest) (hunmarked : url.toList.getLast? ≠ some fragmentMarker)
    (hdifferent : canonicalUrl url ≠ canonicalUrl longer) (hc : fragmentMarker ≤ c) :
    canonicalUrl url < canonicalUrl longer := by
  have hurl : (canonicalUrl url).toList = url.toList ++ [fragmentMarker] := by
    rw [canonicalUrl, if_neg hunmarked, String.toList_push]
  obtain ⟨marker, hcanonical⟩ := exists_toList_canonicalUrl longer
  rw [hlonger, List.append_assoc, List.cons_append] at hcanonical
  rw [String.lt_iff_toList_lt, hurl, hcanonical]
  rcases hc.lt_or_eq with hbehind | rfl
  · exact append_cons_lt hbehind
  · -- the marker comes next in both, so there is more of the longer one
    have hmore : rest ++ marker ≠ [] := by
      intro hnone
      rw [hnone, ← hurl] at hcanonical
      exact hdifferent (String.toList_inj.1 hcanonical.symm)
    obtain ⟨d, more, hcons⟩ := List.exists_cons_of_ne_nil hmore
    rw [hcons]
    exact List.append_left_lt (List.cons_lt_cons_iff.2 (.inr ⟨rfl, List.nil_lt_cons d more⟩))

/-- Nothing but an undercut turns the order around. -/
theorem canonicalUrl_lt {url other : String} (h : url < other) (hdifferent : canonicalUrl url ≠ canonicalUrl other)
    (hundercuts : ¬ Undercuts other url) : canonicalUrl url < canonicalUrl other := by
  rcases exists_of_lt (String.lt_iff_toList_lt.1 h) with ⟨c, rest, hother⟩ | ⟨start, c, d, rest, rest', hurl, hother, hcd⟩
  · by_cases hmarked : url.toList.getLast? = some fragmentMarker
    · exact canonicalUrl_lt_of_marked hother hmarked
    · have hc : fragmentMarker ≤ c := by
        by_contra hbefore
        exact hundercuts ⟨hmarked, c, rest, hother, not_le.1 hbefore⟩
      exact canonicalUrl_lt_of_unmarked hother hmarked hdifferent hc
  · exact canonicalUrl_lt_of_differ hurl hother hcd

/-! ## The two lists -/

namespace SchemaCache
variable {cache : SchemaCache}

theorem sourceUrl_le_iff_key_le
    (h : ∀ record ∈ cache.records, ∀ other ∈ cache.records, ¬ Undercuts other.sourceUrl record.sourceUrl)
    {record other : SchemaRecord} (hrecord : record ∈ cache.records) (hother : other ∈ cache.records) :
    record.sourceUrl ≤ other.sourceUrl ↔ record.key ≤ other.key := by
  have hkeys {record other : SchemaRecord} (hrecord : record ∈ cache.records) (hother : other ∈ cache.records)
      (hless : record.sourceUrl < other.sourceUrl) : record.key < other.key := by
    refine canonicalUrl_lt hless (fun hkey => ?_) (h record hrecord other hother)
    rw [eq_of_key_eq hrecord hother hkey] at hless
    exact lt_irrefl _ hless
  rcases lt_trichotomy record.sourceUrl other.sourceUrl with hless | hsame | hgreater
  · exact iff_of_true hless.le (hkeys hrecord hother hless).le
  · have hkey : record.key = other.key := congrArg canonicalUrl hsame
    exact iff_of_true hsame.le hkey.le
  · exact iff_of_false hgreater.not_ge (hkeys hother hrecord hgreater).not_ge

theorem sortedRecords_eq_lookups (hkeys : cache.sortedRecords.map SchemaRecord.key = cache.sortedUrls) :
    cache.sortedRecords.map some = cache.sortedUrls.map cache.get? := by
  rw [← hkeys, List.map_map]
  refine List.map_congr_left fun record hrecord => ?_
  exact (get?_key (List.mem_mergeSort.1 hrecord)).symm

theorem key_of_sortedRecords_eq_lookups (h : cache.sortedRecords.map some = cache.sortedUrls.map cache.get?) :
    cache.sortedRecords.map SchemaRecord.key = cache.sortedUrls := by
  have hfound : (cache.sortedUrls.map cache.get?).map (Option.map SchemaRecord.key) = cache.sortedUrls.map some := by
    rw [List.map_map]
    refine List.map_congr_left fun url hurl => ?_
    obtain ⟨record, hfound, hkey⟩ := exists_get? (mem_sortedUrls.1 hurl)
    rw [Function.comp_apply, hfound, Option.map_some, hkey]
  rw [← h, List.map_map] at hfound
  have hsome : Function.Injective (List.map (some : String → Option String)) :=
    List.map_injective_iff.2 fun _ _ => Option.some.inj
  exact hsome (by rw [List.map_map]; exact hfound)

theorem key_lt_of_agree (h : cache.sortedRecords.map some = cache.sortedUrls.map cache.get?) {record other : SchemaRecord}
    (hrecord : record ∈ cache.records) (hother : other ∈ cache.records) (hless : record.sourceUrl < other.sourceUrl) :
    record.key < other.key := by
  have hkeys : cache.sortedRecords.Pairwise fun a b => a.key < b.key := by
    rw [← List.pairwise_map (R := (· < ·)), key_of_sortedRecords_eq_lookups h]
    exact cache.sortedUrls_ascending
  -- of two records, either the first one has the smaller key, or the second one has not the smaller URL
  have hforth : cache.sortedRecords.Pairwise fun a b => a.sourceUrl < b.sourceUrl → a.key < b.key :=
    hkeys.imp fun {a b} hkey (_ : a.sourceUrl < b.sourceUrl) => hkey
  have hback : cache.sortedRecords.Pairwise (flip fun a b => a.sourceUrl < b.sourceUrl → a.key < b.key) :=
    (ascending_mergeSort SchemaRecord.sourceUrl cache.records).imp fun hle hlt => absurd hlt hle.not_gt
  exact hforth.forall_of_forall_of_flip (fun a _ hself => absurd hself (lt_irrefl _)) hback
    (List.mem_mergeSort.2 hrecord) (List.mem_mergeSort.2 hother) hless

/-- **The two lists agree** place by place just when no URL of a record undercuts another. -/
theorem sortedRecords_eq_lookups_iff (cache : SchemaCache) :
    cache.sortedRecords.map some = cache.sortedUrls.map cache.get? ↔
      ∀ record ∈ cache.records, ∀ other ∈ cache.records, ¬ Undercuts other.sourceUrl record.sourceUrl := by
  constructor
  · intro h record hrecord other hother hundercuts
    obtain ⟨hless, hgreater⟩ := hundercuts.canonicalUrl_lt
    exact absurd (key_lt_of_agree h hrecord hother hless) (lt_asymm hgreater)
  · intro h
    refine sortedRecords_eq_lookups (List.map_mergeSort fun record hrecord other hother => ?_)
    exact decide_eq_decide.2 (sourceUrl_le_iff_key_le h hrecord hother)

def unmarked : SchemaRecord := { sourceUrl := "http://s/a", root := {} }

/-- A schema whose URL goes on with a character that sorts before the marker. -/
def unmarkedLonger : SchemaRecord := { sourceUrl := "http://s/a!", root := {} }

/-- The exclamation mark sorts before the marker, but not before the end of a URL. -/
theorem unmarked_disagree :
    ∃ cache, [unmarked, unmarkedLonger].foldlM insert empty = .ok cache ∧
      cache.sortedRecords.map SchemaRecord.sourceUrl = ["http://s/a", "http://s/a!"] ∧
      cache.sortedUrls = ["http://s/a!#", "http://s/a#"] ∧
      cache.sortedRecords.map some ≠ cache.sortedUrls.map cache.get? := by
  refine ⟨⟨[unmarkedLonger, unmarked], by decide⟩, rfl, ?_, ?_, fun hagree => ?_⟩
  · simp [sortedRecords, unmarked, unmarkedLonger, List.mergeSort]
  · have hkeys : [unmarkedLonger, unmarked].map SchemaRecord.key = ["http://s/a!#", "http://s/a#"] := by decide
    rw [sortedUrls, keys, hkeys]
    simp [List.mergeSort]
  · have hshorter : unmarked ∈ [unmarkedLonger, unmarked] := by simp
    have hlonger : unmarkedLonger ∈ [unmarkedLonger, unmarked] := by simp
    exact absurd (key_lt_of_agree hagree hshorter hlonger (by decide)) (by decide)

end SchemaCache

end ApiCatalog
