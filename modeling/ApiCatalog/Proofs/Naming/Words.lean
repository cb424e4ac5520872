import ApiCatalog.Proofs.Naming.Identifier
import Mathlib.Data.List.Basic

/-!
# Identifiers are made of words

An identifier shows the words of its text, and nothing of what stands between them.

* At a character that is neither a letter nor a digit, the scan starts anew: the pieces of a text with a separator in it
  are those in front of it, then those behind it (`pieces_append_cons`). Which separators stand there, and how many, does
  not matter (`identifier_separated`).
* Within a piece, a cut neither drops a character nor takes one twice: what has been read of a word and what is left of
  the piece are the words together (`flatten_cut`). So the words of a text are its letters and digits, in order
  (`flatten_words`), and up to their case an identifier spells them (`toLower_identifier`).
-/

namespace ApiCatalog.Naming
open Text

/-! ## Pieces and separators -/

theorem pieces_cons {c : Char} (hc : isAlphanumeric c = true) (text : List Char) :
    ∃ piece more, pieces text = piece :: more ∧ pieces (c :: text) = (c :: piece) :: more := by
  have hsome : pieces text ≠ [] := by
    cases text with
    | nil => exact List.cons_ne_nil _ _
    | cons d text =>
      rw [pieces]
      split
      · split <;> exact List.cons_ne_nil _ _
      · exact List.cons_ne_nil _ _
  obtain ⟨piece, more, hpieces⟩ := List.exists_cons_of_ne_nil hsome
  exact ⟨piece, more, hpieces, by rw [pieces, if_pos hc, hpieces]⟩

theorem pieces_cons_separator {c : Char} (hc : isAlphanumeric c = false) (text : List Char) :
    pieces (c :: text) = [] :: pieces text := by
  rw [pieces, if_neg (by simp [hc])]

/-- A separator ends the piece in front of it, and behind it the scan starts anew. -/
theorem pieces_append_cons {c : Char} (hc : isAlphanumeric c = false) (front back : List Char) :
    pieces (front ++ c :: back) = pieces front ++ pieces back := by
  induction front with
  | nil => exact pieces_cons_separator hc back
  | cons d front ih =>
    cases hd : isAlphanumeric d with
    | true =>
      obtain ⟨piece, more, hfront, hcons⟩ := pieces_cons hd front
      obtain ⟨piece', more', hwhole, hcons'⟩ := pieces_cons hd (front ++ c :: back)
      rw [ih, hfront] at hwhole
      cases hwhole
      rw [List.cons_append, hcons', hcons]
      rfl
    | false =>
      rw [List.cons_append, pieces_cons_separator hd, pieces_cons_separator hd, ih]
      rfl

theorem pascalCase_append_cons {c : Char} (hc : isAlphanumeric c = false) (front back : List Char) :
    pascalCase (front ++ c :: back) = pascalCase front ++ pascalCase back := by
  rw [pascalCase, words, pieces_append_cons hc, List.flatMap_append, List.flatMap_append]
  rfl

theorem pascalCase_separators_append {separators : List Char} (h : ∀ c ∈ separators, isAlphanumeric c = false)
    (text : List Char) : pascalCase (separators ++ text) = pascalCase text := by
  induction separators with
  | nil => rfl
  | cons c separators ih =>
    obtain ⟨hc, hothers⟩ := List.forall_mem_cons.1 h
    exact (pascalCase_append_cons hc [] _).trans (ih hothers)

/-- The text separates words: it is not empty, and has no letter or digit of any script. -/
structure IsSeparator (text : String) : Prop where
  nonempty : text ≠ ""
  plain : ∀ c ∈ text.toList, isAlphanumeric c = false

instance (text : String) : Decidable (IsSeparator text) :=
  decidable_of_iff (text ≠ "" ∧ (text.toList.all fun c => !isAlphanumeric c) = true)
    ⟨fun ⟨hnonempty, hplain⟩ => ⟨hnonempty, by simpa using hplain⟩, fun h => ⟨h.nonempty, by simpa using h.plain⟩⟩

theorem IsSeparator.pascalCase_append {separator : String} (h : IsSeparator separator) (front back : List Char) :
    pascalCase (front ++ (separator.toList ++ back)) = pascalCase front ++ pascalCase back := by
  have hplain := h.plain
  cases hchars : separator.toList with
  | nil => exact absurd (String.toList_eq_nil_iff.1 hchars) h.nonempty
  | cons c others =>
    rw [hchars] at hplain
    obtain ⟨hc, hothers⟩ := List.forall_mem_cons.1 hplain
    rw [List.cons_append, pascalCase_append_cons hc, pascalCase_separators_append hothers]

/-- **Separators do not show**: between two texts any one does as well as any other, and at the ends of a text none is
needed. -/
theorem identifier_separated {separator other : String} (hseparator : IsSeparator separator) (hother : IsSeparator other)
    (a b : String) :
    identifier (a ++ separator ++ b) = identifier (a ++ other ++ b) ∧ identifier (separator ++ a ++ other) = identifier a := by
  have hbetween {text : String} (h : IsSeparator text) :
      pascalCase (a ++ text ++ b).toList = pascalCase a.toList ++ pascalCase b.toList := by
    rw [String.toList_append, String.toList_append, List.append_assoc, h.pascalCase_append]
  have haround : pascalCase (separator ++ a ++ other).toList = pascalCase a.toList :=
    calc pascalCase (separator ++ a ++ other).toList
        = pascalCase (separator.toList ++ (a.toList ++ (other.toList ++ []))) := by simp
      _ = pascalCase (a.toList ++ (other.toList ++ [])) := pascalCase_separators_append hseparator.plain _
      _ = pascalCase a.toList ++ pascalCase [] := hother.pascalCase_append _ _
      _ = pascalCase a.toList := List.append_nil _
  exact ⟨by rw [identifier, identifier, hbetween hseparator, hbetween hother], by rw [identifier, identifier, haround]⟩

/-- A tab between spaces does as well as a dash, also between letters beyond ASCII that are cut at their case. -/
theorem identifier_dash_tab :
    IsSeparator "\u2014" ∧ IsSeparator " \t " ∧
      identifier ("größeÄndern" ++ "\u2014" ++ "2ndURLs") = identifier ("größeÄndern" ++ " \t " ++ "2ndURLs") ∧
      identifier ("\u2014" ++ "größeÄndern" ++ " \t ") = identifier "größeÄndern" :=
  have hdash : IsSeparator "\u2014" := by decide +kernel
  have htab : IsSeparator " \t " := by decide +kernel
  ⟨hdash, htab, identifier_separated hdash htab "größeÄndern" "2ndURLs"⟩

/-! ## Words and their characters -/

theorem flatten_cut (mode : CaseMode) (word piece : List Char) : (cut mode word piece).flatten = word ++ piece := by
  fun_induction cut mode word piece with
  | case1 => simp
  | case2 => simp
  | case3 mode word c next rest _ ih => simp [ih]
  | case4 mode word c next rest _ _ ih => simp [ih]
  | case5 mode word c next rest _ _ ih => simp [ih]

theorem flatten_pieces (text : List Char) : (pieces text).flatten = text.filter isAlphanumeric := by
  induction text with
  | nil => rfl
  | cons c text ih =>
    cases hc : isAlphanumeric c with
    | true =>
      obtain ⟨piece, more, hpieces, hcons⟩ := pieces_cons hc text
      rw [hpieces, List.flatten_cons] at ih
      rw [hcons, List.filter_cons_of_pos hc, ← ih]
      rfl
    | false =>
      rw [pieces_cons_separator hc, List.filter_cons_of_neg (by simp [hc]), ← ih]
      rfl

/-- **The words of a text** are its letters and digits, in order. -/
theorem flatten_words (text : List Char) : (words text).flatten = text.filter isAlphanumeric := by
  rw [words, ← List.flatMap_id, List.flatMap_assoc, ← flatten_pieces, ← List.flatMap_id]
  refine List.flatMap_congr fun piece _ => ?_
  rw [List.flatMap_id, flatten_cut]
  rfl

/-! ## The letters of an identifier -/

theorem toLower_toUpper {c : Char} (h : isAscii c = true) : c.toUpper.toLower = c.toLower :=
  forall_ascii (P := fun c => c.toUpper.toLower = c.toLower) (by decide) h

theorem toLower_toLower {c : Char} (h : isAscii c = true) : c.toLower.toLower = c.toLower :=
  forall_ascii (P := fun c => c.toLower.toLower = c.toLower) (by decide) h

theorem isDigit_toLower {c : Char} (h : isAscii c = true) : c.toLower.isDigit = c.isDigit :=
  forall_ascii (P := fun c => c.toLower.isDigit = c.isDigit) (by decide) h

theorem map_toLower_capitalised {word : List Char} (h : ∀ c ∈ word, isAscii c = true ∧ c.isAlphanum = true) :
    (capitalised word).map Char.toLower = word.map Char.toLower := by
  cases word with
  | nil => rfl
  | cons c rest =>
    obtain ⟨⟨hascii, halphanum⟩, hrest⟩ := List.forall_mem_cons.1 h
    have hfirst : asciiUpper c = [c.toUpper] := by rw [asciiUpper, if_pos hascii, if_pos halphanum]
    have hothers : rest.flatMap asciiLower = rest.map Char.toLower := by
      rw [List.map_eq_flatMap]
      refine List.flatMap_congr fun d hd => ?_
      rw [asciiLower, if_pos (hrest d hd).1, if_pos (hrest d hd).2]
    have hlower : (rest.map Char.toLower).map Char.toLower = rest.map Char.toLower := by
      rw [List.map_map]
      exact List.map_congr_left fun d hd => toLower_toLower (hrest d hd).1
    rw [capitalised, hfirst, hothers, List.singleton_append, List.map_cons, List.map_cons, hlower, toLower_toUpper hascii]

theorem map_toLower_pascalCase {text : List Char} (h : ∀ c ∈ text, isAlphanumeric c = true → isAscii c = true) :
    (pascalCase text).map Char.toLower = (text.filter isAlphanumeric).map Char.toLower := by
  have hwords (word : List Char) (hword : word ∈ words text) (c : Char) (hc : c ∈ word) :
      isAscii c = true ∧ c.isAlphanum = true := by
    have hmem : c ∈ text.filter isAlphanumeric := flatten_words text ▸ List.mem_flatten.2 ⟨word, hword, hc⟩
    obtain ⟨hctext, halphanumeric⟩ := List.mem_filter.1 hmem
    have hascii := h c hctext halphanumeric
    exact ⟨hascii, by rwa [isAlphanumeric, if_pos hascii] at halphanumeric⟩
  calc (pascalCase text).map Char.toLower
      = (words text).flatMap fun word => (capitalised word).map Char.toLower := List.map_flatMap
    _ = (words text).flatMap (List.map Char.toLower) :=
        List.flatMap_congr fun word hword => map_toLower_capitalised (hwords word hword)
    _ = (words text).flatten.map Char.toLower := by rw [List.flatMap_def, List.map_flatten]
    _ = (text.filter isAlphanumeric).map Char.toLower := by rw [flatten_words]

theorem map_toLower_guardStart (c : Char) (rest : List Char) :
    (guardStart (c :: rest)).map Char.toLower = (if c.isDigit then ['n'] else []) ++ (c :: rest).map Char.toLower := by
  rw [guardStart]
  split <;> rfl

/-- **An identifier spells its text**: where all letters and digits are ASCII ones, and there are any, the identifier in
lower case is these in lower case, with an `n` in front when the first of them is a digit. -/
theorem toLower_identifier {text : String} (hascii : ∀ c ∈ text.toList, isAlphanumeric c = true → isAscii c = true)
    (hsome : ∃ c ∈ text.toList, isAlphanumeric c = true) :
    ∃ first rest, text.toList.filter isAlphanumeric = first :: rest ∧
      (identifier text).toLower = String.ofList
        ((if first.isDigit then ['n'] else []) ++ (first :: rest).map Char.toLower) := by
  have hspelled := map_toLower_pascalCase hascii
  obtain ⟨c, hc, halphanumeric⟩ := hsome
  obtain ⟨first, rest, hletters⟩ :=
    List.exists_cons_of_ne_nil (List.ne_nil_of_mem (List.mem_filter.2 ⟨hc, halphanumeric⟩))
  refine ⟨first, rest, hletters, String.toList_inj.1 (String.toList_map.trans ?_)⟩
  rw [String.toList_ofList, identifier, String.toList_ofList]
  rw [hletters] at hspelled
  cases hname : pascalCase text.toList with
  | nil => simp [hname] at hspelled
  | cons initial others =>
    rw [hname] at hspelled
    have hinitials : initial.toLower = first.toLower := (List.cons.inj hspelled).1
    have hdigit : initial.isDigit = first.isDigit := by
      have hinitial : initial.isAlphanum = true := isAlphanum_pascalCase (hname ▸ List.mem_cons_self)
      have hfirst : isAscii first = true :=
        have hmem := List.mem_filter.1 (hletters ▸ List.mem_cons_self : first ∈ text.toList.filter isAlphanumeric)
        hascii first hmem.1 hmem.2
      rw [← isDigit_toLower (isAscii_of_isAlphanum hinitial), hinitials, isDigit_toLower hfirst]
    rw [map_toLower_guardStart, hdigit, hspelled]

/-- Cuts before the last capital of a run, at a separator beyond ASCII, and a digit in front. -/
theorem toLower_identifier_servers :
    (∀ c ∈ "3 HTTPServers\u2014v2".toList, isAlphanumeric c = true → isAscii c = true) ∧
      (∃ c ∈ "3 HTTPServers\u2014v2".toList, isAlphanumeric c = true) ∧
      (identifier "3 HTTPServers\u2014v2").toLower = "n3httpserversv2" := by
  have hall : ("3 HTTPServers\u2014v2".toList.all fun c => !isAlphanumeric c || isAscii c) = true := by decide +kernel
  have hascii : ∀ c ∈ "3 HTTPServers\u2014v2".toList, isAlphanumeric c = true → isAscii c = true := by
    intro c hc halphanumeric
    simpa [halphanumeric] using List.all_eq_true.1 hall c hc
  have hsome : ∃ c ∈ "3 HTTPServers\u2014v2".toList, isAlphanumeric c = true := ⟨'3', by decide, by decide⟩
  have hletters : "3 HTTPServers\u2014v2".toList.filter isAlphanumeric = "3HTTPServersv2".toList := by decide +kernel
  obtain ⟨first, rest, hfirst, hname⟩ := toLower_identifier hascii hsome
  rw [hletters] at hfirst
  cases hfirst
  exact ⟨hascii, hsome, hname.trans (by decide)⟩

end ApiCatalog.Naming
