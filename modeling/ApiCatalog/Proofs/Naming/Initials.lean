import ApiCatalog.Proofs.Naming.Identifier

/-!
# How identifiers start

Words are capitalised first, and what is not an ASCII letter or digit is dropped then. So the capital of a word can get
lost, and what follows it is in lower case: `Étape finale` becomes `tapeFinale`.

An identifier starts with a capital unless this happens in the first word that leaves anything (`startsUpper_iff`). Case
mappings leave no lower-case letter of the start of a word (`isLower_of_mem_asciiUpper`), and an initial digit gets an
`N`, so a small letter at the start comes from within a word.
-/

namespace ApiCatalog.Naming
open Text

def StartsUpper (name : String) : Prop := ∃ c, name.toList.head? = some c ∧ c.isUpper = true

/-- The initial of the word leaves no ASCII letter or digit, and the first character behind it that leaves one leaves a
lower-case letter. -/
def LosesInitial (word : List Char) : Prop :=
  ∃ initial skipped c rest letter, word = initial :: (skipped ++ c :: rest) ∧ asciiUpper initial = [] ∧
    (∀ other ∈ skipped, asciiLower other = []) ∧ (asciiLower c).head? = some letter ∧ letter.isLower = true

theorem head?_flatMap_eq_some {α : Type} {f : α → List Char} {parts : List α} {c : Char} :
    (parts.flatMap f).head? = some c ↔ ∃ before part after, parts = before ++ part :: after ∧
      (∀ other ∈ before, f other = []) ∧ (f part).head? = some c := by
  simp only [List.head?_flatMap, List.findSome?_eq_some_iff, List.head?_eq_none_iff, and_comm (a := _ = some c)]

/-! ## The start of a word -/

theorem isLower_toUpper {c : Char} (h : isAscii c = true) : c.toUpper.isLower = false :=
  forall_ascii (P := fun c => c.toUpper.isLower = false) (by decide) h

theorem isLower_of_mem_asciiUpper {c d : Char} (h : d ∈ asciiUpper c) : d.isLower = false := by
  unfold asciiUpper at h
  split at h
  · next hascii =>
    split at h
    · cases List.mem_singleton.1 h
      exact isLower_toUpper hascii
    · cases h
  · have hupper : (!d.isLower) = true := all_of_lookup (p := fun d => !d.isLower) (by decide) h
    simpa using hupper

/-- A capitalised word starts with a lower-case letter just when it has lost its initial. -/
theorem losesInitial_iff {word : List Char} :
    LosesInitial word ↔ ∃ letter, (capitalised word).head? = some letter ∧ letter.isLower = true := by
  cases word with
  | nil => simp [LosesInitial, capitalised]
  | cons initial others =>
    rw [capitalised]
    constructor
    · rintro ⟨_, skipped, c, rest, letter, hword, hinitial, hskipped, hletter, hlower⟩
      cases hword
      refine ⟨letter, ?_, hlower⟩
      rw [hinitial]
      exact head?_flatMap_eq_some.2 ⟨skipped, c, rest, rfl, hskipped, hletter⟩
    · rintro ⟨letter, hletter, hlower⟩
      cases hinitial : asciiUpper initial with
      | nil =>
        rw [hinitial] at hletter
        obtain ⟨skipped, c, rest, rfl, hskipped, hfirst⟩ := head?_flatMap_eq_some.1 hletter
        exact ⟨initial, skipped, c, rest, letter, rfl, hinitial, hskipped, hfirst, hlower⟩
      | cons upper more =>
        rw [hinitial] at hletter
        cases hletter
        have hupper := isLower_of_mem_asciiUpper (hinitial ▸ List.mem_cons_self : letter ∈ asciiUpper initial)
        rw [hlower] at hupper
        cases hupper

/-! ## The start of an identifier -/

theorem isUpper_eq_not_isLower {c : Char} (h : c.isAlphanum = true) (hdigit : c.isDigit = false) :
    c.isUpper = !c.isLower :=
  forall_ascii (P := fun c => c.isAlphanum = true → c.isDigit = false → c.isUpper = !c.isLower) (by decide)
    (isAscii_of_isAlphanum h) h hdigit

theorem startsUpper_guardStart {chars : List Char} (h : ∀ c ∈ chars, c.isAlphanum = true) :
    StartsUpper (String.ofList (guardStart chars)) ↔ ¬ ∃ letter, chars.head? = some letter ∧ letter.isLower = true := by
  rw [StartsUpper, String.toList_ofList]
  cases chars with
  | nil => simp [guardStart, unnamed]
  | cons c rest =>
    rw [guardStart]
    cases hdigit : c.isDigit with
    | true =>
      have hlower : c.isLower = false :=
        forall_ascii (P := fun c => c.isDigit = true → c.isLower = false) (by decide)
          (isAscii_of_isAlphanum (h c List.mem_cons_self)) hdigit
      simp [hlower]
    | false => simp [isUpper_eq_not_isLower (h c List.mem_cons_self) hdigit]

/-- **An identifier starts with a capital** unless the first of its words that leaves anything has lost its initial. -/
theorem startsUpper_iff (text : String) :
    StartsUpper (identifier text) ↔ ¬ ∃ silent word others, words text.toList = silent ++ word :: others ∧
      (∀ other ∈ silent, capitalised other = []) ∧ LosesInitial word := by
  rw [identifier, startsUpper_guardStart fun _ => isAlphanum_pascalCase, pascalCase]
  refine not_congr ?_
  constructor
  · rintro ⟨letter, hletter, hlower⟩
    obtain ⟨silent, word, others, hwords, hsilent, hfirst⟩ := head?_flatMap_eq_some.1 hletter
    exact ⟨silent, word, others, hwords, hsilent, losesInitial_iff.2 ⟨letter, hfirst, hlower⟩⟩
  · rintro ⟨silent, word, others, hwords, hsilent, hlost⟩
    obtain ⟨letter, hfirst, hlower⟩ := losesInitial_iff.1 hlost
    exact ⟨letter, head?_flatMap_eq_some.2 ⟨silent, word, others, hwords, hsilent, hfirst⟩, hlower⟩

/-- The capital of the first word is not an ASCII letter, so the name starts with the letter behind it. -/
theorem not_startsUpper_etape :
    identifier "Étape finale" = "tapeFinale" ∧ ¬ StartsUpper (identifier "Étape finale") := by
  have hname : identifier "Étape finale" = "tapeFinale" := by decide +kernel
  refine ⟨hname, ?_⟩
  rw [hname]
  rintro ⟨c, hc, hupper⟩
  cases hc
  exact absurd hupper (by decide)

end ApiCatalog.Naming
