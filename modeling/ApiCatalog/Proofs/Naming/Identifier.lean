import ApiCatalog.Naming.Identifier
import ApiCatalog.Naming.Scope
import Mathlib.Algebra.Group.Nat.Defs

/-!
# Identifiers are safe

Whatever a text consists of, its identifier is an ASCII letter followed by ASCII letters and digits
(`isIdentifier_identifier`). The change of case may turn one character into several and a character beyond ASCII into
one within, so this is shown of what the case mappings leave of a character, not of the character. A number behind an
identifier leaves an identifier.
-/

namespace ApiCatalog.Naming
open Text

/-- The name is an ASCII letter followed by ASCII letters and digits, at least the letter. -/
def IsIdentifier (name : String) : Prop :=
  ∃ first rest, name.toList = first :: rest ∧ first.isAlpha = true ∧ ∀ c ∈ rest, c.isAlphanum = true

/-! ## What the case mappings leave -/

theorem forall_ascii {P : Char → Prop} (h : ∀ n < 0x80, P (Char.ofNat n)) {c : Char} (hc : isAscii c = true) :
    P c := by
  have hcode := h c.toNat (by simpa [isAscii] using hc)
  rwa [Char.ofNat_toNat] at hcode

theorem isAscii_of_isAlphanum {c : Char} (h : c.isAlphanum = true) : isAscii c = true := by
  delta Char.isAlphanum Char.isAlpha Char.isUpper Char.isLower Char.isDigit at h
  simp only [Bool.or_eq_true, Bool.and_eq_true, decide_eq_true_eq, UInt32.le_iff_toNat_le, ge_iff_le] at h
  have hupper : 'Z'.val.toNat = 90 := rfl
  have hlower : 'z'.val.toNat = 122 := rfl
  have hdigit : '9'.val.toNat = 57 := rfl
  have hcode : c.toNat = c.val.toNat := rfl
  rw [isAscii, decide_eq_true_eq]
  omega

theorem isAlphanum_toUpper {c : Char} (hc : isAscii c = true) (h : c.isAlphanum = true) :
    c.toUpper.isAlphanum = true :=
  forall_ascii (P := fun c => c.isAlphanum = true → c.toUpper.isAlphanum = true) (by decide) hc h

theorem isAlphanum_toLower {c : Char} (hc : isAscii c = true) (h : c.isAlphanum = true) :
    c.toLower.isAlphanum = true :=
  forall_ascii (P := fun c => c.isAlphanum = true → c.toLower.isAlphanum = true) (by decide) hc h

theorem all_of_lookup {p : Char → Bool} {table : List (Char × List Char)}
    (htable : table.all (fun entry => entry.2.all p) = true) {c d : Char}
    (h : d ∈ (table.lookup c).getD []) : p d = true := by
  cases hlookup : table.lookup c with
  | none => simp [hlookup] at h
  | some letters =>
    obtain ⟨before, after, hsplit, -⟩ := List.lookup_eq_some_iff.1 hlookup
    rw [hlookup, Option.getD_some] at h
    have hletters := List.all_eq_true.1 htable (c, letters) (by simp [hsplit])
    exact List.all_eq_true.1 hletters d h

theorem isAlphanum_asciiUpper {c d : Char} (h : d ∈ asciiUpper c) : d.isAlphanum = true := by
  unfold asciiUpper at h
  split at h
  · next hascii =>
    split at h
    · next halphanum =>
      cases List.mem_singleton.1 h
      exact isAlphanum_toUpper hascii halphanum
    · cases h
  · exact all_of_lookup (by decide) h

theorem isAlphanum_asciiLower {c d : Char} (h : d ∈ asciiLower c) : d.isAlphanum = true := by
  unfold asciiLower at h
  split at h
  · next hascii =>
    split at h
    · next halphanum =>
      cases List.mem_singleton.1 h
      exact isAlphanum_toLower hascii halphanum
    · cases h
  · exact all_of_lookup (by decide) h

theorem isAlphanum_pascalCase {text : List Char} {c : Char} (h : c ∈ pascalCase text) : c.isAlphanum = true := by
  obtain ⟨word, -, hword⟩ := List.mem_flatMap.1 h
  cases word with
  | nil => cases hword
  | cons first rest =>
    rcases List.mem_append.1 hword with hfirst | hrest
    · exact isAlphanum_asciiUpper hfirst
    · obtain ⟨other, -, hother⟩ := List.mem_flatMap.1 hrest
      exact isAlphanum_asciiLower hother

/-! ## Identifiers -/

theorem isIdentifier_guardStart {chars : List Char} (h : ∀ c ∈ chars, c.isAlphanum = true) :
    IsIdentifier (String.ofList (guardStart chars)) := by
  cases chars with
  | nil => exact ⟨'U', ['n', 'n', 'a', 'm', 'e', 'd'], String.toList_ofList, rfl, List.all_eq_true.1 (by decide)⟩
  | cons c rest =>
    obtain ⟨hfirst, hrest⟩ := List.forall_mem_cons.1 h
    rw [guardStart]
    split
    · exact ⟨'N', c :: rest, String.toList_ofList, rfl, h⟩
    · next hdigit =>
      refine ⟨c, rest, String.toList_ofList, ?_, hrest⟩
      simpa [Char.isAlphanum, hdigit] using hfirst

/-- **The identifier of a text** is a letter followed by letters and digits. -/
theorem isIdentifier_identifier (text : String) : IsIdentifier (identifier text) :=
  isIdentifier_guardStart fun _ => isAlphanum_pascalCase

theorem isAlphanum_of_mem_toString {k : Nat} {c : Char} (h : c ∈ (toString k).toList) : c.isAlphanum = true := by
  rw [Nat.toString_eq_repr, Nat.toList_repr] at h
  have hdigit : c.isDigit = true := Nat.isDigit_of_mem_toDigits (by decide) (by decide) h
  simp [Char.isAlphanum, hdigit]

theorem IsIdentifier.numbered {candidate : String} (h : IsIdentifier candidate) (k : Nat) :
    IsIdentifier (NameScope.numbered candidate k) := by
  obtain ⟨first, rest, hchars, hfirst, hrest⟩ := h
  refine ⟨first, rest ++ (toString k).toList, ?_, hfirst, fun c hc => ?_⟩
  · rw [NameScope.numbered, String.toList_append, hchars, List.cons_append]
  · rcases List.mem_append.1 hc with hc | hc
    · exact hrest c hc
    · exact isAlphanum_of_mem_toString hc

end ApiCatalog.Naming
