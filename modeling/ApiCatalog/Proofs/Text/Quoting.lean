import ApiCatalog.Proofs.Text.Splitting
import ApiCatalog.Text.Quoted
import Mathlib.Data.Nat.Notation

/-!
# Quoted text can be told apart

A character stands between quotes as it is, as a letter behind a backslash, or as its code point (`QuotedAs`). Neither a
quote nor a line feed is ever left as it is, so a quoted text ends at the first quote that is not escaped, and stays on
its line. What it is can be told from what is written (`unambiguous_quoted`), and the same goes for a list of quoted texts
(`bracketed_quoted_injective`).
-/

namespace ApiCatalog.Text

/-! ## Digits -/

theorem digitChar_injective : ∀ a < 16, ∀ b < 16, Nat.digitChar a = Nat.digitChar b → a = b := by decide

theorem hexDigits_of_lt {n : ℕ} (h : n < 16) : hexDigits n = [n.digitChar] := Nat.toDigits_of_lt_base h

theorem hexDigits_of_le {n : ℕ} (h : 16 ≤ n) : hexDigits n = hexDigits (n / 16) ++ [(n % 16).digitChar] :=
  Nat.toDigits_of_base_le (by decide) h

theorem mem_hexDigits {c : Char} {n : ℕ} (h : c ∈ hexDigits n) : ∃ d < 16, c = Nat.digitChar d := by
  induction n using Nat.strongRecOn with
  | ind n ih =>
    by_cases hsmall : n < 16
    · rw [hexDigits_of_lt hsmall, List.mem_singleton] at h
      exact ⟨n, hsmall, h⟩
    · rw [hexDigits_of_le (by omega), List.mem_append, List.mem_singleton] at h
      rcases h with hmem | rfl
      · exact ih (n / 16) (by omega) hmem
      · exact ⟨n % 16, by omega, rfl⟩

theorem hexDigits_ne_singleton {n : ℕ} (h : 16 ≤ n) (c : Char) : hexDigits n ≠ [c] := by
  intro heq
  have hlength := congrArg List.length heq
  have hpos : 0 < (hexDigits (n / 16)).length := List.length_pos_iff.2 Nat.toDigits_ne_nil
  rw [hexDigits_of_le h, List.length_append, List.length_singleton, List.length_singleton] at hlength
  omega

theorem hexDigits_injective : Function.Injective hexDigits := by
  intro n
  induction n using Nat.strongRecOn with
  | ind n ih =>
    intro m heq
    by_cases hn : n < 16
    · rw [hexDigits_of_lt hn] at heq
      by_cases hm : m < 16
      · rw [hexDigits_of_lt hm] at heq
        exact digitChar_injective n hn m hm (List.cons.inj heq).1
      · exact absurd heq.symm (hexDigits_ne_singleton (by omega) _)
    · by_cases hm : m < 16
      · rw [hexDigits_of_lt hm] at heq
        exact absurd heq (hexDigits_ne_singleton (by omega) _)
      · rw [hexDigits_of_le (by omega : 16 ≤ n), hexDigits_of_le (by omega : 16 ≤ m)] at heq
        obtain ⟨hfront, hlast⟩ := List.append_inj' heq rfl
        have hquotient : n / 16 = m / 16 := ih (n / 16) (by omega) hfront
        have hdigit : n % 16 = m % 16 :=
          digitChar_injective _ (by omega) _ (by omega) (List.cons.inj hlast).1
        omega

/-! ## Characters -/

def shortMeaning (letter : Char) : Option Char :=
  if letter = '0' then some '\x00'
  else if letter = 't' then some '\t'
  else if letter = 'r' then some '\r'
  else if letter = 'n' then some '\n'
  else if letter = '"' then some '"'
  else if letter = '\\' then some '\\'
  else none

/-- How a character can stand between quotes. -/
inductive QuotedAs (c : Char) : List Char → Prop
  | plain (hquote : c ≠ '"') (hbackslash : c ≠ '\\') (hline : c ≠ '\n') : QuotedAs c [c]
  | short {letter : Char} (h : shortMeaning letter = some c) : QuotedAs c ['\\', letter]
  | code : QuotedAs c (codePointEscape c)

theorem quotedAs_quoteChar (c : Char) : QuotedAs c (quoteChar c) := by
  unfold quoteChar
  split_ifs with hnul htab hreturn hline hquote hbackslash
  · subst hnul
    exact .short rfl
  · subst htab
    exact .short rfl
  · subst hreturn
    exact .short rfl
  · subst hline
    exact .short rfl
  · subst hquote
    exact .short rfl
  · subst hbackslash
    exact .short rfl
  · exact .code
  · exact .plain hquote hbackslash hline
  · exact .plain hquote hbackslash hline
  · exact .code

theorem unambiguous_quoteChar : Unambiguous quoteChar fun _ => True := by
  intro a b rest rest' _ _ heq
  have ha := quotedAs_quoteChar a
  have hb := quotedAs_quoteChar b
  generalize quoteChar a = written at ha heq
  generalize quoteChar b = written' at hb heq
  have hu : shortMeaning 'u' = none := rfl
  cases ha with
  | plain hquote hbackslash hline =>
    cases hb with
    | plain => exact List.cons.inj heq
    | short => exact absurd (List.cons.inj heq).1 hbackslash
    | code => exact absurd (List.cons.inj heq).1 hbackslash
  | @short letter hletter =>
    cases hb with
    | plain _ hbackslash => exact absurd (List.cons.inj heq).1.symm hbackslash
    | short hletter' =>
      obtain ⟨rfl, hrest⟩ := List.cons.inj (List.cons.inj heq).2
      exact ⟨Option.some.inj (hletter.symm.trans hletter'), hrest⟩
    | code =>
      rw [(List.cons.inj (List.cons.inj heq).2).1, hu] at hletter
      cases hletter
  | code =>
    cases hb with
    | plain _ hbackslash => exact absurd (List.cons.inj heq).1.symm hbackslash
    | short hletter =>
      rw [← (List.cons.inj (List.cons.inj heq).2).1, hu] at hletter
      cases hletter
    | code =>
      have hclose (c : Char) : '\x7d' ∉ hexDigits c.toNat := by
        intro hmem
        obtain ⟨d, hd, hchar⟩ := mem_hexDigits hmem
        have hnever : ∀ d < 16, Nat.digitChar d ≠ '\x7d' := by decide
        exact hnever d hd hchar.symm
      simp only [codePointEscape, List.append_assoc, List.cons_append, List.nil_append, List.cons.injEq,
        true_and] at heq
      obtain ⟨hdigits, hrest⟩ := split_at_first (hclose a) (hclose b) heq
      exact ⟨Char.toNat_inj.1 (hexDigits_injective hdigits), hrest⟩

theorem quoteChar_ne_quote (c : Char) (rest rest' : List Char) : quoteChar c ++ rest ≠ '"' :: rest' := by
  intro heq
  have hc := quotedAs_quoteChar c
  generalize quoteChar c = written at hc heq
  cases hc with
  | plain hquote => exact hquote (List.cons.inj heq).1
  | short => exact absurd (List.cons.inj heq).1 (by decide)
  | code => exact absurd (List.cons.inj heq).1 (by decide)

theorem newline_not_mem_quoteChar (c : Char) : '\n' ∉ quoteChar c := by
  intro hmem
  have hc := quotedAs_quoteChar c
  generalize quoteChar c = written at hc hmem
  cases hc with
  | plain _ _ hline => exact hline (List.mem_singleton.1 hmem).symm
  | @short letter hletter =>
    simp only [List.mem_cons, List.not_mem_nil, or_false] at hmem
    rcases hmem with hbackslash | rfl
    · exact absurd hbackslash (by decide)
    · cases hletter
  | code =>
    simp only [codePointEscape, List.mem_append, List.mem_cons, List.not_mem_nil, or_false] at hmem
    rcases hmem with ((h | h | h) | h) | h
    · exact absurd h (by decide)
    · exact absurd h (by decide)
    · exact absurd h (by decide)
    · obtain ⟨d, hd, hchar⟩ := mem_hexDigits h
      have hnever : ∀ d < 16, Nat.digitChar d ≠ '\n' := by decide
      exact hnever d hd hchar.symm
    · exact absurd h (by decide)

/-! ## Texts -/

theorem unambiguous_quoted : Unambiguous (fun text : String => (quoted text).toList) fun _ => True := by
  intro a b rest rest' _ _ heq
  simp only [quoted, String.toList_ofList, List.cons_append, List.cons.injEq, true_and] at heq
  obtain ⟨htexts, hrest⟩ := unambiguous_quoteChar.flatMap quoteChar_ne_quote trivial trivial heq
  exact ⟨String.toList_inj.1 htexts, hrest⟩

theorem bracketed_quoted_injective : Function.Injective fun texts : List String => bracketed (texts.map quoted) := by
  intro items others heq
  have hinside : String.intercalate ", " (items.map quoted) = String.intercalate ", " (others.map quoted) :=
    (String.append_right_inj _).1 ((String.append_left_inj _).1 heq)
  have hlists := congrArg String.toList hinside
  rw [String.toList_intercalate, String.toList_intercalate, List.map_map, List.map_map] at hlists
  have hnonempty (text : String) : (quoted text).toList ≠ [] := by simp [quoted]
  exact unambiguous_quoted.intercalate trivial hnonempty (by decide) (fun _ => trivial) hlists

theorem newline_not_mem_quoted (text : String) : '\n' ∉ (quoted text).toList := by
  rw [quoted, String.toList_ofList, List.mem_cons, List.mem_append, List.mem_flatMap, List.mem_singleton]
  rintro (h | ⟨c, -, h⟩ | h)
  · exact absurd h (by decide)
  · exact newline_not_mem_quoteChar c h
  · exact absurd h (by decide)

theorem newline_not_mem_bracketed (texts : List String) : '\n' ∉ (bracketed (texts.map quoted)).toList := by
  have hinside : '\n' ∉ (String.intercalate ", " (texts.map quoted)).toList := by
    rw [String.toList_intercalate, List.map_map]
    exact not_mem_intercalate (by decide) fun text _ => newline_not_mem_quoted text
  rw [bracketed, String.toList_append, String.toList_append, List.mem_append, List.mem_append]
  rintro ((h | h) | h)
  · exact absurd h (by decide)
  · exact hinside h
  · exact absurd h (by decide)

end ApiCatalog.Text
