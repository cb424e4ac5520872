import ApiCatalog.Proofs.Json.Numbers
import ApiCatalog.Proofs.Json.Texts

/-!
# Values as they are written

A text that is JSON is a tree whose leaves are spelled character by character (`Tree`), with white space between its
tokens (`Gap`). That a text starts with a tree, and what follows it there, is the grammar of JSON (`Spells`): no limit is
put on the depth, a number may be out of range, and surrogates need not be paired.
-/

namespace ApiCatalog.Json

/-! ## White space -/

/-- There is white space, or nothing, in front of what is left. -/
inductive Gap : (input rest : List Char) → Prop
  | none {rest : List Char} : Gap rest rest
  | space {c : Char} {input rest : List Char} (hspace : isJsonSpace c = true) (h : Gap input rest) : Gap (c :: input) rest

theorem Gap.length_le {input rest : List Char} (h : Gap input rest) : rest.length ≤ input.length := by
  induction h with
  | none => exact Nat.le_refl _
  | space _ _ ih =>
    rw [List.length_cons]
    omega

theorem Gap.skipSpace {input rest : List Char} (h : Gap input rest) : skipSpace input = skipSpace rest := by
  induction h with
  | none => rfl
  | space hspace _ ih => rw [← ih, Json.skipSpace, List.dropWhile_cons_of_pos hspace, Json.skipSpace]

theorem skipSpace_cons {c : Char} (h : isJsonSpace c = false) (rest : List Char) : skipSpace (c :: rest) = c :: rest :=
  List.dropWhile_cons_of_neg (by simp [h])

theorem Gap.skipSpace_token {input rest : List Char} {c : Char} (h : Gap input (c :: rest)) (hc : isJsonSpace c = false) :
    Json.skipSpace input = c :: rest := by
  rw [h.skipSpace, skipSpace_cons hc]

theorem mem_delimiters_of_isJsonSpace {c : Char} (h : isJsonSpace c = true) : c ∈ delimiters := by
  simp only [isJsonSpace, Bool.or_eq_true, decide_eq_true_eq] at h
  rcases h with ((rfl | rfl) | rfl) | rfl <;> decide

theorem Gap.delimited {input rest : List Char} {c : Char} (h : Gap input (c :: rest)) (hc : c ∈ delimiters) :
    Delimited input := by
  cases h with
  | none => exact delimited_cons hc
  | space hspace => exact delimited_cons (mem_delimiters_of_isJsonSpace hspace)

theorem Gap.delimited_nil {input : List Char} (h : Gap input []) : Delimited input := by
  cases h with
  | none => exact Json.delimited_nil
  | space hspace => exact delimited_cons (mem_delimiters_of_isJsonSpace hspace)

/-! ## Trees -/

/-- A value as it is written, but for the white space between its tokens. -/
inductive Tree where
  | null
  | bool (value : Bool)
  | number (negative : Bool) (numeral : Numeral)
  | text (glyphs : List Glyph)
  | list (items : List Tree)
  | object (members : List (List Glyph × Tree))

/-- What stands in front of an element: a comma, unless the element is the first. -/
inductive Separates : (first : Bool) → (input rest : List Char) → Prop
  | first {rest : List Char} : Separates true rest rest
  | comma {input rest : List Char} (h : Gap input (',' :: rest)) : Separates false input rest

def SpellsKey (glyphs : List Glyph) (input rest : List Char) : Prop :=
  ∃ colon, Gap input ('"' :: afterQuote glyphs colon) ∧ Gap colon (':' :: rest)

mutual

/-- The text `input` starts with the tree, and goes on with `rest`. -/
inductive Spells : Tree → (input rest : List Char) → Prop
  | null {rest : List Char} : Spells .null ('n' :: 'u' :: 'l' :: 'l' :: rest) rest
  | yes {rest : List Char} : Spells (.bool true) ('t' :: 'r' :: 'u' :: 'e' :: rest) rest
  | no {rest : List Char} : Spells (.bool false) ('f' :: 'a' :: 'l' :: 's' :: 'e' :: rest) rest
  | number {negative : Bool} {numeral : Numeral} {rest : List Char} :
      Spells (.number negative numeral) (sign negative ++ (numeral.chars ++ rest)) rest
  | text {glyphs : List Glyph} {rest : List Char} : Spells (.text glyphs) ('"' :: afterQuote glyphs rest) rest
  | list {items : List Tree} {body rest : List Char} (h : SpellsItems true items body (']' :: rest)) :
      Spells (.list items) ('[' :: body) rest
  | object {members : List (List Glyph × Tree)} {body rest : List Char}
      (h : SpellsMembers true members body ('\x7d' :: rest)) : Spells (.object members) ('\x7b' :: body) rest

/-- The items of a list, from the first or from a later one on. -/
inductive SpellsItems : (first : Bool) → List Tree → (input rest : List Char) → Prop
  | nil {first : Bool} {input rest : List Char} (h : Gap input rest) : SpellsItems first [] input rest
  | cons {first : Bool} {item : Tree} {items : List Tree} {input start value more rest : List Char}
      (hseparates : Separates first input start) (hgap : Gap start value) (hitem : Spells item value more)
      (hitems : SpellsItems false items more rest) : SpellsItems first (item :: items) input rest

/-- The members of an object, from the first or from a later one on. -/
inductive SpellsMembers : (first : Bool) → List (List Glyph × Tree) → (input rest : List Char) → Prop
  | nil {first : Bool} {input rest : List Char} (h : Gap input rest) : SpellsMembers first [] input rest
  | cons {first : Bool} {glyphs : List Glyph} {tree : Tree} {members : List (List Glyph × Tree)}
      {input key start value more rest : List Char} (hseparates : Separates first input key)
      (hkey : SpellsKey glyphs key start) (hgap : Gap start value) (htree : Spells tree value more)
      (hmembers : SpellsMembers false members more rest) : SpellsMembers first ((glyphs, tree) :: members) input rest

end

/-- The tree stands in the text, perhaps behind white space. -/
def Stands (tree : Tree) (input rest : List Char) : Prop := ∃ start, Gap input start ∧ Spells tree start rest

/-- The text is a spelling of the tree, perhaps with white space around it. -/
def Tree.IsWritten (tree : Tree) (text : String) : Prop := ∃ rest, Stands tree text.toList rest ∧ Gap rest []

/-! ## How a tree starts -/

/-- The first character of a tree. -/
inductive Starts : Tree → Char → Prop
  | null : Starts .null 'n'
  | yes : Starts (.bool true) 't'
  | no : Starts (.bool false) 'f'
  | minus {numeral : Numeral} : Starts (.number true numeral) '-'
  | digit {numeral : Numeral} {c : Char} (h : c.isDigit = true) : Starts (.number false numeral) c
  | text {glyphs : List Glyph} : Starts (.text glyphs) '"'
  | list {items : List Tree} : Starts (.list items) '['
  | object {members : List (List Glyph × Tree)} : Starts (.object members) '\x7b'

theorem exists_starts {tree : Tree} {input rest : List Char} (h : Spells tree input rest) :
    ∃ c more, input = c :: more ∧ Starts tree c := by
  cases h with
  | @number negative numeral =>
    cases negative with
    | true => exact ⟨_, _, rfl, .minus⟩
    | false =>
      obtain ⟨first, more, hchars, hfirst⟩ := numeral.isNumeral.exists_digit
      exact ⟨first, more ++ rest, by rw [hchars]; rfl, .digit hfirst⟩
  | _ => exact ⟨_, _, rfl, by constructor⟩

theorem ne_of_isDigit {c d : Char} (h : c.isDigit = true) (hd : d.isDigit = false) : c ≠ d := by
  rintro rfl
  cases h.symm.trans hd

theorem isJsonSpace_of_isDigit {c : Char} (h : c.isDigit = true) : isJsonSpace c = false := by
  simp [isJsonSpace, ne_of_isDigit h (d := ' ') rfl, ne_of_isDigit h (d := '\t') rfl, ne_of_isDigit h (d := '\n') rfl,
    ne_of_isDigit h (d := '\r') rfl]

theorem Starts.isJsonSpace {tree : Tree} {c : Char} (h : Starts tree c) : isJsonSpace c = false := by
  cases h with
  | digit h => exact isJsonSpace_of_isDigit h
  | _ => rfl

theorem Starts.ne_closing {tree : Tree} {c : Char} (h : Starts tree c) : c ≠ ']' := by
  cases h with
  | digit h => exact ne_of_isDigit h rfl
  | _ => decide

theorem Stands.exists_starts {tree : Tree} {input rest : List Char} (h : Stands tree input rest) :
    ∃ c more, skipSpace input = c :: more ∧ Starts tree c ∧ Spells tree (c :: more) rest := by
  obtain ⟨start, hgap, hspells⟩ := h
  obtain ⟨c, more, rfl, hstarts⟩ := Json.exists_starts hspells
  exact ⟨c, more, hgap.skipSpace_token hstarts.isJsonSpace, hstarts, hspells⟩

theorem Spells.stands {tree : Tree} {input rest : List Char} (h : Spells tree input rest) : Stands tree input rest :=
  ⟨input, .none, h⟩

theorem Spells.eq_of_number {negative : Bool} {numeral : Numeral} {input rest : List Char}
    (h : Spells (.number negative numeral) input rest) : input = sign negative ++ (numeral.chars ++ rest) := by
  cases h
  rfl

/-! ## Lengths and ends -/

theorem Separates.length_le {first : Bool} {input rest : List Char} (h : Separates first input rest) :
    rest.length ≤ input.length := by
  cases h with
  | first => exact Nat.le_refl _
  | comma h =>
    have hle := h.length_le
    rw [List.length_cons] at hle
    omega

theorem SpellsKey.length_lt {glyphs : List Glyph} {input rest : List Char} (h : SpellsKey glyphs input rest) :
    rest.length + 1 < input.length := by
  obtain ⟨colon, hquote, hcolon⟩ := h
  have hkey := hquote.length_le
  have hrest := hcolon.length_le
  have hglyphs := length_lt_afterQuote glyphs colon
  rw [List.length_cons] at hkey hrest
  omega

mutual

theorem Spells.length_lt : ∀ {tree : Tree} {input rest : List Char}, Spells tree input rest → rest.length < input.length
  | .list items, _, _, .list h => by
    have hle := h.length_le
    rw [List.length_cons] at hle ⊢
    omega
  | .object members, _, _, .object h => by
    have hle := h.length_le
    rw [List.length_cons] at hle ⊢
    omega
  | .null, _, _, .null => by
    simp only [List.length_cons]
    omega
  | .bool true, _, _, .yes => by
    simp only [List.length_cons]
    omega
  | .bool false, _, _, .no => by
    simp only [List.length_cons]
    omega
  | .number negative numeral, _, _, .number => by
    obtain ⟨first, more, hchars, -⟩ := numeral.isNumeral.exists_digit
    rw [hchars, List.length_append, List.length_append, List.length_cons]
    omega
  | .text glyphs, _, rest, .text => by
    have hlt := length_lt_afterQuote glyphs rest
    rw [List.length_cons]
    omega

theorem SpellsItems.length_le : ∀ {first : Bool} {items : List Tree} {input rest : List Char},
    SpellsItems first items input rest → items.length + rest.length ≤ input.length
  | _, [], _, _, .nil h => by
    have hle := h.length_le
    rw [List.length_nil]
    omega
  | _, item :: items, _, _, .cons hseparates hgap hitem hitems => by
    have hinput := hseparates.length_le
    have hstart := hgap.length_le
    have hvalue := hitem.length_lt
    have hmore := hitems.length_le
    rw [List.length_cons]
    omega

theorem SpellsMembers.length_le : ∀ {first : Bool} {members : List (List Glyph × Tree)} {input rest : List Char},
    SpellsMembers first members input rest → members.length + rest.length ≤ input.length
  | _, [], _, _, .nil h => by
    have hle := h.length_le
    rw [List.length_nil]
    omega
  | _, (glyphs, tree) :: members, _, _, .cons hseparates hkey hgap htree hmembers => by
    have hinput := hseparates.length_le
    have hstart := hkey.length_lt
    have hvalue := hgap.length_le
    have hmore := htree.length_lt
    have hrest := hmembers.length_le
    rw [List.length_cons]
    omega

end

theorem SpellsItems.delimited {items : List Tree} {input rest : List Char}
    (h : SpellsItems false items input (']' :: rest)) : Delimited input := by
  cases h with
  | nil h => exact h.delimited (by decide)
  | cons hseparates =>
    cases hseparates with
    | comma h => exact h.delimited (by decide)

theorem SpellsMembers.delimited {members : List (List Glyph × Tree)} {input rest : List Char}
    (h : SpellsMembers false members input ('\x7d' :: rest)) : Delimited input := by
  cases h with
  | nil h => exact h.delimited (by decide)
  | cons hseparates =>
    cases hseparates with
    | comma h => exact h.delimited (by decide)

end ApiCatalog.Json
