import ApiCatalog.Proofs.Decimal.Doubles
import ApiCatalog.Proofs.Json.Printing

/-!
# Printed values can be told apart

What the printer writes for a value on one line belongs to no other value, and shows where it ends: a number at the first
character that no number has, a text at its closing quote, a list or an object at its closing bracket
(`unambiguous_render`). Nothing that is printed in this way has a line feed in it.
-/

namespace ApiCatalog.Json
open Text

/-! ## Numbers -/

theorem not_mem_delimiters_of_isDigit {c : Char} (h : c.isDigit = true) : c ∉ delimiters := by
  have hdelimiters : ∀ d ∈ delimiters, d.isDigit = false := by simp [delimiters]
  intro hmem
  exact Bool.false_ne_true ((hdelimiters c hmem).symm.trans h)

theorem IsNumeral.not_mem_delimiters {numeral : List Char} (h : IsNumeral numeral) : ∀ c ∈ numeral, c ∉ delimiters := by
  have hdigits {digits : List Char} (h : ∀ c ∈ digits, c.isDigit = true) : ∀ c ∈ digits, c ∉ delimiters :=
    fun c hc => not_mem_delimiters_of_isDigit (h c hc)
  obtain ⟨hwhole, hfraction, hexponent⟩ := h
  refine List.forall_mem_append.2 ⟨?_, List.forall_mem_append.2 ⟨?_, ?_⟩⟩
  · cases hwhole with
    | zero => exact List.forall_mem_singleton.2 (by decide)
    | positive hdigit _ hmore => exact hdigits (List.forall_mem_cons.2 ⟨hdigit, hmore⟩)
  · cases hfraction with
    | none => simp
    | some h => exact List.forall_mem_cons.2 ⟨by decide, hdigits h.2⟩
  · cases hexponent with
    | none => simp
    | some hmark hsign h =>
      refine List.forall_mem_cons.2 ⟨?_, List.forall_mem_append.2 ⟨?_, hdigits h.2⟩⟩
      · rcases hmark with rfl | rfl <;> decide
      · rcases hsign with rfl | rfl | rfl
        · exact List.forall_mem_nil _
        · exact List.forall_mem_singleton.2 (by decide)
        · exact List.forall_mem_singleton.2 (by decide)

theorem Number.not_mem_delimiters (number : Number) : ∀ c ∈ number.render, c ∉ delimiters := by
  obtain ⟨negative, numeral, hnumeral, hrender⟩ := number.exists_numeral
  rw [hrender]
  refine List.forall_mem_append.2 ⟨?_, hnumeral.not_mem_delimiters⟩
  cases negative with
  | false => exact List.forall_mem_nil _
  | true => exact List.forall_mem_singleton.2 (by decide)

theorem toDigits_ne_unsigned (n : ℕ) (d : Decimal.Double) : Nat.toDigits 10 n ≠ d.unsigned := by
  intro heq
  have hdigits := Decimal.allDigits_toDigits n
  rw [heq] at hdigits
  rcases d.point_or_exponent_mem_unsigned with h | h
  · exact hdigits.not_mem '.' rfl h
  · exact hdigits.not_mem 'e' rfl h

theorem Number.render_injective : Function.Injective Number.render := by
  intro a b heq
  cases a with
  | whole n =>
    rw [render_whole] at heq
    cases b with
    | whole m =>
      rw [render_whole] at heq
      obtain ⟨hsign, hdigits⟩ := sign_append_inj (isNumeral_toDigits _) (isNumeral_toDigits _) heq
      have habs : n.natAbs = m.natAbs := by
        rw [← Nat.ofDigitChars_ten_toDigits (n := n.natAbs), hdigits, Nat.ofDigitChars_ten_toDigits]
      rw [decide_eq_decide] at hsign
      rw [Number.whole.injEq]
      omega
    | double e =>
      have hrender : (Number.double e).render = _ := e.render_eq
      rw [hrender] at heq
      exact absurd (sign_append_inj (isNumeral_toDigits _) e.isNumeral_unsigned heq).2 (toDigits_ne_unsigned _ e)
  | double d =>
    have hrender : (Number.double d).render = _ := d.render_eq
    cases b with
    | whole m =>
      rw [hrender, render_whole] at heq
      exact absurd (sign_append_inj d.isNumeral_unsigned (isNumeral_toDigits _) heq).2.symm (toDigits_ne_unsigned _ d)
    | double e => rw [Decimal.Double.render_injective heq]

theorem unambiguous_number : Unambiguous Number.render Delimited :=
  .of_stops Number.render_injective Number.not_mem_delimiters

/-! ## Texts -/

theorem unambiguous_text : Unambiguous renderText fun _ => True := by
  have hread (text : String) (rest : List Char) : readText (renderText text ++ rest).tail = .ok (text, rest) := by
    have hgives := gives_readText (glyphsOf text) rest
    rw [textMeant_glyphsOf] at hgives
    rw [renderText_append]
    exact hgives
  intro a b rest rest' _ _ heq
  have hsame := hread a rest
  rw [heq, hread b rest'] at hsame
  cases hsame
  exact ⟨rfl, rfl⟩

/-! ## Values -/

inductive Kind where
  | null | bool | number | text | list | object
  deriving DecidableEq

def kind : Json → Kind
  | .null => .null
  | .bool _ => .bool
  | .number _ => .number
  | .text _ => .text
  | .list _ => .list
  | .object _ => .object

/-- What a value is, from its first character. -/
def kindOfStart (c : Char) : Kind :=
  if c = 'n' then .null
  else if c = 't' ∨ c = 'f' then .bool
  else if c = '"' then .text
  else if c = '[' then .list
  else if c = '\x7b' then .object
  else .number

theorem kindOfStart_of_isDigit {c : Char} (h : c.isDigit = true) : kindOfStart c = .number := by
  simp [kindOfStart, ne_of_isDigit h (d := 'n') rfl, ne_of_isDigit h (d := 't') rfl, ne_of_isDigit h (d := 'f') rfl,
    ne_of_isDigit h (d := '"') rfl, ne_of_isDigit h (d := '[') rfl, ne_of_isDigit h (d := '\x7b') rfl]

theorem exists_start (json : Json) : ∃ c more, json.render = c :: more ∧ kindOfStart c = json.kind ∧ c ≠ ']' := by
  cases json with
  | null => exact ⟨_, _, rfl, rfl, by decide⟩
  | bool value => cases value <;> exact ⟨_, _, rfl, rfl, by decide⟩
  | number value =>
    obtain ⟨negative, numeral, hnumeral, hrender⟩ := value.exists_numeral
    obtain ⟨first, more, rfl, hfirst⟩ := hnumeral.exists_digit
    cases negative with
    | true => exact ⟨'-', _, hrender, rfl, by decide⟩
    | false => exact ⟨first, more, hrender, kindOfStart_of_isDigit hfirst, ne_of_isDigit hfirst rfl⟩
  | text value => exact ⟨_, _, rfl, rfl, by decide⟩
  | list items => exact ⟨_, _, rfl, rfl, by decide⟩
  | object members => exact ⟨_, _, rfl, rfl, by decide⟩

theorem kind_eq {a b : Json} {rest rest' : List Char} (heq : a.render ++ rest = b.render ++ rest') : a.kind = b.kind := by
  obtain ⟨c, more, ha, hkind, -⟩ := a.exists_start
  obtain ⟨c', more', hb, hkind', -⟩ := b.exists_start
  rw [ha, hb] at heq
  rw [← hkind, ← hkind', (List.cons.inj heq).1]

theorem render_ne_closing (json : Json) (rest rest' : List Char) : json.render ++ rest ≠ ']' :: rest' := by
  obtain ⟨c, more, hrender, -, hne⟩ := json.exists_start
  rw [hrender]
  exact fun heq => hne (List.cons.inj heq).1

theorem itemsFrom_cons_ne_closing (first : Bool) (item : Json) (items : List Json) (rest rest' : List Char) :
    itemsFrom first (item :: items) ++ rest ≠ ']' :: rest' := by
  rw [itemsFrom_cons]
  cases first with
  | true =>
    rw [separator, if_pos rfl, List.nil_append, List.append_assoc]
    exact render_ne_closing item _ _
  | false => exact fun heq => absurd (List.cons.inj heq).1 (by decide)

theorem membersFrom_cons_ne_closing (first : Bool) (member : String × Json) (members : List (String × Json))
    (rest rest' : List Char) : membersFrom first (member :: members) ++ rest ≠ '\x7d' :: rest' := by
  rw [membersFrom_cons]
  cases first with
  | true => exact fun heq => absurd (List.cons.inj heq).1 (by decide)
  | false => exact fun heq => absurd (List.cons.inj heq).1 (by decide)

theorem delimited_itemsFrom (items : List Json) (rest : List Char) : Delimited (itemsFrom false items ++ ']' :: rest) := by
  cases items with
  | nil =>
    rw [itemsFrom_nil]
    exact delimited_cons (by decide)
  | cons item items => exact delimited_cons (by decide)

theorem delimited_membersFrom (members : List (String × Json)) (rest : List Char) :
    Delimited (membersFrom false members ++ '\x7d' :: rest) := by
  cases members with
  | nil =>
    rw [membersFrom_nil]
    exact delimited_cons (by decide)
  | cons member members => exact delimited_cons (by decide)

mutual

/-- **A value is told** from what is written, and so is its end. -/
theorem unambiguous_render : ∀ (a : Json) {b : Json} {rest rest' : List Char}, Delimited rest → Delimited rest' →
    a.render ++ rest = b.render ++ rest' → a = b ∧ rest = rest'
  | .null, b, rest, rest', _, _, heq => by
    cases b with
    | null => exact ⟨rfl, List.append_cancel_left heq⟩
    | _ => cases kind_eq heq
  | .bool value, b, rest, rest', _, _, heq => by
    cases b with
    | bool value' =>
      cases value with
      | true =>
        cases value' with
        | true => exact ⟨rfl, List.append_cancel_left heq⟩
        | false => cases heq
      | false =>
        cases value' with
        | true => cases heq
        | false => exact ⟨rfl, List.append_cancel_left heq⟩
    | _ => cases kind_eq heq
  | .number value, b, rest, rest', hrest, hrest', heq => by
    cases b with
    | number value' =>
      obtain ⟨rfl, hbehind⟩ := unambiguous_number hrest hrest' heq
      exact ⟨rfl, hbehind⟩
    | _ => cases kind_eq heq
  | .text value, b, rest, rest', _, _, heq => by
    cases b with
    | text value' =>
      obtain ⟨rfl, hbehind⟩ := unambiguous_text trivial trivial heq
      exact ⟨rfl, hbehind⟩
    | _ => cases kind_eq heq
  | .list items, b, rest, rest', _, _, heq => by
    cases b with
    | list items' =>
      rw [render, render, List.cons_append, List.cons_append, List.append_assoc, List.append_assoc] at heq
      obtain ⟨rfl, hbehind⟩ := unambiguous_itemsFrom true items (List.cons.inj heq).2
      exact ⟨rfl, hbehind⟩
    | _ => cases kind_eq heq
  | .object members, b, rest, rest', _, _, heq => by
    cases b with
    | object members' =>
      rw [render, render, List.cons_append, List.cons_append, List.append_assoc, List.append_assoc] at heq
      obtain ⟨rfl, hbehind⟩ := unambiguous_membersFrom true members (List.cons.inj heq).2
      exact ⟨rfl, hbehind⟩
    | _ => cases kind_eq heq

theorem unambiguous_itemsFrom : ∀ (first : Bool) (items : List Json) {items' : List Json} {rest rest' : List Char},
    itemsFrom first items ++ ']' :: rest = itemsFrom first items' ++ ']' :: rest' → items = items' ∧ rest = rest'
  | first, [], items', rest, rest', heq => by
    rw [itemsFrom_nil, List.nil_append] at heq
    cases items' with
    | nil =>
      rw [itemsFrom_nil, List.nil_append] at heq
      exact ⟨rfl, (List.cons.inj heq).2⟩
    | cons item' items' => exact absurd heq.symm (itemsFrom_cons_ne_closing first item' items' _ _)
  | first, item :: items, items', rest, rest', heq => by
    cases items' with
    | nil =>
      rw [itemsFrom_nil, List.nil_append] at heq
      exact absurd heq (itemsFrom_cons_ne_closing first item items _ _)
    | cons item' items' =>
      rw [itemsFrom_cons, itemsFrom_cons, List.append_assoc, List.append_assoc, List.append_assoc,
        List.append_assoc] at heq
      obtain ⟨rfl, hbehind⟩ := unambiguous_render item (delimited_itemsFrom items rest) (delimited_itemsFrom items' rest')
        (List.append_cancel_left heq)
      obtain ⟨rfl, hrest⟩ := unambiguous_itemsFrom false items hbehind
      exact ⟨rfl, hrest⟩

theorem unambiguous_membersFrom : ∀ (first : Bool) (members : List (String × Json)) {members' : List (String × Json)}
    {rest rest' : List Char}, membersFrom first members ++ '\x7d' :: rest = membersFrom first members' ++ '\x7d' :: rest' →
    members = members' ∧ rest = rest'
  | first, [], members', rest, rest', heq => by
    rw [membersFrom_nil, List.nil_append] at heq
    cases members' with
    | nil =>
      rw [membersFrom_nil, List.nil_append] at heq
      exact ⟨rfl, (List.cons.inj heq).2⟩
    | cons member' members' => exact absurd heq.symm (membersFrom_cons_ne_closing first member' members' _ _)
  | first, (key, value) :: members, members', rest, rest', heq => by
    cases members' with
    | nil =>
      rw [membersFrom_nil, List.nil_append] at heq
      exact absurd heq (membersFrom_cons_ne_closing first _ members _ _)
    | cons member' members' =>
      obtain ⟨key', value'⟩ := member'
      simp only [membersFrom_cons, renderMember, List.append_assoc, List.cons_append] at heq
      obtain ⟨rfl, hvalues⟩ := unambiguous_text trivial trivial (List.append_cancel_left heq)
      obtain ⟨rfl, hbehind⟩ := unambiguous_render value (delimited_membersFrom members rest)
        (delimited_membersFrom members' rest') (List.cons.inj hvalues).2
      obtain ⟨rfl, hrest⟩ := unambiguous_membersFrom false members hbehind
      exact ⟨rfl, hrest⟩

end

/-! ## Line feeds -/

theorem newline_not_mem_renderText (text : String) : '\n' ∉ renderText text := by
  have hcontrol : ∀ n < 0x20, '\n' ∉ '\\' :: 'u' :: fourHexDigits n := by decide
  have hescape (c : Char) : '\n' ∉ escapeChar c := by
    unfold escapeChar
    split_ifs with hquote hbackslash hb hf hn hr ht hbelow
    any_goals decide
    · exact hcontrol c.toNat hbelow
    · rw [List.mem_singleton]
      exact fun h => hn h.symm
  rw [renderText, List.mem_cons, List.mem_append, List.mem_flatMap, List.mem_singleton]
  rintro (h | ⟨c, -, h⟩ | h)
  · exact absurd h (by decide)
  · exact hescape c h
  · exact absurd h (by decide)

theorem Number.newline_not_mem_render (number : Number) : '\n' ∉ number.render :=
  fun h => number.not_mem_delimiters '\n' h (by decide)

mutual

theorem newline_not_mem_render : ∀ json : Json, '\n' ∉ json.render
  | .null => by decide
  | .bool true => by decide
  | .bool false => by decide
  | .number value => by
    rw [render]
    exact value.newline_not_mem_render
  | .text value => by
    rw [render]
    exact newline_not_mem_renderText value
  | .list items => by
    rw [render, List.mem_cons, List.mem_append, List.mem_singleton]
    rintro (h | h | h)
    · exact absurd h (by decide)
    · exact newline_not_mem_itemsFrom true items h
    · exact absurd h (by decide)
  | .object members => by
    rw [render, List.mem_cons, List.mem_append, List.mem_singleton]
    rintro (h | h | h)
    · exact absurd h (by decide)
    · exact newline_not_mem_membersFrom true members h
    · exact absurd h (by decide)

theorem newline_not_mem_itemsFrom : ∀ (first : Bool) (items : List Json), '\n' ∉ itemsFrom first items
  | first, [] => by
    rw [itemsFrom_nil]
    exact List.not_mem_nil
  | first, item :: items => by
    rw [itemsFrom_cons, List.mem_append, List.mem_append]
    rintro (h | h | h)
    · cases first <;> exact absurd h (by decide)
    · exact newline_not_mem_render item h
    · exact newline_not_mem_itemsFrom false items h

theorem newline_not_mem_membersFrom : ∀ (first : Bool) (members : List (String × Json)),
    '\n' ∉ membersFrom first members
  | first, [] => by
    rw [membersFrom_nil]
    exact List.not_mem_nil
  | first, (key, value) :: members => by
    rw [membersFrom_cons, renderMember, List.mem_append, List.mem_append, List.mem_append, List.mem_cons]
    rintro (h | (h | h | h) | h)
    · cases first <;> exact absurd h (by decide)
    · exact newline_not_mem_renderText key h
    · exact absurd h (by decide)
    · exact newline_not_mem_render value h
    · exact newline_not_mem_membersFrom false members h

end

/-! ## Lists of values -/

theorem intercalate_compact_injective :
    Function.Injective fun values : List Json => String.intercalate ", " (values.map compact) := by
  intro values others heq
  have hlists := congrArg String.toList heq
  dsimp only at hlists
  rw [String.toList_intercalate, String.toList_intercalate, List.map_map, List.map_map] at hlists
  have hunambiguous : Unambiguous (String.toList ∘ compact) Delimited := by
    intro a b rest rest' hrest hrest' h
    simp only [Function.comp_apply, compact, String.toList_ofList] at h
    exact unambiguous_render a hrest hrest' h
  have hnonempty (json : Json) : (String.toList ∘ compact) json ≠ [] := by
    obtain ⟨c, more, hrender, -, -⟩ := json.exists_start
    simp [compact, hrender]
  exact hunambiguous.intercalate delimited_nil hnonempty (by decide) (fun rest => delimited_cons (by decide)) hlists

theorem newline_not_mem_intercalate_compact (values : List Json) :
    '\n' ∉ (String.intercalate ", " (values.map compact)).toList := by
  rw [String.toList_intercalate, List.map_map]
  refine not_mem_intercalate (by decide) fun json _ => ?_
  rw [Function.comp_apply, compact, String.toList_ofList]
  exact newline_not_mem_render json

end ApiCatalog.Json
