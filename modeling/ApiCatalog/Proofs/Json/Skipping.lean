import ApiCatalog.Proofs.Json.Spelling

/-!
# Skipped values

A value is skipped from its first character to its last, whatever it is and however deep it nests (`skipValue_stands`).
The skipping reader goes by steps over a stack of open brackets, so the argument follows the tree of the value and says of
each part from which state to which state it is crossed (`Skips`), and in how many steps: no more than the characters that
it takes, which is what the reader allows.
-/

namespace ApiCatalog.Json

/-! ## Steps -/

/-- The reader gets from the one state to the other, in no more steps than it takes characters. -/
def Skips (state : SkipState) (input : List Char) (state' : SkipState) (input' : List Char) : Prop :=
  ∃ steps, steps + input'.length ≤ input.length ∧
    ∀ budget, skipFrom (steps + budget) state input = skipFrom budget state' input'

theorem Skips.refl (state : SkipState) (input : List Char) : Skips state input state input :=
  ⟨0, by omega, fun budget => by rw [Nat.zero_add]⟩

theorem Skips.trans {a b c : SkipState} {i j k : List Char} (hab : Skips a i b j) (hbc : Skips b j c k) :
    Skips a i c k := by
  obtain ⟨steps, hsteps, hskip⟩ := hab
  obtain ⟨steps', hsteps', hskip'⟩ := hbc
  refine ⟨steps + steps', by omega, fun budget => ?_⟩
  rw [Nat.add_assoc, hskip, hskip']

theorem Skips.step {state state' : SkipState} {input input' : List Char} (hopen : state ≠ .ended [])
    (h : skipStep state input = .ok (state', input')) (hlength : input'.length < input.length) :
    Skips state input state' input' := by
  refine ⟨1, by omega, fun budget => ?_⟩
  rw [Nat.add_comm, skipFrom]
  · rw [h]
  · exact hopen

theorem skipFrom_of_skips {budget : Nat} {state : SkipState} {input rest : List Char}
    (h : Skips state input (.ended []) rest) (hbudget : input.length ≤ budget) : skipFrom budget state input = .ok rest := by
  obtain ⟨steps, hsteps, hskip⟩ := h
  obtain ⟨more, rfl⟩ := Nat.exists_eq_add_of_le (Nat.le_trans (Nat.le_of_add_right_le hsteps) hbudget)
  rw [hskip, skipFrom]

/-! ## Scalars -/

theorem skipValueStart_scalar (outer : List Bracket) {c : Char} (hspace : isJsonSpace c = false) (hlist : c ≠ '[')
    (hobject : c ≠ '\x7b') {input rest : List Char} (h : skipScalar (c :: input) = .ok rest) :
    skipValueStart outer (c :: input) = .ok (.ended outer, rest) := by
  unfold skipValueStart
  rw [skipSpace_cons hspace]
  split
  · next heq => exact absurd (List.cons.inj heq).1 hlist
  · next heq => exact absurd (List.cons.inj heq).1 hobject
  · rw [h]
    rfl

theorem skipValueStart_number (outer : List Bracket) (negative : Bool) (numeral : Numeral) {rest : List Char}
    (hrest : Delimited rest) :
    skipValueStart outer (sign negative ++ (numeral.chars ++ rest)) = .ok (.ended outer, rest) := by
  have hskip := skipNumber_numeral numeral.isNumeral hrest
  cases negative with
  | true => exact skipValueStart_scalar outer rfl (by decide) (by decide) hskip
  | false =>
    obtain ⟨first, more, hchars, hfirst⟩ := numeral.isNumeral.exists_digit
    rw [hchars] at hskip ⊢
    refine skipValueStart_scalar outer (isJsonSpace_of_isDigit hfirst) (ne_of_isDigit hfirst rfl)
      (ne_of_isDigit hfirst rfl) ?_
    rw [skipScalar, if_neg (ne_of_isDigit hfirst rfl), if_neg (ne_of_isDigit hfirst rfl), if_neg (ne_of_isDigit hfirst rfl),
      if_neg (ne_of_isDigit hfirst rfl), if_neg (ne_of_isDigit hfirst rfl), if_pos hfirst]
    exact hskip

/-! ## Between the brackets -/

/-- Where an element may start: behind the opening bracket, or behind another element. -/
def between (first : Bool) (inner : Bracket) (outer : List Bracket) : SkipState :=
  if first then .opened inner outer else .ended (inner :: outer)

theorem between_ne (first : Bool) (inner : Bracket) (outer : List Bracket) : between first inner outer ≠ .ended [] := by
  cases first <;> simp [between]

theorem skips_closing (first : Bool) (inner : Bracket) (outer : List Bracket) {input rest : List Char}
    (h : Gap input (inner.closing :: rest)) : Skips (between first inner outer) input (.ended outer) rest := by
  have hle := h.length_le
  rw [List.length_cons] at hle
  have hspace : skipSpace input = inner.closing :: rest := h.skipSpace_token (by cases inner <;> rfl)
  refine .step (between_ne first inner outer) ?_ (by omega)
  cases first with
  | true =>
    show skipStep (.opened inner outer) input = _
    rw [skipStep, hspace]
    exact if_pos rfl
  | false =>
    show skipStep (.ended (inner :: outer)) input = _
    rw [skipStep, hspace]
    cases inner <;> rfl

theorem skipElementStart_congr (inner : Bracket) (outer : List Bracket) {input input' : List Char}
    (h : skipSpace input = skipSpace input') : skipElementStart inner outer input = skipElementStart inner outer input' := by
  cases inner with
  | list => rw [skipElementStart, skipElementStart, skipValueStart, skipValueStart, h]
  | object => rw [skipElementStart, skipElementStart, h]

theorem skipStep_between (first : Bool) (inner : Bracket) (outer : List Bracket) {input start more : List Char} {c : Char}
    (hseparates : Separates first input start) (hstart : Gap start (c :: more)) (hspace : isJsonSpace c = false)
    (hclosing : c ≠ inner.closing) :
    skipStep (between first inner outer) input = skipElementStart inner outer (c :: more) := by
  cases hseparates with
  | first =>
    show skipStep (.opened inner outer) input = _
    rw [skipStep, hstart.skipSpace_token hspace]
    exact if_neg hclosing
  | comma h =>
    show skipStep (.ended (inner :: outer)) input = _
    rw [skipStep, h.skipSpace_token rfl]
    exact skipElementStart_congr inner outer hstart.skipSpace

/-! ## Whole values -/

/-- The value is started in one step, and its end is reached from there. -/
def SkipsValue (tree : Tree) : Prop :=
  ∀ outer input rest, Spells tree input rest → Delimited rest → ∃ state input',
    skipValueStart outer input = .ok (state, input') ∧ input'.length < input.length ∧ Skips state input' (.ended outer) rest

theorem skips_scalar {tree : Tree} {outer : List Bracket} {input rest : List Char} (hspells : Spells tree input rest)
    (h : skipValueStart outer input = .ok (.ended outer, rest)) : ∃ state input',
      skipValueStart outer input = .ok (state, input') ∧ input'.length < input.length ∧
        Skips state input' (.ended outer) rest :=
  ⟨_, _, h, hspells.length_lt, .refl _ _⟩

theorem skips_item {item : Tree} (h : SkipsValue item) {first : Bool} (outer : List Bracket)
    {input start value rest : List Char} (hseparates : Separates first input start) (hgap : Gap start value)
    (hitem : Spells item value rest) (hrest : Delimited rest) :
    Skips (between first .list outer) input (between false .list outer) rest := by
  obtain ⟨state, input', hvalue, hlength, hskips⟩ := h (.list :: outer) value rest hitem hrest
  obtain ⟨c, more, rfl, hstarts⟩ := exists_starts hitem
  have hstep := skipStep_between first .list outer hseparates hgap hstarts.isJsonSpace hstarts.ne_closing
  have hinput := hseparates.length_le
  have hstart := hgap.length_le
  exact (Skips.step (between_ne first .list outer) (hstep.trans hvalue) (by omega)).trans hskips

theorem skipElementStart_key (outer : List Bracket) {glyphs : List Glyph} {colon rest : List Char}
    (hcolon : Gap colon (':' :: rest)) :
    skipElementStart .object outer ('"' :: afterQuote glyphs colon) = .ok (.value (.object :: outer), rest) := by
  rw [skipElementStart, skipSpace_cons rfl]
  dsimp only
  rw [if_pos rfl, skipText_afterQuote]
  dsimp only
  rw [hcolon.skipSpace_token rfl]
  rfl

theorem skips_member {tree : Tree} (h : SkipsValue tree) {first : Bool} (outer : List Bracket) {glyphs : List Glyph}
    {input key start value rest : List Char} (hseparates : Separates first input key) (hkey : SpellsKey glyphs key start)
    (hgap : Gap start value) (htree : Spells tree value rest) (hrest : Delimited rest) :
    Skips (between first .object outer) input (between false .object outer) rest := by
  obtain ⟨state, input', hvalue, hlength, hskips⟩ := h (.object :: outer) value rest htree hrest
  have hinput := hseparates.length_le
  have hlt := hkey.length_lt
  have hstart := hgap.length_le
  obtain ⟨colon, hquote, hcolon⟩ := hkey
  have hstep := skipStep_between first .object outer hseparates hquote rfl (by decide)
  have hcross : Skips (between first .object outer) input (.value (.object :: outer)) start :=
    .step (between_ne first .object outer) (hstep.trans (skipElementStart_key outer hcolon)) (by omega)
  have hgap' : skipStep (.value (.object :: outer)) start = .ok (state, input') := by
    rw [skipStep, skipValueStart, hgap.skipSpace, ← skipValueStart, hvalue]
  exact (hcross.trans (.step (by simp) hgap' (by omega))).trans hskips

mutual

theorem skipsValue : ∀ tree : Tree, SkipsValue tree
  | .null => fun outer input rest hspells _ => skips_scalar hspells (by cases hspells; rfl)
  | .bool true => fun outer input rest hspells _ => skips_scalar hspells (by cases hspells; rfl)
  | .bool false => fun outer input rest hspells _ => skips_scalar hspells (by cases hspells; rfl)
  | .number negative numeral => fun outer input rest hspells hrest => by
    refine skips_scalar hspells ?_
    cases hspells
    exact skipValueStart_number outer negative numeral hrest
  | .text glyphs => fun outer input rest hspells _ => by
    refine skips_scalar hspells ?_
    cases hspells
    exact skipValueStart_scalar outer rfl (by decide) (by decide) (skipText_afterQuote glyphs rest)
  | .list items => fun outer input rest hspells _ => by
    cases hspells with
    | @list _ body _ h => exact ⟨.opened .list outer, body, rfl, Nat.lt_succ_self _, skips_items true items outer h⟩
  | .object members => fun outer input rest hspells _ => by
    cases hspells with
    | @object _ body _ h => exact ⟨.opened .object outer, body, rfl, Nat.lt_succ_self _, skips_members true members outer h⟩

theorem skips_items : ∀ (first : Bool) (items : List Tree) (outer : List Bracket) {input rest : List Char},
    SpellsItems first items input (']' :: rest) → Skips (between first .list outer) input (.ended outer) rest
  | first, [], outer, _, _, .nil h => skips_closing first .list outer h
  | _, item :: items, outer, _, _, .cons hseparates hgap hitem hitems =>
    (skips_item (skipsValue item) outer hseparates hgap hitem hitems.delimited).trans (skips_items false items outer hitems)

theorem skips_members : ∀ (first : Bool) (members : List (List Glyph × Tree)) (outer : List Bracket)
    {input rest : List Char}, SpellsMembers first members input ('\x7d' :: rest) → Skips (between first .object outer) input (.ended outer) rest
  | first, [], outer, _, _, .nil h => skips_closing first .object outer h
  | _, (_, tree) :: members, outer, _, _, .cons hseparates hkey hgap htree hmembers =>
    (skips_member (skipsValue tree) outer hseparates hkey hgap htree hmembers.delimited).trans
      (skips_members false members outer hmembers)

end

/-- **A value is skipped**, whatever it is. -/
theorem skipValue_stands {tree : Tree} {input rest : List Char} (h : Stands tree input rest) (hrest : Delimited rest) :
    skipValue input = .ok rest := by
  obtain ⟨start, hgap, hspells⟩ := h
  obtain ⟨state, input', hstart, hlength, hskips⟩ := skipsValue tree [] start rest hspells hrest
  have hstep : skipStep (.value []) input = .ok (state, input') := by
    rw [skipStep, skipValueStart, hgap.skipSpace, ← skipValueStart, hstart]
  have hle := hgap.length_le
  exact skipFrom_of_skips ((Skips.step (by simp) hstep (by omega)).trans hskips) (Nat.le_succ _)

end ApiCatalog.Json
