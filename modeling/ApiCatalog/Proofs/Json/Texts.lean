import ApiCatalog.Proofs.Json.Numerals

/-!
# Texts in quotes

There are three ways to write a character of a text (`Glyph`), and surrogates are written in two parts, so a sequence of
glyphs need not mean anything (`meaning`). A reader makes of the glyphs what they mean, up to the closing quote
(`gives_readText`), and a reader that only skips them stops at the same place even where they mean nothing
(`skipText_afterQuote`).

The printer has one glyph for every character (`Glyph.ofChar`). What it writes for a text means the text
(`meaning_ofText`).
-/

namespace ApiCatalog.Json

/-! ## Glyphs -/

/-- A character as it is written: as it is, as a letter behind a backslash, or as a code unit, four digits behind `\u`. -/
inductive Glyph where
  | plain (c : Char) (hquote : c ≠ '"') (hbackslash : c ≠ '\\') (hcontrol : ¬c.toNat < 0x20)
  | short (letter meant : Char) (h : shortEscape letter = some meant)
  | unit (a b c d : Char) (n : Nat) (h : hexNumber a b c d = some n)

def Glyph.render : Glyph → List Char
  | .plain c _ _ _ => [c]
  | .short letter _ _ => ['\\', letter]
  | .unit a b c d _ _ => ['\\', 'u', a, b, c, d]

/-- The characters that are meant; surrogates must come in pairs. -/
def meaning : List Glyph → Option (List Char)
  | [] => some []
  | .plain c _ _ _ :: more => (meaning more).map (c :: ·)
  | .short _ meant _ :: more => (meaning more).map (meant :: ·)
  | .unit _ _ _ _ n _ :: more =>
    if isTrailingSurrogate n then none
    else if isLeadingSurrogate n then
      match more with
      | .unit _ _ _ _ trailing _ :: more =>
        if isTrailingSurrogate trailing then (meaning more).map (Char.ofNat (joinSurrogates n trailing) :: ·) else none
      | _ => none
    else (meaning more).map (Char.ofNat n :: ·)

def textMeant (glyphs : List Glyph) : Option String := (meaning glyphs).map String.ofList

/-- What follows the opening quote of a text. -/
def afterQuote (glyphs : List Glyph) (rest : List Char) : List Char := glyphs.flatMap Glyph.render ++ '"' :: rest

theorem afterQuote_cons (glyph : Glyph) (glyphs : List Glyph) (rest : List Char) :
    afterQuote (glyph :: glyphs) rest = glyph.render ++ afterQuote glyphs rest := by
  rw [afterQuote, List.flatMap_cons, List.append_assoc, afterQuote]

theorem afterQuote_plain {c : Char} (hquote : c ≠ '"') (hbackslash : c ≠ '\\') (hcontrol : ¬c.toNat < 0x20)
    (glyphs : List Glyph) (rest : List Char) :
    afterQuote (.plain c hquote hbackslash hcontrol :: glyphs) rest = c :: afterQuote glyphs rest := afterQuote_cons _ _ _

theorem afterQuote_short {letter meant : Char} (h : shortEscape letter = some meant) (glyphs : List Glyph)
    (rest : List Char) : afterQuote (.short letter meant h :: glyphs) rest = '\\' :: letter :: afterQuote glyphs rest :=
  afterQuote_cons _ _ _

theorem afterQuote_unit {a b c d : Char} {n : Nat} (h : hexNumber a b c d = some n) (glyphs : List Glyph)
    (rest : List Char) :
    afterQuote (.unit a b c d n h :: glyphs) rest = '\\' :: 'u' :: a :: b :: c :: d :: afterQuote glyphs rest :=
  afterQuote_cons _ _ _

theorem length_lt_afterQuote (glyphs : List Glyph) (rest : List Char) :
    glyphs.length + rest.length < (afterQuote glyphs rest).length := by
  induction glyphs with
  | nil => simp [afterQuote]
  | cons glyph glyphs ih =>
    rw [afterQuote_cons, List.length_append, List.length_cons]
    have hone : 1 ≤ glyph.render.length := by cases glyph <;> simp [Glyph.render]
    omega

/-! ## Reading -/

theorem ne_of_shortEscape {letter meant : Char} (h : shortEscape letter = some meant) : letter ≠ 'u' := by
  rintro rfl
  cases h

theorem readHex_unit {a b c d : Char} {n : Nat} (h : hexNumber a b c d = some n) (rest : List Char) :
    readHex (a :: b :: c :: d :: rest) = .ok (n, rest) := by
  rw [readHex, h]

theorem readTrailing_unit (leading : Nat) {a b c d : Char} {n : Nat} (h : hexNumber a b c d = some n) (rest : List Char) :
    readTrailing leading ('\\' :: 'u' :: a :: b :: c :: d :: rest) =
      if isTrailingSurrogate n then .ok (Char.ofNat (joinSurrogates leading n), rest)
      else .error (.here .loneSurrogate rest) := by
  rw [readTrailing, readHex_unit h]

theorem exists_readTrailing_plain (leading : Nat) {c : Char} (h : c ≠ '\\') (rest : List Char) :
    ∃ failure, readTrailing leading (c :: rest) = .error failure := by
  unfold readTrailing
  split
  · exact ⟨_, rfl⟩
  · next heq => exact absurd (List.cons.inj heq).1 h
  · next heq => exact absurd (List.cons.inj heq).1 h
  · next heq => exact absurd (List.cons.inj heq).1 h
  · exact ⟨_, rfl⟩

theorem exists_readTrailing_short (leading : Nat) {letter : Char} (h : letter ≠ 'u') (rest : List Char) :
    ∃ failure, readTrailing leading ('\\' :: letter :: rest) = .error failure := by
  unfold readTrailing
  split
  · exact ⟨_, rfl⟩
  · exact ⟨_, rfl⟩
  · next heq => exact absurd (List.cons.inj (List.cons.inj heq).2).1 h
  · exact ⟨_, rfl⟩
  · exact ⟨_, rfl⟩

theorem readEscape_unit {a b c d : Char} {n : Nat} (h : hexNumber a b c d = some n) (rest : List Char) :
    readEscape ('u' :: a :: b :: c :: d :: rest) =
      if isTrailingSurrogate n then .error (.here .loneSurrogate rest)
      else if isLeadingSurrogate n then readTrailing n rest
      else .ok (Char.ofNat n, rest) := by
  simp only [readEscape, if_true, readUnicodeEscape, readHex_unit h]

theorem gives_readChars : ∀ (glyphs : List Glyph) {budget : Nat}, glyphs.length < budget → ∀ rest : List Char,
    Gives (readChars budget (afterQuote glyphs rest)) (meaning glyphs) rest
  | [], budget + 1, _, rest => .ok
  | .plain c hquote hbackslash hcontrol :: more, budget + 1, hbudget, rest => by
    have hmore := gives_readChars more (Nat.lt_of_succ_lt_succ hbudget) rest
    rw [afterQuote_plain, readChars, if_neg hquote, if_neg hbackslash, if_neg hcontrol, meaning]
    exact hmore.map (c :: ·)
  | .short letter meant hmeant :: more, budget + 1, hbudget, rest => by
    have hmore := gives_readChars more (Nat.lt_of_succ_lt_succ hbudget) rest
    rw [afterQuote_short, readChars, if_neg (by decide), if_pos rfl, readEscape, if_neg (ne_of_shortEscape hmeant), hmeant,
      meaning]
    exact hmore.map (meant :: ·)
  | .unit a b c d n hn :: more, budget + 1, hbudget, rest => by
    have hmore := gives_readChars more (Nat.lt_of_succ_lt_succ hbudget) rest
    rw [afterQuote_unit, readChars, if_neg (by decide), if_pos rfl, readEscape_unit hn, meaning.eq_def]
    dsimp only
    split_ifs with htrailing hleading
    · exact .error
    · -- the first half of a pair, which the next glyph must complete
      match more with
      | [] => exact .error
      | .plain c _ hbackslash _ :: more =>
        obtain ⟨failure, hfailure⟩ := exists_readTrailing_plain n hbackslash (afterQuote more rest)
        rw [afterQuote_plain, hfailure]
        exact .error
      | .short letter meant hmeant :: more =>
        obtain ⟨failure, hfailure⟩ := exists_readTrailing_short n (ne_of_shortEscape hmeant) (afterQuote more rest)
        rw [afterQuote_short, hfailure]
        exact .error
      | .unit a b c d trailing htrailing :: more =>
        have hpair := gives_readChars more (Nat.lt_of_succ_lt (Nat.lt_of_succ_lt_succ hbudget)) rest
        rw [afterQuote_unit, readTrailing_unit n htrailing]
        dsimp only
        split_ifs
        · exact hpair.map (Char.ofNat (joinSurrogates n trailing) :: ·)
        · exact .error
    · exact hmore.map (Char.ofNat n :: ·)

theorem gives_readText (glyphs : List Glyph) (rest : List Char) :
    Gives (readText (afterQuote glyphs rest)) (textMeant glyphs) rest := by
  have hlength := length_lt_afterQuote glyphs rest
  exact (gives_readChars glyphs (by omega) rest).map String.ofList

/-! ## Skipping -/

theorem skipChars_glyph (budget : Nat) (glyph : Glyph) (input : List Char) :
    skipChars (budget + 1) (glyph.render ++ input) = skipChars budget input := by
  cases glyph with
  | plain c hquote hbackslash hcontrol =>
    rw [Glyph.render, List.singleton_append, skipChars, if_neg hquote, if_neg hbackslash, if_neg hcontrol]
  | short letter meant h =>
    show skipChars (budget + 1) ('\\' :: letter :: input) = _
    rw [skipChars, if_neg (by decide), if_pos rfl, skipEscape, if_neg (ne_of_shortEscape h), h, if_pos Option.isSome_some]
  | unit a b c d n h =>
    show skipChars (budget + 1) ('\\' :: 'u' :: a :: b :: c :: d :: input) = _
    rw [skipChars, if_neg (by decide), if_pos rfl, skipEscape, if_pos rfl, readHex_unit h]
    rfl

theorem skipChars_afterQuote {glyphs : List Glyph} {budget : Nat} (hbudget : glyphs.length < budget) (rest : List Char) :
    skipChars budget (afterQuote glyphs rest) = .ok rest := by
  induction glyphs generalizing budget with
  | nil =>
    obtain ⟨budget, rfl⟩ := Nat.exists_eq_add_one_of_ne_zero (Nat.ne_zero_of_lt hbudget)
    rfl
  | cons glyph glyphs ih =>
    obtain ⟨budget, rfl⟩ := Nat.exists_eq_add_one_of_ne_zero (Nat.ne_zero_of_lt hbudget)
    rw [afterQuote_cons, skipChars_glyph, ih (Nat.lt_of_succ_lt_succ hbudget)]

/-- **A text is skipped**, whether it means anything or not. -/
theorem skipText_afterQuote (glyphs : List Glyph) (rest : List Char) : skipText (afterQuote glyphs rest) = .ok rest := by
  have hlength := length_lt_afterQuote glyphs rest
  exact skipChars_afterQuote (by omega) rest

/-! ## Texts as they are printed -/

theorem fourHexDigits_control : ∀ n < 0x20,
    fourHexDigits n = ['0', '0', (n / 16).digitChar, (n % 16).digitChar] ∧
      hexNumber '0' '0' (n / 16).digitChar (n % 16).digitChar = some n := by
  decide

/-- How the printer writes a character. -/
def Glyph.ofChar (c : Char) : Glyph :=
  if hquote : c = '"' then .short '"' '"' rfl
  else if hbackslash : c = '\\' then .short '\\' '\\' rfl
  else if c = '\x08' then .short 'b' '\x08' rfl
  else if c = '\x0C' then .short 'f' '\x0C' rfl
  else if c = '\n' then .short 'n' '\n' rfl
  else if c = '\r' then .short 'r' '\r' rfl
  else if c = '\t' then .short 't' '\t' rfl
  else if hcontrol : c.toNat < 0x20 then
    .unit '0' '0' (c.toNat / 16).digitChar (c.toNat % 16).digitChar c.toNat (fourHexDigits_control c.toNat hcontrol).2
  else .plain c hquote hbackslash hcontrol

theorem render_ofChar (c : Char) : (Glyph.ofChar c).render = escapeChar c := by
  unfold Glyph.ofChar escapeChar
  split_ifs with hquote hbackslash hb hf hn hr ht hcontrol
  any_goals rfl
  rw [(fourHexDigits_control c.toNat hcontrol).1]
  rfl

theorem meaning_ofChar (c : Char) (more : List Glyph) : meaning (.ofChar c :: more) = (meaning more).map (c :: ·) := by
  unfold Glyph.ofChar
  split_ifs with hquote hbackslash hb hf hn hr ht hcontrol
  any_goals (subst_vars; rfl)
  have htrailing : isTrailingSurrogate c.toNat = false := by
    simp only [isTrailingSurrogate, Bool.and_eq_false_iff, decide_eq_false_iff_not]
    omega
  have hleading : isLeadingSurrogate c.toNat = false := by
    simp only [isLeadingSurrogate, Bool.and_eq_false_iff, decide_eq_false_iff_not]
    omega
  rw [meaning.eq_def]
  simp only [htrailing, hleading, Bool.false_eq_true, if_false, Char.ofNat_toNat]

def glyphsOf (text : String) : List Glyph := text.toList.map Glyph.ofChar

theorem renderText_append (text : String) (rest : List Char) :
    renderText text ++ rest = '"' :: afterQuote (glyphsOf text) rest := by
  have hglyphs : (glyphsOf text).flatMap Glyph.render = text.toList.flatMap escapeChar := by
    rw [glyphsOf, List.flatMap_map]
    simp only [render_ofChar]
  rw [afterQuote, hglyphs]
  simp [renderText]

theorem textMeant_glyphsOf (text : String) : textMeant (glyphsOf text) = some text := by
  have hmeaning (chars : List Char) : meaning (chars.map Glyph.ofChar) = some chars := by
    induction chars with
    | nil => rfl
    | cons c chars ih => rw [List.map_cons, meaning_ofChar, ih, Option.map_some]
  rw [textMeant, glyphsOf, hmeaning, Option.map_some, String.ofList_toList]

end ApiCatalog.Json
