import ApiCatalog.Json.Reader
import Mathlib.Data.Int.Init
import Mathlib.Data.List.Basic

/-!
# Numbers as they are written

A numeral (`IsNumeral`) is a number without its sign: digits without a superfluous zero in front, then
perhaps a fraction and perhaps an exponent. A numeral is read to its end, whatever its value: what is read does not
depend on what follows, as long as that ends the number (`gives_readNumber`), and so a number that is skipped is
skipped as a whole (`skipNumber_numeral`).
-/

namespace ApiCatalog.Json

/-! ## What a reader returns -/

/-- The outcome is this result, read up to `rest`, or a failure where there is none. -/
def Gives {α : Type} (outcome : Outcome α) (result : Option α) (rest : List Char) : Prop :=
  match result with
  | some value => outcome = .ok (value, rest)
  | none => ∃ failure, outcome = .error failure

theorem Gives.ok {α : Type} {value : α} {rest : List Char} : Gives (.ok (value, rest)) (some value) rest := rfl

theorem Gives.error {α : Type} {failure : Failure} {rest : List Char} :
    Gives (.error failure : Outcome α) none rest := ⟨failure, rfl⟩

theorem Gives.cases {α : Type} {outcome : Outcome α} {result : Option α} {rest : List Char}
    (h : Gives outcome result rest) :
    (∃ value, outcome = .ok (value, rest) ∧ result = some value) ∨
      ∃ failure, outcome = .error failure ∧ result = none := by
  cases result with
  | some value => exact .inl ⟨value, h, rfl⟩
  | none =>
    obtain ⟨failure, hfailure⟩ := h
    exact .inr ⟨failure, hfailure, rfl⟩

theorem Gives.map {α β : Type} {outcome : Outcome α} {result : Option α} {rest : List Char} (h : Gives outcome result rest)
    (f : α → β) : Gives (outcome.map fun (value, rest) => (f value, rest)) (result.map f) rest := by
  obtain ⟨value, rfl, rfl⟩ | ⟨failure, rfl, rfl⟩ := h.cases
  · exact .ok
  · exact .error

theorem Gives.toOption_map_fst {α : Type} {outcome : Outcome α} {result : Option α} {rest : List Char}
    (h : Gives outcome result rest) : outcome.toOption.map Prod.fst = result := by
  obtain ⟨value, rfl, rfl⟩ | ⟨failure, rfl, rfl⟩ := h.cases
  · rfl
  · rfl

/-- The characters that end a value: white space, a comma and the closing brackets. -/
def delimiters : List Char := [' ', '\t', '\n', '\r', ',', ']', '\x7d']

/-- What may follow a value: nothing, or a character that ends it. -/
def Delimited (rest : List Char) : Prop := ∀ c ∈ rest.head?, c ∈ delimiters

theorem delimited_nil : Delimited [] := by simp [Delimited]

theorem delimited_cons {c : Char} {rest : List Char} (h : c ∈ delimiters) : Delimited (c :: rest) := by
  rintro _ ⟨⟩
  exact h

/-! ## Numerals -/

/-- One digit or more. -/
def IsDigits (digits : List Char) : Prop := digits ≠ [] ∧ ∀ c ∈ digits, c.isDigit = true

/-- The digits in front of the point. -/
inductive IsWhole : List Char → Prop
  | zero : IsWhole ['0']
  | positive {first : Char} {more : List Char} (hdigit : first.isDigit = true) (hzero : first ≠ '0')
      (hmore : ∀ c ∈ more, c.isDigit = true) : IsWhole (first :: more)

/-- The point and the digits behind it, if there are any. -/
inductive IsFraction : List Char → Prop
  | none : IsFraction []
  | some {digits : List Char} (h : IsDigits digits) : IsFraction ('.' :: digits)

/-- The exponent, if there is one; its sign may be left out. -/
inductive IsExponent : List Char → Prop
  | none : IsExponent []
  | some {mark : Char} {sign digits : List Char} (hmark : mark = 'e' ∨ mark = 'E')
      (hsign : sign = [] ∨ sign = ['+'] ∨ sign = ['-']) (h : IsDigits digits) : IsExponent (mark :: (sign ++ digits))

inductive IsNumeral : List Char → Prop
  | mk {whole fraction exponent : List Char} (hwhole : IsWhole whole) (hfraction : IsFraction fraction)
      (hexponent : IsExponent exponent) : IsNumeral (whole ++ (fraction ++ exponent))

theorem IsNumeral.exists_digit {numeral : List Char} (h : IsNumeral numeral) :
    ∃ first more, numeral = first :: more ∧ first.isDigit = true := by
  obtain ⟨hwhole, -, -⟩ := h
  cases hwhole with
  | zero => exact ⟨'0', _, rfl, rfl⟩
  | positive hdigit => exact ⟨_, _, rfl, hdigit⟩

theorem startsDigit_of_delimited {rest : List Char} (h : Delimited rest) : startsDigit rest = false := by
  have hdelimiters : ∀ c ∈ delimiters, c.isDigit = false := by simp [delimiters]
  cases rest with
  | nil => rfl
  | cons c rest => exact hdelimiters c (h c rfl)

theorem startsExponent_of_delimited {rest : List Char} (h : Delimited rest) : startsExponent rest = false := by
  have hdelimiters : ∀ c ∈ delimiters, (c = 'e' || c = 'E') = false := by simp [delimiters]
  cases rest with
  | nil => rfl
  | cons c rest => exact hdelimiters c (h c rfl)

theorem startsDigit_exponent {exponent rest : List Char} (h : IsExponent exponent) (hrest : Delimited rest) :
    startsDigit (exponent ++ rest) = false := by
  cases h with
  | none => exact startsDigit_of_delimited hrest
  | some hmark => rcases hmark with rfl | rfl <;> rfl

theorem startsExponent_mark {mark : Char} (h : mark = 'e' ∨ mark = 'E') (rest : List Char) :
    startsExponent (mark :: rest) = true := by
  rcases h with rfl | rfl <;> rfl

theorem startsDigit_fraction {fraction exponent rest : List Char} (h : IsFraction fraction)
    (hexponent : IsExponent exponent) (hrest : Delimited rest) :
    startsDigit (fraction ++ (exponent ++ rest)) = false := by
  cases h with
  | none =>
    rw [List.nil_append]
    exact startsDigit_exponent hexponent hrest
  | some => rfl

theorem exponent_ne_point {exponent rest fraction : List Char} (h : IsExponent exponent) (hrest : Delimited rest) :
    exponent ++ rest ≠ '.' :: fraction := by
  rintro heq
  cases h with
  | none =>
    rw [List.nil_append] at heq
    exact absurd (hrest '.' (by rw [heq]; rfl)) (by decide)
  | some hmark => rcases hmark with rfl | rfl <;> cases heq

theorem takeWhile_digits {digits rest : List Char} (h : ∀ c ∈ digits, c.isDigit = true) (hrest : startsDigit rest = false) :
    (digits ++ rest).takeWhile Char.isDigit = digits ∧ (digits ++ rest).dropWhile Char.isDigit = rest := by
  rw [List.takeWhile_append_of_pos h, List.dropWhile_append_of_pos h]
  cases rest with
  | nil => simp
  | cons c rest =>
    have hc : ¬c.isDigit = true := by simpa [startsDigit] using hrest
    rw [List.takeWhile_cons_of_neg hc, List.dropWhile_cons_of_neg hc, List.append_nil]
    exact ⟨rfl, rfl⟩

/-! ## Skipping -/

theorem IsDigits.startsDigit {digits : List Char} (h : IsDigits digits) (rest : List Char) :
    startsDigit (digits ++ rest) = true := by
  obtain ⟨first, more, rfl⟩ := List.exists_cons_of_ne_nil h.1
  exact h.2 first List.mem_cons_self

theorem IsDigits.ne_sign {digits : List Char} (h : IsDigits digits) {sign : Char} (hsign : sign.isDigit = false)
    (rest more : List Char) : digits ++ rest ≠ sign :: more := by
  intro heq
  have hstarts := h.startsDigit rest
  rw [heq] at hstarts
  exact absurd (hsign.symm.trans hstarts) Bool.false_ne_true

theorem skipExponent_digits {sign digits rest : List Char} (hsign : sign = [] ∨ sign = ['+'] ∨ sign = ['-'])
    (h : IsDigits digits) (hrest : Delimited rest) : skipExponent (sign ++ (digits ++ rest)) = .ok rest := by
  have hstarts := h.startsDigit rest
  have hdrop := (takeWhile_digits h.2 (startsDigit_of_delimited hrest)).2
  rcases hsign with rfl | rfl | rfl
  · rw [List.nil_append]
    unfold skipExponent
    split
    · next heq => exact absurd heq (h.ne_sign rfl rest _)
    · next heq => exact absurd heq (h.ne_sign rfl rest _)
    · simp only [hstarts, if_true, hdrop]
  · rw [List.singleton_append, skipExponent]
    simp only [hstarts, if_true, hdrop]
  · rw [List.singleton_append, skipExponent]
    simp only [hstarts, if_true, hdrop]

theorem skip_exponent {exponent rest : List Char} (h : IsExponent exponent) (hrest : Delimited rest) :
    (if startsExponent (exponent ++ rest) = true then skipExponent ((exponent ++ rest).drop 1)
      else .ok (exponent ++ rest)) = .ok rest := by
  cases h with
  | none =>
    have hnot : ¬startsExponent ([] ++ rest) = true := by simp [startsExponent_of_delimited hrest]
    rw [if_neg hnot]
    rfl
  | some hmark hsign hdigits =>
    rw [List.cons_append, if_pos (startsExponent_mark hmark _), List.append_assoc]
    exact skipExponent_digits hsign hdigits hrest

theorem skipAfterWhole_parts {fraction exponent rest : List Char} (hfraction : IsFraction fraction)
    (hexponent : IsExponent exponent) (hrest : Delimited rest) :
    skipAfterWhole (fraction ++ (exponent ++ rest)) = .ok rest := by
  cases hfraction with
  | none =>
    have hskip := skip_exponent hexponent hrest
    rw [List.nil_append]
    unfold skipAfterWhole
    split
    · next heq => exact absurd heq (exponent_ne_point hexponent hrest)
    · exact hskip
  | @some digits h =>
    have hstarts := h.startsDigit (exponent ++ rest)
    have hdrop := (takeWhile_digits h.2 (startsDigit_exponent hexponent hrest)).2
    rw [List.cons_append]
    unfold skipAfterWhole
    simp only [hstarts, if_true, hdrop]
    exact skip_exponent hexponent hrest

theorem skipNumber_numeral {numeral rest : List Char} (h : IsNumeral numeral) (hrest : Delimited rest) :
    skipNumber (numeral ++ rest) = .ok rest := by
  obtain ⟨hwhole, hfraction, hexponent⟩ := h
  rename_i whole fraction exponent
  have hafter := skipAfterWhole_parts hfraction hexponent hrest
  have hstarts := startsDigit_fraction hfraction hexponent hrest
  rw [List.append_assoc, List.append_assoc]
  generalize fraction ++ (exponent ++ rest) = tail at hafter hstarts
  cases hwhole with
  | zero =>
    show (if startsDigit tail = true then _ else skipAfterWhole tail) = _
    rw [if_neg (by simp [hstarts]), hafter]
  | @positive first more hdigit hzero hmore =>
    have hdrop := (takeWhile_digits (List.forall_mem_cons.2 ⟨hdigit, hmore⟩) hstarts).2
    show (if first = '0' then _ else if first.isDigit = true then
      skipAfterWhole ((first :: more ++ tail).dropWhile Char.isDigit) else _) = _
    rw [if_neg hzero, if_pos hdigit, hdrop, hafter]

/-! ## Reading -/

theorem gives_decimalNumber (negative : Bool) (significand : Nat) (exponent : Int) :
    ∃ value, ∀ rest, Gives (decimalNumber negative significand exponent rest) value rest := by
  unfold decimalNumber
  cases Decimal.Double.ofDecimal negative significand exponent with
  | none => exact ⟨none, fun rest => .error⟩
  | some value => exact ⟨some (.double value), fun rest => .ok⟩

theorem gives_readExponentDigits (negative : Bool) (significand : Nat) (exponent : Int) (positive : Bool)
    {digits : List Char} (h : IsDigits digits) :
    ∃ value, ∀ rest, Delimited rest →
      Gives (readExponentDigits negative significand exponent positive (digits ++ rest)) value rest := by
  obtain ⟨hne, hdigits⟩ := h
  obtain ⟨first, more, rfl⟩ := List.exists_cons_of_ne_nil hne
  have hfirst := hdigits first List.mem_cons_self
  have hread (rest : List Char) (hrest : Delimited rest) := takeWhile_digits hdigits (startsDigit_of_delimited hrest)
  simp only [List.cons_append] at hread ⊢
  rcases hgather : gather exponentBound 0 (first :: more) with ⟨written, _ | ⟨d, dropped⟩⟩
  · obtain ⟨value, hvalue⟩ := gives_decimalNumber negative significand
      (if positive then exponent + written else exponent - written)
    refine ⟨value, fun rest hrest => ?_⟩
    rw [readExponentDigits, if_pos hfirst, (hread rest hrest).1, (hread rest hrest).2, hgather]
    exact hvalue rest
  · by_cases hrange : (significand ≠ 0 && positive) = true
    · refine ⟨none, fun rest hrest => ?_⟩
      rw [readExponentDigits, if_pos hfirst, (hread rest hrest).1, (hread rest hrest).2, hgather]
      dsimp only
      rw [if_pos hrange]
      exact .error
    · refine ⟨some (.double (.zero negative)), fun rest hrest => ?_⟩
      rw [readExponentDigits, if_pos hfirst, (hread rest hrest).1, (hread rest hrest).2, hgather]
      dsimp only
      rw [if_neg hrange]
      exact .ok

theorem gives_readExponent (negative : Bool) (significand : Nat) (exponent : Int) {sign digits : List Char}
    (hsign : sign = [] ∨ sign = ['+'] ∨ sign = ['-']) (h : IsDigits digits) :
    ∃ value, ∀ rest, Delimited rest →
      Gives (readExponent negative significand exponent (sign ++ (digits ++ rest))) value rest := by
  rcases hsign with rfl | rfl | rfl
  · obtain ⟨value, hvalue⟩ := gives_readExponentDigits negative significand exponent true h
    refine ⟨value, fun rest hrest => ?_⟩
    rw [List.nil_append]
    unfold readExponent
    split
    · next heq => exact absurd heq (h.ne_sign rfl rest _)
    · next heq => exact absurd heq (h.ne_sign rfl rest _)
    · exact hvalue rest hrest
  · exact gives_readExponentDigits negative significand exponent true h
  · exact gives_readExponentDigits negative significand exponent false h

theorem gives_exponent (negative : Bool) (significand : Nat) (power : Int) {exponent : List Char}
    (h : IsExponent exponent) {plain : List Char → Outcome Number}
    (hplain : ∃ value, ∀ rest, Gives (plain rest) value rest) :
    ∃ value, ∀ rest, Delimited rest → Gives
      (if startsExponent (exponent ++ rest) = true then readExponent negative significand power ((exponent ++ rest).drop 1)
        else plain (exponent ++ rest)) value rest := by
  cases h with
  | none =>
    obtain ⟨value, hvalue⟩ := hplain
    refine ⟨value, fun rest hrest => ?_⟩
    have hnot : ¬startsExponent ([] ++ rest) = true := by simp [startsExponent_of_delimited hrest]
    rw [if_neg hnot]
    exact hvalue rest
  | some hmark hsign hdigits =>
    obtain ⟨value, hvalue⟩ := gives_readExponent negative significand power hsign hdigits
    refine ⟨value, fun rest hrest => ?_⟩
    rw [List.cons_append, if_pos (startsExponent_mark hmark _), List.append_assoc]
    exact hvalue rest hrest

theorem gives_readAfterWhole (negative : Bool) (significand dropped : Nat) {fraction exponent : List Char}
    (hfraction : IsFraction fraction) (hexponent : IsExponent exponent) :
    ∃ value, ∀ rest, Delimited rest →
      Gives (readAfterWhole negative significand dropped (fraction ++ (exponent ++ rest))) value rest := by
  cases hfraction with
  | none =>
    have hplain : ∃ value, ∀ rest, Gives (if dropped = 0 then .ok (wholeNumber negative significand, rest)
        else decimalNumber negative significand dropped rest) value rest := by
      by_cases hdropped : dropped = 0
      · refine ⟨some (wholeNumber negative significand), fun rest => ?_⟩
        rw [if_pos hdropped]
        exact .ok
      · simp only [if_neg hdropped]
        exact gives_decimalNumber negative significand dropped
    obtain ⟨value, hvalue⟩ := gives_exponent negative significand dropped hexponent hplain
    refine ⟨value, fun rest hrest => ?_⟩
    rw [List.nil_append]
    unfold readAfterWhole
    split
    · next heq => exact absurd heq (exponent_ne_point hexponent hrest)
    · exact hvalue rest hrest
  | @some digits h =>
    obtain ⟨hne, hdigits⟩ := h
    have hnotEmpty : ¬digits.isEmpty = true := by simpa using hne
    have hread (rest : List Char) (hrest : Delimited rest) := takeWhile_digits hdigits (startsDigit_exponent hexponent hrest)
    rcases hgather : gather significandBound significand digits with ⟨collected, left⟩
    obtain ⟨value, hvalue⟩ := gives_exponent negative collected (dropped - (digits.length - left.length : Nat)) hexponent
      (gives_decimalNumber negative collected (dropped - (digits.length - left.length : Nat)))
    refine ⟨value, fun rest hrest => ?_⟩
    show Gives (readFraction negative significand dropped (digits ++ (exponent ++ rest))) value rest
    unfold readFraction
    simp only [(hread rest hrest).1, (hread rest hrest).2, if_neg hnotEmpty, hgather]
    exact hvalue rest hrest

/-- **A numeral is read** to its end, and what is read does not depend on what follows. -/
theorem gives_readNumber (negative : Bool) {numeral : List Char} (h : IsNumeral numeral) :
    ∃ value, ∀ rest, Delimited rest → Gives (readNumber negative (numeral ++ rest)) value rest := by
  obtain ⟨hwhole, hfraction, hexponent⟩ := h
  rename_i whole fraction exponent
  cases hwhole with
  | zero =>
    obtain ⟨value, hvalue⟩ := gives_readAfterWhole negative 0 0 hfraction hexponent
    refine ⟨value, fun rest hrest => ?_⟩
    have hstarts := startsDigit_fraction hfraction hexponent hrest
    rw [List.append_assoc, List.append_assoc]
    show Gives (if startsDigit (fraction ++ (exponent ++ rest)) = true then _ else _) value rest
    rw [if_neg (by simp [hstarts])]
    exact hvalue rest hrest
  | @positive first more hdigit hzero hmore =>
    rcases hgather : gather significandBound 0 (first :: more) with ⟨significand, dropped⟩
    obtain ⟨value, hvalue⟩ := gives_readAfterWhole negative significand dropped.length hfraction hexponent
    refine ⟨value, fun rest hrest => ?_⟩
    obtain ⟨htake, hdrop⟩ := takeWhile_digits (List.forall_mem_cons.2 ⟨hdigit, hmore⟩)
      (startsDigit_fraction hfraction hexponent hrest)
    rw [List.append_assoc, List.append_assoc, List.cons_append]
    rw [List.cons_append] at htake hdrop
    rw [readNumber, if_neg hzero, if_pos hdigit, htake, hdrop, hgather]
    exact hvalue rest hrest

structure Numeral where
  chars : List Char
  isNumeral : IsNumeral chars

/-- The number that is meant, unless it is out of range. -/
def Numeral.number (numeral : Numeral) (negative : Bool) : Option Number :=
  (readNumber negative numeral.chars).toOption.map Prod.fst

theorem Numeral.gives_readNumber (numeral : Numeral) (negative : Bool) {rest : List Char} (hrest : Delimited rest) :
    Gives (readNumber negative (numeral.chars ++ rest)) (numeral.number negative) rest := by
  obtain ⟨value, hvalue⟩ := Json.gives_readNumber negative numeral.isNumeral
  have halone := (hvalue [] delimited_nil).toOption_map_fst
  rw [List.append_nil] at halone
  rw [Numeral.number, halone]
  exact hvalue rest hrest

end ApiCatalog.Json
