import ApiCatalog.Proofs.Decimal.Intervals
import ApiCatalog.Proofs.Json.Numerals

/-!
# Numbers are written as numerals

A whole number is written by its decimal digits, which start with no superfluous zero (`isWhole_toDigits`). A double is
written positionally or in scientific notation, from digits that are positive, since what rounds to it is. So every
number, whatever its kind, is a sign and a numeral (`exists_numeral`).

A whole number of 64 bits is read back as it was (`readNumber_toDigits`). A double need not be.
-/

namespace ApiCatalog.Json

/-! ## Digits -/

theorem isDigit_of_mem {c : Char} {n : Nat} (h : c ∈ Nat.toDigits 10 n) : c.isDigit = true :=
  Nat.isDigit_of_mem_toDigits (by decide) (by decide) h

theorem isDigit_of_mem_zeros {c : Char} {k : Nat} (h : c ∈ List.replicate k '0') : c.isDigit = true := by
  rw [List.eq_of_mem_replicate h]
  rfl

theorem isDigits_toDigits (n : Nat) : IsDigits (Nat.toDigits 10 n) :=
  ⟨Nat.toDigits_ne_nil, fun _ h => isDigit_of_mem h⟩

theorem toDigits_of_pos {n : Nat} (h : 0 < n) : ∃ first more, Nat.toDigits 10 n = first :: more ∧ first ≠ '0' := by
  induction n using Nat.strongRecOn with
  | ind n ih =>
    by_cases hsmall : n < 10
    · refine ⟨n.digitChar, [], Nat.toDigits_of_lt_base hsmall, ?_⟩
      rw [Ne, Nat.digitChar_eq_zero]
      omega
    · obtain ⟨first, more, hdigits, hzero⟩ := ih (n / 10) (by omega) (by omega)
      refine ⟨first, more ++ [(n % 10).digitChar], ?_, hzero⟩
      rw [Nat.toDigits_of_base_le (by decide) (by omega), hdigits, List.cons_append]

theorem isWhole_append {n : Nat} (h : 0 < n) (more : List Char) (hmore : ∀ c ∈ more, c.isDigit = true) :
    IsWhole (Nat.toDigits 10 n ++ more) := by
  have hall : ∀ c ∈ Nat.toDigits 10 n, c.isDigit = true := fun _ hc => isDigit_of_mem hc
  obtain ⟨first, rest, hdigits, hzero⟩ := toDigits_of_pos h
  rw [hdigits] at hall ⊢
  obtain ⟨hfirst, hrest⟩ := List.forall_mem_cons.1 hall
  exact .positive hfirst hzero (List.forall_mem_append.2 ⟨hrest, hmore⟩)

theorem isWhole_toDigits (n : Nat) : IsWhole (Nat.toDigits 10 n) := by
  rcases Nat.eq_zero_or_pos n with rfl | h
  · rw [Nat.toDigits_zero]
    exact .zero
  · have hwhole := isWhole_append h [] (by simp)
    rwa [List.append_nil] at hwhole

theorem isNumeral_toDigits (n : Nat) : IsNumeral (Nat.toDigits 10 n) := by
  have hnumeral := IsNumeral.mk (isWhole_toDigits n) .none .none
  rwa [List.append_nil, List.append_nil] at hnumeral

theorem isFraction_zero : IsFraction ['.', '0'] := .some ⟨List.cons_ne_nil _ _, List.forall_mem_singleton.2 rfl⟩

/-! ## Whole numbers are read back -/

theorem le_ofDigitChars (digits : List Char) (n : Nat) : n ≤ Nat.ofDigitChars 10 digits n := by
  induction digits generalizing n with
  | nil => exact Nat.le_refl n
  | cons d digits ih =>
    have hmore := ih (10 * n + (d.toNat - '0'.toNat))
    rw [Nat.ofDigitChars_cons]
    omega

theorem gather_of_lt {bound : Nat} {digits : List Char} {n : Nat} (h : Nat.ofDigitChars 10 digits n < bound) :
    gather bound n digits = (Nat.ofDigitChars 10 digits n, []) := by
  induction digits generalizing n with
  | nil => rfl
  | cons d digits ih =>
    have hnext : n * 10 + digitValue d = 10 * n + (d.toNat - '0'.toNat) := by rw [digitValue, Nat.mul_comm]
    rw [Nat.ofDigitChars_cons, ← hnext] at h ⊢
    rw [gather, if_pos (Nat.lt_of_le_of_lt (le_ofDigitChars digits _) h), ih h]

theorem readAfterWhole_delimited (negative : Bool) (significand : Nat) {rest : List Char} (hrest : Delimited rest) :
    readAfterWhole negative significand 0 rest = .ok (wholeNumber negative significand, rest) := by
  have hnot : ¬startsExponent rest = true := by simp [startsExponent_of_delimited hrest]
  unfold readAfterWhole
  split
  · exact absurd rfl (exponent_ne_point .none hrest)
  · rw [if_neg hnot, if_pos rfl]

theorem readNumber_toDigits (negative : Bool) {n : Nat} (h : n < significandBound) {rest : List Char}
    (hrest : Delimited rest) : readNumber negative (Nat.toDigits 10 n ++ rest) = .ok (wholeNumber negative n, rest) := by
  have hstarts := startsDigit_of_delimited hrest
  rcases Nat.eq_zero_or_pos n with rfl | hpos
  · rw [Nat.toDigits_zero, List.singleton_append, readNumber, if_pos rfl, if_neg (by simp [hstarts]),
      readAfterWhole_delimited negative 0 hrest]
  · have hdigits : ∀ c ∈ Nat.toDigits 10 n, c.isDigit = true := fun _ hc => isDigit_of_mem hc
    obtain ⟨htake, hdrop⟩ := takeWhile_digits hdigits hstarts
    have hgather : gather significandBound 0 (Nat.toDigits 10 n) = (n, []) := by
      rw [gather_of_lt (by rwa [Nat.ofDigitChars_ten_toDigits]), Nat.ofDigitChars_ten_toDigits]
    obtain ⟨first, more, heq, hzero⟩ := toDigits_of_pos hpos
    have hfirst : first.isDigit = true := hdigits first (heq ▸ List.mem_cons_self)
    rw [heq] at htake hdrop hgather ⊢
    rw [List.cons_append] at htake hdrop ⊢
    rw [readNumber, if_neg hzero, if_pos hfirst, htake, hdrop, hgather]
    exact readAfterWhole_delimited negative n hrest

/-! ## Doubles -/

section Doubles
open Decimal Decimal.Double

theorem isNumeral_positional {n : Nat} (h : 0 < n) (p : Int) : IsNumeral (positional (Nat.toDigits 10 n) p) := by
  unfold positional
  dsimp only
  split_ifs with hp hplaces
  · exact .mk (isWhole_append h _ fun _ => isDigit_of_mem_zeros) isFraction_zero .none
  · -- the point stands between two of the digits
    obtain ⟨first, more, hdigits, hzero⟩ := toDigits_of_pos h
    have hall : ∀ c ∈ first :: more, c.isDigit = true := hdigits ▸ fun _ hc => isDigit_of_mem hc
    rw [hdigits] at hplaces ⊢
    obtain ⟨before, hbefore⟩ : ∃ k, (first :: more).length - (-p).toNat = k + 1 :=
      Nat.exists_eq_succ_of_ne_zero (by omega)
    rw [hbefore, List.take_succ_cons, List.drop_succ_cons]
    have hwhole : IsWhole (first :: more.take before) :=
      .positive (hall first List.mem_cons_self) hzero fun c hc => hall c (List.mem_cons_of_mem _ (List.mem_of_mem_take hc))
    have hfraction : IsFraction ('.' :: more.drop before) := by
      refine .some ⟨?_, fun c hc => hall c (List.mem_cons_of_mem _ (List.mem_of_mem_drop hc))⟩
      rw [Ne, List.drop_eq_nil_iff]
      rw [List.length_cons] at hbefore
      omega
    have hnumeral := IsNumeral.mk hwhole hfraction .none
    rwa [List.append_nil] at hnumeral
  · have hfraction : IsFraction
        ('.' :: (List.replicate ((-p).toNat - (Nat.toDigits 10 n).length) '0' ++ Nat.toDigits 10 n)) :=
      .some ⟨by simp [Nat.toDigits_ne_nil],
        List.forall_mem_append.2 ⟨fun _ => isDigit_of_mem_zeros, fun _ => isDigit_of_mem⟩⟩
    have hnumeral := IsNumeral.mk .zero hfraction .none
    rwa [List.append_nil] at hnumeral

theorem isNumeral_scientific (n : Nat) (exponent : Int) : IsNumeral (scientific (Nat.toDigits 10 n) exponent) := by
  have hexponent : IsExponent
      ('e' :: (if exponent < 0 then '-' else '+') :: Nat.toDigits 10 exponent.natAbs) := by
    have hdigits := isDigits_toDigits exponent.natAbs
    split
    · exact .some (.inl rfl) (.inr (.inr rfl)) hdigits
    · exact .some (.inl rfl) (.inr (.inl rfl)) hdigits
  have hwhole := isWhole_toDigits n
  have hall : ∀ c ∈ Nat.toDigits 10 n, c.isDigit = true := fun _ hc => isDigit_of_mem hc
  unfold scientific
  split
  · next first second rest hdigits =>
    rw [hdigits] at hwhole hall
    obtain ⟨hfirst, hrest⟩ := List.forall_mem_cons.1 hall
    have hsingle : IsWhole [first] := by
      cases hwhole with
      | positive hdigit hzero => exact .positive hdigit hzero (by simp)
    exact .mk hsingle (.some ⟨by simp, hrest⟩) hexponent
  · exact .mk hwhole .none hexponent

theorem isNumeral_renderDecimal {n : Nat} (h : 0 < n) (p : Int) : IsNumeral (renderDecimal n p) := by
  unfold renderDecimal
  dsimp only
  split_ifs with hrange
  · exact isNumeral_positional h p
  · exact isNumeral_scientific n _

end Doubles

/-! ## All numbers -/

/-- A sign, which only a negative number has. -/
def sign (negative : Bool) : List Char := if negative then ['-'] else []

theorem sign_append_inj {negative negative' : Bool} {numeral numeral' : List Char} (h : IsNumeral numeral)
    (h' : IsNumeral numeral') (heq : sign negative ++ numeral = sign negative' ++ numeral') :
    negative = negative' ∧ numeral = numeral' := by
  obtain ⟨first, more, rfl, hfirst⟩ := h.exists_digit
  obtain ⟨first', more', rfl, hfirst'⟩ := h'.exists_digit
  cases negative with
  | true =>
    cases negative' with
    | true => exact ⟨rfl, List.append_cancel_left heq⟩
    | false =>
      cases (List.cons.inj heq).1
      cases hfirst'
  | false =>
    cases negative' with
    | true =>
      cases (List.cons.inj heq).1
      cases hfirst
    | false => exact ⟨rfl, heq⟩

theorem Number.render_whole (n : Int) : (Number.whole n).render = sign (decide (n < 0)) ++ Nat.toDigits 10 n.natAbs := by
  show (toString n).toList = _
  rw [Int.toString_eq_repr, Int.repr_eq_if]
  by_cases h : 0 ≤ n
  · have habs : n.toNat = n.natAbs := by omega
    rw [if_pos h, Nat.toList_repr, sign, if_neg (by simpa using h), habs]
    rfl
  · have habs : (-n).toNat = n.natAbs := by omega
    rw [if_neg h, String.toList_append, Nat.toList_repr, sign, if_pos (by simpa using h), habs]
    rfl

theorem Number.exists_numeral (number : Number) :
    ∃ negative numeral, IsNumeral numeral ∧ number.render = sign negative ++ numeral := by
  cases number with
  | whole n => exact ⟨_, _, isNumeral_toDigits n.natAbs, render_whole n⟩
  | double d =>
    show ∃ negative numeral, _ ∧ d.render = _
    unfold Decimal.Double.render
    dsimp only
    split
    · exact ⟨d.isNegative, ['0', '.', '0'], .mk .zero isFraction_zero .none, rfl⟩
    · next hsignificand =>
      exact ⟨d.isNegative, _, isNumeral_renderDecimal (Decimal.Double.shortest_pos hsignificand) _, rfl⟩

/-! ## What is read for a number -/

/-- What is read where a number was written. -/
def Number.reread (number : Number) : Option Number :=
  match number.render with
  | '-' :: numeral => (readNumber true numeral).toOption.map Prod.fst
  | numeral => (readNumber false numeral).toOption.map Prod.fst

theorem Number.reread_eq {number : Number} {negative : Bool} {numeral : List Char} (hnumeral : IsNumeral numeral)
    (hrender : number.render = sign negative ++ numeral) :
    number.reread = (readNumber negative numeral).toOption.map Prod.fst := by
  obtain ⟨first, more, rfl, hfirst⟩ := hnumeral.exists_digit
  rw [reread, hrender]
  cases negative with
  | true => rfl
  | false =>
    -- a digit is no sign
    rw [sign, if_neg (by decide), List.nil_append]
    split
    · next heq =>
      cases heq
      cases hfirst
    · rfl

/-- **A whole number of 64 bits is read back.** -/
theorem Number.reread_whole {n : Int} (hlow : -0x8000000000000000 ≤ n) (hhigh : n < 0x10000000000000000) :
    (Number.whole n).reread = some (.whole n) := by
  have hbound : n.natAbs < significandBound := by
    show n.natAbs < 0x10000000000000000
    omega
  have hread := readNumber_toDigits (decide (n < 0)) hbound delimited_nil
  rw [List.append_nil] at hread
  rw [reread_eq (isNumeral_toDigits n.natAbs) (render_whole n), hread]
  show some (wholeNumber (decide (n < 0)) n.natAbs) = _
  unfold wholeNumber
  by_cases h : n < 0
  · have hrange : ¬(n.natAbs = 0 ∨ 0x8000000000000000 < n.natAbs) := by omega
    simp only [h, decide_true, Bool.not_true, Bool.false_eq_true, if_false, Bool.or_eq_true, decide_eq_true_eq,
      if_neg hrange, Option.some.injEq, Number.whole.injEq]
    omega
  · simp only [h, decide_false, Bool.not_false, if_true, Option.some.injEq, Number.whole.injEq]
    omega

end ApiCatalog.Json
