import ApiCatalog.Proofs.Json.Numbers
import ApiCatalog.Proofs.Text.Splitting
import Mathlib.Tactic.LinearCombination

/-!
# Doubles are told from their texts

A decimal text has a value (`textValue`), however it is written: with zeros up to the point, with the point between the
digits or in front of them, or in scientific notation. The text of a double has the value of its shortest decimal
(`textValue_renderDecimal`), which rounds to this double and to no other. So doubles that are written alike are one
(`Double.render_injective`).
-/

namespace ApiCatalog.Decimal

/-! ## The value of a decimal text -/

/-- The exponent that the end of a text writes; without one it is zero. -/
def textExponent : List Char → ℤ
  | 'e' :: '-' :: digits => -(Nat.ofDigitChars 10 digits 0)
  | 'e' :: _ :: digits => Nat.ofDigitChars 10 digits 0
  | _ => 0

/-- The number that a text without a sign writes. -/
def textValue (text : List Char) : ℚ :=
  let mantissa := text.takeWhile (· ≠ 'e')
  let places := ((mantissa.dropWhile (· ≠ '.')).drop 1).length
  (Nat.ofDigitChars 10 (mantissa.filter Char.isDigit) 0 : ℕ) * (10 : ℚ) ^ (textExponent (text.dropWhile (· ≠ 'e')) - places)

def AllDigits (digits : List Char) : Prop := ∀ c ∈ digits, c.isDigit = true

theorem AllDigits.append {digits more : List Char} (h : AllDigits digits) (hmore : AllDigits more) :
    AllDigits (digits ++ more) :=
  List.forall_mem_append.2 ⟨h, hmore⟩

theorem allDigits_toDigits (n : ℕ) : AllDigits (Nat.toDigits 10 n) := fun _ hc => Json.isDigit_of_mem hc

theorem allDigits_zeros (k : ℕ) : AllDigits (List.replicate k '0') := fun _ => Json.isDigit_of_mem_zeros

theorem AllDigits.take {digits : List Char} (h : AllDigits digits) (k : ℕ) : AllDigits (digits.take k) :=
  fun c hc => h c (List.mem_of_mem_take hc)

theorem AllDigits.drop {digits : List Char} (h : AllDigits digits) (k : ℕ) : AllDigits (digits.drop k) :=
  fun c hc => h c (List.mem_of_mem_drop hc)

theorem AllDigits.not_mem {digits : List Char} (h : AllDigits digits) (c : Char) (hc : c.isDigit = false) : c ∉ digits :=
  fun hmem => Bool.false_ne_true (hc.symm.trans (h c hmem))

/-- What follows the digits of a text: nothing, or an exponent. -/
def IsEnd (exponent : List Char) : Prop := ∀ c ∈ exponent.head?, c = 'e'

theorem isEnd_nil : IsEnd [] := by simp [IsEnd]

theorem isEnd_cons (exponent : List Char) : IsEnd ('e' :: exponent) := by simp [IsEnd]

theorem textValue_point {whole fraction exponent : List Char} (hwhole : AllDigits whole) (hfraction : AllDigits fraction)
    (hend : IsEnd exponent) :
    textValue (whole ++ '.' :: fraction ++ exponent) =
      (Nat.ofDigitChars 10 (whole ++ fraction) 0 : ℕ) * (10 : ℚ) ^ (textExponent exponent - fraction.length) := by
  have hmantissa : 'e' ∉ whole ++ '.' :: fraction := by
    rw [List.mem_append, List.mem_cons]
    rintro (h | h | h)
    · exact hwhole.not_mem _ rfl h
    · exact absurd h (by decide)
    · exact hfraction.not_mem _ rfl h
  obtain ⟨htake, hdrop⟩ := takeWhile_ne hmantissa hend
  have hhead : ∀ c ∈ ('.' :: fraction).head?, c = '.' := by simp
  have hpoint := (takeWhile_ne (hwhole.not_mem '.' rfl) hhead).2
  have hfilter : (whole ++ '.' :: fraction).filter Char.isDigit = whole ++ fraction := by
    rw [List.filter_append, List.filter_cons_of_neg (by decide), List.filter_eq_self.2 hwhole,
      List.filter_eq_self.2 hfraction]
  unfold textValue
  simp only [htake, hdrop, hfilter, hpoint]
  rfl

theorem textValue_fraction {whole fraction : List Char} (hwhole : AllDigits whole) (hfraction : AllDigits fraction) :
    textValue (whole ++ '.' :: fraction) =
      (Nat.ofDigitChars 10 (whole ++ fraction) 0 : ℕ) * (10 : ℚ) ^ (-(fraction.length : ℤ)) := by
  have hexponent : textExponent [] = 0 := rfl
  have h := textValue_point hwhole hfraction isEnd_nil
  rwa [List.append_nil, hexponent, zero_sub] at h

theorem textValue_whole {whole exponent : List Char} (hwhole : AllDigits whole) (hend : IsEnd exponent) :
    textValue (whole ++ exponent) = (Nat.ofDigitChars 10 whole 0 : ℕ) * (10 : ℚ) ^ textExponent exponent := by
  obtain ⟨htake, hdrop⟩ := takeWhile_ne (hwhole.not_mem 'e' rfl) hend
  have hhead : ∀ c ∈ ([] : List Char).head?, c = '.' := by simp
  have hplaces := (takeWhile_ne (hwhole.not_mem '.' rfl) hhead).2
  rw [List.append_nil] at hplaces
  unfold textValue
  simp only [htake, hdrop, hplaces, List.filter_eq_self.2 hwhole]
  rw [List.drop_nil, List.length_nil, Nat.cast_zero, sub_zero]

/-! ## Decimals as they are written -/

namespace Double

theorem textValue_positional (n : ℕ) (p : ℤ) : textValue (positional (Nat.toDigits 10 n) p) = n * (10 : ℚ) ^ p := by
  have hdigits := allDigits_toDigits n
  have hvalue : Nat.ofDigitChars 10 (Nat.toDigits 10 n) 0 = n := Nat.ofDigitChars_ten_toDigits
  unfold positional
  by_cases hp : 0 ≤ p
  · obtain ⟨k, rfl⟩ := Int.eq_ofNat_of_zero_le hp
    have hten : (10 : ℚ) * 10 ^ (-(['0'].length : ℤ)) = 1 := by norm_num
    rw [if_pos hp]
    refine (textValue_fraction (hdigits.append (allDigits_zeros k)) (allDigits_zeros 1)).trans ?_
    rw [Nat.ofDigitChars_append, Nat.ofDigitChars_append, hvalue, Nat.ofDigitChars_replicate_zero,
      Nat.ofDigitChars_replicate_zero, zpow_natCast]
    push_cast
    linear_combination (n * (10 : ℚ) ^ k) * hten
  · obtain ⟨places, rfl⟩ : ∃ places : ℕ, p = -(places : ℤ) := ⟨(-p).toNat, by omega⟩
    rw [if_neg hp, neg_neg, Int.toNat_natCast]
    dsimp only
    split_ifs with hbetween
    · rw [textValue_fraction (hdigits.take _) (hdigits.drop _), List.take_append_drop, hvalue, List.length_drop,
        Nat.sub_sub_self hbetween.le]
    · refine (textValue_fraction (allDigits_zeros 1) ((allDigits_zeros _).append hdigits)).trans ?_
      rw [Nat.ofDigitChars_append, Nat.ofDigitChars_append, Nat.ofDigitChars_replicate_zero,
        Nat.ofDigitChars_replicate_zero, Nat.mul_zero, hvalue, List.length_append, List.length_replicate,
        Nat.sub_add_cancel (Nat.not_lt.1 hbetween)]

theorem textValue_scientific (n : ℕ) (p : ℤ) :
    textValue (scientific (Nat.toDigits 10 n) (p + (Nat.toDigits 10 n).length - 1)) = n * (10 : ℚ) ^ p := by
  have hdigits := allDigits_toDigits n
  have hvalue : Nat.ofDigitChars 10 (Nat.toDigits 10 n) 0 = n := Nat.ofDigitChars_ten_toDigits
  have hexponent (exponent : ℤ) : textExponent
      ('e' :: (if exponent < 0 then '-' else '+') :: Nat.toDigits 10 exponent.natAbs) = exponent := by
    split
    · show -((Nat.ofDigitChars 10 (Nat.toDigits 10 exponent.natAbs) 0 : ℕ) : ℤ) = exponent
      rw [Nat.ofDigitChars_ten_toDigits]
      omega
    · show ((Nat.ofDigitChars 10 (Nat.toDigits 10 exponent.natAbs) 0 : ℕ) : ℤ) = exponent
      rw [Nat.ofDigitChars_ten_toDigits]
      omega
  have hend (exponent : ℤ) : IsEnd
      ('e' :: (if exponent < 0 then '-' else '+') :: Nat.toDigits 10 exponent.natAbs) := isEnd_cons _
  have hne : Nat.toDigits 10 n ≠ [] := Nat.toDigits_ne_nil
  generalize Nat.toDigits 10 n = digits at *
  unfold scientific
  match digits with
  | [] => exact absurd rfl hne
  | [digit] =>
    refine (textValue_whole hdigits (hend _)).trans ?_
    rw [hvalue, hexponent]
    congr 2
    simp
  | first :: second :: rest =>
    refine (textValue_point (hdigits.take 1) (hdigits.drop 1) (hend _)).trans ?_
    rw [List.take_append_drop, hvalue, hexponent]
    congr 2
    simp only [List.length_cons, List.length_drop]
    push_cast
    omega

theorem textValue_renderDecimal (n : ℕ) (p : ℤ) : textValue (renderDecimal n p) = n * (10 : ℚ) ^ p := by
  unfold renderDecimal
  dsimp only
  split
  · exact textValue_positional n p
  · exact textValue_scientific n p

theorem point_or_exponent_mem_renderDecimal (n : ℕ) (p : ℤ) : '.' ∈ renderDecimal n p ∨ 'e' ∈ renderDecimal n p := by
  unfold renderDecimal positional scientific
  dsimp only
  split_ifs <;> simp

/-! ## Doubles -/

/-- The text of a double without its sign. -/
def unsigned (d : Double) : List Char :=
  if d.significand = 0 then ['0', '.', '0']
  else
    renderDecimal (shortest d.significand d.binaryExponent d.denserBelow).1
      (shortest d.significand d.binaryExponent d.denserBelow).2

theorem render_eq (d : Double) : d.render = Json.sign d.isNegative ++ d.unsigned := by
  unfold render unsigned
  dsimp only
  split <;> rfl

theorem isNumeral_unsigned (d : Double) : Json.IsNumeral d.unsigned := by
  unfold unsigned
  split
  · exact .mk .zero Json.isFraction_zero .none
  · next hsignificand => exact Json.isNumeral_renderDecimal (shortest_pos hsignificand) _

theorem point_or_exponent_mem_unsigned (d : Double) : '.' ∈ d.unsigned ∨ 'e' ∈ d.unsigned := by
  unfold unsigned
  split
  · exact .inl (by decide)
  · exact point_or_exponent_mem_renderDecimal _ _

theorem roundsTo_textValue {d : Double} (h : d.significand ≠ 0) :
    RoundsTo (textValue d.unsigned) d.significand d.binaryExponent d.denserBelow := by
  rw [unsigned, if_neg h, textValue_renderDecimal]
  exact roundsTo_shortest h

theorem textValue_unsigned_eq_zero {d : Double} : textValue d.unsigned = 0 ↔ d.significand = 0 := by
  constructor
  · intro hzero
    by_contra h
    exact ((roundsTo_textValue h).pos (Nat.pos_of_ne_zero h)).ne' hzero
  · intro h
    have hvalue := textValue_fraction (allDigits_zeros 1) (allDigits_zeros 1)
    have hdigits : Nat.ofDigitChars 10 (List.replicate 1 '0' ++ List.replicate 1 '0') 0 = 0 := by decide
    rw [hdigits, Nat.cast_zero, zero_mul] at hvalue
    rw [unsigned, if_pos h]
    exact hvalue

/-- **Doubles that are written alike are one.** -/
theorem render_injective : Function.Injective render := by
  intro d e heq
  rw [render_eq, render_eq] at heq
  obtain ⟨hsign, hunsigned⟩ := Json.sign_append_inj d.isNumeral_unsigned e.isNumeral_unsigned heq
  have hvalue : textValue d.unsigned = textValue e.unsigned := by rw [hunsigned]
  by_cases hzero : d.significand = 0
  · have hzero' : e.significand = 0 := textValue_unsigned_eq_zero.1 (hvalue ▸ textValue_unsigned_eq_zero.2 hzero)
    refine ext_parts hsign (hzero.trans hzero'.symm) ?_
    rw [binaryExponent_of_zero hzero, binaryExponent_of_zero hzero']
  · have hzero' : e.significand ≠ 0 := fun h =>
      hzero (textValue_unsigned_eq_zero.1 (hvalue.trans (textValue_unsigned_eq_zero.2 h)))
    have hrounds := roundsTo_textValue hzero'
    rw [← hvalue] at hrounds
    obtain ⟨hsignificand, hexponent⟩ := (roundsTo_textValue hzero).unique (isBinary hzero) (isBinary hzero') hrounds
    exact ext_parts hsign hsignificand hexponent

end Double
end ApiCatalog.Decimal
