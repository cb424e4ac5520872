import ApiCatalog.Decimal.Double
import Mathlib.Algebra.Order.Field.Rat
import Mathlib.Algebra.Order.Field.Power
import Mathlib.Tactic.FieldSimp
import Mathlib.Tactic.Linarith
import Mathlib.Tactic.NormNum
import Mathlib.Tactic.Ring

/-!
# Rounding intervals

The reals that round to a double are an interval around it (`RoundsTo`), which the search for the shortest decimal looks
at through grids of whole numbers (`holds_inUnits`). The finest grid has a point in every interval, so the search ends with
a decimal that rounds to the double (`shortest_roundsTo`).

Two intervals have no point in common. Where they touch, at most one of them has its ends, since of two neighbours one
has an odd significand. So no decimal rounds to two doubles (`RoundsTo.unique`).
-/

namespace ApiCatalog.Decimal

/-! ## Intervals of rationals -/

/-- The distance from a double to the lower end of its interval, in quarter steps. -/
def reach (denserBelow : Bool) : ℕ := if denserBelow then 1 else 2

theorem reach_le (denserBelow : Bool) : reach denserBelow ≤ 2 := by cases denserBelow <;> decide

/-- A rational rounds to `m · 2^q`: it lies in the interval around it, or on an end of it when `m` is even. -/
def RoundsTo (x : ℚ) (m : ℕ) (q : ℤ) (denserBelow : Bool) : Prop :=
  let low : ℚ := ((4 * m - reach denserBelow : ℕ) : ℚ) * 2 ^ (q - 2)
  let high : ℚ := ((4 * m + 2 : ℕ) : ℚ) * 2 ^ (q - 2)
  if m % 2 = 0 then low ≤ x ∧ x ≤ high else low < x ∧ x < high

theorem zpow_eq_div {b : ℕ} (hb : b ≠ 0) (e : ℤ) : (b : ℚ) ^ e = ((b ^ e.toNat : ℕ) : ℚ) / ((b ^ (-e).toNat : ℕ) : ℚ) := by
  have hcast : (b : ℚ) ≠ 0 := Nat.cast_ne_zero.2 hb
  rcases le_total 0 e with h | h
  · obtain ⟨k, rfl⟩ := Int.eq_ofNat_of_zero_le h
    simp
  · obtain ⟨k, hk⟩ := Int.eq_ofNat_of_zero_le (Int.neg_nonneg.2 h)
    obtain rfl : e = -(k : ℤ) := by omega
    simp

theorem units_le_iff {a n s d u v : ℕ} (hd : 0 < d) (hu : 0 < u) :
    a * s * u ≤ n * (d * v) ↔ (a : ℚ) * ((s : ℚ) / d) ≤ n * ((v : ℚ) / u) := by
  have hd' : (0 : ℚ) < d := Nat.cast_pos.2 hd
  have hu' : (0 : ℚ) < u := Nat.cast_pos.2 hu
  rw [← mul_div_assoc, ← mul_div_assoc, div_le_div_iff₀ hd' hu', ← Nat.cast_le (α := ℚ)]
  push_cast
  rw [show (n : ℚ) * v * d = n * (d * v) by ring]

theorem le_units_iff {a n s d u v : ℕ} (hd : 0 < d) (hu : 0 < u) :
    n * (d * v) ≤ a * s * u ↔ n * ((v : ℚ) / u) ≤ (a : ℚ) * ((s : ℚ) / d) := by
  have hd' : (0 : ℚ) < d := Nat.cast_pos.2 hd
  have hu' : (0 : ℚ) < u := Nat.cast_pos.2 hu
  rw [← mul_div_assoc, ← mul_div_assoc, div_le_div_iff₀ hu' hd', ← Nat.cast_le (α := ℚ)]
  push_cast
  rw [show (n : ℚ) * v * d = n * (d * v) by ring]

/-- **A point of a grid lies in the interval** when it rounds to the double. -/
theorem holds_inUnits (m : ℕ) (q : ℤ) (denserBelow : Bool) (p : ℤ) (n : ℕ) :
    ((RoundingInterval.ofBinary m q denserBelow).inUnits p).holds n = true ↔
      RoundsTo (n * (10 : ℚ) ^ p) m q denserBelow := by
  have htwo : (2 : ℚ) ^ (q - 2) = ((2 ^ (q - 2).toNat : ℕ) : ℚ) / ((2 ^ (2 - q).toNat : ℕ) : ℚ) := by
    have h := zpow_eq_div (b := 2) (by decide) (q - 2)
    rwa [neg_sub] at h
  have hten : (10 : ℚ) ^ p = ((10 ^ p.toNat : ℕ) : ℚ) / ((10 ^ (-p).toNat : ℕ) : ℚ) := zpow_eq_div (by decide) p
  have hd : 0 < 2 ^ (2 - q).toNat := Nat.pow_pos (by decide)
  have hu : 0 < 10 ^ (-p).toNat := Nat.pow_pos (by decide)
  unfold RoundingInterval.holds RoundingInterval.inUnits RoundingInterval.ofBinary RoundsTo
  simp only [htwo, hten, Nat.pow_eq, beq_iff_eq]
  split
  · rw [Bool.and_eq_true, decide_eq_true_eq, decide_eq_true_eq, ← units_le_iff hd hu, ← le_units_iff hd hu]
    rfl
  · rw [Bool.and_eq_true, decide_eq_true_eq, decide_eq_true_eq, ← not_le, ← not_le, le_units_iff hd hu,
      units_le_iff hd hu, not_le, not_le]
    rfl

/-! ## Significands -/

/-- A significand and an exponent that a positive double can have. Exponents above the least go with long significands,
and where the shortest of these stands, the doubles below are denser. -/
structure IsBinary (m : ℕ) (q : ℤ) (denserBelow : Bool) : Prop where
  pos : 0 < m
  lt : m < 2 ^ 53
  least : -1074 ≤ q
  long : -1073 ≤ q → 2 ^ 52 ≤ m
  denser : denserBelow = true ↔ m = 2 ^ 52 ∧ -1073 ≤ q

/-! ## The search -/

theorem holds_of_nearest {r : RoundingInterval} {n : ℕ} (h : r.nearest = some n) : r.holds n = true := by
  unfold RoundingInterval.nearest at h
  dsimp only at h
  split at h
  · cases h
  · next hbelow _ =>
    cases h
    exact hbelow
  · next habove =>
    cases h
    exact habove
  · next hbelow habove =>
    split_ifs at h <;> cases h <;> assumption

theorem nearest_isSome {r : RoundingInterval} (h : r.holds (r.value / r.denominator) = true) :
    r.nearest.isSome = true := by
  unfold RoundingInterval.nearest
  dsimp only
  rw [h]
  split
  · next hbelow _ => cases hbelow
  · rfl
  · next hbelow _ => cases hbelow
  · split_ifs <;> rfl

theorem searchGrid_holds {r : RoundingInterval} {fine : ℤ} (hfine : (r.inUnits fine).nearest.isSome = true) (count : ℕ)
    (p : ℤ) (hcoarse : fine ≤ p) (hcount : p - count < fine) :
    (r.inUnits (searchGrid r count p).2).holds (searchGrid r count p).1 = true := by
  induction count generalizing p with
  | zero =>
    rw [Nat.cast_zero] at hcount
    omega
  | succ count ih =>
    rw [searchGrid]
    cases hnearest : (r.inUnits p).nearest with
    | some digits => exact holds_of_nearest hnearest
    | none =>
      have hne : fine ≠ p := by
        rintro rfl
        rw [hnearest] at hfine
        cases hfine
      push_cast at hcount
      exact ih (p - 1) (by omega) (by omega)

theorem holds_floor {r : RoundingInterval} (hdenominator : 0 < r.denominator) (hlow : r.low + r.denominator ≤ r.value)
    (hhigh : r.value < r.high) : r.holds (r.value / r.denominator) = true := by
  have hle : r.value / r.denominator * r.denominator ≤ r.value := Nat.div_mul_le_self _ _
  have hlt : r.value < r.value / r.denominator * r.denominator + r.denominator := Nat.lt_div_mul_add hdenominator
  unfold RoundingInterval.holds
  split
  · rw [Bool.and_eq_true, decide_eq_true_eq, decide_eq_true_eq]
    omega
  · rw [Bool.and_eq_true, decide_eq_true_eq, decide_eq_true_eq]
    omega

/-- **A grid has a point in the interval** when it is no coarser than the part of the interval below the double. -/
theorem nearest_of_fine {m : ℕ} {q p : ℤ} {denserBelow : Bool} (hm : 0 < m) (hp : p ≤ 0)
    (hfine : 2 ^ (2 - q).toNat ≤ reach denserBelow * 10 ^ (-p).toNat) :
    ((RoundingInterval.ofBinary m q denserBelow).inUnits p).nearest.isSome = true := by
  have hscale : 0 < 2 ^ (q - 2).toNat := Nat.pow_pos (by decide)
  have hunits : 0 < 10 ^ (-p).toNat := Nat.pow_pos (by decide)
  have hcoarse : 10 ^ p.toNat = 1 := by rw [Int.toNat_of_nonpos hp, pow_zero]
  have hreach : reach denserBelow ≤ 4 * m := (reach_le _).trans (by omega)
  apply nearest_isSome
  apply holds_floor
  · show 0 < 2 ^ (2 - q).toNat * 10 ^ p.toNat
    rw [hcoarse, Nat.mul_one]
    exact Nat.pow_pos (by decide)
  · show (4 * m - reach denserBelow) * 2 ^ (q - 2).toNat * 10 ^ (-p).toNat + 2 ^ (2 - q).toNat * 10 ^ p.toNat ≤
      4 * m * 2 ^ (q - 2).toNat * 10 ^ (-p).toNat
    rw [hcoarse, Nat.mul_one]
    generalize 2 ^ (q - 2).toNat = scale at hscale
    generalize 10 ^ (-p).toNat = units at hfine
    calc (4 * m - reach denserBelow) * scale * units + 2 ^ (2 - q).toNat
        ≤ (4 * m - reach denserBelow) * scale * units + reach denserBelow * scale * units := by
          refine Nat.add_le_add_left (hfine.trans ?_) _
          exact Nat.mul_le_mul_right units (Nat.le_mul_of_pos_right _ hscale)
      _ = (4 * m - reach denserBelow + reach denserBelow) * scale * units := by ring
      _ = 4 * m * scale * units := by rw [Nat.sub_add_cancel hreach]
  · show 4 * m * 2 ^ (q - 2).toNat * 10 ^ (-p).toNat < (4 * m + 2) * 2 ^ (q - 2).toNat * 10 ^ (-p).toNat
    exact Nat.mul_lt_mul_of_pos_right (Nat.mul_lt_mul_of_pos_right (by omega) hscale) hunits

/-- The finest grid is finer than a quarter step of the doubles above the least exponent. -/
theorem two_pow_le_ten_pow : 2 ^ 1075 ≤ 10 ^ 324 := by
  have hstep : 2 ^ 93 ≤ 10 ^ 28 := by decide
  have hrest : 2 ^ 52 ≤ 10 ^ 16 := by decide
  calc 2 ^ 1075 = (2 ^ 93) ^ 11 * 2 ^ 52 := by rw [← pow_mul, ← pow_add]
    _ ≤ (10 ^ 28) ^ 11 * 10 ^ 16 := Nat.mul_le_mul (Nat.pow_le_pow_left hstep 11) hrest
    _ = 10 ^ 324 := by rw [← pow_mul, ← pow_add]

theorem finest_fine {m : ℕ} {q : ℤ} {denserBelow : Bool} (h : IsBinary m q denserBelow) :
    2 ^ (2 - q).toNat ≤ reach denserBelow * 10 ^ 324 := by
  have hleast := h.least
  have hbinary : 2 ^ (2 - q).toNat ≤ reach denserBelow * 2 ^ 1075 := by
    cases hdenser : denserBelow with
    | true =>
      have hq := (h.denser.1 hdenser).2
      rw [reach, if_pos rfl, Nat.one_mul]
      exact pow_le_pow_right₀ one_le_two (by omega)
    | false =>
      rw [reach, if_neg Bool.false_ne_true, Nat.mul_comm, ← pow_succ]
      exact pow_le_pow_right₀ one_le_two (by omega)
  exact hbinary.trans (Nat.mul_le_mul_left _ two_pow_le_ten_pow)

/-- **The shortest decimal rounds to the double.** -/
theorem shortest_roundsTo {m : ℕ} {q : ℤ} {denserBelow : Bool} (h : IsBinary m q denserBelow) :
    RoundsTo ((shortest m q denserBelow).1 * (10 : ℚ) ^ (shortest m q denserBelow).2) m q denserBelow := by
  have hfine : 2 ^ (2 - q).toNat ≤ reach denserBelow * 10 ^ (-(-324 : ℤ)).toNat := by
    rw [show (-(-324 : ℤ)).toNat = 324 from rfl]
    exact finest_fine h
  rw [← holds_inUnits]
  exact searchGrid_holds (nearest_of_fine h.pos (by decide) hfine) 634 309 (by decide) (by decide)

/-! ## No decimal rounds to two doubles -/

section Common
variable {x : ℚ} {m m' : ℕ} {q q' : ℤ} {denserBelow denserBelow' : Bool}

theorem RoundsTo.bounds (h : RoundsTo x m q denserBelow) (hpos : 0 < m) :
    (4 * m - reach denserBelow) * (2 : ℚ) ^ (q - 2) ≤ x ∧ x ≤ (4 * m + 2) * (2 : ℚ) ^ (q - 2) ∧
      (m % 2 = 1 → (4 * m - reach denserBelow) * (2 : ℚ) ^ (q - 2) < x ∧ x < (4 * m + 2) * (2 : ℚ) ^ (q - 2)) := by
  have hreach : reach denserBelow ≤ 4 * m := (reach_le _).trans (by omega)
  unfold RoundsTo at h
  push_cast [Nat.cast_sub hreach] at h
  split at h
  · next heven => exact ⟨h.1, h.2, fun hodd => by omega⟩
  · exact ⟨h.1.le, h.2.le, fun _ => h⟩

theorem RoundsTo.pos (h : RoundsTo x m q denserBelow) (hpos : 0 < m) : 0 < x := by
  have hreach : (reach denserBelow : ℚ) < 4 * m := by
    have hlt : reach denserBelow < 4 * m := (reach_le _).trans_lt (by omega)
    exact_mod_cast hlt
  have hstep : (0 : ℚ) < 2 ^ (q - 2) := zpow_pos (by norm_num) _
  exact (mul_pos (sub_pos.2 hreach) hstep).trans_le (h.bounds hpos).1

theorem RoundsTo.low_le_high (hx : RoundsTo x m q denserBelow) (hx' : RoundsTo x m' q' denserBelow') (hpos : 0 < m)
    (hpos' : 0 < m') :
    (4 * m' - reach denserBelow') * (2 : ℚ) ^ (q' - 2) ≤ (4 * m + 2) * (2 : ℚ) ^ (q - 2) ∧
      (m % 2 = 1 ∨ m' % 2 = 1 →
        (4 * m' - reach denserBelow') * (2 : ℚ) ^ (q' - 2) < (4 * m + 2) * (2 : ℚ) ^ (q - 2)) := by
  obtain ⟨-, hhigh, hodd⟩ := hx.bounds hpos
  obtain ⟨hlow, -, hodd'⟩ := hx'.bounds hpos'
  refine ⟨hlow.trans hhigh, ?_⟩
  rintro (h | h)
  · exact hlow.trans_lt (hodd h).2
  · exact (hodd' h).1.trans_le hhigh

theorem quarters_eq (a q : ℤ) (k : ℕ) : (a : ℚ) * 2 ^ (q + k - 2) = ((a * 2 ^ k : ℤ) : ℚ) * 2 ^ (q - 2) := by
  have hsplit : (2 : ℚ) ^ (q + k - 2) = 2 ^ k * 2 ^ (q - 2) := by
    rw [← zpow_natCast, ← zpow_add₀ (by norm_num)]
    congr 1
    ring
  rw [hsplit]
  push_cast
  ring

theorem RoundsTo.quarters_le {k : ℕ} (hx : RoundsTo x m q denserBelow) (hx' : RoundsTo x m' (q + k) denserBelow')
    (hpos : 0 < m) (hpos' : 0 < m') :
    (4 * m' - reach denserBelow' : ℤ) * 2 ^ k ≤ 4 * m + 2 ∧
      (m % 2 = 1 ∨ m' % 2 = 1 → (4 * m' - reach denserBelow' : ℤ) * 2 ^ k < 4 * m + 2) := by
  have hstep : (0 : ℚ) < 2 ^ (q - 2) := zpow_pos (by norm_num) _
  have hlow : (4 * m' - reach denserBelow' : ℚ) * 2 ^ (q + k - 2) =
      (((4 * m' - reach denserBelow') * 2 ^ k : ℤ) : ℚ) * 2 ^ (q - 2) := by
    rw [← quarters_eq]
    push_cast
    rfl
  have hhigh : (4 * m + 2 : ℚ) = ((4 * m + 2 : ℤ) : ℚ) := by push_cast; rfl
  obtain ⟨hle, hlt⟩ := hx.low_le_high hx' hpos hpos'
  rw [hlow, hhigh, mul_le_mul_iff_of_pos_right hstep, Int.cast_le] at hle
  rw [hlow, hhigh, mul_lt_mul_iff_of_pos_right hstep, Int.cast_lt] at hlt
  exact ⟨hle, hlt⟩

/-- At one exponent, no decimal rounds to a significand and to a greater one: of two neighbours one is odd. -/
theorem RoundsTo.significand_le (hx : RoundsTo x m q denserBelow) (hx' : RoundsTo x m' q denserBelow') (hpos : 0 < m)
    (hpos' : 0 < m') : m' ≤ m := by
  have hreach : reach denserBelow' ≤ 2 := reach_le _
  rw [← Int.add_zero q] at hx'
  obtain ⟨hle, hlt⟩ := hx.quarters_le (k := 0) hx' hpos hpos'
  rw [pow_zero, Int.mul_one] at hle hlt
  by_contra hless
  have hodd : m % 2 = 1 ∨ m' % 2 = 1 := by omega
  have hends := hlt hodd
  omega

/-- No decimal rounds to doubles of two exponents: the longest significand ends where the shortest of the next exponent
begins, and it is odd. -/
theorem RoundsTo.exponent_le (h : IsBinary m q denserBelow) (h' : IsBinary m' q' denserBelow')
    (hx : RoundsTo x m q denserBelow) (hx' : RoundsTo x m' q' denserBelow') : q' ≤ q := by
  by_contra hless
  obtain ⟨k, rfl⟩ : ∃ k : ℕ, q' = q + k := ⟨(q' - q).toNat, by omega⟩
  have hshort : 2 ^ 52 ≤ m' := h'.long (by have := h.least; omega)
  have hlong := h.lt
  have htwo : (2 : ℤ) ≤ 2 ^ k := by
    calc (2 : ℤ) = 2 ^ 1 := (pow_one 2).symm
      _ ≤ 2 ^ k := pow_le_pow_right₀ (by norm_num) (by omega)
  have hreach : reach denserBelow' ≤ 2 := reach_le _
  have hstep : (4 * m' - reach denserBelow' : ℤ) * 2 ≤ (4 * m' - reach denserBelow' : ℤ) * 2 ^ k :=
    mul_le_mul_of_nonneg_left htwo (by omega)
  obtain ⟨hle, hlt⟩ := hx.quarters_le hx' h.pos h'.pos
  cases hdenser : denserBelow' with
  | false =>
    have hne : m' ≠ 2 ^ 52 := by
      intro heq
      have htrue := h'.denser.2 ⟨heq, by have := h.least; omega⟩
      rw [hdenser] at htrue
      cases htrue
    omega
  | true =>
    have hone : reach denserBelow' = 1 := by rw [hdenser]; rfl
    have hodd : m % 2 = 1 := by omega
    have hends := hlt (.inl hodd)
    omega

/-- **No decimal rounds to two doubles.** -/
theorem RoundsTo.unique (h : IsBinary m q denserBelow) (h' : IsBinary m' q' denserBelow')
    (hx : RoundsTo x m q denserBelow) (hx' : RoundsTo x m' q' denserBelow') : m = m' ∧ q = q' := by
  obtain rfl : q = q' := le_antisymm (hx'.exponent_le h' h hx) (hx.exponent_le h h' hx')
  exact ⟨le_antisymm (hx'.significand_le hx h'.pos h.pos) (hx.significand_le hx' h.pos h'.pos), rfl⟩

end Common

/-! ## The parts of a double -/

namespace Double

theorem fractionBits_eq (d : Double) : d.fractionBits = d.bits.toNat % 2 ^ 52 := by
  unfold fractionBits
  rw [UInt64.toNat_and]
  exact Nat.and_two_pow_sub_one_eq_mod _ 52

theorem exponentBits_eq (d : Double) : d.exponentBits = d.bits.toNat / 2 ^ 52 % 2 ^ 11 := by
  unfold exponentBits
  rw [UInt64.toNat_and, UInt64.toNat_shiftRight]
  show d.bits.toNat >>> 52 &&& (2 ^ 11 - 1) = _
  rw [Nat.and_two_pow_sub_one_eq_mod, Nat.shiftRight_eq_div_pow]

theorem isNegative_eq (d : Double) : d.isNegative = decide (d.bits.toNat / 2 ^ 63 = 1) := by
  unfold isNegative
  rw [decide_eq_decide, ← UInt64.toNat_inj, UInt64.toNat_shiftRight]
  show d.bits.toNat >>> 63 = 1 ↔ _
  rw [Nat.shiftRight_eq_div_pow]

theorem fractionBits_lt (d : Double) : d.fractionBits < 2 ^ 52 := by
  rw [fractionBits_eq]
  exact Nat.mod_lt _ (by decide)

theorem ext_bits {d e : Double} (hsign : d.isNegative = e.isNegative) (hexponent : d.exponentBits = e.exponentBits)
    (hfraction : d.fractionBits = e.fractionBits) : d = e := by
  obtain ⟨bits⟩ := d
  obtain ⟨bits'⟩ := e
  have hd := bits.toNat_lt
  have he := bits'.toNat_lt
  simp only [isNegative_eq, decide_eq_decide, exponentBits_eq, fractionBits_eq] at hsign hexponent hfraction
  rw [Double.mk.injEq, ← UInt64.toNat_inj]
  omega

theorem ext_parts {d e : Double} (hsign : d.isNegative = e.isNegative) (hsignificand : d.significand = e.significand)
    (hexponent : d.binaryExponent = e.binaryExponent) : d = e := by
  have hd := d.fractionBits_lt
  have he := e.fractionBits_lt
  unfold significand at hsignificand
  unfold binaryExponent at hexponent
  by_cases hdzero : d.exponentBits = 0
  · rw [if_pos hdzero] at hsignificand
    by_cases hezero : e.exponentBits = 0
    · rw [if_pos hezero] at hsignificand
      exact ext_bits hsign (hdzero.trans hezero.symm) hsignificand
    · rw [if_neg hezero] at hsignificand
      omega
  · rw [if_neg hdzero] at hsignificand hexponent
    by_cases hezero : e.exponentBits = 0
    · rw [if_pos hezero] at hsignificand
      omega
    · rw [if_neg hezero] at hsignificand hexponent
      exact ext_bits hsign (by omega) (by omega)

theorem binaryExponent_of_zero {d : Double} (h : d.significand = 0) : d.binaryExponent = -1074 := by
  unfold significand at h
  unfold binaryExponent
  split at h
  · next hexponent => exact if_pos hexponent
  · omega

theorem isBinary {d : Double} (h : d.significand ≠ 0) : IsBinary d.significand d.binaryExponent d.denserBelow := by
  have hfraction := d.fractionBits_lt
  unfold significand at h
  unfold significand binaryExponent denserBelow
  by_cases hexponent : d.exponentBits = 0
  · rw [if_pos hexponent] at h
    rw [if_pos hexponent, if_pos hexponent]
    constructor
    · omega
    · omega
    · omega
    · omega
    · simp only [Bool.and_eq_true, decide_eq_true_eq]
      omega
  · rw [if_neg hexponent, if_neg hexponent]
    constructor
    · omega
    · omega
    · omega
    · omega
    · simp only [Bool.and_eq_true, decide_eq_true_eq]
      omega

theorem roundsTo_shortest {d : Double} (h : d.significand ≠ 0) :
    RoundsTo ((shortest d.significand d.binaryExponent d.denserBelow).1 *
      (10 : ℚ) ^ (shortest d.significand d.binaryExponent d.denserBelow).2)
      d.significand d.binaryExponent d.denserBelow :=
  shortest_roundsTo (isBinary h)

theorem shortest_pos {d : Double} (h : d.significand ≠ 0) :
    0 < (shortest d.significand d.binaryExponent d.denserBelow).1 := by
  refine Nat.pos_of_ne_zero fun hzero => ?_
  have hrounds := roundsTo_shortest h
  rw [hzero, Nat.cast_zero, zero_mul] at hrounds
  exact (hrounds.pos (Nat.pos_of_ne_zero h)).ne' rfl

end Double
end ApiCatalog.Decimal
