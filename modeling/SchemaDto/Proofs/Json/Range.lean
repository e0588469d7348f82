/-
# The range of numbers

A decimal is read in two roundings, one of its units and one of a product or quotient
with a power of ten.  A rounding at most doubles or halves what it rounds, so a decimal
well below the largest double never leaves the range: a numeral below `10 ^ 307`, as its
whole digits and its exponent tell, has a value (`Numeral.isSome_number?`).
-/
import Mathlib.Algebra.Order.Field.Power
import Mathlib.Data.Nat.Cast.Order.Field
import Mathlib.Data.Rat.Cast.Order
import Mathlib.Tactic.FieldSimp
import Mathlib.Tactic.Linarith
import Mathlib.Tactic.Positivity
import Mathlib.Tactic.Ring
import SchemaDto.Json.Numeral

namespace SchemaDto.Json

/-! ## Values -/

/-- The value of a fraction. -/
def Fraction.value (q : Fraction) : ℚ := q.num / q.den

/-- The value of a double. -/
def Double.value (x : Double) : ℚ := x.mantissa * 2 ^ x.exponent

theorem Fraction.natCast_value (n : Nat) : Fraction.value ⟨n, 1⟩ = n := by
  simp [value]

theorem Fraction.mul_value (p q : Fraction) :
    Fraction.value ⟨p.num * q.num, p.den * q.den⟩ = p.value * q.value := by
  rw [value, value, value, Nat.cast_mul, Nat.cast_mul, div_mul_div_comm]

theorem Fraction.div_value (p q : Fraction) :
    Fraction.value ⟨p.num * q.den, p.den * q.num⟩ = p.value / q.value := by
  rw [value, value, value, Nat.cast_mul, Nat.cast_mul, div_div_div_eq]

theorem Fraction.num_pos {q : Fraction} (h : 0 < q.value) : 0 < q.num := by
  refine Nat.pos_of_ne_zero fun zero => ?_
  simp [value, zero] at h

theorem Fraction.shift_value (q : Fraction) (exponent : Int) :
    (q.shift exponent).value = q.value * 2 ^ exponent := by
  unfold shift
  split
  · next positive =>
    obtain ⟨n, rfl⟩ : ∃ n : Nat, exponent = n := ⟨exponent.toNat, by omega⟩
    simp only [value, Int.toNat_natCast, zpow_natCast, Nat.pow_eq, Nat.cast_mul, Nat.cast_pow,
      Nat.cast_ofNat]
    ring
  · next negative =>
    obtain ⟨n, rfl⟩ : ∃ n : Nat, exponent = -(n : Int) := ⟨(-exponent).toNat, by omega⟩
    simp only [value, Int.neg_neg, Int.toNat_natCast, zpow_neg, zpow_natCast, Nat.pow_eq,
      Nat.cast_mul, Nat.cast_pow, Nat.cast_ofNat]
    field_simp

theorem Fraction.shift_den_pos {q : Fraction} (h : 0 < q.den) (exponent : Int) :
    0 < (q.shift exponent).den := by
  unfold shift
  split
  · exact h
  · exact Nat.mul_pos h (Nat.pow_pos (by omega))

theorem Double.toFraction_value (x : Double) : x.toFraction.value = x.value := by
  rw [toFraction, Fraction.shift_value, value, Fraction.value]
  simp

theorem Double.toFraction_den_pos (x : Double) : 0 < x.toFraction.den :=
  Fraction.shift_den_pos Nat.one_pos x.exponent

theorem Double.value_nonneg (x : Double) : 0 ≤ x.value := by
  exact mul_nonneg (Nat.cast_nonneg _) (zpow_nonneg (by norm_num) _)

/-! ## One rounding -/

/-- Rounding to a natural number at most doubles. -/
theorem Fraction.round_le {q : Fraction} (h : 0 < q.den) : (q.round : ℚ) ≤ 2 * q.value := by
  have parts : q.den * (q.num / q.den) + q.num % q.den = q.num := Nat.div_add_mod q.num q.den
  have bound : q.round * q.den ≤ 2 * q.num := by
    unfold round
    dsimp only
    split
    · next up =>
      have half : q.den ≤ 2 * (q.num % q.den) := by
        simp only [Bool.or_eq_true, decide_eq_true_eq, Bool.and_eq_true, beq_iff_eq] at up
        omega
      calc (q.num / q.den + 1) * q.den = q.den * (q.num / q.den) + q.den := by ring
        _ ≤ 2 * q.num := by omega
    · calc q.num / q.den * q.den = q.den * (q.num / q.den) := Nat.mul_comm _ _
        _ ≤ 2 * q.num := by omega
  have positive : (0 : ℚ) < q.den := by exact_mod_cast h
  rw [value, mul_div_assoc', le_div_iff₀ positive]
  exact_mod_cast bound

/-- From one on, rounding to a natural number at most halves. -/
theorem Fraction.le_round {q : Fraction} (h : 0 < q.den) (large : 1 ≤ q.value) :
    q.value ≤ 2 * q.round := by
  have positive : (0 : ℚ) < q.den := by exact_mod_cast h
  rw [value, le_div_iff₀ positive, one_mul] at large
  have floor : 1 ≤ q.num / q.den := (Nat.one_le_div_iff h).mpr (by exact_mod_cast large)
  have le : q.num / q.den ≤ q.round := by
    unfold round
    dsimp only
    split
    · exact Nat.le_succ _
    · exact Nat.le_refl _
  have bound : q.num ≤ 2 * q.round * q.den := by
    have parts : q.den * (q.num / q.den) + q.num % q.den = q.num := Nat.div_add_mod q.num q.den
    have rest : q.num % q.den < q.den := Nat.mod_lt q.num h
    calc q.num ≤ q.den * (q.num / q.den) + q.den := by omega
      _ = (q.num / q.den + 1) * q.den := by ring
      _ ≤ 2 * q.round * q.den := Nat.mul_le_mul_right _ (by omega)
  rw [value, div_le_iff₀ positive]
  exact_mod_cast bound

/-- Rounding does not pass a natural number. -/
theorem Fraction.round_le_of_le {q : Fraction} (h : 0 < q.den) {bound : Nat}
    (le : q.value ≤ bound) : q.round ≤ bound := by
  have positive : (0 : ℚ) < q.den := by exact_mod_cast h
  rw [value, div_le_iff₀ positive] at le
  have le : q.num ≤ bound * q.den := by exact_mod_cast le
  have floor : q.num / q.den ≤ bound := Nat.div_le_of_le_mul (by rwa [Nat.mul_comm])
  unfold round
  dsimp only
  split
  · next up =>
    -- At the bound itself nothing is left to round up.
    refine Nat.lt_of_le_of_ne floor fun eq => ?_
    have parts : q.den * (q.num / q.den) + q.num % q.den = q.num := Nat.div_add_mod q.num q.den
    have rest : q.num % q.den = 0 := by
      rw [eq, Nat.mul_comm] at parts
      omega
    simp [rest] at up
    omega
  · exact floor

theorem Fraction.floor_lt {q : Fraction} {bound : Nat} (h : q.value < bound) :
    q.num / q.den < bound := by
  have floor : ((q.num / q.den : Nat) : ℚ) ≤ q.value := Nat.cast_div_le
  exact_mod_cast floor.trans_lt h

namespace Double

/-- The largest double, as a number. -/
def top : Nat := (2 ^ 53 - 1) * 2 ^ 971

theorem top_lt : top < 2 ^ 1024 := by decide +kernel

theorem top_value : (top : ℚ) = (2 ^ 53 - 1 : Nat) * 2 ^ (971 : Int) := by
  rw [top, Nat.cast_mul, Nat.cast_pow, ← zpow_natCast]
  rfl

/-- Up to the largest double, the units of the largest exponent fit into a mantissa. -/
theorem units_le {value : ℚ} (small : value ≤ top) :
    value * 2 ^ (-971 : Int) ≤ (2 ^ 53 - 1 : Nat) := by
  rw [top_value] at small
  have power : (0 : ℚ) < 2 ^ (971 : Int) := by positivity
  rw [zpow_neg, ← div_eq_mul_inv, div_le_iff₀ power]
  exact small

/-- Up to the largest double its exponent is not passed. -/
theorem exponentOf_le {q : Fraction} (some : q.num ≠ 0) (positive : 0 < q.den)
    (small : q.value ≤ top) : exponentOf q ≤ 971 := by
  have less : q.num < 2 ^ 1024 * q.den := by
    have denominator : (0 : ℚ) < q.den := by exact_mod_cast positive
    rw [Fraction.value, div_le_iff₀ denominator, ← Nat.cast_mul, Nat.cast_le] at small
    exact small.trans_lt ((Nat.mul_lt_mul_right positive).mpr top_lt)
  have logs : q.num.log2 < q.den.log2 + 1025 := by
    rw [Nat.log2_lt some]
    calc q.num < 2 ^ 1024 * q.den := less
      _ ≤ 2 ^ 1024 * 2 ^ (q.den.log2 + 1) := Nat.mul_le_mul_left _ Nat.lt_log2_self.le
      _ = 2 ^ (q.den.log2 + 1025) := by
          rw [← Nat.pow_add, show 1024 + (q.den.log2 + 1) = q.den.log2 + 1025 by omega]
  unfold exponentOf
  dsimp only
  split
  · omega
  · next large =>
    -- Only the largest guess is in question, and there the mantissa is too small.
    by_contra above
    have guess : (q.num.log2 : Int) - q.den.log2 - 52 = 972 := by omega
    rw [guess] at large
    refine large (Fraction.floor_lt ?_)
    rw [Fraction.shift_value]
    have units := units_le small
    calc q.value * 2 ^ (-972 : Int) = q.value * 2 ^ (-971 : Int) / 2 := by
          rw [show (-972 : Int) = -971 - 1 by rfl, zpow_sub_one₀ (by norm_num)]
          ring
      _ ≤ (2 ^ 53 - 1 : Nat) / 2 := div_le_div_of_nonneg_right units (by norm_num)
      _ < ((Nat.pow 2 52 : Nat) : ℚ) := by norm_num

/-- The units of a double do not exceed what it stands for. -/
theorem pow_exponentOf_le {q : Fraction} (positive : 0 < q.den) (large : 1 ≤ q.value) :
    2 ^ exponentOf q ≤ q.value := by
  have some : q.num ≠ 0 := (Fraction.num_pos (one_pos.trans_le large)).ne'
  have guess : (2 : ℚ) ^ ((q.num.log2 : Int) - q.den.log2 - 52) ≤ q.value := by
    have num : (2 : ℚ) ^ q.num.log2 ≤ q.num := by exact_mod_cast Nat.log2_self_le some
    have den : (q.den : ℚ) ≤ 2 ^ (q.den.log2 + 1) := by exact_mod_cast Nat.lt_log2_self.le
    have denominator : (0 : ℚ) < q.den := by exact_mod_cast positive
    calc (2 : ℚ) ^ ((q.num.log2 : Int) - q.den.log2 - 52)
        ≤ 2 ^ ((q.num.log2 : Int) - (q.den.log2 + 1 : Nat)) :=
          zpow_le_zpow_right₀ (by norm_num) (by push_cast; omega)
      _ = 2 ^ q.num.log2 / 2 ^ (q.den.log2 + 1) := by
          rw [zpow_sub₀ (by norm_num), zpow_natCast, zpow_natCast]
      _ ≤ q.value := div_le_div₀ (Nat.cast_nonneg _) num denominator den
  have least : (2 : ℚ) ^ (-1074 : Int) ≤ q.value :=
    (zpow_le_one_of_nonpos₀ (by norm_num) (by norm_num)).trans large
  have exponent : exponentOf q ≤ max ((q.num.log2 : Int) - q.den.log2 - 52) (-1074) := by
    unfold exponentOf
    dsimp only
    split <;> omega
  rcases le_max_iff.mp exponent with le | le
  · exact (zpow_le_zpow_right₀ (by norm_num) le).trans guess
  · exact (zpow_le_zpow_right₀ (by norm_num) le).trans least

/-- A double is its exponent times a rounded number, also where the rounding carries. -/
theorem value_of_ofFraction? {q : Fraction} {x : Double} (h : ofFraction? q = some x)
    (some : q.num ≠ 0) :
    x.value = ((q.shift (-exponentOf q)).round : ℚ) * 2 ^ exponentOf q := by
  rw [ofFraction?, if_neg some] at h
  dsimp only at h
  split at h
  · next carry =>
    obtain ⟨-, eq⟩ := Option.ite_none_right_eq_some.mp h
    cases Option.some.inj eq
    rw [carry, value, zpow_add₀ (by norm_num)]
    norm_num
    ring
  · obtain ⟨-, eq⟩ := Option.ite_none_right_eq_some.mp h
    cases Option.some.inj eq
    rfl

/-- A double is at most twice what it is rounded from. -/
theorem value_le_of_ofFraction? {q : Fraction} {x : Double} (h : ofFraction? q = some x)
    (positive : 0 < q.den) : x.value ≤ 2 * q.value := by
  by_cases zero : q.num = 0
  · rw [ofFraction?, if_pos zero] at h
    cases Option.some.inj h
    simp [value, Double.zero, Fraction.value, zero]
  · have bound := Fraction.round_le (Fraction.shift_den_pos positive (-exponentOf q))
    rw [Fraction.shift_value, zpow_neg] at bound
    have power : (0 : ℚ) < 2 ^ exponentOf q := by positivity
    rw [value_of_ofFraction? h zero]
    calc _ ≤ 2 * (q.value * (2 ^ exponentOf q)⁻¹) * 2 ^ exponentOf q :=
          mul_le_mul_of_nonneg_right bound power.le
      _ = 2 * q.value := by field_simp

/-- From one on, a double is at least half of what it is rounded from. -/
theorem le_value_of_ofFraction? {q : Fraction} {x : Double} (h : ofFraction? q = some x)
    (positive : 0 < q.den) (large : 1 ≤ q.value) : q.value ≤ 2 * x.value := by
  have some : q.num ≠ 0 := (Fraction.num_pos (one_pos.trans_le large)).ne'
  have power : (0 : ℚ) < 2 ^ exponentOf q := by positivity
  have scaled : 1 ≤ (q.shift (-exponentOf q)).value := by
    rw [Fraction.shift_value, zpow_neg, ← div_eq_mul_inv, le_div_iff₀ power, one_mul]
    exact pow_exponentOf_le positive large
  have bound := Fraction.le_round (Fraction.shift_den_pos positive _) scaled
  rw [Fraction.shift_value, zpow_neg] at bound
  rw [value_of_ofFraction? h some]
  calc q.value = q.value * (2 ^ exponentOf q)⁻¹ * 2 ^ exponentOf q := by field_simp
    _ ≤ 2 * (q.shift (-exponentOf q)).round * 2 ^ exponentOf q :=
        mul_le_mul_of_nonneg_right bound power.le
    _ = _ := mul_assoc _ _ _

/-- A fraction up to the largest double has a nearest one. -/
theorem exists_ofFraction? {q : Fraction} (positive : 0 < q.den) (small : q.value ≤ top) :
    ∃ x, ofFraction? q = some x := by
  by_cases zero : q.num = 0
  · exact ⟨.zero, if_pos zero⟩
  · have exponent := exponentOf_le zero positive small
    rw [ofFraction?, if_neg zero]
    dsimp only
    split
    · next carry =>
      -- The largest exponent leaves no room for a carry, but none is needed there.
      have lower : exponentOf q ≠ 971 := by
        intro eq
        rw [eq] at carry
        have round := Fraction.round_le_of_le (Fraction.shift_den_pos positive (-971))
          ((Fraction.shift_value q (-971)).trans_le (units_le small))
        rw [carry] at round
        exact absurd round (by decide)
      exact ⟨_, if_pos (by dsimp only; omega)⟩
    · exact ⟨_, rfl⟩

/-- A product up to the largest double stays in the range. -/
theorem isSome_mul? {x y : Double} (small : x.value * y.value ≤ top) :
    (x.mul? y).isSome = true := by
  have product := Fraction.mul_value x.toFraction y.toFraction
  rw [toFraction_value, toFraction_value] at product
  have positive := Nat.mul_pos x.toFraction_den_pos y.toFraction_den_pos
  obtain ⟨z, found⟩ := exists_ofFraction? positive (product.trans_le small)
  rw [mul?, found]
  rfl

/-- A quotient by a double from one half on stays in the range, and does not grow much. -/
theorem exists_div? {x y : Double} (small : 2 * x.value ≤ top) (large : 1 ≤ 2 * y.value) :
    ∃ z, x.div? y = some z ∧ z.value ≤ 4 * x.value := by
  have quotient := Fraction.div_value x.toFraction y.toFraction
  rw [toFraction_value, toFraction_value] at quotient
  have num : 0 < y.toFraction.num := by
    refine Fraction.num_pos ?_
    rw [toFraction_value]
    linarith
  have positive := Nat.mul_pos x.toFraction_den_pos num
  have less : x.value / y.value ≤ 2 * x.value := by
    rw [div_le_iff₀ (by linarith)]
    calc x.value = x.value * 1 := (mul_one _).symm
      _ ≤ x.value * (2 * y.value) := mul_le_mul_of_nonneg_left large x.value_nonneg
      _ = 2 * x.value * y.value := by ring
  obtain ⟨z, found⟩ := exists_ofFraction? positive (quotient.trans_le (less.trans small))
  have bound := value_le_of_ofFraction? found positive
  rw [quotient] at bound
  exact ⟨z, found, by linarith⟩

end Double

/-! ## Two roundings -/

namespace Decimal

theorem power_value (n : Nat) : Fraction.value ⟨Nat.pow 10 n, 1⟩ = 10 ^ n := by
  rw [Fraction.natCast_value, Nat.pow_eq, Nat.cast_pow, Nat.cast_ofNat]

/-- All powers of ten up to the largest one are doubles. -/
theorem exists_power {n : Nat} (h : n ≤ maxPower) :
    Double.ofFraction? ⟨Nat.pow 10 n, 1⟩ = some (power n) := by
  have bound : 10 ^ n ≤ Double.top :=
    (Nat.pow_le_pow_right (by omega) h).trans (by decide +kernel)
  have small : Fraction.value ⟨Nat.pow 10 n, 1⟩ ≤ Double.top := by
    rw [power_value]
    exact_mod_cast bound
  obtain ⟨x, found⟩ := Double.exists_ofFraction? Nat.one_pos small
  rw [power, found, Option.getD_some]

/-- The powers of ten are not below one half. -/
theorem one_le_power {n : Nat} (h : n ≤ maxPower) : 1 ≤ 2 * (power n).value := by
  have large : (1 : ℚ) ≤ 10 ^ n := one_le_pow₀ (by norm_num)
  have bound := Double.le_value_of_ofFraction? (exists_power h) Nat.one_pos
    (by rw [power_value]; exact large)
  rw [power_value] at bound
  exact large.trans bound

/-- The powers of ten are at most doubled. -/
theorem power_le {n : Nat} (h : n ≤ maxPower) : (power n).value ≤ 2 * 10 ^ n := by
  have bound := Double.value_le_of_ofFraction? (exists_power h) Nat.one_pos
  rwa [power_value] at bound

/-- Dividing units of 64 bits by powers of ten never leaves the range. -/
theorem isSome_divide {x : Double} (small : x.value ≤ 2 ^ 65) (n : Nat) :
    (divide x n).isSome = true := by
  have top : (2 ^ 68 : ℚ) ≤ Double.top := by
    have bound : 2 ^ 68 ≤ Double.top := by decide +kernel
    exact_mod_cast bound
  unfold divide
  split
  · next once =>
    obtain ⟨z, found, -⟩ := Double.exists_div? (by linarith) (one_le_power once)
    rw [found]
    rfl
  · split
    · next twice =>
      obtain ⟨y, found, bound⟩ :=
        Double.exists_div? (show 2 * x.value ≤ _ by linarith) (one_le_power (Nat.le_refl maxPower))
      have rest : n - maxPower ≤ maxPower := by omega
      obtain ⟨z, found', -⟩ :=
        Double.exists_div? (show 2 * y.value ≤ _ by linarith) (one_le_power rest)
      rw [found, Option.bind_some, found']
      rfl
    · rfl

/-- The decimal has 64 bits of units, and is below `10 ^ bound`. -/
structure IsBelow (d : Decimal) (bound : Int) : Prop where
  bits : d.units < 2 ^ 64
  digits : ∃ count : Nat, d.units < 10 ^ count ∧ count + d.scale ≤ bound

/-- A decimal below `10 ^ 307` is read as a double. -/
theorem IsBelow.isSome_double? {d : Decimal} (h : d.IsBelow 307) : d.double?.isSome = true := by
  obtain ⟨bits, count, units, scale⟩ := h
  have small : d.units ≤ Double.top := bits.le.trans (by decide +kernel)
  have small : Fraction.value ⟨d.units, 1⟩ ≤ Double.top := by
    rw [Fraction.natCast_value]
    exact_mod_cast small
  obtain ⟨x, found⟩ := Double.exists_ofFraction? Nat.one_pos small
  have bound := Double.value_le_of_ofFraction? found Nat.one_pos
  rw [Fraction.natCast_value] at bound
  rw [double?, found]
  dsimp only
  split
  · have bits : (d.units : ℚ) < 2 ^ 64 := by exact_mod_cast bits
    exact isSome_divide (by linarith) _
  · next positive =>
    have exponent : count + d.scale.toNat ≤ 307 := by omega
    have power := power_le (show d.scale.toNat ≤ maxPower by unfold maxPower; omega)
    have units : (d.units : ℚ) < 10 ^ count := by exact_mod_cast units
    have top : 4 * 10 ^ (count + d.scale.toNat) ≤ Double.top :=
      (Nat.mul_le_mul_left 4 (Nat.pow_le_pow_right (by omega) exponent)).trans (by decide +kernel)
    rw [if_pos (show d.scale ≤ maxPower by unfold maxPower; omega)]
    refine Double.isSome_mul? ?_
    calc x.value * (Decimal.power d.scale.toNat).value
        ≤ (2 * 10 ^ count) * (2 * 10 ^ d.scale.toNat) :=
          mul_le_mul (by linarith) power (Double.value_nonneg _) (by positivity)
      _ = 4 * 10 ^ (count + d.scale.toNat) := by ring
      _ ≤ Double.top := by exact_mod_cast top

/-! ## Digits -/

theorem IsBelow.addWhole {d : Decimal} {bound : Int} (h : d.IsBelow bound) (digit : Digit) :
    (d.addWhole digit).IsBelow (bound + 1) := by
  obtain ⟨bits, count, units, scale⟩ := h
  unfold Decimal.addWhole
  split
  · next fits =>
    refine ⟨fits.2, count + 1, ?_, by dsimp only; omega⟩
    have := digit.isLt
    rw [Nat.pow_succ]
    dsimp only
    omega
  · exact ⟨bits, count, units, by dsimp only; omega⟩

theorem IsBelow.foldl_addWhole {d : Decimal} {bound : Int} (h : d.IsBelow bound)
    (digits : List Digit) : (digits.foldl Decimal.addWhole d).IsBelow (bound + digits.length) := by
  induction digits generalizing d bound with
  | nil => simpa using h
  | cons digit rest ih =>
      have length : bound + (digit :: rest).length = bound + 1 + rest.length := by
        rw [List.length_cons, Nat.cast_succ]
        omega
      rw [length]
      exact ih (h.addWhole digit)

theorem IsBelow.addFraction {d : Decimal} {bound : Int} (h : d.IsBelow bound)
    (digits : List Digit) : (d.addFraction digits).IsBelow bound := by
  induction digits generalizing d with
  | nil => exact h
  | cons digit rest ih =>
      unfold Decimal.addFraction
      split
      · next fits =>
        refine ih ⟨fits, ?_⟩
        obtain ⟨-, count, units, scale⟩ := h
        refine ⟨count + 1, ?_, by dsimp only; omega⟩
        have := digit.isLt
        rw [Nat.pow_succ]
        dsimp only
        omega
      · exact h

end Decimal

/-- A numeral below `10 ^ 307`, as its whole digits and its exponent tell, has a value. -/
theorem Numeral.isSome_number? {numeral : Numeral}
    (h : numeral.whole.length + numeral.exponentValue ≤ 307) : numeral.number?.isSome = true := by
  have start : Decimal.IsBelow ⟨0, 0⟩ 0 := ⟨by norm_num, 0, by norm_num, by norm_num⟩
  have digits : numeral.decimal.IsBelow numeral.whole.length := by
    have whole := start.foldl_addWhole numeral.whole
    rw [zero_add] at whole
    exact whole.addFraction numeral.fraction
  obtain ⟨bits, count, units, scale⟩ := digits
  have below : Decimal.IsBelow ⟨numeral.decimal.units,
      numeral.decimal.scale + numeral.exponentValue⟩ 307 :=
    ⟨bits, count, units, by dsimp only; omega⟩
  unfold number?
  split
  · rfl
  · rw [Option.isSome_map]
    exact below.isSome_double?

end SchemaDto.Json
