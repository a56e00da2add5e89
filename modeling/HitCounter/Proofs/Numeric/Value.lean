import HitCounter.Numeric.Binary
import Mathlib.Algebra.Order.Field.Basic
import Mathlib.Algebra.Order.Ring.Rat
import Mathlib.Order.Monotone.Basic
import Mathlib.Tactic.Ring

/-!
# The values of floating point codes

The rational number that a code stands for, and comparison of floating point numbers by their codes.

- **Codes** (`Format.value_strictMono`): a greater code has a greater value, within an exponent and
  from one exponent to the next.
- **Numbers** (`Binary.value_nonneg_iff`, `Binary.value_le_value_iff`): the sign of a number, and
  the order of numbers without a minus sign.
-/

namespace HitCounter.Numeric

namespace Format

/-- The value of a code below that of infinity. -/
def value (f : Format) (code : Nat) : ℚ := (f.parts code).1 * 2 ^ (f.parts code).2

variable (f : Format)

theorem value_zero : f.value 0 = 0 := by
  simp [value, parts]

/-- The first exponent field, and the code after its last one. -/
theorem value_first {fraction : Nat} (h : fraction ≤ f.binade) :
    f.value fraction = fraction * 2 ^ f.least := by
  rcases h.lt_or_eq with hlt | rfl
  · simp [value, parts, Nat.div_eq_of_lt hlt, Nat.mod_eq_of_lt hlt]
  · simp [value, parts, Nat.div_self f.binade_pos]

/-- Any other exponent field, and the code after its last one. -/
theorem value_later (exponent : Nat) {fraction : Nat} (h : fraction ≤ f.binade) :
    f.value ((exponent + 1) * f.binade + fraction) =
      (f.binade + fraction : Nat) * 2 ^ (f.least + exponent) := by
  rcases h.lt_or_eq with hlt | rfl
  · have hdiv : ((exponent + 1) * f.binade + fraction) / f.binade = exponent + 1 := by
      rw [Nat.mul_comm, Nat.mul_add_div f.binade_pos, Nat.div_eq_of_lt hlt, Nat.add_zero]
    have hmod : ((exponent + 1) * f.binade + fraction) % f.binade = fraction := by
      rw [Nat.mul_comm, Nat.mul_add_mod, Nat.mod_eq_of_lt hlt]
    simp [value, parts, hdiv, hmod]
  · -- The fraction is carried into the exponent.
    have hdiv : ((exponent + 1) * f.binade + f.binade) / f.binade = exponent + 2 := by
      rw [← Nat.succ_mul, Nat.mul_div_cancel _ f.binade_pos]
    have hmod : ((exponent + 1) * f.binade + f.binade) % f.binade = 0 := by
      rw [← Nat.succ_mul, Nat.mul_mod_left]
    have hpow :
        (2 : ℚ) ^ (f.least + ((exponent + 1 : Nat) : ℤ)) = 2 * 2 ^ (f.least + exponent) := by
      rw [Nat.cast_succ, ← add_assoc, zpow_add_one₀ two_ne_zero, mul_comm]
    simp only [value, parts, hdiv, hmod, Nat.add_eq_zero_iff, OfNat.ofNat_ne_zero, and_false,
      ↓reduceIte, Nat.add_zero, Nat.add_one_sub_one, hpow]
    push_cast
    ring

/-- The next code has a greater value. -/
theorem value_lt_succ (code : Nat) : f.value code < f.value (code + 1) := by
  have hpow (e : ℤ) : (0 : ℚ) < 2 ^ e := zpow_pos two_pos e
  have hlt := Nat.mod_lt code f.binade_pos
  rw [← Nat.div_add_mod code f.binade, Nat.mul_comm]
  generalize code % f.binade = fraction at hlt
  cases code / f.binade with
  | zero =>
    rw [Nat.zero_mul, Nat.zero_add, f.value_first hlt.le, f.value_first hlt]
    exact mul_lt_mul_of_pos_right (by simp) (hpow _)
  | succ exponent =>
    rw [f.value_later exponent hlt.le, Nat.add_assoc, f.value_later exponent hlt]
    exact mul_lt_mul_of_pos_right (by simp) (hpow _)

/-- **Codes** are ordered as their values are. -/
theorem value_strictMono : StrictMono f.value := strictMono_nat_of_lt_succ f.value_lt_succ

theorem value_pos_iff {code : Nat} : 0 < f.value code ↔ code ≠ 0 := by
  rw [← f.value_zero, f.value_strictMono.lt_iff_lt, Nat.pos_iff_ne_zero]

end Format

namespace Binary

variable {f : Format} {x y : Binary f}

/-- The value of a finite number. -/
def value (x : Binary f) : ℚ := if x.negative then -f.value x.code else f.value x.code

/-- Zero has a value of zero, with either sign. -/
theorem value_eq_zero_iff : x.value = 0 ↔ x.code = 0 := by
  have hcode : f.value x.code = 0 ↔ x.code = 0 := by
    rw [← f.value_zero, f.value_strictMono.injective.eq_iff]
  unfold value
  split
  · rw [neg_eq_zero, hcode]
  · exact hcode

/-- **A number** is below zero exactly if it has a minus sign and is no zero. -/
theorem value_nonneg_iff : 0 ≤ x.value ↔ x.code = 0 ∨ x.negative = false := by
  cases hx : x.negative with
  | false =>
    have hnonneg : 0 ≤ f.value x.code := by
      rw [← f.value_zero]
      exact f.value_strictMono.monotone (Nat.zero_le _)
    simpa [value, hx] using hnonneg
  | true =>
    have hle : f.value x.code ≤ 0 ↔ x.code = 0 := by
      rw [← not_lt, f.value_pos_iff, not_not]
    simpa [value, hx] using hle

/-- Numbers without a minus sign are ordered as their codes are. -/
theorem value_le_value_iff (hx : x.negative = false) (hy : y.negative = false) :
    x.value ≤ y.value ↔ x.code ≤ y.code := by
  simp only [value, hx, hy, Bool.false_eq_true, ↓reduceIte]
  exact f.value_strictMono.le_iff_le

theorem value_lt_value_iff (hx : x.negative = false) (hy : y.negative = false) :
    x.value < y.value ↔ x.code < y.code := by
  rw [← not_le, value_le_value_iff hy hx, Nat.not_le]

end Binary

end HitCounter.Numeric
