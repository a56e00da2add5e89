import HitCounter.Proofs.Numeric.Value
import Mathlib.Algebra.Order.Field.Power
import Mathlib.Data.Nat.Log
import Mathlib.Tactic.Linarith

/-!
# Rounding exact values

Rounding a ratio to a format gives a value back that the format has.

- **Exponents** (`binaryExponent_eq_iff`): the exponent of a ratio is that of the power of two which
  the ratio reaches while it stays below the next one.
- **Exact values** (`Format.round_of_value`): a ratio that equals the value of a code is rounded to
  this code.
-/

namespace HitCounter.Numeric

/-! ## Powers of two -/

/-- A power of two with a negative exponent may stand on the other side. -/
theorem pow_toNat (base : ℚ) (hbase : base ≠ 0) (e : ℤ) :
    base ^ e.toNat = base ^ e * base ^ (-e).toNat := by
  rw [← zpow_natCast, ← zpow_natCast, ← zpow_add₀ hbase]
  congr 1
  omega

/-- Ratios are compared with powers of two in whole numbers. -/
theorem scaled_le_iff {a b : Nat} {e : ℤ} :
    a * Nat.pow 2 e.toNat ≤ b * Nat.pow 2 (-e).toNat ↔ (a : ℚ) * 2 ^ e ≤ b := by
  have hpos : (0 : ℚ) < 2 ^ (-e).toNat := pow_pos two_pos _
  rw [← Nat.cast_le (α := ℚ), Nat.pow_eq, Nat.pow_eq]
  push_cast
  rw [pow_toNat 2 two_ne_zero e, ← mul_assoc, mul_le_mul_iff_left₀ hpos]

/-- A number lies between the power of two of its logarithm and the next one. -/
theorem log2_bounds {n : Nat} (h : 0 < n) :
    (2 : ℚ) ^ (n.log2 : ℤ) ≤ n ∧ (n : ℚ) < 2 ^ (n.log2 + 1 : ℤ) := by
  have hle : 2 ^ n.log2 ≤ n := Nat.log2_self_le h.ne'
  have hlt : n < 2 ^ (n.log2 + 1) := Nat.lt_log2_self
  exact ⟨mod_cast hle, mod_cast hlt⟩

/-! ## Exponents -/

/-- **The exponent** of a ratio is that of the power of two which the ratio reaches while it stays
below the next one. -/
theorem binaryExponent_eq_iff {num den : Nat} (hnum : 0 < num) (hden : 0 < den) {e : ℤ} :
    binaryExponent num den = e ↔ (den : ℚ) * 2 ^ e ≤ num ∧ (num : ℚ) < den * 2 ^ (e + 1) := by
  have hd : (0 : ℚ) < den := Nat.cast_pos.mpr hden
  have hpow (e : ℤ) : (0 : ℚ) < 2 ^ e := zpow_pos two_pos e
  -- The logarithms of both numbers leave two exponents, which one comparison tells apart.
  have hspec : (den : ℚ) * 2 ^ binaryExponent num den ≤ num ∧
      (num : ℚ) < den * 2 ^ (binaryExponent num den + 1) := by
    obtain ⟨hnumLe, hnumLt⟩ := log2_bounds hnum
    obtain ⟨hdenLe, hdenLt⟩ := log2_bounds hden
    generalize hk : (num.log2 : ℤ) - den.log2 = k
    have hlow : (den : ℚ) * 2 ^ (k - 1) ≤ num := by
      refine le_trans ?_ hnumLe
      calc (den : ℚ) * 2 ^ (k - 1) ≤ 2 ^ (den.log2 + 1 : ℤ) * 2 ^ (k - 1) :=
            mul_le_mul_of_nonneg_right hdenLt.le (hpow _).le
        _ = 2 ^ (num.log2 : ℤ) := by
            rw [← zpow_add₀ two_ne_zero, show (den.log2 + 1 + (k - 1) : ℤ) = num.log2 by omega]
    have hhigh : (num : ℚ) < den * 2 ^ (k + 1) := by
      refine lt_of_lt_of_le hnumLt ?_
      calc (2 : ℚ) ^ (num.log2 + 1 : ℤ) = 2 ^ (den.log2 : ℤ) * 2 ^ (k + 1) := by
            rw [← zpow_add₀ two_ne_zero, show (den.log2 + (k + 1) : ℤ) = num.log2 + 1 by omega]
        _ ≤ den * 2 ^ (k + 1) := mul_le_mul_of_nonneg_right hdenLe (hpow _).le
    simp only [binaryExponent, hk, scaled_le_iff]
    split
    · rename_i hreached
      exact ⟨hreached, hhigh⟩
    · rename_i hmissed
      rw [sub_add_cancel]
      exact ⟨hlow, not_le.mp hmissed⟩
  constructor
  · rintro rfl
    exact hspec
  · rintro ⟨hle, hlt⟩
    have hbelow {a b : ℤ} (ha : (den : ℚ) * 2 ^ a ≤ num) (hb : (num : ℚ) < den * 2 ^ (b + 1)) :
        a ≤ b := by
      have hpow := (mul_lt_mul_iff_right₀ hd).mp (ha.trans_lt hb)
      have := (zpow_lt_zpow_iff_right₀ (by norm_num : (1 : ℚ) < 2)).mp hpow
      omega
    exact le_antisymm (hbelow hspec.1 hlt) (hbelow hle hspec.2)

/-! ## Exact values -/

/-- A ratio that is an integer is rounded to it. -/
theorem roundHalfEven_mul (n : Nat) {den : Nat} (hden : 0 < den) :
    roundHalfEven (n * den) den = n := by
  have hrest : 2 * 0 < den := hden
  simp only [roundHalfEven, Nat.mul_mod_left, hrest, ↓reduceIte, Nat.mul_div_cancel n hden]

namespace Format

variable {f : Format} {num den : Nat}

theorem cast_binade (f : Format) : (f.binade : ℚ) = 2 ^ (f.fractionBits : ℤ) := by
  rw [binade, Nat.pow_eq]
  push_cast
  rfl

/-- The significand and the exponent with which the format writes a value: the exponent is the least
one, or any other if the significand has all its digits. -/
structure Writes (f : Format) (m : Nat) (e : ℤ) : Prop where
  pos : 0 < m
  lt : m < 2 * f.binade
  full : e = f.least ∨ f.least ≤ e ∧ f.binade ≤ m

/-- The unit in which a ratio is rounded is that in which the format writes it. -/
theorem Writes.unit_eq {m : Nat} {e : ℤ} (h : f.Writes m e) (hden : 0 < den)
    (hratio : (num : ℚ) = m * 2 ^ e * den) :
    max f.least (binaryExponent num den - f.fractionBits) = e := by
  have hd : (0 : ℚ) < den := Nat.cast_pos.mpr hden
  have hm : (0 : ℚ) < m := Nat.cast_pos.mpr h.pos
  have hpow (e : ℤ) : (0 : ℚ) < 2 ^ e := zpow_pos two_pos e
  have hnum : 0 < num := by
    rw [← Nat.cast_pos (α := ℚ), hratio]
    exact mul_pos (mul_pos hm (hpow e)) hd
  have hbelow {a b : ℤ} (hab : (2 : ℚ) ^ a < 2 ^ b) : a < b :=
    (zpow_lt_zpow_iff_right₀ one_lt_two).mp hab
  obtain ⟨hreached, hmissed⟩ := (binaryExponent_eq_iff hnum hden).mp rfl
  generalize binaryExponent num den = b at hreached hmissed ⊢
  rw [hratio, mul_comm, mul_le_mul_iff_left₀ hd] at hreached
  rw [hratio, mul_comm (den : ℚ), mul_lt_mul_iff_left₀ hd] at hmissed
  -- The significand has at most one digit more than a fraction, which bounds the exponent from
  -- above; from below it is bounded only if all these digits are there.
  have hmost : b < f.fractionBits + 1 + e := by
    have hlt : (m : ℚ) < 2 * 2 ^ (f.fractionBits : ℤ) := f.cast_binade ▸ mod_cast h.lt
    apply hbelow
    calc (2 : ℚ) ^ b ≤ m * 2 ^ e := hreached
      _ < 2 * 2 ^ (f.fractionBits : ℤ) * 2 ^ e := mul_lt_mul_of_pos_right hlt (hpow e)
      _ = 2 ^ (f.fractionBits + 1 + e) := by
          rw [zpow_add₀ two_ne_zero, zpow_add_one₀ two_ne_zero, mul_comm 2]
  obtain rfl | ⟨hleast, hfull⟩ := h.full
  · omega
  · have hall : (2 : ℚ) ^ (f.fractionBits : ℤ) ≤ m := f.cast_binade ▸ mod_cast hfull
    have hexact : f.fractionBits + e < b + 1 := by
      apply hbelow
      calc (2 : ℚ) ^ (f.fractionBits + e) = 2 ^ (f.fractionBits : ℤ) * 2 ^ e :=
            zpow_add₀ two_ne_zero _ _
        _ ≤ m * 2 ^ e := mul_le_mul_of_nonneg_right hall (hpow e).le
        _ < 2 ^ (b + 1) := hmissed
    omega

/-- In that unit the ratio is the significand, so that nothing is lost. -/
theorem Writes.round_eq {m : Nat} {e : ℤ} (h : f.Writes m e) (hden : 0 < den)
    (hratio : (num : ℚ) = m * 2 ^ e * den) :
    f.round num den = min ((e - f.least).toNat * f.binade + m) f.infinite := by
  have hscaled : num * Nat.pow 2 (-e).toNat = m * (den * Nat.pow 2 e.toNat) := by
    rw [← Nat.cast_inj (R := ℚ), Nat.pow_eq, Nat.pow_eq]
    push_cast
    rw [hratio, pow_toNat 2 two_ne_zero e]
    ring
  have hpos : 0 < den * Nat.pow 2 e.toNat := Nat.mul_pos hden (Nat.two_pow_pos _)
  simp only [round, h.unit_eq hden hratio, hscaled, roundHalfEven_mul m hpos]

/-- **Exact values.** A ratio that equals the value of a code is rounded to this code. -/
theorem round_of_value {code : Nat} (hden : 0 < den) (hcode : code < f.infinite)
    (hpos : 0 < code) (h : (num : ℚ) = f.value code * den) : f.round num den = code := by
  have hlt := Nat.mod_lt code f.binade_pos
  have hsplit := Nat.div_add_mod' code f.binade
  generalize code % f.binade = fraction at hlt hsplit
  cases hfield : code / f.binade with
  | zero =>
    obtain rfl : fraction = code := by simpa [hfield] using hsplit
    have hwrites : f.Writes fraction f.least := ⟨hpos, by omega, .inl rfl⟩
    rw [f.value_first hlt.le] at h
    rw [hwrites.round_eq hden h]
    simpa using hcode.le
  | succ exponent =>
    obtain rfl : (exponent + 1) * f.binade + fraction = code := hfield ▸ hsplit
    have hwrites : f.Writes (f.binade + fraction) (f.least + exponent) :=
      ⟨by omega, by omega, .inr (by omega)⟩
    have hindex : (f.least + exponent - f.least).toNat = exponent := by omega
    rw [f.value_later exponent hlt.le] at h
    rw [hwrites.round_eq hden h, hindex, ← Nat.add_assoc, ← Nat.succ_mul]
    exact Nat.min_eq_left hcode.le

end Format

end HitCounter.Numeric
