import HitCounter.Numeric.Shortest
import HitCounter.Proofs.Numeric.Digits
import HitCounter.Proofs.Numeric.Literal
import HitCounter.Proofs.Numeric.Rounding

/-!
# Written numbers are read back

- **Numbers** (`Decimal.readsBack_shortest`): the decimal number that stands for a finite value is
  nearer to it than to any other value, whether it was found or is the value in full.
- **Texts** (`Decimal.decimalText_positional`): digits without an exponent denote the number that
  they are the digits of.
- **Values** (`Binary.floatText_positional`): what is written without an exponent is a literal of
  the value, bit for bit, unless the value is no number and not infinite.
-/

namespace HitCounter.Numeric

variable {f : Format} {code : Nat}

namespace Decimal

/-! ## Numbers -/

/-- A number with no decimal places that is aligned is as it was. -/
theorem aligned_of_nonpos (coefficient : Nat) {exponent : Int} (h : exponent ≤ 0) :
    aligned coefficient exponent = ⟨false, coefficient, exponent⟩ := by
  rw [aligned, Int.toNat_of_nonpos h, min_eq_left h]
  simp

/-- A number with decimal places, none of them far behind its digits, is read as the code whose
value it is. -/
theorem code_of_value {d : Decimal} (hexponent : d.exponent ≤ 0)
    (hnear : (-d.exponent).toNat ≤ d.coefficient.log2) (hcode : code < f.infinite) (hpos : 0 < code)
    (h : (d.coefficient : ℚ) = f.value code * 10 ^ (-d.exponent).toNat) : d.code f = code := by
  have hne : d.coefficient ≠ 0 := by
    intro hzero
    rw [hzero, Nat.cast_zero, eq_comm, mul_eq_zero] at h
    exact h.elim (f.value_pos_iff.mpr hpos.ne').ne' (pow_ne_zero _ (by norm_num))
  have hratio : ((d.coefficient * Nat.pow 10 d.exponent.toNat : Nat) : ℚ) =
      f.value code * (Nat.pow 10 (-d.exponent).toNat : Nat) := by
    rw [Int.toNat_of_nonpos hexponent, Nat.pow_eq, Nat.pow_eq, Nat.pow_zero, Nat.mul_one, h]
    push_cast
    rfl
  rw [Decimal.code, if_neg hne, if_neg (by omega), if_neg (by omega)]
  exact f.round_of_value (Nat.pow_pos (by decide)) hcode hpos hratio

/-- A value in full is read back. -/
theorem readsBack_exact (hcode : code < f.infinite) (hpos : 0 < code) :
    readsBack f code (exact f code) = true := by
  have hvalue : f.value code = (f.parts code).1 * 2 ^ (f.parts code).2 := rfl
  have hexact : exact f code = ((f.parts code).1 * Nat.pow 2 (f.parts code).2.toNat *
    Nat.pow 5 (-(f.parts code).2).toNat, min (f.parts code).2 0) := rfl
  generalize (f.parts code).1 = m at hvalue hexact
  generalize (f.parts code).2 = e at hvalue hexact
  have hm : 0 < m := by
    refine Nat.pos_of_ne_zero fun hzero => ?_
    have := f.value_pos_iff.mpr hpos.ne'
    simp [hvalue, hzero] at this
  have hplaces : (-min e 0).toNat = (-e).toNat := by omega
  -- Powers of five are greater than those of two, so that the digits reach as far as the places.
  have hdigits : 2 ^ (-e).toNat ≤ m * Nat.pow 2 e.toNat * Nat.pow 5 (-e).toNat :=
    calc 2 ^ (-e).toNat ≤ 5 ^ (-e).toNat := Nat.pow_le_pow_left (by decide) _
      _ ≤ m * 2 ^ e.toNat * 5 ^ (-e).toNat :=
          Nat.le_mul_of_pos_left _ (Nat.mul_pos hm (Nat.two_pow_pos _))
  have hnear : (-e).toNat ≤ (m * Nat.pow 2 e.toNat * Nat.pow 5 (-e).toNat).log2 :=
    (Nat.le_log2 (by have := Nat.two_pow_pos (-e).toNat; omega)).mpr hdigits
  have hfull : ((m * Nat.pow 2 e.toNat * Nat.pow 5 (-e).toNat : Nat) : ℚ) =
      f.value code * 10 ^ (-e).toNat := by
    rw [hvalue, Nat.pow_eq, Nat.pow_eq]
    push_cast
    rw [pow_toNat 2 two_ne_zero e, show (10 : ℚ) = 2 * 5 by norm_num, mul_pow]
    ring
  rw [readsBack, hexact, aligned_of_nonpos _ (min_le_right e 0), beq_iff_eq]
  exact code_of_value (min_le_right e 0) (hplaces ▸ hnear) hcode hpos (hplaces ▸ hfull)

/-- **The shortest number** is read back as the value that it stands for. -/
theorem readsBack_shortest (tie : Tie) (hcode : code < f.infinite) :
    readsBack f code (shortest tie f code) = true := by
  by_cases hzero : code = 0
  · subst hzero
    rfl
  · simp only [shortest, hzero, ↓reduceIte]
    -- A number is taken only after it was read back, and the value in full is what is left.
    generalize hfound : List.findSome? _ _ = found
    cases found with
    | none => exact readsBack_exact hcode (Nat.pos_of_ne_zero hzero)
    | some d =>
      obtain ⟨n, -, hn⟩ := List.exists_of_findSome?_eq_some hfound
      exact List.find?_some hn

/-! ## Texts -/

/-- Zeros behind the digits of a number multiply it. -/
theorem toDigits_mul_pow {n : Nat} (hn : 0 < n) (zeros : Nat) :
    Nat.toDigits 10 (n * 10 ^ zeros) = Nat.toDigits 10 n ++ List.replicate zeros '0' := by
  induction zeros with
  | zero => simp
  | succ zeros ih =>
    have hpos : 0 < n * 10 ^ zeros := Nat.mul_pos hn (Nat.pow_pos (by decide))
    have hlast := toDigits_mul_add (by decide) hpos (d := 0) (by decide : 0 < 10)
    rw [Nat.add_zero, ih, Nat.mul_assoc, ← Nat.pow_succ] at hlast
    rw [hlast, List.replicate_succ', List.append_assoc]
    rfl

theorem positional_of_nonneg (coefficient : Nat) {exponent : Int} (h : 0 ≤ exponent) :
    positional coefficient exponent =
      Nat.toDigits 10 (coefficient * Nat.pow 10 exponent.toNat) := by
  rw [positional, if_pos h]
  split
  · rename_i hzero
    rw [hzero, Nat.zero_mul, List.append_nil]
  · rename_i hne
    exact (toDigits_mul_pow (Nat.pos_of_ne_zero hne) _).symm

/-- Digits with a point among them are those of a number with decimal places. -/
theorem decimalText_withPoint (negative : Bool) (n places : Nat) :
    DecimalText negative ⟨negative, n, -places⟩ (withPoint (Nat.toDigits 10 n) places) := by
  have hspells : Spells 10 n
      (List.replicate (places + 1 - (Nat.toDigits 10 n).length) '0' ++ Nat.toDigits 10 n) :=
    ⟨_, rfl⟩
  rw [withPoint]
  generalize hpadded : List.replicate _ '0' ++ Nat.toDigits 10 n = padded at hspells
  have hlength : places < padded.length := by
    rw [← hpadded, List.length_append, List.length_replicate]
    omega
  have hsplit := List.take_append_drop (padded.length - places) padded
  have hwhole : (padded.take (padded.length - places)).length = padded.length - places :=
    List.length_take_of_le (Nat.sub_le _ _)
  have hplaces : (padded.drop (padded.length - places)).length = places := by
    rw [List.length_drop]
    omega
  generalize padded.take (padded.length - places) = whole at hsplit hwhole ⊢
  generalize padded.drop (padded.length - places) = fraction at hsplit hplaces ⊢
  subst hsplit
  have hsome : whole ≠ [] := by
    rw [← List.length_pos_iff]
    omega
  obtain ⟨before, behind⟩ := List.forall_mem_append.mp hspells.isDigit
  have text : DecimalText negative _ _ := .point before behind (.inl hsome) .nothing
  rwa [hspells.ofDigits_eq, hplaces, List.append_nil, zero_sub] at text

/-- **Digits without an exponent** denote the number that they are the digits of. -/
theorem decimalText_positional (negative : Bool) (coefficient : Nat) (exponent : Int) :
    DecimalText negative
      ⟨negative, (aligned coefficient exponent).coefficient,
        (aligned coefficient exponent).exponent⟩
      (positional coefficient exponent) := by
  rcases lt_or_ge exponent 0 with hneg | hnonneg
  · have text := decimalText_withPoint negative coefficient (-exponent).toNat
    rw [aligned_of_nonpos coefficient hneg.le, positional, if_neg (Int.not_le.mpr hneg)]
    rwa [Int.toNat_of_nonneg (by omega), neg_neg] at text
  · have hspells : Spells 10 (coefficient * Nat.pow 10 exponent.toNat)
        (positional coefficient exponent) := ⟨0, positional_of_nonneg coefficient hnonneg⟩
    have text : DecimalText negative _ _ := .whole hspells.ne_nil hspells.isDigit .nothing
    rwa [hspells.ofDigits_eq, List.append_nil, ← min_eq_right hnonneg] at text

end Decimal

/-! ## Values -/

variable {x : Binary f}

/-- A number that is read back as the code of a value is, with its sign, read as the value. -/
theorem Decimal.toBinary_of_readsBack {coefficient : Nat} {exponent : Int}
    (hmost : x.code ≤ f.infinite) (h : readsBack f x.code (coefficient, exponent) = true) :
    toBinary f ⟨x.negative, (aligned coefficient exponent).coefficient,
      (aligned coefficient exponent).exponent⟩ = x := by
  have hcode : (aligned coefficient exponent).code f = x.code := beq_iff_eq.mp h
  obtain ⟨negative, code, hlt⟩ := x
  change Binary.ofCode negative ((aligned coefficient exponent).code f) = _
  simp only [hcode, Binary.ofCode, Nat.min_eq_left hmost]

namespace Binary

/-- A sign stands before the text of a number exactly if the number has one. -/
theorem floatText_signed {magnitude : List Char} (h : MagnitudeText f x.negative magnitude x) :
    FloatText f (if x.negative then '-' :: magnitude else magnitude) x := by
  obtain ⟨negative, code, hlt⟩ := x
  cases negative with
  | true => exact .minus h
  | false => exact .plain h

/-- **What is written without an exponent** is a literal of the value, unless the value is no number
and not infinite. -/
theorem floatText_positional (hx : x.isNaN = false) : FloatText f x.positional x := by
  have hmost : x.code ≤ f.infinite := by simpa [isNaN] using hx
  rw [positional, Binary.text, hx]
  refine floatText_signed ?_
  cases hfinite : x.isFinite with
  | true =>
    have hcode : x.code < f.infinite := by simpa [isFinite] using hfinite
    have hread := Decimal.readsBack_shortest .up hcode
    generalize Decimal.shortest .up f x.code = shortest at hread ⊢
    obtain ⟨coefficient, exponent⟩ := shortest
    have text : MagnitudeText f x.negative _ _ :=
      .decimal (Decimal.decimalText_positional x.negative coefficient exponent)
    rwa [Decimal.toBinary_of_readsBack hmost hread] at text
  | false =>
    have hleast : f.infinite ≤ x.code := by simpa [isFinite] using hfinite
    have hinfinite : infinity x.negative = x := by
      obtain ⟨negative, code, hlt⟩ := x
      obtain rfl : code = f.infinite := Nat.le_antisymm hmost hleast
      rfl
    have text : MagnitudeText f x.negative "inf".toList (infinity x.negative) :=
      .infinite (.inl (by decide))
    rwa [hinfinite] at text

end Binary

end HitCounter.Numeric
