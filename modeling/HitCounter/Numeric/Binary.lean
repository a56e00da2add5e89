/-!
# Binary floating point

The values of an IEEE interchange format and the rounding of a ratio to the nearest of them, ties
to the even one.

A value is a sign and a *code*: the exponent and fraction fields read as one number. Codes of
finite values grow with the value, the code of infinity is the next one, and the codes above it
are not numbers.
-/

namespace HitCounter.Numeric

/-- The widths of an interchange format. -/
structure Format where
  fractionBits : Nat
  exponentBits : Nat
deriving DecidableEq, Repr

namespace Format

/-- The format of 64 bits. -/
def double : Format := ⟨52, 11⟩

/-- The format of 32 bits. -/
def single : Format := ⟨23, 8⟩

/-- How many codes share an exponent field. -/
def binade (f : Format) : Nat := Nat.pow 2 f.fractionBits

/-- How many values the exponent field has. -/
def exponents (f : Format) : Nat := Nat.pow 2 f.exponentBits

/-- How many codes there are. -/
def codes (f : Format) : Nat := f.exponents * f.binade

/-- The code of infinity. -/
def infinite (f : Format) : Nat := (f.exponents - 1) * f.binade

/-- The code that results when no number does. -/
def quiet (f : Format) : Nat := f.infinite + f.binade / 2

/-- The exponent of the least positive value, which is a power of two. -/
def least (f : Format) : Int := 2 - (Nat.pow 2 (f.exponentBits - 1) : Nat) - f.fractionBits

theorem binade_pos (f : Format) : 0 < f.binade := Nat.two_pow_pos _

theorem infinite_add_binade (f : Format) : f.infinite + f.binade = f.codes := by
  have h : 0 < f.exponents := Nat.two_pow_pos _
  unfold infinite codes
  rw [Nat.sub_mul, Nat.one_mul]
  exact Nat.sub_add_cancel (Nat.le_mul_of_pos_left _ h)

theorem infinite_lt_codes (f : Format) : f.infinite < f.codes := by
  have := f.infinite_add_binade
  have := f.binade_pos
  omega

theorem quiet_lt_codes (f : Format) : f.quiet < f.codes := by
  have := f.infinite_add_binade
  have := Nat.div_lt_self f.binade_pos (k := 2) (by decide)
  unfold quiet
  omega

/-- The finite value of a code is the first number times two to the power of the second. -/
def parts (f : Format) (code : Nat) : Nat × Int :=
  let exponent := code / f.binade
  let fraction := code % f.binade
  if exponent = 0 then (fraction, f.least)
  else (f.binade + fraction, f.least + (exponent - 1 : Nat))

end Format

/-- The greatest integer whose power of two is at most the ratio of two positive numbers. -/
def binaryExponent (num den : Nat) : Int :=
  let e : Int := (num.log2 : Int) - den.log2
  if den * Nat.pow 2 e.toNat ≤ num * Nat.pow 2 (-e).toNat then e else e - 1

/-- The integer nearest to a ratio, the even one of two. -/
def roundHalfEven (num den : Nat) : Nat :=
  let q := num / den
  let r := num % den
  if 2 * r < den then q
  else if den < 2 * r then q + 1
  else if q % 2 = 0 then q else q + 1

namespace Format

/-- The code of the value nearest to the ratio of two positive numbers. The significand is rounded
in units of `2 ^ unit`; if it is carried to the next power of two, so is the code. -/
def round (f : Format) (num den : Nat) : Nat :=
  let unit := max f.least (binaryExponent num den - f.fractionBits)
  let significand := roundHalfEven (num * Nat.pow 2 (-unit).toNat) (den * Nat.pow 2 unit.toNat)
  min ((unit - f.least).toNat * f.binade + significand) f.infinite

end Format

/-- A value of the format. -/
structure Binary (f : Format) where
  negative : Bool
  code : Nat
  code_lt : code < f.codes
deriving DecidableEq

/-- A value of 64 bits. -/
abbrev Double := Binary .double

/-- A value of 32 bits. -/
abbrev Single := Binary .single

namespace Binary

variable {f : Format}

/-- The value of a code, at most infinity. -/
def ofCode (negative : Bool) (code : Nat) : Binary f :=
  ⟨negative, min code f.infinite, Nat.lt_of_le_of_lt (Nat.min_le_right _ _) f.infinite_lt_codes⟩

/-- Infinity with a sign. -/
def infinity (negative : Bool) : Binary f := ⟨negative, f.infinite, f.infinite_lt_codes⟩

/-- The value that is no number, with a sign. -/
def nan (negative : Bool) : Binary f := ⟨negative, f.quiet, f.quiet_lt_codes⟩

/-- The value is a number. -/
def isFinite (x : Binary f) : Bool := x.code < f.infinite

/-- The value is neither a number nor infinite. -/
def isNaN (x : Binary f) : Bool := f.infinite < x.code

/-- The value is a number below zero. -/
def isBelowZero (x : Binary f) : Bool := x.negative && x.code != 0 && !x.isNaN

/-- Sign and code in one word, the sign first. -/
def toBits (x : Binary f) : Nat := (if x.negative then f.codes else 0) + x.code

end Binary

end HitCounter.Numeric
