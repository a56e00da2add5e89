import HitCounter.Numeric.Decimal

/-!
# The shortest decimal that reads back

The decimal number of a finite value with the fewest digits that reads back as the value, the
nearest of those with that many digits, and its two notations:

* `Binary.positional` never uses an exponent and gives whole numbers no point;
* `Binary.scientific` always has a point or an exponent, and an exponent where the number is long.
-/

namespace HitCounter.Numeric

/-- The greatest integer whose power of ten is at most the ratio of two positive numbers. -/
def decimalExponent (num den : Nat) : Int :=
  if den ≤ num then (Nat.toDigits 10 (num / den)).length - 1
  else
    let e := (Nat.toDigits 10 (den / num)).length
    if den ≤ num * Nat.pow 10 (e - 1) then -(e - 1 : Nat) else -e

namespace Decimal

/-- The number without its sign, its exponent not above zero. -/
def aligned (coefficient : Nat) (exponent : Int) : Decimal :=
  ⟨false, coefficient * Nat.pow 10 exponent.toNat, min exponent 0⟩

/-- The number reads back as the finite value with this code. -/
def readsBack (f : Format) (code : Nat) (d : Nat × Int) : Bool :=
  (aligned d.1 d.2).code f == code

/-- One more than `n` units of `10 ^ exponent`, with a last digit that is not zero if `n` has one
digit. -/
def next (n : Nat) (exponent : Int) : Nat × Int :=
  if n = 9 then (1, exponent + 1) else (n + 1, exponent)

/-- Which of two numbers equally near to a value stands for it. -/
inductive Tie where
  /-- The greater one. -/
  | up
  /-- The one whose last digit is even. -/
  | even
deriving DecidableEq, Repr

/-- The neighbours of the ratio among the multiples of `10 ^ exponent`, the nearer one first. -/
def neighbours (tie : Tie) (num den : Nat) (exponent : Int) : List (Nat × Int) :=
  let n := num * Nat.pow 10 (-exponent).toNat
  let d := den * Nat.pow 10 exponent.toNat
  let below := (n / d, exponent)
  let above := next (n / d) exponent
  if 2 * (n % d) < d ∨ (2 * (n % d) = d ∧ tie = .even ∧ n / d % 2 = 0) then [below, above]
  else [above, below]

/-- The value with this code in full. -/
def exact (f : Format) (code : Nat) : Nat × Int :=
  let (m, e) := f.parts code
  (m * Nat.pow 2 e.toNat * Nat.pow 5 (-e).toNat, min e 0)

/-- The digits and the exponent of the shortest number that reads back as the finite value with
this code. -/
def shortest (tie : Tie) (f : Format) (code : Nat) : Nat × Int :=
  if code = 0 then (0, 0)
  else
    let (m, e) := f.parts code
    let num := m * Nat.pow 2 e.toNat
    let den := Nat.pow 2 (-e).toNat
    let top := decimalExponent num den
    let found := (List.range 17).findSome? fun (n : Nat) =>
      (neighbours tie num den (top - n)).find? (readsBack f code)
    found.getD (exact f code)

/-- A run of digits with a point before the last `places` of them. -/
def withPoint (digits : List Char) (places : Nat) : List Char :=
  let padded := List.replicate (places + 1 - digits.length) '0' ++ digits
  let whole := padded.length - places
  padded.take whole ++ '.' :: padded.drop whole

/-- Digits and an exponent written without an exponent. -/
def positional (coefficient : Nat) (exponent : Int) : List Char :=
  if 0 ≤ exponent then
    Nat.toDigits 10 coefficient ++
      (if coefficient = 0 then [] else List.replicate exponent.toNat '0')
  else withPoint (Nat.toDigits 10 coefficient) (-exponent).toNat

/-- The exponents of the first digit for which the scientific notation needs no exponent. -/
def isShort (first : Int) : Bool := -5 ≤ first && first ≤ 15

/-- Digits and an exponent with a point, or with one digit before the point and an exponent that has
a sign. -/
def scientific (coefficient : Nat) (exponent : Int) : List Char :=
  let digits := Nat.toDigits 10 coefficient
  let significant := (digits.reverse.dropWhile (· == '0')).reverse
  let first := exponent + digits.length - 1
  if isShort first then
    let text := positional coefficient exponent
    if text.contains '.' then text else text ++ ['.', '0']
  else
    let mantissa := match significant with
      | [] => ['0']
      | [d] => [d]
      | d :: more => d :: '.' :: more
    mantissa ++ 'e' :: (if first < 0 then '-' else '+') :: Nat.toDigits 10 first.natAbs

end Decimal

namespace Binary

variable {f : Format}

/-- A sign, and then a word or the shortest digits as `write` puts them. -/
def text (tie : Decimal.Tie) (write : Nat → Int → List Char) (x : Binary f) : List Char :=
  if x.isNaN then "NaN".toList
  else
    let magnitude :=
      if x.isFinite then
        let (c, e) := Decimal.shortest tie f x.code
        write c e
      else "inf".toList
    if x.negative then '-' :: magnitude else magnitude

/-- The shortest digits without an exponent, and no point in a whole number. -/
def positional (x : Binary f) : List Char := x.text .up Decimal.positional

/-- The shortest digits with a point or an exponent. -/
def scientific (x : Binary f) : List Char := x.text .even Decimal.scientific

end Binary

end HitCounter.Numeric
