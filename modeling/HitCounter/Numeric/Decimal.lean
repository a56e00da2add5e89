import HitCounter.Numeric.Binary
import HitCounter.Numeric.Integer

/-!
# Decimal numbers

Decimal numbers, the value of a format nearest to one, and the texts of floating point numbers:
`readBinary` reads a sign, digits with at most one point among or beside them, and an exponent, or
the words for infinity and for no number in any case of letters.
-/

namespace HitCounter.Numeric

/-- The number `coefficient * 10 ^ exponent`, with a sign even at zero. -/
structure Decimal where
  negative : Bool
  coefficient : Nat
  exponent : Int
deriving DecidableEq, Repr

namespace Decimal

/-- The code of the value nearest to the number without its sign. A positive number of `10 ^ 400`
or more is infinite in every format used here, and one below `10 ^ -400` is zero, so that powers
of ten are computed for exponents of moderate size only. -/
def code (f : Format) (d : Decimal) : Nat :=
  if d.coefficient = 0 then 0
  else if 400 ≤ d.exponent then f.infinite
  else if d.exponent < -(d.coefficient.log2 + 400 : Nat) then 0
  else f.round (d.coefficient * Nat.pow 10 d.exponent.toNat) (Nat.pow 10 (-d.exponent).toNat)

/-- The value nearest to the number. -/
def toBinary (f : Format) (d : Decimal) : Binary f := .ofCode d.negative (d.code f)

/-- An exponent: nothing, or the letter `e` in either case, a sign or none, and digits. -/
def readExponent? : List Char → Option Int
  | [] => some 0
  | e :: rest =>
    if e = 'e' ∨ e = 'E' then
      let (sign, digits) : Int × List Char := match rest with
        | '-' :: digits => (-1, digits)
        | '+' :: digits => (1, digits)
        | digits => (1, digits)
      if digits.isEmpty || !digits.all Char.isDigit then none else some (sign * ofDigits digits)
    else none

/-- A number without sign: digits, a point and digits, and an exponent. One of the two runs of
digits may be empty, and the point may be left out together with the second. -/
def readUnsigned? (negative : Bool) (s : List Char) : Option Decimal :=
  let whole := s.takeWhile Char.isDigit
  let rest := s.dropWhile Char.isDigit
  let (fraction, rest) := match rest with
    | '.' :: tail => (tail.takeWhile Char.isDigit, tail.dropWhile Char.isDigit)
    | _ => ([], rest)
  if whole.isEmpty && fraction.isEmpty then none
  else (readExponent? rest).map fun e =>
    ⟨negative, ofDigits (whole ++ fraction), e - fraction.length⟩

end Decimal

/-- Why a text is no floating point number. -/
inductive BinaryFault where
  | empty
  | invalid
deriving DecidableEq, Repr

/-- The wording of a fault. -/
def BinaryFault.message : BinaryFault → String
  | empty => "cannot parse float from empty string"
  | invalid => "invalid float literal"

/-- A floating point number after its sign. -/
def readMagnitude? (f : Format) (negative : Bool) (s : List Char) : Option (Binary f) :=
  let word := s.map Char.toLower
  if word = "inf".toList ∨ word = "infinity".toList then some (.infinity negative)
  else if word = "nan".toList then some (.nan negative)
  else (Decimal.readUnsigned? negative s).map (Decimal.toBinary f)

/-- The floating point number that a text denotes, correctly rounded. -/
def readBinary (f : Format) (s : List Char) : Except BinaryFault (Binary f) :=
  let (negative, rest) : Bool × List Char := match s with
    | '-' :: rest => (true, rest)
    | '+' :: rest => (false, rest)
    | rest => (false, rest)
  if s.isEmpty then .error .empty
  else match readMagnitude? f negative rest with
    | some x => .ok x
    | none => .error .invalid

end HitCounter.Numeric
