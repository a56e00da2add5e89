import HitCounter.Json.Fault
import HitCounter.Numeric.Shortest

/-!
# JSON numbers

A number as the text gives it, one byte at a time, and what it denotes: an integer of 64 bits when
it is written as one and fits, and the nearest floating point value otherwise.
-/

namespace HitCounter.Json

open Numeric (Decimal Double Format)

/-- A number. `scale` is the exponent of its last digit, and absent when it is written without a
point and without an exponent. -/
structure Number where
  negative : Bool
  coefficient : Nat
  scale : Option Int
deriving DecidableEq, Repr

/-- What a number denotes. -/
inductive Number.Value where
  | integer (n : Int)
  | float (x : Double)
deriving DecidableEq

namespace Number

/-- The number as a decimal. -/
def toDecimal (n : Number) : Decimal := ⟨n.negative, n.coefficient, n.scale.getD 0⟩

/-- The nearest floating point value, zero with the sign that the number has. Every literal is
rounded correctly; a reader that does no more than its best may be one unit in the last place off
for a literal of many digits or with a great exponent. -/
def toDouble (n : Number) : Double := n.toDecimal.toBinary .double

/-- The integer that the number denotes if it is written as one and fits 64 bits, with a sign or
without. Zero with a minus sign is no integer. -/
def integer? (n : Number) : Option Int :=
  match n.scale, n.negative with
  | none, false => if n.coefficient < 0x10000000000000000 then some n.coefficient else none
  | none, true =>
    if 0 < n.coefficient ∧ n.coefficient ≤ 0x8000000000000000 then some (-(n.coefficient : Int))
    else none
  | some _, _ => none

/-- What the number denotes. -/
def value (n : Number) : Except Fault Value :=
  match n.integer? with
  | some i => .ok (.integer i)
  | none => if n.toDouble.isFinite then .ok (.float n.toDouble) else .error .numberOutOfRange

end Number

/-- Where in a number the reading stands. -/
inductive Phase where
  /-- After the minus sign. -/
  | sign
  /-- After a zero in front. -/
  | zero
  | whole
  | point
  | fraction
  /-- After the letter before the exponent. -/
  | mark
  | markSign
  | exponent
deriving DecidableEq, Repr

/-- A number whose first bytes have been read. -/
structure Scan where
  negative : Bool := false
  coefficient : Nat := 0
  /-- How many digits stand after the point. -/
  places : Nat := 0
  exponentNegative : Bool := false
  exponent : Nat := 0
  phase : Phase
deriving DecidableEq, Repr

/-- The value of a byte that is a digit. -/
def digit? (b : UInt8) : Option Nat :=
  if 0x30 ≤ b ∧ b ≤ 0x39 then some (b.toNat - 0x30) else none

namespace Scan

/-- A number that the byte starts. -/
def start? (b : UInt8) : Option Scan :=
  if b = 0x2D then some { negative := true, phase := .sign }
  else (digit? b).map fun d => { coefficient := d, phase := if d = 0 then .zero else .whole }

/-- The number with one more digit. No digit follows a zero in front. -/
def digit (s : Scan) (d : Nat) : Option Scan :=
  match s.phase with
  | .sign => some { s with coefficient := d, phase := if d = 0 then .zero else .whole }
  | .zero => none
  | .whole => some { s with coefficient := s.coefficient * 10 + d }
  | .point | .fraction =>
    some { s with
      coefficient := s.coefficient * 10 + d, places := s.places + 1, phase := .fraction }
  | .mark | .markSign | .exponent =>
    some { s with exponent := s.exponent * 10 + d, phase := .exponent }

/-- The number with one more byte, if the byte continues it. -/
def extend? (s : Scan) (b : UInt8) : Option Scan :=
  match digit? b with
  | some d => s.digit d
  | none =>
    match s.phase with
    | .zero | .whole =>
      if b = 0x2E then some { s with phase := .point }
      else if b = 0x65 ∨ b = 0x45 then some { s with phase := .mark }
      else none
    | .fraction => if b = 0x65 ∨ b = 0x45 then some { s with phase := .mark } else none
    | .mark =>
      if b = 0x2B then some { s with phase := .markSign }
      else if b = 0x2D then some { s with exponentNegative := true, phase := .markSign }
      else none
    | _ => none

/-- The exponent of the last digit. -/
def scale (s : Scan) : Int :=
  (if s.exponentNegative then -(s.exponent : Int) else s.exponent) - s.places

/-- The number, if it is complete as it stands. -/
def complete? (s : Scan) : Option Number :=
  match s.phase with
  | .zero | .whole => some ⟨s.negative, s.coefficient, none⟩
  | .fraction | .exponent => some ⟨s.negative, s.coefficient, some s.scale⟩
  | _ => none

end Scan

end HitCounter.Json
