/-!
# Integers in decimal text

Reading integers of bounded size. A text is digits after an optional sign; leading zeros are free.
The first character that is no digit, or that takes the number out of its bounds, decides what is
wrong.
-/

namespace HitCounter.Numeric

/-- Why a text is no integer in bounds. -/
inductive IntegerFault where
  | empty
  | invalidDigit
  | tooLarge
  | tooSmall
deriving DecidableEq, Repr

/-- The wording of a fault. -/
def IntegerFault.message : IntegerFault → String
  | empty => "cannot parse integer from empty string"
  | invalidDigit => "invalid digit found in string"
  | tooLarge => "number too large to fit in target type"
  | tooSmall => "number too small to fit in target type"

/-- The value of an ASCII digit. -/
def digitValue (c : Char) : Nat := c.toNat - '0'.toNat

/-- The number that a run of digits denotes. -/
def ofDigits (s : List Char) : Nat := s.foldl (fun n c => n * 10 + digitValue c) 0

/-- One more digit of a number that may not exceed `limit`; `beyond` says what is wrong with a
greater one. -/
def appendDigit (limit : Nat) (beyond : IntegerFault) (n : Nat) (c : Char) :
    Except IntegerFault Nat :=
  if c.isDigit then
    let m := n * 10 + digitValue c
    if m ≤ limit then .ok m else .error beyond
  else .error .invalidDigit

/-- A run of digits, at least one, that denotes at most `limit`. -/
def readDigits (limit : Nat) (beyond : IntegerFault) (s : List Char) : Except IntegerFault Nat :=
  if s.isEmpty then .error .invalidDigit else s.foldlM (appendDigit limit beyond) 0

/-- A number from 0 to `limit`; a plus sign may precede it. -/
def readNat (limit : Nat) (s : List Char) : Except IntegerFault Nat :=
  match s with
  | [] => .error .empty
  | '+' :: digits => readDigits limit .tooLarge digits
  | digits => readDigits limit .tooLarge digits

/-- A number from `-2 ^ 63` to `2 ^ 63 - 1`; a sign may precede it. -/
def readInt64 (s : List Char) : Except IntegerFault Int :=
  match s with
  | [] => .error .empty
  | '-' :: digits => (readDigits 0x8000000000000000 .tooSmall digits).map fun n => -(n : Int)
  | '+' :: digits => (readDigits 0x7FFFFFFFFFFFFFFF .tooLarge digits).map Int.ofNat
  | digits => (readDigits 0x7FFFFFFFFFFFFFFF .tooLarge digits).map Int.ofNat

end HitCounter.Numeric
