import HitCounter.Text.Basic
import HitCounter.Text.Utf8

/-!
# Request headers

Headers in the order in which they came. A lookup sees the first header with a name, and names
differ by more than the case of their letters.
-/

namespace HitCounter.Http

open Text (Bytes)

/-- One line of the head of a request. -/
structure Header where
  name : String
  value : Bytes
deriving DecidableEq, Repr

/-- All lines in their order. -/
abbrev Headers := List Header

/-- Bytes as characters of the same number. -/
def asciiText (bs : Bytes) : String := String.ofList (bs.map fun b => Char.ofNat b.toNat)

/-- A tab, or a byte that prints in ASCII. -/
def isVisible (b : UInt8) : Bool := b == 0x09 || (0x20 ≤ b && b ≤ 0x7E)

namespace Headers

/-- The bytes of the first header with this name, which is given in lower case. -/
def get? (hs : Headers) (name : String) : Option Bytes :=
  (hs.find? fun h => Text.lower h.name.toList == name.toList).map (·.value)

/-- The text of the first header with this name, if it is visible throughout. -/
def visible? (hs : Headers) (name : String) : Option String :=
  match hs.get? name with
  | some value => if value.all isVisible then some (asciiText value) else none
  | none => none

end Headers

end HitCounter.Http
