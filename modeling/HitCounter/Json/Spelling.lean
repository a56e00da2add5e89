import HitCounter.Json.Fault
import HitCounter.Text.Utf8

/-!
# The spelling of a JSON string

A string as the text spells it: bytes and numeric escapes, and how it ends. `Spelling.read` is the
text it denotes; a spelling may be well-formed and still denote none.
-/

namespace HitCounter.Json

/-- One element of a string. -/
inductive Piece where
  /-- A byte, written as it is or by an escape of one letter. -/
  | byte (b : UInt8)
  /-- A unit of UTF-16, written by four hexadecimal digits. -/
  | unit (u : Nat)
deriving DecidableEq, Repr

/-- How a string ends. -/
inductive Close where
  /-- With its closing quote. -/
  | closed
  /-- With the text it stands in. -/
  | ends
  /-- At a control character. -/
  | control
  /-- At a backslash before a character that makes no escape. -/
  | badEscape
  /-- At a numeric escape whose digits are not hexadecimal. -/
  | badHex
deriving DecidableEq, Repr

/-- A string as it is spelled. -/
structure Spelling where
  pieces : List Piece
  close : Close
deriving DecidableEq, Repr

/-- The fault of an end that is not the closing quote. -/
def Close.fault? : Close → Option Fault
  | closed => none
  | ends => some (.ends .text)
  | control => some .controlCharacter
  | badEscape => some .invalidEscape
  | badHex => some .invalidEscape

/-- The bytes of a string as far as they are known, latest first, and a first half of a surrogate
pair that waits for the second. -/
structure Assembly where
  bytes : Text.Bytes := []
  half : Option Nat := none
deriving DecidableEq, Repr

/-- The bytes so far and those of one more character. -/
def Assembly.push (a : Assembly) (codePoint : Nat) : Assembly :=
  ⟨(String.utf8EncodeChar (Char.ofNat codePoint)).reverse ++ a.bytes, none⟩

/-- One more piece. -/
def Assembly.step (a : Assembly) : Piece → Except Fault Assembly
  | .byte b =>
    match a.half with
    | none => .ok ⟨b :: a.bytes, none⟩
    | some _ => .error .surrogateEnds
  | .unit u =>
    match a.half with
    | none =>
      if 0xDC00 ≤ u ∧ u ≤ 0xDFFF then .error .loneSurrogate
      else if 0xD800 ≤ u ∧ u ≤ 0xDBFF then .ok ⟨a.bytes, some u⟩
      else .ok (a.push u)
    | some h =>
      if 0xDC00 ≤ u ∧ u ≤ 0xDFFF then
        .ok (a.push (0x10000 + (h - 0xD800) * 0x400 + (u - 0xDC00)))
      else .error .loneSurrogate

/-- The text of a string whose pieces are all known. -/
def Assembly.finish (a : Assembly) (close : Close) : Except Fault (List Char) :=
  match a.half, close with
  | none, .closed =>
    match Text.decode? a.bytes.reverse with
    | some s => .ok s
    | none => .error .invalidCodePoint
  | none, close => .error (close.fault?.getD .invalidEscape)
  | some _, .ends => .error (.ends .text)
  | some _, .badHex => .error .invalidEscape
  | some _, _ => .error .surrogateEnds

namespace Spelling

/-- The text that the string denotes. -/
def read (s : Spelling) : Except Fault (List Char) := do
  (← s.pieces.foldlM Assembly.step {}).finish s.close

/-- A string that is only skipped must have its closing quote and nothing more. -/
def skip (s : Spelling) : Except Fault Unit :=
  match s.close.fault? with
  | none => .ok ()
  | some f => .error f

/-- The fault of a string without a closing quote; none when it has one. -/
def cut? (s : Spelling) : Option Cut :=
  s.close.fault?.map fun skipped =>
    match s.read with
    | .error wanted => ⟨wanted, skipped⟩
    | .ok _ => .both skipped

end Spelling

end HitCounter.Json
