/-!
# UTF-8

Text as bytes and bytes as text.

* `encode` writes a text, one to four bytes per character; `byteLength` counts them.
* `pieces` reads any bytes at all: each piece is a character, or a longest start of a character
  that the next byte does not continue. A character is read by `Decoder`, one byte at a time.
* `decode?` is the text when every piece is a character; `decodeLossy` puts the replacement
  character where a piece is not.
* `ofHexDigits?` reads bytes that are hexadecimal digits, in either case.
-/

namespace HitCounter.Text

/-- Bytes as they travel in a request. -/
abbrev Bytes := List UInt8

/-- The UTF-8 bytes of a text. -/
def encode (s : List Char) : Bytes := s.flatMap String.utf8EncodeChar

/-- How many bytes a text takes. -/
def byteLength (s : List Char) : Nat := s.foldl (fun n c => n + c.utf8Size) 0

/-- A character whose first bytes have been read. -/
structure Opened where
  /-- The bits of the code point read so far. -/
  bits : Nat
  /-- How many bytes are still missing, at least one. -/
  missing : Nat
  /-- The least byte that may come next. -/
  low : Nat
  /-- The greatest byte that may come next. -/
  high : Nat
deriving DecidableEq, Repr

/-- What a byte is at the place where a character starts. -/
inductive Lead where
  /-- A character of one byte. -/
  | whole (c : Char)
  /-- The first byte of a longer character. -/
  | opens (o : Opened)
  /-- A byte that starts no character. -/
  | stray
deriving DecidableEq, Repr

/-- A first byte also bounds the second one, so that no character has two spellings and no
surrogate is read. -/
def lead (b : UInt8) : Lead :=
  let n := b.toNat
  if n < 0x80 then .whole (Char.ofNat n)
  else if n < 0xC2 then .stray
  else if n < 0xE0 then .opens ⟨n - 0xC0, 1, 0x80, 0xBF⟩
  else if n = 0xE0 then .opens ⟨0, 2, 0xA0, 0xBF⟩
  else if n = 0xED then .opens ⟨0xD, 2, 0x80, 0x9F⟩
  else if n < 0xF0 then .opens ⟨n - 0xE0, 2, 0x80, 0xBF⟩
  else if n = 0xF0 then .opens ⟨0, 3, 0x90, 0xBF⟩
  else if n < 0xF4 then .opens ⟨n - 0xF0, 3, 0x80, 0xBF⟩
  else if n = 0xF4 then .opens ⟨4, 3, 0x80, 0x8F⟩
  else .stray

/-- The state of reading: the pieces found, latest first, and the character begun, if any. A piece
is `none` where the bytes are no character. -/
structure Decoder where
  found : List (Option Char) := []
  opened : Option Opened := none
deriving DecidableEq, Repr

namespace Decoder

/-- One byte at the place where a character starts. -/
def start (found : List (Option Char)) (b : UInt8) : Decoder :=
  match lead b with
  | .whole c => ⟨some c :: found, none⟩
  | .opens o => ⟨found, some o⟩
  | .stray => ⟨none :: found, none⟩

/-- One byte. A byte that does not continue the character begun ends that piece and is read again
at the start of the next one. -/
def step (d : Decoder) (b : UInt8) : Decoder :=
  match d.opened with
  | none => start d.found b
  | some o =>
    if o.low ≤ b.toNat ∧ b.toNat ≤ o.high then
      let bits := o.bits * 64 + (b.toNat - 0x80)
      if o.missing ≤ 1 then ⟨some (Char.ofNat bits) :: d.found, none⟩
      else ⟨d.found, some ⟨bits, o.missing - 1, 0x80, 0xBF⟩⟩
    else start (none :: d.found) b

/-- The pieces in order. A character that the bytes break off is a piece of its own. -/
def finish (d : Decoder) : List (Option Char) :=
  match d.opened with
  | none => d.found.reverse
  | some _ => (none :: d.found).reverse

end Decoder

/-- The pieces that bytes consist of. -/
def pieces (bs : Bytes) : List (Option Char) := (bs.foldl Decoder.step {}).finish

/-- The text that the bytes spell, if they are UTF-8. -/
def decode? (bs : Bytes) : Option (List Char) :=
  let ps := pieces bs
  if ps.all Option.isSome then some (ps.filterMap id) else none

/-- The text that the bytes spell, with U+FFFD for each piece that is no character. -/
def decodeLossy (bs : Bytes) : List Char := (pieces bs).map (·.getD '\uFFFD')

/-! ## Hexadecimal digits -/

/-- The value of a hexadecimal digit. -/
def hexDigit? (b : UInt8) : Option Nat :=
  if 0x30 ≤ b ∧ b ≤ 0x39 then some (b.toNat - 0x30)
  else if 0x41 ≤ b ∧ b ≤ 0x46 then some (b.toNat - 0x37)
  else if 0x61 ≤ b ∧ b ≤ 0x66 then some (b.toNat - 0x57)
  else none

/-- The number that hexadecimal digits denote, the first digit the highest. -/
def ofHexDigits? (digits : Bytes) : Option Nat :=
  digits.foldlM (fun n b => (hexDigit? b).map (n * 16 + ·)) 0

end HitCounter.Text
