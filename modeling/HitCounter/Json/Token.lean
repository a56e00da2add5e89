import HitCounter.Json.Number
import HitCounter.Json.Spelling
import HitCounter.Text.Utf8

/-!
# JSON tokens

The tokens of a text, found by a machine that takes one byte at a time. After a byte that no token
admits the machine stops: `tokens` are those before it, and the last one says what is wrong.
-/

namespace HitCounter.Json

open Text (Bytes)

/-- The values that are written as words. -/
inductive Word where
  | null
  | true
  | false
deriving DecidableEq, Repr

/-- The smallest parts of a text. -/
inductive Token where
  | openList
  | closeList
  | openRecord
  | closeRecord
  | comma
  | colon
  | word (w : Word)
  | number (n : Number)
  | text (s : Spelling)
  /-- What stands where a value may start, and is none. -/
  | broken (c : Cut)
deriving DecidableEq, Repr

/-- The token that the machine is in. -/
inductive Mode where
  | between
  /-- In a word of which these bytes are missing. -/
  | word (w : Word) (missing : Bytes)
  | number (s : Scan)
  /-- In a string; its pieces, latest first. -/
  | text (pieces : List Piece)
  /-- After a backslash. -/
  | escape (pieces : List Piece)
  /-- In the four digits of a numeric escape; the digits, latest first. -/
  | hex (pieces : List Piece) (digits : Bytes)
  | stopped
deriving DecidableEq, Repr

/-- The tokens found, latest first, and the token begun. -/
structure Lexer where
  found : List Token := []
  mode : Mode := .between
deriving DecidableEq, Repr

/-- White space between tokens: space, tab, line feed and carriage return. -/
def isSpace (b : UInt8) : Bool := b = 0x20 || b = 0x09 || b = 0x0A || b = 0x0D

/-- The byte that an escape of one letter stands for. -/
def escaped? (b : UInt8) : Option UInt8 :=
  if b = 0x22 ∨ b = 0x5C ∨ b = 0x2F then some b
  else if b = 0x62 then some 0x08
  else if b = 0x66 then some 0x0C
  else if b = 0x6E then some 0x0A
  else if b = 0x72 then some 0x0D
  else if b = 0x74 then some 0x09
  else none

namespace Lexer

/-- The machine after one more token. -/
def push (found : List Token) (t : Token) : Lexer := ⟨t :: found, .between⟩

/-- The machine after a fault. -/
def stop (found : List Token) (t : Token) : Lexer := ⟨t :: found, .stopped⟩

/-- A string that ends without its quote. -/
def stopText (found : List Token) (pieces : List Piece) (close : Close) : Lexer :=
  stop found (.text ⟨pieces.reverse, close⟩)

/-- A byte between tokens. -/
def start (found : List Token) (b : UInt8) : Lexer :=
  if isSpace b then ⟨found, .between⟩
  else if b = 0x5B then push found .openList
  else if b = 0x5D then push found .closeList
  else if b = 0x7B then push found .openRecord
  else if b = 0x7D then push found .closeRecord
  else if b = 0x2C then push found .comma
  else if b = 0x3A then push found .colon
  else if b = 0x22 then ⟨found, .text []⟩
  else if b = 0x6E then ⟨found, .word .null [0x75, 0x6C, 0x6C]⟩
  else if b = 0x74 then ⟨found, .word .true [0x72, 0x75, 0x65]⟩
  else if b = 0x66 then ⟨found, .word .false [0x61, 0x6C, 0x73, 0x65]⟩
  else match Scan.start? b with
    | some s => ⟨found, .number s⟩
    | none => stop found (.broken (.both .noValue))

/-- A byte that does not continue a number. No digit may follow a zero in front. -/
def afterNumber (found : List Token) (s : Scan) (b : UInt8) : Lexer :=
  match s.complete? with
  | some n =>
    if s.phase = .zero ∧ (digit? b).isSome then stop found (.broken (.both .invalidNumber))
    else start (.number n :: found) b
  | none => stop found (.broken (.both .invalidNumber))

/-- A byte after a backslash. -/
def escape (found : List Token) (pieces : List Piece) (b : UInt8) : Lexer :=
  if b = 0x75 then ⟨found, .hex pieces []⟩
  else match escaped? b with
    | some e => ⟨found, .text (.byte e :: pieces)⟩
    | none => stopText found pieces .badEscape

/-- A byte of a numeric escape. Four bytes are taken before they are looked at. -/
def hex (found : List Token) (pieces : List Piece) (digits : Bytes) (b : UInt8) : Lexer :=
  if digits.length < 3 then ⟨found, .hex pieces (b :: digits)⟩
  else match Text.ofHexDigits? (b :: digits).reverse with
    | some u => ⟨found, .text (.unit u :: pieces)⟩
    | none => stopText found pieces .badHex

/-- One byte. -/
def step (l : Lexer) (b : UInt8) : Lexer :=
  match l.mode with
  | .between => start l.found b
  | .word w [] => start (.word w :: l.found) b
  | .word w (m :: missing) =>
    if b = m then
      if missing.isEmpty then push l.found (.word w) else ⟨l.found, .word w missing⟩
    else stop l.found (.broken (.both .noWord))
  | .number s =>
    match s.extend? b with
    | some s => ⟨l.found, .number s⟩
    | none => afterNumber l.found s b
  | .text pieces =>
    if b = 0x22 then push l.found (.text ⟨pieces.reverse, .closed⟩)
    else if b = 0x5C then ⟨l.found, .escape pieces⟩
    else if b < 0x20 then stopText l.found pieces .control
    else ⟨l.found, .text (.byte b :: pieces)⟩
  | .escape pieces => escape l.found pieces b
  | .hex pieces digits => hex l.found pieces digits b
  | .stopped => l

/-- The tokens in order, after the last byte. -/
def finish (l : Lexer) : List Token :=
  (match l.mode with
    | .between | .stopped => l.found
    | .word w [] => .word w :: l.found
    | .word _ _ => .broken (.both (.ends .value)) :: l.found
    | .number s =>
      match s.complete? with
      | some n => .number n :: l.found
      | none => .broken ⟨.ends .value, .invalidNumber⟩ :: l.found
    | .text pieces | .escape pieces | .hex pieces _ =>
      .text ⟨pieces.reverse, .ends⟩ :: l.found).reverse

end Lexer

/-- The tokens of a text. -/
def tokens (bs : Bytes) : List Token := (bs.foldl Lexer.step {}).finish

end HitCounter.Json
