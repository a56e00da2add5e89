import HitCounter.Text.Quoted

/-!
# Faults in JSON texts

What can be wrong with a JSON text that is to be read as a value of a known kind, and the wording
of each fault.
-/

namespace HitCounter.Json

/-- What the end of the text cuts off. -/
inductive Whole where
  | value
  | list
  | record
  | text
deriving DecidableEq, Repr

/-- A value found where one of another kind is wanted. -/
inductive Found where
  | null
  | bool (b : Bool)
  | integer (n : Int)
  /-- A number that is no integer of 64 bits, by its shortest digits. -/
  | float (digits : String)
  | text (s : String)
  | list
  | record
deriving DecidableEq, Repr

/-- What is wrong with a JSON text. -/
inductive Fault where
  /-- The text ends inside a value. -/
  | ends (inside : Whole)
  /-- No value starts where one must. -/
  | noValue
  /-- Letters that are none of the three words. -/
  | noWord
  | noColon
  | noListSeparator
  | noRecordSeparator
  /-- A comma before the end of a list or record. -/
  | trailingComma
  /-- More text after the value. -/
  | trailingText
  | keyIsNoText
  | invalidEscape
  | invalidNumber
  /-- A number whose nearest value is infinite. -/
  | numberOutOfRange
  /-- A control character that is not escaped. -/
  | controlCharacter
  /-- A surrogate that is not one half of a pair. -/
  | loneSurrogate
  /-- The first half of a pair that nothing like a second half follows. -/
  | surrogateEnds
  /-- The bytes of a text are not UTF-8. -/
  | invalidCodePoint
  /-- Lists and records nested too deeply. -/
  | tooDeep
  | wrongKind (found : Found) (wanted : String)
  /-- An integer beyond the bounds of the field. -/
  | unfit (n : Int) (wanted : String)
  /-- A second member for the same field. -/
  | repeated (field : String)
deriving DecidableEq, Repr

/-- What a message calls the part that is cut off. -/
def Whole.describe : Whole → String
  | value => "a value"
  | list => "a list"
  | record => "an object"
  | text => "a string"

/-- What a message calls the value, with the value itself where it is short. -/
def Found.describe : Found → String
  | null => "null"
  | bool b => "boolean `" ++ (if b then "true" else "false") ++ "`"
  | integer n => "integer `" ++ toString n ++ "`"
  | float digits => "floating point `" ++ digits ++ "`"
  | text s => "string " ++ Text.quote s
  | list => "sequence"
  | record => "map"

/-- The wording of a fault. -/
def Fault.message : Fault → String
  | ends inside => "EOF while parsing " ++ inside.describe
  | noValue => "expected value"
  | noWord => "expected ident"
  | noColon => "expected `:`"
  | noListSeparator => "expected `,` or `]`"
  | noRecordSeparator => "expected `,` or `\x7d`"
  | trailingComma => "trailing comma"
  | trailingText => "trailing characters"
  | keyIsNoText => "key must be a string"
  | invalidEscape => "invalid escape"
  | invalidNumber => "invalid number"
  | numberOutOfRange => "number out of range"
  | controlCharacter =>
    "control character (\\u0000-\\u001F) found while parsing a string"
  | loneSurrogate => "lone leading surrogate in hex escape"
  | surrogateEnds => "unexpected end of hex escape"
  | invalidCodePoint => "invalid unicode code point"
  | tooDeep => "recursion limit exceeded"
  | wrongKind found wanted => "invalid type: " ++ found.describe ++ ", expected " ++ wanted
  | unfit n wanted => "invalid value: integer `" ++ toString n ++ "`, expected " ++ wanted
  | repeated field => "duplicate field `" ++ field ++ "`"

/-- The fault that ends the reading of a text. What is read is a value that is wanted, or one that
is only skipped, and the two readers do not always name the same fault. -/
structure Cut where
  wanted : Fault
  skipped : Fault
deriving DecidableEq, Repr

/-- A fault that both readers name alike. -/
def Cut.both (f : Fault) : Cut := ⟨f, f⟩

end HitCounter.Json
