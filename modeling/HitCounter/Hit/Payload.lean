import HitCounter.Hit.Basic
import HitCounter.Http.Target
import HitCounter.Http.Form
import HitCounter.Json.Reader
import HitCounter.Text.Basic

/-!
# Reading payloads

A page sends a payload as the query of its request or as a JSON body. Both know the same fields by
the same names, and a flag or a size may be a text in either.

* `Payload.ofQuery` reads a query, in which every value is a text.
* `Payload.ofJson` reads a body, in which a flag may also be a boolean or an integer, and a size a
  list of numbers.
* `Payload.decode` reads a request: the body lies on top of the query.
-/

namespace HitCounter

open Text (Bytes)

/-- The fields of a payload. -/
inductive Field where
  | path
  | title
  | referrer
  | query
  | event
  | size
  | bot
deriving DecidableEq, Repr

namespace Field

/-- All fields, in the order in which a list gives their values. -/
def all : List Field := [path, title, referrer, query, event, size, bot]

/-- The short name. -/
def short : Field → String
  | path => "p"
  | title => "t"
  | referrer => "r"
  | query => "q"
  | event => "e"
  | size => "s"
  | bot => "b"

/-- The long name. -/
def long : Field → String
  | path => "path"
  | title => "title"
  | referrer => "ref"
  | query => "query"
  | event => "event"
  | size => "size"
  | bot => "bot"

/-- The field with a name, short or long. -/
def ofName? (name : String) : Option Field :=
  all.find? fun f => f.short == name || f.long == name

end Field

/-- Why a value is none of its field. -/
inductive ValueFault where
  /-- An integer that is no flag. -/
  | flagNumber (n : Int)
  /-- A text that is no flag. -/
  | flagText (s : String)
  /-- A text that is no size, with what is wrong with one of its parts. -/
  | size (s : String) (e : Numeric.BinaryFault)
  /-- A text that is no integer. -/
  | integer (e : Numeric.IntegerFault)
  /-- A value of a kind that the field does not take. -/
  | noVariant (kind : String)
deriving DecidableEq, Repr

/-- The wording of a fault. -/
def ValueFault.message : ValueFault → String
  | flagNumber n => "invalid flag value " ++ toString n
  | flagText s => "invalid flag value " ++ Text.quote s
  | size s e => "invalid size " ++ Text.quote s ++ ": " ++ e.message
  | integer e => e.message
  | noVariant kind => "data did not match any variant of untagged enum " ++ kind

/-- Why a request carries no payload. -/
inductive DecodeFault where
  /-- The body is longer than the server reads. -/
  | oversized
  /-- A field of the query, by the key that the query has for it. -/
  | queryValue (key : String) (e : ValueFault)
  /-- A second value for a field of the query. -/
  | queryRepeated (f : Field)
  /-- The body is no JSON text of the right shape. -/
  | json (e : Json.Fault)
  /-- A field of the body. -/
  | jsonValue (e : ValueFault)
deriving DecidableEq, Repr

/-- The wording of a fault. A value of a query is named by its key. -/
def DecodeFault.message : DecodeFault → String
  | oversized => "Failed to buffer the request body: length limit exceeded"
  | queryValue key e => "Failed to deserialize query string: " ++ key ++ ": " ++ e.message
  | queryRepeated f => "Failed to deserialize query string: duplicate field `" ++ f.short ++ "`"
  | json e => e.message
  | jsonValue e => e.message

/-! ## Values given as texts -/

/-- The words for a flag that is not set. -/
def offWords : List String := ["", "0", "false", "off", "no"]

/-- The words for a flag that is set. -/
def onWords : List String := ["1", "true", "on", "yes"]

/-- A flag given as a text, in any case of ASCII letters. -/
def flagOfText (s : String) : Except ValueFault Bool :=
  let word := String.ofList (Text.lower s.toList)
  if offWords.contains word then .ok false
  else if onWords.contains word then .ok true
  else .error (.flagText word)

/-- A flag given as an integer. -/
def flagOfInt (n : Int) : Except ValueFault Bool :=
  if n = 0 then .ok false else if n = 1 then .ok true else .error (.flagNumber n)

/-- A size given as a text: numbers between commas, with white space around each. The empty text is
the empty size. -/
def sizeOfText (s : String) : Except ValueFault (List Numeric.Double) :=
  if s.isEmpty then .ok []
  else
    ((Text.split (· == ',') s.toList).mapM fun part =>
      Numeric.readBinary .double (Text.trim part)).mapError (.size s)

/-! ## Queries -/

namespace Payload

/-- The payload with one field of a query. -/
def setText (f : Field) (value : String) (p : Payload) : Except ValueFault Payload :=
  match f with
  | .path => .ok { p with path := some value }
  | .title => .ok { p with title := some value }
  | .referrer => .ok { p with referrer := some value }
  | .query => .ok { p with query := some value }
  | .event => return { p with event := some (← flagOfText value) }
  | .size => return { p with size := some (← sizeOfText value) }
  | .bot =>
    return { p with bot := some (← (Numeric.readInt64 value.toList).mapError .integer) }

/-- One more pair of a query; the fields seen so far come with the payload. -/
def queryPair (state : Payload × List Field) (pair : List Char × List Char) :
    Except DecodeFault (Payload × List Field) := do
  let key := String.ofList pair.1
  match Field.ofName? key with
  | none => return state
  | some f =>
    if f ∈ state.2 then throw (.queryRepeated f)
    let p ← (setText f (String.ofList pair.2) state.1).mapError (.queryValue key)
    return (p, f :: state.2)

/-- The payload that a query carries. -/
def ofQuery (query : Bytes) : Except DecodeFault Payload :=
  ((Http.formPairs query).foldlM queryPair ({}, [])).map (·.1)

/-! ## JSON bodies -/

/-- How many more lists and records may be nested in a value of a body. -/
def nesting : Nat := 126

/-- A value that may be of several kinds is checked as a whole before its kind counts. -/
def checked {α : Type} (n : Json.Node) (read : Json.Node → Except ValueFault α) :
    Except DecodeFault (Option α) :=
  match n with
  | .null => .ok none
  | n => do
    (n.check nesting).mapError .json
    return some (← (read n).mapError .jsonValue)

/-- A flag: a boolean, an integer or a text. -/
def flagOfNode (n : Json.Node) : Except ValueFault Bool :=
  match n with
  | .bool b => .ok b
  | .number x =>
    match x.integer? with
    | some i => if i < 0x8000000000000000 then flagOfInt i else .error (.noVariant "FlagInput")
    | none => .error (.noVariant "FlagInput")
  | .text s =>
    match s.read with
    | .ok cs => flagOfText (String.ofList cs)
    | .error _ => .error (.noVariant "FlagInput")
  | _ => .error (.noVariant "FlagInput")

/-- A number in a list of sizes. -/
def numberOfNode : Json.Node → Except ValueFault Numeric.Double
  | .number x => .ok x.toDouble
  | _ => .error (.noVariant "SizeInput")

/-- A size: a list of numbers, or a text. -/
def sizeOfNode (n : Json.Node) : Except ValueFault (List Numeric.Double) :=
  match n with
  | .list items _ => items.mapM numberOfNode
  | .text s =>
    match s.read with
    | .ok cs => sizeOfText (String.ofList cs)
    | .error _ => .error (.noVariant "SizeInput")
  | _ => .error (.noVariant "SizeInput")

/-- A value, or none for the word `null`. -/
def optional {α : Type} (read : Json.Node → Except Json.Fault α) (n : Json.Node) :
    Except DecodeFault (Option α) :=
  match n with
  | .null => .ok none
  | n => ((read n).map some).mapError .json

/-- The payload with one field of a body. -/
def setNode (f : Field) (n : Json.Node) (p : Payload) : Except DecodeFault Payload :=
  match f with
  | .path => return { p with path := ← optional Json.Node.readText n }
  | .title => return { p with title := ← optional Json.Node.readText n }
  | .referrer => return { p with referrer := ← optional Json.Node.readText n }
  | .query => return { p with query := ← optional Json.Node.readText n }
  | .event => return { p with event := ← checked n flagOfNode }
  | .size => return { p with size := ← checked n sizeOfNode }
  | .bot => return { p with bot := ← optional Json.Node.readInt64 n }

/-- A payload as a record in a JSON text. -/
def shape : Json.Shape Field Payload DecodeFault where
  wanted := "struct HitPayload"
  fields := Field.all
  field? := Field.ofName?
  label := Field.short
  set := setNode
  fault := .json

/-- The payload that a body carries. -/
def ofJson (body : Bytes) : Except DecodeFault Payload := shape.read {} body

/-! ## Requests -/

/-- White space in ASCII. -/
def isAsciiBlank (b : UInt8) : Bool :=
  b == 0x20 || b == 0x09 || b == 0x0A || b == 0x0C || b == 0x0D

/-- The payload of the query, which may be absent or empty. -/
def ofTarget (target : Http.Target) : Except DecodeFault Payload :=
  match target.query with
  | some query => if query.isEmpty then .ok {} else ofQuery query
  | none => .ok {}

/-- The payload of a request: that of the query, with that of the body on top unless the body is
blank. -/
def decode (target : Http.Target) (body : Bytes) : Except DecodeFault Payload := do
  let fromQuery ← ofTarget target
  if body.all isAsciiBlank then return fromQuery
  return fromQuery.overlay (← ofJson body)

end Payload

end HitCounter
