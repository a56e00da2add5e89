import HitCounter.Json.Document

/-!
# Reading values of a known kind

Readers take the tree in the order of the text, so that of several faults the first one counts.

* `Node.skip` passes over a value that is not wanted.
* `Node.readText`, `Node.readBool`, `Node.readInt64` read single values.
* `Shape.read` reads a record with known fields. It may be written with keys, in any order and
  beside unknown ones, or as a list of the values in the order of the fields.
-/

namespace HitCounter.Json

namespace Node

/-- A value that is not wanted must only be well-formed. -/
def skip : Node → Except Fault Unit
  | null | bool _ | number _ => .ok ()
  | text s => s.skip
  | list _ cut | record _ cut => match cut with
    | none => .ok ()
    | some c => .error c.skipped
  | broken c => .error c.skipped

/-- What a value is, for a message that another kind is wanted. Lists and records are named by their
first bracket. -/
def found : Node → Except Fault Found
  | null => .ok .null
  | bool b => .ok (.bool b)
  | number n => return match ← n.value with
    | .integer i => .integer i
    | .float x => .float (String.ofList x.scientific)
  | text s => return .text (String.ofList (← s.read))
  | list _ _ => .ok .list
  | record _ _ => .ok .record
  | broken c => .error c.wanted

/-- The fault of a value of the wrong kind. -/
def wrongKind {α : Type} (wanted : String) (n : Node) : Except Fault α := do
  throw (.wrongKind (← n.found) wanted)

/-- A string. -/
def readText : Node → Except Fault String
  | text s => return String.ofList (← s.read)
  | n => n.wrongKind "a string"

/-- One of the two truth values. -/
def readBool : Node → Except Fault Bool
  | bool b => .ok b
  | n => n.wrongKind "a boolean"

/-- An integer from `-2 ^ 63` to `2 ^ 63 - 1`. -/
def readInt64 : Node → Except Fault Int
  | number n => do
    match ← n.value with
    | .integer i => if i < 0x8000000000000000 then .ok i else .error (.unfit i "i64")
    | .float _ => wrongKind "i64" (.number n)
  | n => n.wrongKind "i64"

/-- A list of any length. -/
def readList {α : Type} (item : Node → Except Fault α) : Node → Except Fault (List α)
  | list items cut => do
    let xs ← items.mapM item
    match cut with
    | none => .ok xs
    | some c => .error c.wanted
  | n => n.wrongKind "a sequence"

/-- All of a value is well-formed, its numbers are in range, its strings denote texts, and lists and
records are nested at most `depth` times. -/
def check : Nat → Node → Except Fault Unit
  | _, null | _, bool _ => .ok ()
  | _, number n => n.value.map fun _ => ()
  | _, text s => s.read.map fun _ => ()
  | _, broken c => .error c.wanted
  | 0, list _ _ | 0, record _ _ => .error .tooDeep
  | depth + 1, list items cut => do
    items.forM (check depth)
    match cut with
    | none => .ok ()
    | some c => .error c.wanted
  | depth + 1, record members cut => do
    members.forM fun (key, value) => do
      discard key.read
      check depth value
    match cut with
    | none => .ok ()
    | some c => .error c.wanted

end Node

/-- A record with known fields `φ`, read into a value of type `σ`; `ε` is what can be wrong. -/
structure Shape (φ σ ε : Type) where
  /-- What a message calls the record. -/
  wanted : String
  /-- The fields in the order of a list. -/
  fields : List φ
  /-- The field that a key names. -/
  field? : String → Option φ
  /-- What a message calls the field. -/
  label : φ → String
  /-- The value with one field read. -/
  set : φ → Node → σ → Except ε σ
  fault : Fault → ε

namespace Shape

variable {φ σ ε : Type} [DecidableEq φ] (r : Shape φ σ ε)

/-- A fault of the text itself. -/
def lift {α : Type} (x : Except Fault α) : Except ε α := x.mapError r.fault

/-- One member of a record. The fields seen so far come with the value, and a field may be named
only once. -/
def member (state : σ × List φ) (m : Spelling × Node) : Except ε (σ × List φ) := do
  let key ← r.lift m.1.read
  match r.field? (String.ofList key) with
  | none =>
    r.lift m.2.skip
    return state
  | some f =>
    if f ∈ state.2 then throw (r.fault (.repeated (r.label f)))
    return (← r.set f m.2 state.1, f :: state.2)

/-- The fault of a list that breaks off after the value of the last field. -/
def afterFields (c : Cut) : Fault :=
  if c.wanted = .noListSeparator then .trailingText else c.wanted

/-- The values of the fields in order. Fields at the end may be missing. -/
def items : List φ → List Node → Option Cut → σ → Except ε σ
  | _, [], none, s => .ok s
  | [], [], some c, _ => .error (r.fault (afterFields c))
  | _ :: _, [], some c, _ => .error (r.fault c.wanted)
  | [], _ :: _, _, _ => .error (r.fault .trailingText)
  | f :: fs, n :: ns, cut, s => do items fs ns cut (← r.set f n s)

/-- The record that a value holds, starting from one where no field is given. -/
def ofNode (init : σ) : Node → Except ε σ
  | .record members cut => do
    let (s, _) ← members.foldlM r.member (init, [])
    match cut with
    | none => .ok s
    | some c => .error (r.fault c.wanted)
  | .list ns cut => r.items r.fields ns cut init
  | n => r.lift (n.wrongKind r.wanted)

/-- The record that a text holds. -/
def read (init : σ) (bs : Text.Bytes) : Except ε σ := do
  let d := Document.ofBytes bs
  let s ← r.ofNode init d.root
  if d.trailing then throw (r.fault .trailingText)
  return s

end Shape

end HitCounter.Json
