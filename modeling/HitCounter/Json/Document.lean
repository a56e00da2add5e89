import HitCounter.Json.Token

/-!
# JSON documents

The value that a text holds, as a tree that goes as far as the text is well-formed. Where the text
breaks off, every list and record that is still open says so, so that a reader that takes the tree
in order of the text meets the same fault at the same place.

The tree is built by a machine over the tokens that keeps the open lists and records on a stack;
no depth of nesting is too great for it.
-/

namespace HitCounter.Json

/-- A value, and for a list or record the fault that ends it before its bracket. -/
inductive Node where
  | null
  | bool (b : Bool)
  | number (n : Number)
  | text (s : Spelling)
  | list (items : List Node) (cut : Option Cut)
  | record (members : List (Spelling × Node)) (cut : Option Cut)
  /-- No value where one must be. -/
  | broken (c : Cut)

/-- A value, and whether more text follows it. -/
structure Document where
  root : Node
  trailing : Bool

/-- The value that a word stands for. -/
def Word.toNode : Word → Node
  | null => .null
  | true => .bool Bool.true
  | false => .bool Bool.false

/-- A list or record that is still open; what it holds comes latest first. -/
inductive Frame where
  | list (items : List Node)
  | record (members : List (Spelling × Node))
  /-- A record that waits for the value of a key. -/
  | member (members : List (Spelling × Node)) (key : Spelling)

/-- What may come next. -/
inductive Wants where
  | value
  /-- An item or the end of the list. -/
  | itemOrEnd
  | item
  /-- A key or the end of the record. -/
  | keyOrEnd
  | key
  | colon (key : Spelling)
  | listSeparator
  | recordSeparator

/-- The state of the machine. -/
inductive Builder where
  | reading (frames : List Frame) (wants : Wants)
  | complete (root : Node) (trailing : Bool)
  | stopped (root : Node)

namespace Builder

/-- A value is complete and goes to the innermost open list or record. -/
def place (frames : List Frame) (n : Node) : Builder :=
  match frames with
  | [] => .complete n false
  | .list items :: outer => .reading (.list (n :: items) :: outer) .listSeparator
  | .member members key :: outer =>
    .reading (.record ((key, n) :: members) :: outer) .recordSeparator
  | .record members :: outer => .reading (.record members :: outer) .recordSeparator

/-- The tree when the text breaks off: the value begun last, if any, goes to the innermost open list
or record, and each of them is cut. -/
def cutFrames (c : Cut) : List Frame → Option Node → Node
  | [], n => n.getD (.broken c)
  | .list items :: outer, n =>
    cutFrames c outer (some (.list (n.toList ++ items).reverse (some c)))
  | .record members :: outer, _ =>
    cutFrames c outer (some (.record members.reverse (some c)))
  | .member members key :: outer, n =>
    cutFrames c outer (some (.record ((key, n.getD (.broken c)) :: members).reverse (some c)))

/-- The text breaks off between values. -/
def stop (frames : List Frame) (c : Cut) : Builder := .stopped (cutFrames c frames none)

/-- The text breaks off in a value. -/
def stopAt (frames : List Frame) (n : Node) (c : Cut) : Builder :=
  .stopped (cutFrames c frames (some n))

/-- The text breaks off where a value must start. -/
def stopBroken (frames : List Frame) (c : Cut) : Builder := stopAt frames (.broken c) c

/-- A token where a value must start. -/
def value (frames : List Frame) : Token → Builder
  | .word w => place frames w.toNode
  | .number n => place frames (.number n)
  | .text s =>
    match s.cut? with
    | none => place frames (.text s)
    | some c => stopAt frames (.text s) c
  | .openList => .reading (.list [] :: frames) .itemOrEnd
  | .openRecord => .reading (.record [] :: frames) .keyOrEnd
  | .broken c => stopBroken frames c
  | .closeList | .closeRecord | .comma | .colon => stopBroken frames (.both .noValue)

/-- A token where a key must start. -/
def key (frames : List Frame) : Token → Builder
  | .text s =>
    match s.cut? with
    | none => .reading frames (.colon s)
    | some c => stop frames c
  | _ => stop frames (.both .keyIsNoText)

/-- The end of the innermost list. -/
def closeList : List Frame → Builder
  | .list items :: outer => place outer (.list items.reverse none)
  | frames => stop frames (.both .noValue)

/-- The end of the innermost record. -/
def closeRecord : List Frame → Builder
  | .record members :: outer => place outer (.record members.reverse none)
  | frames => stop frames (.both .noValue)

/-- A colon: the innermost record now waits for the value of the key. -/
def awaitValue (k : Spelling) : List Frame → List Frame
  | .record members :: outer => .member members k :: outer
  | frames => frames

/-- One token. -/
def step (s : Builder) (t : Token) : Builder :=
  match s with
  | .complete root _ => .complete root true
  | .stopped root => .stopped root
  | .reading frames wants =>
    match wants, t with
    | .value, t => value frames t
    | .itemOrEnd, .closeList => closeList frames
    | .itemOrEnd, t => value frames t
    | .item, .closeList => stop frames ⟨.trailingComma, .noValue⟩
    | .item, t => value frames t
    | .keyOrEnd, .closeRecord => closeRecord frames
    | .keyOrEnd, t => key frames t
    | .key, .closeRecord => stop frames ⟨.trailingComma, .keyIsNoText⟩
    | .key, t => key frames t
    | .colon k, .colon => .reading (awaitValue k frames) .value
    | .colon k, _ => stopBroken (awaitValue k frames) (.both .noColon)
    | .listSeparator, .comma => .reading frames .item
    | .listSeparator, .closeList => closeList frames
    | .listSeparator, _ => stop frames (.both .noListSeparator)
    | .recordSeparator, .comma => .reading frames .key
    | .recordSeparator, .closeRecord => closeRecord frames
    | .recordSeparator, _ => stop frames (.both .noRecordSeparator)

/-- The tree when the text ends where something is still wanted. -/
def ends (frames : List Frame) : Wants → Node
  | .value | .item =>
    let c := Cut.both (.ends .value)
    cutFrames c frames (some (.broken c))
  | .itemOrEnd | .listSeparator => cutFrames (.both (.ends .list)) frames none
  | .keyOrEnd | .recordSeparator => cutFrames (.both (.ends .record)) frames none
  | .key => cutFrames ⟨.ends .value, .ends .record⟩ frames none
  | .colon k => cutFrames (.both (.ends .record)) (awaitValue k frames) none

/-- The document, after the last token. -/
def finish : Builder → Document
  | .complete root trailing => ⟨root, trailing⟩
  | .stopped root => ⟨root, false⟩
  | .reading frames wants => ⟨ends frames wants, false⟩

end Builder

/-- The document that tokens make up. -/
def Document.ofTokens (ts : List Token) : Document :=
  (ts.foldl Builder.step (.reading [] .value)).finish

/-- The document that a text holds. -/
def Document.ofBytes (bs : Text.Bytes) : Document := .ofTokens (tokens bs)

end HitCounter.Json
