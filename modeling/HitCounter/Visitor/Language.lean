import HitCounter.Http.Header
import HitCounter.Numeric.Decimal
import HitCounter.Text.Basic
import HitCounter.Visitor.LanguageCodes

/-!
# The language of a visitor

The header for accepted languages as weighted tags, the base language of a tag, and the language
that a visitor prefers. A language is told by its code of three letters.

* `acceptedLanguages?`: the tags with the heaviest first.
* `baseLanguage`: the language of a tag, and how sure it is.
* `preferredLanguage`: the language of the heaviest tag, if it is sure enough.

Which codes of three letters are known is a matter of a register. `baseLanguageIn` and
`preferredLanguageIn` go by any register, the last two by `isRegistered`, which is not complete.
-/

namespace HitCounter.Visitor

open Http (Headers)
open Numeric (Binary Format Single)

/-- How sure the base language of a tag is. -/
inductive Confidence where
  /-- The tag names no known language. -/
  | no
  /-- The tag leaves the language open. -/
  | low
  /-- The language follows from a region or a script. -/
  | high
  /-- The tag names the language. -/
  | exact
deriving DecidableEq, Repr

/-- The language with a code of two letters. -/
def languageOfTwo? (code : String) : Option String := languageCodes.lookup code

/-- A register: the codes of three letters that are known. -/
abbrev Register := String → Bool

/-- The language with a code of three letters, counted in bytes. -/
def languageOfThree? (known : Register) (code : String) : Option String :=
  if code.utf8ByteSize == 3 && known code then some code else none

/-- The register that is used unless another one is given: the languages that have a code of two
letters too, and the few in `furtherLanguages`. It leaves out all the other codes of ISO 639-3, some
thousands, so that a tag such as `gsw` or `nds` names no language by it. -/
def isRegistered : Register := fun code =>
  furtherLanguages.contains code || languageCodes.any (·.2 == code)

/-- What the subtags of a tag say about region and script: the first of each. A region is two
letters or three digits, a script four letters. -/
structure Hints where
  region : Option String := none
  script : Option String := none
deriving DecidableEq, Repr

/-- One more subtag. -/
def Hints.add (h : Hints) (subtag : List Char) : Hints :=
  let letters := subtag.all Char.isAlpha
  let digits := subtag.all Char.isDigit
  if subtag.length = 2 ∧ letters ∧ h.region.isNone then
    { h with region := some (String.ofList (subtag.map Char.toUpper)) }
  else if subtag.length = 3 ∧ digits ∧ h.region.isNone then
    { h with region := some (String.ofList subtag) }
  else if subtag.length = 4 ∧ letters ∧ h.script.isNone then
    { h with script := some (String.ofList (Text.lower subtag)) }
  else h

/-- The language that a table gives for a key. -/
def likely? (table : List (String × String)) (key : Option String) : Option String :=
  (key.bind fun k => table.lookup k).bind languageOfTwo?

/-- The language that follows from a region, or else from a script, among subtags. -/
def inferLanguage (subtags : List (List Char)) : Option String :=
  let h := subtags.foldl Hints.add {}
  likely? likelyInRegion h.region <|> likely? likelyInScript h.script

/-- The base language of a tag. -/
def baseLanguageIn (known : Register) (tag : String) : Option String × Confidence :=
  match Text.split (fun c => c == '-' || c == '_') tag.toList with
  | [] => (none, .low)
  | first :: subtags =>
    let code := String.ofList (Text.lower first)
    if code = "und" then
      match inferLanguage subtags with
      | some language => (some language, .high)
      | none => (none, .low)
    else if code = "" ∨ code = "*" then (none, .low)
    else
      match languageOfTwo? code <|> languageOfThree? known code with
      | some language => (some language, .exact)
      | none => (none, .no)

/-- The base language of a tag, by the register `isRegistered`. -/
def baseLanguage (tag : String) : Option String × Confidence := baseLanguageIn isRegistered tag

/-- A tag with its weight. -/
structure LanguageTag where
  tag : String
  weight : Single
deriving DecidableEq

/-- The weight of a tag without one, which is one. -/
def fullWeight : Single := .ofCode false 0x3F800000

/-- The weight lies between zero and one; zero may have a minus sign. -/
def isWeight (w : Single) : Bool := w.code == 0 || (!w.negative && w.code ≤ fullWeight.code)

/-- The text of a weight, if a parameter gives one. -/
def weightText? : List Char → Option (List Char)
  | 'q' :: '=' :: rest | 'Q' :: '=' :: rest => some rest
  | _ => none

/-- The weight after one more parameter; none when the parameter gives one that is no weight. -/
def addParameter (weight : Single) (parameter : List Char) : Option Single :=
  match weightText? (Text.trim parameter) with
  | none => some weight
  | some s =>
    match Numeric.readBinary .single (Text.trim s) with
    | .ok w => if isWeight w then some w else none
    | .error _ => none

/-- The tag of an entry: `some none` when the entry has no tag or no weight, `none` when it is
malformed. -/
def languageEntry? (entry : List Char) : Option (Option LanguageTag) :=
  match Text.split (· == ';') entry with
  | [] => some none
  | first :: parameters =>
    let tag := Text.trim first
    if tag.isEmpty then some none
    else (parameters.foldlM addParameter fullWeight).map fun weight =>
      if weight.code = 0 then none else some ⟨String.ofList tag, weight⟩

/-- The tags of a header, the heaviest first and those of one weight in order. One malformed weight
spoils the header. -/
def acceptedLanguages? (value : String) : Option (List LanguageTag) :=
  ((Text.split (· == ',') value.toList).mapM languageEntry?).map fun entries =>
    (entries.filterMap id).mergeSort fun a b => b.weight.code ≤ a.weight.code

/-- The language of the heaviest tag, if the tag names it or its region or script suggests it. -/
def preferredLanguageIn (known : Register) (headers : Headers) : Option String := do
  let value ← headers.visible? "accept-language"
  let tags ← acceptedLanguages? value
  let first ← tags.head?
  match baseLanguageIn known first.tag with
  | (some language, .exact) | (some language, .high) => some language
  | _ => none

/-- The language of the heaviest tag, by the register `isRegistered`. -/
def preferredLanguage (headers : Headers) : Option String :=
  preferredLanguageIn isRegistered headers

end HitCounter.Visitor
