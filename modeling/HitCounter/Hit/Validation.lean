import HitCounter.Hit.Basic
import HitCounter.Text.Basic

/-!
# Validation

A check of one field either passes or makes a complaint. A value is valid when no check complains;
all complaints are kept, in the order of the checks. `Hit.checks` are the rules for a hit.
-/

namespace HitCounter

/-- What is wrong with a field. -/
structure Complaint where
  field : String
  message : String
deriving DecidableEq, Repr

/-- The complaint in a line. -/
def Complaint.text (c : Complaint) : String := c.field ++ ": " ++ c.message

/-- All complaints in one line. -/
def complaintsText (cs : List Complaint) : String :=
  String.intercalate "; " (cs.map Complaint.text)

/-- A complaint names the field. -/
def namesField (cs : List Complaint) (field : String) : Bool := cs.any (·.field == field)

/-- One rule for a field. -/
inductive Check where
  /-- A rule that is broken already. -/
  | broken (field message : String)
  /-- The value may not be empty. -/
  | required (field value : String)
  /-- The value may hold no control character. -/
  | printable (field value : String)
  /-- The value has at least `least` and at most `most` bytes. -/
  | length (field value : String) (least most : Nat)
deriving DecidableEq, Repr

namespace Check

/-- The complaint of the check, if it does not pass. -/
def complaint? : Check → Option Complaint
  | broken field message => some ⟨field, message⟩
  | required field value => if value.isEmpty then some ⟨field, "must be set"⟩ else none
  | printable field value =>
    if value.toList.any Text.isControl then
      some ⟨field, "must not contain control characters"⟩
    else none
  | length field value least most =>
    let size := value.utf8ByteSize
    if size < least then some ⟨field, "must be at least " ++ toString least ++ " bytes"⟩
    else if most < size then
      some ⟨field, "must be at most " ++ toString most ++ " bytes (got " ++ toString size ++ ")"⟩
    else none

/-- A rule that is broken if the condition holds. -/
def brokenIf (condition : Bool) (field message : String) : List Check :=
  if condition then [broken field message] else []

/-- The complaints of checks, in their order. -/
def complaints (checks : List Check) : List Complaint := checks.filterMap complaint?

/-- Checks pass when none complains. -/
def run (checks : List Check) : Except (List Complaint) Unit :=
  match complaints checks with
  | [] => .ok ()
  | cs => .error cs

end Check

namespace Hit

/-- A hit may lie this far in the future, for clocks that do not agree. -/
def tolerance : Int := 60 * 1000000000

/-- The greatest number of bytes in a title. -/
def longestTitle : Nat := 1024

/-- The greatest number of bytes in a referrer. -/
def longestReferrer : Nat := 2048

/-- The greatest number of bytes in a query. -/
def longestQuery : Nat := 2048

/-- The greatest number of entries in a size. -/
def mostSizes : Nat := 3

/-- The number may stand in a size. -/
def isSize (x : Numeric.Double) : Bool := x.isFinite && !x.isBelowZero

/-- The rules for what must be there before a hit is stored. -/
def presenceChecks (h : Hit) (now : Instant) : List Check :=
  [.required "remote_addr" h.remoteAddr, .required "path" h.path] ++
    Check.brokenIf (now + tolerance < h.createdAt) "created_at" "in the future"

/-- The rules for the size. Too many entries are not looked at one by one. -/
def sizeChecks (h : Hit) : List Check :=
  if mostSizes < h.size.length then
    [.broken "size" ("at most " ++ toString mostSizes ++ " values")]
  else Check.brokenIf (!h.size.all isSize) "size" "must be finite non-negative numbers"

/-- The rules for a hit. The strict ones say also what must be there. -/
def checks (h : Hit) (strict : Bool) (now : Instant) : List Check :=
  Check.brokenIf (h.site ≤ 0) "site" "must be set" ++
  (if strict then h.presenceChecks now else []) ++
  [.length "path" h.path 0 longestPath, .printable "path" h.path,
   .length "title" h.title 0 longestTitle, .length "ref" h.referrer 0 longestReferrer,
   .length "query" h.query 0 longestQuery] ++
  Check.brokenIf (h.bot != 0 && decide (h.bot < 150)) "bot" ("invalid value " ++ toString h.bot) ++
  h.sizeChecks

/-- The hit obeys its rules at this moment, or these are the complaints. -/
def validate (h : Hit) (strict : Bool) (now : Instant) : Except (List Complaint) Unit :=
  Check.run (h.checks strict now)

end Hit

end HitCounter
