import HitCounter.Text.CaseTables

/-!
# Lower case

Texts in lower case, for letters of every script. A capital sigma takes its final form after a
letter when no letter follows; a capital I with a dot keeps the dot as a character of its own.
-/

namespace HitCounter.Text

/-- The lower-case form of one character, if the table has another one for it. -/
def CaseRun.lower? (r : CaseRun) (c : Char) : Option Char :=
  let n := c.toNat
  if r.first ≤ n ∧ n ≤ r.last ∧ (n - r.first) % r.step = 0 then
    some (Char.ofNat ((n : Int) + r.shift).toNat)
  else none

/-- The lower-case form of a character wherever it stands. -/
def lowerChar (c : Char) : List Char :=
  if c.toNat < 0x80 then [c.toLower]
  else if c = 'İ' then ['i', '\u0307']
  else [(caseRuns.findSome? (·.lower? c)).getD c]

/-- The first character that is not passed over has a case. -/
def startsCased (s : List Char) : Bool :=
  match s.dropWhile caseIgnorable.has with
  | [] => false
  | c :: _ => cased.has c

/-- The text in lower case, after the characters `before`, latest first; `done` is the part already
in lower case, latest first. -/
def lowercaseAfter (before done : List Char) : List Char → List Char
  | [] => done.reverse
  | c :: rest =>
    let form :=
      if c = 'Σ' then
        if startsCased before && !startsCased rest then ['ς'] else ['σ']
      else lowerChar c
    lowercaseAfter (c :: before) (form.reverse ++ done) rest

/-- The text in lower case. -/
def lowercase (s : List Char) : List Char := lowercaseAfter [] [] s

end HitCounter.Text
