/-!
# Texts

* Sets of characters: tables of ranges, white space and control characters.
* Trimming, and splitting at separators.
* Search for a word, and the parts before and after the last one.
-/

namespace HitCounter.Text

/-! ## Sets of characters -/

/-- Ranges of code points, both ends included. -/
abbrev CharRanges := List (Nat × Nat)

/-- The character lies in one of the ranges. -/
def CharRanges.has (ranges : CharRanges) (c : Char) : Bool :=
  ranges.any fun (first, last) => first ≤ c.toNat && c.toNat ≤ last

/-- The character has the Unicode property White_Space. -/
def isBlank (c : Char) : Bool :=
  let n := c.toNat
  (9 ≤ n && n ≤ 13) || n == 0x20 || n == 0x85 || n == 0xA0 || n == 0x1680 ||
  (0x2000 ≤ n && n ≤ 0x200A) || n == 0x2028 || n == 0x2029 || n == 0x202F || n == 0x205F ||
  n == 0x3000

/-- The character has the general category Cc. -/
def isControl (c : Char) : Bool :=
  let n := c.toNat
  n < 0x20 || (0x7F ≤ n && n < 0xA0)

/-! ## Cutting -/

/-- The text without the white space at its two ends. -/
def trim (s : List Char) : List Char :=
  ((s.dropWhile isBlank).reverse.dropWhile isBlank).reverse

/-- The parts of a list between the elements that satisfy `sep`. There is one part more than there
are separators, so even an empty list has one part. -/
def split {α : Type} (sep : α → Bool) (s : List α) : List (List α) :=
  s.foldr (fun c parts =>
    if sep c then [] :: parts
    else match parts with
      | [] => [[c]]
      | part :: more => (c :: part) :: more) [[]]

/-- The list before the first element that satisfies `sep`, and the list after it. -/
def splitFirst? {α : Type} (sep : α → Bool) (s : List α) : Option (List α × List α) :=
  match s.dropWhile (fun c => !sep c) with
  | [] => none
  | _ :: after => some (s.takeWhile (fun c => !sep c), after)

/-- The list before the last element that satisfies `sep`; all of it when there is none. -/
def beforeLast {α : Type} (sep : α → Bool) (s : List α) : List α :=
  match s.reverse.dropWhile (fun c => !sep c) with
  | [] => s
  | _ :: before => before.reverse

/-- What follows the last occurrence of `word`, or `best` when there is none. -/
def afterLastFrom (word : List Char) (best : Option (List Char)) : List Char → Option (List Char)
  | [] => best
  | c :: rest =>
    afterLastFrom word
      (if word.isPrefixOf (c :: rest) then some ((c :: rest).drop word.length) else best) rest

/-- What follows the last occurrence of a word that is not empty. -/
def afterLast? (word s : List Char) : Option (List Char) := afterLastFrom word none s

/-- The word occurs somewhere in the text. -/
def contains (word : List Char) : List Char → Bool
  | [] => word.isEmpty
  | c :: rest => word.isPrefixOf (c :: rest) || contains word rest

/-- The text with its ASCII capitals in lower case. -/
def lower (s : List Char) : List Char := s.map Char.toLower

end HitCounter.Text
