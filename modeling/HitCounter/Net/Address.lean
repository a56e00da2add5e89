import HitCounter.Numeric.Integer
import HitCounter.Text.Basic

/-!
# Internet addresses

Addresses of both versions with their canonical texts, and the reading of an address or of an
address with a port.

* `Address.text`: four numbers with points; or groups of hexadecimal digits with colons, the first
  longest run of two or more zero groups replaced by `::`. An address that maps one of the old kind
  ends in the four numbers.
* `Address.ofText?`: the address in a text, with or without port, between white space.
-/

namespace HitCounter.Net

/-- Four numbers of eight bits. -/
structure IPv4 where
  a : UInt8
  b : UInt8
  c : UInt8
  d : UInt8
deriving DecidableEq, Repr

/-- Eight groups of sixteen bits. -/
structure IPv6 where
  groups : List UInt16
  length_groups : groups.length = 8
deriving DecidableEq, Repr

/-- An address of either version. -/
inductive Address where
  | v4 (ip : IPv4)
  | v6 (ip : IPv6)
deriving DecidableEq, Repr

/-! ## Writing -/

/-- Decimal digits. -/
def decimal (n : Nat) : List Char := Nat.toDigits 10 n

/-- Four numbers with points between them. -/
def IPv4.text (ip : IPv4) : List Char :=
  decimal ip.a.toNat ++ '.' :: decimal ip.b.toNat ++ '.' :: decimal ip.c.toNat ++
    '.' :: decimal ip.d.toNat

/-- Groups in hexadecimal digits between colons. -/
def groupsText (groups : List UInt16) : List Char :=
  List.intercalate [':'] (groups.map fun g => Nat.toDigits 16 g.toNat)

/-- The number of zeros that a list starts with. -/
def leadingZeros (groups : List UInt16) : Nat := (groups.takeWhile (· == 0)).length

/-- Where the first longest run of zeros starts, and its length. -/
def longestZeros (groups : List UInt16) : Nat × Nat :=
  (List.range groups.length).foldl (fun best start =>
    let size := leadingZeros (groups.drop start)
    if best.2 < size then (start, size) else best) (0, 0)

/-- The address of the old kind that an address maps. -/
def IPv6.mapped? (ip : IPv6) : Option IPv4 :=
  match ip.groups with
  | [0, 0, 0, 0, 0, 0xFFFF, high, low] =>
    some ⟨(high / 256).toUInt8, high.toUInt8, (low / 256).toUInt8, low.toUInt8⟩
  | _ => none

/-- The address that is mapped, or groups with the first longest run of zeros left out. -/
def IPv6.text (ip : IPv6) : List Char :=
  match ip.mapped? with
  | some old => "::ffff:".toList ++ old.text
  | none =>
    let (start, size) := longestZeros ip.groups
    if 1 < size then
      groupsText (ip.groups.take start) ++ ':' :: ':' :: groupsText (ip.groups.drop (start + size))
    else groupsText ip.groups

namespace Address

/-- The canonical text. -/
def text : Address → List Char
  | v4 ip => ip.text
  | v6 ip => ip.text

/-- The canonical text with a port. -/
def socketText (port : UInt16) : Address → List Char
  | v4 ip => ip.text ++ ':' :: decimal port.toNat
  | v6 ip => '[' :: ip.text ++ ']' :: ':' :: decimal port.toNat

end Address

/-! ## Reading

Each reader takes what it reads from the start of a text and returns the rest. -/

/-- One given character. -/
def takeChar (c : Char) : List Char → Option (Unit × List Char)
  | [] => none
  | x :: rest => if x = c then some ((), rest) else none

/-- A number from 0 to 255 without leading zeros. -/
def takeOctet (s : List Char) : Option (UInt8 × List Char) :=
  let digits := s.takeWhile Char.isDigit
  let n := Numeric.ofDigits digits
  let padded := digits.head? == some '0' && 1 < digits.length
  if digits.isEmpty ∨ 3 < digits.length ∨ padded ∨ 255 < n then none
  else some (UInt8.ofNat n, s.dropWhile Char.isDigit)

/-- A number from 0 to `limit` with any leading zeros. -/
def takeNumber (limit : Nat) (s : List Char) : Option (Nat × List Char) :=
  let digits := s.takeWhile Char.isDigit
  let n := Numeric.ofDigits digits
  if digits.isEmpty ∨ limit < n then none else some (n, s.dropWhile Char.isDigit)

/-- The value of a hexadecimal digit. -/
def hexValue (c : Char) : Nat :=
  if c.isDigit then c.toNat - '0'.toNat else c.toLower.toNat - 'a'.toNat + 10

/-- A hexadecimal digit in either case. -/
def isHexDigit (c : Char) : Bool :=
  c.isDigit || ('a' ≤ c && c ≤ 'f') || ('A' ≤ c && c ≤ 'F')

/-- One to four hexadecimal digits. -/
def takeGroup (s : List Char) : Option (UInt16 × List Char) :=
  let digits := s.takeWhile isHexDigit
  if digits.isEmpty ∨ 4 < digits.length then none
  else
    some (UInt16.ofNat (digits.foldl (fun n c => n * 16 + hexValue c) 0), s.dropWhile isHexDigit)

/-- Four numbers with points between them. -/
def takeIPv4 (s : List Char) : Option (IPv4 × List Char) := do
  let (a, s) ← takeOctet s
  let (_, s) ← takeChar '.' s
  let (b, s) ← takeOctet s
  let (_, s) ← takeChar '.' s
  let (c, s) ← takeOctet s
  let (_, s) ← takeChar '.' s
  let (d, s) ← takeOctet s
  return (⟨a, b, c, d⟩, s)

/-- What follows a colon, or what stands at the start of a run of groups. -/
def afterColon (first : Bool) (s : List Char) : Option (List Char) :=
  if first then some s else (takeChar ':' s).map (·.2)

/-- The groups of an address of the old kind. -/
def IPv4.groups (ip : IPv4) : List UInt16 :=
  [ip.a.toUInt16 * 256 + ip.b.toUInt16, ip.c.toUInt16 * 256 + ip.d.toUInt16]

/-- At most `room` groups between colons, as many as there are. An address of the old kind may take
the place of two groups and ends the run; the flag says so. -/
def takeGroups : (room : Nat) → (first : Bool) → List Char → List UInt16 × Bool × List Char
  | 0, _, s => ([], false, s)
  | room + 1, first, s =>
    let old := if 0 < room then (afterColon first s).bind takeIPv4 else none
    match old with
    | some (ip, rest) => (ip.groups, true, rest)
    | none =>
      match (afterColon first s).bind takeGroup with
      | none => ([], false, s)
      | some (g, rest) =>
        let (more, ended, rest) := takeGroups room false rest
        (g :: more, ended, rest)

/-- Eight groups, or fewer with `::` in the place of one zero group or more. -/
def takeIPv6 (s : List Char) : Option (IPv6 × List Char) := do
  let (head, ended, s) := takeGroups 8 true s
  if h : head.length = 8 then return (⟨head, h⟩, s)
  if ended then none
  let (_, s) ← takeChar ':' s
  let (_, s) ← takeChar ':' s
  let (tail, _, s) := takeGroups (7 - head.length) true s
  let groups := head ++ List.replicate (8 - head.length - tail.length) 0 ++ tail
  if h : groups.length = 8 then return (⟨groups, h⟩, s)
  none

/-- An address, and nothing after it. -/
def readAddress? (s : List Char) : Option Address :=
  match takeIPv4 s with
  | some (ip, []) => some (.v4 ip)
  | _ =>
    match takeIPv6 s with
    | some (ip, []) => some (.v6 ip)
    | _ => none

/-- A colon and a port, and nothing after it. -/
def readPort? (s : List Char) : Option UInt16 := do
  let (_, s) ← takeChar ':' s
  let (port, s) ← takeNumber 65535 s
  if s.isEmpty then return UInt16.ofNat port
  none

/-- The zone that may follow an address in brackets. -/
def skipZone (s : List Char) : List Char :=
  match (takeChar '%' s).bind fun (_, rest) => takeNumber 4294967295 rest with
  | some (_, rest) => rest
  | none => s

/-- An address with a port: `a.b.c.d:port` or `[address]:port`. -/
def readSocket? (s : List Char) : Option (Address × UInt16) :=
  match takeIPv4 s with
  | some (ip, rest) => (readPort? rest).map fun port => (.v4 ip, port)
  | none => do
    let (_, s) ← takeChar '[' s
    let (ip, s) ← takeIPv6 s
    let (_, s) ← takeChar ']' (skipZone s)
    return (.v6 ip, ← readPort? s)

/-- The address that a text holds, with or without a port, between white space. -/
def Address.ofText? (s : List Char) : Option Address :=
  let s := Text.trim s
  readAddress? s <|> (readSocket? s).map (·.1)

end HitCounter.Net
