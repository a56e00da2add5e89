import HitCounter.Http.Header
import HitCounter.Net.Address

/-!
# The address and the location of a visitor

The address of the client as the nearest proxy names it. A database of networks with what is known
of each, and the location of an address: the code of its country, followed by a hyphen and the code
of its first subdivision if that is known.
-/

namespace HitCounter.Visitor

open Http (Headers)
open Net (Address IPv4 IPv6)

/-! ## The address -/

/-- The client of a connection whose header for forwarded requests has this value: the last entry of
the list, as it stands, or the peer of the connection when the value is absent or empty. Entries
stand between a comma with a space. -/
def resolveClient (peer : String) (forwarded : Option String) : String :=
  match forwarded with
  | none => peer
  | some value =>
    if value.isEmpty then peer
    else match Text.afterLast? [',', ' '] value.toList with
      | some last => String.ofList last
      | none => value

/-- The client of a request. A header that is not visible counts as absent. -/
def clientAddress (headers : Headers) (peer : String) : String :=
  resolveClient peer (headers.visible? "x-forwarded-for")

/-! ## The location -/

/-- What tells the location of an address, given as text. -/
abbrev Geolocator := String → Option String

/-- The country of a location. -/
def countryOnly (location : String) : String :=
  String.ofList (location.toList.takeWhile (· != '-'))

/-- A value in the database. -/
inductive Datum where
  | text (s : String)
  | list (items : List Datum)
  | map (entries : List (String × Datum))
  /-- A value of another kind. -/
  | other

namespace Datum

/-- The value of a key, where the outer `none` says that the datum is no map. -/
def field? (key : String) : Datum → Option (Option Datum)
  | map entries => some (entries.lookup key)
  | _ => none

/-- The code in a map, where the outer `none` says that it has the wrong kind. -/
def code? (d : Datum) : Option (Option String) := do
  match ← d.field? "iso_code" with
  | none => some none
  | some (text s) => some (some s)
  | some _ => none

/-- The code of the country. Only the fields that lead to it are looked at: what else the datum
holds may be of any kind, though a reader that takes in the whole record would then refuse it. -/
def country? (d : Datum) : Option (Option String) := do
  match ← d.field? "country" with
  | none => some none
  | some country => country.code?

/-- The codes of the subdivisions. -/
def subdivisions? (d : Datum) : Option (List (Option String)) := do
  match ← d.field? "subdivisions" with
  | none => some []
  | some (list items) => items.mapM code?
  | some _ => none

/-- The value of a key is a map, or absent. -/
def mapOrAbsent (key : String) (d : Datum) : Bool :=
  match d.field? key with
  | some none | some (some (map _)) => true
  | _ => false

/-- The codes of country and subdivisions, if the datum describes a city. Of the other fields two
are looked at, whether they are maps. What these maps hold, and any further field, may be of any
kind, though a reader that takes in the whole record would then find no city. -/
def city? (d : Datum) : Option (Option String × List (Option String)) := do
  let country ← d.country?
  let subdivisions ← d.subdivisions?
  if d.mapOrAbsent "city" && d.mapOrAbsent "registered_country" then
    return (country, subdivisions)
  none

/-- The location that a datum gives: with a subdivision if it describes a city, else the country
alone. -/
def location? (d : Datum) : Option String :=
  match d.city? with
  | some (none, _) => none
  | some (some country, some region :: _) => some (country ++ "-" ++ region)
  | some (some country, _) => some country
  | none => d.country?.join

end Datum

/-- The addresses that agree with `bits` in the first `size` bits. -/
structure Network where
  bits : Nat
  size : Nat
deriving DecidableEq, Repr

/-- Networks of addresses of one version, and what is known of each. -/
structure LocationDatabase where
  /-- Addresses have 128 bits, and those of the old version are the least of them; otherwise all
  have 32. -/
  wide : Bool
  networks : List (Network × Datum)

namespace LocationDatabase

/-- How many bits an address has. -/
def width (db : LocationDatabase) : Nat := if db.wide then 128 else 32

/-- An address as a number of 32 bits. -/
def ofIPv4 (ip : IPv4) : Nat :=
  ((ip.a.toNat * 256 + ip.b.toNat) * 256 + ip.c.toNat) * 256 + ip.d.toNat

/-- An address as a number of 128 bits. -/
def ofIPv6 (ip : IPv6) : Nat := ip.groups.foldl (fun n g => n * 65536 + g.toNat) 0

/-- The number of an address in the database. -/
def number? (db : LocationDatabase) : Address → Option Nat
  | .v4 ip => some (ofIPv4 ip)
  | .v6 ip => if db.wide then some (ofIPv6 ip) else none

/-- The number belongs to the network. -/
def holds (db : LocationDatabase) (n : Network) (number : Nat) : Bool :=
  let below := Nat.pow 2 (db.width - n.size)
  number / below == n.bits / below

/-- The datum of the smallest network that an address belongs to, the last of several. -/
def datum? (db : LocationDatabase) (address : Address) : Option Datum := do
  let number ← db.number? address
  let found ← db.networks.foldl (fun best entry =>
    if !db.holds entry.1 number then best
    else match best with
      | none => some entry
      | some b => if b.1.size ≤ entry.1.size then some entry else best) none
  return found.2

/-- The location of an address. -/
def locate (db : LocationDatabase) (address : Address) : Option String :=
  (db.datum? address).bind Datum.location?

/-- The location of an address given as text, with or without a port. -/
def geolocator (db : LocationDatabase) : Geolocator := fun text =>
  (Address.ofText? text.toList).bind db.locate

/-- The network written as an address and a size, such as `192.0.2.0/24`. -/
def network? (db : LocationDatabase) (s : List Char) : Option Network := do
  let (address, size) ← Text.splitFirst? (· == '/') s
  let address ← Net.readAddress? address
  let size ← (Numeric.readNat 128 size).toOption
  match address with
  | .v4 ip => return ⟨ofIPv4 ip, if db.wide then 96 + size else size⟩
  | .v6 ip => return ⟨ofIPv6 ip, size⟩

end LocationDatabase

/-- The geolocator without a database. -/
def nowhere : Geolocator := fun _ => none

/-- What is wrong when there is no database at a path. -/
def noDatabaseMessage (path : String) : String := "Failed to open GeoIP database at " ++ path

end HitCounter.Visitor
