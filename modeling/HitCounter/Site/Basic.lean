import HitCounter.Json.Reader

/-!
# Sites

A site answers under one host. Its settings say which clients are not counted and what is kept about
the others. Settings are stored as JSON: `Settings.toJson` writes them and `Settings.ofJson` reads
them, with the default for what is left out.
-/

namespace HitCounter

open Text (Bytes)

/-- What is kept about a visitor. -/
structure Collect where
  location : Bool := true
  /-- Keep the subdivision with the country. -/
  region : Bool := true
  language : Bool := true
deriving DecidableEq, Repr

/-- The settings of a site. -/
structure Settings where
  /-- Clients whose hits are not counted. -/
  ignored : List String := []
  collect : Collect := {}
deriving DecidableEq, Repr

/-- The rule that keeps a client from being counted, which is the address as it stands. -/
def Settings.ignores? (s : Settings) (client : String) : Option String :=
  s.ignored.find? (· == client)

/-- A site with its number. -/
structure Site where
  id : Int
  host : String
  settings : Settings
deriving DecidableEq, Repr

/-! ## Writing -/

/-- How a character stands in a JSON string. -/
def jsonChar (c : Char) : List Char :=
  match c with
  | '"' => ['\\', '"']
  | '\\' => ['\\', '\\']
  | '\x08' => ['\\', 'b']
  | '\t' => ['\\', 't']
  | '\n' => ['\\', 'n']
  | '\x0c' => ['\\', 'f']
  | '\r' => ['\\', 'r']
  | c =>
    if c.toNat < 0x20 then
      ['\\', 'u', '0', '0', if c.toNat < 0x10 then '0' else '1', Nat.digitChar (c.toNat % 16)]
    else [c]

/-- A JSON string. -/
def jsonText (s : String) : List Char := '"' :: s.toList.flatMap jsonChar ++ ['"']

/-- A JSON truth value. -/
def jsonBool (b : Bool) : List Char := if b then "true".toList else "false".toList

/-- A JSON list of values that are written already. -/
def jsonList (items : List (List Char)) : List Char :=
  '[' :: List.intercalate [','] items ++ [']']

/-- A record; each member is the name of a field and a value. -/
def jsonRecord (members : List (String × List Char)) : List Char :=
  '\x7b' :: List.intercalate [','] (members.map fun (k, v) => jsonText k ++ ':' :: v) ++ ['\x7d']

/-- What is kept about a visitor, as JSON. -/
def Collect.toJson (c : Collect) : List Char :=
  jsonRecord
    [("location", jsonBool c.location), ("location_region", jsonBool c.region),
     ("language", jsonBool c.language)]

/-- The settings as JSON, every field written. -/
def Settings.toJson (s : Settings) : List Char :=
  jsonRecord
    [("ignore_ips", jsonList (s.ignored.map jsonText)), ("collect", s.collect.toJson)]

/-! ## Reading -/

/-- The toggles for what is kept. -/
inductive CollectField where
  | location
  | region
  | language
deriving DecidableEq, Repr

/-- The name of the field in a JSON text. -/
def CollectField.key : CollectField → String
  | location => "location"
  | region => "location_region"
  | language => "language"

/-- The settings with a toggle in another position. -/
def Collect.set (c : Collect) (f : CollectField) (on : Bool) : Collect :=
  match f with
  | .location => { c with location := on }
  | .region => { c with region := on }
  | .language => { c with language := on }

/-- What is kept about a visitor, as a record in a JSON text. -/
def Collect.shape : Json.Shape CollectField Collect Json.Fault where
  wanted := "struct Collect"
  fields := [.location, .region, .language]
  field? := fun key => [CollectField.location, .region, .language].find? (·.key == key)
  label := CollectField.key
  set := fun f n c => return c.set f (← n.readBool)
  fault := id

/-- The parts of the settings. -/
inductive SettingsField where
  | ignored
  | collect
deriving DecidableEq, Repr

/-- The name of the field in a JSON text. -/
def SettingsField.key : SettingsField → String
  | ignored => "ignore_ips"
  | collect => "collect"

/-- The settings as a record in a JSON text. -/
def Settings.shape : Json.Shape SettingsField Settings Json.Fault where
  wanted := "struct SiteSettings"
  fields := [.ignored, .collect]
  field? := fun key => [SettingsField.ignored, .collect].find? (·.key == key)
  label := SettingsField.key
  set := fun f n s => match f with
    | .ignored => return { s with ignored := ← n.readList Json.Node.readText }
    | .collect => return { s with collect := ← Collect.shape.ofNode {} n }
  fault := id

/-- The settings in a JSON text. -/
def Settings.ofJson (text : Bytes) : Except Json.Fault Settings := Settings.shape.read {} text

end HitCounter
