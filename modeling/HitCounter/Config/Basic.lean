import HitCounter.Numeric.Integer
import HitCounter.Text.Quoted
import HitCounter.Text.Utf8

/-!
# Configuration

The configuration is read from the environment. A variable that is not set, or whose value is not
UTF-8, has its default. A numeric variable may have white space around its value; of several that
hold no number the first in the order of reading is reported.
-/

namespace HitCounter

open Text (Bytes)

/-- The variables that are set; a later entry wins. -/
abbrev Environment := List (String × Bytes)

/-- The text of a variable. -/
def Environment.get? (env : Environment) (name : String) : Option String :=
  (env.reverse.lookup name).bind fun value => (Text.decode? value).map String.ofList

/-- The configuration of the server. -/
structure Config where
  databaseUrl : String := "sqlite://./beacon.db?mode=rwc"
  maxConnections : Nat := 5
  host : String := "127.0.0.1"
  port : Nat := 8081
  /-- Where the database of locations is, if there is one. -/
  cityDatabase : Option String := none
  /-- The capacity of the queue of hits. -/
  bufferSize : Nat := 100000
  /-- In milliseconds. -/
  flushInterval : Nat := 100
  /-- In seconds. -/
  persistInterval : Nat := 10
  cacheEntries : Nat := 10000
  /-- In seconds. -/
  cacheLifetime : Nat := 30
deriving DecidableEq, Repr

/-- A numeric variable. -/
inductive NumericVariable where
  | maxConnections
  | port
  | bufferSize
  | flushInterval
  | persistInterval
  | cacheEntries
  | cacheLifetime
deriving DecidableEq, Repr

namespace NumericVariable

/-- The name in the environment. -/
def name : NumericVariable → String
  | maxConnections => "DATABASE_MAX_CONNECTIONS"
  | port => "BEACON_PORT"
  | bufferSize => "MEMSTORE_BUFFER_SIZE"
  | flushInterval => "MEMSTORE_FLUSH_INTERVAL_MS"
  | persistInterval => "MEMSTORE_PERSIST_INTERVAL_SECS"
  | cacheEntries => "SITE_CACHE_MAX_ENTRIES"
  | cacheLifetime => "SITE_CACHE_TTL_SECS"

/-- How many bits the number may take. -/
def bits : NumericVariable → Nat
  | maxConnections => 32
  | port => 16
  | _ => 64

/-- The value in a configuration. -/
def get (c : Config) : NumericVariable → Nat
  | maxConnections => c.maxConnections
  | port => c.port
  | bufferSize => c.bufferSize
  | flushInterval => c.flushInterval
  | persistInterval => c.persistInterval
  | cacheEntries => c.cacheEntries
  | cacheLifetime => c.cacheLifetime

/-- The configuration with another value. -/
def set (c : Config) (n : Nat) : NumericVariable → Config
  | maxConnections => { c with maxConnections := n }
  | port => { c with port := n }
  | bufferSize => { c with bufferSize := n }
  | flushInterval => { c with flushInterval := n }
  | persistInterval => { c with persistInterval := n }
  | cacheEntries => { c with cacheEntries := n }
  | cacheLifetime => { c with cacheLifetime := n }

/-- All numeric variables in the order in which they are read. -/
def all : List NumericVariable :=
  [maxConnections, port, bufferSize, flushInterval, persistInterval, cacheEntries, cacheLifetime]

end NumericVariable

/-- A numeric variable without a number. -/
structure ConfigFault where
  setting : NumericVariable
  value : String
  fault : Numeric.IntegerFault
deriving DecidableEq, Repr

/-- The wording of a fault, with the value as it was given. -/
def ConfigFault.message (e : ConfigFault) : String :=
  e.setting.name ++ " must be a number, got " ++ Text.quote e.value ++ ": " ++ e.fault.message

namespace Config

/-- The configuration with the value of one numeric variable, if it is set. -/
def readNumber (env : Environment) (c : Config) (v : NumericVariable) :
    Except ConfigFault Config :=
  match env.get? v.name with
  | none => .ok c
  | some value =>
    match Numeric.readNat (Nat.pow 2 v.bits - 1) (Text.trim value.toList) with
    | .ok n => .ok (v.set c n)
    | .error e => .error ⟨v, value, e⟩

/-- The configuration with the texts that are set. A blank path is none. -/
def readTexts (env : Environment) (c : Config) : Config :=
  { c with
    databaseUrl := (env.get? "DATABASE_URL").getD c.databaseUrl
    host := (env.get? "BEACON_HOST").getD c.host
    cityDatabase := (env.get? "GEOIP_CITY_DB_PATH").filter fun path =>
      !(Text.trim path.toList).isEmpty }

/-- The configuration that an environment gives. -/
def ofEnvironment (env : Environment) : Except ConfigFault Config :=
  NumericVariable.all.foldlM (readNumber env) (readTexts env {})

end Config

end HitCounter
