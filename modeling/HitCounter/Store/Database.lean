import HitCounter.Hit.Basic
import HitCounter.Numeric.Shortest
import HitCounter.Site.Basic

/-!
# The database

Two tables, one of sites and one of hits. Sites are numbered in the order in which they are asked
for: a host that is taken already uses up a number too. Settings are kept as JSON texts. Every hit
belongs to a site of the table, and a batch of hits is stored as a whole or not at all.
-/

namespace HitCounter

/-- A row of the table of sites. -/
structure SiteRow where
  id : Int
  host : String
  /-- The settings as a JSON text. -/
  settings : String
deriving DecidableEq, Repr

/-- A row of the table of hits. -/
structure HitRow where
  site : Int
  path : String
  title : String
  referrer : String
  query : String
  event : Bool
  /-- The entries of the size between commas. -/
  size : String
  bot : Int
  userAgent : String
  remoteAddr : String
  location : Option String
  language : Option String
  /-- In whole seconds. -/
  createdAt : Int
deriving DecidableEq, Repr

/-- The two tables; rows are added at the end. -/
structure Tables where
  sites : List SiteRow := []
  /-- The number of the next site. -/
  nextSite : Int := 1
  hits : List HitRow := []
deriving DecidableEq, Repr

/-- A database, which may be without its tables. -/
structure Database where
  tables : Option Tables := none
deriving DecidableEq, Repr

/-- Why the database does not do what it is asked for. -/
inductive StoreFault where
  /-- A site has this host already. -/
  | conflict
  | noTable (name : String)
  /-- A hit belongs to no site. -/
  | foreignKey
  /-- The settings of a site are no JSON text of the right shape. -/
  | invalidSettings (id : Int) (e : Json.Fault)
deriving DecidableEq, Repr

/-- The wording of a fault. -/
def StoreFault.message : StoreFault → String
  | conflict => "a site with this host already exists"
  | noTable name => "error returned from database: (code: 1) no such table: " ++ name
  | foreignKey =>
    "error returned from database: (code: 787) FOREIGN KEY constraint failed"
  | invalidSettings id _ => "invalid settings for site " ++ toString id

/-- The site in a row. -/
def SiteRow.toSite (r : SiteRow) : Except StoreFault Site :=
  match Settings.ofJson (Text.encode r.settings.toList) with
  | .ok settings => .ok ⟨r.id, r.host, settings⟩
  | .error e => .error (.invalidSettings r.id e)

/-- The entries of a size as they are stored. -/
def sizeColumn (size : List Numeric.Double) : String :=
  String.ofList (List.intercalate [','] (size.map (·.positional)))

/-- The row of a hit. -/
def Hit.toRow (h : Hit) : HitRow where
  site := h.site
  path := h.path
  title := h.title
  referrer := h.referrer
  query := h.query
  event := h.event
  size := sizeColumn h.size
  bot := h.bot
  userAgent := h.userAgent
  remoteAddr := h.remoteAddr
  location := h.location
  language := h.language
  createdAt := h.createdAt.fdiv 1000000000

namespace Tables

/-- The row of the site with a host. -/
def byHost? (t : Tables) (host : String) : Option SiteRow := t.sites.find? (·.host == host)

/-- The row of the site with a number. -/
def byId? (t : Tables) (id : Int) : Option SiteRow := t.sites.find? (·.id == id)

/-- The tables with the settings text of a site replaced. -/
def setText (t : Tables) (id : Int) (text : String) : Tables :=
  { t with sites := t.sites.map fun r => if r.id == id then { r with settings := text } else r }

/-- The tables with one more hit, which must belong to a site. -/
def insertHit (t : Tables) (h : Hit) : Except StoreFault Tables :=
  if (t.byId? h.site).isSome then .ok { t with hits := t.hits ++ [h.toRow] }
  else .error .foreignKey

/-- How many hits a site has. -/
def countHits (t : Tables) (id : Int) : Nat := t.hits.countP (·.site == id)

end Tables

namespace Database

/-- The database with empty tables where it has none. -/
def init (db : Database) : Database := ⟨some (db.tables.getD {})⟩

/-- The database without its tables. -/
def drop (_ : Database) : Database := {}

/-- The table of sites. -/
def sites (db : Database) : Except StoreFault Tables :=
  match db.tables with
  | some t => .ok t
  | none => .error (.noTable "sites")

/-- The table of hits. -/
def hits (db : Database) : Except StoreFault Tables :=
  match db.tables with
  | some t => .ok t
  | none => .error (.noTable "hits")

/-- A new site, unless another one has the host. -/
def createSite (host : String) (settings : Settings) (db : Database) :
    Except StoreFault Site × Database :=
  match db.sites with
  | .error e => (.error e, db)
  | .ok t =>
    let id := t.nextSite
    match t.byHost? host with
    | some _ => (.error .conflict, ⟨some { t with nextSite := id + 1 }⟩)
    | none =>
      let row : SiteRow := ⟨id, host, String.ofList settings.toJson⟩
      (.ok ⟨id, host, settings⟩,
        ⟨some { t with sites := t.sites ++ [row], nextSite := id + 1 }⟩)

/-- The site in a row that may be missing. -/
def readRow (row : Option SiteRow) : Except StoreFault (Option Site) :=
  match row with
  | none => .ok none
  | some r => r.toSite.map some

/-- The site with a host. -/
def siteByHost (host : String) (db : Database) : Except StoreFault (Option Site) := do
  readRow ((← db.sites).byHost? host)

/-- The site with a number. -/
def siteById (id : Int) (db : Database) : Except StoreFault (Option Site) := do
  readRow ((← db.sites).byId? id)

/-- Other settings for a site; whether there is one with this number. -/
def updateSettings (id : Int) (settings : Settings) (db : Database) :
    Except StoreFault Bool × Database :=
  match db.sites with
  | .error e => (.error e, db)
  | .ok t =>
    (.ok (t.byId? id).isSome, ⟨some (t.setText id (String.ofList settings.toJson))⟩)

/-- Another text in the place of the settings of a site; how many rows that changes. -/
def overwriteSettings (id : Int) (text : String) (db : Database) :
    Except StoreFault Nat × Database :=
  match db.sites with
  | .error e => (.error e, db)
  | .ok t => (.ok (t.sites.countP (·.id == id)), ⟨some (t.setText id text)⟩)

/-- All sites, by number. -/
def listSites (db : Database) : Except StoreFault (List Site) := do
  (← db.sites).sites.mapM SiteRow.toSite

/-- A batch of hits; how many were stored. An empty batch does not look at the tables. -/
def persistHits (batch : List Hit) (db : Database) : Except StoreFault Nat × Database :=
  if batch.isEmpty then (.ok 0, db)
  else match db.hits with
    | .error e => (.error e, db)
    | .ok t =>
      match batch.foldlM Tables.insertHit t with
      | .ok t => (.ok batch.length, ⟨some t⟩)
      | .error e => (.error e, db)

/-- How many hits of a site are stored. -/
def countHits (id : Int) (db : Database) : Except StoreFault Nat := do
  return (← db.hits).countHits id

end Database

end HitCounter
