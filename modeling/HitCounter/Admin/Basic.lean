import HitCounter.Admin.Command
import HitCounter.Store.Database
import HitCounter.Text.Lowercase

/-!
# Administration

Commands that change the sites of a database or report on them. A host is taken in lower case, a
command that reports a failure changes no site, and none changes another site than the one it names.
-/

namespace HitCounter.Admin

/-- Why a command fails. -/
inductive Failure where
  | hostTaken (host : String)
  | noSite (host : String)
  /-- Subdivisions are kept only with locations. -/
  | regionWithoutLocation
  | store (e : StoreFault)
deriving DecidableEq, Repr

/-- The wording of a failure. -/
def Failure.message : Failure → String
  | hostTaken host => "a site for host '" ++ host ++ "' already exists"
  | noSite host => "no site for host '" ++ host ++ "'"
  | regionWithoutLocation => "enable location collection before region"
  | store e => e.message

/-- What a command reports. -/
inductive Report where
  | created (id : Int) (host : String)
  | alreadyIgnored (ip host : String)
  | ignoring (ip host : String)
  | notIgnored (ip host : String)
  | noLongerIgnoring (ip host : String)
  | updated (host : String)
  | sites (sites : List Site)
  | hits (host : String) (count : Nat)
deriving DecidableEq, Repr

/-! ## Texts -/

/-- A cell of a table with spaces up to a width. -/
def cell (width : Nat) (s : String) : String :=
  s ++ String.ofList (List.replicate (width - s.length) ' ')

/-- A line of the table of sites. -/
def tableLine (id host location region language ignored : String) : String :=
  cell 6 id ++ " " ++ cell 40 host ++ " " ++ cell 9 location ++ " " ++ cell 7 region ++ " " ++
    cell 9 language ++ " " ++ ignored

/-- The position of a toggle. -/
def onOff (b : Bool) : String := if b then "on" else "off"

/-- The line of a site. -/
def siteLine (s : Site) : String :=
  tableLine (toString s.id) s.host (onOff s.settings.collect.location)
    (onOff s.settings.collect.region) (onOff s.settings.collect.language)
    (String.intercalate ", " s.settings.ignored)

/-- The lines of a report. -/
def Report.lines : Report → List String
  | created id host => ["✓ Created site " ++ toString id ++ " for host '" ++ host ++ "'"]
  | alreadyIgnored ip host => ["⚠ '" ++ ip ++ "' is already ignored for '" ++ host ++ "'"]
  | ignoring ip host => ["✓ Ignoring hits from '" ++ ip ++ "' on '" ++ host ++ "'"]
  | notIgnored ip host => ["⚠ '" ++ ip ++ "' was not ignored for '" ++ host ++ "'"]
  | noLongerIgnoring ip host => ["✓ No longer ignoring '" ++ ip ++ "' on '" ++ host ++ "'"]
  | updated host => ["✓ Updated collection settings for '" ++ host ++ "'"]
  | sites [] => ["No sites found."]
  | sites (s :: more) =>
    tableLine "ID" "Host" "Location" "Region" "Language" "Ignored IPs" ::
      String.ofList (List.replicate 90 '-') :: (s :: more).map siteLine
  | hits host count => [host ++ ": " ++ toString count ++ " hits"]

/-! ## Commands -/

/-- The host as sites are registered. -/
def normalHost (host : String) : String := String.ofList (Text.lowercase host.toList)

/-- The site with a host in any case. -/
def findSite (host : String) (db : Database) : Except Failure Site :=
  match db.siteByHost (normalHost host) with
  | .ok (some site) => .ok site
  | .ok none => .error (.noSite (normalHost host))
  | .error e => .error (.store e)

/-- Other settings for a site, reported as `report`. -/
def store (site : Site) (settings : Settings) (report : Report) (db : Database) :
    Except Failure Report × Database :=
  match db.updateSettings site.id settings with
  | (.ok _, db) => (.ok report, db)
  | (.error e, db) => (.error (.store e), db)

/-- What is kept about visitors with a toggle in another position. Without locations there are no
subdivisions. -/
def toggle (c : Collect) (field : CollectField) (on : Bool) : Except Failure Collect :=
  match field with
  | .location => .ok { c with location := on, region := c.region && on }
  | .region =>
    if on && !c.location then .error .regionWithoutLocation else .ok { c with region := on }
  | .language => .ok { c with language := on }

/-- A command that names a site runs on the site. -/
def onSite (host : String) (db : Database)
    (run : Site → Except Failure Report × Database) : Except Failure Report × Database :=
  match findSite host db with
  | .ok site => run site
  | .error e => (.error e, db)

/-- One command. -/
def run (command : Command) (db : Database) : Except Failure Report × Database :=
  match command with
  | .addSite host collect =>
    let host := normalHost host
    match db.createSite host { collect } with
    | (.ok site, db) => (.ok (.created site.id site.host), db)
    | (.error .conflict, db) => (.error (.hostTaken host), db)
    | (.error e, db) => (.error (.store e), db)
  | .ignore host ip =>
    onSite host db fun site =>
      match site.settings.ignores? ip with
      | some _ => (.ok (.alreadyIgnored ip site.host), db)
      | none =>
        store site { site.settings with ignored := site.settings.ignored ++ [ip] }
          (.ignoring ip site.host) db
  | .unignore host ip =>
    onSite host db fun site =>
      let left := site.settings.ignored.filter (· != ip)
      if left.length = site.settings.ignored.length then
        (.ok (.notIgnored ip site.host), db)
      else store site { site.settings with ignored := left } (.noLongerIgnoring ip site.host) db
  | .collect host field on =>
    onSite host db fun site =>
      match toggle site.settings.collect field on with
      | .ok collect => store site { site.settings with collect } (.updated site.host) db
      | .error e => (.error e, db)
  | .list =>
    match db.listSites with
    | .ok sites => (.ok (.sites sites), db)
    | .error e => (.error (.store e), db)
  | .stats host =>
    onSite host db fun site =>
      match db.countHits site.id with
      | .ok count => (.ok (.hits site.host count), db)
      | .error e => (.error (.store e), db)

/-! ## The command line -/

/-- What a command leaves for its caller. -/
structure Exit where
  code : Nat
  stdout : String := ""
  stderr : String := ""
deriving DecidableEq, Repr

/-- Lines, each with its end. -/
def unlines (lines : List String) : String :=
  String.join (lines.map fun l => l ++ "\n")

/-- The commands with their words. -/
def usage : String :=
  unlines
    ["Usage:",
     "  add-site HOST [--no-location] [--no-region] [--no-language]",
     "  ignore-ip HOST IP",
     "  unignore-ip HOST IP",
     "  collect HOST location|region|language on|off",
     "  list",
     "  stats HOST"]

/-- Runs the command that words make up. -/
def exec (words : List String) (db : Database) : Exit × Database :=
  match Command.ofWords words with
  | .error .help => ({ code := 0, stdout := usage }, db)
  | .error .invalid => ({ code := 2, stderr := usage }, db)
  | .ok command =>
    match run command db.init with
    | (.ok report, db) => ({ code := 0, stdout := unlines report.lines }, db)
    | (.error e, db) => ({ code := 1, stderr := "Error: " ++ e.message ++ "\n" }, db)

end HitCounter.Admin
