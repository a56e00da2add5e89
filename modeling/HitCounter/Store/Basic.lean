import HitCounter.Store.Database

/-!
# The store

The database behind a cache of sites by host, or without one. The cache keeps what a lookup found,
also that it found nothing. A new site enters it, and other settings for a site empty it.
-/

namespace HitCounter

/-- What is known of hosts, the latest entry first. -/
abbrev Cache := List (String × Option Site)

namespace Cache

/-- What is known of a host. -/
def get? (c : Cache) (host : String) : Option (Option Site) := c.lookup host

/-- The cache with an entry that hides an earlier one. -/
def insert (c : Cache) (host : String) (site : Option Site) : Cache :=
  (host, site) :: c.filter (·.1 != host)

end Cache

/-- A database and a cache, if there is one. -/
structure Store where
  database : Database := {}
  cache : Option Cache := none
deriving DecidableEq, Repr

namespace Store

/-- The store with an entry in its cache. -/
def remember (host : String) (site : Option Site) (s : Store) : Store :=
  { s with cache := s.cache.map (·.insert host site) }

/-- The store with an empty cache. -/
def forget (s : Store) : Store := { s with cache := s.cache.map fun _ => [] }

/-- A new site, which the cache then knows. -/
def createSite (host : String) (settings : Settings) (s : Store) :
    Except StoreFault Site × Store :=
  let (result, database) := s.database.createSite host settings
  let s := { s with database }
  match result with
  | .ok site => (.ok site, s.remember host (some site))
  | .error e => (.error e, s)

/-- The site with a host: from the cache if it knows the host, else from the database. -/
def siteByHost (host : String) (s : Store) : Except StoreFault (Option Site) × Store :=
  match s.cache.bind (·.get? host) with
  | some site => (.ok site, s)
  | none =>
    match s.database.siteByHost host with
    | .ok site => (.ok site, s.remember host site)
    | .error e => (.error e, s)

/-- Other settings for a site. The cache is by host and the site given by number, so that all of
it is forgotten. -/
def updateSettings (id : Int) (settings : Settings) (s : Store) :
    Except StoreFault Bool × Store :=
  let (result, database) := s.database.updateSettings id settings
  let s := { s with database }
  match result with
  | .ok true => (.ok true, s.forget)
  | result => (result, s)

/-- A batch of hits, which the cache has nothing to do with. -/
def persistHits (batch : List Hit) (s : Store) : Except StoreFault Nat × Store :=
  let (result, database) := s.database.persistHits batch
  (result, { s with database })

end Store

/-- A call of the store. -/
inductive Call where
  | createSite (host : String) (settings : Settings)
  | siteByHost (host : String)
  | siteById (id : Int)
  | updateSettings (id : Int) (settings : Settings)
  | listSites
  | persistHits (batch : List Hit)
  | countHits (id : Int)
deriving DecidableEq

/-- What a call answers. -/
inductive Answer where
  | created (site : Site)
  | found (site : Option Site)
  | updated (known : Bool)
  | sites (sites : List Site)
  | stored (count : Nat)
  | count (count : Nat)
  | failed (e : StoreFault)
deriving DecidableEq, Repr

/-- The answer of a call that may fail. -/
def Answer.of {α : Type} (answer : α → Answer) : Except StoreFault α → Answer
  | .ok x => answer x
  | .error e => .failed e

/-- One call of the store. -/
def Store.call (s : Store) : Call → Answer × Store
  | .createSite host settings =>
    let (result, s) := s.createSite host settings
    (.of .created result, s)
  | .siteByHost host =>
    let (result, s) := s.siteByHost host
    (.of .found result, s)
  | .siteById id => (.of .found (s.database.siteById id), s)
  | .updateSettings id settings =>
    let (result, s) := s.updateSettings id settings
    (.of .updated result, s)
  | .listSites => (.of .sites s.database.listSites, s)
  | .persistHits batch =>
    let (result, s) := s.persistHits batch
    (.of .stored result, s)
  | .countHits id => (.of .count (s.database.countHits id), s)

/-- One call that goes around the cache. -/
def Store.callDirectly (s : Store) (c : Call) : Answer × Store :=
  let (answer, inner) := ({ s with cache := none } : Store).call c
  (answer, { s with database := inner.database })

/-- Calls one after the other, with their answers. -/
def Store.run (s : Store) : List Call → List Answer × Store
  | [] => ([], s)
  | c :: more =>
    let (answer, s) := s.call c
    let (answers, s) := s.run more
    (answer :: answers, s)

end HitCounter
