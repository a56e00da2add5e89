import HitCounter.Numeric.Binary

/-!
# Hits

A hit is one view of a page, or one event on it, as it is counted. A payload is what the page itself
says about it; every part may be left out. Payloads lie over one another, the later one on top, and
are merged into a hit.
-/

namespace HitCounter

/-- Nanoseconds since a fixed moment. -/
abbrev Instant := Int

/-- One view of a page or one event. -/
structure Hit where
  /-- The number of the site. -/
  site : Int
  remoteAddr : String
  userAgent : String
  createdAt : Instant
  path : String := ""
  title : String := ""
  referrer : String := ""
  query : String := ""
  event : Bool := false
  /-- Width, height and scale of the screen. -/
  size : List Numeric.Double := []
  /-- Zero for a visitor, and otherwise the code of a kind of automatic client. -/
  bot : Int := 0
  location : Option String := none
  language : Option String := none
deriving DecidableEq

/-- What a page says about a hit. -/
structure Payload where
  path : Option String := none
  title : Option String := none
  referrer : Option String := none
  query : Option String := none
  event : Option Bool := none
  size : Option (List Numeric.Double) := none
  bot : Option Int := none
deriving DecidableEq

/-- The greatest number of bytes in a path. -/
def longestPath : Nat := 2048

namespace Payload

/-- The payload with another one on top of it, whose parts win where they are given. -/
def overlay (base top : Payload) : Payload where
  path := top.path <|> base.path
  title := top.title <|> base.title
  referrer := top.referrer <|> base.referrer
  query := top.query <|> base.query
  event := top.event <|> base.event
  size := top.size <|> base.size
  bot := top.bot <|> base.bot

/-- The number of bytes in the path, zero when there is none. -/
def pathLength (p : Payload) : Nat := (p.path.map String.utf8ByteSize).getD 0

/-- The code for an automatic client, if it is one that a page may not use: those from 1 to 149 are
signs of a page that is set up wrongly. -/
def reservedBot? (p : Payload) : Option Int := p.bot.filter fun b => 1 ≤ b && b ≤ 149

end Payload

/-- The hit with the parts that a payload gives. Site, client, user agent, time, location and
language never come from the page. -/
def Hit.merge (h : Hit) (p : Payload) : Hit :=
  { h with
    path := p.path.getD h.path
    title := p.title.getD h.title
    referrer := p.referrer.getD h.referrer
    query := p.query.getD h.query
    event := p.event.getD h.event
    size := p.size.getD h.size
    bot := p.bot.getD h.bot }

end HitCounter
