import HitCounter.Http.Header
import HitCounter.Text.Basic

/-!
# Bots

What the headers of a request say about its sender: a browser that loads a page ahead of time, an
automatic client of some kind, or neither.
-/

namespace HitCounter.Visitor

open Http (Headers)

/-- The kinds of automatic clients, each with a code of its own. -/
inductive BotKind where
  /-- The user agent holds an address on the web. -/
  | link
  /-- A library or a tool for requests. -/
  | clientLibrary
  /-- A crawler, preview or monitoring service that is known by name. -/
  | knownBot
  /-- A word for automatic clients in general. -/
  | botWord
  /-- A user agent too short for a browser. -/
  | short
  | noUserAgent
deriving DecidableEq, Repr

/-- The code that is stored with a hit. -/
def BotKind.code : BotKind → Int
  | link => 160
  | clientLibrary => 161
  | knownBot => 162
  | botWord => 163
  | short => 164
  | noUserAgent => 165

/-- What the headers of a request say about its sender. -/
inductive BotClass where
  /-- Nothing speaks for an automatic client. -/
  | noBot
  /-- A page loaded ahead of time. -/
  | prefetch
  | bot (kind : BotKind)
deriving DecidableEq, Repr

/-- The kind of automatic client that was found. -/
def BotClass.kind? : BotClass → Option BotKind
  | bot kind => some kind
  | _ => none

/-- What tells the sender of a request from its headers. -/
abbrev Classifier := Headers → BotClass

/-- The headers in which a browser says why it loads a page. -/
def purposeHeaders : List String := ["purpose", "x-purpose", "sec-purpose", "x-moz"]

/-- The words for a page loaded ahead of time. -/
def prefetchWords : List String := ["prefetch", "preview"]

/-- The least number of bytes in the user agent of a browser. -/
def leastUserAgent : Nat := 10

/-- How addresses on the web start. -/
def linkWords : List String := ["http://", "https://", "www."]

/-- How the user agents of libraries and tools start. -/
def clientLibraries : List String :=
  ["aiohttp/", "apache-httpclient/", "axios/", "curl/", "go-http-client/", "guzzlehttp/",
   "httpie/", "java/", "libwww-perl/", "node-fetch", "okhttp/", "php/", "python-requests/",
   "python-urllib/", "reqwest/", "ruby", "wget/"]

/-- The names of services. -/
def knownBots : List String :=
  ["adsbot-google", "bingpreview", "chrome-lighthouse", "facebookexternalhit", "gtmetrix",
   "headlesschrome", "lighthouse", "mediapartners-google", "phantomjs", "pingdom", "prerender",
   "slurp", "uptimerobot", "whatsapp"]

/-- The words for automatic clients in general. -/
def botWords : List String := ["bot", "crawl", "spider", "scrape", "archiver"]

/-- One of the words occurs in the text. -/
def holdsAny (words : List String) (s : List Char) : Bool :=
  words.any fun w => Text.contains w.toList s

/-- The text starts with one of the words. -/
def startsWithAny (words : List String) (s : List Char) : Bool :=
  words.any fun w => w.toList.isPrefixOf s

/-- What a user agent says, without regard to case and to white space around it. Of several signs
the first in this order counts. -/
def classifyUserAgent (userAgent : String) : BotClass :=
  let trimmed := Text.trim userAgent.toList
  let s := Text.lower trimmed
  if trimmed.isEmpty then .bot .noUserAgent
  else if Text.byteLength trimmed < leastUserAgent then .bot .short
  else if holdsAny linkWords s then .bot .link
  else if startsWithAny clientLibraries s then .bot .clientLibrary
  else if holdsAny knownBots s then .bot .knownBot
  else if holdsAny botWords s then .bot .botWord
  else .noBot

/-- A purpose header speaks of a page loaded ahead of time. -/
def isPrefetch (headers : Headers) : Bool :=
  purposeHeaders.any fun name =>
    match headers.visible? name with
    | some value => holdsAny prefetchWords (Text.lower value.toList)
    | none => false

/-- The purpose headers count first, then the user agent. One that is not visible counts as none. -/
def classify : Classifier := fun headers =>
  if isPrefetch headers then .prefetch
  else classifyUserAgent ((headers.visible? "user-agent").getD "")

end HitCounter.Visitor
