import HitCounter.Counting.Outcome
import HitCounter.Visitor.Bot
import HitCounter.Visitor.Language
import HitCounter.Visitor.Location

/-!
# Counting a request

What becomes of a request to a known site. Of all that may happen the first in this order does:

1. a page loaded ahead of time is passed over;
2. a client on the list of the site is passed over;
3. a query or a body that cannot be read is rejected;
4. a code that no page may use is rejected;
5. a path that is too long is rejected;
6. a hit that breaks its rules is rejected;
7. the hit is counted.
-/

namespace HitCounter

open Text (Bytes)

/-- A request for counting. -/
structure CountRequest where
  /-- The address of the other end of the connection. -/
  peer : String
  headers : Http.Headers
  target : Http.Target
  body : Bytes
deriving DecidableEq, Repr

/-- When a request is looked at: first when its hit is begun, then when the hit is checked. -/
structure Moments where
  begun : Instant
  checked : Instant
deriving DecidableEq, Repr

/-- What counting relies on: the languages that are known, what tells automatic clients, and what
tells locations. All three are open to what is proved of a counter. The register in use unless
another one is given, `Visitor.isRegistered`, is not a complete one. -/
structure Counter (known : Visitor.Register := Visitor.isRegistered) where
  classifier : Visitor.Classifier
  geolocator : Visitor.Geolocator

/-- What becomes of a request, and the addresses whose location was asked for. -/
structure Counted where
  verdict : Verdict
  asked : List String

namespace Counter

variable {known : Visitor.Register}

/-- The user agent as it is stored. -/
def userAgent (headers : Http.Headers) : String :=
  match headers.get? "user-agent" with
  | some value => String.ofList (Text.decodeLossy value)
  | none => ""

/-- The location of a client as far as the site keeps it. -/
def location (c : Counter known) (collect : Collect) (client : String) : Option String :=
  if collect.location then
    (c.geolocator client).map fun place =>
      if collect.region then place else Visitor.countryOnly place
  else none

/-- The language of a visitor as far as the site keeps it. -/
def language (known : Visitor.Register) (collect : Collect) (headers : Http.Headers) :
    Option String :=
  if collect.language then Visitor.preferredLanguageIn known headers else none

/-- The hit with all that the page has no say in. -/
def begin (c : Counter known) (begun : Instant) (site : Site) (r : CountRequest) : Hit :=
  let client := Visitor.clientAddress r.headers r.peer
  { site := site.id
    remoteAddr := client
    userAgent := userAgent r.headers
    createdAt := begun
    location := c.location site.settings.collect client
    language := language known site.settings.collect r.headers }

/-- The hit with the kind of automatic client that was found, whatever the page says. -/
def mark (found : Visitor.BotClass) (h : Hit) : Hit :=
  match found.kind? with
  | some kind => { h with bot := kind.code }
  | none => h

/-- A hit that is begun is completed by the payload and checked. -/
def complete (found : Visitor.BotClass) (checked : Instant) (begun : Hit) (r : CountRequest) :
    Verdict := do
  let payload ← (Payload.decode r.target r.body).mapError .undecodable
  if let some code := payload.reservedBot? then throw (.reservedBot code)
  if longestPath < payload.pathLength then throw (.longPath payload.pathLength)
  let h := mark found (begun.merge payload)
  (h.validate true checked).mapError .invalid
  return .recorded h

/-- What becomes of a request to a site. -/
def count (c : Counter known) (m : Moments) (site : Site) (r : CountRequest) : Counted :=
  match c.classifier r.headers with
  | .prefetch => ⟨.ok .prefetch, []⟩
  | found =>
    let client := Visitor.clientAddress r.headers r.peer
    match site.settings.ignores? client with
    | some rule => ⟨.ok (.ignored rule), []⟩
    | none =>
      ⟨complete found m.checked (c.begin m.begun site r) r,
        if site.settings.collect.location then [client] else []⟩

end Counter

end HitCounter
