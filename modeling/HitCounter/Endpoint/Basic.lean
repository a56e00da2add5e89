import HitCounter.Counting.Basic
import HitCounter.Endpoint.Response
import HitCounter.Store.Basic

/-!
# The endpoint

One path counts hits, and nothing else is served. The site is looked up by the host of the request
before anything else is done.
-/

namespace HitCounter

open Text (Bytes)

/-- A request from the network. -/
structure Request where
  method : String
  target : Http.Target
  headers : Http.Headers
  body : Bytes
  /-- The other end of the connection. -/
  peer : Net.Address
deriving DecidableEq, Repr

/-- A response, the addresses whose location was asked for, and the hits that were counted. -/
structure Reply where
  response : Response
  asked : List String := []
  hits : List Hit := []
deriving DecidableEq

/-- The path that counts. -/
def countPath : Bytes := Text.encode "/count".toList

/-- The greatest number of bytes in a body. -/
def longestBody : Nat := 2097152

/-- The methods that count. -/
def countMethods : List String := ["GET", "HEAD", "POST"]

/-- A response to a method that does not count names those that do. -/
def Response.withAllow (r : Response) : Response :=
  { r with headers := r.headers ++ [("allow", String.intercalate "," countMethods)] }

/-- The response to a method that does not count. -/
def methodNotAllowed : Response := { status := 405 }

/-- The response to any other path. -/
def notFound : Response := { status := 404 }

namespace Request

/-- The request in the form in which it is counted. -/
def toCount (r : Request) : CountRequest :=
  ⟨String.ofList r.peer.text, r.headers, r.target, r.body⟩

/-- The site that the request addresses. -/
def site (r : Request) (s : Store) : Except Rejection Site × Store :=
  match Http.requestHost r.headers r.target with
  | none => (.error .unknownSite, s)
  | some host =>
    match s.siteByHost host with
    | (.ok (some site), s) => (.ok site, s)
    | (.ok none, s) => (.error .unknownSite, s)
    | (.error e, s) => (.error (.lookupFailed e), s)

end Request

namespace Counter

variable {known : Visitor.Register}

/-- What becomes of a request to a site, if its body is not too long to be read. -/
def handle (c : Counter known) (m : Moments) (site : Site) (r : Request) : Counted :=
  if longestBody < r.body.length then ⟨.error (.undecodable .oversized), []⟩
  else c.count m site r.toCount

/-- The reply to a request whose site has been looked up. -/
def reply (c : Counter known) (m : Moments) (site : Except Rejection Site) (r : Request) : Reply :=
  if r.method ∈ countMethods then
    let counted : Counted := match site with
      | .error e => ⟨.error e, []⟩
      | .ok site => c.handle m site r
    let response := counted.verdict.response.withLength
    { response := if r.method = "HEAD" then response.withoutBody else response
      asked := counted.asked
      hits := counted.verdict.hits }
  else
    let response := match site with
      | .error e => Verdict.response (.error e)
      | .ok _ => methodNotAllowed
    { response := response.withLength.withAllow }

/-- The reply to a request. -/
def serve (c : Counter known) (m : Moments) (r : Request) (s : Store) : Reply × Store :=
  if r.target.path = countPath then
    let (site, s) := r.site s
    (c.reply m site r, s)
  else ({ response := notFound }, s)

end Counter

end HitCounter
