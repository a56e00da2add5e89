import HitCounter.Hit.Payload
import HitCounter.Hit.Validation
import HitCounter.Store.Database

/-!
# What becomes of a request

A request that is understood is counted, or passed over for a reason; any other is rejected. Both
have a status and most have a diagnostic, which goes back to the page in a header.
-/

namespace HitCounter

/-- What becomes of a request that is understood. -/
inductive Outcome where
  /-- The hit is counted. -/
  | recorded (h : Hit)
  /-- A page loaded ahead of time is not counted. -/
  | prefetch
  /-- The client is not counted, by a rule of the site. -/
  | ignored (rule : String)
deriving DecidableEq

/-- Why a request is rejected. -/
inductive Rejection where
  | undecodable (e : DecodeFault)
  /-- The page claims a code that no page may use. -/
  | reservedBot (code : Int)
  /-- The path has this many bytes, which is too many. -/
  | longPath (size : Nat)
  /-- The hit breaks its rules. -/
  | invalid (complaints : List Complaint)
  /-- No site answers under the host. -/
  | unknownSite
  | lookupFailed (e : StoreFault)
deriving DecidableEq, Repr

/-- The reason as the page is told. -/
def Rejection.message : Rejection → String
  | undecodable e => "error decoding parameters: " ++ e.message
  | reservedBot code => "wrong value: b=" ++ toString code
  | longPath size =>
    "ignored because path is longer than 2048 bytes (" ++ toString size ++ " bytes)"
  | invalid complaints => "not valid: " ++ complaintsText complaints
  | unknownSite => "no site at this domain"
  | lookupFailed _ => "error looking up site"

/-- The status of the response. -/
def Rejection.status : Rejection → Nat
  | undecodable _ | reservedBot _ | invalid _ => 400
  | longPath _ => 414
  | unknownSite => 404
  | lookupFailed _ => 500

/-- What becomes of a request. -/
abbrev Verdict := Except Rejection Outcome

namespace Verdict

/-- The status of the response. -/
def status : Verdict → Nat
  | .ok (.recorded _) | .ok .prefetch => 200
  | .ok (.ignored _) => 202
  | .error e => e.status

/-- What the page is told, unless all is well. -/
def diagnostic? : Verdict → Option String
  | .ok (.recorded _) | .ok .prefetch => none
  | .ok (.ignored rule) =>
    some ("ignored because " ++ Text.quote rule ++ " is in the IP ignore list")
  | .error e => some e.message

/-- The hits that are counted. -/
def hits : Verdict → List Hit
  | .ok (.recorded h) => [h]
  | _ => []

end Verdict

end HitCounter
