import HitCounter.Counting.Outcome

/-!
# Responses

Every verdict is answered with the same image of one pixel, so that no page shows a broken one. Only
the status and the diagnostic in a header tell the verdicts apart.
-/

namespace HitCounter

open Text (Bytes)

/-- What goes back to the page. -/
structure Response where
  status : Nat
  headers : List (String × String) := []
  body : Bytes := []
deriving DecidableEq, Repr

/-- A transparent image of one pixel. -/
def pixel : Bytes :=
  [0x47, 0x49, 0x46, 0x38, 0x39, 0x61, 0x01, 0x00, 0x01, 0x00, 0x80, 0x01, 0x00, 0x00, 0x00,
   0x00, 0xff, 0xff, 0xff, 0x21, 0xf9, 0x04, 0x01, 0x0a, 0x00, 0x01, 0x00, 0x2c, 0x00, 0x00,
   0x00, 0x00, 0x01, 0x00, 0x01, 0x00, 0x00, 0x02, 0x02, 0x4c, 0x01, 0x00, 0x3b]

/-- The headers of every image. -/
def pixelHeaders : List (String × String) :=
  [("access-control-allow-origin", "*"), ("connection", "close"),
   ("content-type", "image/gif"), ("cross-origin-resource-policy", "cross-origin")]

/-- The name of the header for the diagnostic. -/
def diagnosticHeader : String := "x-beacon"

/-- A character as it stands in a header: printable ASCII stands for itself. -/
def headerChar (c : Char) : Char := if 0x20 ≤ c.toNat ∧ c.toNat ≤ 0x7E then c else '?'

/-- A text as the value of a header, character by character. A value with a byte that no header may
hold would be replaced as a whole. -/
def headerValue (s : String) : String :=
  let value := String.ofList (s.toList.map headerChar)
  if (Text.encode value.toList).all Http.isVisible then value else "?"

/-- The image with a status, and a diagnostic if there is one. -/
def pixelResponse (status : Nat) (diagnostic : Option String) : Response where
  status
  headers := pixelHeaders ++ (diagnostic.map fun d => (diagnosticHeader, headerValue d)).toList
  body := pixel

/-- The response with a header for the length of its body. -/
def Response.withLength (r : Response) : Response :=
  { r with headers := r.headers ++ [("content-length", toString r.body.length)] }

/-- The response without its body, as it answers a request for the headers alone. -/
def Response.withoutBody (r : Response) : Response := { r with body := [] }

/-- The answer to a verdict. -/
def Verdict.response (v : Verdict) : Response := pixelResponse v.status v.diagnostic?

end HitCounter
