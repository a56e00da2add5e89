import HitCounter.Text.Basic
import HitCounter.Text.Utf8

/-!
# Form-encoded queries

The pairs of keys and values that a query holds in the form `key=value&key=value`. A plus sign
stands for a space, and `%` with two hexadecimal digits for a byte; any other `%` stands for itself.
-/

namespace HitCounter.Http

open Text (Bytes)

/-- The byte before percent-decoding: a plus sign is a space. -/
def plusToSpace (b : UInt8) : UInt8 := if b = 0x2B then 0x20 else b

/-- The decoded bytes after those in `done`, which come latest first. -/
def percentDecodeFrom (done : Bytes) : Bytes → Bytes
  | [] => done.reverse
  | b :: rest =>
    match b, rest with
    | 0x25, high :: low :: more =>
      match Text.hexDigit? high, Text.hexDigit? low with
      | some h, some l => percentDecodeFrom (UInt8.ofNat (h * 16 + l) :: done) more
      | _, _ => percentDecodeFrom (0x25 :: done) (high :: low :: more)
    | b, rest => percentDecodeFrom (b :: done) rest

/-- The bytes with each `%` and two hexadecimal digits replaced by the byte they denote. -/
def percentDecode (bs : Bytes) : Bytes := percentDecodeFrom [] bs

/-- The text of a key or a value. -/
def formText (bs : Bytes) : List Char :=
  Text.decodeLossy (percentDecode (bs.map plusToSpace))

/-- A key and a value; a pair without `=` has an empty value. -/
def formPair (bs : Bytes) : List Char × List Char :=
  match Text.splitFirst? (· == 0x3D) bs with
  | some (key, value) => (formText key, formText value)
  | none => (formText bs, [])

/-- The pairs of a query, in order. -/
def formPairs (query : Bytes) : List (List Char × List Char) :=
  ((Text.split (· == 0x26) query).filter (!·.isEmpty)).map formPair

end HitCounter.Http
