import HitCounter.Http.Header

/-!
# Request targets

What a request asks for: a path with a query, an address with scheme and host, a host alone, or an
asterisk. A fragment is no part of it.
-/

namespace HitCounter.Http

open Text (Bytes)

/-- The host if the request names one, the path, and the query if there is one. -/
structure Target where
  host : Option String
  path : Bytes
  query : Option Bytes
deriving DecidableEq, Repr

namespace Target

/-- The host of an authority: what follows the user, without the port. An address in brackets keeps
them. -/
def hostOf (authority : Bytes) : String :=
  let hostPort := (authority.reverse.takeWhile (· != 0x40)).reverse
  if hostPort.head? = some 0x5B then
    asciiText (hostPort.takeWhile (· != 0x5D) ++ [0x5D])
  else asciiText (hostPort.takeWhile (· != 0x3A))

/-- What follows the first `://`, if there is one. -/
def afterScheme? : Bytes → Option Bytes
  | [] => none
  | 0x3A :: 0x2F :: 0x2F :: rest => some rest
  | _ :: rest => afterScheme? rest

/-- The target in the text before the query. -/
def ofMain (main : Bytes) (query : Option Bytes) : Target :=
  if main.head? = some 0x2F ∨ main = [0x2A] then ⟨none, main, query⟩
  else match afterScheme? main with
    | some rest =>
      let path := rest.dropWhile (· != 0x2F)
      ⟨some (hostOf (rest.takeWhile (· != 0x2F))), if path.isEmpty then [0x2F] else path, query⟩
    | none => ⟨some (hostOf main), [], query⟩

/-- The target in its text. -/
def ofBytes (bs : Bytes) : Target :=
  let bs := bs.takeWhile (· != 0x23)
  match Text.splitFirst? (· == 0x3F) bs with
  | some (main, query) => ofMain main (some query)
  | none => ofMain bs none

end Target

/-- The name of the site that a request addresses: the host in the `Host` header if that is visible,
else the one in the target, without brackets or port and in lower case. -/
def requestHost (headers : Headers) (target : Target) : Option String :=
  match headers.visible? "host" <|> target.host with
  | none => none
  | some raw =>
    let host := match raw.toList with
      | '[' :: rest => rest.takeWhile (· != ']')
      | chars => Text.beforeLast (· == ':') chars
    if host.isEmpty then none else some (String.ofList (Text.lower host))

end HitCounter.Http
