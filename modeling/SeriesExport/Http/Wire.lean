import SeriesExport.Http.Address
import SeriesExport.Http.Header
import SeriesExport.Text.Base64

/-!
# Requests on the wire

A request can be sent only if its address is one and not too long, and if the token can stand in a header: the name of
the header must be a token of HTTP and the value must not have control characters (`Errand.ofRequest?`). Before the
token a request names the user of the address, if there is one; after it, it says what it accepts and which host it
is for, unless the token's header has taken the name.

A server may answer with another address, so one request can come to several that are sent; each of these but the first
says where it comes from (`Errand.request`).
-/

namespace SeriesExport.Http

structure WireRequest where
  address : Address
  /-- names and values, in the order in which they are sent -/
  headers : Headers
  deriving DecidableEq, Repr

/-- Without slashes at the end. -/
def withoutSlashes (s : String) : List Char := (s.toList.reverse.dropWhile (· = '/')).reverse

/-- The header for the token, if there is one; none if it cannot be written. A request without a body does not say how
one is transferred, not even by a token. -/
def tokenHeader? (r : Request) : Option Headers :=
  match r.token with
  | none => some []
  | some token =>
    if isHeaderName r.authHeader && isHeaderValue token then
      some (if sameName r.authHeader "Transfer-Encoding" then [] else [(r.authHeader, token)])
    else none

/-- The user and the password in base64. -/
def Credentials.header (c : Credentials) : String × String :=
  ("Authorization", "Basic " ++ String.ofList (Text.base64 ((c.user ++ ":" ++ c.password).toList.flatMap
    String.utf8EncodeChar)))

example : Credentials.header ⟨"é", "ü"⟩ = ("Authorization", "Basic w6k6w7w=") := by decide +kernel

namespace WireRequest

/-- What the server reads under the name of a header. -/
def header? (r : WireRequest) (name : String) : Option String := r.headers.value? name

/-- The request as it is sent; it asks that the connection be closed after the answer. -/
def text (r : WireRequest) : String :=
  let headers := r.headers.map fun (name, value) => name ++ ": " ++ value ++ "\r\n"
  "GET " ++ r.address.target ++ " HTTP/1.1\r\n" ++ String.join headers ++ "Connection: close\r\n\r\n"

end WireRequest

/-! ## Errands -/

/-- A request on its way. -/
structure Errand where
  /-- what all that is sent has in common -/
  headers : Headers
  address : Address
  /-- the address that has named this one -/
  referrer : Option Address := none
  deriving DecidableEq, Repr

/-- The length in bytes up to which an address can be sent. -/
def addressLimit : Nat := 65534

/-- Headers that are not for any host but the one that they were meant for. -/
def secretHeaders : List String := ["Authorization", "Cookie", "Cookie2", "Proxy-Authorization", "WWW-Authenticate"]

namespace Errand

/-- The beginning of a request; none if it cannot be sent. -/
def ofRequest? (r : Request) : Option Errand := do
  let address ← Address.ofText? (String.ofList (withoutSlashes r.baseUrl ++ r.path.toList))
  let address := address.withQuery r.query
  let headers := address.credentials.toList.map Credentials.header ++ (← tokenHeader? r)
  let headers := Headers.withDefault headers "Accept" "*/*"
  if address.text.utf8ByteSize ≤ addressLimit then some { headers, address } else none

/-- Whether two addresses are of one server. -/
def sameServer (a b : Address) : Bool :=
  match Address.ofText? a.text, Address.ofText? b.text with
  | some a, some b => a.host = b.host && a.port = b.port
  | _, _ => false

/-- The headers behind another address. -/
def referredHeaders (e : Errand) (referrer : Address) : Headers :=
  let headers := if sameServer referrer e.address then e.headers else e.headers.without secretHeaders
  match Address.ofText? referrer.text with
  | some referrer => headers.replace "Referer" referrer.text
  | none => headers

/-- What is sent. -/
def request (e : Errand) : WireRequest :=
  let headers := match e.referrer with
    | some referrer => e.referredHeaders referrer
    | none => e.headers
  ⟨e.address, headers.withDefault "Host" e.address.hostText⟩

end Errand

end SeriesExport.Http
