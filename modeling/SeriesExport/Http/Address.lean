import SeriesExport.Http.Host
import SeriesExport.Http.Reference

/-!
# Addresses

The address of a request is the base address of the server, without slashes at its end, followed by the path and the
query. It is read as the URL standard says for `http`: tabs and line breaks do not count, a backslash is a slash, dots
as segments of a path are resolved, and a fragment is left out (`Address.ofText?`). In front of the host there may be a
user and a password (`Credentials.ofText?`).

A server may name another address by a reference. That is used as it is written (`Address.ofReference?`), if it could
also be read as an address.
-/

namespace SeriesExport.Http

/-- Who asks, as it is said in front of the host. -/
structure Credentials where
  user : String
  password : String
  deriving DecidableEq, Repr

/-- Read from what stands before the last at sign; the first colon ends the user. Nobody is named if both are empty, or
if the user is not a text. -/
def Credentials.ofText? (written : List Char) : Option Credentials := do
  let (user, password) := (Text.cut? ':' written).getD (written, [])
  let user ← decodedText? user
  let password := (decodedText? password).getD ""
  if user = "" ∧ password = "" then none else some ⟨user, password⟩

structure Address where
  credentials : Option Credentials
  /-- the host as it is asked for -/
  host : String
  port : Nat
  /-- the path and the query as they are sent -/
  path : List Char
  query : Option (List Char)
  deriving DecidableEq, Repr

namespace Address

/-- Without spaces and control characters at the ends, and without tabs and line breaks anywhere. -/
def clean (cs : List Char) : List Char :=
  let strip := fun cs : List Char => cs.dropWhile (· ≤ ' ')
  (strip (strip cs).reverse).reverse.filter fun c => c ≠ '\t' ∧ c ≠ '\n' ∧ c ≠ '\r'

/-- What follows the scheme `http`. -/
def afterScheme? (cs : List Char) : Option (List Char) := do
  let (scheme, rest) ← Text.cut? ':' cs
  if scheme.map Char.toLower = ['h', 't', 't', 'p'] then some rest else none

def isSlash (c : Char) : Bool := c = '/' || c = '\\'

/-- What stands before the last at sign and behind it; all of it stands behind if there is none. -/
def splitAuthority (authority : List Char) : List Char × List Char :=
  match Text.cut? '@' authority.reverse with
  | some (place, front) => (front.reverse, place.reverse)
  | none => ([], authority)

/-- The host and the port, which is 80 if it is not given. -/
def hostAndPort? (place : List Char) : Option (Host × Nat) := do
  let (host, port) := (Text.cut? ':' place).getD (place, [])
  let host ← Host.ofText? host
  if port.all Char.isDigit ∧ Text.value port < UInt16.size then
    some (host, if port = [] then 80 else Text.value port)
  else none

/-! ## Segments -/

/-- The letter of a drive, which stays where it is. -/
def isDrive : List Char → Bool
  | [letter, mark] => letter.isAlpha && (mark = ':' || mark = '|')
  | _ => false

/-- The segments that are left when two dots follow. -/
def stepBack (before : List (List Char)) : List (List Char) :=
  if before.getLast?.any isDrive then before else before.dropLast

/-- The path as it is sent; it begins with a slash even if nothing was written. -/
def normalPath (path : List Char) : List Char :=
  let path := path.map fun c => if c = '\\' then '/' else c
  let segments := Reference.resolveDots stepBack [] (Text.splitOn '/' (path.drop 1))
  '/' :: Text.join ['/'] (segments.map (percentEncode isPathSafe))

/-- Whether the host and the port have ended. -/
def endsAuthority (c : Char) : Bool := isSlash c || c = '?' || c = '#'

def ofText? (text : String) : Option Address := do
  let rest := (← afterScheme? (clean text.toList)).dropWhile isSlash
  let (front, place) := splitAuthority (rest.takeWhile (!endsAuthority ·))
  let (host, port) ← hostAndPort? place
  let rest := (rest.dropWhile (!endsAuthority ·)).takeWhile (· ≠ '#')
  let path := rest.takeWhile (· ≠ '?')
  let query := match rest.dropWhile (· ≠ '?') with
    | [] => none
    | _ :: query => some (percentEncode isQuerySafe query)
  some { credentials := Credentials.ofText? front, host := host.text, port, path := normalPath path, query }

/-- The address that a reference written in full names; nobody is named by it. -/
def ofReference? (r : Reference) : Option Address := do
  let (_, place) := splitAuthority (← r.authority)
  let (_, port) ← hostAndPort? place
  let path := if r.path = [] then ['/'] else r.path
  if r.scheme.any fun scheme => scheme.map Char.toLower = ['h', 't', 't', 'p'] then
    some { credentials := none, host := String.ofList (place.takeWhile (· ≠ ':')), port, path, query := r.query }
  else none

/-- The address with the pairs of a query behind what it has of one; an empty query is left out. -/
def withQuery (a : Address) (query : Query) : Address :=
  let pairs := form query
  let whole := match a.query.getD [], pairs with
    | [], pairs => pairs
    | written, [] => written
    | written, pairs => written ++ '&' :: pairs
  { a with query := if whole = [] then none else some whole }

/-- The host, and the port unless it is the usual one. -/
def hostText (a : Address) : String :=
  if a.port = 80 then a.host else a.host ++ ":" ++ toString a.port

/-- What stands in the first line of the request. -/
def target (a : Address) : String :=
  match a.query with
  | none => String.ofList a.path
  | some query => String.ofList (a.path ++ '?' :: query)

/-- The address as it is written out, without the credentials. -/
def text (a : Address) : String := "http://" ++ a.hostText ++ a.target

example : ((ofText? "HTTP:u:p@127.1/a/c:/../x").map fun a => (a.credentials, a.hostText, a.target)) =
    some (some ⟨"u", "p"⟩, "127.0.0.1", "/a/c:/x") := by decide +kernel

end Address

end SeriesExport.Http
