import SeriesExport.Http.Answer
import SeriesExport.Http.Wire

/-!
# Redirections

Some answers do not count but name another address, by a reference that is seen from the address that was asked. If the
reference is not written by the rules, the answer counts after all; if it is, but what it names cannot be asked, there
is no answer (`redirection`). An errand ends at the first answer that counts, and goes on at most ten times
(`Errand.run`).
-/

namespace SeriesExport.Http

inductive Redirection where
  /-- the answer counts -/
  | stay
  /-- what is named cannot be asked -/
  | nowhere
  | goTo (address : Address)
  deriving DecidableEq, Repr

/-- What an authority has to be beyond what is asked of references: it has a host, in which nothing is encoded, and not
too many colons. -/
def isUsableAuthority (authority : List Char) : Bool :=
  let (user, place) := Address.splitAuthority authority
  place ≠ [] && !place.contains '%' && user.count ':' ≤ 8 && (place.count ':' ≤ 1 || place.head? = some '[')

/-- The greatest length of the name of a scheme. -/
def schemeLimit : Nat := 64

/-- Where a reference that is written in full leads. One without an authority is taken for an authority if it can be
one, which nobody can be asked by. -/
def destination (r : Reference) : Redirection :=
  if addressLimit < r.text.length then .stay
  else match r.authority with
    | some authority =>
      if !isUsableAuthority authority || r.scheme.any (schemeLimit < ·.length) then .stay
      else match Address.ofReference? r with
        | some address => .goTo address
        | none => .nowhere
    | none =>
      if r.path.contains '/' || r.query.isSome || r.fragment.isSome || !isUsableAuthority r.text then .stay
      else .nowhere

/-- Where a reference leads that is seen from an address. -/
def redirection (address : Address) (location : String) : Redirection :=
  match Reference.ofText? address.text.toList, Reference.ofText? location.toList with
  | some base, some r => destination (base.resolve r)
  | _, _ => .stay

/-- A place to go to, two references that are none, and two places that cannot be asked. -/
example : ["../d?e#f", "d|e", "///d", "ftp:d", "//a:99999/d"].map (redirection ⟨none, "a", 80, "/b/c".toList, none⟩) =
    [.goTo ⟨none, "a", 80, "/d".toList, some ['e']⟩, .stay, .stay, .nowhere, .nowhere] := by decide +kernel

/-- Statuses of answers that may name another address. -/
def redirectStatuses : List Nat := [301, 302, 303, 307, 308]

/-- Headers about a body, which do not belong to a request that asks for something else instead. -/
def bodyHeaders : List String := ["Content-Type", "Content-Length", "Content-Encoding", "Transfer-Encoding"]

namespace Errand

/-- Where an answer leads. -/
def redirection (e : Errand) (a : Answer) : Redirection :=
  match a.head.headers.value? "Location" with
  | some location => if redirectStatuses.contains a.head.status then Http.redirection e.address location else .stay
  | none => .stay

/-- The errand at the address that an answer has named; with status 303 it is another errand. -/
def goTo (e : Errand) (a : Answer) (address : Address) : Errand :=
  { headers := if a.head.status = 303 then e.headers.without bodyHeaders else e.headers
    address, referrer := some e.address }

/-- How often an errand goes on to another address. -/
def redirectLimit : Nat := 10

/-- What comes of an errand that goes on at most `left` times; `send` gives the bytes that come back, of which there are
none if nobody answers. -/
def run {m : Type → Type} [Monad m] (send : WireRequest → m (List UInt8)) (left : Nat) (e : Errand) : m Reply := do
  match Answer.ofBytes? (← send e.request) with
  | none => return .failed .connection
  | some answer =>
    match e.redirection answer, left with
    | .stay, _ => return answer.reply
    | .goTo address, left + 1 => run send left (e.goTo answer address)
    | _, _ => return .failed .connection

end Errand

end SeriesExport.Http
