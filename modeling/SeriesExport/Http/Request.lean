import SeriesExport.Error
import SeriesExport.Text.Split

/-!
# Requests and replies

All requests read; what they ask for is a path and a query of names and values, in order.
-/

namespace SeriesExport

abbrev Query := List (String × String)

structure Request where
  baseUrl : String
  path : String
  query : Query
  /-- the header for the token -/
  authHeader : String
  token : Option String
  /-- in milliseconds -/
  timeout : UInt64
  deriving DecidableEq, Repr

namespace Request

/-- The path and the query as they are shown to the user, nothing encoded. -/
def pathAndQuery (r : Request) : String :=
  match r.query with
  | [] => r.path
  | query => r.path ++ "?" ++ "&".intercalate (query.map fun (name, value) => name ++ "=" ++ value)

/-- The value of the first parameter of a name. -/
def param? (r : Request) (name : String) : Option String := r.query.lookup name

end Request

structure Response where
  status : UInt16
  body : String
  deriving DecidableEq, Repr

def Response.isSuccess (r : Response) : Bool := 200 ≤ r.status && r.status < 300

/-- What comes of a request. -/
inductive Reply where
  | failed (failure : TransportFailure)
  | answered (response : Response)
  deriving DecidableEq, Repr

/-- The query for one page: the leading parameters, the size of a page and its number. -/
def pageQuery (leading : Query) (perPage page : UInt64) : Query :=
  leading ++ [("per_page", toString perPage.toNat), ("page", toString page.toNat)]

end SeriesExport
