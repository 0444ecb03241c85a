/-!
# Headers

What stands in front of a body: names with values, in an order. Upper and lower case make no difference in a name
(`sameName`), and a name may occur more than once. A name is a token; a value has no control characters but tabs, and
the blanks around it do not belong to it (`trimValue`).
-/

namespace SeriesExport.Http

def isTokenChar (c : Char) : Bool :=
  c.isAlphanum || ['!', '#', '$', '%', '&', '\'', '*', '+', '-', '.', '^', '_', '\x60', '|', '~'].contains c

def isHeaderName (s : String) : Bool := s ≠ "" && s.toList.all isTokenChar

def isHeaderValue (s : String) : Bool := s.toList.all fun c => c = '\t' || ' ' ≤ c && c ≠ '\x7f'

/-- A value that is ASCII can be read as a text by whatever wants to know what it says. -/
def isPlainValue (s : String) : Bool := s.toList.all fun c => c = '\t' || ' ' ≤ c && c < '\x7f'

def sameName (a b : String) : Bool := a.toList.map Char.toLower = b.toList.map Char.toLower

/-- Without the spaces and tabs at both ends. -/
def trimValue (s : String) : String :=
  let strip := fun cs : List Char => cs.dropWhile fun c => c = ' ' || c = '\t'
  String.ofList (strip (strip s.toList).reverse).reverse

abbrev Headers := List (String × String)

namespace Headers

/-- The values under a name. -/
def values (headers : Headers) (name : String) : List String :=
  (headers.filter fun (other, _) => sameName other name).map fun (_, value) => value

/-- The first value under a name. -/
def value? (headers : Headers) (name : String) : Option String := (headers.values name).head?

/-- The headers and one more, unless they have its name already. -/
def withDefault (headers : Headers) (name value : String) : Headers :=
  if (headers.value? name).isSome then headers else headers ++ [(name, value)]

/-- The headers with one value under a name, whatever was there before. -/
def replace (headers : Headers) (name value : String) : Headers :=
  if (headers.value? name).isSome then
    headers.map fun (other, old) => (other, if sameName other name then value else old)
  else headers ++ [(name, value)]

/-- The headers that are under none of the names. -/
def without (headers : Headers) (names : List String) : Headers :=
  headers.filter fun (other, _) => !names.any (sameName other)

end Headers

end SeriesExport.Http
