import SeriesExport.Json.Decode

/-!
# Configuration

Where the datastore is and how much is asked of it at a time. A configuration document may leave out any member; what
it leaves out keeps its default.
-/

namespace SeriesExport

structure Config where
  apiUrl : String := "http://localhost:8085"
  /-- data sources per page of the registry -/
  registryPerPage : UInt64 := 100
  /-- records per page of raw data -/
  dataPerPage : UInt64 := 1000
  /-- records per page of aggregated data -/
  aggregationPerPage : UInt64 := 1000
  /-- how long a request may take, in milliseconds -/
  timeout : UInt64 := 60000
  /-- the header that carries the session's token -/
  authHeader : String := "X-Auth-Token"
  deriving DecidableEq, Repr

namespace Config

/-- What keeps a configuration from being used. -/
inductive Flaw where
  | zeroPageSize (member : String)
  | emptyUrl
  deriving DecidableEq, Repr

def Flaw.message : Flaw → String
  | .zeroPageSize member => member ++ " must be at least 1"
  | .emptyUrl => "api_url must not be empty"

/-- The first flaw, page sizes before the address. -/
def flaw? (c : Config) : Option Flaw :=
  if c.registryPerPage = 0 then some (.zeroPageSize "registry_per_page")
  else if c.dataPerPage = 0 then some (.zeroPageSize "data_per_page")
  else if c.aggregationPerPage = 0 then some (.zeroPageSize "aggr_per_page")
  else if c.apiUrl = "" then some .emptyUrl
  else none

/-- A configuration can be used iff no page size is zero and the address is not empty. -/
theorem flaw?_eq_none_iff (c : Config) :
    c.flaw? = none ↔ c.registryPerPage ≠ 0 ∧ c.dataPerPage ≠ 0 ∧ c.aggregationPerPage ≠ 0 ∧ c.apiUrl ≠ "" := by
  unfold flaw?
  split <;> simp_all
  split <;> simp_all
  split <;> simp_all

/-! ## The document -/

/-- The members that a document has. -/
structure Form where
  apiUrl : Option String := none
  registryPerPage : Option UInt64 := none
  dataPerPage : Option UInt64 := none
  aggregationPerPage : Option UInt64 := none
  timeout : Option UInt64 := none
  authHeader : Option String := none

/-- The defaults, overlaid by the members of the document. -/
def Form.config (f : Form) : Config :=
  let default : Config := {}
  { apiUrl := f.apiUrl.getD default.apiUrl
    registryPerPage := f.registryPerPage.getD default.registryPerPage
    dataPerPage := f.dataPerPage.getD default.dataPerPage
    aggregationPerPage := f.aggregationPerPage.getD default.aggregationPerPage
    timeout := f.timeout.getD default.timeout
    authHeader := f.authHeader.getD default.authHeader }

open Json (Decoder fill) in
def shape : Json.Shape Form Config where
  blank := {}
  member room name f := match name with
    | "api_url" => fill f.apiUrl (Decoder.string room) fun v => { f with apiUrl := some v }
    | "registry_per_page" => fill f.registryPerPage (Decoder.word room) fun v => { f with registryPerPage := some v }
    | "data_per_page" => fill f.dataPerPage (Decoder.word room) fun v => { f with dataPerPage := some v }
    | "aggr_per_page" => fill f.aggregationPerPage (Decoder.word room) fun v => { f with aggregationPerPage := some v }
    | "timeout_ms" => fill f.timeout (Decoder.word room) fun v => { f with timeout := some v }
    | "auth_header" => fill f.authHeader (Decoder.string room) fun v => { f with authHeader := some v }
    | _ => none
  finish f := some f.config
  order := some ["api_url", "registry_per_page", "data_per_page", "aggr_per_page", "timeout_ms", "auth_header"]

/-- The configuration of a document, not yet checked. -/
def decode (text : String) : Except Json.Fault Config := shape.decoder.decode text

end Config

end SeriesExport
