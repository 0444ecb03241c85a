import SeriesExport.Error

/-!
# Loading a configuration

A file is read as UTF-8, decoded and checked; values from elsewhere are laid over it afterwards, and then the whole is
checked again.
-/

namespace SeriesExport.Config

def validate (c : Config) : Result Unit :=
  match c.flaw? with
  | none => .ok ()
  | some flaw => .error (.invalidConfig flaw)

theorem validate_eq_ok_iff (c : Config) : c.validate = .ok () ↔
    c.registryPerPage ≠ 0 ∧ c.dataPerPage ≠ 0 ∧ c.aggregationPerPage ≠ 0 ∧ c.apiUrl ≠ "" := by
  rw [← flaw?_eq_none_iff, validate]
  cases c.flaw? <;> simp

theorem registryPerPage_ne_zero {c : Config} (h : c.validate = .ok ()) : c.registryPerPage ≠ 0 :=
  ((validate_eq_ok_iff c).mp h).1

/-- A configuration is refused for a flaw of its own. -/
theorem eq_invalidConfig_of_validate {c : Config} {cause : ExportError} (h : c.validate = .error cause) :
    ∃ flaw, cause = .invalidConfig flaw := by
  unfold validate at h
  split at h
  · cases h
  · next flaw _ => exact ⟨flaw, (Except.error.inj h).symm⟩

/-- The configuration of a document, if it can be used. -/
def ofText (text : String) : Result Config :=
  match decode text with
  | .ok c => do
    c.validate
    return c
  | .error fault => .error (.undecodable fault)

/-- The configuration of a file; none stands for a file that cannot be read. -/
def ofFile (bytes : Option ByteArray) : Result Config :=
  match bytes.bind String.fromUTF8? with
  | some text => ofText text
  | none => .error .io

/-- The configuration with another address, if one is given. -/
def withUrl (c : Config) (url : Option String) : Config :=
  { c with apiUrl := url.getD c.apiUrl }

end SeriesExport.Config
