import SeriesExport.Config.Basic
import SeriesExport.TimeRange

/-!
# What can go wrong

One constructor for each cause; `ExportError.message` has the texts. Cancelling an export is a cause too, but not a
failure in the eyes of the user (`isAbort`).
-/

namespace SeriesExport

/-- Why a request got no answer at all. -/
inductive TransportFailure where
  /-- the server cannot be reached, or the request cannot be put into words -/
  | connection
  | described (text : String)
  deriving DecidableEq, Repr

/-- What two descriptors of one aggregation may disagree on. -/
inductive DescriptorField where
  | operators
  | interval
  deriving DecidableEq, Repr

def DescriptorField.name : DescriptorField → String
  | .operators => "operators"
  | .interval => "interval"

inductive ExportError where
  /-- a requested attribute is not in the catalog -/
  | invalidAttribute (name : String)
  /-- an aggregation was chosen without attributes -/
  | noAttributes (aggregation : String)
  | noAggregationsSelected
  /-- an aggregation was chosen that no source carries -/
  | unknownAggregation (id : String)
  /-- a source describes an aggregation differently from the first one that carries it -/
  | inconsistentAggregation (id source : String) (field : DescriptorField)
  | invalidTimeRange (flaw : TimeRange.Flaw)
  | invalidConfig (flaw : Config.Flaw)
  /-- a file for each aggregation was asked for, but raw data has none -/
  | layoutNeedsAggregations
  /-- two entries of a catalog have one name or one key -/
  | duplicateEntry (name key : String)
  /-- the server does not accept the session's token -/
  | unauthorized
  /-- the server answered with an error status -/
  | rejected (status : UInt16) (message : String)
  | aborted
  | transport (failure : TransportFailure)
  /-- an answer or a document is not what it should be -/
  | undecodable (fault : Json.Fault)
  /-- two members of an archive have one name -/
  | duplicateMember (name : String)
  /-- a file cannot be read or written -/
  | io
  deriving DecidableEq, Repr

namespace ExportError

def isAbort : ExportError → Bool
  | .aborted => true
  | _ => false

def message : ExportError → String
  | .invalidAttribute name => name ++ " is not a valid attribute"
  | .noAttributes aggregation => "No attributes specified for aggregation " ++ aggregation
  | .noAggregationsSelected => "No aggregation selected for export"
  | .unknownAggregation id => "Unknown aggregation: " ++ id
  | .inconsistentAggregation id source field =>
    "Aggregation " ++ id ++ " on source " ++ source ++ " disagrees on " ++ field.name ++ " with the first descriptor"
  | .invalidTimeRange flaw => "Invalid time range: " ++ flaw.message
  | .invalidConfig flaw => "Invalid configuration: " ++ flaw.message
  | .layoutNeedsAggregations => "Invalid configuration: one file per aggregation requires an aggregation export"
  | .duplicateEntry name key => "duplicate catalog entry " ++ name ++ " -> " ++ key
  | .unauthorized => "Unauthorized: no active session"
  | .rejected status message => "Upstream error " ++ toString status.toNat ++ ": " ++ message
  | .aborted => "Export aborted"
  | .transport .connection => "HTTP request failed: no connection"
  | .transport (.described text) => text
  | .undecodable .malformed => "Serialization error: malformed text"
  | .undecodable .mismatch => "Serialization error: unexpected shape"
  | .duplicateMember name => "Archive error: invalid Zip archive: Duplicate filename: " ++ name
  | .io => "I/O error: the file cannot be read or written"

end ExportError

/-- A result of the library. -/
abbrev Result (α : Type) := Except ExportError α

/-- One computation after the other has a result iff both have. -/
theorem Result.bind_eq_ok {ε α β : Type} {x : Except ε α} {f : α → Except ε β} {b : β} :
    x >>= f = .ok b ↔ ∃ a, x = .ok a ∧ f a = .ok b := by
  cases x <;> simp [Bind.bind, Except.bind]

/-- A computation for each element has results iff each has, and they are what each one gives. -/
theorem Result.mapM_eq_ok_iff {ε α β : Type} {f : α → Except ε β} {P : α → Prop} {g : α → β}
    (hf : ∀ a b, f a = .ok b ↔ P a ∧ b = g a) : ∀ {l : List α} {bs : List β},
    l.mapM f = .ok bs ↔ (∀ a ∈ l, P a) ∧ bs = l.map g
  | [], bs => by
    rw [List.mapM_nil]
    exact ⟨fun h => ⟨nofun, (Except.ok.inj h).symm⟩, fun ⟨_, h⟩ => h ▸ rfl⟩
  | a :: l, bs => by
    rw [List.mapM_cons, Result.bind_eq_ok, List.forall_mem_cons, List.map_cons]
    constructor
    · rintro ⟨b, hb, h⟩
      obtain ⟨rest, hrest, h⟩ := Result.bind_eq_ok.mp h
      obtain ⟨ha, rfl⟩ := (hf a b).mp hb
      obtain ⟨hl, rfl⟩ := (Result.mapM_eq_ok_iff hf).mp hrest
      exact ⟨⟨ha, hl⟩, (Except.ok.inj h).symm⟩
    · rintro ⟨⟨ha, hl⟩, rfl⟩
      have hrest : l.mapM f = .ok (l.map g) := (Result.mapM_eq_ok_iff hf).mpr ⟨hl, rfl⟩
      exact ⟨g a, (hf a _).mpr ⟨ha, rfl⟩, Result.bind_eq_ok.mpr ⟨_, hrest, rfl⟩⟩

/-- If an element has a fault, the computations for all elements fail with the fault of the first that has one. -/
theorem Result.mapM_eq_findSome? {ε α β : Type} {f : α → Except ε β} {fault? : α → Option ε} {g : α → β}
    (hf : ∀ a, f a = (fault? a).elim (.ok (g a)) .error) :
    ∀ l : List α, l.mapM f = (l.findSome? fault?).elim (.ok (l.map g)) .error
  | [] => rfl
  | a :: l => by
    rw [List.mapM_cons, hf, Result.mapM_eq_findSome? hf l, List.findSome?_cons]
    cases fault? a with
    | some e => rfl
    | none => cases l.findSome? fault? <;> rfl

/-- A run over a list fails iff it fails at an element after it has come up to there. -/
theorem Result.foldlM_eq_error_iff {ε α β : Type} {f : β → α → Except ε β} {e : ε} : ∀ {l : List α} {b : β},
    l.foldlM f b = .error e ↔
      ∃ front a back b', l = front ++ a :: back ∧ front.foldlM f b = .ok b' ∧ f b' a = .error e
  | [], b => by
    rw [List.foldlM_nil]
    exact ⟨nofun, fun ⟨front, a, back, _, h, _⟩ => absurd h (by simp)⟩
  | a :: l, b => by
    rw [List.foldlM_cons]
    constructor
    · intro h
      cases ha : f b a with
      | error e' =>
        rw [ha] at h
        exact ⟨[], a, l, b, rfl, rfl, ha.trans h⟩
      | ok next =>
        rw [ha] at h
        obtain ⟨front, a', back, b', rfl, hfront, hlast⟩ := Result.foldlM_eq_error_iff.mp h
        refine ⟨a :: front, a', back, b', rfl, ?_, hlast⟩
        rw [List.foldlM_cons, ha]
        exact hfront
    · rintro ⟨front, a', back, b', hl, hfront, hlast⟩
      cases front with
      | nil =>
        obtain ⟨rfl, rfl⟩ := List.cons.inj hl
        obtain rfl := Except.ok.inj hfront
        rw [hlast]
        rfl
      | cons first front =>
        obtain ⟨rfl, rfl⟩ := List.cons.inj hl
        rw [List.foldlM_cons] at hfront
        obtain ⟨next, hnext, hfront⟩ := Result.bind_eq_ok.mp hfront
        rw [hnext]
        exact Result.foldlM_eq_error_iff.mpr ⟨front, a', back, b', rfl, hfront, hlast⟩

end SeriesExport
