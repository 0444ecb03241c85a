import Mathlib.Data.List.Forall2
import SeriesExport.Paging.Page

/-!
# How the registry is written

The members of an object may stand in any order. What is in an object is said of the values under each name
(`Json.named`): a place of the form is left alone if there is no such member, and filled if there is just one
(`Json.Filled`). From this the members are read (`Descriptor.readMembers_of_filled`, `DataSource.readMembers_of_filled`,
`RegistryPage.readMembers_of_filled`).

`Descriptor.Written`, `DataSource.Written` and `RegistryPage.Written` say which outlines are those of a descriptor, of a
source and of a page. All of them are decoded (`Descriptor.decoder_of_written`, `DataSource.decoder_of_written`,
`RegistryPage.decoder_of_written`). Of a list, nothing, `null` and an array are outlines (`Json.ListWritten`). Members of a
source that are not known are kept. They must be values that can be read inside the source; there is a limit to how
deep they go.
-/

namespace SeriesExport

open Json (Key Outline Decoder Fault)

namespace Json

/-! ## Members by name -/

/-- The values of the members of a name, in their order. -/
def named (name : String) : List (Key × Outline) → List Outline
  | [] => []
  | (key, value) :: members => if key = some name then value :: named name members else named name members

/-- The members that have none of the names. -/
def others (names : List String) (members : List (Key × Outline)) : List (Key × Outline) :=
  members.filter fun member => member.1 ∉ names.map some

/-- The members have names, and the grammar has nothing against their values. -/
def Skippable (members : List (Key × Outline)) : Prop :=
  ∀ member ∈ members, member.1.isSome ∧ member.2.isWellFormed = true

instance (members : List (Key × Outline)) : Decidable (Skippable members) :=
  inferInstanceAs (Decidable (∀ member ∈ members, member.1.isSome ∧ member.2.isWellFormed = true))

section

variable {name other : String} {value : Outline} {names : List String} {members : List (Key × Outline)}

theorem named_cons_of_ne (h : other ≠ name) : named name ((some other, value) :: members) = named name members :=
  if_neg fun heq => h (Option.some.inj heq)

theorem others_cons_of_mem (h : other ∈ names) : others names ((some other, value) :: members) = others names members :=
  List.filter_cons_of_neg (by simpa using h)

theorem others_cons_of_not_mem (h : other ∉ names) :
    others names ((some other, value) :: members) = (some other, value) :: others names members :=
  List.filter_cons_of_pos (by simpa using h)

theorem others_cons_none : others names ((none, value) :: members) = (none, value) :: others names members :=
  List.filter_cons_of_pos (by simp)

end

/-! ## Places of a form -/

/-- What values do to a place of a form: none of them leaves it alone, and one of them fills it. -/
inductive Filled {β : Type} (read : Outline → Except Fault β) : Option β → List Outline → Option β → Prop
  | kept (place : Option β) : Filled read place [] place
  | filled {value : Outline} {b : β} : read value = .ok b → Filled read none [value] (some b)

/-- The value is read, and the place stays as it is from then on. -/
theorem Filled.cons {β : Type} {read : Outline → Except Fault β} {place place' : Option β} {value : Outline}
    {values : List Outline} (h : Filled read place (value :: values) place') :
    ∃ b, place = none ∧ read value = .ok b ∧ Filled read (some b) values place' := by
  cases h with
  | filled hread => exact ⟨_, rfl, hread, .kept _⟩

theorem decoder_string_of_eq {room : ℕ} {outline : Outline} {text : String} (h : outline = .text (some text)) :
    Decoder.string room outline = .ok text := h ▸ rfl

theorem filled_of_eq {room : ℕ} {values : List Outline} {text : String} (h : values = [.text (some text)]) :
    Filled (Decoder.string room) none values (some text) := h ▸ .filled rfl

theorem filled_word_of_eq {room n : ℕ} {values : List Outline} {literal : NumberLiteral}
    (h : values = [.number literal]) (hliteral : literal.value? = some (.integer n)) :
    Filled (Decoder.word room) none values (some (UInt64.ofNat n)) := by
  subst h
  refine .filled ?_
  simp only [Decoder.word, hliteral]

/-- Values that stand for `a`: none of them if `a` is what is assumed then, or one that is written for it. -/
inductive Given {α : Type} (write : Outline → α → Prop) (assumed : α) : List Outline → α → Prop
  | missing : Given write assumed [] assumed
  | given {value : Outline} {a : α} : write value a → Given write assumed [value] a

theorem Given.exists_filled {α β : Type} {write : Outline → α → Prop} {assumed a : α} {values : List Outline}
    {read : Outline → Except Fault β} (use : β → α) (h : Given write assumed values a)
    (hread : ∀ value a, write value a → ∃ b, read value = .ok b ∧ use b = a) :
    ∃ place, Filled read none values place ∧ (place.map use).getD assumed = a := by
  cases h with
  | missing => exact ⟨none, .kept none, rfl⟩
  | given hwrite =>
    obtain ⟨b, hb, rfl⟩ := hread _ _ hwrite
    exact ⟨some b, .filled hb, rfl⟩

section

variable {Form α : Type} {shape : Shape Form α} {room : ℕ} {name : String} {f : Form} {value : Outline}
  {members : List (Key × Outline)}

/-- A member that fills a place is read, and then the rest with the place filled. -/
theorem Shape.readMembers_cons_of_fill {β : Type} {place : Option β} {read : Outline → Except Fault β} {put : β → Form}
    {b : β} (hmember : shape.member room name f = fill place read put) (hplace : place = none)
    (hread : read value = .ok b) :
    shape.readMembers room f ((some name, value) :: members) = shape.readMembers room (put b) members := by
  subst hplace
  simp only [readMembers, hmember, fill]
  show (put <$> read value >>= fun form => shape.readMembers room form members) = _
  rw [hread]
  rfl

theorem Shape.decoder_object {a : α} (hread : shape.readMembers room shape.blank members = .ok f)
    (hfinish : shape.finish f = some a) : shape.decoder (room + 1) (.object members true) = .ok a := by
  show (do shape.close (← require true (← shape.readMembers room shape.blank members))) = _
  rw [hread]
  show shape.close f = _
  rw [close, hfinish]

theorem Shape.readMembers_cons_of_unknown (hmember : shape.member room name f = none)
    (hvalue : value.isWellFormed = true) :
    shape.readMembers room f ((some name, value) :: members) = shape.readMembers room f members := by
  simp only [readMembers, hmember, hvalue, if_true]

end

/-! ## Lists -/

/-- How a list is written: as an array of its items, or as null if there are none. -/
inductive ListWritten {α : Type} (item : Outline → α → Prop) : Outline → List α → Prop
  | null : ListWritten item .null []
  | array {outlines : List Outline} {items : List α} : List.Forall₂ item outlines items →
      ListWritten item (.array outlines true) items

theorem mapM_of_forall₂ {α : Type} {item : Outline → α → Prop} {read : Outline → Except Fault α}
    (hread : ∀ outline a, item outline a → read outline = .ok a) {outlines : List Outline} {items : List α}
    (h : List.Forall₂ item outlines items) : outlines.mapM read = .ok items := by
  induction h with
  | nil => rfl
  | cons hitem _ ih =>
    rw [List.mapM_cons, hread _ _ hitem, ih]
    rfl

/-- An array is entered, and its items are read inside it. -/
theorem decoder_list_of_forall₂ {α : Type} {item : Outline → α → Prop} {d : Decoder α} {room : ℕ}
    (hread : ∀ outline a, item outline a → d room outline = .ok a) {outlines : List Outline} {items : List α}
    (h : List.Forall₂ item outlines items) : Decoder.list d (room + 1) (.array outlines true) = .ok items := by
  show (do require true (← outlines.mapM (d room))) = _
  rw [mapM_of_forall₂ hread h]
  rfl

theorem decoder_list_texts (room : ℕ) (texts : List String) :
    Decoder.list Decoder.string (room + 1) (.array (texts.map fun text => .text (some text)) true) = .ok texts :=
  decoder_list_of_forall₂ (fun _ _ => decoder_string_of_eq)
    (List.forall₂_map_left_iff.mpr (List.forall₂_same.mpr fun _ _ => rfl))

theorem decoder_nullable_list_of_written {α : Type} {item : Outline → α → Prop} {d : Decoder α} {room : ℕ}
    (hread : ∀ outline a, item outline a → d room outline = .ok a) {outline : Outline} {items : List α}
    (h : ListWritten item outline items) :
    ∃ read, Decoder.nullable (Decoder.list d) (room + 1) outline = .ok read ∧ read.getD [] = items := by
  cases h with
  | null => exact ⟨none, rfl, rfl⟩
  | array h =>
    refine ⟨some items, ?_, rfl⟩
    show some <$> Decoder.list d (room + 1) _ = _
    rw [decoder_list_of_forall₂ hread h]
    rfl

end Json

/-! ## Descriptors -/

namespace Descriptor

open Json

/-- The names of the members of a descriptor. -/
def names : List String := ["id", "aggregates", "interval", "retention"]

/-- How a descriptor is written: as an object in which each of its members stands at most once. Operators and the time
for which results are kept may be left out. Other members are skipped. -/
inductive Written : Outline → Descriptor → Prop
  | object {members : List (Key × Outline)} {d : Descriptor} :
      named "id" members = [.text (some d.id)] →
      Given (fun value operators => value = .array (operators.map fun o => .text (some o)) true) []
        (named "aggregates" members) d.operators →
      named "interval" members = [.text (some d.interval)] →
      Given (fun value retention => value = .text (some retention)) "" (named "retention" members) d.retention →
      Skippable (others names members) → Written (.object members true) d

variable {room : ℕ}

theorem member_of_not_mem {name : String} (h : name ∉ names) (f : Form) : shape.member room name f = none := by
  simp only [names, List.mem_cons, List.not_mem_nil, or_false, not_or] at h
  simp only [shape]
  split <;> simp_all

theorem readMembers_of_filled : ∀ {members : List (Key × Outline)} (f f' : Form),
    Filled (Decoder.string room) f.id (named "id" members) f'.id →
    Filled (Decoder.list Decoder.string room) f.operators (named "aggregates" members) f'.operators →
    Filled (Decoder.string room) f.interval (named "interval" members) f'.interval →
    Filled (Decoder.string room) f.retention (named "retention" members) f'.retention →
    Skippable (others names members) → shape.readMembers room f members = .ok f'
  | [], ⟨_, _, _, _⟩, ⟨_, _, _, _⟩, .kept _, .kept _, .kept _, .kept _, _ => rfl
  | (none, value) :: members, f, f', _, _, _, _, hothers => by
    rw [others_cons_none] at hothers
    cases (hothers _ List.mem_cons_self).1
  | (some name, value) :: members, f, f', hid, hoperators, hinterval, hretention, hothers => by
    by_cases hname : name ∈ names
    · rw [others_cons_of_mem hname] at hothers
      simp only [names, List.mem_cons, List.not_mem_nil, or_false] at hname
      rcases hname with rfl | rfl | rfl | rfl
      · obtain ⟨id, hplace, hread, hid⟩ := hid.cons
        rw [Shape.readMembers_cons_of_fill rfl hplace hread]
        exact readMembers_of_filled _ _ hid hoperators hinterval hretention hothers
      · obtain ⟨operators, hplace, hread, hoperators⟩ := hoperators.cons
        rw [Shape.readMembers_cons_of_fill rfl hplace hread]
        exact readMembers_of_filled _ _ hid hoperators hinterval hretention hothers
      · obtain ⟨interval, hplace, hread, hinterval⟩ := hinterval.cons
        rw [Shape.readMembers_cons_of_fill rfl hplace hread]
        exact readMembers_of_filled _ _ hid hoperators hinterval hretention hothers
      · obtain ⟨retention, hplace, hread, hretention⟩ := hretention.cons
        rw [Shape.readMembers_cons_of_fill rfl hplace hread]
        exact readMembers_of_filled _ _ hid hoperators hinterval hretention hothers
    · have hne : ∀ known ∈ names, name ≠ known := fun known hknown heq => hname (heq ▸ hknown)
      rw [others_cons_of_not_mem hname] at hothers
      rw [named_cons_of_ne (hne _ (by decide))] at hid hoperators hinterval hretention
      obtain ⟨hvalue, hothers⟩ := List.forall_mem_cons.mp hothers
      rw [Shape.readMembers_cons_of_unknown (member_of_not_mem hname f) hvalue.2]
      exact readMembers_of_filled _ _ hid hoperators hinterval hretention hothers

theorem decoder_of_written : ∀ {outline : Outline} {d : Descriptor}, Written outline d →
    shape.decoder (room + 2) outline = .ok d
  | _, ⟨_, _, _, _⟩, .object hid hoperators hinterval hretention hothers => by
    obtain ⟨operators, hfilled, rfl⟩ := hoperators.exists_filled (fun operators => operators) fun _ operators h =>
      ⟨operators, h ▸ decoder_list_texts room operators, rfl⟩
    obtain ⟨retention, hfilled', rfl⟩ := hretention.exists_filled (fun retention => retention) fun _ retention h =>
      ⟨retention, decoder_string_of_eq h, rfl⟩
    rw [Option.map_id', Option.map_id']
    exact Shape.decoder_object (readMembers_of_filled {} ⟨_, operators, _, retention⟩ (filled_of_eq hid) hfilled
      (filled_of_eq hinterval) hfilled' hothers) rfl

end Descriptor

/-! ## Sources -/

namespace DataSource

open Json

/-- The names of the members of a source that are known. -/
def names : List String := ["id", "aggregation"]

/-- How a source is written: as an object in which the known members stand at most once. The aggregations may be null
or left out. Other members have values that can be read in `room` levels. -/
inductive Written (room : ℕ) : Outline → DataSource → Prop
  | object {members : List (Key × Outline)} {values : List (String × Json)} {s : DataSource} :
      named "id" members = [.text (some s.id)] →
      Given (ListWritten Descriptor.Written) [] (named "aggregation" members) s.aggregation →
      memberValues room (others names members) = .ok values → s.extra = Members.ofList values →
      Written room (.object members true) s

variable {room : ℕ}

theorem member_of_not_mem {name : String} (h : name ∉ names) (f : Form) : shape.member room name f =
    some fun outline => do return { f with extra := f.extra.insert name (← outline.value room) } := by
  simp only [names, List.mem_cons, List.not_mem_nil, or_false, not_or] at h
  simp only [shape]
  split <;> simp_all

/-- A member that is kept has a value, and so have the others. -/
theorem memberValues_cons_eq_ok {name : String} {value : Outline} {members : List (Key × Outline)}
    {values : List (String × Json)} (h : memberValues room ((some name, value) :: members) = .ok values) :
    ∃ v rest, value.value room = .ok v ∧ memberValues room members = .ok rest ∧ values = (name, v) :: rest := by
  simp only [memberValues] at h
  cases hvalue : value.value room with
  | error fault =>
    rw [hvalue] at h
    cases h
  | ok v =>
    cases hrest : memberValues room members with
    | error fault =>
      rw [hvalue, hrest] at h
      cases h
    | ok rest =>
      rw [hvalue, hrest] at h
      exact ⟨v, rest, rfl, rfl, (Except.ok.inj h).symm⟩

theorem descriptors_of_written {outline : Outline} {aggregation : List Descriptor}
    (h : ListWritten Descriptor.Written outline aggregation) : descriptors (room + 3) outline = .ok aggregation := by
  obtain ⟨read, hread, rfl⟩ := decoder_nullable_list_of_written (fun _ _ => Descriptor.decoder_of_written) h
  rw [descriptors, hread]
  rfl

theorem readMembers_of_filled : ∀ {members : List (Key × Outline)} {values : List (String × Json)} (f f' : Form),
    Filled (Decoder.string room) f.id (named "id" members) f'.id →
    Filled (descriptors room) f.aggregation (named "aggregation" members) f'.aggregation →
    memberValues room (others names members) = .ok values →
    f'.extra = values.foldl (fun extra (name, value) => extra.insert name value) f.extra →
    shape.readMembers room f members = .ok f'
  | [], _, ⟨_, _, _⟩, ⟨_, _, _⟩, .kept _, .kept _, rfl, rfl => rfl
  | (none, value) :: members, _, f, f', _, _, hvalues, _ => by
    rw [others_cons_none] at hvalues
    cases hvalues
  | (some name, value) :: members, values, f, f', hid, haggregation, hvalues, hextra => by
    by_cases hname : name ∈ names
    · rw [others_cons_of_mem hname] at hvalues
      simp only [names, List.mem_cons, List.not_mem_nil, or_false] at hname
      rcases hname with rfl | rfl
      · obtain ⟨id, hplace, hread, hid⟩ := hid.cons
        rw [Shape.readMembers_cons_of_fill rfl hplace hread]
        exact readMembers_of_filled _ _ hid haggregation hvalues hextra
      · obtain ⟨aggregation, hplace, hread, haggregation⟩ := haggregation.cons
        rw [Shape.readMembers_cons_of_fill rfl hplace hread]
        exact readMembers_of_filled _ _ hid haggregation hvalues hextra
    · have hne : ∀ known ∈ names, name ≠ known := fun known hknown heq => hname (heq ▸ hknown)
      rw [others_cons_of_not_mem hname] at hvalues
      rw [named_cons_of_ne (hne _ (by decide))] at hid haggregation
      obtain ⟨v, rest, hvalue, hrest, rfl⟩ := memberValues_cons_eq_ok hvalues
      rw [Shape.readMembers, member_of_not_mem hname]
      simp only [hvalue]
      exact readMembers_of_filled { f with extra := f.extra.insert name v } f' hid haggregation hrest hextra

theorem decoder_of_written : ∀ {outline : Outline} {s : DataSource}, Written (room + 3) outline s →
    shape.decoder (room + 4) outline = .ok s
  | _, ⟨_, _, _⟩, .object hid haggregation hvalues hextra => by
    obtain ⟨aggregation, hfilled, rfl⟩ := haggregation.exists_filled (fun descriptors => descriptors)
      fun _ aggregation h => ⟨aggregation, descriptors_of_written h, rfl⟩
    rw [Option.map_id']
    exact Shape.decoder_object (readMembers_of_filled {} ⟨_, aggregation, _⟩ (filled_of_eq hid) hfilled hvalues hextra)
      rfl

end DataSource

/-! ## Pages -/

namespace RegistryPage

open Json

/-- The names of the members of a page. -/
def names : List String := ["total", "entries"]

/-- How a page is written: as an object in which each of its members stands at most once. The entries may be null or
left out. Other members are skipped. -/
inductive Written (room : ℕ) : Outline → ℕ → List DataSource → Prop
  | object {members : List (Key × Outline)} {literal : NumberLiteral} {total : ℕ} {entries : List DataSource} :
      named "total" members = [.number literal] → literal.value? = some (.integer total) →
      Given (ListWritten (DataSource.Written room)) [] (named "entries" members) entries →
      Skippable (others names members) → Written room (.object members true) total entries

variable {room : ℕ}

theorem member_of_not_mem {name : String} (h : name ∉ names) (f : Form) : shape.member room name f = none := by
  simp only [names, List.mem_cons, List.not_mem_nil, or_false, not_or] at h
  simp only [shape]
  split <;> simp_all

theorem readMembers_of_filled : ∀ {members : List (Key × Outline)} (f f' : Form),
    Filled (Decoder.word room) f.total (named "total" members) f'.total →
    Filled (Decoder.nullable (Decoder.list DataSource.shape.decoder) room) f.entries (named "entries" members) f'.entries →
    Skippable (others names members) → shape.readMembers room f members = .ok f'
  | [], ⟨_, _⟩, ⟨_, _⟩, .kept _, .kept _, _ => rfl
  | (none, value) :: members, f, f', _, _, hothers => by
    rw [others_cons_none] at hothers
    cases (hothers _ List.mem_cons_self).1
  | (some name, value) :: members, f, f', htotal, hentries, hothers => by
    by_cases hname : name ∈ names
    · rw [others_cons_of_mem hname] at hothers
      simp only [names, List.mem_cons, List.not_mem_nil, or_false] at hname
      rcases hname with rfl | rfl
      · obtain ⟨total, hplace, hread, htotal⟩ := htotal.cons
        rw [Shape.readMembers_cons_of_fill rfl hplace hread]
        exact readMembers_of_filled _ _ htotal hentries hothers
      · obtain ⟨entries, hplace, hread, hentries⟩ := hentries.cons
        rw [Shape.readMembers_cons_of_fill rfl hplace hread]
        exact readMembers_of_filled _ _ htotal hentries hothers
    · have hne : ∀ known ∈ names, name ≠ known := fun known hknown heq => hname (heq ▸ hknown)
      rw [others_cons_of_not_mem hname] at hothers
      rw [named_cons_of_ne (hne _ (by decide))] at htotal hentries
      obtain ⟨hvalue, hothers⟩ := List.forall_mem_cons.mp hothers
      rw [Shape.readMembers_cons_of_unknown (member_of_not_mem hname f) hvalue.2]
      exact readMembers_of_filled _ _ htotal hentries hothers

theorem decoder_of_written {outline : Outline} {total : ℕ} {entries : List DataSource}
    (h : Written (room + 3) outline total entries) :
    shape.decoder (room + 6) outline = .ok ⟨UInt64.ofNat total, entries⟩ := by
  obtain ⟨htotal, hliteral, hentries, hothers⟩ := h
  obtain ⟨entries, hfilled, rfl⟩ := hentries.exists_filled (fun read : Option (List DataSource) => read.getD [])
    fun _ _ h => decoder_nullable_list_of_written (fun _ _ => DataSource.decoder_of_written) h
  refine Shape.decoder_object (readMembers_of_filled {} ⟨_, entries⟩ (filled_word_of_eq htotal hliteral) hfilled hothers)
    ?_
  cases entries <;> rfl

end RegistryPage

end SeriesExport
