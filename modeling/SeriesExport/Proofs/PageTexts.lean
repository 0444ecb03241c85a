import SeriesExport.Proofs.Printing
import SeriesExport.Proofs.Denotation
import SeriesExport.Proofs.WholeListing

/-!
# How pages are written

`Page.Written` says which outlines are those of a page: members in any order, others among them, and no part for the
records, null or an object. A text that spells one of them is decoded as the page (`Page.decode_of_written`) if no
record is too deep.
-/

namespace SeriesExport

open Json (Key Outline Decoder Shape Spells Denotes Filled Given Skippable named others fill)

namespace Json

theorem decoder_members_of_value {room : ℕ} {o : Outline} {r : Members} (h : o.value room = .ok (.object r)) :
    Decoder.members room o = .ok r := by
  obtain ⟨members, inside, vs, rfl, rfl, hvs, rfl⟩ := exists_object_of_value h
  show (do require true (Members.ofList (← memberValues inside members))) = _
  rw [hvs]
  rfl

end Json

namespace Page

/-- How a record is written: an object in at most `room` levels. -/
def RecordWritten (room : ℕ) (o : Outline) (r : Record) : Prop := Denotes o (.object r) ∧ o.depth ≤ room

def RecordsWritten (room : ℕ) (o : Outline) (records : List Record) : Prop :=
  ∃ outlines, o = .array outlines true ∧ List.Forall₂ (RecordWritten room) outlines records

/-- How the part of a page that has the records is written: as null, or as an object that may have a list of records.
Other members are skipped. -/
inductive DataWritten (room : ℕ) : Outline → Option (List Record) → Prop
  | null : DataWritten room .null none
  | object {members : List (Key × Outline)} {records : List Record} :
      Given (RecordsWritten room) [] (named "e" members) records → Skippable (others ["e"] members) →
      DataWritten room (.object members true) (some records)

/-- The names of the members of a page. -/
def names : List String := ["total", "data"]

/-- How a page is written: as an object with the total, and perhaps the part that has the records. Other members are
skipped. -/
inductive Written (room : ℕ) : Outline → Page → Prop
  | object {members : List (Key × Outline)} {l : Json.NumberLiteral} {page : Page} :
      named "total" members = [.number l] → l.value? = some (.integer page.total.toNat) →
      Given (DataWritten room) none (named "data" members) page.data → Skippable (others names members) →
      Written room (.object members true) page

variable {room : ℕ}

theorem decoder_members_of_written {o : Outline} {r : Record} (h : RecordWritten room o r) :
    Decoder.members room o = .ok r :=
  Json.decoder_members_of_value ((Json.value_eq_ok_iff room o _).mpr h)

theorem decoder_list_of_written {o : Outline} {records : List Record} (h : RecordsWritten room o records) :
    Decoder.list Decoder.members (room + 1) o = .ok records := by
  obtain ⟨outlines, rfl, hrecords⟩ := h
  exact Json.decoder_list_of_forall₂ (fun _ _ => decoder_members_of_written) hrecords

theorem readData_of_filled : ∀ {members : List (Key × Outline)} (f f' : Option (List Record)),
    Filled (Decoder.list Decoder.members room) f (named "e" members) f' → Skippable (others ["e"] members) →
    dataShape.readMembers room f members = .ok f'
  | [], _, _, .kept _, _ => rfl
  | (none, value) :: members, f, f', _, hothers => by
    rw [Json.others_cons_none] at hothers
    cases (hothers _ List.mem_cons_self).1
  | (some name, value) :: members, f, f', hrecords, hothers => by
    by_cases hname : name = "e"
    · subst hname
      rw [Json.others_cons_of_mem (by decide)] at hothers
      obtain ⟨records, hplace, hread, hrecords⟩ := hrecords.cons
      rw [Shape.readMembers_cons_of_fill rfl hplace hread]
      exact readData_of_filled _ _ hrecords hothers
    · rw [Json.others_cons_of_not_mem (by simpa using hname)] at hothers
      rw [Json.named_cons_of_ne hname] at hrecords
      obtain ⟨hvalue, hothers⟩ := List.forall_mem_cons.mp hothers
      have hunknown : dataShape.member room name f = none := by simp [dataShape]
      rw [Shape.readMembers_cons_of_unknown hunknown hvalue.2]
      exact readData_of_filled _ _ hrecords hothers

theorem decoder_data_of_written {o : Outline} {data : Option (List Record)} (h : DataWritten room o data) :
    Decoder.nullable dataShape.decoder (room + 2) o = .ok data := by
  cases h with
  | null => rfl
  | @object members records hrecords hothers =>
    obtain ⟨place, hfilled, rfl⟩ := hrecords.exists_filled (fun records => records)
      fun _ records h => ⟨records, decoder_list_of_written h, rfl⟩
    show some <$> dataShape.decoder (room + 2) (.object members true) = _
    rw [Shape.decoder_object (readData_of_filled _ place hfilled hothers) rfl, Option.map_id']
    rfl

theorem member_of_not_mem {name : String} (h : name ∉ names) (f : Form) : shape.member room name f = none := by
  simp only [names, List.mem_cons, List.not_mem_nil, or_false, not_or] at h
  simp only [shape]
  split <;> simp_all

theorem readMembers_of_filled : ∀ {members : List (Key × Outline)} (f f' : Form),
    Filled (Decoder.word room) f.total (named "total" members) f'.total →
    Filled (Decoder.nullable dataShape.decoder room) f.data (named "data" members) f'.data →
    Skippable (others names members) → shape.readMembers room f members = .ok f'
  | [], ⟨_, _⟩, ⟨_, _⟩, .kept _, .kept _, _ => rfl
  | (none, value) :: members, f, f', _, _, hothers => by
    rw [Json.others_cons_none] at hothers
    cases (hothers _ List.mem_cons_self).1
  | (some name, value) :: members, f, f', htotal, hdata, hothers => by
    by_cases hname : name ∈ names
    · rw [Json.others_cons_of_mem hname] at hothers
      simp only [names, List.mem_cons, List.not_mem_nil, or_false] at hname
      rcases hname with rfl | rfl
      · obtain ⟨total, hplace, hread, htotal⟩ := htotal.cons
        rw [Shape.readMembers_cons_of_fill rfl hplace hread]
        exact readMembers_of_filled _ _ htotal hdata hothers
      · obtain ⟨data, hplace, hread, hdata⟩ := hdata.cons
        rw [Shape.readMembers_cons_of_fill rfl hplace hread]
        exact readMembers_of_filled _ _ htotal hdata hothers
    · have hne : ∀ known ∈ names, name ≠ known := fun known hknown heq => hname (heq ▸ hknown)
      rw [Json.others_cons_of_not_mem hname] at hothers
      rw [Json.named_cons_of_ne (hne _ (by decide))] at htotal hdata
      obtain ⟨hvalue, hothers⟩ := List.forall_mem_cons.mp hothers
      rw [Shape.readMembers_cons_of_unknown (member_of_not_mem hname f) hvalue.2]
      exact readMembers_of_filled _ _ htotal hdata hothers

theorem decoder_of_written {o : Outline} {page : Page} (h : Written room o page) :
    shape.decoder (room + 3) o = .ok page := by
  obtain @⟨members, l, ⟨total, data⟩, htotal, hvalue, hdata, hothers⟩ := h
  obtain ⟨place, hfilled, rfl⟩ := hdata.exists_filled (fun data => data)
    fun _ data h => ⟨data, decoder_data_of_written h, rfl⟩
  have hword : Filled (Decoder.word (room + 2)) none (named "total" members) (some (UInt64.ofNat total.toNat)) :=
    Json.filled_word_of_eq htotal hvalue
  rw [UInt64.ofNat_toNat] at hword
  refine Shape.decoder_object (readMembers_of_filled {} ⟨some total, place⟩ hword hfilled hothers) ?_
  rw [Option.map_id']
  rfl

/-- How many levels a record of a page may have. -/
def recordRoom : ℕ := 124

theorem decode_of_written {text : String} {o : Outline} {page : Page} (htext : Spells text o)
    (h : Written recordRoom o page) : decode text = .ok page := by
  rw [decode, Json.Decoder.decode_of_spells htext]
  exact decoder_of_written h

/-- All that stands for no records: no part for them, null, or an object without a list or with an empty one. -/
theorem records_of_data {text : String} {members : List (Key × Outline)} {l : Json.NumberLiteral} {total : UInt64}
    (htext : Spells text (.object members true)) (htotal : named "total" members = [.number l])
    (hvalue : l.value? = some (.integer total.toNat)) (hothers : Skippable (others names members))
    (hdata : named "data" members = [] ∨ named "data" members = [.null] ∨
      ∃ inside, named "data" members = [.object inside true] ∧ Skippable (others ["e"] inside) ∧
        (named "e" inside = [] ∨ named "e" inside = [.array [] true])) :
    ∃ page, decode text = .ok page ∧ page.total = total ∧ page.records = [] := by
  obtain ⟨data, hwritten, hrecords⟩ : ∃ data, Given (DataWritten recordRoom) none (named "data" members) data ∧
      data.getD [] = [] := by
    rcases hdata with hdata | hdata | ⟨inside, hdata, hothers, he⟩
    · exact ⟨none, hdata ▸ .missing, rfl⟩
    · exact ⟨none, hdata ▸ .given .null, rfl⟩
    · refine ⟨some [], hdata ▸ .given (.object ?_ hothers), rfl⟩
      rcases he with he | he
      · exact he ▸ .missing
      · exact he ▸ .given ⟨[], rfl, .nil⟩
  exact ⟨⟨total, data⟩, decode_of_written htext (.object htotal hvalue hwritten hothers), rfl, hrecords⟩

/-! ### Records that are too deep -/

open Registry (nested nestedValue)

theorem denotes_nested : ∀ n : ℕ, Denotes (nested n) (nestedValue n)
  | 0 => .array .nil
  | n + 1 => .array (.cons (denotes_nested n) .nil)

theorem depth_nested : ∀ n : ℕ, (nested n).depth = n + 1
  | 0 => rfl
  | n + 1 => by
    rw [nested, Outline.depth, Json.itemsDepth, Json.itemsDepth, depth_nested n, Nat.max_zero]

theorem integral_nestedValue : ∀ n : ℕ, (nestedValue n).Integral
  | 0 => .array nofun
  | n + 1 => .array fun _ hitem => List.mem_singleton.mp hitem ▸ integral_nestedValue n

theorem outline_nestedValue : ∀ n : ℕ, (nestedValue n).outline = nested n
  | 0 => rfl
  | n + 1 => by
    show Outline.array [(nestedValue n).outline] true = _
    rw [outline_nestedValue n]
    rfl

/-- A page with a record that has arrays in arrays, `n` of them around the innermost. -/
def deepPage (n : ℕ) : Page := ⟨1, some [[("n", nestedValue n)]]⟩

/-- The text of the page, without space. -/
def deepText (n : ℕ) : String :=
  Json.render (.object [("total", .number (.integer 1)),
    ("data", .object [("e", .array [.object [("n", nestedValue n)]])])])

def deepOutline (n : ℕ) : Outline :=
  .object [(some "total", .number ⟨false, ['1'], none, none⟩),
    (some "data", .object [(some "e", .array [.object [(some "n", nested n)] true] true)] true)] true

theorem spells_deepText (n : ℕ) : Spells (deepText n) (deepOutline n) := by
  have hintegral : ∀ {name : String} {v : Json}, v.Integral → (Json.object [(name, v)]).Integral := fun hv =>
    .object fun _ hm => List.mem_singleton.mp hm ▸ hv
  have hrecord : (Json.object [("n", nestedValue n)]).Integral := hintegral (integral_nestedValue n)
  have hpage : (Json.object [("total", .number (.integer 1)),
      ("data", .object [("e", .array [.object [("n", nestedValue n)]])])]).Integral := by
    refine .object fun m hm => ?_
    simp only [List.mem_cons, List.not_mem_nil, or_false] at hm
    rcases hm with rfl | rfl
    · exact .integer 1
    · exact hintegral (.array fun _ hitem => List.mem_singleton.mp hitem ▸ hrecord)
  have hspells := Json.spells_render hpage
  have houtline := outline_nestedValue n
  simp only [Json.outline, Json.memberOutlines, Json.outlines, houtline] at hspells
  exact hspells

theorem written_deepOutline (n : ℕ) : Written (n + 2) (deepOutline n) (deepPage n) := by
  have hrecord : RecordWritten (n + 2) (.object [(some "n", nested n)] true) [("n", nestedValue n)] := by
    refine ⟨.object (.cons (denotes_nested n) .nil), ?_⟩
    rw [Outline.depth, Json.membersDepth, Json.membersDepth, depth_nested, Nat.max_zero]
  have hone : (⟨false, ['1'], none, none⟩ : Json.NumberLiteral).value? = some (.integer (1 : ℕ)) := by decide +kernel
  exact .object rfl hone (.given (.object (.given ⟨_, rfl, .cons hrecord .nil⟩) nofun)) nofun

/-- Arrays that are too deep for the levels are refused, and with them the page. -/
theorem decoder_deepOutline {room n : ℕ} (h : room ≤ n) :
    shape.decoder (room + 4) (deepOutline n) = .error .malformed := by
  have hvalue : (nested n).value room = .error .malformed := by rw [Registry.value_nested, if_neg (Nat.not_lt.mpr h)]
  have hrecord : Decoder.members (room + 1) (.object [(some "n", nested n)] true) = .error .malformed := by
    show (do Json.require true (Json.Members.ofList (← Json.memberValues room [(some "n", nested n)]))) = _
    rw [Json.memberValues, hvalue]
    rfl
  have hrecords : Decoder.list Decoder.members (room + 2) (.array [.object [(some "n", nested n)] true] true) =
      .error .malformed := by
    show (do Json.require true (← [_].mapM (Decoder.members (room + 1)))) = _
    rw [List.mapM_cons, hrecord]
    rfl
  have hdata : Decoder.nullable dataShape.decoder (room + 3)
      (.object [(some "e", .array [.object [(some "n", nested n)] true] true)] true) = .error .malformed := by
    show some <$> (do dataShape.close (← Json.require true
      (← dataShape.readMembers (room + 2) none [(some "e", .array _ true)]))) = _
    simp only [Shape.readMembers, dataShape, fill, hrecords]
    rfl
  show (do shape.close (← Json.require true (← shape.readMembers (room + 3) ⟨some 1, none⟩ [(some "data", _)]))) = _
  simp only [Shape.readMembers, shape, fill, hdata]
  rfl

/-- **No record may have more levels.** -/
theorem decode_deepText : Spells (deepText 123) (deepOutline 123) ∧ Written 125 (deepOutline 123) (deepPage 123) ∧
    decode (deepText 123) = .error .malformed := by
  refine ⟨spells_deepText 123, written_deepOutline 123, ?_⟩
  rw [decode, Json.Decoder.decode_of_spells (spells_deepText 123)]
  exact decoder_deepOutline (Nat.le_refl 123)

end Page

end SeriesExport
