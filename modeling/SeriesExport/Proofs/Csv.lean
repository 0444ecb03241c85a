import SeriesExport.Output.Csv

/-!
# Tables can be read back

Every row of a table is a line with a line feed at its end, and only the last of these is left out (`flatMap_line`).
So the texts of two tables with a line feed between them are the text of both (`render_append`).

`Csv.read` reads texts of tables character by character (`Reader.step`), with no regard to how they were written. It
gives back the cells of a table, and says which of them stand in quotes: those with a comma, a quote or a line break
(`read_render`).

- One cell: the reader is behind it (`foldlM_step_field`), and then knows its text (`field?_behind`).
- One row: the reader has one more record (`foldlM_step_line`).
- All rows: it has as many records as there are rows (`foldlM_step_lines`).
-/

namespace SeriesExport.Csv

/-! ## Lines -/

theorem exists_line_eq (cells : List (List Char)) : ∃ front, line cells = front ++ ['\n'] := by
  cases cells with
  | nil => exact ⟨['"', '"'], rfl⟩
  | cons cell cells => exact ⟨fields (cell :: cells), rfl⟩

/-- What a table leaves out at its end is the line feed of its last row. -/
theorem flatMap_line {rows : List (List (List Char))} (h : rows ≠ []) :
    rows.flatMap line = renderCells rows ++ ['\n'] := by
  obtain ⟨front, hfront⟩ := exists_line_eq (rows.getLast h)
  have hlines : rows.flatMap line = (rows.dropLast.flatMap line ++ front) ++ ['\n'] := by
    conv => lhs; rw [← List.dropLast_concat_getLast h]
    rw [List.flatMap_append, List.flatMap_singleton, hfront, List.append_assoc]
  rw [renderCells, hlines, List.dropLast_concat]

theorem renderCells_append {a b : List (List (List Char))} (ha : a ≠ []) (hb : b ≠ []) :
    renderCells (a ++ b) = renderCells a ++ '\n' :: renderCells b := by
  have hab : a ++ b ≠ [] := List.append_ne_nil_of_left_ne_nil ha b
  have hlines : renderCells (a ++ b) ++ ['\n'] = (renderCells a ++ '\n' :: renderCells b) ++ ['\n'] := by
    rw [← flatMap_line hab, List.flatMap_append, flatMap_line ha, flatMap_line hb, List.append_assoc, List.append_assoc]
    rfl
  exact List.append_cancel_right hlines

/-- The table of some rows and of others after them. -/
theorem render_append {a b : List Row} (ha : a ≠ []) (hb : b ≠ []) : render (a ++ b) = render a ++ "\n" ++ render b := by
  rw [render, List.map_append, renderCells_append (mt List.map_eq_nil_iff.mp ha) (mt List.map_eq_nil_iff.mp hb),
    List.append_cons, String.ofList_append, String.ofList_append]
  rfl

/-- A line without text is a single empty cell. -/
theorem line_eq_iff (cells : List (List Char)) : line cells = ['\n'] ↔ cells = [[]] := by
  refine ⟨fun h => ?_, fun h => h ▸ rfl⟩
  match cells with
  | [] => cases h
  | [cell] =>
    have hfield : field cell = [] := List.append_cancel_right (h : field cell ++ ['\n'] = [] ++ ['\n'])
    unfold field at hfield
    split at hfield
    · cases hfield
    · rw [hfield]
  | cell :: next :: cells =>
    have hlength := congrArg List.length h
    simp only [line, fields, List.length_append, List.length_cons, List.length_nil] at hlength
    omega

/-- A table without text has no row, or a single one with a single empty cell. -/
theorem renderCells_eq_nil_iff (rows : List (List (List Char))) : renderCells rows = [] ↔ rows = [] ∨ rows = [[[]]] := by
  match rows with
  | [] => simp [renderCells]
  | [row] =>
    have hline : renderCells [row] = [] ↔ line row = ['\n'] := by
      obtain ⟨front, hfront⟩ := exists_line_eq row
      simp [renderCells, hfront]
    simp [hline, line_eq_iff]
  | row :: next :: rows =>
    have happend := renderCells_append (List.cons_ne_nil row []) (List.cons_ne_nil next rows)
    rw [List.singleton_append] at happend
    simp [happend]

/-! ## A reader -/

/-- A field as it is read. -/
structure Field where
  text : List Char
  /-- whether it stands in quotes -/
  quoted : Bool
  deriving DecidableEq, Repr

/-- How far a reader is in a field. -/
inductive Position where
  | start
  | bare (text : List Char)
  | inQuotes (text : List Char)
  /-- Behind a quote that ends the field, unless it is the first of two. -/
  | afterQuote (text : List Char)

namespace Position

/-- The field, if it can end here: quotes must be closed. -/
def field? : Position → Option Field
  | .start => some ⟨[], false⟩
  | .bare text => some ⟨text, false⟩
  | .inQuotes _ => none
  | .afterQuote text => some ⟨text, true⟩

/-- One more character of the field. Without quotes around it, it has neither quotes nor carriage returns. -/
def next? (c : Char) : Position → Option Position
  | .start => if c = '"' then some (.inQuotes []) else if c = '\r' then none else some (.bare [c])
  | .bare text => if c = '"' ∨ c = '\r' then none else some (.bare (text ++ [c]))
  | .inQuotes text => if c = '"' then some (.afterQuote text) else some (.inQuotes (text ++ [c]))
  | .afterQuote text => if c = '"' then some (.inQuotes (text ++ ['"'])) else none

end Position

structure Reader where
  records : List (List Field) := []
  /-- the fields of the record that the reader is in -/
  record : List Field := []
  position : Position := .start

namespace Reader

/-- The end of the text ends the last record. -/
def finish? (r : Reader) : Option (List (List Field)) :=
  r.position.field?.map fun field => r.records ++ [r.record ++ [field]]

/-- Unless it stands in quotes, a comma ends a field and a line feed a record. -/
def step (r : Reader) (c : Char) : Option Reader :=
  match r.position.field? with
  | none => (r.position.next? c).map ({ r with position := · })
  | some field =>
    if c = ',' then some { r with record := r.record ++ [field], position := .start }
    else if c = '\n' then some { records := r.records ++ [r.record ++ [field]] }
    else (r.position.next? c).map ({ r with position := · })

end Reader

/-- The records of a text, each on lines of its own; an empty text has none. Their fields stand between commas. A field
in quotes may have any characters, and a quote is written twice there. -/
def read (text : String) : Option (List (List Field)) :=
  if text = "" then some [] else (text.toList.foldlM Reader.step {}).bind Reader.finish?

/-! ## Reading what has been written -/

section

variable {records : List (List Field)} {record : List Field}

theorem foldlM_step_inQuotes : ∀ cell text : List Char,
    (cell.flatMap doubled).foldlM Reader.step ⟨records, record, .inQuotes text⟩ =
      some ⟨records, record, .inQuotes (text ++ cell)⟩
  | [], text => by simp
  | c :: cell, text => by
    have ih := foldlM_step_inQuotes cell (text ++ [c])
    have hc : (doubled c).foldlM Reader.step ⟨records, record, .inQuotes text⟩ =
        some ⟨records, record, .inQuotes (text ++ [c])⟩ := by
      by_cases hquote : c = '"'
      · subst hquote
        rfl
      · simp [doubled, hquote, Reader.step, Position.field?, Position.next?]
    rw [List.flatMap_cons, List.foldlM_append, hc, Option.bind_eq_bind, Option.bind_some, ih, List.append_assoc]
    rfl

/-- Characters that are not special stand for themselves. -/
theorem step_bare {c : Char} (h : isSpecial c = false) (text : List Char) :
    Reader.step ⟨records, record, .bare text⟩ c = some ⟨records, record, .bare (text ++ [c])⟩ ∧
      Reader.step ⟨records, record, .start⟩ c = some ⟨records, record, .bare [c]⟩ := by
  simp only [isSpecial, Bool.or_eq_false_iff, decide_eq_false_iff_not] at h
  obtain ⟨⟨⟨hcomma, hquote⟩, hreturn⟩, hfeed⟩ := h
  simp [Reader.step, Position.field?, Position.next?, hcomma, hquote, hreturn, hfeed]

theorem foldlM_step_bare : ∀ (cell text : List Char), cell.any isSpecial = false →
    cell.foldlM Reader.step ⟨records, record, .bare text⟩ = some ⟨records, record, .bare (text ++ cell)⟩
  | [], text, _ => by simp
  | c :: cell, text, h => by
    rw [List.any_cons, Bool.or_eq_false_iff] at h
    rw [List.foldlM_cons, (step_bare h.1 text).1, Option.bind_eq_bind, Option.bind_some,
      foldlM_step_bare cell (text ++ [c]) h.2, List.append_assoc]
    rfl

/-- Where a reader is behind a cell. -/
def Position.behind (cell : List Char) : Position :=
  if cell.any isSpecial then .afterQuote cell else if cell = [] then .start else .bare cell

theorem field?_behind (cell : List Char) : (Position.behind cell).field? = some ⟨cell, cell.any isSpecial⟩ := by
  unfold Position.behind
  split
  · next h => rw [h]; rfl
  · next h =>
    rw [Bool.not_eq_true] at h
    rw [h]
    split
    · next hnil => rw [hnil]; rfl
    · rfl

theorem foldlM_step_field (cell : List Char) :
    (field cell).foldlM Reader.step ⟨records, record, .start⟩ = some ⟨records, record, .behind cell⟩ := by
  unfold field Position.behind
  split
  · have hopen : Reader.step ⟨records, record, .start⟩ '"' = some ⟨records, record, .inQuotes []⟩ := rfl
    have hclose : Reader.step ⟨records, record, .inQuotes cell⟩ '"' = some ⟨records, record, .afterQuote cell⟩ := rfl
    simp only [List.cons_append, List.foldlM_cons, List.foldlM_append, hopen, Option.bind_eq_bind, Option.bind_some,
      foldlM_step_inQuotes, List.nil_append, hclose, List.foldlM_nil, Option.pure_def]
  · next h =>
    rw [Bool.not_eq_true] at h
    match cell with
    | [] => rfl
    | c :: cell =>
      rw [List.any_cons, Bool.or_eq_false_iff] at h
      rw [List.foldlM_cons, (step_bare h.1 []).2, Option.bind_eq_bind, Option.bind_some,
        foldlM_step_bare cell [c] h.2]
      rfl

/-- Behind a cell, a comma begins the next field. -/
theorem step_comma (cell : List Char) : Reader.step ⟨records, record, .behind cell⟩ ',' =
    some ⟨records, record ++ [⟨cell, cell.any isSpecial⟩], .start⟩ := by
  simp [Reader.step, field?_behind]

/-- Behind a cell, a line feed begins the next record. -/
theorem step_lineFeed (cell : List Char) : Reader.step ⟨records, record, .behind cell⟩ '\n' =
    some ⟨records ++ [record ++ [⟨cell, cell.any isSpecial⟩]], [], .start⟩ := by
  simp [Reader.step, field?_behind]

end

/-- The fields of a row. -/
def fieldsOf (cells : List (List Char)) : List Field := cells.map fun cell => ⟨cell, cell.any isSpecial⟩

theorem foldlM_step_line (records : List (List Field)) : ∀ (cells : List (List Char)) (record : List Field), cells ≠ [] →
    (line cells).foldlM Reader.step ⟨records, record, .start⟩ = some ⟨records ++ [record ++ fieldsOf cells], [], .start⟩
  | [], _, h => absurd rfl h
  | [cell], record, _ => by
    have hline : line [cell] = field cell ++ ['\n'] := rfl
    rw [hline, List.foldlM_append, foldlM_step_field, Option.bind_eq_bind, Option.bind_some, List.foldlM_cons,
      step_lineFeed]
    rfl
  | cell :: next :: cells, record, _ => by
    have ih := foldlM_step_line records (next :: cells) (record ++ [⟨cell, cell.any isSpecial⟩]) (List.cons_ne_nil _ _)
    have hline : line (cell :: next :: cells) = field cell ++ ',' :: line (next :: cells) := by
      simp [line, fields]
    rw [hline, List.foldlM_append, foldlM_step_field, Option.bind_eq_bind, Option.bind_some, List.foldlM_cons,
      step_comma, Option.bind_eq_bind, Option.bind_some, ih, List.append_assoc]
    rfl

theorem foldlM_step_lines : ∀ (rows : List (List (List Char))) (records : List (List Field)), (∀ row ∈ rows, row ≠ []) →
    (rows.flatMap line).foldlM Reader.step ⟨records, [], .start⟩ = some ⟨records ++ rows.map fieldsOf, [], .start⟩
  | [], records, _ => by simp
  | row :: rows, records, h => by
    have ih := foldlM_step_lines rows (records ++ [fieldsOf row]) fun row hrow => h row (List.mem_cons_of_mem _ hrow)
    rw [List.flatMap_cons, List.foldlM_append, foldlM_step_line records row [] (h row List.mem_cons_self),
      Option.bind_eq_bind, Option.bind_some, List.nil_append, ih, List.append_assoc]
    rfl

/-- A reader that a line feed takes to the next record is at the end of one. -/
theorem finish?_of_step {r : Reader} {records : List (List Field)}
    (h : r.step '\n' = some ⟨records, [], .start⟩) : r.finish? = some records := by
  obtain ⟨before, record, position⟩ := r
  cases position with
  | inQuotes text => simp [Reader.step, Position.field?, Position.next?] at h
  | _ => simpa [Reader.step, Reader.finish?, Position.field?] using h

theorem any_isSpecial (cell : List Char) : cell.any isSpecial = cell.any (· ∈ [',', '"', '\r', '\n']) := by
  congr 1
  funext c
  simp [isSpecial, Bool.or_assoc]

/-- **Tables can be read back.** A reader gets the texts of all cells, row by row, and finds in quotes just those with
a comma, a quote, a carriage return or a line feed; the line feed that a table leaves out is that of its last row. A
single row with a single empty cell is the only table that cannot be told from the table without rows. -/
theorem read_render {rows : List Row} (hrows : ∀ row ∈ rows, row ≠ []) :
    let cells := rows.map fun row => row.map cellText
    (cells ≠ [[[]]] → read (render rows) =
        some (cells.map fun row => row.map fun cell => ⟨cell, cell.any (· ∈ [',', '"', '\r', '\n'])⟩)) ∧
      (cells ≠ [] → cells.flatMap line = (render rows).toList ++ ['\n']) ∧
      (render rows = "" ↔ cells = [] ∨ cells = [[[]]]) := by
  intro cells
  have htext : (render rows).toList = renderCells cells := String.toList_ofList
  have hempty : render rows = "" ↔ cells = [] ∨ cells = [[[]]] := by
    rw [← String.toList_eq_nil_iff, htext, renderCells_eq_nil_iff]
  refine ⟨fun hsingle => ?_, fun hcells => htext ▸ flatMap_line hcells, hempty⟩
  unfold read
  split
  · next h =>
    have hnil : cells = [] := (hempty.mp h).resolve_right hsingle
    rw [hnil]
    rfl
  · next h =>
    have hcells : cells ≠ [] := fun hnil => h (hempty.mpr (.inl hnil))
    have hlines := foldlM_step_lines cells [] (by
      intro row hrow
      obtain ⟨row, hmem, rfl⟩ := List.mem_map.mp hrow
      exact mt List.map_eq_nil_iff.mp (hrows row hmem))
    rw [flatMap_line hcells, List.foldlM_append] at hlines
    obtain ⟨r, hr, hend⟩ := Option.bind_eq_some_iff.mp hlines
    have hstep : r.step '\n' = some ⟨cells.map fieldsOf, [], .start⟩ := by simpa using hend
    rw [htext, hr, Option.bind_some, finish?_of_step hstep]
    refine congrArg some (List.map_congr_left fun row _ => ?_)
    exact List.map_congr_left fun cell _ => by rw [any_isSpecial]

/-- Rows of one and of three cells, with an empty row between them. -/
theorem read_render_threeRows :
    let rows : List Row := [[.string "a \"b\", c\r\n"], [.null], [.bool true, .string "", .array [.null, .string "d"]]]
    render rows = "\"a \"\"b\"\", c\r\n\"\n\ntrue,,\"[null,\"\"d\"\"]\"" ∧
      read (render rows) = some [[⟨"a \"b\", c\r\n".toList, true⟩], [⟨[], false⟩],
        [⟨"true".toList, false⟩, ⟨[], false⟩, ⟨"[null,\"d\"]".toList, true⟩]] := by
  intro rows
  have h := (read_render (by decide : ∀ row ∈ rows, row ≠ [])).1 (by decide)
  refine ⟨by decide, ?_⟩
  rw [h]
  decide

end SeriesExport.Csv
