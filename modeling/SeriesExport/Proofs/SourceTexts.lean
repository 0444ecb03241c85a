import Mathlib
import SeriesExport.Proofs.Rereading

/-!
# Texts of sources

A text of a source spells an object. The form of the source is filled from the members that are known, and all others go
into `extra` with what they denote (`DataSource.exists_extra`). The text that is written of the source spells the
outline of these members (`DataSource.outlineMembers`, `DataSource.spells_wire`), which is one of the outlines of the
source (`DataSource.written_outline`). So it is read as the source again (`DataSource.decode_wire`).

Reading a member other than the aggregations does not depend on them (`DataSource.readMembers_withAggregation`), so null
and an empty list may be left out (`DataSource.decoder_without_aggregation`).
-/

namespace SeriesExport

open Json (Key Outline Fault Members Spells Denotes DenotesMembers named others memberValues memberOutlines)

namespace Json

theorem DenotesMembers.exists_mem {members : List (Key × Outline)} {vs : List (String × Json)}
    (h : DenotesMembers members vs) {m : String × Json} (hm : m ∈ vs) :
    ∃ o, (some m.1, o) ∈ members ∧ Denotes o m.2 := by
  match h with
  | .nil => cases hm
  | .cons hvalue hmembers =>
    rcases List.mem_cons.mp hm with rfl | hm
    · exact ⟨_, List.mem_cons_self, hvalue⟩
    · obtain ⟨o, ho, hdenotes⟩ := hmembers.exists_mem hm
      exact ⟨o, List.mem_cons_of_mem _ ho, hdenotes⟩

theorem named_eq_nil {name : String} : ∀ {members : List (Key × Outline)}, (∀ m ∈ members, m.1 ≠ some name) →
    named name members = []
  | [], _ => rfl
  | (key, value) :: members, h => by
    obtain ⟨hkey, hmembers⟩ := List.forall_mem_cons.mp h
    rw [named, if_neg hkey, named_eq_nil hmembers]

theorem named_append (name : String) (front back : List (Key × Outline)) :
    named name (front ++ back) = named name front ++ named name back := by
  induction front with
  | nil => rfl
  | cons m front ih =>
    rw [List.cons_append, named, named, ih]
    split <;> rfl

section

variable {Form α : Type} {shape : Shape Form α} {room : Nat}

/-- Members are read one after the other. -/
theorem Shape.readMembers_append (f : Form) : ∀ front back : List (Key × Outline),
    shape.readMembers room f (front ++ back) = do shape.readMembers room (← shape.readMembers room f front) back
  | [], back => rfl
  | (none, value) :: front, back => rfl
  | (some name, value) :: front, back => by
    rw [List.cons_append, readMembers, readMembers]
    cases shape.member room name f with
    | some read =>
      show (read value >>= fun f => shape.readMembers room f (front ++ back)) = _
      simp only [readMembers_append, bind_assoc]
    | none =>
      show (if value.isWellFormed then _ else _) = _
      cases value.isWellFormed with
      | true => exact readMembers_append f front back
      | false => rfl

end

end Json

namespace Descriptor

/-- The outline of the text of a descriptor: all of its members, the operators under their name on the wire. -/
def outline (d : Descriptor) : Outline :=
  .object [(some "id", .text (some d.id)), (some "aggregates", .array (d.operators.map fun o => .text (some o)) true),
    (some "interval", .text (some d.interval)), (some "retention", .text (some d.retention))] true

theorem outline_members (d : Descriptor) : (Json.object d.members).outline = d.outline := by
  have hoperators : Json.outlines (d.operators.map .string) = d.operators.map fun o => .text (some o) := by
    rw [Json.outlines_eq_map, List.map_map]
    rfl
  show Outline.object [(some "id", .text (some d.id)),
    (some "aggregates", .array (Json.outlines (d.operators.map .string)) true),
    _, _] true = _
  rw [hoperators]
  rfl

theorem integral_members (d : Descriptor) : (Json.object d.members).Integral := by
  refine .object fun m hm => ?_
  simp only [members, List.mem_cons, List.not_mem_nil, or_false] at hm
  rcases hm with rfl | rfl | rfl | rfl
  · exact .string _
  · refine .array fun item hitem => ?_
    obtain ⟨o, -, rfl⟩ := List.mem_map.mp hitem
    exact .string o
  · exact .string _
  · exact .string _

theorem written_outline (d : Descriptor) : Written d.outline d :=
  .object rfl (.given rfl) rfl (.given rfl) nofun

end Descriptor

namespace DataSource

variable {room : Nat}

theorem decoder_eq_ok {o : Outline} {s : DataSource} (h : shape.decoder room o = .ok s) :
    ∃ members inside f, o = .object members true ∧ room = inside + 1 ∧ shape.readMembers inside {} members = .ok f ∧
      shape.finish f = some s := by
  cases o with
  | object members closed =>
    cases room with
    | zero => cases h
    | succ room =>
      obtain ⟨f, hread, h⟩ := Result.bind_eq_ok.mp h
      obtain ⟨f', hrequire, hclose⟩ := Result.bind_eq_ok.mp h
      obtain ⟨rfl, rfl⟩ := Json.require_eq_ok_iff.mp hrequire
      exact ⟨members, room, f, rfl, rfl, hread, Json.Shape.close_eq_ok_iff.mp hclose⟩
  | _ => cases h

theorem readMembers_extra : ∀ {members : List (Key × Outline)} {f f' : Form},
    shape.readMembers room f members = .ok f' → ∃ vs, memberValues room (others names members) = .ok vs ∧
      f'.extra = vs.foldl (fun extra (name, value) => extra.insert name value) f.extra
  | [], f, f', h => by
    obtain rfl := Except.ok.inj h
    exact ⟨[], rfl, rfl⟩
  | (none, value) :: members, _, _, h => by cases h
  | (some name, value) :: members, f, f', h => by
    rw [Json.Shape.readMembers] at h
    by_cases hname : name ∈ names
    · rw [Json.others_cons_of_mem hname]
      simp only [names, List.mem_cons, List.not_mem_nil, or_false] at hname
      rcases hname with rfl | rfl
      · obtain ⟨next, hnext, h⟩ := Result.bind_eq_ok.mp h
        obtain ⟨id, -, rfl⟩ := Json.fill_eq_ok rfl hnext
        obtain ⟨vs, hvs, hextra⟩ := readMembers_extra h
        exact ⟨vs, hvs, hextra⟩
      · obtain ⟨next, hnext, h⟩ := Result.bind_eq_ok.mp h
        obtain ⟨aggregation, -, rfl⟩ := Json.fill_eq_ok rfl hnext
        obtain ⟨vs, hvs, hextra⟩ := readMembers_extra h
        exact ⟨vs, hvs, hextra⟩
    · rw [member_of_not_mem hname] at h
      obtain ⟨next, hnext, h⟩ := Result.bind_eq_ok.mp h
      obtain ⟨v, hv, hput⟩ := Result.bind_eq_ok.mp hnext
      obtain rfl := Except.ok.inj hput
      obtain ⟨vs, hvs, hextra⟩ := readMembers_extra h
      refine ⟨(name, v) :: vs, ?_, hextra⟩
      rw [Json.others_cons_of_not_mem hname, memberValues, hv, hvs]
      rfl

/-- A text of a source spells an object. The members that are not known are those of `extra`, each with a value. -/
theorem exists_extra {text : String} {s : DataSource} (h : decode text = .ok s) : ∃ members vs,
    Spells text (.object members true) ∧ DenotesMembers (others names members) vs ∧
      Json.membersDepth (others names members) ≤ 126 ∧ s.extra = Members.ofList vs := by
  obtain ⟨o, hspells, hread⟩ := Json.Decoder.decode_eq_ok_iff.mp h
  obtain ⟨members, inside, f, rfl, hroom, hmembers, hfinish⟩ := decoder_eq_ok hread
  obtain rfl : inside = 126 := by
    rw [Json.maxDepth] at hroom
    omega
  obtain ⟨vs, hvs, hextra⟩ := readMembers_extra hmembers
  obtain ⟨hdenotes, hdepth⟩ := (Json.memberValues_eq_ok_iff _ _ _).mp hvs
  obtain ⟨id, -, hs⟩ := Option.bind_eq_some_iff.mp hfinish
  obtain rfl := Option.some.inj hs
  exact ⟨members, vs, hspells, hdenotes, hdepth, hextra⟩

theorem not_mem_names_of_mem_extra {text : String} {s : DataSource} (h : decode text = .ok s) :
    ∀ m ∈ s.extra, m.1 ∉ names := by
  obtain ⟨members, vs, -, hdenotes, -, hextra⟩ := exists_extra h
  intro m hm
  rw [hextra] at hm
  obtain ⟨o, ho, -⟩ := hdenotes.exists_mem (Members.mem_of_mem_ofList hm)
  have hfilter := (List.mem_filter.mp ho).2
  simpa using hfilter

/-- The members of the text of a source. -/
def outlineMembers (s : DataSource) : List (Key × Outline) :=
  (some "id", .text (some s.id)) :: (some "aggregation", .array (s.aggregation.map Descriptor.outline) true) ::
    memberOutlines s.extra

theorem outline_members (s : DataSource) : (Json.object s.members).outline = .object s.outlineMembers true := by
  have haggregation :
      Json.outlines (s.aggregation.map fun d => .object d.members) = s.aggregation.map Descriptor.outline := by
    rw [Json.outlines_eq_map, List.map_map]
    exact List.map_congr_left fun d _ => d.outline_members
  show Outline.object (_ ::
    (_, .array (Json.outlines (s.aggregation.map fun d => .object d.members)) true) :: _) true = _
  rw [haggregation]
  rfl

theorem spells_wire {s : DataSource} (h : ∀ m ∈ s.extra, m.2.Integral) :
    Spells s.wire (.object s.outlineMembers true) := by
  rw [← outline_members]
  refine Json.spells_render (.object fun m hm => ?_)
  rcases List.mem_append.mp hm with hm | hm
  · simp only [List.mem_cons, List.not_mem_nil, or_false] at hm
    rcases hm with rfl | rfl
    · exact .string _
    · refine .array fun item hitem => ?_
      obtain ⟨d, -, rfl⟩ := List.mem_map.mp hitem
      exact d.integral_members
  · exact h m hm

theorem written_outline {s : DataSource} (hnames : ∀ m ∈ s.extra, m.1 ∉ names)
    (hvalues : memberValues room (memberOutlines s.extra) = .ok s.extra) (hordered : s.extra.Ordered) :
    Written room (.object s.outlineMembers true) s := by
  have hkeys (name : String) (hname : name ∈ names) : ∀ m ∈ memberOutlines s.extra, m.1 ≠ some name := by
    rw [Json.memberOutlines_eq_map, List.forall_mem_map]
    exact fun m hm heq => hnames m hm (Option.some.inj heq ▸ hname)
  have hothers : others names s.outlineMembers = memberOutlines s.extra := by
    rw [outlineMembers, Json.others_cons_of_mem (by decide), Json.others_cons_of_mem (by decide)]
    refine List.filter_eq_self.mpr fun m hm => decide_eq_true fun hmem => ?_
    obtain ⟨name, hname, heq⟩ := List.mem_map.mp hmem
    exact hkeys name hname m hm heq.symm
  refine .object ?_ (?_ : Json.Given _ _ _ _) (hothers ▸ hvalues) (Members.ofList_of_ordered hordered).symm
  · rw [outlineMembers, named, if_pos rfl, named, if_neg (by decide), Json.named_eq_nil (hkeys "id" (by decide))]
  · rw [outlineMembers, named, if_neg (by decide), named, if_pos rfl,
      Json.named_eq_nil (hkeys "aggregation" (by decide))]
    exact .given (.array (List.forall₂_map_left_iff.mpr (List.forall₂_same.mpr fun d _ => d.written_outline)))

/-- The text of a source that was read is read as this source. -/
theorem decode_wire {text : String} {s : DataSource} (h : decode text = .ok s) (hvalues : ∀ m ∈ s.extra, m.2.Integral) :
    decode s.wire = .ok s ∧ DenotesMembers (memberOutlines s.extra) s.extra := by
  obtain ⟨members, vs, -, hdenotes, hdepth, hextra⟩ := exists_extra h
  have hreread (m : String × Json) (hm : m ∈ s.extra) :=
    hdenotes.outlines m (Members.mem_of_mem_ofList (hextra ▸ hm)) (hvalues m hm)
  have hmembers := Json.denotesMembers_outlines fun m hm => (hreread m hm).1
  have hdepths : Json.membersDepth (memberOutlines s.extra) ≤ 126 := by
    rw [Json.memberOutlines_eq_map, Json.membersDepth_le_iff, List.forall_mem_map]
    exact fun m hm => (hreread m hm).2.trans hdepth
  have hwritten : Written 126 (.object s.outlineMembers true) s :=
    written_outline (not_mem_names_of_mem_extra h) ((Json.memberValues_eq_ok_iff _ _ _).mpr ⟨hmembers, hdepths⟩)
      (hextra ▸ Members.ordered_ofList vs)
  refine ⟨?_, hmembers⟩
  rw [decode, Json.Decoder.decode_of_spells (spells_wire hvalues)]
  exact decoder_of_written hwritten

/-! ## Sources without aggregations -/

/-- The form with other aggregations. -/
def Form.withAggregation (f : Form) (a : Option (List Descriptor)) : Form := { f with aggregation := a }

/-- A member that is not the aggregations does not look at them. -/
theorem member_withAggregation (room : Nat) {name : String} (h : name ≠ "aggregation") (f : Form)
    (a : Option (List Descriptor)) :
    ∃ read, shape.member room name f = some read ∧
      shape.member room name (f.withAggregation a) = some fun o => (·.withAggregation a) <$> read o := by
  by_cases hid : name = "id"
  · subst hid
    refine ⟨_, rfl, congrArg some (funext fun o => ?_)⟩
    show (if f.id.isSome then Except.error Fault.mismatch else _) =
      _ <$> (if f.id.isSome then Except.error Fault.mismatch else _)
    split
    · rfl
    · cases Json.Decoder.string room o <;> rfl
  · have hname : name ∉ names := by simp [names, hid, h]
    refine ⟨_, member_of_not_mem hname f, (member_of_not_mem hname _).trans (congrArg some (funext fun o => ?_))⟩
    cases o.value room <;> rfl

/-- Members that are not the aggregations are read alike, whatever is in the place of the aggregations. -/
theorem readMembers_withAggregation (a : Option (List Descriptor)) : ∀ {members : List (Key × Outline)} (f : Form),
    named "aggregation" members = [] → shape.readMembers room (f.withAggregation a) members =
      (·.withAggregation a) <$> shape.readMembers room f members
  | [], _, _ => rfl
  | (none, _) :: _, _, _ => rfl
  | (some name, value) :: members, f, h => by
    have hne : name ≠ "aggregation" := by
      rintro rfl
      rw [named, if_pos rfl] at h
      cases h
    rw [Json.named_cons_of_ne hne] at h
    obtain ⟨read, hmember, hmember'⟩ := member_withAggregation room hne f a
    rw [Json.Shape.readMembers, Json.Shape.readMembers, hmember, hmember']
    show ((·.withAggregation a) <$> read value >>= _) = _ <$> (read value >>= _)
    cases read value with
    | error fault => rfl
    | ok next => exact readMembers_withAggregation a next h

theorem aggregation_of_readMembers {members : List (Key × Outline)} {f f' : Form} (h : named "aggregation" members = [])
    (hread : shape.readMembers room f members = .ok f') : f'.aggregation = f.aggregation := by
  have hsame : shape.readMembers room f members = _ <$> shape.readMembers room f members :=
    readMembers_withAggregation f.aggregation f h
  rw [hread] at hsame
  have hsame : (Except.ok f' : Except Fault Form) = .ok (f'.withAggregation f.aggregation) := hsame
  show f'.aggregation = (f'.withAggregation f.aggregation).aggregation
  exact congrArg Form.aggregation (Except.ok.inj hsame)

theorem finish_withAggregation {f : Form} (h : f.aggregation = none) :
    shape.finish (f.withAggregation (some [])) = shape.finish f := by
  show (do let id ← f.id; some (DataSource.mk id [] f.extra)) =
    (do let id ← f.id; some ⟨id, f.aggregation.getD [], f.extra⟩)
  rw [h]
  rfl

/-- Aggregations that are null or an empty list may be left out. -/
theorem decoder_without_aggregation {front back : List (Key × Outline)} (h : named "aggregation" (front ++ back) = [])
    {o : Outline} (ho : o = .null ∨ o = .array [] true) :
    shape.decoder (room + 3) (.object (front ++ (some "aggregation", o) :: back) true) =
      shape.decoder (room + 3) (.object (front ++ back) true) := by
  rw [Json.named_append, List.append_eq_nil_iff] at h
  have hfill (f : Form) (hf : f.aggregation = none) : shape.readMembers (room + 2) f ((some "aggregation", o) :: back) =
      (·.withAggregation (some [])) <$> shape.readMembers (room + 2) f back := by
    have hnone : descriptors (room + 2) o = .ok [] := by rcases ho with rfl | rfl <;> rfl
    rw [Json.Shape.readMembers_cons_of_fill rfl hf hnone]
    exact readMembers_withAggregation (some []) f h.2
  show (do shape.close (← Json.require true (← shape.readMembers (room + 2) {} _))) =
    (do shape.close (← Json.require true (← shape.readMembers (room + 2) {} _)))
  rw [Json.Shape.readMembers_append, Json.Shape.readMembers_append]
  cases hfront : shape.readMembers (room + 2) {} front with
  | error fault => rfl
  | ok f =>
    have hf : f.aggregation = none := aggregation_of_readMembers h.1 hfront
    show (do shape.close (← Json.require true (← shape.readMembers (room + 2) f _))) =
      (do shape.close (← Json.require true (← shape.readMembers (room + 2) f back)))
    rw [hfill f hf]
    cases hback : shape.readMembers (room + 2) f back with
    | error fault => rfl
    | ok f' =>
      have hf' : f'.aggregation = none := (aggregation_of_readMembers h.2 hback).trans hf
      show shape.close (f'.withAggregation (some [])) = shape.close f'
      rw [Json.Shape.close, Json.Shape.close, finish_withAggregation hf']

/-- **The text of a source is read as the source.** Any text of a source will do whose other members have no numbers but
integers; these members are never the known ones. The text that is written has all members of each descriptor, and a
source without aggregations may have null or an empty list for them. -/
theorem wire_roundtrip :
    (∀ text s, decode text = .ok s → (∀ m ∈ s.extra, m.1 ≠ "id" ∧ m.1 ≠ "aggregation") ∧
      ((∀ m ∈ s.extra, m.2.Integral) → decode s.wire = .ok s ∧ Spells s.wire (.object s.outlineMembers true) ∧
        DenotesMembers (memberOutlines s.extra) s.extra)) ∧
    ∀ (front back : List (Key × Outline)) (o : Outline) (text text' : String),
      named "aggregation" (front ++ back) = [] → o = .null ∨ o = .array [] true →
      Spells text (.object (front ++ back) true) →
      Spells text' (.object (front ++ (some "aggregation", o) :: back) true) → decode text' = decode text := by
  refine ⟨fun text s h => ⟨fun m hm => ?_, fun hvalues => ?_⟩, fun front back o text text' h ho ht ht' => ?_⟩
  · have hname := not_mem_names_of_mem_extra h m hm
    simpa [names] using hname
  · obtain ⟨hread, hdenotes⟩ := decode_wire h hvalues
    exact ⟨hread, spells_wire hvalues, hdenotes⟩
  · rw [decode, decode, Json.Decoder.decode_of_spells ht, Json.Decoder.decode_of_spells ht']
    exact decoder_without_aggregation h ho

/-- A source with a member that comes twice, and a descriptor without operators that has one more member. -/
def quotedText : String :=
  "\x7b\"x\": 2, \"aggregation\": [\x7b\"id\": \"m\", \"interval\": \"1h\", \"z\": 0.5\x7d]," ++
    " \"x\": [-3, \x7b\"u\": null\x7d], \"id\": \"a\\\"\\u0001\"\x7d"

def quotedSource : DataSource :=
  ⟨"a\"\x01", [⟨"m", [], "1h", ""⟩], [("x", .array [.number (.integer (-3)), .object [("u", .null)]])]⟩

theorem wire_roundtrip_quoted :
    decode quotedText = .ok quotedSource ∧ (∀ m ∈ quotedSource.extra, m.2.Integral) ∧
      decode quotedSource.wire = .ok quotedSource ∧
      decode "\x7b\"aggregation\":null,\"id\":\"b\"\x7d" = decode "\x7b\"id\":\"b\"\x7d" := by
  have hdecode : decode quotedText = .ok quotedSource := by cbv
  have hvalues : ∀ m ∈ quotedSource.extra, m.2.Integral := by
    rintro m hm
    obtain rfl := List.mem_singleton.mp hm
    refine .array fun item hitem => ?_
    simp only [List.mem_cons, List.not_mem_nil, or_false] at hitem
    rcases hitem with rfl | rfl
    · exact .integer (-3)
    · refine .object fun m hm => ?_
      obtain rfl := List.mem_singleton.mp hm
      exact .null
  have hmissing : Spells "\x7b\"id\":\"b\"\x7d" (.object ([] ++ [(some "id", .text (some "b"))]) true) :=
    Json.ofText_eq_iff.mp (by cbv)
  have hnull : Spells "\x7b\"aggregation\":null,\"id\":\"b\"\x7d"
      (.object ([] ++ (some "aggregation", .null) :: [(some "id", .text (some "b"))]) true) :=
    Json.ofText_eq_iff.mp (by cbv)
  exact ⟨hdecode, hvalues, ((wire_roundtrip.1 _ _ hdecode).2 hvalues).1,
    wire_roundtrip.2 _ _ _ _ _ rfl (.inl rfl) hmissing hnull⟩

end DataSource

end SeriesExport
