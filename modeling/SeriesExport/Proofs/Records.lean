import Mathlib.Data.List.Induction
import SeriesExport.Error
import SeriesExport.Paging.Page

/-!
# Records of pages

The members of an object are kept in the order of their names (`Json.Members.Ordered`). Inserting one keeps the order
(`Json.Members.Ordered.insert`), so no name is there twice (`Json.Members.Ordered.nodup`).

A structure is read by filling a form member by member. What the blank form has and every member keeps
(`Json.Shape.Keeps`), the filled form has (`Json.Shape.Keeps.exists_form`). So every record of a page that is read is
ordered (`Page.ordered_of_decode`).
-/

namespace SeriesExport

namespace Json

/-! ## Order of members -/

/-- The names of the members ascend. -/
def Members.Ordered (members : Members) : Prop := (members.map Prod.fst).Pairwise (· < ·)

namespace Members

theorem Ordered.nodup {members : Members} (h : members.Ordered) : (members.map Prod.fst).Nodup := by
  refine List.Pairwise.imp ?_ h
  rintro name _ hlt rfl
  exact String.lt_irrefl name hlt

theorem mem_names_insert {name key : String} {value : Json} {members : Members}
    (h : key ∈ (members.insert name value).map Prod.fst) : key = name ∨ key ∈ members.map Prod.fst := by
  induction members with
  | nil => exact .inl (List.mem_singleton.mp h)
  | cons member rest ih =>
    obtain ⟨other, old⟩ := member
    unfold Members.insert at h
    split at h
    · exact List.mem_cons.mp h
    split at h
    · rcases List.mem_cons.mp h with hname | hrest
      · exact .inl hname
      · exact .inr (List.mem_cons_of_mem _ hrest)
    · rcases List.mem_cons.mp h with rfl | hrest
      · exact .inr List.mem_cons_self
      · exact (ih hrest).imp_right fun hmem => List.mem_cons_of_mem _ hmem

/-- A member is put in its place. -/
theorem Ordered.insert {members : Members} (h : members.Ordered) (name : String) (value : Json) :
    (members.insert name value).Ordered := by
  unfold Ordered at h ⊢
  induction members with
  | nil => exact List.pairwise_singleton _ _
  | cons member rest ih =>
    obtain ⟨other, old⟩ := member
    rw [List.map_cons, List.pairwise_cons] at h
    obtain ⟨hfirst, hrest⟩ := h
    unfold Members.insert
    split
    · next hlt =>
      rw [List.map_cons, List.pairwise_cons]
      refine ⟨fun key hkey => ?_, List.pairwise_cons.mpr ⟨hfirst, hrest⟩⟩
      rcases List.mem_cons.mp hkey with rfl | hkey
      · exact hlt
      · exact String.lt_trans hlt (hfirst key hkey)
    split
    · next hsame =>
      subst hsame
      exact List.pairwise_cons.mpr ⟨hfirst, hrest⟩
    · next hnot hne =>
      have hlt : other < name := by
        by_contra hge
        exact hne (String.le_antisymm (String.not_lt.mp hge) (String.not_lt.mp hnot))
      rw [List.map_cons, List.pairwise_cons]
      refine ⟨fun key hkey => ?_, ih hrest⟩
      rcases mem_names_insert hkey with rfl | hkey
      · exact hlt
      · exact hfirst key hkey

theorem ordered_ofList (ms : List (String × Json)) : (Members.ofList ms).Ordered := by
  induction ms using List.reverseRecOn with
  | nil => exact List.Pairwise.nil
  | append_singleton ms member ih =>
    rw [ofList_concat]
    exact ih.insert member.1 member.2

end Members

/-! ## What decoders keep -/

theorem require_eq_ok_iff {α : Type} {ok : Bool} {a b : α} : require ok a = .ok b ↔ ok = true ∧ a = b := by
  unfold require
  split
  · next h => simp [h]
  · next h => simp [h]

theorem enter_eq_ok {α : Type} {room : Nat} {inside : Nat → Except Fault α} {a : α} (h : enter room inside = .ok a) :
    ∃ room', inside room' = .ok a := by
  cases room with
  | zero => cases h
  | succ room => exact ⟨room, h⟩

/-- A document that is read is read from its root. -/
theorem Decoder.decode_eq_ok {α : Type} {d : Decoder α} {text : String} {a : α} (h : d.decode text = .ok a) :
    d maxDepth (Document.ofText text).root = .ok a := by
  obtain ⟨a', ha', h⟩ := Result.bind_eq_ok.mp h
  obtain ⟨-, rfl⟩ := require_eq_ok_iff.mp h
  exact ha'

theorem Decoder.members_ordered {room : Nat} {outline : Outline} {members : Members}
    (h : Decoder.members room outline = .ok members) : members.Ordered := by
  unfold Decoder.members at h
  split at h
  · obtain ⟨room', h⟩ := enter_eq_ok h
    obtain ⟨ms, -, h⟩ := Result.bind_eq_ok.mp h
    obtain ⟨-, rfl⟩ := require_eq_ok_iff.mp h
    exact Members.ordered_ofList ms
  · cases h

theorem exists_of_mem_of_mapM {α β : Type} {f : α → Except Fault β} {as : List α} {bs : List β}
    (h : as.mapM f = .ok bs) {b : β} (hb : b ∈ bs) : ∃ a ∈ as, f a = .ok b := by
  induction as generalizing bs with
  | nil =>
    obtain rfl := Except.ok.inj h
    cases hb
  | cons a as ih =>
    rw [List.mapM_cons] at h
    obtain ⟨first, hfirst, h⟩ := Result.bind_eq_ok.mp h
    obtain ⟨rest, hrest, h⟩ := Result.bind_eq_ok.mp h
    obtain rfl := Except.ok.inj h
    rcases List.mem_cons.mp hb with rfl | hb
    · exact ⟨a, List.mem_cons_self, hfirst⟩
    · obtain ⟨a', ha', hread⟩ := ih hrest hb
      exact ⟨a', List.mem_cons_of_mem a ha', hread⟩

/-- What all items have that can be read, all items of a list have. -/
theorem Decoder.list_forall {α : Type} {d : Decoder α} {Q : α → Prop}
    (hd : ∀ {room outline a}, d room outline = .ok a → Q a) {room : Nat} {outline : Outline} {items : List α}
    (h : Decoder.list d room outline = .ok items) : ∀ a ∈ items, Q a := by
  unfold Decoder.list at h
  split at h
  · obtain ⟨room', h⟩ := enter_eq_ok h
    obtain ⟨as, has, h⟩ := Result.bind_eq_ok.mp h
    obtain ⟨-, rfl⟩ := require_eq_ok_iff.mp h
    intro a ha
    obtain ⟨outline, -, hread⟩ := exists_of_mem_of_mapM has ha
    exact hd hread
  · cases h

/-- Only null is read as nothing. -/
theorem Decoder.nullable_eq_some {α : Type} {d : Decoder α} {room : Nat} {outline : Outline} {a : α}
    (h : Decoder.nullable d room outline = .ok (some a)) : d room outline = .ok a := by
  unfold Decoder.nullable at h
  split at h
  · cases h
  · cases hd : d room outline with
    | error fault =>
      rw [hd] at h
      cases h
    | ok a' =>
      rw [hd] at h
      obtain rfl : a' = a := Option.some.inj (Except.ok.inj h)
      rfl

/-- A place of a form is filled with what is read for it. -/
theorem fill_eq_ok {Form β : Type} {place : Option β} {read : Outline → Except Fault β} {put : β → Form}
    {filled : Outline → Except Fault Form} {outline : Outline} {f : Form} (h : fill place read put = some filled)
    (hf : filled outline = .ok f) : ∃ v, read outline = .ok v ∧ f = put v := by
  obtain rfl := Option.some.inj h
  dsimp only at hf
  split at hf
  · cases hf
  · cases hread : read outline with
    | error fault =>
      rw [hread] at hf
      cases hf
    | ok v =>
      rw [hread] at hf
      exact ⟨v, rfl, (Except.ok.inj hf).symm⟩

namespace Shape

variable {Form α : Type}

/-- The blank form has the property, and every member keeps it. -/
structure Keeps (shape : Shape Form α) (P : Form → Prop) : Prop where
  blank : P shape.blank
  member : ∀ {room name f read outline f'}, P f → shape.member room name f = some read → read outline = .ok f' → P f'

variable {shape : Shape Form α} {P : Form → Prop} {room : Nat}

theorem Keeps.readMembers (h : shape.Keeps P) {members : List (Key × Outline)} {f f' : Form} (hf : P f)
    (hread : shape.readMembers room f members = .ok f') : P f' := by
  induction members generalizing f with
  | nil => exact Except.ok.inj hread ▸ hf
  | cons member members ih =>
    obtain ⟨name?, outline⟩ := member
    cases name? with
    | none => cases hread
    | some name =>
      unfold Shape.readMembers at hread
      split at hread
      · next read hmember =>
        obtain ⟨next, hnext, hread⟩ := Result.bind_eq_ok.mp hread
        exact ih (h.member hf hmember hnext) hread
      · split at hread
        · exact ih hf hread
        · cases hread

theorem Keeps.readItems (h : shape.Keeps P) {closed : Bool} {names : List String} {items : List Outline} {f f' : Form}
    (hf : P f) (hread : shape.readItems room f closed names items = .ok f') : P f' := by
  induction items generalizing f names with
  | nil =>
    unfold Shape.readItems at hread
    exact (require_eq_ok_iff.mp hread).2 ▸ hf
  | cons outline items ih =>
    cases names with
    | nil => cases hread
    | cons name names =>
      unfold Shape.readItems at hread
      split at hread
      · next read hmember =>
        obtain ⟨next, hnext, hread⟩ := Result.bind_eq_ok.mp hread
        exact ih (h.member hf hmember hnext) hread
      · cases hread

theorem close_eq_ok_iff {f : Form} {a : α} : shape.close f = .ok a ↔ shape.finish f = some a := by
  unfold close
  cases shape.finish f <;> simp

/-- What is read comes from a form that has the property. -/
theorem Keeps.exists_form (h : shape.Keeps P) {outline : Outline} {a : α}
    (hread : shape.decoder room outline = .ok a) : ∃ f, P f ∧ shape.finish f = some a := by
  unfold decoder at hread
  split at hread
  · obtain ⟨room', hread⟩ := enter_eq_ok hread
    obtain ⟨f, hf, hread⟩ := Result.bind_eq_ok.mp hread
    obtain ⟨f', hf', hclose⟩ := Result.bind_eq_ok.mp hread
    obtain ⟨-, rfl⟩ := require_eq_ok_iff.mp hf'
    exact ⟨f, h.readMembers h.blank hf, close_eq_ok_iff.mp hclose⟩
  · split at hread
    · obtain ⟨room', hread⟩ := enter_eq_ok hread
      obtain ⟨f, hf, hclose⟩ := Result.bind_eq_ok.mp hread
      exact ⟨f, h.readItems h.blank hf, close_eq_ok_iff.mp hclose⟩
    · cases hread
  · cases hread

end Shape

end Json

/-! ## Pages -/

namespace Page

open Json

theorem keeps_dataShape : dataShape.Keeps fun f => ∀ records, f = some records → ∀ r ∈ records, r.Ordered where
  blank := nofun
  member := by
    intro room name f read outline f' hf hmember hread records hrecords
    unfold dataShape at hmember
    dsimp only at hmember
    split at hmember
    · obtain ⟨records', hlist, rfl⟩ := fill_eq_ok hmember hread
      obtain rfl : records' = records := Option.some.inj hrecords
      exact Decoder.list_forall Decoder.members_ordered hlist
    · cases hmember

/-- The part of a page that has the records has ordered ones. -/
theorem ordered_of_dataShape {room : Nat} {outline : Outline} {records : List Record}
    (h : dataShape.decoder room outline = .ok records) : ∀ r ∈ records, r.Ordered := by
  obtain ⟨f, hf, hfinish⟩ := keeps_dataShape.exists_form h
  obtain rfl : f.getD [] = records := Option.some.inj hfinish
  cases f with
  | none => nofun
  | some records => exact hf records rfl

theorem keeps_shape :
    shape.Keeps fun f => ∀ records, f.data = some (some records) → ∀ r ∈ records, r.Ordered where
  blank := nofun
  member := by
    intro room name f read outline f' hf hmember hread records hrecords
    unfold shape at hmember
    dsimp only at hmember
    split at hmember
    · obtain ⟨total, -, rfl⟩ := fill_eq_ok hmember hread
      exact hf records hrecords
    · obtain ⟨data, hdata, rfl⟩ := fill_eq_ok hmember hread
      obtain rfl : data = some records := Option.some.inj hrecords
      exact ordered_of_dataShape (Decoder.nullable_eq_some hdata)
    · cases hmember

/-- The records of a page that is read are ordered, so none has a name twice. -/
theorem ordered_of_decode {text : String} {page : Page} (h : Page.decode text = .ok page) :
    ∀ r ∈ page.records, r.Ordered := by
  obtain ⟨f, hf, hfinish⟩ := keeps_shape.exists_form (Decoder.decode_eq_ok h)
  obtain ⟨total, -, hpage⟩ := Option.bind_eq_some_iff.mp hfinish
  obtain rfl := Option.some.inj hpage
  unfold Page.records
  cases hdata : f.data with
  | none => nofun
  | some data =>
    cases data with
    | none => nofun
    | some records => exact hf records hdata

end Page

end SeriesExport
