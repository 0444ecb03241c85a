import Mathlib
import SeriesExport.CommandLine.Run
import SeriesExport.Proofs.Documents
import SeriesExport.Proofs.Grammar

/-!
# Settings from a document

`Config.Written` says which outlines are those of a configuration: any of its members in any order, others among them.
A text that spells one of them is decoded as the defaults overlaid by what it has (`Config.decode_of_written`).

The command line may have another address. A document is checked on its own before the address is laid over it, so the
settings are those of the document and the command line together if the two can be used (`settings_eq_ok_iff`), with one
exception: a document whose address is empty is refused even if there is another one (`settings_of_document`).
-/

namespace SeriesExport

open Json (Key Outline Decoder Shape Spells Filled Given Skippable named others)

namespace Config

/-! ## How a configuration is written -/

/-- The names of the members of a configuration. -/
def names : List String :=
  ["api_url", "registry_per_page", "data_per_page", "aggr_per_page", "timeout_ms", "auth_header"]

/-- How a place of the form is written that has a text. -/
def TextWritten (o : Outline) (place : Option String) : Prop := ∃ text, o = .text (some text) ∧ place = some text

/-- How a place of the form is written that has an unsigned integer of 64 bits. -/
def WordWritten (o : Outline) (place : Option UInt64) : Prop :=
  ∃ (l : Json.NumberLiteral) (n : UInt64), o = .number l ∧ l.value? = some (.integer n.toNat) ∧ place = some n

/-- How a configuration is written: as an object in which each of its members stands at most once, with a value of its
type. Other members are skipped. -/
inductive Written : Outline → Form → Prop
  | object {members : List (Key × Outline)} {f : Form} :
      Given TextWritten none (named "api_url" members) f.apiUrl →
      Given WordWritten none (named "registry_per_page" members) f.registryPerPage →
      Given WordWritten none (named "data_per_page" members) f.dataPerPage →
      Given WordWritten none (named "aggr_per_page" members) f.aggregationPerPage →
      Given WordWritten none (named "timeout_ms" members) f.timeout →
      Given TextWritten none (named "auth_header" members) f.authHeader →
      Skippable (others names members) → Written (.object members true) f

variable {room : Nat}

theorem filled_of_textWritten {values : List Outline} {place : Option String}
    (h : Given TextWritten none values place) : Filled (Decoder.string room) none values place := by
  cases h with
  | missing => exact .kept none
  | given hwritten =>
    obtain ⟨text, rfl, rfl⟩ := hwritten
    exact .filled rfl

theorem filled_of_wordWritten {values : List Outline} {place : Option UInt64}
    (h : Given WordWritten none values place) : Filled (Decoder.word room) none values place := by
  cases h with
  | missing => exact .kept none
  | given hwritten =>
    obtain ⟨l, n, rfl, hvalue, rfl⟩ := hwritten
    have hfilled : Filled (Decoder.word room) none [.number l] (some (UInt64.ofNat n.toNat)) :=
      Json.filled_word_of_eq rfl hvalue
    rwa [UInt64.ofNat_toNat] at hfilled

/-- The members fill the places of the form. -/
structure Form.FilledBy (room : Nat) (members : List (Key × Outline)) (f f' : Form) : Prop where
  apiUrl : Filled (Decoder.string room) f.apiUrl (named "api_url" members) f'.apiUrl
  registryPerPage : Filled (Decoder.word room) f.registryPerPage (named "registry_per_page" members) f'.registryPerPage
  dataPerPage : Filled (Decoder.word room) f.dataPerPage (named "data_per_page" members) f'.dataPerPage
  aggregationPerPage :
    Filled (Decoder.word room) f.aggregationPerPage (named "aggr_per_page" members) f'.aggregationPerPage
  timeout : Filled (Decoder.word room) f.timeout (named "timeout_ms" members) f'.timeout
  authHeader : Filled (Decoder.string room) f.authHeader (named "auth_header" members) f'.authHeader

theorem member_of_not_mem {name : String} (h : name ∉ names) (f : Form) : shape.member room name f = none := by
  simp only [names, List.mem_cons, List.not_mem_nil, or_false, not_or] at h
  simp only [shape]
  split <;> simp_all

theorem readMembers_of_filled : ∀ {members : List (Key × Outline)} (f f' : Form), f.FilledBy room members f' →
    Skippable (others names members) → shape.readMembers room f members = .ok f'
  | [], ⟨_, _, _, _, _, _⟩, ⟨_, _, _, _, _, _⟩, ⟨.kept _, .kept _, .kept _, .kept _, .kept _, .kept _⟩, _ => rfl
  | (none, value) :: members, f, f', _, hothers => by
    rw [Json.others_cons_none] at hothers
    cases (hothers _ List.mem_cons_self).1
  | (some name, value) :: members, f, f', hfilled, hothers => by
    obtain ⟨hurl, hregistry, hdata, haggregation, htimeout, hheader⟩ := hfilled
    by_cases hname : name ∈ names
    · rw [Json.others_cons_of_mem hname] at hothers
      simp only [names, List.mem_cons, List.not_mem_nil, or_false] at hname
      rcases hname with rfl | rfl | rfl | rfl | rfl | rfl
      · obtain ⟨_, hplace, hread, hurl⟩ := hurl.cons
        rw [Shape.readMembers_cons_of_fill rfl hplace hread]
        exact readMembers_of_filled _ _ ⟨hurl, hregistry, hdata, haggregation, htimeout, hheader⟩ hothers
      · obtain ⟨_, hplace, hread, hregistry⟩ := hregistry.cons
        rw [Shape.readMembers_cons_of_fill rfl hplace hread]
        exact readMembers_of_filled _ _ ⟨hurl, hregistry, hdata, haggregation, htimeout, hheader⟩ hothers
      · obtain ⟨_, hplace, hread, hdata⟩ := hdata.cons
        rw [Shape.readMembers_cons_of_fill rfl hplace hread]
        exact readMembers_of_filled _ _ ⟨hurl, hregistry, hdata, haggregation, htimeout, hheader⟩ hothers
      · obtain ⟨_, hplace, hread, haggregation⟩ := haggregation.cons
        rw [Shape.readMembers_cons_of_fill rfl hplace hread]
        exact readMembers_of_filled _ _ ⟨hurl, hregistry, hdata, haggregation, htimeout, hheader⟩ hothers
      · obtain ⟨_, hplace, hread, htimeout⟩ := htimeout.cons
        rw [Shape.readMembers_cons_of_fill rfl hplace hread]
        exact readMembers_of_filled _ _ ⟨hurl, hregistry, hdata, haggregation, htimeout, hheader⟩ hothers
      · obtain ⟨_, hplace, hread, hheader⟩ := hheader.cons
        rw [Shape.readMembers_cons_of_fill rfl hplace hread]
        exact readMembers_of_filled _ _ ⟨hurl, hregistry, hdata, haggregation, htimeout, hheader⟩ hothers
    · have hne : ∀ known ∈ names, name ≠ known := fun known hknown heq => hname (heq ▸ hknown)
      rw [Json.others_cons_of_not_mem hname] at hothers
      rw [Json.named_cons_of_ne (hne _ (by decide))] at hurl hregistry hdata haggregation htimeout hheader
      obtain ⟨hvalue, hothers⟩ := List.forall_mem_cons.mp hothers
      rw [Shape.readMembers_cons_of_unknown (member_of_not_mem hname f) hvalue.2]
      exact readMembers_of_filled _ _ ⟨hurl, hregistry, hdata, haggregation, htimeout, hheader⟩ hothers

theorem decoder_of_written {o : Outline} {f : Form} (h : Written o f) : shape.decoder (room + 1) o = .ok f.config := by
  obtain @⟨members, f, hurl, hregistry, hdata, haggregation, htimeout, hheader, hothers⟩ := h
  have hfilled : Form.FilledBy room members {} f :=
    ⟨filled_of_textWritten hurl, filled_of_wordWritten hregistry, filled_of_wordWritten hdata,
      filled_of_wordWritten haggregation, filled_of_wordWritten htimeout, filled_of_textWritten hheader⟩
  exact Shape.decoder_object (readMembers_of_filled {} f hfilled hothers) rfl

theorem decode_of_written {text : String} {o : Outline} {f : Form} (htext : Spells text o) (h : Written o f) :
    decode text = .ok f.config := by
  rw [decode, Json.Decoder.decode_of_spells htext]
  exact decoder_of_written h

/-! ## Configurations that can be used -/

/-- No page size is zero, and there is an address. -/
def Usable (c : Config) : Prop :=
  c.registryPerPage ≠ 0 ∧ c.dataPerPage ≠ 0 ∧ c.aggregationPerPage ≠ 0 ∧ c.apiUrl ≠ ""

instance : DecidablePred Usable := fun _ => inferInstanceAs (Decidable (_ ∧ _))

theorem ofFile_toUTF8 (text : String) : ofFile (some text.toUTF8) = ofText text := by
  have hvalid : String.fromUTF8? text.toUTF8 = some text := dif_pos text.isValidUTF8
  rw [ofFile, Option.bind_some, hvalid]

/-- A document is loaded if its configuration can be used. -/
theorem ofText_eq_ok_iff {text : String} {c c' : Config} (h : decode text = .ok c) :
    ofText text = .ok c' ↔ c.Usable ∧ c' = c := by
  simp only [ofText, h, Usable, ← validate_eq_ok_iff]
  cases c.validate with
  | error cause => exact ⟨nofun, fun ⟨hvalid, _⟩ => nomatch hvalid⟩
  | ok _ => exact ⟨fun heq => ⟨rfl, (Except.ok.inj heq).symm⟩, fun ⟨_, heq⟩ => heq ▸ rfl⟩

/-- With another address a configuration can be used as before, unless that is empty. -/
theorem usable_withUrl_iff {c : Config} {url : Option String} (h : c.apiUrl ≠ "") :
    (c.withUrl url).Usable ↔ c.Usable ∧ url ≠ some "" := by
  cases url <;> simp [Usable, withUrl, h]
  tauto

end Config

/-! ## Settings -/

namespace CommandLine

section

variable {read : String → Option ByteArray} {general : General} {path text : String}
  (hfile : general.configFile = some path) (htext : read path = some text.toUTF8)
include hfile htext

theorem settings_of_not_usable {c : Config} (hdecode : Config.decode text = .ok c) (h : ¬c.Usable) :
    settings read general = .error (.unusableFile path) := by
  cases hload : Config.ofText text with
  | ok c' => exact absurd ((Config.ofText_eq_ok_iff hdecode).mp hload).1 h
  | error cause =>
    simp only [settings, hfile, htext, Config.ofFile_toUTF8, hload]
    rfl

/-- The settings are those of the document with the address of the command line, if both the document alone and the
two together can be used. -/
theorem settings_eq_ok_iff {c c' : Config} (hdecode : Config.decode text = .ok c) : settings read general = .ok c' ↔
    c.Usable ∧ (c.withUrl general.apiUrl).Usable ∧ c' = c.withUrl general.apiUrl := by
  by_cases husable : c.Usable
  · have hload : Config.ofFile (read path) = .ok c := by
      rw [htext, Config.ofFile_toUTF8]
      exact (Config.ofText_eq_ok_iff hdecode).mpr ⟨husable, rfl⟩
    have hvalid : (c.withUrl general.apiUrl).validate = .ok () ↔ (c.withUrl general.apiUrl).Usable :=
      Config.validate_eq_ok_iff _
    cases hmerged : (c.withUrl general.apiUrl).validate with
    | error cause =>
      have hsettings : settings read general = .error (.invalid cause) := by
        simp [settings, hfile, hload, Except.mapError, Bind.bind, Except.bind, hmerged]
      have hunusable : ¬(c.withUrl general.apiUrl).Usable := by simp [← hvalid, hmerged]
      simp [hsettings, hunusable]
    | ok _ =>
      have hsettings : settings read general = .ok (c.withUrl general.apiUrl) := by
        simp [settings, hfile, hload, Except.mapError, Bind.bind, Except.bind, hmerged, Pure.pure, Except.pure]
      simp [hsettings, husable, hvalid.mp hmerged, eq_comm]
  · simp [settings_of_not_usable hfile htext hdecode husable, husable]

/-- The settings from a document and the command line: the defaults, overlaid by what the document has, overlaid by the
address of the command line, if that can be used. Only a document whose address is empty is refused for it although
there is another address. -/
theorem settings_of_document {o : Outline} {f : Config.Form} (hspells : Spells text o) (hwritten : Config.Written o f) :
    let merged : Config :=
      { apiUrl := general.apiUrl.getD (f.apiUrl.getD "http://localhost:8085")
        registryPerPage := f.registryPerPage.getD 100
        dataPerPage := f.dataPerPage.getD 1000
        aggregationPerPage := f.aggregationPerPage.getD 1000
        timeout := f.timeout.getD 60000
        authHeader := f.authHeader.getD "X-Auth-Token" }
    (f.apiUrl ≠ some "" → ∀ c, settings read general = .ok c ↔ merged.Usable ∧ c = merged) ∧
    (f.apiUrl = some "" → settings read general = .error (.unusableFile path)) ∧
    (((∃ c, settings read general = .ok c) ↔ merged.Usable) ↔ ¬(f.apiUrl = some "" ∧ merged.Usable)) := by
  intro merged
  have hmerged : f.config.withUrl general.apiUrl = merged := rfl
  have hdecode := Config.decode_of_written hspells hwritten
  have hempty : f.config.apiUrl = "" ↔ f.apiUrl = some "" := by
    cases hurl : f.apiUrl <;> simp [Config.Form.config, hurl]
  by_cases hurl : f.apiUrl = some ""
  · have hrefused : settings read general = .error (.unusableFile path) :=
      settings_of_not_usable hfile htext hdecode fun husable => husable.2.2.2 (hempty.mpr hurl)
    simp [hurl, hrefused]
  · have hsettings : ∀ c, settings read general = .ok c ↔ merged.Usable ∧ c = merged := by
      intro c
      rw [settings_eq_ok_iff hfile htext hdecode, ← hmerged, Config.usable_withUrl_iff (mt hempty.mp hurl)]
      tauto
    simp [hurl, hsettings]

end

/-- A document with an address that is empty. -/
def emptyUrlText : String := "\x7b\"api_url\": \"\"\x7d"

def emptyUrlOutline : Outline := .object [(some "api_url", .text (some ""))] true

/-- A document with a page size, and a member that is not known. -/
def pageSizeText : String := "\x7b\"k\": [], \"data_per_page\": 50\x7d"

def pageSizeOutline : Outline :=
  .object [(some "k", .array [] true), (some "data_per_page", .number ⟨false, ['5', '0'], none, none⟩)] true

theorem spells_emptyUrlText : Spells emptyUrlText emptyUrlOutline := Json.ofText_eq_iff.mp (by cbv)

theorem spells_pageSizeText : Spells pageSizeText pageSizeOutline := Json.ofText_eq_iff.mp (by cbv)

theorem written_emptyUrlOutline : Config.Written emptyUrlOutline { apiUrl := some "" } :=
  .object (.given ⟨"", rfl, rfl⟩) .missing .missing .missing .missing .missing (by decide)

theorem written_pageSizeOutline : Config.Written pageSizeOutline { dataPerPage := some 50 } :=
  .object .missing .missing (.given ⟨_, 50, rfl, by decide +kernel, rfl⟩) .missing .missing .missing (by decide)

/-- An address of the command line goes with the page size of a document, but not with an empty address. -/
theorem settings_of_document_elsewhere :
    settings (fun _ => some emptyUrlText.toUTF8) ⟨some "c.json", some "http://a", none⟩ =
        .error (.unusableFile "c.json") ∧
      settings (fun _ => some pageSizeText.toUTF8) ⟨some "c.json", some "http://a", none⟩ =
        .ok { apiUrl := "http://a", dataPerPage := 50 } :=
  ⟨(settings_of_document rfl rfl spells_emptyUrlText written_emptyUrlOutline).2.1 rfl,
    ((settings_of_document rfl rfl spells_pageSizeText written_pageSizeOutline).1 (by simp) _).mpr ⟨by decide, rfl⟩⟩

end CommandLine

end SeriesExport
