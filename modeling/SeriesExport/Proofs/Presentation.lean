import SeriesExport.Proofs.Fetching
import SeriesExport.Proofs.PageTexts
import SeriesExport.Proofs.Verdicts

/-!
# Only what a page says counts

Two replies are alike if they are the same, or are successes with texts of pages that have the same total and the same
records (`Reply.Alike`). A dialogue is `Indifferent` if it goes on in the same way after replies that are alike. Held
with servers whose replies are alike, it has one result (`Dialogue.Indifferent.run_alike`). A task is indifferent
(`TaskRun.indifferent_fetchPages`).
-/

namespace SeriesExport

open Json (Outline Spells)

variable {σ τ α β : Type}

/-! ## Alike replies -/

/-- The replies are the same, or they are pages of the same total and the same records. -/
inductive Reply.Alike : Reply → Reply → Prop
  | same (reply : Reply) : Alike reply reply
  | pages {response response' : Response} {o o' : Outline} {page page' : Page} :
      (200 ≤ response.status.toNat ∧ response.status.toNat < 300) →
      (200 ≤ response'.status.toNat ∧ response'.status.toNat < 300) →
      Spells response.body o → Spells response'.body o' →
      Page.Written Page.recordRoom o page → Page.Written Page.recordRoom o' page' → page.total = page'.total →
      page.records = page'.records → Alike (.answered response) (.answered response')

/-- The events are the same but for replies that are alike. -/
inductive Event.Alike : Event → Event → Prop
  | same (e : Event) : Alike e e
  | received {reply reply' : Reply} : reply.Alike reply' → Alike (.received reply) (.received reply')

/-- Servers whose states correspond, and that give replies which are alike. The abort handle is used at the same
times. -/
structure Environment.Alike (S : σ → τ → Prop) (env : Environment σ) (env' : Environment τ) : Prop where
  answer {s : σ} {t : τ} (request : Request) : S s t →
    (env.answer s request).1.Alike (env'.answer t request).1 ∧ S (env.answer s request).2 (env'.answer t request).2
  aborts {history history' : List Event} : List.Forall₂ Event.Alike history history' →
    env.aborts history = env'.aborts history'

/-- Nothing but the layout of replies tells the worlds apart. -/
structure World.Alike (S : σ → τ → Prop) (w : World σ) (v : World τ) : Prop where
  server : S w.server v.server
  session : w.session = v.session
  progress : w.progress = v.progress
  cancelled : w.cancelled = v.cancelled
  trace : List.Forall₂ Event.Alike w.trace v.trace

/-! ## Indifferent dialogues -/

/-- Replies that are alike lead to the same. -/
inductive Dialogue.Indifferent : Dialogue α → Prop
  | done (a : α) : Indifferent (.done a)
  | token {next : Option String → Dialogue α} : (∀ token, Indifferent (next token)) → Indifferent (.token next)
  | refuse {next : Dialogue α} : Indifferent next → Indifferent (.refuse next)
  | ask {request : Request} {next : Reply → Dialogue α} :
      (∀ reply reply', reply.Alike reply' → next reply = next reply') → (∀ reply, Indifferent (next reply)) →
      Indifferent (.ask request next)
  | report {change : Progress.Change} {next : Dialogue α} : Indifferent next → Indifferent (.report change next)
  | aborted {next : Bool → Dialogue α} : (∀ b, Indifferent (next b)) → Indifferent (.aborted next)

namespace Dialogue.Indifferent

theorem bind {d : Dialogue α} {f : α → Dialogue β} (h : d.Indifferent) (hf : ∀ a, (f a).Indifferent) :
    (d.bind f).Indifferent := by
  induction h with
  | done a => exact hf a
  | token _ ih => exact .token ih
  | refuse _ ih => exact .refuse ih
  | ask hsame _ ih => exact .ask (fun reply reply' h => congrArg (Dialogue.bind · f) (hsame reply reply' h)) ih
  | report _ ih => exact .report ih
  | aborted _ ih => exact .aborted ih

end Dialogue.Indifferent

section

variable {S : σ → τ → Prop} {env : Environment σ} {env' : Environment τ} {w : World σ} {v : World τ}

theorem World.Alike.record (henv : env.Alike S env') (h : w.Alike S v) {e e' : Event} (he : e.Alike e') :
    (w.record env e).Alike S (v.record env' e') := by
  have htrace : List.Forall₂ Event.Alike (w.trace ++ [e]) (v.trace ++ [e']) :=
    List.rel_append h.trace (.cons he .nil)
  exact ⟨h.server, h.session, h.progress, by simp [h.cancelled, henv.aborts htrace], htrace⟩

theorem World.Alike.exchange (henv : env.Alike S env') (h : w.Alike S v) (request : Request) :
    (w.exchange env request).1.Alike (v.exchange env' request).1 ∧
      (w.exchange env request).2.Alike S (v.exchange env' request).2 := by
  obtain ⟨hreply, hserver⟩ := henv.answer request h.server
  have hsent := h.record henv (.same (.sent request))
  have hserved : World.Alike S { w.record env (.sent request) with server := (env.answer w.server request).2 }
      { v.record env' (.sent request) with server := (env'.answer v.server request).2 } :=
    ⟨hserver, hsent.session, hsent.progress, hsent.cancelled, hsent.trace⟩
  exact ⟨hreply, hserved.record henv (.received hreply)⟩

theorem World.Alike.report (henv : env.Alike S env') (h : w.Alike S v) (change : Progress.Change) :
    (w.report env change).Alike S (v.report env' change) := by
  have hprogress : w.progress.apply change = v.progress.apply change := by rw [h.progress]
  have hreported : World.Alike S { w with progress := w.progress.apply change }
      { v with progress := v.progress.apply change } := ⟨h.server, h.session, hprogress, h.cancelled, h.trace⟩
  exact hreported.record henv (hprogress ▸ .same _)

/-- Servers whose replies are alike lead an indifferent dialogue to one result. -/
theorem Dialogue.Indifferent.run_alike (henv : env.Alike S env') {d : Dialogue α} (hd : d.Indifferent)
    (h : w.Alike S v) : (d.run env w).1 = (d.run env' v).1 ∧ (d.run env w).2.Alike S (d.run env' v).2 := by
  induction hd generalizing w v with
  | done a => exact ⟨rfl, h⟩
  | @token next _ ih =>
    rw [Dialogue.run_token, Dialogue.run_token, ← h.session]
    exact ih w.session.token (h.record henv (.same .tokenAsked))
  | refuse _ ih => exact ih ⟨h.server, congrArg Session.refuse h.session, h.progress, h.cancelled, h.trace⟩
  | @ask request next hsame _ ih =>
    obtain ⟨hreply, hworld⟩ := h.exchange henv request
    rw [Dialogue.run_ask, Dialogue.run_ask, hsame _ _ hreply]
    exact ih (v.exchange env' request).1 hworld
  | @report change next _ ih =>
    rw [Dialogue.run_report, Dialogue.run_report]
    exact ih (h.report henv change)
  | @aborted next _ ih =>
    rw [Dialogue.run, Dialogue.run, ← h.cancelled]
    exact ih w.cancelled h

end

/-! ## Tasks -/

namespace TaskRun

section

variable (setting : FetchSetting) (run : TaskRun)

theorem acceptPage_congr {page page' : Page} (htotal : page.total = page'.total)
    (hrecords : page.records = page'.records) : run.acceptPage setting page = run.acceptPage setting page' := by
  have hrows : run.rowsWith setting page = run.rowsWith setting page' := by
    rw [rowsWith, rowsWith, pageRows, pageRows, htotal, hrecords]
  rw [acceptPage, acceptPage, htotal, hrows]

/-- After replies that are alike the run goes on in the same way. -/
theorem settle_receive_congr (request : Request) {reply reply' : Reply} (h : reply.Alike reply') :
    (Client.settle request reply).bind (run.receive setting) =
      (Client.settle request reply').bind (run.receive setting) := by
  cases h with
  | same => rfl
  | @pages response response' o o' page page' hsuccess hsuccess' hbody hbody' hpage hpage' htotal hrecords =>
    have hdecode := Page.decode_of_written hbody hpage
    have hdecode' := Page.decode_of_written hbody' hpage'
    have hread (r : Response) (p : Page) (hs : r.isSuccess = true) (hd : Page.decode r.body = .ok p) :
        (Client.settle request (.answered r)).bind (run.receive setting) =
          .aborted fun aborted => if aborted then .done run.abort else run.acceptPage setting p := by
      rw [Client.settle, if_neg (by rw [Reply.isRefusal_of_isSuccess hs]; decide), Client.verdict, if_pos hs]
      refine congrArg Dialogue.aborted (funext fun b => ?_)
      cases b with
      | true => rfl
      | false =>
        dsimp only
        rw [hd, if_neg Bool.false_ne_true]
    rw [hread response page (Response.isSuccess_iff.mpr hsuccess) hdecode,
      hread response' page' (Response.isSuccess_iff.mpr hsuccess') hdecode',
      acceptPage_congr setting run htotal hrecords]

theorem indifferent_acceptPage (page : Page) : (run.acceptPage setting page).Indifferent := by
  refine .report ?_
  dsimp only [Dialogue.bind]
  split <;> exact .done _

theorem indifferent_receive : ∀ result, (run.receive setting result).Indifferent
  | .error _ => .done _
  | .ok body => .aborted fun b => by
    cases b with
    | true => exact .done _
    | false =>
      dsimp only
      split
      · exact .done _
      · exact indifferent_acceptPage setting run _

theorem indifferent_settle (request : Request) (reply : Reply) : (Client.settle request reply).Indifferent := by
  unfold Client.settle
  split
  · exact .refuse (.done _)
  · exact .done _

theorem indifferent_fetchPage : (run.fetchPage setting).Indifferent := by
  rw [fetchPage_eq]
  refine .aborted fun b => ?_
  cases b with
  | true => exact .done _
  | false =>
    show Dialogue.Indifferent ((Client.get _ _ _).bind _)
    rw [Client.get_eq]
    refine .token fun token => .ask (fun reply reply' h => settle_receive_congr setting run _ h) fun reply => ?_
    exact (indifferent_settle _ reply).bind (indifferent_receive setting run)

end

/-- What a task comes to depends on the totals and the records of its pages alone. -/
theorem indifferent_fetchPages (setting : FetchSetting) (run : TaskRun) : (run.fetchPages setting).Indifferent := by
  rw [fetchPages_eq]
  refine (indifferent_fetchPage setting run).bind fun outcome => ?_
  cases outcome with
  | next later advanced => exact indifferent_fetchPages setting later
  | done pages total rows => exact .done _
  | failed page cause => exact .done _
  | aborted page discarded => exact .done _
termination_by UInt64.size - run.cursor.page.toNat
decreasing_by
  have := later.cursor.page.toNat_lt_size
  have := UInt64.lt_iff_toNat_lt.mp advanced
  omega

end TaskRun

/-! ## Texts of one page -/

/-- **How a page is laid out does not count.** Whatever the order of the members, the space between tokens and the other
members, a text of a page is decoded as the page, if no record has too many levels. There are no records if the part
that has them is left out, null, an empty object or an object with an empty list. So tasks come to the same result with
servers that give the same totals and the same records, however these are laid out. -/
theorem decode_and_fetchPages_of_written (S : σ → τ → Prop) :
    (∀ text o page, Spells text o → Page.Written Page.recordRoom o page → Page.decode text = .ok page) ∧
    (∀ (text : String) (members : List (Json.Key × Outline)) (l : Json.NumberLiteral) (total : UInt64),
      Spells text (.object members true) → Json.named "total" members = [.number l] →
      l.value? = some (.integer total.toNat) → Json.Skippable (Json.others Page.names members) →
      (Json.named "data" members = [] ∨ Json.named "data" members = [.null] ∨
        ∃ inside, Json.named "data" members = [.object inside true] ∧ Json.Skippable (Json.others ["e"] inside) ∧
          (Json.named "e" inside = [] ∨ Json.named "e" inside = [.array [] true])) →
      ∃ page, Page.decode text = .ok page ∧ page.total = total ∧ page.records = []) ∧
    ∀ (env : Environment σ) (env' : Environment τ) (w : World σ) (v : World τ), env.Alike S env' → w.Alike S v →
      ∀ (setting : FetchSetting) (run : TaskRun),
        ((run.fetchPages setting).run env w).1 = ((run.fetchPages setting).run env' v).1 :=
  ⟨fun _ _ _ htext h => Page.decode_of_written htext h,
    fun _ _ _ _ htext htotal hvalue hothers hdata => Page.records_of_data htext htotal hvalue hothers hdata,
    fun _ _ _ _ henv hworld setting run => ((run.indifferent_fetchPages setting).run_alike henv hworld).1⟩

/-- A page, without space and with nothing else in it. -/
def plainText : String := "\x7b\"total\":1,\"data\":\x7b\"e\":[\x7b\"n\":\"x\"\x7d]\x7d\x7d"

/-- The page in another order, with space and other members. -/
def spacedText : String :=
  "\x7b \"k\":1e999, \"data\" : \x7b\"e\":[ \x7b\"n\":\"\\u0078\"\x7d ],\"l\":[\"\\ud800\"]\x7d,\n\"total\":1\x7d"

def onePage : Page := ⟨1, some [[("n", .string "x")]]⟩

theorem records_onePage : Page.RecordsWritten Page.recordRoom
    (.array [.object [(some "n", .text (some "x"))] true] true) [[("n", .string "x")]] :=
  ⟨_, rfl, .cons ⟨.object (.cons (.string "x") .nil), by decide⟩ .nil⟩

def plainOutline : Outline :=
  .object [(some "total", .number ⟨false, ['1'], none, none⟩),
    (some "data", .object [(some "e", .array [.object [(some "n", .text (some "x"))] true] true)] true)] true

def spacedOutline : Outline :=
  .object [(some "k", .number ⟨false, ['1'], none, some (false, ['9', '9', '9'])⟩),
    (some "data", .object [(some "e", .array [.object [(some "n", .text (some "x"))] true] true),
      (some "l", .array [.text none] true)] true),
    (some "total", .number ⟨false, ['1'], none, none⟩)] true

theorem spells_plainText : Spells plainText plainOutline := Json.ofText_eq_iff.mp (by cbv)

theorem spells_spacedText : Spells spacedText spacedOutline := Json.ofText_eq_iff.mp (by cbv)

theorem written_plainOutline : Page.Written Page.recordRoom plainOutline onePage :=
  .object rfl (by decide +kernel) (.given (.object (.given records_onePage) nofun)) nofun

theorem written_spacedOutline : Page.Written Page.recordRoom spacedOutline onePage := by
  refine .object rfl (by decide +kernel) (.given (.object (.given records_onePage) ?_)) ?_
  · decide
  · decide

/-- A page in which the part for the records is an empty object. -/
def emptyText : String := "\x7b\"data\":\x7b\x7d,\"total\":5\x7d"

/-- A server that leaves space and sends other members, and one that does not. -/
theorem alike_plain_spaced :
    (Client.answering 200 plainText).Alike (fun _ _ => True) (Client.answering 200 spacedText) where
  answer _ _ := ⟨.pages status_ok status_ok spells_plainText spells_spacedText written_plainOutline
    written_spacedOutline rfl rfl, trivial⟩
  aborts _ := rfl

theorem spells_emptyText : Spells emptyText
    (.object [(some "data", .object [] true), (some "total", .number ⟨false, ['5'], none, none⟩)] true) :=
  Json.ofText_eq_iff.mp (by cbv)

theorem decode_and_fetchPages_spaced :
    let setting : FetchSetting := ⟨{}, {}, .epochSeconds⟩
    let run := TaskRun.start ⟨.source "A", ["n"]⟩ 1000
    Page.decode spacedText = .ok onePage ∧
      (∃ page, Page.decode emptyText = .ok page ∧ page.total = 5 ∧ page.records = []) ∧
      ((run.fetchPages setting).run (Client.answering 200 plainText) { server := () }).1 =
        ((run.fetchPages setting).run (Client.answering 200 spacedText) { server := () }).1 := by
  intro setting run
  obtain ⟨hdecode, hempty, hfetch⟩ := decode_and_fetchPages_of_written (fun (_ _ : Unit) => True)
  have hworld : World.Alike (fun (_ _ : Unit) => True) { server := () } { server := () } :=
    ⟨trivial, rfl, rfl, rfl, .nil⟩
  exact ⟨hdecode _ _ _ spells_spacedText written_spacedOutline,
    hempty _ _ _ 5 spells_emptyText rfl (by decide +kernel) (by decide) (.inr (.inr ⟨[], rfl, by decide, .inl rfl⟩)),
    hfetch _ _ _ _ alike_plain_spaced hworld setting run⟩

end SeriesExport
