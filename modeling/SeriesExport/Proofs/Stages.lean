import SeriesExport.Proofs.Listing
import SeriesExport.Proofs.PageBounds

/-!
# When listings and fetches succeed

A dialogue is answered if every reply to it says what it is asked for and it is not aborted (`Dialogue.Answered`). A
fetch succeeds just if it is answered (`decided_fetch`), and a listing, which cannot be aborted, just if every reply
is a page (`Registry.listSources_eq_ok_iff`). Dialogues that are decided in this way can be put together
(`Dialogue.Decided.bind`).
-/

namespace SeriesExport

variable {σ α β γ : Type} {env : Environment σ}

namespace Dialogue

/-- Every reply says something, and the dialogue is not aborted. -/
def Answered (read? : Reply → Option γ) (env : Environment σ) (d : Dialogue (Result α)) (w : World σ) : Prop :=
  (∀ exchange ∈ d.exchanges env w, (read? exchange.2).isSome) ∧ (d.run env w).1 ≠ .error .aborted

/-- The dialogue succeeds just if it is answered. -/
def Decided (read? : Reply → Option γ) (env : Environment σ) (d : Dialogue (Result α)) (w : World σ) : Prop :=
  (∃ a, (d.run env w).1 = .ok a) ↔ d.Answered read? env w

namespace Decided

variable {read? : Reply → Option γ} {d : Dialogue (Result α)} {w : World σ}

theorem done (env : Environment σ) (a : α) (w : World σ) : Decided read? env (.done (.ok a)) w :=
  ⟨fun _ => ⟨nofun, nofun⟩, fun _ => ⟨a, rfl⟩⟩

/-- What follows a success is decided on its own. -/
theorem bind (hd : d.Decided read? env w) {f : Result α → Dialogue (Result β)}
    (herror : ∀ cause, f (.error cause) = .done (.error cause))
    (hok : ∀ a, (d.run env w).1 = .ok a → (f (.ok a)).Decided read? env (d.run env w).2) :
    (d.bind f).Decided read? env w := by
  unfold Decided Answered at *
  rw [run_bind, exchanges_bind]
  cases hresult : (d.run env w).1 with
  | error cause =>
    rw [hresult] at hd
    rw [herror]
    constructor
    · rintro ⟨b, hb⟩
      cases hb
    · rintro ⟨hread, hcause⟩
      have hread : ∀ exchange ∈ d.exchanges env w, (read? exchange.2).isSome := fun exchange hmem =>
        hread exchange (List.mem_append_left _ hmem)
      obtain ⟨a, ha⟩ := hd.mpr ⟨hread, fun heq => hcause (by rw [Except.error.inj heq]; rfl)⟩
      cases ha
  | ok a =>
    have hfront := (hd.mp ⟨a, hresult⟩).1
    rw [hok a hresult]
    exact ⟨fun h => ⟨List.forall_mem_append.mpr ⟨hfront, h.1⟩, h.2⟩,
      fun h => ⟨(List.forall_mem_append.mp h.1).2, h.2⟩⟩

end Decided

end Dialogue

/-! ## Listings -/

namespace Registry

variable {config : Config}

/-- A listing fails just if a reply is no page. -/
theorem Listed.ok_iff {token : Option String} {p : ℕ} {loaded : List DataSource} {exchanges : List (Request × Reply)}
    {result : Result (List DataSource)} (h : Listed config token p loaded exchanges result) :
    (∃ sources, result = .ok sources) ↔ ∀ exchange ∈ exchanges, exchange.2.registryPage?.isSome := by
  induction h with
  | failed cause hpage => simp [hpage]
  | empty hpage _ => simp [hpage]
  | last hpage _ _ => simp [hpage]
  | more hpage _ _ ih => simp [hpage, ih]

theorem listSources_eq_ok_iff (hconfig : config.validate = .ok ()) (env : Environment σ) (w : World σ) :
    (∃ sources, ((listSources config).run env w).1 = .ok sources) ↔
      ∀ exchange ∈ (listSources config).exchanges env w, exchange.2.registryPage?.isSome :=
  (listed_listSources env hconfig w).ok_iff

end Registry

/-! ## Fetches -/

theorem decided_fetchTasks (env : Environment σ) {setting : FetchSetting}
    (hsize : ∀ entity, 0 < pageSize setting.config entity) (all : ℕ) :
    ∀ (tasks : List FetchTask) (store : RowStore) (w : World σ),
      (fetchTasks setting all tasks store).Decided Reply.page? env w
  | [], store, w => .done env store (w.report env (.main (doneFraction 0 all)))
  | task :: waiting, store, w => by
    let started := w.report env (.main (doneFraction (waiting.length + 1) all))
    have hpages : Dialogue.Decided Reply.page? env _ started :=
      (TaskRun.paged_fetchPages env (TaskRun.at_start setting task) (hsize task.entity) started).ok_iff
    rw [fetchTasks_cons]
    exact hpages.bind (fun _ => rfl) fun rows _ =>
      decided_fetchTasks env hsize all waiting (store.commit task.entity rows) _

/-- A fetch succeeds just if every page of every task comes and it is not aborted. -/
theorem decided_fetch {config : Config} (hconfig : config.validate = .ok ()) (job : ExportJob) (tasks : List FetchTask)
    (env : Environment σ) (w : World σ) : (fetch config job tasks).Decided Reply.page? env w := by
  rw [fetch, hconfig]
  exact decided_fetchTasks env (pageSize_pos hconfig) tasks.length tasks {} w

end SeriesExport
