import SeriesExport.Proofs.Commits
import SeriesExport.Proofs.Fetching

/-!
# Tasks do not influence each other

A server is stateless if its reply to a request follows from the path and the query (`Environment.Stateless`). Held with
such a server and without an abort, a dialogue is insulated if its result does not depend on what has been before
(`Dialogue.Insulated`). A call of the client is insulated (`Client.insulated_get`), and so is a task
(`TaskRun.insulated_fetchPages`): it has the result that it has alone (`aloneResult`).

So a fetch is its tasks, each of them alone, and the commits of their rows (`fetch_eq_ok_iff`). Nothing of a task
reaches another one but through a commit of the same entity, where the later rows stay (`fetch_of_stateless`).
-/

namespace SeriesExport

variable {σ α β : Type} {env : Environment σ}

/-- The reply to a request follows from its path and its query, whatever has been asked before. -/
def Environment.Stateless (env : Environment σ) : Prop :=
  ∀ (s s' : σ) (request request' : Request), request.path = request'.path → request.query = request'.query →
    (env.answer s request).1 = (env.answer s' request').1

/-! ## Insulated dialogues -/

namespace Dialogue

/-- As long as nobody uses the abort handle, it stays unused. -/
theorem cancelled_run (hquiet : env.Quiet) : ∀ (d : Dialogue α) {w : World σ}, w.cancelled = false →
    (d.run env w).2.cancelled = false
  | .done _, _, hw => hw
  | .token next, _, hw => cancelled_run hquiet (next _) (World.Moved.askToken hquiet hw).cancelled
  | .refuse next, w, hw => cancelled_run hquiet next (w := { w with session := w.session.refuse }) hw
  | .ask request next, _, hw => cancelled_run hquiet (next _) (World.Moved.exchange hquiet hw request).cancelled
  | .report change next, _, hw => cancelled_run hquiet next (World.Moved.report hquiet hw change).cancelled
  | .aborted next, w, hw => cancelled_run hquiet (next w.cancelled) hw

/-- The result does not depend on the world in which the dialogue is held, as long as it is not aborted. -/
def Insulated (env : Environment σ) (d : Dialogue α) : Prop :=
  ∀ w v : World σ, w.cancelled = false → v.cancelled = false → (d.run env w).1 = (d.run env v).1

namespace Insulated

theorem done (a : α) : (Dialogue.done a).Insulated env := fun _ _ _ _ => rfl

theorem report (hquiet : env.Quiet) (change : Progress.Change) {next : Dialogue α} (h : next.Insulated env) :
    (Dialogue.report change next).Insulated env := fun _ _ hw hv =>
  h _ _ (World.Moved.report hquiet hw change).cancelled (World.Moved.report hquiet hv change).cancelled

/-- Only what is done without an abort matters. -/
theorem aborted {next : Bool → Dialogue α} (h : (next false).Insulated env) :
    (Dialogue.aborted next).Insulated env := by
  intro w v hw hv
  rw [run_aborted env next hw, run_aborted env next hv]
  exact h w v hw hv

theorem bind (hquiet : env.Quiet) {d : Dialogue α} {f : α → Dialogue β} (hd : d.Insulated env)
    (hf : ∀ a, (f a).Insulated env) : (d.bind f).Insulated env := by
  intro w v hw hv
  rw [run_bind, run_bind, hd w v hw hv]
  exact hf _ _ _ (cancelled_run hquiet d hw) (cancelled_run hquiet d hv)

end Insulated

end Dialogue

/-- Neither the token nor the server's state shows in what a call comes to. -/
theorem Client.insulated_get (hstateless : env.Stateless) (config : Config) (path : String) (query : Query) :
    (get config path query).Insulated env := by
  intro w v _ _
  let asked := fun u : World σ => request config path query u.session.token
  have hreply : (w.call env (asked w)).1 = (v.call env (asked v)).1 :=
    hstateless w.server v.server (asked w) (asked v) rfl rfl
  have hverdict : ∀ reply, verdict (asked w) reply = verdict (asked v) reply := fun reply => by
    cases reply <;> rfl
  rw [run_get, run_get]
  exact (congrArg (verdict (asked w)) hreply).trans (hverdict _)

/-! ## One task -/

namespace TaskRun

section

variable (hquiet : env.Quiet) (setting : FetchSetting)

include hquiet

theorem insulated_acceptPage (run : TaskRun) (page : Page) : (run.acceptPage setting page).Insulated env := by
  refine .report hquiet _ ?_
  dsimp only [Dialogue.bind]
  split <;> exact .done _

theorem insulated_receive (run : TaskRun) : ∀ result, (run.receive setting result).Insulated env
  | .error _ => .done _
  | .ok body => .aborted (by
    dsimp only
    split
    · exact .done _
    · exact insulated_acceptPage hquiet setting run _)

theorem insulated_fetchPage (hstateless : env.Stateless) (run : TaskRun) : (run.fetchPage setting).Insulated env := by
  rw [fetchPage_eq]
  exact .aborted (.bind hquiet (Client.insulated_get hstateless _ _ _) (insulated_receive hquiet setting run))

/-- A task has the same result in all worlds, whatever page it is at. -/
theorem insulated_fetchPages (hstateless : env.Stateless) (run : TaskRun) : (run.fetchPages setting).Insulated env := by
  rw [fetchPages_eq]
  refine .bind hquiet (insulated_fetchPage hquiet setting hstateless run) fun outcome => ?_
  cases outcome with
  | next later advanced => exact insulated_fetchPages hstateless later
  | done pages total rows => exact .done _
  | failed page cause => exact .done _
  | aborted page discarded => exact .done _
termination_by UInt64.size - run.cursor.page.toNat
decreasing_by
  have := later.cursor.page.toNat_lt_size
  have := UInt64.lt_iff_toNat_lt.mp advanced
  omega

end

end TaskRun

/-- What comes of a task that is fetched alone. -/
def aloneResult (env : Environment σ) (setting : FetchSetting) (w : World σ) (task : FetchTask) : Result (List Row) :=
  (((TaskRun.start task (setting.config.perPage task.entity)).fetchPages setting).run env w).1

/-- The rows of a task that is fetched alone; none if it fails. -/
def aloneRows (env : Environment σ) (setting : FetchSetting) (w : World σ) (task : FetchTask) : List Row :=
  (aloneResult env setting w task).toOption.getD []

/-! ## The last task of an entity -/

/-- The last task of an entity. -/
def lastTask? (entity : Entity) (tasks : List FetchTask) : Option FetchTask :=
  (tasks.filter (·.entity = entity)).getLast?

theorem lastTask?_eq_find? (entity : Entity) (tasks : List FetchTask) :
    lastTask? entity tasks = tasks.reverse.find? (·.entity = entity) :=
  List.getLast?_filter

/-- The only task of an entity is its last one. -/
theorem lastTask?_of_mem {tasks : List FetchTask} {task : FetchTask} (hmem : task ∈ tasks)
    (honly : ∀ other ∈ tasks, other.entity = task.entity → other = task) :
    lastTask? task.entity tasks = some task := by
  rw [lastTask?_eq_find?]
  cases hlast : tasks.reverse.find? (·.entity = task.entity) with
  | none =>
    have hnone := List.find?_eq_none.mp hlast task (List.mem_reverse.mpr hmem)
    exact absurd (decide_eq_true rfl) hnone
  | some other =>
    have hother : other ∈ tasks := List.mem_reverse.mp (List.mem_of_find?_eq_some hlast)
    have hentity : other.entity = task.entity := by simpa using List.find?_some hlast
    rw [honly other hother hentity]

theorem lastTask?_eq_none {entity : Entity} {tasks : List FetchTask} (h : ∀ task ∈ tasks, task.entity ≠ entity) :
    lastTask? entity tasks = none := by
  rw [lastTask?_eq_find?, List.find?_eq_none]
  intro task hmem
  simpa using h task (List.mem_reverse.mp hmem)

/-- Where no entity has two tasks, neither order nor repetition matters. -/
theorem lastTask?_congr {tasks tasks' : List FetchTask} (hmem : ∀ task, task ∈ tasks ↔ task ∈ tasks')
    (honly : ∀ task ∈ tasks, ∀ other ∈ tasks, other.entity = task.entity → other = task) (entity : Entity) :
    lastTask? entity tasks = lastTask? entity tasks' := by
  by_cases h : ∃ task ∈ tasks, task.entity = entity
  · obtain ⟨task, htask, rfl⟩ := h
    have honly' : ∀ other ∈ tasks', other.entity = task.entity → other = task := fun other hother =>
      honly task htask other ((hmem other).mpr hother)
    rw [lastTask?_of_mem htask (honly task htask), lastTask?_of_mem ((hmem task).mp htask) honly']
  · have hnone : ∀ task ∈ tasks, task.entity ≠ entity := fun task htask heq => h ⟨task, htask, heq⟩
    rw [lastTask?_eq_none hnone, lastTask?_eq_none fun task htask => hnone task ((hmem task).mpr htask)]

/-- Rows that are committed for each task stay for the last task of an entity. -/
theorem lookup_reverse_commits (rows : FetchTask → List Row) (entity : Entity) (tasks : List FetchTask) :
    (tasks.map fun task => (task.entity, rows task)).reverse.lookup entity = (lastTask? entity tasks).map rows := by
  rw [lastTask?_eq_find?, ← List.map_reverse]
  induction tasks.reverse with
  | nil => rfl
  | cons task rest ih =>
    rw [List.map_cons, List.lookup_cons, List.find?_cons, ih]
    by_cases h : task.entity = entity
    · subst h
      simp
    · rw [beq_false_of_ne (Ne.symm h), decide_eq_false h]

/-! ## All tasks -/

section

variable {setting : FetchSetting}

/-- A fetch is its tasks, each of them alone, and the commits of their rows. -/
theorem fetchTasks_eq_ok_iff (hstateless : env.Stateless) (hquiet : env.Quiet) (all : ℕ) {v : World σ}
    (hv : v.cancelled = false) {fetched : RowStore} : ∀ (tasks : List FetchTask) (store : RowStore) {w : World σ},
      w.cancelled = false → (((fetchTasks setting all tasks store).run env w).1 = .ok fetched ↔
        (∀ task ∈ tasks, ∃ rows, aloneResult env setting v task = .ok rows) ∧
          fetched = store.commitAll (tasks.map fun task => (task.entity, aloneRows env setting v task)))
  | [], store, w, _ => by
    constructor
    · intro h
      exact ⟨nofun, (Except.ok.inj h).symm⟩
    · rintro ⟨-, rfl⟩
      rfl
  | task :: waiting, store, w, hw => by
    have hstart := World.Moved.report hquiet hw (.main (doneFraction (waiting.length + 1) all))
    have hinsulated := TaskRun.insulated_fetchPages hquiet setting hstateless
      (TaskRun.start task (setting.config.perPage task.entity))
    have hrest := Dialogue.cancelled_run hquiet
      ((TaskRun.start task (setting.config.perPage task.entity)).fetchPages setting) hstart.cancelled
    rw [fetchTasks_cons, Dialogue.run_report, Dialogue.run_bind, hinsulated _ v hstart.cancelled hv]
    change (((commitRows setting all task waiting store (aloneResult env setting v task)).run env _).1 = _ ↔ _)
    rw [List.forall_mem_cons]
    cases hresult : aloneResult env setting v task with
    | error cause =>
      constructor
      · intro h
        cases h
      · rintro ⟨⟨⟨rows, hrows⟩, -⟩, -⟩
        cases hrows
    | ok rows =>
      have hrows : aloneRows env setting v task = rows := by rw [aloneRows, hresult]; rfl
      rw [List.map_cons, hrows]
      refine (fetchTasks_eq_ok_iff hstateless hquiet all hv waiting (store.commit task.entity rows) hrest).trans ?_
      refine and_congr_left fun _ => ?_
      exact ⟨fun h => ⟨⟨rows, rfl⟩, h⟩, fun h => h.2⟩

end

section

variable {config : Config} (hconfig : config.validate = .ok ()) (job : ExportJob) (hstateless : env.Stateless)
  (hquiet : env.Quiet) {v : World σ} (hv : v.cancelled = false)

include hconfig hstateless hquiet hv

theorem fetch_eq_ok_iff {tasks : List FetchTask} {w : World σ} (hw : w.cancelled = false) {fetched : RowStore} :
    ((fetch config job tasks).run env w).1 = .ok fetched ↔
      (∀ task ∈ tasks, ∃ rows, aloneResult env ⟨config, job.range, job.timeFormat⟩ v task = .ok rows) ∧
        fetched = RowStore.commitAll {} (tasks.map fun task =>
          (task.entity, aloneRows env ⟨config, job.range, job.timeFormat⟩ v task)) := by
  rw [fetch, hconfig]
  exact fetchTasks_eq_ok_iff hstateless hquiet tasks.length hv tasks {} hw

/-- A fetch succeeds if all its tasks do, each of them alone. -/
theorem exists_fetch_eq_ok_iff {tasks : List FetchTask} {w : World σ} (hw : w.cancelled = false) :
    (∃ fetched, ((fetch config job tasks).run env w).1 = .ok fetched) ↔
      ∀ task ∈ tasks, ∃ rows, aloneResult env ⟨config, job.range, job.timeFormat⟩ v task = .ok rows := by
  constructor
  · rintro ⟨fetched, h⟩
    exact ((fetch_eq_ok_iff hconfig job hstateless hquiet hv hw).mp h).1
  · intro h
    exact ⟨_, (fetch_eq_ok_iff hconfig job hstateless hquiet hv hw).mpr ⟨h, rfl⟩⟩

/-- The entities of a fetch, in the order of their first tasks, and the rows of each, those of its last task. -/
theorem view_of_fetch {tasks : List FetchTask} {w : World σ} (hw : w.cancelled = false) {fetched : RowStore}
    (h : ((fetch config job tasks).run env w).1 = .ok fetched) :
    fetched.entities = (tasks.map FetchTask.entity).eraseDups ∧ ∀ entity, fetched.get? entity =
      (lastTask? entity tasks).map (aloneRows env ⟨config, job.range, job.timeFormat⟩ v) := by
  obtain ⟨-, rfl⟩ := (fetch_eq_ok_iff hconfig job hstateless hquiet hv hw).mp h
  constructor
  · rw [RowStore.entities_commitAll, List.map_map]
    rfl
  · intro entity
    rw [RowStore.get?_commitAll, lookup_reverse_commits]

end

/-- **Tasks do not influence each other.** With a stateless server and without an abort, tasks of different entities
are fetched with the same success and the same rows in any order, and the entities stand in the order of the tasks. A
task that comes again changes nothing but which task of its entity is the last; if this is the same without the
repetitions, so are the rows. -/
theorem fetch_of_stateless {config : Config} (hconfig : config.validate = .ok ()) (job : ExportJob)
    (hstateless : env.Stateless) (hquiet : env.Quiet) {w v : World σ} (hw : w.cancelled = false)
    (hv : v.cancelled = false) :
    let fetched (u : World σ) (tasks : List FetchTask) := ((fetch config job tasks).run env u).1
    (∀ tasks tasks' : List FetchTask, tasks.Perm tasks' → (tasks.map FetchTask.entity).Nodup →
      ((∃ store, fetched w tasks = .ok store) ↔ ∃ store, fetched v tasks' = .ok store) ∧
        ∀ store store', fetched w tasks = .ok store → fetched v tasks' = .ok store' →
          (∀ entity, store.get? entity = store'.get? entity) ∧
            store.entities = tasks.map FetchTask.entity ∧ store'.entities = tasks'.map FetchTask.entity) ∧
      ∀ tasks : List FetchTask,
        ((∃ store, fetched w tasks = .ok store) ↔ ∃ store, fetched v tasks.eraseDups = .ok store) ∧
          ∀ store store', fetched w tasks = .ok store → fetched v tasks.eraseDups = .ok store' →
            store.entities = store'.entities ∧
              (∀ entity, lastTask? entity tasks = lastTask? entity tasks.eraseDups →
                store.get? entity = store'.get? entity) ∧
              ((∀ entity, lastTask? entity tasks = lastTask? entity tasks.eraseDups) → store = store') := by
  intro fetched
  have hsuccess : ∀ tasks tasks' : List FetchTask, (∀ task, task ∈ tasks ↔ task ∈ tasks') →
      ((∃ store, fetched w tasks = .ok store) ↔ ∃ store, fetched v tasks' = .ok store) := by
    intro tasks tasks' hmem
    rw [exists_fetch_eq_ok_iff hconfig job hstateless hquiet hv hw,
      exists_fetch_eq_ok_iff hconfig job hstateless hquiet hv hv]
    simp only [hmem]
  constructor
  · intro tasks tasks' hperm hnodup
    refine ⟨hsuccess tasks tasks' fun task => hperm.mem_iff, fun store store' hstore hstore' => ?_⟩
    obtain ⟨hentities, hrows⟩ := view_of_fetch hconfig job hstateless hquiet hv hw hstore
    obtain ⟨hentities', hrows'⟩ := view_of_fetch hconfig job hstateless hquiet hv hv hstore'
    have honly : ∀ task ∈ tasks, ∀ other ∈ tasks, other.entity = task.entity → other = task :=
      fun task htask other hother heq => List.inj_on_of_nodup_map hnodup hother htask heq
    refine ⟨fun entity => ?_, ?_, ?_⟩
    · rw [hrows, hrows', lastTask?_congr (fun task => hperm.mem_iff) honly]
    · rw [hentities, eraseDups_of_nodup hnodup]
    · rw [hentities', eraseDups_of_nodup ((hperm.map FetchTask.entity).nodup_iff.mp hnodup)]
  · intro tasks
    refine ⟨hsuccess tasks tasks.eraseDups fun task => List.mem_eraseDups.symm, fun store store' hstore hstore' => ?_⟩
    obtain ⟨hentities, hrows⟩ := view_of_fetch hconfig job hstateless hquiet hv hw hstore
    obtain ⟨hentities', hrows'⟩ := view_of_fetch hconfig job hstateless hquiet hv hv hstore'
    have hsame : store.entities = store'.entities := by rw [hentities, hentities', eraseDups_map_eraseDups]
    have hview : ∀ entity, lastTask? entity tasks = lastTask? entity tasks.eraseDups →
        store.get? entity = store'.get? entity := fun entity hlast => by rw [hrows, hrows', hlast]
    refine ⟨hsame, hview, fun hlast => RowStore.eq_of_get? ?_ hsame fun entity => hview entity (hlast entity)⟩
    rw [hentities]
    exact nodup_eraseDups _

/-! ### Two columns of one record -/

/-- A server with one record, whatever it is asked for. -/
def twoColumnServer : Environment Unit where
  answer _ _ :=
    (.answered ⟨200, "\x7b\"total\":1,\"data\":\x7b\"e\":[\x7b\"n\":\"x\",\"v\":\"y\"\x7d]\x7d\x7d"⟩, ())
  aborts _ := false

def twoColumns : Page := ⟨1, some [[("n", .string "x"), ("v", .string "y")]]⟩

def columnsJob : ExportJob := ⟨.raw ["a", "b"] ["n"], {}, .singleFile, .epochSeconds⟩

/-- One column of a source. -/
def columnTask (column : String × String) : FetchTask := ⟨.source column.1, [column.2]⟩

/-- The columns are fetched one after the other. -/
def fetchColumns (columns : List (String × String)) : Result RowStore :=
  ((fetch {} columnsJob (columns.map columnTask)).run twoColumnServer { server := () }).1

def columnRows (column : String × String) : List Row :=
  taskRows ⟨{}, columnsJob.range, columnsJob.timeFormat⟩ (columnTask column) [twoColumns]

theorem stateless_twoColumns : twoColumnServer.Stateless := fun _ _ _ _ _ _ => rfl

theorem aloneResult_twoColumns (column : String × String) :
    aloneResult twoColumnServer ⟨{}, columnsJob.range, columnsJob.timeFormat⟩ { server := () } (columnTask column) =
      .ok (columnRows column) := by
  have hpage : ∀ request, (twoColumnServer.answer () request).1.page? = some twoColumns := by
    intro request
    cbv
  have hlast : twoColumns.total.toNat ≤ 1 * pageSize {} (columnTask column).entity := by
    show 1 ≤ 1 * ({} : Config).dataPerPage.toNat
    decide
  obtain ⟨v, hrun, -⟩ := TaskRun.run_fetchPages_last (w := { server := () }) (fun _ => rfl) rfl
    (TaskRun.at_start ⟨{}, columnsJob.range, columnsJob.timeFormat⟩ (columnTask column)) (hpage _) hlast
  exact congrArg Prod.fst hrun

theorem fetchColumns_eq (columns : List (String × String)) : fetchColumns columns =
    .ok (RowStore.commitAll {} (columns.map fun column => (.source column.1, columnRows column))) := by
  have hcancelled : ({ server := () } : World Unit).cancelled = false := rfl
  refine (fetch_eq_ok_iff (by rfl) columnsJob stateless_twoColumns (fun _ => rfl) hcancelled hcancelled).mpr ⟨?_, ?_⟩
  · intro task htask
    obtain ⟨column, -, rfl⟩ := List.mem_map.mp htask
    exact ⟨_, aloneResult_twoColumns column⟩
  · rw [List.map_map]
    refine congrArg (RowStore.commitAll {}) (List.map_congr_left fun column _ => ?_)
    show _ = (Entity.source column.1, (aloneResult _ _ _ (columnTask column)).toOption.getD [])
    rw [aloneResult_twoColumns]
    rfl

/-- Two sources in both orders, and one of them again. -/
theorem fetch_of_stateless_twoColumns :
    let forward := [("a", "n"), ("b", "v")]
    let backward := [("b", "v"), ("a", "n")]
    (∃ store store', fetchColumns forward = .ok store ∧ fetchColumns backward = .ok store' ∧
      (∀ entity, store.get? entity = store'.get? entity) ∧
      store.entities = [.source "a", .source "b"] ∧ store'.entities = [.source "b", .source "a"]) ∧
      fetchColumns (forward ++ [("a", "n")]) = fetchColumns forward := by
  intro forward backward
  obtain ⟨hperm, hrepeated⟩ := fetch_of_stateless (by rfl : ({} : Config).validate = .ok ()) columnsJob
    stateless_twoColumns (fun _ => rfl) (rfl : ({ server := () } : World Unit).cancelled = false)
    (rfl : ({ server := () } : World Unit).cancelled = false)
  constructor
  · have hswap : (forward.map columnTask).Perm (backward.map columnTask) := .swap _ _ []
    obtain ⟨-, hsame⟩ := hperm _ _ hswap (by decide)
    exact ⟨_, _, fetchColumns_eq forward, fetchColumns_eq backward,
      hsame _ _ (fetchColumns_eq forward) (fetchColumns_eq backward)⟩
  · obtain ⟨-, hequal⟩ := hrepeated ((forward ++ [("a", "n")]).map columnTask)
    have hfirst : ((forward ++ [("a", "n")]).map columnTask).eraseDups = forward.map columnTask := by decide +kernel
    rw [hfirst] at hequal
    have hlast : ∀ entity, lastTask? entity ((forward ++ [("a", "n")]).map columnTask) =
        lastTask? entity (forward.map columnTask) := by
      refine lastTask?_congr (fun task => ?_) (by decide +kernel)
      rw [← hfirst, List.mem_eraseDups]
    have hstore := (hequal _ _ (fetchColumns_eq (forward ++ [("a", "n")])) (fetchColumns_eq forward)).2.2 hlast
    rw [fetchColumns_eq, fetchColumns_eq]
    exact congrArg Except.ok hstore

/-- Of two columns of one source the last one stays, so a repetition can bring back the rows of the first. -/
theorem fetchColumns_again :
    let columns := [("a", "n"), ("a", "v"), ("a", "n")]
    ({} : Config).validate = .ok () ∧ twoColumnServer.Stateless ∧ twoColumnServer.Quiet ∧
      (columns.map columnTask).eraseDups = [("a", "n"), ("a", "v")].map columnTask ∧
      fetchColumns columns = .ok ⟨[(.source "a", [[.string "x"]])]⟩ ∧
      fetchColumns [("a", "n"), ("a", "v")] = .ok ⟨[(.source "a", [[.string "y"]])]⟩ := by
  intro columns
  refine ⟨rfl, stateless_twoColumns, fun _ => rfl, by decide +kernel, ?_, ?_⟩
  · rw [fetchColumns_eq]
    rfl
  · rw [fetchColumns_eq]
    rfl

end SeriesExport
