import SeriesExport.Proofs.Commits
import SeriesExport.Proofs.Fetching

/-!
# A fetch is complete

A server keeps a list of records for each path and gives the part of it that is on the page it is asked for, with the
length of the list as total (`Environment.Keeps`). Then the pages that a fetch asks for cut the list at the right
places: it gets every record once and in its order (`serves_of_keeps`, `fetch_of_keeps`). The number of the pages is
`pageCount`.
-/

namespace SeriesExport

variable {σ : Type} {env : Environment σ}

/-- How many pages of `k` records there are of `n` records. Even an empty list has a page. -/
def pageCount (n k : ℕ) : ℕ := max 1 ((n + k - 1) / k)

theorem one_le_pageCount (n k : ℕ) : 1 ≤ pageCount n k := Nat.le_max_left _ _

theorem le_pageCount_mul (n : ℕ) {k : ℕ} (hk : 0 < k) : n ≤ pageCount n k * k := by
  have hdiv : n + k - 1 < ((n + k - 1) / k + 1) * k := Nat.lt_mul_of_div_lt (Nat.lt_succ_self _) hk
  have hmax : (n + k - 1) / k * k ≤ pageCount n k * k := Nat.mul_le_mul_right k (Nat.le_max_right _ _)
  rw [Nat.succ_mul] at hdiv
  omega

theorem mul_lt_of_lt_pageCount {n k p : ℕ} (hk : 0 < k) (hp : 1 ≤ p) (h : p < pageCount n k) : p * k < n := by
  have hdiv : p + 1 ≤ (n + k - 1) / k := by
    unfold pageCount at h
    omega
  have := (Nat.le_div_iff_mul_le hk).mp hdiv
  rw [Nat.succ_mul] at this
  omega

/-! ## Pages of a list -/

/-- The server keeps a list of records for the path of the entity. Page `p` has the records after the first
`(p - 1) * k`, at most `k` of them, where `k` is the size of a page. -/
def Environment.Keeps (env : Environment σ) (setting : FetchSetting) (token : Option String)
    (holdings : String → List Record) (entity : Entity) : Prop :=
  ∀ (s : σ) (p : ℕ), 1 ≤ p → ∃ page, (env.answer s (pageRequest setting token entity p)).1.page? = some page ∧
    page.total.toNat = (holdings entity.path).length ∧
    page.records = ((holdings entity.path).drop ((p - 1) * pageSize setting.config entity)).take
      (pageSize setting.config entity)

/-- The rows of all records of a task's path, in their order. -/
def allRows (setting : FetchSetting) (holdings : String → List Record) (task : FetchTask) : List Row :=
  (holdings task.entity.path).map (projectRecord task.attributes task.entity.timeKeys setting.timeFormat)

theorem taskRows_singleton (setting : FetchSetting) (task : FetchTask) {page : Page}
    (h : page.total = 0 → page.records = []) : taskRows setting task [page] =
      page.records.map (projectRecord task.attributes task.entity.timeKeys setting.timeFormat) := by
  unfold taskRows
  by_cases h0 : page.total = 0
  · simp [h0, h h0]
  · simp [h0]

section

variable {setting : FetchSetting} {token : Option String} {holdings : String → List Record} {task : FetchTask}

/-- The pages from page `p` on to page `p + n`, the last one, have all records from page `p` on. -/
theorem serves_from_of_keeps (hkeeps : env.Keeps setting token holdings task.entity) : ∀ (n p : ℕ) (s : σ), 1 ≤ p →
    (∀ q, p ≤ q → q < p + n → q * pageSize setting.config task.entity < (holdings task.entity.path).length) →
    (holdings task.entity.path).length ≤ (p + n) * pageSize setting.config task.entity →
      ∃ pages s', pages.length = n + 1 ∧ PagesFrom (pageSize setting.config task.entity) p pages ∧
        env.Serves s ((List.range' p (n + 1)).map (pageRequest setting token task.entity)) pages s' ∧
        taskRows setting task pages =
          (allRows setting holdings task).drop ((p - 1) * pageSize setting.config task.entity)
  | 0, p, s, hp, _, hlast => by
    obtain ⟨page, hpage, htotal, hrecords⟩ := hkeeps s p hp
    refine ⟨[page], _, rfl, .last (htotal ▸ hlast), .cons hpage (.nil _), ?_⟩
    have hempty : page.total = 0 → page.records = [] := fun h0 => by
      have hnil : holdings task.entity.path = [] := List.eq_nil_of_length_eq_zero (by rw [← htotal, h0]; rfl)
      rw [hrecords, hnil, List.drop_nil, List.take_nil]
    have hrest : ((holdings task.entity.path).drop ((p - 1) * pageSize setting.config task.entity)).length ≤
        pageSize setting.config task.entity := by
      rw [Nat.add_zero] at hlast
      rw [List.length_drop, Nat.sub_mul, Nat.one_mul]
      omega
    rw [taskRows_singleton setting task hempty, hrecords, List.take_of_length_le hrest, List.map_drop, allRows]
  | n + 1, p, s, hp, hmore, hlast => by
    obtain ⟨page, hpage, htotal, hrecords⟩ := hkeeps s p hp
    have hthis := hmore p (Nat.le_refl p) (by omega)
    obtain ⟨pages, s', hlength, hpages, hserves, hrows⟩ := serves_from_of_keeps hkeeps n (p + 1)
      (env.answer s (pageRequest setting token task.entity p)).2 (Nat.le_add_left 1 p)
      (fun q h1 h2 => hmore q (by omega) (by omega)) (by rw [Nat.add_assoc, Nat.add_comm 1 n]; exact hlast)
    refine ⟨page :: pages, s', by rw [List.length_cons, hlength], .more (htotal ▸ hthis) hpages,
      .cons hpage hserves, ?_⟩
    have hempty : page.total = 0 → page.records = [] := fun h0 => by
      rw [h0] at htotal
      exact absurd hthis (by rw [← htotal]; exact Nat.not_lt_zero _)
    have hsucc : (p + 1 - 1) * pageSize setting.config task.entity =
        (p - 1) * pageSize setting.config task.entity + pageSize setting.config task.entity := by
      rw [← Nat.succ_mul, Nat.succ_eq_add_one, Nat.sub_add_cancel hp, Nat.add_sub_cancel]
    rw [taskRows_cons, taskRows_singleton setting task hempty, hrecords, hrows, hsucc, ← List.drop_drop, allRows,
      List.map_take, List.map_drop, List.take_append_drop]

/-- The pages of an entity have every record once and in its order. -/
theorem serves_of_keeps (hkeeps : env.Keeps setting token holdings task.entity)
    (hk : 0 < pageSize setting.config task.entity) (s : σ) : ∃ pages s',
      pages.length = pageCount (holdings task.entity.path).length (pageSize setting.config task.entity) ∧
      PagesFrom (pageSize setting.config task.entity) 1 pages ∧
      env.Serves s (visitRequests setting token (task, pages)) pages s' ∧
      taskRows setting task pages = allRows setting holdings task := by
  obtain ⟨n, hn⟩ : ∃ n, pageCount (holdings task.entity.path).length (pageSize setting.config task.entity) = n + 1 :=
    Nat.exists_eq_add_one.mpr (one_le_pageCount _ _)
  have hlast := le_pageCount_mul (holdings task.entity.path).length hk
  rw [hn, Nat.add_comm n 1] at hlast
  obtain ⟨pages, s', hlength, hpages, hserves, hrows⟩ := serves_from_of_keeps hkeeps n 1 s (Nat.le_refl 1)
    (fun q h1 h2 => mul_lt_of_lt_pageCount hk h1 (by omega)) hlast
  refine ⟨pages, s', by rw [hlength, hn], hpages, ?_, by rw [hrows, Nat.sub_self, Nat.zero_mul, List.drop_zero]⟩
  rw [visitRequests, hlength]
  exact hserves

end

/-- Every task of a list gets its pages, one task after the other. -/
theorem exists_visits_of_keeps {setting : FetchSetting} {token : Option String} {holdings : String → List Record}
    (hsize : ∀ entity, 0 < pageSize setting.config entity) : ∀ (tasks : List FetchTask) (s : σ),
    (∀ task ∈ tasks, env.Keeps setting token holdings task.entity) →
      ∃ (visits : List (FetchTask × List Page)) (s' : σ), visits.map Prod.fst = tasks ∧
      (∀ visit ∈ visits, PagesFrom (pageSize setting.config visit.1.entity) 1 visit.2) ∧
      env.Serves s (visits.flatMap (visitRequests setting token)) (visits.flatMap Prod.snd) s' ∧
      ∀ visit ∈ visits, taskRows setting visit.1 visit.2 = allRows setting holdings visit.1 ∧
        visit.2.length = pageCount (holdings visit.1.entity.path).length (pageSize setting.config visit.1.entity)
  | [], s, _ => ⟨[], s, rfl, by simp, .nil s, by simp⟩
  | task :: tasks, s, hkeeps => by
    obtain ⟨pages, t, hlength, hpages, hserves, hrows⟩ :=
      serves_of_keeps (hkeeps task List.mem_cons_self) (hsize task.entity) s
    obtain ⟨visits, s', htasks, hrest, hserves', hall⟩ := exists_visits_of_keeps hsize tasks t
      fun task h => hkeeps task (List.mem_cons_of_mem _ h)
    refine ⟨(task, pages) :: visits, s', by rw [List.map_cons, htasks], ?_, hserves.append hserves', ?_⟩
    · exact List.forall_mem_cons.mpr ⟨hpages, hrest⟩
    · exact List.forall_mem_cons.mpr ⟨⟨hrows, hlength⟩, hall⟩

/-! ## Entities that are committed once -/

theorem commitVisits_eq (setting : FetchSetting) (store : RowStore) (visits : List (FetchTask × List Page)) :
    commitVisits setting store visits =
      store.commitAll (visits.map fun visit => (visit.1.entity, taskRows setting visit.1 visit.2)) := by
  rw [RowStore.commitAll, List.foldl_map]
  rfl

/-- Rows of entities that are all different stay as they are committed. -/
theorem entries_commitVisits (setting : FetchSetting) (visits : List (FetchTask × List Page)) (store : RowStore)
    (h : (store.entities ++ visits.map fun visit => visit.1.entity).Nodup) :
    (commitVisits setting store visits).entries =
      store.entries ++ visits.map fun visit => (visit.1.entity, taskRows setting visit.1 visit.2) := by
  rw [commitVisits_eq, RowStore.entries_commitAll_of_nodup]
  rw [List.map_map]
  exact h

/-- **A fetch is complete.** Of entities that are all different it gets every record that the server keeps, once and in
its order, with as many requests for each as there are pages. -/
theorem fetch_of_keeps {config : Config} (hconfig : config.validate = .ok ()) (job : ExportJob)
    {tasks : List FetchTask} (hdistinct : (tasks.map FetchTask.entity).Nodup) (hquiet : env.Quiet) {w : World σ}
    (hw : w.cancelled = false) (holdings : String → List Record)
    (hkeeps : ∀ task ∈ tasks,
      env.Keeps ⟨config, job.range, job.timeFormat⟩ w.session.token holdings task.entity) :
    let setting : FetchSetting := ⟨config, job.range, job.timeFormat⟩
    let run := (fetch config job tasks).run env w
    run.1 = .ok ⟨tasks.map fun task => (task.entity, (holdings task.entity.path).map
        (projectRecord task.attributes task.entity.timeKeys job.timeFormat))⟩ ∧
      run.2.requests = w.requests ++ tasks.flatMap fun task =>
        (List.range' 1 (pageCount (holdings task.entity.path).length (pageSize config task.entity))).map
          (pageRequest setting w.session.token task.entity) := by
  intro setting run
  have hsize : ∀ entity, 0 < pageSize setting.config entity := pageSize_pos hconfig
  obtain ⟨visits, s', rfl, hpages, hserves, hall⟩ := exists_visits_of_keeps hsize tasks w.server hkeeps
  obtain ⟨v, hrun, hmoved⟩ :=
    run_fetchTasks hquiet (visits.map Prod.fst).length hsize visits {} hw hpages hserves
  have hfetch : run = (.ok (commitVisits setting {} visits), v) := by
    show (fetch config job _).run _ w = _
    rw [fetch, hconfig]
    exact hrun
  have hentries := entries_commitVisits setting visits {} (by rw [List.map_map] at hdistinct; exact hdistinct)
  rw [hfetch]
  constructor
  · refine congrArg (fun entries => Except.ok (RowStore.mk entries)) (hentries.trans ?_)
    rw [List.map_map]
    exact List.map_congr_left fun visit h => congrArg (Prod.mk visit.1.entity) (hall visit h).1
  · rw [hmoved.requests, List.flatMap_map]
    refine congrArg (w.requests ++ ·) (List.flatMap_congr fun visit h => ?_)
    rw [visitRequests, (hall visit h).2]

/-! ### Three records and none -/

/-- Three records for one path, and none for any other. -/
def threeRecords (path : String) : List Record :=
  if path = "/data/a" then [[("n", .string "x")], [("n", .string "y")], [("n", .string "z")]] else []

/-- The texts of their pages of two records each. -/
def threeRecordsText (path : String) (page : ℕ) : String :=
  if path = "/data/a" then match page with
    | 1 => "\x7b\"total\":3,\"data\":\x7b\"e\":[\x7b\"n\":\"x\"\x7d,\x7b\"n\":\"y\"\x7d]\x7d\x7d"
    | 2 => "\x7b\"total\":3,\"data\":\x7b\"e\":[\x7b\"n\":\"z\"\x7d]\x7d\x7d"
    | _ => "\x7b\"total\":3\x7d"
  else "\x7b\"total\":0\x7d"

/-- A server that reads the number of the page off the request. -/
def threeRecordsServer : Environment Unit where
  answer _ request :=
    (.answered ⟨200, threeRecordsText request.path (Text.value ((request.param? "page").getD "").toList)⟩, ())
  aborts _ := false

def pairsOnly : Config := { dataPerPage := 2 }

def pairsJob : ExportJob := ⟨.raw ["a", "b"] ["n"], {}, .singleFile, .epochSeconds⟩

theorem pageOf_pageRequest (setting : FetchSetting) (token : Option String) (entity : Entity) (p : ℕ) :
    Text.value (((pageRequest setting token entity p).param? "page").getD "").toList = p := by
  show Text.value p.repr.toList = p
  rw [Nat.toList_repr]
  exact Text.value_digits p

theorem answer_threeRecordsServer (s : Unit) (id : String) (p : ℕ) :
    threeRecordsServer.answer s (pageRequest ⟨pairsOnly, {}, .epochSeconds⟩ none (.source id) p) =
      (.answered ⟨200, threeRecordsText (Entity.source id).path p⟩, ()) := by
  show (Reply.answered ⟨200, threeRecordsText _ (Text.value _)⟩, ()) = _
  rw [pageOf_pageRequest]
  rfl

theorem keeps_threeRecords (id : String) :
    threeRecordsServer.Keeps ⟨pairsOnly, {}, .epochSeconds⟩ none threeRecords (.source id) := by
  intro s p hp
  have hk : pageSize pairsOnly (.source id) = 2 := rfl
  rw [answer_threeRecordsServer]
  simp only [hk, threeRecords, threeRecordsText]
  by_cases ha : (Entity.source id).path = "/data/a"
  · simp only [ha, if_true]
    match p, hp with
    | 1, _ => exact ⟨⟨3, some [[("n", .string "x")], [("n", .string "y")]]⟩, by cbv, rfl, rfl⟩
    | 2, _ => exact ⟨⟨3, some [[("n", .string "z")]]⟩, by cbv, rfl, rfl⟩
    | p + 3, _ =>
      refine ⟨⟨3, none⟩, by cbv, rfl, ?_⟩
      rw [List.drop_of_length_le (by simp; omega)]
      rfl
  · simp only [ha, if_false]
    exact ⟨⟨0, none⟩, by cbv, rfl, by simp [Page.records]⟩

/-- Two requests for the three records, and one for the path that has none. -/
theorem fetch_of_keeps_threeRecords :
    let run := (fetch pairsOnly pairsJob pairsJob.tasks).run threeRecordsServer { server := () }
    run.1 = .ok ⟨[(.source "a", [[.string "x"], [.string "y"], [.string "z"]]), (.source "b", [])]⟩ ∧
      run.2.requests.map (fun request => (request.path, request.param? "page")) =
        [("/data/a", some "1"), ("/data/a", some "2"), ("/data/b", some "1")] := by
  intro run
  have h := fetch_of_keeps (by rfl : pairsOnly.validate = .ok ()) pairsJob
    (by decide : (pairsJob.tasks.map FetchTask.entity).Nodup) (fun _ => rfl : threeRecordsServer.Quiet)
    (rfl : ({ server := () } : World Unit).cancelled = false) threeRecords
    (List.forall_mem_map.mpr fun id _ => keeps_threeRecords id)
  refine ⟨h.1, ?_⟩
  rw [h.2]
  decide

end SeriesExport
