import SeriesExport.Proofs.Authorized
import SeriesExport.Proofs.Completeness

/-!
# How many pages are asked for

`TaskRun.Paged` says all that can become of a task from some page on, whatever the server does and whenever the abort
handle is used (`TaskRun.paged_fetchPages`).

A page has a successor only if it reports more than the pages up to it hold. So no more pages are asked for than the
largest of the totals has (`Turns.length_le_pageCount`, `WithinBounds`). This is so for each task of a fetch
(`withinBounds_fetch`) and for a listing (`Registry.withinBounds_listSources`), as long as a page holds anything at
all; else neither of them starts.
-/

namespace SeriesExport

variable {σ : Type}

/-! ## Bounds -/

theorem succ_le_pageCount {n k bound : ℕ} (hk : 0 < k) (h : n * k < bound) : n + 1 ≤ pageCount bound k := by
  have hdiv : n + 1 ≤ (bound + k - 1) / k := by
    rw [Nat.le_div_iff_mul_le hk, Nat.succ_mul]
    omega
  exact Nat.le_trans hdiv (Nat.le_max_right _ _)

section

variable {ask : ℕ → Request} {total? : Reply → Option UInt64} {k p bound : ℕ} {exchanges : List (Request × Reply)}

/-- Page `p + n` reports more than the pages up to it hold if there is an exchange after it. -/
theorem Turns.mul_lt (h : Turns ask total? k p exchanges)
    (hbound : ∀ exchange ∈ exchanges, ∀ total, total? exchange.2 = some total → total.toNat ≤ bound) :
    ∀ n, n + 1 < exchanges.length → (p + n) * k < bound := by
  induction h with
  | none p => nofun
  | last p reply =>
    intro n hn
    rw [List.length_singleton] at hn
    omega
  | @more p reply total exchanges htotal hmore _ ih =>
    intro n hn
    rw [List.length_cons] at hn
    cases n with
    | zero =>
      have hle : total.toNat ≤ bound := hbound _ List.mem_cons_self total htotal
      exact Nat.lt_of_lt_of_le hmore hle
    | succ n =>
      have hlater := ih (fun exchange hmem => hbound exchange (List.mem_cons_of_mem _ hmem)) n (by omega)
      rwa [show p + 1 + n = p + (n + 1) by omega] at hlater

theorem Turns.length_le_pageCount (h : Turns ask total? k 1 exchanges) (hk : 0 < k)
    (hbound : ∀ exchange ∈ exchanges, ∀ total, total? exchange.2 = some total → total.toNat ≤ bound) :
    exchanges.length ≤ pageCount bound k := by
  have hone := one_le_pageCount bound k
  match hlength : exchanges.length with
  | 0 => omega
  | 1 => exact hone
  | n + 2 =>
    refine succ_le_pageCount hk ?_
    have hmul := h.mul_lt hbound n (by omega)
    rwa [Nat.add_comm 1 n] at hmul

/-- The exchanges about a list are about its first pages, each of them once. There are no more of them than the largest
total has pages, and never more than there can be. -/
structure WithinBounds (ask : ℕ → Request) (total? : Reply → Option UInt64) (k : ℕ)
    (exchanges : List (Request × Reply)) : Prop where
  requests : exchanges.map Prod.fst = (List.range' 1 exchanges.length).map ask
  length_le : ∀ bound, (∀ exchange ∈ exchanges, ∀ total, total? exchange.2 = some total → total.toNat ≤ bound) →
    exchanges.length ≤ pageCount bound k
  length_le_max : exchanges.length ≤ pageCount (UInt64.size - 1) k

theorem Turns.withinBounds (h : Turns ask total? k 1 exchanges) (hk : 0 < k) :
    WithinBounds ask total? k exchanges where
  requests := h.requests
  length_le _ hbound := h.length_le_pageCount hk hbound
  length_le_max := h.length_le_pageCount hk fun _ _ total _ => Nat.le_pred_of_lt total.toNat_lt_size

end

/-! ## Fetching -/

/-- The number of records that a reply reports. -/
def Reply.total? (reply : Reply) : Option UInt64 := reply.page?.map Page.total

namespace TaskRun

section

variable {setting : FetchSetting} {run : TaskRun} {body : String}

/-- A body that is no page ends the task. -/
theorem receive_of_error {fault : Json.Fault} (hdecode : Page.decode body = .error fault) :
    (run.receive setting (.ok body)).bind (goOn setting) =
      .aborted fun b => .done (.error (if b then .aborted else .undecodable fault)) := by
  refine congrArg Dialogue.aborted (funext fun b => ?_)
  cases b with
  | true => rfl
  | false =>
    simp only [hdecode]
    rfl

/-- A page ends the task if it comes too late. -/
theorem receive_of_ok {page : Page} (hdecode : Page.decode body = .ok page) :
    (run.receive setting (.ok body)).bind (goOn setting) = .aborted fun b =>
      if b then .done (.error .aborted) else (run.acceptPage setting page).bind (goOn setting) := by
  refine congrArg Dialogue.aborted (funext fun b => ?_)
  cases b with
  | true => rfl
  | false => simp only [hdecode, Bool.false_eq_true, if_false]

end

/-- A task from page `p` on, with the rows of the pages before: its requests with their replies, and its result. -/
inductive Paged (setting : FetchSetting) (token : Option String) (task : FetchTask) :
    ℕ → List Row → List (Request × Reply) → Result (List Row) → Prop
  /-- it is aborted before it asks -/
  | stopped (p : ℕ) (rows : List Row) : Paged setting token task p rows [] (.error .aborted)
  /-- the reply is no page -/
  | failed {p : ℕ} {rows : List Row} {reply : Reply} (cause : ExportError) : reply.page? = none →
      Paged setting token task p rows [(pageRequest setting token task.entity p, reply)] (.error cause)
  /-- it is aborted before the page is in -/
  | late {p : ℕ} {rows : List Row} {reply : Reply} {page : Page} : reply.page? = some page →
      Paged setting token task p rows [(pageRequest setting token task.entity p, reply)] (.error .aborted)
  /-- the pages hold all that there is -/
  | last {p : ℕ} {rows : List Row} {reply : Reply} {page : Page} : reply.page? = some page →
      page.total.toNat ≤ p * pageSize setting.config task.entity →
      Paged setting token task p rows [(pageRequest setting token task.entity p, reply)]
        (.ok (rows ++ taskRows setting task [page]))
  /-- there is more than the pages hold -/
  | more {p : ℕ} {rows : List Row} {reply : Reply} {page : Page} {exchanges : List (Request × Reply)}
      {result : Result (List Row)} : reply.page? = some page →
      p * pageSize setting.config task.entity < page.total.toNat →
      Paged setting token task (p + 1) (rows ++ taskRows setting task [page]) exchanges result →
      Paged setting token task p rows ((pageRequest setting token task.entity p, reply) :: exchanges) result

/-- Whatever the server does and whenever the handle is used, this is what becomes of a task. -/
theorem paged_fetchPages (env : Environment σ) {setting : FetchSetting} {run : TaskRun} {p : ℕ}
    (hat : run.At setting p) (hk : 0 < pageSize setting.config run.task.entity) (w : World σ) :
    Paged setting w.session.token run.task p run.rows ((run.fetchPages setting).exchanges env w)
      ((run.fetchPages setting).run env w).1 := by
  let request := pageRequest setting w.session.token run.task.entity p
  let reply := (w.call env request).1
  rw [fetchPages_eq, fetchPage_eq, Dialogue.bind, Dialogue.exchanges, Dialogue.run]
  cases w.cancelled with
  | true => exact .stopped p run.rows
  | false =>
    dsimp only
    rw [Dialogue.bind_assoc, Client.exchanges_get_bind, Client.run_get_bind, request_eq hat]
    show Paged _ _ _ _ _ ((request, reply) :: _) _
    cases hpage : reply.page? with
    | none =>
      rcases Client.verdict_of_read?_eq_none hpage request with ⟨cause, hverdict⟩ | ⟨body, fault, hverdict, hdecode⟩
      · rw [hverdict]
        exact .failed cause hpage
      · rw [hverdict, receive_of_error hdecode]
        exact .failed _ hpage
    | some page =>
      obtain ⟨body, hverdict, hdecode, hrefusal⟩ := Client.verdict_of_read?_eq_some hpage request
      -- the reply is a success, so the next request has the same token
      have hsession : (Client.settled env w request).session = w.session := Session.hear_eq_self_iff.mpr hrefusal
      rw [hverdict, receive_of_ok hdecode, Dialogue.exchanges, Dialogue.run]
      cases (Client.settled env w request).cancelled with
      | true => exact .late hpage
      | false =>
        rw [if_neg Bool.false_ne_true]
        by_cases hmore : p * pageSize setting.config run.task.entity < page.total.toNat
        · have hnext : run.cursor.page.toNat < (run.turn setting page).cursor.page.toNat := by
            rw [(hat.turn hk hmore).page, hat.page]
            exact Nat.lt_succ_self p
          have hpaged := paged_fetchPages env (hat.turn hk hmore) hk
            ((Client.settled env w request).report env (run.pageReport page))
          have hrows : (run.turn setting page).rows = run.rows ++ taskRows setting run.task [page] :=
            rowsWith_eq setting run page
          rw [World.session_report, hsession, hrows] at hpaged
          rw [acceptPage_more hat hk hmore]
          exact .more hpage hmore hpaged
        · have hle := Nat.le_of_not_lt hmore
          rw [acceptPage_last hat hle, rowsWith_eq]
          exact .last hpage hle
termination_by UInt64.size - run.cursor.page.toNat
decreasing_by
  have := (run.turn setting page).cursor.page.toNat_lt_size
  omega

namespace Paged

variable {setting : FetchSetting} {token : Option String} {task : FetchTask} {p : ℕ} {rows : List Row}
  {exchanges : List (Request × Reply)} {result : Result (List Row)}

/-- The pages of a task come in turn. -/
theorem turns (h : Paged setting token task p rows exchanges result) :
    Turns (pageRequest setting token task.entity) Reply.total? (pageSize setting.config task.entity) p exchanges := by
  induction h with
  | stopped p _ => exact .none p
  | failed _ _ => exact .last _ _
  | late _ => exact .last _ _
  | last _ _ => exact .last _ _
  | more hpage hmore _ ih => exact .more (congrArg (Option.map Page.total) hpage) hmore ih

/-- A task fails just if a reply is no page or it is aborted. -/
theorem ok_iff (h : Paged setting token task p rows exchanges result) : (∃ fetched, result = .ok fetched) ↔
    (∀ exchange ∈ exchanges, exchange.2.page?.isSome) ∧ result ≠ .error .aborted := by
  induction h with
  | stopped _ _ => simp
  | failed _ hpage => simp [hpage]
  | late hpage => simp
  | last hpage _ => simp [hpage]
  | more hpage _ _ ih => simp [hpage, ih]

end Paged

end TaskRun

/-- A fetch goes through the first of its tasks, one after the other, and each task through its first pages. -/
theorem exchanges_fetchTasks (env : Environment σ) {setting : FetchSetting}
    (hsize : ∀ entity, 0 < pageSize setting.config entity) (all : ℕ) :
    ∀ (tasks : List FetchTask) (store : RowStore) (w : World σ),
      ∃ visited : List (FetchTask × List (Request × Reply)), visited.map Prod.fst <+: tasks ∧
        (fetchTasks setting all tasks store).exchanges env w = visited.flatMap Prod.snd ∧
        ∀ visit ∈ visited, Turns (pageRequest setting w.session.token visit.1.entity) Reply.total?
          (pageSize setting.config visit.1.entity) 1 visit.2
  | [], _, _ => ⟨[], List.nil_prefix, rfl, nofun⟩
  | task :: waiting, store, w => by
    let run := TaskRun.start task (setting.config.perPage task.entity)
    let started := w.report env (.main (doneFraction (waiting.length + 1) all))
    have hturns := (TaskRun.paged_fetchPages env (TaskRun.at_start setting task) (hsize task.entity) started).turns
    have hexchanges : (fetchTasks setting all (task :: waiting) store).exchanges env w =
        (run.fetchPages setting).exchanges env started ++
          (commitRows setting all task waiting store ((run.fetchPages setting).run env started).1).exchanges env
            ((run.fetchPages setting).run env started).2 := by
      rw [fetchTasks_cons, Dialogue.exchanges, Dialogue.exchanges_bind]
    rw [hexchanges]
    cases hresult : ((run.fetchPages setting).run env started).1 with
    | error cause =>
      refine ⟨[(task, (run.fetchPages setting).exchanges env started)], ⟨waiting, rfl⟩, ?_,
        List.forall_mem_singleton.mpr hturns⟩
      rw [List.flatMap_singleton]
      exact List.append_nil _
    | ok rows =>
      -- no reply to this task is a refusal, so the tasks after it have the same token
      have hsession := (TaskRun.authorized_fetchPages setting run).session_of_ok hresult
      obtain ⟨visited, ⟨rest, hrest⟩, hvisited, hall⟩ := exchanges_fetchTasks env hsize all waiting
        (store.commit task.entity rows) ((run.fetchPages setting).run env started).2
      rw [hsession] at hall
      refine ⟨(task, (run.fetchPages setting).exchanges env started) :: visited, ⟨rest, by simp [hrest]⟩, ?_,
        List.forall_mem_cons.mpr ⟨hturns, hall⟩⟩
      rw [List.flatMap_cons, ← hvisited]
      rfl

/-! ## Configurations -/

section

variable {config : Config}

theorem Cursor.map_val_next? {c : Cursor} (hsize : c.perPage ≠ 0) :
    c.next?.map Subtype.val = if c.hasMore then some c.advance else none := by
  by_cases hmore : c.hasMore
  · obtain ⟨hlt, hnext⟩ := next?_of_hasMore hsize hmore
    rw [hnext, if_pos hmore]
    rfl
  · rw [next?_of_not_hasMore hmore, if_neg hmore]
    rfl

theorem withinBounds_fetch (hconfig : config.validate = .ok ()) (job : ExportJob) (tasks : List FetchTask)
    (env : Environment σ) (w : World σ) :
    ∃ visited : List (FetchTask × List (Request × Reply)), visited.map Prod.fst <+: tasks ∧
      (fetch config job tasks).exchanges env w = visited.flatMap Prod.snd ∧
      ∀ visit ∈ visited, WithinBounds
        (pageRequest ⟨config, job.range, job.timeFormat⟩ w.session.token visit.1.entity) Reply.total?
        (pageSize config visit.1.entity) visit.2 := by
  have hsize := pageSize_pos hconfig
  obtain ⟨visited, hprefix, hexchanges, hturns⟩ := exchanges_fetchTasks env
    (show ∀ entity, 0 < pageSize (FetchSetting.mk config job.range job.timeFormat).config entity from hsize)
    tasks.length tasks {} w
  refine ⟨visited, hprefix, ?_, fun visit hvisit => (hturns visit hvisit).withinBounds (hsize visit.1.entity)⟩
  rw [fetch, hconfig]
  exact hexchanges

theorem Registry.withinBounds_listSources (hconfig : config.validate = .ok ()) (env : Environment σ) (w : World σ) :
    WithinBounds (pageRequest config w.session.token) Reply.registryTotal? config.registryPerPage.toNat
      ((listSources config).exchanges env w) := by
  have hsize := Config.registryPerPage_ne_zero hconfig
  have hpos : 0 < config.registryPerPage.toNat := Nat.pos_of_ne_zero fun h => hsize (UInt64.toNat_inj.mp h)
  exact (listed_listSources env hconfig w).turns.withinBounds hpos

end

/-- **Paging comes to an end.** With a configuration that is accepted, there is a next page just if the total exceeds
what the pages hold in exact arithmetic, and its number is the successor. A fetch goes through tasks in their order,
and each of them asks for its first pages, no more of them than the largest total that is replied to the task has; so
does a listing. A page size of zero is refused before anything happens. -/
theorem paging_bounded (config : Config) :
    (config.validate = .ok () →
      (∀ cursor : Cursor, (cursor.perPage = config.registryPerPage ∨
          ∃ entity, cursor.perPage = config.perPage entity) →
        (cursor.hasMore ↔ ∃ total, cursor.total = some total ∧
          cursor.page.toNat * cursor.perPage.toNat < total.toNat) ∧
        (cursor.hasMore → cursor.advance.page.toNat = cursor.page.toNat + 1) ∧
        cursor.next?.map Subtype.val = if cursor.hasMore then some cursor.advance else none) ∧
      (∀ (job : ExportJob) (tasks : List FetchTask) {σ : Type} (env : Environment σ) (w : World σ),
        let setting : FetchSetting := ⟨config, job.range, job.timeFormat⟩
        let exchanges := (fetch config job tasks).exchanges env w
        ((fetch config job tasks).run env w).2.requests = w.requests ++ exchanges.map Prod.fst ∧
          ∃ visited : List (FetchTask × List (Request × Reply)), visited.map Prod.fst <+: tasks ∧
            exchanges = visited.flatMap Prod.snd ∧
            ∀ visit ∈ visited, WithinBounds (pageRequest setting w.session.token visit.1.entity) Reply.total?
              (pageSize config visit.1.entity) visit.2) ∧
      ∀ {σ : Type} (env : Environment σ) (w : World σ),
        let exchanges := (Registry.listSources config).exchanges env w
        ((Registry.listSources config).run env w).2.requests = w.requests ++ exchanges.map Prod.fst ∧
          WithinBounds (Registry.pageRequest config w.session.token) Reply.registryTotal?
            config.registryPerPage.toNat exchanges) ∧
    (config.registryPerPage = 0 ∨ (∃ entity, config.perPage entity = 0) → ∃ flaw,
      ∀ (job : ExportJob) (tasks : List FetchTask) {σ : Type} (env : Environment σ) (w : World σ),
        (fetch config job tasks).run env w = (.error (.invalidConfig flaw), w) ∧
          (Registry.listSources config).run env w = (.error (.invalidConfig flaw), w)) := by
  constructor
  · intro hconfig
    refine ⟨fun cursor hperPage => ?_,
      fun job tasks σ env w => ⟨Dialogue.requests_run env _ w, withinBounds_fetch hconfig job tasks env w⟩,
      fun {σ} env w => ⟨Dialogue.requests_run env _ w, Registry.withinBounds_listSources hconfig env w⟩⟩
    have hsize : cursor.perPage ≠ 0 := by
      rcases hperPage with hperPage | ⟨entity, hperPage⟩
      · exact hperPage ▸ Config.registryPerPage_ne_zero hconfig
      · exact hperPage ▸ Config.perPage_ne_zero hconfig entity
    exact ⟨Cursor.hasMore_iff cursor, Cursor.toNat_page_advance hsize, Cursor.map_val_next? hsize⟩
  · intro hzero
    cases hvalidate : config.validate with
    | ok _ =>
      rcases hzero with hzero | ⟨entity, hzero⟩
      · exact absurd hzero (Config.registryPerPage_ne_zero hvalidate)
      · exact absurd hzero (Config.perPage_ne_zero hvalidate entity)
    | error cause =>
      obtain ⟨flaw, rfl⟩ := Config.eq_invalidConfig_of_validate hvalidate
      refine ⟨flaw, fun job tasks σ env w => ⟨?_, ?_⟩⟩
      · rw [fetch, hvalidate]
        rfl
      · rw [Registry.listSources, hvalidate]
        rfl

/-! ### Totals that change -/

/-- No sources on a page. -/
def unpaged : Config := { registryPerPage := 0 }

/-- A list that has three items, and then always five. It is a page of records as well as one of sources. -/
def growingReplies : Stream' Reply :=
  .cons (.answered ⟨200, "\x7b\"total\":3,\"entries\":[]\x7d"⟩)
    (.const (.answered ⟨200, "\x7b\"total\":5,\"entries\":[]\x7d"⟩))

theorem total_growingReplies : ∀ n, ∃ total : UInt64, (growingReplies.get n).total? = some total ∧
    (growingReplies.get n).registryTotal? = some total ∧ total.toNat ≤ 5
  | 0 => ⟨3, by cbv, by cbv, by decide⟩
  | _ + 1 => ⟨5, by cbv, by cbv, by decide⟩

theorem exists_total_of_mem_exchanges {α : Type} (d : Dialogue α) {exchange : Request × Reply}
    (h : exchange ∈ d.exchanges Environment.inTurn { server := growingReplies }) : ∃ total : UInt64,
      exchange.2.total? = some total ∧ exchange.2.registryTotal? = some total ∧ total.toNat ≤ 5 := by
  have hmem := List.mem_map_of_mem (f := Prod.snd) h
  rw [Dialogue.replies_inTurn] at hmem
  obtain ⟨n, hn, heq⟩ := List.getElem_of_mem hmem
  rw [Stream'.take_get] at heq
  exact heq ▸ total_growingReplies n

/-- Five items have three pages. There are no more requests than that, also for the records, and none at all if there
are to be no items on a page. -/
theorem paging_bounded_growing :
    let w : World (Stream' Reply) := { server := growingReplies }
    let tasks : List FetchTask := [⟨.source "a", ["n"]⟩]
    pageCount 5 2 = 3 ∧
      ((Registry.listSources pairs).run Environment.inTurn w).2.requests.length = 3 ∧
      ((Registry.listSources pairs).exchanges Environment.inTurn w).length ≤ 3 ∧
      ((fetch pairs namesJob tasks).run Environment.inTurn w).2.requests.length ≤ 3 ∧
      ∃ flaw, (fetch unpaged namesJob tasks).run Environment.inTurn w = (.error (.invalidConfig flaw), w) ∧
        (Registry.listSources unpaged).run Environment.inTurn w = (.error (.invalidConfig flaw), w) := by
  intro w tasks
  obtain ⟨-, hfetch, hlisting⟩ := (paging_bounded pairs).1 rfl
  obtain ⟨hrequests, visited, hprefix, hvisited, hwithin⟩ := hfetch namesJob tasks Environment.inTurn w
  obtain ⟨-, hlisted⟩ := hlisting Environment.inTurn w
  obtain ⟨flaw, hrefused⟩ := (paging_bounded unpaged).2 (.inl rfl)
  refine ⟨by decide, by cbv, hlisted.length_le 5 fun exchange hexchange total htotal => ?_, ?_, flaw,
    hrefused namesJob tasks Environment.inTurn w⟩
  · obtain ⟨_, -, hregistry, hle⟩ := exists_total_of_mem_exchanges _ hexchange
    rw [hregistry] at htotal
    exact Option.some.inj htotal ▸ hle
  · rw [hrequests, List.length_append, List.length_map, hvisited]
    rw [show w.requests.length = 0 from rfl, Nat.zero_add]
    rcases visited with _ | ⟨⟨task, exchanges⟩, _ | ⟨_, _⟩⟩
    · exact Nat.zero_le 3
    · obtain ⟨rfl, -⟩ := List.cons_prefix_cons.mp hprefix
      rw [List.flatMap_singleton]
      have hpages : pageCount 5 (pageSize pairs (.source "a")) = 3 := by decide
      refine Nat.le_trans ((hwithin _ List.mem_cons_self).length_le 5 fun exchange hexchange total htotal => ?_)
        (Nat.le_of_eq hpages)
      obtain ⟨_, hrecords, -, hle⟩ := exists_total_of_mem_exchanges (fetch pairs namesJob tasks)
        (hvisited ▸ List.mem_flatMap.mpr ⟨_, List.mem_cons_self, hexchange⟩)
      rw [hrecords] at htotal
      exact Option.some.inj htotal ▸ hle
    · obtain ⟨-, hnil⟩ := List.cons_prefix_cons.mp hprefix
      cases List.prefix_nil.mp hnil

end SeriesExport
