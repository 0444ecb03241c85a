import SeriesExport.Fetch.Registry
import SeriesExport.Proofs.Exchange
import SeriesExport.Proofs.Plan

/-!
# What becomes of a listing

A listing asks for one page of the registry after the other. `Registry.Listed` says which requests it sends from some
page on, what is replied, and what the result is then (`Registry.listed_listFrom`, `Registry.listed_listSources`).

A fetch of one entity whose pages report the same totals goes through the same pages (`listSources_pagesAlike`). They
differ in what a total of zero does: the fetch leaves out the page, and the listing leaves out everything.
-/

namespace SeriesExport

/-- The page of the registry in a reply. -/
def Reply.registryPage? : Reply → Option RegistryPage := Reply.read? RegistryPage.decode

/-- The number of sources that a reply reports. -/
def Reply.registryTotal? (reply : Reply) : Option UInt64 := reply.registryPage?.map RegistryPage.total

namespace Registry

/-- The request for a page of the registry. -/
def pageRequest (config : Config) (token : Option String) (page : ℕ) : Request where
  baseUrl := config.apiUrl
  path := "/registry"
  query := [("per_page", toString config.registryPerPage.toNat), ("page", toString page)]
  authHeader := config.authHeader
  token
  timeout := config.timeout

/-- The cursor is at page `p` of the registry. -/
structure At (config : Config) (p : ℕ) (cursor : Cursor) : Prop where
  page : cursor.page.toNat = p
  perPage : cursor.perPage = config.registryPerPage

section

variable {config : Config} {cursor : Cursor} {p : ℕ} {page : RegistryPage}

theorem at_start (config : Config) : At config 1 { perPage := config.registryPerPage } := ⟨rfl, rfl⟩

theorem request_eq (hat : At config p cursor) (token : Option String) :
    Client.request config "/registry" (query cursor) token = pageRequest config token p := by
  simp [Client.request, pageRequest, query, pageQuery, hat.page, hat.perPage]

/-- The cursor with the total of the page that it is at. -/
def reported (cursor : Cursor) (page : RegistryPage) : Cursor := { cursor with total := some page.total }

theorem hasMore_reported (hat : At config p cursor) :
    (reported cursor page).hasMore ↔ p * config.registryPerPage.toNat < page.total.toNat := by
  rw [Cursor.hasMore_iff, ← hat.page, ← hat.perPage]
  simp [reported]

theorem At.advance (hat : At config p cursor) (hsize : config.registryPerPage ≠ 0)
    (hmore : (reported cursor page).hasMore) : At config (p + 1) (reported cursor page).advance where
  page := by
    have hperPage : (reported cursor page).perPage ≠ 0 := hat.perPage ▸ hsize
    rw [Cursor.toNat_page_advance hperPage hmore, ← hat.page]
    rfl
  perPage := hat.perPage

end

/-! ## Step by step -/

/-- What is left to do when a page of the registry is in. -/
def accept (config : Config) (cursor : Cursor) (loaded : List DataSource) (page : RegistryPage) :
    Dialogue (Result (List DataSource)) :=
  if page.total = 0 then .done (.ok [])
  else match (reported cursor page).next? with
    | some ⟨later, _⟩ => listFrom config later (loaded ++ page.entries)
    | none => .done (.ok (loaded ++ page.entries))

/-- What is left to do when the server's answer for a page is in. -/
def receive (config : Config) (cursor : Cursor) (loaded : List DataSource) :
    Result String → Dialogue (Result (List DataSource))
  | .error cause => .done (.error cause)
  | .ok body => match RegistryPage.decode body with
    | .error fault => .done (.error (.undecodable fault))
    | .ok page => accept config cursor loaded page

theorem listFrom_eq (config : Config) (cursor : Cursor) (loaded : List DataSource) :
    listFrom config cursor loaded =
      (Client.get config "/registry" (query cursor)).bind (receive config cursor loaded) := by
  rw [listFrom]
  refine congrArg (Dialogue.bind _) (funext fun result => ?_)
  cases result with
  | error cause => rfl
  | ok body =>
    dsimp only [receive]
    cases RegistryPage.decode body with
    | error fault => rfl
    | ok page =>
      dsimp only [accept, reported]
      split
      · rfl
      · cases ({ cursor with total := some page.total } : Cursor).next? <;> rfl

/-! ## All there is to a listing -/

/-- A listing from page `p` on, with the sources that are loaded before: its requests with their replies, and its
result. -/
inductive Listed (config : Config) (token : Option String) :
    ℕ → List DataSource → List (Request × Reply) → Result (List DataSource) → Prop
  /-- the reply is no page -/
  | failed {p : ℕ} {loaded : List DataSource} {reply : Reply} (cause : ExportError) : reply.registryPage? = none →
      Listed config token p loaded [(pageRequest config token p, reply)] (.error cause)
  /-- the registry is empty -/
  | empty {p : ℕ} {loaded : List DataSource} {reply : Reply} {page : RegistryPage} :
      reply.registryPage? = some page → page.total = 0 →
      Listed config token p loaded [(pageRequest config token p, reply)] (.ok [])
  /-- the pages hold all that there is -/
  | last {p : ℕ} {loaded : List DataSource} {reply : Reply} {page : RegistryPage} :
      reply.registryPage? = some page → page.total ≠ 0 → page.total.toNat ≤ p * config.registryPerPage.toNat →
      Listed config token p loaded [(pageRequest config token p, reply)] (.ok (loaded ++ page.entries))
  /-- there is more than the pages hold -/
  | more {p : ℕ} {loaded : List DataSource} {reply : Reply} {page : RegistryPage}
      {exchanges : List (Request × Reply)} {result : Result (List DataSource)} :
      reply.registryPage? = some page → p * config.registryPerPage.toNat < page.total.toNat →
      Listed config token (p + 1) (loaded ++ page.entries) exchanges result →
      Listed config token p loaded ((pageRequest config token p, reply) :: exchanges) result

variable {σ : Type}

/-- Whatever the server does, this is what becomes of a listing. -/
theorem listed_listFrom (env : Environment σ) {config : Config} (hsize : config.registryPerPage ≠ 0) {cursor : Cursor}
    {p : ℕ} (hat : At config p cursor) (loaded : List DataSource) (w : World σ) :
    Listed config w.session.token p loaded ((listFrom config cursor loaded).exchanges env w)
      ((listFrom config cursor loaded).run env w).1 := by
  let request := pageRequest config w.session.token p
  let reply := (w.call env request).1
  rw [listFrom_eq, Client.exchanges_get_bind, Client.run_get_bind, request_eq hat]
  show Listed _ _ _ _ ((request, reply) :: _) _
  cases hpage : reply.registryPage? with
  | none =>
    rcases Client.verdict_of_read?_eq_none hpage request with ⟨cause, hverdict⟩ | ⟨body, fault, hverdict, hdecode⟩
    · rw [hverdict]
      exact .failed cause hpage
    · rw [hverdict]
      simp only [receive, hdecode]
      exact .failed _ hpage
  | some page =>
    obtain ⟨body, hverdict, hdecode, hrefusal⟩ := Client.verdict_of_read?_eq_some hpage request
    have hsession : (Client.settled env w request).session = w.session := Session.hear_eq_self_iff.mpr hrefusal
    rw [hverdict]
    simp only [receive, hdecode, accept]
    by_cases hzero : page.total = 0
    · rw [if_pos hzero]
      exact .empty hpage hzero
    rw [if_neg hzero]
    by_cases hmore : (reported cursor page).hasMore
    · have hperPage : (reported cursor page).perPage ≠ 0 := hat.perPage ▸ hsize
      obtain ⟨hlt, hnext⟩ := Cursor.next?_of_hasMore hperPage hmore
      have hlisted := listed_listFrom env hsize (hat.advance hsize hmore) (loaded ++ page.entries)
        (Client.settled env w request)
      rw [hsession] at hlisted
      rw [hnext]
      exact .more hpage ((hasMore_reported hat).mp hmore) hlisted
    · rw [Cursor.next?_of_not_hasMore hmore]
      exact .last hpage hzero (Nat.le_of_not_lt fun h => hmore ((hasMore_reported hat).mpr h))
termination_by UInt64.size - cursor.page.toNat
decreasing_by
  have := (reported cursor page).advance.page.toNat_lt_size
  have : cursor.page.toNat < (reported cursor page).advance.page.toNat := UInt64.lt_iff_toNat_lt.mp hlt
  omega

theorem listed_listSources (env : Environment σ) {config : Config} (hconfig : config.validate = .ok ()) (w : World σ) :
    Listed config w.session.token 1 [] ((listSources config).exchanges env w)
      ((listSources config).run env w).1 := by
  rw [listSources, hconfig]
  exact listed_listFrom env (Config.registryPerPage_ne_zero hconfig) (at_start config) [] w

/-- The replies of the exchanges are the first of the pages. -/
def Shown (exchanges : List (Request × Reply)) (pages : Stream' RegistryPage) : Prop :=
  exchanges.map (fun exchange => exchange.2.registryPage?) = (pages.take exchanges.length).map some

theorem shown_cons {exchange : Request × Reply} {exchanges : List (Request × Reply)} {pages : Stream' RegistryPage} :
    Shown (exchange :: exchanges) pages ↔ exchange.2.registryPage? = some pages.head ∧ Shown exchanges pages.tail := by
  unfold Shown
  rw [List.length_cons, Stream'.take_succ, List.map_cons, List.map_cons, List.cons.injEq]

namespace Listed

variable {config : Config} {token : Option String} {p : ℕ} {loaded : List DataSource}
  {exchanges : List (Request × Reply)} {result : Result (List DataSource)}

/-- There is always a first page to ask for. -/
theorem exists_first (h : Listed config token p loaded exchanges result) :
    ∃ reply rest, exchanges = (pageRequest config token p, reply) :: rest := by
  cases h <;> exact ⟨_, _, rfl⟩

/-- The pages of the registry come in turn. -/
theorem turns (h : Listed config token p loaded exchanges result) :
    Turns (pageRequest config token) Reply.registryTotal? config.registryPerPage.toNat p exchanges := by
  induction h with
  | failed _ _ => exact .last _ _
  | empty _ _ => exact .last _ _
  | last _ _ _ => exact .last _ _
  | more hpage hmore _ ih => exact .more (by rw [Reply.registryTotal?, hpage]; rfl) hmore ih

/-- If every reply is a page, the last page that is asked for is the first that reports no more than the pages hold.
A total of zero there leaves nothing of the pages before. -/
theorem of_shown (h : Listed config token p loaded exchanges result) : ∀ {pages : Stream' RegistryPage},
    Shown exchanges pages → ∃ n, exchanges.length = n + 1 ∧
      (∀ i < n, (p + i) * config.registryPerPage.toNat < (pages.get i).total.toNat) ∧
      (pages.get n).total.toNat ≤ (p + n) * config.registryPerPage.toNat ∧
      result = .ok (if (pages.get n).total = 0 then [] else
        loaded ++ (pages.take (n + 1)).flatMap RegistryPage.entries) := by
  induction h with
  | failed cause hpage =>
    intro pages hshown
    obtain ⟨hhead, -⟩ := shown_cons.mp hshown
    rw [hpage] at hhead
    cases hhead
  | @empty p loaded reply page hpage hzero =>
    intro pages hshown
    obtain rfl : page = pages.head := Option.some.inj (hpage.symm.trans (shown_cons.mp hshown).1)
    have hzero : (pages.get 0).total = 0 := hzero
    refine ⟨0, rfl, nofun, ?_, ?_⟩
    · rw [hzero]
      exact Nat.zero_le _
    · rw [if_pos hzero]
  | @last p loaded reply page hpage hzero hlast =>
    intro pages hshown
    obtain rfl : page = pages.head := Option.some.inj (hpage.symm.trans (shown_cons.mp hshown).1)
    have hzero : (pages.get 0).total ≠ 0 := hzero
    refine ⟨0, rfl, nofun, hlast, ?_⟩
    rw [if_neg hzero, Stream'.take_succ, Stream'.take_zero, List.flatMap_singleton]
  | @more p loaded reply page exchanges result hpage hmore _ ih =>
    intro pages hshown
    obtain ⟨hhead, htail⟩ := shown_cons.mp hshown
    obtain rfl : page = pages.head := Option.some.inj (hpage.symm.trans hhead)
    obtain ⟨n, hlength, hbefore, hlast, hresult⟩ := ih htail
    have hshift : ∀ i, p + 1 + i = p + (i + 1) := fun i => by omega
    refine ⟨n + 1, by rw [List.length_cons, hlength], fun i hi => ?_, ?_, ?_⟩
    · cases i with
      | zero => exact hmore
      | succ i =>
        rw [← hshift]
        exact hbefore i (by omega)
    · rw [← hshift]
      exact hlast
    · rw [hresult, Stream'.take_succ (n + 1), List.flatMap_cons, ← List.append_assoc]
      rfl

end Listed

end Registry

/-! ## Listing and fetching -/

/-- What a server replies that has its replies in a row is the first of them. -/
theorem Dialogue.replies_inTurn {α : Type} : ∀ (d : Dialogue α) (w : World (Stream' Reply)),
    (d.exchanges Environment.inTurn w).map Prod.snd = w.server.take (d.exchanges Environment.inTurn w).length
  | .done _, _ => rfl
  | .token next, w => replies_inTurn (next w.session.token) (w.askToken Environment.inTurn)
  | .refuse next, w => replies_inTurn next { w with session := w.session.refuse }
  | .ask request next, w => by
    have ih := replies_inTurn (next w.server.head) (w.exchange Environment.inTurn request).2
    show w.server.head :: _ = w.server.take (_ + 1)
    rw [Stream'.take_succ]
    exact congrArg (w.server.head :: ·) ih
  | .report change next, w => replies_inTurn next (w.report Environment.inTurn change)
  | .aborted next, w => replies_inTurn (next w.cancelled) w

namespace Registry

/-- The entries of all pages but those that report no entries at all. -/
def entriesOf (pages : List RegistryPage) : List DataSource := (pages.filter (·.total ≠ 0)).flatMap RegistryPage.entries

theorem entriesOf_take {pages : Stream' RegistryPage} {n : ℕ} (h : ∀ i < n, (pages.get i).total ≠ 0) :
    entriesOf (pages.take n) = (pages.take n).flatMap RegistryPage.entries := by
  rw [entriesOf, List.filter_eq_self.mpr]
  intro page hpage
  obtain ⟨i, hi, rfl⟩ := List.getElem_of_mem hpage
  rw [Stream'.length_take] at hi
  rw [Stream'.take_get]
  exact decide_eq_true (h i hi)

theorem shown_of_replies {exchanges : List (Request × Reply)} {replies : Stream' Reply} {pages : Stream' RegistryPage}
    (hreplies : exchanges.map Prod.snd = replies.take exchanges.length)
    (hpages : ∀ n, (replies.get n).registryPage? = some (pages.get n)) : Shown exchanges pages := by
  have hmap : replies.map Reply.registryPage? = pages.map some := funext hpages
  calc exchanges.map (fun exchange => exchange.2.registryPage?)
      = (exchanges.map Prod.snd).map Reply.registryPage? := by rw [List.map_map]; rfl
    _ = (replies.take exchanges.length).map Reply.registryPage? := by rw [hreplies]
    _ = (pages.take exchanges.length).map some := by rw [Stream'.map_take, hmap, Stream'.map_take]

/-- A listing asks for the pages up to the first that reports no more than the pages hold. Its result is the entries
of these pages, or nothing if the last of them reports none. -/
theorem run_listSources {config : Config} (hconfig : config.validate = .ok ()) {w : World (Stream' Reply)}
    {pages : Stream' RegistryPage} {totals : Stream' Page}
    (hpages : ∀ n, (w.server.get n).registryPage? = some (pages.get n))
    (htotals : ∀ n, (totals.get n).total = (pages.get n).total) :
    let last := lastPage config.registryPerPage.toNat totals
    let run := (listSources config).run Environment.inTurn w
    run.1 = .ok (if (pages.get (last - 1)).total = 0 then [] else entriesOf (pages.take last)) ∧
      run.2.requests = w.requests ++ (List.range' 1 last).map (pageRequest config w.session.token) := by
  intro last run
  have hlisted := listed_listSources Environment.inTurn hconfig w
  have hshown := shown_of_replies (Dialogue.replies_inTurn (listSources config) w) hpages
  obtain ⟨n, hlength, hmore, hlast, hresult⟩ := hlisted.of_shown hshown
  have heq : last = n + 1 := by
    refine lastPage_eq (Nat.le_add_left 1 n) ?_ fun p h1 hp => ?_
    · rw [htotals, Nat.add_sub_cancel, Nat.add_comm n 1]
      exact hlast
    · have hbefore := hmore (p - 1) (by omega)
      rw [Nat.add_sub_cancel' h1] at hbefore
      rw [htotals]
      exact hbefore
  constructor
  · show ((listSources config).run Environment.inTurn w).1 = _
    rw [hresult, heq, Nat.add_sub_cancel, List.nil_append]
    split
    · rfl
    · next hzero =>
      rw [entriesOf_take]
      intro i hi
      rcases Nat.lt_succ_iff_lt_or_eq.mp hi with hi | rfl
      · intro h0
        have hbefore := hmore i hi
        rw [h0] at hbefore
        exact absurd hbefore (Nat.not_lt_zero _)
      · exact hzero
  · show ((listSources config).run Environment.inTurn w).2.requests = _
    rw [Dialogue.requests_run, hlisted.turns.requests, hlength, heq]

end Registry

/-- **Listing and fetching page alike.** If the pages of the registry and those of an entity report the same totals and
have the same size, a listing and a fetch of the entity ask for the same pages. The fetch keeps the records of all of
them that report a total other than zero. So does the listing with the entries, unless the last page reports zero: then
it has no entries, and those of the pages before are lost. -/
theorem listSources_pagesAlike {listing fetching : Config} (hlisting : listing.validate = .ok ())
    (hfetching : fetching.validate = .ok ()) (job : ExportJob) (task : FetchTask)
    (hsize : pageSize fetching task.entity = listing.registryPerPage.toNat) {v w : World (Stream' Reply)}
    {entries : Stream' RegistryPage} {records : Stream' Page}
    (hentries : ∀ n, (v.server.get n).registryPage? = some (entries.get n))
    (hrecords : ∀ n, (w.server.get n).page? = some (records.get n)) (hw : w.cancelled = false)
    (htotals : ∀ n, (records.get n).total = (entries.get n).total) :
    let setting : FetchSetting := ⟨fetching, job.range, job.timeFormat⟩
    let last := lastPage listing.registryPerPage.toNat records
    let listed := (Registry.listSources listing).run Environment.inTurn v
    let fetched := (fetch fetching job [task]).run Environment.inTurn w
    let kept := Registry.entriesOf (entries.take last)
    listed.2.requests = v.requests ++ (List.range' 1 last).map (Registry.pageRequest listing v.session.token) ∧
      fetched.2.requests = w.requests ++
        (List.range' 1 last).map (pageRequest setting w.session.token task.entity) ∧
      fetched.1 = .ok ⟨[(task.entity, taskRows setting task (records.take last))]⟩ ∧
      listed.1 = .ok (if (entries.get (last - 1)).total = 0 then [] else kept) ∧
      (listed.1 = .ok kept ↔ (entries.get (last - 1)).total ≠ 0 ∨ kept = []) := by
  intro setting last listed fetched kept
  obtain ⟨hresult, hrequests⟩ := Registry.run_listSources hlisting hentries htotals
  have hpages : visits fetching [task] records = [(task, records.take last)] := by
    rw [visits, hsize]
    rfl
  have hserves := Environment.serves_inTurn
    ((visits fetching [task] records).flatMap (visitRequests setting w.session.token)) hrecords
  rw [length_flatMap_visitRequests, ← flatMap_snd_visits] at hserves
  have hpositive : ∀ entity, 0 < pageSize setting.config entity := pageSize_pos hfetching
  obtain ⟨u, hrun, hmoved⟩ := run_fetchTasks Environment.quiet_inTurn 1 hpositive (visits fetching [task] records) {} hw
    (pagesFrom_visits hpositive [task] records) hserves
  rw [map_fst_visits, hpages] at hrun
  have hfetched : fetched = (.ok ⟨[(task.entity, taskRows setting task (records.take last))]⟩, u) := by
    show (fetch fetching job [task]).run _ w = _
    rw [fetch, hfetching]
    exact hrun
  have hfetchRequests := hmoved.requests
  rw [hpages, List.flatMap_singleton, visitRequests, Stream'.length_take] at hfetchRequests
  refine ⟨hrequests, by rw [hfetched]; exact hfetchRequests, by rw [hfetched], hresult, ?_⟩
  show ((Registry.listSources listing).run Environment.inTurn v).1 = _ ↔ _
  rw [hresult, Except.ok.injEq]
  split
  · next hzero => exact ⟨fun h => .inr h.symm, fun h => h.elim (fun h => absurd hzero h) Eq.symm⟩
  · next hzero => exact ⟨fun _ => .inl hzero, fun _ => rfl⟩

/-! ### A list that is emptied -/

/-- Two items on a page. -/
def pairs : Config := { registryPerPage := 2, dataPerPage := 2 }

/-- The first two of three sources, and then none at all. -/
def emptiedEntries : Stream' RegistryPage := .cons ⟨3, [⟨"a", [], []⟩, ⟨"b", [], []⟩]⟩ (.const ⟨0, []⟩)

def emptiedEntriesReplies : Stream' Reply :=
  .cons (.answered ⟨200, "\x7b\"total\":3,\"entries\":[\x7b\"id\":\"a\"\x7d,\x7b\"id\":\"b\"\x7d]\x7d"⟩)
    (.const (.answered ⟨200, "\x7b\"total\":0,\"entries\":[]\x7d"⟩))

/-- The first two of three records, and then none at all. -/
def emptiedRecords : Stream' Page := .cons ⟨3, some [[("n", .string "x")], [("n", .string "y")]]⟩ (.const ⟨0, none⟩)

def emptiedRecordsReplies : Stream' Reply :=
  .cons (.answered ⟨200, "\x7b\"total\":3,\"data\":\x7b\"e\":[\x7b\"n\":\"x\"\x7d,\x7b\"n\":\"y\"\x7d]\x7d\x7d"⟩)
    (.const (.answered ⟨200, "\x7b\"total\":0\x7d"⟩))

theorem lastPage_emptied : lastPage 2 emptiedRecords = 2 :=
  lastPage_eq (by decide) (by decide) fun p h1 h2 => by
    obtain rfl : p = 1 := by omega
    decide

/-- Both ask for two pages. The fetch has the records of the first one, and the listing has nothing. -/
theorem listSources_pagesAlike_emptied :
    let listed := (Registry.listSources pairs).run Environment.inTurn { server := emptiedEntriesReplies }
    let fetched := (fetch pairs namesJob [⟨.source "a", ["n"]⟩]).run Environment.inTurn
      { server := emptiedRecordsReplies }
    listed.2.requests.map (fun request => request.param? "page") = [some "1", some "2"] ∧
      fetched.2.requests.map (fun request => request.param? "page") = [some "1", some "2"] ∧
      fetched.1 = .ok ⟨[(.source "a", [[.string "x"], [.string "y"]])]⟩ ∧ listed.1 = .ok [] := by
  intro listed fetched
  have hentries : ∀ n, (emptiedEntriesReplies.get n).registryPage? = some (emptiedEntries.get n)
    | 0 => by cbv
    | _ + 1 => by cbv
  have hrecords : ∀ n, (emptiedRecordsReplies.get n).page? = some (emptiedRecords.get n)
    | 0 => by cbv
    | _ + 1 => by cbv
  have htotals : ∀ n, (emptiedRecords.get n).total = (emptiedEntries.get n).total
    | 0 => rfl
    | _ + 1 => rfl
  have h := listSources_pagesAlike (by rfl : pairs.validate = .ok ()) (by rfl : pairs.validate = .ok ()) namesJob
    ⟨.source "a", ["n"]⟩ (by rfl) (v := { server := emptiedEntriesReplies }) (w := { server := emptiedRecordsReplies })
    hentries hrecords rfl htotals
  have hlast : lastPage pairs.registryPerPage.toNat emptiedRecords = 2 := lastPage_emptied
  rw [hlast] at h
  obtain ⟨hlisted, hfetched, hrows, hsources, -⟩ := h
  refine ⟨?_, ?_, hrows, hsources⟩
  · rw [hlisted]
    decide
  · rw [hfetched]
    decide

end SeriesExport
