import SeriesExport.Proofs.Choices
import SeriesExport.Proofs.FailFast
import SeriesExport.Proofs.PageBounds
import SeriesExport.Proofs.Windows

/-!
# What is sent for a window

A job keeps the window of its two texts (`ExportJob.BuiltFor.ofTexts?_eq`), and every request of every one of its runs
carries the two ends of it (`carries_of_mem_exchanges_fetch`).

An end is sent as it was entered, not as the moment that it was read as (`Bound.SentFor`). So the server gets an instant
like `2021-01-31T10:20:30Z` just if that many digits have been entered and nothing else: `2021-1-1T0:0:0` is accepted
and sent as it is (`TimeRange.sent_as_entered_short`).
-/

namespace SeriesExport

/-! ## Ends -/

/-- What is sent for an end that denotes a moment. It denotes the same moment, and it is an instant just if what was
entered is tight. -/
structure Bound.SentFor (entered sent : String) (m : Moment) : Prop where
  text : sent = String.ofList (Bound.bare entered ++ ['Z'])
  denotes : Bound.Denotes entered m
  sent_denotes : Bound.Denotes sent m
  isInstant : Moment.IsTight (Bound.bare entered) → Moment.IsInstant sent.toList m
  isTight : ∀ n, Moment.IsInstant sent.toList n → Moment.IsTight (Bound.bare entered)

theorem Bound.sentFor_of_ofText? {entered : String} {b : Bound} (h : ofText? entered = .ok (some b)) :
    SentFor entered b.text b.moment := by
  obtain ⟨hdenotes, htext⟩ := ofText?_eq_some_iff.mp h
  have hsent := (ofText?_eq_some_iff.mp (ofText?_text h)).1
  refine ⟨htext, hdenotes, hsent, fun htight => ?_, fun n hn => ?_⟩
  · rw [htext, String.toList_ofList]
    exact htight.isInstant hdenotes
  · rw [htext, String.toList_ofList] at hn
    exact hn.isTight

/-! ## Jobs -/

namespace ExportJob

/-- A job of either kind, with the two texts of its window. -/
inductive BuiltFor (start stop : String) : ExportJob → Prop
  | data {s : DataSelection} {job : ExportJob} : s.start = start → s.stop = stop → ofData s = .ok job →
      BuiltFor start stop job
  | aggregations {s : AggregationSelection} {groups : AggregationGroups} {job : ExportJob} : s.start = start →
      s.stop = stop → ofAggregations s groups = .ok job → BuiltFor start stop job

theorem ofTexts?_of_ofData {s : DataSelection} {job : ExportJob} (h : ofData s = .ok job) :
    TimeRange.ofTexts? s.start s.stop = .ok job.range := by
  unfold ofData at h
  split at h
  · cases h
  split at h
  · cases h
  obtain ⟨attributes, -, h⟩ := Result.bind_eq_ok.mp h
  obtain ⟨range, hrange, h⟩ := Result.bind_eq_ok.mp h
  obtain rfl := Except.ok.inj h
  exact rangeOf_eq_ok_iff.mp hrange

theorem BuiltFor.ofTexts?_eq {start stop : String} {job : ExportJob} (h : BuiltFor start stop job) :
    TimeRange.ofTexts? start stop = .ok job.range := by
  cases h with
  | data hstart hstop hjob =>
    rw [← hstart, ← hstop]
    exact ofTexts?_of_ofData hjob
  | aggregations hstart hstop hjob =>
    obtain ⟨-, -, -, range, hrange, rfl⟩ := ofAggregations_eq_ok_iff.mp hjob
    rw [← hstart, ← hstop]
    exact hrange

end ExportJob

/-! ## Requests -/

/-- The request asks for what is in the range. -/
structure Request.Carries (range : TimeRange) (request : Request) : Prop where
  start : request.param? "start" = some range.startParam
  stop : request.param? "end" = some range.stopParam

theorem carries_pageRequest (setting : FetchSetting) (token : Option String) (entity : Entity) (page : ℕ) :
    (pageRequest setting token entity page).Carries setting.range :=
  ⟨rfl, rfl⟩

section

variable {σ : Type} (config : Config) (job : ExportJob) (tasks : List FetchTask) (env : Environment σ) (w : World σ)

theorem carries_of_mem_exchanges_fetch {exchange : Request × Reply}
    (h : exchange ∈ (fetch config job tasks).exchanges env w) : exchange.1.Carries job.range := by
  cases hconfig : config.validate with
  | error cause =>
    rw [fetch, hconfig] at h
    cases h
  | ok _ =>
    obtain ⟨visited, -, hvisited, hwithin⟩ := withinBounds_fetch hconfig job tasks env w
    rw [hvisited] at h
    obtain ⟨visit, hvisit, hmem⟩ := List.mem_flatMap.mp h
    have hrequest := List.mem_map_of_mem (f := Prod.fst) hmem
    rw [(hwithin visit hvisit).requests] at hrequest
    obtain ⟨page, -, hpage⟩ := List.mem_map.mp hrequest
    rw [← hpage]
    exact carries_pageRequest ⟨config, job.range, job.timeFormat⟩ _ _ _

/-- An export sends what its fetch sends. -/
theorem exchanges_exportTasks : (exportTasks config job tasks).exchanges env w =
    (fetch config job tasks).exchanges env w := by
  refine (Dialogue.exchanges_bind env _ _ w).trans ?_
  cases ((fetch config job tasks).run env w).1 <;> exact List.append_nil _

end

/-- **Windows are sent as they are entered.** Each end that is kept is what was entered, less the blanks at its ends and
with a `Z`; it denotes the moment that was read and compared, and it is an instant just if what was entered is tight.
Every request of every run of every job for the window carries these texts. -/
theorem TimeRange.sent_as_entered {start stop : String} {range : TimeRange} (h : ofTexts? start stop = .ok range) :
    (∀ text, range.start = some text → ∃ m, Bound.SentFor start text m) ∧
    (∀ text, range.stop = some text → ∃ m, Bound.SentFor stop text m) ∧
    InOrder start stop ∧
    ∀ job, ExportJob.BuiltFor start stop job → ∀ (config : Config) (tasks : List FetchTask) {σ : Type}
      (env : Environment σ) (w : World σ), ∃ sent : List Request,
        ((exportTasks config job tasks).run env w).2.requests = w.requests ++ sent ∧
          ∀ request ∈ sent, request.Carries range := by
  obtain ⟨s, e, hs, he, hle, rfl⟩ := ofTexts?_eq_ok_iff.mp h
  refine ⟨?_, ?_, (inOrder_iff hs he).mpr hle, ?_⟩
  · intro text htext
    obtain ⟨b, rfl, rfl⟩ := Option.map_eq_some_iff.mp htext
    exact ⟨_, Bound.sentFor_of_ofText? hs⟩
  · intro text htext
    obtain ⟨b, rfl, rfl⟩ := Option.map_eq_some_iff.mp htext
    exact ⟨_, Bound.sentFor_of_ofText? he⟩
  · intro job hjob config tasks σ env w
    have hrange := Except.ok.inj (hjob.ofTexts?_eq.symm.trans h)
    refine ⟨_, Dialogue.requests_run env _ w, fun request hrequest => ?_⟩
    obtain ⟨exchange, hmem, rfl⟩ := List.mem_map.mp hrequest
    rw [exchanges_exportTasks] at hmem
    rw [← hrange]
    exact carries_of_mem_exchanges_fetch config job tasks env w hmem

/-- The first of January, with no more digits than it needs. -/
def shortStart : DataSelection := { start := "2021-1-1T0:0:0", attributes := "name", sources := ["a"] }

def shortStartJob : ExportJob := ⟨.raw ["a"] ["n"], ⟨some "2021-1-1T0:0:0Z", none⟩, .singleFile, .epochSeconds⟩

/-- Nobody answers. -/
def downWorld : World (Stream' Reply) := { server := .const (.failed .connection) }

/-- A server that is down is asked for the first page of the first task. -/
theorem requests_exportTasks_down {config : Config} (hconfig : config.validate = .ok ()) (job : ExportJob)
    (task : FetchTask) : ((exportTasks config job [task]).run Environment.inTurn downWorld).2.requests =
      [pageRequest ⟨config, job.range, job.timeFormat⟩ none task.entity 1] := by
  let setting : FetchSetting := ⟨config, job.range, job.timeFormat⟩
  have hsize : ∀ entity, 0 < pageSize setting.config entity := pageSize_pos hconfig
  have hlast := (lastPage_mem (hsize task.entity) (.const twoRecords)).1
  obtain ⟨v, hrun, hrequests⟩ := run_fetchTasks_of_fault (w := downWorld) 1 hsize [] task [] rfl hlast nofun
    (.failed (.unanswered (s := {}) .connection))
  rw [run_exportTasks, fetch, hconfig]
  exact (congrArg (fun result => result.2.requests) hrun).trans hrequests

/-- A moment with no more digits than it needs is accepted and sent, and it is not an instant. -/
theorem TimeRange.sent_as_entered_short :
    let requests := ((shortStartJob.run {}).run Environment.inTurn downWorld).2.requests
    ExportJob.ofData shortStart = .ok shortStartJob ∧ requests.length = 1 ∧
      (∀ request ∈ requests, request.param? "start" = some "2021-1-1T0:0:0Z" ∧ request.param? "end" = some "") ∧
      ¬∃ m, Moment.IsInstant "2021-1-1T0:0:0Z".toList m := by
  intro requests
  have hjob : ExportJob.ofData shortStart = .ok shortStartJob := by decide +kernel
  have hrange : ofTexts? "2021-1-1T0:0:0" "" = .ok shortStartJob.range := by decide +kernel
  obtain ⟨hstart, -, -, hjobs⟩ := sent_as_entered hrange
  obtain ⟨sent, hrequests, hsent⟩ := hjobs shortStartJob (.data rfl rfl hjob) {} shortStartJob.tasks
    Environment.inTurn downWorld
  obtain ⟨m, hm⟩ := hstart _ rfl
  have hone := requests_exportTasks_down (by rfl : ({} : Config).validate = .ok ()) shortStartJob ⟨.source "a", ["n"]⟩
  refine ⟨hjob, congrArg List.length hone, fun request hrequest => ?_, ?_⟩
  · have hmem : request ∈ sent := by
      rw [← List.nil_append sent]
      exact hrequests ▸ hrequest
    exact ⟨(hsent request hmem).start, (hsent request hmem).stop⟩
  · rintro ⟨n, hn⟩
    have hlength := (hm.isTight n hn).length
    have hbare : (Bound.bare "2021-1-1T0:0:0").length = 14 := by decide +kernel
    omega

end SeriesExport
