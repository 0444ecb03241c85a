import SeriesExport.Proofs.FailFast
import SeriesExport.Proofs.Grouping
import SeriesExport.Proofs.Program
import SeriesExport.Proofs.Saving
import SeriesExport.Proofs.Stages

/-!
# A file is written just if everything succeeds

An export command goes through stages: the listing if it needs one, the grouping, the validation (`Prepared`), the
pages of all tasks and the file (`Exports`). If all of them succeed, the file is saved and its path is shown. Otherwise
the files are as they were, and no path is shown (`run_export`).
-/

namespace SeriesExport

/-! ## Layouts of jobs -/

theorem ExportJob.layout_of_ofData {s : DataSelection} {job : ExportJob} (h : ofData s = .ok job) :
    job.layout = s.layout := by
  by_cases hlayout : s.layout = .perAggregation
  · rw [ofData, if_pos hlayout] at h
    cases h
  · rw [ofData_eq hlayout] at h
    split at h
    · cases h
    · split at h
      · cases h
      · cases hrange : rangeOf s.toOptions with
        | error cause => rw [hrange] at h; cases h
        | ok range =>
          rw [hrange] at h
          obtain rfl := Except.ok.inj h
          rfl

theorem ExportJob.layout_of_ofAggregations {s : AggregationSelection} {groups : AggregationGroups} {job : ExportJob}
    (h : ofAggregations s groups = .ok job) : job.layout = s.layout := by
  unfold ofAggregations at h
  split at h
  · cases h
  split at h
  · cases h
  · obtain ⟨projections, -, h⟩ := Result.bind_eq_ok.mp h
    obtain ⟨range, -, h⟩ := Result.bind_eq_ok.mp h
    obtain rfl := Except.ok.inj h
    rfl

namespace CommandLine

variable {σ : Type}

/-- The folder of an export; none if the command is no export. -/
def Command.folder? : Command → Option String
  | .sources => none
  | .data _ _ _ folder => some folder
  | .aggregations _ _ folder => some folder

/-! ## Stages -/

/-- The listing that a command needs, the grouping and the validation have succeeded: the job, and the world then. -/
inductive Prepared (env : Environment σ) (config : Config) (w : World σ) : Command → ExportJob → World σ → Prop
  | chosen {options : Options} {attributes folder : String} {chosen : List String} {job : ExportJob} : chosen ≠ [] →
      ExportJob.ofData { toOptions := options, attributes, sources := chosen } = .ok job →
      Prepared env config w (.data options attributes chosen folder) job w
  | listed {options : Options} {attributes folder : String} {sources : List DataSource} {job : ExportJob}
      {v : World σ} : (Registry.listSources config).run env w = (.ok sources, v) →
      ExportJob.ofData { toOptions := options, attributes, sources := sources.map DataSource.id } = .ok job →
      Prepared env config w (.data options attributes [] folder) job v
  | grouped {options : Options} {choices : List Choice} {folder : String} {sources : List DataSource}
      {groups : AggregationGroups} {job : ExportJob} {v : World σ} :
      (Registry.listSources config).run env w = (.ok sources, v) → groupAggregations sources = .ok groups →
      ExportJob.ofAggregations
        { toOptions := options, choices := if choices = [] then defaultChoices groups else choices } groups = .ok job →
      Prepared env config w (.aggregations options choices folder) job v

/-- All stages of an export succeed, the configuration included, and `artifact` is its file. -/
def Exports (env : Environment σ) (server : σ) (tree : FileTree) (invocation : Invocation) (layout : Layout)
    (artifact : Artifact) : Prop :=
  ∃ config job w store, settings (fileBytes tree) invocation.toGeneral = .ok config ∧
    Prepared env config (launch server invocation.token) invocation.command job w ∧
    ((fetch config job job.tasks).run env w).1 = .ok store ∧ serialize store layout = .ok artifact

section

variable {env : Environment σ} {config : Config} {w v : World σ} {command : Command} {job : ExportJob} {folder : String}

/-- What is left to do when the sources are listed. -/
def aggregationsOfAll (config : Config) (options : Options) (choices : List Choice) (folder : String) :
    Result (List DataSource) → Dialogue (Result Product)
  | .error cause => .done (.error cause)
  | .ok sources => produce config folder (aggregationJob options choices sources)

theorem dialogue_aggregations (config : Config) (options : Options) (choices : List Choice) (folder : String) :
    (Command.aggregations options choices folder).dialogue config =
      (Registry.listSources config).bind (aggregationsOfAll config options choices folder) := by
  refine congrArg (Dialogue.bind _) (funext fun listed => ?_)
  cases listed <;> rfl

/-- When everything is prepared, the job is exported. -/
theorem run_dialogue_of_prepared (h : Prepared env config w command job v) (hfolder : command.folder? = some folder) :
    (command.dialogue config).run env w = (produce config folder (.ok job)).run env v := by
  cases h with
  | chosen hchosen hjob =>
    obtain rfl := Option.some.inj hfolder
    rw [dialogue_data_of_chosen config _ _ _ hchosen, hjob]
  | listed hlisted hjob =>
    obtain rfl := Option.some.inj hfolder
    rw [dialogue_data_of_all, Dialogue.run_bind, hlisted, dataOfAll, hjob]
  | grouped hlisted hgroups hjob =>
    obtain rfl := Option.some.inj hfolder
    rw [dialogue_aggregations, Dialogue.run_bind, hlisted, aggregationsOfAll, aggregationJob, hgroups]
    show (produce config _ (ExportJob.ofAggregations _ _)).run env v = _
    rw [hjob]

/-- Otherwise the command fails. -/
theorem prepared_or_error (env : Environment σ) (config : Config) (w : World σ)
    (hfolder : command.folder? = some folder) : (∃ job v, Prepared env config w command job v) ∨
      ∃ cause, ((command.dialogue config).run env w).1 = .error cause := by
  cases command with
  | sources => cases hfolder
  | data options attributes chosen folder =>
    by_cases hchosen : chosen = []
    · subst hchosen
      rw [dialogue_data_of_all, Dialogue.run_bind]
      cases hlisting : (Registry.listSources config).run env w with
      | mk listed v =>
      cases listed with
      | error cause => exact .inr ⟨cause, rfl⟩
      | ok sources =>
        cases hjob : ExportJob.ofData { toOptions := options, attributes, sources := sources.map DataSource.id } with
        | error cause => exact .inr ⟨cause, by rw [dataOfAll, hjob]; rfl⟩
        | ok job => exact .inl ⟨job, v, .listed hlisting hjob⟩
    · rw [dialogue_data_of_chosen config options attributes folder hchosen]
      cases hjob : ExportJob.ofData { toOptions := options, attributes, sources := chosen } with
      | error cause => exact .inr ⟨cause, rfl⟩
      | ok job => exact .inl ⟨job, w, .chosen hchosen hjob⟩
  | aggregations options choices folder =>
    rw [dialogue_aggregations, Dialogue.run_bind]
    cases hlisting : (Registry.listSources config).run env w with
    | mk listed v =>
    cases listed with
    | error cause => exact .inr ⟨cause, rfl⟩
    | ok sources =>
      rw [aggregationsOfAll]
      cases hjob : aggregationJob options choices sources with
      | error cause => exact .inr ⟨cause, rfl⟩
      | ok job =>
        obtain ⟨groups, hgroups, hjob⟩ := Result.bind_eq_ok.mp hjob
        exact .inl ⟨job, v, .grouped hlisting hgroups hjob⟩

/-- The file of a job, if its pages come and the file can be made. -/
theorem run_produce (env : Environment σ) (config : Config) (folder : String) (job : ExportJob) (w : World σ) :
    ((produce config folder (.ok job)).run env w).1 =
      (((fetch config job job.tasks).run env w).1.bind (serialize · job.layout)).map (.file · folder) := by
  rw [produce]
  refine (congrArg Prod.fst (Dialogue.run_bind env _ (job.run config) w)).trans ?_
  rw [ExportJob.run, run_exportTasks]
  rfl

/-- A job has the layout that was asked for. -/
theorem layout_of_prepared (h : Prepared env config w command job v) : command.layout? = some job.layout := by
  cases h with
  | chosen _ hjob => rw [ExportJob.layout_of_ofData hjob]; rfl
  | listed _ hjob => rw [ExportJob.layout_of_ofData hjob]; rfl
  | grouped _ _ hjob => rw [ExportJob.layout_of_ofAggregations hjob]; rfl

end

/-- No path is shown of what fails. -/
theorem output_failureReport (cause : ExportError) : (failureReport cause).output = "" := by
  unfold failureReport
  split <;> rfl

/-- **A file is written just if everything succeeds.** If all stages of an export succeed and the file can be saved, it
is saved under the path that is shown, and no other file is touched. If some stage fails or the export is aborted, all
files and folders are as they were, and no path is shown. Listings and fetches succeed just if every reply is a page
and nobody aborts. -/
theorem run_export (env : Environment σ) (server : σ) {environmentToken : Option String} (tree : FileTree)
    {arguments : List String} {invocation : Invocation} {folder : String}
    (hline : Invocation.ofArguments environmentToken arguments = .ok invocation)
    (hfolder : invocation.command.folder? = some folder) :
    let aftermath := run env server environmentToken tree arguments
    let Succeeds := Exports env server tree invocation (flagLayout arguments)
    (∀ artifact path tree', Succeeds artifact → tree.save folder artifact = (.ok path, tree') →
        aftermath.report = { output := path ++ "\n" } ∧ aftermath.tree = tree' ∧
        tree.Saved folder artifact path tree') ∧
      ((∀ artifact, ¬Succeeds artifact) → aftermath.tree = tree ∧ aftermath.report.output = "") ∧
      ∀ config, settings (fileBytes tree) invocation.toGeneral = .ok config → ∀ (w : World σ) (job : ExportJob),
        ((∃ sources, ((Registry.listSources config).run env w).1 = .ok sources) ↔
          ∀ exchange ∈ (Registry.listSources config).exchanges env w, exchange.2.registryPage?.isSome) ∧
        ((∃ store, ((fetch config job job.tasks).run env w).1 = .ok store) ↔
          (fetch config job job.tasks).Answered Reply.page? env w) := by
  intro aftermath Succeeds
  refine ⟨?_, ?_, ?_⟩
  · rintro artifact path tree' ⟨config, job, v, store, hsettings, hprepared, hfetch, hserialize⟩ hsave
    have hlayout := layout_of_arguments hline (layout_of_prepared hprepared)
    have hproduct : ((invocation.command.dialogue config).run env (launch server invocation.token)).1 =
        .ok (.file artifact folder) := by
      rw [run_dialogue_of_prepared hprepared hfolder, run_produce, hfetch, hlayout]
      show (serialize store (flagLayout arguments)).map (Product.file · folder) = _
      rw [hserialize]
      rfl
    have hrun : aftermath = _ := run_eq hline hsettings
    simp only [hproduct, deliver, hsave] at hrun
    rw [hrun]
    exact ⟨rfl, rfl, FileTree.saved_of_save hsave⟩
  · intro hfail
    cases hsettings : settings (fileBytes tree) invocation.toGeneral with
    | error fault =>
      have hrun : aftermath = ⟨.failure fault.message, tree, []⟩ := run_of_settings_error hline hsettings
      rw [hrun]
      exact ⟨rfl, rfl⟩
    | ok config =>
      obtain ⟨cause, hcause⟩ : ∃ cause,
          ((invocation.command.dialogue config).run env (launch server invocation.token)).1 = .error cause := by
        rcases prepared_or_error env config (launch server invocation.token) hfolder with ⟨job, v, hprepared⟩ | herror
        · have hlayout := layout_of_arguments hline (layout_of_prepared hprepared)
          rw [run_dialogue_of_prepared hprepared hfolder, run_produce, hlayout]
          cases hfetch : ((fetch config job job.tasks).run env v).1 with
          | error cause => exact ⟨cause, rfl⟩
          | ok store =>
            cases hserialize : serialize store (flagLayout arguments) with
            | error cause => exact ⟨cause, by rw [Except.bind, hserialize]; rfl⟩
            | ok artifact =>
              exact absurd ⟨config, job, v, store, hsettings, hprepared, hfetch, hserialize⟩ (hfail artifact)
        · exact herror
      have hrun : aftermath = _ := run_eq hline hsettings
      simp only [hcause, deliver] at hrun
      rw [hrun]
      exact ⟨rfl, output_failureReport cause⟩
  · intro config hsettings w job
    have hconfig := validate_of_settings hsettings
    exact ⟨Registry.listSources_eq_ok_iff hconfig env w, decided_fetch hconfig job job.tasks env w⟩

/-! ### A file that is replaced, and one that is kept -/

/-- The names of the records of a source, to be saved in a folder. -/
def namesLine : List String := ["data", "--source", "a", "--attributes", "name", "--out", "out"]

def namesInvocation : Invocation := ⟨{}, .data {} "name" ["a"] "out"⟩

def namesSetting : FetchSetting := ⟨{}, namesJob.range, namesJob.timeFormat⟩

def namesTask : FetchTask := ⟨.source "a", ["n"]⟩

theorem line_names : Invocation.ofArguments none namesLine = .ok namesInvocation := by rfl

theorem pageSize_pos_names : ∀ entity, 0 < pageSize namesSetting.config entity :=
  pageSize_pos (by rfl : ({} : Config).validate = .ok ())

theorem prepared_names (server : Stream' Reply) :
    Prepared Environment.inTurn {} (launch server none) namesInvocation.command namesJob (launch server none) :=
  .chosen (by decide) (by decide +kernel)

/-- The file of an earlier export. -/
def earlierTree : FileTree := { folders := [["out"]], files := [(["out", "export.csv"], .text "old")] }

/-- The file of one record. -/
def oneRecordFile : Artifact := ⟨"export.csv", "text/csv;charset=utf-8", .text "x"⟩

/-- The page of one record. -/
def oneRecordText : String := "\x7b\"total\":1,\"data\":\x7b\"e\":[\x7b\"n\":\"x\"\x7d]\x7d\x7d"

/-- One record again and again. -/
def oneRecord : Stream' Reply := .const (.answered ⟨200, oneRecordText⟩)

theorem exports_names :
    Exports Environment.inTurn oneRecord earlierTree namesInvocation (flagLayout namesLine) oneRecordFile := by
  have hpage : (Stream'.get oneRecord 0).page? = some ⟨1, some [[("n", .string "x")]]⟩ := by cbv
  have hlast : PagesFrom (pageSize namesSetting.config namesTask.entity) 1 [⟨1, some [[("n", .string "x")]]⟩] :=
    .last (by decide)
  obtain ⟨v, hrun, -⟩ := run_fetchTasks (w := launch oneRecord none) Environment.quiet_inTurn 1 pageSize_pos_names
    [(namesTask, [⟨1, some [[("n", .string "x")]]⟩])] {} rfl (List.forall_mem_singleton.mpr hlast)
    (.cons hpage (.nil _))
  have hfetch : (fetch {} namesJob namesJob.tasks).run Environment.inTurn (launch oneRecord none) =
      (.ok ⟨[(.source "a", [[.string "x"]])]⟩, v) := hrun
  exact ⟨{}, namesJob, launch oneRecord none, _, rfl, prepared_names oneRecord, congrArg Prod.fst hfetch, by cbv⟩

/-- The same record, with the status of a server that is down. -/
def unavailable : Stream' Reply := .const (.answered ⟨503, oneRecordText⟩)

theorem not_exports_names (artifact : Artifact) :
    ¬Exports Environment.inTurn unavailable earlierTree namesInvocation (flagLayout namesLine) artifact := by
  rintro ⟨config, job, v, store, hsettings, hprepared, hfetch, -⟩
  obtain rfl : {} = config := Except.ok.inj hsettings
  have hprepared : Prepared Environment.inTurn {} (launch unavailable none) (.data {} "name" ["a"] "out") job v :=
    hprepared
  cases hprepared with
  | chosen _ hjob =>
    have hnames : ExportJob.ofData { attributes := "name", sources := ["a"] } = .ok namesJob := by decide +kernel
    obtain rfl := Except.ok.inj (hnames.symm.trans hjob)
    have hlast : 0 < lastPage (pageSize namesSetting.config namesTask.entity) (Stream'.const twoRecords) :=
      (lastPage_mem (pageSize_pos_names namesTask.entity) _).1
    obtain ⟨cause, hfault⟩ := Reply.exists_fault (pageRequest namesSetting none namesTask.entity 1)
      (rfl : (unavailable.get 0).page? = none)
    obtain ⟨u, hrun, -⟩ := run_fetchTasks_of_fault (w := launch unavailable none) 1 pageSize_pos_names [] namesTask []
      rfl hlast nofun hfault
    have hrun : (fetch {} namesJob namesJob.tasks).run Environment.inTurn (launch unavailable none) = (_, u) := hrun
    rw [hrun] at hfetch
    cases hfetch

/-- The file of the earlier export is replaced if the record comes with a good status, and kept if the server is
down. -/
theorem run_export_names :
    let done := run Environment.inTurn oneRecord none earlierTree namesLine
    let failed := run Environment.inTurn unavailable none earlierTree namesLine
    done.report = { output := "out/export.csv\n" } ∧ done.tree.read? "out/export.csv" = some (.text "x") ∧
      failed.tree = earlierTree ∧ failed.report.output = "" := by
  intro done failed
  obtain ⟨hdone, -, -⟩ := run_export Environment.inTurn oneRecord earlierTree line_names rfl
  obtain ⟨-, hfailed, -⟩ := run_export Environment.inTurn unavailable earlierTree line_names rfl
  have hsave : earlierTree.save "out" oneRecordFile =
      (.ok "out/export.csv", { folders := [["out"]], files := [(["out", "export.csv"], .text "x")] }) := by
    decide +kernel
  obtain ⟨htree, houtput⟩ := hfailed not_exports_names
  obtain ⟨hreport, htree', hsaved⟩ := hdone oneRecordFile _ _ exports_names hsave
  refine ⟨hreport, ?_, htree, houtput⟩
  rw [htree']
  exact hsaved.content

end CommandLine

end SeriesExport
