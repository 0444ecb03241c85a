import SeriesExport.CommandLine.Run
import SeriesExport.Proofs.Flags
import SeriesExport.Proofs.Listing
import SeriesExport.Proofs.Selection

/-!
# What the program does with a selection that is refused

A run is described once: the command's dialogue is held with the server and its product delivered (`run_eq`), or the
settings cannot be used and nothing is asked (`run_of_settings_error`). A configuration that is used is valid
(`validate_of_settings`).

The job of `data` is built when its sources are known. If they are given on the line, a selection that is refused ends
the run before the first request; otherwise all sources are listed first, and the selection is refused after that
(`dialogue_data_of_chosen`, `dialogue_data_of_all`, `run_data_of_invalid`).
-/

namespace SeriesExport.CommandLine

variable {σ : Type}

/-- The world in which a command is started. -/
def launch (server : σ) (token : Option String) : World σ := { server, session := ⟨token, 0⟩ }

section

variable {env : Environment σ} {server : σ} {environmentToken : Option String} {tree : FileTree}
  {arguments : List String} {invocation : Invocation} {config : Config}

/-- A line that can be read is carried out if the configuration can be used. -/
theorem run_eq (hline : Invocation.ofArguments environmentToken arguments = .ok invocation)
    (hsettings : settings (fileBytes tree) invocation.toGeneral = .ok config) :
    run env server environmentToken tree arguments =
      let outcome := (invocation.command.dialogue config).run env (launch server invocation.token)
      ⟨(deliver tree outcome.1).1, (deliver tree outcome.1).2, outcome.2.trace⟩ := by
  rw [run, hline]
  dsimp only
  rw [hsettings]
  rfl

/-- Without a configuration nothing is started. -/
theorem run_of_settings_error (hline : Invocation.ofArguments environmentToken arguments = .ok invocation)
    {fault : SettingsFault} (hsettings : settings (fileBytes tree) invocation.toGeneral = .error fault) :
    run env server environmentToken tree arguments = ⟨.failure fault.message, tree, []⟩ := by
  rw [run, hline]
  dsimp only
  rw [hsettings]

/-- A configuration that is used is valid. -/
theorem validate_of_settings {read : String → Option ByteArray} {general : General}
    (h : settings read general = .ok config) : config.validate = .ok () := by
  rw [settings] at h
  split at h
  all_goals
    obtain ⟨loaded, -, hused⟩ := Result.bind_eq_ok.mp h
    clear h
    dsimp only at hused
    split at hused
    · next hvalid =>
      obtain rfl := Except.ok.inj hused
      exact hvalid
    · cases hused

end

/-! ## Commands -/

section

variable (config : Config) (options : Options) (attributes folder : String)

/-- What is left to do when the sources are listed. -/
def dataOfAll : Result (List DataSource) → Dialogue (Result Product)
  | .error cause => .done (.error cause)
  | .ok sources => produce config folder
      (ExportJob.ofData { toOptions := options, attributes, sources := sources.map DataSource.id })

theorem dialogue_data_of_chosen {chosen : List String} (h : chosen ≠ []) :
    (Command.data options attributes chosen folder).dialogue config =
      produce config folder (ExportJob.ofData { toOptions := options, attributes, sources := chosen }) := by
  rw [Command.dialogue, chosenSources, if_neg h]
  rfl

theorem dialogue_data_of_all : (Command.data options attributes [] folder).dialogue config =
    (Registry.listSources config).bind (dataOfAll config options attributes folder) := by
  show ((Registry.listSources config).bind _).bind _ = _
  rw [Dialogue.bind_assoc]
  refine congrArg (Dialogue.bind _) (funext fun listed => ?_)
  cases listed <;> rfl

end

/-- A listing asks for the first page at least. -/
theorem sent_mem_trace_listSources {env : Environment σ} {config : Config} (hconfig : config.validate = .ok ())
    (w : World σ) : .sent (Registry.pageRequest config w.session.token 1) ∈
      ((Registry.listSources config).run env w).2.trace := by
  obtain ⟨reply, rest, hexchanges⟩ := (Registry.listed_listSources env hconfig w).exists_first
  rw [← World.mem_requests_iff, Dialogue.requests_run, hexchanges]
  exact List.mem_append_right _ List.mem_cons_self

/-! ## Selections that are refused -/

/-- **A selection that is refused.** If there are sources on the line, the program ends with the first flaw of the
selection and sends nothing. If there are none, it lists the sources first; it ends with the flaw if the listing
succeeds, and else with the error of the listing. No file is touched. -/
theorem run_data_of_invalid (env : Environment σ) (server : σ) {environmentToken : Option String} (tree : FileTree)
    {arguments : List String} {invocation : Invocation} {config : Config} {options : Options} {attributes : String}
    {chosen : List String} {folder : String}
    (hline : Invocation.ofArguments environmentToken arguments = .ok invocation)
    (hdata : invocation.command = .data options attributes chosen folder)
    (hsettings : settings (fileBytes tree) invocation.toGeneral = .ok config)
    (hinvalid : DataSelection.Invalid { toOptions := options, attributes, sources := chosen }) :
    let aftermath := run env server environmentToken tree arguments
    let listing := (Registry.listSources config).run env (launch server invocation.token)
    ∃ cause, DataSelection.Flaw { toOptions := options, attributes, sources := chosen } cause ∧
      aftermath.tree = tree ∧
      (chosen ≠ [] → aftermath.report = .failure cause.message ∧ aftermath.history = []) ∧
      (chosen = [] → .sent (Registry.pageRequest config invocation.token 1) ∈ aftermath.history ∧
        aftermath.history = listing.2.trace ∧
        aftermath.report = match listing.1 with
          | .ok _ => .failure cause.message
          | .error failure => failureReport failure) := by
  intro aftermath listing
  obtain ⟨cause, hflaw⟩ := hinvalid.exists_flaw
  have hlayout := layout_ne_perAggregation hline hdata
  have hrefused : ∀ sources,
      ExportJob.ofData { toOptions := options, attributes, sources } = .error cause := fun sources =>
    (ExportJob.ofData_eq_error_iff hlayout).mpr (hflaw.withSources sources)
  have hreport : failureReport cause = .failure cause.message := by
    cases hflaw <;> rfl
  have hrun : aftermath = _ := run_eq hline hsettings
  rw [hdata] at hrun
  refine ⟨cause, hflaw, ?_⟩
  by_cases hchosen : chosen = []
  · subst hchosen
    rw [dialogue_data_of_all, Dialogue.run_bind] at hrun
    have hresult : (dataOfAll config options attributes folder listing.1).run env listing.2 =
        (.error (match listing.1 with
          | .ok _ => cause
          | .error failure => failure), listing.2) := by
      cases listing.1 with
      | error failure => rfl
      | ok sources => rw [dataOfAll, hrefused]; rfl
    have hlisting : (Registry.listSources config).run env (launch server invocation.token) = listing := rfl
    rw [hlisting, hresult] at hrun
    rw [hrun]
    refine ⟨rfl, fun h => absurd rfl h, fun _ => ⟨?_, rfl, ?_⟩⟩
    · exact sent_mem_trace_listSources (validate_of_settings hsettings) (launch server invocation.token)
    · cases listing.1 with
      | ok sources => exact hreport
      | error failure => rfl
  · rw [dialogue_data_of_chosen config options attributes folder hchosen, hrefused] at hrun
    rw [hrun]
    exact ⟨rfl, fun _ => ⟨hreport, rfl⟩, fun h => absurd h hchosen⟩

/-! ### An attribute that there is not -/

/-- A registry of one source. -/
def oneSourceServer : Environment Unit where
  answer _ _ := (.answered ⟨200, "\x7b\"total\":1,\"entries\":[\x7b\"id\":\"a\"\x7d]\x7d"⟩, ())
  aborts _ := false

theorem unknown?_bogus : Catalog.data.unknown? (attributeNames "bogus") = some "bogus" := by decide +kernel

theorem invalid_bogus (sources : List String) : DataSelection.Invalid { attributes := "bogus", sources } :=
  .unknownAttribute (List.mem_of_find?_eq_some unknown?_bogus) (by decide)

theorem eq_of_flaw_bogus {sources : List String} {cause : ExportError}
    (h : DataSelection.Flaw { attributes := "bogus", sources } cause) : cause = .invalidAttribute "bogus" := by
  have hnames : attributeNames "bogus" ≠ [] := by decide +kernel
  cases h with
  | noAttributes hnone => exact absurd hnone hnames
  | unknownAttribute hname => rw [Option.some.inj (unknown?_bogus.symm.trans hname)]
  | window _ hnone => cases unknown?_bogus.symm.trans hnone

/-- With a source the server hears nothing, and without one it is asked for the first page of the registry. -/
theorem run_data_of_invalid_bogus :
    let named := run oneSourceServer () none {} ["data", "--source", "a", "--attributes", "bogus"]
    let unnamed := run oneSourceServer () none {} ["data", "--attributes", "bogus"]
    named.report = .failure "bogus is not a valid attribute" ∧ named.history = [] ∧
      unnamed.report = .failure "bogus is not a valid attribute" ∧
      .sent (Registry.pageRequest {} none 1) ∈ unnamed.history := by
  intro named unnamed
  have hnamed : Invocation.ofArguments none ["data", "--source", "a", "--attributes", "bogus"] =
      .ok ⟨{}, .data {} "bogus" ["a"] "."⟩ := rfl
  have hunnamed : Invocation.ofArguments none ["data", "--attributes", "bogus"] =
      .ok ⟨{}, .data {} "bogus" [] "."⟩ := rfl
  have hsettings : settings (fileBytes {}) {} = .ok {} := rfl
  obtain ⟨cause, hflaw, -, hchosen, -⟩ :=
    run_data_of_invalid oneSourceServer () {} hnamed rfl hsettings (invalid_bogus ["a"])
  obtain ⟨cause', hflaw', -, -, hall⟩ :=
    run_data_of_invalid oneSourceServer () {} hunnamed rfl hsettings (invalid_bogus [])
  obtain rfl := eq_of_flaw_bogus hflaw
  obtain rfl := eq_of_flaw_bogus hflaw'
  obtain ⟨hreport, hhistory⟩ := hchosen (by decide)
  obtain ⟨hsent, -, hreport'⟩ := hall rfl
  have hlisting : ((Registry.listSources {}).run oneSourceServer (launch () none)).1 = .ok [⟨"a", [], []⟩] := by cbv
  refine ⟨hreport, hhistory, ?_, hsent⟩
  rw [hlisting] at hreport'
  exact hreport'

end SeriesExport.CommandLine
