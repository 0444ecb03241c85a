import SeriesExport.Proofs.Defaults
import SeriesExport.Proofs.Delivery
import SeriesExport.Proofs.Trimming
import SeriesExport.Proofs.Weaving

/-!
# Everything, chosen by name

An option chooses an aggregation by a text, the id before the first equals sign and the attributes behind it. It can
choose the ids that have no equals sign and no blanks at their ends, and no others (`isChoosable_of_choiceOf?`).

If all ids are like that, it is the same whether nothing is chosen or every group with its default attributes, one
option for each, in any order and at any place among the other options: the job is the same, and so is all that the
program does. If one is not, it is not the same job (`run_explicitChoices`).
-/

namespace SeriesExport

namespace Text

variable {sep : Char} {cs front back : List Char}

theorem cut?_append (h : sep ∉ front) : cut? sep (front ++ sep :: back) = some (front, back) := by
  have hfront : ∀ c ∈ front, decide (c ≠ sep) = true := by
    intro c hc
    refine decide_eq_true fun heq => ?_
    rw [heq] at hc
    exact h hc
  rw [cut?, List.dropWhile_append_of_pos hfront, List.takeWhile_append_of_pos hfront]
  simp

theorem exists_cut?_of_mem (h : sep ∈ cs) : ∃ parts, cut? sep cs = some parts := by
  unfold cut?
  split
  · next hdrop =>
    have hall := List.dropWhile_eq_nil_iff.mp hdrop sep h
    simp at hall
  · exact ⟨_, rfl⟩

theorem not_mem_of_cut? (h : cut? sep cs = some (front, back)) : sep ∉ front := by
  unfold cut? at h
  split at h
  · cases h
  · obtain ⟨rfl, -⟩ := Prod.mk.inj (Option.some.inj h)
    intro hmem
    simpa using List.mem_takeWhile_imp hmem

end Text

namespace CommandLine

/-! ## Ids that can be chosen -/

/-- No equals sign, and no blank at either end. -/
structure IsChoosable (id : String) : Prop where
  noEquals : '=' ∉ id.toList
  trimmed : Text.IsTrimmed id.toList

theorem isChoosable_iff {id : String} :
    IsChoosable id ↔ '=' ∉ id.toList ∧ Text.trimChars id.toList = id.toList := by
  rw [Text.trimChars_eq_self_iff]
  exact ⟨fun h => ⟨h.noEquals, h.trimmed⟩, fun h => ⟨h.1, h.2⟩⟩

instance : DecidablePred IsChoosable := fun _ => decidable_of_iff _ isChoosable_iff.symm

theorem choiceOf?_of_isChoosable {id : String} (h : IsChoosable id) (attributes : String) :
    choiceOf? (id ++ "=" ++ attributes) = some ⟨id, attributes⟩ := by
  have hcut : Text.cut? '=' (id ++ "=" ++ attributes).toList = some (id.toList, attributes.toList) := by
    rw [String.toList_append, String.toList_append, List.append_assoc]
    exact Text.cut?_append h.noEquals
  rw [choiceOf?, hcut]
  simp [Text.trimChars_eq_self_iff.mpr h.trimmed]

/-- Every text with an equals sign chooses something. -/
theorem isSome_choiceOf? {text : String} (h : '=' ∈ text.toList) : (choiceOf? text).isSome := by
  obtain ⟨parts, hcut⟩ := Text.exists_cut?_of_mem h
  rw [choiceOf?, hcut]
  rfl

/-- Whatever is chosen has an id like that. -/
theorem isChoosable_of_choiceOf? {text : String} {choice : Choice} (h : choiceOf? text = some choice) :
    IsChoosable choice.aggregation := by
  obtain ⟨⟨front, back⟩, hcut, heq⟩ := Option.bind_eq_some_iff.mp h
  obtain rfl := Option.some.inj heq
  refine ⟨fun hmem => ?_, ?_⟩
  · rw [String.toList_ofList] at hmem
    exact Text.not_mem_of_cut? hcut (Text.mem_of_mem_trimChars hmem)
  · rw [String.toList_ofList]
    exact Text.isTrimmed_trimChars front

/-! ## Jobs -/

/-- What an option says that chooses the group with its default attributes. -/
def explicitChoice (g : AggregationGroup) : String := g.id ++ "=" ++ g.defaultAttributes

theorem isSome_choiceOf?_explicitChoice (g : AggregationGroup) : (choiceOf? (explicitChoice g)).isSome := by
  apply isSome_choiceOf?
  rw [explicitChoice, String.toList_append, String.toList_append]
  simp

theorem filterMap_choiceOf?_explicitChoice {groups : AggregationGroups} (h : ∀ g ∈ groups, IsChoosable g.id) :
    (groups.map explicitChoice).filterMap choiceOf? = defaultChoices groups := by
  rw [List.filterMap_map, defaultChoices, ← List.filterMap_eq_map]
  exact List.filterMap_congr fun g hg => choiceOf?_of_isChoosable (h g hg) g.defaultAttributes

section

variable {listed : List DataSource} {groups : AggregationGroups} {values : List String}

theorem aggregationJob_of_ne_nil (hgroups : groupAggregations listed = .ok groups) (options : Options)
    {choices : List Choice} (hne : choices ≠ []) :
    aggregationJob options choices listed = ExportJob.ofAggregations { toOptions := options, choices } groups := by
  rw [aggregationJob, hgroups]
  show ExportJob.ofAggregations { toOptions := options, choices := if choices = [] then _ else choices } groups = _
  rw [if_neg hne]

/-- The defaults in another order are the defaults. -/
theorem aggregationJob_of_perm (hgroups : groupAggregations listed = .ok groups) (options : Options)
    {choices : List Choice} (hperm : choices.Perm (defaultChoices groups)) :
    aggregationJob options choices listed = aggregationJob options [] listed := by
  by_cases hne : choices = []
  · rw [hne]
  · have haggregations : (defaultChoices groups).map Choice.aggregation = groups.map AggregationGroup.id := by
      rw [defaultChoices, List.map_map]
      rfl
    have hdistinct : ((defaultChoices groups).map Choice.aggregation).Nodup := by
      rw [haggregations]
      exact (AggregationGroups.wellFormed_ofSources hgroups).nodup_ids
    have hknown : ∀ c ∈ defaultChoices groups, ∃ g ∈ groups, g.id = c.aggregation := by
      intro c hc
      obtain ⟨g, hg, rfl⟩ := List.mem_map.mp hc
      exact ⟨g, hg, rfl⟩
    rw [aggregationJob_of_ne_nil hgroups options hne, aggregationJob_of_groups hgroups]
    exact ExportJob.ofAggregations_of_perm (s := { toOptions := options, choices := defaultChoices groups }) hdistinct
      hknown hperm

/-- If every group is exported, every group is chosen. -/
theorem isChoosable_of_job_eq (hgroups : groupAggregations listed = .ok groups)
    (hvalues : values.Perm (groups.map explicitChoice)) {options : Options} {job : ExportJob}
    (hdefault : aggregationJob options [] listed = .ok job)
    (hexplicit : aggregationJob options (values.filterMap choiceOf?) listed = .ok job) :
    ∀ g ∈ groups, IsChoosable g.id := by
  intro g hg
  have hne : values.filterMap choiceOf? ≠ [] := by
    intro hnil
    have hnone := List.filterMap_eq_nil_iff.mp hnil _ (hvalues.symm.subset (List.mem_map_of_mem hg))
    have hsome := isSome_choiceOf?_explicitChoice g
    rw [hnone] at hsome
    cases hsome
  rw [aggregationJob_of_ne_nil hgroups options hne] at hexplicit
  rw [aggregationJob_of_groups hgroups] at hdefault
  obtain ⟨-, -, -, range, -, rfl⟩ := ExportJob.ofAggregations_eq_ok_iff.mp hexplicit
  obtain ⟨-, -, -, range', -, hjob⟩ := ExportJob.ofAggregations_eq_ok_iff.mp hdefault
  have hprojections : groups.filterMap (·.projection? (values.filterMap choiceOf?)) =
      groups.filterMap (·.projection? (defaultChoices groups)) :=
    Target.aggregations.inj (congrArg ExportJob.target hjob)
  have hids := (AggregationGroups.wellFormed_ofSources hgroups).nodup_ids
  have hdefaults : ∀ g ∈ groups, (g.projection? (defaultChoices groups)).isSome := by
    intro g hg
    rw [AggregationGroup.projection?, find?_defaultChoices hids (List.Sublist.refl groups) hg, if_pos hg]
    rfl
  have hlength := List.filterMap_length_eq_length.mpr hdefaults
  rw [← hprojections] at hlength
  have hchosen := List.filterMap_length_eq_length.mp hlength g hg
  rw [AggregationGroup.projection?, Option.isSome_map] at hchosen
  obtain ⟨choice, hfind⟩ := Option.isSome_iff_exists.mp hchosen
  obtain ⟨value, -, hchoice⟩ := List.mem_filterMap.mp (List.mem_of_find?_eq_some hfind)
  have hfound := List.find?_some hfind
  have hid : choice.aggregation = g.id := of_decide_eq_true hfound
  rw [← hid]
  exact isChoosable_of_choiceOf? hchoice

end

/-! ## Runs -/

section

variable {σ : Type} (env : Environment σ) (server : σ) (environmentToken : Option String) (tree : FileTree)

/-- If a run of the line lists the sources, they are these. -/
def Lists (arguments : List String) (listed : List DataSource) : Prop :=
  ∀ invocation config sources, Invocation.ofArguments environmentToken arguments = .ok invocation →
    settings (fileBytes tree) invocation.toGeneral = .ok config →
    ((Registry.listSources config).run env (launch server invocation.token)).1 = .ok sources → sources = listed

/-- A run with choices is the run without them if they make no difference to the job. -/
theorem run_woven {listed : List DataSource} {front rest woven values : List String} {general : Option General}
    (hline : programLevel.read (some programLevel.blank) (front ++ "aggr" :: rest) = .ok (general, some ("aggr", rest)))
    (hwoven : Woven values rest woven) (hvalues : ∀ value ∈ values, (choiceOf? value).isSome)
    (hlists : Lists env server environmentToken tree (front ++ "aggr" :: rest) listed)
    (hjob : ∀ options, aggregationJob options (values.filterMap choiceOf?) listed = aggregationJob options [] listed) :
    run env server environmentToken tree (front ++ "aggr" :: woven) =
      run env server environmentToken tree (front ++ "aggr" :: rest) := by
  rcases ofArguments_woven environmentToken hline hwoven hvalues with
    ⟨stop, hplain, hchosen⟩ | ⟨inner, options, folder, hplain, hchosen⟩
  · rw [run, run, hplain, hchosen]
  · cases hsettings : settings (fileBytes tree) inner with
    | error fault => rw [run_of_settings_error hplain hsettings, run_of_settings_error hchosen hsettings]
    | ok config =>
      rw [run_eq hplain hsettings, run_eq hchosen hsettings]
      dsimp only
      rw [dialogue_aggregations, dialogue_aggregations, Dialogue.run_bind, Dialogue.run_bind]
      cases hlisting : ((Registry.listSources config).run env (launch server inner.token)).1 with
      | error cause => rfl
      | ok sources =>
        obtain rfl := hlists _ config sources hplain hsettings hlisting
        simp only [aggregationsOfAll, hjob]

end

/-- **Choosing everything is choosing nothing.** Let there be one option for each group, which chooses it with its
default attributes. If all ids can be chosen, the job is the one of a line without these options or is refused for the
same reason, and whatever the server does the program does the same, wherever the options are put among the others. If
the job is the same and there is one, all ids can be chosen. -/
theorem run_explicitChoices {listed : List DataSource} {groups : AggregationGroups}
    (hgroups : groupAggregations listed = .ok groups) {values : List String}
    (hvalues : values.Perm (groups.map explicitChoice)) :
    ((∀ g ∈ groups, IsChoosable g.id) →
      (∀ options, aggregationJob options (values.filterMap choiceOf?) listed = aggregationJob options [] listed) ∧
      ∀ {σ : Type} (env : Environment σ) (server : σ) (environmentToken : Option String) (tree : FileTree)
        {front rest woven : List String} {general : Option General},
        programLevel.read (some programLevel.blank) (front ++ "aggr" :: rest) = .ok (general, some ("aggr", rest)) →
        Woven values rest woven → Lists env server environmentToken tree (front ++ "aggr" :: rest) listed →
        run env server environmentToken tree (front ++ "aggr" :: woven) =
          run env server environmentToken tree (front ++ "aggr" :: rest)) ∧
    ∀ options job, aggregationJob options [] listed = .ok job →
      aggregationJob options (values.filterMap choiceOf?) listed = .ok job → ∀ g ∈ groups, IsChoosable g.id := by
  refine ⟨fun hchoosable => ?_, fun options job => isChoosable_of_job_eq hgroups hvalues⟩
  have hperm : (values.filterMap choiceOf?).Perm (defaultChoices groups) := by
    rw [← filterMap_choiceOf?_explicitChoice hchoosable]
    exact hvalues.filterMap choiceOf?
  have hjob : ∀ options, aggregationJob options (values.filterMap choiceOf?) listed =
      aggregationJob options [] listed := by
    intro options
    exact aggregationJob_of_perm hgroups options hperm
  have hsome : ∀ value ∈ values, (choiceOf? value).isSome := by
    intro value hvalue
    obtain ⟨g, -, rfl⟩ := List.mem_map.mp (hvalues.subset hvalue)
    exact isSome_choiceOf?_explicitChoice g
  refine ⟨hjob, ?_⟩
  intro σ env server environmentToken tree front rest woven general hline hwoven hlists
  exact run_woven env server environmentToken tree hline hwoven hsome hlists hjob

/-! ### Ids that can be chosen, and one that cannot -/

/-- A registry of one source with two aggregations. -/
def twoAggregationsText : String :=
  "\x7b\"total\":1,\"entries\":[\x7b\"id\":\"s\",\"aggregation\":[" ++
    "\x7b\"id\":\"m\",\"aggregates\":[\"mean\"],\"interval\":\"1h\"\x7d," ++
    "\x7b\"id\":\"x\",\"aggregates\":[\"min\",\"max\"],\"interval\":\"1h\"\x7d]\x7d]\x7d"

def twoAggregationsServer : Environment Unit where
  answer _ _ := (.answered ⟨200, twoAggregationsText⟩, ())
  aborts _ := false

def twoAggregations : List DataSource := [⟨"s", [⟨"m", ["mean"], "1h", ""⟩, ⟨"x", ["min", "max"], "1h", ""⟩], []⟩]

def meanGroup : AggregationGroup := ⟨"m", ["mean"], "1h", .infinite, ["s"]⟩

def extremesGroup : AggregationGroup := ⟨"x", ["min", "max"], "1h", .infinite, ["s"]⟩

theorem lists_twoAggregations :
    Lists twoAggregationsServer () none {} ["aggr", "--zip"] twoAggregations := by
  intro invocation config sources hline hsettings hlisting
  have hinvocation : Invocation.ofArguments none ["aggr", "--zip"] =
      .ok ⟨{}, .aggregations { layout := .perEntity } [] "."⟩ := rfl
  obtain rfl := Except.ok.inj (hinvocation.symm.trans hline)
  obtain rfl : {} = config := Except.ok.inj hsettings
  have hlisted : ((Registry.listSources {}).run twoAggregationsServer (launch () none)).1 = .ok twoAggregations := by
    cbv
  exact Except.ok.inj (hlisting.symm.trans hlisted)

/-- The options that choose may come in another order than the aggregations, and on either side of another option. -/
theorem run_explicitChoices_twoAggregations :
    aggregationJob {} [] twoAggregations = .ok ⟨.aggregations [meanGroup.whole, extremesGroup.whole], {}, .singleFile,
        .epochSeconds⟩ ∧
      run twoAggregationsServer () none {} ["aggr", "--aggregation=x=name,starttime,endtime,min,max", "--zip",
          "--aggregation", "m=name,starttime,endtime,mean"] =
        run twoAggregationsServer () none {} ["aggr", "--zip"] := by
  have hgroups : groupAggregations twoAggregations = .ok [meanGroup, extremesGroup] := by decide +kernel
  have hmean : explicitChoice meanGroup = "m=name,starttime,endtime,mean" := by decide +kernel
  have hextremes : explicitChoice extremesGroup = "x=name,starttime,endtime,min,max" := by decide +kernel
  have hchoosable : ∀ g ∈ [meanGroup, extremesGroup], IsChoosable g.id := by decide +kernel
  have hvalues : [explicitChoice extremesGroup, explicitChoice meanGroup].Perm
      ([meanGroup, extremesGroup].map explicitChoice) := List.Perm.swap _ _ _
  rw [hmean, hextremes] at hvalues
  have hzip : OtherOption ["--zip"] := by
    refine .alone ?_ ?_ ?_
    · rw [ofText_flag_zip]
      nofun
    · rw [ofText_flag_zip]
      simp
    · rw [ofText_flag_zip]
      rintro name set h
      obtain ⟨rfl, -⟩ := Argument.name.inj h
      nofun
  have hwoven : Woven ["x=name,starttime,endtime,min,max", "m=name,starttime,endtime,mean"] ["--zip"]
      ["--aggregation=x=name,starttime,endtime,min,max", "--zip", "--aggregation", "m=name,starttime,endtime,mean"] :=
    .choice (choiceOption_inline "x=name,starttime,endtime,min,max")
      (.other hzip (.choice (choiceOption_separate (by decide +kernel)) .empty))
  have hline : programLevel.read (some programLevel.blank) ([] ++ "aggr" :: ["--zip"]) =
      .ok (some {}, some ("aggr", ["--zip"])) := rfl
  obtain ⟨-, hrun⟩ := (run_explicitChoices hgroups hvalues).1 hchoosable
  have hsame := hrun twoAggregationsServer () none {} hline hwoven
  simp only [List.nil_append] at hsame
  exact ⟨by decide +kernel, hsame lists_twoAggregations⟩

/-- A source with an aggregation whose id has an equals sign. -/
def equalsSign : List DataSource := [⟨"s", [⟨"a=b", ["mean"], "1h", ""⟩], []⟩]

/-- It is exported if nothing is chosen, but it cannot be chosen. -/
theorem aggregationJob_equalsSign :
    let g : AggregationGroup := ⟨"a=b", ["mean"], "1h", .infinite, ["s"]⟩
    let chosen : List Choice := [⟨"a", "b=name,starttime,endtime,mean"⟩]
    groupAggregations equalsSign = .ok [g] ∧
      Invocation.ofArguments none ["aggr"] = .ok ⟨{}, .aggregations {} [] "."⟩ ∧
      aggregationJob {} [] equalsSign = .ok ⟨.aggregations [g.whole], {}, .singleFile, .epochSeconds⟩ ∧
      Invocation.ofArguments none ["aggr", "--aggregation", explicitChoice g] = .ok ⟨{}, .aggregations {} chosen "."⟩ ∧
      aggregationJob {} chosen equalsSign = .error (.unknownAggregation "a") := by
  intro g chosen
  have hexplicit : explicitChoice g = "a=b=name,starttime,endtime,mean" := by decide +kernel
  rw [hexplicit]
  exact ⟨by decide +kernel, rfl, by decide +kernel, rfl, by decide +kernel⟩

end CommandLine

end SeriesExport
