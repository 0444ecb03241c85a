import SeriesExport.CommandLine.Command

/-!
# What a command line says

`Level.Reads` says how a level takes its options from a line, one after the other; what is read of a level is read so
(`Level.reads_of_read`). An option without value is in the line iff its place in the form is set
(`Level.Reads.flag_iff`), and only names that a level has are in the line (`Level.Reads.exists_option`).

So the layout of an export is the one that the flags of its line ask for (`layout_of_arguments`).
-/

namespace SeriesExport.CommandLine

/-! ## Arguments -/

namespace Argument

/-- What is no name and no letter is a word. -/
theorem eq_of_ofText_word {argument text : String} (h : ofText argument = .word text) : text = argument := by
  unfold ofText at h
  split at h <;> simp_all

/-- The name of an option without a value is all there is behind the dashes. -/
theorem eq_of_ofText_name {argument name : String} (h : ofText argument = .name name none) :
    argument = "--" ++ name := by
  unfold ofText at h
  split at h
  · cases h
  · next cs _ hchars =>
    obtain ⟨hname, hvalue⟩ := Argument.name.inj h
    have hrest : cs.dropWhile (· ≠ '=') = [] := by
      unfold nameAndValue at hvalue
      split at hvalue
      · next hdrop => exact hdrop
      · cases hvalue
    have hall : cs.takeWhile (· ≠ '=') = cs := by
      have happend := List.takeWhile_append_dropWhile (p := (· ≠ '=')) (l := cs)
      rwa [hrest, List.append_nil] at happend
    have hcs : name.toList = cs := by rw [← hname, nameAndValue, hall, String.toList_ofList]
    rw [← String.toList_inj, hchars, String.toList_append, hcs]
    rfl
  · cases h
  · cases h

theorem isValue_of_ofText_name {argument name : String} {value : Option String}
    (h : ofText argument = .name name value) : isValue argument = false := by
  unfold ofText at h
  split at h
  · cases h
  · next hchars =>
    rw [isValue, hchars]
    rfl
  · cases h
  · cases h

end Argument

/-! ## Reading a level, option by option -/

/-- From a form, the arguments make another form. -/
inductive Level.Reads {Form : Type} (level : Level Form) : Form → List String → Form → Prop
  | empty (form : Form) : level.Reads form [] form
  | terminator {argument : String} (form : Form) : Argument.ofText argument = .terminator →
      level.Reads form [argument] form
  | letter {argument : String} {rest : List String} {c : Char} {set : Form → Option Form} {form next last : Form} :
      Argument.ofText argument = .letter c → level.letter c = some (.flag set) → set form = some next →
      level.Reads next rest last → level.Reads form (argument :: rest) last
  | flag {argument name : String} {rest : List String} {set : Form → Option Form} {form next last : Form} :
      Argument.ofText argument = .name name none → level.option name = some (.flag set) → set form = some next →
      level.Reads next rest last → level.Reads form (argument :: rest) last
  | inline {argument name value : String} {rest : List String} {set : String → Form → Option Form}
      {form next last : Form} : Argument.ofText argument = .name name (some value) →
      level.option name = some (.value set) → set value form = some next →
      level.Reads next rest last → level.Reads form (argument :: rest) last
  | separate {argument name value : String} {rest : List String} {set : String → Form → Option Form}
      {form next last : Form} : Argument.ofText argument = .name name none →
      level.option name = some (.value set) → isValue value = true → set value form = some next →
      level.Reads next rest last → level.Reads form (argument :: value :: rest) last

/-- What is left of a line when a level has been read. -/
def left : Option (String × List String) → List String
  | some (word, rest) => word :: rest
  | none => []

namespace Level

variable {Form : Type} {level : Level Form}

/-- Nothing is read after something that the form does not admit. -/
theorem read_none {arguments : List String} {last : Form} {word : Option (String × List String)} :
    level.read none arguments ≠ .ok (some last, word) := by
  intro h
  cases arguments with
  | nil => cases h
  | cons argument rest =>
    rw [read] at h
    cases hargument : Argument.ofText argument with
    | word text => rw [hargument] at h; cases h
    | terminator =>
      simp only [hargument] at h
      split at h <;> cases h
    | letter c => simp only [hargument] at h; cases h
    | name name value => simp only [hargument] at h; cases h

/-- An option that counts at once is admitted. -/
theorem read_settle {rest : List String} {form : Option Form} {read : Level.Reading Form}
    (h : (do level.read (some (← settle form)) rest) = .ok read) :
    ∃ next, form = some next ∧ level.read (some next) rest = .ok read := by
  cases form with
  | none => cases h
  | some next => exact ⟨next, rfl, h⟩

theorem reads_of_read : ∀ {arguments : List String} {form last : Form} {word : Option (String × List String)},
    level.read (some form) arguments = .ok (some last, word) →
      ∃ front, level.Reads form front last ∧ arguments = front ++ left word
  | [], form, last, word, h => by
    cases h
    exact ⟨[], .empty _, rfl⟩
  | argument :: rest, form, last, word, h => by
    rw [read] at h
    cases hargument : Argument.ofText argument with
    | word text =>
      simp only [hargument] at h
      cases h
      exact ⟨[], .empty _, by rw [Argument.eq_of_ofText_word hargument]; rfl⟩
    | terminator =>
      simp only [hargument] at h
      split at h
      · next hrest =>
        cases h
        exact ⟨[argument], .terminator _ hargument, by rw [hrest]; rfl⟩
      · cases h
    | letter c =>
      simp only [hargument] at h
      obtain ⟨admitted, hadmitted, hread⟩ := Result.bind_eq_ok.mp h
      clear h
      obtain rfl : form = admitted := Except.ok.inj hadmitted
      split at hread
      · next set hletter =>
        obtain ⟨next, hset, hread⟩ := read_settle hread
        obtain ⟨front, hreads, rfl⟩ := reads_of_read hread
        exact ⟨argument :: front, .letter hargument hletter hset hreads, rfl⟩
      · cases hread
      · cases hread
    | name name value =>
      simp only [hargument] at h
      obtain ⟨admitted, hadmitted, hread⟩ := Result.bind_eq_ok.mp h
      clear h
      obtain rfl : form = admitted := Except.ok.inj hadmitted
      split at hread
      · next set rest' hoption =>
        obtain ⟨next, hset, hread⟩ := read_settle hread
        obtain ⟨front, hreads, rfl⟩ := reads_of_read hread
        exact ⟨argument :: front, .flag hargument hoption hset hreads, rfl⟩
      · next set value rest' hoption =>
        obtain ⟨next, hset, hread⟩ := read_settle hread
        obtain ⟨front, hreads, rfl⟩ := reads_of_read hread
        exact ⟨argument :: front, .inline hargument hoption hset hreads, rfl⟩
      · next set value rest' hoption =>
        split at hread
        · next hvalue =>
          cases hset : set value form with
          | none => rw [hset] at hread; exact absurd hread read_none
          | some next =>
            rw [hset] at hread
            obtain ⟨front, hreads, rfl⟩ := reads_of_read hread
            exact ⟨argument :: value :: front, .separate hargument hoption hvalue hset hreads, rfl⟩
        · cases hread
      · cases hread
      · cases hread

/-- Only names of options are in a line. -/
theorem Reads.exists_option {form last : Form} {arguments : List String} (h : level.Reads form arguments last)
    {argument name : String} (hname : Argument.ofText argument = .name name none) (hmem : argument ∈ arguments) :
    ∃ effect, level.option name = some effect := by
  induction h with
  | empty => cases hmem
  | terminator _ hother =>
    obtain rfl := List.mem_singleton.mp hmem
    rw [hname] at hother
    cases hother
  | letter hother _ _ _ ih =>
    rcases List.mem_cons.mp hmem with rfl | hmem
    · rw [hname] at hother
      cases hother
    · exact ih hmem
  | flag hother hoption _ _ ih =>
    rcases List.mem_cons.mp hmem with rfl | hmem
    · rw [hname] at hother
      cases hother
      exact ⟨_, hoption⟩
    · exact ih hmem
  | inline hother _ _ _ ih =>
    rcases List.mem_cons.mp hmem with rfl | hmem
    · rw [hname] at hother
      cases hother
    · exact ih hmem
  | separate hother hoption hvalue _ _ ih =>
    rcases List.mem_cons.mp hmem with rfl | hmem
    · rw [hname] at hother
      cases hother
      exact ⟨_, hoption⟩
    rcases List.mem_cons.mp hmem with rfl | hmem
    · rw [Argument.isValue_of_ofText_name hname] at hvalue
      cases hvalue
    · exact ih hmem

end Level

/-! ## Flags -/

/-- What an option does leaves a part of the form as it is. -/
def Effect.Keeps {Form β : Type} (get : Form → β) : Effect Form → Prop
  | .flag set => ∀ form next, set form = some next → get next = get form
  | .value set => ∀ value form next, set value form = some next → get next = get form
  | .stop _ => True

/-- The option sets its place in the form, and nothing else touches the place. -/
structure Level.HasFlag {Form : Type} (level : Level Form) (name : String) (get : Form → Bool) : Prop where
  sets : ∃ set, level.option name = some (.flag set) ∧ ∀ form next, set form = some next → get next = true
  keeps : ∀ other effect, other ≠ name → level.option other = some effect → effect.Keeps get
  letters : ∀ c effect, level.letter c = some effect → effect.Keeps get

/-- A flag is in the line iff it is set. -/
theorem Level.Reads.flag_iff {Form : Type} {level : Level Form} {name : String} {get : Form → Bool}
    (hflag : level.HasFlag name get) (hname : Argument.ofText ("--" ++ name) = .name name none)
    {form last : Form} {arguments : List String} (h : level.Reads form arguments last) :
    get last = true ↔ get form = true ∨ "--" ++ name ∈ arguments := by
  obtain ⟨set, hset, hsets⟩ := hflag.sets
  have hne : ∀ {argument other}, Argument.ofText argument = other → other ≠ .name name none → "--" ++ name ≠ argument :=
    fun h hother heq => hother (by rw [← h, ← heq, hname])
  induction h with
  | empty => simp
  | @terminator argument form hargument =>
    simp [hne hargument nofun]
  | @letter argument rest c set' form next last hargument hletter hnext _ ih =>
    refine ih.trans ?_
    rw [hflag.letters c _ hletter form next hnext, List.mem_cons, or_iff_right (hne hargument nofun)]
  | @flag argument other rest set' form next last hargument hoption hnext _ ih =>
    by_cases hother : other = name
    · subst hother
      rw [hoption] at hset
      cases hset
      simp [ih, hsets form next hnext, Argument.eq_of_ofText_name hargument]
    · have hargument := hne hargument fun heq => hother (Argument.name.inj heq).1
      refine ih.trans ?_
      rw [hflag.keeps other _ hother hoption form next hnext, List.mem_cons, or_iff_right hargument]
  | @inline argument other value rest set' form next last hargument hoption hnext _ ih =>
    have hother : other ≠ name := fun heq => by rw [heq, hset] at hoption; cases hoption
    refine ih.trans ?_
    rw [hflag.keeps other _ hother hoption value form next hnext, List.mem_cons, or_iff_right (hne hargument nofun)]
  | @separate argument other value rest set' form next last hargument hoption hvalue hnext _ ih =>
    have hother : other ≠ name := fun heq => by rw [heq, hset] at hoption; cases hoption
    have hargument := hne hargument fun heq => hother (Argument.name.inj heq).1
    have hvalue : "--" ++ name ≠ value := fun heq => by
      rw [← heq, Argument.isValue_of_ofText_name hname] at hvalue
      cases hvalue
    refine ih.trans ?_
    rw [hflag.keeps other _ hother hoption value form next hnext, List.mem_cons, List.mem_cons,
      or_iff_right hargument, or_iff_right hvalue]

/-! ## The flags of the export commands -/

section

variable {Form Part β : Type} {get : Form → β}

theorem keeps_lift {getPart : Form → Part} {put : Form → Part → Form}
    (hput : ∀ form part, get (put form part) = get form) (effect : Effect Part) :
    (effect.lift getPart put).Keeps get := by
  cases effect with
  | flag set =>
    intro form next h
    obtain ⟨part, -, rfl⟩ := Option.map_eq_some_iff.mp h
    exact hput form part
  | value set =>
    intro value form next h
    obtain ⟨part, -, rfl⟩ := Option.map_eq_some_iff.mp h
    exact hput form part
  | stop reason => trivial

theorem keeps_once {place : Form → Option String} {put : Form → String → Form}
    (hput : ∀ form value, get (put form value) = get form) : (once place put).Keeps get := by
  intro value form next h
  dsimp only at h
  split at h
  · cases h
  · obtain rfl := Option.some.inj h
    exact hput form value

theorem keeps_switch {place : Form → Bool} {put : Form → Form} (hput : ∀ form, get (put form) = get form) :
    (switch place put).Keeps get := by
  intro form next h
  dsimp only at h
  split at h
  · cases h
  · obtain rfl := Option.some.inj h
    exact hput form

theorem get_of_switch {place : Form → Bool} {put : Form → Form} {get : Form → Bool}
    (hput : ∀ form, get (put form) = true) (form next : Form)
    (h : (if place form then none else some (put form)) = some next) : get next = true := by
  split at h
  · cases h
  · obtain rfl := Option.some.inj h
    exact hput form

/-- A letter asks for help at most. -/
theorem keeps_helpLetter (topic : Topic) (c : Char) (effect : Effect Form) (h : helpLetter topic c = some effect) :
    effect.Keeps get := by
  unfold helpLetter at h
  split at h
  · obtain rfl := Option.some.inj h
    trivial
  · cases h

end

theorem hasFlag_data_zip : dataLevel.HasFlag "zip" DataForm.zip where
  sets := ⟨_, rfl, get_of_switch fun _ => rfl⟩
  keeps other effect hother h := by
    simp only [dataLevel, DataForm.option] at h
    split at h
    · obtain rfl := Option.some.inj h
      exact keeps_once fun _ _ => rfl
    · obtain rfl := Option.some.inj h
      intro value form next h
      obtain rfl := Option.some.inj h
      rfl
    · exact absurd rfl hother
    · obtain rfl := Option.some.inj h
      trivial
    · obtain ⟨effect, -, rfl⟩ := Option.map_eq_some_iff.mp h
      exact keeps_lift (show ∀ (form : DataForm) part, { form with toWindowForm := part }.zip = form.zip from
        fun _ _ => rfl) effect
  letters := keeps_helpLetter .data

/-- Choosing an aggregation, asking for help and the options of a window touch neither flag. -/
theorem keeps_aggregation {get : AggregationForm → Bool}
    (hchoices : ∀ (form : AggregationForm) choices, get { form with choices } = get form)
    (hwindow : ∀ (form : AggregationForm) part, get { form with toWindowForm := part } = get form)
    (other : String) (effect : Effect AggregationForm) (hzip : other ≠ "zip") (hper : other ≠ "per-aggregation")
    (h : aggregationLevel.option other = some effect) : effect.Keeps get := by
  simp only [aggregationLevel, AggregationForm.option] at h
  split at h
  · obtain rfl := Option.some.inj h
    intro value form next h
    obtain ⟨choice, -, heq⟩ := Option.bind_eq_some_iff.mp h
    obtain rfl := Option.some.inj heq
    exact hchoices form _
  · exact absurd rfl hzip
  · exact absurd rfl hper
  · obtain rfl := Option.some.inj h
    trivial
  · obtain ⟨effect, -, rfl⟩ := Option.map_eq_some_iff.mp h
    exact keeps_lift hwindow effect

theorem hasFlag_aggregation_zip : aggregationLevel.HasFlag "zip" AggregationForm.zip where
  sets := ⟨_, rfl, get_of_switch fun _ => rfl⟩
  keeps other effect hother h := by
    by_cases hper : other = "per-aggregation"
    · subst hper
      obtain rfl := Option.some.inj h
      exact keeps_switch fun _ => rfl
    · exact keeps_aggregation (fun _ _ => rfl) (fun _ _ => rfl) other effect hother hper h
  letters := keeps_helpLetter .aggregations

theorem hasFlag_aggregation_perAggregation :
    aggregationLevel.HasFlag "per-aggregation" AggregationForm.perAggregation where
  sets := ⟨_, rfl, get_of_switch fun _ => rfl⟩
  keeps other effect hother h := by
    by_cases hzip : other = "zip"
    · subst hzip
      obtain rfl := Option.some.inj h
      exact keeps_switch fun _ => rfl
    · exact keeps_aggregation (fun _ _ => rfl) (fun _ _ => rfl) other effect hzip hother h
  letters := keeps_helpLetter .aggregations

/-! ## Whole lines -/

theorem settle_eq_ok {Form : Type} {form : Option Form} {settled : Form} (h : settle form = .ok settled) :
    form = some settled := by
  cases form with
  | none => cases h
  | some form => exact congrArg some (Except.ok.inj h)

/-- A line that has options only. -/
theorem Level.reads_of_readAll {Form : Type} {level : Level Form} {arguments : List String} {last : Form}
    (h : level.readAll arguments = .ok last) : level.Reads level.blank arguments last := by
  obtain ⟨⟨form, _ | word⟩, hread, h⟩ := Result.bind_eq_ok.mp h
  · obtain rfl := settle_eq_ok h
    obtain ⟨front, hreads, rfl⟩ := reads_of_read hread
    rw [left, List.append_nil]
    exact hreads
  · cases h

/-- A line is the options of the program, the name of a command, and the arguments of the command. -/
theorem Invocation.exists_command {environmentToken : Option String} {arguments : List String} {invocation : Invocation}
    (h : Invocation.ofArguments environmentToken arguments = .ok invocation) :
    ∃ front name rest general inner, programLevel.Reads programLevel.blank front general ∧
      arguments = front ++ name :: rest ∧ readCommand name rest = .ok inner ∧ inner.command = invocation.command := by
  obtain ⟨⟨form, _ | ⟨name, rest⟩⟩, hread, h⟩ := Result.bind_eq_ok.mp h
  · cases h
  · obtain ⟨inner, hinner, hrest⟩ := Result.bind_eq_ok.mp h
    obtain ⟨general, hgeneral, hinvocation⟩ := Result.bind_eq_ok.mp hrest
    obtain rfl := settle_eq_ok hgeneral
    obtain rfl := Except.ok.inj hinvocation
    obtain ⟨front, hreads, harguments⟩ := Level.reads_of_read hread
    exact ⟨front, name, rest, general, inner, hreads, harguments, hinner, rfl⟩

/-- Which commands there are, by their names. -/
theorem readCommand_cases {name : String} {arguments : List String} {inner : Invocation}
    (h : readCommand name arguments = .ok inner) : inner.command = .sources ∨
      (name = "data" ∧ ∃ form, dataLevel.readAll arguments = .ok form ∧ inner.command = form.command) ∨
      (name = "aggr" ∧ ∃ form, aggregationLevel.readAll arguments = .ok form ∧ form.command? = some inner.command) := by
  unfold readCommand at h
  split at h
  · obtain ⟨form, -, h⟩ := Result.bind_eq_ok.mp h
    exact .inl (congrArg Invocation.command (Except.ok.inj h)).symm
  · obtain ⟨form, hform, h⟩ := Result.bind_eq_ok.mp h
    exact .inr (.inl ⟨rfl, form, hform, (congrArg Invocation.command (Except.ok.inj h)).symm⟩)
  · obtain ⟨form, hform, h⟩ := Result.bind_eq_ok.mp h
    obtain ⟨command, hcommand, h⟩ := Result.bind_eq_ok.mp h
    refine .inr (.inr ⟨rfl, form, hform, ?_⟩)
    rw [settle_eq_ok hcommand, ← Except.ok.inj h]
  · cases h
  · cases h

/-! ## Layouts -/

/-- The layout that flags ask for. -/
def flagLayout (arguments : List String) : Layout :=
  if "--zip" ∈ arguments then .perEntity
  else if "--per-aggregation" ∈ arguments then .perAggregation
  else .singleFile

/-- The layout of an export; none if the command is no export. -/
def Command.layout? : Command → Option Layout
  | .sources => none
  | .data options _ _ _ => some options.layout
  | .aggregations options _ _ => some options.layout

theorem ofText_flag_zip : Argument.ofText "--zip" = .name "zip" none := by decide +kernel

theorem ofText_flag_perAggregation : Argument.ofText "--per-aggregation" = .name "per-aggregation" none := by
  decide +kernel

/-- The program has no flags for layouts, so only those behind the name of the command count. -/
theorem flagLayout_append {front rest : List String} {name : String} {general : General}
    (h : programLevel.Reads programLevel.blank front general) (hname : name = "data" ∨ name = "aggr") :
    flagLayout (front ++ name :: rest) = flagLayout rest := by
  have hfront : ∀ {argument option : String}, Argument.ofText argument = .name option none →
      programLevel.option option = none → argument ∉ front := by
    intro argument option hargument hoption hmem
    obtain ⟨effect, heffect⟩ := h.exists_option hargument hmem
    rw [hoption] at heffect
    cases heffect
  have hzip : "--zip" ∉ front := hfront ofText_flag_zip rfl
  have hper : "--per-aggregation" ∉ front := hfront ofText_flag_perAggregation rfl
  rcases hname with rfl | rfl <;> simp [flagLayout, hzip, hper]

/-- Raw data has no aggregations to put in files of their own. -/
theorem layout_ne_perAggregation {environmentToken : Option String} {arguments : List String} {invocation : Invocation}
    (h : Invocation.ofArguments environmentToken arguments = .ok invocation) {options : Options} {attributes : String}
    {chosen : List String} {folder : String} (hdata : invocation.command = .data options attributes chosen folder) :
    options.layout ≠ .perAggregation := by
  obtain ⟨front, name, rest, general, inner, -, -, hinner, hcommand⟩ := Invocation.exists_command h
  rw [← hcommand] at hdata
  rcases readCommand_cases hinner with hsources | ⟨-, form, -, hform⟩ | ⟨-, form, -, haggregations⟩
  · rw [hsources] at hdata
    cases hdata
  · rw [hform] at hdata
    obtain ⟨rfl, -⟩ := Command.data.inj hdata
    show (if form.zip then Layout.perEntity else Layout.singleFile) ≠ .perAggregation
    split <;> decide
  · obtain ⟨layout, -, heq⟩ := Option.bind_eq_some_iff.mp haggregations
    rw [← Option.some.inj heq] at hdata
    cases hdata

/-- **The flags of a line decide on the layout of its export.** -/
theorem layout_of_arguments {environmentToken : Option String} {arguments : List String} {invocation : Invocation}
    (h : Invocation.ofArguments environmentToken arguments = .ok invocation) {layout : Layout}
    (hlayout : invocation.command.layout? = some layout) : layout = flagLayout arguments := by
  obtain ⟨front, name, rest, general, inner, hreads, rfl, hinner, hcommand⟩ := Invocation.exists_command h
  rw [← hcommand] at hlayout
  rcases readCommand_cases hinner with hsources | ⟨rfl, form, hform, hdata⟩ | ⟨rfl, form, hform, haggregations⟩
  · rw [hsources] at hlayout
    cases hlayout
  · have hreads' := Level.reads_of_readAll hform
    have hzip : form.zip = true ↔ "--zip" ∈ rest :=
      (hreads'.flag_iff hasFlag_data_zip ofText_flag_zip).trans (or_iff_right nofun)
    have hper : "--per-aggregation" ∉ rest := fun hmem => by
      obtain ⟨effect, heffect⟩ := hreads'.exists_option ofText_flag_perAggregation hmem
      cases heffect
    rw [hdata] at hlayout
    obtain rfl := Option.some.inj hlayout
    rw [flagLayout_append hreads (.inl rfl), flagLayout, if_neg hper]
    simp only [← hzip]
    rfl
  · have hreads' := Level.reads_of_readAll hform
    have hzip : form.zip = true ↔ "--zip" ∈ rest :=
      (hreads'.flag_iff hasFlag_aggregation_zip ofText_flag_zip).trans (or_iff_right nofun)
    have hper : form.perAggregation = true ↔ "--per-aggregation" ∈ rest :=
      (hreads'.flag_iff hasFlag_aggregation_perAggregation ofText_flag_perAggregation).trans (or_iff_right nofun)
    obtain ⟨layout', hlayout', heq⟩ := Option.bind_eq_some_iff.mp haggregations
    rw [← Option.some.inj heq] at hlayout
    obtain rfl : layout' = layout := Option.some.inj hlayout
    rw [flagLayout_append hreads (.inr rfl), flagLayout]
    simp only [← hzip, ← hper]
    unfold AggregationForm.layout? at hlayout'
    split at hlayout' <;> simp_all

end SeriesExport.CommandLine
