import SeriesExport.Proofs.Flags

/-!
# Options that choose, put among others

A level reads whole options: an option does the same to a form whatever follows it (`Level.Does`), or it ends the
reading (`Level.Stops`). The options of `aggr` that choose an aggregation add to the choices of the form, and the others
neither look at the choices nor touch them (`OtherOption.stops_or_does`).

So it does not matter where in a line the options that choose are (`Woven`): the form is the one of the other options,
with the choices in the order of the line (`readAll_woven`). The command is the same then but for its choices
(`ofArguments_woven`).
-/

namespace SeriesExport.CommandLine

/-! ## Whole options -/

namespace Level

variable {Form : Type} {level : Level Form}

/-- The form that has been read, if there are options only. -/
def finish : Level.Reading Form → Except Stop Form
  | (form, none) => settle form
  | (_, some _) => .error .misuse

/-- The form of a line that has options only, from some form on. -/
def readFrom (level : Level Form) (form : Option Form) (arguments : List String) : Except Stop Form :=
  level.read form arguments >>= finish

theorem readAll_eq (arguments : List String) :
    level.readAll arguments = level.readFrom (some level.blank) arguments := by
  refine congrArg (Except.bind _) (funext fun reading => ?_)
  obtain ⟨form, _ | word⟩ := reading <;> rfl

/-- What is not admitted is a misuse, at the latest at the end of the line. -/
theorem readFrom_none (arguments : List String) : level.readFrom none arguments = .error .misuse := by
  cases arguments with
  | nil => rfl
  | cons argument rest =>
    rw [readFrom, read]
    cases Argument.ofText argument with
    | word text => rfl
    | terminator => by_cases hrest : rest = [] <;> simp only [hrest, if_true, if_false] <;> rfl
    | letter c => rfl
    | name name value => rfl

/-- The option changes the form, whatever follows it. -/
def Does (level : Level Form) (option : List String) (set : Form → Option Form) : Prop :=
  ∀ form rest, level.readFrom (some form) (option ++ rest) = level.readFrom (set form) rest

/-- The option ends the reading. -/
def Stops (level : Level Form) (option : List String) (stop : Stop) : Prop :=
  ∀ form rest, level.readFrom (some form) (option ++ rest) = .error stop

theorem bind_settle (form : Option Form) (rest : List String) :
    (settle form >>= fun next => level.read (some next) rest) >>= finish = level.readFrom form rest := by
  cases form with
  | none => exact (readFrom_none rest).symm
  | some form => rfl

theorem does_flag {argument name : String} {set : Form → Option Form}
    (hargument : Argument.ofText argument = .name name none) (hoption : level.option name = some (.flag set)) :
    level.Does [argument] set := by
  intro form rest
  rw [List.singleton_append, readFrom, read, hargument]
  simp only [hoption]
  exact bind_settle (set form) rest

theorem does_inline {argument name value : String} {set : String → Form → Option Form}
    (hargument : Argument.ofText argument = .name name (some value))
    (hoption : level.option name = some (.value set)) : level.Does [argument] (set value) := by
  intro form rest
  rw [List.singleton_append, readFrom, read, hargument]
  simp only [hoption]
  exact bind_settle (set value form) rest

theorem does_separate {argument name value : String} {set : String → Form → Option Form}
    (hargument : Argument.ofText argument = .name name none) (hoption : level.option name = some (.value set))
    (hvalue : isValue value = true) : level.Does [argument, value] (set value) := by
  intro form rest
  rw [List.cons_append, List.singleton_append, readFrom, read, hargument]
  simp only [hoption, hvalue, if_true]
  rfl

theorem stops_separate {argument name value : String} {set : String → Form → Option Form}
    (hargument : Argument.ofText argument = .name name none) (hoption : level.option name = some (.value set))
    (hvalue : isValue value = false) : level.Stops [argument, value] .misuse := by
  intro form rest
  rw [List.cons_append, List.singleton_append, readFrom, read, hargument]
  simp only [hoption, hvalue]
  rfl

theorem stops_word {argument text : String} (hargument : Argument.ofText argument = .word text) :
    level.Stops [argument] .misuse := by
  intro form rest
  rw [List.singleton_append, readFrom, read, hargument]
  rfl

theorem stops_unknown {argument name : String} {value : Option String}
    (hargument : Argument.ofText argument = .name name value) (hoption : level.option name = none) :
    level.Stops [argument] .misuse := by
  intro form rest
  rw [List.singleton_append, readFrom, read, hargument]
  simp only [hoption]
  rfl

theorem stops_stop {argument name : String} {reason : Stop} (hargument : Argument.ofText argument = .name name none)
    (hoption : level.option name = some (.stop reason)) : level.Stops [argument] reason := by
  intro form rest
  rw [List.singleton_append, readFrom, read, hargument]
  simp only [hoption]
  rfl

/-- Only an option that has a value can have one behind an equals sign. -/
theorem stops_inline {argument name value : String} {effect : Effect Form}
    (hargument : Argument.ofText argument = .name name (some value)) (hoption : level.option name = some effect)
    (heffect : ∀ set, effect ≠ .value set) : level.Stops [argument] .misuse := by
  intro form rest
  rw [List.singleton_append, readFrom, read, hargument]
  simp only [hoption]
  cases effect with
  | flag set => rfl
  | value set => exact absurd rfl (heffect set)
  | stop reason => rfl

theorem stops_letter {argument : String} {c : Char} (hargument : Argument.ofText argument = .letter c)
    (hletter : ∀ set, level.letter c ≠ some (.flag set)) : ∃ stop, level.Stops [argument] stop := by
  cases heffect : level.letter c with
  | none =>
    refine ⟨.misuse, fun form rest => ?_⟩
    rw [List.singleton_append, readFrom, read, hargument]
    simp only [heffect]
    rfl
  | some effect =>
    cases effect with
    | flag set => exact absurd heffect (hletter set)
    | value set =>
      refine ⟨.misuse, fun form rest => ?_⟩
      rw [List.singleton_append, readFrom, read, hargument]
      simp only [heffect]
      rfl
    | stop reason =>
      refine ⟨reason, fun form rest => ?_⟩
      rw [List.singleton_append, readFrom, read, hargument]
      simp only [heffect]
      rfl

/-- An option without its value ends a line. -/
theorem readFrom_dangling {argument name : String} {set : String → Form → Option Form}
    (hargument : Argument.ofText argument = .name name none) (hoption : level.option name = some (.value set))
    (form : Form) : level.readFrom (some form) [argument] = .error .misuse := by
  rw [readFrom, read, hargument]
  simp only [hoption]
  rfl

theorem readFrom_terminator {argument : String} (hargument : Argument.ofText argument = .terminator) (form : Form) :
    level.readFrom (some form) [argument] = .ok form := by
  rw [readFrom, read, hargument]
  rfl

end Level

/-! ## Options of `aggr` -/

/-- The form with other choices. -/
def AggregationForm.withChoices (form : AggregationForm) (choices : List Choice) : AggregationForm :=
  { form with choices }

/-- Neither looks at the choices nor touches them. -/
def LeavesChoices (set : AggregationForm → Option AggregationForm) : Prop :=
  ∀ form choices, set (form.withChoices choices) = (set form).map (·.withChoices choices)

def Effect.LeavesChoices : Effect AggregationForm → Prop
  | .flag set => CommandLine.LeavesChoices set
  | .value set => ∀ value, CommandLine.LeavesChoices (set value)
  | .stop _ => True

theorem leavesChoices_lift (effect : Effect WindowForm) :
    (effect.lift AggregationForm.toWindowForm fun f w => { f with toWindowForm := w }).LeavesChoices := by
  cases effect with
  | flag set =>
    intro form choices
    show (set form.toWindowForm).map _ = ((set form.toWindowForm).map _).map _
    cases set form.toWindowForm <;> rfl
  | value set =>
    intro value form choices
    show (set value form.toWindowForm).map _ = ((set value form.toWindowForm).map _).map _
    cases set value form.toWindowForm <;> rfl
  | stop reason => trivial

theorem leavesChoices_switch {place : AggregationForm → Bool} {put : AggregationForm → AggregationForm}
    (hplace : ∀ form choices, place (form.withChoices choices) = place form)
    (hput : ∀ form choices, put (form.withChoices choices) = (put form).withChoices choices) :
    (switch place put).LeavesChoices := by
  intro form choices
  dsimp only
  rw [hplace, hput]
  split <;> rfl

theorem leavesChoices_option {name : String} {effect : Effect AggregationForm} (hname : name ≠ "aggregation")
    (h : aggregationLevel.option name = some effect) : effect.LeavesChoices := by
  simp only [aggregationLevel, AggregationForm.option] at h
  split at h
  · exact absurd rfl hname
  · obtain rfl := Option.some.inj h
    exact leavesChoices_switch (fun _ _ => rfl) fun _ _ => rfl
  · obtain rfl := Option.some.inj h
    exact leavesChoices_switch (fun _ _ => rfl) fun _ _ => rfl
  · obtain rfl := Option.some.inj h
    trivial
  · obtain ⟨effect, -, rfl⟩ := Option.map_eq_some_iff.mp h
    exact leavesChoices_lift effect

/-- An option with what it chooses, written in one argument or in two. -/
inductive ChoiceOption : String → List String → Prop
  | inline {argument value : String} : Argument.ofText argument = .name "aggregation" (some value) →
      ChoiceOption value [argument]
  | separate {argument value : String} : Argument.ofText argument = .name "aggregation" none → isValue value = true →
      ChoiceOption value [argument, value]

theorem choiceOption_inline (value : String) : ChoiceOption value ["--aggregation=" ++ value] := by
  apply ChoiceOption.inline
  have hprefix : "--aggregation=".toList = '-' :: '-' :: "aggregation=".toList := rfl
  rw [Argument.ofText, String.toList_append, hprefix]
  simp [nameAndValue]

theorem choiceOption_separate {value : String} (h : isValue value = true) :
    ChoiceOption value ["--aggregation", value] :=
  .separate (by decide +kernel) h

/-- A whole option that does not choose. -/
inductive OtherOption : List String → Prop
  | alone {argument : String} : Argument.ofText argument ≠ .terminator →
      (∀ value, Argument.ofText argument ≠ .name "aggregation" value) →
      (∀ name set, Argument.ofText argument = .name name none → aggregationLevel.option name ≠ some (.value set)) →
      OtherOption [argument]
  | withValue {argument name value : String} {set : String → AggregationForm → Option AggregationForm} :
      Argument.ofText argument = .name name none → name ≠ "aggregation" →
      aggregationLevel.option name = some (.value set) → OtherOption [argument, value]

theorem ChoiceOption.does {value : String} {option : List String} (h : ChoiceOption value option) {choice : Choice}
    (hchoice : choiceOf? value = some choice) :
    aggregationLevel.Does option fun form => some (form.withChoices (form.choices ++ [choice])) := by
  have hoption : aggregationLevel.option "aggregation" = some (.value fun v form => do
    return { form with choices := form.choices ++ [← choiceOf? v] }) := rfl
  have hset : (fun form : AggregationForm => do return { form with choices := form.choices ++ [← choiceOf? value] }) =
      fun form => some (form.withChoices (form.choices ++ [choice])) := by
    rw [hchoice]
    rfl
  rw [← hset]
  cases h with
  | inline hargument => exact Level.does_inline hargument hoption
  | separate hargument hvalue => exact Level.does_separate hargument hoption hvalue

theorem OtherOption.stops_or_does {option : List String} (h : OtherOption option) :
    (∃ stop, aggregationLevel.Stops option stop) ∨ ∃ set, aggregationLevel.Does option set ∧ LeavesChoices set := by
  cases h with
  | @alone argument hterminator hchoice hplain =>
    cases hargument : Argument.ofText argument with
    | word text => exact .inl ⟨_, Level.stops_word hargument⟩
    | terminator => exact absurd hargument hterminator
    | letter c =>
      left
      refine Level.stops_letter hargument fun set hset => ?_
      simp only [aggregationLevel, helpLetter] at hset
      split at hset <;> cases hset
    | name name value =>
      have hname : name ≠ "aggregation" := by
        rintro rfl
        exact hchoice value hargument
      cases hoption : aggregationLevel.option name with
      | none => exact .inl ⟨_, Level.stops_unknown hargument hoption⟩
      | some effect =>
        have hleaves := leavesChoices_option hname hoption
        cases value with
        | none =>
          cases effect with
          | flag set => exact .inr ⟨set, Level.does_flag hargument hoption, hleaves⟩
          | value set => exact absurd hoption (hplain name set hargument)
          | stop reason => exact .inl ⟨reason, Level.stops_stop hargument hoption⟩
        | some v =>
          cases effect with
          | flag set => exact .inl ⟨_, Level.stops_inline hargument hoption fun _ h => by cases h⟩
          | value set => exact .inr ⟨set v, Level.does_inline hargument hoption, hleaves v⟩
          | stop reason => exact .inl ⟨_, Level.stops_inline hargument hoption fun _ h => by cases h⟩
  | @withValue argument name value set hargument hname hoption =>
    cases hvalue : isValue value with
    | true =>
      have hleaves := leavesChoices_option hname hoption
      exact .inr ⟨set value, Level.does_separate hargument hoption hvalue, hleaves value⟩
    | false => exact .inl ⟨_, Level.stops_separate hargument hoption hvalue⟩

/-! ## Lines -/

/-- A line of other options, and one in which options that choose the values are put among them. No option is torn from
its value, and what ends a line ends both. -/
inductive Woven : List String → List String → List String → Prop
  | empty : Woven [] [] []
  | terminator {argument : String} : Argument.ofText argument = .terminator → Woven [] [argument] [argument]
  | dangling {argument name : String} {set : String → AggregationForm → Option AggregationForm} :
      Argument.ofText argument = .name name none → name ≠ "aggregation" →
      aggregationLevel.option name = some (.value set) → Woven [] [argument] [argument]
  | choice {value : String} {option values rest woven : List String} : ChoiceOption value option →
      Woven values rest woven → Woven (value :: values) rest (option ++ woven)
  | other {option values rest woven : List String} : OtherOption option → Woven values rest woven →
      Woven values (option ++ rest) (option ++ woven)

theorem Woven.others {values rest woven : List String} (h : Woven values rest woven) : Woven [] rest rest := by
  induction h with
  | empty => exact .empty
  | terminator hargument => exact .terminator hargument
  | dangling hargument hname hoption => exact .dangling hargument hname hoption
  | choice _ _ ih => exact ih
  | other hoption _ ih => exact .other hoption ih

/-- Whatever choices the form has when the reading begins, those of the line come after them, and the rest of the form
is as it is without them. -/
theorem readFrom_woven {values rest woven : List String} (h : Woven values rest woven)
    (hvalues : ∀ value ∈ values, (choiceOf? value).isSome) (form : AggregationForm) (choices : List Choice) :
    aggregationLevel.readFrom (some (form.withChoices choices)) woven =
      (aggregationLevel.readFrom (some form) rest).map (·.withChoices (choices ++ values.filterMap choiceOf?)) := by
  induction h generalizing form choices with
  | empty =>
    rw [List.filterMap_nil, List.append_nil]
    rfl
  | terminator hargument =>
    rw [Level.readFrom_terminator hargument, Level.readFrom_terminator hargument, List.filterMap_nil, List.append_nil]
    rfl
  | dangling hargument _ hoption =>
    rw [Level.readFrom_dangling hargument hoption, Level.readFrom_dangling hargument hoption]
    rfl
  | @choice value option values rest woven hoption _ ih =>
    rw [List.forall_mem_cons] at hvalues
    obtain ⟨choice, hchoice⟩ := Option.isSome_iff_exists.mp hvalues.1
    rw [hoption.does hchoice, List.filterMap_cons_some hchoice, List.append_cons]
    exact ih hvalues.2 form (choices ++ [choice])
  | @other option values rest woven hoption _ ih =>
    rcases hoption.stops_or_does with ⟨stop, hstops⟩ | ⟨set, hdoes, hleaves⟩
    · rw [hstops, hstops]
      rfl
    · rw [hdoes, hdoes, hleaves]
      cases set form with
      | none =>
        rw [Option.map_none, Level.readFrom_none, Level.readFrom_none]
        rfl
      | some next => exact ih hvalues next choices

theorem readAll_woven {values rest woven : List String} (h : Woven values rest woven)
    (hvalues : ∀ value ∈ values, (choiceOf? value).isSome) : aggregationLevel.readAll woven =
      (aggregationLevel.readAll rest).map (·.withChoices (values.filterMap choiceOf?)) := by
  rw [Level.readAll_eq, Level.readAll_eq]
  exact readFrom_woven h hvalues aggregationLevel.blank []

/-- Other options choose nothing. -/
theorem choices_of_readAll {values rest woven : List String} (h : Woven values rest woven) {form : AggregationForm}
    (hform : aggregationLevel.readAll rest = .ok form) : form.choices = [] := by
  have hagain := readAll_woven h.others nofun
  rw [hform] at hagain
  exact congrArg AggregationForm.choices (Except.ok.inj hagain)

/-! ## Whole lines -/

/-- What is admitted is read on from. -/
theorem Level.read_of_settle {Form : Type} {level : Level Form} {form : Option Form} {next : Form} {rest : List String}
    {reading : Level.Reading Form} (hform : form = some next) (h : level.read (some next) rest = .ok reading) :
    (settle form >>= fun form => level.read (some form) rest) = .ok reading := by
  rw [hform]
  exact h

/-- What stands before the first word is read in the same way whatever comes after it. -/
theorem Level.exists_front {Form : Type} {level : Level Form} {last : Option Form} {word : String}
    {rest : List String} : ∀ {arguments : List String} {form : Option Form},
      level.read form arguments = .ok (last, some (word, rest)) → ∃ front, arguments = front ++ word :: rest ∧
        ∀ rest', level.read form (front ++ word :: rest') = .ok (last, some (word, rest'))
  | [], form, h => by cases h
  | argument :: tail, form, h => by
    rw [read] at h
    cases hargument : Argument.ofText argument with
    | word text =>
      simp only [hargument] at h
      cases h
      obtain rfl := Argument.eq_of_ofText_word hargument
      refine ⟨[], rfl, fun rest' => ?_⟩
      rw [List.nil_append, read, hargument]
    | terminator =>
      simp only [hargument] at h
      split at h <;> cases h
    | letter c =>
      simp only [hargument] at h
      obtain ⟨admitted, hadmitted, hread⟩ := Result.bind_eq_ok.mp h
      clear h
      split at hread
      · next set hletter =>
        obtain ⟨next, hset, hread⟩ := read_settle hread
        obtain ⟨front, rfl, hfront⟩ := exists_front hread
        refine ⟨argument :: front, rfl, fun rest' => ?_⟩
        rw [List.cons_append, read, hargument]
        simp only [hadmitted, hletter]
        exact read_of_settle hset (hfront rest')
      · cases hread
      · cases hread
    | name name value =>
      simp only [hargument] at h
      obtain ⟨admitted, hadmitted, hread⟩ := Result.bind_eq_ok.mp h
      clear h
      split at hread
      · next _ set hoption =>
        obtain ⟨next, hset, hread⟩ := read_settle hread
        obtain ⟨front, rfl, hfront⟩ := exists_front hread
        refine ⟨argument :: front, rfl, fun rest' => ?_⟩
        rw [List.cons_append, read, hargument]
        simp only [hadmitted, hoption]
        exact read_of_settle hset (hfront rest')
      · next _ set value hoption =>
        obtain ⟨next, hset, hread⟩ := read_settle hread
        obtain ⟨front, rfl, hfront⟩ := exists_front hread
        refine ⟨argument :: front, rfl, fun rest' => ?_⟩
        rw [List.cons_append, read, hargument]
        simp only [hadmitted, hoption]
        exact read_of_settle hset (hfront rest')
      · next set value rest' hoption =>
        split at hread
        · next hvalue =>
          obtain ⟨front, rfl, hfront⟩ := exists_front hread
          refine ⟨argument :: value :: front, rfl, fun rest' => ?_⟩
          rw [List.cons_append, List.cons_append, read, hargument]
          simp only [hadmitted, hoption, hvalue, if_true]
          exact hfront rest'
        · cases hread
      · cases hread
      · cases hread

/-- What the options of the program add to a command. -/
def Invocation.complete (environmentToken : Option String) (general : Option General) (inner : Invocation) :
    Except Stop Invocation :=
  (settle general).map fun outer =>
    ⟨(inner.toGeneral.orElse outer).orElse { token := environmentToken }, inner.command⟩

theorem Invocation.ofArguments_eq {environmentToken : Option String} {arguments rest : List String} {name : String}
    {general : Option General}
    (h : programLevel.read (some programLevel.blank) arguments = .ok (general, some (name, rest))) :
    ofArguments environmentToken arguments = (readCommand name rest).bind (complete environmentToken general) := by
  rw [ofArguments, h]
  show Except.bind (readCommand name rest) _ = _
  refine congrArg (Except.bind _) (funext fun inner => ?_)
  cases general <;> rfl

theorem readCommand_aggr (arguments : List String) : readCommand "aggr" arguments =
    (aggregationLevel.readAll arguments).bind fun form =>
      (settle form.command?).map fun command => ⟨form.toGeneral, command⟩ := by
  refine congrArg (Except.bind _) (funext fun form => ?_)
  cases form.command? <;> rfl

theorem AggregationForm.command?_eq (form : AggregationForm) : form.command? =
    form.layout?.map fun layout => .aggregations (form.options layout) form.choices (form.folder.getD ".") := by
  unfold command?
  cases form.layout? <;> rfl

/-- With options that choose put among those of `aggr`, a line is refused for the same reason, or it is the same line
with the choices. -/
theorem ofArguments_woven (environmentToken : Option String) {front rest woven values : List String}
    {general : Option General} (hline : programLevel.read (some programLevel.blank) (front ++ "aggr" :: rest) =
      .ok (general, some ("aggr", rest)))
    (h : Woven values rest woven) (hvalues : ∀ value ∈ values, (choiceOf? value).isSome) :
    (∃ stop, Invocation.ofArguments environmentToken (front ++ "aggr" :: rest) = .error stop ∧
      Invocation.ofArguments environmentToken (front ++ "aggr" :: woven) = .error stop) ∨
    ∃ general options folder, Invocation.ofArguments environmentToken (front ++ "aggr" :: rest) =
        .ok ⟨general, .aggregations options [] folder⟩ ∧
      Invocation.ofArguments environmentToken (front ++ "aggr" :: woven) =
        .ok ⟨general, .aggregations options (values.filterMap choiceOf?) folder⟩ := by
  obtain ⟨front', hfront', hread⟩ := Level.exists_front hline
  obtain rfl := List.append_cancel_right hfront'
  rw [Invocation.ofArguments_eq (hread rest), Invocation.ofArguments_eq (hread woven), readCommand_aggr,
    readCommand_aggr, readAll_woven h hvalues]
  cases hform : aggregationLevel.readAll rest with
  | error stop => exact .inl ⟨stop, rfl, rfl⟩
  | ok form =>
    have hempty := choices_of_readAll h hform
    have hlayout : (form.withChoices (values.filterMap choiceOf?)).layout? = form.layout? := rfl
    simp only [Except.bind, Except.map, AggregationForm.command?_eq, hempty, hlayout]
    cases form.layout? with
    | none => exact .inl ⟨.misuse, rfl, rfl⟩
    | some layout =>
      cases general with
      | none => exact .inl ⟨.misuse, rfl, rfl⟩
      | some outer => exact .inr ⟨_, _, _, rfl, rfl⟩

end SeriesExport.CommandLine
