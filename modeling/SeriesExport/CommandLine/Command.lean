import SeriesExport.CommandLine.Option
import SeriesExport.Job
import SeriesExport.Text.Blank

/-!
# Commands

What a user can ask for: the list of the sources, an export of raw data, or one of aggregated data. The options of the
program are accepted before and after the name of the command; those after it count first, and the token may also come
from the environment (`Invocation.ofArguments`).
-/

namespace SeriesExport.CommandLine

inductive Command where
  | sources
  /-- without sources: all of them -/
  | data (options : Options) (attributes : String) (sources : List String) (folder : String)
  /-- without choices: everything -/
  | aggregations (options : Options) (choices : List Choice) (folder : String)

/-- The options that go with every command. -/
structure General where
  configFile : Option String := none
  apiUrl : Option String := none
  token : Option String := none
  deriving DecidableEq, Repr

structure Invocation extends General where
  command : Command

/-! ## What options do -/

section Effects

variable {Form : Type}

/-- An option that is given at most once. -/
def once (place : Form → Option String) (put : Form → String → Form) : Effect Form :=
  .value fun v form => if (place form).isSome then none else some (put form v)

/-- An option that is given at most once, and not with an empty value. -/
def onceNonempty (place : Form → Option String) (put : Form → String → Form) : Effect Form :=
  .value fun v form => if (place form).isSome || v = "" then none else some (put form v)

/-- An option without value that is given at most once. -/
def switch (place : Form → Bool) (put : Form → Form) : Effect Form :=
  .flag fun form => if place form then none else some (put form)

end Effects

/-- Help on a topic can be asked for at every level. -/
def helpLetter {Form : Type} (topic : Topic) (c : Char) : Option (Effect Form) :=
  if c = 'h' then some (.stop (.help topic)) else none

namespace General

def option : String → Option (Effect General)
  | "config" => some (onceNonempty (·.configFile) fun g v => { g with configFile := some v })
  | "api-url" => some (once (·.apiUrl) fun g v => { g with apiUrl := some v })
  | "token" => some (once (·.token) fun g v => { g with token := some v })
  | _ => none

/-- What is given in the first place, completed by the second. -/
def orElse (first second : General) : General :=
  ⟨first.configFile <|> second.configFile, first.apiUrl <|> second.apiUrl, first.token <|> second.token⟩

end General

/-! ## Levels -/

/-- The options of both export commands. -/
structure WindowForm extends General where
  start : Option String := none
  stop : Option String := none
  iso : Bool := false
  folder : Option String := none

def WindowForm.option : String → Option (Effect WindowForm)
  | "start" => some (once (·.start) fun f v => { f with start := some v })
  | "end" => some (once (·.stop) fun f v => { f with stop := some v })
  | "iso" => some (switch (·.iso) fun f => { f with iso := true })
  | "out" => some (onceNonempty (·.folder) fun f v => { f with folder := some v })
  | name => (General.option name).map (.lift (·.toGeneral) fun f g => { f with toGeneral := g })

structure DataForm extends WindowForm where
  attributes : Option String := none
  sources : List String := []
  zip : Bool := false

def DataForm.option : String → Option (Effect DataForm)
  | "attributes" => some (once (·.attributes) fun f v => { f with attributes := some v })
  | "source" => some (.value fun v f => some { f with sources := f.sources ++ [v] })
  | "zip" => some (switch (·.zip) fun f => { f with zip := true })
  | "help" => some (.stop (.help .data))
  | name => (WindowForm.option name).map (.lift (·.toWindowForm) fun f w => { f with toWindowForm := w })

structure AggregationForm extends WindowForm where
  choices : List Choice := []
  zip : Bool := false
  perAggregation : Bool := false

/-- The aggregation before the first equals sign, and its attributes behind it. -/
def choiceOf? (text : String) : Option Choice := do
  let (id, attributes) ← Text.cut? '=' text.toList
  return ⟨String.ofList (Text.trimChars id), String.ofList attributes⟩

def AggregationForm.option : String → Option (Effect AggregationForm)
  | "aggregation" => some (.value fun v f => do return { f with choices := f.choices ++ [← choiceOf? v] })
  | "zip" => some (switch (·.zip) fun f => { f with zip := true })
  | "per-aggregation" => some (switch (·.perAggregation) fun f => { f with perAggregation := true })
  | "help" => some (.stop (.help .aggregations))
  | name => (WindowForm.option name).map (.lift (·.toWindowForm) fun f w => { f with toWindowForm := w })

def programLevel : Level General where
  blank := {}
  option
    | "help" => some (.stop (.help .program))
    | "version" => some (.stop .version)
    | name => General.option name
  letter c := if c = 'V' then some (.stop .version) else helpLetter .program c

def sourcesLevel : Level General where
  blank := {}
  option
    | "help" => some (.stop (.help .sources))
    | name => General.option name
  letter := helpLetter .sources

def dataLevel : Level DataForm := ⟨{}, DataForm.option, helpLetter .data⟩

def aggregationLevel : Level AggregationForm := ⟨{}, AggregationForm.option, helpLetter .aggregations⟩

/-! ## From forms to commands -/

def WindowForm.options (f : WindowForm) (layout : Layout) : Options :=
  ⟨f.start.getD "", f.stop.getD "", layout, if f.iso then .iso8601 else .epochSeconds⟩

def DataForm.command (f : DataForm) : Command :=
  .data (f.options (if f.zip then .perEntity else .singleFile)) (f.attributes.getD "name,time,value,unit") f.sources
    (f.folder.getD ".")

/-- There is one layout only. -/
def AggregationForm.layout? (f : AggregationForm) : Option Layout :=
  match f.zip, f.perAggregation with
  | true, true => none
  | true, false => some .perEntity
  | false, true => some .perAggregation
  | false, false => some .singleFile

def AggregationForm.command? (f : AggregationForm) : Option Command := do
  return .aggregations (f.options (← f.layout?)) f.choices (f.folder.getD ".")

/-! ## Reading a command line -/

/-- What help is asked for by the words behind `help`. -/
def helpOn : List String → Stop
  | [] => .help .program
  | ["sources"] => .help .sources
  | ["data"] => .help .data
  | ["aggr"] => .help .aggregations
  | ["help"] => .help .help
  | _ => .misuse

/-- A command by its name, with what follows the name. -/
def readCommand (name : String) (arguments : List String) : Except Stop Invocation := do
  match name with
  | "sources" => do
    let form ← sourcesLevel.readAll arguments
    return ⟨form, .sources⟩
  | "data" => do
    let form ← dataLevel.readAll arguments
    return ⟨form.toGeneral, form.command⟩
  | "aggr" => do
    let form ← aggregationLevel.readAll arguments
    return ⟨form.toGeneral, ← settle form.command?⟩
  | "help" => .error (helpOn arguments)
  | _ => .error .misuse

/-- The token of the environment counts if none is given on the line. -/
def Invocation.ofArguments (environmentToken : Option String) (arguments : List String) : Except Stop Invocation := do
  match ← programLevel.read (some programLevel.blank) arguments with
  | (_, none) => .error .misuse
  | (form, some (name, rest)) => do
    let inner ← readCommand name rest
    let outer ← settle form
    let general := (inner.toGeneral.orElse outer).orElse { token := environmentToken }
    return ⟨general, inner.command⟩

end SeriesExport.CommandLine
