import SeriesExport.CommandLine.Command
import SeriesExport.CommandLine.Help
import SeriesExport.Fetch.Export
import SeriesExport.Fetch.Registry
import SeriesExport.Output.FileTree

/-!
# Running the program

A command line is read, the configuration is loaded, and then the command converses with the server
(`Command.dialogue`). What it comes to is known before anything is written: an export that fails or is aborted leaves
the files as they are, and only one that succeeds saves its file (`deliver`).
-/

namespace SeriesExport.CommandLine

/-! ## Commands -/

/-- What a command comes to if nothing goes wrong. -/
inductive Product where
  | listing (sources : List DataSource)
  /-- a file to be saved in a folder -/
  | file (artifact : Artifact) (folder : String)

/-- The ids of all sources of the registry, unless some are chosen. -/
def chosenSources (config : Config) (chosen : List String) : Dialogue (Result (List String)) := do
  if chosen = [] then return (← Registry.listSources config).map (·.map DataSource.id)
  else return .ok chosen

/-- The export of a job, if there is one. -/
def produce (config : Config) (folder : String) : Result ExportJob → Dialogue (Result Product)
  | .error cause => return .error cause
  | .ok job => return (← job.run config).map fun artifact => .file artifact folder

/-- The job for the chosen aggregations of the sources. -/
def aggregationJob (options : Options) (choices : List Choice) (sources : List DataSource) : Result ExportJob := do
  let groups ← groupAggregations sources
  let choices := if choices = [] then defaultChoices groups else choices
  ExportJob.ofAggregations { toOptions := options, choices } groups

def Command.dialogue (config : Config) : Command → Dialogue (Result Product)
  | .sources => return (← Registry.listSources config).map .listing
  | .data options attributes chosen folder => do
    match ← chosenSources config chosen with
    | .error cause => return .error cause
    | .ok ids => produce config folder (ExportJob.ofData { toOptions := options, attributes, sources := ids })
  | .aggregations options choices folder => do
    match ← Registry.listSources config with
    | .error cause => return .error cause
    | .ok listed => produce config folder (aggregationJob options choices listed)

/-! ## Reports -/

/-- What the user sees when the program ends. -/
structure Report where
  exit : UInt8 := 0
  output : String := ""
  complaint : String := ""
  deriving DecidableEq, Repr

def Report.failure (message : String) : Report := { exit := 1, complaint := "Error: " ++ message ++ "\n" }

def Stop.report : Stop → Report
  | .help topic => { output := helpText topic }
  | .version => { output := versionText }
  | .misuse => { exit := 2, complaint := misuseText }

/-- A source and its aggregations. -/
def sourceLine (s : DataSource) : String := s.id ++ "\t" ++ ",".intercalate (s.aggregation.map Descriptor.id)

/-- Being aborted is no failure. -/
def failureReport (cause : ExportError) : Report := if cause.isAbort then {} else .failure cause.message

/-- Shows a listing, saves a file and shows its path, or says what went wrong. -/
def deliver (tree : FileTree) : Result Product → Report × FileTree
  | .ok (.listing sources) => ({ output := linesText (sources.map sourceLine) }, tree)
  | .ok (.file artifact folder) =>
    match tree.save folder artifact with
    | (.ok path, tree) => ({ output := path ++ "\n" }, tree)
    | (.error cause, tree) => (failureReport cause, tree)
  | .error cause => (failureReport cause, tree)

/-! ## Settings -/

/-- What keeps a command from being started. -/
inductive SettingsFault where
  | unusableFile (path : String)
  | invalid (cause : ExportError)
  deriving DecidableEq, Repr

def SettingsFault.message : SettingsFault → String
  | .unusableFile path => "Failed to load config from " ++ path
  | .invalid cause => cause.message

/-- The configuration of the file, or the default, with the address of the command line. -/
def settings (read : String → Option ByteArray) (general : General) : Except SettingsFault Config := do
  let config ← match general.configFile with
    | none => .ok {}
    | some path => (Config.ofFile (read path)).mapError fun _ => .unusableFile path
  let config := config.withUrl general.apiUrl
  match config.validate with
  | .ok () => return config
  | .error cause => .error (.invalid cause)

/-! ## The program -/

/-- The bytes of the file that a path names. -/
def fileBytes (tree : FileTree) (path : String) : Option ByteArray :=
  match tree.read? path with
  | some (.text text) => some text.toUTF8
  | _ => none

/-- What a run leaves behind. -/
structure Aftermath where
  report : Report
  tree : FileTree
  history : List Event := []

/-- Runs the program with a server, the token of the environment and a tree of files. -/
def run {σ : Type} (env : Environment σ) (server : σ) (environmentToken : Option String) (tree : FileTree)
    (arguments : List String) : Aftermath :=
  match Invocation.ofArguments environmentToken arguments with
  | .error stop => ⟨stop.report, tree, []⟩
  | .ok invocation =>
    match settings (fileBytes tree) invocation.toGeneral with
    | .error fault => ⟨.failure fault.message, tree, []⟩
    | .ok config =>
      let (result, world) := (invocation.command.dialogue config).run env { server, session := ⟨invocation.token, 0⟩ }
      let (report, tree) := deliver tree result
      ⟨report, tree, world.trace⟩

end SeriesExport.CommandLine
