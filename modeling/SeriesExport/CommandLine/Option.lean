/-!
# Options

A command line is read from left to right. Each level of it, the program's and that of the command, has options of its
own (`Level`), which are collected in a form. An option is written `--name`, and its value either behind an equals sign
or as the next argument, which then must not begin with a dash unless it is nothing else.

Whether a form admits what an option does to it is not looked at before the next option or the end of the line
(`settle`), except for what an option has behind an equals sign and for options without value. So the help that is asked
for in between comes first.
-/

namespace SeriesExport.CommandLine

/-- A part of the program that has a help text. -/
inductive Topic where
  | program
  | sources
  | data
  | aggregations
  | help
  deriving DecidableEq, Repr

/-- Why a command line is not carried out. -/
inductive Stop where
  | help (topic : Topic)
  | version
  | misuse
  deriving DecidableEq, Repr

/-- What an option does to the form; none if the form does not admit it. -/
inductive Effect (Form : Type) where
  | flag (set : Form → Option Form)
  | value (set : String → Form → Option Form)
  /-- the rest of the line does not matter -/
  | stop (reason : Stop)

namespace Effect

/-- What an option of a part does to the whole. -/
def lift {Part Form : Type} (get : Form → Part) (put : Form → Part → Form) : Effect Part → Effect Form
  | .flag set => .flag fun form => (set (get form)).map (put form)
  | .value set => .value fun v form => (set v (get form)).map (put form)
  | .stop reason => .stop reason

end Effect

/-- The options of a level: what a name does, and what a letter stands for. -/
structure Level (Form : Type) where
  blank : Form
  option : String → Option (Effect Form)
  letter : Char → Option (Effect Form)

/-! ## Arguments -/

inductive Argument where
  /-- two dashes: no options follow -/
  | terminator
  | name (name : String) (value : Option String)
  /-- the first letter behind a single dash -/
  | letter (c : Char)
  | word (text : String)
  deriving DecidableEq, Repr

/-- The name of an option and what stands behind the first equals sign. -/
def nameAndValue (cs : List Char) : String × Option String :=
  let value := match cs.dropWhile (· ≠ '=') with
    | [] => none
    | _ :: value => some (String.ofList value)
  (String.ofList (cs.takeWhile (· ≠ '=')), value)

def Argument.ofText (text : String) : Argument :=
  match text.toList with
  | ['-', '-'] => .terminator
  | '-' :: '-' :: cs => .name (nameAndValue cs).1 (nameAndValue cs).2
  | '-' :: c :: _ => .letter c
  | _ => .word text

/-- Whether an argument can be the value of the option before it. -/
def isValue (text : String) : Bool :=
  match text.toList with
  | '-' :: _ :: _ => false
  | _ => true

example : Argument.ofText "--start=a=b" = .name "start" (some "a=b") ∧ Argument.ofText "-Vx" = .letter 'V' ∧
    Argument.ofText "-" = .word "-" ∧ Argument.ofText "--" = .terminator := by decide +kernel

/-! ## Reading a level -/

/-- The form, if it has admitted everything. -/
def settle {Form : Type} : Option Form → Except Stop Form
  | some form => .ok form
  | none => .error .misuse

/-- What is read of a level: the form, none if it has not admitted the last option, and the first argument that is no
option with all that follow. -/
abbrev Level.Reading (Form : Type) := Option Form × Option (String × List String)

namespace Level

variable {Form : Type}

def read (level : Level Form) (form : Option Form) : List String → Except Stop (Reading Form)
  | [] => .ok (form, none)
  | argument :: rest =>
    match Argument.ofText argument with
    | .word text => .ok (form, some (text, rest))
    | .terminator => if rest = [] then .ok (form, none) else .error .misuse
    | .letter c => do
      let form ← settle form
      match level.letter c with
      | some (.flag set) => level.read (some (← settle (set form))) rest
      | some (.stop reason) => .error reason
      | _ => .error .misuse
    | .name name value => do
      let form ← settle form
      match level.option name, value, rest with
      | some (.flag set), none, rest => level.read (some (← settle (set form))) rest
      | some (.value set), some value, rest => level.read (some (← settle (set value form))) rest
      | some (.value set), none, value :: rest =>
        if isValue value then level.read (set value form) rest else .error .misuse
      | some (.stop reason), none, _ => .error reason
      | _, _, _ => .error .misuse

/-- The form of a line that has options only. -/
def readAll (level : Level Form) (arguments : List String) : Except Stop Form := do
  match ← level.read (some level.blank) arguments with
  | (form, none) => settle form
  | (_, some _) => .error .misuse

end Level

end SeriesExport.CommandLine
