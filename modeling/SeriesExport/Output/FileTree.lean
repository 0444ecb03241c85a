import SeriesExport.Output.Artifact
import SeriesExport.Text.Split

/-!
# Files and folders

A tree of folders and files with a folder, its home, in which relative paths begin. A path is followed name by name
through folders that are there (`walk`), or that are made on the way (`makeFolders`). Of what has been made nothing is
taken back, even if the path turns out not to lead anywhere. A folder that is named by a dot at the end of a path is
not made (`openFolder`).

An export file is saved in a folder under its own name and replaces a file that has this name (`save`).
-/

namespace SeriesExport

/-- The names on the way from the root, the last one being its own. -/
abbrev Place := List String

structure FileTree where
  home : Place := []
  /-- all folders but the root -/
  folders : List Place := []
  files : List (Place × Content) := []
  deriving DecidableEq, Repr

/-! ## Paths -/

namespace Path

/-- The pieces between slashes. -/
def pieces (path : String) : List String := (Text.splitOn '/' path.toList).map String.ofList

def isAbsolute (path : String) : Bool := path.toList.head? = some '/'

/-- The path of a name in a folder. An absolute name is a path of its own, and an empty folder is the home. -/
def append (folder name : String) : String :=
  if isAbsolute name || folder = "" then name
  else if folder.toList.getLast? = some '/' then folder ++ name
  else folder ++ "/" ++ name

/-- Empty pieces and single dots lead nowhere. -/
def isStep (piece : String) : Bool := piece ≠ "" && piece ≠ "."

/-- What can be the name of a file or folder has at most 255 bytes. -/
def isName (piece : String) : Bool := isStep piece && piece ≠ ".." && piece.utf8ByteSize ≤ 255

/-- What can be a path at all has at most 4095 bytes, none of them zero. -/
def isUsable (path : String) : Bool := path.utf8ByteSize ≤ 4095 && !path.toList.contains '\x00'

/-- The pieces of a path to a folder along which folders are made: all, unless the last is a dot. The dot stands for a
folder that has to be there, and only those before it are made. -/
def made (pieces : List String) : List String :=
  match pieces.reverse.dropWhile (· = "") with
  | "." :: before => ((before.dropWhile (!isStep ·)).drop 1).reverse
  | _ => pieces

example : made ["a", "b", ""] = ["a", "b", ""] ∧ made ["a", "b", ".", ""] = ["a"] ∧ made ["."] = [] := by decide +kernel

example : append "." "a.csv" = "./a.csv" ∧ append "out/" "a.csv" = "out/a.csv" ∧ append "" "a.csv" = "a.csv" ∧
    append "out" "/a.csv" = "/a.csv" := by decide +kernel

end Path

namespace FileTree

def isFolder (t : FileTree) (p : Place) : Bool := p = [] || t.folders.contains p

def file? (t : FileTree) (p : Place) : Option Content := t.files.lookup p

/-- Where a path begins. -/
def origin (t : FileTree) (path : String) : Place := if Path.isAbsolute path then [] else t.home

/-! ## Following a path -/

/-- One step into a folder that is there, or back from one. -/
def step? (t : FileTree) (p : Place) (piece : String) : Option Place :=
  if !Path.isStep piece then some p
  else if piece = ".." then some p.dropLast
  else if t.isFolder (p ++ [piece]) then some (p ++ [piece])
  else none

def walk (t : FileTree) (p : Place) (pieces : List String) : Option Place := pieces.foldlM t.step? p

/-- The file that a path names, which is the last of its pieces, and the folder that it is in. -/
def target? (t : FileTree) (path : String) : Option Place := do
  let pieces := Path.pieces path
  let name ← pieces.getLast?
  let folder ← t.walk (t.origin path) pieces.dropLast
  if Path.isUsable path && Path.isName name && !t.isFolder (folder ++ [name]) then some (folder ++ [name]) else none

/-- The content of the file that a path names. -/
def read? (t : FileTree) (path : String) : Option Content := do t.file? (← t.target? path)

/-! ## Making and writing -/

/-- The tree in which a file has the given content. -/
def put (t : FileTree) (p : Place) (content : Content) : FileTree :=
  { t with files := t.files.filter (·.1 ≠ p) ++ [(p, content)] }

/-- One step into a folder that is made if nothing has its name. -/
def stepMaking (t : FileTree) (p : Place) (piece : String) : Option Place × FileTree :=
  match t.step? p piece with
  | some q => (some q, t)
  | none =>
    let q := p ++ [piece]
    if Path.isName piece && (t.file? q).isNone then (some q, { t with folders := t.folders ++ [q] }) else (none, t)

/-- Follows a path and makes the folders that are not there. -/
def makeFolders (t : FileTree) (p : Place) : List String → Option Place × FileTree
  | [] => (some p, t)
  | piece :: pieces =>
    match t.stepMaking p piece with
    | (some q, t) => t.makeFolders q pieces
    | (none, t) => (none, t)

/-- The folder that a path names, after the folders that the path makes. -/
def openFolder (t : FileTree) (path : String) : Option Place × FileTree :=
  if Path.isUsable path then
    match t.makeFolders (t.origin path) (Path.made (Path.pieces path)) with
    | (some _, t) => (t.walk (t.origin path) (Path.pieces path), t)
    | (none, t) => (none, t)
  else (none, t)

/-- Writes a file into a folder that is there. -/
def write? (t : FileTree) (path : String) (content : Content) : Option FileTree := do
  return t.put (← t.target? path) content

/-- Saves an export file in a folder, and says under which path. -/
def save (t : FileTree) (folder : String) (a : Artifact) : Result String × FileTree :=
  match t.openFolder folder with
  | (none, t) => (.error .io, t)
  | (some _, t) =>
    let path := Path.append folder a.filename
    match t.write? path a.content with
    | some t => (.ok path, t)
    | none => (.error .io, t)

theorem file?_put_self (t : FileTree) (p : Place) (content : Content) : (t.put p content).file? p = some content := by
  simp only [put, file?]
  induction t.files with
  | nil => simp
  | cons f fs ih =>
    by_cases h : f.1 = p
    · simpa [h] using ih
    · simp only [ne_eq, h, not_false_eq_true, decide_true, List.filter_cons_of_pos, List.cons_append]
      rw [List.lookup_cons, show (p == f.1) = false from by simpa using fun e => h e.symm]
      simpa using ih

/-- A folder that is made on the way stays, even if the path ends at a file. -/
example :
    let files := [(["a", "b"], Content.text "")]
    FileTree.makeFolders { files, folders := [["a"]] } [] ["a", "..", "c", "..", "a", "b", "d"] =
      (none, { files, folders := [["a"], ["c"]] }) := by decide +kernel

end FileTree

end SeriesExport
