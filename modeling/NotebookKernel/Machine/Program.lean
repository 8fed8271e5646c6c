import NotebookKernel.Machine.FileTree

/-! # Finding programs

A program whose name holds a slash is a path. Any other name is looked for in the directories of the
search path, in order. -/

namespace NotebookKernel.FileTree

/-- The directories that are searched where the environment has no search path. -/
def defaultSearchPath : String := "/bin:/usr/bin"

/-- The place of a file that can be run under a path, seen from a directory. -/
def runnable (t : FileTree) (directory : Location) (p : Path) : Except OsError Location := do
  match ← t.find true directory p with
  | (l, .file _ mode) => if mode.mayRun then .ok l else .error .permissionDenied
  | (l, .tool) => .ok l
  | _ => .error .permissionDenied

/-- Tries paths in turn. Missing files are passed over; a file that may not be run counts only if no
other is found. -/
def firstRunnable (t : FileTree) (directory : Location) (refused : Bool) :
    List Path → Except OsError (Path × Location)
  | [] => .error (if refused then .permissionDenied else .notFound)
  | p :: rest =>
    match t.runnable directory p with
    | .ok l => .ok (p, l)
    | .error .notFound => firstRunnable t directory refused rest
    | .error .notADirectory => firstRunnable t directory refused rest
    | .error .permissionDenied => firstRunnable t directory true rest
    | .error e => .error e

/-- The program of a name, with the path by which it was found, for a process in a directory with a
search path. -/
def findProgram (t : FileTree) (directory : Location) (searchPath : Option String) (name : String) :
    Except OsError (Path × Location) :=
  if name.isEmpty then .error .notFound
  else if Text.contains "/" name then (t.runnable directory ⟨name⟩).map (⟨name⟩, ·)
  else
    let dirs := Text.splitOn ':' (searchPath.getD defaultSearchPath)
    t.firstRunnable directory false (dirs.map fun dir => (⟨dir⟩ : Path) ++ name)

/-- How much of a file is looked at to tell how it is to be run, in bytes. -/
def headerLength : Nat := 256

/-- The interpreter that the first line of a script names, with its argument. There is none if the
file does not begin as a script does, if no name follows, or if the name may be cut off by the end of
what is looked at. -/
def interpreter? (content : Bytes) : Option (String × Option String) :=
  let isBlank (b : UInt8) : Bool := b == 0x20 || b == 0x09
  let isEnd (b : UInt8) : Bool := isBlank b || b == 0
  let header := content.take headerLength
  let header := header ++ List.replicate (headerLength - header.length) 0
  match header with
  | 0x23 :: 0x21 :: rest =>
    let line := rest.takeWhile fun b => b != 0x0A && b != 0
    let isWhole := (rest.drop line.length).head? == some 0x0A
    let line := if isWhole then line else rest.dropLast
    let bare := (line.reverse.dropWhile isBlank).reverse.dropWhile isBlank
    if bare.isEmpty then none
    else if !isWhole && !(rest.dropWhile isBlank).any isEnd then none
    else
      let path := bare.takeWhile (!isEnd ·)
      let argument := match bare.drop path.length with
        | [] => none
        | b :: after =>
          if b == 0 then none else some ((after.dropWhile isBlank).takeWhile (· != 0))
      some (Utf8.decodeLossy path, argument.map Utf8.decodeLossy)
  | _ => none

/-- A program of the system that is to be started. -/
structure Startable where
  /-- What the program is called by. -/
  name : String
  /-- The file that was asked for, which may be a script that the program interprets. -/
  file : Location
  place : Location
  /-- The arguments that come before those it is given. -/
  leading : List String

/-- How often the interpreter of a script may be a script itself. -/
def maxInterpreters : Nat := 5

/-- What runs the file at a place that was reached by a path. A script is run by its interpreter, to
which it is an argument. -/
def interpret (t : FileTree) (directory file : Location) (fuel : Nat) (name path : String)
    (place : Location) (leading : List String) : Except OsError Startable := do
  match t.get? place with
  | some .tool => return ⟨name, file, place, leading⟩
  | some (.file content _) =>
    match interpreter? content with
    | none => throw .badExecutable
    | some (interpreter, argument) =>
      let next ← t.runnable directory ⟨interpreter⟩
      match fuel with
      | 0 => throw .tooManyLinks
      | fuel + 1 =>
        interpret t directory file fuel interpreter interpreter next (argument.toList ++ path :: leading)
  | _ => throw .permissionDenied

/-- What the system starts for a path and the place it leads to. -/
def startable (t : FileTree) (directory : Location) (name : String) (p : Path) (place : Location) :
    Except OsError Startable :=
  t.interpret directory place maxInterpreters name p.text place []

/-- The shell, which is to run a file as a script. -/
def shellOn (p : Path) (file : Location) : Startable :=
  ⟨"/bin/sh", file, ["usr", "bin", "sh"], [p.text]⟩

/-- What is started when a process in a directory asks for a program. A file that is neither program
nor script is handed to the shell if it was found on the search path. -/
def findStartable (t : FileTree) (directory : Location) (searchPath : Option String)
    (name : String) : Except OsError Startable := do
  let (path, place) ← t.findProgram directory searchPath name
  match t.startable directory name path place with
  | .error .badExecutable =>
    if Text.contains "/" name then throw .badExecutable else return shellOn path place
  | result => result

/-- The place of a directory that a process is to be started in. -/
def startDirectory (t : FileTree) (p : Path) : Except OsError Location := do
  match ← t.find true [] p with
  | (l, .directory mode) => if mode.mayRun then .ok l else .error .permissionDenied
  | _ => .error .notADirectory

end NotebookKernel.FileTree
