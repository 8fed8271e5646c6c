import NotebookKernel.CommandLine.Commands
import NotebookKernel.Machine.Host
import Std.Time.DateTime.Timestamp

/-! # The program

The directory of the notebooks and the working directory are copied into a machine in memory, the
command line is carried out there, and the files that were changed are written back. No interpreter
can be started on that machine, so that cells which need one fail. -/

namespace NotebookKernel.Program

/-- The variables that the program looks at or hands on. -/
def variableNames : List String :=
  ["HOME", "PATH", "LANG", "QUILL_NOTEBOOKS_DIR", "QUILL_PYTHON", "TERM", "TMPDIR", "USER",
    "XDG_DATA_HOME"]

def readEnvironment : List String → IO (SortedMap String)
  | [] => return ∅
  | name :: rest => do
    let others ← readEnvironment rest
    match ← IO.getEnv name with
    | some value => return others.insert name value
    | none => return others

/-- The place that a path leads to from a directory, by its names alone. -/
def placeOf (directory : Location) (p : Path) : Location :=
  (if p.isAbsolute then p.names else directory ++ p.names).foldl (fun place name =>
    if name = "." then place else if name = ".." then place.dropLast else place ++ [name]) []

/-- Copies a directory with the files that lie in it into a tree. -/
def copyIn (t : FileTree) (place : Location) : IO FileTree := do
  let directory := (← IO.currentDir) / (Location.path place).text
  if !(← directory.isDir) then return t
  let mut t := t.place place .plainDirectory
  for entry in ← directory.readDir do
    let inside := place ++ [entry.fileName]
    if ← entry.path.isDir then t := t.place inside .plainDirectory
    else
      let content ← try IO.FS.readBinFile entry.path catch _ => pure ∅
      t := t.place inside (.plainFile content.toList)
  return t

/-- Writes one place as it is after the run. -/
def copyOut (before after : FileTree) (key : String) : IO Unit := do
  let old := before.entries.get? key
  let new := after.entries.get? key
  if old == new then return
  match new with
  | some (.directory _) => IO.FS.createDirAll key
  | some (.file content _) => IO.FS.writeBinFile key ⟨content.toArray⟩
  | _ => if !old.any Entry.isDirectory then IO.FS.removeFile key

def readInput (args : List String) : IO Bytes := do
  if args.contains "-" then
    let stdin ← IO.getStdin
    return (← stdin.readBinToEnd).toList
  else return []

def run (args : List String) : IO UInt32 := do
  let environment ← readEnvironment variableNames
  let directory := placeOf [] ⟨(← IO.currentDir).toString⟩
  let host := Machine.host environment directory
  let places := match CommandLine.Invocation.ofArgs? args with
    | some i => directory :: ((CommandLine.notebooksDirectory? host i).toList ++
        i.workingDirectory.toList).map (placeOf directory)
    | none => []
  let before ← places.foldlM copyIn Machine.systemTree
  let elapsed := (← Std.Time.Timestamp.now).toNanosecondsSinceUnixEpoch.val
    - Machine.epoch.seconds * 1000000000
  let random ← IO.getRandomBytes 15
  let machine : Machine := {
    tree := before
    clock := elapsed.toNat
    issued := random.toList.foldl (fun n b => 256 * n + b.toNat) 0 }
  let input ← readInput args
  let (result, machine) := CommandLine.runArgs args host .none input machine
  for key in (before.entries.keys ++ machine.tree.entries.keys).eraseDups do
    copyOut before machine.tree key
  IO.print result.console.stdout
  IO.eprint result.console.stderr
  return result.exitCode.toUInt32

end NotebookKernel.Program

def main (args : List String) : IO UInt32 := NotebookKernel.Program.run args
