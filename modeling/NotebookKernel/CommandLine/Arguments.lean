import NotebookKernel.Host.Path

/-! # Command line arguments

A command line names one task with its arguments. Options that hold for every task may stand before
the task's name or behind it. -/

namespace NotebookKernel.CommandLine

/-- What the program is asked to do. -/
inductive Task where
  /-- Run one cell, read from standard input if it is a single hyphen. -/
  | exec (code : String) (json : Bool)
  /-- Run the code cells of a stored notebook and save their outputs. -/
  | run (id : String)
  | list
  | show (id : String)
  | delete (id : String)
  | new (id : String) (title : Option String)
  deriving DecidableEq, Repr

/-- A command line. -/
structure Invocation where
  verbose : Bool
  /-- The directory of the stored notebooks. -/
  notebooksDirectory : Option Path
  /-- The directory to run cells in. -/
  workingDirectory : Option Path
  task : Task
  deriving Repr

/-- Arguments sorted by what they are. -/
structure Sorted where
  /-- The names of the options without a value. -/
  flags : List String
  /-- The options with a value. -/
  options : List (String × String)
  /-- All others, in order. -/
  positionals : List String

/-- Options that take a value. -/
def valueOptions : List String := ["--notebooks-dir", "--cwd", "--title"]

/-- Whether an argument looks like an option. A single hyphen is a value. -/
def looksLikeOption (arg : String) : Bool :=
  Text.startsWith "-" arg && arg != "-"

/-- The option without a value that an argument names. -/
def flag? (arg : String) : Option String :=
  match arg with
  | "-v" | "--verbose" => some "--verbose"
  | "--json" => some "--json"
  | _ => none

namespace Sorted

def empty : Sorted := ⟨[], [], []⟩

/-- Sorts arguments; `none` where one makes no sense. Behind two hyphens no argument is an option. -/
def ofArgs? : List String → Option Sorted
  | [] => some empty
  | "--" :: rest => some { empty with positionals := rest }
  | arg :: rest =>
    if valueOptions.contains arg then
      match rest with
      | value :: rest =>
        if looksLikeOption value then none
        else (ofArgs? rest).map fun s => { s with options := (arg, value) :: s.options }
      | [] => none
    else if looksLikeOption arg then
      match flag? arg, Text.splitOnce? '=' arg with
      | some name, _ => (ofArgs? rest).map fun s => { s with flags := name :: s.flags }
      | none, some (key, value) =>
        if valueOptions.contains key then
          (ofArgs? rest).map fun s => { s with options := (key, value) :: s.options }
        else none
      | none, none => none
    else (ofArgs? rest).map fun s => { s with positionals := arg :: s.positionals }

def value? (s : Sorted) (key : String) : Option String :=
  (s.options.find? (·.1 == key)).map (·.2)

/-- The names of all options. -/
def names (s : Sorted) : List String := s.flags ++ s.options.map (·.1)

/-- Whether no option occurs twice and all are among the allowed ones. -/
def isAllowed (s : Sorted) (allowed : List String) : Bool :=
  s.names.all fun name => allowed.contains name && s.names.count name == 1

end Sorted

/-- Splits the options before the task's name off. -/
def splitLeading : List String → List String × List String
  | [] => ([], [])
  | arg :: rest =>
    if valueOptions.contains arg then
      match rest with
      | value :: rest =>
        let (leading, others) := splitLeading rest
        (arg :: value :: leading, others)
      | [] => ([arg], [])
    else if looksLikeOption arg then
      let (leading, others) := splitLeading rest
      (arg :: leading, others)
    else ([], arg :: rest)

/-- Options that hold for every task. -/
def generalOptions : List String := ["--verbose", "--notebooks-dir", "--cwd"]

/-- The task of a name with its arguments, and the options that only this task has. -/
def taskOf? (name : String) (s : Sorted) : Option (Task × List String) :=
  match name, s.positionals with
  | "exec", [code] => some (.exec code (s.flags.contains "--json"), ["--json"])
  | "run", [id] => some (.run id, [])
  | "list", [] => some (.list, [])
  | "show", [id] => some (.show id, [])
  | "delete", [id] => some (.delete id, [])
  | "new", [id] => some (.new id (s.value? "--title"), ["--title"])
  | _, _ => none

/-- Reads a command line. An option behind the task's name outdoes the same option before it, and a
path is never empty. -/
def Invocation.ofArgs? (args : List String) : Option Invocation :=
  match splitLeading args with
  | (_, []) => none
  | (leading, name :: rest) => do
    let before ← Sorted.ofArgs? leading
    let behind ← Sorted.ofArgs? rest
    let (task, own) ← taskOf? name behind
    if leading.contains "--" || !before.isAllowed generalOptions then none
    if !behind.isAllowed (own ++ generalOptions) then none
    let pathOf? (key : String) : Option Path :=
      ((behind.value? key).or (before.value? key)).map Path.mk
    let paths := [before, behind].flatMap fun s => s.options.filter (·.1 != "--title")
    if paths.any fun o => o.2.isEmpty then none
    some {
      verbose := (before.flags ++ behind.flags).contains "--verbose"
      notebooksDirectory := pathOf? "--notebooks-dir"
      workingDirectory := pathOf? "--cwd"
      task }

end NotebookKernel.CommandLine
