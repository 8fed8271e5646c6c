import NotebookKernel.Shell.Builtin.Basic
import NotebookKernel.Shell.Builtin.Jobs
import NotebookKernel.Shell.Builtin.Names
import NotebookKernel.Shell.Builtin.Variables
import NotebookKernel.Shell.Grammar
import NotebookKernel.Shell.Printf
import NotebookKernel.Shell.Test

/-! # The commands of the shell by name

Those that run no further commands. Each gives its exit status. -/

namespace NotebookKernel.Shell.Builtin

open Run

/-! ## The directory of the shell -/

/-- An absolute path without dots. Two slashes at the start stay as they are. -/
def normalize (path : Octets) : Octets :=
  let names := (Text.Chars.splitOn (· == '/') path).filter fun n => !n.isEmpty && n != ['.']
  let kept := names.foldl (fun kept n => if n == ['.', '.'] then kept.tail else n :: kept) []
  let start := if (path.takeWhile (· == '/')).length == 2 then "//".toList else ['/']
  start ++ List.intercalate ['/'] kept.reverse

/-- Whether a path is seen from the present directory whatever the search path for directories is. -/
def isDotted (path : Octets) : Bool :=
  let first := path.takeWhile (· != '/')
  first == ['.'] || first == ['.', '.']

/-- Whether the last option asks for paths without links. -/
def isPhysical (options : List (Char × Octets)) : Bool := (options.getLast?.map (·.1)) == some 'P'

/-- Makes a path the present directory. -/
def enter (physical : Bool) (target : Octets) : Run Bool := do
  let p ← process
  let path := if target.head? == some '/' then target else p.directoryName ++ '/' :: target
  let path := if physical then target else normalize path
  match (← tree).find true p.directory (pathOf path) with
  | .ok (place, .directory mode) =>
    if !mode.mayRun then return false
    let name := if physical then Octets.ofString (Location.path place).text else path
    modifyProcess fun p => { p with directory := place, directoryName := name }
    assign "OLDPWD".toList p.directoryName
    assign "PWD".toList name
    changeVariable "OLDPWD".toList fun v => { v with exported := true }
    changeVariable "PWD".toList fun v => { v with exported := true }
    return true
  | _ => return false

/-- The path under which a directory is found on the search path for directories, and whether that is
worth telling. -/
def searchDirectory (target : Octets) : Run (Octets × Bool) := do
  match ← valueOf? "CDPATH".toList with
  | none => return (target, false)
  | some dirs =>
    let t ← tree
    let p ← process
    let paths := (Text.Chars.splitOn (· == ':') dirs).map fun dir =>
      if dir.isEmpty then (target, false) else (dir ++ '/' :: target, true)
    return (paths.find? fun (path, _) => t.isDirectory p.directory (pathOf path)).getD (target, false)

def cd (arguments : List Octets) : Run Nat := do
  let (options, operands) ← readOptions "LP" "" arguments
  let back := operands.head? == some ['-']
  let target ← match operands with
    | [] => valueOf "HOME"
    | target :: _ => if back then valueOf "OLDPWD" else pure target
  let (path, tell) ← if target.head? == some '/' || isDotted target then pure (target, false)
    else searchDirectory (if target.isEmpty then ['.'] else target)
  if ← enter (isPhysical options) path then
    if back || tell then put ((← process).directoryName ++ ['\n']) else return 0
  else refuse ("can't cd to ".toList ++ target)

def pwd (arguments : List Octets) : Run Nat := do
  let (options, _) ← readOptions "LP" "" arguments
  let p ← process
  let name := if isPhysical options then Octets.ofString (Location.path p.directory).text
    else p.directoryName
  put (name ++ ['\n'])

/-! ## Printing, testing and the names of the commands -/

def printf (arguments : List Octets) : Run Nat := do
  let (_, operands) ← readOptions "" "" arguments
  match operands with
  | [] => refuse "usage: printf format [arg ...]".toList
  | format :: arguments =>
    let printed := Printf.run format arguments
    for complaint in printed.complaints do complainHere complaint
    let written ← put printed.output
    if printed.malformed then throw .refused
    return if printed.complaints.isEmpty then written else 1

def test (bracket : Bool) (arguments : List Octets) : Run Nat := do
  let p ← process
  if bracket && arguments.getLast? != some [']'] then refuse "missing ]".toList
  match Test.evaluate ⟨← tree, p.directory⟩ (if bracket then arguments.dropLast else arguments) with
  | .ok holds => return if holds then 0 else 1
  | .error why => refuse why

/-- The names of the commands that the shell carries out itself, apart from the special ones. -/
def regularNames : List String :=
  ["[", "alias", "bg", "cd", "command", "echo", "false", "fg", "getopts", "hash", "jobs", "kill",
    "printf", "pwd", "read", "test", "true", "type", "ulimit", "umask", "unalias", "wait"]

def isSpecial (name : Octets) : Bool := specialNames.any (·.toList == name)

/-- Whether the shell carries out a command itself. -/
def isKnown (name : Octets) : Bool := isSpecial name || regularNames.any (·.toList == name)

/-- The words behind `command` and its options, unless those ask to tell what names stand for. -/
def commandOperands (ended : Bool) : List Octets → Option (List Octets)
  | [] => none
  | word :: rest =>
    if ended then some (word :: rest)
    else match word with
      | ['-', '-'] => commandOperands true rest
      | '-' :: c :: letters =>
        if (c :: letters).all (· == 'p') then commandOperands false rest else none
      | word => some (word :: rest)

/-- Carries out a command by name, unless it is none of those that run no further commands. -/
def run? (name : String) (arguments : List Octets) : Option (Run Nat) :=
  match name with
  | "[" => some (test true arguments)
  | "test" => some (test false arguments)
  | "alias" => some (nameAliases arguments)
  | "bg" | "fg" => some (resume arguments)
  | "cd" => some (cd arguments)
  | "echo" => some (put (echoed arguments))
  | "export" => some (declare "export" (fun v => { v with exported := true }) (·.exported) arguments)
  | "false" => some (pure 1)
  | "getopts" => some (getopts arguments)
  | "hash" => some (hash isKnown arguments)
  | "jobs" => some (listJobs arguments)
  | "local" => some (keepLocal arguments)
  | "printf" => some (printf arguments)
  | "pwd" => some (pwd arguments)
  | "read" => some (read arguments)
  | "readonly" => some (declare "readonly" (fun v => { v with readOnly := true }) (·.readOnly) arguments)
  | "set" => some (set arguments)
  | "shift" => some (shift arguments)
  | "times" =>
    let line := "0m0.000000s 0m0.000000s\n".toList
    some (put (line ++ line))
  | "trap" => some (trap arguments)
  | ":" | "true" => some (pure 0)
  | "ulimit" => some (ulimit arguments)
  | "umask" => some (umask arguments)
  | "unalias" => some (removeAliases arguments)
  | "unset" => some (unset arguments)
  | "wait" => some (wait arguments)
  | _ => none

end NotebookKernel.Shell.Builtin
