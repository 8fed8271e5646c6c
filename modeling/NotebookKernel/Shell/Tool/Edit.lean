import NotebookKernel.Shell.Tool.Editing.Cycle
import NotebookKernel.Shell.Tool.Editing.Reader

/-! # The stream editor

`sed` edits lines by a script, which is given in options or as the first operand. -/

namespace NotebookKernel.Shell.Tool

open Run Editing

/-- Reads the parts of a script that options give, in order. What is wrong with one of them ends the
reading. -/
def scriptOfOptions (sandboxed : Bool) (choices : List Choice) :
    Run (ScriptReading × Nat × Option (Octets × Nat)) := do
  let mut reading : ScriptReading := {}
  let mut extended := false
  let mut expressions := 0
  let mut pending : Option Octets := none
  for (c, i) in choices.zipIdx do
    match c.key with
    | "E" => extended := true
    | "e" =>
      expressions := expressions + 1
      let text := (pending.map (· ++ '\n' :: c.text)).getD c.text
      let isLast := ((choices.drop (i + 1)).all (·.key != "e"))
      if !isLast && (text.reverse.takeWhile (· == '\\')).length % 2 == 1 then pending := some text
      else
        pending := none
        let (next, fault) := reading.read ⟨{ number := expressions, text }, extended, sandboxed⟩
        reading := next
        if fault.isSome then return (reading, expressions, fault.map (·, 1))
    | "f" =>
      match ← readWhole c.text with
      | .error why =>
        let text := "couldn't open file ".toList ++ c.text ++ ": ".toList ++ reason why
        return (reading, expressions, some (text, 4))
      | .ok text =>
        let (next, fault) := reading.read ⟨{ file := some c.text, text }, extended, sandboxed⟩
        reading := next
        if fault.isSome then return (reading, expressions, fault.map (·, 1))
    | _ => pure ()
  return (reading, expressions, none)

/-- What is wrong with a script as a whole. -/
def wholeFault? (r : ScriptReading) : Option (Octets × Nat) :=
  match r.blocks with
  | (_, place) :: _ => some (place ++ "unmatched `\x7b'".toList, 1)
  | [] =>
    let labels := r.script.instructions.toList.filterMap fun i => match i.action with
      | .jump label | .jumpIf _ label => some label
      | _ => none
    let missing := labels.find? fun label =>
      !label.isEmpty && (r.script.labels.lookup label).isNone
    missing.map fun label => ("can't find label for jump to `".toList ++ label ++ ['\''], 4)

def editingUsage : String :=
  "Usage: sed [OPTION]... \x7bscript-only-if-no-other-script\x7d [input-file]..."

def sed (runner : Runner) (arguments : List Octets) : Run Nat := do
  let called := Called.read (OptionForm.tableOf "n,quiet,silent e,expression= f,file= E,r,regexp-extended
    i,in-place? s,separate u,unbuffered z,null-data l,line-length= posix debug b,binary follow-symlinks
    sandbox help version") false arguments
  let giveUp (text : Octets) (status : Nat) : Run Nat := do
    complainOf text
    return status
  let sandboxed := called.has "sandbox"
  let (reading, expressions, fault) ← scriptOfOptions sandboxed called.choices
  let isGiven := called.has "e" || called.has "f"
  let operands := if isGiven then called.operands else called.operands.drop 1
  let (reading, expressions, fault) := match fault, called.fault, isGiven, called.operands with
    | none, none, false, text :: _ =>
      let (reading, fault) := reading.read ⟨{ number := 1, text }, called.has "E", sandboxed⟩
      (reading, 1, fault.map (·, 1))
    | _, _, _, _ => (reading, expressions, fault)
  for file in reading.files.reverse do
    if file != "/dev/stdout".toList && file != "/dev/stderr".toList then
      match ← fill file false [] with
      | .ok () => pure ()
      | .error e =>
        return ← giveUp ("couldn't open file ".toList ++ file ++ ": ".toList ++ reason e) 4
  if let some (text, status) := fault then return ← giveUp text status
  if let some fault := called.fault then
    complainOf fault.message
    complain editingUsage.toList
    return 1
  if !isGiven && called.operands.isEmpty then
    complain editingUsage.toList
    return 1
  match wholeFault? reading with
  | some (fault, status) => giveUp fault status
  | none =>
    let backup := (called.last? ["i"]).map (·.text)
    if backup.isSome && operands.isEmpty then return ← giveUp "no input files".toList 4
    let manner : Manner := {
      silent := called.has "n" || reading.script.silent
      separate := called.has "s" || backup.isSome
      backup, followsLinks := called.has "follow-symlinks"
      delimiter := lineEnd (called.has "z")
      width := (called.value? "l").elim 70 fun text =>
        (Octets.digitsValue? (text.takeWhile Char.isDigit)).getD 0
      expressions, runner }
    return (← ((Edit.runScript reading.script).run manner).run { files := orInput operands }).1

end NotebookKernel.Shell.Tool
