import NotebookKernel.Shell.Arithmetic
import NotebookKernel.Shell.Process

/-! # Commands that the shell carries out itself

What they have in common: how they complain, how they read their options and numbers, and how they
give values to variables. A command that is refused says why and ends; whether the shell ends with it
is for the caller to decide. -/

namespace NotebookKernel.Shell

open Run

namespace Builtin

/-- Complains under the name of the script, with the line that is run, on behalf of the command that
is carried out. -/
def complainHere (text : Octets) : Run Unit := do
  let p ← process
  complain (p.name ++ ": ".toList ++ Octets.ofNat p.line ++ ": ".toList ++ p.speaker ++ text)

/-- Complains and ends. -/
def refuse {α : Type} (text : Octets) : Run α := do
  complainHere text
  throw .refused

/-- Writes to the standard output. -/
def put (text : Octets) : Run Nat := do
  match ← write 1 text with
  | .ok () => return 0
  | .error _ =>
    complainHere ((← process).speaker ++ "I/O error".toList)
    return 1

def refuseNumber {α : Type} (text : Octets) : Run α := refuse ("Illegal number: ".toList ++ text)

/-- The greatest number that commands take. -/
def maxNumber : Int := 2147483647

/-- The number that a command is given. -/
def number (text : Octets) : Run Nat := do
  match Arithmetic.integer? (some 10) text with
  | some n => if 0 ≤ n && n ≤ maxNumber then return n.toNat else refuseNumber text
  | none => refuseNumber text

/-- Gives a variable a value, if that is allowed. A new value of `OPTIND` starts the search for options
anew. -/
def assign (name value : Octets) : Run Unit := do
  if !Octets.isName name then refuse (name ++ ": bad variable name".toList)
  if ← isReadOnly name then refuse (name ++ ": is read only".toList)
  if name == "OPTIND".toList then
    let n ← number value
    modifyProcess fun p => { p with optionPlace := ⟨max n 1, none⟩ }
  if name == "PATH".toList then modifyProcess fun p => { p with found := [] }
  setVariable name value

/-- A value in quotes, as the shell could read it back: apostrophes in quotation marks and everything
else in apostrophes. The fuel bounds its length. -/
def quoteParts : Nat → Octets → Octets
  | 0, _ => []
  | fuel + 1, text =>
    let plain := text.takeWhile (· != '\'')
    let rest := text.drop plain.length
    let apostrophes := rest.takeWhile (· == '\'')
    let after := rest.drop apostrophes.length
    '\'' :: plain ++ ['\''] ++
      if apostrophes.isEmpty then []
      else '"' :: apostrophes ++ ['"'] ++ if after.isEmpty then [] else quoteParts fuel after

def quote (value : Octets) : Octets := quoteParts (value.length + 1) value

/-- Reads the options in front of the operands. Those in `plain` stand alone and those in `valued` take
a value. -/
def readOptions (plain valued : String) : List Octets → Run (List (Char × Octets) × List Octets)
  | [] => return ([], [])
  | word :: rest =>
    match word with
    | ['-', '-'] => return ([], rest)
    | '-' :: c :: letters => do
      let cut := (c :: letters).takeWhile fun c => !valued.toList.contains c
      match cut.find? fun c => !plain.toList.contains c with
      | some c => refuse ("Illegal option -".toList ++ [c])
      | none => pure ()
      let own := cut.map fun c => (c, ([] : Octets))
      match (c :: letters).drop cut.length, rest with
      | [], rest =>
        let (options, operands) ← readOptions plain valued rest
        return (own ++ options, operands)
      | [c], [] => refuse ("No arg for -".toList ++ [c] ++ " option".toList)
      | [c], value :: rest =>
        let (options, operands) ← readOptions plain valued rest
        return (own ++ (c, value) :: options, operands)
      | c :: value, rest =>
        let (options, operands) ← readOptions plain valued rest
        return (own ++ (c, value) :: options, operands)
    | word => return ([], word :: rest)

/-- Cuts an argument into a name and the value that it gives, if it gives any. -/
def cutAssignment (argument : Octets) : Octets × Option Octets :=
  match Text.Chars.splitOnce? '=' argument with
  | some (name, value) => (name, some value)
  | none => (argument, none)

end Builtin

end NotebookKernel.Shell
