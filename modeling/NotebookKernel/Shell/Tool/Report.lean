import NotebookKernel.Shell.Tool.Records.Evaluation
import NotebookKernel.Shell.Tool.Records.Grammar

/-! # The program that makes reports

`awk` runs a program over the records of files. The program is the first operand, or it is in files that
options name. -/

namespace NotebookKernel.Shell.Tool

open Run Records

def reportUsage : List String := [
  "Usage: mawk [Options] [Program] [file ...]", "", "Program:",
  "    The -f option value is the name of a file containing program text.",
  "    If no -f option is given, a \"--\" ends option processing; the following",
  "    parameters are the program text.", "", "Options:",
  "    -f program-file  Program  text is read from file instead of from the",
  "                     command-line.  Multiple -f options are accepted.",
  "    -F value         sets the field separator, FS, to value.",
  "    -v var=value     assigns value to program variable var.",
  "    --               unambiguous end of options.", "",
  "    Implementation-specific options are prefixed with \"-W\".  They can be",
  "    abbreviated:", "",
  "    -W version       show version information and exit.",
  "    -W compat        pre-POSIX 2001.",
  "    -W dump          show assembler-like listing of program and exit.",
  "    -W help          show this message and exit.",
  "    -W interactive   set unbuffered output, line-buffered input.",
  "    -W exec file     use file as program as well as last option.",
  "    -W posix         stricter POSIX checking.",
  "    -W random=number set initial random seed.",
  "    -W sprintf=number adjust size of sprintf buffer.",
  "    -W usage         show this message and exit."]

/-- How the program is called. -/
structure ReportCall where
  assignments : List (Octets × Octets) := []
  files : List Octets := []
  operands : List Octets := []
  /-- Words of options that mean nothing. -/
  unknownWords : List Octets := []

/-- Why nothing is run. -/
inductive ReportHalt where
  | usage
  | version
  | noProgram
  | refused (text : Octets)

/-- A word behind `-W`, or behind two dashes. -/
def reportWord (word : Octets) : Option ReportHalt :=
  let isStart (name : String) : Bool := !word.isEmpty && word.isPrefixOf name.toList
  if isStart "version" then some .version
  else if isStart "help" || isStart "usage" then some .usage
  else none

def reportWords : List String :=
  ["compat", "dump", "exec", "interactive", "posix", "random", "sprintf", "traditional"]

/-- Reads the options. The fuel bounds their number. -/
def readReportCall : Nat → ReportCall → List Octets → Except ReportHalt ReportCall
  | 0, c, _ => .ok c
  | fuel + 1, c, arguments =>
    match arguments with
    | ['-'] :: _ => if c.files.isEmpty then .error .noProgram else .ok { c with operands := arguments }
    | ('-' :: letter :: inside) :: rest =>
      let withValue (next : Octets → List Octets → Except ReportHalt ReportCall) :
          Except ReportHalt ReportCall :=
        match inside, rest with
        | [], [] => .error (.refused ("option -".toList ++ letter :: " lacks argument".toList))
        | [], value :: rest => next value rest
        | value, rest => next value rest
      match letter with
      | '-' =>
        if inside.isEmpty then .ok { c with operands := rest }
        else match reportWord inside with
          | some halt => .error halt
          | none =>
            if reportWords.any fun name => inside.isPrefixOf name.toList then readReportCall fuel c rest
            else .error (.refused ("not an option: --".toList ++ inside))
      | 'F' => withValue fun value rest =>
          let value := Value.unescaped value
          match Search.Separator.read value with
          | .error fault => .error (.refused ("line 0: ".toList ++ fault.message value))
          | .ok _ =>
            readReportCall fuel { c with assignments := c.assignments ++ [("FS".toList, value)] } rest
      | 'v' => withValue fun value rest =>
          match Act.assignment? value with
          | some assignment =>
            readReportCall fuel { c with assignments := c.assignments ++ [assignment] } rest
          | none => .error (.refused ("improper assignment: -v ".toList ++ value))
      | 'f' => withValue fun value rest =>
          readReportCall fuel { c with files := c.files ++ [value] } rest
      | 'W' => withValue fun value rest =>
          match reportWord value with
          | some halt => .error halt
          | none =>
            let known := reportWords.any fun name => value.isPrefixOf name.toList
            let words := if known then c.unknownWords else c.unknownWords ++ [value]
            readReportCall fuel { c with unknownWords := words } rest
      | _ => .error (.refused ("not an option: -".toList ++ letter :: inside))
    | operands => .ok { c with operands }

/-- Reads the files that a program is in. -/
def readReportFiles : List Octets → Run (Except Octets (List (Option Octets × Octets)))
  | [] => return .ok []
  | file :: files => do
    match ← readWhole file with
    | .error .isADirectory => return .error "read error (Is a directory)".toList
    | .error why =>
      return .error ("cannot open \"".toList ++ file ++ "\" (".toList ++ reason why ++ ")".toList)
    | .ok text =>
      let more ← readReportFiles files
      return more.map fun more => (some file, text) :: more

def awk (runner : Runner) (arguments : List Octets) : Run Nat := do
  let refuse (text : Octets) : Run Nat := do
    complainOf text
    return 2
  let usage := List.intercalate ['\n'] (reportUsage.map (·.toList))
  if arguments.isEmpty then
    complain usage
    return 0
  match readReportCall (arguments.length + 1) {} arguments with
  | .error .usage =>
    putLine usage
    return 0
  | .error .noProgram => return 0
  | .error .version =>
    putLine "mawk 1.3.4 20200120".toList
    return 0
  | .error (.refused text) => refuse text
  | .ok c =>
    for word in c.unknownWords do
      complainOf ("vacuous option: -W \"".toList ++ word ++ ['"'])
    let found : Except Octets (List (Option Octets × Octets) × List Octets) ←
      match c.files, c.operands with
      | [], [] => pure (.ok ([], []))
      | [], text :: operands => pure (.ok ([(none, text)], operands))
      | files, operands => do
        let texts ← readReportFiles files
        pure (texts.map fun texts => (texts, operands))
    match found with
    | .error text => refuse text
    | .ok (sources, operands) =>
      match Records.Program.read sources with
      | .error faults =>
        for fault in faults do complainOf fault
        return 2
      | .ok program =>
        let status ← program.run runner ((← process).name :: operands) c.assignments (← exports)
        match (← process).outputFault with
        | none => return status
        | some why =>
          modifyProcess fun p => { p with outputFault := none }
          refuse ("close failed on file \"/dev/stdout\" (".toList ++ reason why ++ ")".toList)

end NotebookKernel.Shell.Tool
