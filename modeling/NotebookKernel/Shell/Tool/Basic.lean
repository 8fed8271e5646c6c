import NotebookKernel.Shell.Octets
import NotebookKernel.Shell.Process
import NotebookKernel.Shell.Tool.Options

/-! # Programs of the system

What the programs have in common: how they read their options, where they find their input and how
they complain. A program is a step that gives its exit status. -/

namespace NotebookKernel.Shell.Tool

/-! ## Quoting in complaints

Complaints quote what they are about so that it could be put into a script again. -/

/-- The letter that stands for a control character behind a backslash. -/
def controlLetter? (c : Char) : Option Char :=
  match c with
  | '\x07' => some 'a'
  | '\x08' => some 'b'
  | '\x0c' => some 'f'
  | '\n' => some 'n'
  | '\r' => some 'r'
  | '\t' => some 't'
  | '\x0b' => some 'v'
  | _ => none

def isPrintable (c : Char) : Bool := ' ' ≤ c && c ≤ '~'

/-- Three octal digits. -/
def octal (c : Char) : Octets :=
  [c.toNat / 64, c.toNat / 8 % 8, c.toNat % 8].map Nat.digitChar

/-- A control character or a byte beyond them as it stands behind a backslash. -/
def escapeOf (c : Char) : Octets :=
  '\\' :: match controlLetter? c with
    | some letter => [letter]
    | none => octal c

namespace Quoting

/-- Characters that mean nothing to a shell wherever they stand. -/
def isHarmless (c : Char) : Bool :=
  c.isAlphanum || "#%+,-./:@]_~\x7b\x7d".toList.contains c

/-- Whether a text means itself to a shell. -/
def isBare (text : Octets) : Bool :=
  !text.isEmpty && text != ['\x7b'] && text != ['\x7d'] &&
    text.head? != some '#' && text.head? != some '~' && text.all isHarmless

/-- Whether double quotes leave everything in a text as it is. -/
def suitsDoubleQuotes (text : Octets) : Bool :=
  text.zipIdx.all fun (c, n) => c == ' ' || c == '\'' || ((c == '#' || c == '~') && n == 0) ||
    c.isAlphanum || "%+,-./:]_@".toList.contains c

/-- A text between apostrophes. Apostrophes and what cannot be printed stand outside of them. -/
def pieces (escaping : Bool) : Octets → Octets
  | [] => ['\'']
  | c :: rest =>
    if isPrintable c then
      (if escaping then ['\'', '\''] else []) ++
        (if c == '\'' then "'\\''".toList else [c]) ++ pieces false rest
    else (if escaping then [] else "'$'".toList) ++ escapeOf c ++ pieces true rest

end Quoting

open Quoting

/-- A text in quotes for a shell. -/
def quoteAlways (text : Octets) : Octets :=
  if text.contains '\'' && suitsDoubleQuotes text then '"' :: text ++ ['"']
  else '\'' :: pieces false text

/-- A text in quotes if a shell would not take it for what it is. -/
def quoteIfNeeded (text : Octets) : Octets := if isBare text then text else quoteAlways text

/-- The name of a file in front of a colon. -/
def quoteName (name : Octets) : Octets :=
  if isBare name && !name.contains ':' then name else quoteAlways name

/-- A text in apostrophes, with backslashes before what would not be clear. -/
def quote (text : Octets) : Octets :=
  '\'' :: text.flatMap (fun c =>
    if c == '\'' || c == '\\' then ['\\', c]
    else if isPrintable c then [c] else escapeOf c) ++ ['\'']

open Run

/-! ## Writing -/

/-- Writes to the standard output. What goes wrong is kept until the program ends. -/
def put (text : Octets) : Run Unit := do
  match ← write 1 text with
  | .ok () => pure ()
  | .error e => modifyProcess fun p => { p with outputFault := p.outputFault.or (some e) }

def putLine (text : Octets) : Run Unit := put (text ++ ['\n'])

/-- Complains in the name of the program. -/
def complainOf (text : Octets) : Run Unit := do
  complain ((← process).name ++ ": ".toList ++ text)

/-- Complains about a file or another subject. -/
def complainAbout (subject : Octets) (why : OsError) : Run Unit :=
  complainOf (subject ++ ": ".toList ++ reason why)

/-- Says where help is to be found, which this program has in a file of its own. -/
def hint : Run Unit := do
  complain ("Try '".toList ++ (← process).name ++ " --help' for more information.".toList)

/-- The last name in a path. A path of slashes is its own. -/
def lastName (path : Octets) : Octets :=
  let bare := (path.reverse.dropWhile (· == '/')).reverse
  if bare.isEmpty then path.take 1 else (bare.reverse.takeWhile (· != '/')).reverse

/-- Lets a program go by the last name of the path that it was called by. -/
def usingLastName (act : Run Nat) : Run Nat := do
  modifyProcess fun p => { p with name := lastName p.name }
  act

/-- Does what a program does, and complains at the end if its output could not be written. -/
def checkingOutput (faultStatus : Nat) (act : Run Nat) : Run Nat := do
  let status ← act
  match (← process).outputFault with
  | none => return status
  | some e =>
    complainAbout "write error".toList e
    return faultStatus

def status (fine : Bool) : Nat := if fine then 0 else 1

/-- What runs a program on behalf of another one and tells how it came to its end, if there is such a
program. -/
abbrev Runner := List Octets → Run (Except OsError Ended)

/-! ## Options -/

/-- Why a program does not accept how it is called. -/
structure Refusal where
  text : Octets
  /-- Whether it is said where help is to be found. -/
  hinted : Bool := false
  status : Nat := 1

def refuseCall (r : Refusal) : Run Nat := do
  complainOf r.text
  if r.hinted then hint
  return r.status

/-- Goes on with the options and operands. The first option that is refused or not known is
complained about. -/
def withOptions (table : String) (arguments : List Octets) (next : Called → Run Nat)
    (check : Choice → Option Refusal := fun _ => none) (operandEnds : Bool := false)
    (faultStatus : Nat := 1) (usage : String := "") : Run Nat := do
  let called := Called.read (OptionForm.tableOf table) operandEnds arguments
  match called.choices.findSome? check with
  | some refusal => refuseCall refusal
  | none =>
    match called.fault with
    | some fault =>
      let usage := if usage.isEmpty then [] else '\n' :: usage.toList
      refuseCall ⟨fault.message ++ usage, true, faultStatus⟩
    | none => next called

def missingOperand (what : String := "operand") (status : Nat := 1) : Run Nat :=
  refuseCall ⟨("missing " ++ what).toList, true, status⟩

def missingOperandAfter (word : Octets) (what : String := "operand") : Run Nat :=
  refuseCall ⟨("missing " ++ what ++ " after ").toList ++ quote word, true, 1⟩

def extraOperand (word : Octets) (status : Nat := 1) : Run Nat :=
  refuseCall ⟨"extra operand ".toList ++ quote word, true, status⟩

/-- Refuses a word that is not one of those that an option takes. Words that mean the same are listed
together. -/
def wrongWord (word : Octets) (option : String) (groups : List (List String)) : Refusal :=
  let line (names : List String) : String :=
    "\n  - " ++ Text.join ", " (names.map fun name => "'" ++ name ++ "'")
  ⟨"invalid argument ".toList ++ quote word ++ (" for '" ++ option ++ "'\nValid arguments are:" ++
    Text.concat (groups.map line)).toList, true, 1⟩

/-- The word of a list that another one is the start of, unless it could be several. -/
def wordOf? (groups : List (List String)) (word : Octets) : Option String :=
  match groups.find? (·.any (·.toList == word)) with
  | some group => group.head?
  | none =>
    match groups.filter (·.any fun name => word.isPrefixOf name.toList) with
    | [group] => group.head?
    | _ => none

/-! ## Amounts -/

/-- The greatest number that a word of the machine holds. -/
def maxWord : Nat := 18446744073709551615

/-- What a unit behind a number stands for. A thousand is the base of units that end in `B`, unless
that comes behind an `i`. -/
def unitOf? (unit : Octets) : Option Nat :=
  match unit with
  | [] => some 1
  | ['b'] => some 512
  | ['B'] => none
  | letter :: more =>
    let power : Option Nat := ("KMGTPEZYRQ".toList.idxOf? (if letter == 'k' then 'K' else
      if letter == 'm' then 'M' else letter)).map (· + 1)
    match power, String.ofList more with
    | some n, "" | some n, "iB" => some (Nat.pow 1024 n)
    | some n, "B" | some n, "D" => some (Nat.pow 1000 n)
    | _, _ => none

/-- What a text comes to that should be a number. -/
inductive Amount where
  | value (n : Nat)
  | tooLarge
  /-- It is below what is allowed. -/
  | tooSmall
  | invalid

/-- Reads a number that may have a unit behind it. A unit alone stands for one of it. -/
def Amount.ofText (withUnits : Bool) (text : Octets) : Amount :=
  let text := text.dropWhile fun c => c == ' ' || ('\t' ≤ c && c ≤ '\r')
  let text := if text.head? == some '+' then text.tail else text
  let digits := text.takeWhile Char.isDigit
  let unit := text.drop digits.length
  if digits.isEmpty && (unit.isEmpty || !withUnits) then .invalid
  else match if withUnits || unit.isEmpty then unitOf? unit else none with
    | none => .invalid
    | some times =>
      let n := (Octets.digitsValue? digits).getD 1 * times
      if maxWord < n then .tooLarge else .value n

/-- Refuses amounts below a bound. -/
def Amount.atLeast (least : Nat) : Amount → Amount
  | .value n => if n < least then .tooSmall else .value n
  | other => other

/-- Complains about a text that is no amount. -/
def Amount.refusal? (what : String) (text : Octets) : Amount → Option Refusal
  | .value _ => none
  | .tooLarge => some ⟨(what ++ ": ").toList ++ quote text ++
      ": Value too large for defined data type".toList, false, 1⟩
  | .tooSmall => some ⟨(what ++ ": ").toList ++ quote text ++
      ": Numerical result out of range".toList, false, 1⟩
  | .invalid => some ⟨(what ++ ": ").toList ++ quote text, false, 1⟩

def Amount.get : Amount → Nat
  | .value n => n
  | _ => maxWord

/-! ## Reading -/

/-- A descriptor as a name below `/dev`. -/
def deviceDescriptor? (path : Octets) : Option Nat :=
  match String.ofList path with
  | "/dev/stdin" => some 0
  | "/dev/stdout" => some 1
  | "/dev/stderr" => some 2
  | _ => (Text.Chars.stripStart? "/dev/fd/".toList path).bind Octets.digitsValue?

/-- Opens what a descriptor is open on once more. A file is read from its start then. -/
def reopen (descriptor : Nat) : Run (Except OsError Source) := do
  match ← stream? descriptor with
  | some (.file n) =>
    match ← openFile? n with
    | some f => return (((← tree).get? f.place).map entrySource).getD (.error .notFound)
    | none => return .error .notFound
  | some _ => readAll descriptor
  | none => return .error .notFound

/-- Reads a file, or the standard input for a dash. -/
def readInput (file : Octets) : Run (Except OsError Source) := do
  if file == ['-'] then readAll 0
  else match deviceDescriptor? file with
    | some n => reopen n
    | none => fileSource file

/-- All there is to read, which takes forever if it has no end. -/
def wholeOf (s : Source) : Run Octets := do
  if !s.endless.isEmpty then sleepUntil ((← world).deadline + 1)
  return s.content

/-- The first bytes of a source. -/
def firstBytes (s : Source) (n : Nat) : Octets :=
  if s.endless.isEmpty || n ≤ s.content.length then s.content.take n
  else
    let missing := n - s.content.length
    let times := missing / s.endless.length + 1
    s.content ++ ((List.replicate times s.endless).flatten).take missing

/-- Reads a file to its end. -/
def readWhole (file : Octets) : Run (Except OsError Octets) := do
  match ← readInput file with
  | .error e => return .error e
  | .ok s => return .ok (← wholeOf s)

/-- The files of a program that reads its standard input when it is given none. -/
def orInput (files : List Octets) : List Octets := if files.isEmpty then [['-']] else files

/-- Does something with the content of every file, and complains about those that cannot be read.
Says whether there were none. -/
def eachFile (files : List Octets) (act : Octets → Octets → Run Unit)
    (failed : Octets → OsError → Run Unit := fun file => complainAbout (quoteName file)) :
    Run Bool := do
  let mut fine := true
  for file in files do
    match ← readWhole file with
    | .ok content => act file content
    | .error e =>
      failed file e
      fine := false
  return fine

/-- Complains about a file that a program shows a part of. -/
def complainOfReading (file : Octets) (e : OsError) : Run Unit :=
  let name := quoteAlways (if file == ['-'] then "standard input".toList else file)
  complainOf ((if e == .isADirectory || file == ['-'] then "error reading ".toList ++ name
    else "cannot open ".toList ++ name ++ " for reading".toList) ++ ": ".toList ++ reason e)

/-- The lines of a text, which end in line feeds or in zeros. A line feed at the end begins no further
line. -/
def linesOf (zeros : Bool) (text : Octets) : List Octets :=
  if zeros then
    let parts := Text.Chars.splitOn (· == Char.ofNat 0) text
    if parts.getLast? == some [] then parts.dropLast else parts
  else Octets.lines text

/-- The names that a file lists, each up to a zero, or why there can be no such name. -/
def listedNames (list text : Octets) : List (Except Octets Octets) :=
  (linesOf true text).zipIdx.map fun (name, i) =>
    if name.isEmpty then
      .error (quoteName list ++ ':' :: Octets.ofNat (i + 1) ++ ": invalid zero-length file name".toList)
    else if list == ['-'] && name == ['-'] then
      .error "when reading file names from stdin, no file name of '-' allowed".toList
    else .ok name

/-- Refuses operands beside a list of files. -/
def refuseBesideList (word : Octets) (status : Nat) : Run Nat :=
  refuseCall ⟨"extra operand ".toList ++ quote word ++
    "\nfile operands cannot be combined with --files0-from".toList, true, status⟩

/-- Cuts a list into pieces of a length, of which the last may be shorter. -/
def pieces {α : Type} (length : Nat) (items : List α) : List (List α) :=
  if _h : length = 0 ∨ items.length ≤ length then (if items.isEmpty then [] else [items])
  else items.take length :: pieces length (items.drop length)
termination_by items.length
decreasing_by simp only [List.length_drop]; omega

/-- A text as the end of a line. -/
def lineEnd (zeros : Bool) : Char := if zeros then Char.ofNat 0 else '\n'

/-- Puts blanks in front of a text. -/
def padLeft (width : Nat) (text : Octets) : Octets :=
  List.replicate (width - text.length) ' ' ++ text

def padRight (width : Nat) (text : Octets) : Octets :=
  text ++ List.replicate (width - text.length) ' '

def isBlank (c : Char) : Bool := c == ' ' || c == '\t'

/-- White space, as the C locale has it. -/
def isSpace (c : Char) : Bool := c == ' ' || ('\t' ≤ c && c ≤ '\r')

/-! ## Paths -/

/-- Joins a path and a name. -/
def join (path name : Octets) : Octets :=
  if path.getLast? == some '/' then path ++ name else path ++ '/' :: name

/-- A path without the slashes at its end, of which one stays if there is nothing else. -/
def withoutSlashes (path : Octets) : Octets :=
  let bare := (path.reverse.dropWhile (· == '/')).reverse
  if bare.isEmpty then path.take 1 else bare

/-- The path of the directory that a path leads into. -/
def parentOf (path : Octets) : Octets :=
  let bare := path.reverse.dropWhile (· == '/')
  let above := ((bare.dropWhile (· != '/')).dropWhile (· == '/')).reverse
  if !above.isEmpty then above else if path.head? == some '/' then ['/'] else ['.']

end NotebookKernel.Shell.Tool
