import NotebookKernel.Shell.Builtin.Basic

/-! # Commands about variables and arguments -/

namespace NotebookKernel.Shell.Builtin

open Run

/-! ## Marking variables -/

/-- Lists variables as commands that would set them. -/
def listVariables (command : String) (which : Variable → Bool) : Run Nat := do
  let all := ((← process).vars.filter which).mergeSort fun a b => Octets.le a.name b.name
  put (Octets.ofLines (all.map fun v =>
    command.toList ++ (if command.isEmpty then [] else [' ']) ++ v.name ++ match v.value with
      | some value => '=' :: quote value
      | none => []))

/-- Marks variables, and gives them values where there are any. -/
def declare (command : String) (mark : Variable → Variable) (which : Variable → Bool)
    (arguments : List Octets) : Run Nat := do
  let (options, names) ← readOptions "p" "" arguments
  if names.isEmpty || !options.isEmpty then return ← listVariables command which
  for a in names do
    let (name, value) := cutAssignment a
    if !Octets.isName name then refuse (name ++ ": bad variable name".toList)
    if let some value := value then assign name value
    changeVariable name mark
  return 0

/-- Makes variables belong to the function under way. A dash stands for the switches. -/
def keepLocal (arguments : List Octets) : Run Nat := do
  for a in arguments do
    match (← process).frames with
    | [] => refuse "not in a function".toList
    | frame :: outer =>
      if a == ['-'] then
        modifyProcess fun p => { p with
          frames := { frame with switches := frame.switches.or (some p.switches) } :: outer }
      else
        let (name, value) := cutAssignment a
        if !Octets.isName name then refuse (name ++ ": bad variable name".toList)
        let old := ((← process).vars.find? (·.name == name)).getD ⟨name, none, false, false⟩
        modifyProcess fun p => { p with
          frames := { frame with saved := old :: frame.saved } :: outer }
        if let some value := value then assign name value
  if (← process).frames.isEmpty then refuse "not in a function".toList
  return 0

def unset (arguments : List Octets) : Run Nat := do
  let (options, names) ← readOptions "vf" "" arguments
  let functions := (options.getLast?.map (·.1)) == some 'f'
  for name in names do
    if functions then
      modifyProcess fun p => { p with functions := p.functions.filter (·.1 != name) }
    else
      if !Octets.isName name then refuse (name ++ ": bad variable name".toList)
      if ← isReadOnly name then refuse (name ++ ": is read only".toList)
      modifyProcess fun p => { p with vars := p.vars.filter (·.name != name) }
  return 0

/-! ## Arguments and switches -/

def setArguments (arguments : List Octets) : Run Unit :=
  modifyProcess fun p => { p with arguments, optionPlace := {} }

/-- Puts the switches of the letters behind a sign, of which `o` takes a name from the words that
follow. Gives the words that are left. -/
def putSwitches (on : Bool) : Octets → List Octets → Run (List Octets)
  | [], rest => return rest
  | 'o' :: letters, [] => do
    let _ ← put ((← process).switches.listing (!on))
    putSwitches on letters []
  | 'o' :: letters, name :: rest => do
    match Switch.ofName? name with
    | some switch => modifyProcess fun p => { p with switches := p.switches.put on switch }
    | none => refuse ("Illegal option -o ".toList ++ name)
    putSwitches on letters rest
  | c :: letters, rest => do
    match Switch.ofLetter? c with
    | some switch => modifyProcess fun p => { p with switches := p.switches.put on switch }
    | none => refuse ("Illegal option -".toList ++ [c])
    putSwitches on letters rest

/-- Puts switches and arguments, as far as the words are about them. The fuel bounds their number. -/
def readSet (fuel : Nat) (words : List Octets) : Run Unit := do
  match fuel, words with
  | 0, _ => pure ()
  | _, [] => pure ()
  | fuel + 1, word :: rest =>
    match word with
    | ['-'] =>
      modifyProcess fun p => { p with
        switches := (p.switches.put false .trace).put false .verbose }
      if !rest.isEmpty then setArguments rest
    | ['-', '-'] => setArguments rest
    | '-' :: letters => readSet fuel (← putSwitches true letters rest)
    | '+' :: letters => readSet fuel (← putSwitches false letters rest)
    | _ => setArguments words

def set (arguments : List Octets) : Run Nat := do
  if arguments.isEmpty then return ← listVariables "" fun v => v.value.isSome
  readSet (arguments.length + 1) arguments
  return 0

def shift (arguments : List Octets) : Run Nat := do
  let n ← match arguments with
    | [] => pure 1
    | text :: _ => number text
  if (← process).arguments.length < n then refuse "can't shift that many".toList
  modifyProcess fun p => { p with arguments := p.arguments.drop n, optionPlace := {} }
  return 0

/-! ## Options of a script -/

/-- How an option is known among those that a script takes: with a value or without. -/
def takesValue? (known : Octets) (option : Char) : Option Bool :=
  match known with
  | [] => none
  | c :: rest =>
    let valued := rest.head? == some ':'
    if c == option then some valued
    else takesValue? (if valued then rest.tail else rest) option
  termination_by known.length
  decreasing_by
    simp only [List.length_cons]
    split
    · simp only [List.length_tail]; omega
    · omega

/-- Finds the next option among words. -/
def getopts (arguments : List Octets) : Run Nat := do
  let (_, arguments) ← readOptions "" "" arguments
  match arguments with
  | known :: target :: given => do
    let words ← if given.isEmpty then pure (← process).arguments else pure given
    let place := (← process).optionPlace
    let place := if words.length + 1 < place.index then {} else place
    let quiet := known.head? == some ':'
    let setArgument (value : Option Octets) : Run Unit := match value with
      | some value => assign "OPTARG".toList value
      | none => modifyProcess fun p => { p with
          vars := p.vars.filter (·.name != "OPTARG".toList) }
    -- Ends with the place from which the search goes on, what was found and whether that is an option.
    let finish (next : OptionPlace) (letter : Char) (status : Nat) : Run Nat := do
      assign "OPTIND".toList (Octets.ofNat next.index)
      assign target [letter]
      modifyProcess fun p => { p with optionPlace := next }
      return status
    let left := match place.offset with
      | some offset => ((words[place.index - 2]?).getD []).drop offset
      | none => []
    let start : Option (Octets × OptionPlace) :=
      if !left.isEmpty then some (left, place)
      else match words[place.index - 1]? with
        | some ('-' :: c :: letters) => some (c :: letters, ⟨place.index + 1, some 1⟩)
        | _ => none
    match start with
    | none => finish ⟨place.index, none⟩ '?' 1
    | some ([], next) => finish ⟨next.index, none⟩ '?' 1
    | some (c :: letters, next) =>
      if left.isEmpty && c == '-' && letters.isEmpty then
        return ← finish ⟨next.index, none⟩ '?' 1
      let after : OptionPlace :=
        ⟨next.index, if letters.isEmpty then none else next.offset.map (· + 1)⟩
      match takesValue? known c with
      | none =>
        if quiet then setArgument (some [c])
        else
          complain ("Illegal option -".toList ++ [c])
          setArgument none
        finish after '?' 0
      | some false =>
        setArgument (some [])
        finish after c 0
      | some true =>
        if !letters.isEmpty then
          setArgument (some letters)
          finish ⟨next.index, none⟩ c 0
        else match words[next.index - 1]? with
          | some value =>
            setArgument (some value)
            finish ⟨next.index + 1, none⟩ c 0
          | none =>
            if quiet then
              setArgument (some [c])
              finish after ':' 0
            else
              complain ("No arg for -".toList ++ [c] ++ " option".toList)
              setArgument none
              finish after '?' 0
  | _ => refuse "Usage: getopts optstring var [arg...]".toList

/-! ## Reading -/

/-- A line for `read`: its bytes, of which those behind a backslash do not separate, and whether the
line goes on. -/
def readBytes (raw : Bool) : Octets → List (Char × Bool) × Bool
  | [] => ([], false)
  | '\n' :: _ => ([], false)
  | '\\' :: '\n' :: _ => if raw then ([('\\', false)], false) else ([], true)
  | '\\' :: c :: rest =>
    if raw then
      let (more, goesOn) := readBytes raw (c :: rest)
      (('\\', false) :: more, goesOn)
    else
      let (more, goesOn) := readBytes raw rest
      ((c, true) :: more, goesOn)
  | c :: rest =>
    let (more, goesOn) := readBytes raw rest
    ((c, false) :: more, goesOn)

/-- Reads whole lines until one does not go on. Tells whether there was a line feed at the end. -/
def readWhole (raw : Bool) : Nat → Run (List (Char × Bool) × Bool)
  | 0 => return ([], false)
  | fuel + 1 => do
    match ← readLine 0 with
    | none => return ([], false)
    | some line =>
      let (bytes, goesOn) := readBytes raw (line.filter (· != Char.ofNat 0))
      if goesOn then
        let (more, ended) ← readWhole raw fuel
        return (bytes ++ more, ended)
      else return (bytes, line.getLast? == some '\n')

/-- How far a line is shared out. -/
structure Sharing where
  /-- How many fields may still be ended. -/
  left : Nat
  /-- The fields that were ended, the last first. -/
  fields : List Octets := []
  /-- The field under way, its last byte first. -/
  field : Octets := []
  /-- The last byte was a blank that ended a field, to which one other separator may still belong. -/
  afterBlank : Bool := false
  /-- How many of the bytes of the field stay if nothing else comes. -/
  kept : Option Nat := none

/-- Shares out one more byte. A byte behind a backslash takes no part in the search for separators. -/
def Sharing.step (separators : Octets) (s : Sharing) (b : Char × Bool) : Sharing :=
  let (c, escaped) := b
  let longer : Octets := c :: s.field
  if escaped then { s with field := longer, afterBlank := false }
  else
    let separates := separators.contains c
    let isBlank := separates && (c == ' ' || c == '\t' || c == '\n')
    if s.left == 0 then
      if isBlank then { s with field := longer, kept := s.kept.or (some s.field.length) }
      else if separates && s.afterBlank then { s with field := longer, afterBlank := false }
      else { s with field := longer, kept := none, afterBlank := false }
    else if s.afterBlank && isBlank then s
    else if s.afterBlank && separates then { s with afterBlank := false }
    else if !separates then { s with field := longer, afterBlank := false }
    else if isBlank && s.field.isEmpty then s
    else if s.left == 1 then
      { s with left := 0, field := longer, afterBlank := isBlank, kept := some s.field.length }
    else
      { s with
        left := s.left - 1, fields := s.field.reverse :: s.fields, field := []
        afterBlank := isBlank }

/-- Shares out a line among variables; the last one gets all that is left. -/
def share (separators : Octets) (bytes : List (Char × Bool)) (names : List Octets) :
    List (Octets × Octets) :=
  let s := bytes.foldl (Sharing.step separators) { left := names.length }
  let last := s.field.reverse
  let last := match s.kept with
    | some n => last.take n
    | none => last
  let fields := s.fields.reverse ++ [last]
  names.zipIdx.map fun (name, n) => (name, (fields[n]?).getD [])

def read (arguments : List Octets) : Run Nat := do
  let (options, names) ← readOptions "r" "p" arguments
  if names.isEmpty then refuse "arg count".toList
  let (bytes, ended) ← readWhole (options.any (·.1 == 'r')) 4096
  let separators := (← valueOf? "IFS".toList).getD [' ', '\t', '\n']
  for (name, value) in share separators bytes names do assign name value
  return if ended then 0 else 1

end NotebookKernel.Shell.Builtin
