import NotebookKernel.Shell.Octets

/-! # Options of programs

A program is called with options and operands, in any order. An option is a letter behind a dash or a
name behind two dashes. Letters may share a dash, and a name may be cut short as long as it is clear
which one is meant. What cannot be read as an option is a fault, and nothing after it is read. -/

namespace NotebookKernel.Shell.Tool

/-- What an option takes besides its name. -/
inductive Taking where
  | nothing
  | value
  /-- A value only if it stands in the same word. -/
  | joinedValue
  deriving DecidableEq

/-- An option with all of its names. It is known by the first. A name of one letter stands behind one
dash. -/
structure OptionForm where
  names : List String
  taking : Taking

namespace OptionForm

def key (f : OptionForm) : String := f.names.headD ""

/-- Reads the names of an option, separated by commas. One that takes a value ends in `=`, or in `?`
if it can be left out. -/
def ofText (text : String) : OptionForm :=
  let cs := text.toList
  let names (cs : List Char) := (Text.Chars.splitOn (· == ',') cs).map String.ofList
  match cs.getLast? with
  | some '=' => ⟨names cs.dropLast, .value⟩
  | some '?' => ⟨names cs.dropLast, .joinedValue⟩
  | _ => ⟨names cs, .nothing⟩

/-- Reads a table of options, separated by blanks. -/
def tableOf (text : String) : List OptionForm := (Text.words text).map ofText

def letters (f : OptionForm) : List Char :=
  f.names.filterMap fun name => match name.toList with
    | [c] => some c
    | _ => none

/-- The names that stand behind two dashes. -/
def longNames (f : OptionForm) : List String := f.names.filter (1 < ·.length)

end OptionForm

/-- An option as it was given. -/
structure Choice where
  key : String
  value : Option Octets := none

def Choice.text (c : Choice) : Octets := c.value.getD []

/-- Why something is no option. -/
inductive OptionFault where
  | unknownLetter (letter : Char)
  | unknownName (text : Octets)
  | ambiguous (text : Octets) (names : List String)
  | unwantedValue (name : String)
  | missingValue (name : String)
  | missingLetterValue (letter : Char)

def OptionFault.message : OptionFault → Octets
  | .unknownLetter c => "invalid option -- '".toList ++ [c, '\'']
  | .unknownName text => "unrecognized option '--".toList ++ text ++ ['\'']
  | .ambiguous text names =>
    "option '--".toList ++ text ++ "' is ambiguous; possibilities:".toList ++
      names.flatMap fun name => (" '--" ++ name ++ "'").toList
  | .unwantedValue name => ("option '--" ++ name ++ "' doesn't allow an argument").toList
  | .missingValue name => ("option '--" ++ name ++ "' requires an argument").toList
  | .missingLetterValue c => "option requires an argument -- '".toList ++ [c, '\'']

/-- The options and operands that a program is called with. -/
structure Called where
  choices : List Choice := []
  operands : List Octets := []
  fault : Option OptionFault := none

namespace Called

def has (c : Called) (key : String) : Bool := c.choices.any (·.key == key)

/-- The values of an option, in order. -/
def values (c : Called) (key : String) : List Octets :=
  (c.choices.filter (·.key == key)).map (·.text)

/-- The value of the last option of a name. -/
def value? (c : Called) (key : String) : Option Octets := (c.values key).getLast?

/-- Which one of several options was given last. -/
def last? (c : Called) (keys : List String) : Option Choice :=
  (c.choices.filter fun choice => keys.contains choice.key).getLast?

/-- Whether an option was given, and none of some others after it. -/
def prevails (c : Called) (key : String) (others : List String) : Bool :=
  (c.last? (key :: others)).any (·.key == key)

end Called

/-- What the letters behind a dash come to. -/
inductive Letters where
  | read (choices : List Choice)
  /-- The last option still needs the next word as its value. -/
  | wanting (choices : List Choice) (letter : Char) (key : String)
  | faulty (choices : List Choice) (fault : OptionFault)

namespace Letters

def cons (choice : Choice) : Letters → Letters
  | .read choices => .read (choice :: choices)
  | .wanting choices letter key => .wanting (choice :: choices) letter key
  | .faulty choices fault => .faulty (choice :: choices) fault

def ofText (table : List OptionForm) : Octets → Letters
  | [] => .read []
  | c :: rest =>
    match table.find? (·.letters.contains c) with
    | none => .faulty [] (.unknownLetter c)
    | some f =>
      match f.taking with
      | .nothing => (ofText table rest).cons ⟨f.key, none⟩
      | .joinedValue => .read [⟨f.key, if rest.isEmpty then none else some rest⟩]
      | .value => if rest.isEmpty then .wanting [] c f.key else .read [⟨f.key, some rest⟩]

end Letters

/-- The option that the text behind two dashes names, under its full name, with the value that is
joined to it. -/
def longOption (table : List OptionForm) (text : Octets) :
    Except OptionFault (OptionForm × String × Option Octets) :=
  let (short, value) := match Text.Chars.splitOnce? '=' text with
    | some (name, value) => (name, some value)
    | none => (text, none)
  let all := table.flatMap fun f => f.longNames.map fun name => (f, name)
  match all.find? fun (_, name) => name.toList == short with
  | some (f, name) => .ok (f, name, value)
  | none =>
    match all.filter fun (_, name) => short.isPrefixOf name.toList with
    | [] => .error (.unknownName text)
    | (f, name) :: others =>
      if others.all (·.1.key == f.key) then .ok (f, name, value)
      else .error (.ambiguous text (name :: others.map (·.2)))

/-- Reads options and operands. Either may come first, unless the first operand ends the options. -/
def Called.read (table : List OptionForm) (operandEnds : Bool) : List Octets → Called
  | [] => {}
  | word :: rest =>
    let add (choices : List Choice) (c : Called) : Called := { c with choices := choices ++ c.choices }
    match word with
    | ['-', '-'] => { operands := rest }
    | '-' :: '-' :: text =>
      match longOption table text with
      | .error fault => { fault := some fault }
      | .ok (f, name, value) =>
        match f.taking, value with
        | .nothing, some _ => { fault := some (.unwantedValue name) }
        | .value, none =>
          match rest with
          | [] => { fault := some (.missingValue name) }
          | value :: rest => add [⟨f.key, some value⟩] (read table operandEnds rest)
        | _, value => add [⟨f.key, value⟩] (read table operandEnds rest)
    | '-' :: c :: more =>
      match Letters.ofText table (c :: more) with
      | .read choices => add choices (read table operandEnds rest)
      | .faulty choices fault => { choices, fault := some fault }
      | .wanting choices letter key =>
        match rest with
        | [] => { choices, fault := some (.missingLetterValue letter) }
        | value :: rest => add (choices ++ [⟨key, some value⟩]) (read table operandEnds rest)
    | operand =>
      if operandEnds then { operands := operand :: rest }
      else
        let c := read table operandEnds rest
        { c with operands := operand :: c.operands }

end NotebookKernel.Shell.Tool
