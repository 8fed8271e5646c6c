import NotebookKernel.Shell.Regex.Reader

/-! # Instructions for editing lines

A script for editing is a row of instructions. Each is for some of the lines of the input: those that
its addresses select, or all others. What is edited is the pattern, into which one line after another
is read. A second text, the hold, is there to keep something aside. -/

namespace NotebookKernel.Shell.Tool.Editing

/-- An expression in a script, and how it is looked for. -/
structure Sought where
  regex : Regex Probe
  groups : Nat
  folds : Bool
  /-- Whether every line inside of a text has a start and an end. -/
  lines : Bool

/-- What lines are known by. -/
inductive Address where
  | line (number : Nat)
  /-- A line, and from there on those at a regular distance. -/
  | every (first step : Nat)
  | last
  /-- The lines with a match. Without an expression, the one that was last looked for counts. -/
  | matching (sought : Option Sought)

/-- Where a range of lines ends. -/
inductive RangeEnd where
  | address (a : Address)
  /-- A number of lines behind the first one. -/
  | further (count : Nat)
  /-- The next line whose number is a multiple. -/
  | multiple (number : Nat)

/-- The lines that an instruction is for. -/
structure Selection where
  first : Option Address := none
  last : Option RangeEnd := none
  negated : Bool := false

inductive LetterCase where
  | upper
  | lower

/-- The case that letters are brought into: all of them, or the first one. -/
structure Casing where
  all : Option LetterCase := none
  first : Option LetterCase := none

/-- A part of a replacement: some text, and a group of the match behind it. -/
structure ReplacementPart where
  text : Octets
  group : Option Nat
  casing : Casing

/-- How matches are replaced. -/
structure Substitution where
  sought : Option Sought := none
  parts : List ReplacementPart
  /-- The number of the match that is the first to be replaced. -/
  number : Option Nat := none
  /-- Whether those behind it are replaced too. -/
  further : Bool := false
  /-- Whether the pattern becomes the output of the command that it is then. -/
  evaluates : Bool := false
  /-- Whether the pattern is shown, before it is a command and after. -/
  shows : Bool := false
  showsResult : Bool := false
  /-- The file that the pattern is written to. -/
  file : Option Octets := none

namespace Substitution

/-- The greatest number of a group that is put in. -/
def greatestGroup (s : Substitution) : Nat := (s.parts.filterMap (·.group)).foldl max 0

/-- What is said when there is no such group. -/
def missingGroup (s : Substitution) : Octets :=
  "invalid reference \\".toList ++ Octets.ofNat s.greatestGroup ++ " on `s' command's RHS".toList

end Substitution

inductive Action where
  /-- Does nothing, where a block ends or a label stands. -/
  | nothing
  /-- The instructions up to a number, which all of them are for the same lines. -/
  | block (stop : Nat)
  | showNumber
  | append (text : Octets)
  | insert (text : Octets)
  | change (text : Octets)
  | jump (label : Octets)
  /-- Jumps if something was replaced, or if not. -/
  | jumpIf (replaced : Bool) (label : Octets)
  | delete
  | deleteLine
  /-- Runs a command, or else the pattern as one. -/
  | execute (command : Option Octets)
  | showName
  | get (adding : Bool)
  | hold (adding : Bool)
  | exchange
  | list (width : Option Nat)
  | next
  | nextToo
  | show
  | showLine
  | quit (shows : Bool) (status : Nat)
  | insertFile (name : Octets)
  | insertLineOf (name : Octets)
  | substitute (s : Substitution)
  | translate (table : List (Char × Char))
  | write (name : Octets)
  | writeLine (name : Octets)
  | clear

structure Instruction where
  selection : Selection
  action : Action

structure Script where
  instructions : Array Instruction := #[]
  /-- The labels with the numbers of the instructions that they stand at. -/
  labels : List (Octets × Nat) := []
  /-- Whether a comment at the start says that nothing is shown unless it is asked for. -/
  silent : Bool := false

/-- The number of the instruction at a label. The empty label stands at the end. -/
def Script.target (s : Script) (label : Octets) : Nat :=
  if label.isEmpty then s.instructions.size else (s.labels.lookup label).getD s.instructions.size

/-! ## Replacing -/

def Casing.apply (c : Casing) (text : Octets) : Octets :=
  let spell (letterCase : Option LetterCase) (c : Char) : Char := match letterCase with
    | some .upper => c.toUpper
    | some .lower => c.toLower
    | none => c
  match c.first, text with
  | some first, head :: rest => spell (some first) head :: rest.map (spell c.all)
  | _, text => text.map (spell c.all)

/-- What the parts of a replacement come to for some match. The case of a first letter waits for a
group that is not empty. -/
def filledIn (group : Nat → Octets) (waiting : Option LetterCase) : List ReplacementPart → Octets
  | [] => []
  | part :: rest =>
    let casing := { part.casing with first := part.casing.first.or waiting }
    let afterText := if part.text.isEmpty then casing else { casing with first := none }
    let ofGroup := (part.group.map group).getD []
    let waiting := if part.group.isSome && ofGroup.isEmpty && part.casing.first.isSome
      then afterText.first else none
    casing.apply part.text ++ afterText.apply ofGroup ++ filledIn group waiting rest

/-- Replaces matches in a text from some place on. The number says how many were found before, and the
end of the last one is known, behind which no empty match is counted. The fuel bounds their number. -/
def Substitution.go (s : Substitution) (placed : Placed) : (fuel low count : Nat) →
    (previous : Option Nat) → Option Octets
  | 0, _, _, _ => none
  | fuel + 1, low, count, previous =>
    match placed.search? low with
    | none => none
    | some m =>
      let rest (low count : Nat) : Option Octets := go s placed fuel low count (some m.stop)
      let before := placed.between low m.start
      if m.start == m.stop && previous == some m.start then
        -- An empty match at the end of another one is passed over.
        if placed.size ≤ m.start then none
        else (rest (m.start + 1) count).map (before ++ placed.between m.start (m.start + 1) ++ ·)
      else
        let count := count + 1
        let wanted := s.number.getD 1
        -- Behind an empty match the search goes on one place further.
        let (copied, low) := if m.start == m.stop then
            (placed.between m.stop (m.stop + 1), m.stop + 1) else ([], m.stop)
        if count < wanted then
          (rest low count).map (before ++ placed.between m.start m.stop ++ copied ++ ·)
        else
          let done := before ++ filledIn (placed.groupText m) none s.parts
          if !s.further || placed.size < low then
            some (done ++ placed.between m.stop placed.size)
          else some (done ++ (match rest low count with
            | some text => copied ++ text
            | none => placed.between m.stop placed.size))

end NotebookKernel.Shell.Tool.Editing
