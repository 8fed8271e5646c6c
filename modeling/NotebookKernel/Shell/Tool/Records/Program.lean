import NotebookKernel.Shell.Octets

/-! # Programs over records

A program is a list of rules. For each record of the input it does what the rules say that select the
record. Names are resolved when a program is read: a variable or an array is known by its place. -/

namespace NotebookKernel.Shell.Tool.Records

/-- Where a variable or an array is found: in the whole program or in the function that is running. -/
inductive Place where
  | shared (index : Nat)
  | own (index : Nat)

inductive Calculation where
  | add
  | subtract
  | multiply
  | divide
  | remainder
  | power

inductive Comparison where
  | less
  | lessOrEqual
  | equal
  | unequal
  | greater
  | greaterOrEqual

/-- Functions that every program has. -/
inductive Builtin where
  | arctangent
  | close
  | cosine
  | exponential
  | flush
  | index
  | integer
  | length
  | logarithm
  | lower
  | makeTime
  | random
  | seed
  | sine
  | formatted
  | squareRoot
  | formatTime
  | part
  | system
  | time
  | upper

mutual

inductive Expression where
  | number (x : Float)
  | text (t : Octets)
  /-- Whether the record has a match of an expression. -/
  | occurs (sought : Octets)
  | value (t : Target)
  | assign (t : Target) (calculation : Option Calculation) (e : Expression)
  /-- Adds or takes away one, and gives the number before or after that. -/
  | step (t : Target) (up before : Bool)
  | negate (e : Expression)
  | toNumber (e : Expression)
  | not (e : Expression)
  | both (a b : Expression)
  | any (a b : Expression)
  | choice (condition yes no : Expression)
  | calculate (calculation : Calculation) (a b : Expression)
  | compare (comparison : Comparison) (a b : Expression)
  | joined (a b : Expression)
  | matching (negated : Bool) (a sought : Expression)
  | isKey (key : List Expression) (array : Place)
  | size (array : Place)
  | builtin (b : Builtin) (arguments : List Expression)
  | search (a sought : Expression)
  | split (e : Expression) (array : Place) (separator : Option Expression)
  | substitute (all : Bool) (sought replacement : Expression) (t : Target)
  | call (function : Nat) (arguments : List Expression)
  | nextLine (origin : Origin) (t : Option Target)

/-- What can be given a value. -/
inductive Target where
  | variable (p : Place)
  | element (array : Place) (key : List Expression)
  | field (number : Expression)

/-- Where a line is read from. -/
inductive Origin where
  | input
  | file (name : Expression)
  | command (text : Expression)

end

/-- Where something is printed. -/
inductive Outlet where
  | file (appends : Bool) (name : Expression)
  | command (text : Expression)

inductive Statement where
  | nothing
  | block (statements : List Statement)
  | evaluate (e : Expression)
  | print (formatted : Bool) (items : List Expression) (outlet : Option Outlet)
  | choice (condition : Expression) (yes no : Statement)
  /-- A loop, whose condition may be tested only after the first round. -/
  | loop (testsFirst : Bool) (condition : Option Expression) (step : Option Expression)
      (body : Statement)
  | eachKey (t : Place) (array : Place) (body : Statement)
  | leaveLoop
  | nextRound
  | next
  | nextFile
  | exit (status : Option Expression)
  | giveBack (value : Option Expression)
  | delete (array : Place) (key : List Expression)
  | clear (array : Place)

/-- When a rule is for a record. -/
inductive Selector where
  | start
  | finish
  | always
  | when (condition : Expression)
  | range (first last : Expression)

structure Rule where
  selector : Selector
  /-- What is done. If nothing is said, the record is printed. -/
  action : Option Statement

structure Definition where
  /-- Which of the parameters are arrays. -/
  parameters : List Bool
  body : Statement

structure Program where
  rules : List Rule
  definitions : Array Definition
  /-- Which of the shared names are arrays. -/
  shared : Array Bool
  names : List (Octets × Nat)

/-! ## Names that have a meaning -/

/-- The variables and arrays that every program has, in the order of their places. -/
def knownNames : List String :=
  ["NR", "FNR", "NF", "FS", "OFS", "RS", "ORS", "SUBSEP", "CONVFMT", "OFMT", "FILENAME", "RSTART",
    "RLENGTH", "ARGC", "ARGV", "ENVIRON"]

/-- The place of a name that has a meaning. -/
def knownPlace (name : String) : Nat := (knownNames.idxOf? name).getD knownNames.length

/-- The names of the functions that every program has, and how many arguments they take. -/
def builtins : List (String × Builtin × Nat × Nat) := [
  ("atan2", .arctangent, 2, 2), ("close", .close, 1, 1), ("cos", .cosine, 1, 1),
  ("exp", .exponential, 1, 1), ("fflush", .flush, 0, 1), ("index", .index, 2, 2),
  ("int", .integer, 1, 1), ("length", .length, 0, 1), ("log", .logarithm, 1, 1),
  ("mktime", .makeTime, 1, 1), ("rand", .random, 0, 0), ("sin", .sine, 1, 1),
  ("sprintf", .formatted, 1, 255), ("sqrt", .squareRoot, 1, 1), ("srand", .seed, 0, 1),
  ("strftime", .formatTime, 0, 3), ("substr", .part, 2, 3), ("system", .system, 1, 1),
  ("systime", .time, 0, 0), ("tolower", .lower, 1, 1), ("toupper", .upper, 1, 1)]

end NotebookKernel.Shell.Tool.Records
