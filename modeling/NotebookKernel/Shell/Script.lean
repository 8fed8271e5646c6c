import NotebookKernel.Shell.Octets

/-! # Shell scripts

The structure of a script once it is read: commands made of words, and words made of pieces. What a
piece stands for is found out only when the command is run. -/

namespace NotebookKernel.Shell

/-- What happens where a parameter has no value. -/
inductive Fallback where
  /-- The word stands in. -/
  | substitute
  /-- The word is assigned and stands in. -/
  | assign
  /-- The word tells why the shell ends. -/
  | refuse
  /-- The word stands in where the parameter does have a value. -/
  | alternative

mutual

/-- A piece of a word. Quoted pieces are neither split into fields nor matched with files. -/
inductive Piece where
  | text (content : Octets) (quoted : Bool)
  | parameter (name : Octets) (use : Use) (quoted : Bool)
  /-- The output of the script that `content` holds, which starts on a line of the outer script. -/
  | output (content : Octets) (line : Nat) (quoted : Bool)
  | arithmetic (expression : List Piece) (quoted : Bool)

/-- What is made of the value of a parameter. -/
inductive Use where
  | value
  | length
  /-- Something else where the parameter is unset, or also where it is empty. -/
  | fallback (kind : Fallback) (orEmpty : Bool) (word : List Piece)
  /-- The value without what a pattern matches at its start or end. -/
  | trim (atEnd longest : Bool) (pattern : List Piece)
  /-- No known use. -/
  | invalid

end

abbrev Word := List Piece

/-- What a redirection does. -/
inductive Direction where
  | read
  | write
  /-- As `write`, also where existing files are to be kept. -/
  | clobber
  | append
  | readWrite
  /-- The descriptor becomes a copy of another, or is closed. -/
  | copy
  /-- The descriptor reads the document of a number. -/
  | document (number : Nat)
  deriving DecidableEq

structure Redirection where
  descriptor : Nat
  direction : Direction
  target : Word

/-- A command, or several joined together. -/
inductive Command where
  | nothing
  | simple (line : Nat) (assignments : List (Octets × Word)) (words : List Word)
      (redirections : List Redirection)
  | redirected (line : Nat) (body : Command) (redirections : List Redirection)
  | subshell (line : Nat) (body : Command)
  | branch (condition body otherwise : Command)
  | loop (untilTrue : Bool) (condition body : Command)
  | forEach (line : Nat) (name : Octets) (words : List Word) (body : Command)
  | select (line : Nat) (subject : Word) (arms : List (List Word × Command))
  | define (name : Octets) (body : Command)
  | pipeline (stages : List Command)
  | negated (body : Command)
  | both (first second : Command)
  | either (first second : Command)
  | sequence (first second : Command)
  | background (body : Command)
  deriving Inhabited

end NotebookKernel.Shell
