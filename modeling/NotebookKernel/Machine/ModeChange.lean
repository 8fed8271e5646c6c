import NotebookKernel.Machine.FileTree

/-! # Changes of permission bits

A change such as `u+rw,go=` names the classes of users that it is about, what is done to their bits,
and which bits that concerns. Where it names no class, it is about all of them, but leaves alone what
new files do not get. -/

namespace NotebookKernel

/-- What is done to permission bits. -/
inductive ModeChange.Kind where
  | add
  | remove
  | put
  deriving DecidableEq

/-- A change of the permission bits of a file. -/
structure ModeChange where
  /-- The bits of the classes that are named. -/
  classes : Option Mode
  kind : ModeChange.Kind
  bits : Mode
  /-- The class whose bits are taken over. -/
  source : Option Char := none
  /-- Whether the permission to run is concerned where there is any already. -/
  runIfAny : Bool := false

namespace ModeChange

/-- The same permission for all three classes. -/
def forAll (bit : Nat) : Mode := bit * 0o111

/-- The bits of a class of users. -/
def classBits? : Char → Option Mode
  | 'u' => some 0o4700
  | 'g' => some 0o2070
  | 'o' => some 0o007
  | 'a' => some 0o6777
  | _ => none

/-- The permission bits of a class, for all three. -/
def copied (mode : Mode) : Char → Mode
  | 'u' => forAll (mode / 64 % 8)
  | 'g' => forAll (mode / 8 % 8)
  | _ => forAll (mode % 8)

def kind? : Char → Option Kind
  | '+' => some .add
  | '-' => some .remove
  | '=' => some .put
  | _ => none

/-- The change that one letter makes, behind the classes and the sign. -/
def ofLetter? (classes : Option Mode) (kind : Kind) (letter : Char) : Option ModeChange :=
  match letter with
  | 'r' => some { classes, kind, bits := forAll 4 }
  | 'w' => some { classes, kind, bits := forAll 2 }
  | 'x' => some { classes, kind, bits := forAll 1 }
  | 'X' => some { classes, kind, bits := 0, runIfAny := true }
  | 's' => some { classes, kind, bits := 0o6000 }
  | 't' => some { classes, kind, bits := 0o1000 }
  | 'u' | 'g' | 'o' => some { classes, kind, bits := 0, source := letter }
  | _ => none

/-- The changes behind the classes of a clause: signs, each with its letters. -/
def readSigns (classes : Option Mode) : Option Kind → List Char → Option (List ModeChange)
  | kind, [] => if kind.isSome then some [] else none
  | kind, c :: rest =>
    match kind? c with
    | some .put =>
      (readSigns classes (some .add) rest).map ({ classes, kind := .put, bits := 0 } :: ·)
    | some next => readSigns classes (some next) rest
    | none => do
      let change ← ofLetter? classes (← kind) c
      return change :: (← readSigns classes kind rest)

/-- A clause: classes, then signs with letters. -/
def readClause (text : List Char) : Option (List ModeChange) :=
  let classes := text.takeWhile fun c => (classBits? c).isSome
  let bits := classes.foldl (fun bits c => bits ||| (classBits? c).getD 0) 0
  readSigns (if classes.isEmpty then none else some bits) none (text.drop classes.length)

/-- The changes that a text asks for, clause by clause. -/
def ofText? (text : List Char) : Option (List ModeChange) :=
  ((Text.Chars.splitOn (· == ',') text).mapM readClause).map List.flatten

/-- Carries out a change. What new files do not get is told by the mask. -/
def apply (umask : Mode) (isDirectory : Bool) (mode : Mode) (c : ModeChange) : Mode :=
  let runnable := isDirectory || mode &&& 0o111 != 0
  let bits := c.bits ||| ((c.source.map (copied mode)).getD 0) |||
    (if c.runIfAny && runnable then 0o111 else 0)
  let bits := match c.classes with
    | some classes => bits &&& (classes ||| 0o1000)
    | none => Mode.masked bits umask
  let cleared (bits : Mode) : Mode := mode &&& (0o7777 ^^^ bits)
  match c.kind with
  | .add => mode ||| bits
  | .remove => cleared bits
  | .put =>
    let kept := if isDirectory then 0o6000 else 0
    cleared (c.classes.getD 0o6777 &&& (0o7777 ^^^ kept)) ||| bits

/-- Carries out changes one after another. -/
def applyAll (umask : Mode) (isDirectory : Bool) (mode : Mode) (changes : List ModeChange) : Mode :=
  changes.foldl (apply umask isDirectory) mode

end ModeChange

end NotebookKernel
