import NotebookKernel.Text.Lines

/-! # Paths

A path is a text in which slashes separate names. Joining, cutting and comparing paths looks at the
text alone; what is there is the business of `Host`. -/

namespace NotebookKernel

/-- A path, as written. -/
structure Path where
  text : String
  deriving DecidableEq, Repr, Inhabited

namespace Path

open Text

/-- A part of a path. -/
inductive Component where
  | root
  | current
  | parent
  | name (text : String)
  deriving DecidableEq, Repr

/-- The text of a component. -/
def Component.text : Component → String
  | .root => "/"
  | .current => "."
  | .parent => ".."
  | .name text => text

def isAbsolute (p : Path) : Bool := p.text.toList.head? == some '/'

/-- The names between the slashes, in order, dots included and empty ones left out. -/
def names (p : Path) : List String :=
  (splitOn '/' p.text).filter (· != "")

/-- The components of a path. Dots count at the start of a relative path only. -/
def components (p : Path) : List Component :=
  let component (name : String) : Component := if name = ".." then .parent else .name name
  let rest (names : List String) : List Component := (names.filter (· != ".")).map component
  if p.isAbsolute then .root :: rest p.names
  else match p.names with
    | "." :: names => .current :: rest names
    | names => rest names

/-- The path made of components. -/
def ofComponents : List Component → Path
  | .root :: rest => ⟨"/" ++ join "/" (rest.map (·.text))⟩
  | cs => ⟨join "/" (cs.map (·.text))⟩

/-- `q` as seen from `p`. An absolute path stays as it is. -/
def append (p q : Path) : Path :=
  if q.isAbsolute then q
  else if p.text = "" ∨ p.text.toList.getLast? = some '/' then ⟨p.text ++ q.text⟩
  else ⟨p.text ++ "/" ++ q.text⟩

/-- The path without its last component, unless there is none to leave out. -/
def parent? (p : Path) : Option Path :=
  match p.components.reverse with
  | [] => none
  | .root :: _ => none
  | _ :: rest => some (ofComponents rest.reverse)

/-- The last component, if it is a name. -/
def fileName? (p : Path) : Option String :=
  match p.components.getLast? with
  | some (.name text) => some text
  | _ => none

/-- A file name cut at its last dot. A dot at the very start does not count. -/
def splitExtension (name : List Char) : List Char × Option (List Char) :=
  match (Chars.splitOn (· == '.') name).reverse with
  | extension :: stem :: more =>
    let before := (List.intercalate ['.'] (stem :: more).reverse)
    if before.isEmpty then (name, none) else (before, some extension)
  | _ => (name, none)

/-- What the file name has before its last dot. -/
def stem? (p : Path) : Option String :=
  p.fileName?.map fun name => String.ofList (splitExtension name.toList).1

/-- What the file name has after its last dot. -/
def extension? (p : Path) : Option String :=
  p.fileName?.bind fun name => (splitExtension name.toList).2.map String.ofList

end Path

instance : HAppend Path String Path := ⟨fun p s => p.append ⟨s⟩⟩

end NotebookKernel
