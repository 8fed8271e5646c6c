import NotebookKernel.Host.Basic

/-! # A tree of files

A file system held in memory, as its only user sees it. What lies where is a map from locations to
entries, and a path is walked from name to name, through at most forty symbolic links. Every directory
on the way has to let the user through. -/

namespace NotebookKernel

/-- The permission bits of a file. Only those of its owner, who is the user, are ever asked for. -/
abbrev Mode := Nat

namespace Mode

def mayRead (m : Mode) : Bool := m.testBit 8

def mayWrite (m : Mode) : Bool := m.testBit 7

/-- Whether a file may be run, or a directory be passed through. -/
def mayRun (m : Mode) : Bool := m.testBit 6

/-- Whether names may be added to a directory and taken away. -/
def mayChangeNames (m : Mode) : Bool := m.mayWrite && m.mayRun

/-- The bits that are left of a mode for a new file. -/
def masked (m umask : Mode) : Mode := m &&& (0o7777 ^^^ umask)

end Mode

/-- The devices, which take everything in or nothing. -/
inductive Device where
  /-- Has nothing to read. -/
  | null
  /-- Has zeros without an end to read. -/
  | zero
  /-- Has zeros to read, and no room for anything. -/
  | full
  deriving DecidableEq, Repr

/-- What lies at a place in the tree. -/
inductive Entry where
  | directory (mode : Mode)
  | file (content : Bytes) (mode : Mode)
  /-- A symbolic link, with its target as written. -/
  | link (target : String)
  /-- A program that belongs to the system. -/
  | tool
  | device (kind : Device)
  deriving DecidableEq, Repr

namespace Entry

/-- A directory as it is usually made. -/
def plainDirectory : Entry := .directory 0o755

/-- A file as it is usually made. -/
def plainFile (content : Bytes) : Entry := .file content 0o644

def isDirectory : Entry → Bool
  | .directory _ => true
  | _ => false

/-- The permission bits. Links lend theirs to nobody, and what belongs to the system is not to be
changed. -/
def mode : Entry → Mode
  | .directory mode => mode
  | .file _ mode => mode
  | .link _ => 0o777
  | .tool => 0o555
  | .device _ => 0o666

end Entry

/-- The names that lead from the root to a place. -/
abbrev Location := List String

/-- A place as a text: each name behind a slash. The root is the empty text. -/
def Location.key (l : Location) : String :=
  Text.concat (l.map ("/" ++ ·))

/-- A place as a path. -/
def Location.path (l : Location) : Path :=
  if l.isEmpty then ⟨"/"⟩ else ⟨l.key⟩

/-- The entries of a file system under the texts of their places. The root is always there. -/
structure FileTree where
  entries : SortedMap Entry

namespace FileTree

instance : EmptyCollection FileTree := ⟨⟨∅⟩⟩

/-- The mode of the directories that belong to the system. -/
def systemMode : Mode := 0o555

def get? (t : FileTree) (l : Location) : Option Entry :=
  if l.isEmpty then some (.directory systemMode) else t.entries.get? l.key

def insert (t : FileTree) (l : Location) (e : Entry) : FileTree :=
  ⟨t.entries.insert l.key e⟩

def erase (t : FileTree) (l : Location) : FileTree :=
  ⟨t.entries.erase l.key⟩

def isDirectoryAt (t : FileTree) (l : Location) : Bool :=
  (t.get? l).any Entry.isDirectory

/-- The names in a directory. -/
def children (t : FileTree) (l : Location) : List String :=
  let start := (l.key ++ "/").toList
  t.entries.keys.filterMap fun key =>
    match Text.Chars.stripStart? start key.toList with
    | some name => if name.contains '/' then none else some (String.ofList name)
    | none => none

/-- The longest name that a file may have, in bytes. -/
def maxNameLength : Nat := 255

/-- The longest path that the system takes, in bytes. -/
def maxPathLength : Nat := 4095

/-- How many links may be followed on the way to one place. -/
def maxLinks : Nat := 40

/-- Walks from a place along names. The place it leads to need not exist, but every place on the way
has to be a directory. A link at the very end is followed only on demand. -/
def walk (t : FileTree) (follow : Bool) (links : Nat) (place : Location) :
    List String → Except OsError Location
  | [] => .ok place
  | name :: rest =>
    match t.get? place with
    | none => .error .notFound
    | some (.directory mode) =>
      if !mode.mayRun then .error .permissionDenied
      else if name = "." then walk t follow links place rest
      else if name = ".." then walk t follow links place.dropLast rest
      else if maxNameLength < name.utf8ByteSize then .error .nameTooLong
      else
        let next := place ++ [name]
        match t.get? next with
        | some (.link target) =>
          if rest.isEmpty && !follow then .ok next
          else match links with
            | 0 => .error .tooManyLinks
            | links + 1 =>
              let path : Path := ⟨target⟩
              walk t follow links (if path.isAbsolute then [] else place) (path.names ++ rest)
        | some _ => walk t follow links next rest
        | none => if rest.isEmpty then .ok next else .error .notFound
    | some _ => .error .notADirectory
  termination_by names => (links, names.length)

/-- Whether a path ends in a slash, so that it can only name a directory. -/
def endsInSlash (p : Path) : Bool := p.text.toList.getLast? == some '/'

/-- Checks that a text can be a path at all. -/
def checkPath (p : Path) : Except OsError Unit :=
  if p.text.toList.contains (Char.ofNat 0) then .error .nulInPath
  else if p.text.isEmpty then .error .notFound
  else if maxPathLength < p.text.utf8ByteSize then .error .nameTooLong
  else .ok ()

/-- The place that a path names, seen from a directory. A path that ends in a slash has to lead to a
directory. -/
def locate (t : FileTree) (follow : Bool) (base : Location) (p : Path) :
    Except OsError Location := do
  checkPath p
  let ended := endsInSlash p
  let l ← t.walk (follow || ended) maxLinks (if p.isAbsolute then [] else base) p.names
  if !ended then return l
  match t.get? l with
  | none => throw .notFound
  | some e => if e.isDirectory then return l else throw .notADirectory

/-- The place and the entry that a path names. -/
def find (t : FileTree) (follow : Bool) (base : Location) (p : Path) :
    Except OsError (Location × Entry) := do
  let l ← t.locate follow base p
  match t.get? l with
  | some e => .ok (l, e)
  | none => .error .notFound

def canonicalize (t : FileTree) (base : Location) (p : Path) : Except OsError Path :=
  (t.find true base p).map fun found => Location.path found.1

def isDirectory (t : FileTree) (base : Location) (p : Path) : Bool :=
  match t.find true base p with
  | .ok (_, e) => e.isDirectory
  | .error _ => false

def fileExists (t : FileTree) (base : Location) (p : Path) : Bool :=
  (t.find true base p).isOk

def isExecutable (t : FileTree) (base : Location) (p : Path) : Bool :=
  match t.find true base p with
  | .ok (_, .file _ mode) => mode.mayRun
  | .ok (_, .tool) => true
  | _ => false

/-- The bytes that stand for a program of the system. They are no text. -/
def programHeader : Bytes := [0x7F, 0x45, 0x4C, 0x46, 0xFF]

def contentOf (t : FileTree) (base : Location) (p : Path) : Except OsError Bytes := do
  let (_, e) ← t.find true base p
  if !e.mode.mayRead then throw .permissionDenied
  match e with
  | .file content _ => return content
  | .directory _ => throw .isADirectory
  | .tool => return programHeader
  | .device _ => return []
  | .link _ => throw .tooManyLinks

def readDirectory (t : FileTree) (base : Location) (p : Path) :
    Except OsError (List DirectoryEntry) := do
  match ← t.find true base p with
  | (l, .directory mode) =>
    if !mode.mayRead then throw .permissionDenied
    return (t.children l).map fun name => { name, isDirectory := t.isDirectory l ⟨name⟩ }
  | _ => throw .notADirectory

/-- Checks that names may be added beside a place and taken away there. -/
def checkParent (t : FileTree) (l : Location) : Except OsError Unit :=
  match t.get? l.dropLast with
  | some (.directory mode) => if mode.mayChangeNames then .ok () else .error .permissionDenied
  | some _ => .error .notADirectory
  | none => .error .notFound

/-- Puts an entry at a place where nothing is, if names may be added there. -/
def create (t : FileTree) (l : Location) (e : Entry) : Except OsError FileTree := do
  t.checkParent l
  return t.insert l e

/-- Gives a file its content. A new file appears where the path leads; an old one keeps its mode. -/
def writeFile (t : FileTree) (base : Location) (p : Path) (content : Bytes) (mode : Mode := 0o644) :
    Except OsError FileTree := do
  if endsInSlash p then
    -- The last name is not even looked for.
    checkPath p
    let above := if p.isAbsolute then "" :: p.names.dropLast else p.names.dropLast
    let _ ← t.locate true base ⟨Text.join "/" (above ++ ["."])⟩
    throw .isADirectory
  let l ← t.locate true base p
  match t.get? l with
  | none => t.create l (.file content mode)
  | some (.directory _) => throw .isADirectory
  | some (.link _) => throw .tooManyLinks
  | some .tool => throw .permissionDenied
  | some (.device .full) => if content.isEmpty then return t else throw .noSpace
  | some (.device _) => return t
  | some (.file _ mode) =>
    if mode.mayWrite then return t.insert l (.file content mode) else throw .permissionDenied

def removeFile (t : FileTree) (base : Location) (p : Path) : Except OsError FileTree := do
  let (l, e) ← t.find false base p
  t.checkParent l
  if e.isDirectory then throw .isADirectory
  return t.erase l

/-- Creates one directory. -/
def makeDirectory (t : FileTree) (base : Location) (p : Path) (mode : Mode := 0o755) :
    Except OsError FileTree := do
  let bare : Path := ⟨String.ofList (p.text.toList.reverse.dropWhile (· == '/')).reverse⟩
  let l ← t.locate false base (if bare.text.isEmpty then p else bare)
  match t.get? l with
  | some _ => throw .alreadyExists
  | none => t.create l (.directory mode)

/-- Creates a directory and those above it as far as they are missing. The fuel bounds the number of
levels. Directories that were created stay, also when a later one is refused. -/
def makeDirectories (t : FileTree) (base : Location) :
    Nat → Path → Except OsError Unit × FileTree
  | 0, _ => (.error .notFound, t)
  | fuel + 1, p =>
    if p.text.isEmpty then (.ok (), t)
    else match t.makeDirectory base p with
      | .ok t => (.ok (), t)
      | .error .notFound =>
        match p.parent? with
        | none => (.error .notFound, t)
        | some above =>
          match t.makeDirectories base fuel above with
          | (.error e, t) => (.error e, t)
          | (.ok (), t) =>
            match t.makeDirectory base p with
            | .ok t => (.ok (), t)
            | .error e => (if t.isDirectory base p then .ok () else .error e, t)
      | .error e => (if t.isDirectory base p then .ok () else .error e, t)

def createDirectories (t : FileTree) (base : Location) (p : Path) : Except OsError Unit × FileTree :=
  t.makeDirectories base (p.components.length + 2) p

/-- Puts an entry under a location, with the directories above it. -/
def place (t : FileTree) (l : Location) (e : Entry) : FileTree :=
  let dirs := (List.range l.length).map fun n => l.take n
  let t := dirs.foldl (fun t dir =>
    if dir.isEmpty || (t.get? dir).isSome then t else t.insert dir .plainDirectory) t
  if l.isEmpty then t else t.insert l e

end FileTree

end NotebookKernel
