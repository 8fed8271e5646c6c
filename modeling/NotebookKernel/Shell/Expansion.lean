import NotebookKernel.Shell.Pattern
import NotebookKernel.Shell.Process

/-! # From expanded words to fields

Once all pieces of a word are put in, the word is split into fields at the separators that came out of
substitutions, and fields with wildcards are replaced by the paths that they match. -/

namespace NotebookKernel.Shell

/-- An item of an expanded word. -/
inductive Item where
  /-- A byte, which may be quoted and may separate fields. -/
  | byte (c : Char) (quoted splits : Bool)
  /-- The end of one field and the start of another. -/
  | boundary
  /-- Nothing, but something that makes a field. -/
  | presence

namespace Item

/-- A text that stands in the script itself. -/
def ofText (text : Octets) (quoted : Bool) : List Item :=
  if text.isEmpty && quoted then [.presence] else text.map fun c => .byte c quoted false

/-- A text that was put in for something. -/
def ofValue (text : Octets) (quoted : Bool) : List Item :=
  text.map fun c => .byte c quoted !quoted

/-- Makes the unquoted text split, as it does when it stands in for a parameter. -/
def splitting (items : List Item) : List Item :=
  items.map fun
    | .byte c quoted _ => .byte c quoted !quoted
    | item => item

/-- The word as a single text. -/
def text (items : List Item) : Octets :=
  items.filterMap fun
    | .byte c _ _ => some c
    | .boundary => some ' '
    | .presence => none

/-- The word as a single pattern. -/
def glyphs (items : List Item) : List Glyph :=
  items.filterMap fun
    | .byte c quoted _ => some ⟨c, quoted⟩
    | .boundary => some ⟨' ', true⟩
    | .presence => none

end Item

/-- How far a word is split. -/
structure Splitting where
  /-- The fields so far, the last first. -/
  fields : List (List Glyph)
  /-- The field under way, its last byte first. -/
  current : Option (List Glyph)
  /-- The last field was ended by a blank, to which one other separator may still belong. -/
  afterBlank : Bool

namespace Splitting

/-- Ends the field under way, if there is one. -/
def finish (s : Splitting) : Splitting :=
  match s.current with
  | some field => { s with fields := field.reverse :: s.fields, current := none }
  | none => s

def step (separators : Octets) (s : Splitting) : Item → Splitting
  | .presence => { s with current := some (s.current.getD []), afterBlank := false }
  | .boundary => { s.finish with afterBlank := false }
  | .byte c quoted splits =>
    if splits && separators.contains c then
      if c == ' ' || c == '\t' || c == '\n' then
        { s.finish with afterBlank := s.current.isSome || s.afterBlank }
      else if s.current.isSome then { s.finish with afterBlank := false }
      else if s.afterBlank then { s with afterBlank := false }
      else { s with fields := [] :: s.fields }
    else { s with current := some (⟨c, quoted⟩ :: s.current.getD []), afterBlank := false }

end Splitting

/-- The fields of an expanded word. -/
def splitFields (separators : Octets) (items : List Item) : List (List Glyph) :=
  (items.foldl (Splitting.step separators) ⟨[], none, false⟩).finish.fields.reverse

/-- Cuts a word at its slashes. -/
def segments (word : List Glyph) : List (List Glyph) :=
  match word with
  | [] => [[]]
  | g :: rest =>
    if g.char == '/' then [] :: segments rest
    else match segments rest with
      | [] => [[g]]
      | first :: more => (g :: first) :: more

/-- The paths that segments match, seen from a place. `before` is the path so far. -/
def matchSegments (t : FileTree) (before : Octets) (place : Location) :
    List (List Glyph) → List Octets
  | [] => []
  | segment :: rest =>
    let plain := segment.map (·.char)
    let enter (name : Octets) : List Octets :=
      let path := before ++ name
      if rest.isEmpty then
        if name.isEmpty then [path]
        else if (t.find false place ⟨Octets.decode name⟩).isOk then [path] else []
      else if name.isEmpty then matchSegments t (path ++ ['/']) place rest
      else match t.find true place ⟨Octets.decode name⟩ with
        | .ok (next, .directory _) => matchSegments t (path ++ ['/']) next rest
        | _ => []
    if !hasWildcards segment then enter plain
    else
      let readable := (t.get? place).any (·.mode.mayRead)
      let names := if readable then
        (([".", ".."] ++ t.children place).map Octets.ofString).mergeSort Octets.le else []
      let pattern := Pattern.ofGlyphs segment
      let hidden (name : Octets) : Bool := name.head? == some '.' && plain.head? != some '.'
      (names.filter fun name => Pattern.matchesText pattern name && !hidden name).flatMap enter

/-- The paths that a field stands for: those it matches, or itself if it matches none. -/
def matchFiles (t : FileTree) (directory : Location) (field : List Glyph) : List Octets :=
  let plain := field.map (·.char)
  if !hasWildcards field then [plain]
  else
    let found := match segments field with
      | [] :: rest => matchSegments t ['/'] [] rest
      | all => matchSegments t [] directory all
    if found.isEmpty then [plain] else found

end NotebookKernel.Shell
