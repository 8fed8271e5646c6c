import NotebookKernel.Shell.Tool.Difference
import NotebookKernel.Shell.Tool.Files
import NotebookKernel.Time.Format

/-! # Programs that compare files

`cmp` finds the first byte in which two files differ, or all of them. `diff` compares files by their
lines, and directories by the files in them. -/

namespace NotebookKernel.Shell.Tool

open Run

/-- Refuses a call and says where help is to be found, both in the name of the program. -/
def refuseCompare (text : Octets) : Run Nat := do
  let name := (← process).name
  complainOf (text ++ '\n' :: name ++ ": Try '".toList ++ name ++
    " --help' for more information.".toList)
  return 2

/-- Goes on with options and operands, the first wrong one of which is complained about. -/
def withComparing (table : String) (arguments : List Octets) (next : Called → Run Nat)
    (check : Choice → Option Octets) : Run Nat := do
  let called := Called.read (OptionForm.tableOf table) false arguments
  match (called.choices.findSome? check).or (called.fault.map (·.message)) with
  | some why => refuseCompare why
  | none => next called

/-! ## Bytes -/

/-- A byte as it can be shown, by marks for control characters and for the highest bit. -/
def caret (c : Char) : Octets :=
  let low := Char.ofNat (c.toNat % 128)
  let shown := if low < ' ' then ['^', Char.ofNat (low.toNat + 64)]
    else if low == '\x7f' then ['^', '?'] else [low]
  if c.toNat < 128 then shown else 'M' :: '-' :: shown

def octalText (c : Char) : Octets := padLeft 3 (Nat.toDigits 8 c.toNat)

/-- The bytes in which two texts differ, with their numbers. -/
def differing (a b : Octets) : List (Nat × Char × Char) :=
  ((a.zip b).zipIdx 1).filterMap fun ((x, y), n) => if x == y then none else some (n, x, y)

/-- How many bytes of both files are not compared. -/
def skips (o : Called) : Nat × Nat :=
  let amount (text : Octets) : Nat := (Amount.ofText true text).get
  let (first, second) := match o.value? "i" with
    | none => (0, 0)
    | some text =>
      match Text.Chars.splitOnce? ':' text with
      | some (a, b) => (amount a, amount b)
      | none => (amount text, amount text)
  match o.operands.drop 2 with
  | [a] => (amount a, second)
  | [a, b] => (amount a, amount b)
  | _ => (first, second)

def isAmount (text : Octets) : Bool :=
  match Amount.ofText true text with
  | .value _ => (text.headD ' ').isDigit
  | _ => false

def checkCmpOption (c : Choice) : Option Octets :=
  let wrong (name : String) : Option Octets :=
    some (("invalid --" ++ name ++ " value ").toList ++ quote c.text)
  match c.key with
  | "i" =>
    let parts := Text.Chars.splitOn (· == ':') c.text
    if parts.length ≤ 2 && parts.all isAmount then none else wrong "ignore-initial"
  | "n" => if isAmount c.text then none else wrong "bytes"
  | _ => none

/-- Says that a file ended, and where. -/
def tellEnd (name : Octets) (all : Bool) (text : Octets) : Run Unit :=
  let lines := text.count '\n'
  let place := if text.isEmpty then " which is empty".toList
    else " after byte ".toList ++ Octets.ofNat text.length ++
      if all then []
      else if text.getLast? == some '\n' then ", line ".toList ++ Octets.ofNat lines
      else ", in line ".toList ++ Octets.ofNat (lines + 1)
  complainOf ("EOF on ".toList ++ name ++ place)

/-- Compares two texts byte by byte. -/
def compareBytes (o : Called) (left right : Octets) (sizes : List Nat) (a b : Octets) :
    Run Nat := do
  let all := o.has "l"
  let short := min a.length b.length
  let found := differing a b
  if o.has "s" then return status (a == b)
  if all then
    let width := (Octets.ofNat (sizes.foldl min (maxWord / 2))).length
    put (found.flatMap fun (n, x, y) =>
      padLeft width (Octets.ofNat n) ++ ' ' :: octalText x ++
        (if o.has "b" then ' ' :: padRight 4 (caret x) else []) ++ ' ' :: octalText y ++
        (if o.has "b" then ' ' :: caret y else []) ++ ['\n'])
  else if let (n, x, y) :: _ := found then
    let line := (a.take (n - 1)).count '\n' + 1
    putLine (left ++ ' ' :: right ++ (if o.has "b" then " differ: byte " else
        " differ: char ").toList ++ Octets.ofNat n ++ ", line ".toList ++ Octets.ofNat line ++
      if o.has "b" then " is ".toList ++ octalText x ++ ' ' :: caret x ++ ' ' :: octalText y ++
        ' ' :: caret y else [])
    return 1
  if a.length != b.length then
    let (name, text) := if a.length < b.length then (left, a) else (right, b)
    tellEnd name all (text.take short)
    return 1
  return status found.isEmpty

def cmp (arguments : List Octets) : Run Nat :=
  withComparing "b,c,print-bytes i,ignore-initial= l,verbose n,bytes= s,quiet,silent" arguments
    (fun o => do
      if o.has "l" && o.has "s" then
        return ← refuseCompare "options -l and -s are incompatible".toList
      match o.operands with
      | [] => refuseCompare ("missing operand after ".toList ++ quote (← process).name)
      | _ :: _ :: _ :: _ :: extra :: _ => refuseCompare ("extra operand ".toList ++ quote extra)
      | left :: more =>
        if let some wrong := (more.drop 1).find? (!isAmount ·) then
          return ← refuseCompare ("invalid --ignore-initial value ".toList ++ quote wrong)
        let right := more.headD ['-']
        let (first, second) := skips o
        if left == right && first == second then return 0
        let limit (text : Octets) : Octets := match o.value? "n" with
          | some n => text.take (Amount.ofText true n).get
          | none => text
        let mut texts : List Octets := []
        for file in [left, right] do
          match ← readWhole file with
          | .ok text => texts := texts ++ [text]
          | .error e =>
            if !o.has "s" then complainAbout file e
            return 2
        match texts with
        | [a, b] =>
          let a := limit (a.drop first)
          let b := limit (b.drop second)
          let sizes := ([(left, a), (right, b)].filter (·.1 != ['-'])).map (·.2.length)
          compareBytes o left right sizes a b
        | _ => return 2) checkCmpOption

/-! ## Lines -/

/-- How files and directories are compared. -/
structure DiffCall where
  style : DiffStyle
  sense : LineSense
  recursive : Bool
  /-- Whether a file that is missing counts as an empty one, on the left side or on both. -/
  fillsLeft : Bool
  fillsBoth : Bool
  brief : Bool
  tellsSame : Bool
  asText : Bool
  dropsReturns : Bool
  labels : List Octets
  excluded : List Pattern
  /-- The first name that is compared in a directory. -/
  start : Option Octets
  /-- The options as they were given. -/
  switches : Octets

/-- Whether the lines of a file have to be compared. -/
def DiffCall.isBinary (d : DiffCall) (text : Octets) : Bool :=
  !d.asText && text.contains (Char.ofNat 0)

/-- The header over the differences of two files. -/
def DiffCall.header (d : DiffCall) (left right : Octets) (present : Bool × Bool) :
    Run Octets := do
  let now := (← world).machine.instant
  let time (present : Bool) : Octets :=
    let moment : Instant := if present then now else ⟨0, 0⟩
    '\t' :: moment.formatted
      (if d.style.form == .context then "%a %b %e %T %Y" else "%Y-%m-%d %H:%M:%S.%N %z")
  let line (mark : String) (i : Nat) (name : Octets) (present : Bool) : Octets :=
    mark.toList ++ ' ' :: (match d.labels[i]? with
      | some label => label
      | none => name ++ time present) ++ ['\n']
  let (first, second) := if d.style.form == .context then ("***", "---") else ("---", "+++")
  return line first 0 left present.1 ++ line second 1 right present.2

/-- Compares the texts of two files. -/
def diffTexts (d : DiffCall) (inside : Bool) (left right : Octets) (present : Bool × Bool)
    (a b : Octets) : Run Nat := do
  let shown (i : Nat) (name : Octets) : Octets := d.labels.getD i name
  let pair := shown 0 left ++ " and ".toList ++ shown 1 right
  let same : Run Nat := do
    if d.tellsSame then putLine ("Files ".toList ++ pair ++ " are identical".toList)
    return 0
  if d.isBinary a || d.isBinary b then
    if a == b then return ← same
    putLine ((if d.brief then "Files " else "Binary files ").toList ++ pair ++ " differ".toList)
    return 1
  let clean (text : Octets) : Octets := if d.dropsReturns then
      (Octets.lines text).flatMap (fun line =>
        (if line.getLast? == some '\r' then line.dropLast else line) ++ ['\n']) |>.take
          (text.length + 1)
    else text
  let open' (original : Octets) (f : LineFile) : LineFile :=
    { f with isOpen := original.getLast?.any (· != '\n') }
  let s := d.style
  let horizon := if s.form == .context || s.form == .unified then s.context else 0
  let c := Comparison.of d.sense s.tabSize horizon (s.form != .edit && s.form != .forwardEdit)
    (open' a (.ofText (clean a))) (open' b (.ofText (clean b)))
  if d.brief then
    if !c.differs then return ← same
    putLine ("Files ".toList ++ pair ++ " differ".toList)
    return 1
  if c.differs || (s.form == .beside && !s.dropsCommon) then
    let header ← d.header left right present
    let out := s.render c header
    let title := "diff".toList ++ d.switches ++ ' ' :: shown 0 left ++ ' ' :: shown 1 right
    put ((if inside then title ++ ['\n'] else []) ++ out)
  let mut result := if c.differs then 1 else 0
  if s.form == .edit || s.form == .forwardEdit then
    for (name, f) in [(left, c.left), (right, c.right)] do
      if f.isOpen then
        complainOf (name ++ ": No newline at end of file\n".toList)
        result := 2
  if result == 0 then same else return result

/-- What a name leads to that is compared: nothing, the standard input or an entry. -/
inductive Compared where
  | missing
  | input
  | entry (place : Location) (entry : Entry)

namespace Compared

def isDirectory : Compared → Bool
  | .entry _ e => e.isDirectory
  | _ => false

def isMissing : Compared → Bool
  | .missing => true
  | _ => false

def kind : Compared → Octets
  | .entry _ e => kindName e
  | _ => "regular empty file".toList

def place? : Compared → Option Location
  | .entry place _ => some place
  | _ => none

end Compared

def lookUp (name : Octets) : Run (Except OsError Compared) := do
  if name == ['-'] then return .ok .input
  match ← find name true with
  | .ok (place, entry) => return .ok (.entry place entry)
  | .error .notFound => return .ok .missing
  | .error e => return .error e

/-- The names in a directory that are compared. -/
def comparedNames (d : DiffCall) (c : Compared) : Run (Except OsError (List Octets)) := do
  match c with
  | .entry place e =>
    if !e.mode.mayRead then return .error .permissionDenied
    let names ← namesIn place
    return .ok (names.filter fun name =>
      !d.excluded.any (Pattern.matchesText · name) && d.start.all (Octets.le · name))
  | _ => return .ok []

/-- Compares what two names lead to. The fuel bounds the depth of directories. -/
def diffAt (d : DiffCall) : Nat → (inside : Bool) → Octets → Octets → Run Nat
  | 0, _, _, _ => return 2
  | fuel + 1, inside, left, right => do
    let mut found : List Compared := []
    let mut failed := false
    for name in [left, right] do
      match ← lookUp name with
      | .ok c => found := found ++ [c]
      | .error e =>
        complainAbout name e
        failed := true
    match found with
    | [a, b] =>
      let fills (missing other : Bool) (isLeft : Bool) : Bool :=
        missing && !other && (d.fillsBoth || (isLeft && d.fillsLeft))
      let fillsA := fills a.isMissing b.isMissing true
      let fillsB := fills b.isMissing a.isMissing false
      if (a.isMissing && !fillsA) || (b.isMissing && !fillsB) then
        for (name, c) in [(left, a), (right, b)] do
          if c.isMissing then complainAbout name .notFound
        return 2
      let sameFile := match a, b with
        | .input, .input => true
        | _, _ => a.place?.isSome && a.place? == b.place?
      if sameFile && (d.style.form != .beside || d.style.dropsCommon || a.isDirectory) then
        if d.tellsSame && !a.isDirectory then
          putLine ("Files ".toList ++ d.labels.getD 0 left ++ " and ".toList ++
            d.labels.getD 1 right ++ " are identical".toList)
        return 0
      let dirA := a.isDirectory || (fillsA && b.isDirectory)
      let dirB := b.isDirectory || (fillsB && a.isDirectory)
      if dirA && dirB then
        if inside && !d.recursive then
          putLine ("Common subdirectories: ".toList ++ left ++ " and ".toList ++ right)
          return 0
        match ← comparedNames d a, ← comparedNames d b with
        | .ok namesA, .ok namesB =>
          let names := (namesA ++ namesB.filter (!namesA.contains ·)).mergeSort Octets.le
          let mut result := 0
          for name in names do
            let only (directory : Octets) : Run Nat := do
              putLine ("Only in ".toList ++ directory ++ ": ".toList ++ name)
              return 1
            let here ← if !namesB.contains name && !d.fillsBoth then only left
              else if !namesA.contains name && !d.fillsBoth && !d.fillsLeft then only right
              else diffAt d fuel true (join left name) (join right name)
            result := max result here
          return result
        | namesA, namesB =>
          for (name, names) in [(left, namesA), (right, namesB)] do
            if let .error e := names then complainAbout name e
          return 2
      else if dirA || dirB then
        if inside then
          let (kindA, kindB) := (a.kind, b.kind)
          putLine ("File ".toList ++ left ++ " is a ".toList ++ kindA ++ " while file ".toList ++
            right ++ " is a ".toList ++ kindB)
          return 1
        else if left == ['-'] || right == ['-'] then
          complainOf "cannot compare '-' to a directory".toList
          return 2
        else if dirA then diffAt d fuel false (join left (lastName right)) right
        else diffAt d fuel false left (join right (lastName left))
      else
        let mut texts : List Octets := []
        for (name, filled) in [(left, fillsA), (right, fillsB)] do
          if filled then texts := texts ++ [[]]
          else match ← readWhole name with
            | .ok text => texts := texts ++ [text]
            | .error e => complainAbout name e
        match texts with
        | [x, y] => diffTexts d inside left right (!fillsA, !fillsB) x y
        | _ => return 2
    | _ => return 2

/-! ## Options -/

/-- The form that an option asks for. -/
def formOf? (key : String) : Option DiffForm :=
  match key with
  | "c" | "C" | "context" => some .context
  | "u" | "U" | "unified" => some .unified
  | "e" => some .edit
  | "f" => some .forwardEdit
  | "n" => some .numbered
  | "y" => some .beside
  | "normal" => some .plain
  | _ => none

def checkDiffOption (c : Choice) : Option Octets :=
  let number (what : String) : Option Octets :=
    if c.value.isNone || (Octets.digitsValue? c.text).isSome then none
    else some (("invalid " ++ what ++ " ").toList ++ quote c.text)
  match c.key with
  | "C" | "U" | "context" | "unified" => number "context length"
  | "W" => if Octets.digitsValue? c.text == some 0 then
      some ("invalid width ".toList ++ quote c.text) else number "width"
  | "tabsize" => number "tabsize"
  | "horizon-lines" => number "horizon length"
  | "color" =>
    if c.value.all fun text => ["never", "auto", "always"].contains (String.ofList text) then none
    else some ("invalid color ".toList ++ quote c.text)
  | _ => none

/-- Reads the expressions of an option. -/
def expressionsOf (texts : List Octets) : Except Octets (List (Regex Probe)) :=
  texts.mapM fun text => match Regex.read ⟨false, true, false⟩ text with
    | .ok e => .ok e.regex
    | .error fault => .error (text ++ ": ".toList ++ fault.message.toList)

/-- The words that are no operands, as a line. -/
def switchesOf (arguments operands : List Octets) : Octets :=
  let words := operands.foldl (fun (words : List Octets) word => words.erase word) arguments
  (words.filter (· != ['-', '-'])).flatMap (' ' :: ·)

/-- How the options say that differences are shown. -/
def styleOf (o : Called) (landmark : Option (Regex Probe)) : DiffStyle :=
  let number (key : String) : Option Nat := (o.value? key).bind Octets.digitsValue?
  let form := ((o.choices.filterMap fun c => formOf? c.key).head?).getD
    (if o.has "p" then .context else .plain)
  let sizes := (o.choices.filter fun c => ["c", "C", "context", "u", "U", "unified"].contains
    c.key).map fun c => (c.value.bind Octets.digitsValue?).getD 3
  let digits := (o.choices.filter fun c => c.key.all Char.isDigit).map (·.key)
  let old := Octets.digitsValue? (digits.flatMap String.toList)
  let explicit := o.choices.any fun c => c.value.isSome && (formOf? c.key).isSome
  let context := if sizes.isEmpty then 3 else sizes.foldl max 0
  { form
    context := match old with
      | some n => if !explicit || context < n then n else context
      | none => context
    expandsTabs := o.has "t", initialTab := o.has "T", tabSize := (number "tabsize").getD 8
    landmark, width := (number "W").getD 130, leftOnly := o.has "left-column"
    dropsCommon := o.has "suppress-common-lines", dropsBlanks := o.has "suppress-blank-empty" }

def diff (arguments : List Octets) : Run Nat :=
  withComparing "a,text b,ignore-space-change B,ignore-blank-lines c C= context? d,minimal e,ed
    E,ignore-tab-expansion f,forward-ed F,show-function-line= H,speed-large-files i,ignore-case
    I,ignore-matching-lines= L,label= n,rcs N,new-file p,show-c-function P,unidirectional-new-file
    q,brief r,recursive s,report-identical-files S,starting-file= t,expand-tabs T,initial-tab u U=
    unified? w,ignore-all-space W,width= x,exclude= y,side-by-side Z,ignore-trailing-space color?
    horizon-lines= left-column normal strip-trailing-cr suppress-blank-empty suppress-common-lines
    tabsize= 0 1 2 3 4 5 6 7 8 9" arguments (fun o => do
    let forms := o.choices.filterMap fun c => formOf? c.key
    if forms.any (some · != forms.head?) then
      return ← refuseCompare "conflicting output style options".toList
    if 2 < (o.values "L").length then
      complainOf "too many file label options".toList
      return 2
    let marks := o.values "F" ++ if o.has "p" then ["^[[:alpha:]$_]".toList] else []
    match expressionsOf (o.values "I"), expressionsOf (marks.drop (marks.length - 1)) with
    | .error why, _ | _, .error why =>
      complainOf why
      return 2
    | .ok ignored, .ok landmarks =>
      match o.operands with
      | [left, right] =>
        let d : DiffCall := {
          style := styleOf o landmarks.head?
          sense := {
            foldsCase := o.has "i", expandsTabs := o.has "E", dropsEnd := o.has "Z"
            joinsSpace := o.has "b", dropsSpace := o.has "w", dropsEmpty := o.has "B", ignored }
          recursive := o.has "r", fillsLeft := o.has "P", fillsBoth := o.has "N"
          brief := o.has "q", tellsSame := o.has "s", asText := o.has "a"
          dropsReturns := o.has "strip-trailing-cr", labels := o.values "L"
          excluded := (o.values "x").map fun text =>
            Pattern.ofGlyphs (text.map fun c => ⟨c, false⟩)
          start := o.value? "S", switches := switchesOf arguments o.operands }
        diffAt d 64 false left right
      | _ :: _ :: extra :: _ => refuseCompare ("extra operand ".toList ++ quote extra)
      | few => refuseCompare ("missing operand after ".toList ++
          quote (few.getLast?.getD (← process).name))) checkDiffOption

end NotebookKernel.Shell.Tool
