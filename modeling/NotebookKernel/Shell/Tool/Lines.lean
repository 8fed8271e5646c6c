import NotebookKernel.Shell.Tool.Sort

/-! # Programs that compare lines

They look at neighbouring lines of one file, or at the lines of two files side by side. -/

namespace NotebookKernel.Shell.Tool

open Run

/-! ## Neighbours -/

/-- Neighbouring lines with the same key, together. -/
def groupsBy (key : Octets → Octets) : List Octets → List (List Octets)
  | [] => []
  | line :: rest =>
    match groupsBy key rest with
    | (other :: more) :: groups =>
      if key line == key other then (line :: other :: more) :: groups
      else [line] :: (other :: more) :: groups
    | groups => [line] :: groups

/-- What is compared of a line: not its first fields and bytes, and only so many bytes. -/
structure LineKey where
  fields : Nat := 0
  skipped : Nat := 0
  length : Option Nat := none
  foldsCase : Bool := false

def LineKey.text (k : LineKey) (line : Octets) : Octets :=
  let rest := (List.range (min k.fields line.length)).foldl
    (fun (rest : Octets) _ => (rest.dropWhile isBlank).dropWhile (!isBlank ·)) line
  let rest := rest.drop k.skipped
  let rest := match k.length with
    | some n => rest.take n
    | none => rest
  if k.foldsCase then rest.map Char.toUpper else rest

def repeatedNames : List (List String) := [["none"], ["prepend"], ["separate"]]

def groupNames : List (List String) := [["prepend"], ["append"], ["separate"], ["both"]]

def checkUniqOption (c : Choice) : Option Refusal :=
  let count (what : String) : Option Refusal := match Amount.ofText false c.text with
    | .invalid => some ⟨c.text ++ (": invalid number of " ++ what).toList, false, 1⟩
    | _ => none
  match c.key with
  | "f" => count "fields to skip"
  | "s" => count "bytes to skip"
  | "w" => count "bytes to compare"
  | "all-repeated" => if c.value.isSome && (wordOf? repeatedNames c.text).isNone then
      some (wrongWord c.text "--all-repeated" repeatedNames) else none
  | "group" => if c.value.isSome && (wordOf? groupNames c.text).isNone then
      some (wrongWord c.text "--group" groupNames) else none
  | _ => none

/-- Groups of lines with empty lines between them, and in front or behind if that is asked for. -/
def separateGroups (before after : Bool) (stop : Octets) (groups : List (List Octets)) : Octets :=
  let texts := groups.map fun lines => lines.flatMap (· ++ stop)
  if texts.isEmpty then []
  else (if before then stop else []) ++ List.intercalate stop texts ++ if after then stop else []

/-- Reads counts that stand alone behind a dash, as fields to skip. -/
def expandFieldCount (arguments : List Octets) : List Octets :=
  arguments.flatMap fun a => match a with
    | '-' :: d :: more => if (d :: more).all Char.isDigit then [['-', 'f'], d :: more] else [a]
    | '+' :: d :: more => if (d :: more).all Char.isDigit then [['-', 's'], d :: more] else [a]
    | a => [a]

def uniq (arguments : List Octets) : Run Nat :=
  withOptions "c,count D all-repeated? d,repeated f,skip-fields= group? i,ignore-case s,skip-chars=
    u,unique w,check-chars= z,zero-terminated" (expandFieldCount arguments)
    (fun o => do
      let all := o.has "D" || o.has "all-repeated"
      if o.has "group" && (o.has "c" || o.has "d" || all || o.has "u") then
        return ← refuseCall ⟨"--group is mutually exclusive with -c/-d/-D/-u".toList, true, 1⟩
      if all && o.has "c" then
        return ← refuseCall ⟨
          "printing all duplicated lines and repeat counts is meaningless".toList, true, 1⟩
      match o.operands with
      | _ :: _ :: extra :: _ => extraOperand extra
      | operands =>
        let number (key : String) : Option Nat :=
          (o.value? key).map fun text => (Amount.ofText false text).get
        let key : LineKey := {
          fields := (number "f").getD 0, skipped := (number "s").getD 0, length := number "w"
          foldsCase := o.has "i" }
        let zeros := o.has "z"
        let stop := [lineEnd zeros]
        let file := operands.headD ['-']
        match ← readWhole file with
        | .error e =>
          complainAbout (if e == .isADirectory || file == ['-'] then
            "error reading ".toList ++ quoteAlways file else quoteName file) e
          return 1
        | .ok text =>
          let groups := groupsBy key.text (linesOf zeros text)
          let groups := groups.filter fun lines =>
            !((o.has "d" || all) && lines.length == 1) && !(o.has "u" && 1 < lines.length)
          let method := ((o.last? ["all-repeated", "D"]).bind fun c =>
            c.value.bind (wordOf? repeatedNames)).getD "none"
          let grouping := ((o.value? "group").bind (wordOf? groupNames)).getD "separate"
          let out :=
            if o.has "group" then
              separateGroups (grouping == "prepend" || grouping == "both")
                (grouping == "append" || grouping == "both") stop groups
            else if all then
              if method == "none" then groups.flatten.flatMap (· ++ stop)
              else separateGroups (method == "prepend") false stop groups
            else groups.flatMap fun lines =>
              (if o.has "c" then padLeft 7 (Octets.ofNat lines.length) ++ [' '] else []) ++
                lines.headD [] ++ stop
          match operands[1]? with
          | none => put out
          | some ['-'] => put out
          | some file =>
            match ← fill file false out with
            | .ok () => pure ()
            | .error e =>
              complainAbout (quoteName file) e
              return 1
          return 0)
    checkUniqOption

/-! ## Two files side by side -/

/-- A file that is gone through line by line, to tell whether its lines are in order. -/
structure Column where
  number : Nat
  /-- The last lines that were read, the last one first. -/
  seen : List Octets := []
  rest : List Octets
  /-- Whether it was said that the lines are not in order. -/
  told : Bool := false

/-- Which of the columns are shown, and how the lines are told apart. -/
structure Merging where
  shown : List Bool
  separator : Octets
  stop : Octets
  /-- Whether the order is looked at always, never, or once a line had no partner. -/
  checks : Option Bool

/-- How far a comparison has come. -/
structure MergeState where
  left : Column
  right : Column
  unpaired : Bool := false
  counts : List Nat := [0, 0, 0]

/-- Compares the last two lines of a column. Disorder is told once, and may end the program. -/
def checkColumn (m : Merging) (unpaired : Bool) (c : Column) : Run (Column × Bool) := do
  match c.seen with
  | last :: previous :: _ =>
    if m.checks.getD unpaired && !c.told && Order.bytes previous last == .gt then
      complainOf ("file ".toList ++ Octets.ofNat c.number ++ " is not in sorted order".toList)
      return ({ c with told := true }, m.checks == some true)
    return (c, false)
  | _ => return (c, false)

/-- Goes on to the next line of a column. -/
def nextLine (c : Column) : Column :=
  match c.rest with
  | line :: rest => { c with seen := line :: c.seen.take 1, rest }
  | [] => c

/-- A line in its column. -/
def Merging.line (m : Merging) (column : Nat) (text : Octets) : Octets :=
  if m.shown.getD column true then
    ((m.shown.take column).filter id).flatMap (fun _ => m.separator) ++ text ++ m.stop
  else []

/-- Goes through two files at once, up to their ends or to disorder that ends the program. The fuel
bounds the number of lines. -/
def mergeColumns (m : Merging) (left right : Option Octets) :
    Nat → MergeState → Run (MergeState × Bool)
  | 0, s => return (s, false)
  | fuel + 1, s => do
    let order : Option Ordering := match left, right with
      | none, none => none
      | some _, none => some .lt
      | none, some _ => some .gt
      | some a, some b => some (Order.bytes a b)
    match order with
    | none => return (s, false)
    | some order =>
      let column := match order with
        | .lt => 0
        | .gt => 1
        | .eq => 2
      let text := ((if order == .gt then right else left).getD [])
      put (m.line column text)
      let s := { s with
        unpaired := s.unpaired || order != .eq
        counts := s.counts.modify column (· + 1) }
      let step (c : Column) (line : Option Octets) (moves : Bool) :
          Run (Column × Option Octets × Bool) := do
        if !moves then return (c, line, false)
        let next := nextLine c
        let (checked, ended) ← checkColumn m s.unpaired next
        return (checked, c.rest.head?, ended)
      let (l, left, ended) ← step s.left left (order != .gt)
      if ended then return (s, true)
      let (r, right, ended) ← step s.right right (order != .lt)
      if ended then return (s, true)
      mergeColumns m left right fuel { s with left := l, right := r }

def comm (arguments : List Octets) : Run Nat :=
  withOptions "1 2 3 check-order nocheck-order output-delimiter= total z,zero-terminated" arguments
    fun o => do
      match o.operands with
      | [] => missingOperand
      | [only] => missingOperandAfter only
      | _ :: _ :: extra :: _ => extraOperand extra
      | [a, b] =>
        let zeros := o.has "z"
        let read (file : Octets) : Run (Option (List Octets)) := do
          match ← readWhole file with
          | .ok text => return some (linesOf zeros text)
          | .error e =>
            complainAbout (quoteName file) e
            return none
        match ← read a with
        | none => return 1
        | some left =>
          match ← read b with
          | none => return 1
          | some right =>
            let separator := (o.value? "output-delimiter").getD ['\t']
            let m : Merging := {
              shown := ["1", "2", "3"].map (!o.has ·)
              separator := if separator.isEmpty then [Char.ofNat 0] else separator
              stop := [lineEnd zeros]
              checks := (o.last? ["check-order", "nocheck-order"]).map (·.key == "check-order") }
            let start (number : Nat) (lines : List Octets) : Column :=
              { number, seen := lines.take 1, rest := lines.tail }
            let (s, ended) ← mergeColumns m left.head? right.head? (left.length + right.length + 1)
              { left := start 1 left, right := start 2 right }
            if ended then return 1
            if o.has "total" then
              put (List.intercalate m.separator (s.counts.map Octets.ofNat) ++ m.separator ++
                "total".toList ++ m.stop)
            if s.left.told || s.right.told then
              complainOf "input is not in sorted order".toList
              return 1
            return 0

/-! ## Joining -/

/-- A part of a line that is put out: the key, or a field of one of the files. -/
inductive JoinPart where
  | key
  | field (right : Bool) (index : Nat)

/-- How the lines of two files are joined. -/
structure Joining where
  keys : Nat × Nat
  separator : Option Char
  foldsCase : Bool
  parts : Option (List JoinPart)
  /-- Whether all lines have the parts of the first. -/
  automatic : Bool
  empty : Octets
  /-- Whether lines without a partner are shown, for each of the files. -/
  unpaired : Bool × Bool
  paired : Bool
  checks : Option Bool
  stop : Char

namespace Joining

def fields (j : Joining) (line : Octets) : List Octets :=
  match j.separator with
  | some c => if line.isEmpty then [] else Text.Chars.splitOn (· == c) line
  | none => (Text.Chars.splitOn isBlank line).filter (!·.isEmpty)

def compare (j : Joining) (a b : List Octets) : Ordering :=
  let prepare (fields : List Octets) (n : Nat) : Octets :=
    let key := fields.getD n []
    if j.foldsCase then key.map Char.toLower else key
  Order.bytes (prepare a j.keys.1) (prepare b j.keys.2)

/-- The order of two lines of one file. -/
def compareIn (j : Joining) (right : Bool) (a b : List Octets) : Ordering :=
  let n := if right then j.keys.2 else j.keys.1
  { j with keys := (n, n) }.compare a b

def without (n : Nat) (fields : List Octets) : List Octets := fields.eraseIdx n

/-- A joined line, of which one half may be missing. -/
def line (j : Joining) (left right : Option (List Octets)) : Octets :=
  let separator := [j.separator.getD ' ']
  let key := match left, right with
    | some fields, _ => fields.getD j.keys.1 []
    | none, some fields => fields.getD j.keys.2 []
    | none, none => []
  let orEmpty (text : Octets) : Octets := if text.isEmpty then j.empty else text
  let texts : List Octets := match j.parts with
    | some parts => parts.map fun part => match part with
      | .key => orEmpty key
      | .field isRight n => orEmpty (((if isRight then right else left).getD []).getD n [])
    | none =>
      orEmpty key :: (((left.map (without j.keys.1)).getD []) ++
        ((right.map (without j.keys.2)).getD [])).map orEmpty
  List.intercalate separator texts ++ [j.stop]

end Joining

/-- A file that is joined with another. -/
structure JoinSide where
  name : Octets
  right : Bool
  /-- How many lines came before the present one. -/
  number : Nat := 0
  lines : List (Octets × List Octets)
  told : Bool := false

/-- Goes on to the next line. That it is out of order is told once. -/
def JoinSide.next (j : Joining) (unpaired : Bool) (s : JoinSide) : Run (JoinSide × Bool) := do
  match s.lines with
  | (_, previous) :: (text, fields) :: rest =>
    let s' := { s with lines := (text, fields) :: rest, number := s.number + 1 }
    if j.checks.getD unpaired && !s.told && j.compareIn s.right previous fields == .gt then
      complainOf (s.name ++ ':' :: Octets.ofNat (s.number + 2) ++ ": is not sorted: ".toList ++ text)
      return ({ s' with told := true }, j.checks == some true)
    return (s', false)
  | _ => return ({ s with lines := [], number := s.number + 1 }, false)

/-- Passes over the lines with the key of the present one, and gives them. -/
def JoinSide.block (j : Joining) (unpaired : Bool) (fields : List Octets) :
    Nat → JoinSide → List (List Octets) → Run (List (List Octets) × JoinSide × Bool)
  | 0, s, found => return (found.reverse, s, false)
  | fuel + 1, s, found => do
    match s.lines with
    | [] => return (found.reverse, s, false)
    | (_, line) :: _ =>
      if j.compareIn s.right fields line != .eq then return (found.reverse, s, false)
      let (s, ended) ← s.next j unpaired
      if ended then return (found.reverse, s, true)
      JoinSide.block j unpaired fields fuel s (line :: found)

/-- Joins the lines of two files with equal keys. The fuel bounds the number of lines. -/
def joinSides (j : Joining) : Nat → Bool → JoinSide → JoinSide → Run (Option (JoinSide × JoinSide))
  | 0, _, a, b => return some (a, b)
  | fuel + 1, unpaired, a, b => do
    match a.lines, b.lines with
    | [], [] => return some (a, b)
    | (_, left) :: _, [] =>
      if j.unpaired.1 then put (j.line (some left) none)
      let (a, ended) ← a.next j unpaired
      if ended then return none
      joinSides j fuel unpaired a b
    | [], (_, right) :: _ =>
      if j.unpaired.2 then put (j.line none (some right))
      let (b, ended) ← b.next j unpaired
      if ended then return none
      joinSides j fuel unpaired a b
    | (_, left) :: _, (_, right) :: _ =>
      match j.compare left right with
      | .lt =>
        if j.unpaired.1 then put (j.line (some left) none)
        let (a, ended) ← a.next j unpaired
        if ended then return none
        joinSides j fuel true a b
      | .gt =>
        if j.unpaired.2 then put (j.line none (some right))
        let (b, ended) ← b.next j unpaired
        if ended then return none
        joinSides j fuel true a b
      | .eq =>
        let (lefts, a, ended) ← JoinSide.block j unpaired left (a.lines.length + 1) a []
        if ended then return none
        let (rights, b, ended) ← JoinSide.block j unpaired right (b.lines.length + 1) b []
        if ended then return none
        if j.paired then
          put (lefts.flatMap fun l => rights.flatMap fun r => j.line (some l) (some r))
        joinSides j fuel unpaired a b

/-- Reads a field such as `1.2`, or a zero for the key. -/
def readJoinPart (text : Octets) : Except Octets JoinPart :=
  match text with
  | ['0'] => .ok .key
  | '0' :: _ => .error ("invalid field specifier: ".toList ++ quote text)
  | c :: '.' :: digits =>
    if c != '1' && c != '2' then .error ("invalid file number in field spec: ".toList ++ quote text)
    else match Octets.digitsValue? digits with
      | some (n + 1) => .ok (.field (c == '2') n)
      | _ => .error ("invalid field number: ".toList ++ quote digits)
  | c :: _ =>
    if c == '1' || c == '2' then .error ("invalid field specifier: ".toList ++ quote text)
    else .error ("invalid file number in field spec: ".toList ++ quote text)
  | [] => .error "invalid file number in field spec: ''".toList

/-- Reads the parts of a list, between blanks or commas. -/
def readJoinParts (text : Octets) : Except Octets (List JoinPart) :=
  (Text.Chars.splitOn (fun c => c == ',' || isBlank c) text).mapM readJoinPart

def checkJoinOption (c : Choice) : Option Refusal :=
  match c.key with
  | "j" | "1" | "2" =>
    match Octets.digitsValue? c.text with
    | some (_ + 1) => none
    | _ => some ⟨"invalid field number: ".toList ++ quote c.text, false, 1⟩
  | "a" | "v" =>
    if c.text == ['1'] || c.text == ['2'] then none
    else some ⟨"invalid field number: ".toList ++ quote c.text, false, 1⟩
  | "o" =>
    if c.text == "auto".toList then none
    else match readJoinParts c.text with
      | .ok _ => none
      | .error why => some ⟨why, false, 1⟩
  | "t" =>
    if c.text.length < 2 || c.text == ['\\', '0'] then none
    else some ⟨"multi-character tab ".toList ++ quote c.text, false, 1⟩
  | _ => none

def joinFiles (arguments : List Octets) : Run Nat :=
  withOptions "a= e= i,ignore-case j= o= t= v= 1= 2= check-order nocheck-order header
    z,zero-terminated" arguments (fun o => do
      match o.operands with
      | [] => missingOperand
      | [only] => missingOperandAfter only
      | _ :: _ :: extra :: _ => extraOperand extra
      | [fileA, fileB] =>
        let key (option : String) : Nat :=
          (((o.last? [option, "j"]).bind fun c => Octets.digitsValue? c.text).getD 1) - 1
        let separator : Option Char := (o.value? "t").map fun text => match text with
          | [] => '\n'
          | ['\\', '0'] => Char.ofNat 0
          | c :: _ => c
        let asked (side : Octets) : Bool := (o.values "a" ++ o.values "v").contains side
        let given := (o.values "o").filter (· != "auto".toList)
        let parts := given.flatMap fun text => (readJoinParts text).toOption.getD []
        let j : Joining := {
          keys := (key "1", key "2"), separator, foldsCase := o.has "i"
          parts := if given.isEmpty then none else some parts
          automatic := (o.values "o").contains "auto".toList
          empty := (o.value? "e").getD []
          unpaired := (asked ['1'], asked ['2'])
          paired := !o.has "v"
          checks := (o.last? ["check-order", "nocheck-order"]).map (·.key == "check-order")
          stop := lineEnd (o.has "z") }
        let read (file : Octets) : Run (Option (List (Octets × List Octets))) := do
          match ← readWhole file with
          | .ok text => return some ((linesOf (o.has "z") text).map fun line => (line, j.fields line))
          | .error e =>
            complainAbout (if e == .isADirectory || e == .badDescriptor then "read error".toList
              else quoteName file) e
            return none
        match ← read fileA with
        | none => return 1
        | some left =>
          match ← read fileB with
          | none => return 1
          | some right =>
            let j := if !j.automatic then j else
              let fieldsOf (lines : List (Octets × List Octets)) : Nat :=
                ((lines.head?.map (·.2)).getD []).length
              let others (isRight : Bool) (n skip : Nat) : List JoinPart :=
                ((List.range n).filter (· != skip)).map (JoinPart.field isRight)
              { j with parts := some (.key :: others false (fieldsOf left) j.keys.1 ++
                others true (fieldsOf right) j.keys.2) }
            let (left, right, skipped) ← if o.has "header" && (!left.isEmpty || !right.isEmpty) then do
                put (j.line (left.head?.map (·.2)) (right.head?.map (·.2)))
                pure (left.tail, right.tail, 1)
              else pure (left, right, 0)
            match ← joinSides j (left.length + right.length + 1) false
                { name := fileA, right := false, number := skipped, lines := left }
                { name := fileB, right := true, number := skipped, lines := right } with
            | none => return 1
            | some (a, b) =>
              if a.told || b.told then
                complainOf "input is not in sorted order".toList
                return 1
              return 0)
    checkJoinOption

/-! ## Pasting -/

/-- The separators that a text lists, each of which may be missing. A backslash at the end is an
error. -/
def pasteSeparators : Octets → Option (List Octets)
  | [] => some []
  | ['\\'] => none
  | '\\' :: c :: rest =>
    let separator := match c with
      | '0' => []
      | 'b' => ['\x08']
      | 'f' => ['\x0c']
      | 'n' => ['\n']
      | 'r' => ['\r']
      | 't' => ['\t']
      | 'v' => ['\x0b']
      | c => [c]
    (pasteSeparators rest).map (separator :: ·)
  | c :: rest => (pasteSeparators rest).map ([c] :: ·)

/-- Joins texts with separators that are taken in turn. -/
def joinInTurn (separators : List Octets) (n : Nat) : List Octets → Octets
  | [] => []
  | [text] => text
  | text :: rest =>
    text ++ separators.getD (n % separators.length) [] ++ joinInTurn separators (n + 1) rest

/-- Rows across lists of lines of different lengths. The fuel bounds the longest. -/
def rowsAcross : Nat → List (List Octets) → List (List Octets)
  | 0, _ => []
  | fuel + 1, columns =>
    if columns.all List.isEmpty then []
    else columns.map (·.headD []) :: rowsAcross fuel (columns.map List.tail)

def paste (arguments : List Octets) : Run Nat :=
  withOptions "d,delimiters= s,serial z,zero-terminated" arguments fun o => do
    let list := (o.value? "d").getD ['\t']
    match pasteSeparators list with
    | none =>
      refuseCall ⟨"delimiter list ends with an unescaped backslash: ".toList ++ list,
        false, 1⟩
    | some separators =>
      let separators := if separators.isEmpty then [[]] else separators
      let stop := lineEnd (o.has "z")
      let mut fine := true
      let mut columns : List (List Octets) := []
      let dashes := (orInput o.operands).filter (· == ['-'])
      for file in orInput o.operands do
        -- Several dashes share the lines of the standard input.
        if file == ['-'] && 1 < dashes.length && !o.has "s" then columns := columns ++ [[]]
        else match ← readWhole file with
          | .ok text => columns := columns ++ [linesOf (o.has "z") text]
          | .error e =>
            complainAbout (quoteName file) e
            if !o.has "s" then return 1
            fine := false
      if o.has "s" then
        put (columns.flatMap fun lines => joinInTurn separators 0 lines ++ [stop])
      else
        let filled ← if dashes.length < 2 then pure columns else do
          let lines := match ← readWhole ['-'] with
            | .ok text => linesOf (o.has "z") text
            | .error _ => []
          let places := ((orInput o.operands).zipIdx.filter (·.1 == ['-'])).map (·.2)
          pure (columns.zipIdx.map fun (column, n) => match places.idxOf? n with
            | none => column
            | some k => (lines.zipIdx.filter fun (_, i) => i % places.length == k).map (·.1))
        let longest := filled.foldl (fun n lines => max n lines.length) 0
        put ((rowsAcross longest filled).flatMap fun row => joinInTurn separators 0 row ++ [stop])
      return status fine

end NotebookKernel.Shell.Tool
