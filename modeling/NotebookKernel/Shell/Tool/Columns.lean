import NotebookKernel.Shell.Tool.Flow

/-! # Programs that count and measure lines

They pick fields and bytes, count, number, and fit lines to columns. -/

namespace NotebookKernel.Shell.Tool

open Run

/-! ## Picking -/

/-- A range of positions, which may have no end. -/
abbrev Range := Nat × Option Nat

/-- What is picked from lines. -/
inductive Picked where
  | bytes
  | fields

/-- A list of ranges that is being read. -/
structure RangeReading where
  start : Option Nat := none
  dash : Bool := false
  stop : Option Nat := none
  digits : Octets := []
  found : List Range := []

namespace RangeReading

/-- Ends a range. -/
def finish (numbered : String) (r : RangeReading) : Except Octets RangeReading :=
  let next (range : Range) : Except Octets RangeReading := .ok { found := range :: r.found }
  if r.dash then
    match r.start, r.stop with
    | none, none => .error "invalid range with no endpoint: -".toList
    | start, none => next (start.getD 1, none)
    | start, some stop =>
      if stop < start.getD 1 then .error "invalid decreasing range".toList
      else next (start.getD 1, some stop)
  else match r.start with
    | none | some 0 => .error numbered.toList
    | some n => next (n, some n)

end RangeReading

namespace Picked

def numbered : Picked → String
  | .bytes => "byte/character positions are numbered from 1"
  | .fields => "fields are numbered from 1"

/-- Reads ranges such as `1,3-5`. -/
def readRanges (p : Picked) (r : RangeReading) : Octets → Except Octets (List Range)
  | [] => (r.finish p.numbered).map (·.found.reverse)
  | c :: rest =>
    if c == '-' then
      if r.dash then .error (match p with
        | .bytes => "invalid byte or character range"
        | .fields => "invalid field range").toList
      else if r.start == some 0 then .error p.numbered.toList
      else readRanges p { r with dash := true, digits := [] } rest
    else if c == ',' || isBlank c then
      match r.finish p.numbered with
      | .ok r => readRanges p r rest
      | .error why => .error why
    else if c.isDigit then
      let add (n : Option Nat) : Option Nat := some (10 * n.getD 0 + (c.toNat - '0'.toNat))
      let r := if r.dash then { r with stop := add r.stop } else { r with start := add r.start }
      let r := { r with digits := r.digits ++ [c] }
      if maxWord ≤ ((if r.dash then r.stop else r.start).getD 0) then
        .error ((match p with
          | .bytes => "byte/character offset "
          | .fields => "field number ").toList ++
            quote (r.digits ++ rest.takeWhile Char.isDigit) ++ " is too large".toList)
      else readRanges p r rest
    else .error ((match p with
      | .bytes => "invalid byte/character position "
      | .fields => "invalid field value ").toList ++ quote (c :: rest))

end Picked

/-- Brings ranges into order and joins those that overlap. -/
def mergeRanges (ranges : List Range) : List Range :=
  let sorted := ranges.mergeSort fun a b => a.1 ≤ b.1
  sorted.foldr (fun (range : Range) (others : List Range) => absorb range others) []
where
  /-- Puts a range in front of others that do not start before it. -/
  absorb (range : Range) : List Range → List Range
    | [] => [range]
    | other :: rest =>
      if range.2.any (· < other.1) then range :: other :: rest
      else absorb (range.1, range.2.bind fun a => other.2.map (max a)) rest

/-- The positions outside of ranges that are in order. -/
def complementRanges (from' : Nat) : List Range → List Range
  | [] => [(from', none)]
  | (low, high) :: rest =>
    let before : List Range := if from' < low then [(from', some (low - 1))] else []
    match high with
    | none => before
    | some high => before ++ complementRanges (high + 1) rest

/-- The items at the positions of a range. -/
def inRange {α : Type} (items : List α) (r : Range) : List α :=
  let rest := items.drop (r.1 - 1)
  match r.2 with
  | none => rest
  | some high => rest.take (high + 1 - r.1)

/-- What is picked from a line, if the line counts at all. -/
def pickFrom (p : Picked) (ranges : List Range) (delimiter : Char) (output : Option Octets)
    (onlyDelimited : Bool) (line : Octets) : Option Octets :=
  match p with
  | .bytes => some (List.intercalate (output.getD [])
      ((ranges.map (inRange line)).filter (!·.isEmpty)))
  | .fields =>
    if !line.contains delimiter then if onlyDelimited then none else some line
    else
      let fields := Text.Chars.splitOn (· == delimiter) line
      some (List.intercalate (output.getD [delimiter]) (ranges.flatMap (inRange fields)))

def cut (arguments : List Octets) : Run Nat :=
  withOptions "b,bytes= c,characters= d,delimiter= f,fields= n complement s,only-delimited
    output-delimiter= z,zero-terminated" arguments
    (fun o => do
      let usage (why : Octets) : Run Nat := refuseCall ⟨why, true, 1⟩
      let lists := o.choices.filter fun c => ["b", "c", "f"].contains c.key
      match lists with
      | [] => usage "you must specify a list of bytes, characters, or fields".toList
      | _ :: _ :: _ => usage "only one list may be specified".toList
      | [list] =>
        let p : Picked := if list.key == "f" then .fields else .bytes
        if o.has "d" && list.key != "f" then
          return ← usage
            "an input delimiter may be specified only when operating on fields".toList
        if o.has "s" && list.key != "f" then
          return ← usage
            "suppressing non-delimited lines makes sense\n\tonly when operating on fields".toList
        match p.readRanges {} list.text with
        | .error why => usage why
        | .ok ranges =>
          let ranges := mergeRanges ranges
          let ranges := if o.has "complement" then complementRanges 1 ranges else ranges
          let delimiter := ((o.value? "d").map fun text => text.headD (Char.ofNat 0)).getD '\t'
          let output := (o.value? "output-delimiter").map fun text =>
            if text.isEmpty then [Char.ofNat 0] else text
          let stop := lineEnd (o.has "z")
          let fine ← eachFile (orInput o.operands) fun _ text =>
            put ((linesOf (o.has "z") text).flatMap fun line =>
              match pickFrom p ranges delimiter output (o.has "s") line with
              | some picked => picked ++ [stop]
              | none => [])
          return status fine)
    fun c =>
      if c.key == "d" && 1 < c.text.length then
        some ⟨"the delimiter must be a single character".toList, true, 1⟩
      else none

/-! ## Counting -/

/-- What is counted in a text. -/
structure Tally where
  lines : Nat := 0
  words : Nat := 0
  bytes : Nat := 0
  longest : Nat := 0

namespace Tally

/-- Counts on from some place. A word is a run without white space that can be seen. -/
def go (t : Tally) (inWord : Bool) (column : Nat) : Octets → Tally
  | [] => { t with longest := max t.longest column }
  | c :: rest =>
    let t := { t with bytes := t.bytes + 1 }
    if c == '\n' then
      go { t with lines := t.lines + 1, longest := max t.longest column } false 0 rest
    else if c == '\r' || c == '\x0c' then
      go { t with longest := max t.longest column } false 0 rest
    else if c == '\t' then go t false (column / 8 * 8 + 8) rest
    else if c == ' ' then go t false (column + 1) rest
    else if c == '\x0b' then go t false column rest
    else if isPrintable c then
      go { t with words := t.words + if inWord then 0 else 1 } true (column + 1) rest
    else go t inWord column rest

def ofText (text : Octets) : Tally := go {} false 0 text

def add (a b : Tally) : Tally :=
  ⟨a.lines + b.lines, a.words + b.words, a.bytes + b.bytes, max a.longest b.longest⟩

end Tally

def totalNames : List (List String) := [["auto"], ["always"], ["only"], ["never"]]

/-- The size of a file that counts are lined up by, unless what is read is no file. -/
def fileSize? (file : Octets) : Run (Except OsError (Option Nat)) := do
  let ofEntry (e : Entry) : Option Nat := match e with
    | .file content _ => some content.length
    | _ => none
  if file == ['-'] then
    match ← stream? 0 with
    | some (.file n) =>
      match ← openFile? n with
      | some f => return .ok (((← tree).get? f.place).bind ofEntry)
      | none => return .ok none
    | some _ => return .ok none
    | none => return .error .badDescriptor
  else return (← find file true).map fun found => ofEntry found.2

def wc (arguments : List Octets) : Run Nat :=
  withOptions "c,bytes m,chars l,lines L,max-line-length w,words files0-from= debug total=" arguments
    (fun o => do
      let plain := ["c", "m", "l", "L", "w"].all (!o.has ·)
      let columns : List (Tally → Nat) :=
        (if plain || o.has "l" then [Tally.lines] else []) ++
        (if plain || o.has "w" then [Tally.words] else []) ++
        (if o.has "m" then [Tally.bytes] else []) ++
        (if plain || o.has "c" then [Tally.bytes] else []) ++
        (if o.has "L" then [Tally.longest] else [])
      let mut files := orInput o.operands
      let mut fine := true
      let mut sized := true
      if let some list := o.value? "files0-from" then
        if !o.operands.isEmpty then return ← refuseBesideList (o.operands.headD []) 1
        let size ← fileSize? list
        sized := match size with
          | .ok (some _) => true
          | _ => false
        match ← readWhole list with
        | .error e =>
          complainAbout ("cannot open ".toList ++ quoteAlways list ++ " for reading".toList) e
          return 1
        | .ok text =>
          files := []
          for name in listedNames list text do
            match name with
            | .ok name => files := files ++ [name]
            | .error why =>
              complainOf why
              fine := false
      let unnamed := o.operands.isEmpty && !o.has "files0-from"
      let total := ((o.value? "total").bind (wordOf? totalNames)).getD "auto"
      let sizes ← files.mapM fileSize?
      let found := sizes.filterMap fun size => size.toOption
      let digits := (Octets.ofNat ((found.filterMap id).foldl (· + ·) 0)).length
      let headFails := match sizes.head? with
        | some (.error _) => unnamed
        | _ => false
      let width :=
        if total == "only" || (files.length == 1 && columns.length == 1) || headFails || !sized then 1
        else if found.any Option.isNone then max 7 digits else digits
      let row (t : Tally) (name : Octets) : Octets :=
        List.intercalate [' '] (columns.map fun f => padLeft width (Octets.ofNat (f t))) ++
          (if name.isEmpty then [] else ' ' :: name) ++ ['\n']
      let mut sum : Tally := {}
      for file in files do
        let t : Option Tally ← do
          match ← readWhole file with
          | .ok text => pure (some (Tally.ofText text))
          | .error e =>
            complainAbout (if file == ['-'] then
              (if unnamed then "'standard input'".toList else ['-'])
              else quoteName file) e
            fine := false
            pure (if e == .isADirectory || file == ['-'] then some {} else none)
        match t with
        | none => pure ()
        | some t =>
          sum := sum.add t
          if total != "only" then
            put (row t (if unnamed then []
              else if file.contains '\n' then quoteName file else file))
      if total == "always" || total == "only" || (total == "auto" && 1 < files.length) then
        put (row sum (if total == "only" then [] else "total".toList))
      return status fine)
    fun c =>
      if c.key == "total" && (wordOf? totalNames c.text).isNone then
        some (wrongWord c.text "--total" totalNames)
      else none

/-! ## Fitting -/

/-- The column behind a byte. -/
def columnAfter (bytes : Bool) (column : Nat) (c : Char) : Nat :=
  if bytes then column + 1
  else match c with
    | '\x08' => column - 1
    | '\r' => 0
    | '\t' => column / 8 * 8 + 8
    | _ => column + 1

/-- Breaks lines that are longer than a width, at the last blank if that is asked for. The line under
way is kept in reverse. The fuel bounds the number of steps. -/
def foldText (bytes spaces : Bool) (width : Nat) :
    Nat → (line : Octets) → (column : Nat) → Octets → Octets
  | 0, line, _, _ => line.reverse
  | _, line, _, [] => line.reverse
  | fuel + 1, line, column, c :: rest =>
    if c == '\n' then (c :: line).reverse ++ foldText bytes spaces width fuel [] 0 rest
    else
      let next := columnAfter bytes column c
      if next ≤ width then foldText bytes spaces width fuel (c :: line) next rest
      else
        let kept := line.takeWhile (!isBlank ·)
        if spaces && kept.length < line.length then
          let out := (line.drop kept.length).reverse ++ ['\n']
          let column := kept.reverse.foldl (columnAfter bytes) 0
          out ++ foldText bytes spaces width fuel kept column (c :: rest)
        else if line.isEmpty then foldText bytes spaces width fuel [c] next rest
        else line.reverse ++ '\n' :: foldText bytes spaces width fuel [] 0 (c :: rest)

/-- Reads counts that stand alone behind a dash, as values of an option. -/
def expandCount (option : Char) (arguments : List Octets) : List Octets :=
  arguments.flatMap fun a => match a with
    | '-' :: d :: more => if d.isDigit then [['-', option], d :: more] else [a]
    | a => [a]

def fold (arguments : List Octets) : Run Nat :=
  withOptions "b,bytes s,spaces w,width=" (expandCount 'w' arguments)
    (fun o => do
      let width := ((o.value? "w").map fun text => (Amount.ofText false text).get).getD 80
      let fine ← eachFile (orInput o.operands) fun _ text =>
        put (foldText (o.has "b") (o.has "s") width (3 * text.length + 1) [] 0 text)
      return status fine)
    fun c =>
      if c.key == "w" then
        ((Amount.ofText false c.text).atLeast 1).refusal? "invalid number of columns" c.text
      else none

/-- Where tabs lead: to places that are listed, and to multiples of a number behind them. -/
structure TabStops where
  places : List Nat := []
  every : Option Nat := none
  /-- Whether the multiples are counted from the last place that is listed. -/
  relative : Bool := false

/-- The first place behind a column, if tabs lead anywhere from there. -/
def TabStops.after? (t : TabStops) (column : Nat) : Option Nat :=
  match t.places.find? (column < ·) with
  | some place => some place
  | none =>
    t.every.map fun n =>
      let base := if t.relative then t.places.getLast?.getD 0 else 0
      base + ((column - base) / n + 1) * n

/-- Reads places of tabs. A single one is repeated. -/
def TabStops.read (text : Octets) : Except Octets TabStops := do
  let parts := (Text.Chars.splitOn (fun c => c == ',' || isBlank c) text).filter (!·.isEmpty)
  let mut stops : TabStops := {}
  for part in parts do
    let (sign, digits) := match part with
      | '/' :: digits => (some '/', digits)
      | '+' :: digits => (some '+', digits)
      | digits => (none, digits)
    match Octets.digitsValue? digits with
    | none =>
      throw ("tab size contains invalid character(s): ".toList ++
        quote (digits.dropWhile Char.isDigit))
    | some n =>
      if stops.every.isSome then
        if sign.isSome && (sign == some '+') != stops.relative then
          throw (if stops.relative then "'/' specifier is mutually exclusive with '+'"
            else "'+' specifier is mutually exclusive with '/'").toList
        throw ((if stops.relative then "'+'" else "'/'") ++
          " specifier only allowed with the last value").toList
      match sign with
      | some sign => stops := { stops with every := some n, relative := sign == '+' }
      | none =>
        if n == 0 then throw "tab size cannot be 0".toList
        if stops.places.getLast?.any (n ≤ ·) then throw "tab sizes must be ascending".toList
        stops := { stops with places := stops.places ++ [n] }
  match stops.places, stops.every with
  | [], none => return { every := some 8 }
  | [n], none => return { every := some n }
  | _, _ => return if stops.every == some 0 then { stops with every := none } else stops

/-- Puts blanks in the place of tabs. Only those in front of a line count, if that is asked for. -/
def expandTabs (t : TabStops) (initial : Bool) (column : Nat) (leading : Bool) : Octets → Octets
  | [] => []
  | c :: rest =>
    if c == '\n' then c :: expandTabs t initial 0 true rest
    else if initial && !leading then c :: expandTabs t initial column false rest
    else if c == '\t' then
      let next := (t.after? column).getD (column + 1)
      List.replicate (next - column) ' ' ++ expandTabs t initial next leading rest
    else
      let column := if c == '\x08' then column - 1 else column + 1
      c :: expandTabs t initial column (leading && isBlank c) rest

/-- Puts tabs in the place of blanks that lead to the same place. The blanks under way are pending,
with the column where they begin. -/
def unexpandTabs (t : TabStops) (all : Bool) :
    (column : Nat) → (pending : Octets) → (converts : Bool) → (previousBlank : Bool) → Octets → Octets
  | _, pending, _, _, [] => pending.reverse
  | column, pending, converts, previousBlank, c :: rest =>
    if c == '\n' then pending.reverse ++ c :: unexpandTabs t all 0 [] true true rest
    else if !converts then c :: unexpandTabs t all column [] false false rest
    else if isBlank c then
      match t.after? column with
      | none => pending.reverse ++ c :: unexpandTabs t all column [] false false rest
      | some place =>
        if c == '\t' then
          -- A lone blank in front of a tab is lost in it.
          unexpandTabs t all place ('\t' :: pending.dropWhile (· == ' ')) true true rest
        else if column + 1 == place then
          let run := pending.takeWhile (· == ' ')
          if run.isEmpty && !(previousBlank && column != 0) && !(rest.head?.any isBlank) then
            unexpandTabs t all place (c :: pending) true true rest
          else unexpandTabs t all place ('\t' :: pending.drop run.length) true true rest
        else unexpandTabs t all (column + 1) (c :: pending) true true rest
    else
      let column := if c == '\x08' then column - 1 else column + 1
      pending.reverse ++ c :: unexpandTabs t all column [] all false rest

def checkTabs (c : Choice) : Option Refusal :=
  if c.key == "t" then
    match TabStops.read c.text with
    | .ok _ => none
    | .error why => some ⟨why, false, 1⟩
  else none

/-- The places of tabs that options name. -/
def tabStops (o : Called) : TabStops :=
  let text := List.intercalate [','] (o.values "t")
  (TabStops.read text).toOption.getD { every := some 8 }

/-- Reads places of tabs that stand alone behind a dash. -/
def expandTabCount (arguments : List Octets) : List Octets := expandCount 't' arguments

def expand (arguments : List Octets) : Run Nat :=
  withOptions "i,initial t,tabs=" (expandTabCount arguments)
    (fun o => do
      let fine ← eachFile (orInput o.operands) fun _ text =>
        put (expandTabs (tabStops o) (o.has "i") 0 true text)
      return status fine)
    checkTabs

def unexpand (arguments : List Octets) : Run Nat :=
  withOptions "a,all first-only t,tabs=" (expandTabCount arguments)
    (fun o => do
      let all := (o.has "a" || o.has "t") && !o.has "first-only"
      let fine ← eachFile (orInput o.operands) fun _ text =>
        put (unexpandTabs (tabStops o) all 0 [] true true text)
      return status fine)
    checkTabs

end NotebookKernel.Shell.Tool
