import NotebookKernel.Shell.Tool.Expr
import NotebookKernel.Shell.Tool.Words

/-! # Programs that run other programs

They prepare arguments, the environment or the time that another program is given. What runs it is
handed to them. -/

namespace NotebookKernel.Shell.Tool

open Run

/-! ## Arguments from the input -/

/-- A word of the input, and whether its line ends with it. -/
structure InputWord where
  text : Octets
  endsLine : Bool

/-- What the words of the input are, up to a quote that is never closed. -/
structure InputWords where
  words : List InputWord := []
  openQuote : Option Char := none

def InputWords.cons (word : InputWord) (w : InputWords) : InputWords :=
  { w with words := word :: w.words }

/-- Where in a word the reading is. -/
inductive WordState where
  | outside
  | inside
  | quoted (mark : Char)
  | escaped

/-- Splits the input into words, or only into lines. Quotes and backslashes keep blanks together. The
word under way is kept in reverse, and may be there even if it is empty. -/
def inputWords (byLine : Bool) (state : WordState) (seen : Bool) (word : Octets) :
    Octets → InputWords
  | [] =>
    let last : List InputWord := if word.isEmpty && !seen then [] else [⟨word.reverse, true⟩]
    match state with
    | .quoted mark => { openQuote := some mark }
    | _ => { words := last }
  | c :: rest =>
    let blank := c == ' ' || c == '\t'
    let inside (seen : Bool) (word : Octets) := inputWords byLine .inside seen word rest
    let start : InputWords :=
      if c == '\n' then
        if word.isEmpty && !seen then inputWords byLine .outside false [] rest
        else (inputWords byLine .outside false [] rest).cons ⟨word.reverse, true⟩
      else if blank && !byLine then
        (inputWords byLine .outside false [] rest).cons ⟨word.reverse, false⟩
      else if c == '\\' then inputWords byLine .escaped true word rest
      else if c == '\'' || c == '"' then inputWords byLine (.quoted c) true word rest
      else inside true (c :: word)
    match state with
    | .outside => if isSpace c then inputWords byLine .outside false [] rest else start
    | .inside => start
    | .quoted mark =>
      if c == '\n' then { openQuote := some mark }
      else if c == mark then inside true word
      else inputWords byLine (.quoted mark) true (c :: word) rest
    | .escaped => inside true (c :: word)

/-- How words are handed to a program. -/
structure Handing where
  command : List Octets
  /-- What is replaced by a line of the input. -/
  place : Option Octets
  maxWords : Option Nat
  maxLines : Option Nat
  maxLength : Nat
  tells : Bool
  exact : Bool

/-- Puts a text in the place of another. The fuel bounds the length. -/
def replaceAll (old new : Octets) : Nat → Octets → Octets
  | 0, text => text
  | _, [] => []
  | fuel + 1, c :: rest =>
    if !old.isEmpty && old.isPrefixOf (c :: rest) then
      new ++ replaceAll old new fuel ((c :: rest).drop old.length)
    else c :: replaceAll old new fuel rest

/-- Divides words into groups for single calls, unless one word alone is too long. -/
def callGroups (h : Handing) (group : List Octets) (lines length : Nat) :
    List InputWord → List (List Octets) × Bool
  | [] => (if group.isEmpty then [] else [group.reverse], false)
  | word :: rest =>
    let size := word.text.length + 1
    let base := (h.command.map (·.length + 1)).foldl (· + ·) 0
    if h.maxLength < base + size then
      (if group.isEmpty then [] else [group.reverse], true)
    else
      let isFull := h.maxWords.any (· ≤ group.length) || h.maxLines.any (· ≤ lines) ||
        h.maxLength < base + length + size
      let (group, lines, length, done) :=
        if isFull then (([] : List Octets), 0, 0, [group.reverse]) else (group, lines, length, [])
      let (more, long) := callGroups h (word.text :: group)
        (if word.endsLine then lines + 1 else lines) (length + size) rest
      (done.filter (!·.isEmpty) ++ more, long)

/-- Calls a program, and says with what status to stop, if that is so, or whether it failed. -/
def callOnce (runner : Runner) (h : Handing) (words : List Octets) : Run (Except Nat Bool) := do
  if h.tells then complain (List.intercalate [' '] (words.map quoteIfNeeded))
  let name := words.headD []
  match ← runner words with
  | .error e =>
    complainAbout (quoteName name) e
    return .error (if e == .notFound then 127 else 126)
  | .ok (.exited 0) => return .ok true
  | .ok (.exited 255) =>
    complainOf (name ++ ": exited with status 255; aborting".toList)
    return .error 124
  | .ok (.exited _) => return .ok false
  | .ok (.killed signal) =>
    complainOf (name ++ ": terminated by signal ".toList ++ Octets.ofNat signal)
    return .error 125

/-- The byte that separates words, as an option names it. -/
def wordDelimiter? (text : Octets) : Option Char :=
  match text with
  | [c] => some c
  | '\\' :: rest =>
    match rest with
    | 'x' :: digits => (Octets.digitsValue? digits).map fun _ =>
        Char.ofNat (digits.foldl (fun n c => 16 * n + (c.toNat - '0'.toNat)) 0)
    | [_] =>
      let (c, after) := Escape.read rest
      if after.isEmpty then some c else none
    | rest =>
      let (c, after) := Escape.read rest
      if after.isEmpty && rest.all Char.isDigit then some c else none
  | _ => none

def checkXargsOption (c : Choice) : Option Refusal :=
  let number (least : Nat) : Option Refusal :=
    match Octets.digitsValue? c.text with
    | none => some ⟨"invalid number \"".toList ++ c.text ++ "\" for -".toList ++ c.key.toList ++
        " option".toList, true, 1⟩
    | some n =>
      if n < least then some ⟨"value ".toList ++ c.text ++ " for -".toList ++ c.key.toList ++
        " option should be >= ".toList ++ Octets.ofNat least, true, 1⟩
      else none
  match c.key with
  | "n" | "L" | "s" => number 1
  | "P" => number 0
  | "l" => if c.value.isSome then number 1 else none
  | "d" =>
    if (wordDelimiter? c.text).isSome then none
    else some ⟨"Invalid input delimiter specification ".toList ++ c.text ++
      ": the delimiter must be either a single character or an escape sequence starting with \\.".toList,
      false, 1⟩
  | _ => none

/-- How the input is divided, as the options say one after another. Those that exclude each other are
warned about. -/
structure Division where
  place : Option Octets := none
  maxWords : Option Nat := none
  maxLines : Option Nat := none
  warnings : List String := []

namespace Division

/-- Gives up what an option before this one asked for. -/
def giveUp (d : Division) (given : Bool) (former latter : String) : Division :=
  if given then { d with warnings := d.warnings ++ [Text.concat ["warning: options ", former, " and ",
    latter, " are mutually exclusive, ignoring previous ", former, " value"]] }
  else d

def choose (d : Division) (c : Choice) : Division :=
  let n := (Octets.digitsValue? c.text).getD 1
  match c.key with
  | "I" | "i" =>
    let name := "--replace/-I/-i"
    let d := d.giveUp d.maxWords.isSome "--max-args" name
    let d := d.giveUp d.maxLines.isSome "--max-lines" name
    { d with place := some (c.value.getD "\x7b\x7d".toList), maxWords := none, maxLines := none }
  | "n" =>
    if n == 1 && d.place.isSome then { d with maxWords := none }
    else
      let name := "--max-args/-n"
      let d := d.giveUp d.maxLines.isSome "--max-lines" name
      let d := d.giveUp d.place.isSome "--replace" name
      { d with maxWords := some n, maxLines := none, place := none }
  | "L" | "l" =>
    let name := if c.key == "L" then "-L" else "--max-lines/-l"
    let d := d.giveUp d.maxWords.isSome "--max-args" name
    let d := d.giveUp d.place.isSome "--replace" name
    { d with maxLines := some n, maxWords := none, place := none }
  | _ => d

end Division

def xargs (runner : Runner) (arguments : List Octets) : Run Nat :=
  withOptions "0,null a,arg-file= d,delimiter= e,eof? E= I= i,replace? L= l,max-lines? n,max-args=
    o,open-tty P,max-procs= p,interactive process-slot-var= r,no-run-if-empty s,max-chars=
    show-limits t,verbose x,exit" arguments
    (fun o => do
      let d := o.choices.foldl Division.choose {}
      for w in d.warnings do complainOf w.toList
      let input ← readWhole ((o.value? "a").getD ['-'])
      match input with
      | .error e =>
        match o.value? "a" with
        | some file =>
          complainAbout ("Cannot open input file ".toList ++ quoteAlways file) e
          return 1
        | none => return 0
      | .ok text =>
        let command := if o.operands.isEmpty then ["echo".toList] else o.operands
        let limit : Option Nat := (o.value? "s").bind Octets.digitsValue?
        let h : Handing := {
          command, place := d.place
          maxWords := if d.place.isSome then some 1 else d.maxWords
          maxLines := d.maxLines, maxLength := limit.getD 131072, tells := o.has "t"
          exact := o.has "x" }
        if h.maxLength < (command.map (·.length + 1)).foldl (· + ·) 0 then
          complainOf "cannot fit single argument within argument list size limit".toList
          return 1
        let place := d.place
        let delimiter : Option Char := (o.last? ["0", "d"]).bind fun c =>
          if c.key == "0" then some (Char.ofNat 0) else wordDelimiter? c.text
        let read : InputWords := match delimiter with
          | some d =>
            let parts := Text.Chars.splitOn (· == d) text
            let parts := if parts.getLast? == some [] then parts.dropLast else parts
            { words := parts.map (⟨·, true⟩) }
          | none => inputWords place.isSome .outside false [] text
        let ending := (o.last? ["E", "e"]).bind (·.value)
        let words := match ending, delimiter with
          | some stop, none => read.words.takeWhile fun w => w.text != stop
          | _, _ => read.words
        let (groups, long) := callGroups h [] 0 0 words
        let groups := if groups.isEmpty && !long && !o.has "r" && place.isNone && read.openQuote.isNone
          then [[]] else groups
        if !o.has "a" then setStream 0 (some (.device .null))
        let mut failed := false
        for group in groups do
          let call := match place with
            | some old => command.map fun word =>
                replaceAll old (group.headD []) (word.length + 1) word
            | none => command ++ group
          if o.has "p" then
            let _ ← write 2 (List.intercalate [' '] (call.map quoteIfNeeded))
            complainOf "failed to open /dev/tty for reading: No such device or address".toList
            return 1
          match ← callOnce runner h call with
          | .error status => return status
          | .ok fine => if !fine then failed := true
        if let some mark := read.openQuote then
          complainOf ((if mark == '"' then "unmatched double" else "unmatched single") ++
            " quote; by default quotes are special to xargs unless you use the -0 option").toList
          return 1
        if long then
          complainOf "argument line too long".toList
          return 1
        return if failed then 123 else 0)
    checkXargsOption true

/-! ## Time -/

/-- The number of a signal, by number or name. -/
def signalNumber? (text : Octets) : Option Nat :=
  let names := ["HUP", "INT", "QUIT", "ILL", "TRAP", "ABRT", "BUS", "FPE", "KILL", "USR1", "SEGV",
    "USR2", "PIPE", "ALRM", "TERM"]
  let bare := text.map Char.toUpper
  let bare := if "SIG".toList.isPrefixOf bare then bare.drop 3 else bare
  match Octets.digitsValue? text with
  | some n => if n < 65 then some n else none
  | none => (names.idxOf? (String.ofList bare)).map (· + 1)

/-- Runs a program in the place of this one, or complains that there is none. -/
def runInstead (runner : Runner) (words : List Octets) (wording : Octets → Octets) : Run Nat := do
  match ← runner words with
  | .ok (.exited status) => return status
  | .ok (.killed signal) => throw (.killed signal)
  | .error e =>
    complainAbout (wording (quoteAlways (words.headD []))) e
    return if e == .notFound then 127 else 126

def failedToRun (name : Octets) : Octets := "failed to run command ".toList ++ name

/-- Runs a program for no longer than some time. -/
def timeout (runner : Runner) (arguments : List Octets) : Run Nat :=
  withOptions "f,foreground k,kill-after= p,preserve-status s,signal= v,verbose" arguments (fun o => do
    match o.operands with
    | [] | [_] => do
      hint
      return 125
    | limit :: words =>
      match duration? limit with
      | none => refuseCall ⟨"invalid time interval ".toList ++ quote limit, true, 125⟩
      | some nanos =>
        let signal := ((o.value? "s").bind signalNumber?).getD 15
        let w ← world
        let ends := (← now) + nanos
        if nanos == 0 || w.deadline ≤ ends then
          return ← runInstead runner words failedToRun
        let saved ← process
        modifyWorld fun w => { w with deadline := ends }
        let result ← tryCatch (some <$> runInstead runner words failedToRun) fun
          | .overdue => return none
          | stop => do
            modifyWorld fun v => { v with deadline := w.deadline }
            throw stop
        modifyWorld fun v => { v with deadline := w.deadline }
        match result with
        | some status => return status
        | none =>
          modifyProcess fun _ => saved
          setClock ends
          if o.has "v" then
            complainOf ("sending signal ".toList ++ (if signal == 9 then "KILL" else
              if signal == 15 then "TERM" else if signal == 2 then "INT" else
              if signal == 1 then "HUP" else toString signal).toList ++ " to command ".toList ++
              quote (words.headD []))
          if signal == 9 then throw (.killed 9)
          return if o.has "p" then 128 + signal else 124)
    (fun c =>
      if c.key == "k" && (duration? c.text).isNone then
        some ⟨"invalid time interval ".toList ++ quote c.text, true, 125⟩
      else if c.key == "s" && (signalNumber? c.text).isNone then
        some ⟨quote c.text ++ ": invalid signal".toList, true, 125⟩
      else none) true 125

/-! ## Circumstances -/

/-- Splits a text into words as the first line of a script is. Quotes keep blanks together, and a
backslash keeps the byte behind it. -/
def wordsOf (quoted : Option Char) (seen : Bool) (word : Octets) : Octets → List Octets
  | [] => if seen then [word.reverse] else []
  | '\\' :: c :: rest =>
    if quoted == some '\'' && c != '\'' && c != '\\' then
      wordsOf quoted true (c :: '\\' :: word) rest
    else wordsOf quoted true (c :: word) rest
  | c :: rest =>
    match quoted with
    | some mark =>
      if c == mark then wordsOf none true word rest else wordsOf quoted true (c :: word) rest
    | none =>
      if c == '\'' || c == '"' then wordsOf (some c) true word rest
      else if isSpace c then
        (if seen then [word.reverse] else []) ++ wordsOf none false [] rest
      else wordsOf none true (c :: word) rest

/-- Puts the words of a text that is given behind `-S` in the place of the option. -/
def splitFirst (arguments : List Octets) : List Octets :=
  match arguments with
  | ('-' :: 'S' :: text) :: rest =>
    if text.isEmpty then match rest with
      | text :: rest => wordsOf none false [] text ++ rest
      | [] => arguments
    else wordsOf none false [] text ++ rest
  | arguments => arguments

/-- Runs a program in a changed environment, or shows the environment. -/
def env (runner : Runner) (arguments : List Octets) : Run Nat :=
  withOptions "i,ignore-environment 0,null u,unset= C,chdir= v,debug S,split-string="
    (splitFirst arguments) (fun o => do
      let dash := o.operands.head? == some ['-']
      let operands := if dash then o.operands.tail else o.operands
      if dash || o.has "i" then modifyProcess fun p => { p with vars := [] }
      else for name in o.values "u" do
        if name.isEmpty || name.contains '=' then
          return ← refuseCall ⟨"cannot unset ".toList ++ quote name ++ ": Invalid argument".toList,
            false, 125⟩
        modifyProcess fun p => { p with vars := p.vars.filter (·.name != name) }
      for word in operands.takeWhile (·.contains '=') do
        let name := word.takeWhile (· != '=')
        changeVariable name fun v =>
          { v with value := some (word.drop (name.length + 1)), exported := true }
      match operands.dropWhile (·.contains '='), o.value? "C" with
      | [], some _ =>
        refuseCall ⟨"must specify command with --chdir (-C)".toList, true, 125⟩
      | [], none =>
        let all ← exports
        put (all.flatMap fun (name, value) => name ++ '=' :: value ++ [lineEnd (o.has "0")])
        return 0
      | command, place =>
        if o.has "0" then
          return ← refuseCall ⟨"cannot specify --null (-0) with command".toList, true, 125⟩
        if let some path := place then
          match ← find path true with
          | .ok (place, .directory mode) =>
            if !mode.mayRun then
              complainAbout ("cannot change directory to ".toList ++ quoteAlways path)
                .permissionDenied
              return 125
            modifyProcess fun p => { p with directory := place }
          | .ok _ =>
            complainAbout ("cannot change directory to ".toList ++ quoteAlways path) .notADirectory
            return 125
          | .error e =>
            complainAbout ("cannot change directory to ".toList ++ quoteAlways path) e
            return 125
        let status ← runInstead runner command id
        if status == 127 && (command.headD []).any isSpace then
          complainOf "use -[v]S to pass options in shebang lines".toList
        return status)
    (fun _ => none) true 125

/-- Runs a program with less or more right of way. Alone it tells how much there is. -/
def nice (runner : Runner) (arguments : List Octets) : Run Nat :=
  let isNumber (word : Octets) : Bool := match word with
    | '-' :: rest => !rest.isEmpty && (rest.all Char.isDigit ||
        (rest.head? == some '-' && 1 < rest.length && rest.tail.all Char.isDigit))
    | _ => false
  let arguments := match arguments with
    | word :: rest => if isNumber word then ("-n" ++ String.ofList word.tail).toList :: rest
        else arguments
    | [] => []
  withOptions "n,adjustment=" arguments (fun o => do
    if o.operands.isEmpty then
      if o.has "n" then return ← refuseCall ⟨
        "a command must be given with an adjustment".toList, true, 125⟩
      putLine (Octets.ofInt (← process).niceness)
      return 0
    let wanted := ((o.value? "n").bind Expr.integer?).getD 10
    modifyProcess fun p => { p with niceness := max (-20) (min 19 (p.niceness + wanted)) }
    runInstead runner o.operands id)
    (fun c => if (Expr.integer? c.text).isNone then
      some ⟨"invalid adjustment ".toList ++ quote c.text, false, 125⟩ else none) true 125

/-- Runs a program that goes on when its terminal is closed. -/
def nohup (runner : Runner) (arguments : List Octets) : Run Nat :=
  withOptions "" arguments (fun o => do
    if o.operands.isEmpty then return ← missingOperand "operand" 125
    runInstead runner o.operands failedToRun) (fun _ => none) true 125

/-- Runs a program with other buffers, which makes no difference here. -/
def stdbuf (runner : Runner) (arguments : List Octets) : Run Nat :=
  withOptions "i,input= o,output= e,error=" arguments (fun o => do
    if o.operands.isEmpty then return ← missingOperand "operand" 125
    if o.choices.isEmpty then
      return ← refuseCall ⟨"you must specify a buffering mode option".toList, true, 125⟩
    runInstead runner o.operands failedToRun)
    (fun c =>
      if c.text == ['L'] then
        if c.key == "i" then some ⟨"line buffering stdin is meaningless".toList, true, 125⟩ else none
      else match Amount.ofText true c.text with
        | .value _ => none
        | .invalid | .tooSmall => some ⟨"invalid mode ".toList ++ quote c.text, false, 125⟩
        | .tooLarge => some ⟨"invalid mode ".toList ++ quote c.text ++
            ": Value too large for defined data type".toList, false, 125⟩)
    true 125

end NotebookKernel.Shell.Tool
