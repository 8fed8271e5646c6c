import NotebookKernel.Shell.Step

/-! # Running scripts and programs

Commands are run one after another. Those that run side by side, in a pipeline or in the background,
are run in turn from the same time on, and the clock goes on from the last of them that is waited for.
The fuel bounds how deeply commands nest and how often loops run; a script that uses it up counts as
one that never ends. -/

namespace NotebookKernel.Shell

open Run Builtin

mutual

-- Words

def expandPieces (fuel : Nat) (pieces : List Piece) : Run (List Item) := do
  match fuel with
  | 0 => exhaust
  | fuel + 1 =>
    match pieces with
    | [] => return []
    | piece :: rest =>
      let items ← expandPiece fuel piece
      return items ++ (← expandPieces fuel rest)

def expandPiece (fuel : Nat) (piece : Piece) : Run (List Item) := do
  match fuel with
  | 0 => exhaust
  | fuel + 1 =>
    match piece with
    | .text content quoted => return Item.ofText content quoted
    | .parameter name use quoted =>
      if name == ['@'] || name == ['*'] then expandArguments fuel (name == ['@']) use quoted
      else expandParameter fuel name use quoted
    | .output content line quoted =>
      let channel ← freshNumber
      let ended ← fork (fun p => { p with
          descriptors := (1, .channel channel) :: p.descriptors.filter (·.1 != 1) })
        (withExitTrap fuel (runLines fuel false (Cursor.ofText content line)))
      modifyProcess fun p => { p with substituted := ended.status }
      let holders := (← world).holders.filter (·.channel == channel)
      sleepUntil (holders.foldl (fun time h => max time h.ends) 0)
      let output := (← written channel).filter (· != Char.ofNat 0)
      return Item.ofValue (output.reverse.dropWhile (· == '\n')).reverse quoted
    | .arithmetic expression quoted =>
      let text := Item.text (← expandPieces fuel expression)
      let vars := (← process).vars
      let value (name : Octets) : Octets :=
        ((vars.find? (·.name == name)).bind (·.value)).getD []
      match Arithmetic.evaluate value text with
      | .error fault => refuse (fault.message text)
      | .ok (n, assignments) =>
        for (name, value) in assignments.reverse do assign name value
        return Item.ofValue (Octets.ofInt n) quoted

/-- Puts in all arguments. -/
def expandArguments (fuel : Nat) (separate : Bool) (use : Use) (quoted : Bool) : Run (List Item) := do
  match fuel with
  | 0 => exhaust
  | fuel + 1 =>
    let arguments := (← process).arguments
    let all (arguments : List Octets) : Run (List Item) := do
      if quoted && !separate then return Item.ofValue (← joinedArguments) true
      let items := arguments.map fun a =>
        (if quoted then [.presence] else []) ++ Item.ofValue a quoted
      return List.intercalate [.boundary] items
    match use with
    | .value => all arguments
    | .length => return Item.ofValue (Octets.ofNat arguments.length) quoted
    | .fallback kind orEmpty word =>
      let word ← if quoted then pure word else expandTilde word
      let present := !arguments.isEmpty && (!orEmpty || arguments != [[]])
      match kind, present with
      | .alternative, true => return Item.splitting (← expandPieces fuel word)
      | .alternative, false => return []
      | _, true => all arguments
      | _, false => return Item.splitting (← expandPieces fuel word)
    | .trim atEnd longest pattern =>
      let p := Pattern.ofGlyphs (Item.glyphs (← expandPieces fuel (← expandTilde pattern)))
      if quoted && !separate then
        return Item.ofValue (Pattern.trim p atEnd longest (← joinedArguments)) true
      let zero := Char.ofNat 0
      let kept := Pattern.trim p atEnd longest (List.intercalate [zero] arguments)
      if arguments.isEmpty then return []
      if kept.isEmpty then return Item.ofValue [] quoted
      all (Text.Chars.splitOn (· == zero) kept)
    | .invalid => refuse "Bad substitution".toList

def expandParameter (fuel : Nat) (name : Octets) (use : Use) (quoted : Bool) : Run (List Item) := do
  match fuel with
  | 0 => exhaust
  | fuel + 1 =>
    let value ← parameter? name
    let needed : Run Octets := do
      match value with
      | some text => return text
      | none =>
        if (← process).switches.has .refuseUnset then refuse (name ++ ": parameter not set".toList)
        return []
    match use with
    | .value => return Item.ofValue (← needed) quoted
    | .length => return Item.ofValue (Octets.ofNat (← needed).length) quoted
    | .invalid => refuse "Bad substitution".toList
    | .trim atEnd longest pattern =>
      let text ← needed
      let p := Pattern.ofGlyphs (Item.glyphs (← expandPieces fuel (← expandTilde pattern)))
      return Item.ofValue (Pattern.trim p atEnd longest text) quoted
    | .fallback kind orEmpty word =>
      let word ← if quoted then pure word else expandTilde word
      let present := match value with
        | some text => !orEmpty || !text.isEmpty
        | none => false
      match kind, present with
      | .alternative, true => return Item.splitting (← expandPieces fuel word)
      | .alternative, false => return []
      | _, true => return Item.ofValue (value.getD []) quoted
      | .substitute, false => return Item.splitting (← expandPieces fuel word)
      | .assign, false =>
        let text := Item.text (← expandPieces fuel word)
        if !Octets.isName name then refuse (name ++ ": bad variable name".toList)
        assign name text
        return Item.ofValue text quoted
      | .refuse, false =>
        let text := Item.text (← expandPieces fuel word)
        refuse (name ++ ": ".toList ++ if !word.isEmpty then text
          else if orEmpty then "parameter not set or null".toList
          else "parameter not set".toList)

/-- A word as a single text. -/
def expandText (fuel : Nat) (w : Word) : Run Octets := do
  match fuel with
  | 0 => exhaust
  | fuel + 1 => return Item.text (← expandPieces fuel (← expandTilde w))

/-- The fields that words stand for. -/
def expandFields (fuel : Nat) (words : List Word) : Run (List Octets) := do
  match fuel with
  | 0 => exhaust
  | fuel + 1 =>
    match words with
    | [] => return []
    | w :: rest =>
      let items ← expandPieces fuel (← expandTilde w)
      let separators := (← valueOf? "IFS".toList).getD [' ', '\t', '\n']
      let p ← process
      let t ← tree
      let fields := (splitFields separators items).flatMap fun field =>
        if p.switches.has .noMatching then [field.map (·.char)] else matchFiles t p.directory field
      return fields ++ (← expandFields fuel rest)

/-- Carries out assignments one after another. -/
def expandAssignments (fuel : Nat) (assignments : List (Octets × Word)) :
    Run (List (Octets × Octets)) := do
  match fuel with
  | 0 => exhaust
  | fuel + 1 =>
    match assignments with
    | [] => return []
    | (name, word) :: rest =>
      let value := Item.text (← expandPieces fuel (← expandValueTildes true word))
      assign name value
      return (name, value) :: (← expandAssignments fuel rest)

-- Redirections

/-- Carries out redirections, up to the first that fails. -/
def redirect (fuel : Nat) (redirections : List Redirection) : Run Bool := do
  match fuel with
  | 0 => exhaust
  | fuel + 1 =>
    match redirections with
    | [] => return true
    | r :: rest =>
      let fine ← match r.direction with
        | .document n =>
          let word := ((← process).documents.lookup n).getD []
          let content := Item.text (← expandPieces fuel word)
          setStream r.descriptor (some (← addSource ⟨content, [], 0⟩))
          pure true
        | .copy => do
          let target ← expandText fuel r.target
          if target == ['-'] then
            setStream r.descriptor none
            pure true
          else match Octets.digitsValue? target with
            | none => refuse "Syntax error: Bad fd number".toList
            | some source =>
              match ← stream? source with
              | some stream =>
                setStream r.descriptor (some stream)
                pure true
              | none =>
                complainHere (target ++ ": Bad file descriptor".toList)
                pure false
        | direction => do
          let path ← expandText fuel r.target
          openFile r.descriptor direction path
      if fine then redirect fuel rest else return false

-- Commands

def run (fuel : Nat) (tested : Bool) (c : Command) : Run Unit := do
  match fuel with
  | 0 => exhaust
  | fuel + 1 =>
    if (← process).switches.has .noExecution then return
    match c with
    | .nothing => pure ()
    | .simple line assignments words redirections =>
      runSimple fuel tested line assignments words redirections
    | .redirected line body redirections =>
      setLine line
      let saved := (← process).descriptors
      if ← redirect fuel redirections then
        andFinally (run fuel tested body) (setDescriptors saved)
      else
        setDescriptors saved
        setStatus 2
        checkFailure tested
    | .subshell line body =>
      setLine line
      spend startTime
      let ended ← fork id (withExitTrap fuel (run fuel tested body))
      report ended
      setStatus ended.status
      checkFailure tested
    | .branch condition body otherwise =>
      run fuel true condition
      if (← process).status == 0 then run fuel tested body
      else if otherwise matches .nothing then setStatus 0
      else run fuel tested otherwise
    | .loop untilTrue condition body =>
      let loops := (← process).loops
      modifyProcess fun p => { p with loops := loops + 1 }
      andFinally (runLoop fuel tested untilTrue condition body 0)
        (modifyProcess fun p => { p with loops })
    | .forEach line name words body =>
      setLine line
      let values ← expandFields fuel words
      let loops := (← process).loops
      modifyProcess fun p => { p with loops := loops + 1 }
      if values.isEmpty then setStatus 0
      andFinally (runFor fuel tested name values body) (modifyProcess fun p => { p with loops })
    | .select line subject arms =>
      setLine line
      let value ← expandText fuel subject
      runArms fuel tested value arms
    | .define name body =>
      modifyProcess fun p =>
        { p with functions := (name, body) :: p.functions.filter (·.1 != name), status := 0 }
    | .pipeline stages =>
      let start ← now
      let input ← stream? 0
      let ended ← runStages fuel start start input stages
      setStatus ended.status
      checkFailure tested
    | .negated body =>
      run fuel true body
      setStatus (if (← process).status == 0 then 1 else 0)
    | .both first second =>
      run fuel true first
      if (← process).status == 0 then run fuel tested second
    | .either first second =>
      run fuel true first
      if (← process).status != 0 then run fuel tested second
    | .sequence first second =>
      run fuel tested first
      run fuel tested second
    | .background body => runBackground fuel body

/-- Runs the body of a loop, and tells whether the loop goes on. -/
def runRound (fuel : Nat) (tested : Bool) (body : Command) : Run Bool := do
  match fuel with
  | 0 => exhaust
  | fuel + 1 =>
    tryCatch (run fuel tested body *> pure true) fun
      | .left n => if 1 < n then throw (.left (n - 1)) else do
          setStatus 0
          return false
      | .repeated n => if 1 < n then throw (.repeated (n - 1)) else do
          setStatus 0
          return true
      | stop => throw stop

def runLoop (fuel : Nat) (tested untilTrue : Bool) (condition body : Command) (status : Nat) :
    Run Unit := do
  match fuel with
  | 0 => exhaust
  | fuel + 1 =>
    spend roundTime
    let goesOn ← runRound fuel true condition
    if !goesOn then pure ()
    else if ((← process).status == 0) == untilTrue then setStatus status
    else if ← runRound fuel tested body then
      runLoop fuel tested untilTrue condition body (← process).status
    else pure ()

def runFor (fuel : Nat) (tested : Bool) (name : Octets) (values : List Octets) (body : Command) :
    Run Unit := do
  match fuel with
  | 0 => exhaust
  | fuel + 1 =>
    match values with
    | [] => pure ()
    | value :: rest =>
      spend commandTime
      assign name value
      if ← runRound fuel tested body then runFor fuel tested name rest body else pure ()

/-- Runs the first arm with a pattern that matches. -/
def runArms (fuel : Nat) (tested : Bool) (value : Octets) (arms : List (List Word × Command)) :
    Run Unit := do
  match fuel with
  | 0 => exhaust
  | fuel + 1 =>
    match arms with
    | [] => setStatus 0
    | ([], _) :: rest => runArms fuel tested value rest
    | (pattern :: others, body) :: rest =>
      let glyphs := Item.glyphs (← expandPieces fuel (← expandTilde pattern))
      if Pattern.matchesText (Pattern.ofGlyphs glyphs) value then
        if body matches .nothing then setStatus 0 else run fuel tested body
      else runArms fuel tested value ((others, body) :: rest)

/-- Runs the stages of a pipeline, each from the same time on. -/
def runStages (fuel : Nat) (start ends : Nat) (input : Option Stream) (stages : List Command) :
    Run Ended := do
  match fuel with
  | 0 => exhaust
  | fuel + 1 =>
    match stages with
    | [] => return .exited 0
    | stage :: rest =>
      setClock start
      spend startTime
      let channel ← freshNumber
      let last := rest.isEmpty
      if !last then modifyWorld fun w => { w with pipes := channel :: w.pipes }
      let prepare (p : Process) : Process :=
        let descriptors := p.descriptors.filter fun d => d.1 != 0 && (last || d.1 != 1)
        let descriptors := if last then descriptors else (1, .channel channel) :: descriptors
        { p with descriptors := match input with
            | some stream => (0, stream) :: descriptors
            | none => descriptors }
      let ended ← fork prepare (withExitTrap fuel (run fuel false stage))
      report ended
      let ends := max ends (← now)
      if last then
        sleepUntil ends
        return ended
      let endless := ((← world).endless.lookup channel).getD []
      let content ← written channel
      modifyWorld fun w => { w with writings := w.writings.filter (·.channel != channel) }
      let time ← now
      let ready := if endless.isEmpty then time else start
      let next ← addSource { content, endless, ready }
      runStages fuel start ends (some next) rest

/-- Starts a command that the script does not wait for. Its redirections hold for the whole process
in which it runs. -/
def runBackground (fuel : Nat) (body : Command) : Run Unit := do
  match fuel with
  | 0 => exhaust
  | fuel + 1 =>
    let start ← now
    let deadline := (← world).deadline
    modifyWorld fun w => { w with deadline := max start deadline + 2000000000 }
    setClock (start + startTime)
    let number := (← world).count
    let (redirections, body) : List Redirection × Command := match body with
      | .simple line assignments words redirections =>
        (redirections, .simple line assignments words [])
      | .redirected _ body redirections => (redirections, body)
      | body => ([], body)
    let status ← tryCatch (do
        let ended ← fork (fun p => { p with
            descriptors := (0, .device .null) :: p.descriptors.filter (·.1 != 0) }) do
          if ← redirect fuel redirections then withExitTrap fuel (run fuel false body)
          else setStatus 2
        return ended.status) fun
      | .overdue => do
        noteHolding
        return 0
      | stop => throw stop
    let ends ← now
    modifyWorld fun w => { w with deadline }
    setClock start
    modifyProcess fun p => { p with
      jobs := p.jobs ++ [⟨number, ends, status⟩], lastJob := some number, status := 0 }
    spend commandTime

-- Simple commands

def runSimple (fuel : Nat) (tested : Bool) (line : Nat) (assignments : List (Octets × Word))
    (words : List Word) (redirections : List Redirection) : Run Unit := do
  match fuel with
  | 0 => exhaust
  | fuel + 1 =>
    setLine line
    spend commandTime
    modifyProcess fun p => { p with substituted := 0 }
    let arguments ← expandFields fuel words
    let saved := (← process).descriptors
    let name := arguments.headD []
    let special := isSpecial name
    if name == "exec".toList then noteHolding
    let fine ← redirect fuel redirections
    if !fine then
      setDescriptors saved
      if special then throw .refused
      setStatus 2
    else
      let before := (← process).vars
      let values ← expandAssignments fuel assignments
      if (← process).switches.has .trace then
        let shown := values.map (fun (name, value) => name ++ '=' :: value) ++ arguments
        complain ((← valueOf "PS4") ++ List.intercalate [' '] shown)
      match arguments with
      | [] =>
        setDescriptors saved
        setStatus (← process).substituted
      | name :: rest =>
        if name == "exec".toList then runExec fuel rest
        else if special then
          andFinally (runSpecial fuel tested name rest) (setDescriptors saved)
        else
          modifyProcess fun p => { p with vars := before }
          andFinally (runNamed fuel tested true values name rest) (setDescriptors saved)
    runTraps fuel
    checkFailure tested

/-- Deals with the signals that came. -/
def runTraps (fuel : Nat) : Run Unit := do
  match fuel with
  | 0 => exhaust
  | fuel + 1 =>
    let p ← process
    match p.pending with
    | [] => pure ()
    | signal :: others =>
      modifyProcess fun p => { p with pending := others }
      match p.traps.lookup (Octets.ofNat signal) with
      | some action =>
        runLines fuel false (Cursor.ofText action 1)
        setStatus p.status
      | none => pure ()
      runTraps fuel

/-- Runs a function, a command of the shell or a program. -/
def runNamed (fuel : Nat) (tested functions : Bool) (values : List (Octets × Octets))
    (name : Octets) (arguments : List Octets) : Run Unit := do
  match fuel with
  | 0 => exhaust
  | fuel + 1 =>
    let p ← process
    let before := p.vars
    let withValues (body : Run Unit) : Run Unit := do
      for (name, value) in values do
        assign name value
        changeVariable name fun v => { v with exported := true }
      body
      let restored (v : Variable) : Option Variable :=
        if values.any (·.1 == v.name) then before.find? (·.name == v.name) else some v
      modifyProcess fun p => { p with vars := p.vars.filterMap restored }
    match if functions then p.functions.lookup name else none with
    | some body => withValues (runFunction fuel tested body arguments)
    | none =>
      let regular (act : Run Unit) : Run Unit :=
        withValues (tryCatch (speakAs (name ++ ": ".toList) act) fun
          | .refused => setStatus 2
          | stop => throw stop)
      if name == "command".toList then
        match commandOperands false arguments with
        | some (rest@(_ :: _)) => withValues (runCommand fuel tested rest)
        | _ => regular (describeCommand fuel arguments)
      else if name == "kill".toList then regular do setStatus (← sendSignals arguments)
      else if name == "type".toList then regular do setStatus (← describe fuel true arguments)
      else match run? (String.ofList name) arguments with
        | some act => regular do setStatus (← act)
        | none =>
          spend startTime
          if !name.contains '/' then
            let path := (← valueOf? "PATH".toList).map Octets.decode
            match (← tree).findProgram p.directory path (Octets.decode name) with
            | .ok (path, _) => remember name (Octets.ofString path.text)
            | .error _ => pure ()
          let ended ← fork id do
            for (name, value) in values do
              assign name value
              changeVariable name fun v => { v with exported := true }
            runProgramNamed fuel (name :: arguments)
          report ended
          setStatus ended.status

def runFunction (fuel : Nat) (tested : Bool) (body : Command) (arguments : List Octets) :
    Run Unit := do
  match fuel with
  | 0 => exhaust
  | fuel + 1 =>
    let p ← process
    if maxFunctions ≤ p.frames.length then
      refuse ("Maximum function recursion depth (".toList ++ Octets.ofNat maxFunctions ++
        ") reached".toList)
    modifyProcess fun q => { q with
      arguments, frames := {} :: q.frames, loops := 0, optionPlace := {} }
    let leave : Run Unit := do
      let frame := (← process).frames.headD {}
      for old in frame.saved do changeVariable old.name fun _ => old
      modifyProcess fun q => { q with
        arguments := p.arguments, frames := p.frames, loops := p.loops
        optionPlace := p.optionPlace, switches := frame.switches.getD q.switches }
    andFinally (tryCatch (run fuel tested body) fun
      | .returned status => setStatus status
      | stop => throw stop) leave

/-- Runs one of the special commands of the shell. -/
def runSpecial (fuel : Nat) (tested : Bool) (name : Octets) (arguments : List Octets) :
    Run Unit := do
  match fuel with
  | 0 => exhaust
  | fuel + 1 =>
    let status := (← process).status
    let given (otherwise : Nat) : Run Nat :=
      match arguments with
      | [] => pure otherwise
      | text :: _ => number text
    let rounds : Run Nat := do
      let n ← given 1
      if n == 0 then refuseNumber (arguments.headD [])
      return min n (← process).loops
    speakAs (name ++ ": ".toList) do
      match String.ofList name with
      | "exit" => throw (.exited (← given status))
      | "return" => throw (.returned (← given status))
      | "break" =>
        let n ← rounds
        if n == 0 then setStatus 0 else throw (.left n)
      | "continue" =>
        let n ← rounds
        if n == 0 then setStatus 0 else throw (.repeated n)
      | "eval" =>
        setStatus 0
        runLines fuel tested (Cursor.ofText (List.intercalate [' '] arguments) (← process).line)
      | "." =>
        let (_, operands) ← readOptions "" "" arguments
        match operands with
        | [] => setStatus 0
        | file :: _ => runFile fuel file
      | name =>
        match run? name arguments with
        | some act => setStatus (← act)
        | none => setStatus tested.toNat

/-- Runs the commands of a file, which is looked for on the search path, in the present shell. -/
def runFile (fuel : Nat) (file : Octets) : Run Unit := do
  match fuel with
  | 0 => exhaust
  | fuel + 1 =>
    let dirs := Text.Chars.splitOn (· == ':') (← valueOf "PATH")
    let paths := if file.contains '/' then [file] else dirs.map fun dir =>
      Tool.join (if dir.isEmpty then ['.'] else dir) file
    let t ← tree
    let p ← process
    let isFile (path : Octets) : Bool := match t.find true p.directory (pathOf path) with
      | .ok (_, .directory _) => file.contains '/'
      | .ok _ => true
      | .error _ => false
    match paths.find? isFile with
    | none =>
      if file.contains '/' then refuse ("cannot open ".toList ++ file ++ ": No such file".toList)
      else refuse (file ++ ": not found".toList)
    | some path =>
      match ← fileSource path with
      | .error e => refuse ("cannot open ".toList ++ path ++ ": ".toList ++ openReason false e)
      | .ok s =>
        setStatus 0
        speakAs (path ++ ": ".toList) (tryCatch (runLines fuel false (Cursor.ofText s.content 1)) fun
          | .returned status => setStatus status
          | stop => throw stop)

/-- Runs a command that is no function. Nothing that is refused ends the shell. -/
def runCommand (fuel : Nat) (tested : Bool) (words : List Octets) : Run Unit := do
  match fuel with
  | 0 => exhaust
  | fuel + 1 =>
    match words with
    | [] => setStatus 0
    | name :: rest =>
      if name == "exec".toList then runExec fuel rest
      else if isSpecial name then
        tryCatch (runSpecial fuel tested name rest) fun
          | .refused => setStatus 2
          | stop => throw stop
      else runNamed fuel tested false [] name rest

/-- Turns into a program, if there is one to turn into. -/
def runExec (fuel : Nat) (words : List Octets) : Run Unit := do
  match fuel with
  | 0 => exhaust
  | fuel + 1 =>
    if !words.isEmpty then
      modifyProcess fun p => { p with speaker := "exec: ".toList }
      runProgramNamed fuel words
      throw (.exited (← process).status)
    setStatus 0

/-- Tells what a name stands for, as `command` is asked to. -/
def describeCommand (fuel : Nat) (arguments : List Octets) : Run Unit := do
  match fuel with
  | 0 => exhaust
  | fuel + 1 =>
    let (options, names) ← readOptions "pvV" "" arguments
    let verbose := options.any (·.1 == 'V')
    if verbose || options.any (·.1 == 'v') then
      setStatus (← describe fuel verbose (names.take 1))
    else setStatus 0

/-- Tells what names stand for. -/
def describe (fuel : Nat) (verbose : Bool) (names : List Octets) : Run Nat := do
  match fuel with
  | 0 => exhaust
  | fuel + 1 =>
    match names with
    | [] => return 0
    | name :: rest =>
      let p ← process
      let told (what : String) : Octets := if verbose then name ++ what.toList else name
      let line : Option Octets ←
        if keywords.any (·.toList == name) then pure (some (told " is a shell keyword"))
        else if let some value := p.aliases.lookup name then
          pure (some (if verbose then name ++ " is an alias for ".toList ++ value
            else "alias ".toList ++ aliasLine (name, value)))
        else if (p.functions.lookup name).isSome then pure (some (told " is a shell function"))
        else if isSpecial name then pure (some (told " is a special shell builtin"))
        else if isKnown name then pure (some (told " is a shell builtin"))
        else do
          let searchPath := (← valueOf? "PATH".toList).map Octets.decode
          match (← tree).findProgram p.directory searchPath (Octets.decode name) with
          | .ok (path, _) =>
            let path := Octets.ofString path.text
            pure (some (if verbose then name ++ " is ".toList ++ path else path))
          | .error _ => pure none
      match line with
      | some line => let _ ← put (line ++ ['\n'])
      | none => if verbose then let _ ← put (name ++ ": not found\n".toList)
      let others ← describe fuel verbose rest
      return if line.isSome then others else 127

-- Programs

/-- Runs a program in the place of the present process. -/
def runProgramNamed (fuel : Nat) (words : List Octets) : Run Unit := do
  match fuel with
  | 0 => exhaust
  | fuel + 1 =>
    let name := words.headD []
    let p ← process
    let t ← tree
    let path := (← valueOf? "PATH".toList).map Octets.decode
    let fail (e : OsError) (status : Nat) : Run Unit := do
      complainHere (name ++ ": ".toList ++ execReason e)
      throw (.exited status)
    match t.findProgram p.directory path (Octets.decode name) with
    | .error e => fail e (if name.contains '/' then execStatus e else 127)
    | .ok (path, place) =>
      let vars ← handedOn
      modifyProcess fun p => { p with vars }
      match t.startable p.directory (Octets.decode name) path place with
      | .ok program => runProgram fuel program words.tail
      | .error .badExecutable => runProgram fuel ((FileTree.shellOn path place)) words.tail
      | .error e => fail e (execStatus e)

/-- Runs a program in a process of its own, on behalf of another program. -/
def runChild (fuel : Nat) (words : List Octets) : Run (Except OsError Ended) := do
  match fuel with
  | 0 => exhaust
  | fuel + 1 =>
    let path := (← valueOf? "PATH".toList).map Octets.decode
    let name := Octets.decode (words.headD [])
    match (← tree).findStartable (← process).directory path name with
    | .error e => return .error e
    | .ok program =>
      spend startTime
      return .ok (← fork id (runProgram fuel program words.tail))

/-- Runs a program of the system. -/
def runProgram (fuel : Nat) (program : FileTree.Startable) (arguments : List Octets) : Run Unit := do
  match fuel with
  | 0 => exhaust
  | fuel + 1 =>
    let arguments := program.leading.map Octets.ofString ++ arguments
    let name := Octets.ofString program.name
    match program.place.getLast?.getD "" with
    | "sh" | "dash" => startShell fuel name arguments
    | tool =>
      match Tool.run? tool (runChild fuel) arguments with
      | some act =>
        modifyProcess fun p => { p with name, outputFault := none }
        setStatus (← act)
      | none =>
        complainHere (name ++ ": not found".toList)
        setStatus 127

/-- Runs a shell in the place of the present process. -/
def startShell (fuel : Nat) (name : Octets) (arguments : List Octets) : Run Unit := do
  match fuel with
  | 0 => exhaust
  | fuel + 1 =>
    let handed ← exports
    let p ← process
    let reading := readInvocation {} arguments
    let i := reading.toOption.getD {}
    let directoryName := Octets.ofString (Location.path p.directory).text
    modifyProcess fun p => { p with
      shellNumber := p.number, name, arguments := [], vars := initialVariables p.number
      functions := [], documents := [], documentCount := 0, directoryName, line := 0, status := 0
      lastJob := none, jobs := [], switches := i.switches, traps := p.traps.filter (·.2.isEmpty)
      pending := [], frames := [], loops := 0, speaker := [], aliases := [], found := []
      optionPlace := {} }
    match reading with
    | .error why => refuse why
    | .ok _ => pure ()
    let known := handed.filter fun (name, _) => Octets.isName name && name != "IFS".toList
    for (name, value) in known ++ [("PWD".toList, directoryName)] do
      changeVariable name fun v => { v with value := some value, exported := true }
    if i.fromArgument then
      match i.operands with
      | [] => refuse "-c requires an argument".toList
      | text :: rest =>
        modifyProcess fun p => { p with name := rest.headD name, arguments := rest.tail }
        runScript fuel text
    else match i.operands with
      | [] =>
        let input ← inputText
        runScript fuel input
      | file :: rest =>
        match ← fileSource file with
        | .error e => refuse ("cannot open ".toList ++ file ++ ": ".toList ++ openReason false e)
        | .ok s =>
          modifyProcess fun p => { p with name := file, arguments := rest }
          runScript fuel s.content

/-- Goes on to the end of a shell, and then does what was to be done at the end. -/
def withExitTrap (fuel : Nat) (body : Run Unit) : Run Unit := do
  match fuel with
  | 0 => exhaust
  | fuel + 1 =>
    tryCatch body fun
      | .exited status => setStatus status
      | .refused => setStatus 2
      | .returned status => setStatus status
      | .left _ => pure ()
      | .repeated _ => pure ()
      | stop => throw stop
    match (← process).traps.lookup ['0'] with
    | none => pure ()
    | some action =>
      let status := (← process).status
      modifyProcess fun p => { p with traps := p.traps.filter (·.1 != ['0']), speaker := [] }
      runLines fuel false (Cursor.ofText action 1)
      setStatus status

def runScript (fuel : Nat) (text : Octets) : Run Unit := do
  match fuel with
  | 0 => exhaust
  | fuel + 1 => withExitTrap fuel (runLines fuel false (Cursor.ofText text 1))

/-- Runs the lines of a script that are still to be read. -/
def runLines (fuel : Nat) (tested : Bool) (cursor : Cursor) : Run Unit := do
  match fuel with
  | 0 => exhaust
  | fuel + 1 =>
    let p ← process
    match readCommands p.aliases { cursor with documentCount := p.documentCount } with
    | .error fault =>
      setLine fault.line
      refuse fault.reason.toList
    | .ok (none, _) => pure ()
    | .ok (some c, cursor) =>
      modifyProcess fun p => { p with
        documents := cursor.documents ++ p.documents, documentCount := cursor.documentCount }
      run fuel tested c
      runLines fuel tested { cursor with documents := [] }

end

end NotebookKernel.Shell
