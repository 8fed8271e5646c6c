import NotebookKernel.Shell.Tool.Records.Expression

/-! # Reading programs over records

Where a token is not expected the statement is left out up to its end, and the reading goes on, so that
more than one fault is found. -/

namespace NotebookKernel.Shell.Tool.Records

namespace Read

/-! ## Statements -/

/-- Leaves out what is left of a statement. The fuel bounds its length. -/
def recover : Nat → Read Unit
  | 0 => throw .over
  | fuel + 1 => do
    match ← peek with
    | .ending => throw .over
    | .newline | .semicolon | .madeSemicolon =>
      advance
      modifyScanner fun s => { s with parentheses := 0, printing := false, getting := false }
      modify fun r => { r with recovering := 0 }
    | _ =>
      modify fun r => { r with ahead := none }
      recover fuel

/-- Reads what is printed. -/
def printed (fuel : Nat) : Read (List Expression) := do
  let rest (first : Part) : Read (List Expression) := do
    let p ← suffixed first
    let e ← expression fuel (some p)
    if ← takeIf "," then return e :: (← list fuel)
    return [e]
  match ← peek with
  | .newline | .semicolon | .madeSemicolon | .outlet _ => return []
  | t =>
    if t.isMark "(" then
      advance
      if ← takeIf ")" then return []
      match ← group fuel true with
      | ([a], target) => rest (a, target)
      | (es, _) =>
        if !(← isWordAhead "in") then return es
        advance
        match ← peek with
        | .name name _ =>
          advance
          let array ← useAs name true
          let e ← operatorsFrom fuel 1 (.isKey es array)
          if ← takeIf "," then return e :: (← list fuel)
          return [e]
        | _ => unexpected
    else list fuel

/-- Reads something inside a loop. -/
def insideLoop {α : Type} (act : Read α) : Read α := do
  modify fun r => { r with loops := r.loops + 1 }
  let a ← act
  modify fun r => { r with loops := r.loops - 1 }
  return a

/-- Reads an expression if the statement goes on. -/
def optionalExpression (fuel : Nat) : Read (Option Expression) := do
  match ← peek with
  | .newline | .semicolon | .madeSemicolon => return none
  | _ => return some (← expression fuel none)

/-- Notes that a statement stands where it cannot. -/
def allowed (fine : Bool) (text : String) : Read Unit := do
  if !fine then blame text.toList

mutual

/-- Reads a statement, or leaves it out if it cannot be read. -/
def statement (fuel : Nat) : Read Statement := do
  match fuel with
  | 0 => throw .over
  | fuel + 1 =>
    let loops := (← get).loops
    try wholeStatement fuel
    catch
      | .unexpected =>
        modify fun r => { r with loops }
        recover (← get).scanner.bound
        return .nothing
      | .over => throw .over

/-- Reads statements up to a closing brace. -/
def statements (fuel : Nat) : Read (List Statement) := do
  match fuel with
  | 0 => throw .over
  | fuel + 1 =>
    if ← takeIf "\x7d" then return []
    let s ← statement fuel
    return s :: (← statements fuel)

/-- Reads a block. -/
def block (fuel : Nat) : Read Statement := do
  match fuel with
  | 0 => throw .over
  | fuel + 1 =>
    expect "\x7b"
    let first ← statement fuel
    return .block (first :: (← statements fuel))

/-- Reads what follows the head of a loop. -/
def loopBody (fuel : Nat) : Read Statement := do
  match fuel with
  | 0 => throw .over
  | fuel + 1 =>
    overLines
    insideLoop (statement fuel)

/-- Reads the end of a loop whose condition comes last. If it cannot be read, it is taken for the
body. -/
def loopEnd (fuel : Nat) (body : Statement) : Read Statement := do
  match fuel with
  | 0 => throw .over
  | fuel + 1 =>
    try
      if !(← isWordAhead "while") then unexpected
      advance
      expect "("
      let condition ← expression fuel none
      expect ")"
      separator
      return .loop false (some condition) none body
    catch
      | .unexpected =>
        recover (← get).scanner.bound
        loopEnd fuel .nothing
      | .over => throw .over

def wholeStatement (fuel : Nat) : Read Statement := do
  match fuel with
  | 0 => throw .over
  | fuel + 1 =>
    let t ← peek
    let simple (s : Statement) : Read Statement := do
      separator
      return s
    match t with
    | .newline | .semicolon | .madeSemicolon =>
      advance
      return .nothing
    | .keyword word =>
      match word with
      | "if" =>
        advance
        expect "("
        let condition ← expression fuel none
        expect ")"
        overLines
        let yes ← statement fuel
        if !(← isWordAhead "else") then return .choice condition yes .nothing
        advance
        overLines
        let no ← statement fuel
        return .choice condition yes no
      | "while" =>
        advance
        expect "("
        let condition ← expression fuel none
        expect ")"
        let body ← loopBody fuel
        return .loop true (some condition) none body
      | "do" =>
        advance
        let body ← loopBody fuel
        loopEnd fuel body
      | "for" =>
        advance
        expect "("
        forStatement fuel
      | "break" =>
        advance
        allowed ((← get).loops != 0) "break statement outside of loop"
        simple .leaveLoop
      | "continue" =>
        advance
        allowed ((← get).loops != 0) "continue statement outside of loop"
        simple .nextRound
      | "next" | "nextfile" =>
        advance
        let isMain := match (← get).scope with
          | .main => true
          | _ => false
        allowed isMain ("improper use of " ++ word)
        simple (if word == "next" then .next else .nextFile)
      | "exit" =>
        advance
        let status ← optionalExpression fuel
        simple (.exit status)
      | "return" =>
        advance
        let isInside := (← presentFunction).isSome
        allowed isInside "return outside function body"
        let value ← optionalExpression fuel
        simple (.giveBack value)
      | "delete" =>
        advance
        match ← peek with
        | .name name _ =>
          advance
          let array ← useAs name true
          if ← takeIf "[" then
            let key ← list fuel
            expect "]"
            simple (.delete array key)
          else simple (.clear array)
        | _ => unexpected
      | "print" | "printf" =>
        advance
        let formatted := word == "printf"
        modifyScanner fun s => { s with printing := true }
        let items ← printed fuel
        if formatted && items.isEmpty then blame "no arguments in call to printf".toList
        let outlet ← match ← peek with
          | .outlet "|" => do
            advance
            let e ← expression fuel none
            pure (some (Outlet.command e))
          | .outlet m => do
            advance
            let e ← expression fuel none
            pure (some (Outlet.file (m == ">>") e))
          | _ => pure none
        separator
        modifyScanner fun s => { s with printing := false }
        return .print formatted items outlet
      | _ =>
        let e ← expression fuel none
        simple (.evaluate e)
    | t =>
      if t.isMark "\x7b" then block fuel
      else
        let e ← expression fuel none
        simple (.evaluate e)

/-- Reads a loop behind its opening parenthesis. -/
def forStatement (fuel : Nat) : Read Statement := do
  match fuel with
  | 0 => throw .over
  | fuel + 1 =>
    let first : Option Expression ⊕ (Octets × Octets) ← match ← peek with
      | .semicolon => pure (.inl none)
      | .name name opens => do
        let called ← isFunction name opens
        if called then
          let e ← expression fuel none
          pure (.inl (some e))
        else
          advance
          if ← isWordAhead "in" then
            advance
            match ← peek with
            | .name array _ =>
              advance
              expect ")"
              pure (.inr (name, array))
            | _ => unexpected
          else
            let p ← named fuel name
            let p ← suffixed p
            let e ← expression fuel (some p)
            pure (.inl (some e))
      | _ => do
        let e ← expression fuel none
        pure (.inl (some e))
    match first with
    | .inr (name, array) =>
      let key ← useAs name false
      let array ← useAs array true
      let body ← loopBody fuel
      return .eachKey key array body
    | .inl first =>
      let semicolon : Read Unit := do
        match ← peek with
        | .semicolon => advance
        | _ => unexpected
      semicolon
      let condition ← match ← peek with
        | .semicolon => pure none
        | _ => some <$> expression fuel none
      semicolon
      let step ← if ← isAhead ")" then pure none else some <$> expression fuel none
      expect ")"
      let body ← loopBody fuel
      let loop := Statement.loop true condition step body
      return match first with
        | some e => .block [.evaluate e, loop]
        | none => loop

end

/-! ## Rules -/

/-- Reads the parameters of a function. -/
def parameters : Nat → List Octets → Read (List Octets)
  | 0, _ => throw .over
  | fuel + 1, names => do
    match ← peek with
    | .name name _ =>
      advance
      if names.contains name then
        blame (name ++ " is duplicated in argument list".toList)
      let names := names ++ [name]
      if ← takeIf "," then parameters fuel names
      else
        expect ")"
        return names
    | _ => unexpected

def definition (fuel : Nat) : Read Unit := do
  match ← peek with
  | .name name _ =>
    advance
    let i ← functionNumber name
    if ((← get).functions[i]?.bind (·.body)).isSome then
      blame ("redefinition of ".toList ++ name)
    expect "("
    let names ← if ← takeIf ")" then pure [] else parameters fuel []
    modify fun r => { r with
      scope := .definition i
      functions := r.functions.modify i fun f =>
        { f with parameters := (names.map fun name => (name, Use.unknown)).toArray } }
    for c in (← get).calls do
      if c.callee == i then inherit c
    overLines
    let body ← block fuel
    modify fun r => { r with
      scope := .main, functions := r.functions.modify i fun f => { f with body := some body } }
  | _ => unexpected

/-- Reads a rule or a function. -/
def item (fuel : Nat) : Read (Option Rule) := do
  let special (scope : Scope) (selector : Selector) : Read (Option Rule) := do
    advance
    modify fun r => { r with scope }
    let body ← block fuel
    modify fun r => { r with scope := .main }
    return some ⟨selector, some body⟩
  match ← peek with
  | .keyword "BEGIN" => special .start .start
  | .keyword "END" => special .finish .finish
  | .keyword "function" =>
    advance
    definition fuel
    return none
  | t =>
    if t.isMark "\x7b" then
      let body ← block fuel
      return some ⟨.always, some body⟩
    let first ← expression fuel none
    let selector ← if ← takeIf "," then do
        let last ← expression fuel none
        pure (Selector.range first last)
      else pure (Selector.when first)
    if ← isAhead "\x7b" then
      let body ← block fuel
      return some ⟨selector, some body⟩
    separator
    return some ⟨selector, none⟩

/-- Leaves out everything up to a block, and the block. -/
def recoverRule : Nat → Read Unit
  | 0 => throw .over
  | fuel + 1 => do
    match ← peek with
    | .ending => throw .over
    | t =>
      if t.isMark "\x7b" then
        let _ ← block fuel
      else
        modify fun r => { r with ahead := none }
        recoverRule fuel

/-- Reads rules up to the end. -/
def rules (fuel : Nat) (found : List Rule) : Read (List Rule) := do
  match fuel with
  | 0 => throw .over
  | fuel + 1 =>
    match ← peek with
    | .ending => return found.reverse
    | _ =>
      let rule ←
        try item fuel
        catch
          | .unexpected => do
            modify fun r => { r with scope := .main, loops := 0 }
            recoverRule fuel
            pure none
          | .over => throw .over
      rules fuel (match rule with
        | some rule => rule :: found
        | none => found)

/-! ## Whole programs -/

/-- Reads a whole program. -/
def program : Read (List Rule) := do
  modifyScanner Scanner.overLines
  let found ← rules (40 * (← get).scanner.bound + 400) []
  if !(← get).scanner.faults.isEmpty then throw .over
  let { calls, scanner, .. } ← get
  checkCalls scanner.line calls
  return found

end Read

def Use.isArray : Use → Bool
  | .array => true
  | _ => false

/-- Reads a program. The texts of its parts follow one upon another, each with the name of its file if
it has one, and each ends a line. What is wrong is given instead if anything is. -/
def Program.read (sources : List (Option Octets × Octets)) : Except (List Octets) Program :=
  let files := sources.map fun (file, t) => (file, t ++ ['\n'])
  let (first, more) := match files with
    | [] => ((none, []), [])
    | first :: more => (first, more)
  let known := knownNames.map fun name =>
    (name.toList, if name == "ARGV" || name == "ENVIRON" then Use.array else Use.variable)
  let reading : Reading := {
    scanner := {
      rest := first.2, file := first.1, files := more.map fun (file, t) => (file.getD [], t) }
    shared := known.toArray }
  let (found, reading) := match Read.program.run reading with
    | .ok found reading => (found, reading)
    | .error _ reading => ([], reading)
  if !reading.scanner.faults.isEmpty then .error reading.scanner.faults.reverse
  else .ok {
    rules := found
    definitions := reading.functions.map fun f =>
      { parameters := f.parameters.toList.map (·.2.isArray), body := f.body.getD .nothing }
    shared := reading.shared.map (·.2.isArray)
    names := reading.shared.toList.zipIdx.map fun ((name, _), i) => (name, i) }

end NotebookKernel.Shell.Tool.Records
