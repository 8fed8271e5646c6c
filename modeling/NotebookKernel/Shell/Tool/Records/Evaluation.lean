import NotebookKernel.Shell.Tool.Records.Engine
import NotebookKernel.Time.Format

/-! # Running programs over records

For every record the rules are gone through in order. Expressions are evaluated from left to right, and
what is given a value is found before the value is. -/

namespace NotebookKernel.Shell.Tool.Records

open Run

/-- What is to be given a value, once it is found. -/
inductive Held where
  | variable (p : Place)
  | element (array : Nat) (key : Key)
  | field (n : Nat)

/-- How it goes on behind a statement. -/
inductive Course where
  | onward
  | leaving
  | repeating
  | giving (v : Value)

/-! ## Random numbers -/

/-- The numbers that a seed begins with, the last first. -/
def randomStart (seed : Nat) : List Nat :=
  let step (r : Int) : Int :=
    let next := 16807 * (r % 127773) - 2836 * (r / 127773)
    if next < 0 then next + 2147483647 else next
  let first := (List.range 30).foldl (fun (numbers : List Int) _ => step (numbers.headD 1) :: numbers)
    [if seed == 0 then 1 else seed]
  let numbers := first.map Int.toNat
  let next (numbers : List Nat) : List Nat :=
    ((numbers.getD 30 0 + numbers.getD 2 0) % 4294967296) :: numbers.take 40
  let begun := (List.range 3).foldl (fun numbers _ => numbers.getD 30 0 :: numbers) numbers
  (List.range 310).foldl (fun numbers _ => next numbers) begun

/-- The next random number, between zero and one. -/
def randomNext (numbers : List Nat) : Float × List Nat :=
  let n := (numbers.getD 30 0 + numbers.getD 2 0) % 4294967296
  (Float.ofNat (n / 2) / 2147483647, n :: numbers.take 40)

/-! ## Parts of texts -/

/-- The part of a text from a place on, counted from one, with a length. -/
def partOf (text : Octets) (start length : Float) : Octets :=
  let first := Value.toWhole start
  let count := Value.toWhole length
  let stop := first + count
  if stop ≤ 1 then []
  else (text.take (stop - 1).toNat).drop (first - 1).toNat

/-- Where a text is found in another one, counted from one. -/
def indexOf (text sought : Octets) : Nat :=
  let rec go (n : Nat) (text : Octets) : Nat :=
    if sought.isPrefixOf text then n
    else match text with
      | [] => 0
      | _ :: rest => go (n + 1) rest
  go 1 text

/-- The seconds that a date stands for, which has six numbers. -/
def secondsOf (text : Octets) : Int :=
  let words := (Text.Chars.splitOn isSpace text).filter (!·.isEmpty)
  let numbers := words.map fun w => Value.toWhole (Value.numberAt w)
  match numbers with
  | year :: month :: day :: hour :: minute :: second :: _ =>
    let months := year * 12 + (month - 1)
    let first := Instant.daysOf (months / 12) ((months % 12).toNat + 1) 1
    (first + (day - 1)) * 86400 + hour * 3600 + minute * 60 + second
  | _ => -1

namespace Act

/-! ## Work -/

/-- How much may be done before a program is taken to have no end. -/
def maxWork : Nat := 3000000

/-- How many pieces may be shown before a program is taken to have no end. -/
def maxShown : Nat := 100000

/-- How many records of an endless input are gone through before the output is taken to go on as it was
for the last of them. -/
def enoughRecords : Nat := 2000

/-- Lets a program that has no end go on as it did. -/
def goOnForever (piece : List Octets) : Act Unit := do
  release
  if piece.isEmpty then run' (do sleepUntil ((← world).deadline + 1))
  else run' (writeEndless 1 piece.reverse.flatten)
  throw (.over 0)

/-- Counts a step. -/
def countWork : Act Unit := do
  let e ← get
  set { e with work := e.work + 1 }
  if maxWork < e.work then goOnForever (if maxShown / 10 < e.shownCount then e.recent.take 100 else [])
  if maxShown < e.shownCount then goOnForever (e.recent.take 100)

/-! ## What is held -/

def readHeld (h : Held) : Act Value := do
  match h with
  | .variable p => valueAt p
  | .element array key => onTable array (·.get key)
  | .field n => field n

def writeHeld (h : Held) (v : Value) : Act Unit := do
  match h with
  | .variable p => setVariable p v
  | .element array key => onTable array fun t => ((), t.insert key v)
  | .field n => setField n v

/-! ## Functions that every program has -/

/-- What a format makes of values. -/
def format (who : String) (values : List Value) : Act (Octets × Bool) := do
  match values with
  | [] => return ([], true)
  | format :: values =>
    let between ← knownText "CONVFMT"
    let text ← textOf format
    let (shown, fault) := Value.formatted (Value.toText between) text values
    let named : Octets := who.toList ++ "(\"".toList ++ text ++ "\")".toList
    match fault with
    | none => return (shown, true)
    | some .tooFew =>
      if who == "printf" then show' shown
      failHere ("not enough arguments passed to ".toList ++ named)
    | some (.improper n) =>
      if who == "printf" then show' shown
      failHere ("improper conversion(number ".toList ++ Octets.ofNat n ++ ") in ".toList ++ named)

def builtin (b : Builtin) (values : List Value) : Act Value := do
  let number (i : Nat) : Float := (values.getD i .unset).toNumber
  let text (i : Nat) : Act Octets := textOf (values.getD i .unset)
  let real (f : Float → Float) : Act Value := return .number (f (number 0))
  match b with
  | .arctangent => return .number (Float.atan2 (number 0) (number 1))
  | .cosine => real Float.cos
  | .sine => real Float.sin
  | .exponential => real Float.exp
  | .logarithm => real Float.log
  | .squareRoot => real Float.sqrt
  | .integer => real fun x => if x < 0 then x.ceil else x.floor
  | .close =>
    let status ← close (← text 0)
    return .number (Float.ofInt status)
  | .flush =>
    if values.isEmpty then
      release
      return .number 0
    let name ← text 0
    flushAll
    return .number (if (← get).outputs.any (·.name == name) then 0 else -1)
  | .index => return .ofNat (indexOf (← text 0) (← text 1))
  | .length => return .ofNat (← text 0).length
  | .lower => return .text ((← text 0).map Char.toLower)
  | .upper => return .text ((← text 0).map Char.toUpper)
  | .part =>
    let t ← text 0
    return .text (partOf t (number 1) (if values.length < 3 then 2147483647 else number 2))
  | .formatted =>
    let (shown, _) ← format "sprintf" values
    return .text shown
  | .system =>
    flushAll
    let status ← runCommand "sh" (← text 0)
    return .ofNat status
  | .random =>
    let e ← get
    let numbers := if e.random.isEmpty then randomStart 1 else e.random
    let (x, numbers) := randomNext numbers
    set { e with random := numbers }
    return .number x
  | .seed =>
    let e ← get
    let seed := values.getD 0 (.number 0)
    set { e with seed, random := randomStart (Value.toWord seed.toNumber % 4294967296) }
    return e.seed
  | .time => return .number (Float.ofInt (← run' world).machine.instant.seconds)
  | .makeTime => return .number (Float.ofInt (secondsOf (← text 0)))
  | .formatTime =>
    let seconds : Int ← if values.length < 2 then do
        let w ← run' world
        pure w.machine.instant.seconds
      else pure (Value.toWhole (number 1))
    let form ← if values.isEmpty then pure "%c".toList else text 0
    return .text (Instant.formatted { seconds, nanos := 0 } (String.ofList form))

/-! ## Expressions -/

/-- The most values that calls may have on the stack. -/
def maxStack : Nat := 1006

/-- Gives up, since a calculation is too deep. -/
def tooDeep {α : Type} : Act α := fail "program limit exceeded: eval stack size=1024".toList

mutual

/-- Evaluates an expression, with a number of values on the stack. The fuel bounds the depth. -/
def evaluate (fuel stack : Nat) (e : Expression) : Act Value := do
  match fuel with
  | 0 => tooDeep
  | fuel + 1 =>
    match e with
    | .number x => return .number x
    | .text t => return .text t
    | .occurs sought =>
      let r ← searchOf sought
      return .ofBool (Placed.of false false r (← get).record.text).occurs
    | .value (.variable p) => valueAt p
    | .value t => do
      let h ← hold fuel stack t
      readHeld h
    | .assign t none e =>
      let h ← hold fuel stack t
      let v ← evaluate fuel (stack + 1) e
      let v ← match h with
        | .field 0 => do
          let text ← textOf v
          pure (Value.given text)
        | _ => pure v
      writeHeld h v
      return v
    | .assign t (some c) e =>
      let h ← hold fuel stack t
      let v ← evaluate fuel (stack + 1) e
      let old ← readHeld h
      let new := Value.number (Value.calculate c old.toNumber v.toNumber)
      writeHeld h new
      return new
    | .step t up before =>
      let h ← hold fuel stack t
      let old ← readHeld h
      let x := old.toNumber
      let new := if up then x + 1 else x - 1
      writeHeld h (.number new)
      return .number (if before then new else x)
    | .negate e =>
      let v ← evaluate fuel stack e
      return .number (-v.toNumber)
    | .toNumber e =>
      let v ← evaluate fuel stack e
      return .number v.toNumber
    | .not e =>
      let v ← evaluate fuel stack e
      return .ofBool !v.isTrue
    | .both a b =>
      let v ← evaluate fuel stack a
      if !v.isTrue then return .number 0
      let w ← evaluate fuel stack b
      return .ofBool w.isTrue
    | .any a b =>
      let v ← evaluate fuel stack a
      if v.isTrue then return .number 1
      let w ← evaluate fuel stack b
      return .ofBool w.isTrue
    | .choice condition yes no =>
      let v ← evaluate fuel stack condition
      evaluate fuel stack (if v.isTrue then yes else no)
    | .calculate c a b =>
      let v ← evaluate fuel stack a
      let w ← evaluate fuel (stack + 1) b
      return .number (Value.calculate c v.toNumber w.toNumber)
    | .compare c a b =>
      let v ← evaluate fuel stack a
      let w ← evaluate fuel (stack + 1) b
      return .ofBool (Value.compare (← knownText "CONVFMT") c v w)
    | .joined a b =>
      let v ← evaluate fuel stack a
      let w ← evaluate fuel (stack + 1) b
      let left ← textOf v
      let right ← textOf w
      return .text (left ++ right)
    | .matching negated a sought =>
      let v ← evaluate fuel stack a
      let r ← soughtOf fuel (stack + 1) sought
      let text ← textOf v
      return .ofBool ((Placed.of false false r text).occurs != negated)
    | .isKey key array =>
      let values ← evaluateAll fuel stack key
      let k ← keyOf values
      let i ← arrayAt array
      let found ← onTable i (·.find? k)
      return .ofBool found.isSome
    | .size array =>
      let i ← arrayAt array
      return .ofNat ((← get).arrays.getD i {}).size
    | .builtin .length [.value (.variable p)] =>
      match ← slotOf p with
      | .array i => return .ofNat ((← get).arrays.getD i {}).size
      | .value _ =>
        let v ← valueAt p
        return .ofNat (← textOf v).length
    | .builtin .length [] => return .ofNat (← get).record.text.length
    | .builtin b arguments =>
      let values ← evaluateAll fuel stack arguments
      builtin b values
    | .search a sought =>
      let v ← evaluate fuel stack a
      let r ← soughtOf fuel (stack + 1) sought
      let text ← textOf v
      let (start, length) : Float × Float := match (Placed.of false false r text).search? 0 with
        | some m => (Float.ofNat (m.start + 1), Float.ofNat (m.stop - m.start))
        | none => (0, -1)
      setKnown "RSTART" (.number start)
      setKnown "RLENGTH" (.number length)
      return .number start
    | .split e array separator =>
      let v ← evaluate fuel stack e
      let text ← textOf v
      let separator ← match separator with
        | none => separatorOf (← knownText "FS")
        | some (.occurs sought) => do
          let r ← searchOf sought
          pure (Search.Separator.matching r)
        | some e => do
          let w ← evaluate fuel (stack + 1) e
          separatorOf (← textOf w)
      let parts := separator.split text
      let i ← arrayAt array
      onTable i fun _ => ((), Table.ofParts parts)
      return .ofNat parts.length
    | .substitute all sought replacement t =>
      let r ← soughtOf fuel stack sought
      let v ← evaluate fuel (stack + 1) replacement
      let h ← hold fuel (stack + 2) t
      let old ← readHeld h
      let replacement ← textOf v
      let text ← textOf old
      let (count, new) := Search.replace all r replacement text
      if count != 0 then writeHeld h (.text new)
      return .ofNat count
    | .call f arguments => call fuel stack f arguments
    | .nextLine origin t => nextLine fuel stack origin t

/-- Evaluates expressions one after the other. -/
def evaluateAll (fuel stack : Nat) (es : List Expression) : Act (List Value) := do
  match fuel, es with
  | 0, _ => tooDeep
  | _, [] => return []
  | fuel + 1, e :: es =>
    let v ← evaluate fuel stack e
    return v :: (← evaluateAll fuel (stack + 1) es)

/-- The expression that is looked for. -/
def soughtOf (fuel stack : Nat) (e : Expression) : Act (Regex Probe) := do
  match fuel with
  | 0 => tooDeep
  | fuel + 1 =>
    match e with
    | .occurs sought => searchOf sought
    | e =>
      let v ← evaluate fuel stack e
      searchOf (← textOf v)

/-- Finds what is to be given a value. -/
def hold (fuel stack : Nat) (t : Target) : Act Held := do
  match fuel with
  | 0 => tooDeep
  | fuel + 1 =>
    match t with
    | .variable p => return .variable p
    | .element array key =>
      let values ← evaluateAll fuel stack key
      let k ← keyOf values
      let i ← arrayAt array
      let _ ← onTable i (·.get k)
      return .element i k
    | .field number =>
      let v ← evaluate fuel stack number
      return .field (← fieldNumber v)

/-- Reads a line into something, or into the record. -/
def nextLine (fuel stack : Nat) (origin : Origin) (t : Option Target) : Act Value := do
  match fuel with
  | 0 => tooDeep
  | fuel + 1 =>
    let named (name : Octets) (isCommand : Bool) : Act Value := do
      match ← lineFrom name isCommand with
      | .error _ => return .number (-1)
      | .ok none => return .number 0
      | .ok (some text) =>
        match t with
        | none => setRecord text
        | some t =>
          let h ← hold fuel stack t
          writeHeld h (.given text)
        return .number 1
    match origin with
    | .file e =>
      let v ← evaluate fuel stack e
      named (← textOf v) false
    | .command e =>
      let v ← evaluate fuel stack e
      named (← textOf v) true
    | .input =>
      countWork
      match ← nextRecord with
      | none => return .number 0
      | some text =>
        match t with
        | none => setRecord text
        | some t =>
          let h ← hold fuel stack t
          writeHeld h (.given text)
        return .number 1

/-- Calls a function. Its arrays of its own are forgotten afterwards. -/
def call (fuel stack : Nat) (f : Nat) (arguments : List Expression) : Act Value := do
  match fuel with
  | 0 => tooDeep
  | fuel + 1 =>
    countWork
    match (← read).program.definitions[f]? with
    | none => return .unset
    | some d =>
      let arrayCount := (← get).arrays.size
      let slots ← argumentSlots fuel stack arguments d.parameters
      let stack := stack + d.parameters.length
      if maxStack < stack then tooDeep
      let saved := (← get).own
      modify fun e => { e with own := slots.toArray }
      let course ← execute fuel stack d.body
      modify fun e => { e with own := saved, arrays := e.arrays.take arrayCount }
      match course with
      | .giving v => return v
      | _ => return .unset

/-- What the parameters of a function stand for. -/
def argumentSlots (fuel stack : Nat) (arguments : List Expression) (parameters : List Bool) :
    Act (List Slot) := do
  match fuel, parameters with
  | 0, _ => tooDeep
  | _, [] => return []
  | fuel + 1, isArray :: parameters =>
    let fresh : Act Slot := do
      if isArray then
        let e ← get
        set { e with arrays := e.arrays.push {} }
        return .array e.arrays.size
      return .value .unset
    let slot : Slot ← match arguments with
      | [] => fresh
      | .value (.variable p) :: _ =>
        match ← slotOf p, isArray with
        | .array i, _ => pure (.array i)
        | .value _, true => fresh
        | .value _, false => do
          let v ← valueAt p
          pure (.value v)
      | e :: _ => do
        let v ← evaluate fuel stack e
        pure (.value v)
    return slot :: (← argumentSlots fuel (stack + 1) (arguments.drop 1) parameters)

/-- Does what a statement says. -/
def execute (fuel stack : Nat) (s : Statement) : Act Course := do
  match fuel with
  | 0 => tooDeep
  | fuel + 1 =>
    countWork
    match s with
    | .nothing => return .onward
    | .block statements => executeAll fuel stack statements
    | .evaluate e =>
      let _ ← evaluate fuel stack e
      return .onward
    | .print formatted items outlet =>
      print fuel stack formatted items outlet
      return .onward
    | .choice condition yes no =>
      let v ← evaluate fuel stack condition
      execute fuel stack (if v.isTrue then yes else no)
    | .loop testsFirst condition step body => rounds fuel stack testsFirst condition step body
    | .eachKey t array body =>
      let i ← arrayAt array
      let keys ← onTable i Table.keys
      eachKey fuel stack t body keys
    | .leaveLoop => return .leaving
    | .nextRound => return .repeating
    | .next => throw .next
    | .nextFile => throw .nextFile
    | .exit none => throw (.exit none)
    | .exit (some e) =>
      let v ← evaluate fuel stack e
      let status := Value.toWhole v.toNumber % 256
      throw (.exit (some status.toNat))
    | .giveBack none => return .giving .unset
    | .giveBack (some e) =>
      let v ← evaluate fuel stack e
      return .giving v
    | .delete array key =>
      let values ← evaluateAll fuel stack key
      let k ← keyOf values
      let i ← arrayAt array
      onTable i fun t => ((), t.erase k)
      return .onward
    | .clear array =>
      let i ← arrayAt array
      onTable i fun _ => ((), {})
      return .onward

def executeAll (fuel stack : Nat) (statements : List Statement) : Act Course := do
  match fuel, statements with
  | 0, _ => tooDeep
  | _, [] => return .onward
  | fuel + 1, s :: rest =>
    match ← execute fuel stack s with
    | .onward => executeAll fuel stack rest
    | course => return course

/-- Does the rounds of a loop. -/
def rounds (fuel stack : Nat) (tests : Bool) (condition step : Option Expression)
    (body : Statement) : Act Course := do
  match fuel with
  | 0 => tooDeep
  | fuel + 1 =>
    let goesOn ← match tests, condition with
      | true, some e => do
        let v ← evaluate fuel stack e
        pure v.isTrue
      | _, _ => pure true
    if !goesOn then return .onward
    match ← execute fuel stack body with
    | .leaving => return .onward
    | .giving v => return .giving v
    | _ =>
      if let some e := step then
        let _ ← evaluate fuel stack e
      rounds fuel stack true condition step body

/-- Does something for every key. -/
def eachKey (fuel stack : Nat) (t : Place) (body : Statement) (keys : List Octets) :
    Act Course := do
  match fuel, keys with
  | 0, _ => tooDeep
  | _, [] => return .onward
  | fuel + 1, key :: keys =>
    setVariable t (.text key)
    match ← execute fuel stack body with
    | .leaving => return .onward
    | .giving v => return .giving v
    | _ => eachKey fuel stack t body keys

/-- Prints values, or what a format makes of them. -/
def print (fuel stack : Nat) (formatted : Bool) (items : List Expression)
    (outlet : Option Outlet) : Act Unit := do
  match fuel with
  | 0 => tooDeep
  | fuel + 1 =>
    let values ← evaluateAll fuel stack items
    let place : Option (Octets × Bool × Bool) ← match outlet with
      | none => pure none
      | some (.file appends e) => do
        let v ← evaluate fuel stack e
        let name ← textOf v
        pure (some (name, false, appends))
      | some (.command e) => do
        let v ← evaluate fuel stack e
        let name ← textOf v
        pure (some (name, true, false))
    let text : Octets ← if formatted then do
        let (shown, _) ← format "printf" values
        pure shown
      else do
        let outputFormat ← knownText "OFMT"
        let between ← knownText "OFS"
        let ending ← knownText "ORS"
        let record := (← get).record.text
        let shown := if items.isEmpty then [record] else values.map (Value.toText outputFormat)
        pure (List.intercalate between shown ++ ending)
    match place with
    | none => show' text
    | some (name, isCommand, appends) => printTo name isCommand appends text

end

/-! ## Rules -/

/-- How deep expressions and statements may be nested, and how many rounds a loop may have. -/
def depth : Nat := 1000000000

/-- Whether a rule is for the present record. -/
def isSelected (i : Nat) (s : Selector) : Act Bool := do
  let holds (e : Expression) : Act Bool := do
    let v ← evaluate depth 0 e
    return v.isTrue
  match s with
  | .start | .finish => return false
  | .always => return true
  | .when e => holds e
  | .range first last =>
    if !(← get).ranges.contains i then
      if !(← holds first) then return false
      modify fun e => { e with ranges := i :: e.ranges }
    if ← holds last then modify fun e => { e with ranges := e.ranges.filter (· != i) }
    return true

def perform (action : Option Statement) : Act Unit := do
  match action with
  | some s =>
    let _ ← execute depth 0 s
  | none => print depth 0 false [] none

/-- Goes through the rules for the present record. -/
def performAll : Nat → List Rule → Act Unit
  | _, [] => return ()
  | i, rule :: rules => do
    if ← isSelected i rule.selector then perform rule.action
    performAll (i + 1) rules

def isStart (r : Rule) : Bool := match r.selector with
  | .start => true
  | _ => false

def isFinish (r : Rule) : Bool := match r.selector with
  | .finish => true
  | _ => false

/-- Whether the output goes on in the same way, since the input does. -/
def goesOn : Act Bool := do
  match (← get).main with
  | .within s _ =>
    let number := (← known "NR").toNumber
    return !s.endless.isEmpty && Float.ofNat enoughRecords < number
  | _ => return false

/-- Goes through all records. The fuel bounds their number. -/
def performRecords (rules : List Rule) : Nat → Act Unit
  | 0 => return ()
  | fuel + 1 => do
    countWork
    modify fun e => { e with recent := [] }
    match ← nextRecord with
    | none => return ()
    | some text =>
      setRecord text
      try performAll 0 rules
      catch
        | .next => pure ()
        | .nextFile => modify fun e => match e.main with
          | .within _ argument => { e with main := .before argument true }
          | _ => e
        | leave => throw leave
      let e ← get
      if (← goesOn) && !e.recent.isEmpty then goOnForever e.recent
      performRecords rules fuel

/-- Does something, and gives the status with which the program is left there, if it is. -/
def untilExit (act : Act Unit) : Act (Option Nat) := do
  try
    act
    return none
  catch
    | .exit status => return some (status.getD 0)
    | leave => throw leave

/-- Runs a whole program, and gives its status. -/
def runProgram : Act Nat := do
  let rules := (← read).program.rules
  let finish := rules.filter isFinish
  let others := rules.filter fun r => !isStart r && !isFinish r
  let start := (rules.filter isStart).map (·.action)
  let begun ← untilExit (start.forM perform)
  let left ← if begun.isNone && (!others.isEmpty || !finish.isEmpty) then
      untilExit (performRecords others depth)
    else pure begun
  let status := left.getD 0
  try
    (finish.map (·.action)).forM perform
    return status
  catch
    | .exit ended => return ended.getD status
    | leave => throw leave

end Act

/-- Runs a program over the files among its arguments. -/
def Program.run (p : Program) (runner : Runner) (arguments : List Octets)
    (assignments : List (Octets × Octets)) (environment : List (Octets × Octets)) : Run Nat := do
  let texts : List (String × Octets) := [("FS", [' ']), ("OFS", [' ']), ("RS", ['\n']),
    ("ORS", ['\n']), ("SUBSEP", [Char.ofNat 28]), ("CONVFMT", "%.6g".toList), ("OFMT", "%.6g".toList)]
  let numbers : List (String × Float) := [("NR", 0), ("FNR", 0), ("NF", 0), ("RSTART", 0),
    ("RLENGTH", -1), ("ARGC", Float.ofNat arguments.length)]
  let slots : Array Slot := (p.shared.toList.zipIdx.map fun (isArray, i) =>
    if isArray then Slot.array i else Slot.value .unset).toArray
  let slots := texts.foldl (fun (slots : Array Slot) (name, text) =>
    slots.setIfInBounds (knownPlace name) (.value (.text text))) slots
  let slots := numbers.foldl (fun (slots : Array Slot) (name, x) =>
    slots.setIfInBounds (knownPlace name) (.value (.number x))) slots
  let tables : Array Table := Array.replicate slots.size {}
  let named := environment.foldl (fun (t : Table) (name, value) =>
    t.insert { text := name } (.given value)) {}
  let tables := (tables.setIfInBounds (knownPlace "ENVIRON") named).setIfInBounds (knownPlace "ARGV")
    (arguments.zipIdx.foldl (fun (t : Table) (argument, i) =>
      t.insert { text := Octets.ofNat i, number := some i } (.given argument)) {})
  let whole : Act Nat := do
    for (name, value) in assignments do Act.assignName name value
    try
      let status ← Act.runProgram
      Act.closeAll
      Act.release
      return status
    catch
      | .over status =>
        Act.closeAll
        Act.release
        return status
      | _ => return 0
  let (ended, _) ← ((whole.run ⟨p, runner⟩).run).run { shared := slots, arrays := tables }
  match ended with
  | .ok status => return status
  | .error (.over status) => return status
  | .error _ => return 0

end NotebookKernel.Shell.Tool.Records
