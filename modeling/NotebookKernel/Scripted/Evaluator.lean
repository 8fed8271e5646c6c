import NotebookKernel.Kernel.State

/-! # Evaluators that follow a script

A scripted evaluator looks up what code does in tables, keeps a record of every call, and fails where
it was told to. It is used to observe a kernel without an interpreter. -/

namespace NotebookKernel.Scripted

/-- What a piece of code does. -/
structure Effect where
  stdout : String
  stderr : String
  /-- The plot that is pending afterwards, if the code draws one. -/
  plot : Option Bytes
  binds : List Binding
  /-- The value of an expression, unless it is the usual one. -/
  value : Option (Option String)
  failure : Option Failure

instance : EmptyCollection Effect := ⟨⟨"", "", none, [], none, none⟩⟩

/-- The tables that a scripted evaluator follows. -/
structure Script where
  run : SortedMap Effect
  eval : SortedMap Effect
  isolated : SortedMap Effect
  time : SortedMap Effect
  /-- The grammar of single lines. -/
  probe : SortedMap Bool
  /-- The calls that fail. -/
  fail : SortedMap Failure
  /-- How long the next timed runs take. -/
  batches : List Duration
  /-- How long one loop takes once these are used up. -/
  loopTime : Duration

instance : EmptyCollection Script := ⟨⟨∅, ∅, ∅, ∅, ∅, ∅, [], ⟨10000⟩⟩⟩

/-- A call of the evaluator. -/
inductive Call where
  | runStatements (code : String)
  | evalExpression (code : String)
  | isExpression (line : String)
  | beginCapture
  | endCapture
  | takePlot
  | runIsolated (code file : String)
  | timeStatements (code : String) (loops : Nat)
  | bindings
  | reset (preload : List Preload)
  | setDirectory (path : Path)
  | setVariable (key value : String)
  deriving DecidableEq

/-- The name of the call. -/
def Call.name : Call → String
  | .runStatements _ => "run_statements"
  | .evalExpression _ => "eval_expression"
  | .isExpression _ => "is_expression"
  | .beginCapture => "begin_capture"
  | .endCapture => "end_capture"
  | .takePlot => "take_pending_plot"
  | .runIsolated _ _ => "run_isolated"
  | .timeStatements _ _ => "time_statements"
  | .bindings => "bindings"
  | .reset _ => "reset"
  | .setDirectory _ => "set_working_directory"
  | .setVariable _ _ => "set_env"

/-- The arguments of the call. -/
def Call.args : Call → List Json
  | .runStatements code => [.string code]
  | .evalExpression code => [.string code]
  | .isExpression line => [.string line]
  | .runIsolated code file => [.string code, .string file]
  | .timeStatements code loops => [.string code, Json.ofNat loops]
  | .reset preload => [.array (preload.map Preload.toJson)]
  | .setDirectory path => [.string path.text]
  | .setVariable key value => [.string key, .string value]
  | _ => []

def Call.toJson (c : Call) : Json := .array (.string c.name :: c.args)

/-- A scripted evaluator in the middle of its work. -/
structure State where
  script : Script
  /-- The open captures, the innermost first. -/
  captures : List Streams
  plot : Option Bytes
  bindings : List Binding
  /-- The calls so far, the last first. -/
  calls : List Call

instance : EmptyCollection State := ⟨⟨∅, [], none, [], []⟩⟩

namespace State

def log (s : State) (c : Call) : State := { s with calls := c :: s.calls }

/-- Adds a binding, in the place of one with the same name if there is one. -/
def bindTo (bindings : List Binding) (b : Binding) : List Binding :=
  if bindings.any (·.name == b.name) then bindings.map fun old => if old.name = b.name then b else old
  else bindings ++ [b]

/-- Writes to the innermost capture. -/
def write (s : State) (stdout stderr : String) : State :=
  match s.captures with
  | [] => s
  | c :: rest => { s with captures := ⟨c.stdout ++ stdout, c.stderr ++ stderr⟩ :: rest }

/-- Does what a piece of code does, up to its failure. -/
def apply (s : State) (e : Effect) : State :=
  let s := s.write e.stdout e.stderr
  { s with plot := e.plot.or s.plot, bindings := e.binds.foldl bindTo s.bindings }

end State

/-- Whether a call fails because it was told to. -/
def refused (s : State) (c : Call) : Except Failure Unit :=
  match s.script.fail.get? c.name with
  | some failure => .error failure
  | none => .ok ()

/-- The exception of code that raises one. -/
def raisedBy (code : String) : Failure :=
  .raised {
    name := "RuntimeError"
    value := code
    traceback := "Traceback (most recent call last):\nRuntimeError: " ++ code }

/-- Runs statements by a table. Code that is not in it raises an exception if it says so. -/
def runBy (table : SortedMap Effect) (code : String) (s : State) : Except Failure Unit × State :=
  match table.get? code with
  | some e => (match e.failure with | some failure => .error failure | none => .ok (), s.apply e)
  | none =>
    if Text.startsWith "raise" (Text.trimStart code) then (.error (raisedBy code), s)
    else (.ok (), s)

def evalExpression (code : String) (s : State) : Except Failure (Option String) × State :=
  let e := (s.script.eval.get? code).getD ∅
  let result := match e.failure with
    | some failure => .error failure
    | none => .ok (e.value.getD (some ("<" ++ code ++ ">")))
  (result, s.apply e)

def isExpression (line : String) (s : State) : Bool :=
  (s.script.probe.get? line).getD !line.toList.contains '('

def endCapture (s : State) : Streams × State :=
  match s.captures with
  | [] => (∅, s)
  | c :: rest => (c, { s with captures := rest })

def timeStatements (code : String) (loops : Nat) (s : State) : Except Failure Duration × State :=
  let e := (s.script.time.get? code).getD ∅
  let s := s.apply e
  match e.failure with
  | some failure => (.error failure, s)
  | none =>
    match s.script.batches with
    | d :: rest => (.ok d, { s with script := { s.script with batches := rest } })
    | [] => (.ok ⟨s.script.loopTime.nanos * loops⟩, s)

/-- Logs a call and carries it out. -/
def call {α : Type} (c : Call) (body : State → α × State) : Act State α :=
  Act.ofUpdate fun s => body (s.log c)

/-- Logs a call and carries it out unless it was told to fail. -/
def fallible {α : Type} (c : Call) (body : State → α × State) : Act State (Except Failure α) :=
  call c fun s =>
    match refused s c with
    | .error failure => (.error failure, s)
    | .ok () =>
      let (a, s) := body s
      (.ok a, s)

/-- The evaluator that follows the script of its state. -/
def evaluator : Evaluator State where
  runStatements code := call (.runStatements code) fun s => runBy s.script.run code s
  evalExpression code := call (.evalExpression code) (evalExpression code)
  isExpression line := call (.isExpression line) fun s => (isExpression line s, s)
  beginCapture := fallible .beginCapture fun s => ((), { s with captures := ∅ :: s.captures })
  endCapture := call .endCapture fun s =>
    let (streams, s') := endCapture s
    ((refused s .endCapture).map fun () => streams, s')
  takePlot := fallible .takePlot fun s => (s.plot, { s with plot := none })
  runIsolated code file := call (.runIsolated code file) fun s => runBy s.script.isolated code s
  timeStatements code loops := call (.timeStatements code loops) (timeStatements code loops)
  bindings := fallible .bindings fun s => (s.bindings, s)
  reset preload := fallible (.reset preload) fun s => ((), { s with bindings := [] })
  setDirectory path := fallible (.setDirectory path) fun s => ((), s)
  setVariable key value := fallible (.setVariable key value) fun s => ((), s)

end NotebookKernel.Scripted
