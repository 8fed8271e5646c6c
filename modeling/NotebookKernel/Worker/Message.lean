import NotebookKernel.Evaluator
import NotebookKernel.Json.Writer
import NotebookKernel.Text.Quoted

/-! # Messages between kernel and worker

A worker runs the user's code in a process of its own. The kernel sends it commands, and it answers
each with one reply. Commands are told apart by the field `op`, replies by the field `kind`. -/

namespace NotebookKernel

/-- What the kernel asks of a worker. -/
inductive Command where
  | ping
  /-- Run statements. -/
  | exec (code : String)
  /-- Evaluate an expression. -/
  | eval (code : String)
  /-- Tell whether the code is an expression by its grammar. -/
  | probe (code : String)
  | captureBegin
  | captureEnd
  /-- Render the pending figures. -/
  | plot
  /-- Run the text of a file in a namespace of its own. -/
  | runFile (code path : String)
  /-- Time so many runs of the code. -/
  | time (code : String) (number : UInt64)
  | bindings
  | reset (preload : List Preload)
  | chdir (path : String)
  | setenv (key value : String)
  | shutdown
  deriving DecidableEq, Repr

/-- What a worker answers. -/
inductive Reply where
  | pong
  | done
  /-- The text of a value, unless there is none to show. -/
  | value (representation : Option String)
  | probe (expression : Bool)
  | streams (stdout stderr : String)
  /-- The pending plot in base 64, if there is one. -/
  | plot (png : Option String)
  | timing (seconds : Float)
  | bindings (all : List Binding)
  /-- The user's code raised an exception. -/
  | raised (exception : Raised)
  /-- The command could not be carried out. -/
  | failed (message : String)
  | shuttingDown

namespace Command

/-- A command as an object: its name, then its arguments in order. -/
def toJson : Command → Json
  | .ping => op "ping" []
  | .exec code => op "exec" [("code", .string code)]
  | .eval code => op "eval" [("code", .string code)]
  | .probe code => op "probe" [("code", .string code)]
  | .captureBegin => op "capture_begin" []
  | .captureEnd => op "capture_end" []
  | .plot => op "plot" []
  | .runFile code path => op "run_file" [("code", .string code), ("path", .string path)]
  | .time code number => op "time" [("code", .string code), ("number", Json.ofNat number.toNat)]
  | .bindings => op "bindings" []
  | .reset preload => op "reset" [("preload", .array (preload.map Preload.toJson))]
  | .chdir path => op "chdir" [("path", .string path)]
  | .setenv key value => op "setenv" [("key", .string key), ("value", .string value)]
  | .shutdown => op "shutdown" []
where
  op (name : String) (args : List (String × Json)) : Json :=
    .object (("op", .string name) :: args)

def reader : Reader Command := fun limit v => do
  let t ← Tagged.ofScanned? "op" [] limit v
  let ofCode (command : String → Command) : Option Command := do
    let r ← t.record? ["code"]
    let code ← r.required? "code" Reader.string
    some (command code)
  match t.tag with
  | "ping" => t.bare? .ping
  | "exec" => ofCode .exec
  | "eval" => ofCode .eval
  | "probe" => ofCode .probe
  | "capture_begin" => t.bare? .captureBegin
  | "capture_end" => t.bare? .captureEnd
  | "plot" => t.bare? .plot
  | "run_file" => do
    let r ← t.record? ["code", "path"]
    let code ← r.required? "code" Reader.string
    let path ← r.required? "path" Reader.string
    some (.runFile code path)
  | "time" => do
    let r ← t.record? ["code", "number"]
    let code ← r.required? "code" Reader.string
    let number ← r.required? "number" (Reader.natBelow (Nat.pow 2 64))
    some (.time code (UInt64.ofNat number))
  | "bindings" => t.bare? .bindings
  | "reset" => do
    let r ← t.record? ["preload"]
    let preload ← r.required? "preload" (Reader.list Preload.reader)
    some (.reset preload)
  | "chdir" => do
    let r ← t.record? ["path"]
    let path ← r.required? "path" Reader.string
    some (.chdir path)
  | "setenv" => do
    let r ← t.record? ["key", "value"]
    let key ← r.required? "key" Reader.string
    let value ← r.required? "value" Reader.string
    some (.setenv key value)
  | "shutdown" => t.bare? .shutdown
  | _ => none

end Command

namespace Reply

/-- A reply as an object: its kind, then its fields in order. -/
def toJson : Reply → Json
  | .pong => kind "pong" []
  | .done => kind "done" []
  | .value representation => kind "value" [("repr", Json.ofOption .string representation)]
  | .probe expression => kind "probe" [("expression", .bool expression)]
  | .streams stdout stderr =>
    kind "streams" [("stdout", .string stdout), ("stderr", .string stderr)]
  | .plot png => kind "plot" [("png", Json.ofOption .string png)]
  | .timing seconds => kind "timing" [("seconds", .number (.float seconds))]
  | .bindings all => kind "bindings" [("bindings", .array (all.map Binding.toJson))]
  | .raised e => kind "raised" [("ename", .string e.name), ("evalue", .string e.value),
      ("traceback", .string e.traceback)]
  | .failed message => kind "failed" [("message", .string message)]
  | .shuttingDown => kind "shutting_down" []
where
  kind (name : String) (fields : List (String × Json)) : Json :=
    .object (("kind", .string name) :: fields)

def reader : Reader Reply := fun limit v => do
  let t ← Tagged.ofScanned? "kind" [] limit v
  match t.tag with
  | "pong" => t.bare? .pong
  | "done" => t.bare? .done
  | "value" => do
    let r ← t.record? ["repr"]
    let representation ← r.nullable? "repr" Reader.string
    some (.value representation)
  | "probe" => do
    let r ← t.record? ["expression"]
    let expression ← r.required? "expression" Reader.bool
    some (.probe expression)
  | "streams" => do
    let r ← t.record? ["stdout", "stderr"]
    let stdout ← r.required? "stdout" Reader.string
    let stderr ← r.required? "stderr" Reader.string
    some (.streams stdout stderr)
  | "plot" => do
    let r ← t.record? ["png"]
    let png ← r.nullable? "png" Reader.string
    some (.plot png)
  | "timing" => do
    let r ← t.record? ["seconds"]
    let seconds ← r.required? "seconds" Reader.float
    some (.timing seconds)
  | "bindings" => do
    let r ← t.record? ["bindings"]
    let bindings ← r.required? "bindings" (Reader.list Binding.reader)
    some (.bindings bindings)
  | "raised" => do
    let r ← t.record? ["ename", "evalue", "traceback"]
    let name ← r.required? "ename" Reader.string
    let value ← r.required? "evalue" Reader.string
    let traceback ← r.required? "traceback" Reader.string
    some (.raised { name, value, traceback })
  | "failed" => do
    let r ← t.record? ["message"]
    let message ← r.required? "message" Reader.string
    some (.failed message)
  | "shutting_down" => t.bare? .shuttingDown
  | _ => none

end Reply

/-! ## Replies in messages

A reply that was not asked for is shown with the names and the values of its fields. -/

namespace Shown

/-- Doubles are shown positionally from 1e-4 up to but not including 1e16. -/
def doubleNotation : Decimal.Notation := { lowest := -4, highest := 16, plus := "" }

def bool (b : Bool) : String := if b then "true" else "false"

def option {α : Type} (f : α → String) : Option α → String
  | none => "None"
  | some a => "Some(" ++ f a ++ ")"

/-- A name with fields in braces. -/
def record (name : String) (fields : List (String × String)) : String :=
  name ++ " \x7b " ++ Text.join ", " (fields.map fun f => f.1 ++ ": " ++ f.2) ++ " \x7d"

end Shown

open Shown Text in
/-- A binding as it is shown in messages. -/
def Binding.shown (b : Binding) : String :=
  record "Binding" [("name", quoted b.name), ("type_name", quoted b.typeName),
    ("repr", quoted b.representation), ("callable", bool b.callable), ("is_type", bool b.isType),
    ("shape", option quoted b.shape), ("len", option (fun n => toString n.toNat) b.length)]

open Shown Text in
/-- A reply as it is shown in messages. -/
def Reply.shown : Reply → String
  | .pong => "Pong"
  | .done => "Done"
  | .value representation => record "Value" [("repr", option quoted representation)]
  | .probe expression => record "Probe" [("expression", bool expression)]
  | .streams stdout stderr =>
    record "Streams" [("stdout", quoted stdout), ("stderr", quoted stderr)]
  | .plot png => record "Plot" [("png", option quoted png)]
  | .timing seconds => record "Timing" [("seconds", renderShortest doubleNotation seconds)]
  | .bindings all =>
    record "Bindings" [("bindings", "[" ++ join ", " (all.map Binding.shown) ++ "]")]
  | .raised e => record "Raised"
      [("ename", quoted e.name), ("evalue", quoted e.value), ("traceback", quoted e.traceback)]
  | .failed message => record "Failed" [("message", quoted message)]
  | .shuttingDown => "ShuttingDown"

end NotebookKernel
