import NotebookKernel.Output

/-! # Notebooks

A notebook is a sequence of code and markdown cells with a title and time stamps. Running a code cell
leaves its output and the number of its execution in it. -/

namespace NotebookKernel

/-- What a cell holds. -/
inductive Cell.Kind where
  | code
  | markdown
  deriving DecidableEq, Repr

/-- How far the execution of a cell has got. -/
inductive Cell.Status where
  | idle
  | running
  | success
  | error
  deriving DecidableEq, Repr

/-- A cell of a notebook. -/
structure Cell where
  id : String
  kind : Cell.Kind
  content : String
  executionCount : Option UInt32
  output : Option Output
  status : Cell.Status

namespace Cell

def Kind.name : Kind → String
  | .code => "code"
  | .markdown => "markdown"

def Status.name : Status → String
  | .idle => "idle"
  | .running => "running"
  | .success => "success"
  | .error => "error"

/-- A code cell that was never run. -/
def code (id content : String) : Cell :=
  { id, kind := .code, content, executionCount := none, output := none, status := .idle }

def isCode (c : Cell) : Bool := c.kind == .code

/-- The cell after it was run. -/
def record (c : Cell) (output : Output) (count : UInt32) : Cell :=
  { c with
    status := if output.isError then .error else .success
    output := some output
    executionCount := some count }

def toJson (c : Cell) : Json :=
  .object ([("id", .string c.id), ("type", .string c.kind.name), ("content", .string c.content)]
    ++ Json.optionalField "executionCount" (fun n => Json.ofNat n.toNat) c.executionCount
    ++ Json.optionalField "output" Output.toJson c.output
    ++ [("status", .string c.status.name)])

def reader : Reader Cell := fun limit v => do
  let r ← Record.ofScanned? ["id", "type", "content", "executionCount", "output", "status"] limit v
  let id ← r.required? "id" Reader.string
  let kind ← r.required? "type"
    (Reader.name ([Kind.code, .markdown].map fun k => (k.name, k)))
  let content ← r.required? "content" Reader.string
  let executionCount ← r.optional? "executionCount" Reader.uint32
  let output ← r.optional? "output" Output.reader
  let status ← r.withDefault? "status" Status.idle
    (Reader.name ([Status.idle, .running, .success, .error].map fun s => (s.name, s)))
  some { id, kind, content, executionCount, output, status }

end Cell

/-- A notebook. The time stamps are kept as they were written. -/
structure Notebook where
  id : String
  title : String
  created : Option String
  modified : Option String
  cells : List Cell

/-- What a list of notebooks tells about one of them. -/
structure NotebookSummary where
  id : String
  title : String
  created : Option String
  modified : Option String
  deriving DecidableEq, Repr

namespace Notebook

/-- The title of a notebook that was given none. -/
def defaultTitle : String := "Untitled"

def empty (id title : String) : Notebook :=
  { id, title, created := none, modified := none, cells := [] }

def codeCells (n : Notebook) : List Cell := n.cells.filter Cell.isCode

def summary (n : Notebook) : NotebookSummary :=
  { id := n.id, title := n.title, created := n.created, modified := n.modified }

def toJson (n : Notebook) : Json :=
  .object [("id", .string n.id), ("title", .string n.title),
    ("created", Json.ofOption .string n.created), ("modified", Json.ofOption .string n.modified),
    ("cells", .array (n.cells.map Cell.toJson))]

def reader : Reader Notebook := fun limit v => do
  let r ← Record.ofScanned? ["id", "title", "created", "modified", "cells"] limit v
  let id ← r.required? "id" Reader.string
  let title ← r.required? "title" Reader.string
  let created ← r.optional? "created" Reader.string
  let modified ← r.optional? "modified" Reader.string
  let cells ← r.withDefault? "cells" [] (Reader.list Cell.reader)
  some { id, title, created, modified, cells }

end Notebook

def NotebookSummary.toJson (s : NotebookSummary) : Json :=
  .object [("id", .string s.id), ("title", .string s.title),
    ("created", Json.ofOption .string s.created), ("modified", Json.ofOption .string s.modified)]

end NotebookKernel
