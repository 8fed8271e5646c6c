import NotebookKernel.Failure
import NotebookKernel.Json.Reader

/-! # Cell outputs

Running a cell gives exactly one output: text, an error, HTML or a plot. HTML and plots also carry
their data under a MIME type. -/

namespace NotebookKernel

/-- Data under MIME types. -/
abbrev MimeBundle := SortedMap Json

namespace Mime

def png : String := "image/png"

def html : String := "text/html"

def plain : String := "text/plain"

end Mime

/-- What an output shows. -/
inductive Output.Kind where
  | text
  | error
  | html
  | plot
  deriving DecidableEq, Repr

/-- The output of a cell. -/
structure Output where
  kind : Output.Kind
  /-- What can be read by a person: printed text or a trace. -/
  content : String
  data : Option MimeBundle

namespace Output

def Kind.name : Kind → String
  | .text => "text"
  | .error => "error"
  | .html => "html"
  | .plot => "plot"

def Kind.all : List Kind := [.text, .error, .html, .plot]

def text (content : String) : Output := ⟨.text, content, none⟩

def error (content : String) : Output := ⟨.error, content, none⟩

def ofFailure (failure : Failure) : Output := error failure.message

/-- HTML, both as the content and as data. -/
def html (body : String) : Output :=
  ⟨.html, body, some (SortedMap.ofList [(Mime.html, .string body)])⟩

/-- A plot with what was printed beside it; the image is a text in base 64. -/
def plot (printed image : String) : Output :=
  ⟨.plot, printed, some (SortedMap.ofList [(Mime.png, .string image)])⟩

def isError (o : Output) : Bool := o.kind == .error

/-- The data of one MIME type, if it is a text. -/
def dataText? (o : Output) (mime : String) : Option String :=
  (o.data.bind (·.get? mime)).bind Json.string?

def toJson (o : Output) : Json :=
  .object ([("type", .string o.kind.name), ("content", .string o.content)]
    ++ Json.optionalField "data" (fun bundle => .object bundle.toList) o.data)

def reader : Reader Output := fun limit v => do
  let r ← Record.ofScanned? ["type", "content", "data"] limit v
  let kind ← r.required? "type" (Reader.name (Kind.all.map fun k => (k.name, k)))
  let content ← r.required? "content" Reader.string
  let data ← r.optional? "data" Reader.map
  some { kind, content, data }

/-- The message that a front end gets for an executed cell. -/
def toPayload (o : Output) : Json := .object [("output", o.toJson)]

def payloadReader : Reader Output := fun limit v => do
  let r ← Record.ofScanned? ["output"] limit v
  r.required? "output" reader

end Output

end NotebookKernel
