import NotebookKernel.Digest.Sha256
import NotebookKernel.Notebook.Basic
import NotebookKernel.Notebook.Document

/-! # Notebooks as documents and back

`Notebook.toDocument` writes every output as one record: printed text as a stream, errors with their
trace, HTML and plots as display data with the printed text beside them. `Notebook.ofDocument` reads
documents of any program: of each code cell it keeps the first output record, and cells without an
identifier get one that is derived from their source. -/

namespace NotebookKernel

open Text

/-- Characters that the name of an exception may have. -/
def isExceptionName (s : String) : Bool :=
  !s.isEmpty && s.toList.all fun c => isWordChar c || c == '.'

/-- The name and the message of an exception, from the last line of its trace that is not blank. -/
def exceptionSummary (trace : String) : String × String :=
  match (lines trace).reverse.find? (!isBlankText ·) with
  | none => ("Error", "")
  | some line =>
    let line := trim line
    match splitOnce? ':' line with
    | some (name, message) => if isExceptionName name then (name, trim message) else ("Error", "")
    | none => if isExceptionName line then (line, "") else ("Error", "")

namespace Output

/-- The data of an output, with its content as plain text unless that is empty. -/
def bundle (o : Output) : MimeBundle :=
  let data := o.data.getD ∅
  if o.content.isEmpty then data else data.insert Mime.plain (Multiline.ofText o.content).toJson

/-- The output as a record. -/
def toDocument (o : Output) : DocumentOutput :=
  match o.kind with
  | .error =>
    let (name, value) := exceptionSummary o.content
    .error name value (splitOn '\n' o.content)
  | .plot => .displayData o.bundle ∅
  | .html => .displayData o.bundle ∅
  | .text => .stream "stdout" (.ofText o.content)

/-- The text that a bundle holds as plain text, if that is a text. -/
def plainText? (bundle : MimeBundle) : Option String :=
  (bundle.get? Mime.plain).bind fun v =>
    (Multiline.reader (Json.nestingLimit + 1) (Scanned.ofJson v)).map Multiline.toText

/-- Reads a bundle. Its MIME types tell a plot and HTML apart; where they do not, `fallback` does. -/
def ofBundle (bundle : MimeBundle) (fallback : Kind) : Output :=
  let data := bundle.erase Mime.plain
  { kind :=
      if data.keys.any (startsWith "image/") then .plot
      else if data.contains Mime.html then .html
      else fallback
    content := (plainText? bundle).getD ""
    data := if data.isEmpty then none else some data }

/-- Reads a record. -/
def ofDocument : DocumentOutput → Output
  | .error _ _ traceback => .error (join "\n" traceback)
  | .stream _ text => .text text.toText
  | .displayData data _ => ofBundle data .plot
  | .executeResult _ data _ => ofBundle data .text

end Output

/-- The cell as a record. -/
def Cell.toDocument (c : Cell) : DocumentCell :=
  let frame : CellFrame := { id := some c.id, metadata := ∅, source := .ofText c.content }
  match c.kind with
  | .markdown => .markdown frame
  | .code => .code frame c.executionCount (c.output.map Output.toDocument).toList

/-- The beginning of the identifiers that are derived from a source: the first eight digits of its
digest. -/
def derivedBase (source : String) : String :=
  take 8 (Sha256.hexDigest source)

/-- The identifier derived from a source when `earlier` are the bases of the cells before it that had
none of their own either. From the second with one base on, they are numbered. -/
def derivedId (earlier : List String) (source : String) : String :=
  let base := derivedBase source
  let count := earlier.count base + 1
  if count = 1 then base else base ++ "-" ++ toString count

namespace DocumentCell

/-- Reads a record under an identifier. Raw cells are read as markdown. -/
def toCell (id : String) : DocumentCell → Cell
  | .code frame executionCount outputs =>
    { id
      kind := .code
      content := frame.source.toText
      executionCount
      output := outputs.head?.map Output.ofDocument
      status := .idle }
  | .markdown frame | .raw frame =>
    { id
      kind := .markdown
      content := frame.source.toText
      executionCount := none
      output := none
      status := .idle }

/-- Reads records in order, after cells without an identifier that had the bases `earlier`. -/
def toCells (earlier : List String) : List DocumentCell → List Cell
  | [] => []
  | c :: rest =>
    match c.frame.id with
    | some id => c.toCell id :: toCells earlier rest
    | none =>
      let source := c.frame.source.toText
      c.toCell (derivedId earlier source) :: toCells (derivedBase source :: earlier) rest

end DocumentCell

namespace Notebook

/-- The notebook as a document in version 4.5 of the format. -/
def toDocument (n : Notebook) : Document where
  metadata := {
    kernelSpec := some { displayName := "Python 3", language := some "python", name := "python3" }
    languageInfo := some { name := "python", version := none, fileExtension := some ".py" }
    title := some n.title
    created := n.created
    modified := n.modified
    extra := ∅ }
  format := Document.supportedFormat
  formatMinor := 5
  cells := n.cells.map Cell.toDocument

/-- Reads a document as the notebook with the given identifier. -/
def ofDocument (id : String) (d : Document) : Notebook where
  id
  title := d.metadata.title.getD defaultTitle
  created := d.metadata.created
  modified := d.metadata.modified
  cells := DocumentCell.toCells [] d.cells

end Notebook

end NotebookKernel
