import NotebookKernel.Json.Reader
import NotebookKernel.Json.Writer
import NotebookKernel.Output
import NotebookKernel.Text.Lines

/-! # Notebook documents

The records of a `.ipynb` file in version 4 of its format, and their JSON. Keys of the metadata that
are not known are kept; other records drop them. -/

namespace NotebookKernel

/-! ## Multiline strings

A document holds a text either as one string or as the list of its lines, each with its line feed. A
list of lines without their line feeds is understood as well. -/

/-- A text of a document. -/
inductive Multiline where
  | single (text : String)
  | lines (parts : List String)
  deriving DecidableEq, Repr

namespace Multiline

/-- Splits a text into lines that keep their line feeds. -/
def ofText (text : String) : Multiline := .lines (Text.splitInclusive text)

/-- The text. Lines of which one but the last lacks its line feed are joined by line feeds. -/
def toText : Multiline → String
  | .single text => text
  | .lines parts =>
    if parts.dropLast.all (Text.endsWith "\n") then Text.concat parts else Text.join "\n" parts

def toJson : Multiline → Json
  | .single text => .string text
  | .lines parts => Json.ofStrings parts

def reader : Reader Multiline := fun limit v =>
  match v with
  | .string s => s.map .single
  | .array _ => (Reader.list Reader.string limit v).map .lines
  | _ => none

end Multiline

/-! ## Records -/

/-- The kernel that a document was written with. -/
structure KernelSpec where
  displayName : String
  language : Option String
  name : String
  deriving DecidableEq, Repr

/-- The language of a document's code. -/
structure LanguageInfo where
  name : String
  version : Option String
  fileExtension : Option String
  deriving DecidableEq, Repr

/-- What a document says about itself. -/
structure DocumentMetadata where
  kernelSpec : Option KernelSpec
  languageInfo : Option LanguageInfo
  title : Option String
  created : Option String
  modified : Option String
  /-- All other keys. -/
  extra : SortedMap Json

instance : EmptyCollection DocumentMetadata := ⟨⟨none, none, none, none, none, ∅⟩⟩

/-- An output record. -/
inductive DocumentOutput where
  | stream (name : String) (text : Multiline)
  | executeResult (executionCount : Option UInt32) (data : MimeBundle) (metadata : SortedMap Json)
  | displayData (data : MimeBundle) (metadata : SortedMap Json)
  | error (name value : String) (traceback : List String)

/-- What every cell record has. -/
structure CellFrame where
  id : Option String
  metadata : SortedMap Json
  source : Multiline

/-- A cell record. -/
inductive DocumentCell where
  | code (frame : CellFrame) (executionCount : Option UInt32) (outputs : List DocumentOutput)
  | markdown (frame : CellFrame)
  | raw (frame : CellFrame)

/-- A notebook document. -/
structure Document where
  metadata : DocumentMetadata
  format : UInt32
  formatMinor : UInt32
  cells : List DocumentCell

def DocumentCell.frame : DocumentCell → CellFrame
  | .code frame _ _ => frame
  | .markdown frame => frame
  | .raw frame => frame

namespace KernelSpec

def toJson (k : KernelSpec) : Json :=
  .object ([("display_name", .string k.displayName)]
    ++ Json.optionalField "language" .string k.language ++ [("name", .string k.name)])

def reader : Reader KernelSpec := fun limit v => do
  let r ← Record.ofScanned? ["display_name", "language", "name"] limit v
  let displayName ← r.required? "display_name" Reader.string
  let language ← r.optional? "language" Reader.string
  let name ← r.required? "name" Reader.string
  some { displayName, language, name }

end KernelSpec

namespace LanguageInfo

def toJson (l : LanguageInfo) : Json :=
  .object ([("name", .string l.name)] ++ Json.optionalField "version" .string l.version
    ++ Json.optionalField "file_extension" .string l.fileExtension)

def reader : Reader LanguageInfo := fun limit v => do
  let r ← Record.ofScanned? ["name", "version", "file_extension"] limit v
  let name ← r.required? "name" Reader.string
  let version ← r.optional? "version" Reader.string
  let fileExtension ← r.optional? "file_extension" Reader.string
  some { name, version, fileExtension }

end LanguageInfo

namespace DocumentMetadata

/-- The keys with a meaning of their own. -/
def knownKeys : List String := ["kernelspec", "language_info", "title", "created", "modified"]

def toJson (m : DocumentMetadata) : Json :=
  .object (Json.optionalField "kernelspec" KernelSpec.toJson m.kernelSpec
    ++ Json.optionalField "language_info" LanguageInfo.toJson m.languageInfo
    ++ Json.optionalField "title" .string m.title
    ++ Json.optionalField "created" .string m.created
    ++ Json.optionalField "modified" .string m.modified
    ++ m.extra.toList)

def reader : Reader DocumentMetadata := fun limit v =>
  match v with
  | .object fields => do
    let r ← Record.ofScanned? knownKeys limit v
    let kernelSpec ← r.optional? "kernelspec" KernelSpec.reader
    let languageInfo ← r.optional? "language_info" LanguageInfo.reader
    let title ← r.optional? "title" Reader.string
    let created ← r.optional? "created" Reader.string
    let modified ← r.optional? "modified" Reader.string
    let others := fields.filter fun field => !field.1.any knownKeys.contains
    let extra ← Reader.map limit (.object others)
    some { kernelSpec, languageInfo, title, created, modified, extra }
  | _ => none

end DocumentMetadata

namespace DocumentOutput

/-- The kinds of output records in the order of their numbers. -/
def tags : List String := ["stream", "execute_result", "display_data", "error"]

def toJson : DocumentOutput → Json
  | .stream name text =>
    .object [("output_type", .string "stream"), ("name", .string name), ("text", text.toJson)]
  | .executeResult executionCount data metadata =>
    .object [("output_type", .string "execute_result"),
      ("execution_count", Json.ofOption (fun n => Json.ofNat n.toNat) executionCount),
      ("data", .object data.toList), ("metadata", .object metadata.toList)]
  | .displayData data metadata =>
    .object [("output_type", .string "display_data"), ("data", .object data.toList),
      ("metadata", .object metadata.toList)]
  | .error name value traceback =>
    .object [("output_type", .string "error"), ("ename", .string name), ("evalue", .string value),
      ("traceback", Json.ofStrings traceback)]

def reader : Reader DocumentOutput := fun limit v => do
  let t ← Tagged.ofScanned? "output_type" tags limit v
  match t.tag with
  | "stream" => do
    let r ← t.record? ["name", "text"]
    let name ← r.required? "name" Reader.string
    let text ← r.required? "text" Multiline.reader
    some (.stream name text)
  | "execute_result" => do
    let r ← t.record? ["execution_count", "data", "metadata"]
    let executionCount ← r.optional? "execution_count" Reader.uint32
    let data ← r.required? "data" Reader.map
    let metadata ← r.withDefault? "metadata" ∅ Reader.map
    some (.executeResult executionCount data metadata)
  | "display_data" => do
    let r ← t.record? ["data", "metadata"]
    let data ← r.required? "data" Reader.map
    let metadata ← r.withDefault? "metadata" ∅ Reader.map
    some (.displayData data metadata)
  | "error" => do
    let r ← t.record? ["ename", "evalue", "traceback"]
    let name ← r.required? "ename" Reader.string
    let value ← r.required? "evalue" Reader.string
    let traceback ← r.required? "traceback" (Reader.list Reader.string)
    some (.error name value traceback)
  | _ => none

end DocumentOutput

namespace CellFrame

/-- The fields that every cell record begins with. -/
def keys : List String := ["id", "metadata", "source"]

def toFields (f : CellFrame) : List (String × Json) :=
  Json.optionalField "id" .string f.id
    ++ [("metadata", .object f.metadata.toList), ("source", f.source.toJson)]

def ofRecord? (r : Record) : Option CellFrame := do
  let id ← r.optional? "id" Reader.string
  let metadata ← r.withDefault? "metadata" ∅ Reader.map
  let source ← r.withDefault? "source" (.lines []) Multiline.reader
  some { id, metadata, source }

end CellFrame

namespace DocumentCell

def toJson : DocumentCell → Json
  | .code frame executionCount outputs =>
    .object ([("cell_type", .string "code")] ++ frame.toFields ++ [
      ("execution_count", Json.ofOption (fun n => Json.ofNat n.toNat) executionCount),
      ("outputs", .array (outputs.map DocumentOutput.toJson))])
  | .markdown frame => .object (("cell_type", .string "markdown") :: frame.toFields)
  | .raw frame => .object (("cell_type", .string "raw") :: frame.toFields)

def reader : Reader DocumentCell := fun limit v => do
  let t ← Tagged.ofScanned? "cell_type" [] limit v
  match t.tag with
  | "code" => do
    let r ← t.record? (CellFrame.keys ++ ["execution_count", "outputs"])
    let frame ← CellFrame.ofRecord? r
    let executionCount ← r.optional? "execution_count" Reader.uint32
    let outputs ← r.withDefault? "outputs" [] (Reader.list DocumentOutput.reader)
    some (.code frame executionCount outputs)
  | "markdown" => do
    let r ← t.record? CellFrame.keys
    let frame ← CellFrame.ofRecord? r
    some (.markdown frame)
  | "raw" => do
    let r ← t.record? CellFrame.keys
    let frame ← CellFrame.ofRecord? r
    some (.raw frame)
  | _ => none

end DocumentCell

namespace Document

/-- The version of the format that can be read. -/
def supportedFormat : UInt32 := 4

def toJson (d : Document) : Json :=
  .object [("metadata", d.metadata.toJson), ("nbformat", Json.ofNat d.format.toNat),
    ("nbformat_minor", Json.ofNat d.formatMinor.toNat),
    ("cells", .array (d.cells.map DocumentCell.toJson))]

def reader : Reader Document := fun limit v => do
  let r ← Record.ofScanned? ["metadata", "nbformat", "nbformat_minor", "cells"] limit v
  let metadata ← r.withDefault? "metadata" ∅ DocumentMetadata.reader
  let format ← r.required? "nbformat" Reader.uint32
  let formatMinor ← r.required? "nbformat_minor" Reader.uint32
  let cells ← r.withDefault? "cells" [] (Reader.list DocumentCell.reader)
  some { metadata, format, formatMinor, cells }

/-- The document that a text holds. -/
def ofText? (text : String) : Option Document :=
  Scanned.ofText? text >>= reader Json.nestingLimit

/-- The text of a document. -/
def toText (d : Document) : String := d.toJson.pretty

end Document

end NotebookKernel
