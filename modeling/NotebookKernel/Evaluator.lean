import NotebookKernel.Act
import NotebookKernel.Failure
import NotebookKernel.Host.Basic
import NotebookKernel.Json.Reader

/-! # Evaluators

The kernel never runs the user's code itself: an `Evaluator σ` does, which owns the namespace. Every
operation may fail, and any but the probe says how. -/

namespace NotebookKernel

/-- A module that every fresh namespace gets under a short name. -/
structure Preload where
  shortName : String
  module : String
  deriving DecidableEq, Repr

/-- What was written to the two output streams. -/
structure Streams where
  stdout : String
  stderr : String
  deriving DecidableEq, Repr

instance : EmptyCollection Streams := ⟨⟨"", ""⟩⟩

/-- A name that is bound in the namespace, and what is told about its value. -/
structure Binding where
  name : String
  typeName : String
  /-- The text that represents the value. -/
  representation : String
  callable : Bool
  /-- Whether the value is itself a type. -/
  isType : Bool
  /-- The dimensions of a value like an array. -/
  shape : Option String
  /-- The number of elements of a sized value. -/
  length : Option UInt64
  deriving DecidableEq, Repr

/-- What runs the user's code, over a state of type `σ`. -/
structure Evaluator (σ : Type) where
  /-- Runs statements for their effects. -/
  runStatements : String → Act σ (Except Failure Unit)
  /-- The text of an expression's value, if it has one to show. -/
  evalExpression : String → Act σ (Except Failure (Option String))
  /-- Whether a line is an expression by its grammar. Runs nothing. -/
  isExpression : String → Act σ Bool
  /-- Sends both streams to fresh buffers. -/
  beginCapture : Act σ (Except Failure Unit)
  /-- Sends the streams back to where they went before and gives what was captured. -/
  endCapture : Act σ (Except Failure Streams)
  /-- Takes the pending plot, as the bytes of an image. -/
  takePlot : Act σ (Except Failure (Option Bytes))
  /-- Runs the text of a file in a namespace of its own, whose bindings are then taken over. -/
  runIsolated : (code file : String) → Act σ (Except Failure Unit)
  /-- Runs code so many times and tells how long that took. -/
  timeStatements : (code : String) → (loops : Nat) → Act σ (Except Failure Duration)
  bindings : Act σ (Except Failure (List Binding))
  /-- Replaces the namespace by a fresh one. -/
  reset : List Preload → Act σ (Except Failure Unit)
  setDirectory : Path → Act σ (Except Failure Unit)
  setVariable : (key value : String) → Act σ (Except Failure Unit)

namespace Preload

def toJson (p : Preload) : Json :=
  .object [("alias", .string p.shortName), ("module", .string p.module)]

def reader : Reader Preload := fun limit v => do
  let r ← Record.ofScanned? ["alias", "module"] limit v
  let shortName ← r.required? "alias" Reader.string
  let module ← r.required? "module" Reader.string
  some { shortName, module }

end Preload

namespace Binding

def toJson (b : Binding) : Json :=
  .object [("name", .string b.name), ("type", .string b.typeName), ("repr", .string b.representation),
    ("callable", .bool b.callable), ("is_type", .bool b.isType),
    ("shape", Json.ofOption .string b.shape),
    ("len", Json.ofOption (fun n => Json.ofNat n.toNat) b.length)]

def reader : Reader Binding := fun limit v => do
  let r ← Record.ofScanned? ["name", "type", "repr", "callable", "is_type", "shape", "len"] limit v
  let name ← r.required? "name" Reader.string
  let typeName ← r.required? "type" Reader.string
  let representation ← r.required? "repr" Reader.string
  let callable ← r.withDefault? "callable" false Reader.bool
  let isType ← r.withDefault? "is_type" false Reader.bool
  let shape ← r.optional? "shape" Reader.string
  let length ← r.optional? "len" (Reader.natBelow (Nat.pow 2 64))
  some { name, typeName, representation, callable, isType, shape, length := length.map UInt64.ofNat }

end Binding

end NotebookKernel
