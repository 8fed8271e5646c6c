import NotebookKernel.Evaluator
import NotebookKernel.Text.Lines

/-! # Views of the namespace

The variable panel, the list of names and the table of names all show the user's names only: those
that begin with no low line and that a fresh namespace does not have. -/

namespace NotebookKernel

open Text

/-- A variable as the panel shows it. -/
structure Variable where
  name : String
  typeName : String
  value : String
  size : Option String
  deriving DecidableEq, Repr

namespace Variables

/-- Names that every fresh namespace has. -/
def bootstrapNames : List String :=
  ["__builtins__", "__name__", "__doc__", "__package__", "__file__", "np", "pd", "plt", "In", "Out"]

/-- Names of modules that the panel leaves out as well. -/
def hiddenModules : List String :=
  ["sys", "io", "os", "base64", "matplotlib", "json", "numpy", "pandas"]

def isUserName (name : String) : Bool :=
  !startsWith "_" name && !bootstrapNames.contains name

/-- How many characters of a value the panel shows. -/
def valueLimit : Nat := 100

/-- How many characters of a value the table shows. -/
def infoLimit : Nat := 30

/-- A value for the panel, with three dots in place of what is cut off. -/
def shorten (s : String) : String :=
  if valueLimit < s.length then take valueLimit s ++ "..." else s

/-- The user's variables in the order of the namespace, without modules and functions. -/
def panel (bindings : List Binding) : List Variable :=
  let shown := bindings.filter fun b =>
    isUserName b.name && !hiddenModules.contains b.name && (!b.callable || b.isType)
  shown.map fun b =>
    { name := b.name
      typeName := b.typeName
      value := shorten b.representation
      size := b.shape.or (b.length.map fun n => toString n.toNat ++ " items") }

/-- The names in order, two spaces apart. -/
def names (bindings : List Binding) : String :=
  let shown := (bindings.map (·.name)).filter isUserName
  if shown.isEmpty then "No variables defined"
  else join "  " (shown.mergeSort fun a b => decide (a ≤ b))

/-- A row of the table. -/
def row (b : Binding) : String :=
  padRight 10 b.name ++ " " ++ padRight 10 b.typeName ++ " " ++ take infoLimit b.representation

/-- A table of the names in order, with type and the start of the value. -/
def table (bindings : List Binding) : String :=
  let shown := bindings.filter (isUserName ·.name)
  let sorted := shown.mergeSort fun a b => decide (a.name ≤ b.name)
  join "\n" ("Variable   Type       Data/Info" :: String.ofList (List.replicate 40 '-')
    :: sorted.map row)

end Variables

def Variable.toJson (v : Variable) : Json :=
  .object [("name", .string v.name), ("type", .string v.typeName), ("value", .string v.value),
    ("size", Json.ofOption .string v.size)]

end NotebookKernel
