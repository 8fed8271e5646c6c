import NotebookKernel.Data.SortedMap

/-! # JSON values

Integers stay exact; every other number is a double. Objects keep their fields in the order in which
they are to be written, and free-form objects are kept in ascending order of the keys. -/

namespace NotebookKernel

/-- A number: exact where it is an integer of 64 bits, else a double. -/
inductive Json.Number where
  | int (n : Int)
  | float (x : Float)
  deriving Repr, BEq

/-- A JSON value. -/
inductive Json where
  | null
  | bool (b : Bool)
  | number (n : Json.Number)
  | string (s : String)
  | array (items : List Json)
  | object (fields : List (String × Json))
  deriving Repr, BEq, Inhabited

namespace Json

/-- An integer as a value. -/
def ofInt (n : Int) : Json := .number (.int n)

/-- A natural number as a value. -/
def ofNat (n : Nat) : Json := ofInt n

/-- The value, or null when there is none. -/
def ofOption {α : Type} (f : α → Json) : Option α → Json
  | none => .null
  | some a => f a

/-- A list of texts as a value. -/
def ofStrings (texts : List String) : Json := .array (texts.map .string)

/-- The text, if the value is one. -/
def string? : Json → Option String
  | .string s => some s
  | _ => none

/-- The value of an object's field. -/
def field? (key : String) : Json → Option Json
  | .object fields => Entries.get? key fields
  | _ => none

/-- A field that is written only when it has a value. -/
def optionalField {α : Type} (key : String) (f : α → Json) : Option α → List (String × Json)
  | none => []
  | some a => [(key, f a)]

end Json

end NotebookKernel
