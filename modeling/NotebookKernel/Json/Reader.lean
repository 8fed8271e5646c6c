import NotebookKernel.Json.Scanned

/-! # Reading typed values

A `Reader α` makes an `α` of a scanned value that may nest at most so many levels deep. Records are
written as objects, whose unknown fields are skipped, or as arrays of their fields in order. -/

namespace NotebookKernel

/-- Reads a value of type `α`, given how many levels it may nest. -/
abbrev Reader (α : Type) := Nat → Scanned → Option α

namespace Reader

/-- Any value at all. -/
def json : Reader Json := fun limit v => v.toJson? limit

def string : Reader String := fun _ v =>
  match v with
  | .string s => s
  | _ => none

def bool : Reader Bool := fun _ v =>
  match v with
  | .bool b => some b
  | _ => none

/-- An integer from 0 up to but not including `bound`. -/
def natBelow (bound : Nat) : Reader Nat := fun _ v =>
  match v with
  | .number (some (.int n)) => if 0 ≤ n ∧ n < bound then some n.toNat else none
  | _ => none

def uint32 : Reader UInt32 := fun limit v => (natBelow (Nat.pow 2 32) limit v).map UInt32.ofNat

/-- An integer of 64 bits as the nearest double. -/
def doubleOfInt (n : Int) : Float :=
  if 0 ≤ n then (UInt64.ofNat n.toNat).toFloat else -(UInt64.ofNat n.natAbs).toFloat

/-- Any number as a double. -/
def float : Reader Float := fun _ v =>
  match v with
  | .number (some (.int n)) => some (doubleOfInt n)
  | .number (some (.float x)) => some x
  | _ => none

/-- A value or null. -/
def nullable {α : Type} (r : Reader α) : Reader (Option α) := fun limit v =>
  match v with
  | .null => some none
  | v => (r limit v).map some

/-- An array of values. -/
def list {α : Type} (r : Reader α) : Reader (List α) := fun limit v =>
  match limit, v with
  | limit + 1, .array items => items.mapM (r limit)
  | _, _ => none

/-- A free-form object. -/
def map : Reader (SortedMap Json) := fun limit v =>
  match v.toJson? limit with
  | some (.object fields) => some (SortedMap.ofList fields)
  | _ => none

/-- One of several names, which may also be the only key of an object, with null for its value. -/
def name {α : Type} (names : List (String × α)) : Reader α := fun limit v =>
  match v with
  | .string (some s) => Entries.get? s names
  | .object [(some s, .null)] => if limit = 0 then none else Entries.get? s names
  | _ => none

end Reader

/-- The fields of a record that were found. -/
structure Record where
  fields : List (String × Scanned)
  /-- Whether the fields were given by their positions in an array. -/
  positional : Bool
  /-- How many levels the value of a field may nest. -/
  limit : Nat

namespace Record

/-- Keeps the known fields. Every key has to be a text, and no known field may occur twice. -/
def pick? (known : List String) :
    List (Option String × Scanned) → Option (List (String × Scanned))
  | [] => some []
  | (key, value) :: rest => do
    let key ← key
    let picked ← pick? known rest
    if known.contains key then
      if picked.any (·.1 == key) then none else some ((key, value) :: picked)
    else some picked

/-- Reads a record with the given fields. An array may leave fields off at its end. -/
def ofScanned? (known : List String) : Nat → Scanned → Option Record
  | limit + 1, .object fields => do
    let picked ← pick? known fields
    some ⟨picked, false, limit⟩
  | limit + 1, .array items =>
    if items.length ≤ known.length then some ⟨known.zip items, true, limit⟩ else none
  | _, _ => none

variable {α : Type}

/-- A field that has to be there. -/
def required? (r : Record) (key : String) (read : Reader α) : Option α :=
  match Entries.get? key r.fields with
  | some v => read r.limit v
  | none => none

/-- A field with a value for when it is left out. -/
def withDefault? (r : Record) (key : String) (default : α) (read : Reader α) : Option α :=
  match Entries.get? key r.fields with
  | some v => read r.limit v
  | none => some default

/-- A field that may be null and may be left out. -/
def optional? (r : Record) (key : String) (read : Reader α) : Option (Option α) :=
  r.withDefault? key none (Reader.nullable read)

/-- A field that may be null, and may be left out of an object but not of an array. -/
def nullable? (r : Record) (key : String) (read : Reader α) : Option (Option α) :=
  if r.positional then r.required? key (Reader.nullable read) else r.optional? key read

end Record

/-- A value that says by a tag which of several records it is. -/
structure Tagged where
  tag : String
  /-- What comes beside the tag. -/
  content : Scanned
  limit : Nat

namespace Tagged

/-- Takes the tag out of an object; it must occur once. -/
def splitTag? (key : String) (fields : List (Option String × Scanned)) :
    Option (Scanned × List (Option String × Scanned)) :=
  match fields.filter (·.1 == some key) with
  | [(_, tag)] => some (tag, fields.filter (·.1 != some key))
  | _ => none

/-- Reads the tag of an object, or of an array that begins with it. A tagged value must be free of
faults throughout. Where `numbered` gives the tags in order, a tag may also be its number. -/
def ofScanned? (key : String) (numbered : List String) (limit : Nat) (v : Scanned) :
    Option Tagged := do
  let _ ← v.toJson? limit
  let (tag, content) ← match v with
    | .object fields => do
      let (tag, rest) ← splitTag? key fields
      pure (tag, Scanned.object rest)
    | .array (tag :: items) => pure (tag, Scanned.array items)
    | _ => none
  let tag ← match tag with
    | .string s => s
    | .number (some (.int n)) => if 0 ≤ n then numbered[n.toNat]? else none
    | _ => none
  pure ⟨tag, content, limit⟩

/-- The fields of the record beside the tag. -/
def record? (t : Tagged) (known : List String) : Option Record :=
  Record.ofScanned? known t.limit t.content

/-- Accepts a tag that stands for itself: an array must hold nothing else. -/
def bare? {α : Type} (t : Tagged) (value : α) : Option α :=
  match t.content with
  | .array (_ :: _) => none
  | _ => some value

end Tagged

end NotebookKernel
