import NotebookKernel.Shell.Tool.Records.Value
import Std.Data.HashMap

/-! # Arrays of programs over records

An array finds a value by a key. The keys are gone through bucket by bucket, and in a bucket what was
asked for last comes first. Whole numbers have buckets of their own until texts are asked for. -/

namespace NotebookKernel.Shell.Tool.Records

structure Key where
  text : Octets
  /-- The number that the key was given as, if it is a whole one. -/
  number : Option Int := none

/-- The number of a text that says in which bucket it is. -/
def Key.hash (text : Octets) : Nat :=
  (text.foldl (fun (h : UInt32) c => (h ^^^ c.toNat.toUInt32) * 16777619) 2166136261).toNat

instance : Hashable Octets where
  hash text := (Key.hash text).toUInt64

structure Item where
  value : Value := .unset
  /-- The number that the key is, if the item was asked for by it. -/
  number : Option Int := none
  /-- When it came to the front of its bucket of numbers. -/
  numberTurn : Nat := 0
  /-- When it came to the front of its bucket of texts, in which it may not be yet. -/
  textTurn : Option Nat := none

structure Table where
  items : Std.HashMap Octets Item := ∅
  /-- One less than the number of buckets. -/
  mask : Nat := 63
  /-- Whether all items are in buckets of texts. -/
  hasTexts : Bool := false
  turn : Nat := 0

namespace Table

/-- Puts items into order by the bucket and then by the turn, the latest turn first. -/
def inOrder (bucket : Octets × Item → Nat) (turn : Item → Nat) (items : List (Octets × Item)) :
    List (Octets × Item) :=
  let keyed := items.map fun entry => (bucket entry, turn entry.2, entry)
  (keyed.mergeSort fun (a, s, _) (b, t, _) => a < b || (a == b && t ≤ s)).map (·.2.2)

/-- Puts all items into buckets of texts. -/
def withTexts (t : Table) : Table :=
  if t.hasTexts then t
  else
    let numberBucket (entry : Octets × Item) : Nat :=
      ((entry.2.number.getD 0) % ((t.mask : Int) + 1)).toNat
    let ordered := inOrder numberBucket Item.numberTurn t.items.toList
    let put (t : Table) (entry : Octets × Item) : Table := { t with
      items := t.items.insert entry.1 { entry.2 with textTurn := some t.turn }
      turn := t.turn + 1 }
    { ordered.foldl put t with hasTexts := true }

/-- An item for a key, which comes to the front of its bucket. -/
def touched (t : Table) (k : Key) (item : Item) : Item :=
  match k.number with
  | some n => { item with
      number := some n, numberTurn := t.turn
      textTurn := if item.number.isSome || !t.hasTexts then item.textTurn else some t.turn }
  | none => { item with textTurn := some t.turn }

/-- The table in which a key is looked for. -/
def ready (t : Table) (k : Key) : Table := if k.number.isSome then t else t.withTexts

/-- The value of a key, if it has one. -/
def find? (t : Table) (k : Key) : Option Value × Table :=
  let t := t.ready k
  match t.items[k.text]? with
  | none => (none, t)
  | some item =>
    (some item.value, { t with
      items := t.items.insert k.text (t.touched k item), turn := t.turn + 1 })

/-- Gives a key a value. -/
def insert (t : Table) (k : Key) (value : Value) : Table :=
  let t := t.ready k
  let old := (t.items[k.text]?).getD {}
  let items := t.items.insert k.text { t.touched k old with value }
  let mask := if (t.mask + 1) * 12 < items.size then 2 * t.mask + 1 else t.mask
  { t with items, mask, turn := t.turn + 1 }

/-- The value of a key. A key that is not there is put there without a value. -/
def get (t : Table) (k : Key) : Value × Table :=
  match t.find? k with
  | (some v, t) => (v, t)
  | (none, t) => (.unset, t.insert k .unset)

def erase (t : Table) (k : Key) : Table :=
  let t := t.ready k
  let items := t.items.erase k.text
  if items.isEmpty then {} else { t with items }

/-- The keys in order, and the table in which they have it. -/
def keys (t : Table) : List Octets × Table :=
  let t := t.withTexts
  let bucket (entry : Octets × Item) : Nat := Nat.land (Key.hash entry.1) t.mask
  ((inOrder bucket (fun i => i.textTurn.getD 0) t.items.toList).map (·.1), t)

/-- The table of the parts of a text, which are numbered. -/
def ofParts (parts : List Octets) : Table :=
  let put (t : Table) (part : Octets × Nat) : Table :=
    let n := part.2 + 1
    t.insert { text := Octets.ofNat n, number := some n } (.given part.1)
  parts.zipIdx.foldl put {}

def size (t : Table) : Nat := t.items.size

end Table

end NotebookKernel.Shell.Tool.Records
