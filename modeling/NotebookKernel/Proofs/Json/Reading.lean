import NotebookKernel.Json.Reader
import NotebookKernel.Proofs.Json.Tree

/-!
# Reading what was made

`Reader.Reads read v a` says that the reader makes `a` of the tree of `v`, at any limit within which `v`
nests. The lemmas on records and tagged values reduce this for a whole record to its fields.
-/

namespace NotebookKernel

open Json

variable {α : Type}

namespace Reader

/-- Within every limit that is wide enough for `v`, the tree of `v` is read as `a`. -/
def Reads (read : Reader α) (v : Json) (a : α) : Prop :=
  ∀ limit, v.depth ≤ limit → read limit (Scanned.ofJson v) = some a

theorem reads_string (s : String) : Reads string (.string s) s := fun _ _ => rfl

theorem reads_bool (b : Bool) : Reads bool (.bool b) b := fun _ _ => rfl

theorem reads_float (x : Float) : Reads float (.number (.float x)) x := fun _ _ => rfl

theorem reads_json {v : Json} (h : v.Canonical) : Reads json v v := by
  intro limit hdepth
  obtain ⟨w, hw, heq⟩ := Scanned.exists_toJson?_ofJson v hdepth
  rw [json, hw, heq h]

theorem reads_map {m : SortedMap Json} (h : ∀ field ∈ m.toList, field.2.Canonical) :
    Reads map (.object m.toList) m := by
  intro limit hdepth
  have hcanonical : (Json.object m.toList).Canonical := ⟨m.ascending, fieldsCanonical_iff.mpr h⟩
  have hjson := reads_json hcanonical limit hdepth
  rw [json] at hjson
  simp only [map, hjson, SortedMap.ofList_toList]

theorem reads_natBelow {n bound : Nat} (h : n < bound) :
    Reads (natBelow bound) (Json.ofNat n) n := by
  intro limit _
  have hrange : (0 : Int) ≤ n ∧ (n : Int) < bound := ⟨by omega, by omega⟩
  simp only [natBelow, Json.ofNat, Json.ofInt, Scanned.ofJson, if_pos hrange, Int.toNat_natCast]

theorem reads_uint32 (n : UInt32) : Reads uint32 (Json.ofNat n.toNat) n := by
  intro limit hdepth
  have hread : natBelow (Nat.pow 2 32) limit _ = some n.toNat :=
    reads_natBelow n.toNat_lt limit hdepth
  simp [uint32, hread]

theorem reads_list {read : Reader α} {f : α → Json} {items : List α}
    (h : ∀ a ∈ items, Reads read (f a) a) : Reads (list read) (.array (items.map f)) items := by
  intro limit hdepth
  cases limit with
  | zero => simp [depth] at hdepth
  | succ limit =>
    simp only [list, Scanned.ofJson]
    replace hdepth : itemsDepth (items.map f) ≤ limit := by simpa [depth] using hdepth
    induction items with
    | nil => rfl
    | cons a items ih =>
      rw [List.map_cons, itemsDepth, Nat.max_le] at hdepth
      have hread := h a List.mem_cons_self limit hdepth.1
      have hrest := ih (fun b hb => h b (List.mem_cons_of_mem _ hb)) hdepth.2
      simp [Scanned.itemsOfJson, hread, hrest]

theorem reads_strings (texts : List String) : Reads (list string) (ofStrings texts) texts :=
  reads_list fun s _ => reads_string s

theorem Reads.nullable {read : Reader α} {v : Json} {a : α} (h : Reads read v a) (hv : v ≠ .null) :
    Reads (nullable read) v (some a) := by
  intro limit hdepth
  have hread := h limit hdepth
  cases v with
  | null => exact absurd rfl hv
  | _ => simp only [Scanned.ofJson] at hread ⊢; simp [Reader.nullable, hread]

/-- An object is read one level further in. -/
theorem reads_object {read : Reader α} {fields : List (String × Json)} {a : α}
    (h : ∀ limit, fieldsDepth fields ≤ limit →
      read (limit + 1) (Scanned.ofJson (.object fields)) = some a) :
    Reads read (.object fields) a := by
  intro limit hdepth
  cases limit with
  | zero => simp [depth] at hdepth
  | succ limit => exact h limit (by simpa [depth] using hdepth)

theorem reads_nullable_null (read : Reader α) : Reads (nullable read) .null none := fun _ _ => rfl

end Reader

namespace Entries

variable {β : Type}

@[simp] theorem get?_nil (key : String) : get? key ([] : List (String × β)) = none := rfl

@[simp] theorem get?_cons (key k : String) (v : β) (rest : List (String × β)) :
    get? key ((k, v) :: rest) = if k = key then some v else get? key rest := rfl

@[simp] theorem get?_append (key : String) (a b : List (String × β)) :
    get? key (a ++ b) = (get? key a).or (get? key b) := by
  induction a with
  | nil => rfl
  | cons e rest ih =>
    obtain ⟨k, v⟩ := e
    by_cases h : k = key <;> simp [get?, h, ih]

theorem get?_map (key : String) (f : β → α) (entries : List (String × β)) :
    get? key (entries.map fun e => (e.1, f e.2)) = (get? key entries).map f := by
  induction entries with
  | nil => rfl
  | cons e rest ih =>
    obtain ⟨k, v⟩ := e
    by_cases h : k = key <;> simp [get?, h, ih]

@[simp] theorem get?_optionalField (key k : String) (f : α → Json) (o : Option α) :
    get? key (optionalField k f o) = if k = key then o.map f else none := by
  cases o <;> simp [optionalField, get?]

end Entries

namespace Record

/-- The record of some fields. -/
def ofFields (fields : List (String × Json)) (limit : Nat) : Record :=
  ⟨fields.map fun field => (field.1, Scanned.ofJson field.2), false, limit⟩

/-- The known fields are picked if they stand in front of the others, each once. -/
theorem pick?_fieldsOfJson {known : List String} {fields others : List (String × Json)}
    (hknown : ∀ field ∈ fields, field.1 ∈ known) (hnodup : (fields.map Prod.fst).Nodup)
    (hothers : ∀ field ∈ others, field.1 ∉ known) :
    pick? known (Scanned.fieldsOfJson (fields ++ others)) =
      some (fields.map fun field => (field.1, Scanned.ofJson field.2)) := by
  induction fields with
  | nil =>
    induction others with
    | nil => rfl
    | cons field others ih =>
      have hfield := hothers field List.mem_cons_self
      have hrest := ih fun f hf => hothers f (List.mem_cons_of_mem _ hf)
      rw [List.nil_append] at hrest ⊢
      simp [Scanned.fieldsOfJson, pick?, hrest, hfield]
  | cons field fields ih =>
    rw [List.map_cons, List.nodup_cons] at hnodup
    have hrest := ih (fun f hf => hknown f (List.mem_cons_of_mem _ hf)) hnodup.2
    have hnew : (fields.map fun f => (f.1, Scanned.ofJson f.2)).any (·.1 == field.1) = false := by
      simp only [List.any_map, List.any_eq_false, Function.comp, beq_iff_eq]
      exact fun f hf heq => hnodup.1 (List.mem_map.mpr ⟨f, hf, heq⟩)
    rw [List.cons_append]
    simp only [Scanned.fieldsOfJson, pick?, hrest]
    simp [hknown field List.mem_cons_self, hnew]

/-- A record is read from an object with a selection of its fields, and with others behind them. -/
theorem ofScanned?_ofJson_append {known : List String} {fields others : List (String × Json)}
    (hknown : (fields.map Prod.fst).Sublist known) (hnodup : known.Nodup)
    (hothers : ∀ field ∈ others, field.1 ∉ known) (limit : Nat) :
    ofScanned? known (limit + 1) (Scanned.ofJson (.object (fields ++ others))) =
      some (ofFields fields limit) := by
  have hpick := pick?_fieldsOfJson (fun field hfield => hknown.subset (List.mem_map_of_mem hfield))
    (hknown.nodup hnodup) hothers
  simp [ofScanned?, Scanned.ofJson, hpick, ofFields]

theorem ofScanned?_ofJson {known : List String} {fields : List (String × Json)}
    (hknown : (fields.map Prod.fst).Sublist known) (hnodup : known.Nodup) (limit : Nat) :
    ofScanned? known (limit + 1) (Scanned.ofJson (.object fields)) = some (ofFields fields limit) := by
  have hnone : ∀ field ∈ ([] : List (String × Json)), field.1 ∉ known := by simp
  have h := ofScanned?_ofJson_append hknown hnodup hnone limit
  rwa [List.append_nil] at h

section

variable {fields : List (String × Json)} {limit : Nat} (key : String) {read : Reader α} {v : Json}
  {a : α}

theorem depth_le_of_get? {key : String} (h : Entries.get? key fields = some v)
    (hdepth : fieldsDepth fields ≤ limit) : v.depth ≤ limit :=
  fieldsDepth_le_iff.mp hdepth (key, v) (Entries.mem_of_get? h)

theorem withDefault?_ofFields (default : α) (h : Entries.get? key fields = some v)
    (hread : Reader.Reads read v a) (hdepth : fieldsDepth fields ≤ limit) :
    (ofFields fields limit).withDefault? key default read = some a := by
  simp only [withDefault?, ofFields, Entries.get?_map, h, Option.map_some]
  exact hread limit (depth_le_of_get? h hdepth)

theorem required?_ofFields (h : Entries.get? key fields = some v) (hread : Reader.Reads read v a)
    (hdepth : fieldsDepth fields ≤ limit) : (ofFields fields limit).required? key read = some a := by
  simp only [required?, ofFields, Entries.get?_map, h, Option.map_some]
  exact hread limit (depth_le_of_get? h hdepth)

/-- A field that was left out where it has no value. -/
theorem optional?_ofFields {f : α → Json} {o : Option α} (h : Entries.get? key fields = o.map f)
    (hread : ∀ a, Reader.Reads read (f a) a) (hf : ∀ a, f a ≠ .null)
    (hdepth : fieldsDepth fields ≤ limit) :
    (ofFields fields limit).optional? key read = some o := by
  cases o with
  | none => simp [optional?, withDefault?, ofFields, Entries.get?_map, h]
  | some a => exact withDefault?_ofFields key none h ((hread a).nullable (hf a)) hdepth

/-- A field that is null where it has no value. -/
theorem optional?_ofFields_ofOption {f : α → Json} {o : Option α}
    (h : Entries.get? key fields = some (Json.ofOption f o))
    (hread : ∀ a, Reader.Reads read (f a) a) (hf : ∀ a, f a ≠ .null)
    (hdepth : fieldsDepth fields ≤ limit) :
    (ofFields fields limit).optional? key read = some o := by
  cases o with
  | none => exact withDefault?_ofFields key none h (Reader.reads_nullable_null read) hdepth
  | some a => exact withDefault?_ofFields key none h ((hread a).nullable (hf a)) hdepth

theorem nullable?_ofFields {f : α → Json} {o : Option α}
    (h : Entries.get? key fields = some (Json.ofOption f o))
    (hread : ∀ a, Reader.Reads read (f a) a) (hf : ∀ a, f a ≠ .null)
    (hdepth : fieldsDepth fields ≤ limit) :
    (ofFields fields limit).nullable? key read = some o :=
  optional?_ofFields_ofOption key h hread hf hdepth

end

theorem optionalField_sublist (key : String) (f : α → Json) (o : Option α) :
    ((optionalField key f o).map Prod.fst).Sublist [key] := by
  cases o <;> simp [optionalField]

/-- The first field is picked. -/
theorem exists_fields_of_ofScanned? {known : List String} {key : String} (hknown : key ∈ known)
    {value : Scanned} {others : List (Option String × Scanned)} {limit : Nat} {r : Record}
    (h : ofScanned? known (limit + 1) (.object ((some key, value) :: others)) = some r) :
    ∃ fields, r = ⟨(key, value) :: fields, false, limit⟩ := by
  simp only [ofScanned?, pick?, Option.bind_eq_bind, Option.bind_some] at h
  obtain ⟨picked, hpicked, heq⟩ := Option.bind_eq_some_iff.mp h
  obtain ⟨fields, -, hfields⟩ := Option.bind_eq_some_iff.mp hpicked
  rw [if_pos (by simpa using hknown)] at hfields
  split at hfields
  · cases hfields
  · cases hfields
    cases heq
    exact ⟨fields, rfl⟩

end Record

namespace Tagged

theorem splitTag?_fieldsOfJson {key : String} (tag : Json) {fields : List (String × Json)}
    (h : ∀ field ∈ fields, field.1 ≠ key) :
    splitTag? key (Scanned.fieldsOfJson ((key, tag) :: fields)) =
      some (Scanned.ofJson tag, Scanned.fieldsOfJson fields) := by
  have hkeys : ∀ field ∈ Scanned.fieldsOfJson fields, field.1 ≠ some key := by
    rw [Scanned.fieldsOfJson_eq_map, List.forall_mem_map]
    exact fun field hfield hkey => h field hfield (Option.some.inj hkey)
  have hnone : (Scanned.fieldsOfJson fields).filter (·.1 == some key) = [] := by
    simpa [List.filter_eq_nil_iff] using hkeys
  have hall : (Scanned.fieldsOfJson fields).filter (·.1 != some key) = Scanned.fieldsOfJson fields := by
    simpa [List.filter_eq_self] using hkeys
  simp [splitTag?, Scanned.fieldsOfJson, hnone, hall]

/-- A tagged value is read from an object that begins with its tag. -/
theorem ofScanned?_ofJson_cons {key tag : String} (numbered : List String) {limit : Nat}
    {fields : List (String × Json)} (hkey : ∀ field ∈ fields, field.1 ≠ key)
    (hdepth : fieldsDepth ((key, .string tag) :: fields) ≤ limit) :
    ofScanned? key numbered (limit + 1) (Scanned.ofJson (.object ((key, .string tag) :: fields))) =
      some ⟨tag, Scanned.ofJson (.object fields), limit + 1⟩ := by
  have hwhole : (Json.object ((key, .string tag) :: fields)).depth ≤ limit + 1 := by
    simpa [depth] using hdepth
  obtain ⟨w, hw, -⟩ := Scanned.exists_toJson?_ofJson _ hwhole
  rw [ofScanned?, hw]
  simp only [Scanned.ofJson, splitTag?_fieldsOfJson _ hkey]
  rfl

/-- What comes behind the tag is a record. -/
theorem ofScanned?_ofJson {key tag : String} (numbered known : List String) {limit : Nat}
    {fields : List (String × Json)} (hkeys : (fields.map Prod.fst).Sublist known)
    (hnodup : (key :: known).Nodup) (hdepth : fieldsDepth ((key, .string tag) :: fields) ≤ limit) :
    ∃ t, ofScanned? key numbered (limit + 1)
        (Scanned.ofJson (.object ((key, .string tag) :: fields))) = some t ∧
      t.tag = tag ∧ t.record? known = some (Record.ofFields fields limit) ∧
      fieldsDepth fields ≤ limit := by
  rw [List.nodup_cons] at hnodup
  have hkey : ∀ field ∈ fields, field.1 ≠ key := fun field hfield heq =>
    hnodup.1 (heq ▸ hkeys.subset (List.mem_map_of_mem hfield))
  refine ⟨_, ofScanned?_ofJson_cons numbered hkey hdepth, rfl,
    Record.ofScanned?_ofJson hkeys hnodup.2 limit, ?_⟩
  rw [fieldsDepth, Nat.max_le] at hdepth
  exact hdepth.2

/-- A reader that goes on by the tag reads a value from what it makes of the record behind the tag. -/
theorem reads_record {key tag : String} {decode : Tagged → Option α} {a : α}
    {fields : List (String × Json)} (numbered known : List String)
    (hkeys : (fields.map Prod.fst).Sublist known) (hnodup : (key :: known).Nodup)
    (h : ∀ t limit, t.tag = tag → t.record? known = some (Record.ofFields fields limit) →
      fieldsDepth fields ≤ limit → decode t = some a) :
    Reader.Reads (fun limit v => ofScanned? key numbered limit v >>= decode)
      (.object ((key, .string tag) :: fields)) a := by
  refine Reader.reads_object fun limit hdepth => ?_
  obtain ⟨t, ht, htag, hrecord, hrest⟩ := ofScanned?_ofJson numbered known hkeys hnodup hdepth
  simp only [ht, Option.bind_eq_bind, Option.bind_some]
  exact h t limit htag hrecord hrest

/-- A tag with nothing behind it stands for a value by itself. -/
theorem reads_bare {key tag : String} {decode : Tagged → Option α} {a : α} (numbered : List String)
    (h : ∀ t, t.tag = tag → decode t = t.bare? a) :
    Reader.Reads (fun limit v => ofScanned? key numbered limit v >>= decode)
      (.object [(key, .string tag)]) a := by
  refine Reader.reads_object fun limit hdepth => ?_
  simp only [ofScanned?_ofJson_cons numbered (List.forall_mem_nil _) hdepth, Option.bind_eq_bind,
    Option.bind_some]
  exact (h _ rfl).trans rfl

end Tagged

end NotebookKernel
