import NotebookKernel.Json.Scanned

/-!
# The trees of values

The tree of a value that nests within the limit gives a value again, and the same one if all objects in
it are in ascending order of their keys.
-/

namespace NotebookKernel.Json

mutual

/-- How many levels of arrays and objects a value has. -/
def depth : Json → Nat
  | .array items => itemsDepth items + 1
  | .object fields => fieldsDepth fields + 1
  | _ => 0

def itemsDepth : List Json → Nat
  | [] => 0
  | item :: items => max (depth item) (itemsDepth items)

def fieldsDepth : List (String × Json) → Nat
  | [] => 0
  | (_, value) :: fields => max (depth value) (fieldsDepth fields)

end

mutual

/-- All objects have their fields in ascending order of the keys. -/
def Canonical : Json → Prop
  | .array items => ItemsCanonical items
  | .object fields => Entries.Ascending fields ∧ FieldsCanonical fields
  | _ => True

def ItemsCanonical : List Json → Prop
  | [] => True
  | item :: items => Canonical item ∧ ItemsCanonical items

def FieldsCanonical : List (String × Json) → Prop
  | [] => True
  | (_, value) :: fields => Canonical value ∧ FieldsCanonical fields

end

mutual

/-- Every number in the value satisfies `P`. -/
def AllNumbers (P : Number → Prop) : Json → Prop
  | .number n => P n
  | .array items => ItemsAllNumbers P items
  | .object fields => FieldsAllNumbers P fields
  | _ => True

def ItemsAllNumbers (P : Number → Prop) : List Json → Prop
  | [] => True
  | item :: items => AllNumbers P item ∧ ItemsAllNumbers P items

def FieldsAllNumbers (P : Number → Prop) : List (String × Json) → Prop
  | [] => True
  | (_, value) :: fields => AllNumbers P value ∧ FieldsAllNumbers P fields

end

/-! ## Items and fields one by one -/

theorem itemsDepth_le_iff {items : List Json} {n : Nat} :
    itemsDepth items ≤ n ↔ ∀ v ∈ items, v.depth ≤ n := by
  induction items with
  | nil => simp [itemsDepth]
  | cons item items ih => simp [itemsDepth, Nat.max_le, ih]

theorem fieldsDepth_le_iff {fields : List (String × Json)} {n : Nat} :
    fieldsDepth fields ≤ n ↔ ∀ field ∈ fields, field.2.depth ≤ n := by
  induction fields with
  | nil => simp [fieldsDepth]
  | cons field fields ih => simp [fieldsDepth, Nat.max_le, ih]

theorem itemsAllNumbers_iff {P : Number → Prop} {items : List Json} :
    ItemsAllNumbers P items ↔ ∀ v ∈ items, v.AllNumbers P := by
  induction items with
  | nil => simp [ItemsAllNumbers]
  | cons item items ih => simp [ItemsAllNumbers, ih]

theorem fieldsAllNumbers_iff {P : Number → Prop} {fields : List (String × Json)} :
    FieldsAllNumbers P fields ↔ ∀ field ∈ fields, field.2.AllNumbers P := by
  induction fields with
  | nil => simp [FieldsAllNumbers]
  | cons field fields ih => simp [FieldsAllNumbers, ih]

theorem itemsCanonical_iff {items : List Json} :
    ItemsCanonical items ↔ ∀ v ∈ items, v.Canonical := by
  induction items with
  | nil => simp [ItemsCanonical]
  | cons item items ih => simp [ItemsCanonical, ih]

theorem fieldsCanonical_iff {fields : List (String × Json)} :
    FieldsCanonical fields ↔ ∀ field ∈ fields, field.2.Canonical := by
  induction fields with
  | nil => simp [FieldsCanonical]
  | cons field fields ih => simp [FieldsCanonical, ih]

mutual

theorem AllNumbers.mono {P Q : Number → Prop} (h : ∀ n, P n → Q n) (v : Json)
    (hv : v.AllNumbers P) : v.AllNumbers Q := by
  cases v with
  | number n => exact h n hv
  | array items => exact itemsAllNumbers_mono h items hv
  | object fields => exact fieldsAllNumbers_mono h fields hv
  | _ => trivial

theorem itemsAllNumbers_mono {P Q : Number → Prop} (h : ∀ n, P n → Q n) (items : List Json)
    (hitems : ItemsAllNumbers P items) : ItemsAllNumbers Q items := by
  cases items with
  | nil => trivial
  | cons item items => exact ⟨AllNumbers.mono h item hitems.1, itemsAllNumbers_mono h items hitems.2⟩

theorem fieldsAllNumbers_mono {P Q : Number → Prop} (h : ∀ n, P n → Q n)
    (fields : List (String × Json)) (hfields : FieldsAllNumbers P fields) :
    FieldsAllNumbers Q fields := by
  cases fields with
  | nil => trivial
  | cons field fields =>
    exact ⟨AllNumbers.mono h field.2 hfields.1, fieldsAllNumbers_mono h fields hfields.2⟩

end

/-! ## Nesting and numbers at once -/

/-- The value nests within the limit, and its numbers satisfy `P`. -/
def Fits (P : Number → Prop) (limit : Nat) (v : Json) : Prop :=
  v.depth ≤ limit ∧ v.AllNumbers P

section

variable {P : Number → Prop} {limit : Nat}

theorem fits_null : null.Fits P limit := ⟨Nat.zero_le _, trivial⟩

theorem fits_string (s : String) : (string s).Fits P limit := ⟨Nat.zero_le _, trivial⟩

theorem fits_object_nil : (object []).Fits P (limit + 1) := ⟨by simp [depth, fieldsDepth], trivial⟩

theorem fits_array_iff {items : List Json} :
    (array items).Fits P (limit + 1) ↔ ∀ v ∈ items, v.Fits P limit := by
  simp only [Fits, depth, AllNumbers, Nat.add_le_add_iff_right, itemsDepth_le_iff,
    itemsAllNumbers_iff]
  exact ⟨fun h v hv => ⟨h.1 v hv, h.2 v hv⟩, fun h => ⟨fun v hv => (h v hv).1, fun v hv => (h v hv).2⟩⟩

theorem fits_object_iff {fields : List (String × Json)} :
    (object fields).Fits P (limit + 1) ↔ ∀ field ∈ fields, field.2.Fits P limit := by
  simp only [Fits, depth, AllNumbers, Nat.add_le_add_iff_right, fieldsDepth_le_iff,
    fieldsAllNumbers_iff]
  exact ⟨fun h v hv => ⟨h.1 v hv, h.2 v hv⟩, fun h => ⟨fun v hv => (h v hv).1, fun v hv => (h v hv).2⟩⟩

theorem fits_ofStrings (texts : List String) : (ofStrings texts).Fits P (limit + 1) := by
  rw [ofStrings, fits_array_iff, List.forall_mem_map]
  exact fun s _ => fits_string s

theorem fits_optionalField {α : Type} (key : String) {f : α → Json} (h : ∀ a, (f a).Fits P limit)
    (o : Option α) : ∀ field ∈ optionalField key f o, field.2.Fits P limit := by
  cases o with
  | none => rintro _ ⟨⟩
  | some a => exact List.forall_mem_singleton.mpr (h a)

theorem Fits.mono {Q : Number → Prop} {limit' : Nat} {v : Json} (h : v.Fits P limit)
    (hlimit : limit ≤ limit') (hnumbers : ∀ n, P n → Q n) : v.Fits Q limit' :=
  ⟨Nat.le_trans h.1 hlimit, AllNumbers.mono hnumbers v h.2⟩

end

end NotebookKernel.Json

namespace NotebookKernel.Scanned

open Json

theorem fieldsOfJson_eq_map (fields : List (String × Json)) :
    fieldsOfJson fields = fields.map fun field => (some field.1, ofJson field.2) := by
  induction fields with
  | nil => rfl
  | cons field fields ih => rw [fieldsOfJson, ih, List.map_cons]

mutual

/-- A tree that nests within the limit has a value, which is the value it was made of if that is
canonical. -/
theorem exists_toJson?_ofJson {limit : Nat} (v : Json) (h : v.depth ≤ limit) :
    ∃ w, toJson? limit (ofJson v) = some w ∧ (v.Canonical → w = v) := by
  cases v with
  | null => exact ⟨.null, rfl, fun _ => rfl⟩
  | bool b => exact ⟨.bool b, rfl, fun _ => rfl⟩
  | number n => exact ⟨.number n, rfl, fun _ => rfl⟩
  | string s => exact ⟨.string s, rfl, fun _ => rfl⟩
  | array items =>
    cases limit with
    | zero => simp [depth] at h
    | succ limit =>
      have hitems : itemsDepth items ≤ limit := by simpa [depth] using h
      obtain ⟨ws, hws, heq⟩ := exists_itemsToJson?_itemsOfJson items hitems
      exact ⟨.array ws, by simp [ofJson, toJson?, hws], fun hc => by rw [heq hc]⟩
  | object fields =>
    cases limit with
    | zero => simp [depth] at h
    | succ limit =>
      have hfields : fieldsDepth fields ≤ limit := by simpa [depth] using h
      obtain ⟨ws, hws, heq⟩ := exists_fieldsToJson?_fieldsOfJson fields hfields
      refine ⟨.object (Entries.ofList ws), by simp [ofJson, toJson?, hws], fun hc => ?_⟩
      rw [heq hc.2, Entries.ofList_of_ascending hc.1]

theorem exists_itemsToJson?_itemsOfJson {limit : Nat} (items : List Json)
    (h : itemsDepth items ≤ limit) :
    ∃ ws, itemsToJson? limit (itemsOfJson items) = some ws ∧ (ItemsCanonical items → ws = items) := by
  cases items with
  | nil => exact ⟨[], rfl, fun _ => rfl⟩
  | cons item items =>
    rw [itemsDepth, Nat.max_le] at h
    obtain ⟨w, hw, heq⟩ := exists_toJson?_ofJson item h.1
    obtain ⟨ws, hws, heqs⟩ := exists_itemsToJson?_itemsOfJson items h.2
    exact ⟨w :: ws, by simp [itemsOfJson, itemsToJson?, hw, hws], fun hc => by
      rw [heq hc.1, heqs hc.2]⟩

theorem exists_fieldsToJson?_fieldsOfJson {limit : Nat} (fields : List (String × Json))
    (h : fieldsDepth fields ≤ limit) :
    ∃ ws, fieldsToJson? limit (fieldsOfJson fields) = some ws ∧
      (FieldsCanonical fields → ws = fields) := by
  cases fields with
  | nil => exact ⟨[], rfl, fun _ => rfl⟩
  | cons field fields =>
    obtain ⟨key, value⟩ := field
    rw [fieldsDepth, Nat.max_le] at h
    obtain ⟨w, hw, heq⟩ := exists_toJson?_ofJson value h.1
    obtain ⟨ws, hws, heqs⟩ := exists_fieldsToJson?_fieldsOfJson fields h.2
    exact ⟨(key, w) :: ws, by simp [fieldsOfJson, fieldsToJson?, hw, hws], fun hc => by
      rw [heq hc.1, heqs hc.2]⟩

end

end NotebookKernel.Scanned
