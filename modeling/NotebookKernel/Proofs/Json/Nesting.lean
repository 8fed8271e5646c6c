import NotebookKernel.Json.Reader
import NotebookKernel.Proofs.Json.Tree

/-!
# What readers give

A free-form value that was read within a limit nests within the limit, and its objects are in order of
their keys. `Reader.Gives` states such a property of a reader, and the lemmas on records and tagged
values carry it from the fields to the whole.
-/

namespace NotebookKernel

open Json

variable {α : Type}

namespace Json

theorem depth_array_le_iff {items : List Json} {n : Nat} :
    (array items).depth ≤ n + 1 ↔ ∀ v ∈ items, v.depth ≤ n := by
  rw [depth, Nat.add_le_add_iff_right, itemsDepth_le_iff]

theorem depth_object_le_iff {fields : List (String × Json)} {n : Nat} :
    (object fields).depth ≤ n + 1 ↔ ∀ field ∈ fields, field.2.depth ≤ n := by
  rw [depth, Nat.add_le_add_iff_right, fieldsDepth_le_iff]

theorem depth_array_le_max_iff {items : List Json} {n k : Nat} :
    (array items).depth ≤ max (n + 1) (k + 1) ↔ ∀ v ∈ items, v.depth ≤ max n k := by
  rw [Nat.add_max_add_right, depth_array_le_iff]

theorem depth_object_le_max_iff {fields : List (String × Json)} {n k : Nat} :
    (object fields).depth ≤ max (n + 1) (k + 1) ↔ ∀ field ∈ fields, field.2.depth ≤ max n k := by
  rw [Nat.add_max_add_right, depth_object_le_iff]

theorem depth_ofStrings_le (texts : List String) (n : Nat) : (ofStrings texts).depth ≤ n + 1 := by
  rw [ofStrings, depth_array_le_iff, List.forall_mem_map]
  exact fun _ _ => Nat.zero_le n

theorem depth_count_le (count : Option UInt32) (n : Nat) :
    (ofOption (fun c => ofNat c.toNat) count).depth ≤ n := by
  cases count <;> exact Nat.zero_le n

theorem depth_optionalField_le {key : String} {f : α → Json} {o : Option α} {n : Nat}
    (h : ∀ a ∈ o, (f a).depth ≤ n) : ∀ field ∈ optionalField key f o, field.2.depth ≤ n := by
  cases o with
  | none => rintro _ ⟨⟩
  | some a => exact List.forall_mem_singleton.mpr (h a rfl)

end Json

namespace Scanned

mutual

theorem toJson?_spec {limit : Nat} (v : Scanned) {w : Json} (h : toJson? limit v = some w) :
    w.Canonical ∧ w.depth ≤ limit := by
  cases v with
  | null => cases h; exact ⟨trivial, Nat.zero_le _⟩
  | bool b => cases h; exact ⟨trivial, Nat.zero_le _⟩
  | number n =>
    obtain ⟨n, -, rfl⟩ := Option.map_eq_some_iff.mp h
    exact ⟨trivial, Nat.zero_le _⟩
  | string s =>
    obtain ⟨s, -, rfl⟩ := Option.map_eq_some_iff.mp h
    exact ⟨trivial, Nat.zero_le _⟩
  | array items =>
    cases limit with
    | zero => cases h
    | succ limit =>
      obtain ⟨ws, hws, rfl⟩ := Option.map_eq_some_iff.mp h
      have hspec := itemsToJson?_spec items hws
      exact ⟨itemsCanonical_iff.mpr fun w hw => (hspec w hw).1,
        depth_array_le_iff.mpr fun w hw => (hspec w hw).2⟩
  | object fields =>
    cases limit with
    | zero => cases h
    | succ limit =>
      obtain ⟨ws, hws, rfl⟩ := Option.map_eq_some_iff.mp h
      have hspec : ∀ field ∈ Entries.ofList ws, _ := fun field hfield =>
        fieldsToJson?_spec fields hws field (Entries.mem_of_mem_ofList hfield)
      exact ⟨⟨Entries.ascending_ofList ws, fieldsCanonical_iff.mpr fun f hf => (hspec f hf).2.1⟩,
        depth_object_le_iff.mpr fun f hf => (hspec f hf).2.2⟩

theorem itemsToJson?_spec {limit : Nat} (items : List Scanned) {ws : List Json}
    (h : itemsToJson? limit items = some ws) : ∀ w ∈ ws, w.Canonical ∧ w.depth ≤ limit := by
  cases items with
  | nil =>
    cases h
    exact List.forall_mem_nil _
  | cons item items =>
    simp only [itemsToJson?, Option.bind_eq_bind, Option.bind_eq_some_iff, Option.pure_def,
      Option.some.injEq] at h
    obtain ⟨w, hw, others, hothers, rfl⟩ := h
    exact List.forall_mem_cons.mpr ⟨toJson?_spec item hw, itemsToJson?_spec items hothers⟩

/-- The fields keep their keys. -/
theorem fieldsToJson?_spec {limit : Nat} (fields : List (Option String × Scanned))
    {ws : List (String × Json)} (h : fieldsToJson? limit fields = some ws) :
    ∀ w ∈ ws, some w.1 ∈ fields.map Prod.fst ∧ w.2.Canonical ∧ w.2.depth ≤ limit := by
  cases fields with
  | nil =>
    cases h
    exact List.forall_mem_nil _
  | cons field fields =>
    obtain ⟨key, value⟩ := field
    simp only [fieldsToJson?, Option.bind_eq_bind, Option.bind_eq_some_iff, Option.pure_def,
      Option.some.injEq] at h
    obtain ⟨key, rfl, w, hw, others, hothers, rfl⟩ := h
    refine List.forall_mem_cons.mpr ⟨⟨List.mem_cons_self, toJson?_spec value hw⟩, fun f hf => ?_⟩
    obtain ⟨hkey, hspec⟩ := fieldsToJson?_spec fields hothers f hf
    exact ⟨List.mem_cons_of_mem _ hkey, hspec⟩

end

end Scanned

namespace Reader

/-- Whatever is read within a limit has the property. -/
def Gives (read : Reader α) (P : Nat → α → Prop) : Prop :=
  ∀ limit v a, read limit v = some a → P limit a

/-- A free-form object has only keys of what was read. -/
theorem map_spec {limit : Nat} {fields : List (Option String × Scanned)} {m : SortedMap Json}
    (h : map limit (.object fields) = some m) :
    ∀ field ∈ m.toList, some field.1 ∈ fields.map Prod.fst := by
  cases limit with
  | zero => cases h
  | succ limit =>
    cases hws : Scanned.fieldsToJson? limit fields with
    | none => simp [map, Scanned.toJson?, hws] at h
    | some ws =>
      simp only [map, Scanned.toJson?, hws, Option.map_some, Option.some.injEq] at h
      subst h
      intro field hfield
      have hmem := Entries.mem_of_mem_ofList (Entries.mem_of_mem_ofList hfield)
      exact (Scanned.fieldsToJson?_spec fields hws field hmem).1

theorem gives_map : Gives map fun limit m =>
    (∀ field ∈ m.toList, field.2.Canonical) ∧ (Json.object m.toList).depth ≤ limit := by
  intro limit v m h
  simp only [map] at h
  split at h
  · next fields hfields =>
    cases h
    obtain ⟨⟨hascending, hcanonical⟩, hdepth⟩ := Scanned.toJson?_spec v hfields
    have hsorted : (SortedMap.ofList fields).toList = fields :=
      Entries.ofList_of_ascending hascending
    rw [hsorted]
    exact ⟨fieldsCanonical_iff.mp hcanonical, hdepth⟩
  · cases h

theorem gives_list {read : Reader α} {P : Nat → α → Prop} (h : Gives read P) :
    Gives (list read) fun limit items => ∃ n, limit = n + 1 ∧ ∀ a ∈ items, P n a := by
  intro limit v items hread
  simp only [list] at hread
  split at hread
  · next n vs =>
    refine ⟨n, rfl, ?_⟩
    induction vs generalizing items with
    | nil =>
      cases hread
      exact List.forall_mem_nil _
    | cons v vs ih =>
      simp only [List.mapM_cons, Option.bind_eq_bind, Option.bind_eq_some_iff, Option.pure_def,
        Option.some.injEq] at hread
      obtain ⟨a, ha, others, hothers, rfl⟩ := hread
      exact List.forall_mem_cons.mpr ⟨h _ _ _ ha, ih others hothers⟩
  · cases hread

/-- An array has one level around its items. -/
theorem gives_array {read : Reader α} {f : α → Json} {C : α → Prop} {k : Nat}
    (h : Gives read fun limit a => C a ∧ (f a).depth ≤ max limit k) :
    Gives (list read) fun limit items => (∀ a ∈ items, C a) ∧
      (Json.array (items.map f)).depth ≤ max limit (k + 1) := by
  intro limit v items hread
  obtain ⟨n, rfl, hitems⟩ := gives_list h _ _ _ hread
  rw [depth_array_le_max_iff]
  exact ⟨fun a ha => (hitems a ha).1, List.forall_mem_map.mpr fun a ha => (hitems a ha).2⟩

theorem gives_nullable {read : Reader α} {P : Nat → α → Prop} (h : Gives read P) :
    Gives (nullable read) fun limit o => ∀ a ∈ o, P limit a := by
  intro limit v o hread a ha
  simp only [nullable] at hread
  split at hread
  · cases hread
    cases ha
  · obtain ⟨b, hb, rfl⟩ := Option.map_eq_some_iff.mp hread
    cases ha
    exact h _ _ _ hb

end Reader

namespace Record

open Reader

variable {r : Record} {key : String} {read : Reader α} {P : Nat → α → Prop}

theorem limit_of_ofScanned? {known : List String} {limit : Nat} {v : Scanned}
    (h : ofScanned? known limit v = some r) : limit = r.limit + 1 := by
  simp only [ofScanned?] at h
  split at h
  · obtain ⟨picked, -, h⟩ := Option.bind_eq_some_iff.mp h
    cases h
    rfl
  · split at h
    · cases h
      rfl
    · cases h
  · cases h

theorem required?_spec (h : Gives read P) {a : α} (hread : r.required? key read = some a) :
    P r.limit a := by
  simp only [required?] at hread
  split at hread
  · exact h _ _ _ hread
  · cases hread

theorem withDefault?_spec (h : Gives read P) {default a : α} (hdefault : P r.limit default)
    (hread : r.withDefault? key default read = some a) : P r.limit a := by
  simp only [withDefault?] at hread
  split at hread
  · exact h _ _ _ hread
  · cases hread
    exact hdefault

theorem optional?_spec (h : Gives read P) {o : Option α}
    (hread : r.optional? key read = some o) : ∀ a ∈ o, P r.limit a :=
  withDefault?_spec (gives_nullable h) (fun _ hnone => (Option.not_mem_none _ hnone).elim) hread

/-- A missing array is read as an empty one. -/
theorem withDefault?_array_spec {f : α → Json} {C : α → Prop} {k : Nat}
    (h : Gives read fun limit a => C a ∧ (f a).depth ≤ max limit k) {items : List α}
    (hread : r.withDefault? key [] (list read) = some items) :
    (∀ a ∈ items, C a) ∧ (Json.array (items.map f)).depth ≤ max r.limit (k + 1) := by
  have hempty : (Json.array []).depth ≤ max r.limit (k + 1) :=
    Nat.le_trans (depth_array_le_iff.mpr (List.forall_mem_nil _)) (Nat.le_max_right _ _)
  exact withDefault?_spec (gives_array h) ⟨List.forall_mem_nil _, hempty⟩ hread

end Record

namespace Tagged

theorem limit_of_ofScanned? {key : String} {numbered : List String} {limit : Nat} {v : Scanned}
    {t : Tagged} (h : ofScanned? key numbered limit v = some t) : t.limit = limit := by
  -- the three forms of a value first, then those of a tag
  have hpure : ∀ (o : Option String) (content : Scanned),
      (o.bind fun tag => some (⟨tag, content, limit⟩ : Tagged)) = some t → t.limit = limit := by
    intro o content h
    obtain ⟨tag, -, h⟩ := Option.bind_eq_some_iff.mp h
    cases h
    rfl
  obtain ⟨_, -, h⟩ := Option.bind_eq_some_iff.mp h
  simp only [Option.bind_eq_bind, Option.pure_def, Option.bind_some] at h
  split at h
  · obtain ⟨_, -, h⟩ := Option.bind_eq_some_iff.mp h
    split at h
    · exact hpure _ _ h
    · split at h <;> exact hpure _ _ h
    · exact hpure _ _ h
  · split at h
    · exact hpure _ _ h
    · split at h <;> exact hpure _ _ h
    · exact hpure _ _ h
  · cases h

end Tagged

end NotebookKernel
