/-! # Maps in ascending key order

`SortedMap α` maps texts to values of `α` and keeps its entries in ascending order of the keys, which
is the order in which they are listed and written. Two maps with the same look-ups are equal
(`ext_get?`). The operations on bare entry lists serve values that hold a map of themselves. -/

namespace NotebookKernel

namespace Entries

variable {α : Type _}

/-- The entries are in strictly ascending order of their keys. -/
abbrev Ascending (entries : List (String × α)) : Prop :=
  entries.Pairwise fun a b => a.1 < b.1

/-- Puts an entry into its place, in exchange for one with the same key. -/
def insert (key : String) (value : α) : List (String × α) → List (String × α)
  | [] => [(key, value)]
  | (k, v) :: rest =>
    if key < k then (key, value) :: (k, v) :: rest
    else if key = k then (key, value) :: rest
    else (k, v) :: insert key value rest

/-- Takes out the entries with the given key. -/
def erase (key : String) (entries : List (String × α)) : List (String × α) :=
  entries.filter (·.1 != key)

/-- The value of the first entry with the given key. -/
def get? (key : String) : List (String × α) → Option α
  | [] => none
  | (k, v) :: rest => if k = key then some v else get? key rest

/-- Sorts entries that come in any order; of entries with one key the last is kept. -/
def ofList (entries : List (String × α)) : List (String × α) :=
  entries.foldl (fun sorted entry => insert entry.1 entry.2 sorted) []

theorem lt_of_not_lt_of_ne {a b : String} (h : ¬a < b) (hne : a ≠ b) : b < a := by
  rcases String.le_total a b with hab | hba
  · exact absurd (String.le_antisymm hab (String.not_lt.mp h)) hne
  · exact String.not_le.mp fun hab => hne (String.le_antisymm hab hba)

theorem mem_insert {key : String} {value : α} {entry : String × α} {entries : List (String × α)}
    (h : entry ∈ insert key value entries) : entry = (key, value) ∨ entry ∈ entries := by
  induction entries with
  | nil => simpa [insert] using h
  | cons e rest ih =>
    obtain ⟨k, v⟩ := e
    simp only [insert] at h
    split at h
    · simpa using h
    · split at h
      · rcases List.mem_cons.mp h with h | h
        · exact .inl h
        · exact .inr (List.mem_cons_of_mem _ h)
      · rcases List.mem_cons.mp h with h | h
        · exact .inr (h ▸ List.mem_cons_self)
        · exact (ih h).imp_right (List.mem_cons_of_mem _)

theorem ascending_insert {key : String} {value : α} {entries : List (String × α)}
    (h : Ascending entries) : Ascending (insert key value entries) := by
  induction entries with
  | nil => simp [insert]
  | cons e rest ih =>
    obtain ⟨k, v⟩ := e
    obtain ⟨hk, hrest⟩ := List.pairwise_cons.mp h
    simp only [insert]
    split
    · next hlt =>
      refine List.pairwise_cons.mpr ⟨fun x hx => ?_, h⟩
      rcases List.mem_cons.mp hx with rfl | hx
      · exact hlt
      · exact String.lt_trans hlt (hk x hx)
    · split
      · next heq => subst heq; exact List.pairwise_cons.mpr ⟨hk, hrest⟩
      · next hlt hne =>
        refine List.pairwise_cons.mpr ⟨fun x hx => ?_, ih hrest⟩
        rcases mem_insert hx with rfl | hx
        · exact lt_of_not_lt_of_ne hlt hne
        · exact hk x hx

theorem ascending_erase {key : String} {entries : List (String × α)} (h : Ascending entries) :
    Ascending (erase key entries) :=
  h.filter _

theorem ascending_ofList (entries : List (String × α)) : Ascending (ofList entries) := by
  suffices ∀ sorted : List (String × α), Ascending sorted →
      Ascending (entries.foldl (fun sorted entry => insert entry.1 entry.2 sorted) sorted) from
    this [] List.Pairwise.nil
  induction entries with
  | nil => exact fun _ h => h
  | cons e rest ih => exact fun _ h => ih _ (ascending_insert h)

theorem get?_insert (key k : String) (value : α) (entries : List (String × α)) :
    get? k (insert key value entries) = if key = k then some value else get? k entries := by
  induction entries with
  | nil => simp [insert, get?]
  | cons e rest ih =>
    obtain ⟨k', v'⟩ := e
    simp only [insert]
    split
    · simp [get?]
    · split
      · next heq => subst heq; by_cases h : key = k <;> simp [get?, h]
      · next hne =>
        simp only [get?, ih]
        by_cases h : k' = k
        · subst h; simp [hne]
        · simp [h]

theorem get?_erase (key k : String) (entries : List (String × α)) :
    get? k (erase key entries) = if key = k then none else get? k entries := by
  induction entries with
  | nil => simp [erase, get?]
  | cons e rest ih =>
    obtain ⟨k', v'⟩ := e
    simp only [erase] at ih
    by_cases h : k' = key
    · subst h
      by_cases hk : k' = k
      · simp [erase, hk] at ih ⊢; exact ih
      · simp [erase, get?, hk] at ih ⊢; exact ih
    · by_cases hk : k' = k
      · subst hk; simp [erase, get?, h, Ne.symm h]
      · simp [erase, get?, h, hk] at ih ⊢; exact ih

theorem get?_eq_none_of_lt {k : String} {entries : List (String × α)}
    (h : ∀ entry ∈ entries, k < entry.1) : get? k entries = none := by
  induction entries with
  | nil => rfl
  | cons e rest ih =>
    have hlt := h e List.mem_cons_self
    have hne : e.1 ≠ k := fun heq => String.lt_irrefl _ (heq ▸ hlt)
    simp [get?, hne, ih fun x hx => h x (List.mem_cons_of_mem _ hx)]

theorem eq_of_get? {a b : List (String × α)} (ha : Ascending a) (hb : Ascending b)
    (h : ∀ key, get? key a = get? key b) : a = b := by
  induction a generalizing b with
  | nil =>
    cases b with
    | nil => rfl
    | cons e rest => have := h e.1; simp [get?] at this
  | cons e rest ih =>
    obtain ⟨k, v⟩ := e
    obtain ⟨hk, hrest⟩ := List.pairwise_cons.mp ha
    cases b with
    | nil => have := h k; simp [get?] at this
    | cons e' rest' =>
      obtain ⟨k', v'⟩ := e'
      obtain ⟨hk', hrest'⟩ := List.pairwise_cons.mp hb
      have hkk : k = k' := by
        by_cases heq : k = k'
        · exact heq
        by_cases hlt : k < k'
        · have hnone : get? k ((k', v') :: rest') = none := get?_eq_none_of_lt fun x hx => by
            rcases List.mem_cons.mp hx with rfl | hx
            · exact hlt
            · exact String.lt_trans hlt (hk' x hx)
          have := h k
          rw [hnone] at this
          simp [get?] at this
        · have hgt := lt_of_not_lt_of_ne hlt heq
          have hnone : get? k' ((k, v) :: rest) = none := get?_eq_none_of_lt fun x hx => by
            rcases List.mem_cons.mp hx with rfl | hx
            · exact hgt
            · exact String.lt_trans hgt (hk x hx)
          have := h k'
          rw [hnone] at this
          simp [get?] at this
      subst hkk
      have hv := h k
      simp only [get?, if_true, Option.some.injEq] at hv
      subst hv
      refine congrArg _ (ih hrest hrest' fun key => ?_)
      have := h key
      simp only [get?] at this
      by_cases heq : k = key
      · subst heq
        rw [get?_eq_none_of_lt hk, get?_eq_none_of_lt hk']
      · simpa [heq] using this

theorem mem_of_get? {key : String} {value : α} {entries : List (String × α)}
    (h : get? key entries = some value) : (key, value) ∈ entries := by
  induction entries with
  | nil => simp [get?] at h
  | cons e rest ih =>
    obtain ⟨k, v⟩ := e
    simp only [get?] at h
    split at h
    · next heq => subst heq; cases h; exact List.mem_cons_self
    · exact List.mem_cons_of_mem _ (ih h)

theorem get?_of_mem {key : String} {value : α} {entries : List (String × α)}
    (h : Ascending entries) (hm : (key, value) ∈ entries) : get? key entries = some value := by
  induction entries with
  | nil => simp at hm
  | cons e rest ih =>
    obtain ⟨k, v⟩ := e
    obtain ⟨hk, hrest⟩ := List.pairwise_cons.mp h
    rcases List.mem_cons.mp hm with heq | hm
    · cases heq; simp [get?]
    · have hne : k ≠ key := fun heq => String.lt_irrefl _ (heq ▸ hk _ hm)
      simp [get?, hne, ih hrest hm]

theorem insert_eq_append {key : String} {value : α} {entries : List (String × α)}
    (h : ∀ entry ∈ entries, entry.1 < key) : insert key value entries = entries ++ [(key, value)] := by
  induction entries with
  | nil => rfl
  | cons e rest ih =>
    obtain ⟨k, v⟩ := e
    have hlt : k < key := h (k, v) List.mem_cons_self
    have hnlt : ¬key < k := fun hgt => String.lt_irrefl _ (String.lt_trans hlt hgt)
    have hne : key ≠ k := fun heq => String.lt_irrefl _ (heq ▸ hlt)
    simp [insert, hnlt, hne, ih fun x hx => h x (List.mem_cons_of_mem _ hx)]

theorem mem_of_mem_ofList {entry : String × α} {entries : List (String × α)}
    (h : entry ∈ ofList entries) : entry ∈ entries := by
  suffices ∀ sorted : List (String × α),
      entry ∈ entries.foldl (fun sorted entry => insert entry.1 entry.2 sorted) sorted →
      entry ∈ sorted ∨ entry ∈ entries from (this [] h).resolve_left List.not_mem_nil
  clear h
  intro sorted h
  induction entries generalizing sorted with
  | nil => exact .inl h
  | cons e rest ih =>
    rcases ih _ h with h | h
    · rcases mem_insert h with rfl | h
      · exact .inr List.mem_cons_self
      · exact .inl h
    · exact .inr (List.mem_cons_of_mem _ h)

/-- Entries that are in order already stay as they are. -/
theorem ofList_of_ascending {entries : List (String × α)} (h : Ascending entries) :
    ofList entries = entries := by
  suffices ∀ sorted : List (String × α), Ascending (sorted ++ entries) →
      entries.foldl (fun sorted entry => insert entry.1 entry.2 sorted) sorted
        = sorted ++ entries from this [] h
  intro sorted hsorted
  induction entries generalizing sorted with
  | nil => simp
  | cons e rest ih =>
    have hlt : ∀ entry ∈ sorted, entry.1 < e.1 := fun entry hentry =>
      (List.pairwise_append.mp hsorted).2.2 entry hentry e List.mem_cons_self
    rw [List.foldl_cons, insert_eq_append hlt]
    simpa using ih (List.pairwise_cons.mp h).2 (sorted ++ [e]) (by simpa using hsorted)

end Entries

/-- A map from texts to values, its entries in ascending order of the keys. -/
structure SortedMap (α : Type) where
  toList : List (String × α)
  ascending : Entries.Ascending toList
  deriving DecidableEq

namespace SortedMap

variable {α : Type}

instance : EmptyCollection (SortedMap α) := ⟨⟨[], List.Pairwise.nil⟩⟩

instance : Inhabited (SortedMap α) := ⟨∅⟩

def isEmpty (m : SortedMap α) : Bool := m.toList.isEmpty

def get? (m : SortedMap α) (key : String) : Option α := Entries.get? key m.toList

def contains (m : SortedMap α) (key : String) : Bool := (m.get? key).isSome

def keys (m : SortedMap α) : List String := m.toList.map (·.1)

def insert (m : SortedMap α) (key : String) (value : α) : SortedMap α :=
  ⟨Entries.insert key value m.toList, Entries.ascending_insert m.ascending⟩

def erase (m : SortedMap α) (key : String) : SortedMap α :=
  ⟨Entries.erase key m.toList, Entries.ascending_erase m.ascending⟩

/-- The map of a list of entries; of entries with one key the last counts. -/
def ofList (entries : List (String × α)) : SortedMap α :=
  ⟨Entries.ofList entries, Entries.ascending_ofList entries⟩

@[simp] theorem get?_empty (key : String) : (∅ : SortedMap α).get? key = none := rfl

theorem get?_insert (m : SortedMap α) (key k : String) (value : α) :
    (m.insert key value).get? k = if key = k then some value else m.get? k :=
  Entries.get?_insert key k value m.toList

theorem get?_erase (m : SortedMap α) (key k : String) :
    (m.erase key).get? k = if key = k then none else m.get? k :=
  Entries.get?_erase key k m.toList

theorem get?_ofList_singleton (key k : String) (value : α) :
    (ofList [(key, value)]).get? k = if key = k then some value else none := by
  simp [ofList, get?, Entries.ofList, Entries.insert, Entries.get?]

theorem get?_eq_some_iff {m : SortedMap α} {key : String} {value : α} :
    m.get? key = some value ↔ (key, value) ∈ m.toList :=
  ⟨Entries.mem_of_get?, Entries.get?_of_mem m.ascending⟩

theorem contains_iff {m : SortedMap α} {key : String} : m.contains key = true ↔ key ∈ m.keys := by
  rw [contains, Option.isSome_iff_exists, keys, List.mem_map]
  constructor
  · rintro ⟨value, h⟩
    exact ⟨(key, value), get?_eq_some_iff.mp h, rfl⟩
  · rintro ⟨⟨k, value⟩, h, rfl⟩
    exact ⟨value, get?_eq_some_iff.mpr h⟩

theorem contains_insert (m : SortedMap α) (key k : String) (value : α) :
    (m.insert key value).contains k = (decide (key = k) || m.contains k) := by
  by_cases h : key = k <;> simp [contains, get?_insert, h]

theorem contains_erase (m : SortedMap α) (key k : String) :
    (m.erase key).contains k = (m.contains k && decide (k ≠ key)) := by
  by_cases h : key = k
  · simp [contains, get?_erase, h]
  · simp [contains, get?_erase, h, Ne.symm h]

theorem mem_keys_erase {m : SortedMap α} {key k : String} :
    k ∈ (m.erase key).keys ↔ k ∈ m.keys ∧ k ≠ key := by
  rw [← contains_iff, ← contains_iff, contains_erase]
  simp

theorem nodup_keys (m : SortedMap α) : m.keys.Nodup := by
  refine List.pairwise_map.mpr (m.ascending.imp fun {a b} hlt heq => ?_)
  rw [heq] at hlt
  exact String.lt_irrefl _ hlt

theorem ofList_toList (m : SortedMap α) : ofList m.toList = m := by
  obtain ⟨entries, h⟩ := m
  simp [ofList, Entries.ofList_of_ascending h]

theorem ext_get? {m n : SortedMap α} (h : ∀ key, m.get? key = n.get? key) : m = n := by
  obtain ⟨a, ha⟩ := m
  obtain ⟨b, hb⟩ := n
  simpa using Entries.eq_of_get? ha hb h

end SortedMap

end NotebookKernel
