import NotebookKernel.Proofs.Notebook.Foreign

/-!
# Identifiers of the cells of a document

A cell without an identifier gets one that starts with digits of its source's digest. Those that start
alike are numbered, so derived identifiers never meet, whatever the digest is
(`nodup_numberedIds`). The numbering does not look at the identifiers that cells of the document
have of their own. Where one of them is what is derived for another cell, both cells get it
(`Notebook.nodup_ids_ofDocument_iff`).
-/

namespace NotebookKernel

theorem Hex.dash_not_mem_encode (bytes : Bytes) : '-' ∉ (Hex.encode bytes).toList := by
  have hdigit : ∀ n < 16, Hex.digit n ≠ '-' := by decide
  simp only [Hex.encode, String.toList_ofList, List.mem_flatMap, not_exists, not_and]
  intro b _ hmem
  have hb : b.toNat < 256 := b.toNat_lt
  rcases List.mem_pair.mp hmem with h | h
  · exact hdigit (b.toNat / 16) (by omega) h.symm
  · exact hdigit (b.toNat % 16) (by omega) h.symm

theorem dash_not_mem_derivedBase (source : String) : '-' ∉ (derivedBase source).toList := by
  rw [derivedBase, Text.take, String.toList_ofList]
  exact fun h => Hex.dash_not_mem_encode _ (List.mem_of_mem_take h)

theorem dash_not_mem_toString (n : Nat) : '-' ∉ (toString n).toList := by
  rw [Nat.toString_eq_repr, Nat.toList_repr]
  intro h
  exact absurd (Nat.isDigit_of_mem_toDigits (by decide) (by decide) h) (by decide)

/-- The identifier that is derived from a base after `n` cells with that base. -/
def numberedId (base : String) (n : Nat) : String :=
  if n = 0 then base else base ++ "-" ++ toString (n + 1)

theorem derivedId_eq (earlier : List String) (source : String) :
    derivedId earlier source =
      numberedId (derivedBase source) (earlier.count (derivedBase source)) := by
  simp only [derivedId, numberedId, Nat.add_eq_right]

theorem toList_numberedId_succ (base : String) (n : Nat) :
    (numberedId base (n + 1)).toList = base.toList ++ '-' :: (toString (n + 2)).toList := by
  simp [numberedId]

theorem toString_injective : Function.Injective (toString : Nat → String) := by
  intro m n h
  have hdigits : Nat.toDigits 10 m = Nat.toDigits 10 n := by
    simpa only [Nat.toString_eq_repr, Nat.toList_repr] using congrArg String.toList h
  simpa using congrArg (fun ds => Nat.ofDigitChars 10 ds 0) hdigits

/-- Base and number can be read off. -/
theorem numberedId_inj {a b : String} (ha : '-' ∉ a.toList) (hb : '-' ∉ b.toList) {m n : Nat}
    (h : numberedId a m = numberedId b n) : a = b ∧ m = n := by
  have hlist := congrArg String.toList h
  cases m with
  | zero =>
    cases n with
    | zero => exact ⟨h, rfl⟩
    | succ n =>
      rw [toList_numberedId_succ] at hlist
      exact absurd (hlist ▸ List.mem_append_right _ List.mem_cons_self) ha
  | succ m =>
    cases n with
    | zero =>
      rw [toList_numberedId_succ] at hlist
      exact absurd (hlist ▸ List.mem_append_right _ List.mem_cons_self) hb
    | succ n =>
      rw [toList_numberedId_succ, toList_numberedId_succ,
        List.append_cons_inj_of_notMem ha (dash_not_mem_toString _)] at hlist
      obtain ⟨hbase, -, hnumber⟩ := hlist
      have hmn : m + 2 = n + 2 := toString_injective (String.toList_inj.mp hnumber)
      exact ⟨String.toList_inj.mp hbase, by omega⟩

/-- The identifiers that are derived one after another from bases, after cells that had the bases
`earlier`. -/
def numberedIds (earlier : List String) : List String → List String
  | [] => []
  | base :: bases =>
    numberedId base (earlier.count base) :: numberedIds (base :: earlier) bases

/-- Each base takes the numbers that follow those of the cells before. -/
theorem mem_numberedIds (earlier bases : List String) (id : String) :
    id ∈ numberedIds earlier bases ↔
      ∃ base n, earlier.count base ≤ n ∧ n < earlier.count base + bases.count base ∧
        id = numberedId base n := by
  induction bases generalizing earlier with
  | nil =>
    simp only [numberedIds, List.not_mem_nil, List.count_nil, Nat.add_zero, false_iff]
    rintro ⟨base, n, hle, hlt, -⟩
    omega
  | cons first bases ih =>
    rw [numberedIds, List.mem_cons, ih]
    constructor
    · rintro (rfl | ⟨base, n, hle, hlt, rfl⟩)
      · exact ⟨first, _, Nat.le_refl _, by rw [List.count_cons_self]; omega, rfl⟩
      · rw [List.count_cons] at hle hlt
        exact ⟨base, n, by omega, by rw [List.count_cons]; omega, rfl⟩
    · rintro ⟨base, n, hle, hlt, rfl⟩
      rw [List.count_cons] at hlt
      by_cases hnew : first = base ∧ n = earlier.count base
      · obtain ⟨rfl, rfl⟩ := hnew
        exact .inl rfl
      · refine .inr ⟨base, n, ?_, by rw [List.count_cons]; omega, rfl⟩
        rw [List.count_cons]
        split
        · next hfirst =>
          have hne : n ≠ earlier.count base := fun h => hnew ⟨by simpa using hfirst, h⟩
          omega
        · exact hle

/-- Derived identifiers are pairwise distinct. -/
theorem nodup_numberedIds (earlier : List String) {bases : List String}
    (hbases : ∀ base ∈ bases, '-' ∉ base.toList) : (numberedIds earlier bases).Nodup := by
  induction bases generalizing earlier with
  | nil => exact List.nodup_nil
  | cons first bases ih =>
    obtain ⟨hfirst, hbases⟩ := List.forall_mem_cons.mp hbases
    refine List.nodup_cons.mpr ⟨fun hmem => ?_, ih _ hbases⟩
    obtain ⟨base, n, hle, hlt, heq⟩ := (mem_numberedIds _ _ _).mp hmem
    have hbase : base ∈ bases := List.count_pos_iff.mp (by omega)
    obtain ⟨rfl, rfl⟩ := numberedId_inj hfirst (hbases base hbase) heq
    rw [List.count_cons_self] at hle
    omega

namespace DocumentCell

/-- The identifiers that cells have of their own. -/
def ownIds (cells : List DocumentCell) : List String :=
  cells.filterMap fun c => c.frame.id

/-- The base that the identifier of a cell without one starts with. -/
def unnamedBase? (c : DocumentCell) : Option String :=
  match c.frame.id with
  | some _ => none
  | none => some (derivedBase c.frame.source.toText)

/-- The bases of the cells that have no identifier of their own. -/
def unnamedBases (cells : List DocumentCell) : List String :=
  cells.filterMap unnamedBase?

theorem dash_not_mem_unnamedBases {cells : List DocumentCell} :
    ∀ base ∈ unnamedBases cells, '-' ∉ base.toList := by
  intro base hmem
  obtain ⟨c, -, hbase⟩ := List.mem_filterMap.mp hmem
  rw [unnamedBase?] at hbase
  split at hbase
  · exact nomatch hbase
  · obtain rfl := Option.some.inj hbase
    exact dash_not_mem_derivedBase _

/-- A notebook has the identifiers of the document and those that were derived. -/
theorem ids_toCells_perm (earlier : List String) (cells : List DocumentCell) :
    ((toCells earlier cells).map Cell.id).Perm
      (ownIds cells ++ numberedIds earlier (unnamedBases cells)) := by
  induction cells generalizing earlier with
  | nil => exact .nil
  | cons c cells ih =>
    rw [toCells]
    cases hid : c.frame.id with
    | some id =>
      have hown : ownIds (c :: cells) = id :: ownIds cells := List.filterMap_cons_some hid
      have hbases : unnamedBases (c :: cells) = unnamedBases cells :=
        List.filterMap_cons_none (by rw [unnamedBase?, hid])
      rw [hown, hbases]
      simpa only [List.map_cons, id_toCell, List.cons_append] using (ih earlier).cons id
    | none =>
      have hown : ownIds (c :: cells) = ownIds cells := List.filterMap_cons_none hid
      have hbases : unnamedBases (c :: cells) =
          derivedBase c.frame.source.toText :: unnamedBases cells :=
        List.filterMap_cons_some (by rw [unnamedBase?, hid])
      rw [hown, hbases, numberedIds, ← derivedId_eq]
      simpa only [List.map_cons, id_toCell] using ((ih _).cons _).trans List.perm_middle.symm

end DocumentCell

namespace Notebook

/-- The cells of a notebook that was read have pairwise distinct identifiers exactly when those of the
document are and none of them is derived for a cell without one. -/
theorem nodup_ids_ofDocument_iff (id : String) (d : Document) :
    ((ofDocument id d).cells.map Cell.id).Nodup ↔
      (DocumentCell.ownIds d.cells).Nodup ∧
        ∀ base n, n < (DocumentCell.unnamedBases d.cells).count base →
          numberedId base n ∉ DocumentCell.ownIds d.cells := by
  have hderived : (numberedIds [] (DocumentCell.unnamedBases d.cells)).Nodup :=
    nodup_numberedIds [] DocumentCell.dash_not_mem_unnamedBases
  have hids : ((ofDocument id d).cells.map Cell.id).Perm
      (DocumentCell.ownIds d.cells ++ numberedIds [] (DocumentCell.unnamedBases d.cells)) :=
    DocumentCell.ids_toCells_perm [] d.cells
  rw [hids.nodup_iff, List.nodup_append]
  constructor
  · rintro ⟨hown, -, hdisjoint⟩
    refine ⟨hown, fun base n hn hmem => hdisjoint _ hmem _ ?_ rfl⟩
    exact (mem_numberedIds _ _ _).mpr ⟨base, n, by simp, by simpa using hn, rfl⟩
  · rintro ⟨hown, hfree⟩
    refine ⟨hown, hderived, fun own hmem derived hmem' heq => ?_⟩
    obtain ⟨base, n, -, hn, rfl⟩ := (mem_numberedIds _ _ _).mp hmem'
    exact hfree base n (by simpa using hn) (heq ▸ hmem)

/-- A copy, without its identifier, of the cell that it was derived for gets it as well. -/
theorem ids_not_nodup_of_copy :
    let cells : List DocumentCell :=
      [.code ⟨some "2d711642", ∅, .single "x"⟩ none [], .code ⟨none, ∅, .single "x"⟩ none []]
    let document : Document := ⟨∅, Document.supportedFormat, 5, cells⟩
    (DocumentCell.ownIds document.cells).Nodup ∧
      ¬((ofDocument "n" document).cells.map Cell.id).Nodup := by
  decide +kernel

end Notebook

end NotebookKernel
