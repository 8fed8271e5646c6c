import NotebookKernel.Host.Path
import NotebookKernel.Proofs.Text.Pieces

/-!
# Names of files

A name put behind the path of any directory is one component more, the last one
(`Path.components_append`), and a name that was given an extension is cut at the dot in front of it.
Different names stay different with one extension. In turn, every name that has an extension is its stem,
a dot and the extension.
-/

namespace NotebookKernel.Path

open Text

/-- The text names an entry of a directory. -/
structure IsFileName (name : String) : Prop where
  ne_empty : name ≠ ""
  ne_current : name ≠ "."
  ne_parent : name ≠ ".."
  no_slash : '/' ∉ name.toList

theorem isAbsolute_eq_false {name : String} (h : IsFileName name) : isAbsolute ⟨name⟩ = false := by
  have hhead : name.toList.head? ≠ some '/' := fun heq => h.no_slash (List.mem_of_head? heq)
  simpa [isAbsolute] using hhead

/-- The name stands alone, behind a slash that is there already, or behind one that is put in. -/
theorem text_append (dir : Path) {name : String} (h : IsFileName name) :
    dir.text = "" ∧ (dir ++ name).text = name ∨
      (∃ front, dir.text.toList = front ++ ['/'] ∧
        (dir ++ name).text.toList = front ++ '/' :: name.toList) ∨
      dir.text ≠ "" ∧ (dir ++ name).text.toList = dir.text.toList ++ '/' :: name.toList := by
  have happend : dir ++ name = append dir ⟨name⟩ := rfl
  rw [happend, append, isAbsolute_eq_false h]
  by_cases hempty : dir.text = ""
  · exact .inl (by simp [hempty])
  · right
    by_cases hslash : dir.text.toList.getLast? = some '/'
    · obtain ⟨front, hfront⟩ := List.getLast?_eq_some_iff.mp hslash
      exact .inl ⟨front, hfront, by simp [hfront]⟩
    · exact .inr ⟨hempty, by simp [hempty, hslash]⟩

theorem isAbsolute_append (dir : Path) {name : String} (h : IsFileName name) :
    (dir ++ name).isAbsolute = dir.isAbsolute := by
  rcases text_append dir h with ⟨hempty, htext⟩ | ⟨front, hdir, htext⟩ | ⟨hempty, htext⟩
  · have hname := isAbsolute_eq_false h
    rw [isAbsolute] at hname
    simp [isAbsolute, htext, hempty, hname]
  · cases front <;> simp [isAbsolute, htext, hdir]
  · obtain ⟨c, rest, hdir⟩ := List.exists_cons_of_ne_nil (mt String.toList_eq_nil_iff.mp hempty)
    simp [isAbsolute, htext, hdir]

theorem names_append (dir : Path) {name : String} (h : IsFileName name) :
    (dir ++ name).names = dir.names ++ [name] := by
  have hname : Chars.splitOn (· == '/') name.toList = [name.toList] :=
    Chars.splitOn_of_forall fun c hc => by
      simpa using fun heq : c = '/' => h.no_slash (heq ▸ hc)
  have hcut (front rest : List Char) : Chars.splitOn (· == '/') (front ++ '/' :: rest) =
      Chars.splitOn (· == '/') front ++ Chars.splitOn (· == '/') rest :=
    Chars.splitOn_append_cons (by simp) front rest
  rcases text_append dir h with ⟨hempty, htext⟩ | ⟨front, hdir, htext⟩ | ⟨-, htext⟩
  · simp [names, splitOn, htext, hempty, hname, h.ne_empty, Chars.splitOn]
  · simp [names, splitOn, htext, hdir, hcut, hname, h.ne_empty, Chars.splitOn]
  · simp [names, splitOn, htext, hcut, hname, h.ne_empty]

/-- A name that is put behind a path is one component more. -/
theorem components_append (dir : Path) {name : String} (h : IsFileName name) :
    (dir ++ name).components = dir.components ++ [.name name] := by
  have hne := h.ne_current
  have hne' := h.ne_parent
  simp only [components, isAbsolute_append dir h, names_append dir h]
  split
  · simp [hne, hne']
  · cases dir.names with
    | nil => simp [hne, hne']
    | cons first rest => by_cases hfirst : first = "." <;> simp [hfirst, hne, hne']

theorem fileName?_append (dir : Path) {name : String} (h : IsFileName name) :
    (dir ++ name).fileName? = some name := by
  rw [fileName?, components_append dir h, List.getLast?_concat]

/-! ## Extensions -/

theorem splitExtension_append {stem extension : String} (hstem : stem ≠ "")
    (hextension : '.' ∉ extension.toList) :
    splitExtension (stem ++ "." ++ extension).toList = (stem.toList, some extension.toList) := by
  have hlast : Chars.splitOn (· == '.') extension.toList = [extension.toList] :=
    Chars.splitOn_of_forall fun c hc => by
      simpa using fun heq : c = '.' => hextension (heq ▸ hc)
  have hname : (stem ++ "." ++ extension).toList = stem.toList ++ '.' :: extension.toList := by
    simp
  have hcut : (Chars.splitOn (· == '.') (stem ++ "." ++ extension).toList).reverse =
      extension.toList :: (Chars.splitOn (· == '.') stem.toList).reverse := by
    rw [hname, Chars.splitOn_append_cons (by simp), hlast]
    simp
  have hne : (Chars.splitOn (· == '.') stem.toList).reverse ≠ [] := by
    simpa using Chars.splitOn_ne_nil (· == '.') stem.toList
  obtain ⟨piece, pieces, hpieces⟩ := List.exists_cons_of_ne_nil hne
  have hbefore : List.intercalate ['.'] (piece :: pieces).reverse = stem.toList := by
    rw [← hpieces, List.reverse_reverse, Chars.intercalate_splitOn]
  rw [splitExtension, hcut, hpieces]
  simp only [hbefore]
  simp [hstem]

theorem intercalate_concat (separator : List Char) {pieces : List (List Char)} (hne : pieces ≠ [])
    (piece : List Char) : List.intercalate separator (pieces ++ [piece]) =
      List.intercalate separator pieces ++ separator ++ piece := by
  induction pieces with
  | nil => contradiction
  | cons first pieces ih =>
    cases pieces with
    | nil => simp [List.intercalate_cons_cons]
    | cons second pieces =>
      rw [List.cons_append, List.cons_append, List.intercalate_cons_cons, ← List.cons_append,
        ih (by simp), List.intercalate_cons_cons]
      simp only [List.append_assoc]

/-- A name that has an extension is put together from its parts. -/
theorem eq_append_of_splitExtension {name extension : List Char}
    (h : (splitExtension name).2 = some extension) :
    name = (splitExtension name).1 ++ '.' :: extension ∧ (splitExtension name).1 ≠ [] := by
  unfold splitExtension at h ⊢
  split at h
  · next last stem more hpieces =>
    have hcut : Chars.splitOn (· == '.') name = (stem :: more).reverse ++ [last] := by
      rw [← List.reverse_reverse (Chars.splitOn _ name), hpieces, List.reverse_cons]
    have hname := Chars.intercalate_splitOn '.' name
    rw [hcut, intercalate_concat _ (by simp)] at hname
    dsimp only at h ⊢
    split at h
    · cases h
    · next hempty =>
      cases h
      rw [if_neg hempty]
      refine ⟨?_, by simpa using hempty⟩
      simpa using hname.symm
  · cases h

theorem eq_append_of_extension? {dir : Path} {name stem extension : String} (hname : IsFileName name)
    (hstem : (dir ++ name).stem? = some stem)
    (hextension : (dir ++ name).extension? = some extension) :
    name = stem ++ "." ++ extension ∧ stem ≠ "" := by
  rw [stem?, fileName?_append dir hname, Option.map_some, Option.some_inj] at hstem
  rw [extension?, fileName?_append dir hname, Option.bind_some, Option.map_eq_some_iff] at hextension
  obtain ⟨ext, hext, rfl⟩ := hextension
  obtain ⟨hparts, hne⟩ := eq_append_of_splitExtension hext
  rw [← hstem]
  constructor
  · rw [← String.toList_inj]
    simpa using hparts
  · simpa using hne

section

variable {stem extension : String} (hname : IsFileName (stem ++ "." ++ extension))
  (hstem : stem ≠ "") (hextension : '.' ∉ extension.toList) (dir : Path)

include hname hstem hextension

theorem stem?_append : (dir ++ (stem ++ "." ++ extension)).stem? = some stem := by
  rw [stem?, fileName?_append dir hname, Option.map_some, splitExtension_append hstem hextension,
    String.ofList_toList]

theorem extension?_append : (dir ++ (stem ++ "." ++ extension)).extension? = some extension := by
  rw [extension?, fileName?_append dir hname, Option.bind_some,
    splitExtension_append hstem hextension, Option.map_some, String.ofList_toList]

end

end NotebookKernel.Path
