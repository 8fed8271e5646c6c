import NotebookKernel.Proofs.Kernel.Routes
import NotebookKernel.Proofs.Text.LetterCase
import NotebookKernel.Proofs.Text.Pieces

/-!
# Listings of directories

A listing has the directories first, then the files, and either in the order of their names in lower case.
Entries of one kind whose names differ in case only are tied: the sort is stable, so it leaves them in the
order in which the machine enumerates them. This is all of that order that shows
(`Kernel.listing_of_enumerations`).
-/

namespace NotebookKernel

open Source Text

variable {σ τ : Type}

namespace Magic

/-- Entries of one kind, with one name but for letter case. -/
def Tied (a b : DirectoryEntry) : Prop :=
  a.isDirectory = b.isDirectory ∧ lowercase a.name = lowercase b.name

instance (a b : DirectoryEntry) : Decidable (Tied a b) := inferInstanceAs (Decidable (_ ∧ _))

/-- Where `a` may stand before `b` in a listing. -/
structure InOrder (a b : DirectoryEntry) : Prop where
  directoriesFirst : b.isDirectory = true → a.isDirectory = true
  byName : a.isDirectory = b.isDirectory → lowercase a.name ≤ lowercase b.name

/-- What is shown of the entries that the machine enumerates. -/
structure Listed (entries shown : List DirectoryEntry) : Prop where
  perm : shown.Perm entries
  inOrder : shown.Pairwise InOrder
  stable : ∀ e, shown.filter (Tied e ·) = entries.filter (Tied e ·)

variable {a b c e : DirectoryEntry} {entries entries' shown shown' xs ys : List DirectoryEntry}

/-! ## The order -/

theorem listedBefore_iff : listedBefore a b = true ↔ InOrder a b := by
  have hiff : InOrder a b ↔ (b.isDirectory = true → a.isDirectory = true) ∧
      (a.isDirectory = b.isDirectory → lowercase a.name ≤ lowercase b.name) :=
    ⟨fun ⟨h, h'⟩ => ⟨h, h'⟩, fun ⟨h, h'⟩ => ⟨h, h'⟩⟩
  rw [hiff, listedBefore]
  cases a.isDirectory <;> cases b.isDirectory <;> simp

theorem InOrder.trans (hab : InOrder a b) (hbc : InOrder b c) : InOrder a c where
  directoriesFirst h := hab.directoriesFirst (hbc.directoriesFirst h)
  byName h := by
    have hkind : a.isDirectory = b.isDirectory := by
      cases hb : b.isDirectory with
      | true => exact hab.directoriesFirst hb
      | false =>
        rw [h, ← Bool.not_eq_true]
        exact fun hc => absurd (hbc.directoriesFirst hc) (by simp [hb])
    exact String.le_trans (hab.byName hkind) (hbc.byName (hkind.symm.trans h))

theorem inOrder_total (a b : DirectoryEntry) : InOrder a b ∨ InOrder b a := by
  by_cases hkind : a.isDirectory = b.isDirectory
  · exact (String.le_total (lowercase a.name) (lowercase b.name)).imp
      (fun h => ⟨fun hb => hkind.trans hb, fun _ => h⟩) fun h => ⟨fun ha => hkind.symm.trans ha, fun _ => h⟩
  · cases ha : a.isDirectory with
    | true => exact .inl ⟨fun _ => ha, fun h => absurd h hkind⟩
    | false => exact .inr ⟨fun h => by simp [ha] at h, fun h => absurd h.symm hkind⟩

theorem Tied.inOrder (h : Tied a b) : InOrder a b where
  directoriesFirst hb := h.1.trans hb
  byName _ := h.2 ▸ String.le_refl _

theorem tied_of_inOrder (hab : InOrder a b) (hba : InOrder b a) : Tied a b := by
  have hkind : a.isDirectory = b.isDirectory :=
    Bool.eq_iff_iff.mpr ⟨hba.directoriesFirst, hab.directoriesFirst⟩
  exact ⟨hkind, String.le_antisymm (hab.byName hkind) (hba.byName hkind.symm)⟩

/-! ## Sorted entries -/

/-- Sorting leaves tied entries in their order. -/
theorem listed_mergeSort (entries : List DirectoryEntry) :
    Listed entries (entries.mergeSort listedBefore) := by
  have htrans : ∀ a b c, listedBefore a b → listedBefore b c → listedBefore a c := by
    simp only [listedBefore_iff]
    exact fun a b c hab hbc => hab.trans hbc
  have htotal : ∀ a b, listedBefore a b || listedBefore b a := by
    simpa only [Bool.or_eq_true, listedBefore_iff] using inOrder_total
  have hperm := List.mergeSort_perm entries listedBefore
  refine ⟨hperm, ?_, fun e => ?_⟩
  · simpa only [listedBefore_iff] using List.pairwise_mergeSort htrans htotal entries
  · have htied : (entries.filter (Tied e ·)).Pairwise fun a b => listedBefore a b := by
      refine List.pairwise_of_forall_mem_list fun a ha b hb => listedBefore_iff.mpr ?_
      have ha : Tied e a := by simpa using (List.mem_filter.mp ha).2
      have hb : Tied e b := by simpa using (List.mem_filter.mp hb).2
      exact Tied.inOrder ⟨ha.1.symm.trans hb.1, ha.2.symm.trans hb.2⟩
    have hsublist := (List.sublist_mergeSort htrans htotal htied List.filter_sublist).filter (Tied e ·)
    rw [List.filter_filter, funext fun a => Bool.and_self (decide (Tied e a))] at hsublist
    exact (hsublist.eq_of_length (hperm.filter _).length_eq.symm).symm

/-- The head of a list in order comes before all of its members. -/
theorem inOrder_of_mem_cons (h : (a :: xs).Pairwise InOrder) (hb : b ∈ a :: xs) : InOrder a b := by
  rcases List.mem_cons.mp hb with rfl | hb
  · exact Tied.inOrder ⟨rfl, rfl⟩
  · exact (List.pairwise_cons.mp h).1 b hb

theorem tied_heads (hxs : (a :: xs).Pairwise InOrder) (hys : (b :: ys).Pairwise InOrder)
    (hb : b ∈ a :: xs) (ha : a ∈ b :: ys) : Tied a b :=
  tied_of_inOrder (inOrder_of_mem_cons hxs hb) (inOrder_of_mem_cons hys ha)

theorem mem_iff_of_filter_tied (h : ∀ e, xs.filter (Tied e ·) = ys.filter (Tied e ·)) :
    e ∈ xs ↔ e ∈ ys := by
  have hself : e ∈ xs.filter (Tied e ·) ↔ e ∈ ys.filter (Tied e ·) := by rw [h e]
  simpa [List.mem_filter, Tied] using hself

/-- The groups of tied entries make up a list in order. -/
theorem eq_of_filter_tied (hxs : xs.Pairwise InOrder) (hys : ys.Pairwise InOrder)
    (h : ∀ e, xs.filter (Tied e ·) = ys.filter (Tied e ·)) : xs = ys := by
  induction xs generalizing ys with
  | nil =>
    rw [eq_comm, List.eq_nil_iff_forall_not_mem]
    exact fun e he => List.not_mem_nil ((mem_iff_of_filter_tied h).mpr he)
  | cons a xs ih =>
    cases ys with
    | nil => exact absurd ((mem_iff_of_filter_tied h).mp List.mem_cons_self) List.not_mem_nil
    | cons b ys =>
      have htied : Tied a b := tied_heads hxs hys ((mem_iff_of_filter_tied h).mpr List.mem_cons_self)
        ((mem_iff_of_filter_tied h).mp List.mem_cons_self)
      obtain rfl : a = b := by
        have hheads := h a
        rw [List.filter_cons_of_pos (by simp [Tied]), List.filter_cons_of_pos (by simpa using htied)]
          at hheads
        exact (List.cons.inj hheads).1
      have htails (e : DirectoryEntry) : xs.filter (Tied e ·) = ys.filter (Tied e ·) := by
        have hboth := h e
        by_cases he : Tied e a
        · rw [List.filter_cons_of_pos (by simpa using he), List.filter_cons_of_pos (by simpa using he)]
            at hboth
          exact (List.cons.inj hboth).2
        · rwa [List.filter_cons_of_neg (by simpa using he), List.filter_cons_of_neg (by simpa using he)]
            at hboth
      rw [ih (List.pairwise_cons.mp hxs).2 (List.pairwise_cons.mp hys).2 htails]

theorem Listed.eq_iff (h : Listed entries shown) (h' : Listed entries' shown') :
    shown = shown' ↔ ∀ e, entries.filter (Tied e ·) = entries'.filter (Tied e ·) := by
  constructor
  · rintro rfl e
    rw [← h.stable e, h'.stable e]
  · intro htied
    refine eq_of_filter_tied h.inOrder h'.inOrder fun e => ?_
    rw [h.stable e, h'.stable e, htied e]

/-- Where no two entries are tied, there is nothing to keep the order of. -/
theorem filter_tied_eq_of_perm (hperm : entries.Perm entries')
    (h : entries.Pairwise fun a b => ¬Tied a b) (e : DirectoryEntry) :
    entries.filter (Tied e ·) = entries'.filter (Tied e ·) := by
  have hfree : (entries.filter (Tied e ·)).Pairwise fun _ _ => False := by
    refine (h.filter _).imp_of_mem fun ha hb hne => hne ?_
    have ha := (List.mem_filter.mp ha).2
    have hb := (List.mem_filter.mp hb).2
    rw [decide_eq_true_eq] at ha hb
    exact ⟨ha.1.symm.trans hb.1, ha.2.symm.trans hb.2⟩
  have hgroups := hperm.filter (Tied e ·)
  rcases hgroup : entries.filter (Tied e ·) with _ | ⟨a, _ | ⟨b, rest⟩⟩ <;> rw [hgroup] at hfree hgroups
  · exact (List.nil_perm.mp hgroups).symm
  · exact List.singleton_perm.mp hgroups
  · exact absurd ((List.pairwise_cons.mp hfree).1 b List.mem_cons_self) id

/-! ## The text of a listing -/

def entryLine (e : DirectoryEntry) : String :=
  (if e.isDirectory then "d " else "f ") ++ e.name

/-- The lines of a listing as one text. -/
def listingText (shown : List DirectoryEntry) : String :=
  if shown = [] then "(empty)" else join "\n" (shown.map entryLine)

theorem listing_eq (entries : List DirectoryEntry) :
    listing entries = listingText (entries.mergeSort listedBefore) := by
  have hnil : entries.mergeSort listedBefore = [] ↔ entries = [] := by
    rw [← List.length_eq_zero_iff, List.length_mergeSort, List.length_eq_zero_iff]
  simp only [listing, listingText, List.isEmpty_iff, hnil]
  rfl

/-- Of two tied entries, the lines tell them apart. -/
theorem eq_of_entryLine_isPrefix (htied : Tied a b) {text : List Char}
    (ha : (entryLine a).toList <+: text) (hb : (entryLine b).toList <+: text) : a = b := by
  obtain ⟨name, kind⟩ := a
  obtain ⟨name', kind'⟩ := b
  obtain ⟨rfl, hname⟩ : kind = kind' ∧ lowercase name = lowercase name' := htied
  have hstart {s t : String} (h : (entryLine ⟨s, kind⟩).toList <+: (entryLine ⟨t, kind⟩).toList) :
      s.toList <+: t.toList := by
    simpa only [entryLine, String.toList_append, List.prefix_append_right_inj] using h
  rcases List.prefix_or_prefix_of_prefix ha hb with h | h
  · rw [eq_of_isPrefix_of_lowercase_eq hname (hstart h)]
  · rw [eq_of_isPrefix_of_lowercase_eq hname.symm (hstart h)]

/-- The text tells which of the tied entries comes first. -/
theorem eq_of_join_eq (hxs : xs.Pairwise InOrder) (hys : ys.Pairwise InOrder) (hperm : xs.Perm ys)
    (h : join "\n" (xs.map entryLine) = join "\n" (ys.map entryLine)) : xs = ys := by
  induction xs generalizing ys with
  | nil => exact (List.nil_perm.mp hperm).symm
  | cons a xs ih =>
    cases ys with
    | nil => exact absurd hperm.symm.nil_eq (by simp)
    | cons b ys =>
      have htied : Tied a b :=
        tied_heads hxs hys (hperm.mem_iff.mpr List.mem_cons_self) (hperm.mem_iff.mp List.mem_cons_self)
      rw [List.map_cons, List.map_cons] at h
      obtain rfl : a = b := by
        refine eq_of_entryLine_isPrefix htied (prefix_join "\n" _ (xs.map entryLine)) ?_
        rw [h]
        exact prefix_join "\n" _ _
      have hperm := (List.perm_cons a).mp hperm
      have hrest := join_cons_inj (by rw [List.length_map, List.length_map, hperm.length_eq]) h
      rw [ih (List.pairwise_cons.mp hxs).2 (List.pairwise_cons.mp hys).2 hperm hrest]

theorem Listed.listingText_eq_iff (h : Listed entries shown) (h' : Listed entries' shown')
    (hperm : entries.Perm entries') : listingText shown = listingText shown' ↔ shown = shown' := by
  have hshown : shown.Perm shown' := h.perm.trans (hperm.trans h'.perm.symm)
  refine ⟨fun htext => ?_, congrArg listingText⟩
  by_cases hnil : shown' = []
  · rw [hnil] at hshown ⊢
    exact List.perm_nil.mp hshown
  · have hne : shown ≠ [] := by
      rintro rfl
      exact hnil (List.nil_perm.mp hshown)
    rw [listingText, listingText, if_neg hne, if_neg hnil] at htext
    exact eq_of_join_eq h.inOrder h'.inOrder hshown htext

end Magic

/-- The directory that the directive names: without an argument, the working directory. -/
def Source.Directive.listed (d : Directive) : String :=
  if d.args.isEmpty then "." else d.args

theorem Magic.lookup_builtins_of_ls {p : Platform σ} {d : Directive} (h : d.calls "ls" = true) :
    (builtins p).lookup d.scope d.name = some (listDirectory p) :=
  have hlower : lowercase "ls" = "ls" := by decide +kernel
  lookup_builtins_of_line (m := ("ls", listDirectory p)) (List.mem_of_getElem? (i := 3) rfl)
    hlower h

namespace Kernel

theorem execute_of_ls {p : Platform σ} {cell : String} {d : Directive}
    (hd : Directive.ofCell? (trim cell) = some d) (hls : d.calls "ls" = true) {k : Kernel σ}
    {entries : List DirectoryEntry} (hentries : (Kernel.entries p d.listed k).2 = .ok entries) :
    (execute p (Magic.builtins p) cell k).1 = some (.text (Magic.listing entries)) := by
  obtain ⟨hcode, hroute⟩ := route_of_directive hd (Magic.lookup_builtins_of_ls hls)
  have hrun : Magic.listDirectory p d k.uninterrupted
      = (some (.text (Magic.listing entries)), k.uninterrupted) := by
    have hread : Act.gets (Kernel.entries p d.listed) k.uninterrupted
        = (some (Kernel.entries p d.listed k), k.uninterrupted) := rfl
    rw [Magic.listDirectory_eq]
    refine (Act.bind_run_of_some hread _).trans ?_
    rw [hentries]
    rfl
  rw [execute_of_magic hcode hroute (by rw [hrun]; rfl), hrun]

/-- The listing of a directory has its entries in order, the tied ones as they are enumerated. Where a
machine enumerates the same entries in another order, the output is the same exactly if all tied entries
are enumerated in the same order; so it is if no entries are tied. -/
theorem listing_of_enumerations {p : Platform σ} {q : Platform τ} {cell : String} {d : Directive}
    (hd : Directive.ofCell? (trim cell) = some d) (hls : d.calls "ls" = true) {k : Kernel σ}
    {k' : Kernel τ} {entries entries' : List DirectoryEntry}
    (hentries : (Kernel.entries p d.listed k).2 = .ok entries)
    (hentries' : (Kernel.entries q d.listed k').2 = .ok entries') (hperm : entries.Perm entries') :
    (∃ shown, Magic.Listed entries shown ∧
      (execute p (Magic.builtins p) cell k).1 = some (.text (Magic.listingText shown))) ∧
    ((execute p (Magic.builtins p) cell k).1 = (execute q (Magic.builtins q) cell k').1 ↔
      ∀ e, entries.filter (Magic.Tied e ·) = entries'.filter (Magic.Tied e ·)) ∧
    ((entries.Pairwise fun a b => ¬Magic.Tied a b) →
      (execute p (Magic.builtins p) cell k).1 = (execute q (Magic.builtins q) cell k').1) := by
  have hshown := Magic.listed_mergeSort entries
  have hshown' := Magic.listed_mergeSort entries'
  have htext (s t : String) : Output.text s = Output.text t ↔ s = t :=
    ⟨congrArg Output.content, congrArg Output.text⟩
  have hiff : (execute p (Magic.builtins p) cell k).1 = (execute q (Magic.builtins q) cell k').1 ↔
      ∀ e, entries.filter (Magic.Tied e ·) = entries'.filter (Magic.Tied e ·) := by
    rw [execute_of_ls hd hls hentries, execute_of_ls hd hls hentries',
      Option.some.injEq, htext, Magic.listing_eq, Magic.listing_eq,
      hshown.listingText_eq_iff hshown' hperm, hshown.eq_iff hshown']
  refine ⟨⟨_, hshown, ?_⟩, hiff, fun h => hiff.mpr (Magic.filter_tied_eq_of_perm hperm h)⟩
  rw [execute_of_ls hd hls hentries, Magic.listing_eq]

/-- A machine that enumerates the given entries in every directory. -/
def enumerating (entries : List DirectoryEntry) : Platform Nat where
  evaluator := Evaluator.bare
  host := { Host.bare with readDirectory := fun _ _ => .ok entries }

theorem listing_of_rotated_enumeration :
    let p := enumerating [⟨"b.py", false⟩, ⟨"Src", true⟩, ⟨"A", false⟩]
    let q := enumerating [⟨"Src", true⟩, ⟨"A", false⟩, ⟨"b.py", false⟩]
    (execute p (Magic.builtins p) " %LS" bare).1 = (execute q (Magic.builtins q) " %LS" bare).1 :=
  (listing_of_enumerations (d := ⟨.line, "ls", "", ""⟩) (by decide +kernel) (by decide +kernel) rfl rfl
    (by decide)).2.2 (by decide +kernel)

/-- Two files whose names differ in case only. -/
theorem listing_of_swapped_spellings :
    let p := enumerating [⟨"a", false⟩, ⟨"A", false⟩]
    let q := enumerating [⟨"A", false⟩, ⟨"a", false⟩]
    (execute p (Magic.builtins p) "%ls" bare).1 = some (.text "f a\nf A") ∧
      (execute q (Magic.builtins q) "%ls" bare).1 = some (.text "f A\nf a") := by
  have hd : Directive.ofCell? (trim "%ls") = some ⟨.line, "ls", "", ""⟩ := by decide +kernel
  have hls : Directive.calls ⟨.line, "ls", "", ""⟩ "ls" = true := by decide +kernel
  constructor
  · rw [execute_of_ls (p := enumerating [⟨"a", false⟩, ⟨"A", false⟩]) hd hls rfl,
      Magic.listing_eq, List.mergeSort_of_pairwise (by decide +kernel)]
    rfl
  · rw [execute_of_ls (p := enumerating [⟨"A", false⟩, ⟨"a", false⟩]) hd hls rfl,
      Magic.listing_eq, List.mergeSort_of_pairwise (by decide +kernel)]
    rfl

end Kernel

end NotebookKernel
