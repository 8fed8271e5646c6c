import NotebookKernel.Host.Basic
import NotebookKernel.Proofs.Host.Names
import NotebookKernel.Proofs.Text.Encoding

/-!
# Hosts and their files

`Host.Keeps` is what a program may expect of a directory on a file system that never fails: under
every name that is accepted there is a file or none, and files of different names do not touch each
other. `Host.FailsInPlace` is what is left where a file cannot be written. `Host.ConfinedTo` says of an
action that it has to do with one file only, whatever machine it is run on. `Host.bare` is a machine on
which nothing can be found or run, and `Host.ofFiles` has one directory of files that are held in memory.
-/

namespace NotebookKernel

namespace Host

variable {σ ι : Type}

theorem readText_of_readFile {h : Host σ} {file : Path} {s : σ} {text : String}
    (hfile : h.readFile file s = .ok (Utf8.encode text)) : h.readText file s = .ok text := by
  simp [readText, hfile, Utf8.decode?_encode, bind, Except.bind]

/-- The directory holds `files s` in the state `s`. Every operation on a file with an accepted name
does what it is asked for, the entries come in any order, and looking at the clock changes no file. -/
structure Keeps (h : Host σ) (directory : Path) (accepts : String → Prop)
    (files : σ → SortedMap Bytes) : Prop where
  fileExists : ∀ {name} s, accepts name →
    h.fileExists (directory ++ name) s = (files s).contains name
  readFile : ∀ {name bytes} s, accepts name → (files s).get? name = some bytes →
    h.readFile (directory ++ name) s = .ok bytes
  writeFile : ∀ {name} bytes s, accepts name → ∃ s',
    h.writeFile (directory ++ name) bytes s = (.ok (), s') ∧ files s' = (files s).insert name bytes
  removeFile : ∀ {name} s, accepts name → (files s).contains name = true → ∃ s',
    h.removeFile (directory ++ name) s = (.ok (), s') ∧ files s' = (files s).erase name
  removeFile_missing : ∀ {name} s, accepts name → (files s).contains name = false → ∃ s',
    h.removeFile (directory ++ name) s = (.error .notFound, s') ∧ files s' = files s
  readDirectory : ∀ s, ∃ entries, h.readDirectory directory s = .ok entries ∧
    (entries.map DirectoryEntry.name).Perm (files s).keys
  now : ∀ s, files (h.now s).2 = files s

/-- What a program may expect of a directory in which a file cannot always be written. Each name leads to
a place, which other names may lead to as well. A write that fails has left the file there as it was, or
has put a beginning of what was to be written into it, and touches nothing else. -/
structure FailsInPlace (h : Host σ) (directory : Path) (place : σ → String → ι)
    (content : σ → ι → Option Bytes) : Prop where
  place_eq : ∀ {name bytes e s s'}, Path.IsFileName name →
    h.writeFile (directory ++ name) bytes s = (.error e, s') → place s' = place s
  content_self : ∀ {name bytes e s s'}, Path.IsFileName name →
    h.writeFile (directory ++ name) bytes s = (.error e, s') →
    content s' (place s name) = content s (place s name) ∨
      ∃ written, written <+: bytes ∧ content s' (place s name) = some written
  content_of_ne : ∀ {name bytes e s s' p}, Path.IsFileName name →
    h.writeFile (directory ++ name) bytes s = (.error e, s') → p ≠ place s name →
    content s' p = content s p
  place_now : ∀ s, place (h.now s).2 = place s
  content_now : ∀ s, content (h.now s).2 = content s

/-- What a program may expect of one file: what was written is there to be read, and looking at the clock
changes nothing about it. -/
structure KeepsFile (h : Host σ) (file : Path) : Prop where
  fileExists : ∀ {bytes s s'}, h.writeFile file bytes s = (.ok (), s') → h.fileExists file s' = true
  readFile : ∀ {bytes s s'}, h.writeFile file bytes s = (.ok (), s') → h.readFile file s' = .ok bytes
  fileExists_monotonic : ∀ s, h.fileExists file (h.monotonic s).2 = h.fileExists file s
  readFile_monotonic : ∀ s, h.readFile file (h.monotonic s).2 = h.readFile file s

/-! ## Actions on one file -/

/-- The machine with all paths shut off but one, or without that all of them: nothing is seen through any
other, and whatever is to be done with it is refused. No program can be run. -/
def only (h : Host σ) (file? : Option Path) : Host σ :=
  let through {α : Type} (p : Path) (answer refusal : α) : α := if p ∈ file? then answer else refusal
  { h with
    canonicalize p s := through p (h.canonicalize p s) (.error .permissionDenied)
    isDirectory p s := through p (h.isDirectory p s) false
    fileExists p s := through p (h.fileExists p s) false
    isExecutable p s := through p (h.isExecutable p s) false
    readDirectory p s := through p (h.readDirectory p s) (.error .permissionDenied)
    readFile p s := through p (h.readFile p s) (.error .permissionDenied)
    writeFile p bytes s := through p (h.writeFile p bytes s) (.error .permissionDenied, s)
    removeFile p s := through p (h.removeFile p s) (.error .permissionDenied, s)
    createDirectories p s := through p (h.createDirectories p s) (.error .permissionDenied, s)
    run _ s := (.notStarted .permissionDenied, s) }

/-- Besides looking at the clock, the action has to do with one file only, or with none: it does the same
where all other paths are shut off, and whatever stays as it is while the clock is looked at and the file is
written or removed stays as it is under the action. -/
structure ConfinedTo {α : Type} (file? : Option Path) (action : Host σ → σ → α × σ) : Prop where
  eq_only : ∀ h s, action (h.only file?) s = action h s
  frame : ∀ (h : Host σ) {β : Type} (view : σ → β), (∀ s, view (h.now s).2 = view s) →
    (∀ file ∈ file?, ∀ bytes s, view (h.writeFile file bytes s).2 = view s) →
    (∀ file ∈ file?, ∀ s, view (h.removeFile file s).2 = view s) →
    ∀ s, view (action h s).2 = view s

/-- What answers alike at all times and changes nothing has to do with no file. -/
theorem ConfinedTo.of_idle {α : Type} {file? : Option Path} {action : Host σ → σ → α × σ} (a : α)
    (h : ∀ h s, action h s = (a, s)) : ConfinedTo file? action where
  eq_only h' s := by rw [h, h]
  frame h' _ view _ _ _ s := by rw [h]

section

variable (h : Host σ) (file : Path) (s : σ)

@[simp] theorem only_fileExists : (h.only (some file)).fileExists file s = h.fileExists file s := by
  simp [only]

@[simp] theorem only_readText : (h.only (some file)).readText file s = h.readText file s := by
  simp [readText, only]

@[simp] theorem only_writeFile (bytes : Bytes) :
    (h.only (some file)).writeFile file bytes s = h.writeFile file bytes s := by
  simp [only]

@[simp] theorem only_removeFile : (h.only (some file)).removeFile file s = h.removeFile file s := by
  simp [only]

@[simp] theorem only_now (file? : Option Path) : (h.only file?).now s = h.now s := rfl

end

/-! ## Machines -/

/-- A machine without files and programs, whose clocks stand still. -/
def bare : Host σ where
  environment := ∅
  currentDirectory := ⟨"/"⟩
  accountHome := none
  canonicalize p _ := .ok p
  isDirectory _ _ := true
  fileExists _ _ := false
  isExecutable _ _ := false
  readDirectory _ _ := .error .notFound
  readFile _ _ := .error .notFound
  writeFile _ _ s := (.error .permissionDenied, s)
  removeFile _ s := (.error .notFound, s)
  createDirectories _ s := (.ok (), s)
  run _ s := (.notStarted .notFound, s)
  monotonic s := (⟨0⟩, s)
  now s := (⟨0, 0⟩, s)
  freshBytes s := ([], s)

/-- The name of a path, if it is an entry of the directory. -/
def entryName? (directory p : Path) : Option String :=
  p.fileName?.filter fun name => directory ++ name = p

theorem entryName?_append (directory : Path) {name : String} (h : Path.IsFileName name) :
    entryName? directory (directory ++ name) = some name := by
  simp [entryName?, Path.fileName?_append directory h]

/-- A machine with the files of one directory, and with a clock that goes on by a second whenever it
is read. -/
def ofFiles (directory : Path) : Host (SortedMap Bytes × Nat) :=
  { bare with
    fileExists p s := (entryName? directory p).any s.1.contains
    readFile p s :=
      match (entryName? directory p).bind s.1.get? with
      | some bytes => .ok bytes
      | none => .error .notFound
    writeFile p bytes s :=
      match entryName? directory p with
      | some name => (.ok (), s.1.insert name bytes, s.2)
      | none => (.error .notFound, s)
    removeFile p s :=
      match (entryName? directory p).filter s.1.contains with
      | some name => (.ok (), s.1.erase name, s.2)
      | none => (.error .notFound, s)
    readDirectory p s :=
      if p = directory then .ok (s.1.keys.map fun name => ⟨name, false⟩) else .error .notFound
    now s := (⟨s.2, 0⟩, s.1, s.2 + 1) }

theorem keeps_ofFiles (directory : Path) :
    (ofFiles directory).Keeps directory Path.IsFileName Prod.fst where
  fileExists s hname := by simp [ofFiles, entryName?_append directory hname]
  readFile s hname hget := by simp [ofFiles, entryName?_append directory hname, hget]
  writeFile bytes s hname := by simp [ofFiles, entryName?_append directory hname]
  removeFile s hname hcontains := by
    simp [ofFiles, entryName?_append directory hname, Option.filter, hcontains]
  removeFile_missing s hname hmissing := by
    simp [ofFiles, entryName?_append directory hname, Option.filter, hmissing]
  readDirectory s :=
    ⟨_, if_pos rfl, by rw [List.map_map]; exact List.Perm.of_eq (List.map_id _)⟩
  now s := rfl

theorem keepsFile_ofFiles (directory : Path) {name : String} (hname : Path.IsFileName name) :
    (ofFiles directory).KeepsFile (directory ++ name) where
  fileExists h := by
    simp only [ofFiles, entryName?_append directory hname, Prod.mk.injEq, true_and] at h
    simp [ofFiles, entryName?_append directory hname, ← h, SortedMap.contains_insert]
  readFile h := by
    simp only [ofFiles, entryName?_append directory hname, Prod.mk.injEq, true_and] at h
    simp [ofFiles, entryName?_append directory hname, ← h, SortedMap.get?_insert]
  fileExists_monotonic _ := rfl
  readFile_monotonic _ := rfl

/-- The machine `ofFiles`, on which no file may have more than so many bytes. What goes beyond is not
written. -/
def cramped (directory : Path) (room : Nat) : Host (SortedMap Bytes × Nat) :=
  { ofFiles directory with
    writeFile p bytes s :=
      let (result, s) := (ofFiles directory).writeFile p (bytes.take room) s
      (result.bind fun () => if bytes.length ≤ room then .ok () else .error .fileTooLarge, s) }

theorem writeFile_cramped (directory : Path) (room : Nat) {name : String}
    (hname : Path.IsFileName name) (bytes : Bytes) (s : SortedMap Bytes × Nat) :
    (cramped directory room).writeFile (directory ++ name) bytes s =
      (if bytes.length ≤ room then .ok () else .error .fileTooLarge,
        s.1.insert name (bytes.take room), s.2) := by
  simp [cramped, ofFiles, entryName?_append directory hname, Except.bind]

theorem failsInPlace_cramped (directory : Path) (room : Nat) :
    (cramped directory room).FailsInPlace directory (fun _ name => name) (fun s => s.1.get?) where
  place_eq _ _ := rfl
  content_self hname hwrite := by
    rw [writeFile_cramped directory room hname] at hwrite
    obtain ⟨-, rfl⟩ := Prod.mk.inj hwrite
    exact .inr ⟨_, List.take_prefix _ _, by rw [SortedMap.get?_insert, if_pos rfl]⟩
  content_of_ne hname hwrite hne := by
    rw [writeFile_cramped directory room hname] at hwrite
    obtain ⟨-, rfl⟩ := Prod.mk.inj hwrite
    rw [SortedMap.get?_insert, if_neg (Ne.symm hne)]
  place_now _ := rfl
  content_now _ := rfl

end Host

end NotebookKernel
