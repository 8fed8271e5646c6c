import NotebookKernel.Notebook.Conversion
import NotebookKernel.Text.Quoted
import NotebookKernel.Time.Calendar

/-! # A directory of notebooks

A store keeps one document for each identifier, in a file named for it. Saving stamps a notebook with
the time, and the listing begins with the notebook that was modified last. -/

namespace NotebookKernel

/-- Why an operation on stored notebooks failed. -/
inductive StoreError where
  | read (path : Path) (error : OsError)
  | write (path : Path) (error : OsError)
  /-- The text of a file is no document. -/
  | malformed
  | io (error : OsError)
  /-- The document is of a version that cannot be read. -/
  | unsupportedFormat (format : UInt32)
  /-- The identifier cannot be part of a file name. -/
  | invalidId (id : String)
  deriving DecidableEq, Repr

namespace StoreError

/-- The text in which the failure is reported. -/
def message : StoreError → String
  | .read path e => "Failed to read file " ++ path.text ++ ": " ++ e.message
  | .write path e => "Failed to write file " ++ path.text ++ ": " ++ e.message
  | .malformed => "JSON error: not a notebook document"
  | .io e => "I/O error: " ++ e.message
  | .unsupportedFormat format => "Invalid notebook: unsupported nbformat " ++ toString format.toNat
  | .invalidId id => "Invalid notebook id: " ++ Text.quoted id

end StoreError

/-- A directory of notebooks. -/
structure Store where
  directory : Path

namespace Store

variable {σ : Type}

/-- The extension of the files that hold notebooks. -/
def extension : String := "ipynb"

/-- Opens the store in a directory, which is created if missing. -/
def open? (h : Host σ) (directory : Path) (s : σ) : Except StoreError Store × σ :=
  match h.createDirectories directory s with
  | (.ok (), s) => (.ok ⟨directory⟩, s)
  | (.error e, s) => (.error (.io e), s)

/-- Whether a notebook may have the identifier: it is not empty, has no separator and no two dots in
a row. -/
def isValidId (id : String) : Bool :=
  !id.isEmpty && !Text.contains "/" id && !Text.contains "\\" id && !Text.contains ".." id

/-- The file of a notebook. -/
def path (store : Store) (id : String) : Except StoreError Path :=
  if isValidId id then .ok (store.directory ++ (id ++ "." ++ extension)) else .error (.invalidId id)

/-- Reads the document in a file. -/
def readDocument (h : Host σ) (file : Path) (s : σ) : Except StoreError Document :=
  match h.readText file s with
  | .error e => .error (.read file e)
  | .ok text =>
    match Document.ofText? text with
    | none => .error .malformed
    | some d =>
      if d.format = Document.supportedFormat then .ok d else .error (.unsupportedFormat d.format)

theorem readDocument_of_readText {h : Host σ} {file : Path} {s : σ} {text : String} {d : Document}
    (htext : h.readText file s = .ok text) (hdocument : Document.ofText? text = some d)
    (hformat : d.format = Document.supportedFormat) : readDocument h file s = .ok d := by
  simp only [readDocument, htext, hdocument]
  exact if_pos hformat

/-- Writes a document to a file. -/
def writeDocument (h : Host σ) (file : Path) (d : Document) (s : σ) : Except StoreError Unit × σ :=
  let (result, s) := h.writeFile file (Utf8.encode d.toText) s
  (result.mapError (.write file), s)

/-- The notebook with an identifier, if there is one. -/
def load (store : Store) (h : Host σ) (id : String) (s : σ) :
    Except StoreError (Option Notebook) := do
  let file ← store.path id
  if h.fileExists file s then
    let d ← readDocument h file s
    .ok (some (Notebook.ofDocument id d))
  else .ok none

/-- A notebook as it is saved under an identifier at a moment. -/
def stamp (id : String) (now : Instant) (n : Notebook) : Notebook :=
  { n with
    id
    created := n.created.or (some now.timestamp)
    modified := some now.timestamp }

/-- Saves a notebook. Gives its file, and the notebook as it stands afterwards: it is stamped before
the file is written, and stays so when the file cannot be written. -/
def save (store : Store) (h : Host σ) (id : String) (n : Notebook) (s : σ) :
    (Except StoreError Path × Notebook) × σ :=
  match store.path id with
  | .error e => ((.error e, n), s)
  | .ok file =>
    let (now, s) := h.now s
    let stamped := stamp id now n
    let (result, s) := writeDocument h file stamped.toDocument s
    ((result.map fun () => file, stamped), s)

/-- Deletes a notebook. Tells whether there was one. -/
def delete (store : Store) (h : Host σ) (id : String) (s : σ) : Except StoreError Bool × σ :=
  match store.path id with
  | .error e => (.error e, s)
  | .ok file =>
    match h.removeFile file s with
    | (.ok (), s) => (.ok true, s)
    | (.error .notFound, s) => (.ok false, s)
    | (.error e, s) => (.error (.write file e), s)

/-- What the listing tells about a file, if it holds a notebook. -/
def summary? (store : Store) (h : Host σ) (s : σ) (name : String) : Option NotebookSummary := do
  let file : Path := store.directory ++ name
  if file.extension? != some extension then none
  let id ← file.stem?
  let d ← (readDocument h file s).toOption
  some {
    id
    title := d.metadata.title.getD id
    created := d.metadata.created
    modified := d.metadata.modified }

/-- The order of the listing: by time stamps, the last first, and those without one at the end. -/
def listedBefore (a b : NotebookSummary) : Bool :=
  match a.modified, b.modified with
  | _, none => true
  | none, some _ => false
  | some x, some y => decide (y ≤ x)

/-- The notebooks that can be read, the last modified first. -/
def list (store : Store) (h : Host σ) (s : σ) : Except StoreError (List NotebookSummary) :=
  match h.readDirectory store.directory s with
  | .error e => .error (.io e)
  | .ok entries =>
    .ok ((entries.filterMap fun e => store.summary? h s e.name).mergeSort listedBefore)

end Store

end NotebookKernel
