import NotebookKernel.Proofs.Json.Reading
import NotebookKernel.Proofs.Json.Scanning
import NotebookKernel.Proofs.Json.WholeDoubles
import NotebookKernel.Worker.Message

/-!
# Messages are read back

The JSON of every command and of every reply is read as the command or the reply, constructor by
constructor. It nests three levels at most, and its numbers are legible: integers of 64 bits, and the
seconds of a timing where these are a whole number.
-/

namespace NotebookKernel

open Json Reader

theorem reads_uint64 (n : UInt64) :
    Reads (natBelow (Nat.pow 2 64)) (Json.ofNat n.toNat) n.toNat :=
  reads_natBelow n.toNat_lt

theorem reads_lengths (length : Option UInt64) :
    Reads (nullable (natBelow (Nat.pow 2 64))) (ofOption (fun n => Json.ofNat n.toNat) length)
      (length.map UInt64.toNat) := by
  cases length with
  | none => exact reads_nullable_null _
  | some n => exact (reads_uint64 n).nullable (by simp [Json.ofNat, Json.ofInt])

theorem legible_uint64 (n : UInt64) : (Number.int n.toNat).Legible := by
  have hn := n.toNat_lt
  refine Number.Integral.legible ?_
  simp only [Number.Integral, Nat.pow_eq]
  omega

namespace Json

theorem fits_bool {P : Number → Prop} {limit : Nat} (b : Bool) : (bool b).Fits P limit :=
  ⟨Nat.zero_le _, trivial⟩

theorem fits_ofOption {P : Number → Prop} {limit : Nat} {α : Type} {f : α → Json}
    (h : ∀ a, (f a).Fits P limit) (o : Option α) : (ofOption f o).Fits P limit := by
  cases o with
  | none => exact fits_null
  | some a => exact h a

theorem fits_uint64 {limit : Nat} (n : UInt64) : (Json.ofNat n.toNat).Fits Number.Legible limit :=
  ⟨Nat.zero_le _, legible_uint64 n⟩

end Json

/-! ## Parts of messages -/

namespace Preload

theorem reads (p : Preload) : Reads reader p.toJson p := by
  refine reads_object fun limit hdepth => ?_
  generalize hfields : [("alias", Json.string p.shortName), ("module", Json.string p.module)] =
    fields at *
  have hkeys : (fields.map Prod.fst).Sublist ["alias", "module"] := by
    rw [← hfields]
    exact List.Sublist.refl _
  have hname := Record.required?_ofFields "alias" (by simp [← hfields]) (reads_string p.shortName)
    hdepth
  have hmodule := Record.required?_ofFields "module" (by simp [← hfields]) (reads_string p.module)
    hdepth
  rw [reader, Record.ofScanned?_ofJson hkeys (by decide)]
  simp [hname, hmodule]

theorem fits (p : Preload) (limit : Nat) : p.toJson.Fits Number.Legible (limit + 1) := by
  simp only [toJson, fits_object_iff, List.forall_mem_cons]
  exact ⟨fits_string _, fits_string _, List.forall_mem_nil _⟩

end Preload

namespace Binding

theorem reads (b : Binding) : Reads reader b.toJson b := by
  refine reads_object fun limit hdepth => ?_
  generalize hfields : [("name", Json.string b.name), ("type", Json.string b.typeName),
    ("repr", Json.string b.representation), ("callable", Json.bool b.callable),
    ("is_type", Json.bool b.isType), ("shape", ofOption Json.string b.shape),
    ("len", ofOption (fun n => Json.ofNat n.toNat) b.length)] = fields at *
  have hkeys : (fields.map Prod.fst).Sublist
      ["name", "type", "repr", "callable", "is_type", "shape", "len"] := by
    rw [← hfields]
    exact List.Sublist.refl _
  have hname := Record.required?_ofFields "name" (by simp [← hfields]) (reads_string b.name) hdepth
  have htype := Record.required?_ofFields "type" (by simp [← hfields]) (reads_string b.typeName) hdepth
  have htext := Record.required?_ofFields "repr" (by simp [← hfields])
    (reads_string b.representation) hdepth
  have hcallable := Record.withDefault?_ofFields "callable" false (by simp [← hfields])
    (reads_bool b.callable) hdepth
  have hisType := Record.withDefault?_ofFields "is_type" false (by simp [← hfields])
    (reads_bool b.isType) hdepth
  have hshape := Record.optional?_ofFields_ofOption "shape" (o := b.shape) (by simp [← hfields])
    reads_string (by simp) hdepth
  have hlength : Record.optional? _ "len" _ = _ :=
    Record.withDefault?_ofFields "len" none (by simp [← hfields]) (reads_lengths b.length) hdepth
  have hwords : UInt64.ofNat ∘ UInt64.toNat = id := funext fun _ => UInt64.ofNat_toNat
  rw [reader, Record.ofScanned?_ofJson hkeys (by decide)]
  simp [hname, htype, htext, hcallable, hisType, hshape, hlength, hwords]

theorem fits (b : Binding) (limit : Nat) : b.toJson.Fits Number.Legible (limit + 1) := by
  simp only [toJson, fits_object_iff, List.forall_mem_cons]
  exact ⟨fits_string _, fits_string _, fits_string _, fits_bool _, fits_bool _,
    fits_ofOption fits_string _, fits_ofOption fits_uint64 _, List.forall_mem_nil _⟩

end Binding

/-! ## Commands -/

namespace Command

theorem reads (c : Command) : Reads reader c.toJson c := by
  cases c with
  | ping | captureBegin | captureEnd | plot | bindings | shutdown =>
    refine Tagged.reads_bare [] fun t htag => ?_
    simp only [htag]
  | exec code | eval code | probe code =>
    refine Tagged.reads_record [] ["code"] (List.Sublist.refl _) (by decide)
      fun t limit htag hrecord hdepth => ?_
    have hcode := Record.required?_ofFields "code" (by simp) (reads_string code) hdepth
    simp [htag, hrecord, hcode]
  | runFile code path =>
    refine Tagged.reads_record [] ["code", "path"] (List.Sublist.refl _) (by decide)
      fun t limit htag hrecord hdepth => ?_
    have hcode := Record.required?_ofFields "code" (by simp) (reads_string code) hdepth
    have hpath := Record.required?_ofFields "path" (by simp) (reads_string path) hdepth
    simp [htag, hrecord, hcode, hpath]
  | time code number =>
    refine Tagged.reads_record [] ["code", "number"] (List.Sublist.refl _) (by decide)
      fun t limit htag hrecord hdepth => ?_
    have hcode := Record.required?_ofFields "code" (by simp) (reads_string code) hdepth
    have hnumber := Record.required?_ofFields "number" (by simp) (reads_uint64 number) hdepth
    simp only [htag, Option.bind_eq_bind]
    -- not by `simp`, which would compute the bound of the number
    rw [hrecord, Option.bind_some, hcode, Option.bind_some, hnumber, Option.bind_some,
      UInt64.ofNat_toNat]
  | reset preload =>
    refine Tagged.reads_record [] ["preload"] (List.Sublist.refl _) (by decide)
      fun t limit htag hrecord hdepth => ?_
    have hpreload := Record.required?_ofFields "preload" (by simp)
      (reads_list fun p (_ : p ∈ preload) => p.reads) hdepth
    simp [htag, hrecord, hpreload]
  | chdir path =>
    refine Tagged.reads_record [] ["path"] (List.Sublist.refl _) (by decide)
      fun t limit htag hrecord hdepth => ?_
    have hpath := Record.required?_ofFields "path" (by simp) (reads_string path) hdepth
    simp [htag, hrecord, hpath]
  | setenv key value =>
    refine Tagged.reads_record [] ["key", "value"] (List.Sublist.refl _) (by decide)
      fun t limit htag hrecord hdepth => ?_
    have hkey := Record.required?_ofFields "key" (by simp) (reads_string key) hdepth
    have hvalue := Record.required?_ofFields "value" (by simp) (reads_string value) hdepth
    simp [htag, hrecord, hkey, hvalue]

theorem fits (c : Command) (limit : Nat) : c.toJson.Fits Number.Legible (limit + 3) := by
  cases c with
  | reset preload =>
    have hpreload : (Json.array (preload.map Preload.toJson)).Fits Number.Legible (limit + 2) :=
      fits_array_iff.mpr (List.forall_mem_map.mpr fun p _ => p.fits limit)
    simp only [toJson, toJson.op, fits_object_iff, List.forall_mem_cons]
    exact ⟨fits_string _, hpreload, List.forall_mem_nil _⟩
  | _ =>
    simp [toJson, toJson.op, fits_object_iff, fits_string, fits_uint64]

end Command

/-! ## Replies -/

namespace Reply

/-- The seconds of a timing are a whole number. -/
def HasWholeTime : Reply → Prop
  | .timing seconds => IsWhole seconds
  | _ => True

theorem reads (r : Reply) : Reads reader r.toJson r := by
  cases r with
  | pong | done | shuttingDown =>
    refine Tagged.reads_bare [] fun t htag => ?_
    simp only [htag]
  | value representation =>
    refine Tagged.reads_record [] ["repr"] (List.Sublist.refl _) (by decide)
      fun t limit htag hrecord hdepth => ?_
    have htext := Record.nullable?_ofFields "repr" (o := representation) (by simp) reads_string
      (by simp) hdepth
    simp [htag, hrecord, htext]
  | probe expression =>
    refine Tagged.reads_record [] ["expression"] (List.Sublist.refl _) (by decide)
      fun t limit htag hrecord hdepth => ?_
    have hexpression := Record.required?_ofFields "expression" (by simp) (reads_bool expression) hdepth
    simp [htag, hrecord, hexpression]
  | streams stdout stderr =>
    refine Tagged.reads_record [] ["stdout", "stderr"] (List.Sublist.refl _) (by decide)
      fun t limit htag hrecord hdepth => ?_
    have hstdout := Record.required?_ofFields "stdout" (by simp) (reads_string stdout) hdepth
    have hstderr := Record.required?_ofFields "stderr" (by simp) (reads_string stderr) hdepth
    simp [htag, hrecord, hstdout, hstderr]
  | plot png =>
    refine Tagged.reads_record [] ["png"] (List.Sublist.refl _) (by decide)
      fun t limit htag hrecord hdepth => ?_
    have hpng := Record.nullable?_ofFields "png" (o := png) (by simp) reads_string (by simp) hdepth
    simp [htag, hrecord, hpng]
  | timing seconds =>
    refine Tagged.reads_record [] ["seconds"] (List.Sublist.refl _) (by decide)
      fun t limit htag hrecord hdepth => ?_
    have hseconds := Record.required?_ofFields "seconds" (by simp) (reads_float seconds) hdepth
    simp [htag, hrecord, hseconds]
  | bindings all =>
    refine Tagged.reads_record [] ["bindings"] (List.Sublist.refl _) (by decide)
      fun t limit htag hrecord hdepth => ?_
    have hall := Record.required?_ofFields "bindings" (by simp)
      (reads_list fun b (_ : b ∈ all) => b.reads) hdepth
    simp [htag, hrecord, hall]
  | raised e =>
    refine Tagged.reads_record [] ["ename", "evalue", "traceback"] (List.Sublist.refl _) (by decide)
      fun t limit htag hrecord hdepth => ?_
    have hname := Record.required?_ofFields "ename" (by simp) (reads_string e.name) hdepth
    have hvalue := Record.required?_ofFields "evalue" (by simp) (reads_string e.value) hdepth
    have htraceback := Record.required?_ofFields "traceback" (by simp) (reads_string e.traceback) hdepth
    simp [htag, hrecord, hname, hvalue, htraceback]
  | failed message =>
    refine Tagged.reads_record [] ["message"] (List.Sublist.refl _) (by decide)
      fun t limit htag hrecord hdepth => ?_
    have hmessage := Record.required?_ofFields "message" (by simp) (reads_string message) hdepth
    simp [htag, hrecord, hmessage]

theorem fits {r : Reply} (h : r.HasWholeTime) (limit : Nat) :
    r.toJson.Fits Number.Legible (limit + 3) := by
  cases r with
  | bindings all =>
    have hall : (Json.array (all.map Binding.toJson)).Fits Number.Legible (limit + 2) :=
      fits_array_iff.mpr (List.forall_mem_map.mpr fun b _ => b.fits limit)
    simp only [toJson, toJson.kind, fits_object_iff, List.forall_mem_cons]
    exact ⟨fits_string _, hall, List.forall_mem_nil _⟩
  | timing seconds =>
    have hseconds : (Json.number (.float seconds)).Fits Number.Legible (limit + 2) :=
      ⟨Nat.zero_le _, h.legible⟩
    simp only [toJson, toJson.kind, fits_object_iff, List.forall_mem_cons]
    exact ⟨fits_string _, hseconds, List.forall_mem_nil _⟩
  | _ =>
    simp [toJson, toJson.kind, fits_object_iff, fits_string, fits_bool, fits_ofOption]

end Reply

end NotebookKernel
