import NotebookKernel.Proofs.Kernel.Routes
import NotebookKernel.Proofs.Text.Pieces

/-!
# What is shown of code that was run

The output of plain code is what it printed, trimmed at the end, and its value behind that if the trimming
leaves nothing of the standard output. So the value is shown behind blanks as well, and not only where
nothing was printed: `Kernel.output_of_printing` says for which texts and values the two come to the same.
-/

namespace NotebookKernel

open Source Text

variable {σ : Type}

/-- The printed texts, trimmed at the end, with a value behind them. -/
def Streams.showing (streams : Streams) (value : Option String) : String :=
  join "\n" ([trimEnd streams.stdout, trimEnd streams.stderr].filter (· ≠ "") ++ value.toList)

namespace Streams

variable {streams : Streams}

theorem trimEnd_eq_empty_iff (s : String) : trimEnd s = "" ↔ isBlankText s = true := by
  rw [← String.toList_inj, trimEnd, String.toList_ofList, Chars.trimEnd_eq, isBlankText, List.all_eq_true]
  exact List.rdropWhile_eq_nil_iff

theorem showing_of_blank (hout : isBlankText streams.stdout = true) (value : Option String) :
    streams.showing value = join "\n" ([trimEnd streams.stderr].filter (· ≠ "") ++ value.toList) := by
  simp [showing, (trimEnd_eq_empty_iff streams.stdout).mpr hout]

/-- A value behind blanks shows, unless it is as empty as what is printed. -/
theorem showing_some_eq_iff (hout : isBlankText streams.stdout = true) (value : String) :
    streams.showing (some value) = streams.showing none ↔
      value = "" ∧ isBlankText streams.stderr = true := by
  rw [showing_of_blank hout, showing_of_blank hout]
  by_cases herr : isBlankText streams.stderr = true
  · have hnothing : [trimEnd streams.stderr].filter (· ≠ "") = [] := by
      simp [(trimEnd_eq_empty_iff streams.stderr).mpr herr]
    rw [hnothing]
    exact ⟨fun h => ⟨h, herr⟩, fun h => h.1⟩
  · have hsomething : [trimEnd streams.stderr].filter (· ≠ "") = [trimEnd streams.stderr] := by
      simp [trimEnd_eq_empty_iff, herr]
    rw [hsomething]
    refine iff_of_false (fun h => ?_) fun h => herr h.2
    have hlength := congrArg (fun s : String => s.toList.length) h
    change (trimEnd streams.stderr ++ "\n" ++ value).toList.length = _ at hlength
    simp [join] at hlength

theorem showing_eq_iff (streams : Streams) (value : Option String) :
    streams.showing (if isBlankText streams.stdout then value else none)
        = streams.showing (if streams.stdout = "" then value else none) ↔
      (isBlankText streams.stdout = true → streams.stdout = "" ∨ value = none ∨
        value = some "" ∧ isBlankText streams.stderr = true) := by
  by_cases hout : isBlankText streams.stdout = true
  · by_cases hempty : streams.stdout = ""
    · simp [hempty, hempty ▸ hout]
    · cases value with
      | none => simp
      | some value => simp [hout, hempty, showing_some_eq_iff hout]
  · have hempty : streams.stdout ≠ "" := fun h => hout (h ▸ rfl)
    simp [hout, hempty]

end Streams

theorem Captured.output_of_ok {c : Captured (Option String)} {value : Option String}
    (hvalue : c.outcome = .ok value) (hplot : c.plot = none) :
    c.output = .text (c.streams.showing (if isBlankText c.streams.stdout then value else none)) := by
  have hkept : (!·.isEmpty) = fun s : String => decide (s ≠ "") := by
    funext s
    rw [Bool.eq_iff_iff]
    simp
  have htrimmed : (trimEnd c.streams.stdout).isEmpty = isBlankText c.streams.stdout := by
    rw [Bool.eq_iff_iff, String.isEmpty_iff, Streams.trimEnd_eq_empty_iff]
  simp only [Captured.output, hvalue, hplot, shownParts, hkept, htrimmed, Streams.showing]
  cases isBlankText c.streams.stdout <;> rfl

namespace Kernel

/-- Plain code that leaves no plot has for its output the text of what it printed, and its value behind
that if nothing but blanks was printed to the standard output. That is what is shown if the value is kept
for code that printed nothing at all there, except where a value comes behind blanks. -/
theorem output_of_printing {p : Platform σ} {r : Registry (Handler σ)} {cell text : String} {k : Kernel σ}
    {c : Captured (Option String)} {value : Option String} {s : σ}
    (hcell : Route.ofCell r cell = .code text)
    (hrun : p.evaluator.runCode (trim cell) k.machine = (some c, s))
    (hvalue : c.outcome = .ok value) (hplot : c.plot = none) :
    (execute p r cell k).1 = some (.text
      (c.streams.showing (if isBlankText c.streams.stdout then value else none))) ∧
    (c.streams.showing (if isBlankText c.streams.stdout then value else none)
        = c.streams.showing (if c.streams.stdout = "" then value else none) ↔
      (isBlankText c.streams.stdout = true → c.streams.stdout = "" ∨ value = none ∨
        value = some "" ∧ isBlankText c.streams.stderr = true)) := by
  refine ⟨?_, c.streams.showing_eq_iff value⟩
  rw [execute_of_code hcell, runPlainly_fst, hrun, Option.map_some, Captured.output_of_ok hvalue hplot]

/-- An evaluator for which every text is an expression of the same value that prints the same. -/
def printing (streams : Streams) (value : Option String) : Platform Nat where
  evaluator := { Evaluator.bare with
    isExpression := fun _ => pure true
    evalExpression := fun _ => pure (.ok value)
    endCapture := pure (.ok streams) }
  host := Host.bare

theorem runCode_printing (streams : Streams) (value : Option String) :
    (printing streams value).evaluator.runCode (trim "x") 0 = (some ⟨.ok value, streams, none⟩, 1) := by
  have htrim : trim "x" = "x" := by decide +kernel
  have hcandidate : Source.shape (m := Act Nat) (fun _ => pure true) "x" 0
      = (some (.expression none "x"), 0) := by decide +kernel
  have hshape : Source.shape (printing streams value).evaluator.isExpression "x" 0
      = (some (.expression none "x"), 0) := hcandidate
  rw [htrim]
  exact Act.bind_run_of_some hshape _

theorem output_of_printing_warning :
    let p := printing ⟨"", "warning \n"⟩ (some "4")
    (execute p (Magic.builtins p) "x" bare).1 = some (.text "warning\n4") :=
  have hcell : Route.ofCell (Magic.builtins (printing ⟨"", "warning \n"⟩ (some "4"))) "x" = .code "x" := by
    decide +kernel
  (output_of_printing (p := printing ⟨"", "warning \n"⟩ (some "4")) (k := bare) hcell
    (runCode_printing _ _) rfl rfl).1

/-- A line feed is printed, and the value is shown all the same. -/
theorem output_of_printing_line_feed :
    let p := printing ⟨"\n", ""⟩ (some "5")
    (execute p (Magic.builtins p) "x" bare).1 = some (.text "5") ∧
      Streams.showing ⟨"\n", ""⟩ (if "\n" = "" then some "5" else none) = "" := by
  have hcell : Route.ofCell (Magic.builtins (printing ⟨"\n", ""⟩ (some "5"))) "x" = .code "x" := by
    decide +kernel
  refine ⟨?_, by decide⟩
  rw [execute_of_code hcell, runPlainly_fst]
  exact congrArg (fun r => r.1.map Captured.output) (runCode_printing ⟨"\n", ""⟩ (some "5"))

end Kernel

end NotebookKernel
