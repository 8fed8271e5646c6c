import NotebookKernel.Kernel.Dispatch
import NotebookKernel.Proofs.Act

/-!
# The outputs that cells can have

Whatever the evaluator and the machine do, the data of an output follows from its kind: text and errors
have none, HTML has its text and a plot has its image. `Kernel.gives_storable_execute` says so of every
cell.
-/

namespace NotebookKernel

namespace Output

/-- The data is what an output of this kind comes with. -/
def Storable (o : Output) : Prop :=
  match o.kind with
  | .text | .error => o.data = none
  | .html => ∃ body, o.data = some (SortedMap.ofList [(Mime.html, .string body)])
  | .plot => ∃ image, o.data = some (SortedMap.ofList [(Mime.png, .string image)])

theorem storable_text (content : String) : (text content).Storable := rfl

theorem storable_error (content : String) : (error content).Storable := rfl

theorem storable_ofFailure (failure : Failure) : (ofFailure failure).Storable := rfl

theorem storable_html (body : String) : (html body).Storable := ⟨body, rfl⟩

theorem storable_plot (printed image : String) : (plot printed image).Storable := ⟨image, rfl⟩

end Output

open Output

theorem Captured.storable_output (c : Captured (Option String)) : c.output.Storable := by
  unfold Captured.output
  cases c.outcome with
  | error failure => exact storable_ofFailure failure
  | ok value =>
    cases c.plot with
    | some image => exact storable_plot _ _
    | none => exact storable_text _

namespace Registry

variable {H : Type} {P : H → Prop}

/-- Every handler of the registry satisfies `P`. -/
def Every (P : H → Prop) (r : Registry H) : Prop :=
  ∀ scope name handler, r.lookup scope name = some handler → P handler

theorem every_empty : Every P (∅ : Registry H) := by
  intro scope name handler h
  cases scope <;> simp [lookup, table, EmptyCollection.emptyCollection, SortedMap.get?,
    Entries.get?] at h

theorem Every.register {r : Registry H} (hr : r.Every P) {scope : Source.Scope} {name : String}
    {handler : H} (h : P handler) : (r.register scope name handler).Every P := by
  intro scope' name' handler' hlookup
  rw [lookup, table_register] at hlookup
  split at hlookup
  · rw [SortedMap.get?_insert] at hlookup
    split at hlookup
    · cases hlookup; exact h
    · exact hr _ _ _ hlookup
  · exact hr _ _ _ hlookup

theorem Every.foldl_register {r : Registry H} (hr : r.Every P) {scope : Source.Scope}
    {magics : List (String × H)} (h : ∀ m ∈ magics, P m.2) :
    (magics.foldl (fun r m => r.register scope m.1 m.2) r).Every P := by
  induction magics generalizing r with
  | nil => exact hr
  | cons m magics ih =>
    exact ih (hr.register (h m List.mem_cons_self)) fun m' hm' => h m' (List.mem_cons_of_mem _ hm')

end Registry

variable {σ : Type}

open Act

namespace Kernel

theorem gives_storable_executeCode (p : Platform σ) (code : String) :
    Gives (fun result : Output × Bool => result.1.Storable) (executeCode p code) :=
  gives_bind fun captured => gives_pure captured.storable_output

theorem gives_storable_runCode (p : Platform σ) (code : String) :
    Gives Storable (runCode p code) :=
  (gives_storable_executeCode p code).bind fun _ h => gives_pure h

theorem storable_shelloutFailed (failure : Failure) : (shelloutFailed failure).Storable := by
  cases failure <;> rfl

theorem gives_storable_runPip (p : Platform σ) (args : String) :
    Gives Storable (runPip p args) := by
  refine gives_bind fun k => ?_
  dsimp only
  cases k.context.config.pythonExecutable p.host k.machine with
  | error failure => exact gives_pure (storable_ofFailure failure)
  | ok python =>
    refine gives_bind fun result => ?_
    cases result with
    | ok finished => exact gives_pure (storable_text _)
    | error failure => exact gives_pure (storable_shelloutFailed failure)

end Kernel

namespace Timing

theorem storable_withWallTime {o : Output} (h : o.Storable) (elapsed : Duration) :
    (withWallTime elapsed o).Storable := h

theorem gives_storable_wallTime (p : Platform σ) (code : String) :
    Gives Storable (wallTime p code) :=
  gives_bind fun _ => (Kernel.gives_storable_runCode p code).bind fun _ h =>
    gives_bind fun _ => gives_pure (storable_withWallTime h _)

theorem gives_storable_timeit (p : Platform σ) (code : String) :
    Gives Storable (timeit p code) := by
  unfold timeit
  split
  · exact gives_pure (storable_error _)
  · refine gives_bind fun captured => ?_
    cases captured.outcome with
    | ok report => exact gives_pure (storable_text _)
    | error failure => exact gives_pure (storable_ofFailure failure)

end Timing

namespace Magic

theorem gives_storable_printDirectory (p : Platform σ) (d : Source.Directive) :
    Gives Storable (printDirectory p d) :=
  gives_bind fun _ => gives_pure (storable_text _)

theorem gives_storable_changeDirectory (p : Platform σ) (d : Source.Directive) :
    Gives Storable (changeDirectory p d) := by
  unfold changeDirectory
  dsimp only
  split
  · exact gives_pure (storable_error _)
  · refine gives_bind fun changed => ?_
    cases changed with
    | true => exact gives_storable_printDirectory p d
    | false => exact gives_pure (storable_error _)

theorem gives_storable_listDirectory (p : Platform σ) (d : Source.Directive) :
    Gives Storable (listDirectory p d) := by
  refine gives_bind fun k => ?_
  dsimp only
  split
  · exact gives_pure (storable_error _)
  · exact gives_pure (storable_text _)

/-- A file is either read or refused with an error. -/
theorem gives_readArgument (p : Platform σ) (raw : String) :
    Gives (fun result => ∀ o, result = .error o → o.Storable) (readArgument p raw) := by
  unfold readArgument
  split
  · exact gives_pure fun _ h => by cases h; exact storable_error _
  · refine gives_bind fun k => ?_
    dsimp only
    split
    · exact gives_pure fun _ h => by cases h
    · exact gives_pure fun _ h => by cases h; exact storable_error _

theorem gives_storable_showFile (p : Platform σ) (d : Source.Directive) :
    Gives Storable (showFile p d) := by
  refine (gives_readArgument p d.args).bind fun result h => ?_
  cases result with
  | ok file => exact gives_pure (storable_text _)
  | error o => exact gives_pure (h o rfl)

theorem gives_storable_loadFile (p : Platform σ) (d : Source.Directive) :
    Gives Storable (loadFile p d) := by
  refine (gives_readArgument p d.args).bind fun result h => ?_
  cases result with
  | ok file => exact gives_pure (storable_text _)
  | error o => exact gives_pure (h o rfl)

theorem gives_storable_runFile (p : Platform σ) (d : Source.Directive) :
    Gives Storable (runFile p d) := by
  refine (gives_readArgument p d.args).bind fun result h => ?_
  cases result with
  | error o => exact gives_pure (h o rfl)
  | ok file =>
    refine gives_bind fun captured => ?_
    cases captured.outcome with
    | error failure => exact gives_pure (storable_ofFailure failure)
    | ok =>
      dsimp only
      exact gives_pure (storable_text _)

theorem gives_storable_writeFile (p : Platform σ) (d : Source.Directive) :
    Gives Storable (writeFile p d) := by
  unfold writeFile
  split
  · exact gives_pure (storable_error _)
  · refine gives_bind fun context => ?_
    extract_lets path write
    have hwrite (made : Except OsError Unit) : Gives Storable (write made) := by
      cases made with
      | error e => exact gives_pure (storable_error _)
      | ok =>
        refine gives_bind fun written => ?_
        cases written with
        | error e => exact gives_pure (storable_error _)
        | ok => exact gives_pure (storable_text _)
    split <;> exact gives_bind hwrite

theorem gives_storable_showBindings (p : Platform σ) (view : List Binding → String)
    (d : Source.Directive) : Gives Storable (showBindings p view d) := by
  refine gives_bind fun bindings => ?_
  cases bindings with
  | ok bindings => exact gives_pure (storable_text _)
  | error failure => exact gives_pure (storable_ofFailure failure)

theorem gives_storable_resetNamespace (p : Platform σ) (d : Source.Directive) :
    Gives Storable (resetNamespace p d) := by
  refine gives_bind fun result => ?_
  cases result with
  | ok => exact gives_pure (storable_text _)
  | error failure => exact gives_pure (storable_ofFailure failure)

theorem gives_storable_environment (p : Platform σ) (d : Source.Directive) :
    Gives Storable (environment p d) := by
  unfold environment
  split
  · dsimp only
    split
    · exact gives_pure (storable_error _)
    · refine gives_bind fun result => ?_
      cases result with
      | ok => exact gives_pure (storable_text _)
      | error failure => exact gives_pure (storable_ofFailure failure)
  · refine gives_bind fun context => ?_
    split <;> exact gives_pure (storable_text _)

theorem gives_storable_plotBackend (d : Source.Directive) :
    Gives Storable (plotBackend (σ := σ) d) := by
  unfold plotBackend
  split <;> exact gives_pure (storable_text _)

theorem gives_storable_shellScript (p : Platform σ) (d : Source.Directive) :
    Gives Storable (shellScript p d) := by
  refine gives_bind fun result => ?_
  cases result with
  | ok finished => exact gives_pure (storable_text _)
  | error failure => exact gives_pure (Kernel.storable_shelloutFailed failure)

theorem gives_storable_of_mem_lineMagics (p : Platform σ) {m : String × Handler σ}
    (h : m ∈ lineMagics p) (d : Source.Directive) : Gives Storable (m.2 d) := by
  simp only [lineMagics, List.mem_cons, List.not_mem_nil, or_false] at h
  rcases h with rfl | rfl | rfl | rfl | rfl | rfl | rfl | rfl | rfl | rfl | rfl | rfl | rfl | rfl
  · exact Kernel.gives_storable_runPip p d.args
  · exact gives_storable_changeDirectory p d
  · exact gives_storable_printDirectory p d
  · exact gives_storable_listDirectory p d
  · exact gives_storable_showFile p d
  · exact gives_storable_loadFile p d
  · exact gives_storable_runFile p d
  · exact Timing.gives_storable_wallTime p d.code
  · exact Timing.gives_storable_timeit p d.code
  · exact gives_storable_showBindings p _ d
  · exact gives_storable_showBindings p _ d
  · exact gives_storable_resetNamespace p d
  · exact gives_storable_environment p d
  · exact gives_storable_plotBackend d

theorem gives_storable_of_mem_cellMagics (p : Platform σ) {m : String × Handler σ}
    (h : m ∈ cellMagics p) (d : Source.Directive) : Gives Storable (m.2 d) := by
  simp only [cellMagics, List.mem_cons, List.not_mem_nil, or_false] at h
  rcases h with rfl | rfl | rfl | rfl | rfl | rfl | rfl | rfl | rfl | rfl | rfl
  · exact gives_storable_shellScript p d
  · exact gives_storable_shellScript p d
  · exact Kernel.gives_storable_runCode p d.body
  · exact Kernel.gives_storable_runCode p d.body
  · exact Kernel.gives_storable_runCode p d.body
  · exact gives_storable_writeFile p d
  · exact Timing.gives_storable_wallTime p d.body
  · exact Timing.gives_storable_timeit p d.body
  · exact gives_pure (storable_html _)
  · exact gives_pure (storable_text _)
  · exact gives_pure (storable_text _)

theorem every_builtins (p : Platform σ) :
    (builtins p).Every fun handler => ∀ d, Gives Storable (handler d) :=
  (Registry.every_empty.foldl_register fun _ h => gives_storable_of_mem_lineMagics p h).foldl_register
    fun _ h => gives_storable_of_mem_cellMagics p h

end Magic

namespace Kernel

theorem gives_storable_shellEscape (p : Platform σ) (command : String) :
    Gives (fun result : Output × Bool => result.1.Storable) (shellEscape p command) := by
  unfold shellEscape
  split
  · exact (gives_storable_runPip p _).bind fun _ h => gives_pure h
  · refine gives_bind fun result => ?_
    cases result with
    | ok finished => exact gives_pure (storable_text _)
    | error failure => exact gives_pure (storable_shelloutFailed failure)

theorem gives_storable_route (p : Platform σ) {r : Registry (Handler σ)}
    (hr : r.Every fun handler => ∀ d, Gives Storable (handler d)) (code : String) :
    Gives (fun result : Output × Bool => result.1.Storable) (route p r code) := by
  unfold route
  split
  · exact gives_storable_shellEscape p _
  · dsimp only
    split
    · next magic hmagic =>
      obtain ⟨d, -, handler, hlookup, rfl⟩ : ∃ d, Source.Directive.ofCell? code = some d ∧
          ∃ handler, r.lookup d.scope d.name = some handler ∧ handler d = magic := by
        simpa [Option.bind_eq_some_iff] using hmagic
      exact (hr _ _ _ hlookup d).bind fun _ h => gives_pure h
    · exact gives_storable_executeCode p code

/-- Every output of a cell has the data of its kind. -/
theorem gives_storable_execute (p : Platform σ) {r : Registry (Handler σ)}
    (hr : r.Every fun handler => ∀ d, Gives Storable (handler d)) (cell : String) :
    Gives Storable (execute p r cell) := by
  refine gives_bind fun _ => ?_
  dsimp only
  split
  · exact gives_pure (storable_text _)
  · refine gives_bind fun before => (gives_storable_route p hr _).bind fun result h => ?_
    refine gives_bind fun after => ?_
    split
    · exact gives_bind fun _ => gives_pure h
    · exact gives_pure h

end Kernel

end NotebookKernel
