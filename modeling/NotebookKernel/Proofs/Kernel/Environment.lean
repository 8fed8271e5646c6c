import NotebookKernel.Proofs.Kernel.Launches

/-!
# Variables of the environment

The directive for variables sets one of them, shows one or lists them all. A variable is set once the
evaluator accepted it. `Kernel.environment_after` says what the variables of a kernel are after any run,
what the directive shows in each of its forms, and that every process that a cell starts gets exactly
these variables and the working directory.
-/

namespace NotebookKernel

open Source Text

open Act hiding pure

variable {σ α : Type}

/-! ## What an argument sets -/

namespace Source.Directive

/-- Before the first equals sign of the argument stands the name and behind it the value, each perhaps
with blanks around it. -/
def Assigns (d : Directive) (key value : String) : Prop :=
  ∃ before behind, d.args = before ++ "=" ++ behind ∧ '=' ∉ before.toList ∧
    trim before = key ∧ trim behind = value

/-- The name and the value in the argument, if it has an equals sign. -/
def assignment? (d : Directive) : Option (String × String) :=
  (splitOnce? '=' d.args).map fun parts => (trim parts.1, trim parts.2)

theorem assignment?_eq_some_iff {d : Directive} {key value : String} :
    d.assignment? = some (key, value) ↔ d.Assigns key value := by
  simp only [assignment?, splitOnce?, Option.map_map, Option.map_eq_some_iff, Prod.exists,
    Chars.splitOnce?_eq_some_iff, Function.comp_apply, Prod.mk.injEq]
  constructor
  · rintro ⟨before, behind, ⟨hargs, hbefore⟩, rfl, rfl⟩
    refine ⟨.ofList before, .ofList behind, ?_, by rwa [String.toList_ofList], rfl, rfl⟩
    rw [← String.toList_inj, hargs]
    simp
  · rintro ⟨before, behind, hargs, hbefore, rfl, rfl⟩
    refine ⟨before.toList, behind.toList, ⟨?_, hbefore⟩, ?_, ?_⟩
    · rw [hargs]
      simp
    · rw [String.ofList_toList]
    · rw [String.ofList_toList]

theorem assignment?_eq_none_iff {d : Directive} : d.assignment? = none ↔ '=' ∉ d.args.toList := by
  rw [assignment?, Option.map_eq_none_iff, splitOnce?, Option.map_eq_none_iff]
  constructor
  · intro hnone hmem
    obtain ⟨head, body, hargs, hhead⟩ := List.eq_append_cons_of_mem hmem
    rw [hargs, Chars.splitOnce?_append hhead] at hnone
    cases hnone
  · exact Chars.splitOnce?_of_notMem

end Source.Directive

/-! ## The directive -/

/-- Whether the evaluator accepts a variable. -/
def Evaluator.accepts (ev : Evaluator σ) (key value : String) (s : σ) : Bool :=
  (ev.setVariable key value s).1.any Except.isOk

namespace Kernel

variable {p : Platform σ}

theorem setVariable_run (p : Platform σ) (key value : String) (k : Kernel σ) :
    setVariable p key value k
      = ((p.evaluator.setVariable key value k.machine).1, k.assigned p key value) := by
  have hask : KernelM.onMachine (p.evaluator.setVariable key value) k
      = ((p.evaluator.setVariable key value k.machine).1,
        k.onto (p.evaluator.setVariable key value k.machine).2) := rfl
  rw [setVariable, bind_run, hask, assigned]
  rcases p.evaluator.setVariable key value k.machine with ⟨_ | _ | _, s⟩ <;> rfl

theorem environment_assigned (p : Platform σ) (key value : String) (k : Kernel σ) :
    (k.assigned p key value).context.environment =
      if p.evaluator.accepts key value k.machine then k.context.environment.insert key value
      else k.context.environment := by
  rw [assigned, Evaluator.accepts]
  rcases p.evaluator.setVariable key value k.machine with ⟨_ | _ | _, s⟩ <;> rfl

theorem generation_assigned (p : Platform σ) (key value : String) (k : Kernel σ) :
    (k.assigned p key value).context.generation = k.context.generation := by
  rw [assigned]
  rcases p.evaluator.setVariable key value k.machine with ⟨_ | _ | _, s⟩ <;> rfl

end Kernel

namespace Magic

variable {p : Platform σ} {d : Directive} {key value : String}

/-- What the wish to set a variable shows: the variable, or why the evaluator refused it. -/
def assignOutput (key value : String) : Except Failure Unit → Output
  | .ok () => .text (key ++ "=" ++ value)
  | .error failure => .ofFailure failure

/-- What a directive shows that sets no variable: one variable, or all of them. -/
def lookedUp (d : Directive) (environment : SortedMap String) : String :=
  if d.args.isEmpty then environmentListing environment else (environment.get? d.args).getD ""

theorem environment_of_assignment? (h : d.assignment? = some (key, value)) (hkey : key ≠ "")
    (k : Kernel σ) : environment p d k =
      ((p.evaluator.setVariable key value k.machine).1.map (assignOutput key value),
        k.assigned p key value) := by
  obtain ⟨⟨before, behind⟩, hsplit, hparts⟩ := Option.map_eq_some_iff.mp h
  cases hparts
  simp only [environment, hsplit, String.isEmpty_iff, hkey, if_false]
  rw [bind_run, Kernel.setVariable_run]
  rcases (p.evaluator.setVariable (trim before) (trim behind) k.machine).1 with _ | _ | _ <;> rfl

/-- A variable without a name is not set, and the evaluator is not asked. -/
theorem environment_of_nameless (h : d.assignment? = some ("", value)) (k : Kernel σ) :
    environment p d k = (some (.error "env: missing variable name"), k) := by
  obtain ⟨⟨before, behind⟩, hsplit, hparts⟩ := Option.map_eq_some_iff.mp h
  obtain ⟨hkey, -⟩ := Prod.mk.injEq .. ▸ hparts
  simp only [environment, hsplit, String.isEmpty_iff, hkey, if_true]
  rfl

theorem environment_of_assignment?_eq_none (h : d.assignment? = none) (k : Kernel σ) :
    environment p d k = (some (.text (lookedUp d k.context.environment)), k) := by
  have hcontext : KernelM.getContext k = (some k.context, k) := rfl
  simp only [environment, Option.map_eq_none_iff.mp h]
  rw [bind_run_of_some hcontext, lookedUp]
  split <;> rfl

/-- The list of all variables, in ascending order of their names. -/
theorem exists_entries_of_listing (environment : SortedMap String) :
    ∃ entries : List (String × String), entries.Pairwise (fun a b => a.1 < b.1) ∧
      (∀ key value, (key, value) ∈ entries ↔ environment.get? key = some value) ∧
      environmentListing environment = join "\n" (entries.map fun e => e.1 ++ "=" ++ e.2) :=
  ⟨environment.toList, environment.ascending, fun _ _ =>
    ⟨Entries.get?_of_mem environment.ascending, Entries.mem_of_get?⟩, rfl⟩

theorem generation_environment (d : Directive) (k : Kernel σ) :
    (environment p d k).2.context.generation = k.context.generation := by
  cases h : d.assignment? with
  | none => rw [environment_of_assignment?_eq_none h]
  | some assignment =>
    obtain ⟨key, value⟩ := assignment
    by_cases hkey : key = ""
    · rw [environment_of_nameless (hkey ▸ h)]
    · rw [environment_of_assignment? h hkey]
      exact Kernel.generation_assigned p key value k

end Magic

namespace Kernel

variable {p : Platform σ}

/-- A cell with the directive shows what the directive shows and leaves the variables as this does. -/
theorem execute_of_isEnvironment {cell : String} {d : Directive}
    (hd : Directive.ofCell? (trim cell) = some d) (henvironment : d.isEnvironment = true)
    (k : Kernel σ) :
    (execute p (Magic.builtins p) cell k).1 = (Magic.environment p d k.uninterrupted).1 ∧
      (execute p (Magic.builtins p) cell k).2.context.environment
        = (Magic.environment p d k.uninterrupted).2.context.environment := by
  obtain ⟨hcode, hroute⟩ :=
    route_of_directive hd (Magic.lookup_builtins_of_isEnvironment henvironment)
  rw [execute_of_magic hcode hroute (by rw [Magic.generation_environment]; rfl)]
  rcases Magic.environment p d k.uninterrupted with ⟨_ | o, k'⟩ <;> exact ⟨rfl, rfl⟩

/-! ## Runs -/

/-- Leaves the variables of the context as they are. -/
abbrev SparesEnvironment (act : KernelM σ α) : Prop := KernelM.Spares (fun _ environment => environment) act

theorem sparesEnvironment_setWorkingDirectory (p : Platform σ) (raw : String) :
    SparesEnvironment (setWorkingDirectory p raw) := by
  rw [setWorkingDirectory_eq]
  refine Leaves.bind (fun _ => rfl) fun target => ?_
  cases target with
  | none => exact leaves_pure _
  | some target =>
    refine Leaves.bind (fun _ => rfl) fun result => ?_
    cases result with
    | error failure => exact leaves_pure _
    | ok => exact fun _ => rfl

theorem sparesEnvironment_changeDirectory (p : Platform σ) (d : Directive) :
    SparesEnvironment (Magic.changeDirectory p d) := by
  unfold Magic.changeDirectory
  dsimp only
  split
  · exact leaves_pure _
  · refine Leaves.bind (sparesEnvironment_setWorkingDirectory p _) fun changed => ?_
    cases changed with
    | true => exact fun _ => rfl
    | false => exact leaves_pure _

/-- A variable that the evaluator accepted in a step. -/
def Step.accepted? (p : Platform σ) (s : Step σ) : Option (String × String) :=
  match s.operation with
  | .execute cell =>
    ((Directive.ofCell? (trim cell)).filter (·.isEnvironment)).bind fun d =>
      d.assignment?.filter fun a => a.1 != "" && p.evaluator.accepts a.1 a.2 s.before.machine
  | _ => none

theorem accepted?_of_isEnvironment {cell : String} {d : Directive}
    (hd : Directive.ofCell? (trim cell) = some d) (henvironment : d.isEnvironment = true)
    (k : Kernel σ) : Step.accepted? p ⟨.execute cell, k⟩ =
      d.assignment?.filter fun a => a.1 != "" && p.evaluator.accepts a.1 a.2 k.machine := by
  have hfilter : (some d).filter (·.isEnvironment) = some d := Option.filter_some_pos henvironment
  simp only [Step.accepted?, hd, hfilter, Option.bind_some]

theorem accepted?_eq_some_iff {s : Step σ} {key value : String} :
    s.accepted? p = some (key, value) ↔
      ∃ cell d, s.operation = .execute cell ∧ Directive.ofCell? (trim cell) = some d ∧
        d.isEnvironment = true ∧ d.Assigns key value ∧ key ≠ "" ∧
        p.evaluator.accepts key value s.before.machine = true := by
  obtain ⟨op, k⟩ := s
  cases op with
  | execute cell =>
    simp only [Step.accepted?, Option.bind_eq_some_iff, Option.filter_eq_some_iff, Bool.and_eq_true,
      bne_iff_ne, Directive.assignment?_eq_some_iff]
    constructor
    · rintro ⟨d, ⟨hd, henvironment⟩, hassigns, hkey, haccepts⟩
      exact ⟨cell, d, rfl, hd, henvironment, hassigns, hkey, haccepts⟩
    · rintro ⟨_, d, ⟨⟩, hd, henvironment, hassigns, hkey, haccepts⟩
      exact ⟨d, ⟨hd, henvironment⟩, hassigns, hkey, haccepts⟩
  | reset | listVariables | setWorkingDirectory | requestInterrupt =>
    simp [Step.accepted?]

/-- The variables after one of them was set, if any was. -/
def updated (environment : SortedMap String) : Option (String × String) → SortedMap String
  | some (key, value) => environment.insert key value
  | none => environment

/-- The directive sets the variable that it names if the evaluator accepts it. -/
theorem environment_of_isEnvironment {d : Directive} (k : Kernel σ) :
    (Magic.environment p d k).2.context.environment = updated k.context.environment
      (d.assignment?.filter fun a => a.1 != "" && p.evaluator.accepts a.1 a.2 k.machine) := by
  cases h : d.assignment? with
  | none => rw [Magic.environment_of_assignment?_eq_none h, Option.filter_none, updated]
  | some assignment =>
    obtain ⟨key, value⟩ := assignment
    by_cases hkey : key = ""
    · rw [Magic.environment_of_nameless (hkey ▸ h), Option.filter_some_neg (by simp [hkey]), updated]
    · rw [Magic.environment_of_assignment? h hkey, environment_assigned]
      cases haccepts : p.evaluator.accepts key value k.machine with
      | true => rw [Option.filter_some_pos (by simp [hkey, haccepts]), if_pos rfl, updated]
      | false =>
        rw [Option.filter_some_neg (by simp [haccepts]), if_neg Bool.false_ne_true, updated]

/-- One step changes the variables by the one that was accepted in it. -/
theorem environment_next (op : Operation) (k : Kernel σ) :
    (op.next p k).context.environment =
      updated k.context.environment (Step.accepted? p ⟨op, k⟩) := by
  cases op with
  | execute cell =>
    rw [next_execute]
    by_cases hcell : ∃ d, Directive.ofCell? (trim cell) = some d ∧ d.isEnvironment = true
    · obtain ⟨d, hd, henvironment⟩ := hcell
      rw [(execute_of_isEnvironment hd henvironment k).2, environment_of_isEnvironment,
        accepted?_of_isEnvironment hd henvironment]
      rfl
    · have hnone : Step.accepted? p ⟨.execute cell, k⟩ = none := by
        rw [Option.eq_none_iff_forall_ne_some]
        rintro ⟨key, value⟩ hsome
        obtain ⟨_, d, ⟨⟩, hd, henvironment, -⟩ := accepted?_eq_some_iff.mp hsome
        exact hcell ⟨d, hd, henvironment⟩
      rw [hnone]
      exact KernelM.spares_execute p (fun _ environment => environment)
        (fun d _ _ => sparesEnvironment_changeDirectory p d)
        (fun d hd henvironment => absurd ⟨d, hd, henvironment⟩ hcell) k
  | reset =>
    have hspares : SparesEnvironment (Kernel.reset p) := fun _ => rfl
    exact hspares.bind (fun _ => leaves_pure _) k
  | listVariables =>
    have hspares : SparesEnvironment (panel p) := Leaves.bind (fun _ => rfl) fun _ => leaves_pure _
    exact hspares.bind (fun _ => leaves_pure _) k
  | setWorkingDirectory raw =>
    exact (sparesEnvironment_setWorkingDirectory p raw).bind (fun _ => leaves_pure _) k
  | requestInterrupt => rfl

/-- A run changes the variables by those that were accepted in its course, in this order. -/
theorem environment_run (ops : List Operation) (k : Kernel σ) :
    (after p ops k).context.environment =
      ((steps p ops k).filterMap (Step.accepted? p)).foldl (fun environment a => environment.insert a.1 a.2)
        k.context.environment := by
  induction ops generalizing k with
  | nil => rfl
  | cons op ops ih =>
    have hrest := ih (op.next p k)
    rw [environment_next] at hrest
    rw [steps, List.filterMap_cons]
    cases haccepted : Step.accepted? p ⟨op, k⟩ with
    | none =>
      rw [haccepted] at hrest
      exact hrest
    | some assignment =>
      rw [haccepted] at hrest
      exact hrest

/-- Whatever the variables of a kernel are at first and whatever the evaluator refuses: after a run they
are those from before with the ones that were accepted in its course put in, in this order. A variable
is accepted where the directive gives it a name, before the first equals sign, and the evaluator does not
refuse it. If it does, or if there is no name, the directive shows an error and the variables stay as they
are. Without an equals sign it shows one variable, which is empty if it is not set, or all of them in
ascending order. A cell starts one process at most. It does so in the working directory and with just the
variables of the kernel, and a cell that hands its text to a process starts this one. -/
theorem environment_after (p : Platform σ) (k : Kernel σ) :
    (∀ ops, (after p ops k).context.environment =
      ((steps p ops k).filterMap (Step.accepted? p)).foldl (fun environment a => environment.insert a.1 a.2)
        k.context.environment) ∧
    (∀ (s : Step σ) key value, s.accepted? p = some (key, value) ↔
      ∃ cell d, s.operation = .execute cell ∧ Directive.ofCell? (trim cell) = some d ∧
        d.isEnvironment = true ∧ d.Assigns key value ∧ key ≠ "" ∧
        p.evaluator.accepts key value s.before.machine = true) ∧
    (∀ cell d, Directive.ofCell? (trim cell) = some d → d.isEnvironment = true →
      let ran := execute p (Magic.builtins p) cell k
      (∀ key value, d.Assigns key value → key ≠ "" →
        ran.1 = (p.evaluator.setVariable key value k.machine).1.map (Magic.assignOutput key value) ∧
        ran.2.context.environment =
          if p.evaluator.accepts key value k.machine then k.context.environment.insert key value
          else k.context.environment) ∧
      (∀ value, d.Assigns "" value → ran.1 = some (.error "env: missing variable name") ∧
        ran.2.context.environment = k.context.environment) ∧
      ('=' ∉ d.args.toList → ran.2.context.environment = k.context.environment ∧
        (d.args ≠ "" → ran.1 = some (.text ((k.context.environment.get? d.args).getD ""))) ∧
        (d.args = "" → ∃ entries : List (String × String), entries.Pairwise (fun a b => a.1 < b.1) ∧
          (∀ key value, (key, value) ∈ entries ↔ k.context.environment.get? key = some value) ∧
          ran.1 = some (.text (join "\n" (entries.map fun e => e.1 ++ "=" ++ e.2)))))) ∧
    (∀ cell launched, ∃ started, execute p.launching (Magic.builtins p.launching) cell
          (k.withLaunched launched) =
        ((execute p (Magic.builtins p) cell k).1,
          (execute p (Magic.builtins p) cell k).2.withLaunched (launched ++ started)) ∧
      started.length ≤ 1 ∧ (∀ launch ∈ started, launch.Fits k.context) ∧
      ∀ launch?, ShellsOut p k cell launch? → started = launch?.toList) := by
  refine ⟨fun ops => environment_run ops k, fun s key value => accepted?_eq_some_iff,
    fun cell d hd henvironment => ?_, fun cell launched => ?_⟩
  · obtain ⟨hshown, hafter⟩ := execute_of_isEnvironment (p := p) hd henvironment k
    refine ⟨fun key value hassigns hkey => ?_, fun value hassigns => ?_, fun hnone => ?_⟩
    · have hassignment := Directive.assignment?_eq_some_iff.mpr hassigns
      rw [hshown, hafter, Magic.environment_of_assignment? hassignment hkey, environment_assigned]
      exact ⟨rfl, rfl⟩
    · have hassignment := Directive.assignment?_eq_some_iff.mpr hassigns
      rw [hshown, hafter, Magic.environment_of_nameless hassignment]
      exact ⟨rfl, rfl⟩
    · have hassignment := Directive.assignment?_eq_none_iff.mpr hnone
      rw [hshown, hafter, Magic.environment_of_assignment?_eq_none hassignment]
      refine ⟨rfl, fun hargs => ?_, fun hargs => ?_⟩
      · rw [Magic.lookedUp, if_neg (by rwa [String.isEmpty_iff])]
        rfl
      · obtain ⟨entries, hascending, hmem, hlisting⟩ :=
          Magic.exists_entries_of_listing k.context.environment
        refine ⟨entries, hascending, hmem, ?_⟩
        rw [Magic.lookedUp, if_pos (by rwa [String.isEmpty_iff]), ← hlisting]
        rfl
  · obtain ⟨started, hrun, hlength, hfits⟩ := launching_execute p cell k launched
    refine ⟨started, hrun, hlength, hfits, fun launch? hshells => ?_⟩
    rw [execute_of_shellsOut hshells] at hrun
    exact (List.append_cancel_left (congrArg (fun r => r.2.machine.2) hrun)).symm

/-- An evaluator that refuses one variable. A value may have an equals sign. -/
example :
    let ev : Evaluator Nat := { Evaluator.bare with
      setVariable := fun key _ =>
        pure (if key = "HOME" then .error (.worker "read only") else .ok ()) }
    let ops : List Operation :=
      [.execute "%env MODE = a=b ", .execute "%env =c", .execute "%env HOME=/", .execute "%env A=1"]
    (after ⟨ev, Host.bare⟩ ops Kernel.bare).context.environment.toList = [("A", "1"), ("MODE", "a=b")] := by
  decide +kernel

end Kernel

end NotebookKernel
