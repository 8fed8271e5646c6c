import NotebookKernel.Proofs.Act
import NotebookKernel.Worker.Session

/-!
# What a kernel leaves alone while it is set up

A session asks its machine for processes and for nothing else. So whatever the processes spare is the
same after any exchange with a worker (`Processes.Spares.call`), and after a kernel was set up
(`Processes.Spares.setUpWorker`) if the creation of directories spares it as well.
-/

namespace NotebookKernel

open Act hiding pure

variable {σ α γ : Type}

namespace Session

variable {ps : Processes σ} {f : Workbench σ → γ} {c : Command}

theorem leaves_ask_of_call (h : Leaves f (call ps c)) (read : Reply → Option α) :
    Leaves f (ask ps c read) := by
  refine h.bind fun result => ?_
  cases result with
  | error failure => exact leaves_pure _
  | ok reply =>
    dsimp only
    split <;> exact leaves_pure _

theorem leaves_orderIfStarted_of_call (h : Leaves f (call ps c)) :
    Leaves f (orderIfStarted ps c) := by
  intro b
  rw [orderIfStarted, bind_run]
  dsimp only [Act.get]
  split
  · rfl
  · exact leaves_ask_of_call h _ b

end Session

theorem Kernel.leaves_prepareDirectory {h : Host σ} {f : σ → γ}
    (hcreate : ∀ dir s, f (h.createDirectories dir s).2 = f s) (dir : Path) :
    Leaves f (prepareDirectory h dir) := by
  intro s
  have hcreate := hcreate dir s
  unfold prepareDirectory
  split <;> next hrun => rwa [hrun] at hcreate

/-- The processes do not change what `f` tells of the machine. -/
structure Processes.Spares (ps : Processes σ) (f : σ → γ) : Prop where
  spawn : ∀ python directory environment s, f (ps.spawn python directory environment s).2 = f s
  isAlive : ∀ pid s, f (ps.isAlive pid s).2 = f s
  write : ∀ pid bytes s, f (ps.write pid bytes s).2 = f s
  read : ∀ pid count s, f (ps.read pid count s).2 = f s
  kill : ∀ pid s, f (ps.kill pid s) = f s

namespace Processes.Spares

variable {ps : Processes σ} {f : σ → γ}

/-! ## Exchanges -/

theorem send (h : ps.Spares f) (pid : Nat) (c : Command) (s : σ) :
    f (Session.send ps pid c s).2 = f s := by
  unfold Session.send
  split
  · rfl
  · next bytes _ =>
    have hwrite := h.write pid bytes s
    split <;> next hrun => rwa [hrun] at hwrite

theorem receive (h : ps.Spares f) (pid : Nat) (s : σ) : f (Session.receive ps pid s).2 = f s := by
  have hread := h.read pid 4 s
  unfold Session.receive
  split
  · next a b c d s' hrun =>
    rw [hrun] at hread
    dsimp only
    split
    · exact hread
    · have hbody := h.read pid (Frame.ofLengthBytes a b c d) s'
      split <;> exact hbody.trans hread
  · next hrun => rwa [hrun] at hread

theorem exchange (h : ps.Spares f) (pid : Nat) (c : Command) (s : σ) :
    f (Session.exchange ps pid c s).2 = f s := by
  have hsend := h.send pid c s
  rcases hrun : Session.send ps pid c s with ⟨_ | _, s'⟩ <;> rw [hrun] at hsend <;>
    simp only [Session.exchange, hrun]
  · exact hsend
  · exact (h.receive pid s').trans hsend

theorem giveUp (h : ps.Spares f) (pid : Nat) (s : σ) : f (Session.giveUp ps pid s) = f s :=
  (h.kill pid _).trans (h.send pid .shutdown s)

theorem demand (h : ps.Spares f) (pid : Nat) (c : Command) (wanted : Reply → Bool) (s : σ) :
    f (Session.demand ps pid c wanted s).2 = f s := by
  have hexchange := h.exchange pid c s
  have hgivenUp := (h.giveUp pid (Session.exchange ps pid c s).2).trans hexchange
  rcases hrun : Session.exchange ps pid c s with ⟨_ | _, s'⟩ <;>
    rw [hrun] at hexchange hgivenUp <;> simp only [Session.demand, hrun]
  · exact hgivenUp
  · split
    · exact hexchange
    · exact hgivenUp

theorem start (h : ps.Spares f) (w : Session) (s : σ) : f (Session.start ps w s).2 = f s := by
  have hspawn := h.spawn w.python w.directory w.environment s
  unfold Session.start
  rcases hrun : ps.spawn w.python w.directory w.environment s with ⟨_ | pid, s₁⟩ <;>
    rw [hrun] at hspawn <;> dsimp only
  · exact hspawn
  · have hping := (h.demand pid .ping Session.isPong s₁).trans hspawn
    rcases hrun : Session.demand ps pid .ping Session.isPong s₁ with ⟨_ | _, s₂⟩ <;>
      rw [hrun] at hping <;> dsimp only
    · exact hping
    · have hreset := (h.demand pid (.reset w.preload) Session.isDone s₂).trans hping
      split <;> next hrun => rwa [hrun] at hreset

/-! ## Requests of a session -/

theorem ensureWorker (h : ps.Spares f) :
    Leaves (fun b : Workbench σ => f b.machine) (Session.ensureWorker ps) := by
  intro b
  unfold Session.ensureWorker
  cases b.session.worker with
  | none => exact h.start b.session b.machine
  | some pid =>
    have halive := h.isAlive pid b.machine
    dsimp only
    split
    · exact halive
    · exact (h.start _ _).trans ((h.giveUp pid _).trans halive)

theorem call (h : ps.Spares f) (c : Command) :
    Leaves (fun b : Workbench σ => f b.machine) (Session.call ps c) := by
  refine h.ensureWorker.bind fun worker => ?_
  cases worker with
  | error failure => exact leaves_pure _
  | ok pid =>
    intro b
    have hexchange := h.exchange pid c b.machine
    have hgivenUp := (h.giveUp pid (Session.exchange ps pid c b.machine).2).trans hexchange
    rcases hrun : Session.exchange ps pid c b.machine with ⟨_ | reply, s⟩ <;>
      rw [hrun] at hexchange hgivenUp
    · simpa only [hrun] using hgivenUp
    · cases reply <;> simpa only [hrun] using hexchange

/-! ## Setting up a kernel -/

variable {h : Host σ}

theorem setUp (hps : ps.Spares f) (hcreate : ∀ dir s, f (h.createDirectories dir s).2 = f s)
    (config : Config) : Leaves (fun b : Workbench σ => f b.machine)
      (Kernel.setUp (Workbench.platform h ps) config) := by
  refine Leaves.bind (Kernel.leaves_prepareDirectory (h := (Workbench.platform h ps).host)
    (fun dir b => hcreate dir b.machine) config.workingDirectory) fun prepared => ?_
  cases prepared with
  | error failure => exact leaves_pure _
  | ok dir =>
    have hask : Leaves (fun b : Workbench σ => f b.machine)
        ((Session.evaluator ps).setDirectory dir) :=
      Leaves.bind (fun _ => rfl) fun _ => Session.leaves_orderIfStarted_of_call (hps.call _)
    refine hask.bind fun accepted => ?_
    cases accepted <;> exact leaves_pure _

theorem setUpWorker (hps : ps.Spares f) (hcreate : ∀ dir s, f (h.createDirectories dir s).2 = f s)
    (config : Config) : Leaves (fun b : Workbench σ => f b.machine)
      (Kernel.setUpWorker h ps config) := by
  have hprepare : Leaves (fun b : Workbench σ => f b.machine)
      (Workbench.onMachine (Kernel.prepareDirectory h config.workingDirectory)) :=
    fun b => Kernel.leaves_prepareDirectory hcreate config.workingDirectory b.machine
  refine hprepare.bind fun prepared => ?_
  cases prepared with
  | error failure => exact leaves_pure _
  | ok dir =>
    have hget : Leaves (fun b : Workbench σ => f b.machine) Act.get := fun _ => rfl
    refine hget.bind fun b => ?_
    split
    · exact leaves_pure _
    · have hsession (session : Session) : Leaves (fun b : Workbench σ => f b.machine)
          (Session.modifySession fun _ => session) := fun _ => rfl
      refine (hsession _).bind fun _ => hps.ensureWorker.bind fun worker => ?_
      cases worker with
      | error failure => exact leaves_pure _
      | ok pid => exact hps.setUp hcreate _

end Processes.Spares

end NotebookKernel
