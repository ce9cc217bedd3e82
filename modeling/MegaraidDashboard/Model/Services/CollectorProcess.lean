import MegaraidDashboard.ToMathlib.FileLocks

/-! # Who runs the collector

Several processes serve the dashboard; the one that holds the lock file runs the collector jobs, and the others
retry. A process takes its steps in any order with those of the others, may fail at each of them, and may crash, when
the system closes its descriptors.
-/

namespace MegaraidDashboard.Services

open FileLocks

/-- How far `CollectorService.shutdown` has come. -/
inductive ShutdownStage where
  | serving
  /-- The scheduler is paused; `sleep(0)` lets the submitted jobs begin. -/
  | paused
  /-- `_wait_for_active_jobs` -/
  | draining
deriving DecidableEq, Repr

/-- The jobs that the scheduler submitted and those in `_active_jobs`. -/
structure CollectorJobs where
  stage : ShutdownStage
  submitted : ℕ
  active : ℕ
deriving DecidableEq, Repr

def CollectorJobs.started : CollectorJobs := ⟨.serving, 0, 0⟩

/-- Where `_start_collector_scheduler` and the lifespan of a process are. -/
inductive CollectorPhase where
  /-- No attempt is going on. -/
  | waiting
  | opened (fd : Descriptor)
  /-- The lock is granted; the pid is not written and no job is scheduled yet. -/
  | locked (fd : Descriptor)
  | collecting (fd : Descriptor) (jobs : CollectorJobs)
deriving DecidableEq, Repr

/-- A process, the descriptors that a failed write of its pid left open, and the jobs that outlived its lock. -/
structure CollectorProcess where
  phase : CollectorPhase
  leaked : List Descriptor
  orphans : ℕ
deriving DecidableEq, Repr

def CollectorProcess.initial : CollectorProcess := ⟨.waiting, [], 0⟩

namespace CollectorProcess

/-- The descriptors that hold the lock. -/
def held (process : CollectorProcess) : List Descriptor :=
  match process.phase with
  | .locked fd | .collecting fd _ => fd :: process.leaked
  | _ => process.leaked

/-- The open descriptors of the lock file. -/
def opened (process : CollectorProcess) : List Descriptor :=
  match process.phase with
  | .opened fd => fd :: process.leaked
  | _ => process.held

/-- Collector jobs run or may start at any time. -/
def Collects (process : CollectorProcess) : Prop :=
  (∃ fd jobs, process.phase = .collecting fd jobs) ∨ 0 < process.orphans

/-- The jobs of a released lock go on, if there are any. -/
def released (process : CollectorProcess) (jobs : CollectorJobs) : CollectorProcess :=
  { process with phase := .waiting, orphans := process.orphans + jobs.submitted + jobs.active }

end CollectorProcess

/-- What one process does next. -/
inductive CollectorProcessStep where
  /-- `os.open` in `_try_acquire_process_lock` -/
  | openFile
  /-- The file is not valid, or `flock` would block: the descriptor is closed. -/
  | refuse
  | lock
  /-- `os.ftruncate` or `os.write` raises. -/
  | writeFails
  /-- The pid is written, and building or starting the service raises. -/
  | startFails
  | start
  /-- The scheduler submits a job. -/
  | submit
  /-- A submitted job enters `_run_tracked_job`. -/
  | begin
  | finish
  | pause
  /-- `sleep(0)` returns: the submitted jobs have begun. -/
  | settle
  /-- No job is active: the scheduler is shut down and the lock released. -/
  | release
  /-- The shutdown is cancelled while it waits: the lock is released with jobs still active. -/
  | cancelled
  | orphanFinishes
  | crash
deriving DecidableEq, Repr

/-- The processes and the lock file they share. -/
structure CollectorSystem (P : Type) where
  kernel : Kernel
  process : P → CollectorProcess

variable {P : Type} [DecidableEq P]

def CollectorSystem.initial : CollectorSystem P := ⟨.initial, fun _ => .initial⟩

/-- The step on the lock file and one process; no result is a step that the process cannot take. -/
def CollectorProcess.step (kernel : Kernel) (process : CollectorProcess) :
    CollectorProcessStep → Option (Kernel × CollectorProcess)
  | .openFile => match process.phase with
    | .waiting => some (kernel.openLock.1, { process with phase := .opened kernel.openLock.2 })
    | _ => none
  | .refuse => match process.phase with
    | .opened _ => some (kernel, { process with phase := .waiting })
    | _ => none
  | .lock => match process.phase with
    | .opened fd => (kernel.flock fd).map fun kernel => (kernel, { process with phase := .locked fd })
    | _ => none
  | .writeFails => match process.phase with
    | .locked fd => some (kernel, { process with phase := .waiting, leaked := fd :: process.leaked })
    | _ => none
  | .startFails => match process.phase with
    | .locked fd => some (kernel.close [fd], { process with phase := .waiting })
    | _ => none
  | .start => match process.phase with
    | .locked fd => some (kernel, { process with phase := .collecting fd .started })
    | _ => none
  | .submit => match process.phase with
    | .collecting fd ⟨.serving, submitted, active⟩ =>
      some (kernel, { process with phase := .collecting fd ⟨.serving, submitted + 1, active⟩ })
    | _ => none
  | .begin => match process.phase with
    | .collecting fd ⟨stage, submitted + 1, active⟩ =>
      some (kernel, { process with phase := .collecting fd ⟨stage, submitted, active + 1⟩ })
    | _ => none
  | .finish => match process.phase with
    | .collecting fd ⟨stage, submitted, active + 1⟩ =>
      some (kernel, { process with phase := .collecting fd ⟨stage, submitted, active⟩ })
    | _ => none
  | .pause => match process.phase with
    | .collecting fd ⟨.serving, submitted, active⟩ =>
      some (kernel, { process with phase := .collecting fd ⟨.paused, submitted, active⟩ })
    | _ => none
  | .settle => match process.phase with
    | .collecting fd ⟨.paused, submitted, active⟩ =>
      some (kernel, { process with phase := .collecting fd ⟨.draining, 0, active + submitted⟩ })
    | _ => none
  | .release => match process.phase with
    | .collecting fd ⟨.draining, submitted, 0⟩ =>
      some (kernel.close [fd], process.released ⟨.draining, submitted, 0⟩)
    | _ => none
  | .cancelled => match process.phase with
    | .collecting fd ⟨.paused, submitted, active⟩ =>
      some (kernel.close [fd], process.released ⟨.paused, submitted, active⟩)
    | .collecting fd ⟨.draining, submitted, active⟩ =>
      some (kernel.close [fd], process.released ⟨.draining, submitted, active⟩)
    | _ => none
  | .orphanFinishes => match process.orphans with
    | orphans + 1 => some (kernel, { process with orphans := orphans })
    | 0 => none
  | .crash => some (kernel.close process.opened, .initial)

/-- A step of a process, or the removal of the lock file by someone else. -/
inductive CollectorAction (P : Type) where
  | step (p : P) (step : CollectorProcessStep)
  | unlink
deriving DecidableEq

def CollectorSystem.step (system : CollectorSystem P) : CollectorAction P → Option (CollectorSystem P)
  | .step p step => ((system.process p).step system.kernel step).map fun (kernel, process) =>
    ⟨kernel, Function.update system.process p process⟩
  | .unlink => some { system with kernel := system.kernel.unlink }

/-- A run, in any order of the processes. -/
def CollectorSystem.run (system : CollectorSystem P) (actions : List (CollectorAction P)) : Option (CollectorSystem P) :=
  actions.foldlM CollectorSystem.step system

/-- Someone removes the lock file, or a shutdown is cancelled. -/
def CollectorAction.disturbs : CollectorAction P → Bool
  | .unlink | .step _ .cancelled => true
  | _ => false

def Undisturbed (actions : List (CollectorAction P)) : Prop := ∀ action ∈ actions, action.disturbs = false

instance (actions : List (CollectorAction P)) : Decidable (Undisturbed actions) :=
  inferInstanceAs (Decidable (∀ action ∈ actions, action.disturbs = false))

end MegaraidDashboard.Services
