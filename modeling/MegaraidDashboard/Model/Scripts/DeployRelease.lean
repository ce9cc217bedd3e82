import Mathlib.Data.Nat.Notation
import Mathlib.Logic.Function.Basic

/-! # The versioned deployment

`apply` and `rollback` over the files that they write. Every call of the host has a name that a call of the tool uses
at most once, so that what the host answers is a function of the name. A call may fail, and the process may be gone,
before or after the call has taken effect.
-/

namespace MegaraidDashboard.Scripts.DeployRelease

/-! ## The files -/

inductive DeployState where
  | preflight
  | refused
  | backingUp
  | installingOffline
  | activating
  | activeWaitingForCollector
  | verified
  | verifiedExternal
  | alreadyInstalled
  | rolledBack
  | alreadyRolledBack
  | notActivated
  | rollbackNeedsOperator
deriving DecidableEq, Repr

structure Receipt where
  state : DeployState
  noChanges : Bool
  backup : Option ℕ
  updatedAt : ℕ
deriving DecidableEq, Repr

/-- `recovery.json` -/
structure Context where
  commit : String
  baseline : String
  overrideSha256 : String
  envSha256 : String
  hadOverride : Bool
  overridesAttempted : Bool
  restartAttempted : Bool
  previousOverrideSha256 : Option String
deriving DecidableEq, Repr, Inhabited

/-- A recovery directory. -/
structure Backup where
  previousOverride : Option String
  recovery : Option Context
deriving DecidableEq, Repr

structure Files where
  override : Option String
  env : Option String
  backups : ℕ → Backup
  receipt : Option Receipt

/-! ## The host -/

/-- The calls of the host, in the order of the source. -/
inductive Site where
  | applyLock
  | initialProperties
  | installedRead
  | installedIdentity
  | installedExternal
  | installedPreserved
  | installedFiles
  | installedHealth
  /-- `_status` -/
  | status (state : DeployState)
  | baselineIdentity
  | baselineEnvironment
  | targets
  | dropins
  | previousOverride
  | legacy
  | protectedFiles
  | baselineSettings
  | baselineHealth
  | baselineDatabase
  | backups
  | makeBackup
  | savePrevious
  /-- `_save_context` -/
  | saveContext (overridesAttempted restartAttempted : Bool)
  | openLog
  | backup
  | backupPreserved
  | install
  | migrations
  | candidateSettings
  | unchanged
  | latest
  | preparedPreserved
  | account
  | writeEnv
  | writeOverride
  | reload
  | restart
  | health
  | identity
  | process
  | dropinSet
  | environment
  | settings
  | activePreserved
  | activeFiles
  | https
  | collection
  | stillHealthy
  | verifiedPreserved
  | verifiedFiles
  | failureLog
  | rollbackLog
  | refusalRead
  | rollbackLock
  | receiptRead
  | context
  | restoredPreserved
  | restoredIdentity
  | restoredHealth
  | rollbackPreserved
  | rollbackProperties
  | rollbackBaseline
  | rollbackOverride
  | rollbackEnv
  | previousCopy
  | restoreOverride
  | removeOverride
  | removeEnv
  | rollbackReload
  | rollbackRestart
  | rollbackHealth
  | rollbackIdentity
  | rollbackSettings
  | finalPreserved
deriving DecidableEq, Repr

/-- A call returns, raises, or never comes back; a write that does not return was done or not. -/
inductive Result where
  | ok
  | raised (done : Bool)
  | killed (done : Bool)
deriving DecidableEq, Repr

structure Reply where
  result : Result
  now : ℕ
deriving DecidableEq, Repr

abbrev Host := Site → Reply

/-! ## Programs -/

/-- Whether the service was restarted, and whether it runs the baseline again since. -/
inductive Service where
  | untouched
  | attempted
  | restored
deriving DecidableEq, Repr

/-- The files, the number of recovery directories, the `context` that a running `apply` holds, and what became of the
service. -/
structure World where
  files : Files
  fresh : ℕ
  context : Context
  service : Service

inductive Interrupt where
  | raised
  | killed
deriving DecidableEq, Repr

abbrev Deploy := EStateM Interrupt World

/-- The bundle, the paths and the digest. -/
structure Deployment where
  commit : String
  baseline : String
  old : String
  new : String
  config : String
  sha256 : String → String

/-- A call of the host with its effect. -/
def perform (host : Host) (site : Site) (effect : World → World) : Deploy Unit := fun world =>
  match (host site).result with
  | .ok => .ok () (effect world)
  | .raised done => .error .raised (if done then effect world else world)
  | .killed done => .error .killed (if done then effect world else world)

/-- A call that changes none of the files. -/
def check (host : Host) (site : Site) : Deploy Unit := perform host site id

/-- A test of the program itself. -/
def require (condition : Prop) [Decidable condition] : Deploy Unit :=
  if condition then pure () else throw .raised

/-- A handler of `BaseException`; it does not run in a process that is gone. -/
def rescue {α : Type} (body handler : Deploy α) : Deploy α :=
  tryCatch body fun
    | .raised => handler
    | .killed => throw .killed

def World.store (world : World) (update : Files → Files) : World := { world with files := update world.files }

def World.record (world : World) (receipt : Receipt) : World :=
  world.store fun files => { files with receipt := some receipt }

def World.saveBackup (world : World) (backup : ℕ) (update : Backup → Backup) : World :=
  world.store fun files =>
    { files with backups := Function.update files.backups backup (update (files.backups backup)) }

/-- The world in which a program ends. -/
def worldAfter {α : Type} : EStateM.Result Interrupt World α → World
  | .ok _ world => world
  | .error _ world => world

/-- A call of the tool with the answers of the host. -/
inductive Call where
  | apply (host : Host)
  | rollback (host : Host)

def Call.host : Call → Host
  | apply host => host
  | rollback host => host

/-! ## Paths and contents -/

namespace Deployment

variable (deployment : Deployment)

/-- `_dropin_for` -/
def dropinFor (release environment : String) : String :=
  "[Service]\nWorkingDirectory=" ++ release ++ "\nExecStart=\nExecStart=" ++ (release ++ "/.venv/bin/uvicorn") ++
    " --factory megaraid_dashboard.app:create_app --host 0.0.0.0" ++
    " --port 8090 --workers 1 --log-level info --no-access-log\nEnvironmentFile=" ++ environment ++ "\n"

def envPath (commit : String) : String := deployment.config ++ "/ui-" ++ String.ofList (commit.toList.take 7) ++ ".env"

/-- `_dropin` -/
def dropin : String := dropinFor deployment.new (deployment.envPath deployment.commit)

/-- The override of the baseline, if this tool wrote it. -/
def previousDropin : String := dropinFor deployment.old (deployment.envPath deployment.baseline)

def envContent : String := "GIT_SHA=" ++ deployment.commit ++ "\n"

variable (host : Host)

/-! ## Receipts and recovery -/

/-- `_status` -/
def status (state : DeployState) (noChanges : Bool) (backup : Option ℕ) : Deploy DeployState := do
  perform host (.status state) (World.record · ⟨state, noChanges, backup, (host (.status state)).now⟩)
  return state

/-- `_save_context` -/
def saveContext (backup : ℕ) (context : Context) : Deploy Unit :=
  perform host (.saveContext context.overridesAttempted context.restartAttempted)
    (World.saveBackup · backup fun saved => { saved with recovery := some context })

/-- `_context`, with the recovery directory. -/
def recoveryContext (receipt : Receipt) : Deploy (ℕ × Context) :=
  match receipt.backup with
  | none => throw .raised
  | some backup => do
    check host .context
    let world ← get
    match (world.files.backups backup).recovery with
    | none => throw .raised
    | some value =>
      require (value.commit = deployment.commit ∧ value.baseline = deployment.baseline)
      return (backup, value)

/-- `_own_files` -/
def ownFiles (site : Site) (context : Context) : Deploy Unit := do
  check host site
  let world ← get
  require (world.files.override.map deployment.sha256 = some context.overrideSha256)
  require (world.files.env.map deployment.sha256 = some context.envSha256)

/-! ## Rollback -/

/-- The override is the one of this deployment, or the one before it. -/
def recognizeOverride (context : Context) : Deploy Unit := do
  let world ← get
  match world.files.override with
  | some current =>
    check host .rollbackOverride
    require (deployment.sha256 current = context.overrideSha256 ∨
      context.hadOverride = true ∧ some (deployment.sha256 current) = context.previousOverrideSha256)
  | none => require (context.hadOverride = false)

/-- The env file is the one of this deployment. -/
def recognizeEnv (context : Context) : Deploy Unit := do
  let world ← get
  match world.files.env with
  | some current =>
    check host .rollbackEnv
    require (deployment.sha256 current = context.envSha256)
  | none => pure ()

/-- The override as it was. -/
def restoreOverride (context : Context) (backup : ℕ) : Deploy Unit := do
  let world ← get
  if context.hadOverride then
    check host .previousCopy
    match (world.files.backups backup).previousOverride with
    | none => throw .raised
    | some previous =>
      require (some (deployment.sha256 previous) = context.previousOverrideSha256)
      perform host .restoreOverride (World.store · fun files => { files with override := some previous })
  else if world.files.override.isSome then
    perform host .removeOverride (World.store · fun files => { files with override := none })
  else pure ()

/-- The env file of the release is removed. -/
def removeEnv : Deploy Unit := do
  let world ← get
  if world.files.env.isSome then
    perform host .removeEnv (World.store · fun files => { files with env := none })
  else pure ()

/-- `_rollback`, if the overrides were attempted. -/
def restoreFiles (context : Context) (backup : ℕ) : Deploy Unit :=
  if context.overridesAttempted then do
    deployment.recognizeOverride host context
    deployment.recognizeEnv host context
    deployment.restoreOverride host context backup
    removeEnv host
    check host .rollbackReload
  else pure ()

/-- `_rollback`, if a restart was attempted. -/
def restartBaseline (context : Context) : Deploy Unit :=
  if context.restartAttempted then do
    modify fun world => { world with service := .attempted }
    check host .rollbackRestart
    check host .rollbackHealth
    check host .rollbackIdentity
    check host .rollbackSettings
    modify fun world => { world with service := .restored }
  else pure ()

/-- `_rollback` -/
def rollbackWith (context : Context) (backup : ℕ) : Deploy DeployState := do
  check host .rollbackPreserved
  check host .rollbackProperties
  check host .rollbackBaseline
  deployment.restoreFiles host context backup
  restartBaseline host context
  check host .finalPreserved
  status host (if context.restartAttempted then .rolledBack else .notActivated) false (some backup)

def rollback : Deploy DeployState := do
  check host .rollbackLock
  check host .receiptRead
  let world ← get
  match world.files.receipt with
  | none => throw .raised
  | some receipt =>
    require (receipt.state ≠ .verifiedExternal)
    let (backup, context) ← deployment.recoveryContext host receipt
    if receipt.state = .rolledBack then
      check host .restoredPreserved
      check host .restoredIdentity
      check host .restoredHealth
      return .alreadyRolledBack
    else deployment.rollbackWith host context backup

/-! ## Apply -/

/-- The evidence of an earlier installation. -/
def installedEvidence (receipt : Receipt) : Deploy Unit :=
  if receipt.state = .verifiedExternal then do
    check host .installedExternal
    check host .installedPreserved
  else do
    let (_, context) ← deployment.recoveryContext host receipt
    check host .installedPreserved
    deployment.ownFiles host .installedFiles context

/-- `_already_installed` -/
def alreadyInstalled : Deploy Bool := do
  let world ← get
  match world.files.receipt with
  | none => return false
  | some receipt =>
    check host .installedRead
    if (receipt.state = .refused ∨ receipt.state = .preflight) ∧ receipt.noChanges = true then return false
    else
      require (receipt.state = .verified ∨ receipt.state = .verifiedExternal)
      check host .installedIdentity
      deployment.installedEvidence host receipt
      check host .installedHealth
      return true

/-- The tests of the preflight, up to the override that is there. -/
def preflight : Deploy (Option String) := do
  let _ ← status host .preflight true none
  check host .baselineIdentity
  check host .baselineEnvironment
  check host .targets
  let world ← get
  require (world.files.env = none)
  check host .dropins
  check host .previousOverride
  require (∀ content ∈ world.files.override, content = deployment.previousDropin)
  check host .legacy
  check host .protectedFiles
  check host .baselineSettings
  check host .baselineHealth
  check host .baselineDatabase
  check host .backups
  return world.files.override

/-- The first `context`. -/
def initialContext (previous : Option String) : Context where
  commit := deployment.commit
  baseline := deployment.baseline
  overrideSha256 := deployment.sha256 deployment.dropin
  envSha256 := deployment.sha256 deployment.envContent
  hadOverride := previous.isSome
  overridesAttempted := false
  restartAttempted := false
  previousOverrideSha256 := previous.map deployment.sha256

/-- The copy of the override that is there. -/
def savePrevious (previous : Option String) (backup : ℕ) : Deploy Unit :=
  match previous with
  | none => pure ()
  | some content =>
    perform host .savePrevious (World.saveBackup · backup fun saved => { saved with previousOverride := some content })

/-- The recovery directory. -/
def openBackup (previous : Option String) : Deploy ℕ := do
  let world ← get
  let backup := world.fresh
  perform host .makeBackup fun world => { world with fresh := world.fresh + 1 }
  savePrevious host previous backup
  saveContext host backup (deployment.initialContext previous)
  check host .openLog
  modify fun world => { world with context := deployment.initialContext previous }
  return backup

/-- The installation beside the running release. -/
def prepare (backup : ℕ) : Deploy Unit := do
  let _ ← status host .backingUp false (some backup)
  check host .backup
  check host .backupPreserved
  let _ ← status host .installingOffline false (some backup)
  check host .install
  check host .migrations
  check host .candidateSettings
  check host .unchanged
  check host .latest
  check host .preparedPreserved

/-- The two files of the release. -/
def writeRelease (backup : ℕ) : Deploy Unit := do
  modify fun world => { world with context := { world.context with overridesAttempted := true } }
  let world ← get
  saveContext host backup world.context
  check host .account
  perform host .writeEnv (World.store · fun files => { files with env := some deployment.envContent })
  perform host .writeOverride (World.store · fun files => { files with override := some deployment.dropin })
  check host .reload

/-- The restart into the release. -/
def activate (backup : ℕ) : Deploy Unit := do
  modify fun world => { world with context := { world.context with restartAttempted := true } }
  let world ← get
  saveContext host backup world.context
  let _ ← status host .activating false (some backup)
  modify fun world => { world with service := .attempted }
  check host .restart

/-- The tests of the new process, and its receipt. -/
def verify (backup : ℕ) : Deploy DeployState := do
  check host .health
  check host .identity
  check host .process
  check host .dropinSet
  check host .environment
  check host .settings
  check host .activePreserved
  let world ← get
  deployment.ownFiles host .activeFiles world.context
  check host .https
  let _ ← status host .activeWaitingForCollector false (some backup)
  check host .collection
  check host .stillHealthy
  check host .verifiedPreserved
  let world ← get
  deployment.ownFiles host .verifiedFiles world.context
  status host .verified false (some backup)

/-- The handler of a failure after the recovery directory is there. -/
def abandon (backup : ℕ) : Deploy DeployState := do
  check host .failureLog
  let world ← get
  let _ ← rescue (deployment.rollbackWith host world.context backup) do
    check host .rollbackLog
    status host .rollbackNeedsOperator false (some backup)
  throw .raised

/-- `_apply_locked` -/
def applyLocked : Deploy DeployState := do
  check host .initialProperties
  let installed ← deployment.alreadyInstalled host
  if installed then return .alreadyInstalled
  else
    let previous ← deployment.preflight host
    let backup ← deployment.openBackup host previous
    rescue (do
        prepare host backup
        deployment.writeRelease host backup
        activate host backup
        deployment.verify host backup)
      (deployment.abandon host backup)

/-- A refusal in the preflight is recorded. -/
def recordRefusal : Deploy DeployState := do
  let world ← get
  match world.files.receipt with
  | none => throw .raised
  | some receipt =>
    check host .refusalRead
    if receipt.state = .preflight ∧ receipt.noChanges = true then
      let _ ← status host .refused true none
      throw .raised
    else throw .raised

def apply : Deploy DeployState := do
  check host .applyLock
  rescue (deployment.applyLocked host) (recordRefusal host)

/-! ## Histories -/

def step (world : World) : Call → World
  | .apply host => worldAfter (deployment.apply host world)
  | .rollback host => worldAfter (deployment.rollback host world)

/-- The world before the first call; the release may have been adopted. -/
def initial (override env : Option String) (adopted : Bool) : World where
  files := {
    override := override
    env := env
    backups := fun _ => ⟨none, none⟩
    receipt := if adopted then some ⟨.verifiedExternal, false, none, 0⟩ else none }
  fresh := 0
  context := default
  service := .untouched

end Deployment

end MegaraidDashboard.Scripts.DeployRelease
