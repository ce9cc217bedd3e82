import Mathlib.Tactic.SplitIfs
import MegaraidDashboard.Machine.Run
import MegaraidDashboard.Model.Scripts.DeployRelease
import MegaraidDashboard.ToMathlib.StatefulTriples

/-! # A rollback after a failure anywhere

Between two calls the receipt names the recovery directory whose flags cover every change. The triples follow the
programs call by call; an exception leaves what its handler needs, and a process that is gone leaves a receipt from
which the next rollback restores the files.
-/

namespace MegaraidDashboard.Scripts.DeployRelease

open EStateM Deployment

/-! ## Calls of the host -/

section Calls

variable {host : Host} {site : Site} {P Q : World → Prop} {E : Interrupt → World → Prop}

/-- Every call of the host returns. -/
def Succeeds (host : Host) : Prop := ∀ site, (host site).result = .ok

theorem triple_perform {effect : World → World} (done : ∀ world, P world → Q (effect world))
    (kept : ¬ Succeeds host → ∀ interrupt world, P world ∨ Q world → E interrupt world) :
    Triple P (perform host site effect) (fun _ => Q) E := by
  intro world before
  have after := done world before
  rw [perform]
  cases same : (host site).result with
  | ok => exact after
  | raised stored | killed stored =>
    have fails : ¬ Succeeds host := fun succeeds => by simp [succeeds site] at same
    cases stored with
    | true => exact kept fails _ _ (.inr after)
    | false => exact kept fails _ _ (.inl before)

/-- A write that is not lost with an exception. -/
theorem triple_perform_stored {effect : World → World} (stored : (host site).result ≠ .raised false)
    (done : ∀ world, P world → Q (effect world)) (raised : ∀ world, Q world → E .raised world)
    (killed : ∀ world, P world ∨ Q world → E .killed world) : Triple P (perform host site effect) (fun _ => Q) E := by
  intro world before
  have after := done world before
  rw [perform]
  cases same : (host site).result with
  | ok => exact after
  | raised kept =>
    cases kept with
    | true => exact raised _ after
    | false => exact absurd same stored
  | killed kept =>
    cases kept with
    | true => exact killed _ (.inr after)
    | false => exact killed _ (.inl before)

theorem triple_check (kept : ¬ Succeeds host → ∀ interrupt world, P world → E interrupt world) :
    Triple P (check host site) (fun _ => P) E :=
  triple_perform (fun _ before => before) fun fails interrupt world either => kept fails interrupt world (or_self_iff.mp either)

/-- A call that returned. -/
theorem triple_check_ok (kept : ∀ interrupt world, P world → E interrupt world) :
    Triple P (check host site) (fun _ world => P world ∧ (host site).result = .ok) E := by
  intro world before
  rw [check, perform]
  cases same : (host site).result with
  | ok => exact ⟨before, rfl⟩
  | raised stored | killed stored => cases stored <;> exact kept _ _ before

theorem triple_require {condition : Prop} [Decidable condition] (holds : ∀ world, P world → condition) :
    Triple P (require condition) (fun _ => P) E := by
  intro world before
  rw [require, if_pos (holds world before)]
  exact before

theorem triple_require_or {condition : Prop} [Decidable condition] (kept : ∀ world, P world → E .raised world) :
    Triple P (require condition) (fun _ world => P world ∧ condition) E := by
  rw [require]
  refine triple_ite (fun holds => ?_) fun _ => ?_
  · exact triple_pure fun world before => ⟨before, holds⟩
  · exact triple_throw kept

theorem triple_rescue {α : Type} {body handler : Deploy α} {R : α → World → Prop} {E' : Interrupt → World → Prop}
    (first : Triple P body R E') (rest : Triple (E' .raised) handler R E)
    (gone : ∀ world, E' .killed world → E .killed world) : Triple P (rescue body handler) R E := by
  refine first.tryCatch ?_
  rintro (_ | _)
  · exact rest
  · exact triple_throw gone

theorem triple_status {state : DeployState} {noChanges : Bool} {named : Option ℕ}
    (done : ∀ world now, P world → Q (world.record ⟨state, noChanges, named, now⟩))
    (kept : ¬ Succeeds host → ∀ interrupt world, P world ∨ Q world → E interrupt world) :
    Triple P (status host state noChanges named) (fun _ => Q) E :=
  (triple_perform (fun world before => done world _ before) kept).bind fun _ => triple_pure fun _ after => after

end Calls

/-! ## The invariant -/

section Invariant

variable (deployment : Deployment) (override env : Option String)

/-- The context of an attempt with its two flags. -/
def flagged (overridesAttempted restartAttempted : Bool) : Context :=
  { deployment.initialContext override with
    overridesAttempted := overridesAttempted
    restartAttempted := restartAttempted }

/-- The two files are as before. -/
def Restored (world : World) : Prop := world.files.override = override ∧ world.files.env = env

/-- Nothing was changed. -/
def Pristine (world : World) : Prop := Restored override env world ∧ world.service = .untouched

/-- The recovery directory of an attempt, and what the flags in it allow. -/
structure Attempt (backup : ℕ) (overridesAttempted restartAttempted : Bool) (world : World) : Prop where
  recovery : (world.files.backups backup).recovery =
    some (flagged deployment override overridesAttempted restartAttempted)
  copy : ∀ content ∈ override, (world.files.backups backup).previousOverride = some content
  absent : env = none
  overrideFile : world.files.override = override ∨
    overridesAttempted = true ∧ world.files.override = some deployment.dropin
  envFile : world.files.env = none ∨ overridesAttempted = true ∧ world.files.env = some deployment.envContent
  service : world.service ≠ .untouched → restartAttempted = true

/-- The receipt names no recovery directory. -/
def Unrecorded (world : World) : Prop := ∀ receipt ∈ world.files.receipt, receipt.backup = none

/-- The invariant between two calls. -/
inductive Consistent (world : World) : Prop where
  | pristine (unrecorded : Unrecorded world) (pristine : Pristine override env world)
  | attempted (receipt : Receipt) (backup : ℕ) (overridesAttempted restartAttempted : Bool)
      (recorded : world.files.receipt = some receipt) (named : receipt.backup = some backup)
      (changes : receipt.noChanges = false)
      (attempt : Attempt deployment override env backup overridesAttempted restartAttempted world)
      (rolledBack : receipt.state = .rolledBack → Restored override env world ∧ world.service = .restored)
      (notActivated : receipt.state = .notActivated → Restored override env world ∧ restartAttempted = false)

/-- The receipt of an attempt that is not rolled back. -/
structure Open (backup : ℕ) (restartAttempted : Bool) (world : World) (receipt : Receipt) : Prop where
  recorded : world.files.receipt = some receipt
  named : receipt.backup = some backup
  changes : receipt.noChanges = false
  notRolledBack : receipt.state ≠ .rolledBack
  notActivated : receipt.state = .notActivated → Restored override env world ∧ restartAttempted = false

/-- What a rollback starts from: its context may know of a change that is not made yet. -/
structure Live (backup : ℕ) (overridesAttempted restartAttempted : Bool) (world : World) : Prop where
  attempt : ∃ saved, (saved = true → overridesAttempted = true) ∧
    Attempt deployment override env backup saved restartAttempted world
  recorded : Unrecorded world ∧ overridesAttempted = false ∧ restartAttempted = false ∨
    ∃ receipt, Open override env backup restartAttempted world receipt

/-- What a rollback leaves wherever it stops. -/
def Kept (backup : ℕ) (world : World) : Prop := Consistent deployment override env world ∧
  ∃ overridesAttempted restartAttempted, Attempt deployment override env backup overridesAttempted restartAttempted world

end Invariant

variable {deployment : Deployment} {override env : Option String} {backup : ℕ} {overridesAttempted restartAttempted : Bool}
  {world : World} {host : Host}

/-- Without the flags nothing was changed. -/
theorem Attempt.pristine (attempt : Attempt deployment override env backup false false world) :
    Pristine override env world := by
  refine ⟨⟨?_, ?_⟩, ?_⟩
  · rcases attempt.overrideFile with same | ⟨flag, -⟩
    · exact same
    · cases flag
  · rcases attempt.envFile with same | ⟨flag, -⟩
    · exact same.trans attempt.absent.symm
    · cases flag
  · by_contra touched
    cases attempt.service touched

theorem Live.kept (live : Live deployment override env backup overridesAttempted restartAttempted world) :
    Kept deployment override env backup world := by
  obtain ⟨saved, implies, attempt⟩ := live.attempt
  refine ⟨?_, saved, restartAttempted, attempt⟩
  rcases live.recorded with ⟨unrecorded, rfl, rfl⟩ | ⟨receipt, opened⟩
  · cases saved with
    | false => exact .pristine unrecorded attempt.pristine
    | true => cases implies rfl
  · exact .attempted receipt backup saved restartAttempted opened.recorded opened.named opened.changes attempt
      (fun state => absurd state opened.notRolledBack) opened.notActivated

/-! ## Rollback -/

/-- Where a rollback stops: only if the host fails. -/
abbrev Halts (deployment : Deployment) (override env : Option String) (backup : ℕ) (host : Host) (_ : Interrupt)
    (world : World) : Prop :=
  Kept deployment override env backup world ∧ ¬ Succeeds host

theorem Live.halts (live : Live deployment override env backup overridesAttempted restartAttempted world)
    (fails : ¬ Succeeds host) (interrupt : Interrupt) : Halts deployment override env backup host interrupt world :=
  ⟨live.kept, fails⟩

theorem triple_recognizeOverride :
    Triple (Live deployment override env backup overridesAttempted restartAttempted)
      (deployment.recognizeOverride host (flagged deployment override overridesAttempted restartAttempted))
      (fun _ => Live deployment override env backup overridesAttempted restartAttempted)
      (Halts deployment override env backup host) := by
  refine triple_get fun world live => ?_
  obtain ⟨saved, -, attempt⟩ := live.attempt
  cases found : world.files.override with
  | some current =>
    have known : deployment.sha256 current = deployment.sha256 deployment.dropin ∨
        override.isSome = true ∧ some (deployment.sha256 current) = override.map deployment.sha256 := by
      rcases attempt.overrideFile with same | ⟨-, new⟩
      · rw [← same, found]
        exact .inr ⟨rfl, rfl⟩
      · rw [found] at new
        exact .inl (congrArg deployment.sha256 (Option.some.inj new))
    refine Triple.bind (triple_check ?_) fun _ => ?_
    · rintro fails interrupt _ rfl
      exact live.halts fails interrupt
    · refine (triple_require fun _ _ => known).mono (fun _ same => same) ?_ fun _ _ holds => holds
      rintro _ _ rfl
      exact live
  | none =>
    refine (triple_require ?_).mono (fun _ same => same) ?_ fun _ _ holds => holds
    · intro _ _
      change override.isSome = false
      rcases attempt.overrideFile with same | ⟨-, new⟩
      · rw [← same, found]
        rfl
      · rw [found] at new
        cases new
    · rintro _ _ rfl
      exact live

theorem triple_recognizeEnv :
    Triple (Live deployment override env backup overridesAttempted restartAttempted)
      (deployment.recognizeEnv host (flagged deployment override overridesAttempted restartAttempted))
      (fun _ => Live deployment override env backup overridesAttempted restartAttempted)
      (Halts deployment override env backup host) := by
  refine triple_get fun world live => ?_
  obtain ⟨saved, -, attempt⟩ := live.attempt
  cases found : world.files.env with
  | some current =>
    have known : deployment.sha256 current = deployment.sha256 deployment.envContent := by
      rcases attempt.envFile with missing | ⟨-, new⟩
      · rw [found] at missing
        cases missing
      · rw [found] at new
        exact congrArg deployment.sha256 (Option.some.inj new)
    refine Triple.bind (triple_check ?_) fun _ => ?_
    · rintro fails interrupt _ rfl
      exact live.halts fails interrupt
    · refine (triple_require fun _ _ => known).mono (fun _ same => same) ?_ fun _ _ holds => holds
      rintro _ _ rfl
      exact live
  | none =>
    refine triple_pure ?_
    rintro _ rfl
    exact live

/-- A change towards the files before keeps what a rollback starts from. -/
theorem Live.store (live : Live deployment override env backup overridesAttempted restartAttempted world)
    {update : Files → Files} (backups : (update world.files).backups = world.files.backups)
    (receipt : (update world.files).receipt = world.files.receipt)
    (overrideFile : (update world.files).override = world.files.override ∨ (update world.files).override = override)
    (envFile : (update world.files).env = world.files.env ∨ (update world.files).env = none) :
    Live deployment override env backup overridesAttempted restartAttempted (world.store update) := by
  obtain ⟨saved, implies, attempt⟩ := live.attempt
  refine ⟨⟨saved, implies, ?_, ?_, attempt.absent, ?_, ?_, attempt.service⟩, ?_⟩
  · exact (congrArg (fun backups => (backups backup).recovery) backups).trans attempt.recovery
  · intro content some_
    exact (congrArg (fun backups => (backups backup).previousOverride) backups).trans (attempt.copy content some_)
  · rcases overrideFile with same | before
    · rw [World.store, same]
      exact attempt.overrideFile
    · exact .inl before
  · rcases envFile with same | removed
    · rw [World.store, same]
      exact attempt.envFile
    · exact .inl removed
  · rcases live.recorded with ⟨unrecorded, unset⟩ | ⟨recordedReceipt, opened⟩
    · refine .inl ⟨?_, unset⟩
      intro recordedReceipt member
      exact unrecorded recordedReceipt (receipt ▸ member)
    · refine .inr ⟨recordedReceipt, receipt.trans opened.recorded, opened.named, opened.changes, opened.notRolledBack, ?_⟩
      intro state
      obtain ⟨⟨sameOverride, sameEnv⟩, noRestart⟩ := opened.notActivated state
      refine ⟨⟨?_, ?_⟩, noRestart⟩
      · exact overrideFile.elim (fun same => same.trans sameOverride) fun before => before
      · exact envFile.elim (fun same => same.trans sameEnv) fun removed => removed.trans attempt.absent.symm

theorem triple_restoreOverride :
    Triple (Live deployment override env backup overridesAttempted restartAttempted)
      (deployment.restoreOverride host (flagged deployment override overridesAttempted restartAttempted) backup)
      (fun _ world => Live deployment override env backup overridesAttempted restartAttempted world ∧
        world.files.override = override)
      (Halts deployment override env backup host) := by
  refine triple_get fun world live => ?_
  obtain ⟨saved, -, attempt⟩ := live.attempt
  have either : ¬ Succeeds host → ∀ interrupt reached,
      reached = world ∨ (Live deployment override env backup overridesAttempted restartAttempted reached ∧
        reached.files.override = override) → Halts deployment override env backup host interrupt reached := by
    rintro fails interrupt reached (rfl | ⟨after, -⟩)
    · exact live.halts fails interrupt
    · exact after.halts fails interrupt
  cases before : override with
  | some content =>
    subst before
    refine Triple.bind (triple_check ?_) fun _ => ?_
    · rintro fails interrupt _ rfl
      exact live.halts fails interrupt
    · rw [attempt.copy content rfl]
      refine Triple.bind (triple_require fun _ _ => rfl) fun _ => triple_perform ?_ either
      rintro _ rfl
      exact ⟨live.store rfl rfl (.inr rfl) (.inl rfl), rfl⟩
  | none =>
    subst before
    refine triple_ite (fun there => ?_) fun missing => ?_
    · cases there
    · refine triple_ite (fun _ => triple_perform ?_ either) fun gone => triple_pure ?_
      · rintro _ rfl
        exact ⟨live.store rfl rfl (.inr rfl) (.inl rfl), rfl⟩
      · rintro _ rfl
        exact ⟨live, by simpa using gone⟩

theorem triple_removeEnv :
    Triple (fun world => Live deployment override env backup overridesAttempted restartAttempted world ∧
        world.files.override = override) (removeEnv host)
      (fun _ world => Live deployment override env backup overridesAttempted restartAttempted world ∧
        Restored override env world)
      (Halts deployment override env backup host) := by
  refine triple_get ?_
  rintro world ⟨live, same⟩
  obtain ⟨saved, -, attempt⟩ := live.attempt
  refine triple_ite (fun _ => triple_perform ?_ ?_) fun gone => triple_pure ?_
  · rintro _ rfl
    exact ⟨live.store rfl rfl (.inl rfl) (.inr rfl), same, attempt.absent.symm⟩
  · rintro fails interrupt reached (rfl | ⟨after, -⟩)
    · exact live.halts fails interrupt
    · exact after.halts fails interrupt
  · rintro _ rfl
    refine ⟨live, same, ?_⟩
    rw [attempt.absent]
    simpa using gone

/-- The two files are as before, whether they had to be restored or not. -/
theorem triple_restoreFiles :
    Triple (Live deployment override env backup overridesAttempted restartAttempted)
      (deployment.restoreFiles host (flagged deployment override overridesAttempted restartAttempted) backup)
      (fun _ world => Live deployment override env backup overridesAttempted restartAttempted world ∧
        Restored override env world)
      (Halts deployment override env backup host) := by
  refine triple_ite (fun _ => ?_) fun unset => triple_pure fun world live => ⟨live, ?_⟩
  · refine triple_recognizeOverride.bind fun _ => triple_recognizeEnv.bind fun _ => triple_restoreOverride.bind fun _ =>
      triple_removeEnv.bind fun _ => triple_check ?_
    rintro fails interrupt world ⟨live, -⟩
    exact live.halts fails interrupt
  · obtain ⟨saved, implies, attempt⟩ := live.attempt
    have same : saved = false := by
      cases saved with
      | false => rfl
      | true => exact absurd (implies rfl) unset
    subst same
    refine ⟨attempt.overrideFile.elim (fun same => same) fun flag => ?_,
      attempt.envFile.elim (fun gone => gone.trans attempt.absent.symm) fun flag => ?_⟩
    · cases flag.1
    · cases flag.1

/-- A restart that the context knows of keeps what a rollback starts from. -/
theorem Live.restart (live : Live deployment override env backup overridesAttempted true world) (service : Service) :
    Live deployment override env backup overridesAttempted true { world with service := service } := by
  obtain ⟨saved, implies, attempt⟩ := live.attempt
  refine ⟨⟨saved, implies, attempt.recovery, attempt.copy, attempt.absent, attempt.overrideFile, attempt.envFile,
    fun _ => rfl⟩, ?_⟩
  rcases live.recorded with ⟨-, -, unset⟩ | ⟨receipt, opened⟩
  · cases unset
  · exact .inr ⟨receipt, opened.recorded, opened.named, opened.changes, opened.notRolledBack, opened.notActivated⟩

/-- The service runs the baseline, untouched or again. -/
def Serves (restartAttempted : Bool) (world : World) : Prop :=
  world.service = if restartAttempted then .restored else .untouched

theorem triple_restartBaseline :
    Triple (fun world => Live deployment override env backup overridesAttempted restartAttempted world ∧
        Restored override env world)
      (restartBaseline host (flagged deployment override overridesAttempted restartAttempted))
      (fun _ world => (Live deployment override env backup overridesAttempted restartAttempted world ∧
        Restored override env world) ∧ Serves restartAttempted world)
      (Halts deployment override env backup host) := by
  cases restartAttempted with
  | true =>
    have stop : ¬ Succeeds host → ∀ interrupt world,
        (Live deployment override env backup overridesAttempted true world ∧ Restored override env world) →
          Halts deployment override env backup host interrupt world :=
      fun fails interrupt world holds => holds.1.halts fails interrupt
    refine Triple.bind (triple_modify fun world holds => ?_) fun _ => (triple_check stop).bind fun _ =>
      (triple_check stop).bind fun _ => (triple_check stop).bind fun _ => (triple_check stop).bind fun _ =>
        triple_modify fun world holds => ?_
    · exact ⟨holds.1.restart _, holds.2⟩
    · exact ⟨⟨holds.1.restart _, holds.2⟩, rfl⟩
  | false =>
    refine triple_pure fun world holds => ⟨holds, ?_⟩
    obtain ⟨saved, -, attempt⟩ := holds.1.attempt
    change world.service = .untouched
    by_contra touched
    cases attempt.service touched

/-- A completed rollback. -/
structure Completed (deployment : Deployment) (override env : Option String) (world : World) : Prop where
  consistent : Consistent deployment override env world
  restored : Restored override env world
  service : world.service ≠ .attempted
  ended : ∃ receipt, world.files.receipt = some receipt ∧ (receipt.state = .rolledBack ∨ receipt.state = .notActivated)

/-- The receipt of a rollback completes it. -/
theorem completed_of_record {now : ℕ} (live : Live deployment override env backup overridesAttempted restartAttempted world)
    (restored : Restored override env world) (serves : Serves restartAttempted world) :
    let state := if restartAttempted then DeployState.rolledBack else .notActivated
    Completed deployment override env (world.record ⟨state, false, some backup, now⟩) ∧
      Kept deployment override env backup (world.record ⟨state, false, some backup, now⟩) := by
  intro state
  obtain ⟨saved, -, attempt⟩ := live.attempt
  have after : Attempt deployment override env backup saved restartAttempted
      (world.record ⟨state, false, some backup, now⟩) :=
    ⟨attempt.recovery, attempt.copy, attempt.absent, attempt.overrideFile, attempt.envFile, attempt.service⟩
  rw [Serves] at serves
  have consistent : Consistent deployment override env (world.record ⟨state, false, some backup, now⟩) := by
    refine .attempted _ backup saved restartAttempted rfl rfl rfl after ?_ ?_
    · intro rolledBack
      refine ⟨restored, ?_⟩
      cases restartAttempted with
      | true => exact serves
      | false => cases rolledBack
    · intro notActivated
      refine ⟨restored, ?_⟩
      cases restartAttempted with
      | true => cases notActivated
      | false => rfl
  refine ⟨⟨consistent, restored, ?_, _, rfl, ?_⟩, consistent, saved, restartAttempted, after⟩
  · intro attempted
    have same : world.service = .attempted := attempted
    rw [same] at serves
    cases restartAttempted <;> cases serves
  · cases restartAttempted with
    | true => exact .inl rfl
    | false => exact .inr rfl

theorem triple_rollbackWith :
    Triple (Live deployment override env backup overridesAttempted restartAttempted)
      (deployment.rollbackWith host (flagged deployment override overridesAttempted restartAttempted) backup)
      (fun _ world => Completed deployment override env world ∧ Kept deployment override env backup world)
      (Halts deployment override env backup host) := by
  have stop : ¬ Succeeds host → ∀ interrupt world,
      Live deployment override env backup overridesAttempted restartAttempted world →
        Halts deployment override env backup host interrupt world :=
    fun fails interrupt world live => live.halts fails interrupt
  refine (triple_check stop).bind fun _ => (triple_check stop).bind fun _ => (triple_check stop).bind fun _ =>
    triple_restoreFiles.bind fun _ => triple_restartBaseline.bind fun _ => Triple.bind (triple_check ?_) fun _ => ?_
  · rintro fails interrupt world ⟨⟨live, -⟩, -⟩
    exact live.halts fails interrupt
  refine triple_status (fun world now holds => completed_of_record holds.1.1 holds.1.2 holds.2) ?_
  rintro fails interrupt world (⟨⟨live, -⟩, -⟩ | ⟨-, kept⟩)
  · exact live.halts fails interrupt
  · exact ⟨kept, fails⟩

/-- The context of the receipt is the one of its attempt. -/
theorem triple_recoveryContext {receipt : Receipt} (named : receipt.backup = some backup)
    (attempt : Attempt deployment override env backup overridesAttempted restartAttempted world) :
    Triple (· = world) (deployment.recoveryContext host receipt)
      (fun found reached => reached = world ∧
        found = (backup, flagged deployment override overridesAttempted restartAttempted))
      fun _ reached => reached = world := by
  rw [recoveryContext, named]
  refine Triple.bind (triple_check fun _ _ _ same => same) fun _ => triple_get ?_
  rintro _ rfl
  rw [attempt.recovery]
  refine Triple.bind (triple_require fun _ _ => ⟨rfl, rfl⟩) fun _ => triple_pure ?_
  rintro _ rfl
  exact ⟨rfl, rfl⟩

/-- Reading the context changes nothing. -/
theorem triple_recoveryContext_same {receipt : Receipt} :
    Triple (· = world) (deployment.recoveryContext host receipt) (fun _ reached => reached = world)
      fun _ reached => reached = world := by
  rw [recoveryContext]
  cases receipt.backup with
  | none => exact triple_throw fun _ same => same
  | some backup =>
    refine Triple.bind (triple_check fun _ _ _ same => same) fun _ => triple_get ?_
    rintro world rfl
    cases (world.files.backups backup).recovery with
    | none => exact triple_throw fun _ same => same
    | some value =>
      refine Triple.bind (triple_require_or fun _ same => same) fun _ => ?_
      exact triple_pure fun _ holds => holds.1

/-- A rollback completes, or it is consistent where it stops; if the host does not fail, it refused before any change. -/
theorem triple_rollback (consistent : Consistent deployment override env world) :
    Triple (· = world) (deployment.rollback host) (fun _ => Completed deployment override env)
      fun _ reached => Consistent deployment override env reached ∧ (Succeeds host → reached = world) := by
  have stay : ∀ reached, reached = world →
      Consistent deployment override env reached ∧ (Succeeds host → reached = world) := by
    rintro _ rfl
    exact ⟨consistent, fun _ => rfl⟩
  have stop : ¬ Succeeds host → ∀ (interrupt : Interrupt) reached, reached = world →
      Consistent deployment override env reached ∧ (Succeeds host → reached = world) :=
    fun _ _ reached same => stay reached same
  refine (triple_check stop).bind fun _ => (triple_check stop).bind fun _ => triple_get ?_
  rintro world rfl
  cases consistent with
  | pristine unrecorded pristine =>
    cases recorded : world.files.receipt with
    | none => exact triple_throw stay
    | some receipt =>
      refine (triple_require_or stay).bind fun _ => Triple.bind (Q := fun _ _ => False) ?_ fun _ _ never => never.elim
      rw [recoveryContext, unrecorded receipt recorded]
      exact triple_throw fun reached holds => stay reached holds.1
  | attempted receipt backup overridesAttempted restartAttempted recorded named changes attempt rolledBack notActivated =>
    rw [recorded]
    refine (triple_require_or stay).bind fun _ => Triple.bind ((triple_recoveryContext named attempt).mono
      (fun _ holds => holds.1) (fun _ _ found => found) fun _ => stay) ?_
    rintro ⟨found, context⟩
    refine triple_of_forall ?_
    rintro _ ⟨rfl, same⟩
    cases same
    refine triple_ite (fun state => ?_) fun state => ?_
    · refine (triple_check stop).bind fun _ => (triple_check stop).bind fun _ => (triple_check stop).bind fun _ =>
        triple_pure ?_
      rintro _ rfl
      obtain ⟨restored, service⟩ := rolledBack state
      refine ⟨.attempted receipt backup overridesAttempted restartAttempted recorded named changes attempt rolledBack
        notActivated, restored, ?_, receipt, recorded, .inl state⟩
      rw [service]
      exact Service.noConfusion
    · refine triple_rollbackWith.mono ?_ (fun _ _ done => done.1) ?_
      · rintro _ rfl
        exact ⟨⟨overridesAttempted, id, attempt⟩, .inr ⟨receipt, recorded, named, changes, state, notActivated⟩⟩
      · rintro _ reached ⟨kept, fails⟩
        exact ⟨kept.1, fun succeeds => absurd succeeds fails⟩

/-- A rollback that finds the receipt of a completed one that had restarted the service changes nothing. -/
theorem triple_rollback_rolledBack {receipt : Receipt} (recorded : world.files.receipt = some receipt)
    (state : receipt.state = .rolledBack) :
    Triple (· = world) (deployment.rollback host) (fun _ reached => reached = world) fun _ reached => reached = world := by
  have stop : ¬ Succeeds host → ∀ (interrupt : Interrupt) reached, reached = world → reached = world :=
    fun _ _ _ same => same
  refine (triple_check stop).bind fun _ => (triple_check stop).bind fun _ => triple_get ?_
  rintro world rfl
  rw [recorded]
  refine (triple_require_or fun _ same => same).bind fun _ => Triple.bind
    (triple_recoveryContext_same.mono (fun _ holds => holds.1) (fun _ _ same => same) fun _ _ same => same) ?_
  rintro ⟨backup, context⟩
  refine triple_ite (fun _ => ?_) fun other => absurd state other
  exact (triple_check stop).bind fun _ => (triple_check stop).bind fun _ => (triple_check stop).bind fun _ =>
    triple_pure fun _ same => same

end MegaraidDashboard.Scripts.DeployRelease
