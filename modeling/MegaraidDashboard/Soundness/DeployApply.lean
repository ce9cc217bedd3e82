import MegaraidDashboard.Soundness.DeployRollback

/-! # Apply at every point of failure

An apply keeps the invariant wherever it stops: it changes a file only when the flag of the change is in the recovery
directory that its receipt names. Only a lost write of the restart flag breaks this, since the handler then restarts
the service all the same.
-/

namespace MegaraidDashboard.Scripts.DeployRelease

open EStateM Deployment

variable {deployment : Deployment} {override env : Option String} {backup : ℕ} {overridesAttempted restartAttempted : Bool}
  {world : World} {host : Host}

/-! ## The preflight -/

section Preflight

/-- Nothing was changed, and no receipt tells of a recovery directory. -/
structure Fresh (override env : Option String) (world : World) : Prop where
  unrecorded : Unrecorded world
  pristine : Pristine override env world

theorem Fresh.consistent (fresh : Fresh override env world) : Consistent deployment override env world :=
  .pristine fresh.unrecorded fresh.pristine

/-- A receipt that says that there were no changes tells the truth. -/
theorem Consistent.fresh (consistent : Consistent deployment override env world)
    (nothing : ∀ receipt ∈ world.files.receipt, receipt.noChanges = true) : Fresh override env world := by
  cases consistent with
  | pristine unrecorded pristine => exact ⟨unrecorded, pristine⟩
  | attempted receipt backup _ _ recorded _ changes =>
    have same := nothing receipt recorded
    rw [changes] at same
    cases same

theorem Fresh.record (fresh : Fresh override env world) (state : DeployState) (noChanges : Bool) (now : ℕ) :
    Fresh override env (world.record ⟨state, noChanges, none, now⟩) := by
  refine ⟨?_, fresh.pristine⟩
  rintro receipt ⟨⟩
  rfl

/-- What a program leaves that changes nothing. -/
theorem triple_ownFiles {P : World → Prop} {E : Interrupt → World → Prop} {site : Site} {context : Context}
    (kept : ∀ interrupt world, P world → E interrupt world) :
    Triple P (deployment.ownFiles host site context) (fun _ => P) E := by
  refine Triple.bind (triple_check fun _ => kept) fun _ => triple_get fun world holds => ?_
  have stay : ∀ reached, reached = world → E .raised reached := by
    rintro _ rfl
    exact kept _ _ holds
  refine Triple.bind (triple_require_or stay) fun _ => (triple_require_or fun _ same => stay _ same.1).mono
    (fun _ same => same) ?_ fun _ _ stopped => stopped
  rintro _ _ ⟨⟨rfl, -⟩, -⟩
  exact holds

theorem triple_installedEvidence {receipt : Receipt} :
    Triple (· = world) (deployment.installedEvidence host receipt) (fun _ reached => reached = world)
      fun _ reached => reached = world := by
  have stop : ¬ Succeeds host → ∀ (interrupt : Interrupt) reached, reached = world → reached = world :=
    fun _ _ _ same => same
  refine triple_ite (fun _ => (triple_check stop).bind fun _ => triple_check stop) fun _ => ?_
  refine triple_recoveryContext_same.bind ?_
  rintro ⟨backup, context⟩
  exact (triple_check stop).bind fun _ => triple_ownFiles fun _ _ same => same

theorem triple_alreadyInstalled (consistent : Consistent deployment override env world) :
    Triple (· = world) (deployment.alreadyInstalled host)
      (fun installed reached => reached = world ∧ (installed = false → Fresh override env world))
      fun _ reached => reached = world := by
  have stop : ¬ Succeeds host → ∀ (interrupt : Interrupt) reached, reached = world → reached = world :=
    fun _ _ _ same => same
  refine triple_get ?_
  rintro world rfl
  cases recorded : world.files.receipt with
  | none =>
    refine triple_pure ?_
    rintro _ rfl
    refine ⟨rfl, fun _ => consistent.fresh ?_⟩
    rw [recorded]
    rintro _ ⟨⟩
  | some receipt =>
    refine Triple.bind (triple_check stop) fun _ => triple_ite (fun unchanged => triple_pure ?_) fun _ => ?_
    · rintro _ rfl
      refine ⟨rfl, fun _ => consistent.fresh ?_⟩
      rw [recorded]
      rintro _ ⟨⟩
      exact unchanged.2
    · refine Triple.bind (triple_require_or fun _ same => same) fun _ => Triple.bind (triple_check fun _ _ _ same => same.1)
        fun _ => Triple.bind (triple_installedEvidence.mono (fun _ same => same.1) (fun _ _ same => same) fun _ _ same => same)
          fun _ => (triple_check stop).bind fun _ => triple_pure ?_
      rintro _ rfl
      exact ⟨rfl, fun installed => by cases installed⟩

theorem triple_preflight :
    Triple (Fresh override env) (deployment.preflight host)
      (fun previous world => Fresh override env world ∧ previous = override ∧ env = none)
      fun _ => Fresh override env := by
  have stop : ¬ Succeeds host → ∀ (interrupt : Interrupt) world, Fresh override env world → Fresh override env world :=
    fun _ _ _ fresh => fresh
  refine Triple.bind (triple_status (fun _ _ fresh => fresh.record _ _ _) fun _ _ _ fresh => or_self_iff.mp fresh) fun _ =>
    (triple_check stop).bind fun _ => (triple_check stop).bind fun _ => (triple_check stop).bind fun _ => triple_get ?_
  intro world fresh
  have stay : ∀ reached, reached = world ∧ world.files.env = none → Fresh override env reached := by
    rintro _ ⟨rfl, -⟩
    exact fresh
  have halt : ¬ Succeeds host → ∀ (interrupt : Interrupt) reached, reached = world ∧ world.files.env = none →
      Fresh override env reached := fun _ _ => stay
  refine Triple.bind (triple_require_or fun _ same => same ▸ fresh) fun _ => (triple_check halt).bind fun _ =>
    (triple_check halt).bind fun _ => Triple.bind (triple_require_or stay) fun _ => ?_
  have last : ¬ Succeeds host → ∀ (interrupt : Interrupt) reached, (reached = world ∧ world.files.env = none) ∧
      (∀ content ∈ world.files.override, content = deployment.previousDropin) → Fresh override env reached :=
    fun _ _ reached same => stay reached same.1
  refine (triple_check last).bind fun _ => (triple_check last).bind fun _ => (triple_check last).bind fun _ =>
    (triple_check last).bind fun _ => (triple_check last).bind fun _ => (triple_check last).bind fun _ => triple_pure ?_
  rintro _ ⟨⟨rfl, missing⟩, -⟩
  obtain ⟨⟨sameOverride, sameEnv⟩, -⟩ := fresh.pristine
  exact ⟨fresh, sameOverride, sameEnv.symm.trans missing⟩

end Preflight

/-! ## The recovery directory -/

section OpenBackup

/-- A change of a recovery directory. -/
theorem Fresh.saveBackup (fresh : Fresh override env world) (update : Backup → Backup) :
    Fresh override env (world.saveBackup backup update) :=
  ⟨fresh.unrecorded, fresh.pristine⟩

/-- The copy of the override is in the recovery directory. -/
def Copied (override : Option String) (backup : ℕ) (world : World) : Prop :=
  ∀ content ∈ override, (world.files.backups backup).previousOverride = some content

theorem triple_savePrevious :
    Triple (Fresh override env) (savePrevious host override backup)
      (fun _ world => Fresh override env world ∧ Copied override backup world) fun _ => Fresh override env := by
  cases override with
  | none => exact triple_pure fun world fresh => ⟨fresh, by rintro _ ⟨⟩⟩
  | some content =>
    refine triple_perform ?_ ?_
    · intro world fresh
      refine ⟨fresh.saveBackup _, ?_⟩
      rintro _ ⟨⟩
      simp [World.saveBackup, World.store]
    · rintro - - world (fresh | ⟨fresh, -⟩) <;> exact fresh

theorem triple_saveInitial (absent : env = none) :
    Triple (fun world => Fresh override env world ∧ Copied override backup world)
      (saveContext host backup (deployment.initialContext override))
      (fun _ world => Fresh override env world ∧ Attempt deployment override env backup false false world)
      fun _ => Fresh override env := by
  refine triple_perform ?_ ?_
  · rintro world ⟨fresh, copied⟩
    obtain ⟨⟨sameOverride, sameEnv⟩, untouched⟩ := fresh.pristine
    refine ⟨fresh.saveBackup _, ?_⟩
    refine ⟨?_, ?_, absent, .inl sameOverride, .inl (sameEnv.trans absent), fun touched => absurd untouched touched⟩
    · simp [World.saveBackup, World.store, flagged, initialContext]
    · intro content some_
      simpa [World.saveBackup, World.store] using copied content some_
  · rintro - - world (⟨fresh, -⟩ | ⟨fresh, -⟩) <;> exact fresh

/-- The recovery directory is complete before a receipt names it. -/
theorem triple_openBackup (absent : env = none) :
    Triple (Fresh override env) (deployment.openBackup host override)
      (fun backup world => (Fresh override env world ∧ Attempt deployment override env backup false false world) ∧
        world.context = flagged deployment override false false)
      fun _ => Fresh override env := by
  refine triple_get fun world fresh => ?_
  refine Triple.bind (Q := fun _ => Fresh override env) (triple_perform ?_ ?_) fun _ => triple_savePrevious.bind fun _ =>
    (triple_saveInitial absent).bind fun _ => Triple.bind (triple_check fun _ _ _ done => done.1) fun _ =>
      Triple.bind (triple_modify ?_) fun _ => triple_pure fun _ done => done
  · rintro _ rfl
    exact ⟨fresh.unrecorded, fresh.pristine⟩
  · rintro - - reached (rfl | fresh) <;> exact fresh
  · rintro reached ⟨fresh, attempt⟩
    exact ⟨⟨⟨fresh.unrecorded, fresh.pristine⟩, attempt.recovery, attempt.copy, attempt.absent, attempt.overrideFile,
      attempt.envFile, attempt.service⟩, rfl⟩

end OpenBackup

/-! ## The attempt -/

section Body

/-- An exception leaves what the rollback of the handler starts from. -/
def Doomed (deployment : Deployment) (override env : Option String) (backup : ℕ) (interrupt : Interrupt)
    (world : World) : Prop :=
  Consistent deployment override env world ∧ (interrupt = .raised → ∃ overridesAttempted restartAttempted,
    world.context = flagged deployment override overridesAttempted restartAttempted ∧
      Live deployment override env backup overridesAttempted restartAttempted world)

/-- The receipt of a running attempt. -/
def Recorded (backup : ℕ) (world : World) : Prop :=
  ∃ receipt, world.files.receipt = some receipt ∧ receipt.backup = some backup ∧ receipt.noChanges = false ∧
    receipt.state ≠ .rolledBack ∧ receipt.state ≠ .notActivated

/-- A running attempt, with the flags that are saved and the ones that its context holds. -/
structure Working (deployment : Deployment) (override env : Option String) (backup : ℕ)
    (saved savedRestart overridesAttempted restartAttempted : Bool) (world : World) : Prop where
  attempt : Attempt deployment override env backup saved savedRestart world
  context : world.context = flagged deployment override overridesAttempted restartAttempted
  recorded : Recorded backup world

variable {saved savedRestart : Bool}

theorem Working.consistent
    (working : Working deployment override env backup saved savedRestart overridesAttempted restartAttempted world) :
    Consistent deployment override env world := by
  obtain ⟨receipt, recorded, named, changes, notRolledBack, activated⟩ := working.recorded
  exact .attempted receipt backup saved savedRestart recorded named changes working.attempt
    (fun state => absurd state notRolledBack) fun state => absurd state activated

theorem Working.doomed
    (working : Working deployment override env backup saved restartAttempted overridesAttempted restartAttempted world)
    (implies : saved = true → overridesAttempted = true) (interrupt : Interrupt) :
    Doomed deployment override env backup interrupt world := by
  refine ⟨working.consistent, fun _ => ⟨overridesAttempted, restartAttempted, working.context, ?_, ?_⟩⟩
  · exact ⟨saved, implies, working.attempt⟩
  · obtain ⟨receipt, recorded, named, changes, notRolledBack, activated⟩ := working.recorded
    exact .inr ⟨receipt, recorded, named, changes, notRolledBack, fun state => absurd state activated⟩

/-- A receipt of the running attempt. -/
theorem Working.record {state : DeployState} {now : ℕ}
    (attempt : Attempt deployment override env backup saved savedRestart world)
    (context : world.context = flagged deployment override overridesAttempted restartAttempted)
    (notRolledBack : state ≠ .rolledBack) (activated : state ≠ .notActivated) :
    Working deployment override env backup saved savedRestart overridesAttempted restartAttempted
      (world.record ⟨state, false, some backup, now⟩) where
  attempt := ⟨attempt.recovery, attempt.copy, attempt.absent, attempt.overrideFile, attempt.envFile, attempt.service⟩
  context := context
  recorded := ⟨_, rfl, rfl, rfl, notRolledBack, activated⟩

theorem triple_working_status {state : DeployState} (notRolledBack : state ≠ .rolledBack)
    (activated : state ≠ .notActivated) :
    Triple (Working deployment override env backup overridesAttempted restartAttempted overridesAttempted restartAttempted)
      (status host state false (some backup))
      (fun _ => Working deployment override env backup overridesAttempted restartAttempted overridesAttempted
        restartAttempted)
      (Doomed deployment override env backup) := by
  refine triple_status (fun world _ working => .record working.attempt working.context notRolledBack activated) ?_
  rintro - interrupt world (working | working) <;> exact working.doomed id interrupt

theorem triple_working_check {site : Site} (implies : saved = true → overridesAttempted = true) :
    Triple (Working deployment override env backup saved restartAttempted overridesAttempted restartAttempted)
      (check host site)
      (fun _ => Working deployment override env backup saved restartAttempted overridesAttempted restartAttempted)
      (Doomed deployment override env backup) :=
  triple_check fun _ interrupt _ working => working.doomed implies interrupt

theorem triple_prepare :
    Triple (fun world => (Fresh override env world ∧ Attempt deployment override env backup false false world) ∧
        world.context = flagged deployment override false false)
      (prepare host backup)
      (fun _ => Working deployment override env backup false false false false)
      (Doomed deployment override env backup) := by
  have none_ : false = true → false = true := id
  refine Triple.bind (triple_status (Q := Working deployment override env backup false false false false) ?_ ?_) fun _ =>
    (triple_working_check none_).bind fun _ => (triple_working_check none_).bind fun _ =>
      (triple_working_status DeployState.noConfusion DeployState.noConfusion).bind fun _ =>
        (triple_working_check none_).bind fun _ => (triple_working_check none_).bind fun _ =>
          (triple_working_check none_).bind fun _ => (triple_working_check none_).bind fun _ =>
            (triple_working_check none_).bind fun _ => triple_working_check none_
  · rintro world now ⟨⟨-, attempt⟩, context⟩
    exact .record attempt context DeployState.noConfusion DeployState.noConfusion
  · rintro - interrupt world (⟨⟨fresh, attempt⟩, context⟩ | working)
    · exact ⟨fresh.consistent, fun _ =>
        ⟨false, false, context, ⟨false, id, attempt⟩, .inl ⟨fresh.unrecorded, rfl, rfl⟩⟩⟩
    · exact working.doomed none_ interrupt

/-- The context of the attempt is written with new flags. -/
theorem Working.save (working : Working deployment override env backup saved savedRestart overridesAttempted
      restartAttempted world) (more : saved = true → overridesAttempted = true)
    (moreRestart : savedRestart = true → restartAttempted = true) :
    Working deployment override env backup overridesAttempted restartAttempted overridesAttempted restartAttempted
      (world.saveBackup backup fun saved => { saved with recovery := some world.context }) := by
  obtain ⟨attempt, context, recorded⟩ := working
  refine ⟨⟨?_, ?_, attempt.absent, ?_, ?_, fun touched => moreRestart (attempt.service touched)⟩, context, recorded⟩
  · simp [World.saveBackup, World.store, context]
  · intro content some_
    simpa [World.saveBackup, World.store] using attempt.copy content some_
  · exact attempt.overrideFile.imp id (And.imp_left more)
  · exact attempt.envFile.imp id (And.imp_left more)

theorem triple_writeRelease :
    Triple (Working deployment override env backup false false false false) (deployment.writeRelease host backup)
      (fun _ => Working deployment override env backup true false true false)
      (Doomed deployment override env backup) := by
  refine Triple.bind (Q := fun _ => Working deployment override env backup false false true false) (triple_modify ?_)
    fun _ => triple_get fun world working => ?_
  · rintro world ⟨attempt, context, recorded⟩
    refine ⟨⟨attempt.recovery, attempt.copy, attempt.absent, attempt.overrideFile, attempt.envFile, attempt.service⟩, ?_,
      recorded⟩
    rw [context]
    rfl
  have both : ∀ {site : Site} {effect : World → World},
      (∀ world, Working deployment override env backup true false true false world →
        Working deployment override env backup true false true false (effect world)) →
      Triple (Working deployment override env backup true false true false) (perform host site effect)
        (fun _ => Working deployment override env backup true false true false)
        (Doomed deployment override env backup) := by
    intro site effect kept
    refine triple_perform kept ?_
    rintro - interrupt world (working | working) <;> exact working.doomed id interrupt
  refine Triple.bind (triple_perform (Q := Working deployment override env backup true false true false) ?_ ?_) fun _ =>
    (triple_working_check id).bind fun _ => Triple.bind (both ?_) fun _ => Triple.bind (both ?_) fun _ =>
      triple_working_check id
  · rintro _ rfl
    exact working.save Bool.noConfusion Bool.noConfusion
  · rintro - interrupt reached (rfl | after)
    · exact working.doomed Bool.noConfusion interrupt
    · exact after.doomed id interrupt
  · rintro world ⟨attempt, context, recorded⟩
    exact ⟨⟨attempt.recovery, attempt.copy, attempt.absent, attempt.overrideFile, .inr ⟨rfl, rfl⟩, attempt.service⟩,
      context, recorded⟩
  · rintro world ⟨attempt, context, recorded⟩
    exact ⟨⟨attempt.recovery, attempt.copy, attempt.absent, .inr ⟨rfl, rfl⟩, attempt.envFile, attempt.service⟩,
      context, recorded⟩

/-- The write of the restart flag does not fail before it is done. -/
def RecordsRestart (host : Host) : Prop := (host (.saveContext true true)).result ≠ .raised false

theorem triple_activate (records : RecordsRestart host) :
    Triple (Working deployment override env backup true false true false) (activate host backup)
      (fun _ => Working deployment override env backup true true true true)
      (Doomed deployment override env backup) := by
  refine Triple.bind (Q := fun _ => Working deployment override env backup true false true true) (triple_modify ?_)
    fun _ => triple_get fun world working => ?_
  · rintro world ⟨attempt, context, recorded⟩
    refine ⟨⟨attempt.recovery, attempt.copy, attempt.absent, attempt.overrideFile, attempt.envFile, attempt.service⟩, ?_,
      recorded⟩
    rw [context]
    rfl
  refine Triple.bind (triple_perform_stored (Q := Working deployment override env backup true true true true) ?_ ?_ ?_ ?_)
    fun _ => (triple_working_status DeployState.noConfusion DeployState.noConfusion).bind fun _ =>
      Triple.bind (triple_modify ?_) fun _ => triple_working_check id
  · rw [working.context]
    exact records
  · rintro _ rfl
    exact working.save id Bool.noConfusion
  · exact fun reached after => after.doomed id .raised
  · rintro reached (rfl | after)
    · exact ⟨working.consistent, Interrupt.noConfusion⟩
    · exact after.doomed id .killed
  · rintro world ⟨attempt, context, recorded⟩
    exact ⟨⟨attempt.recovery, attempt.copy, attempt.absent, attempt.overrideFile, attempt.envFile, fun _ => rfl⟩,
      context, recorded⟩

theorem triple_verify :
    Triple (Working deployment override env backup true true true true) (deployment.verify host backup)
      (fun _ => Consistent deployment override env) (Doomed deployment override env backup) := by
  have kept : true = true → true = true := id
  have files : ∀ {site : Site} world, Working deployment override env backup true true true true world →
      Triple (· = world) (deployment.ownFiles host site world.context)
        (fun _ => Working deployment override env backup true true true true) (Doomed deployment override env backup) := by
    intro site world working
    refine (triple_ownFiles ?_).mono (fun _ same => same) ?_ fun _ _ stopped => stopped
    · rintro interrupt _ rfl
      exact working.doomed kept interrupt
    · rintro _ _ rfl
      exact working
  refine (triple_working_check kept).bind fun _ => (triple_working_check kept).bind fun _ =>
    (triple_working_check kept).bind fun _ => (triple_working_check kept).bind fun _ =>
      (triple_working_check kept).bind fun _ => (triple_working_check kept).bind fun _ =>
        (triple_working_check kept).bind fun _ => triple_get fun world working => ?_
  refine (files world working).bind fun _ => (triple_working_check kept).bind fun _ =>
    (triple_working_status DeployState.noConfusion DeployState.noConfusion).bind fun _ =>
      (triple_working_check kept).bind fun _ => (triple_working_check kept).bind fun _ =>
        (triple_working_check kept).bind fun _ => triple_get fun world working => ?_
  refine (files world working).bind fun _ => ?_
  exact (triple_working_status DeployState.noConfusion DeployState.noConfusion).mono (fun _ working => working)
    (fun _ _ working => Working.consistent working) fun _ _ stopped => stopped

/-- The handler: wherever it stops, the receipt still names an attempt that can be rolled back. -/
theorem triple_abandon :
    Triple (Doomed deployment override env backup .raised) (deployment.abandon host backup) (fun _ _ => False)
      fun _ => Consistent deployment override env := by
  refine Triple.bind (triple_check fun _ _ _ doomed => doomed.1) fun _ => triple_get fun world doomed => ?_
  obtain ⟨overridesAttempted, restartAttempted, context, live⟩ := doomed.2 rfl
  rw [context]
  have rolled : Triple (· = world)
      (deployment.rollbackWith host (flagged deployment override overridesAttempted restartAttempted) backup)
      (fun _ => Consistent deployment override env) fun _ => Kept deployment override env backup := by
    refine triple_rollbackWith.mono ?_ (fun _ _ done => done.1.consistent) fun _ _ halts => halts.1
    rintro _ rfl
    exact live
  refine Triple.bind (triple_rescue rolled ?_ fun _ kept => kept.1) fun _ => triple_throw fun _ kept => kept
  · refine Triple.bind (triple_check fun _ _ _ kept => kept.1) fun _ => triple_status ?_ ?_
    · rintro world now ⟨-, saved, savedRestart, attempt⟩
      exact .attempted _ backup saved savedRestart rfl rfl rfl
        ⟨attempt.recovery, attempt.copy, attempt.absent, attempt.overrideFile, attempt.envFile, attempt.service⟩
        DeployState.noConfusion DeployState.noConfusion
    · rintro - - reached (kept | consistent)
      · exact kept.1
      · exact consistent

end Body

/-! ## Apply -/

section Apply

theorem triple_applyLocked (records : RecordsRestart host) :
    Triple (Consistent deployment override env) (deployment.applyLocked host)
      (fun _ => Consistent deployment override env) fun _ => Consistent deployment override env := by
  refine Triple.bind (triple_check fun _ _ _ consistent => consistent) fun _ => triple_of_forall fun world consistent => ?_
  have stopped : ∀ (interrupt : Interrupt) reached, reached = world → Consistent deployment override env reached := by
    rintro - _ rfl
    exact consistent
  refine Triple.bind ((triple_alreadyInstalled consistent).mono (fun _ same => same) (fun _ _ done => done) stopped) ?_
  rintro (_ | _)
  · refine triple_ite (fun never => by cases never) fun _ => ?_
    refine Triple.bind (triple_preflight.mono ?_ (fun _ _ done => done) fun _ _ (fresh : Fresh override env _) =>
      fresh.consistent) ?_
    · rintro _ ⟨rfl, fresh⟩
      exact fresh rfl
    · intro previous
      refine triple_of_forall ?_
      rintro reached ⟨fresh, rfl, absent⟩
      refine Triple.bind ((triple_openBackup absent).mono ?_ (fun _ _ done => done)
        fun _ _ fresh => fresh.consistent) fun backup => ?_
      · rintro _ rfl
        exact fresh
      · exact triple_rescue (triple_prepare.bind fun _ => triple_writeRelease.bind fun _ =>
          (triple_activate records).bind fun _ => triple_verify)
          (triple_abandon.mono (fun _ doomed => doomed) (fun _ _ never => never.elim) fun _ _ kept => kept)
          fun _ doomed => doomed.1
  · refine triple_ite (fun _ => triple_pure fun reached done => stopped .raised reached done.1) fun never => absurd rfl never

theorem triple_recordRefusal :
    Triple (Consistent deployment override env) (recordRefusal host) (fun _ => Consistent deployment override env)
      fun _ => Consistent deployment override env := by
  refine triple_get fun world consistent => ?_
  have stopped : ∀ reached, reached = world → Consistent deployment override env reached := by
    rintro _ rfl
    exact consistent
  cases recorded : world.files.receipt with
  | none => exact triple_throw stopped
  | some receipt =>
    refine Triple.bind (triple_check fun _ _ => stopped) fun _ => triple_ite (fun nothing => ?_) fun _ => triple_throw stopped
    have fresh : Fresh override env world := by
      refine consistent.fresh ?_
      rw [recorded]
      rintro _ ⟨⟩
      exact nothing.2
    refine Triple.bind (Q := fun _ => Fresh override env) (triple_status ?_ ?_) fun _ => triple_throw fun _ fresh =>
      fresh.consistent
    · rintro _ now rfl
      exact fresh.record _ _ _
    · rintro - - reached (rfl | after)
      · exact consistent
      · exact after.consistent

theorem triple_apply (records : RecordsRestart host) :
    Triple (Consistent deployment override env) (deployment.apply host) (fun _ => Consistent deployment override env)
      fun _ => Consistent deployment override env :=
  Triple.bind (triple_check fun _ _ _ consistent => consistent) fun _ =>
    triple_rescue (triple_applyLocked records) triple_recordRefusal fun _ consistent => consistent

end Apply

end MegaraidDashboard.Scripts.DeployRelease
