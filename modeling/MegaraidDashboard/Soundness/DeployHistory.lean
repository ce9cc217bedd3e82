import MegaraidDashboard.Soundness.DeployApply

/-! # Histories of a deployment

The receipt `verified` is written only after all checks of its call returned. With the invariant this gives the
guarantees of a rollback in every state that calls of the tool can reach.
-/

namespace MegaraidDashboard.Scripts.DeployRelease

open EStateM Deployment

variable {deployment : Deployment} {host : Host}

/-! ## The receipt of a verified release -/

section Verified

def preflightChecks : List Site :=
  [.baselineIdentity, .baselineEnvironment, .targets, .dropins, .previousOverride, .legacy, .protectedFiles,
    .baselineSettings, .baselineHealth, .baselineDatabase, .backups]

def prepareChecks : List Site :=
  [.backup, .backupPreserved, .install, .migrations, .candidateSettings, .unchanged, .latest, .preparedPreserved]

def activationChecks : List Site :=
  [.health, .identity, .process, .dropinSet, .environment, .settings, .activePreserved, .activeFiles, .https,
    .collection, .stillHealthy, .verifiedPreserved, .verifiedFiles]

/-- Every one of the calls returned. -/
def Passed (host : Host) (sites : List Site) : Prop := ∀ site ∈ sites, (host site).result = .ok

/-- A receipt `verified` is the one from before, or all checks passed. -/
def Attested (before : Option Receipt) (host : Host) (world : World) : Prop :=
  world.files.receipt = before ∨ ∀ receipt ∈ world.files.receipt, receipt.state = .verified →
    Passed host (preflightChecks ++ prepareChecks ++ activationChecks)

/-- Wherever the program ends, the predicate holds again. -/
abbrev Keeps {α : Type} (P : World → Prop) (program : Deploy α) : Prop := Triple P program (fun _ => P) fun _ => P

variable {before : Option Receipt} {site : Site} {α β : Type}

theorem Attested.same {world after : World} (attested : Attested before host world)
    (same : after.files.receipt = world.files.receipt) : Attested before host after := by
  rw [Attested, same]
  exact attested

theorem keeps_perform {effect : World → World} (same : ∀ world, (effect world).files.receipt = world.files.receipt) :
    Keeps (Attested before host) (perform host site effect) :=
  triple_perform (fun _ attested => attested.same (same _)) fun _ _ _ => or_self_iff.mp

theorem keeps_check : Keeps (Attested before host) (check host site) := keeps_perform fun _ => rfl

theorem keeps_modify {update : World → World} (same : ∀ world, (update world).files.receipt = world.files.receipt) :
    Keeps (Attested before host) (modify update) := triple_modify fun _ attested => attested.same (same _)

theorem keeps_require {condition : Prop} [Decidable condition] : Keeps (Attested before host) (require condition) :=
  (triple_require_or fun _ attested => attested).mono (fun _ attested => attested) (fun _ _ => And.left)
    fun _ _ attested => attested

theorem keeps_pure (value : α) : Keeps (Attested before host) (pure value) := triple_pure fun _ attested => attested

theorem keeps_throw : Keeps (Attested before host) (throw .raised : Deploy α) := triple_throw fun _ attested => attested

theorem keeps_get {next : World → Deploy β} (rest : ∀ world, Keeps (Attested before host) (next world)) :
    Keeps (Attested before host) (get >>= next) := by
  refine triple_get fun world attested => (rest world).mono ?_ (fun _ _ attested => attested) fun _ _ attested => attested
  rintro _ rfl
  exact attested

theorem keeps_bind {program : Deploy α} {next : α → Deploy β} (first : Keeps (Attested before host) program)
    (rest : ∀ value, Keeps (Attested before host) (next value)) : Keeps (Attested before host) (program >>= next) :=
  first.bind rest

theorem keeps_status {state : DeployState} {noChanges : Bool} {named : Option ℕ} (other : state ≠ .verified) :
    Keeps (Attested before host) (status host state noChanges named) := by
  refine triple_status ?_ fun _ _ _ => or_self_iff.mp
  rintro world now -
  refine .inr ?_
  rintro receipt ⟨⟩ verified
  exact absurd verified other

theorem keeps_rescue {body handler : Deploy α} (first : Keeps (Attested before host) body)
    (rest : Keeps (Attested before host) handler) : Keeps (Attested before host) (rescue body handler) :=
  triple_rescue first rest fun _ attested => attested

theorem keeps_ite {condition : Prop} [Decidable condition] {first second : Deploy α}
    (yes : Keeps (Attested before host) first) (no : Keeps (Attested before host) second) :
    Keeps (Attested before host) (if condition then first else second) :=
  triple_ite (fun _ => yes) fun _ => no

theorem keeps_recoveryContext {receipt : Receipt} :
    Keeps (Attested before host) (deployment.recoveryContext host receipt) := by
  rw [recoveryContext]
  cases receipt.backup with
  | none => exact keeps_throw
  | some backup =>
    refine keeps_bind keeps_check fun _ => keeps_get fun world => ?_
    cases (world.files.backups backup).recovery with
    | none => exact keeps_throw
    | some value => exact keeps_bind keeps_require fun _ => keeps_pure _

theorem keeps_recognizeOverride {context : Context} :
    Keeps (Attested before host) (deployment.recognizeOverride host context) := by
  refine keeps_get fun world => ?_
  cases world.files.override with
  | none => exact keeps_require
  | some current => exact keeps_bind keeps_check fun _ => keeps_require

theorem keeps_recognizeEnv {context : Context} : Keeps (Attested before host) (deployment.recognizeEnv host context) := by
  refine keeps_get fun world => ?_
  cases world.files.env with
  | none => exact keeps_pure _
  | some current => exact keeps_bind keeps_check fun _ => keeps_require

theorem keeps_restoreOverride {context : Context} {backup : ℕ} :
    Keeps (Attested before host) (deployment.restoreOverride host context backup) := by
  refine keeps_get fun world => keeps_ite (keeps_bind keeps_check fun _ => ?_) (keeps_ite ?_ (keeps_pure _))
  · cases (world.files.backups backup).previousOverride with
    | none => exact keeps_throw
    | some previous => exact keeps_bind keeps_require fun _ => keeps_perform fun _ => rfl
  · exact keeps_perform fun _ => rfl

theorem keeps_rollbackWith {context : Context} {backup : ℕ} :
    Keeps (Attested before host) (deployment.rollbackWith host context backup) := by
  have files : Keeps (Attested before host) (deployment.restoreFiles host context backup) := by
    refine keeps_ite ?_ (keeps_pure _)
    refine keeps_bind keeps_recognizeOverride fun _ => keeps_bind keeps_recognizeEnv fun _ =>
      keeps_bind keeps_restoreOverride fun _ => keeps_bind ?_ fun _ => keeps_check
    exact keeps_get fun world => keeps_ite (keeps_perform fun _ => rfl) (keeps_pure _)
  have restart : Keeps (Attested before host) (restartBaseline host context) := by
    refine keeps_ite ?_ (keeps_pure _)
    exact keeps_bind (keeps_modify fun _ => rfl) fun _ => keeps_bind keeps_check fun _ => keeps_bind keeps_check fun _ =>
      keeps_bind keeps_check fun _ => keeps_bind keeps_check fun _ => keeps_modify fun _ => rfl
  refine keeps_bind keeps_check fun _ => keeps_bind keeps_check fun _ => keeps_bind keeps_check fun _ =>
    keeps_bind files fun _ => keeps_bind restart fun _ => keeps_bind keeps_check fun _ => keeps_status ?_
  split_ifs <;> exact DeployState.noConfusion

theorem keeps_rollback : Keeps (Attested before host) (deployment.rollback host) := by
  refine keeps_bind keeps_check fun _ => keeps_bind keeps_check fun _ => keeps_get fun world => ?_
  cases world.files.receipt with
  | none => exact keeps_throw
  | some receipt =>
    refine keeps_bind keeps_require fun _ => keeps_bind keeps_recoveryContext fun found => keeps_ite ?_ keeps_rollbackWith
    exact keeps_bind keeps_check fun _ => keeps_bind keeps_check fun _ => keeps_bind keeps_check fun _ => keeps_pure _

theorem keeps_ownFiles {context : Context} : Keeps (Attested before host) (deployment.ownFiles host site context) :=
  triple_ownFiles fun _ _ attested => attested

theorem keeps_alreadyInstalled : Keeps (Attested before host) (deployment.alreadyInstalled host) := by
  refine keeps_get fun world => ?_
  cases world.files.receipt with
  | none => exact keeps_pure _
  | some receipt =>
    have evidence : Keeps (Attested before host) (deployment.installedEvidence host receipt) :=
      keeps_ite (keeps_bind keeps_check fun _ => keeps_check)
        (keeps_bind keeps_recoveryContext fun _ => keeps_bind keeps_check fun _ => keeps_ownFiles)
    exact keeps_bind keeps_check fun _ => keeps_ite (keeps_pure _) (keeps_bind keeps_require fun _ =>
      keeps_bind keeps_check fun _ => keeps_bind evidence fun _ => keeps_bind keeps_check fun _ => keeps_pure _)

theorem keeps_openBackup {previous : Option String} : Keeps (Attested before host) (deployment.openBackup host previous) := by
  have save : ∀ backup, Keeps (Attested before host) (savePrevious host previous backup) := by
    intro backup
    cases previous with
    | none => exact keeps_pure _
    | some content => exact keeps_perform fun _ => rfl
  exact keeps_get fun world => keeps_bind (keeps_perform fun _ => rfl) fun _ => keeps_bind (save _) fun _ =>
    keeps_bind (keeps_perform fun _ => rfl) fun _ => keeps_bind keeps_check fun _ =>
      keeps_bind (keeps_modify fun _ => rfl) fun _ => keeps_pure _

theorem keeps_writeRelease {backup : ℕ} : Keeps (Attested before host) (deployment.writeRelease host backup) :=
  keeps_bind (keeps_modify fun _ => rfl) fun _ => keeps_get fun _ => keeps_bind (keeps_perform fun _ => rfl) fun _ =>
    keeps_bind keeps_check fun _ => keeps_bind (keeps_perform fun _ => rfl) fun _ =>
      keeps_bind (keeps_perform fun _ => rfl) fun _ => keeps_check

theorem keeps_activate {backup : ℕ} : Keeps (Attested before host) (activate host backup) :=
  keeps_bind (keeps_modify fun _ => rfl) fun _ => keeps_get fun _ => keeps_bind (keeps_perform fun _ => rfl) fun _ =>
    keeps_bind (keeps_status DeployState.noConfusion) fun _ => keeps_bind (keeps_modify fun _ => rfl) fun _ => keeps_check

theorem keeps_abandon {backup : ℕ} : Keeps (Attested before host) (deployment.abandon host backup) :=
  keeps_bind keeps_check fun _ => keeps_get fun _ => keeps_bind (keeps_rescue keeps_rollbackWith
    (keeps_bind keeps_check fun _ => keeps_status DeployState.noConfusion)) fun _ => keeps_throw

theorem keeps_recordRefusal : Keeps (Attested before host) (recordRefusal host) := by
  refine keeps_get fun world => ?_
  cases world.files.receipt with
  | none => exact keeps_throw
  | some receipt =>
    exact keeps_bind keeps_check fun _ => keeps_ite
      (keeps_bind (keeps_status DeployState.noConfusion) fun _ => keeps_throw) keeps_throw

/-- A call before the rest of the program returned. -/
theorem attested_check {next : Unit → Deploy α} {Q : α → World → Prop} (rest : (host site).result = .ok →
    Triple (Attested before host) (next ()) Q fun _ => Attested before host) :
    Triple (Attested before host) (check host site >>= next) Q fun _ => Attested before host := by
  refine Triple.bind (triple_check_ok fun _ _ attested => attested) fun _ => triple_of_forall ?_
  rintro world ⟨attested, returned⟩
  refine (rest returned).mono ?_ (fun _ _ holds => holds) fun _ _ holds => holds
  rintro _ rfl
  exact attested

theorem attested_get {next : World → Deploy α} {Q : α → World → Prop}
    (rest : ∀ world, Triple (Attested before host) (next world) Q fun _ => Attested before host) :
    Triple (Attested before host) (get >>= next) Q fun _ => Attested before host := by
  refine triple_get fun world attested => (rest world).mono ?_ (fun _ _ holds => holds) fun _ _ holds => holds
  rintro _ rfl
  exact attested

theorem attested_preflight :
    Triple (Attested before host) (deployment.preflight host)
      (fun _ world => Attested before host world ∧ Passed host preflightChecks) fun _ => Attested before host := by
  refine Triple.bind (keeps_status DeployState.noConfusion) fun _ => attested_check fun identity =>
    attested_check fun environment => attested_check fun targets => attested_get fun world =>
      keeps_require.bind fun _ => attested_check fun dropins => attested_check fun previous => keeps_require.bind fun _ =>
        attested_check fun legacy => attested_check fun files => attested_check fun settings =>
          attested_check fun health => attested_check fun database => attested_check fun backups =>
            triple_pure fun _ attested => ⟨attested, ?_⟩
  simp only [Passed, preflightChecks, List.forall_mem_cons]
  exact ⟨identity, environment, targets, dropins, previous, legacy, files, settings, health, database, backups,
    List.forall_mem_nil _⟩

theorem attested_prepare {backup : ℕ} :
    Triple (Attested before host) (prepare host backup)
      (fun _ world => Attested before host world ∧ Passed host prepareChecks) fun _ => Attested before host := by
  refine Triple.bind (keeps_status DeployState.noConfusion) fun _ => attested_check fun copy =>
    attested_check fun preserved => Triple.bind (keeps_status DeployState.noConfusion) fun _ =>
      attested_check fun install => attested_check fun migrations => attested_check fun settings =>
        attested_check fun unchanged => attested_check fun latest =>
          (triple_check_ok fun _ _ attested => attested).mono (fun _ attested => attested) ?_ fun _ _ holds => holds
  rintro _ _ ⟨attested, last⟩
  refine ⟨attested, ?_⟩
  simp only [Passed, prepareChecks, List.forall_mem_cons]
  exact ⟨copy, preserved, install, migrations, settings, unchanged, latest, last, List.forall_mem_nil _⟩

/-- The files of the release are read in a call that returned. -/
theorem attested_ownFiles {context : Context} :
    Triple (Attested before host) (deployment.ownFiles host site context)
      (fun _ world => Attested before host world ∧ (host site).result = .ok) fun _ => Attested before host := by
  refine attested_check fun returned => attested_get fun world => keeps_require.bind fun _ =>
    keeps_require.mono (fun _ attested => attested) (fun _ _ attested => ⟨attested, returned⟩) fun _ _ holds => holds

/-- What the rest of a program learns from a part. -/
theorem attested_learn {fact : Prop} {program : Deploy β} {next : β → Deploy α} {Q : α → World → Prop}
    (first : Triple (Attested before host) program (fun _ world => Attested before host world ∧ fact)
      fun _ => Attested before host)
    (rest : fact → ∀ value, Triple (Attested before host) (next value) Q fun _ => Attested before host) :
    Triple (Attested before host) (program >>= next) Q fun _ => Attested before host := by
  refine first.bind fun value => triple_of_forall ?_
  rintro world ⟨attested, learned⟩
  refine (rest learned value).mono ?_ (fun _ _ holds => holds) fun _ _ holds => holds
  rintro _ rfl
  exact attested

theorem attested_verify {backup : ℕ} (preflight : Passed host preflightChecks) (prepared : Passed host prepareChecks) :
    Keeps (Attested before host) (deployment.verify host backup) := by
  refine attested_check fun health => attested_check fun identity => attested_check fun process =>
    attested_check fun dropinSet => attested_check fun environment => attested_check fun settings =>
      attested_check fun preserved => attested_get fun world => attested_learn attested_ownFiles fun files _ =>
        attested_check fun https => Triple.bind (keeps_status DeployState.noConfusion) fun _ =>
          attested_check fun collection => attested_check fun healthy => attested_check fun still =>
            attested_get fun world => attested_learn attested_ownFiles fun last _ =>
              triple_status ?_ fun _ _ _ => or_self_iff.mp
  rintro world now -
  refine .inr fun _ _ _ => ?_
  have activated : Passed host activationChecks := by
    simp only [Passed, activationChecks, List.forall_mem_cons]
    exact ⟨health, identity, process, dropinSet, environment, settings, preserved, files, https, collection, healthy,
      still, last, List.forall_mem_nil _⟩
  intro site member
  rcases List.mem_append.mp member with earlier | member
  · rcases List.mem_append.mp earlier with member | member
    · exact preflight site member
    · exact prepared site member
  · exact activated site member

/-- An apply records `verified` only after all checks. -/
theorem keeps_apply : Keeps (Attested before host) (deployment.apply host) := by
  have body : ∀ backup, Passed host preflightChecks → Keeps (Attested before host) (do
      prepare host backup
      deployment.writeRelease host backup
      activate host backup
      deployment.verify host backup) := fun backup preflight =>
    attested_learn attested_prepare fun prepared _ => keeps_writeRelease.bind fun _ => keeps_activate.bind fun _ =>
      attested_verify preflight prepared
  refine keeps_bind keeps_check fun _ => keeps_rescue ?_ keeps_recordRefusal
  exact keeps_bind keeps_check fun _ => keeps_bind keeps_alreadyInstalled fun _ => keeps_ite (keeps_pure _)
    (attested_learn attested_preflight fun preflight _ => keeps_bind keeps_openBackup fun backup =>
      keeps_rescue (body backup preflight) keeps_abandon)

end Verified

/-! ## Histories -/

variable {override env : Option String} {world : World}

theorem worldAfter_eq {α : Type} {program : Deploy α} {P Q : World → Prop} (triple : Triple P program (fun _ => Q) fun _ => Q)
    (holds : P world) : Q (worldAfter (program world)) := by
  cases same : program world with
  | ok value reached => exact triple.of_ok holds same
  | error interrupt reached => exact triple.of_error holds same

theorem consistent_initial (adopted : Bool) :
    Consistent deployment override env (initial override env adopted) := by
  refine .pristine ?_ ⟨⟨rfl, rfl⟩, rfl⟩
  cases adopted with
  | true =>
    rintro _ ⟨⟩
    rfl
  | false => rintro _ ⟨⟩

theorem consistent_step (consistent : Consistent deployment override env world) {call : Call}
    (records : RecordsRestart call.host) : Consistent deployment override env (deployment.step world call) := by
  cases call with
  | apply host => exact worldAfter_eq (triple_apply records) consistent
  | rollback host =>
    refine worldAfter_eq ((triple_rollback consistent).mono (fun _ same => same) (fun _ _ done => done.consistent)
      fun _ _ stopped => stopped.1) rfl

/-- The recovery context that the receipt names. -/
def persisted (world : World) : Option Context :=
  (world.files.receipt.bind (·.backup)).bind fun backup => (world.files.backups backup).recovery

theorem Consistent.flags (consistent : Consistent deployment override env world) :
    (¬ Restored override env world → ∃ context ∈ persisted world, context.overridesAttempted = true) ∧
      (world.service ≠ .untouched → ∃ context ∈ persisted world, context.restartAttempted = true) := by
  cases consistent with
  | pristine _ pristine => exact ⟨fun changed => absurd pristine.1 changed, fun touched => absurd pristine.2 touched⟩
  | attempted receipt backup overridesAttempted restartAttempted recorded named _ attempt _ _ =>
    have saved : flagged deployment override overridesAttempted restartAttempted ∈ persisted world := by
      simp [persisted, recorded, named, attempt.recovery]
    refine ⟨fun changed => ⟨_, saved, ?_⟩, fun touched => ⟨_, saved, attempt.service touched⟩⟩
    by_contra unset
    refine changed ⟨attempt.overrideFile.elim id fun flag => absurd flag.1 unset, ?_⟩
    exact (attempt.envFile.elim id fun flag => absurd flag.1 unset).trans attempt.absent.symm

/-- A completed rollback of an attempted restart leaves the receipt `rolled_back`. -/
theorem Completed.rolledBack (completed : Completed deployment override env world) {context : Context}
    (saved : context ∈ persisted world) (restart : context.restartAttempted = true) :
    ∃ receipt, world.files.receipt = some receipt ∧ receipt.state = .rolledBack := by
  obtain ⟨receipt, recorded, state | state⟩ := completed.ended
  · exact ⟨receipt, recorded, state⟩
  · cases completed.consistent with
    | pristine unrecorded =>
      rw [persisted, recorded, Option.bind_some, unrecorded receipt recorded] at saved
      cases saved
    | attempted other backup overridesAttempted restartAttempted same named _ attempt _ notActivated =>
      rw [recorded] at same
      obtain rfl := Option.some.inj same
      have noRestart := (notActivated state).2
      subst noRestart
      rw [persisted, recorded, Option.bind_some, named, Option.bind_some, attempt.recovery] at saved
      obtain rfl := Option.some.inj saved
      cases restart

/-- What a deployment promises in a state: a rollback whose calls return restores the files and the baseline, or refuses
without a change; the flags cover every change; and a completed rollback that is repeated changes nothing. -/
structure CrashConsistent (deployment : Deployment) (override env : Option String) (world : World)
    (repeats : World → Prop) : Prop where
  rollback : ∀ host, Succeeds host → match deployment.rollback host world with
    | .ok _ reached => Restored override env reached ∧ reached.service ≠ .attempted
    | .error _ reached => reached = world
  overridesFlag : ¬ Restored override env world → ∃ context ∈ persisted world, context.overridesAttempted = true
  restartFlag : world.service ≠ .untouched → ∃ context ∈ persisted world, context.restartAttempted = true
  verified : ∀ call : Call, Attested world.files.receipt call.host (deployment.step world call)
  repeated : ∀ host again result reached, deployment.rollback host world = .ok result reached → repeats reached →
    worldAfter (deployment.rollback again reached) = reached

/-- The recovery context records an attempted restart. -/
def RestartRecorded (world : World) : Prop := ∃ context ∈ persisted world, context.restartAttempted = true

theorem Consistent.crashConsistent (consistent : Consistent deployment override env world) :
    CrashConsistent deployment override env world RestartRecorded where
  rollback host succeeds := by
    cases same : deployment.rollback host world with
    | ok result reached =>
      have completed := (triple_rollback consistent).of_ok rfl same
      exact ⟨completed.restored, completed.service⟩
    | error interrupt reached => exact ((triple_rollback consistent).of_error rfl same).2 succeeds
  overridesFlag := consistent.flags.1
  restartFlag := consistent.flags.2
  verified call := by
    cases call with
    | apply host => exact worldAfter_eq keeps_apply (.inl rfl)
    | rollback host => exact worldAfter_eq keeps_rollback (.inl rfl)
  repeated host again result reached returned restart := by
    obtain ⟨context, saved, attempted⟩ := restart
    obtain ⟨receipt, recorded, state⟩ := ((triple_rollback consistent).of_ok rfl returned).rolledBack saved attempted
    exact worldAfter_eq (triple_rollback_rolledBack recorded state) rfl

/-- In every history in which no write of the restart flag is lost with an exception, whatever fails and wherever a
process is gone, the deployment keeps its promises, a repeated rollback the last of them if a restart was recorded. -/
theorem rollback_crash_consistent (deployment : Deployment) (override env : Option String) (adopted : Bool)
    (calls : List Call)
    (records : Machine.Guarded deployment.step (fun _ call => RecordsRestart call.host) (initial override env adopted) calls) :
    CrashConsistent deployment override env (calls.foldl deployment.step (initial override env adopted)) RestartRecorded :=
  (records.invariant (consistent_initial adopted) fun _ _ consistent recorded =>
    consistent_step consistent recorded).crashConsistent

/-- A host whose calls return, except for the listed ones. -/
def hostOf (failures : List (Site × Result)) (now : ℕ) : Host := fun site =>
  ⟨((failures.find? (·.1 = site)).map (·.2)).getD .ok, now⟩

def exampleDeployment : Deployment := ⟨"new", "old", "/opt/old", "/opt/new", "/etc/ui", id⟩

/-- The process is gone in the restart into the release. -/
theorem rollback_crash_consistent_restart :
    CrashConsistent exampleDeployment none none
      (exampleDeployment.step (initial none none false) (.apply (hostOf [(.restart, .killed true)] 1))) RestartRecorded :=
  rollback_crash_consistent exampleDeployment none none false [.apply (hostOf [(.restart, .killed true)] 1)]
    ⟨by change (hostOf [(.restart, .killed true)] 1 (.saveContext true true)).result ≠ .raised false; decide, trivial⟩

/-- The write of the restart flag raises, the handler restarts the service and is gone before its receipt: the flag does
not tell of the restart, and the next rollback neither restarts nor verifies the baseline. And a rollback before any
restart, repeated, writes its receipt again. -/
theorem rollback_not_crash_consistent :
    let lost := exampleDeployment.step (initial none none false)
      (.apply (hostOf [(.saveContext true true, .raised false), (.rollbackHealth, .killed false)] 1))
    let failed := exampleDeployment.step (initial none none false) (.apply (hostOf [(.install, .raised false)] 1))
    ¬ CrashConsistent exampleDeployment none none lost (fun _ => True) ∧
      lost.service = .attempted ∧ (persisted lost).map (·.restartAttempted) = some false ∧
      (exampleDeployment.step lost (.rollback (hostOf [] 2))).service = .attempted ∧
      (exampleDeployment.step lost (.rollback (hostOf [] 2))).files.receipt = some ⟨.notActivated, false, some 0, 2⟩ ∧
      failed.files.receipt = some ⟨.notActivated, false, some 0, 1⟩ ∧
      (exampleDeployment.step failed (.rollback (hostOf [] 2))).files.receipt = some ⟨.notActivated, false, some 0, 2⟩ := by
  intro lost failed
  have flag : (persisted lost).map (·.restartAttempted) = some false := by decide +kernel
  have attempted : lost.service = .attempted := by decide +kernel
  refine ⟨fun consistent => ?_, attempted, flag, by decide +kernel, by decide +kernel, by decide +kernel,
    by decide +kernel⟩
  obtain ⟨context, saved, restart⟩ := consistent.restartFlag (by rw [attempted]; exact Service.noConfusion)
  rw [Option.mem_def.mp saved, Option.map_some, restart] at flag
  cases flag

end MegaraidDashboard.Scripts.DeployRelease
