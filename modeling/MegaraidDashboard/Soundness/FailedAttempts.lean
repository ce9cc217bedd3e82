import Mathlib.Data.List.Chain
import MegaraidDashboard.Machine.Run
import MegaraidDashboard.Soundness.Collector
import MegaraidDashboard.Soundness.Detection

/-! # Polls that fail after detection

A failed attempt rolls its database transaction back, but the detector object keeps what it
remembered of the foreign configuration. The committed events are those of the run without the failed
attempts as long as no failed attempt changes that memory.
-/

namespace MegaraidDashboard.Services

open Db Storcli

/-- One attempt of `run_once`. The text of a failure is empty when its event could not be recorded. -/
inductive Attempt where
  | committed (snapshot : StorcliSnapshot)
  /-- The probes or the parsers failed. -/
  | collectionFailed (error : Option String)
  /-- The transaction failed before the detection. -/
  | insertFailed (snapshot : StorcliSnapshot) (error : Option String)
  /-- Storing the events, the temperature states or the commit failed. -/
  | commitFailed (snapshot : StorcliSnapshot) (error : Option String)

def Attempt.isFailed : Attempt → Bool
  | .committed _ => false
  | _ => true

/-- A committed poll with the events of the detector and the temperature states after it. -/
structure PollRecord where
  snapshot : StorcliSnapshot
  events : List DetectedEvent
  tempStates : TempStateTable

/-- The world and the committed polls, newest first. -/
structure DetectionRun where
  world : World
  history : List PollRecord

variable [PyText]

section Steps

variable (settings : Settings) (clock : ℕ → ℤ)

def World.recordFailure (world : World) : Option String → World
  | none => world
  | some error => world.recordCollectionFailure settings clock error

def DetectionRun.commit (run : DetectionRun) (snapshot : StorcliSnapshot) : DetectionRun :=
  let world := run.world.poll settings clock snapshot
  { world := world
    history := ⟨snapshot, (run.world.detection settings snapshot).1, world.db.tempStates⟩ :: run.history }

def DetectionRun.step (run : DetectionRun) : Attempt → DetectionRun
  | .committed snapshot => run.commit settings clock snapshot
  | .collectionFailed error => { run with world := run.world.recordFailure settings clock error }
  | .insertFailed snapshot error =>
    let detector := { run.world.detector with
      temperatureStates := loadTemperatureStates run.world.db snapshot }
    { run with world := { run.world with detector := detector }.recordFailure settings clock error }
  | .commitFailed snapshot error =>
    let detector := (run.world.detection settings snapshot).2
    { run with world := { run.world with detector := detector }.recordFailure settings clock error }

end Steps

/-- A failure after detection that leaves the remembered presence as it was. -/
def FailureHarmless (run : DetectionRun) : Attempt → Prop
  | .commitFailed snapshot _ => ∀ config ∈ snapshot.foreignConfig,
      config.present = run.world.detector.previousForeignConfigPresent.getD false
  | _ => True

/-- Between two consecutive committed polls a known change of presence is reported by the later. -/
def ForeignChangeReported (later earlier : PollRecord) : Prop :=
  ∀ config ∈ later.snapshot.foreignConfig, ∀ previous ∈ earlier.snapshot.foreignConfig,
    config.present ≠ previous.present →
      ∃ event ∈ later.events, event.category = .foreignConfigDetected ∧
        event.severity = (if config.present then .warning else .info) ∧
        event.afterField "present" = some (.bool config.present)

omit [PyText] in
theorem recordFailure_keeps (settings : Settings) (clock : ℕ → ℤ) (world : World) (error : Option String) :
    (world.recordFailure settings clock error).db.snapshots = world.db.snapshots ∧
    (world.recordFailure settings clock error).db.tempStates = world.db.tempStates ∧
    (world.recordFailure settings clock error).detector = world.detector := by
  cases error with
  | none => exact ⟨rfl, rfl, rfl⟩
  | some error =>
    simp only [World.recordFailure, World.recordCollectionFailure]
    split
    · exact ⟨rfl, rfl, rfl⟩
    · exact ⟨rfl, rfl, rfl⟩

/-- What the two runs agree on. -/
structure SameDetection (run mate : DetectionRun) : Prop where
  history : run.history = mate.history
  snapshots : run.world.db.snapshots = mate.world.db.snapshots
  tempStates : run.world.db.tempStates = mate.world.db.tempStates
  foreign : run.world.detector.previousForeignConfigPresent.getD false =
    mate.world.detector.previousForeignConfigPresent.getD false

omit [PyText] in
theorem rememberedForeignPresence_congr {first second : Option Bool} (config : Option ForeignConfig)
    (same : first.getD false = second.getD false) :
    (rememberedForeignPresence first config).getD false =
      (rememberedForeignPresence second config).getD false := by
  cases config with
  | none => exact same
  | some config => rfl

/-- The same committed poll keeps two runs together. -/
theorem SameDetection.commit {run mate : DetectionRun} (same : SameDetection run mate)
    (settings : Settings) (clock : ℕ → ℤ) (snapshot : StorcliSnapshot) :
    SameDetection (run.commit settings clock snapshot) (mate.commit settings clock snapshot) := by
  obtain ⟨events, updates, clears⟩ := detection_congr settings snapshot same.snapshots same.tempStates
    same.foreign
  have tempStates : nextTemperatureStates (run.world.detection settings snapshot).2 run.world.db.tempStates =
      nextTemperatureStates (mate.world.detection settings snapshot).2 mate.world.db.tempStates := by
    simp only [nextTemperatureStates, updates, clears, same.tempStates]
  exact {
    history := by
      simp only [DetectionRun.commit, events, poll_tempStates, tempStates, same.history]
    snapshots := by
      simp only [DetectionRun.commit, poll_snapshots, Database.nextSnapshotId, same.snapshots]
    tempStates := by simp only [DetectionRun.commit, poll_tempStates, tempStates]
    foreign := by
      simp only [DetectionRun.commit, poll_detector, detection_foreignPresence]
      exact rememberedForeignPresence_congr _ same.foreign }

/-- A harmless failure changes nothing that a later detection reads. -/
theorem SameDetection.failed {run mate : DetectionRun} (same : SameDetection run mate)
    (settings : Settings) (clock : ℕ → ℤ) {attempt : Attempt} (failed : attempt.isFailed = true)
    (harmless : FailureHarmless run attempt) :
    SameDetection (run.step settings clock attempt) mate := by
  have keeps (detector : EventDetector) (error : Option String) :=
    recordFailure_keeps settings clock { run.world with detector := detector } error
  cases attempt with
  | committed snapshot => cases failed
  | collectionFailed error =>
    obtain ⟨snapshots, tempStates, detector⟩ := recordFailure_keeps settings clock run.world error
    exact ⟨same.history, snapshots.trans same.snapshots, tempStates.trans same.tempStates,
      by simp only [DetectionRun.step, detector, same.foreign]⟩
  | insertFailed snapshot error =>
    obtain ⟨snapshots, tempStates, detector⟩ := keeps { run.world.detector with
      temperatureStates := loadTemperatureStates run.world.db snapshot } error
    exact ⟨same.history, snapshots.trans same.snapshots, tempStates.trans same.tempStates,
      by simp only [DetectionRun.step, detector, same.foreign]⟩
  | commitFailed snapshot error =>
    obtain ⟨snapshots, tempStates, detector⟩ := keeps (run.world.detection settings snapshot).2 error
    refine ⟨same.history, snapshots.trans same.snapshots, tempStates.trans same.tempStates, ?_⟩
    simp only [DetectionRun.step, detector, detection_foreignPresence]
    rw [← same.foreign]
    cases config : snapshot.foreignConfig with
    | none => rfl
    | some foreign => exact harmless foreign config

/-- Every change so far was reported, and the detector remembers the presence at the newest commit. -/
structure DetectionRun.Reported (run : DetectionRun) : Prop where
  changes : run.history.IsChain ForeignChangeReported
  remembers : ∀ latest ∈ run.history.head?, ∀ config ∈ latest.snapshot.foreignConfig,
    run.world.detector.previousForeignConfigPresent.getD false = config.present

/-- A change against the remembered presence is reported. -/
theorem detection_foreignEvent (settings : Settings) (world : World) {snapshot : StorcliSnapshot}
    {config : ForeignConfig} (known : snapshot.foreignConfig = some config)
    (changed : config.present ≠ world.detector.previousForeignConfigPresent.getD false) :
    ∃ event ∈ (world.detection settings snapshot).1, event.category = .foreignConfigDetected ∧
      event.severity = (if config.present then .warning else .info) ∧
      event.afterField "present" = some (.bool config.present) := by
  have reported : ∃ part ∈ detectForeignConfig world.detector.previousForeignConfigPresent
      snapshot.foreignConfig, part.category = .foreignConfigDetected ∧
      part.severity = (if config.present then .warning else .info) ∧
      part.afterField "present" = some (.bool config.present) := by
    rw [known]
    cases before : world.detector.previousForeignConfigPresent.getD false <;>
      cases now : config.present <;> simp_all [detectForeignConfig, DetectedEvent.afterField]
  obtain ⟨part, member, category, severity, field⟩ := reported
  refine ⟨attachSerial snapshot part, mem_detectedEvents_iff.mpr ⟨part, rfl, .inr (.inr (.inr member))⟩, ?_⟩
  rw [attachSerial_category, attachSerial_severity, attachSerial_afterField _ _ (by decide)]
  exact ⟨category, severity, field⟩

omit [PyText] in
theorem DetectionRun.reported_start (start : World) : DetectionRun.Reported ⟨start, []⟩ where
  changes := .nil
  remembers := by
    intro latest newest
    cases newest

/-- Commits report every change against the newest commit; harmless failures do not touch the memory. -/
theorem DetectionRun.Reported.step {run : DetectionRun} {attempt : Attempt} (inv : run.Reported)
    (settings : Settings) (clock : ℕ → ℤ) (harmless : FailureHarmless run attempt) :
    (run.step settings clock attempt).Reported := by
  cases failed : attempt.isFailed with
  | true =>
    have same : SameDetection (run.step settings clock attempt) run :=
      SameDetection.failed ⟨rfl, rfl, rfl, rfl⟩ settings clock failed harmless
    exact {
      changes := by rw [same.history]; exact inv.changes
      remembers := by rw [same.history, same.foreign]; exact inv.remembers }
  | false =>
    cases attempt with
    | committed snapshot =>
      constructor
      · refine List.isChain_cons.mpr ⟨?_, inv.changes⟩
        intro earlier newest config known previous before changed
        apply detection_foreignEvent settings run.world known
        rw [inv.remembers earlier newest previous before]
        exact changed
      · intro latest newest config known
        obtain rfl := Option.some.inj newest
        change snapshot.foreignConfig = some config at known
        simp only [DetectionRun.step, DetectionRun.commit, poll_detector, detection_foreignPresence, known,
          rememberedForeignPresence, Option.getD_some]
    | collectionFailed error => cases failed
    | insertFailed snapshot error => cases failed
    | commitFailed snapshot error => cases failed

/-- Two runs that start alike stay together while one of them leaves the failures out. -/
theorem sameDetection_without_failures {settings : Settings} {clock : ℕ → ℤ} {start : DetectionRun}
    {attempts : List Attempt}
    (harmless : Machine.Guarded (DetectionRun.step settings clock) FailureHarmless start attempts) :
    SameDetection (attempts.foldl (DetectionRun.step settings clock) start)
      ((attempts.filter fun attempt => !attempt.isFailed).foldl (DetectionRun.step settings clock) start) := by
  refine harmless.simulation ⟨rfl, rfl, rfl, rfl⟩ ?_ ?_
  · intro run mate attempt committed same _
    cases attempt with
    | committed snapshot => exact same.commit settings clock snapshot
    | collectionFailed error => cases committed
    | insertFailed snapshot error => cases committed
    | commitFailed snapshot error => cases committed
  · intro run mate attempt failed same harmless
    exact same.failed settings clock failed harmless

/-- When no failure after detection changes the remembered presence, the committed events are those
of the run without failures, and every known change of presence is committed. -/
theorem committedEvents_eq_without_failures (settings : Settings) (clock : ℕ → ℤ) (start : World)
    (attempts : List Attempt)
    (harmless : Machine.Guarded (DetectionRun.step settings clock) FailureHarmless ⟨start, []⟩ attempts) :
    (attempts.foldl (DetectionRun.step settings clock) ⟨start, []⟩).history.map (·.events) =
      ((attempts.filter fun attempt => !attempt.isFailed).foldl (DetectionRun.step settings clock)
        ⟨start, []⟩).history.map (·.events) ∧
    (attempts.foldl (DetectionRun.step settings clock) ⟨start, []⟩).history.IsChain
      ForeignChangeReported := by
  have reported : DetectionRun.Reported (attempts.foldl (DetectionRun.step settings clock) ⟨start, []⟩) :=
    harmless.invariant (DetectionRun.reported_start start)
      fun run attempt inv harmless => inv.step settings clock harmless
  rw [(sameDetection_without_failures harmless).history]
  exact ⟨rfl, (sameDetection_without_failures harmless).history ▸ reported.changes⟩

/-! ## A lost change -/

/-- A controller without drives whose foreign configuration is as given. -/
def bareSnapshot (capturedAt : ℤ) (foreignConfig : Option ForeignConfig) : StorcliSnapshot where
  controller := {
    modelName := "LSI MegaRAID SAS 9270CV-8i"
    serialNumber := "SV00000001"
    firmwareVersion := ""
    biosVersion := ""
    driverName := ""
    driverVersion := ""
    pciAddress := ""
    systemTime := 0
    alarmState := "On"
    cvPresent := false
    bbuPresent := false
    rocTemperatureCelsius := none }
  virtualDrives := []
  physicalDrives := []
  cachevault := none
  foreignConfig := foreignConfig
  capturedAt := capturedAt

/-- A controller without drives at the given temperature. -/
def rocSnapshot (capturedAt : ℤ) (temperature : Option ℤ) : StorcliSnapshot :=
  let bare := bareSnapshot capturedAt none
  { bare with controller := { bare.controller with rocTemperatureCelsius := temperature } }

def foreignAbsent : ForeignConfig := ⟨false, 0, 0, none, [], ""⟩

def foreignPresent : ForeignConfig := ⟨true, 1, 1, none, [], "d"⟩

instance (run : DetectionRun) : ∀ attempt, Decidable (FailureHarmless run attempt)
  | .committed _ => .isTrue trivial
  | .collectionFailed _ => .isTrue trivial
  | .insertFailed _ _ => .isTrue trivial
  | .commitFailed snapshot _ => inferInstanceAs (Decidable (∀ config ∈ snapshot.foreignConfig, _))

omit [PyText] in
/-- A failed attempt that saw no foreign configuration, between a poll without and a poll with one. -/
theorem committedEvents_eq_without_failures_absent :
    let _ := PyText.ascii
    let step := DetectionRun.step Settings.default fun tick => (tick : ℤ)
    let attempts := [.committed (bareSnapshot 0 foreignAbsent), .commitFailed (bareSnapshot 1 foreignAbsent) none,
      .committed (bareSnapshot 2 foreignPresent)]
    (attempts.foldl step ⟨.initial, []⟩).history.map (·.events) =
      ((attempts.filter fun attempt => !attempt.isFailed).foldl step ⟨.initial, []⟩).history.map (·.events) ∧
    (attempts.foldl step ⟨.initial, []⟩).history.IsChain ForeignChangeReported :=
  let _ := PyText.ascii
  committedEvents_eq_without_failures Settings.default (fun tick => (tick : ℤ)) .initial
    [.committed (bareSnapshot 0 foreignAbsent), .commitFailed (bareSnapshot 1 foreignAbsent) none,
      .committed (bareSnapshot 2 foreignPresent)] (by decide)

omit [PyText] in
/-- A commit that fails after the first detection of a foreign configuration loses its event. -/
theorem not_committedEvents_eq_without_failures :
    ¬ ∀ [PyText] (settings : Settings) (clock : ℕ → ℤ) (start : World) (attempts : List Attempt),
      (attempts.foldl (DetectionRun.step settings clock) ⟨start, []⟩).history.map (·.events) =
        ((attempts.filter fun attempt => !attempt.isFailed).foldl (DetectionRun.step settings clock)
          ⟨start, []⟩).history.map (·.events) := by
  intro same
  let _ := PyText.ascii
  have lost := same Settings.default (fun tick => (tick : ℤ)) .initial
    [.commitFailed (bareSnapshot 0 foreignPresent) none, .committed (bareSnapshot 1 foreignPresent)]
  revert lost
  decide

end MegaraidDashboard.Services
