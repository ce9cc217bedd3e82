import MegaraidDashboard.Model.Services.Scheduler

/-! # What one poll does to the database

Each table after a committed or failed poll, in terms of the tables before it. The invariants of the
runs cite these equations and never unfold the transaction.
-/

namespace MegaraidDashboard.Services

open Db Storcli

/-- The row of one recorded event. -/
def eventRow (id : ℕ) (occurredAt : ℤ) (event : DetectedEvent) : Event where
  id := id
  occurredAt := occurredAt
  severity := event.severity
  category := event.category
  subject := event.subject
  summary := event.summary
  beforeJson := event.before
  afterJson := event.after
  operatorUsername := none
  notifiedAt := none

/-- The rows of a list of events recorded from a clock reading and an identifier on. -/
def eventRows (clock : ℕ → ℤ) : ℕ → ℕ → List DetectedEvent → List Event
  | _, _, [] => []
  | tick, id, event :: rest =>
    eventRow id (clock tick) event :: eventRows clock (tick + 1) (id + 1) rest

/-- Recording a list of events appends their rows and takes one clock reading for each. -/
theorem foldl_record (clock : ℕ → ℤ) (events : List DetectedEvent) (world : World) :
    events.foldl (World.record clock) world =
      { world with
        db := { world.db with
          events := world.db.events ++ eventRows clock world.tick (world.db.events.length + 1) events }
        tick := world.tick + events.length } := by
  induction events generalizing world with
  | nil => simp [eventRows]
  | cons event rest ih =>
    rw [List.foldl_cons, ih]
    simp only [World.record, Database.insertEvent, eventRows, eventRow, List.length_append,
      List.append_assoc, List.singleton_append, List.length_cons]
    congr 1
    omega

theorem mem_eventRows {clock : ℕ → ℤ} {tick id : ℕ} {events : List DetectedEvent} {row : Event}
    (member : row ∈ eventRows clock tick id events) : ∃ event ∈ events, ∃ rowId rowTick,
      tick ≤ rowTick ∧ rowTick < tick + events.length ∧ row = eventRow rowId (clock rowTick) event := by
  induction events generalizing tick id with
  | nil => cases member
  | cons event rest ih =>
    rw [List.length_cons]
    rcases List.mem_cons.mp member with rfl | later
    · exact ⟨event, List.mem_cons_self, id, tick, le_rfl, by omega, rfl⟩
    · obtain ⟨other, inside, rowId, rowTick, above, below, same⟩ := ih later
      exact ⟨other, List.mem_cons_of_mem _ inside, rowId, rowTick, by omega, by omega, same⟩

/-- The table of temperature states after the clears and then the updates of a detection. -/
def nextTemperatureStates (detector : EventDetector) (table : TempStateTable) : TempStateTable :=
  detector.temperatureUpdates.foldl (fun table update => table.insert update.1 update.2)
    (detector.temperatureClears.foldl (fun table slot => table.filterKeys fun key => key.slot != slot) table)

theorem applyTemperatureStates_eq (detector : EventDetector) (db : Database) :
    applyTemperatureStates detector db =
      { db with tempStates := nextTemperatureStates detector db.tempStates } := by
  have clears (slots : List SlotKey) (db : Database) : slots.foldl Database.clearTempStateForSlot db =
      { db with
        tempStates := slots.foldl (fun table slot => table.filterKeys fun key => key.slot != slot)
          db.tempStates } := by
    induction slots generalizing db with
    | nil => rfl
    | cons slot rest ih => rw [List.foldl_cons, ih]; rfl
  have updates (entries : List (DriveKey × TempState)) (db : Database) :
      entries.foldl (fun db update => db.upsertTempState update.1 update.2) db =
      { db with
        tempStates := entries.foldl (fun table update => table.insert update.1 update.2)
          db.tempStates } := by
    induction entries generalizing db with
    | nil => rfl
    | cons entry rest ih => rw [List.foldl_cons, ih]; rfl
  rw [applyTemperatureStates, clears, updates]
  rfl

section Retention

variable (world : World) (windows : RetentionSettings) (now : ℤ)

/-- A retention transaction keeps the snapshots that are new enough. -/
theorem retention_snapshots : ∃ keep : ℤ → Bool,
    (∀ earlier later, keep earlier = true → earlier ≤ later → keep later = true) ∧
    (world.retention windows now).db.snapshots = world.db.snapshots.filter fun snapshot =>
      keep snapshot.capturedAt := by
  simp only [World.retention]
  split
  · exact ⟨fun _ => true, fun _ _ kept _ => kept, (List.filter_true _).symm⟩
  · next store ran =>
    simp only [runRetentionTransaction, Option.bind_eq_bind, Option.bind_eq_some_iff] at ran
    obtain ⟨rawCutoff, -, hourlyCutoff, -, same⟩ := ran
    obtain rfl := Option.some.inj same
    refine ⟨fun time => decide (rawCutoff ≤ time), ?_, rfl⟩
    intro earlier later kept le
    exact decide_eq_true ((of_decide_eq_true kept).trans le)

@[simp] theorem retention_events : (world.retention windows now).db.events = world.db.events := by
  rw [World.retention]
  split <;> rfl

@[simp] theorem retention_tick : (world.retention windows now).tick = world.tick := by
  rw [World.retention]
  split <;> rfl

@[simp] theorem retention_rocWarningClearedAt :
    (world.retention windows now).db.rocWarningClearedAt = world.db.rocWarningClearedAt := by
  rw [World.retention]
  split <;> rfl

@[simp] theorem retention_rocCriticalClearedAt :
    (world.retention windows now).db.rocCriticalClearedAt = world.db.rocCriticalClearedAt := by
  rw [World.retention]
  split <;> rfl

end Retention

variable [PyText]

section Poll

variable (settings : Settings) (clock : ℕ → ℤ) (world : World) (snapshot : StorcliSnapshot)

@[simp] theorem poll_snapshots : (world.poll settings clock snapshot).db.snapshots =
    world.db.snapshots ++ [.ofStorcli world.db.nextSnapshotId snapshot] := by
  simp only [World.poll, applyTemperatureStates_eq, foldl_record]
  rfl

@[simp] theorem poll_tempStates : (world.poll settings clock snapshot).db.tempStates =
    nextTemperatureStates (world.detection settings snapshot).2 world.db.tempStates := by
  simp only [World.poll, applyTemperatureStates_eq, foldl_record]
  rfl

@[simp] theorem poll_events : (world.poll settings clock snapshot).db.events =
    world.db.events ++
      eventRows clock world.tick (world.db.events.length + 1) (world.pollEvents settings snapshot) := by
  simp only [World.poll, applyTemperatureStates_eq, foldl_record]
  rfl

@[simp] theorem poll_detector :
    (world.poll settings clock snapshot).detector = (world.detection settings snapshot).2 := by
  simp only [World.poll, foldl_record]
  rfl

@[simp] theorem poll_tick : (world.poll settings clock snapshot).tick =
    world.tick + (world.pollEvents settings snapshot).length := by
  simp only [World.poll, foldl_record]
  rfl

@[simp] theorem poll_deliveries :
    (world.poll settings clock snapshot).db.deliveries = world.db.deliveries := by
  simp only [World.poll, applyTemperatureStates_eq, foldl_record]
  rfl

end Poll

/-- What a detection remembers of the foreign configuration. -/
theorem detection_foreignPresence (settings : Settings) (world : World) (snapshot : StorcliSnapshot) :
    (world.detection settings snapshot).2.previousForeignConfigPresent =
      rememberedForeignPresence world.detector.previousForeignConfigPresent snapshot.foreignConfig := rfl

/-- A detection reads the saved snapshots, the temperature states and whether a foreign
configuration was present; unknown and absent presence are alike. -/
theorem detection_congr (settings : Settings) {world other : World} (snapshot : StorcliSnapshot)
    (snapshots : world.db.snapshots = other.db.snapshots)
    (tempStates : world.db.tempStates = other.db.tempStates)
    (foreign : world.detector.previousForeignConfigPresent.getD false =
      other.detector.previousForeignConfigPresent.getD false) :
    (world.detection settings snapshot).1 = (other.detection settings snapshot).1 ∧
    (world.detection settings snapshot).2.temperatureUpdates =
      (other.detection settings snapshot).2.temperatureUpdates ∧
    (world.detection settings snapshot).2.temperatureClears =
      (other.detection settings snapshot).2.temperatureClears := by
  simp only [World.detection, detect, detectedEvents, detectorAfter, loadTemperatureStates,
    Database.latestSnapshot, detectForeignConfig, snapshots, tempStates, foreign, and_self]

end MegaraidDashboard.Services
