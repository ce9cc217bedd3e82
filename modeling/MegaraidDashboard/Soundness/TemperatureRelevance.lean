import MegaraidDashboard.Model.Services.TelegramRelevance
import MegaraidDashboard.Soundness.TemperatureHistory

/-! # Relevance of drive temperature incidents

The relevance check of a queued temperature event and the detector's stored state agree for a drive
that stays in its slot: an active incident has the stored state, and an incident whose state has not
changed is active.
-/

namespace MegaraidDashboard.Services

open Db Storcli

/-- The fields of a row that the detector filled. -/
def detected (row : Event) : DetectedEvent where
  severity := row.severity
  category := row.category
  subject := row.subject
  summary := row.summary
  before := row.beforeJson
  after := row.afterJson

section Rows

variable {clock : ℕ → ℤ}

variable (clock) in
theorem map_detected_eventRows (tick id : ℕ) (events : List DetectedEvent) :
    (eventRows clock tick id events).map detected = events := by
  induction events generalizing tick id with
  | nil => rfl
  | cons event rest ih => rw [eventRows, List.map_cons, ih]; rfl

theorem id_of_mem_eventRows {tick id : ℕ} {events : List DetectedEvent} {row : Event}
    (member : row ∈ eventRows clock tick id events) : id ≤ row.id ∧ row.id < id + events.length := by
  induction events generalizing tick id with
  | nil => cases member
  | cons event rest ih =>
    rw [List.length_cons]
    rcases List.mem_cons.mp member with rfl | later
    · change id ≤ id ∧ id < id + (rest.length + 1)
      omega
    · have bounds := ih later
      omega

theorem eventRows_pairwise (tick id : ℕ) (events : List DetectedEvent) :
    (eventRows clock tick id events).Pairwise fun first second => first.id < second.id := by
  induction events generalizing tick id with
  | nil => exact .nil
  | cons event rest ih =>
    refine List.pairwise_cons.mpr ⟨?_, ih _ _⟩
    intro row later
    have bounds := (id_of_mem_eventRows later).1
    change id < row.id
    omega

end Rows

/-- Identifiers of event rows do not exceed the number of rows. -/
def IdsBounded (db : Database) : Prop := ∀ row ∈ db.events, row.id ≤ db.events.length

/-- The temperature rows of a drive. -/
def temperatureRowsOf (drive : PhysicalDrive) (rows : List Event) : List Event :=
  rows.filter fun row => row.category == .temperature && row.subject == physicalDriveSubject drive

theorem map_detected_temperatureRowsOf (drive : PhysicalDrive) (rows : List Event) :
    (temperatureRowsOf drive rows).map detected = temperatureEventsOf drive (rows.map detected) := by
  simp only [temperatureRowsOf, temperatureEventsOf, List.filter_map, Function.comp_def]
  rfl

/-- No later temperature row of the drive exists. -/
def NewestTemperatureRow (drive : PhysicalDrive) (db : Database) (row : Event) : Prop :=
  ∀ other ∈ temperatureRowsOf drive db.events, other.id ≤ row.id

/-- The state that an alert of a drive temperature reports. -/
def alertState : Severity → Option TempState
  | .warning => some .warning
  | .critical => some .critical
  | .info => none

theorem TempState.name_injective {first second : TempState} (same : first.name = second.name) :
    first = second := by
  cases first <;> cases second <;> first | rfl | exact absurd same (by decide)

/-- Only the last change of a way arrives at its end. -/
theorem temperaturePath_dropLast (start goal : TempState) :
    ∀ change ∈ (temperaturePath start goal).dropLast, change.2 ≠ goal := by
  cases start <;> cases goal <;> decide

/-- Among rows that record the changes of a way, the one that records the arrival is the newest. -/
theorem newest_of_changes {rows : List Event} {path : List (TempState × TempState)} {goal : TempState}
    (changes : List.Forall₂ (fun row change => (detected row).recordsChange change) rows path)
    (once : ∀ change ∈ path.dropLast, change.2 ≠ goal)
    (ordered : rows.Pairwise fun first second => first.id < second.id) {row : Event} (member : row ∈ rows)
    (arrives : (detected row).afterField "state" = some (.str goal.name)) :
    ∀ other ∈ rows, other.id ≤ row.id := by
  induction changes with
  | nil => cases member
  | @cons first change rest path records remaining ih =>
    obtain ⟨before, ordered⟩ := List.pairwise_cons.mp ordered
    cases path with
    | nil =>
      cases remaining
      intro other inside
      rw [List.mem_singleton.mp inside, List.mem_singleton.mp member]
    | cons next path =>
      have passes : change.2 ≠ goal := once change List.mem_cons_self
      have later : row ∈ rest := by
        rcases List.mem_cons.mp member with rfl | later
        · have same := records.2.symm.trans arrives
          simp only [Option.some.injEq, Scalar.str.injEq] at same
          exact absurd (TempState.name_injective same) passes
        · exact later
      intro other inside
      rcases List.mem_cons.mp inside with rfl | inside
      · exact (before row later).le
      · exact ih (fun change inside => once change (List.mem_cons_of_mem _ inside)) ordered later other inside

section Alerts

variable {settings : Settings} {drive : PhysicalDrive} {temperature : ℤ}

/-- An alert reports the state that it changes to. -/
theorem alertState_of_mem_temperatureLoop {fuel : ℕ} {state goal : TempState} {event : DetectedEvent}
    (member : event ∈ (temperatureLoop settings drive temperature fuel state).1)
    (alert : alertState event.severity = some goal) :
    event.afterField "state" = some (.str goal.name) := by
  induction fuel generalizing state with
  | zero => cases member
  | succ fuel ih =>
    simp only [temperatureLoop] at member
    split at member
    · cases member
    · next first next stepped =>
      rcases List.mem_cons.mp member with rfl | later
      · unfold temperatureStep at stepped
        split at stepped <;> split_ifs at stepped <;> cases stepped <;> cases alert <;> rfl
      · exact ih later

end Alerts

section Polls

variable [PyText] {settings : Settings} {clock : ℕ → ℤ} {run : DetectionRun} {snapshot : StorcliSnapshot}
  {drive : PhysicalDrive}

/-- The rows that a committed poll appends. -/
def pollRows (settings : Settings) (clock : ℕ → ℤ) (world : World) (snapshot : StorcliSnapshot) : List Event :=
  eventRows clock world.tick (world.db.events.length + 1) (world.pollEvents settings snapshot)

theorem commit_events : (run.commit settings clock snapshot).world.db.events =
    run.world.db.events ++ pollRows settings clock run.world snapshot := by
  simp only [DetectionRun.commit, poll_events, pollRows]

variable (clock) in
/-- The temperature rows of a poll are those of its detection. -/
theorem map_detected_temperatureRowsOf_pollRows :
    (temperatureRowsOf drive (pollRows settings clock run.world snapshot)).map detected =
      temperatureEventsOf drive (run.world.detection settings snapshot).1 := by
  have recovery : temperatureEventsOf drive
      (if latestSystemEventWasCollectionFailure run.world.db then [collectionRecovered] else []) = [] := by
    apply temperatureEventsOf_eq_nil
    intro event inside
    obtain ⟨-, made⟩ := List.mem_ite_nil_right.mp inside
    obtain rfl := List.mem_singleton.mp made
    simp [collectionRecovered]
  rw [map_detected_temperatureRowsOf, pollRows, map_detected_eventRows, World.pollEvents,
    temperatureEventsOf_append, recovery, List.append_nil]

variable (clock) in
theorem pollRows_changes (recorded : run.Recorded) (follows : run.StatesFollow settings)
    (next : AcceptedLater run snapshot) (member : drive ∈ snapshot.physicalDrives) :
    List.Forall₂ (fun row change => (detected row).recordsChange change)
      (temperatureRowsOf drive (pollRows settings clock run.world snapshot))
      (temperaturePath (storedState run (driveKey drive))
        (storedState (run.commit settings clock snapshot) (driveKey drive))) := by
  have law := temperatureLaw_commit clock follows recorded next member
  rw [← List.forall₂_map_left_iff, map_detected_temperatureRowsOf_pollRows]
  exact law.changes

theorem pollRows_pairwise : (pollRows settings clock run.world snapshot).Pairwise fun first second =>
    first.id < second.id := eventRows_pairwise _ _ _

theorem idsBounded_commit (bounded : IdsBounded run.world.db) :
    IdsBounded (run.commit settings clock snapshot).world.db := by
  intro row member
  rw [commit_events] at member ⊢
  have counted : (pollRows settings clock run.world snapshot).length =
      (run.world.pollEvents settings snapshot).length := by
    have mapped := congrArg List.length (map_detected_eventRows clock run.world.tick
      (run.world.db.events.length + 1) (run.world.pollEvents settings snapshot))
    rw [List.length_map] at mapped
    exact mapped
  rw [List.length_append, counted]
  rcases List.mem_append.mp member with old | new
  · have bound := bounded row old
    omega
  · have bounds := (id_of_mem_eventRows new).2
    omega

variable (clock) in
/-- A poll that changes no state keeps the newest temperature row of the drive. -/
theorem newestTemperatureRow_commit_of_kept {row : Event} (recorded : run.Recorded)
    (follows : run.StatesFollow settings) (next : AcceptedLater run snapshot)
    (member : drive ∈ snapshot.physicalDrives)
    (kept : storedState (run.commit settings clock snapshot) (driveKey drive) = storedState run (driveKey drive))
    (newest : NewestTemperatureRow drive run.world.db row) :
    NewestTemperatureRow drive (run.commit settings clock snapshot).world.db row := by
  have changes := pollRows_changes clock recorded follows next member
  have none : temperaturePath (storedState run (driveKey drive)) (storedState run (driveKey drive)) = [] := by
    cases storedState run (driveKey drive) <;> rfl
  rw [kept, none, List.forall₂_nil_right_iff] at changes
  intro other inside
  rw [commit_events, temperatureRowsOf, List.filter_append] at inside
  rcases List.mem_append.mp inside with old | new
  · exact newest other old
  · change other ∈ temperatureRowsOf drive _ at new
    rw [changes] at new
    cases new

/-- The alert of the state that a poll arrives at is the newest temperature row of its drive. -/
theorem newestTemperatureRow_commit_of_alert {row : Event} {goal : TempState} (recorded : run.Recorded)
    (follows : run.StatesFollow settings) (bounded : IdsBounded run.world.db)
    (next : AcceptedLater run snapshot) (member : drive ∈ snapshot.physicalDrives)
    (inside : row ∈ temperatureRowsOf drive (pollRows settings clock run.world snapshot))
    (alert : alertState row.severity = some goal)
    (arrived : storedState (run.commit settings clock snapshot) (driveKey drive) = goal) :
    NewestTemperatureRow drive (run.commit settings clock snapshot).world.db row := by
  have own : detected row ∈ temperatureEventsOf drive (run.world.detection settings snapshot).1 := by
    rw [← map_detected_temperatureRowsOf_pollRows clock]
    exact List.mem_map_of_mem inside
  have arrives : (detected row).afterField "state" = some (.str goal.name) := by
    rw [temperatureEventsOf_detection recorded next member] at own
    obtain ⟨event, made, same⟩ := List.mem_map.mp own
    rw [← same, attachSerial_afterField _ _ (by decide)]
    cases reading : drive.temperatureCelsius with
    | none => simp [reading] at made
    | some temperature =>
      simp only [reading, Option.map_some, Option.getD_some] at made
      refine alertState_of_mem_temperatureLoop made ?_
      rw [← alert, ← attachSerial_severity snapshot event, same]
      rfl
  have changes := pollRows_changes clock recorded follows next member
  rw [arrived] at changes
  have last := newest_of_changes changes (temperaturePath_dropLast _ _) (pollRows_pairwise.filter _) inside arrives
  intro other present
  rw [commit_events, temperatureRowsOf, List.filter_append] at present
  rcases List.mem_append.mp present with old | new
  · have before := bounded other (List.mem_of_mem_filter old)
    have after := (id_of_mem_eventRows (List.mem_of_mem_filter inside)).1
    omega
  · exact last other new

end Polls

/-! ## Failed attempts -/

section Failures

variable {settings : Settings} {clock : ℕ → ℤ} {world : World}

theorem idsBounded_record (bounded : IdsBounded world.db) (event : DetectedEvent) :
    IdsBounded (world.record clock event).db := by
  intro row member
  rw [World.record, Database.insertEvent, List.length_append, List.length_singleton]
  rcases List.mem_append.mp member with old | new
  · have bound := bounded row old
    omega
  · obtain rfl := List.mem_singleton.mp new
    exact le_rfl

/-- Only rows of category `system` were appended. -/
def SystemRowsAppended (before after : Database) : Prop :=
  ∃ rows, after.events = before.events ++ rows ∧ ∀ row ∈ rows, row.category = .system

theorem SystemRowsAppended.trans {first second third : Database} (earlier : SystemRowsAppended first second)
    (later : SystemRowsAppended second third) : SystemRowsAppended first third := by
  obtain ⟨rows, events, system⟩ := earlier
  obtain ⟨more, moreEvents, moreSystem⟩ := later
  refine ⟨rows ++ more, by rw [moreEvents, events, List.append_assoc], ?_⟩
  intro row member
  rcases List.mem_append.mp member with old | new
  · exact system row old
  · exact moreSystem row new

theorem systemRowsAppended_record {event : DetectedEvent} (system : event.category = .system) :
    SystemRowsAppended world.db (world.record clock event).db := by
  refine ⟨[eventRow (world.db.events.length + 1) (clock world.tick) event], rfl, ?_⟩
  intro row member
  rw [List.mem_singleton.mp member]
  exact system

variable (settings) (clock) in
/-- A failed attempt appends rows of category `system` at most. -/
theorem recordFailure_events (bounded : IdsBounded world.db) (error : Option String) :
    IdsBounded (world.recordFailure settings clock error).db ∧
      SystemRowsAppended world.db (world.recordFailure settings clock error).db := by
  cases error with
  | none =>
    refine ⟨bounded, [], ?_, List.forall_mem_nil _⟩
    exact (List.append_nil _).symm
  | some error =>
    simp only [World.recordFailure, World.recordCollectionFailure]
    split
    · exact ⟨idsBounded_record bounded _, systemRowsAppended_record rfl⟩
    · exact ⟨idsBounded_record (idsBounded_record bounded _) _,
        (systemRowsAppended_record rfl).trans (systemRowsAppended_record rfl)⟩

/-- What a failed attempt leaves alone. -/
structure FailureKeeps (before after : DetectionRun) : Prop where
  history : after.history = before.history
  snapshots : after.world.db.snapshots = before.world.db.snapshots
  tempStates : after.world.db.tempStates = before.world.db.tempStates
  bounded : IdsBounded after.world.db
  events : SystemRowsAppended before.world.db after.world.db

variable (settings) (clock) in
theorem failureKeeps_step [PyText] {run : DetectionRun} {attempt : Attempt} (bounded : IdsBounded run.world.db)
    (failed : attempt.isFailed = true) :
    FailureKeeps run (run.step settings clock attempt) := by
  have keeps (detector : EventDetector) (error : Option String) : FailureKeeps run
      { run with world := { run.world with detector := detector }.recordFailure settings clock error } := by
    have bounded' : IdsBounded ({ run.world with detector := detector } : World).db := bounded
    obtain ⟨snapshots, tempStates, -⟩ :=
      recordFailure_keeps settings clock { run.world with detector := detector } error
    obtain ⟨ids, events⟩ := recordFailure_events settings clock bounded' error
    exact ⟨rfl, snapshots, tempStates, ids, events⟩
  cases attempt with
  | committed snapshot => cases failed
  | collectionFailed error => exact keeps run.world.detector error
  | insertFailed snapshot error => exact keeps _ error
  | commitFailed snapshot error => exact keeps _ error

theorem FailureKeeps.latestSnapshot {before after : DetectionRun} (keeps : FailureKeeps before after) :
    after.world.db.latestSnapshot = before.world.db.latestSnapshot := by
  simp only [Database.latestSnapshot, keeps.snapshots]

theorem FailureKeeps.recorded {before after : DetectionRun} (keeps : FailureKeeps before after)
    (recorded : before.Recorded) : after.Recorded where
  latest := by
    rw [keeps.latestSnapshot, keeps.history]
    exact recorded.latest
  stored := by
    rw [keeps.snapshots, keeps.history]
    exact recorded.stored
  accepted := by
    rw [keeps.history]
    exact recorded.accepted
  tempStates := by
    rw [keeps.history, keeps.tempStates]
    exact recorded.tempStates
  keys := by
    rw [keeps.history, keeps.tempStates]
    exact recorded.keys
  readings := by
    rw [keeps.history, keeps.tempStates]
    exact recorded.readings

theorem FailureKeeps.statesFollow {before after : DetectionRun} (keeps : FailureKeeps before after)
    (follows : before.StatesFollow settings) : after.StatesFollow settings := by
  intro key
  have same : storedState after key = storedState before key := by
    rw [storedState, keeps.tempStates, storedState]
  rw [same, keeps.history]
  exact follows key

theorem FailureKeeps.newestTemperatureRow {before after : DetectionRun} {drive : PhysicalDrive} {row : Event}
    (keeps : FailureKeeps before after) (newest : NewestTemperatureRow drive before.world.db row) :
    NewestTemperatureRow drive after.world.db row := by
  obtain ⟨rows, events, system⟩ := keeps.events
  intro other inside
  rw [events, temperatureRowsOf, List.filter_append] at inside
  rcases List.mem_append.mp inside with old | new
  · exact newest other old
  · obtain ⟨member, same⟩ := List.mem_filter.mp new
    rw [system other member] at same
    cases same

end Failures

/-! ## The relevance of a temperature alert -/

section Relevance

variable [PyText] {settings : Settings} {clock : ℕ → ℤ} {run : DetectionRun} {drive : PhysicalDrive}
  {record : PollRecord} {event : Event} {goal : TempState} {now : ℤ}

/-- The newest committed poll is recent, and no failed poll was recorded since. -/
structure FreshPoll (settings : Settings) (db : Database) (record : PollRecord) (now : ℤ) : Prop where
  captured : record.snapshot.capturedAt ≤ now
  recent : ∃ oldest ∈ (Timestamp.timedelta (freshness settings)).bind (Timestamp.minus now),
    oldest ≤ record.snapshot.capturedAt
  noFailure : ∀ event ∈ db.events, event.category = .system →
    summaryStartsWith event collectionFailedPrefix = true →
    event.occurredAt < record.snapshot.capturedAt ∨ now < event.occurredAt

omit [PyText] in
/-- The newest committed poll is the snapshot that the relevance check reads. -/
theorem snapshotAt_newest (recorded : run.Recorded) (newest : run.history.head? = some record)
    (captured : record.snapshot.capturedAt ≤ now) :
    ∃ id, snapshotAt run.world.db now = some (.ofStorcli id record.snapshot) := by
  have all : (run.world.db.snapshots.filter fun snapshot => decide (snapshot.capturedAt ≤ now)) =
      run.world.db.snapshots := by
    refine List.filter_eq_self.mpr ?_
    intro row member
    obtain ⟨latest, head, le⟩ := recorded.stored row member
    obtain rfl := Option.some.inj (newest.symm.trans head)
    exact decide_eq_true (le.trans captured)
  rcases recorded.latest with ⟨-, empty⟩ | ⟨id, latest, rest, saved, history⟩
  · rw [empty] at newest
    cases newest
  · rw [history] at newest
    obtain rfl := Option.some.inj newest
    exact ⟨id, by rw [snapshotAt, all]; exact saved⟩

/-- With a fresh poll only the later events and the object decide. -/
theorem deliveryRelevance_fresh {id : ℕ} (other : event.category ≠ .system)
    (snapshot : snapshotAt run.world.db now = some (.ofStorcli id record.snapshot))
    (fresh : FreshPoll settings run.world.db record now) :
    deliveryRelevance settings run.world.db event now =
      if incidentSuperseded settings run.world.db event now none then .obsolete
      else objectRelevance settings run.world.db (.ofStorcli id record.snapshot) event := by
  obtain ⟨oldest, found, young⟩ := fresh.recent
  obtain ⟨_, duration, since⟩ := Option.bind_eq_some_iff.mp found
  have recent : ¬(ControllerSnapshot.ofStorcli id record.snapshot).capturedAt < oldest := not_lt.mpr young
  have unfailed : (run.world.db.events.any fun event => event.category == .system &&
      summaryStartsWith event collectionFailedPrefix &&
      decide ((ControllerSnapshot.ofStorcli id record.snapshot).capturedAt ≤ event.occurredAt) &&
      decide (event.occurredAt ≤ now)) = false := by
    refine List.any_eq_false.mpr ?_
    intro failure member failed
    simp only [Bool.and_eq_true, beq_iff_eq, decide_eq_true_eq] at failed
    obtain ⟨⟨⟨system, summary⟩, after⟩, before⟩ := failed
    rcases fresh.noFailure failure member system summary with earlier | later
    · exact absurd after (not_le.mpr earlier)
    · exact absurd before (not_le.mpr later)
  simp only [deliveryRelevance, other, ↓reduceIte, snapshot, duration, since, recent, unfailed, Bool.false_eq_true,
    or_self]

omit [PyText] in
/-- The drive of the newest poll, as the relevance check finds it. -/
theorem driveInSlot_newest {id : ℕ} (unique : (record.snapshot.physicalDrives.map slotKey).Nodup)
    (member : drive ∈ record.snapshot.physicalDrives) :
    driveInSlot (.ofStorcli id record.snapshot) (slotKey drive) = some (.ofStorcli drive) := by
  have rows : (ControllerSnapshot.ofStorcli id record.snapshot).physicalDrives.map snapshotSlotKey =
      record.snapshot.physicalDrives.map slotKey := by
    simp only [ControllerSnapshot.ofStorcli, List.map_map]
    rfl
  exact List.find?_key_of_mem (rows ▸ unique) (List.mem_map_of_mem member)

/-- A temperature alert of a drive that is in its slot, in terms of the stored state. -/
theorem objectRelevance_temperature {id : ℕ} (unique : (record.snapshot.physicalDrives.map slotKey).Nodup)
    (member : drive ∈ record.snapshot.physicalDrives) (serial : drive.serialNumber ≠ "")
    (position : 0 ≤ drive.enclosureId ∧ 0 ≤ drive.slotId) (category : event.category = .temperature)
    (subject : event.subject = physicalDriveSubject drive)
    (own : afterGet event "serial_number" = some (.str drive.serialNumber)) :
    objectRelevance settings run.world.db (.ofStorcli id record.snapshot) event =
      driveRelevance settings run.world.db (.ofStorcli drive) event := by
  have slot : driveSubject event.subject = some (slotKey drive) := by
    rw [subject]
    exact if_pos position
  have identity : driveSerialAt run.world.db event = some drive.serialNumber := by
    simp only [driveSerialAt, own, nonempty?, serial, ↓reduceIte]
  simp only [objectRelevance, category, slot, driveInSlot_newest unique member, identity]
  simp only [PhysicalDriveSnapshot.ofStorcli, serial, ↓reduceIte, ne_eq, not_true_eq_false]

/-- A stored state other than the alert's makes the alert obsolete. -/
theorem driveRelevance_of_ne {state : TempState} (category : event.category = .temperature)
    (alert : alertState event.severity = some goal)
    (stored : run.world.db.tempStates.lookup (driveKey drive) = some state) (differs : state ≠ goal) :
    driveRelevance settings run.world.db (.ofStorcli drive) event = .obsolete := by
  have lookup : run.world.db.tempStates.lookup (PhysicalDriveSnapshot.ofStorcli drive).key = some state := stored
  simp only [driveRelevance, category, lookup]
  cases severity : event.severity with
  | info => simp [alertState, severity] at alert
  | warning =>
    rw [severity] at alert
    cases state <;> first | rfl | exact absurd (Option.some.inj alert) differs
  | critical =>
    rw [severity] at alert
    cases state <;> first | rfl | exact absurd (Option.some.inj alert) differs

/-- An alert whose state is stored is active at a reading that keeps the state. -/
theorem driveRelevance_of_eq {temperature : ℤ} (category : event.category = .temperature)
    (alert : alertState event.severity = some goal)
    (stored : run.world.db.tempStates.lookup (driveKey drive) = some goal)
    (reading : drive.temperatureCelsius = some temperature)
    (critical : goal = .critical →
      settings.tempCriticalCelsius - settings.tempHysteresisCelsius ≤ temperature)
    (warning : goal = .warning → settings.tempWarningCelsius - settings.tempHysteresisCelsius ≤ temperature ∧
      temperature < settings.tempCriticalCelsius) :
    driveRelevance settings run.world.db (.ofStorcli drive) event = .active := by
  have lookup : run.world.db.tempStates.lookup (PhysicalDriveSnapshot.ofStorcli drive).key = some goal := stored
  have read : (PhysicalDriveSnapshot.ofStorcli drive).temperatureCelsius = some temperature := reading
  simp only [driveRelevance, category, lookup]
  cases severity : event.severity with
  | info => simp [alertState, severity] at alert
  | warning =>
    rw [severity] at alert
    obtain rfl := Option.some.inj alert
    obtain ⟨warm, mild⟩ := warning rfl
    simp [temperatureRelevance, read, Relevance.ofActive, warm, mild]
  | critical =>
    rw [severity] at alert
    obtain rfl := Option.some.inj alert
    simp [temperatureRelevance, read, Relevance.ofActive, critical rfl]

omit [PyText] in
/-- The newest reading of a drive is one that keeps its stored state. -/
theorem reading_keeps_state {rest : List PollRecord} {temperature : ℤ} (recorded : run.Recorded)
    (follows : run.StatesFollow settings) (history : run.history = record :: rest)
    (member : drive ∈ record.snapshot.physicalDrives) (reading : drive.temperatureCelsius = some temperature) :
    (storedState run (driveKey drive) = .critical →
      settings.tempCriticalCelsius - settings.tempHysteresisCelsius ≤ temperature) ∧
    (storedState run (driveKey drive) = .warning →
      settings.tempWarningCelsius - settings.tempHysteresisCelsius ≤ temperature ∧
      temperature < settings.tempCriticalCelsius) := by
  have unique := (recorded.accepted record (by rw [history]; rfl)).slotsUnique
  have present : hasDrive (driveKey drive) record = true :=
    List.any_eq_true.mpr ⟨drive, member, beq_self_eq_true _⟩
  have found := List.find?_key_of_mem (driveKeys_nodup unique) member
  have readings : presentReadings run.history (driveKey drive) =
      temperature :: presentReadings rest (driveKey drive) := by
    simp only [presentReadings, history, List.takeWhile_cons, present, ↓reduceIte, List.filterMap_cons,
      readingOf, found, Option.bind_some, reading]
  obtain ⟨critical, warm⟩ := follows (driveKey drive)
  rw [readings, latched_cons] at critical warm
  have hysteresis := settings.tempHysteresisPositive
  constructor
  · intro isCritical
    rcases critical.mp isCritical with reached | ⟨kept, -⟩ <;> omega
  · intro isWarning
    have unlatched := mt critical.mpr (by rw [isWarning]; decide)
    have changed := warm.mp (by rw [isWarning]; decide)
    constructor
    · rcases changed with reached | ⟨kept, -⟩ <;> omega
    · exact not_le.mp fun reached => unlatched (.inl reached)

end Relevance

/-! ## Runs -/

section Runs

variable [PyText]

/-- A committed poll is accepted; failed attempts are arbitrary. -/
def AcceptedAttempt (run : DetectionRun) : Attempt → Prop
  | .committed snapshot => AcceptedLater run snapshot
  | _ => True

/-- What a committed attempt leaves behind passes the test. -/
def CommitsPass (settings : Settings) (clock : ℕ → ℤ) (test : DetectionRun → Prop) (run : DetectionRun)
    (attempt : Attempt) : Prop :=
  attempt.isFailed = false → test (run.step settings clock attempt)

/-- The drive is in its slot in the newest committed poll. -/
def DetectionRun.Holds (run : DetectionRun) (key : DriveKey) : Prop :=
  ∃ record ∈ run.history.head?, hasDrive key record = true

def DetectionRun.StateIs (run : DetectionRun) (key : DriveKey) (state : TempState) : Prop :=
  run.world.db.tempStates.lookup key = some state

/-- What every reachable run satisfies. -/
structure DetectionRun.Sound (settings : Settings) (run : DetectionRun) : Prop where
  recorded : run.Recorded
  follows : run.StatesFollow settings
  bounded : IdsBounded run.world.db

theorem DetectionRun.Sound.step {settings : Settings} (clock : ℕ → ℤ) {run : DetectionRun} {attempt : Attempt}
    (sound : run.Sound settings) (accepted : AcceptedAttempt run attempt) :
    (run.step settings clock attempt).Sound settings := by
  cases failed : attempt.isFailed with
  | true =>
    have keeps := failureKeeps_step settings clock sound.bounded failed
    exact ⟨keeps.recorded sound.recorded, keeps.statesFollow sound.follows, keeps.bounded⟩
  | false =>
    cases attempt with
    | committed snapshot =>
      exact ⟨sound.recorded.commit _ _ accepted, sound.follows.commit _ sound.recorded accepted,
        idsBounded_commit sound.bounded⟩
    | collectionFailed error => cases failed
    | insertFailed snapshot error => cases failed
    | commitFailed snapshot error => cases failed

omit [PyText] in
theorem DetectionRun.sound_initial (settings : Settings) : DetectionRun.Sound settings ⟨.initial, []⟩ where
  recorded := DetectionRun.recorded_initial
  follows := statesFollow_initial settings
  bounded := by
    intro row member
    cases member

omit [PyText] in
theorem physicalDriveSubject_eq_of_key {first second : PhysicalDrive} (key : driveKey first = driveKey second) :
    physicalDriveSubject first = physicalDriveSubject second := by
  simp only [driveKey, DriveKey.mk.injEq] at key
  simp only [physicalDriveSubject, key]

/-- The row of a temperature alert names the serial of the drive that was in the slot. -/
theorem serial_of_mem_pollRows {settings : Settings} {clock : ℕ → ℤ} {run : DetectionRun}
    {snapshot : StorcliSnapshot} {drive : PhysicalDrive} {row : Event} (next : AcceptedLater run snapshot)
    (member : drive ∈ snapshot.physicalDrives)
    (inside : row ∈ temperatureRowsOf drive (pollRows settings clock run.world snapshot)) :
    afterGet row "serial_number" = some (.str drive.serialNumber) := by
  have own : detected row ∈ temperatureEventsOf drive (run.world.detection settings snapshot).1 := by
    rw [← map_detected_temperatureRowsOf_pollRows clock]
    exact List.mem_map_of_mem inside
  obtain ⟨emitted, same⟩ := List.mem_filter.mp own
  obtain ⟨part, made, -⟩ := mem_detectedEvents_iff.mp emitted
  have subject : part.subject = physicalDriveSubject drive := by
    simp only [Bool.and_eq_true, beq_iff_eq] at same
    rw [← attachSerial_subject snapshot part, ← made]
    exact same.2
  have serial := attachSerial_serial next.accepted.slotsUnique member subject
  rw [← made] at serial
  simp only [afterGet]
  cases after : row.afterJson with
  | none => simp [detected, DetectedEvent.afterField, after] at serial
  | some payload => simpa [detected, DetectedEvent.afterField, after] using serial

/-- What a run keeps while the alert's drive and state stay. -/
structure AlertStands (settings : Settings) (drive : PhysicalDrive) (event : Event) (goal : TempState)
    (run : DetectionRun) : Prop where
  sound : run.Sound settings
  newest : NewestTemperatureRow drive run.world.db event
  state : run.StateIs (driveKey drive) goal

theorem AlertStands.step {settings : Settings} {clock : ℕ → ℤ} {drive : PhysicalDrive} {event : Event}
    {goal : TempState} {run : DetectionRun} {attempt : Attempt}
    (stands : AlertStands settings drive event goal run) (accepted : AcceptedAttempt run attempt)
    (holds : CommitsPass settings clock (·.Holds (driveKey drive)) run attempt)
    (keeps : CommitsPass settings clock (·.StateIs (driveKey drive) goal) run attempt) :
    AlertStands settings drive event goal (run.step settings clock attempt) := by
  have sound := stands.sound.step clock accepted
  cases failed : attempt.isFailed with
  | true =>
    have kept := failureKeeps_step settings clock stands.sound.bounded failed
    refine ⟨sound, kept.newestTemperatureRow stands.newest, ?_⟩
    rw [DetectionRun.StateIs, kept.tempStates]
    exact stands.state
  | false =>
    have state := keeps failed
    obtain ⟨record, newest, present⟩ := holds failed
    cases attempt with
    | committed snapshot =>
      refine ⟨sound, ?_, state⟩
      obtain rfl := Option.some.inj newest
      obtain ⟨other, member, key⟩ := List.any_eq_true.mp present
      have key := beq_iff_eq.mp key
      have same : storedState (run.commit settings clock snapshot) (driveKey other) =
          storedState run (driveKey other) := by
        rw [key, storedState, storedState, stands.state]
        exact congrArg (·.getD .ok) state
      have newest : NewestTemperatureRow other run.world.db event := by
        rw [NewestTemperatureRow, temperatureRowsOf, physicalDriveSubject_eq_of_key key]
        exact stands.newest
      have kept := newestTemperatureRow_commit_of_kept clock stands.sound.recorded
        stands.sound.follows accepted member same newest
      rw [NewestTemperatureRow, temperatureRowsOf, physicalDriveSubject_eq_of_key key] at kept
      exact kept
    | collectionFailed error => cases failed
    | insertFailed snapshot error => cases failed
    | commitFailed snapshot error => cases failed

/-- A temperature alert that a committed poll recorded for a drive which has been in its slot in every
committed poll since, at a time at which the newest poll is fresh and has a reading of the drive. -/
structure DriveAlert (settings : Settings) (clock : ℕ → ℤ) (before : List Attempt) (snapshot : StorcliSnapshot)
    (after : List Attempt) (drive : PhysicalDrive) (event : Event) (goal : TempState) (now : ℤ) : Prop where
  accepted : Machine.Guarded (DetectionRun.step settings clock) AcceptedAttempt ⟨.initial, []⟩
    (before ++ .committed snapshot :: after)
  continuous : Machine.Guarded (DetectionRun.step settings clock)
    (CommitsPass settings clock (·.Holds (driveKey drive)))
    (before.foldl (DetectionRun.step settings clock) ⟨.initial, []⟩) (.committed snapshot :: after)
  recorded : event ∈ temperatureRowsOf drive (pollRows settings clock
    (before.foldl (DetectionRun.step settings clock) ⟨.initial, []⟩).world snapshot)
  alert : alertState event.severity = some goal
  newest : ∃ record, ((before ++ .committed snapshot :: after).foldl (DetectionRun.step settings clock)
      ⟨.initial, []⟩).history.head? = some record ∧ drive ∈ record.snapshot.physicalDrives ∧
    FreshPoll settings ((before ++ .committed snapshot :: after).foldl (DetectionRun.step settings clock)
      ⟨.initial, []⟩).world.db record now
  reading : drive.temperatureCelsius ≠ none

/-- The relevance check answers `active` only at the stored state of the alert, and it does so whenever
that state has not changed since. -/
def RelevanceAgrees (settings : Settings) (clock : ℕ → ℤ) (before : List Attempt) (snapshot : StorcliSnapshot)
    (after : List Attempt) (drive : PhysicalDrive) (event : Event) (goal : TempState) (now : ℤ) : Prop :=
  let run := (before ++ .committed snapshot :: after).foldl (DetectionRun.step settings clock) ⟨.initial, []⟩
  (deliveryRelevance settings run.world.db event now = .active → run.StateIs (driveKey drive) goal) ∧
  (Machine.Guarded (DetectionRun.step settings clock)
      (CommitsPass settings clock (·.StateIs (driveKey drive) goal))
      (before.foldl (DetectionRun.step settings clock) ⟨.initial, []⟩) (.committed snapshot :: after) →
    deliveryRelevance settings run.world.db event now = .active)

/-- The alert and its drive when it was recorded. -/
theorem DriveAlert.drive {settings : Settings} {clock : ℕ → ℤ} {before after : List Attempt}
    {snapshot : StorcliSnapshot} {drive : PhysicalDrive} {event : Event} {goal : TempState} {now : ℤ}
    (situation : DriveAlert settings clock before snapshot after drive event goal now) :
    ∃ other ∈ snapshot.physicalDrives, driveKey other = driveKey drive ∧
      event ∈ temperatureRowsOf other (pollRows settings clock
        (before.foldl (DetectionRun.step settings clock) ⟨.initial, []⟩).world snapshot) := by
  obtain ⟨record, newest, present⟩ := situation.continuous.1 rfl
  obtain rfl := Option.some.inj newest
  obtain ⟨other, member, key⟩ := List.any_eq_true.mp present
  refine ⟨other, member, beq_iff_eq.mp key, ?_⟩
  rw [temperatureRowsOf, physicalDriveSubject_eq_of_key (beq_iff_eq.mp key)]
  exact situation.recorded

/-- Keeping the state from the alert's poll on keeps the alert the newest of its drive. -/
theorem alertStands_of_kept {settings : Settings} {clock : ℕ → ℤ} {start : DetectionRun} {after : List Attempt}
    {snapshot : StorcliSnapshot} {drive other : PhysicalDrive} {event : Event} {goal : TempState}
    (sound : start.Sound settings) (accepted : AcceptedLater start snapshot)
    (continuous : Machine.Guarded (DetectionRun.step settings clock)
      (CommitsPass settings clock (·.Holds (driveKey drive)))
      (start.step settings clock (.committed snapshot)) after)
    (acceptedAfter : Machine.Guarded (DetectionRun.step settings clock) AcceptedAttempt
      (start.step settings clock (.committed snapshot)) after)
    (kept : Machine.Guarded (DetectionRun.step settings clock)
      (CommitsPass settings clock (·.StateIs (driveKey drive) goal)) start (.committed snapshot :: after))
    (member : other ∈ snapshot.physicalDrives) (key : driveKey other = driveKey drive)
    (own : event ∈ temperatureRowsOf other (pollRows settings clock start.world snapshot))
    (alert : alertState event.severity = some goal) :
    AlertStands settings drive event goal
      (after.foldl (DetectionRun.step settings clock) (start.step settings clock (.committed snapshot))) := by
  have state : (start.step settings clock (.committed snapshot)).StateIs (driveKey drive) goal := kept.1 rfl
  have arrived : storedState (start.commit settings clock snapshot) (driveKey other) = goal := by
    rw [key]
    exact congrArg (·.getD .ok) state
  have newest := newestTemperatureRow_commit_of_alert sound.recorded sound.follows sound.bounded accepted member
    own alert arrived
  rw [NewestTemperatureRow, temperatureRowsOf, physicalDriveSubject_eq_of_key key] at newest
  refine ((acceptedAfter.and continuous).and kept.2).invariant ⟨sound.step _ accepted, newest, state⟩ ?_
  rintro run attempt stands ⟨⟨accepted, holds⟩, keeps⟩
  exact stands.step accepted holds keeps

/-- Nothing supersedes the newest temperature row of a drive. -/
theorem incidentSuperseded_of_newest {settings : Settings} {db : Database} {drive : PhysicalDrive}
    {event : Event} {now : ℤ} (category : event.category = .temperature)
    (subject : event.subject = physicalDriveSubject drive) (newest : NewestTemperatureRow drive db event) :
    incidentSuperseded settings db event now none = false := by
  rw [incidentSuperseded, Bool.or_eq_false_iff]
  constructor
  · refine List.any_eq_false.mpr ?_
    intro other member superseding
    simp only [Bool.and_eq_true, beq_iff_eq, decide_eq_true_eq] at superseding
    obtain ⟨⟨⟨⟨⟨sameCategory, sameSubject⟩, later⟩, -⟩, -⟩, -⟩ := superseding
    have bound := newest other (List.mem_filter.mpr ⟨member, by
      simp [sameCategory, sameSubject, category, subject]⟩)
    omega
  · simp [controllerTemperatureRecovered, category]

/-- For a drive in a slot that `DRIVE_SUBJECT` can name, the relevance check of a temperature alert agrees
with the detector's stored state. -/
theorem temperature_relevance_agrees (settings : Settings) (clock : ℕ → ℤ) (before : List Attempt)
    (snapshot : StorcliSnapshot) (after : List Attempt) (drive : PhysicalDrive) (event : Event)
    (goal : TempState) (now : ℤ)
    (situation : DriveAlert settings clock before snapshot after drive event goal now)
    (position : 0 ≤ drive.enclosureId ∧ 0 ≤ drive.slotId) :
    RelevanceAgrees settings clock before snapshot after drive event goal now := by
  obtain ⟨other, otherMember, key, own⟩ := situation.drive
  obtain ⟨record, newest, member, fresh⟩ := situation.newest
  obtain ⟨temperature, reading⟩ := Option.ne_none_iff_exists'.mp situation.reading
  obtain ⟨acceptedBefore, acceptedPoll, acceptedAfter⟩ := Machine.Guarded.append_iff.mp situation.accepted
  have soundBefore := acceptedBefore.invariant (DetectionRun.sound_initial settings)
    fun run attempt sound accepted => sound.step _ accepted
  have sound := situation.accepted.invariant (DetectionRun.sound_initial settings)
    fun run attempt sound accepted => sound.step _ accepted
  have accepted := sound.recorded.accepted record newest
  have category : event.category = .temperature := by
    have same := (List.mem_filter.mp own).2
    simp only [Bool.and_eq_true, beq_iff_eq] at same
    exact same.1
  have subject : event.subject = physicalDriveSubject drive := by
    have same := (List.mem_filter.mp situation.recorded).2
    simp only [Bool.and_eq_true, beq_iff_eq] at same
    exact same.2
  have serial : afterGet event "serial_number" = some (.str drive.serialNumber) := by
    rw [serial_of_mem_pollRows acceptedPoll otherMember own]
    simp only [driveKey, DriveKey.mk.injEq] at key
    rw [key.2.2]
  obtain ⟨id, snapshotNow⟩ := snapshotAt_newest sound.recorded newest fresh.captured
  have drives : event.category ≠ .system := by
    rw [category]
    decide
  have relevance := deliveryRelevance_fresh drives snapshotNow fresh
  rw [objectRelevance_temperature accepted.slotsUnique member (accepted.serialsNonempty drive member) position
    category subject serial] at relevance
  constructor
  · intro active
    obtain ⟨state, stored⟩ := sound.recorded.readings record newest drive member situation.reading
    by_cases same : state = goal
    · exact same ▸ stored
    · rw [driveRelevance_of_ne category situation.alert stored same] at relevance
      rw [relevance] at active
      split at active <;> cases active
  · intro kept
    have stands := alertStands_of_kept soundBefore acceptedPoll situation.continuous.2 acceptedAfter kept
      otherMember key own situation.alert
    rw [← List.foldl_cons, ← List.foldl_append] at stands
    rw [relevance, incidentSuperseded_of_newest category subject stands.newest, if_neg Bool.false_ne_true]
    obtain ⟨rest, history⟩ : ∃ rest, ((before ++ .committed snapshot :: after).foldl
        (DetectionRun.step settings clock) ⟨.initial, []⟩).history = record :: rest :=
      List.head?_eq_some_iff.mp newest
    obtain ⟨critical, warning⟩ := reading_keeps_state sound.recorded sound.follows history member reading
    have stored : storedState _ (driveKey drive) = goal := congrArg (·.getD .ok) stands.state
    rw [stored] at critical warning
    exact driveRelevance_of_eq category situation.alert stands.state reading critical warning

/-! ## Two polls -/

/-- A reading of the clock every minute. -/
def minuteClock (tick : ℕ) : ℤ := 1000 * Timestamp.day + tick * Timestamp.minute

/-- The critical alert of a first poll at 61 degrees. -/
def firstPollAlert (drive : PhysicalDrive) : Event where
  id := 3
  occurredAt := minuteClock 2
  severity := .critical
  category := .temperature
  subject := physicalDriveSubject drive
  summary := "Temperature reached critical threshold: 61 C"
  beforeJson := some [("state", .str "warning"), ("temperature_celsius", .int 61)]
  afterJson := some [("state", .str "critical"), ("temperature_celsius", .int 61),
    ("serial_number", .str drive.serialNumber)]
  operatorUsername := none
  notifiedAt := none

/-- The run of a first poll and of another one five minutes later. -/
def twoPolls (drive later : PhysicalDrive) : DetectionRun :=
  [Attempt.committed (driveSnapshot (minuteClock 0) drive), .committed (driveSnapshot (minuteClock 5) later)].foldl
    (DetectionRun.step Settings.default minuteClock) ⟨.initial, []⟩

/-- A critical alert of the first poll, ten minutes after it. -/
theorem driveAlert_twoPolls {drive later : PhysicalDrive} {event : Event} (serial : drive.serialNumber ≠ "")
    (key : driveKey later = driveKey drive) (reading : later.temperatureCelsius ≠ none)
    (alert : event.severity = .critical)
    (recorded : event ∈ temperatureRowsOf later
      (pollRows Settings.default minuteClock .initial (driveSnapshot (minuteClock 0) drive)))
    (quiet : ∀ event ∈ (twoPolls drive later).world.db.events, event.category ≠ .system) :
    DriveAlert Settings.default minuteClock [] (driveSnapshot (minuteClock 0) drive)
      [.committed (driveSnapshot (minuteClock 5) later)] later event .critical (minuteClock 10) where
  accepted := by
    refine ⟨acceptedLater_driveSnapshot serial ?_, acceptedLater_driveSnapshot ?_ ?_, trivial⟩
    · intro latest newest
      cases newest
    · simp only [driveKey, DriveKey.mk.injEq] at key
      rw [key.2.2]
      exact serial
    · intro latest newest
      obtain rfl := Option.some.inj newest
      change minuteClock 0 ≤ minuteClock 5
      decide
  continuous := by
    refine ⟨fun _ => ⟨_, rfl, ?_⟩, fun _ => ⟨_, rfl, ?_⟩, trivial⟩
    · simp [hasDrive, driveSnapshot, key]
    · simp [hasDrive, driveSnapshot]
  recorded := recorded
  alert := by
    rw [alert]
    rfl
  newest := by
    refine ⟨_, rfl, by simp [driveSnapshot], ?_⟩
    constructor
    · change minuteClock 5 ≤ minuteClock 10
      decide
    · refine ⟨minuteClock 0, ?_, ?_⟩
      · decide
      · change minuteClock 0 ≤ minuteClock 5
        decide
    · exact fun failure member system => absurd system (quiet failure member)
  reading := reading

omit [PyText] in
/-- The alert of a drive in slot 252:0 that has cooled down to 56 degrees, above the boundary of its state. -/
theorem temperature_relevance_agrees_cooling :
    let _ := PyText.ascii
    RelevanceAgrees Settings.default minuteClock [] (driveSnapshot (minuteClock 0) (sampleDrive (some 61)))
      [.committed (driveSnapshot (minuteClock 5) (sampleDrive (some 56)))] (sampleDrive (some 56))
      (firstPollAlert (sampleDrive (some 61))) .critical (minuteClock 10) := by
  let _ := PyText.ascii
  refine temperature_relevance_agrees Settings.default minuteClock []
    (driveSnapshot (minuteClock 0) (sampleDrive (some 61)))
    [.committed (driveSnapshot (minuteClock 5) (sampleDrive (some 56)))] (sampleDrive (some 56))
    (firstPollAlert (sampleDrive (some 61))) .critical (minuteClock 10) ?_ (by decide)
  exact driveAlert_twoPolls (by decide) (by decide) (by decide) rfl (by decide +kernel) (by decide +kernel)

/-- A drive whose position `DRIVE_SUBJECT` does not match. -/
def unnamedDrive (temperature : Option ℤ) : PhysicalDrive := { sampleDrive temperature with enclosureId := -1 }

omit [PyText] in
/-- The alert of a drive at a negative position waits for its identity, with its state unchanged. -/
theorem not_temperature_relevance_agrees :
    ¬ ∀ [PyText] (settings : Settings) (clock : ℕ → ℤ) (before : List Attempt) (snapshot : StorcliSnapshot)
      (after : List Attempt) (drive : PhysicalDrive) (event : Event) (goal : TempState) (now : ℤ),
      DriveAlert settings clock before snapshot after drive event goal now →
        RelevanceAgrees settings clock before snapshot after drive event goal now := by
  intro agrees
  let _ := PyText.ascii
  have situation : DriveAlert Settings.default minuteClock []
      (driveSnapshot (minuteClock 0) (unnamedDrive (some 61)))
      [.committed (driveSnapshot (minuteClock 5) (unnamedDrive (some 56)))] (unnamedDrive (some 56))
      (firstPollAlert (unnamedDrive (some 61))) .critical (minuteClock 10) :=
    driveAlert_twoPolls (by decide) (by decide) (by decide) rfl (by decide +kernel) (by decide +kernel)
  have first : ([.committed (driveSnapshot (minuteClock 0) (unnamedDrive (some 61)))].foldl
      (DetectionRun.step Settings.default minuteClock) ⟨.initial, []⟩).world.db.tempStates.lookup
        (driveKey (unnamedDrive (some 56))) = some .critical := by
    decide +kernel
  have second : (twoPolls (unnamedDrive (some 61)) (unnamedDrive (some 56))).world.db.tempStates.lookup
        (driveKey (unnamedDrive (some 56))) = some .critical := by
    decide +kernel
  have active := (agrees _ _ _ _ _ _ _ _ _ situation).2 ⟨fun _ => first, fun _ => second, trivial⟩
  revert active
  decide +kernel

end Runs

end MegaraidDashboard.Services
