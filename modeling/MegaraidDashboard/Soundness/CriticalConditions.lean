import MegaraidDashboard.Soundness.DriveDetection
import MegaraidDashboard.Soundness.FailedAttempts

/-! # Critical conditions

Every critical condition of the newest committed poll was reported by a critical event in the current
interval of polls in which it held. The induction is over the committed polls: a condition that did
not hold at the previous poll is reported by the poll at which it appears.
-/

namespace MegaraidDashboard.Services

open Db Storcli

/-- A kind of condition together with the identity of its object. -/
inductive Condition where
  | virtualDriveState (vdId : ℤ)
  | physicalDriveState (key : DriveKey)
  | smartAlert (key : DriveKey)
  | mediaErrors (key : DriveKey)
  | predictiveFailures (key : DriveKey)
  | cachevaultAbsent
  | cachevaultState
  | cachevaultReplacement
  | driveTemperature (key : DriveKey)
  | controllerTemperature
deriving DecidableEq

namespace Condition

def category : Condition → Category
  | virtualDriveState _ => .vdState
  | physicalDriveState _ => .pdState
  | smartAlert _ => .smartAlert
  | mediaErrors _ => .mediaErrors
  | predictiveFailures _ => .predictiveFailures
  | cachevaultAbsent | cachevaultState | cachevaultReplacement => .cvState
  | driveTemperature _ => .temperature
  | controllerTemperature => .controllerTemperature

/-- The drive of a condition on one drive. -/
def drive? : Condition → Option DriveKey
  | physicalDriveState key | smartAlert key | mediaErrors key | predictiveFailures key
  | driveTemperature key => some key
  | _ => none

def subject : Condition → Subject
  | virtualDriveState vdId => .virtualDrive vdId
  | physicalDriveState key | smartAlert key | mediaErrors key | predictiveFailures key
  | driveTemperature key => .physicalDrive key.enclosureId key.slotId
  | cachevaultAbsent | cachevaultState | cachevaultReplacement => .cacheVault
  | controllerTemperature => .controller

variable [PyText] (settings : Settings)

/-- A drive with the given identity passes the test. -/
def driveHolds (record : PollRecord) (key : DriveKey) (test : PhysicalDrive → Bool) : Bool :=
  record.snapshot.physicalDrives.any fun drive => driveKey drive == key && test drive

/-- Whether the condition is true in a committed poll. -/
def holds (record : PollRecord) : Condition → Bool
  | virtualDriveState vdId => record.snapshot.virtualDrives.any fun drive =>
      drive.vdId == vdId && virtualDriveStateSeverity drive.state == .critical
  | physicalDriveState key => driveHolds record key fun drive =>
      physicalDriveStateSeverity drive.state == .critical
  | smartAlert key => driveHolds record key (·.smartAlert)
  | mediaErrors key => driveHolds record key fun drive => decide (0 < drive.mediaErrors)
  | predictiveFailures key => driveHolds record key fun drive => decide (0 < drive.predictiveFailures)
  | cachevaultAbsent => record.snapshot.cachevault.isNone
  | cachevaultState => record.snapshot.cachevault.any fun cachevault =>
      cachevaultStateSeverity cachevault.state == .critical
  | cachevaultReplacement => record.snapshot.cachevault.any (·.replacementRequired)
  | driveTemperature key => driveHolds record key fun _ => record.tempStates.lookup key == some .critical
  | controllerTemperature => record.snapshot.controller.rocTemperatureCelsius.any fun temperature =>
      decide (settings.rocTempCriticalCelsius ≤ temperature)

/-- The event says of the object what the condition says. -/
def Describes (event : DetectedEvent) : Condition → Prop
  | virtualDriveState _ => ∃ state, event.afterField "state" = some (.str state) ∧
      virtualDriveStateSeverity state = .critical
  | physicalDriveState _ => ∃ state, event.afterField "state" = some (.str state) ∧
      physicalDriveStateSeverity state = .critical
  | smartAlert _ => event.afterField "smart_alert" = some (.bool true)
  | mediaErrors _ => ∃ count, event.afterField "media_errors" = some (.int count) ∧ 0 < count
  | predictiveFailures _ => ∃ count, event.afterField "predictive_failures" = some (.int count) ∧ 0 < count
  | cachevaultAbsent => event.afterField "present" = some (.bool false)
  | cachevaultState => ∃ state, event.afterField "state" = some (.str state) ∧
      cachevaultStateSeverity state = .critical
  | cachevaultReplacement => event.afterField "replacement_required" = some (.bool true)
  | driveTemperature _ => event.afterField "state" = some (.str TempState.critical.name)
  | controllerTemperature => ∃ temperature,
      event.afterField "roc_temperature_celsius" = some (.int temperature) ∧
      settings.rocTempCriticalCelsius ≤ temperature

/-- A critical event for the object and the dimension of the condition. -/
structure ReportedBy (condition : Condition) (event : DetectedEvent) : Prop where
  severity : event.severity = .critical
  category : event.category = condition.category
  subject : event.subject = condition.subject
  describes : condition.Describes settings event
  serial : ∀ key ∈ condition.drive?, event.afterField "serial_number" = some (.str key.serialNumber)

variable {settings}

/-- The serial is the only field that the end of a detection changes. -/
theorem describes_attachSerial (condition : Condition) (current : StorcliSnapshot) (event : DetectedEvent) :
    condition.Describes settings (attachSerial current event) ↔ condition.Describes settings event := by
  have field {name : String} (other : "serial_number" ≠ name) :
      (attachSerial current event).afterField name = event.afterField name :=
    attachSerial_afterField current event other
  cases condition <;> simp only [Describes] <;> rw [field (by decide)]

/-- An event of a part of the detection, about an object of the snapshot, as it is emitted. -/
theorem reportedBy_attachSerial {condition : Condition} {current : StorcliSnapshot} {event : DetectedEvent}
    (unique : (current.physicalDrives.map slotKey).Nodup)
    (present : ∀ key ∈ condition.drive?, ∃ drive ∈ current.physicalDrives, driveKey drive = key)
    (severity : event.severity = .critical) (category : event.category = condition.category)
    (subject : event.subject = condition.subject) (describes : condition.Describes settings event) :
    condition.ReportedBy settings (attachSerial current event) where
  severity := (attachSerial_severity current event).trans severity
  category := (attachSerial_category current event).trans category
  subject := (attachSerial_subject current event).trans subject
  describes := (describes_attachSerial condition current event).mpr describes
  serial := by
    intro key named
    obtain ⟨drive, member, rfl⟩ := present key named
    apply attachSerial_serial unique member
    rw [subject]
    cases condition <;> cases named <;> rfl

end Condition

/-! ## What the run records -/

section Recorded

variable [PyText]

/-- A poll that `collect_storcli_snapshot` accepts, not captured before the last committed one. -/
structure AcceptedLater (run : DetectionRun) (snapshot : StorcliSnapshot) : Prop where
  accepted : snapshot.Accepted
  later : ∀ latest ∈ run.history.head?, latest.snapshot.capturedAt ≤ snapshot.capturedAt

/-- The newest committed poll is the snapshot that the next detection compares with, and the stored
temperature states are those of its drives. -/
structure DetectionRun.Recorded (run : DetectionRun) : Prop where
  latest : run.world.db.latestSnapshot = none ∧ run.history = [] ∨
    ∃ id record rest, run.world.db.latestSnapshot = some (.ofStorcli id record.snapshot) ∧
      run.history = record :: rest
  stored : ∀ row ∈ run.world.db.snapshots, ∃ record ∈ run.history.head?,
    row.capturedAt ≤ record.snapshot.capturedAt
  accepted : ∀ record ∈ run.history.head?, record.snapshot.Accepted
  tempStates : ∀ record ∈ run.history.head?, record.tempStates = run.world.db.tempStates
  keys : ∀ key state, run.world.db.tempStates.lookup key = some state →
    ∃ record ∈ run.history.head?, ∃ drive ∈ record.snapshot.physicalDrives, driveKey drive = key
  readings : ∀ record ∈ run.history.head?, ∀ drive ∈ record.snapshot.physicalDrives,
    drive.temperatureCelsius ≠ none → ∃ state, run.world.db.tempStates.lookup (driveKey drive) = some state

omit [PyText] in
theorem DetectionRun.recorded_initial : DetectionRun.Recorded ⟨.initial, []⟩ where
  latest := .inl ⟨rfl, rfl⟩
  stored := by
    intro row member
    cases member
  accepted := by
    intro record newest
    cases newest
  tempStates := by
    intro record newest
    cases newest
  keys := by
    intro key state found
    cases found
  readings := by
    intro record newest
    cases newest

omit [PyText] in
/-- The drives of a stored snapshot, looked up. -/
theorem sameDrive_ofStorcli {id : ℕ} {snapshot : StorcliSnapshot} {drive : PhysicalDrive}
    {before : PhysicalDriveSnapshot} (same : sameDrive (some (.ofStorcli id snapshot)) drive = some before) :
    ∃ earlier ∈ snapshot.physicalDrives, driveKey earlier = driveKey drive ∧ before = .ofStorcli earlier := by
  obtain ⟨_, found, member, key⟩ := sameDrive_some same
  obtain rfl := Option.some.inj found
  obtain ⟨earlier, present, rfl⟩ := List.mem_map.mp member
  exact ⟨earlier, present, key, rfl⟩

omit [PyText] in
theorem sameDrive_ofStorcli_of_mem {id : ℕ} {snapshot : StorcliSnapshot} {drive earlier : PhysicalDrive}
    (unique : (snapshot.physicalDrives.map slotKey).Nodup) (member : earlier ∈ snapshot.physicalDrives)
    (key : driveKey earlier = driveKey drive) :
    sameDrive (some (.ofStorcli id snapshot)) drive = some (.ofStorcli earlier) := by
  refine sameDrive_of_mem ?_ (List.mem_map_of_mem member) key
  simp only [ControllerSnapshot.ofStorcli, List.map_map]
  exact unique

/-- One accepted poll keeps the record. -/
theorem DetectionRun.Recorded.commit {run : DetectionRun} (settings : Settings) (clock : ℕ → ℤ)
    {snapshot : StorcliSnapshot} (recorded : run.Recorded) (next : AcceptedLater run snapshot) :
    (run.commit settings clock snapshot).Recorded := by
  have unique : (snapshot.physicalDrives.map slotKey).Nodup := next.accepted.slotsUnique
  have before : ∀ row ∈ run.world.db.snapshots, row.capturedAt ≤ snapshot.capturedAt := by
    intro row member
    obtain ⟨record, newest, le⟩ := recorded.stored row member
    exact le.trans (next.later record newest)
  constructor
  · right
    refine ⟨run.world.db.nextSnapshotId, _, run.history, ?_, rfl⟩
    simp only [DetectionRun.commit, Database.latestSnapshot, poll_snapshots]
    exact List.latest?_concat before
  · intro row member
    refine ⟨_, rfl, ?_⟩
    simp only [DetectionRun.commit, poll_snapshots] at member
    rcases List.mem_append.mp member with old | new
    · exact before row old
    · obtain rfl := List.mem_singleton.mp new
      exact le_rfl
  · intro record newest
    obtain rfl := Option.some.inj newest
    exact next.accepted
  · intro record newest
    obtain rfl := Option.some.inj newest
    rfl
  · intro key state found
    refine ⟨_, rfl, ?_⟩
    by_contra absent
    simp only [DetectionRun.commit, poll_tempStates] at found absent
    have gone : ∀ drive ∈ snapshot.physicalDrives, driveKey drive ≠ key :=
      fun drive member same => absent ⟨drive, member, same⟩
    rw [nextTemperatureStates_of_no_reading fun drive member same => absurd same (gone drive member)] at found
    obtain ⟨kept, stored⟩ := Option.ite_none_left_eq_some.mp found
    obtain ⟨record, newest, earlier, member, rfl⟩ := recorded.keys key state stored
    apply kept
    rcases recorded.latest with ⟨-, empty⟩ | ⟨id, newestRecord, rest, saved, history⟩
    · rw [empty] at newest
      cases newest
    · rw [history] at newest
      obtain rfl := Option.some.inj newest
      rw [saved]
      have row : PhysicalDriveSnapshot.ofStorcli earlier ∈
          (ControllerSnapshot.ofStorcli id newestRecord.snapshot).physicalDrives := List.mem_map_of_mem member
      refine slot_mem_clearedSlots_of_gone unique ?_ row gone
      simp only [ControllerSnapshot.ofStorcli, List.map_map]
      exact (recorded.accepted newestRecord (by rw [history]; rfl)).slotsUnique
  · intro record newest drive member reading
    obtain rfl := Option.some.inj newest
    obtain ⟨temperature, reading⟩ := Option.ne_none_iff_exists'.mp reading
    simp only [DetectionRun.commit, poll_tempStates]
    exact ⟨_, nextTemperatureStates_of_reading unique member reading⟩

omit [PyText] in
/-- The row that a drive is compared with belongs to the newest committed poll. -/
theorem DetectionRun.Recorded.sameDrive {run : DetectionRun} {drive : PhysicalDrive}
    {before : PhysicalDriveSnapshot} (recorded : run.Recorded)
    (same : sameDrive run.world.db.latestSnapshot drive = some before) :
    ∃ record ∈ run.history.head?, ∃ earlier ∈ record.snapshot.physicalDrives,
      driveKey earlier = driveKey drive ∧ before = .ofStorcli earlier := by
  rcases recorded.latest with ⟨none, -⟩ | ⟨id, record, rest, saved, history⟩
  · rw [none] at same
    cases same
  · rw [saved] at same
    exact ⟨record, by rw [history]; rfl, sameDrive_ofStorcli same⟩

end Recorded

/-- A drive of the newest committed poll with a reading has a stored state, so that none is derived
from the reading. -/
theorem DetectionRun.Recorded.temperatureStateFromPrevious_eq_none {run : DetectionRun} (recorded : run.Recorded)
    (settings : Settings) {key : DriveKey} (unknown : run.world.db.tempStates.lookup key = none) :
    temperatureStateFromPrevious settings run.world.db.latestSnapshot key = none := by
  by_contra derived
  obtain ⟨state, derived⟩ := Option.ne_none_iff_exists'.mp derived
  obtain ⟨newest, saved, found⟩ := Option.bind_eq_some_iff.mp derived
  obtain ⟨row, inside, found⟩ := Option.bind_eq_some_iff.mp found
  obtain ⟨temperature, reading, -⟩ := Option.bind_eq_some_iff.mp found
  rcases recorded.latest with ⟨none, -⟩ | ⟨id, record, rest, latest, history⟩
  · rw [none] at saved
    cases saved
  · rw [latest] at saved
    obtain rfl := Option.some.inj saved
    obtain ⟨drive, member, rfl⟩ := List.mem_map.mp (List.mem_of_find?_eq_some inside)
    have found := List.find?_some inside
    have same : driveKey drive = key := beq_iff_eq.mp found
    have read : drive.temperatureCelsius ≠ none := by
      intro unread
      rw [PhysicalDriveSnapshot.ofStorcli, unread] at reading
      cases reading
    obtain ⟨stored, lookup⟩ := recorded.readings record (by rw [history]; rfl) drive member read
    rw [same, unknown] at lookup
    cases lookup

/-! ## Onsets -/

section Onset

variable [PyText] {settings : Settings} {run : DetectionRun} {snapshot : StorcliSnapshot}

/-- The poll reports the condition, or the condition held at the poll before. -/
def Condition.Onset (settings : Settings) (run : DetectionRun) (snapshot : StorcliSnapshot)
    (condition : Condition) : Prop :=
  (∃ event ∈ (run.world.detection settings snapshot).1, condition.ReportedBy settings event) ∨
    ∃ record ∈ run.history.head?, condition.holds settings record = true

theorem onset_of_part {condition : Condition} (next : AcceptedLater run snapshot) {event : DetectedEvent}
    (part : event ∈ comparisonEvents settings run.world.db.latestSnapshot snapshot ∨
      event ∈ detectRocTemperature settings run.world.db.latestSnapshot snapshot ∨
      event ∈ detectTemperatures settings (loadTemperatureStates run.world.db snapshot)
        run.world.db.latestSnapshot snapshot (previousReplacedSlots run.world.db.latestSnapshot snapshot))
    (present : ∀ key ∈ condition.drive?, ∃ drive ∈ snapshot.physicalDrives, driveKey drive = key)
    (severity : event.severity = .critical) (category : event.category = condition.category)
    (subject : event.subject = condition.subject) (describes : condition.Describes settings event) :
    condition.Onset settings run snapshot := by
  refine .inl ⟨attachSerial snapshot event, mem_detectedEvents_iff.mpr ⟨event, rfl, ?_⟩, ?_⟩
  · rcases part with comparison | roc | temperature
    · exact .inl comparison
    · exact .inr (.inl roc)
    · exact .inr (.inr (.inl temperature))
  · exact Condition.reportedBy_attachSerial next.accepted.slotsUnique present severity category subject describes

/-- A drive as it was at the newest committed poll. -/
theorem onset_of_driveHolds {condition : Condition} {record : PollRecord} {earlier : PhysicalDrive}
    (test : PhysicalDrive → Bool) (newest : record ∈ run.history.head?)
    (member : earlier ∈ record.snapshot.physicalDrives) (passes : test earlier = true)
    (meaning : condition.holds settings record = Condition.driveHolds record (driveKey earlier) test) :
    condition.Onset settings run snapshot := by
  refine .inr ⟨record, newest, meaning.trans (List.any_eq_true.mpr ⟨earlier, member, ?_⟩)⟩
  rw [passes, beq_self_eq_true]
  rfl

omit [PyText] in
theorem mem_of_drive? (condition : Condition) {drive : PhysicalDrive}
    (named : condition.drive? = some (driveKey drive)) (member : drive ∈ snapshot.physicalDrives) :
    ∀ key ∈ condition.drive?, ∃ drive ∈ snapshot.physicalDrives, driveKey drive = key := by
  rw [named]
  rintro key ⟨rfl⟩
  exact ⟨drive, member, rfl⟩

omit [PyText] in
theorem driveHolds_iff {record : PollRecord} {key : DriveKey} {test : PhysicalDrive → Bool} :
    Condition.driveHolds record key test = true ↔
      ∃ drive ∈ record.snapshot.physicalDrives, driveKey drive = key ∧ test drive = true := by
  simp only [Condition.driveHolds, List.any_eq_true, Bool.and_eq_true, beq_iff_eq]

/-- The severity of a state depends on its normalized spelling only. -/
theorem physicalDriveStateSeverity_congr {first second : String}
    (same : normalizedState first = normalizedState second) :
    physicalDriveStateSeverity first = physicalDriveStateSeverity second := by
  simp only [physicalDriveStateSeverity, same]

theorem virtualDriveStateSeverity_congr {first second : String}
    (same : normalizedState first = normalizedState second) :
    virtualDriveStateSeverity first = virtualDriveStateSeverity second := by
  simp only [virtualDriveStateSeverity, same]

theorem cachevaultStateSeverity_congr {first second : String}
    (same : normalizedState first = normalizedState second) :
    cachevaultStateSeverity first = cachevaultStateSeverity second := by
  simp only [cachevaultStateSeverity, same]

variable {clock : ℕ → ℤ} (recorded : run.Recorded) (next : AcceptedLater run snapshot) {drive : PhysicalDrive}
  (member : drive ∈ snapshot.physicalDrives)

include recorded next member

theorem onset_physicalDriveState (critical : physicalDriveStateSeverity drive.state = .critical) :
    (Condition.physicalDriveState (driveKey drive)).Onset settings run snapshot := by
  have unique : (snapshot.physicalDrives.map slotKey).Nodup := next.accepted.slotsUnique
  have present := mem_of_drive? (.physicalDriveState (driveKey drive)) rfl member
  cases same : sameDrive run.world.db.latestSnapshot drive with
  | none =>
    have notable : physicalDriveStateSeverity drive.state ≠ .info := by simp [critical]
    obtain ⟨event, reported, severity, category, subject, state⟩ :=
      (reportedAsNew_driveEvents unique member same).state notable
    exact onset_of_part next (.inl (mem_comparisonEvents_of_mem_driveEvents member reported)) present
      (severity.trans critical) category subject ⟨drive.state, state, critical⟩
  | some before =>
    obtain ⟨record, newest, earlier, earlierMember, key, rfl⟩ := recorded.sameDrive same
    by_cases spelled : normalizedState earlier.state = normalizedState drive.state
    · refine onset_of_driveHolds (fun drive => physicalDriveStateSeverity drive.state == .critical) newest
        earlierMember ?_ ?_
      · simp [physicalDriveStateSeverity_congr spelled, critical]
      · rw [key]
        rfl
    · have reported : physicalDriveStateEvent (.ofStorcli earlier) drive ∈
          driveEvents run.world.db.latestSnapshot snapshot drive := by
        rw [driveEvents_of_same unique member same]
        exact List.mem_append_left _ (List.mem_append_left _ (by simp [PhysicalDriveSnapshot.ofStorcli, spelled]))
      exact onset_of_part next (.inl (mem_comparisonEvents_of_mem_driveEvents member reported)) present
        critical rfl rfl ⟨drive.state, rfl, critical⟩

theorem onset_smartAlert (flagged : drive.smartAlert = true) :
    (Condition.smartAlert (driveKey drive)).Onset settings run snapshot := by
  have unique : (snapshot.physicalDrives.map slotKey).Nodup := next.accepted.slotsUnique
  have present := mem_of_drive? (.smartAlert (driveKey drive)) rfl member
  have describes (alert : Option Bool) : (Condition.smartAlert (driveKey drive)).Describes settings
      (smartAlertEvent alert drive) := congrArg (fun flag => some (Scalar.bool flag)) flagged
  cases same : sameDrive run.world.db.latestSnapshot drive with
  | none =>
    have reported := (reportedAsNew_driveEvents unique member same).smartAlert flagged
    exact onset_of_part next (.inl (mem_comparisonEvents_of_mem_driveEvents member reported)) present
      rfl rfl rfl (describes none)
  | some before =>
    obtain ⟨record, newest, earlier, earlierMember, key, rfl⟩ := recorded.sameDrive same
    cases earlierFlag : earlier.smartAlert with
    | true =>
      refine onset_of_driveHolds (·.smartAlert) newest earlierMember earlierFlag ?_
      rw [key]
      rfl
    | false =>
      have reported : smartAlertEvent (some earlier.smartAlert) drive ∈
          driveEvents run.world.db.latestSnapshot snapshot drive := by
        rw [driveEvents_of_same unique member same]
        exact List.mem_append_right _ (by simp [PhysicalDriveSnapshot.ofStorcli, flagged, earlierFlag])
      exact onset_of_part next (.inl (mem_comparisonEvents_of_mem_driveEvents member reported)) present
        rfl rfl rfl (describes _)

/-- A critical counter of the table that both counter functions walk. -/
theorem onset_counter {condition : Condition} (field : CounterField) (inTable : field ∈ counterFields)
    (critical : field.severity = .critical) (named : condition.drive? = some (driveKey drive))
    (category : condition.category = field.category) (subject : condition.subject = physicalDriveSubject drive)
    (stored : ∀ drive : PhysicalDrive, field.previous (.ofStorcli drive) = field.current drive)
    (meaning : ∀ record : PollRecord, condition.holds settings record =
      Condition.driveHolds record (driveKey drive) fun drive => decide (0 < field.current drive))
    (describes : ∀ event count, event.afterField field.category.name = some (.int count) → 0 < count →
      condition.Describes settings event)
    (positive : 0 < field.current drive) : condition.Onset settings run snapshot := by
  have unique : (snapshot.physicalDrives.map slotKey).Nodup := next.accepted.slotsUnique
  have present := mem_of_drive? condition named member
  have report {event : DetectedEvent}
      (reported : event ∈ driveEvents run.world.db.latestSnapshot snapshot drive)
      (severity : event.severity = field.severity) (sameCategory : event.category = field.category)
      (sameSubject : event.subject = physicalDriveSubject drive)
      (count : event.afterField field.category.name = some (.int (field.current drive))) :
      condition.Onset settings run snapshot :=
    onset_of_part next (.inl (mem_comparisonEvents_of_mem_driveEvents member reported)) present
      (severity.trans critical) (sameCategory.trans category.symm) (sameSubject.trans subject.symm)
      (describes event _ count positive)
  have after : Payload.get [(field.category.name, Scalar.int (field.current drive))] field.category.name =
      some (.int (field.current drive)) := by simp
  cases same : sameDrive run.world.db.latestSnapshot drive with
  | none =>
    have reported := (reportedAsNew_driveEvents unique member same).counters _
      (List.mem_filterMap.mpr ⟨field, inTable, if_neg (not_le.mpr positive)⟩)
    exact report reported rfl rfl rfl after
  | some before =>
    obtain ⟨record, newest, earlier, earlierMember, key, rfl⟩ := recorded.sameDrive same
    by_cases counted : 0 < field.current earlier
    · refine onset_of_driveHolds (fun drive => decide (0 < field.current drive)) newest earlierMember
        (decide_eq_true counted) ?_
      rw [key, meaning]
    · have grown : ¬field.previous (.ofStorcli earlier) ≥ field.current drive := by
        rw [stored]
        omega
      have counter : _ ∈ counterEvents (.ofStorcli earlier) drive :=
        List.mem_filterMap.mpr ⟨field, inTable, if_neg grown⟩
      exact report (mem_driveEvents_of_counter unique member same counter) rfl rfl rfl after

theorem onset_mediaErrors (positive : 0 < drive.mediaErrors) :
    (Condition.mediaErrors (driveKey drive)).Onset settings run snapshot := by
  refine onset_counter recorded next member
    ⟨.critical, .mediaErrors, "Media error count", (·.mediaErrors), (·.mediaErrors)⟩ (by simp [counterFields])
    rfl rfl rfl rfl (fun _ => rfl) (fun _ => rfl) ?_ positive
  intro event count field positive
  exact ⟨count, field, positive⟩

theorem onset_predictiveFailures (positive : 0 < drive.predictiveFailures) :
    (Condition.predictiveFailures (driveKey drive)).Onset settings run snapshot := by
  refine onset_counter recorded next member
    ⟨.critical, .predictiveFailures, "Predictive failure count", (·.predictiveFailures),
      (·.predictiveFailures)⟩ (by simp [counterFields]) rfl rfl rfl rfl (fun _ => rfl) (fun _ => rfl) ?_ positive
  intro event count field positive
  exact ⟨count, field, positive⟩

/-- A drive whose stored state becomes critical. -/
theorem onset_driveTemperature
    (critical : (run.world.poll settings clock snapshot).db.tempStates.lookup (driveKey drive) = some .critical) :
    (Condition.driveTemperature (driveKey drive)).Onset settings run snapshot := by
  have unique : (snapshot.physicalDrives.map slotKey).Nodup := next.accepted.slotsUnique
  have present := mem_of_drive? (.driveTemperature (driveKey drive)) rfl member
  -- A state stored before the poll is the state of a drive of the newest committed poll.
  have before (stored : run.world.db.tempStates.lookup (driveKey drive) = some .critical) :
      (Condition.driveTemperature (driveKey drive)).Onset settings run snapshot := by
    obtain ⟨record, newest, earlier, earlierMember, key⟩ := recorded.keys _ _ stored
    refine onset_of_driveHolds (fun _ => record.tempStates.lookup (driveKey drive) == some .critical) newest
      earlierMember ?_ ?_
    · rw [recorded.tempStates record newest, stored]
      rfl
    · rw [key]
      rfl
  rw [poll_tempStates] at critical
  cases reading : drive.temperatureCelsius with
  | none =>
    rw [nextTemperatureStates_of_no_reading] at critical
    · exact before (Option.ite_none_left_eq_some.mp critical).2
    · intro other otherMember key
      rw [List.inj_on_of_nodup_map (driveKeys_nodup unique) otherMember member key]
      exact reading
  | some temperature =>
    rw [nextTemperatureStates_of_reading unique member reading] at critical
    rcases temperatureLoop_critical (Option.some.inj critical) with start | ⟨event, reported, alert⟩
    · apply before
      rw [World.startState] at start
      split at start
      · cases start
      · cases stored : run.world.db.tempStates.lookup (driveKey drive) with
        | some state =>
          rw [stored] at start
          exact congrArg some start
        | none =>
          rw [stored, recorded.temperatureStateFromPrevious_eq_none settings stored] at start
          cases start
    · refine onset_of_part next (.inr (.inr ?_)) present alert.severity alert.category alert.subject alert.state
      refine List.mem_flatMap.mpr ⟨drive, member, ?_⟩
      simp only [driveTransitions, reading, Option.map_some, Option.getD_some]
      rw [initialTemperatureState_poll unique member]
      exact reported

end Onset

section ObjectOnset

variable [PyText] {settings : Settings} {run : DetectionRun} {snapshot : StorcliSnapshot}

theorem onset_virtualDriveState (recorded : run.Recorded) (next : AcceptedLater run snapshot)
    {drive : VirtualDrive} (member : drive ∈ snapshot.virtualDrives)
    (critical : virtualDriveStateSeverity drive.state = .critical) :
    (Condition.virtualDriveState drive.vdId).Onset settings run snapshot := by
  have report {event : DetectedEvent}
      (reported : event ∈ comparisonEvents settings run.world.db.latestSnapshot snapshot)
      (severity : event.severity = virtualDriveStateSeverity drive.state) (category : event.category = .vdState)
      (subject : event.subject = .virtualDrive drive.vdId)
      (state : event.afterField "state" = some (.str drive.state)) :
      (Condition.virtualDriveState drive.vdId).Onset settings run snapshot := by
    refine onset_of_part next (.inl reported) ?_ (severity.trans critical) category subject
      ⟨drive.state, state, critical⟩
    intro key named
    cases named
  have new : ∃ event, newVirtualDriveEvent drive = some event ∧
      event.severity = virtualDriveStateSeverity drive.state ∧ event.category = .vdState ∧
      event.subject = .virtualDrive drive.vdId ∧ event.afterField "state" = some (.str drive.state) :=
    ⟨_, if_neg (by simp [critical]), rfl, rfl, rfl, rfl⟩
  obtain ⟨event, new, severity, category, subject, state⟩ := new
  rcases recorded.latest with ⟨empty, -⟩ | ⟨id, record, rest, saved, history⟩
  · refine report ?_ severity category subject state
    rw [empty]
    exact List.mem_append_left _ (List.mem_append_left _ (List.mem_filterMap.mpr ⟨drive, member, new⟩))
  · have virtual {event : DetectedEvent}
        (detected : event ∈ detectVirtualDrives (.ofStorcli id record.snapshot) snapshot) :
        event ∈ comparisonEvents settings run.world.db.latestSnapshot snapshot := by
      rw [saved]
      simp only [comparisonEvents, List.mem_append]
      exact .inl (.inl (.inl (.inr detected)))
    by_cases known : ∃ earlier ∈ record.snapshot.virtualDrives, earlier.vdId = drive.vdId
    · obtain ⟨earlier, earlierMember, sameId⟩ := known
      by_cases spelled : normalizedState earlier.state = normalizedState drive.state
      · right
        refine ⟨record, by rw [history]; rfl, List.any_eq_true.mpr ⟨earlier, earlierMember, ?_⟩⟩
        simp [sameId, virtualDriveStateSeverity_congr spelled, critical]
      · have found := List.find?_key_of_mem next.accepted.virtualDrivesUnique member
        have changed : ∃ event, previousVirtualDriveEvents snapshot (.ofStorcli earlier) = [event] ∧
            event.severity = virtualDriveStateSeverity drive.state ∧ event.category = .vdState ∧
            event.subject = .virtualDrive drive.vdId ∧ event.afterField "state" = some (.str drive.state) := by
          simp only [previousVirtualDriveEvents, VirtualDriveSnapshot.ofStorcli, sameId, found, spelled,
            ↓reduceIte]
          exact ⟨_, rfl, rfl, rfl, rfl, rfl⟩
        obtain ⟨event, changed, severity, category, subject, state⟩ := changed
        refine report (virtual (List.mem_append_left _ ?_)) severity category subject state
        refine List.mem_flatMap.mpr ⟨_, List.mem_map_of_mem earlierMember, ?_⟩
        rw [changed]
        exact List.mem_singleton_self _
    · have unknown : ((ControllerSnapshot.ofStorcli id record.snapshot).virtualDrives.any
          fun before => before.vdId == drive.vdId) = false := by
        rw [← Bool.not_eq_true, List.any_eq_true]
        rintro ⟨row, inside, sameId⟩
        obtain ⟨earlier, earlierMember, rfl⟩ := List.mem_map.mp inside
        exact known ⟨earlier, earlierMember, beq_iff_eq.mp sameId⟩
      refine report (virtual (List.mem_append_right _ ?_)) severity category subject state
      refine List.mem_flatMap.mpr ⟨drive, member, ?_⟩
      rw [currentVirtualDriveEvents, unknown, new]
      exact List.mem_cons_of_mem _ (List.mem_singleton_self _)

/-- A condition on no single drive, reported by a part of the detection. -/
theorem onset_of_reportedBy {condition : Condition} (next : AcceptedLater run snapshot) {event : DetectedEvent}
    (part : event ∈ comparisonEvents settings run.world.db.latestSnapshot snapshot ∨
      event ∈ detectRocTemperature settings run.world.db.latestSnapshot snapshot)
    (undriven : condition.drive? = none) (reported : condition.ReportedBy settings event) :
    condition.Onset settings run snapshot := by
  refine onset_of_part next (part.imp_right .inl) ?_ reported.severity reported.category reported.subject
    reported.describes
  rw [undriven]
  intro key named
  cases named

/-- The CacheVault of a poll is reported as new, or it is compared with the one before. -/
theorem onset_cachevault {condition : Condition} {cachevault : CacheVault} (recorded : run.Recorded)
    (next : AcceptedLater run snapshot) (present : snapshot.cachevault = some cachevault)
    (undriven : condition.drive? = none)
    (new : ∃ event ∈ newCachevaultEvents settings cachevault, condition.ReportedBy settings event)
    (compared : ∀ record : PollRecord, ∀ earlier ∈ record.snapshot.cachevault,
      condition.holds settings record = true ∨
        ∃ event ∈ cachevaultChangeEvents settings (.ofStorcli earlier) cachevault,
          condition.ReportedBy settings event) : condition.Onset settings run snapshot := by
  obtain ⟨event, member, reported⟩ := new
  rcases recorded.latest with ⟨empty, -⟩ | ⟨id, record, rest, saved, history⟩
  · refine onset_of_reportedBy next (.inl ?_) undriven reported
    rw [empty]
    simp only [comparisonEvents, detectBaseline, present]
    exact List.mem_append_right _ member
  · have detected {event : DetectedEvent}
        (inside : event ∈ detectCachevault settings (.ofStorcli id record.snapshot) snapshot) :
        event ∈ comparisonEvents settings run.world.db.latestSnapshot snapshot := by
      rw [saved]
      exact List.mem_append_right _ inside
    cases before : record.snapshot.cachevault with
    | none =>
      refine onset_of_reportedBy next (.inl (detected ?_)) undriven reported
      simp only [detectCachevault, present, ControllerSnapshot.ofStorcli, before, Option.map_none]
      exact List.mem_append_right _ member
    | some earlier =>
      rcases compared record earlier before with held | ⟨change, inside, changed⟩
      · exact .inr ⟨record, by rw [history]; rfl, held⟩
      · refine onset_of_reportedBy next (.inl (detected ?_)) undriven changed
        simp only [detectCachevault, present, ControllerSnapshot.ofStorcli, before, Option.map_some]
        exact inside

theorem onset_cachevaultState {cachevault : CacheVault} (recorded : run.Recorded)
    (next : AcceptedLater run snapshot) (present : snapshot.cachevault = some cachevault)
    (critical : cachevaultStateSeverity cachevault.state = .critical) :
    Condition.cachevaultState.Onset settings run snapshot := by
  have reportedBy {event : DetectedEvent} (severity : event.severity = cachevaultStateSeverity cachevault.state)
      (category : event.category = .cvState) (subject : event.subject = .cacheVault)
      (state : event.afterField "state" = some (.str cachevault.state)) :
      Condition.cachevaultState.ReportedBy settings event :=
    ⟨severity.trans critical, category, subject, ⟨_, state, critical⟩, nofun⟩
  apply onset_cachevault recorded next present rfl
  · have notable : ¬cachevaultStateSeverity cachevault.state = .info := by simp [critical]
    simp only [newCachevaultEvents, notable, ↓reduceIte, List.append_assoc]
    exact ⟨_, List.mem_append_left _ (List.mem_singleton_self _), reportedBy rfl rfl rfl rfl⟩
  · intro record earlier before
    by_cases spelled : normalizedState earlier.state = normalizedState cachevault.state
    · left
      simp only [Condition.holds, Option.mem_def.mp before, Option.any_some,
        cachevaultStateSeverity_congr spelled, critical, beq_self_eq_true]
    · right
      simp only [cachevaultChangeEvents, CacheVaultSnapshot.ofStorcli, ne_eq, spelled, not_false_eq_true,
        ↓reduceIte, List.append_assoc]
      exact ⟨_, List.mem_append_left _ (List.mem_singleton_self _), reportedBy rfl rfl rfl rfl⟩

theorem onset_cachevaultReplacement {cachevault : CacheVault} (recorded : run.Recorded)
    (next : AcceptedLater run snapshot) (present : snapshot.cachevault = some cachevault)
    (required : cachevault.replacementRequired = true) :
    Condition.cachevaultReplacement.Onset settings run snapshot := by
  have reportedBy {event : DetectedEvent} (severity : event.severity = .critical)
      (category : event.category = .cvState) (subject : event.subject = .cacheVault)
      (flag : event.afterField "replacement_required" = some (.bool true)) :
      Condition.cachevaultReplacement.ReportedBy settings event :=
    ⟨severity, category, subject, flag, nofun⟩
  apply onset_cachevault recorded next present rfl
  · simp only [newCachevaultEvents, required, ↓reduceIte]
    exact ⟨_, List.mem_append_left _ (List.mem_append_right _ (List.mem_singleton_self _)),
      reportedBy rfl rfl rfl rfl⟩
  · intro record earlier before
    cases flagged : earlier.replacementRequired with
    | true =>
      left
      simp only [Condition.holds, Option.mem_def.mp before, Option.any_some, flagged]
    | false =>
      right
      simp only [cachevaultChangeEvents, CacheVaultSnapshot.ofStorcli, required, flagged, Bool.not_false,
        Bool.and_self, ↓reduceIte]
      exact ⟨_, List.mem_append_left _ (List.mem_append_right _ (List.mem_singleton_self _)),
        reportedBy rfl rfl rfl rfl⟩

theorem onset_cachevaultAbsent (recorded : run.Recorded) (next : AcceptedLater run snapshot)
    (absent : snapshot.cachevault = none) : Condition.cachevaultAbsent.Onset settings run snapshot := by
  have unseen : snapshot.controller.cvPresent = false := by
    rw [next.accepted.cachevaultAgrees, absent]
    rfl
  have reportedBy {event : DetectedEvent} (severity : event.severity = .critical)
      (category : event.category = .cvState) (subject : event.subject = .cacheVault)
      (present : event.afterField "present" = some (.bool false)) :
      Condition.cachevaultAbsent.ReportedBy settings event := ⟨severity, category, subject, present, nofun⟩
  rcases recorded.latest with ⟨empty, -⟩ | ⟨id, record, rest, saved, history⟩
  · have reported : ∃ event ∈ comparisonEvents settings run.world.db.latestSnapshot snapshot,
        Condition.cachevaultAbsent.ReportedBy settings event := by
      rw [empty]
      simp only [comparisonEvents, detectBaseline, absent, unseen, Bool.false_eq_true, ↓reduceIte]
      exact ⟨_, List.mem_append_right _ (List.mem_singleton_self _), reportedBy rfl rfl rfl rfl⟩
    obtain ⟨event, member, reported⟩ := reported
    exact onset_of_reportedBy next (.inl member) rfl reported
  · cases before : record.snapshot.cachevault with
    | none =>
      right
      refine ⟨record, by rw [history]; rfl, ?_⟩
      simp only [Condition.holds, before, Option.isNone_none]
    | some earlier =>
      have reported : ∃ event ∈ detectCachevault settings (.ofStorcli id record.snapshot) snapshot,
          Condition.cachevaultAbsent.ReportedBy settings event := by
        simp only [detectCachevault, absent, unseen, ControllerSnapshot.ofStorcli, before, Option.map_some,
          Bool.false_eq_true, ↓reduceIte, Option.isNone_some, Bool.false_and]
        exact ⟨_, List.mem_singleton_self _, reportedBy rfl rfl rfl rfl⟩
      obtain ⟨event, member, reported⟩ := reported
      refine onset_of_reportedBy next (.inl ?_) rfl reported
      rw [saved]
      exact List.mem_append_right _ member

theorem onset_controllerTemperature {temperature : ℤ} (recorded : run.Recorded) (next : AcceptedLater run snapshot)
    (reading : snapshot.controller.rocTemperatureCelsius = some temperature)
    (critical : settings.rocTempCriticalCelsius ≤ temperature) :
    Condition.controllerTemperature.Onset settings run snapshot := by
  have reportedBy (summary : String) (before : Option ℤ) : Condition.controllerTemperature.ReportedBy settings
      (rocTemperatureEvent .critical summary before temperature) :=
    ⟨rfl, rfl, rfl, ⟨temperature, rfl, critical⟩, nofun⟩
  cases before : run.world.db.latestSnapshot.bind (·.rocTemperatureCelsius) with
  | none =>
    refine onset_of_reportedBy next (.inr ?_) rfl (reportedBy
      s!"RoC temperature {temperature} C reached critical threshold ({settings.rocTempCriticalCelsius} C) after unavailable sample" none)
    simp only [detectRocTemperature, reading, before, critical, ↓reduceIte]
    exact List.mem_append_right _ (List.mem_singleton_self _)
  | some previous =>
    by_cases held : settings.rocTempCriticalCelsius ≤ previous
    · right
      rcases recorded.latest with ⟨empty, -⟩ | ⟨id, record, rest, saved, history⟩
      · rw [empty] at before
        cases before
      · rw [saved] at before
        refine ⟨record, by rw [history]; rfl, ?_⟩
        change record.snapshot.controller.rocTemperatureCelsius = some previous at before
        simp only [Condition.holds, before, Option.any_some, held, decide_true]
    · refine onset_of_reportedBy next (.inr ?_) rfl (reportedBy
        s!"RoC temperature {temperature} C crossed critical threshold ({settings.rocTempCriticalCelsius} C)"
        previous)
      simp only [detectRocTemperature, reading, before, not_le.mp held, critical, and_self, ↓reduceIte]
      exact List.mem_append_left _ (List.mem_append_left _ (List.mem_append_right _ (List.mem_singleton_self _)))

end ObjectOnset

/-! ## Runs -/

section Runs

variable [PyText] {settings : Settings} {clock : ℕ → ℤ}

/-- A condition that holds at a committed poll is reported by it or held at the poll before. -/
theorem onset_of_holds {run : DetectionRun} {snapshot : StorcliSnapshot} (recorded : run.Recorded)
    (next : AcceptedLater run snapshot) {condition : Condition}
    (holds : ∀ latest ∈ (run.commit settings clock snapshot).history.head?,
      condition.holds settings latest = true) : condition.Onset settings run snapshot := by
  have holds := holds _ rfl
  cases condition with
  | virtualDriveState vdId =>
    obtain ⟨drive, member, matching⟩ := List.any_eq_true.mp holds
    simp only [Bool.and_eq_true, beq_iff_eq] at matching
    obtain ⟨rfl, critical⟩ := matching
    exact onset_virtualDriveState recorded next member critical
  | physicalDriveState key =>
    obtain ⟨drive, member, rfl, critical⟩ := driveHolds_iff.mp holds
    exact onset_physicalDriveState recorded next member (beq_iff_eq.mp critical)
  | smartAlert key =>
    obtain ⟨drive, member, rfl, flagged⟩ := driveHolds_iff.mp holds
    exact onset_smartAlert recorded next member flagged
  | mediaErrors key =>
    obtain ⟨drive, member, rfl, positive⟩ := driveHolds_iff.mp holds
    exact onset_mediaErrors recorded next member (of_decide_eq_true positive)
  | predictiveFailures key =>
    obtain ⟨drive, member, rfl, positive⟩ := driveHolds_iff.mp holds
    exact onset_predictiveFailures recorded next member (of_decide_eq_true positive)
  | cachevaultAbsent => exact onset_cachevaultAbsent recorded next (Option.isNone_iff_eq_none.mp holds)
  | cachevaultState =>
    obtain ⟨cachevault, present, critical⟩ := (Option.any_eq_true _ _).mp holds
    exact onset_cachevaultState recorded next present (beq_iff_eq.mp critical)
  | cachevaultReplacement =>
    obtain ⟨cachevault, present, required⟩ := (Option.any_eq_true _ _).mp holds
    exact onset_cachevaultReplacement recorded next present required
  | driveTemperature key =>
    obtain ⟨drive, member, rfl, critical⟩ := driveHolds_iff.mp holds
    exact onset_driveTemperature recorded next member (beq_iff_eq.mp critical)
  | controllerTemperature =>
    obtain ⟨temperature, reading, critical⟩ := (Option.any_eq_true _ _).mp holds
    exact onset_controllerTemperature recorded next reading (of_decide_eq_true critical)

/-- Every condition of the newest poll was reported in the current interval in which it held. -/
def DetectionRun.AllReported (settings : Settings) (run : DetectionRun) : Prop :=
  ∀ condition : Condition, ∀ latest ∈ run.history.head?, condition.holds settings latest = true →
    ∃ record ∈ run.history.takeWhile fun record => condition.holds settings record,
      ∃ event ∈ record.events, condition.ReportedBy settings event

theorem DetectionRun.AllReported.commit {run : DetectionRun} {snapshot : StorcliSnapshot}
    (reported : run.AllReported settings) (recorded : run.Recorded) (next : AcceptedLater run snapshot) :
    (run.commit settings clock snapshot).AllReported settings := by
  intro condition latest newest holds
  obtain rfl := Option.some.inj newest
  have interval : (run.commit settings clock snapshot).history.takeWhile
      (fun record => condition.holds settings record) =
      _ :: run.history.takeWhile fun record => condition.holds settings record :=
    List.takeWhile_cons_of_pos holds
  rw [interval]
  rcases onset_of_holds recorded next (fun _ head => Option.some.inj head ▸ holds) with
    ⟨event, member, report⟩ | ⟨record, head, held⟩
  · exact ⟨_, List.mem_cons_self, event, member, report⟩
  · obtain ⟨earlier, inside, report⟩ := reported condition record head held
    exact ⟨earlier, List.mem_cons_of_mem _ inside, report⟩

/-- In every run of accepted polls with increasing capture times, each critical condition of the newest
poll was reported by a critical event in the current interval of polls in which it held. -/
theorem critical_conditions_reported (settings : Settings) (clock : ℕ → ℤ) (snapshots : List StorcliSnapshot)
    (accepted : Machine.Guarded (DetectionRun.commit settings clock) AcceptedLater ⟨.initial, []⟩ snapshots) :
    (snapshots.foldl (DetectionRun.commit settings clock) ⟨.initial, []⟩).AllReported settings := by
  have inv := @Machine.Guarded.invariant _ _ _ _
    (fun run : DetectionRun => run.Recorded ∧ run.AllReported settings) _ _ accepted
  refine (inv ?_ ?_).2
  · refine ⟨DetectionRun.recorded_initial, ?_⟩
    intro condition latest newest
    cases newest
  · rintro run snapshot ⟨recorded, reported⟩ next
    exact ⟨recorded.commit settings clock next, reported.commit recorded next⟩

omit [PyText] in
theorem accepted_bareSnapshot (capturedAt : ℤ) (foreignConfig : Option ForeignConfig) :
    (bareSnapshot capturedAt foreignConfig).Accepted where
  virtualDrivesUnique := by simp [bareSnapshot]
  slotsUnique := by simp [bareSnapshot]
  serialsNonempty := by simp [bareSnapshot]
  cachevaultAgrees := by simp [bareSnapshot]

omit [PyText] in
theorem acceptedLater_bareSnapshot {run : DetectionRun} {capturedAt : ℤ}
    (later : ∀ latest ∈ run.history.head?, latest.snapshot.capturedAt ≤ capturedAt) :
    AcceptedLater run (bareSnapshot capturedAt none) := ⟨accepted_bareSnapshot capturedAt none, later⟩

omit [PyText] in
/-- Two polls of a controller whose CacheVault is absent. -/
theorem critical_conditions_reported_absent :
    let _ := PyText.ascii
    ([bareSnapshot 0 none, bareSnapshot 1 none].foldl
      (DetectionRun.commit Settings.default fun tick => (tick : ℤ)) ⟨.initial, []⟩).AllReported
        Settings.default := by
  let _ := PyText.ascii
  refine critical_conditions_reported Settings.default (fun tick => (tick : ℤ))
    [bareSnapshot 0 none, bareSnapshot 1 none]
    ⟨acceptedLater_bareSnapshot ?_, acceptedLater_bareSnapshot ?_, trivial⟩
  · intro latest newest
    cases newest
  · intro latest newest
    simp only [DetectionRun.commit, List.head?_cons, Option.mem_def, Option.some.injEq] at newest
    rw [← newest]
    simp [bareSnapshot]

end Runs

end MegaraidDashboard.Services
