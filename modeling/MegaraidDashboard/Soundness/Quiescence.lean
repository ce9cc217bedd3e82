import MegaraidDashboard.Soundness.TemperatureHistory

/-! # Quiescence across a restart

A snapshot that is compared with its own row raises nothing. Every compared field is written as it is read, the slots
are unique, and a temperature state that a poll has left is one in which the reading moves nothing.
-/

namespace MegaraidDashboard.Services

open Db Storcli

section Row

variable {snapshot : StorcliSnapshot} {id : ℕ}

theorem rowSlots (snapshot : StorcliSnapshot) (id : ℕ) :
    (ControllerSnapshot.ofStorcli id snapshot).physicalDrives.map snapshotSlotKey = snapshot.physicalDrives.map slotKey := by
  simp only [ControllerSnapshot.ofStorcli, List.map_map]
  rfl

/-- A drive finds its own row. -/
theorem previousBySlot_row (accepted : snapshot.Accepted) {drive : PhysicalDrive} (member : drive ∈ snapshot.physicalDrives) :
    previousBySlot (.ofStorcli id snapshot) (slotKey drive) = some (.ofStorcli drive) := by
  have unique : ((ControllerSnapshot.ofStorcli id snapshot).physicalDrives.map snapshotSlotKey).Nodup :=
    rowSlots snapshot id ▸ accepted.slotsUnique
  exact List.find?_key_of_mem unique (List.mem_map_of_mem member)

theorem replaced_row (accepted : snapshot.Accepted) {drive : PhysicalDrive} (member : drive ∈ snapshot.physicalDrives) :
    replaced (.ofStorcli id snapshot) drive = false := by
  rw [replaced, previousBySlot_row accepted member]
  exact bne_self_eq_false _

theorem replacedSlots_row (accepted : snapshot.Accepted) : replacedSlots (.ofStorcli id snapshot) snapshot = [] := by
  rw [replacedSlots, List.map_eq_nil_iff, List.filter_eq_nil_iff]
  intro drive member
  rw [replaced_row accepted member]
  exact Bool.false_ne_true

theorem absentDrives_row (snapshot : StorcliSnapshot) (id : ℕ) : absentDrives (.ofStorcli id snapshot) snapshot = [] := by
  rw [absentDrives, List.filter_eq_nil_iff]
  rintro row member
  obtain ⟨drive, present, rfl⟩ := List.mem_map.mp member
  have occupied : snapshotSlotKey (.ofStorcli drive) ∈ snapshot.physicalDrives.map slotKey :=
    List.mem_map_of_mem (f := slotKey) present
  rw [List.contains_iff_mem.mpr occupied]
  exact Bool.false_ne_true

theorem counterEvents_row (drive : PhysicalDrive) : counterEvents (.ofStorcli drive) drive = [] := by
  simp [counterEvents, counterFields, PhysicalDriveSnapshot.ofStorcli]

end Row

/-! ## The comparisons -/

section Comparisons

variable [PyText] {snapshot : StorcliSnapshot} {id : ℕ} {settings : Settings}

omit [PyText] in
theorem detectController_row : detectController (.ofStorcli id snapshot) snapshot = [] := if_pos rfl

theorem detectVirtualDrives_row (accepted : snapshot.Accepted) :
    detectVirtualDrives (.ofStorcli id snapshot) snapshot = [] := by
  rw [detectVirtualDrives, List.append_eq_nil_iff, List.flatMap_eq_nil_iff, List.flatMap_eq_nil_iff]
  constructor
  · rintro row member
    obtain ⟨drive, present, rfl⟩ := List.mem_map.mp member
    have found : snapshot.virtualDrives.find? (fun other => other.vdId == drive.vdId) = some drive :=
      List.find?_key_of_mem accepted.virtualDrivesUnique present
    rw [previousVirtualDriveEvents]
    simp [VirtualDriveSnapshot.ofStorcli, found]
  · intro drive present
    have known : (ControllerSnapshot.ofStorcli id snapshot).virtualDrives.any (fun row => row.vdId == drive.vdId) = true :=
      List.any_eq_true.mpr ⟨.ofStorcli drive, List.mem_map_of_mem present, beq_self_eq_true _⟩
    rw [currentVirtualDriveEvents, if_pos known]

omit [PyText] in
theorem detectDriveReplacements_row (accepted : snapshot.Accepted) :
    detectDriveReplacements (.ofStorcli id snapshot) snapshot = [] := by
  rw [detectDriveReplacements, absentDrives_row, List.map_nil, List.nil_append, List.flatMap_eq_nil_iff]
  intro drive member
  rw [replacementEvents, previousBySlot_row accepted member]
  exact if_pos rfl

theorem detectPhysicalDrives_row (accepted : snapshot.Accepted) :
    detectPhysicalDrives (.ofStorcli id snapshot) snapshot [] = [] := by
  rw [detectPhysicalDrives, List.flatMap_eq_nil_iff]
  intro drive member
  rw [physicalDriveEvents, previousBySlot_row accepted member]
  have state : (PhysicalDriveSnapshot.ofStorcli drive).state = drive.state := rfl
  have smartAlert : (PhysicalDriveSnapshot.ofStorcli drive).smartAlert = drive.smartAlert := rfl
  simp [counterEvents_row, state, smartAlert]

theorem detectCachevault_row (accepted : snapshot.Accepted) :
    detectCachevault settings (.ofStorcli id snapshot) snapshot = [] := by
  have agrees := accepted.cachevaultAgrees
  cases vault : snapshot.cachevault with
  | none =>
    rw [vault] at agrees
    simp only [detectCachevault, vault, ControllerSnapshot.ofStorcli, agrees]
    rfl
  | some cachevault =>
    simp only [detectCachevault, vault, ControllerSnapshot.ofStorcli, Option.map_some, cachevaultChangeEvents,
      CacheVaultSnapshot.ofStorcli]
    cases cachevault.capacitancePercent with
    | none => simp
    | some percent =>
      -- the reading is not both below the threshold and, as the previous one, not below it
      simp

theorem comparisonEvents_row (accepted : snapshot.Accepted) :
    comparisonEvents settings (some (.ofStorcli id snapshot)) snapshot = [] := by
  simp only [comparisonEvents, detectController_row, detectVirtualDrives_row accepted,
    detectDriveReplacements_row accepted, replacedSlots_row accepted, detectPhysicalDrives_row accepted,
    detectCachevault_row accepted, List.append_nil]

omit [PyText] in
/-- A reading that did not change crosses no threshold and clears none: the hysteresis is positive. -/
theorem detectRocTemperature_row : detectRocTemperature settings (some (.ofStorcli id snapshot)) snapshot = [] := by
  have positive := settings.rocHysteresisPositive
  cases reading : snapshot.controller.rocTemperatureCelsius with
  | none => simp only [detectRocTemperature, reading]
  | some temperature =>
    simp only [detectRocTemperature, reading, Option.bind_some, ControllerSnapshot.ofStorcli]
    rw [if_neg (by omega), if_neg (by omega), if_neg (by omega), if_neg (by omega)]
    rfl

end Comparisons

/-! ## Temperature states -/

section Temperatures

variable {settings : Settings} {snapshot : StorcliSnapshot} {id : ℕ} {states : TempStateTable}

/-- The table holds, for every drive with a reading, a state in which the reading moves nothing. -/
def Settled (settings : Settings) (snapshot : StorcliSnapshot) (states : TempStateTable) : Prop :=
  ∀ drive ∈ snapshot.physicalDrives, ∀ temperature, drive.temperatureCelsius = some temperature →
    ∃ state, states.lookup (driveKey drive) = some state ∧ temperatureStep settings drive temperature state = none

theorem temperatureTransitions_of_exit {drive : PhysicalDrive} {temperature : ℤ} {state : TempState}
    (exit : temperatureStep settings drive temperature state = none) :
    temperatureTransitions settings drive temperature state = ([], state) := by
  simp only [temperatureTransitions, temperatureLoop, exit]

theorem driveTransitions_settled (settled : Settled settings snapshot states) {drive : PhysicalDrive}
    (member : drive ∈ snapshot.physicalDrives) {result : List DetectedEvent × TempState} {previous : Option ControllerSnapshot}
    (transitions : driveTransitions settings states previous [] drive = some result) :
    result.1 = [] ∧ states.lookup (driveKey drive) = some result.2 := by
  obtain ⟨temperature, reading, rfl⟩ := Option.map_eq_some_iff.mp transitions
  obtain ⟨state, found, exit⟩ := settled drive member temperature reading
  have start : initialTemperatureState settings states previous [] drive = state := by
    simp [initialTemperatureState, found]
  rw [start, temperatureTransitions_of_exit exit]
  exact ⟨rfl, found⟩

theorem detectTemperatures_settled (settled : Settled settings snapshot states) {previous : Option ControllerSnapshot} :
    detectTemperatures settings states previous snapshot [] = [] := by
  rw [detectTemperatures, List.flatMap_eq_nil_iff]
  intro drive member
  cases transitions : driveTransitions settings states previous [] drive with
  | none => rfl
  | some result => exact (driveTransitions_settled settled member transitions).1

/-- The updates write what is there. -/
theorem temperatureUpdates_settled (settled : Settled settings snapshot states) {previous : Option ControllerSnapshot}
    {update : DriveKey × TempState} (written : update ∈ temperatureUpdates settings states previous snapshot []) :
    states.lookup update.1 = some update.2 := by
  obtain ⟨drive, member, produced⟩ := List.mem_filterMap.mp written
  obtain ⟨result, transitions, rfl⟩ := Option.map_eq_some_iff.mp produced
  exact (driveTransitions_settled settled member transitions).2

/-- Inserting entries that are there changes no lookup. -/
theorem lookup_foldl_insert_same {table : TempStateTable} {entries : List (DriveKey × TempState)}
    (there : ∀ entry ∈ entries, table.lookup entry.1 = some entry.2) (key : DriveKey) :
    (entries.foldl (fun table entry => table.insert entry.1 entry.2) table).lookup key = table.lookup key := by
  induction entries generalizing table with
  | nil => rfl
  | cons entry rest ih =>
    have kept : ∀ key, (table.insert entry.1 entry.2).lookup key = table.lookup key := by
      intro key
      by_cases same : key = entry.1
      · rw [same, AList.lookup_insert, there entry List.mem_cons_self]
      · exact AList.lookup_insert_ne same
    rw [List.foldl_cons, ih, kept]
    intro other member
    rw [kept]
    exact there other (List.mem_cons_of_mem _ member)

end Temperatures

/-! ## A poll and its repetition -/

section Poll

variable [PyText] (settings : Settings) (clock : ℕ → ℤ) (world : World) (snapshot : StorcliSnapshot)

/-- A poll leaves settled states. -/
theorem settled_poll (accepted : snapshot.Accepted) :
    Settled settings snapshot (world.poll settings clock snapshot).db.tempStates := by
  intro drive member temperature reading
  rw [poll_tempStates]
  exact ⟨_, nextTemperatureStates_of_reading accepted.slotsUnique member reading,
    temperatureTransitions_exit settings drive temperature _⟩

omit [PyText] in
/-- What a detector loads for the drives of a snapshot is as settled as the table. -/
theorem settled_loadTemperatureStates (settled : Settled settings snapshot world.db.tempStates) :
    Settled settings snapshot (loadTemperatureStates world.db snapshot) := by
  intro drive member temperature reading
  rw [lookup_loadTemperatureStates member]
  exact settled drive member temperature reading

/-- Against its own row a snapshot raises only what a detector forgets of the foreign configuration. -/
theorem detectedEvents_row (accepted : snapshot.Accepted) {detector : EventDetector} {id : ℕ}
    (settled : Settled settings snapshot detector.temperatureStates) :
    detectedEvents settings detector (some (.ofStorcli id snapshot)) snapshot =
      (detectForeignConfig detector.previousForeignConfigPresent snapshot.foreignConfig).map (attachSerial snapshot) := by
  simp only [detectedEvents, comparisonEvents_row accepted, detectRocTemperature_row, previousReplacedSlots,
    replacedSlots_row accepted, detectTemperatures_settled settled, List.nil_append]

/-- The detection of a snapshot against its own row leaves the stored states as they are. -/
theorem lookup_nextTemperatureStates_row (accepted : snapshot.Accepted) {detector : EventDetector} {id : ℕ}
    {table : TempStateTable} (settled : Settled settings snapshot detector.temperatureStates)
    (loaded : ∀ key state, detector.temperatureStates.lookup key = some state → table.lookup key = some state)
    (key : DriveKey) :
    (nextTemperatureStates (detect settings detector (some (.ofStorcli id snapshot)) snapshot).2 table).lookup key =
      table.lookup key := by
  simp only [nextTemperatureStates, detect, detectorAfter, temperatureClears, absentDrives_row, replacedSlots_row accepted,
    List.map_nil, List.append_nil, List.foldl_nil, previousReplacedSlots]
  refine lookup_foldl_insert_same ?_ key
  intro entry written
  exact loaded _ _ (temperatureUpdates_settled settled written)

end Poll

/-- After every committed poll, a detector of any history that loads the stored temperature states and compares the
snapshot with the row that the poll has written raises nothing but an event of the foreign configuration, and leaves the
stored temperature states as they are; the detector of the poll raises nothing at all. That row is the one that the next
detection reads, if no stored row is newer. -/
theorem poll_quiescent [PyText] (settings : Settings) (clock : ℕ → ℤ) (world : World) (snapshot : StorcliSnapshot)
    (accepted : snapshot.Accepted) :
    let after := world.poll settings clock snapshot
    let row := ControllerSnapshot.ofStorcli world.db.nextSnapshotId snapshot
    let again := fun detector : EventDetector => detect settings
      { detector with temperatureStates := loadTemperatureStates after.db snapshot } (some row) snapshot
    after.db.snapshots = world.db.snapshots ++ [row] ∧
    ((∀ stored ∈ world.db.snapshots, stored.capturedAt ≤ snapshot.capturedAt) → after.db.latestSnapshot = some row) ∧
    (∀ detector, (∀ event ∈ (again detector).1, event.category = .foreignConfigDetected) ∧
      ∀ key, (applyTemperatureStates (again detector).2 after.db).tempStates.lookup key = after.db.tempStates.lookup key) ∧
    (again after.detector).1 = [] := by
  intro after row again
  have stored : after.db.snapshots = world.db.snapshots ++ [row] := poll_snapshots settings clock world snapshot
  have settled : Settled settings snapshot (loadTemperatureStates after.db snapshot) :=
    settled_loadTemperatureStates settings after snapshot (settled_poll settings clock world snapshot accepted)
  have events : ∀ detector, (again detector).1 =
      (detectForeignConfig detector.previousForeignConfigPresent snapshot.foreignConfig).map (attachSerial snapshot) :=
    fun detector => detectedEvents_row settings snapshot accepted settled
  refine ⟨stored, ?_, fun detector => ⟨?_, ?_⟩, ?_⟩
  · intro newest
    rw [Database.latestSnapshot, stored]
    exact List.latest?_concat newest
  · intro event raised
    rw [events] at raised
    obtain ⟨part, member, rfl⟩ := List.mem_map.mp raised
    rw [attachSerial_category]
    exact category_of_mem_detectForeignConfig member
  · intro key
    rw [applyTemperatureStates_eq]
    refine lookup_nextTemperatureStates_row settings snapshot accepted settled ?_ key
    intro key state found
    rw [loadTemperatureStates, AList.lookup_filterKeys] at found
    split at found
    · exact found
    · cases found
  · rw [events, poll_detector, detection_foreignPresence]
    cases snapshot.foreignConfig with
    | none => rfl
    | some config =>
      cases present : config.present <;> simp [detectForeignConfig, rememberedForeignPresence, present]

/-- One drive at 61 degrees, polled by a new process and detected again by another one. -/
theorem poll_quiescent_drive :
    let _ := PyText.ascii
    let snapshot := driveSnapshot 0 (sampleDrive (some 61))
    let after := World.initial.poll Settings.default (fun tick => (tick : ℤ)) snapshot
    let row := ControllerSnapshot.ofStorcli World.initial.db.nextSnapshotId snapshot
    ∀ event ∈ (detect Settings.default
        { EventDetector.initial with temperatureStates := loadTemperatureStates after.db snapshot } (some row) snapshot).1,
      event.category = .foreignConfigDetected := by
  intro _ snapshot after row
  have accepted : snapshot.Accepted :=
    (@acceptedLater_driveSnapshot ⟨.initial, []⟩ 0 (sampleDrive (some 61)) (by simp [sampleDrive]) (by rintro _ ⟨⟩)).accepted
  obtain ⟨-, -, quiet, -⟩ := poll_quiescent Settings.default (fun tick => (tick : ℤ)) .initial snapshot accepted
  exact (quiet .initial).1

end MegaraidDashboard.Services
