import MegaraidDashboard.Soundness.Collector
import MegaraidDashboard.Soundness.Detection

/-! # Detection of one drive

The detector compares a drive with the row of the same slot and serial in the previous snapshot. A
drive without such a row is reported as new in every respect, and its temperature starts at `ok`.
-/

namespace MegaraidDashboard.Services

open Db Storcli

/-- The row of the previous snapshot for the same slot and serial. -/
def sameDrive (previous : Option ControllerSnapshot) (drive : PhysicalDrive) : Option PhysicalDriveSnapshot :=
  previous.bind fun previous =>
    (previousBySlot previous (slotKey drive)).filter fun before => before.serialNumber == drive.serialNumber

theorem sameDrive_some {previous : Option ControllerSnapshot} {drive : PhysicalDrive}
    {before : PhysicalDriveSnapshot} (same : sameDrive previous drive = some before) :
    ∃ snapshot, previous = some snapshot ∧ before ∈ snapshot.physicalDrives ∧ before.key = driveKey drive := by
  obtain ⟨snapshot, rfl, found⟩ := Option.bind_eq_some_iff.mp same
  obtain ⟨inSlot, serial⟩ := Option.filter_eq_some_iff.mp found
  have slot := List.find?_some inSlot
  simp only [snapshotSlotKey, slotKey, beq_iff_eq, Prod.mk.injEq] at slot serial
  refine ⟨snapshot, rfl, List.mem_of_find?_eq_some inSlot, ?_⟩
  simp only [PhysicalDriveSnapshot.key, driveKey, slot, serial]

theorem sameDrive_of_mem {snapshot : ControllerSnapshot} {drive : PhysicalDrive}
    {before : PhysicalDriveSnapshot} (unique : (snapshot.physicalDrives.map snapshotSlotKey).Nodup)
    (member : before ∈ snapshot.physicalDrives) (key : before.key = driveKey drive) :
    sameDrive (some snapshot) drive = some before := by
  simp only [PhysicalDriveSnapshot.key, driveKey, DriveKey.mk.injEq] at key
  have slot : slotKey drive = snapshotSlotKey before := by
    simp only [slotKey, snapshotSlotKey, key]
  simp only [sameDrive, Option.bind_some, previousBySlot, slot, List.find?_key_of_mem unique member,
    Option.filter_some, key, beq_self_eq_true, ↓reduceIte]

/-- A slot counts as replaced when the previous snapshot lacks the drive. -/
theorem replaced_eq (snapshot : ControllerSnapshot) (drive : PhysicalDrive) :
    replaced snapshot drive = (sameDrive (some snapshot) drive).isNone := by
  simp only [replaced, sameDrive, Option.bind_some]
  cases previousBySlot snapshot (slotKey drive) with
  | none => rfl
  | some before =>
    change (!(before.serialNumber == drive.serialNumber)) = _
    rw [Option.filter_some]
    cases before.serialNumber == drive.serialNumber <;> rfl

theorem contains_replacedSlots {snapshot : ControllerSnapshot} {current : StorcliSnapshot}
    {drive : PhysicalDrive} (unique : (current.physicalDrives.map slotKey).Nodup)
    (member : drive ∈ current.physicalDrives) :
    (replacedSlots snapshot current).contains (slotKey drive) = replaced snapshot drive := by
  rw [Bool.eq_iff_iff, List.contains_iff_mem]
  constructor
  · intro inside
    obtain ⟨other, found, slot⟩ := List.mem_map.mp inside
    obtain ⟨otherMember, changed⟩ := List.mem_filter.mp found
    exact List.inj_on_of_nodup_map unique otherMember member slot ▸ changed
  · intro changed
    exact List.mem_map_of_mem (List.mem_filter.mpr ⟨member, changed⟩)

theorem contains_previousReplacedSlots {previous : Option ControllerSnapshot} {current : StorcliSnapshot}
    {drive : PhysicalDrive} (unique : (current.physicalDrives.map slotKey).Nodup)
    (member : drive ∈ current.physicalDrives) :
    (previousReplacedSlots previous current).contains (slotKey drive) =
      (previous.isSome && (sameDrive previous drive).isNone) := by
  cases previous with
  | none => rfl
  | some snapshot =>
    simp only [previousReplacedSlots, contains_replacedSlots unique member, replaced_eq, Option.isSome_some,
      Bool.true_and]

section Events

variable [PyText] {settings : Settings} {previous : Option ControllerSnapshot} {current : StorcliSnapshot}
  {drive : PhysicalDrive}

/-- The events of the state, the counters and the SMART flag of one drive. -/
def driveEvents (previous : Option ControllerSnapshot) (current : StorcliSnapshot) (drive : PhysicalDrive) :
    List DetectedEvent :=
  match previous with
  | none => newPhysicalDriveEvents drive
  | some previous => physicalDriveEvents previous (replacedSlots previous current) drive

theorem mem_comparisonEvents_of_mem_driveEvents {event : DetectedEvent}
    (member : drive ∈ current.physicalDrives) (reported : event ∈ driveEvents previous current drive) :
    event ∈ comparisonEvents settings previous current := by
  cases previous with
  | none =>
    simp only [comparisonEvents, detectBaseline, List.mem_append]
    exact .inl (.inr (List.mem_flatMap.mpr ⟨drive, member, reported⟩))
  | some snapshot =>
    simp only [comparisonEvents, detectPhysicalDrives, List.mem_append]
    exact .inl (.inr (List.mem_flatMap.mpr ⟨drive, member, reported⟩))

/-- A drive that was there is compared field by field. -/
theorem driveEvents_of_same {before : PhysicalDriveSnapshot}
    (unique : (current.physicalDrives.map slotKey).Nodup) (member : drive ∈ current.physicalDrives)
    (same : sameDrive previous drive = some before) :
    driveEvents previous current drive =
      (if normalizedState before.state ≠ normalizedState drive.state then
        [physicalDriveStateEvent before drive] else []) ++ counterEvents before drive ++
      (if drive.smartAlert && !before.smartAlert then
        [smartAlertEvent (some before.smartAlert) drive] else []) := by
  obtain ⟨snapshot, rfl, -, -⟩ := sameDrive_some same
  have kept : replaced snapshot drive = false := by rw [replaced_eq, same]; rfl
  obtain ⟨inSlot, -⟩ := Option.filter_eq_some_iff.mp same
  simp only [driveEvents, physicalDriveEvents, inSlot, contains_replacedSlots unique member, kept,
    Bool.false_eq_true, ↓reduceIte]

theorem mem_driveEvents_of_counter {before : PhysicalDriveSnapshot} {event : DetectedEvent}
    (unique : (current.physicalDrives.map slotKey).Nodup) (member : drive ∈ current.physicalDrives)
    (same : sameDrive previous drive = some before) (counter : event ∈ counterEvents before drive) :
    event ∈ driveEvents previous current drive := by
  rw [driveEvents_of_same unique member same]
  exact List.mem_append_left _ (List.mem_append_right _ counter)

/-- What a drive reports that the previous snapshot lacks. -/
structure ReportedAsNew (drive : PhysicalDrive) (events : List DetectedEvent) : Prop where
  state : physicalDriveStateSeverity drive.state ≠ .info → ∃ event ∈ events,
    event.severity = physicalDriveStateSeverity drive.state ∧ event.category = .pdState ∧
    event.subject = physicalDriveSubject drive ∧ event.afterField "state" = some (.str drive.state)
  counters : ∀ event ∈ newCounterEvents drive, event ∈ events
  smartAlert : drive.smartAlert = true → smartAlertEvent none drive ∈ events

theorem reportedAsNew_newPhysicalDriveEvents (drive : PhysicalDrive) :
    ReportedAsNew drive (newPhysicalDriveEvents drive) where
  state := by
    intro notable
    simp only [newPhysicalDriveEvents, notable, ↓reduceIte]
    exact ⟨_, List.mem_append_left _ (List.mem_append_left _ (List.mem_singleton_self _)), rfl, rfl, rfl, rfl⟩
  counters := by
    intro event counter
    exact List.mem_append_left _ (List.mem_append_right _ counter)
  smartAlert := by
    intro flagged
    simp only [newPhysicalDriveEvents, flagged, ↓reduceIte]
    exact List.mem_append_right _ (List.mem_singleton_self _)

theorem reportedAsNew_driveEvents (unique : (current.physicalDrives.map slotKey).Nodup)
    (member : drive ∈ current.physicalDrives) (fresh : sameDrive previous drive = none) :
    ReportedAsNew drive (driveEvents previous current drive) := by
  cases previous with
  | none => exact reportedAsNew_newPhysicalDriveEvents drive
  | some snapshot =>
    have changed : replaced snapshot drive = true := by rw [replaced_eq, fresh]; rfl
    simp only [driveEvents, physicalDriveEvents, contains_replacedSlots unique member, changed, ↓reduceIte]
    split
    · exact reportedAsNew_newPhysicalDriveEvents drive
    · next before inSlot =>
      split
      · constructor
        · intro _
          exact ⟨physicalDriveStateEvent before drive, by simp, rfl, rfl, rfl, rfl⟩
        · intro event counter
          exact List.mem_cons_of_mem _ (List.mem_append_left _ counter)
        · intro flagged
          simp [flagged]
      · exact reportedAsNew_newPhysicalDriveEvents drive

end Events

/-! ## Temperature states -/

section Temperature

variable {settings : Settings} {drive : PhysicalDrive} {temperature : ℤ}

/-- The five bands of a reading; the settings leave no other order of the four thresholds. -/
theorem reading_bands (settings : Settings) (temperature : ℤ) :
    (temperature < settings.tempWarningCelsius - settings.tempHysteresisCelsius ∧
      temperature < settings.tempWarningCelsius ∧
      temperature < settings.tempCriticalCelsius - settings.tempHysteresisCelsius ∧
      temperature < settings.tempCriticalCelsius) ∨
    (settings.tempWarningCelsius - settings.tempHysteresisCelsius ≤ temperature ∧
      temperature < settings.tempCriticalCelsius - settings.tempHysteresisCelsius ∧
      temperature < settings.tempCriticalCelsius) ∨
    (settings.tempWarningCelsius - settings.tempHysteresisCelsius ≤ temperature ∧
      settings.tempCriticalCelsius - settings.tempHysteresisCelsius ≤ temperature ∧
      temperature < settings.tempCriticalCelsius) ∨
    (settings.tempWarningCelsius - settings.tempHysteresisCelsius ≤ temperature ∧
      settings.tempWarningCelsius ≤ temperature ∧
      settings.tempCriticalCelsius - settings.tempHysteresisCelsius ≤ temperature ∧
      settings.tempCriticalCelsius ≤ temperature) := by
  have ordered := settings.tempOrdered
  have hysteresis := settings.tempHysteresisPositive
  omega

/-- Two iterations of the loop reach its exit. -/
theorem temperatureTransitions_exit (settings : Settings) (drive : PhysicalDrive) (temperature : ℤ)
    (initialState : TempState) : temperatureStep settings drive temperature
      (temperatureTransitions settings drive temperature initialState).2 = none := by
  rcases reading_bands settings temperature with ⟨cool, low, below, mild⟩ | ⟨warm, below, mild⟩ |
    ⟨warm, above, mild⟩ | ⟨warm, high, above, hot⟩
  · cases initialState <;>
      simp [temperatureTransitions, temperatureLoop, temperatureStep, cool, below, not_le.mpr low, not_le.mpr mild]
  · cases initialState with
    | ok =>
      by_cases high : settings.tempWarningCelsius ≤ temperature
      · simp [temperatureTransitions, temperatureLoop, temperatureStep, high, not_le.mpr mild, not_lt.mpr warm]
      · simp [temperatureTransitions, temperatureLoop, temperatureStep, high]
    | warning => simp [temperatureTransitions, temperatureLoop, temperatureStep, not_le.mpr mild, not_lt.mpr warm]
    | critical =>
      simp [temperatureTransitions, temperatureLoop, temperatureStep, below, not_le.mpr mild, not_lt.mpr warm]
  · cases initialState with
    | ok =>
      by_cases high : settings.tempWarningCelsius ≤ temperature
      · simp [temperatureTransitions, temperatureLoop, temperatureStep, high, not_le.mpr mild, not_lt.mpr warm]
      · simp [temperatureTransitions, temperatureLoop, temperatureStep, high]
    | warning => simp [temperatureTransitions, temperatureLoop, temperatureStep, not_le.mpr mild, not_lt.mpr warm]
    | critical => simp [temperatureTransitions, temperatureLoop, temperatureStep, not_lt.mpr above]
  · cases initialState <;>
      simp [temperatureTransitions, temperatureLoop, temperatureStep, high, hot, not_lt.mpr above]

/-- The event of a drive that reaches the critical state. -/
structure CriticalTemperatureEvent (drive : PhysicalDrive) (event : DetectedEvent) : Prop where
  severity : event.severity = .critical
  category : event.category = .temperature
  subject : event.subject = physicalDriveSubject drive
  state : event.afterField "state" = some (.str TempState.critical.name)

theorem criticalTemperatureEvent_of_step {state : TempState} {event : DetectedEvent}
    (stepped : temperatureStep settings drive temperature state = some (event, .critical)) :
    CriticalTemperatureEvent drive event := by
  unfold temperatureStep at stepped
  split at stepped <;> split_ifs at stepped <;> cases stepped
  exact ⟨rfl, rfl, rfl, rfl⟩

/-- A drive reaches the critical state through a critical event, unless it starts there. -/
theorem temperatureLoop_critical {fuel : ℕ} {state : TempState}
    (critical : (temperatureLoop settings drive temperature fuel state).2 = .critical) :
    state = .critical ∨
      ∃ event ∈ (temperatureLoop settings drive temperature fuel state).1,
        CriticalTemperatureEvent drive event := by
  induction fuel generalizing state with
  | zero => exact .inl critical
  | succ fuel ih =>
    cases stepped : temperatureStep settings drive temperature state with
    | none =>
      simp only [temperatureLoop, stepped] at critical
      exact .inl critical
    | some result =>
      obtain ⟨event, next⟩ := result
      simp only [temperatureLoop, stepped] at critical ⊢
      right
      rcases ih critical with rfl | ⟨later, member, alert⟩
      · exact ⟨event, List.mem_cons_self, criticalTemperatureEvent_of_step stepped⟩
      · exact ⟨later, List.mem_cons_of_mem _ member, alert⟩

end Temperature

section States

variable {settings : Settings} {table : TempStateTable} {previous : Option ControllerSnapshot}
  {current : StorcliSnapshot} {drive : PhysicalDrive}

/-- Where the detector starts the temperature of a drive. -/
theorem initialTemperatureState_eq (states : TempStateTable)
    (unique : (current.physicalDrives.map slotKey).Nodup) (member : drive ∈ current.physicalDrives) :
    initialTemperatureState settings states previous (previousReplacedSlots previous current) drive =
      if previous.isSome && (sameDrive previous drive).isNone then .ok
      else ((states.lookup (driveKey drive)).or
        (temperatureStateFromPrevious settings previous (driveKey drive))).getD .ok := by
  rw [initialTemperatureState, contains_previousReplacedSlots unique member]

theorem driveKeys_nodup (unique : (current.physicalDrives.map slotKey).Nodup) :
    (current.physicalDrives.map driveKey).Nodup := by
  have slots : current.physicalDrives.map slotKey = (current.physicalDrives.map driveKey).map DriveKey.slot := by
    rw [List.map_map]
    rfl
  exact (slots ▸ unique).of_map _

/-- The drives with a reading are updated, in the order of the snapshot. -/
theorem temperatureUpdates_keys (settings : Settings) (states : TempStateTable)
    (previous : Option ControllerSnapshot) (current : StorcliSnapshot) (slots : List SlotKey) :
    (temperatureUpdates settings states previous current slots).map Prod.fst =
      (current.physicalDrives.filter fun drive => drive.temperatureCelsius.isSome).map driveKey := by
  unfold temperatureUpdates
  induction current.physicalDrives with
  | nil => rfl
  | cons drive rest ih =>
    have read : (driveTransitions settings states previous slots drive).isSome = drive.temperatureCelsius.isSome :=
      Option.isSome_map
    cases transitions : driveTransitions settings states previous slots drive with
    | none =>
      rw [transitions] at read
      simp [transitions, ← read, ih]
    | some result =>
      rw [transitions] at read
      simp [transitions, ← read, ih]

/-- The slots whose stored states a poll deletes. -/
def clearedSlots (previous : Option ControllerSnapshot) (current : StorcliSnapshot) : List SlotKey :=
  match previous with
  | none => []
  | some previous => temperatureClears previous current

theorem mem_clearedSlots_of_mem (unique : (current.physicalDrives.map slotKey).Nodup)
    (member : drive ∈ current.physicalDrives) :
    slotKey drive ∈ clearedSlots previous current ↔
      previous.isSome = true ∧ sameDrive previous drive = none := by
  cases previous with
  | none => simp [clearedSlots]
  | some snapshot =>
    have occupied : slotKey drive ∉ (absentDrives snapshot current).map snapshotSlotKey := by
      intro absent
      obtain ⟨before, missing, slot⟩ := List.mem_map.mp absent
      have empty := (List.mem_filter.mp missing).2
      rw [slot, Bool.not_eq_true', ← Bool.not_eq_true, List.contains_iff_mem] at empty
      exact empty (List.mem_map_of_mem member)
    have replacement : (replacedSlots snapshot current).contains (slotKey drive) = replaced snapshot drive :=
      contains_replacedSlots unique member
    rw [replaced_eq, Bool.eq_iff_iff, List.contains_iff_mem, Option.isNone_iff_eq_none] at replacement
    simp only [clearedSlots, temperatureClears, List.mem_append, occupied, false_or, replacement,
      Option.isSome_some, true_and]

/-- The stored states of a drive that has gone are deleted with its slot. -/
theorem slot_mem_clearedSlots_of_gone {snapshot : ControllerSnapshot} {before : PhysicalDriveSnapshot}
    (unique : (current.physicalDrives.map slotKey).Nodup)
    (uniqueBefore : (snapshot.physicalDrives.map snapshotSlotKey).Nodup)
    (member : before ∈ snapshot.physicalDrives)
    (gone : ∀ drive ∈ current.physicalDrives, driveKey drive ≠ before.key) :
    before.key.slot ∈ clearedSlots (some snapshot) current := by
  by_cases occupied : snapshotSlotKey before ∈ current.physicalDrives.map slotKey
  · obtain ⟨drive, present, slot⟩ := List.mem_map.mp occupied
    have slots : before.key.slot = slotKey drive := slot.symm
    rw [slots, mem_clearedSlots_of_mem unique present]
    refine ⟨rfl, ?_⟩
    cases same : sameDrive (some snapshot) drive with
    | none => rfl
    | some other =>
      obtain ⟨_, found, otherMember, key⟩ := sameDrive_some same
      obtain rfl := Option.some.inj found
      have sameSlot : snapshotSlotKey other = snapshotSlotKey before := (congrArg DriveKey.slot key).trans slot
      obtain rfl := List.inj_on_of_nodup_map uniqueBefore otherMember member sameSlot
      exact absurd key.symm (gone drive present)
  · refine List.mem_append_left _ (List.mem_map_of_mem (List.mem_filter.mpr ⟨member, ?_⟩))
    rw [Bool.not_eq_true', ← Bool.not_eq_true, List.contains_iff_mem]
    exact occupied

theorem lookup_clears (detector : EventDetector) (table : TempStateTable) (key : DriveKey) :
    (detector.temperatureClears.foldl (fun table slot => table.filterKeys fun key => key.slot != slot)
      table).lookup key = if key.slot ∈ detector.temperatureClears then none else table.lookup key := by
  rw [AList.lookup_foldl_filterKeys (fun (slot : SlotKey) (key : DriveKey) => key.slot != slot)]
  by_cases cleared : key.slot ∈ detector.temperatureClears
  · rw [if_pos cleared, if_neg]
    intro kept
    have distinct := kept key.slot cleared
    simp at distinct
  · rw [if_neg cleared, if_pos]
    intro slot member
    rw [bne_iff_ne]
    rintro rfl
    exact cleared member

/-! The table that a poll leaves behind. -/

variable [PyText] {world : World}

omit [PyText] in
/-- The detection of a poll starts from the stored state of each of its drives. -/
theorem lookup_loadTemperatureStates (member : drive ∈ current.physicalDrives) :
    (loadTemperatureStates world.db current).lookup (driveKey drive) =
      world.db.tempStates.lookup (driveKey drive) := by
  rw [loadTemperatureStates, AList.lookup_filterKeys, if_pos]
  exact List.contains_iff_mem.mpr (List.mem_map_of_mem member)

/-- The state from which the detection of a poll starts a drive. -/
def World.startState (settings : Settings) (world : World) (drive : PhysicalDrive) : TempState :=
  if world.db.latestSnapshot.isSome && (sameDrive world.db.latestSnapshot drive).isNone then .ok
  else ((world.db.tempStates.lookup (driveKey drive)).or
    (temperatureStateFromPrevious settings world.db.latestSnapshot (driveKey drive))).getD .ok

omit [PyText] in
theorem initialTemperatureState_poll (unique : (current.physicalDrives.map slotKey).Nodup)
    (member : drive ∈ current.physicalDrives) :
    initialTemperatureState settings (loadTemperatureStates world.db current) world.db.latestSnapshot
      (previousReplacedSlots world.db.latestSnapshot current) drive =
      world.startState settings drive := by
  rw [initialTemperatureState_eq _ unique member, lookup_loadTemperatureStates member]
  rfl

theorem nextTemperatureStates_of_reading {temperature : ℤ}
    (unique : (current.physicalDrives.map slotKey).Nodup) (member : drive ∈ current.physicalDrives)
    (reading : drive.temperatureCelsius = some temperature) :
    (nextTemperatureStates (world.detection settings current).2 world.db.tempStates).lookup (driveKey drive) =
      some (temperatureTransitions settings drive temperature (world.startState settings drive)).2 := by
  have update : (driveKey drive,
      (temperatureTransitions settings drive temperature (world.startState settings drive)).2) ∈
      (world.detection settings current).2.temperatureUpdates := by
    refine List.mem_filterMap.mpr ⟨drive, member, ?_⟩
    simp only [driveTransitions, reading, Option.map_some]
    rw [initialTemperatureState_poll unique member]
  refine AList.lookup_foldl_insert_of_mem ?_ update
  have keys := temperatureUpdates_keys settings (loadTemperatureStates world.db current)
    world.db.latestSnapshot current (previousReplacedSlots world.db.latestSnapshot current)
  exact keys ▸ (driveKeys_nodup unique).sublist (List.filter_sublist.map _)

/-- Without a reading nothing is written under the key. -/
theorem nextTemperatureStates_of_no_reading {key : DriveKey}
    (unread : ∀ drive ∈ current.physicalDrives, driveKey drive = key → drive.temperatureCelsius = none) :
    (nextTemperatureStates (world.detection settings current).2 world.db.tempStates).lookup key =
      if key.slot ∈ clearedSlots world.db.latestSnapshot current then none
      else world.db.tempStates.lookup key := by
  have fresh : key ∉ (world.detection settings current).2.temperatureUpdates.map Prod.fst := by
    have keys := temperatureUpdates_keys settings (loadTemperatureStates world.db current)
      world.db.latestSnapshot current (previousReplacedSlots world.db.latestSnapshot current)
    intro inside
    obtain ⟨drive, read, same⟩ := List.mem_map.mp (keys ▸ inside)
    obtain ⟨member, reading⟩ := List.mem_filter.mp read
    rw [unread drive member same] at reading
    cases reading
  rw [nextTemperatureStates, AList.lookup_foldl_insert_of_notMem fresh, lookup_clears]
  rfl

end States

end MegaraidDashboard.Services
