import MegaraidDashboard.Model.Services.EventDetector
import MegaraidDashboard.ToMathlib.ListQueries

/-! # Events of one detection

Attaching the serial changes no field but the serial, so an event of a part of the detection is an
event of the whole with the same severity, category, subject and dimension.
-/

namespace MegaraidDashboard.Services

open Db Storcli

/-- A field of an event's after object. -/
def DetectedEvent.afterField (event : DetectedEvent) (field : String) : Option Scalar :=
  event.after.bind (·.get field)

section AttachSerial

variable (current : StorcliSnapshot) (event : DetectedEvent)

@[simp] theorem attachSerial_severity : (attachSerial current event).severity = event.severity := by
  unfold attachSerial; split <;> rfl

@[simp] theorem attachSerial_category : (attachSerial current event).category = event.category := by
  unfold attachSerial; split <;> rfl

@[simp] theorem attachSerial_subject : (attachSerial current event).subject = event.subject := by
  unfold attachSerial; split <;> rfl

@[simp] theorem attachSerial_summary : (attachSerial current event).summary = event.summary := by
  unfold attachSerial; split <;> rfl

@[simp] theorem attachSerial_before : (attachSerial current event).before = event.before := by
  unfold attachSerial; split <;> rfl

theorem attachSerial_afterField {field : String} (other : "serial_number" ≠ field) :
    (attachSerial current event).afterField field = event.afterField field := by
  unfold attachSerial
  split
  · rfl
  · cases after : event.after with
    | none => simp [DetectedEvent.afterField, after, Payload.get_set, other]
    | some payload => simp [DetectedEvent.afterField, after, Payload.get_set, other]

end AttachSerial

/-- The event of a drive in the snapshot names the serial of that drive. -/
theorem attachSerial_serial {current : StorcliSnapshot} {event : DetectedEvent} {drive : PhysicalDrive}
    (unique : (current.physicalDrives.map slotKey).Nodup) (member : drive ∈ current.physicalDrives)
    (subject : event.subject = physicalDriveSubject drive) :
    (attachSerial current event).afterField "serial_number" = some (.str drive.serialNumber) := by
  have sameSubject : (fun other => physicalDriveSubject other == event.subject) =
      fun other => slotKey other == slotKey drive := by
    funext other
    simp only [subject, physicalDriveSubject, slotKey, Bool.beq_eq_decide_eq, Subject.physicalDrive.injEq,
      Prod.mk.injEq]
  have found := List.find?_key_of_mem unique member
  rw [← sameSubject] at found
  simp only [attachSerial, found, DetectedEvent.afterField, Option.bind_some, Payload.get_set, ↓reduceIte]

section Parts

variable [PyText] {settings : Settings} {detector : EventDetector} {previous : Option ControllerSnapshot}
  {current : StorcliSnapshot} {event : DetectedEvent}

/-- The four parts of a detection. -/
theorem mem_detectedEvents_iff : event ∈ detectedEvents settings detector previous current ↔
    ∃ part, event = attachSerial current part ∧
      (part ∈ comparisonEvents settings previous current ∨
        part ∈ detectRocTemperature settings previous current ∨
        part ∈ detectTemperatures settings detector.temperatureStates previous current
          (previousReplacedSlots previous current) ∨
        part ∈ detectForeignConfig detector.previousForeignConfigPresent current.foreignConfig) := by
  simp only [detectedEvents, List.mem_map, List.mem_append, or_assoc]
  constructor
  · rintro ⟨part, member, rfl⟩
    exact ⟨part, rfl, member⟩
  · rintro ⟨part, rfl, member⟩
    exact ⟨part, member, rfl⟩

end Parts

/-! ## Categories -/

section Categories

/-- The category of an event that both counter functions can emit. -/
def counterCategories : List Category := [.mediaErrors, .otherErrors, .predictiveFailures]

private theorem category_mem_counterCategories {field : CounterField} (member : field ∈ counterFields) :
    field.category ∈ counterCategories := by
  simp only [counterFields, List.mem_cons, List.not_mem_nil, or_false] at member
  rcases member with rfl | rfl | rfl
  all_goals simp [counterCategories]

theorem category_of_mem_newCounterEvents {drive : PhysicalDrive} {event : DetectedEvent}
    (member : event ∈ newCounterEvents drive) : event.category ∈ counterCategories := by
  obtain ⟨field, present, made⟩ := List.mem_filterMap.mp member
  simp only [Option.ite_none_left_eq_some, Option.some.injEq] at made
  obtain ⟨_, rfl⟩ := made
  exact category_mem_counterCategories present

theorem category_of_mem_counterEvents {previous : PhysicalDriveSnapshot} {drive : PhysicalDrive}
    {event : DetectedEvent} (member : event ∈ counterEvents previous drive) :
    event.category ∈ counterCategories := by
  obtain ⟨field, present, made⟩ := List.mem_filterMap.mp member
  simp only [Option.ite_none_left_eq_some, Option.some.injEq] at made
  obtain ⟨_, rfl⟩ := made
  exact category_mem_counterCategories present

theorem category_of_mem_temperatureLoop {settings : Settings} {drive : PhysicalDrive} {temperature : ℤ}
    {fuel : ℕ} {state : TempState} {event : DetectedEvent}
    (member : event ∈ (temperatureLoop settings drive temperature fuel state).1) :
    event.category = .temperature := by
  induction fuel generalizing state with
  | zero => cases member
  | succ fuel ih =>
    simp only [temperatureLoop] at member
    split at member
    · cases member
    · next first next stepped =>
      rcases List.mem_cons.mp member with rfl | later
      · unfold temperatureStep at stepped
        split at stepped <;> split_ifs at stepped <;> cases stepped <;> rfl
      · exact ih later

theorem category_of_mem_detectTemperatures {settings : Settings} {states : TempStateTable}
    {previous : Option ControllerSnapshot} {current : StorcliSnapshot} {slots : List SlotKey}
    {event : DetectedEvent} (member : event ∈ detectTemperatures settings states previous current slots) :
    event.category = .temperature := by
  obtain ⟨drive, _, inside⟩ := List.mem_flatMap.mp member
  unfold driveTransitions at inside
  cases reading : drive.temperatureCelsius with
  | none => simp [reading] at inside
  | some temperature =>
    simp only [reading, Option.map_some, Option.getD_some] at inside
    exact category_of_mem_temperatureLoop inside

theorem category_of_mem_detectRocTemperature {settings : Settings} {previous : Option ControllerSnapshot}
    {current : StorcliSnapshot} {event : DetectedEvent}
    (member : event ∈ detectRocTemperature settings previous current) :
    event.category = .controllerTemperature := by
  unfold detectRocTemperature at member
  split at member
  · cases member
  · simp only [List.mem_append, List.mem_ite_nil_right, List.mem_singleton] at member
    rcases member with ⟨_, rfl⟩ | ⟨_, rfl⟩ <;> rfl
  · simp only [List.mem_append, List.mem_ite_nil_right, List.mem_singleton] at member
    rcases member with ((⟨_, rfl⟩ | ⟨_, rfl⟩) | ⟨_, rfl⟩) | ⟨_, rfl⟩ <;> rfl

theorem category_of_mem_detectForeignConfig {present : Option Bool} {config : Option ForeignConfig}
    {event : DetectedEvent} (member : event ∈ detectForeignConfig present config) :
    event.category = .foreignConfigDetected := by
  unfold detectForeignConfig at member
  split at member
  · cases member
  · split_ifs at member
    · obtain rfl := List.mem_singleton.mp member
      rfl
    · obtain rfl := List.mem_singleton.mp member
      rfl
    · cases member

variable [PyText]

theorem category_of_mem_newPhysicalDriveEvents {drive : PhysicalDrive} {event : DetectedEvent}
    (member : event ∈ newPhysicalDriveEvents drive) :
    event.category = .pdState ∨ event.category = .smartAlert ∨ event.category ∈ counterCategories := by
  simp only [newPhysicalDriveEvents, List.mem_append, List.mem_ite_nil_left, List.mem_ite_nil_right,
    List.mem_singleton] at member
  rcases member with (⟨_, rfl⟩ | counter) | ⟨_, rfl⟩
  · exact .inl rfl
  · exact .inr (.inr (category_of_mem_newCounterEvents counter))
  · exact .inr (.inl rfl)

theorem category_of_mem_detectPhysicalDrives {previous : ControllerSnapshot} {current : StorcliSnapshot}
    {slots : List SlotKey} {event : DetectedEvent}
    (member : event ∈ detectPhysicalDrives previous current slots) :
    event.category = .pdState ∨ event.category = .smartAlert ∨ event.category ∈ counterCategories := by
  obtain ⟨drive, _, inside⟩ := List.mem_flatMap.mp member
  unfold physicalDriveEvents at inside
  split at inside
  · exact category_of_mem_newPhysicalDriveEvents inside
  · split at inside
    · split at inside
      · simp only [List.mem_append, List.mem_cons, List.mem_ite_nil_right, List.not_mem_nil, or_false] at inside
        rcases inside with (rfl | counter) | ⟨_, rfl⟩
        · exact .inl rfl
        · exact .inr (.inr (category_of_mem_newCounterEvents counter))
        · exact .inr (.inl rfl)
      · exact category_of_mem_newPhysicalDriveEvents inside
    · simp only [List.mem_append, List.mem_ite_nil_right, List.mem_singleton] at inside
      rcases inside with (⟨_, rfl⟩ | counter) | ⟨_, rfl⟩
      · exact .inl rfl
      · exact .inr (.inr (category_of_mem_counterEvents counter))
      · exact .inr (.inl rfl)

omit [PyText] in
theorem category_of_mem_detectDriveReplacements {previous : ControllerSnapshot} {current : StorcliSnapshot}
    {event : DetectedEvent} (member : event ∈ detectDriveReplacements previous current) :
    event.category = .pdState := by
  rcases List.mem_append.mp member with absent | present
  · obtain ⟨drive, _, rfl⟩ := List.mem_map.mp absent
    rfl
  · obtain ⟨drive, _, inside⟩ := List.mem_flatMap.mp present
    unfold replacementEvents at inside
    split at inside
    · obtain rfl := List.mem_singleton.mp inside
      rfl
    · split at inside
      · cases inside
      · obtain rfl := List.mem_singleton.mp inside
        rfl

theorem category_of_mem_newVirtualDriveEvent {drive : VirtualDrive} {event : DetectedEvent}
    (made : newVirtualDriveEvent drive = some event) : event.category = .vdState := by
  simp only [newVirtualDriveEvent, Option.ite_none_left_eq_some, Option.some.injEq] at made
  obtain ⟨_, rfl⟩ := made
  rfl

theorem category_of_mem_detectVirtualDrives {previous : ControllerSnapshot} {current : StorcliSnapshot}
    {event : DetectedEvent} (member : event ∈ detectVirtualDrives previous current) :
    event.category = .vdState := by
  rcases List.mem_append.mp member with known | present
  · obtain ⟨drive, _, inside⟩ := List.mem_flatMap.mp known
    unfold previousVirtualDriveEvents at inside
    split at inside
    · obtain rfl := List.mem_singleton.mp inside
      rfl
    · split at inside
      · cases inside
      · obtain rfl := List.mem_singleton.mp inside
        rfl
  · obtain ⟨drive, _, inside⟩ := List.mem_flatMap.mp present
    unfold currentVirtualDriveEvents at inside
    split at inside
    · cases inside
    · rcases List.mem_cons.mp inside with rfl | new
      · rfl
      · exact category_of_mem_newVirtualDriveEvent (Option.mem_toList.mp new)

theorem category_of_mem_newCachevaultEvents {settings : Settings} {cachevault : CacheVault}
    {event : DetectedEvent} (member : event ∈ newCachevaultEvents settings cachevault) :
    event.category = .cvState := by
  simp only [newCachevaultEvents, List.mem_append, List.mem_ite_nil_left, List.mem_ite_nil_right,
    List.mem_singleton] at member
  rcases member with (⟨_, rfl⟩ | ⟨_, rfl⟩) | capacitance
  · rfl
  · rfl
  · split at capacitance
    · cases capacitance
    · obtain ⟨_, made⟩ := List.mem_ite_nil_right.mp capacitance
      obtain rfl := List.mem_singleton.mp made
      rfl

theorem category_of_mem_detectCachevault {settings : Settings} {previous : ControllerSnapshot}
    {current : StorcliSnapshot} {event : DetectedEvent}
    (member : event ∈ detectCachevault settings previous current) : event.category = .cvState := by
  unfold detectCachevault at member
  split at member
  · split_ifs at member
    · cases member
    · cases member
    · obtain rfl := List.mem_singleton.mp member
      rfl
  · rcases List.mem_append.mp member with detected | new
    · obtain ⟨_, made⟩ := List.mem_ite_nil_left.mp detected
      obtain rfl := List.mem_singleton.mp made
      rfl
    · exact category_of_mem_newCachevaultEvents new
  · simp only [cachevaultChangeEvents, List.mem_append, List.mem_ite_nil_right, List.mem_singleton] at member
    rcases member with (⟨_, rfl⟩ | ⟨_, rfl⟩) | capacitance
    · rfl
    · rfl
    · split at capacitance
      · cases capacitance
      · obtain ⟨_, made⟩ := List.mem_ite_nil_right.mp capacitance
        obtain rfl := List.mem_singleton.mp made
        rfl

/-- The categories of the events that compare two snapshots. -/
def comparisonCategories : List Category :=
  [.controllerAlarmSettingChanged, .vdState, .pdState, .smartAlert, .cvState] ++ counterCategories

theorem category_of_mem_comparisonEvents {settings : Settings} {previous : Option ControllerSnapshot}
    {current : StorcliSnapshot} {event : DetectedEvent}
    (member : event ∈ comparisonEvents settings previous current) :
    event.category ∈ comparisonCategories := by
  have drives (mixed : event.category = .pdState ∨ event.category = .smartAlert ∨
      event.category ∈ counterCategories) : event.category ∈ comparisonCategories := by
    rcases mixed with category | category | counter
    · simp [category, comparisonCategories]
    · simp [category, comparisonCategories]
    · exact List.mem_append_right _ counter
  unfold comparisonEvents at member
  split at member
  · simp only [detectBaseline, List.mem_append] at member
    rcases member with (virtual | physical) | cachevault
    · obtain ⟨drive, _, made⟩ := List.mem_filterMap.mp virtual
      simp [category_of_mem_newVirtualDriveEvent made, comparisonCategories]
    · obtain ⟨drive, _, made⟩ := List.mem_flatMap.mp physical
      exact drives (category_of_mem_newPhysicalDriveEvents made)
    · split at cachevault
      · simp [category_of_mem_newCachevaultEvents cachevault, comparisonCategories]
      · obtain ⟨_, made⟩ := List.mem_ite_nil_left.mp cachevault
        obtain rfl := List.mem_singleton.mp made
        simp [comparisonCategories]
  · simp only [List.mem_append] at member
    rcases member with (((controller | virtual) | replacement) | physical) | cachevault
    · obtain ⟨_, made⟩ := List.mem_ite_nil_left.mp controller
      obtain rfl := List.mem_singleton.mp made
      simp [comparisonCategories]
    · simp [category_of_mem_detectVirtualDrives virtual, comparisonCategories]
    · simp [category_of_mem_detectDriveReplacements replacement, comparisonCategories]
    · exact drives (category_of_mem_detectPhysicalDrives physical)
    · simp [category_of_mem_detectCachevault cachevault, comparisonCategories]

/-- The detector never writes to the category that the collector keeps its outages in. -/
theorem category_ne_system_of_mem_detectedEvents {settings : Settings} {detector : EventDetector}
    {previous : Option ControllerSnapshot} {current : StorcliSnapshot} {event : DetectedEvent}
    (member : event ∈ detectedEvents settings detector previous current) : event.category ≠ .system := by
  obtain ⟨part, rfl, inside⟩ := mem_detectedEvents_iff.mp member
  rw [attachSerial_category]
  rcases inside with comparison | roc | temperature | foreign
  · intro system
    have listed := category_of_mem_comparisonEvents comparison
    rw [system] at listed
    exact absurd listed (by decide)
  · simp [category_of_mem_detectRocTemperature roc]
  · simp [category_of_mem_detectTemperatures temperature]
  · simp [category_of_mem_detectForeignConfig foreign]

end Categories

end MegaraidDashboard.Services
