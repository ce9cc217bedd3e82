import MegaraidDashboard.Soundness.CriticalConditions

/-! # Drive temperatures and their history

The stored temperature state of a drive is a function of the readings since the drive appeared: each
level holds when its threshold was reached and no later reading fell below its clearing boundary. The
events of a poll are the way from the state before the poll to the state after it.
-/

namespace MegaraidDashboard.Services

open Db Storcli

/-- In readings with the newest first, the high threshold was reached and no later reading fell below
the low one. -/
def Latched (high low : ℤ) (readings : List ℤ) : Prop :=
  ∃ later reading earlier, readings = later ++ reading :: earlier ∧ high ≤ reading ∧
    ∀ other ∈ later, low ≤ other

theorem not_latched_nil (high low : ℤ) : ¬Latched high low [] := by
  rintro ⟨later, reading, earlier, same, -⟩
  simp at same

theorem latched_cons {high low reading : ℤ} {readings : List ℤ} :
    Latched high low (reading :: readings) ↔
      high ≤ reading ∨ low ≤ reading ∧ Latched high low readings := by
  constructor
  · rintro ⟨later, reached, earlier, same, high, kept⟩
    cases later with
    | nil =>
      obtain ⟨rfl, rfl⟩ := List.cons.inj same
      exact .inl high
    | cons newest later =>
      obtain ⟨rfl, rfl⟩ := List.cons.inj same
      refine .inr ⟨kept _ List.mem_cons_self, later, reached, earlier, rfl, high, ?_⟩
      intro other member
      exact kept other (List.mem_cons_of_mem _ member)
  · rintro (reached | ⟨kept, later, old, earlier, rfl, reached, keptLater⟩)
    · exact ⟨[], reading, readings, rfl, reached, nofun⟩
    · refine ⟨reading :: later, old, earlier, rfl, reached, ?_⟩
      intro other member
      rcases List.mem_cons.mp member with rfl | inside
      · exact kept
      · exact keptLater other inside

/-- The state changes on the way from one state to another. -/
def temperaturePath : TempState → TempState → List (TempState × TempState)
  | .ok, .warning => [(.ok, .warning)]
  | .ok, .critical => [(.ok, .warning), (.warning, .critical)]
  | .warning, .ok => [(.warning, .ok)]
  | .warning, .critical => [(.warning, .critical)]
  | .critical, .ok => [(.critical, .warning), (.warning, .ok)]
  | .critical, .warning => [(.critical, .warning)]
  | _, _ => []

/-- The change that a temperature event records in its before and after objects. -/
def DetectedEvent.recordsChange (event : DetectedEvent) (change : TempState × TempState) : Prop :=
  event.before.bind (·.get "state") = some (.str change.1.name) ∧
    event.afterField "state" = some (.str change.2.name)

section Transitions

variable {settings : Settings} {drive : PhysicalDrive} {temperature : ℤ} {start : TempState}

/-- The state after a reading, by its two levels. -/
theorem temperatureTransitions_levels :
    ((temperatureTransitions settings drive temperature start).2 = .critical ↔
      settings.tempCriticalCelsius ≤ temperature ∨
        settings.tempCriticalCelsius - settings.tempHysteresisCelsius ≤ temperature ∧ start = .critical) ∧
    ((temperatureTransitions settings drive temperature start).2 ≠ .ok ↔
      settings.tempWarningCelsius ≤ temperature ∨
        settings.tempWarningCelsius - settings.tempHysteresisCelsius ≤ temperature ∧ start ≠ .ok) := by
  have ordered := settings.tempOrdered
  have hysteresis := settings.tempHysteresisPositive
  rcases reading_bands settings temperature with ⟨cool, low, below, mild⟩ | ⟨warm, below, mild⟩ |
    ⟨warm, above, mild⟩ | ⟨warm, high, above, hot⟩
  · cases start <;>
      simp [temperatureTransitions, temperatureLoop, temperatureStep, cool, below, not_le.mpr low,
        not_le.mpr mild, not_le.mpr below, not_le.mpr cool]
  · cases start with
    | ok =>
      by_cases high : settings.tempWarningCelsius ≤ temperature <;>
        simp [temperatureTransitions, temperatureLoop, temperatureStep, high, not_le.mpr mild, not_lt.mpr warm]
    | warning =>
      simp [temperatureTransitions, temperatureLoop, temperatureStep, not_le.mpr mild, not_lt.mpr warm]
      omega
    | critical =>
      simp [temperatureTransitions, temperatureLoop, temperatureStep, below, not_le.mpr mild, not_lt.mpr warm]
      omega
  · cases start with
    | ok =>
      by_cases high : settings.tempWarningCelsius ≤ temperature <;>
        simp [temperatureTransitions, temperatureLoop, temperatureStep, high, not_le.mpr mild, not_lt.mpr warm]
    | warning =>
      simp [temperatureTransitions, temperatureLoop, temperatureStep, not_le.mpr mild, not_lt.mpr warm]
      omega
    | critical =>
      simp [temperatureTransitions, temperatureLoop, temperatureStep, not_lt.mpr above]
      omega
  · cases start <;>
      simp [temperatureTransitions, temperatureLoop, temperatureStep, high, hot, not_lt.mpr above]

@[simp] theorem recordsChange_temperatureEvent (severity : Severity) (summary : String)
    (before after : TempState) :
    (temperatureEvent drive severity summary before after).recordsChange (before, after) := ⟨rfl, rfl⟩

/-- The events of a reading are the way from the state before it to the state after it. -/
theorem temperatureTransitions_events : List.Forall₂ DetectedEvent.recordsChange
    (temperatureTransitions settings drive temperature start).1
    (temperaturePath start (temperatureTransitions settings drive temperature start).2) := by
  rcases reading_bands settings temperature with ⟨cool, low, below, mild⟩ | ⟨warm, below, mild⟩ |
    ⟨warm, above, mild⟩ | ⟨warm, high, above, hot⟩
  · cases start <;>
      simp [temperatureTransitions, temperatureLoop, temperatureStep, temperaturePath, cool, below,
        not_le.mpr low, not_le.mpr mild]
  · cases start with
    | ok =>
      by_cases high : settings.tempWarningCelsius ≤ temperature <;>
        simp [temperatureTransitions, temperatureLoop, temperatureStep, temperaturePath, high, not_le.mpr mild,
          not_lt.mpr warm]
    | warning =>
      simp [temperatureTransitions, temperatureLoop, temperatureStep, temperaturePath, not_le.mpr mild,
        not_lt.mpr warm]
    | critical =>
      simp [temperatureTransitions, temperatureLoop, temperatureStep, temperaturePath, below, not_le.mpr mild,
        not_lt.mpr warm]
  · cases start with
    | ok =>
      by_cases high : settings.tempWarningCelsius ≤ temperature <;>
        simp [temperatureTransitions, temperatureLoop, temperatureStep, temperaturePath, high, not_le.mpr mild,
          not_lt.mpr warm]
    | warning =>
      simp [temperatureTransitions, temperatureLoop, temperatureStep, temperaturePath, not_le.mpr mild,
        not_lt.mpr warm]
    | critical =>
      simp [temperatureTransitions, temperatureLoop, temperatureStep, temperaturePath, not_lt.mpr above]
  · cases start <;>
      simp [temperatureTransitions, temperatureLoop, temperatureStep, temperaturePath, high, hot, not_lt.mpr above]

theorem subject_of_mem_temperatureLoop {fuel : ℕ} {state : TempState} {event : DetectedEvent}
    (member : event ∈ (temperatureLoop settings drive temperature fuel state).1) :
    event.subject = physicalDriveSubject drive := by
  induction fuel generalizing state with
  | zero => cases member
  | succ fuel ih =>
    simp only [temperatureLoop] at member
    split at member
    · cases member
    · next first next stepped =>
      rcases List.mem_cons.mp member with rfl | later
      · unfold temperatureStep at stepped
        split at stepped <;> split_ifs at stepped <;> cases stepped <;> rfl
      · exact ih later

end Transitions

section Polls

variable [PyText] {settings : Settings} {clock : ℕ → ℤ} {run : DetectionRun} {snapshot : StorcliSnapshot}
  {drive : PhysicalDrive}

/-- The temperature events of one drive among the events of a poll. -/
def temperatureEventsOf (drive : PhysicalDrive) (events : List DetectedEvent) : List DetectedEvent :=
  events.filter fun event => event.category == .temperature && event.subject == physicalDriveSubject drive

omit [PyText] in
theorem temperatureEventsOf_eq_nil {events : List DetectedEvent}
    (others : ∀ event ∈ events, event.category ≠ .temperature) : temperatureEventsOf drive events = [] := by
  refine List.filter_eq_nil_iff.mpr ?_
  intro event inside same
  rw [Bool.and_eq_true, beq_iff_eq] at same
  exact others event inside same.1

omit [PyText] in
theorem temperatureEventsOf_append (drive : PhysicalDrive) (first second : List DetectedEvent) :
    temperatureEventsOf drive (first ++ second) =
      temperatureEventsOf drive first ++ temperatureEventsOf drive second := List.filter_append ..

omit [PyText] in
theorem temperatureEventsOf_map_attachSerial (drive : PhysicalDrive) (snapshot : StorcliSnapshot)
    (events : List DetectedEvent) : temperatureEventsOf drive (events.map (attachSerial snapshot)) =
      (temperatureEventsOf drive events).map (attachSerial snapshot) := by
  simp only [temperatureEventsOf, List.filter_map, Function.comp_def, attachSerial_category,
    attachSerial_subject]

/-- The stored state of a drive, `ok` without one. -/
def storedState (run : DetectionRun) (key : DriveKey) : TempState :=
  (run.world.db.tempStates.lookup key).getD .ok

omit [PyText] in
/-- A stored state belongs to a drive of the newest committed poll. -/
theorem sameDrive_of_stored (recorded : run.Recorded) {state : TempState}
    (stored : run.world.db.tempStates.lookup (driveKey drive) = some state) :
    ∃ before, sameDrive run.world.db.latestSnapshot drive = some before := by
  obtain ⟨record, newest, earlier, member, key⟩ := recorded.keys _ _ stored
  rcases recorded.latest with ⟨-, empty⟩ | ⟨id, _, rest, saved, history⟩
  · rw [empty] at newest
    cases newest
  · rw [history] at newest
    obtain rfl := Option.some.inj newest
    have accepted := recorded.accepted _ (by rw [history]; rfl)
    rw [saved]
    exact ⟨_, sameDrive_ofStorcli_of_mem accepted.slotsUnique member key⟩

omit [PyText] in
/-- The detection of a poll starts every drive in its stored state. -/
theorem startState_eq (recorded : run.Recorded) (settings : Settings) (drive : PhysicalDrive) :
    run.world.startState settings drive = storedState run (driveKey drive) := by
  rw [World.startState, storedState]
  cases stored : run.world.db.tempStates.lookup (driveKey drive) with
  | none =>
    rw [recorded.temperatureStateFromPrevious_eq_none settings stored]
    split <;> rfl
  | some state =>
    obtain ⟨before, same⟩ := sameDrive_of_stored recorded stored
    rw [same]
    simp

/-- A drive without a reading keeps its stored state, or stays without one. -/
theorem lookup_commit_of_no_reading (recorded : run.Recorded) (next : AcceptedLater run snapshot)
    (member : drive ∈ snapshot.physicalDrives) (unread : drive.temperatureCelsius = none) :
    (run.commit settings clock snapshot).world.db.tempStates.lookup (driveKey drive) =
      run.world.db.tempStates.lookup (driveKey drive) := by
  have unique : (snapshot.physicalDrives.map slotKey).Nodup := next.accepted.slotsUnique
  simp only [DetectionRun.commit, poll_tempStates]
  rw [nextTemperatureStates_of_no_reading]
  · split
    · next cleared =>
      obtain ⟨-, fresh⟩ := (mem_clearedSlots_of_mem unique member).mp cleared
      cases stored : run.world.db.tempStates.lookup (driveKey drive) with
      | none => rfl
      | some state =>
        obtain ⟨before, same⟩ := sameDrive_of_stored recorded stored
        rw [fresh] at same
        cases same
    · rfl
  · intro other otherMember key
    rw [List.inj_on_of_nodup_map (driveKeys_nodup unique) otherMember member key]
    exact unread

/-- A reading moves a drive on from its stored state. -/
theorem lookup_commit_of_reading {temperature : ℤ} (recorded : run.Recorded) (next : AcceptedLater run snapshot)
    (member : drive ∈ snapshot.physicalDrives) (reading : drive.temperatureCelsius = some temperature) :
    (run.commit settings clock snapshot).world.db.tempStates.lookup (driveKey drive) =
      some (temperatureTransitions settings drive temperature (storedState run (driveKey drive))).2 := by
  simp only [DetectionRun.commit, poll_tempStates]
  rw [nextTemperatureStates_of_reading next.accepted.slotsUnique member reading,
    startState_eq recorded settings drive]

omit [PyText] in
theorem driveSubjects_nodup (unique : (snapshot.physicalDrives.map slotKey).Nodup) :
    (snapshot.physicalDrives.map physicalDriveSubject).Nodup := by
  refine List.Nodup.map_on ?_ (List.Nodup.of_map _ unique)
  intro first firstMember second secondMember same
  refine List.inj_on_of_nodup_map unique firstMember secondMember ?_
  simp only [physicalDriveSubject, Subject.physicalDrive.injEq] at same
  simp only [slotKey, same]

/-- The temperature events of a drive in a poll come from its own reading. -/
theorem temperatureEventsOf_detection (recorded : run.Recorded) (next : AcceptedLater run snapshot)
    (member : drive ∈ snapshot.physicalDrives) :
    temperatureEventsOf drive (run.world.detection settings snapshot).1 =
      ((drive.temperatureCelsius.map fun temperature => (temperatureTransitions settings drive temperature
        (storedState run (driveKey drive))).1).getD []).map (attachSerial snapshot) := by
  have unique : (snapshot.physicalDrives.map slotKey).Nodup := next.accepted.slotsUnique
  have comparison : temperatureEventsOf drive
      (comparisonEvents settings run.world.db.latestSnapshot snapshot) = [] := by
    apply temperatureEventsOf_eq_nil
    intro event inside temperature
    have listed := category_of_mem_comparisonEvents inside
    rw [temperature] at listed
    exact absurd listed (by decide)
  have roc : temperatureEventsOf drive
      (detectRocTemperature settings run.world.db.latestSnapshot snapshot) = [] := by
    apply temperatureEventsOf_eq_nil
    intro event inside
    simp [category_of_mem_detectRocTemperature inside]
  have foreign : temperatureEventsOf drive (detectForeignConfig run.world.detector.previousForeignConfigPresent
      snapshot.foreignConfig) = [] := by
    apply temperatureEventsOf_eq_nil
    intro event inside
    simp [category_of_mem_detectForeignConfig inside]
  have own : temperatureEventsOf drive (detectTemperatures settings (loadTemperatureStates run.world.db snapshot)
      run.world.db.latestSnapshot snapshot (previousReplacedSlots run.world.db.latestSnapshot snapshot)) =
      (drive.temperatureCelsius.map fun temperature => (temperatureTransitions settings drive temperature
        (storedState run (driveKey drive))).1).getD [] := by
    have category : ∀ event ∈ detectTemperatures settings (loadTemperatureStates run.world.db snapshot)
        run.world.db.latestSnapshot snapshot (previousReplacedSlots run.world.db.latestSnapshot snapshot),
        (event.category == .temperature && event.subject == physicalDriveSubject drive) =
          (event.subject == physicalDriveSubject drive) := by
      intro event inside
      simp [category_of_mem_detectTemperatures inside]
    rw [temperatureEventsOf, List.filter_congr category, detectTemperatures,
      List.filter_flatMap_of_unique_key (driveSubjects_nodup unique) ?_ member]
    · simp only [driveTransitions, initialTemperatureState_poll unique member,
        startState_eq recorded settings drive, Option.map_map, Function.comp_def]
    · intro other otherMember event inside
      unfold driveTransitions at inside
      cases reading : other.temperatureCelsius with
      | none => simp [reading] at inside
      | some temperature =>
        simp only [reading, Option.map_some, Option.getD_some] at inside
        exact subject_of_mem_temperatureLoop inside
  have parts : temperatureEventsOf drive (run.world.detection settings snapshot).1 =
      (temperatureEventsOf drive (comparisonEvents settings run.world.db.latestSnapshot snapshot ++
        detectRocTemperature settings run.world.db.latestSnapshot snapshot ++
        detectTemperatures settings (loadTemperatureStates run.world.db snapshot) run.world.db.latestSnapshot
          snapshot (previousReplacedSlots run.world.db.latestSnapshot snapshot) ++
        detectForeignConfig run.world.detector.previousForeignConfigPresent snapshot.foreignConfig)).map
        (attachSerial snapshot) := temperatureEventsOf_map_attachSerial drive snapshot _
  rw [parts, temperatureEventsOf_append, temperatureEventsOf_append, temperatureEventsOf_append, comparison, roc,
    own, foreign, List.append_nil, List.nil_append, List.nil_append]

end Polls

/-! ## Runs -/

section Runs

def hasDrive (key : DriveKey) (record : PollRecord) : Bool :=
  record.snapshot.physicalDrives.any fun drive => driveKey drive == key

def readingOf (key : DriveKey) (record : PollRecord) : Option ℤ :=
  (record.snapshot.physicalDrives.find? fun drive => driveKey drive == key).bind (·.temperatureCelsius)

/-- The readings of a drive since it appeared, newest first. -/
def presentReadings (history : List PollRecord) (key : DriveKey) : List ℤ :=
  (history.takeWhile (hasDrive key)).filterMap (readingOf key)

variable [PyText] {settings : Settings} {clock : ℕ → ℤ} {run : DetectionRun} {snapshot : StorcliSnapshot}

theorem presentReadings_commit_of_mem {drive : PhysicalDrive} (next : AcceptedLater run snapshot)
    (member : drive ∈ snapshot.physicalDrives) :
    presentReadings (run.commit settings clock snapshot).history (driveKey drive) =
      drive.temperatureCelsius.toList ++ presentReadings run.history (driveKey drive) := by
  have present (events : List DetectedEvent) (states : TempStateTable) :
      hasDrive (driveKey drive) ⟨snapshot, events, states⟩ = true :=
    List.any_eq_true.mpr ⟨drive, member, beq_self_eq_true _⟩
  have found := List.find?_key_of_mem (driveKeys_nodup next.accepted.slotsUnique) member
  simp only [presentReadings, DetectionRun.commit, List.takeWhile_cons, present, ↓reduceIte,
    List.filterMap_cons, readingOf, found, Option.bind_some]
  cases drive.temperatureCelsius <;> rfl

theorem presentReadings_commit_of_notMem {key : DriveKey}
    (absent : ∀ drive ∈ snapshot.physicalDrives, driveKey drive ≠ key) :
    presentReadings (run.commit settings clock snapshot).history key = [] := by
  have gone (events : List DetectedEvent) (states : TempStateTable) :
      hasDrive key ⟨snapshot, events, states⟩ = false := by
    refine List.any_eq_false.mpr ?_
    intro drive member same
    exact absent drive member (beq_iff_eq.mp same)
  simp only [presentReadings, DetectionRun.commit, List.takeWhile_cons, gone, Bool.false_eq_true, ↓reduceIte,
    List.filterMap_nil]

/-- The stored states are those of the histories. -/
def DetectionRun.StatesFollow (settings : Settings) (run : DetectionRun) : Prop :=
  ∀ key, (storedState run key = .critical ↔
      Latched settings.tempCriticalCelsius (settings.tempCriticalCelsius - settings.tempHysteresisCelsius)
        (presentReadings run.history key)) ∧
    (storedState run key ≠ .ok ↔
      Latched settings.tempWarningCelsius (settings.tempWarningCelsius - settings.tempHysteresisCelsius)
        (presentReadings run.history key))

omit [PyText] in
theorem statesFollow_initial (settings : Settings) :
    DetectionRun.StatesFollow settings ⟨.initial, []⟩ := by
  intro key
  have unstored : storedState ⟨.initial, []⟩ key = .ok := rfl
  rw [unstored]
  constructor
  · exact iff_of_false (by decide) (not_latched_nil _ _)
  · exact iff_of_false (fun changed => changed rfl) (not_latched_nil _ _)

variable (clock) in
theorem DetectionRun.StatesFollow.commit (follows : run.StatesFollow settings) (recorded : run.Recorded)
    (next : AcceptedLater run snapshot) : (run.commit settings clock snapshot).StatesFollow settings := by
  intro key
  by_cases present : ∃ drive ∈ snapshot.physicalDrives, driveKey drive = key
  · obtain ⟨drive, member, rfl⟩ := present
    obtain ⟨critical, warm⟩ := follows (driveKey drive)
    rw [presentReadings_commit_of_mem next member]
    cases reading : drive.temperatureCelsius with
    | none =>
      rw [storedState, lookup_commit_of_no_reading recorded next member reading]
      exact ⟨critical, warm⟩
    | some temperature =>
      rw [storedState, lookup_commit_of_reading recorded next member reading, Option.getD_some,
        Option.toList_some, List.singleton_append, latched_cons, latched_cons, ← critical, ← warm]
      exact temperatureTransitions_levels
  · have absent : ∀ drive ∈ snapshot.physicalDrives, driveKey drive ≠ key :=
      fun drive member same => present ⟨drive, member, same⟩
    have unstored : storedState (run.commit settings clock snapshot) key = .ok := by
      rw [storedState]
      cases stored : (run.commit settings clock snapshot).world.db.tempStates.lookup key with
      | none => rfl
      | some state =>
        obtain ⟨record, newest, drive, member, same⟩ :=
          (recorded.commit settings clock next).keys key state stored
        obtain rfl := Option.some.inj newest
        exact absurd same (absent drive member)
    rw [presentReadings_commit_of_notMem absent, unstored]
    constructor
    · exact iff_of_false (by decide) (not_latched_nil _ _)
    · exact iff_of_false (fun changed => changed rfl) (not_latched_nil _ _)

/-- What a poll does to the temperature state of one of its drives. -/
structure TemperatureLaw (settings : Settings) (before after : DetectionRun) (drive : PhysicalDrive)
    (events : List DetectedEvent) : Prop where
  critical : after.world.db.tempStates.lookup (driveKey drive) = some .critical ↔
    Latched settings.tempCriticalCelsius (settings.tempCriticalCelsius - settings.tempHysteresisCelsius)
      (presentReadings after.history (driveKey drive))
  warning : after.world.db.tempStates.lookup (driveKey drive) = some .warning ∨
      after.world.db.tempStates.lookup (driveKey drive) = some .critical ↔
    Latched settings.tempWarningCelsius (settings.tempWarningCelsius - settings.tempHysteresisCelsius)
      (presentReadings after.history (driveKey drive))
  missing : drive.temperatureCelsius = none → after.world.db.tempStates.lookup (driveKey drive) =
    before.world.db.tempStates.lookup (driveKey drive)
  restart : (∀ record ∈ before.history.head?, hasDrive (driveKey drive) record = false) →
    before.world.db.tempStates.lookup (driveKey drive) = none
  changes : List.Forall₂ DetectedEvent.recordsChange (temperatureEventsOf drive events)
    (temperaturePath (storedState before (driveKey drive)) (storedState after (driveKey drive)))

omit [PyText] in
theorem recordsChange_attachSerial {event : DetectedEvent} {change : TempState × TempState}
    (records : event.recordsChange change) : (attachSerial snapshot event).recordsChange change := by
  obtain ⟨before, after⟩ := records
  constructor
  · rw [attachSerial_before]
    exact before
  · rw [attachSerial_afterField _ _ (by decide)]
    exact after

variable (clock) in
theorem temperatureLaw_commit {drive : PhysicalDrive} (follows : run.StatesFollow settings)
    (recorded : run.Recorded) (next : AcceptedLater run snapshot) (member : drive ∈ snapshot.physicalDrives) :
    TemperatureLaw settings run (run.commit settings clock snapshot) drive
      (run.world.detection settings snapshot).1 := by
  obtain ⟨critical, warm⟩ := follows.commit clock recorded next (driveKey drive)
  constructor
  · rw [← critical, storedState]
    cases (run.commit settings clock snapshot).world.db.tempStates.lookup (driveKey drive) with
    | none => simp
    | some state => simp
  · rw [← warm, storedState]
    cases (run.commit settings clock snapshot).world.db.tempStates.lookup (driveKey drive) with
    | none => simp
    | some state => cases state <;> simp
  · exact lookup_commit_of_no_reading recorded next member
  · intro absent
    by_contra stored
    obtain ⟨state, stored⟩ := Option.ne_none_iff_exists'.mp stored
    obtain ⟨record, newest, earlier, inside, key⟩ := recorded.keys _ _ stored
    have missing := List.any_eq_false.mp (absent record newest) earlier inside
    exact missing (beq_iff_eq.mpr key)
  · rw [temperatureEventsOf_detection recorded next member]
    cases reading : drive.temperatureCelsius with
    | none =>
      have kept : storedState (run.commit settings clock snapshot) (driveKey drive) =
          storedState run (driveKey drive) := by
        rw [storedState, lookup_commit_of_no_reading recorded next member reading]
        rfl
      rw [kept]
      cases storedState run (driveKey drive) <;> exact .nil
    | some temperature =>
      have moved : storedState (run.commit settings clock snapshot) (driveKey drive) =
          (temperatureTransitions settings drive temperature (storedState run (driveKey drive))).2 := by
        rw [storedState, lookup_commit_of_reading recorded next member reading]
        rfl
      rw [moved, Option.map_some, Option.getD_some, List.forall₂_map_left_iff]
      exact temperatureTransitions_events.imp fun _ _ records => recordsChange_attachSerial records

/-- After every accepted poll of a run, the stored temperature state of each of its drives is the one
that the readings since the drive appeared determine, a missing reading keeps it, the temperature events
are the state changes, and the transition loop reaches its exit. -/
theorem temperature_states_follow_history (settings : Settings) (clock : ℕ → ℤ)
    (snapshots : List StorcliSnapshot) (snapshot : StorcliSnapshot)
    (accepted : Machine.Guarded (DetectionRun.commit settings clock) AcceptedLater ⟨.initial, []⟩
      (snapshots ++ [snapshot])) :
    let run := snapshots.foldl (DetectionRun.commit settings clock) ⟨.initial, []⟩
    ∀ drive ∈ snapshot.physicalDrives,
      TemperatureLaw settings run (run.commit settings clock snapshot) drive
        (run.world.detection settings snapshot).1 ∧
      ∀ temperature start, temperatureStep settings drive temperature
        (temperatureTransitions settings drive temperature start).2 = none := by
  intro run drive member
  obtain ⟨before, next, -⟩ := Machine.Guarded.append_iff.mp accepted
  have inv := @Machine.Guarded.invariant _ _ _ _
    (fun run : DetectionRun => run.Recorded ∧ run.StatesFollow settings) _ _ before
  obtain ⟨recorded, follows⟩ := inv ⟨DetectionRun.recorded_initial, statesFollow_initial settings⟩
    fun run snapshot inv next => ⟨inv.1.commit settings clock next, inv.2.commit clock inv.1 next⟩
  exact ⟨temperatureLaw_commit _ follows recorded next member, temperatureTransitions_exit settings drive⟩

/-- A drive with the given reading. -/
def sampleDrive (temperature : Option ℤ) : PhysicalDrive where
  enclosureId := 252
  slotId := 0
  deviceId := 8
  model := ""
  serialNumber := "WD-0001"
  firmwareVersion := ""
  sizeBytes := 0
  interface := ""
  mediaType := ""
  state := "Onln"
  diskGroupId := none
  temperatureCelsius := temperature
  mediaErrors := 0
  otherErrors := 0
  predictiveFailures := 0
  smartAlert := false
  sasAddress := ""

/-- The bare controller with one drive. -/
def driveSnapshot (capturedAt : ℤ) (drive : PhysicalDrive) : StorcliSnapshot :=
  { bareSnapshot capturedAt none with physicalDrives := [drive] }

omit [PyText] in
theorem acceptedLater_driveSnapshot {run : DetectionRun} {capturedAt : ℤ} {drive : PhysicalDrive}
    (serial : drive.serialNumber ≠ "")
    (later : ∀ latest ∈ run.history.head?, latest.snapshot.capturedAt ≤ capturedAt) :
    AcceptedLater run (driveSnapshot capturedAt drive) where
  accepted := {
    virtualDrivesUnique := by simp [driveSnapshot, bareSnapshot]
    slotsUnique := by simp [driveSnapshot]
    serialsNonempty := by simpa [driveSnapshot] using serial
    cachevaultAgrees := by simp [driveSnapshot, bareSnapshot] }
  later := later

omit [PyText] in
/-- A drive at 61 degrees and then at 56, below the critical threshold and above its clearing boundary. -/
theorem temperature_states_follow_history_critical :
    let _ := PyText.ascii
    let run := [driveSnapshot 0 (sampleDrive (some 61))].foldl
      (DetectionRun.commit Settings.default fun tick => (tick : ℤ)) ⟨.initial, []⟩
    TemperatureLaw Settings.default run
      (run.commit Settings.default (fun tick => (tick : ℤ)) (driveSnapshot 1 (sampleDrive (some 56))))
      (sampleDrive (some 56))
      (run.world.detection Settings.default (driveSnapshot 1 (sampleDrive (some 56)))).1 := by
  let _ := PyText.ascii
  refine (temperature_states_follow_history Settings.default (fun tick => (tick : ℤ))
    [driveSnapshot 0 (sampleDrive (some 61))] (driveSnapshot 1 (sampleDrive (some 56)))
    ⟨acceptedLater_driveSnapshot (by simp [sampleDrive]) ?_,
      acceptedLater_driveSnapshot (by simp [sampleDrive]) ?_, trivial⟩
    (sampleDrive (some 56)) (by simp [driveSnapshot])).1
  · intro latest newest
    cases newest
  · intro latest newest
    simp only [DetectionRun.commit, List.head?_cons, Option.mem_def, Option.some.injEq] at newest
    rw [← newest]
    simp [driveSnapshot, bareSnapshot]

end Runs

end MegaraidDashboard.Services
