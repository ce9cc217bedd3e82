import MegaraidDashboard.Model.Services.ControllerHealth
import MegaraidDashboard.Soundness.TemperatureHistory

/-! # The health display and the alerts

Every cause of a critical event of the baseline detection is a finding of one of the display's assessments,
and a critical one unless the event counts media errors.
-/

namespace MegaraidDashboard.Services

open Db Storcli

namespace ControllerHealth

/-- The order of the grades. -/
def rank : ControllerHealth → ℕ
  | optimal => 0
  | warning => 1
  | critical => 2

theorem rank_le_two (health : ControllerHealth) : health.rank ≤ 2 := by cases health <;> decide

theorem eq_critical_of_rank {health : ControllerHealth} (worst : 2 ≤ health.rank) : health = critical := by
  cases health with
  | critical => rfl
  | optimal => exact absurd worst (by decide)
  | warning => exact absurd worst (by decide)

theorem ne_optimal_of_rank {health : ControllerHealth} (some_ : 1 ≤ health.rank) : health ≠ optimal := by
  rintro rfl
  exact absurd some_ (by decide)

/-- The worse of two grades. -/
theorem rank_worst (current candidate : ControllerHealth) :
    (worstControllerHealth current candidate).rank = max current.rank candidate.rank := by
  cases current <;> cases candidate <;> rfl

theorem rank_le_foldl_worst {α : Type*} (grade : α → ControllerHealth) (entries : List α) (start : ControllerHealth) :
    start.rank ≤ (entries.foldl (fun worst entry => worstControllerHealth worst (grade entry)) start).rank := by
  induction entries generalizing start with
  | nil => exact le_rfl
  | cons entry rest ih =>
    rw [List.foldl_cons]
    exact (by rw [rank_worst]; exact le_max_left _ _ : start.rank ≤ (worstControllerHealth start (grade entry)).rank).trans
      (ih _)

/-- A fold is no better than any of its entries. -/
theorem rank_le_foldl_of_mem {α : Type*} (grade : α → ControllerHealth) {entries : List α} {entry : α}
    (member : entry ∈ entries) (start : ControllerHealth) :
    (grade entry).rank ≤
      (entries.foldl (fun worst entry => worstControllerHealth worst (grade entry)) start).rank := by
  induction entries generalizing start with
  | nil => cases member
  | cons first rest ih =>
    rw [List.foldl_cons]
    rcases List.mem_cons.mp member with rfl | later
    · have this : (grade entry).rank ≤ (worstControllerHealth start (grade entry)).rank := by
        rw [rank_worst]
        exact le_max_right _ _
      exact this.trans (rank_le_foldl_worst grade rest _)
    · exact ih later _

end ControllerHealth

section Findings

variable [PyText]

omit [PyText] in
theorem rank_healthOfFindings_critical {critical warning : List String} (some_ : critical ≠ []) :
    (healthOfFindings critical warning).rank = 2 := by
  rw [healthOfFindings, if_pos some_]
  rfl

omit [PyText] in
theorem rank_healthOfFindings_warning {critical warning : List String} (some_ : warning ≠ []) :
    1 ≤ (healthOfFindings critical warning).rank := by
  rw [healthOfFindings]
  split_ifs
  · decide
  · decide

/-- What the display of a snapshot shows is no better than any of its parts. -/
structure ShownWorst (settings : Settings) (snapshot : ControllerSnapshot) (health : ControllerHealth) : Prop where
  components : (assessControllerComponents snapshot (some settings)).severity.rank ≤ health.rank
  drive : ∀ drive ∈ snapshot.physicalDrives, (driveSeverity (some settings) drive).rank ≤ health.rank
  virtualDrive : ∀ drive ∈ snapshot.virtualDrives,
    (eventSeverityToStatus (virtualDriveStateSeverity drive.state)).rank ≤ health.rank

theorem shownWorst_deriveControllerHealth (settings : Settings) (snapshot : ControllerSnapshot) :
    ShownWorst settings snapshot (deriveControllerHealth snapshot snapshot.physicalDrives snapshot.virtualDrives none
      (some settings)) := by
  rw [deriveControllerHealth]
  split_ifs
  · exact ⟨ControllerHealth.rank_le_two _, fun _ _ => ControllerHealth.rank_le_two _,
      fun _ _ => ControllerHealth.rank_le_two _⟩
  · refine ⟨?_, fun drive member => ?_, fun drive member => ?_⟩
    · rw [ControllerHealth.rank_worst, ControllerHealth.rank_worst]
      exact (le_max_left _ _).trans (le_max_left _ _)
    · have shown := ControllerHealth.rank_le_foldl_of_mem (driveSeverity (some settings)) member .optimal
      rw [ControllerHealth.rank_worst, ControllerHealth.rank_worst]
      exact (shown.trans (le_max_right _ _)).trans (le_max_left _ _)
    · have shown := ControllerHealth.rank_le_foldl_of_mem
        (fun drive : VirtualDriveSnapshot => eventSeverityToStatus (virtualDriveStateSeverity drive.state)) member .optimal
      rw [ControllerHealth.rank_worst]
      exact shown.trans (le_max_right _ _)

end Findings

/-! ## The causes of alerts -/

/-- The display shows an alert: it is not optimal, and critical unless the alert counts media errors. -/
structure AlertShown (health : ControllerHealth) (event : DetectedEvent) : Prop where
  notOptimal : 1 ≤ health.rank
  critical : event.category ≠ .mediaErrors → 2 ≤ health.rank

theorem alertShown_of_rank {health : ControllerHealth} (worst : 2 ≤ health.rank) (event : DetectedEvent) :
    AlertShown health event :=
  ⟨(by decide : 1 ≤ 2).trans worst, fun _ => worst⟩

section Causes

variable [PyText] {settings : Settings} {current : StorcliSnapshot} {id : ℕ} {health : ControllerHealth}
  {event : DetectedEvent}

theorem stateFault_of_critical {state : String} (critical : physicalDriveStateSeverity state = .critical) :
    (stateFault (normalizedState state)).isSome = true := by
  simp only [physicalDriveStateSeverity] at critical
  split_ifs at critical with faulty
  simp only [List.mem_cons, List.not_mem_nil, or_false] at faulty
  rcases faulty with same | same | same | same
  all_goals rw [same]; rfl

/-- A finding of the list `critical` makes the display critical. -/
theorem drive_critical (shown : ShownWorst settings (.ofStorcli id current) health) {drive : PhysicalDrive}
    (member : drive ∈ current.physicalDrives)
    (finding : driveCriticalFindings (.ofStorcli drive) (temperatureSeverity drive.temperatureCelsius
      settings.tempWarningCelsius settings.tempCriticalCelsius) ≠ []) : 2 ≤ health.rank := by
  have grade := shown.drive (.ofStorcli drive) (List.mem_map_of_mem member)
  rw [driveSeverity, assessDriveHealth] at grade
  exact (rank_healthOfFindings_critical finding).ge.trans grade

theorem drive_warning (shown : ShownWorst settings (.ofStorcli id current) health) {drive : PhysicalDrive}
    (member : drive ∈ current.physicalDrives)
    (finding : driveWarningFindings (.ofStorcli drive) (temperatureSeverity drive.temperatureCelsius
      settings.tempWarningCelsius settings.tempCriticalCelsius) ≠ []) : 1 ≤ health.rank := by
  have grade := shown.drive (.ofStorcli drive) (List.mem_map_of_mem member)
  rw [driveSeverity, assessDriveHealth] at grade
  exact (rank_healthOfFindings_warning finding).trans grade

theorem components_critical (shown : ShownWorst settings (.ofStorcli id current) health)
    (finding : componentCriticalFindings (.ofStorcli id current) (some settings) ≠ []) : 2 ≤ health.rank := by
  have grade := shown.components
  rw [assessControllerComponents] at grade
  exact (rank_healthOfFindings_critical finding).ge.trans grade

theorem alertShown_newVirtualDriveEvent (shown : ShownWorst settings (.ofStorcli id current) health)
    {drive : VirtualDrive} (member : drive ∈ current.virtualDrives) (made : newVirtualDriveEvent drive = some event)
    (critical : event.severity = .critical) : AlertShown health event := by
  simp only [newVirtualDriveEvent, Option.ite_none_left_eq_some, Option.some.injEq] at made
  obtain ⟨-, rfl⟩ := made
  have grade : (eventSeverityToStatus (virtualDriveStateSeverity drive.state)).rank ≤ health.rank :=
    shown.virtualDrive (.ofStorcli drive) (List.mem_map_of_mem member)
  have state : virtualDriveStateSeverity drive.state = .critical := critical
  rw [state] at grade
  exact alertShown_of_rank grade _

theorem alertShown_newCounterEvents (shown : ShownWorst settings (.ofStorcli id current) health)
    {drive : PhysicalDrive} (member : drive ∈ current.physicalDrives) (made : event ∈ newCounterEvents drive)
    (critical : event.severity = .critical) : AlertShown health event := by
  obtain ⟨field, inTable, made⟩ := List.mem_filterMap.mp made
  simp only [Option.ite_none_left_eq_some, Option.some.injEq] at made
  obtain ⟨positive, rfl⟩ := made
  simp only [counterFields, List.mem_cons, List.not_mem_nil, or_false] at inTable
  rcases inTable with rfl | rfl | rfl
  · have counted : 0 < drive.mediaErrors := not_le.mp positive
    refine ⟨drive_warning shown member ?_, fun other => (other rfl).elim⟩
    simp [driveWarningFindings, PhysicalDriveSnapshot.ofStorcli, counted]
  · cases critical
  · have counted : 0 < drive.predictiveFailures := not_le.mp positive
    refine alertShown_of_rank (drive_critical shown member ?_) _
    simp [driveCriticalFindings, PhysicalDriveSnapshot.ofStorcli, counted]

theorem alertShown_newPhysicalDriveEvents (shown : ShownWorst settings (.ofStorcli id current) health)
    {drive : PhysicalDrive} (member : drive ∈ current.physicalDrives) (made : event ∈ newPhysicalDriveEvents drive)
    (critical : event.severity = .critical) : AlertShown health event := by
  simp only [newPhysicalDriveEvents, List.mem_append] at made
  rcases made with (state | counter) | smart
  · split_ifs at state with calm
    · cases state
    · rw [List.mem_singleton.mp state] at critical
      have faulty := stateFault_of_critical critical
      obtain ⟨fault, named⟩ := Option.isSome_iff_exists.mp faulty
      refine alertShown_of_rank (drive_critical shown member ?_) _
      simp [driveCriticalFindings, PhysicalDriveSnapshot.ofStorcli, named]
  · exact alertShown_newCounterEvents shown member counter critical
  · split_ifs at smart with flagged
    · refine alertShown_of_rank (drive_critical shown member ?_) _
      simp [driveCriticalFindings, PhysicalDriveSnapshot.ofStorcli, flagged]
    · cases smart

theorem alertShown_newCachevaultEvents (shown : ShownWorst settings (.ofStorcli id current) health)
    {cachevault : CacheVault} (present : current.cachevault = some cachevault)
    (made : event ∈ newCachevaultEvents settings cachevault) (critical : event.severity = .critical) :
    AlertShown health event := by
  refine alertShown_of_rank (components_critical shown ?_) _
  simp only [newCachevaultEvents, List.mem_append] at made
  rcases made with (state | replacement) | capacitance
  · split_ifs at state with calm
    · cases state
    · have other : normalizedState cachevault.state ≠ "optimal" := fun same => calm (if_pos same)
      simp [componentCriticalFindings, ControllerSnapshot.ofStorcli, CacheVaultSnapshot.ofStorcli, present, other]
  · split_ifs at replacement with required
    · simp [componentCriticalFindings, ControllerSnapshot.ofStorcli, CacheVaultSnapshot.ofStorcli, present, required]
    · cases replacement
  · split at capacitance
    · cases capacitance
    · split_ifs at capacitance
      · rw [List.mem_singleton.mp capacitance] at critical
        cases critical
      · cases capacitance

theorem alertShown_detectBaseline (shown : ShownWorst settings (.ofStorcli id current) health)
    (made : event ∈ detectBaseline settings current) (critical : event.severity = .critical) :
    AlertShown health event := by
  simp only [detectBaseline, List.mem_append] at made
  rcases made with (virtualDrive | physicalDrive) | cachevault
  · obtain ⟨drive, member, made⟩ := List.mem_filterMap.mp virtualDrive
    exact alertShown_newVirtualDriveEvent shown member made critical
  · obtain ⟨drive, member, made⟩ := List.mem_flatMap.mp physicalDrive
    exact alertShown_newPhysicalDriveEvents shown member made critical
  · cases present : current.cachevault with
    | some vault =>
      rw [present] at cachevault
      exact alertShown_newCachevaultEvents shown present cachevault critical
    | none =>
      rw [present] at cachevault
      dsimp only at cachevault
      split_ifs at cachevault with probed
      · cases cachevault
      · refine alertShown_of_rank (components_critical shown ?_) _
        simp [componentCriticalFindings, ControllerSnapshot.ofStorcli, present, probed]

theorem alertShown_detectRocTemperature (shown : ShownWorst settings (.ofStorcli id current) health)
    (made : event ∈ detectRocTemperature settings none current) (critical : event.severity = .critical) :
    AlertShown health event := by
  cases reading : current.controller.rocTemperatureCelsius with
  | none => simp [detectRocTemperature, reading] at made
  | some temperature =>
    simp only [detectRocTemperature, reading, Option.bind_none, List.mem_append] at made
    rcases made with warning | hot
    · split_ifs at warning
      · rw [List.mem_singleton.mp warning] at critical
        cases critical
      · cases warning
    · split_ifs at hot with reached
      · refine alertShown_of_rank (components_critical shown ?_) _
        simp [componentCriticalFindings, ControllerSnapshot.ofStorcli, reading, reached]
      · cases hot

omit [PyText] in
/-- A critical temperature event needs a critical reading, from whatever state the loop starts. -/
theorem critical_of_mem_temperatureLoop {drive : PhysicalDrive} {temperature : ℤ} {fuel : ℕ} {state : TempState}
    (member : event ∈ (temperatureLoop settings drive temperature fuel state).1)
    (critical : event.severity = .critical) : settings.tempCriticalCelsius ≤ temperature := by
  induction fuel generalizing state with
  | zero => cases member
  | succ fuel ih =>
    simp only [temperatureLoop] at member
    split at member
    · cases member
    · next first next stepped =>
      rcases List.mem_cons.mp member with rfl | later
      · unfold temperatureStep at stepped
        split at stepped <;> split_ifs at stepped with reached <;> cases stepped <;> first | exact reached | cases critical
      · exact ih later

theorem alertShown_detectTemperatures (shown : ShownWorst settings (.ofStorcli id current) health)
    {states : TempStateTable} {slots : List SlotKey}
    (made : event ∈ detectTemperatures settings states none current slots) (critical : event.severity = .critical) :
    AlertShown health event := by
  obtain ⟨drive, member, inside⟩ := List.mem_flatMap.mp made
  unfold driveTransitions at inside
  cases reading : drive.temperatureCelsius with
  | none => simp [reading] at inside
  | some temperature =>
    simp only [reading, Option.map_some, Option.getD_some] at inside
    have hot := critical_of_mem_temperatureLoop inside critical
    refine alertShown_of_rank (drive_critical shown member ?_) _
    simp [driveCriticalFindings, temperatureSeverity, reading, hot]

omit [PyText] in
theorem not_critical_detectForeignConfig {present : Option Bool}
    (made : event ∈ detectForeignConfig present current.foreignConfig) : event.severity ≠ .critical := by
  intro critical
  unfold detectForeignConfig at made
  split at made
  · cases made
  · split_ifs at made
    · rw [List.mem_singleton.mp made] at critical
      cases critical
    · rw [List.mem_singleton.mp made] at critical
      cases critical
    · cases made

end Causes

/-- If the detection of a snapshot without a predecessor emits a critical event, then the display of the saved
snapshot is not optimal, and it is critical if one of the critical events does not count media errors. -/
theorem health_agrees_with_alerts [PyText] (settings : Settings) (detector : EventDetector) (current : StorcliSnapshot)
    (id : ℕ) {event : DetectedEvent} (emitted : event ∈ (detect settings detector none current).1)
    (critical : event.severity = .critical) :
    let snapshot := ControllerSnapshot.ofStorcli id current
    let health := deriveControllerHealth snapshot snapshot.physicalDrives snapshot.virtualDrives none (some settings)
    health ≠ .optimal ∧ ((∃ other ∈ (detect settings detector none current).1, other.severity = .critical ∧
      other.category ≠ .mediaErrors) → health = .critical) := by
  intro snapshot health
  have shown : ShownWorst settings snapshot health := shownWorst_deriveControllerHealth settings snapshot
  have alert {event : DetectedEvent} (emitted : event ∈ (detect settings detector none current).1)
      (critical : event.severity = .critical) : AlertShown health event := by
    obtain ⟨part, rfl, made⟩ := mem_detectedEvents_iff.mp emitted
    rw [attachSerial_severity] at critical
    have partShown : AlertShown health part := by
      rcases made with baseline | roc | temperature | foreignConfig
      · exact alertShown_detectBaseline shown baseline critical
      · exact alertShown_detectRocTemperature shown roc critical
      · exact alertShown_detectTemperatures shown temperature critical
      · exact (not_critical_detectForeignConfig foreignConfig critical).elim
    exact ⟨partShown.notOptimal, by rw [attachSerial_category]; exact partShown.critical⟩
  refine ⟨ControllerHealth.ne_optimal_of_rank (alert emitted critical).notOptimal, ?_⟩
  rintro ⟨other, otherEmitted, otherCritical, category⟩
  exact ControllerHealth.eq_critical_of_rank ((alert otherEmitted otherCritical).critical category)

/-- A drive at 61 degrees. -/
theorem health_agrees_with_alerts_hot :
    let _ := PyText.ascii
    let snapshot := ControllerSnapshot.ofStorcli 1 (driveSnapshot 0 (sampleDrive (some 61)))
    deriveControllerHealth snapshot snapshot.physicalDrives snapshot.virtualDrives none (some .default) = .critical := by
  intro _
  have alert : ∃ event ∈ (detect .default .initial none (driveSnapshot 0 (sampleDrive (some 61)))).1,
      event.severity = .critical ∧ event.category ≠ .mediaErrors := by decide +kernel
  obtain ⟨event, emitted, critical, category⟩ := alert
  exact (health_agrees_with_alerts .default .initial _ 1 emitted critical).2 ⟨event, emitted, critical, category⟩

end MegaraidDashboard.Services
