import Mathlib.Data.List.Chain
import MegaraidDashboard.Model.Services.DiskMonitor

/-! # Disk-space bands

After every check the newest event of the category tells the band of the free space, and the events of a
run follow each other as the suppression and the recovery margin allow.
-/

namespace MegaraidDashboard.Services

open Db

/-- How a disk-space event may follow the one before it. -/
structure DiskEventFollows (first second : Event) : Prop where
  recovery : second.severity = .info → first.severity ≠ .info
  spaced : first.severity = second.severity → first.occurredAt + suppressWindow < second.occurredAt

/-- Recoveries come directly after alerts, and equal severities are more than the suppress window apart. -/
structure DiskLogOrdered (log : List Event) : Prop where
  alertFirst : ∀ event ∈ log.head?, event.severity ≠ .info
  linked : log.IsChain DiskEventFollows

/-- The newest disk-space event after a check fits the free space that the check found. -/
structure BandFits (settings : DiskSettings) (before after : Database) (freeMb : ℤ) : Prop where
  critical : freeMb < settings.diskCriticalFreeMb →
    (latestDiskSpaceEvent after).map (·.severity) = some .critical
  warning : settings.diskCriticalFreeMb ≤ freeMb → freeMb < settings.diskWarningFreeMb →
    (latestDiskSpaceEvent after).map (·.severity) = some .warning
  recovered : settings.diskWarningFreeMb + recoveryHysteresisMb < freeMb →
    ∀ event ∈ latestDiskSpaceEvent after, event.severity = .info
  between : settings.diskWarningFreeMb ≤ freeMb → freeMb ≤ settings.diskWarningFreeMb + recoveryHysteresisMb →
    after = before

section Check

/-- What one check can do. -/
inductive CheckOutcome (settings : DiskSettings) (db : Database) (freeMb now : ℤ) : Database → Prop where
  /-- The alert of the band is recorded; an older alert of the band lies outside the window. -/
  | alert {severity : Severity} {limit : String × ℤ} (summary : String)
      (short : settings.shortage freeMb = some (severity, limit))
      (due : ∀ event ∈ latestDiskSpaceEvent db, event.severity = severity → event.occurredAt < now - suppressWindow) :
      CheckOutcome settings db freeMb now (db.insertEvent now severity .diskSpace .dataPartition summary none
        (settings.event severity summary freeMb).after none)
  /-- The alert of the band is the newest event already. -/
  | known {severity : Severity} {limit : String × ℤ} (short : settings.shortage freeMb = some (severity, limit))
      (same : (latestDiskSpaceEvent db).map (·.severity) = some severity) : CheckOutcome settings db freeMb now db
  | recovery (summary : String) (enough : settings.shortage freeMb = none) {event : Event}
      (latest : latestDiskSpaceEvent db = some event)
      (above : settings.diskWarningFreeMb + recoveryHysteresisMb < freeMb) (alerted : event.severity ≠ .info) :
      CheckOutcome settings db freeMb now (db.insertEvent now .info .diskSpace .dataPartition summary none
        (settings.event .info summary freeMb).after none)
  | quiet (enough : settings.shortage freeMb = none)
      (calm : settings.diskWarningFreeMb + recoveryHysteresisMb < freeMb →
        ∀ event ∈ latestDiskSpaceEvent db, event.severity = .info) : CheckOutcome settings db freeMb now db

variable {settings : DiskSettings} {db : Database} {now : ℤ}

theorem shortage_ne_info {freeMb : ℤ} {severity : Severity} {limit : String × ℤ}
    (short : settings.shortage freeMb = some (severity, limit)) : severity ≠ .info := by
  rintro rfl
  simp only [DiskSettings.shortage] at short
  split_ifs at short <;> cases short

theorem shouldSuppress_due {latest : Option Event} {severity : Severity}
    (answer : shouldSuppress latest severity now = some false) :
    ∀ event ∈ latest, event.severity = severity → event.occurredAt < now - suppressWindow := by
  rintro event rfl same
  simp only [shouldSuppress, same, ne_eq, not_true_eq_false, ↓reduceIte] at answer
  split_ifs at answer
  exact not_le.mp (of_decide_eq_false (Option.some.inj answer))

/-- A check that is suppressed, or that overflows, finds its own severity in the newest event. -/
theorem shouldSuppress_known {latest : Option Event} {severity : Severity}
    (answer : shouldSuppress latest severity now ≠ some false) : latest.map (·.severity) = some severity := by
  cases latest with
  | none => exact (answer rfl).elim
  | some event =>
    by_cases same : event.severity = severity
    · rw [Option.map_some, same]
    · exact (answer (if_pos same)).elim

theorem check_outcome (settings : DiskSettings) (db : Database) (free : ℕ) (now : ℤ) :
    CheckOutcome settings db (freeSpaceMb free) now (diskStep settings db (.check free now)) := by
  rw [diskStep, runDiskSpaceMonitorTransaction, checkDataPartitionFreeSpace]
  cases short : settings.shortage (freeSpaceMb free) with
  | some band =>
    obtain ⟨severity, name, limit⟩ := band
    dsimp only
    cases answer : shouldSuppress (latestDiskSpaceEvent db) severity now with
    | none => exact .known short (shouldSuppress_known (by rw [answer]; exact Option.some_ne_none _ |>.symm))
    | some suppressed =>
      cases suppressed with
      | true => exact .known short (shouldSuppress_known (by rw [answer]; decide))
      | false => exact .alert _ short (shouldSuppress_due answer)
  | none =>
    dsimp only
    split_ifs with alerted
    · rw [Bool.and_eq_true, Option.any_eq_true] at alerted
      obtain ⟨⟨event, latest, severe⟩, above⟩ := alerted
      refine .recovery _ short latest (of_decide_eq_true above) fun calm => ?_
      rw [calm] at severe
      cases severe
    · refine .quiet short fun above event latest => ?_
      rw [Option.mem_def] at latest
      cases severity : event.severity with
      | info => rfl
      | warning => exact (alerted (by simp [latest, severity, above])).elim
      | critical => exact (alerted (by simp [latest, severity, above])).elim

end Check

section Rows

variable {settings : DiskSettings} {db after : Database}

theorem diskSpaceEvents_insert (db : Database) (now : ℤ) (severity : Severity) (summary : String)
    (payload : Option Payload) : ∃ row, row.severity = severity ∧ row.occurredAt = now ∧
      diskSpaceEvents (db.insertEvent now severity .diskSpace .dataPartition summary none payload none) =
        diskSpaceEvents db ++ [row] := by
  refine ⟨⟨db.events.length + 1, now, severity, .diskSpace, .dataPartition, summary, none, payload, none, none⟩, rfl,
    rfl, ?_⟩
  exact List.filter_append ..

theorem diskSpaceEvents_elsewhere (db : Database) {event : DetectedEvent} (occurredAt : ℤ)
    (operatorUsername : Option String) (other : event.category ≠ .diskSpace) :
    diskSpaceEvents (diskStep settings db (.elsewhere event occurredAt operatorUsername other)) =
      diskSpaceEvents db := by
  have dropped : (event.category == Category.diskSpace) = false := beq_eq_false_iff_ne.mpr other
  simp [diskSpaceEvents, diskStep, Database.insertEvent, List.filter_append, isDiskSpaceEvent, dropped]

/-- An appended row is the newest one where no row is later. -/
theorem latestDiskSpaceEvent_concat {row : Event} (rows : diskSpaceEvents after = diskSpaceEvents db ++ [row])
    (newest : ∀ event ∈ diskSpaceEvents db, event.occurredAt ≤ row.occurredAt) :
    latestDiskSpaceEvent after = some row := by
  rw [latestDiskSpaceEvent, rows]
  exact List.latest?_concat newest

end Rows

section Run

variable {settings : DiskSettings} {db after : Database} {freeMb now : ℤ}

/-- The log of a run: ordered, in the order of time, and every row written by a check of these times. -/
structure DiskLog (times : List ℤ) (log : List Event) : Prop where
  ordered : DiskLogOrdered log
  sorted : log.Pairwise fun first second => first.occurredAt ≤ second.occurredAt
  stamped : ∀ event ∈ log, event.occurredAt ∈ times

theorem DiskLogOrdered.concat {log : List Event} {row : Event} (ordered : DiskLogOrdered log)
    (first : log.getLast? = none → row.severity ≠ .info)
    (follows : ∀ event ∈ log.getLast?, DiskEventFollows event row) : DiskLogOrdered (log ++ [row]) where
  alertFirst event head := by
    cases log with
    | nil =>
      obtain rfl : row = event := Option.some.inj head
      exact first rfl
    | cons oldest rest => exact ordered.alertFirst event head
  linked := by
    apply List.isChain_append.mpr
    refine ⟨ordered.linked, List.isChain_singleton _, ?_⟩
    intro event last new same
    obtain rfl : row = new := Option.some.inj same
    exact follows event last

theorem DiskLog.concat {times : List ℤ} {log : List Event} {row : Event} (inv : DiskLog times log)
    (clock : ∀ time ∈ times, time ≤ row.occurredAt) (ordered : DiskLogOrdered (log ++ [row])) :
    DiskLog (times ++ [row.occurredAt]) (log ++ [row]) where
  ordered := ordered
  sorted := by
    apply List.pairwise_append.mpr
    refine ⟨inv.sorted, List.pairwise_singleton _ _, ?_⟩
    intro event member new last
    rw [List.mem_singleton.mp last]
    exact clock _ (inv.stamped event member)
  stamped event member := by
    rcases List.mem_append.mp member with old | new
    · exact List.mem_append_left _ (inv.stamped event old)
    · rw [List.mem_singleton.mp new]
      exact List.mem_append_right _ (List.mem_singleton_self _)

theorem DiskLog.later {times : List ℤ} {log : List Event} (inv : DiskLog times log) :
    DiskLog (times ++ [now]) log :=
  ⟨inv.ordered, inv.sorted, fun event member => List.mem_append_left _ (inv.stamped event member)⟩

/-- A check keeps the log in order. -/
theorem CheckOutcome.diskLog {times : List ℤ} (outcome : CheckOutcome settings db freeMb now after)
    (inv : DiskLog times (diskSpaceEvents db)) (clock : ∀ time ∈ times, time ≤ now) :
    DiskLog (times ++ [now]) (diskSpaceEvents after) := by
  have newest : latestDiskSpaceEvent db = (diskSpaceEvents db).getLast? := List.latest?_eq_getLast? inv.sorted
  cases outcome with
  | @alert severity limit summary short due =>
    obtain ⟨row, rowSeverity, rfl, rows⟩ := diskSpaceEvents_insert db now severity summary
      (settings.event severity summary freeMb).after
    rw [rows]
    have alerted : row.severity ≠ .info := rowSeverity ▸ shortage_ne_info short
    refine inv.concat clock (inv.ordered.concat (fun _ => alerted) fun event last => ⟨fun recovered => ?_, fun same => ?_⟩)
    · exact (alerted recovered).elim
    · have spaced := due event (newest ▸ last) (same.trans rowSeverity)
      omega
  | known short same => exact inv.later
  | @recovery summary enough event latest above alerted =>
    obtain ⟨row, rowSeverity, rfl, rows⟩ := diskSpaceEvents_insert db now .info summary
      (settings.event .info summary freeMb).after
    rw [rows]
    rw [newest] at latest
    refine inv.concat clock (inv.ordered.concat (fun empty => ?_) fun last found => ?_)
    · rw [latest] at empty
      cases empty
    · obtain rfl : event = last := Option.some.inj (latest.symm.trans found)
      exact ⟨fun _ => alerted, fun same => (alerted (same.trans rowSeverity)).elim⟩
  | quiet enough calm => exact inv.later

theorem shortage_eq_some_iff {severity : Severity} :
    (settings.shortage freeMb).map Prod.fst = some severity ↔
      severity = .critical ∧ freeMb < settings.diskCriticalFreeMb ∨
        severity = .warning ∧ settings.diskCriticalFreeMb ≤ freeMb ∧ freeMb < settings.diskWarningFreeMb := by
  simp only [DiskSettings.shortage]
  split_ifs with critical warning
  · simp [critical, not_le.mpr critical, eq_comm]
  · simp [warning, not_lt.mp critical, critical, eq_comm]
  · simp [warning, critical]

theorem shortage_eq_none_iff :
    settings.shortage freeMb = none ↔ settings.diskWarningFreeMb ≤ freeMb := by
  have ordered := settings.ordered
  simp only [DiskSettings.shortage]
  split_ifs with critical warning
  · simp only [false_iff, not_le]
    omega
  · simp only [false_iff, not_le]
    exact warning
  · simp only [true_iff]
    omega

/-- In a band with an alert it is enough to know the newest severity. -/
theorem BandFits.of_shortage {severity : Severity} {limit : String × ℤ}
    (short : settings.shortage freeMb = some (severity, limit))
    (newest : (latestDiskSpaceEvent after).map (·.severity) = some severity) : BandFits settings db after freeMb := by
  have ordered := settings.ordered
  have band := shortage_eq_some_iff.mp (congrArg (Option.map Prod.fst) short)
  have margin : 0 < recoveryHysteresisMb := by decide
  rcases band with ⟨rfl, low⟩ | ⟨rfl, low, high⟩
  · exact ⟨fun _ => newest, fun _ _ => by omega, fun _ => by omega, fun _ _ => by omega⟩
  · exact ⟨fun _ => by omega, fun _ _ => newest, fun _ => by omega, fun _ _ => by omega⟩

theorem BandFits.of_enough (enough : settings.shortage freeMb = none)
    (recovered : settings.diskWarningFreeMb + recoveryHysteresisMb < freeMb →
      ∀ event ∈ latestDiskSpaceEvent after, event.severity = .info)
    (between : freeMb ≤ settings.diskWarningFreeMb + recoveryHysteresisMb → after = db) :
    BandFits settings db after freeMb := by
  have ordered := settings.ordered
  have above := shortage_eq_none_iff.mp enough
  exact ⟨fun _ => by omega, fun _ _ => by omega, recovered, fun _ => between⟩

/-- After a check that runs not before the recorded events the newest one fits. -/
theorem CheckOutcome.bandFits (outcome : CheckOutcome settings db freeMb now after)
    (clock : ∀ event ∈ diskSpaceEvents db, event.occurredAt ≤ now) : BandFits settings db after freeMb := by
  cases outcome with
  | @alert severity limit summary short due =>
    obtain ⟨row, rowSeverity, rfl, rows⟩ := diskSpaceEvents_insert db now severity summary
      (settings.event severity summary freeMb).after
    refine .of_shortage short ?_
    rw [latestDiskSpaceEvent_concat rows clock, Option.map_some, rowSeverity]
  | known short same => exact .of_shortage short same
  | @recovery summary enough event latest above alerted =>
    obtain ⟨row, rowSeverity, rfl, rows⟩ := diskSpaceEvents_insert db now .info summary
      (settings.event .info summary freeMb).after
    refine .of_enough enough (fun _ event newest => ?_) fun within => by omega
    rw [latestDiskSpaceEvent_concat rows clock] at newest
    obtain rfl : row = event := Option.some.inj newest
    exact rowSeverity
  | quiet enough calm => exact .of_enough enough calm fun _ => rfl

theorem diskLog_run {start : Database} (fresh : diskSpaceEvents start = []) {steps : List DiskStep}
    (clock : (steps.filterMap DiskStep.now?).Pairwise (· ≤ ·)) :
    DiskLog (steps.filterMap DiskStep.now?) (diskSpaceEvents (steps.foldl (diskStep settings) start)) := by
  induction steps using List.reverseRecOn with
  | nil =>
    rw [List.foldl_nil, fresh]
    exact ⟨⟨fun _ => nofun, .nil⟩, .nil, fun _ => nofun⟩
  | append_singleton earlier last ih =>
    rw [List.filterMap_append] at clock
    obtain ⟨clock, -, later⟩ := List.pairwise_append.mp clock
    have inv := ih clock
    rw [List.foldl_concat, List.filterMap_append]
    cases last with
    | check free now =>
      exact (check_outcome settings _ free now).diskLog inv fun time member =>
        later time member now (List.mem_singleton_self _)
    | elsewhere event occurredAt operatorUsername other =>
      rw [diskSpaceEvents_elsewhere _ _ _ other]
      exact (List.append_nil _).symm ▸ inv

/-- Over any run of checks whose clock does not go back, from a database without disk-space events and with
other services recording in between: the events follow each other in order, and after each check the newest
one fits the free space. -/
theorem disk_space_band (settings : DiskSettings) {start : Database} (fresh : diskSpaceEvents start = [])
    {steps : List DiskStep} (clock : (steps.filterMap DiskStep.now?).Pairwise (· ≤ ·)) :
    DiskLogOrdered (diskSpaceEvents (steps.foldl (diskStep settings) start)) ∧
      ∀ earlier free now later, steps = earlier ++ .check free now :: later →
        BandFits settings (earlier.foldl (diskStep settings) start)
          ((earlier ++ [.check free now]).foldl (diskStep settings) start) (freeSpaceMb free) := by
  refine ⟨(diskLog_run fresh clock).ordered, ?_⟩
  rintro earlier free now later rfl
  rw [List.filterMap_append] at clock
  obtain ⟨clock, -, bound⟩ := List.pairwise_append.mp clock
  rw [List.foldl_concat]
  refine (check_outcome settings _ free now).bandFits fun event member => ?_
  exact bound _ ((diskLog_run fresh clock).stamped event member) now List.mem_cons_self

/-- An alert, its escalation after a minute, a quiet check within the margin and the recovery. -/
theorem disk_space_band_escalated :
    let rows := diskSpaceEvents (([.check 419430400 0, .check 52428800 Timestamp.minute,
      .check 545259520 Timestamp.hour, .check 1073741824 Timestamp.day] : List DiskStep).foldl
        (diskStep .default) .empty)
    DiskLogOrdered rows ∧ rows.map (·.severity) = [.warning, .critical, .info] :=
  ⟨(disk_space_band .default rfl (by decide)).1, by decide +kernel⟩

end Run

end MegaraidDashboard.Services
