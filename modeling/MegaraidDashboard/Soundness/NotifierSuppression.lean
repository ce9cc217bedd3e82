import MegaraidDashboard.Machine.Run
import MegaraidDashboard.Model.Services.Notifier

/-! # Suppressed duplicates

A cycle marks an event without sending it when another one of the same severity, category and subject
carries a mark inside the suppress window. A mark does not tell whether its event was sent, so that the
window slides with each suppression; the marks are sound as long as no mark inside the window goes on from one
that has left it.
-/

namespace MegaraidDashboard.Services

open Db Web

/-- An event that carries a mark was e-mailed, or another one of its kind was within the window before. -/
def MarksJustified (settings : AlertSettings) (run : NotifierRun) : Prop :=
  ∀ event ∈ run.db.events, ∀ markedAt ∈ event.notifiedAt,
    (∃ email ∈ run.emailed, email.event.id = event.id) ∨
    ∃ email ∈ run.emailed, email.event.id ≠ event.id ∧ sameAlert email.event event = true ∧
      markedAt - settings.suppressWindow event.category ≤ email.sentAt ∧ email.sentAt ≤ markedAt

/-- Such an alert was e-mailed within the suppress window before the time, and the rows carry the mark of it. -/
def BackedWithin (settings : AlertSettings) (rows : List Event) (emailed : List Email) (event : Event) (time : ℤ) : Prop :=
  ∃ email ∈ emailed, sameAlert email.event event = true ∧
    time - settings.suppressWindow event.category ≤ email.sentAt ∧ email.sentAt ≤ time ∧
    ∃ twin ∈ rows, sameAlert twin event = true ∧ twin.notifiedAt = some email.sentAt

/-- The clock of the cycles does not go back. -/
def CyclesInOrder (run : NotifierRun) : NotifierStep → Prop
  | .cycle now _ => ∀ previous ∈ run.lastCycle, previous ≤ now
  | .abortedCycle now _ _ => ∀ previous ∈ run.lastCycle, previous ≤ now
  | _ => True

/-- Alerts of the kind carry a mark from before the window and one inside it, not further apart than the window. -/
def MarksSlide (settings : AlertSettings) (rows : List Event) (event : Event) (now : ℤ) : Prop :=
  ∃ first ∈ rows, ∃ second ∈ rows, sameAlert first event = true ∧ sameAlert second event = true ∧
    ∃ earlier ∈ first.notifiedAt, ∃ later ∈ second.notifiedAt,
      earlier < now - settings.suppressWindow event.category ∧ now - settings.suppressWindow event.category ≤ later ∧
        later - settings.suppressWindow event.category ≤ earlier

/-- No cycle takes up an event while the marks of its kind slide. -/
def NoSlidingMarks (settings : AlertSettings) (run : NotifierRun) : NotifierStep → Prop
  | .cycle now _ => ∀ event ∈ cycleEvents settings run.maintenance run.db now,
      now - settings.suppressWindow event.category ≤ event.occurredAt → ¬MarksSlide settings run.db.events event now
  | _ => True

instance (settings : AlertSettings) (run : NotifierRun) : Decidable (MarksJustified settings run) :=
  inferInstanceAs (Decidable (∀ event ∈ run.db.events, ∀ markedAt ∈ event.notifiedAt, _ ∨ _))

instance (settings : AlertSettings) (rows : List Event) (event : Event) (now : ℤ) :
    Decidable (MarksSlide settings rows event now) :=
  inferInstanceAs (Decidable (∃ first ∈ rows, ∃ second ∈ rows, _ ∧ _ ∧ ∃ earlier ∈ first.notifiedAt,
    ∃ later ∈ second.notifiedAt, _))

instance (run : NotifierRun) : ∀ label, Decidable (CyclesInOrder run label)
  | .record .. => .isTrue trivial
  | .maintenanceStart .. => .isTrue trivial
  | .maintenanceStop .. => .isTrue trivial
  | .cycle _ _ => inferInstanceAs (Decidable (∀ previous ∈ run.lastCycle, _))
  | .abortedCycle _ _ _ => inferInstanceAs (Decidable (∀ previous ∈ run.lastCycle, _))

instance (settings : AlertSettings) (run : NotifierRun) : ∀ label, Decidable (NoSlidingMarks settings run label)
  | .record .. => .isTrue trivial
  | .maintenanceStart .. => .isTrue trivial
  | .maintenanceStop .. => .isTrue trivial
  | .cycle now _ => inferInstanceAs (Decidable (∀ event ∈ cycleEvents settings run.maintenance run.db now, _ → ¬_))
  | .abortedCycle _ _ _ => .isTrue trivial

section Alerts

theorem sameAlert_iff {first second : Event} : sameAlert first second = true ↔
    first.severity = second.severity ∧ first.category = second.category ∧ first.subject = second.subject := by
  simp only [sameAlert, Bool.and_eq_true, beq_iff_eq, and_assoc]

theorem sameAlert_refl (event : Event) : sameAlert event event = true := sameAlert_iff.mpr ⟨rfl, rfl, rfl⟩

theorem sameAlert_trans {first second third : Event} (left : sameAlert first second = true)
    (right : sameAlert second third = true) : sameAlert first third = true := by
  rw [sameAlert_iff] at *
  exact ⟨left.1.trans right.1, left.2.1.trans right.2.1, left.2.2.trans right.2.2⟩

variable {settings : AlertSettings} {emailed emailed' : List Email} {event other : Event} {time : ℤ}

theorem BackedWithin.mono {rows rows' : List Event} (backed : BackedWithin settings rows emailed event time)
    (kept : ∀ row ∈ rows, row.notifiedAt ≠ none → row ∈ rows') (more : emailed ⊆ emailed') :
    BackedWithin settings rows' emailed' event time := by
  obtain ⟨email, member, alert, after, before, twin, present, same, marked⟩ := backed
  exact ⟨email, more member, alert, after, before, twin, kept twin present (by simp [marked]), same, marked⟩

theorem BackedWithin.congr {rows : List Event} (same : sameAlert event other = true)
    (backed : BackedWithin settings rows emailed event time) : BackedWithin settings rows emailed other time := by
  obtain ⟨email, member, alert, after, before, twin, present, kind, marked⟩ := backed
  rw [(sameAlert_iff.mp same).2.1] at after
  exact ⟨email, member, sameAlert_trans alert same, after, before, twin, present, sameAlert_trans kind same, marked⟩

theorem suppressWindow_nonneg (settings : AlertSettings) (category : Category) :
    0 ≤ settings.suppressWindow category := by
  have unit : (0 : ℤ) ≤ Timestamp.minute := by decide
  exact mul_nonneg (Int.natCast_nonneg _) unit

end Alerts

/-! ## One cycle -/

section Cycle

variable {settings : AlertSettings} {run : NotifierRun} {now : ℤ} {transport : Event → Bool}

theorem mem_markEventNotified {db : Database} {id : ℕ} {row : Event}
    (member : row ∈ (markEventNotified db id now).events) : ∃ old ∈ db.events,
      row = if old.id = id then { old with notifiedAt := some now } else old := by
  obtain ⟨old, inside, same⟩ := List.mem_map.mp member
  exact ⟨old, inside, same.symm⟩

theorem ids_markEventNotified (db : Database) (id : ℕ) :
    (markEventNotified db id now).events.map (·.id) = db.events.map (·.id) := by
  rw [markEventNotified, List.map_map]
  apply List.map_congr_left
  intro row _
  simp only [Function.comp_apply]
  split <;> rfl

/-- Such an alert was e-mailed in this cycle, or before it within the window. -/
def NewlyBacked (settings : AlertSettings) (run : NotifierRun) (now : ℤ) (sent : List Event) (event : Event) : Prop :=
  (∃ other ∈ sent, sameAlert other event = true) ∨ BackedWithin settings run.db.events run.emailed event now

/-- What a cycle has made of the rows so far. -/
structure CycleTracked (settings : AlertSettings) (run : NotifierRun) (now : ℤ) (cycle : NotifierCycle) :
    Prop where
  ids : cycle.db.events.map (·.id) = run.db.events.map (·.id)
  kept : ∀ row ∈ run.db.events, row.notifiedAt ≠ none → row ∈ cycle.db.events
  rows : ∀ row ∈ cycle.db.events, ∃ old ∈ run.db.events, old.id = row.id ∧ sameAlert old row = true ∧
    (row = old ∨ row.notifiedAt = some now ∧ NewlyBacked settings run now cycle.emailed row)

/-- What the run knows of marks and messages. -/
structure NotifierRun.Tracked (settings : AlertSettings) (run : NotifierRun) : Prop where
  unique : (run.db.events.map (·.id)).Nodup
  bounded : ∀ row ∈ run.db.events, row.id ≤ run.db.events.length
  marks : ∀ row ∈ run.db.events, ∀ markedAt ∈ row.notifiedAt,
    BackedWithin settings run.db.events run.emailed row markedAt ∧ ∃ last ∈ run.lastCycle, markedAt ≤ last
  messages : ∀ email ∈ run.emailed, ∃ last ∈ run.lastCycle, email.sentAt ≤ last

/-- Marking one pending event, of which an alert was e-mailed within the window. -/
theorem CycleTracked.mark {cycle : NotifierCycle} (cycleTracked : CycleTracked settings run now cycle)
    (tracked : run.Tracked settings) {event : Event} (member : event ∈ run.db.events) (pending : event.notifiedAt = none)
    (sent : List Event) (backed : NewlyBacked settings run now (cycle.emailed ++ sent) event) (attempted : List Event) :
    CycleTracked settings run now ⟨markEventNotified cycle.db event.id now, attempted, cycle.emailed ++ sent⟩ := by
  constructor
  · rw [ids_markEventNotified]
    exact cycleTracked.ids
  · intro row inside marked
    refine List.mem_map.mpr ⟨row, cycleTracked.kept row inside marked, if_neg fun own => marked ?_⟩
    rw [List.inj_on_of_nodup_map tracked.unique inside member own, pending]
  · intro row inside
    obtain ⟨before, present, rfl⟩ := mem_markEventNotified inside
    obtain ⟨old, stored, id, alert, kept⟩ := cycleTracked.rows before present
    refine ⟨old, stored, ?_, ?_, ?_⟩
    · split <;> exact id
    · split <;> exact alert
    · split
      · next own =>
        have same : old = event := List.inj_on_of_nodup_map tracked.unique stored member (id.trans own)
        have alert : sameAlert event { before with notifiedAt := some now } = true := same ▸ alert
        refine .inr ⟨rfl, ?_⟩
        rcases backed with ⟨other, mailed, kind⟩ | earlier
        · exact .inl ⟨other, mailed, sameAlert_trans kind alert⟩
        · exact .inr (earlier.congr alert)
      · rcases kept with rfl | ⟨marked, ⟨other, mailed, kind⟩ | earlier⟩
        · exact .inl rfl
        · exact .inr ⟨marked, .inl ⟨other, List.mem_append_left _ mailed, kind⟩⟩
        · exact .inr ⟨marked, .inr earlier⟩

/-- A twin that was marked before the cycle backs the event, unless the marks slide. -/
theorem NotifierRun.Tracked.backed_of_twin (tracked : run.Tracked settings)
    (forward : ∀ previous ∈ run.lastCycle, previous ≤ now) {event twin : Event} (present : twin ∈ run.db.events)
    (alert : sameAlert twin event = true) {markedAt : ℤ} (marked : twin.notifiedAt = some markedAt)
    (recent : now - settings.suppressWindow event.category ≤ markedAt)
    (apart : ¬MarksSlide settings run.db.events event now) : BackedWithin settings run.db.events run.emailed event now := by
  obtain ⟨backed, last, newest, le⟩ := tracked.marks twin present markedAt marked
  obtain ⟨email, sent, kind, after, before, first, inside, same, firstMarked⟩ := backed.congr alert
  refine ⟨email, sent, kind, ?_, before.trans (le.trans (forward last newest)), first, inside, same, firstMarked⟩
  by_contra left
  exact apart ⟨first, inside, twin, present, same, alert, email.sentAt, firstMarked, markedAt, marked,
    not_le.mp left, recent, after⟩

/-- One pass of the loop. -/
theorem CycleTracked.notify {cycle : NotifierCycle} (cycleTracked : CycleTracked settings run now cycle)
    (tracked : run.Tracked settings) (forward : ∀ previous ∈ run.lastCycle, previous ≤ now) {event : Event}
    (member : event ∈ run.db.events) (pending : event.notifiedAt = none)
    (apart : now - settings.suppressWindow event.category ≤ event.occurredAt →
      ¬MarksSlide settings run.db.events event now) :
    CycleTracked settings run now (cycle.notify settings now transport event) := by
  simp only [NotifierCycle.notify]
  split
  · exact cycleTracked
  · next young =>
    split
    · next duplicate =>
      obtain ⟨twin, present, facts⟩ := List.any_eq_true.mp duplicate
      simp only [Bool.and_eq_true, Option.any_eq_true, decide_eq_true_eq, bne_iff_ne] at facts
      obtain ⟨⟨alert, markedAt, marked, recent⟩, -⟩ := facts
      have backed : NewlyBacked settings run now cycle.emailed event := by
        obtain ⟨old, stored, -, -, rfl | ⟨-, ⟨other, mailed, kind⟩ | earlier⟩⟩ := cycleTracked.rows twin present
        · exact .inr (tracked.backed_of_twin forward stored alert marked recent (apart (not_lt.mp young)))
        · exact .inl ⟨other, mailed, sameAlert_trans kind alert⟩
        · exact .inr (earlier.congr alert)
      have kept := cycleTracked.mark tracked member pending [] (by rwa [List.append_nil]) (cycle.attempted ++ [event])
      rwa [List.append_nil] at kept
    · split
      · refine cycleTracked.mark tracked member pending [event] ?_ _
        exact .inl ⟨event, List.mem_append_right _ List.mem_cons_self, sameAlert_refl event⟩
      · exact ⟨cycleTracked.ids, cycleTracked.kept, cycleTracked.rows⟩

theorem mem_cycleEvents {maintenance : Option MaintenanceRecord} {db : Database} {event : Event}
    (member : event ∈ cycleEvents settings maintenance db now) : event ∈ db.events ∧ event.notifiedAt = none := by
  obtain ⟨-, taken⟩ := List.mem_ite_nil_left.mp member
  split at taken
  · exact absurd taken List.not_mem_nil
  · obtain ⟨inside, selected⟩ := List.mem_filter.mp ((List.mem_insertionSort _).mp taken)
    simp only [Bool.and_eq_true, Option.isNone_iff_eq_none] at selected
    exact ⟨inside, selected.1.2⟩

theorem cycleTracked_start (settings : AlertSettings) (run : NotifierRun) (now : ℤ) :
    CycleTracked settings run now ⟨run.db, [], []⟩ where
  ids := rfl
  kept := fun _ member _ => member
  rows := fun row member => ⟨row, member, rfl, sameAlert_refl row, .inl rfl⟩

/-- A cycle over some of its events. -/
theorem CycleTracked.foldl (tracked : run.Tracked settings)
    (ordered : CyclesInOrder run (.cycle now transport))
    (apart : NoSlidingMarks settings run (.cycle now transport)) {events : List Event}
    (taken : ∀ event ∈ events, event ∈ cycleEvents settings run.maintenance run.db now) {cycle : NotifierCycle}
    (cycleTracked : CycleTracked settings run now cycle) :
    CycleTracked settings run now (events.foldl (NotifierCycle.notify settings now transport) cycle) := by
  induction events generalizing cycle with
  | nil => exact cycleTracked
  | cons event rest ih =>
    have first := taken event List.mem_cons_self
    obtain ⟨member, pending⟩ := mem_cycleEvents first
    refine ih (fun other later => taken other (List.mem_cons_of_mem _ later)) ?_
    exact cycleTracked.notify tracked ordered member pending (apart event first)

/-- What backs a new mark in the cycle backs it in the run behind the cycle. -/
theorem NewlyBacked.backedWithin {cycle : NotifierCycle} {row : Event} (backed : NewlyBacked settings run now cycle.emailed row)
    (cycleTracked : CycleTracked settings run now cycle) (member : row ∈ cycle.db.events)
    (marked : row.notifiedAt = some now) : BackedWithin settings cycle.db.events
      (run.emailed ++ cycle.emailed.map fun event => ⟨event, now⟩) row now := by
  rcases backed with ⟨other, mailed, kind⟩ | earlier
  · have window := suppressWindow_nonneg settings row.category
    refine ⟨⟨other, now⟩, List.mem_append_right _ (List.mem_map_of_mem mailed), kind, ?_, le_rfl, row, member,
      sameAlert_refl row, marked⟩
    change now - settings.suppressWindow row.category ≤ now
    omega
  · exact earlier.mono cycleTracked.kept (List.subset_append_left _ _)

/-- Messages of a cycle carry its time. -/
theorem messages_concat (tracked : run.Tracked settings) (forward : ∀ previous ∈ run.lastCycle, previous ≤ now)
    (sent : List Event) : ∀ email ∈ run.emailed ++ sent.map fun event => (⟨event, now⟩ : Email),
      ∃ last ∈ some now, email.sentAt ≤ last := by
  intro email member
  refine ⟨now, rfl, ?_⟩
  rcases List.mem_append.mp member with old | new
  · obtain ⟨last, newest, le⟩ := tracked.messages email old
    exact le.trans (forward last newest)
  · obtain ⟨event, -, rfl⟩ := List.mem_map.mp new
    exact le_rfl

end Cycle

/-! ## Runs -/

section Runs

variable {settings : AlertSettings} {run : NotifierRun}

theorem NotifierRun.tracked_initial (settings : AlertSettings) : NotifierRun.initial.Tracked settings where
  unique := .nil
  bounded := List.forall_mem_nil _
  marks := List.forall_mem_nil _
  messages := List.forall_mem_nil _

theorem NotifierRun.Tracked.insertEvent (tracked : run.Tracked settings) (occurredAt : ℤ) (severity : Severity)
    (category : Category) (subject : Subject) (summary : String) (before after : Option Payload)
    (operatorUsername : Option String) (maintenance : Option MaintenanceRecord) :
    NotifierRun.Tracked settings { run with
      maintenance := maintenance
      db := run.db.insertEvent occurredAt severity category subject summary before after operatorUsername } where
  unique := by
    simp only [Database.insertEvent, List.map_append, List.map_singleton]
    refine List.nodup_append.mpr ⟨tracked.unique, List.nodup_singleton _, ?_⟩
    intro id old other new same
    obtain ⟨row, member, rfl⟩ := List.mem_map.mp old
    have bound := tracked.bounded row member
    rw [List.mem_singleton] at new
    omega
  bounded := by
    intro row member
    simp only [Database.insertEvent, List.length_append, List.length_singleton]
    rcases List.mem_append.mp member with old | new
    · have bound := tracked.bounded row old
      omega
    · rw [List.mem_singleton.mp new]
  marks := by
    intro row member markedAt marked
    rcases List.mem_append.mp member with old | new
    · obtain ⟨backed, last⟩ := tracked.marks row old markedAt marked
      exact ⟨backed.mono (fun row member _ => List.mem_append_left _ member) (List.Subset.refl _), last⟩
    · rw [List.mem_singleton.mp new] at marked
      cases marked
  messages := tracked.messages

/-- One step keeps every mark justified. -/
theorem NotifierRun.Tracked.step (tracked : run.Tracked settings) {label : NotifierStep}
    (ordered : CyclesInOrder run label) (apart : NoSlidingMarks settings run label) :
    (run.step settings label).Tracked settings := by
  cases label with
  | record occurredAt severity category subject summary before after operatorUsername =>
    exact tracked.insertEvent _ _ _ _ _ _ _ _ run.maintenance
  | maintenanceStart request username now => exact tracked.insertEvent _ _ _ _ _ _ _ _ _
  | maintenanceStop username now =>
    simp only [NotifierRun.step]
    split
    · exact tracked.insertEvent _ _ _ _ _ _ _ _ _
    · exact ⟨tracked.unique, tracked.bounded, tracked.marks, tracked.messages⟩
  | cycle now transport =>
    have cycleTracked := CycleTracked.foldl tracked ordered apart (fun _ member => member)
      (cycleTracked_start settings run now)
    constructor
    · exact cycleTracked.ids ▸ tracked.unique
    · intro row member
      obtain ⟨old, stored, id, -, -⟩ := cycleTracked.rows row member
      have bound := tracked.bounded old stored
      have length := congrArg List.length cycleTracked.ids
      rw [List.length_map, List.length_map] at length
      change row.id ≤ (runNotifierCycle settings run.maintenance run.db now transport).db.events.length
      rw [← id]
      exact bound.trans length.symm.le
    · intro row member markedAt marked
      obtain ⟨old, stored, -, -, rfl | ⟨markedNow, backed⟩⟩ := cycleTracked.rows row member
      · obtain ⟨backed, last, newest, le⟩ := tracked.marks row stored markedAt marked
        exact ⟨backed.mono cycleTracked.kept (List.subset_append_left _ _), now, rfl, le.trans (ordered last newest)⟩
      · obtain rfl : now = markedAt := Option.some.inj (markedNow.symm.trans marked)
        exact ⟨backed.backedWithin cycleTracked member markedNow, now, rfl, le_rfl⟩
    · exact messages_concat tracked ordered _
  | abortedCycle now transport after =>
    constructor
    · exact tracked.unique
    · exact tracked.bounded
    · intro row member markedAt marked
      obtain ⟨backed, last, newest, le⟩ := tracked.marks row member markedAt marked
      exact ⟨backed.mono (fun _ member _ => member) (List.subset_append_left _ _), now, rfl, le.trans (ordered last newest)⟩
    · exact messages_concat tracked ordered _

end Runs

/-- In every run with a clock that does not go back, in which no alert is taken up while the marks of its kind slide,
every mark is justified. -/
theorem suppressed_marks_justified (settings : AlertSettings) (labels : List NotifierStep)
    (ordered : Machine.Guarded (NotifierRun.step settings) CyclesInOrder .initial labels)
    (apart : Machine.Guarded (NotifierRun.step settings) (NoSlidingMarks settings) .initial labels) :
    MarksJustified settings (labels.foldl (NotifierRun.step settings) .initial) := by
  have tracked := (ordered.and apart).invariant (NotifierRun.tracked_initial settings)
    fun run label tracked guards => tracked.step guards.1 guards.2
  intro event member markedAt marked
  obtain ⟨⟨email, sent, alert, after, before, -⟩, -⟩ := tracked.marks event member markedAt marked
  by_cases own : email.event.id = event.id
  · exact .inl ⟨email, sent, own⟩
  · exact .inr ⟨email, sent, own, alert, after, before⟩

/-! ## A sliding window -/

/-- A recurring alert, and the cycle that takes it up; the minutes count from a thousand days after the first instant. -/
def recurrence (minutes : ℕ) : List NotifierStep :=
  let time := 1000 * Timestamp.day + minutes * Timestamp.minute
  [.record time .critical .pdState (.physicalDrive 252 0) "PD e252:s0 state changed" none none none,
    .cycle time fun _ => true]

/-- An alert, its repetition within the window, and one more when both marks have left the window. -/
theorem suppressed_marks_justified_repetition :
    MarksJustified .default
      ((recurrence 0 ++ recurrence 50 ++ recurrence 120).foldl (NotifierRun.step .default) .initial) :=
  suppressed_marks_justified .default _ (by decide +kernel) (by decide +kernel)

/-- The third alert is suppressed because the second one was, 100 minutes after the only message. -/
theorem not_suppressed_marks_justified :
    ¬ ∀ (settings : AlertSettings) (labels : List NotifierStep),
      Machine.Guarded (NotifierRun.step settings) CyclesInOrder .initial labels →
        MarksJustified settings (labels.foldl (NotifierRun.step settings) .initial) := by
  intro justified
  have third := justified .default (recurrence 0 ++ recurrence 50 ++ recurrence 100) (by decide +kernel)
  revert third
  decide +kernel

end MegaraidDashboard.Services
