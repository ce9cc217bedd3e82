import MegaraidDashboard.Model.Web.WriteRoutes

/-! # Writes are authorised when they are sent

The record of the maintenance window is replaced, never deleted. A request that was let in may outlive its
window; `before_write` decides on the record and the instant of the dispatch.
-/

namespace MegaraidDashboard.Web

open Db

section Routes

theorem contains_show_append {head : String} {first : Char} (rest : String) (tail : List String)
    (starts : head.toList.head? = some first) (other : first ≠ 's') :
    ((head ++ rest) :: tail).contains "show" = tail.contains "show" := by
  have different : ("show" == head ++ rest) = false := by
    rw [beq_eq_false_iff_ne]
    intro same
    have heads : some 's' = (head ++ rest).toList.head? := congrArg (fun word => word.toList.head?) same
    rw [String.toList_append, List.head?_append, starts] at heads
    exact other (Option.some.inj heads).symm
  rw [List.contains_cons, different, Bool.false_or]

theorem contains_show_driveSelector (enclosureId slotId : ℕ) (tail : List String) :
    (WriteRoute.driveSelector enclosureId slotId :: tail).contains "show" = tail.contains "show" := by
  rw [WriteRoute.driveSelector, String.append_assoc, String.append_assoc]
  exact contains_show_append _ _ (show "/c0/e".toList.head? = some '/' by decide) (by decide)

/-- No write carries the word that lets `run_storcli` skip the check. -/
theorem show_notMem_argv (route : WriteRoute) : route.argv.contains "show" = false := by
  cases route with
  | locate action _ _ =>
    rw [WriteRoute.argv, contains_show_driveSelector]
    cases action <;> decide
  | replaceStep step _ _ =>
    rw [WriteRoute.argv, contains_show_driveSelector]
    cases step <;> decide
  | replaceInsert _ _ dg array row =>
    have dgWord := contains_show_append (toString dg) ["array=" ++ toString array, "row=" ++ toString row, "J"]
      (show "dg=".toList.head? = some 'd' by decide) (by decide)
    have arrayWord := contains_show_append (toString array) ["row=" ++ toString row, "J"]
      (show "array=".toList.head? = some 'a' by decide) (by decide)
    have rowWord := contains_show_append (toString row) ["J"]
      (show "row=".toList.head? = some 'r' by decide) (by decide)
    rw [WriteRoute.argv, contains_show_driveSelector, List.contains_cons, dgWord, arrayWord, rowWord]
    decide
  | advancedDriveAction action _ _ =>
    cases action with
    | makeHotSpare dgId =>
      have dgsWord := contains_show_append (toString dgId) []
        (show "dgs=".toList.head? = some 'd' by decide) (by decide)
      rw [WriteRoute.argv, contains_show_driveSelector, List.contains_cons, List.contains_cons, dgsWord]
      decide
    | _ =>
      rw [WriteRoute.argv, contains_show_driveSelector]
      decide
  | patrolRead action =>
    cases action with
    | mode mode => cases mode <;> decide
    | _ => decide
  | consistencyCheck action =>
    cases action with
    | start vdId =>
      cases vdId with
      | none => decide
      | some vdId =>
        rw [WriteRoute.argv, contains_show_append _ _ (show "/c0/v".toList.head? = some '/' by decide) (by decide)]
        decide
    | stop => decide
    | mode mode => cases mode <;> decide
  | buzzer action => cases action <;> decide
  | foreignConfig action => cases action <;> decide

/-- The name of the route that may stop Locate without a window. -/
theorem name_eq_drive_locate_stop {route : WriteRoute} :
    route.name = "drive_locate_stop" ↔ ∃ enclosureId slotId, route = .locate .stop enclosureId slotId := by
  constructor
  · intro named
    unfold WriteRoute.name at named
    split at named
    all_goals first
      | exact ⟨_, _, rfl⟩
      | exact absurd named (by decide)
  · rintro ⟨enclosureId, slotId, rfl⟩
    rfl

end Routes

/-! ## The check -/

/-- Writes are enabled: the recorded window is active and unexpired, or no window was ever recorded and the
configured flag is on. -/
def WritesEnabled (stored : Option MaintenanceRecord) (configured : Bool) (now : ℤ) : Prop :=
  (∃ record, stored = some record ∧ record.active = true ∧ ∀ expiresAt ∈ record.expiresAt, now < expiresAt) ∨
    (stored = none ∧ configured = true)

theorem maintenanceWritesEnabled_iff {stored : Option MaintenanceRecord} {configured : Bool} {now : ℤ} :
    maintenanceWritesEnabled stored configured now = true ↔ WritesEnabled stored configured now := by
  cases stored with
  | none => simp [maintenanceWritesEnabled, WritesEnabled]
  | some record =>
    cases expiry : record.expiresAt with
    | none => simp [maintenanceWritesEnabled, maintenanceActive, WritesEnabled, expiry]
    | some expiresAt => simp [maintenanceWritesEnabled, maintenanceActive, WritesEnabled, expiry]

/-- What `before_write` lets through. -/
theorem beforeWrite_iff {settings : WriteSettings} {stored : Option MaintenanceRecord} {request : WriteRequest}
    {now : ℤ} : beforeWrite settings stored request now = true ↔
      settings.controllerReadOnly = false ∧ settings.controllerActionCapability = .fullSupportedActions ∧
      ((∃ enclosureId slotId, request.route = .locate .stop enclosureId slotId) ∨
        WritesEnabled stored settings.maintenanceMode now) ∧
      ((Py.contains request.urlPath "/replace/" = true ∨ Py.contains request.urlPath "/foreign-config/" = true) →
        settings.destructiveMode = true) := by
  have destructive (first second allowed : Bool) : ((first || second) = false ∨ allowed = true) ↔
      ((first = true ∨ second = true) → allowed = true) := by
    cases first <;> cases second <;> cases allowed <;> decide
  rw [← name_eq_drive_locate_stop, ← maintenanceWritesEnabled_iff, ← destructive]
  simp only [beforeWrite, writeSettings, Bool.not_eq_true', Bool.or_eq_false_iff, Bool.and_eq_false_iff,
    bne_eq_false_iff_eq, Bool.not_eq_false', beq_iff_eq, and_assoc]

/-- What the last gate of `run_storcli` lets through in the full capability. -/
theorem runStorcliSends_iff {settings : WriteSettings} (full : settings.controllerActionCapability = .fullSupportedActions)
    {stored : Option MaintenanceRecord} {request : WriteRequest} {now : ℤ} :
    runStorcliSends request.route.argv (authorizationKwargs settings request) stored now = true ↔
      beforeWrite settings stored request now = true := by
  rw [authorizationKwargs, if_pos full, runStorcliSends, show_notMem_argv, Bool.false_or]

/-- The entry check of the routes under `/replace/` and `/foreign-config/`. -/
theorem destructive_of_entryAllowed {route : WriteRoute} {maintenanceMode destructiveMode : Bool}
    (allowed : route.entryAllowed maintenanceMode destructiveMode = true) (under : route.underDestructivePath = true) :
    destructiveMode = true := by
  cases route with
  | replaceStep _ _ _ => exact (Bool.and_eq_true_iff.mp allowed).2
  | replaceInsert _ _ _ _ _ => exact (Bool.and_eq_true_iff.mp allowed).2
  | foreignConfig _ => exact (Bool.and_eq_true_iff.mp allowed).2
  | _ => cases under

/-! ## Runs -/

section Runs

variable {ι : Type} [DecidableEq ι] {settings : WriteSettings} {requests : ι → WriteRequest} {run : WriteRun ι}

/-- Every request that was let in has passed its entry check. -/
def Admitted (settings : WriteSettings) (requests : ι → WriteRequest) (run : WriteRun ι) : Prop :=
  ∀ index, run.phase index = .admitted → (requests index).route.underDestructivePath = true →
    settings.destructiveMode = true

theorem Admitted.setPhase (admitted : Admitted settings requests run) {index : ι} {phase : WritePhase}
    (entry : phase = .admitted → (requests index).route.underDestructivePath = true → settings.destructiveMode = true) :
    Admitted settings requests (run.setPhase index phase) := by
  intro other reached
  change Function.update run.phase index phase other = .admitted at reached
  rw [Function.update_apply] at reached
  split_ifs at reached with same
  · exact same ▸ entry reached
  · exact admitted other reached

theorem Admitted.step (admitted : Admitted settings requests run) (label : WriteStep ι) :
    Admitted settings requests (run.step settings requests label) := by
  cases label with
  | maintenanceStart _ _ _ => exact admitted
  | maintenanceStop _ => exact admitted
  | refuse index => exact admitted.setPhase fun ended => nomatch ended
  | enter index now =>
    cases phase : run.phase index with
    | arrived =>
      simp only [WriteRun.step, phase]
      split_ifs with allowed
      · exact admitted.setPhase fun _ => destructive_of_entryAllowed allowed
      · exact admitted.setPhase fun ended => nomatch ended
    | _ => simpa only [WriteRun.step, phase] using admitted
  | write index now =>
    cases phase : run.phase index with
    | admitted =>
      simp only [WriteRun.step, phase]
      split_ifs
      · exact admitted.setPhase fun ended => nomatch ended
      · exact admitted.setPhase fun ended => nomatch ended
    | _ => simpa only [WriteRun.step, phase] using admitted

/-- The record is replaced, never deleted. -/
theorem stored_step (label : WriteStep ι) (recorded : run.stored ≠ none ∨ label.recordsWindow = true) :
    (run.step settings requests label).stored ≠ none := by
  have kept (old : run.stored ≠ none ∨ false = true) : run.stored ≠ none := old.resolve_right Bool.false_ne_true
  cases label with
  | maintenanceStart _ _ _ => exact Option.some_ne_none _
  | maintenanceStop _ => exact Option.some_ne_none _
  | refuse _ => exact kept recorded
  | enter index now =>
    simp only [WriteRun.step]
    split
    · split_ifs
      · exact kept recorded
      · exact kept recorded
    · exact kept recorded
  | write index now =>
    simp only [WriteRun.step]
    split
    · split_ifs
      · exact kept recorded
      · exact kept recorded
    · exact kept recorded

theorem stored_foldl {labels : List (WriteStep ι)}
    (recorded : run.stored ≠ none ∨ ∃ label ∈ labels, label.recordsWindow = true) :
    (labels.foldl (WriteRun.step settings requests) run).stored ≠ none := by
  induction labels generalizing run with
  | nil => exact recorded.resolve_right fun ⟨_, member, _⟩ => nomatch member
  | cons label rest ih =>
    apply ih
    rcases recorded with old | ⟨other, member, records⟩
    · exact .inl (stored_step label (.inl old))
    · rcases List.mem_cons.mp member with rfl | later
      · exact .inl (stored_step other (.inr records))
      · exact .inr ⟨other, later, records⟩

/-- The only step that sends a write, and what holds at that instant. -/
theorem dispatched_step (full : settings.controllerActionCapability = .fullSupportedActions) (label : WriteStep ι) :
    (run.step settings requests label).dispatched = run.dispatched ∨
      ∃ index now, label = .write index now ∧ run.phase index = .admitted ∧
        (run.step settings requests label).dispatched = run.dispatched ++ [index] ∧
        beforeWrite settings run.stored (requests index) now = true := by
  cases label with
  | maintenanceStart _ _ _ => exact .inl rfl
  | maintenanceStop _ => exact .inl rfl
  | refuse _ => exact .inl rfl
  | enter index now =>
    left
    simp only [WriteRun.step]
    split
    · split_ifs
      · rfl
      · rfl
    · rfl
  | write index now =>
    cases phase : run.phase index with
    | admitted =>
      simp only [WriteRun.step, phase]
      split_ifs with sends
      · exact .inr ⟨index, now, rfl, phase, rfl, (runStorcliSends_iff full).mp sends⟩
      · exact .inl rfl
    | _ => exact .inl (by simp only [WriteRun.step, phase])

end Runs

/-- What holds of a request at the instant its write is sent; `recorded` says that a window was ever recorded. -/
structure DispatchAuthorised (settings : WriteSettings) (stored : Option MaintenanceRecord) (recorded : Prop)
    (request : WriteRequest) (now : ℤ) : Prop where
  enabled : (∃ enclosureId slotId, request.route = .locate .stop enclosureId slotId) ∨
    WritesEnabled stored settings.maintenanceMode now
  destructive : request.route.underDestructivePath = true ∨ Py.contains request.urlPath "/replace/" = true ∨
    Py.contains request.urlPath "/foreign-config/" = true → settings.destructiveMode = true
  window : recorded → (∃ enclosureId slotId, request.route = .locate .stop enclosureId slotId) ∨
    ∃ record, stored = some record ∧ record.active = true ∧ ∀ expiresAt ∈ record.expiresAt, now < expiresAt

/-- In every run of maintenance requests and write requests, a step sends at most one write, the one of its own
request, and only if at that instant the request is Locate Stop or writes are enabled; a route or a path under
`/replace/` or `/foreign-config/` needs the destructive mode as well; and behind any recorded window, the
configured flag enables nothing. -/
theorem writes_authorised_at_dispatch {ι : Type} [DecidableEq ι] {settings : WriteSettings}
    (full : settings.controllerActionCapability = .fullSupportedActions) (requests : ι → WriteRequest)
    (stored : Option MaintenanceRecord) (labels : List (WriteStep ι)) (label : WriteStep ι) :
    let run := labels.foldl (WriteRun.step settings requests) (WriteRun.initial stored)
    (run.step settings requests label).dispatched = run.dispatched ∨
      ∃ index now, label = .write index now ∧
        (run.step settings requests label).dispatched = run.dispatched ++ [index] ∧
        DispatchAuthorised settings run.stored
          (stored ≠ none ∨ ∃ earlier ∈ labels, earlier.recordsWindow = true) (requests index) now := by
  intro run
  have admitted : Admitted settings requests run := by
    apply List.foldlRecOn labels
    · exact fun index reached => nomatch reached
    · exact fun _ kept label _ => kept.step label
  rcases dispatched_step full label with same | ⟨index, now, here, reached, sent, allowed⟩
  · exact .inl same
  · obtain ⟨-, -, enabled, path⟩ := beforeWrite_iff.mp allowed
    refine .inr ⟨index, now, here, sent, enabled, ?_, ?_⟩
    · rintro (under | inPath)
      · exact admitted index reached under
      · exact path inPath
    · intro recorded
      have present : run.stored ≠ none := stored_foldl recorded
      rcases enabled with recovery | window | ⟨absent, -⟩
      · exact .inl recovery
      · exact .inr window
      · exact absurd absent present

section Expiry

def flagConfigured : WriteSettings := ⟨false, .fullSupportedActions, true, true⟩

/-- Locate Stop and Missing of one slot. -/
def stopAndMissing : Bool → WriteRequest
  | true => ⟨.locate .stop 252 4, "/drives/252:4/locate/stop"⟩
  | false => ⟨.replaceStep .missing 252 4, "/drives/252:4/replace/missing"⟩

/-- Both requests are let in under a window of one minute; Missing gets to its write behind the window. -/
def lateMissing : List (WriteStep Bool) :=
  [.maintenanceStart ⟨1, "swap", by decide, by decide, by decide, by decide⟩ "admin" 0, .enter false 1, .enter true 2,
    .write false (2 * Timestamp.minute)]

/-- A window that expires between the entry of a request and its dispatch stops the write, although the flag is
configured; Locate Stop is sent. -/
theorem writes_authorised_at_dispatch_expired :
    let run := lateMissing.foldl (WriteRun.step flagConfigured stopAndMissing) (WriteRun.initial none)
    let after := run.step flagConfigured stopAndMissing (.write true (3 * Timestamp.minute))
    run.dispatched = [] ∧ after.dispatched = [true] ∧ (after.dispatched = run.dispatched ∨
      ∃ index now, .write true (3 * Timestamp.minute) = WriteStep.write index now ∧
        after.dispatched = run.dispatched ++ [index] ∧ DispatchAuthorised flagConfigured run.stored
          (none ≠ (none : Option MaintenanceRecord) ∨ ∃ earlier ∈ lateMissing, earlier.recordsWindow = true)
          (stopAndMissing index) now) :=
  ⟨by decide +kernel, by decide +kernel, writes_authorised_at_dispatch rfl stopAndMissing none lateMissing _⟩

end Expiry

end MegaraidDashboard.Web
