import MegaraidDashboard.Machine.Run
import MegaraidDashboard.Model.Web.Metrics
import MegaraidDashboard.Soundness.ControllerHealth
import MegaraidDashboard.Soundness.FailedAttempts

/-! # What a scrape reports

The cache of the exporter is keyed by the identifier of a row. While the retention leaves the newest snapshot, no
identifier of the cache or of a scrape returns, and every answer shows the snapshot that was the newest when the scrape
began. Without it the identifiers start anew, and the cache answers for a snapshot that it never read.
-/

namespace MegaraidDashboard.Web

open Db Storcli Services

/-! ## Identifiers -/

namespace Exporter

theorem lt_nextId {exporter : Exporter} {row : StoredSnapshot} (member : row ∈ exporter.rows) :
    row.id < exporter.nextId :=
  Nat.lt_succ_of_le (List.le_of_max?_eq_some List.max?_cons' (List.mem_cons_of_mem 0 (List.mem_map_of_mem member)))

/-- The rows stand in the order of their identifiers. -/
def Ascending (rows : List StoredSnapshot) : Prop := rows.Pairwise fun first second => first.id < second.id

/-- The newest snapshot has this identifier or one that was handed out after it. -/
def Given (rows : List StoredSnapshot) (id : ℕ) : Prop :=
  ∃ top, rows.latest? (·.snapshot.capturedAt) = some top ∧ id ≤ top.id

variable {exporter : Exporter}

theorem Ascending.unique {rows : List StoredSnapshot} (ascending : Ascending rows) : (rows.map (·.id)).Nodup :=
  List.pairwise_map.mpr (ascending.imp fun less => Nat.ne_of_lt less)

theorem Ascending.find_eq (ascending : Ascending exporter.rows) {row : StoredSnapshot} (member : row ∈ exporter.rows) :
    exporter.find row.id = some row :=
  List.find?_key_of_mem ascending.unique member

theorem of_find {id : ℕ} {row : StoredSnapshot} (found : exporter.find id = some row) :
    row ∈ exporter.rows ∧ row.id = id := by
  have matched := List.find?_some found
  exact ⟨List.mem_of_find?_eq_some found, beq_iff_eq.mp matched⟩

/-! ## Steps of the tables -/

/-- The retention leaves the newest snapshot. -/
def Regular (exporter : Exporter) : ExporterStep → Prop
  | .prune cutoff => (exporter.newest.all fun row => decide (cutoff ≤ row.snapshot.capturedAt)) = true
  | .poll _ | .query | .restart => True

instance (exporter : Exporter) : (step : ExporterStep) → Decidable (exporter.Regular step)
  | .prune _ => inferInstanceAs (Decidable (_ = true))
  | .poll _ | .query | .restart => .isTrue trivial

theorem Ascending.insert (ascending : Ascending exporter.rows) (snapshot : StorcliSnapshot) :
    Ascending (exporter.insert snapshot).rows := by
  refine List.pairwise_append.mpr ⟨ascending, List.pairwise_singleton _ _, fun row member last inside => ?_⟩
  rw [List.mem_singleton.mp inside]
  exact lt_nextId member

theorem Ascending.prune (ascending : Ascending exporter.rows) (cutoff : ℤ) : Ascending (exporter.prune cutoff).rows :=
  ascending.filter _

/-- A snapshot that becomes the newest one has the greatest identifier of all. -/
theorem Given.insert {id : ℕ} (given_ : Given exporter.rows id) (snapshot : StorcliSnapshot) :
    Given (exporter.insert snapshot).rows id := by
  obtain ⟨top, found, le⟩ := given_
  have greater : top.id < exporter.nextId := lt_nextId (List.latest?_mem found)
  rw [Given, Exporter.insert, List.latest?_concat_eq, found, Option.elim_some]
  refine ⟨_, rfl, ?_⟩
  split_ifs
  · exact le
  · exact le.trans greater.le

theorem Given.prune {id : ℕ} (given_ : Given exporter.rows id) {cutoff : ℤ}
    (leaves : exporter.Regular (.prune cutoff)) : Given (exporter.prune cutoff).rows id := by
  obtain ⟨top, found, le⟩ := given_
  have kept : decide (cutoff ≤ top.snapshot.capturedAt) = true := by
    rw [Regular, Exporter.newest, found] at leaves
    exact leaves
  exact ⟨top, List.latest?_filter_of_pos found kept, le⟩

/-- No poll brings a given identifier back. -/
theorem Given.mem_of_insert {snapshot : StorcliSnapshot} {row : StoredSnapshot} (given_ : Given exporter.rows row.id)
    (member : row ∈ (exporter.insert snapshot).rows) : row ∈ exporter.rows := by
  rcases List.mem_append.mp member with old | new
  · exact old
  · obtain ⟨top, found, le⟩ := given_
    rw [List.mem_singleton.mp new] at le
    exact absurd (lt_nextId (List.latest?_mem found)) (Nat.not_lt.mpr le)

end Exporter

/-! ## Coherence -/

section Coherence

variable [PyText] (settings : Option Settings)

/-- What the queries of a scrape have loaded is the snapshot that was the newest, as long as it is stored. -/
def Scrape.Loads (rows : List StoredSnapshot) (newest : StoredSnapshot) : Scrape → Prop
  | .get latestId => latestId = newest.id
  | .physicalDrives row | .virtualDrives row | .cachevault row => row.id = newest.id ∧ (newest ∈ rows → row = newest)

/-- The families of the newest snapshot, and none without a snapshot. -/
def reported (newest : Option StoredSnapshot) : List GaugeMetricFamily := newest.elim [] (families settings)

/-- A scrape goes on for a snapshot whose identifier no other row has. -/
structure Scrape.Follows (rows : List StoredSnapshot) (newest : StoredSnapshot) (scrape : Scrape) : Prop where
  given_ : Exporter.Given rows newest.id
  single : ∀ row ∈ rows, row.id = newest.id → row = newest
  loads : scrape.Loads rows newest

structure Exporter.Coherent (exporter : Exporter) : Prop where
  ascending : Ascending exporter.rows
  cachedGiven : ∀ id, exporter.cache.1 = some id → Given exporter.rows id
  cached : ∀ row ∈ exporter.rows, exporter.cache.1 = some row.id → exporter.cache.2 = families settings row
  scrape : ∀ newest scrape, exporter.scrape = some (newest, scrape) → scrape.Follows exporter.rows newest
  answered : ∀ exposition ∈ exporter.expositions, exposition.stored = true →
    exposition.families = reported settings exposition.newest

namespace Exporter

variable {settings} {exporter : Exporter}

theorem coherent_initial : Exporter.initial.Coherent settings where
  ascending := .nil
  cachedGiven _ same := absurd same.symm (Option.some_ne_none _)
  cached _ member := absurd member List.not_mem_nil
  scrape _ _ current := absurd current.symm (Option.some_ne_none _)
  answered _ member := absurd member List.not_mem_nil

/-- A step of the table keeps the coherence when it keeps what was given and brings no identifier back. -/
theorem Coherent.withRows (coherent : exporter.Coherent settings) {rows : List StoredSnapshot}
    (ascending : Ascending rows) (keeps : ∀ id, Given exporter.rows id → Given rows id)
    (old : ∀ row ∈ rows, Given exporter.rows row.id → row ∈ exporter.rows) :
    Exporter.Coherent settings { exporter with rows := rows } where
  ascending := ascending
  cachedGiven id same := keeps id (coherent.cachedGiven id same)
  cached row member same := coherent.cached row (old row member (coherent.cachedGiven row.id same)) same
  scrape newest scrape current := by
    have follows := coherent.scrape newest scrape current
    refine ⟨keeps newest.id follows.given_, ?_, ?_⟩
    · intro row member same
      exact follows.single row (old row member (same ▸ follows.given_)) same
    · have stored (member : newest ∈ rows) : newest ∈ exporter.rows := old newest member follows.given_
      cases scrape with
      | get => exact follows.loads
      | physicalDrives row | virtualDrives row | cachevault row =>
        exact ⟨follows.loads.1, fun member => follows.loads.2 (stored member)⟩
  answered := coherent.answered

theorem Coherent.insert (coherent : exporter.Coherent settings) (snapshot : StorcliSnapshot) :
    (exporter.insert snapshot).Coherent settings :=
  coherent.withRows (coherent.ascending.insert snapshot) (fun _ given_ => given_.insert snapshot)
    fun _ member given_ => given_.mem_of_insert member

theorem Coherent.prune (coherent : exporter.Coherent settings) {cutoff : ℤ}
    (leaves : exporter.Regular (.prune cutoff)) : (exporter.prune cutoff).Coherent settings :=
  coherent.withRows (coherent.ascending.prune cutoff) (fun _ given_ => given_.prune leaves)
    fun _ member _ => (List.mem_filter.mp member).1

/-- An answer that is right while its snapshot is stored. -/
theorem Coherent.answer (coherent : exporter.Coherent settings) (newest : Option StoredSnapshot)
    {shown : List GaugeMetricFamily}
    (right : (newest.all fun row => exporter.rows.contains row) = true → shown = reported settings newest) :
    (exporter.answer newest shown).Coherent settings where
  ascending := coherent.ascending
  cachedGiven := coherent.cachedGiven
  cached := coherent.cached
  scrape _ _ current := absurd current.symm (Option.some_ne_none _)
  answered exposition member stored := by
    rcases List.mem_append.mp member with old | new
    · exact coherent.answered exposition old stored
    · obtain rfl := List.mem_singleton.mp new
      exact right stored

theorem Coherent.withCache (coherent : exporter.Coherent settings) {cache : Option ℕ × List GaugeMetricFamily}
    (cachedGiven : ∀ id, cache.1 = some id → Given exporter.rows id)
    (cached : ∀ row ∈ exporter.rows, cache.1 = some row.id → cache.2 = families settings row) :
    Exporter.Coherent settings { exporter with cache := cache } where
  ascending := coherent.ascending
  cachedGiven := cachedGiven
  cached := cached
  scrape := coherent.scrape
  answered := coherent.answered

theorem Coherent.withScrape (coherent : exporter.Coherent settings) {newest : StoredSnapshot} {next : Scrape}
    (follows : next.Follows exporter.rows newest) :
    Exporter.Coherent settings { exporter with scrape := some (newest, next) } where
  ascending := coherent.ascending
  cachedGiven := coherent.cachedGiven
  cached := coherent.cached
  scrape := by
    rintro _ _ ⟨⟩
    exact follows
  answered := coherent.answered

/-- The families of a row are kept under its identifier and answered. -/
theorem Coherent.built (coherent : exporter.Coherent settings) {newest : StoredSnapshot} {scrape : Scrape}
    (follows : scrape.Follows exporter.rows newest) {shown : List GaugeMetricFamily}
    (right : newest ∈ exporter.rows → shown = families settings newest) :
    (exporter.built (some newest) (some newest.id) shown).Coherent settings := by
  refine (coherent.withCache ?_ ?_).answer (some newest) ?_
  · rintro _ ⟨⟩
    exact follows.given_
  · intro row member same
    obtain rfl := follows.single row member (Option.some.inj same).symm
    exact right member
  · intro stored
    exact right (List.contains_iff_mem.mp stored)

theorem Coherent.begin (coherent : exporter.Coherent settings) : exporter.begin.Coherent settings := by
  rw [Exporter.begin]
  cases found : exporter.newest with
  | none =>
    refine (coherent.withCache ?_ ?_).answer none fun _ => rfl
    · exact fun _ same => absurd same.symm (Option.some_ne_none _)
    · exact fun _ _ same => absurd same.symm (Option.some_ne_none _)
  | some row =>
    have member : row ∈ exporter.rows := List.latest?_mem found
    dsimp only
    split_ifs with hit
    · exact coherent.answer (some row) fun _ => coherent.cached row member hit
    · refine coherent.withScrape ⟨⟨row, found, le_rfl⟩, ?_, rfl⟩
      intro other inside same
      exact List.inj_on_of_nodup_map coherent.ascending.unique inside member same

theorem Coherent.query (coherent : exporter.Coherent settings) : (exporter.query settings).Coherent settings := by
  rw [Exporter.query]
  cases current : exporter.scrape with
  | none => exact coherent.begin
  | some state =>
    obtain ⟨newest, scrape⟩ := state
    have follows := coherent.scrape newest scrape current
    cases scrape with
    | get latestId =>
      obtain rfl : latestId = newest.id := follows.loads
      dsimp only
      cases found : exporter.find newest.id with
      | none =>
        refine coherent.built follows fun member => ?_
        rw [coherent.ascending.find_eq member] at found
        cases found
      | some row =>
        obtain ⟨member, same⟩ := of_find found
        exact coherent.withScrape ⟨follows.given_, follows.single, same, fun _ => follows.single row member same⟩
    | physicalDrives row =>
      refine coherent.withScrape ⟨follows.given_, follows.single, follows.loads.1, fun member => ?_⟩
      rw [follows.loads.2 member, coherent.ascending.find_eq member]
      rfl
    | virtualDrives row =>
      refine coherent.withScrape ⟨follows.given_, follows.single, follows.loads.1, fun member => ?_⟩
      rw [follows.loads.2 member, coherent.ascending.find_eq member]
      rfl
    | cachevault row =>
      dsimp only
      rw [follows.loads.1]
      refine coherent.built follows fun member => ?_
      rw [follows.loads.2 member, coherent.ascending.find_eq member]
      rfl

theorem Coherent.restart (coherent : exporter.Coherent settings) : (exporter.step settings .restart).Coherent settings where
  ascending := coherent.ascending
  cachedGiven _ same := absurd same.symm (Option.some_ne_none _)
  cached _ _ same := absurd same.symm (Option.some_ne_none _)
  scrape _ _ current := absurd current.symm (Option.some_ne_none _)
  answered := coherent.answered

theorem Coherent.step (coherent : exporter.Coherent settings) {step : ExporterStep} (regular : exporter.Regular step) :
    (exporter.step settings step).Coherent settings := by
  cases step with
  | poll snapshot => exact coherent.insert snapshot
  | prune cutoff => exact coherent.prune regular
  | query => exact coherent.query
  | restart => exact coherent.restart

end Exporter

/-- Whatever commits between the queries of the scrapes: an answer whose snapshot is stored when the scrape ends has
exactly the families of the snapshot that was the newest when it began, from the cache or not. -/
theorem expositions_current (steps : List ExporterStep)
    (regular : Machine.Guarded (Exporter.step settings) Exporter.Regular .initial steps) :
    ∀ exposition ∈ (steps.foldl (Exporter.step settings) .initial).expositions, exposition.stored = true →
      exposition.families = reported settings exposition.newest :=
  (regular.invariant Exporter.coherent_initial fun _ _ coherent admitted => coherent.step admitted).answered

end Coherence

/-- A regular run of two polls, whose second scrape is answered from the cache. -/
theorem expositions_current_two_polls :
    let _ := PyText.ascii
    let steps : List ExporterStep := [.poll (bareSnapshot 1 none), .query, .prune 1, .query, .query, .query, .query,
      .query, .poll (bareSnapshot 2 none), .query]
    ∀ exposition ∈ (steps.foldl (Exporter.step none) .initial).expositions, exposition.stored = true →
      exposition.families = reported none exposition.newest := by
  intro _ steps
  exact expositions_current none steps (by decide)

/-! ## Identifiers that return -/

namespace Exporter

theorem nextId_insert (exporter : Exporter) (snapshot : StorcliSnapshot) :
    (exporter.insert snapshot).nextId = exporter.nextId + 1 := by
  have maximum : ((exporter.insert snapshot).rows.map (·.id)).foldl max 0 =
      max ((exporter.rows.map (·.id)).foldl max 0) exporter.nextId := by
    rw [Exporter.insert, List.map_append, List.foldl_append]
    rfl
  rw [nextId, maximum, max_eq_right]
  exact Nat.le_succ _

/-- What polls leave of an exporter without rows. -/
structure Polled (start exporter : Exporter) (polls : List StorcliSnapshot) : Prop where
  nextId : exporter.nextId = polls.length + 1
  rows : ∀ row ∈ exporter.rows, row.snapshot ∈ polls
  cache : exporter.cache = start.cache
  scrape : exporter.scrape = start.scrape
  expositions : exporter.expositions = start.expositions

theorem polled {start : Exporter} (empty : start.rows = []) (polls : List StorcliSnapshot) :
    Polled start (polls.foldl Exporter.insert start) polls := by
  induction polls using List.reverseRecOn with
  | nil =>
    refine ⟨?_, ?_, rfl, rfl, rfl⟩
    · rw [List.foldl_nil, nextId, empty]
      rfl
    · rw [List.foldl_nil, empty]
      exact fun _ member => absurd member List.not_mem_nil
  | append_singleton polls last ih =>
    rw [List.foldl_append, List.foldl_cons, List.foldl_nil]
    refine ⟨?_, ?_, ih.cache, ih.scrape, ih.expositions⟩
    · rw [nextId_insert, ih.nextId, List.length_append, List.length_singleton]
    · intro row member
      rcases List.mem_append.mp member with old | new
      · exact List.mem_append_left _ (ih.rows row old)
      · rw [List.mem_singleton.mp new]
        exact List.mem_append_right _ List.mem_cons_self

end Exporter

section Restarted

variable [PyText] {settings : Option Settings}

/-- The retention deletes every snapshot, polls follow, and the next query begins a scrape. -/
def emptiedAndPolled (cutoff : ℤ) (polls : List StorcliSnapshot) : List ExporterStep :=
  ExporterStep.prune cutoff :: (polls.map ExporterStep.poll ++ [ExporterStep.query])

/-- After a regular run whose cache holds a stored snapshot and that has no scrape going on, let the retention delete
every snapshot, and let no scrape begin before a poll gets the identifier of the cached snapshot again. If that poll is
the newest one, the next scrape answers with the families of the deleted snapshot. -/
theorem stale_exposition (steps : List ExporterStep)
    (regular : Machine.Guarded (Exporter.step settings) Exporter.Regular .initial steps) (exporter : Exporter)
    (reached : steps.foldl (Exporter.step settings) .initial = exporter) (idle : exporter.scrape = none)
    (cutoff : ℤ) (emptied : ∀ row ∈ exporter.rows, row.snapshot.capturedAt < cutoff) (row : StoredSnapshot)
    (stored : row ∈ exporter.rows) (cached : exporter.cache.1 = some row.id) (polls : List StorcliSnapshot)
    (last : StorcliSnapshot) (later : ∀ snapshot ∈ polls, snapshot.capturedAt ≤ last.capturedAt)
    (reused : row.id = polls.length + 1) :
    ((emptiedAndPolled cutoff (polls ++ [last])).foldl (Exporter.step settings) exporter).expositions =
      exporter.expositions ++ [⟨some ⟨row.id, last⟩, true, families settings row⟩] := by
  have coherent : exporter.Coherent settings := by
    rw [← reached]
    exact regular.invariant Exporter.coherent_initial fun _ _ coherent admitted => coherent.step admitted
  have empty : (exporter.prune cutoff).rows = [] := by
    apply List.filter_eq_nil_iff.mpr
    intro row member kept
    exact absurd (emptied row member) (not_lt.mpr (of_decide_eq_true kept))
  have state := Exporter.polled empty polls
  let before := polls.foldl Exporter.insert (exporter.prune cutoff)
  have steps_eq : (emptiedAndPolled cutoff (polls ++ [last])).foldl (Exporter.step settings) exporter =
      (before.insert last).query settings := by
    simp only [emptiedAndPolled, List.map_append, List.foldl_cons, List.foldl_append, List.foldl_map,
      List.map_cons, List.map_nil, List.foldl_nil]
    rfl
  have id : before.nextId = row.id := state.nextId.trans reused.symm
  have newest : (before.insert last).newest = some ⟨row.id, last⟩ := by
    rw [← id]
    exact List.latest?_concat fun other member => later other.snapshot (state.rows other member)
  have hit : (before.insert last).cache.1 = some row.id := by
    change before.cache.1 = some row.id
    rw [state.cache]
    exact cached
  have shown : (before.insert last).cache.2 = families settings row := by
    change before.cache.2 = families settings row
    rw [state.cache]
    exact coherent.cached row stored cached
  have current : (before.insert last).scrape = none := state.scrape.trans idle
  have member : (before.insert last).rows.contains ⟨row.id, last⟩ = true := by
    rw [← id]
    exact List.contains_iff_mem.mpr (List.mem_append_right _ List.mem_cons_self)
  rw [steps_eq, Exporter.query, current]
  dsimp only
  rw [Exporter.begin, newest]
  dsimp only
  rw [if_pos hit, Exporter.answer, shown, Option.all_some, member]
  change before.expositions ++ _ = _
  rw [state.expositions]
  rfl

end Restarted

/-- The second snapshot of a database that was emptied once shows 54 degrees, which the deleted one had measured, and
not its own 71. -/
theorem stale_exposition_first_snapshot :
    let _ := PyText.ascii
    let steps : List ExporterStep := [.poll (rocSnapshot 1 (some 54)), .query, .query, .query, .query, .query]
    let exporter := steps.foldl (Exporter.step none) .initial
    ((emptiedAndPolled 2 ([] ++ [rocSnapshot 3 (some 71)])).foldl (Exporter.step none) exporter).expositions =
        exporter.expositions ++ [⟨some ⟨1, rocSnapshot 3 (some 71)⟩, true, families none ⟨1, rocSnapshot 1 (some 54)⟩⟩] ∧
      families none ⟨1, rocSnapshot 1 (some 54)⟩ ≠ families none ⟨1, rocSnapshot 3 (some 71)⟩ := by
  intro _ steps exporter
  refine ⟨?_, by decide⟩
  exact stale_exposition steps (by decide) exporter rfl (by decide) 2 (by decide) ⟨1, rocSnapshot 1 (some 54)⟩ (by decide)
    (by decide) [] (rocSnapshot 3 (some 71)) (by decide) rfl

/-! ## Drive states and the health of the controller -/

section Health

variable [PyText]

theorem encodeControllerHealth_eq (snap : ControllerSnapshot) (pds : List PhysicalDriveSnapshot)
    (vds : List VirtualDriveSnapshot) (settings : Option Settings) :
    encodeControllerHealth snap pds vds settings = (deriveControllerHealth snap pds vds none settings).rank := by
  rw [encodeControllerHealth]
  cases deriveControllerHealth snap pds vds none settings <;> rfl

theorem encodeVdState_eq (state : String) :
    encodeVdState state = (eventSeverityToStatus (virtualDriveStateSeverity state)).rank := by
  rw [encodeVdState]
  cases virtualDriveStateSeverity state <;> rfl

/-- A drive whose state is a fault has a critical finding. -/
theorem driveCriticalFindings_ne_nil {drive : PhysicalDriveSnapshot} (temperature : TemperatureGrade)
    (fault : (stateFault (normalizedState drive.state)).isSome = true) : driveCriticalFindings drive temperature ≠ [] := by
  intro none_
  rw [driveCriticalFindings, List.append_assoc, List.append_assoc, List.append_eq_nil_iff] at none_
  rw [Option.toList_eq_nil_iff.mp none_.1] at fault
  cases fault

/-- A drive whose state is neither a fault nor a healthy one has a warning. -/
theorem driveWarningFindings_ne_nil {drive : PhysicalDriveSnapshot} (temperature : TemperatureGrade)
    (sound : ¬(stateFault (normalizedState drive.state)).isSome = true)
    (other : normalizedState drive.state ∉ ["onln", "online", "ugood", "dhs", "ghs"]) :
    driveWarningFindings drive temperature ≠ [] := by
  intro none_
  rw [driveWarningFindings, List.append_assoc, List.append_assoc, List.append_eq_nil_iff] at none_
  have state := none_.1
  rw [if_neg sound, if_neg other] at state
  split_ifs at state

/-- The state sample of a drive is no worse than its assessment. -/
theorem encodePdState_le (settings : Option Settings) (drive : PhysicalDriveSnapshot) :
    encodePdState drive.state ≤ (driveSeverity settings drive).rank := by
  rw [encodePdState]
  split_ifs with healthy faulty
  · exact Int.natCast_nonneg _
  · have worst : (driveSeverity settings drive).rank = 2 :=
      rank_healthOfFindings_critical (driveCriticalFindings_ne_nil _ (stateFault_of_critical faulty))
    rw [worst]
    rfl
  · have graded : 1 ≤ (driveSeverity settings drive).rank := by
      by_cases fault : (stateFault (normalizedState drive.state)).isSome = true
      · have worst : (driveSeverity settings drive).rank = 2 :=
          rank_healthOfFindings_critical (driveCriticalFindings_ne_nil _ fault)
        omega
      · refine rank_healthOfFindings_warning (driveWarningFindings_ne_nil _ fault fun known => healthy ?_)
        simp only [List.mem_cons, List.not_mem_nil, or_false] at known ⊢
        tauto
    exact_mod_cast graded

/-- What the display shows is no better than any drive, whatever the settings. -/
theorem drive_le_health (settings : Option Settings) (snap : ControllerSnapshot) (pds : List PhysicalDriveSnapshot)
    (vds : List VirtualDriveSnapshot) : (∀ drive ∈ pds, (driveSeverity settings drive).rank ≤
      (deriveControllerHealth snap pds vds none settings).rank) ∧
    ∀ drive ∈ vds, (eventSeverityToStatus (virtualDriveStateSeverity drive.state)).rank ≤
      (deriveControllerHealth snap pds vds none settings).rank := by
  rw [deriveControllerHealth]
  split_ifs
  · exact ⟨fun _ _ => ControllerHealth.rank_le_two _, fun _ _ => ControllerHealth.rank_le_two _⟩
  · simp only [ControllerHealth.rank_worst, le_max_iff]
    refine ⟨fun drive member => .inl (.inr ?_), fun drive member => .inr ?_⟩
    · exact ControllerHealth.rank_le_foldl_of_mem (driveSeverity settings) member .optimal
    · exact ControllerHealth.rank_le_foldl_of_mem
        (fun drive : VirtualDriveSnapshot => eventSeverityToStatus (virtualDriveStateSeverity drive.state)) member .optimal

/-- No state sample of a drive is above a health sample of the controller. -/
def HealthCoversDrives (families : List GaugeMetricFamily) : Prop :=
  ∀ health ∈ families, health.name = "megaraid_controller_health" → ∀ total ∈ health.samples,
    ∀ states ∈ families, states.name ∈ ["megaraid_physical_drive_state", "megaraid_virtual_drive_state"] →
      ∀ state ∈ states.samples, state.value ≤ total.value

omit [PyText] in
theorem healthCoversDrives_nil : HealthCoversDrives [] := fun _ member => absurd member List.not_mem_nil

@[simp] theorem controllerHealthFamily_name (settings : Option Settings) (row : StoredSnapshot) :
    (controllerHealthFamily settings row).name = "megaraid_controller_health" := rfl

omit [PyText] in
@[simp] theorem temperatureFamily_name (row : StoredSnapshot) :
    (temperatureFamily row).name = "megaraid_drive_temperature_celsius" := rfl

@[simp] theorem physicalDriveStateFamily_name (row : StoredSnapshot) :
    (physicalDriveStateFamily row).name = "megaraid_physical_drive_state" := rfl

@[simp] theorem virtualDriveStateFamily_name (row : StoredSnapshot) :
    (virtualDriveStateFamily row).name = "megaraid_virtual_drive_state" := rfl

omit [PyText] in
theorem controllerReading_name {name documentation : String} {row : StoredSnapshot} {reading : Option ℤ}
    {family : GaugeMetricFamily} (made : controllerReading name documentation row reading = some family) :
    family.name = name := by
  obtain ⟨value, -, rfl⟩ := Option.map_eq_some_iff.mp made
  rfl

theorem mem_families {settings : Option Settings} {row : StoredSnapshot} {family : GaugeMetricFamily}
    (member : family ∈ families settings row) :
    family = controllerHealthFamily settings row ∨ family.name = "megaraid_controller_roc_temperature_celsius" ∨
      family.name = "megaraid_cv_capacitance_percent" ∨ family = temperatureFamily row ∨
      family = physicalDriveStateFamily row ∨ family = virtualDriveStateFamily row := by
  simp only [families, List.cons_append, List.mem_cons, List.mem_append, Option.mem_toList, List.not_mem_nil,
    or_false] at member
  rcases member with health | (roc | capacitance) | drives
  · exact .inl health
  · exact .inr (.inl (controllerReading_name roc))
  · exact .inr (.inr (.inl (controllerReading_name capacitance)))
  · exact .inr (.inr (.inr drives))

/-- Only the family of the controller's health has its name. -/
theorem eq_controllerHealthFamily {settings : Option Settings} {row : StoredSnapshot} {family : GaugeMetricFamily}
    (member : family ∈ families settings row) (name : family.name = "megaraid_controller_health") :
    family = controllerHealthFamily settings row := by
  rcases mem_families member with rfl | roc | capacitance | rfl | rfl | rfl
  · rfl
  · exact absurd (name.symm.trans roc) (by decide)
  · exact absurd (name.symm.trans capacitance) (by decide)
  all_goals exact absurd name (by simp)

theorem eq_stateFamily {settings : Option Settings} {row : StoredSnapshot} {family : GaugeMetricFamily}
    (member : family ∈ families settings row)
    (name : family.name ∈ ["megaraid_physical_drive_state", "megaraid_virtual_drive_state"]) :
    family = physicalDriveStateFamily row ∨ family = virtualDriveStateFamily row := by
  rcases mem_families member with rfl | roc | capacitance | rfl | state
  · exact absurd name (by simp)
  · exact absurd (roc ▸ name) (by decide)
  · exact absurd (capacitance ▸ name) (by decide)
  · exact absurd name (by simp)
  · exact state

/-- The families that one scrape builds, whatever its queries loaded. -/
theorem healthCoversDrives_families (settings : Option Settings) (row : StoredSnapshot) :
    HealthCoversDrives (families settings row) := by
  intro health healthMember healthName total totalMember states statesMember statesName state stateMember
  rw [eq_controllerHealthFamily healthMember healthName] at totalMember
  rw [List.mem_singleton.mp totalMember, encodeControllerHealth_eq]
  obtain ⟨physical, virtual⟩ := drive_le_health settings (.ofStorcli row.id row.snapshot)
    (row.snapshot.physicalDrives.map .ofStorcli) (row.snapshot.virtualDrives.map .ofStorcli)
  rcases eq_stateFamily statesMember statesName with rfl | rfl
  · obtain ⟨drive, inside, rfl⟩ := List.mem_map.mp stateMember
    have assessed := encodePdState_le settings (.ofStorcli drive)
    have bound := physical (.ofStorcli drive) (List.mem_map_of_mem inside)
    exact assessed.trans (Int.ofNat_le.mpr bound)
  · obtain ⟨drive, inside, rfl⟩ := List.mem_map.mp stateMember
    have bound := virtual (.ofStorcli drive) (List.mem_map_of_mem inside)
    exact (encodeVdState_eq drive.state).le.trans (Int.ofNat_le.mpr bound)

/-- What is kept and what was answered. -/
structure Exporter.Covers (exporter : Exporter) : Prop where
  cached : HealthCoversDrives exporter.cache.2
  answered : ∀ exposition ∈ exporter.expositions, HealthCoversDrives exposition.families

variable {settings : Option Settings} {exporter : Exporter}

omit [PyText] in
theorem Exporter.Covers.answer (covers : exporter.Covers) (newest : Option StoredSnapshot)
    {shown : List GaugeMetricFamily} (covered : HealthCoversDrives shown) : (exporter.answer newest shown).Covers where
  cached := covers.cached
  answered exposition member := by
    rcases List.mem_append.mp member with old | new
    · exact covers.answered exposition old
    · rw [List.mem_singleton.mp new]
      exact covered

omit [PyText] in
theorem Exporter.Covers.built (covers : exporter.Covers) (newest : Option StoredSnapshot) (latestId : Option ℕ)
    {shown : List GaugeMetricFamily} (covered : HealthCoversDrives shown) :
    (exporter.built newest latestId shown).Covers := by
  have cached : Exporter.Covers { exporter with cache := (latestId, shown) } := ⟨covered, covers.answered⟩
  exact cached.answer newest covered

theorem Exporter.Covers.query (covers : exporter.Covers) : (exporter.query settings).Covers := by
  rw [Exporter.query]
  cases exporter.scrape with
  | none =>
    rw [Exporter.begin]
    cases exporter.newest with
    | none => exact covers.built none none healthCoversDrives_nil
    | some row =>
      dsimp only
      split_ifs
      · exact covers.answer (some row) covers.cached
      · exact ⟨covers.cached, covers.answered⟩
  | some state =>
    obtain ⟨newest, scrape⟩ := state
    cases scrape with
    | get latestId =>
      dsimp only
      cases exporter.find latestId with
      | none => exact covers.built _ _ healthCoversDrives_nil
      | some row => exact ⟨covers.cached, covers.answered⟩
    | physicalDrives row | virtualDrives row => exact ⟨covers.cached, covers.answered⟩
    | cachevault row => exact covers.built _ _ (healthCoversDrives_families settings _)

theorem Exporter.Covers.step (covers : exporter.Covers) (step : ExporterStep) : (exporter.step settings step).Covers := by
  cases step with
  | poll snapshot => exact ⟨covers.cached, covers.answered⟩
  | prune cutoff => exact ⟨covers.cached, covers.answered⟩
  | query => exact covers.query
  | restart => exact ⟨healthCoversDrives_nil, covers.answered⟩

/-- In every run, also when rows vanish between the queries of a scrape: no answer shows a drive in a worse state than
its controller. The samples of the drives come from other tables of states than the health of the controller. -/
theorem expositions_health_covers_drives (settings : Option Settings) (steps : List ExporterStep) :
    (steps.foldl (Exporter.step settings) .initial).Covers := by
  induction steps using List.reverseRecOn with
  | nil => exact ⟨healthCoversDrives_nil, fun _ member => absurd member List.not_mem_nil⟩
  | append_singleton steps step ih =>
    rw [List.foldl_append, List.foldl_cons, List.foldl_nil]
    exact ih.step step

end Health

end MegaraidDashboard.Web
