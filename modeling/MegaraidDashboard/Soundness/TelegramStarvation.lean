import Mathlib.Data.Finset.Card
import MegaraidDashboard.Soundness.RelevanceDetails
import MegaraidDashboard.Soundness.TelegramDelivery

/-! # No candidate starves

A cycle that is not interrupted leaves every candidate that it loaded at rest: terminal, or due after the start of
the cycle. Among the candidates that were due at some time, those that no cycle has examined therefore come first
in every later batch, as long as no new alert arrives.
-/

namespace MegaraidDashboard.Services

open Db Machine

/-! ## Watching the cycles -/

/-- A run with the start and the batch of its newest cycle, the candidates that its cycles examined and the number of
cycles that came to their end. No step of the run reads them. -/
structure CycleWatch where
  run : TelegramRun
  startedAt : ℤ
  loaded : List ℕ
  examined : List ℕ
  finished : ℕ

def CycleWatch.initial (db : Database) (clock : ℤ) : CycleWatch := ⟨.initial db clock, clock, [], [], 0⟩

section Watch

variable [PyText]

def CycleWatch.step (watch : CycleWatch) (label : TelegramStep) : CycleWatch :=
  match label, watch.run.phase with
  | .start _ now, .idle =>
    { watch with
      run := watch.run.step label
      startedAt := now
      loaded := (loadCandidates (repairDeadlines watch.run.db now) now).map (·.id) }
  | .visit _, .visiting _ (event :: _) =>
    { watch with run := watch.run.step label, examined := event.id :: watch.examined }
  | .finish, .visiting _ [] => { watch with run := watch.run.step label, finished := watch.finished + 1 }
  | _, _ => { watch with run := watch.run.step label }

/-- The delays of the settings stay within `datetime`, from the start of a cycle back and ahead. -/
structure DelaysFit (settings : Settings) (startedAt : ℤ) : Prop where
  confirmed : confirmDelay settings ≤ startedAt
  scheduled : startedAt + confirmDelay settings ≤ Timestamp.datetimeMax
  fresh : freshness settings ≤ startedAt

/-- Every send is accepted or raises `TelegramSendError`, no cycle crashes, the clock does not run behind the start of
the cycle, and other services keep to their tables. -/
def CycleWatch.Uninterrupted (watch : CycleWatch) : TelegramStep → Prop
  | .start _ now => watch.startedAt ≤ now
  | .visit now => watch.startedAt ≤ now
  | .refuse _ _ failedAt => watch.startedAt ≤ failedAt
  | .others db => KeepsDeliveries watch.run.db db
  | .raised => False
  | .crash => False
  | _ => True

/-- Besides, the delays of the settings of a cycle fit at its start. -/
def CycleWatch.Regular (watch : CycleWatch) (label : TelegramStep) : Prop :=
  watch.Uninterrupted label ∧ ∀ settings now, label = .start settings now → DelaysFit settings now

/-- Every alert of the later table stands in the earlier one. -/
def NoNewAlerts (events later : List Event) : Prop :=
  ∀ event ∈ later, isTelegramAlert event = true →
    ∃ old ∈ events, old.id = event.id ∧ old.occurredAt = event.occurredAt ∧ isTelegramAlert old = true

/-- The candidates are a fixed set: besides, no step brings a new alert. -/
def CycleWatch.Fixed (watch : CycleWatch) (label : TelegramStep) : Prop :=
  watch.Regular label ∧ match label with
    | .others db => NoNewAlerts watch.run.db.events db.events
    | _ => True

end Watch

/-! ## Rows at rest -/

/-- No cycle will select the row again. -/
def Terminal (row : EventDelivery) : Prop :=
  row.status = .sent ∨ row.status = .skipped ∧ row.detail ≠ some "maintenance"

/-- The row of the event is terminal or due after the given time. -/
def Rested (startedAt : ℤ) (table : DeliveryTable) (id : ℕ) : Prop :=
  ∃ row, table.lookup id = some row ∧ (Terminal row ∨ ∃ deadline, row.nextAttemptAt = some deadline ∧ startedAt < deadline)

/-- The tables agree but for one row. -/
def SameElsewhere (table later : DeliveryTable) (id : ℕ) : Prop :=
  ∀ other, other ≠ id → later.lookup other = table.lookup other

theorem sameElsewhere_writeDelivery (db : Database) (id : ℕ) (row : EventDelivery) :
    SameElsewhere db.deliveries (writeDelivery db id row).deliveries id :=
  fun _ different => AList.lookup_insert_ne different

theorem rested_writeDelivery {startedAt : ℤ} (db : Database) (id : ℕ) {row : EventDelivery}
    (rests : Terminal row ∨ ∃ deadline, row.nextAttemptAt = some deadline ∧ startedAt < deadline) :
    Rested startedAt (writeDelivery db id row).deliveries id :=
  ⟨row, AList.lookup_insert _, rests⟩

theorem minute_pos : 0 < Timestamp.minute := by decide

theorem retryDelay_pos (attempts : ℕ) (retryAfter : Option ℤ) : 0 < retryDelay attempts retryAfter := by
  have power : (1 : ℤ) ≤ 2 ^ min (attempts - 1) 6 := one_le_pow₀ (by decide)
  have base : 0 < retryBackoff attempts := by
    simp only [retryBackoff, retryBaseSeconds, retryMaxSeconds]
    omega
  exact base.trans_le (Int.le_max_left _ _)

section Decision

variable [PyText] {settings : Settings} {db : Database} {event : Event} {blocked : Bool} {now : ℤ}

/-- A deferred candidate waits for a time after the reading of the clock. -/
theorem candidateDecision_defer {detail : String} {nextAttemptAt : ℤ}
    (decided : candidateDecision settings db event blocked now = .defer detail nextAttemptAt) :
    now < nextAttemptAt := by
  have minute := minute_pos
  cases decides_candidate decided with
  | unconfirmed _ later => exact later
  | awaiting _ _ => omega
  | deferred => omega

omit [PyText] in
theorem confirmDelay_nonneg (settings : Settings) : 0 ≤ confirmDelay settings :=
  mul_nonneg (Int.natCast_nonneg _) minute_pos.le

/-- Nothing overflows in a cycle whose delays fit. -/
theorem candidateDecision_ne_raised {startedAt : ℤ} (fits : DelaysFit settings startedAt) (ahead : startedAt ≤ now)
    (past : event.occurredAt ≤ startedAt) : candidateDecision settings db event blocked now ≠ .raised := by
  intro decided
  cases decides_candidate decided with
  | raised overflow =>
    have delay := confirmDelay_nonneg settings
    obtain ⟨confirmed, scheduled, fresh⟩ := fits
    have range : Timestamp.datetimeMax ≤ Timestamp.timedeltaMax := by decide
    rcases overflow with early | late | raised
    · omega
    · omega
    · rcases deliveryRelevance_answers settings db event now with waits | ⟨-, long | early⟩
      · rw [raised] at waits
        exact waits
      · omega
      · omega

end Decision

/-! ## Moves -/

/-- Where the loop of a cycle is. -/
inductive CyclePlace where
  | idle
  | visiting (todo : List Event)
  | busy (event : Event) (todo : List Event)

def CyclePhase.place : CyclePhase → CyclePlace
  | idle => .idle
  | visiting _ todo => .visiting todo
  | deciding _ event todo => .busy event todo
  | sending _ event todo => .busy event todo
  | accepted _ event todo => .busy event todo

/-- What a cycle does to the rows, without its reasons. -/
structure CycleView where
  table : DeliveryTable
  events : List Event
  place : CyclePlace
  startedAt : ℤ
  loaded : List ℕ
  examined : List ℕ
  finished : ℕ

def CycleWatch.view (watch : CycleWatch) : CycleView where
  table := watch.run.db.deliveries
  events := watch.run.db.events
  place := watch.run.phase.place
  startedAt := watch.startedAt
  loaded := watch.loaded
  examined := watch.examined
  finished := watch.finished

/-- The steps of the view. -/
inductive CycleMove (view : CycleView) : CycleView → Prop
  | still : CycleMove view view
  | start (db : Database) (now : ℤ) (idle : view.place = .idle) (later : view.startedAt ≤ now)
      (table : db.deliveries = view.table) (events : db.events = view.events) :
      CycleMove view { view with
        table := (repairDeadlines db now).deliveries
        place := .visiting (loadCandidates (repairDeadlines db now) now)
        startedAt := now
        loaded := (loadCandidates (repairDeadlines db now) now).map (·.id) }
  | visit (event : Event) (todo : List Event) (table : DeliveryTable) (place : view.place = .visiting (event :: todo))
      (elsewhere : SameElsewhere view.table table event.id) :
      CycleMove view { view with
        table := table
        place := .busy event todo
        examined := event.id :: view.examined }
  | work (event : Event) (todo : List Event) (table : DeliveryTable) (place : view.place = .busy event todo)
      (elsewhere : SameElsewhere view.table table event.id) : CycleMove view { view with table := table }
  | settle (event : Event) (todo : List Event) (table : DeliveryTable) (place : view.place = .busy event todo)
      (elsewhere : SameElsewhere view.table table event.id) (rested : Rested view.startedAt table event.id) :
      CycleMove view { view with table := table, place := .visiting todo }
  | finish (place : view.place = .visiting []) :
      CycleMove view { view with place := .idle, finished := view.finished + 1 }
  | others (events : List Event) (kept : ∀ event ∈ view.events, ∃ notifiedAt, { event with notifiedAt := notifiedAt } ∈ events)
      (ids : (events.map (·.id)).Nodup) : CycleMove view { view with events := events }

section Refinement

variable [PyText]

/-- The delays of a cycle fit, and its candidates have occurred. -/
def CycleFits (startedAt : ℤ) (settings : Settings) (todo : List Event) : Prop :=
  DelaysFit settings startedAt ∧ ∀ event ∈ todo, event.occurredAt ≤ startedAt

omit [PyText] in
theorem CycleFits.tail {startedAt : ℤ} {settings : Settings} {event : Event} {todo : List Event}
    (fits : CycleFits startedAt settings (event :: todo)) : CycleFits startedAt settings todo :=
  ⟨fits.1, fun other member => fits.2 other (List.mem_cons_of_mem _ member)⟩

/-- The running cycle fits, and its clock is not behind its start. -/
def CycleWatch.InTime (watch : CycleWatch) : Prop :=
  match watch.run.phase with
  | .idle => True
  | .visiting cycle todo | .sending cycle _ todo | .accepted cycle _ todo =>
    CycleFits watch.startedAt cycle.settings todo
  | .deciding cycle event todo =>
    CycleFits watch.startedAt cycle.settings (event :: todo) ∧ watch.startedAt ≤ cycle.nowUtc

omit [PyText] in
theorem sameElsewhere_refl (table : DeliveryTable) (id : ℕ) : SameElsewhere table table id := fun _ _ => rfl

/-- Every regular step is a move of the view. -/
theorem CycleWatch.move (watch : CycleWatch) (label : TelegramStep) (regular : watch.Regular label)
    (inTime : watch.InTime) : CycleMove watch.view (watch.step label).view ∧ (watch.step label).InTime := by
  obtain ⟨⟨db, phase, clock, acceptedIds, cycles, failures⟩, startedAt, loaded, examined, finished⟩ := watch
  cases label with
  | start settings now =>
    cases phase with
    | idle =>
      have loaded : ∀ event ∈ loadCandidates (repairDeadlines db now) now, event.occurredAt ≤ now := by
        intro event member
        have selected := (mem_loadCandidates member).2
        simp only [selectsCandidate, Bool.and_eq_true, decide_eq_true_eq] at selected
        exact selected.1.1.1
      exact ⟨.start db now rfl regular.1 rfl rfl, regular.2 settings now rfl, loaded⟩
    | visiting | deciding | sending | accepted => exact ⟨.still, inTime⟩
  | visit now =>
    cases phase with
    | visiting cycle todo =>
      cases todo with
      | nil => exact ⟨.still, inTime⟩
      | cons event todo =>
        cases interrupted : (db.deliveries.lookup event.id).any fun row => row.status == .sending || row.status == .failed with
        | true =>
          simp only [CycleWatch.step, TelegramRun.step, interrupted, ↓reduceIte]
          exact ⟨.visit event todo _ rfl (sameElsewhere_writeDelivery db event.id _), inTime, regular.1⟩
        | false =>
          simp only [CycleWatch.step, TelegramRun.step, interrupted, Bool.false_eq_true, ↓reduceIte]
          exact ⟨.visit event todo _ rfl (sameElsewhere_refl _ _), inTime, regular.1⟩
    | idle | deciding | sending | accepted => exact ⟨.still, inTime⟩
  | decide =>
    cases phase with
    | deciding cycle event todo =>
      cases decided : candidateDecision cycle.settings db event (cycle.channelBlocked || decide (cycle.sendsLeft = 0))
          cycle.nowUtc with
      | defer detail nextAttemptAt =>
        have later : startedAt < nextAttemptAt := lt_of_le_of_lt inTime.2 (candidateDecision_defer decided)
        have rested : Rested startedAt (deferDelivery db event detail nextAttemptAt).deliveries event.id :=
          rested_writeDelivery db event.id (.inr ⟨nextAttemptAt, rfl, later⟩)
        simp only [CycleWatch.step, TelegramRun.step, TelegramRun.decideCandidate, decided]
        exact ⟨.settle event todo _ rfl (sameElsewhere_writeDelivery db event.id _) rested, inTime.1.tail⟩
      | skip detail =>
        have final : detail ≠ "maintenance" := by
          have allowed := candidateDecision_skip decided
          rintro rfl
          exact absurd allowed (by decide)
        have rested : Rested startedAt (skipDelivery db event detail).deliveries event.id :=
          rested_writeDelivery db event.id (.inl (.inr ⟨rfl, fun same => final (Option.some.inj same)⟩))
        simp only [CycleWatch.step, TelegramRun.step, TelegramRun.decideCandidate, decided]
        exact ⟨.settle event todo _ rfl (sameElsewhere_writeDelivery db event.id _) rested, inTime.1.tail⟩
      | send =>
        simp only [CycleWatch.step, TelegramRun.step, TelegramRun.decideCandidate, decided]
        exact ⟨.work event todo _ rfl (sameElsewhere_writeDelivery db event.id _), inTime.1.tail⟩
      | raised =>
        have past : event.occurredAt ≤ startedAt := inTime.1.2 event List.mem_cons_self
        exact absurd decided (candidateDecision_ne_raised inTime.1.1 inTime.2 past)
    | idle | visiting | sending | accepted => exact ⟨.still, inTime⟩
  | accept =>
    cases phase with
    | sending cycle event todo => exact ⟨.work event todo _ rfl (sameElsewhere_refl _ _), inTime⟩
    | idle | visiting | deciding | accepted => exact ⟨.still, inTime⟩
  | refuse reason hint failedAt =>
    cases phase with
    | sending cycle event todo =>
      have delay := retryDelay_pos (deliveryOf db event.id).attempts (boundedRetryAfter hint)
      have later : startedAt < failedAt + retryDelay (deliveryOf db event.id).attempts (boundedRetryAfter hint) *
          Timestamp.second := by
        have reached : startedAt ≤ failedAt := regular.1
        simp only [Timestamp.second]
        omega
      have rested : Rested startedAt (recordSendFailure db event reason (boundedRetryAfter hint) failedAt).deliveries
          event.id := rested_writeDelivery db event.id (.inr ⟨_, rfl, later⟩)
      exact ⟨.settle event todo _ rfl (sameElsewhere_writeDelivery db event.id _) rested, inTime⟩
    | idle | visiting | deciding | accepted => exact ⟨.still, inTime⟩
  | commitSent =>
    cases phase with
    | accepted cycle event todo =>
      have rested : Rested startedAt (recordSent db event cycle.nowUtc).deliveries event.id :=
        rested_writeDelivery db event.id (.inl (.inl rfl))
      exact ⟨.settle event todo _ rfl (sameElsewhere_writeDelivery db event.id _) rested, inTime⟩
    | idle | visiting | deciding | sending => exact ⟨.still, inTime⟩
  | finish =>
    cases phase with
    | visiting cycle todo =>
      cases todo with
      | nil => exact ⟨.finish rfl, trivial⟩
      | cons event todo => exact ⟨.still, inTime⟩
    | idle | deciding | sending | accepted => exact ⟨.still, inTime⟩
  | others other =>
    have kept : KeepsDeliveries db other := regular.1
    have view : (CycleWatch.step ⟨⟨db, phase, clock, acceptedIds, cycles, failures⟩, startedAt, loaded, examined, finished⟩
        (.others other)).view = { (CycleWatch.view ⟨⟨db, phase, clock, acceptedIds, cycles, failures⟩, startedAt, loaded,
          examined, finished⟩) with events := other.events } := by
      cases phase <;> simp only [CycleWatch.step, CycleWatch.view, TelegramRun.step, kept.deliveries]
    refine ⟨?_, ?_⟩
    · rw [view]
      exact .others other.events kept.events kept.ids
    · cases phase <;> exact inTime
  | raised => exact absurd regular.1 id
  | crash => exact absurd regular.1 id

end Refinement

/-! ## Rest -/

/-- The events that the cycle still has to deal with. -/
def CyclePlace.pending : CyclePlace → List Event
  | idle => []
  | visiting todo => todo
  | busy event todo => event :: todo

/-- What the newest cycle loaded is pending or at rest. -/
def CycleView.Resting (view : CycleView) : Prop :=
  ∀ id ∈ view.loaded, id ∈ view.place.pending.map (·.id) ∨ Rested view.startedAt view.table id

theorem Rested.elsewhere {startedAt : ℤ} {table later : DeliveryTable} {id other : ℕ} (rested : Rested startedAt table id)
    (elsewhere : SameElsewhere table later other) (different : id ≠ other) : Rested startedAt later id := by
  obtain ⟨row, found, rests⟩ := rested
  exact ⟨row, (elsewhere id different).trans found, rests⟩

/-- A move that touches the row of one pending event only. -/
theorem CycleView.Resting.touch {view : CycleView} (resting : view.Resting) {event : Event} {table : DeliveryTable}
    (elsewhere : SameElsewhere view.table table event.id) (pending : event.id ∈ view.place.pending.map (·.id)) :
    ∀ id ∈ view.loaded, id ∈ view.place.pending.map (·.id) ∨ Rested view.startedAt table id := by
  intro id member
  by_cases same : id = event.id
  · exact .inl (same ▸ pending)
  · exact (resting id member).imp_right fun rested => rested.elsewhere elsewhere same

theorem CycleView.Resting.move {view later : CycleView} (resting : view.Resting) (move : CycleMove view later) :
    later.Resting := by
  cases move with
  | still => exact resting
  | start db now idle order table events => exact fun id member => .inl member
  | visit event todo table place elsewhere =>
    have touched := resting.touch elsewhere (by rw [place]; exact List.mem_cons_self)
    rw [place] at touched
    exact touched
  | work event todo table place elsewhere =>
    exact resting.touch elsewhere (by rw [place]; exact List.mem_cons_self)
  | settle event todo table place elsewhere rested =>
    have touched := resting.touch elsewhere (by rw [place]; exact List.mem_cons_self)
    rw [place] at touched
    intro id member
    rcases touched id member with waiting | rests
    · rcases List.mem_cons.mp waiting with rfl | later
      · exact .inr rested
      · exact .inl later
    · exact .inr rests
  | finish place =>
    intro id member
    have done := resting id member
    rw [place] at done
    exact .inr (done.resolve_left List.not_mem_nil)
  | others events kept ids => exact resting

/-! ## Coverage -/

/-- The row of an event is considered and was due at the given time. -/
def DueRow (time : ℤ) (row : Option EventDelivery) : Prop := deliveryOpen row = true ∧ deliveryDue row time = true

/-- Nothing before the given time selects the row: it is closed, or due later. -/
def NotDueRow (time : ℤ) (row : Option EventDelivery) : Prop :=
  deliveryOpen row = false ∨ ∃ deadline, row.bind (·.nextAttemptAt) = some deadline ∧ time < deadline

theorem notDue_of_rested {time startedAt : ℤ} {table : DeliveryTable} {id : ℕ} (rested : Rested startedAt table id)
    (later : time ≤ startedAt) : NotDueRow time (table.lookup id) := by
  obtain ⟨row, found, terminal | ⟨deadline, waits, after⟩⟩ := rested
  · left
    rw [found]
    rcases terminal with sent | ⟨skipped, other⟩
    · simp [deliveryOpen, sent]
    · simp [deliveryOpen, skipped, other]
  · right
    rw [found]
    exact ⟨deadline, waits, later.trans_lt after⟩

/-- The repair of a cycle neither opens a row nor makes it due earlier than the cycle. -/
theorem exists_repairDeadlines (db : Database) (now : ℤ) (id : ℕ) : ∃ move : ℤ → ℤ,
    (∀ deadline, deadline ≤ now → move deadline = deadline) ∧ (∀ deadline, now < deadline → now < move deadline) ∧
    deliveryOpen ((repairDeadlines db now).deliveries.lookup id) = deliveryOpen (db.deliveries.lookup id) ∧
    (((repairDeadlines db now).deliveries.lookup id).bind (·.nextAttemptAt)) =
      ((db.deliveries.lookup id).bind (·.nextAttemptAt)).map move := by
  have latest : now < latestRetry now := by
    simp only [latestRetry, telegramRetryAfterMaxSeconds, Timestamp.second]
    omega
  rw [repairDeadlines, AList.lookup_mapRows]
  cases found : db.deliveries.lookup id with
  | none => exact ⟨fun deadline => deadline, fun _ _ => rfl, fun _ late => late, rfl, rfl⟩
  | some row =>
    by_cases retry : attemptedRetry row = true
    · refine ⟨clampDeadline (latestRetry now), ?_, ?_, ?_, ?_⟩
      · intro deadline early
        rw [clampDeadline, if_neg (by omega)]
      · intro deadline late
        rw [clampDeadline]
        split
        · exact latest
        · exact late
      · simp only [Option.map_some, retry, ↓reduceIte, deliveryOpen]
      · simp only [Option.map_some, retry, ↓reduceIte, Option.bind_some]
    · refine ⟨fun deadline => deadline, fun _ _ => rfl, fun _ late => late, ?_, ?_⟩
      · simp only [Option.map_some, retry, Bool.false_eq_true, ↓reduceIte]
      · simp only [Option.map_some, retry, Bool.false_eq_true, ↓reduceIte, Option.bind_some, Option.map_id']

theorem dueRow_repair {db : Database} {time now : ℤ} {id : ℕ} (later : time ≤ now)
    (due : DueRow time (db.deliveries.lookup id)) : DueRow time ((repairDeadlines db now).deliveries.lookup id) := by
  obtain ⟨move, early, -, open_, deadlines⟩ := exists_repairDeadlines db now id
  refine ⟨open_.trans due.1, ?_⟩
  have past := due.2
  rw [deliveryDue] at past ⊢
  rw [deadlines]
  cases deadline : (db.deliveries.lookup id).bind (·.nextAttemptAt) with
  | none => rfl
  | some deadline' =>
    rw [deadline, Option.all_some, decide_eq_true_eq] at past
    rw [Option.map_some, Option.all_some, early deadline' (past.trans later), decide_eq_true_eq]
    exact past

theorem notDueRow_repair {db : Database} {time now : ℤ} {id : ℕ} (later : time ≤ now)
    (waits : NotDueRow time (db.deliveries.lookup id)) :
    NotDueRow time ((repairDeadlines db now).deliveries.lookup id) := by
  obtain ⟨move, early, late, open_, deadlines⟩ := exists_repairDeadlines db now id
  rcases waits with closed | ⟨deadline, found, after⟩
  · exact .inl (open_.trans closed)
  · refine .inr ⟨move deadline, by rw [deadlines, found]; rfl, ?_⟩
    rcases le_or_gt deadline now with past | ahead
    · rwa [early deadline past]
    · exact later.trans_lt (late deadline ahead)

/-- The event that the loop is at. -/
def CyclePlace.current : CyclePlace → Option ℕ
  | busy event _ => some event.id
  | _ => none

/-- The candidates of the batch behind the current one. -/
def CyclePlace.todo : CyclePlace → List ℕ
  | idle => []
  | visiting todo => todo.map (·.id)
  | busy _ todo => todo.map (·.id)

/-- How far the cycles have come with the candidates that were due at the given time. -/
structure Covered (time : ℤ) (due : Finset ℕ) (view : CycleView) : Prop where
  ids : (view.events.map (·.id)).Nodup
  alerts : ∀ event ∈ view.events, isTelegramAlert event = true → event.occurredAt ≤ time
  waiting : ∀ id ∈ due, id ∉ view.examined →
    (∃ event ∈ view.events, event.id = id ∧ isTelegramAlert event = true) ∧ DueRow time (view.table.lookup id)
  rest : ∀ event ∈ view.events, isTelegramAlert event = true → (event.id ∈ due → event.id ∈ view.examined) →
    view.place.current = some event.id ∨ NotDueRow time (view.table.lookup event.id)
  visited : ∀ id ∈ view.place.current, id ∈ view.examined
  started : time ≤ view.startedAt
  finished : min due.card (maxCandidatesPerCycle * view.finished) ≤ (due.filter (· ∈ view.examined)).card
  batch : view.place ≠ .idle → min due.card (maxCandidatesPerCycle * (view.finished + 1)) ≤
    (due.filter fun id => id ∈ view.examined ∨ id ∈ view.place.todo).card

theorem deadline_le_of_candidateKey {db : Database} {first second : Event} {deadline time : ℤ}
    (order : candidateKey db first ≤ candidateKey db second)
    (scheduled : (db.deliveries.lookup first.id).bind (·.nextAttemptAt) = some deadline)
    (due : deliveryDue (db.deliveries.lookup second.id) time = true) : deadline ≤ time := by
  have head : @LE.le (WithBot ℤ) _ ((db.deliveries.lookup first.id).bind (·.nextAttemptAt))
      ((db.deliveries.lookup second.id).bind (·.nextAttemptAt)) := by
    rw [candidateKey, candidateKey, Prod.Lex.toLex_le_toLex] at order
    rcases order with before | ⟨same, -⟩
    · exact before.le
    · exact same.le
  rw [scheduled] at head
  rw [deliveryDue] at due
  cases other : (db.deliveries.lookup second.id).bind (·.nextAttemptAt) with
  | none =>
    rw [other] at head
    exact absurd head (WithBot.not_coe_le_bot deadline)
  | some deadline' =>
    rw [other] at head due
    rw [Option.all_some, decide_eq_true_eq] at due
    exact (WithBot.coe_le_coe.mp head).trans due

theorem selectsCandidate_iff {db : Database} {now : ℤ} {event : Event} : selectsCandidate db now event = true ↔
    event.occurredAt ≤ now ∧ isTelegramAlert event = true ∧ DueRow now (db.deliveries.lookup event.id) := by
  simp only [selectsCandidate, Bool.and_eq_true, decide_eq_true_eq, candidatePolicy_eq_isTelegramAlert, DueRow, and_assoc]

theorem deliveryDue_mono {row : Option EventDelivery} {time now : ℤ} (later : time ≤ now)
    (due : deliveryDue row time = true) : deliveryDue row now = true := by
  rw [deliveryDue] at due ⊢
  cases deadline : row.bind (·.nextAttemptAt) with
  | none => rfl
  | some deadline' =>
    rw [deadline, Option.all_some, decide_eq_true_eq] at due
    rw [Option.all_some, decide_eq_true_eq]
    exact due.trans later

/-- A batch holds the waiting candidates that no cycle has examined, or it is full of them. -/
theorem card_batch {time now : ℤ} {due : Finset ℕ} {db : Database} {examined : List ℕ} {finished : ℕ}
    (later : time ≤ now) (ids : (db.events.map (·.id)).Nodup)
    (alerts : ∀ event ∈ db.events, isTelegramAlert event = true → event.occurredAt ≤ time)
    (waiting : ∀ id ∈ due, id ∉ examined →
      (∃ event ∈ db.events, event.id = id ∧ isTelegramAlert event = true) ∧ DueRow time (db.deliveries.lookup id))
    (rest : ∀ event ∈ db.events, isTelegramAlert event = true → (event.id ∈ due → event.id ∈ examined) →
      NotDueRow time (db.deliveries.lookup event.id))
    (reached : min due.card (maxCandidatesPerCycle * finished) ≤ (due.filter (· ∈ examined)).card) :
    min due.card (maxCandidatesPerCycle * (finished + 1)) ≤
      (due.filter fun id => id ∈ examined ∨ id ∈ (loadCandidates db now).map (·.id)).card := by
  by_cases all : ∀ id ∈ due, id ∈ examined ∨ id ∈ (loadCandidates db now).map (·.id)
  · rw [Finset.filter_true_of_mem all]
    exact Nat.min_le_left _ _
  · push Not at all
    obtain ⟨id, member, unseen, unloaded⟩ := all
    obtain ⟨⟨event, stored, rfl, alert⟩, open_, dueThen⟩ := waiting id member unseen
    have selected : selectsCandidate db now event = true :=
      selectsCandidate_iff.mpr ⟨(alerts event stored alert).trans later, alert, open_, deliveryDue_mono later dueThen⟩
    rcases mem_loadCandidates_or stored selected with loaded | ⟨full, first⟩
    · exact absurd (List.mem_map_of_mem loaded) unloaded
    · -- every member of the full batch comes before the event, so it waits as well
      have batch : ∀ other ∈ loadCandidates db now, other.id ∈ due ∧ other.id ∉ examined := by
        intro other loaded
        obtain ⟨stored', selected'⟩ := mem_loadCandidates loaded
        obtain ⟨-, alert', open', -⟩ := selectsCandidate_iff.mp selected'
        by_contra known
        have rests := rest other stored' alert' fun inside => by_contra fun missing => known ⟨inside, missing⟩
        rcases rests with closed | ⟨deadline, scheduled, after⟩
        · rw [open'] at closed
          cases closed
        · exact absurd (deadline_le_of_candidateKey (first other loaded) scheduled dueThen) (not_le.mpr after)
      have distinct : ((loadCandidates db now).map (·.id)).Nodup := by
        have selected : ((db.events.filter (selectsCandidate db now)).map (·.id)).Nodup :=
          (List.filter_sublist.map _).nodup ids
        have sorted := ((List.perm_insertionSort (fun first second => candidateKey db first ≤ candidateKey db second)
          (db.events.filter (selectsCandidate db now))).map (·.id)).nodup_iff.mpr selected
        exact ((List.take_sublist _ _).map _).nodup sorted
      have count : ((loadCandidates db now).map (·.id)).toFinset.card = maxCandidatesPerCycle := by
        rw [List.toFinset_card_of_nodup distinct, List.length_map, full]
      have apart : Disjoint (due.filter (· ∈ examined)) ((loadCandidates db now).map (·.id)).toFinset := by
        rw [Finset.disjoint_left]
        intro id inside batched
        obtain ⟨other, loaded, rfl⟩ := List.mem_map.mp (List.mem_toFinset.mp batched)
        exact (batch other loaded).2 (Finset.mem_filter.mp inside).2
      have within : due.filter (· ∈ examined) ∪ ((loadCandidates db now).map (·.id)).toFinset ⊆
          due.filter fun id => id ∈ examined ∨ id ∈ (loadCandidates db now).map (·.id) := by
        intro id inside
        rw [Finset.mem_filter]
        rcases Finset.mem_union.mp inside with seen | batched
        · exact ⟨(Finset.mem_filter.mp seen).1, .inl (Finset.mem_filter.mp seen).2⟩
        · have loaded := List.mem_toFinset.mp batched
          obtain ⟨other, otherLoaded, rfl⟩ := List.mem_map.mp loaded
          exact ⟨(batch other otherLoaded).1, .inr loaded⟩
      have grown := Finset.card_le_card within
      rw [Finset.card_union_of_disjoint apart, count] at grown
      rw [Nat.mul_add, Nat.mul_one]
      omega

namespace Covered

variable {time : ℤ} {due : Finset ℕ} {view later : CycleView} {event : Event} {todo : List Event} {table : DeliveryTable}

/-- The row of an examined event is not that of a waiting one. -/
theorem waiting_elsewhere (covered : Covered time due view) (elsewhere : SameElsewhere view.table table event.id)
    (seen : event.id ∈ view.examined) : ∀ id ∈ due, id ∉ view.examined →
      (∃ event ∈ view.events, event.id = id ∧ isTelegramAlert event = true) ∧ DueRow time (table.lookup id) := by
  intro id member unseen
  obtain ⟨known, waits⟩ := covered.waiting id member unseen
  have different : id ≠ event.id := by
    rintro rfl
    exact unseen seen
  exact ⟨known, (elsewhere id different).symm ▸ waits⟩

theorem start (covered : Covered time due view) {db : Database} {now : ℤ} (idle : view.place = .idle)
    (later : view.startedAt ≤ now) (table : db.deliveries = view.table) (events : db.events = view.events) :
    Covered time due { view with
      table := (repairDeadlines db now).deliveries
      place := .visiting (loadCandidates (repairDeadlines db now) now)
      startedAt := now
      loaded := (loadCandidates (repairDeadlines db now) now).map (·.id) } := by
  have reached : time ≤ now := covered.started.trans later
  have waiting : ∀ id ∈ due, id ∉ view.examined →
      (∃ event ∈ view.events, event.id = id ∧ isTelegramAlert event = true) ∧
        DueRow time ((repairDeadlines db now).deliveries.lookup id) := by
    intro id member unseen
    obtain ⟨known, waits⟩ := covered.waiting id member unseen
    exact ⟨known, dueRow_repair reached (table.symm ▸ waits)⟩
  have rest : ∀ event ∈ view.events, isTelegramAlert event = true → (event.id ∈ due → event.id ∈ view.examined) →
      NotDueRow time ((repairDeadlines db now).deliveries.lookup event.id) := by
    intro event stored alert known
    rcases covered.rest event stored alert known with current | waits
    · rw [idle] at current
      cases current
    · exact notDueRow_repair reached (table.symm ▸ waits)
  refine ⟨covered.ids, covered.alerts, waiting, fun event stored alert known => .inr (rest event stored alert known), ?_,
    reached, covered.finished, fun _ => ?_⟩
  · rintro id ⟨⟩
  · have same : (repairDeadlines db now).events = view.events := events
    rw [← same] at waiting rest
    exact card_batch reached (same ▸ covered.ids) (same ▸ covered.alerts) waiting rest covered.finished

theorem visit (covered : Covered time due view) (place : view.place = .visiting (event :: todo))
    (elsewhere : SameElsewhere view.table table event.id) :
    Covered time due { view with table := table, place := .busy event todo, examined := event.id :: view.examined } where
  ids := covered.ids
  alerts := covered.alerts
  waiting id member unseen := by
    obtain ⟨different, older⟩ := not_or.mp fun either => unseen (List.mem_cons.mpr either)
    obtain ⟨known, waits⟩ := covered.waiting id member older
    exact ⟨known, (elsewhere id different).symm ▸ waits⟩
  rest other stored alert known := by
    by_cases same : other.id = event.id
    · exact .inl (congrArg some same.symm)
    · have older : other.id ∈ due → other.id ∈ view.examined :=
        fun member => (List.mem_cons.mp (known member)).resolve_left same
      rcases covered.rest other stored alert older with current | waits
      · rw [place] at current
        cases current
      · exact .inr ((elsewhere other.id same).symm ▸ waits)
  visited := by
    rintro id ⟨⟩
    exact List.mem_cons_self
  started := covered.started
  finished := by
    refine covered.finished.trans (Finset.card_le_card ?_)
    intro id inside
    obtain ⟨member, seen⟩ := Finset.mem_filter.mp inside
    exact Finset.mem_filter.mpr ⟨member, List.mem_cons_of_mem _ seen⟩
  batch _ := by
    have loaded := covered.batch (by rw [place]; rintro ⟨⟩)
    rw [place] at loaded
    refine loaded.trans (Finset.card_le_card ?_)
    intro id inside
    obtain ⟨member, reached⟩ := Finset.mem_filter.mp inside
    refine Finset.mem_filter.mpr ⟨member, ?_⟩
    rcases reached with seen | waits
    · exact .inl (List.mem_cons_of_mem _ seen)
    · rcases List.mem_cons.mp waits with rfl | behind
      · exact .inl List.mem_cons_self
      · exact .inr behind

theorem seen (covered : Covered time due view) (place : view.place = .busy event todo) : event.id ∈ view.examined :=
  covered.visited event.id (by rw [place]; rfl)

theorem work (covered : Covered time due view) (place : view.place = .busy event todo)
    (elsewhere : SameElsewhere view.table table event.id) : Covered time due { view with table := table } where
  ids := covered.ids
  alerts := covered.alerts
  waiting := covered.waiting_elsewhere elsewhere (covered.seen place)
  rest other stored alert known := by
    by_cases same : other.id = event.id
    · left
      rw [place]
      exact congrArg some same.symm
    · exact (covered.rest other stored alert known).imp_right fun waits => (elsewhere other.id same).symm ▸ waits
  visited := covered.visited
  started := covered.started
  finished := covered.finished
  batch := covered.batch

theorem settle (covered : Covered time due view) (place : view.place = .busy event todo)
    (elsewhere : SameElsewhere view.table table event.id) (rested : Rested view.startedAt table event.id) :
    Covered time due { view with table := table, place := .visiting todo } where
  ids := covered.ids
  alerts := covered.alerts
  waiting := covered.waiting_elsewhere elsewhere (covered.seen place)
  rest other stored alert known := by
    right
    by_cases same : other.id = event.id
    · rw [same]
      exact notDue_of_rested rested covered.started
    · rcases covered.rest other stored alert known with current | waits
      · rw [place] at current
        exact absurd (Option.some.inj current).symm same
      · exact (elsewhere other.id same).symm ▸ waits
  visited := by rintro id ⟨⟩
  started := covered.started
  finished := covered.finished
  batch _ := by
    have loaded := covered.batch (by rw [place]; rintro ⟨⟩)
    rw [place] at loaded
    exact loaded

theorem finish (covered : Covered time due view) (place : view.place = .visiting []) :
    Covered time due { view with place := .idle, finished := view.finished + 1 } where
  ids := covered.ids
  alerts := covered.alerts
  waiting := covered.waiting
  rest other stored alert known := by
    rcases covered.rest other stored alert known with current | waits
    · rw [place] at current
      cases current
    · exact .inr waits
  visited := by rintro id ⟨⟩
  started := covered.started
  finished := by
    have loaded := covered.batch (by rw [place]; rintro ⟨⟩)
    rw [place] at loaded
    refine loaded.trans (Finset.card_le_card ?_)
    intro id inside
    obtain ⟨member, reached⟩ := Finset.mem_filter.mp inside
    exact Finset.mem_filter.mpr ⟨member, reached.resolve_right List.not_mem_nil⟩
  batch running := absurd rfl running

theorem others (covered : Covered time due view) {events : List Event}
    (kept : ∀ event ∈ view.events, ∃ notifiedAt, { event with notifiedAt := notifiedAt } ∈ events)
    (ids : (events.map (·.id)).Nodup) (fresh : NoNewAlerts view.events events) :
    Covered time due { view with events := events } where
  ids := ids
  alerts event stored alert := by
    obtain ⟨old, before, -, occurred, policy⟩ := fresh event stored alert
    exact occurred ▸ covered.alerts old before policy
  waiting id member unseen := by
    obtain ⟨⟨event, stored, same, alert⟩, waits⟩ := covered.waiting id member unseen
    obtain ⟨notifiedAt, still⟩ := kept event stored
    exact ⟨⟨_, still, same, alert⟩, waits⟩
  rest event stored alert known := by
    obtain ⟨old, before, same, -, policy⟩ := fresh event stored alert
    rw [← same] at known ⊢
    exact covered.rest old before policy known
  visited := covered.visited
  started := covered.started
  finished := covered.finished
  batch := covered.batch

theorem move (covered : Covered time due view) (move : CycleMove view later)
    (fresh : NoNewAlerts view.events later.events) : Covered time due later := by
  cases move with
  | still => exact covered
  | start db now idle later table events => exact covered.start idle later table events
  | visit event todo table place elsewhere => exact covered.visit place elsewhere
  | work event todo table place elsewhere => exact covered.work place elsewhere
  | settle event todo table place elsewhere rested => exact covered.settle place elsewhere rested
  | finish place => exact covered.finish place
  | others events kept ids => exact covered.others kept ids fresh

end Covered

/-- The events that a cycle at the given time would select, were the batch unbounded. -/
def dueCandidates (db : Database) (now : ℤ) : Finset ℕ :=
  ((db.events.filter (selectsCandidate db now)).map (·.id)).toFinset

theorem mem_dueCandidates {db : Database} {now : ℤ} {id : ℕ} :
    id ∈ dueCandidates db now ↔ ∃ event ∈ db.events, event.id = id ∧ selectsCandidate db now event = true := by
  simp only [dueCandidates, List.mem_toFinset, List.mem_map, List.mem_filter]
  constructor
  · rintro ⟨event, ⟨stored, selected⟩, same⟩
    exact ⟨event, stored, same, selected⟩
  · rintro ⟨event, stored, same, selected⟩
    exact ⟨event, ⟨stored, selected⟩, same⟩

theorem covered_initial {db : Database} {clock : ℤ} (ids : (db.events.map (·.id)).Nodup)
    (alerts : ∀ event ∈ db.events, isTelegramAlert event = true → event.occurredAt ≤ clock) :
    Covered clock (dueCandidates db clock) (CycleWatch.initial db clock).view where
  ids := ids
  alerts := alerts
  waiting id member _ := by
    obtain ⟨event, stored, rfl, selected⟩ := mem_dueCandidates.mp member
    obtain ⟨-, alert, due⟩ := selectsCandidate_iff.mp selected
    exact ⟨⟨event, stored, rfl, alert⟩, due⟩
  rest event stored alert known := by
    right
    have unselected : selectsCandidate db clock event ≠ true :=
      fun selected => absurd (known (mem_dueCandidates.mpr ⟨event, stored, rfl, selected⟩)) List.not_mem_nil
    rw [Ne, selectsCandidate_iff] at unselected
    have notDue : ¬ DueRow clock (db.deliveries.lookup event.id) :=
      fun due => unselected ⟨alerts event stored alert, alert, due⟩
    by_cases closed : deliveryOpen (db.deliveries.lookup event.id) = false
    · exact .inl closed
    · right
      have waits : deliveryDue (db.deliveries.lookup event.id) clock ≠ true :=
        fun past => notDue ⟨Bool.not_eq_false _ ▸ closed, past⟩
      rw [deliveryDue] at waits
      cases deadline : (db.deliveries.lookup event.id).bind (·.nextAttemptAt) with
      | none => exact absurd (by rw [deadline]; rfl) waits
      | some deadline' =>
        rw [deadline, Option.all_some, Ne, decide_eq_true_eq] at waits
        exact ⟨deadline', deadline, not_le.mp waits⟩
  visited := by rintro id ⟨⟩
  started := le_rfl
  finished := by
    rw [CycleWatch.view, CycleWatch.initial, Nat.mul_zero, Nat.min_zero]
    exact Nat.zero_le _
  batch running := absurd rfl running

/-! ## Runs -/

/-- The delivery still waits: no row, or one that a cycle put back, sends or failed to send. -/
def DeliveryPending (row : Option EventDelivery) : Prop :=
  ∀ delivery ∈ row, delivery.status = .sending ∨ delivery.status = .retry ∨ delivery.status = .failed

/-- An alert that an earlier version dropped during maintenance. -/
def SkippedForMaintenance (row : Option EventDelivery) : Prop :=
  ∃ delivery ∈ row, delivery.status = .skipped ∧ delivery.detail = some "maintenance"

/-- No deadline of the delivery is still to come. -/
def DeliveryWaitsUntil (row : Option EventDelivery) (now : ℤ) : Prop :=
  ∀ delivery ∈ row, ∀ deadline ∈ delivery.nextAttemptAt, deadline ≤ now

theorem deliveryOpen_iff {row : Option EventDelivery} :
    deliveryOpen row = true ↔ DeliveryPending row ∨ SkippedForMaintenance row := by
  cases row with
  | none => simp [deliveryOpen, DeliveryPending]
  | some delivery =>
    simp only [deliveryOpen, DeliveryPending, SkippedForMaintenance, Option.mem_def, Option.some.injEq, forall_eq',
      exists_eq_left', Bool.or_eq_true, Bool.and_eq_true, beq_iff_eq, or_assoc]

theorem deliveryDue_iff {row : Option EventDelivery} {now : ℤ} :
    deliveryDue row now = true ↔ DeliveryWaitsUntil row now := by
  cases row with
  | none => simp [deliveryDue, DeliveryWaitsUntil]
  | some delivery =>
    cases deadline : delivery.nextAttemptAt <;> simp [deliveryDue, DeliveryWaitsUntil, deadline]

section Runs

variable [PyText] (db : Database) (clock : ℤ) {labels : List TelegramStep}

theorem resting_run (guarded : Guarded CycleWatch.step CycleWatch.Regular (.initial db clock) labels) :
    (labels.foldl CycleWatch.step (.initial db clock)).view.Resting := by
  have reached := @Guarded.invariant _ _ _ _ (fun watch : CycleWatch => watch.view.Resting ∧ watch.InTime) _ _ guarded
    ⟨fun id member => absurd member List.not_mem_nil, trivial⟩ (by
      rintro watch label ⟨resting, inTime⟩ regular
      obtain ⟨move, later⟩ := watch.move label regular inTime
      exact ⟨resting.move move, later⟩)
  exact reached.1

theorem CycleWatch.step_run (watch : CycleWatch) (label : TelegramStep) :
    (watch.step label).run = watch.run.step label := by
  unfold CycleWatch.step
  split
  · rfl
  · rfl
  · rfl
  · rfl

/-- Only another service changes the events. -/
theorem TelegramRun.events_step (run : TelegramRun) (label : TelegramStep) (own : ∀ db, label ≠ .others db) :
    (run.step label).db.events = run.db.events := by
  cases label with
  | others db => exact absurd rfl (own db)
  | decide =>
    unfold TelegramRun.step
    cases run.phase with
    | deciding cycle event todo =>
      dsimp only [TelegramRun.decideCandidate]
      split
      · rfl
      · rfl
      · rfl
      · rfl
    | idle | visiting | sending | accepted => rfl
  | visit now =>
    unfold TelegramRun.step
    cases run.phase with
    | visiting cycle todo =>
      cases todo with
      | nil => rfl
      | cons event todo =>
        dsimp only
        split
        · rfl
        · rfl
    | idle | deciding | sending | accepted => rfl
  | start settings now | accept | refuse reason hint failedAt | raised | commitSent | finish =>
    unfold TelegramRun.step
    dsimp only
    split
    · rfl
    · rfl
  | crash => rfl

theorem noNewAlerts_step {watch : CycleWatch} {label : TelegramStep} (fixed : watch.Fixed label) :
    NoNewAlerts watch.view.events (watch.step label).view.events := by
  rw [CycleWatch.view, CycleWatch.view, CycleWatch.step_run]
  by_cases own : ∀ db, label ≠ .others db
  · rw [watch.run.events_step label own]
    exact fun event stored alert => ⟨event, stored, rfl, rfl, alert⟩
  · push Not at own
    obtain ⟨db, rfl⟩ := own
    exact fixed.2

theorem covered_run (ids : (db.events.map (·.id)).Nodup)
    (alerts : ∀ event ∈ db.events, isTelegramAlert event = true → event.occurredAt ≤ clock)
    (guarded : Guarded CycleWatch.step CycleWatch.Fixed (.initial db clock) labels) :
    Covered clock (dueCandidates db clock) (labels.foldl CycleWatch.step (.initial db clock)).view := by
  have reached := @Guarded.invariant _ _ _ _
    (fun watch : CycleWatch => Covered clock (dueCandidates db clock) watch.view ∧ watch.InTime) _ _ guarded
    ⟨covered_initial ids alerts, trivial⟩ (by
      rintro watch label ⟨covered, inTime⟩ fixed
      obtain ⟨move, later⟩ := watch.move label fixed.1 inTime
      exact ⟨covered.move move (noNewAlerts_step fixed), later⟩)
  exact reached.1

end Runs

/-- A time at which the default delays fit. -/
def servedAt : ℤ := 739000 * Timestamp.day

/-- A confirmation of almost four thousand years. -/
def endlessConfirmation : Settings :=
  { Settings.default with telegramWarningConfirmMinutes := 2000000000, confirmPositive := by decide }

/-- A temperature warning and, behind it, an outage. -/
def warnedOutage : Database :=
  (Database.empty.insertEvent servedAt .warning .temperature (.physicalDrive 252 0) "Temperature warning" none none
    none).insertEvent servedAt .critical .system .controller "Monitoring stale" none
      (some [("monitoring_outage", .bool true)]) none

end MegaraidDashboard.Services
