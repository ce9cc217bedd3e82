import Mathlib.Data.Int.ConditionallyCompleteOrder
import Mathlib.Data.Prod.Lex
import Mathlib.Order.ConditionallyCompleteLattice.Basic
import Mathlib.Order.WithBot
import MegaraidDashboard.Model.Services.TelegramNotifier

/-! # The Telegram delivery cycle

One label of the machine is one transaction or one answer of the transport, so that a crash can stand
between any two of them and other services can write in between. The lists of cycles, of failures and of
accepted messages are kept for the statements; no step reads them.
-/

namespace MegaraidDashboard.Services

open Db

/-- `_MAX_CANDIDATES_PER_CYCLE` -/
def maxCandidatesPerCycle : ℕ := 100

/-- `_MAX_SENDS_PER_CYCLE` -/
def maxSendsPerCycle : ℕ := 5

/-- `_RETRY_BASE_SECONDS` -/
def retryBaseSeconds : ℤ := 60

/-- `_RETRY_MAX_SECONDS` -/
def retryMaxSeconds : ℤ := 3600

/-- `TELEGRAM_RETRY_AFTER_MAX_SECONDS` -/
def telegramRetryAfterMaxSeconds : ℤ := 3600

/-- `TelegramSendError.retry_after_seconds` of the hint given to the constructor. -/
def boundedRetryAfter : Option ℤ → Option ℤ
  | none => none
  | some seconds => some (if 0 < seconds then min seconds telegramRetryAfterMaxSeconds else 60)

/-- The `backoff` of `_record_send_failure`, in seconds. -/
def retryBackoff (attempts : ℕ) : ℤ := min (retryBaseSeconds * 2 ^ min (attempts - 1) 6) retryMaxSeconds

/-- The `delay` of `_record_send_failure`, in seconds. -/
def retryDelay (attempts : ℕ) (retryAfter : Option ℤ) : ℤ := max (retryBackoff attempts) (retryAfter.getD 0)

/-! ## Candidates -/

/-- `_IMMEDIATE_CRITICAL_CATEGORIES` -/
def immediateCriticalCategories : List Category :=
  [.vdState, .pdState, .mediaErrors, .predictiveFailures, .smartAlert, .cvState, .temperature,
    .controllerTemperature, .system]

/-- `_CONFIRMED_WARNING_CATEGORIES` -/
def confirmedWarningCategories : List Category := [.temperature, .controllerTemperature]

/-- `is_telegram_alert` -/
def isTelegramAlert (event : Event) : Bool :=
  match event.severity with
  | .critical =>
    if event.category = .system then isMonitoringOutage event
    else decide (event.category ∈ immediateCriticalCategories)
  | .warning => decide (event.category ∈ confirmedWarningCategories)
  | .info => false

/-- The policy in the statement of `_load_candidates`. -/
def candidatePolicy (event : Event) : Bool :=
  (event.severity == .critical && decide (event.category ∈ immediateCriticalCategories) &&
    (event.category != .system ||
      event.subject == .controller && afterGet event "monitoring_outage" == some (.bool true))) ||
  (event.severity == .warning && decide (event.category ∈ confirmedWarningCategories))

/-- The query repeats the policy of the module. -/
theorem candidatePolicy_eq_isTelegramAlert (event : Event) : candidatePolicy event = isTelegramAlert event := by
  unfold candidatePolicy isTelegramAlert
  cases severity : event.severity with
  | critical =>
    by_cases system : event.category = .system
    · simp [system, isMonitoringOutage, immediateCriticalCategories]
    · have other : (event.category != .system) = true := bne_iff_ne.mpr system
      have quiet : (Severity.critical == Severity.warning) = false := rfl
      simp [system, other, quiet]
  | warning =>
    have loud : (Severity.warning == Severity.critical) = false := rfl
    simp [loud]
  | info =>
    have first : (Severity.info == Severity.critical) = false := rfl
    have second : (Severity.info == Severity.warning) = false := rfl
    simp [first, second]

/-- A row that the statement still considers; an event without a row is considered. -/
def deliveryOpen : Option EventDelivery → Bool
  | none => true
  | some row => row.status == .sending || row.status == .retry || row.status == .failed ||
    row.status == .skipped && row.detail == some "maintenance"

/-- No deadline, or one that has come. -/
def deliveryDue (row : Option EventDelivery) (now : ℤ) : Bool :=
  (row.bind (·.nextAttemptAt)).all fun deadline => decide (deadline ≤ now)

/-- The condition of the statement of `_load_candidates`. -/
def selectsCandidate (db : Database) (now : ℤ) (event : Event) : Bool :=
  decide (event.occurredAt ≤ now) && candidatePolicy event &&
    deliveryOpen (db.deliveries.lookup event.id) && deliveryDue (db.deliveries.lookup event.id) now

/-- `ORDER BY next_attempt_at, occurred_at, id`; a missing deadline comes first. -/
def candidateKey (db : Database) (event : Event) : WithBot ℤ ×ₗ ℤ ×ₗ ℕ :=
  let deadline : WithBot ℤ := (db.deliveries.lookup event.id).bind (·.nextAttemptAt)
  toLex (deadline, toLex (event.occurredAt, event.id))

/-- `_load_candidates` -/
def loadCandidates (db : Database) (now : ℤ) : List Event :=
  ((db.events.filter (selectsCandidate db now)).insertionSort fun first second =>
    candidateKey db first ≤ candidateKey db second).take maxCandidatesPerCycle

/-! ## Transactions -/

/-- `_set_status` -/
def setStatus (row : EventDelivery) (status : DeliveryStatus) (detail : Option String) : EventDelivery :=
  { row with status := status, detail := detail, nextAttemptAt := none }

/-- `EventDelivery(event_id=event.id, channel=TELEGRAM_CHANNEL, attempts=0)`; the status is set next. -/
def newDelivery : EventDelivery where
  status := .retry
  attempts := 0
  lastAttemptAt := none
  nextAttemptAt := none
  deliveredAt := none
  detail := none

/-- The row of an event, or a new one. -/
def deliveryOf (db : Database) (id : ℕ) : EventDelivery := (db.deliveries.lookup id).getD newDelivery

def writeDelivery (db : Database) (id : ℕ) (row : EventDelivery) : Database :=
  { db with deliveries := db.deliveries.insert id row }

/-- `_claim` -/
def claim (db : Database) (event : Event) (now : ℤ) : Database :=
  let row := setStatus (deliveryOf db event.id) .sending none
  writeDelivery db event.id { row with attempts := row.attempts + 1, lastAttemptAt := some now }

/-- `_defer` -/
def deferDelivery (db : Database) (event : Event) (detail : String) (nextAttemptAt : ℤ) : Database :=
  writeDelivery db event.id
    { setStatus (deliveryOf db event.id) .retry (some detail) with nextAttemptAt := some nextAttemptAt }

/-- `_skip` -/
def skipDelivery (db : Database) (event : Event) (detail : String) : Database :=
  writeDelivery db event.id (setStatus (deliveryOf db event.id) .skipped (some detail))

/-- A claim that survived a crash is put back. -/
def requeueDelivery (db : Database) (event : Event) : Database :=
  writeDelivery db event.id
    (setStatus (deliveryOf db event.id) .retry (some "outcome unknown: interrupted or failed send"))

/-- The transaction after the transport accepted the message. -/
def recordSent (db : Database) (event : Event) (deliveredAt : ℤ) : Database :=
  writeDelivery db event.id
    { setStatus (deliveryOf db event.id) .sent none with deliveredAt := some deliveredAt }

/-- `_record_send_failure`, and the embargo of the channel in the same transaction. -/
def recordSendFailure (db : Database) (event : Event) (reason : String) (retryAfter : Option ℤ)
    (failedAt : ℤ) : Database :=
  let row := deliveryOf db event.id
  { writeDelivery db event.id { setStatus row .retry (some reason) with
      nextAttemptAt := some (failedAt + retryDelay row.attempts retryAfter * Timestamp.second) } with
    telegramNotBefore := match retryAfter with
      | none => db.telegramNotBefore
      | some seconds => some (failedAt + seconds * Timestamp.second) }

/-- A deadline beyond the latest one is moved to it. -/
def clampDeadline (latest deadline : ℤ) : ℤ := if latest < deadline then latest else deadline

/-- The rows that the repair of a cycle looks at. -/
def attemptedRetry (row : EventDelivery) : Bool := row.status == .retry && decide (0 < row.attempts)

/-- `latest_retry` -/
def latestRetry (now : ℤ) : ℤ := now + telegramRetryAfterMaxSeconds * Timestamp.second

/-- The repair at the start of a cycle. -/
def repairDeadlines (db : Database) (now : ℤ) : Database :=
  { db with
    telegramNotBefore := db.telegramNotBefore.map (clampDeadline (latestRetry now))
    deliveries := db.deliveries.mapRows fun row =>
      if attemptedRetry row then { row with nextAttemptAt := row.nextAttemptAt.map (clampDeadline (latestRetry now)) }
      else row }

/-! ## The machine -/

/-- The local variables of a cycle. -/
structure TelegramCycle where
  settings : Settings
  startedAt : ℤ
  nowUtc : ℤ
  channelBlocked : Bool
  sendsLeft : ℕ

inductive CyclePhase where
  | idle
  /-- At the head of the loop. -/
  | visiting (cycle : TelegramCycle) (todo : List Event)
  /-- After the interrupted claim, if any, was put back. -/
  | deciding (cycle : TelegramCycle) (event : Event) (todo : List Event)
  /-- The claim is committed and the transport is at work. -/
  | sending (cycle : TelegramCycle) (event : Event) (todo : List Event)
  /-- The transport accepted the message and nothing is committed yet. -/
  | accepted (cycle : TelegramCycle) (event : Event) (todo : List Event)

inductive SendOutcome where
  | pending
  | accepted
  | refused
  | raised
deriving DecidableEq, Repr

structure SendRecord where
  eventId : ℕ
  attempt : ℕ
  sentAt : ℤ
  outcome : SendOutcome
deriving DecidableEq, Repr

/-- A cycle, with the cooldown that it found and its sends, the newest first. -/
structure CycleRecord where
  startedAt : ℤ
  cooldown : Option ℤ
  sends : List SendRecord
deriving DecidableEq, Repr

/-- A failed attempt with the hint of the provider as it came. -/
structure FailureRecord where
  eventId : ℕ
  attempt : ℕ
  failedAt : ℤ
  hint : Option ℤ
deriving DecidableEq, Repr

/-- The tables and the running cycle, with the latest reading of the clock and what happened so far. -/
structure TelegramRun where
  db : Database
  phase : CyclePhase
  clock : ℤ
  acceptedIds : List ℕ
  cycles : List CycleRecord
  failures : List FailureRecord

def TelegramRun.initial (db : Database) (clock : ℤ) : TelegramRun := ⟨db, .idle, clock, [], [], []⟩

inductive TelegramStep where
  /-- Up to the first commit; the transport and `confirm_delay` could be built. -/
  | start (settings : Settings) (now : ℤ)
  | visit (now : ℤ)
  | decide
  | accept
  /-- `TelegramSendError(reason, retry_after_seconds=hint)`, and the transaction that records it. -/
  | refuse (reason : String) (hint : Option ℤ) (failedAt : ℤ)
  /-- Any other exception of the transport ends the cycle. -/
  | raised
  | commitSent
  | finish
  | crash
  /-- Other services commit. -/
  | others (db : Database)

/-- Note the outcome of the newest send. -/
def closeSend (outcome : SendOutcome) : List CycleRecord → List CycleRecord
  | [] => []
  | cycle :: older => match cycle.sends with
    | [] => cycle :: older
    | send :: earlier => { cycle with sends := { send with outcome := outcome } :: earlier } :: older

/-- Note a new send of the newest cycle. -/
def openSend (send : SendRecord) : List CycleRecord → List CycleRecord
  | [] => []
  | cycle :: older => { cycle with sends := send :: cycle.sends } :: older

variable [PyText]

/-- The rest of one pass of the loop, after an interrupted claim was put back. -/
def TelegramRun.decideCandidate (run : TelegramRun) (cycle : TelegramCycle) (event : Event) (todo : List Event) :
    TelegramRun :=
  match candidateDecision cycle.settings run.db event (cycle.channelBlocked || decide (cycle.sendsLeft = 0))
      cycle.nowUtc with
  | .defer detail nextAttemptAt =>
    { run with db := deferDelivery run.db event detail nextAttemptAt, phase := .visiting cycle todo }
  | .skip detail => { run with db := skipDelivery run.db event detail, phase := .visiting cycle todo }
  | .raised => { run with phase := .idle }
  | .send =>
    { run with
      db := claim run.db event cycle.nowUtc
      phase := .sending { cycle with sendsLeft := cycle.sendsLeft - 1 } event todo
      cycles := openSend ⟨event.id, (deliveryOf run.db event.id).attempts + 1, cycle.nowUtc, .pending⟩ run.cycles }

/-- `run_telegram_cycle_async`, one transaction at a time; a label that the phase does not expect does nothing. -/
def TelegramRun.step (run : TelegramRun) : TelegramStep → TelegramRun
  | .start settings now => match run.phase with
    | .idle =>
      let db := repairDeadlines run.db now
      let blocked := db.telegramNotBefore.any fun cooldown => decide (now < cooldown)
      { run with
        db := db
        phase := .visiting ⟨settings, now, now, blocked, maxSendsPerCycle⟩ (loadCandidates db now)
        clock := max run.clock now
        cycles := ⟨now, run.db.telegramNotBefore, []⟩ :: run.cycles }
    | _ => run
  | .visit now => match run.phase with
    | .visiting cycle (event :: todo) =>
      let interrupted := (run.db.deliveries.lookup event.id).any fun row =>
        row.status == .sending || row.status == .failed
      { run with
        db := if interrupted then requeueDelivery run.db event else run.db
        phase := .deciding { cycle with nowUtc := now } event todo
        clock := max run.clock now }
    | _ => run
  | .decide => match run.phase with
    | .deciding cycle event todo => run.decideCandidate cycle event todo
    | _ => run
  | .accept => match run.phase with
    | .sending cycle event todo =>
      { run with
        phase := .accepted cycle event todo
        acceptedIds := event.id :: run.acceptedIds
        cycles := closeSend .accepted run.cycles }
    | _ => run
  | .refuse reason hint failedAt => match run.phase with
    | .sending cycle event todo =>
      { run with
        db := recordSendFailure run.db event reason (boundedRetryAfter hint) failedAt
        phase := .visiting { cycle with channelBlocked := true } todo
        clock := max run.clock failedAt
        cycles := closeSend .refused run.cycles
        failures := ⟨event.id, (deliveryOf run.db event.id).attempts, failedAt, hint⟩ :: run.failures }
    | _ => run
  | .raised => match run.phase with
    | .sending _ _ _ => { run with phase := .idle, cycles := closeSend .raised run.cycles }
    | _ => run
  | .commitSent => match run.phase with
    | .accepted cycle event todo =>
      { run with db := recordSent run.db event cycle.nowUtc, phase := .visiting cycle todo }
    | _ => run
  | .finish => match run.phase with
    | .visiting _ [] => { run with phase := .idle }
    | _ => run
  | .crash => { run with phase := .idle }
  | .others db => { run with db := db }

end MegaraidDashboard.Services
