import MegaraidDashboard.Model.Services.TelegramRelevance

/-! # Decisions of the Telegram cycle

What the cycle decides about one candidate, without the sending. `recoveryQueries` lists the incidents
whose recovery from a controller temperature the decision asks for, each with the time it is asked for.
-/

namespace MegaraidDashboard.Services

open Db

/-- `_REPEAT_SUPPRESS_WINDOW` -/
def repeatSuppressWindow : ℤ := 24 * Timestamp.hour

/-- `_warning_has_ended` -/
def warningHasEnded (db : Database) (event : Event) : Bool :=
  db.events.any fun other => other.category == event.category && other.subject == event.subject &&
    decide (event.id < other.id) && other.severity != .warning

/-- The rows that the statement of `_same_incident_sent_since` selects. -/
def sentSince (db : Database) (event : Event) (since : ℤ) (other : Event) : Bool :=
  ((db.deliveries.lookup other.id).any fun delivery =>
    delivery.status == .sent && delivery.deliveredAt.any fun deliveredAt => decide (since ≤ deliveredAt)) &&
  other.severity == event.severity && other.category == event.category && other.subject == event.subject &&
  other.id != event.id

variable [PyText]

/-- The earlier sent events that name the incident of this one. -/
def sameIncidents (db : Database) (event : Event) (since : ℤ) : List Event :=
  db.events.filter fun other => sentSince db event since other && incidentKey other == incidentKey event &&
    driveSerialAt db other == driveSerialAt db event

/-- `_same_incident_sent_since` -/
def sameIncidentSentSince (settings : Settings) (db : Database) (event : Event) (since : ℤ) : Bool :=
  (sameIncidents db event since).any fun other =>
    !incidentSuperseded settings db other event.occurredAt (some (event.id + 1))

inductive Decision where
  | defer (detail : String) (nextAttemptAt : ℤ)
  | skip (detail : String)
  | send
  /-- An `OverflowError` leaves the cycle. -/
  | raised
deriving DecidableEq, Repr

/-- `confirm_delay` -/
def confirmDelay (settings : Settings) : ℤ := settings.telegramWarningConfirmMinutes * Timestamp.minute

/-- The pass of the loop from the relevance on. -/
def relevanceDecision (settings : Settings) (db : Database) (event : Event) (blocked : Bool) (now : ℤ) : Decision :=
  match deliveryRelevance settings db event now with
  | .raised => .raised
  | .obsolete => .skip "obsolete"
  | .awaiting detail => .defer detail (now + Timestamp.minute)
  | .active =>
    if sameIncidentSentSince settings db event (now - repeatSuppressWindow) then .skip "duplicate"
    else if blocked then .defer "channel_deferred" (now + Timestamp.minute)
    else .send

/-- The pass of the loop for a warning. -/
def warningDecision (settings : Settings) (db : Database) (event : Event) (blocked : Bool) (now : ℤ) : Decision :=
  match Timestamp.minus now (confirmDelay settings) with
  | none => .raised
  | some confirmed =>
    if confirmed < event.occurredAt then
      match Timestamp.plus event.occurredAt (confirmDelay settings) with
      | none => .raised
      | some nextAttemptAt => .defer "awaiting_confirmation" nextAttemptAt
    else if warningHasEnded db event then .skip "not_confirmed"
    else relevanceDecision settings db event blocked now

/-- One pass of the loop of `run_telegram_cycle_async` up to the claim; `blocked` is
`channel_blocked or sends_left <= 0`. -/
def candidateDecision (settings : Settings) (db : Database) (event : Event) (blocked : Bool) (now : ℤ) :
    Decision :=
  if event.severity = .warning then warningDecision settings db event blocked now
  else relevanceDecision settings db event blocked now

/-- A later event ends the incident, whatever the controller temperature says. -/
def supersededByEvent (db : Database) (event : Event) (asOf : ℤ) (beforeId : Option ℕ) : Bool :=
  db.events.any fun other => other.category == event.category && other.subject == event.subject &&
    decide (event.id < other.id) && decide (other.occurredAt ≤ asOf) &&
    (beforeId.all fun beforeId => decide (other.id < beforeId)) && supersedes event other

/-- The relevance check gets past the snapshot. -/
def hasFreshData (settings : Settings) (db : Database) (now : ℤ) : Bool :=
  (snapshotAt db now).any fun snapshot =>
    ((Timestamp.minus now (freshness settings)).any fun oldest => decide (oldest ≤ snapshot.capturedAt)) &&
    !db.events.any fun event => event.category == .system &&
      summaryStartsWith event collectionFailedPrefix && decide (snapshot.capturedAt ≤ event.occurredAt) &&
      decide (event.occurredAt ≤ now)

/-- The recovery answers that a decision asks for: of the candidate now, for its relevance, and, when it
is relevant, of the sent events of its incident at the time it occurred. -/
def recoveryQueries (settings : Settings) (db : Database) (event : Event) (now : ℤ) : List (Event × ℤ) :=
  (if event.category != .system && hasFreshData settings db now && !supersededByEvent db event now none then
    [(event, now)] else []) ++
  if deliveryRelevance settings db event now = .active then
    ((sameIncidents db event (now - repeatSuppressWindow)).filter fun other =>
      !supersededByEvent db other event.occurredAt (some (event.id + 1))).map fun other =>
        (other, event.occurredAt)
  else []

end MegaraidDashboard.Services
