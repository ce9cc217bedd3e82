import Mathlib.Data.List.Sort
import MegaraidDashboard.Machine.Run
import MegaraidDashboard.Model.Services.TelegramCycle

/-! # Delivery with crashes

Every row of the delivery table belongs to an alert that some cycle saw. A row says `sent` only behind an
acceptance of the transport, an open row is selected again, and within a cycle only the newest send can
have failed. The invariant is kept by every transaction, so it holds wherever a crash falls.
-/

namespace MegaraidDashboard.Services

open Db Machine

/-- What other services leave alone: they add events, and set `notified_at`. -/
structure KeepsDeliveries (db other : Database) : Prop where
  deliveries : other.deliveries = db.deliveries
  cooldown : other.telegramNotBefore = db.telegramNotBefore
  events : ∀ event ∈ db.events, ∃ notifiedAt, { event with notifiedAt := notifiedAt } ∈ other.events
  ids : (other.events.map (·.id)).Nodup

/-- The steps of the other services keep to their tables. -/
def TelegramRun.Admits (run : TelegramRun) : TelegramStep → Prop
  | .others db => KeepsDeliveries run.db db
  | _ => True

/-- The details under which a delivery is given up. -/
def skipDetails : List String := ["obsolete", "duplicate", "not_confirmed"]

/-- An alert of the policy that had occurred by then. -/
def AlertBy (events : List Event) (time : ℤ) (id : ℕ) : Prop :=
  ∃ event ∈ events, event.id = id ∧ candidatePolicy event = true ∧ event.occurredAt ≤ time

/-- The delivery contract of a state. -/
structure TelegramRun.DeliveryContract [PyText] (run : TelegramRun) : Prop where
  sent : ∀ id row, run.db.deliveries.lookup id = some row → row.status = .sent → id ∈ run.acceptedIds
  /-- From some time on every cycle selects the event, or it was skipped. -/
  open_ : ∀ id row, run.db.deliveries.lookup id = some row → id ∉ run.acceptedIds →
    (∃ event ∈ run.db.events, event.id = id ∧
      ∃ due, ∀ now, due ≤ now → selectsCandidate run.db now event = true) ∨
    row.status = .skipped ∧ ∃ detail ∈ skipDetails, row.detail = some detail
  attempts : ∀ label, run.Admits label → ∀ id row, run.db.deliveries.lookup id = some row →
    ∃ later, (run.step label).db.deliveries.lookup id = some later ∧ row.attempts ≤ later.attempts
  /-- An interrupted send is a candidate of every later cycle, and is loaded unless the batch is full of
  candidates that come before it. -/
  interrupted : ∀ id row, run.db.deliveries.lookup id = some row → row.status = .sending →
    ∃ event ∈ run.db.events, event.id = id ∧
      ∃ record ∈ run.cycles, (∃ send ∈ record.sends, send.eventId = id) ∧ ∀ now, record.startedAt ≤ now →
        let repaired := repairDeadlines run.db now
        selectsCandidate repaired now event = true ∧
          (event ∈ loadCandidates repaired now ∨
            (loadCandidates repaired now).length = maxCandidatesPerCycle ∧
            ∀ other ∈ loadCandidates repaired now, candidateKey repaired other ≤ candidateKey repaired event)
  sends : ∀ record ∈ run.cycles, record.sends.length ≤ maxSendsPerCycle ∧
    ∀ send ∈ record.sends.tail, send.outcome = .accepted

/-! ## Rows -/

/-- What a row of the delivery table says about the past. -/
structure RowTracked (events : List Event) (acceptedIds : List ℕ) (cycles : List CycleRecord) (id : ℕ)
    (row : EventDelivery) : Prop where
  sent : row.status = .sent → id ∈ acceptedIds
  skipped : row.status = .skipped → ∃ detail ∈ skipDetails, row.detail = some detail
  known : ∃ time, AlertBy events time id
  sending : row.status = .sending → row.nextAttemptAt = none ∧
    ∃ record ∈ cycles, (∃ send ∈ record.sends, send.eventId = id) ∧ AlertBy events record.startedAt id

def RowsTracked (db : Database) (acceptedIds : List ℕ) (cycles : List CycleRecord) : Prop :=
  ∀ id row, db.deliveries.lookup id = some row → RowTracked db.events acceptedIds cycles id row

/-- The later list has every cycle of the earlier one, with its sends. -/
def CyclesGrow (cycles later : List CycleRecord) : Prop :=
  ∀ record ∈ cycles, ∃ grown ∈ later, grown.startedAt = record.startedAt ∧
    ∀ send ∈ record.sends, ∃ same ∈ grown.sends, same.eventId = send.eventId

theorem cyclesGrow_refl (cycles : List CycleRecord) : CyclesGrow cycles cycles :=
  fun record member => ⟨record, member, rfl, fun send sent => ⟨send, sent, rfl⟩⟩

theorem cyclesGrow_cons (record : CycleRecord) (cycles : List CycleRecord) : CyclesGrow cycles (record :: cycles) :=
  fun old member => ⟨old, List.mem_cons_of_mem _ member, rfl, fun send sent => ⟨send, sent, rfl⟩⟩

theorem cyclesGrow_openSend (send : SendRecord) (cycles : List CycleRecord) :
    CyclesGrow cycles (openSend send cycles) := by
  cases cycles with
  | nil => exact cyclesGrow_refl []
  | cons record older =>
    intro old member
    rcases List.mem_cons.mp member with rfl | earlier
    · exact ⟨_, List.mem_cons_self, rfl, fun other sent => ⟨other, List.mem_cons_of_mem _ sent, rfl⟩⟩
    · exact ⟨old, List.mem_cons_of_mem _ earlier, rfl, fun other sent => ⟨other, sent, rfl⟩⟩

theorem cyclesGrow_closeSend (outcome : SendOutcome) (cycles : List CycleRecord) :
    CyclesGrow cycles (closeSend outcome cycles) := by
  cases cycles with
  | nil => exact cyclesGrow_refl []
  | cons record older =>
    cases sends : record.sends with
    | nil =>
      simp only [closeSend, sends]
      exact cyclesGrow_refl _
    | cons send earlier =>
      simp only [closeSend, sends]
      intro old member
      rcases List.mem_cons.mp member with rfl | before
      · refine ⟨_, List.mem_cons_self, rfl, ?_⟩
        intro other sent
        rw [sends] at sent
        rcases List.mem_cons.mp sent with rfl | rest
        · exact ⟨_, List.mem_cons_self, rfl⟩
        · exact ⟨other, List.mem_cons_of_mem _ rest, rfl⟩
      · exact ⟨old, List.mem_cons_of_mem _ before, rfl, fun other sent => ⟨other, sent, rfl⟩⟩

section Rows

variable {db other : Database} {acceptedIds : List ℕ} {cycles later : List CycleRecord} {id : ℕ}
  {row : EventDelivery}

theorem AlertBy.kept {time : ℤ} (alert : AlertBy db.events time id) (kept : KeepsDeliveries db other) :
    AlertBy other.events time id := by
  obtain ⟨event, member, same, policy, occurred⟩ := alert
  obtain ⟨notifiedAt, still⟩ := kept.events event member
  exact ⟨_, still, same, policy, occurred⟩

theorem RowTracked.grow {events : List Event} (tracked : RowTracked events acceptedIds cycles id row)
    (grow : CyclesGrow cycles later) {more : List ℕ} (subset : ∀ seen ∈ acceptedIds, seen ∈ more) :
    RowTracked events more later id row where
  sent done := subset id (tracked.sent done)
  skipped := tracked.skipped
  known := tracked.known
  sending interrupted := by
    obtain ⟨free, record, member, ⟨send, sent, same⟩, alert⟩ := tracked.sending interrupted
    obtain ⟨grown, found, started, sends⟩ := grow record member
    obtain ⟨still, again, agree⟩ := sends send sent
    exact ⟨free, grown, found, ⟨still, again, agree.trans same⟩, started ▸ alert⟩

theorem RowsTracked.grow (tracked : RowsTracked db acceptedIds cycles) (grow : CyclesGrow cycles later)
    {more : List ℕ} (subset : ∀ seen ∈ acceptedIds, seen ∈ more) : RowsTracked db more later :=
  fun id row found => (tracked id row found).grow grow subset

theorem RowsTracked.write (tracked : RowsTracked db acceptedIds cycles)
    (new : RowTracked db.events acceptedIds cycles id row) :
    RowsTracked (writeDelivery db id row) acceptedIds cycles := by
  intro key stored found
  by_cases same : key = id
  · subst same
    rw [writeDelivery, AList.lookup_insert, Option.some.injEq] at found
    exact found ▸ new
  · rw [writeDelivery, AList.lookup_insert_ne same] at found
    exact tracked key stored found

theorem RowsTracked.kept (tracked : RowsTracked db acceptedIds cycles) (kept : KeepsDeliveries db other) :
    RowsTracked other acceptedIds cycles := by
  intro id row found
  rw [kept.deliveries] at found
  have old := tracked id row found
  refine ⟨old.sent, old.skipped, ?_, ?_⟩
  · obtain ⟨time, alert⟩ := old.known
    exact ⟨time, alert.kept kept⟩
  · intro interrupted
    obtain ⟨free, record, member, sent, alert⟩ := old.sending interrupted
    exact ⟨free, record, member, sent, alert.kept kept⟩

/-- The repair moves deadlines of retries only. -/
theorem RowsTracked.repair (tracked : RowsTracked db acceptedIds cycles) (now : ℤ) :
    RowsTracked (repairDeadlines db now) acceptedIds cycles := by
  intro id row found
  rw [repairDeadlines, AList.lookup_mapRows, Option.map_eq_some_iff] at found
  obtain ⟨old, stored, rfl⟩ := found
  have before := tracked id old stored
  split
  · next retry =>
    have status : old.status = .retry := by
      simp only [attemptedRetry, Bool.and_eq_true, beq_iff_eq] at retry
      exact retry.1
    exact ⟨before.sent, before.skipped, before.known, fun interrupted => by cases status.symm.trans interrupted⟩
  · exact before

end Rows

/-! ## The running cycle -/

/-- The events that the running cycle still has to deal with. -/
def CyclePhase.pending : CyclePhase → List Event
  | .idle => []
  | .visiting _ todo => todo
  | .deciding _ event todo | .sending _ event todo | .accepted _ event todo => event :: todo

def AllAccepted (sends : List SendRecord) : Prop := ∀ send ∈ sends, send.outcome = .accepted

/-- How the sends of the running cycle stand. -/
def CycleRecord.InPhase (record : CycleRecord) : CyclePhase → Prop
  | .idle => True
  | .visiting cycle _ | .deciding cycle _ _ =>
    record.sends.length + cycle.sendsLeft = maxSendsPerCycle ∧
      (cycle.channelBlocked = false → AllAccepted record.sends)
  | .sending cycle event _ =>
    record.sends.length + cycle.sendsLeft = maxSendsPerCycle ∧
      ∃ send earlier, record.sends = send :: earlier ∧ send.eventId = event.id ∧ AllAccepted earlier
  | .accepted cycle _ _ => record.sends.length + cycle.sendsLeft = maxSendsPerCycle ∧ AllAccepted record.sends

/-- At most five sends, and only the newest can have failed. -/
def CycleRecord.Bounded (record : CycleRecord) : Prop :=
  record.sends.length ≤ maxSendsPerCycle ∧ AllAccepted record.sends.tail

/-- The newest cycle is the running one. -/
structure CycleRecord.Running (events : List Event) (phase : CyclePhase) (record : CycleRecord) : Prop where
  stands : record.InPhase phase
  alerts : ∀ event ∈ phase.pending, AlertBy events record.startedAt event.id

structure TelegramRun.Tracked (run : TelegramRun) : Prop where
  rows : RowsTracked run.db run.acceptedIds run.cycles
  running : run.phase = .idle ∨ ∃ record older, run.cycles = record :: older ∧
    record.Running run.db.events run.phase
  accepted : ∀ cycle event todo, run.phase = .accepted cycle event todo → event.id ∈ run.acceptedIds
  bounded : ∀ record ∈ run.cycles, record.Bounded

theorem CycleRecord.bounded_of_length {record : CycleRecord} {left : ℕ}
    (length : record.sends.length + left = maxSendsPerCycle) (accepted : AllAccepted record.sends.tail) :
    record.Bounded := by
  refine ⟨?_, accepted⟩
  omega

theorem AllAccepted.tail {sends : List SendRecord} (accepted : AllAccepted sends) : AllAccepted sends.tail :=
  fun send member => accepted send (List.mem_of_mem_tail member)

theorem TelegramRun.tracked_initial {db : Database} (fresh : db.deliveries = ∅) (clock : ℤ) :
    (TelegramRun.initial db clock).Tracked where
  rows := by
    intro id row found
    simp only [TelegramRun.initial, fresh, AList.lookup_empty] at found
    cases found
  running := .inl rfl
  accepted := by
    intro cycle event todo phase
    cases phase
  bounded := by
    intro record member
    cases member

theorem mem_loadCandidates {db : Database} {now : ℤ} {event : Event} (member : event ∈ loadCandidates db now) :
    event ∈ db.events ∧ selectsCandidate db now event = true := by
  have sorted := List.mem_of_mem_take member
  rw [List.mem_insertionSort, List.mem_filter] at sorted
  exact sorted

theorem selectsCandidate_alert {db : Database} {now : ℤ} {event : Event} (member : event ∈ db.events)
    (selected : selectsCandidate db now event = true) : AlertBy db.events now event.id := by
  simp only [selectsCandidate, Bool.and_eq_true, decide_eq_true_eq] at selected
  exact ⟨event, member, rfl, selected.1.1.2, selected.1.1.1⟩

section Decision

variable [PyText]

/-- What one pass of the loop decides, and when. -/
inductive Decides (settings : Settings) (db : Database) (event : Event) (blocked : Bool) (now : ℤ) : Decision → Prop
  | unconfirmed (nextAttemptAt : ℤ) (later : now < nextAttemptAt) :
      Decides settings db event blocked now (.defer "awaiting_confirmation" nextAttemptAt)
  | awaiting (detail : String) (waits : deliveryRelevance settings db event now = .awaiting detail) :
      Decides settings db event blocked now (.defer detail (now + Timestamp.minute))
  | deferred : Decides settings db event blocked now (.defer "channel_deferred" (now + Timestamp.minute))
  | skip (detail : String) (listed : detail ∈ skipDetails) : Decides settings db event blocked now (.skip detail)
  | send (free : blocked = false) : Decides settings db event blocked now .send
  | raised (overflow : now < confirmDelay settings ∨ Timestamp.datetimeMax < event.occurredAt + confirmDelay settings ∨
      deliveryRelevance settings db event now = .raised) : Decides settings db event blocked now .raised

variable {settings : Settings} {db : Database} {event : Event} {blocked : Bool} {now : ℤ} {decision : Decision}

theorem decides_relevance (decided : relevanceDecision settings db event blocked now = decision) :
    Decides settings db event blocked now decision := by
  subst decided
  unfold relevanceDecision
  split
  · next raised => exact .raised (.inr (.inr raised))
  · exact .skip _ (by decide)
  · next detail waits => exact .awaiting detail waits
  · split_ifs with _ busy
    · exact .skip _ (by decide)
    · exact .deferred
    · exact .send (Bool.eq_false_iff.mpr busy)

theorem decides_warning (decided : warningDecision settings db event blocked now = decision) :
    Decides settings db event blocked now decision := by
  subst decided
  unfold warningDecision
  split
  · next underflow => exact .raised (.inl (Timestamp.minus_eq_none.mp underflow))
  · next confirmed since =>
    obtain ⟨-, rfl⟩ := Timestamp.minus_eq_some.mp since
    split_ifs with early ended
    · split
      · next overflow => exact .raised (.inr (.inl (Timestamp.plus_eq_none.mp overflow)))
      · next nextAttemptAt after =>
        obtain ⟨-, rfl⟩ := Timestamp.plus_eq_some.mp after
        exact .unconfirmed _ (by omega)
    · exact .skip _ (by decide)
    · exact decides_relevance rfl

theorem decides_candidate (decided : candidateDecision settings db event blocked now = decision) :
    Decides settings db event blocked now decision := by
  rw [candidateDecision] at decided
  split_ifs at decided
  · exact decides_warning decided
  · exact decides_relevance decided

/-- A candidate is given up for one of three reasons. -/
theorem candidateDecision_skip {detail : String}
    (decided : candidateDecision settings db event blocked now = .skip detail) : detail ∈ skipDetails := by
  cases decides_candidate decided with
  | skip _ listed => exact listed

/-- A send is decided only while the channel is free. -/
theorem candidateDecision_send (decided : candidateDecision settings db event blocked now = .send) : blocked = false := by
  cases decides_candidate decided with
  | send free => exact free

end Decision

section NewRows

variable {events : List Event} {acceptedIds : List ℕ} {cycles : List CycleRecord} {id : ℕ} {time : ℤ}
  (alert : AlertBy events time id) {row : EventDelivery}

include alert

theorem rowTracked_of_retry (status : row.status = .retry) : RowTracked events acceptedIds cycles id row where
  sent done := by cases status.symm.trans done
  skipped done := by cases status.symm.trans done
  known := ⟨time, alert⟩
  sending interrupted := by cases status.symm.trans interrupted

theorem rowTracked_of_skipped {detail : String} (status : row.status = .skipped) (allowed : detail ∈ skipDetails)
    (noted : row.detail = some detail) : RowTracked events acceptedIds cycles id row where
  sent done := by cases status.symm.trans done
  skipped _ := ⟨detail, allowed, noted⟩
  known := ⟨time, alert⟩
  sending interrupted := by cases status.symm.trans interrupted

theorem rowTracked_of_sent (status : row.status = .sent) (accepted : id ∈ acceptedIds) :
    RowTracked events acceptedIds cycles id row where
  sent _ := accepted
  skipped done := by cases status.symm.trans done
  known := ⟨time, alert⟩
  sending interrupted := by cases status.symm.trans interrupted

end NewRows

section Operations

variable {db : Database} {acceptedIds : List ℕ} {cycles : List CycleRecord} {event : Event} {time : ℤ}
  (tracked : RowsTracked db acceptedIds cycles) (alert : AlertBy db.events time event.id)

include tracked alert

theorem RowsTracked.requeue : RowsTracked (requeueDelivery db event) acceptedIds cycles :=
  tracked.write (rowTracked_of_retry alert rfl)

theorem RowsTracked.defer (detail : String) (nextAttemptAt : ℤ) :
    RowsTracked (deferDelivery db event detail nextAttemptAt) acceptedIds cycles :=
  tracked.write (rowTracked_of_retry alert rfl)

theorem RowsTracked.skip {detail : String} (allowed : detail ∈ skipDetails) :
    RowsTracked (skipDelivery db event detail) acceptedIds cycles :=
  tracked.write (rowTracked_of_skipped alert rfl allowed rfl)

theorem RowsTracked.recordSent (accepted : event.id ∈ acceptedIds) (deliveredAt : ℤ) :
    RowsTracked (Services.recordSent db event deliveredAt) acceptedIds cycles :=
  tracked.write (rowTracked_of_sent alert rfl accepted)

theorem RowsTracked.recordSendFailure (reason : String) (retryAfter : Option ℤ) (failedAt : ℤ) :
    RowsTracked (Services.recordSendFailure db event reason retryAfter failedAt) acceptedIds cycles := by
  have failed : RowTracked db.events acceptedIds cycles event.id
      { setStatus (deliveryOf db event.id) .retry (some reason) with
        nextAttemptAt := some
          (failedAt + retryDelay (deliveryOf db event.id).attempts retryAfter * Timestamp.second) } :=
    rowTracked_of_retry alert rfl
  exact tracked.write failed

omit alert in
/-- A claim notes a send of the newest cycle. -/
theorem RowsTracked.claim {record : CycleRecord} {older : List CycleRecord} (current : cycles = record :: older)
    (alert : AlertBy db.events record.startedAt event.id) {send : SendRecord} (same : send.eventId = event.id)
    (now : ℤ) : RowsTracked (Services.claim db event now) acceptedIds (openSend send cycles) := by
  apply RowsTracked.write (tracked.grow (cyclesGrow_openSend send cycles) fun _ seen => seen)
  refine ⟨nofun, nofun, ⟨_, alert⟩, fun _ => ⟨rfl, { record with sends := send :: record.sends }, ?_, ?_, alert⟩⟩
  · rw [current]
    exact List.mem_cons_self
  · exact ⟨send, List.mem_cons_self, same⟩

end Operations

theorem closeSend_eq {record : CycleRecord} {older : List CycleRecord} {send : SendRecord}
    {earlier : List SendRecord} (sends : record.sends = send :: earlier) (outcome : SendOutcome) :
    closeSend outcome (record :: older) =
      { record with sends := { send with outcome := outcome } :: earlier } :: older := by
  simp only [closeSend, sends]

namespace TelegramRun.Tracked

variable [PyText] {run : TelegramRun} (tracked : run.Tracked)

include tracked

omit [PyText] in
/-- The record of the running cycle. -/
theorem current {phase : CyclePhase} (now : run.phase = phase) (busy : phase ≠ .idle) :
    ∃ record older, run.cycles = record :: older ∧ record.Running run.db.events phase := by
  rcases tracked.running with idle | ⟨record, older, cycles, running⟩
  · exact absurd (now.symm.trans idle) busy
  · exact ⟨record, older, cycles, now ▸ running⟩

theorem start (settings : Settings) (now : ℤ) : (run.step (.start settings now)).Tracked := by
  unfold TelegramRun.step
  cases phase : run.phase with
  | idle =>
    refine ⟨(tracked.rows.repair now).grow (cyclesGrow_cons _ _) fun _ seen => seen,
      .inr ⟨_, _, rfl, ⟨⟨rfl, ?_⟩, ?_⟩⟩, ?_, ?_⟩
    · intro _ send member
      cases member
    · intro event member
      obtain ⟨stored, selected⟩ := mem_loadCandidates member
      exact selectsCandidate_alert stored selected
    · intro cycle event todo other
      cases other
    · intro record member
      rcases List.mem_cons.mp member with rfl | old
      · refine ⟨Nat.zero_le _, ?_⟩
        intro send sent
        cases sent
      · exact tracked.bounded record old
  | visiting | deciding | sending | accepted => exact tracked

theorem visit (now : ℤ) : (run.step (.visit now)).Tracked := by
  unfold TelegramRun.step
  cases phase : run.phase with
  | visiting cycle todo =>
    cases todo with
    | nil => exact tracked
    | cons event todo =>
      obtain ⟨record, older, cycles, running⟩ := tracked.current phase nofun
      have alert := running.alerts event List.mem_cons_self
      refine ⟨?_, .inr ⟨record, older, cycles, ?_⟩, ?_, tracked.bounded⟩
      · dsimp only
        split
        · exact tracked.rows.requeue alert
        · exact tracked.rows
      · dsimp only
        split
        · exact ⟨running.stands, running.alerts⟩
        · exact ⟨running.stands, running.alerts⟩
      · intro cycle event todo other
        cases other
  | idle | deciding | sending | accepted => exact tracked

theorem decide : (run.step .decide).Tracked := by
  unfold TelegramRun.step
  cases phase : run.phase with
  | deciding cycle event todo =>
    obtain ⟨record, older, cycles, running⟩ := tracked.current phase nofun
    have alert := running.alerts event List.mem_cons_self
    have rest : ∀ other ∈ todo, AlertBy run.db.events record.startedAt other.id := fun other member =>
      running.alerts other (List.mem_cons_of_mem _ member)
    dsimp only [TelegramRun.decideCandidate]
    cases decision : candidateDecision cycle.settings run.db event
        (cycle.channelBlocked || Decidable.decide (cycle.sendsLeft = 0)) cycle.nowUtc with
    | defer detail nextAttemptAt =>
      exact ⟨tracked.rows.defer alert detail nextAttemptAt, .inr ⟨record, older, cycles, running.stands, rest⟩,
        fun _ _ _ other => (nomatch other), tracked.bounded⟩
    | skip detail =>
      exact ⟨tracked.rows.skip alert (candidateDecision_skip decision),
        .inr ⟨record, older, cycles, running.stands, rest⟩, fun _ _ _ other => (nomatch other), tracked.bounded⟩
    | raised => exact ⟨tracked.rows, .inl rfl, fun _ _ _ other => (nomatch other), tracked.bounded⟩
    | send =>
      have free := candidateDecision_send decision
      rw [Bool.or_eq_false_iff, decide_eq_false_iff_not] at free
      obtain ⟨length, accepted⟩ := running.stands
      have clean := accepted free.1
      let send : SendRecord := ⟨event.id, (deliveryOf run.db event.id).attempts + 1, cycle.nowUtc, .pending⟩
      let opened : CycleRecord := { record with sends := send :: record.sends }
      have openedCycles : openSend send run.cycles = opened :: older := by rw [cycles]; rfl
      have count : opened.sends.length + (cycle.sendsLeft - 1) = maxSendsPerCycle := by
        simp only [opened, List.length_cons]
        omega
      refine ⟨tracked.rows.claim cycles alert rfl cycle.nowUtc,
        .inr ⟨opened, older, openedCycles, ⟨count, send, record.sends, rfl, rfl, clean⟩, running.alerts⟩,
        fun _ _ _ other => (nomatch other), ?_⟩
      intro other member
      change other ∈ openSend send run.cycles at member
      rw [openedCycles] at member
      rcases List.mem_cons.mp member with rfl | old
      · exact CycleRecord.bounded_of_length count clean
      · exact tracked.bounded other (cycles ▸ List.mem_cons_of_mem _ old)
  | idle | visiting | sending | accepted => exact tracked

omit [PyText] in
/-- The outcome of the newest send is noted. -/
theorem closed {record : CycleRecord} {older : List CycleRecord} {send : SendRecord} {earlier : List SendRecord}
    {left : ℕ} (cycles : run.cycles = record :: older) (sends : record.sends = send :: earlier)
    (length : record.sends.length + left = maxSendsPerCycle) (clean : AllAccepted earlier)
    (outcome : SendOutcome) : ∀ other ∈ closeSend outcome run.cycles, other.Bounded := by
  intro other member
  rw [cycles, closeSend_eq sends] at member
  rcases List.mem_cons.mp member with rfl | old
  · have count : earlier.length + 1 + left = maxSendsPerCycle := by
      rw [← length, sends, List.length_cons]
    exact CycleRecord.bounded_of_length count clean
  · exact tracked.bounded other (cycles ▸ List.mem_cons_of_mem _ old)

theorem accept : (run.step .accept).Tracked := by
  unfold TelegramRun.step
  cases phase : run.phase with
  | sending cycle event todo =>
    obtain ⟨record, older, cycles, ⟨length, send, earlier, sends, same, clean⟩, alerts⟩ :=
      tracked.current phase nofun
    refine ⟨tracked.rows.grow (cyclesGrow_closeSend _ _) fun _ seen => List.mem_cons_of_mem _ seen,
      .inr ⟨{ record with sends := { send with outcome := .accepted } :: earlier }, older, ?_, ⟨?_, ?_⟩, alerts⟩,
      ?_, tracked.closed cycles sends length clean _⟩
    · dsimp only
      rw [cycles, closeSend_eq sends]
    · rw [← length, sends]
      rfl
    · intro other member
      rcases List.mem_cons.mp member with rfl | old
      · rfl
      · exact clean other old
    · rintro _ _ _ ⟨⟩
      exact List.mem_cons_self
  | idle | visiting | deciding | accepted => exact tracked

theorem refuse (reason : String) (hint : Option ℤ) (failedAt : ℤ) :
    (run.step (.refuse reason hint failedAt)).Tracked := by
  unfold TelegramRun.step
  cases phase : run.phase with
  | sending cycle event todo =>
    obtain ⟨record, older, cycles, ⟨length, send, earlier, sends, same, clean⟩, alerts⟩ :=
      tracked.current phase nofun
    have rows := tracked.rows.recordSendFailure (alerts event List.mem_cons_self) reason (boundedRetryAfter hint)
      failedAt
    refine ⟨rows.grow (cyclesGrow_closeSend _ _) fun _ seen => seen,
      .inr ⟨{ record with sends := { send with outcome := .refused } :: earlier }, older, ?_, ⟨?_, nofun⟩, ?_⟩,
      fun _ _ _ other => (nomatch other), tracked.closed cycles sends length clean _⟩
    · dsimp only
      rw [cycles, closeSend_eq sends]
    · rw [← length, sends]
      rfl
    · exact fun other member => alerts other (List.mem_cons_of_mem _ member)
  | idle | visiting | deciding | accepted => exact tracked

theorem raised : (run.step .raised).Tracked := by
  unfold TelegramRun.step
  cases phase : run.phase with
  | sending cycle event todo =>
    obtain ⟨record, older, cycles, ⟨length, send, earlier, sends, same, clean⟩, alerts⟩ :=
      tracked.current phase nofun
    exact ⟨tracked.rows.grow (cyclesGrow_closeSend _ _) fun _ seen => seen, .inl rfl,
      fun _ _ _ other => (nomatch other), tracked.closed cycles sends length clean _⟩
  | idle | visiting | deciding | accepted => exact tracked

theorem commitSent : (run.step .commitSent).Tracked := by
  unfold TelegramRun.step
  cases phase : run.phase with
  | accepted cycle event todo =>
    obtain ⟨record, older, cycles, ⟨length, clean⟩, alerts⟩ := tracked.current phase nofun
    have alert := alerts event List.mem_cons_self
    exact ⟨tracked.rows.recordSent alert (tracked.accepted cycle event todo phase) cycle.nowUtc,
      .inr ⟨record, older, cycles, ⟨length, fun _ => clean⟩, fun other member =>
        alerts other (List.mem_cons_of_mem _ member)⟩, fun _ _ _ other => (nomatch other), tracked.bounded⟩
  | idle | visiting | deciding | sending => exact tracked

omit [PyText] in
theorem ended : ({ run with phase := .idle } : TelegramRun).Tracked :=
  ⟨tracked.rows, .inl rfl, fun _ _ _ other => (nomatch other), tracked.bounded⟩

theorem others {db : Database} (kept : KeepsDeliveries run.db db) : (run.step (.others db)).Tracked := by
  refine ⟨tracked.rows.kept kept, ?_, tracked.accepted, tracked.bounded⟩
  rcases tracked.running with idle | ⟨record, older, cycles, running⟩
  · exact .inl idle
  · exact .inr ⟨record, older, cycles, running.stands, fun event member => (running.alerts event member).kept kept⟩

theorem step (label : TelegramStep) (admitted : run.Admits label) : (run.step label).Tracked := by
  cases label with
  | start settings now => exact tracked.start settings now
  | visit now => exact tracked.visit now
  | decide => exact tracked.decide
  | accept => exact tracked.accept
  | refuse reason hint failedAt => exact tracked.refuse reason hint failedAt
  | raised => exact tracked.raised
  | commitSent => exact tracked.commitSent
  | finish =>
    unfold TelegramRun.step
    cases phase : run.phase with
    | visiting cycle todo =>
      cases todo with
      | nil => exact tracked.ended
      | cons event rest => exact tracked
    | idle | deciding | sending | accepted => exact tracked
  | crash => exact tracked.ended
  | others db => exact tracked.others admitted

end TelegramRun.Tracked

/-! ## Attempts -/

/-- No row is deleted and no attempt is forgotten. -/
def AttemptsKept (db later : Database) : Prop :=
  ∀ id row, db.deliveries.lookup id = some row →
    ∃ after, later.deliveries.lookup id = some after ∧ row.attempts ≤ after.attempts

theorem attemptsKept_refl (db : Database) : AttemptsKept db db := fun _ row found => ⟨row, found, le_rfl⟩

theorem attemptsKept_write {db : Database} {id : ℕ} {row : EventDelivery}
    (grown : (deliveryOf db id).attempts ≤ row.attempts) : AttemptsKept db (writeDelivery db id row) := by
  intro key stored found
  by_cases same : key = id
  · subst same
    refine ⟨row, AList.lookup_insert _, ?_⟩
    rwa [deliveryOf, found] at grown
  · exact ⟨stored, (AList.lookup_insert_ne same).trans found, le_rfl⟩

theorem attemptsKept_repair (db : Database) (now : ℤ) : AttemptsKept db (repairDeadlines db now) := by
  intro id row found
  refine ⟨_, (AList.lookup_mapRows _ _ _).trans (congrArg _ found), ?_⟩
  dsimp only
  split
  · exact le_rfl
  · exact le_rfl

theorem attemptsKept_recordSendFailure (db : Database) (event : Event) (reason : String) (retryAfter : Option ℤ)
    (failedAt : ℤ) : AttemptsKept db (recordSendFailure db event reason retryAfter failedAt) := by
  intro id row found
  exact @attemptsKept_write db event.id
    { setStatus (deliveryOf db event.id) .retry (some reason) with
      nextAttemptAt := some (failedAt + retryDelay (deliveryOf db event.id).attempts retryAfter * Timestamp.second) }
    le_rfl id row found

variable [PyText]

theorem attemptsKept_step (run : TelegramRun) (label : TelegramStep) (admitted : run.Admits label) :
    AttemptsKept run.db (run.step label).db := by
  have still := attemptsKept_refl run.db
  cases label with
  | start settings now =>
    unfold TelegramRun.step
    cases run.phase with
    | idle => exact attemptsKept_repair run.db now
    | visiting | deciding | sending | accepted => exact still
  | visit now =>
    unfold TelegramRun.step
    cases run.phase with
    | visiting cycle todo =>
      cases todo with
      | nil => exact still
      | cons event rest =>
        dsimp only
        split
        · exact attemptsKept_write le_rfl
        · exact still
    | idle | deciding | sending | accepted => exact still
  | decide =>
    unfold TelegramRun.step
    cases run.phase with
    | deciding cycle event todo =>
      dsimp only [TelegramRun.decideCandidate]
      split
      · exact attemptsKept_write le_rfl
      · exact attemptsKept_write le_rfl
      · exact still
      · exact attemptsKept_write (Nat.le_succ _)
    | idle | visiting | sending | accepted => exact still
  | refuse reason hint failedAt =>
    unfold TelegramRun.step
    cases run.phase with
    | sending cycle event todo => exact attemptsKept_recordSendFailure run.db event reason _ failedAt
    | idle | visiting | deciding | accepted => exact still
  | commitSent =>
    unfold TelegramRun.step
    cases run.phase with
    | accepted cycle event todo => exact attemptsKept_write le_rfl
    | idle | visiting | deciding | sending => exact still
  | accept | raised | finish =>
    unfold TelegramRun.step
    dsimp only
    split
    · exact still
    · exact still
  | crash => exact still
  | others db =>
    intro id row found
    exact ⟨row, (congrArg (·.lookup id) admitted.deliveries).trans found, le_rfl⟩

/-! ## The contract -/

omit [PyText] in
theorem selectsCandidate_of_open {db : Database} {event : Event} {row : EventDelivery} {now : ℤ}
    (policy : candidatePolicy event = true) (occurred : event.occurredAt ≤ now)
    (found : db.deliveries.lookup event.id = some row) (free : deliveryOpen (some row) = true)
    (due : ∀ deadline ∈ row.nextAttemptAt, deadline ≤ now) : selectsCandidate db now event = true := by
  have past : deliveryDue (some row) now = true := by
    cases deadline : row.nextAttemptAt with
    | none => simp only [deliveryDue, Option.bind_some, deadline, Option.all_none]
    | some time =>
      simp only [deliveryDue, Option.bind_some, deadline, Option.all_some, decide_eq_true_eq]
      exact due time deadline
  simp only [selectsCandidate, found, policy, free, past, decide_eq_true occurred, Bool.and_self]

omit [PyText] in
/-- The row of an event that the transport never accepted is selected again, or was skipped. -/
theorem RowTracked.stays_open {db : Database} {acceptedIds : List ℕ} {cycles : List CycleRecord} {id : ℕ}
    {row : EventDelivery} (tracked : RowTracked db.events acceptedIds cycles id row)
    (found : db.deliveries.lookup id = some row) (never : id ∉ acceptedIds) :
    (∃ event ∈ db.events, event.id = id ∧ ∃ due, ∀ now, due ≤ now → selectsCandidate db now event = true) ∨
    row.status = .skipped ∧ ∃ detail ∈ skipDetails, row.detail = some detail := by
  by_cases free : deliveryOpen (some row) = true
  · obtain ⟨time, event, member, rfl, policy, -⟩ := tracked.known
    refine .inl ⟨event, member, rfl, max event.occurredAt (row.nextAttemptAt.getD event.occurredAt), ?_⟩
    intro now late
    apply selectsCandidate_of_open policy ((le_max_left _ _).trans late) found free
    intro deadline scheduled
    rw [Option.mem_def] at scheduled
    rw [scheduled] at late
    exact (le_max_right _ _).trans late
  · cases status : row.status with
    | sent => exact absurd (tracked.sent status) never
    | skipped => exact .inr ⟨rfl, tracked.skipped status⟩
    | sending | retry | failed => exact absurd (by simp [deliveryOpen, status]) free

omit [PyText] in
theorem mem_loadCandidates_or {db : Database} {now : ℤ} {event : Event} (member : event ∈ db.events)
    (selected : selectsCandidate db now event = true) : event ∈ loadCandidates db now ∨
      (loadCandidates db now).length = maxCandidatesPerCycle ∧
        ∀ other ∈ loadCandidates db now, candidateKey db other ≤ candidateKey db event := by
  let before : Event → Event → Prop := fun first second => candidateKey db first ≤ candidateKey db second
  have total : Std.Total before := ⟨fun _ _ => le_total _ _⟩
  have transitive : IsTrans Event before := ⟨fun _ _ _ => le_trans⟩
  apply List.mem_take_or_of_pairwise (List.pairwise_insertionSort before _)
  rw [List.mem_insertionSort, List.mem_filter]
  exact ⟨member, selected⟩

theorem TelegramRun.Tracked.contract {run : TelegramRun} (tracked : run.Tracked) : run.DeliveryContract where
  sent id row found done := (tracked.rows id row found).sent done
  open_ id row found never := (tracked.rows id row found).stays_open found never
  attempts := attemptsKept_step run
  interrupted id row found interrupted := by
    obtain ⟨free, record, member, sent, event, stored, rfl, policy, occurred⟩ :=
      (tracked.rows id row found).sending interrupted
    refine ⟨event, stored, rfl, record, member, sent, ?_⟩
    intro now later
    have kept : (repairDeadlines run.db now).deliveries.lookup event.id = some row := by
      have other : attemptedRetry row = false := by simp [attemptedRetry, interrupted]
      rw [repairDeadlines, AList.lookup_mapRows, found, Option.map_some, other]
      rfl
    have selected : selectsCandidate (repairDeadlines run.db now) now event = true := by
      apply selectsCandidate_of_open policy (occurred.trans later) kept
      · simp [deliveryOpen, interrupted]
      · intro deadline scheduled
        rw [free] at scheduled
        cases scheduled
    exact ⟨selected, mem_loadCandidates_or stored selected⟩
  sends := tracked.bounded

/-- Whatever the transport answers and wherever the process crashes, the delivery contract holds. -/
theorem telegram_delivery_contract (db : Database) (clock : ℤ) (fresh : db.deliveries = ∅)
    (labels : List TelegramStep)
    (guarded : Guarded TelegramRun.step TelegramRun.Admits (.initial db clock) labels) :
    (labels.foldl TelegramRun.step (.initial db clock)).DeliveryContract := by
  have tracked := guarded.invariant (TelegramRun.tracked_initial fresh clock)
    fun run label kept admitted => kept.step label admitted
  exact tracked.contract

omit [PyText] in
/-- An outage that a crash leaves claimed. -/
theorem telegram_delivery_contract_interrupted :
    let _ := PyText.ascii
    let db := Database.empty.insertEvent 0 .critical .system .controller "Monitoring stale" none
      (some [("monitoring_outage", .bool true)]) none
    let labels : List TelegramStep := [.start .default 0, .visit 0, .decide, .crash]
    Guarded TelegramRun.step TelegramRun.Admits (.initial db 0) labels ∧
      (labels.foldl TelegramRun.step (.initial db 0)).DeliveryContract := by
  let _ := PyText.ascii
  have guarded : Guarded TelegramRun.step TelegramRun.Admits
      (.initial (Database.empty.insertEvent 0 .critical .system .controller "Monitoring stale" none
        (some [("monitoring_outage", .bool true)]) none) 0)
      [.start .default 0, .visit 0, .decide, .crash] := ⟨trivial, trivial, trivial, trivial, trivial⟩
  exact ⟨guarded, telegram_delivery_contract _ _ rfl _ guarded⟩

end MegaraidDashboard.Services
